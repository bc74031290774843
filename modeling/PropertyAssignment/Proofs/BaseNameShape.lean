import Mathlib.Data.List.TakeWhile
import PropertyAssignment.Variable.BaseName

/-!
# The shape of base names

A base name is never empty and begins with a letter, because what is usable of a type name does. The
characters that no name has are dropped before the first character is put in lower case, so a base
name is made of name characters as far as the lower case is. This holds for every letter but one,
the capital i with a dot above: its lower case ends in a combining dot, which stays in the name.
-/

namespace PropertyAssignment

namespace Text

/-- Whether one of the ranges has all code points from the first to the last. -/
def spanned (ranges : List CodeRange) (first last : Nat) : Bool :=
  ranges.any fun range => Nat.ble range.1 first && Nat.ble last range.2

theorem covered_of_spanned {ranges : List CodeRange} {first last code : Nat}
    (inRange : spanned ranges first last = true) (notBefore : first ≤ code)
    (notBehind : code ≤ last) : covered ranges code = true := by
  obtain ⟨range, isRange, around⟩ := List.any_eq_true.mp inRange
  rw [Bool.and_eq_true, Nat.ble_eq, Nat.ble_eq] at around
  apply List.any_eq_true.mpr
  refine ⟨range, isRange, ?_⟩
  have atLeast : range.1 ≤ code := Nat.le_trans around.1 notBefore
  have atMost : code ≤ range.2 := Nat.le_trans notBehind around.2
  simp [atLeast, atMost]

/-- Whether the images of a run are alphabetic: they lie in one alphabetic range, or else each of
them is found by itself. -/
def CaseRun.hasAlphabeticImages (run : CaseRun) : Bool :=
  spanned alphabeticRanges run.image (run.image + (run.last - run.first)) ||
    (List.range ((run.last - run.first) / run.step + 1)).all fun k =>
      spanned alphabeticRanges (run.image + run.step * k) (run.image + run.step * k)

theorem hasAlphabeticImages_lowerRuns :
    (lowerRuns.all fun run => run.hasAlphabeticImages) = true := by
  decide +kernel

/-- No surrogate is in the table of the alphabetic characters, and nothing behind the last code
point. -/
theorem isValidChar_of_covered {code : Nat} (inTable : covered alphabeticRanges code = true) :
    code.isValidChar := by
  have valid : ∀ range ∈ alphabeticRanges,
      range.2 < 0xD800 ∨ 0xDFFF < range.1 ∧ range.2 < 0x110000 := by
    decide +kernel
  obtain ⟨range, isRange, around⟩ := List.any_eq_true.mp inTable
  rw [Bool.and_eq_true, decide_eq_true_eq, decide_eq_true_eq] at around
  rcases valid range isRange with below | ⟨above, below⟩
  · exact .inl (by omega)
  · exact .inr ⟨by omega, by omega⟩

theorem isAlphabetic_ofNat {code : Nat} (inTable : covered alphabeticRanges code = true) :
    isAlphabetic (Char.ofNat code) = true := by
  have sameCode : (Char.ofNat code).toNat = code := by
    rw [Char.ofNat, dif_pos (isValidChar_of_covered inTable)]
    rfl
  rw [isAlphabetic, sameCode]
  exact inTable

theorem CaseRun.covered_image {run : CaseRun} (alphabetic : run.hasAlphabeticImages = true)
    {code : Nat} (covers : run.covers code = true) :
    covered alphabeticRanges (run.image + (code - run.first)) = true := by
  simp only [CaseRun.covers, Bool.and_eq_true, decide_eq_true_eq, beq_iff_eq] at covers
  obtain ⟨⟨_, notBehind⟩, isStep⟩ := covers
  have within : code - run.first ≤ run.last - run.first := by omega
  rcases Bool.or_eq_true_iff.mp alphabetic with whole | each
  · exact covered_of_spanned whole (by omega) (by omega)
  · have isMultiple : run.step * ((code - run.first) / run.step) = code - run.first :=
      Nat.mul_div_cancel' (Nat.dvd_of_mod_eq_zero isStep)
    have place : (code - run.first) / run.step ∈
        List.range ((run.last - run.first) / run.step + 1) :=
      List.mem_range.mpr (Nat.lt_succ_of_le (Nat.div_le_div_right within))
    have found := List.all_eq_true.mp each _ place
    rw [isMultiple] at found
    exact covered_of_spanned found (Nat.le_refl _) (Nat.le_refl _)

/-- The lower case of a letter is a letter, with the one exception of `İ`. -/
theorem exists_lowerCase {c : Char} (alphabetic : isAlphabetic c = true) (notDotted : c ≠ 'İ') :
    ∃ image, lowerCase c = [image] ∧ isAlphabetic image = true := by
  have notExpanded : lowerExpansions.lookup c.toNat = none := by
    have other : (c.toNat == 0x0130) = false :=
      beq_false_of_ne fun same => notDotted (Char.toNat_inj.mp same)
    simp [lowerExpansions, List.lookup_cons, other]
  unfold lowerCase caseImage
  rw [notExpanded]
  cases search : lowerRuns.find? (·.covers c.toNat) with
  | some run =>
    have isRun := List.mem_of_find?_eq_some search
    have hasImages := List.all_eq_true.mp hasAlphabeticImages_lowerRuns run isRun
    have covers : run.covers c.toNat = true := by simpa using List.find?_some search
    exact ⟨_, rfl, isAlphabetic_ofNat (CaseRun.covered_image hasImages covers)⟩
  | none =>
    refine ⟨c, ?_, alphabetic⟩
    rw [List.map_singleton, Char.ofNat_toNat]

theorem lowerCase_dotted : lowerCase 'İ' = ['i', '\u0307'] := by
  decide +kernel

end Text

namespace BaseName

/-- The first letter of a type name in front of the type arguments. -/
def firstLetter? (typeName : List Char) : Option Char :=
  (typeName.takeWhile (· != '<')).find? Text.isAlphabetic

theorem isNameCharacter_of_isAlphabetic {c : Char} (alphabetic : Text.isAlphabetic c = true) :
    isNameCharacter c = true := by
  rw [isNameCharacter, Text.isAlphanumeric, alphabetic]
  rfl

theorem spellBrackets_cons {first : Char} (alphabetic : Text.isAlphabetic first = true)
    (rest : List Char) : spellBrackets (first :: rest) = first :: spellBrackets rest := by
  have bracket : Text.isAlphabetic '[' = false := by decide +kernel
  have notBracket : first ≠ '[' := by
    intro same
    rw [same, bracket] at alphabetic
    exact Bool.false_ne_true alphabetic
  rw [spellBrackets]
  intro _ same
  exact absurd same notBracket

/-- What is usable of a type name begins with its first letter and has name characters only. -/
theorem usable_eq_nil_or_cons (typeName : List Char) :
    usable typeName = [] ∧ firstLetter? typeName = none ∨
      ∃ first rest, usable typeName = first :: rest ∧ firstLetter? typeName = some first ∧
        Text.isAlphabetic first = true ∧ ∀ c ∈ rest, isNameCharacter c = true := by
  have isHead := List.find?_eq_head?_dropWhile_not Text.isAlphabetic (typeName.takeWhile (· != '<'))
  have isUsable : usable typeName = (spellBrackets ((typeName.takeWhile (· != '<')).dropWhile
      fun c => !Text.isAlphabetic c)).filter isNameCharacter := rfl
  rw [isUsable, firstLetter?]
  cases trimmed : (typeName.takeWhile (· != '<')).dropWhile fun c => !Text.isAlphabetic c with
  | nil =>
    rw [trimmed] at isHead
    refine .inl ⟨?_, isHead⟩
    rw [spellBrackets, List.filter_nil]
  | cons first rest =>
    rw [trimmed, List.head?_cons] at isHead
    have alphabetic : Text.isAlphabetic first = true := List.find?_some isHead
    refine .inr ⟨first, (spellBrackets rest).filter isNameCharacter, ?_, isHead, alphabetic, ?_⟩
    · rw [spellBrackets_cons alphabetic,
        List.filter_cons_of_pos (isNameCharacter_of_isAlphabetic alphabetic)]
    · intro c member
      exact (List.mem_filter.mp member).2

/-- A base name begins with a letter. All its characters are name characters exactly if the first
letter of the type name is not `İ`; with this letter the name begins with an i and a combining
dot, and has name characters behind them. -/
theorem ofTypeName_isIdentifier_iff (typeName : String) :
    ∃ first rest, (ofTypeName typeName).toList = first :: rest ∧ Text.isAlphabetic first = true ∧
      ((∀ c ∈ first :: rest, isNameCharacter c = true) ↔
        firstLetter? typeName.toList ≠ some 'İ') ∧
      (firstLetter? typeName.toList = some 'İ' →
        ∃ others, first :: rest = 'i' :: '\u0307' :: others ∧
          ∀ c ∈ others, isNameCharacter c = true) := by
  have letterI : Text.isAlphabetic 'i' = true := by decide +kernel
  have notInName : isNameCharacter '\u0307' = false := by decide +kernel
  unfold ofTypeName
  rcases usable_eq_nil_or_cons typeName.toList with ⟨nothing, noLetter⟩ |
    ⟨letter, others, isUsable, isFirst, alphabetic, nameCharacters⟩
  · rw [nothing, noLetter]
    have nameCharacters : (['v', 'a', 'l', 'u', 'e'].all isNameCharacter) = true := by
      decide +kernel
    refine ⟨'v', ['a', 'l', 'u', 'e'], rfl, by decide +kernel, ?_, nofun⟩
    exact iff_of_true (List.all_eq_true.mp nameCharacters) nofun
  · rw [isUsable, isFirst]
    by_cases dotted : letter = 'İ'
    · rw [dotted]
      refine ⟨'i', '\u0307' :: others, ?_, letterI, ?_, fun _ => ⟨others, rfl, nameCharacters⟩⟩
      · simp [Text.decapitalized, Text.lowerCase_dotted]
      · refine iff_of_false ?_ (fun differs => differs rfl)
        intro all
        have inName := all '\u0307' (List.mem_cons_of_mem _ List.mem_cons_self)
        rw [notInName] at inName
        exact Bool.false_ne_true inName
    · obtain ⟨image, lowered, alphabeticImage⟩ := Text.exists_lowerCase alphabetic dotted
      refine ⟨image, others, ?_, alphabeticImage, ?_,
        fun same => absurd (Option.some.inj same) dotted⟩
      · simp [Text.decapitalized, lowered]
      · refine iff_of_true ?_ fun same => dotted (Option.some.inj same)
        intro c member
        rcases List.mem_cons.mp member with rfl | inRest
        · exact isNameCharacter_of_isAlphabetic alphabeticImage
        · exact nameCharacters c inRest

/-- The dot above stays in the base name, and no name has it. -/
theorem ofTypeName_keeps_dot :
    '\u0307' ∈ (ofTypeName "İ").toList ∧ isNameCharacter '\u0307' = false := by
  decide +kernel

end BaseName

end PropertyAssignment
