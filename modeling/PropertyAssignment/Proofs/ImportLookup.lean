import PropertyAssignment.Proofs.DottedName
import PropertyAssignment.Proofs.ImportHistory

/-!
# Looking imports up by name and by text

A set of imports can be asked for a name or for a text. A name has the identity of its dotted form,
and a text that of its characters as they stand. So the two questions agree on the texts that are
their own dotted form once they are read, and on no other ones but for a coincidence of digests:
whoever puts in the name read from a text with an empty segment does not find it by this text.
-/

namespace PropertyAssignment

namespace QualifiedName

theorem ofName_eq_identity_parse {text : String} (normal : IsNormalText text) :
    Identity.ofName text = (parse text).identity := by
  rw [identity, (dotted_parse_eq_iff text).mpr normal]

end QualifiedName

namespace ImportSet

open QualifiedName

section
variable {set : ImportSet} {names : List QualifiedName}

theorem containsText_iff {text : String} :
    set.containsText text = true ↔ Identity.ofName text ∈ set.identities := by
  simp [containsText, containsIdentity]

theorem BuiltFrom.mem_identities_iff (built : BuiltFrom names set) {identity : Identity} :
    identity ∈ set.identities ↔ ∃ name ∈ names, name.identity = identity := by
  rw [← mem_identitySet, built.identitySet_eq, List.mem_toFinset, List.mem_map]

theorem contains_insert_self (set : ImportSet) (name : QualifiedName) :
    (set.insert name).contains name = true :=
  contains_iff.mpr (mem_identities_insert.mpr (.inl rfl))

theorem containsText_insert_iff {name : QualifiedName} {text : String} :
    (set.insert name).containsText text = true ↔
      Identity.ofName text = name.identity ∨ set.containsText text = true := by
  rw [containsText_iff, containsText_iff, mem_identities_insert]

/-- If all sets find a text and its name alike, then so does the set of this name alone, and the
digest does not tell the text from the dotted form of the name. -/
theorem ofName_eq_of_agree {text : String}
    (agree : ∀ names set, BuiltFrom names set →
      set.containsText text = set.contains (parse text)) :
    Identity.ofName text = (parse text).identity := by
  have found : (empty.insert (parse text)).containsText text = true := by
    rw [agree _ _ (.insert .empty (parse text))]
    exact contains_insert_self empty (parse text)
  exact (containsText_insert_iff.mp found).resolve_right Bool.false_ne_true

end

/-- A text and the name read from it are found by the same sets exactly if they have one identity,
which they have if the text is empty or has no empty segment. A set that was built somehow finds
a text, or a name, if a name of the same identity was put in; so it finds the name read from a
text exactly if it finds the dotted form of this name. The name is found once it was put in, and
then the text is found exactly if it has the identity of the name or was found before. -/
theorem containsText_agrees_iff (text : String) :
    ((∀ names set, BuiltFrom names set → set.containsText text = set.contains (parse text)) ↔
      Identity.ofName text = (parse text).identity) ∧
    (text = "" ∨ [] ∉ text.toList.splitOn '.' →
      Identity.ofName text = (parse text).identity) ∧
    ∀ names set, BuiltFrom names set →
      (set.containsText text = true ↔ ∃ name ∈ names, name.identity = Identity.ofName text) ∧
      (set.contains (parse text) = true ↔
        ∃ name ∈ names, name.identity = (parse text).identity) ∧
      set.contains (parse text) = set.containsText (parse text).dotted ∧
      (set.insert (parse text)).contains (parse text) = true ∧
      ((set.insert (parse text)).containsText text = true ↔
        Identity.ofName text = (parse text).identity ∨ set.containsText text = true) := by
  refine ⟨⟨ofName_eq_of_agree, ?_⟩, ofName_eq_identity_parse, ?_⟩
  · intro same names set _
    rw [containsText, contains, same]
  · intro names set built
    refine ⟨?_, ?_, rfl, contains_insert_self set (parse text), containsText_insert_iff⟩
    · rw [containsText_iff, built.mem_identities_iff]
    · rw [contains_iff, built.mem_identities_iff]

/-- A text without empty segments is found like the name read from it, before and after this is put
in beside a map. -/
theorem containsText_agrees_iff_list :
    let text := "java.util.List"
    let map := QualifiedName.parse "java.util.Map"
    let imports := ofList [map]
    (text = "" ∨ [] ∉ text.toList.splitOn '.') ∧ BuiltFrom [map] imports ∧
      imports.containsText text = imports.contains (parse text) ∧
      (imports.insert (parse text)).containsText text = true := by
  intro text map imports
  obtain ⟨agree, normalForm, built⟩ := containsText_agrees_iff text
  have normal : text = "" ∨ [] ∉ text.toList.splitOn '.' := .inr (by decide +kernel)
  obtain ⟨_, _, _, _, found⟩ := built [map] imports (.ofList [map])
  exact ⟨normal, .ofList [map], agree.mpr (normalForm normal) _ _ (.ofList [map]),
    found.mpr (.inl (normalForm normal))⟩

/-- The name of a list read from a text with an empty segment is found once it was put in, but not
by this text. A name given with an empty segment is found by the text, but not by the name
read from it. -/
theorem containsText_misses_emptySegment :
    let text := "java..util.List"
    let imports := empty.insert (parse text)
    let given : QualifiedName := ⟨["java", "", "util"], "List"⟩
    let others := empty.insert given
    BuiltFrom [parse text] imports ∧ imports.contains (parse text) = true ∧
      imports.containsText text = false ∧
    BuiltFrom [given] others ∧ others.contains (parse text) = false ∧
      others.containsText text = true := by
  intro text imports given others
  refine ⟨.insert .empty (parse text), contains_insert_self empty (parse text), ?_,
    .insert .empty given, ?_, ?_⟩
  · decide +kernel
  · decide +kernel
  · decide +kernel

end ImportSet

end PropertyAssignment
