import PropertyAssignment.Name

/-!
# Names and their dotted forms

Reading a text drops its empty segments, and writing a name puts dots between its segments. So what
is read and written is the text again if it had no empty segments, and reading it once more
changes nothing. In the other direction a name is read back from its dotted form if its segments
are not empty and have no dots of their own. Such names differ in their dotted forms, on which alone
identities depend.
-/

namespace PropertyAssignment.QualifiedName

/-- A text that can stand between two dots. -/
def IsSegment (text : String) : Prop :=
  text ≠ "" ∧ '.' ∉ text.toList

/-- A name all of whose parts can stand between dots. -/
structure IsSegmented (name : QualifiedName) : Prop where
  package : ∀ segment ∈ name.package, IsSegment segment
  simple : IsSegment name.simple

/-- A text without empty segments, or the empty text. -/
def IsNormalText (text : String) : Prop :=
  text = "" ∨ [] ∉ text.toList.splitOn '.'

theorem not_mem_of_mem_splitOn {chars piece : List Char} (isPiece : piece ∈ chars.splitOn '.') :
    '.' ∉ piece := by
  induction chars generalizing piece with
  | nil =>
    rw [List.splitOn_nil, List.mem_singleton] at isPiece
    simp [isPiece]
  | cons c rest ih =>
    rw [List.splitOn_cons_eq_if_modifyHead] at isPiece
    cases split : rest.splitOn '.' with
    | nil => exact absurd split (List.splitOn_ne_nil '.' rest)
    | cons first others =>
      rw [split, List.modifyHead_cons] at isPiece
      rw [split] at ih
      by_cases dot : c = '.'
      · rw [if_pos (beq_iff_eq.mpr dot)] at isPiece
        rcases List.mem_cons.mp isPiece with rfl | later
        · exact List.not_mem_nil
        · exact ih later
      · rw [if_neg fun same => dot (beq_iff_eq.mp same)] at isPiece
        rcases List.mem_cons.mp isPiece with rfl | later
        · have notInFirst : '.' ∉ first := ih List.mem_cons_self
          simp [Ne.symm dot, notInFirst]
        · exact ih (List.mem_cons_of_mem _ later)

theorem isSegment_of_mem_segments {text segment : String} (isSegment : segment ∈ segments text) :
    IsSegment segment := by
  obtain ⟨piece, kept, rfl⟩ := List.mem_map.mp isSegment
  obtain ⟨isPiece, notEmpty⟩ := List.mem_filter.mp kept
  constructor
  · simpa using notEmpty
  · rw [String.toList_ofList]
    exact not_mem_of_mem_splitOn isPiece

section
variable {parts : List String}

theorem splitOn_intercalate_segments (notEmpty : parts ≠ [])
    (areSegments : ∀ segment ∈ parts, IsSegment segment) :
    (".".intercalate parts).toList.splitOn '.' = parts.map String.toList := by
  rw [String.toList_intercalate]
  apply List.splitOn_intercalate '.'
  · intro piece member
    obtain ⟨segment, isPart, rfl⟩ := List.mem_map.mp member
    exact (areSegments segment isPart).2
  · simpa using notEmpty

theorem nil_not_mem_map_toList (areSegments : ∀ segment ∈ parts, IsSegment segment) :
    [] ∉ parts.map String.toList := by
  intro member
  obtain ⟨segment, isPart, empty⟩ := List.mem_map.mp member
  exact (areSegments segment isPart).1 (String.toList_eq_nil_iff.mp empty)

theorem segments_of_nil_not_mem {text : String} (noneEmpty : [] ∉ text.toList.splitOn '.') :
    segments text = (text.toList.splitOn '.').map String.ofList := by
  rw [segments, List.filter_eq_self.mpr]
  intro piece isPiece
  have notEmpty : piece ≠ [] := fun empty => noneEmpty (empty ▸ isPiece)
  simpa using notEmpty

theorem segments_intercalate (areSegments : ∀ segment ∈ parts, IsSegment segment) :
    segments (".".intercalate parts) = parts := by
  by_cases empty : parts = []
  · rw [empty]
    rfl
  · have split := splitOn_intercalate_segments empty areSegments
    have noneEmpty : [] ∉ (".".intercalate parts).toList.splitOn '.' :=
      split ▸ nil_not_mem_map_toList areSegments
    rw [segments_of_nil_not_mem noneEmpty, split, List.map_map]
    simp [Function.comp_def]

end

/-- Exactly the texts in normal form have their segments and the dots between them and no more. -/
theorem intercalate_segments_eq_iff (text : String) :
    ".".intercalate (segments text) = text ↔ IsNormalText text := by
  have areSegments : ∀ segment ∈ segments text, IsSegment segment := fun _ =>
    isSegment_of_mem_segments
  constructor
  · intro same
    by_cases empty : segments text = []
    · rw [empty, String.intercalate_nil] at same
      exact .inl same.symm
    · have split := splitOn_intercalate_segments empty areSegments
      rw [same] at split
      exact .inr (split ▸ nil_not_mem_map_toList areSegments)
  · rintro (rfl | noneEmpty)
    · rfl
    · rw [segments_of_nil_not_mem noneEmpty, ← String.toList_inj, String.toList_intercalate,
        List.map_map]
      simp only [Function.comp_def, String.toList_ofList, List.map_id']
      exact List.intercalate_splitOn '.'

theorem dotted_parse (text : String) : (parse text).dotted = ".".intercalate (segments text) := by
  rcases List.eq_nil_or_concat (segments text) with empty | ⟨package, simple, parts⟩
  · rw [parse, empty]
    rfl
  · rw [List.concat_eq_append] at parts
    rw [parse, parts, dotted]
    simp only [List.dropLast_concat, List.getLastD_concat]

theorem parse_dotted_parse (text : String) : parse (parse text).dotted = parse text := by
  have again : segments (parse text).dotted = segments text := by
    rw [dotted_parse]
    exact segments_intercalate fun _ => isSegment_of_mem_segments
  simp only [parse] at again ⊢
  rw [again]

theorem dotted_parse_eq_iff (text : String) : (parse text).dotted = text ↔ IsNormalText text := by
  rw [dotted_parse, intercalate_segments_eq_iff]

theorem parse_dotted {name : QualifiedName} (segmented : name.IsSegmented) :
    parse name.dotted = name := by
  have areSegments : ∀ segment ∈ name.package ++ [name.simple], IsSegment segment := by
    intro segment member
    rcases List.mem_append.mp member with inPackage | last
    · exact segmented.package segment inPackage
    · exact List.mem_singleton.mp last ▸ segmented.simple
  have parts : segments name.dotted = name.package ++ [name.simple] :=
    segments_intercalate areSegments
  simp only [parse, parts, List.dropLast_concat, List.getLastD_concat]

/-- Names and dotted texts round-trip. A text is read as the same name once it has been written
again, and it is written as it was read exactly if it is in normal form. A name whose parts can
stand between dots is read back from its dotted form; so two such names have the same dotted form,
the text that their identities are made from, only if they are equal. -/
theorem dotted_roundTrip :
    (∀ text, parse (parse text).dotted = parse text) ∧
    (∀ text, (parse text).dotted = text ↔ text = "" ∨ [] ∉ text.toList.splitOn '.') ∧
    (∀ name : QualifiedName, name.IsSegmented → parse name.dotted = name) ∧
    (∀ first second : QualifiedName, first.IsSegmented → second.IsSegmented →
      (first.dotted = second.dotted ↔ first = second)) ∧
    ∀ name : QualifiedName, name.identity = Identity.ofName name.dotted := by
  refine ⟨parse_dotted_parse, dotted_parse_eq_iff, fun _ => parse_dotted, ?_, fun _ => rfl⟩
  intro first second segmentedFirst segmentedSecond
  refine ⟨fun same => ?_, congrArg dotted⟩
  calc
    first = parse first.dotted := (parse_dotted segmentedFirst).symm
    _ = parse second.dotted := by rw [same]
    _ = second := parse_dotted segmentedSecond

/-- The class of maps and its entry class are told apart by their dotted forms, and each is read
back. The entry class as a class inside the class of maps has that dotted form too, but a dot of
its own. -/
theorem dotted_roundTrip_entry :
    let map : QualifiedName := ⟨["java", "util"], "Map"⟩
    let entry : QualifiedName := ⟨["java", "util", "Map"], "Entry"⟩
    let nested : QualifiedName := ⟨["java", "util"], "Map.Entry"⟩
    map.IsSegmented ∧ entry.IsSegmented ∧ parse entry.dotted = entry ∧
      (map.dotted = entry.dotted ↔ map = entry) ∧
      nested.dotted = entry.dotted ∧ ¬ nested.IsSegmented := by
  intro map entry nested
  obtain ⟨_, _, readBack, differ, _⟩ := dotted_roundTrip
  have segmentedMap : map.IsSegmented := ⟨by simp [map, IsSegment], by simp [map, IsSegment]⟩
  have segmented : entry.IsSegmented := ⟨by simp [entry, IsSegment], by simp [entry, IsSegment]⟩
  refine ⟨segmentedMap, segmented, readBack entry segmented,
    differ map entry segmentedMap segmented, by decide +kernel, fun isSegmented => ?_⟩
  exact isSegmented.simple.2 (by decide)

end PropertyAssignment.QualifiedName
