import PropertyAssignment.Identity.Basic

/-!
# Qualified names

A qualified name is a simple name inside a package, which is a list of segments. It is written
with dots. Reading a dotted text ignores empty segments, so every text is some name; a text of dots
alone is the empty name without package. The identity of a name depends on its dotted form only.
Names are ordered by package, segment by segment, and then by simple name.
-/

namespace PropertyAssignment

/-- A simple name and the segments of the package it lies in. -/
structure QualifiedName where
  package : List String
  simple : String
deriving DecidableEq, Repr, Inhabited

namespace QualifiedName

/-- The non-empty pieces of a text between its dots. -/
def segments (text : String) : List String :=
  ((text.toList.splitOn '.').filter fun piece => !piece.isEmpty).map String.ofList

def unqualified (simple : String) : QualifiedName :=
  ⟨[], simple⟩

/-- The name that a dotted text denotes: its last segment inside the package of the others. -/
def parse (text : String) : QualifiedName :=
  let parts := segments text
  ⟨parts.dropLast, parts.getLastD ""⟩

def packageText (name : QualifiedName) : String :=
  ".".intercalate name.package

def dotted (name : QualifiedName) : String :=
  ".".intercalate (name.package ++ [name.simple])

def isUnqualified (name : QualifiedName) : Bool :=
  name.package.isEmpty

/-- Whether code may use the simple name without an import: the name lies in no package, or in the
package `java.lang` itself. -/
def isImplicitlyImported (name : QualifiedName) : Bool :=
  name.package = [] || name.package = ["java", "lang"]

def identity (name : QualifiedName) : Identity :=
  Identity.ofName name.dotted

/-- The order of names: by package, segment by segment, then by simple name. -/
def le (a b : QualifiedName) : Bool :=
  a.package < b.package || (a.package = b.package && a.simple ≤ b.simple)

def sorted (names : List QualifiedName) : List QualifiedName :=
  names.mergeSort le

theorem le_iff {a b : QualifiedName} :
    le a b = true ↔ a.package < b.package ∨ a.package = b.package ∧ a.simple ≤ b.simple := by
  simp [le]

theorem le_total (a b : QualifiedName) : (le a b || le b a) = true := by
  rw [Bool.or_eq_true, le_iff, le_iff]
  by_cases less : a.package < b.package
  · exact .inl (.inl less)
  · by_cases greater : b.package < a.package
    · exact .inr (.inl greater)
    · have same : a.package = b.package :=
        List.le_antisymm (List.not_lt.mp greater) (List.not_lt.mp less)
      cases String.le_total a.simple b.simple with
      | inl first => exact .inl (.inr ⟨same, first⟩)
      | inr second => exact .inr (.inr ⟨same.symm, second⟩)

theorem le_trans (a b c : QualifiedName) (ab : le a b = true) (bc : le b c = true) :
    le a c = true := by
  rw [le_iff] at ab bc ⊢
  rcases ab with ab | ⟨sameAB, ab⟩
  · rcases bc with bc | ⟨sameBC, _⟩
    · exact .inl (List.lt_trans ab bc)
    · exact .inl (sameBC ▸ ab)
  · rcases bc with bc | ⟨sameBC, bc⟩
    · exact .inl (sameAB ▸ bc)
    · exact .inr ⟨sameAB.trans sameBC, String.le_trans ab bc⟩

/-- Names that precede each other are equal, so the sorted order of distinct names is unique. -/
theorem le_antisymm {a b : QualifiedName} (ab : le a b = true) (ba : le b a = true) : a = b := by
  rw [le_iff] at ab ba
  rcases ab with ab | ⟨same, ab⟩
  · rcases ba with ba | ⟨same, _⟩
    · exact absurd (List.lt_trans ab ba) (List.lt_irrefl _)
    · exact absurd (same ▸ ab) (List.lt_irrefl _)
  · rcases ba with ba | ⟨_, ba⟩
    · exact absurd (same ▸ ba) (List.lt_irrefl _)
    · obtain ⟨_, _⟩ := a
      obtain ⟨_, _⟩ := b
      exact congr (congrArg mk same) (String.le_antisymm ab ba)

end QualifiedName

end PropertyAssignment
