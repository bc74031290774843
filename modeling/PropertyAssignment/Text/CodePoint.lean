/-!
# Sets of code points

A character class is given as a list of closed ranges of code points. Membership is the only
operation: a code point is covered when some range contains it.
-/

namespace PropertyAssignment.Text

/-- A closed range of code points: its first and its last. -/
abbrev CodeRange := Nat × Nat

def covered (ranges : List CodeRange) (code : Nat) : Bool :=
  ranges.any fun (first, last) => first ≤ code && code ≤ last

end PropertyAssignment.Text
