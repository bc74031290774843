import PropertyAssignment.Text.LetterCase
import PropertyAssignment.Text.Numeric

/-!
# Base names of variables

The name from which the names of variables of a type are made: the type's simple name without type
arguments, reduced to characters that a name may have, with its first character in lower case.
-/

namespace PropertyAssignment.BaseName

/-- The base name when a type name has nothing usable in it. -/
def fallback : String := "value"

def isNameCharacter (c : Char) : Bool :=
  Text.isAlphanumeric c || c == '_' || c == '$'

/-- The characters with every pair of square brackets spelled out as a word. -/
def spellBrackets : List Char → List Char
  | '[' :: ']' :: rest => 'A' :: 'r' :: 'r' :: 'a' :: 'y' :: spellBrackets rest
  | c :: rest => c :: spellBrackets rest
  | [] => []

/-- The usable characters of a type name: what stands before the type arguments, from the first
letter on, with brackets spelled out and all other characters dropped that no name has. -/
def usable (typeName : List Char) : List Char :=
  let raw := typeName.takeWhile (· != '<')
  let trimmed := raw.dropWhile fun c => !Text.isAlphabetic c
  (spellBrackets trimmed).filter isNameCharacter

/-- The base name for variables of a type with this name. -/
def ofTypeName (typeName : String) : String :=
  match usable typeName.toList with
  | [] => fallback
  | cs => String.ofList (Text.decapitalized cs)

end PropertyAssignment.BaseName
