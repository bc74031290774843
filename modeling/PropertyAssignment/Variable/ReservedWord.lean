/-!
# Reserved words

The words that the generated language keeps for itself, so that no variable can bear them.
-/

namespace PropertyAssignment

def reservedWords : List String := [
  "abstract", "assert", "boolean", "break", "byte", "case", "catch", "char", "class", "const",
  "continue", "default", "do", "double", "else", "enum", "extends", "final", "finally", "float",
  "for", "goto", "if", "implements", "import", "instanceof", "int", "interface", "long", "native",
  "new", "package", "private", "protected", "public", "return", "short", "static", "strictfp",
  "super", "switch", "synchronized", "this", "throw", "throws", "transient", "try", "void",
  "volatile", "while", "true", "false", "null", "var", "record", "yield"]

def isReservedWord (name : String) : Bool :=
  reservedWords.contains name

end PropertyAssignment
