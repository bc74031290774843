import PropertyAssignment.Code.Printing

/-!
# Words and signs in the text of code

The text of code falls into tokens: words, which are as long as they can be, and single signs. The
tokens give the text back. A sign keeps what is before it apart from what is behind it, so the
tokens of a text that is put together around signs are those of its parts. This gives the tokens
of each form of type, expression and statement from those of its parts, as long as the names in
it are words.
-/

namespace PropertyAssignment

namespace Text

/-- The characters of words: ASCII letters and digits, underscore and dollar. -/
def isWordCharacter (c : Char) : Bool :=
  c.isAlphanum || c == '_' || c == '$'

/-- A non-empty text of word characters. -/
def IsWord (text : String) : Prop :=
  text ≠ "" ∧ ∀ c ∈ text.toList, isWordCharacter c = true

theorem isWord_iff_all (text : String) :
    (text ≠ "" ∧ text.toList.all isWordCharacter = true) ↔ IsWord text := by
  rw [List.all_eq_true, IsWord]

instance (text : String) : Decidable (IsWord text) :=
  decidable_of_iff _ (isWord_iff_all text)

/-- A word or a single character that belongs to none. -/
inductive Token where
  | word (letters : List Char)
  | sign (c : Char)
deriving DecidableEq, Repr

def Token.characters : Token → List Char
  | .word letters => letters
  | .sign c => [c]

/-- The tokens of a text. A word character joins the word that begins behind it, if one does. -/
def scan : List Char → List Token
  | [] => []
  | c :: rest =>
    if isWordCharacter c then
      match scan rest with
      | .word letters :: tokens => .word (c :: letters) :: tokens
      | tokens => .word [c] :: tokens
    else .sign c :: scan rest

/-- Tokens with a comma and a blank between each two. -/
def listed (tokens : List (List Token)) : List Token :=
  [.sign ',', .sign ' '].intercalate tokens

theorem flatMap_characters_scan (chars : List Char) :
    (scan chars).flatMap Token.characters = chars := by
  induction chars with
  | nil => rfl
  | cons c rest ih =>
    rw [scan]
    split
    · split
      next letters tokens scanned =>
        rw [scanned] at ih
        simpa [Token.characters] using ih
      next => simpa [Token.characters] using ih
    · simpa [Token.characters] using ih

theorem scan_injective {first second : List Char} (same : scan first = scan second) :
    first = second := by
  rw [← flatMap_characters_scan first, same, flatMap_characters_scan]

theorem scan_sign {c : Char} (isSign : isWordCharacter c = false) (rest : List Char) :
    scan (c :: rest) = .sign c :: scan rest := by
  simp [scan, isSign]

/-- A sign keeps the tokens before it apart from those behind it. -/
theorem scan_append_sign {c : Char} (isSign : isWordCharacter c = false)
    (chars rest : List Char) :
    scan (chars ++ c :: rest) = scan chars ++ .sign c :: scan rest := by
  induction chars with
  | nil => exact scan_sign isSign rest
  | cons d others ih =>
    rw [List.cons_append, scan, ih, scan]
    split
    · cases scan others with
      | nil => rfl
      | cons token tokens => cases token <;> rfl
    · rfl

theorem scan_word {letters : List Char} (notEmpty : letters ≠ [])
    (allInWord : ∀ c ∈ letters, isWordCharacter c = true) : scan letters = [.word letters] := by
  induction letters with
  | nil => exact absurd rfl notEmpty
  | cons c rest ih =>
    have inWord : isWordCharacter c = true := allInWord c List.mem_cons_self
    rw [scan, if_pos inWord]
    cases rest with
    | nil => rfl
    | cons d others =>
      have tokensRest := ih (List.cons_ne_nil d others) fun e member =>
        allInWord e (List.mem_cons_of_mem c member)
      rw [tokensRest]

theorem IsWord.scan_eq {text : String} (isWord : IsWord text) :
    scan text.toList = [.word text.toList] :=
  scan_word (fun empty => isWord.1 (String.toList_eq_nil_iff.mp empty)) isWord.2

theorem listed_cons_cons (first second : List Token) (rest : List (List Token)) :
    listed (first :: second :: rest) =
      first ++ .sign ',' :: .sign ' ' :: listed (second :: rest) := by
  simp [listed]

theorem scan_intercalate (texts : List String) :
    scan (", ".intercalate texts).toList = listed (texts.map fun text => scan text.toList) := by
  induction texts with
  | nil => rfl
  | cons text rest ih =>
    cases rest with
    | nil => simp [listed]
    | cons next others =>
      have joined : (", ".intercalate (text :: next :: others)).toList =
          text.toList ++ ',' :: ' ' :: (", ".intercalate (next :: others)).toList := by
        simp
      rw [joined, scan_append_sign rfl, scan_sign rfl, ih]
      simp only [List.map_cons, listed_cons_cons]

end Text

open Text

namespace JavaType

def tokens (type : JavaType) : List Token :=
  scan type.text.toList

/-- The tokens of type arguments with their brackets; there are none without arguments. -/
def argumentTokens : List JavaType → List Token
  | [] => []
  | first :: rest => .sign '<' :: (listed ((first :: rest).map tokens) ++ [.sign '>'])

theorem tokens_mk {name : QualifiedName} (simple : IsWord name.simple)
    (arguments : List JavaType) (container : Option ContainerKind) :
    tokens ⟨name, arguments, container⟩ =
      .word name.simple.toList :: argumentTokens arguments := by
  cases arguments with
  | nil => exact simple.scan_eq
  | cons first rest =>
    have written : (text ⟨name, first :: rest, container⟩).toList = name.simple.toList ++
        '<' :: ((", ".intercalate ((first :: rest).map text)).toList ++ ['>']) := by
      simp [text, texts_eq_map]
    rw [tokens, written, scan_append_sign rfl, scan_append_sign rfl, simple.scan_eq,
      scan_intercalate, List.map_map]
    rfl

theorem text_eq_of_tokens_eq {first second : JavaType} (same : first.tokens = second.tokens) :
    first.text = second.text :=
  String.toList_inj.mp (scan_injective same)

end JavaType

namespace Expr

def tokens (expr : Expr) : List Token :=
  scan expr.text.toList

/-- The tokens of an argument list with its parentheses. -/
def argumentTokens (arguments : List Expr) : List Token :=
  .sign '(' :: (listed (arguments.map tokens) ++ [.sign ')'])

/-- The tokens of the test that a value is not null, behind the value. -/
def nullTest : List Token :=
  [.sign ' ', .sign '!', .sign '=', .sign ' ', .word ['n', 'u', 'l', 'l']]

theorem scan_arguments (arguments : List Expr) :
    scan ('(' :: ((", ".intercalate (texts arguments)).toList ++ [')'])) =
      argumentTokens arguments := by
  rw [scan_sign rfl, scan_append_sign rfl, texts_eq_map, scan_intercalate, List.map_map]
  rfl

theorem tokens_var {name : String} (isWord : IsWord name) :
    (var name).tokens = [.word name.toList] :=
  isWord.scan_eq

theorem tokens_invoke {method : String} (isWord : IsWord method) (arguments : List Expr) :
    (invoke method arguments).tokens = .word method.toList :: argumentTokens arguments := by
  have written : (invoke method arguments).text.toList = method.toList ++
      '(' :: ((", ".intercalate (texts arguments)).toList ++ [')']) := by
    simp [text]
  rw [tokens, written, scan_append_sign rfl, ← scan_sign rfl, scan_arguments, isWord.scan_eq]
  rfl

theorem tokens_call (receiver : Expr) {method : String} (isWord : IsWord method)
    (arguments : List Expr) :
    (call receiver method arguments).tokens =
      receiver.tokens ++ .sign '.' :: .word method.toList :: argumentTokens arguments := by
  have written : (call receiver method arguments).text.toList = receiver.text.toList ++
      '.' :: (invoke method arguments).text.toList := by
    simp [text]
  rw [tokens, written, scan_append_sign rfl, ← tokens_invoke isWord]
  rfl

theorem tokens_new (type : JavaType) (arguments : List Expr) :
    (new type arguments).tokens =
      .word ['n', 'e', 'w'] :: .sign ' ' :: (type.tokens ++ argumentTokens arguments) := by
  have written : (new type arguments).text.toList = ['n', 'e', 'w'] ++ ' ' :: (type.text.toList ++
      '(' :: ((", ".intercalate (texts arguments)).toList ++ [')'])) := by
    simp [text]
  rw [tokens, written, scan_append_sign rfl, scan_append_sign rfl, ← scan_sign rfl, scan_arguments]
  rfl

theorem tokens_cast (type : JavaType) (operand : Expr) :
    (cast type operand).tokens =
      .sign '(' :: (type.tokens ++ .sign ')' :: .sign ' ' :: operand.tokens) := by
  have written : (cast type operand).text.toList =
      '(' :: (type.text.toList ++ ')' :: ' ' :: operand.text.toList) := by
    simp [text]
  rw [tokens, written, scan_sign rfl, scan_append_sign rfl, scan_sign rfl]
  rfl

theorem tokens_notNull (operand : Expr) :
    (notNull operand).tokens = operand.tokens ++ nullTest := by
  have written : (notNull operand).text.toList =
      operand.text.toList ++ ' ' :: ['!', '=', ' ', 'n', 'u', 'l', 'l'] := by
    simp [text]
  rw [tokens, written, scan_append_sign rfl]
  rfl

end Expr

namespace Stmt

/-- The tokens of the blanks before a line at a nesting depth. -/
def margin (depth : Nat) : List Token :=
  List.replicate (4 * depth) (.sign ' ')

def lineTokens (lines : List String) : List Token :=
  lines.flatMap fun line => scan line.toList ++ [.sign '\n']

/-- The tokens of a statement at a nesting depth. -/
def tokens (depth : Nat) (stmt : Stmt) : List Token :=
  lineTokens (stmt.lines depth)

def bodyTokens (depth : Nat) (stmts : List Stmt) : List Token :=
  lineTokens (bodyLines depth stmts)

def closing (depth : Nat) : List Token :=
  margin depth ++ [.sign '\x7d', .sign '\n']

/-- The tokens of a conditional behind its first body. -/
def alternative (depth : Nat) (elseBody : List Stmt) : List Token :=
  if elseBody.isEmpty then closing depth
  else margin depth ++ .sign '\x7d' :: .sign ' ' :: .word ['e', 'l', 's', 'e'] :: .sign ' ' ::
    .sign '\x7b' :: .sign '\n' :: (bodyTokens (depth + 1) elseBody ++ closing depth)

theorem scan_indentation (depth : Nat) (chars : List Char) :
    scan ((indentation depth).toList ++ chars) = margin depth ++ scan chars := by
  rw [indentation, String.toList_ofList, margin]
  induction 4 * depth with
  | zero => rfl
  | succ n ih =>
    rw [List.replicate_succ, List.cons_append, scan_sign rfl, ih]
    rfl

theorem lineTokens_cons (line : String) (rest : List String) :
    lineTokens (line :: rest) = scan line.toList ++ .sign '\n' :: lineTokens rest := by
  simp [lineTokens]

theorem lineTokens_append (lines others : List String) :
    lineTokens (lines ++ others) = lineTokens lines ++ lineTokens others :=
  List.flatMap_append

theorem scan_lines (lines : List String) :
    scan (String.join (lines.map fun line => line ++ "\n")).toList = lineTokens lines := by
  induction lines with
  | nil => rfl
  | cons line rest ih =>
    have written : (String.join ((line :: rest).map fun line => line ++ "\n")).toList =
        line.toList ++ '\n' :: (String.join (rest.map fun line => line ++ "\n")).toList := by
      simp
    rw [written, scan_append_sign rfl, ih, lineTokens_cons]

theorem scan_render (stmts : List Stmt) : scan (render stmts).toList = bodyTokens 0 stmts :=
  scan_lines (bodyLines 0 stmts)

theorem bodyTokens_cons (depth : Nat) (stmt : Stmt) (rest : List Stmt) :
    bodyTokens depth (stmt :: rest) = stmt.tokens depth ++ bodyTokens depth rest := by
  rw [bodyTokens, bodyLines, lineTokens_append]
  rfl

theorem tokens_declare (depth : Nat) (type : JavaType) {name : String} (isWord : IsWord name)
    (init : Expr) :
    (declare type name init).tokens depth = margin depth ++ (type.tokens ++
      .sign ' ' :: .word name.toList :: .sign ' ' :: .sign '=' :: .sign ' ' ::
        (init.tokens ++ [.sign ';', .sign '\n'])) := by
  have written : (indentation depth ++ type.text ++ " " ++ name ++ " = " ++ init.text ++
      ";").toList = (indentation depth).toList ++ (type.text.toList ++ ' ' :: (name.toList ++
        ' ' :: '=' :: ' ' :: (init.text.toList ++ [';']))) := by
    simp
  rw [tokens, lines, lineTokens_cons, written, scan_indentation, scan_append_sign rfl,
    scan_append_sign rfl, scan_sign rfl, scan_sign rfl, scan_append_sign rfl, isWord.scan_eq]
  simp [lineTokens, scan, JavaType.tokens, Expr.tokens]

theorem tokens_expression (depth : Nat) (expr : Expr) :
    (expression expr).tokens depth =
      margin depth ++ (expr.tokens ++ [.sign ';', .sign '\n']) := by
  have written : (indentation depth ++ expr.text ++ ";").toList =
      (indentation depth).toList ++ (expr.text.toList ++ [';']) := by
    simp
  rw [tokens, lines, lineTokens_cons, written, scan_indentation, scan_append_sign rfl]
  simp [lineTokens, scan, Expr.tokens]

theorem lineTokens_close (depth : Nat) :
    lineTokens [indentation depth ++ "\x7d"] = closing depth := by
  rw [lineTokens_cons, String.toList_append, scan_indentation]
  simp [lineTokens, scan, isWordCharacter, closing]

theorem lineTokens_alternative (depth : Nat) (elseBody : List Stmt) :
    lineTokens ((if elseBody.isEmpty then []
        else (indentation depth ++ "\x7d else \x7b") :: bodyLines (depth + 1) elseBody) ++
      [indentation depth ++ "\x7d"]) = alternative depth elseBody := by
  rw [lineTokens_append, lineTokens_close, alternative]
  split
  · rfl
  · have tokens : scan ['\x7d', ' ', 'e', 'l', 's', 'e', ' ', '\x7b'] = [.sign '\x7d', .sign ' ',
        .word ['e', 'l', 's', 'e'], .sign ' ', .sign '\x7b'] := by decide
    rw [lineTokens_cons, String.toList_append, scan_indentation]
    simp [tokens, bodyTokens]

theorem tokens_forEach (depth : Nat) (elementType : JavaType) {name : String}
    (isWord : IsWord name) (iterable : Expr) (body : List Stmt) :
    (forEach elementType name iterable body).tokens depth = margin depth ++
      .word ['f', 'o', 'r'] :: .sign ' ' :: .sign '(' :: (elementType.tokens ++
        .sign ' ' :: .word name.toList :: .sign ' ' :: .sign ':' :: .sign ' ' ::
          (iterable.tokens ++ .sign ')' :: .sign ' ' :: .sign '\x7b' :: .sign '\n' ::
            (bodyTokens (depth + 1) body ++ closing depth))) := by
  have written : (indentation depth ++ "for (" ++ elementType.text ++ " " ++ name ++ " : " ++
      iterable.text ++ ") \x7b").toList = (indentation depth).toList ++ (['f', 'o', 'r'] ++
        ' ' :: '(' :: (elementType.text.toList ++ ' ' :: (name.toList ++
          ' ' :: ':' :: ' ' :: (iterable.text.toList ++ ')' :: ' ' :: ['\x7b'])))) := by
    simp
  have keyword : scan ['f', 'o', 'r'] = [.word ['f', 'o', 'r']] := by decide
  rw [tokens, lines, lineTokens_cons, lineTokens_append, lineTokens_close, written,
    scan_indentation, scan_append_sign rfl, keyword, scan_sign rfl, scan_append_sign rfl,
    scan_append_sign rfl, isWord.scan_eq, scan_sign rfl, scan_sign rfl, scan_append_sign rfl]
  simp [scan, isWordCharacter, JavaType.tokens, Expr.tokens, bodyTokens]

theorem tokens_branch (depth : Nat) (condition : Expr) (thenBody elseBody : List Stmt) :
    (branch condition thenBody elseBody).tokens depth = margin depth ++
      .word ['i', 'f'] :: .sign ' ' :: .sign '(' :: (condition.tokens ++
        .sign ')' :: .sign ' ' :: .sign '\x7b' :: .sign '\n' ::
          (bodyTokens (depth + 1) thenBody ++ alternative depth elseBody)) := by
  have written : (indentation depth ++ "if (" ++ condition.text ++ ") \x7b").toList =
      (indentation depth).toList ++ (['i', 'f'] ++ ' ' :: '(' :: (condition.text.toList ++
        ')' :: ' ' :: ['\x7b'])) := by
    simp
  have keyword : scan ['i', 'f'] = [.word ['i', 'f']] := by decide
  rw [tokens, lines, lineTokens_cons, List.append_assoc, lineTokens_append, lineTokens_alternative,
    written, scan_indentation, scan_append_sign rfl, keyword, scan_sign rfl, scan_append_sign rfl]
  simp [scan, isWordCharacter, Expr.tokens, bodyTokens]

end Stmt

end PropertyAssignment
