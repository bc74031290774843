import Mathlib.Data.List.Forall2
import PropertyAssignment.Code.Comparison
import PropertyAssignment.Proofs.TextTokens

/-!
# Reading expressions back from their tokens

Where the names are words and no operand needs parentheses, the tokens of an expression tell how it
is built, and what stands behind it is told apart from it by a comma, a closing parenthesis or a
semicolon. Calls and null tests stand behind the expression that they belong to, so an expression is
first taken apart along this spine: null tests behind casts in front of a chain of calls, which
begins with a name, a call without receiver or a constructor call. Two spines with the same tokens
agree part by part.
-/

namespace PropertyAssignment

namespace Text

/-- Whether the tokens begin with a word or an opening parenthesis, as those of every expression. -/
inductive Opens : List Token → Prop
  | word (letters : List Char) (rest : List Token) : Opens (.word letters :: rest)
  | parenthesis (rest : List Token) : Opens (.sign '(' :: rest)

theorem Opens.append {tokens : List Token} (opens : Opens tokens) (rest : List Token) :
    Opens (tokens ++ rest) := by
  cases opens with
  | word letters others => exact .word letters (others ++ rest)
  | parenthesis others => exact .parenthesis (others ++ rest)

theorem Opens.ne_sign {c : Char} (notParenthesis : c ≠ '(') {tokens : List Token}
    (opens : Opens tokens) (rest : List Token) : tokens ≠ .sign c :: rest := by
  intro same
  cases opens with
  | word => cases same
  | parenthesis => exact notParenthesis (Token.sign.inj (List.cons.inj same).1).symm

section
variable {α : Type} {tokens : α → List Token} {related : α → α → Prop} {ends : List Char}

/-- Whether two things are related as soon as their tokens in front of some of the given signs, and
of whatever is behind these, are the same. -/
def ReadsAs (ends : List Char) (tokens : α → List Token) (related : α → α → Prop) (x y : α) :
    Prop :=
  ∀ c ∈ ends, ∀ d ∈ ends, ∀ r s, tokens x ++ .sign c :: r = tokens y ++ .sign d :: s →
    related x y ∧ c = d ∧ r = s

/-- What stands behind the first of some listed tokens in front of a closing sign. -/
def behindFirst (close : Char) (rest : List Token) : List (List Token) → List Token
  | [] => .sign close :: rest
  | next :: others => .sign ',' :: .sign ' ' :: (listed (next :: others) ++ .sign close :: rest)

theorem listed_cons_append (first : List Token) (others : List (List Token)) (close : Char)
    (rest : List Token) :
    listed (first :: others) ++ .sign close :: rest = first ++ behindFirst close rest others := by
  cases others with
  | nil => simp [listed, behindFirst]
  | cons next others => simp [listed_cons_cons, behindFirst]

theorem forall₂_of_listed (close : Char) (notComma : close ≠ ',') (notParenthesis : close ≠ '(')
    (commaEnds : ',' ∈ ends) (closeEnds : close ∈ ends) {xs ys : List α} {r s : List Token}
    (opensXs : ∀ x ∈ xs, Opens (tokens x)) (opensYs : ∀ y ∈ ys, Opens (tokens y))
    (each : ∀ x ∈ xs, ∀ y ∈ ys, ReadsAs ends tokens related x y)
    (same : listed (xs.map tokens) ++ .sign close :: r =
      listed (ys.map tokens) ++ .sign close :: s) :
    List.Forall₂ related xs ys ∧ r = s := by
  induction xs generalizing ys with
  | nil =>
    cases ys with
    | nil => exact ⟨.nil, (List.cons.inj same).2⟩
    | cons y ys =>
      rw [List.map_cons, listed_cons_append] at same
      exact absurd same.symm (((opensYs y List.mem_cons_self).append _).ne_sign notParenthesis r)
  | cons x xs ih =>
    cases ys with
    | nil =>
      rw [List.map_cons, listed_cons_append] at same
      exact absurd same (((opensXs x List.mem_cons_self).append _).ne_sign notParenthesis s)
    | cons y ys =>
      rw [List.map_cons, List.map_cons, listed_cons_append, listed_cons_append] at same
      have first := each x List.mem_cons_self y List.mem_cons_self
      -- The sign behind the first one tells whether there are others.
      cases xs with
      | nil =>
        cases ys with
        | nil =>
          obtain ⟨isRelated, _, behind⟩ := first _ closeEnds _ closeEnds _ _ same
          exact ⟨.cons isRelated .nil, behind⟩
        | cons => exact absurd (first _ closeEnds _ commaEnds _ _ same).2.1 notComma
      | cons =>
        cases ys with
        | nil => exact absurd (first _ commaEnds _ closeEnds _ _ same).2.1.symm notComma
        | cons =>
          obtain ⟨isRelated, _, blank⟩ := first _ commaEnds _ commaEnds _ _ same
          obtain ⟨others, behind⟩ := ih (fun x member => opensXs x (.tail _ member))
            (fun y member => opensYs y (.tail _ member))
            (fun x member y memberY => each x (.tail _ member) y (.tail _ memberY))
            (List.cons.inj blank).2
          exact ⟨.cons isRelated others, behind⟩

end

end Text

open Text

namespace JavaType

/-- Types all of whose simple names are words. -/
inductive Readable : JavaType → Prop
  | mk {name : QualifiedName} {arguments : List JavaType} {container : Option ContainerKind}
      (simple : IsWord name.simple) (each : ∀ argument ∈ arguments, Readable argument) :
      Readable ⟨name, arguments, container⟩

/-- The signs that may stand behind a type. A type with arguments goes on with another sign. -/
def ends : List Char := [',', '>', ' ', '(', ')']

theorem Readable.opens {type : JavaType} (readable : type.Readable) : Opens type.tokens := by
  cases readable with
  | mk simple => exact tokens_mk simple _ _ ▸ .word _ _

theorem Readable.reads {type : JavaType} (readable : type.Readable) :
    ∀ other : JavaType, other.Readable →
      ReadsAs ends tokens (fun first second => first.text = second.text) type other := by
  induction readable with
  | @mk name arguments container simple argumentsReadable ih =>
    intro other otherReadable c isEnd d isEndOther r s same
    obtain @⟨otherName, others, otherContainer, otherSimple, othersReadable⟩ := otherReadable
    -- It is enough that what is behind the types is the same.
    suffices behind : Token.sign c :: r = .sign d :: s by
      rw [behind] at same
      have sameTokens := List.append_cancel_right same
      obtain ⟨sameSign, rest⟩ := List.cons.inj behind
      exact ⟨text_eq_of_tokens_eq sameTokens, Token.sign.inj sameSign, rest⟩
    rw [tokens_mk simple, tokens_mk otherSimple, List.cons_append, List.cons_append] at same
    obtain ⟨_, same⟩ := List.cons.inj same
    have noBracket : '<' ∉ ends := by decide
    cases arguments with
    | nil =>
      cases others with
      | nil => exact same
      | cons =>
        have bracket : c = '<' := Token.sign.inj (List.cons.inj same).1
        exact absurd (bracket ▸ isEnd) noBracket
    | cons first rest =>
      cases others with
      | nil =>
        have bracket : '<' = d := Token.sign.inj (List.cons.inj same).1
        exact absurd (bracket ▸ isEndOther) noBracket
      | cons =>
        simp only [argumentTokens, List.cons_append, List.append_assoc, List.nil_append] at same
        obtain ⟨_, same⟩ := List.cons.inj same
        exact (forall₂_of_listed '>' (by decide) (by decide) (by decide) (by decide)
          (fun argument member => (argumentsReadable argument member).opens)
          (fun argument member => (othersReadable argument member).opens)
          (fun argument member other memberOther =>
            ih argument member other (othersReadable other memberOther)) same).2

def sameText (first second : JavaType) : Bool :=
  first.text == second.text

end JavaType

namespace Expr

/-- Whether a call on the expression needs no parentheses around it. -/
def isReceiver : Expr → Bool
  | .cast _ _ => false
  | .notNull _ => false
  | _ => true

/-- Whether a cast of the expression needs no parentheses around it. -/
def isOperand : Expr → Bool
  | .notNull _ => false
  | _ => true

/-- Expressions whose names are words, the variables not the null literal, without opaque text and
without operands that need parentheses. -/
inductive Readable : Expr → Prop
  | var {name : String} (isWord : IsWord name) (notNull : name ≠ "null") : Readable (.var name)
  | null : Readable .null
  | invoke {method : String} {arguments : List Expr} (isWord : IsWord method)
      (each : ∀ argument ∈ arguments, Readable argument) : Readable (.invoke method arguments)
  | call {receiver : Expr} {method : String} {arguments : List Expr}
      (isReceiver : receiver.isReceiver = true) (readable : Readable receiver)
      (isWord : IsWord method) (each : ∀ argument ∈ arguments, Readable argument) :
      Readable (.call receiver method arguments)
  | new {type : JavaType} {arguments : List Expr} (readable : type.Readable)
      (each : ∀ argument ∈ arguments, Readable argument) : Readable (.new type arguments)
  | cast {type : JavaType} {operand : Expr} (readableType : type.Readable)
      (isOperand : operand.isOperand = true) (readable : Readable operand) :
      Readable (.cast type operand)
  | notNull {operand : Expr} (readable : Readable operand) : Readable (.notNull operand)

def ends : List Char := [',', ')', ';']

/-- Whether an expression is read back from its tokens: readable expressions have the same tokens
only if they agree with it up to types of the same text. -/
def IsReadBack (expr : Expr) : Prop :=
  ∀ other : Expr, other.Readable →
    ReadsAs ends tokens (fun a b => a.agrees JavaType.sameText b = true) expr other

theorem isOperand_of_isReceiver {expr : Expr} (isReceiver : expr.isReceiver = true) :
    expr.isOperand = true := by
  cases expr with
  | notNull => exact isReceiver
  | _ => rfl

theorem Readable.opens {expr : Expr} (readable : expr.Readable) : Opens expr.tokens := by
  induction readable with
  | var isWord => exact tokens_var isWord ▸ .word _ _
  | null => exact .word _ _
  | invoke isWord => exact tokens_invoke isWord _ ▸ .word _ _
  | call _ _ isWord _ ih => exact tokens_call _ isWord _ ▸ ih.append _
  | new => exact tokens_new _ _ ▸ .word _ _
  | cast => exact tokens_cast _ _ ▸ .parenthesis _
  | notNull _ ih => exact tokens_notNull _ ▸ ih.append _

theorem agreesAll_of_forall₂ {agree : JavaType → JavaType → Bool} {exprs others : List Expr}
    (each : List.Forall₂ (fun a b => a.agrees agree b = true) exprs others) :
    agreesAll agree exprs others = true := by
  induction each with
  | nil => rfl
  | cons first _ ih => rw [agreesAll, first, ih, Bool.and_self]

theorem agreesAll_of_argumentTokens {arguments others : List Expr} {r s : List Token}
    (each : ∀ argument ∈ arguments, argument.Readable ∧ argument.IsReadBack)
    (eachOther : ∀ other ∈ others, other.Readable)
    (same : argumentTokens arguments ++ r = argumentTokens others ++ s) :
    agreesAll JavaType.sameText arguments others = true ∧ r = s := by
  simp only [argumentTokens, List.cons_append, List.append_assoc, List.nil_append] at same
  obtain ⟨agree, behind⟩ := forall₂_of_listed ')' (by decide) (by decide) (by decide)
    (by decide) (fun argument member => (each argument member).1.opens)
    (fun other member => (eachOther other member).opens)
    (fun argument member other memberOther =>
      (each argument member).2 other (eachOther other memberOther)) (List.cons.inj same).2
  exact ⟨agreesAll_of_forall₂ agree, behind⟩

/-! ### Spines -/

/-- What a chain of calls begins with; the null literal is the name `null`. -/
inductive Atom where
  | name (text : String)
  | invoke (method : String) (arguments : List Expr)
  | new (type : JavaType) (arguments : List Expr)

def Atom.expr : Atom → Expr
  | .name text => if text = "null" then .null else .var text
  | .invoke method arguments => .invoke method arguments
  | .new type arguments => .new type arguments

/-- The calls with their methods and arguments, one on the result of the other. -/
def withCalls (expr : Expr) (calls : List (String × List Expr)) : Expr :=
  calls.foldl (fun receiver call => .call receiver call.1 call.2) expr

/-- The casts around an expression, the outermost one first. -/
def underCasts (expr : Expr) (casts : List JavaType) : Expr :=
  casts.foldr .cast expr

def tested (expr : Expr) : Nat → Expr
  | 0 => expr
  | n + 1 => .notNull (expr.tested n)

/-- An expression taken apart along the operands that it begins or goes on with. -/
structure Spine where
  casts : List JavaType
  atom : Atom
  calls : List (String × List Expr)
  tests : Nat

def Spine.expr (spine : Spine) : Expr :=
  ((spine.atom.expr.withCalls spine.calls).underCasts spine.casts).tested spine.tests

/-- Whether the names are words and all arguments are readable and have a property. -/
inductive Atom.All (P : Expr → Prop) : Atom → Prop
  | name {text : String} (isWord : IsWord text) : All P (.name text)
  | invoke {method : String} {arguments : List Expr} (isWord : IsWord method)
      (each : ∀ argument ∈ arguments, argument.Readable ∧ P argument) :
      All P (.invoke method arguments)
  | new {type : JavaType} {arguments : List Expr} (readable : type.Readable)
      (each : ∀ argument ∈ arguments, argument.Readable ∧ P argument) : All P (.new type arguments)

@[inherit_doc Atom.All]
structure Spine.All (P : Expr → Prop) (spine : Spine) : Prop where
  casts : ∀ type ∈ spine.casts, type.Readable
  atom : spine.atom.All P
  calls : ∀ call ∈ spine.calls,
    IsWord call.1 ∧ ∀ argument ∈ call.2, argument.Readable ∧ P argument

theorem Spine.all_atom {P : Expr → Prop} {atom : Atom} (all : atom.All P) :
    Spine.All P ⟨[], atom, [], 0⟩ :=
  ⟨nofun, all, nofun⟩

/-- A readable expression has a spine. A property holds of all arguments along it if it holds of
each expression with such a spine. -/
theorem Readable.exists_spine {P : Expr → Prop}
    (holds : ∀ spine : Spine, spine.All P → P spine.expr) {expr : Expr} (readable : expr.Readable) :
    ∃ spine : Spine, spine.All P ∧ spine.expr = expr ∧
      (expr.isOperand = true → spine.tests = 0) ∧ (expr.isReceiver = true → spine.casts = []) := by
  have holdsOfAll {arguments : List Expr} (each : ∀ argument ∈ arguments, argument.Readable)
      (ih : ∀ argument ∈ arguments, ∃ spine : Spine, spine.All P ∧ spine.expr = argument ∧
        (argument.isOperand = true → spine.tests = 0) ∧
        (argument.isReceiver = true → spine.casts = [])) :
      ∀ argument ∈ arguments, argument.Readable ∧ P argument := by
    intro argument member
    obtain ⟨spine, all, rfl, _⟩ := ih argument member
    exact ⟨each _ member, holds spine all⟩
  induction readable with
  | @var name isWord notNull =>
    refine ⟨⟨[], .name name, [], 0⟩, Spine.all_atom (.name isWord), ?_, fun _ => rfl, fun _ => rfl⟩
    exact if_neg notNull
  | null =>
    exact ⟨⟨[], .name "null", [], 0⟩, Spine.all_atom (.name (by decide)), rfl, fun _ => rfl,
      fun _ => rfl⟩
  | @invoke method arguments isWord each ih =>
    exact ⟨⟨[], .invoke method arguments, [], 0⟩,
      Spine.all_atom (.invoke isWord (holdsOfAll each ih)), rfl, fun _ => rfl, fun _ => rfl⟩
  | @new type arguments readable each ih =>
    exact ⟨⟨[], .new type arguments, [], 0⟩,
      Spine.all_atom (.new readable (holdsOfAll each ih)), rfl, fun _ => rfl, fun _ => rfl⟩
  | @call receiver method arguments isReceiver _ isWord each ih ihArguments =>
    obtain ⟨⟨casts, atom, calls, tests⟩, all, rfl, noTests, noCasts⟩ := ih
    obtain rfl : tests = 0 := noTests (isOperand_of_isReceiver isReceiver)
    obtain rfl : casts = [] := noCasts isReceiver
    refine ⟨⟨[], atom, calls ++ [(method, arguments)], 0⟩, ⟨nofun, all.atom, ?_⟩, ?_, fun _ => rfl,
      fun _ => rfl⟩
    · intro call member
      rcases List.mem_append.mp member with before | last
      · exact all.calls call before
      · rw [List.mem_singleton.mp last]
        exact ⟨isWord, holdsOfAll each ihArguments⟩
    · simp [Spine.expr, tested, underCasts, withCalls]
  | @cast type operand readableType isOperand _ ih =>
    obtain ⟨⟨casts, atom, calls, tests⟩, all, rfl, noTests, _⟩ := ih
    obtain rfl : tests = 0 := noTests isOperand
    refine ⟨⟨type :: casts, atom, calls, 0⟩, ⟨?_, all.atom, all.calls⟩, rfl, fun _ => rfl, nofun⟩
    intro other member
    rcases List.mem_cons.mp member with rfl | later
    · exact readableType
    · exact all.casts other later
  | @notNull operand _ ih =>
    obtain ⟨⟨casts, atom, calls, tests⟩, all, rfl, _⟩ := ih
    exact ⟨⟨casts, atom, calls, tests + 1⟩, ⟨all.casts, all.atom, all.calls⟩, rfl, nofun, nofun⟩

theorem Readable.exists_expr_eq {expr : Expr} (readable : expr.Readable) :
    ∃ spine : Spine, spine.All (fun _ => True) ∧ spine.expr = expr := by
  obtain ⟨spine, all, same, _⟩ := readable.exists_spine (P := fun _ => True) fun _ _ => trivial
  exact ⟨spine, all, same⟩

/-! ### The tokens of a spine -/

def castTokens (casts : List JavaType) : List Token :=
  casts.flatMap fun type => .sign '(' :: (type.tokens ++ [.sign ')', .sign ' '])

def callTokens (calls : List (String × List Expr)) : List Token :=
  calls.flatMap fun call => .sign '.' :: .word call.1.toList :: argumentTokens call.2

def testTokens (tests : Nat) : List Token :=
  (List.replicate tests nullTest).flatten

theorem tokens_name {text : String} (isWord : IsWord text) :
    (Atom.name text).expr.tokens = [.word text.toList] := by
  by_cases isNull : text = "null"
  · rw [isNull]
    rfl
  · rw [Atom.expr, if_neg isNull, tokens_var isWord]

theorem tokens_withCalls (expr : Expr) {calls : List (String × List Expr)}
    (areWords : ∀ call ∈ calls, IsWord call.1) :
    (expr.withCalls calls).tokens = expr.tokens ++ callTokens calls := by
  induction calls generalizing expr with
  | nil => simp [withCalls, callTokens]
  | cons call rest ih =>
    have tokensRest := ih (.call expr call.1 call.2) fun other member =>
      areWords other (.tail _ member)
    rw [withCalls, List.foldl_cons, ← withCalls, tokensRest,
      tokens_call expr (areWords call List.mem_cons_self)]
    simp [callTokens]

theorem tokens_underCasts (expr : Expr) (casts : List JavaType) :
    (expr.underCasts casts).tokens = castTokens casts ++ expr.tokens := by
  induction casts with
  | nil => rfl
  | cons type rest ih =>
    rw [underCasts, List.foldr_cons, ← underCasts, tokens_cast, ih]
    simp [castTokens]

theorem tokens_tested (expr : Expr) (tests : Nat) :
    (expr.tested tests).tokens = expr.tokens ++ testTokens tests := by
  induction tests with
  | zero => simp [tested, testTokens]
  | succ n ih =>
    rw [tested, tokens_notNull, ih, testTokens, testTokens, List.replicate_succ']
    simp

theorem Spine.All.tokens_expr {P : Expr → Prop} {spine : Spine} (all : spine.All P) :
    spine.expr.tokens = castTokens spine.casts ++
      (spine.atom.expr.tokens ++ (callTokens spine.calls ++ testTokens spine.tests)) := by
  rw [Spine.expr, tokens_tested, tokens_underCasts,
    tokens_withCalls _ fun call member => (all.calls call member).1]
  simp only [List.append_assoc]

/-- What can stand behind a name that is an expression by itself. -/
inductive EndsName : List Token → Prop
  | sign {c : Char} (isEnd : c ∈ ['.', ',', ')', ';']) (rest : List Token) :
      EndsName (.sign c :: rest)
  | test (rest : List Token) : EndsName (.sign ' ' :: .sign '!' :: rest)

theorem endsName_tests (tests : Nat) {c : Char} (isEnd : c ∈ ends) (rest : List Token) :
    EndsName (testTokens tests ++ .sign c :: rest) := by
  cases tests with
  | zero => exact .sign (List.mem_cons_of_mem '.' isEnd) rest
  | succ => exact .test _

theorem endsName_calls (calls : List (String × List Expr)) {rest : List Token}
    (endsName : EndsName rest) : EndsName (callTokens calls ++ rest) := by
  cases calls with
  | nil => exact endsName
  | cons => exact .sign List.mem_cons_self _

section
variable {r s : List Token}

theorem EndsName.ne_arguments (endsName : EndsName r) (arguments : List Expr) :
    r ≠ argumentTokens arguments ++ s := by
  rintro rfl
  cases endsName with
  | sign isEnd => exact absurd isEnd (by decide)

theorem EndsName.ne_type (endsName : EndsName r) {type : JavaType} (readable : type.Readable) :
    r ≠ .sign ' ' :: (type.tokens ++ s) := by
  rintro rfl
  generalize behind : type.tokens ++ s = tokens at endsName
  cases endsName with
  | sign isEnd => exact absurd isEnd (by decide)
  | test rest => exact (readable.opens.append s).ne_sign (by decide) rest behind

theorem Atom.All.agrees_of_tokens {P : Expr → Prop} {atom other : Atom}
    (all : atom.All IsReadBack) (allOther : other.All P)
    (endsName : EndsName r) (endsOther : EndsName s)
    (same : atom.expr.tokens ++ r = other.expr.tokens ++ s) :
    atom.expr.agrees JavaType.sameText other.expr = true ∧ r = s := by
  cases all with
  | @name text isWord =>
    rw [tokens_name isWord] at same
    cases allOther with
    | @name otherText otherIsWord =>
      rw [tokens_name otherIsWord] at same
      obtain ⟨sameName, behind⟩ := List.cons.inj same
      rw [String.toList_inj.mp (Token.word.inj sameName)]
      refine ⟨?_, behind⟩
      by_cases isNull : otherText = "null" <;> simp [Atom.expr, isNull, agrees]
    | @invoke method arguments otherIsWord =>
      rw [Atom.expr, tokens_invoke otherIsWord] at same
      exact absurd (List.cons.inj same).2 (endsName.ne_arguments arguments)
    | @new type arguments readable =>
      simp only [Atom.expr, tokens_new, List.cons_append, List.append_assoc] at same
      exact absurd (List.cons.inj same).2 (endsName.ne_type readable)
  | @invoke method arguments isWord each =>
    rw [Atom.expr, tokens_invoke isWord] at same
    cases allOther with
    | name otherIsWord =>
      rw [tokens_name otherIsWord] at same
      exact absurd (List.cons.inj same).2.symm (endsOther.ne_arguments arguments)
    | invoke otherIsWord eachOther =>
      rw [Atom.expr, tokens_invoke otherIsWord] at same
      obtain ⟨sameMethod, behindName⟩ := List.cons.inj same
      obtain ⟨agree, behind⟩ := agreesAll_of_argumentTokens each
        (fun other member => (eachOther other member).1) behindName
      refine ⟨?_, behind⟩
      simp [Atom.expr, agrees, agree, String.toList_inj.mp (Token.word.inj sameMethod)]
    | new readable =>
      rw [Atom.expr, tokens_new] at same
      have behindName := (List.cons.inj same).2
      exact absurd (List.cons.inj behindName).1 (by decide)
  | @new type arguments readable each =>
    rw [Atom.expr, tokens_new, List.cons_append, List.cons_append, List.append_assoc] at same
    cases allOther with
    | name otherIsWord =>
      rw [tokens_name otherIsWord] at same
      exact absurd (List.cons.inj same).2.symm (endsOther.ne_type readable)
    | invoke otherIsWord =>
      rw [Atom.expr, tokens_invoke otherIsWord] at same
      have behindName := (List.cons.inj same).2
      exact absurd (List.cons.inj behindName).1 (by decide)
    | @new otherType others otherReadable eachOther =>
      rw [Atom.expr, tokens_new, List.cons_append, List.cons_append, List.append_assoc] at same
      have behindBlank := (List.cons.inj (List.cons.inj same).2).2
      obtain ⟨sameText, _, behindType⟩ := readable.reads otherType otherReadable '(' (by decide)
        '(' (by decide) _ _ behindBlank
      obtain ⟨agree, behind⟩ := agreesAll_of_argumentTokens each
        (fun other member => (eachOther other member).1)
        (congrArg (List.cons (.sign '(')) behindType)
      refine ⟨?_, behind⟩
      simp [Atom.expr, agrees, agree, JavaType.sameText, sameText]

theorem forall₂_of_callTokens {P : Expr → Prop} {calls others : List (String × List Expr)}
    (each : ∀ call ∈ calls,
      IsWord call.1 ∧ ∀ argument ∈ call.2, argument.Readable ∧ argument.IsReadBack)
    (eachOther : ∀ call ∈ others,
      IsWord call.1 ∧ ∀ argument ∈ call.2, argument.Readable ∧ P argument)
    (noCall : ∀ rest, r ≠ .sign '.' :: rest) (noCallOther : ∀ rest, s ≠ .sign '.' :: rest)
    (same : callTokens calls ++ r = callTokens others ++ s) :
    List.Forall₂ (fun a b => a.1 = b.1 ∧ agreesAll JavaType.sameText a.2 b.2 = true) calls others ∧
      r = s := by
  induction calls generalizing others with
  | nil =>
    cases others with
    | nil => exact ⟨.nil, same⟩
    | cons call rest => exact absurd same (noCall _)
  | cons call calls ih =>
    cases others with
    | nil => exact absurd same.symm (noCallOther _)
    | cons other others =>
      simp only [callTokens, List.flatMap_cons, List.cons_append, List.append_assoc,
        List.cons.injEq, Token.word.injEq, true_and] at same
      obtain ⟨sameMethod, behindMethod⟩ := same
      obtain ⟨agree, behindCall⟩ := agreesAll_of_argumentTokens (each call List.mem_cons_self).2
        (fun argument member => ((eachOther other List.mem_cons_self).2 argument member).1)
        behindMethod
      obtain ⟨agreeRest, behind⟩ := ih (fun other member => each other (.tail _ member))
        (fun other member => eachOther other (.tail _ member)) behindCall
      exact ⟨.cons ⟨String.toList_inj.mp sameMethod, agree⟩ agreeRest, behind⟩

theorem forall₂_of_castTokens {casts others : List JavaType} {letters otherLetters : List Char}
    (each : ∀ type ∈ casts, type.Readable) (eachOther : ∀ type ∈ others, type.Readable)
    (same : castTokens casts ++ .word letters :: r = castTokens others ++ .word otherLetters :: s) :
    List.Forall₂ (fun a b => a.text = b.text) casts others ∧
      Token.word letters :: r = .word otherLetters :: s := by
  induction casts generalizing others with
  | nil =>
    cases others with
    | nil => exact ⟨.nil, same⟩
    | cons => exact absurd (List.cons.inj same).1 (by simp)
  | cons type casts ih =>
    cases others with
    | nil => exact absurd (List.cons.inj same).1 (by simp)
    | cons other others =>
      simp only [castTokens, List.flatMap_cons, List.cons_append, List.append_assoc,
        List.cons.injEq, true_and] at same
      obtain ⟨sameText, _, behindType⟩ := (each type List.mem_cons_self).reads other
        (eachOther other List.mem_cons_self) ')' (by decide) ')' (by decide) _ _ same
      obtain ⟨rest, behind⟩ := ih (fun other member => each other (.tail _ member))
        (fun other member => eachOther other (.tail _ member)) (List.cons.inj behindType).2
      exact ⟨.cons sameText rest, behind⟩

/-- Null tests are counted by their tokens in front of a sign that ends an expression. -/
theorem eq_of_testTokens {tests others : Nat} {c d : Char}
    (isEnd : c ∈ ends) (isEndOther : d ∈ ends)
    (same : testTokens tests ++ .sign c :: r = testTokens others ++ .sign d :: s) :
    tests = others ∧ c = d ∧ r = s := by
  induction tests generalizing others with
  | zero =>
    cases others with
    | zero =>
      obtain ⟨sameSign, behind⟩ := List.cons.inj same
      exact ⟨rfl, Token.sign.inj sameSign, behind⟩
    | succ =>
      have blank : c = ' ' := Token.sign.inj (List.cons.inj same).1
      exact absurd isEnd (blank ▸ by decide)
  | succ n ih =>
    cases others with
    | zero =>
      have blank : ' ' = d := Token.sign.inj (List.cons.inj same).1
      exact absurd isEndOther (blank ▸ by decide)
    | succ m =>
      simp only [testTokens, List.replicate_succ, List.flatten_cons, List.append_assoc] at same
      obtain ⟨sameNumber, behind⟩ := ih (List.append_cancel_left same)
      exact ⟨congrArg (· + 1) sameNumber, behind⟩

end

/-! ### Agreement along spines -/

section
variable {expr other : Expr}

theorem agrees_withCalls (agree : expr.agrees JavaType.sameText other = true)
    {calls others : List (String × List Expr)}
    (each : List.Forall₂ (fun a b => a.1 = b.1 ∧ agreesAll JavaType.sameText a.2 b.2 = true)
      calls others) :
    (expr.withCalls calls).agrees JavaType.sameText (other.withCalls others) = true := by
  induction each generalizing expr other with
  | nil => exact agree
  | @cons call otherCall _ _ first _ ih =>
    obtain ⟨sameMethod, agreeArguments⟩ := first
    have agreeCall : agrees JavaType.sameText (.call expr call.1 call.2)
        (.call other otherCall.1 otherCall.2) = true := by
      simp [agrees, agree, sameMethod, agreeArguments]
    exact ih agreeCall

theorem agrees_underCasts (agree : expr.agrees JavaType.sameText other = true)
    {casts others : List JavaType} (each : List.Forall₂ (fun a b => a.text = b.text) casts others) :
    (expr.underCasts casts).agrees JavaType.sameText (other.underCasts others) = true := by
  induction each with
  | nil => exact agree
  | @cons type otherType _ _ sameText _ ih =>
    rw [underCasts, List.foldr_cons, underCasts, List.foldr_cons, agrees, Bool.and_eq_true]
    exact ⟨beq_iff_eq.mpr sameText, ih⟩

theorem agrees_tested (agree : expr.agrees JavaType.sameText other = true) (tests : Nat) :
    (expr.tested tests).agrees JavaType.sameText (other.tested tests) = true := by
  induction tests with
  | zero => exact agree
  | succ n ih => rwa [tested, tested, agrees]

end

theorem Atom.All.exists_word {P : Expr → Prop} {atom : Atom} (all : atom.All P) :
    ∃ letters rest, atom.expr.tokens = .word letters :: rest := by
  cases all with
  | name isWord => exact ⟨_, _, tokens_name isWord⟩
  | invoke isWord => exact ⟨_, _, tokens_invoke isWord _⟩
  | new => exact ⟨_, _, tokens_new _ _⟩

theorem testTokens_ne_call (tests : Nat) {c : Char} (isEnd : c ∈ ends) (rest behind : List Token) :
    testTokens tests ++ .sign c :: rest ≠ .sign '.' :: behind := by
  intro same
  cases tests with
  | zero =>
    have dot : c = '.' := Token.sign.inj (List.cons.inj same).1
    exact absurd isEnd (dot ▸ by decide)
  | succ => exact absurd (List.cons.inj same).1 (by decide)

/-- Expressions are read back from their tokens if the arguments along their spines are. -/
theorem Spine.All.isReadBack {spine : Spine} (all : spine.All IsReadBack) :
    spine.expr.IsReadBack := by
  intro otherExpr otherReadable c isEnd d isEndOther r s same
  obtain ⟨other, allOther, rfl⟩ := otherReadable.exists_expr_eq
  rw [all.tokens_expr, allOther.tokens_expr] at same
  simp only [List.append_assoc] at same
  obtain ⟨letters, rest, begins⟩ := all.atom.exists_word
  obtain ⟨otherLetters, otherRest, otherBegins⟩ := allOther.atom.exists_word
  rw [begins, otherBegins, List.cons_append, List.cons_append] at same
  obtain ⟨casts, behindCasts⟩ := forall₂_of_castTokens all.casts allOther.casts same
  rw [← List.cons_append, ← List.cons_append, ← begins, ← otherBegins] at behindCasts
  obtain ⟨atoms, behindAtoms⟩ := all.atom.agrees_of_tokens allOther.atom
    (endsName_calls _ (endsName_tests _ isEnd r)) (endsName_calls _ (endsName_tests _ isEndOther s))
    behindCasts
  obtain ⟨calls, behindCalls⟩ := forall₂_of_callTokens all.calls allOther.calls
    (testTokens_ne_call _ isEnd r) (testTokens_ne_call _ isEndOther s) behindAtoms
  obtain ⟨sameTests, behind⟩ := eq_of_testTokens isEnd isEndOther behindCalls
  refine ⟨?_, behind⟩
  rw [Spine.expr, Spine.expr, sameTests]
  exact agrees_tested (agrees_underCasts (agrees_withCalls atoms calls) casts) other.tests

/-- Readable expressions are read back from their tokens. -/
theorem Readable.isReadBack {expr : Expr} (readable : expr.Readable) : expr.IsReadBack := by
  obtain ⟨spine, all, rfl, _⟩ := readable.exists_spine fun _ => Spine.All.isReadBack
  exact all.isReadBack

end Expr

end PropertyAssignment
