import PropertyAssignment.Proofs.ExpressionReading

/-!
# Reading code back from its text

Each statement begins with a word or a parenthesis behind its indentation and shows by its first
line which form it has, and a body ends at a line that begins with a brace. So readable statements
are read back from their tokens, one after the other, and the text of a method body tells what the
statements are. Types are written with their simple names, so it tells of a type no more than its
text. This is all that is lost: code that agrees up to types of the same text has the same text.
-/

namespace PropertyAssignment

open Text

theorem JavaType.Readable.ne_head {type : JavaType} (readable : type.Readable)
    (letters keyword : List Char) (rest others : List Token) :
    type.tokens ++ .sign ' ' :: .word letters :: rest ≠
      .word keyword :: .sign ' ' :: .sign '(' :: others := by
  intro same
  cases readable with
  | @mk name arguments container simple =>
    rw [tokens_mk simple] at same
    cases arguments with
    | nil => cases same
    | cons => cases same

namespace Expr

/-- How the tokens of an expression go on behind the first one. -/
inductive Begins : List Token → Prop
  | cast (rest : List Token) : Begins (.sign '(' :: rest)
  | name (letters : List Char) {rest : List Token} (endsName : EndsName rest) :
      Begins (.word letters :: rest)
  | invoke (letters : List Char) (rest : List Token) : Begins (.word letters :: .sign '(' :: rest)
  | new (letters : List Char) {type : JavaType} (readable : type.Readable) (rest : List Token) :
      Begins (.word letters :: .sign ' ' :: (type.tokens ++ .sign '(' :: rest))

theorem Atom.All.begins {P : Expr → Prop} {atom : Atom} (all : atom.All P) {rest : List Token}
    (endsName : EndsName rest) : Begins (atom.expr.tokens ++ rest) := by
  cases all with
  | name isWord => exact tokens_name isWord ▸ .name _ endsName
  | invoke isWord =>
    rw [Atom.expr, tokens_invoke isWord]
    exact .invoke _ _
  | new readable =>
    rw [Atom.expr, tokens_new, List.cons_append, List.cons_append, List.append_assoc]
    exact .new _ readable _

theorem Readable.begins {expr : Expr} (readable : expr.Readable) {c : Char} (isEnd : c ∈ ends)
    (rest : List Token) : Begins (expr.tokens ++ .sign c :: rest) := by
  obtain ⟨spine, all, rfl⟩ := readable.exists_expr_eq
  rw [all.tokens_expr]
  simp only [List.append_assoc]
  cases spine.casts with
  | nil => exact all.atom.begins (endsName_calls _ (endsName_tests _ isEnd rest))
  | cons type casts => exact .cast _

theorem Begins.ne_head {tokens : List Token} (begins : Begins tokens) (letters : List Char)
    (rest : List Token) : tokens ≠ .word letters :: .sign ' ' :: .sign '(' :: rest := by
  intro same
  cases begins with
  | cast => cases same
  | name _ endsName =>
    rw [(List.cons.inj same).2] at endsName
    cases endsName with
    | sign isEnd => exact absurd isEnd (by decide)
  | invoke => cases same
  | new _ readable others =>
    have behindBlank := (List.cons.inj (List.cons.inj same).2).2
    cases readable with
    | mk simple =>
      rw [JavaType.tokens_mk simple] at behindBlank
      cases behindBlank

/-- No expression begins like a declaration, though it may begin with two words. -/
theorem Begins.ne_declaration {tokens : List Token} (begins : Begins tokens) {type : JavaType}
    (readable : type.Readable) (letters : List Char) (rest : List Token) :
    tokens ≠ type.tokens ++ .sign ' ' :: .word letters :: .sign ' ' :: rest := by
  intro same
  cases readable with
  | @mk name arguments container simple =>
    rw [JavaType.tokens_mk simple] at same
    cases begins with
    | cast => cases same
    | name _ endsName =>
      rw [(List.cons.inj same).2] at endsName
      cases arguments with
      | nil => cases endsName with
        | sign isEnd => exact absurd isEnd (by decide)
      | cons => cases endsName with
        | sign isEnd => exact absurd isEnd (by decide)
    | invoke => cases arguments with
      | nil => cases same
      | cons => cases same
    | @new _ otherType otherReadable others =>
      cases arguments with
      | nil =>
        cases otherReadable with
        | @mk _ otherArguments _ otherSimple =>
          rw [JavaType.tokens_mk otherSimple] at same
          -- A blank is behind the second word of a declaration, but not behind a constructed type.
          cases otherArguments with
          | nil => cases same
          | cons => cases same
      | cons => cases same

end Expr

namespace Stmt

/-- Statements whose names are words and whose expressions are readable. -/
inductive Readable : Stmt → Prop
  | declare {type : JavaType} {name : String} {init : Expr} (readableType : type.Readable)
      (isWord : IsWord name) (readable : init.Readable) : Readable (.declare type name init)
  | branch {condition : Expr} {thenBody elseBody : List Stmt} (readable : condition.Readable)
      (eachThen : ∀ stmt ∈ thenBody, Readable stmt) (eachElse : ∀ stmt ∈ elseBody, Readable stmt) :
      Readable (.branch condition thenBody elseBody)
  | forEach {elementType : JavaType} {name : String} {iterable : Expr} {body : List Stmt}
      (readableType : elementType.Readable) (isWord : IsWord name) (readable : iterable.Readable)
      (each : ∀ stmt ∈ body, Readable stmt) : Readable (.forEach elementType name iterable body)
  | expression {expr : Expr} (readable : expr.Readable) : Readable (.expression expr)

/-- Whether a statement is read back from its tokens: readable statements have the same tokens only
if they agree with it up to types of the same text. -/
def IsReadBack (stmt : Stmt) : Prop :=
  ∀ other : Stmt, other.Readable → ∀ depth r s,
    stmt.tokens depth ++ r = other.tokens depth ++ s →
      stmt.agrees JavaType.sameText other = true ∧ r = s

/-! ### Where a body ends -/

/-- Whether nothing more follows or a line that begins with a brace. -/
def Closes (tokens : List Token) : Prop :=
  tokens = [] ∨ ∃ depth rest, tokens = margin depth ++ .sign '\x7d' :: rest

theorem closes_closing (depth : Nat) (rest : List Token) : Closes (closing depth ++ rest) :=
  .inr ⟨depth, .sign '\n' :: rest, by simp [closing]⟩

theorem closes_alternative (depth : Nat) (elseBody : List Stmt) (rest : List Token) :
    Closes (alternative depth elseBody ++ rest) := by
  cases elseBody with
  | nil => exact closes_closing depth rest
  | cons => exact .inr ⟨depth, _, List.append_assoc _ _ _⟩

theorem eq_of_margin {depth other : Nat} {r s : List Token}
    (noBlank : ∀ rest, r ≠ .sign ' ' :: rest) (noBlankOther : ∀ rest, s ≠ .sign ' ' :: rest)
    (same : margin depth ++ r = margin other ++ s) : r = s := by
  rw [margin, margin] at same
  generalize 4 * depth = m, 4 * other = n at same
  induction m generalizing n with
  | zero =>
    cases n with
    | zero => exact same
    | succ => exact absurd same (noBlank _)
  | succ m ih =>
    cases n with
    | zero => exact absurd same.symm (noBlankOther _)
    | succ n => exact ih n (List.cons.inj same).2

theorem Readable.exists_opens {stmt : Stmt} (readable : stmt.Readable) (depth : Nat) :
    ∃ rest, stmt.tokens depth = margin depth ++ rest ∧ Opens rest := by
  cases readable with
  | declare readableType isWord =>
    exact ⟨_, tokens_declare depth _ isWord _, readableType.opens.append _⟩
  | branch => exact ⟨_, tokens_branch depth _ _ _, .word _ _⟩
  | forEach _ isWord => exact ⟨_, tokens_forEach depth _ isWord _ _, .word _ _⟩
  | expression readable => exact ⟨_, tokens_expression depth _, readable.opens.append _⟩

theorem Readable.ne_closes {stmt : Stmt} (readable : stmt.Readable) (depth : Nat)
    (rest : List Token) {tokens : List Token} (closes : Closes tokens) :
    stmt.tokens depth ++ rest ≠ tokens := by
  obtain ⟨first, written, opens⟩ := readable.exists_opens depth
  have opensAll := opens.append rest
  rw [written, List.append_assoc]
  intro same
  rcases closes with rfl | ⟨otherDepth, behind, rfl⟩
  · rw [(List.append_eq_nil_iff.mp same).2] at opensAll
    cases opensAll
  · have brace := eq_of_margin (opensAll.ne_sign (by decide)) (by simp) same
    exact opensAll.ne_sign (by decide) behind brace

/-! ### Bodies -/

section
variable {stmts others : List Stmt} {depth : Nat} {r s : List Token}

theorem agreesAll_of_bodyTokens
    (each : ∀ stmt ∈ stmts, stmt.Readable ∧ stmt.IsReadBack)
    (eachOther : ∀ other ∈ others, other.Readable) (closes : Closes r) (closesOther : Closes s)
    (same : bodyTokens depth stmts ++ r = bodyTokens depth others ++ s) :
    agreesAll JavaType.sameText stmts others = true ∧ r = s := by
  induction stmts generalizing others with
  | nil =>
    cases others with
    | nil => exact ⟨rfl, same⟩
    | cons other others =>
      rw [bodyTokens_cons, List.append_assoc] at same
      exact absurd same.symm ((eachOther other List.mem_cons_self).ne_closes depth _ closes)
  | cons stmt stmts ih =>
    obtain ⟨readable, isReadBack⟩ := each stmt List.mem_cons_self
    cases others with
    | nil =>
      rw [bodyTokens_cons, List.append_assoc] at same
      exact absurd same (readable.ne_closes depth _ closesOther)
    | cons other others =>
      rw [bodyTokens_cons, bodyTokens_cons, List.append_assoc, List.append_assoc] at same
      obtain ⟨agree, behindFirst⟩ :=
        isReadBack other (eachOther other List.mem_cons_self) depth _ _ same
      obtain ⟨agreeRest, behind⟩ := ih (fun other member => each other (.tail _ member))
        (fun other member => eachOther other (.tail _ member)) behindFirst
      exact ⟨by rw [agreesAll, agree, agreeRest, Bool.and_self], behind⟩

/-- The second bodies of conditionals are read like the first ones. Only a blank or a line end
behind the closing brace of the first body tells whether there is a second one. -/
theorem agreesAll_of_alternative
    (each : ∀ stmt ∈ stmts, stmt.Readable ∧ stmt.IsReadBack)
    (eachOther : ∀ other ∈ others, other.Readable)
    (same : alternative depth stmts ++ r = alternative depth others ++ s) :
    agreesAll JavaType.sameText stmts others = true ∧ r = s := by
  cases stmts with
  | nil =>
    cases others with
    | nil => exact ⟨rfl, List.append_cancel_left same⟩
    | cons => simp [alternative, closing] at same
  | cons =>
    cases others with
    | nil => simp [alternative, closing] at same
    | cons =>
      simp only [alternative, List.isEmpty_cons, Bool.false_eq_true, if_false, List.append_assoc,
        List.cons_append, List.append_cancel_left_eq, List.cons.injEq, true_and] at same
      obtain ⟨agree, behind⟩ := agreesAll_of_bodyTokens each eachOther (closes_closing _ _)
        (closes_closing _ _) same
      exact ⟨agree, List.append_cancel_left behind⟩

end

/-! ### The forms of statements -/

theorem isReadBack_declare {type : JavaType} {name : String} {init : Expr}
    (readableType : type.Readable) (isWord : IsWord name) (readable : init.Readable) :
    (declare type name init).IsReadBack := by
  intro other otherReadable depth r s same
  simp only [tokens_declare _ _ isWord, List.append_assoc, List.cons_append] at same
  cases otherReadable with
  | @declare otherType otherName otherInit otherReadableType otherIsWord otherReadable =>
    simp only [tokens_declare _ _ otherIsWord, List.append_assoc, List.cons_append,
      List.append_cancel_left_eq] at same
    obtain ⟨sameText, _, behindType⟩ := readableType.reads otherType otherReadableType ' '
      (by decide) ' ' (by decide) _ _ same
    simp only [List.cons.injEq, Token.word.injEq, true_and] at behindType
    obtain ⟨sameName, behindName⟩ := behindType
    obtain ⟨agree, _, behind⟩ := readable.isReadBack otherInit otherReadable ';' (by decide) ';'
      (by decide) _ _ behindName
    refine ⟨?_, (List.cons.inj behind).2⟩
    simp [agrees, agree, JavaType.sameText, sameText, String.toList_inj.mp sameName]
  | branch =>
    simp only [tokens_branch, List.append_assoc, List.append_cancel_left_eq] at same
    exact absurd same (readableType.ne_head _ _ _ _)
  | forEach _ otherIsWord =>
    simp only [tokens_forEach _ _ otherIsWord, List.append_assoc,
      List.append_cancel_left_eq] at same
    exact absurd same (readableType.ne_head _ _ _ _)
  | expression otherReadable =>
    simp only [tokens_expression, List.append_assoc, List.append_cancel_left_eq] at same
    exact absurd same.symm ((otherReadable.begins (by decide) _).ne_declaration readableType _ _)

theorem isReadBack_branch {condition : Expr} {thenBody elseBody : List Stmt}
    (readable : condition.Readable)
    (eachThen : ∀ stmt ∈ thenBody, stmt.Readable ∧ stmt.IsReadBack)
    (eachElse : ∀ stmt ∈ elseBody, stmt.Readable ∧ stmt.IsReadBack) :
    (branch condition thenBody elseBody).IsReadBack := by
  intro other otherReadable depth r s same
  simp only [tokens_branch, List.append_assoc, List.cons_append] at same
  cases otherReadable with
  | declare otherReadableType otherIsWord =>
    simp only [tokens_declare _ _ otherIsWord, List.append_assoc,
      List.append_cancel_left_eq] at same
    exact absurd same.symm (otherReadableType.ne_head _ _ _ _)
  | @branch otherCondition otherThen otherElse otherReadable otherEachThen otherEachElse =>
    simp only [tokens_branch, List.append_assoc, List.cons_append, List.append_cancel_left_eq,
      List.cons.injEq, true_and] at same
    obtain ⟨agree, _, behindCondition⟩ := readable.isReadBack otherCondition otherReadable ')'
      (by decide) ')' (by decide) _ _ same
    simp only [List.cons.injEq, true_and] at behindCondition
    obtain ⟨agreeThen, behindThen⟩ := agreesAll_of_bodyTokens eachThen otherEachThen
      (closes_alternative _ _ _) (closes_alternative _ _ _) behindCondition
    obtain ⟨agreeElse, behind⟩ := agreesAll_of_alternative eachElse otherEachElse behindThen
    refine ⟨?_, behind⟩
    rw [agrees, agree, agreeThen, agreeElse, Bool.and_self, Bool.and_self]
  | forEach _ otherIsWord =>
    simp [tokens_forEach _ _ otherIsWord] at same
  | expression otherReadable =>
    simp only [tokens_expression, List.append_assoc, List.append_cancel_left_eq] at same
    exact absurd same.symm ((otherReadable.begins (by decide) _).ne_head _ _)

theorem isReadBack_forEach {elementType : JavaType} {name : String} {iterable : Expr}
    {body : List Stmt} (readableType : elementType.Readable) (isWord : IsWord name)
    (readable : iterable.Readable)
    (each : ∀ stmt ∈ body, stmt.Readable ∧ stmt.IsReadBack) :
    (forEach elementType name iterable body).IsReadBack := by
  intro other otherReadable depth r s same
  simp only [tokens_forEach _ _ isWord, List.append_assoc, List.cons_append] at same
  cases otherReadable with
  | declare otherReadableType otherIsWord =>
    simp only [tokens_declare _ _ otherIsWord, List.append_assoc,
      List.append_cancel_left_eq] at same
    exact absurd same.symm (otherReadableType.ne_head _ _ _ _)
  | branch =>
    simp [tokens_branch] at same
  | @forEach otherType otherName otherIterable otherBody otherReadableType otherIsWord otherReadable
      otherEach =>
    simp only [tokens_forEach _ _ otherIsWord, List.append_assoc, List.cons_append,
      List.append_cancel_left_eq, List.cons.injEq, true_and] at same
    obtain ⟨sameText, _, behindType⟩ := readableType.reads otherType otherReadableType ' '
      (by decide) ' ' (by decide) _ _ same
    simp only [List.cons.injEq, Token.word.injEq, true_and] at behindType
    obtain ⟨sameName, behindName⟩ := behindType
    obtain ⟨agree, _, behindIterable⟩ := readable.isReadBack otherIterable otherReadable ')'
      (by decide) ')' (by decide) _ _ behindName
    simp only [List.cons.injEq, true_and] at behindIterable
    obtain ⟨agreeBody, behindBody⟩ := agreesAll_of_bodyTokens each otherEach
      (closes_closing _ _) (closes_closing _ _) behindIterable
    refine ⟨?_, List.append_cancel_left behindBody⟩
    simp [agrees, agree, agreeBody, JavaType.sameText, sameText, String.toList_inj.mp sameName]
  | expression otherReadable =>
    simp only [tokens_expression, List.append_assoc, List.append_cancel_left_eq] at same
    exact absurd same.symm ((otherReadable.begins (by decide) _).ne_head _ _)

theorem isReadBack_expression {expr : Expr} (readable : expr.Readable) :
    (expression expr).IsReadBack := by
  intro other otherReadable depth r s same
  simp only [tokens_expression, List.append_assoc, List.cons_append] at same
  cases otherReadable with
  | declare otherReadableType otherIsWord =>
    simp only [tokens_declare _ _ otherIsWord, List.append_assoc,
      List.append_cancel_left_eq] at same
    exact absurd same ((readable.begins (by decide) _).ne_declaration otherReadableType _ _)
  | branch =>
    simp only [tokens_branch, List.append_assoc, List.append_cancel_left_eq] at same
    exact absurd same ((readable.begins (by decide) _).ne_head _ _)
  | forEach _ otherIsWord =>
    simp only [tokens_forEach _ _ otherIsWord, List.append_assoc,
      List.append_cancel_left_eq] at same
    exact absurd same ((readable.begins (by decide) _).ne_head _ _)
  | @expression otherExpr otherReadable =>
    simp only [tokens_expression, List.append_assoc, List.cons_append,
      List.append_cancel_left_eq] at same
    obtain ⟨agree, _, behind⟩ := readable.isReadBack otherExpr otherReadable ';' (by decide) ';'
      (by decide) _ _ same
    exact ⟨agree, (List.cons.inj behind).2⟩

/-- Readable statements are read back from their tokens. -/
theorem Readable.isReadBack {stmt : Stmt} (readable : stmt.Readable) : stmt.IsReadBack := by
  induction readable with
  | declare readableType isWord readable => exact isReadBack_declare readableType isWord readable
  | branch readable eachThen eachElse ihThen ihElse =>
    exact isReadBack_branch readable (fun stmt member => ⟨eachThen stmt member, ihThen stmt member⟩)
      fun stmt member => ⟨eachElse stmt member, ihElse stmt member⟩
  | forEach readableType isWord readable each ih =>
    exact isReadBack_forEach readableType isWord readable
      fun stmt member => ⟨each stmt member, ih stmt member⟩
  | expression readable => exact isReadBack_expression readable

end Stmt

/-! ### Code that agrees is written alike -/

namespace Expr

theorem texts_eq_of_agreesAll {exprs others : List Expr}
    (each : ∀ expr ∈ exprs, ∀ other : Expr,
      expr.agrees JavaType.sameText other = true → expr.text = other.text)
    (agree : agreesAll JavaType.sameText exprs others = true) : texts exprs = texts others := by
  induction exprs generalizing others with
  | nil =>
    cases others with
    | nil => rfl
    | cons => cases agree
  | cons expr exprs ih =>
    cases others with
    | nil => cases agree
    | cons other others =>
      rw [agreesAll, Bool.and_eq_true] at agree
      rw [texts, texts, each expr List.mem_cons_self other agree.1,
        ih (fun expr member => each expr (.tail _ member)) agree.2]

theorem text_eq_of_agrees {expr other : Expr} (agree : expr.agrees JavaType.sameText other = true) :
    expr.text = other.text := by
  induction expr generalizing other with
  | var | null | raw => cases other <;> simp_all [agrees, text]
  | invoke method arguments each =>
    cases other with
    | invoke otherMethod others =>
      simp only [agrees, Bool.and_eq_true, beq_iff_eq] at agree
      rw [text, text, agree.1, texts_eq_of_agreesAll (fun _ member _ => each _ member) agree.2]
    | _ => simp [agrees] at agree
  | call receiver method arguments sameReceiver each =>
    cases other with
    | call otherReceiver otherMethod others =>
      simp only [agrees, Bool.and_eq_true, beq_iff_eq] at agree
      obtain ⟨⟨agreeReceiver, sameMethod⟩, agreeArguments⟩ := agree
      rw [text, text, sameReceiver agreeReceiver, sameMethod,
        texts_eq_of_agreesAll (fun _ member _ => each _ member) agreeArguments]
    | _ => simp [agrees] at agree
  | new type arguments each =>
    cases other with
    | new otherType others =>
      simp only [agrees, Bool.and_eq_true, JavaType.sameText, beq_iff_eq] at agree
      rw [text, text, agree.1, texts_eq_of_agreesAll (fun _ member _ => each _ member) agree.2]
    | _ => simp [agrees] at agree
  | cast type operand sameOperand =>
    cases other with
    | cast otherType otherOperand =>
      simp only [agrees, Bool.and_eq_true, JavaType.sameText, beq_iff_eq] at agree
      rw [text, text, agree.1, sameOperand agree.2]
    | _ => simp [agrees] at agree
  | notNull operand sameOperand =>
    cases other with
    | notNull otherOperand => rw [text, text, sameOperand agree]
    | _ => simp [agrees] at agree

theorem agrees_of_text_eq {expr other : Expr} (readable : expr.Readable)
    (otherReadable : other.Readable) (same : expr.text = other.text) :
    expr.agrees JavaType.sameText other = true := by
  have sameTokens : expr.tokens ++ [.sign ';'] = other.tokens ++ [.sign ';'] := by
    rw [tokens, tokens, same]
  exact (readable.isReadBack other otherReadable ';' (by decide) ';' (by decide) [] []
    sameTokens).1

end Expr

namespace Stmt

theorem bodyLines_eq_of_agreesAll {stmts others : List Stmt}
    (each : ∀ stmt ∈ stmts, ∀ (other : Stmt) (depth : Nat),
      stmt.agrees JavaType.sameText other = true → stmt.lines depth = other.lines depth)
    (agree : agreesAll JavaType.sameText stmts others = true) (depth : Nat) :
    bodyLines depth stmts = bodyLines depth others := by
  induction stmts generalizing others with
  | nil =>
    cases others with
    | nil => rfl
    | cons => cases agree
  | cons stmt stmts ih =>
    cases others with
    | nil => cases agree
    | cons other others =>
      rw [agreesAll, Bool.and_eq_true] at agree
      rw [bodyLines, bodyLines, each stmt List.mem_cons_self other depth agree.1,
        ih (fun stmt member => each stmt (.tail _ member)) agree.2]

theorem isEmpty_eq_of_agreesAll {agree : JavaType → JavaType → Bool} {stmts others : List Stmt}
    (agreeAll : agreesAll agree stmts others = true) : stmts.isEmpty = others.isEmpty := by
  cases stmts with
  | nil =>
    cases others with
    | nil => rfl
    | cons => cases agreeAll
  | cons =>
    cases others with
    | nil => cases agreeAll
    | cons => rfl

theorem lines_eq_of_agrees {stmt other : Stmt} (depth : Nat)
    (agree : stmt.agrees JavaType.sameText other = true) :
    stmt.lines depth = other.lines depth := by
  induction stmt generalizing other depth with
  | declare type name init =>
    cases other with
    | declare otherType otherName otherInit =>
      simp only [agrees, Bool.and_eq_true, JavaType.sameText, beq_iff_eq] at agree
      obtain ⟨⟨sameType, sameName⟩, agreeInit⟩ := agree
      rw [lines, lines, sameType, sameName, Expr.text_eq_of_agrees agreeInit]
    | _ => simp [agrees] at agree
  | branch condition thenBody elseBody eachThen eachElse =>
    cases other with
    | branch otherCondition otherThen otherElse =>
      simp only [agrees, Bool.and_eq_true] at agree
      obtain ⟨⟨agreeCondition, agreeThen⟩, agreeElse⟩ := agree
      rw [lines, lines, Expr.text_eq_of_agrees agreeCondition, isEmpty_eq_of_agreesAll agreeElse,
        bodyLines_eq_of_agreesAll (fun stmt member _ depth => eachThen stmt member depth) agreeThen,
        bodyLines_eq_of_agreesAll (fun stmt member _ depth => eachElse stmt member depth) agreeElse]
    | _ => simp [agrees] at agree
  | forEach elementType name iterable body each =>
    cases other with
    | forEach otherType otherName otherIterable otherBody =>
      simp only [agrees, Bool.and_eq_true, JavaType.sameText, beq_iff_eq] at agree
      obtain ⟨⟨⟨sameType, sameName⟩, agreeIterable⟩, agreeBody⟩ := agree
      rw [lines, lines, sameType, sameName, Expr.text_eq_of_agrees agreeIterable,
        bodyLines_eq_of_agreesAll (fun stmt member _ depth => each stmt member depth) agreeBody]
    | _ => simp [agrees] at agree
  | expression expr =>
    cases other with
    | expression otherExpr => rw [lines, lines, Expr.text_eq_of_agrees agree]
    | _ => simp [agrees] at agree

theorem agreesAll_of_render_eq {stmts others : List Stmt} (each : ∀ stmt ∈ stmts, stmt.Readable)
    (eachOther : ∀ other ∈ others, other.Readable) (same : render stmts = render others) :
    agreesAll JavaType.sameText stmts others = true := by
  have sameTokens : bodyTokens 0 stmts ++ [] = bodyTokens 0 others ++ [] := by
    rw [← scan_render, ← scan_render, same]
  exact (agreesAll_of_bodyTokens
    (fun stmt member => ⟨each stmt member, (each stmt member).isReadBack⟩) eachOther (.inl rfl)
    (.inl rfl) sameTokens).1

end Stmt

/-- Code is read back from its text up to types of the same text. Readable expressions and bodies of
readable statements have the same text if and only if they are built alike from equal names, with
types that are written alike. -/
theorem text_eq_iff_agrees :
    (∀ first second : Expr, first.Readable → second.Readable →
      (first.text = second.text ↔ first.agrees JavaType.sameText second = true)) ∧
    ∀ stmts others : List Stmt, (∀ stmt ∈ stmts, stmt.Readable) →
      (∀ other ∈ others, other.Readable) →
      (Stmt.render stmts = Stmt.render others ↔
        Stmt.agreesAll JavaType.sameText stmts others = true) := by
  refine ⟨fun first second readable otherReadable => ⟨?_, Expr.text_eq_of_agrees⟩,
    fun stmts others each eachOther => ⟨Stmt.agreesAll_of_render_eq each eachOther, ?_⟩⟩
  · exact Expr.agrees_of_text_eq readable otherReadable
  · intro agree
    rw [Stmt.render, Stmt.render,
      Stmt.bodyLines_eq_of_agreesAll (fun _ _ _ depth => Stmt.lines_eq_of_agrees depth) agree]

def itemType (package : List String) : JavaType :=
  ⟨⟨package, "Item"⟩, [], none⟩

/-- A body that hands over an item, as one of a package, unless it is null. -/
def itemCopy (package : List String) : List Stmt :=
  [.declare (itemType package) "item" (.cast (itemType package) (.call (.var "source") "get" [])),
    .branch (.notNull (.var "item")) [.expression (.call (.var "target") "set" [.var "item"])] []]

theorem readable_itemType (package : List String) : (itemType package).Readable :=
  .mk (show IsWord "Item" by decide) (by simp)

theorem readable_itemCopy (package : List String) : ∀ stmt ∈ itemCopy package, stmt.Readable := by
  have readableType := readable_itemType package
  have readableItem : (Expr.var "item").Readable := .var (by decide) (by decide)
  intro stmt member
  simp only [itemCopy, List.mem_cons, List.not_mem_nil, or_false] at member
  rcases member with rfl | rfl
  · exact .declare readableType (by decide) (.cast readableType rfl
      (.call rfl (.var (by decide) (by decide)) (by decide) (by simp)))
  · have readableCall : (Expr.call (.var "target") "set" [.var "item"]).Readable :=
      .call rfl (.var (by decide) (by decide)) (by decide) (by simp [readableItem])
    exact .branch (.notNull readableItem) (by simp [Stmt.Readable.expression readableCall])
      (by simp)

/-- Bodies that differ in the package of a type have the same text, though they are not the same;
bodies that differ in a statement have not. Nor has a cast of a call the text of the call. -/
theorem text_eq_iff_agrees_itemCopy :
    let item : Expr := .call (.var "source") "get" []
    let first := itemCopy ["com", "first"]
    let second := itemCopy ["com", "second"]
    Stmt.render first = Stmt.render second ∧ Stmt.same first second = false ∧
      Stmt.render first ≠ Stmt.render (second.take 1) ∧
      (Expr.cast (itemType ["com", "first"]) item).text ≠ item.text := by
  intro item first second
  obtain ⟨ofExprs, ofBodies⟩ := text_eq_iff_agrees
  have readableFirst := readable_itemCopy ["com", "first"]
  have readableSecond := readable_itemCopy ["com", "second"]
  have readableItem : item.Readable :=
    .call rfl (.var (by decide) (by decide)) (by decide) (by simp)
  have readableCast : (Expr.cast (itemType ["com", "first"]) item).Readable :=
    .cast (readable_itemType _) rfl readableItem
  refine ⟨(ofBodies first second readableFirst readableSecond).mpr (by decide +kernel),
    by decide +kernel, fun same => ?_, fun same => ?_⟩
  · have readablePart : ∀ stmt ∈ second.take 1, stmt.Readable :=
      fun stmt member => readableSecond stmt (List.mem_of_mem_take member)
    have agree := (ofBodies first _ readableFirst readablePart).mp same
    exact absurd agree (by decide +kernel)
  · exact absurd ((ofExprs _ _ readableCast readableItem).mp same) (by decide +kernel)

/-- A call on a cast is written like a cast of a call, so operands must need no parentheses. -/
example (type : JavaType) (receiver : Expr) (method : String) (arguments : List Expr) :
    (Expr.call (.cast type receiver) method arguments).text =
      (Expr.cast type (.call receiver method arguments)).text := by
  simp [Expr.text, String.append_assoc]

end PropertyAssignment
