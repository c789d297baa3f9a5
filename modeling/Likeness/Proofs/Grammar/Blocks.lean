import Likeness.Proofs.Grammar.Declarations
import Likeness.Proofs.Grammar.Simulation

/-!
# Blocks are read back

Bodies are written in braces with a blank in front of each expression, so a body ends where its brace
closes. A block is told from others by its first word, and it goes on with an `else`, a `catch` or a
`finally` only where one stands behind it.
-/

namespace Likeness

open Mark

/-! ## How expressions start and end -/

/-- A lexeme that a block can start with. -/
def Lexeme.startsBlock : Lexeme → Bool
  | .ifKeyword | .whileKeyword | .doKeyword | .forKeyword | .tryKeyword => true
  | _ => false

/-- A lexeme that an expression can start with. -/
def Lexeme.startsExpression (lexeme : Lexeme) : Bool :=
  lexeme.startsBlock || (lexeme.startsDeclaration || (lexeme.startsStatement || lexeme = .semicolon))

/-- A token that does not go on with a block. -/
def EndsBlock (next : Option Lexeme) : Prop :=
  next ≠ some .elseKeyword ∧ next ≠ some .catchKeyword ∧ next ≠ some .finallyKeyword
deriving Decidable

/-- What starts an expression does not go on with the one before. -/
theorem Lexeme.endsBlock_of_startsExpression {lexeme : Lexeme} (starts : lexeme.startsExpression) :
    EndsBlock (some lexeme) := by
  revert starts
  cases lexeme <;> decide

namespace Parser

/-- A block starts with its first word. -/
theorem opens_blockWith (expression : Parser Expression) :
    Opens (blockWith expression) Lexeme.startsBlock := by
  have opens : Opens (blockWith expression) _ :=
    ((opens_lexeme .ifKeyword).bind _).orElse (((opens_lexeme .whileKeyword).bind _).orElse
      (((opens_lexeme .doKeyword).bind _).orElse (((opens_lexeme .forKeyword).bind _).orElse
        ((opens_lexeme .tryKeyword).bind _))))
  refine opens.mono fun lexeme => ?_
  cases lexeme <;> decide

theorem opens_statement : Opens statement Lexeme.startsStatement := opens_fix opens_statementStep

/-- A turn of the parser of expressions starts like an expression. -/
theorem opens_expressionStep (expression : Parser Expression) :
    Opens (expressionStep expression) Lexeme.startsExpression :=
  ((opens_blockWith expression).map _).orElse (((opens_openDeclaration.bind _).map _).orElse
    (((opens_statement.bind _).map _).orElse ((opens_lexeme .semicolon).map _)))

end Parser

/-! ## Bodies -/

/-- Marks that stand for an expression. -/
structure Expression.Written (value : Expression) (marks : List Mark) : Prop where
  spells : Spells marks value.canonical.toList
  starts : ∃ lexeme, next? marks = some lexeme ∧ lexeme.startsExpression
  settled : Settled Parser.expressionStep EndsBlock marks value

namespace Mark

/-- Marks with a gap in front of each. -/
def listed (char : Char) (spelled : List (List Mark)) : List Mark :=
  (spelled.map (.gap char :: ·)).flatten

/-- Phrases with a blank in front of each can stand behind a phrase. -/
theorem Spells.listed {α : Type} {label : α → List Char} {items : List α}
    {spelled : List (List Mark)} {marks : List Mark} {text : List Char} (spells : Spells marks text)
    (each : List.Forall₂ (fun item marks => Spells marks (label item)) items spelled) :
    Spells (marks ++ Mark.listed ' ' spelled) (text ++ items.flatMap fun item => ' ' :: label item) := by
  induction each generalizing marks text with
  | nil => simpa [Mark.listed] using spells
  | cons head _ ih =>
    have rest := ih (spells.spaced head)
    simpa [Mark.listed] using rest

/-- A body in braces. -/
def braced (spelled : List (List Mark)) : List Mark :=
  symbol .openBrace :: (listed ' ' spelled ++ [Mark.gap ' ']) ++ [symbol .closeBrace]

/-- Expressions are written one after the other. -/
theorem toList_canonicalOfAll (items : List Expression) : (Expression.canonicalOfAll items).toList =
    items.flatMap fun item => ' ' :: item.canonical.toList := by
  induction items with
  | nil => simp [Expression.canonicalOfAll]
  | cons item items ih => simp [Expression.canonicalOfAll, ih]

variable {items : List Expression} {spelled : List (List Mark)}

/-- A body in braces is a phrase. -/
theorem spells_braced (each : List.Forall₂ Expression.Written items spelled) :
    Spells (braced spelled) (inBraces (Expression.canonicalOfAll items)).toList := by
  have listed := (spells_alone .openBrace rfl).listed (each.imp fun _ _ written => written.spells)
  have phrase := listed.spaced (spells_alone .closeBrace rfl)
  rw [← toList_canonicalOfAll] at phrase
  simpa [braced, inBraces, Lexeme.spelling, Lexeme.symbols] using phrase

/-- Expressions are read one after the other, up to what is none. -/
theorem reads_listed {bound : Nat} {inner : Parser Expression}
    (knows : Parser.Knows Parser.expressionStep inner (bound + 1))
    (each : List.Forall₂ Expression.Written items spelled) (char : Char) :
    Reads bound (Parser.many inner)
      (fun next => EndsBlock next ∧ next.any Lexeme.startsExpression = false) (listed char spelled)
      items := by
  refine reads_many (fails_of_knows knows Parser.opens_expressionStep) ?_
  rw [List.forall₂_map_right_iff]
  refine each.imp fun item marks written => ?_
  obtain ⟨lexeme, start, starts⟩ := written.starts
  exact ⟨⟨lexeme, start, Lexeme.endsBlock_of_startsExpression starts⟩,
    (written.settled.reads knows).gap char⟩

/-- A body in braces is read. -/
theorem reads_braced {bound : Nat} {inner : Parser Expression}
    (knows : Parser.Knows Parser.expressionStep inner (bound + 1))
    (each : List.Forall₂ Expression.Written items spelled) (follow : Option Lexeme → Prop) :
    Reads bound (Parser.bracedBody inner) follow (braced spelled) items := by
  have many := (reads_listed knows each ' ').append_gap ' '
  exact (many.delimited (by decide) follow).shorten (Nat.le_succ bound)

/-- A body is read where it stands in braces. -/
theorem reads_body {bound : Nat} {inner : Parser Expression}
    (knows : Parser.Knows Parser.expressionStep inner (bound + 1))
    (each : List.Forall₂ Expression.Written items spelled) (follow : Option Lexeme → Prop) :
    Reads bound (Parser.body inner) follow (braced spelled) items :=
  (reads_braced knows each follow).orElse _

/-- A reserved word and a blank are read as the word. -/
theorem reads_reserved (bound : Nat) {keyword : Lexeme} {text : String}
    (reserved : Lexeme.ofWord text = keyword) :
    Reads bound (Parser.lexeme keyword) (fun _ => True) [word text, .gap ' '] () :=
  (reads_keyword reserved).append_gap ' '

/-- A reserved word in front is read, and leaves one piece less. -/
theorem reads_behind {α : Type} {bound : Nat} {keyword : Lexeme} {text : String}
    {continuation : Unit → Parser α} {follow : Option Lexeme → Prop} {marks : List Mark} {value : α}
    (reserved : Lexeme.ofWord text = keyword)
    (behind : ∀ shorter, shorter + 1 = bound →
      Reads shorter (continuation ()) follow marks value) :
    Reads bound (Parser.lexeme keyword >>= continuation) follow (word text :: .gap ' ' :: marks)
      value := by
  cases bound with
  | zero => exact reads_zero (next?_word text)
  | succ bound =>
    exact (reads_reserved _ reserved).bind_succ (next?_word text) (behind bound rfl)
      fun _ _ => trivial

theorem reads_condition {value : Statement} {marks : List Mark} (written : value.Written marks)
    (bound : Nat) : Reads bound Parser.condition (fun _ => True) (parens marks) value :=
  ((written.settled.reads_fix bound).delimited (by decide) _).shorten (Nat.le_succ bound)

end Mark

/-! ## Branches and loops -/

/-- Marks that stand for a block. -/
structure Block.Written (value : Block) (marks : List Mark) : Prop where
  spells : Spells marks value.canonical.toList
  starts : ∃ lexeme, next? marks = some lexeme ∧ lexeme.startsBlock
  reads : ∀ bound inner, Parser.Knows Parser.expressionStep inner bound →
    Reads bound (Parser.blockWith inner) EndsBlock marks value

namespace Block

variable {condition : Statement} {body thenBody elseBody : List Expression} {marks : List Mark}
  {spelled spelled' : List (List Mark)}

theorem spells_condition (test : condition.Written marks) :
    Spells (parens marks) ('(' :: condition.label.toList ++ [')']) :=
  spells_parens test.spells.written test.spells.lexes

/-- A `while` loop is written by its condition and its body. -/
theorem written_whileLoop (test : condition.Written marks)
    (inner : List.Forall₂ Expression.Written body spelled) :
    (whileLoop condition body).Written
      (word "while" :: .gap ' ' :: (parens marks ++ .gap ' ' :: braced spelled)) where
  spells := by
    have phrase := (spells_word "while" (by decide)).spaced
      ((spells_condition test).spaced (spells_braced inner))
    simpa [canonical] using phrase
  starts := ⟨_, next?_word "while", by decide⟩
  reads := by
    intro bound inner' knows
    refine Reads.unless ?_ (next?_word "while") (by decide)
    refine Reads.orElse (reads_behind (by decide) ?_) _
    rintro shorter rfl
    exact (reads_condition test shorter).andThen (((reads_body knows inner _).gap ' ').thenPure _)

/-- A `do` loop is written by its body and its condition. -/
theorem written_doWhileLoop (test : condition.Written marks)
    (inner : List.Forall₂ Expression.Written body spelled) :
    (doWhileLoop condition body).Written (word "do" :: .gap ' ' :: (braced spelled ++
      (.gap ' ' :: word "while" :: .gap ' ' :: (parens marks ++ [symbol .semicolon])))) where
  spells := by
    have last := (spells_word "while" (by decide)).spaced (spells_condition test).semicolon
    have phrase := (spells_word "do" (by decide)).spaced ((spells_braced inner).spaced last)
    simpa [canonical] using phrase
  starts := ⟨_, next?_word "do", by decide⟩
  reads := by
    intro bound inner' knows
    refine Reads.unless ?_ (next?_word "do") (by decide)
    refine Reads.unless ?_ (next?_word "do") (by decide)
    refine Reads.orElse (reads_behind (by decide) ?_) _
    rintro shorter rfl
    refine (reads_body knows inner _).andThen (((reads_reserved shorter (by decide)).gap ' ').andThen
      ((reads_condition test shorter).andThen ?_))
    exact (reads_symbol .semicolon).thenPure _

/-- A branch without an `else` is written by its condition and its body. -/
theorem written_branch (test : condition.Written marks)
    (onThen : List.Forall₂ Expression.Written thenBody spelled) :
    (branch condition thenBody []).Written
      (word "if" :: .gap ' ' :: (parens marks ++ .gap ' ' :: braced spelled)) where
  spells := by
    have phrase := (spells_word "if" (by decide)).spaced
      ((spells_condition test).spaced (spells_braced onThen))
    simpa [canonical] using phrase
  starts := ⟨_, next?_word "if", by decide⟩
  reads := by
    intro bound inner knows
    refine Reads.orElse (reads_behind (by decide) ?_) _
    rintro shorter rfl
    have noElse : Reads shorter (Parser.optional do Parser.lexeme .elseKeyword; Parser.body inner)
        EndsBlock [] none :=
      (fails_nil ((Parser.opens_lexeme .elseKeyword).bind _)).optional.mono fun next ends =>
        Parser.any_eq_false ends.1
    rw [← List.append_nil (Mark.gap ' ' :: braced spelled)]
    exact (reads_condition test shorter).andThen (((reads_body knows onThen _).gap ' ').andThen
      (noElse.thenPure _))

/-- A branch with an `else` is written by its condition and its bodies. -/
theorem written_branch_else (test : condition.Written marks)
    (onThen : List.Forall₂ Expression.Written thenBody spelled)
    (onElse : List.Forall₂ Expression.Written elseBody spelled') (nonempty : elseBody ≠ []) :
    (branch condition thenBody elseBody).Written (word "if" :: .gap ' ' :: (parens marks ++
      (.gap ' ' :: braced spelled ++ .gap ' ' :: word "else" :: .gap ' ' :: braced spelled'))) where
  spells := by
    have last := (spells_word "else" (by decide)).spaced (spells_braced onElse)
    have phrase := (spells_word "if" (by decide)).spaced
      ((spells_condition test).spaced ((spells_braced onThen).spaced last))
    simpa [canonical, nonempty] using phrase
  starts := ⟨_, next?_word "if", by decide⟩
  reads := by
    intro bound inner knows
    refine Reads.orElse (reads_behind (by decide) ?_) _
    rintro shorter rfl
    have read : Reads shorter (Parser.optional do Parser.lexeme .elseKeyword; Parser.body inner)
        EndsBlock (.gap ' ' :: word "else" :: .gap ' ' :: braced spelled') (some elseBody) :=
      ((((reads_reserved shorter (by decide)).gap ' ').andThen (reads_body knows onElse _))).optional
    exact (reads_condition test shorter).andThen (((reads_body knows onThen _).gap ' ').andThen
      (read.thenPure _))

end Block

/-! ## Clauses of a `for` -/

/-- Marks that stand for a clause of a `for` without what ends it. -/
structure Expression.Clause (value : Expression) (marks : List Mark) : Prop where
  written : write marks = value.lastClause.toList
  lexes : ∀ after, Closed after → Lexes marks after
  spells : Spells (marks ++ [symbol .semicolon]) value.canonical.toList
  undeclared : ∀ bound follow, Fails bound Parser.declaration follow (marks ++ [symbol .semicolon])
  reads : ∀ bound ending, Loose 0 (some ending) → ending.startsStatement = false →
    Reads bound (Parser.forClause ending) (fun _ => True) (marks ++ [symbol ending]) value

/-- A missing clause is written by nothing. -/
theorem Expression.clause_empty : Expression.empty.Clause [] where
  written := rfl
  lexes := fun _ _ => trivial
  spells := spells_alone .semicolon rfl
  undeclared := fun bound follow =>
    fails_of_opens (Parser.opens_openDeclaration.bind _) (next?_symbol .semicolon) rfl
  reads := by
    intro bound ending _ other
    have absent : Reads bound (Parser.optional Parser.statement) _ [] none :=
      (fails_nil Parser.opens_statement).optional
    exact absent.bind ((reads_symbol ending).thenPure _) fun _ _ => other

/-- A clause is written by its statement. -/
theorem Statement.Written.clause {value : Statement} {marks : List Mark}
    (written : value.Written marks) : (Expression.statement value).Clause marks where
  written := written.spells.written
  lexes := written.spells.lexes
  spells := by simpa [Expression.canonical] using written.spells.semicolon
  undeclared := by
    intro bound follow
    refine ((written.fails_openDeclaration bound).append (fun rest => ?_) follow).bind _
    show EndsName (some .semicolon)
    decide
  reads := by
    intro bound ending loose _
    exact (written.settled.reads_fix bound).optional.bind ((reads_symbol ending).thenPure _)
      fun _ _ => loose

/-- Every well-formed clause is written by some marks. -/
theorem Expression.WellFormed.exists_clause {value : Expression} (wellFormed : value.WellFormed)
    (isClause : value.isClause) : ∃ marks, value.Clause marks := by
  cases wellFormed with
  | empty => exact ⟨[], clause_empty⟩
  | statement inner =>
    obtain ⟨marks, written⟩ := inner.exists_written
    exact ⟨marks, written.clause⟩
  | declaration => contradiction
  | block => contradiction

/-- The parser of the first clause of a `for`. -/
def Parser.forInit : Parser Expression :=
  (Expression.declaration <$> declaration) <|> forClause .semicolon

/-- Every well-formed first clause is written by some marks. -/
theorem Expression.WellFormed.exists_init {value : Expression} (wellFormed : value.WellFormed)
    (isInit : value.isInit) : ∃ marks, Spells marks value.canonical.toList ∧
      ∀ bound, Reads bound Parser.forInit (fun _ => True) marks value := by
  have clause {marks : List Mark} (clause : value.Clause marks) (bound : Nat) :
      Reads bound Parser.forInit (fun _ => True) (marks ++ [symbol .semicolon]) value := by
    refine Fails.orElse ?_ (clause.reads bound .semicolon (by decide) rfl)
    exact (clause.undeclared bound _).bind _
  cases wellFormed with
  | empty => exact ⟨_, clause_empty.spells, clause clause_empty⟩
  | statement inner =>
    obtain ⟨marks, written⟩ := inner.exists_written
    exact ⟨_, written.clause.spells, clause written.clause⟩
  | declaration inner =>
    obtain ⟨marks, written⟩ := inner.exists_written
    refine ⟨marks ++ [symbol .semicolon], ?_, fun bound => ?_⟩
    · simpa [canonical] using written.spells.semicolon
    · exact ((written.reads_closed bound _).map _).orElse _
  | block => contradiction

/-- The text of a `for` header is a phrase. -/
theorem Expression.Clause.spells_header {init condition iteration : Expression}
    {first second third : List Mark} (opening : Spells first init.canonical.toList)
    (test : condition.Clause second) (step : iteration.Clause third) :
    Spells (first ++ .gap ' ' :: (second ++ [symbol .semicolon]) ++ .gap ' ' :: third)
      (init.canonical.toList ++ ' ' :: condition.canonical.toList ++
        ' ' :: iteration.lastClause.toList) := by
  refine (opening.spaced test.spells).append ?_ fun after closed => ⟨closed_cons rfl _, ?_⟩
  · rw [write_cons, step.written]
    rfl
  · exact ⟨rfl, step.lexes after closed⟩

/-- A `for` loop is written by its clauses and its body. -/
theorem Block.written_forLoop {init condition iteration : Expression} {body : List Expression}
    {first second third : List Mark} {spelled : List (List Mark)}
    (opening : Spells first init.canonical.toList)
    (opened : ∀ bound, Reads bound Parser.forInit (fun _ => True) first init)
    (test : condition.Clause second) (step : iteration.Clause third)
    (inner : List.Forall₂ Expression.Written body spelled) :
    (forLoop init condition iteration body).Written (word "for" :: .gap ' ' ::
      (parens (first ++ .gap ' ' :: (second ++ [symbol .semicolon]) ++ .gap ' ' :: third) ++
        .gap ' ' :: braced spelled)) where
  spells := by
    have header := Expression.Clause.spells_header opening test step
    have phrase := (spells_word "for" (by decide)).spaced
      ((spells_parens header.written header.lexes).spaced (spells_braced inner))
    simpa [canonical] using phrase
  starts := ⟨_, next?_word "for", by decide⟩
  reads := by
    intro bound inner' knows
    refine Reads.unless ?_ (next?_word "for") (by decide)
    refine Reads.unless ?_ (next?_word "for") (by decide)
    refine Reads.unless ?_ (next?_word "for") (by decide)
    refine Reads.orElse (reads_behind (by decide) ?_) _
    rintro shorter rfl
    have shape : parens (first ++ .gap ' ' :: (second ++ [symbol .semicolon]) ++ .gap ' ' :: third) ++
        .gap ' ' :: braced spelled = [symbol .openParen] ++ (first ++
          (.gap ' ' :: (second ++ [symbol .semicolon]) ++
            (.gap ' ' :: (third ++ [symbol .closeParen]) ++ .gap ' ' :: braced spelled))) := by
      simp [parens]
    have condition := (test.reads shorter .semicolon (by decide) rfl).gap ' '
    have iteration := (step.reads shorter .closeParen (by decide) rfl).gap ' '
    rw [shape]
    exact (reads_symbol .openParen).andThen ((opened shorter).andThen (condition.andThen
      (iteration.andThen (((reads_body knows inner _).gap ' ').thenPure _))))

end Likeness
