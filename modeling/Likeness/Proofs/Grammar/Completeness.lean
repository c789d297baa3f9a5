import Likeness.Proofs.Builder.Refinement
import Likeness.Proofs.Grammar.Blocks

/-!
# Canonical texts are parsed

Every well-formed expression is written by marks that come to be read as it, by induction on how it
is built. So the canonical text of a well-formed tree is cut into the tokens it was put together
from, and parsing gives the tree back.
-/

namespace Likeness

open Mark

/-! ## Resources and catch clauses -/

/-- What separates the resources of a `try`. -/
def Mark.resourceGlue : List Mark := [symbol .semicolon, .gap ' ']

/-- Resources are written in parentheses. -/
theorem Mark.spells_resources {resources : List Declaration} {spelled : List (List Mark)}
    (each : List.Forall₂ Declaration.Written resources spelled) (nonempty : resources ≠ []) :
    Spells (parens (resourceGlue.intercalate spelled))
      ('(' :: (String.intercalate "; " (resources.map Declaration.label)).toList ++ [')']) := by
  have between (after : List Char) :
      Closed (write resourceGlue ++ after) ∧ Lexes resourceGlue after :=
    ⟨closed_cons rfl _, cuts_alone rfl _, rfl, trivial⟩
  have joined := spells_intercalate (each.imp fun _ _ written => written.spells) nonempty between
  refine spells_parens ?_ joined.lexes
  rw [joined.written, String.toList_intercalate, List.map_map]
  rfl

/-- Resources are read from their parentheses. -/
theorem Mark.reads_resources {resources : List Declaration} {spelled : List (List Mark)}
    (each : List.Forall₂ Declaration.Written resources spelled) (nonempty : resources ≠ [])
    (bound : Nat) :
    Reads bound Parser.resources (fun _ => True) (parens (resourceGlue.intercalate spelled))
      resources := by
  have items := each.imp fun _ _ written => written.reads bound
  have separated := reads_separated (reads_spaced bound .semicolon) rfl (by decide) items nonempty
  have noSemicolon : Reads bound (Parser.optional (Parser.lexeme .semicolon))
      (· = some .closeParen) [] none := by
    refine (fails_nil (Parser.opens_lexeme .semicolon)).optional.mono ?_
    rintro _ rfl
    rfl
  have read : Reads bound (do
      let declarations ← Parser.separated .semicolon Parser.openDeclaration
      let _ ← Parser.optional (Parser.lexeme .semicolon)
      pure declarations) (· = some .closeParen) (resourceGlue.intercalate spelled ++ [])
      resources := by
    refine separated.bind (noSemicolon.thenPure _) ?_
    rintro rest closing
    show Loose 0 (next? rest) ∧ next? rest ≠ _
    rw [closing]
    decide
  rw [List.append_nil] at read
  exact (read.delimited rfl _).shorten (Nat.le_succ bound)

/-- Resources are written in front of a body and read from there, if there are some. -/
theorem Mark.exists_marks_resources {resources : List Declaration}
    (opened : ∀ declared ∈ resources, declared.WellFormed) :
    ∃ marks read, (∀ marks' text, Spells marks' text → Spells (marks ++ marks')
        ((if resources.isEmpty then ""
          else "(" ++ String.intercalate "; " (resources.map Declaration.label) ++ ") ").toList ++
          text)) ∧
      read.getD [] = resources ∧
      ∀ bound, Reads bound (Parser.optional Parser.resources) (· = some .openBrace) marks read := by
  by_cases empty : resources = []
  · subst empty
    refine ⟨[], none, fun marks' text spells => by simpa using spells, rfl, fun bound => ?_⟩
    refine (fails_nil ((Parser.opens_lexeme .openParen).bind _)).optional.mono ?_
    rintro _ rfl
    rfl
  · obtain ⟨spelled, each⟩ := exists_forall₂ fun declared member =>
      (opened declared member).exists_written
    refine ⟨parens (resourceGlue.intercalate spelled) ++ [Mark.gap ' '], some resources,
      fun marks' text spells => ?_, rfl, fun bound => ?_⟩
    · have phrase := (spells_resources each empty).spaced spells
      simpa [empty] using phrase
    · have read := (reads_resources each empty bound).append_gap ' '
      exact read.optional.mono fun _ _ => trivial

/-- Marks that stand for a catch clause. -/
structure CatchClause.Written (clause : CatchClause) (marks : List Mark) : Prop where
  spells : Spells marks clause.canonical.toList
  starts : next? marks = some .catchKeyword
  reads : ∀ bound inner, Parser.Knows Parser.expressionStep inner (bound + 1) →
    Reads bound (Parser.catchClause inner) (fun _ => True) marks clause

/-- What separates the types of a catch clause. -/
def Mark.typeGlue : List Mark := [.gap ' ', symbol .pipe, .gap ' ']

/-- Types with bars between them are written and read as the same types. -/
theorem Mark.exists_marks_types {types : List String} (each : ∀ type ∈ types, IsTypeName type)
    (nonempty : types ≠ []) :
    ∃ marks, Spells marks (String.intercalate " | " types).toList ∧
      ∀ bound, Reads bound (Parser.separated .pipe Parser.typeName) (· = some .word) marks types := by
  obtain ⟨spelled, all⟩ := exists_forall₂ fun type member => (each type member).exists_marks
  have between (after : List Char) : Closed (write typeGlue ++ after) ∧ Lexes typeGlue after :=
    ⟨closed_cons rfl _, rfl, cuts_operator rfl _, rfl, trivial⟩
  have joined := spells_intercalate (all.imp fun _ _ spelled => spelled.1) nonempty between
  refine ⟨typeGlue.intercalate spelled, ?_, fun bound => ?_⟩
  · rw [String.toList_intercalate]
    exact joined
  · have items := all.imp fun _ _ spelled => spelled.2.2.reads_fix bound
    have bar : Reads bound (Parser.lexeme .pipe) (fun _ => True) typeGlue () :=
      (reads_spaced bound .pipe).gap ' '
    refine (reads_separated bar rfl (by decide) items nonempty).mono ?_
    rintro _ rfl
    decide

/-- A catch clause is written by its types, its variable and its body. -/
theorem CatchClause.exists_written {exceptionTypes : List Identifier} {binder : String}
    {body : List Expression} {spelled : List (List Mark)} (nonempty : exceptionTypes ≠ [])
    (types : ∀ type ∈ exceptionTypes, IsTypeName type.name) (binds : IsIdentifier binder)
    (inner : List.Forall₂ Expression.Written body spelled) :
    ∃ marks, CatchClause.Written ⟨exceptionTypes, binder, body⟩ marks := by
  obtain ⟨marks, spells, reads⟩ := exists_marks_types
    (List.forall_mem_map.2 types) (List.map_eq_nil_iff.not.2 nonempty)
  refine ⟨word "catch" :: .gap ' ' :: (parens (marks ++ [.gap ' ', word binder]) ++
    .gap ' ' :: braced spelled), ?_, next?_word "catch", ?_⟩
  · have header := spells.spaced (spells_word binder binds.1)
    have phrase := (spells_word "catch" (by decide)).spaced
      ((spells_parens header.written header.lexes).spaced (spells_braced inner))
    simpa [canonical] using phrase
  · intro bound inner' knows
    have name : Reads bound Parser.word (fun _ => True) [.gap ' ', word binder] binder :=
      (reads_word binds.2).gap ' '
    have header : Reads bound Parser.caught (fun _ => True)
        (parens (marks ++ [.gap ' ', word binder])) (exceptionTypes.map Identifier.name, binder) := by
      refine Reads.shorten (Reads.delimited ((reads bound).bind (name.thenPure _) ?_) trivial _)
        (Nat.le_succ bound)
      intro rest _
      show some (Lexeme.ofWord binder) = _
      rw [binds.2]
    have same : (exceptionTypes.map Identifier.name).map Identifier.mk = exceptionTypes := by
      simp [Function.comp_def]
    have read : Reads bound (do
        let body ← Parser.bracedBody inner'
        pure ⟨(exceptionTypes.map Identifier.name).map Identifier.mk, binder, body⟩) (fun _ => True)
        (.gap ' ' :: braced spelled) (CatchClause.mk exceptionTypes binder body) := by
      rw [same]
      exact ((reads_braced knows inner _).gap ' ').thenPure _
    exact (reads_reserved bound (by decide)).andThen (header.andThen read)

/-! ## Guarded blocks -/

/-- Catch clauses are written one after the other. -/
theorem Mark.toList_clauses (handlers : List CatchClause) :
    (CatchClause.canonicalOfAll handlers).toList =
      handlers.flatMap fun clause => ' ' :: clause.canonical.toList := by
  induction handlers with
  | nil => simp [CatchClause.canonicalOfAll]
  | cons clause handlers ih => simp [CatchClause.canonicalOfAll, ih]

/-- Catch clauses are read up to what is none. -/
theorem Mark.reads_clauses {bound : Nat} {inner : Parser Expression} {handlers : List CatchClause}
    {spelled : List (List Mark)} (knows : Parser.Knows Parser.expressionStep inner (bound + 1))
    (each : List.Forall₂ CatchClause.Written handlers spelled) :
    Reads bound (Parser.many (Parser.catchClause inner)) (· ≠ some .catchKeyword)
      (listed ' ' spelled) handlers := by
  have all : List.Forall₂ (fun clause marks => (∃ lexeme, next? marks = some lexeme ∧ True) ∧
      Reads bound (Parser.catchClause inner) (fun _ => True) marks clause) handlers
      (spelled.map (.gap ' ' :: ·)) := by
    rw [List.forall₂_map_right_iff]
    refine each.imp fun clause marks written => ?_
    exact ⟨⟨_, written.starts, trivial⟩, (written.reads bound inner knows).gap ' '⟩
  have opens : Parser.Opens (Parser.catchClause inner) (· = .catchKeyword) :=
    (Parser.opens_lexeme .catchKeyword).bind _
  exact (reads_many (fails_nil opens) all).mono fun next other => ⟨trivial, Parser.any_eq_false other⟩

/-- A cleanup is written behind a phrase and read from there, if there is one. -/
theorem Mark.exists_marks_cleanup {cleanup : Option (List Expression)}
    (each : ∀ body ∈ cleanup, ∃ spelled, List.Forall₂ Expression.Written body spelled) :
    ∃ marks, (∀ marks' text, Spells marks' text → Spells (marks' ++ marks)
        (text ++ (Expression.canonicalCleanup cleanup).toList)) ∧
      (∀ rest, next? rest ≠ some .catchKeyword → next? (marks ++ rest) ≠ some .catchKeyword) ∧
      ∀ bound inner, Parser.Knows Parser.expressionStep inner (bound + 1) →
        Reads bound (Parser.optional (Parser.cleanup inner)) EndsBlock marks cleanup := by
  cases cleanup with
  | none =>
    refine ⟨[], fun marks' text spells => by simpa [Expression.canonicalCleanup] using spells,
      fun rest other => other, fun bound inner _ => ?_⟩
    refine (fails_nil ((Parser.opens_lexeme .finallyKeyword).bind _)).optional.mono ?_
    exact fun next ends => Parser.any_eq_false ends.2.2
  | some body =>
    obtain ⟨spelled, all⟩ := each body rfl
    refine ⟨.gap ' ' :: word "finally" :: .gap ' ' :: braced spelled, fun marks' text spells => ?_,
      fun rest _ => ?_, fun bound inner knows => ?_⟩
    · have last := (spells_word "finally" (by decide)).spaced (spells_braced all)
      simpa [Expression.canonicalCleanup] using spells.spaced last
    · show some (Lexeme.ofWord "finally") ≠ _
      decide
    · exact (((reads_reserved bound (by decide)).gap ' ').andThen
        (reads_braced knows all _)).optional

/-- A `try` is written by its parts. -/
theorem Block.exists_written_guarded {resources : List Declaration} {body : List Expression}
    {handlers : List CatchClause} {cleanup : Option (List Expression)}
    {spelled clauses : List (List Mark)}
    (opened : ∀ declared ∈ resources, declared.WellFormed)
    (inner : List.Forall₂ Expression.Written body spelled)
    (each : List.Forall₂ CatchClause.Written handlers clauses)
    (last : ∀ body ∈ cleanup, ∃ spelled, List.Forall₂ Expression.Written body spelled)
    (present : resources ≠ [] ∨ handlers ≠ [] ∨ cleanup.isSome) :
    ∃ marks, (guarded resources body handlers cleanup).Written marks := by
  obtain ⟨front, read, spellsFront, same, readsFront⟩ := exists_marks_resources opened
  obtain ⟨back, spellsBack, start, readsBack⟩ := exists_marks_cleanup last
  refine ⟨word "try" :: .gap ' ' :: (front ++ (braced spelled ++ (listed ' ' clauses ++ back))),
    ?_, ⟨_, next?_word "try", by decide⟩, fun bound inner' knows => ?_⟩
  · have phrase := spellsBack _ _ (((spells_word "try" (by decide)).spaced (spellsFront _ _
      (spells_braced inner))).listed (each.imp fun _ _ written => written.spells))
    rw [← toList_clauses] at phrase
    simpa [canonical] using phrase
  · subst same
    refine Reads.unless ?_ (next?_word "try") (by decide)
    refine Reads.unless ?_ (next?_word "try") (by decide)
    refine Reads.unless ?_ (next?_word "try") (by decide)
    refine Reads.unless ?_ (next?_word "try") (by decide)
    refine reads_behind (by decide) ?_
    rintro shorter rfl
    have holds : (!(read.getD []).isEmpty || !handlers.isEmpty || cleanup.isSome) = true := by
      simpa [or_assoc] using present
    refine (readsFront shorter).bind ((reads_braced knows inner _).andThen
      ((reads_clauses knows each).bind ((readsBack shorter inner' knows).ensured holds _) ?_)) ?_
    · exact fun rest ends => start rest ends.2.1
    · exact fun rest _ => rfl

/-! ## Expressions -/

/-- A lone semicolon is written by itself. -/
theorem Expression.written_empty : Expression.empty.Written [symbol .semicolon] where
  spells := spells_alone .semicolon rfl
  starts := ⟨.semicolon, rfl, rfl⟩
  settled := by
    refine settled_of_reads fun bound inner _ => ?_
    refine Reads.otherwise ?_ ((Parser.opens_blockWith inner).map _) (next?_symbol .semicolon) rfl
    refine Reads.otherwise ?_ ((Parser.opens_openDeclaration.bind _).map _)
      (next?_symbol .semicolon) rfl
    refine Reads.otherwise ?_ ((Parser.opens_statement.bind _).map _) (next?_symbol .semicolon) rfl
    exact (reads_symbol .semicolon).map _

/-- A declaration is written with its semicolon. -/
theorem Declaration.Written.expression {declared : Declaration} {marks : List Mark}
    (written : declared.Written marks) :
    (Expression.declaration declared).Written (marks ++ [symbol .semicolon]) := by
  obtain ⟨lexeme, start, starts⟩ := written.starts
  have start' := next?_append_of_some start [symbol .semicolon]
  refine ⟨?_, ⟨lexeme, start', ?_⟩, settled_of_reads fun bound inner _ => ?_⟩
  · simpa [Expression.canonical] using written.spells.semicolon
  · simp [Lexeme.startsExpression, starts]
  · refine Reads.otherwise ?_ ((Parser.opens_blockWith inner).map _) start' ?_
    · exact ((written.reads_closed bound _).map _).orElse _
    · revert starts
      cases lexeme <;> decide

/-- A statement is written with its semicolon. -/
theorem Statement.Written.expression {value : Statement} {marks : List Mark}
    (written : value.Written marks) :
    (Expression.statement value).Written (marks ++ [symbol .semicolon]) := by
  obtain ⟨lexeme, start, starts⟩ := written.starts
  have start' := next?_append_of_some start [symbol .semicolon]
  refine ⟨written.clause.spells, ⟨lexeme, start', ?_⟩, settled_of_reads fun bound inner _ => ?_⟩
  · simp [Lexeme.startsExpression, starts]
  · have read : Reads bound Parser.terminatedStatement EndsBlock (marks ++ [symbol .semicolon])
        value :=
      (written.settled.reads_fix bound).bind ((reads_symbol .semicolon).thenPure _) fun _ _ => rfl
    refine Reads.otherwise ?_ ((Parser.opens_blockWith inner).map _) start' ?_
    · exact ((written.clause.undeclared bound _).bind _).orElse ((read.map _).orElse _)
    · revert starts
      cases lexeme <;> decide

/-- A block is an expression. -/
theorem Block.Written.expression {value : Block} {marks : List Mark}
    (written : value.Written marks) : (Expression.block value).Written marks := by
  obtain ⟨lexeme, start, starts⟩ := written.starts
  refine ⟨?_, ⟨lexeme, start, ?_⟩, settled_of_reads fun bound inner knows => ?_⟩
  · simpa [Expression.canonical] using written.spells
  · simp [Lexeme.startsExpression, starts]
  · exact ((written.reads bound inner knows).map _).orElse _

mutual

/-- Every well-formed expression is written by some marks. -/
theorem Expression.WellFormed.exists_written {value : Expression} :
    value.WellFormed → ∃ marks, value.Written marks
  | .empty => ⟨_, Expression.written_empty⟩
  | .declaration inner =>
    have ⟨_, written⟩ := inner.exists_written
    ⟨_, written.expression⟩
  | .statement inner =>
    have ⟨_, written⟩ := inner.exists_written
    ⟨_, written.expression⟩
  | .block parts =>
    have ⟨_, written⟩ := parts.exists_written
    ⟨_, written.expression⟩

/-- Every well-formed block is written by some marks. -/
theorem Block.WellFormed.exists_written {value : Block} :
    value.WellFormed → ∃ marks, value.Written marks
  | @Block.WellFormed.branch condition thenBody elseBody test onThen onElse => by
    obtain ⟨marks, test⟩ := test.exists_written
    obtain ⟨spelled, onThen⟩ := exists_forall₂ fun item member => (onThen item member).exists_written
    obtain ⟨spelled', onElse⟩ := exists_forall₂ fun item member => (onElse item member).exists_written
    by_cases empty : elseBody = []
    · subst empty
      exact ⟨_, Block.written_branch test onThen⟩
    · exact ⟨_, Block.written_branch_else test onThen onElse empty⟩
  | .whileLoop test inner => by
    obtain ⟨marks, test⟩ := test.exists_written
    obtain ⟨spelled, inner⟩ := exists_forall₂ fun item member => (inner item member).exists_written
    exact ⟨_, Block.written_whileLoop test inner⟩
  | .doWhileLoop test inner => by
    obtain ⟨marks, test⟩ := test.exists_written
    obtain ⟨spelled, inner⟩ := exists_forall₂ fun item member => (inner item member).exists_written
    exact ⟨_, Block.written_doWhileLoop test inner⟩
  | .forLoop isInit isCondition isIteration first second third inner => by
    -- No clause holds a block, so the clauses are read without coming back here.
    obtain ⟨marks, opening, opened⟩ := first.exists_init isInit
    obtain ⟨marks', test⟩ := second.exists_clause isCondition
    obtain ⟨marks'', step⟩ := third.exists_clause isIteration
    obtain ⟨spelled, inner⟩ := exists_forall₂ fun item member => (inner item member).exists_written
    exact ⟨_, Block.written_forLoop opening opened test step inner⟩
  | @Block.WellFormed.guarded _ _ _ cleanup opened inner clauses last present => by
    obtain ⟨spelled, inner⟩ := exists_forall₂ fun item member => (inner item member).exists_written
    obtain ⟨clauses', each⟩ := exists_forall₂ fun clause member =>
      (clauses clause member).exists_written
    have cleaned : ∀ item ∈ cleanup.getD [], ∃ marks, item.Written marks := fun item member =>
      (last item member).exists_written
    refine Block.exists_written_guarded opened inner each ?_ present
    rintro body rfl
    exact exists_forall₂ cleaned

/-- Every well-formed catch clause is written by some marks. -/
theorem CatchClause.WellFormed.exists_written {clause : CatchClause} :
    clause.WellFormed → ∃ marks, clause.Written marks
  | .clause nonempty types binds inner => by
    obtain ⟨spelled, inner⟩ := exists_forall₂ fun item member => (inner item member).exists_written
    exact CatchClause.exists_written nonempty types binds inner

end

/-! ## Trees -/

/-- Lines write the canonical text of a tree and are cut as they are. -/
theorem Mark.spells_lines {expressions : List Expression} {spelled : List (List Mark)}
    (each : List.Forall₂ Expression.Written expressions spelled) :
    write ([.gap '\n'].intercalate spelled) = (SyntaxTree.mk expressions).canonical.toList ∧
      Lexes ([.gap '\n'].intercalate spelled) [] := by
  by_cases empty : expressions = []
  · subst empty
    cases each
    exact ⟨rfl, trivial⟩
  · have between (after : List Char) : Closed (write [.gap '\n'] ++ after) ∧
        Lexes [.gap '\n'] after := ⟨closed_cons rfl _, rfl, trivial⟩
    have joined := spells_intercalate (each.imp fun _ _ written => written.spells) empty between
    refine ⟨?_, joined.lexes [] fun _ member => nomatch member⟩
    rw [joined.written, SyntaxTree.canonical, String.toList_intercalate, List.map_map]
    rfl

/-- A gap between marks is as good as one in front of each. -/
theorem Mark.pieces_intercalate (char : Char) (spelled : List (List Mark)) :
    pieces ([.gap char].intercalate spelled) = pieces (listed char spelled) := by
  cases spelled with
  | nil => rfl
  | cons marks spelled =>
    rw [intercalate_cons]
    rfl

/-- Lines are read one after the other to the end. -/
theorem Mark.run_lines {expressions : List Expression} {spelled : List (List Mark)}
    (each : List.Forall₂ Expression.Written expressions spelled) :
    Parser.run (Parser.many Parser.expression) (pieces ([.gap '\n'].intercalate spelled)) =
      some (expressions, []) := by
  have read := reads_listed (Parser.knows_fix Parser.expressionStep _) each '\n' []
    (Nat.le_refl _) (by decide)
  rw [List.append_nil, ← pieces_intercalate] at read
  exact read

/-- A well-formed tree is what its canonical text is parsed as. -/
theorem parse_canonical (tree : SyntaxTree) (wellFormed : tree.WellFormed) :
    parse tree.canonical = .ok tree := by
  obtain ⟨spelled, each⟩ := exists_forall₂ fun item member => (wellFormed item member).exists_written
  obtain ⟨written, lexes⟩ := spells_lines each
  have shape : (Cursor.ofSource tree.canonical).rest = write ([.gap '\n'].intercalate spelled) :=
    written.symm
  obtain ⟨stop, built, ended⟩ := Cursor.build_write lexes shape (run_lines each)
  rw [parse_of_build built, if_pos (by simp [Cursor.atEnd, ended])]

/-- A branch on a difference with a glued sign, which declares a variable of a nested type and starts
it with two operators in front of a name. -/
theorem parse_nested_branch :
    let condition : Statement := .binary .equals
      (.binary .subtract (.reference "a.b") (.literal (.integer (-1) true)))
      (.literal (.string "q"))
    let declared : Declaration :=
      ⟨[.finalWord], "Map<K, List<V>>[]", "m", some (.unary .not (.unary .preIncrement
        (.reference "i")))⟩
    let tree : SyntaxTree := ⟨[.block (.branch condition [.declaration declared] [])]⟩
    tree.canonical = "if (a.b - -1L == \"q\") \x7b final Map<K, List<V>>[] m = !++i; \x7d" ∧
      tree.WellFormed ∧ parse tree.canonical = .ok tree := by
  intro condition declared tree
  have identifier {name : String} (simple : IsIdentifier name) : IsDottedName name :=
    ⟨[name], by simp, by simpa using simple, by simp⟩
  have plain {name : String} (simple : IsIdentifier name) : IsTypeName name := by
    simpa [Parser.typeText] using IsTypeName.plain (identifier simple) 0
  have test : condition.WellFormed := by
    refine .operation (by decide) (by decide) (by decide) (.operation (by decide) (by decide)
      (by decide) (.reference ⟨["a", "b"], by decide, by decide, by decide⟩)
      (.literal (.integer (by decide) _))) (.literal (.string ?_))
    show Lexeme.literalContents '"' ['q', '"'] = some ['q']
    decide
  have inner : declared.WellFormed := by
    refine ⟨?_, by decide, ?_⟩
    · have list : IsTypeName "List<V>" :=
        @IsTypeName.generic "List" ["V"] (identifier (by decide)) (by decide)
          (by simpa using plain (by decide)) 0
      exact @IsTypeName.generic "Map" ["K", "List<V>"] (identifier (by decide)) (by decide)
        (by simpa using ⟨plain (by decide), list⟩) 1
    · rintro _ ⟨⟩
      exact .negation (by decide) (.increment (identifier (by decide)))
  have wellFormed : tree.WellFormed := by
    rintro _ (_ | ⟨_, ⟨⟩⟩)
    refine .block (.branch test ?_ (List.forall_mem_nil _))
    rintro _ (_ | ⟨_, ⟨⟩⟩)
    exact .declaration inner
  refine ⟨?_, wellFormed, parse_canonical tree wellFormed⟩
  rfl

end Likeness
