import Likeness.Proofs.Grammar.Extension

/-!
# Inputs one behind the other

If all of an input is made of expressions and another input follows, the first one is still made of
the same expressions, and the second one is read as if it stood alone. A statement cannot go on into
the second input, since a semicolon or a brace stops it; a block could only go on with an `else`, a
`catch` or a `finally`, and no expression starts with one.

`Carries` states this of a parser: what it makes of an input it makes of one that goes on. Rests
that are `Stuck` are the exception. An `else` or a `catch` that nothing complete follows is left, and
more input may complete it; but then what is left is not made of expressions either.
-/

namespace Likeness.Parser

variable {α β : Type} {behind input rest : List Piece} {rank taken bound : Nat}

/-! ## Parsers that are carried over a seam -/

/-- What a parser makes of an input it also makes of one that goes on, unless the rest is stuck. -/
def Carries (behind : List Piece) (stuck : List Piece → Prop) (bound : Nat) (parser : Parser α) :
    Prop :=
  ∀ input value rest, input.length < bound → run parser input = some (value, rest) →
    rest.length ≤ input.length ∧
      (run parser (input ++ behind) = some (value, rest ++ behind) ∨ stuck rest)

section Carries

variable {parser first second : Parser α} {continuation : α → Parser β}
  {stuck stuck' : List Piece → Prop} {starts starts' : Lexeme → Bool}

/-- Succeeding takes nothing. -/
theorem carries_pure (value : α) : Carries behind stuck bound (pure value) := by
  intro input value' rest _ accepted
  cases accepted
  exact ⟨Nat.le_refl _, .inl rfl⟩

/-- A condition holds or not, whatever follows. -/
theorem carries_ensure (condition : Bool) : Carries behind stuck bound (ensure condition) := by
  cases condition with
  | false => exact fun _ _ _ _ accepted => nomatch accepted
  | true => exact carries_pure ()

/-- A lexeme that is there is there whatever follows. -/
theorem carries_lexeme (expected : Lexeme) : Carries behind stuck bound (lexeme expected) := by
  intro input value rest _ accepted
  cases input with
  | nil => cases accepted
  | cons piece input =>
    rw [run_lexeme_cons] at accepted
    obtain ⟨same, rfl, rfl⟩ := Option.ite_none_right_eq_some.1 accepted
    exact ⟨Nat.le_succ _, .inl (by rw [List.cons_append, run_lexeme_cons, if_pos same])⟩

/-- One parser runs behind another, and is stuck where the first one is. -/
theorem Carries.bind (start : Carries behind stuck bound parser)
    (next : ∀ value, Carries behind stuck' bound (continuation value))
    (passes : ∀ value rest value' rest', stuck rest →
      run (continuation value) rest = some (value', rest') → stuck' rest') :
    Carries behind stuck' bound (parser >>= continuation) := by
  intro input value rest small accepted
  rw [run_bind, Option.bind_eq_some_iff] at accepted
  obtain ⟨⟨found, middle⟩, accepted, accepted'⟩ := accepted
  obtain ⟨fewer, carried⟩ := start _ _ _ small accepted
  obtain ⟨fewer', carried'⟩ := next _ _ _ _ (Nat.lt_of_le_of_lt fewer small) accepted'
  refine ⟨Nat.le_trans fewer' fewer, ?_⟩
  rcases carried with carried | isStuck
  · rw [run_bind, carried]
    exact carried'
  · exact .inr (passes _ _ _ _ isStuck accepted')

/-- A parser that is never stuck is stuck nowhere behind it. -/
theorem Carries.andThen (start : Carries behind (fun _ => False) bound parser)
    (next : ∀ value, Carries behind stuck bound (continuation value)) :
    Carries behind stuck bound (parser >>= continuation) :=
  start.bind next fun _ _ _ _ never => never.elim

/-- A changed value is stuck where the value is. -/
theorem Carries.thenPure (carries : Carries behind stuck bound parser) (change : α → β) :
    Carries behind stuck bound (parser >>= fun value => pure (change value)) := by
  refine carries.bind (fun value => carries_pure _) ?_
  intro value rest value' rest' isStuck accepted
  cases accepted
  exact isStuck

/-- Behind a condition nothing is taken. -/
theorem rest_of_ensure {condition : Bool} {value value' : α}
    (accepted : run (do ensure condition; pure value) input = some (value', rest)) :
    rest = input := by
  cases condition with
  | false => cases accepted
  | true =>
    cases accepted
    rfl

/-- A value under a condition is stuck where the value is. -/
theorem Carries.thenEnsure (carries : Carries behind stuck bound parser) (condition : α → Bool)
    (change : α → β) : Carries behind stuck bound
      (parser >>= fun value => do ensure (condition value); pure (change value)) := by
  refine carries.bind (fun value => (carries_ensure _).andThen fun _ => carries_pure _) ?_
  intro value rest value' rest' isStuck accepted
  rwa [rest_of_ensure accepted]

/-- Behind a lexeme fewer pieces are left. -/
theorem carries_behind {expected : Lexeme} {continuation : Unit → Parser β}
    (next : Carries behind stuck bound (continuation ())) :
    Carries behind stuck (bound + 1) (lexeme expected >>= continuation) := by
  intro input value rest small accepted
  cases input with
  | nil => cases accepted
  | cons piece input =>
    rw [run_bind, run_lexeme_cons] at accepted
    by_cases same : piece.lexeme = expected
    · rw [if_pos same] at accepted
      obtain ⟨fewer, carried⟩ := next _ _ _ (Nat.lt_of_succ_lt_succ small) accepted
      refine ⟨Nat.le_succ_of_le fewer, carried.imp_left fun carried => ?_⟩
      rw [List.cons_append, run_bind, run_lexeme_cons, if_pos same]
      exact carried
    · rw [if_neg same] at accepted
      cases accepted

/-- What takes nothing above a rank is carried over, if something above it is taken behind. -/
theorem carries_between
    (simulates : ∀ whole behind bound,
      Simulates (extension whole behind rank) taken bound parser parser)
    (spends : ∀ value, Spends rank (continuation value))
    (next : ∀ value, Carries behind stuck bound (continuation value)) :
    Carries behind stuck bound (parser >>= continuation) := by
  intro input value rest small accepted
  rw [run_bind, Option.bind_eq_some_iff] at accepted
  obtain ⟨⟨found, middle⟩, accepted, accepted'⟩ := accepted
  -- What is taken behind is still to come for the first parser, and stops it in front of the seam.
  obtain ⟨fewer, suffix⟩ := Simulates.suffix (simulates input []) accepted
  have bars := (spends _ _ _ _ accepted').of_suffix suffix
  obtain ⟨failed, _⟩ | ⟨_, _, again, carried, _⟩ :=
    Simulates.run_append (simulates input behind) (.inr bars)
  · rw [failed] at accepted
    cases accepted
  rw [again] at accepted
  cases accepted
  have small' : middle.length < bound := Nat.lt_of_le_of_lt (Nat.le_of_add_right_le fewer) small
  obtain ⟨fewer', carried'⟩ := next _ _ _ _ small' accepted'
  refine ⟨Nat.le_trans fewer' (Nat.le_of_add_right_le fewer), ?_⟩
  rwa [run_bind, carried]

/-- What makes no seam is carried over. -/
theorem Seamless.carries (seamless : Seamless behind parser) (spends : Spends 0 parser)
    (yields : Yields parser fun _ => True) : Carries behind stuck bound parser := by
  intro input value rest _ accepted
  have bars := spends _ _ _ accepted
  obtain ⟨_, taken, rfl, _⟩ := yields _ _ _ accepted
  refine ⟨by simp, .inl ?_⟩
  rw [seamless _ bars, accepted]
  rfl

/-- Alternatives that start in different ways are carried over. -/
theorem Carries.orElse (one : Carries behind stuck bound first)
    (other : Carries behind stuck bound second) (opens : Opens first starts)
    (opens' : Opens second starts') (apart : ∀ lexeme, starts lexeme → starts' lexeme = false) :
    Carries behind stuck bound (first <|> second) := by
  intro input value rest small accepted
  rw [run_orElse, Option.or_eq_some_iff] at accepted
  rcases accepted with accepted | ⟨failed, accepted⟩
  · obtain ⟨fewer, carried⟩ := one _ _ _ small accepted
    refine ⟨fewer, carried.imp_left fun carried => ?_⟩
    rw [run_orElse, carried, Option.some_or]
  · obtain ⟨fewer, carried⟩ := other _ _ _ small accepted
    refine ⟨fewer, carried.imp_left fun carried => ?_⟩
    -- The first parser turns the input down by its first piece, which is there in both.
    cases input with
    | nil =>
      rw [opens' [] rfl] at accepted
      cases accepted
    | cons piece input =>
      have refused : starts piece.lexeme = false := by
        refine Bool.eq_false_iff.2 fun starts => ?_
        rw [opens' (piece :: input) (apart _ starts)] at accepted
        cases accepted
      rw [run_orElse, opens (piece :: input ++ behind) refused, carried, Option.none_or]

theorem apart_of_lexeme {expected : Lexeme} (other : starts expected = false) (lexeme : Lexeme)
    (same : decide (lexeme = expected)) : starts lexeme = false := by
  rwa [of_decide_eq_true same]

/-- A value that may be missing is carried over, if it is missing on both sides or stuck. -/
theorem Carries.optional (item : Carries behind stuck bound parser)
    (stops : ∀ rest, run parser rest = none → run parser (rest ++ behind) = none ∨ stuck rest) :
    Carries behind stuck bound (Parser.optional parser) := by
  intro input value rest small accepted
  rw [Parser.optional, run_orElse, run_map] at accepted
  cases found : run parser input with
  | some pair =>
    rw [found] at accepted
    cases accepted
    obtain ⟨fewer, carried⟩ := item _ _ _ small found
    refine ⟨fewer, carried.imp_left fun carried => ?_⟩
    rw [Parser.optional, run_orElse, run_map, carried]
    rfl
  | none =>
    rw [found] at accepted
    cases accepted
    exact ⟨Nat.le_refl _, (stops _ found).imp_left run_optional_none⟩

/-- A repetition is carried over, if it ends on both sides or is stuck, and no item follows one that
is stuck. -/
theorem Carries.many (item : Carries behind stuck bound parser)
    (progress : Progresses parser)
    (stops : ∀ rest, run parser rest = none → run parser (rest ++ behind) = none ∨ stuck' rest)
    (blocks : ∀ rest, stuck rest → run parser rest = none ∧ stuck' rest) :
    Carries behind stuck' bound (Parser.many parser) := by
  intro input
  induction size : input.length using Nat.strongRecOn generalizing input with
  | ind size ih =>
    subst size
    intro items rest small accepted
    cases found : run parser input with
    | none =>
      rw [run_many_nil found] at accepted
      cases accepted
      exact ⟨Nat.le_refl _, (stops _ found).imp_left run_many_nil⟩
    | some pair =>
      obtain ⟨value, middle⟩ := pair
      have shorter := progress _ _ _ found
      rw [run_many_cons progress found] at accepted
      obtain ⟨⟨others, stop⟩, accepted, same⟩ := Option.map_eq_some_iff.1 accepted
      cases same
      obtain ⟨fewer, carried⟩ := ih _ shorter _ rfl _ _ (Nat.lt_trans shorter small) accepted
      refine ⟨Nat.le_trans fewer (Nat.le_of_lt shorter), ?_⟩
      rcases (item _ _ _ small found).2 with here | isStuck
      · refine carried.imp_left fun carried => ?_
        rw [run_many_cons progress here, carried, Option.map_some]
      · obtain ⟨none, isStuck⟩ := blocks _ isStuck
        rw [run_many_nil none] at accepted
        cases accepted
        exact .inr isStuck

/-- What starts with a lexeme that does not follow the seam starts in front of it or not at all. -/
theorem Opens.stops {expected : Lexeme} (opens : Opens parser (· = expected))
    (quiet : next? behind ≠ some expected) (rest : List Piece) :
    run parser (rest ++ behind) = none ∨ next? rest = some expected := by
  cases rest with
  | nil => exact .inl (opens behind (any_eq_false quiet))
  | cons piece rest =>
    by_cases same : piece.lexeme = expected
    · exact .inr (congrArg some same)
    · exact .inl (opens (piece :: rest ++ behind) (decide_eq_false same))

end Carries

/-! ## Blocks -/

theorem opens_expression : Opens expression Lexeme.startsExpression :=
  opens_fix opens_expressionStep

/-- The alternative of an `if`. -/
def alternative : Parser (List Expression) := do
  lexeme .elseKeyword
  body expression

theorem opens_alternative : Opens alternative (· = .elseKeyword) := (opens_lexeme _).bind _

/-- A rest that starts like a further part of a block, and is not the alternative of an `if`. -/
def Stuck (rest : List Piece) : Prop := ¬EndsBlock (next? rest) ∧ run alternative rest = none

/-- What goes on with a `try` is stuck behind it. -/
theorem stuck_of_next {lexeme : Lexeme} (next : next? rest = some lexeme)
    (goesOn : ¬EndsBlock (some lexeme)) (other : lexeme ≠ .elseKeyword) : Stuck rest := by
  refine ⟨next ▸ goesOn, opens_alternative rest ?_⟩
  rw [next]
  exact decide_eq_false other

/-- Nothing but a further part of a block starts at a rest that is stuck. -/
theorem Stuck.run_eq_none {parser : Parser α} {starts : Lexeme → Bool} (stuck : Stuck rest)
    (opens : Opens parser starts) (ends : ∀ lexeme, starts lexeme → EndsBlock (some lexeme)) :
    run parser rest = none := by
  refine opens rest ?_
  cases next : next? rest with
  | none => rfl
  | some lexeme => exact Bool.eq_false_iff.2 fun starts => stuck.1 (next ▸ ends lexeme starts)

theorem Stuck.run_expression (stuck : Stuck rest) : run expression rest = none :=
  stuck.run_eq_none opens_expression fun _ => Lexeme.endsBlock_of_startsExpression

section Blocks

variable {stuck : List Piece → Prop} (quiet : EndsBlock (next? behind))
  (known : Carries behind Stuck bound expression)

include known in
/-- Expressions in braces are carried over: they end at their brace. -/
theorem carries_bracedBody : Carries behind stuck bound (bracedBody expression) := by
  have items : Carries behind (fun rest => next? rest ≠ some .closeBrace) bound
      (many expression) := by
    refine known.many progresses_expression (fun rest _ => ?_) fun rest stuck => ?_
    · -- The brace that ends the expressions is the next piece on both sides.
      refine Decidable.or_iff_not_imp_right.2 fun closes => ?_
      cases rest with
      | nil => exact absurd nofun closes
      | cons piece rest =>
        have closes := Option.some.inj (Decidable.not_not.1 closes)
        refine opens_expression (piece :: rest ++ behind) ?_
        show piece.lexeme.startsExpression = false
        rw [closes]
        rfl
    · exact ⟨stuck.run_expression, fun closes => stuck.1 (closes ▸ by decide)⟩
  refine (carries_lexeme _).andThen fun _ => items.bind
    (fun value => (carries_lexeme _).andThen fun _ => carries_pure value) ?_
  intro value rest value' rest' unclosed accepted
  rw [run_bind, opens_lexeme .closeBrace rest (any_eq_false unclosed)] at accepted
  cases accepted

include known in
theorem carries_body : Carries behind Stuck bound (body expression) :=
  (carries_bracedBody known).orElse (known.thenPure _) ((opens_lexeme .openBrace).bind _)
    (opens_expression.map _) (apart_of_lexeme rfl)

include quiet known in
/-- An `if` is carried over, unless its alternative is stuck. -/
theorem carries_branchBlock : Carries behind Stuck (bound + 1) (branchBlock expression) := by
  have body := carries_body known
  have orElse : Carries behind Stuck bound (optional alternative) := by
    refine Carries.optional ((carries_lexeme _).andThen fun _ => body) fun rest failed => ?_
    exact (opens_alternative.stops quiet.1 rest).imp_right fun next =>
      ⟨fun ends => ends.1 next, failed⟩
  refine carries_behind (carries_between (fun _ _ => simulates_condition respected_extension)
    (fun _ => (spends_body spends_expression).bind _) fun condition => ?_)
  -- An `else` that an `if` inside the body could not take cannot be taken here either.
  refine body.bind (fun thenBody => orElse.thenPure _) ?_
  intro thenBody rest value rest' stuck found
  change run (optional alternative >>= _) rest = _ at found
  rw [run_bind, run_optional_none stuck.2] at found
  cases found
  exact stuck

include known in
theorem carries_whileBlock : Carries behind Stuck (bound + 1) (whileBlock expression) :=
  carries_behind (carries_between (fun _ _ => simulates_condition respected_extension)
    (fun _ => (spends_body spends_expression).bind _) fun _ => (carries_body known).thenPure _)

include known in
/-- A `do` is carried over: it ends at its semicolon. -/
theorem carries_doWhileBlock : Carries behind Stuck (bound + 1) (doWhileBlock expression) := by
  refine carries_behind ((carries_body known).bind (fun body => ?_) ?_)
  · refine (carries_lexeme _).andThen fun _ => carries_between
      (fun _ _ => simulates_condition respected_extension) (fun _ => (spends_lexeme rfl).bind _) ?_
    exact fun condition => (carries_lexeme _).andThen fun _ => carries_pure _
  · intro body rest value rest' stuck accepted
    have none : run (lexeme .whileKeyword) rest = none := by
      refine stuck.run_eq_none (opens_lexeme _) fun lexeme isWhile => ?_
      rw [of_decide_eq_true isWhile]
      decide
    rw [run_bind, none] at accepted
    cases accepted

include known in
/-- A `for` is carried over. -/
theorem carries_forBlock : Carries behind Stuck (bound + 1) (forBlock expression) := by
  have clause : Carries behind (fun _ => False) bound (forClause .semicolon) :=
    (seamless_forClause _).carries spends_forClause
      ((yields_forClause rfl).mono fun _ _ => trivial)
  have init : Carries behind (fun _ => False) bound
      ((Expression.declaration <$> declaration) <|> forClause .semicolon) :=
    ((seamless_declaration.map _).orElse (seamless_forClause _)).carries
      ((spends_declaration.map _).orElse spends_forClause)
      ((yields_declaration.map fun _ _ => trivial).orElse
        ((yields_forClause rfl).mono fun _ _ => trivial))
  refine carries_behind ((carries_lexeme _).andThen fun _ => init.andThen fun _ => ?_)
  refine clause.andThen fun _ => carries_between
    (fun _ _ bound => simulates_forClause respected_extension bound rfl)
    (fun _ => (spends_body spends_expression).bind _) fun _ => (carries_body known).thenPure _

include known in
/-- A `catch` is carried over: it ends at its brace. -/
theorem carries_catchClause : Carries behind stuck bound (catchClause expression) := by
  refine (carries_lexeme _).andThen fun _ => carries_between
    (fun _ _ => simulates_caught respected_extension)
    (fun _ => (spends_bracedBody expression rfl).bind _) fun (types, name) => ?_
  exact (carries_bracedBody known).thenPure _

include quiet known in
/-- A `try` is carried over, unless a `catch` or a `finally` is stuck. -/
theorem carries_guardedBlock : Carries behind Stuck (bound + 1) (guardedBlock expression) := by
  have clause : Carries behind (fun _ => False) bound (catchClause expression) :=
    carries_catchClause known
  have handlers : Carries behind (fun rest => next? rest = some .catchKeyword) bound
      (many (catchClause expression)) :=
    clause.many progresses_catchClause
      (fun rest _ => Opens.stops ((opens_lexeme .catchKeyword).bind _) quiet.2.1 rest)
      fun _ never => never.elim
  have opens : Opens (cleanup expression) (· = .finallyKeyword) := (opens_lexeme _).bind _
  have last : Carries behind Stuck bound (optional (cleanup expression)) := by
    refine Carries.optional ((carries_lexeme _).andThen fun _ => carries_bracedBody known) ?_
    exact fun rest _ => (opens.stops quiet.2.2 rest).imp_right fun next =>
      stuck_of_next next (by decide) (by decide)
  refine carries_behind (carries_between
    (fun _ _ bound => (simulates_resources respected_extension bound).optional)
    (fun _ => (spends_bracedBody expression rfl).bind _) fun resources => ?_)
  refine (carries_bracedBody known).andThen fun body =>
    handlers.bind (fun handlers => last.thenEnsure _ _) ?_
  intro handlers rest value rest' next accepted
  have none : run (cleanup expression) rest = none := opens rest (by rw [next]; rfl)
  rw [run_bind, run_optional_none none] at accepted
  rw [rest_of_ensure accepted]
  exact stuck_of_next next (by decide) (by decide)

include quiet known in
/-- A block is carried over, unless a further part of it is stuck. -/
theorem carries_blockWith : Carries behind Stuck (bound + 1) (blockWith expression) := by
  have opensIf : Opens (branchBlock expression) (· = .ifKeyword) := (opens_lexeme _).bind _
  have opensWhile : Opens (whileBlock expression) (· = .whileKeyword) := (opens_lexeme _).bind _
  have opensDo : Opens (doWhileBlock expression) (· = .doKeyword) := (opens_lexeme _).bind _
  have opensFor : Opens (forBlock expression) (· = .forKeyword) := (opens_lexeme _).bind _
  have opensTry : Opens (guardedBlock expression) (· = .tryKeyword) := (opens_lexeme _).bind _
  refine (carries_branchBlock quiet known).orElse ?_ opensIf
    (opensWhile.orElse (opensDo.orElse (opensFor.orElse opensTry))) (apart_of_lexeme rfl)
  refine (carries_whileBlock known).orElse ?_ opensWhile
    (opensDo.orElse (opensFor.orElse opensTry)) (apart_of_lexeme rfl)
  refine (carries_doWhileBlock known).orElse ?_ opensDo (opensFor.orElse opensTry)
    (apart_of_lexeme rfl)
  exact (carries_forBlock known).orElse (carries_guardedBlock quiet known) opensFor opensTry
    (apart_of_lexeme rfl)

end Blocks

/-! ## Expressions -/

/-- What is no block is carried over: it ends at its semicolon. -/
theorem carries_simple (stuck : List Piece → Prop) :
    Carries behind stuck bound ((Expression.declaration <$> declaration)
      <|> (Expression.statement <$> terminatedStatement)
      <|> ((fun _ => Expression.empty) <$> lexeme .semicolon)) := by
  refine Seamless.carries ?_ ?_ ((yields_declaration.map fun _ _ => trivial).orElse
    ((yields_terminatedStatement.map fun _ _ => trivial).orElse
      ((yields_lexeme rfl).map fun _ _ => trivial)))
  · exact (seamless_declaration.map _).orElse ((seamless_terminatedStatement.map _).orElse
      ((seamless_lexeme _).map _))
  · exact (spends_declaration.map _).orElse ((spends_terminatedStatement.map _).orElse
      ((spends_lexeme rfl).map _))

/-- What is no block does not start like one. -/
theorem apart_of_startsBlock (lexeme : Lexeme) (starts : lexeme.startsBlock) :
    (lexeme.startsDeclaration || (lexeme.startsStatement || lexeme = .semicolon)) = false := by
  unfold Lexeme.startsBlock at starts
  split at starts
  case h_6 => cases starts
  all_goals rfl

/-- An expression is carried over, unless a further part of a block is stuck. -/
theorem carries_expression (quiet : EndsBlock (next? behind)) (bound : Nat) :
    Carries behind Stuck bound expression := by
  induction bound with
  | zero => exact fun _ _ _ small => absurd small (Nat.not_lt_zero _)
  | succ bound known =>
    have turn : Carries behind Stuck (bound + 1) (expressionStep expression) := by
      refine ((carries_blockWith quiet known).thenPure _).orElse (carries_simple _)
        ((opens_blockWith _).map _) ?_ apart_of_startsBlock
      exact ((opens_openDeclaration.bind _).map _).orElse
        (((opens_statement.bind _).map _).orElse ((opens_lexeme .semicolon).map _))
    intro input value rest small accepted
    rw [run_expression] at accepted ⊢
    exact turn _ _ _ small accepted

/-- Inputs that are made of expressions make up one that is, one behind the other. -/
theorem run_many_append {behind input : List Piece} {items items' : List Expression}
    (accepted : run (many expression) input = some (items, []))
    (accepted' : run (many expression) behind = some (items', [])) :
    run (many expression) (input ++ behind) = some (items ++ items', []) := by
  have quiet : EndsBlock (next? behind) := by
    cases behind with
    | nil => decide
    | cons piece behind =>
      refine Lexeme.endsBlock_of_startsExpression (Decidable.byContradiction fun other => ?_)
      have none := opens_expression (piece :: behind) (Bool.eq_false_iff.2 other)
      rw [run_many_nil none] at accepted'
      cases accepted'
  induction size : input.length using Nat.strongRecOn generalizing input items with
  | ind size ih =>
    subst size
    cases found : run expression input with
    | none =>
      rw [run_many_nil found] at accepted
      cases accepted
      exact accepted'
    | some pair =>
      obtain ⟨first, rest⟩ := pair
      rw [run_many_cons progresses_expression found] at accepted
      obtain ⟨⟨others, stop⟩, accepted, same⟩ := Option.map_eq_some_iff.1 accepted
      cases same
      have carried := (carries_expression quiet _ _ _ _ (Nat.lt_succ_self _) found).2
      rcases carried with carried | stuck
      · have shorter := progresses_expression _ _ _ found
        rw [run_many_cons progresses_expression carried, ih _ shorter accepted rfl]
        rfl
      · -- What is stuck is left, so it is nothing.
        rw [run_many_nil stuck.run_expression] at accepted
        cases accepted
        exact absurd (by decide) stuck.1

end Likeness.Parser
