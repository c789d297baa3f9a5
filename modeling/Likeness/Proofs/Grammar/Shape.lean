import Likeness.Proofs.Grammar.Canonical
import Likeness.Proofs.Grammar.Runs
import Likeness.Proofs.Grammar.Spacing

/-!
# The shape of parsed trees

Whatever the source text, the operators of a parsed statement nest as their levels allow, what is
stored into is a variable, and the clauses of blocks are of the kinds that fit there. Names, types
and numbers are of no matter for this, so `Shaped` asks nothing of them.

`Parser.Yields` states that a parser accepts nothing but values of a shape, and takes whole pieces
for them: a quote that nothing closes is in no value. Every combinator keeps it. The levels of
operators build on each other: each asks its operands to bind tighter than itself and hands on what
binds at least as tightly, up to the assignment, which only asks for a variable.
-/

namespace Likeness

/-! ## Shapes -/

/-- A statement whose operators nest as their levels allow: those of one level group to the left, an
operator in front has another one or a primary statement behind it, and what is stored into is a
variable. As an assignment binds less tightly than all others, it stands at the root of a statement
or on the right of another assignment. -/
inductive Statement.Shaped : Statement → Prop where
  | negation {operand : Statement} (tight : 6 ≤ operand.level) (inner : Shaped operand) :
      Shaped (.unary .not operand)
  | increment (name : String) : Shaped (.unary .preIncrement (.reference name))
  | assignment (name : String) {value : Statement} (inner : Shaped value) :
      Shaped (.binary .assign (.reference name) value)
  | operation {symbol : BinarySymbol} {left right : Statement} (operator : symbol ≠ .assign)
      (onLeft : symbol.level ≤ left.level) (onRight : symbol.level < right.level)
      (first : Shaped left) (second : Shaped right) : Shaped (.binary symbol left right)
  | literal (value : Literal) : Shaped (.literal value)
  | reference (name : String) : Shaped (.reference name)
  | group {items : List Statement} (each : ∀ item ∈ items, Shaped item) : Shaped (.group items)

/-- A declaration has a statement of its own for its initial value. -/
def Declaration.Shaped (declared : Declaration) : Prop :=
  ∀ value ∈ declared.initializer, value.Shaped

mutual

/-- An expression with parts of the right shape. -/
inductive Expression.Shaped : Expression → Prop where
  | empty : Expression.Shaped .empty
  | declaration {declared : Declaration} (inner : declared.Shaped) :
      Expression.Shaped (.declaration declared)
  | statement {value : Statement} (inner : value.Shaped) : Expression.Shaped (.statement value)
  | block {inner : Block} (parts : Block.Shaped inner) : Expression.Shaped (.block inner)

/-- A block with parts of the right shape. The clauses of a `for` are of the kinds that fit there,
and a `try` has at least one of resources, a `catch` and a `finally`. -/
inductive Block.Shaped : Block → Prop where
  | branch {condition : Statement} {thenBody elseBody : List Expression} (test : condition.Shaped)
      (onThen : ∀ item ∈ thenBody, Expression.Shaped item)
      (onElse : ∀ item ∈ elseBody, Expression.Shaped item) :
      Block.Shaped (.branch condition thenBody elseBody)
  | whileLoop {condition : Statement} {body : List Expression} (test : condition.Shaped)
      (inner : ∀ item ∈ body, Expression.Shaped item) : Block.Shaped (.whileLoop condition body)
  | doWhileLoop {condition : Statement} {body : List Expression} (test : condition.Shaped)
      (inner : ∀ item ∈ body, Expression.Shaped item) : Block.Shaped (.doWhileLoop condition body)
  | forLoop {init condition iteration : Expression} {body : List Expression} (isInit : init.isInit)
      (isCondition : condition.isClause) (isIteration : iteration.isClause)
      (first : Expression.Shaped init) (second : Expression.Shaped condition)
      (third : Expression.Shaped iteration) (inner : ∀ item ∈ body, Expression.Shaped item) :
      Block.Shaped (.forLoop init condition iteration body)
  | guarded {resources : List Declaration} {body : List Expression} {handlers : List CatchClause}
      {cleanup : Option (List Expression)} (opened : ∀ declared ∈ resources, declared.Shaped)
      (inner : ∀ item ∈ body, Expression.Shaped item)
      (clauses : ∀ clause ∈ handlers, CatchClause.Shaped clause)
      (last : ∀ item ∈ cleanup.getD [], Expression.Shaped item)
      (present : resources ≠ [] ∨ handlers ≠ [] ∨ cleanup.isSome) :
      Block.Shaped (.guarded resources body handlers cleanup)

/-- A catch clause for at least one type, with a body of the right shape. -/
inductive CatchClause.Shaped : CatchClause → Prop where
  | clause {exceptionTypes : List Identifier} {binder : String} {body : List Expression}
      (nonempty : exceptionTypes ≠ []) (inner : ∀ item ∈ body, Expression.Shaped item) :
      CatchClause.Shaped ⟨exceptionTypes, binder, body⟩

end

/-- A tree with expressions of the right shape. -/
def SyntaxTree.Shaped (tree : SyntaxTree) : Prop :=
  ∀ item ∈ tree.expressions, item.Shaped

/-- A statement of the right shape that binds at least as tightly as a level. -/
structure Statement.ShapedAt (level : Nat) (statement : Statement) : Prop where
  tight : level ≤ statement.level
  shaped : statement.Shaped

theorem Statement.ShapedAt.looser {level : Nat} {statement : Statement}
    (shaped : statement.ShapedAt (level + 1)) : statement.ShapedAt level :=
  ⟨Nat.le_of_succ_le shaped.tight, shaped.shaped⟩

/-! ## Parsers of a shape -/

/-- A piece that ends where its token does: closed text, or a lexeme that is a token by itself. -/
def Piece.isWhole (piece : Piece) : Bool := piece.kind = .text || piece.lexeme.isPlain

namespace Parser

variable {α β : Type}

/-- What a parser accepts is of a shape, and it takes whole pieces for it. -/
def Yields (parser : Parser α) (shape : α → Prop) : Prop :=
  ∀ input value rest, run parser input = some (value, rest) →
    shape value ∧ ∃ taken, input = taken ++ rest ∧ ∀ piece ∈ taken, piece.isWhole

section Combinators

variable {parser first second : Parser α} {shape : α → Prop} {shape' : β → Prop}
  {continuation : α → Parser β}

theorem yields_fail : Yields (fail : Parser α) shape := fun _ _ _ accepted => nomatch accepted

/-- Succeeding takes nothing. -/
theorem yields_pure {value : α} (holds : shape value) : Yields (pure value) shape := by
  intro input value' rest accepted
  cases accepted
  exact ⟨holds, [], rfl, List.forall_mem_nil _⟩

/-- The second parser may rely on the shape of what the first one found. -/
theorem Yields.bind (start : Yields parser shape)
    (next : ∀ value, shape value → Yields (continuation value) shape') :
    Yields (parser >>= continuation) shape' := by
  intro input value rest accepted
  rw [run_bind, Option.bind_eq_some_iff] at accepted
  obtain ⟨⟨value₁, middle⟩, accepted₁, accepted₂⟩ := accepted
  obtain ⟨holds₁, taken₁, rfl, whole₁⟩ := start _ _ _ accepted₁
  obtain ⟨holds₂, taken₂, rfl, whole₂⟩ := next value₁ holds₁ _ _ _ accepted₂
  refine ⟨holds₂, taken₁ ++ taken₂, (List.append_assoc ..).symm, ?_⟩
  exact List.forall_mem_append.2 ⟨whole₁, whole₂⟩

theorem Yields.map (yields : Yields parser shape) {change : α → β}
    (holds : ∀ value, shape value → shape' (change value)) : Yields (change <$> parser) shape' :=
  yields.bind fun value known => yields_pure (holds value known)

/-- A shape may be asked for that follows from another one. -/
theorem Yields.mono {weaker : α → Prop} (yields : Yields parser shape)
    (holds : ∀ value, shape value → weaker value) : Yields parser weaker := by
  intro input value rest accepted
  obtain ⟨known, whole⟩ := yields _ _ _ accepted
  exact ⟨holds value known, whole⟩

/-- Alternatives yield one shape if each of them does. -/
theorem Yields.orElse (one : Yields first shape) (other : Yields second shape) :
    Yields (first <|> second) shape := by
  intro input value rest accepted
  rw [run_orElse, Option.or_eq_some_iff] at accepted
  rcases accepted with accepted | ⟨_, accepted⟩
  · exact one _ _ _ accepted
  · exact other _ _ _ accepted

/-- A value that may be missing is of the shape if it is there. -/
theorem Yields.optional (yields : Yields parser shape) :
    Yields (Parser.optional parser) fun value => ∀ found ∈ value, shape found := by
  refine Yields.orElse (yields.map fun value holds => ?_) (yields_pure nofun)
  rintro _ ⟨⟩
  exact holds

/-- A value that is there is of the shape that is known of it. -/
theorem yields_ofOption {value : Option α} (holds : ∀ found ∈ value, shape found) :
    Yields (ofOption value) shape := by
  cases value with
  | none => exact yields_fail
  | some value => exact yields_pure (holds value rfl)

/-- Behind a condition it holds. -/
theorem yields_ensure (condition : Bool) : Yields (ensure condition) fun _ => condition := by
  cases condition with
  | false => exact yields_fail
  | true => exact yields_pure rfl

theorem yields_fix {step : Parser α → Parser α}
    (turn : ∀ inner, Yields inner shape → Yields (step inner) shape) : Yields (fix step) shape :=
  fun _ _ _ accepted => unroll_induction yields_fail turn _ _ _ _ accepted

/-- Each item of a repetition is of the shape. -/
theorem Yields.many (yields : Yields parser shape) :
    Yields (Parser.many parser) fun items => ∀ item ∈ items, shape item := by
  refine yields_fix fun more others => Yields.orElse ?_ (yields_pure nofun)
  refine yields.bind fun first holds => others.bind fun rest known => yields_pure ?_
  exact List.forall_mem_cons.2 ⟨holds, known⟩

/-- A piece that is accepted is a whole one. -/
theorem yields_accept {choose : Piece → Option α}
    (reads : ∀ piece value, choose piece = some value → shape value ∧ piece.isWhole) :
    Yields (accept choose) shape := by
  intro input value rest accepted
  cases input with
  | nil => cases accepted
  | cons piece input =>
    rw [run_accept_cons, Option.map_eq_some_iff] at accepted
    obtain ⟨_, chosen, same⟩ := accepted
    cases same
    obtain ⟨holds, whole⟩ := reads piece value chosen
    exact ⟨holds, [piece], rfl, List.forall_mem_singleton.2 whole⟩

theorem isWhole_of_isPlain {piece : Piece} (plain : piece.lexeme.isPlain) : piece.isWhole := by
  rw [Piece.isWhole, plain, Bool.or_true]

/-- A plain lexeme is read as a whole piece. -/
theorem yields_lexeme {expected : Lexeme} (plain : expected.isPlain) :
    Yields (lexeme expected) fun _ => True := by
  refine yields_accept fun piece value chosen => ⟨trivial, isWhole_of_isPlain ?_⟩
  obtain ⟨rfl, _⟩ := Option.ite_none_right_eq_some.1 chosen
  exact plain

theorem Yields.behind {expected : Lexeme} (yields : Yields parser shape)
    (plain : expected.isPlain) : Yields (do lexeme expected; parser) shape :=
  (yields_lexeme plain).bind fun _ _ => yields

/-- There is an item among those with separators between them, and each is of the shape. -/
theorem Yields.separated (yields : Yields parser shape) {separator : Lexeme}
    (plain : separator.isPlain) :
    Yields (Parser.separated separator parser) fun items =>
      items ≠ [] ∧ ∀ item ∈ items, shape item := by
  refine yields.bind fun first holds => (yields.behind plain).many.bind fun rest known => ?_
  exact yields_pure ⟨List.cons_ne_nil _ _, List.forall_mem_cons.2 ⟨holds, known⟩⟩

/-- Delimiters do not change the shape of what is between them. -/
theorem Yields.delimited (yields : Yields parser shape) {opening closing : Lexeme}
    (plain : opening.isPlain) (plain' : closing.isPlain) :
    Yields (Parser.delimited opening closing parser) shape := by
  refine Yields.behind (yields.bind fun value holds => ?_) plain
  exact (yields_pure holds).behind plain'

end Combinators

/-! ## Names and literals -/

/-- A word is a whole piece. -/
theorem yields_word : Yields word fun _ => True := by
  refine yields_accept fun piece value chosen => ⟨trivial, isWhole_of_isPlain ?_⟩
  obtain ⟨isWord, _⟩ := Option.ite_none_right_eq_some.1 chosen
  rw [isWord]
  rfl

/-- A qualifier is a whole piece. -/
theorem yields_qualifier : Yields qualifier fun _ => True := by
  refine yields_accept fun piece value chosen => ⟨trivial, isWhole_of_isPlain ?_⟩
  generalize piece.lexeme = lexeme at chosen
  cases lexeme <;> first | rfl | cases chosen

theorem yields_dottedName : Yields dottedName fun _ => True :=
  (yields_word.separated rfl).map fun _ _ => trivial

/-- A type is made of whole pieces. -/
theorem yields_typeName : Yields typeName fun _ => True := by
  refine yields_fix fun inner known => ?_
  have bracket : Yields (delimited .openBracket .closeBracket (pure ())) fun _ => True :=
    Yields.delimited (yields_pure trivial) rfl rfl
  refine yields_dottedName.bind fun name _ => ?_
  refine ((known.separated rfl).delimited rfl rfl).optional.bind fun arguments _ => ?_
  exact bracket.many.bind fun arrays _ => yields_pure trivial

/-- Contents of quotes are read from closed text. -/
theorem yields_contents (quote : Lexeme) : Yields (contents quote) fun _ => True := by
  refine yields_accept fun piece value chosen => ⟨trivial, ?_⟩
  obtain ⟨found, _⟩ := Option.ite_none_right_eq_some.1 chosen
  rw [Piece.isWhole, (Bool.and_eq_true_iff.1 found).1, Bool.true_or]

/-- A sign is a whole piece, if there is one. -/
theorem yields_sign : Yields sign fun _ => True := by
  intro input value rest accepted
  cases input with
  | nil =>
    cases accepted
    exact ⟨trivial, [], rfl, List.forall_mem_nil _⟩
  | cons piece input =>
    rw [run, sign] at accepted
    split at accepted
    · rename_i minus
      split at accepted
      · cases accepted
        have whole : piece.isWhole := isWhole_of_isPlain (by rw [minus]; rfl)
        exact ⟨trivial, [piece], rfl, List.forall_mem_singleton.2 whole⟩
      · cases accepted
    · cases accepted
      exact ⟨trivial, [], rfl, List.forall_mem_nil _⟩

/-- A number is made of whole pieces. -/
theorem yields_number : Yields number fun _ => True := by
  rw [number]
  refine yields_sign.bind fun negative _ => ?_
  have digits : Yields (accept fun piece => if piece.lexeme = .number then some piece.text else none)
      fun _ => True := by
    refine yields_accept fun piece value chosen => ⟨trivial, isWhole_of_isPlain ?_⟩
    obtain ⟨isNumber, _⟩ := Option.ite_none_right_eq_some.1 chosen
    rw [isNumber]
    rfl
  exact digits.bind fun text _ => yields_ofOption fun _ _ => trivial

/-- A literal is made of whole pieces. -/
theorem yields_literal : Yields literal fun _ => True := by
  have keyword {expected : Lexeme} (plain : expected.isPlain) (value : Literal) :
      Yields ((fun _ => value) <$> lexeme expected) fun _ => True :=
    (yields_lexeme plain).map fun _ _ => trivial
  refine ((yields_contents _).map fun _ _ => trivial).orElse ?_
  refine ((yields_contents _).map fun _ _ => trivial).orElse ?_
  refine (keyword rfl _).orElse ((keyword rfl _).orElse ((keyword rfl _).orElse ?_))
  exact yields_number

/-! ## Statements -/

section Statements

variable {statement operand : Parser Statement} {bound : Nat}

/-- A parenthesised list holds statements of their own. -/
theorem yields_group (yields : Yields statement Statement.Shaped) :
    Yields (group statement) fun items => ∀ item ∈ items, item.Shaped := by
  refine Yields.delimited ?_ rfl rfl
  refine (yields.separated rfl).optional.bind fun items known => yields_pure ?_
  cases items with
  | none => nofun
  | some items => exact (known items rfl).2

/-- A primary statement binds tightest. -/
theorem yields_primary (yields : Yields statement Statement.Shaped) :
    Yields (primary statement) (Statement.ShapedAt 7) := by
  refine ((yields_group yields).map fun items known => ⟨Nat.le_refl 7, .group known⟩).orElse ?_
  refine (yields_literal.map fun value _ => ⟨Nat.le_refl 7, .literal value⟩).orElse ?_
  exact yields_dottedName.map fun name _ => ⟨Nat.le_refl 7, .reference name⟩

/-- An operator in front that has its operand is of the right shape. -/
theorem shaped_of_unary? {symbol : UnarySymbol} {operand statement : Statement}
    (inner : operand.ShapedAt 6) (found : Statement.unary? symbol operand = some statement) :
    statement.ShapedAt 6 := by
  obtain ⟨accepts, same⟩ := Option.ite_none_right_eq_some.1 found
  cases same
  refine ⟨Nat.le_refl 6, ?_⟩
  cases symbol with
  | not => exact .negation inner.tight inner.shaped
  | preIncrement =>
    cases operand with
    | reference name => exact .increment name
    | _ => cases accepts

/-- Operators in front of a primary statement. -/
theorem yields_unary (yields : Yields statement Statement.Shaped) :
    Yields (unary statement) (Statement.ShapedAt 6) := by
  refine yields_fix fun inner known => ?_
  have prefixed {token : Lexeme} (plain : token.isPlain) (symbol : UnarySymbol) :
      Yields (prefixed token symbol inner) (Statement.ShapedAt 6) :=
    Yields.behind (known.bind fun value holds => yields_ofOption fun _ => shaped_of_unary? holds)
      plain
  refine (prefixed rfl _).orElse ((prefixed rfl _).orElse ?_)
  exact (yields_primary yields).mono fun _ holds => holds.looser

/-- Operations of one level keep a statement at that level, whatever they are put on. -/
theorem shapedAt_foldOperations {first : Statement} {operations : List (BinarySymbol × Statement)}
    (positive : 0 < bound) (start : first.ShapedAt bound)
    (each : ∀ operation ∈ operations, operation.1.level = bound ∧
      operation.2.ShapedAt (bound + 1)) :
    (foldOperations first operations).ShapedAt bound := by
  induction operations generalizing first with
  | nil => exact start
  | cons operation operations ih =>
    obtain ⟨⟨rfl, operand⟩, others⟩ := List.forall_mem_cons.1 each
    have operator : operation.1 ≠ .assign := by
      rintro isAssign
      rw [isAssign] at positive
      exact Nat.lt_irrefl 0 positive
    exact ih ⟨Nat.le_refl _, .operation operator start.tight operand.tight start.shaped
      operand.shaped⟩ others

/-- An operator of a level with an operand that binds tighter. -/
theorem yields_operation (yields : Yields operand (Statement.ShapedAt (bound + 1))) {token : Lexeme}
    (plain : token.isPlain) {symbol : BinarySymbol} (same : symbol.level = bound) :
    Yields (operation operand token symbol) fun operation =>
      operation.1.level = bound ∧ operation.2.ShapedAt (bound + 1) :=
  (yields.bind fun _ holds => yields_pure ⟨same, holds⟩).behind plain

/-- Operands with operators of one level between them. -/
theorem Yields.level {operation : Parser (BinarySymbol × Statement)} (positive : 0 < bound)
    (first : Yields operand (Statement.ShapedAt (bound + 1)))
    (more : Yields operation fun operation =>
      operation.1.level = bound ∧ operation.2.ShapedAt (bound + 1)) :
    Yields (Parser.level operand operation) (Statement.ShapedAt bound) := by
  refine first.bind fun first holds => more.many.bind fun operations each => yields_pure ?_
  exact shapedAt_foldOperations positive holds.looser each

/-- Operands with operators of all levels between them. -/
theorem yields_disjunction (yields : Yields statement Statement.Shaped) :
    Yields (disjunction statement) (Statement.ShapedAt 1) := by
  have operand := yields_unary yields
  have products : Yields (multiplicative statement) (Statement.ShapedAt 5) :=
    operand.level (by decide)
      ((yields_operation operand rfl rfl).orElse (yields_operation operand rfl rfl))
  have sums : Yields (additive statement) (Statement.ShapedAt 4) :=
    products.level (by decide)
      ((yields_operation products rfl rfl).orElse (yields_operation products rfl rfl))
  have comparisons : Yields (equality statement) (Statement.ShapedAt 3) :=
    sums.level (by decide) ((yields_operation sums rfl rfl).orElse (yields_operation sums rfl rfl))
  have conjunctions : Yields (conjunction statement) (Statement.ShapedAt 2) :=
    comparisons.level (by decide) (yields_operation comparisons rfl rfl)
  exact conjunctions.level (by decide) (yields_operation conjunctions rfl rfl)

/-- What is stored into is a variable. -/
theorem yields_assigned (yields : Yields statement Statement.Shaped) (target : Statement) :
    Yields (assigned statement target) Statement.Shaped := by
  refine (yields_ensure _).bind fun _ assignable => Yields.behind ?_ rfl
  refine yields.bind fun value holds => yields_pure ?_
  cases target with
  | reference name => exact .assignment name holds
  | _ => cases assignable

theorem yields_statement : Yields Parser.statement Statement.Shaped := by
  refine yields_fix fun inner known => (yields_disjunction known).bind fun target holds => ?_
  exact (yields_assigned known target).orElse (yields_pure holds.shaped)

end Statements

/-! ## Expressions -/

section Expressions

/-- A declaration without its semicolon is of the right shape. -/
theorem yields_openDeclaration : Yields openDeclaration Declaration.Shaped := by
  refine yields_qualifier.many.bind fun qualifiers _ => yields_typeName.bind fun type _ => ?_
  refine yields_word.bind fun name _ => ?_
  exact (yields_statement.behind rfl).optional.bind fun initializer holds => yields_pure holds

theorem yields_declaration : Yields declaration Declaration.Shaped :=
  yields_openDeclaration.bind fun _ holds => (yields_pure holds).behind rfl

theorem yields_terminatedStatement : Yields terminatedStatement Statement.Shaped :=
  yields_statement.bind fun _ holds => (yields_pure holds).behind rfl

theorem yields_condition : Yields condition Statement.Shaped := yields_statement.delimited rfl rfl

variable {expression : Parser Expression}

theorem yields_bracedBody (yields : Yields expression Expression.Shaped) :
    Yields (bracedBody expression) fun body => ∀ item ∈ body, item.Shaped :=
  yields.many.delimited rfl rfl

/-- The expressions of a body are of the right shape. -/
theorem yields_body (yields : Yields expression Expression.Shaped) :
    Yields (body expression) fun body => ∀ item ∈ body, item.Shaped :=
  (yields_bracedBody yields).orElse
    (yields.map fun _ holds => List.forall_mem_singleton.2 holds)

/-- An `if` is of the right shape. -/
theorem yields_branchBlock (yields : Yields expression Expression.Shaped) :
    Yields (branchBlock expression) Block.Shaped := by
  have body := yields_body yields
  refine Yields.behind (yields_condition.bind fun condition test => ?_) rfl
  refine body.bind fun thenBody onThen => ?_
  refine (body.behind rfl).optional.bind fun elseBody onElse => yields_pure ?_
  refine .branch test onThen ?_
  cases elseBody with
  | none => nofun
  | some elseBody => exact onElse elseBody rfl

/-- A `while` is of the right shape. -/
theorem yields_whileBlock (yields : Yields expression Expression.Shaped) :
    Yields (whileBlock expression) Block.Shaped := by
  refine Yields.behind (yields_condition.bind fun condition test => ?_) rfl
  exact (yields_body yields).bind fun body inner => yields_pure (.whileLoop test inner)

/-- A `do` is of the right shape. -/
theorem yields_doWhileBlock (yields : Yields expression Expression.Shaped) :
    Yields (doWhileBlock expression) Block.Shaped := by
  refine Yields.behind ((yields_body yields).bind fun body inner => Yields.behind ?_ rfl) rfl
  refine yields_condition.bind fun condition test => ?_
  exact (yields_pure (.doWhileLoop test inner)).behind rfl

/-- A clause of a `for` is a statement or nothing. -/
theorem yields_forClause {ending : Lexeme} (plain : ending.isPlain) :
    Yields (forClause ending) fun clause => clause.isClause ∧ clause.Shaped := by
  refine yields_statement.optional.bind fun statement holds => Yields.behind ?_ plain
  refine yields_pure ?_
  cases statement with
  | none => exact ⟨rfl, .empty⟩
  | some statement => exact ⟨rfl, .statement (holds statement rfl)⟩

/-- What fits as any clause of a `for` fits as its first. -/
theorem isInit_of_isClause {clause : Expression} (isClause : clause.isClause) : clause.isInit := by
  cases clause with
  | block => cases isClause
  | _ => rfl

/-- A `for` is of the right shape. -/
theorem yields_forBlock (yields : Yields expression Expression.Shaped) :
    Yields (forBlock expression) Block.Shaped := by
  have init : Yields ((Expression.declaration <$> declaration) <|> forClause .semicolon)
      fun init => init.isInit ∧ init.Shaped :=
    Yields.orElse (yields_declaration.map fun _ inner => ⟨rfl, .declaration inner⟩)
      ((yields_forClause rfl).mono fun _ ⟨isClause, shaped⟩ =>
        ⟨isInit_of_isClause isClause, shaped⟩)
  refine Yields.behind (Yields.behind (init.bind fun init ⟨isInit, first⟩ => ?_) rfl) rfl
  refine (yields_forClause rfl).bind fun condition ⟨isCondition, second⟩ => ?_
  refine (yields_forClause rfl).bind fun iteration ⟨isIteration, third⟩ => ?_
  exact (yields_body yields).bind fun body inner =>
    yields_pure (.forLoop isInit isCondition isIteration first second third inner)

/-- The resources of a `try` are declarations, at least one. -/
theorem yields_resources :
    Yields resources fun declarations => ∀ declared ∈ declarations, declared.Shaped := by
  refine Yields.delimited ?_ rfl rfl
  refine (yields_openDeclaration.separated rfl).bind fun declarations ⟨_, each⟩ => ?_
  exact (yields_lexeme rfl).optional.bind fun _ _ => yields_pure each

/-- A `catch` catches at least one type. -/
theorem yields_caught : Yields caught fun found => found.1 ≠ [] := by
  refine Yields.delimited ?_ rfl rfl
  refine (yields_typeName.separated rfl).bind fun types ⟨nonempty, _⟩ => ?_
  exact yields_word.bind fun name _ => yields_pure nonempty

/-- A `catch` is of the right shape. -/
theorem yields_catchClause (yields : Yields expression Expression.Shaped) :
    Yields (catchClause expression) CatchClause.Shaped := by
  refine Yields.behind (yields_caught.bind fun (types, name) nonempty => ?_) rfl
  refine (yields_bracedBody yields).bind fun body inner => yields_pure (.clause ?_ inner)
  exact fun none => nonempty (List.map_eq_nil_iff.1 none)

/-- A `try` is of the right shape. -/
theorem yields_guardedBlock (yields : Yields expression Expression.Shaped) :
    Yields (guardedBlock expression) Block.Shaped := by
  have braced := yields_bracedBody yields
  refine Yields.behind (yields_resources.optional.bind fun resources opened => ?_) rfl
  refine braced.bind fun body inner => ?_
  refine (yields_catchClause yields).many.bind fun handlers clauses => ?_
  refine Yields.bind (braced.behind rfl).optional fun cleanup last => ?_
  refine (yields_ensure _).bind fun _ present => yields_pure (.guarded ?_ inner clauses ?_ ?_)
  · cases resources with
    | none => nofun
    | some resources => exact opened resources rfl
  · cases cleanup with
    | none => nofun
    | some cleanup => exact last cleanup rfl
  · simpa [or_assoc] using present

/-- A block is of the right shape. -/
theorem yields_blockWith (yields : Yields expression Expression.Shaped) :
    Yields (blockWith expression) Block.Shaped :=
  (yields_branchBlock yields).orElse <| (yields_whileBlock yields).orElse <|
    (yields_doWhileBlock yields).orElse <| (yields_forBlock yields).orElse <|
      yields_guardedBlock yields

/-- An expression is of the right shape. -/
theorem yields_expression : Yields Parser.expression Expression.Shaped := by
  refine yields_fix fun inner known => ?_
  refine ((yields_blockWith known).map fun _ parts => .block parts).orElse ?_
  refine (yields_declaration.map fun _ inner => .declaration inner).orElse ?_
  refine (yields_terminatedStatement.map fun _ inner => .statement inner).orElse ?_
  exact (yields_lexeme rfl).map fun _ _ => .empty

end Expressions

end Parser

/-- Every tree that is parsed is of the right shape: its operators nest as their levels allow and
group to the left, what is stored into is a variable, an assignment stands at the root of a
statement or on the right of another one, and clauses of blocks are of the kinds that fit there. -/
theorem shaped_of_parse {source : String} {tree : SyntaxTree} (parsed : parse source = .ok tree) :
    tree.Shaped :=
  (Parser.yields_expression.many _ _ _ (parse_eq_ok_iff.1 parsed).2).1

/-- Under a chain of assignments, a sum of three is grouped to the left; the `try` around it has a
resource and catches two types. -/
theorem shaped_sum_in_try :
    let sum := Statement.binary .subtract (.binary .add (.reference "b")
      (.binary .multiply (.reference "c") (.reference "d"))) (.unary .not (.reference "e"))
    let assigned := Statement.binary .assign (.reference "x") (.binary .assign (.reference "y") sum)
    let tree := SyntaxTree.mk [.block (.guarded [⟨[], "R", "r", none⟩] [.statement assigned]
      [⟨[⟨"A"⟩, ⟨"B"⟩], "e", []⟩] none)]
    parse "try (R r) \x7b x = y = b+c*d-!e; \x7d catch (A | B e) \x7b\x7d" = .ok tree ∧
      tree.Shaped := by
  intro sum assigned tree
  have parsed : parse "try (R r) \x7b x = y = b+c*d-!e; \x7d catch (A | B e) \x7b\x7d" = .ok tree :=
    parse_eq_ok_iff.2 ⟨rfl, rfl⟩
  exact ⟨parsed, shaped_of_parse parsed⟩

end Likeness
