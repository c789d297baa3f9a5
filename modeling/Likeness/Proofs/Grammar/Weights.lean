import Likeness.Proofs.Grammar.Spacing
import Likeness.Proofs.Token.Lossless

/-!
# Weights are paid in tokens

What a parser accepts weighs no more than the tokens that it takes: each unit of weight is charged to
a token of its own. `Parser.Pays` states this for a parser that runs behind others, with what those
have taken and not yet spent. Keywords, operators and parentheses weigh one and are there to pay for
it; a clause of a `for` that is left out weighs one too, which the lexeme that ends it pays for.

A token takes at least one byte, so that a tree weighs no more than its text has bytes.
-/

namespace Likeness

/-- Items that weigh one each weigh as much as there are of them. -/
theorem Whole.sum_map_one {α : Type} (items : List α) :
    sum (items.map fun _ => 1) = items.length := by
  induction items with
  | nil => rfl
  | cons item items ih => rw [List.map_cons, sum_cons, ih, List.length_cons, Nat.add_comm]

namespace Parser

variable {α β : Type}

/-- What a parser accepts weighs no more than what was saved before and the pieces that it takes. -/
def Pays (before : Nat) (parser : Parser α) (weight : α → Nat) : Prop :=
  ∀ input value rest, run parser input = some (value, rest) →
    weight value + rest.length ≤ before + input.length

/-! ## Combinators -/

section Combinators

variable {before : Nat} {parser first second : Parser α} {weight : α → Nat} {weight' : β → Nat}
  {continuation : α → Parser β}

theorem pays_fail : Pays before (fail : Parser α) weight :=
  fun _ _ _ accepted => nomatch accepted

/-- Succeeding takes nothing, so all that the value weighs has been saved before. -/
theorem pays_pure {value : α} (saved : weight value ≤ before) : Pays before (pure value) weight := by
  intro input value' rest accepted
  cases accepted
  omega

/-- What one parser saves is there for the next one. -/
theorem Pays.bind (start : Pays 0 parser weight)
    (next : ∀ value, Pays (before + weight value) (continuation value) weight') :
    Pays before (parser >>= continuation) weight' := by
  intro input value rest accepted
  rw [run_bind, Option.bind_eq_some_iff] at accepted
  obtain ⟨⟨value₁, middle⟩, accepted₁, accepted₂⟩ := accepted
  have paid := start _ _ _ accepted₁
  have paid' := next value₁ _ _ _ accepted₂
  omega

/-- A value that weighs no more is paid for. -/
theorem Pays.map (pays : Pays 0 parser weight) {change : α → β}
    (lighter : ∀ value, weight' (change value) ≤ weight value) :
    Pays 0 (change <$> parser) weight' := by
  apply pays.bind
  intro value
  apply pays_pure
  rw [Nat.zero_add]
  exact lighter value

/-- An alternative that is abandoned takes nothing. -/
theorem Pays.orElse (one : Pays before first weight) (other : Pays before second weight) :
    Pays before (first <|> second) weight := by
  intro input value rest accepted
  rw [run_orElse, Option.or_eq_some_iff] at accepted
  rcases accepted with accepted | ⟨_, accepted⟩
  · exact one _ _ _ accepted
  · exact other _ _ _ accepted

theorem Pays.optional (pays : Pays 0 parser weight) :
    Pays 0 (Parser.optional parser) fun value => (value.map weight).getD 0 :=
  Pays.orElse (pays.map fun _ => Nat.le_refl _) (pays_pure (Nat.le_refl _))

/-- A value that is there has been paid for before. -/
theorem pays_ofOption {value : Option α} (saved : ∀ found ∈ value, weight found ≤ before) :
    Pays before (ofOption value) weight := by
  cases value with
  | none => exact pays_fail
  | some value => exact pays_pure (saved value rfl)

/-- A condition weighs nothing. -/
theorem pays_ensure (condition : Bool) : Pays 0 (ensure condition) fun _ => 0 := by
  cases condition with
  | false => exact pays_fail
  | true => exact pays_pure (Nat.le_refl 0)

/-- A parser that comes back to itself pays, if a turn of it does. -/
theorem pays_fix {step : Parser α → Parser α}
    (turn : ∀ inner, Pays 0 inner weight → Pays 0 (step inner) weight) :
    Pays 0 (fix step) weight :=
  fun _ _ _ accepted => unroll_induction pays_fail turn _ _ _ _ accepted

/-- Items are paid for one by one. -/
theorem Pays.many (pays : Pays 0 parser weight) :
    Pays 0 (Parser.many parser) fun items => Whole.sum (items.map weight) := by
  apply pays_fix
  intro more others
  apply Pays.orElse
  · refine pays.bind fun first => others.bind fun rest => pays_pure ?_
    rw [List.map_cons, Whole.sum_cons, Nat.zero_add]
  · exact pays_pure (Nat.le_refl 0)

/-- A value may be taken to weigh less. -/
theorem Pays.lighter {weight' : α → Nat} (pays : Pays before parser weight)
    (less : ∀ value, weight' value ≤ weight value) : Pays before parser weight' := by
  intro input value rest accepted
  exact Nat.le_trans (Nat.add_le_add_right (less value) _) (pays _ _ _ accepted)

/-- A piece pays for one unit. -/
theorem pays_accept (choose : Piece → Option α) : Pays 0 (accept choose) fun _ => 1 := by
  intro input value rest accepted
  cases input with
  | nil => cases accepted
  | cons piece input =>
    rw [run_accept_cons, Option.map_eq_some_iff] at accepted
    obtain ⟨_, _, same⟩ := accepted
    cases same
    rw [List.length_cons, Nat.zero_add, Nat.add_comm]

theorem pays_lexeme (expected : Lexeme) : Pays 0 (lexeme expected) fun _ => 1 := pays_accept _

/-- What stands behind a lexeme has one unit to spare. -/
theorem Pays.behind (pays : Pays 0 parser weight) (expected : Lexeme) :
    Pays 0 (do lexeme expected; parser) fun value => 1 + weight value := by
  refine (pays_lexeme expected).bind fun _ => ?_
  intro input value rest accepted
  have paid := pays _ _ _ accepted
  dsimp only
  omega

/-- Items are paid for one by one, and separators to spare. -/
theorem Pays.separated (pays : Pays 0 parser weight) (separator : Lexeme) :
    Pays 0 (Parser.separated separator parser) fun items => Whole.sum (items.map weight) := by
  have more : Pays 0 (do lexeme separator; parser) weight :=
    (pays.behind separator).lighter fun value => Nat.le_add_left _ 1
  refine pays.bind fun first => more.many.bind fun rest => pays_pure ?_
  rw [List.map_cons, Whole.sum_cons, Nat.zero_add]

/-- What stands between delimiters has two units to spare. -/
theorem Pays.delimited (pays : Pays 0 parser weight) (opening closing : Lexeme) :
    Pays 0 (Parser.delimited opening closing parser) fun value => 2 + weight value := by
  refine (pays_lexeme opening).bind fun _ => pays.bind fun value => ?_
  refine (pays_lexeme closing).bind fun _ => pays_pure ?_
  omega

end Combinators

/-! ## Names and literals -/

/-- A name has at least one word. -/
theorem pays_dottedName : Pays 0 dottedName fun _ => 1 := by
  have word : Pays 0 word fun _ => 1 := pays_accept _
  have words : Pays 0 (separated .dot Parser.word) fun _ => 1 := by
    refine word.bind fun first => (word.behind .dot).many.bind fun rest => pays_pure ?_
    omega
  exact words.map fun _ => Nat.le_refl 1

/-- A type has at least a name. -/
theorem pays_typeName : Pays 0 typeName fun _ => 1 := by
  apply pays_fix
  intro inner known
  have arguments := ((known.separated .comma).delimited .openChevron .closeChevron).optional
  have nothing : Pays 0 (pure ()) fun _ => 0 := pays_pure (Nat.le_refl 0)
  have brackets := (nothing.delimited .openBracket .closeBracket).many
  refine pays_dottedName.bind fun name => arguments.bind fun arguments => ?_
  refine brackets.bind fun arrays => pays_pure ?_
  omega

/-- A sign weighs nothing. -/
theorem pays_sign : Pays 0 sign fun _ => 0 := by
  intro input value rest accepted
  cases input with
  | nil =>
    cases accepted
    exact Nat.le_refl 0
  | cons piece input =>
    rw [run, sign] at accepted
    split at accepted
    · split at accepted
      · cases accepted
        rw [List.length_cons, Nat.zero_add, Nat.zero_add]
        exact Nat.le_succ _
      · cases accepted
    · cases accepted
      exact Nat.le_refl _

theorem pays_number : Pays 0 number fun _ => 1 := by
  refine pays_sign.bind fun negative => (pays_accept _).bind fun text => ?_
  exact pays_ofOption fun _ _ => Nat.le_refl _

/-- A literal is one piece, or two with its sign. -/
theorem pays_literal : Pays 0 literal fun _ => 1 := by
  have piece {α : Type} (choose : Piece → Option α) (value : α → Literal) :
      Pays 0 (value <$> accept choose) fun _ => 1 := (pays_accept choose).map fun _ => Nat.le_refl 1
  apply (piece _ _).orElse
  apply (piece _ _).orElse
  apply (piece _ _).orElse
  apply (piece _ _).orElse
  apply (piece _ _).orElse
  exact pays_number

/-! ## Statements -/

section Statements

variable {statement operand : Parser Statement}

/-- Statements in parentheses have two units to spare. -/
theorem pays_group (pays : Pays 0 statement Statement.weight) :
    Pays 0 (group statement) fun items => 2 + Statement.weightOfAll items := by
  refine Pays.delimited ?_ _ _
  refine (pays.separated .comma).optional.bind fun items => pays_pure ?_
  rw [Statement.weightOfAll_eq_sum]
  cases items <;> simp

/-- A statement without operators around it. -/
theorem pays_primary (pays : Pays 0 statement Statement.weight) :
    Pays 0 (primary statement) Statement.weight := by
  refine ((pays_group pays).map fun items => ?_).orElse ?_
  · rw [Statement.weight]
    omega
  · refine (pays_literal.map fun value => ?_).orElse (pays_dottedName.map fun name => ?_)
    · rw [Statement.weight]
    · rw [Statement.weight]

/-- An operator in front is paid for by its own token. -/
theorem pays_prefixed (pays : Pays 0 operand Statement.weight) (token : Lexeme)
    (symbol : UnarySymbol) : Pays 0 (prefixed token symbol operand) Statement.weight := by
  refine (pays_lexeme token).bind fun _ => pays.bind fun value => ?_
  refine pays_ofOption fun found member => ?_
  obtain ⟨_, same⟩ := Option.ite_none_right_eq_some.1 member
  cases same
  rw [Statement.weight, Nat.zero_add]

/-- A statement with operators in front of it. -/
theorem pays_unary (pays : Pays 0 statement Statement.weight) :
    Pays 0 (unary statement) Statement.weight := by
  apply pays_fix
  intro inner known
  apply (pays_prefixed known _ _).orElse
  apply (pays_prefixed known _ _).orElse
  exact pays_primary pays

/-- Each operation that is put on a statement adds one to what its operand weighs. -/
theorem weight_foldOperations (first : Statement) (operations : List (BinarySymbol × Statement)) :
    (foldOperations first operations).weight =
      first.weight + Whole.sum (operations.map fun operation => 1 + operation.2.weight) := by
  induction operations generalizing first with
  | nil => rfl
  | cons operation operations ih =>
    have step : foldOperations first (operation :: operations) =
        foldOperations (.binary operation.1 first operation.2) operations := rfl
    rw [step, ih, Statement.weight, List.map_cons, Whole.sum_cons]
    omega

/-- An operator between operands is paid for by its own token. -/
theorem pays_operation (pays : Pays 0 operand Statement.weight) (token : Lexeme)
    (symbol : BinarySymbol) :
    Pays 0 (operation operand token symbol) fun operation => 1 + operation.2.weight := by
  refine (pays_lexeme token).bind fun _ => pays.bind fun value => pays_pure ?_
  rw [Nat.zero_add]

/-- Operands with operators between them. -/
theorem Pays.level {operation : Parser (BinarySymbol × Statement)}
    (first : Pays 0 operand Statement.weight)
    (more : Pays 0 operation fun operation => 1 + operation.2.weight) :
    Pays 0 (Parser.level operand operation) Statement.weight := by
  refine first.bind fun first => more.many.bind fun operations => pays_pure ?_
  rw [weight_foldOperations, Nat.zero_add]

/-- Operands with operators of all levels between them. -/
theorem pays_disjunction (pays : Pays 0 statement Statement.weight) :
    Pays 0 (disjunction statement) Statement.weight := by
  have operand := pays_unary pays
  have products : Pays 0 (multiplicative statement) Statement.weight :=
    operand.level ((pays_operation operand _ _).orElse (pays_operation operand _ _))
  have sums : Pays 0 (additive statement) Statement.weight :=
    products.level ((pays_operation products _ _).orElse (pays_operation products _ _))
  have comparisons : Pays 0 (equality statement) Statement.weight :=
    sums.level ((pays_operation sums _ _).orElse (pays_operation sums _ _))
  have conjunctions : Pays 0 (conjunction statement) Statement.weight :=
    comparisons.level (pays_operation comparisons _ _)
  exact conjunctions.level (pays_operation conjunctions _ _)

/-- A statement weighs no more than its tokens. -/
theorem pays_statement : Pays 0 Parser.statement Statement.weight := by
  apply pays_fix
  intro inner known
  refine (pays_disjunction known).bind fun target => Pays.orElse ?_ (pays_pure ?_)
  · refine (pays_ensure _).bind fun _ => (pays_lexeme _).bind fun _ => ?_
    refine known.bind fun value => pays_pure ?_
    rw [Statement.weight]
    omega
  · rw [Nat.zero_add]

end Statements

/-! ## Expressions -/

section Expressions

/-- A declaration without its semicolon has its type to spare. -/
theorem pays_openDeclaration : Pays 0 openDeclaration Declaration.weight := by
  have qualifiers : Pays 0 (many qualifier) List.length :=
    (pays_accept _).many.lighter fun items => Nat.le_of_eq (Whole.sum_map_one items).symm
  have name : Pays 0 word fun _ => 1 := pays_accept _
  have initial := (pays_statement.behind .assign).optional
  refine qualifiers.bind fun qualifiers => pays_typeName.bind fun type => ?_
  refine name.bind fun name => initial.bind fun initializer => pays_pure ?_
  rw [Declaration.weight]
  cases initializer with
  | none =>
    dsimp only [Option.map_none, Option.getD_none]
    omega
  | some value =>
    dsimp only [Option.map_some, Option.getD_some]
    omega

theorem pays_declaration : Pays 0 declaration fun declared => 1 + declared.weight := by
  refine pays_openDeclaration.bind fun declared => (pays_lexeme _).bind fun _ => pays_pure ?_
  omega

variable {expression : Parser Expression}

/-- Expressions in braces have two units to spare. -/
theorem pays_bracedBody (pays : Pays 0 expression Expression.weight) :
    Pays 0 (bracedBody expression) fun body => 2 + Expression.weightOfAll body := by
  refine Pays.delimited (pays.many.lighter fun body => ?_) _ _
  rw [Expression.weightOfAll_eq_sum]

/-- The expressions of a body are paid for one by one. -/
theorem pays_body (pays : Pays 0 expression Expression.weight) :
    Pays 0 (body expression) Expression.weightOfAll := by
  refine ((pays_bracedBody pays).lighter fun body => Nat.le_add_left _ 2).orElse ?_
  refine pays.map fun single => ?_
  rw [Expression.weightOfAll_eq_sum, List.map_singleton, Whole.sum_cons, Whole.sum_nil, Nat.add_zero]

theorem pays_condition : Pays 0 condition fun statement => 2 + statement.weight :=
  pays_statement.delimited _ _

/-- An `if` weighs no more than its tokens. -/
theorem pays_branchBlock (pays : Pays 0 expression Expression.weight) :
    Pays 0 (branchBlock expression) Block.weight := by
  have body := pays_body pays
  refine (pays_lexeme _).bind fun _ => pays_condition.bind fun condition => ?_
  refine body.bind fun thenBody => (body.behind .elseKeyword).optional.bind fun elseBody => ?_
  apply pays_pure
  rw [Block.weight]
  cases elseBody with
  | none =>
    dsimp only [Option.map_none, Option.getD_none, Expression.weightOfAll]
    omega
  | some elseBody =>
    dsimp only [Option.map_some, Option.getD_some]
    omega

/-- A `while` weighs no more than its tokens. -/
theorem pays_whileBlock (pays : Pays 0 expression Expression.weight) :
    Pays 0 (whileBlock expression) Block.weight := by
  refine (pays_lexeme _).bind fun _ => pays_condition.bind fun condition => ?_
  refine (pays_body pays).bind fun body => pays_pure ?_
  rw [Block.weight]
  omega

/-- A `do` weighs no more than its tokens. -/
theorem pays_doWhileBlock (pays : Pays 0 expression Expression.weight) :
    Pays 0 (doWhileBlock expression) Block.weight := by
  refine (pays_lexeme _).bind fun _ => (pays_body pays).bind fun body => ?_
  refine (pays_lexeme _).bind fun _ => pays_condition.bind fun condition => ?_
  refine (pays_lexeme _).bind fun _ => pays_pure ?_
  rw [Block.weight]
  omega

/-- A clause of a `for` that is left out is paid for by the lexeme that ends it. -/
theorem pays_forClause (ending : Lexeme) : Pays 0 (forClause ending) Expression.weight := by
  refine pays_statement.optional.bind fun statement => (pays_lexeme ending).bind fun _ => ?_
  apply pays_pure
  cases statement with
  | none => exact Nat.le_refl 1
  | some statement => exact Nat.le_trans (Nat.le_of_eq (Nat.zero_add _).symm) (Nat.le_add_right _ 1)

/-- A `for` has only the parenthesis that opens its header to spare, and the braces of its body, if
all its clauses are left out. -/
theorem pays_forBlock (pays : Pays 0 expression Expression.weight) :
    Pays 0 (forBlock expression) Block.weight := by
  have declared : Pays 0 (Expression.declaration <$> declaration) Expression.weight :=
    pays_declaration.map fun declared => Nat.le_add_left _ 1
  refine (pays_lexeme _).bind fun _ => (pays_lexeme _).bind fun _ => ?_
  refine (declared.orElse (pays_forClause _)).bind fun init => ?_
  refine (pays_forClause _).bind fun condition => (pays_forClause _).bind fun iteration => ?_
  refine (pays_body pays).bind fun body => pays_pure ?_
  rw [Block.weight]
  omega

/-- The resources of a `try` weigh no more than their tokens. -/
theorem pays_resources : Pays 0 resources totalWeight := by
  have last := (pays_lexeme .semicolon).optional
  have listed : Pays 0 (do
      let declarations ← separated .semicolon openDeclaration
      let _ ← optional (lexeme .semicolon)
      pure declarations) totalWeight := by
    refine (pays_openDeclaration.separated _).bind fun declarations => last.bind fun _ => ?_
    exact pays_pure (Nat.le_add_right_of_le (Nat.le_of_eq (Nat.zero_add _).symm))
  exact (listed.delimited _ _).lighter fun _ => Nat.le_add_left _ 2

/-- What a `catch` catches has one unit for each type and one for its variable. -/
theorem pays_caught : Pays 0 caught fun (types, _) => types.length + 1 := by
  have name : Pays 0 word fun _ => 1 := pays_accept _
  have listed : Pays 0 (do
      let types ← separated .pipe typeName
      let name ← word
      pure (types, name)) fun (types, _) => types.length + 1 := by
    refine (pays_typeName.separated _).bind fun types => name.bind fun name => pays_pure ?_
    rw [Whole.sum_map_one, Nat.zero_add]
  exact (listed.delimited _ _).lighter fun _ => Nat.le_add_left _ 2

/-- A `catch` weighs no more than its tokens. -/
theorem pays_catchClause (pays : Pays 0 expression Expression.weight) :
    Pays 0 (catchClause expression) CatchClause.weight := by
  refine (pays_lexeme _).bind fun _ => pays_caught.bind fun (types, name) => ?_
  refine (pays_bracedBody pays).bind fun body => pays_pure ?_
  rw [CatchClause.weight, List.length_map]
  dsimp only
  omega

/-- A `try` weighs no more than its tokens. -/
theorem pays_guardedBlock (pays : Pays 0 expression Expression.weight) :
    Pays 0 (guardedBlock expression) Block.weight := by
  have body := pays_bracedBody pays
  refine (pays_lexeme _).bind fun _ => pays_resources.optional.bind fun resources => ?_
  refine body.bind fun body' => (pays_catchClause pays).many.bind fun handlers => ?_
  refine (body.behind .finallyKeyword).optional.bind fun cleanup => ?_
  refine (pays_ensure _).bind fun _ => pays_pure ?_
  have ofResources : totalWeight (resources.getD []) = (resources.map totalWeight).getD 0 := by
    cases resources <;> rfl
  have ofCleanup : Expression.weightOfOptional cleanup ≤
      (cleanup.map fun body => 1 + (2 + Expression.weightOfAll body)).getD 0 := by
    cases cleanup with
    | none => exact Nat.le_refl 0
    | some body =>
      rw [Expression.weightOfOptional, Option.map_some, Option.getD_some]
      omega
  rw [Block.weight, CatchClause.weightOfAll_eq_sum, ofResources]
  omega

/-- An expression weighs no more than its tokens. -/
theorem pays_expression : Pays 0 Parser.expression Expression.weight := by
  apply pays_fix
  intro inner known
  have blocks : Pays 0 (blockWith inner) Block.weight :=
    (pays_branchBlock known).orElse ((pays_whileBlock known).orElse
      ((pays_doWhileBlock known).orElse ((pays_forBlock known).orElse
        (pays_guardedBlock known))))
  have terminated : Pays 0 terminatedStatement Statement.weight := by
    refine pays_statement.bind fun value => (pays_lexeme _).bind fun _ => pays_pure ?_
    omega
  refine (blocks.map fun inner => ?_).orElse ((pays_declaration.map fun declared => ?_).orElse
    ((terminated.map fun value => ?_).orElse ((pays_lexeme _).map fun _ => ?_)))
  · rw [Expression.weight]
  · rw [Expression.weight]
    exact Nat.le_add_left _ 1
  · rw [Expression.weight]
  · rw [Expression.weight]

end Expressions

end Parser

/-! ## Trees -/

/-- A text with a tree has tokens, and those that are no trivia are at least as many as the tree
weighs. -/
theorem exists_tokens_of_weight {source : String} {tree : SyntaxTree}
    (parsed : parse source = .ok tree) :
    ∃ tokens, tokenize source = .ok tokens ∧ tree.weight ≤ (Token.significant tokens).length := by
  obtain ⟨ended, all⟩ := parse_eq_ok_iff.1 parsed
  obtain ⟨tokens, cut⟩ := exists_tokenize ended
  have paid := Parser.pays_expression.many _ _ _ all
  rw [List.length_nil, List.length_map, Nat.zero_add] at paid
  refine ⟨tokens, cut, ?_⟩
  rw [(tokenize_eq_ok cut).2.2, List.length_map, SyntaxTree.weight, Expression.weightOfAll_eq_sum]
  exact paid

/-- Tokens that are cut off take at least one byte each. -/
theorem Cursor.Passes.length_le {trivia : Trivia} {cursor stop : Cursor} {spots : List Spot}
    (passes : Passes trivia cursor spots stop) : cursor.offset + spots.length ≤ stop.offset := by
  induction passes with
  | stay cursor => exact Nat.le_refl _
  | cut cut _ ih =>
    have further := offset_lt_next_of_scan cut
    rw [List.length_cons]
    omega

/-- A text has at least as many bytes as tokens that are no trivia. -/
theorem length_significant_le {source : String} {tokens : List Token}
    (cut : tokenize source = .ok tokens) :
    (Token.significant tokens).length ≤ source.utf8ByteSize := by
  have passes := Cursor.passes_spots .keep (Cursor.ofSource source)
  have enough := passes.length_le
  rw [passes.place_eq.2.1, ← List.length_map Spot.token, ← (tokenize_eq_ok_iff.1 cut).2,
    source_of_tokenize cut] at enough
  calc (Token.significant tokens).length
      ≤ tokens.length := List.length_filter_le _ _
    _ = (Cursor.ofSource source).offset + tokens.length := (Nat.zero_add _).symm
    _ ≤ source.utf8ByteSize := enough

end Likeness
