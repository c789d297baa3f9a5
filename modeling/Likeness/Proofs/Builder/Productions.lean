import Likeness.Builder.Expression
import Likeness.Grammar.Part
import Likeness.Proofs.Builder.Runs
import Likeness.Proofs.Grammar.Turns

/-!
# What is carried through every production

The grammar is written down twice: by builders, which take lexemes off the text as they go, and by
parsers, which read a list of tokens. A `Congruence` relates builders to parsers, says how many
tokens are taken at least, and is kept by every way to put them together. Then it relates the
builder of every production to the parser of the same production, up to `Congruence.expression` and
`Congruence.part`. What holds of single tokens can so be carried through the grammar once and for all.

Builders fold what their loops find into a value step by step, where parsers gather a list first.
The laws of a monad hold for parsers, so that both can be brought to one form.
-/

namespace Likeness

namespace Parser

variable {α β γ : Type}

/-- Grouping a sequence in another way reads the same and comes to the same place. -/
theorem andThen_assoc (parser : Parser α) (second : α → Parser β) (third : β → Parser γ) :
    andThen (andThen parser second) third =
      andThen parser fun value => andThen (second value) third := by
  funext input
  simp only [andThen]
  rcases parser input with ⟨reach, _ | ⟨value, rest⟩⟩
  · rfl
  · simp only
    rcases second value rest with ⟨reach', _ | ⟨value', rest'⟩⟩
    · rfl
    · simp only [further_assoc]

/-- A sequence that only passes the value on is its first part. -/
theorem andThen_succeed (parser : Parser α) : andThen parser succeed = parser := by
  funext input
  rw [andThen]
  rcases parser input with ⟨reach, _ | ⟨value, rest⟩⟩
  · rfl
  · simp [succeed]

/-- A value that is there from the start is passed on. -/
theorem succeed_andThen (value : α) (continuation : α → Parser β) :
    andThen (succeed value) continuation = continuation value := by
  funext input
  show (⟨further none _, _⟩ : Outcome _) = _
  rw [further_none_left]

instance : LawfulMonad Parser :=
  LawfulMonad.mk' Parser andThen_succeed succeed_andThen andThen_assoc

/-- An alternative that accepts nothing adds nothing. -/
theorem orElse_fail (parser : Parser α) : (parser <|> fail) = parser := by
  funext input
  show otherwise parser fail input = _
  rw [otherwise]
  rcases outcome : parser input with ⟨reach, _ | ⟨value, rest⟩⟩
  · simp [fail]
  · rfl

/-- Asking whether a value is there and changing it is changing it where it is there. -/
theorem optional_bind {parser : Parser α} {continuation : Option α → Parser β} (change : α → β)
    {missing : β} (found : ∀ value, continuation (some value) = pure (change value))
    (absent : continuation none = pure missing) :
    optional parser >>= continuation = ((change <$> parser) <|> pure missing) := by
  funext input
  show andThen (otherwise (andThen parser _) _) _ input = otherwise (andThen parser _) _ input
  simp only [andThen, otherwise]
  rcases parser input with ⟨reach, _ | ⟨value, rest⟩⟩
  · simp [pure, succeed, absent]
  · simp [pure, succeed, found]

/-- A value is looked for only where one can be stored, and then an assignment can be made of it. -/
theorem assigned_orElse (statement : Parser Statement) (target : Statement) :
    (assigned statement target <|> pure target) = (do
      match ← optional (do ensure target.isAssignable; lexeme .assign; statement) with
      | some value => ofOption (Statement.binary? .assign target value)
      | none => pure target) := by
  cases assignable : target.isAssignable with
  | false =>
    rw [assigned, assignable]
    rfl
  | true =>
    rw [optional_bind (Statement.binary .assign target) (fun value => ?_) rfl, assigned,
      assignable]
    · simp only [map_bind]
      rfl
    · simp only [Statement.binary?, BinarySymbol.accepts, assignable, if_true]
      rfl

end Parser

/-! ## Single tokens -/

namespace Builder

variable {α β : Type}

/-- Take the next token if there is a value in it. -/
def taking (trivia : Trivia) (choose : Lexeme → String → Option α) : Builder α := fun stance =>
  match stance.cursor.next trivia with
  | none => (none, stance)
  | some spot =>
    match choose spot.token.lexeme spot.token.text with
    | none => (none, stance)
    | some value => (some value, { stance with cursor := spot.next }.mark)

/-- A token that passes a test is taken, and its end is marked. -/
theorem matching_apply (trivia : Trivia) (test : Token → Bool) (stance : Stance) :
    matching trivia test stance =
      match stance.cursor.next trivia with
      | none => (none, stance)
      | some spot =>
        if test spot.token then (some spot.token, { stance with cursor := spot.next }.mark)
        else (none, stance) := by
  show andThen (branch (andThen (next trivia) fun token => andThen (ensure (test token)) fun _ =>
    pure token)) (fun token => andThen mark fun _ => pure token) stance = _
  simp only [andThen, branch, next]
  cases stance.cursor.next trivia with
  | none => rfl
  | some spot => cases passed : test spot.token <;> simp [ensure, passed] <;> rfl

/-- A token that passes a test is taken for the value that is found in it. -/
theorem matching_bind_eq_taking (trivia : Trivia) (test : Lexeme → Bool)
    {choose : Lexeme → String → Option α} {continuation : Token → Builder α}
    (found : ∀ token : Token, test token.lexeme →
      ∃ value, choose token.lexeme token.text = some value ∧ continuation token = pure value)
    (refused : ∀ token : Token, test token.lexeme = false →
      choose token.lexeme token.text = none) :
    (matching trivia fun token => test token.lexeme) >>= continuation =
      taking trivia choose := by
  funext stance
  show andThen _ _ stance = _
  rw [andThen, matching_apply, taking]
  cases stance.cursor.next trivia with
  | none => rfl
  | some spot =>
    cases passed : test spot.token.lexeme with
    | false => simp [passed, refused _ passed]
    | true =>
      obtain ⟨value, chosen, continued⟩ := found spot.token passed
      simp only [passed, if_true, chosen, continued]
      rfl

/-- A token that is the given lexeme is taken for a value that can be told from its text. -/
theorem map_matching (trivia : Trivia) (expected : Lexeme) (value : String → α) :
    ((fun token => value token.text) <$> matching trivia fun token => token.lexeme = expected) =
      taking trivia fun lexeme text => if lexeme = expected then some (value text) else none :=
  matching_bind_eq_taking trivia (fun lexeme => lexeme = expected)
    (fun _ passed => ⟨_, if_pos (of_decide_eq_true passed), rfl⟩)
    (fun _ failed => if_neg (of_decide_eq_false failed))

/-- Where only one lexeme is taken, it tells what does not extend beyond its own text. -/
theorem isPlain_of_isSome {expected : Lexeme} (plain : expected.isPlain) (value : String → α)
    (lexeme : Lexeme) (text : String)
    (found : (if lexeme = expected then some (value text) else none).isSome) : lexeme.isPlain := by
  rw [Option.isSome_ite.1 found]
  exact plain

/-- A qualifier is taken for itself. -/
theorem qualifier_eq_taking :
    qualifier = taking .skip fun lexeme _ => Qualifier.ofLexeme? lexeme := by
  refine matching_bind_eq_taking .skip (fun lexeme => (Qualifier.ofLexeme? lexeme).isSome)
    (fun token passed => ?_) fun token failed => ?_
  · obtain ⟨value, found⟩ := Option.isSome_iff_exists.1 passed
    exact ⟨value, found, by rw [found]; rfl⟩
  · exact Option.isNone_iff_eq_none.1 (by simpa using failed)

end Builder

/-! ## Relations that are carried -/

theorem foldl_concat {α : Type} (start items : List α) :
    items.foldl (fun items value => items ++ [value]) start = start ++ items := by
  rw [List.foldl_append_eq_append, ← List.flatMap_def, List.flatMap_singleton']

/-- Names that are put behind a dot one by one have dots between them. -/
theorem foldl_append_dot (first : String) (parts : List String) :
    parts.foldl (fun name part => name ++ "." ++ part) first =
      String.intercalate "." (first :: parts) := by
  induction parts generalizing first with
  | nil => rfl
  | cons part parts ih =>
    rw [List.foldl_cons, ih]
    rfl

/-- Brackets are put behind a type one pair after the other. -/
theorem foldl_append_brackets (text : String) (arrays : List Unit) :
    arrays.foldl (fun text _ => text ++ "[]") text =
      text ++ String.join (List.replicate arrays.length "[]") := by
  induction arrays generalizing text with
  | nil => simp [String.join]
  | cons array arrays ih => simp [ih, List.replicate_succ, String.append_assoc]

namespace Builder

/-- A relation between builders and parsers, with a number of tokens that are taken at least, which
is kept by all ways to put them together. A sequence is related on a branch. A parser that comes
back to itself has to end: more turns than there are tokens make no difference. -/
structure Congruence (related : {α : Type} → Nat → Builder α → Parser α → Prop) : Prop where
  any : ∀ {α : Type} {taken : Nat} {builder : Builder α} {parser : Parser α},
    related taken builder parser → related 0 builder parser
  branch : ∀ {α : Type} {taken : Nat} {builder : Builder α} {parser : Parser α},
    related taken builder parser → related taken (branch builder) parser
  fail : ∀ {α : Type} (taken : Nat), related taken (fail : Builder α) Parser.fail
  pure : ∀ {α : Type} (value : α), related 0 (pure value) (pure value)
  bind : ∀ {α β : Type} {taken taken' : Nat} {builder : Builder α} {parser : Parser α}
    {continuation : α → Builder β} {continuation' : α → Parser β},
    related taken (Builder.branch builder) parser →
    (∀ value, related taken' (Builder.branch (continuation value)) (continuation' value)) →
      related (taken + taken') (Builder.branch (builder >>= continuation))
        (parser >>= continuation')
  map : ∀ {α β : Type} {taken : Nat} {builder : Builder α} {parser : Parser α} (change : α → β),
    related taken builder parser → related taken (change <$> builder) (change <$> parser)
  orElse : ∀ {α : Type} {taken : Nat} {first second : Builder α} {first' second' : Parser α},
    related taken first first' → related taken second second' →
      related taken (first <|> second) (first' <|> second')
  fix : ∀ {α : Type} {step : Builder α → Builder α} {step' : Parser α → Parser α},
    (∀ {depth : Nat} {input : List Piece}, input.length < depth →
      Parser.unroll step' depth input = Parser.fix step' input) →
    (∀ {inner : Builder α} {inner' : Parser α}, related 1 inner inner' →
      related 1 (step inner) (step' inner')) →
      related 1 (fix step) (Parser.fix step')
  steps : ∀ {α β : Type} {step : β → Builder β} {item : Parser α} {change : β → α → β},
    (∀ value, related 1 (step value) (change value <$> item)) →
      ∀ value, related 0 (steps step value) (List.foldl change value <$> Parser.many item)
  moving : ∀ {α : Type} {item : Builder α} {item' : Parser α},
    related 1 item item' → related 1 (moving item) item'
  taking : ∀ {α : Type} {choose : Lexeme → String → Option α},
    (∀ lexeme text, (choose lexeme text).isSome → lexeme.isPlain) →
      related 1 (taking .skip choose) (Parser.accept fun piece => choose piece.lexeme piece.text)
  string : related 1 (quoted '"') (Parser.contents .doubleQuote)
  char : related 1 (quoted '\'') (Parser.contents .singleQuote)
  number : related 1 number Parser.number

namespace Congruence

variable {α β : Type} {related : {α : Type} → Nat → Builder α → Parser α → Prop}
  (kept : Congruence related)
include kept

/-! ## Sequences -/

section Sequences

variable {taken taken' : Nat} {builder : Builder α} {parser : Parser α}
  {continuation : α → Builder β} {continuation' : α → Parser β}

/-- A sequence takes what its first part takes. -/
theorem before (start : related taken builder parser)
    (rest : ∀ value, related 0 (Builder.branch (continuation value)) (continuation' value)) :
    related taken (Builder.branch (builder >>= continuation)) (parser >>= continuation') :=
  kept.bind (kept.branch start) rest

/-- A sequence takes what its second part takes. -/
theorem next (start : related taken builder parser)
    (rest : ∀ value, related taken' (Builder.branch (continuation value)) (continuation' value)) :
    related taken' (Builder.branch (builder >>= continuation)) (parser >>= continuation') := by
  have both := kept.bind (kept.branch (kept.any start)) rest
  rwa [Nat.zero_add] at both

theorem last (value : α) : related 0 (Builder.branch (Pure.pure value)) (Pure.pure value) :=
  kept.branch (kept.pure value)

theorem attempt (item : related taken builder parser) :
    related 0 (attempt builder) (Parser.optional parser) :=
  kept.orElse (kept.any (kept.map some item)) (kept.pure none)

/-- A value is there on both sides. -/
theorem ofOption (value : Option α) : related 0 (ofOption value) (Parser.ofOption value) := by
  cases value with
  | none => exact kept.fail 0
  | some value => exact kept.pure value

/-- A condition that is tested first may stand in front of a branch. -/
theorem ensure (condition : Bool) (item : related taken builder parser) :
    related taken (ensure condition >>= fun _ => builder)
      (Parser.ensure condition >>= fun _ => parser) := by
  cases condition with
  | false => exact kept.fail taken
  | true =>
    have same : (Parser.ensure true >>= fun _ => parser) = parser := pure_bind () fun _ => parser
    rw [same]
    exact item

end Sequences

/-! ## Tokens -/

/-- A lexeme is carried. -/
theorem lexeme {expected : Lexeme} (plain : expected.isPlain) :
    related 1 (lexeme expected) (Parser.lexeme expected) := by
  rw [Builder.lexeme, map_matching .skip expected fun _ => ()]
  exact kept.taking (isPlain_of_isSome plain fun _ => ())

/-- An identifier is carried. -/
theorem word : related 1 word Parser.word := by
  have same : Builder.word = _ := map_matching .skip .word fun text => text
  rw [same]
  exact kept.taking (isPlain_of_isSome rfl fun text => text)

/-- A qualifier is carried. -/
theorem qualifier : related 1 qualifier Parser.qualifier := by
  rw [qualifier_eq_taking]
  refine kept.taking fun lexeme _ found => ?_
  cases lexeme <;> first | rfl | cases found

/-- A literal is carried. -/
theorem literal : related 1 literal Parser.literal := by
  have keyword {expected : Lexeme} (value : Literal) (plain : expected.isPlain) :
      related 1 ((fun _ => value) <$> Builder.lexeme expected)
        ((fun _ => value) <$> Parser.lexeme expected) := kept.map _ (kept.lexeme plain)
  refine kept.orElse (kept.map _ kept.string) (kept.orElse (kept.map _ kept.char) ?_)
  refine kept.orElse (keyword _ rfl) (kept.orElse (keyword _ rfl) ?_)
  exact kept.orElse (keyword _ rfl) kept.number

/-! ## Items -/

section Items

variable {item : Builder α} {item' : Parser α}

/-- A loop that makes a value of its items one by one makes the same as from all of them. -/
theorem loop {step : β → Builder β} {change : β → α → β} {start : β} {whole : List α → β}
    (each : ∀ value, related 1 (step value) (change value <$> item'))
    (same : ∀ items, items.foldl change start = whole items) :
    related 0 (Builder.branch (Builder.steps step start))
      (Parser.many item' >>= fun items => Pure.pure (whole items)) := by
  have folded : List.foldl change start = whole := funext same
  exact folded ▸ kept.branch (kept.steps each start)

/-- Items that each take a token are carried: the loop never stops because one took nothing. -/
theorem repeated (items : related 1 item item') :
    related 0 (repeated item) (Parser.many item') := by
  have each (found : List α) : related 1 ((fun value => found ++ [value]) <$> Builder.moving item)
      ((fun value => found ++ [value]) <$> item') := kept.map _ (kept.moving items)
  have gathered : List.foldl (fun found value => found ++ [value]) ([] : List α) = id :=
    funext (foldl_concat [])
  have loop := kept.steps each []
  rwa [gathered, id_map] at loop

/-- What stands behind a lexeme is carried. -/
theorem behind {taken : Nat} (items : related taken item item') {expected : Lexeme}
    (plain : expected.isPlain) (change : α → β) :
    related 1 (Builder.branch (Builder.lexeme expected >>= fun _ => item >>= fun value =>
        Pure.pure (change value)))
      (change <$> (Parser.lexeme expected >>= fun _ => item')) := by
  rw [map_bind]
  refine kept.before (kept.lexeme plain) fun _ => ?_
  exact kept.next items fun value => kept.last (change value)

/-- Items with separators between them are carried. -/
theorem separated (items : related 1 item item') {separator : Lexeme}
    (plain : separator.isPlain) :
    related 1 (separated separator item) (Parser.separated separator item') := by
  refine kept.before items fun first => ?_
  exact kept.loop (fun found => kept.behind items plain fun value => found ++ [value])
    (foldl_concat [first])

/-- An item between delimiters is carried. -/
theorem delimited (inner : related 0 (Builder.branch item) item') {opening closing : Lexeme}
    (plain : opening.isPlain) (plain' : closing.isPlain) :
    related 1 (delimited opening closing item) (Parser.delimited opening closing item') := by
  refine kept.before (kept.lexeme plain) fun _ => ?_
  refine kept.bind inner fun value => (?_ : related 0 _ _)
  exact kept.next (kept.lexeme plain') fun _ => kept.last value

end Items

/-- A dotted name is carried. -/
theorem dottedName : related 1 dottedName Parser.dottedName := by
  rw [Parser.dottedName, Parser.separated]
  simp only [map_bind, map_pure]
  refine kept.before kept.word fun first => ?_
  exact kept.loop (fun name => kept.behind kept.word rfl fun part => name ++ "." ++ part)
    (foldl_append_dot first)

/-- A turn of types is carried. -/
theorem typeName : related 1 typeName Parser.typeName := by
  refine kept.fix (fun enough => ?_) fun {inner inner'} known => ?_
  · rw [Parser.unroll_eq_iterate]
    exact Parser.ends_typeName.depth Parser.fail enough
  · have arguments : related 1
        (Builder.delimited .openChevron .closeChevron (Builder.separated .comma inner))
        (Parser.delimited .openChevron .closeChevron (Parser.separated .comma inner')) :=
      kept.delimited (kept.branch (kept.any (kept.separated known rfl))) rfl rfl
    refine kept.before kept.dottedName fun name => ?_
    refine kept.next (kept.attempt arguments) fun arguments => ?_
    have brackets (name : String) :
        related 1
          ((fun _ => name ++ "[]") <$> Builder.delimited .openBracket .closeBracket (Pure.pure ()))
          ((fun _ => name ++ "[]") <$> Parser.delimited .openBracket .closeBracket (Pure.pure ())) :=
      kept.map _ (kept.delimited (kept.last ()) rfl rfl)
    cases arguments with
    | none =>
      refine kept.loop brackets fun arrays => ?_
      simp [foldl_append_brackets, Parser.typeText]
    | some arguments =>
      refine kept.loop brackets fun arrays => ?_
      simp [foldl_append_brackets, Parser.typeText, String.append_assoc]

/-! ## Statements -/

section Statements

variable {inner operand : Builder Statement} {inner' operand' : Parser Statement}

/-- Statements in parentheses are carried. -/
theorem group (known : related 1 inner inner') :
    related 1 (group inner) (Parser.group inner') := by
  refine kept.delimited ?_ rfl rfl
  exact kept.next (kept.attempt (kept.separated known rfl)) fun items => kept.last _

/-- A statement without operators around it is carried. -/
theorem primary (known : related 1 inner inner') :
    related 1 (primary inner) (Parser.primary inner') :=
  kept.orElse (kept.map _ (kept.group known))
    (kept.orElse (kept.map _ kept.literal) (kept.map _ kept.dottedName))

/-- An operator in front of its operand is carried. -/
theorem prefixed (known : related 1 operand operand') {token : Lexeme} (plain : token.isPlain)
    (symbol : UnarySymbol) :
    related 1 (prefixed token symbol operand) (Parser.prefixed token symbol operand') := by
  refine kept.before (kept.lexeme plain) fun _ => ?_
  exact kept.next known fun value => kept.branch (kept.ofOption _)

/-- A statement with operators in front of it is carried. -/
theorem unary (known : related 1 inner inner') :
    related 1 (unary inner) (Parser.unary inner') := by
  refine kept.fix (fun enough => ?_) fun operand => ?_
  · exact Parser.unroll_eq_unroll (Parser.guarded_unaryStep inner') enough (Nat.lt_succ_self _)
  · refine kept.orElse (kept.prefixed operand rfl _) ?_
    exact kept.orElse (kept.prefixed operand rfl _) (kept.primary known)

/-- An operator and its operand are carried. -/
theorem operation (known : related 1 operand operand') {token : Lexeme} (plain : token.isPlain)
    (symbol : BinarySymbol) :
    related 1 (operation operand (token, symbol)) (Parser.operation operand' token symbol) := by
  refine kept.before (kept.lexeme plain) fun _ => ?_
  exact kept.next known fun value => kept.last (symbol, value)

/-- A level with one operator is carried. -/
theorem oneOperator (known : related 1 operand operand') {token : Lexeme} (plain : token.isPlain)
    (symbol : BinarySymbol) :
    related 1 (level operand [(token, symbol)])
      (Parser.level operand' (Parser.operation operand' token symbol)) := by
  have only := kept.orElse (kept.operation known plain symbol) (kept.fail 1)
  rw [Parser.orElse_fail] at only
  refine kept.before known fun first => ?_
  exact kept.loop (fun left => kept.map _ only) fun operations => rfl

/-- A level with two operators is carried. -/
theorem twoOperators (known : related 1 operand operand') {token token' : Lexeme}
    (plain : token.isPlain) (plain' : token'.isPlain) (symbol symbol' : BinarySymbol) :
    related 1 (level operand [(token, symbol), (token', symbol')])
      (Parser.level operand'
        (Parser.operation operand' token symbol <|> Parser.operation operand' token' symbol')) := by
  have last := kept.orElse (kept.operation known plain' symbol') (kept.fail 1)
  rw [Parser.orElse_fail] at last
  have either := kept.orElse (kept.operation known plain symbol) last
  refine kept.before known fun first => ?_
  exact kept.loop (fun left => kept.map _ either) fun operations => rfl

/-- All levels of operators are carried, from the tightest to the loosest. -/
theorem disjunction (known : related 1 inner inner') :
    related 1 (disjunction inner) (Parser.disjunction inner') := by
  have products : related 1 (multiplicative inner) (Parser.multiplicative inner') :=
    kept.twoOperators (kept.unary known) rfl rfl _ _
  have sums : related 1 (additive inner) (Parser.additive inner') :=
    kept.twoOperators products rfl rfl _ _
  have comparisons : related 1 (equality inner) (Parser.equality inner') :=
    kept.twoOperators sums rfl rfl _ _
  have conjunctions : related 1 (conjunction inner) (Parser.conjunction inner') :=
    kept.oneOperator comparisons rfl _
  exact kept.oneOperator conjunctions rfl _

end Statements

/-- A statement is carried. -/
theorem statement : related 1 statement Parser.statement := by
  refine kept.fix (fun enough => ?_) fun {inner inner'} known => ?_
  · rw [Parser.unroll_eq_iterate]
    exact Parser.ends_statement.depth Parser.fail enough
  · have stored : related 1
        (Builder.branch (Builder.lexeme .assign >>= fun _ => inner))
        (Parser.lexeme .assign >>= fun _ => inner') :=
      kept.before (kept.lexeme rfl) fun _ => kept.branch (kept.any known)
    refine kept.before (kept.disjunction known) fun target => ?_
    rw [Parser.assigned_orElse]
    refine kept.next (kept.attempt (kept.ensure target.isAssignable stored)) fun value => ?_
    cases value with
    | none => exact kept.last target
    | some value => exact kept.branch (kept.ofOption _)

/-! ## Declarations -/

/-- A declaration without its semicolon is carried. -/
theorem openDeclaration : related 1 openDeclaration Parser.openDeclaration := by
  have initializer : related 1 initializer (Parser.lexeme .assign >>= fun _ => Parser.statement) :=
    kept.before (kept.lexeme rfl) fun _ => kept.branch (kept.any kept.statement)
  refine kept.next (kept.repeated kept.qualifier) fun qualifiers => ?_
  refine kept.before kept.typeName fun type => ?_
  refine kept.next kept.word fun name => ?_
  exact kept.next (kept.attempt initializer) fun initializer => kept.last _

theorem declaration : related 1 declaration Parser.declaration := by
  refine kept.before kept.openDeclaration fun declared => ?_
  exact kept.next (kept.lexeme rfl) fun _ => kept.last declared

/-! ## Blocks -/

theorem condition : related 1 condition Parser.condition :=
  kept.delimited (kept.branch (kept.any kept.statement)) rfl rfl

/-- A clause of a `for` is carried. -/
theorem forClause {ending : Lexeme} (plain : ending.isPlain) :
    related 1 (forClause ending) (Parser.forClause ending) := by
  refine kept.next (kept.attempt kept.statement) fun statement => ?_
  exact kept.before (kept.lexeme plain) fun _ => kept.last _

/-- The resources of a `try` are carried. -/
theorem resources : related 1 resources Parser.resources := by
  refine kept.delimited ?_ rfl rfl
  refine kept.next (kept.separated kept.openDeclaration rfl) fun declarations => ?_
  exact kept.next (kept.attempt (kept.lexeme rfl)) fun _ => kept.last declarations

/-- What a `catch` catches is carried. -/
theorem caught : related 1 caught Parser.caught := by
  refine kept.delimited ?_ rfl rfl
  refine kept.next (kept.separated kept.typeName rfl) fun types => ?_
  exact kept.next kept.word fun name => kept.last (types, name)

section Blocks

variable {inner : Builder Expression} {inner' : Parser Expression}

theorem bracedBody (known : related 1 inner inner') :
    related 1 (bracedBody inner) (Parser.bracedBody inner') :=
  kept.delimited (kept.branch (kept.repeated known)) rfl rfl

theorem body (known : related 1 inner inner') : related 1 (body inner) (Parser.body inner') :=
  kept.orElse (kept.bracedBody known) (kept.map _ known)

/-- An `if` is carried. -/
theorem branchBlock (known : related 1 inner inner') :
    related 1 (branchBlock inner) (Parser.branchBlock inner') := by
  have alternative : related 1 (alternative inner)
      (Parser.lexeme .elseKeyword >>= fun _ => Parser.body inner') :=
    kept.before (kept.lexeme rfl) fun _ => kept.branch (kept.any (kept.body known))
  refine kept.before (kept.lexeme rfl) fun _ => ?_
  refine kept.next kept.condition fun condition => ?_
  refine kept.next (kept.body known) fun thenBody => ?_
  exact kept.next (kept.attempt alternative) fun elseBody => kept.last _

/-- A `while` is carried. -/
theorem whileBlock (known : related 1 inner inner') :
    related 1 (whileBlock inner) (Parser.whileBlock inner') := by
  refine kept.before (kept.lexeme rfl) fun _ => ?_
  refine kept.next kept.condition fun condition => ?_
  exact kept.next (kept.body known) fun body => kept.last _

/-- A `do` is carried. -/
theorem doWhileBlock (known : related 1 inner inner') :
    related 1 (doWhileBlock inner) (Parser.doWhileBlock inner') := by
  refine kept.before (kept.lexeme rfl) fun _ => ?_
  refine kept.next (kept.body known) fun body => ?_
  refine kept.next (kept.lexeme rfl) fun _ => ?_
  refine kept.next kept.condition fun condition => ?_
  exact kept.next (kept.lexeme rfl) fun _ => kept.last _

/-- A `for` is carried. -/
theorem forBlock (known : related 1 inner inner') :
    related 1 (forBlock inner) (Parser.forBlock inner') := by
  have init := kept.orElse (kept.map Expression.declaration kept.declaration)
    (kept.forClause (rfl : Lexeme.semicolon.isPlain))
  refine kept.before (kept.lexeme rfl) fun _ => ?_
  refine kept.next (kept.lexeme rfl) fun _ => ?_
  refine kept.next init fun init => ?_
  refine kept.next (kept.forClause rfl) fun condition => ?_
  refine kept.next (kept.forClause rfl) fun iteration => ?_
  exact kept.next (kept.body known) fun body => kept.last _

/-- A `catch` is carried. -/
theorem catchClause (known : related 1 inner inner') :
    related 1 (catchClause inner) (Parser.catchClause inner') := by
  refine kept.before (kept.lexeme rfl) fun _ => ?_
  refine kept.next kept.caught fun (types, name) => ?_
  exact kept.next (kept.bracedBody known) fun body => kept.last _

theorem cleanup (known : related 1 inner inner') :
    related 1 (cleanup inner) (Parser.cleanup inner') :=
  kept.before (kept.lexeme rfl) fun _ => kept.branch (kept.any (kept.bracedBody known))

/-- A `try` is carried. -/
theorem guardedBlock (known : related 1 inner inner') :
    related 1 (guardedBlock inner) (Parser.guardedBlock inner') := by
  refine kept.before (kept.lexeme rfl) fun _ => ?_
  refine kept.next (kept.attempt kept.resources) fun resources => ?_
  refine kept.next (kept.bracedBody known) fun body => ?_
  refine kept.next (kept.repeated (kept.catchClause known)) fun handlers => ?_
  refine kept.next (kept.attempt (kept.cleanup known)) fun cleanup => ?_
  exact kept.branch (kept.ensure _ (kept.pure _))

/-- A block is carried. -/
theorem blockWith (known : related 1 inner inner') :
    related 1 (blockWith inner) (Parser.blockWith inner') := by
  refine kept.orElse (kept.branchBlock known) (kept.orElse (kept.whileBlock known) ?_)
  refine kept.orElse (kept.doWhileBlock known) (kept.orElse (kept.forBlock known) ?_)
  exact kept.guardedBlock known

end Blocks

/-! ## Expressions -/

theorem terminatedStatement : related 1 terminatedStatement Parser.terminatedStatement := by
  refine kept.before kept.statement fun value => ?_
  exact kept.next (kept.lexeme rfl) fun _ => kept.last value

/-- An expression is carried. -/
theorem expression : related 1 expression Parser.expression := by
  refine kept.fix (fun enough => ?_) fun known => ?_
  · rw [Parser.unroll_eq_iterate]
    exact Parser.ends_expression.depth Parser.fail enough
  · refine kept.orElse (kept.map _ (kept.blockWith known)) ?_
    refine kept.orElse (kept.map _ kept.declaration) ?_
    exact kept.orElse (kept.map _ kept.terminatedStatement) (kept.map _ (kept.lexeme rfl))

/-- Every production that can be asked for is carried. -/
theorem part (kind : PartKind) : related 1 (Part.builder kind) (Part.parser kind) := by
  cases kind with
  | expression => exact kept.map _ kept.expression
  | statement => exact kept.map _ kept.statement
  | block => exact kept.map _ (kept.blockWith kept.expression)
  | declaration => exact kept.map _ kept.declaration
  | literal => exact kept.map _ kept.literal
  | parameters => exact kept.map _ (kept.group kept.statement)
  | reference => exact kept.map _ kept.dottedName

end Congruence

end Builder

end Likeness
