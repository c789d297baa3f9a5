import Likeness.Proofs.Grammar.Leaves
import Likeness.Proofs.Grammar.Spacing

/-!
# Parsing keeps every leaf

Whatever a parser accepts, the leaves of its value are written by the pieces that it takes: none is
lost, added or moved. `Parser.Collects` states this for a parser that runs behind others, with the
leaves that those have found, and every combinator keeps it: an abandoned alternative takes nothing,
and what a repetition or an option leaves alone is still there for the next parser.
-/

namespace Likeness

/-- A lexeme that no leaf is written with. -/
def Lexeme.isDropped (lexeme : Lexeme) : Bool := lexeme.isPlain && !lexeme.isLeaf .symbol

namespace Piece

/-- A piece that a tree keeps. -/
def isLeaf (piece : Piece) : Bool := piece.lexeme.isLeaf piece.kind

/-- A piece that writes a leaf. -/
def Writes (piece : Piece) (leaf : Leaf) : Prop :=
  leaf.Written piece.kind piece.lexeme piece.text

end Piece

namespace Parser

variable {α β : Type}

/-- The leaves of what a parser accepts are those found before and then those that are written by
the pieces it takes. -/
def Collects (before : List Leaf) (parser : Parser α) (leaves : α → List Leaf) : Prop :=
  ∀ input value rest, (∀ piece ∈ input, piece.Cut) → run parser input = some (value, rest) →
    ∃ taken own, input = taken ++ rest ∧ leaves value = before ++ own ∧
      List.Forall₂ Piece.Writes (taken.filter Piece.isLeaf) own

/-! ## Combinators -/

section Combinators

variable {before : List Leaf} {parser first second : Parser α} {leaves : α → List Leaf}
  {leaves' : β → List Leaf} {continuation : α → Parser β}

theorem collects_fail : Collects before (fail : Parser α) leaves :=
  fun _ _ _ _ accepted => nomatch accepted

/-- Succeeding takes nothing. -/
theorem collects_pure {value : α} (same : leaves value = before) :
    Collects before (pure value) leaves := by
  intro input value' rest _ accepted
  cases accepted
  exact ⟨[], [], rfl, by rw [same, List.append_nil], .nil⟩

/-- A parser behind another one finds the leaves behind those of the first. -/
theorem Collects.bind (start : Collects [] parser leaves)
    (next : ∀ value, Collects (before ++ leaves value) (continuation value) leaves') :
    Collects before (parser >>= continuation) leaves' := by
  intro input value rest cut accepted
  rw [run_bind, Option.bind_eq_some_iff] at accepted
  obtain ⟨⟨value₁, middle⟩, accepted₁, accepted₂⟩ := accepted
  obtain ⟨taken₁, own₁, rfl, found₁, writes₁⟩ := start _ _ _ cut accepted₁
  obtain ⟨taken₂, own₂, rfl, found₂, writes₂⟩ := next value₁ _ _ _
    (fun piece member => cut piece (List.mem_append_right _ member)) accepted₂
  refine ⟨taken₁ ++ taken₂, own₁ ++ own₂, (List.append_assoc ..).symm, ?_, ?_⟩
  · rw [found₂, found₁, List.nil_append, List.append_assoc]
  · rw [List.filter_append]
    exact List.rel_append writes₁ writes₂

/-- A parser without leaves is passed over. -/
theorem Collects.skip (start : Collects [] parser fun _ => [])
    (next : ∀ value, Collects before (continuation value) leaves') :
    Collects before (parser >>= continuation) leaves' :=
  start.bind fun value => by
    rw [List.append_nil]
    exact next value

/-- The leaves may be named in another way. -/
theorem Collects.congr {leaves' : α → List Leaf} (collects : Collects before parser leaves)
    (same : ∀ value, leaves' value = leaves value) : Collects before parser leaves' := by
  intro input value rest cut accepted
  obtain ⟨taken, own, shape, found, writes⟩ := collects _ _ _ cut accepted
  exact ⟨taken, own, shape, (same value).trans found, writes⟩

/-- A value with the same leaves is collected alike. -/
theorem Collects.map (collects : Collects [] parser leaves) {change : α → β}
    (same : ∀ value, leaves' (change value) = leaves value) :
    Collects [] (change <$> parser) leaves' :=
  collects.bind fun value => collects_pure (same value)

/-- An alternative that is abandoned takes nothing. -/
theorem Collects.orElse (one : Collects before first leaves)
    (other : Collects before second leaves) : Collects before (first <|> second) leaves := by
  intro input value rest cut accepted
  rw [run_orElse, Option.or_eq_some_iff] at accepted
  rcases accepted with accepted | ⟨_, accepted⟩
  · exact one _ _ _ cut accepted
  · exact other _ _ _ cut accepted

/-- The leaves of a value that may be missing. -/
theorem Collects.optional (collects : Collects [] parser leaves) :
    Collects [] (Parser.optional parser) fun value => (value.map leaves).getD [] := by
  refine Collects.orElse (collects.map fun value => ?_) (collects_pure ?_)
  · rfl
  · rfl

/-- A value that is there has been found before. -/
theorem collects_ofOption {value : Option α} (same : ∀ found ∈ value, leaves found = before) :
    Collects before (ofOption value) leaves := by
  cases value with
  | none => exact collects_fail
  | some value => exact collects_pure (same value rfl)

/-- A condition has no leaves. -/
theorem collects_ensure (condition : Bool) : Collects [] (ensure condition) fun _ => [] := by
  cases condition with
  | false => exact collects_fail
  | true => exact collects_pure rfl

/-- A parser that comes back to itself collects, if a turn of it does. -/
theorem collects_fix {step : Parser α → Parser α}
    (turn : ∀ inner, Collects [] inner leaves → Collects [] (step inner) leaves) :
    Collects [] (fix step) leaves :=
  fun _ _ _ cut accepted => unroll_induction collects_fail turn _ _ _ _ cut accepted

/-- Items are collected one behind the other. -/
theorem Collects.many (collects : Collects [] parser leaves) :
    Collects [] (Parser.many parser) (List.flatMap leaves) := by
  refine collects_fix fun more others => Collects.orElse ?_ (collects_pure rfl)
  refine collects.bind fun first => others.bind fun rest => collects_pure ?_
  rw [List.nil_append, List.flatMap_cons]

/-- A piece is kept as the one leaf of its value, or its value has none. -/
theorem collects_accept {choose : Piece → Option α}
    (reads : ∀ piece value, piece.Cut → choose piece = some value →
      if piece.isLeaf then ∃ leaf, leaves value = [leaf] ∧ piece.Writes leaf
      else leaves value = []) :
    Collects [] (accept choose) leaves := by
  intro input value rest cut accepted
  cases input with
  | nil => cases accepted
  | cons piece input =>
    rw [run_accept_cons, Option.map_eq_some_iff] at accepted
    obtain ⟨_, chosen, same⟩ := accepted
    cases same
    have read := reads piece value (cut piece List.mem_cons_self) chosen
    split at read
    · rename_i kept
      obtain ⟨leaf, found, writes⟩ := read
      refine ⟨[piece], [leaf], rfl, found, ?_⟩
      rw [List.filter_cons_of_pos kept]
      exact .cons writes .nil
    · rename_i dropped
      refine ⟨[piece], [], rfl, read, ?_⟩
      rw [List.filter_cons_of_neg dropped]
      exact .nil

end Combinators

/-! ## Pieces -/

/-- Only a quote opens text, so that a piece of another lexeme is kept for its lexeme. -/
theorem isLeaf_of_isDropped {piece : Piece} (cut : piece.Cut) (dropped : piece.lexeme.isDropped) :
    piece.isLeaf = false := by
  have other : piece.kind ≠ .text := fun isText => by
    rcases cut.text isText with ⟨_, ⟨quote, _⟩ | ⟨quote, _⟩⟩
    · rw [quote] at dropped
      contradiction
    · rw [quote] at dropped
      contradiction
  simp only [Lexeme.isDropped, Lexeme.isLeaf, Bool.and_eq_true, Bool.not_eq_true',
    Bool.or_eq_false_iff] at dropped
  simp [Piece.isLeaf, Lexeme.isLeaf, other, dropped]

/-- A mark has no leaves. -/
theorem collects_lexeme {expected : Lexeme} (dropped : expected.isDropped) :
    Collects [] (lexeme expected) fun _ => [] := by
  refine collects_accept fun piece value cut chosen => ?_
  obtain ⟨rfl, _⟩ := Option.ite_none_right_eq_some.1 chosen
  rw [if_neg (by simp [isLeaf_of_isDropped cut dropped])]

/-- An identifier is a leaf, however its leaves are named. -/
theorem collects_word {leaves : String → List Leaf}
    (same : ∀ name : String, name.toList ≠ [] →
      (∀ char ∈ name.toList, Lexeme.continuesWord char) → leaves name = [.word name]) :
    Collects [] word leaves := by
  refine collects_accept fun piece value cut chosen => ?_
  obtain ⟨isWord, rfl⟩ := by simpa using chosen
  obtain ⟨kind, _, some, all⟩ := cut.word (isWord ▸ rfl)
  rw [if_pos (by simp [Piece.isLeaf, Lexeme.isLeaf, isWord])]
  refine ⟨.word piece.text, same _ some all, ?_⟩
  rw [Piece.Writes, kind, isWord]
  exact .word _

/-- A qualifier is a leaf. -/
theorem collects_qualifier : Collects [] qualifier fun value => [.qualifier value] := by
  have reserved : ∀ lexeme value, Qualifier.ofLexeme? lexeme = some value →
      lexeme.isQualifier ∧ (value.spelling, lexeme) ∈ Lexeme.keywords := by
    intro lexeme value stands
    cases lexeme <;> cases stands <;> decide
  refine collects_accept fun piece value cut stands => ?_
  obtain ⟨isQualifier, keyword⟩ := reserved _ _ stands
  obtain ⟨kind, text⟩ := cut.keyword keyword
  rw [if_pos (by simp [Piece.isLeaf, Lexeme.isLeaf, isQualifier])]
  refine ⟨.qualifier value, rfl, ?_⟩
  rw [Piece.Writes, kind, text]
  exact .qualifier stands

/-- A reserved word for a value is a leaf. -/
theorem collects_keyword {expected : Lexeme} {text : String} {value : Literal}
    (reserved : (text, expected) ∈ Lexeme.keywords) (kept : expected.isLeaf .word)
    (written : (Leaf.literal value).Written .word expected text) :
    Collects [] ((fun _ => value) <$> lexeme expected) fun value => [.literal value] := by
  have found : Collects [] (lexeme expected) fun _ => [.literal value] := by
    refine collects_accept fun piece _ cut chosen => ?_
    obtain ⟨rfl, _⟩ := Option.ite_none_right_eq_some.1 chosen
    obtain ⟨kind, text⟩ := cut.keyword reserved
    rw [if_pos (by rw [Piece.isLeaf, kind]; exact kept)]
    refine ⟨.literal value, rfl, ?_⟩
    rw [Piece.Writes, kind, text]
    exact written
  exact found.map fun _ => rfl

/-- A closed literal is a leaf. -/
theorem collects_contents {quote : Lexeme} {delimiter : String} {literal : String → Literal}
    (single : delimiter.toList.length = 1)
    (closed : ∀ piece : Piece, piece.Cut → piece.kind = .text → piece.lexeme = quote →
      ∃ contents, piece.text = delimiter ++ contents ++ delimiter)
    (written : ∀ contents, (Leaf.literal (literal contents)).Written .text quote
      (delimiter ++ contents ++ delimiter)) :
    Collects [] (literal <$> contents quote) fun value => [.literal value] := by
  have found : Collects [] (contents quote) fun contents => [.literal (literal contents)] := by
    refine collects_accept fun piece value cut chosen => ?_
    obtain ⟨⟨isText, isQuote⟩, rfl⟩ := by simpa using chosen
    obtain ⟨contents, text⟩ := closed piece cut isText isQuote
    have inside : String.ofList piece.text.toList.tail.dropLast = contents := by
      obtain ⟨mark, spelled⟩ := List.length_eq_one_iff.1 single
      rw [text]
      simp [spelled]
    rw [if_pos (by simp [Piece.isLeaf, Lexeme.isLeaf, isText]), inside]
    refine ⟨.literal (literal contents), rfl, ?_⟩
    rw [Piece.Writes, isText, isQuote, text]
    exact written contents
  exact found.map fun _ => rfl

/-- A sign is no leaf. -/
theorem collects_sign : Collects [] sign fun _ => [] := by
  intro input value rest cut accepted
  cases input with
  | nil =>
    cases accepted
    exact ⟨[], [], rfl, rfl, .nil⟩
  | cons piece input =>
    rw [run, sign] at accepted
    split at accepted
    · rename_i minus
      split at accepted
      · cases accepted
        have dropped := isLeaf_of_isDropped (cut piece List.mem_cons_self) (by rw [minus]; rfl)
        refine ⟨[piece], [], rfl, rfl, ?_⟩
        rw [List.filter_cons_of_neg (by simp [dropped])]
        exact .nil
      · cases accepted
    · cases accepted
      exact ⟨[], [], rfl, rfl, .nil⟩

/-- The digits of a number are a leaf. -/
theorem collects_magnitude (negative : Bool) :
    Collects [] (magnitude negative) fun value => [.literal value] := by
  intro input value rest cut accepted
  rw [magnitude, run_bind, Option.bind_eq_some_iff] at accepted
  obtain ⟨⟨text, middle⟩, chosen, accepted⟩ := accepted
  cases input with
  | nil => cases chosen
  | cons piece input =>
    simp only [run_accept_cons, Option.map_eq_some_iff, Option.ite_none_right_eq_some] at chosen
    obtain ⟨_, ⟨isNumber, same⟩, same'⟩ := chosen
    cases same
    cases same'
    simp only [run_ofOption, Option.map_eq_some_iff] at accepted
    obtain ⟨_, read, same⟩ := accepted
    cases same
    refine ⟨[piece], [.literal value], rfl, rfl, ?_⟩
    rw [List.filter_cons_of_pos (by simp [Piece.isLeaf, Lexeme.isLeaf, isNumber])]
    exact .cons (Leaf.written_number (cut piece List.mem_cons_self) isNumber read) .nil

/-- A literal is a leaf. -/
theorem collects_literal : Collects [] literal fun value => [.literal value] := by
  have doubleQuoted (piece : Piece) (cut : piece.Cut) (isText : piece.kind = .text)
      (isQuote : piece.lexeme = .doubleQuote) :
      ∃ contents, piece.text = "\"" ++ contents ++ "\"" := by
    rcases cut.text isText with ⟨contents, ⟨_, text⟩ | ⟨other, _⟩⟩
    · exact ⟨contents, text⟩
    · cases isQuote.symm.trans other
  have singleQuoted (piece : Piece) (cut : piece.Cut) (isText : piece.kind = .text)
      (isQuote : piece.lexeme = .singleQuote) :
      ∃ contents, piece.text = "'" ++ contents ++ "'" := by
    rcases cut.text isText with ⟨contents, ⟨other, _⟩ | ⟨_, text⟩⟩
    · cases isQuote.symm.trans other
    · exact ⟨contents, text⟩
  refine (collects_contents (by decide) doubleQuoted Leaf.Written.string).orElse ?_
  refine (collects_contents (by decide) singleQuoted Leaf.Written.char).orElse ?_
  refine (collects_keyword (by decide) rfl .trueWord).orElse ?_
  refine (collects_keyword (by decide) rfl .falseWord).orElse ?_
  refine (collects_keyword (by decide) rfl .null).orElse ?_
  exact collects_sign.skip collects_magnitude

/-! ## Phrases -/

section Phrases

variable {α : Type} {item : Parser α} {leaves : α → List Leaf}

/-- Items with separators between them are collected one behind the other. -/
theorem Collects.separated (collects : Collects [] item leaves) {separator : Lexeme}
    (dropped : separator.isDropped) :
    Collects [] (Parser.separated separator item) (List.flatMap leaves) := by
  have more : Collects [] (do lexeme separator; item) leaves :=
    (collects_lexeme dropped).skip fun _ => collects
  refine collects.bind fun first => more.many.bind fun rest => collects_pure ?_
  rw [List.nil_append, List.flatMap_cons]

/-- Delimiters have no leaves. -/
theorem Collects.delimited (collects : Collects [] item leaves) {opening closing : Lexeme}
    (dropped : opening.isDropped) (dropped' : closing.isDropped) :
    Collects [] (Parser.delimited opening closing item) leaves := by
  refine (collects_lexeme dropped).skip fun _ => collects.bind fun value => ?_
  exact (collects_lexeme dropped').skip fun _ => collects_pure rfl

theorem collects_dottedName : Collects [] dottedName Leaf.ofName :=
  ((collects_word fun _ => Leaf.ofName_of_all).separated rfl).map
    (Leaf.ofName_intercalate (by decide) (by decide))

/-- A type has the leaves of its name and of its arguments. -/
theorem collects_typeName : Collects [] typeName Leaf.ofName := by
  refine collects_fix fun inner known => ?_
  have arguments : Collects []
      (optional (delimited .openChevron .closeChevron (separated .comma inner)))
      fun found => (found.map (List.flatMap Leaf.ofName)).getD [] :=
    ((known.separated rfl).delimited rfl rfl).optional
  have bracket : Collects [] (delimited .openBracket .closeBracket (pure ())) fun _ => [] :=
    Collects.delimited (collects_pure rfl) rfl rfl
  have brackets := bracket.many.congr fun arrays => (List.flatMap_eq_nil_iff.2 fun _ _ => rfl).symm
  refine collects_dottedName.bind fun name => arguments.bind fun arguments => ?_
  refine brackets.skip fun arrays => collects_pure ?_
  rw [Leaf.ofName_typeText]
  cases arguments <;> rfl

end Phrases

/-! ## Statements -/

section Statements

variable {statement operand : Parser Statement}

/-- Statements in parentheses are collected one behind the other. -/
theorem collects_group (collects : Collects [] statement Statement.leaves) :
    Collects [] (group statement) (List.flatMap Statement.leaves) := by
  refine Collects.delimited ?_ rfl rfl
  refine (collects.separated rfl).optional.bind fun items => collects_pure ?_
  cases items <;> rfl

/-- A statement without operators around it. -/
theorem collects_primary (collects : Collects [] statement Statement.leaves) :
    Collects [] (primary statement) Statement.leaves := by
  refine ((collects_group collects).map fun items => ?_).orElse ?_
  · exact Statement.leavesOfAll_eq items
  · refine (collects_literal.map fun value => ?_).orElse (collects_dottedName.map fun name => ?_)
    · rfl
    · rfl

/-- An operator in front has no leaves. -/
theorem collects_prefixed (collects : Collects [] operand Statement.leaves) {token : Lexeme}
    (dropped : token.isDropped) (symbol : UnarySymbol) :
    Collects [] (prefixed token symbol operand) Statement.leaves := by
  refine (collects_lexeme dropped).skip fun _ => collects.bind fun value => ?_
  refine collects_ofOption fun found member => ?_
  obtain ⟨_, same⟩ := Option.ite_none_right_eq_some.1 member
  cases same
  rfl

/-- A statement with operators in front of it. -/
theorem collects_unary (collects : Collects [] statement Statement.leaves) :
    Collects [] (unary statement) Statement.leaves := by
  refine collects_fix fun inner known => ?_
  refine (collects_prefixed known rfl _).orElse ((collects_prefixed known rfl _).orElse ?_)
  exact collects_primary collects

/-- Operations are put behind what they are put on. -/
theorem leaves_foldOperations (first : Statement) (operations : List (BinarySymbol × Statement)) :
    (foldOperations first operations).leaves =
      first.leaves ++ operations.flatMap fun operation => operation.2.leaves := by
  induction operations generalizing first with
  | nil => exact (List.append_nil _).symm
  | cons operation operations ih =>
    have step : foldOperations first (operation :: operations) =
        foldOperations (.binary operation.1 first operation.2) operations := rfl
    rw [step, ih, Statement.leaves, List.flatMap_cons, List.append_assoc]

/-- An operator between operands has no leaves. -/
theorem collects_operation (collects : Collects [] operand Statement.leaves) {token : Lexeme}
    (dropped : token.isDropped) (symbol : BinarySymbol) :
    Collects [] (operation operand token symbol) fun operation => operation.2.leaves :=
  (collects_lexeme dropped).skip fun _ => collects.map fun _ => rfl

/-- Operands with operators between them are collected one behind the other. -/
theorem Collects.level {operation : Parser (BinarySymbol × Statement)}
    (first : Collects [] operand Statement.leaves)
    (more : Collects [] operation fun operation => operation.2.leaves) :
    Collects [] (Parser.level operand operation) Statement.leaves := by
  refine first.bind fun first => more.many.bind fun operations => collects_pure ?_
  rw [leaves_foldOperations, List.nil_append]

/-- Operands with operators of all levels between them. -/
theorem collects_disjunction (collects : Collects [] statement Statement.leaves) :
    Collects [] (disjunction statement) Statement.leaves := by
  have operand := collects_unary collects
  have products : Collects [] (multiplicative statement) Statement.leaves :=
    operand.level ((collects_operation operand rfl _).orElse (collects_operation operand rfl _))
  have sums : Collects [] (additive statement) Statement.leaves :=
    products.level ((collects_operation products rfl _).orElse (collects_operation products rfl _))
  have comparisons : Collects [] (equality statement) Statement.leaves :=
    sums.level ((collects_operation sums rfl _).orElse (collects_operation sums rfl _))
  have conjunctions : Collects [] (conjunction statement) Statement.leaves :=
    comparisons.level (collects_operation comparisons rfl _)
  exact conjunctions.level (collects_operation conjunctions rfl _)

/-- A statement has the leaves that it is written with. -/
theorem collects_statement : Collects [] Parser.statement Statement.leaves := by
  refine collects_fix fun inner known => ?_
  refine (collects_disjunction known).bind fun target => Collects.orElse ?_ (collects_pure rfl)
  refine (collects_ensure _).skip fun _ => (collects_lexeme rfl).skip fun _ => ?_
  exact known.bind fun value => collects_pure rfl

end Statements

/-! ## Expressions -/

section Expressions

/-- A declaration without its semicolon has the leaves that it is written with. -/
theorem collects_openDeclaration : Collects [] openDeclaration Declaration.leaves := by
  have name : Collects [] word fun name => [.word name] := collects_word fun _ _ _ => rfl
  have initial : Collects [] (do lexeme .assign; statement) Statement.leaves :=
    (collects_lexeme rfl).skip fun _ => collects_statement
  refine collects_qualifier.many.bind fun qualifiers => collects_typeName.bind fun type => ?_
  refine name.bind fun name => initial.optional.bind fun initializer => collects_pure ?_
  rw [Declaration.leaves, List.nil_append, List.map_eq_flatMap]

theorem collects_declaration : Collects [] declaration Declaration.leaves := by
  refine collects_openDeclaration.bind fun declared => ?_
  exact (collects_lexeme rfl).skip fun _ => collects_pure rfl

variable {expression : Parser Expression}

theorem collects_bracedBody (collects : Collects [] expression Expression.leaves) :
    Collects [] (bracedBody expression) Expression.leavesOfAll :=
  (collects.many.delimited rfl rfl).congr Expression.leavesOfAll_eq

/-- The expressions of a body are collected one behind the other. -/
theorem collects_body (collects : Collects [] expression Expression.leaves) :
    Collects [] (body expression) Expression.leavesOfAll := by
  refine (collects_bracedBody collects).orElse (collects.map fun single => ?_)
  rw [Expression.leavesOfAll_eq, List.flatMap_singleton]

theorem collects_condition : Collects [] condition Statement.leaves :=
  collects_statement.delimited rfl rfl

/-- An `if` has the leaves that it is written with. -/
theorem collects_branchBlock (collects : Collects [] expression Expression.leaves) :
    Collects [] (branchBlock expression) Block.leaves := by
  have body := collects_body collects
  have alternative : Collects [] (do lexeme .elseKeyword; Parser.body expression)
      Expression.leavesOfAll := (collects_lexeme rfl).skip fun _ => body
  refine (collects_lexeme rfl).skip fun _ => collects_condition.bind fun condition => ?_
  refine body.bind fun thenBody => alternative.optional.bind fun elseBody => collects_pure ?_
  cases elseBody <;> rfl

/-- A `while` has the leaves that it is written with. -/
theorem collects_whileBlock (collects : Collects [] expression Expression.leaves) :
    Collects [] (whileBlock expression) Block.leaves := by
  refine (collects_lexeme rfl).skip fun _ => collects_condition.bind fun condition => ?_
  exact (collects_body collects).bind fun body => collects_pure rfl

/-- A `do` has the leaves that it is written with, those of its condition last. -/
theorem collects_doWhileBlock (collects : Collects [] expression Expression.leaves) :
    Collects [] (doWhileBlock expression) Block.leaves := by
  refine (collects_lexeme rfl).skip fun _ => (collects_body collects).bind fun body => ?_
  refine (collects_lexeme rfl).skip fun _ => collects_condition.bind fun condition => ?_
  exact (collects_lexeme rfl).skip fun _ => collects_pure rfl

/-- A clause of a `for` has the leaves of its statement, if there is one. -/
theorem collects_forClause {ending : Lexeme} (dropped : ending.isDropped) :
    Collects [] (forClause ending) Expression.leaves := by
  refine collects_statement.optional.bind fun statement => ?_
  refine (collects_lexeme dropped).skip fun _ => collects_pure ?_
  cases statement <;> rfl

/-- A `for` has the leaves that it is written with. -/
theorem collects_forBlock (collects : Collects [] expression Expression.leaves) :
    Collects [] (forBlock expression) Block.leaves := by
  have declared : Collects [] (Expression.declaration <$> declaration) Expression.leaves :=
    collects_declaration.map fun _ => rfl
  refine (collects_lexeme rfl).skip fun _ => (collects_lexeme rfl).skip fun _ => ?_
  refine (declared.orElse (collects_forClause rfl)).bind fun init => ?_
  refine (collects_forClause rfl).bind fun condition => ?_
  refine (collects_forClause rfl).bind fun iteration => ?_
  exact (collects_body collects).bind fun body => collects_pure rfl

/-- The resources of a `try` are collected one behind the other. -/
theorem collects_resources : Collects [] resources (List.flatMap Declaration.leaves) := by
  have last : Collects [] (optional (lexeme .semicolon)) fun _ => [] :=
    (collects_lexeme rfl).optional.congr fun found => by cases found <;> rfl
  refine Collects.delimited ?_ rfl rfl
  refine (collects_openDeclaration.separated rfl).bind fun declarations => ?_
  exact last.skip fun _ => collects_pure rfl

/-- What a `catch` catches has the leaves of its types and its variable. -/
theorem collects_caught : Collects [] caught fun (types, name) =>
    types.flatMap Leaf.ofName ++ [.word name] := by
  have name : Collects [] word fun name => [.word name] := collects_word fun _ _ _ => rfl
  refine Collects.delimited ?_ rfl rfl
  refine (collects_typeName.separated rfl).bind fun types => name.bind fun name => ?_
  exact collects_pure rfl

/-- A `catch` has the leaves that it is written with. -/
theorem collects_catchClause (collects : Collects [] expression Expression.leaves) :
    Collects [] (catchClause expression) CatchClause.leaves := by
  refine (collects_lexeme rfl).skip fun _ => collects_caught.bind fun (types, name) => ?_
  refine (collects_bracedBody collects).bind fun body => collects_pure ?_
  exact congrArg (· ++ [Leaf.word name] ++ Expression.leavesOfAll body) (List.flatMap_map _ _ _)

/-- A `try` has the leaves that it is written with. -/
theorem collects_guardedBlock (collects : Collects [] expression Expression.leaves) :
    Collects [] (guardedBlock expression) Block.leaves := by
  have body := collects_bracedBody collects
  have cleanup : Collects [] (cleanup expression) Expression.leavesOfAll :=
    (collects_lexeme rfl).skip fun _ => body
  refine (collects_lexeme rfl).skip fun _ => collects_resources.optional.bind fun resources => ?_
  refine body.bind fun body => (collects_catchClause collects).many.bind fun handlers => ?_
  refine cleanup.optional.bind fun cleanup => (collects_ensure _).skip fun _ => collects_pure ?_
  rw [← CatchClause.leavesOfAll_eq]
  cases resources <;> cases cleanup <;> rfl

/-- An expression has the leaves that it is written with. -/
theorem collects_expression : Collects [] Parser.expression Expression.leaves := by
  refine collects_fix fun inner known => ?_
  have blocks : Collects [] (blockWith inner) Block.leaves :=
    (collects_branchBlock known).orElse ((collects_whileBlock known).orElse
      ((collects_doWhileBlock known).orElse ((collects_forBlock known).orElse
        (collects_guardedBlock known))))
  have terminated : Collects [] terminatedStatement Statement.leaves :=
    collects_statement.bind fun value => (collects_lexeme rfl).skip fun _ => collects_pure rfl
  refine (blocks.map fun inner => ?_).orElse ((collects_declaration.map fun declared => ?_).orElse
    ((terminated.map fun value => ?_).orElse ((collects_lexeme rfl).map fun _ => ?_)))
  all_goals rfl

end Expressions

end Parser

/-! ## Trees -/

/-- A token that a tree keeps. -/
def Token.isLeaf (token : Token) : Bool := token.lexeme.isLeaf token.kind

/-- A token that writes a leaf. -/
def Token.Writes (token : Token) (leaf : Leaf) : Prop :=
  leaf.Written token.kind token.lexeme token.text

/-- Trivia is not kept. -/
theorem Piece.Cut.isLeaf_eq_false {piece : Piece} (cut : piece.Cut)
    (isTrivia : piece.kind.isTrivia) : piece.isLeaf = false := by
  have word (isWord : piece.lexeme.kind = .word) : False := by
    rw [(cut.word isWord).1] at isTrivia
    contradiction
  have number : piece.lexeme ≠ .number := fun isNumber => by
    rw [(cut.number isNumber).1] at isTrivia
    contradiction
  have text : piece.kind ≠ .text := fun isText => by
    rw [isText] at isTrivia
    contradiction
  have reserved : ∀ lexeme : Lexeme, lexeme.isLeaf .symbol → lexeme ≠ .number →
      lexeme.kind = .word := by
    intro lexeme kept other
    cases lexeme <;> first | rfl | contradiction
  refine Bool.eq_false_iff.2 fun kept => word (reserved _ ?_ number)
  simpa [isLeaf, Lexeme.isLeaf, text] using kept

/-- What a tree keeps of the tokens of a text is what it keeps of those that are no trivia. -/
theorem filter_isLeaf_eq {source : String} {tokens : List Token}
    (cut : tokenize source = .ok tokens) :
    tokens.filter Token.isLeaf = (Token.significant tokens).filter Token.isLeaf := by
  have passes := Cursor.passes_spots .keep (Cursor.ofSource source)
  rw [Token.significant, List.filter_filter]
  refine List.filter_congr fun token member => ?_
  rw [(tokenize_eq_ok_iff.1 cut).2] at member
  obtain ⟨spot, isSpot, rfl⟩ := List.mem_map.1 member
  cases isTrivia : spot.token.kind.isTrivia with
  | false => simp
  | true =>
    have dropped : spot.token.isLeaf = false :=
      (passes.cut_of_mem spot isSpot).isLeaf_eq_false isTrivia
    simp [dropped]

/-- A tree keeps of each token what the parser sees of it. -/
theorem Token.forall₂_of_pieces {tokens : List Token} {leaves : List Leaf}
    (writes : List.Forall₂ Piece.Writes ((pieces tokens).filter Piece.isLeaf) leaves) :
    List.Forall₂ Token.Writes ((significant tokens).filter isLeaf) leaves := by
  let kept (shape : Kind × Lexeme × String) : Bool := shape.2.1.isLeaf shape.1
  let written (shape : Kind × Lexeme × String) (leaf : Leaf) : Prop :=
    leaf.Written shape.1 shape.2.1 shape.2.2
  have shapes : List.Forall₂ written (((pieces tokens).map Piece.shape).filter kept) leaves := by
    rw [List.filter_map]
    exact List.forall₂_map_left_iff.2 writes
  rw [map_shape_pieces, List.filter_map, List.forall₂_map_left_iff] at shapes
  exact shapes

/-- A text with a tree has tokens, and those that are identifiers, qualifiers, closed literals,
reserved words for values or numbers write the leaves of the tree, in order. -/
theorem leaves_written_by_tokens {source : String} {tree : SyntaxTree}
    (parsed : parse source = .ok tree) :
    ∃ tokens, tokenize source = .ok tokens ∧
      List.Forall₂ Token.Writes (tokens.filter Token.isLeaf) tree.leaves := by
  obtain ⟨ended, all⟩ := parse_eq_ok_iff.1 parsed
  obtain ⟨tokens, cut⟩ := exists_tokenize ended
  have whole : ∀ piece ∈ (sourceSpots source).map Spot.piece, piece.Cut :=
    List.forall_mem_map.2 (passes_source source).cut_of_mem
  obtain ⟨taken, own, shape, found, writes⟩ :=
    Parser.collects_expression.many _ _ _ whole all
  rw [List.append_nil, ← (tokenize_eq_ok cut).2.1] at shape
  rw [← shape] at writes
  refine ⟨tokens, cut, ?_⟩
  rw [filter_isLeaf_eq cut, SyntaxTree.leaves, Expression.leavesOfAll_eq, found, List.nil_append]
  exact Token.forall₂_of_pieces writes

/-- The leaves of a loop are written in the order of its text: those of its condition last, and a
number without its sign. -/
theorem leaves_of_loop :
    ∃ tree, parse "do x = \"s\"; while (-1L);" = .ok tree ∧
      tree.leaves = [.word "x", .literal (.string "s"), .literal (.integer (-1) true)] ∧
      ∃ tokens, tokenize "do x = \"s\"; while (-1L);" = .ok tokens ∧
        List.Forall₂ Token.Writes (tokens.filter Token.isLeaf) tree.leaves := by
  have shown : (parse "do x = \"s\"; while (-1L);").toOption.map SyntaxTree.leaves =
      some [.word "x", .literal (.string "s"), .literal (.integer (-1) true)] := by
    decide +kernel
  cases parsed : parse "do x = \"s\"; while (-1L);" with
  | error failure =>
    rw [parsed] at shown
    cases shown
  | ok tree =>
    rw [parsed] at shown
    exact ⟨tree, rfl, Option.some.inj shown, leaves_written_by_tokens parsed⟩

end Likeness
