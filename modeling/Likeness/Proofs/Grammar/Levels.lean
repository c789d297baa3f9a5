import Likeness.Proofs.Grammar.Literals

/-!
# Levels of operators

The parsers of statements stand on one another, from the root of a statement to what stands on its
own; `Parser.tier` numbers them. Operators of one level group to the left, so a level is followed
along the left operands: `Chains` states that a level has come as far as a statement and goes on with
whatever operations stand behind it. What is read at a level is read at all looser ones, in front of
any token that does not bind as tightly.
-/

namespace Likeness

open Mark

/-! ## How statements start -/

/-- A lexeme that a statement can start with. -/
def Lexeme.startsStatement (lexeme : Lexeme) : Bool :=
  lexeme = .bang || lexeme = .increment || lexeme = .openParen || lexeme.startsLiteral ||
    lexeme = .word

namespace Parser

theorem opens_dottedName : Opens dottedName (· = .word) := (opens_word.bind _).map _

/-- One turn of the parser of operators in front. -/
def unaryStep (statement unary : Parser Statement) : Parser Statement :=
  prefixed .bang .not unary <|> prefixed .increment .preIncrement unary <|> primary statement

/-- A statement with operators in front starts like a statement. -/
theorem opens_unary (statement : Parser Statement) :
    Opens (unary statement) Lexeme.startsStatement := by
  refine opens_fix fun unary => ?_
  have opens : Opens (unaryStep statement unary) _ :=
    ((opens_lexeme .bang).bind _).orElse (((opens_lexeme .increment).bind _).orElse
      ((((opens_lexeme .openParen).bind _).map _).orElse ((opens_literal.map _).orElse
        (opens_dottedName.map _))))
  refine opens.mono fun lexeme => ?_
  simp only [Lexeme.startsStatement, Bool.or_assoc]
  exact id

/-- One turn of the parser of statements. -/
def statementStep (statement : Parser Statement) : Parser Statement := do
  let target ← disjunction statement
  assigned statement target <|> pure target

theorem opens_statementStep (statement : Parser Statement) :
    Opens (statementStep statement) Lexeme.startsStatement :=
  ((((((opens_unary statement).bind _).bind _).bind _).bind _).bind _).bind _

/-- An assignment goes on with its sign. -/
theorem opens_assigned (statement : Parser Statement) (target : Statement) :
    Opens (assigned statement target) (· = .assign) := by
  intro input other
  have fails := opens_lexeme .assign input other
  cases assignable : target.isAssignable <;> simp [assigned, assignable, fails]

/-- What stands behind a lexeme matters only on shorter inputs. -/
theorem lexeme_bind_congr {α : Type} (token : Lexeme) {first second : Parser α} {input : List Piece}
    (agree : ∀ rest : List Piece, rest.length < input.length → first rest = second rest) :
    (lexeme token >>= fun _ => first) input = (lexeme token >>= fun _ => second) input := by
  show andThen (lexeme token) _ input = andThen (lexeme token) _ input
  cases input with
  | nil => rfl
  | cons piece rest =>
    by_cases found : piece.lexeme = token
    · simp [andThen, lexeme, accept, found, agree rest (Nat.lt_succ_self _)]
    · simp [andThen, lexeme, accept, found]

/-- Operators in front come back to their operand behind themselves. -/
theorem guarded_unaryStep (statement : Parser Statement) : Guarded (unaryStep statement) := by
  intro first second input agree
  have same (token : Lexeme) (symbol : UnarySymbol) :
      prefixed token symbol first input = prefixed token symbol second input := by
    refine lexeme_bind_congr token fun rest shorter => ?_
    show andThen first _ rest = andThen second _ rest
    rw [andThen, andThen, agree rest shorter]
  show otherwise _ (otherwise _ _) input = otherwise _ (otherwise _ _) input
  simp only [otherwise, same]

theorem unary_eq (statement : Parser Statement) :
    unary statement = unaryStep statement (unary statement) :=
  fix_eq (guarded_unaryStep statement)

/-! ## Levels -/

/-- The parser of a level: the root of a statement, five levels of operators between operands,
operators in front, and what stands on its own. -/
def tier (statement : Parser Statement) : Nat → Parser Statement
  | 0 => statementStep statement
  | 1 => disjunction statement
  | 2 => conjunction statement
  | 3 => equality statement
  | 4 => additive statement
  | 5 => multiplicative statement
  | 6 => unary statement
  | _ => primary statement

end Parser

/-- How tightly a lexeme binds that can go on with a statement. -/
def Lexeme.level? : Lexeme → Option Nat
  | .assign => some 0
  | .orOr => some 1
  | .andAnd => some 2
  | .equalEqual | .notEqual => some 3
  | .plus | .minus => some 4
  | .star | .slash => some 5
  | .dot => some 7
  | _ => none

/-- A token that does not go on with a statement of a level or above. -/
def Loose (level : Nat) (next : Option Lexeme) : Prop :=
  next.all (fun lexeme => lexeme.level?.all (· < level)) = true
deriving Decidable

/-- What does not go on at a level does not go on at a tighter one. -/
theorem Loose.mono {level level' : Nat} {next : Option Lexeme} (loose : Loose level next)
    (tighter : level ≤ level') : Loose level' next := by
  simp only [Loose, Option.all_eq_true, decide_eq_true_iff] at loose ⊢
  exact fun lexeme found binding binds =>
    Nat.lt_of_lt_of_le (loose lexeme found binding binds) tighter

/-- What does not go on at a level is no operator of that level. -/
theorem Loose.any_eq_false {level : Nat} {next : Option Lexeme} (loose : Loose level next) :
    next.any (fun lexeme => decide (lexeme.level? = some level)) = false := by
  cases next with
  | none => rfl
  | some lexeme =>
    refine decide_eq_false fun binds => ?_
    simp only [Loose, Option.all_some, binds, decide_eq_true_iff] at loose
    exact Nat.lt_irrefl _ loose

namespace Parser

/-- An operation of a level, which is one of the five between operands. -/
def operations (operand : Parser Statement) : Nat → Parser (BinarySymbol × Statement)
  | 1 => operation operand .orOr .or
  | 2 => operation operand .andAnd .and
  | 3 => operation operand .equalEqual .equals <|> operation operand .notEqual .different
  | 4 => operation operand .plus .add <|> operation operand .minus .subtract
  | 5 => operation operand .star .multiply <|> operation operand .slash .divide
  | _ => fail

/-- The levels between operands are made of operands of the next level. -/
theorem tier_eq_level (statement : Parser Statement) {depth : Nat} (positive : 1 ≤ depth)
    (between : depth ≤ 5) :
    tier statement depth =
      level (tier statement (depth + 1)) (operations (tier statement (depth + 1)) depth) := by
  match depth with
  | 1 | 2 | 3 | 4 | 5 => rfl

/-- An operation starts with an operator of its level. -/
theorem opens_operations (operand : Parser Statement) (depth : Nat) :
    Opens (operations operand depth) (fun lexeme => lexeme.level? = some depth) := by
  have opens {token : Lexeme} (binds : token.level? = some depth) (symbol : BinarySymbol) :
      Opens (operation operand token symbol) (fun lexeme => lexeme.level? = some depth) := by
    refine Opens.mono ((opens_lexeme token).bind _) fun lexeme same => ?_
    rw [of_decide_eq_true same]
    exact decide_eq_true binds
  match depth with
  | 1 => exact opens rfl .or
  | 2 => exact opens rfl .and
  | 3 => exact ((opens rfl .equals).orElse (opens rfl .different)).mono (by simp)
  | 4 => exact ((opens rfl .add).orElse (opens rfl .subtract)).mono (by simp)
  | 5 => exact ((opens rfl .multiply).orElse (opens rfl .divide)).mono (by simp)
  | 0 | _ + 6 => exact fun _ _ => rfl

end Parser

/-- The lexeme of an operator. -/
def BinarySymbol.lexeme : BinarySymbol → Lexeme
  | .add => .plus
  | .subtract => .minus
  | .multiply => .star
  | .divide => .slash
  | .assign => .assign
  | .equals => .equalEqual
  | .different => .notEqual
  | .and => .andAnd
  | .or => .orOr

/-- All operators but assignments are of one of the levels between operands. -/
theorem BinarySymbol.level_between {symbol : BinarySymbol} (between : symbol ≠ .assign) :
    1 ≤ symbol.level ∧ symbol.level ≤ 5 := by
  cases symbol with
  | assign => contradiction
  | _ => decide

theorem BinarySymbol.loose_lexeme (symbol : BinarySymbol) :
    Loose (symbol.level + 1) (some symbol.lexeme) := by
  cases symbol <;> decide

namespace Mark

/-- The marks of an operator between blanks. -/
def operator (symbol : BinarySymbol) : List Mark := [.gap ' ', .symbol symbol.lexeme, .gap ' ']

/-- An operator between blanks can stand behind a phrase and is cut as it is. -/
theorem spells_operator (symbol : BinarySymbol) :
    write (operator symbol) = ' ' :: symbol.spelling.toList ++ [' '] ∧
      ∀ after, Lexes (operator symbol) after := by
  constructor
  · cases symbol <;> rfl
  · exact fun after => ⟨rfl, cuts_operator (by cases symbol <;> rfl) _, rfl, trivial⟩

theorem next?_operator (symbol : BinarySymbol) (rest : List Mark) :
    next? (operator symbol ++ rest) = some symbol.lexeme := rfl

/-- Phrases with an operator between them are a phrase. -/
theorem Spells.operator {marks marks' : List Mark} {text text' : List Char}
    (first : Spells marks text) (symbol : BinarySymbol) (second : Spells marks' text') :
    Spells (marks ++ (operator symbol ++ marks'))
      (text ++ (' ' :: symbol.spelling.toList ++ [' '] ++ text')) := by
  obtain ⟨written, lexes⟩ := spells_operator symbol
  refine first.append ?_ fun after closed => ⟨closed_cons rfl _, ?_⟩
  · rw [write_append, written, second.written]
  · rw [lexes_append]
    exact ⟨lexes _, second.lexes _ closed⟩

section

variable {bound : Nat} {operand : Parser Statement} {operation : Parser (BinarySymbol × Statement)}
  {follow : Option Lexeme → Prop} {marks : List Mark} {value : Statement}

/-- An operator with its operand is an operation of its level. -/
theorem reads_operations {symbol : BinarySymbol} (between : symbol ≠ .assign)
    (reads : Reads bound operand follow marks value) :
    Reads bound (Parser.operations operand symbol.level) follow (operator symbol ++ marks)
      (symbol, value) := by
  have read (token : Lexeme) (symbol : BinarySymbol) : Reads bound
      (Parser.operation operand token symbol) follow (.symbol token :: .gap ' ' :: marks)
      (symbol, value) :=
    (reads_spaced bound token).andThen (reads.thenPure (symbol, ·))
  have opens (token : Lexeme) (symbol : BinarySymbol) :
      Parser.Opens (Parser.operation operand token symbol) (· = token) :=
    (Parser.opens_lexeme token).bind _
  cases symbol with
  | assign => contradiction
  | or => exact read .orOr .or
  | and => exact read .andAnd .and
  | equals => exact (read .equalEqual .equals).orElse _
  | different => exact (read .notEqual .different).otherwise (opens .equalEqual .equals) rfl rfl
  | add => exact (read .plus .add).orElse _
  | subtract => exact (read .minus .subtract).otherwise (opens .plus .add) rfl rfl
  | multiply => exact (read .star .multiply).orElse _
  | divide => exact (read .slash .divide).otherwise (opens .star .multiply) rfl rfl

/-- A level has come as far as a statement, and puts on it whatever operations stand behind. -/
def Chains (bound : Nat) (operand : Parser Statement)
    (operation : Parser (BinarySymbol × Statement)) (follow : Option Lexeme → Prop)
    (marks : List Mark) (value : Statement) : Prop :=
  ∀ rest operations stop, (pieces (marks ++ rest)).length ≤ bound → follow (next? rest) →
    Parser.Settles (Parser.repetition operation) (pieces rest) (some (operations, stop)) →
      Parser.run (Parser.level operand operation) (pieces (marks ++ rest)) =
        some (Parser.foldOperations value operations, stop)

/-- A level starts with an operand. -/
theorem Reads.chains (reads : Reads bound operand follow marks value) :
    Chains bound operand operation follow marks value := by
  intro rest operations stop short follows others
  have many : Parser.run (Parser.many operation) (pieces rest) = some (operations, stop) :=
    others.run_fix
  simp [Parser.level, reads rest short follows, many]

/-- A level goes on with an operation. -/
theorem Chains.step (chains : Chains bound operand operation follow marks value)
    {marks' : List Mark} {symbol : BinarySymbol} {right : Statement}
    (reads : Reads bound operation follow marks' (symbol, right)) {lexeme : Lexeme}
    (start : next? marks' = some lexeme) (follows : follow (some lexeme)) :
    Chains bound operand operation follow (marks ++ marks') (.binary symbol value right) := by
  intro rest operations stop short follows' others
  rw [List.append_assoc] at short ⊢
  have shorter := short
  have positive := length_pieces_pos start
  rw [length_pieces_append] at shorter
  have read := reads rest (by omega) follows'
  -- The operation is the first of those that the left operand has still to come.
  refine chains _ ((symbol, right) :: operations) stop short ?_ ?_
  · rw [next?_append_of_some start]
    exact follows
  · refine Parser.settles_repetition_cons read ?_ others
    rw [length_pieces_append marks']
    omega

/-- A level ends in front of what is no operation of it. -/
theorem Chains.reads (chains : Chains bound operand operation follow marks value)
    {first : Lexeme → Bool} (opens : Parser.Opens operation first) :
    Reads bound (Parser.level operand operation)
      (fun next => follow next ∧ next.any first = false) marks value :=
  fun rest short ends =>
    chains rest [] _ short ends.1 (Parser.settles_repetition_nil (opens _ ends.2))

end

/-! ## Looser levels -/

variable {bound : Nat} {inner : Parser Statement} {marks : List Mark} {value : Statement}

/-- Marks are read at a level, which has come as far as their statement if it is one between
operands. -/
structure Stands (bound : Nat) (inner : Parser Statement) (marks : List Mark) (value : Statement)
    (depth : Nat) : Prop where
  reads : Reads bound (Parser.tier inner depth) (Loose depth) marks value
  chains : 1 ≤ depth → depth ≤ 5 → Chains bound (Parser.tier inner (depth + 1))
    (Parser.operations (Parser.tier inner (depth + 1)) depth) (Loose (depth + 1)) marks value

/-- A level that has come as far as a statement reads it. -/
theorem Chains.stands {depth : Nat} (positive : 1 ≤ depth) (between : depth ≤ 5)
    (chains : Chains bound (Parser.tier inner (depth + 1))
      (Parser.operations (Parser.tier inner (depth + 1)) depth) (Loose (depth + 1)) marks value) :
    Stands bound inner marks value depth := by
  refine ⟨?_, fun _ _ => chains⟩
  rw [Parser.tier_eq_level inner positive between]
  refine (chains.reads (Parser.opens_operations _ depth)).mono fun next loose => ?_
  exact ⟨loose.mono (Nat.le_succ _), loose.any_eq_false⟩

/-- What is read one level above is read. -/
theorem Stands.pred {depth : Nat} (stands : Stands bound inner marks value (depth + 1))
    (between : depth ≤ 5) : Stands bound inner marks value depth := by
  cases depth with
  | zero =>
    refine ⟨?_, fun positive => absurd positive (by decide)⟩
    -- At the root there is no sign of an assignment behind, so what was read is all.
    have rest : Reads bound (Parser.assigned inner value <|> pure value) (Loose 0) [] value := by
      intro rest _ loose
      have fails : Parser.run (Parser.assigned inner value) (pieces rest) = none :=
        Parser.opens_assigned inner value _ (Parser.any_eq_false fun found => by
          rw [next?, found] at loose
          contradiction)
      simp [fails]
    have read : Reads bound (Parser.statementStep inner) (Loose 0) (marks ++ []) value :=
      stands.reads.bind rest fun rest loose => loose.mono (Nat.zero_le _)
    rw [List.append_nil] at read
    exact read
  | succ depth => exact stands.reads.chains.stands (Nat.succ_pos _) between

/-- What is read at a level is read at all looser ones. -/
theorem Stands.below {depth top : Nat} (stands : Stands bound inner marks value top)
    (shallow : top ≤ 6) (looser : depth ≤ top) : Stands bound inner marks value depth := by
  induction top with
  | zero =>
    rw [Nat.le_zero.1 looser]
    exact stands
  | succ top ih =>
    rcases Nat.lt_or_eq_of_le looser with less | rfl
    · exact ih (stands.pred (by omega)) (by omega) (by omega)
    · exact stands

theorem stands_of_unary (reads : Reads bound (Parser.unary inner) (Loose 6) marks value)
    {depth : Nat} (looser : depth ≤ 6) : Stands bound inner marks value depth :=
  Stands.below ⟨reads, fun _ between => absurd between (by decide)⟩ (Nat.le_refl 6) looser

/-- What is read on its own is read at all levels, if it does not start with an operator. -/
theorem stands_of_primary (reads : Reads bound (Parser.primary inner) (Loose 7) marks value)
    {lexeme : Lexeme} (start : next? marks = some lexeme)
    (bare : lexeme ≠ .bang ∧ lexeme ≠ .increment) {depth : Nat} (looser : depth ≤ 7) :
    Stands bound inner marks value depth := by
  rcases Nat.lt_or_eq_of_le looser with less | rfl
  · refine stands_of_unary ?_ (Nat.le_of_lt_succ less)
    rw [Parser.unary_eq]
    refine Reads.unless (Reads.unless ?_ start bare.2) start bare.1
    exact reads.mono fun next loose => loose.mono (by decide)
  · exact ⟨reads, fun _ between => absurd between (by decide)⟩

end Mark

end Likeness
