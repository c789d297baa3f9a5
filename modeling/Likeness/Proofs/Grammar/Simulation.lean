import Likeness.Grammar.Expression
import Likeness.Proofs.Grammar.Levels
import Mathlib.Logic.Function.Iterate

/-!
# Parsers on two inputs

Two inputs of one parser may differ and still be taken apart in the same way. A `Correspondence` is
a relation between two inputs together with the reaches for which their outcomes are compared, and
`Simulates` states that two parsers have the same value on corresponding inputs and leave
corresponding rests. Every combinator keeps it, so that a correspondence which single pieces and
numbers respect is respected by every production; `simulates_expressions` is the last of them. Where
it is respected by some pieces only, up to a rank, so it is by the productions that take no others.

A parser that comes back to itself is turned as often as its input has pieces, which may be another
number on the other side. Therefore a correspondence counts the pieces that may be taken on both
sides, and `Simulates` how many of them are taken at least: a turn has to know the parser only where
fewer of them are left.
-/

namespace Likeness.Parser

variable {α β : Type}

/-- When two inputs are to be taken apart in the same way: related inputs, with the number of pieces
that may be taken from both, the reaches on the left side for which outcomes are compared, and how
the reaches of the two sides belong together. -/
structure Correspondence where
  related : Nat → List Piece → List Piece → Prop
  within : Option Nat → Prop
  reached : Option Nat → Option Nat → Prop
  shared_le : ∀ {shared input input'}, related shared input input' →
    shared ≤ input.length ∧ shared ≤ input'.length
  within_further : ∀ {first second}, within (further first second) → within first ∧ within second
  reached_none : reached none none
  reached_further : ∀ {first first' second second'}, reached first first' →
    reached second second' → reached (further first second) (further first' second')

variable {corr : Correspondence} {shared taken taken' bound bound' : Nat}

/-- Two outcomes with the same value, if any, that leave corresponding rests and take at least the
given number of the shared pieces. -/
inductive Agree (corr : Correspondence) (shared taken : Nat) : Outcome α → Outcome α → Prop where
  | failed {reach reach'} (reached : corr.reached reach reach') :
      Agree corr shared taken ⟨reach, none⟩ ⟨reach', none⟩
  | accepted {reach reach' fewer rest rest'} (value : α) (reached : corr.reached reach reach')
      (enough : fewer + taken ≤ shared) (related : corr.related fewer rest rest') :
      Agree corr shared taken ⟨reach, some (value, rest)⟩ ⟨reach', some (value, rest')⟩

/-- Two parsers that agree on corresponding inputs with fewer shared pieces than `bound`. -/
def Simulates (corr : Correspondence) (taken bound : Nat) (first second : Parser α) : Prop :=
  ∀ shared input input', shared < bound → corr.related shared input input' →
    corr.within (first input).reach → Agree corr shared taken (first input) (second input')

/-! ## Combinators -/

/-- What is compared behind a parser is compared for the parser itself. -/
theorem within_of_bind {parser : Parser α} {continuation : α → Parser β} {input : List Piece}
    (within : corr.within ((parser >>= continuation) input).reach) :
    corr.within (parser input).reach := by
  change corr.within (andThen parser continuation input).reach at within
  rw [andThen] at within
  split at within
  · rename_i failed
    rw [failed]
    exact within
  · rename_i accepted
    rw [accepted]
    exact (corr.within_further within).1

/-- What is compared for two alternatives is compared for the first one. -/
theorem within_of_orElse {first second : Parser α} {input : List Piece}
    (within : corr.within ((first <|> second) input).reach) : corr.within (first input).reach := by
  change corr.within (otherwise first second input).reach at within
  rw [otherwise] at within
  split at within
  · rename_i accepted
    rw [accepted]
    exact within
  · rename_i failed
    rw [failed]
    exact (corr.within_further within).1

/-- Behind an attempt that reached as far on both sides, outcomes agree as before. Of more shared
pieces as many more are taken. -/
theorem Agree.behind {first second : Outcome α} {reach reach' : Option Nat}
    (agree : Agree corr shared taken first second) (reached : corr.reached reach reach')
    {shared' : Nat} (more : ∀ left, left + taken ≤ shared → left + taken' ≤ shared') :
    Agree corr shared' taken' ⟨further reach first.reach, first.result⟩
      ⟨further reach' second.reach, second.result⟩ := by
  cases agree with
  | failed reached' => exact .failed (corr.reached_further reached reached')
  | accepted value reached' enough related =>
    exact .accepted value (corr.reached_further reached reached') (more _ enough) related

section Combinators

variable {first first' second second' : Parser α} {continuation continuation' : α → Parser β}

/-- Less may be taken and fewer pieces may be shared. -/
theorem Simulates.weaken (simulates : Simulates corr taken bound first first')
    (less : taken' ≤ taken) (fewer : bound' ≤ bound) :
    Simulates corr taken' bound' first first' := by
  intro shared input input' small related within
  have agree := simulates _ _ _ (Nat.lt_of_lt_of_le small fewer) related within
  simpa using agree.behind corr.reached_none (by omega)

theorem Simulates.below (simulates : Simulates corr taken bound first first')
    (fewer : bound' ≤ bound) : Simulates corr taken bound' first first' :=
  simulates.weaken (Nat.le_refl _) fewer

theorem Simulates.any (simulates : Simulates corr taken bound first first') :
    Simulates corr 0 bound first first' :=
  simulates.weaken (Nat.zero_le _) (Nat.le_refl _)

theorem simulates_fail : Simulates corr taken bound (fail : Parser α) fail :=
  fun _ _ _ _ _ _ => .failed corr.reached_none

theorem simulates_pure (value : α) : Simulates corr 0 bound (pure value) (pure value) :=
  fun _ _ _ _ related _ => .accepted value corr.reached_none (Nat.le_refl _) related

/-- One parser runs behind another: what the first one takes is no longer shared. -/
theorem Simulates.bind (start : Simulates corr taken bound first first')
    (next : ∀ value, Simulates corr taken' (bound - taken) (continuation value)
      (continuation' value)) :
    Simulates corr (taken + taken') bound (first >>= continuation) (first' >>= continuation') := by
  intro shared input input' small related within
  have agree := start _ _ _ small related (within_of_bind within)
  change corr.within (andThen first continuation input).reach at within
  show Agree corr shared _ (andThen first continuation input) (andThen first' continuation' input')
  rw [andThen] at within ⊢
  rw [andThen]
  generalize first input = outcome at agree within ⊢
  generalize first' input' = outcome' at agree ⊢
  cases agree with
  | failed reached => exact .failed reached
  | accepted value reached enough related =>
    have behind := next value _ _ _ (by omega) related (corr.within_further within).2
    exact behind.behind reached (by omega)

/-- The second parser runs where the first one accepts nothing. -/
theorem Simulates.orElse (one : Simulates corr taken bound first first')
    (other : Simulates corr taken bound second second') :
    Simulates corr taken bound (first <|> second) (first' <|> second') := by
  intro shared input input' small related within
  have agree := one _ _ _ small related (within_of_orElse within)
  change corr.within (otherwise first second input).reach at within
  show Agree corr shared _ (otherwise first second input) (otherwise first' second' input')
  rw [otherwise] at within ⊢
  rw [otherwise]
  generalize first input = outcome at agree within ⊢
  generalize first' input' = outcome' at agree ⊢
  cases agree with
  | accepted value reached enough related => exact .accepted value reached enough related
  | failed reached =>
    have behind := other _ _ _ small related (corr.within_further within).2
    exact behind.behind reached fun _ enough => enough

/-- A parser that takes a piece leaves fewer to those behind it. -/
theorem Simulates.thenLess (start : Simulates corr 1 (bound + 1) first first')
    (next : ∀ value, Simulates corr 0 bound (continuation value) (continuation' value)) :
    Simulates corr 1 (bound + 1) (first >>= continuation) (first' >>= continuation') :=
  start.bind next

/-- A parser takes what it takes, whatever runs behind it. -/
theorem Simulates.before (start : Simulates corr taken bound first first')
    (next : ∀ value, Simulates corr 0 bound (continuation value) (continuation' value)) :
    Simulates corr taken bound (first >>= continuation) (first' >>= continuation') :=
  start.bind fun value => (next value).below (Nat.sub_le bound taken)

/-- One parser runs behind another, whatever that takes. -/
theorem Simulates.next (start : Simulates corr taken bound first first')
    (next : ∀ value, Simulates corr taken' bound (continuation value) (continuation' value)) :
    Simulates corr taken' bound (first >>= continuation) (first' >>= continuation') := by
  have both := start.bind fun value => (next value).below (Nat.sub_le bound taken)
  exact both.weaken (Nat.le_add_left _ _) (Nat.le_refl _)

theorem Simulates.map (simulates : Simulates corr taken bound first first') (change : α → β) :
    Simulates corr taken bound (change <$> first) (change <$> first') :=
  simulates.bind fun value => simulates_pure (change value)

theorem Simulates.optional (simulates : Simulates corr taken bound first first') :
    Simulates corr 0 bound (Parser.optional first) (Parser.optional first') :=
  (simulates.map some).any.orElse (simulates_pure none)

/-- A value is there on both sides. -/
theorem simulates_ofOption (value : Option α) :
    Simulates corr 0 bound (ofOption value) (ofOption value) := by
  cases value with
  | none => exact simulates_fail
  | some value => exact simulates_pure value

/-- A condition holds on both sides. -/
theorem simulates_ensure (condition : Bool) :
    Simulates corr 0 bound (ensure condition) (ensure condition) := by
  cases condition with
  | false => exact simulates_fail
  | true => exact simulates_pure ()

end Combinators

section Repetition

variable {step step' : Parser α → Parser α} {item item' : Parser α}

/-- A knot that is tied some number of times is a step taken so often on a parser that fails. -/
theorem unroll_eq_iterate (step : Parser α → Parser α) (depth : Nat) :
    unroll step depth = step^[depth] fail := by
  induction depth with
  | zero => rfl
  | succ depth ih =>
    rw [Function.iterate_succ_apply', ← ih]
    rfl

/-- The numbers of turns may differ, if there are more of them than shared pieces on both sides, and
so may the parsers that are left to the last turns. -/
theorem simulates_iterate
    (turn : ∀ fewer < bound, ∀ inner inner', Simulates corr taken fewer inner inner' →
      Simulates corr taken (fewer + 1) (step inner) (step' inner'))
    {depth depth' : Nat} (enough : bound ≤ depth) (enough' : bound ≤ depth')
    (bottom bottom' : Parser α) :
    Simulates corr taken bound (step^[depth] bottom) (step'^[depth'] bottom') := by
  induction bound generalizing depth depth' with
  | zero => exact fun _ _ _ small => absurd small (Nat.not_lt_zero _)
  | succ bound ih =>
    obtain ⟨depth, rfl⟩ := Nat.exists_eq_add_of_lt enough
    obtain ⟨depth', rfl⟩ := Nat.exists_eq_add_of_lt enough'
    rw [Function.iterate_succ_apply', Function.iterate_succ_apply']
    refine turn bound (Nat.lt_succ_self _) _ _ (ih (fun fewer small => ?_) (by omega) (by omega))
    exact turn fewer (Nat.lt_succ_of_lt small)

/-- The numbers of turns may differ, if there are more of them than shared pieces on both sides. -/
theorem simulates_unroll
    (turn : ∀ fewer < bound, ∀ inner inner', Simulates corr taken fewer inner inner' →
      Simulates corr taken (fewer + 1) (step inner) (step' inner'))
    {depth depth' : Nat} (enough : bound ≤ depth) (enough' : bound ≤ depth') :
    Simulates corr taken bound (unroll step depth) (unroll step' depth') := by
  rw [unroll_eq_iterate, unroll_eq_iterate]
  exact simulates_iterate turn enough enough' fail fail

/-- A parser that comes back to itself is simulated, if a turn of it is with fewer shared pieces
left to the next one. -/
theorem simulates_fix
    (turn : ∀ fewer < bound, ∀ inner inner', Simulates corr taken fewer inner inner' →
      Simulates corr taken (fewer + 1) (step inner) (step' inner')) :
    Simulates corr taken bound (fix step) (fix step') := by
  intro shared input input' small related within
  obtain ⟨left, right⟩ := corr.shared_le related
  exact simulates_unroll (fun fewer less => turn fewer (Nat.lt_of_lt_of_le less small))
    (Nat.succ_le_succ left) (Nat.succ_le_succ right) _ _ _ (Nat.lt_succ_self shared) related within

/-- A turn of a repetition leaves fewer pieces to the next one, if each item takes something. -/
theorem Simulates.repetition {more more' : Parser (List α)}
    (simulates : Simulates corr 1 (bound + 1) item item')
    (others : Simulates corr 0 bound more more') :
    Simulates corr 0 (bound + 1) (Parser.repetition item more) (Parser.repetition item' more') := by
  refine Simulates.orElse ?_ (simulates_pure [])
  refine (simulates.thenLess fun first => ?_).any
  exact others.next fun rest => simulates_pure (first :: rest)

theorem Simulates.many (simulates : Simulates corr 1 bound item item') :
    Simulates corr 0 bound (Parser.many item) (Parser.many item') :=
  simulates_fix fun _ small _ _ others => (simulates.below small).repetition others

end Repetition

/-! ## Productions -/

end Likeness.Parser

namespace Likeness

/-- Pieces that are the same token, whether or not another one follows directly. -/
structure Piece.SameToken (piece piece' : Piece) : Prop where
  kind : piece.kind = piece'.kind
  lexeme : piece.lexeme = piece'.lexeme
  text : piece.text = piece'.text

/-- How far out a lexeme stands: no statement holds a semicolon or a brace, and what stands in
parentheses holds no brace. -/
def Lexeme.rank : Lexeme → Nat
  | .openBrace | .closeBrace => 2
  | .semicolon => 1
  | _ => 0

/-- A lexeme that does not stand further out than a rank. -/
def Lexeme.isWithin (rank : Nat) (lexeme : Lexeme) : Bool := lexeme.rank ≤ rank

namespace Parser

/-- A correspondence that is respected where single pieces up to a rank are read: by tests that do
not ask what follows a token, and by numbers, which do. -/
structure Correspondence.Respected (corr : Correspondence) (rank : Nat) : Prop where
  accept : ∀ {α : Type} {choose : Piece → Option α},
    (∀ piece piece', piece.SameToken piece' → choose piece = choose piece') →
    (∀ piece, (choose piece).isSome → piece.lexeme.rank ≤ rank) →
      ∀ bound, Simulates corr 1 bound (accept choose) (accept choose)
  number : ∀ bound, Simulates corr 1 bound number number

variable {α : Type} {corr : Correspondence} {rank taken bound : Nat}

/-- A correspondence is respected up to each lower rank. -/
theorem Correspondence.Respected.inside {rank' : Nat} (respected : corr.Respected rank)
    (lower : rank' ≤ rank) : corr.Respected rank' where
  accept blind inner := respected.accept blind fun piece found =>
    Nat.le_trans (inner piece found) lower
  number := respected.number

section Pieces

variable (respected : corr.Respected rank) (bound : Nat)
include respected

/-- A lexeme is the same on both sides. -/
theorem simulates_lexeme {expected : Lexeme} (inside : expected.isWithin rank) :
    Simulates corr 1 bound (lexeme expected) (lexeme expected) := by
  refine respected.accept (fun _ _ same => by rw [same.lexeme]) (fun piece found => ?_) bound
  obtain ⟨rfl, _⟩ := Option.isSome_ite.1 found
  exact of_decide_eq_true inside

/-- An identifier is the same on both sides. -/
theorem simulates_word : Simulates corr 1 bound word word := by
  refine respected.accept (fun _ _ same => by rw [same.lexeme, same.text]) (fun piece found => ?_)
    bound
  rw [Option.isSome_ite.1 found]
  exact Nat.zero_le _

/-- A closed literal is the same on both sides. -/
theorem simulates_contents {quote : Lexeme} (inside : quote.isWithin rank) :
    Simulates corr 1 bound (contents quote) (contents quote) := by
  refine respected.accept (fun _ _ same => by rw [same.kind, same.lexeme, same.text])
    (fun piece found => ?_) bound
  have isQuote := Option.isSome_ite.1 found
  simp only [Bool.and_eq_true, decide_eq_true_eq] at isQuote
  rw [isQuote.2]
  exact of_decide_eq_true inside

/-- A qualifier is the same on both sides. -/
theorem simulates_qualifier : Simulates corr 1 bound qualifier qualifier := by
  refine respected.accept (fun _ _ same => by rw [same.lexeme]) (fun piece found => ?_) bound
  refine Nat.le_trans (Nat.le_of_eq ?_) (Nat.zero_le rank)
  generalize piece.lexeme = lexeme at found
  unfold Lexeme.rank
  split
  · cases found
  · cases found
  · cases found
  · rfl

end Pieces

section Phrases

variable {item item' : Parser α} (respected : corr.Respected rank)
include respected

/-- Items with separators between them are the same on both sides. -/
theorem Simulates.separated (simulates : Simulates corr 1 bound item item')
    {separator : Lexeme} (inside : separator.isWithin rank) :
    Simulates corr 1 bound (Parser.separated separator item) (Parser.separated separator item') := by
  have more : Simulates corr 1 bound (do lexeme separator; item) (do lexeme separator; item') :=
    (simulates_lexeme respected bound inside).next fun _ => simulates
  refine simulates.before fun first => ?_
  exact more.many.next fun rest => simulates_pure (first :: rest)

/-- An item between delimiters is the same on both sides; the opening one leaves fewer pieces. -/
theorem Simulates.delimited (simulates : Simulates corr 0 bound item item')
    {opening closing : Lexeme} (insideOpening : opening.isWithin rank)
    (insideClosing : closing.isWithin rank) :
    Simulates corr 1 (bound + 1) (Parser.delimited opening closing item)
      (Parser.delimited opening closing item') := by
  refine (simulates_lexeme respected _ insideOpening).thenLess fun _ => ?_
  refine simulates.next fun value => ?_
  exact (simulates_lexeme respected bound insideClosing).next fun _ => simulates_pure value

end Phrases

section Names

variable (respected : corr.Respected 0)
include respected

theorem simulates_dottedName (bound : Nat) : Simulates corr 1 bound dottedName dottedName :=
  ((simulates_word respected bound).separated respected rfl).map _

/-- A literal is the same on both sides. -/
theorem simulates_literal (bound : Nat) : Simulates corr 1 bound literal literal := by
  have keyword {expected : Lexeme} (value : Literal) (inside : expected.isWithin 0) :
      Simulates corr 1 bound ((fun _ => value) <$> lexeme expected)
        ((fun _ => value) <$> lexeme expected) :=
    (simulates_lexeme respected bound inside).map _
  refine ((simulates_contents respected bound rfl).map _).orElse ?_
  refine ((simulates_contents respected bound rfl).map _).orElse ?_
  refine (keyword _ rfl).orElse ((keyword _ rfl).orElse ((keyword _ rfl).orElse ?_))
  exact respected.number bound

/-- A turn of the parser of types is the same on both sides. -/
theorem simulates_typeStep {inner inner' : Parser String}
    (known : Simulates corr 1 bound inner inner') :
    Simulates corr 1 (bound + 1) (typeStep inner) (typeStep inner') := by
  have inner := (known.separated respected (rfl : Lexeme.comma.isWithin 0)).any
  have brackets := @simulates_pure _ corr bound ()
  refine (simulates_dottedName respected _).thenLess fun name => ?_
  refine ((inner.delimited respected rfl rfl).optional.below (Nat.le_succ _)).next fun _ => ?_
  refine ((brackets.delimited respected rfl rfl).many.below (Nat.le_succ _)).next fun _ => ?_
  exact simulates_pure _

theorem simulates_typeName (bound : Nat) : Simulates corr 1 bound typeName typeName :=
  simulates_fix fun _ _ _ _ known => simulates_typeStep respected known

end Names

section Statements

variable {statement statement' operand operand' : Parser Statement} (respected : corr.Respected 0)
include respected

/-- Statements in parentheses are the same on both sides. -/
theorem simulates_group (simulates : Simulates corr 1 bound statement statement') :
    Simulates corr 1 (bound + 1) (group statement) (group statement') := by
  have items := (simulates.separated respected (rfl : Lexeme.comma.isWithin 0)).optional
  exact (items.next fun items => simulates_pure (items.getD [])).delimited respected rfl rfl

/-- A statement without operators around it is the same on both sides. -/
theorem simulates_primary (simulates : Simulates corr 1 bound statement statement') :
    Simulates corr 1 (bound + 1) (primary statement) (primary statement') := by
  refine ((simulates_group respected simulates).map _).orElse ?_
  exact ((simulates_literal respected _).map _).orElse ((simulates_dottedName respected _).map _)

/-- An operator in front of its operand leaves fewer pieces to it. -/
theorem simulates_prefixed (simulates : Simulates corr 1 bound operand operand')
    {token : Lexeme} (inside : token.isWithin 0) (symbol : UnarySymbol) :
    Simulates corr 1 (bound + 1) (prefixed token symbol operand) (prefixed token symbol operand') := by
  refine (simulates_lexeme respected _ inside).thenLess fun _ => ?_
  exact simulates.next fun value => simulates_ofOption _

/-- A turn of the parser of operators in front is the same on both sides. -/
theorem simulates_unaryStep (primaries : Simulates corr 1 (bound + 1) (primary statement)
    (primary statement')) (known : Simulates corr 1 bound operand operand') :
    Simulates corr 1 (bound + 1) (unaryStep statement operand) (unaryStep statement' operand') := by
  refine (simulates_prefixed respected known rfl _).orElse ?_
  exact (simulates_prefixed respected known rfl _).orElse primaries

/-- Operators in front of a statement are the same on both sides. -/
theorem simulates_unary (simulates : Simulates corr 1 bound statement statement') :
    Simulates corr 1 (bound + 1) (unary statement) (unary statement') := by
  have primaries := simulates_primary respected simulates
  exact simulates_fix fun _ small _ _ known =>
    simulates_unaryStep respected (primaries.below small) known

omit respected in
/-- Operands with operators between them are the same on both sides. -/
theorem Simulates.level {operation operation' : Parser (BinarySymbol × Statement)}
    (first : Simulates corr 1 bound operand operand')
    (more : Simulates corr 1 bound operation operation') :
    Simulates corr 1 bound (Parser.level operand operation) (Parser.level operand' operation') := by
  refine first.before fun first => ?_
  exact more.many.next fun operations => simulates_pure _

/-- An operator and its operand are the same on both sides. -/
theorem simulates_operation (simulates : Simulates corr 1 bound operand operand')
    {token : Lexeme} (inside : token.isWithin 0) (symbol : BinarySymbol) :
    Simulates corr 1 bound (operation operand token symbol) (operation operand' token symbol) := by
  refine (simulates_lexeme respected _ inside).next fun _ => ?_
  exact simulates.map fun value => (symbol, value)

/-- An operation of a level is the same on both sides. -/
theorem simulates_operations (simulates : Simulates corr 1 bound operand operand') (depth : Nat) :
    Simulates corr 1 bound (operations operand depth) (operations operand' depth) := by
  match depth with
  | 1 | 2 => exact simulates_operation respected simulates rfl _
  | 3 | 4 | 5 =>
    exact (simulates_operation respected simulates rfl _).orElse
      (simulates_operation respected simulates rfl _)
  | 0 | _ + 6 => exact simulates_fail

/-- Operands with operators of a level between them are the same on both sides, and so are those of
all tighter levels. -/
theorem simulates_tier (simulates : Simulates corr 1 bound statement statement') {depth : Nat}
    (positive : 1 ≤ depth) :
    Simulates corr 1 (bound + 1) (tier statement depth) (tier statement' depth) := by
  have looser {depth : Nat} (positive : 1 ≤ depth) (between : depth ≤ 5)
      (operand : Simulates corr 1 (bound + 1) (tier statement (depth + 1))
        (tier statement' (depth + 1))) :
      Simulates corr 1 (bound + 1) (tier statement depth) (tier statement' depth) := by
    rw [tier_eq_level statement positive between, tier_eq_level statement' positive between]
    exact operand.level (simulates_operations respected operand depth)
  have products := looser (by decide : 1 ≤ 5) (Nat.le_refl 5) (simulates_unary respected simulates)
  have sums := looser (by decide : 1 ≤ 4) (by decide) products
  have comparisons := looser (by decide : 1 ≤ 3) (by decide) sums
  have conjunctions := looser (by decide : 1 ≤ 2) (by decide) comparisons
  match depth with
  | 1 => exact looser (Nat.le_refl 1) (by decide) conjunctions
  | 2 => exact conjunctions
  | 3 => exact comparisons
  | 4 => exact sums
  | 5 => exact products
  | 6 => exact simulates_unary respected simulates
  | _ + 7 => exact simulates_primary respected simulates

/-- A turn of the parser of statements is the same on both sides. -/
theorem simulates_statementStep (known : Simulates corr 1 bound statement statement') :
    Simulates corr 1 (bound + 1) (statementStep statement) (statementStep statement') := by
  refine (simulates_tier respected known (Nat.le_refl 1)).thenLess fun target => ?_
  refine Simulates.orElse ?_ (simulates_pure target)
  refine (simulates_ensure _).next fun _ => ?_
  refine (simulates_lexeme respected _ rfl).next fun _ => ?_
  exact known.next fun value => simulates_pure _

theorem simulates_statement (bound : Nat) :
    Simulates corr 1 bound Parser.statement Parser.statement :=
  simulates_fix fun _ _ _ _ known => simulates_statementStep respected known

end Statements

section Clauses

variable (respected : corr.Respected 0)
include respected

/-- A declaration without its semicolon is the same on both sides. -/
theorem simulates_openDeclaration (bound : Nat) :
    Simulates corr 1 bound openDeclaration openDeclaration := by
  refine (simulates_qualifier respected bound).many.next fun qualifiers => ?_
  refine (simulates_typeName respected bound).before fun type => ?_
  refine (simulates_word respected _).next fun name => ?_
  have initial : Simulates corr 1 bound (do lexeme .assign; statement)
      (do lexeme .assign; statement) :=
    (simulates_lexeme respected _ rfl).next fun _ => simulates_statement respected _
  exact initial.optional.next fun initializer => simulates_pure _

theorem simulates_condition (bound : Nat) : Simulates corr 1 bound condition condition :=
  ((simulates_statement respected bound).any.delimited respected rfl rfl).below (Nat.le_succ _)

/-- What a `catch` catches is the same on both sides. -/
theorem simulates_caught (bound : Nat) : Simulates corr 1 bound caught caught := by
  refine Simulates.below (Simulates.delimited respected ?_ rfl rfl) (Nat.le_succ bound)
  refine ((simulates_typeName respected bound).separated respected rfl).next fun types => ?_
  exact (simulates_word respected _).next fun name => simulates_pure _

end Clauses

/-- A clause of a `for` is the same on both sides. -/
theorem simulates_forClause (respected : corr.Respected rank) (bound : Nat)
    {ending : Lexeme} (inside : ending.isWithin rank) :
    Simulates corr 1 bound (forClause ending) (forClause ending) := by
  have statement := simulates_statement (respected.inside (Nat.zero_le rank)) bound
  refine statement.optional.next fun statement => ?_
  exact (simulates_lexeme respected _ inside).map _

/-- The resources of a `try` are the same on both sides. -/
theorem simulates_resources (respected : corr.Respected 1) (bound : Nat) :
    Simulates corr 1 bound resources resources := by
  have declared := simulates_openDeclaration (respected.inside (Nat.zero_le 1)) bound
  refine Simulates.below (Simulates.delimited respected ?_ rfl rfl) (Nat.le_succ bound)
  refine (declared.separated respected rfl).next fun declared => ?_
  exact (simulates_lexeme respected _ rfl).optional.next fun _ => simulates_pure declared

section Expressions

variable {inner inner' : Parser Expression} (respected : corr.Respected 2)
include respected

/-- A declaration is the same on both sides. -/
theorem simulates_declaration (bound : Nat) : Simulates corr 1 bound declaration declaration := by
  have declared := simulates_openDeclaration (respected.inside (Nat.zero_le 2)) bound
  refine declared.before fun declared => ?_
  exact (simulates_lexeme respected _ rfl).next fun _ => simulates_pure declared

/-- A statement with its semicolon is the same on both sides. -/
theorem simulates_terminatedStatement (bound : Nat) :
    Simulates corr 1 bound terminatedStatement terminatedStatement := by
  have value := simulates_statement (respected.inside (Nat.zero_le 2)) bound
  refine value.before fun value => ?_
  exact (simulates_lexeme respected _ rfl).next fun _ => simulates_pure value

theorem simulates_bracedBody (simulates : Simulates corr 1 bound inner inner') :
    Simulates corr 1 bound (bracedBody inner) (bracedBody inner') :=
  (simulates.many.delimited respected rfl rfl).below (Nat.le_succ _)

theorem simulates_body (simulates : Simulates corr 1 bound inner inner') :
    Simulates corr 1 bound (body inner) (body inner') :=
  (simulates_bracedBody respected simulates).orElse (simulates.map _)

/-- An `if` is the same on both sides. -/
theorem simulates_branchBlock (simulates : Simulates corr 1 bound inner inner') :
    Simulates corr 1 (bound + 1) (branchBlock inner) (branchBlock inner') := by
  have body := simulates_body respected simulates
  have alternative : Simulates corr 1 bound (do lexeme .elseKeyword; Parser.body inner)
      (do lexeme .elseKeyword; Parser.body inner') :=
    (simulates_lexeme respected _ rfl).next fun _ => body
  refine (simulates_lexeme respected _ rfl).thenLess fun _ => ?_
  refine (simulates_condition (respected.inside (Nat.zero_le 2)) bound).next fun condition => ?_
  refine body.next fun thenBody => ?_
  exact alternative.optional.next fun elseBody => simulates_pure _

/-- A `while` is the same on both sides. -/
theorem simulates_whileBlock (simulates : Simulates corr 1 bound inner inner') :
    Simulates corr 1 (bound + 1) (whileBlock inner) (whileBlock inner') := by
  refine (simulates_lexeme respected _ rfl).thenLess fun _ => ?_
  refine (simulates_condition (respected.inside (Nat.zero_le 2)) bound).next fun condition => ?_
  exact (simulates_body respected simulates).next fun body => simulates_pure _

/-- A `do` is the same on both sides. -/
theorem simulates_doWhileBlock (simulates : Simulates corr 1 bound inner inner') :
    Simulates corr 1 (bound + 1) (doWhileBlock inner) (doWhileBlock inner') := by
  refine (simulates_lexeme respected _ rfl).thenLess fun _ => ?_
  refine (simulates_body respected simulates).next fun body => ?_
  refine (simulates_lexeme respected _ rfl).next fun _ => ?_
  refine (simulates_condition (respected.inside (Nat.zero_le 2)) bound).next fun condition => ?_
  exact (simulates_lexeme respected _ rfl).next fun _ => simulates_pure _

/-- A `for` is the same on both sides. -/
theorem simulates_forBlock (simulates : Simulates corr 1 bound inner inner') :
    Simulates corr 1 (bound + 1) (forBlock inner) (forBlock inner') := by
  have init := ((simulates_declaration respected bound).map Expression.declaration).orElse
    (simulates_forClause respected bound (rfl : Lexeme.semicolon.isWithin 2))
  refine (simulates_lexeme respected _ rfl).thenLess fun _ => ?_
  refine (simulates_lexeme respected _ rfl).next fun _ => ?_
  refine init.next fun init => ?_
  refine (simulates_forClause respected bound rfl).next fun condition => ?_
  refine (simulates_forClause respected bound rfl).next fun iteration => ?_
  exact (simulates_body respected simulates).next fun body => simulates_pure _

/-- A `catch` is the same on both sides. -/
theorem simulates_catchClause (simulates : Simulates corr 1 bound inner inner') :
    Simulates corr 1 bound (catchClause inner) (catchClause inner') := by
  have header := simulates_caught (respected.inside (Nat.zero_le 2)) bound
  refine (simulates_lexeme respected _ rfl).before fun _ => ?_
  refine header.next fun (types, name) => ?_
  exact (simulates_bracedBody respected simulates).next fun body => simulates_pure _

/-- A `try` is the same on both sides. -/
theorem simulates_guardedBlock (simulates : Simulates corr 1 bound inner inner') :
    Simulates corr 1 (bound + 1) (guardedBlock inner) (guardedBlock inner') := by
  have cleanup : Simulates corr 1 bound (cleanup inner) (cleanup inner') :=
    (simulates_lexeme respected _ rfl).next fun _ => simulates_bracedBody respected simulates
  refine (simulates_lexeme respected _ rfl).thenLess fun _ => ?_
  have opened := simulates_resources (respected.inside (Nat.le_succ 1)) bound
  refine opened.optional.next fun resources => ?_
  refine (simulates_bracedBody respected simulates).next fun body => ?_
  refine (simulates_catchClause respected simulates).many.next fun handlers => ?_
  refine cleanup.optional.next fun cleanup => ?_
  exact (simulates_ensure _).next fun _ => simulates_pure _

/-- A block is the same on both sides. -/
theorem simulates_blockWith (simulates : Simulates corr 1 bound inner inner') :
    Simulates corr 1 (bound + 1) (blockWith inner) (blockWith inner') :=
  (simulates_branchBlock respected simulates).orElse <|
    (simulates_whileBlock respected simulates).orElse <|
      (simulates_doWhileBlock respected simulates).orElse <|
        (simulates_forBlock respected simulates).orElse (simulates_guardedBlock respected simulates)

/-- One turn of the parser of expressions. -/
def expressionStep (expression : Parser Expression) : Parser Expression :=
  (Expression.block <$> blockWith expression)
    <|> (Expression.declaration <$> declaration)
    <|> (Expression.statement <$> terminatedStatement)
    <|> ((fun _ => Expression.empty) <$> lexeme .semicolon)

/-- A turn of the parser of expressions is the same on both sides. -/
theorem simulates_expressionStep (simulates : Simulates corr 1 bound inner inner') :
    Simulates corr 1 (bound + 1) (expressionStep inner) (expressionStep inner') := by
  refine ((simulates_blockWith respected simulates).map _).orElse ?_
  refine ((simulates_declaration respected _).map _).orElse ?_
  refine ((simulates_terminatedStatement respected _).map _).orElse ?_
  exact (simulates_lexeme respected _ rfl).map _

theorem simulates_expression (bound : Nat) : Simulates corr 1 bound expression expression :=
  simulates_fix fun _ _ _ _ known => simulates_expressionStep respected known

/-- All expressions of a text are the same on both sides. -/
theorem simulates_expressions (bound : Nat) :
    Simulates corr 0 bound (many expression) (many expression) :=
  (simulates_expression respected bound).many

end Expressions

end Parser

end Likeness
