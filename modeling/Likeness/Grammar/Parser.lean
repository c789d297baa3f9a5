import Likeness.Token

/-!
# Parsers over tokens

Builders take tokens off a text as they go and leave it to the text what comes next. The same grammar
can be read from a list of tokens that is there from the start, and that is what the theory works on.
A parser reads a list of pieces, which are tokens without their trivia, and either accepts some of
them or none. Beside its result it says how far any attempt inside it got, accepted or not, since
that is where a failure is reported. Alternatives are tried in order and a failed one takes nothing.
-/

namespace Likeness

/-- A token as a parser sees it: no place in the source, only whether the next token follows without
trivia in between. -/
structure Piece where
  kind : Kind
  lexeme : Lexeme
  text : String
  glued : Bool
deriving DecidableEq, Repr

/-- What a parser makes of its input. The reach is measured by what is left, so less is further:
twice the pieces that follow the last one accepted anywhere, and one more if that one was taken
without the trivia behind it. There is none when nothing was accepted anywhere. -/
structure Outcome (α : Type) where
  reach : Option Nat
  result : Option (α × List Piece)

/-- A reader of pieces. -/
def Parser (α : Type) : Type := List Piece → Outcome α

namespace Parser

variable {α β : Type}

/-- The further of two reaches. -/
def further : Option Nat → Option Nat → Option Nat
  | none, reach => reach
  | reach, none => reach
  | some left, some right => some (min left right)

@[simp] theorem further_none_left (reach : Option Nat) : further none reach = reach := by
  cases reach <;> rfl

@[simp] theorem further_none_right (reach : Option Nat) : further reach none = reach := by
  cases reach <;> rfl

theorem further_assoc (first second third : Option Nat) :
    further (further first second) third = further first (further second third) := by
  cases first <;> cases second <;> cases third <;> simp [further, Nat.min_assoc]

/-- Accept nothing. -/
def fail : Parser α := fun _ => ⟨none, none⟩

/-- Succeed without reading. -/
def succeed (value : α) : Parser α := fun input => ⟨none, some (value, input)⟩

/-- Run one parser and then another that depends on its value. -/
def andThen (parser : Parser α) (continuation : α → Parser β) : Parser β := fun input =>
  match parser input with
  | ⟨reach, none⟩ => ⟨reach, none⟩
  | ⟨reach, some (value, rest)⟩ =>
    let outcome := continuation value rest
    ⟨further reach outcome.reach, outcome.result⟩

/-- Run the second parser where the first one accepts nothing. -/
def otherwise (first second : Parser α) : Parser α := fun input =>
  match first input with
  | ⟨reach, some result⟩ => ⟨reach, some result⟩
  | ⟨reach, none⟩ =>
    let outcome := second input
    ⟨further reach outcome.reach, outcome.result⟩

instance : Monad Parser where
  pure := succeed
  bind := andThen

instance : OrElse (Parser α) where
  orElse first second := first.otherwise (second ())

/-- A parser for a value that may be missing. -/
def optional (parser : Parser α) : Parser (Option α) :=
  (some <$> parser) <|> pure none

/-- Succeed with a value that is there. -/
def ofOption : Option α → Parser α
  | some value => succeed value
  | none => fail

/-- Go on only if a condition holds. -/
def ensure (condition : Bool) : Parser Unit := if condition then succeed () else fail

/-- Read the next piece if `choose` finds a value in it. -/
def accept (choose : Piece → Option α) : Parser α
  | [] => ⟨none, none⟩
  | piece :: rest =>
    match choose piece with
    | some value => ⟨some (2 * rest.length), some (value, rest)⟩
    | none => ⟨none, none⟩

/-- Read the next piece if it is the given lexeme. -/
def lexeme (expected : Lexeme) : Parser Unit :=
  accept fun piece => if piece.lexeme = expected then some () else none

/-- Read an identifier; reserved words are none. -/
def word : Parser String :=
  accept fun piece => if piece.lexeme = .word then some piece.text else none

/-- Tie a knot at most `depth` times. -/
def unroll (step : Parser α → Parser α) (depth : Nat) (input : List Piece) : Outcome α :=
  match depth with
  | 0 => fail input
  | depth + 1 => step (fun rest => unroll step depth rest) input

/-- The parser that `step` makes of itself. Where `step` reads at least one piece before it comes
back to itself, as many turns as there are pieces, and one more, are enough. -/
def fix (step : Parser α → Parser α) : Parser α := fun input =>
  unroll step (input.length + 1) input

/-- A step comes back to itself only on shorter inputs. -/
def Guarded (step : Parser α → Parser α) : Prop :=
  ∀ (first second : Parser α) (input : List Piece),
    (∀ rest : List Piece, rest.length < input.length → first rest = second rest) →
      step first input = step second input

/-- With more turns than pieces, the number of turns of a guarded step does not matter. -/
theorem unroll_eq_unroll {step : Parser α → Parser α} (guarded : Guarded step)
    {depth depth' : Nat} {input : List Piece} (enough : input.length < depth)
    (enough' : input.length < depth') : unroll step depth input = unroll step depth' input := by
  induction depth generalizing depth' input with
  | zero => omega
  | succ depth ih =>
    cases depth' with
    | zero => omega
    | succ depth' =>
      rw [unroll, unroll]
      exact guarded _ _ _ fun rest shorter => ih (by omega) (by omega)

/-- The parser that a guarded step makes of itself is a fixed point of the step. -/
theorem fix_eq {step : Parser α → Parser α} (guarded : Guarded step) :
    fix step = step (fix step) := by
  funext input
  rw [fix, unroll]
  exact guarded _ _ _ fun rest shorter => unroll_eq_unroll guarded shorter (Nat.lt_succ_self _)

/-- Zero or more items, up to the first that does not match. -/
def many (item : Parser α) : Parser (List α) :=
  fix fun more => (do let first ← item; let rest ← more; pure (first :: rest)) <|> pure []

/-- One or more items with separators between them; a separator without an item behind it is left
alone. -/
def separated (separator : Lexeme) (item : Parser α) : Parser (List α) := do
  let first ← item
  let rest ← many (do lexeme separator; item)
  pure (first :: rest)

/-- An item between two delimiters. -/
def delimited (opening closing : Lexeme) (item : Parser α) : Parser α := do
  lexeme opening
  let value ← item
  lexeme closing
  pure value

/-- Identifiers with dots between them, as one name. -/
def dottedName : Parser String :=
  String.intercalate "." <$> separated .dot word

end Parser

/-- The token of a spot as a parser sees it. -/
def Spot.piece (spot : Spot) : Piece :=
  ⟨spot.token.kind, spot.token.lexeme, spot.token.text, spot.after.offset == spot.next.offset⟩

namespace Cursor

/-- The place that a reach stands for, among the tokens from this cursor on. -/
def placeOf (cursor : Cursor) (spots : List Spot) (reach : Nat) : Cursor :=
  match (spots.take (spots.length - reach / 2)).getLast? with
  | none => cursor
  | some spot => if reach % 2 = 1 then spot.after else spot.next

/-- What a parser makes of the text from a cursor on: its value with the place behind it, and the
furthest place that any attempt got to. -/
structure Built (α : Type) where
  result : Option (α × Cursor)
  reached : Option Cursor

/-- Run a parser on the text from this cursor on. -/
def build {α : Type} (cursor : Cursor) (parser : Parser α) : Built α :=
  let spots := (cursor.spots .skip).1
  let outcome := parser (spots.map Spot.piece)
  { result := outcome.result.map fun (value, rest) =>
      (value, cursor.placeOf spots (2 * rest.length))
    reached := outcome.reach.map (cursor.placeOf spots) }

end Cursor

end Likeness
