import Likeness.Token

/-!
# Builders

A builder reads one part of a text. It stands at a cursor, takes tokens off the text from there, one
at a time, and moves its cursor behind what it has read. What may turn out not to be there is tried
on a branch, a copy of the cursor that is committed at the end or dropped on the way, so that
an attempt that fails leaves the cursor where it was.

One thing is not undone: the furthest place that any branch, committed or dropped, has accepted text
up to. It is kept in a cell that all branches share, can be read and written at any time, and says
in the end where a text stops making sense.
-/

namespace Likeness

/-- What a builder works on: its cursor, and the furthest place that text was accepted up to, if
places are noted at all. -/
structure Stance where
  cursor : Cursor
  reach : Option Cursor
deriving DecidableEq, Repr

namespace Stance

/-- Note that text up to the cursor has been accepted. -/
def mark (stance : Stance) : Stance :=
  { stance with reach := stance.reach.map fun reach => reach.further stance.cursor }

/-- The furthest place noted, or the cursor if that is further. -/
def furthest (stance : Stance) : Cursor :=
  (stance.reach.map stance.cursor.further).getD stance.cursor

end Stance

/-- A reader of text: what it builds, if anything, and what it leaves. -/
def Builder (α : Type) : Type := Stance → Option α × Stance

namespace Builder

variable {α β : Type}

/-- Build nothing. -/
def fail : Builder α := fun stance => (none, stance)

/-- Build a value without reading. -/
def succeed (value : α) : Builder α := fun stance => (some value, stance)

/-- Run one builder and then another that depends on its value. -/
def andThen (builder : Builder α) (continuation : α → Builder β) : Builder β := fun stance =>
  match builder stance with
  | (some value, stance) => continuation value stance
  | (none, stance) => (none, stance)

/-- Run the second builder where the first one has built nothing, on what that left. -/
def otherwise (first second : Builder α) : Builder α := fun stance =>
  match first stance with
  | (some value, stance) => (some value, stance)
  | (none, stance) => second stance

instance : Monad Builder where
  pure := succeed
  bind := andThen

instance : Alternative Builder where
  failure := fail
  orElse first second := first.otherwise (second ())

/-- Build a value that may be missing. -/
def attempt (builder : Builder α) : Builder (Option α) := (some <$> builder) <|> pure none

/-- Build a value that is there. -/
def ofOption : Option α → Builder α
  | some value => succeed value
  | none => fail

/-- Go on only if a condition holds. -/
def ensure (condition : Bool) : Builder Unit := if condition then succeed () else fail

/-! ## Cursors -/

/-- Run a builder on a branch: a copy of the cursor, which takes its place if something is built and
is dropped if not. What is noted on a branch stays noted. -/
def branch (builder : Builder α) : Builder α := fun stance =>
  match builder stance with
  | (some value, committed) => (some value, committed)
  | (none, dropped) => (none, { dropped with cursor := stance.cursor })

/-- The place where the builder stands. -/
def here : Builder Cursor := fun stance => (some stance.cursor, stance)

/-- Move the cursor. -/
def move (change : Cursor → Cursor) : Builder Unit := fun stance =>
  (some (), { stance with cursor := change stance.cursor })

/-- Note that text up to the cursor has been accepted. -/
def mark : Builder Unit := fun stance => (some (), stance.mark)

/-- Take one lexeme off the text, with the trivia after it if that is not wanted. -/
def next (trivia : Trivia) : Builder Token := fun stance =>
  match stance.cursor.next trivia with
  | some spot => (some spot.token, { stance with cursor := spot.next })
  | none => (none, stance)

/-- Take the next token if it passes a test. -/
def matching (trivia : Trivia) (test : Token → Bool) : Builder Token := do
  let token ← branch do
    let token ← next trivia
    ensure (test token)
    pure token
  mark
  pure token

/-- Take the next token if it is the given lexeme, and the trivia after it. -/
def lexeme (expected : Lexeme) : Builder Unit :=
  (fun _ => ()) <$> matching .skip fun token => token.lexeme = expected

/-- Take the next token if it is the given lexeme, and leave what follows it. -/
def lexemeExact (expected : Lexeme) : Builder Unit :=
  (fun _ => ()) <$> matching .keep fun token => token.lexeme = expected

/-- Take an identifier; reserved words are none. -/
def word : Builder String :=
  Token.text <$> matching .skip fun token => token.lexeme = .word

/-- The contents of a literal that opens with the given delimiter and is closed by it. The text in
between need not be made of tokens, so it is searched character by character. -/
def quoted (delimiter : Char) : Builder String := do
  let contents ← branch do
    let opening ← here
    ensure (opening.rest.head? = some delimiter)
    move fun cursor => cursor.advance delimiter.utf8Size
    let inside ← here
    let contents ← ofOption (Lexeme.literalContents delimiter inside.rest)
    move fun cursor => cursor.advance (byteLength contents + delimiter.utf8Size)
    move Cursor.skipTrivia
    pure (String.ofList contents)
  mark
  pure contents

/-! ## Repetition -/

/-- Tie a knot at most `depth` times. -/
def unroll (step : Builder α → Builder α) (depth : Nat) (stance : Stance) : Option α × Stance :=
  match depth with
  | 0 => fail stance
  | depth + 1 => step (fun stance => unroll step depth stance) stance

/-- The builder that `step` makes of itself. Where `step` takes at least one character before it
comes back to itself, as many turns as there are characters, and one more, are enough. -/
def fix (step : Builder α → Builder α) : Builder α := fun stance =>
  unroll step (stance.cursor.rest.length + 1) stance

/-- Take steps from a value on, at most `count` of them. -/
def stepsUpTo (step : β → Builder β) : Nat → β → Builder β
  | 0, value => pure value
  | count + 1, value => do
    match ← attempt (step value) with
    | some value => stepsUpTo step count value
    | none => pure value

/-- Take steps from a value on, up to the first that is refused. Where each step takes at least one
character, as many steps as there are characters are enough. -/
def steps (step : β → Builder β) (value : β) : Builder β := fun stance =>
  stepsUpTo step stance.cursor.rest.length value stance

/-- Build an item that moves the cursor on. -/
def moving (item : Builder α) : Builder α := do
  let before ← here
  let value ← item
  let after ← here
  ensure (before.offset < after.offset)
  pure value

/-- Zero or more items, up to the first that does not match. An item that took nothing would repeat
for ever, so the loop stops there too. -/
def repeated (item : Builder α) : Builder (List α) :=
  steps (fun items => (fun value => items ++ [value]) <$> moving item) []

/-- One or more items with separators between them; a separator without an item behind it is left
alone. -/
def separated (separator : Lexeme) (item : Builder α) : Builder (List α) := branch do
  let first ← item
  let more (items : List α) : Builder (List α) := branch do
    lexeme separator
    let value ← item
    pure (items ++ [value])
  steps more [first]

/-- An item between two delimiters. -/
def delimited (opening closing : Lexeme) (item : Builder α) : Builder α := branch do
  lexeme opening
  let value ← item
  lexeme closing
  pure value

/-- Identifiers with dots between them, as one name. -/
def dottedName : Builder String := branch do
  let first ← word
  let more (name : String) : Builder String := branch do
    lexeme .dot
    let part ← word
    pure (name ++ "." ++ part)
  steps more first

end Builder

end Likeness
