import Likeness.Builder.Expression
import Likeness.Text.Quoted

/-!
# Parsing a source text

Either all of a text belongs to its tree, trivia apart, or the text is refused. The refusal points
at the furthest place that any production got to: just past the last token that some alternative
accepted, so that an error deep inside a block is reported there.
-/

namespace Likeness

/-- Why a source text has no tree: what stands where it stops making sense. -/
inductive ParseFailure where
  | unexpectedToken (position : Position) (offset : Nat) (found : String)
  | unrecognizedCharacter (position : Position) (offset : Nat) (found : Char)
  | unexpectedEnd (position : Position) (offset : Nat)
deriving DecidableEq, Repr

namespace ParseFailure

/-- What stands at a cursor. -/
def ofCursor (cursor : Cursor) : ParseFailure :=
  match cursor.rest with
  | [] => .unexpectedEnd cursor.position cursor.offset
  | first :: _ =>
    match Lexeme.recognize cursor.rest with
    | some (_, text) => .unexpectedToken cursor.position cursor.offset (String.ofList text)
    | none => .unrecognizedCharacter cursor.position cursor.offset first

/-- Where the text stops making sense. -/
def position : ParseFailure → Position
  | .unexpectedToken position _ _ => position
  | .unrecognizedCharacter position _ _ => position
  | .unexpectedEnd position _ => position

/-- The byte at which the text stops making sense. -/
def offset : ParseFailure → Nat
  | .unexpectedToken _ offset _ => offset
  | .unrecognizedCharacter _ offset _ => offset
  | .unexpectedEnd _ offset => offset

/-- What is wrong, in words. -/
def message : ParseFailure → String
  | .unexpectedToken position _ found =>
    "unexpected " ++ Text.quoted found ++ " at " ++ position.render
  | .unrecognizedCharacter position _ found =>
    "unrecognized character " ++ Text.quotedSingle found ++ " at " ++ position.render
  | .unexpectedEnd position _ => "unexpected end of input at " ++ position.render

end ParseFailure

/-- What is wrong, in words. -/
def TokenizeError.message (error : TokenizeError) : String :=
  "unrecognized character " ++ Text.quotedSingle error.found ++ " at " ++ error.position.render

/-- How a token is shown in listings: its kind and its text. -/
def Token.render (token : Token) : String :=
  token.kind.name ++ "(" ++ Text.quoted token.text ++ ")"

/-- The tree of a source text. The builders note how far they come, from the start of the text on. -/
def parse (source : String) : Except ParseFailure SyntaxTree :=
  let start := Cursor.ofSource source
  let (expressions, stance) := Builder.expressions ⟨start, some start⟩
  if stance.cursor.atEnd then .ok ⟨expressions.getD []⟩ else .error (.ofCursor stance.furthest)

end Likeness
