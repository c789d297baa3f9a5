import Likeness.Grammar.Parser
import Likeness.Number.Whole
import Likeness.Syntax.Literal

/-!
# Reading literals

A literal is a closed string or character, a reserved word for a value, or a number with an optional
minus sign that stands directly before it.
-/

namespace Likeness

namespace Literal

/-- The value of a number with its sign. A suffix for a floating type, a point or an exponent makes
it a double; any other number is an integer, and has no value outside 64 bits. -/
def ofNumber? (negative : Bool) (text : String) : Option Literal :=
  let characters := text.toList
  let suffix := characters.getLast?.filter Lexeme.isNumberSuffix
  let digits := if suffix.isSome then characters.dropLast else characters
  let narrow := suffix = some 'f' || suffix = some 'F'
  let floating := narrow || suffix = some 'd' || suffix = some 'D' ||
    digits.any fun char => char = '.' || char = 'e' || char = 'E'
  if floating then
    (Decimal.readMagnitude digits).map fun (digits, exponent) =>
      .double (.ofDecimal negative digits exponent) (!narrow)
  else
    let size : Int := Decimal.natOfDigits digits
    let value := if negative then -size else size
    let long := suffix = some 'l' || suffix = some 'L'
    if Whole.isSigned64 value then some (.integer value long) else none

end Literal

namespace Parser

/-- The contents of a closed literal that opens with the given quote. -/
def contents (quote : Lexeme) : Parser String :=
  accept fun piece =>
    if piece.kind = .text && piece.lexeme = quote then
      some (String.ofList (piece.text.toList.drop 1).dropLast)
    else none

/-- The sign of a number: whether a minus stands directly before it. A minus with trivia behind it
is no sign, and what follows it is no number. -/
def sign : Parser Bool
  | [] => ⟨none, some (false, [])⟩
  | piece :: rest =>
    if piece.lexeme = .minus then
      if piece.glued then ⟨some (2 * rest.length), some (true, rest)⟩
      else ⟨some (2 * rest.length + 1), none⟩
    else ⟨none, some (false, piece :: rest)⟩

/-- A number with its sign. -/
def number : Parser Literal := do
  let negative ← sign
  let text ← accept fun piece => if piece.lexeme = .number then some piece.text else none
  ofOption (Literal.ofNumber? negative text)

/-- A literal of any kind. -/
def literal : Parser Literal :=
  (Literal.string <$> contents .doubleQuote)
    <|> (Literal.char <$> contents .singleQuote)
    <|> ((fun _ => Literal.boolean true) <$> lexeme .trueKeyword)
    <|> ((fun _ => Literal.boolean false) <$> lexeme .falseKeyword)
    <|> ((fun _ => Literal.null) <$> lexeme .nullKeyword)
    <|> number

end Parser

end Likeness
