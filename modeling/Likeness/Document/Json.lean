import Likeness.Document.Datum
import Likeness.Text.Cut

/-!
# Documents as JSON

Documents are laid out over several lines with two blanks for each level. In strings the quote, the
backslash and control characters are escaped, and all other characters stand for themselves.
-/

namespace Likeness.Json

/-- Numbers are written out in full from `0.00001` up to sixteen digits, always with a fraction, and
with a signed power of ten otherwise. -/
def layout : Decimal.Layout := ⟨.even, some (-5), some 16, true, true⟩

/-- A hexadecimal digit in lower case. -/
def hexDigit (value : Nat) : Char := Nat.digitChar value

/-- How one character is written in a string. -/
def escaped (char : Char) : String :=
  if char = '"' then "\\\""
  else if char = '\\' then "\\\\"
  else if char = '\x08' then "\\b"
  else if char = '\x0c' then "\\f"
  else if char = '\n' then "\\n"
  else if char = '\r' then "\\r"
  else if char = '\t' then "\\t"
  else if char.toNat < 0x20 then
    String.ofList ['\\', 'u', '0', '0', hexDigit (char.toNat / 16), hexDigit (char.toNat % 16)]
  else char.toString

/-- A string between its quotes. -/
def quoted (text : String) : String := "\"" ++ String.join (text.toList.map escaped) ++ "\""

/-- Items on lines of their own between brackets, at the given depth. -/
def enclosed (opening closing : String) (depth : Nat) (items : List String) : String :=
  if items.isEmpty then opening ++ closing
  else
    let inner := "\n" ++ Text.blanks (2 * (depth + 1))
    opening ++ inner ++ String.intercalate ("," ++ inner) items ++ "\n" ++ Text.blanks (2 * depth)
      ++ closing

mutual

/-- A value at the given depth. -/
def renderAt (depth : Nat) : Datum → String
  | .null => "null"
  | .boolean value => if value then "true" else "false"
  | .integer value => toString value
  | .number value => layout.render value
  | .text value => quoted value
  | .list items => enclosed "[" "]" depth (renderItems (depth + 1) items)
  | .record fields => enclosed "\x7b" "\x7d" depth (renderFields (depth + 1) fields)

/-- The items of a list at the given depth. -/
def renderItems (depth : Nat) : List Datum → List String
  | [] => []
  | item :: rest => renderAt depth item :: renderItems depth rest

/-- The fields of a record at the given depth. -/
def renderFields (depth : Nat) : List (String × Datum) → List String
  | [] => []
  | (name, value) :: rest =>
    (quoted name ++ ": " ++ renderAt depth value) :: renderFields depth rest

end

/-- A document as JSON text. -/
def render (document : Datum) : String := renderAt 0 document

end Likeness.Json
