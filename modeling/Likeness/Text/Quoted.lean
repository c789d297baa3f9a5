import Likeness.Text.Printable

/-!
# Quoted text in messages

Messages show a piece of source between quotes. The quote itself and the backslash are marked by a
backslash, line breaks, tabs and the null character have letters, and a character without a clear
shape of its own is shown by its number in braces.
-/

namespace Likeness.Text

/-- The lower-case hexadecimal digits of a number, without leading zeros. -/
def hexDigits (number : Nat) : String := String.ofList (Nat.toDigits 16 number)

/-- How one character is shown between quotes of the kind `quote`. -/
def quotedChar (quote char : Char) : String :=
  if char = '\x00' then "\\0"
  else if char = '\t' then "\\t"
  else if char = '\r' then "\\r"
  else if char = '\n' then "\\n"
  else if char = '\\' then "\\\\"
  else if char = quote then "\\" ++ quote.toString
  else if isPrintable char then char.toString
  else "\\u\x7b" ++ hexDigits char.toNat ++ "\x7d"

/-- A text between double quotes. -/
def quoted (text : String) : String :=
  "\"" ++ String.join (text.toList.map (quotedChar '"')) ++ "\""

/-- A character between single quotes. -/
def quotedSingle (char : Char) : String := "'" ++ quotedChar '\'' char ++ "'"

end Likeness.Text
