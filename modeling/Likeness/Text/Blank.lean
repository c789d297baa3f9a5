/-!
# Blank characters

The characters with the white-space property, and texts without the blanks at their ends.
-/

namespace Likeness.Text

/-- The code points with the white-space property. -/
def blankCodes : List Nat :=
  [ 0x9, 0xa, 0xb, 0xc, 0xd, 0x20, 0x85, 0xa0, 0x1680, 0x2000, 0x2001, 0x2002, 0x2003, 0x2004,
    0x2005, 0x2006, 0x2007, 0x2008, 0x2009, 0x200a, 0x2028, 0x2029, 0x202f, 0x205f, 0x3000 ]

/-- A character with the white-space property. -/
def isBlank (char : Char) : Bool := blankCodes.contains char.toNat

/-- Drop the blanks at the end of a list of characters. -/
def dropBlankEnd : List Char → List Char
  | [] => []
  | char :: rest =>
    match dropBlankEnd rest with
    | [] => if isBlank char then [] else [char]
    | kept => char :: kept

/-- The text without the blanks at its end. -/
def trimEnd (text : String) : String := String.ofList (dropBlankEnd text.toList)

end Likeness.Text
