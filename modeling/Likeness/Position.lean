/-!
# Positions in a source text

A position is a line and a column, both counted from zero; columns are counted in UTF-8 bytes.
A location is a stretch of text with its byte span and the positions of both ends.
-/

namespace Likeness

/-- A line and a byte column, both counted from zero. -/
structure Position where
  line : Nat
  column : Nat
deriving DecidableEq, Repr

namespace Position

/-- The position of the first character of a text. -/
def start : Position := ⟨0, 0⟩

/-- The position just past a character that stands at this position. -/
def after (position : Position) (char : Char) : Position :=
  if char = '\n' then ⟨position.line + 1, 0⟩ else ⟨position.line, position.column + char.utf8Size⟩

/-- The written form, `line:column`. -/
def render (position : Position) : String :=
  toString position.line ++ ":" ++ toString position.column

/-- Positions are ordered by line first and by column on the same line. -/
def before (left right : Position) : Bool :=
  left.line < right.line || (left.line == right.line && left.column < right.column)

/-- Positions in ascending order; equal ones keep their places. -/
def sorted (positions : List Position) : List Position :=
  positions.mergeSort fun left right => !right.before left

end Position

/-- A stretch of text: its first byte, the byte after its last, and the positions of both. -/
structure Location where
  first : Nat
  stop : Nat
  start : Position
  finish : Position
deriving DecidableEq, Repr

namespace Location

/-- The empty stretch at the start of a text. -/
def origin : Location := ⟨0, 0, .start, .start⟩

/-- The written form, `start..finish`. -/
def render (location : Location) : String :=
  location.start.render ++ ".." ++ location.finish.render

end Location

end Likeness
