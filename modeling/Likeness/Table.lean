import Likeness.Comparison.Similarity
import Likeness.Text.Blank
import Likeness.Text.Cut

/-!
# The side-by-side table

One line for each row of a comparison: a mark for what was removed or inserted, the left label, the
percentage and the right label. Nesting is shown by two blanks for each level before both labels.
-/

namespace Likeness

/-- How a table is drawn. -/
structure TableStyle where
  color : Bool
  /-- The width of a label with its indentation, in characters. -/
  labelWidth : Nat
  /-- Nodes that are on one side only have rows of their own. -/
  showGaps : Bool
deriving DecidableEq, Repr

namespace Table

/-- The style that is used when nothing is said. -/
def plainStyle : TableStyle := ⟨false, 40, true⟩

/-- The mark in the first column. -/
def marker : RowKind → String
  | .removed => "-"
  | .inserted => "+"
  | .compared | .group => " "

/-- The colour of a percentage: green for a full match, yellow from a half on, red otherwise. -/
def colorCode (percentage : Nat) : String :=
  if percentage = 100 then "10" else if 50 ≤ percentage && percentage < 100 then "11" else "9"

/-- A cell in the colour of its percentage. -/
def colored (percentage : Nat) (cell : String) : String :=
  "\x1b[38;5;" ++ colorCode percentage ++ "m" ++ cell ++ "\x1b[39m"

/-- A label behind its indentation; an empty label has none. -/
def indented (depth : Nat) (label : String) : String :=
  if label.isEmpty then "" else Text.blanks (2 * depth) ++ label

/-- One line of a table. -/
def renderRow (style : TableStyle) (row : Row) : String :=
  let left := Text.fit style.labelWidth (indented row.depth row.left)
  let right := Text.fit style.labelWidth (indented row.depth row.right)
  let cell := Text.padLeft 4 (toString row.percentage ++ "%")
  let cell := if style.color then colored row.percentage cell else cell
  Text.trimEnd
    (marker row.kind ++ " " ++ Text.padRight style.labelWidth left ++ " " ++ cell ++ "  " ++ right)

/-- A row is shown unless it is a gap and gaps are not wanted. -/
def isShown (style : TableStyle) (row : Row) : Bool :=
  style.showGaps || !(row.kind = .removed || row.kind = .inserted)

/-- The lines of a table, each with its end. -/
def renderRows (style : TableStyle) (rows : List Row) : String :=
  String.join ((rows.filter (isShown style)).map fun row => renderRow style row ++ "\n")

/-- The table of a comparison. -/
def render (style : TableStyle) (similarity : Similarity) : String :=
  renderRows style similarity.rows

/-- The table of a comparison with its summary below. -/
def renderReport (style : TableStyle) (threshold : Binary64) (similarity : Similarity) : String :=
  render style similarity ++ "\nsimilarity: " ++ toString similarity.percentage ++ "% ("
    ++ (similarity.verdict threshold).text ++ ")\n"

end Table

end Likeness
