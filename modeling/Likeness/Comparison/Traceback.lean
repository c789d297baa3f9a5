import Likeness.Comparison.Alignment

/-!
# Aligning two lists from a table of weights

`Alignment.align` keeps the steps of the best alignment beside its weight, for every pair of
beginnings. The weights are enough: a table of them is filled in place, row by row, and the steps are
found from its last corner back to the first, where a weight tells by which of its neighbours it was
made. Each pair is taken out of the table of comparisons when it is used.

A place in the table is a pair of boundaries, each in front of all items of a list, between two of
them or behind all. The way back must not lead in front of the first boundary; if it did, there would
be no steps.
-/

namespace Likeness.Alignment

variable {rows columns : Nat}

/-! ## Weights -/

/-- The greatest matched weight of every two beginnings of two lists. -/
structure Weights (rows columns : Nat) where
  entries : Vector (Vector Nat (columns + 1)) (rows + 1)

namespace Weights

/-- The weight of two beginnings. -/
def entry (best : Weights rows columns) (row : Fin (rows + 1)) (column : Fin (columns + 1)) : Nat :=
  (best.entries.get row).get column

/-- No weights. -/
def zero (rows columns : Nat) : Weights rows columns :=
  ⟨.replicate (rows + 1) (.replicate (columns + 1) 0)⟩

/-- Write the weight of the beginnings that end with two items. -/
def put (best : Weights rows columns) (row : Fin rows) (column : Fin columns) (weight : Nat) :
    Weights rows columns :=
  ⟨best.entries.set row.succ ((best.entries.get row.succ).set column.succ weight)⟩

/-- Find the weight of the beginnings that end with two items: they are paired, or one of them is
left out. -/
def improve (weight : Fin rows → Fin columns → Nat) (best : Weights rows columns)
    (row : Fin rows) (column : Fin columns) : Weights rows columns :=
  let diagonal := best.entry row.castSucc column.castSucc + weight row column
  best.put row column
    (max (max diagonal (best.entry row.castSucc column.succ)) (best.entry row.succ column.castSucc))

/-- All weights, row by row. -/
def fill (weight : Fin rows → Fin columns → Nat) : Weights rows columns :=
  (List.finRange rows).foldl
    (fun best row =>
      (List.finRange columns).foldl (fun best column => best.improve weight row column) best)
    (zero rows columns)

end Weights

/-! ## The way back -/

/-- The item in front of a boundary, if there is one. -/
def itemBefore {size : Nat} : Fin (size + 1) → Option (Fin size)
  | ⟨0, _⟩ => none
  | ⟨index + 1, inside⟩ => some ⟨index, Nat.lt_of_succ_lt_succ inside⟩

/-- A place on the way back: the boundaries in both lists, the comparisons that have not been used,
and the steps behind the place. -/
structure Trace (rows columns : Nat) where
  row : Fin (rows + 1)
  column : Fin (columns + 1)
  pairs : Vector (Vector (Option Similarity) columns) rows
  steps : List (AlignStep (Fin rows) (Fin columns))

namespace Trace

/-- Go back by a pair, if it matches in something and makes the weight here. -/
def takePair (best : Weights rows columns) (trace : Trace rows columns) :
    Option (Trace rows columns) := do
  let row ← itemBefore trace.row
  let column ← itemBefore trace.column
  let pair := (trace.pairs.get row).get column
  let weight := (pair.map Similarity.matched).getD 0
  if 0 < weight && best.entry trace.row trace.column =
      best.entry row.castSucc column.castSucc + weight then
    some
      { row := row.castSucc
        column := column.castSucc
        pairs := trace.pairs.set row ((trace.pairs.get row).set column none column.isLt) row.isLt
        steps := (pair.map (AlignStep.pair row column)).toList ++ trace.steps }
  else none

/-- Go back by an item of the left list, if the weight here is the one without it. -/
def takeLeft (best : Weights rows columns) (trace : Trace rows columns) :
    Option (Trace rows columns) := do
  let row ← itemBefore trace.row
  if best.entry trace.row trace.column = best.entry row.castSucc trace.column then
    some { trace with row := row.castSucc, steps := .removed row :: trace.steps }
  else none

/-- Go back by an item of the right list. -/
def takeRight (trace : Trace rows columns) : Option (Trace rows columns) := do
  let column ← itemBefore trace.column
  some { trace with column := column.castSucc, steps := .inserted column :: trace.steps }

/-- Go back by one step. -/
def turn (best : Weights rows columns) (trace : Trace rows columns) :
    Option (Trace rows columns) :=
  trace.takePair best <|> trace.takeLeft best <|> trace.takeRight

/-- Nothing stands in front of the place. -/
def atStart (trace : Trace rows columns) : Bool := trace.row = 0 && trace.column = 0

/-- Go back to the start, in at most `count` steps. -/
def run (best : Weights rows columns) : Nat → Trace rows columns → Option (Trace rows columns)
  | 0, trace => if trace.atStart then some trace else none
  | count + 1, trace =>
    if trace.atStart then some trace else (trace.turn best).bind (run best count)

end Trace

/-- The steps that the way back from the end of both lists takes. -/
def traceback (compare : Fin rows → Fin columns → Similarity) :
    Option (List (AlignStep (Fin rows) (Fin columns))) :=
  let pairs := Vector.ofFn fun row => Vector.ofFn fun column => some (compare row column)
  let best := Weights.fill fun row column => (compare row column).matched
  let trace : Trace rows columns := ⟨Fin.last rows, Fin.last columns, pairs, []⟩
  (trace.run best (rows + columns)).map Trace.steps

end Likeness.Alignment
