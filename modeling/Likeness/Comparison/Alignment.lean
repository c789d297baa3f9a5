import Likeness.Comparison.Similarity

/-!
# Aligning two lists in order

Of all ways to pair items of two lists without crossing, an alignment takes one with the greatest
matched weight. Items that are left out are gaps. Two items that match in nothing are never paired,
and of equally good ways the last step prefers a pair, then a gap on the left, then one on the
right.
-/

namespace Likeness

/-- One step of an alignment. -/
inductive AlignStep (α β : Type) where
  | pair (left : α) (right : β) (similarity : Similarity)
  | removed (left : α)
  | inserted (right : β)

namespace Alignment

variable {α β : Type}

/-- The best alignment of a beginning of the left list with one of the right list: its matched
weight and its steps, the last one first. -/
structure Cell (α β : Type) where
  score : Nat
  trail : List (AlignStep α β)

/-- The best alignment that ends in `left` and `right`, from the best ones without both, without
`left` and without `right`. -/
def Cell.choose (left : α) (right : β) (similarity : Similarity)
    (withoutBoth withoutLeft withoutRight : Cell α β) : Cell α β :=
  let paired := withoutBoth.score + similarity.matched
  let best := max (max paired withoutLeft.score) withoutRight.score
  if 0 < similarity.matched && best = paired then
    ⟨best, .pair left right similarity :: withoutBoth.trail⟩
  else if best = withoutLeft.score then ⟨best, .removed left :: withoutLeft.trail⟩
  else ⟨best, .inserted right :: withoutRight.trail⟩

/-- The alignments of nothing with each beginning of the right list. -/
def insertions : Cell α β → List β → List (Cell α β)
  | cell, [] => [cell]
  | cell, right :: rest => cell :: insertions ⟨0, .inserted right :: cell.trail⟩ rest

/-- The rest of a row for `left`, given the cell before it in this row, the cell before it in the
row above, the items of the right list with their comparisons, and the rest of the row above. -/
def extendRow (left : α) (beside corner : Cell α β) :
    List (β × Similarity) → List (Cell α β) → List (Cell α β)
  | (right, similarity) :: rest, above :: more =>
    let cell := Cell.choose left right similarity corner above beside
    cell :: extendRow left cell above rest more
  | _, _ => []

/-- The alignments that end in `left` or before it with each beginning of the right list, from those
that end before it. -/
def nextRow (row : List (Cell α β)) (item : α × List (β × Similarity)) : List (Cell α β) :=
  match row with
  | [] => []
  | first :: rest =>
    let cell := ⟨0, .removed item.1 :: first.trail⟩
    cell :: extendRow item.1 cell first item.2 rest

/-- All comparisons between two lists, row by row. -/
def comparisons (compare : α → β → Similarity) (left : List α) (right : List β) :
    List (α × List (β × Similarity)) :=
  left.map fun item => (item, right.map fun other => (other, compare item other))

/-- The steps of the alignment of two lists, where each item of the left one comes with its
comparisons to all of the right one. -/
def steps (table : List (α × List (β × Similarity))) (right : List β) : List (AlignStep α β) :=
  match (table.foldl nextRow (insertions ⟨0, []⟩ right)).getLast? with
  | some cell => cell.trail.reverse
  | none => []

/-- Align two lists in order. -/
def align (compare : α → β → Similarity) (left : List α) (right : List β) :
    List (AlignStep α β) :=
  steps (comparisons compare left right) right

variable [Node α] [Node β]

/-- The result of a pair, or of a gap as a row of its own. -/
def listed : AlignStep α β → Similarity
  | .pair _ _ similarity => similarity
  | .removed left => .removed left
  | .inserted right => .inserted right

/-- The result of a pair, if the step is one. -/
def paired? : AlignStep α β → Option Similarity
  | .pair _ _ similarity => some similarity
  | _ => none

/-- The weight that a gap leaves unmatched. -/
def gapWeight : AlignStep α β → Nat
  | .pair .. => 0
  | .removed left => Node.weight left
  | .inserted right => Node.weight right

/-- Compare two lists in order: pairs are listed, gaps only count. -/
def orderedBy (label : String) (table : List (α × List (β × Similarity))) (right : List β) :
    Similarity :=
  let steps := steps table right
  (Similarity.add label (steps.filterMap paired?)).withUnmatched
    (Whole.sum (steps.map gapWeight))

/-- Compare two lists in order: pairs and gaps are listed. -/
def gapsBy (label : String) (table : List (α × List (β × Similarity))) (right : List β) :
    Similarity :=
  .add label ((steps table right).map listed)

/-- Compare two lists in order and list the pairs only. -/
def ordered (compare : α → β → Similarity) (label : String) (left : List α) (right : List β) :
    Similarity :=
  orderedBy label (comparisons compare left right) right

/-- Compare two lists in order and list the gaps too. -/
def gaps (compare : α → β → Similarity) (label : String) (left : List α) (right : List β) :
    Similarity :=
  gapsBy label (comparisons compare left right) right

end Alignment

end Likeness
