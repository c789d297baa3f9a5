import Likeness.Number.Binary64
import Likeness.Number.Whole
import Likeness.Syntax.Node

/-!
# Similarity results

The result of a comparison follows the shape of what was compared: one node for each compared part,
with the weight that was matched and the total weight of everything below it. Weights are summed and
never averaged, so that a large difference counts in proportion to its size. For two nodes,
`matched + total` is the weight of both together.
-/

namespace Likeness

/-- The matched and the total weight of a comparison, with the labels of what was compared. -/
structure Similarity where
  label : String
  left : Option String
  right : Option String
  matched : Nat
  total : Nat
  children : List Similarity
deriving Repr

/-- How a row of a side-by-side listing came to be. -/
inductive RowKind where
  | compared
  | removed
  | inserted
  | group
deriving DecidableEq, Repr

/-- One line of a side-by-side listing. -/
structure Row where
  depth : Nat
  left : String
  percentage : Nat
  right : String
  kind : RowKind
deriving DecidableEq, Repr

/-- The name of a kind of row in documents. -/
def RowKind.name : RowKind → String
  | .compared => "Compared"
  | .removed => "Removed"
  | .inserted => "Inserted"
  | .group => "Group"

namespace Similarity

/-- The results of several parts together. -/
def add (label : String) (children : List Similarity) : Similarity :=
  ⟨label, none, none, Whole.sum (children.map matched), Whole.sum (children.map total), children⟩

/-- A test for equality, worth one unit of weight on each side. -/
def leaf (label : String) (equal : Bool) : Similarity :=
  if equal then ⟨label, none, none, 1, 1, []⟩ else ⟨label, none, none, 0, 2, []⟩

/-- Weight on either side without a counterpart. -/
def unmatched (label : String) (weight : Nat) : Similarity := ⟨label, none, none, 0, weight, []⟩

variable {α β : Type} [Node α] [Node β]

/-- Put the labels of the compared nodes on a result. -/
def between (similarity : Similarity) (left : α) (right : β) : Similarity :=
  { similarity with left := some (Node.label left), right := some (Node.label right) }

/-- Two nodes of which nothing can be compared. -/
def mismatch (left : α) (right : β) : Similarity :=
  (unmatched (Node.typeName left) (Node.weight left + Node.weight right)).between left right

/-- A node that is only on the left. -/
def removed (item : α) : Similarity :=
  { unmatched (Node.typeName item) (Node.weight item) with left := some (Node.label item) }

/-- A node that is only on the right. -/
def inserted (item : α) : Similarity :=
  { unmatched (Node.typeName item) (Node.weight item) with right := some (Node.label item) }

/-- Count more unmatched weight without listing it. -/
def withUnmatched (similarity : Similarity) (weight : Nat) : Similarity :=
  { similarity with total := similarity.total + weight }

@[simp] theorem matched_add (label : String) (children : List Similarity) :
    (add label children).matched = Whole.sum (children.map matched) := rfl

@[simp] theorem total_add (label : String) (children : List Similarity) :
    (add label children).total = Whole.sum (children.map total) := rfl

@[simp] theorem children_add (label : String) (children : List Similarity) :
    (add label children).children = children := rfl

@[simp] theorem matched_leaf (label : String) (equal : Bool) :
    (leaf label equal).matched = if equal then 1 else 0 := by
  cases equal <;> rfl

@[simp] theorem total_leaf (label : String) (equal : Bool) :
    (leaf label equal).total = if equal then 1 else 2 := by
  cases equal <;> rfl

@[simp] theorem matched_unmatched (label : String) (weight : Nat) :
    (unmatched label weight).matched = 0 := rfl

@[simp] theorem total_unmatched (label : String) (weight : Nat) :
    (unmatched label weight).total = weight := rfl

@[simp] theorem matched_between (similarity : Similarity) (left : α) (right : β) :
    (similarity.between left right).matched = similarity.matched := rfl

@[simp] theorem total_between (similarity : Similarity) (left : α) (right : β) :
    (similarity.between left right).total = similarity.total := rfl

@[simp] theorem matched_mismatch (left : α) (right : β) : (mismatch left right).matched = 0 := rfl

@[simp] theorem total_mismatch (left : α) (right : β) :
    (mismatch left right).total = Node.weight left + Node.weight right := rfl

@[simp] theorem matched_removed (item : α) : (removed item).matched = 0 := rfl

@[simp] theorem total_removed (item : α) : (removed item).total = Node.weight item := rfl

@[simp] theorem matched_inserted (item : α) : (inserted item).matched = 0 := rfl

@[simp] theorem total_inserted (item : α) : (inserted item).total = Node.weight item := rfl

@[simp] theorem matched_withUnmatched (similarity : Similarity) (weight : Nat) :
    (similarity.withUnmatched weight).matched = similarity.matched := rfl

@[simp] theorem total_withUnmatched (similarity : Similarity) (weight : Nat) :
    (similarity.withUnmatched weight).total = similarity.total + weight := rfl

/-- The matched part of the total weight; two empty things match in full. -/
def ratio (similarity : Similarity) : Binary64 := Binary64.ratio similarity.matched similarity.total

/-- The matched part of the total weight in whole percent, rounded down. -/
def percentage (similarity : Similarity) : Nat :=
  if similarity.total = 0 then 100 else similarity.matched * 100 / similarity.total

/-- Everything is matched. -/
def isIdentical (similarity : Similarity) : Bool := similarity.matched == similarity.total

/-- The kind of row that a result gives. -/
def kind (similarity : Similarity) : RowKind :=
  match similarity.left, similarity.right with
  | some _, some _ => .compared
  | some _, none => .removed
  | none, some _ => .inserted
  | none, none => .group

/-- The row of a result without those of its parts. A group is named on both sides. -/
def row (similarity : Similarity) (depth : Nat) : Row :=
  match similarity.kind with
  | .group => ⟨depth, similarity.label, similarity.percentage, similarity.label, .group⟩
  | kind =>
    ⟨depth, similarity.left.getD "", similarity.percentage, similarity.right.getD "", kind⟩

mutual

/-- The rows of a result and of its parts, depth first. -/
def rowsAt (depth : Nat) : Similarity → List Row
  | ⟨label, left, right, matched, total, children⟩ =>
    row ⟨label, left, right, matched, total, children⟩ depth :: rowsOfAll (depth + 1) children

/-- The rows of several results; a result without weight has none. -/
def rowsOfAll (depth : Nat) : List Similarity → List Row
  | [] => []
  | similarity :: rest =>
    if similarity.total = 0 then rowsOfAll depth rest
    else rowsAt depth similarity ++ rowsOfAll depth rest

end

/-- The rows of a whole comparison. -/
def rows (similarity : Similarity) : List Row := rowsAt 0 similarity

end Similarity

/-- What a comparison comes to. -/
inductive Verdict where
  | identical
  | nearDuplicate
  | distinct
deriving DecidableEq, Repr

namespace Verdict

/-- The name of the verdict in documents. -/
def name : Verdict → String
  | .identical => "Identical"
  | .nearDuplicate => "NearDuplicate"
  | .distinct => "Distinct"

/-- The verdict in words. -/
def text : Verdict → String
  | .identical => "identical"
  | .nearDuplicate => "near duplicate"
  | .distinct => "distinct"

end Verdict

/-- Only a full match is identical; from `threshold` on, a comparison is a near duplicate. -/
def Similarity.verdict (similarity : Similarity) (threshold : Binary64) : Verdict :=
  if similarity.isIdentical then .identical
  else if similarity.ratio.atLeast threshold then .nearDuplicate
  else .distinct

end Likeness
