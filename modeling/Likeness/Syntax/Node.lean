import Likeness.Number.Whole

/-!
# Nodes of a syntax tree

What every node offers to listings and comparisons: the name of its type, a short label that reads
like source text, and its weight. The weight of a node is how much structure is lost when it is left
unmatched; every node weighs at least one, and only a tree without expressions weighs nothing.
-/

namespace Likeness

/-- A part of a syntax tree that can be listed and compared. -/
class Node (α : Type) where
  typeName : α → String
  label : α → String
  weight : α → Nat

/-- A list weighs as much as its items together. -/
def totalWeight {α : Type} [Node α] (items : List α) : Nat := Whole.sum (items.map Node.weight)

@[simp] theorem totalWeight_nil {α : Type} [Node α] : totalWeight ([] : List α) = 0 := rfl

@[simp] theorem totalWeight_cons {α : Type} [Node α] (item : α) (items : List α) :
    totalWeight (item :: items) = Node.weight item + totalWeight items := by
  simp [totalWeight]

/-- A name on its own, such as the type in a catch clause. -/
structure Identifier where
  name : String
deriving DecidableEq, Repr

instance : Node Identifier where
  typeName _ := "Identifier"
  label identifier := identifier.name
  weight _ := 1

end Likeness
