import Likeness.Syntax.Literal

/-!
# Statements

Operators, literals, variable references and parenthesised lists.
-/

namespace Likeness

/-- The operators with one operand. -/
inductive UnarySymbol where
  | not
  | preIncrement
deriving DecidableEq, Repr

/-- The operators with two operands. -/
inductive BinarySymbol where
  | add
  | subtract
  | multiply
  | divide
  | assign
  | equals
  | different
  | and
  | or
deriving DecidableEq, Repr

namespace UnarySymbol

/-- How the operator is written. -/
def spelling : UnarySymbol → String
  | .not => "!"
  | .preIncrement => "++"

/-- The name of the operator in listings. -/
def name : UnarySymbol → String
  | .not => "Not"
  | .preIncrement => "PreIncrement"

end UnarySymbol

namespace BinarySymbol

/-- How the operator is written. -/
def spelling : BinarySymbol → String
  | .add => "+"
  | .subtract => "-"
  | .multiply => "*"
  | .divide => "/"
  | .assign => "="
  | .equals => "=="
  | .different => "!="
  | .and => "&&"
  | .or => "||"

/-- The name of the operator in listings. -/
def name : BinarySymbol → String
  | .add => "Add"
  | .subtract => "Subtract"
  | .multiply => "Multiply"
  | .divide => "Divide"
  | .assign => "Assign"
  | .equals => "Equals"
  | .different => "Different"
  | .and => "And"
  | .or => "Or"

end BinarySymbol

/-- A value: an operator with its operands, a literal, a variable with a possibly dotted name, or a
parenthesised list of values. -/
inductive Statement where
  | unary (symbol : UnarySymbol) (operand : Statement)
  | binary (symbol : BinarySymbol) (left right : Statement)
  | literal (value : Literal)
  | reference (name : String)
  | group (items : List Statement)
deriving Repr

/-- A statement that a value can be stored into. -/
def Statement.isAssignable : Statement → Bool
  | .reference _ => true
  | _ => false

/-- A statement that is an operator with its operands. -/
def Statement.isOperator : Statement → Bool
  | .unary .. | .binary .. => true
  | _ => false

/-- An increment needs something to store into. -/
def UnarySymbol.accepts (symbol : UnarySymbol) (operand : Statement) : Bool :=
  match symbol with
  | .not => true
  | .preIncrement => operand.isAssignable

/-- An assignment needs something to store into on its left. -/
def BinarySymbol.accepts (symbol : BinarySymbol) (left : Statement) : Bool :=
  match symbol with
  | .assign => left.isAssignable
  | _ => true

namespace Statement

/-- An operator with its operand, if the operand has the shape it needs. -/
def unary? (symbol : UnarySymbol) (operand : Statement) : Option Statement :=
  if symbol.accepts operand then some (.unary symbol operand) else none

/-- An operator with its operands, if the left one has the shape it needs. -/
def binary? (symbol : BinarySymbol) (left right : Statement) : Option Statement :=
  if symbol.accepts left then some (.binary symbol left right) else none

/-- The name of the statement's type in listings. -/
def typeName : Statement → String
  | .unary symbol _ => symbol.name
  | .binary symbol _ _ => symbol.name
  | .literal value => value.typeName
  | .reference _ => "VariableReference"
  | .group _ => "ParameterPassing"

mutual

/-- The statement on one line. -/
def label : Statement → String
  | .unary symbol operand => symbol.spelling ++ operand.label
  | .binary symbol left right => left.label ++ " " ++ symbol.spelling ++ " " ++ right.label
  | .literal value => value.label
  | .reference name => name
  | .group items => "(" ++ String.intercalate ", " (labels items) ++ ")"

/-- The labels of several statements. -/
def labels : List Statement → List String
  | [] => []
  | statement :: rest => statement.label :: labels rest

end

mutual

/-- Leaves weigh one; an operator and a pair of parentheses add one to what they hold. -/
def weight : Statement → Nat
  | .unary _ operand => 1 + operand.weight
  | .binary _ left right => 1 + left.weight + right.weight
  | .literal _ => 1
  | .reference _ => 1
  | .group items => 1 + weightOfAll items

/-- The weight of several statements together. -/
def weightOfAll : List Statement → Nat
  | [] => 0
  | statement :: rest => statement.weight + weightOfAll rest

end

theorem weight_pos (statement : Statement) : 0 < statement.weight := by
  cases statement <;> simp only [weight] <;> omega

/-- The weight of several statements is the sum of their weights. -/
theorem weightOfAll_eq_sum (items : List Statement) :
    weightOfAll items = Whole.sum (items.map weight) := by
  induction items with
  | nil => simp [weightOfAll]
  | cons item rest ih => simp [weightOfAll, ih]

instance : Node Statement where
  typeName := typeName
  label := label
  weight := weight

end Statement

end Likeness
