import Likeness.Syntax.Declaration

/-!
# Expressions, blocks and whole trees

An expression is anything that can stand in a body: a declaration, a statement, a control-flow block
or a lone semicolon. Blocks hold bodies, which are lists of expressions, and so on down.
-/

namespace Likeness

mutual

/-- Anything that can stand in a body. A lone semicolon, and a clause of a `for` header that is left
out, is `empty`. -/
inductive Expression where
  | empty
  | declaration (declared : Declaration)
  | block (inner : Block)
  | statement (value : Statement)
deriving Repr

/-- A control-flow block. An `if` without `else` has an empty second body. -/
inductive Block where
  | branch (condition : Statement) (thenBody elseBody : List Expression)
  | whileLoop (condition : Statement) (body : List Expression)
  | doWhileLoop (condition : Statement) (body : List Expression)
  | forLoop (init condition iteration : Expression) (body : List Expression)
  | guarded (resources : List Declaration) (body : List Expression)
      (handlers : List CatchClause) (cleanup : Option (List Expression))
deriving Repr

/-- One `catch` with the types it stands for, the variable it binds and its body. -/
structure CatchClause where
  exceptionTypes : List Identifier
  binder : String
  body : List Expression
deriving Repr

end

/-- A whole source text. -/
structure SyntaxTree where
  expressions : List Expression
deriving Repr

namespace Block

/-- The word that a block starts with. -/
def keyword : Block → String
  | .branch .. => "if"
  | .whileLoop .. => "while"
  | .doWhileLoop .. => "do"
  | .forLoop .. => "for"
  | .guarded .. => "try"

/-- The name of the block's type in listings. -/
def typeName : Block → String
  | .branch .. => "If"
  | .whileLoop .. => "While"
  | .doWhileLoop .. => "DoWhile"
  | .forLoop .. => "For"
  | .guarded .. => "TryCatchFinally"

/-- The condition that controls the block, when it has one as a statement. -/
def condition : Block → Option Statement
  | .branch condition _ _ => some condition
  | .whileLoop condition _ => some condition
  | .doWhileLoop condition _ => some condition
  | .forLoop _ (.statement condition) _ _ => some condition
  | .forLoop .. => none
  | .guarded .. => none

/-- Every body that the block owns, in source order. -/
def bodies : Block → List (List Expression)
  | .branch _ thenBody elseBody => [thenBody, elseBody]
  | .whileLoop _ body => [body]
  | .doWhileLoop _ body => [body]
  | .forLoop _ _ _ body => [body]
  | .guarded _ body handlers cleanup =>
    body :: (handlers.map CatchClause.body ++ cleanup.toList)

end Block

mutual

/-- The header line of a block, without its bodies. -/
def Block.label : Block → String
  | .branch condition _ _ => "if (" ++ condition.label ++ ")"
  | .whileLoop condition _ => "while (" ++ condition.label ++ ")"
  | .doWhileLoop condition _ => "do … while (" ++ condition.label ++ ")"
  | .forLoop init condition iteration _ =>
    "for (" ++ init.clauseText ++ "; " ++ condition.clauseText ++ "; " ++ iteration.clauseText
      ++ ")"
  | .guarded [] _ _ _ => "try"
  | .guarded resources _ _ _ =>
    "try (" ++ String.intercalate "; " (resources.map Declaration.label) ++ ")"

/-- The text of a clause in a `for` header. -/
def Expression.clauseText : Expression → String
  | .empty => ""
  | .declaration declared => declared.label
  | .block inner => inner.label
  | .statement value => value.label

end

/-- The header of a catch clause. -/
def CatchClause.label (clause : CatchClause) : String :=
  "catch (" ++ String.intercalate " | " (clause.exceptionTypes.map Identifier.name) ++ " "
    ++ clause.binder ++ ")"

/-- The name of the expression's type in listings. -/
def Expression.typeName : Expression → String
  | .empty => "EmptyExpression"
  | .declaration _ => "VariableDeclaration"
  | .block inner => inner.typeName
  | .statement value => value.typeName

/-- The expression on one line, without the semicolon that closes it. -/
def Expression.label : Expression → String
  | .empty => ";"
  | .declaration declared => declared.label
  | .block inner => inner.label
  | .statement value => value.label

/-- The expression on one line; declarations and statements end in their semicolon. -/
def Expression.text : Expression → String
  | .empty => ";"
  | .declaration declared => declared.label ++ ";"
  | .block inner => inner.label
  | .statement value => value.label ++ ";"

mutual

/-- A lone semicolon weighs one, any other expression as much as what it holds. -/
def Expression.weight : Expression → Nat
  | .empty => 1
  | .declaration declared => declared.weight
  | .block inner => inner.weight
  | .statement value => value.weight

/-- A block weighs one for its keyword and as much as all its parts. -/
def Block.weight : Block → Nat
  | .branch condition thenBody elseBody =>
    1 + (condition.weight + Expression.weightOfAll thenBody + Expression.weightOfAll elseBody)
  | .whileLoop condition body => 1 + (condition.weight + Expression.weightOfAll body)
  | .doWhileLoop condition body => 1 + (condition.weight + Expression.weightOfAll body)
  | .forLoop init condition iteration body =>
    1 + (init.weight + condition.weight + iteration.weight + Expression.weightOfAll body)
  | .guarded resources body handlers cleanup =>
    1 + (totalWeight resources + Expression.weightOfAll body + CatchClause.weightOfAll handlers
      + Expression.weightOfOptional cleanup)

/-- A catch clause weighs one for each type, one for its variable, and its body. -/
def CatchClause.weight : CatchClause → Nat
  | ⟨exceptionTypes, _, body⟩ => exceptionTypes.length + 1 + Expression.weightOfAll body

/-- The weight of a body. -/
def Expression.weightOfAll : List Expression → Nat
  | [] => 0
  | expression :: rest => expression.weight + Expression.weightOfAll rest

/-- The weight of several catch clauses together. -/
def CatchClause.weightOfAll : List CatchClause → Nat
  | [] => 0
  | clause :: rest => clause.weight + CatchClause.weightOfAll rest

/-- The weight of a body that may be absent. -/
def Expression.weightOfOptional : Option (List Expression) → Nat
  | none => 0
  | some body => Expression.weightOfAll body

end

theorem Block.weight_pos (block : Block) : 0 < block.weight := by
  cases block <;> simp only [Block.weight] <;> omega

/-- A catch clause weighs at least one. -/
theorem CatchClause.weight_pos (clause : CatchClause) : 0 < clause.weight := by
  cases clause
  simp only [CatchClause.weight]
  omega

/-- An expression weighs at least one. -/
theorem Expression.weight_pos (expression : Expression) : 0 < expression.weight := by
  cases expression with
  | empty => simp [Expression.weight]
  | declaration declared => simpa [Expression.weight] using declared.weight_pos
  | block inner => simpa [Expression.weight] using inner.weight_pos
  | statement value => simpa [Expression.weight] using value.weight_pos

/-- The weight of a body is the sum of the weights of its expressions. -/
theorem Expression.weightOfAll_eq_sum (body : List Expression) :
    Expression.weightOfAll body = Whole.sum (body.map Expression.weight) := by
  induction body with
  | nil => simp [Expression.weightOfAll]
  | cons expression rest ih => simp [Expression.weightOfAll, ih]

/-- The weight of several catch clauses is the sum of their weights. -/
theorem CatchClause.weightOfAll_eq_sum (clauses : List CatchClause) :
    CatchClause.weightOfAll clauses = Whole.sum (clauses.map CatchClause.weight) := by
  induction clauses with
  | nil => simp [CatchClause.weightOfAll]
  | cons clause rest ih => simp [CatchClause.weightOfAll, ih]

instance : Node Block where
  typeName := Block.typeName
  label := Block.label
  weight := Block.weight

instance : Node CatchClause where
  typeName _ := "CatchClause"
  label := CatchClause.label
  weight := CatchClause.weight

instance : Node Expression where
  typeName := Expression.typeName
  label := Expression.label
  weight := Expression.weight

namespace SyntaxTree

/-- A tree weighs as much as its expressions together. -/
def weight (tree : SyntaxTree) : Nat := Expression.weightOfAll tree.expressions

/-- How many expressions the tree holds. -/
def label (tree : SyntaxTree) : String :=
  toString tree.expressions.length ++ " top-level expressions"

instance : Node SyntaxTree where
  typeName _ := "SyntaxTree"
  label := label
  weight := weight

end SyntaxTree

end Likeness
