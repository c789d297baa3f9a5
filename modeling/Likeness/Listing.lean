import Likeness.Syntax.Expression
import Likeness.Text.Cut

/-!
# The indented listing of a tree

One line for each node, with its type and its label cut to thirty characters, behind lines that
connect it to its parent and its siblings. The body of a block is a node of its own, named for the
part of the block that it is.
-/

namespace Likeness

/-- A node of a listing with the nodes below it. -/
inductive ListingNode where
  | node (typeName label : String) (children : List ListingNode)
deriving Repr

namespace Listing

/-- The number of characters that a label is cut to. -/
def labelWidth : Nat := 30

mutual

/-- A statement as a node of a listing. -/
def ofStatement : Statement → ListingNode
  | .unary symbol operand =>
    .node symbol.name (Statement.unary symbol operand).label [ofStatement operand]
  | .binary symbol left right =>
    .node symbol.name (Statement.binary symbol left right).label
      [ofStatement left, ofStatement right]
  | .literal value => .node value.typeName value.label []
  | .reference name => .node "VariableReference" name []
  | .group items => .node "ParameterPassing" (Statement.group items).label (ofStatements items)

/-- Statements as nodes of a listing. -/
def ofStatements : List Statement → List ListingNode
  | [] => []
  | statement :: rest => ofStatement statement :: ofStatements rest

end

/-- A declaration as a node of a listing. -/
def ofDeclaration (declaration : Declaration) : ListingNode :=
  .node "VariableDeclaration" declaration.label
    (declaration.initializer.toList.map ofStatement)

mutual

/-- An expression as a node of a listing. -/
def ofExpression : Expression → ListingNode
  | .empty => .node "EmptyExpression" ";" []
  | .declaration declared => ofDeclaration declared
  | .block inner => .node inner.typeName inner.label (ofBlock inner)
  | .statement value => ofStatement value

/-- The parts of a block as nodes of a listing. -/
def ofBlock : Block → List ListingNode
  | .branch condition thenBody elseBody =>
    [ofStatement condition, .node "Body" "then" (ofExpressions thenBody)]
      ++ (if elseBody.isEmpty then [] else [.node "Body" "else" (ofExpressions elseBody)])
  | .whileLoop condition body =>
    [ofStatement condition, .node "Body" "body" (ofExpressions body)]
  | .doWhileLoop condition body =>
    [ofStatement condition, .node "Body" "body" (ofExpressions body)]
  | .forLoop init condition iteration body =>
    [ ofExpression init, ofExpression condition, ofExpression iteration,
      .node "Body" "body" (ofExpressions body) ]
  | .guarded resources body handlers cleanup =>
    resources.map ofDeclaration ++ .node "Body" "try" (ofExpressions body)
      :: (ofClauses handlers ++ ofCleanup cleanup)

/-- A catch clause as a node of a listing. -/
def ofClause : CatchClause → ListingNode
  | ⟨exceptionTypes, binder, body⟩ =>
    .node "CatchClause" (CatchClause.mk exceptionTypes binder body).label (ofExpressions body)

/-- The expressions of a body as nodes of a listing. -/
def ofExpressions : List Expression → List ListingNode
  | [] => []
  | expression :: rest => ofExpression expression :: ofExpressions rest

/-- Catch clauses as nodes of a listing. -/
def ofClauses : List CatchClause → List ListingNode
  | [] => []
  | clause :: rest => ofClause clause :: ofClauses rest

/-- The `finally` of a block as a node of a listing, if there is one. -/
def ofCleanup : Option (List Expression) → List ListingNode
  | none => []
  | some body => [.node "Body" "finally" (ofExpressions body)]

end

mutual

/-- The line of a node and those of the nodes below it. `margin` connects the siblings of its
ancestors, and a last child is connected by a corner. -/
def renderNode (margin : String) (last : Bool) : ListingNode → String
  | .node typeName label children =>
    margin ++ (if last then "└─" else "├─") ++ " " ++ typeName ++ ": "
      ++ Text.cutWithMark labelWidth "..." label ++ "\n"
      ++ renderNodes (margin ++ (if last then "  " else "│ ")) children

/-- The lines of siblings. -/
def renderNodes (margin : String) : List ListingNode → String
  | [] => ""
  | node :: rest => renderNode margin rest.isEmpty node ++ renderNodes margin rest

end

/-- The listing of a whole tree. -/
def render (tree : SyntaxTree) : String := renderNodes "" (ofExpressions tree.expressions)

end Listing

end Likeness
