import Likeness.Document.Datum
import Likeness.Syntax.Expression

/-!
# Syntax trees as documents

A node with parts is a record with one field, named for its kind, that holds the parts; a node
without parts is the name of its kind.
-/

namespace Likeness

/-- A record with one field. -/
def Datum.tagged (tag : String) (value : Datum) : Datum := .record [(tag, value)]

/-- A literal as a document. -/
def Literal.document : Literal → Datum
  | .string contents => .tagged "String" (.text contents)
  | .null => .text "Null"
  | .integer value long =>
    .tagged "Integer" (.record [("value", .integer value), ("is_long", .boolean long)])
  | .double value wide =>
    .tagged "Double" (.record [("value", .ofBinary64 value), ("is_double", .boolean wide)])
  | .char contents => .tagged "Char" (.text contents)
  | .boolean value => .tagged "Boolean" (.boolean value)

/-- The name of a variable as a document. -/
def Statement.referenceDocument (name : String) : Datum := .record [("name", .text name)]

mutual

/-- A statement as a document. -/
def Statement.document : Statement → Datum
  | .unary symbol operand =>
    .tagged "Operator" (.tagged "Unary"
      (.record [("symbol", .text symbol.name), ("operand", operand.document)]))
  | .binary symbol left right =>
    .tagged "Operator" (.tagged "Binary"
      (.record [("symbol", .text symbol.name), ("lhs", left.document), ("rhs", right.document)]))
  | .literal value => .tagged "Primitive" value.document
  | .reference name => .tagged "VariableReference" (Statement.referenceDocument name)
  | .group items =>
    .tagged "ParameterPassing" (.record [("parameters", .list (Statement.documents items))])

/-- Several statements as documents. -/
def Statement.documents : List Statement → List Datum
  | [] => []
  | statement :: rest => statement.document :: Statement.documents rest

end

/-- A parenthesised list as a document of its own. -/
def Statement.groupDocument (items : List Statement) : Datum :=
  .record [("parameters", .list (Statement.documents items))]

/-- A declaration as a document. -/
def Declaration.document (declaration : Declaration) : Datum :=
  .record
    [ ("qualifiers", .list (declaration.qualifiers.map fun qualifier => .text qualifier.name)),
      ("type_name", .text declaration.typeText),
      ("name", .text declaration.name),
      ("initializer", (declaration.initializer.map Statement.document).getD .null) ]

mutual

/-- An expression as a document. -/
def Expression.document : Expression → Datum
  | .empty => .text "Empty"
  | .declaration declared => .tagged "Declaration" declared.document
  | .block inner => .tagged "Block" inner.document
  | .statement value => .tagged "Statement" value.document

/-- A block as a document. -/
def Block.document : Block → Datum
  | .branch condition thenBody elseBody =>
    .tagged "If" (.record
      [ ("condition", condition.document),
        ("then_body", .list (Expression.documents thenBody)),
        ("else_body", .list (Expression.documents elseBody)) ])
  | .whileLoop condition body =>
    .tagged "While" (.record
      [("condition", condition.document), ("body", .list (Expression.documents body))])
  | .doWhileLoop condition body =>
    .tagged "DoWhile" (.record
      [("condition", condition.document), ("body", .list (Expression.documents body))])
  | .forLoop init condition iteration body =>
    .tagged "For" (.record
      [ ("init", init.document), ("condition", condition.document),
        ("iteration", iteration.document), ("body", .list (Expression.documents body)) ])
  | .guarded resources body handlers cleanup =>
    .tagged "TryCatchFinally" (.record
      [ ("resources", .list (resources.map Declaration.document)),
        ("try_block", .list (Expression.documents body)),
        ("catch_blocks", .list (CatchClause.documents handlers)),
        ("finally_block", Expression.optionalDocument cleanup) ])

/-- A catch clause as a document. -/
def CatchClause.document : CatchClause → Datum
  | ⟨exceptionTypes, binder, body⟩ =>
    .record
      [ ("exception_types", .list (exceptionTypes.map fun type => .text type.name)),
        ("variable", .text binder),
        ("body", .list (Expression.documents body)) ]

/-- The expressions of a body as documents. -/
def Expression.documents : List Expression → List Datum
  | [] => []
  | expression :: rest => expression.document :: Expression.documents rest

/-- Several catch clauses as documents. -/
def CatchClause.documents : List CatchClause → List Datum
  | [] => []
  | clause :: rest => clause.document :: CatchClause.documents rest

/-- A body that may be missing as a document. -/
def Expression.optionalDocument : Option (List Expression) → Datum
  | none => .null
  | some body => .list (Expression.documents body)

end

/-- A whole tree as a document. -/
def SyntaxTree.document (tree : SyntaxTree) : Datum :=
  .record [("expressions", .list (Expression.documents tree.expressions))]

end Likeness
