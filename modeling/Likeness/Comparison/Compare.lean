import Likeness.Comparison.Alignment
import Likeness.Comparison.Assignment
import Likeness.Syntax.Expression

/-!
# Comparing syntax trees

Two nodes are compared part by part when they are of one kind; otherwise nothing of them matches.
Blocks are the exception: an `if` and a `while` are compared through their conditions and bodies and
match in part. Bodies are aligned in order, qualifiers and exception types are sets.
-/

namespace Likeness

/-- Compare two names. -/
def Identifier.against (left right : Identifier) : Similarity :=
  (Similarity.leaf "Identifier" (left = right)).between left right

/-- Compare two qualifiers. -/
def Qualifier.against (left right : Qualifier) : Similarity :=
  (Similarity.leaf "Qualifier" (left = right)).between left right

/-- Compare two literals. -/
def Literal.against (left right : Literal) : Similarity :=
  if left.sameKind right then (Similarity.leaf left.typeName (left.same right)).between left right
  else .mismatch left right

namespace Statement

mutual

/-- Compare two statements. -/
def against : Statement → Statement → Similarity
  | .unary symbol operand, right =>
    let left := Statement.unary symbol operand
    match right with
    | .unary symbol' operand' =>
      if symbol = symbol' then
        (Similarity.add left.typeName
          [Similarity.leaf "operator" true, operand.against operand']).between left right
      else .mismatch left right
    | _ => .mismatch left right
  | .binary symbol first second, right =>
    let left := Statement.binary symbol first second
    match right with
    | .binary symbol' first' second' =>
      if symbol = symbol' then
        (Similarity.add left.typeName
          [Similarity.leaf "operator" true, first.against first',
            second.against second']).between left right
      else .mismatch left right
    | _ => .mismatch left right
  | .literal value, right =>
    match right with
    | .literal value' => value.against value'
    | _ => .mismatch (Statement.literal value) right
  | .reference name, right =>
    let left := Statement.reference name
    match right with
    | .reference name' =>
      (Similarity.leaf left.typeName (name = name')).between left right
    | _ => .mismatch left right
  | .group items, right =>
    let left := Statement.group items
    match right with
    | .group items' =>
      (Similarity.add left.typeName
        [Similarity.leaf "parentheses" true,
          Alignment.orderedBy "parameters" (comparisons items items') items']).between left right
    | _ => .mismatch left right

/-- All comparisons between two lists of statements. -/
def comparisons : List Statement → List Statement →
    List (Statement × List (Statement × Similarity))
  | [], _ => []
  | left :: rest, rights =>
    (left, rights.map fun right => (right, left.against right)) :: comparisons rest rights

end

end Statement

/-- Compare two parts that may be missing; a part on one side only is a gap. -/
def optionalAgainst {α : Type} [Node α] (against : α → α → Similarity) :
    Option α → Option α → Option Similarity
  | some left, some right => some (against left right)
  | some left, none => some (.removed left)
  | none, some right => some (.inserted right)
  | none, none => none

/-- Compare two declarations. Type and name count as one. -/
def Declaration.against (left right : Declaration) : Similarity :=
  (Similarity.add "VariableDeclaration"
    ([ Assignment.unordered Qualifier.against "qualifiers" left.qualifiers right.qualifiers,
       Similarity.leaf "name" (left.typeText = right.typeText && left.name = right.name) ]
      ++ (optionalAgainst Statement.against left.initializer right.initializer).toList)).between
    left right

/-- The weight that a comparison of blocks of different kinds accounts for: keyword, condition and
bodies. -/
def Block.coveredWeight (block : Block) (withCondition : Bool) : Nat :=
  1 + (if withCondition then (block.condition.map Statement.weight).getD 0 else 0)
    + Whole.sum (block.bodies.map Expression.weightOfAll)

/-- Compare two blocks of different kinds, given the comparisons between their bodies: conditions
and bodies are compared, and everything else of both is unmatched. -/
def Block.acrossKinds (left right : Block)
    (bodies : List (List Expression × List (List Expression × Similarity))) : Similarity :=
  let conditions :=
    match left.condition, right.condition with
    | some condition, some condition' => some (condition.against condition')
    | _, _ => none
  let bodies := (Alignment.steps bodies right.bodies).map fun step =>
    match step with
    | .pair _ _ similarity => similarity
    | .removed body => Similarity.add "body" (body.map .removed)
    | .inserted body => Similarity.add "body" (body.map .inserted)
  let uncovered := (left.weight - left.coveredWeight conditions.isSome)
    + (right.weight - right.coveredWeight conditions.isSome)
  ((Similarity.add left.typeName
    (Similarity.leaf (left.keyword ++ " / " ++ right.keyword) false :: conditions.toList
      ++ [Similarity.add "bodies" bodies])).withUnmatched uncovered).between left right

/-- The result of two blocks of one kind from the results of their parts. -/
def Block.sameKind (left right : Block) (parts : List Similarity) : Similarity :=
  (Similarity.add left.typeName (Similarity.leaf left.keyword true :: parts)).between left right

/-- A body with its comparisons to each of several others, given how its items compare to those of
another body. -/
def Expression.bodyComparisons (body : List Expression)
    (table : List Expression → List (Expression × List (Expression × Similarity)))
    (others : List (List Expression)) : List Expression × List (List Expression × Similarity) :=
  (body, others.map fun other => (other, Alignment.gapsBy "body" (table other) other))

mutual

/-- Compare two expressions. -/
def Expression.against : Expression → Expression → Similarity
  | .empty, right =>
    match right with
    | .empty => (Similarity.leaf "EmptyExpression" true).between Expression.empty right
    | _ => .mismatch Expression.empty right
  | .declaration declared, right =>
    match right with
    | .declaration declared' => declared.against declared'
    | _ => .mismatch (Expression.declaration declared) right
  | .block inner, right =>
    match right with
    | .block inner' => inner.against inner'
    | _ => .mismatch (Expression.block inner) right
  | .statement value, right =>
    match right with
    | .statement value' => value.against value'
    | _ => .mismatch (Expression.statement value) right
termination_by structural left => left

/-- Compare two blocks. -/
def Block.against : Block → Block → Similarity
  | .branch condition thenBody elseBody, right =>
    let left := Block.branch condition thenBody elseBody
    match right with
    | .branch condition' thenBody' elseBody' =>
      left.sameKind right
        [ condition.against condition',
          Alignment.gapsBy "then" (Expression.comparisons thenBody thenBody') thenBody',
          Alignment.gapsBy "else" (Expression.comparisons elseBody elseBody') elseBody' ]
    | _ =>
      left.acrossKinds right
        [ Expression.bodyComparisons thenBody (Expression.comparisons thenBody) right.bodies,
          Expression.bodyComparisons elseBody (Expression.comparisons elseBody) right.bodies ]
  | .whileLoop condition body, right =>
    let left := Block.whileLoop condition body
    match right with
    | .whileLoop condition' body' =>
      left.sameKind right
        [ condition.against condition',
          Alignment.gapsBy "body" (Expression.comparisons body body') body' ]
    | _ =>
      left.acrossKinds right
        [Expression.bodyComparisons body (Expression.comparisons body) right.bodies]
  | .doWhileLoop condition body, right =>
    let left := Block.doWhileLoop condition body
    match right with
    | .doWhileLoop condition' body' =>
      left.sameKind right
        [ condition.against condition',
          Alignment.gapsBy "body" (Expression.comparisons body body') body' ]
    | _ =>
      left.acrossKinds right
        [Expression.bodyComparisons body (Expression.comparisons body) right.bodies]
  | .forLoop init condition iteration body, right =>
    let left := Block.forLoop init condition iteration body
    match right with
    | .forLoop init' condition' iteration' body' =>
      left.sameKind right
        [ init.against init', condition.against condition', iteration.against iteration',
          Alignment.gapsBy "body" (Expression.comparisons body body') body' ]
    | _ =>
      left.acrossKinds right
        [Expression.bodyComparisons body (Expression.comparisons body) right.bodies]
  | .guarded resources body handlers cleanup, right =>
    let left := Block.guarded resources body handlers cleanup
    match right with
    | .guarded resources' body' handlers' cleanup' =>
      left.sameKind right
        [ Alignment.ordered Declaration.against "resources" resources resources',
          Alignment.gapsBy "try" (Expression.comparisons body body') body',
          Alignment.orderedBy "catches" (CatchClause.comparisons handlers handlers') handlers',
          Alignment.gapsBy "finally"
            (Expression.optionalComparisons cleanup (cleanup'.getD [])) (cleanup'.getD []) ]
    | _ =>
      left.acrossKinds right
        (Expression.bodyComparisons body (Expression.comparisons body) right.bodies
          :: (CatchClause.bodyComparisons handlers right.bodies
            ++ Expression.optionalBodyComparisons cleanup right.bodies))
termination_by structural left => left

/-- Compare two catch clauses. -/
def CatchClause.against : CatchClause → CatchClause → Similarity
  | ⟨exceptionTypes, binder, body⟩, right =>
    (Similarity.add "CatchClause"
      [ Assignment.unordered Identifier.against "exception types" exceptionTypes
          right.exceptionTypes,
        Similarity.leaf "variable" (binder = right.binder),
        Alignment.gapsBy "catch" (Expression.comparisons body right.body) right.body ]).between
      (CatchClause.mk exceptionTypes binder body) right
termination_by structural left => left

/-- All comparisons between two bodies. -/
def Expression.comparisons : List Expression → List Expression →
    List (Expression × List (Expression × Similarity))
  | [], _ => []
  | left :: rest, rights =>
    (left, rights.map fun right => (right, left.against right))
      :: Expression.comparisons rest rights
termination_by structural left => left

/-- All comparisons between two lists of catch clauses. -/
def CatchClause.comparisons : List CatchClause → List CatchClause →
    List (CatchClause × List (CatchClause × Similarity))
  | [], _ => []
  | left :: rest, rights =>
    (left, rights.map fun right => (right, left.against right))
      :: CatchClause.comparisons rest rights
termination_by structural left => left

/-- All comparisons between a body that may be missing and another. -/
def Expression.optionalComparisons : Option (List Expression) → List Expression →
    List (Expression × List (Expression × Similarity))
  | none, _ => []
  | some body, rights => Expression.comparisons body rights
termination_by structural left => left

/-- The comparisons of the bodies of catch clauses to each of several bodies. -/
def CatchClause.bodyComparisons : List CatchClause → List (List Expression) →
    List (List Expression × List (List Expression × Similarity))
  | [], _ => []
  | ⟨_, _, body⟩ :: rest, others =>
    Expression.bodyComparisons body (Expression.comparisons body) others
      :: CatchClause.bodyComparisons rest others
termination_by structural left => left

/-- The comparisons of a body that may be missing to each of several bodies. -/
def Expression.optionalBodyComparisons : Option (List Expression) → List (List Expression) →
    List (List Expression × List (List Expression × Similarity))
  | none, _ => []
  | some body, others => [Expression.bodyComparisons body (Expression.comparisons body) others]
termination_by structural left => left

end

/-- Compare two whole trees: their expressions are aligned in order. -/
def compare (left right : SyntaxTree) : Similarity :=
  Alignment.gaps Expression.against "file" left.expressions right.expressions

end Likeness
