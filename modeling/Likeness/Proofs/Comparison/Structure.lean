import Likeness.Comparison.Compare
import Likeness.Proofs.Alignment
import Mathlib.Data.List.Basic

/-!
# The structure that comparisons follow

Statements hold lists of statements, and expressions hold blocks, clauses and lists of each other.
`Statement.induction` and `Expression.Hereditary` are the inductions over them, with a hypothesis for
every item of a list. The comparison of two lists inside a tree is the comparison of lists in
general, so `Block.against` is stated here once for each pair of kinds in terms of it.
-/

namespace Likeness

/-- What holds of a statement when it holds of its parts holds of every statement. -/
@[elab_as_elim]
theorem Statement.induction {motive : Statement → Prop}
    (unary : ∀ symbol operand, motive operand → motive (.unary symbol operand))
    (binary : ∀ symbol first second, motive first → motive second →
      motive (.binary symbol first second))
    (literal : ∀ value, motive (.literal value))
    (reference : ∀ name, motive (.reference name))
    (group : ∀ items, (∀ item ∈ items, motive item) → motive (.group items))
    (statement : Statement) : motive statement :=
  @Statement.rec motive (fun items => ∀ item ∈ items, motive item) unary binary literal reference
    group nofun (fun _ _ first rest => List.forall_mem_cons.2 ⟨first, rest⟩) statement

/-- Properties of expressions, blocks and catch clauses that each follow from the parts. -/
structure Expression.Hereditary (onExpression : Expression → Prop) (onBlock : Block → Prop)
    (onClause : CatchClause → Prop) : Prop where
  empty : onExpression .empty
  declaration : ∀ declared, onExpression (.declaration declared)
  statement : ∀ value, onExpression (.statement value)
  block : ∀ inner, onBlock inner → onExpression (.block inner)
  branch : ∀ condition thenBody elseBody, (∀ item ∈ thenBody, onExpression item) →
    (∀ item ∈ elseBody, onExpression item) → onBlock (.branch condition thenBody elseBody)
  whileLoop : ∀ condition body, (∀ item ∈ body, onExpression item) →
    onBlock (.whileLoop condition body)
  doWhileLoop : ∀ condition body, (∀ item ∈ body, onExpression item) →
    onBlock (.doWhileLoop condition body)
  forLoop : ∀ init condition iteration body, onExpression init → onExpression condition →
    onExpression iteration → (∀ item ∈ body, onExpression item) →
      onBlock (.forLoop init condition iteration body)
  guarded : ∀ resources body handlers cleanup, (∀ item ∈ body, onExpression item) →
    (∀ clause ∈ handlers, onClause clause ∧ ∀ item ∈ clause.body, onExpression item) →
      (∀ item ∈ cleanup.getD [], onExpression item) →
        onBlock (.guarded resources body handlers cleanup)
  clause : ∀ exceptionTypes binder body, (∀ item ∈ body, onExpression item) →
    onClause ⟨exceptionTypes, binder, body⟩

namespace Expression.Hereditary

variable {onExpression : Expression → Prop} {onBlock : Block → Prop} {onClause : CatchClause → Prop}

/-- A property that follows from the parts holds of every expression. -/
theorem expression (hereditary : Hereditary onExpression onBlock onClause)
    (expression : Expression) : onExpression expression :=
  -- A clause carries the property of its body along: blocks of other kinds look only at that.
  @Expression.rec onExpression onBlock
    (fun clause => onClause clause ∧ ∀ item ∈ clause.body, onExpression item)
    (fun body => ∀ item ∈ body, onExpression item)
    (fun clauses => ∀ clause ∈ clauses, onClause clause ∧ ∀ item ∈ clause.body, onExpression item)
    (fun body => ∀ item ∈ body.getD [], onExpression item) hereditary.empty hereditary.declaration
    hereditary.block hereditary.statement hereditary.branch hereditary.whileLoop
    hereditary.doWhileLoop hereditary.forLoop hereditary.guarded
    (fun exceptionTypes binder body items =>
      ⟨hereditary.clause exceptionTypes binder body items, items⟩) nofun
    (fun _ _ first rest => List.forall_mem_cons.2 ⟨first, rest⟩) nofun
    (fun _ _ first rest => List.forall_mem_cons.2 ⟨first, rest⟩) nofun (fun _ body => body)
    expression

/-- A property that follows from the parts holds of every catch clause. -/
theorem clauses (hereditary : Hereditary onExpression onBlock onClause) (clause : CatchClause) :
    onClause clause := by
  obtain ⟨exceptionTypes, binder, body⟩ := clause
  exact hereditary.clause exceptionTypes binder body fun item _ => hereditary.expression item

/-- A property that follows from the parts holds of every block. -/
theorem blocks (hereditary : Hereditary onExpression onBlock onClause) (block : Block) :
    onBlock block := by
  have items : ∀ (body : List Expression), ∀ item ∈ body, onExpression item := fun _ item _ =>
    hereditary.expression item
  cases block with
  | branch condition thenBody elseBody =>
    exact hereditary.branch _ _ _ (items thenBody) (items elseBody)
  | whileLoop condition body => exact hereditary.whileLoop _ _ (items body)
  | doWhileLoop condition body => exact hereditary.doWhileLoop _ _ (items body)
  | forLoop init condition iteration body =>
    exact hereditary.forLoop _ _ _ _ (hereditary.expression init) (hereditary.expression condition)
      (hereditary.expression iteration) (items body)
  | guarded resources body handlers cleanup =>
    exact hereditary.guarded _ _ _ _ (items body)
      (fun clause _ => ⟨hereditary.clauses clause, items clause.body⟩) (items (cleanup.getD []))

end Expression.Hereditary

/-! ## Comparisons of lists inside a tree -/

/-- Statements in parentheses are compared like any two lists. -/
theorem Statement.comparisons_eq (lefts rights : List Statement) :
    Statement.comparisons lefts rights = Alignment.comparisons Statement.against lefts rights := by
  induction lefts with
  | nil => rfl
  | cons left lefts ih => exact congrArg (List.cons _) ih

/-- Bodies are compared like any two lists. -/
theorem Expression.comparisons_eq (lefts rights : List Expression) :
    Expression.comparisons lefts rights = Alignment.comparisons Expression.against lefts rights := by
  induction lefts with
  | nil => rfl
  | cons left lefts ih => exact congrArg (List.cons _) ih

theorem Expression.gapsBy_comparisons (label : String) (lefts rights : List Expression) :
    Alignment.gapsBy label (Expression.comparisons lefts rights) rights =
      Alignment.gaps Expression.against label lefts rights := by
  rw [Expression.comparisons_eq]
  rfl

/-- Catch clauses are compared like any two lists. -/
theorem CatchClause.comparisons_eq (lefts rights : List CatchClause) :
    CatchClause.comparisons lefts rights =
      Alignment.comparisons CatchClause.against lefts rights := by
  induction lefts with
  | nil => rfl
  | cons left lefts ih => exact congrArg (List.cons _) ih

/-- A missing body is compared like an empty one. -/
theorem Expression.optionalComparisons_eq (left : Option (List Expression))
    (rights : List Expression) :
    Expression.optionalComparisons left rights =
      Alignment.comparisons Expression.against (left.getD []) rights := by
  cases left with
  | none => rfl
  | some body => exact Expression.comparisons_eq body rights

/-- How two bodies of blocks of different kinds are compared. -/
def Expression.bodyAgainst : List Expression → List Expression → Similarity :=
  Alignment.gaps Expression.against "body"

/-- The comparisons of a body to several others. -/
theorem Expression.bodyComparisons_eq (body : List Expression) (others : List (List Expression)) :
    Expression.bodyComparisons body (Expression.comparisons body) others =
      (body, others.map fun other => (other, Expression.bodyAgainst body other)) := by
  simp [Expression.bodyComparisons, Expression.bodyAgainst, Alignment.gaps,
    Expression.comparisons_eq]

/-- The comparisons of the only body of a block to several others. -/
theorem Expression.bodyComparisons_single (body : List Expression)
    (others : List (List Expression)) :
    [Expression.bodyComparisons body (Expression.comparisons body) others] =
      Alignment.comparisons Expression.bodyAgainst [body] others :=
  congrArg (fun first => [first]) (Expression.bodyComparisons_eq body others)

/-- The comparisons of the bodies of catch clauses to several others. -/
theorem CatchClause.bodyComparisons_eq (clauses : List CatchClause)
    (others : List (List Expression)) :
    CatchClause.bodyComparisons clauses others =
      Alignment.comparisons Expression.bodyAgainst (clauses.map CatchClause.body) others := by
  induction clauses with
  | nil => rfl
  | cons clause clauses ih =>
    obtain ⟨exceptionTypes, binder, body⟩ := clause
    exact congrArg₂ List.cons (Expression.bodyComparisons_eq body others) ih

/-- The comparisons of a body that may be missing to several others. -/
theorem Expression.optionalBodyComparisons_eq (body : Option (List Expression))
    (others : List (List Expression)) :
    Expression.optionalBodyComparisons body others =
      Alignment.comparisons Expression.bodyAgainst body.toList others := by
  cases body with
  | none => rfl
  | some body => exact Expression.bodyComparisons_single body others

/-- The comparisons of all bodies of a `try` to several others. -/
theorem Block.bodyComparisons_guarded (resources : List Declaration) (body : List Expression)
    (handlers : List CatchClause) (cleanup : Option (List Expression))
    (others : List (List Expression)) :
    Expression.bodyComparisons body (Expression.comparisons body) others
        :: (CatchClause.bodyComparisons handlers others
          ++ Expression.optionalBodyComparisons cleanup others) =
      Alignment.comparisons Expression.bodyAgainst
        (Block.guarded resources body handlers cleanup).bodies others := by
  rw [Expression.bodyComparisons_eq, CatchClause.bodyComparisons_eq,
    Expression.optionalBodyComparisons_eq, Alignment.comparisons, Alignment.comparisons,
    ← List.map_append]
  rfl

namespace Block

/-- Blocks of different kinds are compared through their conditions and bodies. -/
theorem against_of_keyword_ne {left right : Block} (different : left.keyword ≠ right.keyword) :
    left.against right = left.acrossKinds right
      (Alignment.comparisons Expression.bodyAgainst left.bodies right.bodies) := by
  cases left with
  | branch =>
    cases right with
    | branch => exact absurd rfl different
    | _ =>
      exact congrArg (Block.acrossKinds _ _) (congrArg₂ (fun first second => [first, second])
        (Expression.bodyComparisons_eq _ _) (Expression.bodyComparisons_eq _ _))
  | whileLoop =>
    cases right with
    | whileLoop => exact absurd rfl different
    | _ => exact congrArg (Block.acrossKinds _ _) (Expression.bodyComparisons_single _ _)
  | doWhileLoop =>
    cases right with
    | doWhileLoop => exact absurd rfl different
    | _ => exact congrArg (Block.acrossKinds _ _) (Expression.bodyComparisons_single _ _)
  | forLoop =>
    cases right with
    | forLoop => exact absurd rfl different
    | _ => exact congrArg (Block.acrossKinds _ _) (Expression.bodyComparisons_single _ _)
  | guarded =>
    cases right with
    | guarded => exact absurd rfl different
    | _ => exact congrArg (Block.acrossKinds _ _) (Block.bodyComparisons_guarded _ _ _ _ _)

/-- What holds in the body, the handlers and the cleanup of a `try` holds in all its bodies. -/
theorem forall_mem_bodies_guarded {property : Expression → Prop} {resources : List Declaration}
    {body : List Expression} {handlers : List CatchClause} {cleanup : Option (List Expression)}
    (inBody : ∀ item ∈ body, property item)
    (inHandlers : ∀ clause ∈ handlers, ∀ item ∈ clause.body, property item)
    (inCleanup : ∀ item ∈ cleanup.getD [], property item) :
    ∀ inner ∈ (Block.guarded resources body handlers cleanup).bodies, ∀ item ∈ inner,
      property item := by
  intro inner member
  rcases List.mem_cons.1 member with rfl | member
  · exact inBody
  rcases List.mem_append.1 member with member | member
  · obtain ⟨clause, handler, rfl⟩ := List.mem_map.1 member
    exact inHandlers clause handler
  · cases Option.mem_toList.1 member
    exact inCleanup

/-- Conditions are compared when both blocks have one. -/
def conditionsAgainst : Option Statement → Option Statement → Option Similarity
  | some left, some right => some (left.against right)
  | _, _ => none

/-- What is shown for a step of the alignment of bodies. -/
def bodyShown : AlignStep (List Expression) (List Expression) → Similarity
  | .pair _ _ similarity => similarity
  | .removed body => Similarity.add "body" (body.map .removed)
  | .inserted body => Similarity.add "body" (body.map .inserted)

/-- A body that is left out is shown as it is when it is compared with an empty one. -/
theorem bodyShown_eq (step : AlignStep (List Expression) (List Expression)) :
    bodyShown step =
      match step with
      | .pair _ _ similarity => similarity
      | .removed body => Expression.bodyAgainst body []
      | .inserted body => Expression.bodyAgainst [] body := by
  cases step with
  | pair => rfl
  | removed body =>
    show _ = Similarity.add "body" ((Alignment.align Expression.against body []).map Alignment.listed)
    rw [Alignment.align_nil_right, List.map_map]
    rfl
  | inserted body =>
    show _ = Similarity.add "body" ((Alignment.align Expression.against [] body).map Alignment.listed)
    rw [Alignment.align_nil_left, List.map_map]
    rfl

/-- The parts that can match of blocks of different kinds: conditions and bodies. -/
def sharedParts (left right : Block) : List Similarity :=
  (conditionsAgainst left.condition right.condition).toList
    ++ [Similarity.add "bodies"
      ((Alignment.align Expression.bodyAgainst left.bodies right.bodies).map bodyShown)]

/-- The comparison of blocks of different kinds is that of their keywords, which differ, and of the
parts that can match; the rest is unmatched. -/
theorem acrossKinds_eq (left right : Block) :
    left.acrossKinds right
        (Alignment.comparisons Expression.bodyAgainst left.bodies right.bodies) =
      ((Similarity.add left.typeName
        (Similarity.leaf (left.keyword ++ " / " ++ right.keyword) false
          :: sharedParts left right)).withUnmatched
        ((left.weight
            - left.coveredWeight (conditionsAgainst left.condition right.condition).isSome)
          + (right.weight
            - right.coveredWeight (conditionsAgainst left.condition right.condition).isSome))).between
        left right := rfl

/-- Two `if` blocks are compared part by part. -/
theorem against_branch (condition condition' : Statement)
    (thenBody elseBody thenBody' elseBody' : List Expression) :
    (Block.branch condition thenBody elseBody).against (.branch condition' thenBody' elseBody') =
      (Block.branch condition thenBody elseBody).sameKind (.branch condition' thenBody' elseBody')
        [ condition.against condition', Alignment.gaps Expression.against "then" thenBody thenBody',
          Alignment.gaps Expression.against "else" elseBody elseBody' ] := by
  rw [← Expression.gapsBy_comparisons, ← Expression.gapsBy_comparisons]
  rfl

/-- Two `while` blocks are compared part by part. -/
theorem against_whileLoop (condition condition' : Statement) (body body' : List Expression) :
    (Block.whileLoop condition body).against (.whileLoop condition' body') =
      (Block.whileLoop condition body).sameKind (.whileLoop condition' body')
        [condition.against condition', Alignment.gaps Expression.against "body" body body'] := by
  rw [← Expression.gapsBy_comparisons]
  rfl

/-- Two `do` blocks are compared part by part. -/
theorem against_doWhileLoop (condition condition' : Statement) (body body' : List Expression) :
    (Block.doWhileLoop condition body).against (.doWhileLoop condition' body') =
      (Block.doWhileLoop condition body).sameKind (.doWhileLoop condition' body')
        [condition.against condition', Alignment.gaps Expression.against "body" body body'] := by
  rw [← Expression.gapsBy_comparisons]
  rfl

/-- Two `for` blocks are compared part by part. -/
theorem against_forLoop (init condition iteration init' condition' iteration' : Expression)
    (body body' : List Expression) :
    (Block.forLoop init condition iteration body).against
        (.forLoop init' condition' iteration' body') =
      (Block.forLoop init condition iteration body).sameKind
        (.forLoop init' condition' iteration' body')
        [ init.against init', condition.against condition', iteration.against iteration',
          Alignment.gaps Expression.against "body" body body' ] := by
  rw [← Expression.gapsBy_comparisons]
  rfl

/-- Two `try` blocks are compared part by part. -/
theorem against_guarded (resources resources' : List Declaration) (body body' : List Expression)
    (handlers handlers' : List CatchClause) (cleanup cleanup' : Option (List Expression)) :
    (Block.guarded resources body handlers cleanup).against
        (.guarded resources' body' handlers' cleanup') =
      (Block.guarded resources body handlers cleanup).sameKind
        (.guarded resources' body' handlers' cleanup')
        [ Alignment.ordered Declaration.against "resources" resources resources',
          Alignment.gaps Expression.against "try" body body',
          Alignment.ordered CatchClause.against "catches" handlers handlers',
          Alignment.gaps Expression.against "finally" (cleanup.getD []) (cleanup'.getD []) ] := by
  rw [← Expression.gapsBy_comparisons, Alignment.ordered, Alignment.ordered,
    ← CatchClause.comparisons_eq, Alignment.gaps, ← Expression.optionalComparisons_eq]
  rfl

end Block

/-- Two catch clauses are compared part by part. -/
theorem CatchClause.against_eq (left right : CatchClause) :
    left.against right =
      (Similarity.add "CatchClause"
        [ Assignment.unordered Identifier.against "exception types" left.exceptionTypes
            right.exceptionTypes,
          Similarity.leaf "variable" (left.binder = right.binder),
          Alignment.gaps Expression.against "catch" left.body right.body ]).between left right := by
  obtain ⟨exceptionTypes, binder, body⟩ := left
  rw [← Expression.gapsBy_comparisons]
  rfl

end Likeness
