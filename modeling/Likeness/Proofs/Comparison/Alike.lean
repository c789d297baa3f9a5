import Likeness.Proofs.Comparison.Structure
import Mathlib.Data.List.Forall2

/-!
# Trees that are equal node for node

`Alike` relates two trees that differ in nothing but this: literals may be related by any relation
`same`, qualifiers and exception types may stand in another order, and a missing `finally` may stand
for an empty one. A tree is alike to itself when each of its literals is the same as itself.
-/

namespace Likeness

section Alike

variable (same : Literal → Literal → Prop)

/-- Statements that are equal up to their literals. -/
inductive Statement.Alike : Statement → Statement → Prop where
  | unary {operand operand'} (symbol : UnarySymbol) (inner : Statement.Alike operand operand') :
      Statement.Alike (.unary symbol operand) (.unary symbol operand')
  | binary {first first' second second'} (symbol : BinarySymbol)
      (onFirst : Statement.Alike first first') (onSecond : Statement.Alike second second') :
      Statement.Alike (.binary symbol first second) (.binary symbol first' second')
  | literal {value value'} (equal : same value value') :
      Statement.Alike (.literal value) (.literal value')
  | reference (name : String) : Statement.Alike (.reference name) (.reference name)
  | group {items items'} (inner : List.Forall₂ Statement.Alike items items') :
      Statement.Alike (.group items) (.group items')

/-- Declarations of one variable, with their qualifiers in any order. -/
structure Declaration.Alike (left right : Declaration) : Prop where
  qualifiers : left.qualifiers.Perm right.qualifiers
  typeText : left.typeText = right.typeText
  name : left.name = right.name
  initializer : Option.Rel (Statement.Alike same) left.initializer right.initializer

mutual

/-- Expressions of one kind with parts that are alike. -/
inductive Expression.Alike : Expression → Expression → Prop where
  | empty : Expression.Alike .empty .empty
  | declaration {declared declared'} (inner : Declaration.Alike same declared declared') :
      Expression.Alike (.declaration declared) (.declaration declared')
  | block {inner inner'} (blocks : Block.Alike inner inner') :
      Expression.Alike (.block inner) (.block inner')
  | statement {value value'} (inner : Statement.Alike same value value') :
      Expression.Alike (.statement value) (.statement value')

/-- Blocks of one kind with parts that are alike. -/
inductive Block.Alike : Block → Block → Prop where
  | branch {condition condition' thenBody thenBody' elseBody elseBody'}
      (conditions : Statement.Alike same condition condition')
      (thenBodies : List.Forall₂ Expression.Alike thenBody thenBody')
      (elseBodies : List.Forall₂ Expression.Alike elseBody elseBody') :
      Block.Alike (.branch condition thenBody elseBody) (.branch condition' thenBody' elseBody')
  | whileLoop {condition condition' body body'}
      (conditions : Statement.Alike same condition condition')
      (bodies : List.Forall₂ Expression.Alike body body') :
      Block.Alike (.whileLoop condition body) (.whileLoop condition' body')
  | doWhileLoop {condition condition' body body'}
      (conditions : Statement.Alike same condition condition')
      (bodies : List.Forall₂ Expression.Alike body body') :
      Block.Alike (.doWhileLoop condition body) (.doWhileLoop condition' body')
  | forLoop {init init' condition condition' iteration iteration' body body'}
      (inits : Expression.Alike init init') (conditions : Expression.Alike condition condition')
      (iterations : Expression.Alike iteration iteration')
      (bodies : List.Forall₂ Expression.Alike body body') :
      Block.Alike (.forLoop init condition iteration body)
        (.forLoop init' condition' iteration' body')
  | guarded {resources resources' body body' handlers handlers'}
      {cleanup cleanup' : Option (List Expression)}
      (opened : List.Forall₂ (Declaration.Alike same) resources resources')
      (bodies : List.Forall₂ Expression.Alike body body')
      (clauses : List.Forall₂ CatchClause.Alike handlers handlers')
      (cleanups : List.Forall₂ Expression.Alike (cleanup.getD []) (cleanup'.getD [])) :
      Block.Alike (.guarded resources body handlers cleanup)
        (.guarded resources' body' handlers' cleanup')

/-- Catch clauses of the same variable, with their exception types in any order. -/
inductive CatchClause.Alike : CatchClause → CatchClause → Prop where
  | clause {exceptionTypes exceptionTypes' body body'} (binder : String)
      (types : exceptionTypes.Perm exceptionTypes')
      (bodies : List.Forall₂ Expression.Alike body body') :
      CatchClause.Alike ⟨exceptionTypes, binder, body⟩ ⟨exceptionTypes', binder, body'⟩

end

/-- Trees whose expressions are alike, one after the other. -/
def SyntaxTree.Alike (left right : SyntaxTree) : Prop :=
  List.Forall₂ (Expression.Alike same) left.expressions right.expressions

end Alike

/-! ## The literals of a tree -/

namespace Statement

mutual

/-- The literals of a statement in the order in which they are written. -/
def literals : Statement → List Literal
  | .unary _ operand => operand.literals
  | .binary _ first second => first.literals ++ second.literals
  | .literal value => [value]
  | .reference _ => []
  | .group items => literalsOfAll items

/-- The literals of several statements. -/
def literalsOfAll : List Statement → List Literal
  | [] => []
  | statement :: rest => statement.literals ++ literalsOfAll rest

end

end Statement

/-- The literals of a declaration are those of its initial value. -/
def Declaration.literals (declared : Declaration) : List Literal :=
  (declared.initializer.map Statement.literals).getD []

mutual

/-- The literals of an expression. -/
def Expression.literals : Expression → List Literal
  | .empty => []
  | .declaration declared => declared.literals
  | .block inner => inner.literals
  | .statement value => value.literals

/-- The literals of a block; a `do` has its condition behind its body. -/
def Block.literals : Block → List Literal
  | .branch condition thenBody elseBody =>
    condition.literals ++ Expression.literalsOfAll thenBody ++ Expression.literalsOfAll elseBody
  | .whileLoop condition body => condition.literals ++ Expression.literalsOfAll body
  | .doWhileLoop condition body => Expression.literalsOfAll body ++ condition.literals
  | .forLoop init condition iteration body =>
    init.literals ++ condition.literals ++ iteration.literals ++ Expression.literalsOfAll body
  | .guarded resources body handlers cleanup =>
    resources.flatMap Declaration.literals ++ Expression.literalsOfAll body
      ++ CatchClause.literalsOfAll handlers ++ Expression.literalsOfOptional cleanup

/-- The literals of a catch clause. -/
def CatchClause.literals : CatchClause → List Literal
  | ⟨_, _, body⟩ => Expression.literalsOfAll body

/-- The literals of several expressions. -/
def Expression.literalsOfAll : List Expression → List Literal
  | [] => []
  | expression :: rest => expression.literals ++ Expression.literalsOfAll rest

/-- The literals of several catch clauses. -/
def CatchClause.literalsOfAll : List CatchClause → List Literal
  | [] => []
  | clause :: rest => clause.literals ++ CatchClause.literalsOfAll rest

/-- The literals of a body that may be missing. -/
def Expression.literalsOfOptional : Option (List Expression) → List Literal
  | none => []
  | some body => Expression.literalsOfAll body

end

/-- The literals of a whole tree. -/
def SyntaxTree.literals (tree : SyntaxTree) : List Literal :=
  Expression.literalsOfAll tree.expressions

/-- The literals of several statements are those of each of them. -/
theorem Statement.literalsOfAll_eq (items : List Statement) :
    Statement.literalsOfAll items = items.flatMap Statement.literals := by
  induction items with
  | nil => rfl
  | cons item items ih => rw [Statement.literalsOfAll, ih, List.flatMap_cons]

/-- The literals of several expressions are those of each of them. -/
theorem Expression.literalsOfAll_eq (items : List Expression) :
    Expression.literalsOfAll items = items.flatMap Expression.literals := by
  induction items with
  | nil => rfl
  | cons item items ih => rw [Expression.literalsOfAll, ih, List.flatMap_cons]

/-- The literals of several catch clauses are those of each of them. -/
theorem CatchClause.literalsOfAll_eq (items : List CatchClause) :
    CatchClause.literalsOfAll items = items.flatMap CatchClause.literals := by
  induction items with
  | nil => rfl
  | cons item items ih => rw [CatchClause.literalsOfAll, ih, List.flatMap_cons]

/-- A missing body has the literals of an empty one. -/
theorem Expression.literalsOfOptional_eq (body : Option (List Expression)) :
    Expression.literalsOfOptional body = (body.getD []).flatMap Expression.literals := by
  cases body with
  | none => rfl
  | some body => exact Expression.literalsOfAll_eq body

/-! ## Reflexivity -/

section Reflexivity

variable {same : Literal → Literal → Prop}

/-- Items of a list are alike to themselves, if those literals are that belong to one of them. -/
theorem forall₂_of_literals {α : Type} {alike : α → α → Prop} {literals : α → List Literal}
    {items : List α} (each : ∀ item ∈ items, (∀ value ∈ literals item, same value value) →
      alike item item)
    (all : ∀ value ∈ items.flatMap literals, same value value) :
    List.Forall₂ alike items items := by
  refine List.forall₂_same.2 fun item member => each item member fun value inside => ?_
  exact all value (List.mem_flatMap.2 ⟨item, member, inside⟩)

/-- A statement is alike to itself, if its literals are. -/
theorem Statement.Alike.refl (statement : Statement) :
    (∀ value ∈ statement.literals, same value value) →
      Statement.Alike same statement statement := by
  induction statement using Statement.induction with
  | unary symbol operand ih => exact fun all => .unary symbol (ih all)
  | binary symbol first second ihFirst ihSecond =>
    intro all
    obtain ⟨onFirst, onSecond⟩ := List.forall_mem_append.1 all
    exact .binary symbol (ihFirst onFirst) (ihSecond onSecond)
  | literal value => exact fun all => .literal (all value (.head _))
  | reference name => exact fun _ => .reference name
  | group items ih =>
    intro all
    rw [Statement.literals, Statement.literalsOfAll_eq] at all
    exact .group (forall₂_of_literals ih all)

/-- A declaration is alike to itself, if its literals are. -/
theorem Declaration.Alike.refl (declared : Declaration)
    (all : ∀ value ∈ declared.literals, same value value) :
    Declaration.Alike same declared declared where
  qualifiers := .refl _
  typeText := rfl
  name := rfl
  initializer := by
    rw [Declaration.literals] at all
    cases initial : declared.initializer with
    | none => exact .none
    | some value =>
      rw [initial] at all
      exact .some (Statement.Alike.refl value all)

/-- Expressions, blocks and catch clauses are alike to themselves, if their literals are. -/
theorem hereditary_alike_refl : Expression.Hereditary
    (fun expression => (∀ value ∈ expression.literals, same value value) →
      Expression.Alike same expression expression)
    (fun block => (∀ value ∈ block.literals, same value value) → Block.Alike same block block)
    (fun clause => (∀ value ∈ clause.literals, same value value) →
      CatchClause.Alike same clause clause) where
  empty := fun _ => .empty
  declaration := fun declared all => .declaration (Declaration.Alike.refl declared all)
  statement := fun value all => .statement (Statement.Alike.refl value all)
  block := fun _ ih all => .block (ih all)
  branch := by
    intro condition thenBody elseBody ihThen ihElse all
    simp only [Block.literals, Expression.literalsOfAll_eq, List.forall_mem_append] at all
    obtain ⟨⟨onCondition, onThen⟩, onElse⟩ := all
    exact .branch (Statement.Alike.refl condition onCondition) (forall₂_of_literals ihThen onThen)
      (forall₂_of_literals ihElse onElse)
  whileLoop := by
    intro condition body ih all
    simp only [Block.literals, Expression.literalsOfAll_eq, List.forall_mem_append] at all
    exact .whileLoop (Statement.Alike.refl condition all.1) (forall₂_of_literals ih all.2)
  doWhileLoop := by
    intro condition body ih all
    simp only [Block.literals, Expression.literalsOfAll_eq, List.forall_mem_append] at all
    exact .doWhileLoop (Statement.Alike.refl condition all.2) (forall₂_of_literals ih all.1)
  forLoop := by
    intro init condition iteration body ihInit ihCondition ihIteration ih all
    simp only [Block.literals, Expression.literalsOfAll_eq, List.forall_mem_append] at all
    obtain ⟨⟨⟨onInit, onCondition⟩, onIteration⟩, onBody⟩ := all
    exact .forLoop (ihInit onInit) (ihCondition onCondition) (ihIteration onIteration)
      (forall₂_of_literals ih onBody)
  guarded := by
    intro resources body handlers cleanup ihBody ihHandlers ihCleanup all
    simp only [Block.literals, Expression.literalsOfAll_eq, CatchClause.literalsOfAll_eq,
      Expression.literalsOfOptional_eq, List.forall_mem_append] at all
    obtain ⟨⟨⟨onResources, onBody⟩, onHandlers⟩, onCleanup⟩ := all
    exact .guarded
      (forall₂_of_literals (fun declared _ => Declaration.Alike.refl declared) onResources)
      (forall₂_of_literals ihBody onBody)
      (forall₂_of_literals (fun clause member => (ihHandlers clause member).1) onHandlers)
      (forall₂_of_literals ihCleanup onCleanup)
  clause := by
    intro exceptionTypes binder body ih all
    rw [CatchClause.literals, Expression.literalsOfAll_eq] at all
    exact .clause binder (.refl _) (forall₂_of_literals ih all)

/-- A tree is alike to itself, if its literals are. -/
theorem SyntaxTree.Alike.refl (tree : SyntaxTree)
    (all : ∀ value ∈ tree.literals, same value value) : SyntaxTree.Alike same tree tree := by
  rw [SyntaxTree.literals, Expression.literalsOfAll_eq] at all
  exact forall₂_of_literals (fun item _ => hereditary_alike_refl.expression item) all

end Reflexivity

end Likeness
