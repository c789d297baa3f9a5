import Likeness.Proofs.Comparison.Identity

/-!
# Inserting expressions

A tree grows when expressions are inserted into its list or into the bodies of its blocks, at any
depth. Compared to any other tree, a grown one matches as much as before, and more by no more than
the weight that was inserted. `Raises` states this of a node. It holds of lists because a best walk
from before goes on with the inserted items left out, and a best walk from after can do without
them: each pair that is given up matched no more than the inserted item weighs. Blocks of other
kinds look at conditions, which stay, and at bodies, which are aligned as lists of lists.
-/

namespace Likeness

/-- Items are inserted into a list, and those that were there before may change. -/
inductive Insertion {α : Type} (changes : α → α → Prop) : List α → List α → Prop where
  | nil : Insertion changes [] []
  | keep {item item' rest rest'} (kept : changes item item')
      (others : Insertion changes rest rest') : Insertion changes (item :: rest) (item' :: rest')
  | insert {rest rest'} (item : α) (others : Insertion changes rest rest') :
      Insertion changes rest (item :: rest')

/-- What is matched rises with the weight of the right node, and by no more than that does. -/
structure Rise (matched matched' weight weight' : Nat) : Prop where
  atLeast : matched ≤ matched'
  atMost : matched' + weight ≤ matched + weight'

/-- Whatever the right node is compared to, what is matched rises when it grows. -/
structure Raises {α β : Type} (compare : α → β → Similarity) (weight : β → Nat) (right right' : β) :
    Prop where
  grown : weight right ≤ weight right'
  rise : ∀ left, Rise (compare left right).matched (compare left right').matched (weight right)
    (weight right')

/-! ## Alignments -/

namespace Alignment

variable {α β : Type} {compare : α → β → Similarity} {weight : β → Nat} {lefts : List α}
  {rights rights' : List β} {steps : List (AlignStep α β)}

/-- Items on the left can be left out in front of a walk. -/
theorem Walk.exists_removed (walk : Walk compare lefts rights steps) (before : List α) :
    ∃ others, Walk compare (before ++ lefts) rights others ∧ score others = score steps := by
  induction before with
  | nil => exact ⟨steps, walk, rfl⟩
  | cons left before ih =>
    obtain ⟨others, walk, equal⟩ := ih
    exact ⟨_, .removed left walk, by simpa [AlignStep.matched] using equal⟩

/-- An item on the right can be left out in front of a walk, behind items on the left. -/
theorem Walk.exists_inserted (walk : Walk compare lefts rights steps) (before : List α)
    (right : β) :
    ∃ others, Walk compare (before ++ lefts) (right :: rights) others ∧
      score others = score steps := by
  obtain ⟨others, whole, equal⟩ := (Walk.inserted right walk).exists_removed before
  exact ⟨others, whole, by simpa [AlignStep.matched] using equal⟩

/-- A pair can stand in front of a walk, behind items on the left. -/
theorem Walk.exists_pair (walk : Walk compare lefts rights steps) (before : List α) (left : α)
    (right : β) :
    ∃ others, Walk compare (before ++ left :: lefts) (right :: rights) others ∧
      score others = (compare left right).matched + score steps := by
  obtain ⟨others, whole, equal⟩ := (Walk.pair left right walk).exists_removed before
  exact ⟨others, whole, by simpa [AlignStep.matched] using equal⟩

/-- A walk leaves the first item on the right out or pairs it, and leaves out what is before that on
the left. -/
theorem Walk.cons_cases {right : β} (walk : Walk compare lefts (right :: rights) steps) :
    ∃ before rest others, Walk compare rest rights others ∧
      ((lefts = before ++ rest ∧ score steps = score others) ∨
        ∃ left, lefts = before ++ left :: rest ∧
          score steps = (compare left right).matched + score others) := by
  generalize shape : right :: rights = all at walk
  induction walk with
  | done => contradiction
  | pair left _ rest =>
    cases shape
    exact ⟨[], _, _, rest, .inr ⟨left, rfl, rfl⟩⟩
  | inserted _ rest =>
    cases shape
    exact ⟨[], _, _, rest, .inl ⟨rfl, by simp [AlignStep.matched]⟩⟩
  | removed left _ ih =>
    obtain ⟨before, rest, others, walk, found⟩ := ih shape
    refine ⟨left :: before, rest, others, walk, ?_⟩
    rcases found with ⟨rfl, equal⟩ | ⟨paired, rfl, equal⟩
    · exact .inl ⟨rfl, by simpa [AlignStep.matched] using equal⟩
    · exact .inr ⟨paired, rfl, by simpa [AlignStep.matched] using equal⟩

/-- A walk goes on with inserted items left out. -/
theorem Walk.exists_insertion (inserted : Insertion (Raises compare weight) rights rights')
    (walk : Walk compare lefts rights steps) :
    ∃ others, Walk compare lefts rights' others ∧ score steps ≤ score others := by
  induction inserted generalizing lefts steps with
  | nil => exact ⟨steps, walk, Nat.le_refl _⟩
  | insert item _ ih =>
    obtain ⟨others, walk, more⟩ := ih walk
    exact ⟨_, .inserted item walk, by simpa [AlignStep.matched] using more⟩
  | @keep _ item' _ _ raises _ ih =>
    obtain ⟨before, rest, _, tail, ⟨rfl, equal⟩ | ⟨left, rfl, equal⟩⟩ := walk.cons_cases
    · obtain ⟨others, onward, more⟩ := ih tail
      obtain ⟨others', whole, equal'⟩ := onward.exists_inserted before item'
      exact ⟨others', whole, by omega⟩
    · obtain ⟨others, onward, more⟩ := ih tail
      obtain ⟨others', whole, equal'⟩ := onward.exists_pair before left item'
      have paired := (raises.rise left).atLeast
      exact ⟨others', whole, by omega⟩

/-- A walk through inserted items can do without them, and loses no more than their weight. -/
theorem Walk.exists_without (inserted : Insertion (Raises compare weight) rights rights')
    (bounded : ∀ left right, (compare left right).matched ≤ weight right)
    (walk : Walk compare lefts rights' steps) :
    ∃ others, Walk compare lefts rights others ∧
      score steps + Whole.sum (rights.map weight) ≤
        score others + Whole.sum (rights'.map weight) := by
  induction inserted generalizing lefts steps with
  | nil => exact ⟨steps, walk, Nat.le_refl _⟩
  | insert item _ ih =>
    simp only [List.map_cons, Whole.sum_cons]
    obtain ⟨before, rest, _, tail, ⟨rfl, equal⟩ | ⟨left, rfl, equal⟩⟩ := walk.cons_cases
    · obtain ⟨others, onward, less⟩ := ih tail
      obtain ⟨others', whole, equal'⟩ := onward.exists_removed before
      exact ⟨others', whole, by omega⟩
    · -- The pair is given up, and its left item is left out as well.
      obtain ⟨others, onward, less⟩ := ih tail
      obtain ⟨others', whole, equal'⟩ := onward.exists_removed (before ++ [left])
      have paired := bounded left item
      rw [← List.append_cons] at whole
      exact ⟨others', whole, by omega⟩
  | @keep item _ _ _ raises _ ih =>
    simp only [List.map_cons, Whole.sum_cons]
    obtain ⟨before, rest, _, tail, ⟨rfl, equal⟩ | ⟨left, rfl, equal⟩⟩ := walk.cons_cases
    · obtain ⟨others, onward, less⟩ := ih tail
      obtain ⟨others', whole, equal'⟩ := onward.exists_inserted before item
      have grown := raises.grown
      exact ⟨others', whole, by omega⟩
    · obtain ⟨others, onward, less⟩ := ih tail
      obtain ⟨others', whole, equal'⟩ := onward.exists_pair before left item
      have paired := (raises.rise left).atMost
      exact ⟨others', whole, by omega⟩

/-- A list with more items weighs no less. -/
theorem sum_weight_le (inserted : Insertion (Raises compare weight) rights rights') :
    Whole.sum (rights.map weight) ≤ Whole.sum (rights'.map weight) := by
  induction inserted with
  | nil => exact Nat.le_refl _
  | insert item _ ih =>
    simp only [List.map_cons, Whole.sum_cons]
    omega
  | keep raises _ ih =>
    have grown := raises.grown
    simp only [List.map_cons, Whole.sum_cons]
    omega

/-- The alignment with a list matches as much when items are inserted into it, and more by no more
than its items then weigh more. -/
theorem rise_align (inserted : Insertion (Raises compare weight) rights rights')
    (bounded : ∀ left right, (compare left right).matched ≤ weight right) (lefts : List α) :
    Rise (score (align compare lefts rights)) (score (align compare lefts rights'))
      (Whole.sum (rights.map weight)) (Whole.sum (rights'.map weight)) := by
  have best := optimal_align compare lefts rights
  have best' := optimal_align compare lefts rights'
  obtain ⟨others, walk, more⟩ := best.walk.exists_insertion inserted
  obtain ⟨others', walk', less⟩ := best'.walk.exists_without inserted bounded
  have greatest := best.greatest walk'
  have greatest' := best'.greatest walk
  exact ⟨by omega, by omega⟩

/-- Lists with their gaps match more when items are inserted on the right. -/
theorem raises_gaps [Node α] [Node β] (label : String)
    (inserted : Insertion (Raises compare Node.weight) rights rights')
    (bounded : ∀ left right, (compare left right).matched ≤ Node.weight right) :
    Raises (gaps compare label) totalWeight rights rights' where
  grown := sum_weight_le inserted
  rise lefts := by
    rw [matched_gaps, matched_gaps]
    exact rise_align inserted bounded lefts

/-- Lists in order match more when items are inserted on the right. -/
theorem raises_ordered [Node α] [Node β] (label : String)
    (inserted : Insertion (Raises compare Node.weight) rights rights')
    (bounded : ∀ left right, (compare left right).matched ≤ Node.weight right) :
    Raises (ordered compare label) totalWeight rights rights' where
  grown := sum_weight_le inserted
  rise lefts := by
    rw [matched_ordered compare label label, matched_ordered compare label label]
    exact (raises_gaps label inserted bounded).rise lefts

end Alignment

/-! ## Grown trees -/

mutual

/-- An expression stays the same, or it is a block and grows. -/
inductive Expression.Grows : Expression → Expression → Prop where
  | same (expression : Expression) : Expression.Grows expression expression
  | block {inner inner' : Block} (grown : Block.Grows inner inner') :
      Expression.Grows (.block inner) (.block inner')

/-- Expressions are inserted into the bodies of a block, or into blocks inside it. -/
inductive Block.Grows : Block → Block → Prop where
  | branch {thenBody thenBody' elseBody elseBody'} (condition : Statement)
      (thenGrown : Insertion Expression.Grows thenBody thenBody')
      (elseGrown : Insertion Expression.Grows elseBody elseBody') :
      Block.Grows (.branch condition thenBody elseBody) (.branch condition thenBody' elseBody')
  | whileLoop {body body'} (condition : Statement)
      (grown : Insertion Expression.Grows body body') :
      Block.Grows (.whileLoop condition body) (.whileLoop condition body')
  | doWhileLoop {body body'} (condition : Statement)
      (grown : Insertion Expression.Grows body body') :
      Block.Grows (.doWhileLoop condition body) (.doWhileLoop condition body')
  | forLoop {init init' condition condition' iteration iteration' body body'}
      (initGrown : Expression.Grows init init')
      (conditionGrown : Expression.Grows condition condition')
      (iterationGrown : Expression.Grows iteration iteration')
      (grown : Insertion Expression.Grows body body') :
      Block.Grows (.forLoop init condition iteration body)
        (.forLoop init' condition' iteration' body')
  | guarded {body body' handlers handlers'} {cleanup cleanup' : Option (List Expression)}
      (resources : List Declaration)
      (bodyGrown : Insertion Expression.Grows body body')
      (handlersGrown : List.Forall₂ CatchClause.Grows handlers handlers')
      (cleanupGrown : Option.Rel (Insertion Expression.Grows) cleanup cleanup') :
      Block.Grows (.guarded resources body handlers cleanup)
        (.guarded resources body' handlers' cleanup')

/-- Expressions are inserted into the body of a catch clause, or into blocks inside it. -/
inductive CatchClause.Grows : CatchClause → CatchClause → Prop where
  | clause {body body'} (exceptionTypes : List Identifier) (binder : String)
      (grown : Insertion Expression.Grows body body') :
      CatchClause.Grows ⟨exceptionTypes, binder, body⟩ ⟨exceptionTypes, binder, body'⟩

end

/-- Expressions are inserted into a tree, or into blocks inside it. -/
def SyntaxTree.Grows (tree tree' : SyntaxTree) : Prop :=
  Insertion Expression.Grows tree.expressions tree'.expressions

/-! ## Growing raises what is matched -/

/-- A node matches as much as itself. -/
theorem Raises.refl {α β : Type} (compare : α → β → Similarity) (weight : β → Nat) (right : β) :
    Raises compare weight right right where
  grown := Nat.le_refl _
  rise _ := ⟨Nat.le_refl _, Nat.le_refl _⟩

namespace Insertion

variable {α : Type} {changes changes' : α → α → Prop} {items items' : List α}

/-- The items that were there before may change in another way. -/
theorem imp_of_mem (inserted : Insertion changes items items')
    (each : ∀ item ∈ items, ∀ item', changes item item' → changes' item item') :
    Insertion changes' items items' := by
  induction inserted with
  | nil => exact .nil
  | insert item _ ih => exact .insert item (ih each)
  | keep kept _ ih =>
    obtain ⟨first, rest⟩ := List.forall_mem_cons.1 each
    exact .keep (first _ kept) (ih rest)

/-- What holds of the changes of items holds of what is read off them. -/
theorem map {β : Type} {read : α → β} {changesRead : β → β → Prop}
    (inserted : Insertion (fun item item' => changesRead (read item) (read item')) items items') :
    Insertion changesRead (items.map read) (items'.map read) := by
  induction inserted with
  | nil => exact .nil
  | insert item _ ih => exact .insert (read item) ih
  | keep kept _ ih => exact .keep kept ih

/-- Items are inserted into two lists one behind the other. -/
theorem append {others others' : List α} (first : Insertion changes items items')
    (second : Insertion changes others others') :
    Insertion changes (items ++ others) (items' ++ others') := by
  induction first with
  | nil => exact second
  | insert item _ ih => exact .insert item ih
  | keep kept _ ih => exact .keep kept ih

/-- Items may change with none inserted. -/
theorem of_forall₂ (changed : List.Forall₂ changes items items') :
    Insertion changes items items' := by
  induction changed with
  | nil => exact .nil
  | cons kept _ ih => exact .keep kept ih

end Insertion

theorem Similarity.Balances.matched_le_right {similarity : Similarity} {left right : Nat}
    (balances : similarity.Balances left right) : similarity.matched ≤ right :=
  Nat.le_trans balances.within (Nat.min_le_right left right)

/-- Bodies match more when expressions are inserted into them. -/
theorem raises_bodies (label : String) {rights rights' : List Expression}
    (items : ∀ right ∈ rights, ∀ right', right.Grows right' →
      Raises Expression.against Expression.weight right right')
    (inserted : Insertion Expression.Grows rights rights') :
    Raises (Alignment.gaps Expression.against label) Expression.weightOfAll rights rights' := by
  rw [← funext Expression.totalWeight_eq]
  exact Alignment.raises_gaps label (inserted.imp_of_mem items) fun left right =>
    (hereditary_balances.expression left right).matched_le_right

namespace Block

theorem matched_sameKind (left right : Block) (parts : List Similarity) :
    (left.sameKind right parts).matched = 1 + Whole.sum (parts.map Similarity.matched) := by
  simp [Block.sameKind]

/-- A block raises what is matched when it does for blocks of its kind and its bodies do; blocks of
other kinds look at nothing else that may change. -/
theorem raises_of_bodies {right right' : Block} (keyword : right'.keyword = right.keyword)
    (condition : right'.condition = right.condition)
    (bodies : Insertion (Raises Expression.bodyAgainst Expression.weightOfAll) right.bodies
      right'.bodies)
    (others : right.weight + Whole.sum (right'.bodies.map Expression.weightOfAll) ≤
      right'.weight + Whole.sum (right.bodies.map Expression.weightOfAll))
    (sameKind : ∀ left : Block, left.keyword = right.keyword →
      Rise (left.against right).matched (left.against right').matched right.weight right'.weight) :
    Raises Block.against Block.weight right right' where
  grown := by
    have heavier := Alignment.sum_weight_le bodies
    omega
  rise left := by
    by_cases kinds : left.keyword = right.keyword
    · exact sameKind left kinds
    obtain ⟨atLeast, atMost⟩ := Alignment.rise_align bodies (fun _ body => (balances_bodies "body"
      (fun item _ => hereditary_balances.expression item) body).matched_le_right) left.bodies
    rw [matched_of_keyword_ne kinds, matched_of_keyword_ne (keyword ▸ kinds), condition]
    exact ⟨by omega, by omega⟩

end Block

/-- Expressions are inserted into the body of a catch clause that grows. -/
theorem CatchClause.Grows.body {clause clause' : CatchClause} (grows : clause.Grows clause') :
    Insertion Expression.Grows clause.body clause'.body := by
  obtain ⟨_, _, grown⟩ := grows
  exact grown

/-- Catch clauses that grow keep all but their bodies. -/
theorem CatchClause.weightOfAll_add_bodies {handlers handlers' : List CatchClause}
    (grown : List.Forall₂ CatchClause.Grows handlers handlers') :
    CatchClause.weightOfAll handlers
        + Whole.sum ((handlers'.map CatchClause.body).map Expression.weightOfAll) =
      CatchClause.weightOfAll handlers'
        + Whole.sum ((handlers.map CatchClause.body).map Expression.weightOfAll) := by
  induction grown with
  | nil => rfl
  | cons first _ ih =>
    obtain ⟨exceptionTypes, binder, _⟩ := first
    simp only [CatchClause.weightOfAll, CatchClause.weight, List.map_cons, Whole.sum_cons]
    omega

/-- A body that may be missing weighs as much as the bodies there are. -/
theorem Expression.sum_toList_eq_weightOfOptional (body : Option (List Expression)) :
    Whole.sum (body.toList.map Expression.weightOfAll) = Expression.weightOfOptional body := by
  cases body with
  | none => rfl
  | some body => exact Nat.add_zero _

/-- A cleanup that grows raises what is matched, as a body that may be missing and as one among the
bodies of its block. -/
theorem raises_cleanups {cleanup cleanup' : Option (List Expression)}
    (items : ∀ right ∈ cleanup.getD [], ∀ right', right.Grows right' →
      Raises Expression.against Expression.weight right right')
    (grown : Option.Rel (Insertion Expression.Grows) cleanup cleanup') :
    Insertion (Raises Expression.bodyAgainst Expression.weightOfAll) cleanup.toList
        cleanup'.toList ∧
      Raises (Alignment.gaps Expression.against "finally") Expression.weightOfAll (cleanup.getD [])
        (cleanup'.getD []) := by
  cases grown with
  | none => exact ⟨.nil, .refl _ _ _⟩
  | some inserted =>
    exact ⟨.keep (raises_bodies "body" items inserted) .nil, raises_bodies "finally" items inserted⟩

/-- The condition of a `for` block stays the same when its clauses grow. -/
theorem Block.condition_forLoop {init init' condition condition' iteration iteration' : Expression}
    {body body' : List Expression} (grown : condition.Grows condition') :
    (Block.forLoop init' condition' iteration' body').condition =
      (Block.forLoop init condition iteration body).condition := by
  cases grown with
  | same => cases condition <;> rfl
  | block => rfl

/-- Expressions, blocks and catch clauses that grow raise what is matched, by induction on what they
are before. -/
theorem hereditary_raises : Expression.Hereditary
    (fun right => ∀ right', right.Grows right' →
      Raises Expression.against Expression.weight right right')
    (fun right => ∀ right', right.Grows right' → Raises Block.against Block.weight right right')
    (fun right => ∀ right', right.Grows right' →
      Raises CatchClause.against CatchClause.weight right right') where
  empty := by
    rintro right' (_ | _)
    exact .refl _ _ _
  declaration := by
    rintro declared right' (_ | _)
    exact .refl _ _ _
  statement := by
    rintro value right' (_ | _)
    exact .refl _ _ _
  block := by
    rintro inner ih right' (_ | grown)
    · exact .refl _ _ _
    obtain ⟨heavier, rise⟩ := ih _ grown
    refine ⟨heavier, fun left => ?_⟩
    cases left with
    | block inner' => exact rise inner'
    | _ => exact ⟨Nat.le_refl _, by simpa [Expression.against, Expression.weight] using heavier⟩
  branch := by
    intro condition thenBody elseBody ihThen ihElse right' grows
    cases grows with | branch _ thenGrown elseGrown
    refine Block.raises_of_bodies rfl rfl (.keep (raises_bodies "body" ihThen thenGrown)
      (.keep (raises_bodies "body" ihElse elseGrown) .nil)) ?_ fun left kinds => ?_
    · simp only [Block.weight, Block.bodies, List.map_cons, List.map_nil, Whole.sum_cons]
      omega
    cases left with
    | branch condition' thenBody' elseBody' =>
      obtain ⟨thenLeast, thenMost⟩ := (raises_bodies "then" ihThen thenGrown).rise thenBody'
      obtain ⟨elseLeast, elseMost⟩ := (raises_bodies "else" ihElse elseGrown).rise elseBody'
      rw [Block.against_branch, Block.against_branch]
      constructor <;>
        simp only [Block.matched_sameKind, Block.weight, List.map_cons, Whole.sum_cons] <;> omega
    | _ => simp [Block.keyword] at kinds
  whileLoop := by
    intro condition body ih right' grows
    cases grows with | whileLoop _ grown
    refine Block.raises_of_bodies rfl rfl (.keep (raises_bodies "body" ih grown) .nil) ?_
      fun left kinds => ?_
    · simp only [Block.weight, Block.bodies, List.map_cons, List.map_nil, Whole.sum_cons]
      omega
    cases left with
    | whileLoop condition' body' =>
      obtain ⟨atLeast, atMost⟩ := (raises_bodies "body" ih grown).rise body'
      rw [Block.against_whileLoop, Block.against_whileLoop]
      constructor <;>
        simp only [Block.matched_sameKind, Block.weight, List.map_cons, Whole.sum_cons] <;> omega
    | _ => simp [Block.keyword] at kinds
  doWhileLoop := by
    intro condition body ih right' grows
    cases grows with | doWhileLoop _ grown
    refine Block.raises_of_bodies rfl rfl (.keep (raises_bodies "body" ih grown) .nil) ?_
      fun left kinds => ?_
    · simp only [Block.weight, Block.bodies, List.map_cons, List.map_nil, Whole.sum_cons]
      omega
    cases left with
    | doWhileLoop condition' body' =>
      obtain ⟨atLeast, atMost⟩ := (raises_bodies "body" ih grown).rise body'
      rw [Block.against_doWhileLoop, Block.against_doWhileLoop]
      constructor <;>
        simp only [Block.matched_sameKind, Block.weight, List.map_cons, Whole.sum_cons] <;> omega
    | _ => simp [Block.keyword] at kinds
  forLoop := by
    intro init condition iteration body ihInit ihCondition ihIteration ih right' grows
    cases grows with | forLoop initGrown conditionGrown iterationGrown grown
    obtain ⟨initHeavier, initRise⟩ := ihInit _ initGrown
    obtain ⟨conditionHeavier, conditionRise⟩ := ihCondition _ conditionGrown
    obtain ⟨iterationHeavier, iterationRise⟩ := ihIteration _ iterationGrown
    refine Block.raises_of_bodies rfl (Block.condition_forLoop conditionGrown)
      (.keep (raises_bodies "body" ih grown) .nil) ?_ fun left kinds => ?_
    · simp only [Block.weight, Block.bodies, List.map_cons, List.map_nil, Whole.sum_cons]
      omega
    cases left with
    | forLoop init' condition' iteration' body' =>
      obtain ⟨initLeast, initMost⟩ := initRise init'
      obtain ⟨conditionLeast, conditionMost⟩ := conditionRise condition'
      obtain ⟨iterationLeast, iterationMost⟩ := iterationRise iteration'
      obtain ⟨atLeast, atMost⟩ := (raises_bodies "body" ih grown).rise body'
      rw [Block.against_forLoop, Block.against_forLoop]
      constructor <;>
        simp only [Block.matched_sameKind, Block.weight, List.map_cons, Whole.sum_cons] <;> omega
    | _ => simp [Block.keyword] at kinds
  guarded := by
    intro resources body handlers cleanup ihBody ihHandlers ihCleanup right' grows
    cases grows with | guarded _ bodyGrown handlersGrown cleanupGrown
    have kept := Insertion.of_forall₂ handlersGrown
    have clauses := kept.imp_of_mem fun clause member => (ihHandlers clause member).1
    have clauseBodies := (kept.imp_of_mem fun clause member _ grows =>
      raises_bodies "body" (ihHandlers clause member).2 grows.body).map
    obtain ⟨cleanups, cleanupRaises⟩ := raises_cleanups ihCleanup cleanupGrown
    refine Block.raises_of_bodies rfl rfl
      (.keep (raises_bodies "body" ihBody bodyGrown) (clauseBodies.append cleanups)) ?_
      fun left kinds => ?_
    · have others := CatchClause.weightOfAll_add_bodies handlersGrown
      simp only [Block.weight, Block.bodies, List.map_cons, List.map_append, Whole.sum_append,
        Whole.sum_cons, Expression.sum_toList_eq_weightOfOptional]
      omega
    cases left with
    | guarded resources' body' handlers' cleanup' =>
      obtain ⟨bodyLeast, bodyMost⟩ := (raises_bodies "try" ihBody bodyGrown).rise body'
      obtain ⟨handlersLeast, handlersMost⟩ := (Alignment.raises_ordered "catches" clauses
        fun left right => (hereditary_balances.clauses left right).matched_le_right).rise handlers'
      obtain ⟨cleanupLeast, cleanupMost⟩ := cleanupRaises.rise (cleanup'.getD [])
      simp only [CatchClause.totalWeight_eq] at handlersMost
      rw [Block.against_guarded, Block.against_guarded]
      constructor <;>
        simp only [Block.matched_sameKind, Block.weight, Expression.weightOfOptional_eq,
          List.map_cons, Whole.sum_cons] <;> omega
    | _ => simp [Block.keyword] at kinds
  clause := by
    rintro exceptionTypes binder body ih _ ⟨_, _, grown⟩
    have raises := raises_bodies "catch" ih grown
    have heavier := raises.grown
    refine ⟨by simp only [CatchClause.weight]; omega, fun left => ?_⟩
    obtain ⟨atLeast, atMost⟩ := raises.rise left.body
    rw [CatchClause.against_eq, CatchClause.against_eq]
    constructor <;>
      simp only [Similarity.matched_between, Similarity.matched_add, CatchClause.weight,
        List.map_cons, Whole.sum_cons] <;> omega

/-! ## Trees -/

/-- A tree that grows raises what is matched. -/
theorem SyntaxTree.Grows.raises {right right' : SyntaxTree} (grows : right.Grows right') :
    Raises compare SyntaxTree.weight right right' :=
  have raises := raises_bodies "file" (fun item _ => hereditary_raises.expression item) grows
  ⟨raises.grown, fun left => raises.rise left.expressions⟩

/-- When expressions are inserted into a tree, at any places of its list and of the bodies of its
blocks at any depth, it matches as much of any other tree as before, and more by no more than it
gained in weight. So a tree without a double that is no number is matched whole in what it grows to,
and the total is the weight of that. -/
theorem insertion_raises_matched :
    (∀ left right right' : SyntaxTree, right.Grows right' →
      right.weight ≤ right'.weight ∧ (compare left right).matched ≤ (compare left right').matched ∧
        (compare left right').matched ≤
          (compare left right).matched + (right'.weight - right.weight)) ∧
    ∀ tree tree' : SyntaxTree, tree.Grows tree' →
      (∀ wide, Literal.double .nan wide ∉ tree.literals) →
        (compare tree tree').matched = tree.weight ∧ (compare tree tree').total = tree'.weight := by
  constructor
  · intro left right right' grows
    obtain ⟨heavier, rise⟩ := grows.raises
    obtain ⟨atLeast, atMost⟩ := rise left
    exact ⟨heavier, atLeast, by omega⟩
  · intro tree tree' grows numbers
    have alike : SyntaxTree.Alike Literal.Same tree tree :=
      SyntaxTree.Alike.refl tree fun value member => Literal.same_self fun wide same =>
        numbers wide (same ▸ member)
    obtain ⟨whole, _⟩ :=
      (recognizes_compare tree tree).matched_eq (conserves_compare tree tree) alike
    have atLeast := (grows.raises.rise tree).atLeast
    obtain ⟨account, within⟩ := conserves_compare tree tree'
    have matched : (compare tree tree').matched = tree.weight :=
      Nat.le_antisymm (Nat.le_trans within (Nat.min_le_left _ _)) (whole.symm.trans_le atLeast)
    rw [matched] at account
    exact ⟨matched, Nat.add_left_cancel account⟩

/-- A loop that gains a statement in its body and a semicolon in front of it keeps all that an `if`
matches of it, and is matched whole by what it was. -/
theorem insertion_into_loop :
    let other := SyntaxTree.mk [.block (.branch (.reference "more") [.empty] [])]
    let tree := SyntaxTree.mk [.block (.whileLoop (.reference "more") [.empty])]
    let tree' := SyntaxTree.mk [.empty,
      .block (.whileLoop (.reference "more") [.statement (.reference "step"), .empty])]
    tree.Grows tree' ∧ (compare other tree).matched ≤ (compare other tree').matched ∧
      (compare tree tree').matched = 3 ∧ (compare tree tree').total = 5 := by
  intro other tree tree'
  have grows : tree.Grows tree' :=
    .insert _ (.keep (.block (.whileLoop _ (.insert _ (.keep (.same _) .nil)))) .nil)
  obtain ⟨_, more, _⟩ := insertion_raises_matched.1 other tree tree' grows
  obtain ⟨matched, total⟩ := insertion_raises_matched.2 tree tree' grows
    (by intro wide; cases wide <;> decide)
  exact ⟨grows, more, matched, total⟩

end Likeness
