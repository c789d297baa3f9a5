import Likeness.Proofs.Comparison.Alike
import Likeness.Proofs.Comparison.Common

/-!
# When everything is matched

`Similarity.FullWhen` states when a result matches all there is. A result of parts is full when each
part is, because no part matches more than it has. An alignment is full only if it leaves no gap, as
every node has weight, so it pairs the items one after the other; an assignment of leaves is full
only if one list rearranges the other. By induction a comparison is full just when its two nodes are
alike, and a verdict is `identical` just when the result is full.
-/

namespace Likeness

namespace Similarity

/-- A result that matches all there is under a condition, and never more. -/
structure FullWhen (similarity : Similarity) (condition : Prop) : Prop where
  bounded : similarity.matched ≤ similarity.total
  full : similarity.matched = similarity.total ↔ condition

variable {similarity : Similarity} {condition condition' : Prop} {left right : Nat}

theorem FullWhen.of_iff (fullWhen : similarity.FullWhen condition) (same : condition ↔ condition') :
    similarity.FullWhen condition' :=
  ⟨fullWhen.bounded, fullWhen.full.trans same⟩

/-- A result that accounts for both sides is full when it matches all of each. -/
theorem Balances.fullWhen (balances : similarity.Balances left right) :
    similarity.FullWhen (similarity.matched = left ∧ similarity.matched = right) := by
  obtain ⟨account, within⟩ := balances
  constructor <;> omega

/-- A result that accounts for both sides matches all of each when it is full. -/
theorem FullWhen.matched_eq (fullWhen : similarity.FullWhen condition)
    (balances : similarity.Balances left right) (holds : condition) :
    similarity.matched = left ∧ similarity.matched = right :=
  balances.fullWhen.full.1 (fullWhen.full.2 holds)

theorem fullWhen_leaf (label : String) (equal : Bool) : (leaf label equal).FullWhen equal := by
  cases equal <;> constructor <;> simp

theorem fullWhen_add_nil (label : String) : (add label []).FullWhen True :=
  ⟨Nat.le_refl _, iff_true_intro rfl⟩

/-- A result of parts is full when each part is. -/
theorem FullWhen.add_cons {label : String} {others : List Similarity}
    (first : similarity.FullWhen condition) (rest : (add label others).FullWhen condition') :
    (add label (similarity :: others)).FullWhen (condition ∧ condition') := by
  obtain ⟨bounded, full⟩ := first
  obtain ⟨bounded', full'⟩ := rest
  rw [← full, ← full']
  simp only [matched_add, total_add] at bounded' ⊢
  constructor <;> simp only [matched_add, total_add, List.map_cons, Whole.sum_cons] <;> omega

theorem fullWhen_false (less : similarity.matched < similarity.total) : similarity.FullWhen False :=
  ⟨Nat.le_of_lt less, iff_false_intro (Nat.ne_of_lt less)⟩

/-- A result with a test that fails is never full, whatever else is unmatched. -/
theorem FullWhen.withUnmatched {label label' : String} {others : List Similarity}
    (rest : (add label others).FullWhen condition) (weight : Nat) :
    ((add label (leaf label' false :: others)).withUnmatched weight).FullWhen False := by
  have bounded := rest.bounded
  simp only [matched_add, total_add] at bounded
  refine fullWhen_false ?_
  simp only [matched_withUnmatched, total_withUnmatched, matched_add, total_add, List.map_cons,
    Whole.sum_cons, matched_leaf, total_leaf, if_neg Bool.false_ne_true]
  omega

section Nodes

variable {α β : Type} [Node α] [Node β]

theorem FullWhen.between (fullWhen : similarity.FullWhen condition) (first : α) (second : β) :
    (similarity.between first second).FullWhen condition :=
  ⟨fullWhen.bounded, fullWhen.full⟩

theorem fullWhen_mismatch {first : α} (second : β) (positive : 0 < Node.weight first) :
    (mismatch first second).FullWhen False :=
  fullWhen_false (Nat.lt_of_lt_of_le positive (Nat.le_add_right _ _))

theorem fullWhen_removed {item : α} (positive : 0 < Node.weight item) :
    (removed item).FullWhen False :=
  fullWhen_false positive

theorem fullWhen_inserted {item : α} (positive : 0 < Node.weight item) :
    (inserted item).FullWhen False :=
  fullWhen_false positive

end Nodes

end Similarity

/-! ## Lists -/

namespace Alignment

variable {α : Type} [Node α] {against : α → α → Similarity} {alike : α → α → Prop}
  {lefts rights : List α} {steps : List (AlignStep α α)}

/-- A walk matches everything only if it has no gaps and pairs items that are alike. -/
theorem Walk.forall₂_of_full (walk : Walk against lefts rights steps)
    (positive : ∀ item : α, 0 < Node.weight item) (label : String)
    (items : ∀ left ∈ lefts, ∀ right, (against left right).FullWhen (alike left right)) :
    ∃ condition, (Similarity.add label (steps.map listed)).FullWhen condition ∧
      (condition → List.Forall₂ alike lefts rights) := by
  induction walk with
  | done => exact ⟨True, Similarity.fullWhen_add_nil label, fun _ => .nil⟩
  | pair left right _ ih =>
    obtain ⟨_, rest, pairs⟩ := ih fun left member => items left (.tail _ member)
    have head := items left (.head _) right
    exact ⟨_, head.add_cons rest, fun ⟨equal, others⟩ => .cons equal (pairs others)⟩
  | removed left _ ih =>
    obtain ⟨_, rest, _⟩ := ih fun left member => items left (.tail _ member)
    have head := Similarity.fullWhen_removed (positive left)
    exact ⟨_, head.add_cons rest, fun ⟨never, _⟩ => never.elim⟩
  | inserted right _ ih =>
    obtain ⟨_, rest, _⟩ := ih items
    have head := Similarity.fullWhen_inserted (positive right)
    exact ⟨_, head.add_cons rest, fun ⟨never, _⟩ => never.elim⟩

/-- Lists of items that are alike one after the other have a walk that matches everything. -/
theorem exists_walk_of_forall₂ (conserves : Conserves against)
    (items : ∀ left ∈ lefts, ∀ right, (against left right).FullWhen (alike left right))
    (pairs : List.Forall₂ alike lefts rights) :
    ∃ steps, Walk against lefts rights steps ∧ score steps = totalWeight lefts ∧
      score steps = totalWeight rights := by
  induction pairs with
  | nil => exact ⟨[], .done, rfl, rfl⟩
  | @cons left right _ _ equal _ ih =>
    obtain ⟨steps, walk, onLeft, onRight⟩ := ih fun left member => items left (.tail _ member)
    obtain ⟨matched, matched'⟩ :=
      (items left (.head _) right).matched_eq (conserves left right) equal
    refine ⟨_, .pair left right walk, ?_, ?_⟩
    · rw [score_cons, totalWeight_cons, onLeft, ← matched, AlignStep.matched]
    · rw [score_cons, totalWeight_cons, onRight, ← matched', AlignStep.matched]

/-- Two lists match in full, gaps included, when their items are alike one after the other. -/
theorem fullWhen_gaps (conserves : Conserves against)
    (positive : ∀ item : α, 0 < Node.weight item) (label : String) (rights : List α)
    (items : ∀ left ∈ lefts, ∀ right, (against left right).FullWhen (alike left right)) :
    (gaps against label lefts rights).FullWhen (List.Forall₂ alike lefts rights) := by
  have best := optimal_align against lefts rights
  have balances := balances_gaps label fun left (_ : left ∈ lefts) right (_ : right ∈ rights) =>
    conserves left right
  refine ⟨balances.fullWhen.bounded, ?_, ?_⟩
  · obtain ⟨_, fullWhen, pairs⟩ := best.walk.forall₂_of_full positive label items
    exact fun full => pairs (fullWhen.full.1 full)
  · intro pairs
    obtain ⟨steps, walk, onLeft, onRight⟩ := exists_walk_of_forall₂ conserves items pairs
    have reached := best.greatest walk
    have within := balances.within
    rw [← matched_gaps against label] at reached
    exact balances.fullWhen.full.2 ⟨by omega, by omega⟩

/-- Two lists match in full, gaps counted, when their items are alike one after the other. -/
theorem fullWhen_ordered (conserves : Conserves against)
    (positive : ∀ item : α, 0 < Node.weight item) (label : String) (rights : List α)
    (items : ∀ left ∈ lefts, ∀ right, (against left right).FullWhen (alike left right)) :
    (ordered against label lefts rights).FullWhen (List.Forall₂ alike lefts rights) := by
  obtain ⟨bounded, full⟩ := fullWhen_gaps conserves positive label rights items
  rw [← matched_ordered against label label, ← total_ordered against label label] at bounded full
  exact ⟨bounded, full⟩

end Alignment

/-- Two lists of leaves match in full when one rearranges the other. -/
theorem Assignment.fullWhen_unordered {α : Type} [DecidableEq α] [Node α]
    {against : α → α → Similarity} (conserves : Conserves against)
    (leaves : ∀ left right, (against left right).matched = if left = right then 1 else 0)
    (one : ∀ item : α, Node.weight item = 1) (label : String) (lefts rights : List α) :
    (unordered against label lefts rights).FullWhen (lefts.Perm rights) := by
  have balances := balances_unordered label fun left (_ : left ∈ lefts) right
    (_ : right ∈ rights) => conserves left right
  have fullWhen := balances.fullWhen
  rw [totalWeight_eq_length one, totalWeight_eq_length one,
    matched_unordered_leaves leaves] at fullWhen
  exact fullWhen.of_iff (length_bagInter_iff_perm lefts rights)

/-! ## Nodes -/

/-- A comparison that matches all of two nodes when they are related. -/
def Recognizes {α : Type} (against : α → α → Similarity) (alike : α → α → Prop) : Prop :=
  ∀ left right, (against left right).FullWhen (alike left right)

/-- Literals with equal values. -/
def Literal.Same (left right : Literal) : Prop := left.same right = true

/-- Literals with equal values are of one kind. -/
theorem Literal.Same.sameKind {left right : Literal} (equal : left.Same right) :
    left.sameKind right := by
  revert equal
  cases left <;> cases right <;> simp [Literal.Same, Literal.same, Literal.sameKind]

/-- Literals match in full when their values are equal. -/
theorem Literal.recognizes : Recognizes Literal.against Literal.Same := by
  intro left right
  rw [Literal.against]
  split
  · exact (Similarity.fullWhen_leaf _ _).between left right
  · rename_i different
    have positive : 0 < Node.weight left := Nat.one_pos
    refine (Similarity.fullWhen_mismatch right positive).of_iff ⟨False.elim, fun equal => ?_⟩
    exact different equal.sameKind

/-- Statements of different kinds never match in full. -/
theorem Statement.fullWhen_mismatch {left right : Statement}
    (different : ¬Statement.Alike Literal.Same left right) :
    (Similarity.mismatch left right).FullWhen (Statement.Alike Literal.Same left right) :=
  (Similarity.fullWhen_mismatch right left.weight_pos).of_iff (iff_false_intro different).symm

/-- Statements match in full when they are alike. -/
theorem Statement.recognizes : Recognizes Statement.against (Statement.Alike Literal.Same) := by
  intro left
  induction left using Statement.induction with
  | unary symbol operand ih =>
    intro right
    cases right with
    | unary symbol' operand' =>
      rw [Statement.against]
      split
      · rename_i equal
        subst equal
        have parts := (Similarity.fullWhen_leaf "operator" true).add_cons
          ((ih operand').add_cons (Similarity.fullWhen_add_nil symbol.name))
        refine (parts.between _ _).of_iff ⟨fun full => .unary symbol full.2.1, ?_⟩
        rintro (⟨_, inner⟩)
        exact ⟨rfl, inner, trivial⟩
      · rename_i different
        refine Statement.fullWhen_mismatch ?_
        rintro (_ | _)
        exact different rfl
    | _ => exact Statement.fullWhen_mismatch (by rintro ⟨⟩)
  | binary symbol first second ihFirst ihSecond =>
    intro right
    cases right with
    | binary symbol' first' second' =>
      rw [Statement.against]
      split
      · rename_i equal
        subst equal
        have parts := (Similarity.fullWhen_leaf "operator" true).add_cons
          ((ihFirst first').add_cons
            ((ihSecond second').add_cons (Similarity.fullWhen_add_nil symbol.name)))
        refine (parts.between _ _).of_iff
          ⟨fun full => .binary symbol full.2.1 full.2.2.1, ?_⟩
        rintro (_ | ⟨_, onFirst, onSecond⟩)
        exact ⟨rfl, onFirst, onSecond, trivial⟩
      · rename_i different
        refine Statement.fullWhen_mismatch ?_
        rintro (_ | _)
        exact different rfl
    | _ => exact Statement.fullWhen_mismatch (by rintro ⟨⟩)
  | literal value =>
    intro right
    cases right with
    | literal value' =>
      refine (Literal.recognizes value value').of_iff ⟨.literal, ?_⟩
      rintro (_ | _ | equal)
      exact equal
    | _ => exact Statement.fullWhen_mismatch (by rintro ⟨⟩)
  | reference name =>
    intro right
    cases right with
    | reference name' =>
      refine ((Similarity.fullWhen_leaf _ _).between _ _).of_iff ?_
      rw [decide_eq_true_iff]
      constructor
      · rintro rfl
        exact .reference name
      · rintro (_ | _)
        rfl
    | _ => exact Statement.fullWhen_mismatch (by rintro ⟨⟩)
  | group items ih =>
    intro right
    cases right with
    | group items' =>
      have inside := Alignment.fullWhen_ordered Statement.conserves Statement.weight_pos
        "parameters" items' ih
      rw [Alignment.ordered, ← Statement.comparisons_eq] at inside
      have parts := (Similarity.fullWhen_leaf "parentheses" true).add_cons
        (inside.add_cons (Similarity.fullWhen_add_nil "ParameterPassing"))
      rw [Statement.against]
      refine (parts.between _ _).of_iff ⟨fun full => .group full.2.1, ?_⟩
      rintro (_ | _ | _ | _ | inner)
      exact ⟨rfl, inner, trivial⟩
    | _ => exact Statement.fullWhen_mismatch (by rintro ⟨⟩)

/-- Parts that may be missing match in full when both are missing or both are alike. -/
theorem fullWhen_optionalAgainst {α : Type} [Node α] {against : α → α → Similarity}
    {alike : α → α → Prop} (recognizes : Recognizes against alike)
    (positive : ∀ item : α, 0 < Node.weight item) (label : String) (left right : Option α) :
    (Similarity.add label (optionalAgainst against left right).toList).FullWhen
      (Option.Rel alike left right) := by
  have nothing := Similarity.fullWhen_add_nil label
  cases left with
  | none =>
    cases right with
    | none => exact nothing.of_iff (iff_of_true trivial .none)
    | some right =>
      have gap := (Similarity.fullWhen_inserted (positive right)).add_cons nothing
      exact gap.of_iff ⟨fun ⟨never, _⟩ => never.elim, nofun⟩
  | some left =>
    cases right with
    | none =>
      have gap := (Similarity.fullWhen_removed (positive left)).add_cons nothing
      exact gap.of_iff ⟨fun ⟨never, _⟩ => never.elim, nofun⟩
    | some right =>
      refine ((recognizes left right).add_cons nothing).of_iff ⟨fun ⟨equal, _⟩ => .some equal, ?_⟩
      rintro (⟨equal⟩)
      exact ⟨equal, trivial⟩

/-- Declarations match in full when they are alike. -/
theorem Declaration.recognizes :
    Recognizes Declaration.against (Declaration.Alike Literal.Same) := by
  intro left right
  have qualifiers := Assignment.fullWhen_unordered Qualifier.conserves
    (fun left right => by simp [Qualifier.against]) (fun _ => rfl) "qualifiers" left.qualifiers
    right.qualifiers
  have name := Similarity.fullWhen_leaf "name"
    (left.typeText = right.typeText && left.name = right.name)
  have initializer := fullWhen_optionalAgainst Statement.recognizes Statement.weight_pos
    "VariableDeclaration" left.initializer right.initializer
  have parts := qualifiers.add_cons (name.add_cons initializer)
  refine (parts.between left right).of_iff ?_
  simp only [Bool.and_eq_true, decide_eq_true_iff]
  constructor
  · rintro ⟨rearranged, ⟨typeText, name⟩, initial⟩
    exact ⟨rearranged, typeText, name, initial⟩
  · rintro ⟨rearranged, typeText, name, initial⟩
    exact ⟨rearranged, ⟨typeText, name⟩, initial⟩

/-- Expressions of different kinds never match in full. -/
theorem Expression.fullWhen_mismatch {left right : Expression}
    (different : ¬Expression.Alike Literal.Same left right) :
    (Similarity.mismatch left right).FullWhen (Expression.Alike Literal.Same left right) :=
  (Similarity.fullWhen_mismatch right left.weight_pos).of_iff (iff_false_intro different).symm

/-- Bodies match in full when their expressions are alike, one after the other. -/
theorem fullWhen_bodies {lefts : List Expression} (label : String)
    (items : ∀ left ∈ lefts, ∀ right,
      (left.against right).FullWhen (Expression.Alike Literal.Same left right))
    (rights : List Expression) :
    (Alignment.gaps Expression.against label lefts rights).FullWhen
      (List.Forall₂ (Expression.Alike Literal.Same) lefts rights) :=
  Alignment.fullWhen_gaps hereditary_balances.expression Expression.weight_pos label rights items

namespace Block

theorem Alike.keyword_eq {same : Literal → Literal → Prop} {left right : Block}
    (alike : Block.Alike same left right) : left.keyword = right.keyword := by
  cases alike <;> rfl

/-- Blocks of different kinds never match in full. -/
theorem fullWhen_of_keyword_ne {left right : Block} (different : left.keyword ≠ right.keyword) :
    (left.against right).FullWhen (Block.Alike Literal.Same left right) := by
  have shared := balances_sharedParts left.typeName fun body (_ : body ∈ left.bodies) other
    (_ : other ∈ right.bodies) =>
      balances_bodies "body" (fun item _ => hereditary_balances.expression item) other
  rw [against_of_keyword_ne different, acrossKinds_eq]
  refine ((shared.fullWhen.withUnmatched _).between left right).of_iff ⟨False.elim, ?_⟩
  exact fun alike => different alike.keyword_eq

/-- Blocks of one kind match in full when their parts do. -/
theorem fullWhen_sameKind (first second : Block) {label : String} {parts : List Similarity}
    {condition : Prop} (fullWhen : (Similarity.add label parts).FullWhen condition) :
    (first.sameKind second parts).FullWhen condition := by
  obtain ⟨bounded, full⟩ := (Similarity.fullWhen_leaf first.keyword true).add_cons fullWhen
  exact ⟨bounded, full.trans (and_iff_right rfl)⟩

end Block

/-- Expressions, blocks and catch clauses match in full when they are alike, by induction on the
left one. -/
theorem hereditary_recognizes : Expression.Hereditary
    (fun left => ∀ right, (left.against right).FullWhen (Expression.Alike Literal.Same left right))
    (fun left => ∀ right, (left.against right).FullWhen (Block.Alike Literal.Same left right))
    (fun left => ∀ right,
      (left.against right).FullWhen (CatchClause.Alike Literal.Same left right)) where
  empty := by
    intro right
    cases right with
    | empty =>
      exact ((Similarity.fullWhen_leaf "EmptyExpression" true).between _ _).of_iff
        (iff_of_true rfl .empty)
    | _ => exact Expression.fullWhen_mismatch nofun
  declaration := by
    intro declared right
    cases right with
    | declaration declared' =>
      refine (Declaration.recognizes declared declared').of_iff ⟨.declaration, ?_⟩
      rintro (_ | inner)
      exact inner
    | _ => exact Expression.fullWhen_mismatch nofun
  statement := by
    intro value right
    cases right with
    | statement value' =>
      refine (Statement.recognizes value value').of_iff ⟨.statement, ?_⟩
      rintro (_ | _ | _ | inner)
      exact inner
    | _ => exact Expression.fullWhen_mismatch nofun
  block := by
    intro inner ih right
    cases right with
    | block inner' =>
      refine (ih inner').of_iff ⟨.block, ?_⟩
      rintro (_ | _ | blocks)
      exact blocks
    | _ => exact Expression.fullWhen_mismatch nofun
  branch := by
    intro condition thenBody elseBody ihThen ihElse right
    cases right with
    | branch condition' thenBody' elseBody' =>
      have parts := (Statement.recognizes condition condition').add_cons
        ((fullWhen_bodies "then" ihThen thenBody').add_cons
          ((fullWhen_bodies "else" ihElse elseBody').add_cons (Similarity.fullWhen_add_nil "If")))
      rw [Block.against_branch]
      refine (Block.fullWhen_sameKind _ _ parts).of_iff ⟨?_, ?_⟩
      · rintro ⟨conditions, thenBodies, elseBodies, _⟩
        exact .branch conditions thenBodies elseBodies
      · rintro (⟨conditions, thenBodies, elseBodies⟩)
        exact ⟨conditions, thenBodies, elseBodies, trivial⟩
    | _ => exact Block.fullWhen_of_keyword_ne (by simp [Block.keyword])
  whileLoop := by
    intro condition body ih right
    cases right with
    | whileLoop condition' body' =>
      have parts := (Statement.recognizes condition condition').add_cons
        ((fullWhen_bodies "body" ih body').add_cons (Similarity.fullWhen_add_nil "While"))
      rw [Block.against_whileLoop]
      refine (Block.fullWhen_sameKind _ _ parts).of_iff ⟨?_, ?_⟩
      · rintro ⟨conditions, bodies, _⟩
        exact .whileLoop conditions bodies
      · rintro (_ | ⟨conditions, bodies⟩)
        exact ⟨conditions, bodies, trivial⟩
    | _ => exact Block.fullWhen_of_keyword_ne (by simp [Block.keyword])
  doWhileLoop := by
    intro condition body ih right
    cases right with
    | doWhileLoop condition' body' =>
      have parts := (Statement.recognizes condition condition').add_cons
        ((fullWhen_bodies "body" ih body').add_cons (Similarity.fullWhen_add_nil "DoWhile"))
      rw [Block.against_doWhileLoop]
      refine (Block.fullWhen_sameKind _ _ parts).of_iff ⟨?_, ?_⟩
      · rintro ⟨conditions, bodies, _⟩
        exact .doWhileLoop conditions bodies
      · rintro (_ | _ | ⟨conditions, bodies⟩)
        exact ⟨conditions, bodies, trivial⟩
    | _ => exact Block.fullWhen_of_keyword_ne (by simp [Block.keyword])
  forLoop := by
    intro init condition iteration body ihInit ihCondition ihIteration ih right
    cases right with
    | forLoop init' condition' iteration' body' =>
      have parts := (ihInit init').add_cons ((ihCondition condition').add_cons
        ((ihIteration iteration').add_cons
          ((fullWhen_bodies "body" ih body').add_cons (Similarity.fullWhen_add_nil "For"))))
      rw [Block.against_forLoop]
      refine (Block.fullWhen_sameKind _ _ parts).of_iff ⟨?_, ?_⟩
      · rintro ⟨inits, conditions, iterations, bodies, _⟩
        exact .forLoop inits conditions iterations bodies
      · rintro (_ | _ | _ | ⟨inits, conditions, iterations, bodies⟩)
        exact ⟨inits, conditions, iterations, bodies, trivial⟩
    | _ => exact Block.fullWhen_of_keyword_ne (by simp [Block.keyword])
  guarded := by
    intro resources body handlers cleanup ihBody ihHandlers ihCleanup right
    cases right with
    | guarded resources' body' handlers' cleanup' =>
      have ofResources := Alignment.fullWhen_ordered Declaration.conserves Declaration.weight_pos
        "resources" resources' fun left (_ : left ∈ resources) => Declaration.recognizes left
      have ofHandlers := Alignment.fullWhen_ordered hereditary_balances.clauses
        CatchClause.weight_pos "catches" handlers' fun left member => (ihHandlers left member).1
      have parts := ofResources.add_cons ((fullWhen_bodies "try" ihBody body').add_cons
        (ofHandlers.add_cons ((fullWhen_bodies "finally" ihCleanup (cleanup'.getD [])).add_cons
          (Similarity.fullWhen_add_nil "TryCatchFinally"))))
      rw [Block.against_guarded]
      refine (Block.fullWhen_sameKind _ _ parts).of_iff ⟨?_, ?_⟩
      · rintro ⟨opened, bodies, clauses, cleanups, _⟩
        exact .guarded opened bodies clauses cleanups
      · rintro (_ | _ | _ | _ | ⟨opened, bodies, clauses, cleanups⟩)
        exact ⟨opened, bodies, clauses, cleanups, trivial⟩
    | _ => exact Block.fullWhen_of_keyword_ne (by simp [Block.keyword])
  clause := by
    intro exceptionTypes binder body ih right
    obtain ⟨exceptionTypes', binder', body'⟩ := right
    have types := Assignment.fullWhen_unordered Identifier.conserves
      (fun left right => by simp [Identifier.against]) (fun _ => rfl) "exception types"
      exceptionTypes exceptionTypes'
    have tested := Similarity.fullWhen_leaf "variable" (binder = binder')
    have parts := types.add_cons (tested.add_cons ((fullWhen_bodies "catch" ih body').add_cons
      (Similarity.fullWhen_add_nil "CatchClause")))
    rw [CatchClause.against_eq]
    refine (parts.between _ _).of_iff ?_
    rw [decide_eq_true_iff]
    constructor
    · rintro ⟨rearranged, rfl, bodies, _⟩
      exact .clause binder rearranged bodies
    · rintro (⟨_, rearranged, bodies⟩)
      exact ⟨rearranged, rfl, bodies, trivial⟩

/-! ## Trees -/

theorem recognizes_compare : Recognizes compare (SyntaxTree.Alike Literal.Same) := fun _ right =>
  fullWhen_bodies "file" (fun item _ => hereditary_recognizes.expression item) right.expressions

/-- Only a full match is called identical, whatever the threshold is. -/
theorem Similarity.verdict_eq_identical_iff (similarity : Similarity) (threshold : Binary64) :
    similarity.verdict threshold = .identical ↔ similarity.matched = similarity.total := by
  rw [Similarity.verdict, Similarity.isIdentical]
  split
  · rename_i full
    exact iff_of_true rfl (eq_of_beq full)
  · rename_i different
    refine iff_of_false ?_ fun full => different (beq_iff_eq.2 full)
    split <;> rintro ⟨⟩

/-- Only a full match reaches the whole percentage, as percentages are rounded down. -/
theorem Similarity.FullWhen.percentage_eq_iff {similarity : Similarity} {condition : Prop}
    (fullWhen : similarity.FullWhen condition) : similarity.percentage = 100 ↔ condition := by
  obtain ⟨bounded, full⟩ := fullWhen
  rw [← full, Similarity.percentage]
  split
  · rename_i empty
    exact iff_of_true rfl (by omega)
  · rename_i weighty
    have positive : 0 < similarity.total := Nat.pos_of_ne_zero weighty
    rw [Nat.div_eq_iff positive]
    omega

/-- A number is equal to itself. -/
theorem Binary64.same_self {value : Binary64} (number : value ≠ .nan) : value.same value := by
  cases value with
  | nan => exact absurd rfl number
  | infinite negative => exact beq_self_eq_true negative
  | finite negative mantissa exponent => exact beq_self_eq_true _

/-- A literal other than a double that is no number has the same value as itself. -/
theorem Literal.same_self {value : Literal} (number : ∀ wide, value ≠ .double .nan wide) :
    value.Same value := by
  cases value with
  | double value wide =>
    have equal : value.same value := Binary64.same_self fun same => number wide (by rw [same])
    simp [Literal.Same, Literal.same, equal]
  | _ => simp [Literal.Same, Literal.same]

/-- Two trees are identical, at any threshold, and match in a hundred percent just when they are
equal node for node, where literals are compared by value, qualifiers and exception types stand in
any order, and a missing `finally` is as good as an empty one. So every tree without a double that
is no number is identical to itself, and all its weight is matched. -/
theorem identical_iff_alike :
    (∀ left right : SyntaxTree,
      (∀ threshold, (compare left right).verdict threshold = .identical ↔
        SyntaxTree.Alike Literal.Same left right) ∧
      ((compare left right).percentage = 100 ↔ SyntaxTree.Alike Literal.Same left right)) ∧
    ∀ tree : SyntaxTree, (∀ wide, Literal.double .nan wide ∉ tree.literals) →
      (∀ threshold, (compare tree tree).verdict threshold = .identical) ∧
      (compare tree tree).matched = tree.weight ∧ (compare tree tree).total = tree.weight := by
  have identical (left right : SyntaxTree) (threshold : Binary64) :
      (compare left right).verdict threshold = .identical ↔
        SyntaxTree.Alike Literal.Same left right :=
    ((compare left right).verdict_eq_identical_iff threshold).trans
      (recognizes_compare left right).full
  refine ⟨fun left right =>
    ⟨identical left right, (recognizes_compare left right).percentage_eq_iff⟩, ?_⟩
  intro tree numbers
  have alike : SyntaxTree.Alike Literal.Same tree tree :=
    SyntaxTree.Alike.refl tree fun value member => Literal.same_self fun wide same =>
      numbers wide (same ▸ member)
  have recognized := recognizes_compare tree tree
  obtain ⟨matched, _⟩ := recognized.matched_eq (conserves_compare tree tree) alike
  exact ⟨fun threshold => (identical tree tree threshold).2 alike, matched,
    (recognized.full.2 alike).symm.trans matched⟩

/-- A declaration with a double for its initial value is identical to itself, and all its weight of
three is matched. -/
theorem identical_declared_half :
    let tree := SyntaxTree.mk [.declaration
      ⟨[.finalWord], "double", "half", some (.literal (.double (.finite false 1 (-1)) true))⟩]
    (compare tree tree).verdict (.zero false) = .identical ∧ (compare tree tree).matched = 3 := by
  intro tree
  obtain ⟨identical, matched, _⟩ := identical_iff_alike.2 tree (by intro wide; cases wide <;> decide)
  exact ⟨identical _, matched⟩

end Likeness
