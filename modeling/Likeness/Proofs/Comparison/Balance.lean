import Likeness.Proofs.Alignment
import Likeness.Proofs.Assignment.Optimality
import Likeness.Proofs.Comparison.Structure

/-!
# Comparisons account for all weight

What two nodes weigh together is what their comparison matches, which counts for both sides, and what
it does not match: matched and total weight add up to the weights of both, and no more is matched
than either side has. `Similarity.Balances` states this of one result. It is kept by every way to
put results together: parts of a node, steps of an alignment, pairs of an assignment, and the
account that is kept for blocks of different kinds. `Conserves` states it of a comparison of nodes.
-/

namespace Likeness

/-- A sum is the library's sum. -/
theorem Whole.sum_eq_sum (numbers : List Nat) : Whole.sum numbers = numbers.sum := by
  induction numbers with
  | nil => rfl
  | cons number numbers ih => simp [ih]

namespace Similarity

/-- A result that accounts for the weights of both sides and matches no more than either. -/
structure Balances (similarity : Similarity) (left right : Nat) : Prop where
  account : similarity.matched + similarity.total = left + right
  within : similarity.matched ≤ min left right

variable {similarity : Similarity} {left right left' right' : Nat}

/-- Only the two weights of a result matter. -/
theorem Balances.congr {other : Similarity} (balances : similarity.Balances left right)
    (matched : other.matched = similarity.matched) (total : other.total = similarity.total) :
    other.Balances left right := by
  obtain ⟨account, within⟩ := balances
  exact ⟨by omega, by omega⟩

/-- Weights may be written differently. -/
theorem Balances.of_eq (balances : similarity.Balances left right) (sameLeft : left' = left)
    (sameRight : right' = right) : similarity.Balances left' right' := by
  subst sameLeft sameRight
  exact balances

theorem balances_leaf (label : String) (equal : Bool) : (leaf label equal).Balances 1 1 := by
  cases equal <;> exact ⟨rfl, by simp⟩

theorem balances_add_nil (label : String) : (add label []).Balances 0 0 := ⟨rfl, Nat.zero_le _⟩

/-- One more part adds its weights. -/
theorem Balances.add_cons {label : String} {others : List Similarity}
    (first : similarity.Balances left right) (rest : (add label others).Balances left' right') :
    (add label (similarity :: others)).Balances (left + left') (right + right') := by
  obtain ⟨account, within⟩ := first
  obtain ⟨account', within'⟩ := rest
  simp only [matched_add, total_add] at account' within'
  constructor <;> simp only [matched_add, total_add, List.map_cons, Whole.sum_cons] <;> omega

/-- Parts behind others add their weights. -/
theorem Balances.add_append {label : String} {first second : List Similarity}
    (front : (add label first).Balances left right) (back : (add label second).Balances left' right') :
    (add label (first ++ second)).Balances (left + left') (right + right') := by
  obtain ⟨account, within⟩ := front
  obtain ⟨account', within'⟩ := back
  simp only [matched_add, total_add] at account within account' within'
  constructor <;> simp only [matched_add, total_add, List.map_append, Whole.sum_append] <;> omega

/-- Unmatched weight adds to the side it comes from. -/
theorem Balances.withUnmatched (balances : similarity.Balances left right) (more more' : Nat) :
    (similarity.withUnmatched (more + more')).Balances (left + more) (right + more') := by
  obtain ⟨account, within⟩ := balances
  constructor <;> simp only [matched_withUnmatched, total_withUnmatched] <;> omega

section Nodes

variable {α β : Type} [Node α] [Node β]

theorem Balances.between (balances : similarity.Balances left right) (first : α) (second : β) :
    (similarity.between first second).Balances left right :=
  balances.congr rfl rfl

theorem balances_mismatch (first : α) (second : β) :
    (mismatch first second).Balances (Node.weight first) (Node.weight second) :=
  ⟨by simp, by simp⟩

theorem balances_removed (item : α) : (removed item).Balances (Node.weight item) 0 :=
  ⟨by simp, by simp⟩

theorem balances_inserted (item : α) : (inserted item).Balances 0 (Node.weight item) :=
  ⟨by simp, by simp⟩

end Nodes

end Similarity

/-! ## Lists -/

namespace Alignment

variable {α β : Type} {compare : α → β → Similarity} {lefts : List α} {rights : List β}
  {steps : List (AlignStep α β)}

/-- The steps of a walk account for both lists, if what is shown for each of them accounts for the
items it takes. -/
theorem Walk.balances (walk : Walk compare lefts rights steps) {shown : AlignStep α β → Similarity}
    {weighLeft : α → Nat} {weighRight : β → Nat} (label : String)
    (pair : ∀ left ∈ lefts, ∀ right ∈ rights,
      (shown (.pair left right (compare left right))).Balances (weighLeft left) (weighRight right))
    (removed : ∀ left ∈ lefts, (shown (.removed left)).Balances (weighLeft left) 0)
    (inserted : ∀ right ∈ rights, (shown (.inserted right)).Balances 0 (weighRight right)) :
    (Similarity.add label (steps.map shown)).Balances (Whole.sum (lefts.map weighLeft))
      (Whole.sum (rights.map weighRight)) := by
  induction walk with
  | done => exact Similarity.balances_add_nil label
  | pair left right _ ih =>
    have head := pair left (.head _) right (.head _)
    exact head.add_cons (ih (fun left member right member' =>
      pair left (.tail _ member) right (.tail _ member'))
      (fun left member => removed left (.tail _ member))
      (fun right member => inserted right (.tail _ member)))
  | removed left _ ih =>
    have rest := ih (fun left member => pair left (.tail _ member))
      (fun left member => removed left (.tail _ member)) inserted
    exact ((removed left (.head _)).add_cons rest).of_eq rfl (Nat.zero_add _).symm
  | inserted right _ ih =>
    have rest := ih (fun left member right member' => pair left member right (.tail _ member'))
      removed (fun right member => inserted right (.tail _ member))
    exact ((inserted right (.head _)).add_cons rest).of_eq (Nat.zero_add _).symm rfl

variable [Node α] [Node β]

/-- Leaving gaps out of the list changes no weight. -/
theorem matched_ordered (compare : α → β → Similarity) (label label' : String) (lefts : List α)
    (rights : List β) :
    (ordered compare label lefts rights).matched = (gaps compare label' lefts rights).matched := by
  simp only [ordered, orderedBy, gaps, gapsBy, Similarity.matched_withUnmatched,
    Similarity.matched_add]
  induction Alignment.steps (comparisons compare lefts rights) rights with
  | nil => rfl
  | cons step steps ih =>
    cases step <;>
      simp only [List.filterMap_cons, List.map_cons, Whole.sum_cons, paired?, listed,
        Similarity.matched_removed, Similarity.matched_inserted] <;> omega

/-- Gaps that are only counted count as much as gaps that are listed. -/
theorem total_ordered (compare : α → β → Similarity) (label label' : String) (lefts : List α)
    (rights : List β) :
    (ordered compare label lefts rights).total = (gaps compare label' lefts rights).total := by
  simp only [ordered, orderedBy, gaps, gapsBy, Similarity.total_withUnmatched,
    Similarity.total_add]
  induction Alignment.steps (comparisons compare lefts rights) rights with
  | nil => rfl
  | cons step steps ih =>
    cases step <;>
      simp only [List.filterMap_cons, List.map_cons, Whole.sum_cons, paired?, listed, gapWeight,
        Similarity.total_removed, Similarity.total_inserted] <;> omega

/-- What is matched of two lists is the score of their alignment. -/
theorem matched_gaps (compare : α → β → Similarity) (label : String) (lefts : List α)
    (rights : List β) :
    (gaps compare label lefts rights).matched = score (align compare lefts rights) := by
  simp only [gaps, gapsBy, align, score, Similarity.matched_add]
  induction Alignment.steps (comparisons compare lefts rights) rights with
  | nil => rfl
  | cons step steps ih =>
    cases step <;>
      simp only [List.map_cons, Whole.sum_cons, listed, AlignStep.matched,
        Similarity.matched_removed, Similarity.matched_inserted] <;> omega

/-- Comparing two lists with their gaps accounts for all items. -/
theorem balances_gaps (label : String)
    (items : ∀ left ∈ lefts, ∀ right ∈ rights,
      (compare left right).Balances (Node.weight left) (Node.weight right)) :
    (gaps compare label lefts rights).Balances (totalWeight lefts) (totalWeight rights) :=
  (optimal_align compare lefts rights).walk.balances label items
    (fun left _ => Similarity.balances_removed left)
    (fun right _ => Similarity.balances_inserted right)

/-- Comparing two lists in order accounts for all items. -/
theorem balances_ordered (label : String)
    (items : ∀ left ∈ lefts, ∀ right ∈ rights,
      (compare left right).Balances (Node.weight left) (Node.weight right)) :
    (ordered compare label lefts rights).Balances (totalWeight lefts) (totalWeight rights) :=
  (balances_gaps label items).congr (matched_ordered compare label label lefts rights)
    (total_ordered compare label label lefts rights)

end Alignment

namespace Assignment

variable {α β : Type} [Node α] [Node β]

/-- The items that are used and those that are not weigh as much as all of them. -/
theorem sum_used_add_weightOfUnused (items : List α) {used : List (Fin items.length)}
    (nodup : used.Nodup) :
    Whole.sum (used.map fun index => Node.weight (items.get index)) + weightOfUnused items used =
      totalWeight items := by
  have isUsed :
      ((List.finRange items.length).filter fun index => used.contains index).Perm used := by
    refine (List.perm_ext_iff_of_nodup ((List.nodup_finRange _).filter _) nodup).2 fun index => ?_
    simp
  have parts := List.filter_append_perm (fun index => used.contains index)
    (List.finRange items.length)
  have whole : (List.finRange items.length).map (fun index => Node.weight (items.get index)) =
      items.map Node.weight := by
    calc (List.finRange items.length).map (fun index => Node.weight (items.get index))
        = ((List.finRange items.length).map items.get).map Node.weight := by rw [List.map_map]; rfl
      _ = items.map Node.weight := by rw [List.map_get_finRange]
  rw [weightOfUnused, totalWeight, ← whole, ← Whole.sum_append, ← List.map_append]
  simp only [Whole.sum_eq_sum]
  exact (((isUsed.symm.append_right _).trans parts).map _).sum_eq

omit [Node α] [Node β] in
/-- The pairs of two lists that are compared without order: those of the best assignment that match
in something. -/
def matchingPairs (compare : α → β → Similarity) (lefts : List α) (rights : List β) :
    List (Fin lefts.length × Fin rights.length) :=
  (best fun row column => (compare (lefts.get row) (rights.get column)).matched).filter
    fun pair => 0 < (compare (lefts.get pair.1) (rights.get pair.2)).matched

/-- A comparison without order lists its pairs and counts the rest. -/
theorem unordered_eq (compare : α → β → Similarity) (label : String) (lefts : List α)
    (rights : List β) :
    let pairs := matchingPairs compare lefts rights
    unordered compare label lefts rights =
      (Similarity.add label (pairs.map fun pair =>
        compare (lefts.get pair.1) (rights.get pair.2))).withUnmatched
          (weightOfUnused lefts (pairs.map Prod.fst)
            + weightOfUnused rights (pairs.map Prod.snd)) := by
  simp only [unordered, matchingPairs, Fin.getElem_fin, Vector.getElem_ofFn, Fin.eta]

omit [Node α] [Node β] in
/-- The pairs that match in something are a matching. -/
theorem matching_matchingPairs (compare : α → β → Similarity) (lefts : List α) (rights : List β) :
    Matching (matchingPairs compare lefts rights) where
  rows := (matching_best _).rows.sublist (List.filter_sublist.map _)
  columns := (matching_best _).columns.sublist (List.filter_sublist.map _)

/-- Pairs account for the items that they use. -/
theorem balances_pairs {compare : α → β → Similarity} {lefts : List α} {rights : List β}
    (label : String) (pairs : List (Fin lefts.length × Fin rights.length))
    (items : ∀ left ∈ lefts, ∀ right ∈ rights,
      (compare left right).Balances (Node.weight left) (Node.weight right)) :
    (Similarity.add label (pairs.map fun pair =>
      compare (lefts.get pair.1) (rights.get pair.2))).Balances
        (Whole.sum ((pairs.map Prod.fst).map fun index => Node.weight (lefts.get index)))
        (Whole.sum ((pairs.map Prod.snd).map fun index => Node.weight (rights.get index))) := by
  induction pairs with
  | nil => exact Similarity.balances_add_nil label
  | cons pair pairs ih =>
    have head := items _ (List.get_mem lefts pair.1) _ (List.get_mem rights pair.2)
    exact head.add_cons ih

/-- Comparing two lists without order accounts for all items. -/
theorem balances_unordered {compare : α → β → Similarity} {lefts : List α} {rights : List β}
    (label : String)
    (items : ∀ left ∈ lefts, ∀ right ∈ rights,
      (compare left right).Balances (Node.weight left) (Node.weight right)) :
    (unordered compare label lefts rights).Balances (totalWeight lefts) (totalWeight rights) := by
  have matching := matching_matchingPairs compare lefts rights
  rw [unordered_eq, ← sum_used_add_weightOfUnused lefts matching.rows,
    ← sum_used_add_weightOfUnused rights matching.columns]
  exact (balances_pairs label _ items).withUnmatched _ _

end Assignment

/-! ## Nodes -/

/-- A comparison of nodes that accounts for all weight of both. -/
def Conserves {α : Type} [Node α] (against : α → α → Similarity) : Prop :=
  ∀ left right, (against left right).Balances (Node.weight left) (Node.weight right)

theorem Identifier.conserves : Conserves Identifier.against := fun left right =>
  (Similarity.balances_leaf _ _).between left right

theorem Qualifier.conserves : Conserves Qualifier.against := fun left right =>
  (Similarity.balances_leaf _ _).between left right

/-- Literals are compared as wholes, if they are of one kind. -/
theorem Literal.conserves : Conserves Literal.against := by
  intro left right
  unfold Literal.against
  split
  · exact (Similarity.balances_leaf _ _).between left right
  · exact Similarity.balances_mismatch left right

/-- Statements of one kind account for their operator or parentheses and for what these hold. -/
theorem Statement.conserves : Conserves Statement.against := by
  intro left
  induction left using Statement.induction with
  | unary symbol operand ih =>
    intro right
    cases right with
    | unary symbol' operand' =>
      rw [Statement.against]
      split
      · have parts := (Similarity.balances_leaf "operator" true).add_cons
          ((ih operand').add_cons (Similarity.balances_add_nil symbol.name))
        exact parts.between _ _
      · exact Similarity.balances_mismatch _ _
    | _ => exact Similarity.balances_mismatch _ _
  | binary symbol first second ihFirst ihSecond =>
    intro right
    cases right with
    | binary symbol' first' second' =>
      rw [Statement.against]
      split
      · have parts := (Similarity.balances_leaf "operator" true).add_cons
          ((ihFirst first').add_cons
            ((ihSecond second').add_cons (Similarity.balances_add_nil symbol.name)))
        exact (parts.between _ _).of_eq (Nat.add_assoc _ _ _) (Nat.add_assoc _ _ _)
      · exact Similarity.balances_mismatch _ _
    | _ => exact Similarity.balances_mismatch _ _
  | literal value =>
    intro right
    cases right with
    | literal value' => exact Literal.conserves value value'
    | _ => exact Similarity.balances_mismatch _ _
  | reference name =>
    intro right
    cases right with
    | reference name' => exact (Similarity.balances_leaf _ _).between _ _
    | _ => exact Similarity.balances_mismatch _ _
  | group items ih =>
    intro right
    cases right with
    | group items' =>
      have inside := Alignment.balances_ordered "parameters" fun left member right
        (_ : right ∈ items') => ih left member right
      rw [Alignment.ordered, ← Statement.comparisons_eq] at inside
      have parts := (Similarity.balances_leaf "parentheses" true).add_cons
        (inside.add_cons (Similarity.balances_add_nil "ParameterPassing"))
      rw [Statement.against]
      refine (parts.between _ _).of_eq ?_ ?_ <;>
        simp [Node.weight, Statement.weight, Statement.weightOfAll_eq_sum, totalWeight]
    | _ => exact Similarity.balances_mismatch _ _

/-- Parts that may be missing account for what is there. -/
theorem balances_optionalAgainst {α : Type} [Node α] {against : α → α → Similarity}
    (conserves : Conserves against) (label : String) (left right : Option α) :
    (Similarity.add label (optionalAgainst against left right).toList).Balances
      ((left.map Node.weight).getD 0) ((right.map Node.weight).getD 0) := by
  have nothing := Similarity.balances_add_nil label
  cases left with
  | none =>
    cases right with
    | none => exact nothing
    | some right => exact (Similarity.balances_inserted right).add_cons nothing
  | some left =>
    cases right with
    | none => exact (Similarity.balances_removed left).add_cons nothing
    | some right => exact (conserves left right).add_cons nothing

/-- Qualifiers and exception types weigh one each. -/
theorem totalWeight_eq_length {α : Type} [Node α] (one : ∀ item : α, Node.weight item = 1)
    (items : List α) : totalWeight items = items.length := by
  induction items with
  | nil => rfl
  | cons item items ih => simp [one, ih, Nat.add_comm]

/-- Declarations account for their qualifiers, their name and their initial value. -/
theorem Declaration.conserves : Conserves Declaration.against := by
  intro left right
  have qualifiers := Assignment.balances_unordered "qualifiers" fun first
    (_ : first ∈ left.qualifiers) second (_ : second ∈ right.qualifiers) =>
      Qualifier.conserves first second
  have initializer := balances_optionalAgainst Statement.conserves "VariableDeclaration"
    left.initializer right.initializer
  have name := Similarity.balances_leaf "name"
    (left.typeText = right.typeText && left.name = right.name)
  have parts := qualifiers.add_cons (name.add_cons initializer)
  rw [totalWeight_eq_length fun _ => rfl, totalWeight_eq_length fun _ => rfl] at parts
  exact (parts.between left right).of_eq (Nat.add_assoc _ _ _) (Nat.add_assoc _ _ _)

theorem Expression.totalWeight_eq (body : List Expression) :
    totalWeight body = Expression.weightOfAll body :=
  (Expression.weightOfAll_eq_sum body).symm

theorem CatchClause.totalWeight_eq (clauses : List CatchClause) :
    totalWeight clauses = CatchClause.weightOfAll clauses :=
  (CatchClause.weightOfAll_eq_sum clauses).symm

theorem Expression.weightOfOptional_eq (body : Option (List Expression)) :
    Expression.weightOfOptional body = Expression.weightOfAll (body.getD []) := by
  cases body <;> rfl

namespace Block

/-- The bodies of catch clauses weigh no more than the clauses. -/
theorem sum_bodies_le_weightOfAll (handlers : List CatchClause) :
    Whole.sum (handlers.map fun clause => Expression.weightOfAll clause.body) ≤
      CatchClause.weightOfAll handlers := by
  induction handlers with
  | nil => simp
  | cons clause handlers ih =>
    obtain ⟨exceptionTypes, binder, body⟩ := clause
    simp only [List.map_cons, Whole.sum_cons, CatchClause.weightOfAll, CatchClause.weight]
    omega

/-- Keyword, condition and bodies weigh no more than the whole block. -/
theorem coveredWeight_le (block : Block) (withCondition : Bool) :
    block.coveredWeight withCondition ≤ block.weight := by
  -- The condition counts as present, which only makes the account larger.
  have largest : block.coveredWeight withCondition ≤ 1 + (block.condition.map Statement.weight).getD 0
      + Whole.sum (block.bodies.map Expression.weightOfAll) := by
    simp only [coveredWeight]
    split <;> omega
  refine Nat.le_trans largest ?_
  cases block with
  | branch condition thenBody elseBody =>
    simp only [Block.condition, bodies, weight, Option.map_some, Option.getD_some, List.map_cons,
      List.map_nil, Whole.sum_cons, Whole.sum_nil]
    omega
  | whileLoop condition body =>
    simp only [Block.condition, bodies, weight, Option.map_some, Option.getD_some, List.map_cons,
      List.map_nil, Whole.sum_cons, Whole.sum_nil]
    omega
  | doWhileLoop condition body =>
    simp only [Block.condition, bodies, weight, Option.map_some, Option.getD_some, List.map_cons,
      List.map_nil, Whole.sum_cons, Whole.sum_nil]
    omega
  | forLoop init condition iteration body =>
    cases condition <;> simp [Block.condition, bodies, weight, Expression.weight]; omega
  | guarded resources body handlers cleanup =>
    have clauses := sum_bodies_le_weightOfAll handlers
    cases cleanup with
    | none =>
      simp [condition, bodies, weight, Expression.weightOfOptional, Function.comp_def]
      omega
    | some cleanup =>
      simp [condition, bodies, weight, Expression.weightOfOptional, Function.comp_def]
      omega

/-- Blocks of one kind account for their keyword and their parts. -/
theorem balances_sameKind (first second : Block) {label : String} {parts : List Similarity}
    {left right : Nat} (balances : (Similarity.add label parts).Balances left right) :
    (first.sameKind second parts).Balances (1 + left) (1 + right) :=
  ((Similarity.balances_leaf first.keyword true).add_cons balances).congr rfl rfl

/-- A body without a counterpart accounts for itself on the left. -/
theorem balances_removedBody (label : String) (body : List Expression) :
    (Similarity.add label (body.map Similarity.removed)).Balances (Expression.weightOfAll body) 0 := by
  induction body with
  | nil => exact Similarity.balances_add_nil label
  | cons item body ih => exact (Similarity.balances_removed item).add_cons ih

/-- A body without a counterpart accounts for itself on the right. -/
theorem balances_insertedBody (label : String) (body : List Expression) :
    (Similarity.add label (body.map Similarity.inserted)).Balances 0
      (Expression.weightOfAll body) := by
  induction body with
  | nil => exact Similarity.balances_add_nil label
  | cons item body ih => exact (Similarity.balances_inserted item).add_cons ih

/-- Conditions account for themselves when both are there. -/
theorem balances_conditionsAgainst (label : String) (left right : Option Statement) :
    let compared := (conditionsAgainst left right).isSome
    (Similarity.add label (conditionsAgainst left right).toList).Balances
      (if compared then (left.map Statement.weight).getD 0 else 0)
      (if compared then (right.map Statement.weight).getD 0 else 0) := by
  have nothing := Similarity.balances_add_nil label
  cases left with
  | none => exact nothing
  | some left =>
    cases right with
    | none => exact nothing
    | some right => exact (Statement.conserves left right).add_cons nothing

/-- Conditions and bodies account for the weight that is covered beside the keyword. -/
theorem balances_sharedParts {left right : Block} (label : String)
    (items : ∀ body ∈ left.bodies, ∀ other ∈ right.bodies,
      (Expression.bodyAgainst body other).Balances (Expression.weightOfAll body)
        (Expression.weightOfAll other)) :
    let compared := (conditionsAgainst left.condition right.condition).isSome
    (Similarity.add label (sharedParts left right)).Balances (left.coveredWeight compared - 1)
      (right.coveredWeight compared - 1) := by
  intro compared
  have conditions := balances_conditionsAgainst label left.condition right.condition
  have walk := (Alignment.optimal_align Expression.bodyAgainst left.bodies right.bodies).walk
  have bodies : (Similarity.add "bodies" (List.map bodyShown _)).Balances _ _ :=
    walk.balances "bodies" items (fun body _ => balances_removedBody "body" body)
      (fun body _ => balances_insertedBody "body" body)
  have parts := conditions.add_append (bodies.add_cons (Similarity.balances_add_nil label))
  refine parts.of_eq ?_ ?_ <;> simp only [coveredWeight, compared] <;> omega

/-- Blocks of different kinds account for conditions and bodies, and for the rest as unmatched. The
account never covers more than a block weighs, so nothing is cut off. -/
theorem balances_acrossKinds {left right : Block}
    (items : ∀ body ∈ left.bodies, ∀ other ∈ right.bodies,
      (Expression.bodyAgainst body other).Balances (Expression.weightOfAll body)
        (Expression.weightOfAll other)) :
    (left.acrossKinds right
      (Alignment.comparisons Expression.bodyAgainst left.bodies right.bodies)).Balances left.weight
        right.weight := by
  rw [acrossKinds_eq]
  generalize isCompared : (conditionsAgainst left.condition right.condition).isSome = compared
  have keywords := Similarity.balances_leaf (left.keyword ++ " / " ++ right.keyword) false
  have shared := balances_sharedParts left.typeName items
  rw [isCompared] at shared
  have parts := keywords.add_cons shared
  have coveredLeft := left.coveredWeight_le compared
  have coveredRight := right.coveredWeight_le compared
  refine ((parts.withUnmatched _ _).between left right).of_eq ?_ ?_
  · simp only [coveredWeight] at coveredLeft ⊢
    omega
  · simp only [coveredWeight] at coveredRight ⊢
    omega

end Block

/-- Bodies account for all their expressions, if these do. -/
theorem balances_bodies {lefts : List Expression} (label : String)
    (items : ∀ left ∈ lefts, ∀ right, (left.against right).Balances left.weight right.weight)
    (rights : List Expression) :
    (Alignment.gaps Expression.against label lefts rights).Balances (Expression.weightOfAll lefts)
      (Expression.weightOfAll rights) := by
  rw [← Expression.totalWeight_eq, ← Expression.totalWeight_eq]
  exact Alignment.balances_gaps label fun left member right _ => items left member right

/-- Blocks account for all weight as soon as their bodies do, whatever they are compared to. -/
theorem Block.balances_of_keyword_ne {left right : Block}
    (different : left.keyword ≠ right.keyword)
    (items : ∀ body ∈ left.bodies, ∀ item ∈ body, ∀ right,
      (item.against right).Balances item.weight right.weight) :
    (left.against right).Balances left.weight right.weight := by
  rw [Block.against_of_keyword_ne different]
  exact Block.balances_acrossKinds fun body member other _ =>
    balances_bodies "body" (items body member) other

/-- Expressions, blocks and catch clauses account for all weight, by induction on the left one. -/
theorem hereditary_balances : Expression.Hereditary
    (fun left => ∀ right, (left.against right).Balances left.weight right.weight)
    (fun left => ∀ right, (left.against right).Balances left.weight right.weight)
    (fun left => ∀ right, (left.against right).Balances left.weight right.weight) where
  empty := by
    intro right
    cases right with
    | empty => exact (Similarity.balances_leaf _ true).between _ _
    | _ => exact Similarity.balances_mismatch _ _
  declaration := by
    intro declared right
    cases right with
    | declaration declared' => exact Declaration.conserves declared declared'
    | _ => exact Similarity.balances_mismatch _ _
  statement := by
    intro value right
    cases right with
    | statement value' => exact Statement.conserves value value'
    | _ => exact Similarity.balances_mismatch _ _
  block := by
    intro inner ih right
    cases right with
    | block inner' => exact ih inner'
    | _ => exact Similarity.balances_mismatch _ _
  branch := by
    intro condition thenBody elseBody ihThen ihElse right
    cases right with
    | branch condition' thenBody' elseBody' =>
      have parts := (Statement.conserves condition condition').add_cons
        ((balances_bodies "then" ihThen thenBody').add_cons
          ((balances_bodies "else" ihElse elseBody').add_cons (Similarity.balances_add_nil "If")))
      rw [Block.against_branch]
      refine (Block.balances_sameKind _ _ parts).of_eq ?_ ?_ <;>
        simp only [Block.weight, Node.weight] <;> omega
    | _ =>
      refine Block.balances_of_keyword_ne (by simp [Block.keyword]) ?_
      simpa [Block.bodies] using ⟨ihThen, ihElse⟩
  whileLoop := by
    intro condition body ih right
    cases right with
    | whileLoop condition' body' =>
      have parts := (Statement.conserves condition condition').add_cons
        ((balances_bodies "body" ih body').add_cons (Similarity.balances_add_nil "While"))
      rw [Block.against_whileLoop]
      exact Block.balances_sameKind _ _ parts
    | _ =>
      refine Block.balances_of_keyword_ne (by simp [Block.keyword]) ?_
      simpa [Block.bodies] using ih
  doWhileLoop := by
    intro condition body ih right
    cases right with
    | doWhileLoop condition' body' =>
      have parts := (Statement.conserves condition condition').add_cons
        ((balances_bodies "body" ih body').add_cons (Similarity.balances_add_nil "DoWhile"))
      rw [Block.against_doWhileLoop]
      exact Block.balances_sameKind _ _ parts
    | _ =>
      refine Block.balances_of_keyword_ne (by simp [Block.keyword]) ?_
      simpa [Block.bodies] using ih
  forLoop := by
    intro init condition iteration body ihInit ihCondition ihIteration ih right
    cases right with
    | forLoop init' condition' iteration' body' =>
      have parts := (ihInit init').add_cons ((ihCondition condition').add_cons
        ((ihIteration iteration').add_cons
          ((balances_bodies "body" ih body').add_cons (Similarity.balances_add_nil "For"))))
      rw [Block.against_forLoop]
      refine (Block.balances_sameKind _ _ parts).of_eq ?_ ?_ <;> simp only [Block.weight] <;> omega
    | _ =>
      refine Block.balances_of_keyword_ne (by simp [Block.keyword]) ?_
      simpa [Block.bodies] using ih
  guarded := by
    intro resources body handlers cleanup ihBody ihHandlers ihCleanup right
    cases right with
    | guarded resources' body' handlers' cleanup' =>
      have ofResources := Alignment.balances_ordered "resources" fun left
        (_ : left ∈ resources) right (_ : right ∈ resources') => Declaration.conserves left right
      have ofHandlers := Alignment.balances_ordered "catches" fun left member right
        (_ : right ∈ handlers') => (ihHandlers left member).1 right
      have parts := ofResources.add_cons ((balances_bodies "try" ihBody body').add_cons
        (ofHandlers.add_cons ((balances_bodies "finally" ihCleanup (cleanup'.getD [])).add_cons
          (Similarity.balances_add_nil "TryCatchFinally"))))
      rw [Block.against_guarded]
      refine (Block.balances_sameKind _ _ parts).of_eq ?_ ?_ <;>
        simp only [Block.weight, Expression.weightOfOptional_eq, CatchClause.totalWeight_eq] <;>
        omega
    | _ =>
      refine Block.balances_of_keyword_ne (by simp [Block.keyword]) ?_
      exact Block.forall_mem_bodies_guarded ihBody (fun clause member => (ihHandlers clause member).2)
        ihCleanup
  clause := by
    intro exceptionTypes binder body ih right
    have types := Assignment.balances_unordered "exception types" fun first
      (_ : first ∈ exceptionTypes) second (_ : second ∈ right.exceptionTypes) =>
        Identifier.conserves first second
    have tested := Similarity.balances_leaf "variable" (binder = right.binder)
    have parts := types.add_cons (tested.add_cons ((balances_bodies "catch" ih right.body).add_cons
      (Similarity.balances_add_nil "CatchClause")))
    rw [totalWeight_eq_length fun _ => rfl, totalWeight_eq_length fun _ => rfl] at parts
    obtain ⟨exceptionTypes', binder', body'⟩ := right
    rw [CatchClause.against_eq]
    refine (parts.between _ _).of_eq ?_ ?_ <;> simp only [CatchClause.weight] <;> omega

theorem conserves_compare : Conserves compare := fun _ right =>
  balances_bodies "file" (fun item _ => hereditary_balances.expression item) right.expressions

/-- Weight is conserved by the comparison of two nodes of any type, operators being statements, and
of two whole trees: what is matched and the total add up to the weights of both, and no more is
matched than the lighter one weighs. -/
theorem weight_conserved :
    Conserves Identifier.against ∧ Conserves Qualifier.against ∧ Conserves Literal.against ∧
      Conserves Statement.against ∧ Conserves Declaration.against ∧
      Conserves CatchClause.against ∧ Conserves Block.against ∧ Conserves Expression.against ∧
      Conserves compare :=
  ⟨Identifier.conserves, Qualifier.conserves, Literal.conserves, Statement.conserves,
    Declaration.conserves, hereditary_balances.clauses, hereditary_balances.blocks,
    hereditary_balances.expression, conserves_compare⟩

end Likeness
