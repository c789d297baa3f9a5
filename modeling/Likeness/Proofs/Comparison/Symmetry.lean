import Likeness.Proofs.Comparison.Balance

/-!
# Comparisons do not depend on the order of their sides

The steps of an alignment and the pairs of an assignment may differ when the two lists are exchanged,
because ties are broken from one side. What they match does not: it is the greatest score of a walk
and the greatest worth of a matching, and both can be read from either side. By induction on the left
node every comparison matches as much from right to left, and since weight is conserved, the totals
agree as well.
-/

namespace Likeness

namespace Alignment

variable {α β : Type} [Node α] [Node β] {compare : α → β → Similarity}
  {compare' : β → α → Similarity} {lefts : List α} {rights : List β}

/-- Two lists match as much with their gaps when they are exchanged, if their items do. -/
theorem matched_gaps_comm (label : String)
    (same : ∀ left ∈ lefts, ∀ right ∈ rights,
      (compare left right).matched = (compare' right left).matched) :
    (gaps compare label lefts rights).matched = (gaps compare' label rights lefts).matched := by
  rw [matched_gaps, matched_gaps]
  exact score_align_comm same

/-- Two lists match as much in order when they are exchanged, if their items do. -/
theorem matched_ordered_comm (label : String)
    (same : ∀ left ∈ lefts, ∀ right ∈ rights,
      (compare left right).matched = (compare' right left).matched) :
    (ordered compare label lefts rights).matched =
      (ordered compare' label rights lefts).matched := by
  rw [matched_ordered compare label label, matched_ordered compare' label label]
  exact matched_gaps_comm label same

end Alignment

namespace Assignment

/-- Pairs without weight are worth nothing. -/
theorem worth_filter_pos {rows columns : Nat} (weight : Fin rows → Fin columns → Nat)
    (pairs : List (Fin rows × Fin columns)) :
    worth weight (pairs.filter fun pair => 0 < weight pair.1 pair.2) = worth weight pairs := by
  induction pairs with
  | nil => rfl
  | cons pair pairs ih =>
    simp only [worth] at ih ⊢
    by_cases positive : 0 < weight pair.1 pair.2
    · rw [List.filter_cons_of_pos (by simpa using positive), List.map_cons, List.map_cons,
        Whole.sum_cons, Whole.sum_cons, ih]
    · rw [List.filter_cons_of_neg (by simpa using positive), List.map_cons, Whole.sum_cons, ih]
      omega

variable {α β : Type} [Node α] [Node β]

/-- What is matched of two lists without order is what the best assignment is worth. -/
theorem matched_unordered (compare : α → β → Similarity) (label : String) (lefts : List α)
    (rights : List β) :
    let weight := fun row column => (compare (lefts.get row) (rights.get column)).matched
    (unordered compare label lefts rights).matched = worth weight (best weight) := by
  intro weight
  rw [unordered_eq, ← worth_filter_pos weight]
  simp only [Similarity.matched_withUnmatched, Similarity.matched_add, List.map_map, worth]
  rfl

/-- A best assignment is worth no more than that of the exchanged problem. -/
theorem worth_best_le_swap {rows columns : Nat} (weight : Fin rows → Fin columns → Nat) :
    worth weight (best weight) ≤
      worth (fun column row => weight row column) (best fun column row => weight row column) := by
  rw [← worth_swap weight (best weight)]
  exact worth_le_worth_best _ (matching_best weight).swap

/-- Two lists match as much without order when they are exchanged, if their items do. -/
theorem matched_unordered_comm {compare : α → β → Similarity} {compare' : β → α → Similarity}
    (label : String) (lefts : List α) (rights : List β)
    (same : ∀ left right, (compare left right).matched = (compare' right left).matched) :
    (unordered compare label lefts rights).matched =
      (unordered compare' label rights lefts).matched := by
  have forth := worth_best_le_swap fun (row : Fin lefts.length) (column : Fin rights.length) =>
    (compare (lefts.get row) (rights.get column)).matched
  have back := worth_best_le_swap fun (column : Fin rights.length) (row : Fin lefts.length) =>
    (compare (lefts.get row) (rights.get column)).matched
  rw [matched_unordered, matched_unordered]
  simp only [← same]
  exact Nat.le_antisymm forth back

end Assignment

/-! ## Nodes -/

/-- A comparison that matches as much from right to left. -/
def MatchesAlike {α : Type} (against : α → α → Similarity) : Prop :=
  ∀ left right, (against left right).matched = (against right left).matched

/-- Two leaves that test the same match alike. -/
theorem matched_leaf_comm {first second : Prop} [Decidable first] [Decidable second]
    (label label' : String) (same : first ↔ second) :
    (Similarity.leaf label first).matched = (Similarity.leaf label' second).matched := by
  simp only [Similarity.matched_leaf, decide_eq_true_eq, same]

theorem Identifier.matchesAlike : MatchesAlike Identifier.against := fun _ _ =>
  matched_leaf_comm _ _ eq_comm

theorem Qualifier.matchesAlike : MatchesAlike Qualifier.against := fun _ _ =>
  matched_leaf_comm _ _ eq_comm

theorem Binary64.same_comm (left right : Binary64) : left.same right = right.same left := by
  cases left <;> cases right <;> simp only [Binary64.same] <;> exact Bool.beq_comm

theorem Literal.same_comm (left right : Literal) : left.same right = right.same left := by
  cases left <;> cases right <;> simp only [Literal.same, Binary64.same_comm, Bool.beq_comm]

theorem Literal.sameKind_comm (left right : Literal) :
    left.sameKind right = right.sameKind left := by
  cases left <;> cases right <;> rfl

/-- Literals match alike. -/
theorem Literal.matchesAlike : MatchesAlike Literal.against := by
  intro left right
  unfold Literal.against
  rw [Literal.sameKind_comm right left, Literal.same_comm right left]
  split <;> simp

/-- Statements match alike: their parts do, and so do the lists in their parentheses. -/
theorem Statement.matchesAlike : MatchesAlike Statement.against := by
  intro left
  induction left using Statement.induction with
  | unary symbol operand ih =>
    intro right
    cases right with
    | unary symbol' operand' =>
      rw [Statement.against, Statement.against]
      by_cases same : symbol = symbol'
      · rw [if_pos same, if_pos same.symm]
        simp [ih operand']
      · rw [if_neg same, if_neg (Ne.symm same)]
        simp
    | _ => rfl
  | binary symbol first second ihFirst ihSecond =>
    intro right
    cases right with
    | binary symbol' first' second' =>
      rw [Statement.against, Statement.against]
      by_cases same : symbol = symbol'
      · rw [if_pos same, if_pos same.symm]
        simp [ihFirst first', ihSecond second']
      · rw [if_neg same, if_neg (Ne.symm same)]
        simp
    | _ => rfl
  | literal value =>
    intro right
    cases right with
    | literal value' => exact Literal.matchesAlike value value'
    | _ => rfl
  | reference name =>
    intro right
    cases right with
    | reference name' => exact matched_leaf_comm _ _ eq_comm
    | _ => rfl
  | group items ih =>
    intro right
    cases right with
    | group items' =>
      have inside := Alignment.matched_ordered_comm "parameters" fun left member right
        (_ : right ∈ items') => ih left member right
      rw [Alignment.ordered, Alignment.ordered, ← Statement.comparisons_eq,
        ← Statement.comparisons_eq] at inside
      rw [Statement.against, Statement.against]
      simp [inside]
    | _ => rfl

/-- Parts that may be missing match alike. -/
theorem matched_optionalAgainst_comm {α : Type} [Node α] {against : α → α → Similarity}
    (alike : MatchesAlike against) (left right : Option α) :
    Whole.sum ((optionalAgainst against left right).toList.map Similarity.matched) =
      Whole.sum ((optionalAgainst against right left).toList.map Similarity.matched) := by
  cases left <;> cases right <;> simp [optionalAgainst]
  exact alike _ _

/-- Declarations match alike. -/
theorem Declaration.matchesAlike : MatchesAlike Declaration.against := by
  intro left right
  have qualifiers := Assignment.matched_unordered_comm "qualifiers" left.qualifiers
    right.qualifiers Qualifier.matchesAlike
  have initializer := matched_optionalAgainst_comm Statement.matchesAlike left.initializer
    right.initializer
  simp only [Declaration.against, Similarity.matched_between, Similarity.matched_add,
    List.map_append, List.map_cons, Whole.sum_append, Whole.sum_cons, qualifiers, initializer,
    @eq_comm _ left.typeText, @eq_comm _ left.name]

/-- Bodies match alike, if the expressions of the left one do. -/
theorem matched_bodies_comm {lefts : List Expression} (label : String)
    (items : ∀ left ∈ lefts, ∀ right, (left.against right).matched = (right.against left).matched)
    (rights : List Expression) :
    (Alignment.gaps Expression.against label lefts rights).matched =
      (Alignment.gaps Expression.against label rights lefts).matched :=
  Alignment.matched_gaps_comm label fun left member right _ => items left member right

namespace Block

/-- What is shown for bodies matches what their alignment does. -/
theorem matched_bodyShown (step : AlignStep (List Expression) (List Expression)) :
    (bodyShown step).matched = step.matched := by
  cases step with
  | pair => rfl
  | removed body =>
    have within := (balances_removedBody "body" body).within
    exact Nat.le_zero.1 (Nat.le_trans within (Nat.min_le_right _ _))
  | inserted body =>
    have within := (balances_insertedBody "body" body).within
    exact Nat.le_zero.1 (Nat.le_trans within (Nat.min_le_left _ _))

/-- Blocks of different kinds match in their conditions and their bodies. -/
theorem matched_of_keyword_ne {left right : Block} (different : left.keyword ≠ right.keyword) :
    (left.against right).matched =
      Whole.sum ((conditionsAgainst left.condition right.condition).toList.map Similarity.matched)
        + Alignment.score (Alignment.align Expression.bodyAgainst left.bodies right.bodies) := by
  have shown : Similarity.matched ∘ bodyShown = AlignStep.matched := funext matched_bodyShown
  rw [against_of_keyword_ne different, acrossKinds_eq]
  simp [sharedParts, Alignment.score, shown]

/-- Conditions match alike. -/
theorem matched_conditionsAgainst_comm (left right : Option Statement) :
    Whole.sum ((conditionsAgainst left right).toList.map Similarity.matched) =
      Whole.sum ((conditionsAgainst right left).toList.map Similarity.matched) := by
  cases left <;> cases right <;> simp [conditionsAgainst]
  exact Statement.matchesAlike _ _

/-- Blocks of different kinds match alike, if the expressions in their bodies do. -/
theorem matched_comm_of_keyword_ne {left right : Block} (different : left.keyword ≠ right.keyword)
    (items : ∀ body ∈ left.bodies, ∀ item ∈ body, ∀ right,
      (item.against right).matched = (right.against item).matched) :
    (left.against right).matched = (right.against left).matched := by
  have bodies := Alignment.score_align_comm fun body member other (_ : other ∈ right.bodies) =>
    matched_bodies_comm "body" (items body member) other
  rw [matched_of_keyword_ne different, matched_of_keyword_ne different.symm,
    matched_conditionsAgainst_comm, Expression.bodyAgainst, bodies]

end Block

/-- Expressions, blocks and catch clauses match alike, by induction on the left one. -/
theorem hereditary_matchesAlike : Expression.Hereditary
    (fun left => ∀ right, (left.against right).matched = (right.against left).matched)
    (fun left => ∀ right, (left.against right).matched = (right.against left).matched)
    (fun left => ∀ right, (left.against right).matched = (right.against left).matched) where
  empty := by
    intro right
    cases right <;> rfl
  declaration := by
    intro declared right
    cases right with
    | declaration declared' => exact Declaration.matchesAlike declared declared'
    | _ => rfl
  statement := by
    intro value right
    cases right with
    | statement value' => exact Statement.matchesAlike value value'
    | _ => rfl
  block := by
    intro inner ih right
    cases right with
    | block inner' => exact ih inner'
    | _ => rfl
  branch := by
    intro condition thenBody elseBody ihThen ihElse right
    cases right with
    | branch condition' thenBody' elseBody' =>
      rw [Block.against_branch, Block.against_branch]
      simp [Block.sameKind, Statement.matchesAlike condition, matched_bodies_comm "then" ihThen,
        matched_bodies_comm "else" ihElse]
    | _ =>
      refine Block.matched_comm_of_keyword_ne (by simp [Block.keyword]) ?_
      simpa [Block.bodies] using ⟨ihThen, ihElse⟩
  whileLoop := by
    intro condition body ih right
    cases right with
    | whileLoop condition' body' =>
      rw [Block.against_whileLoop, Block.against_whileLoop]
      simp [Block.sameKind, Statement.matchesAlike condition, matched_bodies_comm "body" ih]
    | _ =>
      refine Block.matched_comm_of_keyword_ne (by simp [Block.keyword]) ?_
      simpa [Block.bodies] using ih
  doWhileLoop := by
    intro condition body ih right
    cases right with
    | doWhileLoop condition' body' =>
      rw [Block.against_doWhileLoop, Block.against_doWhileLoop]
      simp [Block.sameKind, Statement.matchesAlike condition, matched_bodies_comm "body" ih]
    | _ =>
      refine Block.matched_comm_of_keyword_ne (by simp [Block.keyword]) ?_
      simpa [Block.bodies] using ih
  forLoop := by
    intro init condition iteration body ihInit ihCondition ihIteration ih right
    cases right with
    | forLoop init' condition' iteration' body' =>
      rw [Block.against_forLoop, Block.against_forLoop]
      simp [Block.sameKind, ihInit, ihCondition, ihIteration, matched_bodies_comm "body" ih]
    | _ =>
      refine Block.matched_comm_of_keyword_ne (by simp [Block.keyword]) ?_
      simpa [Block.bodies] using ih
  guarded := by
    intro resources body handlers cleanup ihBody ihHandlers ihCleanup right
    cases right with
    | guarded resources' body' handlers' cleanup' =>
      have ofResources := Alignment.matched_ordered_comm "resources" fun left
        (_ : left ∈ resources) right (_ : right ∈ resources') => Declaration.matchesAlike left right
      have ofHandlers := Alignment.matched_ordered_comm "catches" fun left member right
        (_ : right ∈ handlers') => (ihHandlers left member).1 right
      rw [Block.against_guarded, Block.against_guarded]
      simp [Block.sameKind, ofResources, ofHandlers, matched_bodies_comm "try" ihBody,
        matched_bodies_comm "finally" ihCleanup]
    | _ =>
      refine Block.matched_comm_of_keyword_ne (by simp [Block.keyword]) ?_
      exact Block.forall_mem_bodies_guarded ihBody (fun clause member => (ihHandlers clause member).2)
        ihCleanup
  clause := by
    intro exceptionTypes binder body ih right
    have types := Assignment.matched_unordered_comm "exception types" exceptionTypes
      right.exceptionTypes Identifier.matchesAlike
    rw [CatchClause.against_eq, CatchClause.against_eq]
    simp [types, matched_bodies_comm "catch" ih, @eq_comm _ binder]

/-! ## Totals, percentages and verdicts -/

/-- A comparison with the same matched weight and the same total weight from right to left. -/
def Symmetrical {α : Type} (against : α → α → Similarity) : Prop :=
  ∀ left right, (against left right).matched = (against right left).matched ∧
    (against left right).total = (against right left).total

/-- As weight is conserved, totals agree when as much is matched. -/
theorem Conserves.symmetrical {α : Type} [Node α] {against : α → α → Similarity}
    (conserves : Conserves against) (alike : MatchesAlike against) : Symmetrical against := by
  intro left right
  have forth := (conserves left right).account
  have back := (conserves right left).account
  have matched := alike left right
  exact ⟨matched, by omega⟩

/-- Percentages are read off the two weights. -/
theorem Similarity.percentage_congr {first second : Similarity}
    (matched : first.matched = second.matched) (total : first.total = second.total) :
    first.percentage = second.percentage := by
  rw [Similarity.percentage, Similarity.percentage, matched, total]

/-- Verdicts are read off the two weights. -/
theorem Similarity.verdict_congr {first second : Similarity}
    (matched : first.matched = second.matched) (total : first.total = second.total)
    (threshold : Binary64) : first.verdict threshold = second.verdict threshold := by
  rw [Similarity.verdict, Similarity.verdict, Similarity.isIdentical, Similarity.isIdentical,
    Similarity.ratio, Similarity.ratio, matched, total]

/-- Whole trees are compared alike from both sides. -/
theorem symmetrical_compare : Symmetrical compare :=
  conserves_compare.symmetrical fun _ right =>
    matched_bodies_comm "file" (fun item _ => hereditary_matchesAlike.expression item)
      right.expressions

/-- The two weights of a comparison do not depend on which node is the left one, for nodes of any
type, operators being statements, and for whole trees; neither do the percentage and the verdict of
two trees, at any threshold. -/
theorem comparison_symmetric :
    Symmetrical Identifier.against ∧ Symmetrical Qualifier.against ∧
      Symmetrical Literal.against ∧ Symmetrical Statement.against ∧
      Symmetrical Declaration.against ∧ Symmetrical CatchClause.against ∧
      Symmetrical Block.against ∧ Symmetrical Expression.against ∧ Symmetrical compare ∧
      ∀ left right, (compare left right).percentage = (compare right left).percentage ∧
        ∀ threshold, (compare left right).verdict threshold =
          (compare right left).verdict threshold := by
  refine ⟨Identifier.conserves.symmetrical Identifier.matchesAlike,
    Qualifier.conserves.symmetrical Qualifier.matchesAlike,
    Literal.conserves.symmetrical Literal.matchesAlike,
    Statement.conserves.symmetrical Statement.matchesAlike,
    Declaration.conserves.symmetrical Declaration.matchesAlike,
    Conserves.symmetrical hereditary_balances.clauses hereditary_matchesAlike.clauses,
    Conserves.symmetrical hereditary_balances.blocks hereditary_matchesAlike.blocks,
    Conserves.symmetrical hereditary_balances.expression hereditary_matchesAlike.expression,
    symmetrical_compare, ?_⟩
  intro left right
  obtain ⟨matched, total⟩ := symmetrical_compare left right
  exact ⟨Similarity.percentage_congr matched total, Similarity.verdict_congr matched total⟩

end Likeness
