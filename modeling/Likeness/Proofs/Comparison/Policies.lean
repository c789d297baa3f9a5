import Likeness.Proofs.Alignment.Pairings
import Likeness.Proofs.Comparison.Listing
import Likeness.Proofs.Comparison.Symmetry

/-!
# Three ways to compare two lists

Lists are compared in order with their gaps counted, in order with their gaps listed, or without
order. The first two follow one alignment: they have the same weights, and listing the gaps only
adds results that carry a single label. The pairs of an alignment use every item once at most, so
they are a matching, and the comparison without order, which takes the best of these, matches at
least as much. All three account for the weight of both lists.
-/

namespace Likeness

theorem Identifier.labelled : Labelled Identifier.against := fun _ _ => ⟨rfl, rfl⟩

theorem Qualifier.labelled : Labelled Qualifier.against := fun _ _ => ⟨rfl, rfl⟩

/-- Catch clauses are labelled. -/
theorem CatchClause.labelled : Labelled CatchClause.against := by
  intro left right
  rw [CatchClause.against_eq]
  exact ⟨rfl, rfl⟩

namespace Alignment

open Assignment

/-- Pairs that ascend in both lists use every place once at most. -/
theorem Ascending.matching {rows columns : Nat} {pairs : List (Fin rows × Fin columns)}
    (ascending : Ascending pairs) : Matching pairs := by
  obtain ⟨inRows, inColumns⟩ := ascending_iff.1 ascending
  exact ⟨(List.nodup_finRange rows).sublist inRows, (List.nodup_finRange columns).sublist inColumns⟩

variable {α β : Type} [Node α] [Node β]

/-- No more is matched in order than without order. -/
theorem matched_gaps_le_unordered (compare : α → β → Similarity) (label label' : String)
    (lefts : List α) (rights : List β) :
    (gaps compare label lefts rights).matched ≤
      (unordered compare label' lefts rights).matched := by
  obtain ⟨pairs, ascending, reached⟩ := (isGreatest_score_align compare lefts rights).1
  rw [matched_gaps, matched_unordered, ← reached]
  exact worth_le_worth_best _ ascending.matching

/-- A result that compares an item of one list with one of the other. -/
def carriesBoth (similarity : Similarity) : Bool :=
  similarity.left.isSome && similarity.right.isSome

variable {against : α → α → Similarity} {lefts rights : List α} {steps : List (AlignStep α α)}

/-- The pairs of a walk are the steps whose results carry both labels. -/
theorem Walk.filter_listed (walk : Walk against lefts rights steps) (labelled : Labelled against) :
    (steps.map listed).filter carriesBoth = steps.filterMap paired? := by
  induction walk with
  | done => rfl
  | pair left right _ ih =>
    obtain ⟨named, named'⟩ := labelled left right
    have both : carriesBoth (listed (.pair left right (against left right))) := by
      simp [carriesBoth, listed, named, named']
    rw [List.map_cons, List.filter_cons_of_pos both, ih]
    rfl
  | removed left _ ih => exact ih
  | inserted right _ ih => exact ih

end Alignment

/-- The three ways to compare two lists agree: the two that keep the order have the same weights and
the same pairs, and the one without order matches no less. Each accounts for the weight of both
lists. -/
structure ListsAgree {α : Type} [Node α] (against : α → α → Similarity) (label : String)
    (lefts rights : List α) : Prop where
  matched : (Alignment.ordered against label lefts rights).matched =
    (Alignment.gaps against label lefts rights).matched
  total : (Alignment.ordered against label lefts rights).total =
    (Alignment.gaps against label lefts rights).total
  pairs : (Alignment.ordered against label lefts rights).children =
    (Alignment.gaps against label lefts rights).children.filter Alignment.carriesBoth
  greater : (Alignment.gaps against label lefts rights).matched ≤
    (Assignment.unordered against label lefts rights).matched
  account : (Alignment.gaps against label lefts rights).matched
      + (Alignment.gaps against label lefts rights).total =
    totalWeight lefts + totalWeight rights
  accountWithoutOrder : (Assignment.unordered against label lefts rights).matched
      + (Assignment.unordered against label lefts rights).total =
    totalWeight lefts + totalWeight rights

/-- Lists agree if the comparison of their items is labelled and accounts for their weight. -/
theorem listsAgree_of_conserves {α : Type} [Node α] {against : α → α → Similarity}
    (conserves : Conserves against) (labelled : Labelled against) (label : String)
    (lefts rights : List α) : ListsAgree against label lefts rights where
  matched := Alignment.matched_ordered against label label lefts rights
  total := Alignment.total_ordered against label label lefts rights
  pairs := ((Alignment.optimal_align against lefts rights).walk.filter_listed labelled).symm
  greater := Alignment.matched_gaps_le_unordered against label label lefts rights
  account := (Alignment.balances_gaps label fun left _ right _ => conserves left right).account
  accountWithoutOrder :=
    (Assignment.balances_unordered label fun left _ right _ => conserves left right).account

/-- The three ways agree on lists of nodes of any type that is compared, operators being
statements. -/
theorem list_policies_agree (label : String) :
    (∀ lefts rights, ListsAgree Identifier.against label lefts rights) ∧
      (∀ lefts rights, ListsAgree Qualifier.against label lefts rights) ∧
      (∀ lefts rights, ListsAgree Literal.against label lefts rights) ∧
      (∀ lefts rights, ListsAgree Statement.against label lefts rights) ∧
      (∀ lefts rights, ListsAgree Declaration.against label lefts rights) ∧
      (∀ lefts rights, ListsAgree CatchClause.against label lefts rights) ∧
      (∀ lefts rights, ListsAgree Block.against label lefts rights) ∧
      ∀ lefts rights, ListsAgree Expression.against label lefts rights :=
  ⟨listsAgree_of_conserves Identifier.conserves Identifier.labelled label,
    listsAgree_of_conserves Qualifier.conserves Qualifier.labelled label,
    listsAgree_of_conserves Literal.conserves Literal.labelled label,
    listsAgree_of_conserves Statement.conserves Statement.labelled label,
    listsAgree_of_conserves Declaration.conserves Declaration.labelled label,
    listsAgree_of_conserves hereditary_balances.clauses CatchClause.labelled label,
    listsAgree_of_conserves hereditary_balances.blocks Block.labelled label,
    listsAgree_of_conserves hereditary_balances.expression Expression.labelled label⟩

end Likeness
