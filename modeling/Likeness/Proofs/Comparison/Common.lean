import Likeness.Proofs.Comparison.Symmetry
import Mathlib.Algebra.BigOperators.Group.Finset.Basic
import Mathlib.Data.List.Perm.Lattice

/-!
# What two lists without order have in common

Qualifiers and exception types are compared as wholes: two of them match in one unit or in nothing.
A best assignment of such items then pairs as many equal ones as there are, each item used once. So
what is matched is the number of common items, counted with repetitions, and everything is matched
just when one list is a rearrangement of the other. The results that are listed are those of the
common items with themselves, each as often as both lists have it.
-/

namespace Likeness

namespace Assignment

variable {α : Type}

/-- Items at different places of a list are part of it, in some order. -/
theorem subperm_of_nodup {items : List α} {indices : List (Fin items.length)}
    (nodup : indices.Nodup) : (indices.map items.get).Subperm items := by
  have inside : indices.Subperm (List.finRange items.length) :=
    List.subperm_of_subset nodup fun index _ => List.mem_finRange index
  obtain ⟨ordered, same, sublist⟩ := inside
  have mapped := sublist.map items.get
  rw [List.map_get_finRange] at mapped
  exact ⟨ordered.map items.get, same.map items.get, mapped⟩

/-- What is part of a list in some order stands at different places of it. -/
theorem exists_indices_of_subperm {items part : List α} (within : part.Subperm items) :
    ∃ indices : List (Fin items.length), indices.Nodup ∧ indices.map items.get = part := by
  obtain ⟨ordered, same, sublist⟩ := within
  obtain ⟨indices, shape, increasing⟩ := List.sublist_eq_map_getElem sublist
  have places : List.Forall₂ (fun item index => item = items.get index) ordered indices := by
    rw [shape, List.forall₂_map_left_iff, List.forall₂_same]
    exact fun _ _ => rfl
  -- The places are rearranged along with the items.
  obtain ⟨moved, found, rearranged⟩ := List.perm_comp_forall₂ same.symm places
  refine ⟨moved, ?_, ?_⟩
  · exact rearranged.nodup_iff.2 (increasing.imp fun less => Fin.ne_of_lt less)
  · have equal := List.forall₂_map_right_iff.2 found
    rw [List.forall₂_eq_eq_eq] at equal
    exact equal.symm

section Leaves

variable [DecidableEq α] {lefts rights : List α}

/-- Two items weigh one if they are equal. -/
def agreement (lefts rights : List α) (row : Fin lefts.length) (column : Fin rights.length) : Nat :=
  if lefts.get row = rights.get column then 1 else 0

/-- Pairs are worth as much as there are equal ones among them. -/
theorem worth_agreement (pairs : List (Fin lefts.length × Fin rights.length)) :
    worth (agreement lefts rights) pairs =
      (pairs.filter fun pair => lefts.get pair.1 = rights.get pair.2).length := by
  induction pairs with
  | nil => rfl
  | cons pair pairs ih =>
    simp only [worth, List.map_cons, Whole.sum_cons, agreement] at ih ⊢
    by_cases same : lefts.get pair.1 = rights.get pair.2
    · rw [List.filter_cons_of_pos (by simpa using same), List.length_cons, if_pos same, ih,
        Nat.add_comm]
    · rw [List.filter_cons_of_neg (by simpa using same), if_neg same, ih, Nat.zero_add]

/-- What a matching of equal items pairs is common to both lists. -/
theorem le_inter_of_equal {pairs : List (Fin lefts.length × Fin rights.length)}
    (matching : Matching pairs)
    (equal : ∀ pair ∈ pairs, lefts.get pair.1 = rights.get pair.2) :
    (↑(pairs.map fun pair => lefts.get pair.1) : Multiset α) ≤ ↑lefts ∩ ↑rights := by
  have onLeft := subperm_of_nodup matching.rows
  have onRight := subperm_of_nodup matching.columns
  have same : (pairs.map Prod.snd).map rights.get = pairs.map fun pair => lefts.get pair.1 := by
    rw [List.map_map]
    exact List.map_congr_left fun pair member => (equal pair member).symm
  rw [List.map_map] at onLeft
  rw [same] at onRight
  exact Multiset.le_inter (Multiset.coe_le.2 onLeft) (Multiset.coe_le.2 onRight)

/-- A matching pairs no more equal items than the lists have in common. -/
theorem worth_agreement_le {pairs : List (Fin lefts.length × Fin rights.length)}
    (matching : Matching pairs) :
    worth (agreement lefts rights) pairs ≤ (lefts.bagInter rights).length := by
  rw [worth_agreement]
  generalize chosen : (pairs.filter fun pair => lefts.get pair.1 = rights.get pair.2) = equal
  have sublist : equal.Sublist pairs := chosen ▸ List.filter_sublist
  have part : Matching equal :=
    ⟨matching.rows.sublist (sublist.map _), matching.columns.sublist (sublist.map _)⟩
  have common := le_inter_of_equal part fun pair member => by
    subst chosen
    simpa using (List.mem_filter.1 member).2
  have cards := Multiset.card_le_card common
  simpa [Multiset.coe_inter] using cards

/-- Some matching pairs all that the lists have in common. -/
theorem exists_matching_agreement (lefts rights : List α) :
    ∃ pairs : List (Fin lefts.length × Fin rights.length), Matching pairs ∧
      worth (agreement lefts rights) pairs = (lefts.bagInter rights).length := by
  have onLeft : (lefts.bagInter rights).Subperm lefts := List.bagInter_sublist_left.subperm
  have onRight : (lefts.bagInter rights).Subperm rights :=
    (List.Perm.bagInter_symm lefts rights).subperm.trans List.bagInter_sublist_left.subperm
  obtain ⟨rowsUsed, nodup, takenLeft⟩ := exists_indices_of_subperm onLeft
  obtain ⟨columnsUsed, nodup', takenRight⟩ := exists_indices_of_subperm onRight
  have equal : List.Forall₂ (fun row column => lefts.get row = rights.get column) rowsUsed
      columnsUsed := by
    have taken := takenLeft.trans takenRight.symm
    rw [← List.forall₂_eq_eq_eq] at taken
    exact List.forall₂_map_right_iff.1 (List.forall₂_map_left_iff.1 taken)
  have length := equal.length_eq
  refine ⟨rowsUsed.zip columnsUsed, ⟨?_, ?_⟩, ?_⟩
  · rwa [List.map_fst_zip length.le]
  · rwa [List.map_snd_zip length.ge]
  · have all : (rowsUsed.zip columnsUsed).filter
        (fun pair => lefts.get pair.1 = rights.get pair.2) = rowsUsed.zip columnsUsed := by
      refine List.filter_eq_self.2 fun pair member => ?_
      simpa using List.forall₂_zip equal member
    rw [worth_agreement, all, List.length_zip, ← length, Nat.min_self, ← takenLeft,
      List.length_map]

/-- The best pairs of leaves pair all that the lists have in common. -/
theorem worth_best_agreement (lefts rights : List α) :
    worth (agreement lefts rights) (best (agreement lefts rights)) =
      (lefts.bagInter rights).length := by
  obtain ⟨pairs, matching, reached⟩ := exists_matching_agreement lefts rights
  have atLeast := worth_le_worth_best (agreement lefts rights) matching
  have atMost := worth_agreement_le (matching_best (agreement lefts rights))
  omega

variable [Node α] {compare : α → α → Similarity}

/-- What is matched of two lists of leaves is what they have in common. -/
theorem matched_unordered_leaves
    (leaves : ∀ left right, (compare left right).matched = if left = right then 1 else 0)
    (label : String) (lefts rights : List α) :
    (unordered compare label lefts rights).matched = (lefts.bagInter rights).length := by
  rw [matched_unordered, ← worth_best_agreement]
  simp only [leaves]
  rfl

omit [Node α] in
/-- Two lists have all of both in common just when one rearranges the other. -/
theorem length_bagInter_iff_perm (lefts rights : List α) :
    (lefts.bagInter rights).length = lefts.length ∧
      (lefts.bagInter rights).length = rights.length ↔ lefts.Perm rights := by
  constructor
  · rintro ⟨allLeft, allRight⟩
    have whole := List.bagInter_sublist_left.eq_of_length allLeft
    have onRight : (rights.bagInter lefts).Sublist rights := List.bagInter_sublist_left
    have rearranged := List.Perm.bagInter_symm lefts rights
    rw [onRight.eq_of_length (rearranged.length_eq ▸ allRight), whole] at rearranged
    exact rearranged
  · intro same
    have whole : (lefts.bagInter rights).Perm lefts := by
      rw [← same.bagInter_left lefts]
      exact List.perm_iff_count.2 fun item => by rw [List.count_bagInter, Nat.min_self]
    exact ⟨whole.length_eq, whole.length_eq.trans same.length_eq⟩

/-! ## What is listed -/

omit [Node α] in
/-- The pairs of leaves that match are the equal ones of the best pairs. -/
theorem matchingPairs_leaves
    (leaves : ∀ left right, (compare left right).matched = if left = right then 1 else 0) :
    matchingPairs compare lefts rights =
      (best (agreement lefts rights)).filter fun pair => lefts.get pair.1 = rights.get pair.2 := by
  have positive (left right : α) : (0 < if left = right then 1 else 0) ↔ left = right := by
    split <;> simp [*]
  simp only [matchingPairs, leaves, positive]
  rfl

omit [Node α] in
/-- The leaves that are paired are those that two lists have in common. -/
theorem paired_eq_inter
    (leaves : ∀ left right, (compare left right).matched = if left = right then 1 else 0)
    (lefts rights : List α) :
    (↑((matchingPairs compare lefts rights).map fun pair => lefts.get pair.1) : Multiset α) =
      ↑lefts ∩ ↑rights := by
  have matching := matching_matchingPairs compare lefts rights
  have common := le_inter_of_equal matching fun pair member => by
    rw [matchingPairs_leaves leaves] at member
    simpa using (List.mem_filter.1 member).2
  refine Multiset.eq_of_le_of_card_le common ?_
  -- As many are paired as the best pairs are worth.
  rw [matchingPairs_leaves leaves, Multiset.coe_card, List.length_map, ← worth_agreement,
    worth_best_agreement, Multiset.coe_inter, Multiset.coe_card]

/-- Two lists of leaves match in what they have in common: each item counts as often as both lists
have it, everything else is unmatched, and what is listed is that many comparisons of an item with
itself. -/
structure MatchesCommon (against : α → α → Similarity) (label : String) (lefts rights : List α) :
    Prop where
  matched : (unordered against label lefts rights).matched =
    ∑ item ∈ lefts.toFinset ∪ rights.toFinset, min (lefts.count item) (rights.count item)
  total : (unordered against label lefts rights).total =
    lefts.length + rights.length - (unordered against label lefts rights).matched
  length : (unordered against label lefts rights).children.length =
    (unordered against label lefts rights).matched
  listed : ∃ items : List α,
    (unordered against label lefts rights).children = items.map (fun item => against item item) ∧
      ∀ item, items.count item = min (lefts.count item) (rights.count item)

/-- A comparison of leaves that weigh one matches what two lists have in common. -/
theorem matchesCommon_of_leaves (conserves : Conserves compare)
    (weighs : ∀ item : α, Node.weight item = 1)
    (leaves : ∀ left right, (compare left right).matched = if left = right then 1 else 0)
    (label : String) (lefts rights : List α) : MatchesCommon compare label lefts rights := by
  let items := (matchingPairs compare lefts rights).map fun pair => lefts.get pair.1
  have common : (↑items : Multiset α) = ↑lefts ∩ ↑rights := paired_eq_inter leaves lefts rights
  have counts (item : α) : (↑items : Multiset α).count item =
      min (lefts.count item) (rights.count item) := by
    rw [common, Multiset.count_inter, Multiset.coe_count, Multiset.coe_count]
  have matched : (unordered compare label lefts rights).matched = items.length := by
    rw [matched_unordered_leaves leaves, ← Multiset.coe_card items, common, Multiset.coe_inter,
      Multiset.coe_card]
  have children : (unordered compare label lefts rights).children =
      items.map fun item => compare item item := by
    rw [unordered_eq, List.map_map]
    refine List.map_congr_left fun pair member => ?_
    rw [matchingPairs_leaves leaves] at member
    have equal : lefts.get pair.1 = rights.get pair.2 := by
      simpa using (List.mem_filter.1 member).2
    rw [Function.comp_apply, equal]
  constructor
  · have inside : ∀ item ∈ (↑items : Multiset α), item ∈ lefts.toFinset ∪ rights.toFinset := by
      intro item member
      rw [common, Multiset.mem_inter] at member
      exact Finset.mem_union_left _ (List.mem_toFinset.2 member.1)
    rw [matched, ← Multiset.coe_card, ← Multiset.sum_count_eq_card inside]
    exact Finset.sum_congr rfl fun item _ => counts item
  · have account := (balances_unordered label fun left (_ : left ∈ lefts) right
      (_ : right ∈ rights) => conserves left right).account
    rw [totalWeight_eq_length weighs, totalWeight_eq_length weighs] at account
    omega
  · rw [children, List.length_map, matched]
  · exact ⟨items, children, fun item => (Multiset.coe_count item items).symm.trans (counts item)⟩

end Leaves

end Assignment

theorem Qualifier.matched_against (left right : Qualifier) :
    (left.against right).matched = if left = right then 1 else 0 := by
  simp [Qualifier.against]

theorem Identifier.matched_against (left right : Identifier) :
    (left.against right).matched = if left = right then 1 else 0 := by
  simp [Identifier.against]

/-- Two lists of qualifiers or of names, with any repetitions, match in what they have in common. -/
theorem leaves_match_in_common (label : String) :
    (∀ lefts rights, Assignment.MatchesCommon Qualifier.against label lefts rights) ∧
      ∀ lefts rights, Assignment.MatchesCommon Identifier.against label lefts rights :=
  ⟨Assignment.matchesCommon_of_leaves Qualifier.conserves (fun _ => rfl) Qualifier.matched_against
      label,
    Assignment.matchesCommon_of_leaves Identifier.conserves (fun _ => rfl)
      Identifier.matched_against label⟩

end Likeness
