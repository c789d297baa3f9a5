import Likeness.Proofs.Alignment
import Likeness.Proofs.Assignment.Optimality
import Mathlib.Data.List.Sort

/-!
# Alignments and the pairs they make

An item may stand in a list more than once, so that the items of a step do not tell which places of
the two lists it takes. Since a walk takes its lists in order, its steps can be numbered: there is a
walk through the places of the lists, which shows the same steps when every place is read. The pairs
of such a walk ascend in both lists, and pairs that ascend are those of some walk, with gaps for the
places between them. So the score of an alignment, which no walk exceeds, is exceeded by no ascending
pairs either.
-/

namespace Likeness

variable {α β γ δ : Type}

namespace AlignStep

/-- The item that a step takes of the left list, if it takes one. -/
def left? : AlignStep α β → Option α
  | .pair left _ _ => some left
  | .removed left => some left
  | .inserted _ => none

/-- The item that a step takes of the right list, if it takes one. -/
def right? : AlignStep α β → Option β
  | .pair _ right _ => some right
  | .removed _ => none
  | .inserted right => some right

/-- The two items of a step that takes one of each list. -/
def pair? : AlignStep α β → Option (α × β)
  | .pair left right _ => some (left, right)
  | .removed _ => none
  | .inserted _ => none

/-- The same step on what its items stand for. -/
def map (left : α → γ) (right : β → δ) : AlignStep α β → AlignStep γ δ
  | .pair item other similarity => .pair (left item) (right other) similarity
  | .removed item => .removed (left item)
  | .inserted other => .inserted (right other)

@[simp] theorem matched_map (left : α → γ) (right : β → δ) (step : AlignStep α β) :
    (step.map left right).matched = step.matched := by
  cases step <;> rfl

end AlignStep

namespace Alignment

open Assignment

@[simp] theorem score_map (left : α → γ) (right : β → δ) (steps : List (AlignStep α β)) :
    score (steps.map (AlignStep.map left right)) = score steps := by
  simp [score, Function.comp_def]

/-! ## What a walk takes -/

namespace Walk

variable {compare : α → β → Similarity} {lefts : List α} {rights : List β}
  {steps : List (AlignStep α β)}

/-- A walk takes the left list item by item. -/
theorem filterMap_left? (walk : Walk compare lefts rights steps) :
    steps.filterMap AlignStep.left? = lefts := by
  induction walk with
  | done => rfl
  | pair left right _ ih => exact congrArg (left :: ·) ih
  | removed left _ ih => exact congrArg (left :: ·) ih
  | inserted right _ ih => exact ih

/-- A walk takes the right list item by item. -/
theorem filterMap_right? (walk : Walk compare lefts rights steps) :
    steps.filterMap AlignStep.right? = rights := by
  induction walk with
  | done => rfl
  | pair left right _ ih => exact congrArg (right :: ·) ih
  | removed left _ ih => exact ih
  | inserted right _ ih => exact congrArg (right :: ·) ih

/-- A pair carries the comparison of its items. -/
theorem similarity_eq (walk : Walk compare lefts rights steps) {left : α} {right : β}
    {similarity : Similarity} (member : .pair left right similarity ∈ steps) :
    similarity = compare left right := by
  induction walk with
  | done => contradiction
  | pair first second _ ih =>
    rcases List.mem_cons.1 member with same | member
    · cases same
      rfl
    · exact ih member
  | removed first _ ih => exact ih ((List.mem_cons.1 member).resolve_left nofun)
  | inserted second _ ih => exact ih ((List.mem_cons.1 member).resolve_left nofun)

/-- The pairs of a walk take items of both lists in order. -/
theorem sublist_pairs (walk : Walk compare lefts rights steps) :
    ((steps.filterMap AlignStep.pair?).map Prod.fst).Sublist lefts ∧
      ((steps.filterMap AlignStep.pair?).map Prod.snd).Sublist rights := by
  induction walk with
  | done => exact ⟨.slnil, .slnil⟩
  | pair left right _ ih => exact ⟨ih.1.cons_cons left, ih.2.cons_cons right⟩
  | removed left _ ih => exact ⟨ih.1.cons left, ih.2⟩
  | inserted right _ ih => exact ⟨ih.1, ih.2.cons right⟩

/-- A walk through items is one through what they stand for. -/
theorem map {left : α → γ} {right : β → δ} {compare : γ → δ → Similarity}
    (walk : Walk (fun item other => compare (left item) (right other)) lefts rights steps) :
    Walk compare (lefts.map left) (rights.map right) (steps.map (AlignStep.map left right)) := by
  induction walk with
  | done => exact .done
  | pair item other _ ih => exact .pair (left item) (right other) ih
  | removed item _ ih => exact .removed (left item) ih
  | inserted other _ ih => exact .inserted (right other) ih

/-- A walk through what items stand for is one through the items. -/
theorem exists_map_eq {left : α → γ} {right : β → δ} {compare : γ → δ → Similarity}
    {steps : List (AlignStep γ δ)} (walk : Walk compare (lefts.map left) (rights.map right) steps) :
    ∃ numbered, Walk (fun item other => compare (left item) (right other)) lefts rights numbered ∧
      steps = numbered.map (AlignStep.map left right) := by
  generalize shape : lefts.map left = read, shape' : rights.map right = read' at walk
  induction walk generalizing lefts rights with
  | done =>
    rw [List.map_eq_nil_iff] at shape shape'
    subst shape shape'
    exact ⟨[], .done, rfl⟩
  | pair _ _ _ ih =>
    obtain ⟨item, lefts, rfl, rfl, rest⟩ := List.map_eq_cons_iff.1 shape
    obtain ⟨other, rights, rfl, rfl, rest'⟩ := List.map_eq_cons_iff.1 shape'
    obtain ⟨numbered, walk, rfl⟩ := ih rest rest'
    exact ⟨_, .pair item other walk, rfl⟩
  | removed _ _ ih =>
    obtain ⟨item, lefts, rfl, rfl, rest⟩ := List.map_eq_cons_iff.1 shape
    obtain ⟨numbered, walk, rfl⟩ := ih rest shape'
    exact ⟨_, .removed item walk, rfl⟩
  | inserted _ _ ih =>
    obtain ⟨other, rights, rfl, rfl, rest'⟩ := List.map_eq_cons_iff.1 shape'
    obtain ⟨numbered, walk, rfl⟩ := ih shape rest'
    exact ⟨_, .inserted other walk, rfl⟩

end Walk

/-- Both lists can be taken without any pair. -/
theorem exists_walk_of_gaps (compare : α → β → Similarity) (lefts : List α) (rights : List β) :
    ∃ steps, Walk compare lefts rights steps ∧ score steps = 0 := by
  induction lefts with
  | nil =>
    induction rights with
    | nil => exact ⟨[], .done, rfl⟩
    | cons right rights ih =>
      obtain ⟨steps, walk, none⟩ := ih
      exact ⟨_, .inserted right walk, (Nat.zero_add _).trans none⟩
  | cons left lefts ih =>
    obtain ⟨steps, walk, none⟩ := ih
    exact ⟨_, .removed left walk, (Nat.zero_add _).trans none⟩

/-! ## Ascending pairs -/

/-- Items that follow another one in a list follow it somewhere. -/
theorem exists_append_of_cons_sublist {item : α} {items all : List α}
    (sublist : (item :: items).Sublist all) :
    ∃ before behind, all = before ++ item :: behind ∧ items.Sublist behind := by
  obtain ⟨front, back, rfl, member, rest⟩ := List.cons_sublist_iff.1 sublist
  obtain ⟨before, behind, rfl⟩ := List.append_of_mem member
  refine ⟨before, behind ++ back, by simp, ?_⟩
  exact rest.trans (List.sublist_append_right behind back)

section Ascending

variable {rows columns : Nat} {pairs : List (Fin rows × Fin columns)}
  {compare : Fin rows → Fin columns → Similarity}

/-- Pairs of places in two lists, each pair behind the one before it in both lists. -/
def Ascending (pairs : List (Fin rows × Fin columns)) : Prop :=
  pairs.Pairwise fun first second => first.1 < second.1 ∧ first.2 < second.2

/-- Places ascend just when they are some of all places in order. -/
theorem pairwise_lt_iff {size : Nat} {places : List (Fin size)} :
    places.Pairwise (· < ·) ↔ places.Sublist (List.finRange size) := by
  constructor
  · intro ascending
    have among : places.Subperm (List.finRange size) :=
      List.subperm_of_subset ascending.nodup fun place _ => List.mem_finRange place
    exact List.sublist_of_subperm_of_pairwise among ascending (List.pairwise_lt_finRange size)
  · intro sublist
    exact (List.pairwise_lt_finRange size).sublist sublist

/-- Pairs ascend just when their places do in both lists. -/
theorem ascending_iff :
    Ascending pairs ↔ (pairs.map Prod.fst).Sublist (List.finRange rows) ∧
      (pairs.map Prod.snd).Sublist (List.finRange columns) := by
  rw [← pairwise_lt_iff, ← pairwise_lt_iff, List.pairwise_map, List.pairwise_map, Ascending,
    List.pairwise_and_iff]

/-- The pairs of a walk are worth what the walk matches. -/
theorem Walk.worth_pairs {lefts : List (Fin rows)} {rights : List (Fin columns)}
    {steps : List (AlignStep (Fin rows) (Fin columns))} (walk : Walk compare lefts rights steps) :
    worth (fun row column => (compare row column).matched) (steps.filterMap AlignStep.pair?) =
      score steps := by
  induction walk with
  | done => rfl
  | pair left right _ ih => exact congrArg ((compare left right).matched + ·) ih
  | removed left _ ih => exact ih.trans (Nat.zero_add _).symm
  | inserted right _ ih => exact ih.trans (Nat.zero_add _).symm

variable (compare) in
/-- Pairs in the order of two lists are those of a walk that leaves all other items out. -/
theorem exists_walk_of_sublist {lefts : List (Fin rows)} {rights : List (Fin columns)}
    (inLefts : (pairs.map Prod.fst).Sublist lefts) (inRights : (pairs.map Prod.snd).Sublist rights) :
    ∃ steps, Walk compare lefts rights steps ∧
      score steps = worth (fun row column => (compare row column).matched) pairs := by
  induction pairs generalizing lefts rights with
  | nil => exact exists_walk_of_gaps compare lefts rights
  | cons pair pairs ih =>
    obtain ⟨before, behind, rfl, rest⟩ := exists_append_of_cons_sublist inLefts
    obtain ⟨before', behind', rfl, rest'⟩ := exists_append_of_cons_sublist inRights
    obtain ⟨gaps, walkGaps, none⟩ := exists_walk_of_gaps compare before before'
    obtain ⟨steps, walk, equal⟩ := ih rest rest'
    refine ⟨_, walkGaps.append (.pair pair.1 pair.2 walk), ?_⟩
    rw [score_append, none, score_cons, equal, Nat.zero_add]
    rfl

end Ascending

/-! ## Alignments -/

section Alignments

variable (compare : α → β → Similarity) (left : List α) (right : List β)

/-- The steps of an alignment are those of a walk through the places of both lists. -/
theorem exists_numbered_align :
    ∃ steps, Walk (fun row column => compare (left.get row) (right.get column))
        (List.finRange left.length) (List.finRange right.length) steps ∧
      align compare left right = steps.map (AlignStep.map left.get right.get) := by
  have walk := (optimal_align compare left right).walk
  generalize align compare left right = steps at walk
  have read : Walk compare ((List.finRange left.length).map left.get)
      ((List.finRange right.length).map right.get) steps := by
    rw [List.map_get_finRange, List.map_get_finRange]
    exact walk
  exact read.exists_map_eq

/-- No pairs that ascend in both lists match more than an alignment does, and some match as much. -/
theorem isGreatest_score_align :
    IsGreatest (worth (fun row column => (compare (left.get row) (right.get column)).matched) ''
      {pairs | Ascending pairs}) (score (align compare left right)) := by
  constructor
  · obtain ⟨steps, walk, same⟩ := exists_numbered_align compare left right
    refine ⟨steps.filterMap AlignStep.pair?, ascending_iff.2 walk.sublist_pairs, ?_⟩
    rw [walk.worth_pairs, same, score_map]
  · rintro _ ⟨pairs, ascending, rfl⟩
    obtain ⟨inLeft, inRight⟩ := ascending_iff.1 ascending
    obtain ⟨steps, walk, equal⟩ := exists_walk_of_sublist
      (fun row column => compare (left.get row) (right.get column)) inLeft inRight
    have read := walk.map
    rw [List.map_get_finRange, List.map_get_finRange] at read
    rw [← equal, ← score_map left.get right.get]
    exact (optimal_align compare left right).greatest read

/-- The steps of an alignment take the places of both lists from the first one to the last. Each pair
carries the comparison of what stands at its two places, which match in something. All pairs together
match as much as any pairs that ascend in both lists. -/
theorem align_takes_all_and_most :
    let weight row column := (compare (left.get row) (right.get column)).matched
    ∃ steps : List (AlignStep (Fin left.length) (Fin right.length)),
      align compare left right = steps.map (AlignStep.map left.get right.get) ∧
      steps.filterMap AlignStep.left? = List.finRange left.length ∧
      steps.filterMap AlignStep.right? = List.finRange right.length ∧
      (∀ row column similarity, .pair row column similarity ∈ steps →
        0 < weight row column ∧ similarity = compare (left.get row) (right.get column)) ∧
      IsGreatest (worth weight '' {pairs | Ascending pairs})
        (worth weight (steps.filterMap AlignStep.pair?)) := by
  intro weight
  obtain ⟨steps, walk, same⟩ := exists_numbered_align compare left right
  refine ⟨steps, same, walk.filterMap_left?, walk.filterMap_right?, ?_, ?_⟩
  · intro row column similarity member
    have paired : .pair (left.get row) (right.get column) similarity ∈ align compare left right := by
      rw [same]
      exact List.mem_map_of_mem member
    have positive := (optimal_align compare left right).positive paired
    have carried := walk.similarity_eq member
    rw [carried] at positive
    exact ⟨positive, carried⟩
  · have total : worth weight (steps.filterMap AlignStep.pair?) =
        score (align compare left right) := by
      rw [same, score_map]
      exact walk.worth_pairs
    rw [total]
    exact isGreatest_score_align compare left right

end Alignments

end Alignment

end Likeness
