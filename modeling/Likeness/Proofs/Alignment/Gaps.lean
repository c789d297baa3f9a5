import Likeness.Proofs.Alignment.Pairings

/-!
# The order of gaps in an alignment

Where an alignment leaves out items of both lists between two pairs, it takes those of the right list
first. Each cell of the table decides on its last step alone, so this is a fact about neighbouring
cells: an item of the right list is left out only where leaving out the left one would match less, and
behind a removal that cannot be, since the removal has cost nothing.
-/

namespace Likeness.Alignment

variable {α β : Type}

/-- The second step may stand directly behind the first: it is no insertion behind a removal. -/
def MayFollow : AlignStep α β → AlignStep α β → Prop
  | .removed _, .inserted _ => False
  | _, _ => True

theorem mayFollow_pair (step : AlignStep α β) (left : α) (right : β) (similarity : Similarity) :
    MayFollow step (.pair left right similarity) := by
  cases step <;> trivial

theorem mayFollow_removed (step : AlignStep α β) (left : α) : MayFollow step (.removed left) := by
  cases step <;> trivial

/-- Only a removal may not stand in front of an insertion. -/
theorem mayFollow_inserted {step : AlignStep α β} (right : β)
    (other : ∀ left, step ≠ .removed left) : MayFollow step (.inserted right) := by
  cases step with
  | pair => trivial
  | removed left => exact other left rfl
  | inserted => trivial

/-- Steps in an order where each may follow the one before it. -/
def Ordered (steps : List (AlignStep α β)) : Prop := steps.IsChain MayFollow

/-- Between pairs, ordered steps are insertions and then removals. -/
theorem Ordered.exists_gaps {gap : List (AlignStep α β)} (ordered : Ordered gap)
    (unpaired : ∀ step ∈ gap, step.pair? = none) :
    ∃ (inserted : List β) (removed : List α),
      gap = inserted.map .inserted ++ removed.map .removed := by
  induction gap with
  | nil => exact ⟨[], [], rfl⟩
  | cons step gap ih =>
    obtain ⟨first, rest⟩ := List.isChain_cons.1 ordered
    obtain ⟨inserted, removed, rfl⟩ := ih rest fun other member => unpaired other (.tail _ member)
    cases step with
    | pair left right similarity => exact absurd (unpaired _ (.head _)) nofun
    | inserted right => exact ⟨right :: inserted, removed, rfl⟩
    | removed left =>
      cases inserted with
      | nil => exact ⟨[], left :: removed, rfl⟩
      | cons right inserted => exact (first _ rfl).elim

/-! ## Cells in order -/

/-- A best cell whose trail, taken from its end, is in order. -/
structure Cell.Tidy (compare : α → β → Similarity) (lefts : List α) (rights : List β)
    (cell : Cell α β) : Prop extends Cell.Best compare lefts rights cell where
  ordered : cell.trail.IsChain fun later earlier => MayFollow earlier later

section Choose

variable {compare : α → β → Similarity} {lefts : List α} {rights : List β}

/-- A cell that ends in a removal matches no more than one without the removed item. -/
theorem Cell.Best.score_le_of_removed {left item : α} {cell shorter : Cell α β}
    {trail : List (AlignStep α β)} (best : cell.Best compare (left :: lefts) rights)
    (without : shorter.Best compare lefts rights) (ends : cell.trail = .removed item :: trail) :
    cell.score ≤ shorter.score := by
  have walk := best.walk
  rw [ends] at walk
  cases walk with
  | removed _ rest =>
    have bound := without.greatest rest
    rw [best.score_eq, without.score_eq, ends, score_cons]
    simpa [AlignStep.matched] using bound

/-- The chosen cell is in order if its neighbours are. -/
theorem tidy_choose {withoutBoth withoutLeft withoutRight : Cell α β} (left : α) (right : β)
    (both : withoutBoth.Tidy compare lefts rights)
    (ofLeft : withoutLeft.Tidy compare lefts (right :: rights))
    (ofRight : withoutRight.Tidy compare (left :: lefts) rights) :
    (Cell.choose left right (compare left right) withoutBoth withoutLeft withoutRight).Tidy compare
      (left :: lefts) (right :: rights) where
  toBest := best_choose left right both.toBest ofLeft.toBest ofRight.toBest
  ordered := by
    have bounded := both.toBest.score_le_of_cons right ofLeft.toBest
    obtain ⟨_, _, trail⟩ | ⟨_, trail⟩ | ⟨worse, total, trail⟩ :=
      Cell.choose_cases left right (compare left right) withoutRight bounded
    · rw [trail]
      exact List.isChain_cons.2 ⟨fun step _ => mayFollow_pair step left right _, both.ordered⟩
    · rw [trail]
      exact List.isChain_cons.2 ⟨fun step _ => mayFollow_removed step left, ofLeft.ordered⟩
    · rw [trail]
      refine List.isChain_cons.2 ⟨fun step last => mayFollow_inserted right ?_, ofRight.ordered⟩
      -- Had the cell before ended in a removal, the left item could be left out here at no loss.
      rintro item rfl
      obtain ⟨rest, ends⟩ := List.head?_eq_some_iff.1 last
      have noMore := ofRight.toBest.score_le_of_removed both.toBest ends
      omega

end Choose

/-- All cells of the table are in order. -/
theorem table_tidy (compare : α → β → Similarity) : Table compare (Cell.Tidy compare) where
  start := ⟨(table_best compare).start, .nil⟩
  insert := by
    intro rights cell right tidy
    refine ⟨(table_best compare).insert right tidy.toBest, ?_⟩
    refine List.isChain_cons.2 ⟨fun step last => mayFollow_inserted right ?_, tidy.ordered⟩
    -- Nothing of an empty left list is removed.
    rintro item rfl
    obtain ⟨rest, ends⟩ := List.head?_eq_some_iff.1 last
    have walk := tidy.walk
    rw [ends] at walk
    cases walk
  remove := by
    intro lefts cell left tidy
    refine ⟨(table_best compare).remove left tidy.toBest, ?_⟩
    exact List.isChain_cons.2 ⟨fun step _ => mayFollow_removed step left, tidy.ordered⟩
  choose := tidy_choose

/-- The steps of an alignment are in order. -/
theorem ordered_align (compare : α → β → Similarity) (left : List α) (right : List β) :
    Ordered (align compare left right) := by
  obtain ⟨cell, tidy, same⟩ := (table_tidy compare).exists_cell left right
  rw [same, Ordered, List.isChain_reverse]
  exact tidy.ordered

/-- In an alignment no insertion stands directly behind a removal. So any stretch without a pair,
whether between two pairs, before the first one or behind the last, is made of insertions and then of
removals. -/
theorem insertions_precede_removals (compare : α → β → Similarity) (left : List α)
    (right : List β) :
    (∀ before behind item other,
      align compare left right ≠ before ++ .removed item :: .inserted other :: behind) ∧
    ∀ before gap behind, align compare left right = before ++ gap ++ behind →
      (∀ step ∈ gap, step.pair? = none) →
        ∃ (inserted : List β) (removed : List α),
          gap = inserted.map .inserted ++ removed.map .removed := by
  have ordered := ordered_align compare left right
  constructor
  · intro before behind item other split
    rw [split] at ordered
    have together : Ordered [.removed item, .inserted other] :=
      List.IsChain.infix ordered ⟨before, behind, by simp⟩
    exact (List.isChain_cons.1 together).1 _ rfl
  · intro before gap behind split unpaired
    rw [split] at ordered
    have inside : Ordered gap := List.IsChain.infix ordered ⟨before, behind, rfl⟩
    exact inside.exists_gaps unpaired

/-- An item on each side is left out in front of the pair, that of the right list first. -/
theorem insertions_precede_removals_of_exchange :
    let compare (left right : Nat) := Similarity.leaf "number" (left == right)
    let gap : List (AlignStep Nat Nat) := [.inserted 8, .removed 1]
    align compare [1, 5] [8, 5] = [] ++ gap ++ [.pair 5 5 (compare 5 5)] ∧
      ∃ (inserted : List Nat) (removed : List Nat),
        gap = inserted.map .inserted ++ removed.map .removed := by
  intro compare gap
  have aligned : align compare [1, 5] [8, 5] = [] ++ gap ++ [.pair 5 5 (compare 5 5)] := rfl
  refine ⟨aligned, (insertions_precede_removals compare _ _).2 _ _ _ aligned ?_⟩
  simp [gap, AlignStep.pair?]

end Likeness.Alignment
