import Likeness.Comparison.Alignment

/-!
# Alignments are walks of greatest score

A walk takes the items of two lists in order: a step pairs two items or leaves one out. The table
behind `Alignment.align` holds one walk for each pair of beginnings, and every cell is made from its
three neighbours. `Table` states what such a construction keeps, so that a property of all cells is
proved by looking at one cell. The main statements are `optimal_align`, that no walk has a greater
score than the alignment, and `score_align_comm`, that the greatest score does not depend on which
list is the left one.
-/

namespace Likeness

variable {α β : Type}

/-- The matched weight that a step adds. -/
def AlignStep.matched : AlignStep α β → Nat
  | .pair _ _ similarity => similarity.matched
  | .removed _ => 0
  | .inserted _ => 0

namespace Alignment

/-- The matched weight of several steps. -/
def score (steps : List (AlignStep α β)) : Nat := Whole.sum (steps.map AlignStep.matched)

@[simp] theorem score_nil : score ([] : List (AlignStep α β)) = 0 := rfl

@[simp] theorem score_cons (step : AlignStep α β) (steps : List (AlignStep α β)) :
    score (step :: steps) = step.matched + score steps := rfl

@[simp] theorem score_append (first second : List (AlignStep α β)) :
    score (first ++ second) = score first + score second := by
  simp [score]

@[simp] theorem score_reverse (steps : List (AlignStep α β)) : score steps.reverse = score steps := by
  induction steps with
  | nil => rfl
  | cons step steps ih => simp [ih, Nat.add_comm]

/-- Steps that take all items of two lists in order, where a pair carries the comparison of its two
items. -/
inductive Walk (compare : α → β → Similarity) : List α → List β → List (AlignStep α β) → Prop where
  | done : Walk compare [] [] []
  | pair {lefts rights steps} (left : α) (right : β) (rest : Walk compare lefts rights steps) :
      Walk compare (left :: lefts) (right :: rights) (.pair left right (compare left right) :: steps)
  | removed {lefts rights steps} (left : α) (rest : Walk compare lefts rights steps) :
      Walk compare (left :: lefts) rights (.removed left :: steps)
  | inserted {lefts rights steps} (right : β) (rest : Walk compare lefts rights steps) :
      Walk compare lefts (right :: rights) (.inserted right :: steps)

namespace Walk

variable {compare : α → β → Similarity} {lefts lefts' : List α} {rights rights' : List β}
  {steps steps' : List (AlignStep α β)}

/-- One walk can follow another. -/
theorem append (first : Walk compare lefts rights steps)
    (second : Walk compare lefts' rights' steps') :
    Walk compare (lefts ++ lefts') (rights ++ rights') (steps ++ steps') := by
  induction first with
  | done => exact second
  | pair left right _ ih => exact .pair left right ih
  | removed left _ ih => exact .removed left ih
  | inserted right _ ih => exact .inserted right ih

/-- A walk can be taken from its end. -/
theorem reverse (walk : Walk compare lefts rights steps) :
    Walk compare lefts.reverse rights.reverse steps.reverse := by
  induction walk with
  | done => exact .done
  | pair left right _ ih => simpa using ih.append (.pair left right .done)
  | removed left _ ih => simpa using ih.append (.removed left .done)
  | inserted right _ ih => simpa using ih.append (.inserted right .done)

/-- A walk through an empty right list leaves all items of the left one out. -/
theorem eq_map_removed (walk : Walk compare lefts [] steps) : steps = lefts.map .removed := by
  generalize shape : ([] : List β) = rights at walk
  induction walk with
  | done => rfl
  | pair => contradiction
  | removed left _ ih => exact congrArg (.removed left :: ·) (ih shape)
  | inserted => contradiction

/-- A walk through an empty left list leaves all items of the right one out. -/
theorem eq_map_inserted (walk : Walk compare [] rights steps) : steps = rights.map .inserted := by
  generalize shape : ([] : List α) = lefts at walk
  induction walk with
  | done => rfl
  | pair => contradiction
  | removed => contradiction
  | inserted right _ ih => exact congrArg (.inserted right :: ·) (ih shape)

/-- A walk through an empty right list matches nothing. -/
theorem score_eq_zero_of_right_nil (walk : Walk compare lefts [] steps) : score steps = 0 := by
  rw [walk.eq_map_removed]
  clear walk
  induction lefts with
  | nil => rfl
  | cons left lefts ih => exact (Nat.zero_add _).trans ih

/-- A walk through an empty left list matches nothing. -/
theorem score_eq_zero_of_left_nil (walk : Walk compare [] rights steps) : score steps = 0 := by
  rw [walk.eq_map_inserted]
  clear walk
  induction rights with
  | nil => rfl
  | cons right rights ih => exact (Nat.zero_add _).trans ih

/-- Exchanging the lists exchanges the gaps of a walk and keeps its score, if comparing the other
way round matches as much. -/
theorem swap {compare' : β → α → Similarity} (walk : Walk compare lefts rights steps)
    (same : ∀ left ∈ lefts, ∀ right ∈ rights,
      (compare' right left).matched = (compare left right).matched) :
    ∃ swapped, Walk compare' rights lefts swapped ∧ score swapped = score steps := by
  induction walk with
  | done => exact ⟨[], .done, rfl⟩
  | pair left right _ ih =>
    obtain ⟨swapped, walk, equal⟩ := ih fun left memberLeft right memberRight =>
      same left (.tail _ memberLeft) right (.tail _ memberRight)
    refine ⟨_, .pair right left walk, ?_⟩
    have head := same left (.head _) right (.head _)
    simp [AlignStep.matched, head, equal]
  | removed left _ ih =>
    obtain ⟨swapped, walk, equal⟩ := ih fun left memberLeft => same left (.tail _ memberLeft)
    exact ⟨_, .inserted left walk, by simpa [AlignStep.matched] using equal⟩
  | inserted right _ ih =>
    obtain ⟨swapped, walk, equal⟩ := ih fun left memberLeft right memberRight =>
      same left memberLeft right (.tail _ memberRight)
    exact ⟨_, .removed right walk, by simpa [AlignStep.matched] using equal⟩

end Walk

/-- A property of cells that the construction of the table keeps. A cell stands for two beginnings,
given from their ends, and is made from the cells of shorter ones. -/
structure Table (compare : α → β → Similarity) (Good : List α → List β → Cell α β → Prop) :
    Prop where
  start : Good [] [] ⟨0, []⟩
  insert : ∀ {rights cell} (right : β), Good [] rights cell →
    Good [] (right :: rights) ⟨0, .inserted right :: cell.trail⟩
  remove : ∀ {lefts cell} (left : α), Good lefts [] cell →
    Good (left :: lefts) [] ⟨0, .removed left :: cell.trail⟩
  choose : ∀ {lefts rights withoutBoth withoutLeft withoutRight} (left : α) (right : β),
    Good lefts rights withoutBoth → Good lefts (right :: rights) withoutLeft →
      Good (left :: lefts) rights withoutRight →
        Good (left :: lefts) (right :: rights)
          (.choose left right (compare left right) withoutBoth withoutLeft withoutRight)

/-- A row of the table from a place in the right list on: the items before that place, from the last
one back, and the items behind it. -/
inductive Row (Good : List α → List β → Cell α β → Prop) (lefts : List α) :
    List β → List β → List (Cell α β) → Prop where
  | last {before cell} (good : Good lefts before cell) : Row Good lefts before [] [cell]
  | next {before right behind cell cells} (good : Good lefts before cell)
      (rest : Row Good lefts (right :: before) behind cells) :
      Row Good lefts before (right :: behind) (cell :: cells)

namespace Row

variable {Good : List α → List β → Cell α β → Prop} {lefts : List α} {before behind : List β}
  {cell : Cell α β} {cells : List (Cell α β)}

theorem head (row : Row Good lefts before behind (cell :: cells)) : Good lefts before cell := by
  cases row <;> assumption

/-- The last cell of a row stands for the whole right list. -/
theorem getLast (row : Row Good lefts before behind cells) :
    ∃ cell, cells.getLast? = some cell ∧ Good lefts (behind.reverse ++ before) cell := by
  induction row with
  | last good => exact ⟨_, rfl, good⟩
  | @next _ right _ first rest _ row ih =>
    obtain ⟨cell, final, good⟩ := ih
    refine ⟨cell, ?_, by simpa using good⟩
    cases rest with
    | nil => cases row
    | cons second others => simpa using final

end Row

namespace Table

variable {compare : α → β → Similarity} {Good : List α → List β → Cell α β → Prop}

/-- The first row stands for nothing on the left. -/
theorem row_insertions (table : Table compare Good) {before : List β} {cell : Cell α β}
    (behind : List β) (good : Good [] before cell) :
    Row Good [] before behind (insertions cell behind) := by
  induction behind generalizing before cell with
  | nil => exact .last good
  | cons right behind ih => exact .next good (ih (table.insert right good))

/-- A row is made from the one above it, cell by cell. -/
theorem row_extendRow (table : Table compare Good) {lefts : List α} {before behind : List β}
    {beside corner : Cell α β} {above : List (Cell α β)} (left : α)
    (row : Row Good lefts before behind (corner :: above))
    (good : Good (left :: lefts) before beside) :
    Row Good (left :: lefts) before behind
      (beside :: extendRow left beside corner
        (behind.map fun right => (right, compare left right)) above) := by
  induction behind generalizing before beside corner above with
  | nil =>
    cases row
    exact .last good
  | cons right behind ih =>
    cases row with
    | next goodCorner rest =>
      cases above with
      | nil => cases rest
      | cons next above =>
        exact .next good (ih rest (table.choose left right goodCorner rest.head good))

/-- One more item on the left makes one more row. -/
theorem row_nextRow (table : Table compare Good) {lefts : List α} {rights : List β}
    {row : List (Cell α β)} (left : α) (above : Row Good lefts [] rights row) :
    Row Good (left :: lefts) [] rights
      (nextRow row (left, rights.map fun right => (right, compare left right))) := by
  cases row with
  | nil => cases above
  | cons first rest => exact table.row_extendRow left above (table.remove left above.head)

/-- All items of the left list make the last row. -/
theorem row_foldl (table : Table compare Good) {passed : List α} {rights : List β}
    {row : List (Cell α β)} (lefts : List α) (above : Row Good passed [] rights row) :
    Row Good (lefts.reverse ++ passed) [] rights
      ((comparisons compare lefts rights).foldl nextRow row) := by
  induction lefts generalizing passed row with
  | nil => exact above
  | cons left lefts ih => simpa [comparisons] using ih (table.row_nextRow left above)

/-- The alignment of two lists is read off a cell for all of both. -/
theorem exists_cell (table : Table compare Good) (lefts : List α) (rights : List β) :
    ∃ cell, Good lefts.reverse rights.reverse cell ∧
      align compare lefts rights = cell.trail.reverse := by
  have first := table.row_insertions rights table.start
  obtain ⟨cell, final, good⟩ := (table.row_foldl lefts first).getLast
  refine ⟨cell, by simpa using good, ?_⟩
  simp [align, steps, final]

end Table

/-- Steps that take all of two lists, match as much as any others do, and pair only items that match
in something. -/
structure Optimal (compare : α → β → Similarity) (lefts : List α) (rights : List β)
    (steps : List (AlignStep α β)) : Prop where
  walk : Walk compare lefts rights steps
  greatest : ∀ {others}, Walk compare lefts rights others → score others ≤ score steps
  positive : ∀ {left right similarity}, .pair left right similarity ∈ steps →
    0 < similarity.matched

/-- Optimal steps stay optimal when everything is taken from its end. -/
theorem Optimal.reverse {compare : α → β → Similarity} {lefts : List α} {rights : List β}
    {steps : List (AlignStep α β)} (optimal : Optimal compare lefts rights steps) :
    Optimal compare lefts.reverse rights.reverse steps.reverse where
  walk := optimal.walk.reverse
  greatest := by
    intro others walk
    have back := walk.reverse
    rw [List.reverse_reverse, List.reverse_reverse] at back
    simpa using optimal.greatest back
  positive := by
    intro left right similarity member
    exact optimal.positive (List.mem_reverse.1 member)

/-- A cell whose trail is optimal and whose score is that of its trail. -/
structure Cell.Best (compare : α → β → Similarity) (lefts : List α) (rights : List β)
    (cell : Cell α β) : Prop extends Optimal compare lefts rights cell.trail where
  score_eq : cell.score = Alignment.score cell.trail

section Choose

variable {compare : α → β → Similarity} {lefts : List α} {rights : List β}
  {withoutBoth withoutLeft withoutRight : Cell α β} (left : α) (right : β)

/-- The chosen cell has the greatest of the scores that its three neighbours allow. -/
theorem Cell.score_choose (similarity : Similarity)
    (withoutBoth withoutLeft withoutRight : Cell α β) :
    (choose left right similarity withoutBoth withoutLeft withoutRight).score =
      max (max (withoutBoth.score + similarity.matched) withoutLeft.score) withoutRight.score := by
  unfold choose
  dsimp only
  split
  · rfl
  · split <;> rfl

/-- A longer beginning of the right list matches no less. -/
theorem Cell.Best.score_le_of_cons (both : withoutBoth.Best compare lefts rights)
    (ofLeft : withoutLeft.Best compare lefts (right :: rights)) :
    withoutBoth.score ≤ withoutLeft.score := by
  rw [both.score_eq, ofLeft.score_eq]
  simpa [AlignStep.matched] using ofLeft.greatest (.inserted right both.walk)

/-- The trail of the chosen cell goes on from one of its neighbours, and its score is the score of
that neighbour with the last step. An item of the right list is left out only where leaving out the
left one would match less. -/
theorem Cell.choose_cases (similarity : Similarity) {withoutBoth withoutLeft : Cell α β}
    (withoutRight : Cell α β) (bounded : withoutBoth.score ≤ withoutLeft.score) :
    let cell := choose left right similarity withoutBoth withoutLeft withoutRight
    (0 < similarity.matched ∧ cell.score = withoutBoth.score + similarity.matched ∧
        cell.trail = .pair left right similarity :: withoutBoth.trail) ∨
      (cell.score = withoutLeft.score ∧ cell.trail = .removed left :: withoutLeft.trail) ∨
      (withoutLeft.score < cell.score ∧ cell.score = withoutRight.score ∧
        cell.trail = .inserted right :: withoutRight.trail) := by
  intro cell
  have greatest := score_choose left right similarity withoutBoth withoutLeft withoutRight
  simp only [cell]
  rw [greatest]
  simp only [choose]
  split
  · rename_i paired
    simp only [Bool.and_eq_true, decide_eq_true_eq] at paired
    exact .inl ⟨paired.1, paired.2, rfl⟩
  · rename_i unpaired
    simp only [Bool.and_eq_true, decide_eq_true_eq, not_and] at unpaired
    split
    · rename_i removed
      exact .inr (.inl ⟨removed, rfl⟩)
    · rename_i kept
      -- A pair that matches in nothing is no better than leaving the left item out.
      refine .inr (.inr ⟨by omega, ?_, rfl⟩)
      by_cases positive : 0 < similarity.matched
      · have notPaired := unpaired positive
        omega
      · omega

/-- Every walk ends in one of the three steps, so the chosen cell is at least as good. -/
theorem best_choose (both : withoutBoth.Best compare lefts rights)
    (ofLeft : withoutLeft.Best compare lefts (right :: rights))
    (ofRight : withoutRight.Best compare (left :: lefts) rights) :
    (Cell.choose left right (compare left right) withoutBoth withoutLeft withoutRight).Best compare
      (left :: lefts) (right :: rights) := by
  have bounded := both.score_le_of_cons right ofLeft
  have greatest : ∀ {others}, Walk compare (left :: lefts) (right :: rights) others →
      score others ≤ (Cell.choose left right (compare left right) withoutBoth withoutLeft
        withoutRight).score := by
    intro others walk
    rw [Cell.score_choose]
    cases walk with
    | pair _ _ rest =>
      have := both.score_eq ▸ both.greatest rest
      simp only [score_cons, AlignStep.matched]
      omega
    | removed _ rest =>
      have := ofLeft.score_eq ▸ ofLeft.greatest rest
      simp only [score_cons, AlignStep.matched]
      omega
    | inserted _ rest =>
      have := ofRight.score_eq ▸ ofRight.greatest rest
      simp only [score_cons, AlignStep.matched]
      omega
  have shape := Cell.choose_cases left right (compare left right) withoutRight bounded
  generalize Cell.choose left right (compare left right) withoutBoth withoutLeft withoutRight = cell
    at greatest shape ⊢
  obtain ⟨cellScore, trail⟩ := cell
  simp only at greatest shape
  obtain ⟨positive, total, rfl⟩ | ⟨total, rfl⟩ | ⟨_, total, rfl⟩ := shape
  · have total : cellScore = score (.pair left right (compare left right) :: withoutBoth.trail) := by
      simp only [score_cons, AlignStep.matched, total, both.score_eq]
      omega
    refine ⟨⟨.pair left right both.walk, total ▸ greatest, ?_⟩, total⟩
    rintro _ _ _ (_ | ⟨_, member⟩)
    · exact positive
    · exact both.positive member
  · have total : cellScore = score (.removed left :: withoutLeft.trail) := by
      simp only [score_cons, AlignStep.matched, total, ofLeft.score_eq]
      omega
    refine ⟨⟨.removed left ofLeft.walk, total ▸ greatest, ?_⟩, total⟩
    rintro _ _ _ (_ | ⟨_, member⟩)
    exact ofLeft.positive member
  · have total : cellScore = score (.inserted right :: withoutRight.trail) := by
      simp only [score_cons, AlignStep.matched, total, ofRight.score_eq]
      omega
    refine ⟨⟨.inserted right ofRight.walk, total ▸ greatest, ?_⟩, total⟩
    rintro _ _ _ (_ | ⟨_, member⟩)
    exact ofRight.positive member

end Choose

/-- All cells of the table are best. -/
theorem table_best (compare : α → β → Similarity) : Table compare (Cell.Best compare) where
  start := by
    refine ⟨⟨.done, fun walk => ?_, nofun⟩, rfl⟩
    exact Nat.le_of_eq walk.score_eq_zero_of_left_nil
  insert := by
    intro rights cell right best
    have walk := Walk.inserted right best.walk
    refine ⟨⟨walk, fun other => ?_, ?_⟩, walk.score_eq_zero_of_left_nil.symm⟩
    · rw [other.score_eq_zero_of_left_nil]
      exact Nat.zero_le _
    · rintro _ _ _ (_ | ⟨_, member⟩)
      exact best.positive member
  remove := by
    intro lefts cell left best
    have walk := Walk.removed left best.walk
    refine ⟨⟨walk, fun other => ?_, ?_⟩, walk.score_eq_zero_of_right_nil.symm⟩
    · rw [other.score_eq_zero_of_right_nil]
      exact Nat.zero_le _
    · rintro _ _ _ (_ | ⟨_, member⟩)
      exact best.positive member
  choose := best_choose

/-- An alignment takes all of both lists and matches as much as can be matched in order. -/
theorem optimal_align (compare : α → β → Similarity) (lefts : List α) (rights : List β) :
    Optimal compare lefts rights (align compare lefts rights) := by
  obtain ⟨cell, best, same⟩ := (table_best compare).exists_cell lefts rights
  rw [same]
  simpa using best.toOptimal.reverse

theorem align_nil_right (compare : α → β → Similarity) (lefts : List α) :
    align compare lefts [] = lefts.map .removed :=
  (optimal_align compare lefts []).walk.eq_map_removed

theorem align_nil_left (compare : α → β → Similarity) (rights : List β) :
    align compare [] rights = rights.map .inserted :=
  (optimal_align compare [] rights).walk.eq_map_inserted

/-- An alignment matches as much from right to left as from left to right, if the comparisons do. -/
theorem score_align_comm {compare : α → β → Similarity} {compare' : β → α → Similarity}
    {lefts : List α} {rights : List β}
    (same : ∀ left ∈ lefts, ∀ right ∈ rights,
      (compare left right).matched = (compare' right left).matched) :
    score (align compare lefts rights) = score (align compare' rights lefts) := by
  have forth := optimal_align compare lefts rights
  have back := optimal_align compare' rights lefts
  obtain ⟨swapped, walk, equal⟩ := forth.walk.swap fun left memberLeft right memberRight =>
    (same left memberLeft right memberRight).symm
  obtain ⟨swapped', walk', equal'⟩ := back.walk.swap fun right memberRight left memberLeft =>
    same left memberLeft right memberRight
  have atMost := back.greatest walk
  have atLeast := forth.greatest walk'
  omega

end Alignment

end Likeness
