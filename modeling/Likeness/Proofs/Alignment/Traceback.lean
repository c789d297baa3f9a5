import Likeness.Comparison.Traceback
import Likeness.Proofs.Alignment.Pairings

/-!
# The way back finds the alignment

The table that is filled in place holds, at every place, the greatest of what its three neighbours
allow: a place is written once, after its neighbours and before every place that is made from it.
These are the weights of the cells behind `Alignment.align`, so that the way back decides at every
place as the cell does. It never leads in front of the first boundary, since the weights there are
all zero and an item of the left list is left out, and never asks for a pair that has been used.
-/

namespace Likeness.Alignment

open Assignment

variable {rows columns : Nat}

/-! ## Weights -/

namespace Weights

/-- A weight that is written is found at its place and nowhere else. -/
theorem entry_put (best : Weights rows columns) (row : Fin rows) (column : Fin columns) (weight : Nat)
    (row' : Fin (rows + 1)) (column' : Fin (columns + 1)) :
    (best.put row column weight).entry row' column' =
      if row.succ = row' ∧ column.succ = column' then weight else best.entry row' column' := by
  rw [put, entry, get_set]
  by_cases sameRow : row.succ = row'
  · subst sameRow
    rw [if_pos rfl, get_set, entry]
    simp
  · rw [if_neg sameRow, if_neg fun both => sameRow both.1, entry]

/-- A place in the table is found before another one: in an earlier row, or further in front in the
same row. -/
def Before (place place' : Fin rows × Fin columns) : Prop :=
  place.1 < place'.1 ∨ place.1 = place'.1 ∧ place.2 < place'.2

/-- What a place is made from, and the place itself, are not written later. -/
theorem Before.not_written {place place' : Fin rows × Fin columns} (before : Before place place')
    {row : Fin (rows + 1)} {column : Fin (columns + 1)} (above : row ≤ place.1.succ)
    (beside : column ≤ place.2.succ) : ¬(place'.1.succ = row ∧ place'.2.succ = column) := by
  rintro ⟨rfl, rfl⟩
  rw [Fin.succ_le_succ_iff] at above beside
  obtain later | ⟨_, later⟩ := before
  · exact absurd above (not_le_of_gt later)
  · exact absurd beside (not_le_of_gt later)

/-- The greatest weight that the neighbours of a place allow. -/
def allowed (weight : Fin rows → Fin columns → Nat) (best : Weights rows columns) (row : Fin rows)
    (column : Fin columns) : Nat :=
  max (max (best.entry row.castSucc column.castSucc + weight row column)
    (best.entry row.castSucc column.succ)) (best.entry row.succ column.castSucc)

/-- Weights of which each is the greatest that its neighbours allow. -/
structure Filled (weight : Fin rows → Fin columns → Nat) (best : Weights rows columns) : Prop where
  first : ∀ column, best.entry 0 column = 0
  start : ∀ row, best.entry row 0 = 0
  inner : ∀ row column, best.entry row.succ column.succ = best.allowed weight row column

variable {weight : Fin rows → Fin columns → Nat} {places : List (Fin rows × Fin columns)}

/-- Finding a weight changes its own place only. -/
theorem entry_improve (best : Weights rows columns) (row : Fin rows) (column : Fin columns)
    (row' : Fin (rows + 1)) (column' : Fin (columns + 1)) :
    (best.improve weight row column).entry row' column' =
      if row.succ = row' ∧ column.succ = column' then best.allowed weight row column
      else best.entry row' column' :=
  entry_put best row column _ row' column'

/-- Places that are not among those whose weights are found keep theirs. -/
theorem entry_foldl_of_away (best : Weights rows columns) {row : Fin (rows + 1)}
    {column : Fin (columns + 1)}
    (away : ∀ place ∈ places, ¬(place.1.succ = row ∧ place.2.succ = column)) :
    (places.foldl (fun best place => best.improve weight place.1 place.2) best).entry row column =
      best.entry row column := by
  induction places generalizing best with
  | nil => rfl
  | cons place places ih =>
    rw [List.foldl_cons, ih _ fun other member => away other (.tail _ member), entry_improve,
      if_neg (away place (.head _))]

/-- Each place whose weight is found in turn has the greatest that its neighbours allow in the end:
none of them is written any more. -/
theorem entry_foldl_of_mem (ordered : places.Pairwise Before) (best : Weights rows columns)
    {row : Fin rows} {column : Fin columns} (member : (row, column) ∈ places) :
    let filled := places.foldl (fun best place => best.improve weight place.1 place.2) best
    filled.entry row.succ column.succ = filled.allowed weight row column := by
  induction places generalizing best with
  | nil => cases member
  | cons place places ih =>
    obtain ⟨later, ordered⟩ := List.pairwise_cons.1 ordered
    obtain rfl | member := List.mem_cons.1 member
    · have kept {row' : Fin (rows + 1)} {column' : Fin (columns + 1)} (above : row' ≤ row.succ)
          (beside : column' ≤ column.succ) :
          (places.foldl (fun best place => best.improve weight place.1 place.2)
            (best.improve weight row column)).entry row' column' =
          (best.improve weight row column).entry row' column' :=
        entry_foldl_of_away _ fun place' member => (later place' member).not_written above beside
      have above : row.castSucc < row.succ := Fin.castSucc_lt_succ
      have beside : column.castSucc < column.succ := Fin.castSucc_lt_succ
      simp only [List.foldl_cons, allowed]
      rw [kept le_rfl le_rfl, kept above.le beside.le, kept above.le le_rfl, kept le_rfl beside.le]
      simp only [entry_improve, above.ne', beside.ne', and_self, and_false, false_and, if_true,
        if_false, allowed]
    · exact ih ordered _ member

/-- The rows are gone through one after the other, and each of them from its front. -/
theorem fill_eq (weight : Fin rows → Fin columns → Nat) :
    fill weight = ((List.finRange rows).flatMap fun row => (List.finRange columns).map (row, ·)).foldl
      (fun best place => best.improve weight place.1 place.2) (zero rows columns) := by
  rw [fill, List.foldl_flatMap]
  simp only [List.foldl_map]

theorem filled_fill (weight : Fin rows → Fin columns → Nat) : (fill weight).Filled weight := by
  rw [fill_eq]
  have ordered : ((List.finRange rows).flatMap fun row =>
      (List.finRange columns).map (row, ·)).Pairwise Before := by
    rw [List.pairwise_flatMap]
    constructor
    · intro row _
      exact List.pairwise_map.2 ((List.pairwise_lt_finRange columns).imp fun less => .inr ⟨rfl, less⟩)
    · refine (List.pairwise_lt_finRange rows).imp fun less place member place' member' => .inl ?_
      obtain ⟨_, _, rfl⟩ := List.mem_map.1 member
      obtain ⟨_, _, rfl⟩ := List.mem_map.1 member'
      exact less
  have empty (row : Fin (rows + 1)) (column : Fin (columns + 1)) :
      (zero rows columns).entry row column = 0 := by
    rw [entry, zero, get_replicate, get_replicate]
  constructor
  · intro column
    rw [entry_foldl_of_away _ fun place _ written => Fin.succ_ne_zero _ written.1, empty]
  · intro row
    rw [entry_foldl_of_away _ fun place _ written => Fin.succ_ne_zero _ written.2, empty]
  · intro row column
    refine entry_foldl_of_mem ordered _ (List.mem_flatMap.2 ⟨row, List.mem_finRange row, ?_⟩)
    exact List.mem_map.2 ⟨column, List.mem_finRange column, rfl⟩

end Weights

/-! ## The way back -/

theorem itemBefore_zero {size : Nat} : itemBefore (0 : Fin (size + 1)) = none := rfl

theorem itemBefore_succ {size : Nat} (index : Fin size) : itemBefore index.succ = some index := rfl

/-- The beginning of a list in front of a boundary is empty at the first one only. -/
theorem eq_zero_of_take {α : Type} {items : List α} {boundary : Fin (items.length + 1)}
    (shape : (items.take boundary).reverse = []) : boundary = 0 := by
  have length := congrArg List.length shape
  have inside := boundary.isLt
  rw [List.length_reverse, List.length_take, List.length_nil] at length
  exact Fin.ext (show boundary.val = 0 by omega)

/-- A beginning that is not empty ends with the item in front of its boundary. -/
theorem exists_of_take {α : Type} {items front : List α} {item : α}
    {boundary : Fin (items.length + 1)} (shape : (items.take boundary).reverse = item :: front) :
    ∃ index : Fin items.length, boundary = index.succ ∧ items.get index = item ∧
      (items.take index.castSucc).reverse = front := by
  have moved : boundary ≠ 0 := by
    rintro rfl
    cases shape
  obtain ⟨index, rfl⟩ := Fin.exists_succ_eq.2 moved
  rw [Fin.val_succ, List.take_succ_eq_append_getElem index.isLt, List.reverse_append] at shape
  obtain ⟨rfl, rfl⟩ := List.cons.inj shape
  exact ⟨index, rfl, rfl, rfl⟩

namespace Trace

variable {trace : Trace rows columns} {best : Weights rows columns}
  {compare : Fin rows → Fin columns → Similarity}

/-- The comparisons in front of a place have not been used. -/
def Intact (compare : Fin rows → Fin columns → Similarity) (trace : Trace rows columns) : Prop :=
  ∀ row column, row.castSucc < trace.row → column.castSucc < trace.column →
    (trace.pairs.get row).get column = some (compare row column)

/-- The way back from a place takes some steps, and there is enough of it. -/
def Takes (best : Weights rows columns) (trace : Trace rows columns)
    (steps : List (AlignStep (Fin rows) (Fin columns))) : Prop :=
  ∀ count, trace.row.val + trace.column.val ≤ count →
    (trace.run best count).map Trace.steps = some (steps ++ trace.steps)

theorem takes_start (row : trace.row = 0) (column : trace.column = 0) : trace.Takes best [] := by
  intro count _
  have started : trace.atStart := by simp [atStart, row, column]
  cases count <;> simp [run, started]

/-- A turn that goes back is followed by the rest of the way. -/
theorem Takes.turn {next : Trace rows columns} {step : AlignStep (Fin rows) (Fin columns)}
    {steps : List (AlignStep (Fin rows) (Fin columns))} (takes : next.Takes best steps)
    (turned : trace.turn best = some next) (added : next.steps = step :: trace.steps)
    (shorter : next.row.val + next.column.val < trace.row.val + trace.column.val) :
    trace.Takes best (steps ++ [step]) := by
  intro count enough
  have away : trace.atStart = false := Bool.eq_false_iff.2 fun started => by
    obtain ⟨row, column⟩ : trace.row = 0 ∧ trace.column = 0 := by simpa [atStart] using started
    simp [row, column] at shorter
  obtain ⟨count, rfl⟩ : ∃ less, count = less + 1 := ⟨count - 1, by omega⟩
  have rest := takes count (by omega)
  simp [run, away, turned, rest, added]

section Turns

variable {row : Fin rows} {column : Fin columns}

/-- Where both lists have an item in front, the comparison of the two decides about a pair. -/
theorem takePair_eq (intact : trace.Intact compare) (atRow : trace.row = row.succ)
    (atColumn : trace.column = column.succ) :
    trace.takePair best =
      if 0 < (compare row column).matched ∧ best.entry row.succ column.succ =
          best.entry row.castSucc column.castSucc + (compare row column).matched then
        some
          { row := row.castSucc
            column := column.castSucc
            pairs := trace.pairs.set row ((trace.pairs.get row).set column none column.isLt) row.isLt
            steps := .pair row column (compare row column) :: trace.steps }
      else none := by
  have unused := intact row column (by rw [atRow]; exact Fin.castSucc_lt_succ)
    (by rw [atColumn]; exact Fin.castSucc_lt_succ)
  simp only [takePair, atRow, atColumn, itemBefore_succ, Option.bind_eq_bind, Option.bind_some,
    unused, Option.map_some, Option.getD_some, Bool.and_eq_true, decide_eq_true_eq,
    Option.toList_some, List.singleton_append]

/-- A pair that is taken is not in front of the place behind it. -/
theorem Intact.takePair (intact : trace.Intact compare) (atRow : trace.row = row.succ)
    (atColumn : trace.column = column.succ) (steps : List (AlignStep (Fin rows) (Fin columns))) :
    Intact compare
      { row := row.castSucc
        column := column.castSucc
        pairs := trace.pairs.set row ((trace.pairs.get row).set column none column.isLt) row.isLt
        steps } := by
  intro row' column' above beside
  have other : row ≠ row' := by
    rintro rfl
    exact lt_irrefl _ above
  rw [get_set, if_neg other]
  refine intact row' column' ?_ ?_
  · rw [atRow]
    exact above.trans Fin.castSucc_lt_succ
  · rw [atColumn]
    exact beside.trans Fin.castSucc_lt_succ

theorem turn_pair {next : Trace rows columns} (paired : trace.takePair best = some next) :
    trace.turn best = some next := by
  simp [turn, paired]

/-- An item of the left list is left out where its pair is not taken and the weight is the same
without it. -/
theorem turn_left (unpaired : trace.takePair best = none) (atRow : trace.row = row.succ)
    (same : best.entry trace.row trace.column = best.entry row.castSucc trace.column) :
    trace.turn best =
      some { trace with row := row.castSucc, steps := .removed row :: trace.steps } := by
  rw [atRow] at same
  simp [turn, unpaired, takeLeft, atRow, itemBefore_succ, same]

/-- An item of the right list is left out where nothing else is. -/
theorem turn_right (unpaired : trace.takePair best = none) (kept : trace.takeLeft best = none)
    (atColumn : trace.column = column.succ) :
    trace.turn best =
      some { trace with column := column.castSucc, steps := .inserted column :: trace.steps } := by
  simp [turn, unpaired, kept, takeRight, atColumn, itemBefore_succ]

end Turns

end Trace

/-! ## Cells and places -/

section Cells

variable {α β : Type}

/-- The way back from a place takes the steps of a trail, the last one first. -/
def Leads (compare : α → β → Similarity) (left : List α) (right : List β)
    (best : Weights left.length right.length) (row : Fin (left.length + 1))
    (column : Fin (right.length + 1)) (trail : List (AlignStep α β)) : Prop :=
  ∀ trace : Trace left.length right.length, trace.row = row → trace.column = column →
    trace.Intact (fun row column => compare (left.get row) (right.get column)) →
      ∃ steps, trace.Takes best steps ∧
        steps.map (AlignStep.map left.get right.get) = trail.reverse

/-- A cell that has the weight of its place and the trail that the way back takes from there. -/
def Cell.Traced (compare : α → β → Similarity) (left : List α) (right : List β)
    (best : Weights left.length right.length) (lefts : List α) (rights : List β) (cell : Cell α β) :
    Prop :=
  ∀ (row : Fin (left.length + 1)) (column : Fin (right.length + 1)),
    (left.take row).reverse = lefts → (right.take column).reverse = rights →
      cell.score = best.entry row column ∧ Leads compare left right best row column cell.trail

variable {compare : α → β → Similarity} {left : List α} {right : List β}
  {best : Weights left.length right.length} {trail : List (AlignStep α β)}

/-- One more item of the left list is left out where the weights are the same and no pair is taken. -/
theorem Leads.removed {row : Fin left.length} {column : Fin (right.length + 1)}
    (leads : Leads compare left right best row.castSucc column trail)
    (same : best.entry row.succ column = best.entry row.castSucc column)
    (unpaired : ∀ trace : Trace left.length right.length, trace.row = row.succ →
      trace.column = column →
      trace.Intact (fun row column => compare (left.get row) (right.get column)) →
      trace.takePair best = none) :
    Leads compare left right best row.succ column (.removed (left.get row) :: trail) := by
  intro trace atRow atColumn intact
  have turned := Trace.turn_left (unpaired trace atRow atColumn intact) atRow
    (by rw [atRow, atColumn]; exact same)
  obtain ⟨steps, takes, shown⟩ := leads
    { trace with row := row.castSucc, steps := .removed row :: trace.steps } rfl atColumn
    fun row' column' above beside => intact row' column' (by
      rw [atRow]
      exact above.trans Fin.castSucc_lt_succ) beside
  refine ⟨steps ++ [.removed row], takes.turn turned rfl ?_, ?_⟩
  · rw [atRow, Fin.val_succ]
    simp only [Fin.val_castSucc]
    omega
  · rw [List.map_append, shown, List.reverse_cons]
    rfl

/-- One more item of the right list is left out where nothing else is done. -/
theorem Leads.inserted {row : Fin (left.length + 1)} {column : Fin right.length}
    (leads : Leads compare left right best row column.castSucc trail)
    (other : ∀ trace : Trace left.length right.length, trace.row = row →
      trace.column = column.succ →
      trace.Intact (fun row column => compare (left.get row) (right.get column)) →
      trace.takePair best = none ∧ trace.takeLeft best = none) :
    Leads compare left right best row column.succ (.inserted (right.get column) :: trail) := by
  intro trace atRow atColumn intact
  obtain ⟨unpaired, kept⟩ := other trace atRow atColumn intact
  have turned := Trace.turn_right unpaired kept atColumn
  obtain ⟨steps, takes, shown⟩ := leads
    { trace with column := column.castSucc, steps := .inserted column :: trace.steps } atRow rfl
    fun row' column' above beside => intact row' column' above (by
      rw [atColumn]
      exact beside.trans Fin.castSucc_lt_succ)
  refine ⟨steps ++ [.inserted column], takes.turn turned rfl ?_, ?_⟩
  · rw [atColumn, Fin.val_succ]
    simp only [Fin.val_castSucc]
    omega
  · rw [List.map_append, shown, List.reverse_cons]
    rfl

/-- Two more items are paired where they match in something and make the weight. -/
theorem Leads.pair {row : Fin left.length} {column : Fin right.length}
    (leads : Leads compare left right best row.castSucc column.castSucc trail)
    (positive : 0 < (compare (left.get row) (right.get column)).matched)
    (same : best.entry row.succ column.succ = best.entry row.castSucc column.castSucc +
      (compare (left.get row) (right.get column)).matched) :
    Leads compare left right best row.succ column.succ
      (.pair (left.get row) (right.get column) (compare (left.get row) (right.get column))
        :: trail) := by
  intro trace atRow atColumn intact
  have taken : trace.takePair best = _ := Trace.takePair_eq intact atRow atColumn
  rw [if_pos ⟨positive, same⟩] at taken
  obtain ⟨steps, takes, shown⟩ := leads _ rfl rfl (intact.takePair atRow atColumn _)
  refine ⟨steps ++ [_], takes.turn (Trace.turn_pair taken) rfl ?_, ?_⟩
  · rw [atRow, atColumn, Fin.val_succ, Fin.val_succ]
    simp only [Fin.val_castSucc]
    omega
  · rw [List.map_append, shown, List.reverse_cons]
    rfl

theorem table_traced (filled : best.Filled fun row column =>
      (compare (left.get row) (right.get column)).matched) :
    Table compare (Cell.Traced compare left right best) where
  start := by
    intro row column noRow noColumn
    obtain rfl := eq_zero_of_take noRow
    obtain rfl := eq_zero_of_take noColumn
    exact ⟨(filled.first 0).symm, fun trace atRow atColumn _ =>
      ⟨[], Trace.takes_start atRow atColumn, rfl⟩⟩
  insert := by
    intro rights cell item traced row column noRow shape
    obtain rfl := eq_zero_of_take noRow
    obtain ⟨place, rfl, rfl, front⟩ := exists_of_take shape
    refine ⟨(filled.first _).symm, (traced 0 place.castSucc noRow front).2.inserted ?_⟩
    intro trace atRow _ _
    simp [Trace.takePair, Trace.takeLeft, atRow, itemBefore_zero]
  remove := by
    intro lefts cell item traced row column shape noColumn
    obtain rfl := eq_zero_of_take noColumn
    obtain ⟨place, rfl, rfl, front⟩ := exists_of_take shape
    -- No column is in front of the first one, but none is asked for: all weights are zero here.
    have same : best.entry place.succ 0 = best.entry place.castSucc 0 := by
      rw [filled.start, filled.start]
    refine ⟨(filled.start _).symm, (traced place.castSucc 0 front noColumn).2.removed same ?_⟩
    intro trace atRow atColumn _
    simp [Trace.takePair, atRow, atColumn, itemBefore_succ, itemBefore_zero]
  choose := by
    intro lefts rights withoutBoth withoutLeft withoutRight item other both ofLeft ofRight
      row column shape shape'
    obtain ⟨place, rfl, rfl, front⟩ := exists_of_take shape
    obtain ⟨place', rfl, rfl, front'⟩ := exists_of_take shape'
    obtain ⟨scoreBoth, leadsBoth⟩ := both place.castSucc place'.castSucc front front'
    obtain ⟨scoreLeft, leadsLeft⟩ := ofLeft place.castSucc place'.succ front shape'
    obtain ⟨scoreRight, leadsRight⟩ := ofRight place.succ place'.castSucc shape front'
    have greatest : max (max (withoutBoth.score +
          (compare (left.get place) (right.get place')).matched) withoutLeft.score)
        withoutRight.score = best.entry place.succ place'.succ := by
      rw [scoreBoth, scoreLeft, scoreRight]
      exact (filled.inner place place').symm
    simp only [Cell.choose, greatest]
    split
    · rename_i paired
      simp only [Bool.and_eq_true, decide_eq_true_eq] at paired
      exact ⟨rfl, leadsBoth.pair paired.1 (scoreBoth ▸ paired.2)⟩
    · rename_i unpaired
      have refused (trace : Trace left.length right.length) (atRow : trace.row = place.succ)
          (atColumn : trace.column = place'.succ) (intact : trace.Intact fun row column =>
            compare (left.get row) (right.get column)) : trace.takePair best = none := by
        rw [Trace.takePair_eq intact atRow atColumn, if_neg]
        simpa [scoreBoth] using unpaired
      split
      · rename_i removed
        exact ⟨rfl, leadsLeft.removed (scoreLeft ▸ removed) refused⟩
      · rename_i kept
        refine ⟨rfl, leadsRight.inserted fun trace atRow atColumn intact =>
          ⟨refused trace atRow atColumn intact, ?_⟩⟩
        simp [Trace.takeLeft, atRow, atColumn, itemBefore_succ, ← scoreLeft, kept]

variable (compare left right) in
/-- The way back from the end of two lists comes to their start, and takes the steps of their
alignment. -/
theorem traceback_eq_align :
    ∃ steps, traceback (fun row column => compare (left.get row) (right.get column)) = some steps ∧
      align compare left right = steps.map (AlignStep.map left.get right.get) := by
  have filled := Weights.filled_fill fun row column =>
    (compare (left.get row) (right.get column)).matched
  obtain ⟨cell, traced, shown⟩ := (table_traced filled).exists_cell left right
  obtain ⟨_, leads⟩ := traced (Fin.last _) (Fin.last _) (by simp) (by simp)
  obtain ⟨steps, takes, same⟩ := leads
    ⟨Fin.last _, Fin.last _, Vector.ofFn fun row => Vector.ofFn fun column =>
      some (compare (left.get row) (right.get column)), []⟩ rfl rfl
    fun row column _ _ => by rw [get_ofFn, get_ofFn]
  refine ⟨steps, ?_, by rw [shown, same]⟩
  have whole := takes (left.length + right.length) (Nat.le_refl _)
  rw [List.append_nil] at whole
  exact whole

end Cells

end Likeness.Alignment
