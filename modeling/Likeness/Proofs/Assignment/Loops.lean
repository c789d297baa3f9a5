import Likeness.Proofs.Assignment.Phases
import Mathlib.Data.List.Sort

/-!
# What is said at once and done column by column

`Search.visit` raises the potential of every row on the path. Done column by column, the virtual one
first, the row of each visited column is raised, and `Visits.rowPotential_visit` shows that this is
the same in every visit of a search: no two of these columns have the same row.

`best` tells for each row its column. Found column by column, the pairs are those of the columns that
have an owner, and have to be sorted; `best_eq_sorted` shows that they come out the same.
-/

namespace Likeness.Assignment

variable {rows columns : Nat}

/-! ## Potentials -/

/-- Numbers that are raised at different indices are raised once each. -/
theorem get_foldl_raise {size : Nat} (delta : Int) {indices : List (Fin size)}
    (nodup : indices.Nodup) (numbers : Vector Int size) (index : Fin size) :
    (indices.foldl
        (fun numbers index => numbers.set index (numbers.get index + delta) index.isLt)
        numbers).get index =
      numbers.get index + (if index ∈ indices then delta else 0) := by
  induction indices generalizing numbers with
  | nil => simp
  | cons first indices ih =>
    obtain ⟨fresh, nodup⟩ := List.nodup_cons.1 nodup
    rw [List.foldl_cons, ih nodup, get_set]
    by_cases same : first = index
    · subst same
      simp [fresh]
    · simp [same, Ne.symm same]

namespace Search

/-- The places of a search: the virtual column and all others. -/
def places (columns : Nat) : List (Option (Fin columns)) :=
  none :: (List.finRange columns).map some

/-- The place has been visited; a search visits the virtual column first. -/
def visitedAt (search : Search rows columns) (place : Option (Fin columns)) : Bool :=
  place.all fun column => search.visited.get column

/-- The potentials of rows after the row of each visited place has been raised. -/
def raiseEach (search : Search rows columns) (row : Fin rows) (delta : Int) : Vector Int rows :=
  (places columns).foldl
    (fun potential place =>
      if search.visitedAt place then
        let other := search.rowAt row place
        potential.set other (potential.get other + delta) other.isLt
      else potential)
    search.rowPotential

variable {weight : Fin rows → Fin columns → Nat} {assigned : List (Fin rows)} {row : Fin rows}
  {state : State rows columns} {trail : List (Fin columns)} {search : Search rows columns}

/-- The visited places are the virtual column and the trail. -/
theorem Explored.perm_places (explored : Explored weight assigned row trail search) :
    ((places columns).filter search.visitedAt).Perm (none :: trail.map some) := by
  have inside : ((List.finRange columns).filter fun column => search.visited.get column).Perm
      trail := by
    refine (List.perm_ext_iff_of_nodup ((List.nodup_finRange columns).filter _)
      explored.nodup).2 fun column => ?_
    rw [List.mem_filter, ← explored.visited column]
    exact and_iff_right (List.mem_finRange column)
  rw [places, List.filter_cons_of_pos rfl, List.filter_map]
  exact (inside.map some).cons none

/-- Raising the row of each visited place raises each row on the path once. -/
theorem Explored.raiseEach_eq (explored : Explored weight assigned row trail search)
    (next : Fin columns) (delta : Int) :
    search.raiseEach row delta = (search.shift row next delta).rowPotential := by
  have visited := explored.perm_places.map (search.rowAt row)
  rw [List.map_cons, List.map_map] at visited
  have nodup : (((places columns).filter search.visitedAt).map (search.rowAt row)).Nodup :=
    visited.nodup_iff.2 explored.nodup_rows
  have each : search.raiseEach row delta =
      (((places columns).filter search.visitedAt).map (search.rowAt row)).foldl
        (fun potential other => potential.set other (potential.get other + delta) other.isLt)
        search.rowPotential := by
    rw [List.foldl_map, List.foldl_filter]
    rfl
  refine Vector.ext fun index inside => ?_
  have raised := get_foldl_raise delta nodup search.rowPotential ⟨index, inside⟩
  have onPath := (explored.onPath_iff_mem ⟨index, inside⟩).trans visited.mem_iff.symm
  have shifted : (search.shift row next delta).rowPotential.get ⟨index, inside⟩ = _ :=
    get_ofFn _ ⟨index, inside⟩
  simp only [← onPath, ← each] at raised
  exact raised.trans shifted.symm

/-- In every visit of a search, the potentials of rows come to be those that are raised column by
column. -/
theorem Visits.rowPotential_visit {places : List (Option (Fin columns))} {free : Fin columns}
    (visits : Visits weight row state places search) (sound : state.Sound weight assigned)
    (unassigned : row ∉ assigned) (isFree : state.owner.get free = none)
    (busy : search.atFree = false) :
    ∃ next delta, search.Finds weight row next delta ∧
      (search.visit weight row).rowPotential = (search.relax weight row).raiseEach row delta := by
  obtain ⟨trail, _, ready⟩ := visits.exists_ready sound unassigned isFree busy
  obtain ⟨next, delta, finds, _⟩ := exists_nearest ready.explored (visits.owner_eq ▸ isFree)
  exact ⟨next, delta, finds, by rw [finds.visit_eq, ready.explored.raiseEach_eq next delta]⟩

end Search

/-! ## Pairs -/

/-- The columns that have an owner, each with it, from the first column on. -/
def State.listed (state : State rows columns) : List (Fin rows × Fin columns) :=
  (List.finRange columns).filterMap fun column => (state.owner.get column).map (·, column)

theorem State.pairs_listed (state : State rows columns) : state.Pairs state.listed := by
  constructor
  · refine (List.nodup_finRange columns).filterMap ?_
    intro column column' pair first second
    obtain ⟨_, _, rfl⟩ := Option.map_eq_some_iff.1 first
    obtain ⟨_, _, same⟩ := Option.map_eq_some_iff.1 second
    exact (congrArg Prod.snd same).symm
  · intro row column
    simp [listed]

/-- Pairs are sorted by row, and those of one row by column. -/
def precedes (first second : Fin rows × Fin columns) : Bool :=
  first.1 < second.1 || (first.1 = second.1 && first.2 ≤ second.2)

theorem precedes_iff (first second : Fin rows × Fin columns) :
    precedes first second ↔
      first.1.val < second.1.val ∨ first.1.val = second.1.val ∧ first.2.val ≤ second.2.val := by
  simp [precedes, Fin.ext_iff]

/-- Pairs with ascending rows are what the same pairs are sorted to. -/
theorem eq_mergeSort {pairs others : List (Fin rows × Fin columns)}
    (ascending : pairs.Pairwise fun first second => first.1 < second.1) (same : pairs.Perm others) :
    pairs = others.mergeSort precedes := by
  have sorted : (others.mergeSort precedes).Pairwise fun first second => precedes first second := by
    refine List.pairwise_mergeSort (fun first second third => ?_) (fun first second => ?_) others
    · rw [precedes_iff, precedes_iff, precedes_iff]
      omega
    · rw [Bool.or_eq_true, precedes_iff, precedes_iff]
      omega
  refine List.Perm.eq_of_pairwise (fun first second _ _ => ?_) (ascending.imp fun less => ?_) sorted
    (same.trans (List.mergeSort_perm others precedes).symm)
  · rw [precedes_iff, precedes_iff, Prod.ext_iff, Fin.ext_iff, Fin.ext_iff]
    omega
  · exact (precedes_iff _ _).2 (.inl less)

/-- Pairs of one state differ in their order only. -/
theorem State.Pairs.perm {state : State rows columns} {pairs others : List (Fin rows × Fin columns)}
    (ofState : state.Pairs pairs) (ofState' : state.Pairs others) : pairs.Perm others := by
  refine (List.perm_ext_iff_of_nodup ofState.1 ofState'.1).2 fun (row, column) => ?_
  rw [ofState.2, ofState'.2]

/-- The best pairs are those of the columns that have an owner, sorted. With more rows than columns,
they are found the other way round, exchanged and sorted again. -/
theorem best_eq_sorted (weight : Fin rows → Fin columns → Nat) :
    best weight =
      if rows ≤ columns then (solve weight).listed.mergeSort precedes
      else (((solve fun column row => weight row column).listed.mergeSort precedes).map
        Prod.swap).mergeSort precedes := by
  split
  · rename_i wide
    exact eq_mergeSort (pairwise_best weight)
      ((pairs_best_of_le weight wide).perm (State.pairs_listed _))
  · rename_i tall
    have exchanged := (pairs_best_of_lt weight (Nat.not_le.1 tall)).perm (State.pairs_listed _)
    have back := (exchanged.trans (List.mergeSort_perm _ precedes).symm).map Prod.swap
    rw [List.map_map, Prod.swap_swap_eq, List.map_id] at back
    exact eq_mergeSort (pairwise_best weight) back

end Likeness.Assignment
