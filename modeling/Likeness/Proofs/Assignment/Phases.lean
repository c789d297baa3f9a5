import Likeness.Proofs.Assignment.Optimality
import Mathlib.Data.Fin.VecNotation

/-!
# The run of an assignment, visit by visit

Rows are assigned one after the other, each by a search and by handing columns on along the path that
the search found. `HandsOn` describes a path by its columns, as `Search.Visits` does a search by its
places; neither bounds the number of steps. Both end by themselves: a visited column belongs to a row
that is assigned already, and no row is visited twice, so there are at most as many visits as assigned
rows and one for the new row; a path goes down the visited columns, whatever older searches left
behind about the others. The main statement is `assigning_a_row_is_safe`.
-/

namespace Likeness.Assignment

variable {rows columns : Nat}

/-! ## The first rows -/

/-- The rows below a number, from the last one back: those that are assigned before the row of that
number. -/
def rowsBefore (rows count : Nat) : List (Fin rows) := ((List.finRange rows).take count).reverse

/-- Assign as many rows as that. -/
def solveFirst (weight : Fin rows → Fin columns → Nat) (count : Nat) : State rows columns :=
  ((List.finRange rows).take count).foldl (assignRow weight) (State.start rows columns)

/-- Behind the rows below a given one comes that row. -/
theorem take_finRange_succ (row : Fin rows) :
    (List.finRange rows).take (row + 1) = (List.finRange rows).take row ++ [row] := by
  rw [List.take_add_one, List.getElem?_eq_getElem (by simp)]
  simp

/-- One row more is assigned before the next row. -/
theorem rowsBefore_succ (row : Fin rows) :
    rowsBefore rows (row + 1) = row :: rowsBefore rows row := by
  rw [rowsBefore, take_finRange_succ, List.reverse_append]
  rfl

/-- The next row is assigned to what the rows below it leave. -/
theorem solveFirst_succ (weight : Fin rows → Fin columns → Nat) (row : Fin rows) :
    solveFirst weight (row + 1) = assignRow weight (solveFirst weight row) row := by
  rw [solveFirst, take_finRange_succ, List.foldl_append]
  rfl

/-- All rows are assigned in the end. -/
theorem solveFirst_rows (weight : Fin rows → Fin columns → Nat) :
    solveFirst weight rows = solve weight := by
  rw [solveFirst, List.take_of_length_le (by simp)]
  rfl

/-- The rows below a number are those whose own number is smaller. -/
@[simp] theorem mem_rowsBefore {count : Nat} {row : Fin rows} :
    row ∈ rowsBefore rows count ↔ row < count := by
  rw [rowsBefore, List.mem_reverse, List.mem_take_iff_getElem]
  constructor
  · rintro ⟨index, bound, rfl⟩
    simp only [List.getElem_finRange, Fin.val_cast]
    omega
  · intro below
    refine ⟨row, ?_, by simp⟩
    simp only [List.length_finRange]
    omega

@[simp] theorem length_rowsBefore (row : Fin rows) : (rowsBefore rows row).length = row := by
  simp only [rowsBefore, List.length_reverse, List.length_take, List.length_finRange]
  omega

/-- Whatever number of rows is assigned, the potentials are in order. -/
theorem sound_solveFirst (weight : Fin rows → Fin columns → Nat) (wide : rows ≤ columns)
    (count : Nat) : (solveFirst weight count).Sound weight (rowsBefore rows count) := by
  have nodup : (rowsBefore rows count ++ []).Nodup := by
    rw [List.append_nil, rowsBefore, List.nodup_reverse]
    exact (List.nodup_finRange rows).sublist (List.take_sublist _ _)
  have sound := (sound_foldl wide _ nodup (State.sound_start weight) (.inl rfl)).1
  rwa [List.append_nil] at sound

/-! ## Safe visits -/

namespace Search

/-- What makes a visit safe: the place is new and has a row, which is new too; every column that is
not visited has been reached when its slack is compared; and one of them comes next. -/
structure Safe (weight : Fin rows → Fin columns → Nat) (row : Fin rows)
    (places : List (Option (Fin columns))) (search : Search rows columns) : Prop where
  fresh : search.column ∉ places
  visited : ∀ column : Fin columns, search.visited.get column = true ↔ some column ∈ places
  owned : ∀ column, search.column = some column → search.owner.get column ≠ none
  rows : ((search.column :: places).map (search.rowAt row)).Nodup
  reached : ∀ column : Fin columns, (search.relax weight row).visited.get column = false →
    (search.relax weight row).slack.get column ≠ none
  moves : ∃ next delta, search.Finds weight row next delta ∧ some next ∉ search.column :: places

variable {weight : Fin rows → Fin columns → Nat} {assigned : List (Fin rows)} {row : Fin rows}
  {state : State rows columns} {trail : List (Fin columns)} {places : List (Option (Fin columns))}
  {search : Search rows columns} {free : Fin columns}

/-! ### The rows of a trail -/

/-- A column of a trail belongs to the row of its place. -/
theorem Explored.owner_eq (explored : Explored weight assigned row trail search)
    {column : Fin columns} (member : column ∈ trail) :
    search.owner.get column = some (search.rowAt row (some column)) := by
  cases owns : search.owner.get column with
  | none => exact absurd owns (explored.owned column member)
  | some other => rw [rowAt_some owns]

/-- The columns of a trail belong to rows that are assigned. -/
theorem Explored.rowAt_mem_assigned (explored : Explored weight assigned row trail search)
    {column : Fin columns} (member : column ∈ trail) :
    search.rowAt row (some column) ∈ assigned :=
  (explored.sound.owned _).2 ⟨column, explored.owner_eq member⟩

/-- No two columns of a trail belong to the same row. -/
theorem Explored.nodup_rowAt (explored : Explored weight assigned row trail search) :
    (trail.map fun column => search.rowAt row (some column)).Nodup := by
  refine explored.nodup.map_on fun column member column' member' same => ?_
  refine explored.sound.unique (explored.owner_eq member) ?_
  rw [same]
  exact explored.owner_eq member'

/-- The rows on a path are all different: the new row is not assigned yet. -/
theorem Explored.nodup_rows (explored : Explored weight assigned row trail search) :
    (row :: trail.map fun column => search.rowAt row (some column)).Nodup := by
  refine List.nodup_cons.2 ⟨fun member => ?_, explored.nodup_rowAt⟩
  obtain ⟨column, inside, same⟩ := List.mem_map.1 member
  exact explored.unassigned (same ▸ explored.rowAt_mem_assigned inside)

/-- The rows on the path are those of the visited places. -/
theorem Explored.onPath_iff_mem (explored : Explored weight assigned row trail search)
    (other : Fin rows) :
    search.onPath row other = true ↔
      other ∈ row :: trail.map fun column => search.rowAt row (some column) := by
  constructor
  · intro onPath
    obtain ⟨place, inside, rfl⟩ := explored.exists_place onPath
    cases place with
    | none => exact .head _
    | some column => exact .tail _ (List.mem_map.2 ⟨column, inside column rfl, rfl⟩)
  · intro member
    obtain rfl | member := List.mem_cons.1 member
    · exact (onPath_iff search other other).2 (.inl rfl)
    · obtain ⟨column, inside, rfl⟩ := List.mem_map.1 member
      exact explored.onPath_rowAt fun _ same => Option.some.inj same ▸ inside

/-- A trail is no longer than the list of assigned rows. -/
theorem Explored.length_trail_le (explored : Explored weight assigned row trail search) :
    trail.length ≤ assigned.length := by
  have among : (trail.map fun column => search.rowAt row (some column)) ⊆ assigned := by
    intro other member
    obtain ⟨column, inside, rfl⟩ := List.mem_map.1 member
    exact explored.rowAt_mem_assigned inside
  simpa using (List.subperm_of_subset explored.nodup_rowAt among).length_le

section Sound

variable (sound : state.Sound weight assigned) (unassigned : row ∉ assigned)
  (isFree : state.owner.get free = none)

include sound unassigned isFree

/-- The columns marked as visited are those among the visited places. -/
theorem Visits.visited_iff (visits : Visits weight row state places search)
    (column : Fin columns) : search.visited.get column = true ↔ some column ∈ places := by
  obtain ⟨rfl, rfl⟩ | ⟨trail, present, rfl, standing⟩ :=
    visits.start_or_standing sound unassigned isFree
  · simp [Search.start]
  · rw [standing.visited]
    simp

/-- A search that is not at its end has made at most as many visits as rows are assigned. -/
theorem Visits.length_le (visits : Visits weight row state places search)
    (busy : search.atFree = false) : places.length ≤ assigned.length := by
  obtain ⟨trail, split, ready⟩ := visits.exists_ready sound unassigned isFree busy
  rw [length_places_eq split]
  exact ready.explored.length_trail_le

/-- Every visit of a search is safe. -/
theorem Visits.safe (visits : Visits weight row state places search)
    (busy : search.atFree = false) : search.Safe weight row places := by
  obtain ⟨trail, split, ready⟩ := visits.exists_ready sound unassigned isFree busy
  have stillFree : search.owner.get free = none := visits.owner_eq ▸ isFree
  have explored := ready.explored
  have inside (column : Fin columns) : some column ∈ search.column :: places ↔ column ∈ trail := by
    rw [split]
    simp
  have nodup : (search.column :: places).Nodup := by
    rw [split, List.nodup_append_comm]
    exact List.nodup_cons.2 ⟨by simp, explored.nodup.map (Option.some_injective _)⟩
  have fresh := (List.nodup_cons.1 nodup).1
  exact
    { fresh
      visited := visits.visited_iff sound unassigned isFree
      owned := by
        intro column present
        exact explored.owned column ((inside column).1 (present ▸ .head _))
      rows := by
        rw [split, List.map_append, List.nodup_append_comm, List.map_map]
        exact explored.nodup_rows
      reached := by
        intro column unvisited
        have out : column ∉ trail := fun member => by
          rw [(explored.visited column).2 member] at unvisited
          contradiction
        rw [explored.reached column out]
        exact Option.some_ne_none _
      moves := by
        obtain ⟨next, delta, finds, nearest⟩ := exists_nearest explored stillFree
        exact ⟨next, delta, finds, fun member => nearest.unvisited ((inside next).1 member)⟩ }

end Sound

end Search

/-! ## Paths, column by column -/

/-- Handing columns on along a path, from the column that gets a new owner back to the one that was
reached from the virtual column. -/
inductive HandsOn (row : Fin rows) (previous : Vector (Option (Fin columns)) columns) :
    List (Fin columns) → Fin columns → Vector (Option (Fin rows)) columns →
      Vector (Option (Fin rows)) columns → Prop where
  | last {column owner} (came : previous.get column = none) :
      HandsOn row previous [column] column owner (owner.set column (some row) column.isLt)
  | next {path column prior owner final} (came : previous.get column = some prior)
      (rest : HandsOn row previous path prior (owner.set column (owner.get prior) column.isLt)
        final) :
      HandsOn row previous (column :: path) column owner final

section Paths

variable {row : Fin rows} {previous : Vector (Option (Fin columns)) columns}
  {path trail : List (Fin columns)} {column : Fin columns}
  {owner final : Vector (Option (Fin rows)) columns}

/-- As many steps as a path has columns are enough. -/
theorem HandsOn.handOn_eq (hands : HandsOn row previous path column owner final) {steps : Nat}
    (enough : path.length ≤ steps) : handOn row previous steps column owner = final := by
  induction hands generalizing steps with
  | @last column owner came =>
    cases steps with
    | zero => simp at enough
    | succ steps =>
      have came : previous[column] = none := came
      rw [handOn, came]
  | @next path column prior owner final came rest ih =>
    cases steps with
    | zero => simp at enough
    | succ steps =>
      have came : previous[column] = some prior := came
      rw [handOn, came]
      exact ih (by simpa using enough)

/-- From a column that hangs together with a trail, a path goes down the trail to its end. -/
theorem exists_handsOn (row : Fin rows) (linked : Search.Linked previous (column :: trail))
    (owner : Vector (Option (Fin rows)) columns) :
    ∃ path final, HandsOn row previous path column owner final ∧ path.Sublist (column :: trail) := by
  induction trail generalizing column owner with
  | nil =>
    cases came : previous.get column with
    | none => exact ⟨_, _, .last came, .refl _⟩
    | some prior => exact absurd (linked.1 prior came) List.not_mem_nil
  | cons first trail ih =>
    cases came : previous.get column with
    | none => exact ⟨_, _, .last came, (List.nil_sublist _).cons_cons column⟩
    | some prior =>
      obtain rfl | later := List.mem_cons.1 (linked.1 prior came)
      · obtain ⟨path, final, hands, inside⟩ := ih linked.2 _
        exact ⟨_, final, .next came hands, inside.cons_cons column⟩
      · -- The first column is passed over, and the rest of the trail still holds the path.
        have shorter : Search.Linked previous (column :: trail) := by
          refine ⟨fun other came' => ?_, linked.2.2⟩
          rw [came] at came'
          exact Option.some.inj came' ▸ later
        obtain ⟨path, final, hands, inside⟩ := ih shorter owner
        exact ⟨path, final, hands, inside.trans ((List.sublist_cons_self _ _).cons_cons column)⟩

end Paths

/-! ## Assigning one row -/

section Row

variable {weight : Fin rows → Fin columns → Nat} {assigned : List (Fin rows)} {row : Fin rows}
  {state : State rows columns} {free : Fin columns}

/-- From where the search for a row ended, a path goes down its trail, and handing columns on along it
is what assigning the row does. -/
theorem Search.Standing.exists_handsOn {trail : List (Fin columns)}
    (standing : Standing weight assigned row trail free ((start state).run weight row (columns + 1))) :
    ∃ path, HandsOn row ((start state).run weight row (columns + 1)).previous path free
        ((start state).run weight row (columns + 1)).owner (assignRow weight state row).owner ∧
      path.Sublist (free :: trail) := by
  obtain ⟨path, owner, hands, inside⟩ := Assignment.exists_handsOn row
    ⟨standing.within free standing.unvisited, standing.linked⟩
    ((start state).run weight row (columns + 1)).owner
  have enough : path.length ≤ columns := by
    have bound := inside.length_le
    have short := standing.length_trail_lt
    rw [List.length_cons] at bound
    omega
  refine ⟨path, ?_, inside⟩
  rw [assignRow_eq standing.present, hands.handOn_eq enough]
  exact hands

end Row

/-- With not fewer columns than rows, a row is assigned as it should be. No visit of its search comes
after more visits than there are assigned rows, and each one is safe. The search ends at a free
column, behind one visit more at most. From there a path leads back over the visited columns to the
virtual one, and handing columns on along it leaves every row so far with a column of its own, and no
other row with any. -/
theorem assigning_a_row_is_safe (weight : Fin rows → Fin columns → Nat) (wide : rows ≤ columns)
    (row : Fin rows) :
    (∀ places search, Search.Visits weight row (solveFirst weight row) places search →
      search.atFree = false → places.length ≤ row ∧ search.Safe weight row places) ∧
    ∃ places free path,
      let final := (Search.start (solveFirst weight row)).run weight row (columns + 1)
      let owner := (solveFirst weight (row + 1)).owner
      Search.Visits weight row (solveFirst weight row) places final ∧ places.length ≤ row + 1 ∧
      final.column = some free ∧ final.owner.get free = none ∧
      HandsOn row final.previous path free final.owner owner ∧ path.Nodup ∧
      (∀ column ∈ path, column = free ∨ some column ∈ places) ∧
      (∀ other, (∃ column : Fin columns, owner.get column = some other) ↔ other ≤ row) ∧
      ∀ (other : Fin rows) (column column' : Fin columns), owner.get column = some other →
        owner.get column' = some other → column = column' := by
  have sound := sound_solveFirst weight wide row
  have unassigned : row ∉ rowsBefore rows row := by simp
  obtain ⟨vacant, isFree⟩ := exists_free wide sound unassigned
  constructor
  · intro places search visits busy
    refine ⟨?_, visits.safe sound unassigned isFree busy⟩
    simpa using visits.length_le sound unassigned isFree busy
  · obtain ⟨places, visits, ended⟩ := Search.exists_visits_run sound unassigned isFree
    obtain ⟨trail, free, split, standing, here⟩ :=
      visits.exists_standing sound unassigned isFree ended
    obtain ⟨path, hands, inside⟩ := standing.exists_handsOn
    rw [← solveFirst_succ] at hands
    have sound' := sound_solveFirst weight wide (row + 1)
    refine ⟨places, free, path, visits, ?_, standing.present, here, hands, ?_, ?_, ?_, ?_⟩
    · have bound := standing.length_trail_le
      rw [length_rowsBefore] at bound
      simpa [split] using bound
    · exact (List.nodup_cons.2 ⟨standing.unvisited, standing.nodup⟩).sublist inside
    · intro column member
      rw [split]
      simpa using inside.subset member
    · intro other
      rw [← sound'.owned other, mem_rowsBefore, Fin.le_def, Nat.lt_succ_iff]
    · intro other column column' owns owns'
      exact sound'.unique owns owns'

/-- The second row wants the column of the first: its search goes on over that column, and the path
hands it on. -/
theorem assigning_a_row_is_safe_over_another :
    let weight : Fin 2 → Fin 2 → Nat := ![![5, 4], ![4, 0]]
    let row : Fin 2 := 1
    let final := (Search.start (solveFirst weight row)).run weight row (2 + 1)
    (solveFirst weight row).owner.toList = [some 0, none] ∧
    (solveFirst weight (row + 1)).owner.toList = [some 1, some 0] ∧
    ∃ places free path, Search.Visits weight row (solveFirst weight row) places final ∧
      places.length ≤ row + 1 ∧ final.column = some free ∧
      HandsOn row final.previous path free final.owner (solveFirst weight (row + 1)).owner := by
  intro weight row final
  refine ⟨by decide +kernel, by decide +kernel, ?_⟩
  clear_value weight
  obtain ⟨_, places, free, path, visits, short, present, _, hands, _⟩ :=
    assigning_a_row_is_safe weight (Nat.le_refl 2) row
  exact ⟨places, free, path, visits, short, present, hands⟩

end Likeness.Assignment
