import Likeness.Comparison.Assignment

/-!
# One visit of a search

A search visits columns in the order of what it costs to reach them. Each visit has two halves: the
row of the visited column lowers the slack of the columns it reaches more cheaply, and then the
potentials of everything visited are shifted by the least slack. `State.Sound` says what holds
between two searches, `Search.Explored` what holds inside one, and `Search.Standing` what holds when
the search stands at a column. Both halves keep what the search knows.
-/

namespace Likeness.Assignment

variable {rows columns : Nat}

@[simp] theorem get_ofFn {α : Type} {size : Nat} (make : Fin size → α) (index : Fin size) :
    (Vector.ofFn make).get index = make index :=
  Vector.getElem_ofFn index.isLt

@[simp] theorem get_replicate {α : Type} {size : Nat} (value : α) (index : Fin size) :
    (Vector.replicate size value).get index = value :=
  Vector.getElem_replicate index.isLt

/-- A value that is set is found at its index and nowhere else. -/
theorem get_set {α : Type} {size : Nat} (vector : Vector α size) (value : α)
    (index other : Fin size) :
    (vector.set index value index.isLt).get other =
      if index = other then value else vector.get other := by
  simp only [Fin.ext_iff]
  exact Vector.getElem_set index.isLt other.isLt

/-- What the potentials leave of the cost of a cell. -/
def State.reduced (weight : Fin rows → Fin columns → Nat) (state : State rows columns)
    (row : Fin rows) (column : Fin columns) : Int :=
  -(weight row column : Int) - state.rowPotential.get row - state.columnPotential.get column

/-- The potentials leave no cost of an assigned cell and no cell of an assigned row below zero. Rows
share no column, and a column that was never needed has kept its potential. -/
structure State.Sound (weight : Fin rows → Fin columns → Nat) (assigned : List (Fin rows))
    (state : State rows columns) : Prop where
  feasible : ∀ row ∈ assigned, ∀ column, 0 ≤ state.reduced weight row column
  tight : ∀ {row column}, state.owner.get column = some row → state.reduced weight row column = 0
  unique : ∀ {row} {column column' : Fin columns}, state.owner.get column = some row →
    state.owner.get column' = some row → column = column'
  owned : ∀ row, row ∈ assigned ↔ ∃ column : Fin columns, state.owner.get column = some row
  nonpositive : ∀ column : Fin columns, state.columnPotential.get column ≤ 0
  free : ∀ {column : Fin columns}, state.owner.get column = none →
    state.columnPotential.get column = 0

/-- Nothing is assigned at the start, and nothing speaks against it. -/
theorem State.sound_start (weight : Fin rows → Fin columns → Nat) :
    (State.start rows columns).Sound weight [] where
  feasible := by simp
  tight := by simp [start]
  unique := by simp [start]
  owned := by simp [start]
  nonpositive := by simp [start]
  free := by simp [start]

/-! ## The two halves of a visit -/

namespace Search

/-- The row of a place: the owner of a column, and the row being assigned for the virtual one. -/
def rowAt (search : Search rows columns) (row : Fin rows) (place : Option (Fin columns)) :
    Fin rows :=
  (place.bind fun column => search.owner.get column).getD row

/-- The columns visited after the present one. -/
def nowVisited (search : Search rows columns) : Vector Bool columns :=
  match search.column with
  | none => search.visited
  | some column => search.visited.set column true column.isLt

/-- The row of the present place reaches a column more cheaply than any row before. -/
def lowers (weight : Fin rows → Fin columns → Nat) (row : Fin rows) (search : Search rows columns)
    (column : Fin columns) : Bool :=
  !search.nowVisited.get column && (search.slack.get column).all
    (search.reduced weight (search.rowAt row search.column) column < ·)

/-- The first half of a visit: the present place lowers slacks. -/
def relax (weight : Fin rows → Fin columns → Nat) (row : Fin rows) (search : Search rows columns) :
    Search rows columns :=
  { search with
    visited := search.nowVisited
    slack := Vector.ofFn fun column =>
      if search.lowers weight row column then
        some (search.reduced weight (search.rowAt row search.column) column)
      else search.slack.get column
    previous := Vector.ofFn fun column =>
      if search.lowers weight row column then search.column else search.previous.get column }

/-- The row being assigned, and the owners of visited columns. -/
def onPath (search : Search rows columns) (row other : Fin rows) : Bool :=
  other = row ||
    (List.finRange columns).any fun column =>
      search.visited.get column && search.owner.get column = some other

/-- The second half of a visit: the potentials are shifted and the search moves on. -/
def shift (row : Fin rows) (next : Fin columns) (delta : Int) (search : Search rows columns) :
    Search rows columns :=
  { search with
    rowPotential := Vector.ofFn fun other =>
      search.rowPotential.get other + (if search.onPath row other then delta else 0)
    columnPotential := Vector.ofFn fun column =>
      search.columnPotential.get column - (if search.visited.get column then delta else 0)
    virtualPotential := search.virtualPotential - delta
    slack := Vector.ofFn fun column =>
      if search.visited.get column then search.slack.get column
      else (search.slack.get column).map (· - delta)
    column := some next }

/-- A visit is its two halves, where the second one needs a column to move on to. -/
theorem visit_eq (weight : Fin rows → Fin columns → Nat) (row : Fin rows)
    (search : Search rows columns) :
    search.visit weight row =
      match cheapest (search.relax weight row).visited (search.relax weight row).slack with
      | none => search.relax weight row
      | some (next, delta) => (search.relax weight row).shift row next delta := rfl

@[simp] theorem rowAt_none (search : Search rows columns) (row : Fin rows) :
    search.rowAt row none = row := rfl

/-- A column has its owner. -/
theorem rowAt_some {search : Search rows columns} {row other : Fin rows} {column : Fin columns}
    (owns : search.owner.get column = some other) : search.rowAt row (some column) = other := by
  simp only [rowAt, Option.bind_some]
  rw [owns]
  rfl

/-- The relaxed column comes to be visited. -/
theorem visited_relax (weight : Fin rows → Fin columns → Nat) (row : Fin rows)
    (search : Search rows columns) (column : Fin columns) :
    (search.relax weight row).visited.get column = true ↔
      search.visited.get column = true ∨ search.column = some column := by
  show search.nowVisited.get column = true ↔ _
  unfold nowVisited
  split
  · rename_i nowhere
    simp [nowhere]
  · rename_i present standing
    rw [get_set, standing]
    by_cases same : present = column
    · simp [same]
    · simp [same]

/-- A row is on the path if it is being assigned or owns a visited column. -/
theorem onPath_iff (search : Search rows columns) (row other : Fin rows) :
    search.onPath row other = true ↔ other = row ∨
      ∃ column : Fin columns, search.visited.get column = true ∧
        search.owner.get column = some other := by
  simp [onPath]

/-- Shifting the potentials changes a reduced cost where only its row or only its column is on the
path. -/
theorem reduced_shift (weight : Fin rows → Fin columns → Nat) (row other : Fin rows)
    (next column : Fin columns) (delta : Int) (search : Search rows columns) :
    (search.shift row next delta).reduced weight other column =
      search.reduced weight other column - (if search.onPath row other then delta else 0)
        + (if search.visited.get column then delta else 0) := by
  simp only [State.reduced, shift, get_ofFn]
  omega

/-- Every column of a trail was reached from a column that is further down. -/
def Linked (previous : Vector (Option (Fin columns)) columns) : List (Fin columns) → Prop
  | [] => True
  | column :: trail =>
    (∀ prior, previous.get column = some prior → prior ∈ trail) ∧ Linked previous trail

/-- Only the columns of a trail matter to how it hangs together. -/
theorem Linked.congr {previous previous' : Vector (Option (Fin columns)) columns}
    {trail : List (Fin columns)} (linked : Linked previous trail)
    (same : ∀ column ∈ trail, previous'.get column = previous.get column) :
    Linked previous' trail := by
  induction trail with
  | nil => trivial
  | cons column trail ih =>
    refine ⟨fun prior came => linked.1 prior ?_, ih linked.2 fun other member =>
      same other (.tail _ member)⟩
    rwa [same column (.head _)] at came

/-- What a search knows after its trail of visited columns, the last one first: every visited column
was entered at no cost, and the slack of every other one is its least reduced cost from a place of
the trail. -/
structure Explored (weight : Fin rows → Fin columns → Nat) (assigned : List (Fin rows))
    (row : Fin rows) (trail : List (Fin columns)) (search : Search rows columns) : Prop where
  sound : search.toState.Sound weight assigned
  unassigned : row ∉ assigned
  visited : ∀ column : Fin columns, search.visited.get column = true ↔ column ∈ trail
  nodup : trail.Nodup
  owned : ∀ column ∈ trail, search.owner.get column ≠ none
  linked : Linked search.previous trail
  entered : ∀ column ∈ trail,
    search.reduced weight (search.rowAt row (search.previous.get column)) column = 0
  reached : ∀ column ∉ trail, search.slack.get column =
    some (search.reduced weight (search.rowAt row (search.previous.get column)) column)
  within : ∀ column ∉ trail, ∀ prior, search.previous.get column = some prior → prior ∈ trail
  least : ∀ column ∉ trail, ∀ place : Option (Fin columns), (∀ prior ∈ place, prior ∈ trail) →
    search.reduced weight (search.rowAt row (search.previous.get column)) column ≤
      search.reduced weight (search.rowAt row place) column

/-- A search that stands at a column which it entered at no cost and has not visited yet. -/
structure Standing (weight : Fin rows → Fin columns → Nat) (assigned : List (Fin rows))
    (row : Fin rows) (trail : List (Fin columns)) (column : Fin columns)
    (search : Search rows columns) : Prop extends Explored weight assigned row trail search where
  present : search.column = some column
  unvisited : column ∉ trail
  feasible : ∀ other, 0 ≤ search.reduced weight row other
  arrived : search.reduced weight (search.rowAt row (search.previous.get column)) column = 0

section Halves

variable {weight : Fin rows → Fin columns → Nat} {assigned : List (Fin rows)} {row : Fin rows}
  {trail : List (Fin columns)} {search : Search rows columns}

/-- The places of a trail have the row being assigned or an assigned row. -/
theorem Explored.rowAt_mem (explored : Explored weight assigned row trail search)
    (place : Option (Fin columns)) : search.rowAt row place ∈ row :: assigned := by
  cases place with
  | none => simp
  | some column =>
    cases owns : search.owner.get column with
    | none =>
      have same : search.rowAt row (some column) = row := by
        simp only [rowAt, Option.bind_some]
        rw [owns]
        rfl
      simp [same]
    | some other =>
      rw [rowAt_some owns]
      exact .tail _ ((explored.sound.owned other).2 ⟨column, owns⟩)

/-- A visited column keeps the place it was reached from. -/
theorem previous_relax_of_visited {column : Fin columns}
    (isVisited : (search.relax weight row).visited.get column = true) :
    (search.relax weight row).previous.get column = search.previous.get column := by
  have isVisited : search.nowVisited.get column = true := isVisited
  simp only [relax, get_ofFn, lowers, isVisited]
  rfl

/-- Before anything is visited, every column is reached from the virtual one. -/
theorem explored_relax_start {state : State rows columns} (sound : state.Sound weight assigned)
    (unassigned : row ∉ assigned) :
    Explored weight assigned row [] ((Search.start state).relax weight row) := by
  have lowers : ∀ column : Fin columns, (Search.start state).lowers weight row column = true := by
    intro column
    simp [Search.lowers, nowVisited, start]
  have fromRow : ∀ column : Fin columns,
      ((Search.start state).relax weight row).previous.get column = none := by
    intro column
    simp only [relax, get_ofFn, lowers, if_true]
    rfl
  exact
    { sound :=
        ⟨sound.feasible, sound.tight, sound.unique, sound.owned, sound.nonpositive, sound.free⟩
      unassigned := unassigned
      visited := by
        intro column
        rw [visited_relax]
        simp [start]
      nodup := .nil
      owned := nofun
      linked := trivial
      entered := nofun
      reached := by
        intro column _
        rw [fromRow]
        simp only [relax, get_ofFn, lowers, if_true]
        rfl
      within := by
        intro column _ prior came
        rw [fromRow] at came
        contradiction
      least := by
        intro column _ place inside
        rw [fromRow]
        cases place with
        | none => exact Int.le_refl _
        | some prior => exact absurd (inside prior rfl) (by simp) }

/-- The first half of a visit adds the present column to the visited ones. -/
theorem Standing.visited_relax {column : Fin columns}
    (standing : Standing weight assigned row trail column search) (other : Fin columns) :
    (search.relax weight row).visited.get other = true ↔ other ∈ column :: trail := by
  rw [Search.visited_relax, standing.visited, standing.present, List.mem_cons, Option.some_inj,
    eq_comm (a := column), or_comm]

/-- The slack of a column outside is lowered if the present row reaches it more cheaply. -/
theorem Standing.lowers_iff {column other : Fin columns}
    (standing : Standing weight assigned row trail column search) (out : other ∉ column :: trail) :
    search.lowers weight row other = true ↔
      search.reduced weight (search.rowAt row (some column)) other <
        search.reduced weight (search.rowAt row (search.previous.get other)) other := by
  have unvisited : search.nowVisited.get other = false :=
    Bool.eq_false_iff.2 fun isVisited => out ((standing.visited_relax other).1 isVisited)
  have slack := standing.reached other fun member => out (.tail _ member)
  simp only [lowers, unvisited, slack, standing.present]
  simp

/-- A column outside is reached from the present column or as before, whichever is cheaper. -/
theorem Standing.previous_relax {column other : Fin columns}
    (standing : Standing weight assigned row trail column search) (out : other ∉ column :: trail) :
    ((search.relax weight row).previous.get other = some column ∧
      search.reduced weight (search.rowAt row (some column)) other <
        search.reduced weight (search.rowAt row (search.previous.get other)) other) ∨
    ((search.relax weight row).previous.get other = search.previous.get other ∧
      search.reduced weight (search.rowAt row (search.previous.get other)) other ≤
        search.reduced weight (search.rowAt row (some column)) other) := by
  simp only [relax, get_ofFn]
  by_cases lowered : search.lowers weight row other = true
  · rw [if_pos lowered, standing.present]
    exact .inl ⟨rfl, (standing.lowers_iff out).1 lowered⟩
  · rw [if_neg lowered]
    exact .inr ⟨rfl, Int.not_lt.1 fun smaller => lowered ((standing.lowers_iff out).2 smaller)⟩

/-- Behind the first half of a visit, no place of the longer trail reaches a column outside more
cheaply than the one it is reached from. -/
theorem Standing.least_relax {column other : Fin columns}
    (standing : Standing weight assigned row trail column search) (out : other ∉ column :: trail)
    {place : Option (Fin columns)} (inside : ∀ prior ∈ place, prior ∈ column :: trail) :
    search.reduced weight (search.rowAt row ((search.relax weight row).previous.get other)) other ≤
      search.reduced weight (search.rowAt row place) other := by
  by_cases isPresent : place = some column
  · rw [isPresent]
    obtain ⟨fromPresent, _⟩ | ⟨fromBefore, bound⟩ := standing.previous_relax out
    · exact Int.le_of_eq (by rw [fromPresent])
    · rw [fromBefore]
      exact bound
  · have before : ∀ prior ∈ place, prior ∈ trail := by
      intro prior member
      obtain _ | ⟨_, member'⟩ := inside prior member
      · exact absurd member isPresent
      · exact member'
    have bound := standing.least other (fun member => out (.tail _ member)) place before
    obtain ⟨fromPresent, smaller⟩ | ⟨fromBefore, _⟩ := standing.previous_relax out
    · rw [fromPresent]
      omega
    · rw [fromBefore]
      exact bound

/-- The first half of a visit adds the present column to the trail. -/
theorem Standing.explored_relax {column : Fin columns}
    (standing : Standing weight assigned row trail column search)
    (isOwned : search.owner.get column ≠ none) :
    Explored weight assigned row (column :: trail) (search.relax weight row) := by
  have kept : ∀ other ∈ column :: trail,
      (search.relax weight row).previous.get other = search.previous.get other :=
    fun other member => previous_relax_of_visited ((standing.visited_relax other).2 member)
  exact
    { sound := ⟨standing.sound.feasible, standing.sound.tight, standing.sound.unique,
        standing.sound.owned, standing.sound.nonpositive, standing.sound.free⟩
      unassigned := standing.unassigned
      visited := standing.visited_relax
      nodup := List.nodup_cons.2 ⟨standing.unvisited, standing.nodup⟩
      owned := by
        rintro other (_ | ⟨_, member⟩)
        · exact isOwned
        · exact standing.owned other member
      linked := by
        refine ⟨fun prior came => ?_, standing.linked.congr fun other member =>
          kept other (.tail _ member)⟩
        rw [kept column (.head _)] at came
        exact standing.within column standing.unvisited prior came
      entered := by
        intro other member
        rw [kept other member]
        obtain _ | ⟨_, member⟩ := member
        · exact standing.arrived
        · exact standing.entered other member
      reached := by
        intro other out
        have slack := standing.reached other fun member => out (.tail _ member)
        simp only [relax, get_ofFn]
        by_cases lowered : search.lowers weight row other = true
        · rw [if_pos lowered, if_pos lowered]
          rfl
        · rw [if_neg lowered, if_neg lowered]
          exact slack
      within := by
        intro other out prior came
        obtain ⟨fromPresent, _⟩ | ⟨fromBefore, _⟩ := standing.previous_relax out
        · rw [fromPresent] at came
          cases came
          exact .head _
        · rw [fromBefore] at came
          exact .tail _ (standing.within other (fun member => out (.tail _ member)) prior came)
      least := fun other out place inside => standing.least_relax out inside }

/-- A column of a trail was reached from inside the trail. -/
theorem Linked.mem {previous : Vector (Option (Fin columns)) columns} {column prior : Fin columns}
    (linked : Linked previous trail) (member : column ∈ trail)
    (came : previous.get column = some prior) : prior ∈ trail := by
  induction trail with
  | nil => contradiction
  | cons first trail ih =>
    obtain _ | ⟨_, member⟩ := member
    · exact .tail _ (linked.1 prior came)
    · exact .tail _ (ih linked.2 member)

/-- The rows of the places of a trail are on the path. -/
theorem Explored.onPath_rowAt (explored : Explored weight assigned row trail search)
    {place : Option (Fin columns)} (inside : ∀ prior ∈ place, prior ∈ trail) :
    search.onPath row (search.rowAt row place) = true := by
  rw [onPath_iff]
  cases place with
  | none => exact .inl rfl
  | some column =>
    have member := inside column rfl
    cases owns : search.owner.get column with
    | none => exact absurd owns (explored.owned column member)
    | some other =>
      rw [rowAt_some owns]
      exact .inr ⟨column, (explored.visited column).2 member, owns⟩

/-- A row on the path is the row of a place of the trail. -/
theorem Explored.exists_place (explored : Explored weight assigned row trail search)
    {other : Fin rows} (onPath : search.onPath row other = true) :
    ∃ place : Option (Fin columns),
      (∀ prior ∈ place, prior ∈ trail) ∧ search.rowAt row place = other := by
  obtain same | ⟨column, isVisited, owns⟩ := (onPath_iff search row other).1 onPath
  · exact ⟨none, nofun, same.symm⟩
  · refine ⟨some column, ?_, rowAt_some owns⟩
    rintro _ ⟨⟩
    exact (explored.visited column).1 isVisited

/-- The owner of a column is on the path exactly when the column is visited. -/
theorem Explored.onPath_owner (explored : Explored weight assigned row trail search)
    {other : Fin rows} {column : Fin columns} (owns : search.owner.get column = some other) :
    search.onPath row other = search.visited.get column := by
  rw [Bool.eq_iff_iff, onPath_iff]
  constructor
  · rintro (rfl | ⟨column', isVisited, owns'⟩)
    · exact absurd ((explored.sound.owned other).2 ⟨column, owns⟩) explored.unassigned
    · rwa [← explored.sound.unique owns owns'] at isVisited
  · intro isVisited
    exact .inr ⟨column, isVisited, owns⟩

/-- A column outside a trail with the least slack of all. -/
structure Nearest (trail : List (Fin columns)) (search : Search rows columns)
    (next : Fin columns) (delta : Int) : Prop where
  unvisited : next ∉ trail
  slack : search.slack.get next = some delta
  smallest : ∀ column ∉ trail, ∀ cost, search.slack.get column = some cost → delta ≤ cost

theorem Explored.visited_eq_false (explored : Explored weight assigned row trail search)
    {column : Fin columns} (out : column ∉ trail) : search.visited.get column = false :=
  Bool.eq_false_iff.2 fun isVisited => out ((explored.visited column).1 isVisited)

section Shift

variable {next : Fin columns} {delta : Int}

/-- The least slack is what it costs to enter the next column. -/
theorem Explored.reduced_next (explored : Explored weight assigned row trail search)
    (nearest : Nearest trail search next delta) :
    search.reduced weight (search.rowAt row (search.previous.get next)) next = delta := by
  have slack := explored.reached next nearest.unvisited
  rw [nearest.slack] at slack
  exact (Option.some.inj slack).symm

/-- The least slack is at most the reduced cost of a column outside in any row of the path. -/
theorem Explored.le_reduced (explored : Explored weight assigned row trail search)
    (nearest : Nearest trail search next delta) {column : Fin columns} (out : column ∉ trail)
    {other : Fin rows} (onPath : search.onPath row other = true) :
    delta ≤ search.reduced weight other column := by
  obtain ⟨place, inside, rfl⟩ := explored.exists_place onPath
  exact Int.le_trans (nearest.smallest column out _ (explored.reached column out))
    (explored.least column out place inside)

/-- Once the row being assigned is feasible, no slack is below zero. -/
theorem Explored.delta_nonneg (explored : Explored weight assigned row trail search)
    (nearest : Nearest trail search next delta)
    (feasible : ∀ other, 0 ≤ search.reduced weight row other) : 0 ≤ delta := by
  rw [← explored.reduced_next nearest]
  obtain same | member := List.mem_cons.1 (explored.rowAt_mem (search.previous.get next))
  · rw [same]
    exact feasible next
  · exact explored.sound.feasible _ member next

/-- A reduced cost falls only where the row is on the path and the column is not visited, and there
it was at least the shift. -/
theorem Explored.reduced_shift_nonneg (explored : Explored weight assigned row trail search)
    (nearest : Nearest trail search next delta)
    (feasible : trail = [] ∨ ∀ other, 0 ≤ search.reduced weight row other) {other : Fin rows}
    {column : Fin columns} (before : 0 ≤ search.reduced weight other column ∨
      (search.onPath row other = true ∧ trail = [])) :
    0 ≤ (search.shift row next delta).reduced weight other column := by
  rw [reduced_shift]
  by_cases isVisited : search.visited.get column = true
  · have moved := List.ne_nil_of_mem ((explored.visited column).1 isVisited)
    have nonneg := explored.delta_nonneg nearest (feasible.resolve_left moved)
    have before := before.resolve_right fun ⟨_, empty⟩ => moved empty
    rw [if_pos isVisited]
    split <;> omega
  · have out : column ∉ trail := fun member => isVisited ((explored.visited column).2 member)
    rw [if_neg isVisited]
    by_cases onPath : search.onPath row other = true
    · have bound := explored.le_reduced nearest out onPath
      rw [if_pos onPath]
      omega
    · have before := before.resolve_right fun ⟨onPath', _⟩ => onPath onPath'
      rw [if_neg onPath]
      omega

/-- Outside the trail, the shift takes the same from the reduced costs of all places. -/
theorem Explored.reduced_shift_rowAt (explored : Explored weight assigned row trail search)
    {column : Fin columns} (out : column ∉ trail) {place : Option (Fin columns)}
    (inside : ∀ prior ∈ place, prior ∈ trail) (next : Fin columns) (delta : Int) :
    (search.shift row next delta).reduced weight (search.rowAt row place) column =
      search.reduced weight (search.rowAt row place) column - delta := by
  rw [reduced_shift, if_pos (explored.onPath_rowAt inside), explored.visited_eq_false out]
  simp

/-- The second half of a visit keeps what holds between searches. -/
theorem Explored.sound_shift (explored : Explored weight assigned row trail search)
    (nearest : Nearest trail search next delta)
    (feasible : trail = [] ∨ ∀ other, 0 ≤ search.reduced weight row other) :
    (search.shift row next delta).toState.Sound weight assigned where
  feasible := fun other member column => explored.reduced_shift_nonneg nearest feasible
    (.inl (explored.sound.feasible other member column))
  tight := by
    intro other column owns
    rw [reduced_shift, explored.onPath_owner owns, explored.sound.tight owns]
    omega
  unique := explored.sound.unique
  owned := explored.sound.owned
  nonpositive := by
    intro column
    have before := explored.sound.nonpositive column
    simp only [shift, get_ofFn]
    split
    · rename_i isVisited
      have moved := List.ne_nil_of_mem ((explored.visited column).1 isVisited)
      have nonneg := explored.delta_nonneg nearest (feasible.resolve_left moved)
      omega
    · omega
  free := by
    intro column isFree
    have out : column ∉ trail := fun member => explored.owned column member isFree
    have before := explored.sound.free isFree
    simp only [shift, get_ofFn, explored.visited_eq_false out]
    simpa using before

/-- The second half of a visit keeps what the search knows. -/
theorem Explored.explored_shift (explored : Explored weight assigned row trail search)
    (nearest : Nearest trail search next delta)
    (feasible : trail = [] ∨ ∀ other, 0 ≤ search.reduced weight row other) :
    Explored weight assigned row trail (search.shift row next delta) where
  sound := explored.sound_shift nearest feasible
  unassigned := explored.unassigned
  visited := explored.visited
  nodup := explored.nodup
  owned := explored.owned
  linked := explored.linked
  entered := by
    intro column member
    have before := explored.entered column member
    have inside : ∀ prior ∈ search.previous.get column, prior ∈ trail := fun prior came =>
      explored.linked.mem member came
    show (search.shift row next delta).reduced weight
      (search.rowAt row (search.previous.get column)) column = 0
    rw [reduced_shift, explored.onPath_rowAt inside, (explored.visited column).2 member]
    omega
  reached := by
    intro column out
    have slack := explored.reached column out
    show (search.shift row next delta).slack.get column =
      some ((search.shift row next delta).reduced weight
        (search.rowAt row (search.previous.get column)) column)
    rw [explored.reduced_shift_rowAt out (explored.within column out)]
    simp only [shift, get_ofFn, explored.visited_eq_false out, slack]
    rfl
  within := explored.within
  least := by
    intro column out place inside
    have before := explored.least column out place inside
    show (search.shift row next delta).reduced weight
        (search.rowAt row (search.previous.get column)) column ≤
      (search.shift row next delta).reduced weight (search.rowAt row place) column
    rw [explored.reduced_shift_rowAt out (explored.within column out),
      explored.reduced_shift_rowAt out inside]
    omega

/-- Behind the second half of a visit, the next column is entered at no cost. The first shift makes
the new row feasible; all later ones raise its potential. -/
theorem Explored.standing_shift (explored : Explored weight assigned row trail search)
    (nearest : Nearest trail search next delta)
    (feasible : trail = [] ∨ ∀ other, 0 ≤ search.reduced weight row other) :
    Standing weight assigned row trail next (search.shift row next delta) where
  toExplored := explored.explored_shift nearest feasible
  present := rfl
  unvisited := nearest.unvisited
  feasible := by
    intro other
    have onPath : search.onPath row row = true := (onPath_iff search row row).2 (.inl rfl)
    refine explored.reduced_shift_nonneg nearest feasible ?_
    obtain empty | rowFeasible := feasible
    · exact .inr ⟨onPath, empty⟩
    · exact .inl (rowFeasible other)
  arrived := by
    show (search.shift row next delta).reduced weight
      (search.rowAt row (search.previous.get next)) next = 0
    rw [explored.reduced_shift_rowAt nearest.unvisited (explored.within next nearest.unvisited),
      explored.reduced_next nearest]
    omega

end Shift

end Halves

end Search

end Likeness.Assignment
