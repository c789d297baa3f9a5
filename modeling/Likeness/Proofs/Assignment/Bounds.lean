import Likeness.Proofs.Assignment.Phases

/-!
# How large the numbers of an assignment get

Potentials are shifted at every visit, by amounts of either sign. They stay small all the same. A free
column has kept its potential of zero, so feasible rows have no potential above zero; a column with an
owner is tight, so its potential is not below what the weights allow; and a row gets its lowest
potential at the first visit of its own search. The virtual column pays what the new row gets, and so
its potential is the allowance of all others together. With weights up to a limit that is not too
large for their number, every number that is computed fits in 64 bits with a sign, and no finite slack
is taken for a missing one. The main statement is `assignment_fits_in_64_bits`.
-/

namespace Likeness.Assignment

variable {rows columns : Nat}

/-! ## What is kept and what is computed -/

/-- The numbers that a search keeps are within the bounds that weights up to a limit allow. -/
structure Search.Within (weight : Fin rows → Fin columns → Nat) (limit : Nat)
    (search : Search rows columns) : Prop where
  rowPotential : ∀ row : Fin rows,
    -(limit : Int) ≤ search.rowPotential.get row ∧ search.rowPotential.get row ≤ 0
  columnPotential : ∀ column : Fin columns,
    -(limit : Int) ≤ search.columnPotential.get column ∧ search.columnPotential.get column ≤ 0
  reduced : ∀ row column, -(2 * limit : Int) ≤ search.reduced weight row column ∧
    search.reduced weight row column ≤ 2 * limit
  slack : ∀ (column : Fin columns) (cost : Int), search.slack.get column = some cost →
    -(2 * limit : Int) ≤ cost ∧ cost ≤ 2 * limit
  virtualPotential : 0 ≤ search.virtualPotential ∧ search.virtualPotential ≤ rows * limit

/-- The results of all operations on signed numbers in a visit: the weights of the present row as
costs, from which its potential and then those of the columns are taken, and the shifts by the least
slack that follow. -/
inductive Search.Computes (weight : Fin rows → Fin columns → Nat) (row : Fin rows)
    (search : Search rows columns) : Int → Prop where
  | weight (column : Fin columns) :
      Computes weight row search (weight (search.rowAt row search.column) column)
  | cost (column : Fin columns) :
      Computes weight row search (-(weight (search.rowAt row search.column) column : Int))
  | difference (column : Fin columns) :
      Computes weight row search (-(weight (search.rowAt row search.column) column : Int)
        - search.rowPotential.get (search.rowAt row search.column))
  | reduced (column : Fin columns) :
      Computes weight row search (search.reduced weight (search.rowAt row search.column) column)
  | rowPotential {next delta other}
      (finds : search.Finds weight row next delta)
      (onPath : (search.relax weight row).onPath row other = true) :
      Computes weight row search (search.rowPotential.get other + delta)
  | columnPotential {next delta} {column : Fin columns}
      (finds : search.Finds weight row next delta)
      (isVisited : (search.relax weight row).visited.get column = true) :
      Computes weight row search (search.columnPotential.get column - delta)
  | virtualPotential {next delta}
      (finds : search.Finds weight row next delta) :
      Computes weight row search (search.virtualPotential - delta)
  | slack {next delta cost} {column : Fin columns}
      (finds : search.Finds weight row next delta)
      (unvisited : (search.relax weight row).visited.get column = false)
      (reached : (search.relax weight row).slack.get column = some cost) :
      Computes weight row search (cost - delta)

/-! ## The account of the potentials -/

/-- What holds of the numbers between two searches: no row is below the limit, rows without a column
have kept their potential, and the virtual column has paid at most the limit for each assigned row,
which is all that the potentials allow a matching to be worth. -/
structure State.Ledger (limit : Nat) (assigned : List (Fin rows)) (state : State rows columns) :
    Prop where
  floor : ∀ row : Fin rows, -(limit : Int) ≤ state.rowPotential.get row
  rest : ∀ row ∉ assigned, state.rowPotential.get row = 0
  nonneg : 0 ≤ state.virtualPotential
  ceiling : state.virtualPotential ≤ assigned.length * limit
  balance : state.virtualPotential = state.allowance

/-- What holds of the numbers inside a search, where `opening` is the potential of the virtual column
at its start: what that column paid since then went to the new row. Columns that are visited, or about
to be, have no slack left. -/
structure Search.Ledger (limit : Nat) (assigned : List (Fin rows)) (row : Fin rows) (opening : Int)
    (search : Search rows columns) : Prop where
  floor : ∀ other : Fin rows, -(limit : Int) ≤ search.rowPotential.get other
  rest : ∀ other ∉ row :: assigned, search.rowPotential.get other = 0
  paid : search.virtualPotential + search.rowPotential.get row = opening
  balance : search.virtualPotential = search.allowance
  settled : ∀ column : Fin columns,
    search.visited.get column = true ∨ search.column = some column →
      search.slack.get column = some 0

/-- Nothing is owed at the start. -/
theorem State.ledger_start (limit : Nat) : (State.start rows columns).Ledger limit [] where
  floor := by simp [start]
  rest := by simp [start]
  nonneg := by simp [start]
  ceiling := by simp [start]
  balance := by simp [start, allowance]

section Potentials

variable {weight : Fin rows → Fin columns → Nat} {limit : Nat} {assigned : List (Fin rows)}
  {state : State rows columns} {free : Fin columns}

/-- A row that is feasible at a free column has no potential above zero. -/
theorem State.Sound.rowPotential_nonpos (sound : state.Sound weight assigned)
    (isFree : state.owner.get free = none) {row : Fin rows}
    (feasible : 0 ≤ state.reduced weight row free) : state.rowPotential.get row ≤ 0 := by
  have kept := sound.free isFree
  rw [State.reduced, kept] at feasible
  have := Int.natCast_nonneg (weight row free)
  omega

/-- A column has no potential below the limit: if it has an owner it is tight there, and if not it has
kept its potential. -/
theorem State.Sound.columnPotential_ge (sound : state.Sound weight assigned)
    (light : ∀ row column, weight row column ≤ limit)
    (nonpos : ∀ row : Fin rows, state.rowPotential.get row ≤ 0) (column : Fin columns) :
    -(limit : Int) ≤ state.columnPotential.get column := by
  cases owns : state.owner.get column with
  | none =>
    have kept := sound.free owns
    omega
  | some row =>
    have tight := sound.tight owns
    have small := light row column
    have below := nonpos row
    rw [State.reduced] at tight
    omega

end Potentials

namespace Search

variable {weight : Fin rows → Fin columns → Nat} {limit : Nat} {assigned : List (Fin rows)}
  {row : Fin rows} {state : State rows columns} {trail : List (Fin columns)}
  {places : List (Option (Fin columns))} {search : Search rows columns} {opening : Int}
  {next free : Fin columns} {delta : Int}

/-- A search takes over the account of its state. -/
theorem ledger_start (ledger : state.Ledger limit assigned) (unassigned : row ∉ assigned) :
    (Search.start state).Ledger limit assigned row state.virtualPotential where
  floor := ledger.floor
  rest := fun other out => ledger.rest other fun member => out (.tail _ member)
  paid := by
    have zero := ledger.rest row unassigned
    simp only [start]
    omega
  balance := ledger.balance
  settled := by simp [start]

/-! ### One visit -/

@[simp] theorem rowPotential_relax (weight : Fin rows → Fin columns → Nat) (row : Fin rows)
    (search : Search rows columns) :
    (search.relax weight row).rowPotential = search.rowPotential := rfl

@[simp] theorem columnPotential_relax (weight : Fin rows → Fin columns → Nat) (row : Fin rows)
    (search : Search rows columns) :
    (search.relax weight row).columnPotential = search.columnPotential := rfl

@[simp] theorem virtualPotential_relax (weight : Fin rows → Fin columns → Nat) (row : Fin rows)
    (search : Search rows columns) :
    (search.relax weight row).virtualPotential = search.virtualPotential := rfl

/-- A visited column keeps its slack. -/
theorem slack_relax_of_visited {column : Fin columns}
    (isVisited : (search.relax weight row).visited.get column = true) :
    (search.relax weight row).slack.get column = search.slack.get column := by
  have isVisited : search.nowVisited.get column = true := isVisited
  simp only [relax, get_ofFn, lowers, isVisited]
  rfl

theorem onPath_self (search : Search rows columns) (row : Fin rows) :
    search.onPath row row = true := (onPath_iff search row row).2 (.inl rfl)

/-- The rows on the path are the new one and assigned ones. -/
theorem Explored.mem_of_onPath (explored : Explored weight assigned row trail search)
    {other : Fin rows} (onPath : search.onPath row other = true) : other ∈ row :: assigned := by
  obtain ⟨place, _, rfl⟩ := explored.exists_place onPath
  exact explored.rowAt_mem place

/-- One row more than visited columns is on the path. -/
theorem Explored.sum_onPath (explored : Explored weight assigned row trail search) (delta : Int) :
    (∑ other, if search.onPath row other then delta else 0) =
      delta + ∑ column, if search.visited.get column then delta else 0 := by
  let ofRow (other : Fin rows) : Int := if search.onPath row other then delta else 0
  let ofColumn (column : Fin columns) : Int := if search.visited.get column then delta else 0
  have rowsOutside : ∀ other ∉ row :: trail.map fun column => search.rowAt row (some column),
      ofRow other = 0 := by
    intro other out
    exact if_neg fun onPath => out ((explored.onPath_iff_mem other).1 onPath)
  have columnsOutside : ∀ column ∉ trail, ofColumn column = 0 := by
    intro column out
    simp [ofColumn, explored.visited_eq_false out]
  have together : trail.map (ofRow ∘ fun column => search.rowAt row (some column)) =
      trail.map ofColumn := by
    refine List.map_congr_left fun column member => ?_
    have inside : ∀ prior ∈ some column, prior ∈ trail := by
      rintro _ ⟨⟩
      exact member
    simp [ofRow, ofColumn, explored.onPath_rowAt inside, (explored.visited column).2 member]
  calc ∑ other, ofRow other
      = ((row :: trail.map fun column => search.rowAt row (some column)).map ofRow).sum :=
        (sum_map_eq_sum explored.nodup_rows rowsOutside).symm
    _ = delta + (trail.map ofColumn).sum := by
        rw [List.map_cons, List.sum_cons, List.map_map, together]
        simp [ofRow, onPath_self]
    _ = delta + ∑ column, ofColumn column := by
        rw [sum_map_eq_sum explored.nodup columnsOutside]

/-- A shift takes from the allowance what the virtual column pays. -/
theorem Explored.allowance_shift (explored : Explored weight assigned row trail search)
    (next : Fin columns) (delta : Int) :
    (search.shift row next delta).allowance = search.allowance - delta := by
  have account := explored.sum_onPath delta
  simp only [State.allowance, shift, get_ofFn, neg_add, sub_eq_add_neg,
    Finset.sum_add_distrib, Finset.sum_neg_distrib] at account ⊢
  omega

/-- Before anything is visited, only the new row is on the path. -/
theorem Explored.eq_of_onPath (explored : Explored weight assigned row [] search) {other : Fin rows}
    (onPath : search.onPath row other = true) : other = row := by
  obtain same | ⟨column, isVisited, _⟩ := (onPath_iff search row other).1 onPath
  · exact same
  · exact absurd ((explored.visited column).1 isVisited) List.not_mem_nil

/-- Behind its first visit the new row is not below the limit: it enters the next column at no cost,
and that column has no potential above zero. -/
theorem Standing.floor_of_first (standing : Standing weight assigned row [] next search)
    (light : ∀ row column, weight row column ≤ limit) :
    -(limit : Int) ≤ search.rowPotential.get row := by
  have came : search.previous.get next = none := by
    refine Option.eq_none_iff_forall_ne_some.2 fun prior came => ?_
    exact List.not_mem_nil (standing.within next List.not_mem_nil prior came)
  have arrived := standing.arrived
  have nonpositive := standing.sound.nonpositive next
  have small := light row next
  rw [came, rowAt_none, State.reduced] at arrived
  omega

/-- A shift leaves no row below the limit: the first one of a search moves the new row only, and all
later ones raise potentials. -/
theorem Ready.floor_shift (ready : Ready weight assigned row trail search)
    (nearest : Nearest trail (search.relax weight row) next delta)
    (light : ∀ row column, weight row column ≤ limit)
    (floor : ∀ other : Fin rows, -(limit : Int) ≤ search.rowPotential.get other)
    (other : Fin rows) :
    -(limit : Int) ≤ ((search.relax weight row).shift row next delta).rowPotential.get other := by
  have before := floor other
  by_cases onPath : (search.relax weight row).onPath row other = true
  · by_cases first : trail = []
    · subst first
      rw [ready.explored.eq_of_onPath onPath]
      exact (ready.explored.standing_shift nearest ready.feasible).floor_of_first light
    · have nonneg := ready.explored.delta_nonneg nearest (ready.feasible.resolve_left first)
      simp only [shift, get_ofFn, if_pos onPath, rowPotential_relax]
      omega
  · simp only [shift, get_ofFn, if_neg onPath, rowPotential_relax]
    omega

/-- A visit keeps the account. -/
theorem Ready.ledger_shift (ready : Ready weight assigned row trail search)
    (nearest : Nearest trail (search.relax weight row) next delta)
    (light : ∀ row column, weight row column ≤ limit)
    (ledger : search.Ledger limit assigned row opening) :
    ((search.relax weight row).shift row next delta).Ledger limit assigned row opening where
  floor := ready.floor_shift nearest light ledger.floor
  rest := by
    intro other out
    have offPath : ¬(search.relax weight row).onPath row other = true :=
      fun onPath => out (ready.explored.mem_of_onPath onPath)
    simpa only [shift, get_ofFn, if_neg offPath, rowPotential_relax, add_zero] using
      ledger.rest other out
  paid := by
    have paid := ledger.paid
    simp only [shift, get_ofFn, if_pos (onPath_self _ row), rowPotential_relax,
      virtualPotential_relax]
    omega
  balance := by
    have balance := ledger.balance
    rw [ready.explored.allowance_shift]
    show search.virtualPotential - delta = search.allowance - delta
    omega
  settled := by
    rintro column (isVisited | present)
    · have isVisited : (search.relax weight row).visited.get column = true := isVisited
      simp only [shift, get_ofFn, if_pos isVisited]
      rw [slack_relax_of_visited isVisited]
      exact ledger.settled column ((visited_relax weight row search column).1 isVisited)
    · obtain rfl : next = column := Option.some.inj present
      have unvisited := ready.explored.visited_eq_false nearest.unvisited
      simp [shift, unvisited, nearest.slack]

/-! ### Whole searches -/

section Sound

variable (sound : state.Sound weight assigned) (unassigned : row ∉ assigned)
  (isFree : state.owner.get free = none) (light : ∀ row column, weight row column ≤ limit)
  (ledger : state.Ledger limit assigned)

include sound unassigned isFree light ledger

/-- A search keeps the account, visit by visit. -/
theorem Visits.ledger_search (visits : Visits weight row state places search) :
    search.Ledger limit assigned row state.virtualPotential := by
  induction visits with
  | start => exact ledger_start ledger unassigned
  | @next places search visits busy ih =>
    obtain ⟨trail, _, ready⟩ := visits.exists_ready sound unassigned isFree busy
    have stillFree : search.owner.get free = none := visits.owner_eq ▸ isFree
    obtain ⟨next, delta, finds, nearest⟩ := exists_nearest ready.explored stillFree
    rw [finds.visit_eq]
    exact ready.ledger_shift nearest light ih

/-- Throughout a search, no potential of a row is above zero: a row that has been searched for is
feasible at the free column, and all others have kept theirs. -/
theorem Visits.rowPotential_nonpos (visits : Visits weight row state places search)
    (other : Fin rows) : search.rowPotential.get other ≤ 0 := by
  have account := visits.ledger_search sound unassigned isFree light ledger
  obtain ⟨rfl, rfl⟩ | ⟨trail, column, rfl, standing⟩ :=
    visits.start_or_standing sound unassigned isFree
  · by_cases member : other ∈ assigned
    · exact sound.rowPotential_nonpos isFree (sound.feasible other member free)
    · exact Int.le_of_eq (ledger.rest other member)
  · have stillFree : search.owner.get free = none := visits.owner_eq ▸ isFree
    by_cases member : other ∈ row :: assigned
    · obtain rfl | member := List.mem_cons.1 member
      · exact standing.sound.rowPotential_nonpos stillFree (standing.feasible free)
      · exact standing.sound.rowPotential_nonpos stillFree
          (standing.sound.feasible other member free)
    · exact Int.le_of_eq (account.rest other member)

/-- Throughout a search, the virtual column has paid at most the limit more than at the start. -/
theorem Visits.virtualPotential_le (visits : Visits weight row state places search) :
    0 ≤ search.virtualPotential ∧
      search.virtualPotential ≤ ((assigned.length + 1 : Nat) * limit : Nat) := by
  have account := visits.ledger_search sound unassigned isFree light ledger
  have nonpos := visits.rowPotential_nonpos sound unassigned isFree light ledger row
  have floor := account.floor row
  have paid := account.paid
  have nonneg := ledger.nonneg
  have ceiling := ledger.ceiling
  rw [Nat.succ_mul]
  push_cast
  constructor <;> omega

/-- Throughout a search, the slack of a column is a reduced cost of it, or zero once it is visited. -/
theorem Visits.slack_cases (visits : Visits weight row state places search) {column : Fin columns}
    {cost : Int} (reached : search.slack.get column = some cost) :
    cost = 0 ∨ ∃ other, cost = search.reduced weight other column := by
  have account := visits.ledger_search sound unassigned isFree light ledger
  obtain ⟨rfl, rfl⟩ | ⟨trail, present, rfl, standing⟩ :=
    visits.start_or_standing sound unassigned isFree
  · simp [Search.start] at reached
  · by_cases member : column ∈ trail
    · have settled := account.settled column (.inl ((standing.visited column).2 member))
      exact .inl (Option.some.inj (reached.symm.trans settled))
    · exact .inr ⟨_, Option.some.inj (reached.symm.trans (standing.reached column member))⟩

/-- Throughout a search, all numbers are within their bounds. -/
theorem Visits.within (visits : Visits weight row state places search)
    (room : assigned.length < rows) : search.Within weight limit := by
  have account := visits.ledger_search sound unassigned isFree light ledger
  have nonpos := visits.rowPotential_nonpos sound unassigned isFree light ledger
  have virtualBound := visits.virtualPotential_le sound unassigned isFree light ledger
  have soundNow : search.toState.Sound weight assigned := by
    obtain ⟨rfl, rfl⟩ | ⟨trail, column, rfl, standing⟩ :=
      visits.start_or_standing sound unassigned isFree
    · exact sound
    · exact standing.sound
  have columnFloor := soundNow.columnPotential_ge light nonpos
  have reduced : ∀ other column, -(2 * limit : Int) ≤ search.reduced weight other column ∧
      search.reduced weight other column ≤ 2 * limit := by
    intro other column
    have := light other column
    have := account.floor other
    have := nonpos other
    have := columnFloor column
    have := soundNow.nonpositive column
    rw [State.reduced]
    constructor <;> omega
  exact
    { rowPotential := fun other => ⟨account.floor other, nonpos other⟩
      columnPotential := fun column => ⟨columnFloor column, soundNow.nonpositive column⟩
      reduced
      slack := by
        intro column cost reached
        obtain rfl | ⟨other, rfl⟩ :=
          visits.slack_cases sound unassigned isFree light ledger reached
        · omega
        · exact reduced other column
      virtualPotential := by
        have enough : (assigned.length + 1) * limit ≤ rows * limit :=
          Nat.mul_le_mul_right limit room
        refine ⟨virtualBound.1, Int.le_trans virtualBound.2 ?_⟩
        exact_mod_cast enough }

end Sound

/-! ### Numbers of 64 bits -/

/-- Numbers between twice the limit below zero and what the rows and two more allow fit in 64 bits. -/
theorem isSigned64_of_bounds {number : Int} (small : (rows + 2) * limit < Whole.twoTo 63)
    (low : -(2 * limit : Int) ≤ number) (high : number ≤ ((rows + 2) * limit : Nat)) :
    Whole.isSigned64 number := by
  have twice : 2 * limit ≤ (rows + 2) * limit := Nat.mul_le_mul_right limit (Nat.le_add_left 2 rows)
  rw [Whole.isSigned64, Bool.and_eq_true, decide_eq_true_iff, decide_eq_true_iff]
  constructor <;> omega

/-- Where a search is within its bounds before and behind a visit, all that the visit computes fits
in 64 bits. -/
theorem Within.isSigned64 (within : search.Within weight limit)
    (after : (search.visit weight row).Within weight limit)
    (light : ∀ row column, weight row column ≤ limit)
    (small : (rows + 2) * limit < Whole.twoTo 63) {number : Int}
    (computes : search.Computes weight row number) : Whole.isSigned64 number := by
  have twice : 2 * limit ≤ (rows + 2) * limit := Nat.mul_le_mul_right limit (Nat.le_add_left 2 rows)
  have shifted {next : Fin columns} {delta : Int} (finds : search.Finds weight row next delta) :
      ((search.relax weight row).shift row next delta).Within weight limit :=
    finds.visit_eq ▸ after
  cases computes with
  | weight column =>
    have := light (search.rowAt row search.column) column
    exact isSigned64_of_bounds small (by omega) (by omega)
  | cost column =>
    have := light (search.rowAt row search.column) column
    exact isSigned64_of_bounds small (by omega) (by omega)
  | difference column =>
    have := light (search.rowAt row search.column) column
    have := within.rowPotential (search.rowAt row search.column)
    exact isSigned64_of_bounds small (by omega) (by omega)
  | reduced column =>
    have bounds := within.reduced (search.rowAt row search.column) column
    exact isSigned64_of_bounds small bounds.1 (by omega)
  | @rowPotential next delta other finds onPath =>
    have bounds := (shifted finds).rowPotential other
    simp only [shift, get_ofFn, if_pos onPath, rowPotential_relax] at bounds
    exact isSigned64_of_bounds small (by omega) (by omega)
  | @columnPotential next delta column finds isVisited =>
    have bounds := (shifted finds).columnPotential column
    simp only [shift, get_ofFn, if_pos isVisited, columnPotential_relax] at bounds
    exact isSigned64_of_bounds small (by omega) (by omega)
  | @virtualPotential next delta finds =>
    have bounds := (shifted finds).virtualPotential
    have enough : rows * limit ≤ (rows + 2) * limit := Nat.mul_le_mul_right limit (by omega)
    simp only [shift, virtualPotential_relax] at bounds
    exact isSigned64_of_bounds small (by omega) (Int.le_trans bounds.2 (by exact_mod_cast enough))
  | @slack next delta cost column finds unvisited reached =>
    have bounds := (shifted finds).slack column (cost - delta) (by simp [shift, unvisited, reached])
    exact isSigned64_of_bounds small bounds.1 (by omega)

/-- A finite cost within the bounds is below the greatest number of 64 bits, which can stand for a
missing one. -/
theorem lt_greatest_of_bounds (row : Fin rows) {cost : Int}
    (small : (rows + 2) * limit < Whole.twoTo 63) (high : cost ≤ 2 * limit) :
    cost < Whole.twoTo 63 - 1 := by
  have thrice : 3 * limit ≤ (rows + 2) * limit :=
    Nat.mul_le_mul_right limit (by have := row.isLt; omega)
  have room : 1 < Whole.twoTo 63 := by decide
  omega

end Search

/-! ## Whole runs -/

section Run

variable {weight : Fin rows → Fin columns → Nat} {limit : Nat}

/-- Assigning a row keeps the account. -/
theorem ledger_assignRow {assigned : List (Fin rows)} {row : Fin rows} {state : State rows columns}
    (wide : rows ≤ columns) (light : ∀ row column, weight row column ≤ limit)
    (sound : state.Sound weight assigned) (unassigned : row ∉ assigned)
    (ledger : state.Ledger limit assigned) :
    (assignRow weight state row).Ledger limit (row :: assigned) := by
  obtain ⟨free, isFree⟩ := exists_free wide sound unassigned
  obtain ⟨places, visits, ended⟩ := Search.exists_visits_run sound unassigned isFree
  obtain ⟨trail, column, _, standing, _⟩ := visits.exists_standing sound unassigned isFree ended
  have account := visits.ledger_search sound unassigned isFree light ledger
  have bounds := visits.virtualPotential_le sound unassigned isFree light ledger
  rw [assignRow_eq standing.present]
  exact
    { floor := account.floor
      rest := account.rest
      nonneg := bounds.1
      ceiling := by exact_mod_cast bounds.2
      balance := account.balance }

/-- Whatever number of rows is assigned, the account is in order. -/
theorem ledger_solveFirst (wide : rows ≤ columns) (light : ∀ row column, weight row column ≤ limit)
    {count : Nat} (bound : count ≤ rows) :
    (solveFirst weight count).Ledger limit (rowsBefore rows count) := by
  induction count with
  | zero => exact State.ledger_start limit
  | succ count ih =>
    let row : Fin rows := ⟨count, bound⟩
    have sound := sound_solveFirst weight wide row
    have unassigned : row ∉ rowsBefore rows row := by simp
    have ledger := ledger_assignRow wide light sound unassigned (ih (Nat.le_of_succ_le bound))
    rwa [← solveFirst_succ, ← rowsBefore_succ] at ledger

/-- In the end the virtual column has paid what the assigned pairs are worth. -/
theorem virtualPotential_solve (wide : rows ≤ columns)
    (light : ∀ row column, weight row column ≤ limit) {pairs : List (Fin rows × Fin columns)}
    (ofState : (solve weight).Pairs pairs) :
    (solve weight).virtualPotential = worth weight pairs := by
  have ledger := ledger_solveFirst wide light (Nat.le_refl rows)
  rw [solveFirst_rows] at ledger
  rw [ledger.balance, (sound_solve weight wide).1.worth_eq (by simp) ofState]

/-- All numbers of a run are within the bounds that a limit on the weights sets, and what is computed
fits in 64 bits: no finite cost reaches the greatest number, and the virtual column pays in the end
what the best matching is worth. -/
structure Contained (weight : Fin rows → Fin columns → Nat) (limit greatest : Nat) : Prop where
  within : ∀ row places search, Search.Visits weight row (solveFirst weight row) places search →
    search.Within weight limit
  fits : ∀ row places search, Search.Visits weight row (solveFirst weight row) places search →
    search.atFree = false → ∀ number, search.Computes weight row number → Whole.isSigned64 number
  finite : ∀ row places search, Search.Visits weight row (solveFirst weight row) places search →
    ∀ column : Fin columns, (∀ other, search.reduced weight other column < Whole.twoTo 63 - 1) ∧
      ∀ cost, search.slack.get column = some cost → cost < Whole.twoTo 63 - 1
  pays : (solve weight).virtualPotential = greatest

/-- A run with enough columns is contained if the limit is not too large for the number of rows. -/
theorem contained_solve (wide : rows ≤ columns) (light : ∀ row column, weight row column ≤ limit)
    (small : (rows + 2) * limit < Whole.twoTo 63) {pairs : List (Fin rows × Fin columns)}
    (ofState : (solve weight).Pairs pairs) : Contained weight limit (worth weight pairs) := by
  have within {row : Fin rows} {places : List (Option (Fin columns))} {search : Search rows columns}
      (visits : Search.Visits weight row (solveFirst weight row) places search) :
      search.Within weight limit := by
    have sound := sound_solveFirst weight wide row
    have unassigned : row ∉ rowsBefore rows row := by simp
    obtain ⟨free, isFree⟩ := exists_free wide sound unassigned
    exact visits.within sound unassigned isFree light
      (ledger_solveFirst wide light (Nat.le_of_lt row.isLt)) (by simp)
  exact
    { within := fun row places search visits => within visits
      fits := fun row places search visits busy number computes =>
        (within visits).isSigned64 (within (visits.next busy)) light small computes
      finite := fun row places search visits column =>
        ⟨fun other => Search.lt_greatest_of_bounds row small ((within visits).reduced other column).2,
          fun cost reached =>
            Search.lt_greatest_of_bounds row small ((within visits).slack column cost reached).2⟩
      pays := virtualPotential_solve wide light ofState }

end Run

/-- With weights up to a limit that is small enough for the fewer of rows and columns, whichever of
the two are assigned, all numbers of the run are within their bounds and fit in 64 bits, and the
virtual column ends at the greatest worth of a matching. -/
theorem assignment_fits_in_64_bits (weight : Fin rows → Fin columns → Nat) (limit : Nat)
    (light : ∀ row column, weight row column ≤ limit)
    (small : (min rows columns + 2) * limit < Whole.twoTo 63) :
    (rows ≤ columns → Contained weight limit (worth weight (best weight))) ∧
    (columns < rows →
      Contained (fun column row => weight row column) limit (worth weight (best weight))) ∧
    IsGreatest (worth weight '' {pairs | Matching pairs}) (worth weight (best weight)) := by
  refine ⟨fun wide => ?_, fun tall => ?_, ?_, ?_⟩
  · rw [Nat.min_eq_left wide] at small
    exact contained_solve wide light small (pairs_best_of_le weight wide)
  · rw [Nat.min_eq_right (Nat.le_of_lt tall)] at small
    rw [← worth_swap]
    exact contained_solve (Nat.le_of_lt tall) (fun column row => light row column) small
      (pairs_best_of_lt weight tall)
  · exact ⟨best weight, matching_best weight, rfl⟩
  · rintro _ ⟨pairs, matching, rfl⟩
    exact worth_le_worth_best weight matching

/-- Three rows for two columns, with weights as large as four of them together can be. Each of the
columns wants the first row, and the second one gets it. -/
theorem assignment_fits_in_64_bits_at_limit :
    let weight : Fin 3 → Fin 2 → Nat :=
      ![![2305843009213693951, 2305843009213693950], ![2305843009213693950, 0], ![7, 7]]
    (min 3 2 + 2) * 2305843009213693951 < Whole.twoTo 63 ∧
    Contained (fun column row => weight row column) 2305843009213693951 4611686018427387900 := by
  intro weight
  have light : ∀ row column, weight row column ≤ 2305843009213693951 := by decide
  have small : (min 3 2 + 2) * 2305843009213693951 < Whole.twoTo 63 := by decide
  have greatest : worth weight (best weight) = 4611686018427387900 := by decide +kernel
  obtain ⟨_, tall, _⟩ := assignment_fits_in_64_bits weight 2305843009213693951 light small
  exact ⟨small, greatest ▸ tall (by decide)⟩

end Likeness.Assignment
