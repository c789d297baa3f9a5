import Likeness.Proofs.Assignment.Visit
import Mathlib.Data.Fintype.Card

/-!
# The search for a free column

A visit moves on to the cheapest column that is not visited, so a search goes on as long as there is
a free column and ends there. `Search.Visits` describes a search by the places it has visited, without
a bound on their number. `Search.exists_visits_run` says that a search ends, and
`Search.Visits.exists_standing` that it ends at a free column which is reached along cells without
reduced cost.
-/

namespace Likeness.Assignment

variable {rows columns : Nat}

/-! ## The cheapest column -/

/-- The cheaper of the best column so far and one more. -/
def cheaper (visited : Vector Bool columns) (slack : Vector (Option Int) columns)
    (best : Option (Fin columns × Int)) (column : Fin columns) : Option (Fin columns × Int) :=
  if visited.get column then best
  else
    match slack.get column, best with
    | some cost, some (_, least) => if cost < least then some (column, cost) else best
    | some cost, none => some (column, cost)
    | none, _ => best

theorem cheapest_eq_foldl (visited : Vector Bool columns) (slack : Vector (Option Int) columns) :
    cheapest visited slack = (List.finRange columns).foldl (cheaper visited slack) none := rfl

/-- What is known about the cheapest of the columns seen so far. -/
def Least (visited : Vector Bool columns) (slack : Vector (Option Int) columns)
    (seen : List (Fin columns)) : Option (Fin columns × Int) → Prop
  | none => ∀ column ∈ seen, visited.get column = false → slack.get column = none
  | some (next, delta) => visited.get next = false ∧ slack.get next = some delta ∧
      ∀ column ∈ seen, visited.get column = false →
        ∀ cost, slack.get column = some cost → delta ≤ cost

section Cheapest

variable {visited : Vector Bool columns} {slack : Vector (Option Int) columns}

/-- What is known about the best column still holds after one that is visited or has no slack below
its own. -/
theorem Least.pass {seen : List (Fin columns)} {best : Option (Fin columns × Int)}
    {column : Fin columns} (least : Least visited slack seen best)
    (dull : visited.get column = false → ∀ cost, slack.get column = some cost →
      ∃ next delta, best = some (next, delta) ∧ delta ≤ cost) :
    Least visited slack (column :: seen) best := by
  rcases best with _ | ⟨next, delta⟩
  · rintro other (_ | ⟨_, member⟩) unvisited
    · cases found : slack.get column with
      | none => rfl
      | some cost => simpa using dull unvisited cost found
    · exact least other member unvisited
  · refine ⟨least.1, least.2.1, ?_⟩
    rintro other (_ | ⟨_, member⟩) unvisited cost found
    · obtain ⟨_, _, same, bound⟩ := dull unvisited cost found
      cases same
      exact bound
    · exact least.2.2 other member unvisited cost found

/-- One more column is taken into account. -/
theorem Least.cheaper {seen : List (Fin columns)} {best : Option (Fin columns × Int)}
    (least : Least visited slack seen best) (column : Fin columns) :
    Least visited slack (column :: seen) (cheaper visited slack best column) := by
  unfold Assignment.cheaper
  cases isVisited : visited.get column with
  | true => exact least.pass (by simp [isVisited])
  | false =>
    cases hasSlack : slack.get column with
    | none => exact least.pass (by simp [hasSlack])
    | some cost =>
      rcases best with _ | ⟨next, delta⟩
      · refine ⟨isVisited, hasSlack, ?_⟩
        rintro other (_ | ⟨_, member⟩) unvisited cost' found
        · simp_all
        · have nothing := least other member unvisited
          simp_all
      · by_cases smaller : cost < delta
        · simp only [Bool.false_eq_true, if_false, if_pos smaller]
          refine ⟨isVisited, hasSlack, ?_⟩
          rintro other (_ | ⟨_, member⟩) unvisited cost' found
          · simp_all
          · have := least.2.2 other member unvisited cost' found
            omega
        · simp only [Bool.false_eq_true, if_false, if_neg smaller]
          refine least.pass fun _ cost' found => ⟨next, delta, rfl, ?_⟩
          have : cost = cost' := by simpa [hasSlack] using found
          omega

/-- Any number of columns are taken into account. -/
theorem Least.foldl {seen : List (Fin columns)} {best : Option (Fin columns × Int)}
    (least : Least visited slack seen best) (later : List (Fin columns)) :
    Least visited slack (later.reverse ++ seen)
      (later.foldl (Assignment.cheaper visited slack) best) := by
  induction later generalizing seen best with
  | nil => exact least
  | cons column later ih => simpa using ih (least.cheaper column)

/-- A column that is not visited and has slack makes some column the cheapest. The cheapest one is
not visited, and no column that is not visited has less slack. -/
theorem exists_cheapest {column : Fin columns} (unvisited : visited.get column = false)
    (reached : slack.get column ≠ none) :
    ∃ next delta, cheapest visited slack = some (next, delta) ∧ visited.get next = false ∧
      slack.get next = some delta ∧
      ∀ other : Fin columns, visited.get other = false →
        ∀ cost, slack.get other = some cost → delta ≤ cost := by
  have start : Least visited slack [] none := nofun
  have least := start.foldl (List.finRange columns)
  rw [← cheapest_eq_foldl] at least
  cases found : cheapest visited slack with
  | none =>
    rw [found] at least
    exact absurd (least column (by simp) unvisited) reached
  | some best =>
    obtain ⟨next, delta⟩ := best
    rw [found] at least
    obtain ⟨nextUnvisited, nextSlack, smallest⟩ := least
    exact ⟨next, delta, rfl, nextUnvisited, nextSlack, fun other => smallest other (by simp)⟩

end Cheapest

/-! ## One visit after the other -/

namespace Search

/-- The searches that assigning a row goes through, each with the places that were visited before it,
the last one first. A search goes on until it stands at a free column. -/
inductive Visits (weight : Fin rows → Fin columns → Nat) (row : Fin rows)
    (state : State rows columns) : List (Option (Fin columns)) → Search rows columns → Prop where
  | start : Visits weight row state [] (Search.start state)
  | next {places search} (visits : Visits weight row state places search)
      (busy : search.atFree = false) :
      Visits weight row state (search.column :: places) (search.visit weight row)

/-- A search about to visit its present place, which ends the trail of those visited before: what it
knows when the place has lowered slacks. -/
structure Ready (weight : Fin rows → Fin columns → Nat) (assigned : List (Fin rows)) (row : Fin rows)
    (trail : List (Fin columns)) (search : Search rows columns) : Prop where
  explored : Explored weight assigned row trail (search.relax weight row)
  feasible : trail = [] ∨ ∀ other, 0 ≤ search.reduced weight row other

/-- A visit finds a column to move on to, and its slack, by which the potentials are shifted. -/
def Finds (weight : Fin rows → Fin columns → Nat) (row : Fin rows) (search : Search rows columns)
    (next : Fin columns) (delta : Int) : Prop :=
  cheapest (search.relax weight row).visited (search.relax weight row).slack = some (next, delta)

variable {weight : Fin rows → Fin columns → Nat} {assigned : List (Fin rows)} {row : Fin rows}
  {state : State rows columns} {trail : List (Fin columns)} {places : List (Option (Fin columns))}
  {search : Search rows columns} {free : Fin columns}

/-- A visit that finds a column ends with the shift. -/
theorem Finds.visit_eq {next : Fin columns} {delta : Int}
    (finds : search.Finds weight row next delta) :
    search.visit weight row = (search.relax weight row).shift row next delta := by
  have found : cheapest (search.relax weight row).visited (search.relax weight row).slack =
      some (next, delta) := finds
  rw [Search.visit_eq, found]

@[simp] theorem owner_visit (weight : Fin rows → Fin columns → Nat) (row : Fin rows)
    (search : Search rows columns) : (search.visit weight row).owner = search.owner := by
  rw [visit_eq]
  split <;> rfl

/-- As long as there is a free column, every visit finds a column to move on to, the nearest one. -/
theorem exists_nearest (explored : Explored weight assigned row trail (search.relax weight row))
    (isFree : search.owner.get free = none) :
    ∃ next delta, search.Finds weight row next delta ∧
      Nearest trail (search.relax weight row) next delta := by
  have outside : ∀ column : Fin columns,
      (search.relax weight row).visited.get column = false ↔ column ∉ trail := by
    intro column
    rw [Bool.eq_false_iff, ne_eq, explored.visited]
  have freeOut : free ∉ trail := fun member => explored.owned free member isFree
  have reached : (search.relax weight row).slack.get free ≠ none := by
    rw [explored.reached free freeOut]
    exact Option.some_ne_none _
  obtain ⟨next, delta, found, unvisited, nextSlack, smallest⟩ :=
    exists_cheapest ((outside free).2 freeOut) reached
  refine ⟨next, delta, found, (outside next).1 unvisited, nextSlack, ?_⟩
  exact fun column out => smallest column ((outside column).2 out)

/-- The column that a search stands at is no part of its trail, so the trail is not yet as long as
there are columns. -/
theorem Standing.length_trail_lt {column : Fin columns}
    (standing : Standing weight assigned row trail column search) : trail.length < columns := by
  have nodup : (column :: trail).Nodup := List.nodup_cons.2 ⟨standing.unvisited, standing.nodup⟩
  have bound := nodup.length_le_card
  rw [List.length_cons, Fintype.card_fin] at bound
  exact bound

/-- A search stands at a free column when no row owns the present one. -/
theorem Standing.atFree_iff {column : Fin columns}
    (standing : Standing weight assigned row trail column search) :
    search.atFree = true ↔ search.owner.get column = none := by
  rw [Search.atFree, standing.present]
  exact Option.isNone_iff_eq_none

/-- As long as there is a free column, a visit leads to a next column. -/
theorem Ready.exists_standing (ready : Ready weight assigned row trail search)
    (isFree : search.owner.get free = none) :
    ∃ next, Standing weight assigned row trail next (search.visit weight row) := by
  obtain ⟨next, delta, finds, nearest⟩ := exists_nearest ready.explored isFree
  rw [finds.visit_eq]
  exact ⟨next, ready.explored.standing_shift nearest ready.feasible⟩

/-- The trail of a search that is ready leaves a column out, as long as there is a free one. -/
theorem Ready.length_trail_lt (ready : Ready weight assigned row trail search)
    (isFree : search.owner.get free = none) : trail.length < columns := by
  obtain ⟨next, standing⟩ := ready.exists_standing isFree
  exact standing.length_trail_lt

theorem ready_start (sound : state.Sound weight assigned) (unassigned : row ∉ assigned) :
    Ready weight assigned row [] (Search.start state) :=
  ⟨explored_relax_start sound unassigned, .inl rfl⟩

/-- A search that stands at a column with an owner is ready. -/
theorem Standing.ready {column : Fin columns}
    (standing : Standing weight assigned row trail column search) (busy : search.atFree = false) :
    Ready weight assigned row (column :: trail) search := by
  refine ⟨standing.explored_relax fun isFree => ?_, .inr standing.feasible⟩
  rw [standing.atFree_iff.2 isFree] at busy
  contradiction

theorem length_places_eq {place : Option (Fin columns)}
    (split : place :: places = trail.map some ++ [none]) : places.length = trail.length := by
  simpa using congrArg List.length split

/-- Searching does not change who owns what. -/
theorem Visits.owner_eq (visits : Visits weight row state places search) :
    search.owner = state.owner := by
  induction visits with
  | start => rfl
  | next _ _ ih => rw [owner_visit, ih]

section Sound

variable (sound : state.Sound weight assigned) (unassigned : row ∉ assigned)

include sound unassigned

/-- A search that is at its start, or stands at a column with an owner, is ready for a visit. -/
theorem exists_ready_of_start_or_standing
    (known : (places = [] ∧ search = Search.start state) ∨
      ∃ trail column, places = trail.map some ++ [none] ∧
        Standing weight assigned row trail column search)
    (busy : search.atFree = false) :
    ∃ trail, search.column :: places = trail.map some ++ [none] ∧
      Ready weight assigned row trail search := by
  obtain ⟨rfl, rfl⟩ | ⟨trail, column, rfl, standing⟩ := known
  · exact ⟨[], rfl, ready_start sound unassigned⟩
  · exact ⟨column :: trail, by rw [standing.present]; rfl, standing.ready busy⟩

variable (isFree : state.owner.get free = none)

include isFree

/-- Before its first visit a search is at the start; behind it, it stands at a column. The places it
has visited are its trail and the virtual column. -/
theorem Visits.start_or_standing (visits : Visits weight row state places search) :
    (places = [] ∧ search = Search.start state) ∨
      ∃ trail column, places = trail.map some ++ [none] ∧
        Standing weight assigned row trail column search := by
  induction visits with
  | start => exact .inl ⟨rfl, rfl⟩
  | @next places search visits busy ih =>
    obtain ⟨trail, split, ready⟩ := exists_ready_of_start_or_standing sound unassigned ih busy
    obtain ⟨next, standing⟩ := ready.exists_standing (visits.owner_eq ▸ isFree)
    exact .inr ⟨trail, next, split, standing⟩

/-- A search that is not at its end is ready for the next visit. -/
theorem Visits.exists_ready (visits : Visits weight row state places search)
    (busy : search.atFree = false) :
    ∃ trail, search.column :: places = trail.map some ++ [none] ∧
      Ready weight assigned row trail search :=
  exists_ready_of_start_or_standing sound unassigned
    (visits.start_or_standing sound unassigned isFree) busy

/-- At the end of a search, it stands at a free column. -/
theorem Visits.exists_standing (visits : Visits weight row state places search)
    (ended : search.atFree = true) :
    ∃ trail column, places = trail.map some ++ [none] ∧
      Standing weight assigned row trail column search ∧ search.owner.get column = none := by
  obtain ⟨rfl, rfl⟩ | ⟨trail, column, split, standing⟩ :=
    visits.start_or_standing sound unassigned isFree
  · contradiction
  · exact ⟨trail, column, split, standing, standing.atFree_iff.1 ended⟩

end Sound

/-- A search that is carried on visits one place after the other, until it stands at a free column or
its steps are used up. -/
theorem Visits.exists_run (visits : Visits weight row state places search)
    (busy : search.atFree = false) (steps : Nat) :
    ∃ places', Visits weight row state places' (search.run weight row steps) ∧
      ((search.run weight row steps).atFree = false → places'.length = places.length + steps) := by
  induction steps generalizing places search with
  | zero => exact ⟨places, visits, fun _ => rfl⟩
  | succ steps ih =>
    rw [run]
    cases ended : (search.visit weight row).atFree with
    | true =>
      refine ⟨_, visits.next busy, fun busy' => ?_⟩
      simp [ended] at busy'
    | false =>
      obtain ⟨places', visits', length⟩ := ih (visits.next busy) ended
      refine ⟨places', by simpa [ended] using visits', fun busy' => ?_⟩
      have total := length (by simpa [ended] using busy')
      rw [List.length_cons] at total
      omega

/-- The search for an unassigned row ends at a free column, if there is one. -/
theorem exists_visits_run (sound : state.Sound weight assigned) (unassigned : row ∉ assigned)
    (isFree : state.owner.get free = none) :
    ∃ places, Visits weight row state places ((Search.start state).run weight row (columns + 1)) ∧
      ((Search.start state).run weight row (columns + 1)).atFree = true := by
  have begun : Visits weight row state [] (Search.start state) := .start
  obtain ⟨places, visits, length⟩ := begun.exists_run rfl (columns + 1)
  refine ⟨places, visits, ?_⟩
  by_contra busy
  have busy := Bool.eq_false_iff.2 busy
  -- All steps would have been used up, but there are not so many columns to visit.
  obtain ⟨trail, split, ready⟩ := visits.exists_ready sound unassigned isFree busy
  have short := ready.length_trail_lt (visits.owner_eq ▸ isFree)
  have same := length_places_eq split
  have steps := length busy
  rw [List.length_nil] at steps
  omega

end Search

end Likeness.Assignment
