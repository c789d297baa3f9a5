import Likeness.Proofs.Assignment.Search
import Mathlib.Algebra.BigOperators.Fin
import Mathlib.Algebra.Order.BigOperators.Group.Finset

/-!
# Assignments of greatest worth

A search ends at a free column. Handing columns on along the path that leads there assigns one more
row and keeps all others assigned, at no reduced cost. When all rows are assigned the potentials
bound the worth of every matching, and the assignment reaches the bound. The main statement is
`best_is_greatest_matching`.
-/

namespace Likeness.Assignment

variable {rows columns : Nat}

/-! ## Handing columns on -/

/-- Columns that are owned as they should be, apart from the holes: rows own them at no cost and one
at a time, the rows that are held own one of them, and no column was given up. -/
structure Ownership (weight : Fin rows → Fin columns → Nat) (search : Search rows columns)
    (held : Fin rows → Prop) (hole : Fin columns → Prop)
    (owner : Vector (Option (Fin rows)) columns) : Prop where
  tight : ∀ {other} {column : Fin columns}, ¬hole column → owner.get column = some other →
    search.reduced weight other column = 0
  unique : ∀ {other} {column column' : Fin columns}, ¬hole column → ¬hole column' →
    owner.get column = some other → owner.get column' = some other → column = column'
  owned : ∀ other, held other ↔ ∃ column : Fin columns, ¬hole column ∧ owner.get column = some other
  vacant : ∀ {column : Fin columns}, ¬hole column → owner.get column = none →
    search.owner.get column = none

section Handing

variable {weight : Fin rows → Fin columns → Nat} {assigned : List (Fin rows)} {row : Fin rows}
  {search : Search rows columns} {trail : List (Fin columns)} {hole : Fin columns}
  {owner : Vector (Option (Fin rows)) columns}

section Ownership

variable {held held' : Fin rows → Prop} {holes holes' : Fin columns → Prop}

/-- Only which rows are held and which columns are holes matters. -/
theorem Ownership.congr (ownership : Ownership weight search held holes owner)
    (sameHeld : ∀ other, held' other ↔ held other)
    (sameHoles : ∀ column, holes' column ↔ holes column) :
    Ownership weight search held' holes' owner := by
  obtain rfl : held' = held := funext fun other => propext (sameHeld other)
  obtain rfl : holes' = holes := funext fun column => propext (sameHoles column)
  exact ownership

/-- A column becomes a hole, and its owner is held no longer. -/
theorem Ownership.vacate {prior : Fin columns} {other : Fin rows}
    (ownership : Ownership weight search held holes owner) (inside : ¬holes prior)
    (owns : owner.get prior = some other) :
    Ownership weight search (fun row => held row ∧ row ≠ other)
      (fun column => holes column ∨ column = prior) owner where
  tight := fun away owns' => ownership.tight (not_or.1 away).1 owns'
  unique := fun away away' => ownership.unique (not_or.1 away).1 (not_or.1 away').1
  owned := by
    intro row
    rw [ownership.owned]
    constructor
    · rintro ⟨⟨column, away, owns'⟩, different⟩
      refine ⟨column, not_or.2 ⟨away, ?_⟩, owns'⟩
      rintro rfl
      exact different (Option.some.inj (owns'.symm.trans owns))
    · rintro ⟨column, away, owns'⟩
      obtain ⟨away, different⟩ := not_or.1 away
      refine ⟨⟨column, away, owns'⟩, ?_⟩
      rintro rfl
      exact different (ownership.unique away inside owns' owns)
  vacant := fun away => ownership.vacant (not_or.1 away).1

/-- A hole goes to a row that is not held. -/
theorem Ownership.fill (ownership : Ownership weight search held holes owner) (isHole : holes hole)
    (fresh : ¬held row) (noCost : search.reduced weight row hole = 0) :
    Ownership weight search (fun other => held other ∨ other = row)
      (fun column => holes column ∧ column ≠ hole) (owner.set hole (some row) hole.isLt) := by
  have atHole : (owner.set hole (some row) hole.isLt).get hole = some row := by
    rw [get_set, if_pos rfl]
  have elsewhere {column : Fin columns} (away : column ≠ hole) :
      (owner.set hole (some row) hole.isLt).get column = owner.get column := by
    rw [get_set, if_neg (Ne.symm away)]
  have outside {column : Fin columns} (away : ¬(holes column ∧ column ≠ hole))
      (different : column ≠ hole) : ¬holes column := fun isHole => away ⟨isHole, different⟩
  -- Only the hole belongs to the new row, since that is held nowhere else.
  have onlyHole {column : Fin columns} (away : ¬(holes column ∧ column ≠ hole))
      (owns : (owner.set hole (some row) hole.isLt).get column = some row) : column = hole := by
    by_contra different
    rw [elsewhere different] at owns
    exact fresh ((ownership.owned row).2 ⟨column, outside away different, owns⟩)
  exact
    { tight := by
        intro other column away owns
        by_cases same : column = hole
        · subst same
          rw [atHole] at owns
          cases owns
          exact noCost
        · rw [elsewhere same] at owns
          exact ownership.tight (outside away same) owns
      unique := by
        intro other column column' away away' owns owns'
        by_cases isRow : other = row
        · subst isRow
          rw [onlyHole away owns, onlyHole away' owns']
        · have different {column : Fin columns}
              (owns : (owner.set hole (some row) hole.isLt).get column = some other) :
              column ≠ hole := by
            rintro rfl
            exact isRow (Option.some.inj (owns.symm.trans atHole))
          have apart := different owns
          have apart' := different owns'
          rw [elsewhere apart] at owns
          rw [elsewhere apart'] at owns'
          exact ownership.unique (outside away apart) (outside away' apart') owns owns'
      owned := by
        intro other
        rw [ownership.owned]
        constructor
        · rintro (⟨column, away, owns⟩ | rfl)
          · have different : column ≠ hole := fun same => away (same ▸ isHole)
            exact ⟨column, fun ⟨isHole', _⟩ => away isHole', (elsewhere different).trans owns⟩
          · exact ⟨hole, fun ⟨_, different⟩ => different rfl, atHole⟩
        · rintro ⟨column, away, owns⟩
          by_cases same : column = hole
          · subst same
            exact .inr (Option.some.inj (owns.symm.trans atHole))
          · exact .inl ⟨column, outside away same, (elsewhere same).symm.trans owns⟩
      vacant := by
        intro column away vacant
        by_cases same : column = hole
        · subst same
          rw [atHole] at vacant
          contradiction
        · rw [elsewhere same] at vacant
          exact ownership.vacant (outside away same) vacant }

end Ownership

/-- Columns are being handed on and `hole` is to get a new owner: all other columns are owned as they
should be, and those of the trail still have their first owner. -/
structure Handing (weight : Fin rows → Fin columns → Nat) (assigned : List (Fin rows))
    (search : Search rows columns) (trail : List (Fin columns)) (hole : Fin columns)
    (owner : Vector (Option (Fin rows)) columns) : Prop
    extends Ownership weight search (· ∈ assigned) (· = hole) owner where
  untouched : ∀ column ∈ trail, owner.get column = search.owner.get column

/-- At first the hole is the free column that the search found. -/
theorem handing_start (standing : search.Standing weight assigned row trail hole)
    (isFree : search.owner.get hole = none) :
    Handing weight assigned search trail hole search.owner where
  tight := fun _ owns => standing.sound.tight owns
  unique := fun _ _ owns owns' => standing.sound.unique owns owns'
  owned := by
    intro other
    rw [standing.sound.owned]
    constructor
    · rintro ⟨column, owns⟩
      refine ⟨column, ?_, owns⟩
      rintro rfl
      rw [isFree] at owns
      contradiction
    · rintro ⟨column, _, owns⟩
      exact ⟨column, owns⟩
  vacant := fun _ vacant => vacant
  untouched := fun _ _ => rfl

/-- The hole moves on to the column whose owner it gets. -/
theorem Handing.move {before behind : List (Fin columns)} {prior : Fin columns} {other : Fin rows}
    (handing : Handing weight assigned search trail hole owner)
    (split : trail = before ++ prior :: behind) (outside : hole ∉ trail)
    (owns : search.owner.get prior = some other) (noCost : search.reduced weight other hole = 0) :
    Handing weight assigned search behind prior (owner.set hole (owner.get prior) hole.isLt) := by
  have priorInside : prior ∈ trail := by simp [split]
  have different : prior ≠ hole := fun same => outside (same ▸ priorInside)
  have owns : owner.get prior = some other := (handing.untouched prior priorInside).trans owns
  have assignedOther : other ∈ assigned := (handing.owned other).2 ⟨prior, different, owns⟩
  have filled := (handing.vacate different owns).fill (.inl rfl) (fun both => both.2 rfl) noCost
  rw [owns]
  refine ⟨filled.congr (fun row => ?_) (fun column => ?_), fun column member => ?_⟩
  · by_cases same : row = other
    · simp [same, assignedOther]
    · simp [same]
  · constructor
    · rintro rfl
      exact ⟨.inr rfl, different⟩
    · rintro ⟨isHole | isPrior, away⟩
      · exact absurd isHole away
      · exact isPrior
  · have inside : column ∈ trail := by simp [split, member]
    have away : hole ≠ column := fun same => outside (same ▸ inside)
    rw [get_set, if_neg away]
    exact handing.untouched column inside

/-- The hole that is reached from the virtual column goes to the new row, and no hole is left. -/
theorem Handing.finish (handing : Handing weight assigned search trail hole owner)
    (unassigned : row ∉ assigned) (noCost : search.reduced weight row hole = 0) :
    Ownership weight search (· ∈ row :: assigned) (fun _ => False)
      (owner.set hole (some row) hole.isLt) := by
  refine (handing.fill rfl unassigned noCost).congr (fun other => ?_) (fun column => ?_)
  · rw [List.mem_cons, or_comm]
  · exact ⟨False.elim, fun ⟨same, different⟩ => different same⟩

/-- What hangs together still does after its first columns are dropped. -/
theorem linked_of_append {previous : Vector (Option (Fin columns)) columns}
    {before behind : List (Fin columns)} (linked : Search.Linked previous (before ++ behind)) :
    Search.Linked previous behind := by
  induction before with
  | nil => exact linked
  | cons column before ih => exact ih linked.2

/-- Handing columns on along the path ends with all of them owned as they should be. The path goes
down the trail, so there are enough steps. -/
theorem Handing.ownership {steps : Nat} (handing : Handing weight assigned search trail hole owner)
    (unassigned : row ∉ assigned) (linked : Search.Linked search.previous (hole :: trail))
    (nodup : (hole :: trail).Nodup) (owned : ∀ column ∈ trail, search.owner.get column ≠ none)
    (entered : ∀ column ∈ hole :: trail,
      search.reduced weight (search.rowAt row (search.previous.get column)) column = 0)
    (enough : trail.length < steps) :
    Ownership weight search (· ∈ row :: assigned) (fun _ => False)
      (handOn row search.previous steps hole owner) := by
  induction steps generalizing trail hole owner with
  | zero => omega
  | succ steps ih =>
    have noCost := entered hole (.head _)
    rw [handOn]
    split
    · rename_i came
      have came : search.previous.get hole = none := came
      rw [came, Search.rowAt_none] at noCost
      exact handing.finish unassigned noCost
    · rename_i prior came
      have came : search.previous.get hole = some prior := came
      have inside := linked.1 prior came
      obtain ⟨before, behind, split⟩ := List.append_of_mem inside
      cases owns : search.owner.get prior with
      | none => exact absurd owns (owned prior inside)
      | some other =>
        rw [came, Search.rowAt_some owns] at noCost
        have shorter : behind.length < steps := by
          have length := congrArg List.length split
          simp only [List.length_append, List.length_cons] at length
          omega
        have suffix : ∀ column ∈ prior :: behind, column ∈ trail := fun column member => by
          rw [split]
          exact List.mem_append_right _ member
        have linkedBehind : Search.Linked search.previous (prior :: behind) :=
          linked_of_append (split ▸ linked.2)
        have nodupBehind : (prior :: behind).Nodup :=
          (List.nodup_append.1 (split ▸ (List.nodup_cons.1 nodup).2)).2.1
        exact ih (handing.move split (List.nodup_cons.1 nodup).1 owns noCost) linkedBehind
          nodupBehind (fun column member => owned column (suffix column (.tail _ member)))
          (fun column member => entered column (.tail _ (suffix column member))) shorter

end Handing

/-! ## Assigning all rows -/

section Rows

variable {weight : Fin rows → Fin columns → Nat} {assigned : List (Fin rows)} {row : Fin rows}
  {state : State rows columns}

/-- As long as a row is unassigned and there are not fewer columns than rows, a column is free. -/
theorem exists_free (wide : rows ≤ columns) (sound : state.Sound weight assigned)
    (unassigned : row ∉ assigned) : ∃ free : Fin columns, state.owner.get free = none := by
  by_contra taken
  push Not at taken
  have owners : ∀ column : Fin columns, ∃ other, state.owner.get column = some other :=
    fun column => Option.ne_none_iff_exists'.1 (taken column)
  choose ownerOf owns using owners
  have injective : Function.Injective ownerOf := by
    intro column column' same
    exact sound.unique (owns column) (same ▸ owns column')
  have fresh : row ∉ (List.finRange columns).map ownerOf := by
    intro member
    obtain ⟨column, _, same⟩ := List.mem_map.1 member
    exact unassigned ((sound.owned row).2 ⟨column, same ▸ owns column⟩)
  have nodup : (row :: (List.finRange columns).map ownerOf).Nodup :=
    List.nodup_cons.2 ⟨fresh, (List.nodup_finRange columns).map injective⟩
  have bound := nodup.length_le_card
  simp only [List.length_cons, List.length_map, List.length_finRange, Fintype.card_fin] at bound
  omega

/-- Assigning a row keeps what its search found, and hands columns on from the one it ended at. -/
theorem assignRow_eq {column : Fin columns}
    (present : ((Search.start state).run weight row (columns + 1)).column = some column) :
    assignRow weight state row =
      { ((Search.start state).run weight row (columns + 1)).toState with
        owner := handOn row ((Search.start state).run weight row (columns + 1)).previous columns
          column ((Search.start state).run weight row (columns + 1)).owner } := by
  unfold assignRow
  simp only [present]

/-- Assigning a row keeps the potentials in order, and the column found last has not lost any. -/
theorem sound_assignRow (wide : rows ≤ columns) (sound : state.Sound weight assigned)
    (unassigned : row ∉ assigned) :
    (assignRow weight state row).Sound weight (row :: assigned) ∧
      ∃ column : Fin columns, (assignRow weight state row).columnPotential.get column = 0 := by
  obtain ⟨free, isFree⟩ := exists_free wide sound unassigned
  obtain ⟨places, visits, ended⟩ := Search.exists_visits_run sound unassigned isFree
  obtain ⟨trail, column, _, standing, here⟩ := visits.exists_standing sound unassigned isFree ended
  have handed := (handing_start standing here).ownership unassigned
    ⟨standing.within column standing.unvisited, standing.linked⟩
    (List.nodup_cons.2 ⟨standing.unvisited, standing.nodup⟩) standing.owned
    (List.forall_mem_cons.2 ⟨standing.arrived, standing.entered⟩) standing.length_trail_lt
  rw [assignRow_eq standing.present]
  refine ⟨?_, column, standing.sound.free here⟩
  exact
    { feasible := List.forall_mem_cons.2 ⟨standing.feasible, standing.sound.feasible⟩
      tight := handed.tight not_false
      unique := handed.unique not_false not_false
      owned := by simpa using handed.owned
      nonpositive := standing.sound.nonpositive
      free := fun vacant => standing.sound.free (handed.vacant not_false vacant) }

/-- Assigning any number of rows keeps the potentials in order. -/
theorem sound_foldl (wide : rows ≤ columns) (later : List (Fin rows))
    (nodup : (later.reverse ++ assigned).Nodup) (sound : state.Sound weight assigned)
    (kept : assigned = [] ∨ ∃ column : Fin columns, state.columnPotential.get column = 0) :
    (later.foldl (assignRow weight) state).Sound weight (later.reverse ++ assigned) ∧
      (later.reverse ++ assigned = [] ∨ ∃ column : Fin columns,
        (later.foldl (assignRow weight) state).columnPotential.get column = 0) := by
  induction later generalizing assigned state with
  | nil => exact ⟨sound, kept⟩
  | cons next later ih =>
    rw [List.reverse_cons, List.append_assoc, List.singleton_append] at nodup ⊢
    have unassigned : next ∉ assigned :=
      (List.nodup_cons.1 (List.nodup_append.1 nodup).2.1).1
    obtain ⟨sound', column⟩ := sound_assignRow wide sound unassigned
    exact ih nodup sound' (.inr column)

/-- In the end all rows are assigned, and no potential is positive. -/
theorem sound_solve (weight : Fin rows → Fin columns → Nat) (wide : rows ≤ columns) :
    (solve weight).Sound weight (List.finRange rows).reverse ∧
      ∀ row : Fin rows, (solve weight).rowPotential.get row ≤ 0 := by
  have nodup : ((List.finRange rows).reverse ++ []).Nodup := by
    simpa using List.nodup_finRange rows
  obtain ⟨sound, kept⟩ := sound_foldl wide (List.finRange rows) nodup
    (State.sound_start weight) (.inl rfl)
  rw [List.append_nil] at sound kept
  refine ⟨sound, fun row => ?_⟩
  have member : row ∈ (List.finRange rows).reverse := by simp
  -- A column that kept its potential bounds every row by its own weight there.
  obtain empty | ⟨column, zero⟩ := kept
  · exact absurd empty (List.ne_nil_of_mem member)
  · have feasible := sound.feasible row member column
    rw [State.reduced, zero] at feasible
    have := Int.natCast_nonneg (weight row column)
    show ((List.finRange rows).foldl (assignRow weight)
      (State.start rows columns)).rowPotential.get row ≤ 0
    omega

end Rows

/-! ## Matchings and their worth -/

/-- Pairs of which no two share a row or a column. -/
structure Matching (pairs : List (Fin rows × Fin columns)) : Prop where
  rows : (pairs.map Prod.fst).Nodup
  columns : (pairs.map Prod.snd).Nodup

/-- The weight of all pairs together. -/
def worth (weight : Fin rows → Fin columns → Nat) (pairs : List (Fin rows × Fin columns)) : Nat :=
  Whole.sum (pairs.map fun pair => weight pair.1 pair.2)

/-- A matching can be read from its columns to its rows. -/
theorem Matching.swap {pairs : List (Fin rows × Fin columns)} (matching : Matching pairs) :
    Matching (pairs.map Prod.swap) where
  rows := by simpa [Function.comp_def] using matching.columns
  columns := by simpa [Function.comp_def] using matching.rows

theorem worth_swap (weight : Fin rows → Fin columns → Nat) (pairs : List (Fin rows × Fin columns)) :
    worth (fun column row => weight row column) (pairs.map Prod.swap) = worth weight pairs := by
  simp [worth, Function.comp_def]

/-- Numbers that are not negative, taken at different indices, sum to at most all of them. -/
theorem sum_map_le_sum {size : Nat} {value : Fin size → Int} (nonneg : ∀ index, 0 ≤ value index)
    {indices : List (Fin size)} (nodup : indices.Nodup) :
    (indices.map value).sum ≤ ∑ index, value index := by
  rw [← List.sum_toFinset value nodup]
  exact Finset.sum_le_univ_sum_of_nonneg nonneg

/-- Numbers taken at different indices sum to all of them, if the others are zero. -/
theorem sum_map_eq_sum {size : Nat} {value : Fin size → Int} {indices : List (Fin size)}
    (nodup : indices.Nodup) (zero : ∀ index ∉ indices, value index = 0) :
    (indices.map value).sum = ∑ index, value index := by
  rw [← List.sum_toFinset value nodup]
  exact Finset.sum_subset (Finset.subset_univ _) fun index _ out =>
    zero index fun member => out (List.mem_toFinset.2 member)

section Duality

variable {weight : Fin rows → Fin columns → Nat} {state : State rows columns}

/-- What all potentials together allow a matching to be worth. -/
def State.allowance (state : State rows columns) : Int :=
  (∑ row : Fin rows, -state.rowPotential.get row)
    + ∑ column : Fin columns, -state.columnPotential.get column

/-- The worth of pairs is what their potentials allow less their reduced costs. -/
theorem worth_eq_sum_sub (weight : Fin rows → Fin columns → Nat) (state : State rows columns)
    (pairs : List (Fin rows × Fin columns)) :
    (worth weight pairs : Int) =
      ((pairs.map Prod.fst).map fun row => -state.rowPotential.get row).sum
        + ((pairs.map Prod.snd).map fun column => -state.columnPotential.get column).sum
        - (pairs.map fun pair => state.reduced weight pair.1 pair.2).sum := by
  induction pairs with
  | nil => rfl
  | cons pair pairs ih =>
    simp only [worth, List.map_cons, Whole.sum_cons, Nat.cast_add, List.sum_cons] at ih ⊢
    rw [ih, State.reduced]
    omega

/-- No matching is worth more than the potentials allow. -/
theorem worth_le_allowance {pairs : List (Fin rows × Fin columns)} (matching : Matching pairs)
    (feasible : ∀ row column, 0 ≤ state.reduced weight row column)
    (rowPotential : ∀ row : Fin rows, state.rowPotential.get row ≤ 0)
    (columnPotential : ∀ column : Fin columns, state.columnPotential.get column ≤ 0) :
    (worth weight pairs : Int) ≤ state.allowance := by
  have ofRows := sum_map_le_sum (fun row => Int.neg_nonneg.2 (rowPotential row)) matching.rows
  have ofColumns :=
    sum_map_le_sum (fun column => Int.neg_nonneg.2 (columnPotential column)) matching.columns
  have reduced : 0 ≤ (pairs.map fun pair => state.reduced weight pair.1 pair.2).sum := by
    refine List.sum_nonneg fun cost member => ?_
    obtain ⟨pair, _, rfl⟩ := List.mem_map.1 member
    exact feasible pair.1 pair.2
  rw [worth_eq_sum_sub weight state, State.allowance]
  omega

/-- The pairs of a state are its columns with their owners. -/
def State.Pairs (state : State rows columns) (pairs : List (Fin rows × Fin columns)) : Prop :=
  pairs.Nodup ∧ ∀ row column, (row, column) ∈ pairs ↔ state.owner.get column = some row

/-- The pairs of a sound state are a matching. -/
theorem State.Sound.matching {assigned : List (Fin rows)} {pairs : List (Fin rows × Fin columns)}
    (sound : state.Sound weight assigned) (ofState : state.Pairs pairs) : Matching pairs where
  rows := by
    refine ofState.1.map_on ?_
    rintro ⟨row, column⟩ member ⟨row', column'⟩ member' same
    cases same
    have owns := (ofState.2 row column).1 member
    have owns' := (ofState.2 row column').1 member'
    rw [sound.unique owns owns']
  columns := by
    refine ofState.1.map_on ?_
    rintro ⟨row, column⟩ member ⟨row', column'⟩ member' same
    cases same
    have owns := (ofState.2 row column).1 member
    have owns' := (ofState.2 row' column).1 member'
    rw [owns] at owns'
    cases owns'
    rfl

/-- The pairs of a sound state in which all rows are assigned are worth all that the potentials
allow. -/
theorem State.Sound.worth_eq {assigned : List (Fin rows)} {pairs : List (Fin rows × Fin columns)}
    (sound : state.Sound weight assigned) (all : ∀ row, row ∈ assigned)
    (ofState : state.Pairs pairs) : (worth weight pairs : Int) = state.allowance := by
  have matching := sound.matching ofState
  have ofRows : ((pairs.map Prod.fst).map fun row => -state.rowPotential.get row).sum =
      ∑ row : Fin rows, -state.rowPotential.get row := by
    refine sum_map_eq_sum matching.rows fun row out => ?_
    obtain ⟨column, owns⟩ := (sound.owned row).1 (all row)
    have paired := (ofState.2 row column).2 owns
    exact absurd (List.mem_map.2 ⟨(row, column), paired, rfl⟩) out
  have ofColumns : ((pairs.map Prod.snd).map fun column => -state.columnPotential.get column).sum =
      ∑ column : Fin columns, -state.columnPotential.get column := by
    refine sum_map_eq_sum matching.columns fun column out => ?_
    cases owns : state.owner.get column with
    | none => rw [sound.free owns, Int.neg_zero]
    | some row =>
      have paired := (ofState.2 row column).2 owns
      exact absurd (List.mem_map.2 ⟨(row, column), paired, rfl⟩) out
  have reduced : (pairs.map fun pair => state.reduced weight pair.1 pair.2).sum = 0 := by
    refine List.sum_eq_zero fun cost member => ?_
    obtain ⟨⟨row, column⟩, paired, rfl⟩ := List.mem_map.1 member
    exact sound.tight ((ofState.2 row column).1 paired)
  rw [worth_eq_sum_sub weight state, State.allowance, ofRows, ofColumns, reduced]
  omega

/-- The pairs of a sound state in which all rows are assigned are as many as there are rows. -/
theorem State.Sound.length_eq {assigned : List (Fin rows)} {pairs : List (Fin rows × Fin columns)}
    (sound : state.Sound weight assigned) (all : ∀ row, row ∈ assigned)
    (ofState : state.Pairs pairs) : pairs.length = rows := by
  have matching := sound.matching ofState
  have complete : (pairs.map Prod.fst).Perm (List.finRange rows) := by
    refine (List.perm_ext_iff_of_nodup matching.rows (List.nodup_finRange rows)).2 fun row => ?_
    obtain ⟨column, owns⟩ := (sound.owned row).1 (all row)
    have paired := (ofState.2 row column).2 owns
    exact iff_of_true (List.mem_map.2 ⟨(row, column), paired, rfl⟩) (List.mem_finRange row)
  simpa using complete.length_eq

end Duality

/-! ## The assignment that is returned -/

section Best

variable (weight : Fin rows → Fin columns → Nat)

/-- With enough columns, the best pairs are read off row by row. -/
theorem pairs_best_of_le (wide : rows ≤ columns) : (solve weight).Pairs (best weight) := by
  obtain ⟨sound, _⟩ := sound_solve weight wide
  have shape : best weight = (List.finRange rows).filterMap fun row =>
      ((List.finRange columns).find? fun column => (solve weight).owner.get column = some row).map
        (row, ·) := if_pos wide
  rw [shape]
  constructor
  · refine (List.nodup_finRange rows).filterMap ?_
    intro row row' pair first second
    obtain ⟨_, _, rfl⟩ := Option.map_eq_some_iff.1 first
    obtain ⟨_, _, same⟩ := Option.map_eq_some_iff.1 second
    exact (congrArg Prod.fst same).symm
  · intro row column
    simp only [List.mem_filterMap, List.mem_finRange, true_and, Option.map_eq_some_iff]
    constructor
    · rintro ⟨_, _, found, ⟨⟩⟩
      simpa using List.find?_some found
    · intro owns
      refine ⟨row, column, ?_, rfl⟩
      cases found : (List.finRange columns).find?
          fun column => (solve weight).owner.get column = some row with
      | none => simpa [owns] using List.find?_eq_none.1 found column (List.mem_finRange column)
      | some other =>
        have owns' : (solve weight).owner.get other = some row := by
          simpa using List.find?_some found
        rw [sound.unique owns owns']

/-- With more rows than columns, the best pairs are those of the exchanged problem. -/
theorem pairs_best_of_lt (tall : columns < rows) :
    (solve fun column row => weight row column).Pairs ((best weight).map Prod.swap) := by
  have shape : best weight = (List.finRange rows).filterMap fun row =>
      ((solve fun column row => weight row column).owner.get row).map (row, ·) :=
    if_neg (Nat.not_le.2 tall)
  rw [shape]
  constructor
  · refine (List.Nodup.filterMap ?_ (List.nodup_finRange rows)).map Prod.swap_injective
    intro row row' pair first second
    obtain ⟨_, _, rfl⟩ := Option.map_eq_some_iff.1 first
    obtain ⟨_, _, same⟩ := Option.map_eq_some_iff.1 second
    exact (congrArg Prod.fst same).symm
  · intro column row
    simp only [List.mem_map, List.mem_filterMap, List.mem_finRange, true_and,
      Option.map_eq_some_iff, Prod.exists, Prod.swap_prod_mk, Prod.mk.injEq]
    constructor
    · rintro ⟨_, _, ⟨_, _, owns, rfl, rfl⟩, rfl, rfl⟩
      exact owns
    · intro owns
      exact ⟨row, column, ⟨row, column, owns, rfl, rfl⟩, rfl, rfl⟩

/-- The best pairs share no row and no column. -/
theorem matching_best : Matching (best weight) := by
  obtain tall | wide := Nat.lt_or_ge columns rows
  · have sound := (sound_solve (fun column row => weight row column) (Nat.le_of_lt tall)).1
    simpa [Function.comp_def] using (sound.matching (pairs_best_of_lt weight tall)).swap
  · exact (sound_solve weight wide).1.matching (pairs_best_of_le weight wide)

/-- Pairs of the solved problem are worth at least as much as any matching. -/
theorem worth_le_worth_of_pairs {pairs others : List (Fin rows × Fin columns)}
    (wide : rows ≤ columns) (ofState : (solve weight).Pairs pairs) (matching : Matching others) :
    worth weight others ≤ worth weight pairs := by
  obtain ⟨sound, rowPotential⟩ := sound_solve weight wide
  have all : ∀ row, row ∈ (List.finRange rows).reverse := by simp
  have reaches := sound.worth_eq all ofState
  have bound := worth_le_allowance matching (fun row => sound.feasible row (all row)) rowPotential
    sound.nonpositive
  omega

/-- No matching is worth more than the best pairs. -/
theorem worth_le_worth_best {others : List (Fin rows × Fin columns)} (matching : Matching others) :
    worth weight others ≤ worth weight (best weight) := by
  obtain tall | wide := Nat.lt_or_ge columns rows
  · have bound := worth_le_worth_of_pairs (fun column row => weight row column) (Nat.le_of_lt tall)
      (pairs_best_of_lt weight tall) matching.swap
    rwa [worth_swap, worth_swap] at bound
  · exact worth_le_worth_of_pairs weight wide (pairs_best_of_le weight wide) matching

/-- There are as many best pairs as the rows and the columns allow. -/
theorem length_best : (best weight).length = min rows columns := by
  have all {size : Nat} (row : Fin size) : row ∈ (List.finRange size).reverse := by simp
  obtain tall | wide := Nat.lt_or_ge columns rows
  · have sound := (sound_solve (fun column row => weight row column) (Nat.le_of_lt tall)).1
    have length := sound.length_eq all (pairs_best_of_lt weight tall)
    rw [List.length_map] at length
    omega
  · have length := (sound_solve weight wide).1.length_eq all (pairs_best_of_le weight wide)
    omega

/-- The best pairs are listed by row, whichever side of the problem was solved. -/
theorem pairwise_best : (best weight).Pairwise fun first second => first.1 < second.1 := by
  have byRow (partner : Fin rows → Option (Fin columns)) :
      ((List.finRange rows).filterMap fun row => (partner row).map (row, ·)).Pairwise
        fun first second => first.1 < second.1 := by
    rw [List.pairwise_filterMap]
    refine (List.pairwise_lt_finRange rows).imp ?_
    intro row row' before pair found pair' found'
    obtain ⟨column, _, rfl⟩ := Option.map_eq_some_iff.1 found
    obtain ⟨column', _, rfl⟩ := Option.map_eq_some_iff.1 found'
    exact before
  rw [best]
  split
  · exact byRow _
  · exact byRow _

/-- The pairs that are returned name rows and columns of the problem, the rows in ascending order and
no column twice. There are as many of them as rows or columns, whichever are fewer, and of all
matchings, partial ones included, none is worth more. -/
theorem best_is_greatest_matching :
    (best weight).Pairwise (fun first second => first.1 < second.1) ∧
      ((best weight).map Prod.snd).Nodup ∧ (best weight).length = min rows columns ∧
      IsGreatest (worth weight '' {pairs | Matching pairs}) (worth weight (best weight)) := by
  refine ⟨pairwise_best weight, (matching_best weight).columns, length_best weight, ?_, ?_⟩
  · exact ⟨best weight, matching_best weight, rfl⟩
  · rintro _ ⟨pairs, matching, rfl⟩
    exact worth_le_worth_best weight matching

end Best

end Likeness.Assignment
