import Likeness.Builder
import Likeness.Grammar.Parser

/-!
# Runs of builders

A builder is given a cursor and what was noted before. `Builder.Runs` states that what it builds,
where it stops and the furthest place that it marks depend on the cursor alone, and that the cursor
is left alone if nothing is built. There is one rule for each way to put builders together; those
for sequences speak of branches, since a sequence that fails on its way has moved its cursor.
-/

namespace Likeness

namespace Cursor

/-- The furthest of three places is found in any order of comparison. -/
theorem further_assoc (first second third : Cursor) :
    (first.further second).further third = first.further (second.further third) := by
  unfold further
  grind

/-- What is noted once a place has been marked, if there is one. -/
def noting (noted place : Option Cursor) : Option Cursor :=
  noted.map fun reach => (place.map reach.further).getD reach

@[simp] theorem noting_none (noted : Option Cursor) : noting noted none = noted :=
  Option.map_id'

@[simp] theorem noting_some (reach : Cursor) (place : Option Cursor) :
    noting (some reach) place = some ((place.map reach.further).getD reach) := rfl

@[simp] theorem none_noting (place : Option Cursor) : noting none place = none := rfl

/-- Marking two places is marking the further one. -/
theorem noting_noting (noted place place' : Option Cursor) :
    noting (noting noted place) place' = noting noted (place.merge further place') := by
  cases noted with
  | none => rfl
  | some reach => cases place <;> cases place' <;> simp [further_assoc]

end Cursor

namespace Builder

variable {α β : Type} {builder first second : Builder α} {continuation : α → Builder β}
  {cursor middle stop : Cursor} {value : α} {result : Option (α × Cursor)}
  {place place' : Option Cursor}

/-- What a builder does at a cursor, whatever was noted before. -/
def Runs (builder : Builder α) (cursor : Cursor) (built : Cursor.Built α) : Prop :=
  ∀ noted, builder ⟨cursor, noted⟩ =
    (built.result.map Prod.fst,
      ⟨(built.result.map Prod.snd).getD cursor, Cursor.noting noted built.reached⟩)

theorem runs_none :
    Runs builder cursor ⟨none, place⟩ ↔
      ∀ noted, builder ⟨cursor, noted⟩ = (none, ⟨cursor, Cursor.noting noted place⟩) := Iff.rfl

theorem runs_some :
    Runs builder cursor ⟨some (value, stop), place⟩ ↔
      ∀ noted, builder ⟨cursor, noted⟩ = (some value, ⟨stop, Cursor.noting noted place⟩) := Iff.rfl

theorem runs_pure (value : α) (cursor : Cursor) :
    Runs (pure value) cursor ⟨some (value, cursor), none⟩ :=
  runs_some.2 fun noted => by rw [Cursor.noting_none]; rfl

theorem runs_fail (cursor : Cursor) : Runs (fail : Builder α) cursor ⟨none, none⟩ :=
  runs_none.2 fun noted => by rw [Cursor.noting_none]; rfl

/-- What leaves the cursor alone when it fails does the same on a branch. -/
theorem Runs.branch {built : Cursor.Built α} (runs : Runs builder cursor built) :
    Runs (branch builder) cursor built := by
  intro noted
  obtain ⟨result, place⟩ := built
  rw [Builder.branch, runs noted]
  cases result <;> rfl

/-- On a branch, a builder that builds a value does the same. -/
theorem eq_of_branch_some (runs : Runs (branch builder) cursor ⟨some (value, stop), place⟩)
    (noted : Option Cursor) :
    builder ⟨cursor, noted⟩ = (some value, ⟨stop, Cursor.noting noted place⟩) := by
  have same := runs noted
  rw [Builder.branch] at same
  split at same
  · rename_i committed
    rw [committed]
    exact same
  · cases same

/-- A builder that builds nothing on a branch marks the same without it. -/
theorem exists_of_branch_none (runs : Runs (branch builder) cursor ⟨none, place⟩)
    (noted : Option Cursor) :
    ∃ dropped, builder ⟨cursor, noted⟩ = (none, ⟨dropped, Cursor.noting noted place⟩) := by
  have same := runs noted
  rw [Builder.branch] at same
  split at same
  · cases same
  · rename_i dropped failed
    obtain ⟨left, reached⟩ := dropped
    obtain rfl : reached = Cursor.noting noted place :=
      congrArg Stance.reach (congrArg Prod.snd same)
    exact ⟨left, failed⟩

/-- A sequence fails where its first part does. -/
theorem Runs.bind_none (runs : Runs (Builder.branch builder) cursor ⟨none, place⟩) :
    Runs (Builder.branch (builder >>= continuation)) cursor ⟨none, place⟩ := by
  intro noted
  obtain ⟨dropped, failed⟩ := exists_of_branch_none runs noted
  show Builder.branch (andThen builder continuation) _ = _
  rw [Builder.branch, andThen, failed]
  rfl

/-- The second part of a sequence runs where the first one stopped. -/
theorem Runs.bind_some {result : Option (β × Cursor)}
    (runs : Runs (Builder.branch builder) cursor ⟨some (value, middle), place⟩)
    (runs' : Runs (Builder.branch (continuation value)) middle ⟨result, place'⟩) :
    Runs (Builder.branch (builder >>= continuation)) cursor
      ⟨result, place.merge Cursor.further place'⟩ := by
  intro noted
  show Builder.branch (andThen builder continuation) _ = _
  rw [Builder.branch, andThen, eq_of_branch_some runs noted, ← Cursor.noting_noting]
  cases result with
  | none =>
    obtain ⟨dropped, failed⟩ := exists_of_branch_none runs' (Cursor.noting noted place)
    simp only [failed]
    rfl
  | some pair =>
    simp only [eq_of_branch_some runs' (Cursor.noting noted place)]
    rfl

/-- Changing the value changes nothing else. -/
theorem Runs.map (runs : Runs builder cursor ⟨result, place⟩) (change : α → β) :
    Runs (change <$> builder) cursor
      ⟨result.map fun (value, stop) => (change value, stop), place⟩ := by
  intro noted
  show andThen builder (fun value => pure (change value)) _ = _
  rw [andThen, runs noted]
  cases result <;> rfl

/-- The first alternative is taken where it builds a value. -/
theorem Runs.orElse_some (runs : Runs first cursor ⟨some (value, stop), place⟩) :
    Runs (first <|> second) cursor ⟨some (value, stop), place⟩ := by
  intro noted
  show otherwise first second _ = _
  rw [otherwise, runs noted]
  rfl

/-- The second alternative is tried where the first one builds nothing. -/
theorem Runs.orElse_none (runs : Runs first cursor ⟨none, place⟩)
    (runs' : Runs second cursor ⟨result, place'⟩) :
    Runs (first <|> second) cursor ⟨result, place.merge Cursor.further place'⟩ := by
  intro noted
  show otherwise first second _ = _
  rw [otherwise, runs noted, ← Cursor.noting_noting]
  exact runs' (Cursor.noting noted place)

/-! ## Loops -/

section Loops

variable {step : α → Builder α} {count : Nat}

theorem runs_stepsUpTo_zero (step : α → Builder α) (value : α) (cursor : Cursor) :
    Runs (stepsUpTo step 0 value) cursor ⟨some (value, cursor), none⟩ := runs_pure value cursor

/-- A loop turns on what a step leaves. -/
theorem stepsUpTo_succ (step : α → Builder α) (count : Nat) (value : α) (stance : Stance) :
    stepsUpTo step (count + 1) value stance =
      match step value stance with
      | (some next, stance) => stepsUpTo step count next stance
      | (none, stance) => (some value, stance) := by
  show andThen (otherwise (andThen (step value) fun next => pure (some next)) (pure none)) _ _ = _
  rw [andThen, otherwise, andThen]
  rcases step value stance with ⟨_ | next, stance⟩ <;> rfl

/-- A loop stops at a step that is refused. -/
theorem Runs.stepsUpTo_none (runs : Runs (step value) cursor ⟨none, place⟩) :
    Runs (stepsUpTo step (count + 1) value) cursor ⟨some (value, cursor), place⟩ := by
  intro noted
  rw [stepsUpTo_succ, runs noted]
  rfl

/-- A loop goes on behind a step that is taken. -/
theorem Runs.stepsUpTo_some {next final : α}
    (runs : Runs (step value) cursor ⟨some (next, middle), place⟩)
    (runs' : Runs (stepsUpTo step count next) middle ⟨some (final, stop), place'⟩) :
    Runs (stepsUpTo step (count + 1) value) cursor
      ⟨some (final, stop), place.merge Cursor.further place'⟩ := by
  intro noted
  rw [stepsUpTo_succ, runs noted, ← Cursor.noting_noting]
  exact runs' (Cursor.noting noted place)

theorem moving_eq (item : Builder α) :
    moving item = andThen here fun before => andThen item fun value => andThen here fun after =>
      andThen (ensure (before.offset < after.offset)) fun _ => pure value := rfl

/-- An item that is refused is no item that moves on. -/
theorem Runs.moving_none (runs : Runs builder cursor ⟨none, place⟩) :
    Runs (moving builder) cursor ⟨none, place⟩ := by
  intro noted
  rw [moving_eq]
  simp only [andThen, here, runs noted]
  rfl

/-- An item behind which the cursor is further on is one that moves on. -/
theorem Runs.moving_some (runs : Runs builder cursor ⟨some (value, stop), place⟩)
    (further : cursor.offset < stop.offset) :
    Runs (moving builder) cursor ⟨some (value, stop), place⟩ := by
  intro noted
  rw [moving_eq]
  simp only [andThen, here, runs noted, Option.map_some, Option.getD_some, ensure, further,
    decide_true, if_true]
  rfl

end Loops

end Builder

end Likeness
