import Likeness.Proofs.Comparison.Identity
import Likeness.Proofs.Comparison.Listing
import Likeness.Proofs.Comparison.Soundness

/-!
# Rows tell how results are nested

A tree of results is listed depth first, and a result below the root has a row when it weighs
something. `Similarity.placesAt` gives all results with their depths, whether they have rows or not.
In a sound tree nothing below a result without weight weighs anything, so leaving out results one by
one leaves out whole parts of the tree. The rows of what is below a result are then the next rows
that are deeper than its own, up to the first one that is not: `Nested` states this of a list of
places, and is kept by adding the places of one more result in front of what does not go deeper. If
a result matches in full, so do all results below it, and the rows of these show no difference.
-/

namespace Likeness

namespace Similarity

/-! ## Places -/

/-- A result in a tree of results, with its depth. -/
structure Place where
  depth : Nat
  result : Similarity

mutual

/-- A result and all results below it, depth first. -/
def placesAt (depth : Nat) : Similarity → List Place
  | ⟨label, left, right, matched, total, children⟩ =>
    ⟨depth, ⟨label, left, right, matched, total, children⟩⟩ :: placesOfAll (depth + 1) children

/-- Several results and all results below them, depth first. -/
def placesOfAll (depth : Nat) : List Similarity → List Place
  | [] => []
  | result :: rest => placesAt depth result ++ placesOfAll depth rest

end

/-- All results of a tree of results. -/
def places (root : Similarity) : List Place := placesAt 0 root

namespace Place

/-- The results below the one at a place. -/
def below (place : Place) : List Place := placesOfAll (place.depth + 1) place.result.children

/-- A place has a row if it is the root or its result weighs something. -/
def isShown (place : Place) : Bool := place.depth = 0 || 0 < place.result.total

/-- The row of a place. -/
def row (place : Place) : Row := place.result.row place.depth

end Place

variable {root result : Similarity} {results : List Similarity} {place : Place}
  {places behind : List Place} {depth : Nat}

/-- The places of a result start with its own. -/
theorem placesAt_eq (depth : Nat) (result : Similarity) :
    placesAt depth result = ⟨depth, result⟩ :: Place.below ⟨depth, result⟩ := by
  cases result
  rfl

/-- The places of several results are those of each of them. -/
theorem mem_placesOfAll :
    place ∈ placesOfAll depth results ↔ ∃ result ∈ results, place ∈ placesAt depth result := by
  induction results with
  | nil => simp [placesOfAll]
  | cons result results ih => simp [placesOfAll, ih]

/-- What passes from a result to its parts passes to all places below it. -/
theorem forall_mem_placesAt {property : Similarity → Prop}
    (inherited : ∀ result, property result → ∀ child ∈ result.children, property child)
    (result : Similarity) :
    ∀ depth, property result → ∀ place ∈ placesAt depth result, property place.result := by
  induction result using Similarity.induction with
  | parts result ih =>
    intro depth holds place member
    rw [placesAt_eq] at member
    rcases List.mem_cons.1 member with rfl | member
    · exact holds
    · obtain ⟨child, part, member⟩ := mem_placesOfAll.1 member
      exact ih child part (depth + 1) (inherited result holds child part) place member

/-- What passes from a result to its parts passes to all places below its own. -/
theorem forall_mem_below {property : Similarity → Prop}
    (inherited : ∀ result, property result → ∀ child ∈ result.children, property child)
    (holds : property place.result) : ∀ inner ∈ place.below, property inner.result := by
  intro inner member
  refine forall_mem_placesAt inherited place.result place.depth holds inner ?_
  rw [placesAt_eq]
  exact .tail _ member

/-- No place is less deep than what it is listed for. -/
theorem depth_le_of_mem_placesAt (result : Similarity) :
    ∀ depth, ∀ place ∈ placesAt depth result, depth ≤ place.depth := by
  induction result using Similarity.induction with
  | parts result ih =>
    intro depth place member
    rw [placesAt_eq] at member
    rcases List.mem_cons.1 member with rfl | member
    · exact Nat.le_refl depth
    · obtain ⟨child, part, member⟩ := mem_placesOfAll.1 member
      exact Nat.le_of_succ_le (ih child part (depth + 1) place member)

/-- What is below a place is deeper. -/
theorem depth_lt_of_mem_below (inner : Place) (member : inner ∈ place.below) :
    place.depth < inner.depth := by
  obtain ⟨child, _, member⟩ := mem_placesOfAll.1 member
  exact depth_le_of_mem_placesAt child (place.depth + 1) inner member

/-! ## What a sound result passes on -/

/-- Nothing below a result without weight weighs anything. -/
theorem Sound.total_below_eq_zero (sound : place.result.Sound) (empty : place.result.total = 0) :
    ∀ inner ∈ place.below, inner.result.total = 0 := by
  have inherited (result : Similarity) (known : result.Sound ∧ result.total = 0) :
      ∀ child ∈ result.children, child.Sound ∧ child.total = 0 := by
    intro child part
    have covered := known.1.candid.covers child part
    exact ⟨known.1.parts child part, by omega⟩
  exact fun inner member => (forall_mem_below inherited ⟨sound, empty⟩ inner member).2

/-- Below a result that matches in full all results do. -/
theorem Sound.full_below (sound : place.result.Sound)
    (full : place.result.matched = place.result.total) :
    ∀ inner ∈ place.below, inner.result.Sound ∧ inner.result.matched = inner.result.total := by
  have inherited (result : Similarity) (known : result.Sound ∧ result.matched = result.total) :
      ∀ child ∈ result.children, child.Sound ∧ child.matched = child.total := by
    intro child part
    have bounded := (known.1.parts child part).candid.bounded
    have unmatched := known.1.candid.unmatched child part
    exact ⟨known.1.parts child part, by omega⟩
  exact forall_mem_below inherited ⟨sound, full⟩

theorem Sound.percentage_eq_iff (sound : result.Sound) :
    result.percentage = 100 ↔ result.matched = result.total :=
  FullWhen.percentage_eq_iff ⟨sound.candid.bounded, Iff.rfl⟩

/-- No percentage exceeds the whole. -/
theorem Sound.percentage_le (sound : result.Sound) : result.percentage ≤ 100 := by
  have bounded := sound.candid.bounded
  rw [percentage]
  split
  · exact Nat.le_refl 100
  · refine Nat.div_le_of_le_mul ?_
    omega

/-- A result that matches in full and weighs something stands for both sides. -/
theorem Sound.kind_ne_of_full (sound : result.Sound) (full : result.matched = result.total)
    (weighs : 0 < result.total) : result.kind ≠ .removed ∧ result.kind ≠ .inserted := by
  have oneSided := sound.candid.oneSided
  constructor
  · intro removed
    have none := oneSided (.inl removed)
    omega
  · intro inserted
    have none := oneSided (.inr inserted)
    omega

/-! ## Places that are shown -/

/-- What is below a place is never the root. -/
theorem isShown_of_mem_below {inner : Place} (member : inner ∈ place.below) :
    inner.isShown ↔ 0 < inner.result.total := by
  have deeper := depth_lt_of_mem_below inner member
  simp only [Place.isShown, Bool.or_eq_true, decide_eq_true_eq]
  omega

/-- A result that is not shown leaves out all results below it. -/
theorem filter_placesAt (sound : result.Sound) (depth : Nat) :
    (placesAt depth result).filter Place.isShown =
      if (Place.mk depth result).isShown then
        ⟨depth, result⟩ :: (Place.below ⟨depth, result⟩).filter Place.isShown
      else [] := by
  rw [placesAt_eq, List.filter_cons]
  split
  · rfl
  · rename_i hidden
    have empty : result.total = 0 := by
      simp only [Place.isShown, Bool.or_eq_true, decide_eq_true_eq] at hidden
      omega
    refine List.filter_eq_nil_iff.2 fun inner member => ?_
    have weightless : inner.result.total = 0 := Sound.total_below_eq_zero sound empty inner member
    rw [isShown_of_mem_below member, weightless]
    exact Nat.lt_irrefl 0

/-- Several results have the rows of the places that are shown, if this holds below each of them. -/
theorem rowsOfAll_of_each (depth : Nat) (sound : ∀ result ∈ results, result.Sound)
    (each : ∀ result ∈ results, rowsOfAll (depth + 2) result.children =
      ((Place.below ⟨depth + 1, result⟩).filter Place.isShown).map Place.row) :
    rowsOfAll (depth + 1) results =
      ((placesOfAll (depth + 1) results).filter Place.isShown).map Place.row := by
  induction results with
  | nil => rfl
  | cons result results ih =>
    obtain ⟨first, others⟩ := List.forall_mem_cons.1 sound
    obtain ⟨inFirst, inOthers⟩ := List.forall_mem_cons.1 each
    rw [rowsOfAll, placesOfAll, List.filter_append, List.map_append, ← ih others inOthers,
      filter_placesAt first]
    by_cases empty : result.total = 0
    · rw [if_pos empty, if_neg (by simp [Place.isShown, empty])]
      rfl
    · rw [if_neg empty, if_pos (by simp [Place.isShown, Nat.pos_of_ne_zero empty]), rowsAt_eq,
        inFirst]
      rfl

/-- The rows below a sound result are those of the places that are shown. -/
theorem rowsOfAll_eq (result : Similarity) :
    result.Sound → ∀ depth, rowsOfAll (depth + 1) result.children =
      ((Place.below ⟨depth, result⟩).filter Place.isShown).map Place.row := by
  induction result using Similarity.induction with
  | parts result ih =>
    intro sound depth
    exact rowsOfAll_of_each depth sound.parts fun child part =>
      ih child part (sound.parts child part) (depth + 1)

/-- The rows of a sound tree are those of the places that are shown. -/
theorem rows_eq (sound : root.Sound) :
    root.rows = (root.places.filter Place.isShown).map Place.row := by
  have shown : (Place.mk 0 root).isShown = true := rfl
  rw [rows, rowsAt_eq, rowsOfAll_eq root sound 0, places, filter_placesAt sound 0, if_pos shown]
  rfl

/-! ## Nesting -/

/-- Places that do not go deeper than some depth at their start. -/
def Shallow (depth : Nat) (places : List Place) : Prop :=
  ∀ place ∈ places.head?, place.depth ≤ depth

/-- Behind each place stand first the places that are shown below it, and then one that is not
deeper. -/
def Nested (places : List Place) : Prop :=
  ∀ place behind, place :: behind <:+ places →
    behind.takeWhile (fun next => place.depth < next.depth) = place.below.filter Place.isShown

/-- What is shown below a place is what is deeper behind it, up to what is not. -/
theorem takeWhile_below (shallow : Shallow place.depth behind) :
    (place.below.filter Place.isShown ++ behind).takeWhile
      (fun next => place.depth < next.depth) = place.below.filter Place.isShown := by
  have stops : behind.takeWhile (fun next => decide (place.depth < next.depth)) = [] := by
    cases behind with
    | nil => rfl
    | cons next behind =>
      have level := shallow next rfl
      rw [List.takeWhile_cons_of_neg (by simpa using level)]
  rw [List.takeWhile_append_of_pos, stops, List.append_nil]
  intro inner member
  simpa using depth_lt_of_mem_below inner (List.mem_filter.1 member).1

theorem nested_nil : Nested [] := by
  intro place behind suffix
  cases List.suffix_nil.1 suffix

/-- A place may stand in front of what is nested, if what is shown below it comes first. -/
theorem Nested.cons (nested : Nested places)
    (own : places.takeWhile (fun next => place.depth < next.depth) =
      place.below.filter Place.isShown) : Nested (place :: places) := by
  intro other behind suffix
  rcases List.suffix_cons_iff.1 suffix with same | suffix
  · cases same
    exact own
  · exact nested other behind suffix

/-- Results that are shown start at their depth. -/
theorem shallow_placesOfAll (sound : ∀ result ∈ results, result.Sound)
    (shallow : Shallow depth behind) :
    Shallow depth ((placesOfAll depth results).filter Place.isShown ++ behind) := by
  induction results with
  | nil => exact shallow
  | cons result results ih =>
    obtain ⟨first, others⟩ := List.forall_mem_cons.1 sound
    rw [placesOfAll, List.filter_append, filter_placesAt first]
    split
    · rintro _ ⟨⟩
      exact Nat.le_refl depth
    · exact ih others

/-- Several results may stand in front of what is nested and not deeper, if each of them may. -/
theorem nested_of_each (sound : ∀ result ∈ results, result.Sound)
    (each : ∀ result ∈ results, ∀ behind, Shallow depth behind → Nested behind →
      Nested ((placesAt depth result).filter Place.isShown ++ behind))
    (shallow : Shallow depth behind) (nested : Nested behind) :
    Nested ((placesOfAll depth results).filter Place.isShown ++ behind) := by
  induction results with
  | nil => exact nested
  | cons result results ih =>
    obtain ⟨_, others⟩ := List.forall_mem_cons.1 sound
    obtain ⟨inFirst, inOthers⟩ := List.forall_mem_cons.1 each
    rw [placesOfAll, List.filter_append, List.append_assoc]
    exact inFirst _ (shallow_placesOfAll others shallow) (ih others inOthers)

/-- A sound result may stand in front of what is nested and not deeper. -/
theorem nested_placesAt (result : Similarity) :
    result.Sound → ∀ depth behind, Shallow depth behind → Nested behind →
      Nested ((placesAt depth result).filter Place.isShown ++ behind) := by
  induction result using Similarity.induction with
  | parts result ih =>
    intro sound depth behind shallow nested
    rw [filter_placesAt sound]
    split
    · refine Nested.cons ?_ (takeWhile_below shallow)
      refine nested_of_each sound.parts (fun child part => ?_) ?_ nested
      · exact ih child part (sound.parts child part) (depth + 1)
      · exact fun place member => Nat.le_succ_of_le (shallow place member)
    · exact nested

theorem nested_places (sound : root.Sound) : Nested (root.places.filter Place.isShown) := by
  have nested := nested_placesAt root sound 0 [] nofun nested_nil
  rwa [List.append_nil] at nested

end Similarity

/-- In the results of two trees no percentage exceeds the whole, and it is the whole just when all
weight is matched. Then the results below that have rows are at the whole as well, and none stands
for one side only. The rows are those of the results in depth-first order, less those without
weight, which have nothing with weight below them; the row of the root is always there. Behind the
row of a result come the rows of the results below it, which are the ones deeper than it up to the
first that is not. -/
theorem full_rows_hide_nothing (left right : SyntaxTree) :
    let root := compare left right
    let shown := root.places.filter Similarity.Place.isShown
    (∀ place ∈ root.places,
      place.result.matched ≤ place.result.total ∧ place.result.percentage ≤ 100 ∧
      (place.result.percentage = 100 ↔ place.result.matched = place.result.total) ∧
      (place.result.percentage = 100 → ∀ inner ∈ place.below, inner.isShown →
        inner.result.percentage = 100 ∧ inner.result.kind ≠ .removed ∧
          inner.result.kind ≠ .inserted) ∧
      (place.result.total = 0 → ∀ inner ∈ place.below, inner.result.total = 0)) ∧
    root.rows = shown.map Similarity.Place.row ∧
    ∀ before place behind, shown = before ++ place :: behind →
      (behind.map Similarity.Place.row).takeWhile (fun row => place.depth < row.depth) =
        (place.below.filter Similarity.Place.isShown).map Similarity.Place.row := by
  intro root shown
  have sound : root.Sound := sounds_compare left right
  refine ⟨fun place member => ?_, Similarity.rows_eq sound, fun before place behind split => ?_⟩
  · have here : place.result.Sound := Similarity.forall_mem_placesAt
      (fun _ known => known.parts) root 0 sound place member
    refine ⟨here.candid.bounded, here.percentage_le, here.percentage_eq_iff, ?_,
      here.total_below_eq_zero⟩
    intro whole inner inside isShown
    obtain ⟨inSound, full⟩ := here.full_below (here.percentage_eq_iff.1 whole) inner inside
    have weighs := (Similarity.isShown_of_mem_below inside).1 isShown
    exact ⟨inSound.percentage_eq_iff.2 full, inSound.kind_ne_of_full full weighs⟩
  · have nested := Similarity.nested_places sound place behind ⟨before, split.symm⟩
    rw [List.takeWhile_map, ← nested]
    simp [Function.comp_def, Similarity.Place.row]

end Likeness
