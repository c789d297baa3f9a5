import Likeness.Proofs.Grammar.Failure
import Likeness.Proofs.Grammar.Progress
import Likeness.Session

/-!
# Noting places changes nothing that is built

The furthest place is a cell that all branches of a builder share, those that are dropped included,
and that any production could look into. None does: `Builder.runs_part`, which goes through all
productions, states what each of them builds, where it stops and which place it adds, and in none of
this what was noted before occurs. So what is built, and where the top cursor stands behind it, is
the same as in a session that notes no places, and the place noted in the end is the further one of
what was noted before and what is noted from the start of the text on.

No production takes a token without marking the place behind it, so that nothing is built past the
place that is noted.
-/

namespace Likeness

namespace Parser

variable {α : Type} {parser : Parser α} {input rest : List Piece} {value : α} {reach : Option Nat}

/-- A parser that takes a piece has come to the place behind the last one that it took. -/
theorem Uniform.exists_mem_reach (uniform : Uniform 1 parser)
    (outcome : parser input = ⟨reach, some (value, rest)⟩) :
    ∃ count ∈ reach, count ≤ 2 * rest.length := by
  have accepted : run parser input = some (value, rest) := congrArg Outcome.result outcome
  obtain ⟨fewer, taken, rfl⟩ := uniform.suffix accepted
  have nonempty : taken ≠ [] := by
    rintro rfl
    exact absurd fewer (Nat.not_succ_le_self _)
  obtain ⟨front, last, rfl⟩ := (List.eq_nil_or_concat' taken).resolve_left nonempty
  by_contra unreached
  have within : ∀ count ∈ reach, 2 * rest.length + 1 ≤ count := by
    intro count member
    by_contra less
    exact unreached ⟨count, member, by omega⟩
  -- Otherwise the last piece counts as one that is turned down, and so it is left.
  rw [List.append_assoc, List.singleton_append] at outcome
  have respected : (upTo last last rest rest 1).Respected 2 :=
    respected_upTo ⟨rfl, rfl, rfl⟩ Nat.one_pos fun _ => rfl
  have agree := uniform _ respected _ _ _ _ (Nat.lt_succ_self _) ⟨front, rfl, rfl, rfl⟩
    (by rw [outcome]; exact within)
  rw [outcome] at agree
  cases agree with
  | accepted _ _ _ related =>
    obtain ⟨left, _, shape, _⟩ := related
    have length := congrArg List.length shape
    simp only [List.length_append, List.length_cons] at length
    omega

/-- Every production that can be asked for takes a piece. -/
theorem uniform_part (kind : PartKind) : Uniform 1 (Part.parser kind) := by
  cases kind with
  | expression => exact Production.expression.uniform.map _
  | statement => exact Production.statement.uniform.map _
  | block => exact Production.block.uniform.map _
  | declaration => exact Production.declaration.uniform.map _
  | literal => exact Production.literal.uniform.map _
  | parameters => exact Production.parameters.uniform.map _
  | reference => exact Production.reference.uniform.map _

end Parser

namespace Cursor

variable {α : Type} {parser : Parser α} {cursor stop : Cursor} {value : α}

@[simp] theorem further_self (cursor : Cursor) : cursor.further cursor = cursor :=
  if_neg (Nat.lt_irrefl _)

@[simp] theorem further_ofSource (cursor : Cursor) (source : String) :
    cursor.further (ofSource source) = cursor :=
  if_neg (Nat.not_lt_zero _)

/-- A place that is not further than the start of a text is not further than any place. -/
@[simp] theorem further_further_ofSource (cursor other : Cursor) (source : String) :
    cursor.further ((ofSource source).further other) = cursor.further other := by
  by_cases start : 0 < other.offset
  · have later : (ofSource source).further other = other := if_pos start
    rw [later]
  · have first : (ofSource source).further other = ofSource source := if_neg start
    rw [first, further_ofSource, further, if_neg (by omega)]

/-- What is built does not end past the furthest place that an attempt came to. -/
theorem exists_reached (uniform : Parser.Uniform 1 parser)
    (built : (cursor.build parser).result = some (value, stop)) :
    ∃ place, (cursor.build parser).reached = some place ∧ stop.offset ≤ place.offset := by
  have passes := passes_spots .skip cursor
  rw [build] at built ⊢
  generalize (cursor.spots .skip).1 = spots at passes built ⊢
  cases outcome : parser (spots.map Spot.piece) with
  | mk reach result =>
    rw [outcome] at built
    obtain ⟨⟨found, rest⟩, rfl, same⟩ := Option.map_eq_some_iff.1 built
    obtain ⟨rfl, rfl⟩ := Prod.mk.inj same
    obtain ⟨count, rfl, less⟩ := uniform.exists_mem_reach outcome
    exact ⟨cursor.placeOf spots count, rfl, placeOf_le passes less⟩

end Cursor

namespace Session

/-- Noting a place changes only what is noted. -/
theorem record_eq (session : Session) (place : Cursor) :
    session.record place = { session with
      reach := if session.tracked then session.reach.further place else session.reach } := by
  rw [record]
  split <;> rfl

/-- What building a part does with a session: the top cursor moves behind the part, if there is one,
and the furthest place that was come to is noted, if places are noted. -/
theorem build_eq (session : Session) (kind : PartKind) :
    session.build kind =
      let built := session.top.build (Part.parser kind)
      (built.result.map Prod.fst,
        { session with
          top := (built.result.map Prod.snd).getD session.top
          reach := if session.tracked then
            session.reach.further (built.reached.getD session.reach) else session.reach }) := by
  simp only [build, stance, Builder.runs_part kind session.top _]
  cases session.tracked with
  | false => rfl
  | true =>
    cases (session.top.build (Part.parser kind)).reached with
    | none => simp
    | some place => rfl

/-- The same session, with places noted from a given one on. -/
def noting (session : Session) (reach : Cursor) : Session := { session with tracked := true, reach }

/-- The same session, with no places noted. -/
def silent (session : Session) : Session := { session with tracked := false }

/-- The part that is built, and where the top cursor stands behind it, are those of a session in
which no places are noted, whatever place is noted before. The place noted afterwards is the further
one of that place and the one that is noted from the start of the text on, and it is not in front of
the top cursor if a part is built. -/
theorem build_noting (session : Session) (kind : PartKind) (reach : Cursor) :
    let noted := (session.noting reach).build kind
    let unnoted := session.silent.build kind
    let fresh := (session.noting (.ofSource session.source)).build kind
    noted.1 = unnoted.1 ∧ noted.2.top = unnoted.2.top ∧
      noted.2.reach = reach.further fresh.2.reach ∧
      noted.2.reach.offset = max reach.offset fresh.2.reach.offset ∧
      (noted.1.isSome → noted.2.top.offset ≤ noted.2.reach.offset) := by
  -- All three runs of the production build the same and add the same place.
  have value : ((session.noting reach).build kind).1 = (session.silent.build kind).1 := by
    rw [build_eq, build_eq]
    rfl
  have top : ((session.noting reach).build kind).2.top = (session.silent.build kind).2.top := by
    rw [build_eq, build_eq]
    rfl
  have furthest : ((session.noting reach).build kind).2.reach = reach.further
      ((session.noting (.ofSource session.source)).build kind).2.reach := by
    simp only [build_eq, noting, if_true]
    cases (session.top.build (Part.parser kind)).reached <;> simp
  refine ⟨value, top, furthest, furthest ▸ Cursor.offset_further _ _, fun isSome => ?_⟩
  simp only [build_eq, noting, if_true] at isSome ⊢
  obtain ⟨⟨part, stop⟩, accepted⟩ := Option.isSome_iff_exists.1 (by simpa using isSome)
  obtain ⟨place, reached, further⟩ := Cursor.exists_reached (Parser.uniform_part kind) accepted
  rw [accepted, reached, Cursor.offset_further]
  exact Nat.le_trans further (Nat.le_max_right _ _)

/-- A dot that no name follows is noted, although only the name in front of it is built. -/
theorem build_noting_dot :
    let noted := ((start "a. ;" false).noting (.ofSource "a. ;")).build .reference
    noted.2.top.offset = 1 ∧ noted.2.reach.offset = 3 ∧
      noted.2.top.offset ≤ noted.2.reach.offset := by
  have built : (((start "a. ;" false).noting (.ofSource "a. ;")).build .reference).1.isSome := by
    decide +kernel
  refine ⟨by decide +kernel, by decide +kernel, ?_⟩
  exact (build_noting (start "a. ;" false) .reference _).2.2.2.2 built

end Session

end Likeness
