import Likeness.Proofs.Builder.Runs
import Likeness.Proofs.Grammar.Places
import Likeness.Proofs.Grammar.Turns

/-!
# What parsers make of a text, part by part

`Cursor.build` gives a parser all the tokens of a text from a cursor on. Where a parser is put
together from others, it can as well be built part by part: `Parser.Steady` states that a parser
leaves an end of its input, so that the tokens behind what it took are those which are cut off at
the place behind it, and a parser that follows makes of them what it makes from there on. The
furthest place that a whole comes to is the furthest that one of its parts does.
-/

namespace Likeness

/-! ## Parsers keep to their input -/

namespace Parser

variable {α β : Type} {taken taken' : Nat} {parser first second : Parser α}
  {continuation : α → Parser β}

section Outcomes

variable {input rest : List Piece} {reach : Option Nat} {value : α}

/-- A sequence fails where its first part does. -/
theorem bind_of_none (start : parser input = ⟨reach, none⟩) :
    (parser >>= continuation) input = ⟨reach, none⟩ := by
  show andThen parser continuation input = _
  rw [andThen, start]

/-- The second part of a sequence reads what the first one leaves. -/
theorem bind_of_some (start : parser input = ⟨reach, some (value, rest)⟩) :
    (parser >>= continuation) input =
      ⟨further reach (continuation value rest).reach, (continuation value rest).result⟩ := by
  show andThen parser continuation input = _
  rw [andThen, start]

/-- The second alternative reads what the first one does not. -/
theorem orElse_of_none (start : first input = ⟨reach, none⟩) :
    (first <|> second) input = ⟨further reach (second input).reach, (second input).result⟩ := by
  show otherwise first second input = _
  rw [otherwise, start]

/-- The first alternative is taken where it accepts something. -/
theorem orElse_of_some {result : α × List Piece} (start : first input = ⟨reach, some result⟩) :
    (first <|> second) input = ⟨reach, some result⟩ := by
  show otherwise first second input = _
  rw [otherwise, start]

end Outcomes

/-- A parser that leaves an end of its input, without what it takes at least, and comes to places
inside of it only. -/
structure Steady (taken : Nat) (parser : Parser α) : Prop where
  suffix : ∀ {input value rest}, (parser input).result = some (value, rest) →
    rest.length + taken ≤ input.length ∧ rest <:+ input
  within : ∀ {input count}, count ∈ (parser input).reach → count < 2 * input.length

/-- The further of two reaches is one of them. -/
theorem mem_of_mem_further {reach reach' : Option Nat} {count : Nat}
    (member : count ∈ further reach reach') : count ∈ reach ∨ count ∈ reach' := by
  cases reach <;> cases reach' <;> simp_all [further]
  omega

theorem steady_fail : Steady taken (fail : Parser α) where
  suffix accepted := by cases accepted
  within member := by cases member

theorem steady_pure (value : α) : Steady 0 (pure value : Parser α) where
  suffix accepted := by
    cases accepted
    exact ⟨Nat.le_refl _, List.suffix_rfl⟩
  within member := by cases member

theorem steady_ofOption (value : Option α) : Steady 0 (ofOption value) := by
  cases value with
  | none => exact steady_fail
  | some value => exact steady_pure value

theorem steady_accept (choose : Piece → Option α) : Steady 1 (accept choose) where
  suffix {input _ _} accepted := by
    cases input with
    | nil => cases accepted
    | cons piece rest =>
      rw [accept] at accepted
      split at accepted <;> cases accepted
      exact ⟨Nat.le_refl _, List.suffix_cons piece _⟩
  within {input _} member := by
    cases input with
    | nil => cases member
    | cons piece rest =>
      rw [accept] at member
      split at member <;> cases member
      rw [List.length_cons]
      omega

theorem steady_sign : Steady 0 sign where
  suffix {input _ _} accepted := by
    unfold sign at accepted
    split at accepted
    · cases accepted
      exact ⟨Nat.le_refl _, List.suffix_rfl⟩
    · split at accepted
      · split at accepted <;> cases accepted
        exact ⟨Nat.le_succ _, List.suffix_cons _ _⟩
      · cases accepted
        exact ⟨Nat.le_refl _, List.suffix_rfl⟩
  within {input _} member := by
    unfold sign at member
    split at member
    · cases member
    · rw [List.length_cons]
      split at member
      · split at member <;> cases member <;> omega
      · cases member

namespace Steady

theorem any (steady : Steady taken parser) : Steady 0 parser where
  suffix accepted := ⟨Nat.le_of_add_right_le (steady.suffix accepted).1, (steady.suffix accepted).2⟩
  within := steady.within

theorem bind (steady : Steady taken parser) (behind : ∀ value, Steady taken' (continuation value)) :
    Steady (taken + taken') (parser >>= continuation) where
  suffix {input _ _} accepted := by
    rcases start : parser input with ⟨reach, _ | ⟨value, middle⟩⟩
    · rw [bind_of_none start] at accepted
      cases accepted
    · rw [bind_of_some start] at accepted
      obtain ⟨fewer, suffix⟩ := steady.suffix (congrArg Outcome.result start)
      obtain ⟨fewer', suffix'⟩ := (behind value).suffix accepted
      exact ⟨by omega, suffix'.trans suffix⟩
  within {input _} member := by
    rcases start : parser input with ⟨reach, _ | ⟨value, middle⟩⟩
    · rw [bind_of_none start] at member
      exact steady.within (start ▸ member)
    · rw [bind_of_some start] at member
      have fewer := (steady.suffix (congrArg Outcome.result start)).1
      rcases mem_of_mem_further member with early | late
      · exact steady.within (start ▸ early)
      · have less := (behind value).within late
        omega

theorem map (steady : Steady taken parser) (change : α → β) : Steady taken (change <$> parser) :=
  steady.bind fun value => steady_pure (change value)

theorem of_map {change : α → β} (steady : Steady taken (change <$> parser)) :
    Steady taken parser where
  suffix {input value rest} accepted := by
    rcases start : parser input with ⟨reach, _ | ⟨found, left⟩⟩
    · rw [start] at accepted
      cases accepted
    · rw [start] at accepted
      cases accepted
      have changed : (change <$> parser) input = ⟨further reach none, some (change value, rest)⟩ :=
        bind_of_some start
      exact steady.suffix (congrArg Outcome.result changed)
  within {input count} member := by
    refine steady.within ?_
    rcases start : parser input with ⟨reach, _ | ⟨value, rest⟩⟩
    · have failed : (change <$> parser) input = ⟨reach, none⟩ := bind_of_none start
      rw [failed]
      rwa [start] at member
    · have changed : (change <$> parser) input = ⟨further reach none, some (change value, rest)⟩ :=
        bind_of_some start
      rw [changed, further_none_right]
      rwa [start] at member

theorem orElse (steady : Steady taken first) (steady' : Steady taken second) :
    Steady taken (first <|> second) where
  suffix {input _ _} accepted := by
    rcases start : first input with ⟨reach, _ | result⟩
    · rw [orElse_of_none start] at accepted
      exact steady'.suffix accepted
    · rw [orElse_of_some start] at accepted
      exact steady.suffix (start ▸ accepted)
  within {input _} member := by
    rcases start : first input with ⟨reach, _ | result⟩
    · rw [orElse_of_none start] at member
      rcases mem_of_mem_further member with early | late
      · exact steady.within (start ▸ early)
      · exact steady'.within late
    · rw [orElse_of_some start] at member
      exact steady.within (start ▸ member)

theorem many (steady : Steady taken parser) : Steady 0 (many parser) where
  suffix accepted := (unrolled _).suffix accepted
  within member := (unrolled _).within member
where
  unrolled (depth : Nat) : Steady 0 (unroll (repetition parser) depth) := by
    induction depth with
    | zero => exact steady_fail
    | succ depth ih =>
      refine Steady.orElse ?_ (steady_pure [])
      exact steady.any.bind fun first => ih.bind fun rest => steady_pure (first :: rest)

theorem progresses (steady : Steady 1 parser) : Progresses parser :=
  fun _ _ _ accepted => (steady.suffix accepted).1

end Steady

theorem steady_number : Steady 1 number := by
  have digits (negative : Bool) := (steady_accept (fun piece : Piece =>
    if piece.lexeme = .number then some piece.text else none)).bind fun text =>
      steady_ofOption (Literal.ofNumber? negative text)
  have number := steady_sign.bind digits
  rwa [Nat.zero_add] at number

end Parser

/-! ## What parsers make of a text, part by part -/

namespace Cursor

open Likeness.Parser

variable {α β : Type} {cursor middle stop : Cursor} {parser first second : Parser α}
  {continuation : α → Parser β} {taken taken' : Nat} {value : α} {spots : List Spot}
  {place : Option Cursor}

/-- The tokens that can be cut off from a cursor on. -/
def pieces (cursor : Cursor) : List Piece := (cursor.spots .skip).1.map Spot.piece

/-- What stands for a reach, among the tokens from a cursor on. -/
def placeAt (cursor : Cursor) (reach : Nat) : Cursor := cursor.placeOf (cursor.spots .skip).1 reach

theorem build_eq (cursor : Cursor) (parser : Parser α) :
    cursor.build parser =
      ⟨(parser cursor.pieces).result.map fun (value, rest) =>
          (value, cursor.placeAt (2 * rest.length)),
        (parser cursor.pieces).reach.map cursor.placeAt⟩ := rfl

theorem build_congr (same : first cursor.pieces = second cursor.pieces) :
    cursor.build first = cursor.build second := by
  rw [build_eq, build_eq, same]

/-- There are no more tokens than characters. -/
theorem length_pieces_le (cursor : Cursor) : cursor.pieces.length ≤ cursor.rest.length := by
  have bounded (count : Nat) (cursor : Cursor) :
      (scanUpTo .skip count cursor).1.length ≤ count := by
    induction count generalizing cursor with
    | zero => exact Nat.le_refl 0
    | succ count ih =>
      rw [scanUpTo]
      split
      · exact Nat.zero_le _
      · exact Nat.succ_le_succ (ih _)
  rw [pieces, List.length_map]
  exact bounded _ _

theorem placeAt_length (cursor : Cursor) : cursor.placeAt (2 * cursor.pieces.length) = cursor := by
  rw [placeAt, pieces, List.length_map]
  exact (Passes.stay cursor).placeOf_eq _

/-- The place of the further of two reaches is the further of their places. -/
theorem map_placeAt_further (cursor : Cursor) (reach reach' : Option Nat) :
    (Parser.further reach reach').map cursor.placeAt =
      (reach.map cursor.placeAt).merge Cursor.further (reach'.map cursor.placeAt) := by
  cases reach with
  | none => simp
  | some reach =>
    cases reach' with
    | none => simp
    | some reach' =>
      have later := further_placeOf (passes_spots .skip cursor) reach reach'
      exact congrArg some later.symm

/-- The tokens behind those that a parser took are the ones that are cut off from there on, and
their places are the same. -/
theorem pieces_placeAt {rest : List Piece} (suffix : rest <:+ cursor.pieces) :
    (cursor.placeAt (2 * rest.length)).pieces = rest ∧
      ∀ reach ≤ 2 * rest.length,
        (cursor.placeAt (2 * rest.length)).placeAt reach = cursor.placeAt reach := by
  obtain ⟨before, shape⟩ := suffix
  obtain ⟨front, back, split, rfl, rfl⟩ := List.map_eq_append_iff.1 shape.symm
  have passes := passes_spots .skip cursor
  rw [split] at passes
  obtain ⟨middle, passesFront, passesBack⟩ := passes.split
  have left := passesBack.spots_eq (scan_spots_eq_none cursor .skip)
  have here : cursor.placeAt (2 * (back.map Spot.piece).length) = middle := by
    rw [placeAt, split, List.length_map]
    exact passesFront.placeOf_eq back
  rw [here, pieces, left]
  refine ⟨rfl, fun reach within => ?_⟩
  rw [List.length_map] at within
  rw [placeAt, placeAt, left, split]
  exact (passesFront.placeOf_append within).symm

/-- What is built where a parser accepts nothing. -/
theorem build_of_none {reach : Option Nat} (outcome : parser cursor.pieces = ⟨reach, none⟩) :
    cursor.build parser = ⟨none, reach.map cursor.placeAt⟩ := by
  rw [build_eq, outcome]
  rfl

/-- What is built where a parser accepts something. -/
theorem build_of_some {reach : Option Nat} {rest : List Piece}
    (outcome : parser cursor.pieces = ⟨reach, some (value, rest)⟩) :
    cursor.build parser =
      ⟨some (value, cursor.placeAt (2 * rest.length)), reach.map cursor.placeAt⟩ := by
  rw [build_eq, outcome]
  rfl

/-- What a parser takes is not to come behind it. -/
theorem length_pieces_of_build (steady : Steady taken parser)
    (built : cursor.build parser = ⟨some (value, middle), place⟩) :
    middle.pieces.length + taken ≤ cursor.pieces.length := by
  rcases outcome : parser cursor.pieces with ⟨reach, _ | ⟨found, rest⟩⟩
  · rw [build_of_none outcome] at built
    cases built
  · rw [build_of_some outcome] at built
    cases built
    obtain ⟨fewer, suffix⟩ := steady.suffix (congrArg Outcome.result outcome)
    rw [(pieces_placeAt suffix).1]
    exact fewer

/-- What takes a token moves on. -/
theorem offset_lt_of_steady (steady : Steady 1 parser)
    (built : cursor.build parser = ⟨some (value, middle), place⟩) :
    cursor.offset < middle.offset := by
  rcases outcome : parser cursor.pieces with ⟨reach, _ | ⟨found, rest⟩⟩
  · rw [build_of_none outcome] at built
    cases built
  · rw [build_of_some outcome] at built
    cases built
    have fewer := (steady.suffix (congrArg Outcome.result outcome)).1
    have later : (cursor.placeAt (2 * cursor.pieces.length)).offset <
        (cursor.placeAt (2 * rest.length)).offset := by
      refine placeOf_lt (passes_spots .skip cursor) (by omega) ?_
      rw [pieces, List.length_map] at fewer
      omega
    rwa [placeAt_length] at later

/-- Where no token is left, a parser that takes one builds nothing and comes to no place. -/
theorem build_of_pieces_eq_nil (steady : Steady 1 parser) (empty : cursor.pieces = []) :
    cursor.build parser = ⟨none, none⟩ := by
  rcases outcome : parser cursor.pieces with ⟨_ | count, _ | ⟨value, rest⟩⟩
  · exact build_of_none outcome
  · have fewer := (steady.suffix (congrArg Outcome.result outcome)).1
    rw [empty] at fewer
    cases fewer
  · have within : count < 2 * cursor.pieces.length := steady.within (by rw [outcome]; rfl)
    rw [empty] at within
    cases within
  · have within : count < 2 * cursor.pieces.length := steady.within (by rw [outcome]; rfl)
    rw [empty] at within
    cases within

/-- Succeeding stays in place. -/
theorem build_pure (cursor : Cursor) (value : α) :
    cursor.build (pure value) = ⟨some (value, cursor), none⟩ := by
  show Built.mk (some (value, cursor.placeAt (2 * cursor.pieces.length))) none = _
  rw [placeAt_length]

/-- A sequence fails where its first part does. -/
theorem build_bind_none (start : cursor.build parser = ⟨none, place⟩) :
    cursor.build (parser >>= continuation) = ⟨none, place⟩ := by
  rcases outcome : parser cursor.pieces with ⟨reach, _ | ⟨found, rest⟩⟩
  · rw [build_of_none outcome] at start
    cases start
    exact build_of_none (bind_of_none outcome)
  · rw [build_of_some outcome] at start
    cases start

/-- The second part of a sequence is built where the first one stopped. -/
theorem build_bind_some (steady : Steady taken parser)
    (steady' : Steady taken' (continuation value))
    (start : cursor.build parser = ⟨some (value, middle), place⟩) :
    cursor.build (parser >>= continuation) =
      ⟨(middle.build (continuation value)).result,
        place.merge Cursor.further (middle.build (continuation value)).reached⟩ := by
  rcases outcome : parser cursor.pieces with ⟨reach, _ | ⟨found, rest⟩⟩
  · rw [build_of_none outcome] at start
    cases start
  · rw [build_of_some outcome] at start
    cases start
    obtain ⟨left, places⟩ := pieces_placeAt (steady.suffix (congrArg Outcome.result outcome)).2
    have reached : (continuation value rest).reach.map (placeAt (cursor.placeAt (2 * rest.length))) =
        (continuation value rest).reach.map cursor.placeAt :=
      Option.map_congr fun count member => places count (Nat.le_of_lt (steady'.within member))
    have behind : (parser >>= continuation) cursor.pieces =
        ⟨Parser.further reach (continuation value rest).reach, (continuation value rest).result⟩ :=
      bind_of_some outcome
    rw [build_eq (cursor.placeAt _), left, reached]
    rcases continued : continuation value rest with ⟨reach', _ | ⟨final, rest'⟩⟩
    · rw [continued] at behind
      rw [build_of_none behind, map_placeAt_further]
      rfl
    · rw [continued] at behind
      obtain ⟨_, suffix⟩ := steady'.suffix (congrArg Outcome.result continued)
      have place := places (2 * rest'.length) (Nat.mul_le_mul_left 2 suffix.length_le)
      rw [build_of_some behind, map_placeAt_further, ← place]
      rfl

/-- Changing the value changes nothing else. -/
theorem build_map (cursor : Cursor) (parser : Parser α) (change : α → β) :
    cursor.build (change <$> parser) =
      ⟨(cursor.build parser).result.map fun (value, stop) => (change value, stop),
        (cursor.build parser).reached⟩ := by
  rcases outcome : parser cursor.pieces with ⟨reach, _ | ⟨value, rest⟩⟩
  · rw [build_of_none outcome]
    exact build_of_none (bind_of_none outcome)
  · have changed : (change <$> parser) cursor.pieces =
        ⟨Parser.further reach none, some (change value, rest)⟩ := bind_of_some outcome
    rw [further_none_right] at changed
    rw [build_of_some outcome, build_of_some changed]
    rfl

/-- The first alternative is built where it is there. -/
theorem build_orElse_some {result : α × Cursor}
    (start : cursor.build first = ⟨some result, place⟩) :
    cursor.build (first <|> second) = ⟨some result, place⟩ := by
  rcases outcome : first cursor.pieces with ⟨reach, _ | ⟨found, rest⟩⟩
  · rw [build_of_none outcome] at start
    cases start
  · rw [build_of_some outcome] at start
    rw [build_of_some (orElse_of_some outcome), start]

/-- The second alternative is built where the first one is not there. -/
theorem build_orElse_none (start : cursor.build first = ⟨none, place⟩) :
    cursor.build (first <|> second) =
      ⟨(cursor.build second).result, place.merge Cursor.further (cursor.build second).reached⟩ := by
  rcases outcome : first cursor.pieces with ⟨reach, _ | ⟨found, rest⟩⟩
  · rw [build_of_none outcome] at start
    cases start
    rw [build_eq, orElse_of_none outcome, map_placeAt_further, build_eq]
  · rw [build_of_some outcome] at start
    cases start

/-- Zero or more items are always there. -/
theorem exists_build_many (cursor : Cursor) (item : Parser α) :
    ∃ items stop place, cursor.build (many item) = ⟨some (items, stop), place⟩ := by
  obtain ⟨reach, items, rest, outcome⟩ := exists_many item cursor.pieces
  exact ⟨items, _, _, build_of_some outcome⟩

/-- A loop stops where no item is there. -/
theorem build_many_none (steady : Steady 1 parser) (start : cursor.build parser = ⟨none, place⟩) :
    cursor.build (many parser) = ⟨some ([], cursor), place⟩ := by
  rw [steady.progresses.ends_many.turn, repetition, build_orElse_none (build_bind_none start),
    build_pure, Option.merge_none_right]

/-- A loop goes on behind an item. -/
theorem build_many_some {items : List α} {place' : Option Cursor} (steady : Steady 1 parser)
    (start : cursor.build parser = ⟨some (value, middle), place⟩)
    (others : middle.build (many parser) = ⟨some (items, stop), place'⟩) :
    cursor.build (many parser) =
      ⟨some (value :: items, stop), place.merge Cursor.further place'⟩ := by
  have more := build_map middle (many parser) fun rest => value :: rest
  rw [others] at more
  have turn : cursor.build (parser >>= fun first => (fun rest => first :: rest) <$> many parser) =
      ⟨some (value :: items, stop), place.merge Cursor.further place'⟩ := by
    rw [build_bind_some steady (steady.many.map _) start, more]
    rfl
  rw [steady.progresses.ends_many.turn]
  exact build_orElse_some turn

end Cursor

end Likeness
