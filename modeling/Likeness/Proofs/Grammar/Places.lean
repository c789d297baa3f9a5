import Likeness.Grammar.Expression
import Likeness.Grammar.Parse
import Likeness.Proofs.Token.Cutting

/-!
# The places that parsers come to

A parser counts the pieces that are left, and `Cursor.placeOf` finds the place in the text that such a
count stands for: the start, the place behind a token, or the place behind the trivia that follows
it. Each of them is come to when trivia is cut off as tokens, smaller counts stand for later places,
and the offset of a place is that of a token next to it.
-/

namespace Likeness

/-- A list can be cut in front of any number of its last items. -/
theorem exists_append_cons {α : Type} {items : List α} {count : Nat} (less : count < items.length) :
    ∃ front item behind, items = front ++ item :: behind ∧ behind.length = count := by
  induction items with
  | nil => contradiction
  | cons item items ih =>
    by_cases last : count = items.length
    · exact ⟨[], item, items, rfl, last.symm⟩
    · have less : count < items.length := by
        rw [List.length_cons] at less
        omega
      obtain ⟨front, other, behind, rfl, length⟩ := ih less
      exact ⟨item :: front, other, behind, rfl, length⟩

namespace Cursor

variable {cursor stop : Cursor} {spots : List Spot}

/-- A reach stands for the start if nothing was taken. Otherwise it stands for the place behind a
token, or behind the trivia that follows it, and counts the tokens from there on. -/
theorem placeOf_cases (passes : Passes .skip cursor spots stop) (reach : Nat) :
    (spots.length ≤ reach / 2 ∧ cursor.placeOf spots reach = cursor) ∨
      ∃ front spot rest middle, spots = front ++ spot :: rest ∧ rest.length = reach / 2 ∧
        Passes .skip cursor front middle ∧ middle.scan .skip = some spot ∧
        Passes .skip spot.next rest stop ∧
        cursor.placeOf spots reach = if reach % 2 = 1 then spot.after else spot.next := by
  by_cases untaken : spots.length ≤ reach / 2
  · refine .inl ⟨untaken, ?_⟩
    rw [placeOf, Nat.sub_eq_zero_of_le untaken]
    rfl
  · obtain ⟨front, spot, rest, rfl, length⟩ := exists_append_cons (Nat.lt_of_not_le untaken)
    obtain ⟨middle, passesFront, passesBack⟩ := passes.split
    cases passesBack with
    | cut cut passesRest =>
      refine .inr ⟨front, spot, rest, middle, rfl, length, passesFront, cut, passesRest, ?_⟩
      have taken : (front ++ spot :: rest).take ((front ++ spot :: rest).length - reach / 2) =
          front ++ [spot] := by
        rw [List.append_cons, List.take_left']
        simp only [List.length_append, List.length_cons, List.length_nil]
        omega
      rw [placeOf, taken, List.getLast?_concat]

/-- Behind a text that is passed there is nothing left just when all of it was taken. -/
theorem placeOf_zero (passes : Passes .skip cursor spots stop) :
    cursor.placeOf spots 0 = stop := by
  rcases placeOf_cases passes 0 with ⟨untaken, same⟩ | ⟨_, _, rest, _, _, length, _, _, passes, same⟩
  · cases List.length_eq_zero_iff.1 (Nat.le_zero.1 untaken)
    cases passes
    exact same
  · cases List.length_eq_zero_iff.1 length
    cases passes
    exact same

/-- In front of a token the text is not at its end. -/
theorem rest_ne_nil_of_scan {trivia : Trivia} {spot : Spot} (cut : cursor.scan trivia = some spot) :
    cursor.rest ≠ [] := fun empty => by
  rw [scan_eq_none_of_rest_eq_nil trivia empty] at cut
  contradiction

/-- The place in front of the tokens that are left is at the end only if none are. -/
theorem placeOf_atEnd (passes : Passes .skip cursor spots stop) {count : Nat}
    (within : count ≤ spots.length) (ended : (cursor.placeOf spots (2 * count)).rest = []) :
    count = 0 := by
  have half : 2 * count / 2 = count := by omega
  have none {place : Cursor} {rest : List Spot} (passes : Passes .skip place rest stop)
      (ended : place.rest = []) : rest = [] := by
    cases passes with
    | stay => rfl
    | cut cut _ => exact absurd ended (rest_ne_nil_of_scan cut)
  rcases placeOf_cases passes (2 * count) with
    ⟨untaken, same⟩ | ⟨_, spot, rest, _, _, length, _, _, passesRest, same⟩
  · rw [same] at ended
    rw [none passes ended] at within
    exact Nat.le_zero.1 within
  · rw [same, if_neg (by omega)] at ended
    rw [none passesRest ended, half] at length
    exact length.symm

/-- The tokens in front of a place are those that are not counted by its reach. -/
theorem countP_placeOf (passes : Passes .skip cursor spots stop) (reach : Nat) :
    (spots.map Spot.token).countP
        (fun token => token.location.first < (cursor.placeOf spots reach).offset) =
      spots.length - reach / 2 := by
  rcases placeOf_cases passes reach with
    ⟨untaken, same⟩ | ⟨front, spot, rest, middle, rfl, length, passesFront, cut, passesRest, same⟩
  · rw [same, Nat.sub_eq_zero_of_le untaken, List.countP_eq_zero]
    simp only [List.forall_mem_map, decide_eq_true_iff]
    exact fun spot member => Nat.not_lt.2 (passes.location_of_mem member).1
  · have bounds : middle.offset < (cursor.placeOf (front ++ spot :: rest) reach).offset ∧
        (cursor.placeOf (front ++ spot :: rest) reach).offset ≤ spot.next.offset := by
      have settled : spot.after.offset ≤ spot.next.offset :=
        (spot_of_scan cut).2 ▸ offset_le_settle _ _
      rw [same]
      split
      · exact ⟨offset_lt_of_scan cut, settled⟩
      · exact ⟨offset_lt_next_of_scan cut, Nat.le_refl _⟩
    have first : spot.token.location.first = middle.offset := by rw [(spot_of_scan cut).1]; rfl
    have taken : ∀ other ∈ front, other.token.location.first <
        (cursor.placeOf (front ++ spot :: rest) reach).offset := fun other member =>
      Nat.lt_trans (passesFront.location_of_mem member).2 bounds.1
    have left : ∀ other ∈ rest, ¬ other.token.location.first <
        (cursor.placeOf (front ++ spot :: rest) reach).offset := fun other member =>
      Nat.not_lt.2 (Nat.le_trans bounds.2 (passesRest.location_of_mem member).1)
    generalize (cursor.placeOf (front ++ spot :: rest) reach).offset = offset at bounds taken left ⊢
    have all : (front.map Spot.token).countP (fun token => token.location.first < offset) =
        (front.map Spot.token).length := by
      simpa [List.countP_eq_length] using taken
    have none : (rest.map Spot.token).countP (fun token => token.location.first < offset) = 0 := by
      simpa [List.countP_eq_zero] using left
    rw [List.map_append, List.map_cons, List.countP_append, List.countP_cons, all, none]
    simp only [first, bounds.1, decide_true, if_true, List.length_map, List.length_append,
      List.length_cons]
    omega

/-- The first place of all is the start. -/
theorem offset_le_placeOf (passes : Passes .skip cursor spots stop) (reach : Nat) :
    cursor.offset ≤ (cursor.placeOf spots reach).offset := by
  rcases placeOf_cases passes reach with
    ⟨_, same⟩ | ⟨_, spot, _, _, _, _, passesFront, cut, _, same⟩
  · exact Nat.le_of_eq (congrArg offset same.symm)
  · have start := passesFront.offset_le.1
    have behind := offset_lt_of_scan cut
    have next := offset_lt_next_of_scan cut
    rw [same]
    split <;> omega

/-- More tokens are in front of a later place. -/
theorem placeOf_lt (passes : Passes .skip cursor spots stop) {reach reach' : Nat}
    (less : reach / 2 < reach' / 2) (taken : reach / 2 < spots.length) :
    (cursor.placeOf spots reach').offset < (cursor.placeOf spots reach).offset := by
  refine Nat.lt_of_not_le fun back => ?_
  have fewer : (spots.map Spot.token).countP
        (fun token => token.location.first < (cursor.placeOf spots reach).offset) ≤
      (spots.map Spot.token).countP
        (fun token => token.location.first < (cursor.placeOf spots reach').offset) := by
    refine List.countP_mono_left fun token _ before => ?_
    simp only [decide_eq_true_iff] at before ⊢
    omega
  rw [countP_placeOf passes, countP_placeOf passes] at fewer
  omega

/-- The place behind a token is not past the trivia that follows it. -/
theorem placeOf_odd_le (passes : Passes .skip cursor spots stop) (count : Nat) :
    (cursor.placeOf spots (2 * count + 1)).offset ≤ (cursor.placeOf spots (2 * count)).offset := by
  rcases placeOf_cases passes (2 * count + 1) with
    ⟨untaken, same⟩ | ⟨front, spot, rest, _, shape, length, _, cut, _, same⟩
  · rcases placeOf_cases passes (2 * count) with ⟨_, same'⟩ | ⟨_, _, _, _, rfl, _⟩
    · exact Nat.le_of_eq (by rw [same, same'])
    · simp at untaken
      omega
  · rcases placeOf_cases passes (2 * count) with
      ⟨untaken, _⟩ | ⟨front', spot', rest', _, shape', length', _, _, _, same'⟩
    · simp [shape] at untaken
      omega
    · have halves : rest.length = rest'.length := by omega
      obtain ⟨_, tail⟩ := List.append_inj' (shape.symm.trans shape') (by simp [halves])
      cases tail
      rw [same, same', if_pos (by omega), if_neg (by omega), (spot_of_scan cut).2]
      exact offset_le_settle _ _

/-- A smaller reach stands for a place that is not in front. -/
theorem placeOf_le (passes : Passes .skip cursor spots stop) {reach reach' : Nat}
    (less : reach ≤ reach') :
    (cursor.placeOf spots reach').offset ≤ (cursor.placeOf spots reach).offset := by
  obtain same | odd | more : reach = reach' ∨ (reach % 2 = 0 ∧ reach' = reach + 1) ∨
      reach / 2 < reach' / 2 := by omega
  · exact Nat.le_of_eq (by rw [same])
  · obtain ⟨even, rfl⟩ := odd
    have half : 2 * (reach / 2) = reach := by omega
    exact half ▸ placeOf_odd_le passes (reach / 2)
  · rcases Nat.lt_or_ge (reach / 2) spots.length with taken | untaken
    · exact Nat.le_of_lt (placeOf_lt passes more taken)
    · rcases placeOf_cases passes reach' with ⟨_, same⟩ | ⟨_, _, _, _, rfl, length, _⟩
      · rw [same]
        exact offset_le_placeOf passes _
      · simp at untaken
        omega

/-- Moving on without passing a byte stays in place. -/
theorem skip_eq_self {count : Nat} (same : (cursor.skip count).offset = cursor.offset) :
    cursor.skip count = cursor := by
  rcases Nat.eq_zero_or_pos count with rfl | positive
  · exact skip_zero cursor
  · by_cases more : cursor.rest = []
    · exact skip_of_rest_eq_nil count more
    · exact absurd same (Nat.ne_of_gt (offset_lt_offset_skip positive more))

/-- Places with the same offset are the same. -/
theorem placeOf_eq_of_offset_eq (passes : Passes .skip cursor spots stop) {reach reach' : Nat}
    (less : reach < reach')
    (same : (cursor.placeOf spots reach').offset = (cursor.placeOf spots reach).offset) :
    cursor.placeOf spots reach' = cursor.placeOf spots reach := by
  rcases placeOf_cases passes reach with
    ⟨untaken, start⟩ | ⟨front, spot, rest, middle, rfl, length, _, cut, _, place⟩
  · rcases placeOf_cases passes reach' with ⟨_, start'⟩ | ⟨_, _, _, _, rfl, length', _⟩
    · rw [start, start']
    · simp at untaken
      omega
  · have taken : reach / 2 < (front ++ spot :: rest).length := by
      simp
      omega
    have halves : ¬reach / 2 < reach' / 2 := fun more =>
      absurd same (Nat.ne_of_lt (placeOf_lt passes more taken))
    rcases placeOf_cases passes reach' with
      ⟨untaken, _⟩ | ⟨front', spot', rest', _, shape', length', _, _, _, place'⟩
    · omega
    · have lengths : rest.length = rest'.length := by omega
      obtain ⟨_, tail⟩ := List.append_inj' shape' (by simp [lengths])
      cases tail
      -- One place stands in front of the trivia behind a token, the other behind it.
      rw [place, place', if_pos (by omega), if_neg (by omega), (spot_of_scan cut).2] at same
      rw [place, place', if_pos (by omega), if_neg (by omega), (spot_of_scan cut).2]
      exact (skip_eq_self same.symm).symm

/-- The further of two places has the smaller reach. -/
theorem further_placeOf (passes : Passes .skip cursor spots stop) (reach reach' : Nat) :
    (cursor.placeOf spots reach).further (cursor.placeOf spots reach') =
      cursor.placeOf spots (min reach reach') := by
  rw [further]
  rcases Nat.lt_or_ge reach' reach with less | less
  · rw [Nat.min_eq_right (Nat.le_of_lt less)]
    split
    · rfl
    · rename_i back
      exact placeOf_eq_of_offset_eq passes less
        (Nat.le_antisymm (placeOf_le passes (Nat.le_of_lt less)) (Nat.not_lt.1 back))
  · rw [if_neg (Nat.not_lt.2 (placeOf_le passes less)), Nat.min_eq_left less]

/-- In front of the last tokens stands the first of them. -/
theorem offset_placeOf_even {front rest : List Spot} {spot : Spot}
    (passes : Passes .skip cursor (front ++ spot :: rest) stop) :
    (cursor.placeOf (front ++ spot :: rest) (2 * rest.length + 2)).offset =
      spot.token.location.first := by
  rcases placeOf_cases passes (2 * rest.length + 2) with
    ⟨untaken, same⟩ | ⟨front', spot', rest', _, shape, length, _, _, passesRest, same⟩
  · cases front with
    | nil =>
      cases passes with
      | cut cut _ => rw [same, (spot_of_scan cut).1]; rfl
    | cons =>
      simp at untaken
      omega
  · have back : front ++ spot :: rest = (front' ++ [spot']) ++ rest' := by simp [shape]
    obtain ⟨_, rfl⟩ := List.append_inj' back (by simp; omega)
    cases passesRest with
    | cut cut _ =>
      rw [same, if_neg (by omega), (spot_of_scan cut).1]
      rfl

/-- Behind a token it ends. -/
theorem offset_placeOf_odd {front rest : List Spot} {spot : Spot}
    (passes : Passes .skip cursor (front ++ spot :: rest) stop) :
    (cursor.placeOf (front ++ spot :: rest) (2 * rest.length + 1)).offset =
      spot.token.location.stop := by
  rcases placeOf_cases passes (2 * rest.length + 1) with
    ⟨untaken, _⟩ | ⟨front', spot', rest', _, shape, length, _, cut, _, same⟩
  · simp at untaken
    omega
  · obtain ⟨_, tail⟩ := List.append_inj' shape (by simp; omega)
    cases tail
    rw [same, if_pos (by omega), (spot_of_scan cut).1]
    rfl

/-- The tokens that are left behind some of them tell the place behind those. -/
theorem Passes.placeOf_eq {front : List Spot} {middle : Cursor}
    (passes : Passes .skip cursor front middle) (back : List Spot) :
    cursor.placeOf (front ++ back) (2 * back.length) = middle := by
  have count : (front ++ back).length - 2 * back.length / 2 = front.length := by
    rw [List.length_append]
    omega
  have even : ¬2 * back.length % 2 = 1 := by omega
  rw [placeOf, count, List.take_left' rfl]
  simp only [if_neg even]
  clear count
  induction passes with
  | stay cursor => rfl
  | @cut cursor spot spots stop _ rest ih =>
    cases rest with
    | stay => rfl
    | cut _ _ =>
      rw [List.getLast?_cons_cons]
      rw [List.getLast?_eq_some_getLast (List.cons_ne_nil _ _)] at ih ⊢
      exact ih

/-- A place among the last tokens is found from in front of them. -/
theorem Passes.placeOf_append {front back : List Spot} {middle : Cursor}
    (passes : Passes .skip cursor front middle) {reach : Nat} (within : reach ≤ 2 * back.length) :
    cursor.placeOf (front ++ back) reach = middle.placeOf back reach := by
  by_cases untaken : reach = 2 * back.length
  · have all : back.length - 2 * back.length / 2 = 0 := by omega
    rw [untaken, passes.placeOf_eq, placeOf, all]
    rfl
  · have taken : back.take (back.length - reach / 2) ≠ [] := by
      simp only [ne_eq, List.take_eq_nil_iff, not_or]
      refine ⟨by omega, ?_⟩
      rintro rfl
      simp at within untaken
      omega
    have split : (front ++ back).take ((front ++ back).length - reach / 2) =
        front ++ back.take (back.length - reach / 2) := by
      rw [List.length_append, Nat.add_sub_assoc (by omega), List.take_length_add_append]
    rw [placeOf, placeOf, split, List.getLast?_append, List.getLast?_eq_some_getLast taken,
      Option.some_or]

/-- Every place is come to when trivia is kept, and so is the end from there. -/
theorem exists_passes_placeOf (passes : Passes .skip cursor spots stop)
    (settled : triviaLength .between cursor.rest = 0) (reach : Nat) :
    ∃ front back, Passes .keep cursor front (cursor.placeOf spots reach) ∧
      Passes .keep (cursor.placeOf spots reach) back stop := by
  rcases placeOf_cases passes reach with
    ⟨_, same⟩ | ⟨front, spot, rest, middle, rfl, _, passesFront, cut, passesRest, same⟩
  · obtain ⟨kept, passesKept, _⟩ := passes.exists_keep settled
    rw [same]
    exact ⟨[], kept, .stay cursor, passesKept⟩
  · have next : spot.next = spot.after.skipTrivia := (spot_of_scan cut).2
    obtain ⟨before, passesBefore, _⟩ := passesFront.exists_keep settled
    obtain ⟨gap, through, _⟩ := exists_passes_skipTrivia spot.after
    obtain ⟨behind, passesBehind, _⟩ :=
      passesRest.exists_keep (next ▸ triviaLength_skipTrivia spot.after)
    rw [← next] at through
    have upTo := passesBefore.append (.cut (scan_keep_of_skip cut) (.stay _))
    rw [same]
    split
    · exact ⟨_, _, upTo, through.append passesBehind⟩
    · exact ⟨_, _, upTo.append through, passesBehind⟩

end Cursor

/-! ## What is made of a text -/

/-- The place where the first token of a text can stand. -/
def sourceStart (source : String) : Cursor := (Cursor.ofSource source).skipTrivia

/-- The tokens of a text that are no trivia, with their places. -/
def sourceSpots (source : String) : List Spot := ((sourceStart source).spots .skip).1

/-- The place up to which a text can be cut into tokens. -/
def sourceStop (source : String) : Cursor := ((sourceStart source).spots .skip).2

theorem passes_source (source : String) :
    Cursor.Passes .skip (sourceStart source) (sourceSpots source) (sourceStop source) :=
  Cursor.passes_spots .skip _

/-- A text that has tokens is cut up to its end, and a parser sees the tokens that are no trivia. -/
theorem tokenize_eq_ok {source : String} {tokens : List Token} (cut : tokenize source = .ok tokens) :
    (sourceStop source).rest = [] ∧ Token.pieces tokens = (sourceSpots source).map Spot.piece ∧
      Token.significant tokens = (sourceSpots source).map Spot.token := by
  obtain ⟨kept, all, pieces, significant⟩ := Cursor.exists_spots_keep (Cursor.ofSource source)
  obtain ⟨ended, rfl⟩ := tokenize_eq_ok_iff.1 cut
  rw [all] at ended ⊢
  exact ⟨ended, pieces, significant⟩

/-- A text that is cut up to its end has tokens. -/
theorem exists_tokenize {source : String} (ended : (sourceStop source).rest = []) :
    ∃ tokens, tokenize source = .ok tokens := by
  obtain ⟨kept, all, _⟩ := Cursor.exists_spots_keep (Cursor.ofSource source)
  refine ⟨_, tokenize_eq_ok_iff.2 ⟨?_, rfl⟩⟩
  rw [all]
  exact ended

/-- Zero or more items are always there. -/
theorem Parser.exists_many {α : Type} (item : Parser α) (input : List Piece) :
    ∃ reach items rest, many item input = ⟨reach, some (items, rest)⟩ := by
  change ∃ reach items rest, otherwise _ (pure []) input = ⟨reach, some (items, rest)⟩
  rw [otherwise]
  split
  · rename_i reach result _
    exact ⟨reach, result.1, result.2, rfl⟩
  · exact ⟨_, _, _, rfl⟩

end Likeness
