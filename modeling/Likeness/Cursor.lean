import Likeness.Position

/-!
# Cursors over a source text

A cursor is a place in a text: the characters still to come, the bytes already passed and the
position reached. Moving a cursor yields a new one, so an abandoned attempt leaves no trace.
-/

namespace Likeness

/-- The bytes that a list of characters takes. -/
def byteLength : List Char → Nat
  | [] => 0
  | char :: rest => char.utf8Size + byteLength rest

/-- A place in a text. -/
structure Cursor where
  rest : List Char
  offset : Nat
  position : Position
deriving DecidableEq, Repr

namespace Cursor

/-- The cursor before the first character of `source`. -/
def ofSource (source : String) : Cursor := ⟨source.toList, 0, .start⟩

/-- Nothing is left to read. -/
def atEnd (cursor : Cursor) : Bool := cursor.rest.isEmpty

/-- The text that has not been passed yet. -/
def remaining (cursor : Cursor) : String := String.ofList cursor.rest

/-- Move past `count` characters, or to the end if fewer are left. -/
def skip (cursor : Cursor) (count : Nat) : Cursor :=
  match count, cursor.rest with
  | 0, _ => cursor
  | _, [] => cursor
  | count + 1, char :: rest =>
    skip ⟨rest, cursor.offset + char.utf8Size, cursor.position.after char⟩ count

@[simp] theorem skip_zero (cursor : Cursor) : cursor.skip 0 = cursor := by
  rw [skip]

theorem skip_of_rest_eq_nil {cursor : Cursor} (count : Nat) (empty : cursor.rest = []) :
    cursor.skip count = cursor := by
  cases count <;> simp [skip, empty]

/-- Moving on starts with the first character. -/
theorem skip_succ {cursor : Cursor} {char : Char} {rest : List Char} (count : Nat)
    (shape : cursor.rest = char :: rest) :
    cursor.skip (count + 1) =
      skip ⟨rest, cursor.offset + char.utf8Size, cursor.position.after char⟩ count := by
  obtain ⟨_, offset, position⟩ := cursor
  subst shape
  rfl

/-- What is left after moving on is what was left without the characters passed. -/
@[simp] theorem rest_skip (cursor : Cursor) (count : Nat) :
    (cursor.skip count).rest = cursor.rest.drop count := by
  fun_induction skip cursor count with
  | case1 => simp
  | case2 _ _ empty => simp [empty]
  | case3 cursor count char rest shape ih => simp [shape, ih]

/-- Moving on twice is moving on once by both amounts. -/
theorem skip_add (cursor : Cursor) (first second : Nat) :
    cursor.skip (first + second) = (cursor.skip first).skip second := by
  fun_induction skip cursor first with
  | case1 => simp
  | case2 _ _ empty => simp [skip_of_rest_eq_nil _ empty]
  | case3 cursor count char rest shape ih =>
    rw [← ih, Nat.succ_add, skip_succ _ shape]

/-- The offset grows by the bytes of the characters passed. -/
theorem offset_skip (cursor : Cursor) (count : Nat) :
    (cursor.skip count).offset = cursor.offset + byteLength (cursor.rest.take count) := by
  fun_induction skip cursor count with
  | case1 => simp [byteLength]
  | case2 _ _ empty => simp [empty, byteLength]
  | case3 cursor count char rest shape ih => simp [shape, ih, byteLength, Nat.add_assoc]

/-- A cursor never moves back. -/
theorem offset_le_offset_skip (cursor : Cursor) (count : Nat) :
    cursor.offset ≤ (cursor.skip count).offset := by
  rw [offset_skip]
  omega

/-- How many of the leading characters it takes to cover `bytes` bytes: a character that is
covered in part counts whole. -/
def charactersCovering : Nat → List Char → Nat
  | 0, _ => 0
  | _, [] => 0
  | bytes + 1, char :: rest => charactersCovering (bytes + 1 - char.utf8Size) rest + 1

/-- Move past `bytes` bytes, rounded up to a character boundary and clamped to the end. -/
def advance (cursor : Cursor) (bytes : Nat) : Cursor :=
  cursor.skip (charactersCovering bytes cursor.rest)

/-- The characters that are counted cover the bytes, unless the text ends before. -/
theorem le_sum_charactersCovering (bytes : Nat) (text : List Char)
    (more : text.drop (charactersCovering bytes text) ≠ []) :
    bytes ≤ byteLength (text.take (charactersCovering bytes text)) := by
  fun_induction charactersCovering bytes text with
  | case1 => simp
  | case2 => simp at more
  | case3 bytes char rest ih =>
    have covered := ih (by simpa using more)
    simp only [List.take_succ_cons, byteLength]
    omega

/-- Advancing covers at least the bytes asked for, unless the text ends before. -/
theorem le_offset_advance {cursor : Cursor} {bytes : Nat}
    (more : (cursor.advance bytes).rest ≠ []) :
    cursor.offset + bytes ≤ (cursor.advance bytes).offset := by
  rw [advance, offset_skip]
  have covered := le_sum_charactersCovering bytes cursor.rest (by simpa [advance] using more)
  omega

/-- The stretch of text from one cursor to a later one. -/
def locationTo (cursor later : Cursor) : Location :=
  ⟨cursor.offset, later.offset, cursor.position, later.position⟩

/-- The further of two places in one text; the first one if they are the same. -/
def further (cursor other : Cursor) : Cursor :=
  if cursor.offset < other.offset then other else cursor

/-- The further of two places has the larger offset. -/
theorem offset_further (cursor other : Cursor) :
    (cursor.further other).offset = max cursor.offset other.offset := by
  unfold further
  split <;> omega

end Cursor

end Likeness
