import Likeness.Proofs.Comparison.Rows
import Likeness.Table

/-!
# The columns of a table

Without colour, a line of a table is a mark, a cell for the left label, a cell for the percentage and
what is left of the right label. The first three have the same width in every line: a label is cut
and padded by characters, and a percentage of at most the whole has at most three digits. The blanks
at the end of a line are dropped from all of it at once, but the sign behind the percentage is no
blank, so they are dropped from the right label only, with the gap in front of it if nothing else is
left.
-/

namespace Likeness

namespace Text

/-! ## Cutting and trimming -/

/-- A text is kept if it fits into a width. Otherwise as much of its start is kept as fits with an
ellipsis behind it. -/
inductive CutTo : Nat → List Char → List Char → Prop where
  | fits {width text} (short : text.length ≤ width) : CutTo width text text
  | marked {kept rest} (more : 1 < rest.length) :
      CutTo (kept.length + 1) (kept ++ rest) (kept ++ ['…'])
  | nothing {text} (more : text ≠ []) : CutTo 0 text []

/-- Blanks are dropped from the end of a text, and no blank is left there. -/
structure TrimsTo (text trimmed : List Char) : Prop where
  blanks : ∃ dropped, text = trimmed ++ dropped ∧ ∀ char ∈ dropped, isBlank char
  last : ∀ char ∈ trimmed.getLast?, isBlank char = false

/-- A text is cut as it has to be to fit. -/
theorem cutTo_fit (width : Nat) (text : String) :
    CutTo width text.toList (fit width text).toList := by
  rw [fit]
  split
  · exact .fits (by simpa using ‹_›)
  · rename_i long
    rw [← String.length_toList, Nat.not_le] at long
    split
    · rename_i none
      subst none
      exact .nothing (List.length_pos_iff.1 long)
    · rename_i some
      have kept : (text.toList.take (width - 1)).length + 1 = width := by
        rw [List.length_take]
        omega
      have rest : 1 < (text.toList.drop (width - 1)).length := by
        rw [List.length_drop]
        omega
      have cut : CutTo _ (text.toList.take (width - 1) ++ text.toList.drop (width - 1)) _ :=
        .marked rest
      rw [kept, List.take_append_drop] at cut
      simpa using cut

/-- The first character is dropped only if nothing is left behind it. -/
theorem dropBlankEnd_cons (char : Char) (rest : List Char) :
    dropBlankEnd (char :: rest) =
      if dropBlankEnd rest = [] then if isBlank char then [] else [char]
      else char :: dropBlankEnd rest := by
  rw [dropBlankEnd]
  split
  · rename_i none
    rw [none, if_pos rfl]
  · rename_i some
    rw [if_neg some]

/-- Blanks are dropped from the end of two texts together: from the first one only if nothing is left
of the second. -/
theorem dropBlankEnd_append (front back : List Char) :
    dropBlankEnd (front ++ back) =
      if dropBlankEnd back = [] then dropBlankEnd front else front ++ dropBlankEnd back := by
  induction front with
  | nil =>
    split
    · assumption
    · rfl
  | cons char front ih =>
    rw [List.cons_append, dropBlankEnd_cons, ih]
    by_cases none : dropBlankEnd back = []
    · rw [if_pos none, if_pos none, dropBlankEnd_cons]
    · have some : front ++ dropBlankEnd back ≠ [] := List.append_ne_nil_of_right_ne_nil _ none
      rw [if_neg none, if_neg none, if_neg some, List.cons_append]

/-- Nothing is dropped from a text that ends in something else. -/
theorem dropBlankEnd_concat {char : Char} (other : isBlank char = false) (front : List Char) :
    dropBlankEnd (front ++ [char]) = front ++ [char] := by
  have kept : dropBlankEnd [char] = [char] := by simp [dropBlankEnd, other]
  rw [dropBlankEnd_append, kept, if_neg (List.cons_ne_nil _ _)]

/-- The blanks at the end of a text are dropped. -/
theorem trimsTo_dropBlankEnd (text : List Char) : TrimsTo text (dropBlankEnd text) := by
  fun_induction dropBlankEnd text with
  | case1 => exact ⟨⟨[], rfl, nofun⟩, nofun⟩
  | case2 char rest none blank ih =>
    obtain ⟨⟨dropped, shape, blanks⟩, _⟩ := ih
    rw [none, List.nil_append] at shape
    exact ⟨⟨char :: dropped, by rw [shape]; rfl, List.forall_mem_cons.2 ⟨blank, blanks⟩⟩, nofun⟩
  | case3 char rest none other ih =>
    obtain ⟨⟨dropped, shape, blanks⟩, _⟩ := ih
    rw [none, List.nil_append] at shape
    refine ⟨⟨dropped, by rw [shape]; rfl, blanks⟩, ?_⟩
    rintro _ ⟨⟩
    simpa using other
  | case4 char rest some ih =>
    obtain ⟨⟨dropped, shape, blanks⟩, last⟩ := ih
    refine ⟨⟨dropped, congrArg (char :: ·) shape, blanks⟩, fun final member => last final ?_⟩
    obtain ⟨first, others, shape⟩ := List.exists_cons_of_ne_nil some
    rw [shape] at member ⊢
    rwa [List.getLast?_cons_cons] at member

end Text

namespace Table

/-! ## Lines -/

/-- The cells of a line. -/
structure Cells where
  mark : Char
  left : List Char
  percentage : List Char
  right : List Char

/-- The cells behind each other, with a blank behind the mark and behind the left label. -/
def Cells.line (cells : Cells) : List Char :=
  cells.mark :: ' ' :: (cells.left ++ ' ' :: (cells.percentage ++ cells.right))

/-- A text behind two blanks, if there is one. -/
def spaced (text : List Char) : List Char := if text.isEmpty then [] else ' ' :: ' ' :: text

/-- What the cells of a row show: a mark for what was removed or inserted; the indented left label,
cut to the width and padded on its right; the percentage, padded on its left; and the indented right
label, cut to the width and trimmed, behind two blanks if anything is left of it. -/
structure Cells.Shows (cells : Cells) (width : Nat) (row : Row) : Prop where
  mark : cells.mark = if row.kind = .removed then '-' else if row.kind = .inserted then '+' else ' '
  left : ∃ cut gap, Text.CutTo width (indented row.depth row.left).toList cut ∧
    cells.left = cut ++ List.replicate gap ' ' ∧ cells.left.length = width
  percentage : ∃ gap, cells.percentage = List.replicate gap ' ' ++
    Nat.toDigits 10 row.percentage ++ ['%'] ∧ cells.percentage.length = 4
  right : ∃ cut trimmed, Text.CutTo width (indented row.depth row.right).toList cut ∧
    Text.TrimsTo cut trimmed ∧ trimmed.length ≤ width ∧ cells.right = spaced trimmed

/-- The cells that a row is drawn with. -/
def cells (width : Nat) (row : Row) : Cells where
  mark := if row.kind = .removed then '-' else if row.kind = .inserted then '+' else ' '
  left := (Text.padRight width (Text.fit width (indented row.depth row.left))).toList
  percentage := (Text.padLeft 4 (toString row.percentage ++ "%")).toList
  right := spaced (Text.dropBlankEnd (Text.fit width (indented row.depth row.right)).toList)

/-- A percentage of at most the whole has three digits at most. -/
theorem length_percentage {percentage : Nat} (bounded : percentage ≤ 100) :
    (toString percentage ++ "%").length ≤ 4 := by
  have digits : (Nat.toDigits 10 percentage).length ≤ 3 :=
    (Nat.length_toDigits_le_iff (by decide) (by decide)).2 (by omega)
  have sign : "%".length = 1 := rfl
  rw [String.length_append, sign, Nat.toString_eq_repr, ← String.length_toList, Nat.toList_repr]
  omega

/-- The cells of a row show it, if its percentage is at most the whole. -/
theorem shows_cells (width : Nat) {row : Row} (bounded : row.percentage ≤ 100) :
    (cells width row).Shows width row where
  mark := rfl
  left := by
    have cut := Text.cutTo_fit width (indented row.depth row.left)
    refine ⟨_, width - (Text.fit width (indented row.depth row.left)).length, cut, ?_, ?_⟩
    · simp [cells, Text.padRight, Text.blanks]
    · have short := Text.length_fit_le width (indented row.depth row.left)
      rw [cells, String.length_toList, Text.length_padRight]
      omega
  percentage := by
    refine ⟨4 - (toString row.percentage ++ "%").length, ?_, ?_⟩
    · simp [cells, Text.padLeft, Text.blanks]
    · have short := length_percentage bounded
      rw [cells, String.length_toList, Text.length_padLeft]
      omega
  right := by
    have cut := Text.cutTo_fit width (indented row.depth row.right)
    have trims := Text.trimsTo_dropBlankEnd
      (Text.fit width (indented row.depth row.right)).toList
    refine ⟨_, _, cut, trims, ?_, by rw [cells]⟩
    obtain ⟨dropped, shape, _⟩ := trims.blanks
    have short := Text.length_fit_le width (indented row.depth row.right)
    rw [← String.length_toList, shape, List.length_append] at short
    omega

theorem toList_marker (kind : RowKind) : (marker kind).toList =
    [if kind = .removed then '-' else if kind = .inserted then '+' else ' '] := by
  cases kind <;> decide

/-- A line of a table without colour is made of the cells of its row. -/
theorem toList_renderRow (width : Nat) (showGaps : Bool) (row : Row) :
    (renderRow ⟨false, width, showGaps⟩ row).toList = (cells width row).line := by
  let left := (Text.padRight width (Text.fit width (indented row.depth row.left))).toList
  let right := (Text.fit width (indented row.depth row.right)).toList
  -- Everything up to the sign, which keeps the blanks in front of it from being dropped.
  let front := (cells width row).mark :: ' ' :: (left ++ ' ' ::
    (List.replicate (4 - (toString row.percentage ++ "%").length) ' ' ++
      (toString row.percentage).toList))
  have shape : (renderRow ⟨false, width, showGaps⟩ row).toList =
      Text.dropBlankEnd (front ++ ['%'] ++ [' ', ' '] ++ right) := by
    have sign : "%".toList = ['%'] := rfl
    have gap : "  ".toList = [' ', ' '] := rfl
    have blank : " ".toList = [' '] := rfl
    simp [renderRow, Text.trimEnd, toList_marker, sign, gap, blank, Text.padLeft, Text.blanks, front,
      left, right, cells]
  have whole : (cells width row).line = front ++ ['%'] ++ (cells width row).right := by
    have sign : "%".toList = ['%'] := rfl
    simp [Cells.line, cells, Text.padLeft, Text.blanks, front, left, sign]
  have rest : (cells width row).right = spaced (Text.dropBlankEnd right) := by rw [cells]
  have gap : Text.dropBlankEnd [' ', ' '] = [] := by decide
  have kept := Text.dropBlankEnd_concat (by decide : Text.isBlank '%' = false) front
  rw [shape, whole, rest, Text.dropBlankEnd_append, Text.dropBlankEnd_append, gap, if_pos rfl, kept]
  cases Text.dropBlankEnd right with
  | nil => exact (List.append_nil _).symm
  | cons first others =>
    rw [if_neg (List.cons_ne_nil _ _), List.append_assoc]
    rfl

/-- The percentage stands behind the mark, the left label and a blank behind each. -/
theorem Cells.Shows.take_drop_line {cells : Cells} {width : Nat} {row : Row}
    (shows : cells.Shows width row) : (cells.line.drop (width + 3)).take 4 = cells.percentage := by
  obtain ⟨_, _, _, _, wide⟩ := shows.left
  obtain ⟨_, _, four⟩ := shows.percentage
  have front : cells.line = (cells.mark :: ' ' :: (cells.left ++ [' '])) ++
      (cells.percentage ++ cells.right) := by
    simp [Cells.line]
  rw [front, List.drop_left' (by simp [wide]), List.take_left' four]

end Table

/-- The percentages in the rows of two trees are at most the whole. -/
theorem percentage_le_of_mem_rows {left right : SyntaxTree} {row : Row}
    (member : row ∈ (compare left right).rows) : row.percentage ≤ 100 := by
  have sound := sounds_compare left right
  rw [Similarity.rows_eq sound] at member
  obtain ⟨place, isPlace, rfl⟩ := List.mem_map.1 member
  have here : place.result.Sound := Similarity.forall_mem_placesAt (fun _ known => known.parts)
    _ 0 sound place (List.mem_filter.1 isPlace).1
  have same : place.row.percentage = place.result.percentage := by
    rw [Similarity.Place.row, Similarity.row]
    split <;> rfl
  exact same ▸ here.percentage_le

/-- Without colour, the table of two trees has a line for each row that is shown. Whatever its labels,
its depth and the width are, the line is made of cells that show the row, and the percentage stands
in the same four columns. -/
theorem table_lines_up (left right : SyntaxTree) (width : Nat) (showGaps : Bool) :
    let style : TableStyle := ⟨false, width, showGaps⟩
    ∃ lines : List Table.Cells,
      (Table.render style (compare left right)).toList =
        lines.flatMap (fun cells => cells.line ++ ['\n']) ∧
      List.Forall₂ (fun row cells => cells.Shows width row)
        ((compare left right).rows.filter (Table.isShown style)) lines ∧
      ∀ cells ∈ lines, (cells.line.drop (width + 3)).take 4 = cells.percentage := by
  intro style
  let rows := (compare left right).rows.filter (Table.isShown style)
  have shows : ∀ row ∈ rows, (Table.cells width row).Shows width row := fun row member =>
    Table.shows_cells width (percentage_le_of_mem_rows (List.mem_filter.1 member).1)
  refine ⟨rows.map (Table.cells width), ?_, ?_, List.forall_mem_map.2 fun row member => ?_⟩
  · have feed : "\n".toList = ['\n'] := rfl
    rw [Table.render, Table.renderRows, String.toList_join, List.flatMap_map, List.flatMap_map]
    simp only [String.toList_append, feed, Table.toList_renderRow, style]
    rfl
  · exact List.forall₂_map_right_iff.2 (List.forall₂_same.2 shows)
  · exact (shows row member).take_drop_line

-- A label that is cut, one of several bytes for a character, and a width without room for labels.
example :
    let left : SyntaxTree := ⟨[.statement (.reference "größer"), .statement (.reference "b")]⟩
    let right : SyntaxTree := ⟨[.statement (.reference "größer")]⟩
    Table.render ⟨false, 6, true⟩ (compare left right) =
        "  file    50%  file\n    grö… 100%    grö…\n-   b      0%\n" ∧
      Table.render ⟨false, 0, true⟩ (compare left right) = "    50%\n   100%\n-    0%\n" := by
  decide +kernel

end Likeness
