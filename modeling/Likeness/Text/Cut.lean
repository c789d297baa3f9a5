/-!
# Cutting and padding text

Widths are counted in characters.
-/

namespace Likeness.Text

/-- Cut a text that is longer than `width` characters to `width`, with `mark` behind it. -/
def cutWithMark (width : Nat) (mark text : String) : String :=
  if text.length ≤ width then text else String.ofList (text.toList.take width) ++ mark

/-- Cut a text that is longer than `width` characters so that it fits with an ellipsis as its last
character. Nothing but the empty text fits a width of zero. -/
def fit (width : Nat) (text : String) : String :=
  if text.length ≤ width then text
  else if width = 0 then ""
  else String.ofList (text.toList.take (width - 1)) ++ "…"

/-- `count` blanks. -/
def blanks (count : Nat) : String := String.ofList (List.replicate count ' ')

/-- A text that is cut to fit is not too long. -/
theorem length_fit_le (width : Nat) (text : String) : (fit width text).length ≤ width := by
  unfold fit
  split
  · assumption
  · split
    · simp
    · have mark : "…".length = 1 := by decide
      simp [mark]
      omega

@[simp] theorem length_blanks (count : Nat) : (blanks count).length = count := by
  simp [blanks]

/-- Pad a text with blanks on the right up to `width` characters. -/
def padRight (width : Nat) (text : String) : String := text ++ blanks (width - text.length)

@[simp] theorem length_padRight (width : Nat) (text : String) :
    (padRight width text).length = max width text.length := by
  simp [padRight]
  omega

/-- Pad a text with blanks on the left up to `width` characters. -/
def padLeft (width : Nat) (text : String) : String := blanks (width - text.length) ++ text

@[simp] theorem length_padLeft (width : Nat) (text : String) :
    (padLeft width text).length = max width text.length := by
  simp [padLeft]
  omega

end Likeness.Text
