import Likeness.Number.Decimal

/-!
# Documents

Trees, results and tokens are written out as documents: values made of lists and of records whose
fields keep their order.
-/

namespace Likeness

/-- A value in a document. -/
inductive Datum where
  | null
  | boolean (value : Bool)
  | integer (value : Int)
  | number (value : Binary64)
  | text (value : String)
  | list (items : List Datum)
  | record (fields : List (String × Datum))
deriving Repr

namespace Datum

/-- A double as a value of a document. What is no finite number is left out as null. -/
def ofBinary64 : Binary64 → Datum
  | .finite negative mantissa exponent => .number (.finite negative mantissa exponent)
  | _ => .null

/-- A natural number as a value of a document. -/
def natural (value : Nat) : Datum := .integer value

/-- A text that may be missing. -/
def optionalText : Option String → Datum
  | some value => .text value
  | none => .null

mutual

/-- The same value with the fields of every record in ascending order. -/
def sorted : Datum → Datum
  | .list items => .list (sortedAll items)
  | .record fields =>
    .record ((sortedFields fields).mergeSort fun left right => decide (left.1 ≤ right.1))
  | other => other

/-- The same values with sorted records. -/
def sortedAll : List Datum → List Datum
  | [] => []
  | item :: rest => item.sorted :: sortedAll rest

/-- The same fields with sorted records in their values. -/
def sortedFields : List (String × Datum) → List (String × Datum)
  | [] => []
  | (name, value) :: rest => (name, value.sorted) :: sortedFields rest

end

end Datum

end Likeness
