import Likeness.Number.Decimal
import Likeness.Number.Whole
import Likeness.Text.LowerCase
import Likeness.Text.Quoted

/-!
# Values of settings

A setting holds nothing, a scalar, a list or a table. What a place needs is converted from what it
is given where that makes sense: words such as `on` and `no` are truth values, truth values are
numbers, and scalars are texts.
-/

namespace Likeness

/-- What a setting holds. -/
inductive Setting where
  | nothing
  | boolean (value : Bool)
  | integer (value : Int)
  | float (value : Binary64)
  | text (value : String)
  | array (items : List Setting)
  | table (entries : List (String × Setting))
deriving Repr

/-- Replace the value at a name, or add it at the end. -/
def putEntry {α : Type} (name : String) (value : α) : List (String × α) → List (String × α)
  | [] => [(name, value)]
  | (other, old) :: rest =>
    if other = name then (name, value) :: rest else (other, old) :: putEntry name value rest

/-- A value that was put at a name is found there. -/
theorem lookup_putEntry_self {α : Type} (name : String) (value : α) (entries : List (String × α)) :
    (putEntry name value entries).lookup name = some value := by
  induction entries with
  | nil => simp [putEntry]
  | cons entry rest ih =>
    obtain ⟨key, old⟩ := entry
    by_cases same : key = name
    · simp [putEntry, same]
    · simp [putEntry, same, List.lookup_cons, ih, beq_eq_false_iff_ne.2 (Ne.symm same)]

/-- A value that is put at a name leaves other names alone. -/
theorem lookup_putEntry_of_ne {α : Type} {name other : String} (value : α)
    (entries : List (String × α)) (different : other ≠ name) :
    (putEntry name value entries).lookup other = entries.lookup other := by
  have apart := beq_eq_false_iff_ne.2 different
  induction entries with
  | nil => simp [putEntry, List.lookup_cons, apart]
  | cons entry rest ih =>
    obtain ⟨key, old⟩ := entry
    by_cases same : key = name
    · simp [putEntry, same, List.lookup_cons, apart]
    · simp [putEntry, same, List.lookup_cons, ih]

/-- A value that cannot be converted: what it is and what is needed, at a key. -/
structure TypeFault where
  key : String
  unexpected : String
  expected : String
deriving DecidableEq, Repr

/-- What is wrong, in words. -/
def TypeFault.message (fault : TypeFault) : String :=
  "invalid type: " ++ fault.unexpected ++ ", expected " ++ fault.expected

namespace Setting

/-- Numbers as texts are written out in full, with a fraction only where there is one. -/
def floatLayout : Decimal.Layout := ⟨.larger, none, none, false, false⟩

/-- A number in messages has a fraction if it is finite. -/
def floatMessageLayout : Decimal.Layout := ⟨.larger, none, none, true, false⟩

/-- Words for the truth values. -/
def truthWord? (word : String) : Option Bool :=
  if ["true", "on", "yes"].contains word then some true
  else if ["false", "off", "no"].contains word then some false
  else none

/-- A truth value: a number other than zero, or a word. -/
def toBoolean (key : String) (setting : Setting) : Except TypeFault Bool :=
  let fault (unexpected : String) : Except TypeFault Bool :=
    .error ⟨key, unexpected, "a boolean"⟩
  match setting with
  | .boolean value => .ok value
  | .integer value => .ok (value != 0)
  | .float value => .ok (!value.same (.zero false))
  | .text value =>
    let word := Text.lowerCase value
    match truthWord? word with
    | some truth => .ok truth
    | none =>
      if word = "1" then .ok true
      else if word = "0" then .ok false
      else fault ("string " ++ Text.quoted word)
  | .nothing => fault "unit value"
  | .array _ => fault "sequence"
  | .table _ => fault "map"

/-- Digits with an optional plus sign, within 64 bits. -/
def readNatural? (text : String) : Option Nat :=
  let digits := match text.toList with
    | '+' :: rest => rest
    | digits => digits
  let value := Decimal.natOfDigits digits
  if !digits.isEmpty && digits.all Char.isDigit && value ≤ Whole.greatest64 then some value
  else none

/-- A natural number: a truth value, a rounded number, or a text of digits or a word. -/
def toNatural (key : String) (setting : Setting) : Except TypeFault Nat :=
  let fault (unexpected expected : String) : Except TypeFault Nat :=
    .error ⟨key, unexpected, expected⟩
  match setting with
  | .boolean value => .ok value.toNat
  | .integer value =>
    if value < 0 then
      fault ("64-bit integer `" ++ toString value ++ "`") "an unsigned 64 bit or less integer"
    else .ok value.toNat
  | .float value => .ok (value.toNatClamped Whole.greatest64)
  | .text value =>
    match truthWord? (Text.lowerCase value) with
    | some truth => .ok truth.toNat
    | none =>
      match readNatural? value with
      | some number => .ok number
      | none => fault ("string " ++ Text.quoted value) "an integer"
  | .nothing => fault "unit value" "an integer"
  | .array _ => fault "sequence" "an integer"
  | .table _ => fault "map" "an integer"

/-- A number: a truth value, a whole number, or a text of a decimal or a word. -/
def toFloat (key : String) (setting : Setting) : Except TypeFault Binary64 :=
  let fault (unexpected : String) : Except TypeFault Binary64 :=
    .error ⟨key, unexpected, "a floating point"⟩
  match setting with
  | .boolean value => .ok (.ofNat value.toNat)
  | .integer value => .ok (.ofInt value)
  | .float value => .ok value
  | .text value =>
    match truthWord? (Text.lowerCase value) with
    | some truth => .ok (.ofNat truth.toNat)
    | none =>
      match Decimal.read value with
      | some number => .ok number
      | none => fault ("string " ++ Text.quoted value)
  | .nothing => fault "unit value"
  | .array _ => fault "sequence"
  | .table _ => fault "map"

/-- The text of a truth value. -/
def truthText (value : Bool) : String := if value then "true" else "false"

/-- A text, or a scalar written out. -/
def toText (key : String) (setting : Setting) : Except TypeFault String :=
  match setting with
  | .boolean value => .ok (truthText value)
  | .integer value => .ok (toString value)
  | .float value => .ok (floatLayout.render value)
  | .text value => .ok value
  | .nothing => .error ⟨key, "unit value", "a string"⟩
  | .array _ => .error ⟨key, "sequence", "a string"⟩
  | .table _ => .error ⟨key, "map", "a string"⟩

/-- What stands in the place of a table, in words. -/
def describe : Setting → String
  | .nothing => "unit value"
  | .boolean value => "boolean `" ++ truthText value ++ "`"
  | .integer value => "integer `" ++ toString value ++ "`"
  | .float value => "floating point `" ++ floatMessageLayout.render value ++ "`"
  | .text value => "string " ++ Text.quoted value
  | .array _ => "sequence"
  | .table _ => "map"

end Setting

end Likeness
