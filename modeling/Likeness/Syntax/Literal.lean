import Likeness.Number.Decimal
import Likeness.Syntax.Node

/-!
# Literals

Values written directly in a source text. The contents of strings and characters are kept exactly as
they stand between the quotes, escapes included.
-/

namespace Likeness

/-- A value written in a source text. -/
inductive Literal where
  | string (contents : String)
  | null
  | integer (value : Int) (long : Bool)
  | double (value : Binary64) (wide : Bool)
  | char (contents : String)
  | boolean (value : Bool)
deriving DecidableEq, Repr

namespace Literal

/-- Numbers in labels are written out in full from `0.0001` up to sixteen digits, always with a
fraction, and with a bare power of ten otherwise. -/
def doubleLayout : Decimal.Layout := ⟨.larger, some (-4), some 16, true, false⟩

/-- The name of the literal's kind. -/
def typeName : Literal → String
  | .string _ => "StringValue"
  | .null => "NullValue"
  | .integer .. => "IntegerValue"
  | .double .. => "DoubleValue"
  | .char _ => "CharValue"
  | .boolean _ => "BooleanValue"

/-- The literal as it is shown in listings. -/
def label : Literal → String
  | .string contents => "\"" ++ contents ++ "\""
  | .null => "null"
  | .integer value long => toString value ++ (if long then "L" else "")
  | .double value wide => doubleLayout.render value ++ (if wide then "" else "f")
  | .char contents => "'" ++ contents ++ "'"
  | .boolean value => if value then "true" else "false"

instance : Node Literal where
  typeName := typeName
  label := label
  weight _ := 1

/-- Two literals of one kind, whatever their values. -/
def sameKind : Literal → Literal → Bool
  | .string _, .string _ => true
  | .null, .null => true
  | .integer .., .integer .. => true
  | .double .., .double .. => true
  | .char _, .char _ => true
  | .boolean _, .boolean _ => true
  | _, _ => false

/-- Two literals of one kind with equal values. Doubles are compared by value, so that the two zeros
are the same. -/
def same : Literal → Literal → Bool
  | .string left, .string right => left == right
  | .null, .null => true
  | .integer left long, .integer right long' => left == right && long == long'
  | .double left wide, .double right wide' => left.same right && wide == wide'
  | .char left, .char right => left == right
  | .boolean left, .boolean right => left == right
  | _, _ => false

end Literal

end Likeness
