import Likeness.Lexeme
import Likeness.Syntax.Statement

/-!
# Variable declarations

A declaration is a list of qualifiers, a type, a name and an optional initial value. Qualifiers keep
the order in which they are written.
-/

namespace Likeness

/-- A declaration modifier. -/
inductive Qualifier where
  | finalWord
  | staticWord
  | publicWord
  | protectedWord
  | privateWord
  | transientWord
  | volatileWord
deriving DecidableEq, Repr

namespace Qualifier

/-- The qualifier that a lexeme stands for. -/
def ofLexeme? : Lexeme → Option Qualifier
  | .finalKeyword => some .finalWord
  | .staticKeyword => some .staticWord
  | .publicKeyword => some .publicWord
  | .protectedKeyword => some .protectedWord
  | .privateKeyword => some .privateWord
  | .transientKeyword => some .transientWord
  | .volatileKeyword => some .volatileWord
  | _ => none

/-- How the qualifier is written. -/
def spelling : Qualifier → String
  | .finalWord => "final"
  | .staticWord => "static"
  | .publicWord => "public"
  | .protectedWord => "protected"
  | .privateWord => "private"
  | .transientWord => "transient"
  | .volatileWord => "volatile"

/-- The name of the qualifier in documents. -/
def name : Qualifier → String
  | .finalWord => "Final"
  | .staticWord => "Static"
  | .publicWord => "Public"
  | .protectedWord => "Protected"
  | .privateWord => "Private"
  | .transientWord => "Transient"
  | .volatileWord => "Volatile"

/-- The qualifier that a whole text stands for. -/
def ofSpelling? (text : String) : Option Qualifier :=
  (Lexeme.keywords.lookup text).bind ofLexeme?

instance : Node Qualifier where
  typeName _ := "Qualifier"
  label := spelling
  weight _ := 1

end Qualifier

/-- A variable with its type, its qualifiers and the value it starts with. -/
structure Declaration where
  qualifiers : List Qualifier
  typeText : String
  name : String
  initializer : Option Statement
deriving Repr

namespace Declaration

/-- The declaration on one line. -/
def label (declaration : Declaration) : String :=
  String.join (declaration.qualifiers.map fun qualifier => qualifier.spelling ++ " ")
    ++ declaration.typeText ++ " " ++ declaration.name
    ++ (match declaration.initializer with
        | some value => " = " ++ value.label
        | none => "")

/-- A declaration weighs one for each qualifier, one for its name, and its initial value. -/
def weight (declaration : Declaration) : Nat :=
  declaration.qualifiers.length + 1 + (declaration.initializer.map Statement.weight).getD 0

theorem weight_pos (declaration : Declaration) : 0 < declaration.weight := by
  simp only [weight]
  omega

instance : Node Declaration where
  typeName _ := "VariableDeclaration"
  label := label
  weight := weight

end Declaration

end Likeness
