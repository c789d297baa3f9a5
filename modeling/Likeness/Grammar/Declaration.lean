import Likeness.Grammar.Statement
import Likeness.Syntax.Declaration

/-!
# Reading declarations

A declaration is a run of qualifiers, a type, a name and an optional initial value. A type is a
dotted name with optional type arguments and any number of array brackets; it is kept as one text in
a normal form.
-/

namespace Likeness.Parser

/-- The normal form of a type: arguments are separated by a comma and a blank. -/
def typeText (name : String) (arguments : Option (List String)) (arrays : Nat) : String :=
  let arguments :=
    match arguments with
    | some arguments => "<" ++ String.intercalate ", " arguments ++ ">"
    | none => ""
  name ++ arguments ++ String.join (List.replicate arrays "[]")

/-- A type. -/
def typeName : Parser String :=
  fix fun typeName => do
    let name ← dottedName
    let arguments ← optional (delimited .openChevron .closeChevron (separated .comma typeName))
    let arrays ← many (delimited .openBracket .closeBracket (pure ()))
    pure (typeText name arguments arrays.length)

/-- A qualifier. -/
def qualifier : Parser Qualifier := accept fun piece => Qualifier.ofLexeme? piece.lexeme

/-- A declaration without a semicolon behind it. -/
def openDeclaration : Parser Declaration := do
  let qualifiers ← many qualifier
  let type ← typeName
  let name ← word
  let initializer ← optional (do lexeme .assign; statement)
  pure ⟨qualifiers, type, name, initializer⟩

/-- A declaration with its semicolon. -/
def declaration : Parser Declaration := do
  let declared ← openDeclaration
  lexeme .semicolon
  pure declared

end Likeness.Parser
