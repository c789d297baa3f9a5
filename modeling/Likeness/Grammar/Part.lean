import Likeness.Builder.Expression
import Likeness.Grammar.Expression

/-!
# Parts of a source text

The productions that can be asked for one by one, and what they build.
-/

namespace Likeness

/-- A production. -/
inductive PartKind where
  | expression
  | statement
  | block
  | declaration
  | literal
  | parameters
  | reference
deriving DecidableEq, Repr

/-- What a production builds. -/
inductive Part where
  | expression (value : Expression)
  | statement (value : Statement)
  | block (value : Block)
  | declaration (value : Declaration)
  | literal (value : Literal)
  | parameters (items : List Statement)
  | reference (name : String)

namespace Part

/-- The builder of a production. -/
def builder : PartKind → Builder Part
  | .expression => .expression <$> Builder.expression
  | .statement => .statement <$> Builder.statement
  | .block => .block <$> Builder.block
  | .declaration => .declaration <$> Builder.declaration
  | .literal => .literal <$> Builder.literal
  | .parameters => .parameters <$> Builder.parameters
  | .reference => .reference <$> Builder.dottedName

/-- The parser of a production, which reads the same from a list of tokens. -/
def parser : PartKind → Parser Part
  | .expression => .expression <$> Parser.expression
  | .statement => .statement <$> Parser.statement
  | .block => .block <$> Parser.block
  | .declaration => .declaration <$> Parser.declaration
  | .literal => .literal <$> Parser.literal
  | .parameters => .parameters <$> Parser.parameters
  | .reference => .reference <$> Parser.dottedName

/-- The part on one line. -/
def label : Part → String
  | .expression value => value.label
  | .statement value => value.label
  | .block value => value.label
  | .declaration value => value.label
  | .literal value => value.label
  | .parameters items => (Statement.group items).label
  | .reference name => name

/-- The weight of the part. -/
def weight : Part → Nat
  | .expression value => value.weight
  | .statement value => value.weight
  | .block value => value.weight
  | .declaration value => value.weight
  | .literal _ => 1
  | .parameters items => (Statement.group items).weight
  | .reference _ => 1

end Part

/-- The part that a whole text is: the production starts at its first character and reaches its
end. -/
def Part.ofSource? (kind : PartKind) (source : String) : Option Part :=
  let (part, stance) := Part.builder kind ⟨.ofSource source, none⟩
  if stance.cursor.atEnd then part else none

end Likeness
