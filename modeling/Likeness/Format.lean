import Likeness.Document.Json
import Likeness.Document.Result
import Likeness.Document.Tree
import Likeness.Document.Yaml
import Likeness.Grammar.Parse
import Likeness.Listing
import Likeness.Table

/-!
# Output formats

Every kind of result has formats of its own; a format is asked for by name. Formats of syntax trees
are kept in a registry that can be added to.
-/

namespace Likeness

/-- A way to write a result. -/
inductive OutputFormat where
  | table
  | treeviz
  | simple
  | json
  | yaml
deriving DecidableEq, Repr

/-- A kind of result. -/
inductive Target where
  | report
  | tree
  | tokens
deriving DecidableEq, Repr

/-- Why a format cannot be used. -/
inductive FormatError where
  | unknown (name : String)
  | unsupported (format : OutputFormat) (target : Target)
deriving DecidableEq, Repr

namespace OutputFormat

/-- The name that a format is asked for by. -/
def name : OutputFormat → String
  | .table => "table"
  | .treeviz => "treeviz"
  | .simple => "simple"
  | .json => "json"
  | .yaml => "yaml"

/-- All formats. -/
def all : List OutputFormat := [.table, .treeviz, .simple, .json, .yaml]

/-- The format with a name. -/
def ofName (name : String) : Except FormatError OutputFormat :=
  match all.find? fun format => format.name == name with
  | some format => .ok format
  | none => .error (.unknown name)

end OutputFormat

namespace Target

/-- What a kind of result is called in messages. -/
def name : Target → String
  | .report => "comparison reports"
  | .tree => "syntax trees"
  | .tokens => "tokens"

/-- The formats of a kind of result. -/
def formats : Target → List OutputFormat
  | .report => [.table, .json, .yaml]
  | .tree => [.treeviz, .json, .yaml]
  | .tokens => [.simple, .json]

/-- The format with a name, if it is one of this kind of result. -/
def format (target : Target) (name : String) : Except FormatError OutputFormat :=
  match OutputFormat.ofName name with
  | .error fault => .error fault
  | .ok format =>
    if target.formats.contains format then .ok format else .error (.unsupported format target)

end Target

/-- What is wrong, in words. -/
def FormatError.message : FormatError → String
  | .unknown name => "unknown output format '" ++ name ++ "'"
  | .unsupported format target =>
    "format '" ++ format.name ++ "' is not available for " ++ target.name

/-- Write a comparison. The threshold decides what is a near duplicate. -/
def formatReport (similarity : Similarity) (format : OutputFormat) (style : TableStyle)
    (threshold : Binary64) : Except FormatError String :=
  match format with
  | .table => .ok (Table.renderReport style threshold similarity)
  | .json => .ok (Json.render (similarity.reportDocument threshold))
  | .yaml => .ok (Yaml.render (similarity.reportDocument threshold))
  | .treeviz | .simple => .error (.unsupported format .report)

/-- A token on a line of its own: where it starts, its kind and its text. -/
def Token.line (token : Token) : String :=
  token.location.start.render ++ " " ++ token.render ++ "\n"

/-- Write tokens. -/
def formatTokens (tokens : List Token) (format : OutputFormat) : Except FormatError String :=
  match format with
  | .simple => .ok (String.join (tokens.map Token.line))
  | .json => .ok (Json.render (.list (tokens.map Token.document)))
  | .table | .treeviz | .yaml => .error (.unsupported format .tokens)

/-- Why a registry does not write a tree. -/
inductive RegistryError where
  | notFound (name : String)
  | serialization (reason : String)
deriving DecidableEq, Repr

/-- What is wrong, in words. -/
def RegistryError.message : RegistryError → String
  | .notFound name => "format '" ++ name ++ "' not found"
  | .serialization reason => "serialization error: " ++ reason

/-- A format for syntax trees. -/
structure TreeFormatter where
  name : String
  description : String
  write : SyntaxTree → Except RegistryError String

namespace TreeFormatter

/-- The indented listing. -/
def treeviz : TreeFormatter :=
  ⟨"treeviz", "Indented one-line-per-node listing", fun tree => .ok (Listing.render tree)⟩

/-- The tree as JSON. -/
def json : TreeFormatter :=
  ⟨"json", "Syntax tree as JSON", fun tree => .ok (Json.render tree.document)⟩

/-- The tree as YAML, with the fields of every record in order of their names. -/
def yaml : TreeFormatter :=
  ⟨"yaml", "Syntax tree as YAML", fun tree => .ok (Yaml.render tree.document.sorted)⟩

/-- The formats that are built in. -/
def builtIn : List TreeFormatter := [treeviz, json, yaml]

end TreeFormatter

/-- Formats for syntax trees in order of their names. -/
structure Registry where
  formatters : List TreeFormatter

namespace Registry

/-- No formats. -/
def empty : Registry := ⟨[]⟩

/-- Put a formatter in its place, instead of one with the same name. -/
def insert (formatter : TreeFormatter) : List TreeFormatter → List TreeFormatter
  | [] => [formatter]
  | other :: rest =>
    if formatter.name < other.name then formatter :: other :: rest
    else if formatter.name = other.name then formatter :: rest
    else other :: insert formatter rest

/-- Add a formatter, instead of one with the same name. -/
def register (registry : Registry) (formatter : TreeFormatter) : Registry :=
  ⟨insert formatter registry.formatters⟩

/-- The formats that are built in. -/
def standard : Registry := TreeFormatter.builtIn.foldl register empty

/-- The formatter with a name. -/
def get? (registry : Registry) (name : String) : Option TreeFormatter :=
  registry.formatters.find? fun formatter => formatter.name == name

/-- A formatter that was put in its place is found by its name. -/
theorem find?_insert_self (formatter : TreeFormatter) (formatters : List TreeFormatter) :
    (insert formatter formatters).find? (·.name == formatter.name) = some formatter := by
  induction formatters with
  | nil => simp [insert]
  | cons other rest ih =>
    rw [insert]
    split
    · simp
    · split
      · simp
      · rename_i different
        simp [Ne.symm different, ih]

theorem get?_register_self (registry : Registry) (formatter : TreeFormatter) :
    (registry.register formatter).get? formatter.name = some formatter :=
  find?_insert_self formatter registry.formatters

/-- There is a formatter with a name. -/
def contains (registry : Registry) (name : String) : Bool := (registry.get? name).isSome

/-- The names of all formatters in ascending order. -/
def names (registry : Registry) : List String := registry.formatters.map TreeFormatter.name

/-- Write a tree in the format with a name. -/
def write (registry : Registry) (name : String) (tree : SyntaxTree) :
    Except RegistryError String :=
  match registry.get? name with
  | some formatter => formatter.write tree
  | none => .error (.notFound name)

end Registry

/-- Write a tree. -/
def formatTree (tree : SyntaxTree) (format : OutputFormat) : Except FormatError String :=
  match Registry.standard.write format.name tree with
  | .ok text => .ok text
  | .error _ => .error (.unsupported format .tree)

end Likeness
