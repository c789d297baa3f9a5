import Likeness.Settings.Toml

/-!
# Settings in layers

The built-in settings come first, files are laid over them in order, and single values that are set
by key win over all files. Tables are merged, anything else is replaced. Keys are known in lower
case.
-/

namespace Likeness

/-- What a run is set up with. -/
structure Settings where
  color : Bool
  labelWidth : Nat
  showGaps : Bool
  nearDuplicateThreshold : Binary64
  level : String
deriving DecidableEq, Repr

/-- Why there are no settings. -/
inductive SettingsError where
  | invalidType (fault : TypeFault)
  | invalidShape (message : String)
  | unreadableText
  | malformedKey
  | missingFile
deriving DecidableEq, Repr

/-- A part of the way to a setting. -/
inductive KeyStep where
  | name (name : String)
  | index (index : Int)
deriving DecidableEq, Repr

/-- One layer of settings. -/
inductive Layer where
  /-- A file, with its text if it is there. -/
  | file (text : Option String) (required : Bool)
  /-- A value that is set by key. -/
  | override (key : String) (value : Setting)

namespace KeyStep

/-- A character of a name in a key. -/
def isNameChar (char : Char) : Bool := char.isAlphanum || char = '_' || char = '-' || char = ' '

/-- A whole number in 64 bits, of which only a minus sign is written. -/
def readInteger (text : List Char) : Option (Int × List Char) :=
  let (negative, text) := match text with
    | '-' :: rest => (true, rest)
    | rest => (false, rest)
  let digits := text.takeWhile Char.isDigit
  let size : Int := Decimal.natOfDigits digits
  let value := if negative then -size else size
  if !digits.isEmpty && Whole.isSigned64 value then some (value, text.dropWhile Char.isDigit)
  else none

/-- An index between brackets and blanks, with its closing bracket. -/
def readIndex (text : List Char) : Option (Int × List Char) := do
  let (place, rest) ← readInteger (Toml.skipBlanks text)
  match Toml.skipBlanks rest with
  | ']' :: rest => some (place, rest)
  | _ => none

/-- The steps behind the first name of a key, at most `count` of them. -/
def readMore : Nat → List Char → Option (List KeyStep)
  | _, [] => some []
  | 0, _ => none
  | count + 1, '.' :: rest =>
    let name := rest.takeWhile isNameChar
    if name.isEmpty then none
    else (readMore count (rest.dropWhile isNameChar)).map (.name (String.ofList name) :: ·)
  | count + 1, '[' :: rest => do
    let (place, rest) ← readIndex rest
    let more ← readMore count rest
    some (.index place :: more)
  | _, _ => none

/-- The steps of a key: a name, then names behind dots and indices between brackets. -/
def read (key : String) : Option (List KeyStep) :=
  let text := key.toList
  let name := text.takeWhile isNameChar
  if name.isEmpty then none
  else (readMore text.length (text.dropWhile isNameChar)).map (.name (String.ofList name) :: ·)

end KeyStep

namespace Setting

/-- The entries of a table; anything else has none. -/
def entries : Setting → List (String × Setting)
  | .table entries => entries
  | _ => []

/-- The items of a list; anything else has none. -/
def items : Setting → List Setting
  | .array items => items
  | _ => []

mutual

/-- Lay a setting over an entry of a table. A table is laid over entry by entry. -/
def layEntry (name : String) (target : Setting) : Setting → Setting
  | .table entries =>
    let inner := (target.entries.lookup (Text.lowerCase name)).getD (.table [])
    .table (putEntry (Text.lowerCase name) (layEntries inner entries) target.entries)
  | setting => .table (putEntry (Text.lowerCase name) setting target.entries)

/-- Lay several entries over a table, in order. -/
def layEntries (target : Setting) : List (String × Setting) → Setting
  | [] => target
  | (name, setting) :: rest => layEntries (layEntry name target setting) rest

end

/-- The place of an index in a list; a negative one counts from the end. -/
def placeOf (index : Int) (length : Nat) : Nat :=
  if index < 0 then (length : Int).toNat - index.natAbs else index.toNat

/-- Lay a setting over the one at the end of a path, making tables and lists on the way. -/
def layAt (value : Setting) : List KeyStep → Setting → Setting
  | [], target => target
  | [.name name], target => layEntry name target value
  | .name name :: more, target =>
    let inner := (target.entries.lookup (Text.lowerCase name)).getD (.table [])
    .table (putEntry (Text.lowerCase name) (layAt value more inner) target.entries)
  | .index index :: more, target =>
    let items := target.items
    let place := placeOf index items.length
    let items := items ++ List.replicate (place + 1 - items.length) .nothing
    let inner := items[place]?.getD .nothing
    let changed := match more with
      | [] => value
      | more => layAt value more inner
    .array (items.set place changed)

/-- Lay a setting over the one at a key of a file. A key that is no path is a name as it stands. -/
def layKey (target : Setting) (entry : String × Setting) : Setting :=
  match KeyStep.read entry.1 with
  | some path => layAt entry.2 path target
  | none => layEntry entry.1 target entry.2

end Setting

namespace Settings

/-- The settings that are built in. -/
def builtIn : Setting :=
  .table
    [ ("display", .table
        [("color", .boolean true), ("label_width", .integer 40), ("show_gaps", .boolean true)]),
      ("report", .table [("near_duplicate_threshold", .float (.ofDecimal false 7 (-1)))]),
      ("logging", .table [("level", .text "warn")]) ]

/-- Lay a file over the settings so far. -/
def layFile (target : Setting) (text : Option String) (required : Bool) :
    Except SettingsError Setting :=
  match text with
  | none => if required then .error .missingFile else .ok target
  | some text =>
    match Toml.read text with
    | none => .error .unreadableText
    | some entries => .ok (entries.foldl Setting.layKey target)

/-- Lay the files among some layers over the settings so far. -/
def layFiles (target : Setting) : List Layer → Except SettingsError Setting
  | [] => .ok target
  | .file text required :: rest => do layFiles (← layFile target text required) rest
  | .override .. :: rest => layFiles target rest

/-- Lay the single values among some layers over the settings so far. -/
def layOverrides (target : Setting) : List Layer → Setting
  | [] => target
  | .override key value :: rest =>
    layOverrides (((KeyStep.read key).map fun path => value.layAt path target).getD target) rest
  | .file .. :: rest => layOverrides target rest

/-- The key of a single value can be read. -/
def keyIsValid : Layer → Bool
  | .override key _ => (KeyStep.read key).isSome
  | .file .. => true

/-- All layers over the built-in settings. A key that cannot be read is reported before any file is
looked at. -/
def merge (layers : List Layer) : Except SettingsError Setting := do
  if layers.all keyIsValid then
    return layOverrides (← layFiles builtIn layers) layers
  else throw .malformedKey

/-- What a group of settings is expected to be, in words. -/
def expectation (group : String) : String :=
  match group with
  | "display" => "struct DisplayConfig"
  | "report" => "struct ReportConfig"
  | _ => "struct LoggingConfig"

/-- Convert a field of a group of settings, which is a table, or a list of its `count` fields in
order. A table may lack the field. -/
def field {α : Type} (group : String) (count : Nat) (target : Setting) (place : Nat)
    (name : String) (conversion : String → Setting → Except TypeFault α) :
    Except SettingsError (Option α) :=
  match target with
  | .table entries =>
    match entries.lookup name with
    | some setting => convert (group ++ "." ++ name) setting
    | none => .ok none
  | .array items =>
    match items[place]? with
    | some setting => convert (group ++ "[" ++ toString place ++ "]") setting
    | none => .error (.invalidShape ("invalid length " ++ toString items.length ++ ", expected "
        ++ expectation group ++ " with " ++ toString count
        ++ (if count = 1 then " element" else " elements")))
  | scalar => .error (.invalidShape ("invalid type: " ++ scalar.describe ++ ", expected "
      ++ expectation group))
where
  /-- Convert the setting at a key. -/
  convert (key : String) (setting : Setting) : Except SettingsError (Option α) :=
    ((conversion key setting).map some).mapError .invalidType

/-- What has to be there under a name. -/
def require {α : Type} (name : String) : Option α → Except SettingsError α
  | some value => .ok value
  | none => .error (.invalidShape ("missing field `" ++ name ++ "`"))

/-- The settings of a run from a table of them. In each group the fields that are there are
converted before one that is missing is reported. -/
def ofSetting (root : Setting) : Except SettingsError Settings := do
  let display ← require "display" (root.entries.lookup "display")
  let color ← field "display" 3 display 0 "color" Setting.toBoolean
  let labelWidth ← field "display" 3 display 1 "label_width" Setting.toNatural
  let showGaps ← field "display" 3 display 2 "show_gaps" Setting.toBoolean
  let color ← require "color" color
  let labelWidth ← require "label_width" labelWidth
  let showGaps ← require "show_gaps" showGaps
  let report ← require "report" (root.entries.lookup "report")
  let threshold ← field "report" 1 report 0 "near_duplicate_threshold" Setting.toFloat
  let threshold ← require "near_duplicate_threshold" threshold
  let logging ← require "logging" (root.entries.lookup "logging")
  let level ← field "logging" 1 logging 0 "level" Setting.toText
  let level ← require "level" level
  return ⟨color, labelWidth, showGaps, threshold, level⟩

/-- The settings of a run from its layers. -/
def load (layers : List Layer) : Except SettingsError Settings := do
  ofSetting (← merge layers)

end Settings

end Likeness
