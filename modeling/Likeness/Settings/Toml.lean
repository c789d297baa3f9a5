import Likeness.Number.Digit
import Likeness.Number.Whole
import Likeness.Settings.Value

/-!
# Reading settings from TOML

A text is read line by line into tables of settings. A key is given once, a table is opened by one
header, and what is written inline is closed. Values are nested and keys are dotted to a limited
depth. Dates are not read.
-/

namespace Likeness.Toml

/-- A reader of characters. -/
abbrev Reader (α : Type) := List Char → Option (α × List Char)

/-- A blank inside a line. -/
def isBlank (char : Char) : Bool := char = ' ' || char = '\t'

/-- A character that may stand in a comment or a text: a tab, or anything but controls. -/
def isAllowed (char : Char) : Bool :=
  char = '\t' || (0x20 ≤ char.toNat && char.toNat ≠ 0x7f)

/-- A character of a key without quotes. -/
def isBare (char : Char) : Bool := char.isAlphanum || char = '_' || char = '-'

/-- Pass over blanks. -/
def skipBlanks (text : List Char) : List Char := text.dropWhile isBlank

/-- A line feed, with or without a carriage return before it. -/
def newline? : List Char → Option (List Char)
  | '\n' :: rest => some rest
  | '\r' :: '\n' :: rest => some rest
  | _ => none

/-- Pass over the end of a line with its comment. The text may end there too. -/
def endOfLine? (text : List Char) : Option (List Char) :=
  let text :=
    match skipBlanks text with
    | '#' :: rest => rest.dropWhile isAllowed
    | rest => rest
  if text.isEmpty then some [] else newline? text

/-- Pass over blanks, line feeds and comments, at most `count` of them. -/
def skipLines : Nat → List Char → List Char
  | 0, text => text
  | count + 1, text =>
    match skipBlanks text with
    | '#' :: rest => skipLines count (rest.dropWhile isAllowed)
    | rest =>
      match newline? rest with
      | some rest => skipLines count rest
      | none => rest

/-- A character given by `count` hexadecimal digits. -/
def readCode (count : Nat) (text : List Char) : Option (Char × List Char) := do
  let digits := text.take count
  if digits.length < count then none
  else
    let code ← Digit.read 16 digits
    if code.isValidChar then some (Char.ofNat code, text.drop count) else none

/-- The character that a backslash stands for together with what follows it. -/
def readEscape : Reader Char
  | 'b' :: rest => some ('\x08', rest)
  | 't' :: rest => some ('\t', rest)
  | 'n' :: rest => some ('\n', rest)
  | 'f' :: rest => some ('\x0c', rest)
  | 'r' :: rest => some ('\r', rest)
  | '"' :: rest => some ('"', rest)
  | '\\' :: rest => some ('\\', rest)
  | 'u' :: rest => readCode 4 rest
  | 'U' :: rest => readCode 8 rest
  | _ => none

/-- The rest of a text between double quotes, at most `count` characters of it. -/
def readBasic : Nat → Reader (List Char)
  | 0, _ => none
  | count + 1, text =>
    match text with
    | '"' :: rest => some ([], rest)
    | '\\' :: rest => do
      let (char, rest) ← readEscape rest
      let (chars, rest) ← readBasic count rest
      some (char :: chars, rest)
    | char :: rest =>
      if isAllowed char then do
        let (chars, rest) ← readBasic count rest
        some (char :: chars, rest)
      else none
    | [] => none

/-- The rest of a text between single quotes. -/
def readPlain : Reader (List Char)
  | '\'' :: rest => some ([], rest)
  | char :: rest =>
    if isAllowed char then (readPlain rest).map fun (chars, rest) => (char :: chars, rest) else none
  | [] => none

/-- The end of a text over several lines: three quotes, with up to two more that belong to the
text. -/
def closing? (quote : Char) (text : List Char) : Option (List Char × List Char) :=
  let quotes := (text.takeWhile (· = quote)).length
  if quotes < 3 then none
  else
    let extra := min 2 (quotes - 3)
    some (List.replicate extra quote, text.drop (3 + extra))

/-- Pass over the blanks and line feeds behind a backslash that ends its line. -/
def continued? (count : Nat) (text : List Char) : Option (List Char) :=
  (newline? (skipBlanks text)).map (go count)
where
  /-- Pass over blank lines and the blanks before the next character. -/
  go : Nat → List Char → List Char
    | 0, text => text
    | count + 1, text =>
      match newline? (skipBlanks text) with
      | some rest => go count rest
      | none => skipBlanks text

/-- The rest of a text over several lines, at most `count` characters of it. Escapes are known
between double quotes only. -/
def readLong (quote : Char) : Nat → Reader (List Char)
  | 0, _ => none
  | count + 1, text =>
    match closing? quote text with
    | some result => some result
    | none =>
      match newline? text with
      | some rest => do
        let (chars, rest) ← readLong quote count rest
        some ('\n' :: chars, rest)
      | none =>
        match text with
        | [] => none
        | char :: rest =>
          if char = '\\' && quote = '"' then
            match continued? count rest with
            | some rest => readLong quote count rest
            | none => do
              let (char, rest) ← readEscape rest
              let (chars, rest) ← readLong quote count rest
              some (char :: chars, rest)
          else if isAllowed char then do
            let (chars, rest) ← readLong quote count rest
            some (char :: chars, rest)
          else none

/-- A text on one line, between either kind of quotes. -/
def readShortText (text : List Char) : Option (List Char × List Char) :=
  match text with
  | '"' :: rest => readBasic text.length rest
  | '\'' :: rest => readPlain rest
  | _ => none

/-- A text between quotes of any kind. A line feed right behind an opening of three quotes is not
part of the text. -/
def readText (text : List Char) : Option (List Char × List Char) :=
  match text with
  | '"' :: '"' :: '"' :: rest => readLong '"' text.length ((newline? rest).getD rest)
  | '\'' :: '\'' :: '\'' :: rest => readLong '\'' text.length ((newline? rest).getD rest)
  | _ => readShortText text

/-- A key without dots. -/
def readSimpleKey (text : List Char) : Option (String × List Char) :=
  match readShortText text with
  | some (chars, rest) => some (String.ofList chars, rest)
  | none =>
    let chars := text.takeWhile isBare
    if chars.isEmpty then none else some (String.ofList chars, text.dropWhile isBare)

/-- How deep values may be nested, and how many parts a key may have. -/
def depthLimit : Nat := 79

/-- A key with dots between its parts, at most `count` of them, with the blanks around it. -/
def readParts : Nat → Reader (List String)
  | 0, _ => none
  | count + 1, text => do
    let (first, rest) ← readSimpleKey (skipBlanks text)
    match skipBlanks rest with
    | '.' :: rest =>
      let (more, rest) ← readParts count rest
      some (first :: more, rest)
    | rest => some ([first], rest)

/-- A key has at most `count` parts. -/
theorem length_le_of_readParts {count : Nat} {text rest : List Char} {names : List String}
    (result : readParts count text = some (names, rest)) : names.length ≤ count := by
  induction count generalizing text rest names with
  | zero => simp [readParts] at result
  | succ count ih =>
    simp only [readParts, Option.bind_eq_bind, Option.bind_eq_some_iff] at result
    obtain ⟨⟨first, more⟩, _, result⟩ := result
    split at result
    · obtain ⟨⟨others, last⟩, behind, result⟩ := Option.bind_eq_some_iff.1 result
      have := ih behind
      simp only [Option.some.injEq, Prod.mk.injEq] at result
      obtain ⟨rfl, rfl⟩ := result
      simp only [List.length_cons]
      omega
    · simp only [Option.some.injEq, Prod.mk.injEq] at result
      obtain ⟨rfl, rfl⟩ := result
      simp

/-- A key with dots between its parts, with the blanks around it. -/
def readKey : Reader (List String) := readParts depthLimit

/-- A run of digits with single underscores between them, without the underscores. -/
def readDigits (isDigit : Char → Bool) : Reader (List Char)
  | digit :: '_' :: next :: rest =>
    if isDigit digit then
      if isDigit next then
        (readDigits isDigit (next :: rest)).map fun (digits, rest) => (digit :: digits, rest)
      else some ([digit], '_' :: next :: rest)
    else none
  | digit :: rest =>
    if isDigit digit then
      match readDigits isDigit rest with
      | some (digits, rest) => some (digit :: digits, rest)
      | none => some ([digit], rest)
    else none
  | [] => none

/-- Whole numbers are kept in 64 bits. -/
def integer? (value : Int) : Option Setting :=
  if Whole.isSigned64 value then some (.integer value) else none

/-- A whole number in another base. -/
def readBased (base : Nat) (text : List Char) : Option (Setting × List Char) := do
  let (digits, rest) ← readDigits (Digit.isIn base) text
  let value ← Digit.read base digits
  let setting ← integer? value
  some (setting, rest)

/-- The fraction of a number, if there is one. -/
def readFraction : Reader (List Char)
  | '.' :: rest => readDigits Char.isDigit rest
  | text => some ([], text)

/-- The exponent of a number, if there is one. -/
def readPower : Reader (Option Int)
  | mark :: rest =>
    if mark = 'e' || mark = 'E' then do
      let (negative, rest) := Decimal.splitSign rest
      let (digits, rest) ← readDigits Char.isDigit rest
      let power : Int := Decimal.natOfDigits digits
      some (some (if negative then -power else power), rest)
    else some (none, mark :: rest)
  | [] => some (none, [])

/-- A decimal number: a whole number unless it has a fraction or an exponent. A positive number
beyond the range of doubles is refused. -/
def readDecimal (negative : Bool) (text : List Char) : Option (Setting × List Char) := do
  let (whole, rest) ← readDigits Char.isDigit text
  if whole.length > 1 && whole.head? = some '0' then none
  else
    let (fraction, rest) ← readFraction rest
    let (power, rest) ← readPower rest
    if fraction.isEmpty && power.isNone then
      let size : Int := Decimal.natOfDigits whole
      let setting ← integer? (if negative then -size else size)
      some (setting, rest)
    else
      let number := Binary64.ofDecimal negative (Decimal.natOfDigits (whole ++ fraction))
        (power.getD 0 - fraction.length)
      if number = .infinite false then none else some (.float number, rest)

/-- A number with an optional sign. -/
def readNumber (text : List Char) : Option (Setting × List Char) :=
  match text with
  | '0' :: 'x' :: rest => readBased 16 rest
  | '0' :: 'o' :: rest => readBased 8 rest
  | '0' :: 'b' :: rest => readBased 2 rest
  | _ =>
    let (negative, rest) := Decimal.splitSign text
    match rest with
    | 'i' :: 'n' :: 'f' :: rest => some (.float (.infinite negative), rest)
    | 'n' :: 'a' :: 'n' :: rest => some (.float .nan, rest)
    | _ => readDecimal negative rest

/-- How a table came to be: as a step on the way to another, by its own header, or by dotted
keys. -/
inductive Origin where
  | passing
  | header
  | dotted
deriving DecidableEq, Repr

/-- What stands at a key while a text is being read: a value, a table that may still grow, or tables
in a list of which the last may grow. -/
inductive Entry where
  | value (setting : Setting)
  | table (origin : Origin) (entries : List (String × Entry))
  | tables (earlier : List (List (String × Entry))) (last : List (String × Entry))

/-- Give a value to a key with dots. The table that it is put into comes from dotted keys, unless
the key has no dots, and the key has no value yet. On the way there may be tables without a header
of their own, and the last ones of lists of tables. -/
def assign (setting : Setting) :
    List String → List (String × Entry) → Option (List (String × Entry))
  | [], _ => none
  | [name], entries =>
    match entries.lookup name with
    | none => some (putEntry name (.value setting) entries)
    | some _ => none
  | name :: more, entries =>
    match entries.lookup name with
    | none => (assign setting more []).map fun inner => putEntry name (.table .dotted inner) entries
    | some (.table .dotted inner) =>
      (assign setting more inner).map fun inner => putEntry name (.table .dotted inner) entries
    | some (.table .passing inner) =>
      match more with
      | _ :: _ :: _ =>
        (assign setting more inner).map fun inner =>
          putEntry name (.table .passing inner) entries
      | _ => none
    | some (.tables earlier last) =>
      match more with
      | _ :: _ :: _ =>
        (assign setting more last).map fun last => putEntry name (.tables earlier last) entries
      | _ => none
    | some _ => none

/-- Apply a change to the entries of the table at a path, making tables on the way. -/
def descend (change : List (String × Entry) → Option (List (String × Entry))) :
    List String → List (String × Entry) → Option (List (String × Entry))
  | [], entries => change entries
  | name :: more, entries =>
    match entries.lookup name with
    | none =>
      (descend change more []).map fun inner => putEntry name (.table .passing inner) entries
    | some (.table origin inner) =>
      (descend change more inner).map fun inner => putEntry name (.table origin inner) entries
    | some (.tables earlier last) =>
      (descend change more last).map fun last => putEntry name (.tables earlier last) entries
    | some (.value _) => none

/-- Open the table of a header: it is new, or was only passed on the way to another. -/
def openTable (name : String) (entries : List (String × Entry)) :
    Option (List (String × Entry)) :=
  match entries.lookup name with
  | none => some (putEntry name (.table .header []) entries)
  | some (.table .passing inner) => some (putEntry name (.table .header inner) entries)
  | some _ => none

/-- Open one more table in a list of them. -/
def openTables (name : String) (entries : List (String × Entry)) :
    Option (List (String × Entry)) :=
  match entries.lookup name with
  | none => some (putEntry name (.tables [] []) entries)
  | some (.tables earlier last) => some (putEntry name (.tables (earlier ++ [last]) []) entries)
  | some _ => none

mutual

/-- The setting of an entry. -/
def Entry.setting : Entry → Setting
  | .value setting => setting
  | .table _ entries => .table (settings entries)
  | .tables earlier last => .array (tableSettings earlier ++ [.table (settings last)])

/-- The settings of the entries of a table. -/
def settings : List (String × Entry) → List (String × Setting)
  | [] => []
  | (name, entry) :: rest => (name, entry.setting) :: settings rest

/-- The settings of several tables. -/
def tableSettings : List (List (String × Entry)) → List Setting
  | [] => []
  | entries :: rest => .table (settings entries) :: tableSettings rest

end

mutual

/-- A value with at most `levels` levels of nesting, of which nested parts take at most `count`
steps. -/
def readValue : Nat → Nat → Reader Setting
  | 0, _, _ => none
  | count + 1, levels, text =>
    match text with
    | '"' :: _ => (readText text).map fun (chars, rest) => (.text (String.ofList chars), rest)
    | '\'' :: _ => (readText text).map fun (chars, rest) => (.text (String.ofList chars), rest)
    | 't' :: 'r' :: 'u' :: 'e' :: rest => some (.boolean true, rest)
    | 'f' :: 'a' :: 'l' :: 's' :: 'e' :: rest => some (.boolean false, rest)
    | '[' :: rest =>
      if levels = 0 then none
      else do
        let (items, rest) ← readItems count (levels - 1) rest
        some (.array items, rest)
    | '\x7b' :: rest =>
      if levels = 0 then none
      else
        match skipBlanks rest with
        | '\x7d' :: rest => some (.table [], rest)
        | rest => do
          let (entries, rest) ← readFields count (levels - 1) [] rest
          some (.table (settings entries), rest)
    | _ => readNumber text

/-- The items of a list up to its end. -/
def readItems : Nat → Nat → Reader (List Setting)
  | 0, _, _ => none
  | count + 1, levels, text =>
    match skipLines text.length text with
    | ']' :: rest => some ([], rest)
    | text => do
      let (item, rest) ← readValue count levels text
      match skipLines rest.length rest with
      | ']' :: rest => some ([item], rest)
      | ',' :: rest =>
        let (items, rest) ← readItems count levels rest
        some (item :: items, rest)
      | _ => none

/-- The fields of an inline table up to its end, added to those before. -/
def readFields : Nat → Nat → List (String × Entry) → Reader (List (String × Entry))
  | 0, _, _, _ => none
  | count + 1, levels, entries, text => do
    let (key, rest) ← readKey text
    match rest with
    | '=' :: rest =>
      let (setting, rest) ← readValue count levels (skipBlanks rest)
      let entries ← assign setting key entries
      match skipBlanks rest with
      | '\x7d' :: rest => some (entries, rest)
      | ',' :: rest => readFields count levels entries rest
      | _ => none
    | _ => none

end

/-- The entries read so far and the path of the header that is open. -/
structure State where
  root : List (String × Entry)
  path : List String

/-- A header with its brackets. -/
def readHeader (state : State) (text : List Char) : Option (State × List Char) := do
  let (double, text) := match text with
    | '[' :: rest => (true, rest)
    | rest => (false, rest)
  let (path, rest) ← readKey text
  let rest ← match double, rest with
    | true, ']' :: ']' :: rest => some rest
    | false, ']' :: rest => some rest
    | _, _ => none
  let name ← path.getLast?
  let change := if double then openTables name else openTable name
  let root ← descend change path.dropLast state.root
  some (⟨root, path⟩, rest)

/-- A key with its value. -/
def readPair (state : State) (text : List Char) : Option (State × List Char) := do
  let (key, rest) ← readKey text
  match rest with
  | '=' :: rest =>
    let (setting, rest) ← readValue rest.length depthLimit (skipBlanks rest)
    let root ← descend (assign setting key) state.path state.root
    some (⟨root, state.path⟩, rest)
  | _ => none

/-- The lines of a text, at most `count` of them. -/
def readLines : Nat → State → List Char → Option State
  | 0, state, text => if text.isEmpty then some state else none
  | count + 1, state, text =>
    if text.isEmpty then some state
    else
      match endOfLine? text with
      | some rest => readLines count state rest
      | none => do
        let (state, rest) ←
          match skipBlanks text with
          | '[' :: rest => readHeader state rest
          | rest => readPair state rest
        let rest ← endOfLine? rest
        readLines count state rest

/-- The entries of a whole text. A mark for the byte order in front is passed over. -/
def read (text : String) : Option (List (String × Setting)) :=
  let characters :=
    match text.toList with
    | '\ufeff' :: rest => rest
    | characters => characters
  (readLines characters.length ⟨[], []⟩ characters).map fun state => settings state.root

end Likeness.Toml
