import Likeness.Document.Datum
import Likeness.Number.Digit
import Likeness.Number.Whole
import Likeness.Text.Cut

/-!
# Documents as YAML

Documents are laid out in block style with two blanks for each level; the items of a list stand at
the level of its key. A text is written plainly when that reads back as the same text. Otherwise it
stands between single quotes or, when it holds characters that quotes cannot show, between double
quotes with escapes. A text with line feeds is a literal block.
-/

namespace Likeness.Yaml

/-- Numbers are written out in full from `0.00001` up to sixteen digits, always with a fraction, and
with a bare power of ten otherwise. -/
def layout : Decimal.Layout := ⟨.even, some (-5), some 16, true, false⟩

/-- A character that ends a line. -/
def isBreak (char : Char) : Bool :=
  [0xa, 0xd, 0x85, 0x2028, 0x2029].contains char.toNat

/-- A character that separates words, or the lack of any. -/
def isGap : Option Char → Bool
  | none => true
  | some char => char = ' ' || char = '\t' || char = '\x00' || isBreak char

/-- A character that may stand for itself. -/
def isShown (char : Char) : Bool :=
  let code := char.toNat
  code = 0xa || (0x20 ≤ code && code ≤ 0x7e) ||
    (0xa0 ≤ code && code ≠ 0xfeff && code ≠ 0xfffe && code ≠ 0xffff)

/-- A character that has a meaning of its own at the start of a plain text. -/
def startsMarkup (char : Char) : Bool :=
  "#,[]\x7b\x7d&*!|>'\"%@`".toList.contains char

/-- A text with an indicator in a place where it would not be read as text: at the start, a colon
before a gap, or a number sign behind one. -/
def hasIndicatorFrom (previous : Option Char) : List Char → Bool
  | [] => false
  | char :: rest =>
    (char = ':' && isGap rest.head?) || (char = '#' && isGap previous)
      || hasIndicatorFrom (some char) rest

/-- A text that cannot be written plainly because of what stands in it. -/
def hasIndicator (text : List Char) : Bool :=
  ['-', '-', '-'].isPrefixOf text || ['.', '.', '.'].isPrefixOf text
    || text.head?.any startsMarkup
    || (text.head?.any (fun first => first = '?' || first = '-') && isGap text.tail.head?)
    || hasIndicatorFrom (some ' ') text

/-- Two neighbouring characters satisfy the two tests. -/
def hasPair (first second : Char → Bool) : List Char → Bool
  | left :: right :: rest => (first left && second right) || hasPair first second (right :: rest)
  | _ => false

/-- A line ends in a blank. -/
def blankBeforeBreak (text : List Char) : Bool := hasPair (· = ' ') isBreak text

/-- A line starts with a blank. -/
def blankAfterBreak (text : List Char) : Bool := hasPair isBreak (· = ' ') text

/-- The text may be written as it stands. -/
def plainAllowed (text : List Char) : Bool :=
  !hasIndicator text && text.all isShown && !text.any isBreak
    && !text.head?.any (· = ' ') && !text.getLast?.any (· = ' ')

/-- The text may stand between single quotes. -/
def singleQuotesAllowed (text : List Char) : Bool :=
  text.all isShown && !blankBeforeBreak text && !blankAfterBreak text

/-- The text may be a literal block. -/
def blockAllowed (text : List Char) : Bool :=
  text.all isShown && !blankBeforeBreak text && !text.getLast?.any (· = ' ') && !text.isEmpty

/-- The base that a text announces and the digits behind it. -/
def splitBase : List Char → Option (Nat × List Char)
  | '0' :: 'x' :: rest => some (16, rest)
  | '0' :: 'o' :: rest => some (8, rest)
  | '0' :: 'b' :: rest => some (2, rest)
  | _ => none

/-- A whole number in another base, within 128 bits. -/
def isBasedInteger (text : List Char) : Bool :=
  let (limit, magnitude) :=
    match text with
    | '-' :: rest => (Whole.twoTo 127, rest)
    | '+' :: rest => (Whole.twoTo 128 - 1, rest)
    | text => (Whole.twoTo 128 - 1, text)
  match splitBase magnitude with
  | some (base, digits) => !digits.isEmpty && (Digit.read base digits).any (· ≤ limit)
  | none => false

/-- Digits with a needless zero in front, which are no number. -/
def isZeroPadded (text : List Char) : Bool :=
  match (Decimal.splitSign text).2 with
  | '0' :: digit :: rest => (digit :: rest).all Char.isDigit
  | _ => false

/-- A finite decimal, or one of the words for infinity and for no number. -/
def isFloat (text : List Char) : Bool :=
  let unsigned := (Decimal.splitSign text).2
  let decimal :=
    match Decimal.readMagnitude unsigned with
    | some (digits, exponent) =>
      match Binary64.ofDecimal false digits exponent with
      | .finite .. => true
      | _ => false
    | none => false
  decimal || [".inf", ".Inf", ".INF"].contains (String.ofList unsigned)
    || [".nan", ".NaN", ".NAN"].contains (String.ofList text)

/-- A text that reads as something else when it is written plainly. -/
def readsAsOther (text : List Char) : Bool :=
  ["", "null", "Null", "NULL", "~", "true", "True", "TRUE", "false", "False", "FALSE"].contains
      (String.ofList text)
    || isBasedInteger text || isZeroPadded text || isFloat text

/-- The last `count` hexadecimal digits of a number, in upper case. -/
def hexDigits : Nat → Nat → List Char
  | 0, _ => []
  | count + 1, number => hexDigits count (number / 16) ++ [(Nat.digitChar (number % 16)).toUpper]

/-- The letter that stands for a character behind a backslash. -/
def escapeLetter? (char : Char) : Option Char :=
  match char.toNat with
  | 0x00 => some '0'
  | 0x07 => some 'a'
  | 0x08 => some 'b'
  | 0x09 => some 't'
  | 0x0a => some 'n'
  | 0x0b => some 'v'
  | 0x0c => some 'f'
  | 0x0d => some 'r'
  | 0x1b => some 'e'
  | 0x22 => some '"'
  | 0x5c => some '\\'
  | 0x85 => some 'N'
  | 0xa0 => some '_'
  | 0x2028 => some 'L'
  | 0x2029 => some 'P'
  | _ => none

/-- How one character is written between double quotes. -/
def escaped (char : Char) : List Char :=
  if isShown char && !isBreak char && char ≠ '"' && char ≠ '\\' then [char]
  else
    match escapeLetter? char with
    | some letter => ['\\', letter]
    | none =>
      let code := char.toNat
      if code ≤ 0xff then '\\' :: 'x' :: hexDigits 2 code
      else if code ≤ 0xffff then '\\' :: 'u' :: hexDigits 4 code
      else '\\' :: 'U' :: hexDigits 8 code

/-- A run of blanks. -/
def indentation (indent : Nat) : List Char := List.replicate indent ' '

/-- The lines of a literal block, each that is not empty behind its indentation. -/
def blockLines (indent : Nat) (atStart : Bool) : List Char → List Char
  | [] => []
  | char :: rest =>
    if isBreak char then char :: blockLines indent true rest
    else (if atStart then indentation indent else []) ++ char :: blockLines indent false rest

/-- The text between single quotes: a quote is doubled, a line feed takes an empty line, and a new
line starts with its indentation. -/
def singleQuotedText (indent : Nat) (atStart : Bool) : List Char → List Char
  | [] => if atStart then indentation indent else []
  | char :: rest =>
    if isBreak char then
      (if char = '\n' && !atStart then ['\n'] else []) ++ char :: singleQuotedText indent true rest
    else
      (if atStart then indentation indent else []) ++ (if char = '\'' then ['\''] else [])
        ++ char :: singleQuotedText indent false rest

/-- What is said about the line feeds at the end of a literal block: none, one, or all of them. -/
def chomping (text : List Char) : List Char :=
  match text.reverse with
  | last :: before =>
    if !isBreak last then ['-']
    else if before.head?.all isBreak then ['+']
    else []
  | [] => ['-']

/-- A literal block with the end of its last line. -/
def literalBlock (indent : Nat) (text : List Char) : List Char :=
  let hint := if text.head?.any fun first => first = ' ' || isBreak first then ['2'] else []
  '|' :: (hint ++ chomping text ++ '\n' :: blockLines indent true text)
    ++ (if text.getLast?.any isBreak then [] else ['\n'])

/-- A text with the end of its line, where the lines after its first start at `indent`. -/
def scalar (indent : Nat) (value : String) : String :=
  let text := value.toList
  let double := '"' :: (text.flatMap escaped ++ ['"', '\n'])
  let single :=
    if singleQuotesAllowed text then '\'' :: (singleQuotedText indent false text ++ ['\'', '\n'])
    else double
  String.ofList <|
    if text.contains '\n' then if blockAllowed text then literalBlock indent text else double
    else if readsAsOther text then single
    else if plainAllowed text then text ++ ['\n']
    else single

/-- A value that fits on the line of its key, with the end of that line. -/
def inline? (indent : Nat) : Datum → Option String
  | .null => some "null\n"
  | .boolean value => some (if value then "true\n" else "false\n")
  | .integer value => some (toString value ++ "\n")
  | .number value => some (layout.render value ++ "\n")
  | .text value => some (scalar indent value)
  | .list [] => some "[]\n"
  | .record [] => some "\x7b\x7d\n"
  | _ => none

mutual

/-- What follows a key or a dash at `indent`: the rest of its line and the lines below it. The
entries of a record behind a dash start on the line of the dash. -/
def renderBehindKey (indent : Nat) : Datum → String
  | .list items =>
    match inline? (indent + 2) (.list items) with
    | some text => " " ++ text
    | none => "\n" ++ renderItems indent true items
  | .record fields =>
    match inline? (indent + 2) (.record fields) with
    | some text => " " ++ text
    | none => "\n" ++ renderFields (indent + 2) true fields
  | value => " " ++ (inline? (indent + 2) value).getD ""

/-- What follows a dash at `indent`; nested entries start on the line of the dash. -/
def renderBehindDash (indent : Nat) : Datum → String
  | .list items =>
    match inline? (indent + 2) (.list items) with
    | some text => " " ++ text
    | none => " " ++ renderItems (indent + 2) false items
  | .record fields =>
    match inline? (indent + 2) (.record fields) with
    | some text => " " ++ text
    | none => " " ++ renderFields (indent + 2) false fields
  | value => " " ++ (inline? (indent + 2) value).getD ""

/-- The items of a list, the first one indented only where it starts a line. -/
def renderItems (indent : Nat) (startsLine : Bool) : List Datum → String
  | [] => ""
  | item :: rest =>
    (if startsLine then Text.blanks indent else "") ++ "-" ++ renderBehindDash indent item
      ++ renderItems indent true rest

/-- The fields of a record, the first one indented only where it starts a line. -/
def renderFields (indent : Nat) (startsLine : Bool) : List (String × Datum) → String
  | [] => ""
  | (name, value) :: rest =>
    (if startsLine then Text.blanks indent else "") ++ name ++ ":" ++ renderBehindKey indent value
      ++ renderFields indent true rest

end

/-- A document as YAML text. -/
def render (document : Datum) : String :=
  match document with
  | .list items => (inline? 2 (.list items)).getD (renderItems 0 true items)
  | .record fields => (inline? 2 (.record fields)).getD (renderFields 0 true fields)
  | value => (inline? 2 value).getD ""

end Likeness.Yaml
