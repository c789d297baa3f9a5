import Likeness.Cursor
import Likeness.Lexeme

/-!
# Tokens

A text is cut into tokens by longest match: the reserved words, symbols, numbers and words of
`Lexeme`. Blanks and comments are trivia. A comment is one token when a text is cut up as a whole,
and so is a literal whose closing quote stands on the line of its opening one; cutting a single
token off the front sees only the opening of either.
-/

namespace Likeness

/-- A lexeme with its text and its place in the source. -/
structure Token where
  kind : Kind
  lexeme : Lexeme
  text : String
  location : Location
deriving DecidableEq, Repr

/-- Blanks and comments, which separate tokens and mean nothing else. -/
def Kind.isTrivia (kind : Kind) : Bool := kind = .whitespace || kind = .lineFeed || kind = .comment

namespace Lexeme

/-- A blank inside a line. -/
def isSpace (char : Char) : Bool := char = ' ' || char = '\t' || char = '\r' || char = '\x0c'

/-- A character that a word may begin with. -/
def startsWord (char : Char) : Bool := char.isAlpha || char = '_' || char = '$'

/-- A character that a word may go on with. -/
def continuesWord (char : Char) : Bool := startsWord char || char.isDigit

/-- The fraction that a text starts with: a point and at least one digit. -/
def fraction : List Char → List Char
  | '.' :: rest =>
    let digits := rest.takeWhile Char.isDigit
    if digits.isEmpty then [] else '.' :: digits
  | _ => []

/-- The sign that a text starts with, if any. -/
def sign : List Char → List Char
  | '+' :: _ => ['+']
  | '-' :: _ => ['-']
  | _ => []

/-- The exponent that a text starts with: a mark, an optional sign and at least one digit. -/
def exponent : List Char → List Char
  | mark :: rest =>
    if mark = 'e' || mark = 'E' then
      let sign := sign rest
      let digits := (rest.drop sign.length).takeWhile Char.isDigit
      if digits.isEmpty then [] else mark :: (sign ++ digits)
    else []
  | [] => []

/-- A letter that may close a number to say what type it has. -/
def isNumberSuffix (char : Char) : Bool :=
  char = 'l' || char = 'L' || char = 'f' || char = 'F' || char = 'd' || char = 'D'

/-- The longest number that a text starts with, for a text that starts with a digit. -/
def numberText (text : List Char) : List Char :=
  let whole := text.takeWhile Char.isDigit
  let whole := whole ++ fraction (text.drop whole.length)
  let whole := whole ++ exponent (text.drop whole.length)
  whole ++ ((text.drop whole.length).take 1).filter isNumberSuffix

/-- The longest lexeme that a text starts with, and the characters it takes. -/
def recognize (text : List Char) : Option (Lexeme × List Char) :=
  match text with
  | [] => none
  | first :: _ =>
    if first = '\n' then some (.lineFeed, [first])
    else if isSpace first then some (.whitespace, text.takeWhile isSpace)
    else if first.isDigit then some (.number, numberText text)
    else if startsWord first then
      let word := text.takeWhile continuesWord
      some (ofWord (String.ofList word), word)
    else
      (symbols.find? fun symbol => symbol.1.isPrefixOf text).map fun symbol => (symbol.2, symbol.1)

/-- The text of a block comment after its opening, up to its end or the end of the input. -/
def blockCommentText : List Char → List Char
  | [] => []
  | '*' :: '/' :: _ => ['*', '/']
  | char :: rest => char :: blockCommentText rest

/-- The characters up to the `delimiter` that closes a literal. A backslash takes the next
character with it, whatever that is; a line feed that stands for itself leaves the literal open. -/
def literalContents (delimiter : Char) : List Char → Option (List Char)
  | [] => none
  | '\\' :: [] => none
  | '\\' :: char :: rest => (literalContents delimiter rest).map ('\\' :: char :: ·)
  | char :: rest =>
    if char = '\n' then none
    else if char = delimiter then some []
    else (literalContents delimiter rest).map (char :: ·)

/-- A closed literal is text from its opening quote to its closing one; an open one is its quote. -/
def literal (delimiter : Char) (opening after : List Char) : Kind × List Char :=
  match literalContents delimiter after with
  | some contents => (.text, opening ++ contents ++ [delimiter])
  | none => (.symbol, opening)

/-- The kind and the whole text of the token that `lexeme` opens, given its own text and the text
after it: comments and closed literals extend to their ends. -/
def extent (lexeme : Lexeme) (opening after : List Char) : Kind × List Char :=
  match lexeme with
  | .lineComment => (.comment, opening ++ after.takeWhile (· ≠ '\n'))
  | .blockCommentOpen => (.comment, opening ++ blockCommentText after)
  | .doubleQuote => literal '"' opening after
  | .singleQuote => literal '\'' opening after
  | _ => (lexeme.kind, opening)

end Lexeme

/-- Where a run of trivia stands: between tokens, or inside a comment. -/
inductive TriviaState where
  | between
  | inLineComment
  | inBlockComment
deriving DecidableEq, Repr

/-- How many leading characters of a text are trivia. A block comment that is never closed takes all
the rest. -/
def triviaLength : TriviaState → List Char → Nat
  | _, [] => 0
  | .between, '/' :: '/' :: rest => triviaLength .inLineComment rest + 2
  | .between, '/' :: '*' :: rest => triviaLength .inBlockComment rest + 2
  | .between, char :: rest =>
    if Lexeme.isSpace char || char = '\n' then triviaLength .between rest + 1 else 0
  | .inLineComment, char :: rest =>
    if char = '\n' then triviaLength .between rest + 1
    else triviaLength .inLineComment rest + 1
  | .inBlockComment, '*' :: '/' :: rest => triviaLength .between rest + 2
  | .inBlockComment, _ :: rest => triviaLength .inBlockComment rest + 1

/-- Whether trivia comes out as tokens or is passed over. -/
inductive Trivia where
  | keep
  | skip
deriving DecidableEq, Repr

/-- A token with the places just past its text and past what follows it. -/
structure Spot where
  token : Token
  after : Cursor
  next : Cursor
deriving DecidableEq, Repr

namespace Cursor

/-- Pass over blanks and comments. -/
def skipTrivia (cursor : Cursor) : Cursor := cursor.skip (triviaLength .between cursor.rest)

/-- Pass over trivia if it is not wanted. -/
def settle (cursor : Cursor) : Trivia → Cursor
  | .keep => cursor
  | .skip => cursor.skipTrivia

/-- The spot of a token that takes the characters of `text` at this cursor. -/
def spot (cursor : Cursor) (trivia : Trivia) (kind : Kind) (lexeme : Lexeme) (text : List Char) :
    Spot :=
  let after := cursor.skip text.length
  ⟨⟨kind, lexeme, String.ofList text, cursor.locationTo after⟩, after, after.settle trivia⟩

/-- Cut one lexeme off the front, with the trivia after it if that is not wanted. -/
def next (cursor : Cursor) (trivia : Trivia) : Option Spot :=
  (Lexeme.recognize cursor.rest).map fun (lexeme, text) =>
    cursor.spot trivia lexeme.kind lexeme text

/-- Cut one token off the front; comments and closed literals come off whole. -/
def scan (cursor : Cursor) (trivia : Trivia) : Option Spot :=
  (Lexeme.recognize cursor.rest).map fun (lexeme, opening) =>
    let (kind, text) := lexeme.extent opening (cursor.rest.drop opening.length)
    cursor.spot trivia kind lexeme text

/-- Cut at most `count` tokens off the front. -/
def scanUpTo (trivia : Trivia) : Nat → Cursor → List Spot × Cursor
  | 0, cursor => ([], cursor)
  | count + 1, cursor =>
    match cursor.scan trivia with
    | none => ([], cursor)
    | some spot =>
      let (spots, stop) := scanUpTo trivia count spot.next
      (spot :: spots, stop)

/-- Cut tokens off the front as long as there are any. What is left is the end of the text or a
character that no token starts with: every token takes at least one character, so as many steps as
there are characters are enough. -/
def spots (cursor : Cursor) (trivia : Trivia) : List Spot × Cursor :=
  scanUpTo trivia cursor.rest.length cursor

/-- Cut single lexemes off the front, at most `count` of them. -/
def nextUpTo (trivia : Trivia) : Nat → Cursor → List Spot × Cursor
  | 0, cursor => ([], cursor)
  | count + 1, cursor =>
    match cursor.next trivia with
    | none => ([], cursor)
    | some spot =>
      let (spots, stop) := nextUpTo trivia count spot.next
      (spot :: spots, stop)

/-- Cut single lexemes off the front as long as there are any. -/
def lexemes (cursor : Cursor) (trivia : Trivia) : List Spot × Cursor :=
  nextUpTo trivia cursor.rest.length cursor

end Cursor

/-- A character that no token starts with. -/
structure TokenizeError where
  position : Position
  offset : Nat
  found : Char
deriving DecidableEq, Repr

namespace Cursor

/-- Cut everything that is left into tokens, or say which character is in the way. -/
def tokenize (cursor : Cursor) (trivia : Trivia) : Except TokenizeError (List Token × Cursor) :=
  let (spots, stop) := (cursor.settle trivia).spots trivia
  match stop.rest with
  | [] => .ok (spots.map (·.token), stop)
  | found :: _ => .error ⟨stop.position, stop.offset, found⟩

end Cursor

/-- The tokens of a whole text, trivia included. -/
def tokenize (source : String) : Except TokenizeError (List Token) :=
  ((Cursor.ofSource source).tokenize .keep).map (·.1)

end Likeness
