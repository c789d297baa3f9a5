import Likeness.Proofs.Grammar.Collection
import Likeness.Proofs.Token.Lossless

/-!
# Line feeds between quotes

The search for the quote that closes a literal gives up at a line feed, so that a literal should end
on the line it starts on. But a backslash takes the next character along before it is looked at, and
that character may be a line feed. `Lexeme.Closable` tells what can stand between two quotes: a
character that stands for itself is no line feed, while one behind a backslash is anything. Hence
the contents of a literal have a line feed just when they have one behind a backslash, and a text
without such a pair has all its literals on single lines.
-/

namespace Likeness

namespace Lexeme

variable {delimiter : Char} {text contents : List Char}

/-- Contents that end where their delimiter follows: characters that stand for themselves, and
backslashes with the character that each of them takes along. -/
inductive Closable (delimiter : Char) : List Char → Prop where
  | nil : Closable delimiter []
  | plain {char rest} (noEscape : char ≠ '\\') (noFeed : char ≠ '\n') (other : char ≠ delimiter)
      (behind : Closable delimiter rest) : Closable delimiter (char :: rest)
  | escaped {rest} (char : Char) (behind : Closable delimiter rest) :
      Closable delimiter ('\\' :: char :: rest)

/-- What is found up to the closing delimiter can stand between two of them. -/
theorem closable_of_literalContents (closed : literalContents delimiter text = some contents) :
    Closable delimiter contents := by
  fun_induction literalContents delimiter text generalizing contents with
  | case1 => contradiction
  | case2 => contradiction
  | case3 char rest ih =>
    obtain ⟨inner, found, rfl⟩ := Option.map_eq_some_iff.1 closed
    exact .escaped char (ih found)
  | case4 => contradiction
  | case5 =>
    cases closed
    exact .nil
  | case6 char rest alone paired feed other ih =>
    obtain ⟨inner, found, rfl⟩ := Option.map_eq_some_iff.1 closed
    exact .plain (ne_backslash alone paired) feed other (ih found)

/-- A line feed between quotes stands behind a backslash. -/
theorem Closable.mem_lineFeed_iff (closable : Closable delimiter contents) :
    '\n' ∈ contents ↔ ['\\', '\n'] <:+: contents := by
  constructor
  · intro member
    induction closable with
    | nil => cases member
    | plain _ noFeed _ _ ih =>
      have behind := (List.mem_cons.1 member).resolve_left (Ne.symm noFeed)
      exact (ih behind).trans (List.suffix_cons _ _).isInfix
    | escaped char _ ih =>
      rcases List.mem_cons.1 ((List.mem_cons.1 member).resolve_left (by decide)) with rfl | behind
      · exact (List.prefix_append ['\\', '\n'] _).isInfix
      · exact (ih behind).trans (List.suffix_append ['\\', char] _).isInfix
  · intro paired
    exact paired.subset (by simp)

end Lexeme

namespace Cursor

/-- The text of a token that is cut off stands in the text that is cut. -/
theorem Passes.isInfix_of_mem {trivia : Trivia} {cursor stop : Cursor} {spots : List Spot}
    (passes : Passes trivia cursor spots stop) {spot : Spot} (member : spot ∈ spots) :
    spot.token.text.toList <:+: cursor.rest := by
  obtain ⟨before, behind, rfl⟩ := List.append_of_mem member
  obtain ⟨middle, front, _ | ⟨cut, _⟩⟩ := passes.split
  obtain ⟨count, rfl⟩ := front.exists_skip
  obtain ⟨_, starts, _⟩ := text_of_scan cut
  rw [rest_skip] at starts
  exact starts.isInfix.trans (List.drop_suffix count cursor.rest).isInfix

end Cursor

/-- The text between the quotes of a string or a character. -/
def Literal.quoted? : Literal → Option String
  | .string contents => some contents
  | .char contents => some contents
  | _ => none

/-- A token that writes a string or a character has its text between two delimiters. -/
theorem Leaf.Written.quoted {value : Literal} {contents text : String} {kind : Kind}
    {lexeme : Lexeme} (written : (Leaf.literal value).Written kind lexeme text)
    (between : value.quoted? = some contents) :
    kind = .text ∧ ∃ delimiter, text.toList = delimiter :: (contents.toList ++ [delimiter]) := by
  cases written with
  | string =>
    cases between
    exact ⟨rfl, '"', by simp⟩
  | char =>
    cases between
    exact ⟨rfl, '\'', by simp⟩
  | _ => cases between

/-- Each leaf of a tree is written by a token of its text. -/
theorem exists_writes_of_mem_leaves {source : String} {tree : SyntaxTree}
    (parsed : parse source = .ok tree) {leaf : Leaf} (member : leaf ∈ tree.leaves) :
    ∃ spot ∈ sourceSpots source, spot.piece.Cut ∧ spot.piece.Writes leaf := by
  have cuts := (passes_source source).cut_of_mem
  obtain ⟨taken, own, shape, found, writes⟩ := Parser.collects_expression.many _ _ _
    (List.forall_mem_map.2 cuts) (parse_eq_ok_iff.1 parsed).2
  rw [List.append_nil] at shape
  subst shape
  rw [SyntaxTree.leaves, Expression.leavesOfAll_eq, found, List.nil_append] at member
  obtain ⟨⟨index, short⟩, rfl⟩ := List.get_of_mem member
  have inside := Nat.lt_of_lt_of_eq short writes.length_eq.symm
  have isPiece := (List.mem_filter.1 (List.get_mem _ ⟨index, inside⟩)).1
  obtain ⟨spot, isSpot, same⟩ := List.mem_map.1 isPiece
  refine ⟨spot, isSpot, cuts spot isSpot, ?_⟩
  rw [same]
  exact writes.get inside short

/-- The contents of a string or a character of a tree stand in the text of the tree, and can stand
between two quotes. -/
theorem closable_of_mem_leaves {source : String} {tree : SyntaxTree}
    (parsed : parse source = .ok tree) {value : Literal} {contents : String}
    (member : .literal value ∈ tree.leaves) (between : value.quoted? = some contents) :
    contents.toList <:+: source.toList ∧
      ∃ delimiter, Lexeme.Closable delimiter contents.toList := by
  obtain ⟨spot, isSpot, cut, writes⟩ := exists_writes_of_mem_leaves parsed member
  obtain ⟨isText, mark, shape⟩ := Leaf.Written.quoted writes between
  obtain ⟨delimiter, inner, after, whole, closed, _⟩ := cut.quoted isText
  have same : inner = contents.toList := by
    rw [shape] at whole
    exact (List.append_inj_left' (List.cons.inj whole).2 rfl).symm
  refine ⟨?_, delimiter, same ▸ Lexeme.closable_of_literalContents closed⟩
  have inToken : contents.toList <:+: spot.token.text.toList := by
    refine ⟨[mark], [mark], ?_⟩
    rw [List.singleton_append, List.cons_append]
    exact shape.symm
  have inRest := (passes_source source).isInfix_of_mem isSpot
  have inSource : (sourceStart source).rest <:+: source.toList := by
    rw [sourceStart, Cursor.skipTrivia, Cursor.rest_skip]
    exact (List.drop_suffix _ _).isInfix
  exact (inToken.trans inRest).trans inSource

/-- What is found between quotes has a line feed just when it has one behind a backslash. The same
holds of the strings and characters of a tree, which stand in the text of the tree: if nowhere in
the text a backslash stands before a line feed, each of them is on one line. -/
theorem line_feed_in_quotes_iff_escaped (delimiter : Char) (text : List Char) (source : String) :
    (∀ contents, Lexeme.literalContents delimiter text = some contents →
      ('\n' ∈ contents ↔ ['\\', '\n'] <:+: contents)) ∧
    ∀ tree, parse source = .ok tree → ∀ value contents, .literal value ∈ tree.leaves →
      value.quoted? = some contents →
        contents.toList <:+: source.toList ∧
          ('\n' ∈ contents.toList ↔ ['\\', '\n'] <:+: contents.toList) := by
  constructor
  · intro contents closed
    exact (Lexeme.closable_of_literalContents closed).mem_lineFeed_iff
  · intro tree parsed value contents member between
    obtain ⟨inSource, _, closable⟩ := closable_of_mem_leaves parsed member between
    exact ⟨inSource, closable.mem_lineFeed_iff⟩

/-- A string that is closed on the line behind its opening quote: the line feed is escaped. -/
theorem line_feed_closed_behind_backslash :
    Lexeme.literalContents '"' "a\\\nb\";".toList = some "a\\\nb".toList ∧
      ∃ tree, parse "x = \"a\\\nb\";" = .ok tree ∧
        .literal (.string "a\\\nb") ∈ tree.leaves ∧ '\n' ∈ "a\\\nb".toList := by
  have shown : (parse "x = \"a\\\nb\";").toOption.map SyntaxTree.leaves =
      some [.word "x", .literal (.string "a\\\nb")] := by
    decide +kernel
  refine ⟨by decide, ?_⟩
  cases parsed : parse "x = \"a\\\nb\";" with
  | error failure =>
    rw [parsed] at shown
    cases shown
  | ok tree =>
    rw [parsed] at shown
    refine ⟨tree, rfl, ?_, by decide⟩
    rw [Option.some.inj shown]
    decide

end Likeness
