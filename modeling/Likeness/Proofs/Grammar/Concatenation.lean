import Likeness.Proofs.Grammar.Composition
import Likeness.Proofs.Grammar.Failure
import Likeness.Proofs.Token.Seam

/-!
# Texts one behind the other

A line feed between two texts ends whatever token the first one ends with, a block comment that is
still open apart. So the tokens of both with a line feed between them are those of the first, the
line feed and those of the second, and their tree is made of the expressions of both.
-/

namespace Likeness

/-! ## Tokens behind a seam -/

/-- What a parser sees of tokens does not depend on where they stand. -/
theorem Token.pieces_eq_of_shape {tokens tokens' : List Token}
    (same : tokens.map shape = tokens'.map shape) : pieces tokens = pieces tokens' := by
  have next (tokens : List Token) : (tokens.head?.any fun next => next.kind.isTrivia) =
      (tokens.map shape).head?.any fun next => next.1.isTrivia := by
    cases tokens <;> rfl
  induction tokens generalizing tokens' with
  | nil =>
    cases tokens' with
    | nil => rfl
    | cons => contradiction
  | cons token rest ih =>
    cases tokens' with
    | nil => contradiction
    | cons token' rest' =>
      obtain ⟨head, tail⟩ := List.cons_eq_cons.1 same
      simp only [shape, Prod.mk.injEq] at head
      obtain ⟨kind, lexeme, text⟩ := head
      rw [pieces, pieces, kind, lexeme, text, next rest, next rest', tail, ih tail]

namespace Cursor

variable {cursor cursor' stop : Cursor} {spots : List Spot} {spot : Spot}

/-- The same token is cut off wherever the same text is to come. -/
theorem exists_scan_of_rest_eq (same : cursor'.rest = cursor.rest)
    (cut : cursor.scan .keep = some spot) :
    ∃ spot', cursor'.scan .keep = some spot' ∧ spot'.token.shape = spot.token.shape ∧
      spot'.next.rest = spot.next.rest := by
  obtain ⟨⟨lexeme, opening⟩, recognized, rfl⟩ := Option.map_eq_some_iff.1 cut
  let whole := lexeme.extent opening (cursor.rest.drop opening.length)
  refine ⟨cursor'.spot .keep whole.1 lexeme whole.2, ?_, rfl, ?_⟩
  · rw [scan, same, recognized]
    rfl
  · simp [Cursor.spot, settle, same, whole]

/-- The same tokens are cut off wherever the same text is to come. -/
theorem Passes.exists_of_rest_eq (passes : Passes .keep cursor spots stop)
    (same : cursor'.rest = cursor.rest) :
    ∃ spots' stop', Passes .keep cursor' spots' stop' ∧ stop'.rest = stop.rest ∧
      (spots'.map Spot.token).map Token.shape = (spots.map Spot.token).map Token.shape := by
  induction passes generalizing cursor' with
  | stay => exact ⟨[], cursor', .stay cursor', same, rfl⟩
  | cut cut _ ih =>
    obtain ⟨spot', cut', shape, next⟩ := exists_scan_of_rest_eq same cut
    obtain ⟨spots', stop', passes', ended, shapes⟩ := ih next
    refine ⟨spot' :: spots', stop', .cut cut' passes', ended, ?_⟩
    simp only [List.map_cons, shape, shapes]

/-- A line feed is a token of its own, and is trivia. -/
theorem exists_scan_lineFeed {behind : List Char} (start : cursor.rest = '\n' :: behind) :
    ∃ spot, cursor.scan .keep = some spot ∧ spot.token.kind.isTrivia ∧
      spot.next.rest = behind := by
  refine ⟨_, by rw [scan, start, Lexeme.recognize, if_pos rfl, Option.map_some], rfl, ?_⟩
  simp [Cursor.spot, settle, start, Lexeme.extent]

end Cursor

/-! ## Comments that are not closed -/

/-- A block comment is closed, or takes all the rest. -/
theorem Lexeme.blockCommentText_cases (text : List Char) :
    (∃ inside, blockCommentText text = inside ++ ['*', '/']) ∨ blockCommentText text = text := by
  fun_induction blockCommentText text with
  | case1 => exact .inr rfl
  | case2 rest => exact .inl ⟨[], rfl⟩
  | case3 char rest _ ih =>
    rcases ih with ⟨inside, closed⟩ | whole
    · exact .inl ⟨char :: inside, by rw [closed, List.cons_append]⟩
    · exact .inr (by rw [whole])

/-- A block comment whose end is there. -/
def Token.IsClosedComment (token : Token) : Prop :=
  ∃ inside, token.text = "/*" ++ inside ++ "*/"

/-- A text that ends inside a block comment. -/
def EndsInComment (source : String) : Prop :=
  ∃ before token, tokenize source = .ok (before ++ [token]) ∧
    token.lexeme = .blockCommentOpen ∧ ¬token.IsClosedComment

namespace Cursor

variable {cursor stop : Cursor} {spots : List Spot} {spot : Spot}

/-- Nothing follows a block comment that is not closed. -/
theorem rest_eq_nil_of_open (cut : cursor.scan .keep = some spot)
    (isComment : spot.token.lexeme = .blockCommentOpen) (isOpen : ¬spot.token.IsClosedComment) :
    spot.next.rest = [] := by
  obtain ⟨⟨lexeme, opening⟩, recognized, rfl⟩ := Option.map_eq_some_iff.1 cut
  have isComment : lexeme = .blockCommentOpen := isComment
  have spelled := Lexeme.opening_of_blockComment recognized isComment
  subst isComment spelled
  rcases Lexeme.blockCommentText_cases (cursor.rest.drop 2) with ⟨inside, closed⟩ | whole
  · refine absurd ⟨String.ofList inside, ?_⟩ isOpen
    simp [Cursor.spot, Lexeme.extent, closed, ← String.toList_inj]
  · simp [Cursor.spot, Lexeme.extent, settle, whole]
    omega

/-- A block comment that is not closed is the last token. -/
theorem Passes.exists_append_of_open (passes : Passes .keep cursor spots stop)
    (member : spot ∈ spots) (isComment : spot.token.lexeme = .blockCommentOpen)
    (isOpen : ¬spot.token.IsClosedComment) :
    ∃ before, spots.map Spot.token = before ++ [spot.token] := by
  induction passes with
  | stay => contradiction
  | @cut cursor head spots stop cut rest ih =>
    rcases List.mem_cons.1 member with rfl | member
    · have ended := rest_eq_nil_of_open cut isComment isOpen
      cases rest with
      | stay => exact ⟨[], rfl⟩
      | cut cut _ =>
        rw [scan_eq_none_of_rest_eq_nil .keep ended] at cut
        contradiction
    · obtain ⟨before, shape⟩ := ih member
      exact ⟨head.token :: before, by rw [List.map_cons, shape, List.cons_append]⟩

end Cursor

/-! ## Trees -/

/-- A text with tokens has a tree just when what a parser sees of them is made of expressions. -/
theorem parse_eq_ok_iff_pieces {source : String} {tokens : List Token} {tree : SyntaxTree}
    (cut : tokenize source = .ok tokens) : parse source = .ok tree ↔
      Parser.run (Parser.many Parser.expression) (Token.pieces tokens) =
        some (tree.expressions, []) := by
  obtain ⟨ended, pieces, _⟩ := tokenize_eq_ok cut
  rw [parse_eq_ok_iff, pieces]
  exact and_iff_right ended

/-- All quotes of a text with a tree are closed. -/
theorem kind_eq_text_of_parse {source : String} {tokens : List Token} {tree : SyntaxTree}
    {token : Token} (cut : tokenize source = .ok tokens) (parsed : parse source = .ok tree)
    (member : token ∈ tokens) (quote : token.lexeme = .doubleQuote ∨ token.lexeme = .singleQuote) :
    token.kind = .text := by
  have marks : token.lexeme.isBlank = false ∧ token.lexeme.opensComment = false ∧
      token.lexeme.isPlain = false := by
    rcases quote with quote | quote <;> rw [quote] <;> decide
  have visible : token.kind.isTrivia = false := by
    obtain ⟨_, rfl⟩ := tokenize_eq_ok_iff.1 cut
    obtain ⟨spot, among, rfl⟩ := List.mem_map.1 member
    obtain ⟨text, opening, _, extended⟩ := (Cursor.passes_spots .keep _).cut_of_mem spot among
    have hidden := Lexeme.isTrivia_extent marks.1 marks.2.1 opening (text.drop opening.length)
    rwa [show spot.token.lexeme = spot.piece.lexeme from rfl, extended] at hidden
  have seen : token.shape ∈ (Token.pieces tokens).map Piece.shape := by
    rw [Token.map_shape_pieces]
    exact List.mem_map_of_mem (List.mem_filter.2 ⟨member, by rw [visible]; rfl⟩)
  obtain ⟨piece, member, same⟩ := List.mem_map.1 seen
  obtain ⟨_, taken, all, whole⟩ := Parser.yields_expression.many _ _ _
    ((parse_eq_ok_iff_pieces cut).1 parsed)
  rw [List.append_nil] at all
  have isWhole := whole piece (all ▸ member)
  simp only [Piece.shape, Token.shape, Prod.mk.injEq] at same
  rw [Piece.isWhole, same.1, same.2.1, marks.2.2, Bool.or_false] at isWhole
  exact of_decide_eq_true isWhole

/-- All tokens of a text with a tree are closed, if it does not end inside a block comment. -/
theorem isSealed_of_parse {source : String} {tokens : List Token} {tree : SyntaxTree}
    (cut : tokenize source = .ok tokens) (parsed : parse source = .ok tree)
    (closed : ¬EndsInComment source) : ∀ token ∈ tokens, token.IsSealed := by
  intro token member
  refine ⟨kind_eq_text_of_parse cut parsed member, fun isComment => ?_⟩
  refine Classical.byContradiction fun isOpen => ?_
  obtain ⟨_, rfl⟩ := tokenize_eq_ok_iff.1 cut
  obtain ⟨spot, among, rfl⟩ := List.mem_map.1 member
  have passes := Cursor.passes_spots .keep (Cursor.ofSource source)
  obtain ⟨before, last⟩ := passes.exists_append_of_open among isComment isOpen
  rw [last] at cut
  exact closed ⟨before, spot.token, cut, isComment, isOpen⟩

/-- The tokens of two texts with a line feed between them are those of the first, the line feed and
those of the second, if the tokens of the first are closed. -/
theorem exists_tokenize_append {source source' : String} {tokens tokens' : List Token}
    (cut : tokenize source = .ok tokens) (cut' : tokenize source' = .ok tokens')
    (closed : ∀ token ∈ tokens, token.IsSealed) :
    ∃ feed behind, tokenize (source ++ "\n" ++ source') = .ok (tokens ++ feed :: behind) ∧
      feed.kind.isTrivia ∧ behind.map Token.shape = tokens'.map Token.shape := by
  obtain ⟨ended, rfl⟩ := tokenize_eq_ok_iff.1 cut
  obtain ⟨ended', rfl⟩ := tokenize_eq_ok_iff.1 cut'
  have passes := (Cursor.passes_spots .keep (Cursor.ofSource source)).extend
    (fun spot member => closed _ (List.mem_map_of_mem member)) source'.toList
  have start : (Cursor.ofSource source).extend ('\n' :: source'.toList) =
      Cursor.ofSource (source ++ "\n" ++ source') := by
    simp [Cursor.ofSource, Cursor.extend]
  rw [start] at passes
  generalize ((Cursor.ofSource source).spots .keep) = front at *
  obtain ⟨feed, cutFeed, isTrivia, next⟩ := Cursor.exists_scan_lineFeed
    (show (front.2.extend ('\n' :: source'.toList)).rest = '\n' :: source'.toList by
      rw [Cursor.rest_extend, ended, List.nil_append])
  obtain ⟨spots, stop, passes', ended'', shapes⟩ :=
    (Cursor.passes_spots .keep (Cursor.ofSource source')).exists_of_rest_eq next
  rw [ended'] at ended''
  have all := (passes.append (.cut cutFeed passes')).spots_eq
    (Cursor.scan_eq_none_of_rest_eq_nil .keep ended'')
  refine ⟨feed.token, spots.map Spot.token, tokenize_eq_ok_iff.2 ?_, isTrivia, shapes⟩
  rw [all]
  refine ⟨ended'', ?_⟩
  simp [Spot.extend, Function.comp_def]

/-- The tree of two texts with a line feed between them is made of the expressions of the first and
those of the second, if the first one does not end inside a block comment. -/
theorem parse_append_lineFeed {source source' : String} {tree tree' : SyntaxTree}
    (parsed : parse source = .ok tree) (parsed' : parse source' = .ok tree')
    (closed : ¬EndsInComment source) :
    parse (source ++ "\n" ++ source') = .ok ⟨tree.expressions ++ tree'.expressions⟩ := by
  obtain ⟨tokens, cut⟩ := exists_tokenize (parse_eq_ok_iff.1 parsed).1
  obtain ⟨tokens', cut'⟩ := exists_tokenize (parse_eq_ok_iff.1 parsed').1
  obtain ⟨feed, behind, joined, isTrivia, shapes⟩ :=
    exists_tokenize_append cut cut' (isSealed_of_parse cut parsed closed)
  obtain ⟨front, alike, shape⟩ := Token.exists_pieces_append tokens feed
  rw [parse_eq_ok_iff_pieces joined, shape, Token.pieces, if_pos isTrivia,
    Token.pieces_eq_of_shape shapes]
  refine Parser.run_many_append ?_ ((parse_eq_ok_iff_pieces cut').1 parsed')
  exact (alike.result_eq _).1 ((parse_eq_ok_iff_pieces cut).1 parsed)

/-- A branch without an `else` and a comment that is closed do not go on into the next line, which
starts with a minus. -/
theorem parse_branch_lineFeed_number :
    let branch := Expression.block (.branch (.reference "a") [.statement (.reference "b")] [])
    let number := Expression.statement (.literal (.integer (-1) false))
    parse "if (a) b; /* c */" = .ok ⟨[branch]⟩ ∧ parse "-1; // d" = .ok ⟨[number]⟩ ∧
      ¬EndsInComment "if (a) b; /* c */" ∧
      parse ("if (a) b; /* c */" ++ "\n" ++ "-1; // d") = .ok ⟨[branch, number]⟩ := by
  intro branch number
  have parsed : parse "if (a) b; /* c */" = .ok ⟨[branch]⟩ :=
    parse_eq_ok_iff.2 ⟨rfl, rfl⟩
  have parsed' : parse "-1; // d" = .ok ⟨[number]⟩ := parse_eq_ok_iff.2 ⟨rfl, rfl⟩
  have closed : ¬EndsInComment "if (a) b; /* c */" := by
    rintro ⟨before, token, cut, _, isOpen⟩
    have last : (tokenize "if (a) b; /* c */").toOption.bind (List.getLast? ·) =
        some ⟨.comment, .blockCommentOpen, "/* c */", ⟨10, 17, ⟨0, 10⟩, ⟨0, 17⟩⟩⟩ := by
      decide +kernel
    rw [cut, Except.toOption, Option.bind_some, List.getLast?_concat, Option.some.injEq] at last
    exact isOpen ⟨" c ", by rw [last]; rfl⟩
  exact ⟨parsed, parsed', closed, parse_append_lineFeed parsed parsed' closed⟩

end Likeness
