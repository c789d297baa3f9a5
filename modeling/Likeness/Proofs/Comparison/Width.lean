import Likeness.Proofs.Comparison.Rows
import Likeness.Proofs.Grammar.Weights
import Mathlib.Logic.Relation

/-!
# Comparisons that fit in 64 bits

A tree weighs no more than its text has bytes, and nothing inside of it weighs more than all of it.
`Element` is anything in a tree that is weighed, or compared to another of its sort, on the way to the
comparison of two trees, whether its comparison is part of the report or only tried. Two elements
match no more than the lighter one weighs and come to no more than both together, and so does every
result below theirs. Of texts with fewer than `2 ^ 57` bytes, no weight is too large for 64 bits, and
neither is a matched weight in hundredths.
-/

namespace Likeness

/-! ## Elements -/

/-- Anything in a tree that is weighed, or compared to another of its sort. -/
inductive Element where
  | identifier (value : Identifier)
  | qualifier (value : Qualifier)
  | literal (value : Literal)
  | statement (value : Statement)
  | declaration (value : Declaration)
  | clause (value : CatchClause)
  | block (value : Block)
  | expression (value : Expression)
  | body (items : List Expression)

namespace Element

/-- What an element weighs. -/
def weight : Element → Nat
  | .identifier value => Node.weight value
  | .qualifier value => Node.weight value
  | .literal value => Node.weight value
  | .statement value => value.weight
  | .declaration value => value.weight
  | .clause value => value.weight
  | .block value => value.weight
  | .expression value => value.weight
  | .body items => Expression.weightOfAll items

/-- The elements that an element is directly made of. -/
def parts : Element → List Element
  | .identifier _ => []
  | .qualifier _ => []
  | .literal _ => []
  | .statement (.unary _ operand) => [.statement operand]
  | .statement (.binary _ left right) => [.statement left, .statement right]
  | .statement (.literal value) => [.literal value]
  | .statement (.reference _) => []
  | .statement (.group items) => items.map .statement
  | .declaration value =>
    value.qualifiers.map .qualifier ++ (value.initializer.map .statement).toList
  | .clause value => value.exceptionTypes.map .identifier ++ [.body value.body]
  | .block (.branch condition thenBody elseBody) =>
    [.statement condition, .body thenBody, .body elseBody]
  | .block (.whileLoop condition items) => [.statement condition, .body items]
  | .block (.doWhileLoop condition items) => [.statement condition, .body items]
  | .block (.forLoop init condition iteration items) =>
    [.expression init, .expression condition, .expression iteration, .body items]
  | .block (.guarded resources items handlers cleanup) =>
    resources.map .declaration ++ .body items :: handlers.map .clause ++ (cleanup.map .body).toList
  | .expression .empty => []
  | .expression (.declaration declared) => [.declaration declared]
  | .expression (.block inner) => [.block inner]
  | .expression (.statement value) => [.statement value]
  | .body items => items.map .expression

/-- The comparison of two elements of one sort. -/
def against? : Element → Element → Option Similarity
  | .identifier left, .identifier right => some (left.against right)
  | .qualifier left, .qualifier right => some (left.against right)
  | .literal left, .literal right => some (left.against right)
  | .statement left, .statement right => some (left.against right)
  | .declaration left, .declaration right => some (left.against right)
  | .clause left, .clause right => some (left.against right)
  | .block left, .block right => some (left.against right)
  | .expression left, .expression right => some (left.against right)
  | .body left, .body right => some (Expression.bodyAgainst left right)
  | _, _ => none

/-- Elements that are made of items weigh what the items do. -/
theorem sum_map_make {α : Type} {make : α → Element} {own : α → Nat}
    (same : ∀ item, (make item).weight = own item) (items : List α) :
    Whole.sum ((items.map make).map weight) = Whole.sum (items.map own) := by
  rw [List.map_map]
  congr 1
  exact List.map_congr_left fun item _ => same item

/-- An element that may be missing weighs what it is made of. -/
theorem sum_toList_make {α : Type} {make : α → Element} {own : α → Nat}
    (same : ∀ item, (make item).weight = own item) (item : Option α) :
    Whole.sum ((item.map make).toList.map weight) = (item.map own).getD 0 := by
  cases item with
  | none => rfl
  | some item => simp [same]

/-- The parts of a statement weigh no more than it does. -/
theorem sum_parts_statement_le (value : Statement) :
    Whole.sum ((statement value).parts.map weight) ≤ value.weight := by
  cases value with
  | unary symbol operand => simp [parts, weight, Statement.weight]
  | binary symbol left right => simp [parts, weight, Statement.weight, Nat.add_assoc]
  | literal value => exact Nat.le_refl 1
  | reference name => exact Nat.zero_le 1
  | group items =>
    rw [parts, sum_map_make fun _ => rfl, Statement.weight, Statement.weightOfAll_eq_sum]
    exact Nat.le_add_left _ 1

/-- The parts of a declaration weigh no more than it does. -/
theorem sum_parts_declaration_le (value : Declaration) :
    Whole.sum ((declaration value).parts.map weight) ≤ value.weight := by
  have qualifiers : Whole.sum ((value.qualifiers.map qualifier).map weight) =
      value.qualifiers.length := (sum_map_make (fun _ => rfl) _).trans (Whole.sum_map_one _)
  have initial : Whole.sum ((value.initializer.map statement).toList.map weight) =
      (value.initializer.map Statement.weight).getD 0 := sum_toList_make (fun _ => rfl) _
  rw [parts, List.map_append, Whole.sum_append, qualifiers, initial, Declaration.weight]
  omega

/-- The parts of a catch clause weigh no more than it does. -/
theorem sum_parts_clause_le (value : CatchClause) :
    Whole.sum ((clause value).parts.map weight) ≤ value.weight := by
  obtain ⟨exceptionTypes, binder, items⟩ := value
  have types : Whole.sum ((exceptionTypes.map identifier).map weight) = exceptionTypes.length :=
    (sum_map_make (fun _ => rfl) _).trans (Whole.sum_map_one _)
  rw [parts, List.map_append, Whole.sum_append, types, CatchClause.weight]
  simp only [List.map_cons, List.map_nil, Whole.sum_cons, Whole.sum_nil, weight]
  omega

/-- The parts of a block weigh no more than it does. -/
theorem sum_parts_block_le (value : Block) :
    Whole.sum ((block value).parts.map weight) ≤ value.weight := by
  cases value with
  | branch condition thenBody elseBody => simp [parts, weight, Block.weight, Nat.add_assoc]
  | whileLoop condition items => simp [parts, weight, Block.weight]
  | doWhileLoop condition items => simp [parts, weight, Block.weight]
  | forLoop init condition iteration items => simp [parts, weight, Block.weight, Nat.add_assoc]
  | guarded resources items handlers cleanup =>
    have declarations : Whole.sum ((resources.map declaration).map weight) =
        totalWeight resources := sum_map_make (fun _ => rfl) _
    have clauses : Whole.sum ((handlers.map clause).map weight) =
        CatchClause.weightOfAll handlers :=
      (sum_map_make (fun _ => rfl) _).trans (CatchClause.weightOfAll_eq_sum handlers).symm
    have last : Whole.sum ((cleanup.map body).toList.map weight) =
        Expression.weightOfOptional cleanup := by
      cases cleanup <;> simp [weight, Expression.weightOfOptional]
    simp only [parts, List.map_append, List.map_cons, Whole.sum_append, Whole.sum_cons,
      declarations, clauses, last, weight, Block.weight]
    omega

/-- The parts of an element weigh no more than it does, all of them together. -/
theorem sum_parts_le (element : Element) :
    Whole.sum (element.parts.map weight) ≤ element.weight := by
  cases element with
  | identifier value => exact Nat.zero_le 1
  | qualifier value => exact Nat.zero_le 1
  | literal value => exact Nat.zero_le 1
  | statement value => exact sum_parts_statement_le value
  | declaration value => exact sum_parts_declaration_le value
  | clause value => exact sum_parts_clause_le value
  | block value => exact sum_parts_block_le value
  | expression value =>
    cases value with
    | empty => exact Nat.zero_le 1
    | declaration declared => exact Nat.le_refl _
    | block inner => exact Nat.le_refl _
    | statement value => exact Nat.le_refl _
  | body items =>
    have expressions : Whole.sum ((items.map expression).map weight) =
        Whole.sum (items.map Expression.weight) := sum_map_make (fun _ => rfl) _
    rw [parts, expressions, weight, Expression.weightOfAll_eq_sum]

/-- A part of an element weighs no more than it does. -/
theorem weight_le_of_mem_parts {part whole : Element} (member : part ∈ whole.parts) :
    part.weight ≤ whole.weight := by
  have one : part.weight ≤ Whole.sum (whole.parts.map weight) := by
    rw [Whole.sum_eq_sum]
    exact List.single_le_sum (fun _ _ => Nat.zero_le _) _ (List.mem_map_of_mem member)
  exact Nat.le_trans one whole.sum_parts_le

/-- The comparison of two elements hides nothing of its parts and accounts for both weights. -/
theorem sound_of_against? {left right : Element} {similarity : Similarity}
    (compared : left.against? right = some similarity) :
    similarity.Sound ∧ similarity.Balances left.weight right.weight := by
  revert compared
  fun_cases against? left right <;> rintro ⟨⟩
  · exact ⟨Identifier.sounds _ _, Identifier.conserves _ _⟩
  · exact ⟨Qualifier.sounds _ _, Qualifier.conserves _ _⟩
  · exact ⟨Literal.sounds _ _, Literal.conserves _ _⟩
  · exact ⟨Statement.sounds _ _, Statement.conserves _ _⟩
  · exact ⟨Declaration.sounds _ _, Declaration.conserves _ _⟩
  · exact ⟨hereditary_sound.clauses _ _, hereditary_balances.clauses _ _⟩
  · exact ⟨hereditary_sound.blocks _ _, hereditary_balances.blocks _ _⟩
  · exact ⟨hereditary_sound.expression _ _, hereditary_balances.expression _ _⟩
  · exact ⟨sound_bodies "body" (fun item _ => hereditary_sound.expression item) _,
      balances_bodies "body" (fun item _ => hereditary_balances.expression item) _⟩

end Element

/-- An element of a tree: its expressions together, a part of an element of it, and so on down. -/
def SyntaxTree.Has (tree : SyntaxTree) : Element → Prop :=
  Relation.ReflTransGen (fun whole part => part ∈ whole.parts) (.body tree.expressions)

/-- No element of a tree weighs more than the tree. -/
theorem SyntaxTree.Has.weight_le {tree : SyntaxTree} {element : Element} (has : tree.Has element) :
    element.weight ≤ tree.weight := by
  induction has with
  | refl => exact Nat.le_refl _
  | tail _ member ih => exact Nat.le_trans (Element.weight_le_of_mem_parts member) ih

/-! ## Widths -/

/-- The numbers of a result, and what its percentage is divided from, fit in 64 bits. -/
structure Similarity.FitsIn64 (similarity : Similarity) : Prop where
  matched : similarity.matched ≤ Whole.greatest64
  total : similarity.total ≤ Whole.greatest64
  hundredfold : similarity.matched * 100 ≤ Whole.greatest64

/-- All numbers of the comparison of two trees fit in 64 bits: the weights of everything in them, and
the results of the report and of all comparisons that may be made for it, down to the last part. -/
structure FitIn64 (left right : SyntaxTree) : Prop where
  weights : ∀ element, left.Has element ∨ right.Has element → element.weight ≤ Whole.greatest64
  attempts : ∀ element element' similarity, left.Has element → right.Has element' →
    element.against? element' = some similarity →
      ∀ place ∈ similarity.places, place.result.FitsIn64
  report : ∀ place ∈ (compare left right).places, place.result.FitsIn64

/-- Results of what weighs less than a power of two on each side fit in 64 bits, with all results
below them: these match no more and come to no more. -/
theorem Similarity.fitsIn64_of_balances {similarity : Similarity} {left right : Nat}
    (sound : similarity.Sound) (balances : similarity.Balances left right)
    (small : left < Whole.twoTo 57) (small' : right < Whole.twoTo 57) :
    ∀ place ∈ similarity.places, place.result.FitsIn64 := by
  have inherited (result : Similarity) (known : result.Sound ∧
      result.matched ≤ similarity.matched ∧ result.total ≤ similarity.total) :
      ∀ child ∈ result.children, child.Sound ∧ child.matched ≤ similarity.matched ∧
        child.total ≤ similarity.total := by
    intro child part
    obtain ⟨resultSound, matched, total⟩ := known
    exact ⟨resultSound.parts child part,
      Nat.le_trans (resultSound.candid.gathers child part) matched,
      Nat.le_trans (resultSound.candid.covers child part) total⟩
  have limit : Whole.twoTo 57 = 144115188075855872 := rfl
  have greatest : Whole.greatest64 = 18446744073709551615 := rfl
  obtain ⟨account, within⟩ := balances
  intro place member
  obtain ⟨_, matched, total⟩ := forall_mem_placesAt inherited similarity 0
    ⟨sound, Nat.le_refl _, Nat.le_refl _⟩ place member
  constructor <;> omega

/-- Nothing in the tree of a text weighs as much as a limit that its bytes stay below. -/
theorem weight_lt_of_parse {source : String} {tree : SyntaxTree} {limit : Nat}
    (parsed : parse source = .ok tree) (small : source.utf8ByteSize < limit) {element : Element}
    (has : tree.Has element) : element.weight < limit := by
  obtain ⟨tokens, cut, enough⟩ := exists_tokens_of_weight parsed
  calc element.weight
      ≤ tree.weight := has.weight_le
    _ ≤ (Token.significant tokens).length := enough
    _ ≤ source.utf8ByteSize := length_significant_le cut
    _ < limit := small

/-- A tree weighs no more than its text has tokens that are neither white space nor line feeds nor
comments, and these are no more than the text has bytes. So all numbers that come up in the comparison
of two texts with fewer than `2 ^ 57` bytes fit in 64 bits, matched weights in hundredths too. -/
theorem weight_bounded_by_text :
    (∀ source tree, parse source = .ok tree → ∃ tokens, tokenize source = .ok tokens ∧
      tree.weight ≤ (tokens.filter fun token => !token.kind.isTrivia).length ∧
      (tokens.filter fun token => !token.kind.isTrivia).length ≤ source.utf8ByteSize) ∧
    ∀ source source' tree tree', parse source = .ok tree → parse source' = .ok tree' →
      source.utf8ByteSize < Whole.twoTo 57 → source'.utf8ByteSize < Whole.twoTo 57 →
        FitIn64 tree tree' := by
  constructor
  · intro source tree parsed
    obtain ⟨tokens, cut, enough⟩ := exists_tokens_of_weight parsed
    exact ⟨tokens, cut, enough, length_significant_le cut⟩
  · intro source source' tree tree' parsed parsed' small small'
    have light {element : Element} (has : tree.Has element) :=
      weight_lt_of_parse parsed small has
    have light' {element : Element} (has : tree'.Has element) :=
      weight_lt_of_parse parsed' small' has
    have below : Whole.twoTo 57 ≤ Whole.greatest64 := by decide
    constructor
    · rintro element (has | has)
      · exact Nat.le_trans (Nat.le_of_lt (light has)) below
      · exact Nat.le_trans (Nat.le_of_lt (light' has)) below
    · intro element element' similarity has has' compared
      obtain ⟨sound, balances⟩ := Element.sound_of_against? compared
      exact Similarity.fitsIn64_of_balances sound balances (light has) (light' has')
    · exact Similarity.fitsIn64_of_balances (sounds_compare tree tree')
        (conserves_compare tree tree') (light .refl) (light' .refl)

/-- A `for` whose clauses are left out weighs five, for its keyword, its three clauses and the
semicolon that is its body, and has one token more, which is the parenthesis that opens it. -/
theorem weight_of_bare_for :
    ∃ tree tokens, parse "for (;;) ;" = .ok tree ∧ tree.weight = 5 ∧
      tokenize "for (;;) ;" = .ok tokens ∧
      tree.weight ≤ (tokens.filter fun token => !token.kind.isTrivia).length ∧
      (tokens.filter fun token => !token.kind.isTrivia).length = 6 ∧ FitIn64 tree tree := by
  have shown : (parse "for (;;) ;").toOption.map SyntaxTree.weight = some 5 := by decide +kernel
  have counted : (tokenize "for (;;) ;").toOption.map (fun tokens =>
      (tokens.filter fun token => !token.kind.isTrivia).length) = some 6 := by decide +kernel
  cases parsed : parse "for (;;) ;" with
  | error failure =>
    rw [parsed] at shown
    cases shown
  | ok tree =>
    rw [parsed] at shown
    obtain ⟨bounded, fits⟩ := weight_bounded_by_text
    obtain ⟨tokens, cut, enough, _⟩ := bounded _ _ parsed
    rw [cut] at counted
    refine ⟨tree, tokens, rfl, Option.some.inj shown, cut, enough, Option.some.inj counted, ?_⟩
    exact fits _ _ _ _ parsed parsed (by decide) (by decide)

end Likeness
