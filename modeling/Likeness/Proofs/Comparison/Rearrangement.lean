import Likeness.Proofs.Comparison.Insertion

/-!
# Rearranged trees

A tree may have its qualifiers and exception types in another order and an empty `finally` where
there was none, at any depth. It is then alike to what it was with every literal kept. Such trees
are interchangeable: they weigh the same, and whatever they are compared to matches as much of them.
Leaves without order match in what two lists have in common, which no order changes; lists match in
the score of a best walk, which only depends on the scores of their items; and an empty body that
joins the bodies of a block weighs nothing, so it adds nothing.
-/

namespace Likeness

/-- Two nodes on the right that weigh the same and match as much, whatever they are compared to. -/
structure Interchangeable {α β : Type} (compare : α → β → Similarity) (weight : β → Nat)
    (right right' : β) : Prop where
  weight_eq : weight right' = weight right
  matched_eq : ∀ left, (compare left right').matched = (compare left right).matched

section Lists

variable {α β : Type} {compare : α → β → Similarity} {weight : β → Nat} {right right' : β}
  {rights rights' : List β}

/-- A node that rises without growing is interchangeable with what it was. -/
theorem Raises.interchangeable (raises : Raises compare weight right right')
    (same : weight right' = weight right) : Interchangeable compare weight right right' where
  weight_eq := same
  matched_eq left := by
    obtain ⟨atLeast, atMost⟩ := raises.rise left
    omega

/-- Interchangeable nodes rise by nothing. -/
theorem Interchangeable.raises (interchangeable : Interchangeable compare weight right right') :
    Raises compare weight right right' := by
  obtain ⟨weights, matched⟩ := interchangeable
  refine ⟨weights.ge, fun left => ?_⟩
  rw [weights, matched]
  exact ⟨Nat.le_refl _, Nat.le_refl _⟩

theorem Interchangeable.refl (compare : α → β → Similarity) (weight : β → Nat) (right : β) :
    Interchangeable compare weight right right :=
  ⟨rfl, fun _ => rfl⟩

/-- Lists of interchangeable items are lists into which nothing is inserted. -/
theorem insertion_of_interchangeable
    (each : List.Forall₂ (Interchangeable compare weight) rights rights') :
    Insertion (Raises compare weight) rights rights' :=
  .of_forall₂ (each.imp fun _ _ => Interchangeable.raises)

/-- Lists of interchangeable items weigh the same. -/
theorem sum_weight_eq (each : List.Forall₂ (Interchangeable compare weight) rights rights') :
    Whole.sum (rights'.map weight) = Whole.sum (rights.map weight) := by
  induction each with
  | nil => rfl
  | cons first _ ih => rw [List.map_cons, List.map_cons, Whole.sum_cons, Whole.sum_cons, ih,
      first.weight_eq]

namespace Alignment

/-- Insertions without weight leave the score of an alignment as it is. -/
theorem score_align_eq_of_insertion (inserted : Insertion (Raises compare weight) rights rights')
    (bounded : ∀ left right, (compare left right).matched ≤ weight right)
    (same : Whole.sum (rights'.map weight) = Whole.sum (rights.map weight)) (lefts : List α) :
    score (align compare lefts rights') = score (align compare lefts rights) := by
  obtain ⟨atLeast, atMost⟩ := rise_align inserted bounded lefts
  omega

variable [Node α] [Node β]

/-- Lists of interchangeable items are interchangeable with their gaps. -/
theorem interchangeable_gaps (label : String)
    (each : List.Forall₂ (Interchangeable compare Node.weight) rights rights')
    (bounded : ∀ left right, (compare left right).matched ≤ Node.weight right) :
    Interchangeable (gaps compare label) totalWeight rights rights' :=
  (raises_gaps label (insertion_of_interchangeable each) bounded).interchangeable
    (sum_weight_eq each)

/-- Lists of interchangeable items are interchangeable in order. -/
theorem interchangeable_ordered (label : String)
    (each : List.Forall₂ (Interchangeable compare Node.weight) rights rights')
    (bounded : ∀ left right, (compare left right).matched ≤ Node.weight right) :
    Interchangeable (ordered compare label) totalWeight rights rights' :=
  (raises_ordered label (insertion_of_interchangeable each) bounded).interchangeable
    (sum_weight_eq each)

end Alignment

/-- Leaves without order are interchangeable with the same ones in another order. -/
theorem Assignment.interchangeable_unordered [DecidableEq α] [Node α]
    {compare : α → α → Similarity} {rights rights' : List α}
    (leaves : ∀ left right, (compare left right).matched = if left = right then 1 else 0)
    (label : String) (rearranged : rights.Perm rights') :
    Interchangeable (unordered compare label) List.length rights rights' where
  weight_eq := rearranged.length_eq.symm
  matched_eq lefts := by
    rw [matched_unordered_leaves leaves, matched_unordered_leaves leaves,
      rearranged.bagInter_left lefts]

end Lists

/-! ## Statements and declarations -/

/-- Items that are related to those of another list may be related in another way. -/
theorem forall₂_imp_of_mem {α β : Type} {relation relation' : α → β → Prop} {items : List α}
    {others : List β} (related : List.Forall₂ relation items others)
    (each : ∀ item ∈ items, ∀ other, relation item other → relation' item other) :
    List.Forall₂ relation' items others := by
  have both := (List.forall₂_and_left items others).2 ⟨each, related⟩
  exact both.imp fun item other ⟨onItem, related⟩ => onItem other related

/-- Statements that are alike with every literal kept are the same. -/
theorem Statement.Alike.eq {statement : Statement} :
    ∀ other, Statement.Alike Eq statement other → other = statement := by
  induction statement using Statement.induction with
  | unary symbol operand ih =>
    rintro _ ⟨_, inner⟩
    rw [ih _ inner]
  | binary symbol first second ihFirst ihSecond =>
    rintro _ (_ | ⟨_, onFirst, onSecond⟩)
    rw [ihFirst _ onFirst, ihSecond _ onSecond]
  | literal value =>
    rintro _ (_ | _ | equal)
    rw [equal]
  | reference name =>
    rintro _ ⟨_⟩
    rfl
  | group items ih =>
    rintro _ (_ | _ | _ | _ | inner)
    have same := forall₂_imp_of_mem inner fun item member other alike =>
      (ih item member other alike).symm
    rw [List.forall₂_eq_eq_eq] at same
    rw [same]

/-- Initial values that are alike with every literal kept are the same. -/
theorem optional_eq_of_alike {value value' : Option Statement}
    (alike : Option.Rel (Statement.Alike Eq) value value') : value' = value := by
  cases alike with
  | none => rfl
  | some inner => rw [inner.eq]

/-- Declarations that are alike with every literal kept are interchangeable. -/
theorem Declaration.Alike.interchangeable {declared declared' : Declaration}
    (alike : Declaration.Alike Eq declared declared') :
    Interchangeable Declaration.against Declaration.weight declared declared' := by
  have qualifiers := Assignment.interchangeable_unordered Qualifier.matched_against "qualifiers"
    alike.qualifiers
  have initializer := optional_eq_of_alike alike.initializer
  constructor
  · rw [Declaration.weight, Declaration.weight, qualifiers.weight_eq, initializer]
  · intro left
    simp only [Declaration.against, Similarity.matched_between, Similarity.matched_add,
      List.map_append, List.map_cons, qualifiers.matched_eq, alike.typeText, alike.name,
      initializer]

/-! ## Blocks -/

/-- Bodies of interchangeable expressions are interchangeable. -/
theorem interchangeable_bodies (label : String) {rights rights' : List Expression}
    (items : ∀ right ∈ rights, ∀ right', Expression.Alike Eq right right' →
      Interchangeable Expression.against Expression.weight right right')
    (alike : List.Forall₂ (Expression.Alike Eq) rights rights') :
    Interchangeable (Alignment.gaps Expression.against label) Expression.weightOfAll rights
      rights' := by
  rw [← funext Expression.totalWeight_eq]
  exact Alignment.interchangeable_gaps label (forall₂_imp_of_mem alike items) fun left right =>
    (hereditary_balances.expression left right).matched_le_right

namespace Block

/-- No more of a body is matched than it weighs. -/
theorem matched_bodyAgainst_le (left right : List Expression) :
    (Expression.bodyAgainst left right).matched ≤ Expression.weightOfAll right :=
  (balances_bodies "body" (fun item _ => hereditary_balances.expression item)
    right).matched_le_right

/-- An alignment with bodies matches as much when each is replaced by an interchangeable one. -/
theorem score_align_bodies_eq {bodies bodies' : List (List Expression)}
    (each : List.Forall₂ (Interchangeable Expression.bodyAgainst Expression.weightOfAll) bodies
      bodies') (lefts : List (List Expression)) :
    Alignment.score (Alignment.align Expression.bodyAgainst lefts bodies') =
      Alignment.score (Alignment.align Expression.bodyAgainst lefts bodies) :=
  Alignment.score_align_eq_of_insertion (insertion_of_interchangeable each) matched_bodyAgainst_le
    (sum_weight_eq each) lefts

/-- A body that is missing among others matches as much as an empty one. -/
theorem score_align_getD (bodies : List (List Expression)) (last : Option (List Expression))
    (lefts : List (List Expression)) :
    Alignment.score (Alignment.align Expression.bodyAgainst lefts (bodies ++ [last.getD []])) =
      Alignment.score (Alignment.align Expression.bodyAgainst lefts (bodies ++ last.toList)) := by
  cases last with
  | some body => rfl
  | none =>
    have kept : Insertion (Raises Expression.bodyAgainst Expression.weightOfAll) bodies bodies :=
      .of_forall₂ (List.forall₂_same.2 fun body _ => .refl _ _ body)
    refine Alignment.score_align_eq_of_insertion (kept.append (.insert [] .nil))
      matched_bodyAgainst_le ?_ lefts
    simp [Expression.weightOfAll]

/-- Blocks are interchangeable when they are for blocks of their kind and their bodies match alike;
blocks of other kinds look at nothing else that may change. -/
theorem interchangeable_of_bodies {right right' : Block} (keyword : right'.keyword = right.keyword)
    (condition : right'.condition = right.condition) (weights : right'.weight = right.weight)
    (bodies : ∀ lefts,
      Alignment.score (Alignment.align Expression.bodyAgainst lefts right'.bodies) =
        Alignment.score (Alignment.align Expression.bodyAgainst lefts right.bodies))
    (sameKind : ∀ left : Block, left.keyword = right.keyword →
      (left.against right').matched = (left.against right).matched) :
    Interchangeable Block.against Block.weight right right' where
  weight_eq := weights
  matched_eq left := by
    by_cases kinds : left.keyword = right.keyword
    · exact sameKind left kinds
    · rw [matched_of_keyword_ne kinds, matched_of_keyword_ne (keyword ▸ kinds), condition, bodies]

/-- The condition of a `for` block stays the same when its clauses are rearranged. -/
theorem condition_eq_of_alike {init init' condition condition' iteration iteration' : Expression}
    {body body' : List Expression} (alike : Expression.Alike Eq condition condition') :
    (Block.forLoop init' condition' iteration' body').condition =
      (Block.forLoop init condition iteration body).condition := by
  cases alike with
  | statement inner =>
    rw [inner.eq]
    rfl
  | _ => rfl

end Block

/-- The bodies of catch clauses that are alike. -/
theorem CatchClause.Alike.body {same : Literal → Literal → Prop} {clause clause' : CatchClause}
    (alike : CatchClause.Alike same clause clause') :
    List.Forall₂ (Expression.Alike same) clause.body clause'.body := by
  obtain ⟨_, _, bodies⟩ := alike
  exact bodies

/-- Expressions, blocks and catch clauses that are alike with every literal kept are
interchangeable, by induction on the first one. -/
theorem hereditary_interchangeable : Expression.Hereditary
    (fun right => ∀ right', Expression.Alike Eq right right' →
      Interchangeable Expression.against Expression.weight right right')
    (fun right => ∀ right', Block.Alike Eq right right' →
      Interchangeable Block.against Block.weight right right')
    (fun right => ∀ right', CatchClause.Alike Eq right right' →
      Interchangeable CatchClause.against CatchClause.weight right right') where
  empty := by
    rintro _ ⟨⟩
    exact .refl _ _ _
  declaration := by
    rintro declared _ (_ | inner)
    obtain ⟨weights, matched⟩ := inner.interchangeable
    refine ⟨weights, fun left => ?_⟩
    cases left with
    | declaration declared' => exact matched declared'
    | _ => rfl
  statement := by
    rintro value _ (_ | _ | _ | inner)
    rw [inner.eq]
    exact .refl _ _ _
  block := by
    rintro inner ih _ (_ | _ | blocks)
    obtain ⟨weights, matched⟩ := ih _ blocks
    refine ⟨weights, fun left => ?_⟩
    cases left with
    | block inner' => exact matched inner'
    | _ => rfl
  branch := by
    intro condition thenBody elseBody ihThen ihElse right' alike
    cases alike with | branch conditions thenBodies elseBodies
    obtain rfl := conditions.eq
    refine Block.interchangeable_of_bodies rfl rfl ?_ (Block.score_align_bodies_eq
      (.cons (interchangeable_bodies "body" ihThen thenBodies)
        (.cons (interchangeable_bodies "body" ihElse elseBodies) .nil))) fun left kinds => ?_
    · rw [Block.weight, Block.weight, (interchangeable_bodies "then" ihThen thenBodies).weight_eq,
        (interchangeable_bodies "else" ihElse elseBodies).weight_eq]
    cases left with
    | branch condition' thenBody' elseBody' =>
      simp only [Block.against_branch, Block.matched_sameKind, List.map_cons,
        (interchangeable_bodies "then" ihThen thenBodies).matched_eq,
        (interchangeable_bodies "else" ihElse elseBodies).matched_eq]
    | _ => simp [Block.keyword] at kinds
  whileLoop := by
    intro condition body ih right' alike
    cases alike with | whileLoop conditions bodies
    obtain rfl := conditions.eq
    have inside := interchangeable_bodies "body" ih bodies
    refine Block.interchangeable_of_bodies rfl rfl ?_
      (Block.score_align_bodies_eq (.cons inside .nil)) fun left kinds => ?_
    · rw [Block.weight, Block.weight, inside.weight_eq]
    cases left with
    | whileLoop condition' body' =>
      simp only [Block.against_whileLoop, Block.matched_sameKind, List.map_cons, inside.matched_eq]
    | _ => simp [Block.keyword] at kinds
  doWhileLoop := by
    intro condition body ih right' alike
    cases alike with | doWhileLoop conditions bodies
    obtain rfl := conditions.eq
    have inside := interchangeable_bodies "body" ih bodies
    refine Block.interchangeable_of_bodies rfl rfl ?_
      (Block.score_align_bodies_eq (.cons inside .nil)) fun left kinds => ?_
    · rw [Block.weight, Block.weight, inside.weight_eq]
    cases left with
    | doWhileLoop condition' body' =>
      simp only [Block.against_doWhileLoop, Block.matched_sameKind, List.map_cons,
        inside.matched_eq]
    | _ => simp [Block.keyword] at kinds
  forLoop := by
    intro init condition iteration body ihInit ihCondition ihIteration ih right' alike
    cases alike with | forLoop inits conditions iterations bodies
    have onInit := ihInit _ inits
    have onCondition := ihCondition _ conditions
    have onIteration := ihIteration _ iterations
    have inside := interchangeable_bodies "body" ih bodies
    refine Block.interchangeable_of_bodies rfl (Block.condition_eq_of_alike conditions) ?_
      (Block.score_align_bodies_eq (.cons inside .nil)) fun left kinds => ?_
    · rw [Block.weight, Block.weight, onInit.weight_eq, onCondition.weight_eq,
        onIteration.weight_eq, inside.weight_eq]
    cases left with
    | forLoop init' condition' iteration' body' =>
      simp only [Block.against_forLoop, Block.matched_sameKind, List.map_cons, onInit.matched_eq,
        onCondition.matched_eq, onIteration.matched_eq, inside.matched_eq]
    | _ => simp [Block.keyword] at kinds
  guarded := by
    intro resources body handlers cleanup ihBody ihHandlers ihCleanup right' alike
    cases alike with | guarded opened bodies clauses cleanups
    have onResources := Alignment.interchangeable_ordered "resources"
      (opened.imp fun _ _ => Declaration.Alike.interchangeable)
      fun left right => (Declaration.conserves left right).matched_le_right
    have onBody := interchangeable_bodies "try" ihBody bodies
    have onHandlers := Alignment.interchangeable_ordered "catches"
      (forall₂_imp_of_mem clauses fun clause member => (ihHandlers clause member).1)
      fun left right => (hereditary_balances.clauses left right).matched_le_right
    have onCleanup := interchangeable_bodies "finally" ihCleanup cleanups
    refine Block.interchangeable_of_bodies rfl rfl ?_ (fun lefts => ?_) fun left kinds => ?_
    · rw [Block.weight, Block.weight, onResources.weight_eq, onBody.weight_eq,
        ← CatchClause.totalWeight_eq, onHandlers.weight_eq, CatchClause.totalWeight_eq,
        Expression.weightOfOptional_eq, onCleanup.weight_eq, ← Expression.weightOfOptional_eq]
    · -- A missing cleanup is filled in on both sides, so that bodies stand against bodies.
      have clauseBodies := List.forall₂_map_left_iff.2 (List.forall₂_map_right_iff.2
        (forall₂_imp_of_mem clauses fun clause member _ alike =>
          interchangeable_bodies "body" (ihHandlers clause member).2 alike.body))
      have each := List.Forall₂.cons (interchangeable_bodies "body" ihBody bodies)
        (List.rel_append clauseBodies
          (.cons (interchangeable_bodies "body" ihCleanup cleanups) .nil))
      rw [Block.bodies, Block.bodies, ← List.cons_append, ← Block.score_align_getD,
        ← List.cons_append, ← Block.score_align_getD]
      exact Block.score_align_bodies_eq each lefts
    cases left with
    | guarded resources' body' handlers' cleanup' =>
      simp only [Block.against_guarded, Block.matched_sameKind, List.map_cons,
        onResources.matched_eq, onBody.matched_eq, onHandlers.matched_eq, onCleanup.matched_eq]
    | _ => simp [Block.keyword] at kinds
  clause := by
    intro exceptionTypes binder body ih right' alike
    cases alike with | clause _ types bodies
    have onTypes := Assignment.interchangeable_unordered Identifier.matched_against
      "exception types" types
    have onBody := interchangeable_bodies "catch" ih bodies
    refine ⟨?_, fun left => ?_⟩
    · rw [CatchClause.weight, CatchClause.weight, onTypes.weight_eq, onBody.weight_eq]
    · simp only [CatchClause.against_eq, Similarity.matched_between, Similarity.matched_add,
        List.map_cons, onTypes.matched_eq, onBody.matched_eq]

/-! ## Trees -/

/-- Rearranged trees are interchangeable. -/
theorem SyntaxTree.Alike.interchangeable {tree tree' : SyntaxTree}
    (alike : SyntaxTree.Alike Eq tree tree') :
    Interchangeable compare SyntaxTree.weight tree tree' :=
  have inside := interchangeable_bodies "file"
    (fun item _ => hereditary_interchangeable.expression item) alike
  ⟨inside.weight_eq, fun left => inside.matched_eq left.expressions⟩

/-- A tree may have its qualifiers and exception types in another order, an empty `finally` where
there was none and none where there was an empty one, at any depth: with any other tree it has the
same two weights as before, on whichever side it stands. -/
theorem comparison_ignores_order (tree tree' other : SyntaxTree)
    (alike : SyntaxTree.Alike Eq tree tree') :
    ((compare tree' other).matched = (compare tree other).matched ∧
        (compare tree' other).total = (compare tree other).total) ∧
      (compare other tree').matched = (compare other tree).matched ∧
        (compare other tree').total = (compare other tree).total := by
  obtain ⟨weights, equal⟩ := alike.interchangeable
  have matched := equal other
  have account := (conserves_compare other tree).account
  have account' := (conserves_compare other tree').account
  have total : (compare other tree').total = (compare other tree).total := by
    simp only [Node.weight] at account account'
    omega
  obtain ⟨matchedBack, totalBack⟩ := symmetrical_compare tree other
  obtain ⟨matchedBack', totalBack'⟩ := symmetrical_compare tree' other
  exact ⟨⟨by rw [matchedBack', matched, matchedBack], by rw [totalBack', total, totalBack]⟩,
    matched, total⟩

/-- A `try` inside a loop has its resource qualified and its exceptions caught in another order, and
it gains an empty `finally`: a loop around an `if` matches as much of it as before. -/
theorem comparison_ignores_order_of_try :
    let guarded := fun qualifiers exceptionTypes cleanup =>
      SyntaxTree.mk [.block (.whileLoop (.reference "more")
        [.block (.guarded [⟨qualifiers, "File", "file", none⟩] [.statement (.reference "step")]
          [⟨exceptionTypes, "error", [.empty]⟩] cleanup)])]
    let tree := guarded [.finalWord, .staticWord] [⟨"Missing"⟩, ⟨"Closed"⟩] none
    let tree' := guarded [.staticWord, .finalWord] [⟨"Closed"⟩, ⟨"Missing"⟩] (some [])
    let other := SyntaxTree.mk [.block (.whileLoop (.reference "more")
      [.block (.branch (.reference "found") [.empty] [.statement (.reference "step")])])]
    SyntaxTree.Alike Eq tree tree' ∧ (compare tree' other).matched = (compare tree other).matched ∧
      (compare other tree').total = (compare other tree).total := by
  intro guarded tree tree' other
  have resource : Declaration.Alike Eq ⟨[.finalWord, .staticWord], "File", "file", none⟩
      ⟨[.staticWord, .finalWord], "File", "file", none⟩ := ⟨.swap _ _ _, rfl, rfl, .none⟩
  have alike : SyntaxTree.Alike Eq tree tree' :=
    .cons (.block (.whileLoop (.reference _) (.cons (.block (.guarded (.cons resource .nil)
      (.cons (.statement (.reference _)) .nil)
      (.cons (.clause _ (.swap _ _ _) (.cons .empty .nil)) .nil) .nil)) .nil))) .nil
  obtain ⟨⟨matched, _⟩, _, total⟩ := comparison_ignores_order tree tree' other alike
  exact ⟨alike, matched, total⟩

end Likeness
