import Likeness.Proofs.Comparison.Balance

/-!
# Results hide nothing of their parts

A result adds up what its parts match and what they do not, and perhaps counts more unmatched weight
that is not listed. So what a part leaves unmatched the whole leaves unmatched too, and a result
that matches in full has only such parts. `Similarity.Candid` states this of one result and its
parts, `Similarity.Sound` of all results below it. Every way to put results together keeps it, hence
every comparison of nodes does.
-/

namespace Likeness

namespace Similarity

/-- A result that matches no more than there is, matches no less and leaves no less unmatched than
each of its parts, and matches nothing if it stands for one side only. -/
structure Candid (similarity : Similarity) : Prop where
  bounded : similarity.matched ≤ similarity.total
  covers : ∀ child ∈ similarity.children, child.total ≤ similarity.total
  gathers : ∀ child ∈ similarity.children, child.matched ≤ similarity.matched
  unmatched : ∀ child ∈ similarity.children,
    child.total - child.matched ≤ similarity.total - similarity.matched
  oneSided : similarity.kind = .removed ∨ similarity.kind = .inserted → similarity.matched = 0

/-- A result that is candid, with parts that are. -/
inductive Sound : Similarity → Prop where
  | node {similarity : Similarity} (candid : similarity.Candid)
      (parts : ∀ child ∈ similarity.children, Sound child) : Sound similarity

variable {similarity : Similarity} {children : List Similarity}

theorem Sound.candid (sound : similarity.Sound) : similarity.Candid := by
  cases sound with | node candid _ => exact candid

theorem Sound.parts (sound : similarity.Sound) : ∀ child ∈ similarity.children, child.Sound := by
  cases sound with | node _ parts => exact parts

/-- Results that match no more than there is do so together, and each of them weighs no more, matches
no more and leaves no more unmatched than all. -/
theorem sums_of_bounded (bounded : ∀ child ∈ children, child.matched ≤ child.total) :
    Whole.sum (children.map matched) ≤ Whole.sum (children.map total) ∧
      ∀ child ∈ children, child.total ≤ Whole.sum (children.map total) ∧
        child.matched ≤ Whole.sum (children.map matched) ∧
        child.total - child.matched ≤
          Whole.sum (children.map total) - Whole.sum (children.map matched) := by
  induction children with
  | nil => exact ⟨Nat.le_refl 0, nofun⟩
  | cons first others ih =>
    obtain ⟨onFirst, onOthers⟩ := List.forall_mem_cons.1 bounded
    obtain ⟨sums, each⟩ := ih onOthers
    simp only [List.map_cons, Whole.sum_cons]
    refine ⟨by omega, List.forall_mem_cons.2 ⟨by omega, fun child member => ?_⟩⟩
    obtain ⟨covered, gathered, unmatched⟩ := each child member
    omega

/-- Several sound results together are sound. -/
theorem sound_add (label : String) (parts : ∀ child ∈ children, child.Sound) :
    (add label children).Sound := by
  obtain ⟨sums, each⟩ := sums_of_bounded fun child member => (parts child member).candid.bounded
  refine .node ⟨sums, fun child member => (each child member).1,
    fun child member => (each child member).2.1,
    fun child member => (each child member).2.2, ?_⟩ parts
  rintro (⟨⟨⟩⟩ | ⟨⟨⟩⟩)

/-- A test is sound. -/
theorem sound_leaf (label : String) (equal : Bool) : (leaf label equal).Sound := by
  cases equal with
  | false => exact .node ⟨Nat.zero_le 2, nofun, nofun, nofun, fun _ => rfl⟩ nofun
  | true => exact .node ⟨Nat.le_refl 1, nofun, nofun, nofun, by rintro (⟨⟨⟩⟩ | ⟨⟨⟩⟩)⟩ nofun

/-- More unmatched weight does not hide that of the parts. -/
theorem Sound.withUnmatched (sound : similarity.Sound) (weight : Nat) :
    (similarity.withUnmatched weight).Sound := by
  obtain ⟨bounded, covers, gathers, unmatched, oneSided⟩ := sound.candid
  refine .node ⟨Nat.le_add_right_of_le bounded, ?_, gathers, ?_, oneSided⟩ sound.parts
  · exact fun child member => Nat.le_add_right_of_le (covers child member)
  · intro child member
    refine Nat.le_trans (unmatched child member) (Nat.sub_le_sub_right ?_ _)
    exact Nat.le_add_right _ weight

section Nodes

variable {α β : Type} [Node α] [Node β]

/-- A result with two labels stands for both sides. -/
theorem Sound.between (sound : similarity.Sound) (left : α) (right : β) :
    (similarity.between left right).Sound := by
  obtain ⟨bounded, covers, gathers, unmatched, _⟩ := sound.candid
  refine .node ⟨bounded, covers, gathers, unmatched, ?_⟩ sound.parts
  rintro (⟨⟨⟩⟩ | ⟨⟨⟩⟩)

theorem sound_mismatch (left : α) (right : β) : (mismatch left right).Sound :=
  .node ⟨Nat.zero_le _, nofun, nofun, nofun, fun _ => rfl⟩ nofun

theorem sound_removed (item : α) : (removed item).Sound :=
  .node ⟨Nat.zero_le _, nofun, nofun, nofun, fun _ => rfl⟩ nofun

theorem sound_inserted (item : α) : (inserted item).Sound :=
  .node ⟨Nat.zero_le _, nofun, nofun, nofun, fun _ => rfl⟩ nofun

end Nodes

end Similarity

/-! ## Lists -/

namespace Alignment

variable {α β : Type} {compare : α → β → Similarity} {lefts : List α} {rights : List β}
  {steps : List (AlignStep α β)}

/-- What holds of a pair, of a removed and of an inserted item holds of every step of a walk. -/
theorem Walk.forall_mem (walk : Walk compare lefts rights steps) {property : AlignStep α β → Prop}
    (pair : ∀ left ∈ lefts, ∀ right ∈ rights, property (.pair left right (compare left right)))
    (removed : ∀ left ∈ lefts, property (.removed left))
    (inserted : ∀ right ∈ rights, property (.inserted right)) : ∀ step ∈ steps, property step := by
  induction walk with
  | done => exact nofun
  | pair left right _ ih =>
    refine List.forall_mem_cons.2 ⟨pair left (.head _) right (.head _), ih ?_ ?_ ?_⟩
    · exact fun left member right member' => pair left (.tail _ member) right (.tail _ member')
    · exact fun left member => removed left (.tail _ member)
    · exact fun right member => inserted right (.tail _ member)
  | removed left _ ih =>
    refine List.forall_mem_cons.2 ⟨removed left (.head _), ih ?_ ?_ inserted⟩
    · exact fun left member => pair left (.tail _ member)
    · exact fun left member => removed left (.tail _ member)
  | inserted right _ ih =>
    refine List.forall_mem_cons.2 ⟨inserted right (.head _), ih ?_ removed ?_⟩
    · exact fun left member right member' => pair left member right (.tail _ member')
    · exact fun right member => inserted right (.tail _ member)

variable [Node α] [Node β]

/-- Two lists with their gaps have a sound result, if their items do. -/
theorem sound_gaps (label : String)
    (items : ∀ left ∈ lefts, ∀ right ∈ rights, (compare left right).Sound) :
    (gaps compare label lefts rights).Sound := by
  refine Similarity.sound_add label (List.forall_mem_map.2 ?_)
  exact (optimal_align compare lefts rights).walk.forall_mem items
    (fun left _ => Similarity.sound_removed left) (fun right _ => Similarity.sound_inserted right)

/-- Two lists in order have a sound result, if their items do. -/
theorem sound_ordered (label : String)
    (items : ∀ left ∈ lefts, ∀ right ∈ rights, (compare left right).Sound) :
    (ordered compare label lefts rights).Sound := by
  have steps : ∀ step ∈ align compare lefts rights, ∀ similarity,
      paired? step = some similarity → similarity.Sound := by
    refine (optimal_align compare lefts rights).walk.forall_mem ?_ nofun nofun
    rintro left member right member' _ ⟨⟩
    exact items left member right member'
  refine (Similarity.sound_add label fun child member => ?_).withUnmatched _
  obtain ⟨step, isStep, paired⟩ := List.mem_filterMap.1 member
  exact steps step isStep child paired

end Alignment

/-- Two lists without order have a sound result, if their items do. -/
theorem Assignment.sound_unordered {α β : Type} [Node α] [Node β] {compare : α → β → Similarity}
    (label : String) (items : ∀ left right, (compare left right).Sound) (lefts : List α)
    (rights : List β) : (unordered compare label lefts rights).Sound := by
  rw [unordered_eq]
  refine (Similarity.sound_add label (List.forall_mem_map.2 ?_)).withUnmatched _
  exact fun pair _ => items (lefts.get pair.1) (rights.get pair.2)

/-! ## Nodes -/

/-- A comparison of nodes with sound results. -/
def Sounds {α : Type} (against : α → α → Similarity) : Prop :=
  ∀ left right, (against left right).Sound

theorem Identifier.sounds : Sounds Identifier.against := fun left right =>
  (Similarity.sound_leaf _ _).between left right

theorem Qualifier.sounds : Sounds Qualifier.against := fun left right =>
  (Similarity.sound_leaf _ _).between left right

/-- Literals have sound results. -/
theorem Literal.sounds : Sounds Literal.against := by
  intro left right
  rw [Literal.against]
  split
  · exact (Similarity.sound_leaf _ _).between left right
  · exact Similarity.sound_mismatch left right

/-- Statements have sound results: their operands and the items in their parentheses do. -/
theorem Statement.sounds : Sounds Statement.against := by
  intro left
  induction left using Statement.induction with
  | unary symbol operand ih =>
    intro right
    cases right with
    | unary symbol' operand' =>
      rw [Statement.against]
      split
      · refine (Similarity.sound_add _ ?_).between _ _
        simp [Similarity.sound_leaf, ih operand']
      · exact Similarity.sound_mismatch _ _
    | _ => exact Similarity.sound_mismatch _ _
  | binary symbol first second ihFirst ihSecond =>
    intro right
    cases right with
    | binary symbol' first' second' =>
      rw [Statement.against]
      split
      · refine (Similarity.sound_add _ ?_).between _ _
        simp [Similarity.sound_leaf, ihFirst first', ihSecond second']
      · exact Similarity.sound_mismatch _ _
    | _ => exact Similarity.sound_mismatch _ _
  | literal value =>
    intro right
    cases right with
    | literal value' => exact Literal.sounds value value'
    | _ => exact Similarity.sound_mismatch _ _
  | reference name =>
    intro right
    cases right with
    | reference name' => exact (Similarity.sound_leaf _ _).between _ _
    | _ => exact Similarity.sound_mismatch _ _
  | group items ih =>
    intro right
    cases right with
    | group items' =>
      have inside := Alignment.sound_ordered "parameters" fun left member right
        (_ : right ∈ items') => ih left member right
      rw [Alignment.ordered, ← Statement.comparisons_eq] at inside
      rw [Statement.against]
      refine (Similarity.sound_add _ ?_).between _ _
      simp [Similarity.sound_leaf, inside]
    | _ => exact Similarity.sound_mismatch _ _

/-- Parts that may be missing have sound results. -/
theorem sound_of_mem_optionalAgainst {α : Type} [Node α] {against : α → α → Similarity}
    (sounds : Sounds against) (left right : Option α) :
    ∀ part ∈ (optionalAgainst against left right).toList, part.Sound := by
  cases left with
  | none =>
    cases right with
    | none => exact nofun
    | some right => simpa [optionalAgainst] using Similarity.sound_inserted right
  | some left =>
    cases right with
    | none => simpa [optionalAgainst] using Similarity.sound_removed left
    | some right => simpa [optionalAgainst] using sounds left right

/-- Declarations have sound results. -/
theorem Declaration.sounds : Sounds Declaration.against := by
  intro left right
  refine (Similarity.sound_add _ (List.forall_mem_append.2 ⟨?_, ?_⟩)).between left right
  · simp [Similarity.sound_leaf, Assignment.sound_unordered _ Qualifier.sounds]
  · exact sound_of_mem_optionalAgainst Statement.sounds left.initializer right.initializer

/-- Bodies have sound results, if their expressions do. -/
theorem sound_bodies {lefts : List Expression} (label : String)
    (items : ∀ left ∈ lefts, ∀ right, (left.against right).Sound) (rights : List Expression) :
    (Alignment.gaps Expression.against label lefts rights).Sound :=
  Alignment.sound_gaps label fun left member right _ => items left member right

namespace Block

/-- Blocks of one kind have sound results, if their parts do. -/
theorem sound_sameKind (left right : Block) {parts : List Similarity}
    (sound : ∀ part ∈ parts, part.Sound) : (left.sameKind right parts).Sound :=
  (Similarity.sound_add _ (List.forall_mem_cons.2
    ⟨Similarity.sound_leaf _ true, sound⟩)).between left right

/-- What is shown for bodies is sound, if their comparisons are. -/
theorem sound_bodiesShown {lefts rights : List (List Expression)}
    (items : ∀ body ∈ lefts, ∀ other ∈ rights, (Expression.bodyAgainst body other).Sound) :
    ∀ step ∈ Alignment.align Expression.bodyAgainst lefts rights, (bodyShown step).Sound := by
  refine (Alignment.optimal_align Expression.bodyAgainst lefts rights).walk.forall_mem items ?_ ?_
  · exact fun body _ => Similarity.sound_add "body" (List.forall_mem_map.2 fun item _ =>
      Similarity.sound_removed item)
  · exact fun body _ => Similarity.sound_add "body" (List.forall_mem_map.2 fun item _ =>
      Similarity.sound_inserted item)

/-- Blocks of different kinds have sound results as soon as their bodies do. -/
theorem sound_of_keyword_ne {left right : Block} (different : left.keyword ≠ right.keyword)
    (items : ∀ body ∈ left.bodies, ∀ item ∈ body, ∀ right, (item.against right).Sound) :
    (left.against right).Sound := by
  have bodies := sound_bodiesShown fun body member other (_ : other ∈ right.bodies) =>
    sound_bodies "body" (items body member) other
  have conditions : ∀ part ∈ (conditionsAgainst left.condition right.condition).toList,
      part.Sound := by
    fun_cases conditionsAgainst left.condition right.condition with
    | case1 condition condition' => simpa using Statement.sounds condition condition'
    | case2 => exact nofun
  rw [Block.against_of_keyword_ne different, acrossKinds_eq]
  refine ((Similarity.sound_add _ (List.forall_mem_cons.2
    ⟨Similarity.sound_leaf _ false, List.forall_mem_append.2 ⟨conditions, ?_⟩⟩)).withUnmatched
      _).between left right
  rw [List.forall_mem_singleton]
  exact Similarity.sound_add "bodies" (List.forall_mem_map.2 bodies)

end Block

/-- Expressions, blocks and catch clauses have sound results, by induction on the left one. -/
theorem hereditary_sound : Expression.Hereditary
    (fun left => ∀ right, (left.against right).Sound)
    (fun left => ∀ right, (left.against right).Sound)
    (fun left => ∀ right, (left.against right).Sound) where
  empty := by
    intro right
    cases right with
    | empty => exact (Similarity.sound_leaf _ true).between _ _
    | _ => exact Similarity.sound_mismatch _ _
  declaration := by
    intro declared right
    cases right with
    | declaration declared' => exact Declaration.sounds declared declared'
    | _ => exact Similarity.sound_mismatch _ _
  statement := by
    intro value right
    cases right with
    | statement value' => exact Statement.sounds value value'
    | _ => exact Similarity.sound_mismatch _ _
  block := by
    intro inner ih right
    cases right with
    | block inner' => exact ih inner'
    | _ => exact Similarity.sound_mismatch _ _
  branch := by
    intro condition thenBody elseBody ihThen ihElse right
    cases right with
    | branch condition' thenBody' elseBody' =>
      rw [Block.against_branch]
      refine Block.sound_sameKind _ _ ?_
      simp [Statement.sounds condition condition', sound_bodies "then" ihThen thenBody',
        sound_bodies "else" ihElse elseBody']
    | _ =>
      refine Block.sound_of_keyword_ne (by simp [Block.keyword]) ?_
      simpa [Block.bodies] using ⟨ihThen, ihElse⟩
  whileLoop := by
    intro condition body ih right
    cases right with
    | whileLoop condition' body' =>
      rw [Block.against_whileLoop]
      refine Block.sound_sameKind _ _ ?_
      simp [Statement.sounds condition condition', sound_bodies "body" ih body']
    | _ =>
      refine Block.sound_of_keyword_ne (by simp [Block.keyword]) ?_
      simpa [Block.bodies] using ih
  doWhileLoop := by
    intro condition body ih right
    cases right with
    | doWhileLoop condition' body' =>
      rw [Block.against_doWhileLoop]
      refine Block.sound_sameKind _ _ ?_
      simp [Statement.sounds condition condition', sound_bodies "body" ih body']
    | _ =>
      refine Block.sound_of_keyword_ne (by simp [Block.keyword]) ?_
      simpa [Block.bodies] using ih
  forLoop := by
    intro init condition iteration body ihInit ihCondition ihIteration ih right
    cases right with
    | forLoop init' condition' iteration' body' =>
      rw [Block.against_forLoop]
      refine Block.sound_sameKind _ _ ?_
      simp [ihInit init', ihCondition condition', ihIteration iteration',
        sound_bodies "body" ih body']
    | _ =>
      refine Block.sound_of_keyword_ne (by simp [Block.keyword]) ?_
      simpa [Block.bodies] using ih
  guarded := by
    intro resources body handlers cleanup ihBody ihHandlers ihCleanup right
    cases right with
    | guarded resources' body' handlers' cleanup' =>
      have ofResources := Alignment.sound_ordered "resources" fun left
        (_ : left ∈ resources) right (_ : right ∈ resources') => Declaration.sounds left right
      have ofHandlers := Alignment.sound_ordered "catches" fun left member right
        (_ : right ∈ handlers') => (ihHandlers left member).1 right
      rw [Block.against_guarded]
      refine Block.sound_sameKind _ _ ?_
      simp [ofResources, ofHandlers, sound_bodies "try" ihBody body',
        sound_bodies "finally" ihCleanup (cleanup'.getD [])]
    | _ =>
      refine Block.sound_of_keyword_ne (by simp [Block.keyword]) ?_
      exact Block.forall_mem_bodies_guarded ihBody
        (fun clause member => (ihHandlers clause member).2) ihCleanup
  clause := by
    intro exceptionTypes binder body ih right
    rw [CatchClause.against_eq]
    refine (Similarity.sound_add _ ?_).between _ _
    simp [Similarity.sound_leaf, Assignment.sound_unordered _ Identifier.sounds,
      sound_bodies "catch" ih right.body]

theorem sounds_compare : Sounds compare := fun _ right =>
  sound_bodies "file" (fun item _ => hereditary_sound.expression item) right.expressions

end Likeness
