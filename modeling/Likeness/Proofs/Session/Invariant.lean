import Likeness.Proofs.Session.Reach
import Likeness.Proofs.Token.Lossless

/-!
# Places along a session

However a session is driven, each of its cursors stands in its text: in front of a character or at
the end, with the line and the column that the text before comes to. `Session.Effect` says once what
an action can do with the cursors. All that is built, cut off or passed over moves the top cursor on
by some characters, which keeps it in the text and not in front of the cursors below; a place is
noted only if it is further than the one noted before. `Session.Sound` collects what is kept that
way along a whole run, with branches that are dropped and branches that are committed.
-/

namespace Likeness

namespace Cursor

variable {source : String} {cursor middle later : Cursor}

/-! ## Moving on -/

/-- A place in the same text some characters further on. -/
def LeadsTo (cursor later : Cursor) : Prop := ∃ count, later = cursor.skip count

theorem LeadsTo.refl (cursor : Cursor) : cursor.LeadsTo cursor := ⟨0, (skip_zero cursor).symm⟩

/-- Moving on twice is moving on. -/
theorem LeadsTo.trans (first : cursor.LeadsTo middle) (second : middle.LeadsTo later) :
    cursor.LeadsTo later := by
  obtain ⟨count, rfl⟩ := first
  obtain ⟨count', rfl⟩ := second
  exact ⟨count + count', (skip_add cursor count count').symm⟩

theorem LeadsTo.offset_le (leads : cursor.LeadsTo later) : cursor.offset ≤ later.offset := by
  obtain ⟨count, rfl⟩ := leads
  exact offset_le_offset_skip cursor count

/-- The places behind a token are further on. -/
theorem leadsTo_spot (cursor : Cursor) (trivia : Trivia) (kind : Kind) (lexeme : Lexeme)
    (text : List Char) :
    cursor.LeadsTo (cursor.spot trivia kind lexeme text).after ∧
      cursor.LeadsTo (cursor.spot trivia kind lexeme text).next := by
  have after : cursor.LeadsTo (cursor.skip text.length) := ⟨text.length, rfl⟩
  exact ⟨after, after.trans (exists_settle_eq _ trivia)⟩

/-- Cutting a lexeme off moves on. -/
theorem leadsTo_of_next {trivia : Trivia} {spot : Spot} (cut : cursor.next trivia = some spot) :
    cursor.LeadsTo spot.next := by
  obtain ⟨⟨lexeme, text⟩, _, rfl⟩ := Option.map_eq_some_iff.1 cut
  exact (leadsTo_spot cursor trivia _ lexeme text).2

/-- Cutting a token off moves on. -/
theorem leadsTo_of_scan {trivia : Trivia} {spot : Spot} (cut : cursor.scan trivia = some spot) :
    cursor.LeadsTo spot.after ∧ cursor.LeadsTo spot.next := by
  obtain ⟨⟨lexeme, opening⟩, _, rfl⟩ := Option.map_eq_some_iff.1 cut
  exact leadsTo_spot cursor trivia _ lexeme _

/-- The places that a parser comes to are further on. -/
theorem leadsTo_placeOf (cursor : Cursor) (reach : Nat) :
    cursor.LeadsTo (cursor.placeOf (cursor.spots .skip).1 reach) := by
  obtain ⟨_, same⟩ | ⟨_, spot, _, middle, _, _, passes, cut, _, same⟩ :=
    placeOf_cases (passes_spots .skip cursor) reach
  · rw [same]
    exact .refl cursor
  · have front : cursor.LeadsTo middle := passes.exists_skip
    obtain ⟨after, next⟩ := leadsTo_of_scan cut
    rw [same]
    split
    · exact front.trans after
    · exact front.trans next

/-! ## Standing in a text -/

/-- A cursor that stands in a text, between a part of it that has been passed and the rest, with the
bytes, the line and the column that the part before comes to. -/
def StandsIn (source : String) (cursor : Cursor) : Prop :=
  ∃ before behind, source = before ++ behind ∧
    cursor = ⟨behind.toList, before.utf8ByteSize, .behind before⟩

/-- The cursors in a text are those that its start leads to. -/
theorem standsIn_iff : cursor.StandsIn source ↔ (ofSource source).LeadsTo cursor := by
  constructor
  · rintro ⟨before, behind, rfl, rfl⟩
    exact ⟨before.toList.length, (skip_ofSource before behind).symm⟩
  · rintro ⟨count, rfl⟩
    have offset := offset_skip (ofSource source) count
    have position := position_skip (ofSource source) count
    simp only [ofSource, Nat.zero_add, Position.foldl_after] at offset position
    refine ⟨String.ofList (source.toList.take count),
      String.ofList (source.toList.drop count), ?_, ?_⟩
    · rw [← String.ofList_append, List.take_append_drop, String.ofList_toList]
    · rw [utf8ByteSize_ofList, ← offset, ← position, String.toList_ofList]
      have rest : ((ofSource source).skip count).rest = source.toList.drop count := rest_skip _ _
      rw [← rest]
      rfl

theorem StandsIn.of_leadsTo (stands : cursor.StandsIn source) (leads : cursor.LeadsTo later) :
    later.StandsIn source :=
  standsIn_iff.2 ((standsIn_iff.1 stands).trans leads)

theorem standsIn_ofSource (source : String) : (ofSource source).StandsIn source :=
  standsIn_iff.2 (.refl _)

/-- From one place in a text to a later one there is a part of the text. -/
theorem exists_locationTo_eq (stands : cursor.StandsIn source) (stands' : later.StandsIn source)
    (further : cursor.offset ≤ later.offset) :
    ∃ before text behind, source = before ++ text ++ behind ∧
      cursor.locationTo later = .behind before text := by
  obtain ⟨before, behind, whole, rfl⟩ := stands
  obtain ⟨before', behind', whole', rfl⟩ := stands'
  have split : before.toList ++ behind.toList = before'.toList ++ behind'.toList := by
    rw [← String.toList_append, ← String.toList_append, ← whole, whole']
  -- One of the two parts that have been passed is longer; the offsets tell which.
  have longer : ∃ text, before' = before ++ text := by
    obtain ⟨text, longer, _⟩ | ⟨text, longer, _⟩ := List.append_eq_append_iff.1 split
    · refine ⟨String.ofList text, ?_⟩
      rw [← String.toList_inj, longer, String.toList_append, String.toList_ofList]
    · have shape : before = before' ++ String.ofList text := by
        rw [← String.toList_inj, longer, String.toList_append, String.toList_ofList]
      have empty : String.ofList text = "" := by
        change before.utf8ByteSize ≤ before'.utf8ByteSize at further
        rw [shape, String.utf8ByteSize_append] at further
        rw [← String.utf8ByteSize_eq_zero_iff]
        omega
      refine ⟨"", ?_⟩
      rw [shape, empty, String.append_empty, String.append_empty]
  obtain ⟨text, rfl⟩ := longer
  exact ⟨before, text, behind', whole', rfl⟩

end Cursor

namespace Session

variable {source : String} {session after : Session} {action : Action}

/-! ## Actions -/

/-- The cursors from the top down. -/
def stack (session : Session) : List Cursor := session.top :: session.below

/-- The session after some actions. -/
def run (session : Session) (actions : List Action) : Session :=
  actions.foldl (fun session action => (session.perform action).2) session

/-- The cursors after an action, with the one that is then on top: a branch is a copy of the top
cursor, dropping it brings back its parent, committing it replaces its parent, and all else is done
with the top cursor alone. -/
def stackAfter (session : Session) (action : Action) (top : Cursor) : List Cursor :=
  match action, session.below with
  | .fork, _ => session.top :: session.stack
  | .drop, _ :: _ => session.below
  | .commit, _ :: below => session.top :: below
  | _, below => top :: below

/-- An action that changes which cursors there are. -/
def Action.isBranching : Action → Bool
  | .fork | .drop | .commit => true
  | _ => false

/-- What can be noted: what was noted before, or a place that is further than that and that the top
cursor leads to. -/
def Notes (session : Session) (reach : Cursor) : Prop :=
  reach = session.reach ∨ session.top.LeadsTo reach ∧ session.reach.offset < reach.offset

/-- What an action can do with the cursors of a session. -/
inductive Effect (session : Session) : Action → Session → Prop where
  | fork : Effect session .fork { session with below := session.top :: session.below }
  | drop {parent : Cursor} {below : List Cursor} (shape : session.below = parent :: below) :
      Effect session .drop { session with top := parent, below }
  | commit {parent : Cursor} {below : List Cursor} (shape : session.below = parent :: below) :
      Effect session .commit { session with below }
  | refuse {action : Action} (pops : action = .drop ∨ action = .commit)
      (only : session.below = []) : Effect session action session
  | move {action : Action} {top reach : Cursor} (plain : action.isBranching = false)
      (leads : session.top.LeadsTo top) (notes : session.Notes reach) :
      Effect session action { session with top, reach }

/-- The further one of the place noted before and one that the top cursor leads to can be noted. -/
theorem notes_further {place : Cursor} (leads : session.top.LeadsTo place) :
    session.Notes (session.reach.further place) := by
  by_cases less : session.reach.offset < place.offset
  · have later : session.reach.further place = place := if_pos less
    rw [later]
    exact .inr ⟨leads, less⟩
  · exact .inl (if_neg less)

theorem effect_stay (plain : action.isBranching = false) : Effect session action session :=
  .move plain (.refl _) (.inl rfl)

theorem effect_top {top : Cursor} (plain : action.isBranching = false)
    (leads : session.top.LeadsTo top) : Effect session action { session with top } :=
  .move plain leads (.inl rfl)

/-- Building a part moves the top cursor on and notes a place further on. -/
theorem effect_build (session : Session) (kind : PartKind) :
    Effect session (.build kind) (session.build kind).2 := by
  rw [build_eq]
  apply Effect.move rfl
  · rw [Cursor.build]
    cases (Part.parser kind _).result with
    | none => exact .refl _
    | some pair => exact Cursor.leadsTo_placeOf session.top _
  · split
    · rw [Cursor.build]
      cases (Part.parser kind _).reach with
      | none => exact .inl (Cursor.further_self _)
      | some reach => exact notes_further (Cursor.leadsTo_placeOf session.top reach)
    · exact .inl rfl

/-- Every action has one of the effects. -/
theorem effect_perform (session : Session) (action : Action) :
    Effect session action (session.perform action).2 := by
  cases action with
  | fork => exact .fork
  | drop =>
    cases shape : session.below with
    | nil =>
      simp only [perform, shape]
      exact .refuse (.inl rfl) shape
    | cons parent below =>
      simp only [perform, shape]
      exact .drop shape
  | commit =>
    cases shape : session.below with
    | nil =>
      simp only [perform, shape]
      exact .refuse (.inr rfl) shape
    | cons parent below =>
      simp only [perform, shape]
      exact .commit shape
  | advance bytes => exact effect_top rfl ⟨_, rfl⟩
  | mark =>
    rw [perform, record_eq]
    apply Effect.move rfl (.refl _)
    split
    · exact notes_further (.refl _)
    · exact .inl rfl
  | remaining | source | furthest | equal => exact effect_stay rfl
  | next trivia =>
    rw [perform]
    split
    · rename_i spot cut
      exact effect_top rfl (Cursor.leadsTo_of_next cut)
    · exact effect_stay rfl
  | skipTrivia => exact effect_top rfl ⟨_, rfl⟩
  | tokenize trivia =>
    rw [perform]
    split
    · rename_i tokens top cut
      exact effect_top rfl ⟨_, (Cursor.tokenize_stop cut).1⟩
    · exact effect_stay rfl
  | build kind => exact effect_build session kind

/-! ## Runs -/

/-- A session on a text: each cursor stands in the text, and so does the place that is noted; no
cursor is in front of one below it. -/
structure Sound (source : String) (session : Session) : Prop where
  stands : ∀ cursor ∈ session.stack, cursor.StandsIn source
  reached : session.reach.StandsIn source
  ordered : session.stack.Pairwise fun upper lower => lower.offset ≤ upper.offset

/-- A session starts on its text. -/
theorem sound_start (source : String) (tracked : Bool) : (start source tracked).Sound source where
  stands := by
    intro cursor member
    rw [List.mem_singleton.1 member]
    exact Cursor.standsIn_ofSource source
  reached := Cursor.standsIn_ofSource source
  ordered := List.pairwise_singleton _ _

/-- An action stays on the text. -/
theorem Effect.sound (effect : Effect session action after) (sound : session.Sound source) :
    after.Sound source := by
  obtain ⟨stands, reached, ordered⟩ := sound
  cases effect with
  | fork =>
    constructor
    · simpa [stack] using stands
    · exact reached
    · simpa [stack] using ordered
  | drop shape =>
    simp only [stack, shape] at stands ordered
    exact ⟨fun cursor member => stands cursor (.tail _ member), reached, ordered.tail⟩
  | commit shape =>
    simp only [stack, shape] at stands ordered
    refine ⟨fun cursor member => stands cursor ?_, reached, ?_⟩
    · obtain rfl | member := List.mem_cons.1 member
      · exact List.mem_cons_self
      · exact .tail _ (.tail _ member)
    · exact ordered.sublist (.cons_cons _ (List.sublist_cons_self _ _))
  | refuse => exact ⟨stands, reached, ordered⟩
  | @move _ top reach _ leads notes =>
    have here : session.top.StandsIn source := stands _ List.mem_cons_self
    obtain ⟨lower, others⟩ := List.pairwise_cons.1 ordered
    constructor
    · intro cursor member
      obtain rfl | member := List.mem_cons.1 member
      · exact here.of_leadsTo leads
      · exact stands cursor (.tail _ member)
    · obtain rfl | ⟨leads, _⟩ := notes
      · exact reached
      · exact here.of_leadsTo leads
    · apply List.pairwise_cons.2
      exact ⟨fun cursor member => Nat.le_trans (lower cursor member) leads.offset_le, others⟩

/-- Places that are noted come later and later. -/
theorem Effect.reach_le (effect : Effect session action after) :
    session.reach.offset ≤ after.reach.offset := by
  cases effect with
  | fork | drop | commit | refuse => exact Nat.le_refl _
  | move _ _ notes =>
    obtain rfl | ⟨_, less⟩ := notes
    · exact Nat.le_refl _
    · exact Nat.le_of_lt less

/-- The cursors below the top one are known after an action. -/
theorem Effect.stack_eq (effect : Effect session action after) :
    after.stack = session.stackAfter action after.top := by
  cases effect with
  | fork => rfl
  | drop shape | commit shape => simp only [stackAfter, stack, shape]
  | refuse pops only => obtain rfl | rfl := pops <;> simp only [stackAfter, stack, only]
  | @move action _ _ plain _ _ =>
    cases action with
    | fork | drop | commit => cases plain
    | _ => rfl

/-- A run stays on the text. -/
theorem Sound.run (sound : session.Sound source) (actions : List Action) :
    (session.run actions).Sound source := by
  induction actions generalizing session with
  | nil => exact sound
  | cons action actions ih => exact ih ((effect_perform session action).sound sound)

/-- Whatever is done with a session on a text, each of its cursors stands in the text and so does
the place that is noted, and no cursor is in front of one below it. The next action does not take
back what is noted, and leaves the cursors that it is not about as they are. A branch that is
committed has the part of the text from its parent on as its location. -/
theorem cursors_stand_in_text (source : String) (tracked : Bool) (actions : List Action)
    (action : Action) :
    let session := (start source tracked).run actions
    let after := (session.perform action).2
    session.Sound source ∧
    session.reach.offset ≤ after.reach.offset ∧
    after.stack = session.stackAfter action after.top ∧
    ∀ parent below, session.below = parent :: below →
      parent.offset ≤ session.top.offset ∧
      (session.perform .commit).1 = .committed ⟨parent.offset, session.top.offset,
        parent.position, session.top.position⟩ ∧
      ∃ before text behind, source = before ++ text ++ behind ∧
        (session.perform .commit).1 = .committed (.behind before text) := by
  intro session after
  have sound : session.Sound source := (sound_start source tracked).run actions
  have effect : Effect session action after := effect_perform session action
  refine ⟨sound, effect.reach_le, effect.stack_eq, fun parent below shape => ?_⟩
  obtain ⟨stands, _, ordered⟩ := sound
  rw [stack, shape] at stands ordered
  have lower : parent.offset ≤ session.top.offset := List.rel_of_pairwise_cons ordered (.head _)
  have reply : (session.perform .commit).1 = .committed (parent.locationTo session.top) := by
    rw [perform, shape]
  obtain ⟨before, text, behind, whole, location⟩ :=
    Cursor.exists_locationTo_eq (stands parent (by simp)) (stands session.top (by simp)) lower
  exact ⟨lower, reply, before, text, behind, whole, reply.trans (by rw [location])⟩

/-- A byte of a letter of two is rounded up, and behind a line feed a line starts. -/
theorem cursors_stand_in_text_behind_line :
    let session := (start "é\nx" true).run [.fork, .advance 1, .advance 1]
    session.Sound "é\nx" ∧
      (session.perform .commit).1 = .committed ⟨0, 3, ⟨0, 0⟩, ⟨1, 0⟩⟩ := by
  obtain ⟨sound, _, _, committed⟩ :=
    cursors_stand_in_text "é\nx" true [.fork, .advance 1, .advance 1] .commit
  exact ⟨sound, (committed (.ofSource "é\nx") [] rfl).2.1⟩

end Session

end Likeness
