import Likeness.Proofs.Grammar.Simulation

/-!
# Parsers that come back to themselves end

A parser that comes back to itself is turned once more than there are pieces. `Parser.Ends` states
that this is enough: after more turns than pieces it does not matter what stands in for the next
turn, since nothing asks for it. It is read off the correspondence of an input with itself, in which
every turn takes a piece before the next one.
-/

namespace Likeness.Parser

variable {α : Type} {parser : Parser α} {taken bound : Nat}

/-- A parser that comes back to itself is known after as many turns as pieces may be taken. -/
theorem simulates_unroll_fix {corr : Correspondence} {step step' : Parser α → Parser α}
    (turn : ∀ fewer inner inner', Simulates corr taken fewer inner inner' →
      Simulates corr taken (fewer + 1) (step inner) (step' inner')) :
    Simulates corr taken bound (unroll step bound) (fix step') := by
  intro shared input input' small related within
  exact simulates_unroll (fun fewer _ => turn fewer) small
    (Nat.succ_le_succ (corr.shared_le related).2) _ _ _ (Nat.lt_succ_self shared) related within

/-- A parser that takes at least one piece. -/
def Progresses (parser : Parser α) : Prop :=
  ∀ input value rest, run parser input = some (value, rest) → rest.length < input.length

/-- An input corresponds to itself, and all outcomes are compared with the count of their reach. -/
def sameInput : Correspondence where
  related shared input input' := shared = input.length ∧ input' = input
  within _ := True
  reached reach reach' := ∀ count, count ∈ reach ↔ count ∈ reach'
  shared_le := by
    rintro _ _ _ ⟨rfl, rfl⟩
    exact ⟨Nat.le_refl _, Nat.le_refl _⟩
  within_further := fun _ => ⟨trivial, trivial⟩
  reached_none := fun _ => Iff.rfl
  reached_further := by
    intro first first' second second' same same' count
    rw [Option.ext same, Option.ext same']

/-- Outcomes of one input that agree are the same. -/
theorem eq_of_agree {shared : Nat} {outcome outcome' : Outcome α}
    (agree : Agree sameInput shared taken outcome outcome') : outcome = outcome' := by
  cases agree with
  | failed reached => rw [Option.ext reached]
  | accepted value reached _ related =>
    obtain ⟨_, rfl⟩ := related
    rw [Option.ext reached]

/-- A parser that progresses takes a piece of each input. -/
theorem Progresses.simulates (progress : Progresses parser) (bound : Nat) :
    Simulates sameInput 1 bound parser parser := by
  rintro _ _ input _ ⟨rfl, rfl⟩ _
  cases outcome : parser input with
  | mk reach result =>
    cases result with
    | none => exact .failed fun _ => Iff.rfl
    | some pair =>
      obtain ⟨value, rest⟩ := pair
      have shorter := progress input value rest (by rw [run, outcome])
      exact .accepted value (fun _ => Iff.rfl) shorter ⟨rfl, rfl⟩

/-- A piece is read alike in the same input. -/
theorem simulates_sameInput_accept (choose : Piece → Option α) (bound : Nat) :
    Simulates sameInput 1 bound (accept choose) (accept choose) := by
  apply Progresses.simulates
  intro input value rest accepted
  cases input with
  | nil => cases accepted
  | cons piece behind =>
    rw [run_accept_cons] at accepted
    obtain ⟨_, _, same⟩ := Option.map_eq_some_iff.1 accepted
    cases same
    exact Nat.lt_succ_self _

/-- A sign is read alike in the same input. -/
theorem simulates_sameInput_sign (bound : Nat) : Simulates sameInput 0 bound sign sign := by
  rintro _ _ input _ ⟨rfl, rfl⟩ _
  unfold sign
  split
  · exact .accepted false (fun _ => Iff.rfl) (Nat.le_refl _) ⟨rfl, rfl⟩
  · split
    · split
      · exact .accepted true (fun _ => Iff.rfl) (Nat.le_succ _) ⟨rfl, rfl⟩
      · exact .failed fun _ => Iff.rfl
    · exact .accepted false (fun _ => Iff.rfl) (Nat.le_refl _) ⟨rfl, rfl⟩

/-- Pieces and numbers are the same in the same input. -/
theorem respected_sameInput : sameInput.Respected 2 where
  accept _ _ := simulates_sameInput_accept _
  number bound := by
    refine (simulates_sameInput_sign bound).next fun negative => ?_
    exact (simulates_sameInput_accept _ bound).before fun text => simulates_ofOption _

/-- A parser that comes back to itself by a step, and ends: on any input, all that takes more steps
than there are pieces does the same, whatever stands in for the parser behind the last step. -/
structure Ends (parser : Parser α) (step : Parser α → Parser α) : Prop where
  turn : parser = step parser
  depth : ∀ {depth : Nat} {input : List Piece} (bottom : Parser α), input.length < depth →
    (step^[depth] bottom) input = parser input

/-- The parser that a step makes of itself ends if each turn leaves fewer pieces to the next one. -/
theorem ends_fix {step : Parser α → Parser α}
    (turn : ∀ {bound : Nat} {inner inner' : Parser α},
      Simulates sameInput taken bound inner inner' →
        Simulates sameInput taken (bound + 1) (step inner) (step inner')) :
    Ends (fix step) step where
  turn := by
    funext input
    have known : Simulates sameInput taken input.length (unroll step input.length) (fix step) :=
      simulates_unroll_fix fun _ _ _ => turn
    exact eq_of_agree (turn known _ _ _ (Nat.lt_succ_self _) ⟨rfl, rfl⟩ trivial)
  depth := by
    intro depth input bottom enough
    rw [fix, unroll_eq_iterate]
    have agree := simulates_iterate (fun _ _ _ _ => turn) enough (Nat.le_refl _) bottom fail _ _ _
      (Nat.lt_succ_self _) ⟨rfl, rfl⟩ trivial
    exact eq_of_agree agree

theorem Progresses.ends_many (progress : Progresses parser) :
    Ends (many parser) (repetition parser) :=
  ends_fix fun others => (progress.simulates _).repetition others

theorem ends_typeName : Ends typeName typeStep :=
  ends_fix fun known => simulates_typeStep (respected_sameInput.inside (Nat.zero_le 2)) known

theorem ends_statement : Ends statement statementStep :=
  ends_fix fun known => simulates_statementStep (respected_sameInput.inside (Nat.zero_le 2)) known

theorem ends_expression : Ends expression expressionStep :=
  ends_fix fun known => simulates_expressionStep respected_sameInput known

end Likeness.Parser
