import ClauseFlow.Eval.Interrupt

/-!
# Comparing runs

Two runs are compared stamp by stamp. A tolerance says how far their outcomes may be apart: which
interrupts of the one or of the other excuse everything, and which pairs of interrupts count as the
same. Values and stamps are never allowed to differ.
-/

namespace ClauseFlow

/-- What a run comes to: a value with the next stamp, or an interrupt. -/
abbrev Outcome (α : Type) := Except Interrupt (α × Nat)

/-- How far the outcomes of two runs may be apart. -/
structure Tolerance where
  /-- Interrupts of the first run after which the second one may do anything. -/
  first : Interrupt → Prop
  /-- Interrupts of the second run after which the first one may do anything. -/
  second : Interrupt → Prop
  /-- Interrupts that count as the same. -/
  both : Interrupt → Interrupt → Prop
  both_refl : ∀ stop, both stop stop

namespace Tolerance

/-- Whether two outcomes are within a tolerance. -/
def Allows {α : Type} (tolerance : Tolerance) : Outcome α → Outcome α → Prop
  | .ok result, .ok result' => result = result'
  | .error stop, .error stop' =>
      tolerance.first stop ∨ tolerance.second stop' ∨ tolerance.both stop stop'
  | .error stop, .ok _ => tolerance.first stop
  | .ok _, .error stop' => tolerance.second stop'

variable {α : Type} {tolerance : Tolerance}

theorem allows_refl (outcome : Outcome α) : tolerance.Allows outcome outcome := by
  cases outcome with
  | ok result => rfl
  | error stop => exact .inr (.inr (tolerance.both_refl stop))

/-- An excusing interrupt of the first run excuses every outcome of the second. -/
theorem allows_of_first {stop : Interrupt} (excused : tolerance.first stop)
    (outcome : Outcome α) : tolerance.Allows (.error stop) outcome := by
  cases outcome with
  | ok result => exact excused
  | error stop' => exact .inl excused

/-- An excusing interrupt of the second run excuses every outcome of the first. -/
theorem allows_of_second {stop : Interrupt} (excused : tolerance.second stop)
    (outcome : Outcome α) : tolerance.Allows outcome (.error stop) := by
  cases outcome with
  | ok result => exact excused
  | error stop' => exact .inr (.inl excused)

end Tolerance

namespace Run

variable {α β : Type}

/-! ## Steps of runs -/

@[simp] theorem pure_apply (value : α) (stamp : Nat) :
    (pure value : Run α) stamp = .ok (value, stamp) := rfl

/-- A sequence of runs ends with the first interrupt. -/
theorem bind_apply (run : Run α) (next : α → Run β) (stamp : Nat) :
    (run >>= next) stamp =
      match run stamp with
      | .ok (value, stamp') => next value stamp'
      | .error stop => .error stop := by
  cases outcome : run stamp with
  | ok result => simp [bind, StateT.bind, Except.bind, outcome]
  | error stop => simp [bind, StateT.bind, Except.bind, outcome]

theorem bind_of_ok {run : Run α} {next : α → Run β} {stamp stamp' : Nat} {value : α}
    (outcome : run stamp = .ok (value, stamp')) : (run >>= next) stamp = next value stamp' := by
  rw [bind_apply, outcome]

/-- A raised error stops the run, or cannot be shown. -/
theorem raise_apply (error : RuntimeError) (stamp : Nat) :
    (raise error : Run α) stamp =
      .error (if Value.allHaveNotation error.shown then .error error else .fault .digitLimit) := by
  rw [raise, fault]
  split <;> rfl

/-! ## Near runs -/

/-- Whether two runs are within a tolerance, whatever the stamp they start with. -/
def Near (tolerance : Tolerance) (run run' : Run α) : Prop :=
  ∀ stamp, tolerance.Allows (run stamp) (run' stamp)

namespace Near

variable {tolerance : Tolerance}

theorem refl (run : Run α) : Near tolerance run run := by
  intro stamp
  exact Tolerance.allows_refl _

theorem of_eq {run run' : Run α} (equal : run = run') : Near tolerance run run' :=
  equal ▸ refl run

/-- Runs that are near and go on near each other stay near each other. -/
theorem bind {run run' : Run α} {next next' : α → Run β} (near : Near tolerance run run')
    (nearNext : ∀ value, Near tolerance (next value) (next' value)) :
    Near tolerance (run >>= next) (run' >>= next') := by
  intro stamp
  have here := near stamp
  rw [bind_apply, bind_apply]
  cases outcome : run stamp with
  | ok result =>
      cases outcome' : run' stamp with
      | ok result' =>
          rw [outcome, outcome'] at here
          cases here
          exact nearNext _ _
      | error stop' =>
          rw [outcome, outcome'] at here
          exact Tolerance.allows_of_second here _
  | error stop =>
      cases outcome' : run' stamp with
      | ok result' =>
          rw [outcome, outcome'] at here
          exact Tolerance.allows_of_first here _
      | error stop' =>
          rw [outcome, outcome'] at here
          exact here

/-- Runs that are near and go on in the same way stay near each other. -/
theorem bind_same {run run' : Run α} {next : α → Run β} (near : Near tolerance run run') :
    Near tolerance (run >>= next) (run' >>= next) :=
  near.bind fun value => refl (next value)

/-- Runs that branch on the same truth value. -/
theorem ite {accepted : Prop} [Decidable accepted] {run run' other other' : Run α}
    (near : accepted → Near tolerance run run')
    (nearOther : ¬accepted → Near tolerance other other') :
    Near tolerance (if accepted then run else other) (if accepted then run' else other') := by
  by_cases holds : accepted
  · rw [if_pos holds, if_pos holds]
    exact near holds
  · rw [if_neg holds, if_neg holds]
    exact nearOther holds

end Near
end Run
end ClauseFlow
