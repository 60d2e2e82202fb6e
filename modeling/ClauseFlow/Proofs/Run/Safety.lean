import ClauseFlow.Proofs.Run.Comparison

/-!
# Safe runs

A run is safe if it only ends in errors that are allowed, and if its value is as asked for. Faults
and runs that go too deep are always allowed: safety is about errors of the program.
-/

namespace ClauseFlow

/-- Whether an error is about a name written in the program that nothing answers to: as a value, or
called in some place. -/
def RuntimeError.IsAboutName : RuntimeError → Prop
  | .unboundName .. | .undefinedFunction _ (some _) => True
  | _ => False

/-- Whether an interrupt is no error, or one that is allowed. -/
def Interrupt.Within (allowed : RuntimeError → Prop) : Interrupt → Prop
  | .error found => allowed found
  | .fault _ | .tooDeep => True

namespace Run

variable {α β : Type} {allowed : RuntimeError → Prop}

/-- Whether a run ends in allowed errors only, and with good values only. -/
def Safe (allowed : RuntimeError → Prop) (good : α → Prop) (run : Run α) : Prop :=
  ∀ stamp,
    match run stamp with
    | .ok (value, _) => good value
    | .error stop => stop.Within allowed

namespace Safe

variable {good : α → Prop} {good' : β → Prop}

theorem pure {value : α} (holds : good value) : Safe allowed good (Pure.pure value : Run α) :=
  fun _ => holds

theorem fault (found : Fault) : Safe allowed good (Run.fault found : Run α) := by
  intro stamp
  change Interrupt.Within allowed (.fault found)
  trivial

/-- Raising an allowed error is safe, whether or not it can be shown. -/
theorem raise {error : RuntimeError} (permitted : allowed error) :
    Safe allowed good (Run.raise error : Run α) := by
  intro stamp
  rw [raise_apply]
  by_cases shown : Value.allHaveNotation error.shown = true
  · rw [if_pos shown]
    exact permitted
  · rw [if_neg shown]
    trivial

/-- A safe step with safe continuations. -/
theorem bind {run : Run α} {next : α → Run β} (safe : Safe allowed good run)
    (safeNext : ∀ value, good value → Safe allowed good' (next value)) :
    Safe allowed good' (run >>= next) := by
  intro stamp
  have here := safe stamp
  rw [bind_apply]
  cases outcome : run stamp with
  | ok result =>
      rw [outcome] at here
      exact safeNext _ here _
  | error stop =>
      rw [outcome] at here
      exact here

theorem ite {accepted : Prop} [Decidable accepted] {run other : Run α}
    (safe : accepted → Safe allowed good run) (safeOther : ¬accepted → Safe allowed good other) :
    Safe allowed good (if accepted then run else other) := by
  split
  · exact safe ‹_›
  · exact safeOther ‹_›

end Safe

/-- A step that can only fault is safe. -/
theorem safe_ofExcept (outcome : Except Fault α) :
    Safe allowed (fun _ => True) (ofExcept outcome) := by
  cases outcome with
  | ok value => exact Safe.pure trivial
  | error found => exact Safe.fault found

theorem safe_mark (home : Nat) : Safe allowed (fun _ => True) (mark home) :=
  fun _ => trivial

end Run
end ClauseFlow
