import ClauseFlow.Proofs.Run.Comparison
import ClauseFlow.Proofs.Value.Resemblance

/-!
# Runs that correspond

Two runs correspond by a ledger if, from every stamp that the ledger is ready for, both come to
values that are related, with the same next stamp, or both are interrupted in the same way. What
they come to is related by a ledger that has grown: closures may have been made.
-/

namespace ClauseFlow

/-- Whether two interrupts are errors with the same code, the same fault, or both too deep. -/
inductive Interrupt.LooksLike : Interrupt → Interrupt → Prop where
  | error {error error' : RuntimeError} :
      error.code = error'.code → LooksLike (.error error) (.error error')
  | fault (fault : Fault) : LooksLike (.fault fault) (.fault fault)
  | tooDeep : LooksLike .tooDeep .tooDeep

/-- Whether two outcomes are related values with one next stamp, or interrupts that look alike. -/
inductive Outcome.Corresponds {α β : Type} (related : Ledger → α → β → Prop) (ledger : Ledger) :
    Outcome α → Outcome β → Prop where
  | ok {grown : Ledger} {value : α} {value' : β} {next : Nat} :
      ledger ≤ grown → grown.Ready next → related grown value value' →
      Corresponds related ledger (.ok (value, next)) (.ok (value', next))
  | error {stop stop' : Interrupt} :
      stop.LooksLike stop' → Corresponds related ledger (.error stop) (.error stop')

theorem Outcome.Corresponds.of_le {α β : Type} {related : Ledger → α → β → Prop}
    {ledger grown : Ledger} {outcome : Outcome α} {outcome' : Outcome β} (grows : ledger ≤ grown)
    (corresponds : Corresponds related grown outcome outcome') :
    Corresponds related ledger outcome outcome' := by
  cases corresponds with
  | ok growsOn ready holds => exact .ok (le_trans grows growsOn) ready holds
  | error alike => exact .error alike

namespace Run

variable {α β γ δ : Type}

/-- Whether two runs have corresponding outcomes from every stamp. -/
def Corresponds (related : Ledger → α → β → Prop) (ledger : Ledger) (run : Run α) (run' : Run β) :
    Prop :=
  ∀ stamp, ledger.Ready stamp → Outcome.Corresponds related ledger (run stamp) (run' stamp)

/-- Whether two runs come to the same values. -/
abbrev Concurs (ledger : Ledger) (run run' : Run α) : Prop :=
  Corresponds (fun _ => Eq) ledger run run'

namespace Corresponds

variable {ledger : Ledger} {related : Ledger → α → β → Prop} {relatedNext : Ledger → γ → δ → Prop}

theorem pure {value : α} {value' : β} (holds : related ledger value value') :
    Corresponds related ledger (Pure.pure value : Run α) (Pure.pure value' : Run β) :=
  fun _ ready => .ok le_rfl ready holds

/-- Corresponding runs that go on in corresponding ways, whatever has been made meanwhile. -/
theorem bind {run : Run α} {run' : Run β} {next : α → Run γ} {next' : β → Run δ}
    (here : Corresponds related ledger run run')
    (later : ∀ grown, ledger ≤ grown → ∀ value value', related grown value value' →
      Corresponds relatedNext grown (next value) (next' value')) :
    Corresponds relatedNext ledger (run >>= next) (run' >>= next') := by
  intro stamp ready
  have outcomes := here stamp ready
  rw [bind_apply, bind_apply]
  generalize run stamp = outcome, run' stamp = outcome' at outcomes
  cases outcomes with
  | ok grows readyNext holds =>
      exact (later _ grows _ _ holds _ readyNext).of_le grows
  | error alike => exact .error alike

theorem ite {accepted : Prop} [Decidable accepted] {run other : Run α} {run' other' : Run β}
    (corresponds : accepted → Corresponds related ledger run run')
    (correspondsOther : ¬accepted → Corresponds related ledger other other') :
    Corresponds related ledger (if accepted then run else other)
      (if accepted then run' else other') := by
  split
  · exact corresponds ‹_›
  · exact correspondsOther ‹_›

/-- Raising errors with one code that show values resembling each other. -/
theorem raise {error error' : RuntimeError} (sameCode : error.code = error'.code)
    (shown : Value.AllResemble ledger error.shown error'.shown) :
    Corresponds related ledger (Run.raise error : Run α) (Run.raise error' : Run β) := by
  intro stamp _
  rw [raise_apply, raise_apply, Value.allHaveNotation_eq shown]
  split
  · exact .error (.error sameCode)
  · exact .error (.fault _)

theorem fault (found : Fault) :
    Corresponds related ledger (Run.fault found : Run α) (Run.fault found : Run β) :=
  fun _ _ => .error (.fault found)

theorem ofExcept (step : Except Fault α) :
    Concurs ledger (Run.ofExcept step) (Run.ofExcept step) := by
  cases step with
  | ok value => exact pure rfl
  | error found => exact fault found

/-- Marks that both runs take. -/
theorem mark (home : Nat) : Concurs ledger (Run.mark home) (Run.mark home) :=
  fun stamp ready => .ok le_rfl (ready.mono (Nat.le_succ stamp)) rfl

end Corresponds
end Run
end ClauseFlow
