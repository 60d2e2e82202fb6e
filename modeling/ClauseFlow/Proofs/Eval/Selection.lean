import ClauseFlow.Proofs.Run.Comparison
import ClauseFlow.Eval.Dispatch

/-!
# Selecting a clause

A call looks at its clauses one by one. Each is passed over, or answers with the bindings of its
patterns, or interrupts the call while its guard is asked. Only the body of the answering clause
uses up stamps.
-/

namespace ClauseFlow.Eval

variable {calls : Calls} {setting : Setting}

/-- A verdict leaves the stamps as they were. -/
theorem verdict_stamp {kind : ClauseKind} {guard : Run Value} {stamp stamp' : Nat} {holds : Bool}
    (outcome : verdict kind guard stamp = .ok (holds, stamp')) : stamp' = stamp := by
  rw [verdict] at outcome
  split at outcome
  all_goals first | (cases outcome; rfl) | cases outcome

theorem guardHolds_stamp {clause : Clause} {bindings : Bindings} {stamp stamp' : Nat}
    {holds : Bool}
    (outcome : guardHolds calls setting clause bindings stamp = .ok (holds, stamp')) :
    stamp' = stamp := by
  cases written : clause.guard? with
  | none =>
      simp only [guardHolds, written] at outcome
      cases outcome
      rfl
  | some guard =>
      simp only [guardHolds, written] at outcome
      exact verdict_stamp outcome

/-- What becomes of a clause in a call: the bindings with which it answers, or nothing if it is
passed over. -/
def select (calls : Calls) (setting : Setting) (arguments : List Value) (stamp : Nat)
    (clause : Clause) : Except Interrupt (Option Bindings) :=
  match Pattern.fitParams clause.params arguments with
  | none => .ok none
  | some bindings =>
      match guardHolds calls setting clause bindings stamp with
      | .ok (true, _) => .ok (some bindings)
      | .ok (false, _) => .ok none
      | .error stop => .error stop

/-- A clause that does not fit is passed over. -/
theorem select_of_unfit {arguments : List Value} {clause : Clause}
    (unfit : Pattern.fitParams clause.params arguments = none) (stamp : Nat) :
    select calls setting arguments stamp clause = .ok none := by
  simp [select, unfit]

/-- A clause answers if it fits and its guard holds. -/
theorem select_of_holds {arguments : List Value} {stamp stamp' : Nat} {clause : Clause}
    {bindings : Bindings} (fits : Pattern.fitParams clause.params arguments = some bindings)
    (holds : guardHolds calls setting clause bindings stamp = .ok (true, stamp')) :
    select calls setting arguments stamp clause = .ok (some bindings) := by
  simp [select, fits, holds]

/-- A clause that answers fits, and its guard holds. -/
theorem of_select_eq_some {arguments : List Value} {stamp : Nat} {clause : Clause}
    {bindings : Bindings}
    (selected : select calls setting arguments stamp clause = .ok (some bindings)) :
    Pattern.fitParams clause.params arguments = some bindings ∧
      guardHolds calls setting clause bindings stamp = .ok (true, stamp) := by
  rw [select] at selected
  cases fitted : Pattern.fitParams clause.params arguments with
  | none =>
      rw [fitted] at selected
      cases selected
  | some found =>
      rw [fitted] at selected
      rcases held : guardHolds calls setting clause found stamp with stop | ⟨holds, stamp'⟩
      · simp [held] at selected
      · obtain rfl := guardHolds_stamp held
        cases holds with
        | false => simp [held] at selected
        | true =>
            obtain rfl : found = bindings := by simpa [held] using selected
            exact ⟨rfl, held⟩

/-- A clause that interrupts a call fits, and its guard interrupts the call. -/
theorem of_select_eq_error {arguments : List Value} {stamp : Nat} {clause : Clause}
    {stop : Interrupt} (selected : select calls setting arguments stamp clause = .error stop) :
    ∃ bindings, Pattern.fitParams clause.params arguments = some bindings ∧
      guardHolds calls setting clause bindings stamp = .error stop := by
  rw [select] at selected
  cases fitted : Pattern.fitParams clause.params arguments with
  | none =>
      rw [fitted] at selected
      cases selected
  | some bindings =>
      rw [fitted] at selected
      rcases held : guardHolds calls setting clause bindings stamp with found | ⟨holds, stamp'⟩
      · obtain rfl : found = stop := by simpa [held] using selected
        exact ⟨bindings, rfl, held⟩
      · cases holds <;> simp [held] at selected

/-- A call goes by what becomes of its first clause. -/
theorem tryClauses_cons (signature : Signature) (arguments : List Value) (clause : Clause)
    (rest : List Clause) (stamp : Nat) :
    tryClauses calls setting signature arguments (clause :: rest) stamp =
      match select calls setting arguments stamp clause with
      | .ok (some bindings) =>
          evaluate calls setting (clauseEnvironment bindings) clause.body stamp
      | .ok none => tryClauses calls setting signature arguments rest stamp
      | .error stop => .error stop := by
  simp only [tryClauses, select]
  cases fitted : Pattern.fitParams clause.params arguments with
  | none => rfl
  | some bindings =>
      simp only [Run.bind_apply]
      rcases held : guardHolds calls setting clause bindings stamp with stop | ⟨holds, stamp'⟩
      · rfl
      · obtain rfl := guardHolds_stamp held
        cases holds <;> rfl

/-- A call of a declared function tries the clauses of its signature. -/
theorem dispatchWithin_of_declares {name : String} {arguments : List Value}
    (declares : setting.program.declares ⟨name, arguments.length⟩ = true) (depth : Nat) :
    dispatchWithin setting (depth + 1) name arguments =
      tryClauses (callsWithin setting depth) setting ⟨name, arguments.length⟩ arguments
        (setting.program.clausesOf ⟨name, arguments.length⟩) :=
  if_pos declares

/-- Clauses that are passed over can be left out in front. -/
theorem tryClauses_append {signature : Signature} {arguments : List Value} {stamp : Nat}
    {passed : List Clause}
    (passedOver : ∀ clause ∈ passed, select calls setting arguments stamp clause = .ok none)
    (clauses : List Clause) :
    tryClauses calls setting signature arguments (passed ++ clauses) stamp =
      tryClauses calls setting signature arguments clauses stamp := by
  induction passed with
  | nil => rfl
  | cons clause rest ih =>
      rw [List.cons_append, tryClauses_cons, passedOver clause (.head _)]
      exact ih fun other member => passedOver other (.tail _ member)

/-- A call that returns is answered by one of its clauses. -/
theorem exists_answering {signature : Signature} {arguments : List Value} {stamp : Nat}
    {clauses : List Clause} {result : Value × Nat}
    (returns : tryClauses calls setting signature arguments clauses stamp = .ok result) :
    ∃ clause ∈ clauses, ∃ bindings,
      select calls setting arguments stamp clause = .ok (some bindings) := by
  induction clauses with
  | nil =>
      rw [tryClauses, Run.raise_apply] at returns
      cases returns
  | cons clause rest ih =>
      rw [tryClauses_cons] at returns
      rcases selected : select calls setting arguments stamp clause with stop | (_ | bindings)
      · rw [selected] at returns
        cases returns
      · rw [selected] at returns
        rcases ih returns with ⟨other, member, found⟩
        exact ⟨other, .tail _ member, found⟩
      · exact ⟨clause, .head _, bindings, selected⟩

end ClauseFlow.Eval
