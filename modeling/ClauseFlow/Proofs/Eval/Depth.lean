import ClauseFlow.Eval.Dispatch
import ClauseFlow.Proofs.Run.Comparison

/-!
# Depth of calls

The depth bounds how many calls are inside each other. A run that ends within some depth ends in the
same way within every greater one, so that the outcome of a call is that of all sufficiently great
depths. A call that is too deep for every depth does not end.
-/

namespace ClauseFlow

/-- The second run goes at least as deep as the first: they agree unless the first is too deep. -/
def Tolerance.deeper : Tolerance where
  first stop := stop = .tooDeep
  second _ := False
  both stop stop' := stop = stop'
  both_refl _ := rfl

namespace Run

variable {α : Type}

/-- Whether a run agrees with another one wherever that is not too deep. -/
abbrev DeepensTo (run run' : Run α) : Prop :=
  Near Tolerance.deeper run run'

/-- A run that is not too deep is not changed by going deeper. -/
theorem DeepensTo.apply_eq {run run' : Run α} (deepens : run.DeepensTo run') {stamp : Nat}
    (ends : run stamp ≠ .error .tooDeep) : run' stamp = run stamp := by
  have here := deepens stamp
  cases outcome : run stamp with
  | ok result =>
      rw [outcome] at here
      cases outcome' : run' stamp with
      | ok result' =>
          rw [outcome'] at here
          rw [show result = result' from here]
      | error stop' =>
          rw [outcome'] at here
          exact here.elim
  | error stop =>
      rw [outcome] at here ends
      have distinct : stop ≠ .tooDeep := fun equal => ends (by rw [equal])
      cases outcome' : run' stamp with
      | ok result' =>
          rw [outcome'] at here
          exact absurd here distinct
      | error stop' =>
          rw [outcome'] at here
          rcases here with early | impossible | equal
          · exact absurd early distinct
          · exact impossible.elim
          · rw [show stop = stop' from equal]

end Run

/-- Whether calls agree with others wherever they are not too deep. -/
structure Calls.DeepenTo (calls deeper : Calls) : Prop where
  dispatch : ∀ name arguments, (calls.dispatch name arguments).DeepensTo
    (deeper.dispatch name arguments)
  invoke : ∀ span? callee arguments, (calls.invoke span? callee arguments).DeepensTo
    (deeper.invoke span? callee arguments)

namespace Builtin

/-- Only the error handler calls back. -/
theorem call_eq_of_ne_handleError (home : Nat) (invoke invoke' : Invoke) {builtin : Builtin}
    (arguments : List Value) (other : builtin ≠ .handleError) :
    builtin.call home invoke arguments = builtin.call home invoke' arguments := by
  simp only [call]
  split
  all_goals first | rfl | exact absurd rfl other

/-- The error handler calls back once at most, with the payload of an error. -/
theorem handle_near {tolerance : Tolerance} {invoke invoke' : Invoke}
    (near : ∀ callee arguments, Run.Near tolerance (invoke none callee arguments)
      (invoke' none callee arguments)) (result handler : Value) :
    Run.Near tolerance (handle invoke result handler) (handle invoke' result handler) := by
  simp only [handle]
  apply Run.Near.ite (fun _ => Run.Near.refl _)
  intro _
  split
  · exact Run.Near.refl _
  · exact near handler [_]
  · exact Run.Near.refl _

theorem call_near {tolerance : Tolerance} (home : Nat) {invoke invoke' : Invoke}
    (near : ∀ callee arguments, Run.Near tolerance (invoke none callee arguments)
      (invoke' none callee arguments)) (builtin : Builtin) (arguments : List Value) :
    Run.Near tolerance (builtin.call home invoke arguments)
      (builtin.call home invoke' arguments) := by
  by_cases handles : builtin = .handleError
  · subst handles
    match arguments with
    | [result, handler] => exact handle_near near result handler
    | [] | [_] | _ :: _ :: _ :: _ => exact Run.Near.refl _
  · exact Run.Near.of_eq (call_eq_of_ne_handleError home invoke invoke' arguments handles)

end Builtin

namespace Eval

variable {calls deeper : Calls}

/-! ## Evaluation -/

theorem callGlobal_deepens (deepen : calls.DeepenTo deeper) (setting : Setting) (name : String)
    (arguments : List Value) (span? : Option Span) :
    (callGlobal calls setting name arguments span?).DeepensTo
      (callGlobal deeper setting name arguments span?) := by
  rw [callGlobal]
  apply Run.Near.ite
  · intro _
    exact deepen.dispatch name arguments
  · intro _
    split
    · exact Builtin.call_near setting.home (deepen.invoke none) _ arguments
    · exact Run.Near.refl _

theorem callNamed_deepens (deepen : calls.DeepenTo deeper) (setting : Setting)
    (env : Environment) (name : String) (arguments : List Value) (span : Span) :
    (callNamed calls setting env name arguments span).DeepensTo
      (callNamed deeper setting env name arguments span) := by
  simp only [callNamed]
  split
  · exact deepen.invoke (some span) _ arguments
  · exact callGlobal_deepens deepen setting name arguments (some span)

mutual

/-- Evaluation goes as deep as the calls it makes. -/
theorem evaluate_deepens (deepen : calls.DeepenTo deeper) (setting : Setting)
    (env : Environment) : ∀ expr : Expr,
    (evaluate calls setting env expr).DeepensTo (evaluate deeper setting env expr)
  | .integer .. | .decimal .. | .text .. | .atom .. | .boolean .. | .nil _ | .ident _
  | .typeName .. | .lambda .. => by
      simp only [evaluate]
      exact Run.Near.refl _
  | .binary left op right _ => by
      simp only [evaluate]
      apply Run.Near.bind (evaluate_deepens deepen setting env left)
      intro first
      have nearRight := evaluate_deepens deepen setting env right
      cases op with
      | and =>
          apply Run.Near.bind (Run.Near.refl _)
          intro holds
          exact Run.Near.ite (fun _ => nearRight.bind_same) fun _ => Run.Near.refl _
      | or =>
          apply Run.Near.bind (Run.Near.refl _)
          intro holds
          exact Run.Near.ite (fun _ => Run.Near.refl _) fun _ => nearRight.bind_same
      | _ => exact nearRight.bind_same
  | .unary _ operand _ => by
      simp only [evaluate]
      exact (evaluate_deepens deepen setting env operand).bind_same
  | .call callee arguments span => by
      simp only [evaluate]
      apply Run.Near.bind (evaluateAll_deepens deepen setting env arguments)
      intro values
      exact callNamed_deepens deepen setting env callee.name values span
  | .delegate callee arguments _ => by
      simp only [evaluate]
      apply Run.Near.bind (evaluateAll_deepens deepen setting env arguments)
      intro values
      exact deepen.dispatch callee.name values
  | .field subject _ _ => by
      simp only [evaluate]
      exact (evaluate_deepens deepen setting env subject).bind_same
  | .pipe left callee _ => by
      simp only [evaluate]
      apply Run.Near.bind (evaluate_deepens deepen setting env left)
      intro value
      exact callNamed_deepens deepen setting env callee.name [value] callee.span
  | .pipeCall left callee arguments callSpan _ => by
      simp only [evaluate]
      apply Run.Near.bind (evaluate_deepens deepen setting env left)
      intro value
      apply Run.Near.bind (evaluateAll_deepens deepen setting env arguments)
      intro values
      exact callNamed_deepens deepen setting env callee.name (value :: values) callSpan
  | .alternative left right _ => by
      simp only [evaluate]
      apply Run.Near.bind (evaluate_deepens deepen setting env left)
      intro value
      split
      · exact Run.Near.refl _
      · exact evaluate_deepens deepen setting env right
      · exact Run.Near.refl _
  | .result _ value _ => by
      simp only [evaluate]
      exact (evaluate_deepens deepen setting env value).bind_same
  | .tuple elements _ | .list elements none _ => by
      simp only [evaluate]
      exact (evaluateAll_deepens deepen setting env elements).bind_same
  | .list elements (some tail) _ => by
      simp only [evaluate]
      apply Run.Near.bind (evaluateAll_deepens deepen setting env elements)
      intro values
      exact (evaluate_deepens deepen setting env tail).bind_same
  | .map entries _ | .record _ entries _ => by
      simp only [evaluate]
      exact (evaluateEntries_deepens deepen setting env entries).bind_same
  | .conditional condition thenBranch elseBranch _ => by
      simp only [evaluate]
      apply Run.Near.bind (evaluate_deepens deepen setting env condition)
      intro value
      exact Run.Near.ite (fun _ => evaluate_deepens deepen setting env thenBranch)
        fun _ => evaluate_deepens deepen setting env elseBranch

theorem evaluateAll_deepens (deepen : calls.DeepenTo deeper) (setting : Setting)
    (env : Environment) : ∀ exprs : List Expr,
    (evaluateAll calls setting env exprs).DeepensTo (evaluateAll deeper setting env exprs)
  | [] => by
      simp only [evaluateAll]
      exact Run.Near.refl _
  | expr :: rest => by
      simp only [evaluateAll]
      apply Run.Near.bind (evaluate_deepens deepen setting env expr)
      intro value
      exact (evaluateAll_deepens deepen setting env rest).bind_same

theorem evaluateEntries_deepens (deepen : calls.DeepenTo deeper) (setting : Setting)
    (env : Environment) : ∀ entries : List (String × Expr),
    (evaluateEntries calls setting env entries).DeepensTo
      (evaluateEntries deeper setting env entries)
  | [] => by
      simp only [evaluateEntries]
      exact Run.Near.refl _
  | (_, expr) :: rest => by
      simp only [evaluateEntries]
      apply Run.Near.bind (evaluate_deepens deepen setting env expr)
      intro value
      exact (evaluateEntries_deepens deepen setting env rest).bind_same

end

/-! ## Dispatch -/

/-- A verdict on a guard is as deep as the guard. -/
theorem verdict_deepens (kind : ClauseKind) {guard guard' : Run Value}
    (deepens : guard.DeepensTo guard') : (verdict kind guard).DeepensTo (verdict kind guard') := by
  intro stamp
  by_cases early : guard stamp = .error .tooDeep
  · have tooDeep : verdict kind guard stamp = .error .tooDeep := by
      rw [verdict]
      rw [early]
    rw [tooDeep]
    exact Tolerance.allows_of_first rfl _
  · have same : verdict kind guard' stamp = verdict kind guard stamp := by
      simp only [verdict]
      rw [deepens.apply_eq early]
    rw [same]
    exact Tolerance.allows_refl _

theorem guardHolds_deepens (deepen : calls.DeepenTo deeper) (setting : Setting) (clause : Clause)
    (bindings : Bindings) :
    (guardHolds calls setting clause bindings).DeepensTo
      (guardHolds deeper setting clause bindings) := by
  simp only [guardHolds]
  split
  · exact Run.Near.refl _
  · exact verdict_deepens _ (evaluate_deepens deepen setting _ _)

theorem tryClauses_deepens (deepen : calls.DeepenTo deeper) (setting : Setting)
    (signature : Signature) (arguments : List Value) (clauses : List Clause) :
    (tryClauses calls setting signature arguments clauses).DeepensTo
      (tryClauses deeper setting signature arguments clauses) := by
  induction clauses with
  | nil => exact Run.Near.refl _
  | cons clause rest ih =>
      simp only [tryClauses]
      split
      · exact ih
      · apply Run.Near.bind (guardHolds_deepens deepen setting clause _)
        intro holds
        exact Run.Near.ite (fun _ => evaluate_deepens deepen setting _ clause.body) fun _ => ih

theorem dispatchClauses_deepens (deepen : calls.DeepenTo deeper) (setting : Setting)
    (name : String) (arguments : List Value) :
    (dispatchClauses calls setting name arguments).DeepensTo
      (dispatchClauses deeper setting name arguments) := by
  rw [dispatchClauses]
  exact Run.Near.ite (fun _ => tryClauses_deepens deepen setting _ arguments _)
    fun _ => Run.Near.refl _

theorem enter_deepens (deepen : calls.DeepenTo deeper) (setting : Setting) (span? : Option Span)
    (callee : Value) (arguments : List Value) :
    (enter calls setting span? callee arguments).DeepensTo
      (enter deeper setting span? callee arguments) := by
  simp only [enter]
  split
  · exact Run.Near.ite (fun _ => evaluate_deepens deepen setting _ _) fun _ => Run.Near.refl _
  · exact callGlobal_deepens deepen setting _ arguments none
  · exact Run.Near.refl _

/-- One more level of depth goes at least as deep. -/
theorem callsWithin_deepen (setting : Setting) (depth : Nat) :
    (callsWithin setting depth).DeepenTo (callsWithin setting (depth + 1)) := by
  induction depth with
  | zero =>
      constructor
      · intro name arguments stamp
        exact Tolerance.allows_of_first rfl _
      · intro span? callee arguments stamp
        exact Tolerance.allows_of_first rfl _
  | succ depth ih =>
      constructor
      · intro name arguments
        exact dispatchClauses_deepens ih setting name arguments
      · intro span? callee arguments
        exact enter_deepens ih setting span? callee arguments

end Eval
end ClauseFlow
