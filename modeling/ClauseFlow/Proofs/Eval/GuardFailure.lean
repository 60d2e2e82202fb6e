import ClauseFlow.Proofs.Eval.Likeness
import ClauseFlow.Proofs.Eval.SourceOrder

/-!
# Guards that fail

An error in a guard, other than one of dispatch, fails the clause of the guard and nothing else: the
call goes on as if the guard were false, or as if it held if the clause unwraps and the error is an
unbound name. A fault in a guard, though, ends the whole call.
-/

namespace ClauseFlow

/-- Whether an error is that of a name that stands for nothing. -/
def RuntimeError.isUnbound : RuntimeError → Bool
  | .unboundName .. => true
  | _ => false

namespace Eval

variable {calls : Calls} {setting : Setting} {signature : Signature} {arguments : List Value}
  {stamp : Nat} {clauses later : List Clause} {clause : Clause} {bindings : Bindings}

/-- What an error in a guard, other than one of dispatch, means for the clause. -/
theorem verdict_of_error {kind : ClauseKind} {guard : Run Value} {error : RuntimeError}
    (fails : guard stamp = .error (.error error)) (undispatched : error.isDispatch = false) :
    verdict kind guard stamp = .ok (decide (kind = .okUnwrap ∧ error.isUnbound = true), stamp) := by
  rw [verdict, fails]
  cases error with
  | unboundName => simp [RuntimeError.isUnbound]
  | noClause => cases undispatched
  | _ => simp [RuntimeError.isUnbound]

/-! ## Clauses that a call tries -/

/-- Whether a call tries a clause: it passes over the clauses before it, and the patterns of the
clause fit. Other clauses are left behind it. -/
structure Tries (calls : Calls) (setting : Setting) (arguments : List Value) (stamp : Nat)
    (clauses : List Clause) (clause : Clause) (bindings : Bindings) (later : List Clause) :
    Prop where
  reached : ∃ earlier, clauses = earlier ++ clause :: later ∧
    ∀ other ∈ earlier, select calls setting arguments stamp other = .ok none
  fits : Pattern.fitParams clause.params arguments = some bindings

namespace Tries

/-- A call tries its first clause if that one fits. -/
theorem head (fits : Pattern.fitParams clause.params arguments = some bindings) :
    Tries calls setting arguments stamp (clause :: later) clause bindings later :=
  ⟨⟨[], rfl, List.forall_mem_nil _⟩, fits⟩

/-- A clause that is passed over does not keep a call from trying a later one. -/
theorem cons {first : Clause} (passed : select calls setting arguments stamp first = .ok none)
    (tries : Tries calls setting arguments stamp clauses clause bindings later) :
    Tries calls setting arguments stamp (first :: clauses) clause bindings later := by
  rcases tries.reached with ⟨earlier, split, passedOver⟩
  refine ⟨⟨first :: earlier, ?_, List.forall_mem_cons.mpr ⟨passed, passedOver⟩⟩, tries.fits⟩
  rw [split, List.cons_append]

/-- A call that tries a clause goes by the guard of that clause. -/
theorem tryClauses_eq (tries : Tries calls setting arguments stamp clauses clause bindings later)
    (signature : Signature) :
    tryClauses calls setting signature arguments clauses stamp =
      match guardHolds calls setting clause bindings stamp with
      | .ok (true, _) => evaluate calls setting (clauseEnvironment bindings) clause.body stamp
      | .ok (false, _) => tryClauses calls setting signature arguments later stamp
      | .error stop => .error stop := by
  rcases tries.reached with ⟨earlier, rfl, passedOver⟩
  simp only [tryClauses_append passedOver, tryClauses_cons, select, tries.fits]
  rcases guardHolds calls setting clause bindings stamp with stop | ⟨holds, next⟩
  · rfl
  · cases holds <;> rfl

/-- A call goes on behind a guard that fails, or into the body of an unwrapping clause whose guard
fails for an unbound name. -/
theorem tryClauses_of_guard_error
    (tries : Tries calls setting arguments stamp clauses clause bindings later)
    (signature : Signature) {guard : Expr} (written : clause.guard? = some guard)
    {error : RuntimeError}
    (fails : evaluate calls setting (clauseEnvironment bindings) guard stamp =
      .error (.error error))
    (undispatched : error.isDispatch = false) :
    tryClauses calls setting signature arguments clauses stamp =
      if clause.kind = .okUnwrap ∧ error.isUnbound = true then
        evaluate calls setting (clauseEnvironment bindings) clause.body stamp
      else tryClauses calls setting signature arguments later stamp := by
  have held : guardHolds calls setting clause bindings stamp =
      .ok (decide (clause.kind = .okUnwrap ∧ error.isUnbound = true), stamp) := by
    simp only [guardHolds, written]
    exact verdict_of_error fails undispatched
  rw [tries.tryClauses_eq, held]
  by_cases delegates : clause.kind = .okUnwrap ∧ error.isUnbound = true
  · rw [if_pos delegates, decide_eq_true delegates]
  · rw [if_neg delegates, decide_eq_false delegates]

end Tries

/-! ## How a call fails -/

/-- The ways in which trying clauses is interrupted: no clause answers, the body of the clause that
answers is interrupted, or a guard is, by what no guard absorbs. -/
inductive Interrupted (calls : Calls) (setting : Setting) (signature : Signature)
    (arguments : List Value) (stamp : Nat) (clauses : List Clause) (stop : Interrupt) : Prop where
  | unanswered
      (passedOver : ∀ clause ∈ clauses, select calls setting arguments stamp clause = .ok none)
      (own : (Run.raise (.noClause signature arguments) : Run Value) stamp = .error stop)
  | body {clause : Clause} {bindings : Bindings} {later : List Clause}
      (tries : Tries calls setting arguments stamp clauses clause bindings later)
      (holds : guardHolds calls setting clause bindings stamp = .ok (true, stamp))
      (stops : evaluate calls setting (clauseEnvironment bindings) clause.body stamp =
        .error stop)
  | guard {clause : Clause} {bindings : Bindings} {later : List Clause} {guard : Expr}
      (tries : Tries calls setting arguments stamp clauses clause bindings later)
      (written : clause.guard? = some guard)
      (stops : evaluate calls setting (clauseEnvironment bindings) guard stamp = .error stop)
      (passes : stop.PassesGuards)

/-- A clause that is passed over changes nothing about how a call is interrupted. -/
theorem Interrupted.cons {first : Clause} {stop : Interrupt}
    (passed : select calls setting arguments stamp first = .ok none)
    (interrupted : Interrupted calls setting signature arguments stamp clauses stop) :
    Interrupted calls setting signature arguments stamp (first :: clauses) stop := by
  cases interrupted with
  | unanswered passedOver own =>
      exact .unanswered (List.forall_mem_cons.mpr ⟨passed, passedOver⟩) own
  | body tries holds stops => exact .body (tries.cons passed) holds stops
  | guard tries written stops passes => exact .guard (tries.cons passed) written stops passes

/-- A guard that interrupts its call is interrupted by what no guard absorbs. -/
theorem of_guardHolds_eq_error {stop : Interrupt}
    (interrupts : guardHolds calls setting clause bindings stamp = .error stop) :
    ∃ guard, clause.guard? = some guard ∧
      evaluate calls setting (clauseEnvironment bindings) guard stamp = .error stop ∧
      stop.PassesGuards := by
  cases written : clause.guard? with
  | none =>
      simp only [guardHolds, written] at interrupts
      cases interrupts
  | some guard =>
      simp only [guardHolds, written] at interrupts
      exact ⟨guard, rfl, of_verdict_error interrupts⟩

/-- There are no other ways in which trying clauses is interrupted. -/
theorem interrupted_of_tryClauses {stop : Interrupt}
    (stops : tryClauses calls setting signature arguments clauses stamp = .error stop) :
    Interrupted calls setting signature arguments stamp clauses stop := by
  induction clauses with
  | nil => exact .unanswered (List.forall_mem_nil _) stops
  | cons clause rest ih =>
      rw [tryClauses_cons] at stops
      rcases selected : select calls setting arguments stamp clause with found | (_ | bindings)
      · -- The clause fits, and its guard interrupts the call.
        rw [selected] at stops
        cases stops
        rcases of_select_eq_error selected with ⟨bindings, fits, interrupts⟩
        rcases of_guardHolds_eq_error interrupts with ⟨guard, written, fails, passes⟩
        exact .guard (.head fits) written fails passes
      · rw [selected] at stops
        exact (ih stops).cons selected
      · rw [selected] at stops
        rcases of_select_eq_some selected with ⟨fits, holds⟩
        exact .body (.head fits) holds stops

/-- A guard that fails by an error other than one of dispatch only fails its own clause: the call
goes on with the clauses that are left, or delegates if the clause unwraps and the error is an
unbound name. So a call is only interrupted if no clause answers, if the body of the clause that
answers is, or if a guard is by what no guard absorbs. -/
theorem dispatch_absorbs {setting : Setting} {name : String} {arguments : List Value}
    (declares : setting.program.declares ⟨name, arguments.length⟩ = true) (depth stamp : Nat) :
    let calls := callsWithin setting depth
    let signature : Signature := ⟨name, arguments.length⟩
    let clauses := setting.program.clausesOf signature
    (∀ clause bindings later guard error,
      Tries calls setting arguments stamp clauses clause bindings later →
      clause.guard? = some guard →
      evaluate calls setting (clauseEnvironment bindings) guard stamp = .error (.error error) →
      error.isDispatch = false →
        dispatchWithin setting (depth + 1) name arguments stamp =
          if clause.kind = .okUnwrap ∧ error.isUnbound = true then
            evaluate calls setting (clauseEnvironment bindings) clause.body stamp
          else tryClauses calls setting signature arguments later stamp) ∧
      ∀ stop, dispatchWithin setting (depth + 1) name arguments stamp = .error stop →
        Interrupted calls setting signature arguments stamp clauses stop := by
  intro calls signature clauses
  rw [dispatchWithin_of_declares declares]
  constructor
  · intro clause bindings later guard error tries written fails undispatched
    exact tries.tryClauses_of_guard_error signature written fails undispatched
  · intro stop stops
    exact interrupted_of_tryClauses stops

/-- `pipe share(n) when 12 / n > 2 -> Ok(n)`. -/
def sharing : Declaration :=
  let here : Span := .generated
  let guard : Expr :=
    .binary (.binary (.integer 12 here) .div (.ident ⟨"n", here⟩) here) .greater
      (.integer 2 here) here
  ⟨.guarded ⟨"share", [.binding "n" here], here⟩ guard here,
    .result .ok (.ident ⟨"n", here⟩) here, true, none, here⟩

/-- `def share(_) -> :none`. -/
def sharingNothing : Declaration :=
  let here : Span := .generated
  ⟨.plain ⟨"share", [.wildcard here], here⟩, .atom "none" here, false, none, here⟩

/-- With zero the guard divides by zero, so the last clause answers. With `Ok(0)` the guard of the
unwrapping clause does not know `n`, so the clause delegates to the call with zero. -/
theorem dispatch_absorbs_sharing :
    let setting : Setting := ⟨.ofDeclarations [sharing, sharingNothing], [], 0⟩
    setting.program.declares ⟨"share", 1⟩ = true ∧
      dispatchWithin setting 1 "share" [.integer 0] 0 = .ok (.atom "none", 0) ∧
      dispatchWithin setting 2 "share" [.result .ok (.integer 0)] 0 = .ok (.atom "none", 0) := by
  intro setting
  have declares : setting.program.declares ⟨"share", 1⟩ = true := by decide +kernel
  have clauses : setting.program.clausesOf ⟨"share", 1⟩ =
      [sharing.errorClause 0, sharing.okClause 0, sharing.defaultClause 0,
        sharingNothing.defaultClause 1] := by decide +kernel
  have divides : Tries (callsWithin setting 0) setting [.integer 0] 0
      (setting.program.clausesOf ⟨"share", 1⟩) (sharing.defaultClause 0) [("n", .integer 0)]
      [sharingNothing.defaultClause 1] := by
    rw [clauses]
    exact .cons rfl (.cons rfl (.head rfl))
  have unwraps : Tries (callsWithin setting 1) setting [.result .ok (.integer 0)] 0
      (setting.program.clausesOf ⟨"share", 1⟩) (sharing.okClause 0) [("x", .integer 0)]
      [sharing.defaultClause 0, sharingNothing.defaultClause 1] := by
    rw [clauses]
    exact .cons rfl (.head rfl)
  have zero : dispatchWithin setting 1 "share" [.integer 0] 0 = .ok (.atom "none", 0) :=
    ((dispatch_absorbs declares 0 0).1 _ _ _ _ _ divides rfl rfl rfl).trans rfl
  refine ⟨declares, zero, ?_⟩
  exact ((dispatch_absorbs declares 1 0).1 _ _ _ _ _ unwraps rfl rfl rfl).trans zero

/-- `def find(key) when map_get(%{}, key, true) -> :yes`. -/
def finding : Declaration :=
  let here : Span := .generated
  let guard : Expr :=
    .call ⟨"map_get", here⟩ [.map [] here, .ident ⟨"key", here⟩, .boolean true here] here
  ⟨.guarded ⟨"find", [.binding "key" here], here⟩ guard here, .atom "yes" here, false, none, here⟩

/-- `def find(_) -> :no`. -/
def findingNothing : Declaration :=
  let here : Span := .generated
  ⟨.plain ⟨"find", [.wildcard here], here⟩, .atom "no" here, false, none, here⟩

/-- A list cannot be a key of a map: asking for one is a fault, which the guard does not keep to its
clause. The clause behind it, which would answer, is not reached. -/
theorem dispatch_fault_finding :
    let setting : Setting := ⟨.ofDeclarations [finding, findingNothing], [], 0⟩
    let calls := callsWithin setting 0
    let list : Value := .list [.integer 1]
    ∃ guard, (finding.defaultClause 0).guard? = some guard ∧
      Tries calls setting [list] 0 (setting.program.clausesOf ⟨"find", 1⟩)
        (finding.defaultClause 0) [("key", list)] [findingNothing.defaultClause 1] ∧
      evaluate calls setting (clauseEnvironment [("key", list)]) guard 0 =
        .error (.fault .unusableKey) ∧
      dispatchWithin setting 1 "find" [list] 0 = .error (.fault .unusableKey) ∧
      tryClauses calls setting ⟨"find", 1⟩ [list] [findingNothing.defaultClause 1] 0 =
        .ok (.atom "no", 0) := by
  intro setting calls list
  have declares : setting.program.declares ⟨"find", 1⟩ = true := by decide +kernel
  have clauses : setting.program.clausesOf ⟨"find", 1⟩ =
      [finding.defaultClause 0, findingNothing.defaultClause 1] := by decide +kernel
  refine ⟨_, rfl, ?_, rfl, ?_, rfl⟩
  · rw [clauses]
    exact .head rfl
  · rw [dispatchWithin_of_declares declares, List.length_singleton, clauses]
    rfl

end Eval
end ClauseFlow
