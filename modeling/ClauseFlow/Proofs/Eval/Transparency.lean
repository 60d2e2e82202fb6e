import ClauseFlow.Checker
import ClauseFlow.Proofs.Eval.Reliance
import ClauseFlow.Proofs.Eval.Unwrapping

/-!
# Calls with a success

A call that returns something for a plain first argument returns the same for a success with that
argument in it. The guard of the declaration that answers the plain call is asked once more by the
unwrapping clause, without the names of the first pattern. Where it comes upon such a name it leaves
the decision to the call that it hands on. What can come between is a guard that interrupts the call
with what no guard absorbs.
-/

namespace ClauseFlow

/-- Whether the guard of a declaration can be asked without the first pattern: each name of that
pattern which it spells stands for the same value without it, or else for nothing, the name neither
being that of a function nor being called. -/
def Declaration.Defers (declaration : Declaration) (program : Program)
    (bindings tailBindings : Bindings) : Prop :=
  ∀ guard ∈ declaration.guard?, ∀ asked ∈ Pattern.namesOfAll (declaration.params.take 1),
    asked ∈ guard.spelledNames →
      bindings.lookup asked = tailBindings.lookup asked ∨
        tailBindings.lookup asked = none ∧ program.knows asked = false ∧
          ∀ call ∈ guard.calls [], call.signature.name ≠ asked

namespace Eval

variable {calls : Calls} {setting : Setting} {declarations : List Declaration}
variable {declaration : Declaration} {name : String} {value : Value} {others : List Value}

/-! ## The declaration that answers the plain call -/

/-- A call that returns for a plain first argument is answered by a declaration. -/
theorem exists_answering_declaration (program : setting.program = .ofDeclarations declarations)
    (declared : ∃ declaration ∈ declarations,
      declaration.signature = ⟨name, others.length + 1⟩)
    (noResult : value.isResult = false) {depth stamp : Nat} {result : Value × Nat}
    (returns : dispatchWithin setting (depth + 1) name (value :: others) stamp = .ok result) :
    ∃ declaration ∈ declarations, declaration.signature = ⟨name, others.length + 1⟩ ∧
      ∃ order bindings, select (callsWithin setting depth) setting (value :: others) stamp
        (declaration.defaultClause order) = .ok (some bindings) := by
  have noError : ∀ inner, value ≠ .result .error inner := by
    rintro inner rfl
    cases noResult
  rw [dispatchWithin_of_no_error program declared noError] at returns
  rcases exists_answering returns with ⟨clause, member, bindings, selected⟩
  rcases List.mem_append.mp member with unwraps | default
  · have passedOver : select (callsWithin setting depth) setting (value :: others) stamp clause =
        .ok none :=
      select_synthesized (by decide) (Clause.mem_ofSignature.mp unwraps).1
        (by simpa using noResult) stamp
    rw [passedOver] at selected
    cases selected
  · rcases Clause.mem_ofSignature.mp default with ⟨kept, own⟩
    rcases Clause.exists_of_mem_kept kept with ⟨declaration, declared, _, order, rfl⟩
    exact ⟨declaration, declared, own, order, bindings, selected⟩

/-- If a declaration answers the plain call, its unwrapping clause is not passed over by the call
with the success. -/
theorem select_okClause_of_default (blind : PlaceBlind True calls)
    (plain : ∀ guard ∈ declaration.guard?, guard.isPlain = true)
    (repeats : (Pattern.fitParams declaration.params (value :: others)).isSome →
      declaration.OthersRepeat others)
    (sameLength : declaration.params.length = others.length + 1)
    (defers : ∀ bindings tailBindings,
      Pattern.fitParams declaration.params (value :: others) = some bindings →
      Pattern.fitParams declaration.params.tail others = some tailBindings →
        declaration.Defers setting.program bindings tailBindings)
    {order stamp : Nat} {bindings : Bindings}
    (selected : select calls setting (value :: others) stamp (declaration.defaultClause order) =
      .ok (some bindings)) (okOrder : Nat) :
    select calls setting (.result .ok value :: others) stamp (declaration.okClause okOrder) ≠
      .ok none := by
  rcases of_select_eq_some selected with ⟨fits, holds⟩
  rw [Declaration.defaultClause_params] at fits
  have repeats := repeats (Option.isSome_of_eq_some fits)
  rcases repeats.exists_fitParams fits sameLength with ⟨tailBindings, tailFits⟩
  obtain ⟨okBindings, okFits, sameTaken⟩ :=
    Declaration.fitParams_okClause okOrder value tailFits
  have okHolds : guardHolds calls setting (declaration.okClause okOrder) okBindings stamp =
      .ok (true, stamp) := by
    cases written : declaration.guard? with
    | none => simp only [guardHolds, Declaration.okClause_guard?, written, Run.pure_apply]
    | some guard =>
        simp only [guardHolds, Declaration.defaultClause_guard?, written] at holds
        simp only [guardHolds, Declaration.okClause_guard?, written]
        refine verdict_okUnwrap_of_blurs ?_ holds
        apply evaluate_blurs_of_deferral blind (plain guard written)
        intro asked spelled
        simp only [lookup_clauseEnvironment]
        rw [sameTaken asked (Declaration.mem_takenNames_of_spelled written spelled)]
        by_cases own : asked ∈ Pattern.namesOfAll (declaration.params.take 1)
        · exact defers bindings tailBindings fits tailFits guard written asked own spelled
        · exact .inl (Declaration.lookup_of_not_mem_first fits tailFits own)
  rw [select_of_holds okFits okHolds]
  intro passedOver
  cases passedOver

/-! ## Guards that interrupt the call -/

/-- Whether the guard of a declaration, asked without the first pattern, interrupts a call with what
no guard absorbs. -/
def GuardInterrupts (setting : Setting) (declaration : Declaration) (others : List Value)
    (stamp : Nat) (stop : Interrupt) : Prop :=
  stop.PassesGuards ∧
    ∃ tailBindings, Pattern.fitParams declaration.params.tail others = some tailBindings ∧
      ∃ guard ∈ declaration.guard?,
        Run.EndsIn (evaluations setting (clauseEnvironment tailBindings) guard) stamp (.error stop)

/-- Evaluations of the guard of a declaration without the first pattern. -/
def guardEvaluations (setting : Setting) (others : List Value) (declaration : Declaration) :
    Nat → Run Value :=
  evaluations setting
    (clauseEnvironment ((Pattern.fitParams declaration.params.tail others).getD []))
    (declaration.guard?.getD (.nil .generated))

theorem guardEvaluations_deepening (setting : Setting) (others : List Value)
    (declaration : Declaration) : Run.Deepening (guardEvaluations setting others declaration) :=
  evaluations_deepening _ _ _

/-- An unwrapping clause interrupts a call only if the guard of its declaration does so without the
first pattern. -/
theorem guardInterrupts_of_select (plain : ∀ guard ∈ declaration.guard?, guard.isPlain = true)
    {depth order stamp : Nat} {stop : Interrupt}
    (settled : Run.EndsIn (guardEvaluations setting others declaration) stamp
      (guardEvaluations setting others declaration depth stamp))
    (interrupts : select (callsWithin setting depth) setting (.result .ok value :: others) stamp
      (declaration.okClause order) = .error stop) :
    GuardInterrupts setting declaration others stamp stop := by
  rcases of_select_eq_error interrupts with ⟨bindings, fits, held⟩
  cases tailFits : Pattern.fitParams declaration.params.tail others with
  | none =>
      rw [Declaration.fitParams_okClause_none order _ tailFits] at fits
      cases fits
  | some tailBindings =>
      obtain ⟨okBindings, okFits, sameTaken⟩ :=
        Declaration.fitParams_okClause order value tailFits
      obtain rfl : okBindings = bindings := Option.some.inj (okFits.symm.trans fits)
      cases written : declaration.guard? with
      | none =>
          simp only [guardHolds, Declaration.okClause_guard?, written, Run.pure_apply] at held
          cases held
      | some guard =>
          simp only [guardHolds, Declaration.okClause_guard?, written] at held
          rcases of_verdict_error held with ⟨stops, passes⟩
          have blurs : Blurs False
              (evaluate (callsWithin setting depth) setting (clauseEnvironment okBindings) guard)
              (evaluate (callsWithin setting depth) setting (clauseEnvironment tailBindings)
                guard) := by
            apply evaluate_blurs_of_lookup (callsWithin_placeBlind setting depth)
              (plain guard written)
            intro asked spelled
            simp only [lookup_clauseEnvironment]
            exact sameTaken asked (Declaration.mem_takenNames_of_spelled written spelled)
          refine ⟨passes, tailBindings, tailFits, guard, written, ?_⟩
          simp only [guardEvaluations, tailFits, written, Option.getD_some, evaluations,
            eq_error_of_blurs blurs passes stops] at settled
          exact settled

/-! ## Transparency -/

/-- A depth at which the plain call has returned, the call with the success has come to its outcome,
and so have the guards without the first pattern. -/
theorem exists_common_depth {stamp : Nat} {result : Value × Nat}
    (returns : Run.EndsIn (dispatches setting name (value :: others)) stamp (.ok result))
    (declarations : List Declaration) :
    ∃ outcome,
      Run.EndsIn (dispatches setting name (.result .ok value :: others)) stamp outcome ∧
        ∃ depth,
          (∀ more, dispatchWithin setting (depth + more) name (value :: others) stamp =
            .ok result) ∧
          dispatchWithin setting (depth + 1) name (.result .ok value :: others) stamp = outcome ∧
          ∀ declaration ∈ declarations,
            Run.EndsIn (guardEvaluations setting others declaration) stamp
              (guardEvaluations setting others declaration depth stamp) := by
  rcases returns with ⟨plainDepth, returned⟩
  obtain ⟨guardDepth, settled⟩ :=
    Run.Deepening.exists_settled (guardEvaluations_deepening setting others) declarations stamp
  obtain ⟨outcome, depth, stable⟩ :=
    (dispatches_deepening setting name (.result .ok value :: others)).exists_endsIn stamp
  refine ⟨outcome, ⟨depth, stable⟩, guardDepth + (plainDepth + depth), ?_, ?_, ?_⟩
  · intro more
    rw [← returned (guardDepth + depth + more)]
    congr 1
    omega
  · rw [← stable (guardDepth + plainDepth + 1)]
    congr 1
    omega
  · intro declaration member
    exact settled declaration member (plainDepth + depth)

/-- Where the guards can be blurred, the call with the success either hands the plain call on or is
interrupted by a guard. -/
theorem transparent_of_isPlain (program : setting.program = .ofDeclarations declarations)
    (declared : ∃ declaration ∈ declarations,
      declaration.signature = ⟨name, others.length + 1⟩)
    (synthesized : ∀ declaration ∈ declarations,
      declaration.signature = ⟨name, others.length + 1⟩ → declaration.synthesized = true)
    (plain : ∀ declaration ∈ declarations,
      declaration.signature = ⟨name, others.length + 1⟩ →
        ∀ guard ∈ declaration.guard?, guard.isPlain = true)
    (repeats : ∀ declaration ∈ declarations,
      declaration.signature = ⟨name, others.length + 1⟩ →
        (Pattern.fitParams declaration.params (value :: others)).isSome ∨
            (Pattern.fitParams declaration.params.tail others).isSome →
          declaration.OthersRepeat others)
    (defers : ∀ declaration ∈ declarations,
      declaration.signature = ⟨name, others.length + 1⟩ → ∀ bindings tailBindings,
        Pattern.fitParams declaration.params (value :: others) = some bindings →
        Pattern.fitParams declaration.params.tail others = some tailBindings →
          declaration.Defers setting.program bindings tailBindings)
    (noResult : value.isResult = false) {stamp : Nat} {result : Value × Nat}
    (returns : Run.EndsIn (dispatches setting name (value :: others)) stamp (.ok result)) :
    ∃ outcome,
      Run.EndsIn (dispatches setting name (.result .ok value :: others)) stamp outcome ∧
        (outcome = .ok result ∨
          ∃ declaration ∈ declarations, declaration.signature = ⟨name, others.length + 1⟩ ∧
            ∃ stop, GuardInterrupts setting declaration others stamp stop ∧
              outcome = .error stop) := by
  obtain ⟨outcome, ends, depth, plainHere, wrappedHere, settled⟩ :=
    exists_common_depth returns declarations
  refine ⟨outcome, ends, ?_⟩
  obtain ⟨declaration, member, own, order, bindings, selected⟩ :=
    exists_answering_declaration program declared noResult (plainHere 1)
  have sameLength : declaration.params.length = others.length + 1 :=
    congrArg Signature.arity own
  have answers : declaration.Answers := by
    apply Declaration.answers_of_arity_pos (synthesized declaration member own)
    rw [own]
    exact Nat.succ_pos _
  have answered := exists_kept_okClause (callsWithin_placeBlind setting depth) plain member own
    answers (select_okClause_of_default (callsWithin_placeBlind setting depth)
      (plain declaration member own) (fun fits => repeats declaration member own (.inl fits))
      sameLength (defers declaration member own) selected)
  rcases dispatchWithin_handsOn program
      (fun declaration member own fits => repeats declaration member own (.inr fits)) answered with
    same | ⟨other, otherMember, otherOwn, okOrder, stop, interrupts, same⟩
  · left
    rw [← wrappedHere, same]
    exact plainHere 0
  · right
    refine ⟨other, otherMember, otherOwn, stop, ?_, wrappedHere.symm.trans same⟩
    exact guardInterrupts_of_select (plain other otherMember otherOwn)
      (settled other otherMember) interrupts

/-- If a function whose declarations all are `pipe` declarations returns something for a plain first
argument, it returns the same for a success with that argument in it, unless the guard of one of its
declarations, asked without the first pattern, interrupts the call with what no guard absorbs. Then
this is how the call with the success ends.

Guards are as the grammar writes them, without `fn`; see `transparent_of_read` for what has been
read. In declarations that fit, a name that occurs again meets the very same value again, and the
guard can be asked without the first pattern. -/
theorem dispatch_transparent (program : setting.program = .ofDeclarations declarations)
    (declared : ∃ declaration ∈ declarations,
      declaration.signature = ⟨name, others.length + 1⟩)
    (synthesized : ∀ declaration ∈ declarations,
      declaration.signature = ⟨name, others.length + 1⟩ → declaration.synthesized = true)
    (written : ∀ declaration ∈ declarations,
      declaration.signature = ⟨name, others.length + 1⟩ →
        ∀ guard ∈ declaration.guard?, guard.isWritten = true)
    (lambdaFree : ∀ declaration ∈ declarations,
      declaration.signature = ⟨name, others.length + 1⟩ →
        ∀ guard ∈ declaration.guard?, guard.lambdaFree = true)
    (repeats : ∀ declaration ∈ declarations,
      declaration.signature = ⟨name, others.length + 1⟩ →
        (Pattern.fitParams declaration.params (value :: others)).isSome ∨
            (Pattern.fitParams declaration.params.tail others).isSome →
          declaration.OthersRepeat others)
    (defers : ∀ declaration ∈ declarations,
      declaration.signature = ⟨name, others.length + 1⟩ → ∀ bindings tailBindings,
        Pattern.fitParams declaration.params (value :: others) = some bindings →
        Pattern.fitParams declaration.params.tail others = some tailBindings →
          declaration.Defers setting.program bindings tailBindings)
    (noResult : value.isResult = false) {stamp : Nat} {result : Value × Nat}
    (returns : Run.EndsIn (dispatches setting name (value :: others)) stamp (.ok result)) :
    ∃ outcome,
      Run.EndsIn (dispatches setting name (.result .ok value :: others)) stamp outcome ∧
        (outcome = .ok result ∨
          ∃ declaration ∈ declarations, declaration.signature = ⟨name, others.length + 1⟩ ∧
            ∃ stop, GuardInterrupts setting declaration others stamp stop ∧
              outcome = .error stop) := by
  apply transparent_of_isPlain program declared synthesized _ repeats defers noResult returns
  intro declaration member own guard guarded
  exact Expr.isPlain_of_isWritten (written declaration member own guard guarded)
    (lambdaFree declaration member own guard guarded)

/-- `pipe over(x, low) when x > low -> Ok(x)` and `pipe over(_, low) -> Error(low)`. -/
def overs : List Declaration :=
  let here : Span := .generated
  let ident (name : String) : Expr := .ident ⟨name, here⟩
  [⟨.guarded ⟨"over", [.binding "x" here, .binding "low" here], here⟩
      (.binary (ident "x") .greater (ident "low") here) here, .result .ok (ident "x") here, true,
      none, here⟩,
    ⟨.plain ⟨"over", [.wildcard here, .binding "low" here], here⟩,
      .result .error (ident "low") here, true, none, here⟩]

theorem dispatch_transparent_overs :
    ∃ outcome,
      Run.EndsIn (dispatches ⟨.ofDeclarations overs, [], 0⟩ "over"
          [.result .ok (.integer 5), .integer 2]) 0 outcome ∧
        (outcome = .ok (.result .ok (.integer 5), 0) ∨
          ∃ declaration ∈ overs, declaration.signature = ⟨"over", 2⟩ ∧
            ∃ stop, GuardInterrupts ⟨.ofDeclarations overs, [], 0⟩ declaration [.integer 2] 0 stop ∧
              outcome = .error stop) := by
  have distinct : ∀ declaration ∈ overs, declaration.OthersDistinct := by decide +kernel
  apply dispatch_transparent rfl
  · exact ⟨overs[0], by decide +kernel, rfl⟩
  · decide +kernel
  · decide +kernel
  · decide +kernel
  · intro declaration member own fits
    exact (distinct declaration member).repeat _
  · intro declaration member own bindings tailBindings fits tailFits guard guarded asked first
      spelled
    rcases List.mem_cons.mp member with rfl | later
    · obtain rfl := Option.some.inj tailFits
      obtain rfl := Option.some.inj guarded
      obtain rfl := List.mem_singleton.mp first
      exact .inr ⟨rfl, by decide +kernel, nofun⟩
    · obtain rfl := List.mem_singleton.mp later
      cases guarded
  · rfl
  · exact (dispatches_deepening _ _ _).endsIn (rfl : dispatches _ _ _ 2 0 = _) nofun

/-- `pipe pass(:a, y) when check(y) -> Ok(y)`, `pipe pass(x, _y) -> Ok(x)` and
`def check(:yes) -> true`. -/
def checks : List Declaration :=
  let here : Span := .generated
  let ident (name : String) : Expr := .ident ⟨name, here⟩
  [⟨.guarded ⟨"pass", [.literal (.atom "a") here, .binding "y" here], here⟩
      (.call ⟨"check", here⟩ [ident "y"] here) here, .result .ok (ident "y") here, true, none,
      here⟩,
    ⟨.plain ⟨"pass", [.binding "x" here, .binding "_y" here], here⟩, .result .ok (ident "x") here,
      true, none, here⟩,
    ⟨.plain ⟨"check", [.literal (.atom "yes") here], here⟩, .boolean true here, false, none, here⟩]

/-- The exception is needed. The module has no errors, and `pass(:b, :no)` is `Ok(:b)`, without the
first guard being asked. But `pass(Ok(:b), :no)` asks it, and `check(:no)` has no clause. -/
theorem dispatch_interrupted_checks :
    (Checker.check ⟨checks, .generated⟩).any Finding.isError = false ∧
      (∀ declaration ∈ checks, declaration.signature = ⟨"pass", 2⟩ →
        declaration.synthesized = true) ∧
      Run.EndsIn (dispatches ⟨.ofDeclarations checks, [], 0⟩ "pass" [.atom "b", .atom "no"]) 0
        (.ok (.result .ok (.atom "b"), 0)) ∧
      Run.EndsIn (dispatches ⟨.ofDeclarations checks, [], 0⟩ "pass"
          [.result .ok (.atom "b"), .atom "no"]) 0
        (.error (.error (.noClause ⟨"check", 1⟩ [.atom "no"]))) ∧
      ∀ next, ¬Run.EndsIn (dispatches ⟨.ofDeclarations checks, [], 0⟩ "pass"
        [.result .ok (.atom "b"), .atom "no"]) 0 (.ok (.result .ok (.atom "b"), next)) := by
  have interrupted : Run.EndsIn (dispatches ⟨.ofDeclarations checks, [], 0⟩ "pass"
      [.result .ok (.atom "b"), .atom "no"]) 0
      (.error (.error (.noClause ⟨"check", 1⟩ [.atom "no"]))) :=
    (dispatches_deepening _ _ _).endsIn (rfl : dispatches _ _ _ 3 0 = _) nofun
  refine ⟨by decide +kernel, by decide +kernel, ?_, interrupted, ?_⟩
  · exact (dispatches_deepening _ _ _).endsIn (rfl : dispatches _ _ _ 3 0 = _) nofun
  · intro next returns
    cases interrupted.unique returns

end Eval
end ClauseFlow
