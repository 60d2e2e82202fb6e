import ClauseFlow.Proofs.Clause.Ordering
import ClauseFlow.Proofs.Eval.Ending
import ClauseFlow.Proofs.Shape.Twins

/-!
# Source order

A call whose first argument is no result goes through the declarations of its function as they are
written. That clauses are grouped, synthesized and dropped for their shape does not show:
synthesized clauses ask for a result, and a clause of an earlier shape would be passed over as well.
-/

namespace ClauseFlow

/-- Whether an error is one of dispatch: no clause has answered a call. -/
def RuntimeError.isDispatch : RuntimeError → Bool
  | .noClause .. => true
  | _ => false

namespace Eval

/-! ## Going through declarations as they are written -/

/-- Whether a guard comes out as exactly `true`. An error passes for a guard that does not hold,
except for one of dispatch. -/
def isExactlyTrue (guard : Run Value) : Run Bool :=
  fun stamp =>
    match guard stamp with
    | .ok (.boolean true, _) => .ok (true, stamp)
    | .ok _ => .ok (false, stamp)
    | .error (.error error) =>
        if error.isDispatch then .error (.error error) else .ok (false, stamp)
    | .error other => .error other

/-- Goes through declarations in order, and runs the body of the first one of a function whose
patterns fit and whose guard, if any, comes out as `true`. -/
def walkDeclarations (calls : Calls) (setting : Setting) (signature : Signature)
    (arguments : List Value) : List Declaration → Run Value
  | [] => Run.raise (.noClause signature arguments)
  | declaration :: rest =>
      if declaration.signature = signature then
        match Pattern.fitParams declaration.params arguments with
        | none => walkDeclarations calls setting signature arguments rest
        | some bindings => do
            let env := clauseEnvironment bindings
            let holds ←
              match declaration.guard? with
              | none => pure true
              | some guard => isExactlyTrue (evaluate calls setting env guard)
            if holds then evaluate calls setting env declaration.body
            else walkDeclarations calls setting signature arguments rest
      else walkDeclarations calls setting signature arguments rest

variable {calls : Calls} {setting : Setting} {declarations : List Declaration}

theorem isExactlyTrue_eq_verdict (guard : Run Value) :
    isExactlyTrue guard = verdict .default guard := by
  funext stamp
  rw [isExactlyTrue, verdict]
  rcases guard stamp with stop | ⟨value, next⟩
  · cases stop with
    | error error => cases error <;> rfl
    | _ => rfl
  · cases value with
    | boolean holds => cases holds <;> rfl
    | _ => rfl

/-- Going through declarations is trying their default clauses. -/
theorem walkDeclarations_eq_tryClauses (signature : Signature) (arguments : List Value)
    (order : Nat) (declarations : List Declaration) :
    walkDeclarations calls setting signature arguments declarations =
      tryClauses calls setting signature arguments
        (Clause.ofSignature signature
          (Clause.ofKind .default (Declaration.clausesFrom order declarations))) := by
  induction declarations generalizing order with
  | nil => rfl
  | cons declaration rest ih =>
      rw [Declaration.ofKind_default_clausesFrom, walkDeclarations]
      by_cases own : declaration.signature = signature
      · rw [if_pos own, Clause.ofSignature_cons_of_eq own, tryClauses,
          Declaration.defaultClause_params, ih (order + 1)]
        cases fitted : Pattern.fitParams declaration.params arguments with
        | none => rfl
        | some bindings =>
            simp only [guardHolds, Declaration.defaultClause_guard?, isExactlyTrue_eq_verdict]
            cases declaration.guard? <;> rfl
      · rw [if_neg own, Clause.ofSignature_cons_of_ne own, ih (order + 1)]

/-! ## Clauses of an earlier shape -/

/-- Dropping the clauses that have the shape of an earlier one changes no call, if the shapes met
before are passed over in this call. -/
theorem tryClauses_dedupe (blind : PlaceBlind False calls) {seen : List Shape}
    {clauses : List Clause}
    (plain : ∀ clause ∈ clauses, ∀ guard ∈ clause.guard?, guard.isPlain = true)
    {signature : Signature} {arguments : List Value} {stamp : Nat}
    (passedOver : ∀ clause ∈ clauses, clause.signature = signature → clause.shapeKey ∈ seen →
      select calls setting arguments stamp clause = .ok none) :
    tryClauses calls setting signature arguments
        (Clause.ofSignature signature (Clause.dedupe seen clauses).1) stamp =
      tryClauses calls setting signature arguments (Clause.ofSignature signature clauses)
        stamp := by
  fun_induction Clause.dedupe seen clauses with
  | case1 => rfl
  | case2 seen clause rest met kept dropped split ih =>
      have later := ih (fun other member => plain other (.tail _ member))
        fun other member => passedOver other (.tail _ member)
      rw [split] at later
      rw [later]
      by_cases own : clause.signature = signature
      · have known : clause.shapeKey ∈ seen := by simpa using met
        rw [Clause.ofSignature_cons_of_eq own, tryClauses_cons,
          passedOver clause (.head _) own known]
      · rw [Clause.ofSignature_cons_of_ne own]
  | case3 seen clause rest unmet kept dropped split ih =>
      by_cases own : clause.signature = signature
      · rw [Clause.ofSignature_cons_of_eq own, Clause.ofSignature_cons_of_eq own, tryClauses_cons,
          tryClauses_cons]
        rcases selected : select calls setting arguments stamp clause with stop | (_ | bindings)
        · rfl
        · -- The clause is passed over, and with it every later clause of its shape.
          have later := ih (fun other member => plain other (.tail _ member)) <| by
            intro other member otherOwn known
            rcases List.mem_cons.mp known with same | known
            · exact passedOver_of_shapeKey_eq blind same.symm (plain clause (.head _))
                (plain other (.tail _ member)) selected
            · exact passedOver other (.tail _ member) otherOwn known
          rw [split] at later
          exact later
        · rfl
      · rw [Clause.ofSignature_cons_of_ne own, Clause.ofSignature_cons_of_ne own]
        have later := ih (fun other member => plain other (.tail _ member)) <| by
          intro other member otherOwn known
          rcases List.mem_cons.mp known with same | known
          · exact absurd ((Clause.signature_eq_of_shapeKey_eq same).symm.trans otherOwn) own
          · exact passedOver other (.tail _ member) otherOwn known
        rw [split] at later
        exact later

/-! ## Synthesized clauses -/

/-- A clause whose first parameter asks for a result is passed over if the first argument is no
result. -/
theorem select_of_result {clause : Clause} {tag : ResultTag} {inner : Pattern} {span : Span}
    {others : List Pattern} (asks : clause.params = .result tag inner span :: others)
    {arguments : List Value} (plainFirst : ∀ first ∈ arguments.head?, first.isResult = false)
    (stamp : Nat) : select calls setting arguments stamp clause = .ok none := by
  apply select_of_unfit
  rw [Pattern.fitParams]
  rw [asks]
  cases arguments with
  | nil => rfl
  | cons first rest =>
      have plain := plainFirst first rfl
      cases first with
      | result => cases plain
      | _ => rfl

/-- The clauses that hand errors through and those that unwrap ask for a result. -/
theorem select_synthesized {clause : Clause} {kind : ClauseKind}
    (synthesized : kind ≠ .default) (kept : clause ∈ Clause.kept declarations kind)
    {arguments : List Value} (plainFirst : ∀ first ∈ arguments.head?, first.isResult = false)
    (stamp : Nat) : select calls setting arguments stamp clause = .ok none := by
  rcases Clause.exists_of_mem_kept kept with ⟨declaration, _, _, order, rfl⟩
  cases kind with
  | default => exact absurd rfl synthesized
  | errorPassthrough => exact select_of_result rfl plainFirst stamp
  | okUnwrap => exact select_of_result (declaration.okClause_params order) plainFirst stamp

/-! ## Dispatch in source order -/

/-- A call whose first argument is no result walks through the declarations of its function, within
every depth. -/
theorem dispatchWithin_eq_walkDeclarations
    (program : setting.program = .ofDeclarations declarations)
    (plain : ∀ declaration ∈ declarations, ∀ guard ∈ declaration.guard?, guard.isPlain = true)
    {name : String} {arguments : List Value}
    (declared : ∃ declaration ∈ declarations, declaration.signature = ⟨name, arguments.length⟩)
    (plainFirst : ∀ first ∈ arguments.head?, first.isResult = false) (depth : Nat) :
    dispatchWithin setting (depth + 1) name arguments =
      walkDeclarations (callsWithin setting depth) setting ⟨name, arguments.length⟩ arguments
        declarations := by
  funext stamp
  have declares : setting.program.declares ⟨name, arguments.length⟩ = true := by
    rw [program]
    exact Program.declares_ofDeclarations declared
  rw [dispatchWithin_of_declares declares, program, Program.clausesOf_ofDeclarations declared,
    walkDeclarations_eq_tryClauses _ _ 0, List.append_assoc]
  rw [tryClauses_append, tryClauses_append]
  · apply tryClauses_dedupe (callsWithin_placeBlind setting depth)
    · intro clause member guard guarded
      rcases Clause.exists_of_mem_ofKind member with ⟨declaration, declared, _, order, rfl⟩
      rw [Declaration.clauseOf, Declaration.defaultClause_guard?] at guarded
      exact plain declaration declared guard guarded
    · intro clause _ _ known
      cases known
  · intro clause member
    exact select_synthesized (by decide) (Clause.mem_ofSignature.mp member).1 plainFirst stamp
  · intro clause member
    exact select_synthesized (by decide) (Clause.mem_ofSignature.mp member).1 plainFirst stamp

/-- What the walks within all depths come to is what the call comes to. -/
theorem exists_outcome_of_isPlain (program : setting.program = .ofDeclarations declarations)
    (plain : ∀ declaration ∈ declarations, ∀ guard ∈ declaration.guard?, guard.isPlain = true)
    {name : String} {arguments : List Value}
    (declared : ∃ declaration ∈ declarations, declaration.signature = ⟨name, arguments.length⟩)
    (plainFirst : ∀ first ∈ arguments.head?, first.isResult = false) (stamp : Nat) :
    ∃ outcome, Run.EndsIn (dispatches setting name arguments) stamp outcome ∧
      Run.EndsIn (fun depth => walkDeclarations (callsWithin setting depth) setting
        ⟨name, arguments.length⟩ arguments declarations) stamp outcome := by
  rcases (dispatches_deepening setting name arguments).exists_endsIn stamp with ⟨outcome, ends⟩
  refine ⟨outcome, ends, ?_⟩
  have later := (Run.endsIn_add_iff 1).mpr ends
  simp only [dispatches, dispatchWithin_eq_walkDeclarations program plain declared plainFirst]
    at later
  exact later

/-- A call whose first argument is no result has the outcome of walking through the declarations of
its function in source order, none left out: the same value, the same interrupt, or no end, which is
the outcome `tooDeep`. Guards are as the grammar writes them, without `fn`; see
`walks_in_sourceOrder_of_read` for what has been read. -/
theorem dispatch_sourceOrder
    (program : setting.program = .ofDeclarations declarations)
    (written : ∀ declaration ∈ declarations, ∀ guard ∈ declaration.guard?,
      guard.isWritten = true)
    (lambdaFree : ∀ declaration ∈ declarations, ∀ guard ∈ declaration.guard?,
      guard.lambdaFree = true)
    {name : String} {arguments : List Value}
    (declared : ∃ declaration ∈ declarations, declaration.signature = ⟨name, arguments.length⟩)
    (plainFirst : ∀ first ∈ arguments.head?, first.isResult = false) (stamp : Nat) :
    ∃ outcome, Run.EndsIn (dispatches setting name arguments) stamp outcome ∧
      Run.EndsIn (fun depth => walkDeclarations (callsWithin setting depth) setting
        ⟨name, arguments.length⟩ arguments declarations) stamp outcome := by
  apply exists_outcome_of_isPlain program _ declared plainFirst
  intro declaration member guard guarded
  exact Expr.isPlain_of_isWritten (written declaration member guard guarded)
    (lambdaFree declaration member guard guarded)

/-- `def size(n) when n > 9 -> :large`, `def size(m) when m > 9 -> :huge`, `pipe size(_) -> :small`.
The second one has the shape of the first one. -/
def sizes : List Declaration :=
  let here : Span := .generated
  let exceeds (name : String) : Expr :=
    .binary (.ident ⟨name, here⟩) .greater (.integer 9 here) here
  [⟨.guarded ⟨"size", [.binding "n" here], here⟩ (exceeds "n") here, .atom "large" here, false,
      none, here⟩,
    ⟨.guarded ⟨"size", [.binding "m" here], here⟩ (exceeds "m") here, .atom "huge" here, false,
      none, here⟩,
    ⟨.plain ⟨"size", [.wildcard here], here⟩, .atom "small" here, true, none, here⟩]

theorem dispatch_sourceOrder_sizes :
    ∃ outcome, Run.EndsIn (dispatches ⟨.ofDeclarations sizes, [], 0⟩ "size" [.integer 12]) 0
        outcome ∧
      Run.EndsIn (fun depth => walkDeclarations (callsWithin ⟨.ofDeclarations sizes, [], 0⟩ depth)
        ⟨.ofDeclarations sizes, [], 0⟩ ⟨"size", 1⟩ [.integer 12] sizes) 0 outcome := by
  apply dispatch_sourceOrder rfl
  · decide +kernel
  · decide +kernel
  · exact ⟨sizes[0], by decide +kernel, rfl⟩
  · intro first same
    obtain rfl := Option.some.inj same
    rfl

end Eval
end ClauseFlow
