import ClauseFlow.Proofs.Clause.Unwrapping
import ClauseFlow.Proofs.Eval.SourceOrder

/-!
# Unwrapping successes

A call with a success as its first argument goes to the clauses that unwrap. The first one that
answers hands the call on, with what is in the success and with the other arguments as they are. A
function without guards therefore sees through any number of layers.
-/

namespace ClauseFlow

namespace Eval

variable {calls : Calls} {setting : Setting} {env : Environment}
variable {declarations : List Declaration}

/-! ## Handing a call on -/

/-- Names that are bound come to their values. -/
theorem evaluateAll_idents {names : List String} {values : List Value}
    (sameLength : names.length = values.length)
    (bound : ∀ pair ∈ names.zip values, setting.lookup env pair.1 = some pair.2) (stamp : Nat) :
    evaluateAll calls setting env (names.map fun name => .ident ⟨name, .generated⟩) stamp =
      .ok (values, stamp) := by
  induction names generalizing values with
  | nil =>
      obtain rfl := List.eq_nil_of_length_eq_zero sameLength.symm
      rfl
  | cons name rest ih =>
      cases values with
      | nil => cases sameLength
      | cons value others =>
          have here : evaluate calls setting env (.ident ⟨name, .generated⟩) stamp =
              .ok (value, stamp) := by
            have found : setting.lookup env name = some value := bound (name, value) (.head _)
            simp only [evaluate, valueOfName, found]
            rfl
          have later := ih (Nat.succ.inj sameLength) fun pair member => bound pair (.tail _ member)
          simp only [List.map_cons, evaluateAll]
          rw [Run.bind_of_ok here, Run.bind_of_ok later]
          rfl

/-- The body of an unwrapping clause calls the function again with the arguments that it has bound
to its names. -/
theorem evaluate_okBody {declaration : Declaration} {order : Nat} {bindings : Bindings}
    {arguments : List Value} (sameLength : declaration.argumentNames.length = arguments.length)
    (bound : ∀ pair ∈ declaration.argumentNames.zip arguments,
      bindings.lookup pair.1 = some pair.2) (stamp : Nat) :
    evaluate calls setting (clauseEnvironment bindings) (declaration.okClause order).body stamp =
      calls.dispatch declaration.head.name arguments stamp := by
  have bound' : ∀ pair ∈ declaration.argumentNames.zip arguments,
      setting.lookup (clauseEnvironment bindings) pair.1 = some pair.2 := by
    intro pair member
    rw [lookup_clauseEnvironment]
    exact bound pair member
  rw [Declaration.okClause_body, evaluate,
    Run.bind_of_ok (evaluateAll_idents sameLength bound' stamp)]

/-- An unwrapping clause that answers hands the call on. -/
theorem evaluate_of_select_okClause {declaration : Declaration} {others : List Value}
    (repeats : (Pattern.fitParams declaration.params.tail others).isSome →
      declaration.OthersRepeat others)
    {order : Nat} {value : Value} {stamp : Nat} {bindings : Bindings}
    (selected : select calls setting (.result .ok value :: others) stamp
      (declaration.okClause order) = .ok (some bindings)) :
    evaluate calls setting (clauseEnvironment bindings) (declaration.okClause order).body stamp =
      calls.dispatch declaration.head.name (value :: others) stamp := by
  rcases of_select_eq_some selected with ⟨fits, _⟩
  cases tailFits : Pattern.fitParams declaration.params.tail others with
  | none =>
      rw [Declaration.fitParams_okClause_none order _ tailFits] at fits
      cases fits
  | some tailBindings =>
      rw [tailFits] at repeats
      rcases Declaration.lookup_argumentNames (repeats rfl) fits with ⟨sameLength, bound⟩
      exact evaluate_okBody sameLength bound stamp

/-! ## Among the clauses that unwrap -/

/-- Where all clauses that answer come to one outcome, and some clause is not passed over, that is
the outcome, unless a guard interrupts the call. -/
theorem tryClauses_of_one_outcome {signature : Signature} {arguments : List Value} {stamp : Nat}
    {outcome : Outcome Value} {clauses : List Clause}
    (each : ∀ clause ∈ clauses, ∀ bindings,
      select calls setting arguments stamp clause = .ok (some bindings) →
        evaluate calls setting (clauseEnvironment bindings) clause.body stamp = outcome)
    (answered : ∃ clause ∈ clauses, select calls setting arguments stamp clause ≠ .ok none)
    (rest : List Clause) :
    tryClauses calls setting signature arguments (clauses ++ rest) stamp = outcome ∨
      ∃ clause ∈ clauses, ∃ stop, select calls setting arguments stamp clause = .error stop ∧
        tryClauses calls setting signature arguments (clauses ++ rest) stamp = .error stop := by
  induction clauses with
  | nil =>
      rcases answered with ⟨clause, member, _⟩
      cases member
  | cons clause later ih =>
      rw [List.cons_append, tryClauses_cons]
      rcases selected : select calls setting arguments stamp clause with stop | (_ | bindings)
      · exact .inr ⟨clause, .head _, stop, selected, rfl⟩
      · have answeredLater : ∃ other ∈ later,
            select calls setting arguments stamp other ≠ .ok none := by
          rcases answered with ⟨other, member, notPassed⟩
          rcases List.mem_cons.mp member with rfl | member
          · exact absurd selected notPassed
          · exact ⟨other, member, notPassed⟩
        rcases ih (fun other member => each other (.tail _ member)) answeredLater with
          same | ⟨other, member, stop, interrupts, same⟩
        · exact .inl same
        · exact .inr ⟨other, .tail _ member, stop, interrupts, same⟩
      · exact .inl (each clause (.head _) bindings selected)

/-- A clause without a guard is passed over or answers. -/
theorem select_of_unguarded {clause : Clause} (unguarded : clause.guard? = none)
    (arguments : List Value) (stamp : Nat) :
    select calls setting arguments stamp clause =
      .ok (Pattern.fitParams clause.params arguments) := by
  rw [select]
  cases Pattern.fitParams clause.params arguments with
  | none => rfl
  | some bindings =>
      simp only [guardHolds, unguarded]
      rfl

/-- If the unwrapping clause of a declaration is not passed over, nor is one that is kept. -/
theorem exists_kept_okClause (blind : PlaceBlind False calls) {signature : Signature}
    (plain : ∀ declaration ∈ declarations, declaration.signature = signature →
      ∀ guard ∈ declaration.guard?, guard.isPlain = true)
    {declaration : Declaration} (declared : declaration ∈ declarations)
    (own : declaration.signature = signature) (answers : declaration.Answers)
    {arguments : List Value} {stamp : Nat}
    (notPassed : ∀ order,
      select calls setting arguments stamp (declaration.okClause order) ≠ .ok none) :
    ∃ clause ∈ Clause.ofSignature signature (Clause.kept declarations .okUnwrap),
      select calls setting arguments stamp clause ≠ .ok none := by
  rcases Clause.exists_mem_kept declared .okUnwrap answers with ⟨order, clause, kept, same⟩
  have clauseOwn : clause.signature = signature := by
    rw [Clause.signature_eq_of_shapeKey_eq same, Declaration.clauseOf_signature, own]
  refine ⟨clause, Clause.mem_ofSignature.mpr ⟨kept, clauseOwn⟩, fun passedOver => ?_⟩
  rcases Clause.exists_of_mem_kept kept with ⟨twin, twinDeclared, _, twinOrder, rfl⟩
  refine notPassed order (passedOver_of_shapeKey_eq blind same ?_ ?_ passedOver)
  · intro guard guarded
    rw [Declaration.clauseOf, Declaration.okClause_guard?] at guarded
    rw [Declaration.clauseOf_signature] at clauseOwn
    exact plain twin twinDeclared clauseOwn guard guarded
  · intro guard guarded
    rw [Declaration.clauseOf, Declaration.okClause_guard?] at guarded
    exact plain declaration declared own guard guarded

/-! ## Calls with a success as their first argument -/

/-- A clause that hands errors through is passed over if the first argument is no error. -/
theorem select_errorPassthrough {clause : Clause}
    (kept : clause ∈ Clause.kept declarations .errorPassthrough) {first : Value}
    (noError : ∀ inner, first ≠ .result .error inner) (others : List Value) (stamp : Nat) :
    select calls setting (first :: others) stamp clause = .ok none := by
  rcases Clause.exists_of_mem_kept kept with ⟨declaration, _, _, order, rfl⟩
  apply select_of_unfit
  cases first with
  | result tag inner =>
      cases tag with
      | ok => rfl
      | error => exact absurd rfl (noError inner)
  | _ => rfl

/-- A call whose first argument is no error goes to the clauses that unwrap and then to the
declarations. -/
theorem dispatchWithin_of_no_error (program : setting.program = .ofDeclarations declarations)
    {name : String} {first : Value} {others : List Value}
    (declared : ∃ declaration ∈ declarations,
      declaration.signature = ⟨name, others.length + 1⟩)
    (noError : ∀ inner, first ≠ .result .error inner) (depth stamp : Nat) :
    dispatchWithin setting (depth + 1) name (first :: others) stamp =
      tryClauses (callsWithin setting depth) setting ⟨name, others.length + 1⟩ (first :: others)
        (Clause.ofSignature ⟨name, others.length + 1⟩ (Clause.kept declarations .okUnwrap) ++
          Clause.ofSignature ⟨name, others.length + 1⟩ (Clause.kept declarations .default))
        stamp := by
  have declares : setting.program.declares ⟨name, (first :: others).length⟩ = true := by
    rw [program]
    exact Program.declares_ofDeclarations declared
  rw [dispatchWithin_of_declares declares, List.length_cons, program,
    Program.clausesOf_ofDeclarations declared, List.append_assoc]
  apply tryClauses_append
  intro clause member
  exact select_errorPassthrough (Clause.mem_ofSignature.mp member).1 noError others stamp

/-- A call with a success is handed on with what is in the success, if one of the clauses that
unwrap is not passed over and no guard of theirs interrupts the call. -/
theorem dispatchWithin_handsOn (program : setting.program = .ofDeclarations declarations)
    {name : String} {value : Value} {others : List Value}
    (repeats : ∀ declaration ∈ declarations,
      declaration.signature = ⟨name, others.length + 1⟩ →
        (Pattern.fitParams declaration.params.tail others).isSome →
          declaration.OthersRepeat others)
    {depth stamp : Nat}
    (answered : ∃ clause ∈ Clause.ofSignature ⟨name, others.length + 1⟩
        (Clause.kept declarations .okUnwrap),
      select (callsWithin setting depth) setting (.result .ok value :: others) stamp clause ≠
        .ok none) :
    dispatchWithin setting (depth + 1) name (.result .ok value :: others) stamp =
        dispatchWithin setting depth name (value :: others) stamp ∨
      ∃ declaration ∈ declarations, declaration.signature = ⟨name, others.length + 1⟩ ∧
        ∃ order stop, select (callsWithin setting depth) setting (.result .ok value :: others) stamp
            (declaration.okClause order) = .error stop ∧
          dispatchWithin setting (depth + 1) name (.result .ok value :: others) stamp =
            .error stop := by
  have declared : ∃ declaration ∈ declarations,
      declaration.signature = ⟨name, others.length + 1⟩ := by
    rcases answered with ⟨clause, member, _⟩
    rcases Clause.mem_ofSignature.mp member with ⟨kept, own⟩
    rcases Clause.exists_of_mem_kept kept with ⟨declaration, declared, _, order, rfl⟩
    exact ⟨declaration, declared, own⟩
  have each : ∀ clause ∈ Clause.ofSignature ⟨name, others.length + 1⟩
      (Clause.kept declarations .okUnwrap), ∀ bindings,
      select (callsWithin setting depth) setting (.result .ok value :: others) stamp clause =
          .ok (some bindings) →
        evaluate (callsWithin setting depth) setting (clauseEnvironment bindings) clause.body
            stamp =
          dispatchWithin setting depth name (value :: others) stamp := by
    intro clause member bindings selected
    rcases Clause.mem_ofSignature.mp member with ⟨kept, own⟩
    rcases Clause.exists_of_mem_kept kept with ⟨declaration, declared, _, order, rfl⟩
    have sameName : declaration.head.name = name := congrArg Signature.name own
    have handed := evaluate_of_select_okClause (repeats declaration declared own) selected
    rw [sameName] at handed
    exact handed
  rw [dispatchWithin_of_no_error program declared fun _ => by simp]
  rcases tryClauses_of_one_outcome each answered _ with same | ⟨clause, member, stop, found, same⟩
  · exact .inl same
  · rcases Clause.mem_ofSignature.mp member with ⟨kept, own⟩
    rcases Clause.exists_of_mem_kept kept with ⟨declaration, declared, _, order, rfl⟩
    exact .inr ⟨declaration, declared, own, order, stop, found, same⟩

end Eval
end ClauseFlow
