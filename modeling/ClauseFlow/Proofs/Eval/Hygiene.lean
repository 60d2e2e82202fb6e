import ClauseFlow.Proofs.Clause.GeneratedNames
import ClauseFlow.Proofs.Eval.Coincidence
import ClauseFlow.Proofs.Eval.Reliance

/-!
# Unwrapping clauses are hygienic

An unwrapping clause fits a success exactly if the patterns after the first one fit the other
arguments. What it binds beside their names are generated names, and no part of the declaration can
tell: its guard comes to the same with them and without.
-/

namespace ClauseFlow

namespace Eval

open Run (Corresponds)
open Value (Resembles)

/-! ## What a guard comes to -/

/-- What a guard can come to: `true`, another value, an unbound name, an error with another code, or
what no guard absorbs. -/
inductive Standing where
  | holds
  | otherValue
  | unbound
  | error (code : String)
  | fault (fault : Fault)
  | tooDeep
  deriving DecidableEq

/-- What the outcome of a guard amounts to. -/
def standing : Outcome Value → Standing
  | .ok (.boolean true, _) => .holds
  | .ok _ => .otherValue
  | .error (.error error) => if error.isUnbound then .unbound else .error error.code
  | .error (.fault fault) => .fault fault
  | .error .tooDeep => .tooDeep

/-- Outcomes that correspond amount to the same. -/
theorem standing_eq {ledger : Ledger} {outcome outcome' : Outcome Value}
    (corresponds : Outcome.Corresponds Resembles ledger outcome outcome') :
    standing outcome = standing outcome' := by
  cases corresponds with
  | ok _ _ resembles => cases resembles <;> rfl
  | error looksLike =>
      cases looksLike with
      | @error error error' sameCode =>
          have sameUnbound : error.isUnbound = error'.isUnbound := by
            rw [error.isUnbound_eq, sameCode, error'.isUnbound_eq]
          simp only [standing, sameUnbound, sameCode]
      | fault => rfl
      | tooDeep => rfl

/-- A guard comes to the same wherever its names are bound to the same. -/
theorem standing_guard_eq {guard : Expr} {bindings bindings' : Bindings}
    (same : ∀ name ∈ guard.spelledNames, bindings.lookup name = bindings'.lookup name)
    (setting : Setting) (depth stamp : Nat) :
    standing (evaluate (callsWithin setting depth) setting (clauseEnvironment bindings) guard
        stamp) =
      standing (evaluate (callsWithin setting depth) setting (clauseEnvironment bindings') guard
        stamp) := by
  have corresponds := evaluate_coincides
    (fun reference used => same _ ((guard.spells []).1 reference used))
    (fun call called => same _ ((guard.spells []).2 call called)) setting depth
  exact standing_eq (corresponds stamp (Ledger.ready_verbatim stamp))

end Eval

namespace Declaration

open Eval (standing evaluate callsWithin clauseEnvironment)

/-! ## Hygiene -/

/-- Whether a clause of a declaration unwraps successes without anyone noticing its own names. -/
structure UnwrapsHygienically (declaration : Declaration) (clause : Clause) : Prop where
  /-- A success is fitted exactly if the patterns after the first one fit the other arguments. -/
  fits_iff : ∀ (value : Value) (others : List Value),
    (Pattern.fitParams clause.params (.result .ok value :: others)).isSome ↔
      (Pattern.fitParams declaration.params.tail others).isSome
  /-- What these patterns bind is bound by the clause. -/
  keeps : ∀ (value : Value) (others : List Value) (bindings tailBindings : Bindings),
    Pattern.fitParams clause.params (.result .ok value :: others) = some bindings →
    Pattern.fitParams declaration.params.tail others = some tailBindings →
      ∀ (name : String) (bound : Value), tailBindings.lookup name = some bound →
        bindings.lookup name = some bound
  /-- Only generated names are bound beside. -/
  adds : ∀ (value : Value) (others : List Value) (bindings tailBindings : Bindings),
    Pattern.fitParams clause.params (.result .ok value :: others) = some bindings →
    Pattern.fitParams declaration.params.tail others = some tailBindings →
      ∀ name : String, (bindings.lookup name).isSome →
        (tailBindings.lookup name).isSome ∨ name ∈ declaration.generatedNames
  distinct : declaration.generatedNames.Nodup
  /-- A generated name is neither that of the function nor introduced by a pattern nor spelled in the
  guard. -/
  free : ∀ name ∈ declaration.generatedNames,
    name ≠ declaration.head.name ∧ name ∉ Pattern.namesOfAll declaration.params ∧
      ∀ guard ∈ declaration.guard?, name ∉ guard.spelledNames
  guard?_eq : clause.guard? = declaration.guard?
  /-- The guard comes to the same as without the generated names. -/
  guard : ∀ guard ∈ declaration.guard?,
    ∀ (value : Value) (others : List Value) (bindings tailBindings : Bindings),
    Pattern.fitParams clause.params (.result .ok value :: others) = some bindings →
    Pattern.fitParams declaration.params.tail others = some tailBindings →
      ∀ (setting : Setting) (depth stamp : Nat),
        standing (evaluate (callsWithin setting depth) setting (clauseEnvironment bindings) guard
            stamp) =
          standing (evaluate (callsWithin setting depth) setting (clauseEnvironment tailBindings)
            guard stamp)

variable {declaration : Declaration} {order : Nat} {value : Value} {others : List Value}
  {bindings tailBindings : Bindings}

/-- The names of a declaration are bound by its unwrapping clause as by the patterns after the first
one. -/
theorem lookup_okClause
    (fits : Pattern.fitParams (declaration.okClause order).params (.result .ok value :: others) =
      some bindings)
    (tailFits : Pattern.fitParams declaration.params.tail others = some tailBindings)
    {name : String} (known : name ∈ declaration.takenNames) :
    bindings.lookup name = tailBindings.lookup name := by
  rcases fitParams_okClause order value tailFits with ⟨bindings', fits', same⟩
  obtain rfl : bindings' = bindings := Option.some.inj (fits'.symm.trans fits)
  exact same name known

/-- A name that is bound by fitting patterns is one of theirs. -/
theorem mem_names_of_lookup {params : List Pattern} {arguments : List Value}
    (fits : Pattern.fitParams params arguments = some bindings) {name : String}
    (bound : (bindings.lookup name).isSome) : name ∈ Pattern.namesOfAll params := by
  rw [Pattern.fitParams_eq_bindAll] at fits
  rcases Option.bind_eq_some_iff.mp fits with ⟨values, _, bindsAll⟩
  cases named : isAnonymous name with
  | true =>
      rw [Bindings.lookup_bindAll_anonymous bindsAll named] at bound
      cases bound
  | false =>
      rw [Bindings.lookup_of_bindAll_nil bindsAll named] at bound
      rcases Option.isSome_iff_exists.mp bound with ⟨first, isFirst⟩
      have member := Bindings.mem_valuesOf.mp (List.mem_of_mem_head? isFirst)
      exact (List.of_mem_zip member).1

/-- The unwrapping clause introduces names of the patterns after the first one and generated ones. -/
theorem mem_names_okClause {name : String}
    (member : name ∈ Pattern.namesOfAll (declaration.okClause order).params) :
    name ∈ Pattern.namesOfAll declaration.params.tail ∨ name ∈ declaration.generatedNames := by
  rw [okClause_params, Pattern.namesOfAll_cons] at member
  exact mem_unwrappingNames member

theorem isSome_fitParams_okClause :
    (Pattern.fitParams (declaration.okClause order).params (.result .ok value :: others)).isSome ↔
      (Pattern.fitParams declaration.params.tail others).isSome := by
  cases tailFits : Pattern.fitParams declaration.params.tail others with
  | none => rw [fitParams_okClause_none order _ tailFits]
  | some tailBindings =>
      rcases fitParams_okClause order value tailFits with ⟨bindings, fits, _⟩
      rw [fits]
      exact iff_of_true rfl rfl

theorem okClause_unwrapsHygienically (declaration : Declaration) (order : Nat) :
    declaration.UnwrapsHygienically (declaration.okClause order) where
  fits_iff _ _ := isSome_fitParams_okClause
  keeps value others bindings tailBindings fits tailFits name bound found := by
    have known : name ∈ declaration.takenNames :=
      mem_takenNames_of_tail (mem_names_of_lookup tailFits (Option.isSome_of_eq_some found))
    rw [lookup_okClause fits tailFits known]
    exact found
  adds value others bindings tailBindings fits tailFits name bound := by
    rcases mem_names_okClause (mem_names_of_lookup fits bound) with own | generated
    · rw [lookup_okClause fits tailFits (mem_takenNames_of_tail own)] at bound
      exact .inl bound
    · exact .inr generated
  distinct := declaration.handsOut_generatedNames.distinct
  free name generated := by
    have free : name ∉ declaration.takenNames :=
      declaration.handsOut_generatedNames.free name generated
    refine ⟨?_, fun own => free (List.mem_append_left _ own),
      fun guard guarded spelled => free (mem_takenNames_of_spelled guarded spelled)⟩
    rintro rfl
    exact free (List.mem_append_right _ (.head _))
  guard?_eq := okClause_guard? declaration order
  guard guard guarded value others bindings tailBindings fits tailFits := by
    apply Eval.standing_guard_eq
    intro name spelled
    exact lookup_okClause fits tailFits (mem_takenNames_of_spelled guarded spelled)

/-- A `pipe` declaration with parameters stands for one unwrapping clause, which is hygienic. -/
theorem exists_hygienic_unwrapping (pipe : declaration.synthesized = true)
    (hasFirst : declaration.params ≠ []) (order : Nat) :
    ∃ clause, (declaration.clauses order).filter (fun clause => clause.kind = .okUnwrap) =
        [clause] ∧
      declaration.UnwrapsHygienically clause := by
  refine ⟨declaration.okClause order, ?_, declaration.okClause_unwrapsHygienically order⟩
  have nonempty : declaration.params.isEmpty = false := by simpa using hasFirst
  rw [clauses, pipe, nonempty]
  rfl

/-- `pipe pick(_, {_, _ = _b}, [_h | t]) when handle_error(t, fn x1 -> x1 == x) -> Ok(t)`. -/
def picking : Declaration :=
  let here : Span := .generated
  let ident (name : String) : Expr := .ident ⟨name, here⟩
  let pair : Pattern := .tuple [.wildcard here, .named (.wildcard here) "_b" here] here
  let list : Pattern := .list [.binding "_h" here] (some (.binding "t" here)) here
  let differs : Expr := .lambda ["x1"] (.binary (ident "x1") .equal (ident "x") here) here
  ⟨.guarded ⟨"pick", [.wildcard here, pair, list], here⟩
    (.call ⟨"handle_error", here⟩ [ident "t", differs] here) here,
    .result .ok (ident "t") here, true, none, here⟩

/-- The guard of `picking` has taken `x` and `x1`. -/
theorem exists_hygienic_unwrapping_picking :
    picking.synthesized = true ∧ picking.params ≠ [] ∧
      picking.generatedNames = ["x6", "x5", "x4", "x3", "x2"] ∧
      ∃ clause, (picking.clauses 0).filter (fun clause => clause.kind = .okUnwrap) = [clause] ∧
        picking.UnwrapsHygienically clause :=
  ⟨rfl, by decide, by decide +kernel, exists_hygienic_unwrapping rfl (by decide) 0⟩

end Declaration
end ClauseFlow
