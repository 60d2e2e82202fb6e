import ClauseFlow.Proofs.Checker.Scopes
import ClauseFlow.Proofs.Eval.Coincidence
import ClauseFlow.Proofs.Run.Rendering

/-!
# Unused bindings have no influence

A binding that the checker reports as unused is a name that neither guard nor body uses, as a value
or to call it. So nothing changes if it is bound to something else, or not at all.
-/

namespace ClauseFlow

namespace Bindings

variable {bindings : Bindings} {name other : String}

/-- Bindings without those of a name. -/
def without (name : String) (bindings : Bindings) : Bindings :=
  bindings.filter fun binding => binding.1 ≠ name

/-- Bindings with a name bound to a value, whatever it was bound to. -/
def rebound (name : String) (value : Value) (bindings : Bindings) : Bindings :=
  (name, value) :: bindings.without name

theorem lookup_without_self (name : String) (bindings : Bindings) :
    (bindings.without name).lookup name = none := by
  apply List.lookup_eq_none_iff.mpr
  intro binding member
  have kept : binding.1 ≠ name := of_decide_eq_true (List.mem_filter.mp member).2
  exact bne_iff_ne.mpr kept.symm

theorem lookup_without (different : other ≠ name) :
    (bindings.without name).lookup other = bindings.lookup other := by
  induction bindings with
  | nil => rfl
  | cons binding rest ih =>
      by_cases dropped : binding.1 = name
      · rw [without, List.filter_cons_of_neg (by simpa using dropped), List.lookup_cons, dropped,
          beq_false_of_ne different]
        exact ih
      · rw [without, List.filter_cons_of_pos (by simpa using dropped), List.lookup_cons,
          List.lookup_cons]
        split
        · rfl
        · exact ih

theorem lookup_rebound_self (name : String) (value : Value) (bindings : Bindings) :
    (bindings.rebound name value).lookup name = some value :=
  List.lookup_cons_self

theorem lookup_rebound (value : Value) (different : other ≠ name) :
    (bindings.rebound name value).lookup other = bindings.lookup other := by
  rw [rebound, List.lookup_cons, beq_false_of_ne different]
  exact lookup_without different

end Bindings

namespace Eval

/-- What an expression comes to depends on the names that it uses only. -/
theorem rendered_evaluate_eq {expr : Expr} {bindings bindings' : Bindings}
    (same : ∀ name ∈ Checker.usedNames expr, bindings.lookup name = bindings'.lookup name)
    (setting : Setting) (depth stamp : Nat) :
    rendered (evaluate (callsWithin setting depth) setting (clauseEnvironment bindings) expr
        stamp) =
      rendered (evaluate (callsWithin setting depth) setting (clauseEnvironment bindings') expr
        stamp) := by
  have corresponds := evaluate_coincides
    (fun _ used => same _ (List.mem_append_left _ (List.mem_map_of_mem used)))
    (fun _ called => same _ (List.mem_append_right _ (List.mem_map_of_mem called))) setting depth
  exact rendered_eq (corresponds stamp (Ledger.ready_verbatim stamp))

end Eval

namespace Checker

open Eval (evaluate callsWithin clauseEnvironment)

variable {table : SymbolTable} {module : Module} {declaration : Declaration} {name : String}
  {span : Span}

/-- Whether a declaration of a module gets the finding that it does not use what it binds to a
name, when it is checked with the functions of the module. -/
def ReportsUnused (module : Module) (declaration : Declaration) (name : String) : Prop :=
  declaration ∈ module.declarations ∧
    ∃ state ∈ checkDeclaration ⟨functionTable module.declarations, []⟩ declaration,
      ∃ span, Finding.unusedBinding name span ∈ state.findings

/-- What the check of a declaration reports is what is found about it. -/
theorem reportsUnused_iff :
    ReportsUnused module declaration name ↔
      declaration ∈ module.declarations ∧
        ∃ span, Finding.unusedBinding name span ∈
          declarationFindings (functionTable module.declarations) declaration := by
  rw [ReportsUnused, checkDeclaration_eq (hasNoSymbols_functionTable _)]
  simp

theorem not_mem_usedNames_of_mem_unusedBindings
    (member : Finding.unusedBinding name span ∈ unusedBindings declaration) :
    ∀ part ∈ declaration.body :: declaration.guard?.toList, name ∉ usedNames part := by
  rcases List.mem_filterMap.mp member with ⟨binding, _, found⟩
  split at found
  · cases found
  · rename_i kept
    cases found
    intro part isPart used
    apply kept
    rw [Bool.or_eq_true, List.contains_iff_mem, usedNamesOf, List.mem_append]
    rcases List.mem_cons.mp isPart with rfl | guarded
    · exact .inr (.inr used)
    · rw [Option.mem_toList] at guarded
      simp only [guarded, Option.map_some, Option.getD_some]
      exact .inr (.inl used)

/-- Neither guard nor body uses a name that is reported as unused. -/
theorem ReportsUnused.not_mem_usedNames (reported : ReportsUnused module declaration name) :
    ∀ part ∈ declaration.body :: declaration.guard?.toList, name ∉ usedNames part := by
  rcases reportsUnused_iff.mp reported with ⟨_, span, member⟩
  -- The other findings about a declaration have codes of their own.
  have otherwise {bound : List String} {inGuard : Bool} {part : Expr}
      (found : Finding.unusedBinding name span ∈
        exprFindings (functionTable module.declarations) bound inGuard part) : False :=
    absurd (code_of_mem_exprFindings found) (show unusedCode ∉ nameCodes by decide)
  rcases mem_declarationFindings.mp member with ⟨guard, _, found⟩ | found | unused
  · exact (otherwise found).elim
  · exact (otherwise found).elim
  · exact not_mem_usedNames_of_mem_unusedBindings unused

/-- What the check of a module says about an unused name, it says about one of the declarations. -/
theorem exists_reportsUnused :
    (∃ span, Finding.unusedBinding name span ∈ check module) ↔
      ∃ declaration, ReportsUnused module declaration name := by
  simp only [reportsUnused_iff]
  constructor
  · rintro ⟨span, member⟩
    rw [check_eq] at member
    rcases List.mem_append.mp member with about | repeated
    · rcases List.mem_flatMap.mp about with ⟨declaration, declared, found⟩
      exact ⟨declaration, declared, span, found⟩
    · exact absurd (code_of_mem_checkRepeated repeated) (show unusedCode ≠ repetitionCode by decide)
  · rintro ⟨declaration, declared, span, found⟩
    exact ⟨span, mem_check_of_mem_declarationFindings declared found⟩

/-- Where the checker reports a name as unused, guard and body come to the same if the name is bound
to something else, and if it is not bound. -/
theorem unused_has_no_influence (reported : ReportsUnused module declaration name) {part : Expr}
    (isPart : part ∈ declaration.body :: declaration.guard?.toList) (setting : Setting)
    (bindings : Bindings) (value : Value) (depth stamp : Nat) :
    let outcome (bindings : Bindings) := rendered
      (evaluate (callsWithin setting depth) setting (clauseEnvironment bindings) part stamp)
    outcome (bindings.rebound name value) = outcome bindings ∧
      outcome (bindings.without name) = outcome bindings := by
  have differs {other : String} (used : other ∈ usedNames part) : other ≠ name :=
    fun same => reported.not_mem_usedNames part isPart (same ▸ used)
  constructor
  · apply Eval.rendered_evaluate_eq
    intro other used
    exact Bindings.lookup_rebound value (differs used)
  · apply Eval.rendered_evaluate_eq
    intro other used
    exact Bindings.lookup_without (differs used)

/-- `def later([step | rest], by) when by > 0 -> fn(rest) -> step(rest + by)`. -/
def laterSteps : Declaration :=
  let here : Span := .generated
  let ident (name : String) : Expr := .ident ⟨name, here⟩
  let named (name : String) : Pattern := .binding name here
  let listed : Pattern := .list [named "step"] (some (named "rest")) here
  ⟨.guarded ⟨"later", [listed, named "by"], here⟩
      (.binary (ident "by") .greater (.integer 0 here) here) here,
    .lambda ["rest"]
      (.call ⟨"step", here⟩ [.binary (ident "rest") .add (ident "by") here] here) here,
    false, none, here⟩

/-- The tail of the list is unused: `rest` in the body is the parameter. -/
theorem unused_has_no_influence_laterSteps :
    ReportsUnused ⟨[laterSteps], .generated⟩ laterSteps "rest" ∧
      laterSteps.body ∈ laterSteps.body :: laterSteps.guard?.toList ∧
      ∀ (setting : Setting) (tail value : Value),
        rendered (evaluate (callsWithin setting 9) setting
            (clauseEnvironment [("rest", value), ("step", .function "abs" 0), ("by", .integer 2)])
            laterSteps.body 0) =
          rendered (evaluate (callsWithin setting 9) setting
            (clauseEnvironment [("step", .function "abs" 0), ("rest", tail), ("by", .integer 2)])
            laterSteps.body 0) := by
  have reported : ReportsUnused ⟨[laterSteps], .generated⟩ laterSteps "rest" :=
    reportsUnused_iff.mpr ⟨.head _, .generated, by decide +kernel⟩
  exact ⟨reported, .head _, fun setting tail value =>
    (unused_has_no_influence reported (.head _) setting
      [("step", .function "abs" 0), ("rest", tail), ("by", .integer 2)] value 9 0).1⟩

end Checker
end ClauseFlow
