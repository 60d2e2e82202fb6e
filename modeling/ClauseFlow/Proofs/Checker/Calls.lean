import ClauseFlow.Proofs.Checker.Variables

/-!
# What the checker promises about calls

In a module without errors, every call by name in a body finds what is bound to the name, a declared
function or a builtin, with one exception: the checker takes a name that starts with an underscore
for a local one when a pattern has it, and at run time such a name is not bound. So a call ends in
an undefined function only at the call of such a name.
-/

namespace ClauseFlow

namespace Checker

variable {module : Module} {declaration : Declaration}

/-- The checker resolves calls as the program of the declarations does: to a declared function or to
a builtin that takes so many arguments. -/
theorem declares_or_builtin_of_resolves {declarations : List Declaration} {signature : Signature}
    (resolved : resolves (functionTable declarations) signature = true) :
    (Program.ofDeclarations declarations).declares signature = true ∨
      (Program.builtin? signature).isSome := by
  rw [resolves, Bool.or_eq_true] at resolved
  rcases resolved with declared | isBuiltin
  · rcases List.any_eq_true.mp declared with ⟨entry, member, same⟩
    rw [decide_eq_true_eq] at same
    rcases exists_of_mem_functionTable member with ⟨declaration, found, own⟩
    exact .inl (Program.declares_ofDeclarations ⟨declaration, found, own.trans same⟩)
  · refine .inr ?_
    rw [Program.builtin?]
    cases found : Builtin.ofName? signature.name with
    | none => simp [found] at isBuiltin
    | some builtin =>
        simp only [found] at isBuiltin
        rw [Option.filter_some, if_pos isBuiltin]
        rfl

/-- A function called in a body is named by a pattern or exists, unless the checker finds an
error. -/
theorem named_or_resolves (clean : ∀ finding ∈ check module, finding.isError = false)
    (declared : declaration ∈ module.declarations) {call : NamedCall}
    (called : call ∈ declaration.body.calls []) :
    call.signature.name ∈ Pattern.namesOfAll declaration.params ∨
      resolves (functionTable module.declarations) call.signature = true := by
  let table := functionTable module.declarations
  let bound := (Pattern.bindingsOfAll declaration.params).map (·.name)
  have harmless : ∀ finding, callFinding table bound call = some finding →
      finding.isError = false := by
    intro finding found
    apply clean
    apply mem_check_of_mem_declarationFindings declared
    refine mem_declarationFindings.mpr (.inr (.inl ?_))
    apply List.mem_append_right
    exact List.mem_filterMap.mpr ⟨call, called, found⟩
  simp only [callFinding] at harmless
  split at harmless
  · rename_i accepted
    rcases Bool.or_eq_true_iff.mp accepted with isBound | resolved
    · exact .inl (List.contains_iff_mem.mp isBound)
    · exact .inr resolved
  · cases harmless _ rfl

/-- Whether a call in a body of a module is that of a name that the patterns there only have as an
anonymous one, and that is not the name of a function with so many arguments. -/
def IsAnonymousCall (module : Module) (call : NamedCall) : Prop :=
  ∃ declaration ∈ module.declarations, call ∈ declaration.body.calls [] ∧
    call.signature.name ∈ Pattern.namesOfAll declaration.params ∧
    isAnonymous call.signature.name = true ∧
    resolves (functionTable module.declarations) call.signature = false

end Checker

/-- The program of a module without errors is installed. -/
theorem Build.program?_ofModule {module : Module}
    (clean : ∀ finding ∈ Checker.check module, finding.isError = false) :
    (Build.ofModule module).program? = some (.ofDeclarations module.declarations) := by
  have noError : (Checker.check module).any Finding.isError = false := by
    apply List.any_eq_false.mpr
    intro finding member
    rw [clean finding member]
    exact Bool.false_ne_true
  simp only [Build.ofModule, noError]
  rfl

namespace Eval

variable {module : Module} {setting : Setting}

/-- Errors that are not about an undefined function called in some place, unless it is the call of
an anonymous name. -/
def DefinedUnlessAnonymous (module : Module) : RuntimeError → Prop
  | .undefinedFunction signature (some span) => Checker.IsAnonymousCall module ⟨signature, span⟩
  | _ => True

theorem definedUnlessAnonymous_of_not_isAboutName {error : RuntimeError}
    (other : ¬error.IsAboutName) : DefinedUnlessAnonymous module error := by
  cases error with
  | undefinedFunction signature span? =>
      cases span? with
      | none => trivial
      | some span => exact absurd trivial other
  | _ => trivial

/-- In a module without errors, every body answers what it calls but anonymous names. -/
theorem bodiesAnswered_of_noErrors
    (clean : ∀ finding ∈ Checker.check module, finding.isError = false)
    (program : setting.program = .ofDeclarations module.declarations) :
    BodiesAnswered (DefinedUnlessAnonymous module) setting := by
  apply bodiesAnswered_of_declarations program
  intro declaration declared arguments bindings fits
  refine ⟨fun _ _ => .inr (.inr trivial), fun call called => ?_⟩
  cases resolved : Checker.resolves (Checker.functionTable module.declarations) call.signature with
  | true =>
      rw [program]
      exact .inr ((Checker.declares_or_builtin_of_resolves resolved).elim .inl
        fun isBuiltin => .inr (.inl isBuiltin))
  | false =>
      have named : call.signature.name ∈ Pattern.namesOfAll declaration.params :=
        (Checker.named_or_resolves clean declared called).resolve_right (by rw [resolved]; decide)
      cases anonymous : isAnonymous call.signature.name with
      | false =>
          rw [lookup_clauseEnvironment]
          exact .inl (Pattern.isSome_lookup_of_fitParams fits named anonymous)
      | true => exact .inr (.inr (.inr ⟨declaration, declared, called, named, anonymous, resolved⟩))

/-- If the checker finds no error in a module, a call of one of its functions with first-order
arguments that ends in an undefined function called in some place ends there at the call of an
anonymous name. -/
theorem isAnonymousCall_of_undefinedFunction
    (clean : ∀ finding ∈ Checker.check module, finding.isError = false)
    (program : setting.program = .ofDeclarations module.declarations) {name : String}
    {arguments : List Value} (plain : ∀ argument ∈ arguments, argument.isFirstOrder = true)
    {depth stamp : Nat} {signature : Signature} {span : Span}
    (ends : callGlobal (callsWithin setting depth) setting name arguments none stamp =
      .error (.error (.undefinedFunction signature (some span)))) :
    Checker.IsAnonymousCall module ⟨signature, span⟩ := by
  have permits : ∀ error : RuntimeError, ¬error.IsAboutName →
      DefinedUnlessAnonymous module error :=
    fun _ => definedUnlessAnonymous_of_not_isAboutName
  exact allowed_of_callGlobal permits (bodiesAnswered_of_noErrors clean program) plain ends

/-- If the checker finds no error in a module and no body calls an anonymous name that is not that
of a function, its program is installed, and calling a function with first-order arguments never
ends in an undefined function called in some place, however deep the calls go. -/
theorem call_never_undefined {module : Module}
    (clean : ∀ finding ∈ Checker.check module, finding.isError = false)
    (named : ∀ declaration ∈ module.declarations, ∀ call ∈ declaration.body.calls [],
      call.signature.name ∈ Pattern.namesOfAll declaration.params →
      isAnonymous call.signature.name = true →
        Checker.resolves (Checker.functionTable module.declarations) call.signature = true) :
    ∃ program, (Build.ofModule module).program? = some program ∧
      ∀ (session : List Value.Frame) (home : Nat) (name : String) (arguments : List Value),
        (∀ argument ∈ arguments, argument.isFirstOrder = true) →
        ∀ (depth stamp : Nat) (signature : Signature) (span : Span),
          callGlobal (callsWithin ⟨program, session, home⟩ depth) ⟨program, session, home⟩ name
            arguments none stamp ≠ .error (.error (.undefinedFunction signature (some span))) := by
  refine ⟨.ofDeclarations module.declarations, ?_, ?_⟩
  · exact Build.program?_ofModule clean
  · intro session home name arguments plain depth stamp signature span ends
    rcases isAnonymousCall_of_undefinedFunction clean rfl plain ends with
      ⟨declaration, declared, called, bound, anonymous, unresolved⟩
    rw [named declaration declared _ called bound anonymous] at unresolved
    cases unresolved

theorem call_never_undefined_scaling :
    (∀ finding ∈ Checker.check scaling, finding.isError = false) ∧
      (∀ declaration ∈ scaling.declarations, ∀ call ∈ declaration.body.calls [],
        call.signature.name ∈ Pattern.namesOfAll declaration.params →
        isAnonymous call.signature.name = true →
          Checker.resolves (Checker.functionTable scaling.declarations) call.signature = true) ∧
      ∃ program, (Build.ofModule scaling).program? = some program ∧
        ∀ (depth : Nat) (signature : Signature) (span : Span),
          callGlobal (callsWithin ⟨program, [], 0⟩ depth) ⟨program, [], 0⟩ "scale"
            [.result .ok (.list [.integer 2, .integer 5]), .integer 3] none 0 ≠
              .error (.error (.undefinedFunction signature (some span))) := by
  have clean : ∀ finding ∈ Checker.check scaling, finding.isError = false := by decide +kernel
  have named : ∀ declaration ∈ scaling.declarations, ∀ call ∈ declaration.body.calls [],
      call.signature.name ∈ Pattern.namesOfAll declaration.params →
      isAnonymous call.signature.name = true →
        Checker.resolves (Checker.functionTable scaling.declarations) call.signature = true := by
    decide +kernel
  have plain : ∀ argument ∈ [Value.result .ok (.list [.integer 2, .integer 5]), .integer 3],
      argument.isFirstOrder = true := by decide
  rcases call_never_undefined clean named with ⟨program, installed, found⟩
  exact ⟨clean, named, program, installed, fun depth => found [] 0 _ _ plain depth 0⟩

/-- The declaration `def apply(_f) -> _f(1)`: its pattern fits any argument and binds nothing. -/
def anonymousCallee : Module :=
  let here : Span := .generated
  ⟨[⟨.plain ⟨"apply", [.binding "_f" here], here⟩, .call ⟨"_f", here⟩ [.integer 1 here] here,
    false, none, here⟩], here⟩

/-- The checker finds nothing about the call of an anonymous name, and the call fails. -/
theorem call_undefined_anonymousCallee :
    Checker.check anonymousCallee = [] ∧ Value.isFirstOrder (.integer 1) = true ∧
      ∃ program, (Build.ofModule anonymousCallee).program? = some program ∧
        ∀ depth, callGlobal (callsWithin ⟨program, [], 0⟩ (depth + 1)) ⟨program, [], 0⟩ "apply"
          [.integer 1] none 0 =
            .error (.error (.undefinedFunction ⟨"_f", 1⟩ (some .generated))) := by
  have clean : Checker.check anonymousCallee = [] := by decide +kernel
  refine ⟨clean, by decide, .ofDeclarations anonymousCallee.declarations, ?_, fun depth => ?_⟩
  · apply Build.program?_ofModule
    rw [clean]
    exact List.forall_mem_nil _
  · rfl

end Eval
end ClauseFlow
