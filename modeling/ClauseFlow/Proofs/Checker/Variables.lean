import ClauseFlow.Build
import ClauseFlow.Proofs.Checker.Functions
import ClauseFlow.Proofs.Checker.Scopes
import ClauseFlow.Proofs.Clause.Unwrapping
import ClauseFlow.Proofs.Eval.Naming
import ClauseFlow.Proofs.Shape.Twins

/-!
# What the checker promises about names

In a module without errors and without warnings about anonymous names, every name that a body uses
as a value is bound by a pattern that binds it, or is the name of a function. The bodies of
synthesized clauses only use names of their own patterns. So no call ends in an unbound name.
-/

namespace ClauseFlow

namespace Checker

variable {module : Module} {declaration : Declaration}

/-! ## The table of functions -/

/-- The functions of the table are those of the declarations. -/
theorem exists_of_mem_functionTable {declarations : List Declaration}
    {entry : Signature × List Span} (member : entry ∈ (functionTable declarations).functions) :
    ∃ declaration ∈ declarations, declaration.signature = entry.1 :=
  mem_declared_functionTable.mp (List.mem_map_of_mem member)

/-- The program of some declarations knows the names that the checker takes for functions. -/
theorem knows_of_isFunctionName {declarations : List Declaration} {name : String}
    (isFunction : isFunctionName (functionTable declarations) name = true) :
    (Program.ofDeclarations declarations).knows name = true := by
  rw [isFunctionName, Bool.or_eq_true] at isFunction
  rw [Program.knows, Bool.or_eq_true]
  rcases isFunction with declared | isBuiltin
  · rcases List.any_eq_true.mp declared with ⟨entry, member, named⟩
    rcases exists_of_mem_functionTable member with ⟨declaration, found, same⟩
    have installed := Program.declares_ofDeclarations ⟨declaration, found, rfl⟩
    rcases List.any_eq_true.mp installed with ⟨clause, clauseMember, clauseSame⟩
    refine .inl (List.any_eq_true.mpr ⟨clause, clauseMember, ?_⟩)
    rw [decide_eq_true_eq] at clauseSame named ⊢
    rw [clauseSame, same, named]
  · exact .inr isBuiltin

/-! ## What is found about a body -/

/-- Whether a finding is neither an error nor about the use of an anonymous name. -/
def IsHarmless (finding : Finding) : Prop :=
  finding.isError = false ∧ finding.code ≠ "W330"

/-- A name used as a value in a body is bound and not anonymous, or that of a function, unless the
checker finds something. -/
theorem bound_or_isFunctionName (clean : ∀ finding ∈ check module, IsHarmless finding)
    (declared : declaration ∈ module.declarations) {reference : Identifier}
    (used : reference ∈ declaration.body.references []) :
    (reference.name ∈ Pattern.namesOfAll declaration.params ∧
        isAnonymous reference.name = false) ∨
      isFunctionName (functionTable module.declarations) reference.name = true := by
  let table := functionTable module.declarations
  let bound := (Pattern.bindingsOfAll declaration.params).map (·.name)
  have harmless : ∀ finding, referenceFinding table bound false reference = some finding →
      IsHarmless finding := by
    intro finding found
    apply clean
    apply mem_check_of_mem_declarationFindings declared
    refine mem_declarationFindings.mpr (.inr (.inl ?_))
    apply List.mem_append_left
    exact List.mem_filterMap.mpr ⟨reference, used, found⟩
  simp only [referenceFinding] at harmless
  split at harmless
  · rename_i isBound
    split at harmless
    · exact absurd rfl (harmless _ rfl).2
    · exact .inl ⟨List.contains_iff_mem.mp isBound, Bool.eq_false_iff.mpr ‹_›⟩
  · split at harmless
    · exact .inr ‹_›
    · cases (harmless _ rfl).1

end Checker

namespace Eval

open Checker (IsHarmless)

variable {module : Module} {setting : Setting}

/-- Errors that are not about an unbound name. -/
def NotUnbound : RuntimeError → Prop
  | .unboundName .. => False
  | _ => True

theorem notUnbound_of_not_isAboutName {error : RuntimeError} (other : ¬error.IsAboutName) :
    NotUnbound error := by
  cases error with
  | unboundName => exact other trivial
  | _ => trivial

/-- A body whose references are bound and whose calls may fail is answered. -/
theorem answered_of_uses {env : Environment} {body : Expr}
    (uses : ∀ reference ∈ body.references [], (setting.lookup env reference.name).isSome ∨
      setting.program.knows reference.name = true) :
    Answered NotUnbound setting env (body.references []) (body.calls []) where
  uses reference member := by
    rcases uses reference member with bound | known
    · exact .inl bound
    · exact .inr (.inl known)
  callees _ _ := .inr (.inr (.inr trivial))

/-- The names of the arguments that an unwrapping clause passes on are bound by its patterns. -/
theorem isSome_lookup_argumentNames {declaration : Declaration} {order : Nat}
    {arguments : List Value} {bindings : Bindings}
    (fits : Pattern.fitParams (declaration.okClause order).params arguments = some bindings) :
    ∀ name ∈ declaration.argumentNames, (bindings.lookup name).isSome := by
  intro name member
  have own : name ∈ Pattern.namesOfAll (declaration.okClause order).params := by
    rw [Declaration.okClause_params, Pattern.namesOfAll_cons]
    rcases List.mem_cons.mp member with rfl | later
    · exact List.mem_append_left _ (.head _)
    · exact List.mem_append_right _ (Declaration.namedParams_mem _ _ _ name later)
  apply Pattern.isSome_lookup_of_fitParams fits own
  apply Declaration.isAnonymous_unwrappingNames
  rw [Declaration.okClause_params] at own
  exact own

/-- Names in a row use just these names. -/
theorem referencesOfAll_idents (names : List String) :
    Expr.referencesOfAll [] (names.map fun name => .ident ⟨name, .generated⟩) =
      names.map fun name => ⟨name, .generated⟩ := by
  induction names with
  | nil => rfl
  | cons name rest ih =>
      simp only [List.map_cons, Expr.referencesOfAll, Expr.references, ih]
      rfl

/-- Names in a row call nothing. -/
theorem callsOfAll_idents (names : List String) :
    Expr.callsOfAll [] (names.map fun name => .ident ⟨name, .generated⟩) = [] := by
  induction names with
  | nil => rfl
  | cons name rest ih =>
      simp only [List.map_cons, Expr.callsOfAll, Expr.calls, ih]
      rfl

/-- The bodies of a program answer their names if those of its declarations do: a synthesized clause
only uses names that its patterns bind and only calls its own function. -/
theorem bodiesAnswered_of_declarations {allowed : RuntimeError → Prop}
    {declarations : List Declaration} (program : setting.program = .ofDeclarations declarations)
    (own : ∀ declaration ∈ declarations, ∀ arguments bindings,
      Pattern.fitParams declaration.params arguments = some bindings →
        Answered allowed setting (clauseEnvironment bindings) (declaration.body.references [])
          (declaration.body.calls [])) :
    BodiesAnswered allowed setting := by
  intro clause member arguments bindings fits
  rw [program] at member
  rcases Clause.exists_of_mem_ofDeclarations member with
    ⟨kind, declaration, declared, gives, order, rfl⟩
  cases kind with
  | default =>
      rw [Declaration.clauseOf, Declaration.defaultClause_params] at fits
      exact own declaration declared arguments bindings fits
  | errorPassthrough =>
      refine ⟨fun reference used => .inl ?_, List.forall_mem_nil _⟩
      obtain rfl := List.mem_singleton.mp used
      rw [lookup_clauseEnvironment]
      exact Pattern.isSome_lookup_of_fitParams fits (.head _) (by decide)
  | okUnwrap =>
      have answers : declaration.Answers := gives
      rw [Declaration.clauseOf, Declaration.okClause_body]
      constructor
      · intro reference used
        rw [Expr.references, referencesOfAll_idents] at used
        rcases List.mem_map.mp used with ⟨name, passed, rfl⟩
        rw [lookup_clauseEnvironment]
        exact .inl (isSome_lookup_argumentNames fits name passed)
      · intro call called
        rw [Expr.calls, callsOfAll_idents, List.append_nil] at called
        obtain rfl := List.mem_singleton.mp called
        rw [program, List.length_map, Declaration.argumentNames_length answers.2]
        exact .inr (.inl (Program.declares_ofDeclarations ⟨declaration, declared, rfl⟩))

/-- In a module that the checker accepts, every body answers its names. -/
theorem bodiesAnswered_of_clean (clean : ∀ finding ∈ Checker.check module, IsHarmless finding)
    (program : setting.program = .ofDeclarations module.declarations) :
    BodiesAnswered NotUnbound setting := by
  apply bodiesAnswered_of_declarations program
  intro declaration declared arguments bindings fits
  apply answered_of_uses
  intro reference used
  rw [lookup_clauseEnvironment]
  rcases Checker.bound_or_isFunctionName clean declared used with ⟨bound, named⟩ | isFunction
  · exact .inl (Pattern.isSome_lookup_of_fitParams fits bound named)
  · exact .inr (by rw [program, Checker.knows_of_isFunctionName isFunction])

/-- If the checker finds no error in a module and no use of an anonymous name, its program is
installed, and calling a function with first-order arguments never ends in an unbound name, however
deep the calls go. -/
theorem call_never_unbound {module : Module}
    (clean : ∀ finding ∈ Checker.check module,
      finding.isError = false ∧ finding.code ≠ "W330") :
    ∃ program, (Build.ofModule module).program? = some program ∧
      ∀ (session : List Value.Frame) (home : Nat) (name : String) (arguments : List Value),
        (∀ argument ∈ arguments, argument.isFirstOrder = true) →
        ∀ (depth stamp : Nat) (unbound : String) (span : Span),
          callGlobal (callsWithin ⟨program, session, home⟩ depth) ⟨program, session, home⟩ name
            arguments none stamp ≠ .error (.error (.unboundName unbound span)) := by
  refine ⟨.ofDeclarations module.declarations, ?_, ?_⟩
  · have noError : (Checker.check module).any Finding.isError = false := by
      apply List.any_eq_false.mpr
      intro finding member
      rw [(clean finding member).1]
      exact Bool.false_ne_true
    simp only [Build.ofModule, noError]
    rfl
  · intro session home name arguments plain depth stamp unbound span ends
    have permits : ∀ error : RuntimeError, ¬error.IsAboutName → NotUnbound error :=
      fun _ => notUnbound_of_not_isAboutName
    let setting : Setting := ⟨.ofDeclarations module.declarations, session, home⟩
    have bodies : BodiesAnswered NotUnbound setting := bodiesAnswered_of_clean clean rfl
    have each : ∀ argument ∈ arguments, Answering NotUnbound setting argument :=
      fun argument member => Value.allClosures_of_isFirstOrder (plain argument member)
    have safe : Run.Safe NotUnbound (Answering NotUnbound setting)
        (callGlobal (callsWithin setting depth) setting name arguments none) :=
      callGlobal_safe permits (callsWithin_safe permits bodies depth) each
        (.inr (.inr trivial))
    have here := safe stamp
    rw [ends] at here
    exact here

/-- Scaling by a closure that is handed through a recursion: `def each([], _) -> []`,
`def each([first | rest], f) -> [f(first) | each(rest, f)]` and
`pipe scale(list, factor) -> list |> each(fn(item) -> item * factor)`. -/
def scaling : Module :=
  let here : Span := .generated
  let ident (name : String) : Expr := .ident ⟨name, here⟩
  let named (name : String) : Pattern := .binding name here
  ⟨[⟨.plain ⟨"each", [.list [] none here, .wildcard here], here⟩, .list [] none here, false, none,
        here⟩,
      ⟨.plain ⟨"each", [.list [named "first"] (some (named "rest")) here, named "f"], here⟩,
        .list [.call ⟨"f", here⟩ [ident "first"] here]
          (some (.call ⟨"each", here⟩ [ident "rest", ident "f"] here)) here,
        false, none, here⟩,
      ⟨.plain ⟨"scale", [named "list", named "factor"], here⟩,
        .pipeCall (ident "list") ⟨"each", here⟩
          [.lambda ["item"] (.binary (ident "item") .mul (ident "factor") here) here] here here,
        true, none, here⟩], here⟩

theorem call_never_unbound_scaling :
    (∀ finding ∈ Checker.check scaling, finding.isError = false ∧ finding.code ≠ "W330") ∧
      (∀ argument ∈ [Value.result .ok (.list [.integer 2, .integer 5]), .integer 3],
        argument.isFirstOrder = true) ∧
      ∃ program, (Build.ofModule scaling).program? = some program ∧
        ∀ (depth : Nat) (unbound : String) (span : Span),
          callGlobal (callsWithin ⟨program, [], 0⟩ depth) ⟨program, [], 0⟩ "scale"
            [.result .ok (.list [.integer 2, .integer 5]), .integer 3] none 0 ≠
              .error (.error (.unboundName unbound span)) := by
  have clean : ∀ finding ∈ Checker.check scaling,
      finding.isError = false ∧ finding.code ≠ "W330" := by decide +kernel
  have plain : ∀ argument ∈ [Value.result .ok (.list [.integer 2, .integer 5]), .integer 3],
      argument.isFirstOrder = true := by decide
  rcases call_never_unbound clean with ⟨program, installed, bound⟩
  exact ⟨clean, plain, program, installed, fun depth => bound [] 0 _ _ plain depth 0⟩

end Eval
end ClauseFlow
