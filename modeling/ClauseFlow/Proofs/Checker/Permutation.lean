import ClauseFlow.Proofs.Checker.Functions
import ClauseFlow.Proofs.Checker.Scopes

/-!
# Checking in any order

What the checker finds about one declaration depends on which functions the module declares, not on
their order. Main statement: reordering the declarations of a module reorders what is reported, up
to repeated declarations, of which the later ones are reported.
-/

namespace ClauseFlow

namespace Checker

open SymbolTable (SameFunctions)

/-! ## What is found about a declaration -/

section

variable {table table' : SymbolTable} (same : SameFunctions table table')

include same

theorem referenceFinding_congr (bound : List String) (inGuard : Bool) :
    referenceFinding table bound inGuard = referenceFinding table' bound inGuard := by
  funext reference
  have sameNames : isFunctionName table reference.name = isFunctionName table' reference.name :=
    congrArg (· || _) (same.any_name_eq _)
  rw [referenceFinding, referenceFinding, sameNames]

theorem callFinding_congr (bound : List String) :
    callFinding table bound = callFinding table' bound := by
  funext call
  have sameAnswer : resolves table call.signature = resolves table' call.signature :=
    congrArg (· || _) (same.declares_eq _)
  rw [callFinding, callFinding, sameAnswer, same.arities_eq]

/-- What is found about a declaration depends on the declared functions only. -/
theorem declarationFindings_congr : declarationFindings table = declarationFindings table' := by
  have sameExpr : exprFindings table = exprFindings table' := by
    funext bound inGuard expr
    rw [exprFindings, exprFindings, referenceFinding_congr same, callFinding_congr same]
  funext declaration
  simp only [declarationFindings, sameExpr]

end

/-! ## What is reported about a module -/

/-- The reports about a module that have one of some codes. -/
def reportsWith (codes : List String) (module : Module) : List Diagnostic :=
  ((check module).map Finding.diagnostic).filter fun report => report.code ∈ codes

/-- All reports but those of repetitions are about a declaration by itself. -/
theorem reportsWith_eq {codes : List String} (module : Module)
    (all : ∀ code ∈ unusedCode :: nameCodes, code ∈ codes) (others : repetitionCode ∉ codes) :
    reportsWith codes module =
      (module.declarations.flatMap (declarationFindings (functionTable module.declarations))).map
        Finding.diagnostic := by
  rw [reportsWith, check_eq, List.map_append, List.filter_append]
  have kept : ∀ report ∈ (module.declarations.flatMap
      (declarationFindings (functionTable module.declarations))).map Finding.diagnostic,
      decide (report.code ∈ codes) = true := by
    intro report member
    rcases List.mem_map.mp member with ⟨finding, found, rfl⟩
    rcases List.mem_flatMap.mp found with ⟨declaration, _, inside⟩
    exact decide_eq_true (all _ (code_of_mem_declarationFindings inside))
  have dropped : ∀ report ∈ (checkRepeated module.declarations).map Finding.diagnostic,
      ¬decide (report.code ∈ codes) = true := by
    intro report member listed
    rcases List.mem_map.mp member with ⟨finding, found, rfl⟩
    have listedCode : finding.code ∈ codes := of_decide_eq_true listed
    rw [code_of_mem_checkRepeated found] at listedCode
    exact others listedCode
  rw [List.filter_eq_self.mpr kept, List.filter_eq_nil_iff.mpr dropped, List.append_nil]

/-- Modules with the same declarations in another order get the same reports, apart from those of
repeated declarations, in another order: with the same code, message, place and notes, and as
often. -/
theorem reports_perm {module module' : Module}
    (permuted : module.declarations.Perm module'.declarations) :
    (reportsWith ["E300", "E301", "W300", "W310", "W330"] module).Perm
      (reportsWith ["E300", "E301", "W300", "W310", "W330"] module') := by
  have all : ∀ code ∈ unusedCode :: nameCodes,
      code ∈ ["E300", "E301", "W300", "W310", "W330"] := by decide
  rw [reportsWith_eq module all (by decide), reportsWith_eq module' all (by decide),
    declarationFindings_congr (sameFunctions_of_perm permuted)]
  exact (permuted.flatMap_right _).map _

/-- `def twice(x) -> add(x, y)`, `def add(a) when z -> 1` and `def add(a, _b, c) -> _b`: with each
of them something is wrong. -/
def faulty : List Declaration :=
  let here : Span := .generated
  let ident (name : String) : Expr := .ident ⟨name, here⟩
  let named (name : String) : Pattern := .binding name here
  [⟨.plain ⟨"twice", [named "x"], here⟩, .call ⟨"add", here⟩ [ident "x", ident "y"] here, false,
      none, here⟩,
    ⟨.guarded ⟨"add", [named "a"], here⟩ (ident "z") here, .integer 1 here, false, none, here⟩,
    ⟨.plain ⟨"add", [named "a", named "_b", named "c"], here⟩, ident "_b", false, none, here⟩]

theorem reports_perm_faulty :
    faulty.Perm faulty.reverse ∧
      (check ⟨faulty, .generated⟩).map Finding.code =
        ["E301", "E300", "W310", "W300", "W330", "W300", "W300"] ∧
      (check ⟨faulty.reverse, .generated⟩).map Finding.code =
        ["W330", "W300", "W300", "W310", "W300", "E301", "E300"] ∧
      (reportsWith ["E300", "E301", "W300", "W310", "W330"] ⟨faulty, .generated⟩).Perm
        (reportsWith ["E300", "E301", "W300", "W310", "W330"] ⟨faulty.reverse, .generated⟩) :=
  ⟨(List.reverse_perm faulty).symm, by decide +kernel, by decide +kernel,
    reports_perm (List.reverse_perm faulty).symm⟩

end Checker
end ClauseFlow
