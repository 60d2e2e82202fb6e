import Mathlib.Data.List.Basic
import ClauseFlow.Proofs.Checker.Findings

/-!
# The symbol table of a check

While a declaration is checked, the only symbols are those of its own scope: names are looked up
there, and marked there. When the scope is left the table is what it was before, so nothing of one
declaration reaches another. Main statement: a check runs to its end, and what it finds about the
declarations is what is found about each of them by itself.
-/

namespace ClauseFlow

namespace SymbolScope

variable {scope : SymbolScope} {name : String} {bound : List String}

/-- The names that are defined in a scope, in the order of their definition. -/
def names (scope : SymbolScope) : List String :=
  scope.symbols.map (·.name)

/-- Whether a scope defines just some names. -/
def Defines (scope : SymbolScope) (bound : List String) : Prop :=
  ∀ name, name ∈ scope.names ↔ name ∈ bound

/-- The scope after uses of some names. -/
def marked (scope : SymbolScope) (used : List String) : SymbolScope :=
  { scope with
    symbols := scope.symbols.map fun symbol =>
      { symbol with used := symbol.used || used.contains symbol.name } }

/-- The scope after a binding. If its name is defined already, this is a use of the name. -/
def afterBinding (scope : SymbolScope) (binding : Identifier) : SymbolScope :=
  if binding.name ∈ scope.names then scope.marked [binding.name]
  else { scope with symbols := scope.symbols ++ [⟨binding.name, .binding, binding.span, false⟩] }

theorem find?_of_not_mem (unknown : name ∉ scope.names) : scope.find? name = none := by
  refine List.find?_eq_none.mpr fun symbol member same => unknown ?_
  rw [decide_eq_true_eq] at same
  exact same ▸ List.mem_map_of_mem member

theorem exists_find?_of_mem (known : name ∈ scope.names) :
    ∃ symbol, scope.find? name = some symbol ∧ symbol.name = name := by
  rcases List.mem_map.mp known with ⟨symbol, member, same⟩
  cases found : scope.find? name with
  | none => exact absurd (decide_eq_true same) (List.find?_eq_none.mp found symbol member)
  | some first =>
      have named := List.find?_some (p := fun symbol : Symbol => decide (symbol.name = name)) found
      exact ⟨first, rfl, of_decide_eq_true named⟩

/-! ## Marks -/

@[simp] theorem names_marked (scope : SymbolScope) (used : List String) :
    (scope.marked used).names = scope.names := by
  rw [names, marked, List.map_map]
  rfl

@[simp] theorem marked_nil (scope : SymbolScope) : scope.marked [] = scope := by
  simp [marked]

@[simp] theorem marked_marked (scope : SymbolScope) (used used' : List String) :
    (scope.marked used).marked used' = scope.marked (used ++ used') := by
  simp [marked, Bool.or_assoc, Function.comp_def]

theorem markUsed_eq_marked (scope : SymbolScope) (name : String) :
    scope.markUsed name = scope.marked [name] := by
  rw [markUsed, marked]
  congr 1
  refine List.map_congr_left fun symbol _ => ?_
  by_cases same : symbol.name = name <;> simp [same]

/-- Uses of names that are not defined mark nothing. -/
theorem marked_cons_of_not_mem (unknown : name ∉ scope.names) (used : List String) :
    scope.marked (name :: used) = scope.marked used := by
  rw [marked, marked]
  congr 1
  refine List.map_congr_left fun symbol member => ?_
  have different : symbol.name ≠ name := fun same => unknown (same ▸ List.mem_map_of_mem member)
  rw [List.contains_cons, beq_false_of_ne different, Bool.false_or]

theorem Defines.marked (defines : scope.Defines bound) (used : List String) :
    (scope.marked used).Defines bound := by
  intro name
  rw [names_marked]
  exact defines name

/-! ## Bindings -/

theorem defines_afterBinding (defines : scope.Defines bound) (binding : Identifier) :
    (scope.afterBinding binding).Defines (bound ++ [binding.name]) := by
  intro name
  rw [afterBinding, List.mem_append, List.mem_singleton, ← defines name]
  split
  · rename_i known
    rw [names_marked]
    exact (or_iff_left_of_imp fun same => same ▸ known).symm
  · simp [names]

/-- The scope of some bindings defines their names. -/
theorem defines_foldl_afterBinding (bindings : List Identifier) (defines : scope.Defines bound) :
    (bindings.foldl afterBinding scope).Defines (bound ++ bindings.map (·.name)) := by
  induction bindings generalizing scope bound with
  | nil => simpa using defines
  | cons binding rest ih => simpa using ih (defines_afterBinding defines binding)

end SymbolScope

namespace SymbolTable

/-- Whether a table has no symbols: only the scope of the module is open, and it is empty. -/
structure HasNoSymbols (table : SymbolTable) : Prop where
  inner : table.inner = []
  outermost : table.outermost.symbols = []

/-- The table with one scope open inside that of the module. -/
def opened (table : SymbolTable) (scope : SymbolScope) : SymbolTable :=
  { table with inner := [scope] }

variable {table : SymbolTable} {scope : SymbolScope} {name : String}

theorem push_eq_opened (bare : table.HasNoSymbols) (name : String) :
    table.push name = table.opened ⟨name, []⟩ := by
  rw [push, bare.inner, opened]

/-- Leaving the scope gives the table without it. -/
theorem pop?_opened (bare : table.HasNoSymbols) :
    (table.opened scope).pop? = some (scope, table) := by
  rcases table with ⟨inner, outermost, functions⟩
  cases bare.inner
  rfl

theorem lookup_opened (bare : table.HasNoSymbols) :
    (table.opened scope).lookup name = scope.find? name := by
  have outside : table.outermost.find? name = none := by
    rw [SymbolScope.find?, bare.outermost, List.find?_nil]
  rw [lookup, scopes, opened, List.singleton_append, List.findSome?_cons, List.findSome?_cons,
    outside]
  cases scope.find? name <;> rfl

theorem markUsed_opened (table : SymbolTable) (known : name ∈ scope.names) :
    (table.opened scope).markUsed name = table.opened (scope.marked [name]) := by
  rcases SymbolScope.exists_find?_of_mem known with ⟨symbol, found, _⟩
  simp [markUsed, opened, markUsedIn, found, SymbolScope.markUsed_eq_marked]

theorem hasNoSymbols_defineFunction (bare : table.HasNoSymbols) (signature : Signature)
    (span : Span) : (table.defineFunction signature span).HasNoSymbols :=
  ⟨bare.inner, bare.outermost⟩

end SymbolTable

namespace Checker

open SymbolTable (HasNoSymbols)

variable {table : SymbolTable} {scope : SymbolScope} {bound : List String}

/-- The functions of a module are recorded before any symbol is defined. -/
theorem hasNoSymbols_functionTable (declarations : List Declaration) :
    (functionTable declarations).HasNoSymbols :=
  List.foldlRecOn declarations _ ⟨rfl, rfl⟩ fun _ bare declaration _ =>
    SymbolTable.hasNoSymbols_defineFunction bare declaration.signature declaration.span

/-- A checker at work in the scope of a declaration. -/
def State.inside (table : SymbolTable) (scope : SymbolScope) (findings : List Finding) : State :=
  ⟨table.opened scope, findings⟩

/-! ## Patterns -/

/-- The symbol of a binding, among the names that the same patterns bind. -/
def bindingSymbol (names : List String) (binding : Identifier) : Symbol :=
  ⟨binding.name, .binding, binding.span, 1 < names.count binding.name⟩

theorem not_mem_of_mem_firstBindings {seen : List String} {bindings : List Identifier}
    {binding : Identifier} (member : binding ∈ firstBindings seen bindings) :
    binding.name ∉ seen := by
  induction bindings generalizing seen with
  | nil => cases member
  | cons head rest ih =>
      rw [firstBindings] at member
      split at member
      · exact ih member
      · rename_i fresh
        rcases List.mem_cons.mp member with rfl | later
        · exact fun known => fresh (List.contains_iff_mem.mpr known)
        · exact fun known => ih later (List.mem_append_left _ known)

/-- A name that was seen before is not counted for the bindings that follow. -/
theorem map_bindingSymbol_cons {seen : List String} {name : String} (known : name ∈ seen)
    (names : List String) (bindings : List Identifier) :
    (firstBindings seen bindings).map (bindingSymbol (name :: names)) =
      (firstBindings seen bindings).map (bindingSymbol names) := by
  refine List.map_congr_left fun binding member => ?_
  have different : name ≠ binding.name := fun same =>
    not_mem_of_mem_firstBindings member (same ▸ known)
  rw [bindingSymbol, bindingSymbol, List.count_cons_of_ne different]

/-- The symbols that bindings define: one for each name, at the place of its first binding, and used
if there is another. -/
theorem symbols_foldl_afterBinding (bindings : List Identifier) (scope : SymbolScope) :
    let names := bindings.map (·.name)
    (bindings.foldl SymbolScope.afterBinding scope).symbols =
      (scope.marked names).symbols ++
        (firstBindings scope.names bindings).map (bindingSymbol names) := by
  induction bindings generalizing scope with
  | nil => simp [firstBindings]
  | cons binding rest ih =>
      simp only [List.foldl_cons, List.map_cons, ih, firstBindings, List.contains_iff_mem]
      by_cases known : binding.name ∈ scope.names
      · rw [SymbolScope.afterBinding, if_pos known, if_pos known, SymbolScope.marked_marked,
          SymbolScope.names_marked, map_bindingSymbol_cons known]
        rfl
      · have grown : (scope.afterBinding binding).names = scope.names ++ [binding.name] := by
          rw [SymbolScope.afterBinding, if_neg known, SymbolScope.names, List.map_append]
          rfl
        have seen : binding.name ∈ scope.names ++ [binding.name] := by simp
        rw [grown, if_neg known, List.map_cons, map_bindingSymbol_cons seen,
          SymbolScope.marked_cons_of_not_mem known]
        simp [SymbolScope.afterBinding, known, SymbolScope.marked, bindingSymbol,
          List.count_pos_iff]

theorem bind_inside (table : SymbolTable) (scope : SymbolScope) (findings : List Finding)
    (binding : Identifier) :
    (State.inside table scope findings).bind binding =
      .inside table (scope.afterBinding binding) findings := by
  have current : (table.opened scope).current = scope := rfl
  rw [State.bind, State.inside, SymbolTable.define, current, SymbolScope.afterBinding]
  by_cases known : binding.name ∈ scope.names
  · rcases SymbolScope.exists_find?_of_mem known with ⟨symbol, found, same⟩
    simp only [found, same, if_pos known, SymbolTable.markUsed_opened table known]
    rfl
  · simp only [SymbolScope.find?_of_not_mem known, if_neg known]
    rfl

theorem foldl_bind_inside (table : SymbolTable) (bindings : List Identifier) (scope : SymbolScope)
    (findings : List Finding) :
    bindings.foldl State.bind (.inside table scope findings) =
      .inside table (bindings.foldl SymbolScope.afterBinding scope) findings := by
  induction bindings generalizing scope with
  | nil => rfl
  | cons binding rest ih => rw [List.foldl_cons, bind_inside, ih, List.foldl_cons]

/-! ## Guards and bodies -/

/-- A name used as a value is marked, and reported as the names of the scope ask for. -/
theorem checkReference_inside (bare : table.HasNoSymbols) (defines : scope.Defines bound)
    (inGuard : Bool) (findings : List Finding) (reference : Identifier) :
    checkReference inGuard (.inside table scope findings) reference =
      .inside table (scope.marked [reference.name])
        (findings ++ (referenceFinding table bound inGuard reference).toList) := by
  simp only [checkReference, referenceFinding, State.inside, SymbolTable.lookup_opened bare,
    List.contains_iff_mem, ← defines reference.name]
  by_cases known : reference.name ∈ scope.names
  · rcases SymbolScope.exists_find?_of_mem known with ⟨symbol, found, same⟩
    have marks := SymbolTable.markUsed_opened table known
    simp only [found, if_pos known, Symbol.isAnonymous, same]
    split <;> simp [State.report, State.use, marks]
  · have sameFunctions :
        isFunctionName (table.opened scope) reference.name = isFunctionName table reference.name :=
      rfl
    simp only [SymbolScope.find?_of_not_mem known, if_neg known, sameFunctions,
      SymbolScope.marked_cons_of_not_mem known, SymbolScope.marked_nil]
    split
    · simp
    · split <;> rfl

/-- The name of a call is marked, and the call is reported if no symbol has the name and no function
is found. -/
theorem checkCall_inside (bare : table.HasNoSymbols) (defines : scope.Defines bound)
    (findings : List Finding) (call : NamedCall) :
    checkCall (.inside table scope findings) call =
      .inside table (scope.marked [call.signature.name])
        (findings ++ (callFinding table bound call).toList) := by
  simp only [checkCall, callFinding, State.inside, SymbolTable.lookup_opened bare,
    Bool.or_eq_true, List.contains_iff_mem, ← defines call.signature.name]
  by_cases known : call.signature.name ∈ scope.names
  · rcases SymbolScope.exists_find?_of_mem known with ⟨symbol, found, _⟩
    have marks := SymbolTable.markUsed_opened table known
    simp [found, known, State.use, marks]
  · have sameFunctions :
        resolves (table.opened scope) call.signature = resolves table call.signature := rfl
    simp only [SymbolScope.find?_of_not_mem known, sameFunctions,
      SymbolScope.marked_cons_of_not_mem known, SymbolScope.marked_nil, known, false_or]
    split
    · simp
    · rfl

/-- Steps that each mark a name and may add a finding, one after the other. -/
theorem foldl_inside {Item : Type} {step : State → Item → State} {name : Item → String}
    {finding? : Item → Option Finding}
    (each : ∀ {scope : SymbolScope}, scope.Defines bound → ∀ findings item,
      step (.inside table scope findings) item =
        .inside table (scope.marked [name item]) (findings ++ (finding? item).toList))
    (items : List Item) (defines : scope.Defines bound) (findings : List Finding) :
    items.foldl step (.inside table scope findings) =
      .inside table (scope.marked (items.map name)) (findings ++ items.filterMap finding?) := by
  induction items generalizing scope findings with
  | nil => simp
  | cons item rest ih =>
      rw [List.foldl_cons, each defines, ih (defines.marked _), SymbolScope.marked_marked,
        List.append_assoc, List.filterMap_eq_flatMap_toList, List.filterMap_eq_flatMap_toList]
      rfl

theorem checkExpr_inside (bare : table.HasNoSymbols) (defines : scope.Defines bound)
    (inGuard : Bool) (findings : List Finding) (expr : Expr) :
    checkExpr inGuard (.inside table scope findings) expr =
      .inside table (scope.marked (usedNames expr))
        (findings ++ exprFindings table bound inGuard expr) := by
  have references := foldl_inside (fun defines => checkReference_inside bare defines inGuard)
    (expr.references []) defines findings
  have calls := foldl_inside (fun defines => checkCall_inside bare defines) (expr.calls [])
    (defines.marked ((expr.references []).map (·.name)))
  rw [checkExpr, references, calls, SymbolScope.marked_marked, List.append_assoc]
  rfl

/-! ## Declarations -/

/-- The scope of a declaration at its end. -/
def finalScope (declaration : Declaration) : SymbolScope :=
  ((Pattern.bindingsOfAll declaration.params).foldl SymbolScope.afterBinding
    ⟨declaration.signature.text, []⟩).marked (usedNamesOf declaration)

/-- The symbols that are reported at the end of a declaration are the names that are bound once and
not used. -/
theorem filterMap_unusedFinding?_finalScope (declaration : Declaration) :
    (finalScope declaration).symbols.filterMap Symbol.unusedFinding? =
      unusedBindings declaration := by
  rw [finalScope, SymbolScope.marked, symbols_foldl_afterBinding, unusedBindings,
    SymbolScope.marked]
  simp only [List.map_nil, List.nil_append, List.map_map, List.filterMap_map]
  refine List.filterMap_congr fun binding _ => ?_
  simp only [Function.comp_apply, Symbol.unusedFinding?, Symbol.isAnonymous, bindingSymbol]
  refine if_congr ?_ rfl rfl
  simp only [Bool.or_eq_true, or_comm, or_left_comm]

/-- The check of a declaration leaves the table as it was before: no symbol is left behind, and none
of a declaration before is found. -/
theorem checkDeclaration_eq (bare : table.HasNoSymbols) (findings : List Finding)
    (declaration : Declaration) :
    checkDeclaration ⟨table, findings⟩ declaration =
      some ⟨table, findings ++ declarationFindings table declaration⟩ := by
  have entered : State.enter ⟨table, findings⟩ declaration =
      .inside table ⟨declaration.signature.text, []⟩ findings := by
    rw [State.enter, SymbolTable.push_eq_opened bare, State.inside]
  have opens : SymbolScope.Defines ⟨declaration.signature.text, []⟩ [] := fun _ => Iff.rfl
  have defines :=
    SymbolScope.defines_foldl_afterBinding (Pattern.bindingsOfAll declaration.params) opens
  have left (findings : List Finding) :
      (State.inside table (finalScope declaration) findings).reportUnused.leave? =
        some ⟨table, findings ++ unusedBindings declaration⟩ := by
    have unused := filterMap_unusedFinding?_finalScope declaration
    rw [State.leave?, State.reportUnused, State.inside, SymbolTable.pop?_opened bare]
    simp only [SymbolTable.current, SymbolTable.opened, List.headD_cons, unused, Option.map_some]
  rw [checkDeclaration, entered, foldl_bind_inside, declarationFindings]
  rw [List.nil_append] at defines
  simp only [finalScope, usedNamesOf] at left
  cases guarded : declaration.guard? with
  | none =>
      simp only [guarded, Option.map_none, Option.getD_none, List.nil_append] at left ⊢
      rw [checkExpr_inside bare defines, left, List.append_assoc]
  | some guard =>
      simp only [guarded, Option.map_some, Option.getD_some] at left ⊢
      rw [checkExpr_inside bare defines, checkExpr_inside bare (defines.marked _),
        SymbolScope.marked_marked, left]
      simp only [List.append_assoc]

/-! ## Modules -/

theorem foldlM_checkDeclaration (bare : table.HasNoSymbols) (declarations : List Declaration)
    (findings : List Finding) :
    declarations.foldlM checkDeclaration ⟨table, findings⟩ =
      some ⟨table, findings ++ declarations.flatMap (declarationFindings table)⟩ := by
  induction declarations generalizing findings with
  | nil => simp
  | cons declaration rest ih =>
      rw [List.foldlM_cons, checkDeclaration_eq bare, Option.bind_eq_bind, Option.bind_some, ih,
        List.flatMap_cons, List.append_assoc]

/-- A check runs to its end. The table that it leaves knows the functions of the module and no
symbols. -/
theorem run_eq (module : Module) :
    run module = some
      ⟨functionTable module.declarations,
        module.declarations.flatMap (declarationFindings (functionTable module.declarations)) ++
          checkRepeated module.declarations⟩ := by
  rw [run, foldlM_checkDeclaration (hasNoSymbols_functionTable _), List.nil_append]
  rfl

/-- What is found about a module is found about its declarations, one by one, and about those that
repeat an earlier one. -/
theorem check_eq (module : Module) :
    check module =
      module.declarations.flatMap (declarationFindings (functionTable module.declarations)) ++
        checkRepeated module.declarations := by
  rw [check, run_eq]
  rfl

/-- What is found about a declaration is reported. -/
theorem mem_check_of_mem_declarationFindings {module : Module} {declaration : Declaration}
    {finding : Finding} (declared : declaration ∈ module.declarations)
    (found : finding ∈ declarationFindings (functionTable module.declarations) declaration) :
    finding ∈ check module := by
  rw [check_eq]
  exact List.mem_append_left _ (List.mem_flatMap.mpr ⟨declaration, declared, found⟩)

end Checker
end ClauseFlow
