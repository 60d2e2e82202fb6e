import ClauseFlow.Checker

/-!
# What is found about a declaration

The findings about a declaration, told by the functions that a table knows and the names that the
patterns bind, without the symbols that a check defines and marks. Each part of a check finds things
of its own: about the names and calls in an expression, about the names that patterns bind, and about
declarations that repeat an earlier one.
-/

namespace ClauseFlow.Checker

variable {table : SymbolTable} {declaration : Declaration} {finding : Finding}

/-- The finding about a name used as a value, if there is one. -/
def referenceFinding (table : SymbolTable) (bound : List String) (inGuard : Bool)
    (reference : Identifier) : Option Finding :=
  let name := reference.name
  if bound.contains name then
    if isAnonymous name then some (.anonymousReference name reference.span) else none
  else if isFunctionName table name then none
  else if inGuard then some (.unboundInGuard name reference.span)
  else some (.undefinedVariable name reference.span)

/-- The finding about a call, if there is one. -/
def callFinding (table : SymbolTable) (bound : List String) (call : NamedCall) : Option Finding :=
  let name := call.signature.name
  if bound.contains name || resolves table call.signature then none
  else
    let declared := (table.arities name).map fun arity => ⟨name, arity⟩
    some (.undefinedFunction call.signature declared call.span)

/-- The findings about a guard or a body. -/
def exprFindings (table : SymbolTable) (bound : List String) (inGuard : Bool) (expr : Expr) :
    List Finding :=
  (expr.references []).filterMap (referenceFinding table bound inGuard) ++
    (expr.calls []).filterMap (callFinding table bound)

/-- The names that an expression uses, as values or to call them. -/
def usedNames (expr : Expr) : List String :=
  (expr.references []).map (·.name) ++ (expr.calls []).map (·.signature.name)

/-- The names that the guard and the body of a declaration use. -/
def usedNamesOf (declaration : Declaration) : List String :=
  (declaration.guard?.map usedNames).getD [] ++ usedNames declaration.body

/-- The first binding of each name; `seen` were bound before. -/
def firstBindings (seen : List String) : List Identifier → List Identifier
  | [] => []
  | binding :: rest =>
      if seen.contains binding.name then firstBindings seen rest
      else binding :: firstBindings (seen ++ [binding.name]) rest

/-- The names that are bound once and that neither guard nor body uses. A name that is bound twice
is used: it asks for equal values. -/
def unusedBindings (declaration : Declaration) : List Finding :=
  let bindings := Pattern.bindingsOfAll declaration.params
  let names := bindings.map (·.name)
  (firstBindings [] bindings).filterMap fun binding =>
    if isAnonymous binding.name || 1 < names.count binding.name ||
        (usedNamesOf declaration).contains binding.name then
      none
    else some (.unusedBinding binding.name binding.span)

/-- The findings about one declaration. -/
def declarationFindings (table : SymbolTable) (declaration : Declaration) : List Finding :=
  let bound := (Pattern.bindingsOfAll declaration.params).map (·.name)
  (declaration.guard?.map (exprFindings table bound true)).getD [] ++
    exprFindings table bound false declaration.body ++ unusedBindings declaration

/-! ## Kinds of findings -/

/-- The codes of what is found about the names and calls in an expression. -/
def nameCodes : List String := ["E300", "E301", "W310", "W330"]

/-- The code of a binding that is not used. -/
def unusedCode : String := "W300"

/-- The code of a declaration that repeats an earlier one. -/
def repetitionCode : String := "W320"

theorem code_of_referenceFinding {bound : List String} {inGuard : Bool} {reference : Identifier}
    (found : referenceFinding table bound inGuard reference = some finding) :
    finding.code ∈ nameCodes := by
  simp only [referenceFinding] at found
  split at found
  · split at found
    · cases found
      exact List.mem_of_elem_eq_true rfl
    · cases found
  · split at found
    · cases found
    · split at found
      · cases found
        exact List.mem_of_elem_eq_true rfl
      · cases found
        exact List.mem_of_elem_eq_true rfl

theorem code_of_callFinding {bound : List String} {call : NamedCall}
    (found : callFinding table bound call = some finding) : finding.code ∈ nameCodes := by
  simp only [callFinding] at found
  split at found
  · cases found
  · cases found
    exact List.mem_of_elem_eq_true rfl

theorem code_of_mem_exprFindings {bound : List String} {inGuard : Bool} {expr : Expr}
    (member : finding ∈ exprFindings table bound inGuard expr) : finding.code ∈ nameCodes := by
  rcases List.mem_append.mp member with used | called
  · rcases List.mem_filterMap.mp used with ⟨reference, _, found⟩
    exact code_of_referenceFinding found
  · rcases List.mem_filterMap.mp called with ⟨call, _, found⟩
    exact code_of_callFinding found

theorem code_of_mem_unusedBindings (member : finding ∈ unusedBindings declaration) :
    finding.code = unusedCode := by
  rcases List.mem_filterMap.mp member with ⟨binding, _, found⟩
  split at found
  · cases found
  · cases found
    rfl

/-- What is found about a declaration is found about its guard, about its body, or about its
bindings. -/
theorem mem_declarationFindings :
    finding ∈ declarationFindings table declaration ↔
      (∃ guard ∈ declaration.guard?,
        finding ∈ exprFindings table ((Pattern.bindingsOfAll declaration.params).map (·.name)) true
          guard) ∨
      finding ∈ exprFindings table ((Pattern.bindingsOfAll declaration.params).map (·.name)) false
        declaration.body ∨
      finding ∈ unusedBindings declaration := by
  rw [declarationFindings, List.mem_append, List.mem_append, or_assoc]
  cases declaration.guard? with
  | none => simp
  | some guard => simp

theorem code_of_mem_declarationFindings
    (member : finding ∈ declarationFindings table declaration) :
    finding.code ∈ unusedCode :: nameCodes := by
  rcases mem_declarationFindings.mp member with ⟨guard, _, inside⟩ | inside | unused
  · exact .tail _ (code_of_mem_exprFindings inside)
  · exact .tail _ (code_of_mem_exprFindings inside)
  · rw [code_of_mem_unusedBindings unused]
    exact .head _

theorem code_of_mem_checkRepeated {declarations : List Declaration}
    (member : finding ∈ checkRepeated declarations) : finding.code = repetitionCode := by
  rcases List.mem_map.mp member with ⟨clause, _, rfl⟩
  rfl

end ClauseFlow.Checker
