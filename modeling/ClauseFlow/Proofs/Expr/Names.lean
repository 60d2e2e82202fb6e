import ClauseFlow.Expr.Names

/-!
# Names that are local

The names used and called outside some locals are those used and called at all, less the locals. So
the body of a lambda uses its parameters and what the lambda uses, and nothing else.
-/

namespace ClauseFlow.Expr

/-- The references that are not local. -/
def outsideOf (locals : List String) (references : List Identifier) : List Identifier :=
  references.filter fun reference => !locals.contains reference.name

/-- The calls that are not local. -/
def callsOutsideOf (locals : List String) (calls : List NamedCall) : List NamedCall :=
  calls.filter fun call => !locals.contains call.signature.name

theorem mem_outsideOf {locals : List String} {references : List Identifier}
    {reference : Identifier} :
    reference ∈ outsideOf locals references ↔
      reference ∈ references ∧ reference.name ∉ locals := by
  simp [outsideOf]

theorem mem_callsOutsideOf {locals : List String} {calls : List NamedCall} {call : NamedCall} :
    call ∈ callsOutsideOf locals calls ↔ call ∈ calls ∧ call.signature.name ∉ locals := by
  simp [callsOutsideOf]

theorem outsideOf_append (locals : List String) (first second : List Identifier) :
    outsideOf locals (first ++ second) = outsideOf locals first ++ outsideOf locals second :=
  List.filter_append ..

theorem callsOutsideOf_append (locals : List String) (first second : List NamedCall) :
    callsOutsideOf locals (first ++ second) =
      callsOutsideOf locals first ++ callsOutsideOf locals second :=
  List.filter_append ..

/-- Locals are left out one frame after the other. -/
theorem outsideOf_outsideOf (outer inner : List String) (references : List Identifier) :
    outsideOf outer (outsideOf inner references) = outsideOf (inner ++ outer) references := by
  rw [outsideOf, outsideOf, outsideOf, List.filter_filter]
  congr 1
  funext reference
  simp [Bool.and_comm]

theorem callsOutsideOf_callsOutsideOf (outer inner : List String) (calls : List NamedCall) :
    callsOutsideOf outer (callsOutsideOf inner calls) = callsOutsideOf (inner ++ outer) calls := by
  rw [callsOutsideOf, callsOutsideOf, callsOutsideOf, List.filter_filter]
  congr 1
  funext call
  simp [Bool.and_comm]

theorem namedCall_eq (locals : List String) (callee : Identifier) (arity : Nat) (span : Span) :
    namedCall locals callee arity span = callsOutsideOf locals (namedCall [] callee arity span) := by
  simp only [namedCall, callsOutsideOf]
  by_cases isLocal : callee.name ∈ locals <;> simp [isLocal]

mutual

/-- The references outside of locals. -/
theorem references_eq (locals : List String) : ∀ expr : Expr,
    references locals expr = outsideOf locals (references [] expr)
  | .integer .. | .decimal .. | .text .. | .atom .. | .boolean .. | .nil _ | .typeName .. => rfl
  | .ident identifier => by
      simp only [references, outsideOf]
      by_cases isLocal : identifier.name ∈ locals <;> simp [isLocal]
  | .binary left _ right _ | .alternative left right _ => by
      simp only [references]
      rw [references_eq locals left, references_eq locals right, outsideOf_append]
  | .unary _ operand _ => references_eq locals operand
  | .call _ arguments _ | .delegate _ arguments _ => referencesOfAll_eq locals arguments
  | .field subject _ _ => references_eq locals subject
  | .pipe left _ _ => references_eq locals left
  | .pipeCall left _ arguments _ _ => by
      simp only [references]
      rw [references_eq locals left, referencesOfAll_eq locals arguments, outsideOf_append]
  | .result _ value _ => references_eq locals value
  | .tuple elements _ => referencesOfAll_eq locals elements
  | .list elements none _ => referencesOfAll_eq locals elements
  | .list elements (some tail) _ => by
      simp only [references]
      rw [referencesOfAll_eq locals elements, references_eq locals tail, outsideOf_append]
  | .map entries _ | .record _ entries _ => referencesOfEntries_eq locals entries
  | .lambda params body _ => by
      simp only [references, List.append_nil]
      rw [references_eq (params ++ locals) body, references_eq params body, outsideOf_outsideOf]
  | .conditional condition thenBranch elseBranch _ => by
      simp only [references]
      rw [references_eq locals condition, references_eq locals thenBranch,
        references_eq locals elseBranch, outsideOf_append, outsideOf_append]

theorem referencesOfAll_eq (locals : List String) : ∀ exprs : List Expr,
    referencesOfAll locals exprs = outsideOf locals (referencesOfAll [] exprs)
  | [] => rfl
  | expr :: rest => by
      simp only [referencesOfAll]
      rw [references_eq locals expr, referencesOfAll_eq locals rest, outsideOf_append]

theorem referencesOfEntries_eq (locals : List String) : ∀ entries : List (String × Expr),
    referencesOfEntries locals entries = outsideOf locals (referencesOfEntries [] entries)
  | [] => rfl
  | (_, expr) :: rest => by
      simp only [referencesOfEntries]
      rw [references_eq locals expr, referencesOfEntries_eq locals rest, outsideOf_append]

end

mutual

/-- The calls outside of locals. -/
theorem calls_eq (locals : List String) : ∀ expr : Expr,
    calls locals expr = callsOutsideOf locals (calls [] expr)
  | .integer .. | .decimal .. | .text .. | .atom .. | .boolean .. | .nil _ | .ident _
  | .typeName .. => rfl
  | .binary left _ right _ | .alternative left right _ => by
      simp only [calls]
      rw [calls_eq locals left, calls_eq locals right, callsOutsideOf_append]
  | .unary _ operand _ => calls_eq locals operand
  | .call callee arguments span | .delegate callee arguments span => by
      simp only [calls]
      rw [namedCall_eq locals, callsOfAll_eq locals arguments, callsOutsideOf_append]
  | .field subject _ _ => calls_eq locals subject
  | .pipe left callee _ => by
      simp only [calls]
      rw [namedCall_eq locals, calls_eq locals left, callsOutsideOf_append]
  | .pipeCall left callee arguments callSpan _ => by
      simp only [calls]
      rw [namedCall_eq locals, calls_eq locals left, callsOfAll_eq locals arguments,
        callsOutsideOf_append, callsOutsideOf_append]
  | .result _ value _ => calls_eq locals value
  | .tuple elements _ => callsOfAll_eq locals elements
  | .list elements none _ => callsOfAll_eq locals elements
  | .list elements (some tail) _ => by
      simp only [calls]
      rw [callsOfAll_eq locals elements, calls_eq locals tail, callsOutsideOf_append]
  | .map entries _ | .record _ entries _ => callsOfEntries_eq locals entries
  | .lambda params body _ => by
      simp only [calls, List.append_nil]
      rw [calls_eq (params ++ locals) body, calls_eq params body, callsOutsideOf_callsOutsideOf]
  | .conditional condition thenBranch elseBranch _ => by
      simp only [calls]
      rw [calls_eq locals condition, calls_eq locals thenBranch, calls_eq locals elseBranch,
        callsOutsideOf_append, callsOutsideOf_append]

theorem callsOfAll_eq (locals : List String) : ∀ exprs : List Expr,
    callsOfAll locals exprs = callsOutsideOf locals (callsOfAll [] exprs)
  | [] => rfl
  | expr :: rest => by
      simp only [callsOfAll]
      rw [calls_eq locals expr, callsOfAll_eq locals rest, callsOutsideOf_append]

theorem callsOfEntries_eq (locals : List String) : ∀ entries : List (String × Expr),
    callsOfEntries locals entries = callsOutsideOf locals (callsOfEntries [] entries)
  | [] => rfl
  | (_, expr) :: rest => by
      simp only [callsOfEntries]
      rw [calls_eq locals expr, callsOfEntries_eq locals rest, callsOutsideOf_append]

end

end ClauseFlow.Expr
