import ClauseFlow.Expr.Names

/-!
# Pipes phrased as calls

`left |> callee(arguments)` says the same as `callee(left, arguments)`. Phrased as a call, an
expression uses the same names and calls the same functions, if not in the same order.
-/

namespace ClauseFlow

/-- How an expression is put: with its pipes as they are written, or with the calls that they stand
for. -/
inductive Phrasing where
  | asWritten
  | direct
  deriving DecidableEq, Repr

namespace Phrasing

variable (phrasing : Phrasing)

/-- A pipe into a name. -/
def pipe (left : Expr) (callee : Identifier) (span : Span) : Expr :=
  match phrasing with
  | asWritten => .pipe left callee span
  | direct => .call callee [left] span

/-- A pipe into a call. -/
def pipeCall (left : Expr) (callee : Identifier) (arguments : List Expr) (callSpan span : Span) :
    Expr :=
  match phrasing with
  | asWritten => .pipeCall left callee arguments callSpan span
  | direct => .call callee (left :: arguments) span

end Phrasing

namespace Expr

section

variable (phrasing : Phrasing)

mutual

/-- An expression with all its pipes phrased in one way, those inside lambdas too. -/
def phrased : Expr → Expr
  | .integer value span => .integer value span
  | .decimal value span => .decimal value span
  | .text value span => .text value span
  | .atom name span => .atom name span
  | .boolean value span => .boolean value span
  | .nil span => .nil span
  | .ident identifier => .ident identifier
  | .typeName name span => .typeName name span
  | .binary left op right span => .binary (phrased left) op (phrased right) span
  | .unary op operand span => .unary op (phrased operand) span
  | .call callee arguments span => .call callee (phrasedAll arguments) span
  | .delegate callee arguments span => .delegate callee (phrasedAll arguments) span
  | .field subject name span => .field (phrased subject) name span
  | .pipe left callee span => phrasing.pipe (phrased left) callee span
  | .pipeCall left callee arguments callSpan span =>
      phrasing.pipeCall (phrased left) callee (phrasedAll arguments) callSpan span
  | .alternative left right span => .alternative (phrased left) (phrased right) span
  | .result tag value span => .result tag (phrased value) span
  | .tuple elements span => .tuple (phrasedAll elements) span
  | .list elements none span => .list (phrasedAll elements) none span
  | .list elements (some tail) span => .list (phrasedAll elements) (some (phrased tail)) span
  | .map entries span => .map (phrasedEntries entries) span
  | .record tag entries span => .record tag (phrasedEntries entries) span
  | .lambda params body span => .lambda params (phrased body) span
  | .conditional condition thenBranch elseBranch span =>
      .conditional (phrased condition) (phrased thenBranch) (phrased elseBranch) span

def phrasedAll : List Expr → List Expr
  | [] => []
  | expr :: rest => phrased expr :: phrasedAll rest

def phrasedEntries : List (String × Expr) → List (String × Expr)
  | [] => []
  | (key, expr) :: rest => (key, phrased expr) :: phrasedEntries rest

end

theorem length_phrasedAll (exprs : List Expr) :
    (phrasedAll phrasing exprs).length = exprs.length := by
  induction exprs with
  | nil => rfl
  | cons expr rest ih => exact congrArg Nat.succ ih

/-- What stands for an expression stands in its place. -/
theorem span_phrased (expr : Expr) : (expr.phrased phrasing).span = expr.span := by
  cases expr with
  | pipe | pipeCall => cases phrasing <;> rfl
  | list _ tail? _ => cases tail? <;> rfl
  | _ => rfl

end

/-- An expression with each pipe replaced by the call that it stands for. -/
def direct (expr : Expr) : Expr :=
  expr.phrased .direct

mutual

theorem phrased_asWritten : ∀ expr : Expr, expr.phrased .asWritten = expr
  | .integer .. | .decimal .. | .text .. | .atom .. | .boolean .. | .nil _ | .ident _
  | .typeName .. => by simp only [phrased]
  | .binary left _ right _ | .alternative left right _ => by
      simp only [phrased, phrased_asWritten left, phrased_asWritten right]
  | .unary _ inner _ | .field inner _ _ | .result _ inner _ | .lambda _ inner _ => by
      simp only [phrased, phrased_asWritten inner]
  | .pipe left _ _ => by simp only [phrased, Phrasing.pipe, phrased_asWritten left]
  | .pipeCall left _ arguments _ _ => by
      simp only [phrased, Phrasing.pipeCall, phrased_asWritten left, phrasedAll_asWritten arguments]
  | .call _ elements _ | .delegate _ elements _ | .tuple elements _ | .list elements none _ => by
      simp only [phrased, phrasedAll_asWritten elements]
  | .list elements (some tail) _ => by
      simp only [phrased, phrasedAll_asWritten elements, phrased_asWritten tail]
  | .map entries _ | .record _ entries _ => by
      simp only [phrased, phrasedEntries_asWritten entries]
  | .conditional condition thenBranch elseBranch _ => by
      simp only [phrased, phrased_asWritten condition, phrased_asWritten thenBranch,
        phrased_asWritten elseBranch]

theorem phrasedAll_asWritten : ∀ exprs : List Expr, phrasedAll .asWritten exprs = exprs
  | [] => rfl
  | expr :: rest => by
      simp only [phrasedAll, phrased_asWritten expr, phrasedAll_asWritten rest]

theorem phrasedEntries_asWritten : ∀ entries : List (String × Expr),
    phrasedEntries .asWritten entries = entries
  | [] => rfl
  | (_, expr) :: rest => by
      simp only [phrasedEntries, phrased_asWritten expr, phrasedEntries_asWritten rest]

end

/-! ## Names -/

mutual

/-- Pipes and calls use the same names as values. -/
theorem references_direct (locals : List String) : ∀ expr : Expr,
    (expr.phrased .direct).references locals = expr.references locals
  | .integer .. | .decimal .. | .text .. | .atom .. | .boolean .. | .nil _ | .ident _
  | .typeName .. => by simp only [phrased]
  | .binary left _ right _ | .alternative left right _ => by
      simp only [phrased, references, references_direct locals left,
        references_direct locals right]
  | .unary _ inner _ | .field inner _ _ | .result _ inner _ => by
      simp only [phrased, references, references_direct locals inner]
  | .lambda params body _ => by
      simp only [phrased, references, references_direct (params ++ locals) body]
  | .pipe left _ _ => by
      simp only [phrased, Phrasing.pipe, references, referencesOfAll,
        references_direct locals left, List.append_nil]
  | .pipeCall left _ arguments _ _ => by
      simp only [phrased, Phrasing.pipeCall, references, referencesOfAll,
        references_direct locals left, referencesOfAll_direct locals arguments]
  | .call _ elements _ | .delegate _ elements _ | .tuple elements _ | .list elements none _ => by
      simp only [phrased, references, referencesOfAll_direct locals elements]
  | .list elements (some tail) _ => by
      simp only [phrased, references, referencesOfAll_direct locals elements,
        references_direct locals tail]
  | .map entries _ | .record _ entries _ => by
      simp only [phrased, references, referencesOfEntries_direct locals entries]
  | .conditional condition thenBranch elseBranch _ => by
      simp only [phrased, references, references_direct locals condition,
        references_direct locals thenBranch, references_direct locals elseBranch]

theorem referencesOfAll_direct (locals : List String) : ∀ exprs : List Expr,
    referencesOfAll locals (phrasedAll .direct exprs) = referencesOfAll locals exprs
  | [] => rfl
  | expr :: rest => by
      simp only [phrasedAll, referencesOfAll, references_direct locals expr,
        referencesOfAll_direct locals rest]

theorem referencesOfEntries_direct (locals : List String) : ∀ entries : List (String × Expr),
    referencesOfEntries locals (phrasedEntries .direct entries) =
      referencesOfEntries locals entries
  | [] => rfl
  | (_, expr) :: rest => by
      simp only [phrasedEntries, referencesOfEntries, references_direct locals expr,
        referencesOfEntries_direct locals rest]

end

/-- The functions that are called, as often as they are called. -/
abbrev signatures (calls : List NamedCall) : List Signature :=
  calls.map (·.signature)

theorem signatures_namedCall (locals : List String) (callee : Identifier) (arity : Nat)
    (span span' : Span) :
    signatures (namedCall locals callee arity span) =
      signatures (namedCall locals callee arity span') := by
  rw [namedCall, namedCall]
  split
  · rfl
  · rfl

mutual

/-- Pipes call what they stand for, after what is called on their left side. -/
theorem calls_direct (locals : List String) : ∀ expr : Expr,
    (signatures ((expr.phrased .direct).calls locals)).Perm (signatures (expr.calls locals))
  | .integer .. | .decimal .. | .text .. | .atom .. | .boolean .. | .nil _ | .ident _
  | .typeName .. => by simp only [phrased, calls, List.Perm.refl]
  | .binary left _ right _ | .alternative left right _ => by
      simp only [phrased, calls, List.map_append]
      exact (calls_direct locals left).append (calls_direct locals right)
  | .unary _ inner _ | .field inner _ _ | .result _ inner _ => by
      simp only [phrased, calls]
      exact calls_direct locals inner
  | .lambda params body _ => by
      simp only [phrased, calls]
      exact calls_direct (params ++ locals) body
  | .pipe left callee span => by
      simp only [phrased, Phrasing.pipe, calls, callsOfAll, List.append_nil, List.length_singleton,
        List.map_append, signatures_namedCall locals callee 1 span callee.span]
      exact List.perm_append_comm.trans ((calls_direct locals left).append_right _)
  | .pipeCall left callee arguments callSpan span => by
      simp only [phrased, Phrasing.pipeCall, calls, callsOfAll, List.length_cons,
        length_phrasedAll, List.map_append, ← List.append_assoc,
        signatures_namedCall locals callee (arguments.length + 1) span callSpan]
      apply List.Perm.append _ (callsOfAll_direct locals arguments)
      exact List.perm_append_comm.trans ((calls_direct locals left).append_right _)
  | .call callee elements _ | .delegate callee elements _ => by
      simp only [phrased, calls, length_phrasedAll, List.map_append]
      exact (callsOfAll_direct locals elements).append_left _
  | .tuple elements _ | .list elements none _ => by
      simp only [phrased, calls]
      exact callsOfAll_direct locals elements
  | .list elements (some tail) _ => by
      simp only [phrased, calls, List.map_append]
      exact (callsOfAll_direct locals elements).append (calls_direct locals tail)
  | .map entries _ | .record _ entries _ => by
      simp only [phrased, calls]
      exact callsOfEntries_direct locals entries
  | .conditional condition thenBranch elseBranch _ => by
      simp only [phrased, calls, List.map_append]
      exact ((calls_direct locals condition).append (calls_direct locals thenBranch)).append
        (calls_direct locals elseBranch)

theorem callsOfAll_direct (locals : List String) : ∀ exprs : List Expr,
    (signatures (callsOfAll locals (phrasedAll .direct exprs))).Perm
      (signatures (callsOfAll locals exprs))
  | [] => .refl _
  | expr :: rest => by
      simp only [phrasedAll, callsOfAll, List.map_append]
      exact (calls_direct locals expr).append (callsOfAll_direct locals rest)

theorem callsOfEntries_direct (locals : List String) : ∀ entries : List (String × Expr),
    (signatures (callsOfEntries locals (phrasedEntries .direct entries))).Perm
      (signatures (callsOfEntries locals entries))
  | [] => .refl _
  | (_, expr) :: rest => by
      simp only [phrasedEntries, callsOfEntries, List.map_append]
      exact (calls_direct locals expr).append (callsOfEntries_direct locals rest)

end

end Expr
end ClauseFlow
