import ClauseFlow.Builtin
import ClauseFlow.Clause.Ordering
import ClauseFlow.Clause.Synthesis
import ClauseFlow.Diagnostic
import ClauseFlow.SymbolTable
import ClauseFlow.Text.Lines

/-!
# Checking modules

The checker works on one symbol table. First it records the functions that a module declares. Then it
goes through the declarations: for each of them it opens a scope, defines the names that the patterns
bind, looks up the names that guard and body use, marking what it finds as used, reports the symbols
of the scope that are not marked, and leaves the scope. At last it looks for declarations that repeat
an earlier one.
-/

namespace ClauseFlow

/-- What the checker reports. -/
inductive Finding where
  | undefinedFunction (signature : Signature) (declared : List Signature) (span : Span)
  | undefinedVariable (name : String) (span : Span)
  | unusedBinding (name : String) (span : Span)
  | unboundInGuard (name : String) (span : Span)
  | repeatedDeclaration (signature : Signature) (span : Span)
  | anonymousReference (name : String) (span : Span)
  deriving DecidableEq, Repr

namespace Finding

def severity : Finding → Severity
  | undefinedFunction .. | undefinedVariable .. => .error
  | _ => .warning

def code : Finding → String
  | undefinedFunction .. => "E300"
  | undefinedVariable .. => "E301"
  | unusedBinding .. => "W300"
  | unboundInGuard .. => "W310"
  | repeatedDeclaration .. => "W320"
  | anonymousReference .. => "W330"

def message : Finding → String
  | undefinedFunction signature _ _ => "undefined function '" ++ signature.text ++ "'"
  | undefinedVariable name _ => "undefined variable '" ++ name ++ "'"
  | unusedBinding name _ => "unused binding '" ++ name ++ "'"
  | unboundInGuard name _ => "guard references '" ++ name ++ "', which no pattern binds"
  | repeatedDeclaration signature _ =>
      "declaration of " ++ signature.text ++ " repeats an earlier one and is dropped"
  | anonymousReference name _ => "anonymous binding '" ++ name ++ "' is referenced"

def span : Finding → Span
  | undefinedFunction _ _ span | undefinedVariable _ span | unusedBinding _ span
  | unboundInGuard _ span | repeatedDeclaration _ span | anonymousReference _ span => span

def notes : Finding → List String
  | undefinedFunction _ declared _ =>
      if declared.isEmpty then []
      else ["declared as " ++ Text.join ", " (declared.map Signature.text)]
  | unusedBinding name _ => ["prefix it with '_' to silence: '_" ++ name ++ "'"]
  | repeatedDeclaration .. => ["an earlier clause with the same patterns and guard always wins"]
  | anonymousReference .. => ["names starting with '_' match anything but bind nothing"]
  | undefinedVariable .. | unboundInGuard .. => []

def diagnostic (finding : Finding) : Diagnostic :=
  .atSpan finding.severity finding.code finding.message finding.span finding.notes

def isError (finding : Finding) : Bool :=
  finding.severity = .error

end Finding

/-- What is reported of a symbol at the end of its scope. -/
def Symbol.unusedFinding? (symbol : Symbol) : Option Finding :=
  if symbol.used || symbol.isAnonymous then none
  else some (.unusedBinding symbol.name symbol.span)

namespace Checker

/-- A checker at work: its symbol table, and what it has found so far. -/
structure State where
  symbols : SymbolTable
  findings : List Finding

namespace State

def report (state : State) (finding : Finding) : State :=
  { state with findings := state.findings ++ [finding] }

/-- The state after a use of the innermost symbol of a name. -/
def use (state : State) (name : String) : State :=
  { state with symbols := state.symbols.markUsed name }

/-- Opens a scope for a declaration. -/
def enter (state : State) (declaration : Declaration) : State :=
  { state with symbols := state.symbols.push declaration.signature.text }

/-- Defines the symbol of a binding. A repeated name asks for equal values, which uses it. -/
def bind (state : State) (binding : Identifier) : State :=
  match state.symbols.define ⟨binding.name, .binding, binding.span, false⟩ with
  | (some existing, symbols) => { state with symbols := symbols.markUsed existing.name }
  | (none, symbols) => { state with symbols }

/-- Reports the symbols of the current scope that nothing uses. -/
def reportUnused (state : State) : State :=
  { state with
    findings := state.findings ++ state.symbols.current.symbols.filterMap Symbol.unusedFinding? }

/-- Leaves the current scope, which must not be that of the module. -/
def leave? (state : State) : Option State :=
  state.symbols.pop?.map fun (_, symbols) => { state with symbols }

end State

/-- The functions that declarations declare. -/
def functionTable (declarations : List Declaration) : SymbolTable :=
  declarations.foldl (fun table declaration =>
    table.defineFunction declaration.signature declaration.span) .empty

/-- Whether a name is that of a function, of whatever number of arguments. -/
def isFunctionName (table : SymbolTable) (name : String) : Bool :=
  table.functions.any (fun entry => entry.1.name = name) || (Builtin.ofName? name).isSome

/-- Whether a call finds a function. -/
def resolves (table : SymbolTable) (signature : Signature) : Bool :=
  table.declares signature ||
    match Builtin.ofName? signature.name with
    | some builtin => builtin.accepts signature.arity
    | none => false

/-- Checks a name used as a value. -/
def checkReference (inGuard : Bool) (state : State) (reference : Identifier) : State :=
  let name := reference.name
  match state.symbols.lookup name with
  | some symbol =>
      if symbol.isAnonymous then
        (state.use name).report (.anonymousReference name reference.span)
      else state.use name
  | none =>
      if isFunctionName state.symbols name then state
      else if inGuard then state.report (.unboundInGuard name reference.span)
      else state.report (.undefinedVariable name reference.span)

/-- Checks a call. -/
def checkCall (state : State) (call : NamedCall) : State :=
  let name := call.signature.name
  match state.symbols.lookup name with
  | some _ => state.use name
  | none =>
      if resolves state.symbols call.signature then state
      else
        let declared := (state.symbols.arities name).map fun arity => ⟨name, arity⟩
        state.report (.undefinedFunction call.signature declared call.span)

/-- Checks a guard or a body: first the names used as values, then the calls. -/
def checkExpr (inGuard : Bool) (state : State) (expr : Expr) : State :=
  (expr.calls []).foldl checkCall ((expr.references []).foldl (checkReference inGuard) state)

/-- Checks one declaration in a scope of its own. -/
def checkDeclaration (state : State) (declaration : Declaration) : Option State :=
  let bound := (Pattern.bindingsOfAll declaration.params).foldl State.bind (state.enter declaration)
  let guarded :=
    match declaration.guard? with
    | some guard => checkExpr true bound guard
    | none => bound
  (checkExpr false guarded declaration.body).reportUnused.leave?

/-- The declarations as clauses, numbered from `order` on. -/
def defaultClauses (order : Nat) : List Declaration → List Clause
  | [] => []
  | declaration :: rest => declaration.defaultClause order :: defaultClauses (order + 1) rest

/-- The findings about declarations that repeat an earlier one. -/
def checkRepeated (declarations : List Declaration) : List Finding :=
  (Clause.repeatedShape (defaultClauses 0 declarations)).map fun clause =>
    .repeatedDeclaration clause.signature clause.head.span

/-- The state of a checker after a module, unless it would have to leave the scope of the module. -/
def run (module : Module) : Option State := do
  let checked ← module.declarations.foldlM checkDeclaration ⟨functionTable module.declarations, []⟩
  return { checked with findings := checked.findings ++ checkRepeated module.declarations }

/-- All findings about a module. -/
def check (module : Module) : List Finding :=
  ((run module).map State.findings).getD []

end Checker
end ClauseFlow
