import ClauseFlow.Eval.Expr

/-!
# Calling functions

A call of a declared function tries its clauses in order and runs the body of the first one whose
patterns fit the arguments and whose guard holds. A call of a closure runs its body with the
arguments bound to its parameters. Each call uses up one level of depth.
-/

namespace ClauseFlow.Eval

/-- Whether a guard has come out true. An error in a guard only fails its own clause, except that an
error of dispatch goes on, and that an unwrapping clause goes ahead on an unbound name: the clause
it delegates to decides. The stamps that a guard uses up are used again, since no guard lets a value
out. -/
def verdict (kind : ClauseKind) (guard : Run Value) : Run Bool :=
  fun stamp =>
    match guard stamp with
    | .ok (.boolean true, _) => .ok (true, stamp)
    | .ok _ => .ok (false, stamp)
    | .error (.error (.unboundName ..)) => .ok (kind = .okUnwrap, stamp)
    | .error (.error (.noClause signature arguments)) =>
        .error (.error (.noClause signature arguments))
    | .error (.error _) => .ok (false, stamp)
    | .error other => .error other

/-- The environment of a clause whose patterns have bound names. -/
def clauseEnvironment (bindings : Bindings) : Environment :=
  ⟨[bindings], 0⟩

/-- Whether the guard of a clause holds; a clause without one always does. -/
def guardHolds (calls : Calls) (setting : Setting) (clause : Clause) (bindings : Bindings) :
    Run Bool :=
  match clause.guard? with
  | none => return true
  | some guard => verdict clause.kind (evaluate calls setting (clauseEnvironment bindings) guard)

/-- Tries the clauses of a function in order. -/
def tryClauses (calls : Calls) (setting : Setting) (signature : Signature)
    (arguments : List Value) : List Clause → Run Value
  | [] => Run.raise (.noClause signature arguments)
  | clause :: rest =>
      match Pattern.fitParams clause.params arguments with
      | none => tryClauses calls setting signature arguments rest
      | some bindings => do
          if ← guardHolds calls setting clause bindings then
            evaluate calls setting (clauseEnvironment bindings) clause.body
          else tryClauses calls setting signature arguments rest

/-- A call of a declared function. -/
def dispatchClauses (calls : Calls) (setting : Setting) (name : String)
    (arguments : List Value) : Run Value :=
  let signature : Signature := ⟨name, arguments.length⟩
  if setting.program.declares signature then
    tryClauses calls setting signature arguments (setting.program.clausesOf signature)
  else Run.raise (.undefinedFunction signature none)

/-- A call of a function value. Of parameters with one name the last one counts. -/
def enter (calls : Calls) (setting : Setting) (span? : Option Span) (callee : Value)
    (arguments : List Value) : Run Value :=
  match callee with
  | .closure params body frames level _ =>
      if params.length = arguments.length then
        evaluate calls setting ⟨(params.zip arguments).reverse :: frames, level⟩ body
      else Run.raise (.argumentCount params.length arguments.length body.span)
  | .function name _ => callGlobal calls setting name arguments none
  | other => Run.raise (.notCallable other span?)

mutual

/-- A call of a declared function with at most `depth` calls inside each other. -/
def dispatchWithin (setting : Setting) : (depth : Nat) → String → List Value → Run Value
  | 0, _, _ => throw .tooDeep
  | depth + 1, name, arguments =>
      dispatchClauses ⟨dispatchWithin setting depth, invokeWithin setting depth⟩ setting name
        arguments

/-- A call of a function value with at most `depth` calls inside each other. -/
def invokeWithin (setting : Setting) :
    (depth : Nat) → Option Span → Value → List Value → Run Value
  | 0, _, _, _ => throw .tooDeep
  | depth + 1, span?, callee, arguments =>
      enter ⟨dispatchWithin setting depth, invokeWithin setting depth⟩ setting span? callee
        arguments

end

/-- Calls with at most `depth` of them inside each other. -/
def callsWithin (setting : Setting) (depth : Nat) : Calls :=
  ⟨dispatchWithin setting depth, invokeWithin setting depth⟩

end ClauseFlow.Eval
