import ClauseFlow.Eval.Dispatch

/-!
# Sessions

A session evaluates expressions one after the other against one program. It binds names in frames;
closures made by the expressions of a session see what is bound there later on.
-/

namespace ClauseFlow

/-- A program, the frames of bindings, outermost first, the number of the session, and the next
stamp. -/
structure Session where
  program : Program
  frames : List Value.Frame
  home : Nat
  stamp : Nat

namespace Session

/-- How many calls may be inside each other. -/
def maxDepth : Nat := 10000

/-- A session with an empty frame. -/
def start (program : Program) (home : Nat) : Session :=
  ⟨program, [[]], home, 0⟩

def setting (session : Session) : Setting :=
  ⟨session.program, session.frames, session.home⟩

/-- Runs a step; after a failure the session is as it was. -/
def run {α : Type} (session : Session) (step : Calls → Setting → Run α) :
    Except Interrupt α × Session :=
  match step (Eval.callsWithin session.setting maxDepth) session.setting session.stamp with
  | .ok (value, stamp) => (.ok value, { session with stamp })
  | .error interrupt => (.error interrupt, session)

/-- Evaluates an expression in the innermost frame. -/
def evaluate (session : Session) (expr : Expr) : Except Interrupt Value × Session :=
  session.run fun calls setting => Eval.evaluate calls setting ⟨[], session.frames.length⟩ expr

/-- Calls a declared function or a builtin. -/
def call (session : Session) (name : String) (arguments : List Value) :
    Except Interrupt Value × Session :=
  session.run fun calls setting => Eval.callGlobal calls setting name arguments none

/-- Calls a declared function. -/
def dispatch (session : Session) (name : String) (arguments : List Value) :
    Except Interrupt Value × Session :=
  session.run fun calls _ => calls.dispatch name arguments

/-- Calls a builtin with any number of arguments. -/
def callBuiltin (session : Session) (builtin : Builtin) (arguments : List Value) :
    Except Interrupt Value × Session :=
  session.run fun calls setting => builtin.call setting.home calls.invoke arguments

/-- The function value of a name. -/
def function (session : Session) (name : String) : Except Interrupt Value × Session :=
  session.run fun _ setting =>
    if setting.program.knows name then return setting.function name
    else Run.raise (.undefinedFunction ⟨name, 0⟩ none)

/-- Binds a name in a frame, in place of what it was bound to. -/
def bindIn (name : String) (value : Value) : List Value.Frame → List Value.Frame
  | [] => [[(name, value)]]
  | [innermost] => [(name, value) :: innermost]
  | frame :: rest => frame :: bindIn name value rest

/-- Binds a name in the innermost frame. -/
def bind (session : Session) (name : String) (value : Value) : Session :=
  { session with frames := bindIn name value session.frames }

/-- Opens an empty frame inside the others. -/
def nest (session : Session) : Session :=
  { session with frames := session.frames ++ [[]] }

end Session
end ClauseFlow
