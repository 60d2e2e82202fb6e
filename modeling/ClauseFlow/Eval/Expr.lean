import ClauseFlow.Eval.Builtin
import ClauseFlow.Pattern.Matching
import ClauseFlow.Program

/-!
# Evaluating expressions

Evaluation is recursion on the expression. Calls leave it: how a declared function is dispatched and
how a function value is called is given from outside.
-/

namespace ClauseFlow

/-- The bindings that an expression sees: frames of its own, innermost first, and below them the
first `level` frames of the session. -/
structure Environment where
  frames : List Value.Frame
  level : Nat

/-- What evaluation takes place in: a program, the frames of a session, outermost first, and the
number by which values made here are told apart from those made elsewhere. -/
structure Setting where
  program : Program
  session : List Value.Frame
  home : Nat

namespace Setting

/-- The innermost binding of a name. -/
def lookup (setting : Setting) (env : Environment) (name : String) : Option Value :=
  (env.frames ++ (setting.session.take env.level).reverse).findSome? fun frame => frame.lookup name

/-- The function value of a name. -/
def function (setting : Setting) (name : String) : Value :=
  .function name setting.home

end Setting

/-- How calls go on: to the clauses of a declared function, or into a function value. -/
structure Calls where
  dispatch : String → List Value → Run Value
  invoke : Builtin.Invoke

namespace Eval

/-- A call of a declared function, or else of a builtin. -/
def callGlobal (calls : Calls) (setting : Setting) (name : String) (arguments : List Value)
    (span? : Option Span) : Run Value :=
  let signature : Signature := ⟨name, arguments.length⟩
  if setting.program.declares signature then calls.dispatch name arguments
  else
    match Program.builtin? signature with
    | some builtin => builtin.call setting.home calls.invoke arguments
    | none => Run.raise (.undefinedFunction signature span?)

/-- A call by name: what is bound to the name, else a declared function, else a builtin. -/
def callNamed (calls : Calls) (setting : Setting) (env : Environment) (name : String)
    (arguments : List Value) (span : Span) : Run Value :=
  match setting.lookup env name with
  | some callee => calls.invoke (some span) callee arguments
  | none => callGlobal calls setting name arguments (some span)

/-- The value of a name: what is bound to it, or the function of that name. -/
def valueOfName (setting : Setting) (env : Environment) (identifier : Identifier) : Run Value :=
  match setting.lookup env identifier.name with
  | some value => return value
  | none =>
      if setting.program.knows identifier.name then return setting.function identifier.name
      else Run.raise (.unboundName identifier.name identifier.span)

/-- Where a closure is made: inside a call each one gets a stamp of its own. -/
def origin (setting : Setting) (env : Environment) : Run Origin :=
  if env.frames.isEmpty then return .session setting.home
  else do return .call (← Run.mark setting.home)

/-- A new closure. -/
def makeClosure (setting : Setting) (env : Environment) (params : List String) (body : Expr) :
    Run Value := do
  return .closure params body env.frames env.level (← origin setting env)

/-! ## Operators -/

/-- The truth value that a connective asks for. -/
def truth (op : String) (value : Value) (span : Span) : Run Bool :=
  match value with
  | .boolean value => return value
  | other => Run.raise (.noBoolean op other span)

/-- The order relation that an operator stands for. -/
def accepts (op : BinaryOp) (order : Ordering) : Bool :=
  match op with
  | .less => order.isLT
  | .greater => order.isGT
  | .lessEqual => order.isLE
  | _ => order.isGE

/-- Numbers are compared with numbers, texts with texts. -/
def compare (op : BinaryOp) (left right : Value) (span : Span) : Run Value :=
  match left, right with
  | .text left, .text right => return .boolean (accepts op (compareOfLessAndEq left right))
  | left, right =>
      match left.number?, right.number? with
      | some first, some second => return .boolean (Value.Number.holds (accepts op) first second)
      | _, _ => Run.raise (.incomparable left op right span)

/-- Addition, subtraction, multiplication, division or remainder. -/
def arithmetic (home : Nat) (op : BinaryOp) (left right : Value) (span : Span) : Run Value :=
  match left.number?, right.number? with
  | some first, some second =>
      let answer (operation : Value.Number → Value.Number → Except Fault Value.Number) :=
        Run.ofExcept (operation first second) >>= Value.Number.toValue home
      match op with
      | .add => answer Value.Number.add
      | .sub => answer Value.Number.sub
      | .mul => answer Value.Number.mul
      | .div => if second.isZero then Run.raise (.divisionByZero span) else answer Value.Number.div
      | _ => if second.isZero then Run.raise (.divisionByZero span) else answer Value.Number.mod
  | _, _ => Run.raise (.noNumbers left op right span)

/-- An operator that evaluates both operands, applied to their values. -/
def binary (home : Nat) (op : BinaryOp) (left right : Value) (span : Span) : Run Value :=
  match op with
  | .equal => return .boolean (Value.equal false left right)
  | .notEqual => return .boolean (!Value.equal false left right)
  | .concat =>
      match left, right with
      | .text first, .text second => return .text (first ++ second)
      | left, right => Run.raise (.noTexts left right span)
  | .less | .greater | .lessEqual | .greaterEqual => compare op left right span
  | _ => arithmetic home op left right span

def unary (home : Nat) (op : UnaryOp) (value : Value) (span : Span) : Run Value :=
  match op with
  | .not => do return .boolean (!(← truth "not" value span))
  | .negate =>
      match value.number? with
      | some number => number.neg.toValue home
      | none => Run.raise (.noNumber value span)

/-- The value of a field of a map or a record. -/
def field (subject : Value) (name : String) (span : Span) : Run Value :=
  match Pattern.entriesOf? subject with
  | some entries =>
      match Value.field? name entries with
      | some value => return value
      | none => Run.raise (.missingField name subject span)
  | none => Run.raise (.noFields name subject span)

/-- A list with further elements in front. -/
def prepend (elements : List Value) (tail : Value) (span : Span) : Run Value :=
  match tail with
  | .list rest => return .list (elements ++ rest)
  | other => Run.raise (.noListTail other span)

/-! ## Expressions -/

mutual

/-- The value of an expression. -/
def evaluate (calls : Calls) (setting : Setting) (env : Environment) : Expr → Run Value
  | .integer value _ => return .integer value
  | .decimal value _ => return .decimal value
  | .text value _ => return .text value
  | .atom name _ => return .atom name
  | .boolean value _ => return .boolean value
  | .nil _ => return .nil
  | .ident identifier => valueOfName setting env identifier
  | .typeName name _ => return .recordType name
  | .binary left op right span => do
      let first ← evaluate calls setting env left
      match op with
      | .and =>
          if ← truth "and" first left.span then
            let second ← evaluate calls setting env right
            return .boolean (← truth "and" second right.span)
          else return .boolean false
      | .or =>
          if ← truth "or" first left.span then return .boolean true
          else
            let second ← evaluate calls setting env right
            return .boolean (← truth "or" second right.span)
      | op =>
          let second ← evaluate calls setting env right
          binary setting.home op first second span
  | .unary op operand span => do
      let value ← evaluate calls setting env operand
      unary setting.home op value span
  | .call callee arguments span => do
      let values ← evaluateAll calls setting env arguments
      callNamed calls setting env callee.name values span
  | .delegate callee arguments _ => do
      let values ← evaluateAll calls setting env arguments
      calls.dispatch callee.name values
  | .field subject name span => do
      let value ← evaluate calls setting env subject
      field value name span
  | .pipe left callee _ => do
      let value ← evaluate calls setting env left
      callNamed calls setting env callee.name [value] callee.span
  | .pipeCall left callee arguments callSpan _ => do
      let value ← evaluate calls setting env left
      let values ← evaluateAll calls setting env arguments
      callNamed calls setting env callee.name (value :: values) callSpan
  | .alternative left right _ => do
      let value ← evaluate calls setting env left
      match value with
      | .result .ok _ => return value
      | .result .error _ => evaluate calls setting env right
      | other =>
          if other.isOkAtom then return other else Run.raise (.noResult other left.span)
  | .result tag value _ => do
      return .result tag (← evaluate calls setting env value)
  | .tuple elements _ => do
      return .tuple (← evaluateAll calls setting env elements)
  | .list elements none _ => do
      return .list (← evaluateAll calls setting env elements)
  | .list elements (some tail) _ => do
      let values ← evaluateAll calls setting env elements
      let rest ← evaluate calls setting env tail
      prepend values rest tail.span
  | .map entries _ => do
      return .map (← evaluateEntries calls setting env entries)
  | .record tag entries _ => do
      return .record tag (← evaluateEntries calls setting env entries)
  | .lambda params body _ => makeClosure setting env params body
  | .conditional condition thenBranch elseBranch _ => do
      let value ← evaluate calls setting env condition
      if value.isTruthy then evaluate calls setting env thenBranch
      else evaluate calls setting env elseBranch

/-- The values of several expressions, from left to right. -/
def evaluateAll (calls : Calls) (setting : Setting) (env : Environment) :
    List Expr → Run (List Value)
  | [] => return []
  | expr :: rest => do
      let value ← evaluate calls setting env expr
      let values ← evaluateAll calls setting env rest
      return value :: values

/-- The entries of a map or a record, from left to right. -/
def evaluateEntries (calls : Calls) (setting : Setting) (env : Environment) :
    List (String × Expr) → Run Value.Entries
  | [] => return []
  | (key, expr) :: rest => do
      let value ← evaluate calls setting env expr
      let entries ← evaluateEntries calls setting env rest
      return (.text key, value) :: entries

end

end Eval
end ClauseFlow
