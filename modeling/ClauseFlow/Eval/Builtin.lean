import ClauseFlow.Value.Arithmetic

/-!
# What the builtins do

A builtin checks its arguments and answers. Only `handle_error` calls back, through `invoke`. The
number of the session goes into the marks of undefined numbers.
-/

namespace ClauseFlow.Builtin

/-- How a function value is called, given the place of the call. -/
abbrev Invoke := Option Span → Value → List Value → Run Value

/-- Raises the error that a builtin got a wrong argument. -/
def refuse {α : Type} (builtin : Builtin) (value : Value) : Run α :=
  Run.raise (.badArgument builtin value)

/-! ## Checked arguments -/

def number (builtin : Builtin) (value : Value) : Run Value.Number :=
  match value.number? with
  | some number => return number
  | none => refuse builtin value

/-- Whether the first of two numbers stands in some order to the second; if one of the values is no
number, both are shown. -/
def ordered (builtin : Builtin) (accepts : Ordering → Bool) (first second : Value) : Run Bool :=
  match first.number?, second.number? with
  | some left, some right => return left.holds accepts right
  | _, _ => refuse builtin (.tuple [first, second])

def integer (builtin : Builtin) : Value → Run Int
  | .integer value => return value
  | other => refuse builtin other

/-- Two integers, the second one not zero. -/
def dividend (builtin : Builtin) (first second : Value) : Run (Int × Int) := do
  let first ← builtin.integer first
  let second ← builtin.integer second
  if second = 0 then Run.raise (.builtinDivisionByZero builtin) else return (first, second)

/-- The entries of a map or a record. -/
def entries (builtin : Builtin) (value : Value) : Run Value.Entries :=
  match value with
  | .map entries | .record _ entries => return entries
  | other => refuse builtin other

def key (value : Value) : Run Value :=
  if value.isKey then return value else Run.fault .unusableKey

/-- A map or a record with other entries. -/
def withEntries (value : Value) (entries : Value.Entries) : Value :=
  match value with
  | .record tag _ => .record tag entries
  | _ => .map entries

/-- The text of a value, which may have too many digits. -/
def shown (value : Value) : Run Value :=
  match value.print? with
  | some text => return .text text
  | none => Run.fault .digitLimit

/-- The tag that a value names: a record type or anything that equals the tag as a text. -/
def tagName? : Value → Option String
  | .recordType name | .text name => some name
  | _ => none

/-! ## Predicates -/

/-- The answer of a builtin that asks for a type. -/
def predicate? (builtin : Builtin) (value : Value) : Option Bool :=
  match builtin, value with
  | isInteger, .integer _ | isFloat, .decimal _ | isFloat, .undefined _ | isString, .text _
  | isBoolean, .boolean _ | isNil, .nil | isList, .list _ | isTuple, .tuple _
  | isRecord, .record .. => some true
  | isNumber, value => some value.isNumber
  | isAtom, .atom _ | isAtom, .nil | isAtom, .boolean _ => some true
  | isMap, .map _ | isMap, .record .. => some true
  | isFunction, value => some value.isCallable
  | isOk, .result .ok _ => some true
  | isOk, value => some value.isOkAtom
  | isError, .result .error _ => some true
  | isInteger, _ | isFloat, _ | isString, _ | isAtom, _ | isBoolean, _ | isNil, _ | isList, _
  | isTuple, _ | isMap, _ | isRecord, _ | isError, _ => some false
  | _, _ => none

/-! ## Calls -/

/-- What `length` counts. -/
def size? : Value → Option Nat
  | .list elements | .tuple elements => some elements.length
  | .text value => some value.length
  | .map entries => some entries.length
  | _ => none

/-- Hands a success through, or calls a handler with the payload of an error. -/
def handle (invoke : Invoke) (result handler : Value) : Run Value :=
  if !handler.isCallable then refuse handleError handler
  else
    match result with
    | .result .ok _ => return result
    | .result .error payload => invoke none handler [payload]
    | other =>
        if other.isOkAtom then return other else Run.raise (.noResultToHandle other)

/-- The answer of a builtin called in a session. If one of two numbers is undefined, `min` and `max`
give the second. -/
def call (home : Nat) (invoke : Invoke) (builtin : Builtin) (arguments : List Value) : Run Value :=
  match builtin, arguments with
  | length, [value] =>
      match size? value with
      | some size => return .integer size
      | none => refuse length value
  | head, [.list (first :: _)] => return first
  | head, [value] => refuse head value
  | tail, [.list (_ :: rest)] => return .list rest
  | tail, [value] => refuse tail value
  | element, [.tuple elements, .integer index] =>
      match if 0 ≤ index then elements[index.toNat]? else none with
      | some found => return found
      | none => refuse element (.integer index)
  | element, [.tuple _, index] => refuse element index
  | element, [value, _] => refuse element value
  | abs, [value] => do (← abs.number value).abs.toValue home
  | min, [first, second] => do
      return if ← min.ordered Ordering.isLE first second then first else second
  | max, [first, second] => do
      return if ← max.ordered Ordering.isGE first second then first else second
  | div, [first, second] => do
      let (first, second) ← div.dividend first second
      return .integer (first.tdiv second)
  | rem, [first, second] => do
      let (first, second) ← rem.dividend first second
      return .integer (first.tmod second)
  | round, [value] => do
      let number ← round.number value
      return .integer (← Run.ofExcept number.round)
  | toText, [.text value] => return .text value
  | toText, [.atom name] => return .text name
  | toText, [value] => shown value
  | inspect, [value] => shown value
  | mapGet, value :: asked :: default => do
      if 1 < default.length then Run.raise (.builtinArity mapGet arguments.length)
      let entries ← mapGet.entries value
      let asked ← key asked
      match Value.find? asked entries, default with
      | some found, _ => return found
      | none, given :: _ => return given
      | none, [] => Run.raise (.missingKey asked value)
  | put, [value, changed, item] => do
      let entries ← put.entries value
      let changed ← key changed
      return withEntries value (Value.insert changed item entries)
  | merge, [left, right] => do
      let entries ← merge.entries left
      let added ← merge.entries right
      return withEntries left (Value.insertAll entries added)
  | handleError, [result, handler] => handle invoke result handler
  | fromMaybe, [.nil, reason] => return .result .error reason
  | fromMaybe, [value, _] => return .result .ok value
  | assertType, [tag, value, reason] =>
      match value with
      | .record name _ =>
          if tagName? tag = some name then return .result .ok value
          else return .result .error reason
      | _ => return .result .error reason
  | error, [reason] => return .result .error reason
  | error, reason :: detail :: details =>
      if 3 < details.length then Run.raise (.builtinArity error arguments.length)
      else return .result .error (.tuple (reason :: detail :: details))
  | builtin, [value] =>
      match builtin.predicate? value with
      | some answer => return .boolean answer
      | none => Run.raise (.builtinArity builtin 1)
  | builtin, arguments => Run.raise (.builtinArity builtin arguments.length)

end ClauseFlow.Builtin
