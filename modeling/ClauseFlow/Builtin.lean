import ClauseFlow.Number.Numeral

/-!
# Builtin functions

The functions that every program can call, and how many arguments each of them takes.
-/

namespace ClauseFlow

inductive Builtin where
  | isInteger
  | isFloat
  | isNumber
  | isString
  | isAtom
  | isBoolean
  | isNil
  | isList
  | isTuple
  | isMap
  | isRecord
  | isFunction
  | isOk
  | isError
  | length
  | head
  | tail
  | element
  | abs
  | min
  | max
  | div
  | rem
  | round
  | toText
  | inspect
  | mapGet
  | put
  | merge
  | handleError
  | fromMaybe
  | assertType
  | error
  deriving DecidableEq, Repr

namespace Builtin

def name : Builtin → String
  | isInteger => "is_integer"
  | isFloat => "is_float"
  | isNumber => "is_number"
  | isString => "is_string"
  | isAtom => "is_atom"
  | isBoolean => "is_boolean"
  | isNil => "is_nil"
  | isList => "is_list"
  | isTuple => "is_tuple"
  | isMap => "is_map"
  | isRecord => "is_record"
  | isFunction => "is_function"
  | isOk => "is_ok"
  | isError => "is_error"
  | length => "length"
  | head => "hd"
  | tail => "tl"
  | element => "elem"
  | abs => "abs"
  | min => "min"
  | max => "max"
  | div => "div"
  | rem => "rem"
  | round => "round"
  | toText => "to_string"
  | inspect => "inspect"
  | mapGet => "map_get"
  | put => "put"
  | merge => "merge"
  | handleError => "handle_error"
  | fromMaybe => "from_maybe"
  | assertType => "assert_type"
  | error => "error"

/-- All builtins. -/
def all : List Builtin :=
  [isInteger, isFloat, isNumber, isString, isAtom, isBoolean, isNil, isList, isTuple, isMap,
    isRecord, isFunction, isOk, isError, length, head, tail, element, abs, min, max, div, rem,
    round, toText, inspect, mapGet, put, merge, handleError, fromMaybe, assertType, error]

/-- The least number of arguments. -/
def minArity : Builtin → Nat
  | element | min | max | div | rem | mapGet | merge | handleError | fromMaybe => 2
  | put | assertType => 3
  | _ => 1

/-- The greatest number of arguments. -/
def maxArity : Builtin → Nat
  | mapGet => 3
  | error => 5
  | other => other.minArity

def accepts (builtin : Builtin) (arity : Nat) : Bool :=
  builtin.minArity ≤ arity && arity ≤ builtin.maxArity

/-- The number of arguments in messages. -/
def arityText (builtin : Builtin) : String :=
  if builtin.minArity = builtin.maxArity then Numeral.natText builtin.minArity
  else Numeral.natText builtin.minArity ++ " to " ++ Numeral.natText builtin.maxArity

/-- The builtin of a name. -/
def ofName? (name : String) : Option Builtin :=
  all.find? fun builtin => builtin.name = name

/-- Every builtin is found by its name. -/
theorem ofName?_name (builtin : Builtin) : ofName? builtin.name = some builtin := by
  cases builtin <;> decide

end Builtin
end ClauseFlow
