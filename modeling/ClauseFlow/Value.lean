import ClauseFlow.Expr

/-!
# Values

The values that expressions denote. A closure keeps the bindings around it; a function is known by
its name and by the program it belongs to. What cannot be told apart by its looks, such as two
closures made by one text, is told apart by a mark.
-/

namespace ClauseFlow

/-- One particular evaluation. Sessions are told apart by a number, and so are the evaluations that
a session marks. -/
structure Mark where
  home : Nat
  stamp : Nat
  deriving DecidableEq, Repr

/-- Where a closure was made: by an expression of a session, or by one particular evaluation inside
a call. -/
inductive Origin where
  | session (home : Nat)
  | call (mark : Mark)
  deriving DecidableEq, Repr

inductive Value where
  | nil
  | boolean (value : Bool)
  | integer (value : Int)
  | decimal (value : Binary64)
  /-- What an operation on decimal numbers comes to when it has no outcome, such as the difference
  of two infinities. It equals nothing; as a key it is found again as the very one that it is. -/
  | undefined (mark : Mark)
  | text (value : String)
  | atom (name : String)
  | result (tag : ResultTag) (inner : Value)
  | tuple (elements : List Value)
  | list (elements : List Value)
  | map (entries : List (Value × Value))
  | record (tag : String) (entries : List (Value × Value))
  /-- A record tag by itself. -/
  | recordType (name : String)
  /-- A lambda with the frames of bindings around it, innermost first, below which it sees the first
  `level` frames of the session. -/
  | closure (params : List String) (body : Expr) (frames : List (List (String × Value)))
      (level : Nat) (origin : Origin)
  /-- A declared or builtin function by name, with the number of the program it is called in. -/
  | function (name : String) (home : Nat)

namespace Value

instance : Inhabited Value := ⟨.nil⟩

/-- Bindings of names to values. -/
abbrev Frame := List (String × Value)

/-- The entries of a map or a record, in the order in which the keys were first put. -/
abbrev Entries := List (Value × Value)

/-- The atom that stands for a success without a payload. -/
def okAtom : String := "ok"

def isOkAtom : Value → Bool
  | atom name => name = okAtom
  | _ => false

/-- Whether a value is a result with a payload. -/
def isResult : Value → Bool
  | result .. => true
  | _ => false

/-- Conditions hold of everything but `nil` and `false`. -/
def isTruthy : Value → Bool
  | nil => false
  | boolean value => value
  | _ => true

def isNumber : Value → Bool
  | integer _ | decimal _ | undefined _ => true
  | _ => false

def isCallable : Value → Bool
  | closure .. | function .. => true
  | _ => false

/-- The value that a constant denotes. -/
def ofLiteral : Literal → Value
  | .nil => nil
  | .boolean value => boolean value
  | .integer value => integer value
  | .decimal value => decimal value
  | .text value => text value
  | .atom name => atom name

end Value
end ClauseFlow
