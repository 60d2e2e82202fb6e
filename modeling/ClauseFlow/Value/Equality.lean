import ClauseFlow.Value

/-!
# Equality of values

Values are equal if they have the same structure. Booleans never equal numbers. Strictly, an integer
never equals a decimal number either; loosely, the two are compared by their exact value. Two
functions are equal if they have one name in one program, two closures if the same text made them in
the same place.

The keys of a map are told apart more coarsely: there, truth values count as the numbers one and
zero. An undefined number equals nothing, but it is the same key as itself.
-/

namespace ClauseFlow.Value

/-- A number on the extended line of integers and floating point numbers. -/
inductive Number where
  | integer (value : Int)
  | decimal (value : Binary64)

namespace Number

/-- Exact comparison; none if one of them is no number at all. -/
def compare? : Number → Number → Option Ordering
  | .integer first, .integer second => some (compare first second)
  | .integer first, .decimal second => (second.compareInt? first).map Ordering.swap
  | .decimal first, .integer second => first.compareInt? second
  | .decimal first, .decimal second => first.compare? second

def equal (first second : Number) : Bool :=
  compare? first second = some .eq

end Number

/-- The number that a value is. -/
def number? : Value → Option Number
  | .integer value => some (.integer value)
  | .decimal value => some (.decimal value)
  | .undefined _ => some (.decimal .nan)
  | _ => none

/-! ## Keys -/

/-- The number that a value counts as when it is a key. -/
def keyNumber? : Value → Option Number
  | .boolean value => some (.integer (if value then 1 else 0))
  | value => value.number?

mutual

/-- Whether two values are the same key. -/
def sameKey : Value → Value → Bool
  | .nil, .nil => true
  | .undefined mark, .undefined mark' => mark = mark'
  | .text value, .text value' => value = value'
  | .atom name, .atom name' => name = name'
  | .result tag inner, .result tag' inner' => tag = tag' && sameKey inner inner'
  | .tuple elements, .tuple elements' => sameKeys elements elements'
  | .recordType name, .recordType name' => name = name'
  | .function name home, .function name' home' => name = name' && home = home'
  | first, second =>
      match keyNumber? first, keyNumber? second with
      | some number, some number' => number.equal number'
      | _, _ => false

def sameKeys : List Value → List Value → Bool
  | [], [] => true
  | first :: rest, first' :: rest' => sameKey first first' && sameKeys rest rest'
  | _, _ => false

end

mutual

/-- Whether a value can be a key: no list, map, record or closure is in it. -/
def isKey : Value → Bool
  | .list _ | .map _ | .record .. | .closure .. => false
  | .result _ inner => isKey inner
  | .tuple elements => allKeys elements
  | .nil | .boolean _ | .integer _ | .decimal _ | .undefined _ | .text _ | .atom _
  | .recordType _ | .function .. => true

def allKeys : List Value → Bool
  | [] => true
  | value :: rest => isKey value && allKeys rest

end

/-- What a key is mapped to. -/
def find? (key : Value) : Entries → Option Value
  | [] => none
  | (known, value) :: rest => if sameKey known key then some value else find? key rest

/-- What a name is mapped to. -/
def field? (name : String) (entries : Entries) : Option Value :=
  find? (.text name) entries

/-- Maps a key to a value. A key that is there already keeps its spelling and its place. -/
def insert (key value : Value) : Entries → Entries
  | [] => [(key, value)]
  | (known, old) :: rest =>
      if sameKey known key then (known, value) :: rest else (known, old) :: insert key value rest

/-- Entries to which other entries are added, in order. -/
def insertAll (entries : Entries) (added : Entries) : Entries :=
  added.foldl (fun result entry => insert entry.1 entry.2 result) entries

/-! ## Equality -/

mutual

/-- Whether two values are equal, strictly or loosely. -/
def equal (strict : Bool) : Value → Value → Bool
  | .nil, .nil => true
  | .boolean value, .boolean value' => value = value'
  | .text value, .text value' => value = value'
  | .atom name, .atom name' => name = name'
  | .integer value, .integer value' => value = value'
  | .integer value, .decimal value' =>
      !strict && Number.equal (.integer value) (.decimal value')
  | .decimal value, .integer value' =>
      !strict && Number.equal (.decimal value) (.integer value')
  | .decimal value, .decimal value' => Number.equal (.decimal value) (.decimal value')
  | .result tag inner, .result tag' inner' => tag = tag' && equal strict inner inner'
  | .tuple elements, .tuple elements' => equalAll strict elements elements'
  | .list elements, .list elements' => equalAll strict elements elements'
  | .map entries, .map entries' =>
      entries.length = entries'.length && equalEntries strict entries entries'
  | .record tag entries, .record tag' entries' =>
      tag = tag' && entries.length = entries'.length && equalEntries strict entries entries'
  | .recordType name, .recordType name' => name = name'
  | .closure params body _ level origin, .closure params' body' _ level' origin' =>
      params = params' && body = body' && level = level' && origin = origin'
  | .function name home, .function name' home' => name = name' && home = home'
  | _, _ => false

def equalAll (strict : Bool) : List Value → List Value → Bool
  | [], [] => true
  | first :: rest, first' :: rest' => equal strict first first' && equalAll strict rest rest'
  | _, _ => false

/-- Whether each entry has a counterpart with the same key and an equal value. -/
def equalEntries (strict : Bool) : List (Value × Value) → List (Value × Value) → Bool
  | [], _ => true
  | (key, value) :: rest, entries =>
      (match find? key entries with
        | some other => equal strict value other
        | none => false) &&
        equalEntries strict rest entries

end

/-- Whether a value is the one that a constant in a pattern asks for: of the same type and equal. -/
def fitsLiteral (constant : Literal) (value : Value) : Bool :=
  equal true (ofLiteral constant) value

end ClauseFlow.Value
