import ClauseFlow.Pattern
import ClauseFlow.Signature

/-!
# Symbol tables

A symbol table keeps the names that are bound, scope within scope, and the functions that are
declared, with the places of their declarations.
-/

namespace ClauseFlow

inductive SymbolKind where
  | binding
  | lambdaParam
  deriving DecidableEq, Repr

/-- A bound name, and whether anything uses it. -/
structure Symbol where
  name : String
  kind : SymbolKind
  span : Span
  used : Bool
  deriving DecidableEq, Repr

def Symbol.isAnonymous (symbol : Symbol) : Bool :=
  ClauseFlow.isAnonymous symbol.name

/-- One scope: its name and its symbols in the order of their definition. -/
structure SymbolScope where
  name : String
  symbols : List Symbol

namespace SymbolScope

def find? (scope : SymbolScope) (name : String) : Option Symbol :=
  scope.symbols.find? fun symbol => symbol.name = name

/-- Marks the symbol of a name as used. -/
def markUsed (scope : SymbolScope) (name : String) : SymbolScope :=
  { scope with
    symbols := scope.symbols.map fun symbol =>
      if symbol.name = name then { symbol with used := true } else symbol }

end SymbolScope

/-- Scopes inside the scope of the module, innermost first, and the declared functions in the order
of their first declaration. -/
structure SymbolTable where
  inner : List SymbolScope
  outermost : SymbolScope
  functions : List (Signature × List Span)

namespace SymbolTable

def empty : SymbolTable :=
  ⟨[], ⟨"module", []⟩, []⟩

/-- The scope in which definitions are made. -/
def current (table : SymbolTable) : SymbolScope :=
  table.inner.headD table.outermost

/-- All scopes, innermost first. -/
def scopes (table : SymbolTable) : List SymbolScope :=
  table.inner ++ [table.outermost]

/-- The table with another current scope. -/
def withCurrent (table : SymbolTable) (scope : SymbolScope) : SymbolTable :=
  match table.inner with
  | [] => { table with outermost := scope }
  | _ :: rest => { table with inner := scope :: rest }

def push (table : SymbolTable) (name : String) : SymbolTable :=
  { table with inner := ⟨name, []⟩ :: table.inner }

/-- Leaves the current scope, which must not be that of the module. -/
def pop? (table : SymbolTable) : Option (SymbolScope × SymbolTable) :=
  match table.inner with
  | [] => none
  | scope :: rest => some (scope, { table with inner := rest })

/-- Defines a symbol in the current scope, unless its name is defined there; answers the symbol that
is in the way. -/
def define (table : SymbolTable) (symbol : Symbol) : Option Symbol × SymbolTable :=
  match table.current.find? symbol.name with
  | some existing => (some existing, table)
  | none =>
      (none, table.withCurrent
        { table.current with symbols := table.current.symbols ++ [symbol] })

/-- The innermost symbol of a name. -/
def lookup (table : SymbolTable) (name : String) : Option Symbol :=
  table.scopes.findSome? fun scope => scope.find? name

/-- Marks the symbol of a name as used in the first scope that has one. -/
def markUsedIn (name : String) : List SymbolScope → List SymbolScope
  | [] => []
  | scope :: rest =>
      if (scope.find? name).isSome then scope.markUsed name :: rest
      else scope :: markUsedIn name rest

/-- Marks the innermost symbol of a name as used. -/
def markUsed (table : SymbolTable) (name : String) : SymbolTable :=
  if table.inner.any fun scope => (scope.find? name).isSome then
    { table with inner := markUsedIn name table.inner }
  else { table with outermost := table.outermost.markUsed name }

/-! ## Functions -/

/-- Adds a place to the declarations of a function. -/
def addDeclaration (signature : Signature) (span : Span) :
    List (Signature × List Span) → List (Signature × List Span)
  | [] => [(signature, [span])]
  | (known, spans) :: rest =>
      if known = signature then (known, spans ++ [span]) :: rest
      else (known, spans) :: addDeclaration signature span rest

/-- Records a declaration of a function. -/
def defineFunction (table : SymbolTable) (signature : Signature) (span : Span) : SymbolTable :=
  { table with functions := addDeclaration signature span table.functions }

/-- Whether a function is declared. -/
def declares (table : SymbolTable) (signature : Signature) : Bool :=
  table.functions.any fun entry => entry.1 = signature

/-- The numbers of arguments with which a name is declared, in ascending order. -/
def arities (table : SymbolTable) (name : String) : List Nat :=
  ((table.functions.filter fun entry => entry.1.name = name).map fun entry =>
    entry.1.arity).mergeSort

end SymbolTable
end ClauseFlow
