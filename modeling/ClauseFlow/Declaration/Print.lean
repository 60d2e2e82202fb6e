import ClauseFlow.Declaration
import ClauseFlow.Expr.Print

/-!
# Declarations as text

The canonical form of a module: one line per declaration, its documentation above it, and a blank
line between the declarations of different functions.
-/

namespace ClauseFlow

namespace Head

/-- A head as it is written between the keyword and the arrow. -/
def print (head : Head) : String :=
  let plain := head.name ++ "(" ++ Text.commas (Pattern.printAll head.params) ++ ")"
  match head.guard? with
  | some guard => plain ++ " when " ++ guard.print 0
  | none => plain

/-- Whether all numbers in a head have a notation. -/
def hasNotation (head : Head) : Bool :=
  Pattern.allHaveNotation head.params && (head.guard?.map Expr.hasNotation).getD true

end Head

namespace Declaration

/-- The lines of a documentation comment. -/
def docLines (declaration : Declaration) : List String :=
  match declaration.doc? with
  | some doc => (Text.lines doc).map fun line => if line.isEmpty then "///" else "/// " ++ line
  | none => []

/-- The lines of a declaration. -/
def printLines (declaration : Declaration) : List String :=
  let keyword := if declaration.synthesized then "pipe" else "def"
  declaration.docLines ++
    [keyword ++ " " ++ declaration.head.print ++ " -> " ++ declaration.body.print 0]

/-- Whether all numbers in a declaration have a notation. -/
def hasNotation (declaration : Declaration) : Bool :=
  declaration.head.hasNotation && declaration.body.hasNotation

/-- Whether a declaration has documentation that says something. -/
def isDocumented (declaration : Declaration) : Bool :=
  match declaration.doc? with
  | some doc => !doc.isEmpty
  | none => false

end Declaration

namespace Module

/-- Whether a blank line separates a declaration from the one before it. -/
def startsGroup (previous? : Option String) (declaration : Declaration) : Bool :=
  match previous? with
  | none => false
  | some previous => declaration.head.name ≠ previous || declaration.isDocumented

/-- The lines of declarations that follow a declaration of the function `previous?`. -/
def printLines (previous? : Option String) : List Declaration → List String
  | [] => []
  | declaration :: rest =>
      (if startsGroup previous? declaration then [""] else []) ++
        declaration.printLines ++ printLines (some declaration.head.name) rest

/-- The canonical text of a module; it ends in a line feed. -/
def print (module : Module) : String :=
  Text.join "\n" (printLines none module.declarations) ++ "\n"

/-- Whether all numbers in a module have a notation. -/
def hasNotation (module : Module) : Bool :=
  module.declarations.all Declaration.hasNotation

end Module
end ClauseFlow
