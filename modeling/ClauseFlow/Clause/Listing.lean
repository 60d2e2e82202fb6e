import ClauseFlow.Clause.Ordering
import ClauseFlow.Declaration.Print

/-!
# Clause listings

A listing shows clauses as `def` declarations, function by function, each with its kind in a
comment.
-/

namespace ClauseFlow.Clause

/-- A clause as a declaration. -/
def print (clause : Clause) : String :=
  clause.head.print ++ " -> " ++ clause.body.print 0

/-- Whether all numbers in a clause have a notation. -/
def hasNotation (clause : Clause) : Bool :=
  clause.head.hasNotation && clause.body.hasNotation

/-- The line of a clause. -/
def listingLine (clause : Clause) : String :=
  "def " ++ clause.print ++ "  // " ++ clause.kind.text

/-- The lines above a clause that follows a clause of the function `previous?`: a change of function
is announced by its signature, after a blank line. -/
def listingHeader (previous? : Option Signature) (signature : Signature) : List String :=
  if previous? = some signature then []
  else (if previous?.isSome then [""] else []) ++ ["// " ++ signature.text]

/-- The lines of clauses that follow a clause of the function `previous?`. -/
def listingLines (previous? : Option Signature) : List Clause → List String
  | [] => []
  | clause :: rest =>
      listingHeader previous? clause.signature ++
        clause.listingLine :: listingLines (some clause.signature) rest

/-- A listing of clauses; nothing at all for none. -/
def listing (clauses : List Clause) : String :=
  String.join ((listingLines none clauses).map (· ++ "\n"))

end ClauseFlow.Clause
