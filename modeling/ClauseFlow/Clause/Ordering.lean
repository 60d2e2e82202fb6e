import ClauseFlow.Clause.Shape

/-!
# Dispatch order

The clauses of a scope are put into the order in which calls try them: function by function, in the
order in which the functions were first declared; within a function, first the clauses that hand
errors through, then those that unwrap, then the declarations themselves. Of several clauses of one
shape only the first is kept.
-/

namespace ClauseFlow.Clause

/-- The clauses that are the first of their shape, and the others, each in their order. `seen` holds
the shapes met before. -/
def dedupe (seen : List Shape) : List Clause → List Clause × List Clause
  | [] => ([], [])
  | clause :: rest =>
      if seen.contains clause.shapeKey then
        let (kept, dropped) := dedupe seen rest
        (kept, clause :: dropped)
      else
        let (kept, dropped) := dedupe (clause.shapeKey :: seen) rest
        (clause :: kept, dropped)

/-- The clauses that are the first of their shape. -/
def firstOfShape (clauses : List Clause) : List Clause :=
  (dedupe [] clauses).1

/-- The clauses whose shape an earlier one has. -/
def repeatedShape (clauses : List Clause) : List Clause :=
  (dedupe [] clauses).2

/-- The functions of clauses, in the order of their first appearance; `seen` were met before. -/
def signaturesAfter (seen : List Signature) : List Clause → List Signature
  | [] => []
  | clause :: rest =>
      if seen.contains clause.signature then signaturesAfter seen rest
      else clause.signature :: signaturesAfter (clause.signature :: seen) rest

def signatures (clauses : List Clause) : List Signature :=
  signaturesAfter [] clauses

/-- The clauses of one function. -/
def ofSignature (signature : Signature) (clauses : List Clause) : List Clause :=
  clauses.filter fun clause => clause.signature = signature

/-- The clauses of a scope in dispatch order. Only functions with a default clause take part. -/
def finalize (default okUnwrap errorPassthrough : List Clause) : List Clause :=
  let kept := firstOfShape default
  let unwrapping := firstOfShape okUnwrap
  let passing := firstOfShape errorPassthrough
  (signatures kept).flatMap fun signature =>
    ofSignature signature passing ++ ofSignature signature unwrapping ++ ofSignature signature kept

end ClauseFlow.Clause
