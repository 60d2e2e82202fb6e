import ClauseFlow.Builtin
import ClauseFlow.Clause.Ordering

/-!
# Programs

A program holds the clauses of a scope, function by function.
-/

namespace ClauseFlow

/-- The clauses of a program, those of one function in the order in which calls try them. -/
structure Program where
  installed : List Clause

namespace Program

/-- The program without declared functions. -/
def empty : Program :=
  ⟨[]⟩

/-- The declared functions, in the order of their first clauses. -/
def signatures (program : Program) : List Signature :=
  Clause.signatures program.installed

/-- The clauses of one function. -/
def clausesOf (program : Program) (signature : Signature) : List Clause :=
  Clause.ofSignature signature program.installed

/-- All clauses, function by function. -/
def clauses (program : Program) : List Clause :=
  program.signatures.flatMap program.clausesOf

/-- Whether a function is declared. -/
def declares (program : Program) (signature : Signature) : Bool :=
  program.installed.any fun clause => clause.signature = signature

/-- Whether a name is that of a declared function, of whatever number of arguments. -/
def declaresName (program : Program) (name : String) : Bool :=
  program.installed.any fun clause => clause.signature.name = name

/-- Whether a name is that of a declared function or a builtin. -/
def knows (program : Program) (name : String) : Bool :=
  program.declaresName name || (Builtin.ofName? name).isSome

/-- The builtin that a call goes to when no declared function answers it. -/
def builtin? (signature : Signature) : Option Builtin :=
  (Builtin.ofName? signature.name).filter fun builtin => builtin.accepts signature.arity

end Program
end ClauseFlow
