import ClauseFlow.Checker
import ClauseFlow.Clause.Listing
import ClauseFlow.Diagnostic.Render
import ClauseFlow.Parse.Module
import ClauseFlow.Program
import ClauseFlow.Scope

/-!
# Builds

A build takes a source text all the way to a program: it reads the module, checks it, and puts the
clauses of its declarations into dispatch order. The clauses are there even if the checker finds
errors, but a program is only installed without them.
-/

namespace ClauseFlow

/-- The outcome of a build. -/
structure Build where
  module? : Option Module
  clauses : List Clause
  diagnostics : List Diagnostic
  program? : Option Program

namespace Build

/-- Whether a program was installed. -/
def succeeded (build : Build) : Bool :=
  build.program?.isSome

/-- The diagnostics that kept a program from being installed. -/
def errors (build : Build) : List Diagnostic :=
  build.diagnostics.filter Diagnostic.isError

/-- The build of a module. -/
def ofModule (module : Module) : Build :=
  let findings := Checker.check module
  let clauses := Clause.ofDeclarations module.declarations
  { module? := some module
    clauses
    diagnostics := findings.map Finding.diagnostic
    program? := if findings.any Finding.isError then none else some ⟨clauses⟩ }

/-- The build of a text that is refused. -/
def refused (diagnostics : List Diagnostic) : Build :=
  ⟨none, [], diagnostics, none⟩

/-- The build of a source text. -/
def ofText (file text : String) : Except ReadFault Build :=
  match Module.read file text with
  | .ok module => .ok (ofModule module)
  | .error (.diagnostics found) => .ok (refused found)
  | .error (.fault fault) => .error fault

end Build

/-- The program of a source text, or the errors that keep it from being installed. -/
def Program.load (file text : String) : Except Rejection Program :=
  match Build.ofText file text with
  | .error fault => .error (.fault fault)
  | .ok build =>
      match build.program? with
      | some program => .ok program
      | none => .error (.diagnostics build.errors)

end ClauseFlow
