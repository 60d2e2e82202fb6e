import ClauseFlow.Build
import ClauseFlow.Command
import ClauseFlow.Highlight
import ClauseFlow.Outline
import ClauseFlow.Session
import ClauseFlow.Settings.Find
import ClauseFlow.Text.ColorCode

/-!
# Performing commands

A command reads a file tree and the input, writes to the output, to the error output and to files of
the tree, and ends with a status: 0 if all is well, 1 if something was reported as an error, 2 if
the command was not understood. What was written before a command ends stays written.
-/

namespace ClauseFlow.Command

/-- Where a command is performed. -/
structure Surroundings where
  arguments : List String
  input : String
  tree : FileTree
  /-- The directory in which routes start. -/
  start : Path
  /-- Whether the output and the error output are shown by a terminal, which understands color. -/
  colorOut : Bool
  colorErr : Bool

/-- What ends a command without a report: a text that cannot be read, settings that cannot be
loaded, an integer with too many digits to be written, a fault of a running program, calls that are
too deep, and a directory in the place of a file. -/
inductive Abort where
  | unreadable (fault : ReadFault)
  | settings (fault : Settings.Fault)
  | unwritable
  | fault (fault : Fault)
  | tooDeep
  | directory
  deriving DecidableEq, Repr

/-- How a command ends before its last step. -/
inductive Ending where
  | status (status : Nat)
  | abort (abort : Abort)
  deriving DecidableEq, Repr

/-- What was written so far, and the files as they are. -/
structure Ledger where
  out : String
  err : String
  tree : FileTree

/-- A step of a command. -/
abbrev Step := ReaderT Surroundings (ExceptT Ending (StateM Ledger))

namespace Step

def stop {α : Type} (status : Nat) : Step α :=
  throw (.status status)

def abort {α : Type} (abort : Abort) : Step α :=
  throw (.abort abort)

/-- Writes to the output as it is. -/
def write (text : String) : Step Unit :=
  modify fun ledger => { ledger with out := ledger.out ++ text }

/-- Writes a line to the output. -/
def say (text : String) : Step Unit := do
  let shown := if (← read).colorOut then text else Text.uncolored text
  write (shown ++ "\n")

/-- Writes a line to the error output. -/
def complain (text : String) : Step Unit := do
  let shown := if (← read).colorErr then text else Text.uncolored text
  modify fun ledger => { ledger with err := ledger.err ++ (shown ++ "\n") }

end Step

open Step

/-! ## Files -/

/-- A file or directory: how it was written, and where it is. -/
structure Target where
  route : Route
  place : Path

/-- The file or directory that an argument names. -/
def target (argument : String) : Step Target := do
  match (← get).tree.locate? (← read).start argument with
  | some place => return ⟨Route.ofString argument, place⟩
  | none => stop 2

/-- The file that an argument names. -/
def fileTarget (argument : String) : Step Target := do
  let found ← target argument
  if (← get).tree.isDirectory found.place then stop 2 else return found

/-- The name endings of files that hold modules. -/
def moduleEnding : String := ".pipe"

/-- The files that a target stands for: those with modules below a directory, or the file itself. -/
def moduleFiles (found : Target) : Step (List Target) := do
  let tree := (← get).tree
  if tree.isDirectory found.place then
    return (tree.below found.place moduleEnding).map fun names =>
      ⟨found.route.extend names, found.place ++ names⟩
  else return [found]

/-- The text of a file, with line feeds only. -/
def textOf (place : Path) : Step String := do
  match (← get).tree.text? place with
  | some text => return String.ofList (Text.unifyLineFeeds text.toList)
  | none => abort .directory

/-- The settings that govern a target. -/
def settingsFor (found : Target) : Step Settings := do
  match Settings.governing (← get).tree found.place with
  | .ok settings => return settings
  | .error fault => abort (.settings fault)

/-! ## Reports -/

/-- The source that a diagnostic quotes: one that is no file, or the text of a file. -/
def sourceOf? (tree : FileTree) (start : Path) (further : List (String × String))
    (name : String) : Option SourceText :=
  match further.lookup name with
  | some text => some (SourceText.ofString text)
  | none =>
      ((tree.locate? start (Route.ofString name).print).bind tree.text?).map fun text =>
        SourceText.ofString (String.ofList (Text.unifyLineFeeds text.toList))

/-- Reports diagnostics; `further` are texts that are no files. -/
def report (color : Bool) (further : List (String × String)) (found : List Diagnostic) :
    Step Unit := do
  let tree := (← get).tree
  let start := (← read).start
  found.forM fun diagnostic =>
    complain (diagnostic.render color (sourceOf? tree start further))

/-- The build of a file, the diagnostics of which are reported. -/
def buildOf (color : Bool) (file : Target) : Step Build := do
  let text ← textOf file.place
  match Build.ofText file.route.print text with
  | .ok build =>
      report color [] build.diagnostics
      return build
  | .error fault => abort (.unreadable fault)

/-- Lists the clauses of a build. -/
def listClauses (color : Bool) (build : Build) : Step Unit := do
  unless build.clauses.all Clause.hasNotation do
    abort .unwritable
  let listing := Clause.listing build.clauses
  write (if color then Highlight.colored listing else Text.uncolored listing)

/-- The answer of a reader, or a report of why there is none. -/
def readOrReport {α : Type} (color : Bool) (further : List (String × String)) :
    Except Rejection α → Step (Option α)
  | .ok value => return some value
  | .error (.diagnostics found) => do
      report color further found
      return none
  | .error (.fault fault) => abort (.unreadable fault)

/-- The standard form of a module. -/
def standardForm (module : Module) : Step String :=
  if module.hasNotation then return module.print else abort .unwritable

/-! ## The commands -/

/-- Checks one file; answers whether it is free of errors. -/
def checkFile (settings : Settings) (file : Target) : Step Bool := do
  let build ← buildOf settings.color file
  if build.succeeded && settings.listing then
    listClauses settings.color build
  return build.succeeded

def performCheck (path : String) : Step Unit := do
  let found ← target path
  let settings ← settingsFor found
  let files ← moduleFiles found
  if files.isEmpty then
    complain ("warning: no " ++ moduleEnding ++ " files found")
  else
    let successes ← files.mapM (checkFile settings)
    unless successes.all id do
      stop 1
    unless settings.name.hasNotation do
      abort .unwritable
    say ("checked " ++ settings.name.print ++ ": " ++ Numeral.natText files.length ++
      " file(s), no errors")

def performExpand (file : String) (color? : Option Bool) : Step Unit := do
  let found ← fileTarget file
  let settings ← settingsFor found
  let color := color?.getD settings.color
  let build ← buildOf color found
  if build.module?.isNone then
    stop 1
  listClauses color build
  unless build.succeeded do
    stop 1

/-- The name under which the text of an argument is quoted. -/
def argumentName (index : Nat) : String :=
  "<arg " ++ Numeral.natText (index + 1) ++ ">"

/-- Goes on with the value of a run, or reports why there is none. -/
def valueOrReport {α : Type} (color : Bool) (further : List (String × String)) :
    Except Interrupt α → Step α
  | .ok value => return value
  | .error (.error error) => do
      report color further [error.diagnostic]
      stop 1
  | .error (.fault found) => abort (.fault found)
  | .error .tooDeep => abort .tooDeep

/-- The values of arguments, and the session after that. An argument can be quoted as soon as it is
read: while `earlier` ones and itself are known by their names, the names of later ones may still be
those of files. -/
def argumentValues (color : Bool) :
    (earlier : List (String × String)) → Session → List (String × String) →
      Step (List Value × Session)
  | _, session, [] => return ([], session)
  | earlier, session, (name, text) :: rest => do
      let known := earlier ++ [(name, text)]
      match ← readOrReport color known (Expr.read name text) with
      | none => stop 1
      | some expr =>
          let (outcome, next) := session.evaluate expr
          let value ← valueOrReport color known outcome
          let (values, last) ← argumentValues color known next rest
          return (value :: values, last)

def performRun (file function : String) (arguments : List String) : Step Unit := do
  let found ← fileTarget file
  let settings ← settingsFor found
  let build ← buildOf settings.color found
  match build.program? with
  | none => stop 1
  | some program =>
      if settings.listing then
        listClauses settings.color build
      let texts := (arguments.zipIdx).map fun (text, index) => (argumentName index, text)
      let (values, session) ← argumentValues settings.color [] (Session.start program 0) texts
      let value ← valueOrReport settings.color texts (session.call function values).1
      unless value.hasNotation do
        abort .unwritable
      say value.print

/-- Formats one file; answers whether it has no errors, and whether it is in standard form. -/
def formatFile (settings : Settings) (onlyTell : Bool) (file : Target) : Step (Bool × Bool) := do
  let name := file.route.print
  let text ← textOf file.place
  match ← readOrReport settings.color [] (Module.read name text) with
  | none => return (false, true)
  | some module =>
      let form ← standardForm module
      if form = text then return (true, true)
      else if onlyTell then
        say ("would reformat " ++ name)
        return (true, false)
      else
        modify fun ledger => { ledger with tree := ledger.tree.write file.place form }
        say ("formatted " ++ name)
        return (true, false)

def performFormat (path : String) (onlyTell : Bool) : Step Unit := do
  let found ← target path
  let settings ← settingsFor found
  let files ← moduleFiles found
  if files.isEmpty then
    complain ("no " ++ moduleEnding ++ " files found")
  else
    let outcomes ← files.mapM (formatFile settings onlyTell)
    unless outcomes.all fun outcome => outcome.1 && (outcome.2 || !onlyTell) do
      stop 1

/-- The name under which the input is quoted. -/
def inputName : String := "<stdin>"

def performFormatInput (path : String) (onlyTell : Bool) : Step Unit := do
  discard (target path)
  let text := String.ofList (Text.unifyLineFeeds (← read).input.toList)
  match ← readOrReport false [(inputName, text)] (Module.read inputName text) with
  | none => stop 1
  | some module =>
      let form ← standardForm module
      if onlyTell then
        unless form = text do
          stop 1
      else write form

def performView (file : String) : Step Unit := do
  let found ← fileTarget file
  let text ← textOf found.place
  match Module.read file text with
  | .ok module =>
      (Outline.lines 0 (Outline.ofModule module)).forM fun
        | some line => say line
        | none => abort .unwritable
  | .error (.diagnostics errors) =>
      let settings ← settingsFor found
      report settings.color [] errors
      stop 1
  | .error (.fault fault) => abort (.unreadable fault)

/-- The steps of a command. -/
def perform : Command → Step Unit
  | .version => say (programName ++ ", version " ++ programVersion)
  | .check path => performCheck path
  | .expand file color? => performExpand file color?
  | .run file function arguments => performRun file function arguments
  | .format path onlyTell => performFormat path onlyTell
  | .formatInput path onlyTell => performFormatInput path onlyTell
  | .view file => performView file

/-! ## Outcomes -/

/-- What a command leaves: its status, what it wrote, the files afterwards, and why it was aborted
if it was. -/
structure Outcome where
  status : Nat
  out : String
  err : String
  tree : FileTree
  abort? : Option Abort

/-- The outcome of the command that the arguments ask for. -/
def outcome (surroundings : Surroundings) : Outcome :=
  let step : Step Unit :=
    match parse? surroundings.arguments with
    | some command => perform command
    | none => stop 2
  let (ending, ledger) := (step surroundings).run ⟨"", "", surroundings.tree⟩
  let leave (status : Nat) (abort? : Option Abort) : Outcome :=
    ⟨status, ledger.out, ledger.err, ledger.tree, abort?⟩
  match ending with
  | .ok () => leave 0 none
  | .error (.status status) => leave status none
  | .error (.abort abort) => leave 1 (some abort)

end ClauseFlow.Command
