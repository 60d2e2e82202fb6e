import ClauseFlow.Command.Perform

/-!
# The program

Loads what the arguments name, performs the command, and stores what it leaves.
-/

namespace ClauseFlow.Command

/-- How a path is written for the system. -/
def absolute (place : Path) : String :=
  "/" ++ Text.join "/" place

/-- Why a command was aborted, in words. -/
def Abort.message : Abort → String
  | .unreadable .unreadableNumeral => "a numeral denotes no number"
  | .unreadable .tooDeep => "the text is nested too deep"
  | .settings (.document .malformed) => Settings.documentName ++ " is malformed"
  | .settings (.document .longNumeral) => Settings.documentName ++ " holds too long a numeral"
  | .settings (.noTable name) => "'" ++ name ++ "' in " ++ Settings.documentName ++ " is no table"
  | .settings .directory => Settings.documentName ++ " is a directory"
  | .unwritable => "an integer has too many digits to be written"
  | .fault .digitLimit => "an integer has too many digits to be shown"
  | .fault .notANumber => "nan is no integer"
  | .fault .infinite => "infinity is no integer"
  | .fault .tooLarge => "an integer is too large for a decimal number"
  | .fault .unusableKey => "a value cannot be a key"
  | .tooDeep => "calls are nested too deep"
  | .directory => "a directory stands in the place of a file"

def usage : String :=
  "usage: " ++ programName ++ " [--version] (check | expand | run | format | view) ..."

/-- Adds a file with its text. -/
def loadFile (place : Path) (tree : FileTree) : IO FileTree := do
  if tree.isFile place then return tree
  else
    let text ← IO.FS.readFile (absolute place)
    return { tree with files := (place, text) :: tree.files }

/-- Adds a directory with the modules and settings below it. -/
partial def loadDirectory (place : Path) (tree : FileTree) : IO FileTree := do
  let here ← IO.currentDir
  let mut loaded := { tree with directories := place :: tree.directories }
  for entry in ← (here / absolute place).readDir do
    let inner := place ++ [entry.fileName]
    if ← entry.path.isDir then
      loaded ← loadDirectory inner loaded
    else if FileTree.endsIn moduleEnding inner || entry.fileName = Settings.documentName then
      loaded ← loadFile inner loaded
  return loaded

/-- Adds what an argument names, and the settings above it. -/
def loadArgument (start : Path) (argument : String) (tree : FileTree) : IO FileTree := do
  let here ← IO.currentDir
  let place := (Route.ofString argument).destination start
  let mut loaded := tree
  for directory in FileTree.above place do
    let document := directory ++ [Settings.documentName]
    if ← (here / absolute document).pathExists then
      loaded ← loadFile document loaded
  if ← (here / argument).isDir then loadDirectory place loaded
  else if ← (here / argument).pathExists then loadFile place loaded
  else return loaded

/-- The paths that arguments name; the current directory if they name none. -/
def namedPaths (arguments : List String) : IO (List String) := do
  let here ← IO.currentDir
  let found ← arguments.filterM fun argument => do
    if argument.isEmpty then return false else (here / argument).pathExists
  return if found.isEmpty then [defaultPath] else found

/-- The rest of the input. -/
partial def readInput (stream : IO.FS.Stream) : IO String := do
  let line ← stream.getLine
  if line.isEmpty then return "" else return line ++ (← readInput stream)

/-- Stores the files whose texts have changed. -/
def store (before after : FileTree) : IO Unit := do
  for (place, text) in after.files do
    if before.text? place ≠ some text then
      IO.FS.writeFile (absolute place) text

/-- Performs the command that the arguments ask for; answers its status. -/
def runProgram (arguments : List String) : IO UInt32 := do
  let start := (Route.ofString (toString (← IO.currentDir))).names
  let mut tree : FileTree := ⟨[], []⟩
  for argument in ← namedPaths arguments do
    tree ← loadArgument start argument tree
  let stdin ← IO.getStdin
  let stdout ← IO.getStdout
  let stderr ← IO.getStderr
  let input ← if arguments.contains "--stdin" then readInput stdin else pure ""
  let outcome := Command.outcome
    { arguments, input, tree, start
      colorOut := ← stdout.isTty
      colorErr := ← stderr.isTty }
  store tree outcome.tree
  stdout.putStr outcome.out
  stderr.putStr outcome.err
  match outcome.abort? with
  | some abort => stderr.putStrLn (programName ++ ": " ++ abort.message)
  | none => pure ()
  if outcome.status = 2 then
    stderr.putStrLn usage
  return UInt32.ofNat outcome.status

end ClauseFlow.Command

def main (arguments : List String) : IO UInt32 :=
  ClauseFlow.Command.runProgram arguments
