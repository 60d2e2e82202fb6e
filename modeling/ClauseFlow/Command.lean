/-!
# Commands

What the program can be asked to do, and how it is asked: by a name, by options, which begin with a
dash, and by further arguments. Everything behind `--` is an argument.
-/

namespace ClauseFlow

inductive Command where
  /-- Says which version this is. -/
  | version
  /-- Reports what is wrong with files. -/
  | check (path : String)
  /-- Lists the clauses of a file, with color if asked for. -/
  | expand (file : String) (color? : Option Bool)
  /-- Calls a function of a file with the values of expressions. -/
  | run (file function : String) (arguments : List String)
  /-- Writes files in their standard form, or only tells which ones are not. -/
  | format (path : String) (onlyTell : Bool)
  /-- Writes the input in its standard form, or only tells whether it is. -/
  | formatInput (path : String) (onlyTell : Bool)
  /-- Shows the structure of a file. -/
  | view (file : String)
  deriving DecidableEq, Repr

namespace Command

def programName : String := "pipehammer"

def programVersion : String := "0.1.0"

/-- Whether an argument is an option. -/
def isOption (argument : String) : Bool :=
  argument.toList.head? = some '-' && argument.length ≠ 1

/-- What ends the options. -/
def endOfOptions : String := "--"

/-- The options among the arguments of a command, and the others. -/
def separate : List String → List String × List String
  | [] => ([], [])
  | argument :: rest =>
      if argument = endOfOptions then ([], rest)
      else
        let (options, others) := separate rest
        if isOption argument then (argument :: options, others)
        else (options, argument :: others)

/-- Where a command looks when it is not told. -/
def defaultPath : String := "."

/-- The path among the arguments, of which there is at most one. -/
def path? : List String → Option String
  | [] => some defaultPath
  | [path] => some path
  | _ => none

/-- The only argument. -/
def only? : List String → Option String
  | [argument] => some argument
  | _ => none

/-- The command of a name with its options and other arguments; none if it cannot be given these. -/
def named? (name : String) (options others : List String) : Option Command :=
  let allowed (known : List String) : Bool := options.all known.contains
  match name with
  | "check" => if allowed [] then (path? others).map .check else none
  | "expand" =>
      if allowed ["--color", "--no-color"] then
        (only? others).map fun file => .expand file (options.getLast?.map (· = "--color"))
      else none
  | "run" =>
      match others with
      | file :: function :: arguments =>
          if allowed [] then some (.run file function arguments) else none
      | _ => none
  | "format" =>
      if allowed ["--check", "--stdin"] then
        let form := if options.contains "--stdin" then Command.formatInput else Command.format
        (path? others).map fun path => form path (options.contains "--check")
      else none
  | "view" => if allowed [] then (only? others).map .view else none
  | _ => none

/-- The command of a name and its arguments. -/
def ofCall? : List String → Option Command
  | [] => none
  | name :: arguments =>
      let (options, others) := separate arguments
      named? name options others

/-- The command behind the options of the program itself, among which is the question for the
version. -/
def ofArguments? (asksVersion : Bool) : List String → Option Command
  | [] => if asksVersion then some .version else none
  | argument :: rest =>
      if argument = endOfOptions then if asksVersion then some .version else ofCall? rest
      else if isOption argument then
        if argument = "--version" then ofArguments? true rest else none
      else if asksVersion then some .version
      else ofCall? (argument :: rest)

/-- The command that arguments ask for; none if they are not understood. -/
def parse? (arguments : List String) : Option Command :=
  ofArguments? false arguments

end Command
end ClauseFlow
