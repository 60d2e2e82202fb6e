import ClauseFlow.Toml.Read

/-!
# Settings

The settings of a package: its name and version, whether the clauses of every module are listed, and
whether output has color. They are written in three tables of a TOML document, and each has a value
of its own when it is not given.
-/

namespace ClauseFlow

structure Settings where
  name : Toml
  version : Toml
  listing : Bool
  color : Bool

namespace Settings

/-- Why settings cannot be loaded: the document cannot be read, one of the three names stands for
something else than a table, or there is a directory in the place of the document. -/
inductive Fault where
  | document (fault : Toml.Fault)
  | noTable (name : String)
  | directory
  deriving DecidableEq, Repr

/-- The settings that hold when none are given. -/
def standard : Settings :=
  ⟨.text "untitled", .text "0.0.0", false, true⟩

/-- The name of the document. -/
def documentName : String := "pipehammer.toml"

/-- The entries of one of the tables; none if the table is missing. -/
def tableOf (name : String) (entries : Toml.Entries) : Except Fault Toml.Entries :=
  match entries.lookup name with
  | none => .ok []
  | some (.table inner) => .ok inner
  | some _ => .error (.noTable name)

/-- The value of a key, or the standard one. -/
def valueOf (key : String) (standard : Toml) (entries : Toml.Entries) : Toml :=
  (entries.lookup key).getD standard

/-- The settings that a document gives. -/
def ofEntries (entries : Toml.Entries) : Except Fault Settings := do
  let package ← tableOf "package" entries
  let expand ← tableOf "expand" entries
  let render ← tableOf "render" entries
  return {
    name := valueOf "name" standard.name package
    version := valueOf "version" standard.version package
    listing := (valueOf "debug" (.boolean standard.listing) expand).isAffirmative
    color := (valueOf "color" (.boolean standard.color) render).isAffirmative }

/-- The settings that a text gives. -/
def read (text : String) : Except Fault Settings := do
  let entries ← (Toml.read text).mapError .document
  ofEntries entries

end Settings
end ClauseFlow
