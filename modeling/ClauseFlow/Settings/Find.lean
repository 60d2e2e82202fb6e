import ClauseFlow.FileTree
import ClauseFlow.Settings

/-!
# Finding settings

The settings that govern a place are in the nearest document at or above it.
-/

namespace ClauseFlow.Settings

/-- The document that governs a place, if there is any. -/
def find? (tree : FileTree) (place : Path) : Option Path :=
  let directory := if tree.isFile place then place.dropLast else place
  ((directory :: FileTree.above directory).map (· ++ [documentName])).find? tree.hasPlace

/-- What is said when no document is found. -/
def notFoundMessage : String :=
  "No " ++ documentName ++ " found in any parent directory"

/-- The settings that a document in a tree gives. -/
def load (tree : FileTree) (document : Path) : Except Fault Settings :=
  match tree.text? document with
  | some text => read text
  | none => .error .directory

/-- The settings that govern a place; the standard ones if no document does. -/
def governing (tree : FileTree) (place : Path) : Except Fault Settings :=
  match find? tree place with
  | some document => load tree document
  | none => .ok standard

end ClauseFlow.Settings
