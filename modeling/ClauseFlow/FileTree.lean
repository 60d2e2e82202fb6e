import ClauseFlow.Text.Listing

/-!
# File trees

A file tree holds texts under paths. A path is the list of names from the root; a route is how a
place is written, either from the root or from a place where one starts.
-/

namespace ClauseFlow

/-- The names that lead from the root to a place. -/
abbrev Path := List String

/-! ## Routes -/

/-- A written path, without the names that lead nowhere. -/
structure Route where
  fromRoot : Bool
  names : List String
  deriving DecidableEq, Repr

namespace Route

/-- The names between the slashes of a text. -/
def split : List Char → List String
  | [] => [""]
  | c :: rest =>
      if c = '/' then "" :: split rest
      else
        match split rest with
        | [] => [String.singleton c]
        | first :: more => (String.singleton c ++ first) :: more

/-- The name of the place itself. -/
def here : String := "."

/-- The name of the directory around a place. -/
def up : String := ".."

def startsAtRoot (text : String) : Bool :=
  text.toList.head? = some '/'

def ofString (text : String) : Route :=
  ⟨startsAtRoot text, (split text.toList).filter fun name => !name.isEmpty && name ≠ here⟩

def print (route : Route) : String :=
  let names := Text.join "/" route.names
  if route.fromRoot then "/" ++ names else if route.names.isEmpty then here else names

/-- The route to a place further down. -/
def extend (route : Route) (names : List String) : Route :=
  { route with names := route.names ++ names }

/-- Where a route leads when every name on it is taken for a directory. -/
def destination (start : Path) (route : Route) : Path :=
  route.names.foldl (fun place name => if name = up then place.dropLast else place ++ [name])
    (if route.fromRoot then [] else start)

end Route

/-! ## Trees -/

/-- Texts by path, and the directories that are there besides those that hold files. -/
structure FileTree where
  files : List (Path × String)
  directories : List Path

namespace FileTree

/-- The text of a file. -/
def text? (tree : FileTree) (place : Path) : Option String :=
  tree.files.lookup place

def isFile (tree : FileTree) (place : Path) : Bool :=
  (tree.text? place).isSome

/-- The places above a place, the nearest one first; the root is above everything else. -/
def above (place : Path) : List Path :=
  (List.range place.length).reverse.map place.take

/-- All directories other than the root. -/
def allDirectories (tree : FileTree) : List Path :=
  let holders := tree.files.flatMap fun file => above file.1
  let further := tree.directories.flatMap fun directory => directory :: above directory
  ((holders ++ further).filter fun place => !place.isEmpty).eraseDups

def isDirectory (tree : FileTree) (place : Path) : Bool :=
  place.isEmpty || tree.allDirectories.contains place

def hasPlace (tree : FileTree) (place : Path) : Bool :=
  tree.isFile place || tree.isDirectory place

/-- The place that a name leads to from another place, which has to be a directory. -/
def step? (tree : FileTree) (place : Path) (name : String) : Option Path :=
  if !tree.isDirectory place then none
  else if name.isEmpty || name = Route.here then some place
  else if name = Route.up then some place.dropLast
  else some (place ++ [name])

/-- The place that a written path leads to, if there is one. -/
def locate? (tree : FileTree) (start : Path) (text : String) : Option Path :=
  if text.isEmpty then none
  else
    let origin := if Route.startsAtRoot text then [] else start
    ((Route.split text.toList).foldlM tree.step? origin).filter tree.hasPlace

/-- The order of paths: by their first names that differ, and a path before those that go on. -/
def comesFirst : Path → Path → Bool
  | [], _ => true
  | _ :: _, [] => false
  | name :: rest, name' :: rest' => if name = name' then comesFirst rest rest' else name < name'

/-- Whether the last name of a path ends in a given way. -/
def endsIn (ending : String) (place : Path) : Bool :=
  (place.getLast?.map fun name => ending.toList.isSuffixOf name.toList).getD false

/-- The names that lead from a directory to the places below it whose names end in a given way, in
the order of the names. -/
def below (tree : FileTree) (directory : Path) (ending : String) : List (List String) :=
  let places := tree.files.map Prod.fst ++ tree.allDirectories
  let found := places.filter fun place =>
    directory.isPrefixOf place && place ≠ directory && endsIn ending place
  (found.map fun place => place.drop directory.length).mergeSort comesFirst

/-- Replaces the text of a file. -/
def write (tree : FileTree) (place : Path) (text : String) : FileTree :=
  { tree with
    files := tree.files.map fun file => if file.1 = place then (place, text) else file }

end FileTree
end ClauseFlow
