import ClauseFlow.Command.Perform
import Mathlib.Data.List.Infix
import Mathlib.Data.List.Nodup

/-!
# Files of a target

A directory stands for the files below it whose names end as those of modules do, a file for itself.
In a proper tree, where no path is used twice, each of these files is met once.
-/

namespace ClauseFlow

namespace FileTree

variable {tree : FileTree} {root place : Path}

/-! ## Texts by path -/

/-- Writing a file changes the text at its place, if there is one, and no other. -/
theorem text?_write (tree : FileTree) (place : Path) (text : String) (other : Path) :
    (tree.write place text).text? other =
      if other = place then (tree.text? place).map fun _ => text else tree.text? other := by
  obtain ⟨files, directories⟩ := tree
  simp only [text?, write]
  induction files with
  | nil => simp
  | cons file rest ih =>
      obtain ⟨name, content⟩ := file
      by_cases here : other = name
      · by_cases written : name = place
        · simp [here, written]
        · simp [here, written]
      · have passed : (other == name) = false := beq_false_of_ne here
        by_cases written : name = place
        · subst written
          simpa [List.lookup_cons, passed, here] using ih
        · have apart : (place == name) = false := beq_false_of_ne (Ne.symm written)
          simpa [List.lookup_cons, passed, written, apart] using ih

/-- Whether no path is used twice in a tree: neither for two files, nor for a file and a
directory. -/
structure IsProper (tree : FileTree) : Prop where
  distinct : (tree.files.map Prod.fst).Nodup
  apart : ∀ file ∈ tree.files, tree.isDirectory file.1 = false

/-! ## Places below a directory -/

theorem nodup_eraseDups (places : List Path) : places.eraseDups.Nodup := by
  match places with
  | [] => exact .nil
  | place :: rest =>
      rw [List.eraseDups_cons]
      refine List.nodup_cons.mpr ⟨fun member => ?_, nodup_eraseDups _⟩
      simp at member
termination_by places.length
decreasing_by
  exact Nat.lt_succ_of_le (List.length_filter_le _ _)

/-- All places in a tree apart from the root. -/
def places (tree : FileTree) : List Path :=
  tree.files.map Prod.fst ++ tree.allDirectories

theorem IsProper.nodup_places (proper : tree.IsProper) : tree.places.Nodup := by
  refine List.nodup_append.mpr ⟨proper.distinct, nodup_eraseDups _, ?_⟩
  rintro place isFile _ isDirectory rfl
  rcases List.mem_map.mp isFile with ⟨file, member, rfl⟩
  have apart := proper.apart file member
  rw [FileTree.isDirectory, Bool.or_eq_false_iff] at apart
  rw [List.contains_iff_mem.mpr isDirectory] at apart
  cases apart.2

/-- Whether a place is below a directory and its name ends in a given way. -/
def isBelow (root : Path) (ending : String) (place : Path) : Bool :=
  root.isPrefixOf place && place ≠ root && endsIn ending place

theorem append_drop_of_isBelow {ending : String} (below : isBelow root ending place = true) :
    root ++ place.drop root.length = place := by
  rw [isBelow, Bool.and_eq_true, Bool.and_eq_true] at below
  exact (List.prefix_append_drop (List.isPrefixOf_iff_prefix.mp below.1.1)).symm

/-- The places below a directory, up to their order. -/
theorem perm_map_below (tree : FileTree) (root : Path) (ending : String) :
    ((tree.below root ending).map (root ++ ·)).Perm (tree.places.filter (isBelow root ending)) := by
  have sorted := (List.mergeSort_perm ((tree.places.filter (isBelow root ending)).map
    fun place => place.drop root.length) comesFirst).map (root ++ ·)
  refine sorted.trans (.of_eq ?_)
  rw [List.map_map]
  exact (List.map_congr_left fun place member =>
    append_drop_of_isBelow (List.mem_filter.mp member).2).trans (List.map_id _)

/-- The text of a file stands in the tree with its place. -/
theorem mem_files_of_text? (tree : FileTree) {place : Path} {text : String}
    (there : tree.text? place = some text) : (place, text) ∈ tree.files := by
  rcases List.lookup_eq_some_iff.mp there with ⟨front, back, same, _⟩
  rw [same]
  exact List.mem_append_right _ (.head _)

end FileTree

namespace Command

variable {tree : FileTree} {found : Target} {root place : Path}

/-- The files that a target stands for in a tree. -/
def modulesOf (tree : FileTree) (found : Target) : List Target :=
  if tree.isDirectory found.place then
    (tree.below found.place moduleEnding).map fun names =>
      ⟨found.route.extend names, found.place ++ names⟩
  else [found]

/-- Whether a target at a place stands for the file at another one: for a directory, those below it
whose names end as those of modules do; for a file, itself, however its name ends. -/
def IsModuleOf (tree : FileTree) (root place : Path) : Prop :=
  if tree.isDirectory root = true then
    root <+: place ∧ place ≠ root ∧ FileTree.endsIn moduleEnding place = true
  else place = root

theorem isModuleOf_of_isDirectory (isDirectory : tree.isDirectory root = true) :
    IsModuleOf tree root place ↔ FileTree.isBelow root moduleEnding place = true := by
  rw [IsModuleOf, if_pos isDirectory, FileTree.isBelow]
  simp [and_assoc]

theorem map_place_modulesOf (tree : FileTree) (found : Target) :
    (modulesOf tree found).map Target.place =
      if tree.isDirectory found.place then
        (tree.below found.place moduleEnding).map (found.place ++ ·)
      else [found.place] := by
  rw [modulesOf]
  split
  · rw [List.map_map]
    rfl
  · rfl

/-- The files of a target lie at different places. -/
theorem nodup_modulesOf (proper : tree.IsProper) (found : Target) :
    ((modulesOf tree found).map Target.place).Nodup := by
  rw [map_place_modulesOf]
  split
  · exact (tree.perm_map_below found.place moduleEnding).nodup_iff.mpr
      (proper.nodup_places.filter _)
  · exact List.nodup_singleton _

/-- The files of a target in a tree are those that it stands for. -/
theorem mem_places_modulesOf (isFile : tree.isFile place = true) :
    place ∈ (modulesOf tree found).map Target.place ↔ IsModuleOf tree found.place place := by
  rw [map_place_modulesOf]
  split
  · rename_i isDirectory
    have inTree : place ∈ tree.places := by
      rcases Option.isSome_iff_exists.mp isFile with ⟨text, there⟩
      exact List.mem_append_left _ (List.mem_map_of_mem (tree.mem_files_of_text? there))
    rw [isModuleOf_of_isDirectory isDirectory, (tree.perm_map_below _ _).mem_iff, List.mem_filter]
    exact and_iff_right inTree
  · rename_i isFile
    rw [IsModuleOf, if_neg isFile, List.mem_singleton]

/-- The name under which a file is quoted that a target stands for, which was written as `path` and
is found at `root`. -/
def quotedName (path : String) (root place : Path) : String :=
  ((Route.ofString path).extend (place.drop root.length)).print

/-- The files of a target are quoted by the way to the target and the names behind it. -/
theorem print_route_of_mem_modulesOf {path : String} {file : Target}
    (member : file ∈ modulesOf tree ⟨Route.ofString path, root⟩) :
    file.route.print = quotedName path root file.place := by
  rw [modulesOf] at member
  split at member
  · rcases List.mem_map.mp member with ⟨names, _, rfl⟩
    simp only [quotedName, List.drop_left]
  · obtain rfl := List.mem_singleton.mp member
    simp [quotedName, Route.extend]

end Command
end ClauseFlow
