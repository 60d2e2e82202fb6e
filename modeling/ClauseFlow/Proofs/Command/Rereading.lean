import ClauseFlow.Proofs.Command.Formatting
import ClauseFlow.Proofs.Format.Returns

/-!
# Formatted files are read again

What formatting leaves of a module is the same code when it is read again, if no text in the module
has a carriage return. Else the module is not readable any more: the carriage return stands in the
file as it is, and is read as a line feed.
-/

namespace ClauseFlow.Command

variable {surroundings : Surroundings} {path : String} {onlyTell : Bool} {root place : Path}
  {text : String} {module : Module}

/-- A module with a carriage return in a text is never in standard form as it is read. -/
theorem print_ne_asRead (spelled : module.isSpelled = true) (returns : module.isReturnFree = false)
    (text : String) : module.print ≠ Text.asRead text := by
  intro same
  have plain := Text.isReturnFree_asRead text
  rw [← same, Module.isReturnFree_print spelled, returns] at plain
  cases plain

/-- What formatting leaves of a module that its target stands for: when it is read again, it is the
same code if no text in it has a carriage return, or if the command only tells. Else it is not
readable, unless the command is aborted. -/
theorem format_keeps_code (proper : surroundings.tree.IsProper)
    (asks : parse? surroundings.arguments = some (.format path onlyTell))
    (found : surroundings.tree.locate? surroundings.start path = some root)
    (isModule : IsModuleOf surroundings.tree root place)
    (there : surroundings.tree.text? place = some text)
    (read : Module.read (quotedName path root place) (Text.asRead text) = .ok module)
    (finite : module.isFinite = true) (short : module.hasNotation = true) :
    ∃ left, (outcome surroundings).tree.text? place = some left ∧
      (module.isReturnFree = true ∨ onlyTell = true →
        ∃ module', Module.read (quotedName path root place) (Text.asRead left) = .ok module' ∧
          module'.bare = module.bare) ∧
      (module.isReturnFree = false → onlyTell = false → (outcome surroundings).abort? = none →
        ∀ module', Module.read (quotedName path root place) (Text.asRead left) ≠ .ok module') := by
  have again := Module.read_asRead_print read finite short (quotedName path root place)
  by_cases changed : (outcome surroundings).tree.text? place = surroundings.tree.text? place
  · refine ⟨text, changed.trans there, fun _ => ⟨module, read, rfl⟩, ?_⟩
    rintro returns rfl unaborted
    -- It would have been written.
    have differs := print_ne_asRead (Module.isSpelled_of_read read) returns text
    have written := text?_of_rewrites asks proper unaborted
      ⟨root, text, module, found, isModule, there, read, rfl, differs⟩
    rw [changed, there] at written
    rw [Option.some.inj written]
    simpa [returns] using again
  · rcases rewrites_of_changed asks proper changed with
      ⟨writes, form, ⟨root', text', module', found', _, there', read', rfl, _⟩, left⟩
    obtain rfl := Option.some.inj (found.symm.trans found')
    obtain rfl := Option.some.inj (there.symm.trans there')
    obtain rfl := Except.ok.inj (read.symm.trans read')
    refine ⟨module.print, left, fun kept => ?_, fun returns _ _ => ?_⟩
    · have plain := kept.resolve_right (by simp [writes])
      simpa [plain] using again
    · simpa [returns] using again

/-- A file with a module that is not in standard form is formatted. -/
def untidy : Surroundings where
  arguments := ["format", "a.pipe"]
  input := ""
  tree := ⟨[(["a.pipe"], "def f( x )->x\n"), (["b.pipe"], "def g( x )->x\n")], []⟩
  start := []
  colorOut := false
  colorErr := false

theorem format_keeps_code_untidy :
    ∃ module left module', Module.read "a.pipe" (Text.asRead "def f( x )->x\n") = .ok module ∧
      (outcome untidy).tree.text? ["a.pipe"] = some left ∧
      Module.read "a.pipe" (Text.asRead left) = .ok module' ∧ module'.bare = module.bare := by
  have proper : untidy.tree.IsProper := ⟨by decide, by decide +kernel⟩
  have asks : parse? untidy.arguments = some (.format "a.pipe" false) := by decide +kernel
  have located : untidy.tree.locate? untidy.start "a.pipe" = some ["a.pipe"] := by decide +kernel
  have isModule : IsModuleOf untidy.tree ["a.pipe"] ["a.pipe"] := by
    rw [IsModuleOf, if_neg (by decide +kernel)]
  have there : untidy.tree.text? ["a.pipe"] = some "def f( x )->x\n" := by decide +kernel
  have quoted : quotedName "a.pipe" ["a.pipe"] ["a.pipe"] = "a.pipe" := by decide +kernel
  have found : (Module.read (quotedName "a.pipe" ["a.pipe"] ["a.pipe"])
      (Text.asRead "def f( x )->x\n")).toOption.any (fun module =>
        module.isFinite && (module.hasNotation && module.isReturnFree)) = true := by
    decide +kernel
  rcases Module.exists_of_any_read found with ⟨module, read, all⟩
  rcases Bool.and_eq_true_iff.mp all with ⟨finite, both⟩
  rcases Bool.and_eq_true_iff.mp both with ⟨short, plain⟩
  rcases format_keeps_code proper asks located isModule there read finite short with
    ⟨left, leaves, same, _⟩
  rcases same (.inl plain) with ⟨module', read', bare⟩
  rw [quoted] at read read'
  exact ⟨module, left, module', read, leaves, read', bare⟩

/-- A file with a module that has a carriage return in a text, written by its escape. -/
def returning : Surroundings where
  arguments := ["format", "m.pipe"]
  input := ""
  tree := ⟨[(["m.pipe"], "def f() -> \"a\\rb\"\n")], []⟩
  start := []
  colorOut := false
  colorErr := false

/-- The escape is replaced by the carriage return itself, which ends the line when it is read. -/
theorem format_loses_return :
    ∃ module, Module.read "m.pipe" (Text.asRead "def f() -> \"a\\rb\"\n") = .ok module ∧
      module.isFinite = true ∧ module.hasNotation = true ∧
      (outcome returning).status = 0 ∧ (outcome returning).abort? = none ∧
      (outcome returning).tree.text? ["m.pipe"] = some "def f() -> \"a\rb\"\n" ∧
      ∀ module', Module.read "m.pipe" (Text.asRead "def f() -> \"a\rb\"\n") ≠ .ok module' := by
  have found : (Module.read "m.pipe" (Text.asRead "def f() -> \"a\\rb\"\n")).toOption.any
      (fun module => module.isFinite && module.hasNotation) = true := by
    decide +kernel
  rcases Module.exists_of_any_read found with ⟨module, read, both⟩
  rcases Bool.and_eq_true_iff.mp both with ⟨finite, short⟩
  refine ⟨module, read, finite, short, by decide +kernel, by decide +kernel, by decide +kernel, ?_⟩
  intro module' read'
  have unread : (Module.read "m.pipe" (Text.asRead "def f() -> \"a\rb\"\n")).toOption.isNone =
      true := by
    decide +kernel
  rw [read'] at unread
  cases unread

end ClauseFlow.Command
