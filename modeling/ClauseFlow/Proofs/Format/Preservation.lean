import ClauseFlow.Proofs.Parse.Declarations

/-!
# Formatting preserves the program

A module that has been read is printed as a text that is read as the same module, up to places and
documentation. Its numbers have to be finite, since infinity has no notation, and short enough to
have a numeral.
-/

namespace ClauseFlow

namespace Pattern

/-- Finite constants are readable. -/
theorem isReadable_of_isFinite {pattern : Pattern} (finite : pattern.isFinite = true) :
    pattern.isReadable = true := by
  apply every_mono ?_ finite
  intro part finite
  cases part with
  | literal value span =>
      cases value with
      | decimal value =>
          have isFinite : value.isFinite = true := finite
          rw [isReadablePart, isFinite]
          rfl
      | _ => rfl
  | _ => rfl

end Pattern

namespace Declaration

theorem isReadable_of_isFinite {declaration : Declaration}
    (finite : declaration.isFinite = true) : declaration.head.isReadable = true := by
  simp only [isFinite, Head.isFinite, Bool.and_eq_true, List.all_eq_true] at finite
  exact List.all_eq_true.mpr fun pattern member =>
    Pattern.isReadable_of_isFinite (finite.1.1 pattern member)

/-- What a declaration with finite numbers is read as again is the same code. -/
theorem bare_of_readsAs {declaration declaration' : Declaration}
    (read : declaration.ReadsAs declaration') (finite : declaration.isFinite = true) :
    declaration'.bare = declaration.bare := by
  rw [← bare_settled finite, bare, read]

end Declaration

namespace Module

variable {file text : String} {module : Module}

theorem bare_of_readsAs {module' : Module}
    (allRead : List.Forall₂ Declaration.ReadsAs module.declarations module'.declarations)
    (finite : module.isFinite = true) : module'.bare = module.bare := by
  have finiteReads : List.Forall₂ (fun declaration declaration' =>
      declaration.isFinite = true ∧ Declaration.ReadsAs declaration declaration')
      module.declarations module'.declarations :=
    (List.forall₂_and_left _ _).mpr ⟨List.all_eq_true.mp finite, allRead⟩
  have each : List.Forall₂ (· = ·) (module.declarations.map Declaration.bare)
      (module'.declarations.map Declaration.bare) := by
    rw [List.forall₂_map_left_iff, List.forall₂_map_right_iff]
    exact finiteReads.imp fun _ _ both => (Declaration.bare_of_readsAs both.2 both.1).symm
  have same : module.declarations.map Declaration.bare =
      module'.declarations.map Declaration.bare := by
    rwa [List.forall₂_eq_eq_eq] at each
  rw [bare, bare, same]

/-- The text that a module is formatted as is read again, and the module that it writes has the same
declarations in the same order: the same keywords, heads, patterns, guards and bodies. -/
theorem print_preserves (read : Module.read file text = .ok module)
    (finite : module.isFinite = true) (short : module.hasNotation = true) (file' : String) :
    ∃ module', Module.read file' module.print = .ok module' ∧ module'.bare = module.bare := by
  have readable : ∀ declaration ∈ module.declarations, declaration.head.isReadable = true :=
    fun declaration member =>
      Declaration.isReadable_of_isFinite (List.all_eq_true.mp finite declaration member)
  rcases read_print (isPrintable_of_read read short) readable file' with
    ⟨module', read', allRead⟩
  exact ⟨module', read', bare_of_readsAs allRead finite⟩

/-- A declaration with signs, a list tail, a map, an alternative and a pipe into a call. -/
def guardedSource : String :=
  "/// Adds.\npipe add(x, [h | t]) when not x < -1 and h == %\x7ba: 1.5\x7d ->\n" ++
    "  (x |> f(2) <|> Ok(-x.y)) * 10\n"

theorem print_preserves_guardedSource :
    ∃ module module', Module.read "source" guardedSource = .ok module ∧
      module.isFinite = true ∧ module.hasNotation = true ∧
      Module.read "printed" module.print = .ok module' ∧ module'.bare = module.bare := by
  have found : (Module.read "source" guardedSource).toOption.any
      (fun module => module.isFinite && module.hasNotation) = true := by
    decide +kernel
  rcases exists_of_any_read found with ⟨module, read, both⟩
  rcases Bool.and_eq_true_iff.mp both with ⟨finite, short⟩
  rcases print_preserves read finite short "printed" with ⟨module', read', same⟩
  exact ⟨module, module', read, finite, short, read', same⟩

end Module
end ClauseFlow
