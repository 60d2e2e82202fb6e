import ClauseFlow.Build
import ClauseFlow.Proofs.Parse.Progress

/-!
# What a build ends in

A build ends in a program and no error, or in no program and some error. The one thing that keeps a
text from being built at all is a numeral in it that denotes no number: reading never runs out of
fuel, checking never leaves the scope of the module (`Checker.run_eq`), and putting the clauses in
order is total.
-/

namespace ClauseFlow

/-- Whether some diagnostics report an error and nothing less grave. -/
structure Diagnostic.AreErrors (found : List Diagnostic) : Prop where
  some : found ≠ []
  each : ∀ diagnostic ∈ found, diagnostic.isError = true

theorem Diagnostic.areErrors_map {α : Type} {found : List α} {report : α → Diagnostic}
    (some : found ≠ []) (each : ∀ error ∈ found, (report error).isError = true) :
    AreErrors (found.map report) :=
  ⟨mt List.map_eq_nil_iff.mp some, List.forall_mem_map.mpr each⟩

/-! ## Reading -/

/-- The tokens of a text, or errors. -/
theorem TokenStream.read_outcome (file text : String) :
    (∃ stream, TokenStream.ofText file text = .ok stream ∧
      TokenStream.read file text = .ok stream) ∨
    ∃ found, TokenStream.read file text = .error (.diagnostics found) ∧
      Diagnostic.AreErrors found := by
  cases streamed : TokenStream.ofText file text with
  | ok stream =>
      left
      refine ⟨stream, rfl, ?_⟩
      rw [TokenStream.read, streamed]
      rfl
  | error found =>
      right
      refine ⟨found, ?_, ?_⟩
      · rw [TokenStream.read, streamed]
        rfl
      · simp only [ofText] at streamed
        split at streamed
        · cases streamed
        · rename_i some
          cases streamed
          exact Diagnostic.areErrors_map some fun _ _ => rfl

/-- A step over a whole stream answers or reports errors, or comes to a numeral that denotes no
number. -/
theorem Parse.run_outcome {α : Type} {good : α → Prop} {step : Parse α} {stream : TokenStream}
    (legible : (Cursor.ofStream stream).IsLegible) (finds : Finds good step)
    (takes : Takes stream (limit stream) 0 step) :
    (∃ value, run step stream = .ok value) ∨
    (∃ found, run step stream = .error (.diagnostics found) ∧ Diagnostic.AreErrors found) ∨
    run step stream = .error (.fault .unreadableNumeral) ∧ stream.HasUnreadable := by
  have outcome := takes (Cursor.ofStream stream) ⟨List.suffix_refl _, rfl, legible.2⟩ trivial
    (Nat.lt_succ_self _)
  rw [run]
  cases ended : step (Cursor.ofStream stream) with
  | ok value next =>
      by_cases clean : next.errors = []
      · exact .inl ⟨value, if_pos (List.isEmpty_iff.mpr clean)⟩
      · exact .inr (.inl ⟨_, if_neg (mt List.isEmpty_iff.mp clean),
          Diagnostic.areErrors_map clean fun _ _ => rfl⟩)
  | error stop next =>
      rw [ended] at outcome
      cases stop with
      | syntaxError =>
          exact .inr (.inl ⟨_, rfl,
            Diagnostic.areErrors_map ((finds _ legible).2 next ended).2 fun _ _ => rfl⟩)
      | unreadableNumeral => exact .inr (.inr ⟨rfl, outcome⟩)
      | tooDeep => exact outcome.elim

/-- A text is read as a module or refused with errors, unless a numeral in it denotes no number. -/
theorem Module.read_outcome (file text : String) :
    (∃ module, Module.read file text = .ok module) ∨
    (∃ found, Module.read file text = .error (.diagnostics found) ∧
      Diagnostic.AreErrors found) ∨
    Module.read file text = .error (.fault .unreadableNumeral) ∧
      ∃ stream, TokenStream.ofText file text = .ok stream ∧ stream.HasUnreadable := by
  rw [Module.read]
  rcases TokenStream.read_outcome file text with ⟨stream, streamed, read⟩ | ⟨found, read, errors⟩
  · rw [read]
    have legible : (Cursor.ofStream stream).IsLegible := TokenStream.ofText_legible streamed
    rcases Parse.run_outcome legible (Parse.wholeModule_finds _) (Parse.wholeModule_takes _) with
      answers | reports | ⟨stops, unreadable⟩
    · exact .inl answers
    · exact .inr (.inl reports)
    · exact .inr (.inr ⟨stops, stream, streamed, unreadable⟩)
  · rw [read]
    exact .inr (.inl ⟨found, rfl, errors⟩)

/-! ## Building -/

namespace Build

/-- Whether a build says what came of the text: a program without any error, or errors. -/
def IsConclusive (build : Build) : Prop :=
  (build.succeeded = true ∧ build.errors = []) ∨ (build.succeeded = false ∧ build.errors ≠ [])

theorem isConclusive_ofModule (module : Module) : (ofModule module).IsConclusive := by
  have sameErrors : (ofModule module).errors =
      ((Checker.check module).filter Finding.isError).map Finding.diagnostic := by
    simp only [errors, ofModule, List.filter_map]
    rfl
  cases refuses : (Checker.check module).any Finding.isError with
  | false =>
      refine .inl ⟨by simp only [succeeded, ofModule, refuses]; rfl, ?_⟩
      rw [sameErrors, List.filter_eq_nil_iff.mpr (List.any_eq_false.mp refuses), List.map_nil]
  | true =>
      rcases List.any_eq_true.mp refuses with ⟨finding, found, isError⟩
      refine .inr ⟨by simp only [succeeded, ofModule, refuses]; rfl, ?_⟩
      rw [sameErrors]
      exact List.ne_nil_of_mem (List.mem_map_of_mem (List.mem_filter.mpr ⟨found, isError⟩))

theorem isConclusive_refused {found : List Diagnostic} (errors : Diagnostic.AreErrors found) :
    (refused found).IsConclusive := by
  refine .inr ⟨rfl, ?_⟩
  rw [Build.errors, refused, List.filter_eq_self.mpr errors.each]
  exact errors.some

/-- Every text has a build, with a program or with errors, unless it is cut into tokens among which
there is a numeral that denotes no number. -/
theorem isConclusive_ofText (file text : String) :
    (∃ build, ofText file text = .ok build ∧ build.IsConclusive) ∨
    ofText file text = .error .unreadableNumeral ∧
      ∃ stream, TokenStream.ofText file text = .ok stream ∧ stream.HasUnreadable := by
  rw [ofText]
  rcases Module.read_outcome file text with
    ⟨module, read⟩ | ⟨found, read, errors⟩ | ⟨read, unreadable⟩
  · rw [read]
    exact .inl ⟨_, rfl, isConclusive_ofModule module⟩
  · rw [read]
    exact .inl ⟨_, rfl, isConclusive_refused errors⟩
  · rw [read]
    exact .inr ⟨rfl, unreadable⟩

/-- An underscore counts as a digit after `0x`, but there is no number without any other: the text
has no build, not even one with an error. -/
theorem no_build_without_digits :
    ¬∃ build, ofText "mask.pipe" "def mask() -> 0x_" = .ok build := by
  rintro ⟨build, built⟩
  have fails : ofText "mask.pipe" "def mask() -> 0x_" = .error .unreadableNumeral := by rfl
  rw [fails] at built
  cases built

end Build
end ClauseFlow
