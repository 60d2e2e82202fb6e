import ClauseFlow.Pattern

/-!
# Properties of all parts of a pattern

Tests that hold of a pattern together with every pattern in it.
-/

namespace ClauseFlow.Pattern

mutual

/-- Whether a test holds of a pattern and of every pattern in it. -/
def every (test : Pattern → Bool) : Pattern → Bool
  | .literal value span => test (.literal value span)
  | .wildcard span => test (.wildcard span)
  | .binding name span => test (.binding name span)
  | .tuple elements span => test (.tuple elements span) && everyOfAll test elements
  | .list elements none span => test (.list elements none span) && everyOfAll test elements
  | .list elements (some tail) span =>
      test (.list elements (some tail) span) && everyOfAll test elements && every test tail
  | .map entries span => test (.map entries span) && everyOfEntries test entries
  | .record tag entries span => test (.record tag entries span) && everyOfEntries test entries
  | .result tag inner span => test (.result tag inner span) && every test inner
  | .named inner name span => test (.named inner name span) && every test inner

def everyOfAll (test : Pattern → Bool) : List Pattern → Bool
  | [] => true
  | pattern :: rest => every test pattern && everyOfAll test rest

def everyOfEntries (test : Pattern → Bool) : List (String × Pattern) → Bool
  | [] => true
  | (_, pattern) :: rest => every test pattern && everyOfEntries test rest

end

variable {test : Pattern → Bool}

theorem everyOfAll_iff {patterns : List Pattern} :
    everyOfAll test patterns = true ↔ ∀ pattern ∈ patterns, every test pattern = true := by
  induction patterns with
  | nil => simp [everyOfAll]
  | cons pattern rest ih => simp [everyOfAll, ih]

theorem everyOfEntries_iff {entries : List (String × Pattern)} :
    everyOfEntries test entries = true ↔ ∀ entry ∈ entries, every test entry.2 = true := by
  induction entries with
  | nil => simp [everyOfEntries]
  | cons entry rest ih => simp [everyOfEntries, ih]

mutual

/-- What a test implies of a pattern it implies of all parts. -/
theorem every_mono {weaker : Pattern → Bool}
    (implies : ∀ pattern, test pattern = true → weaker pattern = true) :
    ∀ {pattern : Pattern}, every test pattern = true → every weaker pattern = true
  | .literal .., holds | .wildcard _, holds | .binding .., holds => implies _ holds
  | .tuple .., holds | .list _ none _, holds => by
      simp only [every, Bool.and_eq_true] at holds ⊢
      exact ⟨implies _ holds.1, everyOfAll_mono implies holds.2⟩
  | .list _ (some _) _, holds => by
      simp only [every, Bool.and_eq_true] at holds ⊢
      exact ⟨⟨implies _ holds.1.1, everyOfAll_mono implies holds.1.2⟩, every_mono implies holds.2⟩
  | .map .., holds | .record .., holds => by
      simp only [every, Bool.and_eq_true] at holds ⊢
      exact ⟨implies _ holds.1, everyOfEntries_mono implies holds.2⟩
  | .result .., holds | .named .., holds => by
      simp only [every, Bool.and_eq_true] at holds ⊢
      exact ⟨implies _ holds.1, every_mono implies holds.2⟩

theorem everyOfAll_mono {weaker : Pattern → Bool}
    (implies : ∀ pattern, test pattern = true → weaker pattern = true) :
    ∀ {patterns : List Pattern}, everyOfAll test patterns = true →
      everyOfAll weaker patterns = true
  | [], _ => rfl
  | _ :: _, holds => by
      simp only [everyOfAll, Bool.and_eq_true] at holds ⊢
      exact ⟨every_mono implies holds.1, everyOfAll_mono implies holds.2⟩

theorem everyOfEntries_mono {weaker : Pattern → Bool}
    (implies : ∀ pattern, test pattern = true → weaker pattern = true) :
    ∀ {entries : List (String × Pattern)}, everyOfEntries test entries = true →
      everyOfEntries weaker entries = true
  | [], _ => rfl
  | _ :: _, holds => by
      simp only [everyOfEntries, Bool.and_eq_true] at holds ⊢
      exact ⟨every_mono implies holds.1, everyOfEntries_mono implies holds.2⟩

end

mutual

/-- Two tests of all parts are one. -/
theorem every_and {other : Pattern → Bool} : ∀ {pattern : Pattern}, every test pattern = true →
    every other pattern = true → every (fun part => test part && other part) pattern = true
  | .literal .., holds, holds' | .wildcard _, holds, holds' | .binding .., holds, holds' =>
      Bool.and_eq_true_iff.mpr ⟨holds, holds'⟩
  | .tuple .., holds, holds' | .list _ none _, holds, holds' => by
      simp only [every, Bool.and_eq_true] at holds holds' ⊢
      exact ⟨⟨holds.1, holds'.1⟩, everyOfAll_and holds.2 holds'.2⟩
  | .list _ (some _) _, holds, holds' => by
      simp only [every, Bool.and_eq_true] at holds holds' ⊢
      exact ⟨⟨⟨holds.1.1, holds'.1.1⟩, everyOfAll_and holds.1.2 holds'.1.2⟩,
        every_and holds.2 holds'.2⟩
  | .map .., holds, holds' | .record .., holds, holds' => by
      simp only [every, Bool.and_eq_true] at holds holds' ⊢
      exact ⟨⟨holds.1, holds'.1⟩, everyOfEntries_and holds.2 holds'.2⟩
  | .result .., holds, holds' | .named .., holds, holds' => by
      simp only [every, Bool.and_eq_true] at holds holds' ⊢
      exact ⟨⟨holds.1, holds'.1⟩, every_and holds.2 holds'.2⟩

theorem everyOfAll_and {other : Pattern → Bool} : ∀ {patterns : List Pattern},
    everyOfAll test patterns = true → everyOfAll other patterns = true →
      everyOfAll (fun part => test part && other part) patterns = true
  | [], _, _ => rfl
  | _ :: _, holds, holds' => by
      simp only [everyOfAll, Bool.and_eq_true] at holds holds' ⊢
      exact ⟨every_and holds.1 holds'.1, everyOfAll_and holds.2 holds'.2⟩

theorem everyOfEntries_and {other : Pattern → Bool} : ∀ {entries : List (String × Pattern)},
    everyOfEntries test entries = true → everyOfEntries other entries = true →
      everyOfEntries (fun part => test part && other part) entries = true
  | [], _, _ => rfl
  | _ :: _, holds, holds' => by
      simp only [everyOfEntries, Bool.and_eq_true] at holds holds' ⊢
      exact ⟨every_and holds.1 holds'.1, everyOfEntries_and holds.2 holds'.2⟩

end

end ClauseFlow.Pattern
