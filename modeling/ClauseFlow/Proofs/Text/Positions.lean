import Mathlib.Data.List.DropRight
import Mathlib.Data.Prod.Lex
import Mathlib.Tactic.NormNum
import ClauseFlow.Span

/-!
# Places in a text

Places are ordered as a text is read. The place behind some characters counts their lines by the
line feeds among them and its column by the characters after the last one, so that it is further on
the more characters come before it.
-/

namespace ClauseFlow

namespace Position

/-! ## Order -/

def key (place : Position) : Int ×ₗ Int :=
  toLex (place.line, place.column)

theorem key_injective : Function.Injective key := by
  intro place place' same
  cases place
  cases place'
  simpa [key] using same

instance : LinearOrder Position :=
  LinearOrder.lift' key key_injective

theorem lt_iff {place place' : Position} :
    place < place' ↔
      place.line < place'.line ∨ place.line = place'.line ∧ place.column < place'.column :=
  Prod.Lex.toLex_lt_toLex

theorem le_iff {place place' : Position} :
    place ≤ place' ↔
      place.line < place'.line ∨ place.line = place'.line ∧ place.column ≤ place'.column :=
  Prod.Lex.toLex_le_toLex

/-! ## Places behind characters -/

variable {place : Position} {text : List Char}

@[simp]
theorem after_nil : place.after [] = place :=
  rfl

@[simp]
theorem after_cons {c : Char} : place.after (c :: text) = (place.next c).after text :=
  rfl

theorem after_append (text' : List Char) :
    place.after (text ++ text') = (place.after text).after text' :=
  List.foldl_append

theorem lt_next (place : Position) (c : Char) : place < place.next c := by
  rw [lt_iff, next]
  split
  · exact .inl (lt_add_one _)
  · exact .inr ⟨rfl, lt_add_one _⟩

theorem le_after (place : Position) (text : List Char) : place ≤ place.after text := by
  induction text generalizing place with
  | nil => exact le_refl place
  | cons c text ih => exact (lt_next place c).le.trans (ih _)

theorem lt_after (place : Position) (some : text ≠ []) : place < place.after text := by
  cases text with
  | nil => exact absurd rfl some
  | cons c text => exact (lt_next place c).trans_le (le_after _ text)

theorem after_of_noFeed (place : Position) (noFeed : '\n' ∉ text) :
    place.after text = ⟨place.line, place.column + text.length⟩ := by
  induction text generalizing place with
  | nil => simp
  | cons c text ih =>
      rcases List.ne_and_not_mem_of_not_mem_cons noFeed with ⟨here, others⟩
      rw [after_cons, ih _ others, next, if_neg here.symm]
      simp only [List.length_cons, Nat.cast_add, Nat.cast_one]
      rw [add_assoc, add_comm 1 (text.length : Int)]

/-- The place behind the characters that a text begins with. -/
def behind (before : List Char) : Position :=
  ⟨1 + before.count '\n', 1 + (before.rtakeWhile (· ≠ '\n')).length⟩

theorem first_after (before : List Char) : first.after before = behind before := by
  induction before using List.reverseRecOn with
  | nil => rfl
  | append_singleton before c ih =>
      rw [after_append, ih, after_cons, after_nil, next, behind, behind]
      split
      · rename_i feed
        subst feed
        rw [List.rtakeWhile_concat_neg _ _ _ (by decide), List.count_append]
        simp [add_assoc]
      · rename_i noFeed
        rw [List.rtakeWhile_concat_pos _ _ _ (by simpa using noFeed), List.count_append]
        simp [noFeed, add_assoc]

theorem behind_append (before text : List Char) :
    behind (before ++ text) = (behind before).after text := by
  rw [← first_after, ← first_after, after_append]

theorem one_le_column (before : List Char) : 1 ≤ (behind before).column := by
  simp [behind]

/-- A text has one beginning for each place. -/
theorem eq_of_behind_eq {before before' : List Char} (inside : before <+: text)
    (inside' : before' <+: text) (same : behind before = behind before') : before = before' := by
  rcases List.prefix_or_prefix_of_prefix inside inside' with ⟨more, rfl⟩ | ⟨more, rfl⟩
  · rw [behind_append] at same
    by_contra differs
    have some : more ≠ [] := by
      rintro rfl
      exact differs (List.append_nil before).symm
    exact (lt_after _ some).ne same
  · rw [behind_append] at same
    by_contra differs
    have some : more ≠ [] := by
      rintro rfl
      exact differs (List.append_nil before')
    exact (lt_after _ some).ne same.symm

/-! ## The place before -/

/-- What comes before a place ends at the place before it at the latest. -/
theorem le_previous {stop : Position} (earlier : place < stop) :
    place ≤ ⟨stop.line, stop.previousColumn⟩ := by
  rw [lt_iff] at earlier
  rw [le_iff, previousColumn]
  split <;> simp only <;> omega

theorem first_le_previous (before : List Char) :
    first ≤ ⟨(behind before).line, (behind before).previousColumn⟩ := by
  have line : 1 ≤ (behind before).line := by simp [behind]
  have column : 1 ≤ (behind before).previousColumn := by
    rw [previousColumn]
    split <;> omega
  rw [le_iff, first]
  simp only
  omega

end Position

namespace Span

/-- The place of the first character of a span. -/
def first (span : Span) : Position :=
  ⟨span.startLine, span.startColumn⟩

/-- The place of the last character of a span. -/
def last (span : Span) : Position :=
  ⟨span.endLine, span.endColumn⟩

/-- The place right behind a span. -/
def stop (span : Span) : Position :=
  ⟨span.endLine, span.endColumn + 1⟩

@[simp]
theorem first_through (before after : Span) : (before.through after).first = before.first :=
  rfl

@[simp]
theorem last_through (before after : Span) : (before.through after).last = after.last :=
  rfl

/-- The span of characters that stand behind others, from the place of the first to the place of the
last one. -/
def ofChars (file : String) (before text : List Char) : Span :=
  let start := Position.behind before
  let stop := Position.behind (before ++ text.dropLast)
  ⟨file, start.line, start.column, stop.line, stop.column⟩

theorem first_le_last_ofChars (file : String) (before text : List Char) :
    (ofChars file before text).first ≤ (ofChars file before text).last := by
  have after : (ofChars file before text).last = (Position.behind before).after text.dropLast :=
    Position.behind_append before text.dropLast
  rw [after]
  exact Position.le_after _ _

theorem last_ofChars_lt (file : String) (before : List Char) {text : List Char} (some : text ≠ []) :
    (ofChars file before text).last < Position.behind (before ++ text) := by
  have whole : before ++ text = before ++ text.dropLast ++ [text.getLast some] := by
    rw [List.append_assoc, List.dropLast_append_getLast]
  rw [whole, Position.behind_append]
  exact Position.lt_after _ (List.cons_ne_nil _ _)

theorem ofChars_eq (file : String) (before : List Char) {text : List Char} (some : text ≠ [])
    (noFeed : '\n' ∉ text) :
    ofChars file before text =
      ⟨file, (Position.behind before).line, (Position.behind before).column,
        (Position.behind before).line, (Position.behind before).column + text.length - 1⟩ := by
  have noFeed' : '\n' ∉ text.dropLast := fun member => noFeed (List.dropLast_subset _ member)
  have size : 0 < text.length := List.length_pos_iff.mpr some
  rw [ofChars, Position.behind_append, Position.after_of_noFeed _ noFeed', List.length_dropLast]
  simp only [Span.mk.injEq, true_and]
  omega

theorem stop_ofChars (file : String) (before : List Char) {text : List Char} (some : text ≠ [])
    (noFeed : '\n' ∉ text) :
    (ofChars file before text).stop = Position.behind (before ++ text) := by
  rw [ofChars_eq file before some noFeed, Position.behind_append,
    Position.after_of_noFeed _ noFeed, stop, sub_add_cancel]

end Span

/-- A span that ends right before the place behind its characters is the span of these. -/
theorem Position.upTo_behind (file : String) (before : List Char) {text : List Char}
    (some : text ≠ []) (noFeed : '\n' ∉ text) :
    upTo file (behind before) (behind (before ++ text)) = Span.ofChars file before text := by
  have column := one_le_column before
  have size : 0 < text.length := List.length_pos_iff.mpr some
  rw [upTo, Span.ofChars_eq file before some noFeed, behind_append, after_of_noFeed _ noFeed,
    previousColumn, if_pos (by simp only; omega)]

end ClauseFlow
