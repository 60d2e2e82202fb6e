import ClauseFlow.Text.Listing
import ClauseFlow.Text.Literal
import Mathlib.Tactic.SplitIfs

/-!
# Texts as they are read

Reading a file turns every line break into a line feed. A text without carriage returns is read as
it is written, and nothing is read with one.
-/

namespace ClauseFlow.Text

/-! ## Carriage returns -/

/-- Whether no carriage return occurs in a text. -/
def isReturnFree (text : String) : Bool :=
  !text.toList.contains '\r'

theorem isReturnFree_iff {text : String} : isReturnFree text = true ↔ '\r' ∉ text.toList := by
  simp [isReturnFree]

theorem isReturnFree_eq_false_iff {text : String} :
    isReturnFree text = false ↔ '\r' ∈ text.toList := by
  simp [isReturnFree]

@[simp]
theorem isReturnFree_append (text text' : String) :
    isReturnFree (text ++ text') = (isReturnFree text && isReturnFree text') := by
  simp [isReturnFree, Bool.not_or]

theorem isReturnFree_join {separator : String} (plain : isReturnFree separator = true) :
    ∀ texts : List String, isReturnFree (join separator texts) = texts.all isReturnFree
  | [] => rfl
  | [_] => (Bool.and_true _).symm
  | first :: second :: rest => by
      rw [join, isReturnFree_append, isReturnFree_append, plain,
        isReturnFree_join plain (second :: rest), Bool.and_true]
      rfl
      nofun

@[simp]
theorem isReturnFree_commas (texts : List String) :
    isReturnFree (commas texts) = texts.all isReturnFree :=
  isReturnFree_join (by decide) texts

@[simp]
theorem isReturnFree_keyed (entries : List (String × String)) :
    isReturnFree (keyed entries) =
      entries.all fun entry => isReturnFree entry.1 && isReturnFree entry.2 := by
  have colon : isReturnFree ": " = true := by decide
  simp [keyed, colon, Function.comp_def]

@[simp]
theorem isReturnFree_braced (text : String) : isReturnFree (braced text) = isReturnFree text := by
  have opening : isReturnFree "\x7b" = true := by decide
  have closing : isReturnFree "\x7d" = true := by decide
  simp [braced, opening, closing]

@[simp]
theorem isReturnFree_bracketed (items : String) (tail : Option String) :
    isReturnFree (bracketed items tail) =
      (isReturnFree items && (tail.map isReturnFree).getD true) := by
  have opening : isReturnFree "[" = true := by decide
  have closing : isReturnFree "]" = true := by decide
  have bar : isReturnFree " | " = true := by decide
  cases tail <;> simp [bracketed, opening, closing, bar]

/-- A carriage return in a text is not escaped. -/
@[simp]
theorem isReturnFree_literal (text : String) : isReturnFree (literal text) = isReturnFree text := by
  have each (c : Char) : '\r' ∈ literalChar c ↔ '\r' = c := by
    rw [literalChar]
    split_ifs with slash quote feed tab
    · simp [slash]
    · simp [quote]
    · simp [feed]
    · simp [tab]
    · exact List.mem_singleton
  rw [Bool.eq_iff_iff, isReturnFree_iff, isReturnFree_iff, literal, String.toList_ofList]
  simp [each]

/-! ## Reading -/

/-- What is read of a file that holds a text. -/
def asRead (text : String) : String :=
  String.ofList (unifyLineFeeds text.toList)

theorem unifyLineFeeds_cons_of_ne {c : Char} (plain : c ≠ '\r') (rest : List Char) :
    unifyLineFeeds (c :: rest) = c :: unifyLineFeeds rest := by
  rw [unifyLineFeeds.eq_def]
  split
  · rename_i same
    cases same
  · rename_i same
    cases same
    exact absurd rfl plain
  · rename_i same
    cases same
    exact absurd rfl plain
  · rename_i same
    cases same
    rfl

/-- A line feed is read in the place of a carriage return. -/
theorem unifyLineFeeds_return (rest : List Char) :
    ∃ rest', unifyLineFeeds ('\r' :: rest) = '\n' :: rest' := by
  rw [unifyLineFeeds.eq_def]
  split
  · rename_i same
    cases same
  · exact ⟨_, rfl⟩
  · exact ⟨_, rfl⟩
  · rename_i other same
    cases same
    exact (other rfl).elim

/-- What comes before the first carriage return is read as it is. -/
theorem unifyLineFeeds_append {before : List Char} (plain : '\r' ∉ before) (rest : List Char) :
    unifyLineFeeds (before ++ rest) = before ++ unifyLineFeeds rest := by
  induction before with
  | nil => rfl
  | cons c before ih =>
      rcases not_or.mp (mt List.mem_cons.mpr plain) with ⟨differs, others⟩
      rw [List.cons_append, unifyLineFeeds_cons_of_ne (Ne.symm differs), ih others]
      rfl

/-- A text without carriage returns is read as it is. -/
theorem asRead_of_isReturnFree {text : String} (plain : isReturnFree text = true) :
    asRead text = text := by
  have same := unifyLineFeeds_append (isReturnFree_iff.mp plain) []
  rw [List.append_nil, unifyLineFeeds, List.append_nil] at same
  rw [asRead, same, String.ofList_toList]

/-- Nothing is read with a carriage return. -/
theorem isReturnFree_asRead (text : String) : isReturnFree (asRead text) = true := by
  have none (text : List Char) : '\r' ∉ unifyLineFeeds text := by
    fun_induction unifyLineFeeds text with
    | case1 => exact List.not_mem_nil
    | case2 rest ih => simpa using ih
    | case3 rest _ ih => simpa using ih
    | case4 c rest _ other ih => exact List.not_mem_cons_of_ne_of_not_mem (Ne.symm other) ih
  rw [isReturnFree_iff, asRead, String.toList_ofList]
  exact none _

end ClauseFlow.Text
