import Mathlib.Data.List.Flatten
import ClauseFlow.Text.Lines

/-!
# Lines joined again

Lines that are joined by line feeds are the lines of the joined text, save that an empty line at the
end is lost: a break after the last line begins no further one.
-/

namespace ClauseFlow.Text

/-- Whether no line ends inside a text. -/
def IsOneLine (text : List Char) : Prop :=
  ∀ c ∈ text, isLineBreak c = false

/-- Whether a text is nothing but closed lines. -/
def IsClosed (text : List Char) : Prop :=
  ∀ c ∈ text.getLast?, c = '\n'

theorem splitLines_cons {c : Char} (plain : isLineBreak c = false) (rest : List Char) :
    splitLines (c :: rest) =
      match splitLines rest with
      | [] => [([c], [])]
      | (line, ending) :: more => (c :: line, ending) :: more := by
  have noReturn : c ≠ '\r' := by
    rintro rfl
    cases plain
  rw [splitLines.eq_def]
  split
  · rename_i empty
    cases empty
  · rename_i same
    exact absurd (List.cons.inj same).1 noReturn
  · rename_i same
    obtain ⟨rfl, rfl⟩ := List.cons.inj same
    rw [plain]
    rfl

/-- No line has a break in it. -/
theorem isOneLine_of_mem_splitLines {text : List Char} :
    ∀ line ∈ splitLines text, IsOneLine line.1 := by
  fun_induction splitLines text with
  | case1 => exact List.forall_mem_nil _
  | case2 rest ih => exact List.forall_mem_cons.mpr ⟨List.forall_mem_nil _, ih⟩
  | case3 c rest _ _ ih => exact List.forall_mem_cons.mpr ⟨List.forall_mem_nil _, ih⟩
  | case4 c rest _ plain empty ih =>
      have single : IsOneLine [c] := by
        rintro d member
        rw [List.mem_singleton.mp member]
        simpa using plain
      exact List.forall_mem_singleton.mpr single
  | case5 c rest _ plain line ending more eq ih =>
      rw [eq] at ih
      rcases List.forall_mem_cons.mp ih with ⟨here, others⟩
      have first : isLineBreak c = false := by simpa using plain
      exact List.forall_mem_cons.mpr ⟨List.forall_mem_cons.mpr ⟨first, here⟩, others⟩

theorem isOneLine_of_mem_lines {text line : String} (member : line ∈ lines text) :
    IsOneLine line.toList := by
  rcases List.mem_map.mp member with ⟨found, inside, rfl⟩
  rw [String.toList_ofList]
  exact isOneLine_of_mem_splitLines found inside

theorem splitLines_append_feed {line : List Char} (whole : IsOneLine line) (rest : List Char) :
    splitLines (line ++ '\n' :: rest) = (line, ['\n']) :: splitLines rest := by
  induction line with
  | nil => rfl
  | cons c line ih =>
      rcases List.forall_mem_cons.mp whole with ⟨plain, others⟩
      rw [List.cons_append, splitLines_cons plain, ih others]

theorem splitLines_of_isOneLine {line : List Char} (whole : IsOneLine line) (some : line ≠ []) :
    splitLines line = [(line, [])] := by
  induction line with
  | nil => exact absurd rfl some
  | cons c line ih =>
      rcases List.forall_mem_cons.mp whole with ⟨plain, others⟩
      rw [splitLines_cons plain]
      cases line with
      | nil => rfl
      | cons d line => rw [ih others (List.cons_ne_nil _ _)]

theorem splitLines_eq_nil {text : List Char} : splitLines text = [] ↔ text = [] := by
  constructor
  · intro none
    have whole := flatten_splitLines text
    rw [none] at whole
    exact whole.symm
  · rintro rfl
    rfl

theorem lines_eq_nil {text : String} : lines text = [] ↔ text = "" := by
  rw [lines, List.map_eq_nil_iff, splitLines_eq_nil, String.toList_eq_nil_iff]

/-! ## Joining -/

/-- Joining lines and cutting the text again loses just an empty line at the end. -/
theorem lines_join {texts : List String} (each : ∀ text ∈ texts, IsOneLine text.toList) :
    lines (join "\n" texts) =
      if texts.getLast? = some "" then texts.dropLast else texts := by
  fun_induction join "\n" texts with
  | case1 => rfl
  | case2 last =>
      by_cases empty : last = ""
      · subst empty
        rfl
      · have single : splitLines last.toList = [(last.toList, [])] :=
          splitLines_of_isOneLine (each last (.head _)) (by simpa using empty)
        rw [lines, single]
        simp [empty]
  | case3 first rest several ih =>
      rcases List.forall_mem_cons.mp each with ⟨here, others⟩
      have cut : lines (first ++ "\n" ++ join "\n" rest) = first :: lines (join "\n" rest) := by
        have feed : "\n".toList = ['\n'] := rfl
        rw [lines, String.toList_append, String.toList_append, feed, List.append_assoc,
          List.singleton_append, splitLines_append_feed here, List.map_cons, String.ofList_toList]
        rfl
      rw [cut, ih others]
      cases rest with
      | nil => exact absurd rfl several
      | cons second rest =>
          rw [List.getLast?_cons_cons, List.dropLast_cons_cons]
          split <;> rfl

/-- The characters of lines, each with a line feed after it. -/
def ofLines (texts : List String) : List Char :=
  texts.flatMap fun text => text.toList ++ ['\n']

theorem toList_join {texts : List String} (nonempty : texts ≠ []) :
    (join "\n" texts ++ "\n").toList = ofLines texts := by
  rw [String.toList_append]
  fun_induction join "\n" texts with
  | case1 => exact absurd rfl nonempty
  | case2 last => exact (List.append_nil _).symm
  | case3 first rest several ih =>
      have others := ih several
      rw [String.toList_append, String.toList_append, List.append_assoc, List.append_assoc,
        others, ofLines, ofLines, List.flatMap_cons, List.append_assoc]
      rfl

/-- Fewer lines have fewer characters. -/
theorem eq_of_ofLines_eq {texts texts' : List String} (inside : texts'.Sublist texts)
    (same : ofLines texts' = ofLines texts) : texts' = texts := by
  induction inside with
  | slnil => rfl
  | @cons texts' texts text inside ih =>
      have fewer : (ofLines texts').length ≤ (ofLines texts).length :=
        (inside.flatMap _).length_le
      have lengths := congrArg List.length same
      rw [ofLines, ofLines, List.flatMap_cons, List.length_append, List.length_append,
        List.length_singleton] at lengths
      rw [ofLines, ofLines] at fewer
      omega
  | @cons_cons texts' texts text inside ih =>
      rw [ofLines, ofLines, List.flatMap_cons, List.flatMap_cons] at same
      rw [ih (List.append_cancel_left same)]

end ClauseFlow.Text
