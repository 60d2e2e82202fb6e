import ClauseFlow.Proofs.Parse.Declarations

/-!
# Formatting twice

The text of a module and the text of what is read from it have the same code and the same blank
lines. They differ in the documentation: an empty line at its end is lost each time. So formatting
twice yields identical text just where no printed documentation ends in an empty line.
-/

namespace ClauseFlow

namespace Declaration

variable {declaration declaration' : Declaration}

/-! ## The code -/

theorem codeText_unplaced (declaration : Declaration) :
    declaration.unplaced.codeText = declaration.codeText := by
  rw [codeText, codeText, unplaced, Head.print_unplaced, Expr.print_unplaced]

theorem codeText_settled (declaration : Declaration) :
    declaration.settled.codeText = declaration.codeText := by
  rw [codeText, codeText, settled, Head.print_settled, Expr.print_settled]

theorem codeText_of_readsAs (read : declaration.ReadsAs declaration') :
    declaration'.codeText = declaration.codeText := by
  rw [← codeText_unplaced, read, codeText_settled]

theorem name_of_readsAs (read : declaration.ReadsAs declaration') :
    declaration'.head.name = declaration.head.name := by
  have head : declaration'.head.unplaced = declaration.head.settled := congrArg Declaration.head read
  rw [← Head.name_rebuild Pattern.unplaced Expr.unplaced declaration'.head]
  exact (congrArg Head.name head).trans (Head.name_rebuild _ _ declaration.head)

theorem hasNotation_unplaced (declaration : Declaration) :
    declaration.unplaced.hasNotation = declaration.hasNotation :=
  congrArg₂ (· && ·)
    (Head.hasNotation_rebuild (Pattern.hasNotation_rebuild fun _ => rfl)
      (Expr.hasNotation_rebuild fun _ => rfl) declaration.head)
    (Expr.hasNotation_rebuild (fun _ => rfl) declaration.body)

theorem hasNotation_settled (declaration : Declaration) :
    declaration.settled.hasNotation = declaration.hasNotation :=
  congrArg₂ (· && ·)
    (Head.hasNotation_rebuild (Pattern.hasNotation_rebuild Pattern.hasNotation_settledDecimal)
      (Expr.hasNotation_rebuild Expr.hasNotation_settledDecimal) declaration.head)
    (Expr.hasNotation_rebuild Expr.hasNotation_settledDecimal declaration.body)

theorem hasNotation_of_readsAs (read : declaration.ReadsAs declaration') :
    declaration'.hasNotation = declaration.hasNotation := by
  rw [← hasNotation_unplaced, read, hasNotation_settled]

/-! ## The documentation -/

/-- Reading printed documentation again loses an empty line at its end. -/
theorem docTexts_of_readsAs (read : declaration.ReadsAs declaration') :
    declaration'.docTexts =
      if declaration.docTexts.getLast? = some "" then declaration.docTexts.dropLast
      else declaration.docTexts := by
  have doc : declaration'.doc? = docOf? declaration.docTexts := congrArg Declaration.doc? read
  rw [docTexts, doc, docOf?]
  cases none : declaration.docTexts.isEmpty
  · exact Text.lines_join isOneLine_of_mem_docTexts
  · rw [List.isEmpty_iff.mp none]
    rfl

theorem docTexts_sublist (read : declaration.ReadsAs declaration') :
    declaration'.docTexts.Sublist declaration.docTexts := by
  rw [docTexts_of_readsAs read]
  split
  · exact List.dropLast_sublist _
  · exact .refl _

theorem length_docTexts_eq_iff (read : declaration.ReadsAs declaration') :
    declaration'.docTexts.length = declaration.docTexts.length ↔
      declaration.docTexts.getLast? ≠ some "" := by
  rw [docTexts_of_readsAs read]
  split
  · rename_i last
    have some : declaration.docTexts ≠ [] := by
      intro none
      rw [none] at last
      cases last
    have positive := List.length_pos_iff.mpr some
    rw [List.length_dropLast]
    simp only [last, ne_eq, not_true_eq_false, iff_false]
    omega
  · rename_i last
    exact iff_of_true rfl last

theorem isDocumented_eq (declaration : Declaration) :
    declaration.isDocumented = !declaration.docTexts.isEmpty := by
  rw [isDocumented, docTexts]
  cases declaration.doc? with
  | none => rfl
  | some doc =>
      have empty : doc.isEmpty = (Text.lines doc).isEmpty := by
        rw [Bool.eq_iff_iff, String.isEmpty_iff, List.isEmpty_iff]
        exact Text.lines_eq_nil.symm
      exact congrArg (!·) empty

theorem printLines_sublist (read : declaration.ReadsAs declaration') :
    declaration'.printLines.Sublist declaration.printLines := by
  rw [printLines_eq, printLines_eq, codeText_of_readsAs read]
  exact ((docTexts_sublist read).map docLine).append (.refl _)

end Declaration

namespace Module

open Declaration

variable {declarations declarations' : List Declaration} {declaration declaration' : Declaration}
  {file file' text : String} {module module' : Module}

/-! ## The lines of a module -/

theorem startsGroup_some (previous : String) (declaration : Declaration) :
    startsGroup (some previous) declaration =
      (decide (declaration.head.name ≠ previous) || !declaration.docTexts.isEmpty) := by
  rw [startsGroup, isDocumented_eq]

theorem startsGroup_of_readsAs {previous? : Option String} (read : declaration.ReadsAs declaration')
    (starts : startsGroup previous? declaration' = true) :
    startsGroup previous? declaration = true := by
  cases previous? with
  | none => cases starts
  | some previous =>
      rw [startsGroup_some, Bool.or_eq_true] at starts ⊢
      rw [name_of_readsAs read] at starts
      refine starts.imp_right fun documented => ?_
      cases none : declaration.docTexts.isEmpty
      · rfl
      · have nothing := docTexts_sublist read
        rw [List.isEmpty_iff.mp none, List.sublist_nil] at nothing
        rw [nothing] at documented
        cases documented

theorem groupLine_sublist (read : declaration.ReadsAs declaration') (previous? : Option String) :
    (if startsGroup previous? declaration' then [""] else []).Sublist
      (if startsGroup previous? declaration then [""] else []) := by
  split
  · rename_i starts
    rw [if_pos (startsGroup_of_readsAs read starts)]
  · exact List.nil_sublist _

/-- Formatting again adds no line. -/
theorem printLines_sublist_of_readsAs
    (allRead : List.Forall₂ ReadsAs declarations declarations') (previous? : Option String) :
    (printLines previous? declarations').Sublist (printLines previous? declarations) := by
  induction allRead generalizing previous? with
  | nil => exact .refl _
  | cons read _ ih =>
      rw [printLines, printLines, name_of_readsAs read]
      exact ((groupLine_sublist read previous?).append (printLines_sublist read)).append (ih _)

/-- Formatting again loses no line just where no documentation ends in an empty one. -/
theorem length_printLines_eq_iff (allRead : List.Forall₂ ReadsAs declarations declarations')
    (previous? : Option String) :
    (printLines previous? declarations').length = (printLines previous? declarations).length ↔
      ∀ declaration ∈ declarations, declaration.docTexts.getLast? ≠ some "" := by
  induction allRead generalizing previous? with
  | nil => exact iff_of_true rfl fun _ member => absurd member List.not_mem_nil
  | @cons declaration declaration' rest rest' read others ih =>
      have group := (groupLine_sublist read previous?).length_le
      have docs := (docTexts_sublist read).length_le
      have later := (printLines_sublist_of_readsAs others (some declaration.head.name)).length_le
      rw [List.forall_mem_cons, ← ih (some declaration.head.name), ← length_docTexts_eq_iff read,
        printLines, printLines, name_of_readsAs read]
      simp only [List.length_append, Declaration.printLines_eq, List.length_map,
        List.length_singleton]
      constructor
      · intro total
        constructor <;> omega
      · rintro ⟨sameDocs, sameRest⟩
        have same : declaration'.docTexts = declaration.docTexts :=
          (docTexts_sublist read).eq_of_length sameDocs
        have sameGroup : startsGroup previous? declaration' = startsGroup previous? declaration := by
          cases previous? with
          | none => rfl
          | some previous => rw [startsGroup_some, startsGroup_some, name_of_readsAs read, same]
        rw [sameGroup, sameDocs, sameRest]

theorem allHaveNotation_of_readsAs
    (allRead : List.Forall₂ ReadsAs declarations declarations')
    (short : declarations.all Declaration.hasNotation = true) :
    declarations'.all Declaration.hasNotation = true := by
  induction allRead with
  | nil => rfl
  | cons read _ ih =>
      rw [List.all_cons, Bool.and_eq_true] at short ⊢
      exact ⟨(hasNotation_of_readsAs read).trans short.1, ih short.2⟩

/-- Formatting again changes nothing just where it loses no line. -/
theorem print_eq_iff (allRead : List.Forall₂ ReadsAs module.declarations module'.declarations) :
    module'.print = module.print ↔
      ∀ declaration ∈ module.declarations, declaration.docTexts.getLast? ≠ some "" := by
  have fewer := printLines_sublist_of_readsAs allRead none
  rw [← length_printLines_eq_iff allRead none]
  constructor
  · intro same
    rcases eq_or_ne module.declarations [] with none | some
    · rw [none] at allRead ⊢
      rw [List.forall₂_nil_left_iff.mp allRead]
    · have some' : module'.declarations ≠ [] := by
        intro none
        rw [none] at allRead
        exact some (List.forall₂_nil_right_iff.mp allRead)
      have texts := congrArg String.toList same
      rw [toList_print some', toList_print some] at texts
      rw [Text.eq_of_ofLines_eq fewer texts]
  · intro sameLength
    rw [print, print, fewer.eq_of_length sameLength]

/-- Formatting a module twice yields identical text just where no printed documentation ends in an
empty line: such a line is lost each time. -/
theorem print_stable_iff (read : Module.read file text = .ok module)
    (short : module.hasNotation = true) (read' : Module.read file' module.print = .ok module') :
    module'.hasNotation = true ∧ (module'.print = module.print ↔
      ∀ declaration ∈ module.declarations, declaration.docTexts.getLast? ≠ some "") := by
  have allRead := readsAs_of_read_print (isPrintable_of_read read short) read'
  exact ⟨allHaveNotation_of_readsAs allRead short, print_eq_iff allRead⟩

/-- Two documented declarations; the documentation of the first one ends in two empty lines, of
which one is printed. -/
def documentedSource : String :=
  "/// Adds.\n///\n///\ndef f(x) -> x + 1\n/// Doubles.\npipe g(x) -> x * 2\n"

theorem print_stable_iff_documentedSource :
    ∃ module module', Module.read "source" documentedSource = .ok module ∧
      module.hasNotation = true ∧ Module.read "printed" module.print = .ok module' ∧
      module'.hasNotation = true ∧ (module'.print = module.print ↔
        ∀ declaration ∈ module.declarations, declaration.docTexts.getLast? ≠ some "") := by
  have found : (Module.read "source" documentedSource).toOption.any (fun module =>
      module.hasNotation && (Module.read "printed" module.print).toOption.any fun _ => true) =
        true := by
    decide +kernel
  rcases exists_of_any_read found with ⟨module, read, both⟩
  rcases Bool.and_eq_true_iff.mp both with ⟨short, again⟩
  rcases exists_of_any_read again with ⟨module', read', _⟩
  exact ⟨module, module', read, short, read', print_stable_iff read short read'⟩

/-- Documentation of two empty lines is formatted as one empty line, and that one as none. -/
theorem print_unstable_emptyDocumentation :
    ∃ module module', Module.read "source" "///\n///\ndef f() -> 1\n" = .ok module ∧
      Module.read "printed" module.print = .ok module' ∧
      module.print = "///\ndef f() -> 1\n" ∧ module'.print = "def f() -> 1\n" := by
  have found : (Module.read "source" "///\n///\ndef f() -> 1\n").toOption.any (fun module =>
      module.print = "///\ndef f() -> 1\n" &&
        (Module.read "printed" module.print).toOption.any fun module' =>
          module'.print = "def f() -> 1\n") = true := by
    decide +kernel
  rcases exists_of_any_read found with ⟨module, read, both⟩
  rcases Bool.and_eq_true_iff.mp both with ⟨once, again⟩
  rcases exists_of_any_read again with ⟨module', read', twice⟩
  exact ⟨module, module', read, read', of_decide_eq_true once, of_decide_eq_true twice⟩

end Module
end ClauseFlow
