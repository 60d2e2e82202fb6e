import ClauseFlow.Proofs.Declaration.Places
import ClauseFlow.Proofs.Expr.Lexemes
import ClauseFlow.Proofs.Token.Lines

/-!
# Lexemes of declarations

A declaration is printed as lines: each line of its documentation is one lexeme, and its code is a
row of lexemes.
-/

namespace ClauseFlow

/-! ## Heads -/

namespace Head

def lexemes (head : Head) : List Lexeme :=
  .name head.name :: Lexeme.parenthesized (Lexeme.listed (head.params.map Pattern.lexemes)) ++
    match head.guard? with
    | some guard => ⟨.whenKeyword, "when"⟩ :: guard.lexemes 0
    | none => []

/-- Whether a head is one that the reader finds. -/
def isSpelled (head : Head) : Bool :=
  isName head.name && head.params.all Pattern.isSpelled &&
    (head.guard?.map Expr.isSpelled).getD true

theorem printed {head : Head} (spelled : head.isSpelled = true) :
    Printed head.print head.lexemes := by
  simp only [isSpelled, Bool.and_eq_true, List.all_eq_true] at spelled
  rcases spelled with ⟨⟨name, params⟩, guard⟩
  have paramsPrinted : List.Forall₂ Printed (Pattern.printAll head.params)
      (head.params.map Pattern.lexemes) := by
    rw [← Pattern.lexemesOfAll_eq]
    exact Pattern.allPrinted (Pattern.everyOfAll_iff.mpr params)
  have plain : Printed (head.name ++ "(" ++ Text.commas (Pattern.printAll head.params) ++ ")")
      (.name head.name ::
        Lexeme.parenthesized (Lexeme.listed (head.params.map Pattern.lexemes))) :=
    .callOf name (.listed paramsPrinted)
  rw [print, lexemes]
  cases guarded : head.guard? with
  | none =>
      rw [List.append_nil]
      exact plain
  | some guard' =>
      have guardSpelled : guard'.isSpelled = true := by rwa [guarded] at guard
      have whenWord : Spaced "when" [⟨.whenKeyword, "when"⟩] :=
        .word (by decide +kernel) (by decide +kernel) rfl rfl
      have before := plain.spaced.append whenWord
      have noArrow : (head.name ++ "(" ++ Text.commas (Pattern.printAll head.params) ++ ")" ++ " " ++
          "when").toList.head? ≠ some '>' := by
        rw [String.append_assoc, String.toList_append, head?_append_of_leads plain.leads]
        exact plain.noArrow
      have whole := before.append_printed noArrow (plain.starts.append _)
        (Expr.printed 0 guardSpelled)
      rw [List.append_assoc] at whole
      have sameText : " when " = " " ++ ("when" ++ " ") := rfl
      simp only [sameText, ← String.append_assoc]
      exact whole

end Head

namespace Declaration

/-- The keyword of a declaration. -/
def keyword (declaration : Declaration) : Lexeme :=
  if declaration.synthesized then ⟨.pipeKeyword, "pipe"⟩ else ⟨.defKeyword, "def"⟩

/-- The lexemes of the code of a declaration. -/
def lexemes (declaration : Declaration) : List Lexeme :=
  declaration.keyword :: declaration.head.lexemes ++ .arrow :: declaration.body.lexemes 0

/-- Whether a declaration is one that the reader finds. -/
def isSpelled (declaration : Declaration) : Bool :=
  declaration.head.isSpelled && declaration.body.isSpelled

/-! ## Lines -/

/-- A keyword before a blank. -/
theorem lexes_beforeBlank {text : String} (word : isWord text = true) {kind : TokenKind}
    (isKind : wordKind text = kind) (more : String) (rest : List Char) :
    Lexes text ⟨kind, text⟩ ((" " ++ more).toList ++ rest) := by
  rw [← isKind, String.toList_append, List.append_assoc]
  exact Lexes.word word (apart_cons (by decide : ' ' ∈ delimiters) (by decide))

/-- The code of a declaration is a row of lexemes. -/
theorem code {declaration : Declaration} (spelled : declaration.isSpelled = true) :
    Code declaration.codeText declaration.lexemes := by
  simp only [isSpelled, Bool.and_eq_true] at spelled
  have mark : Lexeme.arrow ∈ spacedMarks := by decide
  have rest := (Head.printed spelled.1).infixed mark (Expr.printed 0 spelled.2)
  have sameText (keyword : String) : keyword ++ " " ++ declaration.head.print ++ " -> " ++
      declaration.body.print 0 = keyword ++ (" " ++ (declaration.head.print ++ " " ++ "->" ++ " " ++
        declaration.body.print 0)) := by
    rw [show " -> " = " " ++ "->" ++ " " from rfl]
    simp only [String.append_assoc]
  have spells {after : List Char} (apart : Apart after) :
      Spells (" " ++ (declaration.head.print ++ " " ++ "->" ++ " " ++
        declaration.body.print 0))
        (declaration.head.lexemes ++ .arrow :: declaration.body.lexemes 0) after :=
    (Spells.blank (rest.leads.noGap _)).append (rest.spells apart)
  rw [codeText, sameText]
  refine ⟨?_, ?_, rest.mayEnd.append [declaration.keyword]⟩
  · intro place after apart
    rw [lexemes, keyword]
    cases declaration.synthesized
    · have isDef : wordKind "def" = .defKeyword := by decide +kernel
      exact cut_of_lexes (lexes_beforeBlank (by decide +kernel) isDef _ _) (spells apart) place
    · have isPipe : wordKind "pipe" = .pipeKeyword := by decide +kernel
      exact cut_of_lexes (lexes_beforeBlank (by decide +kernel) isPipe _ _) (spells apart) place
  · have plain : declaration.keyword.kind.opens = false ∧
        declaration.keyword.kind.closes = false := by
      rw [keyword]
      cases declaration.synthesized <;> exact ⟨rfl, rfl⟩
    exact rest.balanced.cons plain.1 plain.2

/-- The code of a declaration is one line. -/
theorem codeLine {declaration : Declaration} (spelled : declaration.isSpelled = true) :
    Line declaration.codeText declaration.lexemes :=
  (code spelled).line

/-- A line of documentation as it is printed. -/
def docLine (text : String) : String :=
  if text.isEmpty then "///" else "/// " ++ text

def docLexeme (text : String) : Lexeme :=
  ⟨.docComment, text⟩

theorem printLines_eq (declaration : Declaration) :
    declaration.printLines = declaration.docTexts.map docLine ++ [declaration.codeText] := by
  rw [printLines, docLines, docTexts]
  cases declaration.doc? <;> rfl

/-- A line of documentation is a single lexeme. -/
theorem lexes_docLine {text : String} (whole : Text.IsOneLine text.toList) (rest : List Char) :
    Lexes (docLine text) (docLexeme text) ('\n' :: rest) := by
  rw [docLine]
  split
  · rename_i empty
    obtain rfl := String.isEmpty_iff.mp empty
    exact .of_recognize rfl fun _ => rfl
  · have inside : ∀ c ∈ text.toList, (c ≠ '\n' && c ≠ '\r') = true := by
      intro c member
      have plain := whole c member
      have noFeed : c ≠ '\n' := by
        rintro rfl
        cases plain
      have noReturn : c ≠ '\r' := by
        rintro rfl
        cases plain
      simp [noFeed, noReturn]
    have written : ("/// " ++ text).toList = '/' :: ('/' :: '/' :: ' ' :: text.toList) := by
      rw [String.toList_append]
      rfl
    apply Lexes.of_recognize written
    intro place
    have feed : ∀ c ∈ ('\n' :: rest).head?, (c ≠ '\n' && c ≠ '\r') = false := by simp
    have said := (takeWhile_append_of_head inside feed).1
    have comment : Piece.recognize place '/' ('/' :: '/' :: ' ' :: text.toList ++ '\n' :: rest) =
        Piece.recognizeDocComment (' ' :: (text.toList ++ '\n' :: rest)) := rfl
    rw [comment, Piece.recognizeDocComment]
    simp only [said, String.ofList_toList]
    rfl

theorem docLine_line {text : String} (whole : Text.IsOneLine text.toList) :
    Line (docLine text) [docLexeme text] := by
  have lexes (rest : List Char) :
      Lexes (docLine text) (docLexeme text) ("".toList ++ '\n' :: rest) :=
    lexes_docLine whole rest
  constructor
  · have whole := Line.cut_of_lexes lexes fun rest =>
      Spelled.empty.spells (apart_cons (by decide : '\n' ∈ delimiters) (by decide))
    rwa [String.append_empty] at whole
  · exact .single rfl rfl
  · exact .single rfl

/-- The rows of lexemes that a declaration is printed as. -/
def rows (declaration : Declaration) : List (List Lexeme) :=
  declaration.docTexts.map (fun text => [docLexeme text]) ++ [declaration.lexemes]

theorem isOneLine_of_mem_docTexts {declaration : Declaration} :
    ∀ text ∈ declaration.docTexts, Text.IsOneLine text.toList := by
  intro text member
  rw [docTexts] at member
  split at member
  · exact Text.isOneLine_of_mem_lines member
  · cases member

theorem printLines_rows {declaration : Declaration} (spelled : declaration.isSpelled = true) :
    List.Forall₂ Row declaration.printLines declaration.rows := by
  rw [printLines_eq, rows]
  apply List.rel_append
  · rw [List.forall₂_map_left_iff, List.forall₂_map_right_iff, List.forall₂_same]
    exact fun text member => .line (docLine_line (isOneLine_of_mem_docTexts text member))
  · exact .cons (.line (codeLine spelled)) .nil

end Declaration

/-! ## Modules -/

namespace Module

/-- Whether a module is one that the reader finds. -/
def isSpelled (module : Module) : Bool :=
  module.declarations.all Declaration.isSpelled

/-- The rows of lexemes of declarations that follow a declaration of the function `previous?`. -/
def rows (previous? : Option String) : List Declaration → List (List Lexeme)
  | [] => []
  | declaration :: rest =>
      (if startsGroup previous? declaration then [[]] else []) ++
        declaration.rows ++ rows (some declaration.head.name) rest

theorem printLines_rows {declarations : List Declaration}
    (spelled : ∀ declaration ∈ declarations, declaration.isSpelled = true)
    (previous? : Option String) :
    List.Forall₂ Row (printLines previous? declarations) (rows previous? declarations) := by
  induction declarations generalizing previous? with
  | nil => exact .nil
  | cons declaration rest ih =>
      rcases List.forall_mem_cons.mp spelled with ⟨here, others⟩
      rw [printLines, rows]
      apply List.rel_append
      · apply List.rel_append
        · split
          · exact .cons .empty .nil
          · exact .nil
        · exact Declaration.printLines_rows here
      · exact ih others _

/-- The lexemes of a module, with a `newline` token after each line. -/
def lexemes (module : Module) : List Lexeme :=
  module.declarations.flatMap fun declaration => Lexeme.closed declaration.rows

theorem closed_append (rows rows' : List (List Lexeme)) :
    Lexeme.closed (rows ++ rows') = Lexeme.closed rows ++ Lexeme.closed rows' :=
  List.flatMap_append

/-- Blank lines between declarations leave no trace. -/
theorem closed_rows (previous? : Option String) (declarations : List Declaration) :
    Lexeme.closed (rows previous? declarations) =
      declarations.flatMap fun declaration => Lexeme.closed declaration.rows := by
  induction declarations generalizing previous? with
  | nil => rfl
  | cons declaration rest ih =>
      rw [rows, closed_append, closed_append, ih, List.flatMap_cons]
      split <;> rfl

theorem toList_print {module : Module} (some : module.declarations ≠ []) :
    module.print.toList = Text.ofLines (printLines none module.declarations) := by
  obtain ⟨declarations, span⟩ := module
  cases declarations with
  | nil => exact absurd rfl some
  | cons declaration rest =>
      have nonempty : printLines none (declaration :: rest) ≠ [] := by
        simp [printLines, Declaration.printLines]
      exact Text.toList_join nonempty

/-- The tokens of a printed module. -/
theorem ofText_print {module : Module} (spelled : module.isSpelled = true) (file : String) :
    ∃ tokens finish, TokenStream.ofText file module.print = .ok ⟨tokens, finish⟩ ∧
      tokens.map Token.lexeme = module.lexemes ∧ finish.kind = .endOfText := by
  obtain ⟨declarations, span⟩ := module
  cases declarations with
  | nil =>
      have written : (print ⟨[], span⟩).toList = Text.ofLines [""] := by
        rw [print, printLines]
        rfl
      exact TokenStream.ofText_ofLines written (.cons .empty .nil) file
  | cons declaration rest =>
      rw [lexemes, ← closed_rows none]
      exact TokenStream.ofText_ofLines (toList_print (List.cons_ne_nil _ _))
        (printLines_rows (List.all_eq_true.mp spelled) none) file

end Module
end ClauseFlow
