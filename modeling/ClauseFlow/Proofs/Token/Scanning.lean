import ClauseFlow.Proofs.Token.Grammar

/-!
# Pieces of the grammar are recognized

A piece that the lexical grammar has at the head of a text is recognized there, whatever the place.
-/

namespace ClauseFlow
namespace Piece

/-! ## Marks -/

/-- Whether the first character of a text begins no blank, no line, no comment, no literal and no
word, so that it can only be a mark. -/
structure IsBare (c : Char) (rest : List Char) : Prop where
  noGap : isGap c = false
  noFeed : c ≠ '\n'
  noQuote : c ≠ '"'
  noDigit : CharClass.isDigit c = false
  noName : CharClass.isNameStart c = false
  noComment : c = '/' → rest.head? ≠ some '/'
  noAtom : c = ':' → beginsAtom rest = false

theorem IsBare.recognize_eq {c : Char} {rest : List Char} (bare : IsBare c rest)
    (place : Position) : recognize place c rest = recognizeMark place c rest := by
  rw [recognize.eq_def, if_neg (by simp [bare.noGap]), if_neg bare.noFeed]
  split
  · exact absurd rfl (bare.noComment rfl)
  · exact absurd rfl (bare.noComment rfl)
  · exact absurd rfl bare.noQuote
  · have noAtom : ¬(decide (c = ':') && beginsAtom rest) = true := by
      intro atom
      rw [Bool.and_eq_true] at atom
      simp [bare.noAtom (of_decide_eq_true atom.1)] at atom
    rw [if_neg noAtom, if_neg (by simp [bare.noDigit]), if_neg (by simp [bare.noName])]

theorem isBare_of_twoCharKind? {first second : Char} {kind : TokenKind}
    (isMark : twoCharKind? first second = some kind) (rest : List Char) :
    IsBare first (second :: rest) := by
  rw [twoCharKind?.eq_def] at isMark
  split at isMark
  all_goals
    try cases isMark
  all_goals
    exact ⟨by decide, by decide, by decide, by decide, by decide,
      fun same => absurd same (by decide), fun same => absurd same (by decide)⟩

theorem isBare_of_oneCharKind? {c : Char} {kind : TokenKind}
    (isMark : oneCharKind? c = some kind) (rest : List Char)
    (noComment : c = '/' → rest.head? ≠ some '/') (noAtom : c = ':' → beginsAtom rest = false) :
    IsBare c rest := by
  rw [oneCharKind?.eq_def] at isMark
  split at isMark
  all_goals
    try cases isMark
  all_goals
    exact ⟨by decide, by decide, by decide, by decide, by decide, noComment, noAtom⟩

theorem tabFaults_of_ne {run : List Char} (noTab : ∀ c ∈ run, c ≠ '\t') (place : Position) :
    tabFaults place run = [] := by
  induction run generalizing place with
  | nil => rfl
  | cons c run ih =>
      rcases List.forall_mem_cons.mp noTab with ⟨here, others⟩
      rw [tabFaults, if_neg here]
      exact ih others _

theorem textBody_of_quotes {body said : List Char} (quotes : Quotes body said) (place : Position)
    (rest : List Char) :
    textBody place (body ++ '"' :: rest) = ⟨said, body.length + 1, [], true⟩ := by
  induction quotes generalizing place with
  | nil => rfl
  | plain noQuote noFeed noEscape _ ih =>
      rw [List.cons_append, textBody_plain noQuote noFeed noEscape, ih]
      rfl
  | escape escaped _ ih =>
      rw [List.cons_append, List.cons_append, textBody.eq_def]
      simp only [escaped, ih]
      rfl

theorem recognize_digit {c : Char} (digit : CharClass.isDigit c = true) (place : Position)
    (rest : List Char) : recognize place c rest = recognizeNumber place c rest := by
  have differs : ∀ other : Char, CharClass.isDigit other = false → c ≠ other := by
    rintro other none rfl
    rw [digit] at none
    cases none
  have noGap : isGap c = false := by
    simp [isGap, differs ' ' (by decide), differs '\t' (by decide), differs '\r' (by decide)]
  rw [recognize.eq_def, noGap, if_neg Bool.false_ne_true, if_neg (differs '\n' (by decide))]
  split
  · exact absurd rfl (differs '/' (by decide))
  · exact absurd rfl (differs '/' (by decide))
  · exact absurd rfl (differs '"' (by decide))
  · simp [differs ':' (by decide), digit]

theorem recognizeNumber_eq_decimal {c : Char} {rest : List Char} (place : Position)
    (unmarked : c = '0' → ∀ mark ∈ rest.head?, marksDigit? mark = none) :
    recognizeNumber place c rest = recognizeDecimal c rest := by
  cases rest with
  | nil => rfl
  | cons mark more =>
      rw [recognizeNumber.eq_def]
      by_cases zero : c = '0'
      · simp only [zero, if_true, unmarked zero mark rfl]
      · simp only [zero, if_false]

theorem recognizeDecimal_integer {first : Char} {whole rest : List Char}
    (parts : ∀ d ∈ whole, isNumberPart d = true) (stops : RunEnds isNumberPart rest)
    (noFraction : rest.head? = some '.' → RunEnds CharClass.isDigit rest.tail) :
    recognizeDecimal first (whole ++ rest) =
      ⟨.lexeme .integer (String.ofList (first :: whole)), whole.length, []⟩ := by
  have run := takeWhile_append_of_head parts stops
  rw [recognizeDecimal, run.1, run.2]
  split
  · rename_i digit more
    rw [if_neg]
    rw [noFraction rfl digit rfl]
    exact Bool.false_ne_true
  · rfl

theorem recognizeDecimal_fraction {first second : Char} {whole fraction rest : List Char}
    (parts : ∀ d ∈ whole, isNumberPart d = true) (digit : CharClass.isDigit second = true)
    (parts' : ∀ d ∈ fraction, isNumberPart d = true) (stops : RunEnds isNumberPart rest) :
    recognizeDecimal first (whole ++ '.' :: second :: fraction ++ rest) =
      ⟨.lexeme .decimal (String.ofList (first :: (whole ++ '.' :: second :: fraction))),
        (whole ++ '.' :: second :: fraction).length, []⟩ := by
  have point : RunEnds isNumberPart ('.' :: (second :: fraction ++ rest)) := by
    intro c head
    rw [← Option.some.inj head]
    decide
  have run := takeWhile_append_of_head parts point
  have run' := takeWhile_append_of_head
    (List.forall_mem_cons.mpr ⟨isNumberPart_of_digit digit, parts'⟩) stops
  rw [recognizeDecimal, List.append_assoc, List.cons_append, run.1, run.2, List.cons_append]
  rw [List.cons_append] at run'
  simp only [digit, if_true, run'.1, List.length_append, List.length_cons]
  congr 1
  omega

/-! ## Names -/

theorem of_isAtomName {said : List Char} (name : isAtomName (String.ofList said) = true) :
    beginsAtom said = true ∧ ∀ c ∈ said, CharClass.isNamePart c = true := by
  rw [isAtomName, String.toList_ofList] at name
  cases said with
  | nil => cases name
  | cons c said =>
      rw [Bool.and_eq_true] at name
      exact ⟨name.1, List.forall_mem_cons.mpr
        ⟨isNamePart_of_isNameStart name.1, List.all_eq_true.mp name.2⟩⟩

theorem of_isWord {word : List Char} (isWord : isWord (String.ofList word) = true) :
    ∃ c further, word = c :: further ∧ CharClass.isNameStart c = true ∧
      CharClass.isDigit c = false ∧ ∀ d ∈ further, CharClass.isNamePart d = true := by
  rw [ClauseFlow.isWord, String.toList_ofList] at isWord
  cases word with
  | nil => cases isWord
  | cons c further =>
      simp only [Bool.and_eq_true, Bool.not_eq_true', List.all_eq_true] at isWord
      exact ⟨c, further, rfl, isWord.1.1, isWord.1.2, isWord.2⟩

theorem isNamePart_of_isWord {word : List Char} (isWord : isWord (String.ofList word) = true) :
    ∀ c ∈ word, CharClass.isNamePart c = true := by
  rcases of_isWord isWord with ⟨c, further, rfl, starts, _, parts⟩
  exact List.forall_mem_cons.mpr ⟨isNamePart_of_isNameStart starts, parts⟩

/-! ## One piece at a time -/

section

variable (place : Position) {rest : List Char}

theorem recognize_gap {c : Char} {further : List Char}
    (blank : ∀ d ∈ c :: further, d = ' ' ∨ d = '\r') (stops : RunEnds isGap rest) :
    recognize place c (further ++ rest) = ⟨.gap, further.length, []⟩ := by
  have isBlank : ∀ d ∈ c :: further, isGap d = true := by
    intro d member
    rcases blank d member with rfl | rfl <;> decide
  have noTab : ∀ d ∈ c :: further, d ≠ '\t' := by
    intro d member
    rcases blank d member with rfl | rfl <;> decide
  have run := takeWhile_append_of_head (fun d member => isBlank d (.tail _ member)) stops
  rw [recognize.eq_def, if_pos (isBlank c (.head _)), recognizeGap, run.1, tabFaults_of_ne noTab]

theorem recognize_comment {said : List Char} (plain : said.head? ≠ some '/')
    (inLine : '\n' ∉ said) (stops : RunEnds (· ≠ '\n') rest) :
    recognize place '/' ('/' :: said ++ rest) = ⟨.comment, ('/' :: said).length, []⟩ := by
  have inside : ∀ c ∈ '/' :: said, decide (c ≠ '\n') = true :=
    List.forall_mem_cons.mpr
      ⟨by decide, fun c member => decide_eq_true (ne_of_mem_of_not_mem member inLine)⟩
  have noDoc : (said ++ rest).head? ≠ some '/' := by
    intro first
    cases said with
    | nil => exact absurd (stops '/' first) (by decide)
    | cons c said => exact plain first
  have isComment : recognize place '/' ('/' :: (said ++ rest)) =
      recognizeComment ('/' :: (said ++ rest)) := by
    cases characters : said ++ rest with
    | nil => rfl
    | cons c more =>
        have differs : c ≠ '/' := by
          rintro rfl
          exact noDoc (congrArg List.head? characters)
        simp [recognize.eq_def, isGap, differs]
  rw [List.cons_append, isComment, recognizeComment, ← List.cons_append,
    (takeWhile_append_of_head inside stops).1]

theorem recognize_docComment {said : List Char} (noBlank : said.head? ≠ some ' ')
    (inLine : ∀ c ∈ said, isRemarkPart c = true) (stops : RunEnds isRemarkPart rest) :
    recognize place '/' ('/' :: '/' :: said ++ rest) =
      ⟨.lexeme .docComment (String.ofList said), ('/' :: '/' :: said).length, []⟩ := by
  have isDoc : recognize place '/' ('/' :: '/' :: said ++ rest) =
      recognizeDocComment (said ++ rest) := rfl
  have unspaced : (said ++ rest).head? ≠ some ' ' := by
    intro first
    cases said with
    | nil => exact absurd (stops ' ' first) (by decide)
    | cons c said => exact noBlank first
  rw [isDoc, recognizeDocComment_of_unspaced unspaced,
    (takeWhile_append_of_head inLine stops).1]
  rfl

theorem recognize_spacedDocComment {said : List Char}
    (inLine : ∀ c ∈ said, isRemarkPart c = true) (stops : RunEnds isRemarkPart rest) :
    recognize place '/' ('/' :: '/' :: ' ' :: said ++ rest) =
      ⟨.lexeme .docComment (String.ofList said), ('/' :: '/' :: ' ' :: said).length, []⟩ := by
  have found : recognize place '/' ('/' :: '/' :: ' ' :: said ++ rest) =
      ⟨.lexeme .docComment (String.ofList ((said ++ rest).takeWhile isRemarkPart)),
        ((said ++ rest).takeWhile isRemarkPart).length + 3, []⟩ := rfl
  rw [found, (takeWhile_append_of_head inLine stops).1]
  rfl

theorem recognize_text {body said : List Char} (quotes : Quotes body said) :
    recognize place '"' (body ++ ['"'] ++ rest) =
      ⟨.lexeme .text (String.ofList said), (body ++ ['"']).length, []⟩ := by
  have quoted (content : List Char) :
      recognize place '"' content = recognizeText place content := by
    rw [recognize.eq_def]
    rfl
  rw [quoted, recognizeText, List.append_assoc, List.singleton_append, textBody_of_quotes quotes,
    List.length_append]
  rfl

theorem recognize_atom {said : List Char} (name : isAtomName (String.ofList said) = true)
    (stops : RunEnds CharClass.isNamePart rest) :
    recognize place ':' (said ++ rest) =
      ⟨.lexeme .atom (String.ofList said), said.length, []⟩ := by
  rcases of_isAtomName name with ⟨starts, parts⟩
  have begins : beginsAtom (said ++ rest) = true := by
    cases said with
    | nil => cases starts
    | cons c said => exact starts
  rw [recognize_colon, if_pos begins, recognizeAtom, (takeWhile_append_of_head parts stops).1]

theorem recognize_marked {mark : Char} {digits : List Char} {isPart : Char → Bool}
    (isMark : marksDigit? mark = some isPart) (some : digits ≠ [])
    (parts : ∀ d ∈ digits, isPart d = true) (stops : RunEnds isPart rest) :
    recognize place '0' (mark :: digits ++ rest) =
      ⟨.lexeme .integer (String.ofList ('0' :: mark :: digits)), (mark :: digits).length, []⟩ := by
  have noneMissing : digits.isEmpty = false := by simpa using some
  rw [recognize_digit (by decide), List.cons_append, recognizeNumber.eq_def]
  simp only [if_true, isMark, recognizeMarked, (takeWhile_append_of_head parts stops).1,
    noneMissing]
  rfl

theorem recognize_twoMarks {first second : Char} {kind : TokenKind}
    (isMark : twoCharKind? first second = some kind) :
    recognize place first (second :: rest) =
      ⟨.lexeme kind (String.ofList [first, second]), 1, []⟩ := by
  rw [(isBare_of_twoCharKind? isMark rest).recognize_eq place, recognizeMark.eq_def]
  split
  · rename_i same
    rw [(List.cons.inj same).1] at isMark
    cases isMark
  · rename_i same
    rcases List.cons.inj same with ⟨rfl, rfl⟩
    simp only [isMark]
  · rename_i same
    cases same

theorem recognize_oneMark {c : Char} {kind : TokenKind} (isMark : oneCharKind? c = some kind)
    (alone : ∀ second ∈ rest.head?, twoCharKind? c second = none)
    (noArrow : c = '<' → ¬['|', '>'] <+: rest) (noComment : c = '/' → rest.head? ≠ some '/')
    (noAtom : c = ':' → beginsAtom rest = false) :
    recognize place c rest = ⟨.lexeme kind (String.singleton c), 0, []⟩ := by
  have single : recognizeSingle place c = ⟨.lexeme kind (String.singleton c), 0, []⟩ := by
    rw [recognizeSingle, isMark]
  rw [(isBare_of_oneCharKind? isMark rest noComment noAtom).recognize_eq place,
    recognizeMark.eq_def]
  split
  · exact absurd (List.prefix_append _ _) (noArrow rfl)
  · rename_i second more _
    rw [alone second rfl]
    exact single
  · exact single

end

/-- What is in the grammar is recognized, at whatever place. -/
theorem Scans.exists_recognize {kind : PieceKind} {text rest : List Char}
    (scans : Scans kind text rest) (place : Position) :
    ∃ c further, text = c :: further ∧
      recognize place c (further ++ rest) = ⟨kind, further.length, []⟩ := by
  cases scans with
  | gap blank stops => exact ⟨_, _, rfl, recognize_gap place blank stops⟩
  | lineFeed => exact ⟨'\n', [], rfl, rfl⟩
  | comment plain inLine stops => exact ⟨_, _, rfl, recognize_comment place plain inLine stops⟩
  | docComment noBlank inLine stops =>
      exact ⟨_, _, rfl, recognize_docComment place noBlank inLine stops⟩
  | spacedDocComment inLine stops =>
      exact ⟨_, _, rfl, recognize_spacedDocComment place inLine stops⟩
  | text quotes => exact ⟨_, _, rfl, recognize_text place quotes⟩
  | atom name stops => exact ⟨_, _, rfl, recognize_atom place name stops⟩
  | word isWord stops =>
      rcases of_isWord isWord with ⟨c, further, rfl, starts, noDigit, parts⟩
      refine ⟨c, further, rfl, ?_⟩
      rw [recognize_word starts noDigit, recognizeWord_eq,
        (takeWhile_append_of_head parts stops).1]
  | marked isMark some parts stops =>
      exact ⟨_, _, rfl, recognize_marked place isMark some parts stops⟩
  | integer digit parts unmarked stops noFraction =>
      refine ⟨_, _, rfl, ?_⟩
      rw [recognize_digit digit, recognizeNumber_eq_decimal place unmarked,
        recognizeDecimal_integer parts stops noFraction]
  | @decimal _ _ whole _ _ digit parts unmarked digit' parts' stops =>
      refine ⟨_, _, rfl, ?_⟩
      rw [recognize_digit digit, recognizeNumber_eq_decimal place,
        recognizeDecimal_fraction parts digit' parts' stops]
      intro zero mark head
      cases whole with
      | nil =>
          rw [← Option.some.inj head]
          rfl
      | cons c whole => exact unmarked zero mark head
  | altArrow => exact ⟨'<', ['|', '>'], rfl, rfl⟩
  | twoMarks isMark => exact ⟨_, _, rfl, recognize_twoMarks place isMark⟩
  | oneMark isMark alone noArrow noComment noAtom =>
      exact ⟨_, _, rfl, recognize_oneMark place isMark alone noArrow noComment noAtom⟩

end Piece
end ClauseFlow
