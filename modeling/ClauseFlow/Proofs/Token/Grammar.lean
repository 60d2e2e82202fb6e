import ClauseFlow.Proofs.Token.Legible

/-!
# The lexical grammar

What a piece without faults is written as, and what may follow it. What is recognized at the head of
a text without a fault is in the grammar.
-/

namespace ClauseFlow

/-- Whether a run of characters that pass a test ends here. -/
def RunEnds (test : Char → Bool) (rest : List Char) : Prop :=
  ∀ c ∈ rest.head?, test c = false

/-- The characters between the quotes of a text literal, and what they say. -/
inductive Quotes : List Char → List Char → Prop where
  | nil : Quotes [] []
  | plain {c : Char} {body said : List Char} (noQuote : c ≠ '"') (noFeed : c ≠ '\n')
      (noEscape : c ≠ '\\') (others : Quotes body said) : Quotes (c :: body) (c :: said)
  | escape {c meant : Char} {body said : List Char} (escaped : Piece.escaped? c = some meant)
      (others : Quotes body said) : Quotes ('\\' :: c :: body) (meant :: said)

namespace Piece

/-- The characters that a documentation comment goes on with. -/
def isRemarkPart (c : Char) : Bool :=
  c ≠ '\n' && c ≠ '\r'

/-- Whether the characters of a text are a piece of a kind when a certain text follows. -/
inductive Scans : PieceKind → List Char → List Char → Prop where
  | gap {c : Char} {further rest : List Char} (blank : ∀ d ∈ c :: further, d = ' ' ∨ d = '\r')
      (stops : RunEnds isGap rest) : Scans .gap (c :: further) rest
  | lineFeed {rest : List Char} : Scans .lineFeed ['\n'] rest
  | comment {said rest : List Char} (plain : said.head? ≠ some '/') (inLine : '\n' ∉ said)
      (stops : RunEnds (· ≠ '\n') rest) : Scans .comment ('/' :: '/' :: said) rest
  | docComment {said rest : List Char} (noBlank : said.head? ≠ some ' ')
      (inLine : ∀ c ∈ said, isRemarkPart c = true) (stops : RunEnds isRemarkPart rest) :
      Scans (.lexeme .docComment (String.ofList said)) ('/' :: '/' :: '/' :: said) rest
  | spacedDocComment {said rest : List Char} (inLine : ∀ c ∈ said, isRemarkPart c = true)
      (stops : RunEnds isRemarkPart rest) :
      Scans (.lexeme .docComment (String.ofList said)) ('/' :: '/' :: '/' :: ' ' :: said) rest
  | text {body said rest : List Char} (quotes : Quotes body said) :
      Scans (.lexeme .text (String.ofList said)) ('"' :: (body ++ ['"'])) rest
  | atom {said rest : List Char} (name : isAtomName (String.ofList said) = true)
      (stops : RunEnds CharClass.isNamePart rest) :
      Scans (.lexeme .atom (String.ofList said)) (':' :: said) rest
  | word {word rest : List Char} (isWord : isWord (String.ofList word) = true)
      (stops : RunEnds CharClass.isNamePart rest) :
      Scans (.lexeme (wordKind (String.ofList word)) (String.ofList word)) word rest
  | marked {mark : Char} {digits rest : List Char} {isPart : Char → Bool}
      (isMark : marksDigit? mark = some isPart) (some : digits ≠ [])
      (parts : ∀ d ∈ digits, isPart d = true) (stops : RunEnds isPart rest) :
      Scans (.lexeme .integer (String.ofList ('0' :: mark :: digits))) ('0' :: mark :: digits) rest
  | integer {first : Char} {whole rest : List Char} (digit : CharClass.isDigit first = true)
      (parts : ∀ d ∈ whole, isNumberPart d = true)
      (unmarked : first = '0' → ∀ mark ∈ (whole ++ rest).head?, marksDigit? mark = none)
      (stops : RunEnds isNumberPart rest)
      (noFraction : rest.head? = some '.' → RunEnds CharClass.isDigit rest.tail) :
      Scans (.lexeme .integer (String.ofList (first :: whole))) (first :: whole) rest
  | decimal {first second : Char} {whole fraction rest : List Char}
      (digit : CharClass.isDigit first = true) (parts : ∀ d ∈ whole, isNumberPart d = true)
      (unmarked : first = '0' → ∀ mark ∈ whole.head?, marksDigit? mark = none)
      (digit' : CharClass.isDigit second = true)
      (parts' : ∀ d ∈ fraction, isNumberPart d = true) (stops : RunEnds isNumberPart rest) :
      Scans (.lexeme .decimal (String.ofList (first :: (whole ++ '.' :: second :: fraction))))
        (first :: (whole ++ '.' :: second :: fraction)) rest
  | altArrow {rest : List Char} : Scans (.lexeme .altArrow "<|>") ['<', '|', '>'] rest
  | twoMarks {first second : Char} {kind : TokenKind} {rest : List Char}
      (isMark : twoCharKind? first second = some kind) :
      Scans (.lexeme kind (String.ofList [first, second])) [first, second] rest
  | oneMark {c : Char} {kind : TokenKind} {rest : List Char} (isMark : oneCharKind? c = some kind)
      (alone : ∀ second ∈ rest.head?, twoCharKind? c second = none)
      (noArrow : c = '<' → ¬['|', '>'] <+: rest) (noComment : c = '/' → rest.head? ≠ some '/')
      (noAtom : c = ':' → beginsAtom rest = false) :
      Scans (.lexeme kind (String.singleton c)) [c] rest

/-! ## What is recognized is in the grammar -/

/-- A run of characters that pass a test, and what follows it. -/
theorem exists_run (test : Char → Bool) (text : List Char) :
    ∃ run rest, text = run ++ rest ∧ text.takeWhile test = run ∧ text.dropWhile test = rest ∧
      (∀ c ∈ run, test c = true) ∧ RunEnds test rest := by
  refine ⟨text.takeWhile test, text.dropWhile test, ?_, rfl, rfl, ?_, ?_⟩
  · exact List.takeWhile_append_dropWhile.symm
  · exact List.all_eq_true.mp List.all_takeWhile
  · intro c first
    have stops := List.head?_dropWhile_not test text
    rw [Option.mem_def.mp first] at stops
    exact stops

/-- Whether a piece of the grammar stands at the head of a text: its first character is given, and
it takes some further ones. -/
def Begins (kind : PieceKind) (c : Char) (rest : List Char) (size : Nat) : Prop :=
  ∃ further after, rest = further ++ after ∧ size = further.length ∧ Scans kind (c :: further) after

theorem tabFaults_eq_nil {place : Position} {run : List Char} (clean : tabFaults place run = []) :
    ∀ c ∈ run, c ≠ '\t' := by
  induction run generalizing place with
  | nil => exact List.forall_mem_nil _
  | cons c run ih =>
      rw [tabFaults] at clean
      split at clean
      · cases clean
      · rename_i noTab
        exact List.forall_mem_cons.mpr ⟨noTab, ih clean⟩

theorem begins_gap {place : Position} {c : Char} {rest : List Char} (isBlank : isGap c = true)
    (clean : (recognizeGap place c rest).faults = []) :
    Begins .gap c rest (recognizeGap place c rest).further := by
  rcases exists_run isGap rest with ⟨further, after, rfl, run, _, blank, stops⟩
  simp only [recognizeGap, run] at clean ⊢
  have noTab := tabFaults_eq_nil clean
  have gap : ∀ d ∈ c :: further, isGap d = true := List.forall_mem_cons.mpr ⟨isBlank, blank⟩
  refine ⟨further, after, rfl, rfl, .gap ?_ stops⟩
  intro d member
  have here := gap d member
  have noTab := noTab d member
  simpa [isGap, noTab] using here

theorem begins_comment {rest : List Char} (plain : rest.head? ≠ some '/') :
    Begins .comment '/' ('/' :: rest) (recognizeComment ('/' :: rest)).further := by
  rcases exists_run (· ≠ '\n') rest with ⟨said, after, rfl, run, _, inLine, stops⟩
  have slash : ('/' :: (said ++ after)).takeWhile (· ≠ '\n') = '/' :: said := by
    rw [List.takeWhile_cons_of_pos (by decide), run]
  rw [recognizeComment, slash]
  refine ⟨'/' :: said, after, rfl, rfl, .comment ?_ ?_ stops⟩
  · intro first
    apply plain
    rw [List.head?_append, first, Option.some_or]
  · intro feed
    simpa using inLine '\n' feed

theorem recognizeDocComment_of_unspaced {content : List Char}
    (unspaced : content.head? ≠ some ' ') :
    recognizeDocComment content =
      ⟨.lexeme .docComment (String.ofList (content.takeWhile isRemarkPart)),
        (content.takeWhile isRemarkPart).length + 2, []⟩ := by
  rw [recognizeDocComment.eq_def]
  split
  · exact absurd rfl unspaced
  · rfl

theorem begins_docComment (content : List Char) :
    Begins (recognizeDocComment content).kind '/' ('/' :: '/' :: content)
      (recognizeDocComment content).further := by
  by_cases spaced : content.head? = some ' '
  · rcases List.head?_eq_some_iff.mp spaced with ⟨more, rfl⟩
    rcases exists_run isRemarkPart more with ⟨said, after, rfl, run, _, inLine, stops⟩
    have found : recognizeDocComment (' ' :: (said ++ after)) =
        ⟨.lexeme .docComment (String.ofList ((said ++ after).takeWhile isRemarkPart)),
          ((said ++ after).takeWhile isRemarkPart).length + 3, []⟩ := rfl
    rw [found, run]
    exact ⟨'/' :: '/' :: ' ' :: said, after, rfl, rfl, .spacedDocComment inLine stops⟩
  · rcases exists_run isRemarkPart content with ⟨said, after, text, run, _, inLine, stops⟩
    rw [recognizeDocComment_of_unspaced spaced, run, text]
    refine ⟨'/' :: '/' :: said, after, rfl, rfl, .docComment ?_ inLine stops⟩
    intro first
    apply spaced
    rw [text, List.head?_append, first, Option.some_or]

theorem exists_quotes {place : Position} {text : List Char}
    (closed : (textBody place text).closed = true)
    (clean : (textBody place text).faults = []) :
    ∃ body after, text = body ++ '"' :: after ∧ (textBody place text).size = body.length + 1 ∧
      Quotes body (textBody place text).said := by
  fun_induction textBody place text with
  | case1 => cases closed
  | case2 place after => exact ⟨[], after, rfl, rfl, .nil⟩
  | case3 => cases closed
  | case4 => cases closed
  | case5 place c rest _ stop meant escaped ih =>
      rcases ih closed clean with ⟨inside, after, rfl, size, quotes⟩
      refine ⟨'\\' :: c :: inside, after, rfl, ?_, .escape escaped quotes⟩
      exact congrArg (· + 2) size
  | case6 => cases clean
  | case7 place c rest noQuote noFeed single several body ih =>
      rcases ih closed clean with ⟨inside, after, text, size, quotes⟩
      have noEscape : c ≠ '\\' := by
        intro same
        cases rest with
        | nil => exact single same rfl
        | cons d rest => exact several d rest same rfl
      refine ⟨c :: inside, after, congrArg (c :: ·) text, congrArg (· + 1) size, ?_⟩
      exact .plain noQuote noFeed noEscape quotes

theorem begins_text {place : Position} {rest : List Char}
    (clean : (recognizeText place rest).faults = []) :
    Begins (recognizeText place rest).kind '"' rest (recognizeText place rest).further := by
  rw [recognizeText] at clean ⊢
  split
  · rename_i closed
    rw [if_pos closed] at clean
    rcases exists_quotes closed clean with ⟨body, after, rfl, size, quotes⟩
    refine ⟨body ++ ['"'], after, ?_, ?_, .text quotes⟩
    · rw [List.append_assoc]
      rfl
    · rw [size, List.length_append, List.length_singleton]
  · rename_i unclosed
    rw [if_neg unclosed] at clean
    simp at clean

theorem begins_atom {rest : List Char} (begins : beginsAtom rest = true) :
    Begins (recognizeAtom rest).kind ':' rest (recognizeAtom rest).further := by
  have legible := isLegible_atom begins
  rcases exists_run CharClass.isNamePart rest with ⟨said, after, text, run, _, _, stops⟩
  simp only [recognizeAtom, run] at legible ⊢
  exact ⟨said, after, text, rfl, .atom legible stops⟩

theorem begins_word {first : Char} (starts : CharClass.isNameStart first = true)
    (noDigit : CharClass.isDigit first = false) (rest : List Char) :
    Begins (recognizeWord first rest).kind first rest (recognizeWord first rest).further := by
  rcases exists_run CharClass.isNamePart rest with ⟨further, after, text, run, _, parts, stops⟩
  rw [recognizeWord_eq, run]
  have word : isWord (String.ofList (first :: further)) = true := by
    rw [isWord, String.toList_ofList]
    simp only [starts, noDigit, Bool.not_false, Bool.true_and]
    exact List.all_eq_true.mpr parts
  exact ⟨further, after, text, rfl, .word word stops⟩

theorem isNumberPart_of_digit {c : Char} (digit : CharClass.isDigit c = true) :
    isNumberPart c = true := by
  rw [isNumberPart, digit, Bool.true_or]

theorem begins_decimal {first : Char} (digit : CharClass.isDigit first = true) {rest : List Char}
    (unmarked : first = '0' → ∀ mark ∈ rest.head?, marksDigit? mark = none) :
    Begins (recognizeDecimal first rest).kind first rest (recognizeDecimal first rest).further := by
  rcases exists_run isNumberPart rest with ⟨whole, after, rfl, run, left, parts, stops⟩
  have integer (noFraction : after.head? = some '.' → RunEnds CharClass.isDigit after.tail) :
      Begins (.lexeme .integer (String.ofList (first :: whole))) first (whole ++ after)
        whole.length :=
    ⟨whole, after, rfl, rfl, .integer digit parts unmarked stops noFraction⟩
  rw [recognizeDecimal]
  simp only [run, left]
  split
  · rename_i second more
    split
    · rename_i digit'
      rcases exists_run isNumberPart more with ⟨fraction, last, rfl, run', _, parts', stops'⟩
      have found : (second :: (fraction ++ last)).takeWhile isNumberPart = second :: fraction := by
        rw [List.takeWhile_cons_of_pos (isNumberPart_of_digit digit'), run']
      rw [found]
      refine ⟨whole ++ '.' :: second :: fraction, last, by simp, ?_, ?_⟩
      · simp only [List.length_append, List.length_cons]
        omega
      · apply Scans.decimal digit parts ?_ digit' parts' stops'
        intro zero mark head
        apply unmarked zero
        rw [List.head?_append, Option.mem_def.mp head]
        rfl
    · rename_i noDigit
      apply integer
      intro _ c head
      rw [← Option.some.inj head]
      simpa using noDigit
  · rename_i noPoint
    apply integer
    intro point c head
    cases after with
    | nil => cases point
    | cons d after =>
        obtain rfl := Option.some.inj point
        cases after with
        | nil => cases head
        | cons e after => exact absurd rfl (noPoint e after)

theorem begins_number {place : Position} {first : Char} (digit : CharClass.isDigit first = true)
    {rest : List Char} (clean : (recognizeNumber place first rest).faults = []) :
    Begins (recognizeNumber place first rest).kind first rest
      (recognizeNumber place first rest).further := by
  rw [recognizeNumber.eq_def] at clean ⊢
  split
  · rename_i mark more
    split
    · rename_i isPart found
      simp only [found] at clean
      split at found
      · rename_i zero
        subst zero
        rcases exists_run isPart more with ⟨digits, after, rfl, run, _, parts, stops⟩
        simp only [recognizeMarked, run] at clean ⊢
        refine ⟨mark :: digits, after, rfl, rfl, .marked found ?_ parts stops⟩
        rintro rfl
        simp at clean
      · cases found
    · rename_i none
      apply begins_decimal digit
      rintro rfl c head
      obtain rfl := Option.some.inj head
      simpa using none
  · apply begins_decimal digit
    intro _ mark head
    cases head

theorem begins_single {place : Position} {c : Char} {rest : List Char}
    (alone : ∀ second ∈ rest.head?, twoCharKind? c second = none)
    (noArrow : c = '<' → ¬['|', '>'] <+: rest) (noComment : c = '/' → rest.head? ≠ some '/')
    (noAtom : c = ':' → beginsAtom rest = false)
    (clean : (recognizeSingle place c).faults = []) :
    Begins (recognizeSingle place c).kind c rest (recognizeSingle place c).further := by
  rw [recognizeSingle] at clean ⊢
  split
  · rename_i kind isMark
    exact ⟨[], rest, rfl, rfl, .oneMark isMark alone noArrow noComment noAtom⟩
  · rename_i noMark
    simp only [noMark] at clean
    cases clean

theorem begins_mark {place : Position} {c : Char} {rest : List Char}
    (noComment : c = '/' → rest.head? ≠ some '/') (noAtom : c = ':' → beginsAtom rest = false)
    (clean : (recognizeMark place c rest).faults = []) :
    Begins (recognizeMark place c rest).kind c rest (recognizeMark place c rest).further := by
  generalize found : recognizeMark place c rest = result at clean
  rw [recognizeMark.eq_def] at found
  split at found
  · subst found
    exact ⟨['|', '>'], _, rfl, rfl, .altArrow⟩
  · rename_i second more noArrow
    split at found
    · rename_i kind isMark
      subst found
      exact ⟨[second], more, rfl, rfl, .twoMarks isMark⟩
    · rename_i noMark
      subst found
      apply begins_single _ _ noComment noAtom clean
      · intro other head
        rw [← Option.some.inj head]
        exact noMark
      · rintro rfl ⟨tail, same⟩
        rcases List.cons.inj same with ⟨rfl, rfl⟩
        exact noArrow tail rfl rfl rfl
  · subst found
    apply begins_single _ _ noComment noAtom clean
    · intro second head
      cases head
    · exact fun _ arrow => absurd arrow.length_le (by simp)

/-- What is recognized without a fault is in the grammar. -/
theorem begins_recognize {place : Position} {c : Char} {rest : List Char}
    (clean : (recognize place c rest).faults = []) :
    Begins (recognize place c rest).kind c rest (recognize place c rest).further := by
  generalize found : recognize place c rest = result at clean
  rw [recognize.eq_def] at found
  split_ifs at found with isBlank feed
  · subst found
    exact begins_gap isBlank clean
  · subst found feed
    exact ⟨[], rest, rfl, rfl, .lineFeed⟩
  · split at found
    · subst found
      exact begins_docComment _
    · rename_i more noDoc
      subst found
      apply begins_comment
      intro first
      rcases List.head?_eq_some_iff.mp first with ⟨content, same⟩
      exact noDoc content same
    · subst found
      exact begins_text clean
    · rename_i noQuote noDoc noComment
      split_ifs at found with atom digit starts
      · subst found
        rw [Bool.and_eq_true] at atom
        obtain rfl := of_decide_eq_true atom.1
        exact begins_atom atom.2
      · subst found
        exact begins_number digit clean
      · subst found
        exact begins_word starts (by simpa using digit) rest
      · subst found
        apply begins_mark _ _ clean
        · intro slash second
          rcases List.head?_eq_some_iff.mp second with ⟨more, same⟩
          exact noComment more slash same
        · rintro rfl
          simpa using atom

end Piece
end ClauseFlow
