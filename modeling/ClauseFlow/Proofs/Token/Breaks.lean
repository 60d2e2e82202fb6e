import ClauseFlow.Proofs.Token.Scanning

/-!
# Breaks between pieces

Line feeds are pieces of their own, and lexemes begin with no blank. A blank or a line feed may cut
a text anywhere behind a piece, and right behind most pieces: the piece stays what it is.
-/

namespace ClauseFlow

theorem RunEnds.cut {test : Char → Bool} {known rest rest' : List Char} {mark : Char}
    (stops : RunEnds test (known ++ rest)) (fails : known = [] → test mark = false) :
    RunEnds test (known ++ mark :: rest') := by
  cases known with
  | nil =>
      intro c first
      rw [← Option.some.inj first]
      exact fails rfl
  | cons c known => exact stops

theorem RunEnds.append {test : Char → Bool} {text : List Char} (stops : RunEnds test text)
    (some : text ≠ []) (rest : List Char) : RunEnds test (text ++ rest) := by
  cases text with
  | nil => exact absurd rfl some
  | cons c text => exact stops

theorem stops_isSome_iff {α : Type} {find : Char → Option α} {rest : List Char} :
    RunEnds (fun c => (find c).isSome) rest ↔ ∀ c ∈ rest.head?, find c = none := by
  simp only [RunEnds, Option.isSome_eq_false_iff, Option.isNone_iff_eq_none]

namespace Piece

/-! ## Line feeds and blanks in pieces -/

theorem notMem_of_all {test : Char → Bool} {run : List Char} (parts : ∀ c ∈ run, test c = true)
    {other : Char} (fails : test other = false) : other ∉ run := by
  intro member
  rw [parts other member] at fails
  cases fails

theorem noFeed_of_all {test : Char → Bool} {run : List Char} (parts : ∀ c ∈ run, test c = true)
    (feed : test '\n' = false) : '\n' ∉ run :=
  notMem_of_all parts feed

theorem noFeed_cons {c : Char} {run : List Char} (differs : c ≠ '\n') (others : '\n' ∉ run) :
    '\n' ∉ c :: run :=
  List.not_mem_cons_of_ne_of_not_mem differs.symm others

theorem noFeed_of_quotes {body said : List Char} (quotes : Quotes body said) : '\n' ∉ body := by
  induction quotes with
  | nil => exact List.not_mem_nil
  | plain _ noFeed _ _ ih => exact noFeed_cons noFeed ih
  | @escape c meant _ _ escaped _ ih =>
      have noFeed : c ≠ '\n' := by
        rintro rfl
        cases escaped
      exact noFeed_cons (by decide) (noFeed_cons noFeed ih)

theorem marksDigit?_feed {mark : Char} {isPart : Char → Bool}
    (isMark : marksDigit? mark = some isPart) : mark ≠ '\n' ∧ isPart '\n' = false := by
  rw [marksDigit?] at isMark
  constructor
  · rintro rfl
    cases isMark
  · split_ifs at isMark
    all_goals
      rw [← Option.some.inj isMark]
      rfl

theorem twoCharKind?_feed {first second : Char} {kind : TokenKind}
    (isMark : twoCharKind? first second = some kind) : '\n' ∉ [first, second] := by
  rw [twoCharKind?.eq_def] at isMark
  split at isMark
  all_goals
    try cases isMark
  all_goals decide

theorem isDigit_ne_feed {c : Char} (digit : CharClass.isDigit c = true) : c ≠ '\n' := by
  rintro rfl
  cases digit

/-- No piece but a line feed has a line feed in it. -/
theorem Scans.noFeed {kind : PieceKind} {text rest : List Char} (scans : Scans kind text rest)
    (noLine : kind ≠ .lineFeed) : '\n' ∉ text := by
  cases scans with
  | gap blank _ =>
      intro member
      rcases blank _ member with same | same <;> cases same
  | lineFeed => exact absurd rfl noLine
  | comment _ inLine _ => exact noFeed_cons (by decide) (noFeed_cons (by decide) inLine)
  | docComment _ inLine _ => simpa using noFeed_of_all inLine rfl
  | spacedDocComment inLine _ => simpa using noFeed_of_all inLine rfl
  | text quotes => simpa using noFeed_of_quotes quotes
  | atom name _ =>
      exact noFeed_cons (by decide) (noFeed_of_all (of_isAtomName name).2 (by decide))
  | word isWord _ => exact noFeed_of_all (isNamePart_of_isWord isWord) (by decide)
  | marked isMark _ parts _ =>
      rcases marksDigit?_feed isMark with ⟨mark, feed⟩
      exact noFeed_cons (by decide) (noFeed_cons mark (noFeed_of_all parts feed))
  | integer digit parts _ _ _ =>
      exact noFeed_cons (isDigit_ne_feed digit) (noFeed_of_all parts (by decide))
  | decimal digit parts _ digit' parts' _ =>
      have fraction := noFeed_cons (isDigit_ne_feed digit') (noFeed_of_all parts' (by decide))
      have whole := noFeed_of_all parts (by decide)
      apply noFeed_cons (isDigit_ne_feed digit)
      rw [List.mem_append, not_or]
      exact ⟨whole, noFeed_cons (by decide) fraction⟩
  | altArrow => decide
  | twoMarks isMark => exact twoCharKind?_feed isMark
  | oneMark isMark _ _ _ _ =>
      have bare := (isBare_of_oneCharKind? isMark [] (by simp) fun _ => rfl).noFeed
      exact noFeed_cons bare List.not_mem_nil

theorem of_isGap {c : Char} (isBlank : isGap c = true) :
    CharClass.isDigit c = false ∧ CharClass.isNameStart c = false ∧
      c ≠ '/' ∧ c ≠ '"' ∧ c ≠ ':' := by
  simp only [isGap, Bool.or_eq_true, decide_eq_true_eq] at isBlank
  rcases isBlank with (rfl | rfl) | rfl
  all_goals decide

/-- No lexeme begins with a blank. -/
theorem Scans.noGap {kind : TokenKind} {value : String} {text rest : List Char}
    (scans : Scans (.lexeme kind value) text rest) : RunEnds isGap text := by
  intro c first
  by_contra isBlank
  rw [Bool.not_eq_false] at isBlank
  rcases of_isGap isBlank with ⟨noDigit, noName, noSlash, noQuote, noColon⟩
  cases scans with
  | docComment | spacedDocComment => exact noSlash (Option.some.inj first).symm
  | text => exact noQuote (Option.some.inj first).symm
  | atom => exact noColon (Option.some.inj first).symm
  | word isWord _ =>
      rcases of_isWord isWord with ⟨d, further, rfl, starts, _, _⟩
      rw [Option.some.inj first, noName] at starts
      cases starts
  | marked =>
      rw [← Option.some.inj first] at noDigit
      exact absurd noDigit (by decide)
  | integer digit | decimal digit =>
      rw [Option.some.inj first, noDigit] at digit
      cases digit
  | altArrow =>
      rw [← Option.some.inj first] at isBlank
      exact absurd isBlank (by decide)
  | twoMarks isMark =>
      have bare := (isBare_of_twoCharKind? isMark rest).noGap
      rw [Option.some.inj first, isBlank] at bare
      cases bare
  | oneMark isMark _ _ _ _ =>
      have bare := (isBare_of_oneCharKind? isMark [] (by simp) fun _ => rfl).noGap
      rw [Option.some.inj first, isBlank] at bare
      cases bare

/-! ## Other characters behind a piece -/

/-- Whether a piece ends where a blank or a line feed comes, as the given mark. -/
def endsBefore (kind : PieceKind) (mark : Char) : Bool :=
  match kind with
  | .gap | .comment | .lexeme .docComment _ => mark = '\n'
  | .lineFeed | .lexeme .. => mark = '\n' || mark = ' '
  | .broken => false

theorem Scans.endsBefore_feed {kind : PieceKind} {text rest : List Char}
    (scans : Scans kind text rest) : endsBefore kind '\n' = true := by
  rw [endsBefore.eq_def]
  split
  any_goals rfl
  cases scans

theorem marksDigit?_break {mark : Char} {isPart : Char → Bool}
    (isMark : marksDigit? mark = some isPart) {other : Char} (isBreak : other ∈ [' ', '\n']) :
    isPart other = false := by
  rw [marksDigit?] at isMark
  simp only [List.mem_cons, List.not_mem_nil, or_false] at isBreak
  split_ifs at isMark
  all_goals
    rw [← Option.some.inj isMark]
    rcases isBreak with rfl | rfl <;> decide

theorem twoCharKind?_break (c : Char) {other : Char} (isBreak : other ∈ [' ', '\n']) :
    twoCharKind? c other = none := by
  simp only [List.mem_cons, List.not_mem_nil, or_false] at isBreak
  rw [twoCharKind?.eq_def]
  split
  all_goals
    first
    | rfl
    | rcases isBreak with same | same <;> cases same

/-- A blank and a line feed go on with nothing but blanks and comments. -/
theorem fails_of_break (test : Char → Bool) {mark : Char} (isBreak : mark ∈ [' ', '\n'])
    (blank : test ' ' = false) (feed : test '\n' = false) : test mark = false := by
  simp only [List.mem_cons, List.not_mem_nil, or_false] at isBreak
  rcases isBreak with rfl | rfl
  · exact blank
  · exact feed

/-- A piece stays a piece when the text behind it is cut by a blank or a line feed, somewhere behind
the piece or right after it if the piece ends there. -/
theorem Scans.cut {kind : PieceKind} {text known rest : List Char}
    (scans : Scans kind text (known ++ rest)) {mark : Char} (isBreak : mark ∈ [' ', '\n'])
    (ends : known = [] → endsBefore kind mark = true) (rest' : List Char) :
    Scans kind text (known ++ mark :: rest') := by
  cases scans with
  | gap blank stops =>
      apply Scans.gap blank
      apply stops.cut
      intro none
      rw [of_decide_eq_true (ends none)]
      rfl
  | lineFeed => exact .lineFeed
  | comment plain inLine stops =>
      apply Scans.comment plain inLine
      apply stops.cut
      intro none
      rw [of_decide_eq_true (ends none)]
      rfl
  | docComment noBlank inLine stops =>
      apply Scans.docComment noBlank inLine
      apply stops.cut
      intro none
      rw [of_decide_eq_true (ends none)]
      rfl
  | spacedDocComment inLine stops =>
      apply Scans.spacedDocComment inLine
      apply stops.cut
      intro none
      rw [of_decide_eq_true (ends none)]
      rfl
  | text quotes => exact .text quotes
  | atom name stops =>
      exact .atom name (stops.cut fun _ => fails_of_break _ isBreak (by decide) (by decide))
  | word isWord stops =>
      exact .word isWord (stops.cut fun _ => fails_of_break _ isBreak (by decide) (by decide))
  | marked isMark some parts stops =>
      exact .marked isMark some parts (stops.cut fun _ => marksDigit?_break isMark isBreak)
  | @integer first whole _ digit parts unmarked stops noFraction =>
      apply Scans.integer digit parts
      · intro zero
        have stops := stops_isSome_iff.mpr (unmarked zero)
        rw [← List.append_assoc] at stops ⊢
        apply stops_isSome_iff.mp
        exact stops.cut fun _ =>
          fails_of_break (fun c => (marksDigit? c).isSome) isBreak rfl rfl
      · exact stops.cut fun _ => fails_of_break _ isBreak (by decide) (by decide)
      · intro point
        cases known with
        | nil =>
            rw [List.nil_append, List.head?_cons, Option.some.injEq] at point
            rw [point] at isBreak
            exact absurd isBreak (by decide)
        | cons c known =>
            exact (noFraction point).cut fun _ => fails_of_break _ isBreak (by decide) (by decide)
  | decimal digit parts unmarked digit' parts' stops =>
      exact .decimal digit parts unmarked digit' parts'
        (stops.cut fun _ => fails_of_break _ isBreak (by decide) (by decide))
  | altArrow => exact .altArrow
  | twoMarks isMark => exact .twoMarks isMark
  | oneMark isMark alone noArrow noComment noAtom =>
      apply Scans.oneMark isMark
      · apply stops_isSome_iff.mp
        apply (stops_isSome_iff.mpr alone).cut
        intro _
        rw [twoCharKind?_break _ isBreak, Option.isSome_none]
      · intro less arrow
        apply noArrow less
        match known, arrow with
        | [], ⟨_, same⟩ =>
            rw [← (List.cons.inj same).1] at isBreak
            exact absurd isBreak (by decide)
        | [_], ⟨_, same⟩ =>
            rw [← (List.cons.inj (List.cons.inj same).2).1] at isBreak
            exact absurd isBreak (by decide)
        | _ :: _ :: more, ⟨_, same⟩ =>
            rcases List.cons.inj same with ⟨rfl, tail⟩
            rcases List.cons.inj tail with ⟨rfl, _⟩
            exact ⟨more ++ rest, rfl⟩
      · intro slash second
        cases known with
        | nil =>
            rw [Option.some.inj second] at isBreak
            exact absurd isBreak (by decide)
        | cons c known => exact noComment slash second
      · intro colon
        cases known with
        | nil => exact fails_of_break CharClass.isNameStart isBreak (by decide) (by decide)
        | cons c known => exact noAtom colon

end Piece
end ClauseFlow
