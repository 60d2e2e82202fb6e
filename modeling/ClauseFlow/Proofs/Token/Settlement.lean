import ClauseFlow.Proofs.Token.Continuation

/-!
# Texts without carriage returns

A line break that is pending at the beginning of a line is settled by the first lexeme of the line,
unless there is a carriage return before it. So in a text without carriage returns no declaration
ends where more is expected, and the text can be laid out anew without a change to what its tokens
say.
-/

namespace ClauseFlow

namespace Layout.State

variable {file : String} {stop : Position} {state : State}

/-- Whether a pending line break may still end a declaration in front of a text: the text is on a
new line behind blanks, or a line feed follows. -/
structure IsSettled (state : State) (rest : List Char) : Prop where
  mayEnd : state.pending?.isSome = true → state.mayEnd = true
  feeds : state.pending?.isSome = true → state.indent? = none → ∀ c ∈ rest.head?, c = '\n'
  blanks : ∀ blanks ∈ state.indent?, ∀ c ∈ blanks, c = ' '

theorem expectsMore_eq_false {kind : TokenKind} (mayEnd : state.mayEnd = true)
    (last : kind ∈ state.last?) : kind.expectsMore = false := by
  rw [State.mayEnd, Option.mem_def.mp last] at mayEnd
  simpa using (Bool.and_eq_true_iff.mp mayEnd).2

/-- In front of a lexeme no break stays open. -/
theorem IsSettled.pending_eq_none {rest : List Char} (settled : state.IsSettled rest)
    (keep : state.decision = .keep) (noFeed : ∀ c ∈ rest.head?, c ≠ '\n') (some : rest ≠ []) :
    state.pending? = none := by
  by_contra pending
  have pending : state.pending?.isSome = true := Option.isSome_iff_ne_none.mpr pending
  have mayEnd := settled.mayEnd pending
  rw [decision.eq_def] at keep
  split at keep
  · rename_i none
    rcases List.exists_cons_of_ne_nil some with ⟨c, rest, rfl⟩
    exact noFeed c rfl (settled.feeds pending none c rfl)
  · rename_i blanks indent
    have closed : state.depth = 0 := by
      rw [State.mayEnd, Bool.and_eq_true_iff] at mayEnd
      exact of_decide_eq_true mayEnd.1
    have plain : blanks.any (· ≠ ' ') = false := by
      rw [List.any_eq_false]
      intro c member
      simpa using settled.blanks blanks indent c member
    rw [if_neg (by simp [closed]), plain, if_neg Bool.false_ne_true] at keep
    split at keep <;> cases keep

/-- The first character of a lexeme is no line feed. -/
theorem noFeed_of_lexeme {kind : TokenKind} {value : String} {text rest : List Char}
    (scans : Piece.Scans (.lexeme kind value) text rest) :
    ∀ c ∈ (text ++ rest).head?, c ≠ '\n' := by
  rintro c first rfl
  have noFeed := scans.noFeed (by simp)
  cases text with
  | nil => exact scans.ne_nil rfl
  | cons d text =>
      rw [Option.some.inj first] at noFeed
      exact noFeed (.head _)

theorem IsSettled.next {segment : Segment} {rest : List Char}
    (settled : state.IsSettled (segment.text ++ rest))
    (scans : Piece.Scans segment.kind segment.text rest) (noReturn : '\r' ∉ segment.text)
    (place : Position) : (state.next (segment.pieceAt place)).IsSettled rest := by
  obtain ⟨kind, text⟩ := segment
  cases kind with
  | gap =>
      cases scans with
      | @gap c further _ blank _ =>
          have blanks : ∀ d ∈ c :: further, d = ' ' := by
            intro d member
            apply (blank d member).resolve_right
            rintro rfl
            exact noReturn member
          constructor
          · exact settled.mayEnd
          · intro pending none
            have feed := settled.feeds pending (Option.map_eq_none_iff.mp none) c rfl
            rw [blanks c (.head _)] at feed
            cases feed
          · intro text inside d member
            rcases Option.map_eq_some_iff.mp inside with ⟨_, _, rfl⟩
            exact blanks d member
  | lineFeed =>
      constructor
      · intro pending
        by_contra noEnd
        have noEnd : state.mayEnd = false := Bool.not_eq_true _ ▸ noEnd
        simp only [State.next, Segment.pieceAt, noEnd] at pending
        rw [settled.mayEnd pending] at noEnd
        cases noEnd
      · intro _ none
        cases none
      · intro blanks inside
        rw [← Option.some.inj inside]
        exact List.forall_mem_nil _
  | comment =>
      cases scans with
      | comment _ _ stops =>
          constructor
          · exact settled.mayEnd
          · intro _ _ c first
            simpa using stops c first
          · intro blanks inside
            cases inside
  | lexeme kind value =>
      have open? (keep : state.decision = .keep) : state.pending? = none :=
        settled.pending_eq_none keep (noFeed_of_lexeme scans) (by simp [scans.ne_nil])
      have none :
          (state.next (Segment.pieceAt ⟨.lexeme kind value, text⟩ place)).pending? = none := by
        simp only [State.next, Segment.pieceAt]
        split
        · exact open? ‹_›
        · rfl
      constructor
      · intro pending
        rw [none] at pending
        cases pending
      · intro pending
        rw [none] at pending
        cases pending
      · intro blanks inside
        cases inside
  | broken => cases scans

theorem noneCutShort_tokens {segments : List Segment} {rest : List Char}
    (areCut : Segment.AreCut segments rest) (noReturn : '\r' ∉ Segment.textOf segments)
    {state : State} (settled : state.IsSettled (Segment.textOf segments ++ rest))
    (place : Position) :
    Token.NoneCutShort state.last? (tokens file stop state (Segment.pieces place segments)) := by
  induction segments generalizing state place with
  | nil =>
      rw [Segment.pieces, tokens]
      split
      · rename_i pending some
        refine ⟨fun _ kind last => ?_, trivial⟩
        apply expectsMore_eq_false (settled.mayEnd _) last
        rw [some]
        rfl
      · trivial
  | cons segment segments ih =>
      rcases areCut with ⟨scans, others⟩
      rw [Segment.textOf_cons, List.mem_append, not_or] at noReturn
      rw [Segment.textOf_cons, List.append_assoc] at settled
      have later := ih others noReturn.2 (settled.next scans noReturn.1 place)
        (place.after segment.text)
      obtain ⟨kind, text⟩ := segment
      rw [Segment.pieces, tokens_cons]
      cases kind with
      | lexeme kind value =>
          have isLexeme : kind ≠ .newline := by
            rintro rfl
            exact absurd scans.isWritten (by decide)
          simp only [emits, Segment.pieceAt, List.append_assoc, marks]
          split
          · rename_i pending _ some
            refine ⟨fun _ before last => ?_, fun isNewline => absurd isNewline isLexeme, later⟩
            apply expectsMore_eq_false (settled.mayEnd _) last
            rw [some]
            rfl
          · exact ⟨fun isNewline => absurd isNewline isLexeme, later⟩
      | gap | lineFeed | comment | broken => exact later

end Layout.State

namespace TokenStream

variable {file text : String} {stream : TokenStream}

/-- Without a carriage return a declaration never ends where more is expected. -/
theorem noneCutShort_of_noReturn (streamed : ofText file text = .ok stream)
    (noReturn : '\r' ∉ text.toList) : Token.NoneCutShort none stream.tokens := by
  rcases exists_segments_of_ofText streamed with ⟨segments, whole, areCut, _, tokens, _⟩
  have settled : Layout.State.initial.IsSettled (Segment.textOf segments ++ []) := by
    constructor
    · intro pending
      cases pending
    · intro pending
      cases pending
    · intro blanks inside
      rw [← Option.some.inj inside]
      exact List.forall_mem_nil _
  rw [← whole] at noReturn
  rw [tokens]
  exact Layout.State.noneCutShort_tokens areCut noReturn settled .first

/-- How a text may be laid out anew: with a line more, a comment more, or another gap. -/
inductive Relaid (stream : TokenStream) (text text' : List Char) : Prop where
  | line (inserts : InsertsLine text text')
  | remark (appends : AppendsRemark stream text text')
  | gap (breaks : BreaksLine stream text text')
      (whole : Token.NoneCutShort none stream.tokens)

/-- The tokens of a text say what they said before when it is laid out anew: when a line is put in
that is blank or holds only a comment, when a comment is put behind a line that does not end in a
documentation comment, and when the gap between two tokens is replaced by a line feed and blanks, if
no declaration of the text ends where more is expected. -/
theorem saysSame_of_relaid (streamed : ofText file text = .ok stream)
    (closed : Text.IsClosed text.toList) {text' : List Char}
    (relaid : Relaid stream text.toList text') :
    ∃ stream', ofText file (String.ofList text') = .ok stream' ∧
      stream'.all.map Token.lexeme = stream.all.map Token.lexeme := by
  cases relaid with
  | line inserts => exact saysSame_insertsLine streamed inserts
  | remark appends => exact saysSame_appendsRemark streamed appends
  | gap breaks whole => exact saysSame_breaksLine streamed closed whole breaks

/-- A sum on two lines. -/
theorem saysSame_of_relaid_sum :
    ∃ stream stream', ofText "m.pipe" "a + b\n" = .ok stream ∧
      ofText "m.pipe" "a +\n  b\n" = .ok stream' ∧
      stream'.all.map Token.lexeme = stream.all.map Token.lexeme := by
  have streamed : ∃ name plus operand mark finish,
      ofText "m.pipe" "a + b\n" = .ok ⟨[name, plus, operand, mark], finish⟩ ∧
        plus.kind = .plus ∧ plus.span.stop = .behind "a +".toList ∧
        operand.kind = .name ∧ operand.span.first = .behind ("a +".toList ++ " ".toList) :=
    ⟨_, _, _, _, _, rfl, rfl, rfl, rfl, rfl⟩
  rcases streamed with
    ⟨name, plus, operand, mark, finish, streamed, isPlus, ends, isName, begins⟩
  have breaks : BreaksLine ⟨[name, plus, operand, mark], finish⟩ "a + b\n".toList
      "a +\n  b\n".toList :=
    @BreaksLine.intro _ "a +".toList " ".toList "b\n".toList [name] [mark] plus operand rfl
      (by rw [isPlus]; rfl) (by rw [isName]; rfl) ends begins 1
  have whole := noneCutShort_of_noReturn streamed (by decide)
  have closed : Text.IsClosed "a + b\n".toList := fun _ last => (Option.some.inj last).symm
  rcases saysSame_of_relaid streamed closed (.gap breaks whole) with ⟨stream', streamed', same⟩
  exact ⟨_, stream', streamed, streamed', same⟩

/-- A carriage return at the beginning of a line leaves the break before the line pending, and it
ends the declaration where the sum goes on. A line that begins inside the sum settles the break. -/
theorem breaksLine_carriageReturn :
    ∃ stream stream', ofText "m.pipe" "a\n\rb +\nd\n" = .ok stream ∧
      BreaksLine stream "a\n\rb +\nd\n".toList "a\n\rb\n +\nd\n".toList ∧
      ofText "m.pipe" "a\n\rb\n +\nd\n" = .ok stream' ∧
      stream'.all.map Token.lexeme ≠ stream.all.map Token.lexeme := by
  have streamed : ∃ name operand plus others finish,
      ofText "m.pipe" "a\n\rb +\nd\n" = .ok ⟨name :: operand :: plus :: others, finish⟩ ∧
        operand.kind = .name ∧ operand.span.stop = .behind "a\n\rb".toList ∧
        plus.kind = .plus ∧ plus.span.first = .behind ("a\n\rb".toList ++ " ".toList) ∧
        (TokenStream.mk (name :: operand :: plus :: others) finish).all.map Token.lexeme =
          [⟨.name, "a"⟩, ⟨.name, "b"⟩, ⟨.plus, "+"⟩, ⟨.newline, "\n"⟩, ⟨.name, "d"⟩,
            ⟨.newline, "\n"⟩, ⟨.endOfText, ""⟩] :=
    ⟨_, _, _, _, _, rfl, rfl, rfl, rfl, rfl, rfl⟩
  rcases streamed with
    ⟨name, operand, plus, others, finish, streamed, isName, ends, isPlus, begins, lexemes⟩
  have relaid : ∃ stream', ofText "m.pipe" "a\n\rb\n +\nd\n" = .ok stream' ∧
      stream'.all.map Token.lexeme = [⟨.name, "a"⟩, ⟨.name, "b"⟩, ⟨.plus, "+"⟩, ⟨.name, "d"⟩,
        ⟨.newline, "\n"⟩, ⟨.endOfText, ""⟩] := ⟨_, rfl, rfl⟩
  rcases relaid with ⟨stream', streamed', lexemes'⟩
  refine ⟨_, stream', streamed, ?_, streamed', ?_⟩
  · exact @BreaksLine.intro _ "a\n\rb".toList " ".toList "+\nd\n".toList [name] others operand plus
      rfl (by rw [isName]; rfl) (by rw [isPlus]; rfl) ends begins 0
  · rw [lexemes, lexemes']
    decide

end TokenStream
end ClauseFlow
