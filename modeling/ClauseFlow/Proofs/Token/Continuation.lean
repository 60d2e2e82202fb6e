import ClauseFlow.Proofs.Token.Relayout

/-!
# Line breaks inside declarations

A declaration may go on in another line between any two of its tokens. What could be lost by that is
a line break that is still pending from an earlier line, after a carriage return at the beginning of
a line; it ends a declaration where more is expected. Without carriage returns there is no such
break.
-/

namespace ClauseFlow

namespace Layout

variable {file : String} {stop : Position}

/-! ## Tokens and the segments around them -/

theorem State.isWritten_of_mem_marks {state : State} {start : Position} :
    ∀ token ∈ state.marks file start, token.kind.isWritten = false := by
  rw [marks]
  split
  · exact List.forall_mem_singleton.mpr rfl
  · exact List.forall_mem_nil _

theorem State.isWritten_of_mem_closing {state : State} :
    ∀ token ∈ state.closing file stop, token.kind.isWritten = false := by
  rw [closing]
  split
  · exact List.forall_mem_singleton.mpr rfl
  · exact List.forall_mem_nil _

theorem State.emits_eq {state : State} {piece : Piece} {front back : List Token} {token : Token}
    (written : token.kind.isWritten = true)
    (emits : state.emits file piece = front ++ token :: back) :
    piece.kind = .lexeme token.kind token.value ∧ token.span = piece.start.upTo file piece.stop ∧
      front = state.marks file piece.start ∧ back = [] := by
  rw [State.emits] at emits
  split at emits
  · rename_i kind value isLexeme
    have noMark : token ∉ state.marks file piece.start := by
      intro member
      rw [isWritten_of_mem_marks token member] at written
      cases written
    rcases List.append_eq_append_iff.mp emits with ⟨more, rfl, last⟩ | ⟨more, marks, last⟩
    · cases more with
      | nil =>
          rcases List.cons.inj last with ⟨rfl, rfl⟩
          exact ⟨isLexeme, rfl, List.append_nil _, rfl⟩
      | cons _ more => cases more <;> cases (List.cons.inj last).2
    · cases more with
      | nil =>
          rcases List.cons.inj last with ⟨rfl, rfl⟩
          exact ⟨isLexeme, rfl, by rw [marks, List.append_nil], rfl⟩
      | cons _ more =>
          rw [marks, ← (List.cons.inj last).1] at noMark
          exact absurd (List.mem_append_right _ (.head _)) noMark
  · cases front <;> cases emits

/-- Whether a token comes from a lexeme among segments: what is known before it comes from the
segments before, and what comes after it from the segments behind. -/
structure ComesFrom (file : String) (stop : Position) (state : State) (place : Position)
    (front : List Token) (token : Token) (back : List Token) (known : List Segment)
    (text : List Char) (rest : List Segment) : Prop where
  span : token.span = (place.after (Segment.textOf known)).upTo file
    (place.after (Segment.textOf known ++ text))
  before : front = state.emitted file (Segment.pieces place known) ++
    (state.run (Segment.pieces place known)).marks file (place.after (Segment.textOf known))
  after : back = tokens file stop
    ((state.run (Segment.pieces place known)).next
      ⟨.lexeme token.kind token.value, text, place.after (Segment.textOf known), []⟩)
    (Segment.pieces (place.after (Segment.textOf known ++ text)) rest)

theorem ComesFrom.cons {state : State} {place : Position} {front back : List Token} {token : Token}
    {known rest : List Segment} {text : List Char} {segment : Segment}
    (comes : ComesFrom file stop (state.next (segment.pieceAt place))
      (place.after segment.text) front token back known text rest) :
    ComesFrom file stop state place
      (state.emits file (segment.pieceAt place) ++ front) token back
      (segment :: known) text rest := by
  rcases comes with ⟨span, before, after⟩
  have place' : place.after (Segment.textOf (segment :: known)) =
      (place.after segment.text).after (Segment.textOf known) := Position.after_append _
  have place'' : place.after (Segment.textOf (segment :: known) ++ text) =
      (place.after segment.text).after (Segment.textOf known ++ text) := by
    rw [Segment.textOf_cons, List.append_assoc, Position.after_append]
  constructor
  · rw [span, place', place'']
  · rw [before, place', ← List.append_assoc]
    rfl
  · rw [after, place', place'']
    rfl

theorem ComesFrom.first_eq {state : State} {place : Position} {front back : List Token}
    {token : Token} {known rest : List Segment} {text : List Char}
    (comes : ComesFrom file stop state place front token back known text rest) :
    token.span.first = place.after (Segment.textOf known) := by
  rw [comes.span]
  rfl

theorem ComesFrom.stop_eq {state : State} {front back : List Token} {token : Token}
    {known rest : List Segment} {text : List Char}
    (comes : ComesFrom file stop state .first front token back known text rest) (some : text ≠ [])
    (noFeed : '\n' ∉ text) :
    token.span.stop = .behind (Segment.textOf known ++ text) := by
  rw [comes.span, Position.first_after, Position.first_after,
    Position.upTo_behind file _ some noFeed, Span.stop_ofChars file _ some noFeed]

/-- A token that is written comes from a lexeme. -/
theorem exists_comesFrom {segments : List Segment} {state : State} {place : Position}
    {front back : List Token} {token : Token} (written : token.kind.isWritten = true)
    (split : tokens file stop state (Segment.pieces place segments) = front ++ token :: back) :
    ∃ known text rest, segments = known ++ ⟨.lexeme token.kind token.value, text⟩ :: rest ∧
      ComesFrom file stop state place front token back known text rest := by
  induction segments generalizing state place front with
  | nil =>
      have member : token ∈ state.closing file stop := by
        have whole : state.closing file stop = front ++ token :: back := split
        rw [whole]
        exact List.mem_append_right _ (.head _)
      rw [State.isWritten_of_mem_closing token member] at written
      cases written
  | cons segment segments ih =>
      rw [Segment.pieces, tokens_cons] at split
      rcases List.append_eq_append_iff.mp split with ⟨more, rfl, later⟩ | ⟨more, emits, later⟩
      · rcases ih later with ⟨known, text, rest, rfl, comes⟩
        exact ⟨segment :: known, text, rest, rfl, comes.cons⟩
      · cases more with
        | nil =>
            have later : tokens file stop _ _ = [] ++ token :: back := later.symm
            rcases ih later with ⟨known, text, rest, rfl, comes⟩
            refine ⟨segment :: known, text, rest, rfl, ?_⟩
            have comes := comes.cons
            rwa [emits, List.append_nil, List.append_nil] at comes
        | cons _ more =>
            rcases List.cons.inj later with ⟨rfl, rfl⟩
            rcases State.emits_eq written emits with ⟨isLexeme, span, rfl, rfl⟩
            obtain ⟨kind, text⟩ := segment
            obtain rfl : kind = .lexeme _ _ := isLexeme
            exact ⟨[], text, segments, rfl, span, rfl, rfl⟩

/-! ## Between two tokens -/

namespace State

variable {segments : List Segment}

/-- Inside brackets nothing but lexemes changes what is pending. -/
theorem run_of_emitted_eq_nil {state : State} {place : Position}
    (silent : state.emitted file (Segment.pieces place segments) = []) :
    (state.run (Segment.pieces place segments)).depth = state.depth ∧
      (state.run (Segment.pieces place segments)).last? = state.last? ∧
      (state.depth ≠ 0 →
        (state.run (Segment.pieces place segments)).pending? = state.pending?) := by
  induction segments generalizing state place with
  | nil => exact ⟨rfl, rfl, fun _ => rfl⟩
  | cons segment segments ih =>
      obtain ⟨kind, text⟩ := segment
      rw [Segment.pieces, emitted, List.append_eq_nil_iff] at silent
      rw [Segment.pieces, run_cons]
      rcases ih silent.2 with ⟨depth, last, pending⟩
      cases kind with
      | lexeme kind value => cases (List.append_eq_nil_iff.mp silent.1).2
      | lineFeed =>
          refine ⟨depth, last, ?_⟩
          intro inside
          have mayEnd : state.mayEnd = false := by simp [mayEnd, inside]
          rw [pending inside, next, mayEnd]
          rfl
      | gap | comment | broken => exact ⟨depth, last, pending⟩

theorem expectsMore_of_mayEnd {state : State} (closed : state.depth = 0)
    (mayEnd : state.mayEnd = false) : ∀ kind ∈ state.last?, kind.expectsMore = true := by
  intro kind last
  rw [State.mayEnd, closed, Option.mem_def.mp last] at mayEnd
  simpa using mayEnd

theorem of_decision_emit {state : State} (emit : state.decision = .emit) :
    state.depth = 0 ∧ state.indent?.isSome = true := by
  rw [decision.eq_def] at emit
  split at emit
  · cases emit
  · rename_i blanks indent
    constructor
    · by_contra inside
      rw [if_pos inside] at emit
      cases emit
    · rw [indent]
      rfl

/-- Whether two states differ in a line break that is pending in the first one only, and would not
be pending if a line had just begun: a declaration may not end here. -/
structure Lags (state state' : State) : Prop where
  depth : state.depth = state'.depth
  last : state.last? = state'.last?
  indent : state.indent? = state'.indent?
  pending : state.pending?.isSome = true
  settled : state'.pending? = none
  begun : state.last?.isSome = true
  inLine : state.indent? = none ∨ state.mayEnd = false

/-- A break that is pending in one of two states only would end a declaration where more is
expected. -/
theorem Lags.expectsMore {state state' : State} (lags : state.Lags state')
    (closed : state.depth = 0) (atLine : state.indent?.isSome = true) :
    ∃ kind ∈ state.last?, kind.expectsMore = true := by
  have mayEnd : state.mayEnd = false := by
    apply lags.inLine.resolve_left
    intro none
    rw [none] at atLine
    cases atLine
  rcases Option.isSome_iff_exists.mp lags.begun with ⟨kind, last⟩
  exact ⟨kind, last, expectsMore_of_mayEnd closed mayEnd kind last⟩

end State
end Layout

/-- Whether no declaration ends right behind a token that expects more, given the kind of the token
before. -/
def Token.NoneCutShort : Option TokenKind → List Token → Prop
  | _, [] => True
  | last?, token :: rest =>
      (token.kind = .newline → ∀ kind ∈ last?, kind.expectsMore = false) ∧
        NoneCutShort (some token.kind) rest

theorem Token.NoneCutShort.of_append {last? : Option TokenKind} {front back : List Token}
    {token : Token} (whole : NoneCutShort last? (front ++ token :: back)) :
    NoneCutShort (some token.kind) back := by
  induction front generalizing last? with
  | nil => exact whole.2
  | cons _ front ih => exact ih whole.2

namespace Layout.State

variable {file : String} {stop : Position} {state state' : State}

/-- The break is either pending in both states or in none of them after a segment, or matters as
little as before. -/
theorem Lags.next (lags : state.Lags state') (segment : Segment) (place place' : Position) :
    (state.next (segment.pieceAt place)).Alike (state'.next (segment.pieceAt place')) ∨
      (state.next (segment.pieceAt place)).Lags (state'.next (segment.pieceAt place')) := by
  rcases lags with ⟨depth, last, indent, pending, settled, begun, inLine⟩
  obtain ⟨kind, text⟩ := segment
  cases kind with
  | gap =>
      refine .inr ⟨depth, last, congrArg (Option.map _) indent, pending, settled, begun, ?_⟩
      exact inLine.imp_left Option.map_eq_none_iff.mpr
  | lineFeed =>
      simp only [State.next, Segment.pieceAt, ← mayEnd_congr depth last]
      cases mayEnd : state.mayEnd with
      | true => exact .inl ⟨depth, last, by simp [settled], rfl⟩
      | false => exact .inr ⟨depth, last, rfl, pending, settled, begun, .inr mayEnd⟩
  | comment | broken => exact .inr ⟨depth, last, rfl, pending, settled, begun, .inl rfl⟩
  | lexeme kind value =>
      simp only [State.next, Segment.pieceAt, ← decision_congr depth indent]
      by_cases keep : state.decision = .keep
      · simp only [if_pos keep]
        exact .inr ⟨congrArg kind.depthAfter depth, rfl, rfl, pending, settled, rfl, .inl rfl⟩
      · simp only [if_neg keep]
        exact .inl ⟨congrArg kind.depthAfter depth, rfl, rfl, rfl⟩

theorem marks_of_none {start : Position} (none : state.pending? = none) :
    state.marks file start = [] := by
  rw [marks, none]
  cases state.decision <;> rfl

theorem Lags.marks_eq_nil (lags : state.Lags state') {start : Position} {back : List Token}
    (whole : Token.NoneCutShort state.last? (state.marks file start ++ back)) :
    state.marks file start = [] := by
  rw [marks] at whole ⊢
  split
  · rename_i pending emit some
    rcases of_decision_emit emit with ⟨closed, atLine⟩
    rcases lags.expectsMore closed atLine with ⟨kind, last, expects⟩
    rw [emit, some] at whole
    rw [whole.1 rfl kind last] at expects
    cases expects
  · rfl

theorem Lags.lexemes_emits (lags : state.Lags state') (segment : Segment)
    (place place' : Position) {back : List Token}
    (whole : Token.NoneCutShort state.last? (state.emits file (segment.pieceAt place) ++ back)) :
    (state.emits file (segment.pieceAt place)).map Token.lexeme =
        (state'.emits file (segment.pieceAt place')).map Token.lexeme ∧
      Token.NoneCutShort (state.next (segment.pieceAt place)).last? back := by
  obtain ⟨kind, text⟩ := segment
  cases kind with
  | lexeme kind value =>
      simp only [emits, Segment.pieceAt, List.append_assoc] at whole ⊢
      have noMark := lags.marks_eq_nil whole
      rw [noMark] at whole
      rw [noMark, marks_of_none lags.settled]
      exact ⟨rfl, whole.2⟩
  | gap | lineFeed | comment | broken => exact ⟨rfl, whole⟩

/-- A break that is pending in one of two states only makes no difference in a text in which no
declaration is cut short. -/
theorem Lags.lexemes_tokens (stop' : Position) (lags : state.Lags state')
    {segments : List Segment} {place : Position} (place' : Position)
    (whole : Token.NoneCutShort state.last?
      (tokens file stop state (Segment.pieces place segments)))
    (closed : (state.run (Segment.pieces place segments)).depth = 0)
    (atLine : (state.run (Segment.pieces place segments)).indent?.isSome = true) :
    (tokens file stop state (Segment.pieces place segments)).map Token.lexeme =
      (tokens file stop' state' (Segment.pieces place' segments)).map Token.lexeme := by
  induction segments generalizing state state' place place' with
  | nil =>
      rcases lags.expectsMore closed atLine with ⟨kind, last, expects⟩
      rcases Option.isSome_iff_exists.mp lags.pending with ⟨pending, some⟩
      rw [Segment.pieces, tokens, some] at whole
      rw [whole.1 rfl kind last] at expects
      cases expects
  | cons segment segments ih =>
      rw [Segment.pieces, run_cons] at closed atLine
      rw [Segment.pieces, tokens_cons] at whole
      rcases lags.lexemes_emits segment place place' whole with ⟨emits, others⟩
      rw [Segment.pieces, Segment.pieces, tokens_cons, tokens_cons, List.map_append,
        List.map_append, emits]
      congr 1
      rcases lags.next segment place place' with alike | lags
      · exact alike.lexemes_tokens file stop stop' segments _ _
      · exact ih lags _ others closed atLine

/-! ## A new line between two tokens -/

theorem decision_of_inside (inside : state.depth ≠ 0) : state.decision = .keep := by
  rw [decision.eq_def]
  split
  · rfl
  · rw [if_pos inside]

/-- A line that begins with blanks. -/
theorem run_newLine (state : State) (size : Nat) (place : Position) :
    state.run (Segment.pieces place [.feed, ⟨.gap, List.replicate (size + 1) ' '⟩]) =
      { state with
        pending? := if state.mayEnd then state.pending?.or (some place) else state.pending?
        indent? := some (List.replicate (size + 1) ' ') } :=
  rfl

theorem decision_newLine (state : State) (size : Nat) (place : Position) :
    (state.run (Segment.pieces place [.feed, ⟨.gap, List.replicate (size + 1) ' '⟩])).decision =
      if state.depth = 0 then .discard else .keep := by
  rw [run_newLine, decision.eq_def]
  by_cases closed : state.depth = 0
  · simp [closed]
  · simp [closed]

/-- Whatever is between two tokens, the states behind the second one are alike if a line begins
there, up to a break that makes no difference. -/
theorem alike_or_lags_newLine {inner : List Segment} {place place' : Position}
    (silent : state.emitted file (Segment.pieces place inner) = []) (size : Nat) (kind : TokenKind)
    (value : String) (text : List Char) (start start' : Position) :
    let second : Segment := ⟨.lexeme kind value, text⟩
    let behind := (state.run (Segment.pieces place inner)).next (second.pieceAt start)
    let behind' := (state.run (Segment.pieces place'
      [.feed, ⟨.gap, List.replicate (size + 1) ' '⟩])).next (second.pieceAt start')
    behind.Alike behind' ∨ behind.Lags behind' := by
  rcases run_of_emitted_eq_nil silent with ⟨depth, last, pending⟩
  have decision' := decision_newLine state size place'
  simp only [next, Segment.pieceAt, depth]
  by_cases closed : state.depth = 0
  · -- A line that begins with blanks settles the break.
    rw [if_pos closed] at decision'
    simp only [decision', reduceCtorEq, if_false]
    generalize (if (state.run (Segment.pieces place inner)).decision = .keep then _ else _ :
      Option Position) = pending?
    cases pending? with
    | none => exact .inl ⟨rfl, rfl, rfl, rfl⟩
    | some pending => exact .inr ⟨rfl, rfl, rfl, rfl, rfl, rfl, .inl rfl⟩
  · -- Inside brackets all that is pending stays so.
    rw [if_neg closed] at decision'
    have mayEnd : state.mayEnd = false := by simp [mayEnd, closed]
    rw [decision', decision_of_inside (by rw [depth]; exact closed), pending closed, run_newLine,
      mayEnd]
    exact .inl ⟨rfl, rfl, rfl, rfl⟩

/-- Whatever is between two tokens, a line may begin there instead. -/
theorem lexemes_newLine (stop' : Position) {inner rest : List Segment} {place : Position}
    {kind : TokenKind} {value : String} {text : List Char}
    (silent : state.emitted file (Segment.pieces place inner) = [])
    (noMark : (state.run (Segment.pieces place inner)).marks file
      (place.after (Segment.textOf inner)) = [])
    (whole : Token.NoneCutShort (some kind) (tokens file stop
      ((state.run (Segment.pieces place inner)).next
        ⟨.lexeme kind value, text, place.after (Segment.textOf inner), []⟩)
      (Segment.pieces (place.after (Segment.textOf inner ++ text)) rest)))
    (closed : (state.run (Segment.pieces place (inner ++ ⟨.lexeme kind value, text⟩ :: rest))).depth
      = 0)
    (atLine : (state.run (Segment.pieces place
      (inner ++ ⟨.lexeme kind value, text⟩ :: rest))).indent?.isSome = true) (size : Nat) :
    (tokens file stop state
        (Segment.pieces place (inner ++ ⟨.lexeme kind value, text⟩ :: rest))).map Token.lexeme =
      (tokens file stop' state (Segment.pieces place
        ([.feed, ⟨.gap, List.replicate (size + 1) ' '⟩] ++ ⟨.lexeme kind value, text⟩ :: rest))).map
          Token.lexeme := by
  rw [Segment.pieces_append, run_append, Segment.pieces, run_cons] at closed atLine
  rw [Position.after_append] at whole
  have silent' : state.emitted file (Segment.pieces place
      [.feed, ⟨.gap, List.replicate (size + 1) ' '⟩]) = [] := rfl
  have noMark' (start : Position) : (state.run (Segment.pieces place
      [.feed, ⟨.gap, List.replicate (size + 1) ' '⟩])).marks file start = [] := by
    rw [marks, decision_newLine]
    split_ifs <;> rfl
  rw [Segment.pieces_append, Segment.pieces_append, tokens_append, tokens_append, silent, silent',
    List.nil_append, List.nil_append, Segment.pieces_cons _ ⟨.lexeme kind value, text⟩,
    Segment.pieces_cons _ ⟨.lexeme kind value, text⟩, tokens_cons, tokens_cons]
  simp only [emits, Segment.pieceAt, noMark, noMark', List.map_append]
  congr 1
  rcases alike_or_lags_newLine silent size kind value text
    (place.after (Segment.textOf inner)) _ with alike | lags
  · exact alike.lexemes_tokens file stop stop' rest _ _
  · exact lags.lexemes_tokens stop' _ whole closed atLine

end Layout.State

theorem Layout.openBrackets_eq_depth (pieces : List Piece) :
    openBrackets pieces = (State.initial.run pieces).depth := by
  change pieces.foldl _ State.initial.depth = _
  generalize State.initial = state
  induction pieces generalizing state with
  | nil => rfl
  | cons piece pieces ih =>
      rw [List.foldl_cons, State.run_cons, ← ih]
      obtain ⟨kind, text, start, faults⟩ := piece
      cases kind <;> rfl

namespace TokenStream

variable {file text : String} {stream : TokenStream}

/-- Whether a text is that of a stream with the gap between two tokens replaced by a line feed and
at least one blank. -/
inductive BreaksLine (stream : TokenStream) : List Char → List Char → Prop where
  | intro {before gap after : List Char} {front back : List Token} {first second : Token}
      (neighbours : stream.tokens = front ++ first :: second :: back)
      (written : first.kind.isWritten = true) (written' : second.kind.isWritten = true)
      (ends : first.span.stop = .behind before)
      (begins : second.span.first = .behind (before ++ gap)) (size : Nat) :
      BreaksLine stream (before ++ (gap ++ after))
        (before ++ ('\n' :: List.replicate (size + 1) ' ' ++ after))

/-- A line with blanks before a token may begin in a gap. -/
theorem areCut_newLine {known inner rest : List Segment} {kind : TokenKind} {value : String}
    {text : List Char}
    (areCut : Segment.AreCut (known ++ (inner ++ ⟨.lexeme kind value, text⟩ :: rest)) [])
    (size : Nat) :
    Segment.AreCut (known ++ ([.feed, ⟨.gap, List.replicate (size + 1) ' '⟩] ++
      ⟨.lexeme kind value, text⟩ :: rest)) [] := by
  rcases Segment.areCut_append.mp areCut with ⟨areCutKnown, areCutRest⟩
  rcases Segment.areCut_append.mp areCutRest with ⟨_, scans, areCutRest⟩
  have areCutKnown : Segment.AreCut known ([] ++ _) := areCutKnown
  have noGap : RunEnds Piece.isGap
      (Segment.textOf (⟨.lexeme kind value, text⟩ :: rest) ++ []) := by
    rw [Segment.textOf_cons, List.append_assoc]
    exact scans.noGap.append scans.ne_nil _
  apply Segment.areCut_append.mpr
  refine ⟨areCutKnown.cut_feed _, .lineFeed, .gap ?_ noGap, scans, areCutRest⟩
  intro c member
  exact .inl (List.eq_of_mem_replicate (n := size + 1) member)

/-- A text whose last line is closed ends where a line begins. -/
theorem isSome_indent? {segments : List Segment} {content : List Char}
    (areCut : Segment.AreCut segments []) (whole : Segment.textOf segments = content)
    (closedLines : Text.IsClosed content) :
    (Layout.State.initial.run (Segment.pieces .first segments)).indent?.isSome = true := by
  rcases exists_lines areCut (whole.trans (List.append_nil _).symm) closedLines with
    ⟨lines, none, rfl, _, empty, _, atLine⟩
  rw [Segment.eq_nil_of_textOf (Segment.areCut_append.mp areCut).2 empty, List.append_nil,
    atLine.indent]
  rfl

/-- A line may begin between any two tokens of a text in which no declaration is cut short. -/
theorem saysSame_breaksLine (streamed : ofText file text = .ok stream)
    (closedLines : Text.IsClosed text.toList) (whole : Token.NoneCutShort none stream.tokens)
    {text' : List Char} (breaks : BreaksLine stream text.toList text') :
    SaysSame file stream text' := by
  rcases exists_segments_of_ofText streamed with ⟨segments, cut, areCut, finish, tokens, closed⟩
  generalize text.toList = content at cut breaks tokens finish closedLines
  obtain @⟨before, gap, after, front, back, first, second, neighbours, written, written', ends,
    begins, size⟩ := breaks
  have whole : Token.NoneCutShort (some second.kind) back := by
    rw [neighbours] at whole
    exact whole.of_append.2
  rw [tokens] at neighbours
  rcases Layout.exists_comesFrom written neighbours with ⟨known, said, rest, rfl, comes⟩
  have next : Layout.tokens file _ _ _ = [] ++ second :: back := comes.after.symm
  rcases Layout.exists_comesFrom written' next with ⟨inner, said', rest, rfl, comes'⟩
  have scans := (Segment.areCut_append.mp areCut).2.1
  have stop := comes.stop_eq scans.ne_nil (scans.noFeed (by simp))
  -- From here on the first token belongs to the segments that stay.
  rw [List.append_cons] at areCut cut tokens closed
  have text_eq : Segment.textOf known ++ said =
      Segment.textOf (known ++ [⟨.lexeme first.kind first.value, said⟩]) := by simp
  have state_eq : (Layout.State.initial.run (Segment.pieces .first known)).next
        ⟨.lexeme first.kind first.value, said, Position.first.after (Segment.textOf known), []⟩ =
      Layout.State.initial.run
        (Segment.pieces .first (known ++ [⟨.lexeme first.kind first.value, said⟩])) := by
    rw [Segment.pieces_append, Layout.State.run_append]
    rfl
  rw [text_eq, state_eq] at comes'
  rw [text_eq] at stop
  generalize known ++ [⟨.lexeme first.kind first.value, said⟩] = known at *
  rcases List.append_eq_nil_iff.mp comes'.before.symm with ⟨silent, noMark⟩
  -- The places of the two tokens say where the gap begins and where it ends.
  have known_eq := (Segment.eq_textOf_of_behind cut (ends.symm.trans stop)).1
  have place := comes'.first_eq
  rw [begins, ← Position.after_append, Position.first_after, ← Segment.textOf_append] at place
  rw [← List.append_assoc, ← List.append_assoc] at cut
  rcases Segment.eq_textOf_of_behind cut place with ⟨gap_eq, rfl⟩
  subst known_eq
  rw [Segment.textOf_append] at gap_eq
  obtain rfl := List.append_cancel_left gap_eq
  rw [List.append_assoc, List.append_assoc] at cut
  have atLine := isSome_indent? areCut cut closedLines
  have relaid := exists_relaid areCut (areCut_newLine areCut size) closed tokens finish ?_
  · have text' : Segment.textOf (known ++ ([.feed, ⟨.gap, List.replicate (size + 1) ' '⟩] ++
        ⟨.lexeme second.kind second.value, said'⟩ :: rest)) =
        Segment.textOf known ++ ('\n' :: List.replicate (size + 1) ' ' ++
          Segment.textOf (⟨.lexeme second.kind second.value, said'⟩ :: rest)) := by
      simp [Segment.feed]
    rwa [text'] at relaid
  · intro stop'
    rw [Layout.openBrackets_eq_depth, Segment.pieces_append, Layout.State.run_append] at closed
    rw [Segment.pieces_append, Layout.State.run_append] at atLine
    rw [comes'.after] at whole
    rw [Segment.pieces_append _ known, Segment.pieces_append _ known,
      Layout.tokens_append _ _ _ (Segment.pieces .first known),
      Layout.tokens_append _ _ _ (Segment.pieces .first known), List.map_append, List.map_append]
    congr 1
    exact Layout.State.lexemes_newLine stop' silent noMark whole closed atLine size

end TokenStream
end ClauseFlow
