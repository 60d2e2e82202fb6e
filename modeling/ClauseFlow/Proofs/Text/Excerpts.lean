import ClauseFlow.Proofs.Text.Lines
import ClauseFlow.Proofs.Token.Segments
import ClauseFlow.SourceText

/-!
# Excerpts

Tokens count lines by line feeds. A source text is cut at every line break, and there are others.
As long as a text has no other ones up to a token, the part that its span covers is its lexeme.
-/

namespace ClauseFlow

namespace Text

/-- Whether a line ends somewhere with neither a line feed nor a carriage return before one. -/
def hasStrayBreak : List Char → Bool
  | [] => false
  | '\r' :: '\n' :: rest => hasStrayBreak rest
  | c :: rest => (c ≠ '\n' && isLineBreak c) || hasStrayBreak rest

theorem IsClosed.tail {c : Char} {text : List Char} (closed : IsClosed (c :: text)) :
    IsClosed text := by
  cases text with
  | nil =>
      intro c last
      cases last
  | cons d text => rwa [IsClosed, List.getLast?_cons_cons] at closed

/-- Closed lines that no stray break ends are cut off one for each line feed. -/
theorem splitLines_append {text : List Char} (closed : IsClosed text)
    (feedsOnly : hasStrayBreak text = false) (rest : List Char) :
    splitLines (text ++ rest) = splitLines text ++ splitLines rest ∧
      (splitLines text).length = text.count '\n' := by
  fun_induction hasStrayBreak text with
  | case1 => exact ⟨rfl, rfl⟩
  | case2 text ih =>
      rcases ih closed.tail.tail feedsOnly with ⟨cut, count⟩
      constructor
      · exact congrArg (([], ['\r', '\n']) :: ·) cut
      · rw [splitLines, List.length_cons, count, List.count_cons_of_ne (by decide),
          List.count_cons_self]
  | case3 c text noReturn ih =>
      simp only [Bool.or_eq_false_iff, Bool.and_eq_false_iff, decide_eq_false_iff_not,
        not_not] at feedsOnly
      rcases ih closed.tail feedsOnly.2 with ⟨cut, count⟩
      rcases feedsOnly.1 with rfl | plain
      · constructor
        · exact congrArg (([], ['\n']) :: ·) cut
        · rw [List.count_cons_self, ← count]
          rfl
      · have noFeed : c ≠ '\n' := by
          rintro rfl
          cases plain
        rw [List.cons_append, splitLines_cons plain, splitLines_cons plain, cut,
          List.count_cons_of_ne noFeed, ← count]
        cases first : splitLines text with
        | nil =>
            rw [splitLines_eq_nil.mp first] at closed
            exact absurd (closed c rfl) noFeed
        | cons line more => exact ⟨rfl, rfl⟩

theorem hasStrayBreak_cons {c : Char} {text : List Char}
    (noReturn : c = '\r' → text.head? ≠ some '\n') :
    hasStrayBreak (c :: text) = ((c ≠ '\n' && isLineBreak c) || hasStrayBreak text) := by
  rw [hasStrayBreak.eq_def]
  split
  · rename_i empty
    cases empty
  · rename_i same
    rcases List.cons.inj same with ⟨rfl, rfl⟩
    exact absurd rfl (noReturn rfl)
  · rename_i same
    rcases List.cons.inj same with ⟨rfl, rfl⟩
    rfl

theorem hasStrayBreak_append {text : List Char} (noReturn : ∀ c ∈ text.getLast?, c ≠ '\r')
    (rest : List Char) :
    hasStrayBreak (text ++ rest) = (hasStrayBreak text || hasStrayBreak rest) := by
  fun_induction hasStrayBreak text with
  | case1 => rfl
  | case2 text ih =>
      apply ih
      intro c last
      apply noReturn
      cases text with
      | nil => cases last
      | cons d text => rwa [List.getLast?_cons_cons, List.getLast?_cons_cons]
  | case3 c text noPair ih =>
      have others : ∀ d ∈ text.getLast?, d ≠ '\r' := by
        intro d last
        apply noReturn
        cases text with
        | nil => cases last
        | cons e text => rwa [List.getLast?_cons_cons]
      rw [List.cons_append, hasStrayBreak_cons, ih others, Bool.or_assoc]
      rintro rfl
      cases text with
      | nil => exact absurd rfl (noReturn '\r' rfl)
      | cons d text =>
          intro feed
          rw [Option.some.inj feed] at noPair
          exact noPair text rfl rfl

/-- A text without a stray break and a line feed is on one line. -/
theorem isOneLine_of_noFeed {text : List Char} (feedsOnly : hasStrayBreak text = false)
    (noFeed : '\n' ∉ text) : IsOneLine text := by
  fun_induction hasStrayBreak text with
  | case1 => exact List.forall_mem_nil _
  | case2 text ih => simp at noFeed
  | case3 c text _ ih =>
      rcases List.ne_and_not_mem_of_not_mem_cons noFeed with ⟨here, others⟩
      simp only [Bool.or_eq_false_iff, Bool.and_eq_false_iff, decide_eq_false_iff_not,
        not_not] at feedsOnly
      have plain := feedsOnly.1.resolve_left here.symm
      exact List.forall_mem_cons.mpr ⟨plain, ih feedsOnly.2 others⟩

theorem eq_nil_of_splitLines {rest line ending : List Char}
    {others : List (List Char × List Char)} (breaks : rest.head?.all isLineBreak = true)
    (cut : splitLines rest = (line, ending) :: others) : line = [] := by
  rw [splitLines.eq_def] at cut
  split at cut
  · cases cut
  · exact (Prod.mk.inj (List.cons.inj cut).1).1.symm
  · rw [if_pos (by simpa using breaks)] at cut
    exact (Prod.mk.inj (List.cons.inj cut).1).1.symm

/-- A text without a break is what the first line begins with, and all of it if a break follows. -/
theorem exists_line {run : List Char} (whole : IsOneLine run) (some : run ≠ [])
    (rest : List Char) :
    ∃ more ending others, splitLines (run ++ rest) = (run ++ more, ending) :: others ∧
      (rest.head?.all isLineBreak = true → more = []) := by
  induction run with
  | nil => exact absurd rfl some
  | cons c run ih =>
      rcases List.forall_mem_cons.mp whole with ⟨plain, others⟩
      rw [List.cons_append, splitLines_cons plain]
      cases run with
      | nil =>
          cases cut : splitLines rest with
          | nil => exact ⟨[], [], [], by rw [List.nil_append, cut]; rfl, fun _ => rfl⟩
          | cons first later =>
              refine ⟨first.1, first.2, later, by rw [List.nil_append, cut]; rfl, ?_⟩
              intro breaks
              exact eq_nil_of_splitLines breaks cut
      | cons d run =>
          rcases ih others (List.cons_ne_nil d run) with ⟨more, ending, later, cut, ends⟩
          rw [cut]
          exact ⟨more, ending, later, rfl, ends⟩

/-! ## The rest of a line -/

theorem noReturn_of_parts {run : List Char} (parts : ∀ c ∈ run, Piece.isRemarkPart c = true) :
    ∀ c ∈ run.getLast?, c ≠ '\r' := by
  rintro c last rfl
  have part := parts _ (List.mem_of_getLast? last)
  cases part

theorem isLineBreak_of_stops {rest : List Char} (stops : RunEnds Piece.isRemarkPart rest) :
    rest.head?.all isLineBreak = true := by
  cases rest with
  | nil => rfl
  | cons c rest =>
      have here := stops c rfl
      simp only [Piece.isRemarkPart, Bool.and_eq_false_iff, decide_eq_false_iff_not,
        not_not] at here
      rcases here with rfl | rfl <;> rfl

end Text

namespace SourceText

/-- The characters between two bounds inside a text. -/
theorem slice_append (front text back : List Char) :
    slice (String.ofList (front ++ (text ++ back))) front.length (front.length + text.length) =
      String.ofList text := by
  have start : offset (front ++ (text ++ back)).length front.length = front.length := by
    simp [offset]
  have stop : offset (front ++ (text ++ back)).length (front.length + text.length : Int) =
      front.length + text.length := by
    have inside : ¬((front.length : Int) + text.length < 0) := by omega
    rw [offset, if_neg inside]
    simp only [List.length_append]
    omega
  simp only [slice, String.toList_ofList]
  rw [start, stop, List.drop_left, Nat.add_sub_cancel_left, List.take_left]

/-- The line that a text without a break is on. -/
theorem exists_lineAt {closed run : List Char} (isClosed : Text.IsClosed closed)
    (feedsOnly : Text.hasStrayBreak closed = false) (whole : Text.IsOneLine run)
    (some : run ≠ []) (rest : List Char) :
    ∃ more, (ofString (String.ofList (closed ++ (run ++ rest)))).lineAt (1 + closed.count '\n') =
        String.ofList (run ++ more) ∧ (rest.head?.all Text.isLineBreak = true → more = []) := by
  rcases Text.splitLines_append isClosed feedsOnly (run ++ rest) with ⟨cut, count⟩
  rcases Text.exists_line whole some rest with ⟨more, ending, others, first, ends⟩
  refine ⟨more, ?_, ends⟩
  have inside : (1 : Int) ≤ 1 + closed.count '\n' := by omega
  have index : (1 + (closed.count '\n' : Int) - 1).toNat = (Text.splitLines closed).length := by
    omega
  rw [lineAt, if_pos inside, index, ofString, Text.lines, String.toList_ofList, cut, first,
    List.map_append, List.getElem?_append_right (by rw [List.length_map]), List.length_map,
    Nat.sub_self]
  rfl

/-- The closed lines before a place, and the characters before it on its own line. -/
theorem exists_closed (before : List Char) :
    ∃ closed run, before = closed ++ run ∧ before.rtakeWhile (· ≠ '\n') = run ∧
      Text.IsClosed closed ∧ '\n' ∉ run ∧
      Position.behind before = ⟨1 + closed.count '\n', 1 + run.length⟩ := by
  have noFeed : '\n' ∉ before.rtakeWhile (· ≠ '\n') := by
    intro member
    have differs := List.mem_rtakeWhile_imp member
    simp at differs
  refine ⟨before.rdropWhile (· ≠ '\n'), before.rtakeWhile (· ≠ '\n'),
    List.rdropWhile_append_rtakeWhile.symm, rfl, ?_, noFeed, ?_⟩
  · intro c last
    rcases List.mem_getLast?_eq_getLast last with ⟨some, rfl⟩
    simpa using List.rdropWhile_last_not _ _ some
  · rw [Position.behind]
    congr 2
    rw [← List.rdropWhile_append_rtakeWhile (p := (· ≠ '\n')) (l := before), List.count_append,
      List.count_eq_zero_of_not_mem noFeed]
    simp

/-- As long as lines end with line feeds only, a lexeme is on one line with what is before it
there. -/
theorem exists_closed_of_feedsOnly {before lexeme : List Char} (noFeed : '\n' ∉ lexeme)
    (feedsOnly : Text.hasStrayBreak (before ++ lexeme) = false) :
    ∃ closed run, before = closed ++ run ∧ before.rtakeWhile (· ≠ '\n') = run ∧
      Text.IsClosed closed ∧ Text.hasStrayBreak closed = false ∧
      Text.IsOneLine (run ++ lexeme) ∧
      Position.behind before = ⟨1 + closed.count '\n', 1 + run.length⟩ := by
  rcases exists_closed before with ⟨closed, run, rfl, running, isClosed, noFeed', place⟩
  have noReturn : ∀ c ∈ closed.getLast?, c ≠ '\r' := by
    intro c last
    rw [isClosed c last]
    decide
  rw [List.append_assoc, Text.hasStrayBreak_append noReturn, Bool.or_eq_false_iff] at feedsOnly
  exact ⟨closed, run, rfl, running, isClosed, feedsOnly.1,
    Text.isOneLine_of_noFeed feedsOnly.2 (by simp [noFeed, noFeed']), place⟩

section Lexeme

variable {file : String} {before lexeme : List Char} (some : lexeme ≠ []) (noFeed : '\n' ∉ lexeme)
  (feedsOnly : Text.hasStrayBreak (before ++ lexeme) = false)

include some noFeed feedsOnly

/-- What the span of a lexeme covers is the lexeme. -/
theorem spanText_ofChars (rest : List Char) :
    (ofString (String.ofList (before ++ (lexeme ++ rest)))).spanText
        (.ofChars file before lexeme) = String.ofList lexeme := by
  rcases exists_closed_of_feedsOnly noFeed feedsOnly with
    ⟨closed, run, rfl, _, isClosed, closedFeedsOnly, oneLine, place⟩
  have some' : run ++ lexeme ≠ [] := by simp [some]
  rcases exists_lineAt isClosed closedFeedsOnly oneLine some' rest with ⟨more, line, _⟩
  have start : 1 + (run.length : Int) - 1 = run.length := by omega
  have stop : 1 + (run.length : Int) + lexeme.length - 1 = run.length + lexeme.length := by
    omega
  rw [List.append_assoc] at line
  rw [Span.ofChars_eq file _ some noFeed, place, List.append_assoc, spanText, if_pos rfl, line,
    List.append_assoc, start, stop]
  exact slice_append run lexeme more

/-- The line of a lexeme is what is before it there, the lexeme and the rest up to the next end of
a line. -/
theorem lineAt_ofChars {rest : List Char}
    (restFeedsOnly : Text.hasStrayBreak (rest.takeWhile (· ≠ '\n') ++ ['\n']) = false) :
    (ofString (String.ofList (before ++ (lexeme ++ rest)))).lineAt
        (Span.ofChars file before lexeme).startLine =
      String.ofList (before.rtakeWhile (· ≠ '\n') ++
        (lexeme ++ rest.takeWhile Piece.isRemarkPart)) := by
  rcases exists_closed_of_feedsOnly noFeed feedsOnly with
    ⟨closed, run, rfl, running, isClosed, closedFeedsOnly, oneLine, place⟩
  rcases Piece.exists_run Piece.isRemarkPart rest with
    ⟨remark, after, rfl, taken, _, parts, stops⟩
  have inLine : ∀ c ∈ remark, decide (c ≠ '\n') = true :=
    fun c member => (Bool.and_eq_true_iff.mp (parts c member)).1
  rw [List.takeWhile_append_of_pos inLine, List.append_assoc,
    Text.hasStrayBreak_append (Text.noReturn_of_parts parts), Bool.or_eq_false_iff]
    at restFeedsOnly
  have noBreak : Text.IsOneLine remark :=
    Text.isOneLine_of_noFeed restFeedsOnly.1 (Piece.noFeed_of_all parts rfl)
  have whole : Text.IsOneLine (run ++ lexeme ++ remark) :=
    List.forall_mem_append.mpr ⟨oneLine, noBreak⟩
  have some' : run ++ lexeme ++ remark ≠ [] := by simp [some]
  rcases exists_lineAt isClosed closedFeedsOnly whole some' after with ⟨more, line, ends⟩
  rw [ends (Text.isLineBreak_of_stops stops), List.append_nil] at line
  rw [Span.ofChars_eq file _ some noFeed, place, taken, running]
  simpa using line

end Lexeme

variable {file text : String} {stream : TokenStream}

/-- The part of a text that the span of a token covers is the lexeme that the token was read from,
and its line is the one that the lexeme is on, as long as lines end with line feeds only. -/
theorem exists_excerpt (streamed : TokenStream.ofText file text = .ok stream) {token : Token}
    (member : token ∈ stream.all) (written : token.kind.isWritten = true) :
    ∃ before lexeme rest, text.toList = before ++ (lexeme ++ rest) ∧
      Piece.Scans (.lexeme token.kind token.value) lexeme rest ∧
      token.span = .ofChars file before lexeme ∧
      (Text.hasStrayBreak (before ++ lexeme) = false →
        (ofString text).spanText token.span = String.ofList lexeme ∧
        (Text.hasStrayBreak (rest.takeWhile (· ≠ '\n') ++ ['\n']) = false →
          (ofString text).lineAt token.span.startLine =
            String.ofList (before.rtakeWhile (· ≠ '\n') ++
              (lexeme ++ rest.takeWhile Piece.isRemarkPart)))) := by
  rcases TokenStream.exists_written streamed with ⟨segments, whole, areCut, _, tokens⟩
  have found : token ∈ Segment.tokens file [] segments := by
    rw [← tokens, ← TokenStream.filter_all streamed]
    exact List.mem_filter.mpr ⟨member, written⟩
  rcases Segment.exists_lexeme areCut token found with ⟨before, lexeme, rest, cut, scans, span⟩
  rw [List.append_nil] at scans
  rw [List.nil_append] at span
  have noFeed : '\n' ∉ lexeme := scans.noFeed (by simp)
  have content : text = String.ofList (before ++ (lexeme ++ rest)) := by
    rw [← cut, whole, String.ofList_toList]
  refine ⟨before, lexeme, rest, whole.symm.trans cut, scans, span, ?_⟩
  intro feedsOnly
  rw [span, content]
  exact ⟨spanText_ofChars scans.ne_nil noFeed feedsOnly rest,
    lineAt_ofChars scans.ne_nil noFeed feedsOnly⟩

/-- A literal in a text with a comment, in which lines end in a carriage return and a line feed. -/
theorem exists_excerpt_literal :
    let text := "// one\r\nf(\"a b\")\r\n"
    let before := "// one\r\nf(".toList
    let lexeme := "\"a b\"".toList
    let rest := ")\r\n".toList
    ∃ stream token, TokenStream.ofText "m.pipe" text = .ok stream ∧ token ∈ stream.all ∧
      token.kind = .text ∧ text.toList = before ++ (lexeme ++ rest) ∧
      token.span = .ofChars "m.pipe" before lexeme ∧
      Text.hasStrayBreak (before ++ lexeme) = false ∧
      (ofString text).spanText token.span = "\"a b\"" ∧
      Text.hasStrayBreak (rest.takeWhile (· ≠ '\n') ++ ['\n']) = false ∧
      (ofString text).lineAt token.span.startLine = "f(\"a b\")" := by
  intro text before lexeme rest
  have feedsOnly : Text.hasStrayBreak (before ++ lexeme) = false := by decide +kernel
  have restFeedsOnly : Text.hasStrayBreak (rest.takeWhile (· ≠ '\n') ++ ['\n']) = false := by
    decide +kernel
  let token : Token := ⟨.text, "a b", "m.pipe", 2, 3, 2, 7⟩
  have streamed : ∃ stream, TokenStream.ofText "m.pipe" "// one\r\nf(\"a b\")\r\n" = .ok stream ∧
      stream.tokens[2]? = some token := ⟨_, rfl, rfl⟩
  rcases streamed with ⟨stream, streamed, third⟩
  have member : token ∈ stream.all := List.mem_append_left _ (List.mem_of_getElem? third)
  rcases exists_excerpt streamed member rfl with ⟨before', lexeme', rest', cut, _, span, shown⟩
  -- No other part of the text has the span of the token.
  have only : ∀ start < 19, ∀ length < 19,
      token.span = .ofChars "m.pipe" (text.toList.take start)
        ((text.toList.drop start).take length) → start = 10 ∧ length = 5 := by
    decide +kernel
  have sizes : 18 = before'.length + (lexeme'.length + rest'.length) := by
    simpa [text] using congrArg List.length cut
  have isBefore : text.toList.take before'.length = before' := by rw [cut, List.take_left]
  have isLexeme : (text.toList.drop before'.length).take lexeme'.length = lexeme' := by
    rw [cut, List.drop_left, List.take_left]
  have place := only before'.length (by omega) lexeme'.length (by omega)
    (by rw [isBefore, isLexeme]; exact span)
  have firstTen : text.toList.take 10 = before := by decide +kernel
  have nextFive : (text.toList.drop 10).take 5 = lexeme := by decide +kernel
  have whole : text.toList = before ++ (lexeme ++ rest) := by decide +kernel
  rw [place.1, firstTen] at isBefore
  rw [place.1, place.2, nextFive] at isLexeme
  rw [whole, ← isBefore, ← isLexeme] at cut
  subst isBefore isLexeme
  obtain rfl : rest = rest' := List.append_cancel_left (List.append_cancel_left cut)
  have excerpt := shown feedsOnly
  exact ⟨stream, token, streamed, member, rfl, whole, span, feedsOnly, excerpt.1, restFeedsOnly,
    excerpt.2 restFeedsOnly⟩

/-- A form feed in a comment ends a line of the source text, but none of the tokens: what is shown
for the first token of the second line is the empty rest of the comment. -/
theorem excerpt_formFeed :
    ∃ stream token, TokenStream.ofText "m.pipe" "// \x0c\ndef f() -> 1\n" = .ok stream ∧
      token ∈ stream.all ∧ token.kind.isWritten = true ∧
      "// \x0c\ndef f() -> 1\n".toList =
        "// \x0c\n".toList ++ ("def".toList ++ " f() -> 1\n".toList) ∧
      token.span = .ofChars "m.pipe" "// \x0c\n".toList "def".toList ∧
      (ofString "// \x0c\ndef f() -> 1\n").spanText token.span ≠ "def" ∧
      (ofString "// \x0c\ndef f() -> 1\n").lineAt token.span.startLine ≠ "def f() -> 1" := by
  refine ⟨_, ⟨.defKeyword, "def", "m.pipe", 2, 1, 2, 3⟩, rfl, ?_, ?_, ?_, ?_, ?_, ?_⟩
  all_goals decide

end SourceText
end ClauseFlow
