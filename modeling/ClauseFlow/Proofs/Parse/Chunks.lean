import ClauseFlow.Proofs.Parse.Confinement
import ClauseFlow.Proofs.Parse.Progress
import ClauseFlow.Proofs.Token.Ends

/-!
# Errors stay in their declaration

The tokens of a text are cut into chunks: documentation comments and `newline` tokens, then
everything up to and including the next `newline` token. What is found in a text, declarations as
well as errors, is what is found in each of its chunks alone, one after the other.
-/

namespace ClauseFlow

/-- Whether a token may stand before a declaration. -/
def Token.isMargin (token : Token) : Bool :=
  token.kind = .docComment || token.kind = .newline

theorem of_mem_head?_dropWhile {test : Token → Bool} {tokens : List Token} {token : Token}
    (first : token ∈ (tokens.dropWhile test).head?) : test token = false := by
  have stops := List.head?_dropWhile_not test tokens
  rw [Option.mem_def.mp first] at stops
  exact stops

/-- Tokens cut behind the first declaration: what stands before it, its line, the `newline` token
that ends it unless the tokens end there, and the rest. -/
structure Cut (tokens : List Token) where
  margin : List Token
  line : List Token
  close : List Token
  rest : List Token
  whole : margin ++ line ++ close ++ rest = tokens
  before : ∀ token ∈ margin, token.isMargin = true
  begins : ∀ token ∈ (line ++ close).head?, token.isMargin = false
  inLine : ∀ token ∈ line, token.kind ≠ .newline
  closing : ∀ token ∈ close, token.kind = .newline
  ended : close = [] → rest = []

namespace Cut

def ofTokens (tokens : List Token) : Cut tokens :=
  let declared := tokens.dropWhile Token.isMargin
  let after := declared.dropWhile (·.kind ≠ .newline)
  { margin := tokens.takeWhile Token.isMargin
    line := declared.takeWhile (·.kind ≠ .newline)
    close := after.take 1
    rest := after.drop 1
    whole := by
      simp only [after, declared, List.append_assoc, List.take_append_drop,
        List.takeWhile_append_dropWhile]
    before := List.all_eq_true.mp List.all_takeWhile
    begins := by
      intro token first
      rw [List.head?_append, List.head?_take, if_neg Nat.one_ne_zero, ← List.head?_append,
        List.takeWhile_append_dropWhile] at first
      exact of_mem_head?_dropWhile first
    inLine := by
      intro token member
      have test := List.all_eq_true.mp List.all_takeWhile token member
      exact of_decide_eq_true test
    closing := by
      intro token member
      rw [List.take_one, Option.mem_toList] at member
      simpa using of_mem_head?_dropWhile member
    ended := by
      intro none
      rw [List.take_eq_nil_iff, or_iff_right Nat.one_ne_zero] at none
      rw [none, List.drop_nil] }

variable {tokens : List Token}

/-- The tokens up to the cut. -/
def chunk (parts : Cut tokens) : List Token :=
  parts.margin ++ parts.line ++ parts.close

theorem chunk_ne_nil (parts : Cut tokens) (nonempty : tokens ≠ []) : parts.chunk ≠ [] := by
  intro nothing
  have noClose : parts.close = [] := (List.append_eq_nil_iff.mp nothing).2
  have whole := parts.whole
  rw [parts.ended noClose, List.append_nil] at whole
  exact nonempty (whole.symm.trans nothing)

theorem length_rest_lt (parts : Cut tokens) (nonempty : tokens ≠ []) :
    parts.rest.length < tokens.length := by
  have whole := congrArg List.length parts.whole
  have some := List.length_pos_iff.mpr (parts.chunk_ne_nil nonempty)
  rw [List.length_append] at whole
  rw [chunk] at some
  omega

end Cut

/-- The chunks of some tokens. -/
def chunks : List Token → List (List Token)
  | [] => []
  | token :: tokens =>
      let parts := Cut.ofTokens (token :: tokens)
      parts.chunk :: chunks parts.rest
termination_by tokens => tokens.length
decreasing_by exact parts.length_rest_lt (List.cons_ne_nil _ _)

theorem flatten_chunks (tokens : List Token) : (chunks tokens).flatten = tokens := by
  fun_induction chunks tokens with
  | case1 => rfl
  | case2 token tokens parts ih => rw [List.flatten_cons, ih, Cut.chunk, parts.whole]

/-- What is found in a text. -/
structure Findings where
  declarations : List Declaration
  diagnostics : List Diagnostic

namespace Parse

/-- What is found in a row of tokens, if reading it comes to an end. -/
def findings? (stream : TokenStream) : Option Findings :=
  match wholeModule (limit stream) (Cursor.ofStream stream) with
  | .ok found cursor =>
      some ⟨found.declarations, cursor.errors.map SyntaxError.diagnostic⟩
  | .error _ _ => none

/-! ## Before a declaration -/

/-- What the documentation comments among some tokens say. -/
def commentary (tokens : List Token) : List String :=
  (tokens.filter (·.kind = .docComment)).map (·.value)

theorem skipNewlines_of_ne {tokens : List Token} {finish : Token} {errors : List SyntaxError}
    (kind : (tokens.headD finish).kind ≠ .newline) :
    skipNewlines ⟨tokens, finish, errors⟩ = .ok () ⟨tokens, finish, errors⟩ := by
  cases tokens with
  | nil => rfl
  | cons token tokens =>
      have stays : (token :: tokens).dropWhile (fun token => token.kind = .newline) =
          token :: tokens := List.dropWhile_cons_of_neg (by simpa using kind)
      rw [skipNewlines, stays]

theorem docComments_of_ne {fuel : Nat} {cursor : Cursor} (kind : cursor.next.kind ≠ .docComment) :
    docComments (fuel + 1) cursor = .ok [] cursor := by
  have looks : docComments (fuel + 1) cursor =
      (if decide (cursor.next.kind = .docComment) = true then _ else pure [] : Parse _) cursor := rfl
  rw [looks, decide_eq_false kind]
  rfl

theorem docComments_cons {fuel : Nat} {token : Token} {tokens : List Token} {finish : Token}
    {errors : List SyntaxError} (kind : token.kind = .docComment) :
    docComments (fuel + 1) ⟨token :: tokens, finish, errors⟩ =
      ((skipNewlines >>= fun _ => docComments fuel) >>= fun rest => pure (token.value :: rest))
        ⟨tokens, finish, errors⟩ := by
  have looks : docComments (fuel + 1) ⟨token :: tokens, finish, errors⟩ =
      (if decide (token.kind = .docComment) = true then _ else pure [] : Parse _)
        ⟨token :: tokens, finish, errors⟩ := rfl
  rw [looks, decide_eq_true kind]
  rfl

/-- What stands before a declaration is taken whole. -/
theorem docComments_margin {margin tokens : List Token} {finish : Token}
    (before : ∀ token ∈ margin, token.isMargin = true)
    (stops : (tokens.headD finish).isMargin = false) {fuel : Nat} (enough : margin.length < fuel)
    (errors : List SyntaxError) :
    (skipNewlines >>= fun _ => docComments fuel) ⟨margin ++ tokens, finish, errors⟩ =
      .ok (commentary margin) ⟨tokens, finish, errors⟩ := by
  induction margin generalizing fuel with
  | nil =>
      obtain ⟨fuel, rfl⟩ := Nat.exists_eq_succ_of_ne_zero (Nat.ne_zero_of_lt enough)
      rw [Token.isMargin, Bool.or_eq_false_iff, decide_eq_false_iff_not,
        decide_eq_false_iff_not] at stops
      rw [List.nil_append, bind_eq_of_ok (skipNewlines_of_ne stops.2)]
      exact docComments_of_ne stops.1
  | cons token margin ih =>
      rcases List.forall_mem_cons.mp before with ⟨here, others⟩
      rw [List.length_cons] at enough
      by_cases newline : token.kind = .newline
      · have skips : (skipNewlines >>= fun _ => docComments fuel)
            ⟨token :: margin ++ tokens, finish, errors⟩ =
              (skipNewlines >>= fun _ => docComments fuel) ⟨margin ++ tokens, finish, errors⟩ := by
          simp only [Bind.bind, EStateM.bind, skipNewlines, List.cons_append]
          rw [List.dropWhile_cons_of_pos (by simpa using newline)]
        have silent : commentary (token :: margin) = commentary margin := by
          rw [commentary, List.filter_cons_of_neg (by simp [newline]), commentary]
        rw [skips, silent]
        exact ih others (Nat.lt_of_succ_lt enough)
      · have comment : token.kind = .docComment := by
          simpa [Token.isMargin, newline] using here
        have spoken : commentary (token :: margin) = token.value :: commentary margin := by
          rw [commentary, List.filter_cons_of_pos (by simpa using comment), List.map_cons,
            commentary]
        obtain ⟨fuel, rfl⟩ := Nat.exists_eq_succ_of_ne_zero (Nat.ne_zero_of_lt enough)
        have others := ih others (Nat.lt_of_succ_lt_succ enough)
        rw [spoken, List.cons_append, bind_eq_of_ok (skipNewlines_of_ne (by exact newline)),
          docComments_cons comment, bind_eq_of_ok others]
        rfl

/-! ## One declaration -/

variable {α β : Type} {around other : Surroundings} {margin line : List Token}

/-- A declaration is read alike in two surroundings. -/
theorem declaration_agrees (meets : around.Meets other)
    (before : ∀ token ∈ margin, token.isMargin = true)
    (plain : ∀ token ∈ line, ¬token.EndsLine)
    (stops : (line.headD around.seam).isMargin = false) {depth depth' : Nat}
    (enough : margin.length < depth) (enough' : margin.length < depth') :
    Agrees around other (declaration depth (around.cursor (margin ++ line) []))
      (declaration depth' (other.cursor (margin ++ line) [])) := by
  have start (around : Surroundings) (stops : (line.headD around.seam).isMargin = false)
      {depth : Nat} (enough : margin.length < depth) :
      declaration depth (around.cursor (margin ++ line) []) =
        announced depth (commentary margin) (around.cursor line []) := by
    rw [← around.headD_append] at stops
    have comments := docComments_margin before stops enough (around.before ++ [])
    simp only [Surroundings.cursor, List.append_assoc] at comments ⊢
    rw [declaration_eq, ← bind_assoc, bind_eq_of_ok comments]
  rw [start around stops enough, start other (meets.same ▸ stops) enough']
  exact announced_mirrors depth depth' _ around other meets line [] plain trivial

/-- Whether reading a declaration with recovery gives an answer and some errors, and goes up to the
end of the line. -/
def Recovers (depth : Nat) (around : Surroundings) (line : List Token)
    (found? : Option Declaration) (errors : List SyntaxError) : Prop :=
  ∃ left, recoveringDeclaration depth (around.cursor line []) =
      .ok found? ⟨left, around.finish, around.before ++ errors⟩ ∧
    left.dropWhile (·.kind = .newline) = around.after.dropWhile (·.kind = .newline)

theorem Recovers.of_ok {depth : Nat} {left : List Token} {found? : Option Declaration}
    {errors : List SyntaxError} (plain : ∀ token ∈ left, ¬token.EndsLine)
    (outcome : declaration depth (around.cursor line []) = .ok found? (around.cursor left errors)) :
    Recovers depth around line found? errors := by
  have ends := declaration_ends depth _ _ _ trivial outcome
  refine ⟨around.after, ?_, rfl⟩
  rw [recoveringDeclaration_of_ok outcome]
  cases left with
  | nil => rfl
  | cons token left => exact absurd ends (plain token (.head _))

/-- What is passed over after an error ends with the line. -/
theorem Recovers.of_error (closes : ∀ token ∈ around.after.head?, token.kind = .newline)
    {depth : Nat} {left : List Token} {errors : List SyntaxError}
    (plain : ∀ token ∈ left, ¬token.EndsLine)
    (outcome : declaration depth (around.cursor line []) =
      .error .syntaxError (around.cursor left errors)) :
    Recovers depth around line none errors := by
  refine ⟨((left ++ around.after).dropWhile (·.kind ≠ .newline)).tail, ?_, ?_⟩
  · rw [recoveringDeclaration, outcome]
    rfl
  · have passed : ∀ token ∈ left, decide (token.kind ≠ .newline) = true :=
      fun token member => decide_eq_true fun newline => plain token member (.inl newline)
    rw [List.dropWhile_append_of_pos passed]
    cases after : around.after with
    | nil => rfl
    | cons token rest =>
        have newline : token.kind = .newline := closes token (by rw [after]; rfl)
        rw [List.dropWhile_cons_of_neg (by simpa using newline), List.tail_cons,
          List.dropWhile_cons_of_pos (by simpa using newline)]

/-- How reading a declaration can end where every numeral denotes a number. -/
def Outcome.IsOrderly : EStateM.Result Stop Cursor α → Prop
  | .ok _ _ => True
  | .error stop _ => stop = .syntaxError

theorem declaration_isOrderly {depth : Nat} {cursor : Cursor}
    (isEnd : cursor.finish.kind = .endOfText)
    (readable : ¬TokenStream.HasUnreadable ⟨cursor.tokens, cursor.finish⟩)
    (enough : cursor.tokens.length < depth) : Outcome.IsOrderly (declaration depth cursor) := by
  have part : cursor.IsPartOf ⟨cursor.tokens, cursor.finish⟩ := ⟨List.suffix_rfl, rfl, isEnd⟩
  have outcome := (declaration_moves depth).any cursor part trivial enough
  cases ended : declaration depth cursor with
  | ok found? next => trivial
  | error stop next =>
      rw [ended] at outcome
      cases stop with
      | syntaxError => rfl
      | unreadableNumeral => exact absurd outcome readable
      | tooDeep => exact outcome.elim

theorem exists_recovers {depth depth' : Nat}
    (closes : ∀ token ∈ around.after.head?, token.kind = .newline)
    (closes' : ∀ token ∈ other.after.head?, token.kind = .newline)
    (agrees : Agrees around other (declaration depth (around.cursor line []))
      (declaration depth' (other.cursor line [])))
    (orderly : Outcome.IsOrderly (declaration depth (around.cursor line [])))
    (orderly' : Outcome.IsOrderly (declaration depth' (other.cursor line []))) :
    ∃ found? errors, Recovers depth around line found? errors ∧
      Recovers depth' other line found? errors := by
  generalize here : declaration depth (around.cursor line []) = result at agrees orderly
  generalize there : declaration depth' (other.cursor line []) = result' at agrees orderly'
  cases agrees with
  | answered found? left errors plain =>
      exact ⟨found?, errors, .of_ok plain here, .of_ok plain there⟩
  | stopped stop left errors plain =>
      obtain rfl : stop = .syntaxError := orderly
      exact ⟨none, errors, .of_error closes plain here, .of_error closes' plain there⟩
  | tooDeepHere => cases orderly
  | tooDeepThere => cases orderly'

/-! ## One declaration after the other -/

/-- All declarations up to the end, from `newline` tokens on. -/
def rounds (depth fuel : Nat) : Parse (List Declaration) := do
  skipNewlines
  declarations depth fuel

theorem rounds_congr {depth fuel : Nat} {tokens tokens' : List Token}
    (same : tokens.dropWhile (·.kind = .newline) = tokens'.dropWhile (·.kind = .newline))
    (finish : Token) (errors : List SyntaxError) :
    rounds depth fuel ⟨tokens, finish, errors⟩ = rounds depth fuel ⟨tokens', finish, errors⟩ := by
  simp only [rounds, Bind.bind, EStateM.bind, skipNewlines, same]

theorem recoveringDeclaration_congr {depth : Nat} {tokens tokens' : List Token}
    (same : tokens.dropWhile (·.kind = .newline) = tokens'.dropWhile (·.kind = .newline))
    (finish : Token) (errors : List SyntaxError) :
    recoveringDeclaration depth ⟨tokens, finish, errors⟩ =
      recoveringDeclaration depth ⟨tokens', finish, errors⟩ := by
  simp only [recoveringDeclaration, declaration, Bind.bind, EStateM.bind, skipNewlines, same]

theorem rounds_nil (depth fuel : Nat) {finish : Token} (isEnd : finish.kind = .endOfText)
    (errors : List SyntaxError) :
    rounds depth (fuel + 1) ⟨[], finish, errors⟩ = .ok [] ⟨[], finish, errors⟩ := by
  have looks : rounds depth (fuel + 1) ⟨[], finish, errors⟩ =
      (if decide (finish.kind = .endOfText) = true then pure [] else _ : Parse _)
        ⟨[], finish, errors⟩ := rfl
  rw [looks, decide_eq_true isEnd]
  rfl

theorem recoveringDeclaration_nil (depth : Nat) {finish : Token}
    (isEnd : finish.kind = .endOfText) (errors : List SyntaxError) :
    recoveringDeclaration (depth + 1) ⟨[], finish, errors⟩ = .ok none ⟨[], finish, errors⟩ := by
  apply recoveringDeclaration_of_ok
  have comments : docComments (depth + 1) ⟨[], finish, errors⟩ = .ok [] ⟨[], finish, errors⟩ :=
    docComments_of_ne (by rw [Cursor.next, List.headD_nil, isEnd]; decide)
  have looks : current ⟨[], finish, errors⟩ = .ok finish ⟨[], finish, errors⟩ := rfl
  rw [declaration_eq, bind_eq_of_ok (skipNewlines_of_ne (by simp [isEnd])), bind_eq_of_ok comments,
    announced, bind_eq_of_ok looks, isEnd]
  rfl

theorem declarations_of_ne {depth fuel : Nat} {cursor : Cursor}
    (kind : cursor.next.kind ≠ .endOfText) :
    declarations depth (fuel + 1) cursor =
      (recoveringDeclaration depth >>= fun found? =>
        rounds depth fuel >>= fun rest => pure (found?.toList ++ rest)) cursor := by
  have looks : declarations depth (fuel + 1) cursor =
      (if decide (cursor.next.kind = .endOfText) = true then pure [] else _ : Parse _) cursor := rfl
  rw [looks, decide_eq_false kind]
  rfl

/-- A round reads a declaration, if there is one. -/
theorem rounds_succ {stream : TokenStream} (closed : stream.IsSealed) (depth fuel : Nat)
    (errors : List SyntaxError) :
    rounds (depth + 1) (fuel + 2) ⟨stream.tokens, stream.finish, errors⟩ =
      (recoveringDeclaration (depth + 1) >>= fun found? =>
        rounds (depth + 1) (fuel + 1) >>= fun rest => pure (found?.toList ++ rest))
          ⟨stream.tokens, stream.finish, errors⟩ := by
  cases upcoming : stream.tokens.dropWhile (·.kind = .newline) with
  | nil =>
      have same : stream.tokens.dropWhile (·.kind = .newline) =
          ([] : List Token).dropWhile (·.kind = .newline) := upcoming
      have none : recoveringDeclaration (depth + 1) ⟨stream.tokens, stream.finish, errors⟩ =
          .ok none ⟨[], stream.finish, errors⟩ := by
        rw [recoveringDeclaration_congr same, recoveringDeclaration_nil depth closed.atEnd]
      rw [rounds_congr same, rounds_nil _ _ closed.atEnd, bind_eq_of_ok none,
        bind_eq_of_ok (rounds_nil _ _ closed.atEnd _)]
      rfl
  | cons token rest =>
      have noNewline : token.kind ≠ .newline := by
        have first : token ∈ (stream.tokens.dropWhile (·.kind = .newline)).head? := by
          rw [upcoming]
          rfl
        exact of_decide_eq_false (of_mem_head?_dropWhile first)
      have same : stream.tokens.dropWhile (·.kind = .newline) =
          (token :: rest).dropWhile (·.kind = .newline) := by
        rw [upcoming, List.dropWhile_cons_of_neg (by simpa using noNewline)]
      have inside : token ∈ stream.tokens := by
        apply (List.dropWhile_suffix (·.kind = .newline)).mem
        rw [upcoming]
        exact .head _
      have stays : skipNewlines ⟨token :: rest, stream.finish, errors⟩ =
          .ok () ⟨token :: rest, stream.finish, errors⟩ :=
        skipNewlines_of_ne noNewline
      rw [rounds_congr same, rounds, bind_eq_of_ok stays,
        declarations_of_ne (by exact closed.before token inside)]
      simp only [Bind.bind, EStateM.bind, recoveringDeclaration_congr same]

/-- A round goes on after the declaration as from any tokens that differ in `newline` tokens
only. -/
theorem Recovers.rounds_eq {depth : Nat} {found? : Option Declaration}
    {errors : List SyntaxError} (recovers : Recovers (depth + 1) around line found? errors)
    (closed : TokenStream.IsSealed ⟨line ++ around.after, around.finish⟩) {rest : List Token}
    (same : around.after.dropWhile (·.kind = .newline) = rest.dropWhile (·.kind = .newline))
    (fuel : Nat) :
    rounds (depth + 1) (fuel + 2) (around.cursor line []) =
      (rounds (depth + 1) (fuel + 1) >>= fun later => pure (found?.toList ++ later))
        ⟨rest, around.finish, around.before ++ errors⟩ := by
  obtain ⟨left, outcome, passed⟩ := recovers
  rw [Surroundings.cursor] at outcome ⊢
  rw [rounds_succ closed, bind_eq_of_ok outcome]
  simp only [Bind.bind, EStateM.bind, rounds_congr (passed.trans same)]

/-! ## All chunks -/

theorem findings?_of_rounds {stream : TokenStream} {found : List Declaration}
    {left : List Token} {finish : Token} {errors : List SyntaxError}
    (outcome : rounds (limit stream) (limit stream) ⟨stream.tokens, stream.finish, []⟩ =
      .ok found ⟨left, finish, errors⟩) :
    findings? stream = some ⟨found, errors.map SyntaxError.diagnostic⟩ := by
  have reads : wholeModule (limit stream) =
      rounds (limit stream) (limit stream) >>= fun found => current >>= fun last =>
        pure ⟨found, ⟨last.span.file, 1, 1, last.span.endLine, last.span.endColumn⟩⟩ := rfl
  rw [findings?, reads, Cursor.ofStream, bind_eq_of_ok outcome]
  rfl

end Parse

open Parse

namespace TokenStream

variable {stream : TokenStream} {tokens : List Token}

theorem IsSealed.of_subset (closed : stream.IsSealed) (inside : tokens ⊆ stream.tokens) :
    IsSealed ⟨tokens, stream.finish⟩ :=
  ⟨fun token member => closed.before token (inside member), closed.atEnd⟩

theorem HasUnreadable.of_subset (inside : tokens ⊆ stream.tokens)
    (unreadable : HasUnreadable ⟨tokens, stream.finish⟩) : stream.HasUnreadable := by
  rcases unreadable with ⟨token, member, isUnreadable⟩
  exact ⟨token, inside member, isUnreadable⟩

end TokenStream

namespace Cut

variable {tokens : List Token} (parts : Cut tokens)

/-- What surrounds the first declaration in the whole, and in its chunk alone. -/
def around (before : List SyntaxError) (finish : Token) : Surroundings :=
  ⟨before, parts.close ++ parts.rest, finish⟩

def alone (finish : Token) : Surroundings :=
  ⟨[], parts.close, finish⟩

theorem head?_close_append : (parts.close ++ parts.rest).head? = parts.close.head? := by
  cases close : parts.close with
  | nil => rw [parts.ended close]; rfl
  | cons => rfl

theorem meets {finish : Token} (isEnd : finish.kind = .endOfText) (before : List SyntaxError) :
    (parts.around before finish).Meets (parts.alone finish) where
  same := by
    simp only [Surroundings.seam, around, alone, List.headD_eq_head?_getD, head?_close_append]
  ends := by
    simp only [Surroundings.seam, around, List.headD_eq_head?_getD, head?_close_append]
    cases close : parts.close with
    | nil => exact .inr isEnd
    | cons token _ => exact .inl (parts.closing token (by rw [close]; exact .head _))

theorem plain {finish : Token} (closed : TokenStream.IsSealed ⟨tokens, finish⟩) :
    ∀ token ∈ parts.line, ¬token.EndsLine := by
  have inside : parts.line ⊆ tokens := by
    intro token member
    rw [← parts.whole]
    simp [member]
  exact fun token member ends =>
    ends.elim (parts.inLine token member) (closed.before token (inside member))

theorem stops {finish : Token} (isEnd : finish.kind = .endOfText) (before : List SyntaxError) :
    (parts.line.headD (parts.around before finish).seam).isMargin = false := by
  rw [← Surroundings.headD_append, List.headD_eq_head?_getD, around, List.head?_append,
    head?_close_append, ← List.head?_append]
  cases first : (parts.line ++ parts.close).head? with
  | none => simp [Token.isMargin, isEnd]
  | some token => exact parts.begins token first

theorem around_cursor (before : List SyntaxError) (finish : Token) :
    (parts.around before finish).cursor (parts.margin ++ parts.line) [] =
      ⟨tokens, finish, before⟩ := by
  simp only [Surroundings.cursor, around, List.append_nil, ← List.append_assoc, parts.whole]

theorem alone_cursor (finish : Token) :
    (parts.alone finish).cursor (parts.margin ++ parts.line) [] = ⟨parts.chunk, finish, []⟩ := rfl

theorem dropWhile_close_append (tokens' : List Token) :
    (parts.close ++ tokens').dropWhile (·.kind = .newline) =
      tokens'.dropWhile (·.kind = .newline) :=
  List.dropWhile_append_of_pos fun token member => decide_eq_true (parts.closing token member)

theorem dropWhile_close : parts.close.dropWhile (·.kind = .newline) =
    ([] : List Token).dropWhile (·.kind = .newline) := by
  rw [← parts.dropWhile_close_append [], List.append_nil]

theorem chunk_subset : parts.chunk ⊆ tokens := by
  have inside := List.subset_append_left parts.chunk parts.rest
  rwa [chunk, parts.whole] at inside

theorem rest_subset : parts.rest ⊆ tokens := by
  have inside := List.subset_append_right parts.chunk parts.rest
  rwa [chunk, parts.whole] at inside

theorem length_margin_le : parts.margin.length ≤ parts.chunk.length := by
  rw [chunk, List.append_assoc, List.length_append]
  exact Nat.le_add_right _ _

theorem length_chunk_le : parts.chunk.length ≤ tokens.length := by
  have whole := congrArg List.length parts.whole
  rw [List.length_append] at whole
  exact Nat.le.intro whole

end Cut

/-- The first declaration is read alike in the whole and in its chunk alone. -/
theorem exists_recovers_cut {stream : TokenStream} (closed : stream.IsSealed)
    (readable : ¬stream.HasUnreadable) (parts : Cut stream.tokens)
    {depth depth' : Nat} (deep : stream.tokens.length < depth)
    (deep' : parts.chunk.length < depth') (before : List SyntaxError) :
    ∃ (found? : Option Declaration) (errors : List SyntaxError),
      Recovers depth (parts.around before stream.finish) (parts.margin ++ parts.line) found?
        errors ∧
      Recovers depth' (parts.alone stream.finish) (parts.margin ++ parts.line) found? errors := by
  have newline : ∀ token ∈ parts.close.head?, token.kind = .newline :=
    fun token first => parts.closing token (List.mem_of_mem_head? first)
  have fits : parts.margin.length < depth :=
    (parts.length_margin_le.trans parts.length_chunk_le).trans_lt deep
  have fits' : parts.margin.length < depth' := parts.length_margin_le.trans_lt deep'
  apply exists_recovers (by rwa [Cut.around, Cut.head?_close_append]) newline
  · exact declaration_agrees (parts.meets closed.atEnd before) parts.before (parts.plain closed)
      (parts.stops closed.atEnd before) fits fits'
  · rw [parts.around_cursor]
    exact declaration_isOrderly closed.atEnd readable deep
  · rw [parts.alone_cursor]
    exact declaration_isOrderly closed.atEnd (readable ∘ .of_subset parts.chunk_subset) deep'

/-- A round reads the first chunk as if it were alone. -/
theorem exists_round {stream : TokenStream} (closed : stream.IsSealed)
    (readable : ¬stream.HasUnreadable) (parts : Cut stream.tokens) (nonempty : stream.tokens ≠ [])
    {depth : Nat} (deep : stream.tokens.length < depth) (before : List SyntaxError) :
    ∃ (found? : Option Declaration) (errors : List SyntaxError),
      findings? ⟨parts.chunk, stream.finish⟩ =
        some ⟨found?.toList, errors.map SyntaxError.diagnostic⟩ ∧
      ∀ fuel, rounds depth (fuel + 2) ⟨stream.tokens, stream.finish, before⟩ =
        (rounds depth (fuel + 1) >>= fun rest => pure (found?.toList ++ rest))
          ⟨parts.rest, stream.finish, before ++ errors⟩ := by
  obtain ⟨depth, rfl⟩ := Nat.exists_eq_succ_of_ne_zero (Nat.ne_zero_of_lt deep)
  have some : 0 < parts.chunk.length := List.length_pos_iff.mpr (parts.chunk_ne_nil nonempty)
  obtain ⟨least, size⟩ : ∃ least, limit ⟨parts.chunk, stream.finish⟩ = least + 2 :=
    Nat.exists_eq_add_of_le' (Nat.succ_le_succ some)
  have deep' : parts.chunk.length < least + 2 := by
    rw [← size]
    exact Nat.lt_succ_self _
  obtain ⟨found?, errors, recovers, recovers'⟩ :=
    exists_recovers_cut closed readable parts deep deep' before
  refine ⟨found?, errors, ?_, ?_⟩
  · have alone : rounds (least + 2) (least + 2) ⟨parts.chunk, stream.finish, []⟩ =
        .ok (found?.toList ++ []) ⟨[], stream.finish, errors⟩ := by
      rw [← parts.alone_cursor, recovers'.rounds_eq (closed.of_subset parts.chunk_subset)
        parts.dropWhile_close least]
      exact bind_eq_of_ok (rounds_nil _ _ closed.atEnd _)
    rw [← size, List.append_nil] at alone
    exact findings?_of_rounds alone
  · intro fuel
    rw [← parts.around_cursor]
    apply recovers.rounds_eq
    · rwa [Cut.around, ← List.append_assoc, parts.whole]
    · exact parts.dropWhile_close_append parts.rest

theorem exists_findings {depth : Nat} {finish : Token} (tokens : List Token)
    (closed : TokenStream.IsSealed ⟨tokens, finish⟩)
    (readable : ¬TokenStream.HasUnreadable ⟨tokens, finish⟩) (deep : tokens.length < depth)
    {fuel : Nat} (enough : tokens.length < fuel) (before : List SyntaxError) :
    ∃ (found : List Findings) (errors : List SyntaxError),
      (chunks tokens).map (fun chunk => findings? ⟨chunk, finish⟩) = found.map some ∧
      errors.map SyntaxError.diagnostic = found.flatMap Findings.diagnostics ∧
      rounds depth fuel ⟨tokens, finish, before⟩ =
        .ok (found.flatMap Findings.declarations) ⟨[], finish, before ++ errors⟩ := by
  fun_induction chunks tokens generalizing fuel before with
  | case1 =>
      obtain ⟨fuel, rfl⟩ := Nat.exists_eq_succ_of_ne_zero (Nat.ne_zero_of_lt enough)
      refine ⟨[], [], rfl, rfl, ?_⟩
      rw [rounds_nil depth fuel closed.atEnd, List.append_nil]
      rfl
  | case2 token tokens parts ih =>
      have shorter : parts.rest.length < (token :: tokens).length :=
        parts.length_rest_lt (List.cons_ne_nil _ _)
      obtain ⟨fuel, rfl⟩ : ∃ more, fuel = more + 2 :=
        Nat.exists_eq_add_of_le' ((Nat.le_add_left 2 tokens.length).trans enough)
      have enough' : parts.rest.length < fuel + 1 :=
        shorter.trans_le (Nat.le_of_succ_le_succ enough)
      obtain ⟨found?, errors, alone, round⟩ :=
        exists_round closed readable parts (List.cons_ne_nil _ _) deep before
      obtain ⟨found, others, each, concat, outcome⟩ := ih (closed.of_subset parts.rest_subset)
        (readable ∘ .of_subset parts.rest_subset) (shorter.trans deep) enough' (before ++ errors)
      refine ⟨⟨found?.toList, errors.map SyntaxError.diagnostic⟩ :: found, errors ++ others,
        ?_, ?_, ?_⟩
      · rw [List.map_cons, List.map_cons, each, alone]
      · rw [List.map_append, List.flatMap_cons, concat]
      · rw [round, bind_eq_of_ok outcome, List.flatMap_cons, List.append_assoc]
        rfl

/-- What is found in a text is what is found in each of its chunks alone. -/
theorem findings_chunks {file text : String} {stream : TokenStream}
    (streamed : TokenStream.ofText file text = .ok stream) (readable : ¬stream.HasUnreadable) :
    ∃ found : List Findings,
      (chunks stream.tokens).map (fun chunk => findings? ⟨chunk, stream.finish⟩) =
        found.map some ∧
      findings? stream =
        some ⟨found.flatMap Findings.declarations, found.flatMap Findings.diagnostics⟩ := by
  have closed := TokenStream.ofText_isSealed streamed
  have deep : stream.tokens.length < limit stream := Nat.lt_succ_self _
  obtain ⟨found, errors, each, concat, outcome⟩ :=
    exists_findings stream.tokens closed readable deep deep []
  refine ⟨found, each, ?_⟩
  rw [← concat]
  exact findings?_of_rounds outcome

/-- The second of three declarations lacks its parameters; the others are found all the same. -/
theorem findings_chunks_missing_parameters : ∃ stream,
    TokenStream.ofText "m.pipe" "pipe f(x) -> x\npipe g -> 1\npipe h(y) -> y\n" = .ok stream ∧
      ¬stream.HasUnreadable ∧
      (findings? stream).map (fun found => (found.declarations.length, found.diagnostics.length)) =
        some (2, 1) ∧
      ∃ found : List Findings,
        (chunks stream.tokens).map (fun chunk => findings? ⟨chunk, stream.finish⟩) =
          found.map some ∧
        findings? stream =
          some ⟨found.flatMap Findings.declarations, found.flatMap Findings.diagnostics⟩ := by
  have streamed : ∃ stream, TokenStream.ofText "m.pipe"
      "pipe f(x) -> x\npipe g -> 1\npipe h(y) -> y\n" = .ok stream ∧
        (∀ token ∈ stream.tokens, ¬token.IsUnreadable) ∧
        (findings? stream).map
          (fun found => (found.declarations.length, found.diagnostics.length)) = some (2, 1) :=
    ⟨_, rfl, by decide +kernel, by decide +kernel⟩
  obtain ⟨stream, streamed, readable, counts⟩ := streamed
  have readable' : ¬stream.HasUnreadable := fun ⟨token, member, unreadable⟩ =>
    readable token member unreadable
  exact ⟨stream, streamed, readable', counts, findings_chunks streamed readable'⟩

end ClauseFlow
