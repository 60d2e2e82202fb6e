import ClauseFlow.Proofs.Parse.Recovery
import ClauseFlow.Proofs.Parse.Rows

/-!
# Reading always ends

Every construct takes a token, so the fuel that reading starts with is never used up: a text is
read, or an error of it is reported, or a numeral in it denotes no number. What carries the proof is
how many tokens a step takes at least, from fewer tokens than its fuel on.
-/

namespace ClauseFlow

/-- Whether a token is a numeral that denotes no number. -/
def Token.IsUnreadable (token : Token) : Prop :=
  (token.kind = .integer ∧ Numeral.readInteger? token.value = none) ∨
    (token.kind = .decimal ∧ Numeral.readDecimal? token.value = none)

instance (token : Token) : Decidable token.IsUnreadable :=
  inferInstanceAs (Decidable (_ ∨ _))

/-- Whether some numeral of a text denotes no number. -/
def TokenStream.HasUnreadable (stream : TokenStream) : Prop :=
  ∃ token ∈ stream.tokens, token.IsUnreadable

/-- Whether a token is one of a stream, unless it marks the end. -/
def Token.IsIn (stream : TokenStream) (token : Token) : Prop :=
  token.kind ≠ .endOfText → token ∈ stream.tokens

namespace Cursor

/-- Whether a reading of a stream can have come to a cursor. -/
structure IsPartOf (stream : TokenStream) (cursor : Cursor) : Prop where
  suffix : cursor.tokens <:+ stream.tokens
  finish : cursor.finish = stream.finish
  isEnd : cursor.finish.kind = .endOfText

/-- The token that comes next. -/
def next (cursor : Cursor) : Token :=
  cursor.tokens.headD cursor.finish

namespace IsPartOf

variable {stream : TokenStream} {cursor other : Cursor}

theorem of_suffix {tokens : List Token} (part : cursor.IsPartOf stream)
    (suffix : tokens <:+ cursor.tokens) (errors : List SyntaxError) :
    IsPartOf stream ⟨tokens, cursor.finish, errors⟩ :=
  ⟨suffix.trans part.suffix, part.finish, part.isEnd⟩

/-- Where as many tokens are left, the same one comes next. -/
theorem next_eq (part : cursor.IsPartOf stream) (otherPart : other.IsPartOf stream)
    (same : other.tokens.length = cursor.tokens.length) : other.next = cursor.next := by
  have suffix := List.suffix_of_suffix_length_le otherPart.suffix part.suffix same.le
  rw [next, next, suffix.eq_of_length same, part.finish, otherPart.finish]

/-- A token that does not mark the end is one of the tokens still to come. -/
theorem nonempty {tokens : List Token} (part : cursor.IsPartOf stream)
    (kind : (tokens.headD cursor.finish).kind ≠ .endOfText) : tokens ≠ [] := by
  rintro rfl
  exact kind part.isEnd

theorem mem {tokens : List Token} (part : cursor.IsPartOf stream)
    (suffix : tokens <:+ cursor.tokens) :
    (tokens.headD cursor.finish).IsIn stream := by
  intro kind
  cases tokens with
  | nil => exact absurd part.isEnd kind
  | cons token tokens => exact part.suffix.mem (suffix.mem (List.mem_cons_self ..))

end IsPartOf
end Cursor

namespace Parse

variable {α β : Type}

/-- How a step can end that takes at least `least` tokens if it answers. If it stops, then not
because its fuel is used up. -/
def TakesOutcome (stream : TokenStream) (cursor : Cursor) (least : Nat) :
    EStateM.Result Stop Cursor α → Prop
  | .ok _ next => next.IsPartOf stream ∧ next.tokens.length + least ≤ cursor.tokens.length
  | .error .syntaxError next =>
      next.IsPartOf stream ∧ next.tokens.length ≤ cursor.tokens.length
  | .error .unreadableNumeral _ => stream.HasUnreadable
  | .error .tooDeep _ => False

theorem TakesOutcome.congr {stream : TokenStream} {cursor other : Cursor} {least : Nat}
    {outcome : EStateM.Result Stop Cursor α}
    (same : other.tokens.length = cursor.tokens.length) :
    TakesOutcome stream other least outcome = TakesOutcome stream cursor least outcome := by
  rcases outcome with ⟨value, next⟩ | ⟨stop, next⟩
  · simp only [TakesOutcome, same]
  · cases stop <;> simp only [TakesOutcome, same]

/-- Whether a step takes at least `least` tokens of a stream, from fewer than `limit` of them on, if
the next one is ready for it. -/
def TakesFrom (stream : TokenStream) (ready : Token → Prop) (limit least : Nat)
    (step : Parse α) : Prop :=
  ∀ cursor : Cursor, cursor.IsPartOf stream → ready cursor.next → cursor.tokens.length < limit →
    TakesOutcome stream cursor least (step cursor)

/-- Whether a step takes at least `least` tokens, whichever comes next. -/
abbrev Takes (stream : TokenStream) (limit least : Nat) (step : Parse α) : Prop :=
  TakesFrom stream (fun _ => True) limit least step

namespace TakesFrom

variable {stream : TokenStream} {ready : Token → Prop} {limit least : Nat}

theorem answer {value : α} : TakesFrom stream ready limit 0 (pure value) :=
  fun _ part _ _ => ⟨part, le_rfl⟩

theorem refuse (error : SyntaxError) :
    TakesFrom stream ready limit least (fail error : Parse α) :=
  fun _ part _ _ => ⟨part.of_suffix (List.suffix_refl _) _, le_rfl⟩

/-- Without any fuel there is nothing to start from. -/
theorem zero {step : Parse α} : TakesFrom stream ready 0 least step :=
  fun _ _ _ below => absurd below (Nat.not_lt_zero _)

theorem mono {wider : Token → Prop} {limit' least' : Nat} {step : Parse α}
    (takes : TakesFrom stream wider limit' least' step)
    (implies : ∀ token, ready token → wider token) (fewer : limit ≤ limit')
    (more : least ≤ least') : TakesFrom stream ready limit least step := by
  intro cursor part isReady below
  have outcome := takes cursor part (implies _ isReady) (below.trans_le fewer)
  cases ended : step cursor with
  | ok value next =>
      rw [ended] at outcome
      exact ⟨outcome.1, (Nat.add_le_add_left more _).trans outcome.2⟩
  | error stop next =>
      rw [ended] at outcome
      cases stop <;> exact outcome

/-- What holds whichever token comes next holds from some tokens on. -/
theorem anywhere {step : Parse α} (takes : Takes stream limit least step) :
    TakesFrom stream ready limit least step :=
  takes.mono (fun _ _ => trivial) le_rfl le_rfl

/-- A step that takes a token takes none or more. -/
theorem some {step : Parse α} (takes : TakesFrom stream ready limit 1 step) :
    TakesFrom stream ready limit 0 step :=
  takes.mono (fun _ holds => holds) le_rfl (Nat.zero_le _)

/-- Steps one after the other. -/
theorem bind {step : Parse α} {rest : α → Parse β} {first limit' : Nat}
    (takes : TakesFrom stream ready limit first step)
    (later : ∀ value, Takes stream limit' least (rest value)) (enough : limit ≤ limit' + first) :
    TakesFrom stream ready limit (first + least) (step >>= rest) := by
  intro cursor part isReady below
  have outcome := takes cursor part isReady below
  cases ended : step cursor with
  | ok value next =>
      rw [ended] at outcome
      rcases outcome with ⟨part', taken⟩
      have outcome' := later value next part' trivial (by omega)
      simp only [Bind.bind, EStateM.bind, ended]
      cases ended' : rest value next with
      | ok result last =>
          rw [ended'] at outcome'
          exact ⟨outcome'.1, by have := outcome'.2; omega⟩
      | error stop last =>
          rw [ended'] at outcome'
          cases stop with
          | syntaxError => exact ⟨outcome'.1, by have := outcome'.2; omega⟩
          | unreadableNumeral => exact outcome'
          | tooDeep => exact outcome'
  | error stop next =>
      rw [ended] at outcome
      simp only [Bind.bind, EStateM.bind, ended]
      cases stop <;> exact outcome

/-- A step after one that may take nothing. -/
theorem after {step : Parse α} {rest : α → Parse β}
    (takes : TakesFrom stream ready limit 0 step)
    (later : ∀ value, Takes stream limit least (rest value)) :
    TakesFrom stream ready limit least (step >>= rest) := by
  have both := bind takes later le_rfl
  rwa [Nat.zero_add] at both

/-- A step after one that takes a token starts from fewer of them. -/
theorem afterOne {step : Parse α} {rest : α → Parse β}
    (takes : TakesFrom stream ready (limit + 1) 1 step)
    (later : ∀ value, Takes stream limit 0 (rest value)) :
    TakesFrom stream ready (limit + 1) 1 (step >>= rest) :=
  bind takes later le_rfl

theorem ite {accepted : Prop} [Decidable accepted] {step other : Parse α}
    (first : accepted → TakesFrom stream ready limit least step)
    (second : ¬accepted → TakesFrom stream ready limit least other) :
    TakesFrom stream ready limit least (if accepted then step else other) := by
  split
  · rename_i holds
    exact first holds
  · rename_i fails
    exact second fails

theorem discard {step : Parse α} (takes : TakesFrom stream ready limit least step) :
    TakesFrom stream ready limit least (discard step) := by
  rw [Functor.discard, LawfulFunctor.map_const, Function.comp_apply, ← bind_pure_comp]
  exact bind takes (fun _ => answer) (Nat.le_add_right _ _)

/-! ## Single tokens -/

/-- A step that looks at the next token first. -/
theorem current {rest : Token → Parse β}
    (later : ∀ token, ready token → token.IsIn stream →
      TakesFrom stream (· = token) limit least (rest token)) :
    TakesFrom stream ready limit least (current >>= rest) :=
  fun cursor part isReady below =>
    later cursor.next isReady (part.mem (List.suffix_refl _)) cursor part rfl below

/-- A step that looks at the token after the next one first. -/
theorem following {rest : Token → Parse β}
    (later : ∀ token, token.IsIn stream → TakesFrom stream ready limit least (rest token)) :
    TakesFrom stream ready limit least (following >>= rest) :=
  fun cursor part isReady below =>
    later _ (part.mem (List.tail_suffix _)) cursor part isReady below

theorem advance : TakesFrom stream ready limit 0 advance :=
  fun cursor part _ _ => ⟨part.of_suffix (List.tail_suffix _) _, by simp⟩

/-- The mark at the end is the only token that is not used up. -/
theorem advanceOne (notEnd : ∀ token, ready token → token.kind ≠ .endOfText) :
    TakesFrom stream ready limit 1 Parse.advance := by
  intro cursor part isReady _
  have nonempty := List.length_pos_iff.mpr (part.nonempty (notEnd _ isReady))
  exact ⟨part.of_suffix (List.tail_suffix _) _, by rw [List.length_tail]; omega⟩

/-- A step that asks for the kind of the next token first. -/
theorem at? {kind : TokenKind} {rest : Bool → Parse β}
    (here : TakesFrom stream (fun token => ready token ∧ token.kind = kind) limit least (rest true))
    (elsewhere :
      TakesFrom stream (fun token => ready token ∧ token.kind ≠ kind) limit least (rest false)) :
    TakesFrom stream ready limit least (at? kind >>= rest) := by
  intro cursor part isReady below
  have looks : (Parse.at? kind >>= rest) cursor =
      rest (decide (cursor.next.kind = kind)) cursor := rfl
  rw [looks]
  by_cases same : cursor.next.kind = kind
  · rw [decide_eq_true same]
    exact here cursor part ⟨isReady, same⟩ below
  · rw [decide_eq_false same]
    exact elsewhere cursor part ⟨isReady, same⟩ below

theorem expect {kind : TokenKind} (notEnd : kind ≠ .endOfText) :
    TakesFrom stream ready limit 1 (expect kind) := by
  rw [Parse.expect]
  apply current
  intro token _ _
  apply ite
  · intro same
    exact advanceOne fun _ here => here ▸ same ▸ notEnd
  · exact fun _ => refuse _

theorem record (error : SyntaxError) : TakesFrom stream ready limit 0 (record error) :=
  fun _ part _ _ => ⟨part.of_suffix (List.suffix_refl _) _, le_rfl⟩

theorem skipNewlines : TakesFrom stream ready limit 0 skipNewlines :=
  fun _ part _ _ => ⟨part.of_suffix (List.dropWhile_suffix _) _,
    (List.dropWhile_suffix _).length_le⟩

theorem integerOf {token : Token} (kind : token.kind = .integer) (inside : token.IsIn stream) :
    TakesFrom stream ready limit 0 (integerOf token) := by
  intro cursor part _ _
  cases read : Numeral.readInteger? token.value with
  | none =>
      rw [Parse.integerOf, read]
      exact ⟨token, inside (by rw [kind]; decide), .inl ⟨kind, read⟩⟩
  | some value =>
      rw [Parse.integerOf, read]
      exact ⟨part, le_rfl⟩

theorem decimalOf {token : Token} (kind : token.kind = .decimal) (inside : token.IsIn stream) :
    TakesFrom stream ready limit 0 (decimalOf token) := by
  intro cursor part _ _
  cases read : Numeral.readDecimal? token.value with
  | none =>
      rw [Parse.decimalOf, read]
      exact ⟨token, inside (by rw [kind]; decide), .inr ⟨kind, read⟩⟩
  | some value =>
      rw [Parse.decimalOf, read]
      exact ⟨part, le_rfl⟩

end TakesFrom

/-! ## Repetition -/

variable {stream : TokenStream} {ready : Token → Prop} {item : Parse α} {limit : Nat}

/-- A step that goes on after a token it is certain of. -/
theorem TakesFrom.taken {token : Token} {rest : Unit → Parse β} (notEnd : token.kind ≠ .endOfText)
    (later : Takes stream limit 0 (rest ())) :
    TakesFrom stream (· = token) (limit + 1) 1 (Functor.discard Parse.advance >>= rest) :=
  .afterOne (.discard (.advanceOne fun _ same => same ▸ notEnd)) fun _ => later

/-- A step that goes on after a token it expects. -/
theorem TakesFrom.expecting {kind : TokenKind} {rest : Unit → Parse β} {least : Nat}
    (notEnd : kind ≠ .endOfText) (later : Takes stream limit least (rest ())) :
    TakesFrom stream ready limit least (Functor.discard (Parse.expect kind) >>= rest) :=
  .after (.discard (expect notEnd).some) fun _ => later

/-- A step that answers after a token it expects. -/
theorem TakesFrom.closing {kind : TokenKind} {result : Token → β} (notEnd : kind ≠ .endOfText) :
    TakesFrom stream ready limit 0 (Parse.expect kind >>= fun last => pure (result last)) :=
  .after (expect notEnd).some fun _ => .answer

theorem turn_takes {closing : TokenKind} {first : Bool} {empty : α} {more : Parse α}
    (goesOn : Takes stream limit 0 more) :
    Takes stream limit 0 (turn closing first empty more) := by
  rw [turn]
  apply TakesFrom.current
  intro token _ _
  apply TakesFrom.anywhere
  apply TakesFrom.ite
  · exact fun _ => .answer
  · exact fun _ => .ite (fun _ => goesOn) fun _ => .expecting (by decide) goesOn

theorem itemAnd_takes {rest : Parse (List α)} (each : Takes stream (limit + 1) 1 item)
    (others : Takes stream limit 0 rest) : Takes stream (limit + 1) 0 (itemAnd item rest) := by
  rw [itemAnd]
  apply TakesFrom.some
  apply TakesFrom.afterOne each
  intro value
  exact .after others fun _ => .answer

theorem separated_takes (each : Takes stream limit 1 item) (closing : TokenKind) (fuel : Nat)
    (first : Bool) (enough : fuel ≤ limit) :
    Takes stream fuel 0 (separated item closing fuel first) := by
  induction fuel generalizing first with
  | zero => exact .zero
  | succ fuel ih =>
      rw [separated_succ]
      exact turn_takes (itemAnd_takes (each.mono (fun _ holds => holds) enough le_rfl)
        (ih false (Nat.le_of_succ_le enough)))

theorem itemAndTail_takes {rest : Parse (List α × Option α)}
    (each : Takes stream (limit + 1) 1 item) (others : Takes stream limit 0 rest) :
    Takes stream (limit + 1) 0 (itemAndTail item rest) := by
  rw [itemAndTail]
  apply TakesFrom.some
  apply TakesFrom.afterOne each
  intro value
  apply TakesFrom.at?
  · apply TakesFrom.after (.discard .advance)
    intro _
    apply TakesFrom.after (each.some.mono (fun _ holds => holds) (Nat.le_succ _) le_rfl)
    exact fun _ => .answer
  · apply TakesFrom.anywhere
    exact .after others fun _ => .answer

theorem separatedWithTail_takes (each : Takes stream limit 1 item) (fuel : Nat) (first : Bool)
    (enough : fuel ≤ limit) :
    Takes stream fuel 0 (separatedWithTail item fuel first) := by
  induction fuel generalizing first with
  | zero => exact .zero
  | succ fuel ih =>
      rw [separatedWithTail_succ]
      exact turn_takes (itemAndTail_takes (each.mono (fun _ holds => holds) enough le_rfl)
        (ih false (Nat.le_of_succ_le enough)))

theorem entryAnd_takes {seen : List String} {rest : List String → Parse (List (String × α))}
    (each : Takes stream limit 1 item) (others : ∀ seen, Takes stream limit 0 (rest seen)) :
    Takes stream (limit + 1) 0 (entryAnd item seen rest) := by
  have valueAnd (key : String) : Takes stream limit 0 (valueAnd item key (rest (key :: seen))) := by
    rw [valueAnd]
    apply TakesFrom.after each.some
    intro value
    exact .after (others _) fun _ => .answer
  rw [entryAnd]
  apply TakesFrom.some
  apply TakesFrom.afterOne (.expect (by decide))
  intro key
  apply TakesFrom.expecting (by decide)
  apply TakesFrom.ite
  · exact fun _ => .after (.record _) fun _ => valueAnd _
  · exact fun _ => valueAnd _

theorem entries_takes (each : Takes stream limit 1 item) (fuel : Nat) (seen : List String)
    (enough : fuel ≤ limit) :
    Takes stream fuel 0 (entries item fuel seen) := by
  induction fuel generalizing seen with
  | zero => exact .zero
  | succ fuel ih =>
      have enough' : fuel ≤ limit := Nat.le_of_succ_le enough
      rw [entries_succ]
      exact turn_takes (entryAnd_takes (each.mono (fun _ holds => holds) enough' le_rfl)
        fun seen => ih seen enough')

/-! ## Patterns -/

theorem literal_takes {token : Token} {read : Parse Literal} (found : literal? token = some read)
    (inside : token.IsIn stream) : TakesFrom stream ready limit 0 read := by
  rw [literal?] at found
  split at found
  all_goals cases found
  · rename_i kind
    exact .after (.integerOf kind inside) fun _ => .answer
  · rename_i kind
    exact .after (.decimalOf kind inside) fun _ => .answer
  all_goals exact .answer

theorem primaryPattern_takes {inner : Parse Pattern} {depth : Nat}
    (each : Takes stream depth 1 inner) :
    Takes stream (depth + 1) 1 (primaryPattern inner depth) := by
  rw [primaryPattern]
  apply TakesFrom.current
  intro token _ inside
  split
  · rename_i kind
    exact .taken (by rw [kind]; decide) .answer
  -- The constants.
  iterate 6
    rename_i kind
    apply TakesFrom.taken (by rw [kind]; decide)
    split
    · rename_i found
      exact .after (literal_takes found inside) fun _ => .answer
    · exact .refuse _
  · rename_i kind
    apply TakesFrom.following
    intro number insideNumber
    apply TakesFrom.ite
    · intro _
      apply TakesFrom.taken (by rw [kind]; decide)
      apply TakesFrom.after (.discard .advance)
      intro _
      split
      · rename_i found
        exact .after (literal_takes found insideNumber) fun _ => .answer
      · exact .refuse _
    · exact fun _ => .refuse _
  iterate 2
    rename_i kind
    apply TakesFrom.taken (by rw [kind]; decide)
    apply TakesFrom.expecting (by decide)
    apply TakesFrom.after each.some
    intro value
    exact .closing (by decide)
  · rename_i kind
    apply TakesFrom.taken (by rw [kind]; decide)
    apply TakesFrom.after (separated_takes each _ _ _ le_rfl)
    intro elements
    exact .closing (by decide)
  · rename_i kind
    apply TakesFrom.taken (by rw [kind]; decide)
    apply TakesFrom.after (separatedWithTail_takes each _ _ le_rfl)
    intro elements
    exact .closing (by decide)
  · rename_i kind
    apply TakesFrom.taken (by rw [kind]; decide)
    apply TakesFrom.after (entries_takes each _ _ le_rfl)
    intro found
    exact .closing (by decide)
  · rename_i kind
    apply TakesFrom.taken (by rw [kind]; decide)
    apply TakesFrom.at?
    · apply TakesFrom.after (.discard .advance)
      intro _
      apply TakesFrom.after (entries_takes each _ _ le_rfl)
      intro found
      exact .closing (by decide)
    · exact .refuse _
  · exact .refuse _

theorem pattern_takes (depth : Nat) : Takes stream depth 1 (pattern depth) := by
  induction depth with
  | zero => exact .zero
  | succ depth ih =>
      rw [pattern]
      apply TakesFrom.afterOne (primaryPattern_takes ih)
      intro whole
      apply TakesFrom.at?
      · apply TakesFrom.after (.discard .advance)
        intro _
        exact .closing (by decide)
      · exact .answer

/-! ## Expressions -/

theorem combine_takes (kind : TokenKind) (left right : Expr) :
    Takes stream limit 0 (combine kind left right) := by
  simp only [combine]
  split
  · split
    · exact .answer
    · exact .answer
    · exact .refuse _
  all_goals exact .answer

theorem operand_takes {inner : Nat → Parse Expr} {depth : Nat}
    (each : ∀ power, Takes stream depth 1 (inner power)) :
    Takes stream (depth + 1) 1 (operand inner depth) := by
  rw [operand]
  apply TakesFrom.current
  intro token _ inside
  split
  -- A sign before an operand.
  iterate 2
    rename_i kind
    apply TakesFrom.taken (by rw [kind]; decide)
    exact .after (each _).some fun _ => .answer
  · rename_i kind
    apply TakesFrom.taken (by rw [kind]; decide)
    exact .after (.integerOf kind inside) fun _ => .answer
  · rename_i kind
    apply TakesFrom.taken (by rw [kind]; decide)
    exact .after (.decimalOf kind inside) fun _ => .answer
  iterate 4
    rename_i kind
    exact .taken (by rw [kind]; decide) .answer
  · rename_i kind
    apply TakesFrom.taken (by rw [kind]; decide)
    apply TakesFrom.after (each 0).some
    exact fun _ => .expecting (by decide) .answer
  iterate 2
    rename_i kind
    apply TakesFrom.taken (by rw [kind]; decide)
    apply TakesFrom.expecting (by decide)
    apply TakesFrom.after (each 0).some
    intro value
    exact .closing (by decide)
  · rename_i kind
    apply TakesFrom.taken (by rw [kind]; decide)
    apply TakesFrom.after (separated_takes (each 0) _ _ _ le_rfl)
    intro elements
    exact .closing (by decide)
  · rename_i kind
    apply TakesFrom.taken (by rw [kind]; decide)
    apply TakesFrom.after (separatedWithTail_takes (each 0) _ _ le_rfl)
    intro elements
    exact .closing (by decide)
  · rename_i kind
    apply TakesFrom.taken (by rw [kind]; decide)
    apply TakesFrom.after (entries_takes (each 0) _ _ le_rfl)
    intro found
    exact .closing (by decide)
  · rename_i kind
    apply TakesFrom.taken (by rw [kind]; decide)
    apply TakesFrom.after (each 0).some
    intro condition
    apply TakesFrom.expecting (by decide)
    apply TakesFrom.after (each 0).some
    intro thenBranch
    apply TakesFrom.expecting (by decide)
    exact .after (each 0).some fun _ => .answer
  · rename_i kind
    apply TakesFrom.taken (by rw [kind]; decide)
    apply TakesFrom.expecting (by decide)
    apply TakesFrom.after (separated_takes (.expect (by decide)) _ _ _ le_rfl)
    intro params
    apply TakesFrom.expecting (by decide)
    apply TakesFrom.expecting (by decide)
    exact .after (each 0).some fun _ => .answer
  · rename_i kind
    exact .taken (by rw [kind]; decide) .answer
  · rename_i kind
    apply TakesFrom.taken (by rw [kind]; decide)
    apply TakesFrom.at?
    · apply TakesFrom.after (.discard .advance)
      intro _
      apply TakesFrom.after (entries_takes (each 0) _ _ le_rfl)
      intro found
      exact .closing (by decide)
    · exact .answer
  · exact .refuse _

/-- Each round takes a token: a dot, a bracket, or an operator. -/
theorem operators_takes {inner : Nat → Parse Expr} {limit : Nat}
    (each : ∀ power, Takes stream limit 1 (inner power)) (power fuel : Nat) (left : Expr)
    (enough : fuel ≤ limit) : Takes stream fuel 0 (operators inner power fuel left) := by
  induction fuel generalizing left with
  | zero => exact .zero
  | succ fuel ih =>
      have enough' : fuel ≤ limit := Nat.le_of_succ_le enough
      have next (left : Expr) : Takes stream fuel 0 (operators inner power fuel left) :=
        ih left enough'
      have each' (power : Nat) : Takes stream fuel 1 (inner power) :=
        (each power).mono (fun _ holds => holds) enough' le_rfl
      rw [operators]
      apply TakesFrom.current
      intro token _ _
      split
      · rename_i kind
        apply TakesFrom.some
        apply TakesFrom.taken (by rw [kind]; decide)
        exact .after (TakesFrom.expect (by decide)).some fun _ => next _
      · rename_i kind
        apply TakesFrom.some
        apply TakesFrom.taken (by rw [kind]; decide)
        apply TakesFrom.after (separated_takes (each' 0) _ _ _ le_rfl)
        intro arguments
        exact .after (TakesFrom.expect (by decide)).some fun _ => next _
      · split
        · exact .answer
        · rename_i found
          apply TakesFrom.ite
          · exact fun _ => .answer
          · intro _
            apply TakesFrom.some
            apply TakesFrom.taken
            · intro isEnd
              rw [isEnd] at found
              cases found
            · apply TakesFrom.after (each' _).some
              intro right
              exact .after (combine_takes _ _ _) fun _ => next _

theorem expression_takes (depth power : Nat) : Takes stream depth 1 (expression depth power) := by
  induction depth generalizing power with
  | zero => exact .zero
  | succ depth ih =>
      rw [expression]
      apply TakesFrom.afterOne (operand_takes ih)
      intro left
      exact operators_takes ih power depth left le_rfl

/-! ## Modules -/

theorem head_takes (depth : Nat) : Takes stream depth 0 (head depth) := by
  rw [head]
  apply TakesFrom.after (TakesFrom.expect (by decide)).some
  intro name
  apply TakesFrom.expecting (by decide)
  apply TakesFrom.after (separated_takes (pattern_takes depth) _ _ _ le_rfl)
  intro params
  apply TakesFrom.after (TakesFrom.expect (by decide)).some
  intro last
  apply TakesFrom.at?
  · apply TakesFrom.after (.discard .advance)
    intro _
    exact .after (expression_takes depth 0).some fun _ => .answer
  · exact .answer

theorem docComments_takes (fuel : Nat) : Takes stream fuel 0 (docComments fuel) := by
  induction fuel with
  | zero => exact .zero
  | succ fuel ih =>
      rw [docComments]
      apply TakesFrom.at?
      · apply TakesFrom.some
        apply TakesFrom.afterOne
        · apply TakesFrom.advanceOne
          rintro token ⟨_, kind⟩
          rw [kind]
          decide
        · intro comment
          apply TakesFrom.after .skipNewlines
          intro _
          exact .after ih fun _ => .answer
      · exact .answer

/-- Whether a step takes a token wherever there is one. -/
structure Moves (stream : TokenStream) (limit : Nat) (step : Parse α) : Prop where
  any : Takes stream limit 0 step
  one : TakesFrom stream (·.kind ≠ .endOfText) limit 1 step

/-- If the first step takes no token, the second one starts where the first one did. -/
theorem Moves.after {step : Parse α} {rest : α → Parse β} (takes : Takes stream limit 0 step)
    (later : ∀ value, Moves stream limit (rest value)) : Moves stream limit (step >>= rest) where
  any := .after takes fun value => (later value).any
  one := by
    intro cursor part notEnd below
    have outcome := takes cursor part trivial below
    cases ended : step cursor with
    | error stop next =>
        rw [ended] at outcome
        simp only [Bind.bind, EStateM.bind, ended]
        cases stop <;> exact outcome
    | ok value next =>
        rw [ended] at outcome
        rcases outcome with ⟨part', taken⟩
        have below' : next.tokens.length < limit := taken.trans_lt below
        simp only [Bind.bind, EStateM.bind, ended]
        rcases Nat.lt_or_eq_of_le (show next.tokens.length ≤ cursor.tokens.length from taken)
          with fewer | same
        · have outcome' := (later value).any next part' trivial below'
          cases ended' : rest value next with
          | ok result last =>
              rw [ended'] at outcome'
              exact ⟨outcome'.1, (Nat.succ_le_succ outcome'.2).trans fewer⟩
          | error stop last =>
              rw [ended'] at outcome'
              cases stop with
              | syntaxError => exact ⟨outcome'.1, outcome'.2.trans taken⟩
              | unreadableNumeral => exact outcome'
              | tooDeep => exact outcome'
        · have outcome' := (later value).one next part' (by rwa [part.next_eq part' same]) below'
          rwa [TakesOutcome.congr same] at outcome'

theorem Moves.current {rest : Token → Parse β}
    (atEnd : ∀ token, token.kind = .endOfText → Takes stream limit 0 (rest token))
    (before : ∀ token, token.kind ≠ .endOfText →
      TakesFrom stream (· = token) limit 1 (rest token)) :
    Moves stream limit (Parse.current >>= rest) where
  any := by
    apply TakesFrom.current
    intro token _ _
    by_cases isEnd : token.kind = .endOfText
    · exact .anywhere (atEnd token isEnd)
    · exact .some (before token isEnd)
  one := TakesFrom.current fun token notEnd _ => before token notEnd

theorem declaration_moves (depth : Nat) : Moves stream depth (declaration depth) := by
  rw [declaration]
  apply Moves.after .skipNewlines
  intro _
  apply Moves.after (docComments_takes depth)
  intro comments
  apply Moves.current
  · intro keyword isEnd
    rw [isEnd]
    exact .answer
  · intro keyword notEnd
    split
    · rename_i isEnd
      exact absurd isEnd notEnd
    iterate 2
      refine (TakesFrom.taken notEnd ?_).mono (fun _ same => same) (Nat.le_succ _) le_rfl
      apply TakesFrom.after (head_takes depth)
      intro head
      apply TakesFrom.expecting (by decide)
      apply TakesFrom.after (expression_takes depth 0).some
      intro body
      apply TakesFrom.current
      intro next _ _
      exact .ite (fun _ => .answer) fun _ => .refuse _
    · exact .refuse _

/-- What is passed over after an error is at least a token. -/
theorem recoveringDeclaration_takes (depth : Nat) :
    TakesFrom stream (·.kind ≠ .endOfText) depth 1 (recoveringDeclaration depth) := by
  intro cursor part notEnd below
  have nonempty := List.length_pos_iff.mpr (part.nonempty notEnd)
  have outcome := (declaration_moves depth).one cursor part notEnd below
  rw [recoveringDeclaration]
  cases ended : declaration depth cursor with
  | ok found? next =>
      rw [ended] at outcome
      exact outcome
  | error stop next =>
      rw [ended] at outcome
      cases stop with
      | syntaxError =>
          rcases outcome with ⟨part', taken⟩
          have suffix := List.dropWhile_suffix (l := next.tokens) fun token => token.kind ≠ .newline
          refine ⟨part'.of_suffix ((List.tail_suffix _).trans suffix) _, ?_⟩
          have shorter := suffix.length_le
          rw [List.length_tail]
          omega
      | unreadableNumeral => exact outcome
      | tooDeep => exact outcome

theorem declarations_takes {depth : Nat} (fuel : Nat) (enough : fuel ≤ depth) :
    Takes stream fuel 0 (declarations depth fuel) := by
  induction fuel with
  | zero => exact .zero
  | succ fuel ih =>
      rw [declarations]
      apply TakesFrom.at?
      · exact .answer
      · apply TakesFrom.some
        apply TakesFrom.afterOne
        · exact (recoveringDeclaration_takes depth).mono (fun _ ready => ready.2) enough le_rfl
        · intro found?
          apply TakesFrom.after .skipNewlines
          intro _
          exact .after (ih (Nat.le_of_succ_le enough)) fun _ => .answer

theorem wholeModule_takes (limit : Nat) : Takes stream limit 0 (wholeModule limit) := by
  rw [wholeModule]
  apply TakesFrom.after .skipNewlines
  intro _
  apply TakesFrom.after (declarations_takes limit le_rfl)
  intro found
  exact .current fun _ _ _ => .answer

end Parse
end ClauseFlow
