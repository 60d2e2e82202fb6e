import ClauseFlow.Proofs.Declaration.Nesting
import ClauseFlow.Proofs.Parse.Declarations
import ClauseFlow.Proofs.Parse.Progress
import ClauseFlow.Proofs.Token.Segments

/-!
# What is read is well nested

The tokens of a text stand in a row. A step takes tokens off the front of those still to come, lays
them behind the nodes that have been built, and folds the last of these into a new node, so that
nodes and tokens together are a row at every moment. At the end the declarations are one, within the
span from the first place of the text to the last.
-/

namespace ClauseFlow

namespace Cursor

/-- The tokens still to come that are written in the text. -/
def ahead (cursor : Cursor) : List Node :=
  (cursor.tokens.filter (·.kind.isWritten)).map .ofToken

/-- The span of the whole text. -/
def extent (cursor : Cursor) : Span :=
  ⟨cursor.finish.span.file, 1, 1, cursor.finish.span.endLine, cursor.finish.span.endColumn⟩

/-- Whether nodes and the tokens still to come are a row in the span of the text. -/
structure Continues (nodes : List Node) (cursor : Cursor) : Prop where
  row : Node.Row cursor.extent (nodes ++ cursor.ahead)
  closed : TokenStream.IsSealed ⟨cursor.tokens, cursor.finish⟩
  ordered : cursor.extent.first ≤ cursor.extent.last

namespace Continues

variable {nodes held made : List Node} {cursor : Cursor}

theorem of_suffix {tokens : List Token} (continues : cursor.Continues nodes)
    (suffix : tokens <:+ cursor.tokens) (errors : List SyntaxError) :
    Continues nodes ⟨tokens, cursor.finish, errors⟩ where
  row := continues.row.sublist ((List.Sublist.refl _).append ((suffix.sublist.filter _).map _))
  closed := ⟨fun token member => continues.closed.before token (suffix.mem member),
    continues.closed.atEnd⟩
  ordered := continues.ordered

theorem fold (continues : cursor.Continues (nodes ++ held)) (folds : Node.Folds held made) :
    cursor.Continues (nodes ++ made) where
  row := by
    rw [List.append_assoc]
    apply folds
    rw [← List.append_assoc]
    exact continues.row
  closed := continues.closed
  ordered := continues.ordered

theorem drop (continues : cursor.Continues (nodes ++ held)) :
    cursor.Continues nodes := by
  have dropped := continues.fold (.drop (List.nil_sublist held))
  rwa [List.append_nil] at dropped

/-- The mark at the end comes next only when all tokens have been taken. -/
theorem next_eq (continues : cursor.Continues nodes) (isEnd : cursor.next.kind = .endOfText) :
    cursor.next = cursor.finish := by
  obtain ⟨tokens, finish, errors⟩ := cursor
  cases tokens with
  | nil => rfl
  | cons token tokens => exact absurd isEnd (continues.closed.before token (.head _))

/-- A token that is taken comes behind the nodes that were there. -/
theorem take (continues : cursor.Continues nodes)
    (isWritten : cursor.next.kind.isWritten = true) :
    Continues (nodes ++ [.ofToken cursor.next])
      ⟨cursor.tokens.tail, cursor.finish, cursor.errors⟩ := by
  obtain ⟨tokens, finish, errors⟩ := cursor
  cases tokens with
  | nil =>
      have isEnd : finish.kind = .endOfText := continues.closed.atEnd
      rw [next, List.headD_nil, isEnd] at isWritten
      cases isWritten
  | cons token tokens =>
      have ahead : Cursor.ahead ⟨token :: tokens, finish, errors⟩ =
          .ofToken token :: Cursor.ahead ⟨tokens, finish, errors⟩ := by
        have isWritten : token.kind.isWritten = true := isWritten
        simp only [Cursor.ahead, List.filter_cons, isWritten, if_true, List.map_cons]
      constructor
      · have row := continues.row
        rw [ahead, List.append_cons] at row
        exact row
      · exact (continues.of_suffix (List.suffix_cons token tokens) errors).closed
      · exact continues.ordered

end Continues
end Cursor

namespace Parse

variable {α β : Type}

/-- Whether a step, from a cursor that is ready for it, turns the nodes held into those it makes of
its answer, behind any nodes that were there before and are left as they are. -/
def BuildsFrom (ready : Cursor → Prop) (held : List Node) (step : Parse α)
    (made : α → List Node) : Prop :=
  ∀ before cursor, ready cursor → cursor.Continues (before ++ held) →
    (∀ value next, step cursor = .ok value next → next.Continues (before ++ made value)) ∧
    (∀ next, step cursor = .error .syntaxError next → next.Continues before)

/-- Whether a step turns the nodes held into those it makes, whichever token comes next. -/
abbrev Builds (held : List Node) (step : Parse α) (made : α → List Node) : Prop :=
  BuildsFrom (fun _ => True) held step made

namespace BuildsFrom

variable {ready : Cursor → Prop} {held : List Node} {made : α → List Node}
  {made' : β → List Node} {step : Parse α} {rest : α → Parse β} {token : Token}

theorem answer {value : α} (folds : Node.Folds held (made value)) :
    BuildsFrom ready held (pure value) made := by
  intro before cursor _ continues
  constructor
  · intro value' next outcome
    cases outcome
    exact continues.fold folds
  · intro next outcome
    cases outcome

theorem refuse (error : SyntaxError) : BuildsFrom ready held (fail error) made := by
  intro before cursor _ continues
  constructor
  · intro value next outcome
    cases outcome
  · intro next outcome
    cases outcome
    exact continues.drop.of_suffix (List.suffix_refl _) _

theorem stop {stop : Stop} (noError : stop ≠ .syntaxError) :
    BuildsFrom ready held (throw stop) made := by
  intro before cursor _ _
  constructor
  · intro value next outcome
    cases outcome
  · intro next outcome
    cases outcome
    exact absurd rfl noError

/-- What is built whichever token comes next is built before some tokens. -/
theorem anywhere (builds : Builds held step made) : BuildsFrom ready held step made :=
  fun before cursor _ continues => builds before cursor trivial continues

/-- A step goes on with what the one before it has made. -/
theorem bind (first : BuildsFrom ready held step made)
    (later : ∀ value, Builds (made value) (rest value) made') :
    BuildsFrom ready held (step >>= rest) made' := by
  intro before cursor isReady continues
  have outcome := first before cursor isReady continues
  cases ended : step cursor with
  | ok value next =>
      simp only [Bind.bind, EStateM.bind, ended]
      exact later value before next trivial (outcome.1 value next ended)
  | error stop next =>
      simp only [Bind.bind, EStateM.bind, ended]
      constructor
      · intro result last outcome'
        cases outcome'
      · intro last outcome'
        cases outcome'
        exact outcome.2 next ended

/-- What a step makes comes behind the nodes held. -/
theorem frame (builds : Builds [] step made) :
    BuildsFrom ready held step fun value => held ++ made value := by
  intro before cursor _ continues
  have outcome := builds (before ++ held) cursor trivial (by rwa [List.append_nil])
  constructor
  · intro value next ended
    rw [← List.append_assoc]
    exact outcome.1 value next ended
  · intro next ended
    exact (outcome.2 next ended).drop

/-- The nodes of a step are held for the later ones. -/
theorem push (first : Builds [] step made)
    (later : ∀ value, Builds (held ++ made value) (rest value) made') :
    BuildsFrom ready held (step >>= rest) made' :=
  bind (frame first) later

theorem refold {held' : List Node} (builds : Builds held' step made)
    (folds : Node.Folds held held') : Builds held step made :=
  fun before cursor isReady continues =>
    builds before cursor isReady (continues.fold folds)

/-- The nodes of a step are left out. -/
theorem after (first : Builds [] step made) (later : ∀ value, Builds held (rest value) made') :
    BuildsFrom ready held (step >>= rest) made' :=
  push first fun value => (later value).refold (.drop (List.sublist_append_left _ _))

theorem ite {accepted : Prop} [Decidable accepted] {other : Parse α}
    (first : accepted → BuildsFrom ready held step made)
    (second : ¬accepted → BuildsFrom ready held other made) :
    BuildsFrom ready held (if accepted then step else other) made := by
  split
  · rename_i holds
    exact first holds
  · rename_i fails
    exact second fails

theorem discard (builds : Builds [] step made) :
    Builds [] (discard step) fun _ => [] := by
  rw [Functor.discard, LawfulFunctor.map_const, Function.comp_apply, ← bind_pure_comp]
  exact after builds fun _ => answer .keep

/-! ## Single tokens -/

/-- A step that looks at the next token first. -/
theorem peek {rest : Token → Parse β}
    (later : ∀ token, BuildsFrom (·.next = token) held (rest token) made') :
    Builds held (current >>= rest) made' :=
  fun before cursor _ continues => later cursor.next before cursor rfl continues

/-- A step that looks at the token after the next one first. -/
theorem peek_second {rest : Token → Parse β}
    (later : ∀ second, BuildsFrom (fun cursor => cursor.next = token ∧
      cursor.tokens.tail.headD cursor.finish = second) held (rest second) made') :
    BuildsFrom (·.next = token) held (following >>= rest) made' :=
  fun before cursor isNext continues => later _ before cursor ⟨isNext, rfl⟩ continues

/-- A step that answers and leaves some of the last tokens builds nothing. -/
theorem pass (passes : ∀ cursor, ∃ value tokens errors,
      step cursor = .ok value ⟨tokens, cursor.finish, errors⟩ ∧ tokens <:+ cursor.tokens) :
    Builds [] step fun _ => [] := by
  intro before cursor _ continues
  rcases passes cursor with ⟨value, tokens, errors, passed, suffix⟩
  rw [passed]
  constructor
  · intro value next outcome
    cases outcome
    exact continues.of_suffix suffix errors
  · intro next outcome
    cases outcome

theorem current : Builds [] current fun _ => [] :=
  pass fun _ => ⟨_, _, _, rfl, List.suffix_refl _⟩

theorem at? (kind : TokenKind) : Builds [] (at? kind) fun _ => [] :=
  pass fun _ => ⟨_, _, _, rfl, List.suffix_refl _⟩

theorem advance : Builds [] advance fun _ => [] :=
  pass fun _ => ⟨_, _, _, rfl, List.tail_suffix _⟩

theorem record (error : SyntaxError) : Builds [] (record error) fun _ => [] :=
  pass fun _ => ⟨_, _, _, rfl, List.suffix_refl _⟩

theorem skipNewlines : Builds [] skipNewlines fun _ => [] :=
  pass fun _ => ⟨_, _, _, rfl, List.dropWhile_suffix _⟩

theorem skipDeclaration : Builds [] skipDeclaration fun _ => [] :=
  pass fun _ => ⟨_, _, _, rfl, (List.tail_suffix _).trans (List.dropWhile_suffix _)⟩

theorem numeral (value? : Option α) : Builds [] (numeral value?) fun _ => [] := by
  cases value? with
  | none => exact stop (by decide)
  | some value => exact answer .keep

/-- A step that goes on after a token it has looked at. -/
theorem taken {rest : Unit → Parse β} (isWritten : token.kind.isWritten = true)
    (later : Builds (held ++ [.ofToken token]) (rest ()) made') :
    BuildsFrom (·.next = token) held (Functor.discard Parse.advance >>= rest) made' := by
  intro before cursor isNext continues
  have taken := continues.take (isNext ▸ isWritten)
  rw [isNext, List.append_assoc] at taken
  exact later before _ trivial taken

/-- A step that goes on after the first of two tokens it has looked at. -/
theorem taken_before {rest : Unit → Parse β} {second : Token}
    (isWritten : token.kind.isWritten = true)
    (later : BuildsFrom (·.next = second) (held ++ [.ofToken token]) (rest ()) made') :
    BuildsFrom (fun cursor => cursor.next = token ∧ cursor.tokens.tail.headD cursor.finish = second)
      held (Functor.discard Parse.advance >>= rest) made' := by
  intro before cursor isNext continues
  have taken := continues.take (isNext.1 ▸ isWritten)
  rw [isNext.1, List.append_assoc] at taken
  exact later before _ isNext.2 taken

theorem expect {kind : TokenKind} (isWritten : kind.isWritten = true) :
    Builds [] (expect kind) fun token => [.ofToken token] := by
  rw [Parse.expect]
  apply peek
  intro token
  apply ite
  · intro isKind before cursor isNext continues
    rw [List.append_nil] at continues
    constructor
    · intro value next outcome
      cases outcome
      exact continues.take (by rw [isNext, isKind]; exact isWritten)
    · intro next outcome
      cases outcome
  · exact fun _ => refuse _

/-- A step that goes on after a token it expects. -/
theorem expecting {kind : TokenKind} {rest : Unit → Parse β} (isWritten : kind.isWritten = true)
    (later : Builds held (rest ()) made') :
    Builds held (Functor.discard (Parse.expect kind) >>= rest) made' :=
  after (discard (expect isWritten)) fun _ => later

/-- A step that builds a node up to a token it expects. -/
theorem closing {kind : TokenKind} {result : Token → β} {first : Node} {inner : List Node}
    {node : β → Node} (isWritten : kind.isWritten = true)
    (folds : ∀ last, Node.Folds (first :: (inner ++ [.ofToken last])) [node (result last)]) :
    Builds (first :: inner) (Parse.expect kind >>= fun last => pure (result last))
      fun value => [node value] :=
  push (expect isWritten) fun last => answer (folds last)

end BuildsFrom

/-! ## Repetition -/

variable {item : Parse α} {node : α → Node}

theorem turn_builds {closing : TokenKind} {first : Bool} {empty : α} {more : Parse α}
    {nodes : α → List Node} (none : nodes empty = []) (goesOn : Builds [] more nodes) :
    Builds [] (turn closing first empty more) nodes := by
  rw [turn]
  apply BuildsFrom.after .current
  intro token
  apply BuildsFrom.ite
  · intro _
    apply BuildsFrom.answer
    rw [none]
    exact .keep
  · exact fun _ => .ite (fun _ => goesOn) fun _ => .expecting rfl goesOn

theorem itemAnd_builds {rest : Parse (List α)} (each : Builds [] item fun value => [node value])
    (others : Builds [] rest fun values => values.map node) :
    Builds [] (itemAnd item rest) fun values => values.map node := by
  rw [itemAnd]
  apply BuildsFrom.push each
  intro value
  exact .push others fun _ => .answer .keep

theorem separated_builds (each : Builds [] item fun value => [node value]) (closing : TokenKind)
    (fuel : Nat) (first : Bool) :
    Builds [] (separated item closing fuel first) fun values => values.map node := by
  induction fuel generalizing first with
  | zero => exact .stop (by decide)
  | succ fuel ih =>
      rw [separated_succ]
      exact turn_builds rfl (itemAnd_builds each (ih false))

theorem itemAndTail_builds {rest : Parse (List α × Option α)}
    (each : Builds [] item fun value => [node value])
    (others : Builds [] rest fun found => (found.1 ++ found.2.toList).map node) :
    Builds [] (itemAndTail item rest) fun found => (found.1 ++ found.2.toList).map node := by
  rw [itemAndTail]
  apply BuildsFrom.push each
  intro value
  apply BuildsFrom.after (.at? _)
  intro atBar
  apply BuildsFrom.ite
  · intro _
    apply BuildsFrom.after (.discard .advance)
    intro _
    exact .push each fun _ => .answer .keep
  · intro _
    exact .push others fun _ => .answer .keep

theorem separatedWithTail_builds (each : Builds [] item fun value => [node value]) (fuel : Nat)
    (first : Bool) :
    Builds [] (separatedWithTail item fuel first)
      fun found => (found.1 ++ found.2.toList).map node := by
  induction fuel generalizing first with
  | zero => exact .stop (by decide)
  | succ fuel ih =>
      rw [separatedWithTail_succ]
      exact turn_builds rfl (itemAndTail_builds each (ih false))

theorem entryAnd_builds {seen : List String} {rest : List String → Parse (List (String × α))}
    (each : Builds [] item fun value => [node value])
    (others : ∀ seen, Builds [] (rest seen) fun found => (found.map (·.2)).map node) :
    Builds [] (entryAnd item seen rest) fun found => (found.map (·.2)).map node := by
  have valueAnd (key : String) :
      Builds [] (valueAnd item key (rest (key :: seen))) fun found => (found.map (·.2)).map node := by
    rw [valueAnd]
    apply BuildsFrom.push each
    intro value
    exact .push (others _) fun _ => .answer .keep
  rw [entryAnd]
  apply BuildsFrom.after (.expect rfl)
  intro key
  apply BuildsFrom.expecting rfl
  apply BuildsFrom.ite
  · exact fun _ => .after (.record _) fun _ => valueAnd _
  · exact fun _ => valueAnd _

theorem entries_builds (each : Builds [] item fun value => [node value]) (fuel : Nat)
    (seen : List String) :
    Builds [] (entries item fuel seen) fun found => (found.map (·.2)).map node := by
  induction fuel generalizing seen with
  | zero => exact .stop (by decide)
  | succ fuel ih =>
      rw [entries_succ]
      exact turn_builds rfl (entryAnd_builds each ih)

/-! ## Patterns -/

theorem literal_builds {token : Token} {read : Parse Literal} (found : literal? token = some read) :
    Builds [] read fun _ => [] := by
  rw [literal?] at found
  split at found
  all_goals cases found
  · exact .after (.numeral _) fun _ => .answer .keep
  · exact .after (.numeral _) fun _ => .answer .keep
  all_goals exact .answer .keep

theorem primaryPattern_builds {inner : Parse Pattern}
    (each : Builds [] inner fun pattern => [.ofPattern pattern]) (fuel : Nat) :
    Builds [] (primaryPattern inner fuel) fun pattern => [.ofPattern pattern] := by
  rw [primaryPattern]
  apply BuildsFrom.peek
  intro token
  split
  · rename_i kind
    apply BuildsFrom.taken (by rw [kind]; rfl)
    apply BuildsFrom.answer
    split <;> exact .leaf rfl rfl
  -- The constants.
  iterate 6
    rename_i kind
    apply BuildsFrom.taken (by rw [kind]; rfl)
    split
    · rename_i found
      exact .after (literal_builds found) fun _ => .answer (.leaf rfl rfl)
    · exact .refuse _
  · rename_i kind
    apply BuildsFrom.peek_second
    intro number
    apply BuildsFrom.ite
    · intro isNumber
      apply BuildsFrom.taken_before (by rw [kind]; rfl)
      apply BuildsFrom.taken
      · rcases (Bool.or_eq_true _ _).mp isNumber with kind | kind <;>
          rw [of_decide_eq_true kind] <;> rfl
      · split
        · rename_i found
          exact .after (literal_builds found) fun _ => .answer (.through rfl (List.nil_sublist _))
        · exact .refuse _
    · exact fun _ => .refuse _
  iterate 2
    rename_i kind
    apply BuildsFrom.taken (by rw [kind]; rfl)
    apply BuildsFrom.expecting rfl
    apply BuildsFrom.push each
    intro value
    exact .closing rfl fun _ => .enclosed rfl rfl
  · rename_i kind
    apply BuildsFrom.taken (by rw [kind]; rfl)
    apply BuildsFrom.push (separated_builds each _ _ _)
    intro elements
    exact .closing rfl fun _ => .enclosed rfl rfl
  · rename_i kind
    apply BuildsFrom.taken (by rw [kind]; rfl)
    apply BuildsFrom.push (separatedWithTail_builds each _ _)
    intro found
    exact .closing rfl fun _ => .enclosed rfl rfl
  · rename_i kind
    apply BuildsFrom.taken (by rw [kind]; rfl)
    apply BuildsFrom.push (entries_builds each _ _)
    intro found
    exact .closing rfl fun _ => .enclosed rfl rfl
  · rename_i kind
    apply BuildsFrom.taken (by rw [kind]; rfl)
    apply BuildsFrom.after (.at? _)
    intro atBrace
    apply BuildsFrom.ite
    · intro _
      apply BuildsFrom.after (.discard .advance)
      intro _
      apply BuildsFrom.push (entries_builds each _ _)
      intro found
      exact .closing rfl fun _ => .enclosed rfl rfl
    · exact fun _ => .refuse _
  · exact .refuse _

theorem pattern_builds (depth : Nat) :
    Builds [] (pattern depth) fun pattern => [.ofPattern pattern] := by
  induction depth with
  | zero => exact .stop (by decide)
  | succ depth ih =>
      rw [pattern]
      apply BuildsFrom.push (primaryPattern_builds ih depth)
      intro whole
      apply BuildsFrom.after (.at? _)
      intro named
      apply BuildsFrom.ite
      · intro _
        apply BuildsFrom.after (.discard .advance)
        intro _
        exact .closing rfl fun _ => .through rfl (List.sublist_append_left _ _)
      · exact fun _ => .answer .keep

/-! ## Expressions -/

theorem combine_builds (kind : TokenKind) (left right : Expr) :
    Builds [.ofExpr left, .ofExpr right] (combine kind left right)
      fun expr => [.ofExpr expr] := by
  simp only [combine]
  split
  · split
    · exact .answer (.pair rfl (.refl _))
    · exact .answer (.pair rfl (.refl _))
    · exact .refuse _
  all_goals exact .answer (.pair rfl (.refl _))

theorem operand_builds {inner : Nat → Parse Expr}
    (each : ∀ power, Builds [] (inner power) fun expr => [.ofExpr expr]) (fuel : Nat) :
    Builds [] (operand inner fuel) fun expr => [.ofExpr expr] := by
  rw [operand]
  apply BuildsFrom.peek
  intro token
  split
  -- A sign before an operand.
  iterate 2
    rename_i kind
    apply BuildsFrom.taken (by rw [kind]; rfl)
    exact .push (each _) fun _ => .answer (.through rfl (List.sublist_cons_self _ _))
  iterate 2
    rename_i kind
    apply BuildsFrom.taken (by rw [kind]; rfl)
    exact .after (.numeral _) fun _ => .answer (.leaf rfl rfl)
  iterate 4
    rename_i kind
    apply BuildsFrom.taken (by rw [kind]; rfl)
    exact .answer (.leaf rfl rfl)
  -- The brackets around an operand leave no trace.
  · apply BuildsFrom.anywhere
    apply BuildsFrom.after (.discard .advance)
    intro _
    apply BuildsFrom.push (each 0)
    intro value
    exact .expecting rfl (.answer .keep)
  iterate 2
    rename_i kind
    apply BuildsFrom.taken (by rw [kind]; rfl)
    apply BuildsFrom.expecting rfl
    apply BuildsFrom.push (each 0)
    intro value
    exact .closing rfl fun _ => .enclosed rfl rfl
  · rename_i kind
    apply BuildsFrom.taken (by rw [kind]; rfl)
    apply BuildsFrom.push (separated_builds (each 0) _ _ _)
    intro elements
    exact .closing rfl fun _ => .enclosed rfl rfl
  · rename_i kind
    apply BuildsFrom.taken (by rw [kind]; rfl)
    apply BuildsFrom.push (separatedWithTail_builds (each 0) _ _)
    intro found
    exact .closing rfl fun _ => .enclosed rfl rfl
  · rename_i kind
    apply BuildsFrom.taken (by rw [kind]; rfl)
    apply BuildsFrom.push (entries_builds (each 0) _ _)
    intro found
    exact .closing rfl fun _ => .enclosed rfl rfl
  · rename_i kind
    apply BuildsFrom.taken (by rw [kind]; rfl)
    apply BuildsFrom.push (each 0)
    intro condition
    apply BuildsFrom.expecting rfl
    apply BuildsFrom.push (each 0)
    intro thenBranch
    apply BuildsFrom.expecting rfl
    apply BuildsFrom.push (each 0)
    intro elseBranch
    exact .answer (.through rfl (List.sublist_cons_self _ _))
  · rename_i kind
    apply BuildsFrom.taken (by rw [kind]; rfl)
    apply BuildsFrom.expecting rfl
    apply BuildsFrom.after (separated_builds (.expect rfl) _ _ _)
    intro params
    apply BuildsFrom.expecting rfl
    apply BuildsFrom.expecting rfl
    apply BuildsFrom.push (each 0)
    intro body
    exact .answer (.through rfl (List.sublist_cons_self _ _))
  · rename_i kind
    apply BuildsFrom.taken (by rw [kind]; rfl)
    exact .answer (.leaf rfl rfl)
  · rename_i kind
    apply BuildsFrom.taken (by rw [kind]; rfl)
    apply BuildsFrom.after (.at? _)
    intro atBrace
    apply BuildsFrom.ite
    · intro _
      apply BuildsFrom.after (.discard .advance)
      intro _
      apply BuildsFrom.push (entries_builds (each 0) _ _)
      intro found
      exact .closing rfl fun _ => .enclosed rfl rfl
    · exact fun _ => .answer (.leaf rfl rfl)
  · exact .refuse _

/-- What follows an operand extends the node that has been built. -/
theorem operators_builds {inner : Nat → Parse Expr}
    (each : ∀ power, Builds [] (inner power) fun expr => [.ofExpr expr]) (power fuel : Nat)
    (left : Expr) :
    Builds [.ofExpr left] (operators inner power fuel left) fun expr => [.ofExpr expr] := by
  induction fuel generalizing left with
  | zero => exact .stop (by decide)
  | succ fuel ih =>
      rw [operators]
      apply BuildsFrom.after .current
      intro token
      split
      · apply BuildsFrom.after (.discard .advance)
        intro _
        apply BuildsFrom.push (.expect rfl)
        intro field
        exact (ih _).refold (.through rfl (List.sublist_append_left _ _))
      · apply BuildsFrom.after (.discard .advance)
        intro _
        apply BuildsFrom.push (separated_builds (each 0) _ _ _)
        intro arguments
        apply BuildsFrom.push (.expect rfl)
        intro last
        exact (ih _).refold (.through rfl (List.sublist_append_left _ _))
      · split
        · exact .answer .keep
        · apply BuildsFrom.ite
          · exact fun _ => .answer .keep
          · intro _
            apply BuildsFrom.after (.discard .advance)
            intro _
            apply BuildsFrom.push (each _)
            intro right
            exact .bind (combine_builds _ _ _) fun _ => ih _

theorem expression_builds (depth power : Nat) :
    Builds [] (expression depth power) fun expr => [.ofExpr expr] := by
  induction depth generalizing power with
  | zero => exact .stop (by decide)
  | succ depth ih =>
      rw [expression]
      exact .bind (operand_builds ih depth) fun left => operators_builds ih power depth left

/-! ## Modules -/

theorem head_builds (depth : Nat) : Builds [] (head depth) fun head => [.ofHead head] := by
  rw [head]
  apply BuildsFrom.push (.expect rfl)
  intro name
  apply BuildsFrom.expecting rfl
  apply BuildsFrom.push (separated_builds (pattern_builds depth) _ _ _)
  intro params
  apply BuildsFrom.push (.expect rfl)
  intro last
  let function : FunctionHead := ⟨name.value, params, name.span.through last.span⟩
  have folds : Node.Folds ([.ofToken name] ++ params.map .ofPattern ++ [.ofToken last])
      [.ofHead (.plain function)] := .enclosed rfl rfl
  apply BuildsFrom.refold _ folds
  apply BuildsFrom.after (.at? _)
  intro guarded
  apply BuildsFrom.ite
  · intro _
    apply BuildsFrom.after (.discard .advance)
    intro _
    apply BuildsFrom.push (expression_builds depth 0)
    intro guard
    exact .answer (.through rfl (.refl _))
  · exact fun _ => .answer .keep

theorem docComments_builds (fuel : Nat) : Builds [] (docComments fuel) fun _ => [] := by
  induction fuel with
  | zero => exact .stop (by decide)
  | succ fuel ih =>
      rw [docComments]
      apply BuildsFrom.after (.at? _)
      intro documented
      apply BuildsFrom.ite
      · intro _
        apply BuildsFrom.after .advance
        intro comment
        apply BuildsFrom.after .skipNewlines
        intro _
        exact .after ih fun _ => .answer .keep
      · exact fun _ => .answer .keep

theorem declaration_builds (depth : Nat) :
    Builds [] (declaration depth) fun found? => found?.toList.map .ofDeclaration := by
  rw [declaration]
  apply BuildsFrom.after .skipNewlines
  intro _
  apply BuildsFrom.after (docComments_builds depth)
  intro comments
  apply BuildsFrom.peek
  intro keyword
  split
  · exact .answer .keep
  iterate 2
    rename_i kind
    apply BuildsFrom.taken (by rw [kind]; rfl)
    apply BuildsFrom.push (head_builds depth)
    intro head
    apply BuildsFrom.expecting rfl
    apply BuildsFrom.push (expression_builds depth 0)
    intro body
    apply BuildsFrom.after .current
    intro next
    apply BuildsFrom.ite
    · exact fun _ => .answer (.through rfl (List.sublist_cons_self _ _))
    · exact fun _ => .refuse _
  · exact .refuse _

/-- What a declaration with an error has taken is passed over. -/
theorem recoveringDeclaration_builds (depth : Nat) :
    Builds [] (recoveringDeclaration depth)
      fun found? => found?.toList.map .ofDeclaration := by
  have skips : Builds [] (skipDeclaration *> pure none)
      fun found? : Option Declaration => found?.toList.map .ofDeclaration := by
    rw [seqRight_eq_bind]
    exact .after .skipDeclaration fun _ => .answer .keep
  intro before cursor _ continues
  have outcome := declaration_builds depth before cursor trivial continues
  rw [recoveringDeclaration]
  cases ended : declaration depth cursor with
  | ok found? next =>
      rw [ended] at outcome
      exact outcome
  | error stop next =>
      rw [ended] at outcome
      cases stop with
      | syntaxError =>
          apply skips before next trivial
          rw [List.append_nil]
          exact outcome.2 next rfl
      | unreadableNumeral => exact outcome
      | tooDeep => exact outcome

theorem declarations_builds (depth fuel : Nat) :
    Builds [] (declarations depth fuel) fun found => found.map .ofDeclaration := by
  induction fuel with
  | zero => exact .stop (by decide)
  | succ fuel ih =>
      rw [declarations]
      apply BuildsFrom.after (.at? _)
      intro finished
      apply BuildsFrom.ite
      · exact fun _ => .answer .keep
      · intro _
        apply BuildsFrom.push (recoveringDeclaration_builds depth)
        intro found?
        apply BuildsFrom.after .skipNewlines
        intro _
        apply BuildsFrom.push ih
        intro others
        apply BuildsFrom.answer
        rw [List.map_append]
        exact .keep

/-- Reading declarations ends at the mark. -/
theorem declarations_atEnd {depth fuel : Nat} {cursor next : Cursor} {found : List Declaration}
    (outcome : declarations depth fuel cursor = .ok found next) :
    next.next.kind = .endOfText := by
  induction fuel generalizing cursor found with
  | zero => cases outcome
  | succ fuel ih =>
      rw [declarations] at outcome
      rcases bind_eq_ok.mp outcome with ⟨finished, middle, looked, outcome⟩
      cases looked
      split at outcome
      · rename_i isEnd
        cases outcome
        exact of_decide_eq_true isEnd
      · rcases bind_eq_ok.mp outcome with ⟨found?, middle', recovered, outcome⟩
        rcases bind_eq_ok.mp outcome with ⟨_, middle'', skipped, outcome⟩
        rcases bind_eq_ok.mp outcome with ⟨rest, last, others, outcome⟩
        cases outcome
        exact ih others

theorem wholeModule_wellNested {limit : Nat} {cursor next : Cursor} {module : Module}
    (continues : cursor.Continues []) (outcome : wholeModule limit cursor = .ok module next) :
    (Node.ofModule module).WellNested := by
  rw [wholeModule] at outcome
  rcases bind_eq_ok.mp outcome with ⟨_, middle, skipped, outcome⟩
  rcases bind_eq_ok.mp outcome with ⟨found, last, declared, outcome⟩
  rcases bind_eq_ok.mp outcome with ⟨mark, _, looked, outcome⟩
  cases looked
  cases outcome
  have started := (BuildsFrom.skipNewlines [] cursor trivial continues).1 _ _ skipped
  have built := (declarations_builds limit limit [] middle trivial started).1 _ _ declared
  have atEnd : next.next = next.finish := built.next_eq (declarations_atEnd declared)
  have same : next.extent = ⟨next.next.span.file, 1, 1, next.next.span.endLine,
      next.next.span.endColumn⟩ := by
    rw [atEnd, Cursor.extent]
  apply Node.WellNested.of_row
  · have ordered := built.ordered
    rw [same] at ordered
    exact ordered
  · have row := built.row.sublist (List.sublist_append_left _ _)
    rw [same] at row
    exact row

theorem wholeExpression_wellNested {limit : Nat} {cursor next : Cursor} {expr : Expr}
    (continues : cursor.Continues []) (outcome : wholeExpression limit cursor = .ok expr next) :
    (Node.ofExpr expr).WellNested := by
  rw [wholeExpression] at outcome
  rcases bind_eq_ok.mp outcome with ⟨_, start, skipped, outcome⟩
  rcases bind_eq_ok.mp outcome with ⟨found, middle, read, outcome⟩
  have started := (BuildsFrom.skipNewlines [] cursor trivial continues).1 _ _ skipped
  have built := (expression_builds limit 0 [] start trivial started).1 _ _ read
  rcases bind_eq_ok.mp outcome with ⟨_, later, _, outcome⟩
  rcases bind_eq_ok.mp outcome with ⟨_, last, _, outcome⟩
  have same : found = expr := by
    split at outcome
    · rcases bind_eq_ok.mp outcome with ⟨_, _, _, outcome⟩
      cases outcome
      rfl
    · cases outcome
      rfl
  exact same ▸ built.row.nested _ (by simp)

end Parse

/-! ## Texts -/

/-- The lexemes of a text are a row. -/
theorem Cursor.continues_ofStream {file text : String} {stream : TokenStream}
    (streamed : TokenStream.ofText file text = .ok stream) :
    (Cursor.ofStream stream).Continues [] := by
  rcases TokenStream.exists_written streamed with ⟨segments, whole, areCut, finish, written⟩
  have ahead : (Cursor.ofStream stream).ahead =
      (Segment.tokens file [] segments).map .ofToken :=
    congrArg (List.map Node.ofToken) written
  have ends : (Cursor.ofStream stream).extent.last =
      ⟨(Position.behind text.toList).line, (Position.behind text.toList).previousColumn⟩ := by
    rw [Cursor.extent, Cursor.ofStream, finish]
    rfl
  constructor
  · rw [List.nil_append, ahead]
    constructor
    · intro node inside
      rcases List.mem_map.mp inside with ⟨token, member, rfl⟩
      exact Node.wellNested_ofToken (Segment.first_le_last areCut member)
    · intro node inside
      rcases List.mem_map.mp inside with ⟨token, member, rfl⟩
      constructor
      · exact Segment.behind_le_first areCut member
      · have earlier := Segment.last_lt_behind areCut member
        rw [List.nil_append, whole] at earlier
        rw [ends]
        exact Position.le_previous earlier
    · exact List.pairwise_map.mpr (Segment.tokens_pairwise areCut)
  · exact TokenStream.ofText_isSealed streamed
  · rw [ends]
    exact Position.first_le_previous _

namespace Module

variable {file text : String} {module : Module}

/-- A module that has been read is well nested. -/
theorem wellNested_of_read (read : Module.read file text = .ok module) :
    (Node.ofModule module).WellNested := by
  rw [Module.read] at read
  cases streamed : TokenStream.read file text with
  | error rejection =>
      rw [streamed] at read
      cases read
  | ok stream =>
      rw [streamed] at read
      have continues := Cursor.continues_ofStream (TokenStream.ofText_of_read streamed)
      simp only [Bind.bind, Except.bind, Parse.run] at read
      split at read
      · rename_i answer cursor outcome
        split at read
        · cases read
          exact Parse.wholeModule_wellNested continues outcome
        · cases read
      all_goals cases read

/-- A declaration with a guard and with brackets around an operand, on two lines. -/
theorem wellNested_of_read_guarded :
    ∃ module, Module.read "m.pipe" "def f([n | _]) when n > 0 ->\n  (n + 1) |> g\n" = .ok module ∧
      module.declarations.length = 1 ∧ (Node.ofModule module).WellNested := by
  have found : (Module.read "m.pipe" "def f([n | _]) when n > 0 ->\n  (n + 1) |> g\n").toOption.any
      (fun module => decide (module.declarations.length = 1)) = true := by
    decide +kernel
  rcases exists_of_any_read found with ⟨module, read, single⟩
  exact ⟨module, read, of_decide_eq_true single, wellNested_of_read read⟩

end Module

/-- An expression that has been read is well nested. -/
theorem Node.wellNested_ofExpr {file text : String} {expr : Expr}
    (read : Expr.read file text = .ok expr) : (Node.ofExpr expr).WellNested := by
  rcases Expr.exists_run_of_read read with ⟨stream, streamed, outcome⟩
  rcases Parse.exists_of_run outcome with ⟨cursor, stepped, _⟩
  exact Parse.wholeExpression_wellNested (Cursor.continues_ofStream streamed) stepped

end ClauseFlow
