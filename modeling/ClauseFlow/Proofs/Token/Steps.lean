import ClauseFlow.Proofs.Token.Segments

/-!
# The layout of a text, step by step

Each piece of a text takes the layout from one state to the next and gives the tokens that are known
by then. Places have no part in this: what counts of a state is whether a line break is pending, and
not where.
-/

namespace ClauseFlow.Layout

namespace State

/-- The state behind a piece. -/
def next (state : State) (piece : Piece) : State :=
  match piece.kind with
  | .gap => { state with indent? := state.indent?.map fun _ => piece.text }
  | .lineFeed =>
      { state with
        pending? :=
          if state.mayEnd then state.pending?.or (some piece.start) else state.pending?
        indent? := some [] }
  | .comment | .broken => { state with indent? := none }
  | .lexeme kind _ =>
      { depth := kind.depthAfter state.depth
        last? := some kind
        pending? := if state.decision = .keep then state.pending? else none
        indent? := none }

/-- The `newline` token that a lexeme brings up, if there is one. -/
def marks (file : String) (state : State) (start : Position) : List Token :=
  match state.decision, state.pending? with
  | .emit, some pending => [newlineToken file pending start]
  | _, _ => []

/-- The tokens that are known once a piece is read. -/
def emits (file : String) (state : State) (piece : Piece) : List Token :=
  match piece.kind with
  | .lexeme kind value =>
      state.marks file piece.start ++ [⟨kind, value, piece.start.upTo file piece.stop⟩]
  | _ => []

/-- The `newline` token at the end of a text, if there is one. -/
def closing (file : String) (stop : Position) (state : State) : List Token :=
  match state.pending? with
  | some pending => [newlineToken file pending stop]
  | none => []

/-- The state behind pieces. -/
def run (state : State) (pieces : List Piece) : State :=
  pieces.foldl next state

/-- The tokens that are known once pieces are read. -/
def emitted (file : String) : State → List Piece → List Token
  | _, [] => []
  | state, piece :: pieces => state.emits file piece ++ emitted file (state.next piece) pieces

@[simp]
theorem run_nil (state : State) : state.run [] = state :=
  rfl

@[simp]
theorem run_cons (state : State) (piece : Piece) (pieces : List Piece) :
    state.run (piece :: pieces) = (state.next piece).run pieces :=
  rfl

theorem run_append (state : State) (pieces pieces' : List Piece) :
    state.run (pieces ++ pieces') = (state.run pieces).run pieces' :=
  List.foldl_append

theorem emitted_append (file : String) (state : State) (pieces pieces' : List Piece) :
    state.emitted file (pieces ++ pieces') =
      state.emitted file pieces ++ (state.run pieces).emitted file pieces' := by
  induction pieces generalizing state with
  | nil => rfl
  | cons piece pieces ih =>
      rw [List.cons_append, emitted, ih, emitted, run_cons, List.append_assoc]

end State

theorem tokens_cons (file : String) (stop : Position) (state : State) (piece : Piece)
    (pieces : List Piece) :
    tokens file stop state (piece :: pieces) =
      state.emits file piece ++ tokens file stop (state.next piece) pieces := by
  obtain ⟨kind, text, start, faults⟩ := piece
  cases kind with
  | lexeme kind value =>
      simp only [tokens, State.emits, State.next, List.append_assoc]
      rfl
  | gap | lineFeed | comment | broken => rfl

theorem tokens_eq (file : String) (stop : Position) (state : State) (pieces : List Piece) :
    tokens file stop state pieces =
      state.emitted file pieces ++ (state.run pieces).closing file stop := by
  induction pieces generalizing state with
  | nil => rfl
  | cons piece pieces ih =>
      rw [tokens_cons, ih, State.emitted, State.run_cons, List.append_assoc]

/-- The layout goes on with the state that the pieces before have left. -/
theorem tokens_append (file : String) (stop : Position) (state : State)
    (pieces pieces' : List Piece) :
    tokens file stop state (pieces ++ pieces') =
      state.emitted file pieces ++ tokens file stop (state.run pieces) pieces' := by
  rw [tokens_eq, tokens_eq, State.emitted_append, State.run_append, List.append_assoc]

/-! ## States that differ in places only -/

namespace State

theorem lexemes_marks (file : String) (state : State) (start : Position) :
    (state.marks file start).map Token.lexeme =
      if state.decision = .emit && state.pending?.isSome then [⟨.newline, "\n"⟩] else [] := by
  rw [marks]
  cases state.decision <;> cases state.pending? <;> rfl

theorem lexemes_closing (file : String) (stop : Position) (state : State) :
    (state.closing file stop).map Token.lexeme =
      if state.pending?.isSome then [⟨.newline, "\n"⟩] else [] := by
  rw [closing]
  cases state.pending? <;> rfl

/-- Whether two states are the same but for the place of the pending line break. -/
structure Alike (state state' : State) : Prop where
  depth : state.depth = state'.depth
  last : state.last? = state'.last?
  pending : state.pending?.isSome = state'.pending?.isSome
  indent : state.indent? = state'.indent?

theorem mayEnd_congr {state state' : State} (depth : state.depth = state'.depth)
    (last : state.last? = state'.last?) : state.mayEnd = state'.mayEnd := by
  rw [mayEnd, mayEnd, depth, last]

theorem decision_congr {state state' : State} (depth : state.depth = state'.depth)
    (indent : state.indent? = state'.indent?) : state.decision = state'.decision := by
  rw [decision.eq_def, decision.eq_def, depth, indent]

namespace Alike

variable {state state' : State}

theorem refl (state : State) : state.Alike state :=
  ⟨rfl, rfl, rfl, rfl⟩

theorem next (alike : state.Alike state') (segment : Segment) (place place' : Position) :
    (state.next (segment.pieceAt place)).Alike (state'.next (segment.pieceAt place')) := by
  rcases alike with ⟨depth, last, pending, indent⟩
  obtain ⟨kind, text⟩ := segment
  cases kind with
  | gap => exact ⟨depth, last, pending, congrArg (Option.map _) indent⟩
  | lineFeed =>
      refine ⟨depth, last, ?_, rfl⟩
      simp only [State.next, Segment.pieceAt, mayEnd_congr depth last]
      split
      · simp
      · exact pending
  | comment | broken => exact ⟨depth, last, pending, rfl⟩
  | lexeme kind value =>
      refine ⟨congrArg kind.depthAfter depth, rfl, ?_, rfl⟩
      simp only [State.next, Segment.pieceAt, decision_congr depth indent]
      split
      · exact pending
      · rfl

theorem lexemes_emits (alike : state.Alike state') (segment : Segment) (place place' : Position)
    (file : String) :
    (state.emits file (segment.pieceAt place)).map Token.lexeme =
      (state'.emits file (segment.pieceAt place')).map Token.lexeme := by
  obtain ⟨kind, text⟩ := segment
  cases kind with
  | lexeme kind value =>
      simp only [emits, Segment.pieceAt, List.map_append, lexemes_marks, alike.pending,
        decision_congr alike.depth alike.indent]
      rfl
  | gap | lineFeed | comment | broken => rfl

/-- The same segments give the same lexemes anywhere. -/
theorem lexemes_tokens (alike : state.Alike state') (file : String) (stop stop' : Position)
    (segments : List Segment) (place place' : Position) :
    (tokens file stop state (Segment.pieces place segments)).map Token.lexeme =
      (tokens file stop' state' (Segment.pieces place' segments)).map Token.lexeme := by
  induction segments generalizing state state' place place' with
  | nil =>
      rw [Segment.pieces, Segment.pieces, tokens_eq, tokens_eq]
      simp only [emitted, List.nil_append, run_nil]
      rw [lexemes_closing, lexemes_closing, alike.pending]
  | cons segment segments ih =>
      rw [Segment.pieces, Segment.pieces, tokens_cons, tokens_cons, List.map_append,
        List.map_append]
      congr 1
      · exact alike.lexemes_emits segment place place' file
      · exact ih (alike.next segment place place') _ _

end Alike
end State
end ClauseFlow.Layout
