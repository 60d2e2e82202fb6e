import ClauseFlow.Token.Piece

/-!
# Layout

A declaration starts in the first column. A line break becomes a `newline` token when the next
significant line starts in the first column again, no bracket is open, and the token before the
break does not expect more. The break stays pending over blank lines and over lines that hold
nothing but a comment.
-/

namespace ClauseFlow

namespace Layout

/-- Where the layout of a text stands: how many brackets are open, the kind of the last token, the
place of the line break that may end a declaration, and, at the start of a line, the blanks read so
far on it. -/
structure State where
  depth : Nat
  last? : Option TokenKind
  pending? : Option Position
  indent? : Option (List Char)

def State.initial : State :=
  ⟨0, none, none, some []⟩

/-- What the first lexeme of a line does with a pending line break. -/
inductive Decision where
  | keep
  | emit
  | discard
  deriving DecidableEq

/-- A lexeme in the first column ends the declaration before it, an indented one continues it.
A carriage return among the blanks leaves the question open. -/
def State.decision (state : State) : Decision :=
  match state.indent? with
  | none => .keep
  | some blanks =>
      if state.depth ≠ 0 then .keep
      else if blanks.any (· ≠ ' ') then .keep
      else if blanks.isEmpty then .emit
      else .discard

/-- Whether a line break may end a declaration here. -/
def State.mayEnd (state : State) : Bool :=
  state.depth = 0 &&
    match state.last? with
    | none => false
    | some kind => !kind.expectsMore

/-- The `newline` token for a pending line break that is found to end a declaration at `stop`. -/
def newlineToken (file : String) (pending stop : Position) : Token :=
  ⟨.newline, "\n", pending.upTo file stop⟩

/-- The tokens of a sequence of pieces; `stop` is the end of the text. -/
def tokens (file : String) (stop : Position) : State → List Piece → List Token
  | state, [] =>
      match state.pending? with
      | some pending => [newlineToken file pending stop]
      | none => []
  | state, piece :: rest =>
      match piece.kind with
      | .gap =>
          tokens file stop { state with indent? := state.indent?.map fun _ => piece.text } rest
      | .lineFeed =>
          let pending? :=
            if state.mayEnd then state.pending?.or (some piece.start) else state.pending?
          tokens file stop { state with pending?, indent? := some [] } rest
      | .comment | .broken => tokens file stop { state with indent? := none } rest
      | .lexeme kind value =>
          let token : Token := ⟨kind, value, piece.start.upTo file piece.stop⟩
          let next : State :=
            { depth := kind.depthAfter state.depth
              last? := some kind
              pending? := if state.decision = .keep then state.pending? else none
              indent? := none }
          let before :=
            match state.decision, state.pending? with
            | .emit, some pending => [newlineToken file pending piece.start]
            | _, _ => []
          before ++ token :: tokens file stop next rest

/-- The number of brackets that a sequence of pieces leaves open. -/
def openBrackets (pieces : List Piece) : Nat :=
  pieces.foldl (fun depth piece =>
    match piece.kind with
    | .lexeme kind _ => kind.depthAfter depth
    | _ => depth) 0

end Layout

/-- The tokens of a text, and the mark at its end. -/
structure TokenStream where
  tokens : List Token
  finish : Token
  deriving DecidableEq, Repr

namespace TokenStream

/-- The end of a text. -/
def finishAt (file : String) (stop : Position) : Token :=
  ⟨.endOfText, "", stop.upTo file stop⟩

/-- The faults of a text: those of its pieces and a bracket that is never closed. -/
def faults (stop : Position) (pieces : List Piece) : List LexicalFault :=
  pieces.flatMap (·.faults) ++
    if 0 < Layout.openBrackets pieces then [(.unclosedBracket, stop)] else []

/-- The tokens of a text, or the diagnostics of all its faults. -/
def ofText (file text : String) : Except (List Diagnostic) TokenStream :=
  let content := text.toList
  let pieces := Piece.split content
  let stop := Position.first.after content
  match faults stop pieces with
  | [] => .ok ⟨Layout.tokens file stop .initial pieces, finishAt file stop⟩
  | found => .error (found.map fun fault => fault.1.diagnostic file fault.2)

/-- All tokens with the mark at the end. -/
def all (stream : TokenStream) : List Token :=
  stream.tokens ++ [stream.finish]

end TokenStream
end ClauseFlow
