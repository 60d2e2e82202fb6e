import ClauseFlow.Proofs.Parse.Recovery
import ClauseFlow.Proofs.Parse.Rows

/-!
# Reading stays on its line

A declaration is read from the tokens up to the next `newline` token: what comes after that token,
the errors recorded before, and the fuel have no influence on what is read, on the errors found, or
on how many tokens are taken. Two readings of the same line in different surroundings are compared
step by step. Since the fuel may differ, one of them may run out of it where the other one does not.
-/

namespace ClauseFlow

/-- Whether a token ends a line: a `newline` token or the mark at the end. -/
def Token.EndsLine (token : Token) : Prop :=
  token.kind = .newline ∨ token.kind = .endOfText

theorem Token.not_endsLine {token : Token} {kind : TokenKind} (isKind : token.kind = kind)
    (inLine : kind ≠ .newline ∧ kind ≠ .endOfText) : ¬token.EndsLine := by
  rw [EndsLine, isKind]
  exact not_or.mpr inLine

/-- What surrounds a line: the errors recorded before it, the tokens after it, and the mark after
those. -/
structure Surroundings where
  before : List SyntaxError
  after : List Token
  finish : Token

namespace Surroundings

/-- The token that ends the line. -/
def seam (around : Surroundings) : Token :=
  around.after.headD around.finish

/-- Where a reading stands that has the rest of a line before it and has found some errors on it. -/
def cursor (around : Surroundings) (line : List Token) (found : List SyntaxError) : Cursor :=
  ⟨line ++ around.after, around.finish, around.before ++ found⟩

/-- Whether a line ends with the same token in both surroundings. -/
structure Meets (around other : Surroundings) : Prop where
  same : other.seam = around.seam
  ends : around.seam.EndsLine

theorem headD_append (around : Surroundings) (line : List Token) :
    (line ++ around.after).headD around.finish = line.headD around.seam := by
  cases line <;> rfl

end Surroundings

namespace Parse

variable {α β : Type}

/-- Whether two readings of a line end alike: with the same answer or the same stop, the same rest
of the line and the same errors found on it; or one of them is out of fuel. -/
inductive Agrees (around other : Surroundings) :
    EStateM.Result Stop Cursor α → EStateM.Result Stop Cursor α → Prop where
  | answered (value : α) (line : List Token) (found : List SyntaxError)
      (plain : ∀ token ∈ line, ¬token.EndsLine) :
      Agrees around other (.ok value (around.cursor line found))
        (.ok value (other.cursor line found))
  | stopped (stop : Stop) (line : List Token) (found : List SyntaxError)
      (plain : ∀ token ∈ line, ¬token.EndsLine) :
      Agrees around other (.error stop (around.cursor line found))
        (.error stop (other.cursor line found))
  | tooDeepHere (next : Cursor) (outcome : EStateM.Result Stop Cursor α) :
      Agrees around other (.error .tooDeep next) outcome
  | tooDeepThere (next : Cursor) (outcome : EStateM.Result Stop Cursor α) :
      Agrees around other outcome (.error .tooDeep next)

/-- Whether two steps read a line alike whatever surrounds it, if the next token is ready for
them. -/
def MirrorsFrom (ready : Token → Prop) (step step' : Parse α) : Prop :=
  ∀ (around other : Surroundings), around.Meets other →
    ∀ (line : List Token) (found : List SyntaxError), (∀ token ∈ line, ¬token.EndsLine) →
      ready (line.headD around.seam) →
        Agrees around other (step (around.cursor line found)) (step' (other.cursor line found))

/-- Whether two steps read a line alike, whichever token comes next. -/
abbrev Mirrors (step step' : Parse α) : Prop :=
  MirrorsFrom (fun _ => True) step step'

namespace MirrorsFrom

variable {ready : Token → Prop} {step step' : Parse α} {rest rest' : α → Parse β}

theorem answer (value : α) : MirrorsFrom ready (pure value) (pure value) :=
  fun _ _ _ line found plain _ => .answered value line found plain

theorem stop (stop : Stop) : MirrorsFrom ready (throw stop : Parse α) (throw stop) :=
  fun _ _ _ line found plain _ => .stopped stop line found plain

theorem tooDeepHere : MirrorsFrom ready (throw .tooDeep) step' :=
  fun _ _ _ _ _ _ _ => .tooDeepHere _ _

theorem tooDeepThere : MirrorsFrom ready step (throw .tooDeep) :=
  fun _ _ _ _ _ _ _ => .tooDeepThere _ _

theorem mono {wider : Token → Prop} (mirrors : MirrorsFrom wider step step')
    (implies : ∀ token, ready token → wider token) : MirrorsFrom ready step step' :=
  fun around other meets line found plain isReady =>
    mirrors around other meets line found plain (implies _ isReady)

/-- What holds whichever token comes next holds from some tokens on. -/
theorem anywhere (mirrors : Mirrors step step') : MirrorsFrom ready step step' :=
  mirrors.mono fun _ _ => trivial

/-- Steps one after the other. -/
theorem bind (mirrors : MirrorsFrom ready step step')
    (later : ∀ value, Mirrors (rest value) (rest' value)) :
    MirrorsFrom ready (step >>= rest) (step' >>= rest') := by
  intro around other meets line found plain isReady
  have outcomes := mirrors around other meets line found plain isReady
  cases here : step (around.cursor line found) with
  | ok value next =>
      rw [here] at outcomes
      cases there : step' (other.cursor line found) with
      | ok value' next' =>
          rw [there] at outcomes
          simp only [Bind.bind, EStateM.bind, here, there]
          cases outcomes with
          | answered _ left found' plain' =>
              exact later value around other meets left found' plain' trivial
      | error stop next' =>
          rw [there] at outcomes
          simp only [Bind.bind, EStateM.bind, there]
          cases outcomes with
          | tooDeepThere => exact .tooDeepThere _ _
  | error stop next =>
      rw [here] at outcomes
      simp only [Bind.bind, EStateM.bind, here]
      cases there : step' (other.cursor line found) with
      | ok value' next' =>
          rw [there] at outcomes
          cases outcomes with
          | tooDeepHere => exact .tooDeepHere _ _
      | error stop' next' =>
          rw [there] at outcomes
          cases outcomes with
          | stopped _ left found' plain' => exact .stopped stop left found' plain'
          | tooDeepHere => exact .tooDeepHere _ _
          | tooDeepThere => exact .tooDeepThere _ _

theorem discard (mirrors : MirrorsFrom ready step step') :
    MirrorsFrom ready (discard step) (discard step') := by
  simp only [Functor.discard, LawfulFunctor.map_const, Function.comp_apply, ← bind_pure_comp]
  exact bind mirrors fun _ => answer _

theorem ite {accepted : Prop} [Decidable accepted] {instead instead' : Parse α}
    (first : accepted → MirrorsFrom ready step step')
    (second : ¬accepted → MirrorsFrom ready instead instead') :
    MirrorsFrom ready (if accepted then step else instead)
      (if accepted then step' else instead') := by
  split
  · rename_i holds
    exact first holds
  · rename_i fails
    exact second fails

/-! ## Single tokens -/

/-- Two steps that look at the next token first. -/
theorem current {rest rest' : Token → Parse β}
    (later : ∀ token, MirrorsFrom (· = token) (rest token) (rest' token)) :
    MirrorsFrom ready (current >>= rest) (current >>= rest') := by
  intro around other meets line found plain _
  have looks (around : Surroundings) (rest : Token → Parse β) :
      (Parse.current >>= rest) (around.cursor line found) =
        rest (line.headD around.seam) (around.cursor line found) := by
    rw [← around.headD_append]
    rfl
  rw [looks, looks, meets.same]
  exact later _ around other meets line found plain rfl

/-- Two steps that ask for the kind of the next token first. -/
theorem at? {kind : TokenKind} {rest rest' : Bool → Parse β}
    (here : MirrorsFrom (·.kind = kind) (rest true) (rest' true))
    (elsewhere : Mirrors (rest false) (rest' false)) :
    MirrorsFrom ready (Parse.at? kind >>= rest) (Parse.at? kind >>= rest') := by
  have looks (rest : Bool → Parse β) :
      Parse.at? kind >>= rest =
        Parse.current >>= fun token => rest (decide (token.kind = kind)) := rfl
  rw [looks, looks]
  apply current
  intro token
  by_cases same : token.kind = kind
  · rw [decide_eq_true same]
    exact here.mono fun _ next => next ▸ same
  · rw [decide_eq_false same]
    exact elsewhere.anywhere

/-- Only a token of the line is taken. -/
theorem advance (inLine : ∀ token, ready token → ¬token.EndsLine) :
    MirrorsFrom ready Parse.advance Parse.advance := by
  intro around other meets line found plain isReady
  cases line with
  | nil => exact absurd meets.ends (inLine _ isReady)
  | cons token line =>
      exact .answered token line found fun other member => plain other (.tail _ member)

theorem record (error : SyntaxError) : MirrorsFrom ready (record error) (record error) := by
  intro around other _ line found plain _
  have agrees : Agrees around other (.ok () (around.cursor line (found ++ [error])))
      (.ok () (other.cursor line (found ++ [error]))) :=
    .answered () line _ plain
  simp only [Surroundings.cursor, ← List.append_assoc] at agrees
  exact agrees

theorem refuse (error : SyntaxError) :
    MirrorsFrom ready (fail error : Parse α) (fail error) :=
  bind (record error) fun _ => stop _

/-- A step that goes on after a token it is certain of. -/
theorem taken {token : Token} {kind : TokenKind} {rest rest' : Unit → Parse β}
    (isKind : token.kind = kind) (inLine : kind ≠ .newline ∧ kind ≠ .endOfText)
    (later : Mirrors (rest ()) (rest' ())) :
    MirrorsFrom (· = token) (Functor.discard Parse.advance >>= rest)
      (Functor.discard Parse.advance >>= rest') :=
  bind (discard (advance fun _ same => same ▸ Token.not_endsLine isKind inLine)) fun _ => later

/-- A step that goes on after a token whose kind it is certain of. -/
theorem takenKind {kind : TokenKind} {rest rest' : Unit → Parse β}
    (inLine : kind ≠ .newline ∧ kind ≠ .endOfText) (later : Mirrors (rest ()) (rest' ())) :
    MirrorsFrom (·.kind = kind) (Functor.discard Parse.advance >>= rest)
      (Functor.discard Parse.advance >>= rest') :=
  bind (discard (advance fun _ isKind => Token.not_endsLine isKind inLine)) fun _ => later

theorem expect {kind : TokenKind} (inLine : kind ≠ .newline ∧ kind ≠ .endOfText) :
    MirrorsFrom ready (expect kind) (expect kind) := by
  rw [Parse.expect]
  apply current
  intro token
  apply ite
  · intro isKind
    exact advance fun _ same => same ▸ Token.not_endsLine isKind inLine
  · exact fun _ => refuse _

/-- A step that goes on after a token it expects. -/
theorem expecting {kind : TokenKind} {rest rest' : Unit → Parse β}
    (inLine : kind ≠ .newline ∧ kind ≠ .endOfText) (later : Mirrors (rest ()) (rest' ())) :
    MirrorsFrom ready (Functor.discard (Parse.expect kind) >>= rest)
      (Functor.discard (Parse.expect kind) >>= rest') :=
  bind (discard (expect inLine)) fun _ => later

/-- A step that answers after a token it expects. -/
theorem closing {kind : TokenKind} {result : Token → β}
    (inLine : kind ≠ .newline ∧ kind ≠ .endOfText) :
    MirrorsFrom ready (Parse.expect kind >>= fun last => pure (result last))
      (Parse.expect kind >>= fun last => pure (result last)) :=
  bind (expect inLine) fun _ => answer _

/-- Two steps that look at the token behind a mark first; if they take that one, too, it does not
end the line. -/
theorem following {mark : Token} {accepted : Token → Prop} [DecidablePred accepted]
    {rest rest' : Token → Parse β} (error : SyntaxError) (markInLine : ¬mark.EndsLine)
    (inLine : ∀ token, accepted token → ¬token.EndsLine)
    (later : ∀ token, accepted token → Mirrors (rest token) (rest' token)) :
    MirrorsFrom (· = mark)
      (Parse.following >>= fun token =>
        if accepted token then
          Functor.discard Parse.advance >>= fun _ =>
            Functor.discard Parse.advance >>= fun _ => rest token
        else fail error)
      (Parse.following >>= fun token =>
        if accepted token then
          Functor.discard Parse.advance >>= fun _ =>
            Functor.discard Parse.advance >>= fun _ => rest' token
        else fail error) := by
  intro around other meets line found plain isMark
  cases line with
  | nil => exact absurd (isMark ▸ meets.ends) markInLine
  | cons token line =>
      have looks (around : Surroundings) (rest : Token → Parse β) :
          (Parse.following >>= rest) (around.cursor (token :: line) found) =
            rest (line.headD around.seam) (around.cursor (token :: line) found) := by
        rw [← around.headD_append]
        rfl
      rw [looks, looks, meets.same]
      by_cases accepts : accepted (line.headD around.seam)
      · rw [if_pos accepts, if_pos accepts]
        cases line with
        | nil => exact absurd meets.ends (inLine _ accepts)
        | cons number line =>
            have plain' : ∀ token ∈ line, ¬token.EndsLine :=
              fun other member => plain other (.tail _ (.tail _ member))
            exact later number accepts around other meets line found plain' trivial
      · rw [if_neg accepts, if_neg accepts]
        have refuses : Mirrors (fail error : Parse β) (fail error) := refuse error
        exact refuses around other meets (token :: line) found plain trivial

theorem integerOf (token : Token) : MirrorsFrom ready (integerOf token) (integerOf token) := by
  rw [Parse.integerOf]
  cases (Numeral.readInteger? token.value).map Int.toNat with
  | none => exact stop _
  | some value => exact answer _

theorem decimalOf (token : Token) : MirrorsFrom ready (decimalOf token) (decimalOf token) := by
  rw [Parse.decimalOf]
  cases Numeral.readDecimal? token.value with
  | none => exact stop _
  | some value => exact answer _

end MirrorsFrom

/-! ## Repetition -/

variable {item item' : Parse α}

theorem turn_mirrors {closing : TokenKind} {first : Bool} {empty : α} {more more' : Parse α}
    (goesOn : Mirrors more more') :
    Mirrors (turn closing first empty more) (turn closing first empty more') := by
  rw [turn, turn]
  apply MirrorsFrom.current
  intro token
  apply MirrorsFrom.anywhere
  apply MirrorsFrom.ite
  · exact fun _ => .answer _
  · exact fun _ => .ite (fun _ => goesOn) fun _ => .expecting (by decide) goesOn

theorem itemAnd_mirrors {rest rest' : Parse (List α)} (each : Mirrors item item')
    (others : Mirrors rest rest') : Mirrors (itemAnd item rest) (itemAnd item' rest') :=
  each.bind fun _ => others.bind fun _ => .answer _

theorem separated_mirrors (each : Mirrors item item') (closing : TokenKind) (fuel fuel' : Nat)
    (first : Bool) :
    Mirrors (separated item closing fuel first) (separated item' closing fuel' first) := by
  induction fuel generalizing fuel' first with
  | zero => exact .tooDeepHere
  | succ fuel ih =>
      cases fuel' with
      | zero => exact .tooDeepThere
      | succ fuel' =>
          rw [separated_succ, separated_succ]
          exact turn_mirrors (itemAnd_mirrors each (ih fuel' false))

theorem itemAndTail_mirrors {rest rest' : Parse (List α × Option α)} (each : Mirrors item item')
    (others : Mirrors rest rest') : Mirrors (itemAndTail item rest) (itemAndTail item' rest') := by
  rw [itemAndTail, itemAndTail]
  apply each.bind
  intro value
  apply MirrorsFrom.at?
  · exact .takenKind (by decide) (each.bind fun tail => .answer _)
  · exact others.bind fun rest => .answer _

theorem separatedWithTail_mirrors (each : Mirrors item item') (fuel fuel' : Nat) (first : Bool) :
    Mirrors (separatedWithTail item fuel first) (separatedWithTail item' fuel' first) := by
  induction fuel generalizing fuel' first with
  | zero => exact .tooDeepHere
  | succ fuel ih =>
      cases fuel' with
      | zero => exact .tooDeepThere
      | succ fuel' =>
          rw [separatedWithTail_succ, separatedWithTail_succ]
          exact turn_mirrors (itemAndTail_mirrors each (ih fuel' false))

theorem entryAnd_mirrors {seen : List String}
    {rest rest' : List String → Parse (List (String × α))} (each : Mirrors item item')
    (others : ∀ seen, Mirrors (rest seen) (rest' seen)) :
    Mirrors (entryAnd item seen rest) (entryAnd item' seen rest') := by
  have valueAnd (key : String) :
      Mirrors (valueAnd item key (rest (key :: seen))) (valueAnd item' key (rest' (key :: seen))) :=
    each.bind fun _ => (others _).bind fun _ => .answer _
  rw [entryAnd, entryAnd]
  apply (MirrorsFrom.expect (by decide)).bind
  intro key
  apply MirrorsFrom.expecting (by decide)
  apply MirrorsFrom.ite
  · exact fun _ => (MirrorsFrom.record _).bind fun _ => valueAnd _
  · exact fun _ => valueAnd _

theorem entries_mirrors (each : Mirrors item item') (fuel fuel' : Nat) (seen : List String) :
    Mirrors (entries item fuel seen) (entries item' fuel' seen) := by
  induction fuel generalizing fuel' seen with
  | zero => exact .tooDeepHere
  | succ fuel ih =>
      cases fuel' with
      | zero => exact .tooDeepThere
      | succ fuel' =>
          rw [entries_succ, entries_succ]
          exact turn_mirrors (entryAnd_mirrors each (ih fuel'))

/-! ## Patterns -/

theorem literal_mirrors {token : Token} {read : Parse Literal}
    (found : literal? token = some read) : Mirrors read read := by
  rw [literal?] at found
  split at found
  all_goals cases found
  · exact (MirrorsFrom.integerOf token).bind fun _ => .answer _
  · exact (MirrorsFrom.decimalOf token).bind fun _ => .answer _
  all_goals exact .answer _

theorem primaryPattern_mirrors {inner inner' : Parse Pattern} (each : Mirrors inner inner')
    (fuel fuel' : Nat) : Mirrors (primaryPattern inner fuel) (primaryPattern inner' fuel') := by
  rw [primaryPattern, primaryPattern]
  apply MirrorsFrom.current
  intro token
  split
  · rename_i kind
    exact .taken kind (by decide) (.answer _)
  -- The constants.
  iterate 6
    rename_i kind
    apply MirrorsFrom.taken kind (by decide)
    split
    · rename_i found
      exact (literal_mirrors found).bind fun _ => .answer _
    · exact .refuse _
  · rename_i kind
    apply MirrorsFrom.following
    · exact Token.not_endsLine kind (by decide)
    · intro number isNumber
      rw [Bool.or_eq_true, decide_eq_true_iff, decide_eq_true_iff] at isNumber
      rcases isNumber with isInteger | isDecimal
      · exact Token.not_endsLine isInteger (by decide)
      · exact Token.not_endsLine isDecimal (by decide)
    · intro number _
      split
      · rename_i found
        exact (literal_mirrors found).bind fun _ => .answer _
      · exact .refuse _
  iterate 2
    rename_i kind
    apply MirrorsFrom.taken kind (by decide)
    exact .expecting (by decide) (each.bind fun value => .closing (by decide))
  · rename_i kind
    apply MirrorsFrom.taken kind (by decide)
    exact (separated_mirrors each _ _ _ _).bind fun elements => .closing (by decide)
  · rename_i kind
    apply MirrorsFrom.taken kind (by decide)
    exact (separatedWithTail_mirrors each _ _ _).bind fun elements => .closing (by decide)
  · rename_i kind
    apply MirrorsFrom.taken kind (by decide)
    exact (entries_mirrors each _ _ _).bind fun found => .closing (by decide)
  · rename_i kind
    apply MirrorsFrom.taken kind (by decide)
    apply MirrorsFrom.at?
    · apply MirrorsFrom.takenKind (by decide)
      exact (entries_mirrors each _ _ _).bind fun found => .closing (by decide)
    · exact .refuse _
  · exact .refuse _

theorem pattern_mirrors (depth depth' : Nat) : Mirrors (pattern depth) (pattern depth') := by
  induction depth generalizing depth' with
  | zero => exact .tooDeepHere
  | succ depth ih =>
      cases depth' with
      | zero => exact .tooDeepThere
      | succ depth' =>
          rw [pattern, pattern]
          apply (primaryPattern_mirrors (ih depth') depth depth').bind
          intro whole
          apply MirrorsFrom.at?
          · exact .takenKind (by decide) (.closing (by decide))
          · exact .answer _

/-! ## Expressions -/

theorem combine_mirrors (kind : TokenKind) (left right : Expr) :
    Mirrors (combine kind left right) (combine kind left right) := by
  simp only [combine]
  split
  · split
    · exact .answer _
    · exact .answer _
    · exact .refuse _
  all_goals exact .answer _

theorem operand_mirrors {inner inner' : Nat → Parse Expr}
    (each : ∀ power, Mirrors (inner power) (inner' power)) (fuel fuel' : Nat) :
    Mirrors (operand inner fuel) (operand inner' fuel') := by
  rw [operand, operand]
  apply MirrorsFrom.current
  intro token
  split
  -- A sign before an operand.
  iterate 2
    rename_i kind
    exact .taken kind (by decide) ((each _).bind fun value => .answer _)
  · rename_i kind
    apply MirrorsFrom.taken kind (by decide)
    exact (MirrorsFrom.integerOf token).bind fun value => .answer _
  · rename_i kind
    apply MirrorsFrom.taken kind (by decide)
    exact (MirrorsFrom.decimalOf token).bind fun value => .answer _
  iterate 4
    rename_i kind
    exact .taken kind (by decide) (.answer _)
  · rename_i kind
    apply MirrorsFrom.taken kind (by decide)
    exact (each 0).bind fun value => .expecting (by decide) (.answer _)
  iterate 2
    rename_i kind
    apply MirrorsFrom.taken kind (by decide)
    exact .expecting (by decide) ((each 0).bind fun value => .closing (by decide))
  · rename_i kind
    apply MirrorsFrom.taken kind (by decide)
    exact (separated_mirrors (each 0) _ _ _ _).bind fun elements => .closing (by decide)
  · rename_i kind
    apply MirrorsFrom.taken kind (by decide)
    exact (separatedWithTail_mirrors (each 0) _ _ _).bind fun elements => .closing (by decide)
  · rename_i kind
    apply MirrorsFrom.taken kind (by decide)
    exact (entries_mirrors (each 0) _ _ _).bind fun found => .closing (by decide)
  · rename_i kind
    apply MirrorsFrom.taken kind (by decide)
    apply (each 0).bind
    intro condition
    apply MirrorsFrom.expecting (by decide)
    apply (each 0).bind
    intro thenBranch
    apply MirrorsFrom.expecting (by decide)
    exact (each 0).bind fun elseBranch => .answer _
  · rename_i kind
    apply MirrorsFrom.taken kind (by decide)
    apply MirrorsFrom.expecting (by decide)
    apply (separated_mirrors (.expect (by decide)) _ _ _ _).bind
    intro params
    apply MirrorsFrom.expecting (by decide)
    apply MirrorsFrom.expecting (by decide)
    exact (each 0).bind fun body => .answer _
  · rename_i kind
    exact .taken kind (by decide) (.answer _)
  · rename_i kind
    apply MirrorsFrom.taken kind (by decide)
    apply MirrorsFrom.at?
    · apply MirrorsFrom.takenKind (by decide)
      exact (entries_mirrors (each 0) _ _ _).bind fun found => .closing (by decide)
    · exact .answer _
  · exact .refuse _

theorem operators_mirrors {inner inner' : Nat → Parse Expr}
    (each : ∀ power, Mirrors (inner power) (inner' power)) (power fuel fuel' : Nat)
    (left : Expr) : Mirrors (operators inner power fuel left) (operators inner' power fuel' left) := by
  induction fuel generalizing fuel' left with
  | zero => exact .tooDeepHere
  | succ fuel ih =>
      cases fuel' with
      | zero => exact .tooDeepThere
      | succ fuel' =>
          rw [operators, operators]
          apply MirrorsFrom.current
          intro token
          split
          · rename_i kind
            apply MirrorsFrom.taken kind (by decide)
            exact (MirrorsFrom.expect (by decide)).bind fun field => ih fuel' _
          · rename_i kind
            apply MirrorsFrom.taken kind (by decide)
            apply (separated_mirrors (each 0) _ _ _ _).bind
            intro arguments
            exact (MirrorsFrom.expect (by decide)).bind fun last => ih fuel' _
          · split
            · exact .answer _
            · rename_i found
              apply MirrorsFrom.ite
              · exact fun _ => .answer _
              · intro _
                apply MirrorsFrom.taken rfl
                · constructor
                  all_goals
                    intro ends
                    rw [ends] at found
                    cases found
                · apply (each _).bind
                  intro right
                  exact (combine_mirrors _ _ right).bind fun value => ih fuel' value

theorem expression_mirrors (depth depth' power : Nat) :
    Mirrors (expression depth power) (expression depth' power) := by
  induction depth generalizing depth' power with
  | zero => exact .tooDeepHere
  | succ depth ih =>
      cases depth' with
      | zero => exact .tooDeepThere
      | succ depth' =>
          rw [expression, expression]
          apply (operand_mirrors (ih depth') depth depth').bind
          exact fun left => operators_mirrors (ih depth') power depth depth' left

/-! ## Declarations -/

theorem head_mirrors (depth depth' : Nat) : Mirrors (head depth) (head depth') := by
  rw [head, head]
  apply (MirrorsFrom.expect (by decide)).bind
  intro name
  apply MirrorsFrom.expecting (by decide)
  apply (separated_mirrors (pattern_mirrors depth depth') _ _ _ _).bind
  intro params
  apply (MirrorsFrom.expect (by decide)).bind
  intro last
  apply MirrorsFrom.at?
  · exact .takenKind (by decide) ((expression_mirrors depth depth' 0).bind fun guard => .answer _)
  · exact .answer _

/-- What is read of a declaration after its documentation comments. -/
def announced (depth : Nat) (comments : List String) : Parse (Option Declaration) := do
  let doc? := if comments.isEmpty then none else some (Text.join "\n" comments)
  let keyword ← current
  match keyword.kind with
  | .endOfText => return none
  | .pipeKeyword | .defKeyword =>
      discard advance
      let head ← head depth
      discard (expect .arrow)
      let body ← expression depth 0
      let next ← current
      if next.kind = .newline || next.kind = .endOfText then
        return some
          { head, body, doc?
            synthesized := keyword.kind = .pipeKeyword
            span := keyword.span.through body.span }
      else fail (.afterDeclaration next)
  | _ => fail (.expectedDeclaration keyword)

theorem declaration_eq (depth : Nat) :
    declaration depth = (do
      skipNewlines
      let comments ← docComments depth
      announced depth comments) := rfl

theorem announced_mirrors (depth depth' : Nat) (comments : List String) :
    Mirrors (announced depth comments) (announced depth' comments) := by
  rw [announced, announced]
  apply MirrorsFrom.current
  intro keyword
  split
  · exact .answer _
  iterate 2
    rename_i kind
    apply MirrorsFrom.taken kind (by decide)
    apply (head_mirrors depth depth').bind
    intro head
    apply MirrorsFrom.expecting (by decide)
    apply (expression_mirrors depth depth' 0).bind
    intro body
    apply MirrorsFrom.current
    intro next
    exact .ite (fun _ => .answer _) fun _ => .refuse _
  · exact .refuse _

/-- Whether a step that answers, if the next token is ready for it, has gone up to the end of a
line. -/
def EndsFrom (ready : Token → Prop) (step : Parse α) : Prop :=
  ∀ cursor value next, ready (cursor.tokens.headD cursor.finish) → step cursor = .ok value next →
    (next.tokens.headD next.finish).EndsLine

namespace EndsFrom

variable {ready : Token → Prop}

theorem answer {value : α} (ends : ∀ token, ready token → token.EndsLine) :
    EndsFrom ready (pure value) := by
  intro cursor value next isReady outcome
  cases outcome
  exact ends _ isReady

theorem refuse (error : SyntaxError) : EndsFrom ready (fail error : Parse α) := by
  intro cursor value next _ outcome
  cases outcome

theorem after {step : Parse α} {rest : α → Parse β}
    (later : ∀ value, EndsFrom (fun _ => True) (rest value)) : EndsFrom ready (step >>= rest) := by
  intro cursor value next _ outcome
  rcases bind_eq_ok.mp outcome with ⟨first, middle, _, outcome⟩
  exact later first middle value next trivial outcome

theorem current {rest : Token → Parse β} (later : ∀ token, EndsFrom (· = token) (rest token)) :
    EndsFrom ready (current >>= rest) := by
  intro cursor value next _ outcome
  exact later _ cursor value next rfl outcome

end EndsFrom

theorem declaration_ends (depth : Nat) : EndsFrom (fun _ => True) (declaration depth) := by
  rw [declaration_eq]
  apply EndsFrom.after
  intro _
  apply EndsFrom.after
  intro comments
  rw [announced]
  apply EndsFrom.current
  intro keyword
  split
  · rename_i isEnd
    exact .answer fun _ same => same ▸ .inr isEnd
  iterate 2
    apply EndsFrom.after
    intro _
    apply EndsFrom.after
    intro head
    apply EndsFrom.after
    intro _
    apply EndsFrom.after
    intro body
    apply EndsFrom.current
    intro last
    split
    · rename_i ends
      rw [Bool.or_eq_true, decide_eq_true_iff, decide_eq_true_iff] at ends
      exact .answer fun _ same => same ▸ ends
    · exact .refuse _
  · exact .refuse _

end Parse
end ClauseFlow
