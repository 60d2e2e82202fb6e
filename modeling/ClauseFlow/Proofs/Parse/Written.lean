import ClauseFlow.Parse.Module
import ClauseFlow.Proofs.Expr.Every
import ClauseFlow.Proofs.Number.Zeros
import ClauseFlow.Proofs.Parse.Rows

/-!
# What can be written

What the reader answers is as the grammar writes it: no call passes the local names over, and no
decimal literal has a sign, since a minus before a number is an operator. This is shown step by step
of the reader, for whatever tokens are still to come.
-/

namespace ClauseFlow

namespace Parse

variable {α β : Type}

/-! ## What a step answers -/

/-- Whether every answer of a step has a property. -/
def Yields (good : α → Prop) (step : Parse α) : Prop :=
  ∀ cursor value next, step cursor = .ok value next → good value

namespace Yields

variable {good : α → Prop} {good' : β → Prop}

theorem answer {value : α} (holds : good value) : Yields good (pure value) := by
  intro cursor value' next outcome
  cases outcome
  exact holds

theorem stop (stop : Stop) : Yields good (throw stop) := by
  intro cursor value next outcome
  cases outcome

theorem refuse (error : SyntaxError) : Yields good (fail error) := by
  intro cursor value next outcome
  cases outcome

/-- Steps one after the other, where the second one relies on what the first one answers. -/
theorem bind {step : Parse α} {rest : α → Parse β} (first : Yields good step)
    (later : ∀ value, good value → Yields good' (rest value)) : Yields good' (step >>= rest) := by
  intro cursor value next outcome
  cases firstOutcome : step cursor with
  | ok value' next' =>
      simp only [Bind.bind, EStateM.bind, firstOutcome] at outcome
      exact later value' (first _ _ _ firstOutcome) _ _ _ outcome
  | error stop next' => simp [Bind.bind, EStateM.bind, firstOutcome] at outcome

/-- Steps one after the other, where the second one relies on nothing. -/
theorem after {step : Parse α} {rest : α → Parse β} (later : ∀ value, Yields good' (rest value)) :
    Yields good' (step >>= rest) :=
  @bind _ _ (fun _ => True) good' _ _ (fun _ _ _ _ => trivial) fun value _ => later value

theorem ite {accepted : Prop} [Decidable accepted] {step other : Parse α}
    (first : Yields good step) (second : Yields good other) :
    Yields good (if accepted then step else other) := by
  split
  · exact first
  · exact second

end Yields

variable {good : α → Prop} {item : Parse α}

/-! ## Repetition -/

theorem turn_yields {closing : TokenKind} {first : Bool} {empty : α} {more : Parse α}
    (holds : good empty) (goesOn : Yields good more) :
    Yields good (turn closing first empty more) := by
  rw [turn]
  refine Yields.after fun token => ?_
  refine Yields.ite (Yields.answer holds) ?_
  exact Yields.ite goesOn (Yields.after fun _ => goesOn)

theorem itemAnd_yields {rest : Parse (List α)} (each : Yields good item)
    (others : Yields (fun values => ∀ value ∈ values, good value) rest) :
    Yields (fun values => ∀ value ∈ values, good value) (itemAnd item rest) := by
  rw [itemAnd]
  refine Yields.bind each fun value holds => ?_
  refine Yields.bind others fun rest restHolds => ?_
  exact Yields.answer (List.forall_mem_cons.mpr ⟨holds, restHolds⟩)

theorem separated_yields (each : Yields good item) (closing : TokenKind) (fuel : Nat)
    (first : Bool) : Yields (fun values => ∀ value ∈ values, good value)
      (separated item closing fuel first) := by
  induction fuel generalizing first with
  | zero => exact Yields.stop _
  | succ fuel ih =>
      rw [separated_succ]
      exact turn_yields (List.forall_mem_nil _) (itemAnd_yields each (ih false))

theorem itemAndTail_yields {rest : Parse (List α × Option α)} (each : Yields good item)
    (others : Yields (fun found => (∀ value ∈ found.1, good value) ∧ ∀ value ∈ found.2, good value)
      rest) :
    Yields (fun found => (∀ value ∈ found.1, good value) ∧ ∀ value ∈ found.2, good value)
      (itemAndTail item rest) := by
  rw [itemAndTail]
  refine Yields.bind each fun value holds => ?_
  refine Yields.after fun bar => ?_
  refine Yields.ite ?_ ?_
  · refine Yields.after fun _ => ?_
    refine Yields.bind each fun tail tailHolds => ?_
    exact Yields.answer (by simp [holds, tailHolds])
  · refine Yields.bind others fun rest restHolds => ?_
    exact Yields.answer ⟨List.forall_mem_cons.mpr ⟨holds, restHolds.1⟩, restHolds.2⟩

theorem separatedWithTail_yields (each : Yields good item) (fuel : Nat) (first : Bool) :
    Yields (fun found => (∀ value ∈ found.1, good value) ∧ ∀ value ∈ found.2, good value)
      (separatedWithTail item fuel first) := by
  induction fuel generalizing first with
  | zero => exact Yields.stop _
  | succ fuel ih =>
      rw [separatedWithTail_succ]
      exact turn_yields (by simp) (itemAndTail_yields each (ih false))

theorem entryAnd_yields {seen : List String} {rest : List String → Parse (List (String × α))}
    (each : Yields good item)
    (others : ∀ seen, Yields (fun found => ∀ entry ∈ found, good entry.2) (rest seen)) :
    Yields (fun found => ∀ entry ∈ found, good entry.2) (entryAnd item seen rest) := by
  have valueAnd (key : String) :
      Yields (fun found => ∀ entry ∈ found, good entry.2) (valueAnd item key (rest (key :: seen))) := by
    rw [valueAnd]
    refine Yields.bind each fun value holds => ?_
    refine Yields.bind (others _) fun rest restHolds => ?_
    exact Yields.answer (List.forall_mem_cons.mpr ⟨holds, restHolds⟩)
  rw [entryAnd]
  refine Yields.after fun key => ?_
  refine Yields.after fun _ => ?_
  exact Yields.ite (Yields.after fun _ => valueAnd key.value) (valueAnd key.value)

theorem entries_yields (each : Yields good item) (fuel : Nat) (seen : List String) :
    Yields (fun found => ∀ entry ∈ found, good entry.2) (entries item fuel seen) := by
  induction fuel generalizing seen with
  | zero => exact Yields.stop _
  | succ fuel ih =>
      rw [entries_succ]
      exact turn_yields (List.forall_mem_nil _) (entryAnd_yields each ih)

/-! ## Numbers -/

/-- A decimal number that is read is a quotient. -/
theorem exists_ofQuotient_of_readDecimal? {text : String} {value : Binary64}
    (read : Numeral.readDecimal? text = some value) :
    ∃ numerator denominator, value = .ofQuotient false numerator denominator := by
  rw [Numeral.readDecimal?] at read
  simp only at read
  split at read
  · cases read
  · rcases Option.bind_eq_some_iff.mp read with ⟨whole, _, read⟩
    rcases Option.bind_eq_some_iff.mp read with ⟨part, _, read⟩
    cases read
    exact ⟨_, _, rfl⟩

theorem isNegative_of_readDecimal? {text : String} {value : Binary64}
    (read : Numeral.readDecimal? text = some value) : value.isNegative = false := by
  rcases exists_ofQuotient_of_readDecimal? read with ⟨numerator, denominator, rfl⟩
  exact Binary64.isNegative_ofQuotient _ _

theorem decimalOf_yields (token : Token) :
    Yields (fun value => value.isNegative = false) (decimalOf token) := by
  rw [decimalOf]
  cases read : Numeral.readDecimal? token.value with
  | none => exact Yields.stop _
  | some value => exact Yields.answer (isNegative_of_readDecimal? read)

/-! ## Expressions -/

/-- Whether every answer of a step is an expression that can be written. -/
abbrev YieldsWritten (step : Parse Expr) : Prop :=
  Yields (fun expr => expr.isWritten = true) step

theorem combine_yields {left right : Expr} (leftWritten : left.isWritten = true)
    (rightWritten : right.isWritten = true) (kind : TokenKind) :
    YieldsWritten (combine kind left right) := by
  simp only [combine]
  simp only [Expr.isWritten] at leftWritten
  split
  · split
    · exact Yields.answer (by simp [Expr.isWritten, Expr.every, Expr.isWrittenPart, leftWritten])
    · simp only [Expr.isWritten, Expr.every, Bool.and_eq_true] at rightWritten
      exact Yields.answer (by
        simp [Expr.isWritten, Expr.every, Expr.isWrittenPart, leftWritten, rightWritten.2])
    · exact Yields.refuse _
  all_goals
    simp only [Expr.isWritten] at rightWritten
    exact Yields.answer (by
      simp [Expr.isWritten, Expr.every, Expr.isWrittenPart, leftWritten, rightWritten])

theorem operand_yields {inner : Nat → Parse Expr} (each : ∀ power, YieldsWritten (inner power))
    (fuel : Nat) : YieldsWritten (operand inner fuel) := by
  rw [operand]
  refine Yields.after fun token => ?_
  split
  -- A sign before an operand.
  iterate 2
    refine Yields.after fun _ => Yields.bind (each _) fun value written => Yields.answer ?_
    simpa [Expr.isWritten, Expr.every, Expr.isWrittenPart] using written
  · exact Yields.after fun _ => Yields.after fun value => Yields.answer rfl
  · refine Yields.after fun _ => Yields.bind (decimalOf_yields token) fun value positive => ?_
    refine Yields.answer ?_
    simp [Expr.isWritten, Expr.every, Expr.isWrittenPart, positive]
  iterate 4
    exact Yields.after fun _ => Yields.answer rfl
  · refine Yields.after fun _ => Yields.bind (each _) fun value written => ?_
    exact Yields.after fun _ => Yields.answer written
  iterate 2
    refine Yields.after fun _ => Yields.after fun _ => Yields.bind (each _) fun value written => ?_
    refine Yields.after fun last => Yields.answer ?_
    simpa [Expr.isWritten, Expr.every, Expr.isWrittenPart] using written
  · refine Yields.after fun _ =>
      Yields.bind (separated_yields (each 0) _ _ _) fun elements written => ?_
    refine Yields.after fun last => Yields.answer ?_
    simpa [Expr.isWritten, Expr.every, Expr.isWrittenPart, Expr.everyOfAll_iff] using written
  · refine Yields.after fun _ =>
      Yields.bind (separatedWithTail_yields (each 0) _ _) fun found written => ?_
    refine Yields.after fun last => Yields.answer ?_
    rcases found with ⟨elements, tail⟩
    cases tail with
    | none =>
        simpa [Expr.isWritten, Expr.every, Expr.isWrittenPart, Expr.everyOfAll_iff] using written
    | some tail =>
        simpa [Expr.isWritten, Expr.every, Expr.isWrittenPart, Expr.everyOfAll_iff] using written
  · refine Yields.after fun _ =>
      Yields.bind (entries_yields (each 0) _ _) fun found written => ?_
    refine Yields.after fun last => Yields.answer ?_
    simpa [Expr.isWritten, Expr.every, Expr.isWrittenPart, Expr.everyOfEntries_iff] using written
  · refine Yields.after fun _ => Yields.bind (each 0) fun condition written => ?_
    refine Yields.after fun _ => Yields.bind (each 0) fun thenBranch thenWritten => ?_
    refine Yields.after fun _ => Yields.bind (each 0) fun elseBranch elseWritten => ?_
    refine Yields.answer ?_
    simp only [Expr.isWritten] at written thenWritten elseWritten
    simp [Expr.isWritten, Expr.every, Expr.isWrittenPart, written, thenWritten, elseWritten]
  · refine Yields.after fun _ => Yields.after fun _ => Yields.after fun params => ?_
    refine Yields.after fun _ => Yields.after fun _ => Yields.bind (each 0) fun body written => ?_
    refine Yields.answer ?_
    simpa [Expr.isWritten, Expr.every, Expr.isWrittenPart] using written
  · exact Yields.after fun _ => Yields.answer rfl
  · refine Yields.after fun _ => Yields.after fun braced => Yields.ite ?_ (Yields.answer rfl)
    refine Yields.after fun _ =>
      Yields.bind (entries_yields (each 0) _ _) fun found written => ?_
    refine Yields.after fun last => Yields.answer ?_
    simpa [Expr.isWritten, Expr.every, Expr.isWrittenPart, Expr.everyOfEntries_iff] using written
  · exact Yields.refuse _

theorem operators_yields {inner : Nat → Parse Expr} (each : ∀ power, YieldsWritten (inner power))
    (power fuel : Nat) {left : Expr} (leftWritten : left.isWritten = true) :
    YieldsWritten (operators inner power fuel left) := by
  induction fuel generalizing left with
  | zero => exact Yields.stop _
  | succ fuel ih =>
      rw [operators]
      refine Yields.after fun token => ?_
      split
      · refine Yields.after fun _ => Yields.after fun field => ih ?_
        simpa [Expr.isWritten, Expr.every, Expr.isWrittenPart] using leftWritten
      · refine Yields.after fun _ =>
          Yields.bind (separated_yields (each 0) _ _ _) fun arguments written => ?_
        refine Yields.after fun last => ih ?_
        simpa [Expr.isWritten, Expr.every, Expr.isWrittenPart, Expr.everyOfAll_iff] using written
      · split
        · exact Yields.answer leftWritten
        · refine Yields.ite (Yields.answer leftWritten) (Yields.after fun _ => ?_)
          refine Yields.bind (each _) fun right rightWritten => ?_
          exact Yields.bind (combine_yields leftWritten rightWritten _) fun _ written => ih written

/-- What the reader answers for an expression can be written. -/
theorem expression_yields (depth power : Nat) : YieldsWritten (expression depth power) := by
  induction depth generalizing power with
  | zero => exact Yields.stop _
  | succ depth ih =>
      rw [expression]
      refine Yields.bind (operand_yields ih depth) fun left written => ?_
      exact operators_yields ih power depth written

/-! ## Modules -/

/-- Whether the guard of a declaration, if any, can be written. -/
def GuardWritten (declaration : Declaration) : Prop :=
  ∀ guard ∈ declaration.guard?, guard.isWritten = true

theorem head_yields (depth : Nat) :
    Yields (fun head => ∀ guard ∈ head.guard?, guard.isWritten = true) (head depth) := by
  rw [head]
  refine Yields.after fun name => Yields.after fun _ => Yields.after fun params => ?_
  refine Yields.after fun last => Yields.after fun guarded => Yields.ite ?_ ?_
  · refine Yields.after fun _ => Yields.bind (expression_yields depth 0) fun guard written => ?_
    refine Yields.answer fun found same => ?_
    obtain rfl := Option.some.inj same
    exact written
  · exact Yields.answer fun found same => by cases same

theorem declaration_yields (depth : Nat) :
    Yields (fun found? => ∀ declaration ∈ found?, GuardWritten declaration)
      (declaration depth) := by
  rw [declaration]
  refine Yields.after fun _ => Yields.after fun comments => Yields.after fun keyword => ?_
  split
  · exact Yields.answer (by simp)
  iterate 2
    refine Yields.after fun _ => Yields.bind (head_yields depth) fun head written => ?_
    refine Yields.after fun _ => Yields.after fun body => Yields.after fun next => ?_
    refine Yields.ite (Yields.answer fun declaration same => ?_) (Yields.refuse _)
    obtain rfl := Option.some.inj same
    exact written
  · exact Yields.refuse _

theorem recoveringDeclaration_yields (depth : Nat) :
    Yields (fun found? => ∀ declaration ∈ found?, GuardWritten declaration)
      (recoveringDeclaration depth) := by
  intro cursor value next outcome
  rw [recoveringDeclaration] at outcome
  cases declared : declaration depth cursor with
  | ok found? rest =>
      rw [declared] at outcome
      cases outcome
      exact declaration_yields depth _ _ _ declared
  | error stop rest =>
      rw [declared] at outcome
      cases stop with
      | syntaxError =>
          cases outcome
          simp
      | _ => cases outcome

theorem declarations_yields (depth fuel : Nat) :
    Yields (fun found => ∀ declaration ∈ found, GuardWritten declaration)
      (declarations depth fuel) := by
  induction fuel with
  | zero => exact Yields.stop _
  | succ fuel ih =>
      rw [declarations]
      refine Yields.after fun finished => Yields.ite (Yields.answer (by simp)) ?_
      refine Yields.bind (recoveringDeclaration_yields depth) fun found? written => ?_
      refine Yields.after fun _ => Yields.bind ih fun rest restWritten => ?_
      refine Yields.answer fun declaration member => ?_
      rcases List.mem_append.mp member with here | later
      · exact written declaration (by simpa using here)
      · exact restWritten declaration later

theorem wholeModule_yields (limit : Nat) :
    Yields (fun module => ∀ declaration ∈ module.declarations, GuardWritten declaration)
      (wholeModule limit) := by
  rw [wholeModule]
  refine Yields.after fun _ => Yields.bind (declarations_yields _ _) fun found written => ?_
  exact Yields.after fun last => Yields.answer written

/-! ## Whole texts -/

/-- What a step makes of a whole text is what it answers from the first token on, without any
error. -/
theorem exists_of_run {step : Parse α} {stream : TokenStream} {value : α}
    (outcome : run step stream = .ok value) :
    ∃ cursor, step (Cursor.ofStream stream) = .ok value cursor ∧ cursor.errors = [] := by
  rw [run] at outcome
  split at outcome
  · rename_i answer cursor stepped
    split at outcome
    · rename_i clean
      cases outcome
      exact ⟨cursor, stepped, List.isEmpty_iff.mp clean⟩
    · cases outcome
  all_goals cases outcome

/-- What a step makes of a whole text has what its answers have. -/
theorem Yields.run {good : α → Prop} {step : Parse α} (yields : Yields good step)
    {stream : TokenStream} {value : α} (outcome : run step stream = .ok value) : good value := by
  rcases exists_of_run outcome with ⟨_, stepped, _⟩
  exact yields _ _ _ stepped

end Parse

theorem TokenStream.ofText_of_read {file text : String} {stream : TokenStream}
    (read : TokenStream.read file text = .ok stream) :
    TokenStream.ofText file text = .ok stream := by
  rw [TokenStream.read] at read
  cases found : TokenStream.ofText file text with
  | ok stream' =>
      rw [found] at read
      cases read
      rfl
  | error diagnostics =>
      rw [found] at read
      cases read

/-- What is read of a text is read of its tokens. -/
theorem TokenStream.exists_of_read {α : Type} {next : TokenStream → Except Rejection α}
    {file text : String} {value : α} (outcome : TokenStream.read file text >>= next = .ok value) :
    ∃ stream, TokenStream.ofText file text = .ok stream ∧ next stream = .ok value := by
  cases streamed : TokenStream.read file text with
  | ok stream =>
      rw [streamed] at outcome
      exact ⟨stream, ofText_of_read streamed, outcome⟩
  | error rejection =>
      rw [streamed] at outcome
      cases outcome

theorem Module.exists_run_of_read {file text : String} {module : Module}
    (read : Module.read file text = .ok module) :
    ∃ stream, TokenStream.ofText file text = .ok stream ∧
      Parse.run (Parse.wholeModule (Parse.limit stream)) stream = .ok module :=
  TokenStream.exists_of_read read

theorem Expr.exists_run_of_read {file text : String} {expr : Expr}
    (read : Expr.read file text = .ok expr) :
    ∃ stream, TokenStream.ofText file text = .ok stream ∧
      Parse.run (Parse.wholeExpression (Parse.limit stream)) stream = .ok expr :=
  TokenStream.exists_of_read read

/-- The guards of a module that has been read can be written. -/
theorem Module.read_guards {file text : String} {module : Module}
    (read : Module.read file text = .ok module) :
    ∀ declaration ∈ module.declarations, ∀ guard ∈ declaration.guard?, guard.isWritten = true := by
  rcases Module.exists_run_of_read read with ⟨stream, _, outcome⟩
  exact (Parse.wholeModule_yields _).run outcome

end ClauseFlow
