import ClauseFlow.Parse.Expr
import ClauseFlow.Proofs.Expr.Lexemes
import ClauseFlow.Proofs.Expr.Places
import ClauseFlow.Proofs.Parse.Patterns

/-!
# Chains of operators

An operand and the operators after it are read as one chain. Where an expression is printed without
parentheses, the reader takes it for the beginning of the chain and goes on with what follows: this
is stated for whatever is read after it, so that the left operand of an operator can be followed by
the operator itself.
-/

namespace ClauseFlow

namespace Expr

/-- Whether the second expression is what the first one is read as again, up to places. -/
def ReadsAs (expr expr' : Expr) : Prop :=
  expr'.unplaced = expr.settled

theorem rebuildAll_of_readsAs {exprs exprs' : List Expr}
    (each : List.Forall₂ ReadsAs exprs exprs') :
    rebuildAll ofDecimal exprs' = rebuildAll settledDecimal exprs := by
  induction each with
  | nil => rfl
  | cons here _ ih =>
      rw [rebuildAll, rebuildAll, ih]
      exact congrArg (· :: _) here

theorem rebuildEntries_of_readsAs {entries entries' : List (String × Expr)}
    (each : List.Forall₂ (fun entry entry' => entry.1 = entry'.1 ∧ ReadsAs entry.2 entry'.2)
      entries entries') :
    rebuildEntries ofDecimal entries' = rebuildEntries settledDecimal entries := by
  induction each with
  | nil => rfl
  | @cons entry entry' rest rest' here _ ih =>
      rcases entry with ⟨key, expr⟩
      rcases entry' with ⟨key', expr'⟩
      rcases here with ⟨sameKey, here⟩
      cases sameKey
      rw [rebuildEntries, rebuildEntries, ih]
      exact congrArg (fun found => (key, found) :: _) here

/-- What is read for a name is a name. -/
theorem ReadsAs.ident {identifier : Identifier} {expr' : Expr}
    (read : ReadsAs (.ident identifier) expr') :
    ∃ span, expr' = .ident ⟨identifier.name, span⟩ := by
  cases expr' with
  | ident identifier' =>
      obtain ⟨name, span⟩ := identifier'
      simp only [ReadsAs, unplaced, settled, rebuild, nameAlone, Expr.ident.injEq,
        Identifier.mk.injEq, and_true] at read
      exact ⟨span, by rw [read]⟩
  | list elements tail => cases tail <;> cases read
  | _ => cases read

/-- What is read for a call is a call. -/
theorem ReadsAs.call {callee : Identifier} {arguments : List Expr} {span : Span} {expr' : Expr}
    (read : ReadsAs (.call callee arguments span) expr') :
    ∃ place arguments' span', expr' = .call ⟨callee.name, place⟩ arguments' span' ∧
      rebuildAll ofDecimal arguments' = rebuildAll settledDecimal arguments := by
  cases expr' with
  | call callee' arguments' span' =>
      obtain ⟨name, place⟩ := callee'
      simp only [ReadsAs, unplaced, settled, rebuild, nameAlone, Expr.call.injEq,
        Identifier.mk.injEq, and_true] at read
      exact ⟨place, arguments', span', by rw [read.1], read.2⟩
  | list elements tail => cases tail <;> cases read
  | _ => cases read

end Expr

namespace Parse

open ClauseFlow.Expr (ReadsAs)

variable {excuse : Prop}

/-! ## What may follow -/

/-- Whether reading with a power stops before a token of some kind. -/
structure Stops (power : Nat) (kind : TokenKind) : Prop where
  noCall : kind ≠ .leftParen
  noRecord : kind ≠ .leftBrace
  noField : kind ≠ .dot
  weaker : ∀ left right, power? kind = some (left, right) → left < power

/-- Whether a token may follow an expression in a place that asks for a precedence. -/
structure Continues (asked : Nat) (kind : TokenKind) : Prop where
  noCall : kind ≠ .leftParen
  noRecord : kind ≠ .leftBrace
  field : kind = .dot → asked = Expr.fieldPrecedence
  weaker : ∀ left right, power? kind = some (left, right) → left < 2 * asked

theorem Stops.continues {power asked : Nat} (bounded : power ≤ 2 * asked - 1) {kind : TokenKind}
    (stops : Stops power kind) : Continues asked kind where
  noCall := stops.noCall
  noRecord := stops.noRecord
  field same := absurd same stops.noField
  weaker left right powers := by
    have lower := stops.weaker left right powers
    omega

theorem Continues.stops {asked power : Nat} (below : asked < Expr.fieldPrecedence)
    (bounded : 2 * asked ≤ power) {kind : TokenKind} (continues : Continues asked kind) :
    Stops power kind where
  noCall := continues.noCall
  noRecord := continues.noRecord
  noField same := absurd (continues.field same) (Nat.ne_of_lt below)
  weaker left right powers := Nat.lt_of_lt_of_le (continues.weaker left right powers) bounded

/-! ## Single steps -/

section

variable {inner : Nat → Parse Expr} {power fuel : Nat} {left : Expr} {more : List Lexeme}
  {follow : TokenKind → Prop} {good : Expr → Prop}

/-- The chain ends before a token that stops it. -/
theorem operators_stop :
    Reads excuse (operators inner power (fuel + 1) left) [] (Stops power) (fun found => found = left) := by
  rw [operators]
  apply Reads.peek_end
  intro token stops
  split
  · rename_i isDot
    exact absurd isDot stops.noField
  · rename_i isParen
    exact absurd isParen stops.noCall
  · split
    · exact .answer rfl
    · rename_i leftPower rightPower powers
      rw [if_pos (stops.weaker leftPower rightPower powers)]
      exact .answer rfl

/-- An operator of at least the given power, and its right operand. -/
theorem operators_infix {op : Lexeme} {leftPower rightPower : Nat}
    (powers : power? op.kind = some (leftPower, rightPower)) (strong : power ≤ leftPower)
    {rightLexemes : List Lexeme} {rightFollow : TokenKind → Prop} {goodRight goodWhole : Expr → Prop}
    (right : Reads excuse (inner rightPower) rightLexemes rightFollow goodRight)
    (combined : ∀ found, goodRight found →
      ∃ whole, combine op.kind left found = pure whole ∧ goodWhole whole)
    (meets : Meets rightFollow more follow)
    (later : ∀ whole, goodWhole whole → Reads excuse (operators inner power fuel whole) more follow good) :
    Reads excuse (operators inner power (fuel + 1) left) (op :: (rightLexemes ++ more)) follow good := by
  rw [operators]
  apply Reads.peek
  intro span
  have taken : Reads excuse (do
      discard advance
      let right ← inner rightPower
      operators inner power fuel (← combine op.kind left right))
      (op :: (rightLexemes ++ more)) follow good := by
    apply Reads.skip
    apply Reads.bind right meets
    intro found holds
    rcases combined found holds with ⟨whole, made, holdsWhole⟩
    rw [made, pure_bind]
    exact later whole holdsWhole
  split
  · rename_i isDot
    simp only at isDot
    rw [isDot] at powers
    cases powers
  · rename_i isParen
    simp only at isParen
    rw [isParen] at powers
    cases powers
  · simp only [powers, if_neg (Nat.not_lt.mpr strong)]
    exact taken

/-- Field access. -/
theorem operators_field {name : String}
    (later : ∀ span, Reads excuse (operators inner power fuel (.field left name span)) more follow good) :
    Reads excuse (operators inner power (fuel + 1) left) (⟨.dot, "."⟩ :: .name name :: more) follow
      good := by
  rw [operators]
  apply Reads.peek
  intro span
  apply Reads.skip
  apply Reads.expected
  intro span'
  exact later _

/-- A call of a name. -/
theorem operators_call {callee : Identifier} {rows : List (List Lexeme)}
    {goodArguments : List Expr → Prop}
    (arguments : Reads excuse (separated (inner 0) .rightParen fuel true) (Lexeme.listed rows)
      (fun kind => kind = .rightParen) goodArguments)
    (later : ∀ arguments span, goodArguments arguments →
      Reads excuse (operators inner power fuel (.call callee arguments span)) more follow good) :
    Reads excuse (operators inner power (fuel + 1) (.ident callee))
      (Lexeme.parenthesized (Lexeme.listed rows) ++ more) follow good := by
  rw [operators, Lexeme.parenthesized, Lexeme.enclosed]
  simp only [List.cons_append, List.append_assoc, List.nil_append]
  apply Reads.peek
  intro span
  apply Reads.skip
  have closes : Meets (fun kind => kind = .rightParen) (⟨.rightParen, ")"⟩ :: more) follow := rfl
  apply Reads.bind arguments closes
  intro found holds
  apply Reads.expected
  intro span'
  exact later found _ holds

end

/-! ## Chains -/

/-- Whether the reader takes lexemes for an expression, or for the beginning of a chain of which it
is the first part. The chain goes on with what is left of the fuel: each lexeme uses up at most one
unit of it, and the first one none. -/
def Chains (excuse : Prop) (expr : Expr) (asked : Nat) (lexemes : List Lexeme) : Prop :=
  ∀ (depth power fuel : Nat) (more : List Lexeme) (follow : TokenKind → Prop) (good : Expr → Prop),
    lexemes.length ≤ depth → lexemes.length ≤ fuel → power ≤ 2 * asked - 1 →
      Meets (Continues asked) more follow →
        (∀ expr' fuel', ReadsAs expr expr' → fuel < fuel' + lexemes.length →
          Reads excuse (operators (expression depth) power fuel' expr') more follow good) →
        Reads excuse (operand (expression depth) depth >>= operators (expression depth) power fuel)
          (lexemes ++ more) follow good

/-- Whether the reader finds an expression in lexemes, in places that ask for a precedence. -/
def ReadsExpr (excuse : Prop) (expr : Expr) (asked : Nat) (lexemes : List Lexeme) : Prop :=
  ∀ depth power, lexemes.length < depth → power ≤ 2 * asked - 1 →
    Reads excuse (expression depth power) lexemes (Stops power) (ReadsAs expr)

section

variable {expr : Expr} {asked own : Nat} {lexemes : List Lexeme}

/-- A chain of one part is an expression. -/
theorem Chains.readsExpr (chains : Chains excuse expr asked lexemes) : ReadsExpr excuse expr asked lexemes := by
  intro depth power enough bounded
  cases depth with
  | zero => cases enough
  | succ depth =>
      have fits : lexemes.length ≤ depth := Nat.le_of_lt_succ enough
      rw [expression]
      have whole := chains depth power depth [] (Stops power) (ReadsAs expr) fits fits bounded
        (fun kind stops => stops.continues bounded) <| by
          intro expr' fuel' read some
          cases fuel' with
          | zero => omega
          | succ fuel' =>
              apply operators_stop.mono
              rintro found rfl
              exact read
      rwa [List.append_nil] at whole

/-- What is read as an operand begins a chain. -/
theorem Chains.of_operand (nonempty : lexemes ≠ [])
    (reads : ∀ depth, lexemes.length ≤ depth →
      Reads excuse (operand (expression depth) depth) lexemes (Continues asked) (ReadsAs expr)) :
    Chains excuse expr asked lexemes := by
  intro depth power fuel more follow good fits _ _ meets later
  apply Reads.bind (reads depth fits) meets
  intro expr' read
  have some : 0 < lexemes.length := List.length_pos_iff.mpr nonempty
  exact later expr' fuel read (by omega)

/-- Parentheses make an operand of any expression, whatever follows. -/
theorem parenthesized_reads (inside : ReadsExpr excuse expr 0 lexemes) {depth : Nat}
    (fits : (Lexeme.parenthesized lexemes).length ≤ depth) {follow : TokenKind → Prop} :
    Reads excuse (operand (expression depth) depth) (Lexeme.parenthesized lexemes) follow
      (ReadsAs expr) := by
  rw [Lexeme.parenthesized, Lexeme.enclosed, List.cons_append] at fits ⊢
  rw [List.length_cons, List.length_append] at fits
  rw [operand]
  apply Reads.peek
  intro span
  apply Reads.skip
  have stops : Meets (Stops 0) [⟨.rightParen, ")"⟩] follow := by
    change Stops 0 .rightParen
    exact ⟨by decide, by decide, by decide, by rintro _ _ ⟨⟩⟩
  apply Reads.bind (inside depth 0 (by omega) (Nat.zero_le _)) stops
  intro expr' read
  apply Reads.skip_expected
  exact .answer read

theorem Chains.parenthesized (inside : ReadsExpr excuse expr 0 lexemes) :
    Chains excuse expr asked (Lexeme.parenthesized lexemes) :=
  .of_operand (List.cons_ne_nil _ _) fun _ fits => parenthesized_reads inside fits

/-- An expression stands without parentheses where no tighter binding is asked for. -/
theorem Chains.grouped (bare : ∀ asked, asked ≤ own → Chains excuse expr asked lexemes) :
    Chains excuse expr asked (Lexeme.grouped own asked lexemes) := by
  rw [Lexeme.grouped]
  split
  · exact .parenthesized (bare 0 (Nat.zero_le _)).readsExpr
  · rename_i loose
    exact bare asked (Nat.not_lt.mp loose)

/-- An operator between two operands. -/
theorem Chains.infix {left right : Expr} {leftLexemes rightLexemes : List Lexeme} {op : Lexeme}
    (binds : power? op.kind = some (2 * own - 1, 2 * own)) (tight : 0 < own)
    (below : own < Expr.fieldPrecedence)
    (leftChains : Chains excuse left own leftLexemes)
    (rightReads : ReadsExpr excuse right (own + 1) rightLexemes)
    (combined : ∀ left' right', ReadsAs left left' → ReadsAs right right' →
      ∃ whole, combine op.kind left' right' = pure whole ∧ ReadsAs expr whole)
    (loose : asked ≤ own) : Chains excuse expr asked (leftLexemes ++ op :: rightLexemes) := by
  intro depth power fuel more follow good fits enough bounded meets later
  rw [List.length_append, List.length_cons] at fits enough
  rw [List.append_assoc, List.cons_append]
  have mayFollow : Continues own op.kind := by
    refine ⟨?_, ?_, ?_, ?_⟩
    · rintro same
      rw [same] at binds
      cases binds
    · rintro same
      rw [same] at binds
      cases binds
    · intro same
      rw [same] at binds
      cases binds
    · intro leftPower rightPower powers
      rw [binds] at powers
      cases powers
      omega
  have meetsOp : Meets (Continues own) (op :: (rightLexemes ++ more)) follow := mayFollow
  apply leftChains depth power fuel _ follow good (by omega) (by omega) (by omega) meetsOp
  intro left' fuel' leftRead some
  cases fuel' with
  | zero => omega
  | succ fuel' =>
      have rightStops : Meets (Stops (2 * own)) more follow :=
        meets.mono fun kind continues => by
          have wider : Continues own kind :=
            ⟨continues.noCall, continues.noRecord, fun same => by
              have top := continues.field same
              omega, fun leftPower rightPower powers => by
              have lower := continues.weaker leftPower rightPower powers
              omega⟩
          exact wider.stops below (Nat.le_refl _)
      apply operators_infix binds (by omega) (rightReads depth (2 * own) (by omega) (by omega))
        (fun right' rightRead => combined left' right' leftRead rightRead) rightStops
      intro whole wholeRead
      apply later whole fuel' wholeRead
      rw [List.length_append, List.length_cons]
      omega

end

end Parse
end ClauseFlow
