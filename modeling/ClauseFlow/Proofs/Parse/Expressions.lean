import ClauseFlow.Proofs.Parse.Operators

/-!
# Reading printed expressions

The lexemes that an expression is printed as are read as this expression, settled and up to places.
-/

namespace ClauseFlow.Parse

open ClauseFlow.Expr (ReadsAs)

variable {excuse : Prop}

variable {asked : Nat}

/-! ## Where expressions end -/

theorem Stops.of_plain {power : Nat} {kind : TokenKind} (plain : power? kind = none)
    (noCall : kind ≠ .leftParen) (noRecord : kind ≠ .leftBrace) (noField : kind ≠ .dot) :
    Stops power kind where
  noCall := noCall
  noRecord := noRecord
  noField := noField
  weaker left right powers := by
    rw [plain] at powers
    cases powers

/-- An expression may stand before a comma, a bar, a closing mark or a keyword between branches. -/
theorem stops_marks {kind : TokenKind}
    (mark : kind ∈ [TokenKind.comma, .bar, .rightParen, .rightBrace, .rightBracket, .thenKeyword,
      .elseKeyword]) : Stops 0 kind := by
  simp only [List.mem_cons, List.not_mem_nil, or_false] at mark
  rcases mark with rfl | rfl | rfl | rfl | rfl | rfl | rfl
  all_goals exact .of_plain rfl nofun nofun nofun

/-- A sign binds tighter than any operator between two operands. -/
theorem lt_signPower {kind : TokenKind} {left right : Nat}
    (powers : power? kind = some (left, right)) : left < signPower := by
  cases kind
  all_goals first
    | (cases powers; done)
    | (cases powers; decide)

theorem Continues.stops_sign (below : asked < Expr.fieldPrecedence) {kind : TokenKind}
    (continues : Continues asked kind) : Stops signPower kind where
  noCall := continues.noCall
  noRecord := continues.noRecord
  noField same := absurd (continues.field same) (Nat.ne_of_lt below)
  weaker _ _ powers := lt_signPower powers

/-- Where nothing is asked for, the whole rest of an expression is one. -/
theorem Continues.stops_all (loose : asked ≤ 0) {kind : TokenKind}
    (continues : Continues asked kind) : Stops 0 kind := by
  obtain rfl := Nat.le_zero.mp loose
  exact continues.stops (by decide) (Nat.le_refl 0)

/-- Whether a row of lexemes is read as an expression inside a construct. -/
structure Part (excuse : Prop) (expr : Expr) (row : List Lexeme) : Prop where
  starts : Starts row
  reads : ReadsExpr excuse expr 0 row

/-- Whether an entry of a row has the key of an entry and is read as its value. -/
structure EntryPart (excuse : Prop) (entry : String × Expr) (row : String × List Lexeme) : Prop where
  key : row.1 = entry.1
  reads : ReadsExpr excuse entry.2 0 row.2

/-! ## Single tokens -/

theorem integer_chains {value : Nat} {span : Span}
    (short : (Expr.integer value span).hasNotation = true) :
    Chains excuse (.integer value span) asked ((Expr.integer value span).lexemes asked) := by
  rw [Expr.hasNotation] at short
  rw [Expr.lexemes]
  apply Chains.of_operand (List.cons_ne_nil _ _)
  intro depth _
  rw [operand]
  apply Reads.peek
  intro place
  apply Reads.skip
  simp only [integerOf_natText short, pure_bind]
  exact .answer rfl

theorem decimal_chains {value : Binary64} (positive : value.isNegative = false) (span : Span) :
    Chains excuse (.decimal value span) asked [value.lexeme] := by
  apply Chains.of_operand (List.cons_ne_nil _ _)
  intro depth _
  rw [operand, Binary64.lexeme]
  split
  · rename_i finite
    apply Reads.peek
    intro place
    apply Reads.skip
    simp only [decimalOf_text finite positive, pure_bind]
    have settled : Expr.settledDecimal value = .decimal value .generated := if_pos finite
    exact .answer settled.symm
  · rename_i infinite
    apply Reads.peek
    intro place
    apply Reads.skip
    have settled : Expr.settledDecimal value = .ident (Expr.nameAlone value.text) :=
      if_neg infinite
    exact .answer settled.symm

theorem text_chains (value : String) (span : Span) :
    Chains excuse (.text value span) asked [⟨.text, value⟩] := by
  apply Chains.of_operand (List.cons_ne_nil _ _)
  intro depth _
  rw [operand]
  apply Reads.peek
  intro place
  apply Reads.skip
  exact .answer rfl

theorem atom_chains (name : String) (span : Span) :
    Chains excuse (.atom name span) asked [⟨.atom, name⟩] := by
  apply Chains.of_operand (List.cons_ne_nil _ _)
  intro depth _
  rw [operand]
  apply Reads.peek
  intro place
  apply Reads.skip
  exact .answer rfl

theorem boolean_chains (value : Bool) (span : Span) :
    Chains excuse (.boolean value span) asked [⟨.boolean, if value then "true" else "false"⟩] := by
  apply Chains.of_operand (List.cons_ne_nil _ _)
  intro depth _
  rw [operand]
  apply Reads.peek
  intro place
  apply Reads.skip
  cases value
  all_goals exact .answer rfl

theorem nil_chains (span : Span) : Chains excuse (.nil span) asked [⟨.nil, "nil"⟩] := by
  apply Chains.of_operand (List.cons_ne_nil _ _)
  intro depth _
  rw [operand]
  apply Reads.peek
  intro place
  apply Reads.skip
  exact .answer rfl

/-- A name alone is read as an operand, whatever follows. -/
theorem name_reads (inner : Nat → Parse Expr) (fuel : Nat) (name : String) :
    Reads excuse (operand inner fuel) [.name name] (fun _ => True)
      (fun found => ∃ span, found = .ident ⟨name, span⟩) := by
  rw [operand]
  apply Reads.peek
  intro place
  apply Reads.skip
  exact .answer ⟨place, rfl⟩

theorem ident_chains (identifier : Identifier) :
    Chains excuse (.ident identifier) asked [.name identifier.name] := by
  apply Chains.of_operand (List.cons_ne_nil _ _)
  intro depth _
  apply ((name_reads _ _ identifier.name).narrow fun _ _ => trivial).mono
  rintro _ ⟨span, rfl⟩
  rfl

theorem typeName_chains (name : String) (span : Span) :
    Chains excuse (.typeName name span) asked [⟨.typeName, name⟩] := by
  apply Chains.of_operand (List.cons_ne_nil _ _)
  intro depth _
  rw [operand]
  apply Reads.peek
  intro place
  apply Reads.skip
  apply Reads.at_end
  intro kind continues
  simp only [continues.noRecord, decide_false, Bool.false_eq_true, if_false]
  exact .answer rfl

/-! ## Operators -/

theorem BinaryOp.power?_kind (op : BinaryOp) :
    power? op.kind = some (2 * op.precedence - 1, 2 * op.precedence) := by
  cases op <;> rfl

theorem BinaryOp.precedence_bounds (op : BinaryOp) :
    0 < op.precedence ∧ op.precedence + 1 < Expr.fieldPrecedence := by
  cases op <;> decide

theorem combine_binary (op : BinaryOp) (left right : Expr) :
    combine op.kind left right = pure (.binary left op right (left.span.through right.span)) := by
  cases op <;> rfl

variable {left right : Expr} {lexemes leftLexemes rightLexemes : List Lexeme}

theorem binary_chains {op : BinaryOp} (span : Span)
    (leftChains : Chains excuse left op.precedence leftLexemes)
    (rightReads : ReadsExpr excuse right (op.precedence + 1) rightLexemes)
    (loose : asked ≤ op.precedence) :
    Chains excuse (.binary left op right span) asked (leftLexemes ++ op.lexeme :: rightLexemes) := by
  have bounds := BinaryOp.precedence_bounds op
  apply Chains.infix (BinaryOp.power?_kind op) bounds.1 (by omega) leftChains rightReads ?_ loose
  intro left' right' leftRead rightRead
  refine ⟨_, combine_binary op left' right', ?_⟩
  exact congrArg₂ (fun left right => Expr.binary left op right .generated) leftRead rightRead

theorem alternative_chains (span : Span)
    (leftChains : Chains excuse left Expr.alternativePrecedence leftLexemes)
    (rightReads : ReadsExpr excuse right (Expr.alternativePrecedence + 1) rightLexemes)
    (loose : asked ≤ Expr.alternativePrecedence) :
    Chains excuse (.alternative left right span) asked
      (leftLexemes ++ Lexeme.altArrow :: rightLexemes) := by
  have binds : power? Lexeme.altArrow.kind = some (2 * Expr.alternativePrecedence - 1,
      2 * Expr.alternativePrecedence) := rfl
  apply Chains.infix binds (by decide) (by decide) leftChains rightReads ?_ loose
  intro left' right' leftRead rightRead
  refine ⟨_, rfl, ?_⟩
  exact congrArg₂ (fun left right => Expr.alternative left right .generated) leftRead rightRead

/-- A pipe arrow before a function, with or without further arguments. -/
theorem pipe_chains {expr : Expr} (leftChains : Chains excuse left Expr.pipePrecedence leftLexemes)
    (rightReads : ReadsExpr excuse right (Expr.pipePrecedence + 1) rightLexemes)
    (combined : ∀ left' right', ReadsAs left left' → ReadsAs right right' →
      ∃ whole, combine .pipeArrow left' right' = pure whole ∧ ReadsAs expr whole)
    (loose : asked ≤ Expr.pipePrecedence) :
    Chains excuse expr asked (leftLexemes ++ Lexeme.pipeArrow :: rightLexemes) := by
  have binds : power? Lexeme.pipeArrow.kind = some (2 * Expr.pipePrecedence - 1,
      2 * Expr.pipePrecedence) := rfl
  exact Chains.infix binds (by decide) (by decide) leftChains rightReads combined loose

theorem combine_pipe {callee : Identifier} {left' right' : Expr} (span : Span)
    (leftRead : ReadsAs left left') (rightRead : ReadsAs (.ident callee) right') :
    ∃ whole, combine .pipeArrow left' right' = pure whole ∧
      ReadsAs (.pipe left callee span) whole := by
  rcases rightRead.ident with ⟨place, rfl⟩
  refine ⟨_, rfl, ?_⟩
  exact congrArg (fun left => Expr.pipe left (Expr.nameAlone callee.name) .generated) leftRead

theorem combine_pipeCall {callee : Identifier} {arguments : List Expr} {left' right' : Expr}
    (callSpan span : Span) (leftRead : ReadsAs left left')
    (rightRead : ReadsAs (.call callee arguments callSpan) right') :
    ∃ whole, combine .pipeArrow left' right' = pure whole ∧
      ReadsAs (.pipeCall left callee arguments callSpan span) whole := by
  rcases rightRead.call with ⟨place, arguments', span', rfl, same⟩
  refine ⟨_, rfl, ?_⟩
  exact congrArg₂ (fun left arguments => Expr.pipeCall left (Expr.nameAlone callee.name) arguments
    .generated .generated) leftRead same

theorem unary_chains {op : UnaryOp} {inner : Expr} (span : Span)
    (reads : ReadsExpr excuse inner Expr.signPrecedence lexemes) (loose : asked ≤ Expr.signPrecedence) :
    Chains excuse (.unary op inner span) asked (op.lexeme :: lexemes) := by
  apply Chains.of_operand (List.cons_ne_nil _ _)
  intro depth fits
  rw [List.length_cons] at fits
  have below : asked < Expr.fieldPrecedence := Nat.lt_of_le_of_lt loose (by decide)
  have operandReads : Reads excuse (expression depth signPower) lexemes (Continues asked)
      (ReadsAs inner) :=
    (reads depth signPower fits (by decide)).narrow fun _ continues => continues.stops_sign below
  rw [operand]
  cases op
  all_goals
    apply Reads.peek
    intro place
    apply Reads.skip
    apply Reads.bind_last operandReads
    intro found read
    exact .answer (congrArg (fun inner => Expr.unary _ inner .generated) read)

/-! ## Postfixes -/

theorem field_chains {subject : Expr} (name : String) (span : Span)
    (chains : Chains excuse subject Expr.fieldPrecedence lexemes)
    (loose : asked ≤ Expr.fieldPrecedence) :
    Chains excuse (.field subject name span) asked (lexemes ++ ⟨.dot, "."⟩ :: [.name name]) := by
  intro depth power fuel more follow good fits enough bounded meets later
  simp only [List.length_append, List.length_cons, List.length_nil] at fits enough later
  rw [List.append_assoc, List.cons_append, List.singleton_append]
  have continues : Meets (Continues Expr.fieldPrecedence) (⟨.dot, "."⟩ :: .name name :: more)
      follow := by
    change Continues Expr.fieldPrecedence .dot
    exact ⟨nofun, nofun, fun _ => rfl, nofun⟩
  apply chains depth power fuel _ follow good (by omega) (by omega) (by omega) continues
  intro subject' fuel' read some
  cases fuel' with
  | zero => omega
  | succ fuel' =>
      apply operators_field
      intro place
      apply later _ fuel' _ (by omega)
      exact congrArg (fun subject => Expr.field subject name .generated) read

/-- Elements, each with its row, paired off. -/
theorem exists_pairs {α β : Type} {matched : α → β → Prop} {items : List α} {rows : List β}
    (each : List.Forall₂ matched items rows) :
    ∃ pairs : List (α × β), items = pairs.map Prod.fst ∧ rows = pairs.map Prod.snd ∧
      ∀ pair ∈ pairs, matched pair.1 pair.2 := by
  induction each with
  | nil => exact ⟨[], rfl, rfl, nofun⟩
  | @cons item row items rows here _ ih =>
      rcases ih with ⟨pairs, rfl, rfl, others⟩
      exact ⟨(item, row) :: pairs, rfl, rfl, List.forall_mem_cons.mpr ⟨here, others⟩⟩

/-- Elements up to a closing mark are read within a depth. -/
theorem elements_read {exprs : List Expr} {rows : List (List Lexeme)}
    (each : List.Forall₂ (Part excuse) exprs rows) {closing : TokenKind}
    (noStart : closing.starts = false) (stops : Stops 0 closing) {depth bound : Nat}
    (fits : (Lexeme.listed rows).length < depth) (enough : (Lexeme.listed rows).length < bound) :
    Reads excuse (separated (expression depth 0) closing bound true) (Lexeme.listed rows)
      (fun kind => kind = closing)
      (fun found => Expr.rebuildAll Expr.ofDecimal found =
        Expr.rebuildAll Expr.settledDecimal exprs) := by
  obtain ⟨pairs, rfl, rfl, parts⟩ := exists_pairs each
  have starts : ∀ pair ∈ pairs, Starts pair.2 := fun pair member => (parts pair member).starts
  have reads := separated_reads noStart (stops_marks (by decide)) stops starts
    (fun pair member => (parts pair member).reads depth 0 ((rows_fit starts fits).2 pair member)
      (Nat.zero_le _)) (rows_fit starts enough).1
  apply reads.mono
  intro found matched
  exact Expr.rebuildAll_of_readsAs (List.forall₂_map_left_iff.mpr matched)

theorem call_chains (callee : Identifier) {calleeLexemes : List Lexeme} {arguments : List Expr}
    {rows : List (List Lexeme)} (span : Span)
    (calleeReads : ∀ depth, calleeLexemes.length ≤ depth →
      Reads excuse (operand (expression depth) depth) calleeLexemes (fun _ => True)
        (fun found => ∃ place, found = .ident ⟨callee.name, place⟩))
    (each : List.Forall₂ (Part excuse) arguments rows) :
    Chains excuse (.call callee arguments span) asked
      (calleeLexemes ++ Lexeme.parenthesized (Lexeme.listed rows)) := by
  intro depth power fuel more follow good fits enough _ _ later
  simp only [Lexeme.parenthesized, Lexeme.enclosed, List.cons_append, List.length_cons,
    List.length_append] at fits enough later
  rw [List.append_assoc]
  apply Reads.bind (calleeReads depth (by omega)) Meets.any
  rintro _ ⟨place, rfl⟩
  cases fuel with
  | zero => omega
  | succ fuel =>
      apply operators_call (elements_read each rfl (stops_marks (by decide)) (by omega) (by omega))
      intro arguments' place' allRead
      apply later _ fuel _ (by omega)
      exact congrArg (fun arguments => Expr.call (Expr.nameAlone callee.name) arguments .generated)
        allRead

/-! ## Constructs -/

theorem result_chains (tag : ResultTag) {value : Expr} (span : Span)
    (reads : ReadsExpr excuse value 0 lexemes) :
    Chains excuse (.result tag value span) asked
      (⟨tag.kind, tag.text⟩ :: Lexeme.parenthesized lexemes) := by
  apply Chains.of_operand (List.cons_ne_nil _ _)
  intro depth fits
  simp only [Lexeme.parenthesized, Lexeme.enclosed, List.cons_append, List.length_cons,
    List.length_append] at fits ⊢
  have closes : Meets (Stops 0) [⟨.rightParen, ")"⟩] (Continues asked) :=
    stops_marks (by decide)
  rw [operand]
  cases tag
  all_goals
    apply Reads.peek
    intro place
    apply Reads.skip
    apply Reads.skip_expected
    apply Reads.bind (reads depth 0 (by omega) (Nat.zero_le _)) closes
    intro found read
    apply Reads.expected
    intro place'
    exact .answer (congrArg (fun inner => Expr.result _ inner .generated) read)

theorem tuple_chains {elements : List Expr} {rows : List (List Lexeme)} (span : Span)
    (each : List.Forall₂ (Part excuse) elements rows) :
    Chains excuse (.tuple elements span) asked (Lexeme.braced (Lexeme.listed rows)) := by
  rw [Lexeme.braced, Lexeme.enclosed, List.cons_append]
  apply Chains.of_operand (List.cons_ne_nil _ _)
  intro depth fits
  rw [List.length_cons, List.length_append] at fits
  have shorter : (Lexeme.listed rows).length < depth := by omega
  rw [operand]
  apply Reads.peek
  intro place
  apply Reads.skip
  have closes : Meets (fun kind => kind = .rightBrace) [⟨.rightBrace, "\x7d"⟩] (Continues asked) :=
    rfl
  apply Reads.bind (elements_read each rfl (stops_marks (by decide)) shorter shorter) closes
  intro found allRead
  apply Reads.expected
  intro place'
  exact .answer (congrArg (fun found => Expr.tuple found .generated) allRead)

theorem list_chains {elements : List Expr} {rows : List (List Lexeme)} (span : Span)
    {tail? : Option Expr} {tailRow? : Option (List Lexeme)}
    (each : List.Forall₂ (Part excuse) elements rows)
    (tailReads : Option.Rel (Part excuse) tail? tailRow?)
    (nonempty : tail?.isSome = true → elements ≠ []) :
    Chains excuse (.list elements tail? span) asked
      (Lexeme.bracketed (Lexeme.listed rows ++ tailLexemes id tailRow?)) := by
  obtain ⟨pairs, rfl, rfl, parts⟩ := exists_pairs each
  obtain ⟨tailPair?, rfl, rfl, tailPart⟩ : ∃ pair? : Option (Expr × List Lexeme),
      tail? = pair?.map Prod.fst ∧ tailRow? = pair?.map Prod.snd ∧
        ∀ pair ∈ pair?.toList, Part excuse pair.1 pair.2 := by
    cases tailReads with
    | none => exact ⟨none, rfl, rfl, nofun⟩
    | @some tail row part => exact ⟨some (tail, row), rfl, rfl, List.forall_mem_singleton.mpr part⟩
  have sameTail : tailLexemes id (tailPair?.map Prod.snd) = tailLexemes Prod.snd tailPair? := by
    cases tailPair? <;> rfl
  have starts : ∀ pair ∈ pairs, Starts pair.2 := fun pair member => (parts pair member).starts
  have allParts : ∀ pair ∈ pairs ++ tailPair?.toList, Part excuse pair.1 pair.2 :=
    List.forall_mem_append.mpr ⟨parts, tailPart⟩
  rw [sameTail, Lexeme.bracketed, Lexeme.enclosed, List.cons_append]
  apply Chains.of_operand (List.cons_ne_nil _ _)
  intro depth fits
  rw [List.length_cons, List.length_append, List.length_singleton] at fits
  rw [operand]
  apply Reads.peek
  intro place
  apply Reads.skip
  have closes : Meets (fun kind => kind = .rightBracket) [⟨.rightBracket, "]"⟩]
      (Continues asked) := rfl
  apply Reads.bind (separatedWithTail_within starts (stops_marks (by decide))
    (stops_marks (by decide)) (stops_marks (by decide))
    (fun pair member enough => (allParts pair member).reads depth 0 enough (Nat.zero_le _))
    (by simpa using nonempty) (Nat.lt_of_lt_of_le (by omega) fits)) closes
  rintro ⟨elements', tail?'⟩ ⟨allRead, tailRead⟩
  apply Reads.expected
  intro place'
  apply Reads.answer
  have same := Expr.rebuildAll_of_readsAs (List.forall₂_map_left_iff.mpr allRead)
  cases tailRead with
  | none => exact congrArg (fun found => Expr.list found none .generated) same
  | some tailRead =>
      have both := congrArg₂ (fun found tail => Expr.list found (some tail) .generated) same
        tailRead
      exact both

/-- Entries, each with its row, paired off. -/
theorem exists_entries {items : List (String × Expr)} {rows : List (String × List Lexeme)}
    (each : List.Forall₂ (EntryPart excuse) items rows) :
    ∃ parts : List (String × Expr × List Lexeme),
      items = parts.map (fun part => (part.1, part.2.1)) ∧
      rows = parts.map (fun part => (part.1, part.2.2)) ∧
      ∀ part ∈ parts, ReadsExpr excuse part.2.1 0 part.2.2 := by
  induction each with
  | nil => exact ⟨[], rfl, rfl, nofun⟩
  | @cons item row items rows here _ ih =>
      rcases ih with ⟨parts, rfl, rfl, others⟩
      obtain ⟨key, expr⟩ := item
      obtain ⟨key', row⟩ := row
      obtain ⟨rfl, reads⟩ := here
      exact ⟨(key', expr, row) :: parts, rfl, rfl, List.forall_mem_cons.mpr ⟨reads, others⟩⟩

/-- Entries and the closing brace after them. -/
theorem closedEntries_reads {items : List (String × Expr)} {rows : List (String × List Lexeme)}
    {depth : Nat} (each : List.Forall₂ (EntryPart excuse) items rows)
    (distinct : areKeys (items.map (·.1)) = true)
    (fits : (Lexeme.listed (rows.map fun row => Lexeme.entry row.1 row.2)).length < depth) :
    Reads excuse (entries (expression depth 0) depth [])
      (Lexeme.listed (rows.map fun row => Lexeme.entry row.1 row.2))
      (fun kind => kind = .rightBrace)
      (fun found => Expr.rebuildEntries Expr.ofDecimal found =
        Expr.rebuildEntries Expr.settledDecimal items) := by
  obtain ⟨parts, rfl, rfl, reads⟩ := exists_entries each
  rw [List.map_map] at fits distinct ⊢
  let matched : Expr × List Lexeme → Expr → Prop := fun part => ReadsAs part.1
  have within : ∀ part ∈ parts, (Prod.snd part.2).length < depth →
      Reads excuse (expression depth 0) (Prod.snd part.2) (Stops 0) (matched part.2) :=
    fun part member enough => reads part member depth 0 enough (Nat.zero_le _)
  have inside := entries_within (stops_marks (by decide)) (stops_marks (by decide)) within
    (nodup_of_areKeys distinct) fits
  apply inside.mono
  intro found matched
  exact Expr.rebuildEntries_of_readsAs (List.forall₂_map_left_iff.mpr matched)

theorem map_chains {items : List (String × Expr)} {rows : List (String × List Lexeme)}
    (span : Span) (each : List.Forall₂ (EntryPart excuse) items rows)
    (distinct : areKeys (items.map (·.1)) = true) :
    Chains excuse (.map items span) asked
      (Lexeme.mapped (Lexeme.listed (rows.map fun row => Lexeme.entry row.1 row.2))) := by
  rw [Lexeme.mapped, Lexeme.enclosed, List.cons_append]
  apply Chains.of_operand (List.cons_ne_nil _ _)
  intro depth fits
  rw [List.length_cons, List.length_append] at fits
  rw [operand]
  apply Reads.peek
  intro place
  apply Reads.skip
  have closes : Meets (fun kind => kind = .rightBrace) [⟨.rightBrace, "\x7d"⟩] (Continues asked) :=
    rfl
  apply Reads.bind (closedEntries_reads each distinct (Nat.lt_of_lt_of_le (by omega) fits)) closes
  intro found allRead
  apply Reads.expected
  intro place'
  exact .answer (congrArg (fun found => Expr.map found .generated) allRead)

theorem record_chains (tag : String) {items : List (String × Expr)}
    {rows : List (String × List Lexeme)} (span : Span)
    (each : List.Forall₂ (EntryPart excuse) items rows)
    (distinct : areKeys (items.map (·.1)) = true) :
    Chains excuse (.record tag items span) asked
      (⟨.typeName, tag⟩ ::
        Lexeme.braced (Lexeme.listed (rows.map fun row => Lexeme.entry row.1 row.2))) := by
  apply Chains.of_operand (List.cons_ne_nil _ _)
  intro depth fits
  simp only [Lexeme.braced, Lexeme.enclosed, List.cons_append, List.length_cons,
    List.length_append] at fits ⊢
  rw [operand]
  apply Reads.peek
  intro place
  apply Reads.skip
  apply Reads.at_head
  simp only [decide_true, if_true]
  apply Reads.skip
  have closes : Meets (fun kind => kind = .rightBrace) [⟨.rightBrace, "\x7d"⟩] (Continues asked) :=
    rfl
  apply Reads.bind (closedEntries_reads each distinct (Nat.lt_of_lt_of_le (by omega) fits)) closes
  intro found allRead
  apply Reads.expected
  intro place'
  exact .answer (congrArg (fun found => Expr.record tag found .generated) allRead)

theorem values_of_lexemes {params : List String} {tokens : List Token}
    (each : List.Forall₂ (fun param (token : Token) => token.lexeme = .name param) params tokens) :
    tokens.map (·.value) = params := by
  induction each with
  | nil => rfl
  | @cons param token params tokens here _ ih =>
      obtain ⟨kind, value, span⟩ := token
      cases here
      exact congrArg (value :: ·) ih

/-- The parameters of a function, up to the closing parenthesis. -/
theorem params_read {params : List String} {bound : Nat}
    (fits : (Lexeme.listed (params.map fun param => [.name param])).length < bound) :
    Reads excuse (separated (expect .name) .rightParen bound true)
      (Lexeme.listed (params.map fun param => [.name param])) (fun kind => kind = .rightParen)
      (fun found => found.map (·.value) = params) := by
  have starts : ∀ param ∈ params, Starts [Lexeme.name param] := fun _ _ => .cons rfl []
  have each : ∀ param ∈ params, [Lexeme.name param].length < bound →
      Reads excuse (expect .name) [.name param] (fun _ => True)
        (fun token => token.lexeme = .name param) := fun _ _ _ => Reads.demand
  exact (separated_within rfl starts trivial trivial each fits).mono fun _ => values_of_lexemes

theorem lambda_chains (params : List String) {body : Expr} (span : Span)
    (reads : ReadsExpr excuse body 0 lexemes) (loose : asked ≤ 0) :
    Chains excuse (.lambda params body span) asked
      (⟨.fnKeyword, "fn"⟩ ::
        Lexeme.parenthesized (Lexeme.listed (params.map fun param => [.name param])) ++
        .arrow :: lexemes) := by
  simp only [Lexeme.parenthesized, Lexeme.enclosed, List.cons_append, List.append_assoc,
    List.nil_append]
  apply Chains.of_operand (List.cons_ne_nil _ _)
  intro depth fits
  simp only [List.length_cons, List.length_append] at fits
  have closes : Meets (fun kind => kind = .rightParen)
      (⟨.rightParen, ")"⟩ :: Lexeme.arrow :: lexemes) (Continues asked) := rfl
  have shorter : (Lexeme.listed (params.map fun param => [.name param])).length < depth := by omega
  rw [operand]
  apply Reads.peek
  intro place
  apply Reads.skip
  apply Reads.skip_expected
  apply Reads.bind (params_read shorter) closes
  intro found named
  apply Reads.skip_expected
  apply Reads.skip_expected
  apply Reads.bind_last ((reads depth 0 (by omega) (Nat.zero_le _)).narrow fun _ continues =>
    continues.stops_all loose)
  intro body' read
  exact .answer (congrArg₂ (fun params body => Expr.lambda params body .generated) named read)

theorem conditional_chains {condition thenBranch elseBranch : Expr}
    {thenLexemes elseLexemes : List Lexeme} (span : Span)
    (conditionReads : ReadsExpr excuse condition 0 lexemes)
    (thenReads : ReadsExpr excuse thenBranch 0 thenLexemes)
    (elseReads : ReadsExpr excuse elseBranch 0 elseLexemes) (loose : asked ≤ 0) :
    Chains excuse (.conditional condition thenBranch elseBranch span) asked
      (⟨.ifKeyword, "if"⟩ :: lexemes ++ ⟨.thenKeyword, "then"⟩ :: thenLexemes ++
        ⟨.elseKeyword, "else"⟩ :: elseLexemes) := by
  simp only [List.cons_append, List.append_assoc]
  apply Chains.of_operand (List.cons_ne_nil _ _)
  intro depth fits
  simp only [List.length_cons, List.length_append] at fits
  rw [operand]
  apply Reads.peek
  intro place
  apply Reads.skip
  have beforeThen : Meets (Stops 0) (⟨.thenKeyword, "then"⟩ :: (thenLexemes ++
      ⟨.elseKeyword, "else"⟩ :: elseLexemes)) (Continues asked) := stops_marks (by decide)
  apply Reads.bind (conditionReads depth 0 (by omega) (Nat.zero_le _)) beforeThen
  intro condition' conditionRead
  apply Reads.skip_expected
  have beforeElse : Meets (Stops 0) (⟨.elseKeyword, "else"⟩ :: elseLexemes) (Continues asked) :=
    stops_marks (by decide)
  apply Reads.bind (thenReads depth 0 (by omega) (Nat.zero_le _)) beforeElse
  intro then' thenRead
  apply Reads.skip_expected
  apply Reads.bind_last ((elseReads depth 0 (by omega) (Nat.zero_le _)).narrow fun _ continues =>
    continues.stops_all loose)
  intro else' elseRead
  apply Reads.answer
  have branches := congrArg₂ (fun thenBranch elseBranch =>
    Expr.conditional condition'.unplaced thenBranch elseBranch .generated) thenRead elseRead
  exact branches.trans (congrArg (fun condition => Expr.conditional condition thenBranch.settled
    elseBranch.settled .generated) conditionRead)

/-! ## Expressions -/

theorem entry_rows (items : List (String × Expr)) :
    (items.map fun entry => (entry.1, entry.2.lexemes 0)).map
      (fun row => Lexeme.entry row.1 row.2) = Expr.lexemesOfEntries items := by
  rw [Expr.lexemesOfEntries_eq, List.map_map]
  rfl

mutual

/-- An expression is read from its lexemes, in every place. -/
theorem chains : ∀ {expr : Expr} {asked : Nat}, expr.isSpelled = true →
    expr.hasNotation = true → asked ≤ Expr.fieldPrecedence →
      Chains excuse expr asked (expr.lexemes asked)
  | .integer _ _ => fun _ short _ => integer_chains short
  | .decimal _ span => by
      intro spelled _ _
      simp only [Expr.isSpelled, Expr.every, Expr.isSpelledPart, Bool.and_eq_true,
        Bool.not_eq_true'] at spelled
      exact decimal_chains spelled.1 span
  | .text value span => fun _ _ _ => text_chains value span
  | .atom name span => fun _ _ _ => atom_chains name span
  | .boolean value span => fun _ _ _ => boolean_chains value span
  | .nil span => fun _ _ _ => nil_chains span
  | .ident identifier => fun _ _ _ => ident_chains identifier
  | .typeName name span => fun _ _ _ => typeName_chains name span
  | .binary left op right span => by
      intro spelled short _
      simp only [Expr.isSpelled, Expr.every, Expr.isSpelledPart, Expr.hasNotation,
        Bool.and_eq_true, true_and] at spelled short
      have bounds := BinaryOp.precedence_bounds op
      rw [Expr.lexemes]
      apply Chains.grouped
      intro asked loose
      exact binary_chains span (chains spelled.1 short.1 (by omega))
        (chains spelled.2 short.2 (by omega)).readsExpr loose
  | .unary op inner span => by
      intro spelled short _
      simp only [Expr.isSpelled, Expr.every, Expr.isSpelledPart, Expr.hasNotation,
        Bool.and_eq_true, true_and] at spelled short
      rw [Expr.lexemes]
      apply Chains.grouped
      intro asked loose
      exact unary_chains span (chains spelled short (by decide)).readsExpr loose
  | .call callee arguments span => by
      intro spelled short _
      simp only [Expr.isSpelled, Expr.every, Expr.isSpelledPart, Bool.and_eq_true] at spelled
      exact call_chains callee span (fun _ _ => name_reads _ _ callee.name)
        (allRead spelled.2 short)
  | .delegate .. => by
      intro spelled _ _
      simp [Expr.isSpelled, Expr.every, Expr.isSpelledPart] at spelled
  | .field subject name span => by
      intro spelled short loose
      simp only [Expr.isSpelled, Expr.every, Bool.and_eq_true] at spelled
      exact field_chains name span (chains spelled.2 short (Nat.le_refl _)) loose
  | .pipe left callee span => by
      intro spelled short _
      simp only [Expr.isSpelled, Expr.every, Bool.and_eq_true] at spelled
      rw [Expr.lexemes]
      apply Chains.grouped
      intro asked loose
      exact pipe_chains (chains spelled.2 short (by decide)) (ident_chains callee).readsExpr
        (fun _ _ => combine_pipe span) loose
  | .pipeCall left callee arguments callSpan span => by
      intro spelled short _
      simp only [Expr.isSpelled, Expr.every, Expr.hasNotation, Bool.and_eq_true]
        at spelled short
      rw [Expr.lexemes]
      apply Chains.grouped
      intro asked loose
      exact pipe_chains (chains spelled.1.2 short.1 (by decide))
        (call_chains callee callSpan (fun _ _ => name_reads _ _ callee.name)
          (allRead spelled.2 short.2)).readsExpr
        (fun _ _ => combine_pipeCall callSpan span) loose
  | .alternative left right span => by
      intro spelled short _
      simp only [Expr.isSpelled, Expr.every, Expr.isSpelledPart, Expr.hasNotation,
        Bool.and_eq_true, true_and] at spelled short
      rw [Expr.lexemes]
      apply Chains.grouped
      intro asked loose
      exact alternative_chains span (chains spelled.1 short.1 (by decide))
        (chains spelled.2 short.2 (by decide)).readsExpr loose
  | .result tag value span => by
      intro spelled short _
      simp only [Expr.isSpelled, Expr.every, Expr.isSpelledPart, Bool.true_and] at spelled
      exact result_chains tag span (chains spelled short (Nat.zero_le _)).readsExpr
  | .tuple elements span => by
      intro spelled short _
      simp only [Expr.isSpelled, Expr.every, Expr.isSpelledPart, Bool.true_and] at spelled
      exact tuple_chains span (allRead spelled short)
  | .list elements none span => by
      intro spelled short _
      simp only [Expr.isSpelled, Expr.every, Expr.isSpelledPart, Bool.true_and] at spelled
      rw [Expr.lexemes, ← List.append_nil (Lexeme.listed _)]
      exact list_chains span (allRead spelled short) .none nofun
  | .list elements (some tail) span => by
      intro spelled short _
      simp only [Expr.isSpelled, Expr.every, Expr.isSpelledPart, Expr.hasNotation,
        Bool.and_eq_true, Bool.not_eq_true', List.isEmpty_eq_false_iff] at spelled short
      exact list_chains span (allRead spelled.1.2 short.1)
        (.some ⟨(Expr.printed 0 spelled.2).starts,
          (chains spelled.2 short.2 (Nat.zero_le _)).readsExpr⟩)
        fun _ => spelled.1.1
  | .map items span => by
      intro spelled short _
      simp only [Expr.isSpelled, Expr.every, Expr.isSpelledPart, Bool.and_eq_true] at spelled
      rw [Expr.lexemes, ← entry_rows]
      exact map_chains span (entriesRead spelled.2 short) spelled.1
  | .record tag items span => by
      intro spelled short _
      simp only [Expr.isSpelled, Expr.every, Expr.isSpelledPart, Bool.and_eq_true] at spelled
      rw [Expr.lexemes, ← entry_rows]
      exact record_chains tag span (entriesRead spelled.2 short) spelled.1.2
  | .lambda params body span => by
      intro spelled short _
      simp only [Expr.isSpelled, Expr.every, Bool.and_eq_true] at spelled
      rw [Expr.lexemes]
      apply Chains.grouped
      intro asked loose
      exact lambda_chains params span (chains spelled.2 short (Nat.zero_le _)).readsExpr loose
  | .conditional condition thenBranch elseBranch span => by
      intro spelled short _
      simp only [Expr.isSpelled, Expr.every, Expr.isSpelledPart, Expr.hasNotation,
        Bool.and_eq_true, true_and] at spelled short
      rw [Expr.lexemes]
      apply Chains.grouped
      intro asked loose
      exact conditional_chains span (chains spelled.1.1 short.1.1 (Nat.zero_le _)).readsExpr
        (chains spelled.1.2 short.1.2 (Nat.zero_le _)).readsExpr
        (chains spelled.2 short.2 (Nat.zero_le _)).readsExpr loose

theorem allRead : ∀ {exprs : List Expr}, Expr.everyOfAll Expr.isSpelledPart exprs = true →
    Expr.allHaveNotation exprs = true →
      List.Forall₂ (Part excuse) exprs (Expr.lexemesOfAll exprs)
  | [], _, _ => .nil
  | expr :: rest, spelled, short => by
      simp only [Expr.everyOfAll, Expr.allHaveNotation, Bool.and_eq_true] at spelled short
      exact .cons ⟨(Expr.printed 0 spelled.1).starts,
        (chains spelled.1 short.1 (Nat.zero_le _)).readsExpr⟩ (allRead spelled.2 short.2)

theorem entriesRead : ∀ {items : List (String × Expr)},
    Expr.everyOfEntries Expr.isSpelledPart items = true →
      Expr.entriesHaveNotation items = true →
        List.Forall₂ (EntryPart excuse) items
          (items.map fun entry => (entry.1, entry.2.lexemes 0))
  | [], _, _ => .nil
  | (key, expr) :: rest, spelled, short => by
      simp only [Expr.everyOfEntries, Expr.entriesHaveNotation, Bool.and_eq_true]
        at spelled short
      exact .cons ⟨rfl, (chains spelled.1 short.1 (Nat.zero_le _)).readsExpr⟩
        (entriesRead spelled.2 short.2)

end

end ClauseFlow.Parse
