import ClauseFlow.Proofs.Parse.Single
import ClauseFlow.Proofs.Value.Written
import ClauseFlow.Session

/-!
# Values read back

What a value is shown as is read as an expression that comes to this value again, in whatever
session it is evaluated.
-/

namespace ClauseFlow

namespace Eval

/-- Whether an expression comes to a value, whatever is bound or declared. -/
def Denotes (expr : Expr) (value : Value) : Prop :=
  ∀ calls setting env, evaluate calls setting env expr = pure value

def AllDenote (exprs : List Expr) (values : List Value) : Prop :=
  ∀ calls setting env, evaluateAll calls setting env exprs = pure values

def EntriesDenote (entries : List (String × Expr)) (values : Value.Entries) : Prop :=
  ∀ calls setting env, evaluateEntries calls setting env entries = pure values

namespace Denotes

variable {expr : Expr} {value : Value} {span : Span}

/-- A minus sign before a number. -/
theorem negate {number : Value.Number} (isNumber : value.number? = some number)
    {negative : Value} (comes : ∀ home, number.neg.toValue home = pure negative)
    (denotes : Denotes expr value) : Denotes (.unary .negate expr span) negative := by
  intro calls setting env
  rw [evaluate, denotes, pure_bind, unary]
  simp only [isNumber, comes]

theorem result {tag : ResultTag} (denotes : Denotes expr value) :
    Denotes (.result tag expr span) (.result tag value) := by
  intro calls setting env
  rw [evaluate, denotes, pure_bind]

theorem tuple {exprs : List Expr} {values : List Value} (denote : AllDenote exprs values) :
    Denotes (.tuple exprs span) (.tuple values) := by
  intro calls setting env
  rw [evaluate, denote, pure_bind]

theorem list {exprs : List Expr} {values : List Value} (denote : AllDenote exprs values) :
    Denotes (.list exprs none span) (.list values) := by
  intro calls setting env
  rw [evaluate, denote, pure_bind]

theorem map {entries : List (String × Expr)} {values : Value.Entries}
    (denote : EntriesDenote entries values) : Denotes (.map entries span) (.map values) := by
  intro calls setting env
  rw [evaluate, denote, pure_bind]

theorem record {tag : String} {entries : List (String × Expr)} {values : Value.Entries}
    (denote : EntriesDenote entries values) :
    Denotes (.record tag entries span) (.record tag values) := by
  intro calls setting env
  rw [evaluate, denote, pure_bind]

end Denotes

/-! ## The expression of a value -/

theorem exists_integer_of_unplaced {expr : Expr} {value : Nat}
    (same : expr.rebuild Expr.ofDecimal = .integer value .generated) :
    ∃ span, expr = .integer value span := by
  cases expr with
  | integer _ span =>
      cases same
      exact ⟨span, rfl⟩
  | list _ tail _ => cases tail <;> cases same
  | _ => cases same

theorem exists_decimal_of_unplaced {expr : Expr} {value : Binary64}
    (same : expr.rebuild Expr.ofDecimal = .decimal value .generated) :
    ∃ span, expr = .decimal value span := by
  cases expr with
  | decimal _ span =>
      cases same
      exact ⟨span, rfl⟩
  | list _ tail _ => cases tail <;> cases same
  | _ => cases same

/-- A number is read with its sign before it. -/
theorem exists_signed_of_unplaced {expr size : Expr} {negative : Bool}
    (same : expr.rebuild Expr.ofDecimal = Value.signed negative size) :
    (negative = false ∧ expr.rebuild Expr.ofDecimal = size) ∨
      (negative = true ∧ ∃ operand span, expr = .unary .negate operand span ∧
        operand.rebuild Expr.ofDecimal = size) := by
  cases negative with
  | false => exact .inl ⟨rfl, same⟩
  | true =>
      refine .inr ⟨rfl, ?_⟩
      cases expr with
      | unary op operand span =>
          cases same
          exact ⟨operand, span, rfl, rfl⟩
      | list _ tail _ => cases tail <;> cases same
      | _ => cases same

theorem denotes_integer {expr : Expr} {value : Int}
    (same : expr.rebuild Expr.ofDecimal = (Value.integer value).expr) :
    Denotes expr (.integer value) := by
  rcases exists_signed_of_unplaced same with
    ⟨positive, size⟩ | ⟨negative, operand, span, rfl, size⟩
  · rcases exists_integer_of_unplaced size with ⟨span, rfl⟩
    have size : (value.natAbs : Int) = value :=
      Int.natAbs_of_nonneg (Int.not_lt.mp (decide_eq_false_iff_not.mp positive))
    intro calls setting env
    rw [evaluate, size]
  · rcases exists_integer_of_unplaced size with ⟨place, rfl⟩
    have size : -(value.natAbs : Int) = value := by
      have below := decide_eq_true_iff.mp negative
      omega
    have constant : Denotes (.integer value.natAbs place) (.integer value.natAbs) :=
      fun _ _ _ => rfl
    apply constant.negate rfl
    intro home
    rw [Value.Number.neg, size, Value.Number.toValue]

theorem denotes_decimal {expr : Expr} {value : Binary64} (finite : value.isFinite = true)
    (same : expr.rebuild Expr.ofDecimal = (Value.decimal value).expr) :
    Denotes expr (.decimal value) := by
  rcases exists_signed_of_unplaced same with
    ⟨positive, size⟩ | ⟨negative, operand, span, rfl, size⟩
  · rcases exists_decimal_of_unplaced size with ⟨span, rfl⟩
    intro calls setting env
    rw [evaluate, Value.abs_of_positive positive]
  · rcases exists_decimal_of_unplaced size with ⟨place, rfl⟩
    have constant : Denotes (.decimal value.abs place) (.decimal value.abs) := fun _ _ _ => rfl
    apply constant.negate rfl
    intro home
    rw [Value.Number.neg, Parse.neg_abs negative]
    cases value with
    | finite => rfl
    | _ => cases finite

mutual

/-- An expression that is the one of a value, up to places, denotes it. -/
theorem denotes_of_unplaced : ∀ {value : Value} {expr : Expr}, value.isSpelled = true →
    expr.rebuild Expr.ofDecimal = value.expr → Denotes expr value
  | .nil, expr => by
      intro _ same
      cases expr with
      | nil span => exact fun _ _ _ => rfl
      | list _ tail _ => cases tail <;> cases same
      | _ => cases same
  | .boolean value, expr => by
      intro _ same
      cases expr with
      | boolean _ span =>
          cases same
          exact fun _ _ _ => rfl
      | list _ tail _ => cases tail <;> cases same
      | _ => cases same
  | .integer value, expr => fun _ same => denotes_integer same
  | .decimal value, expr => fun spelled same => denotes_decimal spelled same
  | .text value, expr => by
      intro _ same
      cases expr with
      | text _ span =>
          cases same
          exact fun _ _ _ => rfl
      | list _ tail _ => cases tail <;> cases same
      | _ => cases same
  | .atom name, expr => by
      intro _ same
      cases expr with
      | atom _ span =>
          cases same
          exact fun _ _ _ => rfl
      | list _ tail _ => cases tail <;> cases same
      | _ => cases same
  | .recordType name, expr => by
      intro _ same
      cases expr with
      | typeName _ span =>
          cases same
          exact fun _ _ _ => rfl
      | list _ tail _ => cases tail <;> cases same
      | _ => cases same
  | .result tag inner, expr => by
      intro spelled same
      cases expr with
      | result _ inside span =>
          simp only [Expr.rebuild, Value.expr, Expr.result.injEq, and_true] at same
          rcases same with ⟨rfl, same⟩
          have denotes : Denotes inside inner := denotes_of_unplaced spelled same
          exact denotes.result
      | list _ tail _ => cases tail <;> cases same
      | _ => cases same
  | .tuple elements, expr => by
      intro spelled same
      cases expr with
      | tuple inside span =>
          simp only [Expr.rebuild, Value.expr, Expr.tuple.injEq, and_true] at same
          have denote : AllDenote inside elements := allDenote_of_unplaced spelled same
          exact .tuple denote
      | list _ tail _ => cases tail <;> cases same
      | _ => cases same
  | .list elements, expr => by
      intro spelled same
      cases expr with
      | list inside tail span =>
          cases tail with
          | none =>
              simp only [Expr.rebuild, Value.expr, Expr.list.injEq, and_true] at same
              have denote : AllDenote inside elements := allDenote_of_unplaced spelled same
              exact .list denote
          | some tail => simp only [Expr.rebuild, Value.expr, reduceCtorEq, and_false, false_and,
              Expr.list.injEq] at same
      | _ => cases same
  | .map entries, expr => by
      intro spelled same
      simp only [Value.isSpelled, Bool.and_eq_true] at spelled
      cases expr with
      | map inside span =>
          simp only [Expr.rebuild, Value.expr, Expr.map.injEq, and_true] at same
          have denote : EntriesDenote inside entries := entriesDenote_of_unplaced spelled.2 same
          exact .map denote
      | list _ tail _ => cases tail <;> cases same
      | _ => cases same
  | .record tag entries, expr => by
      intro spelled same
      simp only [Value.isSpelled, Bool.and_eq_true] at spelled
      cases expr with
      | record _ inside span =>
          simp only [Expr.rebuild, Value.expr, Expr.record.injEq, and_true] at same
          rcases same with ⟨rfl, same⟩
          have denote : EntriesDenote inside entries := entriesDenote_of_unplaced spelled.2 same
          exact .record denote
      | list _ tail _ => cases tail <;> cases same
      | _ => cases same
  | .undefined _, _ | .closure .., _ | .function .., _ => fun spelled _ => by cases spelled

theorem allDenote_of_unplaced : ∀ {values : List Value} {exprs : List Expr},
    Value.allSpelled values = true →
      Expr.rebuildAll Expr.ofDecimal exprs = Value.exprs values → AllDenote exprs values
  | [], [] => fun _ _ _ _ _ => rfl
  | [], _ :: _ | _ :: _, [] => fun _ same => by cases same
  | value :: rest, expr :: exprs => by
      intro spelled same
      simp only [Value.allSpelled, Bool.and_eq_true] at spelled
      simp only [Expr.rebuildAll, Value.exprs, List.cons.injEq] at same
      have denotes : Denotes expr value := denotes_of_unplaced spelled.1 same.1
      have others : AllDenote exprs rest := allDenote_of_unplaced spelled.2 same.2
      intro calls setting env
      rw [evaluateAll, denotes, pure_bind, others, pure_bind]

theorem entriesDenote_of_unplaced : ∀ {entries : Value.Entries} {exprs : List (String × Expr)},
    Value.entriesSpelled entries = true →
      Expr.rebuildEntries Expr.ofDecimal exprs = Value.exprEntries entries →
        EntriesDenote exprs entries
  | [], [] => fun _ _ _ _ _ => rfl
  | [], _ :: _ | _ :: _, [] => fun _ same => by cases same
  | (key, value) :: rest, (name, expr) :: exprs => by
      intro spelled same
      simp only [Value.entriesSpelled, Bool.and_eq_true] at spelled
      simp only [Expr.rebuildEntries, Value.exprEntries, List.cons.injEq, Prod.mk.injEq] at same
      rcases same with ⟨⟨sameKey, same⟩, sameRest⟩
      have key : .text name = key := by
        rw [sameKey]
        exact Value.text_keyText spelled.1.1
      have denotes : Denotes expr value := denotes_of_unplaced spelled.1.2 same
      have others : EntriesDenote exprs rest := entriesDenote_of_unplaced spelled.2 sameRest
      intro calls setting env
      rw [evaluateEntries, denotes, pure_bind, others, pure_bind, key]

end

end Eval

namespace Value

/-- A value that an expression denotes is read back from the text that it is shown as. -/
theorem exists_read_of_isSpelled {value : Value} (spelled : value.isSpelled = true)
    (short : value.hasNotation = true) (file : String) :
    ∃ text, value.print? = some text ∧
      ∃ expr, Expr.read file text = .ok expr ∧
        ∀ session : Session, session.evaluate expr = (.ok value, session) := by
  have found := isSpelled_expr spelled
  rcases Expr.read_print found.1 (hasNotation_expr short) file with ⟨expr, read, readsAs⟩
  rw [print_expr spelled] at read
  refine ⟨value.print, if_pos short, expr, read, fun session => ?_⟩
  have same : expr.rebuild Expr.ofDecimal = value.expr := by
    rw [← unplaced_expr value, ← Expr.settled_eq_unplaced found.2]
    exact readsAs
  have denotes := Eval.denotes_of_unplaced spelled same
  rw [Session.evaluate, Session.run, denotes]
  rfl

/-- Whether a value is one that an expression denotes and all its integers have a numeral. -/
structure IsWritable (value : Value) : Prop where
  spelled : value.isSpelled = true
  short : value.hasNotation = true

/-- The text that a value is shown as is read as an expression, and in whatever session this is
evaluated, it comes to the very same value and changes nothing. What counts as a name, a tag or an
atom is what is cut into a single token; see `exists_read_of_isCutSingly`. -/
theorem evaluate_read_print {value : Value} (writable : value.IsWritable) (file : String) :
    ∃ text, value.print? = some text ∧
      ∃ expr, Expr.read file text = .ok expr ∧
        ∀ session : Session, session.evaluate expr = (.ok value, session) :=
  exists_read_of_isSpelled writable.spelled writable.short file

/-- An order with a negative number, a text with quotes, a comment mark and a line feed in it, and
each kind of brackets. -/
def sampleOrder : Value :=
  .map [
    (.text "id", .integer (-7)),
    (.text "items", .list [
      .record "Item" [
        (.text "name", .text "6\" pipe // \\ \x7b\n"),
        (.text "price", .decimal (Binary64.ofDecimal 125 (-2)).neg)],
      .atom "none"]),
    (.text "state", .result .error (.tuple [.nil, .boolean true, .recordType "Item"]))]

theorem evaluate_read_print_sampleOrder :
    sampleOrder.IsWritable ∧ ∃ text, sampleOrder.print? = some text ∧
      ∃ expr, Expr.read "order" text = .ok expr ∧
        ∀ session : Session, session.evaluate expr = (.ok sampleOrder, session) := by
  have writable : sampleOrder.IsWritable := ⟨by decide +kernel, by decide +kernel⟩
  exact ⟨writable, evaluate_read_print writable "order"⟩

/-! ## Names as single tokens -/

section

variable (file : String)

mutual

/-- Whether a value is one that an expression denotes, its names, tags and atoms being those that
are cut into a single token. -/
def IsCutSingly : Value → Prop
  | .nil | .boolean _ | .integer _ | .text _ => True
  | .decimal value => value.isFinite = true
  | .atom name => TokenStream.IsSingle file (":" ++ name) ⟨.atom, name⟩
  | .recordType name => TokenStream.IsSingle file name ⟨.typeName, name⟩
  | .result _ inner => IsCutSingly inner
  | .tuple elements | .list elements => AllCutSingly elements
  | .map entries => (entries.map (·.1.keyText)).Nodup ∧ EntriesCutSingly entries
  | .record tag entries =>
      TokenStream.IsSingle file tag ⟨.typeName, tag⟩ ∧
        (entries.map (·.1.keyText)).Nodup ∧ EntriesCutSingly entries
  | .undefined _ | .closure .. | .function .. => False

def AllCutSingly : List Value → Prop
  | [] => True
  | value :: rest => IsCutSingly value ∧ AllCutSingly rest

def EntriesCutSingly : List (Value × Value) → Prop
  | [] => True
  | (key, value) :: rest =>
      (key.isFieldKey = true ∧ TokenStream.IsSingle file key.keyText (.name key.keyText) ∧
        IsCutSingly value) ∧ EntriesCutSingly rest

end

mutual

theorem isSpelled_iff_isCutSingly : ∀ value : Value,
    value.isSpelled = true ↔ value.IsCutSingly file
  | .nil | .boolean _ | .integer _ | .text _ => iff_of_true rfl trivial
  | .decimal _ => Iff.rfl
  | .atom name => isAtomName_iff_isSingle file name
  | .recordType name => isTag_iff_isSingle file name
  | .result _ inner => isSpelled_iff_isCutSingly inner
  | .tuple elements | .list elements => allSpelled_iff_allCutSingly elements
  | .map entries => by
      have inside := entriesSpelled_iff_entriesCutSingly entries
      simp only [isSpelled, IsCutSingly, areKeys, Bool.and_eq_true, decide_eq_true_eq, ← inside]
      exact and_assoc.trans and_left_comm
  | .record tag entries => by
      have inside := entriesSpelled_iff_entriesCutSingly entries
      simp only [isSpelled, IsCutSingly, areKeys, Bool.and_eq_true, decide_eq_true_eq, ← inside,
        isTag_iff_isSingle file tag, and_assoc]
      exact and_congr_right fun _ => and_left_comm
  | .undefined _ | .closure .. | .function .. => iff_of_false Bool.false_ne_true id

theorem allSpelled_iff_allCutSingly : ∀ values : List Value,
    allSpelled values = true ↔ AllCutSingly file values
  | [] => iff_of_true rfl trivial
  | value :: rest =>
      Bool.and_eq_true_iff.trans
        (and_congr (isSpelled_iff_isCutSingly value) (allSpelled_iff_allCutSingly rest))

theorem entriesSpelled_iff_entriesCutSingly : ∀ entries : Entries,
    (entries.map (·.1.keyText)).all isName = true ∧ entriesSpelled entries = true ↔
      EntriesCutSingly file entries
  | [] => iff_of_true ⟨rfl, rfl⟩ trivial
  | (key, value) :: rest => by
      simp only [List.map_cons, List.all_cons, entriesSpelled, EntriesCutSingly, Bool.and_eq_true,
        isName_iff_isSingle file, isSpelled_iff_isCutSingly value,
        ← entriesSpelled_iff_entriesCutSingly rest]
      tauto

end

/-- A value whose names, tags and atoms are cut into single tokens is read back from the text that
it is shown as. -/
theorem exists_read_of_isCutSingly {value : Value} (cut : value.IsCutSingly file)
    (short : value.hasNotation = true) :
    ∃ text, value.print? = some text ∧
      ∃ expr, Expr.read file text = .ok expr ∧
        ∀ session : Session, session.evaluate expr = (.ok value, session) :=
  exists_read_of_isSpelled ((isSpelled_iff_isCutSingly file value).mpr cut) short file

end

end Value
end ClauseFlow
