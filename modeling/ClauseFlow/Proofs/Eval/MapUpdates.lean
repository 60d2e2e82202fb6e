import ClauseFlow.Eval.Dispatch
import ClauseFlow.Proofs.Value.Equivalence

/-!
# Updates of maps

Putting a key into a map or a record changes what is found for this key, and for the keys that are
the same. These are the keys that are loosely equal to it once truth values are read as numbers:
the map confuses `true` with `1`, which are not equal. All other keys find what they found before.
-/

namespace ClauseFlow

namespace Value

/-! ## Keys and equality -/

mutual

/-- A key with its truth values read as the numbers one and zero. -/
def numbered : Value → Value
  | .boolean value => .integer (if value then 1 else 0)
  | .result tag inner => .result tag (numbered inner)
  | .tuple elements => .tuple (allNumbered elements)
  | other => other

def allNumbered : List Value → List Value
  | [] => []
  | value :: rest => numbered value :: allNumbered rest

end

mutual

/-- Keys are the same if and only if they are loosely equal with truth values read as numbers. -/
theorem sameKey_eq_equal : ∀ {key other : Value}, key.isKey = true → key.isDefined = true →
    other.isDefined = true → sameKey key other = equal false key.numbered other.numbered
  | .nil, other, _, _, _ | .text _, other, _, _, _ | .atom _, other, _, _, _
  | .recordType _, other, _, _, _ | .function .., other, _, _, _ => by
      cases other <;> simp [sameKey, numbered, equal, keyNumber?, number?]
  | .boolean _, other, _, _, defined | .integer _, other, _, _, defined
  | .decimal _, other, _, _, defined => by
      cases other with
      | boolean | integer | decimal =>
          apply Bool.eq_iff_iff.mpr
          simp [sameKey, numbered, equal, keyNumber?, number?]
      | _ => simp [sameKey, numbered, equal, keyNumber?, number?]
  | .result _ inner, other, isKey, defined, defined' => by
      cases other with
      | result tag' inner' =>
          have inside : inner.sameKey inner' = equal false inner.numbered inner'.numbered :=
            sameKey_eq_equal isKey defined defined'
          simp only [sameKey, numbered, equal, inside]
      | _ => simp [sameKey, numbered, equal, keyNumber?, number?]
  | .tuple elements, other, isKey, defined, defined' => by
      cases other with
      | tuple elements' =>
          simp only [sameKey, numbered, equal]
          exact sameKeys_eq_equalAll isKey defined defined'
      | _ => simp [sameKey, numbered, equal, keyNumber?, number?]
  | .undefined _, _, _, defined, _ => by cases defined
  | .list _, _, isKey, _, _ | .map _, _, isKey, _, _ | .record .., _, isKey, _, _
  | .closure .., _, isKey, _, _ => by cases isKey

theorem sameKeys_eq_equalAll : ∀ {keys others : List Value}, allKeys keys = true →
    allDefined keys = true → allDefined others = true →
      sameKeys keys others = equalAll false (allNumbered keys) (allNumbered others)
  | [], others, _, _, _ => by cases others <;> rfl
  | key :: rest, others, keys, defined, defined' => by
      cases others with
      | nil => rfl
      | cons other others =>
          simp only [allKeys, allDefined, Bool.and_eq_true] at keys defined defined'
          simp only [sameKeys, allNumbered, equalAll]
          rw [sameKey_eq_equal keys.1 defined.1 defined'.1,
            sameKeys_eq_equalAll keys.2 defined.2 defined'.2]

end

/-- The tag of a record. -/
def recordTag? : Value → Option String
  | .record tag _ => some tag
  | _ => none

end Value

namespace Builtin

variable {subject : Value} {entries : Value.Entries}

theorem entriesOf?_withEntries (holds : Pattern.entriesOf? subject = some entries)
    (updated : Value.Entries) :
    Pattern.entriesOf? (withEntries subject updated) = some updated := by
  cases subject with
  | map | record => rfl
  | _ => cases holds

theorem recordTag?_withEntries (holds : Pattern.entriesOf? subject = some entries)
    (updated : Value.Entries) :
    (withEntries subject updated).recordTag? = subject.recordTag? := by
  cases subject with
  | map | record => rfl
  | _ => cases holds

theorem entries_of_entriesOf? (builtin : Builtin)
    (holds : Pattern.entriesOf? subject = some entries) :
    builtin.entries subject = pure entries := by
  cases subject with
  | map | record =>
      cases holds
      rfl
  | _ => cases holds

variable {home : Nat} {invoke : Invoke} {key : Value}

/-- What is put is put among the entries. -/
theorem call_put (holds : Pattern.entriesOf? subject = some entries) (isKey : key.isKey = true)
    (item : Value) :
    call home invoke .put [subject, key, item] =
      pure (withEntries subject (Value.insert key item entries)) := by
  simp only [call, entries_of_entriesOf? .put holds, Builtin.key, isKey, if_true, pure_bind]

/-- A key is asked for among the entries. -/
theorem call_mapGet_of_find? (holds : Pattern.entriesOf? subject = some entries)
    (isKey : key.isKey = true) {found : Value} (isFound : Value.find? key entries = some found) :
    call home invoke .mapGet [subject, key] = pure found := by
  simp only [call, List.length_nil, Nat.not_lt_zero, if_false, entries_of_entriesOf? .mapGet holds,
    Builtin.key, isKey, if_true, pure_bind, isFound]

theorem call_mapGet_default (holds : Pattern.entriesOf? subject = some entries)
    (isKey : key.isKey = true) (default : Value) :
    call home invoke .mapGet [subject, key, default] =
      pure ((Value.find? key entries).getD default) := by
  simp only [call, List.length_singleton, Nat.lt_irrefl, if_false,
    entries_of_entriesOf? .mapGet holds, Builtin.key, isKey, if_true, pure_bind]
  cases Value.find? key entries <;> rfl

end Builtin

namespace Eval

variable {calls : Calls} {setting : Setting} {env : Environment}

/-- A call by the name of a builtin that nothing else answers to. -/
theorem callNamed_builtin {name : String} {arguments : List Value} {builtin : Builtin}
    (unbound : setting.lookup env name = none)
    (undeclared : setting.program.declares ⟨name, arguments.length⟩ = false)
    (isBuiltin : Program.builtin? ⟨name, arguments.length⟩ = some builtin) (span : Span) :
    callNamed calls setting env name arguments span =
      builtin.call setting.home calls.invoke arguments := by
  simp only [callNamed, unbound, callGlobal, undeclared, Bool.false_eq_true, if_false, isBuiltin]

theorem valueOfName_of_bound {identifier : Identifier} {value : Value}
    (bound : setting.lookup env identifier.name = some value) :
    valueOfName setting env identifier = pure value := by
  simp only [valueOfName, bound]

/-- After an update the name of a map stands for what it stood for before. -/
theorem evaluate_put_and_name {subject key item updated : Value} {map index element : Identifier}
    (put : Builtin.call setting.home calls.invoke .put [subject, key, item] = pure updated)
    (unbound : setting.lookup env "put" = none)
    (undeclared : setting.program.declares ⟨"put", 3⟩ = false)
    (isMap : setting.lookup env map.name = some subject)
    (isIndex : setting.lookup env index.name = some key)
    (isElement : setting.lookup env element.name = some item) (span : Span) :
    evaluate calls setting env
        (.tuple [.call ⟨"put", span⟩ [.ident map, .ident index, .ident element] span, .ident map]
          span) =
      pure (.tuple [updated, subject]) := by
  have reached : callNamed calls setting env "put" [subject, key, item] span = pure updated := by
    have undeclared : setting.program.declares ⟨"put", [subject, key, item].length⟩ = false :=
      undeclared
    have isBuiltin : Program.builtin? ⟨"put", [subject, key, item].length⟩ = some .put :=
      (by decide : Program.builtin? ⟨"put", 3⟩ = some .put)
    rw [callNamed_builtin unbound undeclared isBuiltin]
    exact put
  simp only [evaluate, evaluateAll, valueOfName_of_bound isMap, valueOfName_of_bound isIndex,
    valueOfName_of_bound isElement, pure_bind, reached]

/-- Putting a key into a map or a record makes the item found for this key, keeps the tag, and
leaves the map itself as it is. Any other key finds what it found before if it is not equal to the
key, with the truth values in both read as the numbers one and zero; otherwise it finds the item. -/
theorem put_respects_keys (calls : Calls) (setting : Setting) {subject key other : Value}
    (hasEntries : (Pattern.entriesOf? subject).isSome) (isKey : key.isKey = true)
    (isKey' : other.isKey = true) (defined : key.isDefined = true)
    (defined' : other.isDefined = true) (item default : Value) :
    ∃ updated,
      Builtin.call setting.home calls.invoke .put [subject, key, item] = pure updated ∧
        (Pattern.entriesOf? updated).isSome ∧ updated.recordTag? = subject.recordTag? ∧
        Builtin.call setting.home calls.invoke .mapGet [updated, key] = pure item ∧
        (∀ span, ∃ same,
          binary setting.home .equal key.numbered other.numbered span = pure (.boolean same) ∧
            Builtin.call setting.home calls.invoke .mapGet [updated, other, default] =
              if same then pure item
              else Builtin.call setting.home calls.invoke .mapGet [subject, other, default]) ∧
        ∀ (env : Environment) (map index element : Identifier) (span : Span),
          setting.lookup env "put" = none → setting.program.declares ⟨"put", 3⟩ = false →
          setting.lookup env map.name = some subject → setting.lookup env index.name = some key →
          setting.lookup env element.name = some item →
          evaluate calls setting env
              (.tuple [.call ⟨"put", span⟩ [.ident map, .ident index, .ident element] span,
                .ident map] span) =
            pure (.tuple [updated, subject]) := by
  obtain ⟨entries, holds⟩ := Option.isSome_iff_exists.mp hasEntries
  have put : Builtin.call setting.home calls.invoke .put [subject, key, item] =
      pure (Builtin.withEntries subject (Value.insert key item entries)) :=
    Builtin.call_put holds isKey item
  have holds' := Builtin.entriesOf?_withEntries holds (Value.insert key item entries)
  refine ⟨_, put, by rw [holds']; rfl, Builtin.recordTag?_withEntries holds _, ?_, ?_, ?_⟩
  · apply Builtin.call_mapGet_of_find? holds' isKey
    rw [Value.find?_insert, if_pos (Value.sameKey_self isKey defined)]
  · intro span
    refine ⟨Value.equal false key.numbered other.numbered, rfl, ?_⟩
    rw [Builtin.call_mapGet_default holds' isKey', Builtin.call_mapGet_default holds isKey',
      Value.find?_insert, Value.sameKey_eq_equal isKey defined defined']
    split <;> rfl
  · intro env map index element span unbound undeclared isMap isIndex isElement
    exact evaluate_put_and_name put unbound undeclared isMap isIndex isElement span

/-- The record `Grid{w: 1, {2.0, :a} => :old}`. -/
def grid : Value :=
  .record "Grid" [(.text "w", .integer 1),
    (.tuple [.decimal (.finite false (2 ^ 52) (-51) (by decide)), .atom "a"], .atom "old")]

/-- The key `{2, :a}` of a grid, or another one in the same row. -/
def cell (column : String) : Value :=
  .tuple [.integer 2, .atom column]

theorem put_respects_keys_grid :
    let setting : Setting := ⟨⟨[]⟩, [], 0⟩
    let calls := callsWithin setting 0
    let env : Environment :=
      ⟨[[("m", grid), ("k", cell "a"), ("v", .atom "new")]], 0⟩
    ((Pattern.entriesOf? grid).isSome ∧ (cell "a").isKey = true ∧ (cell "b").isKey = true ∧
        (cell "a").isDefined = true ∧ (cell "b").isDefined = true) ∧
      ∃ updated,
        Builtin.call 0 calls.invoke .put [grid, cell "a", .atom "new"] = pure updated ∧
          updated.recordTag? = some "Grid" ∧
          Builtin.call 0 calls.invoke .mapGet [updated, cell "a"] = pure (.atom "new") ∧
          Builtin.call 0 calls.invoke .mapGet [updated, cell "b", .nil] =
            Builtin.call 0 calls.invoke .mapGet [grid, cell "b", .nil] ∧
          evaluate calls setting env
              (.tuple [.call ⟨"put", .generated⟩
                  [.ident ⟨"m", .generated⟩, .ident ⟨"k", .generated⟩, .ident ⟨"v", .generated⟩]
                  .generated, .ident ⟨"m", .generated⟩] .generated) =
            pure (.tuple [updated, grid]) := by
  intro setting calls env
  have regular : (Pattern.entriesOf? grid).isSome ∧ (cell "a").isKey = true ∧
      (cell "b").isKey = true ∧ (cell "a").isDefined = true ∧ (cell "b").isDefined = true := by
    decide
  obtain ⟨hasEntries, isKey, isKey', defined, defined'⟩ := regular
  obtain ⟨updated, put, _, sameTag, found, others, keeps⟩ :=
    put_respects_keys calls setting hasEntries isKey isKey' defined defined' (.atom "new") .nil
  obtain ⟨same, compared, answer⟩ := others .generated
  have differs : same = false := by
    cases congrFun compared 0
    rfl
  rw [differs] at answer
  exact ⟨⟨hasEntries, isKey, isKey', defined, defined'⟩, updated, put, sameTag, found, answer,
    keeps env ⟨"m", .generated⟩ ⟨"k", .generated⟩ ⟨"v", .generated⟩ .generated rfl (by decide) rfl
      rfl rfl⟩

/-- In a map `true` and `1` are one key, although they are not equal: putting `true` into the empty
map changes what is found for `1`. -/
theorem put_confuses_true_with_one :
    let calls := callsWithin ⟨⟨[]⟩, [], 0⟩ 0
    (Value.boolean true).isKey = true ∧ (Value.boolean true).isDefined = true ∧
      (Value.integer 1).isKey = true ∧ (Value.integer 1).isDefined = true ∧
      binary 0 .equal (.boolean true) (.integer 1) .generated = pure (.boolean false) ∧
      Builtin.call 0 calls.invoke .put [.map [], .boolean true, .atom "new"] =
        pure (.map [(.boolean true, .atom "new")]) ∧
      Builtin.call 0 calls.invoke .mapGet
          [.map [(.boolean true, .atom "new")], .integer 1, .nil] ≠
        Builtin.call 0 calls.invoke .mapGet [.map [], .integer 1, .nil] := by
  refine ⟨rfl, rfl, rfl, rfl, rfl, rfl, ?_⟩
  intro same
  cases congrFun same 0

end Eval
end ClauseFlow
