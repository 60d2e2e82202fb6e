import Mathlib.Data.List.Forall2
import Mathlib.Data.Option.Basic
import ClauseFlow.Eval.Expr
import ClauseFlow.Expr.Names
import ClauseFlow.Proofs.Pattern.Parts
import ClauseFlow.Proofs.Value.Closures
import ClauseFlow.Proofs.Value.Ledger

/-!
# Values that resemble each other

Values resemble each other if they are built alike from the same parts, except for closures. Of
these, the bodies are to stand for each other by the ledger, and the names that they use are to be
bound to values that resemble each other. Nothing that is done with values, short of looking
another name up, can tell them apart.
-/

namespace ClauseFlow

namespace Value

/-! ## Resemblance -/

/-- What a name is bound to in frames. -/
def boundIn (frames : List Frame) (name : String) : Option Value :=
  frames.findSome? fun frame => frame.lookup name

/-- Whether pairs have the same first part and related second parts. -/
inductive Keyed {key : Type} (related : Value → Value → Prop) :
    key × Value → key × Value → Prop where
  | intro (first : key) {value value' : Value} :
      related value value' → Keyed related (first, value) (first, value')

/-- Whether values are the same up to the phrasing of closures in them, as a ledger has it, and up
to what these closures see under unused names. -/
inductive Resembles (ledger : Ledger) : Value → Value → Prop where
  | nil : Resembles ledger .nil .nil
  | boolean (value : Bool) : Resembles ledger (.boolean value) (.boolean value)
  | integer (value : Int) : Resembles ledger (.integer value) (.integer value)
  | decimal (value : Binary64) : Resembles ledger (.decimal value) (.decimal value)
  | undefined (mark : Mark) : Resembles ledger (.undefined mark) (.undefined mark)
  | text (value : String) : Resembles ledger (.text value) (.text value)
  | atom (name : String) : Resembles ledger (.atom name) (.atom name)
  | recordType (name : String) : Resembles ledger (.recordType name) (.recordType name)
  | function (name : String) (home : Nat) :
      Resembles ledger (.function name home) (.function name home)
  | result (tag : ResultTag) {inner inner' : Value} :
      Resembles ledger inner inner' → Resembles ledger (.result tag inner) (.result tag inner')
  | tuple {elements elements' : List Value} :
      List.Forall₂ (Resembles ledger) elements elements' →
      Resembles ledger (.tuple elements) (.tuple elements')
  | list {elements elements' : List Value} :
      List.Forall₂ (Resembles ledger) elements elements' →
      Resembles ledger (.list elements) (.list elements')
  | map {entries entries' : Entries} :
      List.Forall₂ (Keyed (Resembles ledger)) entries entries' →
      Resembles ledger (.map entries) (.map entries')
  | record (tag : String) {entries entries' : Entries} :
      List.Forall₂ (Keyed (Resembles ledger)) entries entries' →
      Resembles ledger (.record tag entries) (.record tag entries')
  | closure (params : List String) {body : Expr} {phrasing : Phrasing} (level : Nat)
      {origin : Origin} {frames frames' : List Frame} :
      ledger.texts origin body phrasing →
      frames.isEmpty = frames'.isEmpty →
      (∀ reference ∈ body.references params, Option.Rel (Resembles ledger)
        (boundIn frames reference.name) (boundIn frames' reference.name)) →
      (∀ call ∈ body.calls params, Option.Rel (Resembles ledger)
        (boundIn frames call.signature.name) (boundIn frames' call.signature.name)) →
      Resembles ledger (.closure params body frames level origin)
        (.closure params (body.phrased phrasing) frames' level origin)

/-- Whether lists of values resemble each other. -/
abbrev AllResemble (ledger : Ledger) : List Value → List Value → Prop :=
  List.Forall₂ (Resembles ledger)

/-- Whether entries or bindings have the same keys and values that resemble each other. -/
abbrev PairsResemble {key : Type} (ledger : Ledger) :
    List (key × Value) → List (key × Value) → Prop :=
  List.Forall₂ (Keyed (Resembles ledger))

variable {ledger grown : Ledger}

/-! ## Optional values -/

theorem optionRel_bind {α β γ δ : Type} {related : α → β → Prop} {relatedNext : γ → δ → Prop}
    {first : Option α} {second : Option β} {next : α → Option γ} {next' : β → Option δ}
    (here : Option.Rel related first second)
    (later : ∀ value value', related value value' →
      Option.Rel relatedNext (next value) (next' value')) :
    Option.Rel relatedNext (first.bind next) (second.bind next') := by
  cases here with
  | none => exact .none
  | some holds => exact later _ _ holds

theorem optionRel_imp {related related' : Value → Value → Prop} {first second : Option Value}
    (here : Option.Rel related first second)
    (imp : ∀ value value', first = some value → related value value' → related' value value') :
    Option.Rel related' first second := by
  cases here with
  | none => exact .none
  | some holds => exact .some (imp _ _ rfl holds)

theorem optionRel_self {related : Value → Value → Prop} {value? : Option Value}
    (self : ∀ value, value? = some value → related value value) :
    Option.Rel related value? value? := by
  cases value? with
  | none => exact .none
  | some value => exact .some (self value rfl)

/-! ## Growing ledgers -/

/-- What is bound in frames is a part of them. -/
theorem sizeOf_lt_of_boundIn {frames : List Frame} {name : String} {value : Value}
    (bound : boundIn frames name = some value) : sizeOf value < sizeOf frames := by
  rcases List.exists_of_findSome?_eq_some bound with ⟨frame, isFrame, here⟩
  rcases List.lookup_eq_some_iff.mp here with ⟨before, after, rfl, _⟩
  have inFrame : (name, value) ∈ before ++ (name, value) :: after := by simp
  have first := List.sizeOf_lt_of_mem isFrame
  have second := List.sizeOf_lt_of_mem inFrame
  rw [Prod.mk.sizeOf_spec] at second
  omega

mutual

/-- Values that resemble each other go on to do so. -/
theorem Resembles.mono (grows : ledger ≤ grown) : ∀ {value value' : Value},
    Resembles ledger value value' → Resembles grown value value'
  | _, _, .nil => .nil
  | _, _, .boolean value => .boolean value
  | _, _, .integer value => .integer value
  | _, _, .decimal value => .decimal value
  | _, _, .undefined mark => .undefined mark
  | _, _, .text value => .text value
  | _, _, .atom name => .atom name
  | _, _, .recordType name => .recordType name
  | _, _, .function name home => .function name home
  | _, _, .result tag inside => .result tag (inside.mono grows)
  | _, _, .tuple each => .tuple (AllResemble.mono grows each)
  | _, _, .list each => .list (AllResemble.mono grows each)
  | _, _, .map each => .map (entries_mono grows each)
  | _, _, .record tag each => .record tag (entries_mono grows each)
  | _, _, .closure params level known isEmpty uses callees =>
      .closure params level (Ledger.texts_of_le grows known) isEmpty
        -- What the frames of a closure bind is smaller than the closure.
        (fun reference used => optionRel_imp (uses reference used) fun _ _ bound resembles => by
          have smaller := sizeOf_lt_of_boundIn bound
          exact resembles.mono grows)
        (fun call called => optionRel_imp (callees call called) fun _ _ bound resembles => by
          have smaller := sizeOf_lt_of_boundIn bound
          exact resembles.mono grows)

theorem AllResemble.mono (grows : ledger ≤ grown) : ∀ {values values' : List Value},
    AllResemble ledger values values' → AllResemble grown values values'
  | _, _, .nil => .nil
  | _, _, .cons here others => .cons (here.mono grows) (AllResemble.mono grows others)

theorem entries_mono (grows : ledger ≤ grown) : ∀ {entries entries' : Entries},
    PairsResemble ledger entries entries' → PairsResemble grown entries entries'
  | _, _, .nil => .nil
  | _, _, .cons (.intro key here) others =>
      .cons (.intro key (here.mono grows)) (entries_mono grows others)

end

theorem Keyed.mono {key : Type} (grows : ledger ≤ grown) {pair pair' : key × Value}
    (here : Keyed (Resembles ledger) pair pair') : Keyed (Resembles grown) pair pair' := by
  cases here with
  | intro first resembles => exact .intro first (resembles.mono grows)

theorem PairsResemble.mono {key : Type} (grows : ledger ≤ grown) {pairs pairs' : List (key × Value)}
    (each : PairsResemble ledger pairs pairs') : PairsResemble grown pairs pairs' :=
  each.imp fun _ _ here => here.mono grows

/-! ## Values that resemble themselves -/

mutual

/-- A value resembles itself if no closure is in it, or if each body may stand for itself. -/
theorem Resembles.self : ∀ value : Value, value.isFirstOrder = true ∨ ledger.IsVerbatim →
    Resembles ledger value value
  | .nil, _ => .nil
  | .boolean value, _ => .boolean value
  | .integer value, _ => .integer value
  | .decimal value, _ => .decimal value
  | .undefined mark, _ => .undefined mark
  | .text value, _ => .text value
  | .atom name, _ => .atom name
  | .recordType name, _ => .recordType name
  | .function name home, _ => .function name home
  | .result tag inner, known => .result tag (Resembles.self inner known)
  | .tuple elements, known => .tuple (AllResemble.self elements known)
  | .list elements, known => .list (AllResemble.self elements known)
  | .map entries, known => .map (entries_self entries known)
  | .record tag entries, known => .record tag (entries_self entries known)
  | .closure params body frames level origin, known => by
      have isVerbatim : ledger.IsVerbatim := known.resolve_left Bool.false_ne_true
      have bound (name : String) : Option.Rel (Resembles ledger) (boundIn frames name)
          (boundIn frames name) := optionRel_self fun value found => by
        have smaller := sizeOf_lt_of_boundIn found
        exact Resembles.self value (.inr isVerbatim)
      have closures := Resembles.closure params level (isVerbatim origin body) rfl
        (fun reference _ => bound reference.name) (fun call _ => bound call.signature.name)
      rwa [body.phrased_asWritten] at closures

theorem AllResemble.self : ∀ values : List Value,
    allFirstOrder values = true ∨ ledger.IsVerbatim → AllResemble ledger values values
  | [], _ => .nil
  | value :: rest, known => by
      simp only [allFirstOrder, Bool.and_eq_true] at known
      exact .cons (Resembles.self value (known.imp_left And.left))
        (AllResemble.self rest (known.imp_left And.right))

theorem entries_self : ∀ entries : Entries,
    entriesFirstOrder entries = true ∨ ledger.IsVerbatim → PairsResemble ledger entries entries
  | [], _ => .nil
  | (key, value) :: rest, known => by
      simp only [entriesFirstOrder, Bool.and_eq_true, and_assoc] at known
      exact .cons (.intro key (Resembles.self value (known.imp_left fun plain => plain.2.1)))
        (entries_self rest (known.imp_left fun plain => plain.2.2))

end

/-! ## Lookups -/

/-- A name is bound in both of two frames that resemble each other, or in none. -/
theorem PairsResemble.lookup {frame frame' : Frame} (each : PairsResemble ledger frame frame')
    (name : String) :
    Option.Rel (Resembles ledger) (frame.lookup name) (frame'.lookup name) := by
  induction each with
  | nil => exact .none
  | cons here _ ih =>
      cases here with
      | intro bound resembles =>
          rw [List.lookup_cons, List.lookup_cons]
          split
          · exact .some resembles
          · exact ih

theorem AllResemble.getElem? {values values' : List Value}
    (each : AllResemble ledger values values') (index : Nat) :
    Option.Rel (Resembles ledger) values[index]? values'[index]? := by
  induction each generalizing index with
  | nil => exact .none
  | cons here _ ih =>
      cases index with
      | zero => exact .some here
      | succ index => exact ih index

namespace PairsResemble

variable {entries entries' : Entries}

theorem find? (each : PairsResemble ledger entries entries') (key : Value) :
    Option.Rel (Resembles ledger) (Value.find? key entries) (Value.find? key entries') := by
  induction each with
  | nil => exact .none
  | cons here _ ih =>
      cases here with
      | intro known resembles =>
          rw [Value.find?, Value.find?]
          split
          · exact .some resembles
          · exact ih

theorem insert (each : PairsResemble ledger entries entries') (key : Value) {value value' : Value}
    (resembles : Resembles ledger value value') :
    PairsResemble ledger (Value.insert key value entries) (Value.insert key value' entries') := by
  induction each with
  | nil => exact .cons (.intro key resembles) .nil
  | cons here others ih =>
      cases here with
      | intro known old =>
          rw [Value.insert, Value.insert]
          split
          · exact .cons (.intro known resembles) others
          · exact .cons (.intro known old) ih

theorem insertAll (each : PairsResemble ledger entries entries') {added added' : Entries}
    (eachAdded : PairsResemble ledger added added') :
    PairsResemble ledger (Value.insertAll entries added) (Value.insertAll entries' added') := by
  induction eachAdded generalizing entries entries' with
  | nil => exact each
  | cons here _ ih =>
      cases here with
      | intro key resembles => exact ih (each.insert key resembles)

end PairsResemble

theorem Resembles.entriesOf? {value value' : Value} (resembles : Resembles ledger value value') :
    Option.Rel (PairsResemble ledger) (Pattern.entriesOf? value) (Pattern.entriesOf? value') := by
  cases resembles with
  | map each => exact .some each
  | record tag each => exact .some each
  | _ => exact .none

/-! ## What is seen of a value -/

mutual

theorem Resembles.print_eq : ∀ {value value' : Value}, Resembles ledger value value' →
    value.print = value'.print
  | _, _, .nil | _, _, .boolean _ | _, _, .integer _ | _, _, .decimal _ | _, _, .undefined _
  | _, _, .text _ | _, _, .atom _ | _, _, .recordType _ | _, _, .function .. => rfl
  | _, _, .closure .. => rfl
  | _, _, .result _ inside => by simp only [print, inside.print_eq]
  | _, _, .tuple each => by simp only [print, printAll_eq each]
  | _, _, .list each => by simp only [print, printAll_eq each]
  | _, _, .map each => by simp only [print, printEntries_eq each]
  | _, _, .record _ each => by simp only [print, printEntries_eq each]

theorem printAll_eq : ∀ {values values' : List Value}, AllResemble ledger values values' →
    printAll values = printAll values'
  | _, _, .nil => rfl
  | _, _, .cons here others => by simp only [printAll, here.print_eq, printAll_eq others]

theorem printEntries_eq : ∀ {entries entries' : Entries}, PairsResemble ledger entries entries' →
    printEntries entries = printEntries entries'
  | _, _, .nil => rfl
  | _, _, .cons (.intro _ here) others => by
      simp only [printEntries, here.print_eq, printEntries_eq others]

end

mutual

theorem Resembles.hasNotation_eq : ∀ {value value' : Value}, Resembles ledger value value' →
    value.hasNotation = value'.hasNotation
  | _, _, .nil | _, _, .boolean _ | _, _, .integer _ | _, _, .decimal _ | _, _, .undefined _
  | _, _, .text _ | _, _, .atom _ | _, _, .recordType _ | _, _, .function .. => rfl
  | _, _, .closure .. => rfl
  | _, _, .result _ inside => by simp only [hasNotation, inside.hasNotation_eq]
  | _, _, .tuple each => by simp only [hasNotation, allHaveNotation_eq each]
  | _, _, .list each => by simp only [hasNotation, allHaveNotation_eq each]
  | _, _, .map each => by simp only [hasNotation, entriesHaveNotation_eq each]
  | _, _, .record _ each => by simp only [hasNotation, entriesHaveNotation_eq each]

theorem allHaveNotation_eq : ∀ {values values' : List Value}, AllResemble ledger values values' →
    allHaveNotation values = allHaveNotation values'
  | _, _, .nil => rfl
  | _, _, .cons here others => by
      simp only [allHaveNotation, here.hasNotation_eq, allHaveNotation_eq others]

theorem entriesHaveNotation_eq : ∀ {entries entries' : Entries},
    PairsResemble ledger entries entries' →
      entriesHaveNotation entries = entriesHaveNotation entries'
  | _, _, .nil => rfl
  | _, _, .cons (.intro _ here) others => by
      simp only [entriesHaveNotation, here.hasNotation_eq, entriesHaveNotation_eq others]

end

namespace Resembles

variable {value value' : Value}

theorem print?_eq (resembles : Resembles ledger value value') :
    value.print? = value'.print? := by
  simp only [print?, resembles.hasNotation_eq, resembles.print_eq]

theorem number?_eq (resembles : Resembles ledger value value') :
    value.number? = value'.number? := by
  cases resembles <;> rfl

theorem isTruthy_eq (resembles : Resembles ledger value value') :
    value.isTruthy = value'.isTruthy := by
  cases resembles <;> rfl

theorem isCallable_eq (resembles : Resembles ledger value value') :
    value.isCallable = value'.isCallable := by
  cases resembles <;> rfl

theorem isOkAtom_eq (resembles : Resembles ledger value value') :
    value.isOkAtom = value'.isOkAtom := by
  cases resembles <;> rfl

end Resembles

/-! ## Keys -/

mutual

theorem Resembles.isKey_eq : ∀ {value value' : Value}, Resembles ledger value value' →
    value.isKey = value'.isKey
  | _, _, .nil | _, _, .boolean _ | _, _, .integer _ | _, _, .decimal _ | _, _, .undefined _
  | _, _, .text _ | _, _, .atom _ | _, _, .recordType _ | _, _, .function .. => rfl
  | _, _, .closure .. | _, _, .list _ | _, _, .map _ | _, _, .record .. => rfl
  | _, _, .result _ inside => by simp only [isKey, inside.isKey_eq]
  | _, _, .tuple each => by simp only [isKey, allKeys_eq each]

theorem allKeys_eq : ∀ {values values' : List Value}, AllResemble ledger values values' →
    allKeys values = allKeys values'
  | _, _, .nil => rfl
  | _, _, .cons here others => by simp only [allKeys, here.isKey_eq, allKeys_eq others]

end

mutual

/-- Nothing but itself resembles a value that can be a key. -/
theorem Resembles.eq_of_isKey : ∀ {value value' : Value}, Resembles ledger value value' →
    value.isKey = true → value = value'
  | _, _, .nil, _ | _, _, .boolean _, _ | _, _, .integer _, _ | _, _, .decimal _, _
  | _, _, .undefined _, _ | _, _, .text _, _ | _, _, .atom _, _ | _, _, .recordType _, _
  | _, _, .function .., _ => rfl
  | _, _, .closure .., keys | _, _, .list _, keys | _, _, .map _, keys
  | _, _, .record .., keys => by cases keys
  | _, _, .result _ inside, keys => by rw [inside.eq_of_isKey keys]
  | _, _, .tuple each, keys => by rw [eq_of_allKeys each keys]

theorem eq_of_allKeys : ∀ {values values' : List Value}, AllResemble ledger values values' →
    allKeys values = true → values = values'
  | _, _, .nil, _ => rfl
  | _, _, .cons here others, keys => by
      simp only [allKeys, Bool.and_eq_true] at keys
      rw [here.eq_of_isKey keys.1, eq_of_allKeys others keys.2]

end

/-! ## Equality -/

/-- Closures made in one place are equal or not in both runs. -/
theorem equal_closure_eq (strict : Bool) (params params' : List String) (level level' : Nat)
    {body body' : Expr} {phrasing phrasing' : Phrasing} {origin origin' : Origin}
    (known : ledger.texts origin body phrasing) (known' : ledger.texts origin' body' phrasing')
    (frames frames' others others' : List Frame) :
    equal strict (.closure params body frames level origin)
        (.closure params' body' frames' level' origin') =
      equal strict (.closure params (body.phrased phrasing) others level origin)
        (.closure params' (body'.phrased phrasing') others' level' origin') := by
  simp only [equal]
  by_cases same : origin = origin'
  · subst same
    rw [decide_eq_decide.mpr (ledger.tells known known')]
  · simp only [same, decide_false, Bool.and_false]

mutual

/-- Resemblance keeps equality. -/
theorem Resembles.equal_eq (strict : Bool) : ∀ {value value' other other' : Value},
    Resembles ledger value value' → Resembles ledger other other' →
      equal strict value other = equal strict value' other'
  | _, _, _, _, .nil, resembles | _, _, _, _, .boolean _, resembles
  | _, _, _, _, .integer _, resembles | _, _, _, _, .decimal _, resembles
  | _, _, _, _, .undefined _, resembles | _, _, _, _, .text _, resembles
  | _, _, _, _, .atom _, resembles | _, _, _, _, .recordType _, resembles
  | _, _, _, _, .function .., resembles => by cases resembles <;> rfl
  | _, _, _, _, .closure params level known _ _ _, resembles => by
      cases resembles with
      | closure params' level' known' => exact equal_closure_eq strict _ _ _ _ known known' _ _ _ _
      | _ => rfl
  | _, _, _, _, .result tag inside, resembles => by
      cases resembles with
      | result tag' inside' => simp only [equal, inside.equal_eq strict inside']
      | _ => rfl
  | _, _, _, _, .tuple each, resembles => by
      cases resembles with
      | tuple each' => simp only [equal, equalAll_eq strict each each']
      | _ => rfl
  | _, _, _, _, .list each, resembles => by
      cases resembles with
      | list each' => simp only [equal, equalAll_eq strict each each']
      | _ => rfl
  | _, _, _, _, .map each, resembles => by
      cases resembles with
      | map each' =>
          simp only [equal, each.length_eq, each'.length_eq, equalEntries_eq strict each each']
      | _ => rfl
  | _, _, _, _, .record tag each, resembles => by
      cases resembles with
      | record tag' each' =>
          simp only [equal, each.length_eq, each'.length_eq, equalEntries_eq strict each each']
      | _ => rfl

theorem equalAll_eq (strict : Bool) : ∀ {values values' others others' : List Value},
    AllResemble ledger values values' → AllResemble ledger others others' →
      equalAll strict values others = equalAll strict values' others'
  | _, _, _, _, .nil, eachOther => by cases eachOther <;> rfl
  | _, _, _, _, .cons here rest, eachOther => by
      cases eachOther with
      | nil => rfl
      | cons here' rest' =>
          simp only [equalAll, here.equal_eq strict here', equalAll_eq strict rest rest']

theorem equalEntries_eq (strict : Bool) : ∀ {entries entries' others others' : Entries},
    PairsResemble ledger entries entries' → PairsResemble ledger others others' →
      equalEntries strict entries others = equalEntries strict entries' others'
  | _, _, _, _, .nil, _ => rfl
  | _, _, others, others', .cons (.intro key here) rest, eachOther => by
      have found := eachOther.find? key
      simp only [equalEntries, equalEntries_eq strict rest eachOther]
      generalize Value.find? key others = found?, Value.find? key others' = found?' at found ⊢
      cases found with
      | none => rfl
      | some resembles => simp only [here.equal_eq strict resembles]

end

end Value

/-! ## Matching -/

namespace Pattern

open Value (Resembles AllResemble PairsResemble)

variable {ledger : Ledger}

mutual

/-- Values that resemble each other have parts that do. -/
theorem parts_resemble : ∀ (pattern : Pattern) {value value' : Value},
    Resembles ledger value value' →
      Option.Rel (AllResemble ledger) (parts pattern value) (parts pattern value')
  | .wildcard _, _, _, _ => .some .nil
  | .binding _ _, _, _, resembles => .some (.cons resembles .nil)
  | .literal constant _, value, value', resembles => by
      have plain : (Value.ofLiteral constant).isFirstOrder = true := by cases constant <;> rfl
      have same : Value.fitsLiteral constant value = Value.fitsLiteral constant value' :=
        (Resembles.self (Value.ofLiteral constant) (.inl plain)).equal_eq true resembles
      simp only [parts, same]
      split
      · exact .some .nil
      · exact .none
  | .tuple patterns _, _, _, resembles => by
      cases resembles with
      | tuple each => exact partsOfAll_resemble patterns each
      | _ => exact .none
  | .list patterns none _, _, _, resembles => by
      cases resembles with
      | list each => exact partsOfAll_resemble patterns each
      | _ => exact .none
  | .list patterns (some tail) _, _, _, resembles => by
      cases resembles with
      | @list elements elements' each =>
          simp only [parts, each.length_eq]
          split
          · exact .none
          · apply Value.optionRel_bind
              (partsOfAll_resemble patterns (List.forall₂_take patterns.length each))
            intro first first' eachFirst
            apply Value.optionRel_bind
              (parts_resemble tail (.list (List.forall₂_drop patterns.length each)))
            intro rest rest' eachRest
            exact .some (List.rel_append eachFirst eachRest)
      | _ => exact .none
  | .map patterns _, value, value', resembles => by
      simp only [parts]
      exact Value.optionRel_bind resembles.entriesOf? fun entries entries' each =>
        partsOfEntries_resemble patterns each
  | .record tag patterns _, _, _, resembles => by
      cases resembles with
      | record tag' each =>
          simp only [parts]
          split
          · exact partsOfEntries_resemble patterns each
          · exact .none
      | _ => exact .none
  | .result tag inner _, _, _, resembles => by
      cases resembles with
      | result tag' inside =>
          simp only [parts]
          split
          · exact parts_resemble inner inside
          · exact .none
      | _ => exact .none
  | .named inner name _, value, value', resembles => by
      simp only [parts]
      apply Value.optionRel_bind (parts_resemble inner resembles)
      intro first first' each
      exact .some (List.rel_append each (.cons resembles .nil))

theorem partsOfAll_resemble : ∀ (patterns : List Pattern) {values values' : List Value},
    AllResemble ledger values values' →
      Option.Rel (AllResemble ledger) (partsOfAll patterns values) (partsOfAll patterns values')
  | [], _, _, each => by
      cases each with
      | nil => exact .some .nil
      | cons => exact .none
  | pattern :: rest, _, _, each => by
      cases each with
      | nil => exact .none
      | cons here others =>
          simp only [partsOfAll]
          apply Value.optionRel_bind (parts_resemble pattern here)
          intro first first' eachFirst
          apply Value.optionRel_bind (partsOfAll_resemble rest others)
          intro later later' eachLater
          exact .some (List.rel_append eachFirst eachLater)

theorem partsOfEntries_resemble : ∀ (patterns : List (String × Pattern))
    {entries entries' : Value.Entries}, PairsResemble ledger entries entries' →
      Option.Rel (AllResemble ledger) (partsOfEntries patterns entries)
        (partsOfEntries patterns entries')
  | [], _, _, _ => .some .nil
  | (key, pattern) :: rest, _, _, each => by
      simp only [partsOfEntries]
      apply Value.optionRel_bind (each.find? (.text key))
      intro value value' resembles
      apply Value.optionRel_bind (parts_resemble pattern resembles)
      intro first first' eachFirst
      apply Value.optionRel_bind (partsOfEntries_resemble rest each)
      intro later later' eachLater
      exact .some (List.rel_append eachFirst eachLater)

end

theorem bind_resembles {bindings bindings' : Bindings}
    (each : PairsResemble ledger bindings bindings') (name : String) {value value' : Value}
    (resembles : Resembles ledger value value') :
    Option.Rel (PairsResemble ledger) (bindings.bind name value) (bindings'.bind name value') := by
  have known := each.lookup name
  simp only [Bindings.bind]
  split
  · exact .some each
  · generalize bindings.lookup name = bound?, bindings'.lookup name = bound?' at known ⊢
    cases known with
    | none => exact .some (List.rel_append each (.cons (.intro name resembles) .nil))
    | some before =>
        simp only [before.equal_eq true resembles]
        split
        · exact .some each
        · exact .none

/-- Binding names to values that resemble each other. -/
theorem bindAll_resemble {bindings bindings' : Bindings}
    (each : PairsResemble ledger bindings bindings') {names : List String}
    {values values' : List Value} (eachValue : AllResemble ledger values values') :
    Option.Rel (PairsResemble ledger) (bindings.bindAll (names.zip values))
      (bindings'.bindAll (names.zip values')) := by
  induction eachValue generalizing names bindings bindings' with
  | nil =>
      rw [List.zip_nil_right]
      exact .some each
  | cons here others ih =>
      cases names with
      | nil => exact .some each
      | cons name names =>
          simp only [List.zip_cons_cons, Bindings.bindAll]
          exact Value.optionRel_bind (bind_resembles each name here)
            fun extended extended' eachExtended => ih eachExtended

/-- Parameters fit arguments that resemble each other alike. -/
theorem fitParams_resemble (params : List Pattern) {arguments arguments' : List Value}
    (each : AllResemble ledger arguments arguments') :
    Option.Rel (PairsResemble ledger) (fitParams params arguments)
      (fitParams params arguments') := by
  rw [fitParams_eq_bindAll, fitParams_eq_bindAll]
  exact Value.optionRel_bind (partsOfAll_resemble params each) fun values values' eachValue =>
    bindAll_resemble .nil eachValue

end Pattern
end ClauseFlow
