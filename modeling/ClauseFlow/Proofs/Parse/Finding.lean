import ClauseFlow.Parse.Module
import ClauseFlow.Proofs.Parse.Written
import ClauseFlow.Proofs.Pattern.Lexemes
import ClauseFlow.Proofs.Token.Legible

/-!
# What is found without an error

A step finds something with a property if, from legible tokens on, each answer of it has the
property unless an error is recorded. Since errors are never taken back, a text that is read without
one gives only such answers. The properties of earlier answers are at hand as hypotheses of the
later ones.
-/

namespace ClauseFlow

/-- Whether what the tokens still to come say fits their kinds. -/
def Cursor.IsLegible (cursor : Cursor) : Prop :=
  (∀ token ∈ cursor.tokens, token.lexeme.isLegible = true) ∧ cursor.finish.kind = .endOfText

/-- Whether a token is legible. -/
abbrev Token.IsLegible (token : Token) : Prop :=
  token.lexeme.isLegible = true

namespace Cursor.IsLegible

variable {cursor : Cursor}

/-- The token at the head of some of the tokens still to come is legible. -/
theorem head {tokens : List Token} (legible : cursor.IsLegible)
    (suffix : tokens <:+ cursor.tokens) : (tokens.headD cursor.finish).IsLegible := by
  cases tokens with
  | nil =>
      have isEnd : cursor.finish.lexeme = ⟨.endOfText, cursor.finish.value⟩ := by
        rw [Token.lexeme, legible.2]
      rw [Token.IsLegible, List.headD_nil, isEnd]
      rfl
  | cons token tokens => exact legible.1 token (suffix.mem (.head _))

/-- Legibility stays when tokens are taken. -/
theorem of_suffix {tokens : List Token} (legible : cursor.IsLegible)
    (suffix : tokens <:+ cursor.tokens) (errors : List SyntaxError) :
    IsLegible ⟨tokens, cursor.finish, errors⟩ :=
  ⟨fun token member => legible.1 token (suffix.mem member), legible.2⟩

end Cursor.IsLegible

/-! ## Legible tokens of a kind -/

namespace Token.IsLegible

variable {token : Token}

theorem isName (legible : token.IsLegible) (kind : token.kind = .name) :
    isName token.value = true := by
  simpa [Token.IsLegible, Lexeme.isLegible, Token.lexeme, kind, ClauseFlow.isName] using legible

theorem isTag (legible : token.IsLegible) (kind : token.kind = .typeName) :
    isTag token.value = true := by
  simpa [Token.IsLegible, Lexeme.isLegible, Token.lexeme, kind, ClauseFlow.isTag] using legible

theorem isAtomName (legible : token.IsLegible) (kind : token.kind = .atom) :
    isAtomName token.value = true := by
  simpa [Token.IsLegible, Lexeme.isLegible, Token.lexeme, kind] using legible

end Token.IsLegible

namespace Parse

variable {α β : Type}

/-- Whether every answer of a step from legible tokens on has a property or comes with an error. -/
def Finds (good : α → Prop) (step : Parse α) : Prop :=
  ∀ cursor, cursor.IsLegible →
    (∀ value next, step cursor = .ok value next →
      next.IsLegible ∧ (next.errors = [] → cursor.errors = [] ∧ good value)) ∧
    (∀ next, step cursor = .error .syntaxError next → next.IsLegible ∧ next.errors ≠ [])

namespace Finds

variable {good : α → Prop} {good' : β → Prop}

theorem answer {value : α} (holds : good value) : Finds good (pure value) := by
  intro cursor legible
  constructor
  · intro value' next outcome
    cases outcome
    exact ⟨legible, fun clean => ⟨clean, holds⟩⟩
  · intro next outcome
    cases outcome

theorem stop {stop : Stop} (noError : stop ≠ .syntaxError) : Finds good (throw stop) := by
  intro cursor legible
  constructor
  · intro value next outcome
    cases outcome
  · intro next outcome
    cases outcome
    exact absurd rfl noError

theorem refuse (error : SyntaxError) : Finds good (fail error) := by
  intro cursor legible
  constructor
  · intro value next outcome
    cases outcome
  · intro next outcome
    cases outcome
    exact ⟨legible, by simp⟩

theorem mono {weaker : α → Prop} {step : Parse α} (finds : Finds good step)
    (implies : ∀ value, good value → weaker value) : Finds weaker step := by
  intro cursor legible
  constructor
  · intro value next outcome
    rcases (finds cursor legible).1 value next outcome with ⟨rest, holds⟩
    exact ⟨rest, fun clean => ⟨(holds clean).1, implies value (holds clean).2⟩⟩
  · exact (finds cursor legible).2

/-- Steps one after the other; what the first one answers is good when the second one is. -/
theorem bind {step : Parse α} {rest : α → Parse β} (first : Finds good step)
    (later : ∀ value, Finds (fun result => good value → good' result) (rest value)) :
    Finds good' (step >>= rest) := by
  intro cursor legible
  cases outcome : step cursor with
  | ok value next =>
      rcases (first cursor legible).1 value next outcome with ⟨legible', holds⟩
      simp only [Bind.bind, EStateM.bind, outcome]
      constructor
      · intro result last outcome'
        rcases (later value next legible').1 result last outcome' with ⟨legible'', holds'⟩
        refine ⟨legible'', fun clean => ?_⟩
        rcases holds (holds' clean).1 with ⟨clean', here⟩
        exact ⟨clean', (holds' clean).2 here⟩
      · exact (later value next legible').2
  | error stop next =>
      simp only [Bind.bind, EStateM.bind, outcome]
      constructor
      · intro result last outcome'
        cases outcome'
      · intro last outcome'
        cases outcome'
        exact (first cursor legible).2 next outcome

/-- Steps one after the other, where the second one relies on nothing. -/
theorem after {step : Parse α} {rest : α → Parse β} (first : Finds good step)
    (later : ∀ value, Finds good' (rest value)) : Finds good' (step >>= rest) :=
  bind first fun value => (later value).mono fun _ holds _ => holds

theorem ite {accepted : Prop} [Decidable accepted] {step other : Parse α}
    (first : accepted → Finds good step) (second : ¬accepted → Finds good other) :
    Finds good (if accepted then step else other) := by
  split
  · rename_i holds
    exact first holds
  · rename_i fails
    exact second fails

/-! ## Single tokens -/

theorem current : Finds Token.IsLegible current := by
  intro cursor legible
  constructor
  · intro token next outcome
    cases outcome
    exact ⟨legible, fun clean => ⟨clean, legible.head (List.suffix_refl _)⟩⟩
  · intro next outcome
    cases outcome

theorem following : Finds Token.IsLegible following := by
  intro cursor legible
  constructor
  · intro token next outcome
    cases outcome
    exact ⟨legible, fun clean => ⟨clean, legible.head (List.tail_suffix _)⟩⟩
  · intro next outcome
    cases outcome

theorem advance : Finds Token.IsLegible advance := by
  intro cursor legible
  constructor
  · intro token next outcome
    cases outcome
    exact ⟨legible.of_suffix (List.tail_suffix _) _,
      fun clean => ⟨clean, legible.head (List.suffix_refl _)⟩⟩
  · intro next outcome
    cases outcome

theorem at? (kind : TokenKind) : Finds (fun _ => True) (Parse.at? kind) :=
  after current fun _ => answer trivial

theorem discard {step : Parse α} (finds : Finds good step) :
    Finds (fun _ => True) (discard step) := by
  rw [Functor.discard, LawfulFunctor.map_const, Function.comp_apply, ← bind_pure_comp]
  exact after finds fun _ => answer trivial

/-- An error that is recorded is never taken back. -/
theorem record (error : SyntaxError) : Finds (fun _ => False) (record error) := by
  intro cursor legible
  constructor
  · intro value next outcome
    cases outcome
    exact ⟨legible, fun clean => absurd clean (by simp)⟩
  · intro next outcome
    cases outcome

theorem expect (kind : TokenKind) :
    Finds (fun token => token.IsLegible ∧ token.kind = kind) (expect kind) := by
  intro cursor legible
  have looks : Parse.expect kind cursor =
      (if (cursor.tokens.headD cursor.finish).kind = kind then Parse.advance
        else fail (.expected kind (cursor.tokens.headD cursor.finish))) cursor := rfl
  rw [looks]
  split
  · rename_i same
    constructor
    · intro token next outcome
      cases outcome
      exact ⟨legible.of_suffix (List.tail_suffix _) _,
        fun clean => ⟨clean, legible.head (List.suffix_refl _), same⟩⟩
    · intro next outcome
      cases outcome
  · exact refuse _ cursor legible

theorem skipNewlines : Finds (fun _ => True) skipNewlines := by
  intro cursor legible
  constructor
  · intro value next outcome
    cases outcome
    exact ⟨legible.of_suffix (List.dropWhile_suffix _) _, fun clean => ⟨clean, trivial⟩⟩
  · intro next outcome
    cases outcome

theorem skipDeclaration : Finds (fun _ => True) skipDeclaration := by
  intro cursor legible
  constructor
  · intro value next outcome
    cases outcome
    exact ⟨legible.of_suffix ((List.tail_suffix _).trans (List.dropWhile_suffix _)) _,
      fun clean => ⟨clean, trivial⟩⟩
  · intro next outcome
    cases outcome

theorem numeral {value? : Option α} : Finds (fun value => value? = some value) (numeral value?) := by
  cases value? with
  | none => exact stop (by decide)
  | some value => exact answer rfl

end Finds

/-! ## Repetition -/

variable {good : α → Prop} {item : Parse α}

theorem turn_finds {closing : TokenKind} {first : Bool} {empty : α} {more : Parse α}
    (holds : good empty) (goesOn : Finds good more) :
    Finds good (turn closing first empty more) := by
  rw [turn]
  apply Finds.after .current
  intro token
  apply Finds.ite
  · exact fun _ => .answer holds
  · exact fun _ => .ite (fun _ => goesOn) fun _ => .after (.discard (.expect _)) fun _ => goesOn

theorem itemAnd_finds {rest : Parse (List α)} (each : Finds good item)
    (others : Finds (fun values => ∀ value ∈ values, good value) rest) :
    Finds (fun values => ∀ value ∈ values, good value) (itemAnd item rest) := by
  rw [itemAnd]
  apply Finds.bind each
  intro value
  apply Finds.bind others
  intro rest
  exact .answer fun restHolds holds => List.forall_mem_cons.mpr ⟨holds, restHolds⟩

theorem separated_finds (each : Finds good item) (closing : TokenKind) (fuel : Nat)
    (first : Bool) : Finds (fun values => ∀ value ∈ values, good value)
      (separated item closing fuel first) := by
  induction fuel generalizing first with
  | zero => exact .stop (by decide)
  | succ fuel ih =>
      rw [separated_succ]
      exact turn_finds (List.forall_mem_nil _) (itemAnd_finds each (ih false))

theorem itemAndTail_finds {rest : Parse (List α × Option α)} (each : Finds good item)
    (others : Finds (fun found => (∀ value ∈ found.1, good value) ∧
      (∀ value ∈ found.2, good value) ∧ (found.2.isSome = true → found.1 ≠ [])) rest) :
    Finds (fun found => (∀ value ∈ found.1, good value) ∧ (∀ value ∈ found.2, good value) ∧
        (found.2.isSome = true → found.1 ≠ []))
      (itemAndTail item rest) := by
  rw [itemAndTail]
  apply Finds.bind each
  intro value
  apply Finds.after (.at? _)
  intro bar
  apply Finds.ite
  · intro _
    apply Finds.after (.discard .advance)
    intro _
    apply Finds.bind each
    intro tail
    apply Finds.answer
    intro tailHolds holds
    refine ⟨List.forall_mem_singleton.mpr holds, ?_, fun _ => List.cons_ne_nil _ _⟩
    rintro found ⟨⟩
    exact tailHolds
  · intro _
    apply Finds.bind others
    intro found
    exact .answer fun others holds => ⟨List.forall_mem_cons.mpr ⟨holds, others.1⟩, others.2.1,
      fun _ => List.cons_ne_nil _ _⟩

theorem separatedWithTail_finds (each : Finds good item) (fuel : Nat) (first : Bool) :
    Finds (fun found => (∀ value ∈ found.1, good value) ∧ (∀ value ∈ found.2, good value) ∧
        (found.2.isSome = true → found.1 ≠ []))
      (separatedWithTail item fuel first) := by
  induction fuel generalizing first with
  | zero => exact .stop (by decide)
  | succ fuel ih =>
      rw [separatedWithTail_succ]
      exact turn_finds ⟨List.forall_mem_nil _, by rintro _ ⟨⟩, by rintro ⟨⟩⟩
        (itemAndTail_finds each (ih false))

/-- Entries whose keys are names, no two of them the same and none of them seen before. -/
structure AreEntries (good : α → Prop) (seen : List String) (found : List (String × α)) :
    Prop where
  each : ∀ entry ∈ found, good entry.2
  names : ∀ entry ∈ found, isName entry.1 = true
  distinct : (found.map (·.1)).Nodup
  unseen : ∀ entry ∈ found, entry.1 ∉ seen

theorem AreEntries.areKeys {seen : List String} {found : List (String × α)}
    (found' : AreEntries good seen found) : areKeys (found.map (·.1)) = true := by
  simp only [ClauseFlow.areKeys, Bool.and_eq_true, decide_eq_true_eq, List.all_eq_true]
  exact ⟨List.forall_mem_map.mpr found'.names, found'.distinct⟩

theorem AreEntries.cons {seen : List String} {key : String} {value : α}
    {found : List (String × α)} (name : isName key = true) (isNew : key ∉ seen)
    (holds : good value) (others : AreEntries good (key :: seen) found) :
    AreEntries good seen ((key, value) :: found) where
  each := List.forall_mem_cons.mpr ⟨holds, others.each⟩
  names := List.forall_mem_cons.mpr ⟨name, others.names⟩
  distinct := by
    rw [List.map_cons, List.nodup_cons]
    refine ⟨fun member => ?_, others.distinct⟩
    rcases List.mem_map.mp member with ⟨entry, inside, same⟩
    exact others.unseen entry inside (same ▸ .head _)
  unseen := List.forall_mem_cons.mpr
    ⟨isNew, fun entry member known => others.unseen entry member (.tail _ known)⟩

theorem valueAnd_finds {seen : List String} {key : String} {rest : Parse (List (String × α))}
    (each : Finds good item) (others : Finds (AreEntries good (key :: seen)) rest) :
    Finds (fun found => key ∉ seen → isName key = true → AreEntries good seen found)
      (valueAnd item key rest) := by
  rw [valueAnd]
  apply Finds.bind each
  intro value
  apply Finds.bind others
  intro rest
  exact .answer fun others holds isNew name => .cons name isNew holds others

/-- The key of an entry is a name and new, or an error is recorded. -/
theorem entryAnd_finds {seen : List String} {rest : List String → Parse (List (String × α))}
    (each : Finds good item) (others : ∀ seen, Finds (AreEntries good seen) (rest seen)) :
    Finds (AreEntries good seen) (entryAnd item seen rest) := by
  rw [entryAnd]
  apply Finds.bind (.expect .name)
  intro key
  apply Finds.after (.discard (.expect _))
  intro _
  apply Finds.ite
  · intro _
    apply Finds.bind (.record _)
    intro _
    apply (valueAnd_finds each (others _)).mono
    exact fun _ _ impossible => impossible.elim
  · intro unseen
    have isNew : key.value ∉ seen := by simpa using unseen
    apply (valueAnd_finds each (others _)).mono
    exact fun _ holds legible => holds isNew (legible.1.isName legible.2)

theorem entries_finds (each : Finds good item) (fuel : Nat) (seen : List String) :
    Finds (AreEntries good seen) (entries item fuel seen) := by
  induction fuel generalizing seen with
  | zero => exact .stop (by decide)
  | succ fuel ih =>
      rw [entries_succ]
      exact turn_finds
        ⟨List.forall_mem_nil _, List.forall_mem_nil _, List.nodup_nil, List.forall_mem_nil _⟩
        (entryAnd_finds each ih)

end Parse
end ClauseFlow
