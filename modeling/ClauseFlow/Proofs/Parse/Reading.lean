import ClauseFlow.Proofs.Parse.Rows
import ClauseFlow.Proofs.Token.Fragments

/-!
# Steps that read lexemes

A step reads a row of lexemes if it takes the tokens that have them, records no error, and answers,
whatever tokens are still to come, as long as the next one is of an allowed kind. Reading is closed
under the combinators that steps are built from.
-/

namespace ClauseFlow.Parse

variable {α β γ : Type} {excuse : Prop}

/-- Whether a step reads lexemes before a token of an allowed kind, with a good answer. With an
excuse it may also refuse them. -/
def Reads (excuse : Prop) (step : Parse α) (lexemes : List Lexeme) (follow : TokenKind → Prop)
    (good : α → Prop) : Prop :=
  ∀ (tokens rest : List Token) (finish : Token) (errors : List SyntaxError),
    tokens.map Token.lexeme = lexemes → follow (rest.headD finish).kind →
      (∃ value, step ⟨tokens ++ rest, finish, errors⟩ = .ok value ⟨rest, finish, errors⟩ ∧
        good value) ∨
      (excuse ∧ ∃ next, step ⟨tokens ++ rest, finish, errors⟩ = .error .syntaxError next)

/-- Whether a row of lexemes, or else what follows it, begins with a token of an allowed kind. -/
def Meets (allowed : TokenKind → Prop) (lexemes : List Lexeme) (follow : TokenKind → Prop) : Prop :=
  match lexemes with
  | [] => ∀ kind, follow kind → allowed kind
  | lexeme :: _ => allowed lexeme.kind

theorem Meets.next {allowed follow : TokenKind → Prop} {lexemes : List Lexeme}
    (meets : Meets allowed lexemes follow) {tokens rest : List Token} {finish : Token}
    (spelled : tokens.map Token.lexeme = lexemes) (allows : follow (rest.headD finish).kind) :
    allowed ((tokens ++ rest).headD finish).kind := by
  cases tokens with
  | nil =>
      subst spelled
      exact meets _ allows
  | cons token more =>
      subst spelled
      exact meets

theorem Meets.mono {allowed allowed' follow : TokenKind → Prop} {lexemes : List Lexeme}
    (meets : Meets allowed lexemes follow) (weaker : ∀ kind, allowed kind → allowed' kind) :
    Meets allowed' lexemes follow := by
  cases lexemes with
  | nil => exact fun kind allows => weaker kind (meets kind allows)
  | cons lexeme more => exact weaker _ meets

theorem Meets.any {lexemes : List Lexeme} {follow : TokenKind → Prop} :
    Meets (fun _ => True) lexemes follow := by
  cases lexemes with
  | nil => exact fun _ _ => trivial
  | cons lexeme more => trivial

namespace Reads

variable {lexemes lexemes' : List Lexeme} {follow follow' : TokenKind → Prop} {good : α → Prop}
  {good' : β → Prop} {step : Parse α} {next : α → Parse β} {kind : TokenKind} {value : String}

theorem answer {value : α} (holds : good value) : Reads excuse (pure value) [] follow good := by
  intro tokens rest finish errors spelled _
  rw [List.map_eq_nil_iff.mp spelled]
  exact .inl ⟨value, rfl, holds⟩

/-- A step may refuse what it has an excuse for. -/
theorem refuse (excused : excuse) (error : SyntaxError) :
    Reads excuse (fail error) lexemes follow good :=
  fun _ _ _ _ _ _ => .inr ⟨excused, _, rfl⟩

theorem mono {weaker : α → Prop} (reads : Reads excuse step lexemes follow good)
    (implies : ∀ value, good value → weaker value) : Reads excuse step lexemes follow weaker := by
  intro tokens rest finish errors spelled allows
  rcases reads tokens rest finish errors spelled allows with ⟨value, outcome, holds⟩ | refused
  · exact .inl ⟨value, outcome, implies value holds⟩
  · exact .inr refused

/-- A row is read before fewer kinds of tokens, too. -/
theorem narrow {fewer : TokenKind → Prop} (reads : Reads excuse step lexemes follow good)
    (implies : ∀ kind, fewer kind → follow kind) : Reads excuse step lexemes fewer good :=
  fun tokens rest finish errors spelled allows =>
    reads tokens rest finish errors spelled (implies _ allows)

/-- Steps one after the other. -/
theorem bind {follow'' : TokenKind → Prop} (first : Reads excuse step lexemes follow good)
    (meets : Meets follow lexemes' follow'')
    (later : ∀ value, good value → Reads excuse (next value) lexemes' follow'' good') :
    Reads excuse (step >>= next) (lexemes ++ lexemes') follow'' good' := by
  intro tokens rest finish errors spelled allows
  rcases List.map_eq_append_iff.mp spelled with ⟨here, there, rfl, spelledHere, spelledThere⟩
  rw [List.append_assoc]
  rcases first here (there ++ rest) finish errors spelledHere (meets.next spelledThere allows) with
    ⟨value, outcome, holds⟩ | ⟨excused, next, refused⟩
  · simp only [Bind.bind, EStateM.bind, outcome]
    exact later value holds there rest finish errors spelledThere allows
  · simp only [Bind.bind, EStateM.bind, refused]
    exact .inr ⟨excused, next, rfl⟩

/-- A step that ends the row. -/
theorem bind_last (first : Reads excuse step lexemes follow good)
    (later : ∀ value, good value → Reads excuse (next value) [] follow good') :
    Reads excuse (step >>= next) lexemes follow good' := by
  have meets : Meets follow [] follow := fun _ allows => allows
  have whole := bind first meets later
  rwa [List.append_nil] at whole

/-! ## Single tokens -/

/-- Looking at a token of the row. -/
theorem peek {next : Token → Parse β}
    (later : ∀ span, Reads excuse (next ⟨kind, value, span⟩) (⟨kind, value⟩ :: lexemes) follow good') :
    Reads excuse (current >>= next) (⟨kind, value⟩ :: lexemes) follow good' := by
  intro tokens rest finish errors spelled allows
  cases tokens with
  | nil => cases spelled
  | cons token more =>
      have same : token.lexeme = ⟨kind, value⟩ := (List.cons.inj spelled).1
      obtain ⟨kind', value', span⟩ := token
      cases same
      exact later span _ rest finish errors spelled allows

/-- Looking at the second token of the row. -/
theorem peek_second {next : Token → Parse β} {first : Lexeme}
    (later : ∀ span,
      Reads excuse (next ⟨kind, value, span⟩) (first :: ⟨kind, value⟩ :: lexemes) follow good') :
    Reads excuse (following >>= next) (first :: ⟨kind, value⟩ :: lexemes) follow good' := by
  intro tokens rest finish errors spelled allows
  match tokens, spelled with
  | token :: second :: more, spelled =>
      have same : second.lexeme = ⟨kind, value⟩ := (List.cons.inj (List.cons.inj spelled).2).1
      obtain ⟨kind', value', span⟩ := second
      cases same
      exact later span _ rest finish errors spelled allows

/-- Looking at the token that begins an operand, an element or an entry. -/
theorem peek_starts {next : Token → Parse β} (starts : Starts lexemes)
    (later : ∀ token, token.kind.starts = true → Reads excuse (next token) lexemes follow good') :
    Reads excuse (current >>= next) lexemes follow good' := by
  rcases starts with ⟨first, more, rfl, begins⟩
  exact peek fun span => later ⟨first.kind, first.value, span⟩ begins

/-- Looking at the token after the row. -/
theorem peek_end {next : Token → Parse β}
    (later : ∀ token, follow token.kind → Reads excuse (next token) [] follow good') :
    Reads excuse (current >>= next) [] follow good' := by
  intro tokens rest finish errors spelled allows
  obtain rfl := List.map_eq_nil_iff.mp spelled
  exact later _ allows [] rest finish errors rfl allows

theorem at_head {asked : TokenKind} {next : Bool → Parse β}
    (later : Reads excuse (next (decide (kind = asked))) (⟨kind, value⟩ :: lexemes) follow good') :
    Reads excuse (at? asked >>= next) (⟨kind, value⟩ :: lexemes) follow good' := by
  rw [at?, bind_assoc]
  apply peek
  intro span
  rw [pure_bind]
  exact later

theorem at_end {asked : TokenKind} {next : Bool → Parse β}
    (later : ∀ kind, follow kind → Reads excuse (next (decide (kind = asked))) [] follow good') :
    Reads excuse (at? asked >>= next) [] follow good' := by
  rw [at?, bind_assoc]
  apply peek_end
  intro token allows
  rw [pure_bind]
  exact later token.kind allows

/-- Looking for a token that does not come next. -/
theorem at_other {asked : TokenKind} {next : Bool → Parse β}
    (differs : Meets (· ≠ asked) lexemes follow)
    (later : Reads excuse (next false) lexemes follow good') :
    Reads excuse (at? asked >>= next) lexemes follow good' := by
  cases lexemes with
  | nil =>
      apply at_end
      intro kind allows
      rw [decide_eq_false (differs kind allows)]
      exact later
  | cons lexeme lexemes =>
      apply at_head
      rw [decide_eq_false differs]
      exact later

theorem take : Reads excuse advance [⟨kind, value⟩] (fun _ => True)
    (fun token => token.lexeme = ⟨kind, value⟩) := by
  intro tokens rest finish errors spelled _
  cases tokens with
  | nil => cases spelled
  | cons token more =>
      rcases List.cons.inj spelled with ⟨same, none⟩
      obtain rfl := List.map_eq_nil_iff.mp none
      exact .inl ⟨token, rfl, same⟩

theorem demand : Reads excuse (expect kind) [⟨kind, value⟩] (fun _ => True)
    (fun token => token.lexeme = ⟨kind, value⟩) := by
  apply peek
  intro span
  rw [if_pos rfl]
  exact take

/-- Taking a token and going on. -/
theorem skip {next : PUnit → Parse β} (later : Reads excuse (next ⟨⟩) lexemes follow good') :
    Reads excuse (discard advance >>= next) (⟨kind, value⟩ :: lexemes) follow good' := by
  rw [discard, LawfulFunctor.map_const, Function.comp_apply, bind_map_left]
  exact bind take Meets.any fun _ _ => later

theorem skip_expected {next : PUnit → Parse β} (later : Reads excuse (next ⟨⟩) lexemes follow good') :
    Reads excuse (discard (expect kind) >>= next) (⟨kind, value⟩ :: lexemes) follow good' := by
  rw [discard, LawfulFunctor.map_const, Function.comp_apply, bind_map_left]
  exact bind demand Meets.any fun _ _ => later

/-- Taking a token of a kind and going on with what it says. -/
theorem expected {next : Token → Parse β}
    (later : ∀ span, Reads excuse (next ⟨kind, value, span⟩) lexemes follow good') :
    Reads excuse (expect kind >>= next) (⟨kind, value⟩ :: lexemes) follow good' := by
  apply bind demand Meets.any
  rintro ⟨kind', value', span⟩ same
  cases same
  exact later span

end Reads

/-! ## Rows of items -/

/-- Rows of lexemes, each after a comma. -/
def continued (rows : List (List Lexeme)) : List Lexeme :=
  rows.flatMap fun row => Lexeme.comma :: row

theorem continued_cons (row : List Lexeme) (rest : List (List Lexeme)) :
    continued (row :: rest) = Lexeme.comma :: (row ++ continued rest) :=
  List.flatMap_cons

theorem listed_cons (first : List Lexeme) (rest : List (List Lexeme)) :
    Lexeme.listed (first :: rest) = first ++ continued rest := by
  induction rest generalizing first with
  | nil => exact (List.append_nil first).symm
  | cons second rest ih =>
      rw [Lexeme.listed, ih]
      · rfl
      · exact nofun

theorem length_le_of_mem {row : List Lexeme} {rows : List (List Lexeme)} (member : row ∈ rows) :
    row.length ≤ (Lexeme.listed rows).length := by
  have inside {row : List Lexeme} {rows : List (List Lexeme)} (member : row ∈ rows) :
      row.length ≤ (continued rows).length := by
    rcases List.mem_iff_append.mp member with ⟨before, after, rfl⟩
    simp only [continued, List.flatMap_append, List.flatMap_cons, List.length_append,
      List.length_cons]
    omega
  cases rows with
  | nil => cases member
  | cons first rest =>
      rw [listed_cons, List.length_append]
      rcases List.mem_cons.mp member with rfl | later
      · exact Nat.le_add_right _ _
      · exact (inside later).trans (Nat.le_add_left _ _)

theorem length_le_continued (rows : List (List Lexeme)) :
    rows.length ≤ (continued rows).length := by
  induction rows with
  | nil => exact Nat.le_refl 0
  | cons row rest ih =>
      rw [continued, List.flatMap_cons, List.length_append, List.length_cons, List.length_cons]
      rw [continued] at ih
      omega

theorem length_le_listed {rows : List (List Lexeme)} (starts : ∀ row ∈ rows, Starts row) :
    rows.length ≤ (Lexeme.listed rows).length := by
  cases rows with
  | nil => exact Nat.le_refl 0
  | cons first rest =>
      rcases starts first (.head _) with ⟨lexeme, more, rfl, _⟩
      have others := length_le_continued rest
      rw [listed_cons, List.length_append, List.length_cons, List.length_cons]
      omega

/-- Where a listing is shorter than a bound, so are its rows, and so is their number. -/
theorem rows_fit {items : List β} {lexemesOf : β → List Lexeme} {bound : Nat}
    (starts : ∀ entry ∈ items, Starts (lexemesOf entry))
    (fits : (Lexeme.listed (items.map lexemesOf)).length < bound) :
    items.length < bound ∧ ∀ entry ∈ items, (lexemesOf entry).length < bound := by
  constructor
  · have count := length_le_listed (List.forall_mem_map.mpr starts)
    rw [List.length_map] at count
    exact Nat.lt_of_le_of_lt count fits
  · intro entry member
    exact Nat.lt_of_le_of_lt (length_le_of_mem (List.mem_map_of_mem member)) fits

section

variable {item : Parse α} {items : List β} {lexemesOf : β → List Lexeme}
  {itemFollow : TokenKind → Prop} {matched : β → α → Prop}

theorem goesOn_of_starts {kind closing : TokenKind} (noStart : closing.starts = false)
    (starts : kind.starts = true) :
    (decide (kind = closing) || decide (kind = .endOfText)) = false := by
  have differs {other : TokenKind} (none : other.starts = false) : kind ≠ other := by
    rintro rfl
    rw [none] at starts
    cases starts
  rw [decide_eq_false (differs noStart), decide_eq_false (differs rfl)]
  rfl

/-- An item is followed by a comma or the closing mark. -/
theorem meets_continued {closing : TokenKind} (beforeComma : itemFollow .comma)
    (beforeClosing : itemFollow closing) (rows : List (List Lexeme)) :
    Meets itemFollow (continued rows) (fun kind => kind = closing) := by
  cases rows with
  | nil => exact fun _ same => same ▸ beforeClosing
  | cons _ _ => exact beforeComma

/-- Before the closing mark there is no item. -/
theorem turn_stops {closing : TokenKind} {first : Bool} {empty : γ} {more : Parse γ}
    {good : γ → Prop} (holds : good empty) :
    Reads excuse (turn closing first empty more) [] (fun kind => kind = closing) good := by
  rw [turn]
  apply Reads.peek_end
  intro token same
  simp only [same, decide_true, Bool.true_or, if_true]
  exact .answer holds

/-- The first item comes at once. -/
theorem turn_first {closing : TokenKind} (noStart : closing.starts = false) {empty : γ}
    {more : Parse γ} {lexemes : List Lexeme} {follow : TokenKind → Prop} {good : γ → Prop}
    (starts : Starts lexemes) (goesOn : Reads excuse more lexemes follow good) :
    Reads excuse (turn closing true empty more) lexemes follow good := by
  rw [turn]
  apply Reads.peek_starts starts
  intro token begins
  simp only [goesOn_of_starts noStart begins, Bool.false_eq_true, if_false, if_true]
  exact goesOn

/-- Any other item comes after a comma. -/
theorem turn_later {closing : TokenKind} (noStart : closing.starts = false) {empty : γ}
    {more : Parse γ} {lexemes : List Lexeme} {follow : TokenKind → Prop} {good : γ → Prop}
    (goesOn : Reads excuse more lexemes follow good) :
    Reads excuse (turn closing false empty more) (Lexeme.comma :: lexemes) follow good := by
  rw [turn]
  apply Reads.peek
  intro span
  simp only [goesOn_of_starts noStart (show TokenKind.comma.starts = true from rfl),
    Bool.false_eq_true, if_false]
  exact .skip_expected goesOn

theorem itemAnd_reads {closing : TokenKind} (beforeComma : itemFollow .comma)
    (beforeClosing : itemFollow closing) {entry : β} {rest : List β} {others : Parse (List α)}
    (here : Reads excuse item (lexemesOf entry) itemFollow (matched entry))
    (later : Reads excuse others (continued (rest.map lexemesOf)) (fun kind => kind = closing)
      (fun values => List.Forall₂ matched rest values)) :
    Reads excuse (itemAnd item others) (lexemesOf entry ++ continued (rest.map lexemesOf))
      (fun kind => kind = closing)
      (fun values => List.Forall₂ matched (entry :: rest) values) := by
  rw [itemAnd]
  apply Reads.bind here (meets_continued beforeComma beforeClosing _)
  intro value holds
  apply Reads.bind_last later
  intro values allHold
  exact .answer (.cons holds allHold)

/-- The items after the first one, each after its comma. -/
theorem separated_continued {closing : TokenKind} (noStart : closing.starts = false)
    (beforeComma : itemFollow .comma) (beforeClosing : itemFollow closing)
    (each : ∀ entry ∈ items, Reads excuse item (lexemesOf entry) itemFollow (matched entry))
    {fuel : Nat} (enough : items.length < fuel) :
    Reads excuse (separated item closing fuel false) (continued (items.map lexemesOf))
      (fun kind => kind = closing) (fun values => List.Forall₂ matched items values) := by
  induction items generalizing fuel with
  | nil =>
      cases fuel with
      | zero => cases enough
      | succ fuel => exact turn_stops .nil
  | cons entry rest ih =>
      cases fuel with
      | zero => cases enough
      | succ fuel =>
          rcases List.forall_mem_cons.mp each with ⟨here, others⟩
          rw [separated_succ, List.map_cons, continued_cons]
          apply turn_later noStart
          exact itemAnd_reads beforeComma beforeClosing here
            (ih others (Nat.lt_of_succ_lt_succ enough))

/-- Items with commas between them are read up to the closing mark. -/
theorem separated_reads {closing : TokenKind} (noStart : closing.starts = false)
    (beforeComma : itemFollow .comma) (beforeClosing : itemFollow closing)
    (starts : ∀ entry ∈ items, Starts (lexemesOf entry))
    (each : ∀ entry ∈ items, Reads excuse item (lexemesOf entry) itemFollow (matched entry))
    {fuel : Nat} (enough : items.length < fuel) :
    Reads excuse (separated item closing fuel true) (Lexeme.listed (items.map lexemesOf))
      (fun kind => kind = closing) (fun values => List.Forall₂ matched items values) := by
  cases fuel with
  | zero => cases enough
  | succ fuel =>
      cases items with
      | nil => exact turn_stops .nil
      | cons entry rest =>
          rcases List.forall_mem_cons.mp each with ⟨here, others⟩
          rw [separated_succ, List.map_cons, listed_cons]
          apply turn_first noStart ((starts entry (.head _)).append _)
          exact itemAnd_reads beforeComma beforeClosing here
            (separated_continued noStart beforeComma beforeClosing others
              (Nat.lt_of_succ_lt_succ enough))

/-- What is written of the rest of a list: a bar and an item. -/
def tailLexemes (lexemesOf : β → List Lexeme) : Option β → List Lexeme
  | none => []
  | some tail => ⟨.bar, "|"⟩ :: lexemesOf tail

/-- Unless the rest of a list comes next, an item is followed by a comma or the closing bracket. -/
theorem meets_noTail {allowed : TokenKind → Prop} (comma : allowed .comma)
    (closing : allowed .rightBracket) {items : List β} {tail? : Option β}
    (noTail : items ≠ [] ∨ tail? = none) :
    Meets allowed (continued (items.map lexemesOf) ++ tailLexemes lexemesOf tail?)
      (fun kind => kind = .rightBracket) := by
  cases items with
  | nil =>
      obtain rfl := noTail.resolve_left fun some => some rfl
      exact fun kind same => same ▸ closing
  | cons _ _ => exact comma

/-- An item of a list and all after it: the rest of the list if it comes next, else more items. -/
theorem itemAndTail_reads (beforeComma : itemFollow .comma) (beforeBar : itemFollow .bar)
    (beforeClosing : itemFollow .rightBracket) {entry : β} {rest : List β} {tail? : Option β}
    {others : Parse (List α × Option α)}
    (each : ∀ other ∈ entry :: rest ++ tail?.toList,
      Reads excuse item (lexemesOf other) itemFollow (matched other))
    (later : rest ≠ [] ∨ tail? = none → Reads excuse others
      (continued (rest.map lexemesOf) ++ tailLexemes lexemesOf tail?)
      (fun kind => kind = .rightBracket)
      (fun found => List.Forall₂ matched rest found.1 ∧ Option.Rel matched tail? found.2)) :
    Reads excuse (itemAndTail item others)
      (lexemesOf entry ++ (continued (rest.map lexemesOf) ++ tailLexemes lexemesOf tail?))
      (fun kind => kind = .rightBracket)
      (fun found => List.Forall₂ matched (entry :: rest) found.1 ∧
        Option.Rel matched tail? found.2) := by
  have here := each entry (.head _)
  rw [itemAndTail]
  by_cases noTail : rest ≠ [] ∨ tail? = none
  · have noBar : Meets (· ≠ .bar) (continued (rest.map lexemesOf) ++ tailLexemes lexemesOf tail?)
        (fun kind => kind = .rightBracket) := meets_noTail nofun nofun noTail
    apply Reads.bind here (meets_noTail beforeComma beforeClosing noTail)
    intro value holds
    apply Reads.at_other noBar
    simp only [Bool.false_eq_true, if_false]
    apply Reads.bind_last (later noTail)
    intro found ⟨allHold, tailHolds⟩
    exact .answer ⟨.cons holds allHold, tailHolds⟩
  · rcases not_or.mp noTail with ⟨isLast, hasTail⟩
    obtain rfl := of_not_not isLast
    rcases Option.ne_none_iff_exists'.mp hasTail with ⟨tail, rfl⟩
    have meets : Meets itemFollow (tailLexemes lexemesOf (some tail))
        (fun kind => kind = .rightBracket) := beforeBar
    have closes : ∀ kind, kind = TokenKind.rightBracket → itemFollow kind :=
      fun _ same => same ▸ beforeClosing
    have last := (each tail (List.mem_append_right _ (.head _))).narrow closes
    apply Reads.bind here meets
    intro value holds
    apply Reads.at_head
    simp only [decide_true, if_true]
    apply Reads.skip
    apply Reads.bind_last last
    intro value' holds'
    exact .answer ⟨.cons holds .nil, .some holds'⟩

/-- The items of a list after the first one, each after its comma, and the rest of the list. -/
theorem separatedWithTail_continued (beforeComma : itemFollow .comma) (beforeBar : itemFollow .bar)
    (beforeClosing : itemFollow .rightBracket) {tail? : Option β}
    (each : ∀ entry ∈ items ++ tail?.toList,
      Reads excuse item (lexemesOf entry) itemFollow (matched entry))
    (noTail : items ≠ [] ∨ tail? = none) {fuel : Nat} (enough : items.length < fuel) :
    Reads excuse (separatedWithTail item fuel false)
      (continued (items.map lexemesOf) ++ tailLexemes lexemesOf tail?)
      (fun kind => kind = .rightBracket)
      (fun found => List.Forall₂ matched items found.1 ∧ Option.Rel matched tail? found.2) := by
  induction items generalizing fuel with
  | nil =>
      cases fuel with
      | zero => cases enough
      | succ fuel =>
          obtain rfl := noTail.resolve_left fun some => some rfl
          exact turn_stops ⟨.nil, .none⟩
  | cons entry rest ih =>
      cases fuel with
      | zero => cases enough
      | succ fuel =>
          rw [separatedWithTail_succ, List.map_cons, continued_cons, List.cons_append,
            List.append_assoc]
          apply turn_later rfl
          apply itemAndTail_reads beforeComma beforeBar beforeClosing each
          intro noTail
          exact ih (fun other member => each other (.tail _ member)) noTail
            (Nat.lt_of_succ_lt_succ enough)

/-- The items of a list are read up to the closing bracket, and with them the rest of the list, if
there is one; an item comes before it then. -/
theorem separatedWithTail_reads (beforeComma : itemFollow .comma) (beforeBar : itemFollow .bar)
    (beforeClosing : itemFollow .rightBracket)
    (starts : ∀ entry ∈ items, Starts (lexemesOf entry)) {tail? : Option β}
    (each : ∀ entry ∈ items ++ tail?.toList,
      Reads excuse item (lexemesOf entry) itemFollow (matched entry))
    (nonempty : tail?.isSome = true → items ≠ []) {fuel : Nat} (enough : items.length < fuel) :
    Reads excuse (separatedWithTail item fuel true)
      (Lexeme.listed (items.map lexemesOf) ++ tailLexemes lexemesOf tail?)
      (fun kind => kind = .rightBracket)
      (fun found => List.Forall₂ matched items found.1 ∧ Option.Rel matched tail? found.2) := by
  cases fuel with
  | zero => cases enough
  | succ fuel =>
      cases items with
      | nil =>
          cases tail? with
          | some tail => exact absurd rfl (nonempty rfl)
          | none => exact turn_stops ⟨.nil, .none⟩
      | cons entry rest =>
          rw [separatedWithTail_succ, List.map_cons, listed_cons, List.append_assoc]
          apply turn_first rfl ((starts entry (.head _)).append _)
          apply itemAndTail_reads beforeComma beforeBar beforeClosing each
          intro noTail
          exact separatedWithTail_continued beforeComma beforeBar beforeClosing
            (fun other member => each other (.tail _ member)) noTail
            (Nat.lt_of_succ_lt_succ enough)

/-- An entry with a new key and all after it. -/
theorem entryAnd_reads (beforeComma : itemFollow .comma) (beforeClosing : itemFollow .rightBrace)
    {key : String} {entry : β} {rest : List (String × β)} {seen : List String}
    {others : List String → Parse (List (String × α))} (isNew : key ∉ seen)
    (here : Reads excuse item (lexemesOf entry) itemFollow (matched entry))
    (later : Reads excuse (others (key :: seen))
      (continued (rest.map fun entry => Lexeme.entry entry.1 (lexemesOf entry.2)))
      (fun kind => kind = .rightBrace)
      (fun found => List.Forall₂ (fun entry value => entry.1 = value.1 ∧
        matched entry.2 value.2) rest found)) :
    Reads excuse (entryAnd item seen others)
      (Lexeme.entry key (lexemesOf entry) ++
        continued (rest.map fun entry => Lexeme.entry entry.1 (lexemesOf entry.2)))
      (fun kind => kind = .rightBrace)
      (fun found => List.Forall₂ (fun entry value => entry.1 = value.1 ∧
        matched entry.2 value.2) ((key, entry) :: rest) found) := by
  have unseen : seen.contains key = false := by simpa using isNew
  rw [entryAnd, Lexeme.entry, List.cons_append, List.cons_append]
  apply Reads.expected
  intro span
  apply Reads.skip_expected
  simp only [unseen, Bool.false_eq_true, if_false, valueAnd]
  apply Reads.bind here (meets_continued beforeComma beforeClosing _)
  intro value holds
  apply Reads.bind_last later
  intro values allHold
  exact .answer (.cons ⟨rfl, holds⟩ allHold)

/-- The entries after the first one, each after its comma, with keys that are not seen before. -/
theorem entries_continued {items : List (String × β)} (beforeComma : itemFollow .comma)
    (beforeClosing : itemFollow .rightBrace)
    (each : ∀ entry ∈ items, Reads excuse item (lexemesOf entry.2) itemFollow (matched entry.2))
    {seen : List String} (some : seen ≠ []) (distinct : (items.map (·.1) ++ seen).Nodup)
    {fuel : Nat} (enough : items.length < fuel) :
    Reads excuse (entries item fuel seen)
      (continued (items.map fun entry => Lexeme.entry entry.1 (lexemesOf entry.2)))
      (fun kind => kind = .rightBrace)
      (fun found => List.Forall₂ (fun entry value => entry.1 = value.1 ∧
        matched entry.2 value.2) items found) := by
  induction items generalizing fuel seen with
  | nil =>
      cases fuel with
      | zero => cases enough
      | succ fuel => exact turn_stops .nil
  | cons entry rest ih =>
      cases fuel with
      | zero => cases enough
      | succ fuel =>
          rcases entry with ⟨key, value⟩
          rcases List.forall_mem_cons.mp each with ⟨here, others⟩
          have notFirst : seen.isEmpty = false := List.isEmpty_eq_false_iff.mpr some
          have isNew : key ∉ seen := fun known =>
            (List.nodup_cons.mp distinct).1 (List.mem_append_right _ known)
          rw [entries_succ, notFirst, List.map_cons, continued_cons]
          apply turn_later rfl
          exact entryAnd_reads beforeComma beforeClosing isNew here
            (ih others (List.cons_ne_nil _ _) (List.nodup_middle.mpr distinct)
              (Nat.lt_of_succ_lt_succ enough))

/-- Entries with commas between them are read up to the closing brace, if no two keys are the
same. -/
theorem entries_reads {items : List (String × β)} (beforeComma : itemFollow .comma)
    (beforeClosing : itemFollow .rightBrace)
    (each : ∀ entry ∈ items, Reads excuse item (lexemesOf entry.2) itemFollow (matched entry.2))
    (distinct : (items.map (·.1)).Nodup) {fuel : Nat} (enough : items.length < fuel) :
    Reads excuse (entries item fuel [])
      (Lexeme.listed (items.map fun entry => Lexeme.entry entry.1 (lexemesOf entry.2)))
      (fun kind => kind = .rightBrace)
      (fun found => List.Forall₂ (fun entry value => entry.1 = value.1 ∧ matched entry.2 value.2)
        items found) := by
  cases fuel with
  | zero => cases enough
  | succ fuel =>
      cases items with
      | nil => exact turn_stops .nil
      | cons entry rest =>
          rcases entry with ⟨key, value⟩
          rcases List.forall_mem_cons.mp each with ⟨here, others⟩
          have later : (rest.map (·.1) ++ [key]).Nodup :=
            List.nodup_middle.mpr (by rwa [List.append_nil])
          rw [entries_succ, List.map_cons, listed_cons]
          apply turn_first rfl (.cons rfl _)
          exact entryAnd_reads beforeComma beforeClosing List.not_mem_nil here
            (entries_continued beforeComma beforeClosing others (List.cons_ne_nil _ _) later
              (Nat.lt_of_succ_lt_succ enough))

/-! ## Rows within a bound

The items of a row are shorter than the row, so a bound on the row is one on the items and on their
number. -/

variable {bound : Nat}

theorem separated_within {closing : TokenKind} (noStart : closing.starts = false)
    (starts : ∀ entry ∈ items, Starts (lexemesOf entry))
    (beforeComma : itemFollow .comma) (beforeClosing : itemFollow closing)
    (each : ∀ entry ∈ items, (lexemesOf entry).length < bound →
      Reads excuse item (lexemesOf entry) itemFollow (matched entry))
    (fits : (Lexeme.listed (items.map lexemesOf)).length < bound) :
    Reads excuse (separated item closing bound true) (Lexeme.listed (items.map lexemesOf))
      (fun kind => kind = closing) (fun values => List.Forall₂ matched items values) := by
  rcases rows_fit starts fits with ⟨count, rows⟩
  exact separated_reads noStart beforeComma beforeClosing starts
    (fun entry member => each entry member (rows entry member)) count

theorem separatedWithTail_within {tail? : Option β}
    (starts : ∀ entry ∈ items, Starts (lexemesOf entry)) (beforeComma : itemFollow .comma)
    (beforeBar : itemFollow .bar) (beforeClosing : itemFollow .rightBracket)
    (each : ∀ entry ∈ items ++ tail?.toList, (lexemesOf entry).length < bound →
      Reads excuse item (lexemesOf entry) itemFollow (matched entry))
    (nonempty : tail?.isSome = true → items ≠ [])
    (fits : (Lexeme.listed (items.map lexemesOf) ++ tailLexemes lexemesOf tail?).length < bound) :
    Reads excuse (separatedWithTail item bound true)
      (Lexeme.listed (items.map lexemesOf) ++ tailLexemes lexemesOf tail?)
      (fun kind => kind = .rightBracket)
      (fun found => List.Forall₂ matched items found.1 ∧ Option.Rel matched tail? found.2) := by
  rw [List.length_append] at fits
  rcases rows_fit starts (Nat.lt_of_le_of_lt (Nat.le_add_right _ _) fits) with ⟨count, rows⟩
  apply separatedWithTail_reads beforeComma beforeBar beforeClosing starts ?_ nonempty count
  intro entry member
  apply each entry member
  rcases List.mem_append.mp member with inRow | isTail
  · exact rows entry inRow
  · obtain rfl := Option.mem_toList.mp isTail
    rw [tailLexemes, List.length_cons] at fits
    omega

theorem entries_within {items : List (String × β)} (beforeComma : itemFollow .comma)
    (beforeClosing : itemFollow .rightBrace)
    (each : ∀ entry ∈ items, (lexemesOf entry.2).length < bound →
      Reads excuse item (lexemesOf entry.2) itemFollow (matched entry.2))
    (distinct : (items.map (·.1)).Nodup)
    (fits : (Lexeme.listed (items.map fun entry =>
      Lexeme.entry entry.1 (lexemesOf entry.2))).length < bound) :
    Reads excuse (entries item bound [])
      (Lexeme.listed (items.map fun entry => Lexeme.entry entry.1 (lexemesOf entry.2)))
      (fun kind => kind = .rightBrace)
      (fun found => List.Forall₂ (fun entry value => entry.1 = value.1 ∧ matched entry.2 value.2)
        items found) := by
  have starts : ∀ entry ∈ items, Starts (Lexeme.entry entry.1 (lexemesOf entry.2)) :=
    fun entry _ => .cons rfl _
  rcases rows_fit starts fits with ⟨count, rows⟩
  apply entries_reads beforeComma beforeClosing ?_ distinct count
  intro entry member
  apply each entry member
  have shorter := rows entry member
  rw [Lexeme.entry, List.length_cons, List.length_cons] at shorter
  omega

end

end ClauseFlow.Parse
