import ClauseFlow.Proofs.Clause.NameSupply

/-!
# Names on request

A supply answers any sequence of requests. The search for a number ends each time, since only
finitely many names are taken, and it ends at the smallest number that makes the name free. As every
name that is handed out is taken from then on, none is handed out twice.
-/

namespace ClauseFlow.NameSupply

/-! ## The search for a number -/

/-- The search that tries one number after the other until the name is free. Nothing bounds it: it
may be given any number to begin with, and comes to its last one or to none at all. -/
inductive Search (taken : List String) (base : String) : (number last : Nat) → Prop where
  | stop {number : Nat} (free : candidate base number ∉ taken) : Search taken base number number
  | next {number last : Nat} (met : candidate base number ∈ taken)
      (further : Search taken base (number + 1) last) : Search taken base number last

/-- The search ends at the first free number. -/
theorem Search.first_free {taken : List String} {base : String} {number last : Nat}
    (search : Search taken base number last) :
    number ≤ last ∧ candidate base last ∉ taken ∧
      ∀ tried, number ≤ tried → tried < last → candidate base tried ∈ taken := by
  induction search with
  | stop free =>
      exact ⟨Nat.le_refl _, free, fun _ late early => absurd late (Nat.not_le_of_lt early)⟩
  | next met _ ih =>
      rcases ih with ⟨later, free, smaller⟩
      refine ⟨Nat.le_of_succ_le later, free, fun tried late early => ?_⟩
      rcases Nat.eq_or_lt_of_le late with rfl | beyond
      · exact met
      · exact smaller tried beyond early

/-- The search with a bound is the one without, unless the bound cuts it short. -/
theorem search_freeNumber {taken : List String} {base : String} {fuel number : Nat}
    (free : candidate base (freeNumber taken base fuel number) ∉ taken) :
    Search taken base number (freeNumber taken base fuel number) := by
  induction fuel generalizing number with
  | zero => exact .stop free
  | succ fuel ih =>
      rw [freeNumber] at free ⊢
      split at free
      · rename_i met
        rw [if_pos met]
        exact .next (by simpa using met) (ih free)
      · rename_i unmet
        rw [if_neg unmet]
        exact .stop free

/-- Whether a name is a base with the smallest positive number that makes it free, which the search
finds. -/
def IsNumbered (taken : List String) (base name : String) : Prop :=
  ∃ number, Search taken base 1 number ∧ name = candidate base number ∧ 0 < number ∧
    name ∉ taken ∧ ∀ smaller, 0 < smaller → smaller < number → candidate base smaller ∈ taken

theorem isNumbered_numbered (supply : NameSupply) (base : String) :
    IsNumbered supply.taken base (supply.numbered base).1 := by
  have search := search_freeNumber (numbered_not_mem supply base)
  rcases search.first_free with ⟨positive, free, smaller⟩
  exact ⟨_, search, rfl, positive, free, smaller⟩

/-! ## Requests -/

/-- What a supply can be asked for: the base itself if possible, or the base with a number. -/
inductive Request where
  | fresh (base : String)
  | numbered (base : String)

/-- What a request has to be answered with when certain names are taken. -/
def Request.IsAnswer (taken : List String) : Request → String → Prop
  | .fresh base, name =>
      (name = base ↔ base ∉ taken) ∧ (base ∈ taken → IsNumbered taken base name)
  | .numbered base, name => IsNumbered taken base name

/-- The answer to a request, and the supply after it. -/
def answer (supply : NameSupply) : Request → String × NameSupply
  | .fresh base => supply.fresh base
  | .numbered base => supply.numbered base

/-- The answers to requests one after the other, and the supply after them. -/
def answerAll (supply : NameSupply) : List Request → List String × NameSupply
  | [] => ([], supply)
  | request :: rest =>
      let (name, next) := supply.answer request
      let (names, last) := next.answerAll rest
      (name :: names, last)

theorem isAnswer_answer (supply : NameSupply) (request : Request) :
    request.IsAnswer supply.taken (supply.answer request).1 := by
  cases request with
  | fresh base =>
      rw [Request.IsAnswer, answer, fresh]
      by_cases met : base ∈ supply.taken
      · rw [if_pos (List.contains_iff_mem.mpr met)]
        constructor
        · refine iff_of_false (fun same => ?_) (not_not_intro met)
          have free := numbered_not_mem supply base
          rw [same] at free
          exact free met
        · exact fun _ => isNumbered_numbered supply base
      · rw [if_neg (fun known => met (List.contains_iff_mem.mp known))]
        exact ⟨iff_of_true rfl met, fun known => absurd known met⟩
  | numbered base => exact isNumbered_numbered supply base

theorem HandsOut.answer (supply : NameSupply) (request : Request) :
    HandsOut supply (supply.answer request).2 [(supply.answer request).1] := by
  cases request with
  | fresh base => exact .fresh supply base
  | numbered base => exact .numbered supply base

theorem HandsOut.answerAll (supply : NameSupply) (requests : List Request) :
    HandsOut supply (supply.answerAll requests).2 (supply.answerAll requests).1.reverse := by
  induction requests generalizing supply with
  | nil => exact .refl supply
  | cons request rest ih =>
      simp only [NameSupply.answerAll, List.reverse_cons]
      exact (HandsOut.answer supply request).trans (ih _)

theorem length_answerAll (supply : NameSupply) (requests : List Request) :
    (supply.answerAll requests).1.length = requests.length := by
  induction requests generalizing supply with
  | nil => rfl
  | cons request rest ih => exact congrArg (· + 1) (ih _)

/-- What was handed out before a request counts as taken when it is answered. -/
theorem isAnswer_answerAll (supply : NameSupply) {requests : List Request} {index : Nat}
    {request : Request} (asked : requests[index]? = some request) :
    ∃ name, (supply.answerAll requests).1[index]? = some name ∧
      request.IsAnswer (((supply.answerAll requests).1.take index).reverse ++ supply.taken)
        name := by
  induction requests generalizing supply index with
  | nil => cases asked
  | cons first rest ih =>
      cases index with
      | zero =>
          obtain rfl : first = request := Option.some.inj asked
          exact ⟨_, rfl, isAnswer_answer supply first⟩
      | succ index =>
          rcases ih (supply.answer first).2 asked with ⟨name, found, isAnswer⟩
          refine ⟨name, found, ?_⟩
          rw [(HandsOut.answer supply first).taken] at isAnswer
          simpa only [NameSupply.answerAll, List.take_succ_cons, List.reverse_cons,
            List.append_assoc] using isAnswer

/-- Whatever names are taken at the start, every request in a sequence is answered: a fresh name is
its base just if that is still free, and otherwise, like a numbered one, the base with the smallest
positive number that makes it free, at which the search ends. No answer was taken at the start, and
none is given twice. -/
theorem answers_sequence (taken : List String) (requests : List Request) :
    let names := (answerAll ⟨taken⟩ requests).1
    names.length = requests.length ∧ names.Nodup ∧ (∀ name ∈ names, name ∉ taken) ∧
      ∀ index (request : Request), requests[index]? = some request →
        ∃ name, names[index]? = some name ∧
          request.IsAnswer ((names.take index).reverse ++ taken) name := by
  intro names
  have handsOut := HandsOut.answerAll ⟨taken⟩ requests
  have distinct := (List.pairwise_reverse.mp handsOut.distinct).imp Ne.symm
  refine ⟨length_answerAll _ requests, distinct, ?_, ?_⟩
  · exact fun name member => handsOut.free name (List.mem_reverse.mpr member)
  · exact fun index request asked => isAnswer_answerAll _ asked

/-- Bases that end in digits, and answers to one base that stand in the way of another. -/
def collidingRequests : List Request :=
  [.fresh "x", .numbered "x", .fresh "x1", .numbered "x1", .fresh "y", .fresh "y", .fresh "x2"]

theorem answers_sequence_colliding :
    (answerAll ⟨["x", "x1"]⟩ collidingRequests).1 = ["x2", "x3", "x11", "x12", "y", "y1", "x21"] ∧
      ∃ name, (answerAll ⟨["x", "x1"]⟩ collidingRequests).1[6]? = some name ∧
        Request.IsAnswer ["y1", "y", "x12", "x11", "x3", "x2", "x", "x1"] (.fresh "x2") name := by
  have names : (answerAll ⟨["x", "x1"]⟩ collidingRequests).1 =
      ["x2", "x3", "x11", "x12", "y", "y1", "x21"] := by
    decide +kernel
  have last := (answers_sequence ["x", "x1"] collidingRequests).2.2.2 6 (.fresh "x2") rfl
  rw [names] at last ⊢
  exact ⟨rfl, last⟩

end ClauseFlow.NameSupply
