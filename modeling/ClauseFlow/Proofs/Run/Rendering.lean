import ClauseFlow.Proofs.Run.Resemblance

/-!
# What is seen of an outcome

Of a run one sees the text of its value, or what interrupted it: an error shows its code, whatever
its message. Runs that correspond look the same.
-/

namespace ClauseFlow

/-- The text of a value, the code of an error, or what no guard absorbs. -/
inductive Rendering where
  | shown (text : String)
  | error (code : String)
  | fault (fault : Fault)
  | tooDeep
  deriving DecidableEq, Repr

/-- What is seen of an outcome. A value may have too many digits to be shown. -/
def rendered : Outcome Value → Rendering
  | .ok (value, _) => (value.print?.map Rendering.shown).getD (.fault .digitLimit)
  | .error (.error error) => .error error.code
  | .error (.fault fault) => .fault fault
  | .error .tooDeep => .tooDeep

/-- Outcomes that correspond look the same. -/
theorem rendered_eq {ledger : Ledger} {outcome outcome' : Outcome Value}
    (corresponds : Outcome.Corresponds Value.Resembles ledger outcome outcome') :
    rendered outcome = rendered outcome' := by
  cases corresponds with
  | ok _ _ resembles => simp only [rendered, resembles.print?_eq]
  | error looksLike =>
      cases looksLike with
      | error sameCode => simp only [rendered, sameCode]
      | fault => rfl
      | tooDeep => rfl

end ClauseFlow
