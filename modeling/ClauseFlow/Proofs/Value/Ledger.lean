import Mathlib.Order.Defs.PartialOrder
import ClauseFlow.Proofs.Expr.Phrasing
import ClauseFlow.Value

/-!
# What stands for what

Two runs of texts that are phrased differently make closures with different bodies. Since closures
are equal only if their bodies are, it has to be kept in mind which phrasing stands for which body,
and where its closure was made. This is what a ledger is for; it grows with each closure that is
made inside a call.
-/

namespace ClauseFlow

/-- The bodies of the closures of one run, by where they were made, and how the closures of another
run phrase them. -/
structure Ledger where
  /-- The phrasings that occur. -/
  allows : Phrasing → Prop
  /-- The bodies of the closures made somewhere, with the phrasings that stand for them. -/
  texts : Origin → Expr → Phrasing → Prop
  asWritten : allows .asWritten
  allowed : ∀ {origin body phrasing}, texts origin body phrasing → allows phrasing
  /-- In one place, different bodies are phrased differently, and one body in one way. -/
  tells : ∀ {origin body body' phrasing phrasing'}, texts origin body phrasing →
    texts origin body' phrasing' →
      (body = body' ↔ body.phrased phrasing = body'.phrased phrasing')

namespace Ledger

/-- A ledger grows if nothing is taken out of it. -/
instance : Preorder Ledger where
  le ledger grown := (∀ phrasing, grown.allows phrasing ↔ ledger.allows phrasing) ∧
    ∀ origin body phrasing, ledger.texts origin body phrasing → grown.texts origin body phrasing
  le_refl _ := ⟨fun _ => Iff.rfl, fun _ _ _ => id⟩
  le_trans _ _ _ grows growsOn :=
    ⟨fun phrasing => (growsOn.1 phrasing).trans (grows.1 phrasing),
      fun _ _ _ known => growsOn.2 _ _ _ (grows.2 _ _ _ known)⟩

variable {ledger grown : Ledger} {body : Expr} {phrasing : Phrasing} {origin : Origin}
  {stamp next : Nat}

theorem allows_of_le (grows : ledger ≤ grown) (allowed : ledger.allows phrasing) :
    grown.allows phrasing :=
  (grows.1 phrasing).mpr allowed

theorem texts_of_le (grows : ledger ≤ grown) (known : ledger.texts origin body phrasing) :
    grown.texts origin body phrasing :=
  grows.2 _ _ _ known

/-- Whether nothing stands in the way of closures with the stamps to come: none of them has been
made, or else it may have any body. -/
def Ready (ledger : Ledger) (stamp : Nat) : Prop :=
  ∀ mark : Mark, stamp ≤ mark.stamp →
    (∀ body phrasing, ledger.allows phrasing → ledger.texts (.call mark) body phrasing) ∨
      ∀ body phrasing, ¬ledger.texts (.call mark) body phrasing

theorem Ready.mono (ready : ledger.Ready stamp) (later : stamp ≤ next) : ledger.Ready next :=
  fun mark reached => ready mark (Nat.le_trans later reached)

/-- A ledger with one more closure, made where none was. -/
def record (ledger : Ledger) (mark : Mark) (body : Expr) {phrasing : Phrasing}
    (allowed : ledger.allows phrasing)
    (free : ∀ body phrasing, ¬ledger.texts (.call mark) body phrasing) : Ledger where
  allows := ledger.allows
  texts origin body' phrasing' := ledger.texts origin body' phrasing' ∨
    origin = .call mark ∧ body' = body ∧ phrasing' = phrasing
  asWritten := ledger.asWritten
  allowed := by
    rintro origin body' phrasing' (known | ⟨-, -, rfl⟩)
    · exact ledger.allowed known
    · exact allowed
  tells := by
    rintro origin first second _ _ (known | ⟨rfl, rfl, rfl⟩) (known' | ⟨same, rfl, rfl⟩)
    · exact ledger.tells known known'
    · exact absurd (same ▸ known) (free _ _)
    · exact absurd known' (free _ _)
    · exact iff_of_true rfl rfl

/-- The next closure can be recorded. -/
theorem Ready.exists_record (ready : ledger.Ready stamp) (home : Nat) (body : Expr)
    (allowed : ledger.allows phrasing) :
    ∃ grown, ledger ≤ grown ∧ grown.Ready (stamp + 1) ∧
      grown.texts (.call ⟨home, stamp⟩) body phrasing := by
  rcases ready ⟨home, stamp⟩ (Nat.le_refl stamp) with everything | free
  -- Where every body is allowed nothing is to be recorded; else the mark has not been used.
  · exact ⟨ledger, le_rfl, ready.mono (Nat.le_succ stamp), everything body phrasing allowed⟩
  · refine ⟨ledger.record ⟨home, stamp⟩ body allowed free, ?_, ?_, .inr ⟨rfl, rfl, rfl⟩⟩
    · exact ⟨fun _ => Iff.rfl, fun _ _ _ => .inl⟩
    · intro mark later
      have differs : mark ≠ ⟨home, stamp⟩ := by
        rintro rfl
        exact absurd later (Nat.not_succ_le_self stamp)
      rcases ready mark (Nat.le_of_succ_le later) with everything | nothing
      · exact .inl fun body' phrasing' allowed' => .inl (everything body' phrasing' allowed')
      · right
        rintro body' phrasing' (known | ⟨same, -, -⟩)
        · exact nothing _ _ known
        · exact differs (Origin.call.inj same)

/-! ## Ledgers to begin with -/

/-- Whether each body may stand for itself, wherever its closure was made. -/
def IsVerbatim (ledger : Ledger) : Prop :=
  ∀ origin body, ledger.texts origin body .asWritten

/-- The ledger of runs that evaluate one text: each body stands for itself, wherever its closure was
made. -/
def verbatim : Ledger where
  allows phrasing := phrasing = .asWritten
  texts _ _ phrasing := phrasing = .asWritten
  asWritten := rfl
  allowed := id
  tells := by
    rintro origin body body' _ _ rfl rfl
    rw [Expr.phrased_asWritten, Expr.phrased_asWritten]

theorem isVerbatim_verbatim : verbatim.IsVerbatim :=
  fun _ _ => rfl

theorem ready_verbatim (stamp : Nat) : verbatim.Ready stamp :=
  fun _ _ => .inl fun _ _ => id

/-- The ledger of runs whose only closures so far are to be made by the outer lambdas of an
expression of a session, in the second run with their pipes phrased as calls. -/
def ofSession (home : Nat) (bodies : List Expr)
    (apart : ∀ body ∈ bodies, ∀ body' ∈ bodies, body.direct = body'.direct → body = body') :
    Ledger where
  allows _ := True
  texts origin body phrasing := origin = .session home ∧ body ∈ bodies ∧ phrasing = .direct
  asWritten := trivial
  allowed _ := trivial
  tells := by
    rintro origin body body' _ _ ⟨-, known, rfl⟩ ⟨-, known', rfl⟩
    exact ⟨congrArg Expr.direct, apart body known body' known'⟩

theorem ready_ofSession {home : Nat} {bodies : List Expr}
    {apart : ∀ body ∈ bodies, ∀ body' ∈ bodies, body.direct = body'.direct → body = body'}
    (stamp : Nat) : (ofSession home bodies apart).Ready stamp := by
  intro mark _
  right
  rintro body phrasing ⟨same, -, -⟩
  cases same

end Ledger
end ClauseFlow
