import Mathlib.Data.Set.Basic
import MiniRay.Library.Run

/-! Ledgers of identities that can be granted and retired, where a retired identity
returns only after its tombstone is lost. -/

/-- The identities in force and the tombstones of the retired ones. -/
structure Ledger (ι : Type*) where
  live : Set ι
  gone : Set ι

namespace Ledger

variable {ι : Type*}

/-- No identity is in force and retired at once. -/
def Consistent (l : Ledger ι) : Prop := ∀ x ∈ l.live, x ∉ l.gone

/-- Grants avoid tombstones, retirements leave them; `keeps` names those that stay. -/
structure Step (keeps : ι → Prop) (l l' : Ledger ι) : Prop where
  gone_mono : ∀ x ∈ l.gone, keeps x → x ∈ l'.gone
  granted : ∀ x ∈ l'.live, x ∈ l.live ∨ x ∉ l.gone
  retired : ∀ x ∈ l.live, x ∈ l'.live ∨ x ∈ l'.gone
  buried : ∀ x ∈ l'.gone, x ∈ l.gone ∨ x ∉ l'.live

theorem Step.consistent {keeps : ι → Prop} {l l' : Ledger ι} (h : Step keeps l l')
    (hl : l.Consistent) : l'.Consistent := by
  intro x hx hg
  rcases h.buried x hg with hg | hn
  · rcases h.granted x hx with hx | hn
    · exact hl x hx hg
    · exact hn hg
  · exact hn hx

/-! ## Runs -/

variable {σ α : Type*} {step : σ → α → σ} {keeps : σ → α → ι → Prop} {v : σ → Ledger ι}

variable {s : σ}

theorem run_consistent (hstep : ∀ s a, Step (keeps s a) (v s) (v (step s a)))
    (hs : (v s).Consistent) (as : List α) : (v (Run.run step s as)).Consistent :=
  Run.run_invariant (p := fun s => (v s).Consistent)
    (fun s a hs => (hstep s a).consistent hs) hs as

theorem run_gone (hstep : ∀ s a, Step (keeps s a) (v s) (v (step s a))) {as : List α} {x : ι}
    (hrun : Run.Admissible step (fun s a => keeps s a x) s as) (hx : x ∈ (v s).gone) :
    x ∈ (v (Run.run step s as)).gone :=
  hrun.invariant (p := fun s => x ∈ (v s).gone)
    (fun s a hok hs => (hstep s a).gone_mono x hs hok) hx

/-- While its tombstone is kept, a retired identity is never in force again. -/
theorem run_never_returns (hstep : ∀ s a, Step (keeps s a) (v s) (v (step s a))) {as : List α}
    {x : ι} (hrun : Run.Admissible step (fun s a => keeps s a x) s as) (hs : (v s).Consistent)
    (hx : x ∈ (v s).gone) : x ∉ (v (Run.run step s as)).live :=
  fun hlive => run_consistent hstep hs as x hlive (run_gone hstep hrun hx)

end Ledger
