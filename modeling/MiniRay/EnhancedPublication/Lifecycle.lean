import MiniRay.EnhancedPublication.Atomicity

/-! TERMINAL, ADOPTED and replays are accepted after a fence; the forward stages are not. -/

namespace MiniRay

open Checked PublicationSnapshot

namespace PublicationAuthority

/-- The order in which one record collected its receipts. -/
structure LifecycleSpec (s : PublicationSnapshot) : Prop where
  forward_before_fence : ∀ stage ∈ forwardStages, ∀ a f, s.receipt stage = some a →
    s.receipt .fenced = some f → a.sequence < f.sequence
  task_order : s.publication.isTask = true →
    s.Precedes .intent .prepared ∧ s.Precedes .prepared .armed ∧ s.Precedes .armed .terminal ∧
      s.Precedes .terminal .committed ∧ s.Precedes .committed .adopted
  abort_excludes_adoption : s.fence.any FenceProof.isAbort = true →
    s.adoption = none ∧ s.receipt .adopted = none
  rollback_excludes_complete : ∀ closed, s.closedHolds = some closed →
    closed.rollbackScope ≠ none → s.complete = none ∧ s.receipt .terminal = none

theorem RecordInv.lifecycle {counter : Nat} {s : PublicationSnapshot} (h : RecordInv counter s) :
    LifecycleSpec s := by
  refine ⟨h.open_before_fence, ?_, ?_, ?_⟩
  · intro htask
    exact ⟨h.intent_prepared, h.prepared_armed, h.armed_terminal, h.terminal_committed htask,
      h.committed_adopted⟩
  · intro habort
    have hnone := h.abort_not_adopted habort
    refine ⟨hnone, ?_⟩
    rw [← has_eq_false_iff, ← h.adoption_receipt, hnone]
    rfl
  · intro closed hclosed hscope
    have hnone : s.complete = none := by
      by_contra hcomplete
      exact hscope (validateClosed_scope (h.closed_fact closed hclosed) hcomplete)
    refine ⟨hnone, ?_⟩
    rw [← has_eq_false_iff, ← h.complete_receipt, hnone]
    rfl

/-- Every record of every run keeps the lifecycle order. -/
def LifecycleOrdered (authority : PublicationAuthority) : Prop :=
  ∀ key s, authority.records.get? key = some s → LifecycleSpec s

theorem lifecycle_ordered (requests : List PublicationRequest) :
    LifecycleOrdered (after requests) :=
  fun key s hs => ((inv_after requests).records key s hs).lifecycle

end PublicationAuthority

end MiniRay
