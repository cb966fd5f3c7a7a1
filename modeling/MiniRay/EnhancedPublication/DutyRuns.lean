import MiniRay.EnhancedPublication.DutyCalls

/-! Requests, committed deaths and driver sections interleave while membership goes on. -/

namespace MiniRay

open Checked PublicationSnapshot Run

namespace EnhancedPublicationControl

open DeathCleanup
open PublicationAuthority (Preserves)

variable {c c' : EnhancedPublicationControl} {workers : WorkerTable}

/-! ## Requests -/

/-- Records go on, duties stay as they are and no committed death is forgotten. -/
structure Grows (c c' : EnhancedPublicationControl) : Prop where
  records : ∀ key s, c.authority.records.get? key = some s →
    ∃ s', c'.authority.records.get? key = some s' ∧ Preserves s s'
  duties : ∀ key work, c.deaths.get? key = some work → c'.deaths.get? key = some work
  committed : ∀ death ∈ c.committed, death ∈ c'.committed

theorem Grows.refl (c : EnhancedPublicationControl) : c.Grows c :=
  ⟨fun _ s h => ⟨s, h, .refl s⟩, fun _ _ h => h, fun _ h => h⟩

theorem Base.grows (h : c.Base workers) (request : PublicationRequest) :
    c.Grows { c with authority := (c.authority.apply request).2 } :=
  ⟨fun _ _ hs => PublicationAuthority.apply_history h.authority request hs, fun _ _ hw => hw,
    fun _ hd => hd⟩

theorem Grows.extends (h : c.Grows c') {c'' : EnhancedPublicationControl} (h' : c'.Extends c'')
    {death : WorkerDeathRecord} (hcommitted : c''.committed = c'.committed ++ [death]) :
    c.Grows c'' := by
  refine ⟨?_, ?_, ?_⟩
  · intro key s hs
    obtain ⟨s', hs', hpreserves⟩ := h.records key s hs
    obtain ⟨s'', hs'', hpreserves'⟩ := h'.records key s' hs'
    exact ⟨s'', hs'', hpreserves.trans hpreserves'⟩
  · intro key work hwork
    exact h'.duties key work (h.duties key work hwork)
  · intro d hd
    rw [hcommitted]
    exact List.mem_append_left _ (h.committed d hd)

theorem Inv.commitOwnerDeath (h : c.Inv workers) (death : WorkerDeathRecord) :
    Inv workers (c.commitOwnerDeath workers death).2 ∧
      c.Grows (c.commitOwnerDeath workers death).2 := by
  rcases commitOwnerDeath_cases h.toBase death with
    ⟨after, hcommit, hdeath, hbase, hextends, hcommitted, hcovers⟩ | ⟨raised, hcommit⟩
  · rw [hcommit]
    refine ⟨⟨hbase, fun d hd => ?_⟩, (Grows.refl c).extends hextends hcommitted⟩
    rw [hcommitted, List.mem_append, List.mem_singleton] at hd
    rcases hd with hd | rfl
    · obtain ⟨hcertified, hcovered⟩ := h.covers d hd
      exact ⟨hcertified, hcovered.extends hextends⟩
    · exact ⟨hdeath, hcovers⟩
  · rw [hcommit]
    exact ⟨h, .refl c⟩

theorem Inv.served (h : c.Inv workers) (request : PublicationRequest) (death : WorkerDeathRecord)
    (hdeath : death ∈ c.committed) :
    Covers { c with authority := (c.authority.apply request).2 } death ∨
      ∃ reply s, (c.authority.apply request).1 = .ok reply ∧ reply.accepted = true ∧
        request.stage.isSome = true ∧ reply.snapshot = some s ∧
        s.publication.ownerWorkerId = death.workerId := by
  by_cases hreply : ∃ reply s, (c.authority.apply request).1 = .ok reply ∧
      reply.accepted = true ∧ request.stage.isSome = true ∧ reply.snapshot = some s ∧
      s.publication.ownerWorkerId = death.workerId
  · exact .inr hreply
  · left
    intro key s' hs' howner
    rcases PublicationAuthority.apply_records h.authority request hs' with
      ⟨s, hs, hpreserves⟩ | ⟨_, reply, happly, haccepted, hstage, hsnapshot⟩
    · obtain ⟨hfenced, work, hwork, hexact⟩ :=
        (h.covers death hdeath).2 key s hs (by rw [← hpreserves.publication]; exact howner)
      refine ⟨fence_ne_none hpreserves hfenced, work, ?_, hexact⟩
      rw [reference_eq hpreserves]
      exact hwork
    · exact absurd ⟨reply, s', happly, haccepted, hstage, hsnapshot, howner⟩ hreply

theorem Inv.handle (h : c.Inv workers) (nodes : NodeRegistry) (request : PublicationRequest) :
    Inv workers (c.handle nodes workers request).2 ∧
      c.Grows (c.handle nodes workers request).2 := by
  have hsame : Inv workers c ∧ c.Grows c := ⟨h, .refl c⟩
  unfold EnhancedPublicationControl.handle
  split
  · exact hsame
  · rename_i query hquery
    split
    · exact hsame
    · dsimp only
      split
      · exact hsame
      · split
        · exact hsame
        · rename_i death hlate
          have hcommit := h.commitOwnerDeath death
          cases hresult : c.commitOwnerDeath workers death with
          | mk result after =>
            rw [hresult] at hcommit
            cases result with
            | error raised => exact hcommit
            | ok value => exact hcommit
        · split
          · exact hsame
          · have hbase := h.toBase.applied request
            have hgrows := h.toBase.grows request
            have hserved := h.served request
            cases hresult : c.authority.apply request with
            | mk result next =>
              rw [hresult] at hbase hgrows hserved
              cases result with
              | error failure =>
                refine ⟨⟨hbase, fun d hd => ⟨(h.covers d hd).1, ?_⟩⟩, hgrows⟩
                rcases hserved d hd with hcovers | ⟨_, _, hreply, _⟩
                · exact hcovers
                · cases hreply
              | ok reply =>
                dsimp only
                split
                · rename_i snapshot haccepted hsnapshot
                  have howned : ∀ d ∈ c.committed, Covers { c with authority := next } d ∨
                      snapshot.publication.ownerWorkerId = d.workerId := by
                    intro d hd
                    rcases hserved d hd with hcovers | ⟨_, s, hreply, _, _, hs, howner⟩
                    · exact .inl hcovers
                    · cases hreply
                      rw [hsnapshot, Option.some.injEq] at hs
                      exact .inr (hs ▸ howner)
                  cases hdeath : ownerDeath? workers snapshot.publication.ownerWorkerId with
                  | error raised =>
                    refine ⟨⟨hbase, fun d hd => ⟨(h.covers d hd).1, ?_⟩⟩, hgrows⟩
                    rcases howned d hd with hcovers | howner
                    · exact hcovers
                    · rw [howner, (h.covers d hd).1.ownerDeath] at hdeath
                      cases hdeath
                  | ok found =>
                    cases found with
                    | none =>
                      refine ⟨⟨hbase, fun d hd => ⟨(h.covers d hd).1, ?_⟩⟩, hgrows⟩
                      rcases howned d hd with hcovers | howner
                      · exact hcovers
                      · rw [howner, (h.covers d hd).1.ownerDeath] at hdeath
                        cases hdeath
                    | some death =>
                      obtain ⟨later, hcommit, hlater, hextends, hcommitted, hcovers⟩ :=
                        hbase.commitOwnerDeath (certified_of_ownerDeath hdeath).1
                      simp only [hcommit]
                      refine ⟨⟨hlater, fun d hd => ?_⟩,
                        hgrows.extends hextends hcommitted⟩
                      rw [hcommitted, List.mem_append, List.mem_singleton] at hd
                      rcases hd with hd | rfl
                      · refine ⟨(h.covers d hd).1, ?_⟩
                        rcases howned d hd with hold | howner
                        · exact hold.extends hextends
                        · rw [howner, (h.covers d hd).1.ownerDeath] at hdeath
                          cases hdeath
                          exact hcovers
                      · exact ⟨(certified_of_ownerDeath hdeath).1, hcovers⟩
                · rename_i hquiet
                  refine ⟨⟨hbase, fun d hd => ⟨(h.covers d hd).1, ?_⟩⟩, hgrows⟩
                  rcases hserved d hd with hcovers | ⟨_, s, hreply, hok, hstage, hs, _⟩
                  · exact hcovers
                  · cases hreply
                    exact absurd hs (hquiet s (by simp [hok, hstage]))

/-! ## Driver sections -/

variable {key : PublicationRef} {work : DeathCleanup}

theorem Inv.update (h : c.Inv workers) {work' : DeathCleanup}
    (hwork : c.deaths.get? key = some work) (hpublication : work'.publication = work.publication)
    (hdeath : work'.death = work.death) (hsound : work'.Sound) : Inv workers (c.update key work')
    := by
  have hget : ∀ k w, (c.update key work').deaths.get? k = some w →
      (key = k ∧ w = work') ∨ c.deaths.get? k = some w := by
    intro k w hw
    rw [EnhancedPublicationControl.update] at hw
    rcases Dict.of_get?_set hw with ⟨hkey, hw⟩ | hw
    · exact .inl ⟨hkey, hw.symm⟩
    · exact .inr hw
  refine ⟨⟨h.authority, ?_, ?_, ?_⟩, ?_⟩
  · intro k w hw
    rcases hget k w hw with ⟨rfl, rfl⟩ | hold
    · obtain ⟨hkey, s, hs, hsame, hfenced⟩ := h.filed key work hwork
      exact ⟨by rw [hpublication]; exact hkey, s, hs, by rw [hpublication]; exact hsame, hfenced⟩
    · exact ⟨(h.filed k w hold).key_eq, (h.filed k w hold).record⟩
  · intro k w hw
    rcases hget k w hw with ⟨rfl, rfl⟩ | hold
    · rw [hdeath]
      exact h.certified key work hwork
    · exact h.certified k w hold
  · intro k w hw
    rcases hget k w hw with ⟨rfl, rfl⟩ | hold
    · exact hsound
    · exact h.sound k w hold
  · intro death hd
    obtain ⟨hcertified, hcovers⟩ := h.covers death hd
    refine ⟨hcertified, fun k s hs howner => ?_⟩
    obtain ⟨hfenced, w, hw, hexact⟩ := hcovers k s hs howner
    refine ⟨hfenced, ?_⟩
    by_cases hkey : key = s.reference
    · obtain rfl : work = w := Option.some.inj (hwork.symm.trans (hkey ▸ hw))
      exact ⟨work', hkey ▸ Dict.get?_set_self _ _ _, hdeath.trans hexact⟩
    · exact ⟨w, (Dict.get?_set_of_ne _ _ hkey).trans hw, hexact⟩

theorem Inv.retired (h : c.Inv workers) (closed : ClosedContainedHolds) :
    Inv workers { c with authority := (c.authority.apply (.retireGraph closed)).2 } := by
  refine ⟨h.toBase.applied _, fun death hd => ⟨(h.covers death hd).1, fun key s' hs' howner => ?_⟩⟩
  rcases PublicationAuthority.apply_records h.authority (.retireGraph closed) hs' with
    ⟨s, hs, hpreserves⟩ | ⟨hcreates, _⟩
  · obtain ⟨hfenced, work, hwork, hexact⟩ :=
      (h.covers death hd).2 key s hs (by rw [← hpreserves.publication]; exact howner)
    refine ⟨fence_ne_none hpreserves hfenced, work, ?_, hexact⟩
    rw [reference_eq hpreserves]
    exact hwork
  · exact absurd rfl hcreates

theorem Inv.continues (h : c.Inv workers) {workers' : WorkerTable}
    (hnext : workers.Continues workers') : c.Inv workers' := by
  refine ⟨⟨h.authority, h.filed, fun key work hwork => ?_, h.sound⟩, fun death hd => ?_⟩
  · exact (h.certified key work hwork).continues hnext
  · exact ⟨(h.covers death hd).1.continues hnext, (h.covers death hd).2⟩

/-- The record of the duty is retired. -/
def Retired (c : EnhancedPublicationControl) (key : PublicationRef) : Prop :=
  ∃ s, c.authority.records.get? key.key = some s ∧ s.receipt .retired ≠ none

/-- How the last section of a round ends; it finishes the duty only behind both sweeps. -/
structure Settled (c : EnhancedPublicationControl) (fences : OwnerDeathFenceRegistry)
    (key : PublicationRef) (work : DeathCleanup) (after : EnhancedPublicationControl) : Prop where
  inv : ∀ workers, c.Inv workers → after.Inv workers
  records : ∀ k s, c.authority.records.get? k = some s →
    ∃ s', after.authority.records.get? k = some s' ∧ Preserves s s'
  deaths : ∃ finished, after.deaths =
      c.deaths.set key { work with phase := none, finished := finished } ∧
    (finished = work.finished ∨ fences.pendingForOwner work.death.workerId = [] ∧
      after.Retired key)
  committed : after.committed = c.committed

theorem settled_idle (hbase : c.Inv workers) (hwork : c.deaths.get? key = some work)
    (fences : OwnerDeathFenceRegistry) {authority : PublicationAuthority}
    (hauthority : authority = c.authority ∨ ∃ closed, authority =
      (c.authority.apply (.retireGraph closed)).2)
    (finished : Bool)
    (hfinished : finished = work.finished ∨ fences.pendingForOwner work.death.workerId = [] ∧
      ∃ s, authority.records.get? key.key = some s ∧ s.receipt .retired ≠ none) :
    c.Settled fences key work { c with
      authority := authority
      deaths := c.deaths.set key { work with phase := none, finished := finished } } := by
  have hsound : ({ work with phase := none, finished := finished } : DeathCleanup).Sound :=
    (hbase.sound key work hwork).moved rfl rfl rfl (hbase.sound key work hwork).holds
      fun _ hp => by cases hp
  refine ⟨fun workers' h => ?_, fun k s hs => ?_, ⟨finished, rfl, hfinished⟩, rfl⟩
  · rcases hauthority with rfl | ⟨closed, rfl⟩
    · exact h.update hwork rfl rfl hsound
    · exact (h.retired closed).update hwork rfl rfl hsound
  · rcases hauthority with rfl | ⟨closed, rfl⟩
    · exact ⟨s, hs, .refl s⟩
    · exact PublicationAuthority.apply_history hbase.authority _ hs

theorem settle_spec (h : c.Inv workers) (hwork : c.deaths.get? key = some work)
    (fences : OwnerDeathFenceRegistry) : c.Settled fences key work (c.settle fences key work) := by
  obtain ⟨hkey, record, hrecord, hsame, hfenced⟩ := h.filed key work hwork
  have href : record.reference = key := by
    rw [PublicationSnapshot.reference, hsame, hkey]
  have hidle := settled_idle h hwork fences (.inl rfl) work.finished (.inl rfl)
  have hquery := PublicationAuthority.apply_query h.authority
    (PublicationAuthority.get?_of_reference h.authority hrecord)
  rw [hsame] at hquery
  unfold EnhancedPublicationControl.settle
  rw [hquery]
  dsimp only [PublicationReply.accept]
  split
  · rename_i hretired
    split
    · exact hidle
    · rename_i hswept
      rw [EnhancedPublicationControl.update, EnhancedPublicationControl.update, Dict.set_set]
      exact settled_idle h hwork fences (.inl rfl) true
        (.inr ⟨not_not.mp hswept, record, hrecord, Option.isSome_iff_ne_none.mp hretired⟩)
  · split
    · exact hidle
    · rename_i closed hclosed
      cases hresult : c.authority.apply (.retireGraph closed) with
      | mk result next =>
        have hnext : next = (c.authority.apply (.retireGraph closed)).2 := by rw [hresult]
        have hrefused := settled_idle h hwork fences (.inr ⟨closed, hnext⟩)
          work.finished (.inl rfl)
        cases result with
        | error failure => exact hrefused
        | ok reply =>
          dsimp only
          split
          · rename_i haccepted
            split
            · exact hrefused
            · rename_i hswept
              rw [EnhancedPublicationControl.update, EnhancedPublicationControl.update,
                Dict.set_set]
              refine settled_idle h hwork fences (.inr ⟨closed, hnext⟩) true
                (.inr ⟨not_not.mp hswept, ?_⟩)
              obtain ⟨s, receipt, hs, hreceipt⟩ := PublicationAuthority.retired_of_accepted
                h.authority (by rw [hresult]) haccepted
              have hreference := (h.sound key work hwork).holds closed hclosed
              rw [hreference, hkey, ← hnext] at hs
              exact ⟨s, hs, by simp [hreceipt]⟩
          · exact hrefused

end EnhancedPublicationControl

end MiniRay
