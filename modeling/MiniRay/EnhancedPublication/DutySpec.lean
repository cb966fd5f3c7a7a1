import MiniRay.EnhancedPublication.DutyRuns

/-! The adapter serves requests, commits deaths and drives duties while membership goes on. -/

namespace MiniRay

open Checked PublicationSnapshot Run

structure PublicationHost where
  control : EnhancedPublicationControl := {}
  nodes : NodeRegistry := {}
  workers : WorkerTable := .empty
  fences : OwnerDeathFenceRegistry := .empty

inductive HostAction
  | handle (request : PublicationRequest)
  | commitOwnerDeath (death : WorkerDeathRecord)
  | closeAdmission
  | driveOne
  /-- The next locked section of a driver, and what its call brings. -/
  | advance (key : PublicationRef)
  | deliver (key : PublicationRef) (reply : EnhancedPublicationControl.DriveReply)
  /-- Membership goes on: any Nodes, any sweeps, but no dead Worker changes. -/
  | nodes (nodes : NodeRegistry)
  | workers (workers : WorkerTable)
  | fences (fences : OwnerDeathFenceRegistry)

namespace PublicationHost

def step (s : PublicationHost) : HostAction → PublicationHost
  | .handle request => { s with control := (s.control.handle s.nodes s.workers request).2 }
  | .commitOwnerDeath death => { s with control := (s.control.commitOwnerDeath s.workers death).2 }
  | .closeAdmission => { s with control := s.control.closeAdmission }
  | .driveOne => { s with control := s.control.driveOne }
  | .advance key => { s with control := s.control.advance s.nodes s.workers s.fences key }
  | .deliver key reply => { s with control := s.control.deliver s.workers key reply }
  | .nodes nodes => { s with nodes := nodes }
  | .workers workers => if s.workers.Continues workers then { s with workers := workers } else s
  | .fences fences => { s with fences := fences }

open EnhancedPublicationControl DeathCleanup
open PublicationAuthority (Preserves)

variable {s : PublicationHost}

structure Inv (s : PublicationHost) : Prop where
  control : s.control.Inv s.workers
  keyed : ∀ item ∈ s.workers.items, item.2.incarnation.workerId = item.1

theorem inv_new : Inv {} where
  control := EnhancedPublicationControl.inv_new _
  keyed _ h := by cases h

/-- The section finishes the duty: its record is retired and no owner fence is pending. -/
def Finishes (s : PublicationHost) (action : HostAction) (key : PublicationRef)
    (work : DeathCleanup) : Prop :=
  action = .advance key ∧ work.phase = some .settling ∧
    s.fences.pendingForOwner work.death.workerId = [] ∧ (s.step action).control.Retired key

/-- What one step leaves of a duty. -/
structure Kept (s : PublicationHost) (action : HostAction) (key : PublicationRef)
    (work work' : DeathCleanup) : Prop where
  publication : work'.publication = work.publication
  death : work'.death = work.death
  finished : work'.finished = work.finished ∨ s.Finishes action key work
  closed : work.PastNode → ∀ holds, work.closedHolds = some holds →
    work'.PastNode ∧ work'.closedHolds = some holds

theorem Kept.refl (s : PublicationHost) (action : HostAction) (key : PublicationRef)
    (work : DeathCleanup) : s.Kept action key work work :=
  ⟨rfl, rfl, .inl rfl, fun hpast _ hclosed => ⟨hpast, hclosed⟩⟩

variable {action : HostAction} {key : PublicationRef} {work : DeathCleanup}

variable {work' : DeathCleanup}

theorem Kept.of_moves (h : Moves work work') : s.Kept action key work work' :=
  ⟨h.publication, h.death, .inl h.finished, h.closed⟩

structure Goes (s : PublicationHost) (action : HostAction) (after : EnhancedPublicationControl) :
    Prop where
  inv : after.Inv s.workers
  records : ∀ key r, s.control.authority.records.get? key = some r →
    ∃ r', after.authority.records.get? key = some r' ∧ Preserves r r'
  duties : ∀ key work, s.control.deaths.get? key = some work →
    ∃ work', after.deaths.get? key = some work' ∧ s.Kept action key work work'
  committed : ∀ death ∈ s.control.committed, death ∈ after.committed

theorem Goes.of_grows {after : EnhancedPublicationControl}
    (h : after.Inv s.workers ∧ s.control.Grows after) : s.Goes action after :=
  ⟨h.1, h.2.records,
    fun key work hwork => ⟨work, h.2.duties key work hwork, .refl s action key work⟩,
    h.2.committed⟩

theorem Goes.of_moves (h : s.Inv) (hwork : s.control.deaths.get? key = some work)
    (hmoves : Moves work work') : s.Goes action (s.control.update key work') := by
  refine ⟨h.control.update hwork hmoves.publication hmoves.death hmoves.sound,
    fun _ r hr => ⟨r, hr, .refl r⟩, fun k w hw => ?_, fun _ hd => hd⟩
  by_cases hkey : key = k
  · obtain rfl : work = w := Option.some.inj (hwork.symm.trans (hkey ▸ hw))
    exact ⟨work', hkey ▸ Dict.get?_set_self _ _ _, .of_moves hmoves⟩
  · exact ⟨w, (Dict.get?_set_of_ne _ _ hkey).trans hw, .refl s action k w⟩

theorem Goes.idle (h : s.Inv) (action : HostAction) : s.Goes action s.control :=
  .of_grows ⟨h.control, .refl s.control⟩

theorem goes_advance (h : s.Inv) (key : PublicationRef) :
    s.Goes (.advance key) (s.control.advance s.nodes s.workers s.fences key) := by
  unfold EnhancedPublicationControl.advance
  cases hwork : s.control.deaths.get? key with
  | none => exact .idle h _
  | some work =>
    have hsound := h.control.sound key work hwork
    dsimp only
    split
    · exact .of_moves h hwork (inspect_moves hsound s.nodes ‹_›)
    · exact .of_moves h hwork (choose_moves hsound h.keyed ‹_›)
    · exact .of_moves h hwork (assemble_moves hsound ‹_›)
    · rename_i hphase
      have hsettled := settle_spec h.control hwork s.fences
      have hafter : (s.step (.advance key)).control = s.control.settle s.fences key work := by
        simp [step, EnhancedPublicationControl.advance, hwork, hphase]
      obtain ⟨finished, hdeaths, hfinished⟩ := hsettled.deaths
      refine ⟨hsettled.inv _ h.control, hsettled.records, fun k w hw => ?_, fun d hd => ?_⟩
      · rw [hdeaths]
        by_cases hkey : key = k
        · subst hkey
          obtain rfl : work = w := Option.some.inj (hwork.symm.trans hw)
          refine ⟨_, Dict.get?_set_self _ _ _, rfl, rfl, ?_, fun hpast _ hc => ⟨hpast, hc⟩⟩
          rcases hfinished with hsame | ⟨hswept, hretired⟩
          · exact .inl hsame
          · exact .inr ⟨rfl, hphase, hswept, by rw [hafter]; exact hretired⟩
        · exact ⟨w, (Dict.get?_set_of_ne _ _ hkey).trans hw, .refl s _ k w⟩
      · rw [hsettled.committed]
        exact hd
    · exact .idle h _

theorem goes (h : s.Inv) (action : HostAction) : s.Goes action (s.step action).control := by
  cases action with
  | handle request => exact .of_grows (h.control.handle s.nodes request)
  | commitOwnerDeath death => exact .of_grows (h.control.commitOwnerDeath death)
  | closeAdmission =>
    refine .of_grows ⟨⟨⟨h.control.authority, fun key work hwork => ?_, h.control.certified,
      h.control.sound⟩, h.control.covers⟩, ⟨fun _ r hr => ⟨r, hr, .refl r⟩, fun _ _ hw => hw,
      fun _ hd => hd⟩⟩
    exact ⟨(h.control.filed key work hwork).key_eq, (h.control.filed key work hwork).record⟩
  | driveOne =>
    simp only [step, EnhancedPublicationControl.driveOne]
    split
    · exact .idle h _
    · rename_i key work hpick
      have hmem := (List.mem_filter.mp (List.mem_of_getElem? hpick)).1
      have hwork := Dict.get?_eq_some_iff.mpr hmem
      have hgoes : s.Goes .driveOne _ := Goes.of_moves h hwork
        ((h.control.sound key work hwork).enters _ (inPhase_firstPhase work))
      refine ⟨⟨⟨hgoes.inv.authority, fun k w hw => ?_, hgoes.inv.certified, hgoes.inv.sound⟩,
        hgoes.inv.covers⟩, hgoes.records, hgoes.duties, hgoes.committed⟩
      exact ⟨(hgoes.inv.filed k w hw).key_eq, (hgoes.inv.filed k w hw).record⟩
  | advance key => exact goes_advance h key
  | deliver key reply =>
    simp only [step, EnhancedPublicationControl.deliver]
    cases hwork : s.control.deaths.get? key with
    | none => exact .idle h _
    | some work =>
      exact .of_moves h hwork (receive_moves (h.control.sound key work hwork) reply)
  | nodes nodes => exact .idle h _
  | workers workers =>
    simp only [step]
    split
    · exact .idle h _
    · exact .idle h _
  | fences fences => exact .idle h _

theorem Inv.step (h : s.Inv) (action : HostAction) : (s.step action).Inv := by
  have hgoes := goes h action
  cases action with
  | workers workers =>
    simp only [PublicationHost.step] at hgoes ⊢
    split
    · rename_i hnext
      exact ⟨h.control.continues hnext, hnext.keyed⟩
    · exact h
  | _ => exact ⟨hgoes.inv, h.keyed⟩

theorem Inv.run (h : s.Inv) (actions : List HostAction) :
    (run PublicationHost.step s actions).Inv :=
  run_invariant (p := PublicationHost.Inv) (fun _ action hs => hs.step action) h actions

/-- A duty keeps its publication, its death and its closed holds through every run. -/
theorem duty_run (h : s.Inv) (actions : List HostAction)
    (hwork : s.control.deaths.get? key = some work) :
    ∃ work', (Run.run step s actions).control.deaths.get? key = some work' ∧
      work'.publication = work.publication ∧ work'.death = work.death ∧
      (work.PastNode → ∀ holds, work.closedHolds = some holds →
        work'.PastNode ∧ work'.closedHolds = some holds) := by
  induction actions generalizing s work with
  | nil => exact ⟨work, hwork, rfl, rfl, fun hpast _ hclosed => ⟨hpast, hclosed⟩⟩
  | cons action rest ih =>
    obtain ⟨mid, hmid, hkept⟩ := (goes h action).duties key work hwork
    obtain ⟨work', hwork', hpublication, hdeath, hclosed⟩ := ih (h.step action) hmid
    refine ⟨work', hwork', hpublication.trans hkept.publication, hdeath.trans hkept.death, ?_⟩
    intro hpast holds hholds
    obtain ⟨hpast', hholds'⟩ := hkept.closed hpast holds hholds
    exact hclosed hpast' holds hholds'

end PublicationHost

open EnhancedPublicationControl PublicationHost in
/-- Along every run over a membership that lets no dead Worker change: a committed owner death
fences every record of the owner, present or later, and files exactly one duty with that death;
no step takes a duty away or rebinds it, and only a driver's last section finishes it, behind a
retired record and a complete sweep; what the driver closes itself the authority retires. -/
structure DutySpec : Prop where
  commits : ∀ actions death,
    ((run step {} actions).control.commitOwnerDeath
        (run step {} actions).workers death).1 = .ok () →
      death ∈ (run step {} (actions ++ [.commitOwnerDeath death])).control.committed
  remembered : ∀ actions later death, death ∈ (run step {} actions).control.committed →
    death ∈ (run step {} (actions ++ later)).control.committed
  covered : ∀ actions death, death ∈ (run step {} actions).control.committed → ∀ key record,
    (run step {} actions).control.authority.records.get? key = some record →
    record.publication.ownerWorkerId = death.workerId → record.fence ≠ none ∧
      ∃ work, (run step {} actions).control.deaths.get? record.reference = some work ∧
        work.death = death ∧ work.publication = record.publication ∧
        ∀ other work', (run step {} actions).control.deaths.get? other = some work' →
          work'.publication.reference.key = key → other = record.reference
  kept : ∀ actions action key work, (run step {} actions).control.deaths.get? key = some work →
    ∃ work', (run step {} (actions ++ [action])).control.deaths.get? key = some work' ∧
      work'.publication = work.publication ∧ work'.death = work.death ∧
      (work'.finished = work.finished ∨ (run step {} actions).Finishes action key work)
  retires : ∀ actions later key work,
    (run step {} actions).control.deaths.get? key = some work → work.phase = some .assembling →
    (∀ request ∈ work.publication.releaseRequests, work.resolves request = true) →
    ∃ closed work' record,
      (run step {} (actions ++ .advance key :: later)).control.deaths.get? key = some work' ∧
      work'.closedHolds = some closed ∧
      (run step {} (actions ++ .advance key :: later)).control.authority.records.get? key.key =
        some record ∧
      (record.receipt .retired = none → ∃ reply, ((run step {} (actions ++
        .advance key :: later)).control.authority.apply (.retireGraph closed)).1 = .ok reply ∧
          reply.accepted = true)

open EnhancedPublicationControl PublicationHost in
theorem dutySpec : DutySpec := by
  have hinv : ∀ actions, (run step {} actions).Inv := fun actions => inv_new.run actions
  refine ⟨?_, ?_, ?_, ?_, ?_⟩
  · intro actions death hok
    rw [run_concat]
    simp only [PublicationHost.step]
    rcases commitOwnerDeath_cases (hinv actions).control.toBase death with
      ⟨after, hcommit, _, _, _, hcommitted, _⟩ | ⟨raised, hcommit⟩
    · rw [hcommit, hcommitted]
      exact List.mem_append_right _ (List.mem_singleton_self _)
    · rw [hcommit] at hok
      cases hok
  · intro actions later death hdeath
    rw [run_append]
    have hstep : ∀ (s : PublicationHost) action, s.Inv ∧ death ∈ s.control.committed →
        (s.step action).Inv ∧ death ∈ (s.step action).control.committed := by
      intro s action h
      exact ⟨h.1.step action, (goes h.1 action).committed death h.2⟩
    exact (run_invariant (p := fun s : PublicationHost => s.Inv ∧ death ∈ s.control.committed) hstep
      ⟨hinv actions, hdeath⟩ later).2
  · intro actions death hdeath key record hrecord howner
    have h := (hinv actions).control
    obtain ⟨hfenced, work, hwork, hexact⟩ := (h.covers death hdeath).2 key record hrecord howner
    have hkey := h.authority.keys key record hrecord
    have hrecordOf : ∀ other work',
        (run step {} actions).control.deaths.get? other = some work' → other.key = key →
          work'.publication = record.publication ∧ other = record.reference := by
      intro other work' hwork' hother
      obtain ⟨hfiled, r, hr, hsame, _⟩ := h.filed other work' hwork'
      obtain rfl : record = r := Option.some.inj (hrecord.symm.trans (hother ▸ hr))
      exact ⟨hsame.symm, by rw [← hfiled, ← hsame]; rfl⟩
    refine ⟨hfenced, work, hwork, hexact, (hrecordOf _ work hwork hkey).1, ?_⟩
    intro other work' hwork' hother
    rw [(h.filed other work' hwork').key_eq] at hother
    exact (hrecordOf other work' hwork' hother).2
  · intro actions action key work hwork
    rw [run_concat]
    obtain ⟨work', hwork', hkept⟩ := (goes (hinv actions) action).duties key work hwork
    exact ⟨work', hwork', hkept.publication, hkept.death, hkept.finished⟩
  · intro actions later key work hwork hphase hall
    have h := hinv actions
    have hsound := h.control.sound key work hwork
    obtain ⟨closed, hclosed, hcloses⟩ := assemble_closes hsound hall
    have hmoves := assemble_moves hsound hphase
    have hpast : (assemble work).PastNode := by
      have hwas : work.PastNode := (hsound.phased _ hphase).1
      unfold assemble
      split
      · exact hwas
      · split
        · exact hwas
        · exact hwas
    have hnext : (step (run step {} actions) (.advance key)).control.deaths.get? key =
        some (assemble work) := by
      simp only [PublicationHost.step, EnhancedPublicationControl.advance, hwork, hphase]
      exact Dict.get?_set_self _ _ _
    obtain ⟨work', hwork', hpublication, _, hkept⟩ :=
      duty_run (h.step (.advance key)) later hnext
    rw [run_append, run_cons]
    have hfinal := (h.step (.advance key)).run later
    obtain ⟨hkey, record, hrecord, hsame, hfenced⟩ := hfinal.control.filed key work' hwork'
    refine ⟨closed, work', record, hwork', (hkept hpast closed hclosed).2, hrecord, ?_⟩
    intro hopen
    have hwork : record.publication = work.publication :=
      hsame.trans (hpublication.trans hmoves.publication)
    refine PublicationAuthority.apply_retire hfinal.control.authority
      (PublicationAuthority.get?_of_reference hfinal.control.authority hrecord) hfenced hopen ?_
      (hsound.validateClosed hcloses hall hwork)
    rw [hcloses.reference, PublicationSnapshot.reference, hwork]

end MiniRay
