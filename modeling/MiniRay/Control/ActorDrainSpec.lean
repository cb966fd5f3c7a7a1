import MiniRay.Control.ActorDrain
import MiniRay.Control.ActorSettling

/-! # What an empty drain round means -/

namespace MiniRay

open Run

namespace ActorRegistry

theorem inactive_of_activeActorIds {actors : ActorRegistry} (h : actors.activeActorIds = [])
    {a : ActorID} {r : ActorRecord} (hr : actors.actors.get? a = some r) :
    r.state ≠ .creating ∧ r.state ≠ .restarting := by
  have hnone : a ∉ actors.activeActorIds := by simp [h]
  have hkey : a ∈ actors.actors.keys := Dict.mem_keys_iff.mpr ⟨r, hr⟩
  simpa [activeActorIds, hkey, hr] using hnone

end ActorRegistry

def DrainCall.Drains : DrainCall → Prop
  | .flushing _ draining => draining = true
  | _ => True

namespace ActorDrain

open ActorCoordinator (errandKind)

variable {d : ActorDrain}

theorem activeOperationIds_eq_nil {active : List ActorID}
    {publications : Dict ActorID ActorSnapshot} (h : activeOperationIds active publications = []) :
    active = [] ∧ publications = .empty := by
  have hnone : ∀ a, a ∉ active ++ publications.keys := by
    intro a ha
    have hmem : a ∈ activeOperationIds active publications := by
      simpa [activeOperationIds] using ha
    rw [h] at hmem
    cases hmem
  constructor
  · exact List.eq_nil_iff_forall_not_mem.mpr fun a ha => hnone a (List.mem_append_left _ ha)
  · apply Dict.eq_empty
    apply Dict.items_eq_nil_iff.mpr
    intro a
    by_contra hget
    obtain ⟨snapshot, hsnapshot⟩ := Option.ne_none_iff_exists'.mp hget
    exact hnone a (List.mem_append_right _ (Dict.mem_keys_iff.mpr ⟨snapshot, hsnapshot⟩))

/-- Some drain has found no active Actor, and returned that or is about to. -/
def Found (d : ActorDrain) : Prop :=
  [] ∈ d.returns ∨ ∃ tid, d.calls.get? tid = some (.read [])

/-- An exit report starts a restart with a permission read before a drain found nothing. -/
def Outruns (d : ActorDrain) (action : DrainAction) : Prop :=
  d.Found ∧ ∃ act exit node r, action = .act act ∧ d.acts act = true ∧
    d.coordinator.Permitted act exit node ∧ d.coordinator.actors.Restarts exit node r

structure Inv (d : ActorDrain) : Prop where
  coordinator : d.coordinator.Inv
  draining : ∀ tid thread, d.coordinator.threads.get? tid = some thread →
    errandKind thread.errand = .draining → d.coordinator.admissionOpen = false
  closed : ∀ tid call, d.calls.get? tid = some call → call.Drains →
    d.coordinator.admissionOpen = false
  returned : d.returns ≠ [] → d.coordinator.admissionOpen = false

theorem inv_new : Inv {} where
  coordinator := ActorCoordinator.inv_new
  draining _ _ h := by simp at h
  closed _ _ h := by simp at h
  returned h := absurd rfl h

theorem Inv.coordinated (h : d.Inv) {c : ActorCoordinator} (hinv : c.Inv)
    (hclosed : d.coordinator.admissionOpen = false → c.admissionOpen = false)
    (hdraining : ∀ tid thread, c.threads.get? tid = some thread →
      errandKind thread.errand = .draining → c.admissionOpen = false) :
    ({ d with coordinator := c } : ActorDrain).Inv where
  coordinator := hinv
  draining := hdraining
  closed tid call hcall hdrains := hclosed (h.closed tid call hcall hdrains)
  returned hreturns := hclosed (h.returned hreturns)

theorem Inv.called (h : d.Inv) {calls : Dict Nat DrainCall} {returns : List (List ActorID)}
    (hclosed : ∀ tid call, calls.get? tid = some call → call.Drains →
      d.coordinator.admissionOpen = false)
    (hreturned : returns ≠ [] → d.coordinator.admissionOpen = false) :
    ({ d with calls := calls, returns := returns } : ActorDrain).Inv where
  coordinator := h.coordinator
  draining := h.draining
  closed := hclosed
  returned := hreturned

variable {tid : Nat}

theorem Inv.set (h : d.Inv) {call : DrainCall}
    (hcall : call.Drains → d.coordinator.admissionOpen = false) (x : Nat) (other : DrainCall)
    (hget : (d.calls.set tid call).get? x = some other) (hdrains : other.Drains) :
    d.coordinator.admissionOpen = false := by
  rcases Dict.of_get?_set hget with ⟨_, rfl⟩ | hget
  · exact hcall hdrains
  · exact h.closed x other hget hdrains

theorem Inv.erase (h : d.Inv) (x : Nat) (other : DrainCall)
    (hget : (d.calls.erase tid).get? x = some other) (hdrains : other.Drains) :
    d.coordinator.admissionOpen = false := by
  exact h.closed x other (Dict.of_get?_erase hget).2 hdrains

theorem Inv.closeAdmission (h : d.Inv) : d.closeAdmission.Inv :=
  h.coordinated ⟨h.coordinator.nodes, h.coordinator.records, h.coordinator.held,
    h.coordinator.exclusive⟩ (fun _ => rfl) fun _ _ _ _ => rfl

theorem Inv.resume (h : d.Inv) (tid : Nat) (errand : ActorErrand)
    (hdraining : errandKind errand = .draining → d.coordinator.admissionOpen = false) :
    ({ d with coordinator := d.coordinator.resume tid ⟨none, errand⟩ } : ActorDrain).Inv := by
  apply h.coordinated
  · exact h.coordinator.idle h.coordinator.nodes rfl rfl rfl
  · intro hclosed
    rw [ActorCoordinator.resume_admissionOpen, hclosed]
  · intro x thread hthread hkind
    rw [ActorCoordinator.resume_admissionOpen]
    by_cases hx : tid = x
    · subst hx
      obtain rfl := ActorCoordinator.resume_threads_self _ hthread
      exact hdraining hkind
    · rw [ActorCoordinator.resume_threads_of_ne _ _ hx] at hthread
      exact h.draining x thread hthread hkind

theorem acknowledge_eq (d : ActorDrain) (actorId : ActorID) (snapshot : ActorSnapshot) :
    ∃ publications, d.acknowledge actorId snapshot =
      { d.coordinator with nodeFailurePublications := publications } := by
  unfold acknowledge
  split
  · exact ⟨_, rfl⟩
  · exact ⟨d.coordinator.nodeFailurePublications, rfl⟩

theorem Inv.publications (h : d.Inv) (publications : Dict ActorID ActorSnapshot) :
    ({ d with coordinator := { d.coordinator with nodeFailurePublications := publications } } :
      ActorDrain).Inv :=
  h.coordinated ⟨h.coordinator.nodes, h.coordinator.records, h.coordinator.held,
    h.coordinator.exclusive⟩ id h.draining

variable {thread : ActorThread}

theorem flushes_draining (h : thread.flushes = some true) :
    errandKind thread.errand = .draining := by
  obtain ⟨task, errand⟩ := thread
  unfold ActorThread.flushes at h
  split at h
  · rename_i hthread
    cases hthread
    rfl
  · cases h
  · cases h

theorem Inv.beginFlush (h : d.Inv) (tid : Nat) : (d.beginFlush tid).Inv := by
  unfold ActorDrain.beginFlush
  split
  · exact h
  · rename_i draining hflushes
    obtain ⟨thread, hthread, hkind⟩ := Option.bind_eq_some_iff.mp hflushes
    have hcall : draining = true → d.coordinator.admissionOpen = false := by
      intro hdraining
      subst hdraining
      exact h.draining tid thread hthread (flushes_draining hkind)
    have hresumed := h.resume tid .none fun hnone => by cases hnone
    refine hresumed.called (hresumed.set fun hdrains => ?_) hresumed.returned
    rw [ActorCoordinator.resume_admissionOpen]
    exact hcall hdrains

theorem Inv.proceed (h : d.Inv) (tid : Nat) (installed : Bool) : (d.proceed tid installed).Inv := by
  unfold ActorDrain.proceed
  split
  · exact h.beginFlush tid
  · rename_i hcall
    have hclosed := h.closed tid _ hcall trivial
    have hresumed := h.resume tid (.draining d.coordinator.actors.activeActorIds) fun _ => hclosed
    exact hresumed.called hresumed.erase hresumed.returned
  · rename_i actorId snapshot later draining hcall
    have hdrains := h.closed tid _ hcall
    by_cases hinstalled : installed = true
    · obtain ⟨publications, hacknowledged⟩ := acknowledge_eq d actorId snapshot
      rw [if_pos hinstalled, hacknowledged]
      have hpublished := h.publications publications
      exact hpublished.called (hpublished.set hdrains) hpublished.returned
    · rw [if_neg hinstalled]
      exact h.called (h.set hdrains) h.returned
  · rename_i draining hcall
    refine h.called ?_ h.returned
    by_cases hdraining : draining = true
    · rw [if_pos hdraining]
      exact h.set fun _ => h.closed tid _ hcall hdraining
    · rw [if_neg hdraining]
      exact h.erase
  · rename_i hcall
    exact h.called (h.set fun _ => h.closed tid _ hcall trivial) h.returned
  · rename_i active hcall
    exact h.called h.erase fun _ => h.closed tid _ hcall trivial

theorem Inv.after (h : d.Inv) (action : DrainAction) : (d.step action).Inv := by
  cases action with
  | act action =>
    simp only [step]
    split
    · rename_i hacts
      refine h.coordinated (ActorCoordinator.step_spec h.coordinator action).inv
        (ActorCoordinator.step_admissionOpen _ _) ?_
      intro tid thread hthread hkind
      apply ActorCoordinator.step_admissionOpen
      have horigin := ActorCoordinator.step_origin d.coordinator action hthread
      revert hkind
      generalize errandKind thread.errand = kind at horigin
      intro hkind
      cases horigin with
      | none => cases hkind
      | kept old => exact h.draining tid _ old hkind
      | drained drains =>
        subst drains
        cases hacts
      | failed dies => cases hkind
    · exact h
  | closeAdmission => exact h.closeAdmission
  | drainOnce tid =>
    simp only [step]
    split
    · exact h
    · have hclosed := h.closeAdmission
      exact hclosed.called (hclosed.set fun _ => rfl) hclosed.returned
  | proceed tid installed => exact h.proceed tid installed

/-! ## After an empty round -/

theorem Found.set {call : DrainCall} (hcall : call ≠ .read [])
    (h : Found { d with calls := d.calls.set tid call }) : d.Found := by
  rcases h with hreturned | ⟨x, hx⟩
  · exact .inl hreturned
  · rcases Dict.of_get?_set hx with ⟨_, hx⟩ | hx
    · exact absurd hx hcall
    · exact .inr ⟨x, hx⟩

theorem Found.erase (h : Found { d with calls := d.calls.erase tid }) : d.Found := by
  rcases h with hreturned | ⟨x, hx⟩
  · exact .inl hreturned
  · exact .inr ⟨x, (Dict.of_get?_erase hx).2⟩

def FoundInv (d : ActorDrain) : Prop := d.Found → d.coordinator.Settled

theorem FoundInv.kept {d' : ActorDrain} (h : d.FoundInv) (hfound : d'.Found → d.Found)
    (hactors : d'.coordinator.actors = d.coordinator.actors)
    (hclosed : d.coordinator.admissionOpen = false → d'.coordinator.admissionOpen = false) :
    d'.FoundInv := by
  intro hfound'
  have hsettled := h (hfound hfound')
  refine hsettled.of (hclosed hsettled.closed) ?_
  rw [hactors]
  exact .rfl

theorem FoundInv.proceed (h : d.FoundInv) (hinv : d.Inv) (tid : Nat) (installed : Bool) :
    (d.proceed tid installed).FoundInv := by
  unfold ActorDrain.proceed
  split
  · unfold ActorDrain.beginFlush
    split
    · exact h
    · refine h.kept ?_ ?_ ?_
      · exact Found.set (d := { d with coordinator := d.coordinator.resume tid {} }) (by simp)
      · exact ActorCoordinator.resume_actors _ _ _
      · exact fun hclosed => (ActorCoordinator.resume_admissionOpen _ _ _).trans hclosed
  · refine h.kept ?_ ?_ ?_
    · let active := d.coordinator.actors.activeActorIds
      exact Found.erase (d := { d with
        coordinator := d.coordinator.resume tid ⟨none, .draining active⟩ })
    · exact ActorCoordinator.resume_actors _ _ _
    · exact fun hclosed => (ActorCoordinator.resume_admissionOpen _ _ _).trans hclosed
  · rename_i actorId snapshot later draining hcall
    obtain ⟨publications, hacknowledged⟩ := acknowledge_eq d actorId snapshot
    rw [hacknowledged]
    have hfound : ∀ c : ActorCoordinator, Found { d with
        coordinator := c, calls := d.calls.set tid (.flushing later draining) } → d.Found :=
      fun c => Found.set (d := { d with coordinator := c }) (by simp)
    refine h.kept (hfound _) ?_ ?_
    · dsimp only
      split <;> rfl
    · intro hclosed
      dsimp only
      split <;> exact hclosed
  · refine h.kept ?_ rfl id
    split
    · exact Found.set (by simp)
    · exact Found.erase
  · rename_i hcall
    intro hfound
    by_cases hactive : d.coordinator.actors.activeActorIds = []
    · exact ⟨hinv.closed tid _ hcall trivial, fun a r hr =>
        ActorRegistry.inactive_of_activeActorIds hactive hr⟩
    · exact h (Found.set (by simpa using hactive) hfound)
  · rename_i active hcall
    intro hfound
    apply h
    rcases hfound with hreturned | hreading
    · rcases List.mem_cons.mp hreturned with hempty | hold
      · have hactive := (activeOperationIds_eq_nil hempty.symm).1
        subst hactive
        exact .inr ⟨tid, hcall⟩
      · exact .inl hold
    · exact Found.erase (.inr hreading)

variable {action : DrainAction}

theorem FoundInv.after (h : d.FoundInv) (hinv : d.Inv) (hkept : ¬ d.Outruns action) :
    (d.step action).FoundInv := by
  cases action with
  | act action =>
    simp only [step]
    split
    · rename_i hacts
      intro hfound
      refine (h hfound).step hinv.coordinator action fun exit node hpermitted r hrestarts => ?_
      exact hkept ⟨hfound, action, exit, node, r, rfl, hacts, hpermitted, hrestarts⟩
    · exact h
  | closeAdmission => exact h.kept id rfl fun _ => rfl
  | drainOnce tid =>
    simp only [step]
    split
    · exact h
    · exact h.kept (Found.set (d := d.closeAdmission) (by simp)) rfl fun _ => rfl
  | proceed tid installed => exact h.proceed hinv tid installed

/-! ## Queued installs -/

/-- A visit of a failed Node queues the Actor's owner install. -/
def Visits (d : ActorDrain) (action : DrainAction) (a : ActorID) : Prop :=
  ∃ act nodeId, action = .act act ∧ d.acts act = true ∧ d.coordinator.Visits act a nodeId

/-- The failure of a Node is reported. -/
def Fails (d : ActorDrain) (action : DrainAction) : Prop :=
  ∃ act, action = .act act ∧ d.acts act = true ∧ ActorCoordinator.Deadly act

/-- The thread applies the failure of a Node. -/
def Failing (d : ActorDrain) (tid : Nat) : Prop :=
  ∃ thread, d.coordinator.threads.get? tid = some thread ∧ errandKind thread.errand = .failing

variable {x : Nat}

theorem resume_failing {errand : ActorErrand} (hnew : errandKind errand ≠ .failing)
    (h : (d.coordinator.resume tid ⟨none, errand⟩).threads.get? x = some thread)
    (hkind : errandKind thread.errand = .failing) : d.Failing x := by
  by_cases hx : tid = x
  · subst hx
    obtain rfl := ActorCoordinator.resume_threads_self _ h
    exact absurd hkind hnew
  · rw [ActorCoordinator.resume_threads_of_ne _ _ hx] at h
    exact ⟨thread, h, hkind⟩

theorem proceed_failing {installed : Bool} (h : (d.proceed tid installed).Failing x) :
    d.Failing x := by
  obtain ⟨thread, hthread, hkind⟩ := h
  unfold ActorDrain.proceed at hthread
  split at hthread
  · unfold ActorDrain.beginFlush at hthread
    split at hthread
    · exact ⟨thread, hthread, hkind⟩
    · exact resume_failing (by decide) hthread hkind
  · exact resume_failing (by simp [errandKind]) hthread hkind
  · rename_i actorId snapshot later draining hcall
    obtain ⟨publications, hacknowledged⟩ := acknowledge_eq d actorId snapshot
    rw [hacknowledged] at hthread
    dsimp only at hthread
    split at hthread <;> exact ⟨thread, hthread, hkind⟩
  · exact ⟨thread, hthread, hkind⟩
  · exact ⟨thread, hthread, hkind⟩
  · exact ⟨thread, hthread, hkind⟩

theorem step_failing (h : (d.step action).Failing x) : d.Failing x ∨ d.Fails action := by
  cases action with
  | act action =>
    obtain ⟨thread, hthread, hkind⟩ := h
    simp only [step] at hthread
    split at hthread
    · rename_i hacts
      have horigin := ActorCoordinator.step_origin d.coordinator action hthread
      generalize errandKind thread.errand = kind at horigin hkind
      cases horigin with
      | none => cases hkind
      | kept old => exact .inl ⟨_, old, hkind⟩
      | drained drains => cases hkind
      | failed dies => exact .inr ⟨action, rfl, hacts, dies⟩
    · exact .inl ⟨thread, hthread, hkind⟩
  | closeAdmission => exact .inl h
  | drainOnce tid =>
    left
    obtain ⟨thread, hthread, hkind⟩ := h
    simp only [step] at hthread
    split at hthread <;> exact ⟨thread, hthread, hkind⟩
  | proceed tid installed => exact .inl (proceed_failing h)

variable {a : ActorID} {snapshot : ActorSnapshot}

theorem acknowledge_queued {actorId : ActorID} {queued : ActorSnapshot}
    (h : (d.acknowledge actorId snapshot).nodeFailurePublications.get? a = some queued) :
    d.coordinator.nodeFailurePublications.get? a = some queued := by
  unfold acknowledge at h
  split at h
  · exact (Dict.of_get?_erase h).2
  · exact h

theorem proceed_queued {installed : Bool}
    (h : (d.proceed tid installed).coordinator.nodeFailurePublications.get? a = some snapshot) :
    d.coordinator.nodeFailurePublications.get? a = some snapshot := by
  unfold ActorDrain.proceed at h
  split at h
  · unfold ActorDrain.beginFlush at h
    split at h
    · exact h
    · rw [ActorCoordinator.resume_nodeFailurePublications] at h
      exact h
  · rw [ActorCoordinator.resume_nodeFailurePublications] at h
    exact h
  · dsimp only at h
    split at h
    · exact acknowledge_queued h
    · exact h
  · exact h
  · exact h
  · exact h

theorem step_queued (h : (d.step action).coordinator.nodeFailurePublications.get? a =
    some snapshot) :
    d.coordinator.nodeFailurePublications.get? a = some snapshot ∨ d.Visits action a := by
  cases action with
  | act action =>
    simp only [step] at h
    split at h
    · rename_i hacts
      rcases ActorCoordinator.step_queued d.coordinator action h with hold | ⟨nodeId, hvisits⟩
      · exact .inl hold
      · exact .inr ⟨action, nodeId, rfl, hacts, hvisits⟩
    · exact .inl h
  | closeAdmission => exact .inl h
  | drainOnce tid =>
    left
    simp only [step] at h
    split at h <;> exact h
  | proceed tid installed => exact .inl (proceed_queued h)

theorem run_queued (actions : List DrainAction)
    (h : (run step d actions).coordinator.nodeFailurePublications.get? a = some snapshot) :
    d.coordinator.nodeFailurePublications.get? a = some snapshot ∨
      Occurs step (fun d action => d.Visits action a) d actions := by
  induction actions using List.reverseRecOn with
  | nil => exact .inl h
  | append_singleton actions action ih =>
    rw [run_concat] at h
    rcases step_queued h with hold | hvisits
    · rcases ih hold with hfirst | hoccurs
      · exact .inl hfirst
      · exact .inr (occurs_concat.mpr (.inl hoccurs))
    · exact .inr (occurs_concat.mpr (.inr hvisits))

theorem run_failing (actions : List DrainAction) (h : (run step d actions).Failing x) :
    d.Failing x ∨ Occurs step Fails d actions := by
  induction actions using List.reverseRecOn with
  | nil => exact .inl h
  | append_singleton actions action ih =>
    rw [run_concat] at h
    rcases step_failing h with hold | hfails
    · rcases ih hold with hfirst | hoccurs
      · exact .inl hfirst
      · exact .inr (occurs_concat.mpr (.inl hoccurs))
    · exact .inr (occurs_concat.mpr (.inr hfails))

theorem Visits.failing (h : d.Visits action a) : ∃ tid, d.Failing tid := by
  obtain ⟨act, nodeId, _, _, tid, input, error, later, _, hthread⟩ := h
  exact ⟨tid, _, hthread, rfl⟩

/-- The step ends a drain round that found nothing at all. -/
def ReturnsEmpty (d : ActorDrain) (action : DrainAction) : Prop :=
  (d.step action).returns = [] :: d.returns

theorem ReturnsEmpty.unqueued (h : d.ReturnsEmpty action) :
    (d.step action).coordinator.nodeFailurePublications = .empty := by
  have hkept : (d.step action).returns ≠ d.returns := by
    rw [h]
    exact List.cons_ne_self _ _
  unfold ReturnsEmpty at h
  cases action with
  | act action =>
    simp only [step] at hkept
    split at hkept <;> exact absurd rfl hkept
  | closeAdmission => exact absurd rfl hkept
  | drainOnce tid =>
    simp only [step] at hkept
    split at hkept <;> exact absurd rfl hkept
  | proceed tid installed =>
    simp only [step, ActorDrain.proceed] at h hkept ⊢
    split
    · rename_i hcall
      simp only [hcall] at hkept
      unfold ActorDrain.beginFlush at hkept
      split at hkept <;> exact absurd rfl hkept
    · rename_i hcall
      simp only [hcall, ne_eq, not_true_eq_false] at hkept
    · rename_i hcall
      simp only [hcall, ne_eq, not_true_eq_false] at hkept
    · rename_i hcall
      simp only [hcall, ne_eq, not_true_eq_false] at hkept
    · rename_i hcall
      simp only [hcall, ne_eq, not_true_eq_false] at hkept
    · rename_i active hcall
      simp only [hcall] at h
      exact (activeOperationIds_eq_nil (List.cons.inj h).1).2

end ActorDrain

/-- What the drain fence keeps, and the one way past it. -/
structure ActorDrainSpec (actions : List DrainAction) : Prop where
  /-- Once a round returned nothing, no Actor is active and no reservation awaited. -/
  settled : Admissible ActorDrain.step (fun d action => ¬ d.Outruns action) {} actions →
    [] ∈ (run ActorDrain.step {} actions).returns →
      (∀ a r, (run ActorDrain.step {} actions).coordinator.actors.actors.get? a = some r →
        r.state ≠ .creating ∧ r.state ≠ .restarting) ∧
      ∀ tid thread task,
        (run ActorDrain.step {} actions).coordinator.threads.get? tid = some thread →
          thread.task = some task → task.awaiting = none
  /-- A restart permission from before, once used, restarts an Actor. -/
  outrun : ∀ action, (run ActorDrain.step {} actions).Outruns action → ∃ a r,
    (run ActorDrain.step {} (actions ++ [action])).coordinator.actors.actors.get? a = some r ∧
      r.state = .restarting
  /-- An install that is pending again was queued by a visit of a failed Node, and that failure
  was reported later or was still being applied. -/
  queued : ∀ action after a snapshot,
    (run ActorDrain.step {} actions).ReturnsEmpty action →
    (run ActorDrain.step {}
      (actions ++ action :: after)).coordinator.nodeFailurePublications.get? a = some snapshot →
      Occurs ActorDrain.step (fun d visit => d.Visits visit a)
        (run ActorDrain.step {} (actions ++ [action])) after ∧
      (Occurs ActorDrain.step ActorDrain.Fails
        (run ActorDrain.step {} (actions ++ [action])) after ∨
          ∃ tid, (run ActorDrain.step {} (actions ++ [action])).Failing tid)

theorem actorDrainSpec (actions : List DrainAction) : ActorDrainSpec actions where
  settled hadmissible hreturned := by
    have hboth : (run ActorDrain.step {} actions).Inv ∧
        (run ActorDrain.step {} actions).FoundInv := by
      refine hadmissible.invariant (p := fun d : ActorDrain => d.Inv ∧ d.FoundInv) ?_ ?_
      · intro d action hkept h
        exact ⟨h.1.after action, h.2.after h.1 hkept⟩
      · refine ⟨ActorDrain.inv_new, fun hfound => ?_⟩
        rcases hfound with hreturned | ⟨tid, hreading⟩
        · cases hreturned
        · simp at hreading
    have hsettled := hboth.2 (.inl hreturned)
    exact ⟨hsettled.inactive, fun tid thread task hthread htask =>
      hsettled.unreserving hboth.1.coordinator hthread htask⟩
  outrun action houtruns := by
    obtain ⟨_, act, exit, node, r, rfl, hacts, hpermitted, hrestarts⟩ := houtruns
    obtain ⟨r', hr', hstate⟩ := ActorCoordinator.restarts_step hpermitted hrestarts
    refine ⟨exit.actorId, r', ?_, hstate⟩
    rw [run_concat]
    simp only [ActorDrain.step, if_pos hacts]
    exact hr'
  queued action after a snapshot hreturns hpending := by
    have hsplit : actions ++ action :: after = (actions ++ [action]) ++ after := by simp
    rw [hsplit, run_append] at hpending
    have hnone :
      (run ActorDrain.step {} (actions ++ [action])).coordinator.nodeFailurePublications =
        .empty := by
      rw [run_concat]
      exact hreturns.unqueued
    have hvisits : Occurs ActorDrain.step (fun d visit => d.Visits visit a)
        (run ActorDrain.step {} (actions ++ [action])) after := by
      rcases ActorDrain.run_queued after hpending with hold | hoccurs
      · rw [hnone] at hold
        cases hold
      · exact hoccurs
    refine ⟨hvisits, ?_⟩
    obtain ⟨mid, visit, rest, rfl, hvisit⟩ := hvisits
    obtain ⟨tid, hfailing⟩ := hvisit.failing
    rcases ActorDrain.run_failing mid hfailing with hold | hfails
    · exact .inr ⟨tid, hold⟩
    · obtain ⟨xs, fails, ys, rfl, hdies⟩ := hfails
      exact .inl ⟨xs, fails, ys ++ visit :: rest, by simp, hdies⟩

/-! ## An exit report that outruns the fence -/

namespace ActorDrain

theorem run_acts {c : ActorCoordinator} {actions : List ActorAction}
    (h : Admissible ActorCoordinator.step
      (fun c action => acts { coordinator := c } action = true) c actions) :
    run step { coordinator := c } (actions.map .act) =
      { coordinator := run ActorCoordinator.step c actions } := by
  induction actions generalizing c with
  | nil => rfl
  | cons action actions ih =>
    have hfirst : step { coordinator := c } (.act action) =
        { coordinator := c.step action } := by
      simp only [step, if_pos h.1]
    rw [List.map_cons, run_cons, hfirst, ih h.2]
    rfl

namespace Sample

open ActorCoordinator.Sample

theorem run_created : run step {} (creating.map .act) =
    { coordinator := hosting (frozen.publish route 1) none } := by
  have hcreate : ActorCoordinator.step (ActorCoordinator.step {}
      (.registerNode ⟨3⟩ address 31 (by decide))) (.create 0 creation) =
        hosting (.new creation) (some (.begun creation)) := rfl
  have hrun := @run_acts {} creating (by
    simp only [creating, Admissible, hcreate, advance_begun, advance_selected]
    exact ⟨rfl, rfl, rfl, rfl, rfl, trivial⟩)
  rw [run_creating] at hrun
  exact hrun

/-- The exit report has read that restarts are allowed. -/
def permitted : ActorCoordinator :=
  { hosting (frozen.publish route 1) none with
    admissionOpen := false
    threads := Dict.empty.set 1 ⟨some (.exitAdmitted actorExit hostNode true), .none⟩ }

theorem permitted_activeActorIds : permitted.actors.activeActorIds = [] := by
  have hnone : (permitted.actors.actors.keys.filter fun actorId =>
      (permitted.actors.actors.get? actorId).any fun record =>
        record.state = .creating ∨ record.state = .restarting) = [] := rfl
  rw [ActorRegistry.activeActorIds, hnone, List.mergeSort_nil]

def reporting : List DrainAction :=
  [.act (.reportWorkerExit 1 actorExit), .act (.advance 1 (served 1 route false)), .drainOnce 0]

def round : List DrainAction := List.replicate 4 (.proceed 0 true)

theorem run_reporting :
    run step { coordinator := hosting (frozen.publish route 1) none } reporting =
      { coordinator := permitted, calls := Dict.empty.set 0 .listing } := rfl

theorem run_round : run step
    { coordinator := permitted, calls := Dict.empty.set 0 .listing } round =
      { coordinator := permitted, calls := Dict.empty.set 0 (.read []) } := by
  have hlisted : step { coordinator := permitted, calls := Dict.empty.set 0 .listing }
      (.proceed 0 true) = { coordinator := permitted.resume 0 ⟨none, .draining []⟩ } := by
    rw [← permitted_activeActorIds]
    rfl
  have hflushed : run step { coordinator := permitted.resume 0 ⟨none, .draining []⟩ }
      [.proceed 0 true, .proceed 0 true] =
        { coordinator := permitted, calls := Dict.empty.set 0 .reading } := rfl
  have hread : step { coordinator := permitted, calls := Dict.empty.set 0 .reading }
      (.proceed 0 true) = { coordinator := permitted, calls := Dict.empty.set 0 (.read []) } := by
    rw [← permitted_activeActorIds]
    rfl
  have hround : round = .proceed 0 true :: ([.proceed 0 true, .proceed 0 true] ++
      [.proceed 0 true]) := rfl
  rw [hround, run_cons, hlisted, run_append, hflushed, run_cons, hread, run_nil]

theorem run_drained : run step {} (creating.map .act ++ reporting ++ round) =
    { coordinator := permitted, calls := Dict.empty.set 0 (.read []) } := by
  rw [run_append, run_append, run_created, run_reporting, run_round]

end Sample

theorem exists_restart_after_drain : ∃ before action after a r,
    (run step {} before).ReturnsEmpty action ∧
    (run step {} (before ++ action :: after)).coordinator.actors.actors.get? a = some r ∧
    r.state = .restarting := by
  let alive := ActorCoordinator.Sample.frozen.publish ActorCoordinator.Sample.route 1
  let waiting := alive.startRestart ActorCoordinator.Sample.actorExit rfl rfl
  refine ⟨ActorCoordinator.Sample.creating.map .act ++ Sample.reporting ++ Sample.round,
    .proceed 0 true,
    [.act (.advance 1 (ActorCoordinator.Sample.served 1 ActorCoordinator.Sample.route false))],
    ⟨1⟩, waiting, ?_, ?_, rfl⟩
  · have hempty : activeOperationIds [] .empty = [] := by simp [activeOperationIds, Dict.keys]
    unfold ReturnsEmpty
    rw [Sample.run_drained]
    exact congrArg (fun returned => [returned]) hempty
  · rw [run_append, Sample.run_drained]
    rfl

end ActorDrain

end MiniRay
