import MiniRay.OwnerFence.Registry

/-! Deaths and registrations may arrive in any order: the outbox is always their cross product, less
what has been acknowledged. -/

namespace MiniRay

open Checked Run

namespace OwnerDeathFenceEffect

theorem eq_of {a b : OwnerDeathFenceEffect} (hkey : a.key = b.key)
    (hdeath : a.ownerDeath = b.ownerDeath) : a = b := by
  obtain ⟨key, death, request, confirmed, owner, hrequest⟩ := a
  obtain ⟨key', death', request', confirmed', owner', hrequest'⟩ := b
  simp only at hkey hdeath
  subst hkey hdeath hrequest hrequest'
  rfl

variable {death : WorkerDeathRecord}

theorem create_eq_ok {target : OwnerFenceNodeIncarnation} {effect : OwnerDeathFenceEffect} :
    create death target = .ok effect ↔
      effect.ownerDeath = death ∧ effect.key = ⟨death.workerId, target⟩ := by
  constructor
  · intro h
    simp only [create, bind_eq_ok, pure_eq_ok] at h
    obtain ⟨confirmed, _, rfl⟩ := h
    exact ⟨rfl, rfl⟩
  · rintro ⟨rfl, hkey⟩
    have hcreate : create effect.ownerDeath target = .ok ⟨⟨effect.ownerDeath.workerId, target⟩,
        effect.ownerDeath, ownerWideFence effect.ownerDeath target effect.confirmed,
        effect.confirmed, rfl, rfl⟩ := by
      simp [create, checkOwnerDeath, certify, effect.confirmed, bind, Except.bind, pure,
        Except.pure]
    rw [hcreate, Except.ok.injEq]
    exact eq_of hkey.symm rfl

theorem exists_create (h : death.ConfirmedExit) (target : OwnerFenceNodeIncarnation) :
    ∃ effect, create death target = .ok effect :=
  ⟨⟨⟨death.workerId, target⟩, death, ownerWideFence death target h, h, rfl, rfl⟩,
    create_eq_ok.mpr ⟨rfl, rfl⟩⟩

end OwnerDeathFenceEffect

namespace OwnerDeathFenceRegistry

variable {s s' : OwnerDeathFenceRegistry}

open OwnerDeathFenceEffect

/-! ## Installing effects -/

/-- Effects are filed under their keys and carry the committed deaths. -/
def Keyed (s : OwnerDeathFenceRegistry) : Prop :=
  ∀ k e, s.effects.get? k = some e →
    e.key = k ∧ s.ownerDeaths.get? k.ownerWorkerId = some e.ownerDeath

/-- The pairs are added to the outbox, and nothing else changes. -/
structure Installs (pairs : List (WorkerDeathRecord × OwnerFenceNodeIncarnation))
    (s s' : OwnerDeathFenceRegistry) : Prop where
  frame : s' = { s with effects := s'.effects }
  kept : ∀ k e, s.effects.get? k = some e → s'.effects.get? k = some e
  new : ∀ k e, s'.effects.get? k = some e → s.effects.get? k = some e ∨
    ∃ pair ∈ pairs, create pair.1 pair.2 = .ok e ∧ e.key = k
  all : ∀ pair ∈ pairs, ∃ e, create pair.1 pair.2 = .ok e ∧ s'.effects.get? e.key = some e

def Committed (s : OwnerDeathFenceRegistry)
    (pairs : List (WorkerDeathRecord × OwnerFenceNodeIncarnation)) : Prop :=
  ∀ pair ∈ pairs, s.ownerDeaths.get? pair.1.workerId = some pair.1 ∧ pair.1.ConfirmedExit

variable {pairs : List (WorkerDeathRecord × OwnerFenceNodeIncarnation)}

theorem Installs.keyed (h : Installs pairs s s') (hs : s.Keyed) (hpairs : s.Committed pairs) :
    s'.Keyed := by
  have howners : s'.ownerDeaths = s.ownerDeaths := by rw [h.frame]
  intro k e he
  rw [howners]
  rcases h.new k e he with hold | ⟨pair, hpair, hcreate, hkey⟩
  · exact hs k e hold
  · obtain ⟨hdeath, hfull⟩ := create_eq_ok.mp hcreate
    refine ⟨hkey, ?_⟩
    rw [← hkey, hfull, hdeath]
    exact (hpairs pair hpair).1

theorem installEffect_spec (hs : s.Keyed) {death : WorkerDeathRecord}
    (target : OwnerFenceNodeIncarnation) (hpair : s.Committed [(death, target)]) :
    ∃ e s', s.installEffect death target = (.ok e, s') ∧ Installs [(death, target)] s s' := by
  obtain ⟨hcommitted, hconfirmed⟩ := hpair _ (List.mem_singleton_self _)
  obtain ⟨effect, hcreate⟩ := exists_create hconfirmed target
  obtain ⟨hdeath, hkey⟩ := create_eq_ok.mp hcreate
  cases hprevious : s.effects.get? effect.key with
  | some previous =>
    obtain ⟨hkey', howner⟩ := hs _ _ hprevious
    rw [hkey, hcommitted, Option.some.injEq] at howner
    have hsame : previous = effect := eq_of hkey' (howner.symm.trans hdeath.symm)
    refine ⟨previous, s, by simp [installEffect, hcreate, hprevious, hsame], rfl,
      fun _ _ h => h, fun _ _ h => .inl h, ?_⟩
    intro pair hpair
    rw [List.mem_singleton] at hpair
    subst hpair
    exact ⟨effect, hcreate, by rw [hprevious, hsame]⟩
  | none =>
    refine ⟨effect, { s with effects := s.effects.set effect.key effect },
      by simp [installEffect, hcreate, hprevious], rfl, ?_, ?_, ?_⟩
    · exact fun k e he => Dict.get?_set_kept hprevious he
    · intro k e he
      rcases Dict.of_get?_set he with ⟨hk, he⟩ | he
      · exact .inr ⟨(death, target), List.mem_singleton_self _, he ▸ hcreate, he ▸ hk⟩
      · exact .inl he
    · intro pair hpair
      rw [List.mem_singleton] at hpair
      subst hpair
      exact ⟨effect, hcreate, Dict.get?_set_self _ _ _⟩

theorem Installs.trans {pairs' : List (WorkerDeathRecord × OwnerFenceNodeIncarnation)}
    {s'' : OwnerDeathFenceRegistry} (h : Installs pairs s s') (h' : Installs pairs' s' s'') :
    Installs (pairs ++ pairs') s s'' := by
  refine ⟨?_, ?_, ?_, ?_⟩
  · rw [h'.frame, h.frame]
  · intro k e he
    exact h'.kept k e (h.kept k e he)
  · intro k e he
    rcases h'.new k e he with hmid | ⟨pair, hpair, hnew⟩
    · rcases h.new k e hmid with hold | ⟨pair, hpair, hnew⟩
      · exact .inl hold
      · exact .inr ⟨pair, List.mem_append_left _ hpair, hnew⟩
    · exact .inr ⟨pair, List.mem_append_right _ hpair, hnew⟩
  · intro pair hpair
    rcases List.mem_append.mp hpair with hpair | hpair
    · obtain ⟨e, hcreate, he⟩ := h.all pair hpair
      exact ⟨e, hcreate, h'.kept _ _ he⟩
    · exact h'.all pair hpair

theorem installEffects_spec (hs : s.Keyed) (hpairs : s.Committed pairs) :
    ∃ s', s.installEffects pairs = (.ok (), s') ∧ Installs pairs s s' := by
  induction pairs generalizing s with
  | nil => exact ⟨s, rfl, rfl, fun _ _ h => h, fun _ _ h => .inl h, by simp⟩
  | cons pair rest ih =>
    obtain ⟨death, target⟩ := pair
    have hfirst : s.Committed [(death, target)] := by
      intro pair hpair
      rw [List.mem_singleton] at hpair
      exact hpairs pair (hpair ▸ List.mem_cons_self)
    obtain ⟨e, mid, hinstall, hmid⟩ := installEffect_spec hs target hfirst
    have howners : mid.ownerDeaths = s.ownerDeaths := by rw [hmid.frame]
    have hrest : mid.Committed rest := by
      intro pair hpair
      rw [howners]
      exact hpairs pair (List.mem_cons_of_mem _ hpair)
    obtain ⟨s', hinstalls, hs'⟩ := ih (hmid.keyed hs hfirst) hrest
    exact ⟨s', by simp [installEffects, hinstall, hinstalls], hmid.trans hs'⟩

/-! ## Completing effects -/

/-- The effects of a dead target get a completion, and nothing else changes. -/
structure Discharges (target : OwnerFenceNodeIncarnation) (effects : List OwnerDeathFenceEffect)
    (s s' : OwnerDeathFenceRegistry) : Prop where
  frame : s' = { s with completions := s'.completions }
  kept : ∀ k c, s.completions.get? k = some c → s'.completions.get? k = some c
  new : ∀ k c, s'.completions.get? k = some c → s.completions.get? k = some c ∨
    c.terminal = .nodeDead ∧ c.effect ∈ effects ∧ c.effect.key = k ∧ k.target = target
  all : ∀ e ∈ effects, e.key.target = target → (s'.completions.get? e.key).isSome

variable {effect : OwnerDeathFenceEffect} {death : NodeDeathRecord}

theorem ofNodeDeath_ok (hexit : death.reason = .processExit)
    (hdied : effect.key.target.DiedBy death) :
    ∃ c, OwnerDeathFenceCompletion.ofNodeDeath effect death = .ok c ∧ c.effect = effect ∧
      c.terminal = .nodeDead := by
  refine ⟨⟨effect, .nodeDead, none, some death, by simp, by simp, by simp,
    by simpa using ⟨hdied, hexit⟩⟩, ?_, rfl, rfl⟩
  simp [OwnerDeathFenceCompletion.ofNodeDeath, OwnerDeathFenceCompletion.checkNodeDeath,
    certify, hexit, hdied, bind, Except.bind, pure, Except.pure]

variable {target : OwnerFenceNodeIncarnation}

theorem completeEffects_spec (hexit : death.reason = .processExit) (hdied : target.DiedBy death)
    (effects : List OwnerDeathFenceEffect) :
    ∃ completed s', s.completeEffects target death effects = (.ok completed, s') ∧
      Discharges target effects s s' := by
  induction effects generalizing s with
  | nil => exact ⟨[], s, rfl, rfl, fun _ _ h => h, fun _ _ h => .inl h, by simp⟩
  | cons effect rest ih =>
    by_cases hskip : effect.key.target ≠ target ∨ (s.completions.get? effect.key).isSome
    · obtain ⟨completed, s', hcomplete, hs'⟩ := ih (s := s)
      refine ⟨completed, s', by rw [completeEffects, if_pos hskip, hcomplete], hs'.frame,
        hs'.kept, ?_, ?_⟩
      · intro k c hc
        rcases hs'.new k c hc with hold | ⟨hdead, hmem, hk⟩
        · exact .inl hold
        · exact .inr ⟨hdead, List.mem_cons_of_mem _ hmem, hk⟩
      · intro e he htarget
        rcases List.mem_cons.mp he with rfl | he
        · have hsome := hskip.resolve_left (not_not.mpr htarget)
          obtain ⟨c, hc⟩ := Option.isSome_iff_exists.mp hsome
          exact Option.isSome_iff_exists.mpr ⟨c, hs'.kept _ c hc⟩
        · exact hs'.all e he htarget
    · push Not at hskip
      obtain ⟨htarget, hnone⟩ := hskip
      replace hnone := Option.not_isSome_iff_eq_none.mp hnone
      obtain ⟨c, hof, rfl, hterminal⟩ := ofNodeDeath_ok hexit (htarget ▸ hdied)
      obtain ⟨completed, s', hcomplete, hs'⟩ :=
        ih (s := s.complete c)
      refine ⟨c :: completed, s', ?_, ?_, ?_, ?_, ?_⟩
      · simp [completeEffects, htarget, hnone, hof, hcomplete]
      · rw [hs'.frame]
        rfl
      · intro k c' hc'
        exact hs'.kept k c' (Dict.get?_set_kept hnone hc')
      · intro k c' hc'
        rcases hs'.new k c' hc' with hmid | ⟨hdead, hmem, hk⟩
        · rw [complete] at hmid
          rcases Dict.of_get?_set hmid with ⟨hk, rfl⟩ | hmid
          · exact .inr ⟨hterminal, List.mem_cons_self, hk, hk ▸ htarget⟩
          · exact .inl hmid
        · exact .inr ⟨hdead, List.mem_cons_of_mem _ hmem, hk⟩
      · intro e he htarget'
        rcases List.mem_cons.mp he with rfl | he
        · exact Option.isSome_iff_exists.mpr ⟨c, hs'.kept _ c (Dict.get?_set_self _ _ _)⟩
        · exact hs'.all e he htarget'

/-! ## The invariant -/

/-- The calls that return normally. -/
def accepted (s : OwnerDeathFenceRegistry) (op : Op) : List Op :=
  match (s.call op).1 with
  | .ok _ => [op]
  | .error _ => []

/-- The registry agrees with the accepted calls; the outbox is deaths times live Nodes. -/
structure Fanned (h : List Op) (s : OwnerDeathFenceRegistry) : Prop where
  owners : ∀ w d, s.ownerDeaths.get? w = some d → d.workerId = w ∧ d.ConfirmedExit
  nodes : ∀ n t, s.liveNodes.get? n = some t → t.nodeId = n ∧ s.nodeDeaths.get? n = none
  committed : ∀ d, s.ownerDeaths.get? d.workerId = some d ↔ .commitOwnerDeath d ∈ h
  registered : ∀ t, .registerNode t ∈ h →
    s.liveNodes.get? t.nodeId = some t ∨ (s.nodeDeaths.get? t.nodeId).isSome
  live : ∀ t, s.liveNodes.get? t.nodeId = some t → .registerNode t ∈ h
  dead : ∀ n, (s.nodeDeaths.get? n).isSome ↔ ∃ d, .markNodeDead d ∈ h ∧ d.nodeId = n
  keyed : s.Keyed
  targets : ∀ k e, s.effects.get? k = some e → s.liveNodes.get? k.target.nodeId = some k.target ∨
    (s.nodeDeaths.get? k.target.nodeId).isSome ∧ (s.completions.get? k).isSome
  crossed : ∀ d t, s.ownerDeaths.get? d.workerId = some d → s.liveNodes.get? t.nodeId = some t →
    (s.effects.get? ⟨d.workerId, t⟩).isSome
  completed : ∀ k c, s.completions.get? k = some c → s.effects.get? k = some c.effect ∧
    (c.terminal = .acknowledged → ∃ r, .acknowledge c.effect r ∈ h) ∧
    (c.terminal = .nodeDead → (s.nodeDeaths.get? k.target.nodeId).isSome)
  acknowledged : ∀ e r, .acknowledge e r ∈ h →
    s.effects.get? e.key = some e ∧ e.CleanedBy r ∧ (s.completions.get? e.key).isSome

variable {h : List Op}

theorem fanned_empty : Fanned [] empty := by
  constructor <;> simp [empty, Keyed]

theorem accepted_ok {op : Op} {r : Reply} (hcall : s.call op = (.ok r, s')) :
    s.accepted op = [op] ∧ s.step op = s' := by
  simp [accepted, step, hcall]

theorem accepted_error {op : Op} {e : OwnerDeathFenceError} (hcall : s.call op = (.error e, s)) :
    s.accepted op = [] ∧ s.step op = s := by
  simp [accepted, step, hcall]

/-- A rejected call changes nothing, an accepted one keeps the invariant and completions. -/
inductive Outcome (h : List Op) (s : OwnerDeathFenceRegistry) (op : Op) : Prop
  | rejected (e : OwnerDeathFenceError) (call : s.call op = (.error e, s))
  | accepted (r : Reply) (s' : OwnerDeathFenceRegistry) (call : s.call op = (.ok r, s'))
      (fanned : Fanned (h ++ [op]) s')
      (grown : ∀ k e, s.effects.get? k = some e → s'.effects.get? k = some e)
      (kept : ∀ k c, s.completions.get? k = some c → s'.completions.get? k = some c)

/-! ## The calls -/

theorem Fanned.completed_mono (hs : Fanned h s) (op : Op)
    (heffects : ∀ k e, s.effects.get? k = some e → s'.effects.get? k = some e)
    (hnodes : s'.nodeDeaths = s.nodeDeaths) (k : OwnerDeathFenceKey)
    (c : OwnerDeathFenceCompletion) (hc : s.completions.get? k = some c) :
    s'.effects.get? k = some c.effect ∧
      (c.terminal = .acknowledged → ∃ r, .acknowledge c.effect r ∈ h ++ [op]) ∧
      (c.terminal = .nodeDead → (s'.nodeDeaths.get? k.target.nodeId).isSome) := by
  obtain ⟨heffect, hacked, hdied⟩ := hs.completed k c hc
  refine ⟨heffects k _ heffect, ?_, hnodes ▸ hdied⟩
  intro hterminal
  obtain ⟨r, hr⟩ := hacked hterminal
  exact ⟨r, List.mem_append_left _ hr⟩

variable {e : OwnerDeathFenceEffect}

theorem Fanned.acknowledged_mono (hs : Fanned h s)
    (heffects : ∀ k e, s.effects.get? k = some e → s'.effects.get? k = some e)
    (hcompletions : ∀ k c, s.completions.get? k = some c → s'.completions.get? k = some c)
    {r : InstallOwnerDeathFenceReply} (hr : .acknowledge e r ∈ h) :
    s'.effects.get? e.key = some e ∧ e.CleanedBy r ∧ (s'.completions.get? e.key).isSome := by
  obtain ⟨he, hcleaned, hc⟩ := hs.acknowledged e r hr
  obtain ⟨c, hc⟩ := Option.isSome_iff_exists.mp hc
  exact ⟨heffects _ _ he, hcleaned, Option.isSome_iff_exists.mpr ⟨c, hcompletions _ c hc⟩⟩

/-- A live or dead target stays live or dead when another one is registered. -/
theorem get?_register {t : OwnerFenceNodeIncarnation}
    (hbound : (s.liveNodes.get? target.nodeId).any (· ≠ target) = false)
    (ht : s.liveNodes.get? t.nodeId = some t) :
    (s.liveNodes.set target.nodeId target).get? t.nodeId = some t := by
  rw [Dict.get?_set]
  by_cases hn : target.nodeId = t.nodeId
  · have hsame : t = target := by simpa [hn, ht] using hbound
    rw [if_pos hn, hsame]
  · rw [if_neg hn]
    exact ht

theorem Fanned.registerNode (hs : Fanned h s) (target : OwnerFenceNodeIncarnation) :
    Outcome h s (.registerNode target) := by
  cases hbound : (s.liveNodes.get? target.nodeId).any (· ≠ target) with
  | true =>
    exact .rejected _ (by simp only [call, OwnerDeathFenceRegistry.registerNode, hbound]; rfl)
  | false =>
    cases hdead : s.nodeDeaths.get? target.nodeId with
    | some death =>
      exact .rejected _ (by
        simp only [call, OwnerDeathFenceRegistry.registerNode, hbound, hdead]; rfl)
    | none =>
      have hkeyed : (s.addNode target).Keyed := hs.keyed
      have hpairs : (s.addNode target).Committed
          ((s.addNode target).orderedOwnerDeaths.map (·, target)) := by
        intro pair hpair
        obtain ⟨d, hd, rfl⟩ := List.mem_map.mp hpair
        rw [orderedOwnerDeaths, List.mem_insertionSort] at hd
        obtain ⟨w, hw⟩ := Dict.mem_values_iff.mp hd
        obtain ⟨hw', hconfirmed⟩ := hs.owners w d hw
        exact ⟨hw' ▸ hw, hconfirmed⟩
      obtain ⟨s', hinstalls, hs'⟩ := installEffects_spec hkeyed hpairs
      have hlive : s'.liveNodes = s.liveNodes.set target.nodeId target := by
        rw [hs'.frame]; rfl
      have hnodes : s'.nodeDeaths = s.nodeDeaths := by rw [hs'.frame]; rfl
      have howners : s'.ownerDeaths = s.ownerDeaths := by rw [hs'.frame]; rfl
      have hcompletions : s'.completions = s.completions := by rw [hs'.frame]; rfl
      refine .accepted (.effects (s'.pendingForNode target)) s' ?_ ?_ hs'.kept ?_
      · simp only [call, OwnerDeathFenceRegistry.registerNode, hbound, hdead, hinstalls]
        rfl
      · refine ⟨?_, ?_, ?_, ?_, ?_, ?_, hs'.keyed hkeyed hpairs, ?_, ?_, ?_, ?_⟩
        · rw [howners]
          exact hs.owners
        · intro n t ht
          rw [hlive, Dict.get?_set] at ht
          rw [hnodes]
          by_cases hn : target.nodeId = n
          · rw [if_pos hn, Option.some.injEq] at ht
            exact ⟨ht ▸ hn, hn ▸ hdead⟩
          · rw [if_neg hn] at ht
            exact hs.nodes n t ht
        · intro d
          simp [howners, hs.committed]
        · intro t ht
          rw [hlive, hnodes]
          rw [List.mem_append, List.mem_singleton, Op.registerNode.injEq] at ht
          rcases ht with ht | rfl
          · exact (hs.registered t ht).imp_left (get?_register hbound)
          · exact .inl (Dict.get?_set_self _ _ _)
        · intro t ht
          rw [hlive] at ht
          rcases Dict.of_get?_set ht with ⟨_, ht⟩ | ht
          · simp [ht]
          · exact List.mem_append_left _ (hs.live t ht)
        · intro n
          simp [hnodes, hs.dead]
        · intro k e he
          rw [hlive, hnodes, hcompletions]
          rcases hs'.new k e he with hold | ⟨pair, hpair, hcreate, hk⟩
          · exact (hs.targets k e hold).imp_left (get?_register hbound)
          · obtain ⟨d, _, rfl⟩ := List.mem_map.mp hpair
            obtain ⟨_, hkey⟩ := create_eq_ok.mp hcreate
            rw [← hk, hkey]
            exact .inl (Dict.get?_set_self _ _ _)
        · intro d t hd ht
          rw [howners] at hd
          rw [hlive] at ht
          rcases Dict.of_get?_set ht with ⟨_, rfl⟩ | ht
          · have hmem :
                (d, target) ∈ (s.addNode target).orderedOwnerDeaths.map (·, target) := by
              refine List.mem_map_of_mem ?_
              rw [orderedOwnerDeaths, List.mem_insertionSort]
              exact Dict.mem_values_iff.mpr ⟨_, hd⟩
            obtain ⟨e, hcreate, he⟩ := hs'.all _ hmem
            rw [(create_eq_ok.mp hcreate).2] at he
            simp [he]
          · obtain ⟨e, he⟩ := Option.isSome_iff_exists.mp (hs.crossed d t hd ht)
            simp [hs'.kept _ e he]
        · intro k c hc
          exact hs.completed_mono _ hs'.kept hnodes k c (hcompletions ▸ hc)
        · intro e r hr
          have hr : .acknowledge e r ∈ h := by simpa using hr
          exact hs.acknowledged_mono hs'.kept (hcompletions ▸ fun _ _ hc => hc) hr
      · rw [hcompletions]
        exact fun _ _ hc => hc

theorem Fanned.replay_commit (hs : Fanned h s) {d : WorkerDeathRecord}
    (hd : s.ownerDeaths.get? d.workerId = some d) : Fanned (h ++ [.commitOwnerDeath d]) s := by
  have hmem := (hs.committed d).mp hd
  refine ⟨hs.owners, hs.nodes, ?_, ?_, ?_, ?_, hs.keyed, hs.targets, hs.crossed, ?_, ?_⟩
  · intro d'
    rw [hs.committed, List.mem_append, List.mem_singleton, Op.commitOwnerDeath.injEq]
    refine ⟨.inl, fun hd' => hd'.elim id ?_⟩
    rintro rfl
    exact hmem
  · intro t ht
    exact hs.registered t (by simpa using ht)
  · intro t ht
    exact List.mem_append_left _ (hs.live t ht)
  · intro n
    simp [hs.dead]
  · exact hs.completed_mono _ (fun _ _ he => he) rfl
  · intro e r hr
    exact hs.acknowledged e r (by simpa using hr)

theorem Fanned.commitOwnerDeath (hs : Fanned h s) (death : WorkerDeathRecord) :
    Outcome h s (.commitOwnerDeath death) := by
  by_cases hconfirmed : death.ConfirmedExit
  swap
  · exact .rejected _ (by
      simp only [call, OwnerDeathFenceRegistry.commitOwnerDeath, checkOwnerDeath, certify,
        dif_neg hconfirmed]
      rfl)
  have hcheck : checkOwnerDeath death = .ok ⟨hconfirmed⟩ := by
    simp [checkOwnerDeath, certify, hconfirmed]
  cases hprevious : s.ownerDeaths.get? death.workerId with
  | some previous =>
    by_cases hsame : previous = death
    · refine .accepted (.effects (s.pendingForOwner death.workerId)) s ?_ ?_
        (fun _ _ he => he) (fun _ _ hc => hc)
      · simp [call, OwnerDeathFenceRegistry.commitOwnerDeath, hcheck, hprevious, hsame,
          Except.map]
      · exact hs.replay_commit (hsame ▸ hprevious)
    · exact .rejected _ (by
        simp only [call, OwnerDeathFenceRegistry.commitOwnerDeath, hcheck, hprevious, ne_eq,
          hsame, not_false_eq_true, if_true]
        rfl)
  | none =>
    cases hdetection : (s.detectionIds.get? death.detectionId).any (· ≠ death) with
    | true =>
      exact .rejected _ (by
        simp only [call, OwnerDeathFenceRegistry.commitOwnerDeath, hcheck, hprevious,
          hdetection]
        rfl)
    | false =>
      cases hepoch : (s.deathEpochs.get? death.deathEpoch).any (· ≠ death) with
      | true =>
        exact .rejected _ (by
          simp only [call, OwnerDeathFenceRegistry.commitOwnerDeath, hcheck, hprevious,
            hdetection, hepoch]
          rfl)
      | false =>
        have howner : ∀ w d, (s.addOwnerDeath death).ownerDeaths.get? w = some d ↔
            death.workerId = w ∧ d = death ∨ s.ownerDeaths.get? w = some d := by
          intro w d
          change (s.ownerDeaths.set death.workerId death).get? w = some d ↔ _
          rw [Dict.get?_set]
          by_cases hw : death.workerId = w
          · subst hw
            simp [hprevious, eq_comm]
          · simp [hw]
        have hkeyed : (s.addOwnerDeath death).Keyed := by
          intro k e he
          obtain ⟨hkey, hdeath⟩ := hs.keyed k e he
          exact ⟨hkey, (howner _ _).mpr (.inr hdeath)⟩
        have hpairs : (s.addOwnerDeath death).Committed
            ((s.addOwnerDeath death).orderedLiveNodes.map (death, ·)) := by
          intro pair hpair
          obtain ⟨t, _, rfl⟩ := List.mem_map.mp hpair
          exact ⟨(howner _ _).mpr (.inl ⟨rfl, rfl⟩), hconfirmed⟩
        obtain ⟨s', hinstalls, hs'⟩ := installEffects_spec hkeyed hpairs
        have hlive : s'.liveNodes = s.liveNodes := by rw [hs'.frame]; rfl
        have hnodes : s'.nodeDeaths = s.nodeDeaths := by rw [hs'.frame]; rfl
        have howners : s'.ownerDeaths = (s.addOwnerDeath death).ownerDeaths := by
          rw [hs'.frame]
        have hcompletions : s'.completions = s.completions := by rw [hs'.frame]; rfl
        refine .accepted (.effects (s'.pendingForOwner death.workerId)) s' ?_ ?_ hs'.kept ?_
        · simp only [call, OwnerDeathFenceRegistry.commitOwnerDeath, hcheck, hprevious,
            hdetection, hepoch, hinstalls]
          rfl
        · refine ⟨?_, ?_, ?_, ?_, ?_, ?_, hs'.keyed hkeyed hpairs, ?_, ?_, ?_, ?_⟩
          · intro w d hd
            rw [howners, howner] at hd
            rcases hd with ⟨hw, rfl⟩ | hd
            · exact ⟨hw, hconfirmed⟩
            · exact hs.owners w d hd
          · rw [hlive, hnodes]
            exact hs.nodes
          · intro d
            rw [howners, howner, hs.committed, List.mem_append, List.mem_singleton,
              Op.commitOwnerDeath.injEq, or_comm]
            refine or_congr_right ⟨And.right, ?_⟩
            rintro rfl
            exact ⟨rfl, rfl⟩
          · intro t ht
            rw [hlive, hnodes]
            exact hs.registered t (by simpa using ht)
          · intro t ht
            rw [hlive] at ht
            exact List.mem_append_left _ (hs.live t ht)
          · intro n
            simp [hnodes, hs.dead]
          · intro k e he
            rw [hlive, hnodes, hcompletions]
            rcases hs'.new k e he with hold | ⟨pair, hpair, hcreate, hk⟩
            · exact hs.targets k e hold
            · obtain ⟨t, ht, rfl⟩ := List.mem_map.mp hpair
              rw [orderedLiveNodes, List.mem_insertionSort] at ht
              obtain ⟨n, hn⟩ := Dict.mem_values_iff.mp ht
              obtain ⟨_, hkey⟩ := create_eq_ok.mp hcreate
              rw [← hk, hkey]
              left
              have hnode := (hs.nodes n t hn).1
              exact hnode.symm ▸ hn
          · intro d t hd ht
            rw [howners, howner] at hd
            rw [hlive] at ht
            rcases hd with ⟨_, rfl⟩ | hd
            · have hmem : (d, t) ∈ (s.addOwnerDeath d).orderedLiveNodes.map (d, ·) := by
                refine List.mem_map_of_mem ?_
                rw [orderedLiveNodes, List.mem_insertionSort]
                exact Dict.mem_values_iff.mpr ⟨_, ht⟩
              obtain ⟨e, hcreate, he⟩ := hs'.all _ hmem
              rw [(create_eq_ok.mp hcreate).2] at he
              simp [he]
            · obtain ⟨e, he⟩ := Option.isSome_iff_exists.mp (hs.crossed d t hd ht)
              simp [hs'.kept _ e he]
          · intro k c hc
            exact hs.completed_mono _ hs'.kept hnodes k c (hcompletions ▸ hc)
          · intro e r hr
            have hr : .acknowledge e r ∈ h := by simpa using hr
            exact hs.acknowledged_mono hs'.kept (hcompletions ▸ fun _ _ hc => hc) hr
        · rw [hcompletions]
          exact fun _ _ hc => hc

variable {reply : InstallOwnerDeathFenceReply} {c : OwnerDeathFenceCompletion}

theorem ofReply_eq_ok (h : OwnerDeathFenceCompletion.ofReply effect reply = .ok c) :
    effect.CleanedBy reply ∧ c.effect = effect ∧ c.terminal = .acknowledged := by
  simp only [OwnerDeathFenceCompletion.ofReply, bind_eq_ok, pure_eq_ok] at h
  obtain ⟨cleaned, _, rfl⟩ := h
  exact ⟨cleaned.down, rfl, rfl⟩

section

variable (hs : Fanned h s)
include hs

theorem Fanned.acknowledges (heffect : s.effects.get? effect.key = some effect)
    (hcleaned : effect.CleanedBy reply) (hframe : s' = { s with completions := s'.completions })
    (hkept : ∀ k c, s.completions.get? k = some c → s'.completions.get? k = some c)
    (hnew : ∀ k c, s'.completions.get? k = some c → s.completions.get? k = some c ∨ k = effect.key ∧
      c.effect = effect ∧ c.terminal = .acknowledged)
    (hdone : (s'.completions.get? effect.key).isSome) :
    Fanned (h ++ [.acknowledge effect reply]) s' := by
  have hlive : s'.liveNodes = s.liveNodes := by rw [hframe]
  have hnodes : s'.nodeDeaths = s.nodeDeaths := by rw [hframe]
  have howners : s'.ownerDeaths = s.ownerDeaths := by rw [hframe]
  have heffects : s'.effects = s.effects := by rw [hframe]
  refine ⟨?_, ?_, ?_, ?_, ?_, ?_, ?_, ?_, ?_, ?_, ?_⟩
  · rw [howners]
    exact hs.owners
  · rw [hlive, hnodes]
    exact hs.nodes
  · intro d
    simp [howners, hs.committed]
  · intro t ht
    rw [hlive, hnodes]
    exact hs.registered t (by simpa using ht)
  · intro t ht
    rw [hlive] at ht
    exact List.mem_append_left _ (hs.live t ht)
  · intro n
    simp [hnodes, hs.dead]
  · intro k e he
    rw [heffects] at he
    rw [howners]
    exact hs.keyed k e he
  · intro k e he
    rw [heffects] at he
    rw [hlive, hnodes]
    refine (hs.targets k e he).imp_right (And.imp_right ?_)
    intro hc
    obtain ⟨c, hc⟩ := Option.isSome_iff_exists.mp hc
    simp [hkept k c hc]
  · rw [howners, hlive, heffects]
    exact hs.crossed
  · intro k c hc
    rcases hnew k c hc with hold | ⟨hk, rfl, hacked⟩
    · exact hs.completed_mono _ (heffects ▸ fun _ _ he => he) hnodes k c hold
    · refine ⟨heffects ▸ hk ▸ heffect, ?_, ?_⟩
      · intro _
        exact ⟨reply, by simp⟩
      · intro hdead
        simp [hacked] at hdead
  · intro e r hr
    rw [List.mem_append, List.mem_singleton, Op.acknowledge.injEq] at hr
    rcases hr with hr | ⟨rfl, rfl⟩
    · exact hs.acknowledged_mono (heffects ▸ fun _ _ he => he) hkept hr
    · exact ⟨heffects ▸ heffect, hcleaned, hdone⟩

theorem Fanned.acknowledge (effect : OwnerDeathFenceEffect)
    (reply : InstallOwnerDeathFenceReply) : Outcome h s (.acknowledge effect reply) := by
  cases hcanonical : s.effects.get? effect.key with
  | none =>
    exact .rejected _ (by
      simp only [call, OwnerDeathFenceRegistry.acknowledge, hcanonical]; rfl)
  | some canonical =>
    by_cases hsame : canonical = effect
    swap
    · exact .rejected _ (by
        simp only [call, OwnerDeathFenceRegistry.acknowledge, hcanonical, ne_eq, hsame,
          not_false_eq_true, if_true]
        rfl)
    subst hsame
    cases hof : OwnerDeathFenceCompletion.ofReply canonical reply with
    | error raised =>
      exact .rejected raised (by
        simp [call, OwnerDeathFenceRegistry.acknowledge, hcanonical, hof, Except.map])
    | ok completion =>
      obtain ⟨hcleaned, heffect, hterminal⟩ := ofReply_eq_ok hof
      cases hprevious : s.completions.get? canonical.key with
      | some previous =>
        have hreplay : s.acknowledge canonical reply = (.ok previous, s) →
            Outcome h s (.acknowledge canonical reply) := by
          intro hcall
          refine .accepted (.completions [previous]) s ?_ ?_
            (fun _ _ he => he) (fun _ _ hc => hc)
          · simp [call, hcall, Except.map]
          · exact hs.acknowledges hcanonical hcleaned rfl (fun _ _ hc => hc)
              (fun _ _ hc => .inl hc) (by simp [hprevious])
        by_cases hdead : previous.terminal = .nodeDead
        · exact hreplay (by
            simp [OwnerDeathFenceRegistry.acknowledge, hcanonical, hof, hprevious, hdead])
        · by_cases heq : previous = completion
          · refine hreplay ?_
            subst heq
            simp [OwnerDeathFenceRegistry.acknowledge, hcanonical, hof, hprevious]
          · exact .rejected _ (by
              simp only [call, OwnerDeathFenceRegistry.acknowledge, hcanonical, hof,
                hprevious, hdead, heq, ne_eq, not_true_eq_false, not_false_eq_true, if_true,
                if_false]
              rfl)
      | none =>
        have hkept : ∀ k c, s.completions.get? k = some c →
            (s.complete completion).completions.get? k = some c :=
          fun _ _ hc => Dict.get?_set_kept (by rw [heffect, hprevious]) hc
        refine .accepted (.completions [completion]) (s.complete completion) ?_ ?_
          (fun _ _ he => he) ?_
        · simp [call, OwnerDeathFenceRegistry.acknowledge, hcanonical, hof, hprevious,
            Except.map]
        · refine hs.acknowledges hcanonical hcleaned rfl ?_ ?_ ?_
          · exact hkept
          · intro k c hc
            rw [complete] at hc
            rcases Dict.of_get?_set hc with ⟨hk, rfl⟩ | hc
            · exact .inr ⟨heffect ▸ hk.symm, heffect, hterminal⟩
            · exact .inl hc
          · rw [complete, heffect, Dict.get?_set_self]
            rfl
        · exact hkept

theorem Fanned.replay_dead {d : NodeDeathRecord}
    (hd : s.nodeDeaths.get? d.nodeId = some d) : Fanned (h ++ [.markNodeDead d]) s := by
  refine ⟨hs.owners, hs.nodes, ?_, ?_, ?_, ?_, hs.keyed, hs.targets, hs.crossed, ?_, ?_⟩
  · intro d'
    simp [hs.committed]
  · intro t ht
    exact hs.registered t (by simpa using ht)
  · intro t ht
    exact List.mem_append_left _ (hs.live t ht)
  · intro n
    rw [hs.dead]
    constructor
    · rintro ⟨d', hd', hn⟩
      exact ⟨d', List.mem_append_left _ hd', hn⟩
    · rintro ⟨d', hd', hn⟩
      rw [List.mem_append, List.mem_singleton, Op.markNodeDead.injEq] at hd'
      rcases hd' with hd' | rfl
      · exact ⟨d', hd', hn⟩
      · exact (hs.dead n).mp (hn ▸ by simp [hd])
  · exact hs.completed_mono _ (fun _ _ he => he) rfl
  · intro e r hr
    exact hs.acknowledged e r (by simpa using hr)

theorem Fanned.mem_orderedEffects :
    e ∈ s.orderedEffects ↔ s.effects.get? e.key = some e := by
  rw [orderedEffects, List.mem_insertionSort, Dict.mem_values_iff]
  constructor
  · rintro ⟨k, hk⟩
    exact (hs.keyed k e hk).1 ▸ hk
  · intro he
    exact ⟨_, he⟩

theorem Fanned.discharges (htarget : s.liveNodes.get? death.nodeId = some target)
    (hs' : Discharges target s.orderedEffects (s.dropNode death) s') :
    Fanned (h ++ [.markNodeDead death]) s' := by
  have hlive : s'.liveNodes = s.liveNodes.erase death.nodeId := by rw [hs'.frame]; rfl
  have hnodes : s'.nodeDeaths = s.nodeDeaths.set death.nodeId death := by rw [hs'.frame]; rfl
  have howners : s'.ownerDeaths = s.ownerDeaths := by rw [hs'.frame]; rfl
  have heffects : s'.effects = s.effects := by rw [hs'.frame]; rfl
  have hsome : ∀ n, (s.nodeDeaths.get? n).isSome → (s'.nodeDeaths.get? n).isSome := by
    intro n hn
    rw [hnodes, Dict.get?_set]
    split
    · rfl
    · exact hn
  have hgone : (s'.nodeDeaths.get? death.nodeId).isSome := by simp [hnodes]
  obtain ⟨hnode, _⟩ := hs.nodes _ _ htarget
  refine ⟨?_, ?_, ?_, ?_, ?_, ?_, ?_, ?_, ?_, ?_, ?_⟩
  · rw [howners]
    exact hs.owners
  · intro n t ht
    rw [hlive, Dict.get?_erase] at ht
    by_cases hn : death.nodeId = n
    · simp [hn] at ht
    · rw [if_neg hn] at ht
      rw [hnodes, Dict.get?_set_of_ne _ _ hn]
      exact hs.nodes n t ht
  · intro d
    simp [howners, hs.committed]
  · intro t ht
    by_cases hn : death.nodeId = t.nodeId
    · exact .inr (hn ▸ hgone)
    · rcases hs.registered t (by simpa using ht) with hold | hdead
      · left
        rw [hlive, Dict.get?_erase_of_ne _ hn]
        exact hold
      · exact .inr (hsome _ hdead)
  · intro t ht
    rw [hlive, Dict.get?_erase] at ht
    by_cases hn : death.nodeId = t.nodeId
    · simp [hn] at ht
    · rw [if_neg hn] at ht
      exact List.mem_append_left _ (hs.live t ht)
  · intro n
    constructor
    · intro hn
      by_cases heq : death.nodeId = n
      · exact ⟨death, by simp, heq⟩
      · rw [hnodes, Dict.get?_set_of_ne _ _ heq] at hn
        obtain ⟨d, hd, hdn⟩ := (hs.dead n).mp hn
        exact ⟨d, List.mem_append_left _ hd, hdn⟩
    · rintro ⟨d, hd, rfl⟩
      rw [List.mem_append, List.mem_singleton, Op.markNodeDead.injEq] at hd
      rcases hd with hd | rfl
      · exact hsome _ ((hs.dead _).mpr ⟨d, hd, rfl⟩)
      · exact hgone
  · intro k e he
    rw [heffects] at he
    rw [howners]
    exact hs.keyed k e he
  · intro k e he
    rw [heffects] at he
    rcases hs.targets k e he with hold | ⟨hdead, hc⟩
    · by_cases hn : death.nodeId = k.target.nodeId
      · right
        have hk := (hs.keyed k e he).1
        rw [← hn, htarget, Option.some.injEq] at hold
        have hmem := hs.mem_orderedEffects.mpr (hk ▸ he)
        have hdone := hs'.all e hmem (hk ▸ hold.symm)
        exact ⟨hn ▸ hgone, hk ▸ hdone⟩
      · left
        rw [hlive, Dict.get?_erase_of_ne _ hn]
        exact hold
    · obtain ⟨c, hc⟩ := Option.isSome_iff_exists.mp hc
      exact .inr ⟨hsome _ hdead, Option.isSome_iff_exists.mpr ⟨c, hs'.kept k c hc⟩⟩
  · intro d t hd ht
    rw [howners] at hd
    rw [hlive, Dict.get?_erase] at ht
    rw [heffects]
    by_cases hn : death.nodeId = t.nodeId
    · simp [hn] at ht
    · rw [if_neg hn] at ht
      exact hs.crossed d t hd ht
  · intro k c hc
    rw [heffects]
    rcases hs'.new k c hc with hold | ⟨hdead, hmem, hk, hktarget⟩
    · obtain ⟨heffect, hacked, hdied⟩ := hs.completed k c hold
      refine ⟨heffect, ?_, fun hterminal => hsome _ (hdied hterminal)⟩
      intro hterminal
      obtain ⟨r, hr⟩ := hacked hterminal
      exact ⟨r, List.mem_append_left _ hr⟩
    · refine ⟨hk ▸ hs.mem_orderedEffects.mp hmem, ?_, ?_⟩
      · intro hterminal
        simp [hdead] at hterminal
      · intro _
        rw [hktarget, hnode]
        exact hgone
  · intro e r hr
    exact hs.acknowledged_mono (heffects ▸ fun _ _ he => he) hs'.kept (by simpa using hr)

theorem Fanned.markNodeDead (death : NodeDeathRecord) :
    Outcome h s (.markNodeDead death) := by
  by_cases hexit : death.reason = .processExit
  swap
  · exact .rejected _ (by
      simp only [call, OwnerDeathFenceRegistry.markNodeDead,
        OwnerDeathFenceCompletion.checkNodeDeath, certify, dif_neg hexit]
      rfl)
  have hcheck : OwnerDeathFenceCompletion.checkNodeDeath death = .ok ⟨hexit⟩ := by
    simp [OwnerDeathFenceCompletion.checkNodeDeath, certify, hexit]
  cases hprevious : s.nodeDeaths.get? death.nodeId with
  | some previous =>
    by_cases hsame : previous = death
    · subst hsame
      refine .accepted (.completions (s.orderedCompletions.filter fun completion =>
        completion.effect.key.target.nodeId = previous.nodeId &&
          completion.terminal = .nodeDead)) s ?_ ?_ (fun _ _ he => he) (fun _ _ hc => hc)
      · simp [call, OwnerDeathFenceRegistry.markNodeDead, hcheck, hprevious, Except.map]
      · exact hs.replay_dead hprevious
    · exact .rejected _ (by
        simp only [call, OwnerDeathFenceRegistry.markNodeDead, hcheck, hprevious, ne_eq, hsame,
          not_false_eq_true, if_true]
        rfl)
  | none =>
    cases htarget : s.liveNodes.get? death.nodeId with
    | none =>
      exact .rejected _ (by
        simp only [call, OwnerDeathFenceRegistry.markNodeDead, hcheck, hprevious, htarget]
        rfl)
    | some target =>
      by_cases hother : death.nodePid ≠ target.nodePid ∨
          death.registrationEpoch ≠ target.registrationEpoch
      · exact .rejected _ (by
          simp only [call, OwnerDeathFenceRegistry.markNodeDead, hcheck, hprevious, htarget,
            if_pos hother]
          rfl)
      · have hcall : s.markNodeDead death = (s.dropNode death).completeEffects target death
            (s.dropNode death).orderedEffects := by
          simp only [OwnerDeathFenceRegistry.markNodeDead, hcheck, hprevious, htarget,
            if_neg hother]
        push Not at hother
        have hdied : target.DiedBy death :=
          ⟨((hs.nodes _ _ htarget).1).symm, hother.1, hother.2⟩
        obtain ⟨completed, s', hcompletes, hs'⟩ :=
          completeEffects_spec (s := s.dropNode death) hexit hdied s.orderedEffects
        refine .accepted (.completions completed) s' ?_ (hs.discharges htarget hs')
          (by rw [hs'.frame]; exact fun _ _ he => he) hs'.kept
        simp only [call, hcall]
        rw [show (s.dropNode death).orderedEffects = s.orderedEffects from rfl, hcompletes]
        rfl

theorem Fanned.outcome (op : Op) : Outcome h s op := by
  cases op with
  | registerNode target => exact hs.registerNode target
  | commitOwnerDeath death => exact hs.commitOwnerDeath death
  | acknowledge effect reply => exact hs.acknowledge effect reply
  | markNodeDead death => exact hs.markNodeDead death

theorem Fanned.step (op : Op) : Fanned (h ++ s.accepted op) (s.step op) := by
  cases hs.outcome op with
  | rejected e hcall =>
    obtain ⟨hnone, hsame⟩ := accepted_error hcall
    rw [hnone, hsame, List.append_nil]
    exact hs
  | accepted r s' hcall fanned =>
    obtain ⟨hone, hstep⟩ := accepted_ok hcall
    rw [hone, hstep]
    exact fanned

end

theorem fanned_run (ops : List Op) :
    Fanned (outputs step accepted empty ops) (run OwnerDeathFenceRegistry.step empty ops) :=
  outputs_invariant (fun _ _ op hs => hs.step op) fanned_empty ops

/-! ## The outbox -/

/-- The effects a call adds to the outbox. -/
def admitted (s : OwnerDeathFenceRegistry) (op : Op) : List OwnerDeathFenceEffect :=
  (s.step op).effects.values.filter fun effect => (s.effects.get? effect.key).isNone

/-- Effects enter the outbox once. -/
structure Admitted (a : List OwnerDeathFenceEffect) (s : OwnerDeathFenceRegistry) : Prop where
  once : (a.map OwnerDeathFenceEffect.key).Nodup
  present : ∀ e, e ∈ a ↔ s.effects.get? e.key = some e

theorem Keyed.nodup_values (hs : s.Keyed) :
    (s.effects.values.map OwnerDeathFenceEffect.key).Nodup := by
  have hkeys : s.effects.values.map OwnerDeathFenceEffect.key = s.effects.keys := by
    rw [Dict.values, Dict.keys, List.map_map]
    refine List.map_congr_left ?_
    rintro ⟨k, e⟩ hmem
    exact (hs k e (Dict.get?_eq_some_iff.mpr hmem)).1
  rw [hkeys]
  exact s.effects.nodup

theorem Keyed.mem_values (hs : s.Keyed) : e ∈ s.effects.values ↔ s.effects.get? e.key = some e := by
  rw [Dict.mem_values_iff]
  constructor
  · rintro ⟨k, hk⟩
    exact (hs k e hk).1 ▸ hk
  · intro he
    exact ⟨_, he⟩

theorem Admitted.step {a : List OwnerDeathFenceEffect} (ha : Admitted a s) (hs : Fanned h s)
    (op : Op) : Admitted (a ++ s.admitted op) (s.step op) := by
  have hkeyed := (hs.step op).keyed
  have hgrown : ∀ k e, s.effects.get? k = some e → (s.step op).effects.get? k = some e := by
    cases hs.outcome op with
    | rejected e hcall => rw [(accepted_error hcall).2]; exact fun _ _ he => he
    | accepted r s' hcall _ grown => rw [(accepted_ok hcall).2]; exact grown
  refine ⟨?_, ?_⟩
  · rw [List.map_append, List.nodup_append]
    refine ⟨ha.once, ?_, ?_⟩
    · exact hkeyed.nodup_values.sublist (List.Sublist.map _ List.filter_sublist)
    · intro k hk k' hk' heq
      obtain ⟨e, he, rfl⟩ := List.mem_map.mp hk
      obtain ⟨e', he', rfl⟩ := List.mem_map.mp hk'
      have hnone := (List.mem_filter.mp he').2
      rw [← heq, (ha.present e).mp he] at hnone
      cases hnone
  · intro e
    rw [List.mem_append, ha.present, admitted, List.mem_filter, hkeyed.mem_values]
    constructor
    · rintro (he | ⟨he, _⟩)
      · exact hgrown _ e he
      · exact he
    · intro he
      cases hold : s.effects.get? e.key with
      | none => exact .inr ⟨he, rfl⟩
      | some e' =>
        have hsame := (hgrown _ e' hold).symm.trans he
        exact .inl hsame

theorem admitted_run (ops : List Op) : Admitted (outputs step admitted empty ops)
    (run OwnerDeathFenceRegistry.step empty ops) := by
  induction ops using List.reverseRecOn with
  | nil => exact ⟨List.nodup_nil, by simp [outputs, empty]⟩
  | append_singleton ops op ih =>
    have hnext := ih.step (fanned_run ops) op
    rw [outputs_append, run_concat]
    simpa [outputs] using hnext

/-- A Node that registered and has not died. -/
def Live (h : List Op) (target : OwnerFenceNodeIncarnation) : Prop :=
  .registerNode target ∈ h ∧ ∀ death, .markNodeDead death ∈ h → death.nodeId ≠ target.nodeId

theorem Fanned.live_iff (hs : Fanned h s) :
    s.liveNodes.get? target.nodeId = some target ↔ Live h target := by
  constructor
  · intro htarget
    refine ⟨hs.live _ htarget, ?_⟩
    intro death hdeath hnode
    have hdead := (hs.dead target.nodeId).mpr ⟨death, hdeath, hnode⟩
    simp [(hs.nodes _ _ htarget).2] at hdead
  · rintro ⟨hregistered, halive⟩
    refine (hs.registered _ hregistered).resolve_right ?_
    intro hdead
    obtain ⟨death, hdeath, hnode⟩ := (hs.dead _).mp hdead
    exact halive death hdeath hnode

theorem Fanned.completed_iff (hs : Fanned h s) (heffect : s.effects.get? effect.key = some effect)
    (hlive : s.liveNodes.get? effect.key.target.nodeId = some effect.key.target) :
    (s.completions.get? effect.key).isSome ↔ ∃ reply, .acknowledge effect reply ∈ h := by
  constructor
  · intro hc
    obtain ⟨c, hc⟩ := Option.isSome_iff_exists.mp hc
    obtain ⟨heffect', hacked, hdied⟩ := hs.completed _ c hc
    cases hterminal : c.terminal with
    | acknowledged =>
      have hsame := heffect.symm.trans heffect'
      rw [Option.some.injEq] at hsame
      rw [hsame]
      exact hacked hterminal
    | nodeDead =>
      have hdead := hdied hterminal
      simp [(hs.nodes _ _ hlive).2] at hdead
  · rintro ⟨reply, hreply⟩
    exact (hs.acknowledged effect reply hreply).2.2

theorem Fanned.mem_pending (hs : Fanned h s) :
    effect ∈ s.pending ↔ ∃ death target, .commitOwnerDeath death ∈ h ∧ Live h target ∧
      create death target = .ok effect ∧ ∀ reply, .acknowledge effect reply ∉ h := by
  rw [pending, List.mem_filter, hs.mem_orderedEffects, Option.isNone_iff_eq_none]
  constructor
  · rintro ⟨heffect, hnone⟩
    obtain ⟨_, hdeath⟩ := hs.keyed _ _ heffect
    rw [← effect.owner] at hdeath
    have hlive : s.liveNodes.get? effect.key.target.nodeId = some effect.key.target := by
      refine (hs.targets _ _ heffect).resolve_right ?_
      rintro ⟨_, hsome⟩
      simp [hnone] at hsome
    refine ⟨effect.ownerDeath, effect.key.target, (hs.committed _).mp hdeath,
      hs.live_iff.mp hlive, create_eq_ok.mpr ⟨rfl, ?_⟩, ?_⟩
    · rw [effect.owner]
    · intro reply hreply
      have hsome := (hs.completed_iff heffect hlive).mpr ⟨reply, hreply⟩
      simp [hnone] at hsome
  · rintro ⟨death, target, hdeath, hlive, hcreate, hopen⟩
    obtain ⟨rfl, hkey⟩ := create_eq_ok.mp hcreate
    have htarget := hs.live_iff.mpr hlive
    have howner := (hs.committed _).mpr hdeath
    obtain ⟨e, he⟩ := Option.isSome_iff_exists.mp (hs.crossed _ _ howner htarget)
    obtain ⟨hekey, hedeath⟩ := hs.keyed _ _ he
    have hsame : e = effect := by
      refine eq_of (hekey.trans hkey.symm) ?_
      exact Option.some.inj (hedeath.symm.trans howner)
    rw [← hkey, hsame] at he
    refine ⟨he, ?_⟩
    by_contra hsome
    have htarget' : s.liveNodes.get? effect.key.target.nodeId = some effect.key.target := by
      rw [hkey]
      exact htarget
    obtain ⟨reply, hreply⟩ := (hs.completed_iff he htarget').mp
      (Option.isSome_iff_ne_none.mpr hsome)
    exact hopen reply hreply

theorem Fanned.bootstrapComplete_iff (hs : Fanned h s) (target : OwnerFenceNodeIncarnation) :
    s.nodeBootstrapComplete target = true ↔ Live h target ∧ ∀ death effect,
      .commitOwnerDeath death ∈ h → create death target = .ok effect →
        ∃ reply, .acknowledge effect reply ∈ h := by
  rw [nodeBootstrapComplete, ← hs.live_iff]
  by_cases hlive : s.liveNodes.get? target.nodeId = some target
  swap
  · simp [hlive]
  have hpending : s.pendingForNode target = s.pending.filter fun e => e.key.target = target := by
    simp [pendingForNode, pending, List.filter_filter]
  rw [if_neg (not_not.mpr hlive), List.isEmpty_iff, hpending, List.filter_eq_nil_iff]
  simp only [decide_eq_true_eq, hlive, true_and]
  constructor
  · intro hnone death effect hdeath hcreate
    by_contra hopen
    push Not at hopen
    obtain ⟨_, hkey⟩ := create_eq_ok.mp hcreate
    refine hnone effect ?_ (by rw [hkey])
    exact hs.mem_pending.mpr ⟨death, target, hdeath, hs.live_iff.mp hlive, hcreate, hopen⟩
  · intro hall effect heffect htarget
    obtain ⟨death, target', hdeath, _, hcreate, hopen⟩ := hs.mem_pending.mp heffect
    obtain ⟨_, hkey⟩ := create_eq_ok.mp hcreate
    have hsame : target' = target := by rw [← htarget, hkey]
    obtain ⟨reply, hreply⟩ := hall death effect hdeath (hsame ▸ hcreate)
    exact hopen reply hreply

theorem Fanned.nodup_pending (hs : Fanned h s) : s.pending.Nodup := by
  refine List.Nodup.filter _ ?_
  rw [orderedEffects, (List.perm_insertionSort _ _).nodup_iff]
  exact hs.keyed.nodup_values.of_map _

theorem run_completions (hs : Fanned h s) (ops : List Op) {k : OwnerDeathFenceKey}
    (hc : s.completions.get? k = some c) :
    (run OwnerDeathFenceRegistry.step s ops).completions.get? k = some c := by
  induction ops generalizing h s with
  | nil => exact hc
  | cons op ops ih =>
    refine ih (hs.step op) ?_
    cases hs.outcome op with
    | rejected e hcall => rw [(accepted_error hcall).2]; exact hc
    | accepted r s' hcall _ _ kept => rw [(accepted_ok hcall).2]; exact kept k c hc

end OwnerDeathFenceRegistry

end MiniRay
