import MiniRay.Identity.SubmissionSpec

/-! All Cores count the submissions outside tasks, and all Actor calls, from zero under the same
driver's TaskID. While one Core makes all of them, identities are unique. A second Core repeats
them. -/

namespace MiniRay

namespace JobIdentities

variable {digest : Digest} {jobId : JobID} {s s' : JobState} {root : WorkerID}

/-! ## One Core under the driver's TaskID -/

/-- Only this Core submits under the driver's TaskID. -/
def Action.RootedAt (root : WorkerID) : Action → Prop
  | .registerSubmission worker none _ _ => worker = root
  | .submitActorCall worker _ => worker = root
  | _ => True

instance (root : WorkerID) : (a : Action) → Decidable (a.RootedAt root)
  | .registerSubmission worker none _ _ => inferInstanceAs (Decidable (worker = root))
  | .submitActorCall worker _ => inferInstanceAs (Decidable (worker = root))
  | .registerSubmission _ (some _) _ _ => .isTrue trivial
  | .startCore _ => .isTrue trivial
  | .putValue _ _ => .isTrue trivial
  | .execute _ _ => .isTrue trivial

def Rooted (root : WorkerID) (s : JobState) : Prop :=
  ∀ x ∈ s.submissions, ∀ owner index, x.origin = .root owner index → owner = root

variable {x : Submission}

theorem Rooted.admitIf (h : Rooted root s) {admitted : Bool}
    (hx : ∀ owner index, x.origin = .root owner index → owner = root) :
    Rooted root (s.admitIf admitted x) := by
  cases admitted with
  | false => exact h
  | true =>
    intro y hy owner index horigin
    have hy : y ∈ s.submissions ++ [x] := hy
    rw [List.mem_append, List.mem_singleton] at hy
    rcases hy with hy | rfl
    · exact h y hy owner index horigin
    · exact hx owner index horigin

theorem submitRoot_rooted (h : Rooted root s) (kind : Kind) (numReturns : Nat) (admitted : Bool) :
    Rooted root (submitRoot digest jobId s root kind numReturns admitted) := by
  simp only [submitRoot]
  cases hcore : s.cores.get? root with
  | none => exact h
  | some core =>
    simp only []
    cases TaskID.derive digest jobId (TaskID.forDriver digest jobId) core.submissionIndex with
    | none => exact h
    | some taskId =>
      apply Rooted.admitIf
      · exact h
      · intro owner index horigin
        cases horigin
        rfl

theorem step_rooted (h : Rooted root s) {a : Action} (ha : a.RootedAt root) :
    Rooted root (step digest jobId s a) := by
  cases a with
  | startCore worker =>
    simp only [step, startCore]
    cases s.cores.get? worker with
    | none => exact h
    | some core => exact h
  | registerSubmission worker context numReturns admitted =>
    cases context with
    | none =>
      have hworker : worker = root := ha
      rw [hworker]
      exact submitRoot_rooted h .task numReturns admitted
    | some attempt =>
      simp only [step, registerSubmission]
      cases s.contexts.get? attempt with
      | none => exact h
      | some context =>
        simp only []
        by_cases hworker : context.coreWorker ≠ worker
        · rw [if_pos hworker]
          exact h
        rw [if_neg hworker]
        cases context.nextTaskId digest jobId with
        | none => exact h
        | some next =>
          apply Rooted.admitIf
          · exact h
          · rintro owner index ⟨⟩
  | submitActorCall worker admitted =>
    have hworker : worker = root := ha
    rw [hworker]
    exact submitRoot_rooted h .actorCall 1 admitted
  | putValue worker admitted =>
    simp only [step, putValue]
    cases s.cores.get? worker with
    | none => exact h
    | some core =>
      simp only []
      cases TaskID.forPut digest jobId worker core.putIndex with
      | none => exact h
      | some taskId =>
        apply Rooted.admitIf
        · exact h
        · rintro owner index ⟨⟩
  | execute worker attempt =>
    simp only [step, execute]
    cases s.cores.get? worker with
    | none => exact h
    | some core =>
      cases s.contexts.get? attempt with
      | some context => exact h
      | none =>
        simp only []
        by_cases hparent : ∃ x ∈ s.submissions, x.kind = .task ∧ x.taskId = attempt.taskId
        · rw [if_pos hparent]
          exact h
        · rw [if_neg hparent]
          exact h

/-! ## Equal identities have one origin -/

theorem inputs_driver : TaskID.driverInput jobId ∈ s.inputs digest jobId :=
  List.mem_cons_self ..

theorem inputs_submission (hx : x ∈ s.submissions) :
    x.origin.input digest jobId ∈ s.inputs digest jobId :=
  List.mem_cons_of_mem _ (List.mem_append_left _ (List.mem_map_of_mem hx))

variable {attempt : AttemptID} {context : ExecutionContext}

theorem inputs_seed (h : s.contexts.get? attempt = some context) :
    TaskID.deriveInput jobId attempt.taskId attempt.attemptNumber ∈ s.inputs digest jobId :=
  List.mem_cons_of_mem _ (List.mem_append_right _
    (List.mem_map_of_mem (Dict.mem_keys_iff.mpr ⟨context, h⟩)))

theorem Inv.driver_ne (h : Inv digest jobId s)
    (hfree : CollisionFree digest (s.inputs digest jobId)) (hx : x ∈ s.submissions) :
    x.taskId ≠ TaskID.forDriver digest jobId := by
  intro hsame
  rw [h.taskId x hx] at hsame
  have hdigest := congrArg TaskID.value hsame
  have hinput := hfree _ (inputs_submission hx) _ inputs_driver hdigest
  exact driverInput_ne_origin _ hinput.symm

theorem Inv.driver_ne_seed (hfree : CollisionFree digest (s.inputs digest jobId))
    (hcontext : s.contexts.get? attempt = some context) :
    TaskID.forDriver digest jobId ≠ seed digest jobId attempt := by
  intro hsame
  have hdigest := congrArg TaskID.value hsame
  have hinput := hfree _ inputs_driver _ (inputs_seed hcontext) hdigest
  exact driverInput_ne_deriveInput _ _ hinput

theorem Inv.origin_inj (h : Inv digest jobId s) (hrooted : Rooted root s)
    (hfree : CollisionFree digest (s.inputs digest jobId)) {y : Submission} (hx : x ∈ s.submissions)
    (hy : y ∈ s.submissions) (hsame : x.taskId = y.taskId) : x.origin = y.origin := by
  have hcx := h.counted x hx
  have hcy := h.counted y hy
  have hrx := hrooted x hx
  have hry := hrooted y hy
  rw [h.taskId x hx, h.taskId y hy] at hsame
  have hinput := hfree _ (inputs_submission hx) _ (inputs_submission hy)
    (congrArg TaskID.value hsame)
  cases hox : x.origin with
  | root owner index =>
    rw [hox] at hcx hinput
    cases hoy : y.origin with
    | root owner' index' =>
      rw [hoy] at hcy hinput
      obtain ⟨-, hindex⟩ := deriveInput_inj hcx.1 hcy.1 hinput
      rw [hrx owner index hox, hry owner' index' hoy, hindex]
    | nested attempt index' =>
      rw [hoy] at hcy hinput
      obtain ⟨hbound, -, context, hcontext, -⟩ := hcy
      obtain ⟨hparent, -⟩ := deriveInput_inj hcx.1 hbound hinput
      exact absurd hparent (Inv.driver_ne_seed hfree hcontext)
    | put owner' index' =>
      rw [hoy] at hinput
      exact (putInput_ne_deriveInput owner' index' _ _ hinput.symm).elim
  | nested attempt index =>
    rw [hox] at hcx hinput
    obtain ⟨hbound, hnumber, context, hcontext, -⟩ := hcx
    cases hoy : y.origin with
    | root owner' index' =>
      rw [hoy] at hcy hinput
      obtain ⟨hparent, -⟩ := deriveInput_inj hbound hcy.1 hinput
      exact absurd hparent.symm (Inv.driver_ne_seed hfree hcontext)
    | nested attempt' index' =>
      rw [hoy] at hcy hinput
      obtain ⟨hbound', hnumber', context', hcontext', -⟩ := hcy
      obtain ⟨hparent, hindex⟩ := deriveInput_inj hbound hbound' hinput
      have hseed := hfree _ (inputs_seed hcontext) _ (inputs_seed hcontext')
        (congrArg TaskID.value hparent)
      obtain ⟨htask, hattempt⟩ := deriveInput_inj hnumber hnumber' hseed
      have hsameAttempt : attempt = attempt' := by
        cases attempt
        cases attempt'
        exact congrArg₂ AttemptID.mk htask hattempt
      rw [hsameAttempt, hindex]
    | put owner' index' =>
      rw [hoy] at hinput
      exact (putInput_ne_deriveInput owner' index' _ _ hinput.symm).elim
  | put owner index =>
    rw [hox] at hcx hinput
    cases hoy : y.origin with
    | root owner' index' =>
      rw [hoy] at hinput
      exact (putInput_ne_deriveInput owner index _ _ hinput).elim
    | nested attempt' index' =>
      rw [hoy] at hinput
      exact (putInput_ne_deriveInput owner index _ _ hinput).elim
    | put owner' index' =>
      rw [hoy] at hcy hinput
      obtain ⟨howner, hindex⟩ := putInput_inj hcx.1 hcy.1 hinput
      rw [howner, hindex]

/-! ## Seeds are no submissions -/

/-- No seed of a started attempt is the identity of a submission. -/
def SeedsApart (digest : Digest) (jobId : JobID) (s : JobState) : Prop :=
  ∀ attempt context, s.contexts.get? attempt = some context → Uint64 attempt.attemptNumber →
    ∀ x ∈ s.submissions, x.taskId ≠ seed digest jobId attempt

/-- The seed of an attempt was submitted under the attempt's task, itself a submission before. -/
theorem Inv.of_seed (h : Inv digest jobId s) (hfree : CollisionFree digest (s.inputs digest jobId))
    (hcontext : s.contexts.get? attempt = some context) (hnumber : Uint64 attempt.attemptNumber)
    (hx : x ∈ s.submissions) (hseed : x.taskId = seed digest jobId attempt) :
    ∃ parent index, x.origin = .nested parent index ∧ Uint64 parent.attemptNumber ∧
      attempt.taskId = seed digest jobId parent := by
  have hcounted := h.counted x hx
  rw [h.taskId x hx] at hseed
  have hinput := hfree _ (inputs_submission hx) _ (inputs_seed hcontext)
    (congrArg TaskID.value hseed)
  obtain ⟨y, hy, htask⟩ := h.parents attempt context hcontext
  cases horigin : x.origin with
  | root owner index =>
    rw [horigin] at hcounted hinput
    obtain ⟨hparent, -⟩ := deriveInput_inj hcounted.1 hnumber hinput
    exact absurd (htask.trans hparent.symm) (h.driver_ne hfree hy)
  | nested parent index =>
    rw [horigin] at hcounted hinput
    obtain ⟨hbound, hparentNumber, -⟩ := hcounted
    obtain ⟨hparent, -⟩ := deriveInput_inj hbound hnumber hinput
    exact ⟨parent, index, rfl, hparentNumber, hparent.symm⟩
  | put owner index =>
    rw [horigin] at hinput
    exact (putInput_ne_deriveInput owner index _ _ hinput).elim

theorem inputs_mono (hgrows : Grows s s') : s.inputs digest jobId ⊆ s'.inputs digest jobId := by
  intro i hi
  rcases List.mem_cons.mp hi with rfl | hi
  · exact inputs_driver
  rcases List.mem_append.mp hi with hi | hi
  · obtain ⟨x, hx, rfl⟩ := List.mem_map.mp hi
    exact inputs_submission (hgrows.submissions hx)
  · obtain ⟨attempt, hattempt, rfl⟩ := List.mem_map.mp hi
    obtain ⟨context, hcontext⟩ := Dict.mem_keys_iff.mp hattempt
    obtain ⟨next, hnext, -⟩ := hgrows.contexts attempt context hcontext
    exact inputs_seed hnext

theorem CollisionFree.mono {inputs more : List DigestInput} (h : CollisionFree digest more)
    (hsub : inputs ⊆ more) : CollisionFree digest inputs :=
  fun a ha b hb => h a (hsub ha) b (hsub hb)

theorem SeedsApart.step (h : Inv digest jobId s') (hstep : StepSpec digest jobId s s')
    (hfree : CollisionFree digest (s'.inputs digest jobId)) (hapart : SeedsApart digest jobId s) :
    SeedsApart digest jobId s' := by
  intro attempt context hcontext hnumber x hx hseed
  obtain ⟨parent, index, horigin, hparentNumber, htask⟩ :=
    h.of_seed hfree hcontext hnumber hx hseed
  obtain ⟨old, hold⟩ := hstep.nested x hx parent index horigin
  obtain ⟨y, hy, hytask⟩ := hstep.parents attempt context hcontext
  exact hapart parent old hold hparentNumber y hy (hytask.trans htask)

/-! ## Runs -/

/-- What holds along the runs of one root. -/
structure Along (digest : Digest) (jobId : JobID) (root : WorkerID) (s : JobState) : Prop where
  inv : Inv digest jobId s
  rooted : Rooted root s
  seeds : CollisionFree digest (s.inputs digest jobId) → SeedsApart digest jobId s

theorem run_along {actions : List Action} (h : ∀ a ∈ actions, a.RootedAt root)
    (hs : Along digest jobId root s) :
    Along digest jobId root (Run.run (step digest jobId) s actions) := by
  induction actions generalizing s with
  | nil => exact hs
  | cons a actions ih =>
    have hspec := step_spec hs.inv a
    have hinv := hs.inv.step hspec
    apply ih (fun b hb => h b (List.mem_cons_of_mem _ hb))
    refine ⟨hinv, step_rooted hs.rooted (h a (List.mem_cons_self ..)), fun hfree => ?_⟩
    exact .step hinv hspec hfree (hs.seeds (hfree.mono (inputs_mono hspec.grows)))

theorem Along.unique (h : Along digest jobId root s)
    (hfree : CollisionFree digest (s.inputs digest jobId)) : Unique digest jobId s := by
  have hsame : ∀ x ∈ s.submissions, ∀ y ∈ s.submissions, x.taskId = y.taskId → x = y :=
    fun x hx y hy htask => List.inj_on_of_nodup_map h.inv.origins hx hy
      (h.inv.origin_inj h.rooted hfree hx hy htask)
  refine ⟨?_, ?_, ?_⟩
  · exact List.Nodup.map_on hsame (List.Nodup.of_map _ h.inv.origins)
  · intro x hx y hy object hobject hobject'
    obtain ⟨i, -, rfl⟩ := List.mem_map.mp hobject
    obtain ⟨j, -, hj⟩ := List.mem_map.mp hobject'
    have htask : y.taskId = x.taskId := congrArg ObjectID.taskId hj
    rw [hsame x hx y hy htask.symm]
  · intro attempt context hcontext x hx hseed
    have hattempt := h.inv.attempts attempt context hcontext
    simp only [ExecutionContext.attemptParent, TaskID.derive, ← context.belongs, hattempt] at hseed
    by_cases hnumber : Uint64 attempt.attemptNumber
    · rw [if_pos hnumber] at hseed
      exact h.seeds hfree attempt context hcontext hnumber x hx (Option.some.inj hseed).symm
    · rw [if_neg hnumber] at hseed
      cases hseed

/-- All submissions under the driver's TaskID come from one Core. -/
def OneRoot (actions : List Action) : Prop := ∃ root, ∀ a ∈ actions, a.RootedAt root

namespace Sample

def driver : WorkerID := ⟨1⟩

def worker : WorkerID := ⟨2⟩

/-- A remainder of what the parts spell, which tells the inputs of small runs apart. -/
def remainder (input : DigestInput) : OpaqueValue :=
  Fin.ofNat (2 ^ 128)
    (BigEndian.value input.parts.flatten % (2 ^ 127 - 1) + input.domain.length)

def job : JobID := ⟨7⟩

def parent : TaskID := ⟨remainder (TaskID.deriveInput job (TaskID.forDriver remainder job) 0)⟩

/-- A Worker starts the Driver's task, whose code submits another one and puts. -/
def nestedRun : List Action :=
  [.startCore driver, .startCore worker, .registerSubmission driver none 1 true,
    .execute worker ⟨parent, 0⟩, .registerSubmission worker (some ⟨parent, 0⟩) 2 true,
    .putValue worker true, .submitActorCall driver true]

/-- The same task's code calls an Actor. -/
def callingRun : List Action :=
  [.startCore driver, .startCore worker, .registerSubmission driver none 1 true,
    .execute worker ⟨parent, 0⟩, .submitActorCall worker true]

theorem nestedRun_oneRoot : OneRoot nestedRun := ⟨driver, by decide⟩

theorem nestedRun_collisionFree :
    CollisionFree remainder ((Run.run (step remainder job) {} nestedRun).inputs remainder job) := by
  decide +kernel

theorem callingRun_collisionFree :
    CollisionFree remainder
      ((Run.run (step remainder job) {} callingRun).inputs remainder job) := by
  decide +kernel

theorem callingRun_collides :
    ¬ ((Run.run (step remainder job) {} callingRun).submissions.map Submission.taskId).Nodup := by
  decide +kernel

end Sample

end JobIdentities

end MiniRay
