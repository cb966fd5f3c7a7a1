import MiniRay.Identity.Submissions

/-! The invariant counts where each identity comes from. With it, equal TaskIDs have equal digest
inputs, and equal inputs have one origin when one Core makes all submissions outside tasks. -/

namespace MiniRay

namespace JobIdentities

variable {digest : Digest} {jobId : JobID} {s s' : JobState}

/-! ## Digest inputs -/

variable {m n : Nat}

theorem indexBytes_inj (hm : Uint64 m) (hn : Uint64 n)
    (h : Sha256.bigEndian 8 m = Sha256.bigEndian 8 n) : m = n := by
  have hbound : 2 ^ 64 = 256 ^ 8 := by decide
  exact Framing.bigEndian_inj (lt_of_lt_of_eq hm hbound) (lt_of_lt_of_eq hn hbound) h

theorem TaskID.bytes_inj {a b : TaskID} (h : a.value.bytes = b.value.bytes) : a = b := by
  cases a
  cases b
  exact congrArg TaskID.mk (OpaqueValue.bytes_inj h)

theorem WorkerID.bytes_inj {a b : WorkerID} (h : a.value.bytes = b.value.bytes) : a = b := by
  cases a
  cases b
  exact congrArg WorkerID.mk (OpaqueValue.bytes_inj h)

theorem deriveInput_inj {a b : TaskID} (hm : Uint64 m) (hn : Uint64 n)
    (h : TaskID.deriveInput jobId a m = TaskID.deriveInput jobId b n) : a = b ∧ m = n := by
  have hparts := congrArg DigestInput.parts h
  simp only [TaskID.deriveInput, List.cons.injEq, true_and, and_true] at hparts
  exact ⟨TaskID.bytes_inj hparts.1, indexBytes_inj hm hn hparts.2⟩

theorem putInput_inj {a b : WorkerID} (hm : Uint64 m) (hn : Uint64 n)
    (h : TaskID.putInput jobId a m = TaskID.putInput jobId b n) : a = b ∧ m = n := by
  have hparts := congrArg DigestInput.parts h
  simp only [TaskID.putInput, List.cons.injEq, true_and, and_true] at hparts
  exact ⟨WorkerID.bytes_inj hparts.1, indexBytes_inj hm hn hparts.2⟩

theorem driverInput_ne_deriveInput (parent : TaskID) (index : Nat) :
    TaskID.driverInput jobId ≠ TaskID.deriveInput jobId parent index := by
  intro h
  have hdomain : "driver-task" = "task" := congrArg DigestInput.domain h
  exact absurd hdomain (by decide)

theorem putInput_ne_deriveInput (owner : WorkerID) (m : Nat) (parent : TaskID) (n : Nat) :
    TaskID.putInput jobId owner m ≠ TaskID.deriveInput jobId parent n := by
  intro h
  have hdomain : "put" = "task" := congrArg DigestInput.domain h
  exact absurd hdomain (by decide)

theorem driverInput_ne_origin (o : Origin) :
    TaskID.driverInput jobId ≠ o.input digest jobId := by
  cases o with
  | root owner index => exact driverInput_ne_deriveInput _ index
  | nested attempt index => exact driverInput_ne_deriveInput _ index
  | put owner index =>
    intro h
    have hdomain : "driver-task" = "put" := congrArg DigestInput.domain h
    exact absurd hdomain (by decide)

/-! ## The invariant -/

def seed (digest : Digest) (jobId : JobID) (attempt : AttemptID) : TaskID :=
  ⟨digest (TaskID.deriveInput jobId attempt.taskId attempt.attemptNumber)⟩

/-- The counter of the origin went past it. -/
def Counted (s : JobState) : Origin → Prop
  | .root owner index =>
    Uint64 index ∧ ∃ core, s.cores.get? owner = some core ∧ index < core.submissionIndex
  | .nested attempt index => Uint64 index ∧ Uint64 attempt.attemptNumber ∧
      ∃ context, s.contexts.get? attempt = some context ∧ index < context.submissionIndex
  | .put owner index =>
    Uint64 index ∧ ∃ core, s.cores.get? owner = some core ∧ index < core.putIndex

structure Inv (digest : Digest) (jobId : JobID) (s : JobState) : Prop where
  counted : ∀ x ∈ s.submissions, Counted s x.origin
  taskId : ∀ x ∈ s.submissions, x.taskId = ⟨digest (x.origin.input digest jobId)⟩
  origins : (s.submissions.map Submission.origin).Nodup
  attempts : ∀ attempt context, s.contexts.get? attempt = some context →
    context.parentAttemptId = attempt
  parents : ∀ attempt context, s.contexts.get? attempt = some context →
    ∃ x ∈ s.submissions, x.taskId = attempt.taskId

theorem Inv.initial : Inv digest jobId {} := by
  refine ⟨?_, ?_, List.nodup_nil, ?_, ?_⟩
  · exact fun x hx => nomatch hx
  · exact fun x hx => nomatch hx
  · exact fun attempt context h => nomatch h
  · exact fun attempt context h => nomatch h

/-- Counters never go back, and no context disappears. -/
structure Grows (s s' : JobState) : Prop where
  cores : ∀ worker core, s.cores.get? worker = some core → ∃ next,
    s'.cores.get? worker = some next ∧ core.submissionIndex ≤ next.submissionIndex ∧
      core.putIndex ≤ next.putIndex
  contexts : ∀ attempt context, s.contexts.get? attempt = some context → ∃ next,
    s'.contexts.get? attempt = some next ∧ context.submissionIndex ≤ next.submissionIndex
  submissions : s.submissions ⊆ s'.submissions

theorem Grows.refl (s : JobState) : Grows s s :=
  ⟨fun _ core h => ⟨core, h, le_rfl, le_rfl⟩, fun _ context h => ⟨context, h, le_rfl⟩,
    List.Subset.refl _⟩

theorem Counted.mono (hgrows : Grows s s') {o : Origin} (h : Counted s o) : Counted s' o := by
  cases o with
  | root owner index =>
    obtain ⟨hbound, core, hcore, hless⟩ := h
    obtain ⟨next, hnext, hle, -⟩ := hgrows.cores owner core hcore
    exact ⟨hbound, next, hnext, by omega⟩
  | nested attempt index =>
    obtain ⟨hbound, hnumber, context, hcontext, hless⟩ := h
    obtain ⟨next, hnext, hle⟩ := hgrows.contexts attempt context hcontext
    exact ⟨hbound, hnumber, next, hnext, by omega⟩
  | put owner index =>
    obtain ⟨hbound, core, hcore, hless⟩ := h
    obtain ⟨next, hnext, -, hle⟩ := hgrows.cores owner core hcore
    exact ⟨hbound, next, hnext, by omega⟩

/-- A step counts, opens a context, or admits one submission that was not counted before. -/
structure StepSpec (digest : Digest) (jobId : JobID) (s s' : JobState) : Prop where
  grows : Grows s s'
  submissions : s'.submissions = s.submissions ∨ ∃ x, s'.submissions = s.submissions ++ [x] ∧
    x.taskId = ⟨digest (x.origin.input digest jobId)⟩ ∧ Counted s' x.origin ∧ ¬ Counted s x.origin
  attempts : ∀ attempt context, s'.contexts.get? attempt = some context →
    context.parentAttemptId = attempt
  /-- The parent of every context, the new one too, was admitted before. -/
  parents : ∀ attempt context, s'.contexts.get? attempt = some context →
    ∃ x ∈ s.submissions, x.taskId = attempt.taskId
  /-- The context of every submission, the new one too, was there before. -/
  nested : ∀ x ∈ s'.submissions, ∀ attempt index, x.origin = .nested attempt index →
    ∃ context, s.contexts.get? attempt = some context

theorem Inv.step (h : Inv digest jobId s) (hstep : StepSpec digest jobId s s') :
    Inv digest jobId s' := by
  refine ⟨?_, ?_, ?_, hstep.attempts, ?_⟩
  · intro x hx
    rcases hstep.submissions with hsame | ⟨y, hadded, -, hcounted, -⟩
    · rw [hsame] at hx
      exact (h.counted x hx).mono hstep.grows
    · rw [hadded, List.mem_append, List.mem_singleton] at hx
      rcases hx with hx | rfl
      · exact (h.counted x hx).mono hstep.grows
      · exact hcounted
  · intro x hx
    rcases hstep.submissions with hsame | ⟨y, hadded, htaskId, -, -⟩
    · rw [hsame] at hx
      exact h.taskId x hx
    · rw [hadded, List.mem_append, List.mem_singleton] at hx
      rcases hx with hx | rfl
      · exact h.taskId x hx
      · exact htaskId
  · rcases hstep.submissions with hsame | ⟨y, hadded, -, -, hfresh⟩
    · rw [hsame]
      exact h.origins
    · rw [hadded, List.map_append, List.map_singleton, List.nodup_append]
      refine ⟨h.origins, List.nodup_singleton _, ?_⟩
      intro o ho o' ho' heq
      obtain ⟨x, hx, hxo⟩ := List.mem_map.mp ho
      rw [List.mem_singleton] at ho'
      apply hfresh
      rw [← ho', ← heq, ← hxo]
      exact h.counted x hx
  · intro attempt context hcontext
    obtain ⟨x, hx, htask⟩ := hstep.parents attempt context hcontext
    exact ⟨x, hstep.grows.submissions hx, htask⟩

/-! ## Every step meets it -/

theorem StepSpec.refl (h : Inv digest jobId s) : StepSpec digest jobId s s := by
  refine ⟨.refl s, .inl rfl, h.attempts, h.parents, ?_⟩
  intro x hx attempt index horigin
  have hcounted := h.counted x hx
  rw [horigin] at hcounted
  obtain ⟨-, -, context, hcontext, -⟩ := hcounted
  exact ⟨context, hcontext⟩

theorem StepSpec.admitIf {t : JobState} (h : Inv digest jobId s) (hgrows : Grows s t)
    (hsame : t.submissions = s.submissions)
    (hattempts : ∀ attempt context, t.contexts.get? attempt = some context →
      context.parentAttemptId = attempt ∧ ∃ old, s.contexts.get? attempt = some old)
    (admitted : Bool) {x : Submission} (htaskId : x.taskId = ⟨digest (x.origin.input digest jobId)⟩)
    (hcounted : Counted t x.origin) (hfresh : ¬ Counted s x.origin) :
    StepSpec digest jobId s (t.admitIf admitted x) := by
  have hcores : (t.admitIf admitted x).cores = t.cores := by cases admitted <;> rfl
  have hcontexts : (t.admitIf admitted x).contexts = t.contexts := by cases admitted <;> rfl
  have hsubmissions : (t.admitIf admitted x).submissions = s.submissions ∨
      (t.admitIf admitted x).submissions = s.submissions ++ [x] := by
    cases admitted with
    | false => exact .inl hsame
    | true => exact .inr (congrArg (· ++ [x]) hsame)
  have hsub : s.submissions ⊆ (t.admitIf admitted x).submissions := by
    rcases hsubmissions with h | h
    · rw [h]
      exact List.Subset.refl _
    · rw [h]
      exact List.subset_append_left _ _
  have hmore : Grows t (t.admitIf admitted x) := by
    refine ⟨?_, ?_, ?_⟩
    · rw [hcores]
      exact (Grows.refl t).cores
    · rw [hcontexts]
      exact (Grows.refl t).contexts
    · rw [hsame]
      exact hsub
  refine ⟨⟨?_, ?_, hsub⟩, ?_, ?_, ?_, ?_⟩
  · rw [hcores]
    exact hgrows.cores
  · rw [hcontexts]
    exact hgrows.contexts
  · rcases hsubmissions with h | h
    · exact .inl h
    · exact .inr ⟨x, h, htaskId, hcounted.mono hmore, hfresh⟩
  · intro attempt context hcontext
    rw [hcontexts] at hcontext
    exact (hattempts attempt context hcontext).1
  · intro attempt context hcontext
    rw [hcontexts] at hcontext
    obtain ⟨-, old, hold⟩ := hattempts attempt context hcontext
    exact h.parents attempt old hold
  · intro y hy attempt index horigin
    have hy : y ∈ s.submissions ∨ y = x := by
      rcases hsubmissions with h | h
      · rw [h] at hy
        exact .inl hy
      · rw [h, List.mem_append, List.mem_singleton] at hy
        exact hy
    rcases hy with hy | rfl
    · exact (StepSpec.refl h).nested y hy attempt index horigin
    · rw [horigin] at hcounted
      obtain ⟨-, -, context, hcontext, -⟩ := hcounted
      exact (hattempts attempt context hcontext).2

theorem Grows.setCore {worker : WorkerID} {core next : CoreCounters}
    (hcore : s.cores.get? worker = some core) (hsub : core.submissionIndex ≤ next.submissionIndex)
    (hput : core.putIndex ≤ next.putIndex) :
    Grows s { s with cores := s.cores.set worker next } := by
  refine ⟨?_, (Grows.refl s).contexts, List.Subset.refl _⟩
  intro other old hold
  change ∃ n, (s.cores.set worker next).get? other = some n ∧ _
  by_cases hsame : worker = other
  · subst hsame
    rw [hcore] at hold
    cases hold
    exact ⟨next, Dict.get?_set_self .., hsub, hput⟩
  · rw [Dict.get?_set_of_ne _ _ hsame]
    exact ⟨old, hold, le_rfl, le_rfl⟩

theorem submitRoot_spec (h : Inv digest jobId s) (worker : WorkerID) (kind : Kind)
    (numReturns : Nat) (admitted : Bool) :
    StepSpec digest jobId s (submitRoot digest jobId s worker kind numReturns admitted) := by
  simp only [submitRoot]
  cases hcore : s.cores.get? worker with
  | none => exact .refl h
  | some core =>
    let next := { core with submissionIndex := core.submissionIndex + 1 }
    have hgrows : Grows s { s with cores := s.cores.set worker next } :=
      .setCore hcore (Nat.le_succ _) le_rfl
    simp only [TaskID.derive]
    by_cases hbound : Uint64 core.submissionIndex
    · simp only [if_pos hbound]
      refine StepSpec.admitIf h hgrows rfl ?_ admitted ?_ ?_ ?_
      · exact fun attempt context hcontext =>
          ⟨h.attempts attempt context hcontext, context, hcontext⟩
      · rfl
      · exact ⟨hbound, _, Dict.get?_set_self .., Nat.lt_succ_self _⟩
      · intro hcounted
        obtain ⟨-, other, hother, hless⟩ := hcounted
        rw [hcore] at hother
        cases hother
        omega
    · simp only [if_neg hbound]
      exact .refl h

theorem putValue_spec (h : Inv digest jobId s) (worker : WorkerID) (admitted : Bool) :
    StepSpec digest jobId s (putValue digest jobId s worker admitted) := by
  simp only [putValue]
  cases hcore : s.cores.get? worker with
  | none => exact .refl h
  | some core =>
    have hgrows : Grows s { s with
        cores := s.cores.set worker { core with putIndex := core.putIndex + 1 } } :=
      .setCore hcore le_rfl (Nat.le_succ _)
    simp only [TaskID.forPut]
    by_cases hbound : Uint64 core.putIndex
    · simp only [if_pos hbound]
      refine StepSpec.admitIf h hgrows rfl ?_ admitted ?_ ?_ ?_
      · exact fun attempt context hcontext =>
          ⟨h.attempts attempt context hcontext, context, hcontext⟩
      · rfl
      · exact ⟨hbound, _, Dict.get?_set_self .., Nat.lt_succ_self _⟩
      · intro hcounted
        obtain ⟨-, other, hother, hless⟩ := hcounted
        rw [hcore] at hother
        cases hother
        omega
    · simp only [if_neg hbound]
      have hstay := StepSpec.refl h
      exact ⟨hgrows, .inl rfl, hstay.attempts, hstay.parents, hstay.nested⟩

variable {next : ExecutionContext}

theorem Grows.setContext {attempt : AttemptID}
    (hold : ∀ old, s.contexts.get? attempt = some old →
      old.submissionIndex ≤ next.submissionIndex) :
    Grows s { s with contexts := s.contexts.set attempt next } := by
  refine ⟨(Grows.refl s).cores, ?_, List.Subset.refl _⟩
  intro other old hother
  change ∃ n, (s.contexts.set attempt next).get? other = some n ∧ _
  by_cases hsame : attempt = other
  · subst hsame
    exact ⟨next, Dict.get?_set_self .., hold old hother⟩
  · rw [Dict.get?_set_of_ne _ _ hsame]
    exact ⟨old, hother, le_rfl⟩

theorem nextTaskId_some {context : ExecutionContext} {taskId : TaskID}
    (h : context.nextTaskId digest jobId = some (taskId, next)) :
    Uint64 context.parentAttemptId.attemptNumber ∧ Uint64 context.submissionIndex ∧
      taskId = ⟨digest (TaskID.deriveInput jobId (seed digest jobId context.parentAttemptId)
        context.submissionIndex)⟩ ∧
      next = { context with submissionIndex := context.submissionIndex + 1 } := by
  simp only [ExecutionContext.nextTaskId, ExecutionContext.attemptParent, TaskID.derive] at h
  by_cases hnumber : Uint64 context.parentAttemptId.attemptNumber
  · simp only [if_pos hnumber] at h
    by_cases hbound : Uint64 context.submissionIndex
    · simp only [if_pos hbound, Option.some.injEq, Prod.mk.injEq] at h
      refine ⟨hnumber, hbound, ?_, h.2.symm⟩
      rw [← h.1, seed, context.belongs]
    · simp [if_neg hbound] at h
  · simp [if_neg hnumber] at h

theorem registerSubmission_spec (h : Inv digest jobId s) (worker : WorkerID)
    (context : Option AttemptID) (numReturns : Nat) (admitted : Bool) :
    StepSpec digest jobId s
      (registerSubmission digest jobId s worker context numReturns admitted) := by
  cases context with
  | none => exact submitRoot_spec h worker .task numReturns admitted
  | some attempt =>
    simp only [registerSubmission]
    cases hcontext : s.contexts.get? attempt with
    | none => exact .refl h
    | some context =>
      simp only []
      by_cases hworker : context.coreWorker ≠ worker
      · rw [if_pos hworker]
        exact .refl h
      rw [if_neg hworker]
      cases hnext : context.nextTaskId digest jobId with
      | none => exact .refl h
      | some next =>
        obtain ⟨taskId, next⟩ := next
        obtain ⟨hnumber, hbound, htaskId, hcount⟩ := nextTaskId_some hnext
        have hattempt := h.attempts attempt context hcontext
        rw [hattempt] at hnumber htaskId
        have hgrows : Grows s { s with contexts := s.contexts.set attempt next } := by
          apply Grows.setContext
          intro old hold
          rw [hcontext] at hold
          cases hold
          rw [hcount]
          exact Nat.le_succ _
        refine StepSpec.admitIf h hgrows rfl ?_ admitted htaskId ?_ ?_
        · intro other found hfound
          change (s.contexts.set attempt next).get? other = some found at hfound
          rcases Dict.of_get?_set hfound with ⟨rfl, rfl⟩ | hfound
          · exact ⟨by rw [hcount]; exact hattempt, context, hcontext⟩
          · exact ⟨h.attempts other found hfound, found, hfound⟩
        · refine ⟨hbound, hnumber, next, Dict.get?_set_self .., ?_⟩
          rw [hcount]
          exact Nat.lt_succ_self _
        · intro hcounted
          obtain ⟨-, -, other, hother, hless⟩ := hcounted
          rw [hcontext] at hother
          cases hother
          omega

theorem execute_spec (h : Inv digest jobId s) (worker : WorkerID) (attempt : AttemptID) :
    StepSpec digest jobId s (execute s worker attempt) := by
  simp only [execute]
  cases hcore : s.cores.get? worker with
  | none => exact .refl h
  | some core =>
    cases hnew : s.contexts.get? attempt with
    | some context => exact .refl h
    | none =>
      simp only []
      by_cases hparent : ∃ x ∈ s.submissions, x.kind = .task ∧ x.taskId = attempt.taskId
      · rw [if_pos hparent]
        have hstay := StepSpec.refl h
        refine ⟨.setContext ?_, .inl rfl, ?_, ?_, hstay.nested⟩
        · intro old hold
          rw [hnew] at hold
          cases hold
        · intro other context hcontext
          rcases Dict.of_get?_set hcontext with ⟨rfl, rfl⟩ | hcontext
          · rfl
          · exact h.attempts other context hcontext
        · intro other context hcontext
          rcases Dict.of_get?_set hcontext with ⟨rfl, _⟩ | hcontext
          · obtain ⟨x, hx, -, htask⟩ := hparent
            exact ⟨x, hx, htask⟩
          · exact h.parents other context hcontext
      · rw [if_neg hparent]
        exact .refl h

theorem startCore_spec (h : Inv digest jobId s) (worker : WorkerID) :
    StepSpec digest jobId s (startCore s worker) := by
  simp only [startCore]
  cases hcore : s.cores.get? worker with
  | some core => exact .refl h
  | none =>
    have hstay := StepSpec.refl h
    refine ⟨⟨?_, (Grows.refl s).contexts, List.Subset.refl _⟩, .inl rfl, hstay.attempts,
      hstay.parents, hstay.nested⟩
    intro other old hold
    exact ⟨old, Dict.get?_set_kept hcore hold, le_rfl, le_rfl⟩

theorem step_spec (h : Inv digest jobId s) (a : Action) :
    StepSpec digest jobId s (step digest jobId s a) := by
  cases a with
  | startCore worker => exact startCore_spec h worker
  | registerSubmission worker context numReturns admitted =>
    exact registerSubmission_spec h worker context numReturns admitted
  | submitActorCall worker admitted => exact submitRoot_spec h worker .actorCall 1 admitted
  | putValue worker admitted => exact putValue_spec h worker admitted
  | execute worker attempt => exact execute_spec h worker attempt

end JobIdentities

end MiniRay
