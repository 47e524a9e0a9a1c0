import PaperGrading.Store.Commits

/-!
# Items of cancelled batches

A cancellation moves the items that wait at that moment.  An item that is being graded
goes on, and when its attempt fails with the action `retry`, `finish_failure` queues
it again without a look at the job: the item then waits in a cancelled batch, where no
worker claims it and no teacher action reaches it.  That is the only way there.

    no retry in a cancelled job along the run → every cancelled batch is settled       (after_settled)
    a committed retry in a cancelled job leaves an item waiting there             (step_unsettled)
-/

namespace PaperGrading

namespace Store

open Table

variable {env : Runtime} {R : GradingJob → GradingAttemptFailure → Prop}
  {keep : RubricVersion → Prop} {s s' : Store}

/-! ## Definitions -/

/-- The action queues an item of a cancelled job again. -/
def requeuesCancelled (s : Store) : Action env → Prop
  | .finishFailure claim f _ => f.action = .retry ∧ ∃ job item attempt,
      s.lockClaimed claim = .ok (job, item, attempt) ∧ job.status = .cancelled
  | _ => False

/-- Some action moves the item on. -/
def Movable (env : Runtime) (s : Store) (i : GradingJobItem) : Prop :=
  ∃ a : Action env, ∃ i' ∈ (step env s a).items, i'.id = i.id ∧ i'.status ≠ i.status

/-- Cancelled batches have come to rest, and nothing that waits is stuck. -/
structure Settled (env : Runtime) (s : Store) : Prop where
  waiting : ∀ j ∈ s.jobs, j.status = .cancelled → ∀ i ∈ s.items, i.gradingJobId = j.id →
    i.status ≠ .queued
  resting : ∀ j ∈ s.jobs, j.status = .cancelled → ∀ i ∈ s.items, i.gradingJobId = j.id →
    i.status ≠ .running → i.status = .cancelled ∨ i.status = .failed ∨ i.status = .needsReview ∨
      i.status = .completed
  movable : ∀ i ∈ s.items, i.status = .queued → Movable env s i

/-! ## Nothing waits in a cancelled batch -/

/-- Every cancelled batch is finished, in the sense of `Batch`. -/
def AllFinished (s : Store) : Prop := ∀ j ∈ s.jobs, (s.batch j).Finished

/-- A failure that is not a retry in a cancelled job. -/
def keepsCancelled (job : GradingJob) (f : GradingAttemptFailure) : Prop :=
  f.action = .retry → job.status ≠ .cancelled

theorem failureIs_of_not_requeuesCancelled {a : Action env} (h : ¬s.requeuesCancelled a) :
    FailureIs keepsCancelled s a := by
  cases a with
  | finishFailure claim f clock =>
    exact fun job item attempt hlock hretry hc => h ⟨hretry, job, item, attempt, hlock, hc⟩
  | _ => trivial

theorem step_finished {a : Action env} (hw : WellFormed env s) (h : s.AllFinished)
    (ha : ¬s.requeuesCancelled a) : (step env s a).AllFinished :=
  step_invariant hw (failureIs_of_not_requeuesCancelled ha) (fun _ (hr : False) => hr.elim)
    (fun _ _ ht hm hf => hm.batches (· ≠ .cancelled) ht (fun _ _ hR => hR)
      (fun _ => Batch.Fresh.finished) (fun _ _ => Batch.Step.finished fun hne => hne rfl) hf) h

theorem after_finished {as : List (Action env)}
    (h : Runs.Guarded (step env) (fun s a => ¬s.requeuesCancelled a) empty as) :
    (after env as).AllFinished :=
  (Runs.run_invariant_of_guarded (P := fun s => WellFormed env s ∧ s.AllFinished)
    ⟨wellFormed_empty, by simp [AllFinished, empty]⟩ h fun _ a hs ha =>
      ⟨step_wellFormed hs.1 a, step_finished hs.1 hs.2 ha⟩).2

/-! ## Nothing that waits is stuck -/

/-- An item that waits in an open batch is moved by its cancellation. -/
theorem movable_of_open (hw : WellFormed env s) {j : GradingJob} (hj : j ∈ s.jobs)
    (hopen : j.status = .queued ∨ j.status = .running ∨ j.status = .paused) {i : GradingJobItem}
    (hi : i ∈ s.items) (hij : i.gradingJobId = j.id) (hq : i.status = .queued) :
    Movable env s i := by
  obtain ⟨j', hj', hid, hown, -⟩ := hw.refs.items i hi
  rw [eq_of_key_eq hw.sound.keys.jobs hj' hj (hid.trans hij)] at hown
  have hok : s.exec env (.controlGradingJob (some j.ownerId) j.id .cancel 0) = .ok { s with
      items := setWhere (cancellable j) (cancelItem 0) s.items
      jobs := replaceRow (·.id) j (cancelJob 0 j) s.jobs } := by
    rw [exec, cancel_ok hw hj hopen 0]
    rfl
  refine ⟨.controlGradingJob (some j.ownerId) j.id .cancel 0, cancelItem 0 i, ?_, rfl, ?_⟩
  · rw [step_of_ok hok]
    exact mem_setWhere.2 (.inl ⟨i, hi, by simp [cancellable, hij, hown, hq], rfl⟩)
  · simp [cancelItem, hq]

theorem settled_of_finished (hw : WellFormed env s) (hc : ∀ j ∈ s.jobs, (s.batch j).Consistent)
    (hf : s.AllFinished) : Settled env s := by
  have hwaiting : ∀ j ∈ s.jobs, j.status = .cancelled → ∀ i ∈ s.items, i.gradingJobId = j.id →
      i.status ≠ .queued := fun j hj hst i hi hij hq => hf j hj hst ⟨i, hi, hij, hq⟩
  refine ⟨hwaiting, fun j hj hst i hi hij hr => ?_, fun i hi hq => ?_⟩
  · have := hwaiting j hj hst i hi hij
    cases h : i.status <;> simp_all
  · obtain ⟨j, hj, hij, -⟩ := hw.refs.items i hi
    have hne : j.status ≠ .cancelled := fun hst => hwaiting j hj hst i hi hij.symm hq
    exact movable_of_open hw hj (((hc j hj).open_iff hne).2 (.inl ⟨i, hi, hij.symm, hq⟩)) hi
      hij.symm hq

/-- **Cancelled batches come to rest**: along a run that never retries in a cancelled job. -/
theorem after_settled (as : List (Action env))
    (h : Runs.Guarded (step env) (fun s a => ¬s.requeuesCancelled a) empty as) :
    Settled env (after env as) :=
  settled_of_finished (after_wellFormed as) (after_consistent as) (after_finished h)

theorem after_settled_failed : Settled sampleRuntime (after sampleRuntime (Sample.setup ++
    [.claimAttempt Sample.preparation 0 ⟨1, 1⟩ 8 9,
     .controlGradingJob (some Sample.teacher) Sample.job .cancel 2,
     .finishFailure Sample.firstClaim { Sample.notSent with action := .failed } ⟨3, 3⟩])) :=
  after_settled _ (by simp [Sample.setup, Runs.Guarded, requeuesCancelled])

/-! ## A paper that waits for ever -/

/-- The condition is exact: a retry in a cancelled job, once committed, leaves its item waiting. -/
theorem step_unsettled {a : Action env} (hw : WellFormed env s) (ha : s.requeuesCancelled a)
    (hok : s.exec env a = .ok s') : ¬Settled env (step env s a) := by
  cases a with
  | finishFailure claim f clock =>
    obtain ⟨hretry, job, item, attempt, hlock, hc⟩ := ha
    obtain ⟨job', item', attempt', usage, hlock', h⟩ :=
      finishFailure_closed (R := fun _ _ => True) hw.sound.keys (fun _ _ _ _ => trivial) hok
    rw [hlock] at hlock'
    cases hlock'
    rw [step_of_ok hok]
    intro hsettled
    refine hsettled.waiting (reconciledJob (s'.itemStatuses job.id) clock.worker job) ?_ ?_
      (failItem f clock.worker item) ?_ ?_ ?_
    · rw [congrArg Store.jobs h.eq]
      exact (mem_replaceRow h.job_mem).2 (.inl rfl)
    · rw [reconciledJob_status, hc, reconciledStatus, if_neg fun hn => hn.1 rfl]
    · rw [congrArg Store.items h.eq]
      exact (mem_replaceRow h.item_mem).2 (.inl rfl)
    · have hid := congrArg ItemIdentity.gradingJobId (itemUpdateCheck_identity h.item_check)
      have hjob := congrArg JobSnapshot.id (jobUpdateCheck_snapshot h.job_check)
      exact (hid.trans h.item_job).trans hjob.symm
    · rw [failItem, hretry]
      rfl
  | _ => exact ha.elim

end Store

namespace Sample

open Store Table

/-- The batch is cancelled while its only paper is being graded. -/
def midCall : List (Action sampleRuntime) :=
  setup ++ [.claimAttempt preparation 0 ⟨1, 1⟩ 8 9] ++
    [.controlGradingJob (some teacher) job .cancel 2]

def cancelled : Store := { claimed with jobs := [cancelJob 2 (claimJob 1 jobRow)] }

theorem after_midCall : after sampleRuntime midCall = cancelled := by
  have hw : WellFormed sampleRuntime claimed := after_claimed ▸ after_wellFormed _
  have hjob : claimJob 1 jobRow ∈ claimed.jobs := List.mem_singleton.2 rfl
  have h := cancel_ok hw hjob (.inr (.inl rfl)) 2
  rw [midCall, after_concat, after_claimed]
  refine step_of_ok (map_snd_eq_ok.2 ⟨some job, h.trans ?_⟩)
  rw [show claimed.jobs = [claimJob 1 jobRow] from rfl, replaceRow_singleton]
  rfl

/-- Its call fails safely: the paper is queued again, in the cancelled batch. -/
theorem midCall_unsettled :
    ¬∀ as : List (Action sampleRuntime), Settled sampleRuntime (after sampleRuntime as) := by
  intro h
  have hs : Steady sampleRuntime cancelled := after_midCall ▸ after_steady midCall
  have hlock : cancelled.lockClaimed firstClaim = .ok (cancelJob 2 (claimJob 1 jobRow),
      claimItem 1 9 snapshot.timeoutSeconds itemRow, ready.claimedAttempt preparation itemRow 0 1 8) :=
    rfl
  have hok : cancelled.finishFailure firstClaim notSent ⟨3, 3⟩ = .ok _ :=
    (finishFailure_ok hs hlock (by simp [notSent])).2
      ⟨_, rfl, by decide +kernel, by decide +kernel, rfl⟩
  have hrequeues : cancelled.requeuesCancelled (.finishFailure firstClaim notSent ⟨3, 3⟩ :
      Action sampleRuntime) := ⟨rfl, _, _, _, hlock, rfl⟩
  have hsettled := h (midCall ++ [.finishFailure firstClaim notSent ⟨3, 3⟩])
  rw [after_concat, after_midCall] at hsettled
  exact step_unsettled hs.wellFormed hrequeues hok hsettled

end Sample

end PaperGrading
