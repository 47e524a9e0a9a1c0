import PaperGrading.Abstract.Batch
import PaperGrading.Store.Confirmation

/-!
# Every job row is a batch

The job table refines `Batch`: whatever a transaction does, each job and the statuses
of its items make one abstract step or stay (`Move.batch_step`).  So in every
reachable store the status of a job describes its items, and an item runs exactly
while one attempt of it does.

    s.batch j → s'.batch j' is a Batch.Step, or nothing, or j' is new       (Move.batch_step)
    (s.batch j).Consistent for every job of a reachable store                (after_consistent)
    i.status = .running ↔ some attempt of i is running                           (after_leased)
-/

namespace PaperGrading

namespace Store

open Table

variable {env : Runtime} {R : GradingJob → GradingAttemptFailure → Prop}
  {keep : RubricVersion → Prop} {s s' : Store}

/-! ## Definitions -/

/-- Some item of the job is in the status. -/
def hasStatus (s : Store) (jobId : Uuid) (st : ItemStatus) : Prop :=
  ∃ i ∈ s.items, i.gradingJobId = jobId ∧ i.status = st

/-- The batch of a job row. -/
def batch (s : Store) (j : GradingJob) : Batch := ⟨j.status, s.hasStatus j.id⟩

/-- What a move does to a job: a fresh batch, a step of an old one, or nothing. -/
def BatchMoved (requeue : JobStatus → Prop) (s s' : Store) (j' : GradingJob) : Prop :=
  (s'.batch j').Fresh ∨ ∃ j ∈ s.jobs, j'.id = j.id ∧
    (s'.batch j' = s.batch j ∨ Batch.Step requeue (s.batch j) (s'.batch j'))

/-! ## Moves of one job -/

theorem hasStatus_congr {jobId : Uuid}
    (h : ∀ i, i.gradingJobId = jobId → (i ∈ s'.items ↔ i ∈ s.items)) :
    s'.hasStatus jobId = s.hasStatus jobId := by
  funext st
  refine propext ⟨?_, ?_⟩
  · rintro ⟨i, hi, hij, hst⟩
    exact ⟨i, (h i hij).1 hi, hij, hst⟩
  · rintro ⟨i, hi, hij, hst⟩
    exact ⟨i, (h i hij).2 hi, hij, hst⟩

theorem batch_of_id {j j' : GradingJob} (hid : j'.id = j.id) :
    s.batch j' = ⟨j'.status, s.hasStatus j.id⟩ := by
  rw [batch, hid]

/-- Writing one job and items of it only: the other batches are as before. -/
theorem batchMoved_of_job {requeue : JobStatus → Prop} {job job' : GradingJob} (hjob : job ∈ s.jobs)
    (hjobs : s'.jobs = replaceRow (·.id) job job' s.jobs) (hid : job'.id = job.id)
    (hother : ∀ i, i.gradingJobId ≠ job.id → (i ∈ s'.items ↔ i ∈ s.items))
    (hstep : Batch.Step requeue (s.batch job) ⟨job'.status, s'.hasStatus job.id⟩) :
    ∀ j' ∈ s'.jobs, BatchMoved requeue s s' j' := by
  intro j hj
  rw [hjobs] at hj
  rcases (mem_replaceRow hjob).1 hj with rfl | ⟨hj, hne⟩
  · refine .inr ⟨job, hjob, hid, .inr ?_⟩
    rw [batch_of_id hid]
    exact hstep
  · refine .inr ⟨j, hj, rfl, .inl ?_⟩
    rw [batch, batch, hasStatus_congr fun i hij => hother i (hij ▸ hne)]

theorem mem_replaceItem_other {item item' i : GradingJobItem} (hk : s.Keys) (hitem : item ∈ s.items)
    (hid : item'.toItemIdentity = item.toItemIdentity) (hne : i.gradingJobId ≠ item.gradingJobId) :
    i ∈ replaceRow (·.id) item item' s.items ↔ i ∈ s.items := by
  rw [mem_replaceRow hitem]
  constructor
  · rintro (rfl | ⟨hi, -⟩)
    · exact absurd (congrArg ItemIdentity.gradingJobId hid) hne
    · exact hi
  · intro hi
    refine .inr ⟨hi, fun he => hne ?_⟩
    rw [eq_of_key_eq hk.items hi hitem he]

theorem hasStatus_replaceItem {item item' : GradingJobItem} (hitem : item ∈ s.items)
    (hitems : s'.items = replaceRow (·.id) item item' s.items) {jobId : Uuid} (st : ItemStatus)
    (h : s'.hasStatus jobId st) : s.hasStatus jobId st ∨ st = item'.status := by
  obtain ⟨i, hi, hij, rfl⟩ := h
  rw [hitems, mem_replaceRow hitem] at hi
  rcases hi with rfl | ⟨hi, -⟩
  · exact .inr rfl
  · exact .inl ⟨i, hi, hij, rfl⟩

theorem hasStatus_replaced {item item' : GradingJobItem} {job : GradingJob} (hitem : item ∈ s.items)
    (hitems : s'.items = replaceRow (·.id) item item' s.items)
    (hid : item'.toItemIdentity = item.toItemIdentity) (hij : item.gradingJobId = job.id) :
    s'.hasStatus job.id item'.status := by
  refine ⟨item', ?_, (congrArg ItemIdentity.gradingJobId hid).trans hij, rfl⟩
  rw [hitems, mem_replaceRow hitem]
  exact .inl rfl

/-- The transition trigger never lets a job leave `cancelled`. -/
theorem jobUpdateCheck_ne_cancelled {old new : GradingJob} (h : jobUpdateCheck old new = .ok ())
    (hnew : new.status ≠ .cancelled) : old.status ≠ .cancelled := by
  obtain ⟨-, hmove, -⟩ := jobUpdateCheck_eq_ok.1 h
  intro he
  rw [he] at hmove
  revert hnew hmove
  cases new.status <;> decide

theorem reconciledJob_status (statuses : List ItemStatus) (now : Time) (j : GradingJob) :
    (reconciledJob statuses now j).status = reconciledStatus j.status statuses := by
  unfold reconciledJob
  split
  · rfl
  next h => rw [reconciledStatus, if_neg h]

theorem closing_item_status {now : Time} {job : GradingJob} {attempt attempt' : GradingAttempt}
    {item item' : GradingJobItem} (h : Closing R now job attempt item attempt' item') :
    item'.status = .queued ∨ item'.status = .needsReview ∨ item'.status = .failed := by
  cases h with
  | succeeded => exact .inr (.inl rfl)
  | failed f =>
    unfold failItem
    cases f.action with
    | retry => exact .inl rfl
    | needsReview => exact .inr (.inl rfl)
    | failed => exact .inr (.inr rfl)
  | expired => exact .inr (.inl rfl)

/-- Only a failure that asks for a retry queues an item again. -/
theorem closing_requeue {requeue : JobStatus → Prop} {now : Time} {job : GradingJob}
    {attempt attempt' : GradingAttempt} {item item' : GradingJobItem}
    (hR : ∀ j f, R j f → f.action = .retry → requeue j.status)
    (h : Closing R now job attempt item attempt' item') (hq : item'.status = .queued) :
    requeue job.status := by
  cases h with
  | succeeded => cases hq
  | failed f _ hf =>
    refine hR job f hf ?_
    unfold failItem at hq
    cases ha : f.action with
    | retry => rfl
    | needsReview => rw [ha] at hq; cases hq
    | failed => rw [ha] at hq; cases hq
  | expired => cases hq

theorem claimJob_status {now : Time} {j : GradingJob} (h : j.status = .queued ∨ j.status = .running) :
    (claimJob now j).status = .running := by
  unfold claimJob
  rcases h with h | h <;> simp [h]

/-! ## Confirmation: several jobs at once -/

/-- The job row of a confirmation is one of four. -/
theorem closedJob_cases (items : List GradingJobItem) (teacherId : Uuid) (now : Time)
    (j : GradingJob) :
    closedJob items teacherId now j = reviewedJob true now j ∨
      closedJob items teacherId now j = reviewedJob false now j ∨
      (j.status = .paused ∧ closedJob items teacherId now j =
        { reviewedJob false now j with status := .paused }) ∨
      (j.status ≠ .paused ∧ closedJob items teacherId now j =
        { reviewedJob false now j with
          status := .running, startedAt := j.startedAt.or (some now) }) := by
  unfold closedJob
  cases (!items.any fun i => i.gradingJobId == j.id && i.ownerId == teacherId &&
      i.status != .completed) with
  | true => exact .inl (preserveActiveJobStatus_of_ne (by simp [reviewedJob]))
  | false =>
    unfold preserveActiveJobStatus
    split
    · split
      next hp => exact .inr (.inr (.inl ⟨hp, rfl⟩))
      next hp => exact .inr (.inr (.inr ⟨hp, rfl⟩))
    · exact .inr (.inl rfl)

/-- No confirmation cancels a job. -/
theorem closedJob_ne_cancelled (items : List GradingJobItem) (teacherId : Uuid) (now : Time)
    (j : GradingJob) : (closedJob items teacherId now j).status ≠ .cancelled := by
  rcases closedJob_cases items teacherId now j with h | h | ⟨-, h⟩ | ⟨-, h⟩ <;> rw [h] <;>
    simp [reviewedJob]

/-- The status a confirmation leaves behind, in terms of the items as they are then. -/
theorem closedJob_status {items : List GradingJobItem} {j : GradingJob} (now : Time)
    (howner : ∀ i ∈ items, i.gradingJobId = j.id → i.ownerId = j.ownerId) :
    ((closedJob items j.ownerId now j).status = .completed ∧
        ∀ i ∈ items, i.gradingJobId = j.id → i.status = .completed) ∨
      ((closedJob items j.ownerId now j).status = .needsReview ∧
        ∀ i ∈ items, i.gradingJobId = j.id → i.isActive = false) ∨
      (((closedJob items j.ownerId now j).status = .running ∨
          (closedJob items j.ownerId now j).status = .paused) ∧
        ∃ i ∈ items, i.gradingJobId = j.id ∧ i.isActive = true) := by
  unfold closedJob reviewedJob
  by_cases hall : (items.any fun i => i.gradingJobId == j.id && i.ownerId == j.ownerId &&
      i.status != .completed) = true
  · rw [hall, if_neg (by simp)]
    unfold preserveActiveJobStatus
    by_cases hactive : (items.any fun i => i.gradingJobId == j.id && i.ownerId == j.ownerId &&
        i.isActive) = true
    · right; right
      obtain ⟨i, hi, hq⟩ := List.any_eq_true.1 hactive
      simp only [Bool.and_eq_true, beq_iff_eq] at hq
      rw [if_pos ⟨rfl, hactive⟩]
      refine ⟨?_, i, hi, hq.1.1, hq.2⟩
      split
      · exact .inr rfl
      · exact .inl rfl
    · right; left
      rw [if_neg fun h => hactive h.2]
      refine ⟨rfl, fun i hi hij => ?_⟩
      rw [Bool.not_eq_true, List.any_eq_false] at hactive
      simpa [hij, howner i hi hij] using hactive i hi
  · left
    rw [Bool.not_eq_true] at hall
    rw [hall, if_pos (by simp), preserveActiveJobStatus_of_ne (by simp)]
    refine ⟨rfl, fun i hi hij => ?_⟩
    rw [List.any_eq_false] at hall
    simpa [hij, howner i hi hij] using hall i hi

theorem isActive_iff {i : GradingJobItem} :
    i.isActive = true ↔ i.status = .queued ∨ i.status = .running := by
  simp [GradingJobItem.isActive]

theorem active_hasStatus {jobId : Uuid} {status : JobStatus} :
    Batch.Active ⟨status, s.hasStatus jobId⟩ ↔
      ∃ i ∈ s.items, i.gradingJobId = jobId ∧ i.isActive = true := by
  unfold Batch.Active hasStatus
  constructor
  · rintro (⟨i, hi, hij, hst⟩ | ⟨i, hi, hij, hst⟩)
    · exact ⟨i, hi, hij, isActive_iff.2 (.inl hst)⟩
    · exact ⟨i, hi, hij, isActive_iff.2 (.inr hst)⟩
  · rintro ⟨i, hi, hij, hst⟩
    rcases isActive_iff.1 hst with hst | hst
    · exact .inl ⟨i, hi, hij, hst⟩
    · exact .inr ⟨i, hi, hij, hst⟩

theorem Confirmed.batch_step {requeue : JobStatus → Prop} {teacherId : Uuid}
    {refs : List (Uuid × Nat)} {now : Time} (hw : WellFormed env s) (hw' : WellFormed env s')
    (h : Confirmed s s' teacherId refs now) : ∀ j' ∈ s'.jobs, BatchMoved requeue s s' j' := by
  intro j' hj'
  have hjobs : s'.jobs = setWhere (s.confirmedJob teacherId refs) (closedJob s'.items teacherId now)
      s.jobs := congrArg Store.jobs h.eq
  have hitems : s'.items = setWhere (s.reviewedItem teacherId refs) (completeItem now) s.items :=
    congrArg Store.items h.eq
  rw [hjobs] at hj'
  rcases mem_setWhere.1 hj' with ⟨j, hj, hhit, rfl⟩ | ⟨hj, hmiss⟩
  · -- a job with a completed item
    have hid : (closedJob s'.items teacherId now j).id = j.id :=
      congrArg JobSnapshot.id (closedJob_snapshot _ _ _ _)
    have hchk := h.job_check j hj hhit
    have hjo : j.ownerId = teacherId := by
      simp only [confirmedJob, Bool.and_eq_true, beq_iff_eq] at hhit
      exact hhit.2
    obtain ⟨i, hi, hrev, hij⟩ := (confirmedJob_iff hw hj).1 hhit
    have hmem : completeItem now i ∈ s'.items := by
      rw [hitems]
      exact mem_setWhere.2 (.inl ⟨i, hi, hrev, rfl⟩)
    have howner : ∀ x ∈ s'.items, x.gradingJobId = j.id → x.ownerId = j.ownerId := by
      intro x hx hxj
      obtain ⟨y, hy, hyid, hyo, -⟩ := hw'.refs.items x hx
      rw [hjobs] at hy
      rcases mem_setWhere.1 hy with ⟨z, hz, -, rfl⟩ | ⟨hy, -⟩
      · rw [closedJob_snapshot] at hyid hyo
        rw [← hyo, eq_of_key_eq hw.sound.keys.jobs hz hj (hyid.trans hxj)]
      · rw [← hyo, eq_of_key_eq hw.sound.keys.jobs hy hj (hyid.trans hxj)]
    subst hjo
    have hstatus := closedJob_status now howner
    refine .inr ⟨j, hj, hid, .inr ?_⟩
    rw [batch_of_id hid]
    refine .confirm (jobUpdateCheck_ne_cancelled hchk ?_) ⟨_, hmem, hij, rfl⟩ ?_ ?_
    · rcases hstatus with ⟨hst, -⟩ | ⟨hst, -⟩ | ⟨hst | hst, -⟩ <;> rw [hst] <;> simp
    · rintro st ⟨x, hx, hxj, rfl⟩
      rw [hitems] at hx
      rcases mem_setWhere.1 hx with ⟨y, hy, -, rfl⟩ | ⟨hx, -⟩
      · exact .inr rfl
      · exact .inl ⟨x, hx, hxj, rfl⟩
    · rcases hstatus with ⟨hst, hall⟩ | ⟨hst, hnone⟩ | ⟨hst, hsome⟩
      · refine .inl ⟨hst, ?_⟩
        rintro st ⟨x, hx, hxj, rfl⟩
        exact hall x hx hxj
      · refine .inr (.inl ⟨hst, fun ha => ?_⟩)
        obtain ⟨x, hx, hxj, hxa⟩ := active_hasStatus.1 ha
        rw [hnone x hx hxj] at hxa
        cases hxa
      · exact .inr (.inr ⟨hst, active_hasStatus.2 hsome⟩)
  · -- none of its items is touched
    refine .inr ⟨j', hj, rfl, .inl ?_⟩
    rw [batch, batch, hasStatus_congr fun i hij => ?_]
    rw [hitems, mem_setWhere]
    constructor
    · rintro (⟨x, hx, hrev, rfl⟩ | ⟨hi, -⟩)
      · rw [(confirmedJob_iff hw hj).2 ⟨x, hx, hrev, hij⟩] at hmiss
        cases hmiss
      · exact hi
    · intro hi
      refine .inr ⟨hi, ?_⟩
      by_contra hrev
      rw [Bool.not_eq_false] at hrev
      rw [(confirmedJob_iff hw hj).2 ⟨i, hi, hrev, hij⟩] at hmiss
      cases hmiss

/-! ## Every move is a step of each batch -/

theorem Created.batch_step {requeue : JobStatus → Prop} {job : GradingJob}
    {items : List GradingJobItem} (hw : WellFormed env s) (h : Created env s s' job items) :
    ∀ j' ∈ s'.jobs, BatchMoved requeue s s' j' := by
  intro j hj
  have hitems : s'.items = s.items ++ items := congrArg Store.items h.eq
  rw [congrArg Store.jobs h.eq] at hj
  have hfresh : ∀ x ∈ s.jobs, x.id ≠ job.id := by
    intro x hx he
    have hpair : (s.jobs ++ [job]).Pairwise fun x y => jobConflict x y = false := by
      simpa [jobsUnique] using h.jobs_unique
    have := (List.pairwise_append.1 hpair).2.2 x hx job (by simp)
    simp [jobConflict, he] at this
  rcases List.mem_append.1 hj with hj | hj
  · refine .inr ⟨j, hj, rfl, .inl ?_⟩
    rw [batch, batch, hasStatus_congr fun i hij => ?_]
    rw [hitems, List.mem_append]
    constructor
    · rintro (hi | hi)
      · exact hi
      · exact absurd (hij.symm.trans (h.item_job i hi)) (hfresh j hj)
    · exact .inl
  · rw [List.mem_singleton.1 hj]
    obtain ⟨i₀, hi₀⟩ := List.exists_mem_of_ne_nil _ h.items_ne
    refine .inl ⟨h.job_status, ⟨i₀, ?_, h.item_job i₀ hi₀, h.item_queued i₀ hi₀⟩, ?_⟩
    · rw [hitems]
      exact List.mem_append_right _ hi₀
    · rintro st ⟨i, hi, hij, rfl⟩
      rw [hitems] at hi
      rcases List.mem_append.1 hi with hi | hi
      · obtain ⟨x, hx, hxid, -⟩ := hw.refs.items i hi
        exact absurd (hxid.trans hij) (hfresh x hx)
      · exact h.item_queued i hi

/-- **The job table refines `Batch`**: every move is an abstract step of each job, or leaves it. -/
theorem Move.batch_step {requeue : JobStatus → Prop} (hw : WellFormed env s)
    (hR : ∀ j f, R j f → f.action = .retry → requeue j.status) (h : Move env R keep s s') :
    ∀ j' ∈ s'.jobs, BatchMoved requeue s s' j' := by
  have hk := hw.sound.keys
  have hw' := h.wellFormed hw
  cases h with
  | inputs h =>
    intro j hj
    rw [h.1.jobs] at hj
    have hsame : s'.hasStatus j.id = s.hasStatus j.id := hasStatus_congr fun i _ => by rw [h.1.items]
    exact .inr ⟨j, hj, rfl, .inl (by rw [batch, batch, hsame])⟩
  | @claimed prepared job item attempt clock token h =>
    have hitems := congrArg Store.items h.eq
    refine batchMoved_of_job h.job_mem (congrArg Store.jobs h.eq)
      (congrArg JobSnapshot.id (jobUpdateCheck_snapshot h.job_check)) (fun i hne => ?_) ?_
    · rw [hitems]
      exact mem_replaceItem_other hk h.item_mem (itemUpdateCheck_identity h.item_check)
        (by rwa [h.item_job])
    · rw [claimJob_status h.job_open]
      exact .claim h.job_open (hasStatus_replaced h.item_mem hitems
        (itemUpdateCheck_identity h.item_check) h.item_job)
        (hasStatus_replaceItem h.item_mem hitems)
  | @closed job item item' attempt attempt' now h =>
    have hitems := congrArg Store.items h.eq
    refine batchMoved_of_job h.job_mem (congrArg Store.jobs h.eq)
      (congrArg JobSnapshot.id (jobUpdateCheck_snapshot h.job_check)) (fun i hne => ?_) ?_
    · rw [hitems]
      exact mem_replaceItem_other hk h.item_mem (itemUpdateCheck_identity h.item_check)
        (by rwa [h.item_job])
    · rw [reconciledJob_status]
      exact .stop ⟨item, h.item_mem, h.item_job, h.item_running⟩ (closing_item_status h.closing)
        (closing_requeue hR h.closing) (hasStatus_replaceItem h.item_mem hitems)
        fun st => mem_itemStatuses
  | @switched job job' h =>
    have hitems := congrArg Store.items h.eq
    have hsame : s'.hasStatus job.id = s.hasStatus job.id := hasStatus_congr fun i _ => by rw [hitems]
    refine batchMoved_of_job h.job_mem (congrArg Store.jobs h.eq)
      (congrArg JobSnapshot.id (jobUpdateCheck_snapshot h.job_check)) (fun i _ => by rw [hitems]) ?_
    rw [hsame]
    refine .switch ?_ ?_
    · rcases h.move with ⟨hst | hst, -⟩ | ⟨hst, -⟩ <;> simp [Batch.Open, batch, hst]
    · rcases h.move with ⟨-, hst⟩ | ⟨-, hst⟩ <;> simp [hst]
  | @cancelled job now h =>
    have hitems := congrArg Store.items h.eq
    refine batchMoved_of_job h.job_mem (congrArg Store.jobs h.eq) rfl (fun i hne => ?_)
      (.cancel h.job_open ?_)
    · rw [hitems, mem_setWhere]
      constructor
      · rintro (⟨x, -, hx, rfl⟩ | ⟨hi, -⟩)
        · simp only [cancellable, Bool.and_eq_true, beq_iff_eq] at hx
          exact absurd hx.1.1 hne
        · exact hi
      · exact fun hi => .inr ⟨hi, by simp [cancellable, hne]⟩
    · -- the items of a job have its owner, so all that waited are cancelled
      rintro ⟨i, hi, hij, hq⟩
      rw [hitems] at hi
      rcases mem_setWhere.1 hi with ⟨x, -, -, rfl⟩ | ⟨hi, hmiss⟩
      · cases hq
      · obtain ⟨j, hj, hjid, hjo, -⟩ := hw.refs.items i hi
        rw [eq_of_key_eq hk.jobs hj h.job_mem (hjid.trans hij)] at hjo
        simp [cancellable, hij, hjo, hq] at hmiss
  | @retried job item now h =>
    have hitems := congrArg Store.items h.eq
    refine batchMoved_of_job h.job_mem (congrArg Store.jobs h.eq)
      (congrArg JobSnapshot.id (jobUpdateCheck_snapshot h.job_check)) (fun i hne => ?_) ?_
    · rw [hitems]
      exact mem_replaceItem_other hk h.item_mem (itemUpdateCheck_identity h.item_check)
        (by rwa [h.item_job])
    · exact .reopen (jobUpdateCheck_ne_cancelled h.job_check (by simp [reopenJob]))
        (hasStatus_replaced h.item_mem hitems (itemUpdateCheck_identity h.item_check) h.item_job)
        (hasStatus_replaceItem h.item_mem hitems)
  | created h => exact h.batch_step hw
  | drafted h =>
    intro j hj
    rcases h.write with ⟨_, _, _, _, _, _, he⟩ | ⟨_, _, _, _, he⟩ <;> rw [he] at hj ⊢ <;>
      exact .inr ⟨j, hj, rfl, .inl rfl⟩
  | confirmed h => exact h.batch_step hw hw'

/-- What fresh batches have and steps keep holds of every job after a move. -/
theorem Move.batches (requeue : JobStatus → Prop) {P : Batch → Prop} (hw : WellFormed env s)
    (hR : ∀ j f, R j f → f.action = .retry → requeue j.status) (h : Move env R keep s s')
    (hfresh : ∀ b : Batch, b.Fresh → P b)
    (hstep : ∀ b b' : Batch, Batch.Step requeue b b' → P b → P b')
    (hP : ∀ j ∈ s.jobs, P (s.batch j)) : ∀ j ∈ s'.jobs, P (s'.batch j) := by
  intro j' hj'
  rcases h.batch_step hw hR j' hj' with hnew | ⟨j, hj, -, hsame | hs⟩
  · exact hfresh _ hnew
  · rw [hsame]
    exact hP j hj
  · exact hstep _ _ hs (hP j hj)

/-- **In every reachable store the status of each job describes its items.** -/
theorem after_consistent (as : List (Action env)) :
    ∀ j ∈ (after env as).jobs, ((after env as).batch j).Consistent :=
  after_invariant (P := fun t => ∀ j ∈ t.jobs, (t.batch j).Consistent)
    (fun _ _ hw h hc => h.batches (fun _ => True) hw (fun _ _ _ _ => trivial)
      (fun _ => Batch.Fresh.consistent) (fun _ _ => Batch.Step.consistent) hc)
    (by simp [empty]) as

/-! ## Running items and their attempts -/

/-- Some attempt of the item is running. -/
def hasRunning (s : Store) (itemId : Uuid) : Prop :=
  ∃ a ∈ s.attempts, a.gradingJobItemId = itemId ∧ a.status = .running

/-- Items run exactly while an attempt of them does. -/
def Leased (s : Store) : Prop :=
  ∀ i ∈ s.items, i.status = .running ↔ s.hasRunning i.id

/-- At most one attempt of an item is running. -/
theorem running_unique (hk : s.Keys) {a b : GradingAttempt} (ha : a ∈ s.attempts)
    (hb : b ∈ s.attempts) (har : a.status = .running) (hbr : b.status = .running)
    (hi : a.gradingJobItemId = b.gradingJobItemId) : a = b := by
  refine eq_of_conflict hk.attempts ha hb ?_ ?_
  · simp [attemptConflict, hi, har, hbr]
  · simp [attemptConflict, hi, har, hbr]

/-- An item is as before if its row and its attempts are. -/
theorem leased_of_same {i : GradingJobItem} (hl : s.Leased) (hi : i ∈ s.items)
    (h : s'.hasRunning i.id ↔ s.hasRunning i.id) : i.status = .running ↔ s'.hasRunning i.id :=
  (hl i hi).trans h.symm

theorem hasRunning_congr (h : s'.attempts = s.attempts) (itemId : Uuid) :
    s'.hasRunning itemId ↔ s.hasRunning itemId := by
  unfold hasRunning
  rw [h]

/-- Item updates that touch neither a running row nor make one. -/
theorem leased_of_idle {p : GradingJobItem → Bool} {set : GradingJobItem → GradingJobItem}
    (hl : s.Leased) (hitems : s'.items = setWhere p set s.items) (hattempts : s'.attempts = s.attempts)
    (hidle : ∀ i ∈ s.items, p i = true →
      (set i).id = i.id ∧ i.status ≠ .running ∧ (set i).status ≠ .running) : s'.Leased := by
  intro i' hi'
  rw [hitems] at hi'
  rcases mem_setWhere.1 hi' with ⟨i, hi, hp, rfl⟩ | ⟨hi, -⟩
  · obtain ⟨hid, hne, hne'⟩ := hidle i hi hp
    rw [hid, hasRunning_congr hattempts, ← hl i hi]
    exact iff_of_false hne' hne
  · exact leased_of_same hl hi (hasRunning_congr hattempts _)

/-- **Every move keeps running items and running attempts together.** -/
theorem Move.leased (hw : WellFormed env s) (hl : s.Leased) (h : Move env R keep s s') :
    s'.Leased := by
  have hk := hw.sound.keys
  cases h with
  | inputs h =>
    intro i hi
    rw [h.1.items] at hi
    exact leased_of_same hl hi (hasRunning_congr h.1.attempts _)
  | @claimed prepared job item attempt clock token h =>
    obtain ⟨hash, id, rfl⟩ := h.attempt_eq
    intro i hi
    have hattempts := congrArg Store.attempts h.eq
    rw [congrArg Store.items h.eq] at hi
    rcases (mem_replaceRow h.item_mem).1 hi with rfl | ⟨hi, hne⟩
    · refine iff_of_true rfl ⟨s.claimedAttempt prepared item hash clock.worker id, ?_, rfl, rfl⟩
      rw [hattempts]
      exact List.mem_append_right _ (by simp)
    · refine leased_of_same hl hi ?_
      unfold hasRunning
      rw [hattempts]
      constructor
      · rintro ⟨a, ha, hai, har⟩
        rcases List.mem_append.1 ha with ha | ha
        · exact ⟨a, ha, hai, har⟩
        · rw [List.mem_singleton.1 ha] at hai
          exact absurd hai.symm hne
      · rintro ⟨a, ha, hai, har⟩
        exact ⟨a, List.mem_append_left _ ha, hai, har⟩
  | @closed job item item' attempt attempt' now h =>
    obtain ⟨⟨-, hstopped⟩, hsame, -, -⟩ := attemptUpdateCheck_eq_ok.1 h.attempt_check
    have hattempts := congrArg Store.attempts h.eq
    have hitem : attempt'.gradingJobItemId = item.id :=
      (congrArg AttemptIdentity.gradingJobItemId hsame).trans h.attempt_item
    intro i hi
    rw [congrArg Store.items h.eq] at hi
    rcases (mem_replaceRow h.item_mem).1 hi with rfl | ⟨hi, hne⟩
    · have hid : i.id = item.id := congrArg ItemIdentity.id (itemUpdateCheck_identity h.item_check)
      refine iff_of_false (fun hr => ?_) ?_
      · rcases closing_item_status h.closing with hst | hst | hst <;> rw [hst] at hr <;> cases hr
      · rintro ⟨a, ha, hai, har⟩
        rw [hattempts] at ha
        rcases (mem_replaceRow h.attempt_mem).1 ha with rfl | ⟨ha, hne⟩
        · exact hstopped har
        · refine hne (congrArg (·.id) (running_unique hk ha h.attempt_mem har h.attempt_running ?_))
          rw [hai, hid, h.attempt_item]
    · refine leased_of_same hl hi ?_
      unfold hasRunning
      rw [hattempts]
      constructor
      · rintro ⟨a, ha, hai, har⟩
        rcases (mem_replaceRow h.attempt_mem).1 ha with rfl | ⟨ha, -⟩
        · exact absurd har hstopped
        · exact ⟨a, ha, hai, har⟩
      · rintro ⟨a, ha, hai, har⟩
        refine ⟨a, (mem_replaceRow h.attempt_mem).2 (.inr ⟨ha, fun he => hne ?_⟩), hai, har⟩
        rw [← hai, eq_of_key_eq hk.attemptIds ha h.attempt_mem he, h.attempt_item]
  | switched h =>
    intro i hi
    rw [congrArg Store.items h.eq] at hi
    exact leased_of_same hl hi (hasRunning_congr (congrArg Store.attempts h.eq) _)
  | cancelled h =>
    refine leased_of_idle hl (congrArg Store.items h.eq) (by rw [h.eq]) fun i _ hp => ?_
    simp only [cancellable, Bool.and_eq_true, beq_iff_eq] at hp
    simp [hp.2, cancelItem]
  | retried h =>
    refine leased_of_idle hl (congrArg Store.items h.eq) (by rw [h.eq]) fun i hi hp => ?_
    have hsame := eq_of_key_eq hk.items hi h.item_mem (by simpa using hp)
    subst hsame
    rcases h.item_closed with hst | hst <;> simp [hst, retryItem]
  | @created job items h =>
    intro i hi
    have hattempts := congrArg Store.attempts h.eq
    rw [congrArg Store.items h.eq] at hi
    rcases List.mem_append.1 hi with hi | hi
    · exact leased_of_same hl hi (hasRunning_congr hattempts _)
    · refine iff_of_false (by rw [h.item_queued i hi]; simp) ?_
      rintro ⟨a, ha, hai, -⟩
      rw [hattempts] at ha
      obtain ⟨x, hx, hxid, -⟩ := hw.refs.attempts a ha
      have hpair : (s.items ++ items).Pairwise fun x y => itemConflict x y = false := by
        simpa [itemsUnique] using h.items_unique
      have := (List.pairwise_append.1 hpair).2.2 x hx i hi
      simp [itemConflict, hxid, hai] at this
  | drafted h =>
    rcases h.write with ⟨_, _, _, _, _, _, he⟩ | ⟨_, _, _, _, he⟩ <;> rw [he] <;> exact hl
  | confirmed h =>
    refine leased_of_idle hl (congrArg Store.items h.eq) (by rw [h.eq]) fun i hi hp => ?_
    simp [h.item_review hw hi hp, completeItem]

theorem after_leased (as : List (Action env)) : (after env as).Leased :=
  after_invariant (fun _ _ hw h hl => h.leased hw hl) (by simp [Leased, empty]) as

/-- How many attempts of the item are running. -/
def runningAttempts (s : Store) (itemId : Uuid) : Nat :=
  s.attempts.countP fun a => a.gradingJobItemId == itemId && a.status == .running

theorem runningAttempts_le_one (hk : s.Keys) (itemId : Uuid) : s.runningAttempts itemId ≤ 1 := by
  refine countP_le_one hk.attempts fun x y hx hy => ?_
  simp only [Bool.and_eq_true, beq_iff_eq] at hx hy
  simp [attemptConflict, hx.1, hy.1, hx.2, hy.2]

theorem runningAttempts_eq_zero {itemId : Uuid} :
    s.runningAttempts itemId = 0 ↔ ¬s.hasRunning itemId := by
  unfold runningAttempts hasRunning
  rw [List.countP_eq_zero]
  simp

theorem runningAttempts_eq_one (hk : s.Keys) {itemId : Uuid} :
    s.runningAttempts itemId = 1 ↔ s.hasRunning itemId := by
  have hle := runningAttempts_le_one hk itemId
  have hzero : s.runningAttempts itemId = 0 ↔ ¬s.hasRunning itemId := runningAttempts_eq_zero
  constructor
  · intro h
    by_contra hn
    have := hzero.2 hn
    omega
  · intro h
    have : s.runningAttempts itemId ≠ 0 := fun h0 => hzero.1 h0 h
    omega

/-- The state check of the item table gives exactly the running items a lease. -/
theorem stateCheck_lease {i : GradingJobItem} (h : i.stateCheck = true) :
    (i.status = .running → i.leaseToken.isSome = true) ∧
      (i.status ≠ .running → i.leaseToken = none) := by
  unfold GradingJobItem.stateCheck at h
  cases hst : i.status <;> simp_all

/-- **Jobs, items and attempts agree in every reachable store.** -/
theorem after_statuses (as : List (Action env)) :
    (∀ i ∈ (after env as).items,
      (i.status = .running ↔
        i.leaseToken.isSome = true ∧ (after env as).runningAttempts i.id = 1) ∧
      (i.status ≠ .running → i.leaseToken = none ∧ (after env as).runningAttempts i.id = 0)) ∧
    ∀ j ∈ (after env as).jobs,
      (j.status ≠ .cancelled → ((j.status = .queued ∨ j.status = .running ∨ j.status = .paused) ↔
        ∃ i ∈ (after env as).items, i.gradingJobId = j.id ∧
          (i.status = .queued ∨ i.status = .running))) ∧
      (j.status = .queued →
        ∀ i ∈ (after env as).items, i.gradingJobId = j.id → i.status = .queued) ∧
      (j.status = .completed →
        ∀ i ∈ (after env as).items, i.gradingJobId = j.id → i.status = .completed) ∧
      (j.status = .failed →
        ∀ i ∈ (after env as).items, i.gradingJobId = j.id → i.status = .failed) ∧
      (j.status = .needsReview → ∃ i ∈ (after env as).items, i.gradingJobId = j.id ∧
        (i.status = .needsReview ∨ i.status = .completed)) := by
  have hw : WellFormed env (after env as) := after_wellFormed as
  refine ⟨fun i hi => ?_, fun j hj => ?_⟩
  · have hlease := stateCheck_lease (hw.rows.item_state i hi)
    have hrun := after_leased as i hi
    rw [runningAttempts_eq_one hw.sound.keys, runningAttempts_eq_zero, ← hrun]
    exact ⟨⟨fun h => ⟨hlease.1 h, h⟩, fun h => h.2⟩, fun h => ⟨hlease.2 h, h⟩⟩
  · have hb := after_consistent as j hj
    refine ⟨fun hne => ?_, fun h i hi hij => hb.queued h _ ⟨i, hi, hij, rfl⟩,
      fun h i hi hij => hb.completed h _ ⟨i, hi, hij, rfl⟩,
      fun h i hi hij => hb.failed h _ ⟨i, hi, hij, rfl⟩, fun h => ?_⟩
    · simp only [← isActive_iff]
      exact (hb.open_iff hne).trans active_hasStatus
    · rcases hb.needsReview h with ⟨i, hi, hij, hst⟩ | ⟨i, hi, hij, hst⟩
      · exact ⟨i, hi, hij, .inl hst⟩
      · exact ⟨i, hi, hij, .inr hst⟩

end Store

end PaperGrading
