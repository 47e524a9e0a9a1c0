import PaperGrading.Store.System

/-!
# What each transaction does

The writes of `Tables` as equations on the tables, and from them one structure per
grading transaction that says what it did and what it had checked.  `Move` collects
them: a committed action either leaves the grading tables alone or makes one of
these moves (`exec_moves`; the expiry scan makes one move per expired lease).
-/

namespace PaperGrading

namespace Store

open Table

/-! ## Writes -/

theorem ite_require_eq_ok {c d P Q R : Prop} [Decidable c] [Decidable d] [Decidable P]
    [Decidable Q] [Decidable R] {e f g : TxError} {u : Unit} :
    (if c then require (decide P) e else if d then require (decide Q) f else
      require (decide R) g) = .ok u ↔ if c then P else if d then Q else R := by
  split
  · simp
  · split <;> simp

theorem itemUpdateCheck_eq_ok {old new : GradingJobItem} :
    itemUpdateCheck old new = .ok () ↔
      new.toItemIdentity = old.toItemIdentity ∧
      GradingJobItem.allowedMove old.status new.status = true ∧
      (if (old.status = .needsReview ∨ old.status = .failed) ∧ new.status = .queued then
          new.dispatchVersion = old.dispatchVersion + 1 ∧ new.retryCount = 0
        else if old.status = .running ∧ new.status = .queued then
          new.dispatchVersion = old.dispatchVersion ∧ new.retryCount = old.retryCount + 1
        else new.dispatchVersion = old.dispatchVersion ∧ new.retryCount = old.retryCount) ∧
      new.errorCode.all textOk = true ∧ new.stateCheck = true := by
  unfold itemUpdateCheck protectJobItem
  simp only [bind_eq_ok, require_eq_ok, decide_eq_true_eq]
  constructor
  · rintro ⟨_, ⟨_, hid, _, hmove, hver⟩, _, htext, hstate⟩
    exact ⟨hid, hmove, ite_require_eq_ok.1 hver, htext, hstate⟩
  · rintro ⟨hid, hmove, hver, htext, hstate⟩
    exact ⟨(), ⟨(), hid, (), hmove, ite_require_eq_ok.2 hver⟩, (), htext, hstate⟩

theorem updateItems_eq_ok {s s' : Store} {p : GradingJobItem → Bool}
    {set : GradingJobItem → GradingJobItem} :
    s.updateItems p set = .ok s' ↔
      s' = { s with items := setWhere p set s.items } ∧
        ∀ i ∈ s.items, p i = true → itemUpdateCheck i (set i) = .ok () := by
  unfold updateItems
  rw [bind_eq_ok]
  simp only [updateWhere_eq_ok, pure, Except.pure, Except.ok.injEq]
  constructor
  · rintro ⟨items, ⟨rfl, hchk⟩, rfl⟩
    exact ⟨rfl, hchk⟩
  · rintro ⟨rfl, hchk⟩
    exact ⟨_, ⟨rfl, hchk⟩, rfl⟩

theorem jobUpdateCheck_eq_ok {old new : GradingJob} :
    jobUpdateCheck old new = .ok () ↔
      new.toJobSnapshot = old.toJobSnapshot ∧
      GradingJob.allowedMove old.status new.status = true ∧ new.timestampsCheck = true := by
  unfold jobUpdateCheck protectJobSnapshot
  simp only [bind_eq_ok, require_eq_ok, decide_eq_true_eq]
  constructor
  · rintro ⟨_, ⟨_, hid, hmove⟩, htime⟩
    exact ⟨hid, hmove, htime⟩
  · rintro ⟨hid, hmove, htime⟩
    exact ⟨(), ⟨(), hid, hmove⟩, htime⟩

/-- The row an `UPDATE grading_jobs` writes, after the status trigger. -/
def jobRow (s : Store) (now : Time) (setsStatus : Bool) (set : GradingJob → GradingJob)
    (old : GradingJob) : GradingJob :=
  if setsStatus then preserveActiveJobStatus s.items now old (set old) else set old

theorem updateJobs_eq_ok {s s' : Store} {now : Time} {setsStatus : Bool} {p : GradingJob → Bool}
    {set : GradingJob → GradingJob} :
    s.updateJobs now setsStatus p set = .ok s' ↔
      s' = { s with jobs := setWhere p (s.jobRow now setsStatus set) s.jobs } ∧
        ∀ j ∈ s.jobs, p j = true → jobUpdateCheck j (s.jobRow now setsStatus set j) = .ok () := by
  unfold updateJobs
  rw [bind_eq_ok]
  simp only [updateWhere_eq_ok, pure, Except.pure, Except.ok.injEq]
  constructor
  · rintro ⟨jobs, ⟨rfl, hchk⟩, rfl⟩
    exact ⟨rfl, hchk⟩
  · rintro ⟨rfl, hchk⟩
    exact ⟨_, ⟨rfl, hchk⟩, rfl⟩

theorem updateAttempts_eq_ok {s s' : Store} {p : GradingAttempt → Bool}
    {set : GradingAttempt → GradingAttempt} :
    s.updateAttempts p set = .ok s' ↔
      s' = { s with attempts := setWhere p set s.attempts } ∧
        (∀ a ∈ s.attempts, p a = true → s.attemptUpdateCheck a (set a) = .ok ()) ∧
        attemptsUnique (setWhere p set s.attempts) = true := by
  unfold updateAttempts
  simp only [bind_eq_ok, updateWhere_eq_ok, require_eq_ok, pure, Except.pure, Except.ok.injEq]
  constructor
  · rintro ⟨rows, ⟨rfl, hchk⟩, _, huniq, rfl⟩
    exact ⟨rfl, hchk, huniq⟩
  · rintro ⟨rfl, hchk, huniq⟩
    exact ⟨_, ⟨rfl, hchk⟩, (), huniq, rfl⟩

theorem attemptUpdateCheck_eq_ok {s : Store} {old new : GradingAttempt} :
    s.attemptUpdateCheck old new = .ok () ↔
      (old.status = .running ∧ new.status ≠ .running) ∧
      new.toAttemptIdentity = old.toAttemptIdentity ∧
      s.validateAttemptScore new = .ok () ∧ new.rowCheck = .ok () := by
  unfold attemptUpdateCheck protectAttemptHistory
  simp only [bind_eq_ok, require_eq_ok, decide_eq_true_eq, Bool.and_eq_true, beq_iff_eq, bne_iff_ne]
  constructor
  · rintro ⟨_, ⟨_, hst, hid⟩, _, hscore, hrow⟩
    exact ⟨hst, hid, hscore, hrow⟩
  · rintro ⟨hst, hid, hscore, hrow⟩
    exact ⟨(), ⟨(), hst, hid⟩, (), hscore, hrow⟩

theorem insertAttempt_eq_ok {s s' : Store} {a : GradingAttempt} :
    s.insertAttempt a = .ok s' ↔
      s' = { s with attempts := s.attempts ++ [a] } ∧ s.attemptInsertCheck a = .ok () ∧
        attemptsUnique (s.attempts ++ [a]) = true := by
  unfold insertAttempt
  simp only [bind_eq_ok, insertRow_eq_ok, require_eq_ok, pure, Except.pure, Except.ok.injEq]
  constructor
  · rintro ⟨rows, ⟨rfl, hchk⟩, _, huniq, rfl⟩
    exact ⟨rfl, hchk, huniq⟩
  · rintro ⟨rfl, hchk, huniq⟩
    exact ⟨_, ⟨rfl, hchk⟩, (), huniq, rfl⟩

theorem updateReviews_eq_ok {s s' : Store} {p : TeacherReview → Bool}
    {set : TeacherReview → TeacherReview} :
    s.updateReviews p set = .ok s' ↔
      s' = { s with reviews := setWhere p set s.reviews } ∧
        (∀ r ∈ s.reviews, p r = true → s.reviewUpdateCheck r (set r) = .ok ()) ∧
        reviewsUnique (setWhere p set s.reviews) = true := by
  unfold updateReviews
  simp only [bind_eq_ok, updateWhere_eq_ok, require_eq_ok, pure, Except.pure, Except.ok.injEq]
  constructor
  · rintro ⟨rows, ⟨rfl, hchk⟩, _, huniq, rfl⟩
    exact ⟨rfl, hchk, huniq⟩
  · rintro ⟨rfl, hchk, huniq⟩
    exact ⟨_, ⟨rfl, hchk⟩, (), huniq, rfl⟩

theorem insertReview_eq_ok {s s' : Store} {r : TeacherReview} :
    s.insertReview r = .ok s' ↔
      s' = { s with reviews := s.reviews ++ [r] } ∧ s.reviewInsertCheck r = .ok () ∧
        reviewsUnique (s.reviews ++ [r]) = true := by
  unfold insertReview
  simp only [bind_eq_ok, insertRow_eq_ok, require_eq_ok, pure, Except.pure, Except.ok.injEq]
  constructor
  · rintro ⟨rows, ⟨rfl, hchk⟩, _, huniq, rfl⟩
    exact ⟨rfl, hchk, huniq⟩
  · rintro ⟨rfl, hchk, huniq⟩
    exact ⟨_, ⟨rfl, hchk⟩, (), huniq, rfl⟩

/-! ## Keys -/

/-- Primary keys and unique indexes of the grading tables. -/
structure Keys (s : Store) : Prop where
  jobRows : s.jobs.Pairwise fun x y => jobConflict x y = false
  itemRows : s.items.Pairwise fun x y => itemConflict x y = false
  attempts : s.attempts.Pairwise fun x y => attemptConflict x y = false
  reviews : s.reviews.Pairwise fun x y => reviewConflict x y = false

theorem Keys.jobs {s : Store} (hk : s.Keys) : (s.jobs.map (·.id)).Nodup := by
  rw [List.Nodup, List.pairwise_map]
  refine hk.jobRows.imp fun {x y} h he => ?_
  simp [jobConflict, he] at h

theorem Keys.items {s : Store} (hk : s.Keys) : (s.items.map (·.id)).Nodup := by
  rw [List.Nodup, List.pairwise_map]
  refine hk.itemRows.imp fun {x y} h he => ?_
  simp [itemConflict, he] at h

theorem Keys.attemptIds {s : Store} (hk : s.Keys) : (s.attempts.map (·.id)).Nodup := by
  rw [List.Nodup, List.pairwise_map]
  refine hk.attempts.imp fun {x y} h he => ?_
  simp [attemptConflict, he] at h

theorem Keys.reviewIds {s : Store} (hk : s.Keys) : (s.reviews.map (·.id)).Nodup := by
  rw [List.Nodup, List.pairwise_map]
  refine hk.reviews.imp fun {x y} h he => ?_
  simp [reviewConflict, he] at h

/-! ## Worker moves -/

/-- A granted claim. -/
structure Claimed (s s' : Store) (prepared : GradingItemPreparation) (job : GradingJob)
    (item : GradingJobItem) (attempt : GradingAttempt) (clock : Clock) (token : Uuid) : Prop where
  job_mem : job ∈ s.jobs
  item_mem : item ∈ s.items
  item_job : item.gradingJobId = job.id
  job_open : job.status = .queued ∨ job.status = .running
  item_queued : item.status = .queued
  item_prepared : item.id = prepared.itemId ∧ item.dispatchVersion = prepared.dispatchVersion
  attempt_eq : ∃ hash id, attempt = s.claimedAttempt prepared item hash clock.worker id
  attempt_check : s.attemptInsertCheck attempt = .ok ()
  unique : attemptsUnique (s.attempts ++ [attempt]) = true
  item_check : itemUpdateCheck item
    (claimItem clock.worker token prepared.providerSnapshot.timeoutSeconds item) = .ok ()
  job_check : jobUpdateCheck job (claimJob clock.worker job) = .ok ()
  eq : s' = { s with
    attempts := s.attempts ++ [attempt]
    items := replaceRow (·.id) item
      (claimItem clock.worker token prepared.providerSnapshot.timeoutSeconds item) s.items
    jobs := replaceRow (·.id) job (claimJob clock.worker job) s.jobs }

theorem claimableRows_some {s : Store} {prepared : GradingItemPreparation} {now : Time}
    {job : GradingJob} {item : GradingJobItem} (hk : s.Keys)
    (h : s.claimableRows prepared now = some (job, item)) :
    job ∈ s.jobs ∧ item ∈ s.items ∧ item.gradingJobId = job.id ∧
      (job.status = .queued ∨ job.status = .running) ∧ item.status = .queued ∧
      item.id = prepared.itemId ∧ item.dispatchVersion = prepared.dispatchVersion := by
  unfold claimableRows at h
  simp only [Option.bind_eq_bind, Option.bind_eq_some_iff, Option.pure_def, Option.some.injEq,
    Prod.mk.injEq] at h
  obtain ⟨pointer, hpointer, job', hjob, item', hitem, rfl, rfl⟩ := h
  have hpm := List.mem_of_find?_eq_some hpointer
  have hpq := List.find?_some hpointer
  have hjm := List.mem_of_find?_eq_some hjob
  have hjq := List.find?_some hjob
  have him := List.mem_of_find?_eq_some hitem
  have hiq := List.find?_some hitem
  simp only [Bool.and_eq_true, Bool.or_eq_true, beq_iff_eq, decide_eq_true_eq] at hpq hjq hiq
  have hsame : pointer = item' :=
    eq_of_key_eq hk.items hpm him (hpq.1.trans hiq.1.1.1.1.symm)
  subst hsame
  exact ⟨hjm, him, hjq.1.1.symm, hjq.2, hiq.1.2, hpq.1, hiq.1.1.2⟩

theorem preserveActiveJobStatus_of_ne {items : List GradingJobItem} {now : Time}
    {old new : GradingJob} (h : new.status ≠ .needsReview) :
    preserveActiveJobStatus items now old new = new := by
  unfold preserveActiveJobStatus
  rw [if_neg fun hc => h hc.1]

theorem claimJob_status_ne (now : Time) (j : GradingJob)
    (h : j.status = .queued ∨ j.status = .running) : (claimJob now j).status ≠ .needsReview := by
  unfold claimJob
  rcases h with h | h <;> simp [h]

theorem claimAttempt_cases {s s' : Store} {prepared : GradingItemPreparation} {hash : Hash}
    {clock : Clock} {attemptId token : Uuid} {claim : Option GradingAttemptClaim} (hk : s.Keys)
    (h : s.claimAttempt prepared hash clock attemptId token = .ok (claim, s')) :
    (claim = none ∧ s' = s) ∨
      ∃ job item, Claimed s s' prepared job item
          (s.claimedAttempt prepared item hash clock.worker attemptId) clock token ∧
        claim = some ⟨attemptId,
          (s.claimedAttempt prepared item hash clock.worker attemptId).attemptNumber,
          item.dispatchVersion,
          (s.claimedAttempt prepared item hash clock.worker attemptId).callSequence, token, hash⟩ := by
  unfold claimAttempt at h
  split at h
  · cases h
    exact .inl ⟨rfl, rfl⟩
  split at h
  · cases h
    exact .inl ⟨rfl, rfl⟩
  next job item hrows =>
    obtain ⟨hjm, him, hij, hopen, hqueued, hprep⟩ := claimableRows_some hk hrows
    simp only [bind_eq_ok, insertAttempt_eq_ok, updateItems_eq_ok, updateJobs_eq_ok] at h
    obtain ⟨s₁, ⟨rfl, hins, huniq⟩, s₂, ⟨rfl, hitem⟩, s₃, ⟨rfl, hjob⟩, hret⟩ := h
    cases hret
    have hrow : ∀ j ∈ s.jobs, (j.id == job.id) = true → j = job := fun j hj he =>
      eq_of_key_eq hk.jobs hj hjm (by simpa using he)
    have hjobRow : ∀ (t : Store) (b : Bool),
        jobRow t clock.database b (claimJob clock.worker) job = claimJob clock.worker job := by
      intro t b
      unfold jobRow
      split
      · exact preserveActiveJobStatus_of_ne (claimJob_status_ne _ _ hopen)
      · rfl
    refine .inr ⟨job, item, ⟨hjm, him, hij, hopen, hqueued, hprep, ⟨hash, attemptId, rfl⟩, hins, huniq,
      hitem item him (by simp), ?_, ?_⟩, rfl⟩
    · have := hjob job hjm (by simp)
      rwa [hjobRow] at this
    · congr 1
      · rw [setWhere_eq_replaceRow hk.jobs hjm (by simp) (by simp), hjobRow]
      · rw [setWhere_eq_replaceRow hk.items him (by simp) (by simp)]

/-- How a transaction that ends an attempt rewrites the attempt and its item; `R` is what is
known of the failures that runs hand in. -/
inductive Closing (R : GradingJob → GradingAttemptFailure → Prop) (now : Time) (job : GradingJob)
    (attempt : GradingAttempt) (item : GradingJobItem) : GradingAttempt → GradingJobItem → Prop
  | succeeded (c : GradingAttemptCompletion) (result : AttemptResult) (usage : AttemptUsage) :
    Closing R now job attempt item (succeededAttempt c result usage now attempt)
      (closeItem .needsReview none now item)
  | failed (f : GradingAttemptFailure) (usage : AttemptUsage) (hR : R job f) :
    Closing R now job attempt item (failedAttempt f usage now attempt) (failItem f now item)
  | expired : Closing R now job attempt item (expiredAttempt now attempt)
      (closeItem .needsReview (some outcomeUnknown) now item)

/-- The end of an attempt: its row, its item and the reconciled job. -/
structure Closed (R : GradingJob → GradingAttemptFailure → Prop) (s s' : Store) (job : GradingJob)
    (item item' : GradingJobItem) (attempt attempt' : GradingAttempt) (now : Time) : Prop where
  job_mem : job ∈ s.jobs
  item_mem : item ∈ s.items
  attempt_mem : attempt ∈ s.attempts
  item_job : item.gradingJobId = job.id
  attempt_item : attempt.gradingJobItemId = item.id
  item_running : item.status = .running
  attempt_running : attempt.status = .running
  closing : Closing R now job attempt item attempt' item'
  attempt_check : s.attemptUpdateCheck attempt attempt' = .ok ()
  unique : attemptsUnique (replaceRow (·.id) attempt attempt' s.attempts) = true
  item_check : itemUpdateCheck item item' = .ok ()
  count : (s'.itemStatuses job.id).length = job.expectedItemCount
  job_check : jobUpdateCheck job (reconciledJob (s'.itemStatuses job.id) now job) = .ok ()
  eq : s' = { s with
    attempts := replaceRow (·.id) attempt attempt' s.attempts
    items := replaceRow (·.id) item item' s.items
    jobs := replaceRow (·.id) job (reconciledJob (s'.itemStatuses job.id) now job) s.jobs }

theorem mem_itemStatuses {s : Store} {jobId : Uuid} {st : ItemStatus} :
    st ∈ s.itemStatuses jobId ↔ ∃ i ∈ s.items, i.gradingJobId = jobId ∧ i.status = st := by
  unfold itemStatuses
  simp [and_assoc]

/-- The status trigger never corrects a reconciled row: it is only reached when no item of the
job is active. -/
theorem jobRow_reconciledJob (s : Store) (job : GradingJob) (dbNow now : Time) :
    s.jobRow dbNow (reconciledStatus job.status (s.itemStatuses job.id) != job.status)
        (reconciledJob (s.itemStatuses job.id) now) job =
      reconciledJob (s.itemStatuses job.id) now job := by
  unfold jobRow
  split
  next hset =>
    unfold preserveActiveJobStatus
    rw [if_neg]
    rintro ⟨-, hactive⟩
    have hcond : job.status ≠ .cancelled ∧ .queued ∉ s.itemStatuses job.id ∧
        .running ∉ s.itemStatuses job.id := by
      by_contra hc
      rw [bne_iff_ne, reconciledStatus, if_neg hc] at hset
      exact hset rfl
    obtain ⟨i, hi, hij⟩ := List.any_eq_true.1 hactive
    rw [reconciledJob, if_pos hcond] at hij
    simp only [GradingJobItem.isActive, Bool.and_eq_true, Bool.or_eq_true, beq_iff_eq] at hij
    rcases hij.2 with hq | hr
    · exact hcond.2.1 (mem_itemStatuses.2 ⟨i, hi, hij.1.1, hq⟩)
    · exact hcond.2.2 (mem_itemStatuses.2 ⟨i, hi, hij.1.1, hr⟩)
  · rfl

theorem reconcileJob_eq_ok {s s' : Store} {job : GradingJob} {clock : Clock}
    (hn : (s.jobs.map (·.id)).Nodup) (hj : job ∈ s.jobs) :
    s.reconcileJob job clock = .ok s' ↔
      (s.itemStatuses job.id).length = job.expectedItemCount ∧
      jobUpdateCheck job (reconciledJob (s.itemStatuses job.id) clock.worker job) = .ok () ∧
      s' = { s with
        jobs := replaceRow (·.id) job
          (reconciledJob (s.itemStatuses job.id) clock.worker job) s.jobs } := by
  have hrow : ∀ j ∈ s.jobs, (j.id == job.id) = true → j = job := fun j hjm he =>
    eq_of_key_eq hn hjm hj (by simpa using he)
  unfold reconcileJob
  simp only [bind_eq_ok, require_eq_ok, updateJobs_eq_ok, beq_iff_eq]
  rw [setWhere_eq_replaceRow hn hj (by simp) (by simp), jobRow_reconciledJob]
  constructor
  · rintro ⟨_, hcount, rfl, hchk⟩
    have := hchk job hj rfl
    rw [jobRow_reconciledJob] at this
    exact ⟨hcount, this, rfl⟩
  · rintro ⟨hcount, hchk, rfl⟩
    refine ⟨(), hcount, rfl, fun j hjm he => ?_⟩
    rw [hrow j hjm (by simpa using he), jobRow_reconciledJob]
    exact hchk

/-- The three statements that end an attempt. -/
def closeAttempt (s : Store) (job : GradingJob) (item : GradingJobItem) (attempt : GradingAttempt)
    (setItem : GradingJobItem → GradingJobItem) (setAttempt : GradingAttempt → GradingAttempt)
    (clock : Clock) : Except TxError Store := do
  let s₁ ← s.updateAttempts (·.id == attempt.id) setAttempt
  let s₂ ← s₁.updateItems (·.id == item.id) setItem
  s₂.reconcileJob job clock

theorem closeAttempt_closed {R : GradingJob → GradingAttemptFailure → Prop} {s s' : Store}
    {job : GradingJob} {item : GradingJobItem} {attempt : GradingAttempt}
    {setItem : GradingJobItem → GradingJobItem} {setAttempt : GradingAttempt → GradingAttempt}
    {clock : Clock} (hk : s.Keys) (hjob : job ∈ s.jobs) (hitem : item ∈ s.items)
    (hattempt : attempt ∈ s.attempts) (hij : item.gradingJobId = job.id)
    (hai : attempt.gradingJobItemId = item.id) (hir : item.status = .running)
    (har : attempt.status = .running)
    (hclosing : Closing R clock.worker job attempt item (setAttempt attempt) (setItem item))
    (h : s.closeAttempt job item attempt setItem setAttempt clock = .ok s') :
    Closed R s s' job item (setItem item) attempt (setAttempt attempt) clock.worker := by
  unfold closeAttempt at h
  simp only [bind_eq_ok, updateAttempts_eq_ok, updateItems_eq_ok] at h
  obtain ⟨s₁, ⟨rfl, hachk, huniq⟩, s₂, ⟨rfl, hichk⟩, h⟩ := h
  rw [setWhere_eq_replaceRow hk.attemptIds hattempt (by simp) (by simp)] at h huniq
  rw [setWhere_eq_replaceRow hk.items hitem (by simp) (by simp)] at h
  rw [reconcileJob_eq_ok (by exact hk.jobs) (by exact hjob)] at h
  obtain ⟨hcount, hjchk, rfl⟩ := h
  exact ⟨hjob, hitem, hattempt, hij, hai, hir, har, hclosing, hachk attempt hattempt (by simp),
    huniq, hichk item hitem (by simp), hcount, hjchk, rfl⟩

theorem lockClaimed_eq_ok {s : Store} {claim : GradingAttemptClaim} {job : GradingJob}
    {item : GradingJobItem} {attempt : GradingAttempt}
    (h : s.lockClaimed claim = .ok (job, item, attempt)) :
    job ∈ s.jobs ∧ item ∈ s.items ∧ attempt ∈ s.attempts ∧ item.gradingJobId = job.id ∧
      attempt.gradingJobItemId = item.id ∧ item.status = .running ∧ attempt.status = .running ∧
      attempt.id = claim.attemptId ∧ item.leaseToken = some claim.leaseToken := by
  unfold lockClaimed at h
  split at h
  · cases h
  next a ha =>
    split at h
    · cases h
    next i hi =>
      split at h
      · cases h
      next j hj =>
        split at h
        next hc =>
          cases h
          have haq := List.find?_some ha
          have hiq := List.find?_some hi
          have hjq := List.find?_some hj
          simp only [beq_iff_eq] at haq hiq hjq
          exact ⟨List.mem_of_find?_eq_some hj, List.mem_of_find?_eq_some hi,
            List.mem_of_find?_eq_some ha, hjq.symm, hiq.symm, hc.2.1, hc.1, haq, hc.2.2⟩
        · cases h

theorem finishSuccess_closed {R : GradingJob → GradingAttemptFailure → Prop} {s s' : Store}
    {claim : GradingAttemptClaim} {c : GradingAttemptCompletion} {clock : Clock} (hk : s.Keys)
    (h : s.finishSuccess claim c clock = .ok s') :
    ∃ job item attempt result usage, s.lockClaimed claim = .ok (job, item, attempt) ∧
      Closed R s s' job item (closeItem .needsReview none clock.worker item) attempt
        (succeededAttempt c result usage clock.worker attempt) clock.worker := by
  unfold finishSuccess at h
  simp only [bind_eq_ok] at h
  obtain ⟨⟨job, item, attempt⟩, hlock, result, -, usage, -, h⟩ := h
  obtain ⟨hjob, hitem, hattempt, hij, hai, hir, har, -, -⟩ := lockClaimed_eq_ok hlock
  refine ⟨job, item, attempt, result, usage, hlock,
    closeAttempt_closed hk hjob hitem hattempt hij hai hir har (.succeeded c result usage) ?_⟩
  simpa only [closeAttempt, bind_eq_ok] using h

theorem finishFailure_closed {R : GradingJob → GradingAttemptFailure → Prop} {s s' : Store}
    {claim : GradingAttemptClaim} {f : GradingAttemptFailure} {clock : Clock} (hk : s.Keys)
    (hR : ∀ job item attempt, s.lockClaimed claim = .ok (job, item, attempt) → R job f)
    (h : s.finishFailure claim f clock = .ok s') :
    ∃ job item attempt usage, s.lockClaimed claim = .ok (job, item, attempt) ∧
      Closed R s s' job item (failItem f clock.worker item) attempt
        (failedAttempt f usage clock.worker attempt) clock.worker := by
  unfold finishFailure at h
  simp only [bind_eq_ok] at h
  obtain ⟨⟨job, item, attempt⟩, hlock, usage, -, h⟩ := h
  obtain ⟨hjob, hitem, hattempt, hij, hai, hir, har, -, -⟩ := lockClaimed_eq_ok hlock
  refine ⟨job, item, attempt, usage, hlock,
    closeAttempt_closed hk hjob hitem hattempt hij hai hir har (.failed f usage (hR _ _ _ hlock)) ?_⟩
  simpa only [closeAttempt, bind_eq_ok] using h

/-- A candidate of the expiry scan is skipped or ended; its job is the job of its item. -/
theorem expireOne_cases {R : GradingJob → GradingAttemptFailure → Prop} {s s' : Store} {clock : Clock}
    {candidate : Uuid × Uuid} (hk : s.Keys)
    (hc : ∀ i ∈ s.items, i.id = candidate.2 → i.gradingJobId = candidate.1)
    (h : expireOne clock s candidate = .ok s') :
    s' = s ∨ ∃ job item attempt, leaseExpired clock.database item = true ∧
      Closed R s s' job item (closeItem .needsReview (some outcomeUnknown) clock.worker item) attempt
        (expiredAttempt clock.worker attempt) clock.worker := by
  unfold expireOne at h
  split at h
  next job item hj hi =>
    split at h
    · cases h
    next attempt ha =>
      have hjq := List.find?_some hj
      have hiq := List.find?_some hi
      have haq := List.find?_some ha
      simp only [Bool.and_eq_true, beq_iff_eq] at hjq hiq haq
      have hitem := List.mem_of_find?_eq_some hi
      have hrunning : item.status = .running := by
        have := hiq.2
        simp only [leaseExpired, Bool.and_eq_true, beq_iff_eq] at this
        exact this.1
      refine .inr ⟨job, item, attempt, hiq.2,
        closeAttempt_closed hk (List.mem_of_find?_eq_some hj) hitem
          (List.mem_of_find?_eq_some ha) ?_ haq.1 hrunning haq.2 .expired h⟩
      rw [hc item hitem hiq.1, hjq]
  · cases h
    exact .inl rfl

end Store

end PaperGrading
