import PaperGrading.Store.Effects
import Mathlib.Data.List.Dedup

/-!
# What the teacher transactions and a batch creation do

One structure per transaction of `Teacher` and `Batch` that commits a change:
`Switched` (pause and resume), `Cancelled`, `Retried`, `Created`, `Drafted` and
`Confirmed`.

    controlGradingJob … = .ok (r, s') →
      s' = s ∨ Switched … ∨ Cancelled … ∨ Retried …                          (controlGradingJob_cases)
    confirmTeacherReviews … = .ok (r, s') →
      s' = s ∨ Confirmed …                                                (confirmTeacherReviews_cases)
-/

namespace PaperGrading

namespace Store

open Table

/-! ## Control -/

/-- A pause or a resumption. -/
structure Switched (s s' : Store) (job job' : GradingJob) : Prop where
  job_mem : job ∈ s.jobs
  move : ((job.status = .queued ∨ job.status = .running) ∧ job'.status = .paused) ∨
    (job.status = .paused ∧ job'.status = .running)
  job_check : jobUpdateCheck job job' = .ok ()
  eq : s' = { s with jobs := replaceRow (·.id) job job' s.jobs }

/-- The items a cancellation moves. -/
def cancellable (job : GradingJob) (i : GradingJobItem) : Bool :=
  i.gradingJobId == job.id && i.ownerId == job.ownerId && i.status == .queued

/-- A cancellation: the job and its queued items. -/
structure Cancelled (s s' : Store) (job : GradingJob) (now : Time) : Prop where
  job_mem : job ∈ s.jobs
  job_open : job.status = .queued ∨ job.status = .running ∨ job.status = .paused
  item_check : ∀ i ∈ s.items, cancellable job i = true → itemUpdateCheck i (cancelItem now i) = .ok ()
  job_check : jobUpdateCheck job (cancelJob now job) = .ok ()
  eq : s' = { s with
    items := setWhere (cancellable job) (cancelItem now) s.items
    jobs := replaceRow (·.id) job (cancelJob now job) s.jobs }

/-- A manual retry: a new round of one item. -/
structure Retried (s s' : Store) (job : GradingJob) (item : GradingJobItem) (now : Time) : Prop where
  job_mem : job ∈ s.jobs
  item_mem : item ∈ s.items
  item_job : item.gradingJobId = job.id
  item_closed : item.status = .needsReview ∨ item.status = .failed
  unconfirmed : ∀ r ∈ s.reviews, r.gradingJobItemId = item.id → r.ownerId = item.ownerId →
    r.status ≠ .confirmed
  provider : ∃ p ∈ s.providers, p.id = job.providerConfigId ∧
    p.configVersion = job.providerConfigVersion
  item_check : itemUpdateCheck item (retryItem now item) = .ok ()
  job_check : jobUpdateCheck job (reopenJob now job) = .ok ()
  eq : s' = { s with
    items := replaceRow (·.id) item (retryItem now item) s.items
    jobs := replaceRow (·.id) job (reopenJob now job) s.jobs }

/-- `UPDATE grading_jobs SET status = … WHERE id = …` to a status the trigger leaves alone. -/
theorem updateJob_eq_ok {s s' : Store} {job : GradingJob} {now : Time} {jobId : Uuid}
    {set : GradingJob → GradingJob} (hn : (s.jobs.map (·.id)).Nodup) (hj : job ∈ s.jobs)
    (hid : job.id = jobId) (hset : ∀ j, (set j).status ≠ .needsReview) :
    s.updateJobs now true (·.id == jobId) set = .ok s' ↔
      jobUpdateCheck job (set job) = .ok () ∧
        s' = { s with jobs := replaceRow (·.id) job (set job) s.jobs } := by
  have hrow : s.jobRow now true set = set := funext fun j => by
    rw [jobRow, if_pos rfl, preserveActiveJobStatus_of_ne (hset j)]
  rw [updateJobs_eq_ok, hrow,
    setWhere_eq_replaceRow hn hj (by simpa using hid) (fun r _ he => by rw [hid]; simpa using he)]
  constructor
  · rintro ⟨rfl, hchk⟩
    exact ⟨hchk job hj (by simpa using hid), rfl⟩
  · rintro ⟨hchk, rfl⟩
    refine ⟨rfl, fun j hjm he => ?_⟩
    have : j = job := eq_of_key_eq hn hjm hj (by rw [hid]; simpa using he)
    rw [this]
    exact hchk

theorem controlGradingJob_cases {s s' : Store} {teacher : Option Uuid} {jobId : Uuid}
    {action : ControlAction} {now : Time} {r : Option Uuid} (hk : s.Keys)
    (h : s.controlGradingJob teacher jobId action now = .ok (r, s')) :
    (r = none ∧ s' = s) ∨ ∃ job, teacher = some job.ownerId ∧ job.id = jobId ∧ r = some jobId ∧
      ((∃ job', Switched s s' job job' ∧ (action = .pause ∧ job'.status = .paused ∨
          action = .resume ∧ job'.status = .running)) ∨
        (action = .cancel ∧ Cancelled s s' job now) ∨
        ∃ item, action = .retry item.id ∧ item.ownerId = job.ownerId ∧ Retried s s' job item now) := by
  unfold controlGradingJob at h
  split at h
  · cases h
    exact .inl ⟨rfl, rfl⟩
  next teacherId =>
    split at h
    · cases h
      exact .inl ⟨rfl, rfl⟩
    next job hjob =>
      have hj := List.mem_of_find?_eq_some hjob
      have hq := List.find?_some hjob
      simp only [Bool.and_eq_true, beq_iff_eq] at hq
      obtain ⟨rfl, rfl⟩ := hq
      split at h
      · split at h
        next hst =>
          obtain ⟨s₁, h₁, hret⟩ := bind_eq_ok.1 h
          cases hret
          obtain ⟨hchk, rfl⟩ := (updateJob_eq_ok hk.jobs hj rfl (by simp [pauseJob])).1 h₁
          exact .inr ⟨job, rfl, rfl, rfl, .inl ⟨_, ⟨hj, .inl ⟨hst, rfl⟩, hchk, rfl⟩,
            .inl ⟨rfl, rfl⟩⟩⟩
        · cases h
          exact .inl ⟨rfl, rfl⟩
      · split at h
        next hst =>
          obtain ⟨s₁, h₁, hret⟩ := bind_eq_ok.1 h
          cases hret
          obtain ⟨hchk, rfl⟩ := (updateJob_eq_ok hk.jobs hj rfl (by simp [resumeJob])).1 h₁
          exact .inr ⟨job, rfl, rfl, rfl, .inl ⟨_, ⟨hj, .inr ⟨hst, rfl⟩, hchk, rfl⟩,
            .inr ⟨rfl, rfl⟩⟩⟩
        · cases h
          exact .inl ⟨rfl, rfl⟩
      · split at h
        next hst =>
          simp only [bind_eq_ok, updateItems_eq_ok] at h
          obtain ⟨s₁, ⟨rfl, hitems⟩, s₂, h₂, hret⟩ := h
          cases hret
          rw [updateJob_eq_ok (by exact hk.jobs) (by exact hj) rfl (by simp [cancelJob])] at h₂
          obtain ⟨hchk, rfl⟩ := h₂
          exact .inr ⟨job, rfl, rfl, rfl, .inr (.inl ⟨rfl, hj, hst, hitems, hchk, rfl⟩)⟩
        · cases h
          exact .inl ⟨rfl, rfl⟩
      next itemId =>
        split at h
        next hprovider =>
          split at h
          next hitem =>
            simp only [bind_eq_ok, updateItems_eq_ok] at h
            obtain ⟨s₁, ⟨rfl, hitems⟩, s₂, h₂, hret⟩ := h
            cases hret
            rw [updateJob_eq_ok (by exact hk.jobs) (by exact hj) rfl (by simp [reopenJob])] at h₂
            obtain ⟨hchk, rfl⟩ := h₂
            obtain ⟨p, hp, hpq⟩ := List.any_eq_true.1 hprovider
            obtain ⟨item, hi, hiq⟩ := List.any_eq_true.1 hitem
            have hichk := hitems item hi hiq
            have hkey : ∀ i ∈ s.items, s.retryable job job.ownerId itemId i = true →
                i.id = item.id := fun i _ hr => by
              simp only [retryable, Bool.and_eq_true, beq_iff_eq] at hr hiq
              rw [hr.1.1.1.1, hiq.1.1.1.1]
            rw [setWhere_eq_replaceRow hk.items hi hiq hkey]
            simp only [retryable, Bool.and_eq_true, Bool.or_eq_true, beq_iff_eq, Bool.not_eq_true',
              List.any_eq_false, not_and] at hiq hpq
            obtain ⟨⟨⟨⟨rfl, hij⟩, hio⟩, hst⟩, hun⟩ := hiq
            exact .inr ⟨job, rfl, rfl, rfl, .inr (.inr ⟨item, rfl, hio, hj, hi, hij, hst,
              fun r hr hri hro hc => hun r hr ⟨hri, hro.trans hio⟩ hc, ⟨p, hp, hpq⟩, hichk, hchk, rfl⟩)⟩
          · cases h
            exact .inl ⟨rfl, rfl⟩
        · cases h
          exact .inl ⟨rfl, rfl⟩

/-! ## Batch creation -/

/-- A new batch: a queued job and one queued item per submission. -/
structure Created (env : Runtime) (s s' : Store) (job : GradingJob) (items : List GradingJobItem) :
    Prop where
  source : ∃ ownerId assignmentId payload assignment rubric structured provider snapshot model
    profile seed, s.creationInputs ownerId assignmentId payload =
        .ok (assignment, rubric, structured, provider, model, profile) ∧
      structured.accepts env = true ∧
      job = createdJob env ownerId payload assignment rubric structured provider snapshot model seed
  job_status : job.status = .queued
  job_check : s.jobInsertCheck job = .ok ()
  jobs_unique : jobsUnique (s.jobs ++ [job]) = true
  items_unique : itemsUnique (s.items ++ items) = true
  items_ne : items ≠ []
  item_job : ∀ i ∈ items, i.gradingJobId = job.id
  item_queued : ∀ i ∈ items, i.status = .queued
  item_version : ∀ i ∈ items, i.dispatchVersion = 1
  item_check : ∀ i ∈ items, ({ s with jobs := s.jobs ++ [job] } : Store).itemInsertCheck i = .ok ()
  count : (s'.itemStatuses job.id).length = job.expectedItemCount
  eq : s' = { s with jobs := s.jobs ++ [job], items := s.items ++ items }

theorem insertItem_eq_ok {s s' : Store} {i : GradingJobItem} :
    s.insertItem i = .ok s' ↔
      s' = { s with items := s.items ++ [i] } ∧ s.itemInsertCheck i = .ok () ∧
        itemsUnique (s.items ++ [i]) = true := by
  unfold insertItem
  simp only [bind_eq_ok, insertRow_eq_ok, require_eq_ok, pure, Except.pure, Except.ok.injEq]
  constructor
  · rintro ⟨rows, ⟨rfl, hchk⟩, _, huniq, rfl⟩
    exact ⟨rfl, hchk, huniq⟩
  · rintro ⟨rfl, hchk, huniq⟩
    exact ⟨_, ⟨rfl, hchk⟩, (), huniq, rfl⟩

/-- The item loop of a creation; an item check does not look at the items. -/
theorem foldlM_insertItem {s s' : Store} {items : List GradingJobItem}
    (huniq : itemsUnique s.items = true) (h : items.foldlM insertItem s = .ok s') :
    s' = { s with items := s.items ++ items } ∧ (∀ i ∈ items, s.itemInsertCheck i = .ok ()) ∧
      itemsUnique (s.items ++ items) = true := by
  induction items generalizing s with
  | nil =>
    cases h
    simpa using huniq
  | cons i items ih =>
    rw [List.foldlM_cons, bind_eq_ok] at h
    obtain ⟨s₁, h₁, h⟩ := h
    obtain ⟨rfl, hchk, hu⟩ := insertItem_eq_ok.1 h₁
    obtain ⟨rfl, hrest, hu'⟩ := ih hu h
    refine ⟨by simp, ?_, by simpa using hu'⟩
    intro x hx
    rcases List.mem_cons.1 hx with rfl | hx
    · exact hchk
    · exact hrest x hx

theorem insertJob_eq_ok {s s' : Store} {j : GradingJob} :
    s.insertJob j = .ok s' ↔
      s' = { s with jobs := s.jobs ++ [j] } ∧ s.jobInsertCheck j = .ok () ∧
        jobsUnique (s.jobs ++ [j]) = true := by
  unfold insertJob
  simp only [bind_eq_ok, insertRow_eq_ok, require_eq_ok, pure, Except.pure, Except.ok.injEq]
  constructor
  · rintro ⟨rows, ⟨rfl, hchk⟩, _, huniq, rfl⟩
    exact ⟨rfl, hchk, huniq⟩
  · rintro ⟨rfl, hchk, huniq⟩
    exact ⟨_, ⟨rfl, hchk⟩, (), huniq, rfl⟩

theorem mem_createdItems {job : GradingJob} {seed : CreationSeed} {ids : List Uuid}
    {i : GradingJobItem} (h : i ∈ createdItems job seed ids) :
    ∃ n id, i = createdItem job seed n id := by
  unfold createdItems at h
  obtain ⟨n, hn, rfl⟩ := List.mem_mapIdx.1 h
  exact ⟨n, _, rfl⟩

/-- A creation repeats the job of its key, or adds a job from inputs it has just read. -/
theorem createOrGetJob_cases {env : Runtime} {s s' : Store} {ownerId assignmentId : Uuid}
    {payload : GradingJobCreate} {quotaOk : Bool} {seed : CreationSeed} {r : Uuid × Bool}
    (hk : s.Keys)
    (h : s.createOrGetJob env ownerId assignmentId payload quotaOk seed = .ok (r, s')) :
    s' = s ∨ ∃ job items, job.ownerId = ownerId ∧ Created env s s' job items := by
  unfold createOrGetJob at h
  split at h
  · simp only [bind_eq_ok] at h
    obtain ⟨_, _, h⟩ := h
    cases h
    exact .inl rfl
  · simp only [bind_eq_ok, require_eq_ok, insertJob_eq_ok] at h
    obtain ⟨_, _, ⟨assignment, rubric, structured, provider, model, profile⟩, hin, _, hacc, _, _,
      s₁, ⟨rfl, hjchk, hju⟩, s₂, hitems, _, hcount, hret⟩ := h
    cases hret
    obtain ⟨rfl, hichk, hiu⟩ := foldlM_insertItem (by simpa [itemsUnique] using hk.itemRows) hitems
    refine .inr ⟨_, createdItems _ seed payload.submissionIds, ?_, ⟨ownerId, assignmentId, payload,
      assignment, rubric, structured, provider, _, model, profile, seed, hin, hacc, rfl⟩, rfl, hjchk,
      hju, hiu, ?_, ?_, ?_, ?_, hichk, by simpa using hcount, rfl⟩
    · rfl
    · intro he
      have := congrArg List.length he
      simp only [createdItems, List.length_mapIdx, List.length_nil] at this
      have := payload.countOk.1
      omega
    all_goals
      intro i hi
      obtain ⟨n, id, rfl⟩ := mem_createdItems hi
      rfl

/-! ## Drafts -/

/-- A saved draft: `review` is the row written, a new one or the next revision of an old one. -/
structure Drafted (s s' : Store) (item : GradingJobItem) (attempt : GradingAttempt)
    (review : TeacherReview) : Prop where
  item_mem : item ∈ s.items
  item_status : item.status = .needsReview
  attempt_eq : s.latestSucceeded item.id item.ownerId item.dispatchVersion = some attempt
  review_draft : review.status = .draft
  review_attempt : review.gradingAttemptId = attempt.id
  review_item : review.gradingJobItemId = item.id
  review_owner : review.ownerId = item.ownerId
  write : (∃ old ∈ s.reviews, old.status = .draft ∧
      review = resaveReview old.revisionNumber review.payload old ∧
      s.reviewUpdateCheck old review = .ok () ∧
      reviewsUnique (replaceRow (·.id) old review s.reviews) = true ∧
      s' = { s with reviews := replaceRow (·.id) old review s.reviews }) ∨
    (review.revisionNumber = maxOrZero (fun r => r.gradingJobItemId == item.id &&
        r.ownerId == item.ownerId) (·.revisionNumber) s.reviews + 1 ∧
      isRfcUuid review.id = true ∧ s.reviewInsertCheck review = .ok () ∧
      reviewsUnique (s.reviews ++ [review]) = true ∧
      s' = { s with reviews := s.reviews ++ [review] })

theorem latestSucceeded_some {s : Store} {itemId ownerId : Uuid} {round : Nat}
    {a : GradingAttempt} (h : s.latestSucceeded itemId ownerId round = some a) :
    a ∈ s.attempts ∧ a.gradingJobItemId = itemId ∧ a.ownerId = ownerId ∧ a.status = .succeeded ∧
      a.scoringRound = round := by
  unfold latestSucceeded at h
  obtain ⟨hm, hq⟩ := latest_mem h
  simp only [Bool.and_eq_true, beq_iff_eq] at hq
  exact ⟨hm, hq.1.1.1, hq.1.1.2, hq.1.2, hq.2⟩

theorem draftTarget_some {s : Store} {teacherId itemId attemptId : Uuid} {item : GradingJobItem}
    {attempt : GradingAttempt} {structured : StructuredRubric}
    (h : s.draftTarget teacherId itemId attemptId = some (item, attempt, structured)) :
    item ∈ s.items ∧ item.id = itemId ∧ item.ownerId = teacherId ∧ item.status = .needsReview ∧
      s.latestSucceeded item.id item.ownerId item.dispatchVersion = some attempt ∧
      attempt.id = attemptId := by
  unfold draftTarget at h
  simp only [Option.bind_eq_bind, Option.bind_eq_some_iff, Option.pure_def, Option.some.injEq,
    Prod.mk.injEq, Option.guard_eq_some'] at h
  obtain ⟨i, hi, _, -, _, hst, a, ha, _, hid, _, -, _, -, _, -, _, -, rfl, rfl, -⟩ := h
  have hiq := List.find?_some hi
  simp only [Bool.and_eq_true, beq_iff_eq] at hiq
  obtain ⟨rfl, rfl⟩ := hiq
  exact ⟨List.mem_of_find?_eq_some hi, rfl, rfl, hst, ha, hid⟩

theorem saveTeacherReviewDraft_cases {s s' : Store} {teacher : Option Uuid} {itemId attemptId : Uuid}
    {p : ReviewPayload} {freshId : RandomUuid} {now : Time} {r : Option Uuid} (hk : s.Keys)
    (h : s.saveTeacherReviewDraft teacher itemId attemptId p freshId now = .ok (r, s')) :
    (r = none ∧ s' = s) ∨ ∃ item attempt review, item.id = itemId ∧ r = some review.id ∧
      storedPayload p = .ok review.payload ∧ Drafted s s' item attempt review := by
  unfold saveTeacherReviewDraft at h
  split at h
  · cases h
    exact .inl ⟨rfl, rfl⟩
  next teacherId =>
    split at h
    · cases h
      exact .inl ⟨rfl, rfl⟩
    next item attempt structured htarget =>
      obtain ⟨him, rfl, rfl, hst, hlast, rfl⟩ := draftTarget_some htarget
      obtain ⟨_, _, h⟩ := bind_eq_ok.1 h
      split at h
      next old hold =>
        split at h
        next hdraft =>
          simp only [bind_eq_ok, updateReviews_eq_ok] at h
          obtain ⟨stored, hstored, s₁, ⟨rfl, hchk, huniq⟩, hret⟩ := h
          cases hret
          have hom := List.mem_of_find?_eq_some hold
          have hoq := List.find?_some hold
          simp only [Bool.and_eq_true, beq_iff_eq] at hoq
          rw [setWhere_eq_replaceRow hk.reviewIds hom (by simp) (by simp)] at huniq ⊢
          exact .inr ⟨item, attempt, resaveReview old.revisionNumber stored old, rfl, rfl, hstored,
            him, hst, hlast, hdraft, hoq.1.1, hoq.1.2, hoq.2,
            .inl ⟨old, hom, hdraft, rfl, hchk old hom (by simp), huniq, rfl⟩⟩
        · cases h
          exact .inl ⟨rfl, rfl⟩
      next hnone =>
        simp only [bind_eq_ok, insertReview_eq_ok] at h
        obtain ⟨stored, hstored, s₁, ⟨rfl, hchk, huniq⟩, hret⟩ := h
        cases hret
        obtain ⟨-, hai, hao, -, -⟩ := latestSucceeded_some hlast
        exact .inr ⟨item, attempt, _, rfl, rfl, hstored, him, hst, hlast, rfl, rfl, hai, rfl,
          .inr ⟨rfl, freshId.rfc, hchk, huniq, rfl⟩⟩

/-! ## Confirmation -/

/-- The reviews a confirmation moves. -/
def referenced (teacherId : Uuid) (refs : List (Uuid × Nat)) (r : TeacherReview) : Bool :=
  r.ownerId == teacherId && refs.any (·.1 == r.id)

/-- The items a confirmation completes. -/
def reviewedItem (s : Store) (teacherId : Uuid) (refs : List (Uuid × Nat)) (i : GradingJobItem) :
    Bool :=
  i.ownerId == teacherId && (s.reviewedItemIds refs).contains i.id

/-- The jobs a confirmation closes or keeps open. -/
def confirmedJob (s : Store) (teacherId : Uuid) (refs : List (Uuid × Nat)) (j : GradingJob) : Bool :=
  (s.reviewedJobIds teacherId refs).contains j.id && j.ownerId == teacherId

/-- The job row of a confirmation, after the status trigger. -/
def closedJob (items : List GradingJobItem) (teacherId : Uuid) (now : Time) (j : GradingJob) :
    GradingJob :=
  preserveActiveJobStatus items now j
    (reviewedJob (!items.any fun i => i.gradingJobId == j.id && i.ownerId == teacherId &&
      i.status != .completed) now j)

/-- A confirmation of drafts: reviews, items and jobs. -/
structure Confirmed (s s' : Store) (teacherId : Uuid) (refs : List (Uuid × Nat)) (now : Time) :
    Prop where
  found : ∀ ref ∈ refs, ∃ r, s.referencedReview teacherId ref = some r ∧ r.status = .draft ∧
    s.checkConfirmation teacherId r = .ok ()
  review_check : ∀ r ∈ s.reviews, referenced teacherId refs r = true →
    s.reviewUpdateCheck r (confirmReview now r) = .ok ()
  unique : reviewsUnique s'.reviews = true
  item_check : ∀ i ∈ s.items, s.reviewedItem teacherId refs i = true →
    itemUpdateCheck i (completeItem now i) = .ok ()
  job_check : ∀ j ∈ s.jobs, s.confirmedJob teacherId refs j = true →
    jobUpdateCheck j (closedJob s'.items teacherId now j) = .ok ()
  eq : s' = { s with
    reviews := setWhere (referenced teacherId refs) (confirmReview now) s.reviews
    items := setWhere (s.reviewedItem teacherId refs) (completeItem now) s.items
    jobs := setWhere (s.confirmedJob teacherId refs) (closedJob s'.items teacherId now) s.jobs }

theorem preserveActiveJobStatus_snapshot (items : List GradingJobItem) (now : Time)
    (old new : GradingJob) :
    (preserveActiveJobStatus items now old new).toJobSnapshot = new.toJobSnapshot := by
  unfold preserveActiveJobStatus
  split
  · split <;> rfl
  · rfl

theorem closedJob_snapshot (items : List GradingJobItem) (teacherId : Uuid) (now : Time)
    (j : GradingJob) : (closedJob items teacherId now j).toJobSnapshot = j.toJobSnapshot := by
  rw [closedJob, preserveActiveJobStatus_snapshot, reviewedJob]
  split <;> rfl

/-- The job loop is one `UPDATE`: every job is written once, from the same items. -/
theorem closeReviewedJobs_eq_ok {s s' : Store} {teacherId : Uuid} {now : Time} {ids : List Uuid}
    (hn : ids.Nodup) :
    closeReviewedJobs teacherId now ids s = .ok s' ↔
      s' = { s with
        jobs := setWhere (fun j => ids.contains j.id && j.ownerId == teacherId)
          (closedJob s.items teacherId now) s.jobs } ∧
      ∀ j ∈ s.jobs, (ids.contains j.id && j.ownerId == teacherId) = true →
        jobUpdateCheck j (closedJob s.items teacherId now j) = .ok () := by
  induction ids generalizing s with
  | nil =>
    rw [closeReviewedJobs, setWhere_of_forall_false (by simp)]
    simp [eq_comm]
  | cons id rest ih =>
    obtain ⟨hid, hrest⟩ := List.nodup_cons.1 hn
    have hkey : ∀ j : GradingJob, (closedJob s.items teacherId now j).id = j.id := fun j =>
      congrArg JobSnapshot.id (closedJob_snapshot s.items teacherId now j)
    have hrow : ∀ j : GradingJob, (j.id == id && j.ownerId == teacherId) = true →
        s.jobRow now true (reviewedJob (!s.items.any fun i => i.gradingJobId == id &&
          i.ownerId == teacherId && i.status != .completed) now) j =
        closedJob s.items teacherId now j := fun j hj => by
      simp only [Bool.and_eq_true, beq_iff_eq] at hj
      rw [jobRow, if_pos rfl, closedJob, hj.1]
    have hcompose : setWhere (fun j => rest.contains j.id && j.ownerId == teacherId)
          (closedJob s.items teacherId now)
          (setWhere (fun j => j.id == id && j.ownerId == teacherId)
            (closedJob s.items teacherId now) s.jobs) =
        setWhere (fun j => (id :: rest).contains j.id && j.ownerId == teacherId)
          (closedJob s.items teacherId now) s.jobs := by
      rw [setWhere_setWhere]
      · refine setWhere_congr (fun j _ => ?_) fun _ _ _ => rfl
        rw [List.contains_cons]
        cases j.id == id <;> cases j.ownerId == teacherId <;> simp
      · intro j _ hj
        simp only [Bool.and_eq_true, beq_iff_eq] at hj
        simp [hkey, hj.1, hid]
    rw [closeReviewedJobs]
    simp only [bind_eq_ok, updateJobs_eq_ok]
    rw [setWhere_congr (fun _ _ => rfl) fun j _ hj => hrow j hj]
    constructor
    · rintro ⟨s₁, ⟨rfl, hfirst⟩, h⟩
      obtain ⟨rfl, hlater⟩ := (ih hrest).1 h
      refine ⟨by rw [← hcompose], fun j hj hc => ?_⟩
      by_cases he : j.id = id
      · have hhit : (j.id == id && j.ownerId == teacherId) = true := by
          simp only [Bool.and_eq_true] at hc
          simp [he, hc.2]
        rw [← hrow j hhit]
        exact hfirst j hj hhit
      · refine hlater j (mem_setWhere.2 (.inr ⟨hj, by simp [he]⟩)) ?_
        simpa [he] using hc
    · rintro ⟨rfl, hall⟩
      refine ⟨_, ⟨rfl, fun j hj hc => ?_⟩, (ih hrest).2 ⟨by rw [← hcompose], ?_⟩⟩
      · rw [hrow j hc]
        simp only [Bool.and_eq_true, beq_iff_eq] at hc
        exact hall j hj (by simp [hc.1, hc.2])
      · intro j hj hc
        rcases mem_setWhere.1 hj with ⟨r, -, hr, rfl⟩ | ⟨hm, -⟩
        · simp only [Bool.and_eq_true, beq_iff_eq] at hr hc
          rw [hkey, hr.1] at hc
          exact absurd (by simpa using hc.1) hid
        · refine hall j hm ?_
          simp only [Bool.and_eq_true] at hc ⊢
          exact ⟨by rw [List.contains_cons, hc.1, Bool.or_true], hc.2⟩

theorem forM_eq_ok {α : Type} {f : α → Except TxError Unit} {l : List α} :
    l.forM f = .ok () ↔ ∀ x ∈ l, f x = .ok () := by
  induction l with
  | nil => exact ⟨fun _ _ hx => absurd hx (by simp), fun _ => rfl⟩
  | cons x l ih =>
    change (f x >>= fun _ => l.forM f) = .ok () ↔ _
    rw [bind_eq_ok, List.forall_mem_cons]
    constructor
    · rintro ⟨_, hx, hl⟩
      exact ⟨hx, ih.1 hl⟩
    · rintro ⟨hx, hl⟩
      exact ⟨(), hx, ih.2 hl⟩

/-- Confirming and completing keep the columns by which items and jobs are found. -/
theorem reviewedItemIds_confirm (s : Store) (refs : List (Uuid × Nat)) (p : TeacherReview → Bool)
    (now : Time) :
    ({ s with reviews := setWhere p (confirmReview now) s.reviews } : Store).reviewedItemIds refs =
      s.reviewedItemIds refs := by
  unfold reviewedItemIds
  dsimp only
  rw [filter_setWhere _ p (confirmReview now) s.reviews fun _ _ _ => rfl]
  exact map_setWhere _ _ _ _ fun _ _ _ => rfl

theorem reviewedJobIds_confirm (s : Store) (teacherId : Uuid) (refs : List (Uuid × Nat))
    (p : TeacherReview → Bool) (q : GradingJobItem → Bool) (now : Time) :
    ({ s with
      reviews := setWhere p (confirmReview now) s.reviews
      items := setWhere q (completeItem now) s.items } : Store).reviewedJobIds teacherId refs =
      s.reviewedJobIds teacherId refs := by
  unfold reviewedJobIds
  dsimp only
  have hfind : ∀ r : TeacherReview, Option.map (·.gradingJobId) (List.find? (fun i =>
        i.id == r.gradingJobItemId && i.ownerId == r.ownerId) (setWhere q (completeItem now) s.items)) =
      Option.map (·.gradingJobId) (List.find? (fun i =>
        i.id == r.gradingJobItemId && i.ownerId == r.ownerId) s.items) := fun r =>
    find?_setWhere _ _ _ _ _ (fun _ _ _ => rfl) fun _ _ _ => rfl
  simp only [hfind]
  rw [filter_setWhere _ p (confirmReview now) s.reviews fun _ _ _ => rfl]
  rw [filterMap_setWhere _ p (confirmReview now) _ fun _ _ _ => rfl]

/-- The request of a confirmation: one to a hundred distinct review identifiers. -/
def validRefs (refs : List (Uuid × Nat)) : Prop :=
  (lengthBetween 1 100 refs.length = true ∧
    (refs.all fun ref => isRfcUuid ref.1 && decide (1 ≤ ref.2)) = true) ∧ (refs.map (·.1)).Nodup

theorem validRefs_ne_nil {refs : List (Uuid × Nat)} (h : validRefs refs) : refs ≠ [] := by
  rintro rfl
  exact absurd h.1.1 (by decide)

theorem referencedReview_some {s : Store} {teacherId : Uuid} {ref : Uuid × Nat} {r : TeacherReview}
    (h : s.referencedReview teacherId ref = some r) :
    r ∈ s.reviews ∧ r.id = ref.1 ∧ r.revisionNumber = ref.2 ∧ r.ownerId = teacherId := by
  unfold referencedReview at h
  have hq := List.find?_some h
  simp only [Bool.and_eq_true, beq_iff_eq] at hq
  exact ⟨List.mem_of_find?_eq_some h, hq.1.1, hq.1.2, hq.2⟩

/-- The statements at the end of a confirmation. -/
def confirmWrites (s : Store) (teacherId : Uuid) (refs : List (Uuid × Nat)) (now : Time) :
    Except TxError (Option (List Uuid) × Store) := do
  let s₁ ← s.updateReviews (fun r => r.ownerId == teacherId && refs.any (·.1 == r.id))
    (confirmReview now)
  let itemIds := s₁.reviewedItemIds refs
  let s₂ ← s₁.updateItems (fun i => i.ownerId == teacherId && itemIds.contains i.id)
    (completeItem now)
  let s₃ ← closeReviewedJobs teacherId now (s₂.reviewedJobIds teacherId refs) s₂
  return (some (refs.map (·.1)), s₃)

theorem confirmWrites_eq_ok {s s' : Store} {teacherId : Uuid} {refs : List (Uuid × Nat)} {now : Time}
    {r : Option (List Uuid)}
    (hfound : ∀ ref ∈ refs, ∃ r, s.referencedReview teacherId ref = some r ∧ r.status = .draft ∧
      s.checkConfirmation teacherId r = .ok ()) :
    s.confirmWrites teacherId refs now = .ok (r, s') ↔
      r = some (refs.map (·.1)) ∧ Confirmed s s' teacherId refs now := by
  have hnodup : ∀ t : Store, (t.reviewedJobIds teacherId refs).Nodup := fun t =>
    (List.perm_insertionSort _ _).nodup_iff.2 (List.nodup_dedup _)
  unfold confirmWrites
  simp only [bind_eq_ok, updateReviews_eq_ok, updateItems_eq_ok, closeReviewedJobs_eq_ok (hnodup _)]
  constructor
  · rintro ⟨s₁, ⟨rfl, hrev, huniq⟩, s₂, ⟨rfl, hitems⟩, s₃, ⟨rfl, hjobs⟩, hret⟩
    cases hret
    dsimp only at hitems hjobs ⊢
    rw [reviewedItemIds_confirm] at hitems hjobs ⊢
    rw [reviewedJobIds_confirm] at hjobs ⊢
    exact ⟨rfl, hfound, hrev, huniq, hitems, hjobs, rfl⟩
  · rintro ⟨rfl, -, hrev, huniq, hitems, hjobs, heq⟩
    have hreviews := congrArg Store.reviews heq
    have hitemsEq := congrArg Store.items heq
    dsimp only at hreviews hitemsEq
    refine ⟨_, ⟨rfl, hrev, ?_⟩, _, ⟨rfl, ?_⟩, _, ⟨rfl, ?_⟩, ?_⟩
    · rw [hreviews] at huniq
      exact huniq
    · rw [reviewedItemIds_confirm]
      exact hitems
    · dsimp only
      rw [reviewedItemIds_confirm, reviewedJobIds_confirm]
      rw [hitemsEq] at hjobs
      exact hjobs
    · dsimp only
      rw [reviewedItemIds_confirm, reviewedJobIds_confirm]
      rw [hitemsEq] at heq
      rw [heq]
      rfl

theorem found_length_ne {s : Store} {teacherId : Uuid} {refs : List (Uuid × Nat)} :
    (refs.filterMap (s.referencedReview teacherId)).length ≠ refs.length ↔
      ∃ ref ∈ refs, s.referencedReview teacherId ref = none := by
  rw [ne_eq, List.filterMap_length_eq_length]
  simp

/-- If every reference is found, a condition on the reviews found is one on the references. -/
theorem forall_found {s : Store} {teacherId : Uuid} {refs : List (Uuid × Nat)}
    (hsome : ∀ ref ∈ refs, s.referencedReview teacherId ref ≠ none) (P : TeacherReview → Prop) :
    (∀ x ∈ refs.filterMap (s.referencedReview teacherId), P x) ↔
      ∀ ref ∈ refs, ∃ x, s.referencedReview teacherId ref = some x ∧ P x := by
  constructor
  · intro h ref href
    obtain ⟨x, hx⟩ := Option.ne_none_iff_exists'.1 (hsome ref href)
    exact ⟨x, hx, h x (List.mem_filterMap.2 ⟨ref, href, hx⟩)⟩
  · intro h x hx
    obtain ⟨ref, href, hfx⟩ := List.mem_filterMap.1 hx
    obtain ⟨y, hy, hP⟩ := h ref href
    rw [hfx] at hy
    cases hy
    exact hP

theorem ReviewStatus.draft_iff {st : ReviewStatus} : st = .draft ↔ ¬st = .confirmed := by
  cases st <;> simp

/-- **What a confirmation answers**: nothing if a reference is stale, the same ids again if all
reviews are confirmed, and otherwise one commit that confirms them all. -/
theorem confirmTeacherReviews_eq_ok {s s' : Store} {teacherId : Uuid} {refs : List (Uuid × Nat)}
    {now : Time} {r : Option (List Uuid)} :
    s.confirmTeacherReviews (some teacherId) refs now = .ok (r, s') ↔ validRefs refs ∧
      (((∃ ref ∈ refs, s.referencedReview teacherId ref = none) ∧ r = none ∧ s' = s) ∨
      ((∀ ref ∈ refs, ∃ x, s.referencedReview teacherId ref = some x ∧ x.status = .confirmed) ∧
        r = some (refs.map (·.1)) ∧ s' = s) ∨
      (r = some (refs.map (·.1)) ∧ Confirmed s s' teacherId refs now)) := by
  unfold confirmTeacherReviews
  simp only [bind_eq_ok, require_eq_ok, Bool.and_eq_true, decide_eq_true_eq]
  rw [exists_const]
  refine and_congr_right fun hvalid => ?_
  obtain ⟨ref₀, href₀⟩ := List.exists_mem_of_ne_nil _ (validRefs_ne_nil hvalid)
  have hdraft : Confirmed s s' teacherId refs now → ∀ ref ∈ refs, ∃ x,
      s.referencedReview teacherId ref = some x ∧ x.status = .draft := fun hc ref href => by
    obtain ⟨x, hx, hd, -⟩ := hc.found ref href
    exact ⟨x, hx, hd⟩
  by_cases hnone : ∃ ref ∈ refs, s.referencedReview teacherId ref = none
  · -- a stale reference
    rw [if_pos (found_length_ne.2 hnone)]
    obtain ⟨ref, href, hr⟩ := hnone
    constructor
    · intro h
      cases h
      exact .inl ⟨⟨ref, href, hr⟩, rfl, rfl⟩
    · rintro (⟨-, rfl, rfl⟩ | ⟨hall, -⟩ | ⟨-, hc⟩)
      · rfl
      · obtain ⟨x, hx, -⟩ := hall ref href
        rw [hr] at hx
        cases hx
      · obtain ⟨x, hx, -⟩ := hdraft hc ref href
        rw [hr] at hx
        cases hx
  have hsome : ∀ ref ∈ refs, s.referencedReview teacherId ref ≠ none := fun ref href he =>
    hnone ⟨ref, href, he⟩
  have hlen : (refs.filterMap (s.referencedReview teacherId)).length = refs.length :=
    not_not.1 fun h => hnone (found_length_ne.1 h)
  have hall : (refs.filterMap (s.referencedReview teacherId)).countP (·.status == .confirmed) =
      refs.length ↔
      ∀ ref ∈ refs, ∃ x, s.referencedReview teacherId ref = some x ∧ x.status = .confirmed := by
    rw [← hlen, List.countP_eq_length, ← forall_found hsome]
    simp only [beq_iff_eq]
  rw [if_neg (not_not.2 hlen)]
  by_cases hconf : ∀ ref ∈ refs, ∃ x, s.referencedReview teacherId ref = some x ∧
      x.status = .confirmed
  · -- all confirmed before
    rw [if_pos (hall.2 hconf)]
    constructor
    · intro h
      cases h
      exact .inr (.inl ⟨hconf, rfl, rfl⟩)
    · rintro (⟨h, -⟩ | ⟨-, rfl, rfl⟩ | ⟨-, hc⟩)
      · exact absurd h hnone
      · rfl
      · obtain ⟨x, hx, hd⟩ := hdraft hc ref₀ href₀
        obtain ⟨y, hy, hy'⟩ := hconf ref₀ href₀
        rw [hx] at hy
        cases hy
        rw [hd] at hy'
        cases hy'
  · -- drafts only, or an error
    rw [if_neg fun h => hconf (hall.1 h)]
    simp only [bind_eq_ok, require_eq_ok, exists_const]
    have hforM : ((refs.filterMap (s.referencedReview teacherId)).insertionSort
          s.confirmationOrder).forM (s.checkConfirmation teacherId) = .ok () ↔
        ∀ ref ∈ refs, ∃ x, s.referencedReview teacherId ref = some x ∧
          s.checkConfirmation teacherId x = .ok () := by
      rw [forM_eq_ok, ← forall_found hsome]
      simp only [List.mem_insertionSort]
    have hcount : ((refs.filterMap (s.referencedReview teacherId)).countP
        (·.status == .confirmed) == 0) = true ↔
        ∀ ref ∈ refs, ∃ x, s.referencedReview teacherId ref = some x ∧ x.status = .draft := by
      rw [beq_iff_eq, List.countP_eq_zero, ← forall_found hsome]
      simp [ReviewStatus.draft_iff]
    rw [hcount]
    constructor
    · rintro ⟨hd, _, hchk, h⟩
      refine .inr (.inr ((confirmWrites_eq_ok fun ref href => ?_).1 ?_))
      · obtain ⟨x, hx, hxd⟩ := hd ref href
        obtain ⟨y, hy, hyc⟩ := hforM.1 hchk ref href
        rw [hx] at hy
        cases hy
        exact ⟨x, hx, hxd, hyc⟩
      · simpa only [confirmWrites, bind_eq_ok] using h
    · rintro (⟨h, -⟩ | ⟨h, -⟩ | ⟨hr, hc⟩)
      · exact absurd h hnone
      · exact absurd h hconf
      · refine ⟨hdraft hc, (), hforM.2 fun ref href => ?_, ?_⟩
        · exact (hc.found ref href).imp fun x hx => ⟨hx.1, hx.2.2⟩
        · simpa only [confirmWrites, bind_eq_ok] using (confirmWrites_eq_ok hc.found).2 ⟨hr, hc⟩

end Store

end PaperGrading
