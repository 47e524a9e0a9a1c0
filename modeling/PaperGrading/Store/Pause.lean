import PaperGrading.Store.Commits

/-!
# What a pause promises

Between a granted pause of a batch and the teacher's next resume or cancellation, the
batch can be claimed from only if the teacher queues one of its papers again: a retry
sets the job to running, whatever it was.  Nothing else opens a batch that is not
queued or running: neither claims, finish calls and lease expiries nor confirmations.

    no retry is granted in the window → no attempt is added to the batch       (after_paused)
    a granted retry sets the batch to running                              (retry_running)
-/

namespace PaperGrading

namespace Store

open Table

variable {env : Runtime} {R : GradingJob → GradingAttemptFailure → Prop}
  {keep : RubricVersion → Prop} {s s' : Store}

/-! ## Definitions -/

/-- A control of this batch that the store grants. -/
def grants (s : Store) (jobId : Uuid) (p : ControlAction → Prop) : Action env → Prop
  | .controlGradingJob teacher id action now => id = jobId ∧ p action ∧
      ∃ s', s.controlGradingJob teacher id action now = .ok (some jobId, s')
  | _ => False

/-- What ends a pause. -/
def endsPause (action : ControlAction) : Prop := action = .resume ∨ action = .cancel

def isRetry (action : ControlAction) : Prop := ∃ itemId, action = .retry itemId

/-- The attempts of a batch, by what never changes of them. -/
def attemptsOf (s : Store) (jobId : Uuid) : List AttemptIdentity :=
  (s.attempts.map (·.toAttemptIdentity)).filter fun a =>
    (s.items.map (·.toItemIdentity)).any fun i =>
      i.id == a.gradingJobItemId && i.gradingJobId == jobId

/-- A batch from which nothing is claimed. -/
def Parked (s : Store) (jobId : Uuid) : Prop :=
  ∃ j ∈ s.jobs, j.id = jobId ∧ j.status ≠ .queued ∧ j.status ≠ .running

/-! ## Parked batches stay parked -/

theorem Parked.of_jobs {jobId : Uuid} (h : s'.jobs = s.jobs) (hp : s.Parked jobId) :
    s'.Parked jobId := by
  rw [Parked, h]
  exact hp

/-- One job row is replaced. -/
theorem Parked.replaceRow (hk : s.Keys) {jobId : Uuid} {job job' : GradingJob}
    (hjobs : s'.jobs = replaceRow (·.id) job job' s.jobs) (hjob : job ∈ s.jobs)
    (hid : job'.id = job.id) (hp : s.Parked jobId)
    (hstays : job.status ≠ .queued → job.status ≠ .running →
      job'.status ≠ .queued ∧ job'.status ≠ .running) : s'.Parked jobId := by
  obtain ⟨j, hj, hjid, hq, hr⟩ := hp
  by_cases he : j.id = job.id
  · have hsame : j = job := eq_of_key_eq hk.jobs hj hjob he
    subst hsame
    refine ⟨job', ?_, hid.trans hjid, hstays hq hr⟩
    rw [hjobs]
    exact (mem_replaceRow hjob).2 (.inl rfl)
  · refine ⟨j, ?_, hjid, hq, hr⟩
    rw [hjobs]
    exact (mem_replaceRow hjob).2 (.inr ⟨hj, he⟩)

theorem reconciledStatus_parked {current : JobStatus} (statuses : List ItemStatus)
    (hq : current ≠ .queued) (hr : current ≠ .running) :
    reconciledStatus current statuses ≠ .queued ∧ reconciledStatus current statuses ≠ .running := by
  unfold reconciledStatus
  split
  · split
    · simp
    · split <;> simp
  · exact ⟨hq, hr⟩

/-- A confirmation keeps a paused batch paused, and opens no other. -/
theorem Confirmed.job_parked (hw : WellFormed env s) {teacherId : Uuid}
    {refs : List (Uuid × Nat)} {now : Time} (h : Confirmed s s' teacherId refs now) {j : GradingJob}
    (hj : j ∈ s.jobs) (hown : j.ownerId = teacherId) (hne : j.status ≠ .cancelled)
    (hc : (s.batch j).Consistent) (hq : j.status ≠ .queued) (hr : j.status ≠ .running) :
    (closedJob s'.items teacherId now j).status ≠ .queued ∧
      (closedJob s'.items teacherId now j).status ≠ .running := by
  subst hown
  rcases closedJob_cases s'.items j.ownerId now j with he | he | ⟨-, he⟩ | ⟨hpaused, he⟩
  · simp [he, reviewedJob]
  · simp [he, reviewedJob]
  · simp [he]
  · have hitems := congrArg Store.items h.eq
    have howner : ∀ i ∈ s'.items, i.gradingJobId = j.id → i.ownerId = j.ownerId := by
      intro i hi hij
      rw [hitems] at hi
      obtain ⟨i₀, hi₀, hid, hjob⟩ : ∃ i₀ ∈ s.items, i₀.ownerId = i.ownerId ∧
          i₀.gradingJobId = i.gradingJobId := by
        rcases mem_setWhere.1 hi with ⟨i₀, hi₀, -, rfl⟩ | ⟨hi, -⟩
        · exact ⟨i₀, hi₀, rfl, rfl⟩
        · exact ⟨i, hi, rfl, rfl⟩
      obtain ⟨j', hj', hid', hown', -⟩ := hw.refs.items i₀ hi₀
      rw [eq_of_key_eq hw.sound.keys.jobs hj' hj (hid'.trans (hjob.trans hij))] at hown'
      exact hid.symm.trans hown'.symm
    rcases closedJob_status now howner with ⟨hst, -⟩ | ⟨hst, -⟩ | ⟨-, i, hi, hij, hactive⟩
    · rw [he] at hst
      cases hst
    · rw [he] at hst
      cases hst
    · -- an active item that was active before: the batch was open, hence paused
      exfalso
      rw [hitems] at hi
      rcases mem_setWhere.1 hi with ⟨i₀, -, -, rfl⟩ | ⟨hi, -⟩
      · simp [completeItem, GradingJobItem.isActive] at hactive
      · have hopen := (hc.open_iff hne).2 (active_hasStatus.2 ⟨i, hi, hij, hactive⟩)
        rcases hopen with hst | hst | hst
        · exact hq hst
        · exact hr hst
        · exact hpaused hst

/-- **Only the teacher's controls open a batch.** -/
theorem Work.parked (hw : WellFormed env s) (hc : ∀ j ∈ s.jobs, (s.batch j).Consistent)
    {jobId : Uuid} (h : Work env R keep s s') (hp : s.Parked jobId) : s'.Parked jobId := by
  have hk := hw.sound.keys
  cases h with
  | inputs h => exact hp.of_jobs h.1.jobs
  | claimed h =>
    refine hp.replaceRow hk (congrArg Store.jobs h.eq) h.job_mem
      (congrArg JobSnapshot.id (jobUpdateCheck_snapshot h.job_check)) fun hq hr => ?_
    rcases h.job_open with hst | hst
    · exact absurd hst hq
    · exact absurd hst hr
  | closed h =>
    refine hp.replaceRow hk (congrArg Store.jobs h.eq) h.job_mem
      (congrArg JobSnapshot.id (jobUpdateCheck_snapshot h.job_check)) fun hq hr => ?_
    rw [reconciledJob_status]
    exact reconciledStatus_parked _ hq hr
  | created h =>
    obtain ⟨j, hj, hjid, hst⟩ := hp
    refine ⟨j, ?_, hjid, hst⟩
    rw [h.eq]
    exact List.mem_append_left _ hj
  | drafted h =>
    refine hp.of_jobs ?_
    rcases h.write with ⟨_, _, _, _, _, _, he⟩ | ⟨_, _, _, _, he⟩ <;> rw [he]
  | @confirmed teacherId refs now h =>
    obtain ⟨j, hj, hjid, hq, hr⟩ := hp
    have hjobs := congrArg Store.jobs h.eq
    by_cases hb : s.confirmedJob teacherId refs j = true
    · have hown : j.ownerId = teacherId := by
        simp only [confirmedJob, Bool.and_eq_true, beq_iff_eq] at hb
        exact hb.2
      have hne : j.status ≠ .cancelled := fun hst =>
        (jobUpdateCheck_ne_cancelled (h.job_check j hj hb)
          (closedJob_ne_cancelled _ _ _ _)) hst
      refine ⟨closedJob s'.items teacherId now j, ?_, ?_,
        h.job_parked hw hj hown hne (hc j hj) hq hr⟩
      · rw [hjobs]
        exact mem_setWhere.2 (.inl ⟨j, hj, hb, rfl⟩)
      · rw [← hjid]
        exact congrArg JobSnapshot.id (closedJob_snapshot _ _ _ _)
    · refine ⟨j, ?_, hjid, hq, hr⟩
      rw [hjobs]
      exact mem_setWhere.2 (.inr ⟨hj, by simpa using hb⟩)

/-! ## No claim while parked -/

theorem attemptsOf_congr {jobId : Uuid}
    (ha : s'.attempts.map (·.toAttemptIdentity) = s.attempts.map (·.toAttemptIdentity))
    (hi : s'.items.map (·.toItemIdentity) = s.items.map (·.toItemIdentity)) :
    s'.attemptsOf jobId = s.attemptsOf jobId := by
  rw [attemptsOf, ha, hi, attemptsOf]

theorem mem_attemptsOf {jobId : Uuid} {a : AttemptIdentity} :
    a ∈ s.attemptsOf jobId ↔ a ∈ s.attempts.map (·.toAttemptIdentity) ∧
      ∃ i ∈ s.items, i.id = a.gradingJobItemId ∧ i.gradingJobId = jobId := by
  simp [attemptsOf]

/-- **A parked batch is not claimed from.** -/
theorem Work.attemptsOf (hw : WellFormed env s) {jobId : Uuid} (h : Work env R keep s s')
    (hp : s.Parked jobId) : s'.attemptsOf jobId = s.attemptsOf jobId := by
  have hk := hw.sound.keys
  obtain ⟨j, hj, hjid, hq, hr⟩ := hp
  cases h with
  | inputs h => exact attemptsOf_congr (by rw [h.1.attempts]) (by rw [h.1.items])
  | @claimed prepared job item attempt clock token h =>
    obtain ⟨hash, id, rfl⟩ := h.attempt_eq
    have hitems : s'.items.map (·.toItemIdentity) = s.items.map (·.toItemIdentity) := by
      rw [h.eq]
      exact map_replaceRow hk.items h.item_mem (itemUpdateCheck_identity h.item_check)
    rw [Store.attemptsOf, hitems, congrArg Store.attempts h.eq, List.map_append,
      List.filter_append, Store.attemptsOf, List.append_right_eq_self]
    -- the claimed item belongs to a batch that is queued or running
    rw [List.filter_eq_nil_iff]
    intro a ha hany
    rw [List.map_singleton, List.mem_singleton] at ha
    subst ha
    simp only [List.any_map, List.any_eq_true, Function.comp_apply, Bool.and_eq_true,
      beq_iff_eq] at hany
    obtain ⟨i, hi, hid, hij⟩ := hany
    rw [eq_of_key_eq hk.items hi h.item_mem hid, h.item_job] at hij
    rw [eq_of_key_eq hk.jobs h.job_mem hj (hij.trans hjid.symm)] at h
    rcases h.job_open with hst | hst
    · exact hq hst
    · exact hr hst
  | closed h =>
    refine attemptsOf_congr ?_ ?_
    · rw [h.eq]
      exact map_replaceRow hk.attemptIds h.attempt_mem (attemptUpdateCheck_identity h.attempt_check)
    · rw [h.eq]
      exact map_replaceRow hk.items h.item_mem (itemUpdateCheck_identity h.item_check)
  | @created job items h =>
    -- the new items belong to the new batch
    have hne : job.id ≠ jobId := by
      intro he
      have hu := h.jobs_unique
      rw [jobsUnique, decide_eq_true_eq, List.pairwise_append] at hu
      have := hu.2.2 j hj job (by simp)
      simp [jobConflict, hjid, he] at this
    rw [Store.attemptsOf, Store.attemptsOf, congrArg Store.attempts h.eq,
      congrArg Store.items h.eq]
    refine List.filter_congr fun a _ => ?_
    rw [List.map_append, List.any_append, Bool.or_eq_left_iff_imp]
    intro hany
    simp only [List.any_map, List.any_eq_true, Function.comp_apply, Bool.and_eq_true,
      beq_iff_eq] at hany
    obtain ⟨i, hi, -, hij⟩ := hany
    exact absurd ((h.item_job i hi).symm.trans hij) hne
  | drafted h =>
    rcases h.write with ⟨_, _, _, _, _, _, he⟩ | ⟨_, _, _, _, he⟩ <;> rw [he] <;> rfl
  | confirmed h =>
    refine attemptsOf_congr (by rw [h.eq]) ?_
    rw [h.eq]
    exact map_setWhere _ _ _ _ fun i hi hp => itemUpdateCheck_identity (h.item_check i hi hp)

/-! ## Controls -/

/-- A control changes no more than the batch it names. -/
theorem Parked.of_other {jobId : Uuid} {job job' : GradingJob}
    (hjobs : s'.jobs = Table.replaceRow (·.id) job job' s.jobs) (hjob : job ∈ s.jobs)
    (hid : job.id ≠ jobId) (hp : s.Parked jobId) : s'.Parked jobId := by
  obtain ⟨j, hj, hjid, hst⟩ := hp
  refine ⟨j, ?_, hjid, hst⟩
  rw [hjobs]
  exact (mem_replaceRow hjob).2 (.inr ⟨hj, fun he => hid (he.symm.trans hjid)⟩)

/-- No control claims anything. -/
theorem controlGradingJob_attemptsOf (hk : s.Keys) {teacher : Option Uuid} {id : Uuid}
    {action : ControlAction} {now : Time} {r : Option Uuid}
    (h : s.controlGradingJob teacher id action now = .ok (r, s')) (jobId : Uuid) :
    s'.attemptsOf jobId = s.attemptsOf jobId := by
  rcases controlGradingJob_cases hk h with
    ⟨-, rfl⟩ | ⟨job, -, -, -, ⟨job', hc, -⟩ | ⟨-, hc⟩ | ⟨item, -, -, hc⟩⟩
  · rfl
  · exact attemptsOf_congr (by rw [hc.eq]) (by rw [hc.eq])
  · refine attemptsOf_congr (by rw [hc.eq]) ?_
    rw [hc.eq]
    exact map_setWhere _ _ _ _ fun i hi hp => itemUpdateCheck_identity (hc.item_check i hi hp)
  · refine attemptsOf_congr (by rw [hc.eq]) ?_
    rw [hc.eq]
    exact map_replaceRow hk.items hc.item_mem (itemUpdateCheck_identity hc.item_check)

/-- A control that neither ends the pause nor retries keeps a parked batch parked. -/
theorem controlGradingJob_parked (hk : s.Keys) {jobId : Uuid} (hp : s.Parked jobId)
    {teacher : Option Uuid} {id : Uuid} {action : ControlAction} {now : Time} {r : Option Uuid}
    (h : s.controlGradingJob teacher id action now = .ok (r, s'))
    (hends : ¬s.grants jobId endsPause (.controlGradingJob teacher id action now : Action env))
    (hretry : ¬s.grants jobId isRetry (.controlGradingJob teacher id action now : Action env)) :
    s'.Parked jobId := by
  rcases controlGradingJob_cases hk h with
    ⟨-, rfl⟩ | ⟨job, -, hid, rfl, ⟨job', hc, hswitch⟩ | ⟨rfl, hc⟩ | ⟨item, rfl, -, hc⟩⟩
  · exact hp
  · by_cases he : job.id = jobId
    · subst hid
      subst he
      refine hp.replaceRow hk (congrArg Store.jobs hc.eq) hc.job_mem
        (congrArg JobSnapshot.id (jobUpdateCheck_snapshot hc.job_check)) fun hq hr => ?_
      rcases hswitch with ⟨-, hst⟩ | ⟨hresume, -⟩
      · simp [hst]
      · exact absurd ⟨rfl, .inl hresume, s', h⟩ hends
    · exact hp.of_other (congrArg Store.jobs hc.eq) hc.job_mem he
  · exact hp.replaceRow hk (congrArg Store.jobs hc.eq) hc.job_mem rfl fun _ _ => by
      simp [cancelJob]
  · by_cases he : job.id = jobId
    · subst hid
      subst he
      exact absurd ⟨rfl, ⟨item.id, rfl⟩, s', h⟩ hretry
    · exact hp.of_other (congrArg Store.jobs hc.eq) hc.job_mem he

/-! ## The window of a pause -/

/-- Nothing but a resume or a retry opens a parked batch, and nothing is claimed from one. -/
theorem step_parked {a : Action env} (hs : Steady env s) {jobId : Uuid} (hp : s.Parked jobId)
    (hends : ¬s.grants jobId endsPause a) (hretry : ¬s.grants jobId isRetry a) :
    (step env s a).Parked jobId ∧ (step env s a).attemptsOf jobId = s.attemptsOf jobId := by
  refine step_induction (P := fun t => t.Parked jobId ∧ t.attemptsOf jobId = s.attemptsOf jobId)
    ⟨hp, rfl⟩ fun s' h => ?_
  have hk := hs.wellFormed.sound.keys
  by_cases hcontrol : isControl a
  · cases a with
    | controlGradingJob =>
      obtain ⟨_, h⟩ := map_snd_eq_ok.1 h
      exact ⟨controlGradingJob_parked hk hp h hends hretry, controlGradingJob_attemptsOf hk h jobId⟩
    | _ => exact hcontrol.elim
  · -- the chain of moves, each from a steady store
    have hworks := exec_works (R := fun _ _ => True) hs.wellFormed.sound (failureIs_true a) hcontrol h
    clear h
    suffices hall : Steady env s' ∧ s'.Parked jobId ∧ s'.attemptsOf jobId = s.attemptsOf jobId from
      hall.2
    induction hworks with
    | refl => exact ⟨hs, hp, rfl⟩
    | tail _ hw ih =>
      obtain ⟨ht, hpt, hat⟩ := ih
      exact ⟨hw.move.steady ht, hw.parked ht.wellFormed ht.consistent hpt,
        (hw.attemptsOf ht.wellFormed hpt).trans hat⟩

/-- The owner can pause any batch that is queued or running. -/
theorem pause_ok (hw : WellFormed env s) {j : GradingJob} (hj : j ∈ s.jobs)
    (hst : j.status = .queued ∨ j.status = .running) (now : Time) :
    s.controlGradingJob (some j.ownerId) j.id .pause now = .ok (some j.id,
      { s with jobs := replaceRow (·.id) j (pauseJob now j) s.jobs }) := by
  have hk := hw.sound.keys
  have htimes := hw.rows.job_times j hj
  have hchk : jobUpdateCheck j (pauseJob now j) = .ok () := by
    rw [jobUpdateCheck_eq_ok]
    unfold GradingJob.timestampsCheck at htimes ⊢
    rcases hst with h | h
    · rw [h] at htimes ⊢
      exact ⟨rfl, rfl, by simp_all [pauseJob]⟩
    · rw [h] at htimes ⊢
      exact ⟨rfl, rfl, by simp_all [pauseJob]⟩
  have hfind : s.jobs.find? (fun x => x.id == j.id && x.ownerId == j.ownerId) = some j :=
    find?_eq_some_of_key hk.jobs hj _ (by simp) fun x hx => by
      simp only [Bool.and_eq_true, beq_iff_eq] at hx
      exact hx.1
  unfold controlGradingJob
  simp only [hfind]
  rw [if_pos hst, bind_eq_ok]
  exact ⟨_, (updateJob_eq_ok hk.jobs hj rfl (by simp [pauseJob])).2 ⟨hchk, rfl⟩, rfl⟩

/-- The owner can retry any unconfirmed item that waits for review or failed, unless the batch is
cancelled. -/
theorem retry_ok (hw : WellFormed env s) {j : GradingJob} (hj : j ∈ s.jobs)
    (hne : j.status ≠ .cancelled) {i : GradingJobItem} (hi : i ∈ s.items)
    (hij : i.gradingJobId = j.id) (hst : i.status = .needsReview ∨ i.status = .failed)
    (hun : ∀ r ∈ s.reviews, r.gradingJobItemId = i.id → r.status ≠ .confirmed)
    (hprovider : ∃ p ∈ s.providers, p.id = j.providerConfigId ∧
      p.configVersion = j.providerConfigVersion) (now : Time) :
    s.controlGradingJob (some j.ownerId) j.id (.retry i.id) now = .ok (some j.id,
      { s with
        items := replaceRow (·.id) i (retryItem now i) s.items
        jobs := replaceRow (·.id) j (reopenJob now j) s.jobs }) := by
  have hk := hw.sound.keys
  obtain ⟨j', hj', hid, hown, -⟩ := hw.refs.items i hi
  rw [eq_of_key_eq hk.jobs hj' hj (hid.trans hij)] at hown
  obtain ⟨p, hp, hpid, hpver⟩ := hprovider
  have hichk : itemUpdateCheck i (retryItem now i) = .ok () := by
    rw [itemUpdateCheck_eq_ok]
    refine ⟨rfl, ?_, ?_, rfl, rfl⟩
    · rcases hst with h | h <;> rw [h] <;> rfl
    · rw [if_pos ⟨hst, rfl⟩]
      exact ⟨rfl, rfl⟩
  have hjchk : jobUpdateCheck j (reopenJob now j) = .ok () := by
    rw [jobUpdateCheck_eq_ok]
    refine ⟨rfl, ?_, by simp [GradingJob.timestampsCheck, reopenJob]⟩
    cases h : j.status with
    | cancelled => exact absurd h hne
    | _ => rfl
  have hfind : s.jobs.find? (fun x => x.id == j.id && x.ownerId == j.ownerId) = some j :=
    find?_eq_some_of_key hk.jobs hj _ (by simp) fun x hx => by
      simp only [Bool.and_eq_true, beq_iff_eq] at hx
      exact hx.1
  have hretry : s.retryable j j.ownerId i.id i = true := by
    simp only [retryable, Bool.and_eq_true, Bool.or_eq_true, beq_iff_eq, Bool.not_eq_true',
      List.any_eq_false, not_and]
    exact ⟨⟨⟨⟨trivial, hij⟩, hown.symm⟩, hst⟩, fun r hr hq => hun r hr hq.1⟩
  have hkey : ∀ x ∈ s.items, s.retryable j j.ownerId i.id x = true → x.id = i.id := fun x _ hx => by
    simp only [retryable, Bool.and_eq_true, beq_iff_eq] at hx
    exact hx.1.1.1.1
  unfold controlGradingJob
  simp only [hfind]
  rw [if_pos (List.any_eq_true.2 ⟨p, hp, by simp [hpid, hpver]⟩),
    if_pos (List.any_eq_true.2 ⟨i, hi, hretry⟩)]
  simp only [bind_eq_ok, updateItems_eq_ok]
  refine ⟨_, ⟨rfl, fun x hx hxr => ?_⟩, ?_⟩
  · rw [eq_of_key_eq hk.items hx hi (hkey x hx hxr)]
    exact hichk
  · rw [setWhere_eq_replaceRow hk.items hi hretry hkey]
    exact ⟨_, (updateJob_eq_ok (by exact hk.jobs) (by exact hj) rfl (by simp [reopenJob])).2
      ⟨hjchk, rfl⟩, rfl⟩

/-- A granted pause parks the batch. -/
theorem pause_parked (hk : s.Keys) {teacher : Option Uuid} {jobId : Uuid} {now : Time}
    (h : s.controlGradingJob teacher jobId .pause now = .ok (some jobId, s')) : s'.Parked jobId := by
  rcases controlGradingJob_cases hk h with
    ⟨hr, -⟩ | ⟨job, -, hid, -, ⟨job', hc, ⟨-, hst⟩ | ⟨hne, -⟩⟩ | ⟨hc, -⟩ | ⟨item, hc, -⟩⟩
  · cases hr
  · refine ⟨job', ?_, ?_, by simp [hst]⟩
    · rw [hc.eq]
      exact (mem_replaceRow hc.job_mem).2 (.inl rfl)
    · exact (congrArg JobSnapshot.id (jobUpdateCheck_snapshot hc.job_check)).trans hid
  · cases hne
  · cases hc
  · cases hc

/-- A granted retry sets the batch to running, a paused one too. -/
theorem retry_running (hk : s.Keys) {teacher : Option Uuid} {jobId itemId : Uuid} {now : Time}
    (h : s.controlGradingJob teacher jobId (.retry itemId) now = .ok (some jobId, s')) :
    ∃ j ∈ s'.jobs, j.id = jobId ∧ j.status = .running := by
  rcases controlGradingJob_cases hk h with
    ⟨hr, -⟩ | ⟨job, -, hid, -, ⟨job', hc, ⟨hne, -⟩ | ⟨hne, -⟩⟩ | ⟨hc, -⟩ | ⟨item, -, -, hc⟩⟩
  · cases hr
  · cases hne
  · cases hne
  · cases hc
  · refine ⟨reopenJob now job, ?_, hid, rfl⟩
    rw [hc.eq]
    exact (mem_replaceRow hc.job_mem).2 (.inl rfl)

/-- **Without a retry nothing is claimed from a paused batch.** -/
theorem after_paused (as bs : List (Action env)) {teacher : Option Uuid} {jobId : Uuid} {now : Time}
    {s₀ : Store} (hpause : (after env as).controlGradingJob teacher jobId .pause now =
      .ok (some jobId, s₀))
    (hends : Runs.Guarded (step env) (fun s a => ¬s.grants jobId endsPause a) s₀ bs)
    (hretry : Runs.Guarded (step env) (fun s a => ¬s.grants jobId isRetry a) s₀ bs) :
    (Runs.run (step env) s₀ bs).attemptsOf jobId = s₀.attemptsOf jobId := by
  have hs : Steady env (after env as) := after_steady as
  have hs₀ : Steady env s₀ := by
    have hstep : step env (after env as) (.controlGradingJob teacher jobId .pause now) = s₀ :=
      step_of_ok (map_snd_eq_ok.2 ⟨_, hpause⟩)
    exact hstep ▸ step_steady hs _
  have hp := pause_parked hs.wellFormed.sound.keys hpause
  exact (Runs.run_invariant_of_guarded (P := fun t => Steady env t ∧ t.Parked jobId ∧
      t.attemptsOf jobId = s₀.attemptsOf jobId) ⟨hs₀, hp, rfl⟩ (Runs.guarded_and hends hretry)
    fun t a ht hg => by
      obtain ⟨hparked, hattempts⟩ := step_parked ht.1 ht.2.1 hg.1 hg.2
      exact ⟨step_steady ht.1 a, hparked, hattempts.trans ht.2.2⟩).2.2

end Store

/-! ## A batch that goes on while it is paused -/

namespace Sample

open Store Table

def secondSubmission : Uuid := 15

def secondSourceKey : String :=
  "teachers/00000000-0000-0000-0000-000000000001/assignments/00000000-0000-0000-0000-000000000002/submissions/00000000-0000-0000-0000-00000000000f/source.pdf"

def secondBlocksKey : String :=
  "teachers/00000000-0000-0000-0000-000000000001/assignments/00000000-0000-0000-0000-000000000002/submissions/00000000-0000-0000-0000-00000000000f/document-blocks.v1.json"

def pairPayload : GradingJobCreate :=
  ⟨[submission, secondSubmission], "k", by decide, by decide, payload.keyOk⟩

/-- The school with a second parsed paper. -/
def pairParsing : List (Action sampleRuntime) :=
  setup.take 9 ++
    [.reserveSubmission teacher
      ⟨secondSubmission, assignment, "b.pdf", .pdf, 10, 1, secondSourceKey⟩,
     .transitionSubmission (some teacher) secondSubmission .parsing,
     .transitionSubmission (some teacher) secondSubmission (.ready secondBlocksKey)]

def secondSubmissionRow : Submission :=
  ⟨secondSubmission, teacher, assignment, "b.pdf", .pdf, 10, 1, secondSourceKey,
    some secondBlocksKey, .ready, none⟩

def pairParsed : Store := { parsed with submissions := [submissionRow, secondSubmissionRow] }

def pairJob : GradingJob :=
  createdJob sampleRuntime teacher pairPayload assignmentRow rubricRow rubric providerRow snapshot
    "m" seed

def pairItem : GradingJobItem := createdItem pairJob seed 0 submission
def secondItem : GradingJobItem := createdItem pairJob seed 1 secondSubmission

/-- The batch of both papers. -/
def pair : Store := { pairParsed with jobs := [pairJob], items := [pairItem, secondItem] }

theorem after_pairParsing : after sampleRuntime pairParsing = pairParsed := by
  have hparsed : Runs.run (step sampleRuntime) empty (setup.take 9) = parsed := after_parsed
  rw [pairParsing, after, Runs.run_append, hparsed]
  decide +kernel

theorem create_pair :
    pairParsed.createOrGetJob sampleRuntime teacher assignment pairPayload true seed =
      .ok ((job, true), pair) := by
  unfold createOrGetJob
  rw [show pairParsed.jobByKey teacher pairPayload.idempotencyKey = none from rfl]
  simp only [bind_eq_ok, require_eq_ok, insertJob_eq_ok]
  refine ⟨(), trivial, (assignmentRow, rubricRow, rubric, providerRow, "m", profile),
    by decide +kernel, (), by decide +kernel, (), by decide +kernel, _,
    ⟨rfl, by decide +kernel, rfl⟩, pair, ?_, (), rfl, rfl⟩
  refine bind_eq_ok.2 ⟨{ pairParsed with jobs := [pairJob], items := [pairItem] },
    insertItem_eq_ok.2 ⟨rfl, by decide +kernel, rfl⟩, ?_⟩
  exact bind_eq_ok.2 ⟨pair, insertItem_eq_ok.2 ⟨rfl, by decide +kernel, by decide +kernel⟩, rfl⟩

/-- The first paper is being graded. -/
def pairRun : List (Action sampleRuntime) :=
  pairParsing ++ [.createOrGetJob teacher assignment pairPayload true seed] ++
    [.claimAttempt preparation 0 ⟨1, 1⟩ 8 9]

def pairAttempt : GradingAttempt := pair.claimedAttempt preparation pairItem 0 1 8

def runningPairItem : GradingJobItem := claimItem 1 9 snapshot.timeoutSeconds pairItem

def pairClaimed : Store :=
  { pair with
    attempts := [pairAttempt]
    items := [runningPairItem, secondItem]
    jobs := [claimJob 1 pairJob] }

theorem after_pair : after sampleRuntime
    (pairParsing ++ [.createOrGetJob teacher assignment pairPayload true seed]) = pair := by
  rw [after_concat, after_pairParsing]
  exact step_of_ok (map_snd_eq_ok.2 ⟨_, create_pair⟩)

theorem after_pairRun : after sampleRuntime pairRun = pairClaimed := by
  have hw : WellFormed sampleRuntime pair := after_pair ▸ after_wellFormed _
  have hrows : pair.claimableRows preparation 1 = some (pairJob, pairItem) := rfl
  have hcheck : pair.attemptInsertCheck pairAttempt = .ok () := by decide +kernel
  have hunique : attemptsUnique (pair.attempts ++ [pairAttempt]) = true := by decide +kernel
  have hclaim : pair.claimAttempt preparation 0 ⟨1, 1⟩ 8 9 = .ok _ :=
    claimAttempt_ok hw (by decide +kernel) hrows hcheck hunique
  rw [show pair.items = [pairItem, secondItem] from rfl, replaceRow_cons_self (by decide),
    show pair.jobs = [pairJob] from rfl, replaceRow_singleton] at hclaim
  rw [pairRun, after_concat, after_pair]
  exact step_of_ok (map_snd_eq_ok.2 ⟨_, hclaim⟩)

def pausedPairJob : GradingJob := pauseJob 2 (claimJob 1 pairJob)

/-- The teacher pauses the batch meanwhile. -/
def pairPaused : Store := { pairClaimed with jobs := [pausedPairJob] }

theorem pause_pair : pairClaimed.controlGradingJob (some teacher) job .pause 2 =
    .ok (some job, pairPaused) := by
  have hw : WellFormed sampleRuntime pairClaimed := after_pairRun ▸ after_wellFormed _
  have hjob : claimJob 1 pairJob ∈ pairClaimed.jobs := List.mem_singleton.2 rfl
  have h := pause_ok hw hjob (.inr rfl) 2
  refine h.trans ?_
  rw [show pairClaimed.jobs = [claimJob 1 pairJob] from rfl, replaceRow_singleton]
  rfl

/-- The provider refuses the first paper. -/
def refused : GradingAttemptFailure := { notSent with action := .failed }

def failedPairItem : GradingJobItem := failItem refused 3 runningPairItem

def failedPairAttempt : GradingAttempt :=
  failedAttempt refused pairAttempt.toAttemptUsage 3 pairAttempt

def waitingPairJob : GradingJob := reconciledJob [.failed, .queued] 3 pausedPairJob

/-- The first paper failed, the second waits, the batch is paused. -/
def pairFailed : Store :=
  { pairPaused with
    attempts := [failedPairAttempt]
    items := [failedPairItem, secondItem]
    jobs := [waitingPairJob] }

/-- The teacher retries the first paper: the batch runs. -/
def pairRetried : Store :=
  { pairFailed with
    items := [retryItem 4 failedPairItem, secondItem]
    jobs := [reopenJob 4 waitingPairJob] }

def secondPreparation : GradingItemPreparation :=
  { preparation with
    itemId := secondItem.id
    submissionId := secondSubmission
    extractedObjectKey := secondBlocksKey }

/-- What happens until the second paper is claimed. -/
def whilePaused : List (Action sampleRuntime) :=
  [.finishFailure firstClaim refused ⟨3, 3⟩,
   .controlGradingJob (some teacher) job (.retry item) 4,
   .claimAttempt secondPreparation 0 ⟨5, 5⟩ 10 11]

theorem fail_pairPaused (hs : Steady sampleRuntime pairPaused) :
    pairPaused.finishFailure firstClaim refused ⟨3, 3⟩ = .ok pairFailed := by
  have hlock : pairPaused.lockClaimed firstClaim =
      .ok (pausedPairJob, runningPairItem, pairAttempt) := rfl
  exact (finishFailure_ok hs hlock fun _ => by decide +kernel).2
    ⟨_, rfl, by decide +kernel, by decide +kernel, rfl⟩

theorem retry_pairFailed (hw : WellFormed sampleRuntime pairFailed) :
    pairFailed.controlGradingJob (some teacher) job (.retry item) 4 =
      .ok (some job, pairRetried) := by
  have hjob : waitingPairJob ∈ pairFailed.jobs := List.mem_singleton.2 rfl
  have hitem : failedPairItem ∈ pairFailed.items := List.mem_cons_self
  have h := retry_ok hw hjob (by decide) hitem rfl (.inr rfl) nofun
    ⟨providerRow, List.mem_singleton.2 rfl, rfl, rfl⟩ 4
  refine h.trans ?_
  rw [show pairFailed.jobs = [waitingPairJob] from rfl, replaceRow_singleton]
  rfl

def secondAttempt : GradingAttempt :=
  pairRetried.claimedAttempt secondPreparation secondItem 0 5 10

theorem claim_pairRetried (hw : WellFormed sampleRuntime pairRetried) :
    ∃ v s', pairRetried.claimAttempt secondPreparation 0 ⟨5, 5⟩ 10 11 = .ok (v, s') ∧
      secondAttempt.toAttemptIdentity ∈ s'.attemptsOf job := by
  have hrows : pairRetried.claimableRows secondPreparation 5 =
      some (reopenJob 4 waitingPairJob, secondItem) := rfl
  have hcheck : pairRetried.attemptInsertCheck secondAttempt = .ok () := by decide +kernel
  have hunique : attemptsUnique (pairRetried.attempts ++ [secondAttempt]) = true := by
    decide +kernel
  have hitem : secondItem ∈ pairRetried.items := List.mem_cons_of_mem _ List.mem_cons_self
  refine ⟨_, _, claimAttempt_ok hw (by decide +kernel) hrows hcheck hunique, ?_⟩
  rw [mem_attemptsOf]
  refine ⟨List.mem_map.2 ⟨secondAttempt, List.mem_append_right _ List.mem_cons_self, rfl⟩,
    claimItem 5 11 snapshot.timeoutSeconds secondItem, ?_, rfl, rfl⟩
  show _ ∈ replaceRow (·.id) secondItem _ pairRetried.items
  exact (mem_replaceRow hitem).2 (.inl rfl)

/-- Without the retry the second paper waits, whoever tries to claim it. -/
theorem whilePaused_waits : (Runs.run (step sampleRuntime) pairPaused
    [.finishFailure firstClaim refused ⟨3, 3⟩,
     .claimAttempt secondPreparation 0 ⟨5, 5⟩ 10 11]).attemptsOf job =
      pairPaused.attemptsOf job :=
  after_paused pairRun _ (by rw [after_pairRun]; exact pause_pair)
    (by simp [Runs.Guarded, grants]) (by simp [Runs.Guarded, grants])

/-- **A retry reopens a paused batch**: a paper that nobody retried is claimed. -/
theorem whilePaused_claims :
    ¬∀ (as bs : List (Action sampleRuntime)) (teacher : Option Uuid) (jobId : Uuid) (now : Time)
      (s₀ : Store), (after sampleRuntime as).controlGradingJob teacher jobId .pause now =
          .ok (some jobId, s₀) →
        Runs.Guarded (step sampleRuntime) (fun s a => ¬s.grants jobId endsPause a) s₀ bs →
        (Runs.run (step sampleRuntime) s₀ bs).attemptsOf jobId = s₀.attemptsOf jobId := by
  intro h
  have hpaused : Steady sampleRuntime pairPaused := by
    have hs : Steady sampleRuntime (after sampleRuntime pairRun) := after_steady pairRun
    rw [after_pairRun] at hs
    have hstep : step sampleRuntime pairClaimed (.controlGradingJob (some teacher) job .pause 2) =
        pairPaused := step_of_ok (map_snd_eq_ok.2 ⟨_, pause_pair⟩)
    exact hstep ▸ step_steady hs _
  have hfail : step sampleRuntime pairPaused (.finishFailure firstClaim refused ⟨3, 3⟩) =
      pairFailed := step_of_ok (fail_pairPaused hpaused)
  have hfailed : Steady sampleRuntime pairFailed := hfail ▸ step_steady hpaused _
  have hretry : step sampleRuntime pairFailed
      (.controlGradingJob (some teacher) job (.retry item) 4) = pairRetried :=
    step_of_ok (map_snd_eq_ok.2 ⟨_, retry_pairFailed hfailed.wellFormed⟩)
  have hretried : Steady sampleRuntime pairRetried := hretry ▸ step_steady hfailed _
  obtain ⟨v, s', hclaim, hmem⟩ := claim_pairRetried hretried.wellFormed
  have hend := h pairRun whilePaused (some teacher) job 2 pairPaused
    (by rw [after_pairRun]; exact pause_pair)
    (by simp [whilePaused, Runs.Guarded, grants, endsPause])
  have hrun : Runs.run (step sampleRuntime) pairPaused whilePaused = s' := by
    rw [whilePaused, Runs.run_cons, hfail, Runs.run_cons, hretry, Runs.run_cons, Runs.run_nil]
    exact step_of_ok (map_snd_eq_ok.2 ⟨_, hclaim⟩)
  rw [hrun] at hend
  rw [hend, mem_attemptsOf] at hmem
  have hid := congrArg AttemptIdentity.id (List.mem_singleton.1 hmem.1)
  exact absurd hid (by decide)

end Sample

end PaperGrading
