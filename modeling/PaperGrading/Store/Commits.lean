import PaperGrading.Store.Batches

/-!
# What always commits

In a reachable store the triggers on jobs and items never stop a worker: the batch of
a running item is running, paused or cancelled, so the derived status is an allowed
one, and it has as many items as its snapshot says.  A finish call is refused for the
values of the attempt row only; cancelling an open batch is never refused.

    every job has the items it was created with                                  (after_counted)
    closeAttempt commits ↔ the attempt row is accepted                          (closeAttempt_ok)
    cancelling an open batch commits                                                  (cancel_ok)
-/

namespace PaperGrading

namespace Store

open Table

variable {env : Runtime} {R : GradingJob → GradingAttemptFailure → Prop}
  {keep : RubricVersion → Prop} {s s' : Store}

/-! ## The items of a batch are never lost -/

/-- Every job has the items it was created with. -/
def Counted (s : Store) : Prop :=
  ∀ j ∈ s.jobs, (s.itemStatuses j.id).length = j.expectedItemCount

theorem length_itemStatuses (s : Store) (jobId : Uuid) :
    (s.itemStatuses jobId).length =
      (s.items.map (·.toItemIdentity)).countP (·.gradingJobId == jobId) := by
  rw [itemStatuses, List.length_map, ← List.countP_eq_length_filter, List.countP_map]
  rfl

theorem Move.counted (hw : WellFormed env s) (hc : s.Counted) (h : Move env R keep s s') :
    s'.Counted := by
  rcases h.identities hw.sound.keys with ⟨job, items, h⟩ | ⟨hjobs, hitems⟩
  · intro j hj
    rw [congrArg Store.jobs h.eq] at hj
    rcases List.mem_append.1 hj with hj | hj
    · -- the new items belong to the new job
      have hne : j.id ≠ job.id := fun he => by
        have hpair : (s.jobs ++ [job]).Pairwise fun x y => jobConflict x y = false := by
          simpa [jobsUnique] using h.jobs_unique
        have := (List.pairwise_append.1 hpair).2.2 j hj job (by simp)
        simp [jobConflict, he] at this
      rw [← hc j hj, length_itemStatuses, length_itemStatuses, congrArg Store.items h.eq,
        List.map_append, List.countP_append, Nat.add_eq_left, List.countP_eq_zero]
      intro x hx
      obtain ⟨i, hi, rfl⟩ := List.mem_map.1 hx
      rw [h.item_job i hi, beq_iff_eq]
      exact hne.symm
    · rw [List.mem_singleton.1 hj]
      exact h.count
  · intro j hj
    have hj' : j.toJobSnapshot ∈ s.jobs.map (·.toJobSnapshot) := hjobs ▸ List.mem_map_of_mem hj
    obtain ⟨j₀, hj₀, he⟩ := List.mem_map.1 hj'
    have hid : j₀.id = j.id := congrArg JobSnapshot.id he
    have hcount : j₀.expectedItemCount = j.expectedItemCount :=
      congrArg JobSnapshot.expectedItemCount he
    rw [length_itemStatuses, hitems, ← length_itemStatuses, ← hid, hc j₀ hj₀, hcount]

theorem after_counted (as : List (Action env)) : (after env as).Counted :=
  after_invariant (fun _ _ hw h hc => h.counted hw hc) (by simp [Counted, empty]) as

/-! ## Claims -/

theorem claimItem_check {i : GradingJobItem} {now : Time} {token : Uuid} {timeout : Decimal}
    (hq : i.status = .queued) (hstate : i.stateCheck = true) :
    itemUpdateCheck i (claimItem now token timeout i) = .ok () := by
  unfold GradingJobItem.stateCheck at hstate
  rw [hq] at hstate
  simp only [Bool.and_eq_true, Option.isNone_iff_eq_none] at hstate
  obtain ⟨⟨⟨hfinished, -⟩, -⟩, herror⟩ := hstate
  rw [itemUpdateCheck_eq_ok]
  refine ⟨rfl, by rw [hq]; rfl, by simp [hq, claimItem], by simp [claimItem, herror], ?_⟩
  cases h : i.startedAt <;> simp [GradingJobItem.stateCheck, claimItem, hfinished, herror, h]

theorem claimJob_check {j : GradingJob} {now : Time} (hst : j.status = .queued ∨ j.status = .running)
    (htimes : j.timestampsCheck = true) : jobUpdateCheck j (claimJob now j) = .ok () := by
  unfold GradingJob.timestampsCheck at htimes
  rw [jobUpdateCheck_eq_ok]
  rcases hst with hst | hst
  · simp only [hst, Bool.and_eq_true, Option.isNone_iff_eq_none] at htimes
    rw [claimJob, if_pos hst]
    exact ⟨rfl, by rw [hst]; rfl, by simp [GradingJob.timestampsCheck, htimes.1, htimes.2]⟩
  · simp only [hst, Bool.and_eq_true, Option.isNone_iff_eq_none] at htimes
    rw [claimJob, if_neg (by simp [hst])]
    exact ⟨rfl, by rw [hst]; rfl,
      by simp [GradingJob.timestampsCheck, hst, htimes.1, htimes.2]⟩

/-- A claim commits if the attempt row is accepted. -/
theorem claimAttempt_ok (hw : WellFormed env s) {prepared : GradingItemPreparation} {hash : Hash}
    {clock : Clock} {attemptId token : Uuid} {job : GradingJob} {item : GradingJobItem}
    (hfree : s.runningCount prepared.providerConfigId < prepared.providerSnapshot.maxConcurrency)
    (hrows : s.claimableRows prepared clock.database = some (job, item))
    (hcheck : s.attemptInsertCheck (s.claimedAttempt prepared item hash clock.worker attemptId) =
      .ok ())
    (hunique : attemptsUnique
      (s.attempts ++ [s.claimedAttempt prepared item hash clock.worker attemptId]) = true) :
    s.claimAttempt prepared hash clock attemptId token =
      .ok (some ⟨attemptId,
          (s.claimedAttempt prepared item hash clock.worker attemptId).attemptNumber,
          item.dispatchVersion,
          (s.claimedAttempt prepared item hash clock.worker attemptId).callSequence, token, hash⟩,
        { s with
          attempts := s.attempts ++ [s.claimedAttempt prepared item hash clock.worker attemptId]
          items := replaceRow (·.id) item
            (claimItem clock.worker token prepared.providerSnapshot.timeoutSeconds item) s.items
          jobs := replaceRow (·.id) job (claimJob clock.worker job) s.jobs }) := by
  have hk := hw.sound.keys
  obtain ⟨hj, hi, -, hopen, hq, -⟩ := claimableRows_some hk hrows
  have hjobRow : ∀ (t : Store) (b : Bool),
      jobRow t clock.database b (claimJob clock.worker) job = claimJob clock.worker job := by
    intro t b
    unfold jobRow
    split
    · exact preserveActiveJobStatus_of_ne (claimJob_status_ne _ _ hopen)
    · rfl
  unfold claimAttempt
  rw [if_neg (by omega), hrows]
  simp only [bind_eq_ok, insertAttempt_eq_ok, updateItems_eq_ok, updateJobs_eq_ok]
  refine ⟨_, ⟨rfl, hcheck, hunique⟩, _, ⟨rfl, fun i hi' he => ?_⟩, _, ⟨rfl, fun j hj' he => ?_⟩, ?_⟩
  · rw [eq_of_key_eq hk.items hi' hi (by simpa using he)]
    exact claimItem_check hq (hw.rows.item_state item hi)
  · rw [eq_of_key_eq hk.jobs hj' hj (by simpa using he), hjobRow]
    exact claimJob_check hopen (hw.rows.job_times job hj)
  · rw [setWhere_eq_replaceRow hk.jobs hj (by simp) (by simp), hjobRow,
      setWhere_eq_replaceRow hk.items hi (by simp) (by simp)]
    rfl

/-! ## Closing an attempt -/

/-- What the item keeps of the error is what the attempt keeps. -/
theorem closing_errorCode {now : Time} {job : GradingJob} {attempt attempt' : GradingAttempt}
    {item item' : GradingJobItem} (h : Closing R now job attempt item attempt' item') :
    item'.errorCode = none ∨ item'.errorCode = attempt'.errorCode := by
  cases h with
  | succeeded => exact .inl rfl
  | failed f =>
    unfold failItem
    cases f.action with
    | retry => exact .inl rfl
    | needsReview => exact .inr rfl
    | failed => exact .inr rfl
  | expired => exact .inr rfl

theorem rowCheck_errorCode {a : GradingAttempt} (h : a.rowCheck = .ok ()) :
    a.errorCode.all textOk = true := by
  unfold GradingAttempt.rowCheck at h
  simp only [bind_eq_ok, require_eq_ok] at h
  obtain ⟨_, -, _, htexts, -⟩ := h
  rw [List.all_eq_true] at htexts
  cases hc : a.errorCode with
  | none => rfl
  | some code => exact htexts code (by simp [GradingAttempt.texts, hc])

theorem closeItem_check {i : GradingJobItem} {status : ItemStatus} {code : Option String} {now : Time}
    (hr : i.status = .running) (hst : status = .needsReview ∨ status = .failed)
    (htext : code.all textOk = true) (hcode : code.all (!btrimEmpty ·) = true) :
    itemUpdateCheck i (closeItem status code now i) = .ok () := by
  rw [itemUpdateCheck_eq_ok]
  rcases hst with rfl | rfl
  · exact ⟨rfl, by rw [hr]; rfl, by simp [hr, closeItem], htext,
      by simpa [GradingJobItem.stateCheck, closeItem] using hcode⟩
  · exact ⟨rfl, by rw [hr]; rfl, by simp [hr, closeItem], htext,
      by simpa [GradingJobItem.stateCheck, closeItem] using hcode⟩

theorem requeueItem_check {i : GradingJobItem} {delay : Nat} {now : Time} (hr : i.status = .running) :
    itemUpdateCheck i (requeueItem delay now i) = .ok () := by
  rw [itemUpdateCheck_eq_ok]
  exact ⟨rfl, by rw [hr]; rfl, by simp [hr, requeueItem], rfl, rfl⟩

theorem closing_item_check {now : Time} {job : GradingJob} {attempt attempt' : GradingAttempt}
    {item item' : GradingJobItem} (hr : item.status = .running)
    (h : Closing R now job attempt item attempt' item') (hrow : attempt'.rowCheck = .ok ())
    (hcode : item'.errorCode.all (!btrimEmpty ·) = true) : itemUpdateCheck item item' = .ok () := by
  have htext : item'.errorCode.all textOk = true := by
    rcases closing_errorCode h with he | he <;> rw [he]
    · rfl
    · exact rowCheck_errorCode hrow
  cases h with
  | succeeded => exact closeItem_check hr (.inl rfl) htext hcode
  | failed f =>
    unfold failItem at htext hcode ⊢
    cases ha : f.action with
    | retry => exact requeueItem_check hr
    | needsReview => rw [ha] at htext hcode; exact closeItem_check hr (.inl rfl) htext hcode
    | failed => rw [ha] at htext hcode; exact closeItem_check hr (.inr rfl) htext hcode
  | expired => exact closeItem_check hr (.inl rfl) htext hcode

/-- A derived status is always an allowed one. -/
theorem reconciledJob_check {j : GradingJob} {statuses : List ItemStatus} {now : Time}
    (hst : j.status = .running ∨ j.status = .paused ∨ j.status = .cancelled)
    (htimes : j.timestampsCheck = true) : jobUpdateCheck j (reconciledJob statuses now j) = .ok () := by
  rw [jobUpdateCheck_eq_ok]
  unfold reconciledJob
  split
  next hidle =>
    have hopen : j.status = .running ∨ j.status = .paused := by
      rcases hst with h | h | h
      · exact .inl h
      · exact .inr h
      · exact absurd h hidle.1
    have hstarted : j.startedAt.isSome = true := by
      unfold GradingJob.timestampsCheck at htimes
      rcases hopen with h | h <;> (rw [h] at htimes; simp only [Bool.and_eq_true] at htimes; exact htimes.1)
    rw [reconciledStatus, if_pos hidle]
    refine ⟨rfl, ?_, ?_⟩
    · rcases hopen with h | h <;> rw [h] <;> split <;> (try split) <;> rfl
    · by_cases hrev : .needsReview ∈ statuses ∨ .completed ∈ statuses
      · simpa [GradingJob.timestampsCheck, hrev] using hstarted
      · by_cases hf : .failed ∈ statuses <;> simp [GradingJob.timestampsCheck, hrev, hf]
  · exact ⟨rfl, by simp [GradingJob.allowedMove], htimes⟩

/-- The store a close leaves behind. -/
def closedStore (s : Store) (job : GradingJob) (item item' : GradingJobItem)
    (attempt attempt' : GradingAttempt) (now : Time) : Store :=
  let t : Store := { s with
    attempts := replaceRow (·.id) attempt attempt' s.attempts
    items := replaceRow (·.id) item item' s.items }
  { t with jobs := replaceRow (·.id) job (reconciledJob (t.itemStatuses job.id) now job) s.jobs }

/-- The batch of a running item is running, paused or cancelled. -/
theorem running_job {job : GradingJob} (hc : (s.batch job).Consistent) {item : GradingJobItem}
    (hi : item ∈ s.items) (hij : item.gradingJobId = job.id) (hr : item.status = .running) :
    job.status = .running ∨ job.status = .paused ∨ job.status = .cancelled := by
  by_cases hne : job.status = .cancelled
  · exact .inr (.inr hne)
  · rcases hc.running_or_paused hne ⟨item, hi, hij, hr⟩ with h | h
    · exact .inl h
    · exact .inr (.inl h)

/-- **Only the attempt row can refuse a close.** -/
theorem closeAttempt_ok (hw : WellFormed env s) (hcount : s.Counted) {job : GradingJob}
    {item : GradingJobItem} {attempt : GradingAttempt} {setItem : GradingJobItem → GradingJobItem}
    {setAttempt : GradingAttempt → GradingAttempt} {clock : Clock}
    (hc : (s.batch job).Consistent) (hjob : job ∈ s.jobs) (hitem : item ∈ s.items)
    (hattempt : attempt ∈ s.attempts) (hij : item.gradingJobId = job.id)
    (hr : item.status = .running)
    (hclosing : Closing R clock.worker job attempt item (setAttempt attempt) (setItem item))
    (hcode : (setItem item).errorCode.all (!btrimEmpty ·) = true) :
    s.closeAttempt job item attempt setItem setAttempt clock = .ok s' ↔
      (s.attemptUpdateCheck attempt (setAttempt attempt) = .ok () ∧
        attemptsUnique (replaceRow (·.id) attempt (setAttempt attempt) s.attempts) = true) ∧
      s' = s.closedStore job item (setItem item) attempt (setAttempt attempt) clock.worker := by
  have hk := hw.sound.keys
  unfold closeAttempt
  simp only [bind_eq_ok, updateAttempts_eq_ok, updateItems_eq_ok]
  rw [setWhere_eq_replaceRow hk.attemptIds hattempt (by simp) (by simp)]
  constructor
  · rintro ⟨s₁, ⟨rfl, hachk, huniq⟩, s₂, ⟨rfl, -⟩, h⟩
    rw [setWhere_eq_replaceRow hk.items hitem (by simp) (by simp),
      reconcileJob_eq_ok (by exact hk.jobs) (by exact hjob)] at h
    exact ⟨⟨hachk attempt hattempt (by simp), huniq⟩, h.2.2⟩
  · rintro ⟨⟨hachk, huniq⟩, rfl⟩
    have hichk := closing_item_check hr hclosing (attemptUpdateCheck_eq_ok.1 hachk).2.2.2 hcode
    refine ⟨_, ⟨rfl, fun a ha he => ?_, huniq⟩, _, ⟨rfl, fun i hi he => ?_⟩, ?_⟩
    · rw [eq_of_key_eq hk.attemptIds ha hattempt (by simpa using he)]
      exact hachk
    · rw [eq_of_key_eq hk.items hi hitem (by simpa using he)]
      exact hichk
    · rw [setWhere_eq_replaceRow hk.items hitem (by simp) (by simp),
        reconcileJob_eq_ok (by exact hk.jobs) (by exact hjob)]
      refine ⟨?_, reconciledJob_check (running_job hc hitem hij hr) (hw.rows.job_times job hjob),
        rfl⟩
      rw [← hcount job hjob, length_itemStatuses, length_itemStatuses,
        map_replaceRow hk.items hitem (itemUpdateCheck_identity hichk)]

/-! ## Cancelling -/

theorem cancelItem_check {i : GradingJobItem} {now : Time} (hq : i.status = .queued)
    (hstate : i.stateCheck = true) : itemUpdateCheck i (cancelItem now i) = .ok () := by
  unfold GradingJobItem.stateCheck at hstate
  rw [hq] at hstate
  simp only [Bool.and_eq_true, Option.isNone_iff_eq_none] at hstate
  obtain ⟨⟨⟨-, htoken⟩, hexpires⟩, herror⟩ := hstate
  rw [itemUpdateCheck_eq_ok]
  refine ⟨rfl, by rw [hq]; rfl, by simp [hq, cancelItem], by simp [cancelItem, herror], ?_⟩
  simp [GradingJobItem.stateCheck, cancelItem, htoken, hexpires]

theorem cancelJob_check {j : GradingJob} {now : Time}
    (h : j.status = .queued ∨ j.status = .running ∨ j.status = .paused) :
    jobUpdateCheck j (cancelJob now j) = .ok () := by
  rw [jobUpdateCheck_eq_ok]
  refine ⟨rfl, ?_, rfl⟩
  rcases h with h | h | h <;> rw [h] <;> rfl

/-- The owner can cancel any open batch. -/
theorem cancel_ok (hw : WellFormed env s) {j : GradingJob} (hj : j ∈ s.jobs)
    (hopen : j.status = .queued ∨ j.status = .running ∨ j.status = .paused) (now : Time) :
    s.controlGradingJob (some j.ownerId) j.id .cancel now = .ok (some j.id,
      { s with
        items := setWhere (cancellable j) (cancelItem now) s.items
        jobs := replaceRow (·.id) j (cancelJob now j) s.jobs }) := by
  have hk := hw.sound.keys
  have hfind : s.jobs.find? (fun x => x.id == j.id && x.ownerId == j.ownerId) = some j :=
    find?_eq_some_of_key hk.jobs hj _ (by simp) fun x hx => by
      simp only [Bool.and_eq_true, beq_iff_eq] at hx
      exact hx.1
  unfold controlGradingJob
  simp only [hfind]
  rw [if_pos hopen]
  simp only [bind_eq_ok, updateItems_eq_ok]
  refine ⟨_, ⟨rfl, fun i hi hp => ?_⟩, ?_⟩
  · simp only [Bool.and_eq_true, beq_iff_eq] at hp
    exact cancelItem_check hp.2 (hw.rows.item_state i hi)
  · refine ⟨_, (updateJob_eq_ok (by exact hk.jobs) (by exact hj) rfl (by simp [cancelJob])).2
      ⟨cancelJob_check hopen, rfl⟩, rfl⟩

/-! ## Reachable stores -/

/-- What the triggers rely on. -/
structure Steady (env : Runtime) (s : Store) : Prop where
  wellFormed : WellFormed env s
  counted : s.Counted
  consistent : ∀ j ∈ s.jobs, (s.batch j).Consistent

theorem Move.steady (h : Move env R keep s s') (hs : Steady env s) : Steady env s' :=
  ⟨h.wellFormed hs.wellFormed, h.counted hs.wellFormed hs.counted,
    h.batches (fun _ => True) hs.wellFormed (fun _ _ _ _ => trivial)
      (fun _ => Batch.Fresh.consistent) (fun _ _ => Batch.Step.consistent) hs.consistent⟩

theorem step_steady (hs : Steady env s) (a : Action env) : Steady env (step env s a) :=
  step_keeps (P := Steady env) hs.wellFormed.sound (failureIs_true a)
    (fun _ (hr : False) => hr.elim) (fun _ _ _ h ht => h.steady ht) hs

theorem after_steady (as : List (Action env)) : Steady env (after env as) :=
  ⟨after_wellFormed as, after_counted as, after_consistent as⟩

theorem after_concat (as : List (Action env)) (a : Action env) :
    after env (as ++ [a]) = step env (after env as) a := by
  rw [after, Runs.run_append]
  rfl

/-! ## Finish calls -/

/-- Of the checks of a closed attempt only those on the row itself can fail. -/
theorem attemptUpdateCheck_iff (hw : WellFormed env s) {attempt : GradingAttempt}
    (new : GradingAttempt) (ha : attempt ∈ s.attempts) (har : attempt.status = .running) (hne : new.status ≠ .running)
    (hid : new.toAttemptIdentity = attempt.toAttemptIdentity) :
    s.attemptUpdateCheck attempt new = .ok () ↔ new.rowCheck = .ok () := by
  rw [attemptUpdateCheck_eq_ok]
  refine ⟨fun h => h.2.2.2, fun h => ⟨⟨har, hne⟩, hid, ?_, h⟩⟩
  have htotal := hw.refs.totals attempt ha
  rw [validateAttemptScore, require_eq_ok, beq_iff_eq]
  rw [show new.gradingJobItemId = attempt.gradingJobItemId from
      congrArg AttemptIdentity.gradingJobItemId hid,
    show new.ownerId = attempt.ownerId from congrArg AttemptIdentity.ownerId hid,
    show new.maxScore = attempt.maxScore from congrArg AttemptIdentity.maxScore hid]
  exact htotal

/-- **A success commits exactly if its attempt row is accepted.** -/
theorem finishSuccess_ok (hs : Steady env s) {claim : GradingAttemptClaim}
    {c : GradingAttemptCompletion} {clock : Clock} {job : GradingJob} {item : GradingJobItem}
    {attempt : GradingAttempt} (hlock : s.lockClaimed claim = .ok (job, item, attempt)) :
    s.finishSuccess claim c clock = .ok s' ↔
      ∃ result usage, resultColumns c.validatedResult = .ok result ∧
        usageColumns c.providerResult = .ok usage ∧
        (succeededAttempt c result usage clock.worker attempt).rowCheck = .ok () ∧
        attemptsUnique (replaceRow (·.id) attempt
          (succeededAttempt c result usage clock.worker attempt) s.attempts) = true ∧
        s' = s.closedStore job item (closeItem .needsReview none clock.worker item) attempt
          (succeededAttempt c result usage clock.worker attempt) clock.worker := by
  obtain ⟨hjob, hitem, hattempt, hij, hai, hir, har, -, -⟩ := lockClaimed_eq_ok hlock
  have hclose : ∀ (result : AttemptResult) (usage : AttemptUsage),
      s.closeAttempt job item attempt (closeItem .needsReview none clock.worker)
          (succeededAttempt c result usage clock.worker) clock = .ok s' ↔
        (succeededAttempt c result usage clock.worker attempt).rowCheck = .ok () ∧
        attemptsUnique (replaceRow (·.id) attempt
          (succeededAttempt c result usage clock.worker attempt) s.attempts) = true ∧
        s' = s.closedStore job item (closeItem .needsReview none clock.worker item) attempt
          (succeededAttempt c result usage clock.worker attempt) clock.worker := fun result usage => by
    have hrow := attemptUpdateCheck_iff hs.wellFormed
      (succeededAttempt c result usage clock.worker attempt) hattempt har (by simp [succeededAttempt])
      rfl
    rw [closeAttempt_ok (R := fun _ _ => True) hs.wellFormed hs.counted (hs.consistent job hjob)
      hjob hitem hattempt hij hir (.succeeded c result usage) rfl, hrow, and_assoc]
  unfold finishSuccess
  simp only [bind_eq_ok, hlock, Except.ok.injEq]
  constructor
  · rintro ⟨_, rfl, result, hresult, usage, husage, h⟩
    exact ⟨result, usage, hresult, husage,
      (hclose result usage).1 (by simpa only [closeAttempt, bind_eq_ok] using h)⟩
  · rintro ⟨result, usage, hresult, husage, h⟩
    refine ⟨_, rfl, result, hresult, usage, husage, ?_⟩
    simpa only [closeAttempt, bind_eq_ok] using (hclose result usage).2 h

/-- The text an item keeps of a failure. -/
theorem failItem_errorCode {f : GradingAttemptFailure} {now : Time} {i : GradingJobItem}
    (h : f.action ≠ .retry → btrimEmpty f.errorCode = false) :
    (failItem f now i).errorCode.all (!btrimEmpty ·) = true := by
  unfold failItem
  cases ha : f.action with
  | retry => rfl
  | needsReview => simpa [closeItem] using h (by simp [ha])
  | failed => simpa [closeItem] using h (by simp [ha])

/-- **A failure commits exactly if its attempt row is accepted.** -/
theorem finishFailure_ok (hs : Steady env s) {claim : GradingAttemptClaim}
    {f : GradingAttemptFailure} {clock : Clock} {job : GradingJob} {item : GradingJobItem}
    {attempt : GradingAttempt} (hlock : s.lockClaimed claim = .ok (job, item, attempt))
    (hcode : f.action ≠ .retry → btrimEmpty f.errorCode = false) :
    s.finishFailure claim f clock = .ok s' ↔
      ∃ usage, failureUsage f attempt.toAttemptUsage = .ok usage ∧
        (failedAttempt f usage clock.worker attempt).rowCheck = .ok () ∧
        attemptsUnique (replaceRow (·.id) attempt
          (failedAttempt f usage clock.worker attempt) s.attempts) = true ∧
        s' = s.closedStore job item (failItem f clock.worker item) attempt
          (failedAttempt f usage clock.worker attempt) clock.worker := by
  obtain ⟨hjob, hitem, hattempt, hij, hai, hir, har, -, -⟩ := lockClaimed_eq_ok hlock
  have hclose : ∀ usage : AttemptUsage,
      s.closeAttempt job item attempt (failItem f clock.worker)
          (failedAttempt f usage clock.worker) clock = .ok s' ↔
        (failedAttempt f usage clock.worker attempt).rowCheck = .ok () ∧
        attemptsUnique (replaceRow (·.id) attempt
          (failedAttempt f usage clock.worker attempt) s.attempts) = true ∧
        s' = s.closedStore job item (failItem f clock.worker item) attempt
          (failedAttempt f usage clock.worker attempt) clock.worker := fun usage => by
    have hrow := attemptUpdateCheck_iff hs.wellFormed
      (failedAttempt f usage clock.worker attempt) hattempt har (by simp [failedAttempt]) rfl
    rw [closeAttempt_ok (R := fun _ _ => True) hs.wellFormed hs.counted (hs.consistent job hjob)
      hjob hitem hattempt hij hir (.failed f usage trivial) (failItem_errorCode hcode), hrow,
      and_assoc]
  unfold finishFailure
  simp only [bind_eq_ok, hlock, Except.ok.injEq]
  constructor
  · rintro ⟨_, rfl, usage, husage, h⟩
    exact ⟨usage, husage, (hclose usage).1 (by simpa only [closeAttempt, bind_eq_ok] using h)⟩
  · rintro ⟨usage, husage, h⟩
    refine ⟨_, rfl, usage, husage, ?_⟩
    simpa only [closeAttempt, bind_eq_ok] using (hclose usage).2 h

end Store

/-! ## A sample school -/

/-- Stand-ins for the libraries, right on the ASCII texts of the sample; the digest is a
polynomial of the bytes. -/
def sampleRuntime : Runtime where
  sha256 bytes := BitVec.ofNat 256 (bytes.foldl (fun h b => h * 257 + b.toNat + 1) 0)
  isSpace c := c == ' '
  isAlpha c := c.isAlpha
  nameHasLatin c := c.isAlpha
  casefold c := [c.toLower]
  dbLower c := c.toLower
  dbIsSpace c := c == ' '
  gradeResultSchema := .obj [("title", .str "GradeResult")]
  initialPayloadSchema := .obj [("title", .str "InitialPayload")]
  correctionPayloadSchema := .obj [("title", .str "CorrectionPayload")]
  isoformat _ := "1970-01-01T00:00:00Z"
  decrypt _ _ _ := some "key"

namespace Sample

open Store Table

def teacher : Uuid := 1
def assignment : Uuid := 2
def provider : Uuid := 3
def rubricVersion : Uuid := 4
def submission : Uuid := 5
def job : Uuid := 6
def item : Uuid := 7

/-- Ten points for the content, in steps of one. -/
def rubric : StructuredRubric where
  totalScore := ⟨false, 10, 0⟩
  scoreStep := ⟨false, 1, 0⟩
  dimensions := [⟨"content", "Content", "Content", ⟨false, 10, 0⟩,
    [⟨"All", ⟨false, 0, 0⟩, ⟨false, 10, 0⟩, "All"⟩], ["quote"]⟩]
  deductions := []

def validRubric : ValidRubric sampleRuntime := ⟨rubric, by decide +kernel⟩

def profile : ProviderModelProfile :=
  ⟨⟨"v1", "m", 1000, 1000, "json_schema", "openai", "omit", "omit", "max_tokens", false, none⟩, 1000⟩

def connection : ProviderConnection where
  providerType := .openai
  baseUrl := "https://api.openai.com/v1"
  encryptedApiKey := some (List.replicate 17 0)
  apiKeyNonce := some (List.replicate 12 0)
  allowedModels := ["m"]
  defaultModel := some "m"
  timeoutSeconds := ⟨false, 60000, -3⟩
  modelProfiles := [("m", profile)]

def sourceKey : String :=
  "teachers/00000000-0000-0000-0000-000000000001/assignments/00000000-0000-0000-0000-000000000002/submissions/00000000-0000-0000-0000-000000000005/source.pdf"

def blocksKey : String :=
  "teachers/00000000-0000-0000-0000-000000000001/assignments/00000000-0000-0000-0000-000000000002/submissions/00000000-0000-0000-0000-000000000005/document-blocks.v1.json"

def payload : GradingJobCreate := ⟨[submission], "k", by decide, by decide, by decide⟩

def seed : CreationSeed := ⟨job, fun n => item + n, 0⟩

/-- A ready assignment with one parsed paper, and a batch of it. -/
def setup : List (Action sampleRuntime) :=
  [.createProvider provider ⟨connection, "p", 4, none⟩,
   .markTested provider 1 0,
   .enableTested provider,
   .createAssignment teacher "t" "i" ⟨"r", ⟨false, 10, 0⟩, ⟨false, 1, 0⟩⟩ assignment rubricVersion 0,
   .saveGeneratedRubric teacher assignment rubricVersion provider 1 "m" validRubric,
   .confirmRubric teacher assignment rubricVersion provider "m" 0,
   .reserveSubmission teacher ⟨submission, assignment, "a.pdf", .pdf, 10, 0, sourceKey⟩,
   .transitionSubmission (some teacher) submission .parsing,
   .transitionSubmission (some teacher) submission (.ready (blocksKey)),
   .createOrGetJob teacher assignment payload true seed]

def snapshot : GradingProviderSnapshot :=
  ⟨.openai, "https://api.openai.com/v1", ⟨false, 60000, -3⟩, 4, profile⟩

def assignmentRow : Assignment := ⟨assignment, teacher, "t", "i", .ready⟩

def rubricRow : RubricVersion :=
  { id := rubricVersion, ownerId := teacher, assignmentId := assignment, version := 1,
    createdAt := 0, originalRubric := "r", structuredRubric := some rubric, totalScore := 10,
    scoreStep := 1, providerConfigId := some provider, model := some "m", confirmedAt := some 0,
    status := .confirmed }

def providerRow : ProviderConfig :=
  { connection with
    id := provider, name := "p", maxConcurrency := 4, monthlyBudget := none, status := .enabled,
    configVersion := 1, testedConfigVersion := some 1, testedAt := some 0 }

def submissionRow : Submission :=
  ⟨submission, teacher, assignment, "a.pdf", .pdf, 10, 0, sourceKey, some blocksKey, .ready, none⟩

def jobRow : GradingJob :=
  createdJob sampleRuntime teacher payload assignmentRow rubricRow rubric providerRow snapshot "m"
    seed

def itemRow : GradingJobItem := createdItem jobRow seed 0 submission

/-- The school before the batch. -/
def parsed : Store :=
  ⟨[assignmentRow], [rubricRow], [providerRow], [submissionRow], [], [], [], []⟩

/-- The school with the batch. -/
def ready : Store := { parsed with jobs := [jobRow], items := [itemRow] }

theorem after_parsed : after sampleRuntime (setup.take 9) = parsed := by decide +kernel

theorem create_ready :
    parsed.createOrGetJob sampleRuntime teacher assignment payload true seed =
      .ok ((job, true), ready) := by
  unfold createOrGetJob
  rw [show parsed.jobByKey teacher payload.idempotencyKey = none from rfl]
  simp only [bind_eq_ok, require_eq_ok, insertJob_eq_ok]
  refine ⟨(), trivial, (assignmentRow, rubricRow, rubric, providerRow, "m", profile),
    by decide +kernel, (), by decide +kernel, (), by decide +kernel, _,
    ⟨rfl, by decide +kernel, rfl⟩, ready, ?_, (), rfl, rfl⟩
  exact bind_eq_ok.2 ⟨ready, insertItem_eq_ok.2 ⟨rfl, by decide +kernel, rfl⟩, rfl⟩

theorem after_setup : after sampleRuntime setup = ready := by
  rw [show setup = setup.take 9 ++ [.createOrGetJob teacher assignment payload true seed] from rfl,
    after_concat, after_parsed]
  exact step_of_ok (map_snd_eq_ok.2 ⟨_, create_ready⟩)

/-- What `prepare_item` returns for the first call of the item. -/
def preparation : GradingItemPreparation where
  attemptKind := .initial
  parentAttemptId := none
  previousResponseObjectKey := none
  previousErrorDetails := none
  ownerId := teacher
  jobId := job
  itemId := item
  dispatchVersion := 1
  submissionId := submission
  extractedObjectKey := blocksKey
  assignmentId := assignment
  assignmentTitle := "t"
  assignmentInstructions := "i"
  rubricVersionId := rubricVersion
  rubricVersion := 1
  rubric
  providerConfigId := provider
  providerConfigVersion := 1
  encryptedApiKey := List.replicate 17 0
  apiKeyNonce := List.replicate 12 0
  model := "m"
  providerSnapshot := snapshot
  promptVersion := (buildGradingContractSnapshot sampleRuntime rubric).promptVersion.text
  promptHash := (buildGradingContractSnapshot sampleRuntime rubric).promptHash
  resultSchemaVersion := (buildGradingContractSnapshot sampleRuntime rubric).resultSchemaVersion
  resultSchema := (buildGradingContractSnapshot sampleRuntime rubric).resultSchema
  resultSchemaHash := (buildGradingContractSnapshot sampleRuntime rubric).resultSchemaHash
  rubricHash := (buildGradingContractSnapshot sampleRuntime rubric).rubricHash

def firstClaim : GradingAttemptClaim := ⟨8, 1, 1, 1, 9, 0⟩

/-- The school while the paper is being graded. -/
def claimed : Store :=
  { ready with
    attempts := [ready.claimedAttempt preparation itemRow 0 1 8]
    items := [claimItem 1 9 snapshot.timeoutSeconds itemRow]
    jobs := [claimJob 1 jobRow] }

theorem claim_ready :
    ready.claimAttempt preparation 0 ⟨1, 1⟩ 8 9 = .ok (some firstClaim, claimed) := by
  have hw : WellFormed sampleRuntime ready := after_setup ▸ after_wellFormed setup
  have hrows : ready.claimableRows preparation 1 = some (jobRow, itemRow) := rfl
  have hnumber : (ready.claimedAttempt preparation itemRow 0 1 8).attemptNumber = 1 := by
    decide +kernel
  have hsequence : (ready.claimedAttempt preparation itemRow 0 1 8).callSequence = 1 := by
    decide +kernel
  rw [claimAttempt_ok hw (by decide +kernel) hrows (by decide +kernel) (by decide +kernel),
    hnumber, hsequence, show ready.items = [itemRow] from rfl, show ready.jobs = [jobRow] from rfl,
    replaceRow_singleton, replaceRow_singleton]
  rfl

theorem after_claimed : after sampleRuntime
    (setup ++ [.claimAttempt preparation 0 ⟨1, 1⟩ 8 9]) = claimed := by
  rw [after_concat, after_setup]
  exact step_of_ok (map_snd_eq_ok.2 ⟨_, claim_ready⟩)

/-- A provider that was never reached: retry at once. -/
def notSent : GradingAttemptFailure where
  action := .retry
  retryDelaySeconds := 5
  errorCode := "provider_rate_limited"
  errorDetails := .retry true .safe
  providerCallState := .notSent
  providerResult := none
  providerRequestId := none
  responseObjectKey := none
  responseObjectSha256 := none
  delayOk := by decide
  codeOk := by decide
  stateOk := by decide

end Sample

end PaperGrading
