import PaperGrading.Store.Moves

/-!
# Referential integrity and row constraints of every reachable store

`Refs` is what the foreign keys say about the tables of a state, together with what
the insert triggers looked up (the rubric of a job has left draft, a submission is
ready, an attempt carries the total of its rubric).  `Rows` is what the check
constraints say of single rows.

    Refs and Rows hold after every run                                          (after_wellFormed)
    what every move between well-formed stores keeps holds after every run       (after_invariant)
-/

namespace PaperGrading

namespace Store

open Table

variable {env : Runtime} {R : GradingJob → GradingAttemptFailure → Prop}
  {keep : RubricVersion → Prop} {s s' : Store}

/-! ## Input rows across a move -/

theorem Move.rubric_kept (h : Move env R keep s s') {r : RubricVersion} (hr : r ∈ s.rubrics) :
    ∃ r' ∈ s'.rubrics, r'.toRubricIdentity = r.toRubricIdentity ∧
      (r.status ≠ .draft → r'.toRubricContent = r.toRubricContent ∧ r'.status ≠ .draft) ∧
      (r.status = .confirmed → keep r → r'.status = .confirmed) := by
  rcases h.inputs_cases with hin | ⟨-, he, -, -⟩
  · exact hin.1.rubrics r hr
  · exact ⟨r, he ▸ hr, rfl, fun h => ⟨rfl, h⟩, fun h _ => h⟩

theorem Move.provider_kept (h : Move env R keep s s') {p : ProviderConfig} (hp : p ∈ s.providers) :
    ∃ p' ∈ s'.providers, p'.id = p.id ∧ p.configVersion ≤ p'.configVersion ∧
      (p'.configVersion = p.configVersion → p'.toProviderConnection = p.toProviderConnection) := by
  rcases h.inputs_cases with hin | ⟨-, -, he, -⟩
  · obtain ⟨p', hp', hid, hle, -, hconn⟩ := hin.1.providers p hp
    exact ⟨p', hp', hid, hle, hconn⟩
  · exact ⟨p, he ▸ hp, rfl, le_rfl, fun _ => rfl⟩

theorem Move.submission_kept (h : Move env R keep s s') {x : Submission} (hx : x ∈ s.submissions)
    (hready : x.status = .ready) : x ∈ s'.submissions := by
  rcases h.inputs_cases with hin | ⟨-, -, -, he⟩
  · obtain ⟨x', hx', -, -, -, hsame⟩ := hin.1.submissions x hx
    exact hsame hready ▸ hx'
  · exact he ▸ hx

/-! ## Row constraints -/

/-- What the check constraints and insert triggers say of each row. -/
structure Rows (s : Store) : Prop where
  item_state : ∀ i ∈ s.items, i.stateCheck = true
  item_version : ∀ i ∈ s.items, 0 < i.dispatchVersion
  job_times : ∀ j ∈ s.jobs, j.timestampsCheck = true
  attempt_row : ∀ a ∈ s.attempts, a.rowCheck = .ok ()
  review_row : ∀ r ∈ s.reviews, r.rowCheck = .ok ()
  review_id : ∀ r ∈ s.reviews, isRfcUuid r.id = true
  review_revision : ∀ r ∈ s.reviews, 0 < r.revisionNumber

theorem itemInsertCheck_eq_ok {i : GradingJobItem} (h : s.itemInsertCheck i = .ok ()) :
    ∃ j ∈ s.jobs, ∃ x ∈ s.submissions, (j.id = i.gradingJobId ∧ j.assignmentId = i.assignmentId ∧
      j.ownerId = i.ownerId ∧ j.status = .queued) ∧
      (x.id = i.submissionId ∧ x.assignmentId = i.assignmentId ∧ x.ownerId = i.ownerId ∧
      x.status = .ready) ∧ i.stateCheck = true ∧ 0 < i.dispatchVersion := by
  unfold itemInsertCheck at h
  split at h
  · cases h
  next j hj =>
    simp only [bind_eq_ok, require_eq_ok, Bool.and_eq_true, beq_iff_eq, decide_eq_true_eq,
      List.any_eq_true] at h
    obtain ⟨_, hq, _, ⟨x, hx, ⟨⟨hxid, hxa⟩, hxo⟩, hxr⟩, _, -, hstate, hver⟩ := h
    have hjq := List.find?_some hj
    simp only [Bool.and_eq_true, beq_iff_eq] at hjq
    exact ⟨j, List.mem_of_find?_eq_some hj, x, hx, ⟨hjq.1.1, hjq.1.2, hjq.2, hq⟩,
      ⟨hxid, hxa, hxo, hxr⟩, hstate, hver⟩

theorem jobInsertCheck_eq_ok {j : GradingJob} (h : s.jobInsertCheck j = .ok ()) :
    (∃ r ∈ s.rubrics, r.id = j.rubricVersionId ∧ r.assignmentId = j.assignmentId ∧
      r.ownerId = j.ownerId ∧ r.status = .confirmed) ∧
      (∃ p ∈ s.providers, p.id = j.providerConfigId) ∧ j.timestampsCheck = true := by
  unfold jobInsertCheck at h
  simp only [bind_eq_ok, require_eq_ok, Bool.and_eq_true, beq_iff_eq, decide_eq_true_eq,
    List.any_eq_true] at h
  obtain ⟨_, ⟨r, hr, ⟨⟨⟨hid, ha⟩, ho⟩, hc⟩, -⟩, _, -, _, -, _, -, _, -, _, htimes, hp⟩ := h
  exact ⟨⟨r, hr, hid, ha, ho, hc⟩, hp, htimes⟩

theorem attemptInsertCheck_eq_ok {a : GradingAttempt} (h : s.attemptInsertCheck a = .ok ()) :
    a.status = .running ∧ s.rubricTotalOf a.gradingJobItemId a.ownerId = some a.maxScore ∧
      a.rowCheck = .ok () := by
  unfold attemptInsertCheck validateAttemptScore at h
  simp only [bind_eq_ok, require_eq_ok, beq_iff_eq] at h
  obtain ⟨_, hst, _, htotal, _, hrow, -⟩ := h
  exact ⟨hst, htotal, hrow⟩

theorem reviewInsertCheck_eq_ok {r : TeacherReview} (h : s.reviewInsertCheck r = .ok ()) :
    (∃ a ∈ s.attempts, a.id = r.gradingAttemptId ∧ a.gradingJobItemId = r.gradingJobItemId ∧
      a.ownerId = r.ownerId ∧ a.maxScore = r.maxScore) ∧ r.rowCheck = .ok () ∧
      0 < r.revisionNumber := by
  unfold reviewInsertCheck validateReviewScore at h
  simp only [bind_eq_ok, require_eq_ok, List.any_eq_true, Bool.and_eq_true, beq_iff_eq,
    decide_eq_true_eq] at h
  obtain ⟨_, ⟨a, ha, ⟨⟨hid, hi⟩, ho⟩, hm⟩, _, hrow, hrev⟩ := h
  exact ⟨⟨a, ha, hid, hi, ho, hm⟩, hrow, hrev⟩

/-- The version of an item never decreases. -/
theorem itemUpdateCheck_version {old new : GradingJobItem} (h : itemUpdateCheck old new = .ok ()) :
    old.dispatchVersion ≤ new.dispatchVersion := by
  obtain ⟨-, -, hver, -⟩ := itemUpdateCheck_eq_ok.1 h
  split at hver
  · omega
  · split at hver <;> omega

theorem Move.rows (hs : Sound env s) (hr : Rows s) (h : Move env R keep s s') : Rows s' := by
  refine ⟨fun i hi => ?_, fun i hi => ?_, fun j hj => ?_, fun a ha => ?_, fun r hrm => ?_,
    fun r hrm => ?_, fun r hrm => ?_⟩
  · rcases (h.items_evolve hs.keys).backward hi with ⟨i₀, hi₀, -, rfl | hchk⟩ | ⟨-, -, hchk⟩
    · exact hr.item_state i hi₀
    · exact (itemUpdateCheck_eq_ok.1 hchk).2.2.2.2
    · obtain ⟨_, _, _, _, -, -, hstate, -⟩ := itemInsertCheck_eq_ok hchk
      exact hstate
  · rcases (h.items_evolve hs.keys).backward hi with ⟨i₀, hi₀, -, rfl | hchk⟩ | ⟨-, hver, -⟩
    · exact hr.item_version i hi₀
    · exact (hr.item_version i₀ hi₀).trans_le (itemUpdateCheck_version hchk)
    · omega
  · rcases (h.jobs_evolve hs.keys).backward hj with ⟨j₀, hj₀, -, rfl | hchk⟩ | ⟨-, hchk, -⟩
    · exact hr.job_times j hj₀
    · exact (jobUpdateCheck_eq_ok.1 hchk).2.2
    · exact (jobInsertCheck_eq_ok hchk).2.2
  · rcases (h.attempts_evolve hs.keys).backward ha with ⟨a₀, ha₀, -, rfl | hchk⟩ | hchk
    · exact hr.attempt_row a ha₀
    · exact (attemptUpdateCheck_eq_ok.1 hchk).2.2.2
    · exact (attemptInsertCheck_eq_ok hchk).2.2
  · rcases (h.reviews_evolve hs.keys).backward hrm with ⟨r₀, hr₀, -, rfl | hchk⟩ | ⟨-, -, hchk⟩
    · exact hr.review_row r hr₀
    · exact (reviewUpdateCheck_eq_ok.1 hchk).2.2.2.2.2
    · exact (reviewInsertCheck_eq_ok hchk).2.1
  · rcases (h.reviews_evolve hs.keys).backward hrm with ⟨r₀, hr₀, hid, -⟩ | ⟨-, hrfc, -⟩
    · have he : r.id = r₀.id := congrArg ReviewIdentity.id hid
      rw [he]
      exact hr.review_id r₀ hr₀
    · exact hrfc
  · rcases (h.reviews_evolve hs.keys).backward hrm with ⟨r₀, hr₀, -, rfl | hchk⟩ | ⟨-, -, hchk⟩
    · exact hr.review_revision r hr₀
    · obtain ⟨-, hd, hc, -⟩ := reviewUpdateCheck_eq_ok.1 hchk
      have hpos := hr.review_revision r₀ hr₀
      cases hst : r.status with
      | draft => rw [hd hst]; omega
      | confirmed => rw [hc hst]; exact hpos
    · exact (reviewInsertCheck_eq_ok hchk).2.2

theorem rows_empty : Rows empty :=
  ⟨by simp [empty], by simp [empty], by simp [empty], by simp [empty], by simp [empty],
    by simp [empty], by simp [empty]⟩

/-! ## Referential integrity -/

/-- The foreign keys, with what the insert triggers looked up. -/
structure Refs (s : Store) : Prop where
  items : ∀ i ∈ s.items, ∃ j ∈ s.jobs, j.id = i.gradingJobId ∧ j.ownerId = i.ownerId ∧
    j.assignmentId = i.assignmentId
  occupied : ∀ j ∈ s.jobs, ∃ i ∈ s.items, i.gradingJobId = j.id
  rubrics : ∀ j ∈ s.jobs, ∃ r ∈ s.rubrics, r.id = j.rubricVersionId ∧
    r.assignmentId = j.assignmentId ∧ r.ownerId = j.ownerId ∧ r.status ≠ .draft
  providers : ∀ j ∈ s.jobs, ∃ p ∈ s.providers, p.id = j.providerConfigId
  submissions : ∀ i ∈ s.items, ∃ x ∈ s.submissions, x.id = i.submissionId ∧
    x.assignmentId = i.assignmentId ∧ x.ownerId = i.ownerId ∧ x.status = .ready
  attempts : ∀ a ∈ s.attempts, ∃ i ∈ s.items, i.id = a.gradingJobItemId ∧ i.ownerId = a.ownerId
  totals : ∀ a ∈ s.attempts, s.rubricTotalOf a.gradingJobItemId a.ownerId = some a.maxScore
  reviews : ∀ r ∈ s.reviews, ∃ a ∈ s.attempts, a.id = r.gradingAttemptId ∧
    a.gradingJobItemId = r.gradingJobItemId ∧ a.ownerId = r.ownerId ∧ a.maxScore = r.maxScore

/-- The job of an item across a move. -/
theorem Move.item_kept (hs : Sound env s) (h : Move env R keep s s') {i : GradingJobItem}
    (hi : i ∈ s.items) : ∃ i' ∈ s'.items, i'.toItemIdentity = i.toItemIdentity := by
  obtain ⟨i', hi', hid, -⟩ := (h.items_evolve hs.keys).forward hi
  exact ⟨i', hi', hid⟩

theorem Move.job_kept (hs : Sound env s) (h : Move env R keep s s') {j : GradingJob}
    (hj : j ∈ s.jobs) : ∃ j' ∈ s'.jobs, j'.toJobSnapshot = j.toJobSnapshot := by
  obtain ⟨j', hj', hid, -⟩ := (h.jobs_evolve hs.keys).forward hj
  exact ⟨j', hj', hid⟩

theorem Move.attempt_kept (hs : Sound env s) (h : Move env R keep s s') {a : GradingAttempt}
    (ha : a ∈ s.attempts) : ∃ a' ∈ s'.attempts, a'.toAttemptIdentity = a.toAttemptIdentity := by
  obtain ⟨a', ha', hid, -⟩ := (h.attempts_evolve hs.keys).forward ha
  exact ⟨a', ha', hid⟩

theorem rubricIds_nodup (hs : Sound env s) : (s.rubrics.map (·.id)).Nodup := by
  rw [List.Nodup, List.pairwise_map]
  refine hs.inputs.rubrics.imp fun {x y} h he => ?_
  simp [rubricConflict, he] at h

theorem submissionIds_nodup (hs : Sound env s) : (s.submissions.map (·.id)).Nodup :=
  nodup_submissionIds hs.inputs.submissions

/-- The rows behind the total of an item, with unique keys. -/
theorem rubricTotalOf_eq_some (hs : Sound env s) {itemId ownerId : Uuid} {total : ℚ} :
    s.rubricTotalOf itemId ownerId = some total ↔
      ∃ i ∈ s.items, ∃ j ∈ s.jobs, ∃ r ∈ s.rubrics, (i.id = itemId ∧ i.ownerId = ownerId) ∧
        (j.id = i.gradingJobId ∧ j.assignmentId = i.assignmentId ∧ j.ownerId = i.ownerId) ∧
        (r.id = j.rubricVersionId ∧ r.assignmentId = j.assignmentId ∧ r.ownerId = j.ownerId) ∧
        r.totalScore = total := by
  unfold rubricTotalOf
  simp only [Option.bind_eq_bind, Option.bind_eq_some_iff, Option.pure_def, Option.some.injEq]
  constructor
  · rintro ⟨i, hi, j, hj, r, hr, htotal⟩
    have hiq := List.find?_some hi
    have hjq := List.find?_some hj
    have hrq := List.find?_some hr
    simp only [Bool.and_eq_true, beq_iff_eq] at hiq hjq hrq
    exact ⟨i, List.mem_of_find?_eq_some hi, j, List.mem_of_find?_eq_some hj, r,
      List.mem_of_find?_eq_some hr, hiq, ⟨hjq.1.1, hjq.1.2, hjq.2⟩, ⟨hrq.1.1, hrq.1.2, hrq.2⟩,
      htotal⟩
  · rintro ⟨i, hi, j, hj, r, hr, ⟨hid, hio⟩, ⟨hjid, hja, hjo⟩, ⟨hrid, hra, hro⟩, htotal⟩
    refine ⟨i, find?_eq_some_of_key hs.keys.items hi _ (by simp [hid, hio]) ?_, j,
      find?_eq_some_of_key hs.keys.jobs hj _ (by simp [hjid, hja, hjo]) ?_, r,
      find?_eq_some_of_key (rubricIds_nodup hs) hr _ (by simp [hrid, hra, hro]) ?_, htotal⟩
    · intro x hx
      simp only [Bool.and_eq_true, beq_iff_eq] at hx
      rw [hx.1, hid]
    · intro x hx
      simp only [Bool.and_eq_true, beq_iff_eq] at hx
      rw [hx.1.1, hjid]
    · intro x hx
      simp only [Bool.and_eq_true, beq_iff_eq] at hx
      rw [hx.1.1, hrid]

/-- The total of an item never changes: its job is fixed and the rubric has left draft. -/
theorem Move.rubricTotal_kept (hs : Sound env s) (hr : Refs s) (h : Move env R keep s s')
    {itemId ownerId : Uuid} {total : ℚ} (ht : s.rubricTotalOf itemId ownerId = some total) :
    s'.rubricTotalOf itemId ownerId = some total := by
  obtain ⟨i, hi, j, hj, r, hrm, ⟨hid, hio⟩, ⟨hjid, hja, hjo⟩, ⟨hrid, hra, hro⟩, htotal⟩ :=
    (rubricTotalOf_eq_some hs).1 ht
  obtain ⟨i', hi', hie⟩ := h.item_kept hs hi
  obtain ⟨j', hj', hje⟩ := h.job_kept hs hj
  obtain ⟨r', hr', hre, hcontent, -⟩ := h.rubric_kept hrm
  have hnotDraft : r.status ≠ .draft := by
    obtain ⟨x, hx, hxid, -, -, hxd⟩ := hr.rubrics j hj
    rwa [eq_of_key_eq (rubricIds_nodup hs) hrm hx (hrid.trans hxid.symm)]
  refine (rubricTotalOf_eq_some (h.sound hs)).2 ⟨i', hi', j', hj', r', hr', ?_⟩
  rw [hie, hje, hre, (hcontent hnotDraft).1]
  exact ⟨⟨hid, hio⟩, ⟨hjid, hja, hjo⟩, ⟨hrid, hra, hro⟩, htotal⟩

theorem Move.refs (hs : Sound env s) (hr : Refs s) (h : Move env R keep s s') : Refs s' := by
  have hitems := h.items_evolve hs.keys
  have hjobs := h.jobs_evolve hs.keys
  have hattempts := h.attempts_evolve hs.keys
  have hreviews := h.reviews_evolve hs.keys
  refine ⟨fun i' hi' => ?_, fun j' hj' => ?_, fun j' hj' => ?_, fun j' hj' => ?_, fun i' hi' => ?_,
    fun a' ha' => ?_, fun a' ha' => ?_, fun r' hr' => ?_⟩
  · rcases hitems.backward hi' with ⟨i, hi, hie, -⟩ | ⟨-, -, hchk⟩
    · obtain ⟨j, hj, hid, ho, ha⟩ := hr.items i hi
      obtain ⟨j', hj', hje⟩ := h.job_kept hs hj
      exact ⟨j', hj', by rw [hje, hie, hid], by rw [hje, hie, ho], by rw [hje, hie, ha]⟩
    · obtain ⟨j, hj, -, -, ⟨hid, ha, ho, -⟩, -⟩ := itemInsertCheck_eq_ok hchk
      exact ⟨j, hj, hid, ho, ha⟩
  · rcases hjobs.backward hj' with ⟨j, hj, hje, -⟩ | ⟨-, -, hocc⟩
    · obtain ⟨i, hi, hij⟩ := hr.occupied j hj
      obtain ⟨i', hi', hie⟩ := h.item_kept hs hi
      exact ⟨i', hi', by rw [hie, hje, hij]⟩
    · exact hocc
  · have hfound : ∃ r ∈ s.rubrics, r.id = j'.rubricVersionId ∧ r.assignmentId = j'.assignmentId ∧
        r.ownerId = j'.ownerId ∧ r.status ≠ .draft := by
      rcases hjobs.backward hj' with ⟨j, hj, hje, -⟩ | ⟨-, hchk, -⟩
      · rw [hje]
        exact hr.rubrics j hj
      · obtain ⟨⟨r, hrm, hid, ha, ho, hc⟩, -⟩ := jobInsertCheck_eq_ok hchk
        exact ⟨r, hrm, hid, ha, ho, by rw [hc]; simp⟩
    obtain ⟨r, hrm, hid, ha, ho, hd⟩ := hfound
    obtain ⟨r', hrm', hre, hcontent, -⟩ := h.rubric_kept hrm
    exact ⟨r', hrm', by rw [hre, hid], by rw [hre, ha], by rw [hre, ho], (hcontent hd).2⟩
  · have hfound : ∃ p ∈ s.providers, p.id = j'.providerConfigId := by
      rcases hjobs.backward hj' with ⟨j, hj, hje, -⟩ | ⟨-, hchk, -⟩
      · rw [hje]
        exact hr.providers j hj
      · exact (jobInsertCheck_eq_ok hchk).2.1
    obtain ⟨p, hp, hid⟩ := hfound
    obtain ⟨p', hp', hpe, -⟩ := h.provider_kept hp
    exact ⟨p', hp', hpe.trans hid⟩
  · have hfound : ∃ x ∈ s.submissions, x.id = i'.submissionId ∧ x.assignmentId = i'.assignmentId ∧
        x.ownerId = i'.ownerId ∧ x.status = .ready := by
      rcases hitems.backward hi' with ⟨i, hi, hie, -⟩ | ⟨-, -, hchk⟩
      · rw [hie]
        exact hr.submissions i hi
      · obtain ⟨-, -, x, hx, -, hxs, -⟩ := itemInsertCheck_eq_ok hchk
        exact ⟨x, hx, hxs⟩
    obtain ⟨x, hx, hid, ha, ho, hready⟩ := hfound
    exact ⟨x, h.submission_kept hx hready, hid, ha, ho, hready⟩
  · rcases hattempts.backward ha' with ⟨a, ha, hae, -⟩ | hchk
    · obtain ⟨i, hi, hid, ho⟩ := hr.attempts a ha
      obtain ⟨i', hi', hie⟩ := h.item_kept hs hi
      exact ⟨i', hi', by rw [hie, hae, hid], by rw [hie, hae, ho]⟩
    · obtain ⟨-, htotal, -⟩ := attemptInsertCheck_eq_ok hchk
      obtain ⟨i, hi, -, -, -, -, ⟨hid, ho⟩, -⟩ := (rubricTotalOf_eq_some hs).1 htotal
      obtain ⟨i', hi', hie⟩ := h.item_kept hs hi
      exact ⟨i', hi', by rw [hie, hid], by rw [hie, ho]⟩
  · rcases hattempts.backward ha' with ⟨a, ha, hae, -⟩ | hchk
    · rw [hae]
      exact h.rubricTotal_kept hs hr (hr.totals a ha)
    · exact h.rubricTotal_kept hs hr (attemptInsertCheck_eq_ok hchk).2.1
  · have hfound : ∃ a ∈ s.attempts, a.id = r'.gradingAttemptId ∧
        a.gradingJobItemId = r'.gradingJobItemId ∧ a.ownerId = r'.ownerId ∧
        a.maxScore = r'.maxScore := by
      rcases hreviews.backward hr' with ⟨r, hrm, hre, -⟩ | ⟨-, -, hchk⟩
      · rw [hre]
        exact hr.reviews r hrm
      · exact (reviewInsertCheck_eq_ok hchk).1
    obtain ⟨a, ha, hid, hi, ho, hm⟩ := hfound
    obtain ⟨a', ha', hae⟩ := h.attempt_kept hs ha
    exact ⟨a', ha', by rw [hae, hid], by rw [hae, hi], by rw [hae, ho], by rw [hae, hm]⟩

theorem refs_empty : Refs empty :=
  ⟨by simp [empty], by simp [empty], by simp [empty], by simp [empty], by simp [empty],
    by simp [empty], by simp [empty], by simp [empty]⟩

/-! ## Well-formed stores -/

/-- What the constraints of the schema guarantee of a store. -/
structure WellFormed (env : Runtime) (s : Store) : Prop where
  sound : Sound env s
  rows : Rows s
  refs : Refs s

theorem wellFormed_empty : WellFormed env empty :=
  ⟨sound_empty, rows_empty, refs_empty⟩

theorem Move.wellFormed (hw : WellFormed env s) (h : Move env R keep s s') : WellFormed env s' :=
  ⟨h.sound hw.sound, h.rows hw.sound hw.rows, h.refs hw.sound hw.refs⟩

theorem step_wellFormed (hw : WellFormed env s) (a : Action env) : WellFormed env (step env s a) :=
  step_keeps hw.sound (failureIs_true a) (fun _ => False.elim) (fun _ _ _ h hw => h.wellFormed hw) hw

/-- What every move between well-formed stores keeps is kept by an action. -/
theorem step_invariant {P : Store → Prop} {a : Action env} (hw : WellFormed env s)
    (hR : FailureIs R s a) (hkeep : ∀ r, keep r → ¬supersedes a r)
    (hP : ∀ t t', WellFormed env t → Move env R keep t t' → P t → P t') (h0 : P s) :
    P (step env s a) :=
  (step_keeps (P := fun t => WellFormed env t ∧ P t) hw.sound hR hkeep
    (fun t t' _ h ht => ⟨h.wellFormed ht.1, hP t t' ht.1 h ht.2⟩) ⟨hw, h0⟩).2

/-- What the moves of a chain keep is kept by the action that makes the chain. -/
theorem step_chain {M : Store → Store → Prop} {P : Store → Prop} {a : Action env}
    (hw : WellFormed env s) (hM : ∀ t t', M t t' → AnyMove env t t')
    (hchain : ∀ s', s.exec env a = .ok s' → Relation.ReflTransGen M s s')
    (hP : ∀ t t', WellFormed env t → M t t' → P t → P t') (h0 : P s) : P (step env s a) := by
  refine step_induction (P := P) h0 fun s' h => ?_
  have hmoves := hchain s' h
  clear h
  have hall : WellFormed env s' ∧ P s' := by
    induction hmoves with
    | refl => exact ⟨hw, h0⟩
    | tail _ hm ih => exact ⟨(hM _ _ hm).wellFormed ih.1, hP _ _ ih.1 hm ih.2⟩
  exact hall.2

/-- **Induction over runs** between well-formed stores. -/
theorem run_invariant {P : Store → Prop}
    (hP : ∀ t t', WellFormed env t → AnyMove env t t' → P t → P t') (hw : WellFormed env s)
    (h0 : P s) (as : List (Action env)) :
    WellFormed env (Runs.run (step env) s as) ∧ P (Runs.run (step env) s as) :=
  Runs.run_invariant (P := fun t => WellFormed env t ∧ P t) as ⟨hw, h0⟩ fun _ a ht =>
    ⟨step_wellFormed ht.1 a, step_invariant ht.1 (failureIs_true a) (fun _ => False.elim) hP ht.2⟩

theorem after_invariant {P : Store → Prop}
    (hP : ∀ t t', WellFormed env t → AnyMove env t t' → P t → P t') (h0 : P empty)
    (as : List (Action env)) : P (after env as) :=
  (run_invariant hP wellFormed_empty h0 as).2

theorem after_wellFormed (as : List (Action env)) : WellFormed env (after env as) :=
  (run_invariant (P := fun _ => True) (fun _ _ _ _ _ => trivial) wellFormed_empty trivial as).1

end Store

end PaperGrading
