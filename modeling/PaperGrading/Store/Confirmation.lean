import PaperGrading.Store.Integrity

/-!
# The rows behind a confirmation

In a well-formed store the joins of `confirm_teacher_reviews` find a row for every
review, the items it completes are those of the referenced reviews, and the jobs it
writes are those of the completed items.

    s.checkConfirmation t r = .ok () ↔ ∃ the joined rows, in the states the loop asks for
                                                                 (checkConfirmation_eq_ok)
-/

namespace PaperGrading

namespace Store

open Table

variable {env : Runtime} {s s' : Store}

/-! ## Which rows are hit -/

/-- The items a confirmation completes are those of the referenced reviews. -/
theorem reviewedItem_iff (hw : WellFormed env s) {teacherId : Uuid} {refs : List (Uuid × Nat)}
    {i : GradingJobItem} (hi : i ∈ s.items) :
    s.reviewedItem teacherId refs i = true ↔
      ∃ r ∈ s.reviews, referenced teacherId refs r = true ∧ r.gradingJobItemId = i.id := by
  unfold reviewedItem referenced reviewedItemIds
  simp only [Bool.and_eq_true, beq_iff_eq, List.contains_iff_mem, List.mem_map, List.mem_filter]
  have howner : ∀ r ∈ s.reviews, r.gradingJobItemId = i.id → r.ownerId = i.ownerId := by
    intro r hr hri
    obtain ⟨a, ha, -, hai, hao, -⟩ := hw.refs.reviews r hr
    obtain ⟨x, hx, hxi, hxo⟩ := hw.refs.attempts a ha
    rw [eq_of_key_eq hw.sound.keys.items hi hx ((hri.symm.trans hai.symm).trans hxi.symm), hxo, hao]
  constructor
  · rintro ⟨ho, r, ⟨hr, href⟩, hri⟩
    exact ⟨r, hr, ⟨(howner r hr hri).trans ho, href⟩, hri⟩
  · rintro ⟨r, hr, ⟨ho, href⟩, hri⟩
    exact ⟨(howner r hr hri).symm.trans ho, r, ⟨hr, href⟩, hri⟩

/-- The jobs a confirmation writes are those of the completed items. -/
theorem confirmedJob_iff (hw : WellFormed env s) {teacherId : Uuid} {refs : List (Uuid × Nat)}
    {j : GradingJob} (hj : j ∈ s.jobs) :
    s.confirmedJob teacherId refs j = true ↔
      ∃ i ∈ s.items, s.reviewedItem teacherId refs i = true ∧ i.gradingJobId = j.id := by
  have hk := hw.sound.keys
  unfold confirmedJob reviewedJobIds
  simp only [Bool.and_eq_true, beq_iff_eq, List.contains_iff_mem, List.mem_insertionSort,
    List.mem_dedup, List.mem_filterMap, List.mem_filter]
  constructor
  · rintro ⟨⟨r, ⟨hr, href⟩, hfind⟩, -⟩
    obtain ⟨i, hi, hij⟩ := Option.map_eq_some_iff.1 hfind
    have hiq := List.find?_some hi
    have him := List.mem_of_find?_eq_some hi
    simp only [Bool.and_eq_true, beq_iff_eq] at hiq
    exact ⟨i, him, (reviewedItem_iff hw him).2
      ⟨r, hr, by simpa [referenced] using href, hiq.1.symm⟩, hij⟩
  · rintro ⟨i, hi, hrev, hij⟩
    obtain ⟨r, hr, href, hri⟩ := (reviewedItem_iff hw hi).1 hrev
    have howner : i.ownerId = teacherId := by
      simp only [reviewedItem, Bool.and_eq_true, beq_iff_eq] at hrev
      exact hrev.1
    have hro : r.ownerId = teacherId := by
      simp only [referenced, Bool.and_eq_true, beq_iff_eq] at href
      exact href.1
    refine ⟨⟨r, ⟨hr, by simpa [referenced] using href⟩, ?_⟩, ?_⟩
    · rw [find?_eq_some_of_key hk.items hi _ (by simp [hri, howner, hro])]
      · rw [Option.map_some, hij]
      · intro x hx
        simp only [Bool.and_eq_true, beq_iff_eq] at hx
        rw [hx.1, hri]
    · obtain ⟨j', hj', hjid, hjo, -⟩ := hw.refs.items i hi
      rw [eq_of_key_eq hk.jobs hj hj' (hij.symm.trans hjid.symm), hjo, howner]

/-! ## The check of one review -/

/-- The joined rows of a review. -/
structure ReviewRows (s : Store) (r : TeacherReview) (job : GradingJob) (item : GradingJobItem)
    (submission : Submission) (rubric : RubricVersion) (attempt : GradingAttempt) : Prop where
  item_mem : item ∈ s.items
  job_mem : job ∈ s.jobs
  submission_mem : submission ∈ s.submissions
  rubric_mem : rubric ∈ s.rubrics
  attempt_mem : attempt ∈ s.attempts
  item_id : item.id = r.gradingJobItemId
  item_owner : item.ownerId = r.ownerId
  job_id : job.id = item.gradingJobId
  job_owner : job.ownerId = item.ownerId
  submission_id : submission.id = item.submissionId
  submission_ready : submission.status = .ready
  rubric_id : rubric.id = job.rubricVersionId
  rubric_left : rubric.status ≠ .draft
  rubric_total : rubric.totalScore = r.maxScore
  attempt_id : attempt.id = r.gradingAttemptId
  attempt_item : attempt.gradingJobItemId = item.id
  attempt_owner : attempt.ownerId = item.ownerId

/-- The foreign keys give every review its rows. -/
theorem reviewRows_exist (hw : WellFormed env s) {r : TeacherReview} (hr : r ∈ s.reviews) :
    ∃ job item submission rubric attempt, ReviewRows s r job item submission rubric attempt ∧
      s.confirmationRow r = some (job, item, submission, rubric, attempt) := by
  have hk := hw.sound.keys
  obtain ⟨a, ha, haid, hai, hao, ham⟩ := hw.refs.reviews r hr
  obtain ⟨i, hi, hid, hio⟩ := hw.refs.attempts a ha
  obtain ⟨j, hj, hjid, hjo, hja⟩ := hw.refs.items i hi
  obtain ⟨x, hx, hxid, hxa, hxo, hxr⟩ := hw.refs.submissions i hi
  obtain ⟨i₂, hi₂, j₂, hj₂, rub, hrub, ⟨hid₂, -⟩, ⟨hjid₂, -, -⟩, ⟨hrid, hra, hro⟩, htotal⟩ :=
    (rubricTotalOf_eq_some hw.sound).1 (hw.refs.totals a ha)
  have hi' : i₂ = i := eq_of_key_eq hk.items hi₂ hi (hid₂.trans hid.symm)
  subst hi'
  have hj' : j₂ = j := eq_of_key_eq hk.jobs hj₂ hj (hjid₂.trans hjid.symm)
  subst hj'
  have hleft : rub.status ≠ .draft := by
    obtain ⟨y, hy, hyid, -, -, hyd⟩ := hw.refs.rubrics j₂ hj
    rwa [eq_of_key_eq (rubricIds_nodup hw.sound) hrub hy (hrid.trans hyid.symm)]
  refine ⟨j₂, i₂, x, rub, a, ⟨hi, hj, hx, hrub, ha, hid.trans hai, hio.trans hao, hjid, hjo, hxid,
    hxr, hrid, hleft, htotal.trans ham, haid, hid.symm, hio.symm⟩, ?_⟩
  unfold confirmationRow
  rw [find?_eq_some_of_key hk.items hi _ (by simp [hid, hai, hio, hao]) fun y hy => by
    simp only [Bool.and_eq_true, beq_iff_eq] at hy
    rw [hy.1, hid, hai]]
  simp only [Option.bind_eq_bind, Option.bind_some]
  rw [find?_eq_some_of_key hk.jobs hj _ (by simp [hjid, hjo]) fun y hy => by
    simp only [Bool.and_eq_true, beq_iff_eq] at hy
    rw [hy.1, hjid]]
  simp only [Option.bind_some]
  rw [find?_eq_some_of_key (submissionIds_nodup hw.sound) hx _ (by simp [hxid, hxa, hxo]) fun y hy => by
    simp only [Bool.and_eq_true, beq_iff_eq] at hy
    rw [hy.1.1, hxid]]
  simp only [Option.bind_some]
  rw [find?_eq_some_of_key (rubricIds_nodup hw.sound) hrub _ (by simp [hrid, hra, hro]) fun y hy => by
    simp only [Bool.and_eq_true, beq_iff_eq] at hy
    rw [hy.1.1, hrid]]
  simp only [Option.bind_some]
  rw [find?_eq_some_of_key hk.attemptIds ha _ (by simp [haid, hid, hio]) fun y hy => by
    simp only [Bool.and_eq_true, beq_iff_eq] at hy
    rw [hy.1.1, haid]]
  rfl

theorem ready_extracted (hw : WellFormed env s) {x : Submission} (hx : x ∈ s.submissions)
    (hready : x.status = .ready) : x.extractedObjectKey.isSome = true := by
  have hrow := hw.sound.inputs.submission_check x hx
  unfold Submission.rowCheck at hrow
  simp only [bind_eq_ok, require_eq_ok, hready, Bool.and_eq_true] at hrow
  obtain ⟨_, _, _, _, _, _, _, ⟨hkey, -⟩, -⟩ := hrow
  exact hkey

theorem left_structured (hw : WellFormed env s) {r : RubricVersion} (hr : r ∈ s.rubrics)
    (hleft : r.status ≠ .draft) : ∃ structured, r.structuredRubric = some structured := by
  have hrow := hw.sound.inputs.rubric_check r hr
  unfold RubricVersion.rowCheck at hrow
  simp only [bind_eq_ok, require_eq_ok] at hrow
  obtain ⟨_, -, _, -, _, -, _, -, _, -, _, -, hconf⟩ := hrow
  cases hst : r.status with
  | draft => exact absurd hst hleft
  | confirmed =>
    simp only [Bool.and_eq_true] at hconf
    exact Option.isSome_iff_exists.1 hconf.1.2
  | superseded =>
    simp only [Bool.and_eq_true] at hconf
    exact Option.isSome_iff_exists.1 hconf.1.2

/-- What the confirmation loop asks of one review, beyond what the schema guarantees. -/
structure Confirmable (s : Store) (teacherId : Uuid) (r : TeacherReview) (item : GradingJobItem)
    (rubric : RubricVersion) (attempt : GradingAttempt) : Prop where
  review_draft : r.status = .draft
  item_review : item.status = .needsReview
  attempt_succeeded : attempt.status = .succeeded
  attempt_round : attempt.scoringRound = item.dispatchVersion
  latest : (s.latestSucceeded item.id teacherId item.dispatchVersion).all
    (·.id == r.gradingAttemptId) = true
  payload : ∃ structured, rubric.structuredRubric = some structured ∧
    validateTeacherReviewPayload r.payload structured attempt.toAttemptResult = .ok ()

theorem checkConfirmation_eq_ok (hw : WellFormed env s) {teacherId : Uuid} {r : TeacherReview}
    {job : GradingJob} {item : GradingJobItem} {submission : Submission} {rubric : RubricVersion}
    {attempt : GradingAttempt} (hrows : ReviewRows s r job item submission rubric attempt)
    (hfind : s.confirmationRow r = some (job, item, submission, rubric, attempt)) :
    s.checkConfirmation teacherId r = .ok () ↔ Confirmable s teacherId r item rubric attempt := by
  obtain ⟨structured, hstructured⟩ := left_structured hw hrows.rubric_mem hrows.rubric_left
  have hextracted := ready_extracted hw hrows.submission_mem hrows.submission_ready
  have hleft : rubric.status = .confirmed ∨ rubric.status = .superseded := by
    have := hrows.rubric_left
    revert this
    cases rubric.status <;> simp
  unfold checkConfirmation
  rw [hfind]
  simp only [hstructured, bind_eq_ok, require_eq_ok, Bool.and_eq_true, beq_iff_eq,
    hrows.submission_ready, hextracted, hrows.rubric_total, Bool.or_eq_true]
  constructor
  · rintro ⟨_, ⟨⟨⟨⟨⟨⟨⟨⟨hd, hi⟩, -⟩, -⟩, -⟩, hs⟩, hround⟩, -⟩, hlatest⟩, hpayload⟩
    exact ⟨hd, hi, hs, hround, hlatest, structured, hstructured, hpayload⟩
  · rintro ⟨hd, hi, hs, hround, hlatest, structured', hstructured', hpayload⟩
    rw [hstructured] at hstructured'
    cases hstructured'
    exact ⟨(), ⟨⟨⟨⟨⟨⟨⟨⟨hd, hi⟩, trivial⟩, trivial⟩, hleft⟩, hs⟩, hround⟩, trivial⟩, hlatest⟩, hpayload⟩

/-- The rows of a review that a confirmation moves. -/
theorem Confirmed.confirmable {teacherId : Uuid} {refs : List (Uuid × Nat)} {now : Time}
    (hw : WellFormed env s) (h : Confirmed s s' teacherId refs now) {r : TeacherReview}
    (hr : r ∈ s.reviews) (href : referenced teacherId refs r = true) :
    ∃ job item submission rubric attempt, ReviewRows s r job item submission rubric attempt ∧
      Confirmable s teacherId r item rubric attempt := by
  simp only [referenced, Bool.and_eq_true, beq_iff_eq, List.any_eq_true] at href
  obtain ⟨-, ref, hmem, hid⟩ := href
  obtain ⟨x, hx, -, hchk⟩ := h.found ref hmem
  obtain ⟨hxm, hxid, -, -⟩ := referencedReview_some hx
  have hxr : x = r := eq_of_key_eq hw.sound.keys.reviewIds hxm hr (hxid.trans hid)
  subst hxr
  obtain ⟨job, item, submission, rubric, attempt, hrows, hfind⟩ := reviewRows_exist hw hr
  exact ⟨job, item, submission, rubric, attempt, hrows,
    (checkConfirmation_eq_ok hw hrows hfind).1 hchk⟩

/-- A confirmation completes items that wait for a review. -/
theorem Confirmed.item_review {teacherId : Uuid} {refs : List (Uuid × Nat)} {now : Time}
    (hw : WellFormed env s) (h : Confirmed s s' teacherId refs now) {i : GradingJobItem}
    (hi : i ∈ s.items) (hrev : s.reviewedItem teacherId refs i = true) :
    i.status = .needsReview := by
  obtain ⟨r, hr, href, hri⟩ := (reviewedItem_iff hw hi).1 hrev
  obtain ⟨_, item, _, _, _, hrows, hconf⟩ := h.confirmable hw hr href
  rw [eq_of_key_eq hw.sound.keys.items hi hrows.item_mem (hri.symm.trans hrows.item_id.symm)]
  exact hconf.item_review

end Store

end PaperGrading
