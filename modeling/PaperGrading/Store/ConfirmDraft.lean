import PaperGrading.Store.Cancellation
import PaperGrading.Store.Reviews

/-!
# Confirming a saved draft

For a draft of the current success of an item that waits for review, every check of
`confirm_teacher_reviews` passes, whatever the other items of the batch are doing,
but for one: the status trigger lets no job leave `cancelled`.  An item can wait for
review in a cancelled batch, since its call may end after the cancellation.

    a ready draft can be confirmed ↔ its job is not cancelled               (confirmSucceeds_iff)
-/

namespace PaperGrading

namespace Store

open Table

variable {env : Runtime} {s s' : Store}

/-! ## Definitions -/

/-- A saved draft of the current success of an item that waits for review. -/
structure DraftReady (s : Store) (job : GradingJob) (item : GradingJobItem)
    (attempt : GradingAttempt) (review : TeacherReview) : Prop where
  job_mem : job ∈ s.jobs
  item_mem : item ∈ s.items
  attempt_mem : attempt ∈ s.attempts
  review_mem : review ∈ s.reviews
  item_job : item.gradingJobId = job.id
  item_review : item.status = .needsReview
  attempt_item : attempt.gradingJobItemId = item.id
  attempt_succeeded : attempt.status = .succeeded
  attempt_round : attempt.scoringRound = item.dispatchVersion
  review_attempt : review.gradingAttemptId = attempt.id
  review_draft : review.status = .draft
  submission : ∃ x ∈ s.submissions, x.id = item.submissionId ∧ x.status = .ready
  rubric : ∃ r ∈ s.rubrics, r.id = job.rubricVersionId ∧
    (r.status = .confirmed ∨ r.status = .superseded) ∧
    ∃ structured, r.structuredRubric = some structured ∧
      validateTeacherReviewPayload review.payload structured attempt.toAttemptResult = .ok ()

/-- The owner's confirmation of the draft commits and completes the item. -/
def ConfirmSucceeds (s : Store) (item : GradingJobItem) (review : TeacherReview) (now : Time) :
    Prop :=
  ∃ s', s.confirmTeacherReviews (some item.ownerId) [(review.id, review.revisionNumber)] now =
      .ok (some [review.id], s') ∧
    confirmReview now review ∈ s'.reviews ∧ completeItem now item ∈ s'.items

/-! ## Every check but the job's -/

theorem confirmReview_check (hw : WellFormed env s) {r : TeacherReview} (hr : r ∈ s.reviews)
    (hd : r.status = .draft) (now : Time) : s.reviewUpdateCheck r (confirmReview now r) = .ok () := by
  obtain ⟨a, ha, haid, hai, hao, ham⟩ := hw.refs.reviews r hr
  have hrow := hw.rows.review_row r hr
  rw [reviewUpdateCheck_eq_ok]
  refine ⟨by rw [hd]; simp, nofun, fun _ => rfl, rfl, ?_, ?_⟩
  · rw [validateReviewScore, require_eq_ok, List.any_eq_true]
    exact ⟨a, ha, by simp [confirmReview, haid, hai, hao, ham]⟩
  · unfold TeacherReview.rowCheck at hrow ⊢
    simp only [bind_eq_ok, require_eq_ok] at hrow ⊢
    obtain ⟨u, htexts, v, hrange, w, htotals, -⟩ := hrow
    exact ⟨u, htexts, v, hrange, w, htotals, rfl⟩

theorem completeItem_check (hw : WellFormed env s) {i : GradingJobItem} (hi : i ∈ s.items)
    (hst : i.status = .needsReview) (now : Time) : itemUpdateCheck i (completeItem now i) = .ok () := by
  have hstate := hw.rows.item_state i hi
  unfold GradingJobItem.stateCheck at hstate
  rw [hst] at hstate
  simp only [Bool.and_eq_true, Option.isNone_iff_eq_none] at hstate
  rw [itemUpdateCheck_eq_ok]
  exact ⟨rfl, by rw [hst]; rfl, by simp [hst, completeItem], rfl,
    by simp [GradingJobItem.stateCheck, completeItem, hstate.1.1.2, hstate.1.2]⟩

/-- The item's other reviews are drafts, so the new confirmed review has no rival. -/
theorem confirm_unique (hw : WellFormed env s) (hv : s.Reviewed) {item : GradingJobItem}
    {review : TeacherReview} (hi : item ∈ s.items) (hst : item.status = .needsReview)
    (hr : review ∈ s.reviews) (hri : review.gradingJobItemId = item.id) (now : Time) :
    reviewsUnique (replaceRow (·.id) review (confirmReview now review) s.reviews) = true := by
  have hk := hw.sound.keys
  have hdrafts : ∀ x ∈ s.reviews, x.gradingJobItemId = item.id → x.status ≠ .confirmed := by
    intro x hx hxi hxc
    have := (hv.confirmed_item x hx hxc item hi hxi.symm).1
    rw [hst] at this
    cases this
  have hrival : ∀ z ∈ s.reviews, z ≠ review →
      reviewConflict (confirmReview now review) z = false ∧
        reviewConflict z (confirmReview now review) = false := by
    intro z hz hne
    have hid : z.id ≠ review.id := fun he => hne (eq_of_key_eq hk.reviewIds hz hr he)
    have hatt : z.gradingAttemptId ≠ review.gradingAttemptId := fun he =>
      hne (review_eq_of_attempt hk hz hr he)
    have hitem : z.gradingJobItemId = review.gradingJobItemId →
        z.revisionNumber ≠ review.revisionNumber ∧ z.status ≠ .confirmed := fun he =>
      ⟨fun hrev => hne (eq_of_conflict hk.reviews hz hr (by simp [reviewConflict, he, hrev])
        (by simp [reviewConflict, he, hrev])), hdrafts z hz (he.trans hri)⟩
    by_cases he : z.gradingJobItemId = review.gradingJobItemId
    · obtain ⟨hrev, hst⟩ := hitem he
      simp [reviewConflict, confirmReview, hid, hid.symm, hatt, hatt.symm, hrev, hrev.symm, hst]
    · simp [reviewConflict, confirmReview, hid, hid.symm, hatt, hatt.symm, he, Ne.symm he]
  rw [reviewsUnique, decide_eq_true_eq]
  exact pairwise_replaceRow hk.reviewIds hr hk.reviews (by simp [reviewConflict]) hrival

/-! ## The job's check -/

/-- A reviewable batch takes any status a confirmation gives it. -/
theorem closedJob_check {items : List GradingJobItem} {teacherId : Uuid} {now : Time} {j : GradingJob}
    (hst : j.status = .running ∨ j.status = .paused ∨ j.status = .needsReview)
    (htimes : j.timestampsCheck = true) :
    jobUpdateCheck j (closedJob items teacherId now j) = .ok () := by
  have hstarted : j.startedAt.isSome = true := by
    unfold GradingJob.timestampsCheck at htimes
    rcases hst with h | h | h <;>
      (rw [h] at htimes; simp only [Bool.and_eq_true] at htimes; exact htimes.1)
  rw [jobUpdateCheck_eq_ok]
  rcases closedJob_cases items teacherId now j with h | h | ⟨hp, h⟩ | ⟨hp, h⟩ <;> rw [h]
  · refine ⟨rfl, ?_, rfl⟩
    rcases hst with h | h | h <;> rw [h] <;> rfl
  · refine ⟨rfl, ?_, by simpa [GradingJob.timestampsCheck, reviewedJob] using hstarted⟩
    rcases hst with h | h | h <;> rw [h] <;> rfl
  · exact ⟨rfl, by rw [hp]; rfl, by simpa [GradingJob.timestampsCheck, reviewedJob] using hstarted⟩
  · refine ⟨rfl, ?_, by simp [GradingJob.timestampsCheck, reviewedJob]⟩
    rcases hst with h | h | h
    · rw [h]; rfl
    · exact absurd h hp
    · rw [h]; rfl

/-- A batch with an item that waits for review is reviewable, or cancelled. -/
theorem reviewable_job {job : GradingJob} {item : GradingJobItem} (hc : (s.batch job).Consistent)
    (hi : item ∈ s.items) (hij : item.gradingJobId = job.id) (hst : item.status = .needsReview)
    (hne : job.status ≠ .cancelled) :
    job.status = .running ∨ job.status = .paused ∨ job.status = .needsReview := by
  have hhas : s.hasStatus job.id .needsReview := ⟨item, hi, hij, hst⟩
  cases hjs : job.status with
  | queued => cases hc.queued hjs _ hhas
  | running => exact .inl rfl
  | paused => exact .inr (.inl rfl)
  | needsReview => exact .inr (.inr rfl)
  | completed => cases hc.completed hjs _ hhas
  | failed => cases hc.failed hjs _ hhas
  | cancelled => exact absurd hjs hne

/-! ## One reference -/

theorem DraftReady.review_item (hw : WellFormed env s) {job : GradingJob} {item : GradingJobItem}
    {attempt : GradingAttempt} {review : TeacherReview} (h : DraftReady s job item attempt review) :
    review.gradingJobItemId = item.id ∧ review.ownerId = item.ownerId := by
  have hk := hw.sound.keys
  obtain ⟨a, ha, haid, hai, hao, -⟩ := hw.refs.reviews review h.review_mem
  have : a = attempt := eq_of_key_eq hk.attemptIds ha h.attempt_mem (haid.trans h.review_attempt)
  subst this
  obtain ⟨i, hi, hid, hio⟩ := hw.refs.attempts a ha
  have : i = item := eq_of_key_eq hk.items hi h.item_mem (hid.trans h.attempt_item)
  subst this
  exact ⟨hai.symm.trans h.attempt_item, hao.symm.trans hio.symm⟩

/-- The confirmation loop accepts a ready draft. -/
theorem DraftReady.check (hw : WellFormed env s) (hg : s.Graded) {job : GradingJob}
    {item : GradingJobItem} {attempt : GradingAttempt} {review : TeacherReview}
    (h : DraftReady s job item attempt review) :
    s.checkConfirmation item.ownerId review = .ok () := by
  have hk := hw.sound.keys
  obtain ⟨hri, -⟩ := h.review_item hw
  obtain ⟨job', item', _, rubric', attempt', hrows, hfind⟩ := reviewRows_exist hw h.review_mem
  have hitem : item' = item := eq_of_key_eq hk.items hrows.item_mem h.item_mem
    (hrows.item_id.trans hri)
  subst hitem
  have hjob : job' = job := eq_of_key_eq hk.jobs hrows.job_mem h.job_mem
    (hrows.job_id.trans h.item_job)
  subst hjob
  have hattempt : attempt' = attempt := eq_of_key_eq hk.attemptIds hrows.attempt_mem h.attempt_mem
    (hrows.attempt_id.trans h.review_attempt)
  subst hattempt
  obtain ⟨r, hr, hrid, -, structured, hstructured, hpayload⟩ := h.rubric
  have hrubric : rubric' = r := eq_of_key_eq (rubricIds_nodup hw.sound) hrows.rubric_mem hr
    (hrows.rubric_id.trans hrid.symm)
  subst hrubric
  refine (checkConfirmation_eq_ok hw hrows hfind).2 ⟨h.review_draft, h.item_review,
    h.attempt_succeeded, h.attempt_round, ?_, structured, hstructured, hpayload⟩
  cases hlatest : s.latestSucceeded item'.id item'.ownerId item'.dispatchVersion with
  | none => rfl
  | some b =>
    -- the round has only one success
    obtain ⟨hb, hbi, -, hbs, hbr⟩ := latestSucceeded_some hlatest
    have := hg.rounds.succeeded_unique hk hb h.attempt_mem hbs h.attempt_succeeded
      (hbi.trans h.attempt_item.symm) (hbr.trans h.attempt_round.symm)
    simp [this, h.review_attempt]

/-- **A ready draft can be confirmed unless its batch was cancelled.** -/
theorem confirmSucceeds_iff (hs : Steady env s) (hg : s.Graded) {job : GradingJob}
    {item : GradingJobItem} {attempt : GradingAttempt} {review : TeacherReview}
    (h : DraftReady s job item attempt review) (now : Time) :
    ConfirmSucceeds s item review now ↔ job.status ≠ .cancelled := by
  have hw := hs.wellFormed
  have hk := hw.sound.keys
  obtain ⟨hri, hro⟩ := h.review_item hw
  have hfound : s.referencedReview item.ownerId (review.id, review.revisionNumber) = some review :=
    referencedReview_of_mem hk h.review_mem rfl rfl hro
  have hhit : ∀ r ∈ s.reviews,
      referenced item.ownerId [(review.id, review.revisionNumber)] r = true → r = review := by
    intro r hr hq
    simp only [referenced, Bool.and_eq_true, List.any_cons, List.any_nil, Bool.or_false,
      beq_iff_eq] at hq
    exact eq_of_key_eq hk.reviewIds hr h.review_mem hq.2.symm
  have hself : referenced item.ownerId [(review.id, review.revisionNumber)] review = true := by
    simp [referenced, hro]
  have hitem : ∀ i ∈ s.items,
      s.reviewedItem item.ownerId [(review.id, review.revisionNumber)] i = true → i = item := by
    intro i hi hq
    obtain ⟨r, hr, href, hrii⟩ := (reviewedItem_iff hw hi).1 hq
    rw [hhit r hr href, hri] at hrii
    exact eq_of_key_eq hk.items hi h.item_mem hrii.symm
  have hitemSelf : s.reviewedItem item.ownerId [(review.id, review.revisionNumber)] item = true :=
    (reviewedItem_iff hw h.item_mem).2 ⟨review, h.review_mem, hself, hri⟩
  have hjob : ∀ j ∈ s.jobs,
      s.confirmedJob item.ownerId [(review.id, review.revisionNumber)] j = true → j = job := by
    intro j hj hq
    obtain ⟨i, hi, hiq, hij⟩ := (confirmedJob_iff hw hj).1 hq
    rw [hitem i hi hiq, h.item_job] at hij
    exact eq_of_key_eq hk.jobs hj h.job_mem hij.symm
  constructor
  · rintro ⟨s', hok, hrev, -⟩ hc
    obtain ⟨-, ⟨-, hnone, -⟩ | ⟨hall, -, -⟩ | ⟨-, hconf⟩⟩ := confirmTeacherReviews_eq_ok.1 hok
    · cases hnone
    · obtain ⟨x, hx, hxc⟩ := hall _ (List.mem_singleton.2 rfl)
      rw [hfound] at hx
      cases hx
      rw [h.review_draft] at hxc
      cases hxc
    · -- the status trigger refuses the job row
      have hchk := hconf.job_check job h.job_mem
        ((confirmedJob_iff hw h.job_mem).2 ⟨item, h.item_mem, hitemSelf, h.item_job⟩)
      exact jobUpdateCheck_ne_cancelled hchk (closedJob_ne_cancelled _ _ _ _) hc
  · intro hne
    have hreviews : setWhere (referenced item.ownerId [(review.id, review.revisionNumber)])
        (confirmReview now) s.reviews =
        replaceRow (·.id) review (confirmReview now review) s.reviews :=
      setWhere_eq_replaceRow hk.reviewIds h.review_mem hself (fun r hr hq => by rw [hhit r hr hq]) _
    have hvalid : validRefs [(review.id, review.revisionNumber)] := by
      refine ⟨⟨rfl, ?_⟩, List.nodup_singleton _⟩
      simp only [List.all_cons, List.all_nil, Bool.and_true, Bool.and_eq_true, decide_eq_true_eq]
      exact ⟨hw.rows.review_id review h.review_mem, hw.rows.review_revision review h.review_mem⟩
    have hopen := reviewable_job (hs.consistent job h.job_mem) h.item_mem h.item_job h.item_review hne
    refine ⟨{ s with
      reviews := setWhere (referenced item.ownerId [(review.id, review.revisionNumber)])
        (confirmReview now) s.reviews
      items := setWhere (s.reviewedItem item.ownerId [(review.id, review.revisionNumber)])
        (completeItem now) s.items
      jobs := setWhere (s.confirmedJob item.ownerId [(review.id, review.revisionNumber)])
        (closedJob (setWhere (s.reviewedItem item.ownerId [(review.id, review.revisionNumber)])
          (completeItem now) s.items) item.ownerId now) s.jobs },
      confirmTeacherReviews_eq_ok.2 ⟨hvalid, .inr (.inr ⟨rfl, ?_, ?_, ?_, ?_, ?_, rfl⟩)⟩,
      ?_, ?_⟩
    · intro ref href
      rw [List.mem_singleton.1 href]
      exact ⟨review, hfound, h.review_draft, h.check hw hg⟩
    · intro r hr hq
      rw [hhit r hr hq]
      exact confirmReview_check hw h.review_mem h.review_draft now
    · rw [hreviews]
      exact confirm_unique hw hg.reviewed h.item_mem h.item_review h.review_mem hri now
    · intro i hi hq
      rw [hitem i hi hq]
      exact completeItem_check hw h.item_mem h.item_review now
    · intro j hj hq
      rw [hjob j hj hq]
      exact closedJob_check hopen (hw.rows.job_times job h.job_mem)
    · exact mem_setWhere.2 (.inl ⟨review, h.review_mem, hself, rfl⟩)
    · exact mem_setWhere.2 (.inl ⟨item, h.item_mem, hitemSelf, rfl⟩)

/-- **When the confirmation of a saved draft commits**, in every reachable store. -/
theorem after_confirmSucceeds (as : List (Action env)) {job : GradingJob} {item : GradingJobItem}
    {attempt : GradingAttempt} {review : TeacherReview}
    (h : DraftReady (after env as) job item attempt review) (now : Time) :
    ConfirmSucceeds (after env as) item review now ↔ job.status ≠ .cancelled :=
  confirmSucceeds_iff (after_steady as) (after_graded as) h now

end Store

/-! ## A graded paper that cannot be confirmed -/

namespace Sample

open Store Table

def result : ValidatedGradeResult where
  dimensions := [⟨"content", ⟨false, 10, 0⟩, "Good.", [⟨"b000001", "quote"⟩], ["More."]⟩]
  deductions := []
  overallFeedback := "Fine."
  subtotal := ⟨false, 10, 0⟩
  deductionTotal := ⟨false, 0, 0⟩
  totalScore := ⟨false, 10, 0⟩

def answer : ProviderGradeResult where
  providerType := .openai
  requestedModel := "m"
  reportedModel := "m"
  requestId := "r"
  outputText := "{}"
  usage := ⟨1, 0, 0, 1, 0, some 2, by decide, by decide⟩
  estimatedCost := none
  rawResponse := []
  rawResponseSha256 := 0
  sentSchemaSha256 := 0
  outputTextOk := by decide

def completion : GradingAttemptCompletion := ⟨result, answer, "response", 0⟩

def runningItem : GradingJobItem := claimItem 1 9 snapshot.timeoutSeconds itemRow

def reviewItem : GradingJobItem := closeItem .needsReview none 3 runningItem

def runningAttempt : GradingAttempt := ready.claimedAttempt preparation itemRow 0 1 8

def gradedAttempt : GradingAttempt :=
  succeededAttempt completion
    ⟨some 10, some 0, some 10, some result.dimensions, some [], some "Fine."⟩
    ⟨some "r", some "m", some 1, some 0, some 0, some 1, some 0, some 2, none, none, none⟩ 3
    runningAttempt

def cancelledJob : GradingJob := cancelJob 2 (claimJob 1 jobRow)

/-- The call of the cancelled batch ends well. -/
def graded : Store :=
  cancelled.closedStore cancelledJob runningItem reviewItem runningAttempt gradedAttempt 3

theorem finish_cancelled : cancelled.finishSuccess firstClaim completion ⟨3, 3⟩ = .ok graded := by
  have hs : Steady sampleRuntime cancelled := after_midCall ▸ after_steady midCall
  have hlock : cancelled.lockClaimed firstClaim = .ok (cancelledJob, runningItem, runningAttempt) := rfl
  exact (finishSuccess_ok hs hlock).2
    ⟨_, _, by decide +kernel, by decide +kernel, by decide +kernel, by decide +kernel, rfl⟩

/-- The teacher saves the result as it is. -/
def savedPayload : ReviewPayload where
  criteria := [⟨"content", ⟨false, 10, 0⟩, "Good.", ["More."]⟩]
  deductions := []
  evidence := [⟨.dimension, "content", "b000001", "quote"⟩]
  feedback := "Fine."
  changeReason := none
  subtotal := 10
  deductionTotal := 0
  finalScore := 10

def reviewId : RandomUuid := ⟨0x00000000000040008000000000000000, by decide⟩

def savedReview : TeacherReview := newReview teacher gradedAttempt 1 savedPayload reviewId 4

def drafted : Store := { graded with reviews := [savedReview] }

theorem save_graded : graded.saveTeacherReviewDraft (some teacher) item 8 savedPayload reviewId 4 =
    .ok (some reviewId.value, drafted) := by
  have htarget : graded.draftTarget teacher item 8 = some (reviewItem, gradedAttempt, rubric) := by
    decide +kernel
  unfold saveTeacherReviewDraft
  simp only [htarget]
  refine bind_eq_ok.2 ⟨(), by decide +kernel, bind_eq_ok.2 ⟨savedPayload, by decide +kernel, ?_⟩⟩
  exact bind_eq_ok.2 ⟨drafted, insertReview_eq_ok.2 ⟨rfl, by decide +kernel, rfl⟩, rfl⟩

/-- A batch cancelled during its last call, whose result the teacher has saved. -/
def savedLate : List (Action sampleRuntime) :=
  midCall ++ [.finishSuccess firstClaim completion ⟨3, 3⟩] ++
    [.saveTeacherReviewDraft (some teacher) item 8 savedPayload reviewId 4]

theorem after_savedLate : after sampleRuntime savedLate = drafted := by
  have hgraded : step sampleRuntime cancelled (.finishSuccess firstClaim completion ⟨3, 3⟩) = graded :=
    step_of_ok finish_cancelled
  rw [savedLate, after_concat, after_concat, after_midCall, hgraded]
  exact step_of_ok (map_snd_eq_ok.2 ⟨_, save_graded⟩)

def gradedJob : GradingJob := reconciledJob [.needsReview] 3 cancelledJob

theorem drafted_items : drafted.items = [reviewItem] :=
  replaceRow_singleton (fun i : GradingJobItem => i.id) runningItem reviewItem

theorem drafted_attempts : drafted.attempts = [gradedAttempt] :=
  replaceRow_singleton (fun a : GradingAttempt => a.id) runningAttempt gradedAttempt

theorem drafted_jobs : drafted.jobs = [gradedJob] :=
  replaceRow_singleton (fun j : GradingJob => j.id) cancelledJob gradedJob

theorem drafted_ready : DraftReady drafted gradedJob reviewItem gradedAttempt savedReview where
  job_mem := by rw [drafted_jobs]; exact List.mem_singleton.2 rfl
  item_mem := by rw [drafted_items]; exact List.mem_singleton.2 rfl
  attempt_mem := by rw [drafted_attempts]; exact List.mem_singleton.2 rfl
  review_mem := List.mem_singleton.2 rfl
  item_job := rfl
  item_review := rfl
  attempt_item := rfl
  attempt_succeeded := rfl
  attempt_round := rfl
  review_attempt := rfl
  review_draft := rfl
  submission := ⟨submissionRow, List.mem_singleton.2 rfl, rfl, rfl⟩
  rubric := ⟨rubricRow, List.mem_singleton.2 rfl, rfl, .inl rfl, rubric, rfl, by decide +kernel⟩

theorem after_confirmSucceeds_late :
    ConfirmSucceeds (after sampleRuntime savedLate) reviewItem savedReview 5 ↔
      gradedJob.status ≠ .cancelled :=
  after_confirmSucceeds savedLate (after_savedLate ▸ drafted_ready) 5

/-- The saved draft is ready, and still its confirmation fails. -/
theorem savedLate_refused :
    ¬∀ (as : List (Action sampleRuntime)) (job : GradingJob) (item : GradingJobItem)
      (attempt : GradingAttempt) (review : TeacherReview),
      DraftReady (after sampleRuntime as) job item attempt review →
        ∀ now, ConfirmSucceeds (after sampleRuntime as) item review now := by
  intro h
  have hready : DraftReady (after sampleRuntime savedLate) gradedJob reviewItem gradedAttempt
      savedReview := after_savedLate ▸ drafted_ready
  have hconfirms := h savedLate _ _ _ _ hready 5
  exact (confirmSucceeds_iff (after_steady _) (after_graded _) hready 5).1 hconfirms rfl

end Sample

end PaperGrading
