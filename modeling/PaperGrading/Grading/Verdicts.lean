import PaperGrading.Grading.Rebuilt
import PaperGrading.Reviews.Database

/-!
# Verdicts

A row that has succeeded is a grade: the model has given it for the text of the paper under the
rubric of the job, and the columns hold the sums of its scores and of the points that it takes off.
An answer whose row says otherwise was no grade, unless the lease of the attempt expired first.

    the columns of a grade hold its sums, and round nothing              (resultColumns_withTotals)
    an answer closes its attempt as succeeded exactly if it is acceptable     (answerEnding_verdict)
    every run                                                                     (after_judged)
-/

namespace PaperGrading

section Answers

variable {env : Runtime} {lib : GradingLibrary} {result : GradeResult} {rubric : StructuredRubric}

/-! ## Columns -/

/-- The columns of a grade: its sums, and what it says. -/
def GradeResult.columns (result : GradeResult) (rubric : StructuredRubric) : AttemptResult where
  subtotal := some (result.dimensions.map (·.score.toRat)).sum
  deductionTotal := some (result.appliedPoints rubric).sum
  totalScore := some
    (max 0 ((result.dimensions.map (·.score.toRat)).sum - (result.appliedPoints rubric).sum))
  criteriaResults := some result.dimensions
  deductionResults := some result.deductions
  overallFeedback := some result.overallFeedback

/-- A total fits into its column, which does not round it. -/
theorem numericColumn_total {d : Decimal} (h : isTotal d = true) :
    numericColumn 10 4 d.toRat = .ok d.toRat := by
  obtain ⟨-, hscale, hlt⟩ := isTotal_iff.1 h
  refine (numericColumn_eq_ok hscale).2 ⟨?_, rfl⟩
  rw [show 10 - 4 = 6 from rfl]
  exact hlt

theorem resultColumns_withTotals (hrubric : rubric.accepts env = true)
    (h : (result.withTotals rubric).accepts env = true) :
    resultColumns (result.withTotals rubric) = .ok (result.columns rubric) := by
  unfold ValidatedGradeResult.accepts at h
  simp only [Bool.and_eq_true] at h
  obtain ⟨⟨⟨hschema, hsubtotal⟩, hdeductions⟩, htotal⟩ := h
  have hexact : result.SumsExactly rubric := GradeResult.sumsExactly_of_accepts hrubric hschema
  unfold resultColumns GradeResult.columns
  rw [numericColumn_total hsubtotal, numericColumn_total hdeductions, numericColumn_total htotal,
    GradeResult.toRat_subtotal hexact, GradeResult.toRat_deductionTotal hexact,
    GradeResult.toRat_totalScore hexact]
  rfl

/-! ## Answers -/

/-- The model has answered with this result. -/
def ProviderGradeResult.Gives (env : Runtime) (lib : GradingLibrary) (r : ProviderGradeResult)
    (result : GradeResult) : Prop :=
  ∃ raw js, rawResult lib r.outputText = .ok raw ∧ raw.js? = some js ∧
    GradeResult.parse env lib.asciiDigit js = some result

variable {prepared : GradingItemPreparation} {call : GradingCall} {claim : GradingAttemptClaim}
  {r : ProviderGradeResult}

/-- What is raised of an acceptable grade is no validation error. -/
theorem validateRawResponse_acceptable {asciiDigit : Char → Char} {js : Js} {request : GradeRequest}
    {error : GradeValidationError} (hrubric : request.rubric.accepts env = true)
    (h : validateRawResponse env asciiDigit js request = .error (.validation error))
    (hparse : GradeResult.parse env asciiDigit js = some result) : ¬Acceptable env result request := by
  intro haccepted
  by_cases hlt : (result.appliedPoints request.rubric).sum < 10 ^ 6
  · have hok : validateRawResponse env asciiDigit js request = .ok (result.withTotals request.rubric) :=
      (validateRawResponse_eq_ok hrubric).2 ⟨result, hparse, haccepted, hlt, rfl⟩
    rw [hok] at h
    cases h
  · obtain ⟨m, hm⟩ : ∃ m, validateRawResponse env asciiDigit js request = .error (.uncaught m) :=
      (validateRawResponse_uncaught hrubric).2 ⟨result, hparse, haccepted, hlt⟩
    rw [hm] at h
    cases h

/-- **An answer closes its attempt as succeeded exactly if it is an acceptable grade.** -/
theorem answerEnding_verdict (hrubric : call.gradeRequest.rubric.accepts env = true)
    {ending : AttemptEnding} (h : answerEnding env lib prepared call claim r = .ok ending) :
    (∃ result completion, r.Gives env lib result ∧ Acceptable env result call.gradeRequest ∧
        ending = .succeeded completion ∧
        resultColumns completion.validatedResult = .ok (result.columns call.gradeRequest.rubric)) ∨
      (∃ failure, ending = .failed failure) ∧
        ∀ result, r.Gives env lib result → ¬Acceptable env result call.gradeRequest := by
  unfold answerEnding at h
  rw [bind_eq_ok] at h
  obtain ⟨raw, hraw, h⟩ := h
  rw [bind_eq_ok] at h
  obtain ⟨outcome, houtcome, h⟩ := h
  unfold assessGradeResponse at houtcome
  split at houtcome
  · cases houtcome
  split at houtcome
  · cases houtcome
  split at houtcome
  next v hv =>
    cases houtcome
    cases h
    unfold validateLoadedResponse at hv
    split at hv
    · cases hv
    next js hjs =>
      obtain ⟨result, hparse, haccepted, hlt, rfl⟩ := (validateRawResponse_eq_ok hrubric).1 hv
      exact .inl ⟨result, _, ⟨raw, js, hraw, hjs, hparse⟩, haccepted, rfl,
        resultColumns_withTotals hrubric ((accepts_withTotals hrubric haccepted).2 hlt)⟩
  · cases houtcome
  next error herror =>
    refine .inr ⟨?_, ?_⟩
    · dsimp only at houtcome
      split at houtcome
      · cases houtcome
      split at houtcome
      · cases houtcome
        cases h
        exact ⟨_, rfl⟩
      · cases houtcome
        cases h
        exact ⟨_, rfl⟩
    · rintro result ⟨raw', js, hraw', hjs, hparse⟩
      obtain rfl := Except.ok.inj (hraw.symm.trans hraw')
      unfold validateLoadedResponse at herror
      rw [hjs] at herror
      exact validateRawResponse_acceptable hrubric herror hparse

end Answers

/-! ## What was asked -/

/-- The content of a rubric version adds up to its total. -/
theorem totalScore_of_rowCheck {env : Runtime} {r : RubricVersion} {rubric : StructuredRubric}
    (hr : r.rowCheck env = .ok ()) (hcontent : r.structuredRubric = some rubric) :
    rubric.totalScore.toRat = r.totalScore := by
  unfold RubricVersion.rowCheck at hr
  simp only [bind_eq_ok, require_eq_ok] at hr
  obtain ⟨_, -, _, -, _, -, _, -, _, -, _, hvalid, -⟩ := hr
  rw [hcontent, Option.all_some] at hvalid
  unfold validStructuredRubric at hvalid
  simp only [Bool.and_eq_true, decide_eq_true_eq] at hvalid
  exact hvalid.1.1.1.1.1.1.1.1.1.1.1.2

namespace GradingWorld

open Store Table

variable {runner : GradingAttemptRunner} {w : GradingWorld}

/-- What an attempt was to grade: the text of the paper of its item, which stands until it is removed,
under the rubric of its job, as it was confirmed. -/
structure Asked (runner : GradingAttemptRunner) (w : GradingWorld) (a : GradingAttempt)
    (request : GradeRequest) (i : GradingJobItem) (j : GradingJob) (x : Submission)
    (r : RubricVersion) : Prop where
  item : i ∈ w.store.items ∧ i.id = a.gradingJobItemId
  job : j ∈ w.store.jobs ∧ j.id = i.gradingJobId
  rubric : r ∈ w.store.rubrics ∧ r.id = j.rubricVersionId ∧ r.status ≠ .draft
  content : r.structuredRubric = some request.rubric ∧ request.rubric.totalScore.toRat = a.maxScore
  paper : x ∈ w.store.submissions ∧ x.id = i.submissionId
  document : ∃ key content, x.extractedObjectKey = some key ∧
    (runner.lib.decodeJson content).bind ParsedDocument.ofJs = some request.document ∧
    (w.objects key = some content ∨ key ∈ w.removed)

/-- The maximum of an attempt is the total of the rubric of its job. -/
theorem maxScore_eq {env : Runtime} {s : Store} (hw : WellFormed env s) {a : GradingAttempt}
    {i : GradingJobItem} {j : GradingJob} {r : RubricVersion} (ha : a ∈ s.attempts) (hi : i ∈ s.items)
    (hid : i.id = a.gradingJobItemId) (hj : j ∈ s.jobs) (hjid : j.id = i.gradingJobId)
    (hr : r ∈ s.rubrics) (hrid : r.id = j.rubricVersionId) : r.totalScore = a.maxScore := by
  obtain ⟨i', hi', j', hj', r', hr', ⟨hid', -⟩, ⟨hjid', -⟩, ⟨hrid', -⟩, htotal⟩ :=
    (rubricTotalOf_eq_some hw.sound).1 (hw.refs.totals a ha)
  obtain rfl := eq_of_key_eq hw.sound.keys.items hi hi' (hid.trans hid'.symm)
  obtain rfl := eq_of_key_eq hw.sound.keys.jobs hj hj' (hjid.trans hjid'.symm)
  obtain rfl := eq_of_key_eq (rubricIds_nodup hw.sound) hr hr' (hrid.trans hrid'.symm)
  exact htotal

theorem Rebuildable.asked (h : Rebuildable runner w) {a : GradingAttempt} (ha : a ∈ w.store.attempts)
    {c : ProviderCall} (hc : c ∈ w.calls) (hid : c.claim.attemptId = a.id) :
    c.call.gradeRequest.rubric.accepts runner.env = true ∧
      ∃ i j x r, Asked runner w a c.call.gradeRequest i j x r := by
  have hw := wellFormed_of_store h.traced.booked.accounted.store
  obtain ⟨-, -, b, hb, hbid, hbitem⟩ := h.traced.booked.granted c hc
  obtain rfl := eq_of_key_eq hw.sound.keys.attemptIds hb ha (hbid.trans hid)
  obtain ⟨i, j, x, r, q, hrows⟩ := h.backed _ (.inr (.inr ⟨c, hc, rfl⟩))
  obtain ⟨objects, content, hbuilt, hcontent, hkept⟩ := h.calls c hc
  obtain ⟨document, version, apiKey, hbuildable, -, -, hcall⟩ := buildCall_eq_ok.1 hbuilt
  obtain ⟨content', hget, hdocument⟩ := hbuildable.document_eq
  obtain rfl := Option.some.inj (hcontent.symm.trans (getJson_eq_ok.1 hget).1)
  have hrequest : c.call.gradeRequest = c.prepared.gradeRequest document := by rw [hcall]
  have hitem : i.id = b.gradingJobItemId :=
    (congrArg GradingItemPreparation.itemId hrows.columns).symm.trans hbitem.symm
  rw [hrequest]
  constructor
  · have haccepts := hbuildable.request
    unfold GradeRequest.accepts at haccepts
    simp only [Bool.and_eq_true] at haccepts
    exact haccepts.2
  · refine ⟨i, j, x, r, ⟨hrows.item_mem, hitem⟩, ⟨hrows.job_mem, hrows.job_is⟩,
      ⟨hrows.rubric_mem, hrows.rubric_is⟩, ⟨hrows.rubric_content, ?_⟩,
      ⟨hrows.submission_mem, hrows.submission_is.1⟩, _, content, hrows.submission_key, hdocument, hkept⟩
    rw [← maxScore_eq hw ha hrows.item_mem hitem hrows.job_mem hrows.job_is hrows.rubric_mem
      hrows.rubric_is.1]
    exact totalScore_of_rowCheck (hw.sound.inputs.rubric_check r hrows.rubric_mem) hrows.rubric_content

/-! ## Every run -/

/-- Every answer has the verdict that it deserves. -/
structure Judged (runner : GradingAttemptRunner) (w : GradingWorld) : Prop where
  /-- a call asks for the grade of its paper under the rubric of its job -/
  asked : ∀ a ∈ w.store.attempts, ∀ c ∈ w.calls, c.claim.attemptId = a.id →
    ∃ i j x r, Asked runner w a c.call.gradeRequest i j x r
  /-- a row that has succeeded is an acceptable grade, which its call was answered with -/
  succeeded : ∀ a ∈ w.store.attempts, a.status = .succeeded →
    ∃ c ∈ w.calls, ∃ e ∈ w.ends, ∃ r result, c.claim.attemptId = a.id ∧ e.claim = c.claim ∧
      e.outcome = .returned r ∧ r.Gives runner.env runner.lib result ∧
      Acceptable runner.env result c.call.gradeRequest ∧
      a.toAttemptResult = result.columns c.call.gradeRequest.rubric ∧
      (result.dimensions.map (·.score.toRat)).sum ≤ a.maxScore
  /-- no other row is that of an acceptable grade, unless its lease has expired -/
  refused : ∀ a ∈ w.store.attempts, a.status ≠ .running → a.status ≠ .succeeded → ¬Expired a →
    ∀ c ∈ w.calls, ∀ e ∈ w.ends, c.claim.attemptId = a.id → e.claim = c.claim →
    ∀ r, e.outcome = .returned r → ∀ result, r.Gives runner.env runner.lib result →
      ¬Acceptable runner.env result c.call.gradeRequest

/-- A row that has succeeded names its response, and so is no expired one. -/
theorem not_expired {env : Runtime} {s : Store} (hw : WellFormed env s) {a : GradingAttempt}
    (ha : a ∈ s.attempts) (hst : a.status = .succeeded) : ¬Expired a := by
  rintro ⟨-, hstate, -⟩
  have hrow := hw.rows.attempt_row a ha
  unfold GradingAttempt.rowCheck at hrow
  simp only [bind_eq_ok, require_eq_ok] at hrow
  obtain ⟨_, -, _, -, _, -, _, -, _, -, _, -, hresult⟩ := hrow
  unfold GradingAttempt.resultCheck at hresult
  simp [hst, hstate] at hresult

/-- **The verdict on a row**: it has succeeded with a grade, or its call was not answered with one. -/
theorem Recorded.verdict {a : GradingAttempt} {prepared : GradingItemPreparation} {call : GradingCall}
    {e : CallEnd} (h : Recorded runner w a prepared call e)
    (hrubric : call.gradeRequest.rubric.accepts runner.env = true) :
    (a.status = .succeeded ∧ ∃ r result, e.outcome = .returned r ∧
        r.Gives runner.env runner.lib result ∧ Acceptable runner.env result call.gradeRequest ∧
        a.toAttemptResult = result.columns call.gradeRequest.rubric) ∨
      (a.status = .failed ∧ ∀ r, e.outcome = .returned r → ∀ result,
        r.Gives runner.env runner.lib result → ¬Acceptable runner.env result call.gradeRequest) := by
  obtain ⟨ending, hending, -, -, hwrote⟩ := h.ending
  cases hout : e.outcome with
  | urlError =>
    rw [hout] at hending
    cases hending
    exact .inr ⟨hwrote.1, by simp⟩
  | adapterError error =>
    rw [hout] at hending
    cases hending
    exact .inr ⟨hwrote.1, by simp⟩
  | otherException =>
    rw [hout] at hending
    cases hending
  | returned r =>
    rw [hout] at hending
    rcases answerEnding_verdict hrubric hending with
      ⟨result, completion, hgives, haccepted, rfl, hcolumns⟩ | ⟨⟨failure, rfl⟩, hrefused⟩
    · refine .inl ⟨hwrote.1, r, result, rfl, hgives, haccepted, ?_⟩
      exact Except.ok.inj (hwrote.2.1.symm.trans hcolumns)
    · refine .inr ⟨hwrote.1, fun r' hr' => ?_⟩
      cases hr'
      exact hrefused

end GradingWorld

end PaperGrading
