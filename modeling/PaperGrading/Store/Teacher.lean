import PaperGrading.Store.Worker

/-!
# The teacher transactions

`control_grading_job`, `save_teacher_review_draft` and `confirm_teacher_reviews`, the
three `SECURITY DEFINER` functions of the review workbench, with the payload
validator the last two share.  `teacher` is what `current_active_teacher_id()`
returns; a result of `none` is the SQL `NULL` that leaves the store unchanged.
-/

namespace PaperGrading

/-- An identifier from `gen_random_uuid()`: version 4, RFC variant. -/
def isRfcUuid (u : Uuid) : Bool :=
  let version := u.toNat / 2 ^ 76 % 16
  let variant := u.toNat / 2 ^ 60 % 16
  decide (1 ≤ version) && decide (version ≤ 5) && decide (8 ≤ variant) && decide (variant ≤ 11)

structure RandomUuid where
  value : Uuid
  rfc : isRfcUuid value = true
  deriving DecidableEq

/-! ## Control -/

inductive ControlAction where
  | pause | resume | cancel
  | retry (itemId : Uuid)
  deriving DecidableEq

/-- The item row of a cancellation. -/
def cancelItem (now : Time) (i : GradingJobItem) : GradingJobItem :=
  { i with status := .cancelled, finishedAt := some now }

/-- The item row of a manual retry: a new round. -/
def retryItem (now : Time) (i : GradingJobItem) : GradingJobItem :=
  { i with
    status := .queued
    dispatchVersion := i.dispatchVersion + 1
    retryCount := 0
    availableAt := now
    leaseToken := none
    leaseExpiresAt := none
    startedAt := none
    finishedAt := none
    errorCode := none }

def pauseJob (now : Time) (j : GradingJob) : GradingJob :=
  { j with status := .paused, startedAt := j.startedAt.or (some now),
           stateVersion := j.stateVersion + 1 }

def resumeJob (j : GradingJob) : GradingJob :=
  { j with status := .running, stateVersion := j.stateVersion + 1 }

def cancelJob (now : Time) (j : GradingJob) : GradingJob :=
  { j with status := .cancelled, startedAt := j.startedAt.or (some now), finishedAt := some now,
           stateVersion := j.stateVersion + 1 }

def reopenJob (now : Time) (j : GradingJob) : GradingJob :=
  { j with status := .running, startedAt := j.startedAt.or (some now), finishedAt := none,
           stateVersion := j.stateVersion + 1 }

namespace Store

/-- The items a retry of `itemId` re-queues. -/
def retryable (s : Store) (job : GradingJob) (teacher itemId : Uuid) (i : GradingJobItem) : Bool :=
  i.id == itemId && i.gradingJobId == job.id && i.ownerId == teacher &&
    (i.status == .needsReview || i.status == .failed) &&
    !s.reviews.any fun r => r.gradingJobItemId == itemId && r.ownerId == teacher &&
      r.status == .confirmed

def controlGradingJob (s : Store) (teacher : Option Uuid) (jobId : Uuid) (action : ControlAction)
    (now : Time) : Except TxError (Option Uuid × Store) :=
  match teacher with
  | none => .ok (none, s)
  | some teacherId =>
    match s.jobs.find? (fun j => j.id == jobId && j.ownerId == teacherId) with
    | none => .ok (none, s)
    | some job =>
      match action with
      | .pause =>
        if job.status = .queued ∨ job.status = .running then do
          let s' ← s.updateJobs now true (·.id == jobId) (pauseJob now)
          return (some jobId, s')
        else .ok (none, s)
      | .resume =>
        if job.status = .paused then do
          let s' ← s.updateJobs now true (·.id == jobId) resumeJob
          return (some jobId, s')
        else .ok (none, s)
      | .cancel =>
        if job.status = .queued ∨ job.status = .running ∨ job.status = .paused then do
          let s₁ ← s.updateItems (fun i => i.gradingJobId == jobId && i.ownerId == teacherId &&
            i.status == .queued) (cancelItem now)
          let s₂ ← s₁.updateJobs now true (·.id == jobId) (cancelJob now)
          return (some jobId, s₂)
        else .ok (none, s)
      | .retry itemId =>
        if s.providers.any (fun p => p.id == job.providerConfigId &&
            p.configVersion == job.providerConfigVersion) then
          if s.items.any (s.retryable job teacherId itemId) then do
            let s₁ ← s.updateItems (s.retryable job teacherId itemId) (retryItem now)
            let s₂ ← s₁.updateJobs now true (·.id == jobId) (reopenJob now)
            return (some jobId, s₂)
          else .ok (none, s)
        else .ok (none, s)

end Store

/-! ## Payload validation -/

/-- `~ '^(0|[1-9][0-9]*)(\.[0-9]{1,4})?$'` -/
def isPlainScore (text : String) : Bool :=
  let whole := text.toList.takeWhile (· != '.')
  let frac := text.toList.dropWhile (· != '.')
  (match whole with
    | [] => false
    | c :: cs => (c == '0' && cs.isEmpty) || (c.isDigit && c != '0' && cs.all Char.isDigit)) &&
  (match frac with
    | [] => true
    | _ :: ds => lengthBetween 1 4 ds.length && ds.all Char.isDigit)

namespace ReviewCriterion

/-- The check of one criterion against its rubric dimension. -/
def violates (step : ℚ) (c : ReviewCriterion) (d : RubricDimension) : Bool :=
  c.dimensionId != d.id || !isPlainScore c.score.str || btrimEmpty c.reason ||
    c.revisionSuggestions.isEmpty || decide (c.score.toRat < 0) ||
    decide (d.maxScore.toRat < c.score.toRat) || !StructuredRubric.onGrid step c.score.toRat

/-- An AI dimension result without its evidence. -/
def ofResult (d : DimensionResult) : ReviewCriterion :=
  ⟨d.dimensionId, d.score, d.reason, d.revisionSuggestions⟩

end ReviewCriterion

namespace ReviewDeduction

def violates (r : ReviewDeduction) (d : RubricDeduction) : Bool :=
  r.deductionId != d.id || btrimEmpty r.reason

def ofResult (d : DeductionResult) : ReviewDeduction := ⟨d.deductionId, d.applied, d.reason⟩

end ReviewDeduction

namespace ReviewPayload

def evidenceViolates (p : ReviewPayload) (e : ReviewEvidence) : Bool :=
  !isBlockId e.blockId || btrimEmpty e.quote ||
    match e.targetType with
    | .dimension => !p.criteria.any (·.dimensionId == e.targetId)
    | .deduction => !p.deductions.any (·.deductionId == e.targetId)

def calculatedSubtotal (p : ReviewPayload) : ℚ := (p.criteria.map (·.score.toRat)).sum

/-- The fixed points of the applied deductions. -/
def calculatedDeductionTotal (p : ReviewPayload) (rubric : StructuredRubric) : ℚ :=
  ((p.deductions.zip rubric.deductions).map fun x => if x.1.applied then x.2.points.toRat else 0).sum

/-- Evidence of the AI result in attempt order: dimensions first, then deductions. -/
def aiEvidence (criteria : List DimensionResult) (deductions : List DeductionResult) :
    List ReviewEvidence :=
  criteria.flatMap (fun d => d.evidence.map fun q =>
      ⟨.dimension, d.dimensionId, q.blockId, q.quote⟩) ++
    deductions.flatMap fun d => d.evidence.map fun q =>
      ⟨.deduction, d.deductionId, q.blockId, q.quote⟩

/-- The payload repeats the AI result. -/
def unchanged (p : ReviewPayload) (a : AttemptResult) : Bool :=
  let criteria := a.criteriaResults.getD []
  let deductions := a.deductionResults.getD []
  p.criteria == criteria.map ReviewCriterion.ofResult &&
    p.deductions == deductions.map ReviewDeduction.ofResult &&
    p.evidence == aiEvidence criteria deductions && some p.feedback == a.overallFeedback

end ReviewPayload

/-- `validate_teacher_review_payload`. -/
def validateTeacherReviewPayload (p : ReviewPayload) (rubric : StructuredRubric) (a : AttemptResult) :
    Except TxError Unit := do
  require (!btrimEmpty p.feedback) (checkViolation "review payload shape is invalid")
  require (p.criteria.length == rubric.dimensions.length &&
      p.deductions.length == rubric.deductions.length)
    (checkViolation "review result ids do not match rubric")
  require ((p.criteria.zip rubric.dimensions).all fun x =>
      !x.1.violates rubric.scoreStep.toRat x.2)
    (checkViolation "review criterion violates rubric")
  require ((p.deductions.zip rubric.deductions).all fun x => !x.1.violates x.2)
    (checkViolation "review deduction violates rubric")
  require (p.evidence.all fun e => !p.evidenceViolates e)
    (checkViolation "review evidence target is invalid")
  require (decide (p.subtotal = p.calculatedSubtotal) &&
      decide (p.deductionTotal = p.calculatedDeductionTotal rubric) &&
      decide (p.finalScore =
        max 0 (p.calculatedSubtotal - p.calculatedDeductionTotal rubric)))
    (checkViolation "review total must be calculated from rubric")
  require (p.changeReason.isSome || p.unchanged a)
    (checkViolation "review change reason is required")

/-! ## Saving a draft -/

namespace Store

/-- The succeeded attempt of a round with the largest number. -/
def latestSucceeded (s : Store) (itemId ownerId : Uuid) (round : Nat) : Option GradingAttempt :=
  Table.latest (fun a => a.gradingJobItemId == itemId && a.ownerId == ownerId &&
    a.status == .succeeded && a.scoringRound == round) (·.attemptNumber) s.attempts

/-- The rows `save_teacher_review_draft` reads; `none` where it returns `NULL`. -/
def draftTarget (s : Store) (teacherId itemId attemptId : Uuid) :
    Option (GradingJobItem × GradingAttempt × StructuredRubric) := do
  let item ← s.items.find? fun i => i.id == itemId && i.ownerId == teacherId
  let job ← s.jobs.find? fun j => j.id == item.gradingJobId && j.ownerId == teacherId
  guard (item.status = .needsReview)
  let attempt ← s.latestSucceeded itemId teacherId item.dispatchVersion
  guard (attempt.id = attemptId)
  let submission ← s.submissions.find? fun x => x.id == item.submissionId &&
    x.assignmentId == item.assignmentId && x.ownerId == teacherId
  let rubric ← s.rubrics.find? fun r => r.id == job.rubricVersionId &&
    r.assignmentId == job.assignmentId && r.ownerId == teacherId
  let structured ← rubric.structuredRubric
  guard (submission.status = .ready ∧ submission.extractedObjectKey.isSome ∧
    (rubric.status = .confirmed ∨ rubric.status = .superseded) ∧
    attempt.maxScore = rubric.totalScore)
  return (item, attempt, structured)

/-- The totals as their `numeric(10,4)` columns hold them. -/
def storedPayload (p : ReviewPayload) : Except TxError ReviewPayload := do
  let subtotal ← numericColumn 10 4 p.subtotal
  let deductionTotal ← numericColumn 10 4 p.deductionTotal
  let finalScore ← numericColumn 10 4 p.finalScore
  return { p with subtotal, deductionTotal, finalScore }

/-- The review row of a repeated save. -/
def resaveReview (revision : Nat) (p : ReviewPayload) (r : TeacherReview) : TeacherReview :=
  { r with revisionNumber := revision + 1, payload := p }

def newReview (teacherId : Uuid) (attempt : GradingAttempt) (revision : Nat) (p : ReviewPayload)
    (id : RandomUuid) (now : Time) : TeacherReview :=
  { id := id.value
    ownerId := teacherId
    gradingJobItemId := attempt.gradingJobItemId
    gradingAttemptId := attempt.id
    maxScore := attempt.maxScore
    createdAt := now
    revisionNumber := revision
    status := .draft
    payload := p
    confirmedAt := none }

def saveTeacherReviewDraft (s : Store) (teacher : Option Uuid) (itemId attemptId : Uuid)
    (p : ReviewPayload) (freshId : RandomUuid) (now : Time) :
    Except TxError (Option Uuid × Store) :=
  match teacher with
  | none => .ok (none, s)
  | some teacherId =>
    match s.draftTarget teacherId itemId attemptId with
    | none => .ok (none, s)
    | some (_, attempt, structured) => do
      validateTeacherReviewPayload p structured attempt.toAttemptResult
      match s.reviews.find? (fun r => r.gradingAttemptId == attemptId &&
          r.gradingJobItemId == itemId && r.ownerId == teacherId) with
      | some review =>
        if review.status = .draft then do
          let stored ← storedPayload p
          let s' ← s.updateReviews (·.id == review.id) (resaveReview review.revisionNumber stored)
          return (some review.id, s')
        else .ok (none, s)
      | none => do
        let nextRevision := Table.maxOrZero
          (fun r => r.gradingJobItemId == itemId && r.ownerId == teacherId)
          (·.revisionNumber) s.reviews + 1
        let stored ← storedPayload p
        let s' ← s.insertReview (newReview teacherId attempt nextRevision stored freshId now)
        return (some freshId.value, s')

/-! ## Confirmation -/

/-- A referenced review at exactly the referenced revision. -/
def referencedReview (s : Store) (teacherId : Uuid) (ref : Uuid × Nat) : Option TeacherReview :=
  s.reviews.find? fun r => r.id == ref.1 && r.revisionNumber == ref.2 && r.ownerId == teacherId

/-- The rows the confirmation loop joins to a review. -/
def confirmationRow (s : Store) (review : TeacherReview) :
    Option (GradingJob × GradingJobItem × Submission × RubricVersion × GradingAttempt) := do
  let item ← s.items.find? fun i => i.id == review.gradingJobItemId && i.ownerId == review.ownerId
  let job ← s.jobs.find? fun j => j.id == item.gradingJobId && j.ownerId == item.ownerId
  let submission ← s.submissions.find? fun x => x.id == item.submissionId &&
    x.assignmentId == item.assignmentId && x.ownerId == item.ownerId
  let rubric ← s.rubrics.find? fun r => r.id == job.rubricVersionId &&
    r.assignmentId == job.assignmentId && r.ownerId == job.ownerId
  let attempt ← s.attempts.find? fun a => a.id == review.gradingAttemptId &&
    a.gradingJobItemId == item.id && a.ownerId == item.ownerId
  return (job, item, submission, rubric, attempt)

/-- The body of the confirmation loop. -/
def checkConfirmation (s : Store) (teacherId : Uuid) (review : TeacherReview) :
    Except TxError Unit :=
  match s.confirmationRow review with
  | none => .ok ()
  | some (_, item, submission, rubric, attempt) =>
    match rubric.structuredRubric with
    | none => .error (.database "40001" "review confirmation state changed")
    | some structured => do
      require (review.status == .draft && item.status == .needsReview &&
          submission.status == .ready && submission.extractedObjectKey.isSome &&
          (rubric.status == .confirmed || rubric.status == .superseded) &&
          attempt.status == .succeeded && attempt.scoringRound == item.dispatchVersion &&
          review.maxScore == rubric.totalScore &&
          (s.latestSucceeded item.id teacherId item.dispatchVersion).all
            (·.id == review.gradingAttemptId))
        (.database "40001" "review confirmation state changed")
      validateTeacherReviewPayload review.payload structured attempt.toAttemptResult

def confirmReview (now : Time) (r : TeacherReview) : TeacherReview :=
  { r with status := .confirmed, confirmedAt := some now }

/-- The item row of a confirmation. -/
def completeItem (now : Time) (i : GradingJobItem) : GradingJobItem :=
  { i with status := .completed, finishedAt := some now, errorCode := none }

/-- The job row of a confirmation. -/
def reviewedJob (allCompleted : Bool) (now : Time) (j : GradingJob) : GradingJob :=
  if allCompleted then
    { j with status := .completed, finishedAt := some now, stateVersion := j.stateVersion + 1 }
  else
    { j with status := .needsReview, finishedAt := none, stateVersion := j.stateVersion + 1 }

/-- The job loop at the end of a confirmation. -/
def closeReviewedJobs (teacherId : Uuid) (now : Time) : List Uuid → Store → Except TxError Store
  | [], s => .ok s
  | jobId :: rest, s => do
    let allCompleted := !s.items.any fun i => i.gradingJobId == jobId && i.ownerId == teacherId &&
      i.status != .completed
    let s' ← s.updateJobs now true (fun j => j.id == jobId && j.ownerId == teacherId)
      (reviewedJob allCompleted now)
    closeReviewedJobs teacherId now rest s'

/-- The items of the referenced reviews. -/
def reviewedItemIds (s : Store) (refs : List (Uuid × Nat)) : List Uuid :=
  (s.reviews.filter fun r => refs.any (·.1 == r.id)).map (·.gradingJobItemId)

/-- The jobs of the referenced reviews, without repetition, in id order. -/
def reviewedJobIds (s : Store) (teacherId : Uuid) (refs : List (Uuid × Nat)) : List Uuid :=
  let rows := s.reviews.filter fun r => r.ownerId == teacherId && refs.any (·.1 == r.id)
  let jobIds := rows.filterMap fun r =>
    (s.items.find? fun i => i.id == r.gradingJobItemId && i.ownerId == r.ownerId).map (·.gradingJobId)
  jobIds.dedup.insertionSort (· ≤ ·)

def confirmationOrder (s : Store) (x y : TeacherReview) : Prop :=
  match s.confirmationRow x, s.confirmationRow y with
  | some (jx, ix, _), some (jy, iy, _) =>
    jx.id < jy.id ∨ (jx.id = jy.id ∧ (ix.id < iy.id ∨ (ix.id = iy.id ∧ x.id ≤ y.id)))
  | _, _ => True

instance (s : Store) : DecidableRel s.confirmationOrder := fun x y => by
  unfold confirmationOrder
  split <;> infer_instance

def confirmTeacherReviews (s : Store) (teacher : Option Uuid) (refs : List (Uuid × Nat))
    (now : Time) : Except TxError (Option (List Uuid) × Store) :=
  match teacher with
  | none => .ok (none, s)
  | some teacherId => do
    require (lengthBetween 1 100 refs.length &&
        refs.all (fun ref => isRfcUuid ref.1 && decide (1 ≤ ref.2)) &&
        decide (refs.map (·.1)).Nodup)
      (checkViolation "review confirmation request is invalid")
    let found := refs.filterMap (s.referencedReview teacherId)
    if found.length ≠ refs.length then return (none, s)
    let confirmedCount := found.countP (·.status == .confirmed)
    if confirmedCount = refs.length then return (some (refs.map (·.1)), s)
    require (confirmedCount == 0)
      (.database "40001" "review confirmation conflicts with confirmed data")
    (found.insertionSort s.confirmationOrder).forM (s.checkConfirmation teacherId)
    let s₁ ← s.updateReviews (fun r => r.ownerId == teacherId && refs.any (·.1 == r.id))
      (confirmReview now)
    let itemIds := s₁.reviewedItemIds refs
    let s₂ ← s₁.updateItems (fun i => i.ownerId == teacherId && itemIds.contains i.id)
      (completeItem now)
    let s₃ ← closeReviewedJobs teacherId now (s₂.reviewedJobIds teacherId refs) s₂
    return (some (refs.map (·.1)), s₃)

end Store

end PaperGrading
