import PaperGrading.Base.Table
import PaperGrading.Store.Rows

/-!
# Writing the tables: constraints and triggers

Every `INSERT` and `UPDATE` of the program goes through the functions of this file.
A row is written only if the row triggers of its table accept it, its check
constraints hold and the unique indexes and foreign keys of the table are kept.
A check whose value is SQL `NULL` counts as met; a unique index is a condition on
the table a statement leaves behind.  Counters are natural numbers:
the 32-bit columns `dispatch_version`, `attempt_number`, … never wrap.

`paper_grading_preserve_active_job_status` rewrites the new job row, so it is part
of the row an `UPDATE` writes, and only if the statement sets `status`.
-/

namespace PaperGrading

/-! ## Column types -/

/-- `numeric(precision, scale)`: rounded half away from zero, then range checked. -/
def numericColumn (precision scale : Nat) (x : ℚ) : Except TxError ℚ :=
  let scaled := x * 10 ^ scale
  let rounded : ℚ := if 0 ≤ scaled then ((scaled + 1 / 2).floor : ℚ) else -((1 / 2 - scaled).floor : ℚ)
  let value := rounded / 10 ^ scale
  if |value| < 10 ^ (precision - scale) then .ok value
  else .error (.database "22003" "numeric field overflow")

/-- `bigint`. -/
def bigintOk (n : Nat) : Bool := decide (n < 2 ^ 63)

/-- `text` and `jsonb` columns refuse the NUL character. -/
def textOk (s : String) : Bool := !hasNul s

def textError : TxError := .database "22021" "invalid byte sequence for encoding \"UTF8\": 0x00"

/-! ## Items -/

namespace GradingJobItem

/-- `grading_job_items_state_check`. -/
def stateCheck (i : GradingJobItem) : Bool :=
  match i.status with
  | .queued =>
    i.finishedAt.isNone && i.leaseToken.isNone && i.leaseExpiresAt.isNone && i.errorCode.isNone
  | .running =>
    i.startedAt.isSome && i.finishedAt.isNone && i.leaseToken.isSome && i.leaseExpiresAt.isSome &&
      i.errorCode.isNone
  | .needsReview =>
    i.finishedAt.isSome && i.leaseToken.isNone && i.leaseExpiresAt.isNone &&
      i.errorCode.all (!btrimEmpty ·)
  | .completed =>
    i.finishedAt.isSome && i.leaseToken.isNone && i.leaseExpiresAt.isNone && i.errorCode.isNone
  | .failed =>
    i.finishedAt.isSome && i.leaseToken.isNone && i.leaseExpiresAt.isNone &&
      i.errorCode.all (!btrimEmpty ·)
  | .cancelled => i.finishedAt.isSome && i.leaseToken.isNone && i.leaseExpiresAt.isNone

/-- The moves `paper_grading_protect_job_item` allows. -/
def allowedMove : ItemStatus → ItemStatus → Bool
  | .queued, .running => true
  | .queued, .cancelled => true
  | .running, .running => false
  | .running, _ => true
  | .needsReview, .completed => true
  | .needsReview, .queued => true
  | .failed, .queued => true
  | _, _ => false

end GradingJobItem

/-- `paper_grading_protect_job_item`. -/
def protectJobItem (old new : GradingJobItem) : Except TxError Unit := do
  require (decide (new.toItemIdentity = old.toItemIdentity))
    (objectState "grading job item identity is immutable")
  require (GradingJobItem.allowedMove old.status new.status)
    (objectState "invalid grading job item status transition")
  if (old.status = .needsReview ∨ old.status = .failed) ∧ new.status = .queued then
    require (decide (new.dispatchVersion = old.dispatchVersion + 1 ∧ new.retryCount = 0))
      (objectState "manual retry must advance dispatch version")
  else if old.status = .running ∧ new.status = .queued then
    require (decide (new.dispatchVersion = old.dispatchVersion ∧
        new.retryCount = old.retryCount + 1))
      (objectState "automatic retry must advance retry count only")
  else
    require (decide (new.dispatchVersion = old.dispatchVersion ∧ new.retryCount = old.retryCount))
      (objectState "delivery version changed outside retry transition")

def itemUpdateCheck (old new : GradingJobItem) : Except TxError Unit := do
  protectJobItem old new
  require (new.errorCode.all textOk) textError
  require new.stateCheck (checkViolation "grading_job_items_state_check")

namespace Store

def updateItems (s : Store) (p : GradingJobItem → Bool) (set : GradingJobItem → GradingJobItem) :
    Except TxError Store := do
  let items ← Table.updateWhere p set itemUpdateCheck s.items
  return { s with items }

/-- `paper_grading_require_ready_job_item` and the check constraints. -/
def itemInsertCheck (s : Store) (i : GradingJobItem) :
    Except TxError Unit := do
  match s.jobs.find? (fun j => j.id == i.gradingJobId && j.assignmentId == i.assignmentId &&
      j.ownerId == i.ownerId) with
  | none => .error (checkViolation "grading job item requires a queued job")
  | some job =>
    require (job.status == .queued) (checkViolation "grading job item requires a queued job")
    require (s.submissions.any fun x => x.id == i.submissionId &&
        x.assignmentId == i.assignmentId && x.ownerId == i.ownerId && x.status == .ready)
      (checkViolation "grading job item requires a ready submission")
    require (decide (i.position < job.expectedItemCount))
      (checkViolation "grading job item position exceeds expected count")
    require (i.stateCheck && decide (0 < i.dispatchVersion))
      (checkViolation "grading_job_items_state_check")

/-- Two rows that some unique index of `grading_job_items` keeps apart. -/
def itemConflict (x y : GradingJobItem) : Bool :=
  x.id == y.id || (x.gradingJobId == y.gradingJobId &&
    (x.submissionId == y.submissionId || x.position == y.position))

def itemsUnique (rows : List GradingJobItem) : Bool :=
  decide (rows.Pairwise fun x y => itemConflict x y = false)

def insertItem (s : Store) (i : GradingJobItem) : Except TxError Store := do
  let items ← Table.insertRow s.itemInsertCheck s.items i
  require (itemsUnique items) (uniqueViolation "grading_job_items")
  return { s with items }

end Store

namespace Store

/-- The item statuses of a job. -/
def itemStatuses (s : Store) (jobId : Uuid) : List ItemStatus :=
  (s.items.filter (·.gradingJobId == jobId)).map (·.status)

end Store

/-! ## Jobs -/

namespace GradingJob

/-- `grading_jobs_timestamps_check`. -/
def timestampsCheck (j : GradingJob) : Bool :=
  match j.status with
  | .queued => j.startedAt.isNone && j.finishedAt.isNone
  | .running | .paused | .needsReview => j.startedAt.isSome && j.finishedAt.isNone
  | .completed | .failed | .cancelled => j.finishedAt.isSome

/-- The moves `paper_grading_protect_job_snapshot` allows. -/
def allowedMove (old new : JobStatus) : Bool :=
  old == new || match old, new with
    | .queued, .running | .queued, .paused | .queued, .cancelled => true
    | .running, .paused | .running, .needsReview | .running, .completed | .running, .failed
    | .running, .cancelled => true
    | .paused, .running | .paused, .needsReview | .paused, .completed | .paused, .failed
    | .paused, .cancelled => true
    | .needsReview, .completed | .needsReview, .failed | .needsReview, .cancelled => true
    | .needsReview, .running | .completed, .running | .failed, .running => true
    | _, _ => false

end GradingJob

/-- An item that keeps its batch dispatchable. -/
def GradingJobItem.isActive (i : GradingJobItem) : Bool :=
  i.status == .queued || i.status == .running

/-- `paper_grading_preserve_active_job_status`: a batch with queued or running items is not
closed for review. -/
def preserveActiveJobStatus (items : List GradingJobItem) (now : Time) (old new : GradingJob) :
    GradingJob :=
  if new.status = .needsReview ∧
      items.any (fun i => i.gradingJobId == new.id && i.ownerId == new.ownerId && i.isActive) then
    if old.status = .paused then { new with status := .paused, finishedAt := none }
    else { new with status := .running, startedAt := new.startedAt.or (some now), finishedAt := none }
  else new

/-- `paper_grading_protect_job_snapshot`. -/
def protectJobSnapshot (old new : GradingJob) : Except TxError Unit := do
  require (decide (new.toJobSnapshot = old.toJobSnapshot))
    (objectState "grading job input snapshot is immutable")
  require (GradingJob.allowedMove old.status new.status)
    (objectState "invalid grading job status transition")

def jobUpdateCheck (old new : GradingJob) : Except TxError Unit := do
  protectJobSnapshot old new
  require new.timestampsCheck (checkViolation "grading_jobs_timestamps_check")

namespace Store

/-- `UPDATE grading_jobs`; `setsStatus` tells whether the statement names the status column. -/
def updateJobs (s : Store) (now : Time) (setsStatus : Bool) (p : GradingJob → Bool)
    (set : GradingJob → GradingJob) : Except TxError Store := do
  let row := fun old =>
    if setsStatus then preserveActiveJobStatus s.items now old (set old) else set old
  let jobs ← Table.updateWhere p row jobUpdateCheck s.jobs
  return { s with jobs }

/-- `grading_jobs_require_confirmed_rubric`, the check constraints and foreign keys. -/
def jobInsertCheck (s : Store) (j : GradingJob) : Except TxError Unit := do
  require (s.rubrics.any (fun r => r.id == j.rubricVersionId && r.assignmentId == j.assignmentId &&
      r.ownerId == j.ownerId && r.status == .confirmed &&
      s.assignments.any fun a => a.id == r.assignmentId && a.ownerId == r.ownerId &&
        a.status == .ready))
    (checkViolation "grading job requires a confirmed rubric and ready assignment")
  require (textOk j.idempotencyKey) textError
  require (decide (0 < j.providerConfigVersion) && !btrimEmpty j.model &&
      !btrimEmpty j.promptVersion && !btrimEmpty j.resultSchemaVersion &&
      !btrimEmpty j.idempotencyKey)
    (checkViolation "grading_jobs_snapshot_check")
  require (lengthBetween 1 100 j.expectedItemCount && decide (0 < j.stateVersion))
    (checkViolation "grading_jobs_progress_check")
  require (!btrimEmpty j.assignmentTitleSnapshot && !btrimEmpty j.assignmentInstructionsSnapshot)
    (checkViolation "grading_jobs_assignment_snapshot_check")
  require j.timestampsCheck (checkViolation "grading_jobs_timestamps_check")
  require (s.providers.any fun p => p.id == j.providerConfigId)
    (foreignKeyViolation "grading_jobs_provider_config_id_fkey")

/-- Two rows that some unique index of `grading_jobs` keeps apart. -/
def jobConflict (x y : GradingJob) : Bool :=
  x.id == y.id || (x.ownerId == y.ownerId && x.idempotencyKey == y.idempotencyKey)

def jobsUnique (rows : List GradingJob) : Bool :=
  decide (rows.Pairwise fun x y => jobConflict x y = false)

def insertJob (s : Store) (j : GradingJob) : Except TxError Store := do
  let jobs ← Table.insertRow s.jobInsertCheck s.jobs j
  require (jobsUnique jobs) (uniqueViolation "grading_jobs")
  return { s with jobs }

end Store

/-! ## Attempts -/

namespace GradingAttempt

/-- `grading_attempts_score_range_check`. -/
def scoreRangeCheck (a : GradingAttempt) : Bool :=
  decide (0 < a.maxScore) && a.totalScore.all fun t => decide (0 ≤ t) && decide (t ≤ a.maxScore)

/-- `grading_attempts_token_usage_check`; a comparison with a null counts as met. -/
def tokenUsageCheck (a : GradingAttempt) : Bool :=
  (match a.cachedInputTokens, a.cacheWriteInputTokens, a.inputTokens with
    | some c, some w, some i => decide (c + w ≤ i)
    | _, _, _ => true) &&
  (match a.reasoningTokens, a.outputTokens with
    | some r, some o => decide (r ≤ o)
    | _, _ => true)

/-- `grading_attempts_cost_check`. -/
def costCheck (a : GradingAttempt) : Bool :=
  a.estimatedCostAmount.all (fun amount => decide (0 ≤ amount)) && a.costCurrency.all isCurrency &&
    a.tariffVersion.all (!btrimEmpty ·)

/-- `grading_attempts_raw_response_check`. -/
def rawResponseCheck (a : GradingAttempt) : Bool :=
  a.rawResponseObjectKey.isNone == a.rawResponseSha256.isNone

/-- `grading_attempts_result_check`. -/
def resultCheck (a : GradingAttempt) : Bool :=
  match a.status with
  | .running => a.finishedAt.isNone
  | .succeeded | .needsReview =>
    a.finishedAt.isSome && a.providerCallState == .responseReceived &&
      (match a.totalScore, a.subtotal, a.deductionTotal with
        | some t, some sub, some ded => decide (t = max 0 (sub - ded))
        | _, _, _ => false) &&
      a.criteriaResults.isSome && a.deductionResults.isSome && a.overallFeedback.isSome &&
      a.rawResponseObjectKey.isSome && a.providerRequestId.isSome && a.reportedModel.isSome &&
      a.inputTokens.isSome
  | .failed => a.finishedAt.isSome && a.errorCode.isSome

def evidenceTexts (e : List EvidenceQuote) : List String :=
  e.flatMap fun q => [q.blockId, q.quote]

/-- Every text the row stores, in `text` or `jsonb` columns. -/
def texts (a : GradingAttempt) : List String :=
  (a.criteriaResults.getD []).flatMap (fun d =>
      d.dimensionId :: d.reason :: (evidenceTexts d.evidence ++ d.revisionSuggestions)) ++
    (a.deductionResults.getD []).flatMap (fun d =>
      d.deductionId :: d.reason :: evidenceTexts d.evidence) ++
    a.overallFeedback.toList ++ a.providerRequestId.toList ++ a.reportedModel.toList ++
    a.costCurrency.toList ++ a.tariffVersion.toList ++ a.rawResponseObjectKey.toList ++
    a.errorCode.toList ++
    (match a.errorDetails with
      | some (.issues is) => is.flatMap fun i => [i.code, i.path]
      | some (.reason text) => [text]
      | _ => [])

/-- The `bigint` columns. -/
def tokenCounts (a : GradingAttempt) : List Nat :=
  a.inputTokens.toList ++ a.cachedInputTokens.toList ++ a.cacheWriteInputTokens.toList ++
    a.outputTokens.toList ++ a.reasoningTokens.toList ++ a.totalTokens.toList

/-- Column types and check constraints of `grading_attempts`; the numeric columns are range
checked where their values are written. -/
def rowCheck (a : GradingAttempt) : Except TxError Unit := do
  require (a.tokenCounts.all bigintOk) (.database "22003" "bigint out of range")
  require (a.texts.all textOk) textError
  require a.scoreRangeCheck (checkViolation "grading_attempts_score_range_check")
  require a.tokenUsageCheck (checkViolation "grading_attempts_token_usage_check")
  require a.costCheck (checkViolation "grading_attempts_cost_check")
  require a.rawResponseCheck (checkViolation "grading_attempts_raw_response_check")
  require a.resultCheck (checkViolation "grading_attempts_result_check")

end GradingAttempt

namespace Store

/-- The rubric total that `paper_grading_validate_attempt_score` looks up. -/
def rubricTotalOf (s : Store) (itemId ownerId : Uuid) : Option ℚ := do
  let item ← s.items.find? fun i => i.id == itemId && i.ownerId == ownerId
  let job ← s.jobs.find? fun j => j.id == item.gradingJobId &&
    j.assignmentId == item.assignmentId && j.ownerId == item.ownerId
  let rubric ← s.rubrics.find? fun r => r.id == job.rubricVersionId &&
    r.assignmentId == job.assignmentId && r.ownerId == job.ownerId
  return rubric.totalScore

/-- `paper_grading_validate_attempt_score`. -/
def validateAttemptScore (s : Store) (a : GradingAttempt) : Except TxError Unit :=
  require (s.rubricTotalOf a.gradingJobItemId a.ownerId == some a.maxScore)
    (checkViolation "attempt max_score must equal rubric total_score")

end Store

/-- `paper_grading_protect_attempt_history`. -/
def protectAttemptHistory (old new : GradingAttempt) : Except TxError Unit := do
  require (old.status == .running && new.status != .running)
    (objectState "grading attempt can only leave running once")
  require (decide (new.toAttemptIdentity = old.toAttemptIdentity))
    (objectState "grading attempt identity and input are immutable")

namespace Store

def attemptUpdateCheck (s : Store) (old new : GradingAttempt) : Except TxError Unit := do
  protectAttemptHistory old new
  s.validateAttemptScore new
  new.rowCheck

/-- Two rows that some unique index of `grading_attempts` keeps apart. -/
def attemptConflict (x y : GradingAttempt) : Bool :=
  x.id == y.id || (x.ownerId == y.ownerId && x.idempotencyKey == y.idempotencyKey) ||
    (x.gradingJobItemId == y.gradingJobItemId &&
      (x.attemptNumber == y.attemptNumber ||
        (x.scoringRound == y.scoringRound && x.callSequence == y.callSequence) ||
        (x.status == .running && y.status == .running))) ||
    (x.rawResponseObjectKey.isSome && x.rawResponseObjectKey == y.rawResponseObjectKey)

def attemptsUnique (rows : List GradingAttempt) : Bool :=
  decide (rows.Pairwise fun x y => attemptConflict x y = false)

def updateAttempts (s : Store) (p : GradingAttempt → Bool) (set : GradingAttempt → GradingAttempt) :
    Except TxError Store := do
  let attempts ← Table.updateWhere p set s.attemptUpdateCheck s.attempts
  require (attemptsUnique attempts) (uniqueViolation "grading_attempts")
  return { s with attempts }

/-- Insert triggers, constraints and the parent's foreign key. -/
def attemptInsertCheck (s : Store) (a : GradingAttempt) :
    Except TxError Unit := do
  require (a.status == .running) (objectState "grading attempt must start in running status")
  s.validateAttemptScore a
  a.rowCheck
  require (decide (0 < a.attemptNumber) && decide (0 < a.scoringRound) && decide (0 < a.callSequence))
    (checkViolation "grading_attempts_call_position_check")
  require (a.parentAttemptId.all fun parent => s.attempts.any fun x =>
      x.id == parent && x.gradingJobItemId == a.gradingJobItemId && x.ownerId == a.ownerId)
    (foreignKeyViolation "grading_attempts_parent_item_owner_fkey")

def insertAttempt (s : Store) (a : GradingAttempt) : Except TxError Store := do
  let attempts ← Table.insertRow s.attemptInsertCheck s.attempts a
  require (attemptsUnique attempts) (uniqueViolation "grading_attempts")
  return { s with attempts }

end Store

/-! ## Reviews -/

namespace ReviewPayload

def texts (p : ReviewPayload) : List String :=
  p.criteria.flatMap (fun c => c.dimensionId :: c.reason :: c.revisionSuggestions) ++
    p.deductions.flatMap (fun d => [d.deductionId, d.reason]) ++
    p.evidence.flatMap (fun e => [e.targetId, e.blockId, e.quote]) ++
    p.feedback :: p.changeReason.toList

end ReviewPayload

namespace TeacherReview

/-- `teacher_reviews_score_range_check`, `…_totals_check` and `…_confirmation_check`. -/
def rowCheck (r : TeacherReview) : Except TxError Unit := do
  require (r.payload.texts.all textOk) textError
  require (decide (0 < r.maxScore) && decide (0 ≤ r.payload.finalScore) &&
      decide (r.payload.finalScore ≤ r.maxScore))
    (checkViolation "teacher_reviews_score_range_check")
  require (decide (0 ≤ r.payload.subtotal) && decide (0 ≤ r.payload.deductionTotal) &&
      decide (r.payload.finalScore = max 0 (r.payload.subtotal - r.payload.deductionTotal)))
    (checkViolation "teacher_reviews_totals_check")
  require ((r.status == .draft) == r.confirmedAt.isNone)
    (checkViolation "teacher_reviews_confirmation_check")

end TeacherReview

/-- `paper_grading_protect_review_history` as of the review workbench. -/
def protectReviewHistory (old new : TeacherReview) : Except TxError Unit := do
  require (old.status != .confirmed) (objectState "confirmed teacher review is immutable")
  require (new.status != .draft || new.revisionNumber == old.revisionNumber + 1)
    (objectState "draft review revision must advance exactly once")
  require (new.status != .confirmed || new.revisionNumber == old.revisionNumber)
    (objectState "confirmed review must keep the saved revision")
  require (decide (new.toReviewIdentity = old.toReviewIdentity))
    (objectState "teacher review identity and score ceiling are immutable")

namespace Store

/-- `paper_grading_validate_review_score`. -/
def validateReviewScore (s : Store) (r : TeacherReview) : Except TxError Unit :=
  require (s.attempts.any fun a => a.id == r.gradingAttemptId &&
      a.gradingJobItemId == r.gradingJobItemId && a.ownerId == r.ownerId &&
      a.maxScore == r.maxScore)
    (checkViolation "review max_score must equal attempt max_score")

def reviewUpdateCheck (s : Store) (old new : TeacherReview) : Except TxError Unit := do
  protectReviewHistory old new
  s.validateReviewScore new
  new.rowCheck

/-- Two rows that some unique index of `teacher_reviews` keeps apart: the id, the revision of an
item, the attempt, and the confirmed review of an item. -/
def reviewConflict (x y : TeacherReview) : Bool :=
  x.id == y.id || x.gradingAttemptId == y.gradingAttemptId ||
    (x.gradingJobItemId == y.gradingJobItemId &&
      (x.revisionNumber == y.revisionNumber || (x.status == .confirmed && y.status == .confirmed)))

def reviewsUnique (rows : List TeacherReview) : Bool :=
  decide (rows.Pairwise fun x y => reviewConflict x y = false)

def updateReviews (s : Store) (p : TeacherReview → Bool) (set : TeacherReview → TeacherReview) :
    Except TxError Store := do
  let reviews ← Table.updateWhere p set s.reviewUpdateCheck s.reviews
  require (reviewsUnique reviews) (uniqueViolation "teacher_reviews")
  return { s with reviews }

def reviewInsertCheck (s : Store) (r : TeacherReview) : Except TxError Unit := do
  s.validateReviewScore r
  r.rowCheck
  require (decide (0 < r.revisionNumber)) (checkViolation "teacher_reviews_revision_number_check")

def insertReview (s : Store) (r : TeacherReview) : Except TxError Store := do
  let reviews ← Table.insertRow s.reviewInsertCheck s.reviews r
  require (reviewsUnique reviews) (uniqueViolation "teacher_reviews")
  return { s with reviews }

end Store

end PaperGrading
