import PaperGrading.Store.Tables

/-!
# The worker transactions

`prepare_item`, `claim_attempt`, `finish_success`, `finish_failure`, `_reconcile_job`
and `expire_stale_attempts` of `workers/repository.py`.  Each function is one
committed transaction: it returns the store it leaves behind, or the error that
rolls it back.  All of them lock the job row first, so they run one at a time per
job; what can lie between two of them is another transaction.
-/

namespace PaperGrading

/-- The two clocks a worker transaction reads: `now()` of the database and
`datetime.now(UTC)` of the worker. -/
structure Clock where
  database : Time
  worker : Time
  deriving DecidableEq

/-! ## Preparation -/

/-- What `prepare_item` derives from the attempts of the item. -/
structure AttemptLineage where
  attemptKind : AttemptKind
  parentAttemptId : Option Uuid
  previousResponseObjectKey : Option String
  previousErrorDetails : Option ErrorDetails
  deriving DecidableEq

/-- The trusted input of one scoring call. -/
structure GradingItemPreparation extends AttemptLineage where
  ownerId : Uuid
  jobId : Uuid
  itemId : Uuid
  dispatchVersion : Nat
  submissionId : Uuid
  extractedObjectKey : String
  assignmentId : Uuid
  assignmentTitle : String
  assignmentInstructions : String
  rubricVersionId : Uuid
  rubricVersion : Nat
  rubric : StructuredRubric
  providerConfigId : Uuid
  providerConfigVersion : Nat
  encryptedApiKey : Bytes
  apiKeyNonce : Bytes
  model : String
  providerSnapshot : GradingProviderSnapshot
  promptVersion : String
  promptHash : Hash
  resultSchemaVersion : String
  resultSchema : String
  resultSchemaHash : Hash
  rubricHash : Hash
  deriving DecidableEq

def correctionRequired : String := "grade_output_correction_required"

namespace Store

/-- The newest attempt of an item. -/
def lastAttempt (s : Store) (itemId : Uuid) : Option GradingAttempt :=
  Table.latest (fun a => a.gradingJobItemId == itemId) (·.attemptNumber) s.attempts

/-- The newest attempt of the round that asked for a correction. -/
def correctionSource (s : Store) (itemId : Uuid) (round : Nat) : Option GradingAttempt :=
  Table.latest (fun a => a.gradingJobItemId == itemId && a.scoringRound == round &&
    a.errorCode == some correctionRequired) (·.attemptNumber) s.attempts

/-- Kind, parent and correction input of the next attempt of an item. -/
def attemptLineage (s : Store) (itemId : Uuid) (dispatchVersion : Nat) : AttemptLineage :=
  let last := s.lastAttempt itemId
  match s.correctionSource itemId dispatchVersion with
  | some source =>
    { attemptKind := if last.any (·.id == source.id) then .correction else .automaticRetry
      parentAttemptId := some ((last.map (·.id)).getD source.id)
      previousResponseObjectKey := source.rawResponseObjectKey
      previousErrorDetails := source.errorDetails }
  | none =>
    if 1 < dispatchVersion ∧ last.all (decide <| ·.scoringRound < dispatchVersion) then
      ⟨.manualRetry, last.map (·.id), none, none⟩
    else match last with
      | some a => ⟨.automaticRetry, some a.id, none, none⟩
      | none => ⟨.initial, none, none, none⟩

/-- The row of `prepare_item`'s five-table join. -/
def preparationRow (s : Store) (itemId : Uuid) (dispatchVersion : Nat) (now : Time) :
    Option (GradingJobItem × GradingJob × Submission × RubricVersion × ProviderConfig) := do
  let item ← s.items.find? fun i => i.id == itemId && i.dispatchVersion == dispatchVersion &&
    i.status == .queued && decide (i.availableAt ≤ now)
  let job ← s.jobs.find? fun j => j.id == item.gradingJobId && j.ownerId == item.ownerId &&
    (j.status == .queued || j.status == .running)
  let submission ← s.submissions.find? fun x => x.id == item.submissionId &&
    x.ownerId == item.ownerId
  let rubric ← s.rubrics.find? fun r => r.id == job.rubricVersionId && r.ownerId == job.ownerId
  let provider ← s.providers.find? fun p => p.id == job.providerConfigId
  return (item, job, submission, rubric, provider)

def immutableInputsInvalid : TxError :=
  .gradingJobConfigurationError "评分任务的不可变输入已经失效" "grading_job_configuration_invalid"

def prepareItem (env : Runtime) (s : Store) (itemId : Uuid) (dispatchVersion : Nat) (now : Time) :
    Except TxError (Option GradingItemPreparation) :=
  match s.preparationRow itemId dispatchVersion now with
  | none => .ok none
  | some (item, job, submission, rubric, provider) =>
    match submission.extractedObjectKey, rubric.structuredRubric, provider.encryptedApiKey,
        provider.apiKeyNonce with
    | some extractedObjectKey, some structured, some encryptedApiKey, some apiKeyNonce => do
      require (submission.status == .ready && rubric.status == .confirmed &&
        provider.configVersion == job.providerConfigVersion) immutableInputsInvalid
      require (job.modelParameters.snapshotHash env == job.modelParametersHash)
        (.gradingJobConfigurationError "供应商能力快照哈希不一致" "grading_job_configuration_invalid")
      require (structured.accepts env) (.validationError "StructuredRubric")
      return some
        { s.attemptLineage item.id dispatchVersion with
          ownerId := item.ownerId
          jobId := job.id
          itemId := item.id
          dispatchVersion := item.dispatchVersion
          submissionId := submission.id
          extractedObjectKey
          assignmentId := job.assignmentId
          assignmentTitle := job.assignmentTitleSnapshot
          assignmentInstructions := job.assignmentInstructionsSnapshot
          rubricVersionId := rubric.id
          rubricVersion := rubric.version
          rubric := structured
          providerConfigId := provider.id
          providerConfigVersion := provider.configVersion
          encryptedApiKey
          apiKeyNonce
          model := job.model
          providerSnapshot := job.modelParameters
          promptVersion := job.promptVersion
          promptHash := job.promptHash
          resultSchemaVersion := job.resultSchemaVersion
          resultSchema := job.resultSchema
          resultSchemaHash := job.resultSchemaHash
          rubricHash := job.rubricHash }
    | _, _, _, _ => .error immutableInputsInvalid

end Store

/-! ## Claim -/

/-- The voucher of one provider call. -/
structure GradingAttemptClaim where
  attemptId : Uuid
  attemptNumber : Nat
  scoringRound : Nat
  callSequence : Nat
  leaseToken : Uuid
  requestHash : Hash
  deriving DecidableEq

/-- `timedelta(seconds=float(timeout_seconds) + 30)` in microseconds. -/
def leaseDuration (timeoutSeconds : Decimal) : Time :=
  (timeoutSeconds.toRat * 1000000).floor.toNat + 30000000

def attemptIdempotencyKey (itemId : Uuid) (dispatchVersion callSequence : Nat) (requestHash : Hash) :
    String :=
  uuidText itemId ++ ":" ++ toString dispatchVersion ++ ":" ++ toString callSequence ++ ":" ++
    hashHex requestHash

namespace Store

/-- Running attempts over all jobs of a provider. -/
def runningCount (s : Store) (providerConfigId : Uuid) : Nat :=
  s.attempts.countP fun a => a.status == .running && s.items.any fun i =>
    i.id == a.gradingJobItemId && s.jobs.any fun j =>
      j.id == i.gradingJobId && j.providerConfigId == providerConfigId

/-- The job and item rows `claim_attempt` locks. -/
def claimableRows (s : Store) (prepared : GradingItemPreparation) (now : Time) :
    Option (GradingJob × GradingJobItem) := do
  let pointer ← s.items.find? fun i => i.id == prepared.itemId && i.ownerId == prepared.ownerId
  let job ← s.jobs.find? fun j => j.id == pointer.gradingJobId && j.ownerId == prepared.ownerId &&
    (j.status == .queued || j.status == .running)
  let item ← s.items.find? fun i => i.id == prepared.itemId && i.ownerId == prepared.ownerId &&
    i.dispatchVersion == prepared.dispatchVersion && i.status == .queued &&
    decide (i.availableAt ≤ now)
  return (job, item)

/-- The attempt row `claim_attempt` inserts. -/
def claimedAttempt (s : Store) (prepared : GradingItemPreparation) (item : GradingJobItem)
    (requestHash : Hash) (now : Time) (attemptId : Uuid) : GradingAttempt :=
  let attemptNumber :=
    Table.maxOrZero (fun a => a.gradingJobItemId == item.id) (·.attemptNumber) s.attempts + 1
  let callSequence := Table.maxOrZero (fun a => a.gradingJobItemId == item.id &&
    a.scoringRound == item.dispatchVersion) (·.callSequence) s.attempts + 1
  { id := attemptId
    ownerId := item.ownerId
    gradingJobItemId := item.id
    attemptNumber
    parentAttemptId := prepared.parentAttemptId
    scoringRound := item.dispatchVersion
    callSequence
    attemptKind := prepared.attemptKind
    providerCallStartedAt := now
    requestVersion := gradeRequestVersion
    requestHash
    idempotencyKey := attemptIdempotencyKey item.id item.dispatchVersion callSequence requestHash
    maxScore := prepared.rubric.totalScore.toRat
    createdAt := now
    status := .running
    providerCallState := .started
    subtotal := none, deductionTotal := none, totalScore := none
    criteriaResults := none, deductionResults := none, overallFeedback := none
    providerRequestId := none, reportedModel := none
    inputTokens := none, cachedInputTokens := none, cacheWriteInputTokens := none
    outputTokens := none, reasoningTokens := none, totalTokens := none
    estimatedCostAmount := none, costCurrency := none, tariffVersion := none
    rawResponseObjectKey := none, rawResponseSha256 := none
    errorCode := none, errorDetails := none, finishedAt := none }

/-- The item row of a claim. -/
def claimItem (now : Time) (leaseToken : Uuid) (timeoutSeconds : Decimal) (i : GradingJobItem) :
    GradingJobItem :=
  { i with
    status := .running
    startedAt := i.startedAt.or (some now)
    leaseToken := some leaseToken
    leaseExpiresAt := some (now + leaseDuration timeoutSeconds) }

/-- The job row of a claim. -/
def claimJob (now : Time) (j : GradingJob) : GradingJob :=
  if j.status = .queued then
    { j with status := .running, startedAt := j.startedAt.or (some now),
             stateVersion := j.stateVersion + 1 }
  else { j with stateVersion := j.stateVersion + 1 }

def claimAttempt (s : Store) (prepared : GradingItemPreparation) (requestHash : Hash)
    (clock : Clock) (attemptId leaseToken : Uuid) :
    Except TxError (Option GradingAttemptClaim × Store) :=
  if prepared.providerSnapshot.maxConcurrency ≤ s.runningCount prepared.providerConfigId then
    .ok (none, s)
  else match s.claimableRows prepared clock.database with
    | none => .ok (none, s)
    | some (job, item) => do
      let attempt := s.claimedAttempt prepared item requestHash clock.worker attemptId
      let s₁ ← s.insertAttempt attempt
      let s₂ ← s₁.updateItems (·.id == item.id)
        (claimItem clock.worker leaseToken prepared.providerSnapshot.timeoutSeconds)
      let s₃ ← s₂.updateJobs clock.database (job.status == .queued) (·.id == job.id)
        (claimJob clock.worker)
      return (some ⟨attempt.id, attempt.attemptNumber, attempt.scoringRound, attempt.callSequence,
        leaseToken, attempt.requestHash⟩, s₃)

end Store

/-! ## Reconciliation -/

/-- The job status `_reconcile_job` derives from the item statuses. -/
def reconciledStatus (current : JobStatus) (statuses : List ItemStatus) : JobStatus :=
  if current ≠ .cancelled ∧ .queued ∉ statuses ∧ .running ∉ statuses then
    if .needsReview ∈ statuses ∨ .completed ∈ statuses then .needsReview
    else if .failed ∈ statuses then .failed
    else .cancelled
  else current

namespace Store

/-- The job row `_reconcile_job` flushes. -/
def reconciledJob (statuses : List ItemStatus) (now : Time) (j : GradingJob) : GradingJob :=
  if j.status ≠ .cancelled ∧ .queued ∉ statuses ∧ .running ∉ statuses then
    { j with
      status := reconciledStatus j.status statuses
      finishedAt := if .needsReview ∈ statuses ∨ .completed ∈ statuses then none else some now
      stateVersion := j.stateVersion + 1 }
  else { j with stateVersion := j.stateVersion + 1 }

/-- `_reconcile_job`; the status column is part of the statement only if it changes. -/
def reconcileJob (s : Store) (job : GradingJob) (clock : Clock) : Except TxError Store := do
  let statuses := s.itemStatuses job.id
  require (statuses.length == job.expectedItemCount) (.runtimeError "评分批次论文数量与快照不一致")
  s.updateJobs clock.database (reconciledStatus job.status statuses != job.status)
    (·.id == job.id) (reconciledJob statuses clock.worker)

end Store

/-! ## Closing an attempt -/

/-- What a successful call writes back. -/
structure GradingAttemptCompletion where
  validatedResult : ValidatedGradeResult
  providerResult : ProviderGradeResult
  responseObjectKey : String
  responseObjectSha256 : Hash
  deriving DecidableEq

inductive FailureAction where
  | retry | needsReview | failed
  deriving DecidableEq

/-- What a failed call writes back, with the checks of its pydantic model. -/
structure GradingAttemptFailure where
  action : FailureAction
  retryDelaySeconds : Nat
  errorCode : String
  errorDetails : ErrorDetails
  providerCallState : ProviderCallState
  providerResult : Option ProviderGradeResult
  providerRequestId : Option String
  responseObjectKey : Option String
  responseObjectSha256 : Option Hash
  delayOk : retryDelaySeconds ≤ 3600
  codeOk : errorCode ≠ ""
  stateOk : providerCallState ≠ .started
  deriving DecidableEq

/-- The metadata, usage and cost columns of a provider result. -/
def usageColumns (r : ProviderGradeResult) : Except TxError AttemptUsage := do
  let amount ← match r.estimatedCost with
    | none => .ok none
    | some c => (numericColumn 18 9 c.amount.toRat).map some
  return {
    providerRequestId := some r.requestId
    reportedModel := some r.reportedModel
    inputTokens := some r.usage.inputTokens
    cachedInputTokens := some r.usage.cachedInputTokens
    cacheWriteInputTokens := some r.usage.cacheWriteInputTokens
    outputTokens := some r.usage.outputTokens
    reasoningTokens := some r.usage.reasoningTokens
    totalTokens := r.usage.totalTokens
    estimatedCostAmount := amount
    costCurrency := r.estimatedCost.map (·.currency)
    tariffVersion := r.estimatedCost.map (·.tariffVersion) }

/-- The result columns of a validated result. -/
def resultColumns (r : ValidatedGradeResult) : Except TxError AttemptResult := do
  let subtotal ← numericColumn 10 4 r.subtotal.toRat
  let deductionTotal ← numericColumn 10 4 r.deductionTotal.toRat
  let totalScore ← numericColumn 10 4 r.totalScore.toRat
  return {
    subtotal := some subtotal
    deductionTotal := some deductionTotal
    totalScore := some totalScore
    criteriaResults := some r.dimensions
    deductionResults := some r.deductions
    overallFeedback := some r.overallFeedback }

/-- The usage columns a failure writes: those of the provider result, else the request id
alone, else none. -/
def failureUsage (f : GradingAttemptFailure) (old : AttemptUsage) : Except TxError AttemptUsage :=
  match f.providerResult with
  | some r => usageColumns r
  | none => .ok { old with providerRequestId := f.providerRequestId.or old.providerRequestId }

namespace Store

def leaseLost : TxError := .runtimeError "评分 attempt 租约已失效"

/-- The rows both finish calls lock, after the check of the lease token. -/
def lockClaimed (s : Store) (claim : GradingAttemptClaim) :
    Except TxError (GradingJob × GradingJobItem × GradingAttempt) :=
  match s.attempts.find? (·.id == claim.attemptId) with
  | none => .error (.runtimeError "评分 attempt 不存在")
  | some attempt =>
    match s.items.find? (·.id == attempt.gradingJobItemId) with
    | none => .error leaseLost
    | some item =>
      match s.jobs.find? (·.id == item.gradingJobId) with
      | none => .error leaseLost
      | some job =>
        if attempt.status = .running ∧ item.status = .running ∧
            item.leaseToken = some claim.leaseToken then .ok (job, item, attempt)
        else .error leaseLost

/-- The attempt row of a success. -/
def succeededAttempt (c : GradingAttemptCompletion) (result : AttemptResult) (usage : AttemptUsage)
    (now : Time) (a : GradingAttempt) : GradingAttempt :=
  { a with
    toAttemptResult := result
    toAttemptUsage := usage
    status := .succeeded
    providerCallState := .responseReceived
    rawResponseObjectKey := some c.responseObjectKey
    rawResponseSha256 := some c.responseObjectSha256
    finishedAt := some now }

/-- The attempt row of a failure. -/
def failedAttempt (f : GradingAttemptFailure) (usage : AttemptUsage) (now : Time)
    (a : GradingAttempt) : GradingAttempt :=
  { a with
    toAttemptUsage := usage
    status := .failed
    providerCallState := f.providerCallState
    errorCode := some f.errorCode
    errorDetails := some f.errorDetails
    rawResponseObjectKey := f.responseObjectKey
    rawResponseSha256 := f.responseObjectSha256
    finishedAt := some now }

/-- The item row of a closed attempt that is not retried. -/
def closeItem (status : ItemStatus) (errorCode : Option String) (now : Time) (i : GradingJobItem) :
    GradingJobItem :=
  { i with
    status
    errorCode
    finishedAt := some now
    leaseToken := none
    leaseExpiresAt := none }

/-- The item row of an automatic retry. -/
def requeueItem (delaySeconds : Nat) (now : Time) (i : GradingJobItem) : GradingJobItem :=
  { i with
    status := .queued
    errorCode := none
    retryCount := i.retryCount + 1
    availableAt := now + delaySeconds * 1000000
    finishedAt := none
    leaseToken := none
    leaseExpiresAt := none }

/-- The item row of a failure. -/
def failItem (f : GradingAttemptFailure) (now : Time) : GradingJobItem → GradingJobItem :=
  match f.action with
  | .retry => requeueItem f.retryDelaySeconds now
  | .needsReview => closeItem .needsReview (some f.errorCode) now
  | .failed => closeItem .failed (some f.errorCode) now

def finishSuccess (s : Store) (claim : GradingAttemptClaim) (c : GradingAttemptCompletion)
    (clock : Clock) : Except TxError Store := do
  let (job, item, attempt) ← s.lockClaimed claim
  let result ← resultColumns c.validatedResult
  let usage ← usageColumns c.providerResult
  let s₁ ← s.updateAttempts (·.id == attempt.id) (succeededAttempt c result usage clock.worker)
  let s₂ ← s₁.updateItems (·.id == item.id) (closeItem .needsReview none clock.worker)
  s₂.reconcileJob job clock

def finishFailure (s : Store) (claim : GradingAttemptClaim) (f : GradingAttemptFailure)
    (clock : Clock) : Except TxError Store := do
  let (job, item, attempt) ← s.lockClaimed claim
  let usage ← failureUsage f attempt.toAttemptUsage
  let s₁ ← s.updateAttempts (·.id == attempt.id) (failedAttempt f usage clock.worker)
  let s₂ ← s₁.updateItems (·.id == item.id) (failItem f clock.worker)
  s₂.reconcileJob job clock

/-! ## Lease expiry -/

def outcomeUnknown : String := "provider_call_outcome_unknown"

/-- The attempt row of an expired lease. -/
def expiredAttempt (now : Time) (a : GradingAttempt) : GradingAttempt :=
  { a with
    status := .failed
    providerCallState := .ambiguous
    errorCode := some outcomeUnknown
    errorDetails := some (.reason "worker_lease_expired")
    finishedAt := some now }

/-- `status = 'running' and lease_expires_at <= now()`. -/
def leaseExpired (now : Time) (i : GradingJobItem) : Bool :=
  i.status == .running && i.leaseExpiresAt.any fun t => decide (t ≤ now)

/-- The scan's candidates, oldest lease first. -/
def expiryCandidates (s : Store) (limit : Nat) (now : Time) : List (Uuid × Uuid) :=
  let expired := (s.items.filter (leaseExpired now)).insertionSort fun x y =>
    x.leaseExpiresAt.getD 0 < y.leaseExpiresAt.getD 0 ∨
      (x.leaseExpiresAt = y.leaseExpiresAt ∧ x.id ≤ y.id)
  (expired.take limit).map fun i => (i.gradingJobId, i.id)

/-- One candidate of the scan; rows that changed meanwhile are skipped. -/
def expireOne (clock : Clock) (s : Store) (candidate : Uuid × Uuid) : Except TxError Store :=
  match s.jobs.find? (·.id == candidate.1),
      s.items.find? (fun i => i.id == candidate.2 && leaseExpired clock.database i) with
  | some job, some item =>
    match s.attempts.find? (fun a => a.gradingJobItemId == item.id && a.status == .running) with
    | none => .error (.runtimeError "运行中的论文没有唯一 running attempt")
    | some attempt => do
      let s₁ ← s.updateAttempts (·.id == attempt.id) (expiredAttempt clock.worker)
      let s₂ ← s₁.updateItems (·.id == item.id)
        (closeItem .needsReview (some outcomeUnknown) clock.worker)
      s₂.reconcileJob job clock
  | _, _ => .ok s

/-- `expire_stale_attempts`: all candidates in one transaction. -/
def expireStaleAttempts (s : Store) (limit : Nat) (clock : Clock) : Except TxError Store :=
  (s.expiryCandidates limit clock.database).foldlM (expireOne clock) s

end Store

end PaperGrading
