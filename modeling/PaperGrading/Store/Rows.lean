import PaperGrading.Base.Checks
import PaperGrading.Domain.Grading
import PaperGrading.Domain.Provider

/-!
# Rows of the grading store

One structure per table, one list per table in `Store`.  Columns that a trigger
freezes form a structure of their own (`JobSnapshot`, `ItemIdentity`, …) which the
row extends, so "the identity is unchanged" is one equation.  `jsonb` columns hold
the decoded value: a review criterion keeps its score as the decimal whose `str`
is the JSON text.
-/

namespace PaperGrading

/-! ## Statuses -/

inductive AssignmentStatus where
  | draft | ready | archived
  deriving DecidableEq

inductive RubricStatus where
  | draft | confirmed | superseded
  deriving DecidableEq

inductive ProviderStatus where
  | draft | enabled | disabled
  deriving DecidableEq

inductive SubmissionStatus where
  | uploaded | parsing | ready | failed
  deriving DecidableEq

inductive JobStatus where
  | queued | running | paused | needsReview | completed | failed | cancelled
  deriving DecidableEq

inductive ItemStatus where
  | queued | running | needsReview | completed | failed | cancelled
  deriving DecidableEq

inductive AttemptStatus where
  | running | succeeded | needsReview | failed
  deriving DecidableEq

inductive AttemptKind where
  | initial | correction | automaticRetry | manualRetry
  deriving DecidableEq

inductive ProviderCallState where
  | started | notSent | responseReceived | ambiguous
  deriving DecidableEq

inductive ReviewStatus where
  | draft | confirmed
  deriving DecidableEq

/-! ## Assignments, rubrics, providers, submissions -/

structure Assignment where
  id : Uuid
  ownerId : Uuid
  title : String
  instructions : String
  status : AssignmentStatus
  deriving DecidableEq

structure RubricIdentity where
  id : Uuid
  ownerId : Uuid
  assignmentId : Uuid
  version : Nat
  createdAt : Time
  deriving DecidableEq

/-- The columns a confirmed version can no longer change. -/
structure RubricContent where
  originalRubric : String
  structuredRubric : Option StructuredRubric
  totalScore : ℚ
  scoreStep : ℚ
  providerConfigId : Option Uuid
  model : Option String
  confirmedAt : Option Time
  deriving DecidableEq

structure RubricVersion extends RubricIdentity, RubricContent where
  status : RubricStatus
  deriving DecidableEq

/-- The columns whose change invalidates a connection test; a `numeric(8,3)` timeout always
has three decimals. -/
structure ProviderConnection where
  providerType : ProviderType
  baseUrl : String
  encryptedApiKey : Option Bytes
  apiKeyNonce : Option Bytes
  allowedModels : List String
  defaultModel : Option String
  timeoutSeconds : Decimal
  modelProfiles : List (String × ProviderModelProfile)
  deriving DecidableEq

structure ProviderConfig extends ProviderConnection where
  id : Uuid
  name : String
  maxConcurrency : Nat
  monthlyBudget : Option ℚ
  status : ProviderStatus
  configVersion : Nat
  testedConfigVersion : Option Nat
  testedAt : Option Time
  deriving DecidableEq

structure Submission where
  id : Uuid
  ownerId : Uuid
  assignmentId : Uuid
  originalFilename : String
  mediaType : MediaType
  fileSizeBytes : Nat
  contentSha256 : Hash
  sourceObjectKey : String
  extractedObjectKey : Option String
  status : SubmissionStatus
  errorCode : Option String
  deriving DecidableEq

/-! ## Jobs, items, attempts -/

/-- The frozen inputs of a batch. -/
structure JobSnapshot where
  id : Uuid
  ownerId : Uuid
  assignmentId : Uuid
  rubricVersionId : Uuid
  providerConfigId : Uuid
  providerConfigVersion : Nat
  assignmentTitleSnapshot : String
  assignmentInstructionsSnapshot : String
  expectedItemCount : Nat
  requestHash : Hash
  model : String
  modelParameters : GradingProviderSnapshot
  modelParametersHash : Hash
  promptVersion : String
  promptHash : Hash
  resultSchemaVersion : String
  /-- canonical text of the generated schema -/
  resultSchema : String
  resultSchemaHash : Hash
  rubricHash : Hash
  idempotencyKey : String
  createdAt : Time
  deriving DecidableEq

structure GradingJob extends JobSnapshot where
  status : JobStatus
  stateVersion : Nat
  startedAt : Option Time
  finishedAt : Option Time
  deriving DecidableEq

structure ItemIdentity where
  id : Uuid
  ownerId : Uuid
  assignmentId : Uuid
  gradingJobId : Uuid
  submissionId : Uuid
  position : Nat
  createdAt : Time
  deriving DecidableEq

structure GradingJobItem extends ItemIdentity where
  status : ItemStatus
  dispatchVersion : Nat
  retryCount : Nat
  availableAt : Time
  leaseToken : Option Uuid
  leaseExpiresAt : Option Time
  startedAt : Option Time
  finishedAt : Option Time
  errorCode : Option String
  deriving DecidableEq

structure AttemptIdentity where
  id : Uuid
  ownerId : Uuid
  gradingJobItemId : Uuid
  attemptNumber : Nat
  parentAttemptId : Option Uuid
  scoringRound : Nat
  callSequence : Nat
  attemptKind : AttemptKind
  providerCallStartedAt : Time
  requestVersion : String
  requestHash : Hash
  idempotencyKey : String
  maxScore : ℚ
  createdAt : Time
  deriving DecidableEq

/-- The `error_details` object of a failed attempt. -/
inductive ErrorDetails where
  | empty
  | reason (text : String)
  | retry (retryable : Bool) (retrySafety : RetrySafety)
  | issues (issues : List GradeValidationIssue)
  deriving DecidableEq

/-- The result columns of an attempt; null until it succeeds. -/
structure AttemptResult where
  subtotal : Option ℚ
  deductionTotal : Option ℚ
  totalScore : Option ℚ
  criteriaResults : Option (List DimensionResult)
  deductionResults : Option (List DeductionResult)
  overallFeedback : Option String
  deriving DecidableEq

/-- Provider metadata, usage and cost of an attempt. -/
structure AttemptUsage where
  providerRequestId : Option String
  reportedModel : Option String
  inputTokens : Option Nat
  cachedInputTokens : Option Nat
  cacheWriteInputTokens : Option Nat
  outputTokens : Option Nat
  reasoningTokens : Option Nat
  totalTokens : Option Nat
  estimatedCostAmount : Option ℚ
  costCurrency : Option String
  tariffVersion : Option String
  deriving DecidableEq

structure GradingAttempt extends AttemptIdentity, AttemptResult, AttemptUsage where
  status : AttemptStatus
  providerCallState : ProviderCallState
  rawResponseObjectKey : Option String
  rawResponseSha256 : Option Hash
  errorCode : Option String
  errorDetails : Option ErrorDetails
  finishedAt : Option Time
  deriving DecidableEq

/-! ## Reviews -/

structure ReviewCriterion where
  dimensionId : String
  score : Decimal
  reason : String
  revisionSuggestions : List String
  deriving DecidableEq

structure ReviewDeduction where
  deductionId : String
  applied : Bool
  reason : String
  deriving DecidableEq

inductive EvidenceTarget where
  | dimension | deduction
  deriving DecidableEq

structure ReviewEvidence where
  targetType : EvidenceTarget
  targetId : String
  blockId : String
  quote : String
  deriving DecidableEq

/-- What a teacher submits, with the totals computed from it. -/
structure ReviewPayload where
  criteria : List ReviewCriterion
  deductions : List ReviewDeduction
  evidence : List ReviewEvidence
  feedback : String
  changeReason : Option String
  subtotal : ℚ
  deductionTotal : ℚ
  finalScore : ℚ
  deriving DecidableEq

structure ReviewIdentity where
  id : Uuid
  ownerId : Uuid
  gradingJobItemId : Uuid
  gradingAttemptId : Uuid
  maxScore : ℚ
  createdAt : Time
  deriving DecidableEq

structure TeacherReview extends ReviewIdentity where
  revisionNumber : Nat
  status : ReviewStatus
  payload : ReviewPayload
  confirmedAt : Option Time
  deriving DecidableEq

/-! ## The store -/

structure Store where
  assignments : List Assignment
  rubrics : List RubricVersion
  providers : List ProviderConfig
  submissions : List Submission
  jobs : List GradingJob
  items : List GradingJobItem
  attempts : List GradingAttempt
  reviews : List TeacherReview
  deriving DecidableEq

def Store.empty : Store := ⟨[], [], [], [], [], [], [], []⟩

/-- How a transaction fails; every failure rolls the transaction back. -/
inductive TxError where
  /-- an error raised by PostgreSQL, with its SQLSTATE and message or constraint name -/
  | database (sqlstate : String) (message : String)
  | runtimeError (message : String)
  | gradingJobConfigurationError (message : String) (code : String)
  | gradingJobIdempotencyConflict (message : String)
  | quotaBlocked
  /-- a stored value that its pydantic model refuses -/
  | validationError (model : String)
  deriving DecidableEq

/-- A check constraint of a table, or a `RAISE … USING ERRCODE = '23514'`. -/
def checkViolation (name : String) : TxError := .database "23514" name

def uniqueViolation (name : String) : TxError := .database "23505" name

def foreignKeyViolation (name : String) : TxError := .database "23503" name

/-- `RAISE … USING ERRCODE = '55000'`, the code of the history triggers. -/
def objectState (message : String) : TxError := .database "55000" message

/-- Raises `e` unless `b`. -/
def require (b : Bool) (e : TxError) : Except TxError Unit := if b then .ok () else .error e

/-! ## Lemmas -/

@[simp] theorem require_eq_ok {b : Bool} {e : TxError} {u : Unit} :
    require b e = .ok u ↔ b = true := by
  unfold require
  split <;> simp_all

end PaperGrading
