import PaperGrading.Grading.Prompt
import PaperGrading.Store.Inputs

/-!
# Creating a batch

`create_or_get_job`: one transaction that reads the assignment, its confirmed
rubric, the submissions and the provider under row locks, freezes them into a job
row and adds one queued item per submission.  The `ON CONFLICT DO NOTHING` of the
job insert only matters when another request commits between the two reads of the
idempotency key; run as one step the first read already finds that job.
-/

namespace PaperGrading

/-- `GradingJobCreate` with its validators. -/
structure GradingJobCreate where
  submissionIds : List Uuid
  idempotencyKey : String
  countOk : 1 ≤ submissionIds.length ∧ submissionIds.length ≤ 100
  distinct : submissionIds.Nodup
  keyOk : idempotencyKey ≠ "" ∧ idempotencyKey.length ≤ 200
  deriving DecidableEq

namespace GradingJobCreate

/-- `request_hash`. -/
def requestHash (env : Runtime) (p : GradingJobCreate) (assignmentId : Uuid) : Hash :=
  env.canonicalSha256 (.obj [("assignment_id", .str (uuidText assignmentId)),
    ("submission_ids", .arr (p.submissionIds.map fun id => .str (uuidText id)))])

end GradingJobCreate

namespace GradingProviderSnapshot

/-- The field constraints of `GradingProviderSnapshot`. -/
def accepts (s : GradingProviderSnapshot) : Bool :=
  lengthBetween 1 2048 s.baseUrl.length && decide (0 < s.timeoutSeconds.toRat) &&
    decide (s.timeoutSeconds.toRat ≤ 300) && s.timeoutSeconds.fits 8 3 &&
    lengthBetween 1 100 s.maxConcurrency

end GradingProviderSnapshot

/-- Identifiers and time a creation draws: the job, one item per position, now. -/
structure CreationSeed where
  jobId : Uuid
  itemId : Nat → Uuid
  now : Time

namespace Store

def jobByKey (s : Store) (ownerId : Uuid) (key : String) : Option GradingJob :=
  s.jobs.find? fun j => j.ownerId == ownerId && j.idempotencyKey == key

/-- The locked rows a batch is created from, or the error that stops it. -/
def creationInputs (s : Store) (ownerId assignmentId : Uuid) (payload : GradingJobCreate) :
    Except TxError (Assignment × RubricVersion × StructuredRubric × ProviderConfig × String ×
      ProviderModelProfile) := do
  let assignmentInvalid :=
    TxError.gradingJobConfigurationError "作业或评分标准状态已变化" "grading_job_assignment_invalid"
  let providerInvalid (message : String) :=
    TxError.gradingJobConfigurationError message "grading_job_provider_invalid"
  match s.assignments.find? (fun a => a.id == assignmentId && a.ownerId == ownerId &&
      a.status == .ready),
    s.rubrics.find? (fun r => r.assignmentId == assignmentId && r.ownerId == ownerId &&
      r.status == .confirmed) with
  | some assignment, some rubric =>
    match rubric.structuredRubric, rubric.providerConfigId, rubric.model with
    | some structured, some providerId, some model =>
      require (payload.submissionIds.all fun id => s.submissions.any fun x => x.id == id &&
          x.assignmentId == assignmentId && x.ownerId == ownerId && x.status == .ready)
        (.gradingJobConfigurationError "批次包含不存在或尚未解析完成的论文"
          "grading_job_submissions_invalid")
      match s.providers.find? (·.id == providerId) with
      | none => .error (providerInvalid "供应商当前配置不可用于评分")
      | some provider =>
        require (provider.status == .enabled &&
            provider.testedConfigVersion == some provider.configVersion &&
            provider.defaultModel == some model)
          (providerInvalid "供应商当前配置不可用于评分")
        match provider.modelProfiles.find? (·.1 == model) with
        | none => .error (providerInvalid "默认模型缺少管理员确认的能力快照")
        | some (_, profile) => return (assignment, rubric, structured, provider, model, profile)
    | _, _, _ => .error assignmentInvalid
  | _, _ => .error assignmentInvalid

/-- The job row of a creation. -/
def createdJob (env : Runtime) (ownerId : Uuid) (payload : GradingJobCreate)
    (assignment : Assignment) (rubric : RubricVersion) (structured : StructuredRubric)
    (provider : ProviderConfig) (snapshot : GradingProviderSnapshot) (model : String)
    (seed : CreationSeed) : GradingJob :=
  let contract := buildGradingContractSnapshot env structured
  { id := seed.jobId
    ownerId
    assignmentId := assignment.id
    rubricVersionId := rubric.id
    providerConfigId := provider.id
    providerConfigVersion := provider.configVersion
    assignmentTitleSnapshot := assignment.title
    assignmentInstructionsSnapshot := assignment.instructions
    expectedItemCount := payload.submissionIds.length
    requestHash := payload.requestHash env assignment.id
    model
    modelParameters := snapshot
    modelParametersHash := snapshot.snapshotHash env
    promptVersion := contract.promptVersion.text
    promptHash := contract.promptHash
    resultSchemaVersion := contract.resultSchemaVersion
    resultSchema := contract.resultSchema
    resultSchemaHash := contract.resultSchemaHash
    rubricHash := contract.rubricHash
    idempotencyKey := payload.idempotencyKey
    createdAt := seed.now
    status := .queued
    stateVersion := 1
    startedAt := none
    finishedAt := none }

/-- The item row at a position of a creation. -/
def createdItem (job : GradingJob) (seed : CreationSeed) (position : Nat) (submissionId : Uuid) :
    GradingJobItem :=
  { id := seed.itemId position
    ownerId := job.ownerId
    assignmentId := job.assignmentId
    gradingJobId := job.id
    submissionId
    position
    createdAt := seed.now
    status := .queued
    dispatchVersion := 1
    retryCount := 0
    availableAt := seed.now
    leaseToken := none
    leaseExpiresAt := none
    startedAt := none
    finishedAt := none
    errorCode := none }

/-- The item rows of a creation, in the order of the submissions. -/
def createdItems (job : GradingJob) (seed : CreationSeed) (submissionIds : List Uuid) :
    List GradingJobItem :=
  submissionIds.mapIdx (createdItem job seed)

/-- `create_or_get_job`; the answer tells the job and whether this call created it. -/
def createOrGetJob (env : Runtime) (s : Store) (ownerId assignmentId : Uuid)
    (payload : GradingJobCreate) (quotaOk : Bool) (seed : CreationSeed) :
    Except TxError ((Uuid × Bool) × Store) :=
  match s.jobByKey ownerId payload.idempotencyKey with
  | some existing => do
    require (existing.requestHash == payload.requestHash env assignmentId)
      (.gradingJobIdempotencyConflict "同一幂等键对应了不同批次请求")
    return ((existing.id, false), s)
  | none => do
    require quotaOk .quotaBlocked
    let (assignment, rubric, structured, provider, model, profile) ←
      s.creationInputs ownerId assignmentId payload
    require (structured.accepts env) (.validationError "StructuredRubric")
    let snapshot : GradingProviderSnapshot :=
      { providerType := provider.providerType
        baseUrl := provider.baseUrl
        timeoutSeconds := provider.timeoutSeconds
        maxConcurrency := provider.maxConcurrency
        modelProfile := profile }
    require snapshot.accepts (.validationError "GradingProviderSnapshot")
    let job := createdJob env ownerId payload assignment rubric structured provider snapshot
      model seed
    let s₁ ← s.insertJob job
    let s₂ ← (createdItems job seed payload.submissionIds).foldlM insertItem s₁
    require ((s₂.itemStatuses job.id).length == job.expectedItemCount)
      (checkViolation "grading job item count does not match expected count")
    return ((job.id, true), s₂)

end Store

end PaperGrading
