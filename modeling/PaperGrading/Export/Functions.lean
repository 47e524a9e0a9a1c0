import PaperGrading.Base.Table
import PaperGrading.Export.Rows
import PaperGrading.Store.System

/-!
# Creating and running exports: the database functions

`create_export` freezes a batch under the locks of its job, items, attempts, reviews and
rubric, so that it is one transaction of the machine; `claim_export`, `complete_export` and
`fail_export` are the three steps of the export worker.  Every write of `exports` passes the
trigger `paper_grading_protect_export_history` and the check constraints.  `export_items` is
only ever inserted into.
-/

namespace PaperGrading

/-- `RAISE EXCEPTION '…' USING ERRCODE = 'P0001'`. -/
def exportError (code : String) : TxError := .database "P0001" code

/-! ## Constraints -/

/-- `'exports/' || id::text || '/workbook.xlsx'`. -/
def exportObjectKey (id : Uuid) : String := "exports/" ++ uuidText id ++ "/workbook.xlsx"

/-- `~ '^[a-z][a-z0-9_]{0,127}$'` -/
def isExportErrorCode (code : String) : Bool :=
  match code.toList with
  | [] => false
  | c :: cs => c.isLower && decide (cs.length ≤ 127) &&
      cs.all fun x => x.isLower || x.isDigit || x == '_'

/-- What `complete_export` and `exports_safe_filename_check` ask of a file name. -/
def isSafeFilename (name : String) : Bool :=
  lengthBetween 6 255 name.length && ".xlsx".toList.isSuffixOf name.toList &&
    name.toList.all fun c => c != '/' && c != '\\'

namespace Export

/-- `exports_result_check`. -/
def resultCheck (e : Export) : Bool :=
  match e.status with
  | .queued =>
    e.startedAt.isNone && e.claimToken.isNone && e.leaseExpiresAt.isNone && e.objectKey.isNone &&
      e.safeFilename.isNone && e.fileSizeBytes.isNone && e.fileSha256.isNone &&
      e.errorCode.isNone && e.finishedAt.isNone
  | .running =>
    e.startedAt.isSome && e.claimToken.isSome && e.leaseExpiresAt.isSome && e.objectKey.isNone &&
      e.safeFilename.isNone && e.fileSizeBytes.isNone && e.fileSha256.isNone &&
      e.errorCode.isNone && e.finishedAt.isNone
  | .completed =>
    e.startedAt.isSome && e.claimToken.isNone && e.leaseExpiresAt.isNone && e.objectKey.isSome &&
      e.safeFilename.isSome && e.fileSizeBytes.all (decide <| 0 < ·) && e.errorCode.isNone &&
      e.finishedAt.isSome
  | .failed =>
    e.startedAt.isSome && e.claimToken.isNone && e.leaseExpiresAt.isNone && e.objectKey.isNone &&
      e.safeFilename.isNone && e.fileSizeBytes.isNone && e.fileSha256.isNone &&
      e.errorCode.all isExportErrorCode && e.finishedAt.isSome

/-- The check constraints of `exports`. -/
def rowCheck (e : Export) : Except TxError Unit := do
  require (!btrimEmpty e.idempotencyKey && !btrimEmpty e.workbookSchemaVersion)
    (checkViolation "exports_request_snapshot_check")
  require e.resultCheck (checkViolation "exports_result_check")
  require (e.objectKey.all (· == exportObjectKey e.id)) (checkViolation "exports_object_key_check")
  require (e.safeFilename.all isSafeFilename) (checkViolation "exports_safe_filename_check")

/-- The lease is over. -/
def leaseOver (e : Export) (now : Time) : Bool := e.leaseExpiresAt.any (decide <| · ≤ now)

/-- The lease runs. -/
def leaseRuns (e : Export) (now : Time) : Bool := e.leaseExpiresAt.any (decide <| now < ·)

/-- The moves `paper_grading_protect_export_history` allows. -/
def allowedMove (now : Time) (old new : Export) : Bool :=
  match old.status, new.status with
  | .queued, .running => true
  | .running, .completed | .running, .failed => true
  | .running, .running => old.leaseOver now && new.claimToken != old.claimToken
  | _, _ => false

end Export

/-- `paper_grading_protect_export_history`. -/
def protectExportHistory (now : Time) (old new : Export) : Except TxError Unit := do
  require (decide (new.toExportIdentity = old.toExportIdentity))
    (objectState "export snapshot is immutable")
  require (Export.allowedMove now old new) (objectState "invalid export status transition")

def exportUpdateCheck (now : Time) (old new : Export) : Except TxError Unit := do
  protectExportHistory now old new
  new.rowCheck

/-- Two rows that some unique index of `exports` keeps apart. -/
def exportConflict (x y : Export) : Bool :=
  x.id == y.id || (x.ownerId == y.ownerId && x.idempotencyKey == y.idempotencyKey) ||
    (x.objectKey.isSome && x.objectKey == y.objectKey)

def exportsUnique (rows : List Export) : Bool :=
  decide (rows.Pairwise fun x y => exportConflict x y = false)

/-- `export_items_original_filename_check` and `export_items_review_source_check`. -/
def exportItemCheck (i : ExportItem) : Except TxError Unit := do
  require (lengthBetween 1 255 i.originalFilename.length && !btrimEmpty i.originalFilename)
    (checkViolation "export_items_original_filename_check")
  require (match i.sourceType with
    | .aiSuggestion => i.teacherReviewId.isNone && i.reviewRevision.isNone
    | _ => i.teacherReviewId.isSome && i.reviewRevision.all (decide <| 0 < ·))
    (checkViolation "export_items_review_source_check")

/-- Two rows that some unique index of `export_items` keeps apart. -/
def exportItemConflict (x y : ExportItem) : Bool :=
  x.id == y.id || (x.exportId == y.exportId &&
    (x.position == y.position || x.gradingJobItemId == y.gradingJobItemId))

def exportItemsUnique (rows : List ExportItem) : Bool :=
  decide (rows.Pairwise fun x y => exportItemConflict x y = false)

namespace ExportStore

def insertExport (s : ExportStore) (e : Export) : Except TxError ExportStore := do
  let exports ← Table.insertRow Export.rowCheck s.exports e
  require (exportsUnique exports) (uniqueViolation "exports")
  return { s with exports }

def updateExports (s : ExportStore) (now : Time) (p : Export → Bool) (set : Export → Export) :
    Except TxError ExportStore := do
  let exports ← Table.updateWhere p set (exportUpdateCheck now) s.exports
  require (exportsUnique exports) (uniqueViolation "exports")
  return { s with exports }

def insertExportItem (s : ExportStore) (i : ExportItem) : Except TxError ExportStore := do
  let exportItems ← Table.insertRow exportItemCheck s.exportItems i
  require (exportItemsUnique exportItems) (uniqueViolation "export_items")
  return { s with exportItems }

end ExportStore

/-! ## Freezing -/

structure ExportRequest where
  /-- what `current_active_teacher_id()` returns -/
  teacher : Option Uuid
  gradingJobId : Uuid
  exportType : ExportType
  idempotencyKey : String
  requestHash : Hash
  deriving DecidableEq

/-- Generated identifiers and the transaction time. -/
structure ExportSeed where
  id : Uuid
  itemId : Nat → Uuid
  now : Time

/-- The AI result as an item freezes it; `none` where a result column is null. -/
def frozenSuggestion (item : GradingJobItem) (attempt : GradingAttempt) : Option FrozenResult := do
  let criteria ← attempt.criteriaResults
  let deductions ← attempt.deductionResults
  let overallFeedback ← attempt.overallFeedback
  let subtotal ← attempt.subtotal
  let deductionTotal ← attempt.deductionTotal
  let finalScore ← attempt.totalScore
  return {
    schemaVersion := "export-item-snapshot.v1"
    itemStatus := item.status
    maxScore := attempt.maxScore
    subtotal, deductionTotal, finalScore
    content := .suggestion criteria deductions
    overallFeedback
    changeReason := none
    confirmedAt := none
    attemptNumber := attempt.attemptNumber
    scoringRound := attempt.scoringRound }

/-- A review as an item freezes it. -/
def frozenReview (item : GradingJobItem) (attempt : GradingAttempt) (review : TeacherReview) :
    FrozenResult where
  schemaVersion := "export-item-snapshot.v1"
  itemStatus := item.status
  maxScore := review.maxScore
  subtotal := review.payload.subtotal
  deductionTotal := review.payload.deductionTotal
  finalScore := review.payload.finalScore
  content := .review review.payload.criteria review.payload.deductions review.payload.evidence
  overallFeedback := review.payload.feedback
  changeReason := review.payload.changeReason
  confirmedAt := review.confirmedAt
  attemptNumber := attempt.attemptNumber
  scoringRound := attempt.scoringRound

/-- The totals of a frozen result are those of the rubric and of its own columns. -/
def FrozenResult.totalsOk (r : FrozenResult) (rubric : RubricVersion) : Bool :=
  decide (r.maxScore = rubric.totalScore) &&
    decide (r.finalScore = max 0 (r.subtotal - r.deductionTotal))

/-- `source_value`, from the review that was found. -/
def sourceValue (exportType : ExportType) (review : Option TeacherReview) :
    Except TxError SourceType :=
  match exportType, review.map TeacherReview.status with
  | _, some .confirmed => .ok .teacherConfirmed
  | .final, _ => .error (exportError "export_final_unconfirmed")
  | .draft, some .draft => .ok .teacherDraft
  | .draft, none => .ok .aiSuggestion

namespace Store

/-- The items of the batch. -/
def exportRows (g : Store) (teacherId jobId : Uuid) : List GradingJobItem :=
  g.items.filter fun i => i.gradingJobId == jobId && i.ownerId == teacherId

/-- The job of an export, if it and its items are ready for one. -/
def exportableJob (g : Store) (teacherId : Uuid) (q : ExportRequest) : Except TxError GradingJob :=
  match g.jobs.find? (fun j => j.id == q.gradingJobId && j.ownerId == teacherId) with
  | none => .error (exportError "export_job_not_found")
  | some job => do
    require (match q.exportType with
      | .final => job.status == .completed
      | .draft => job.status == .needsReview || job.status == .completed)
      (exportError "export_job_not_ready")
    let items := g.exportRows teacherId job.id
    let positions := items.map (·.position)
    require (items.length == job.expectedItemCount && lengthBetween 1 100 items.length &&
        items.all (fun i => i.status == .needsReview || i.status == .completed) &&
        positions.min? == some 0 && positions.max? == some (items.length - 1))
      (exportError "export_job_not_ready")
    return job

/-- The rubric of an export. -/
def exportRubric (g : Store) (teacherId : Uuid) (job : GradingJob) :
    Except TxError (RubricVersion × StructuredRubric) :=
  match g.rubrics.find? (fun r => r.id == job.rubricVersionId &&
      r.assignmentId == job.assignmentId && r.ownerId == teacherId) with
  | none => .error (exportError "export_snapshot_invalid")
  | some rubric =>
    match rubric.structuredRubric with
    | none => .error (exportError "export_snapshot_invalid")
    | some structured =>
      if (rubric.status = .confirmed ∨ rubric.status = .superseded) ∧ 0 < rubric.totalScore then
        .ok (rubric, structured)
      else .error (exportError "export_snapshot_invalid")

/-- The review of an attempt. -/
def exportReview (g : Store) (teacherId itemId attemptId : Uuid) : Option TeacherReview :=
  g.reviews.find? fun r => r.gradingAttemptId == attemptId && r.gradingJobItemId == itemId &&
    r.ownerId == teacherId

/-- The attempt of an item that an export shows, with the result to be shown of it. -/
def exportAttempt (g : Store) (teacherId : Uuid) (rubric : RubricVersion) (item : GradingJobItem) :
    Except TxError (GradingAttempt × FrozenResult) :=
  match g.latestSucceeded item.id teacherId item.dispatchVersion with
  | none => .error (exportError "export_source_missing")
  | some attempt =>
    match frozenSuggestion item attempt with
    | none => .error (exportError "export_source_missing")
    | some suggestion =>
      if suggestion.totalsOk rubric then .ok (attempt, suggestion)
      else .error (exportError "export_source_missing")

/-- What the loop shows of an item: its source, and the result with the review it is from. -/
def frozenResult (rubric : RubricVersion) (item : GradingJobItem) (attempt : GradingAttempt)
    (suggestion : FrozenResult) (source : SourceType) (review : Option TeacherReview) :
    Except TxError (Option TeacherReview × FrozenResult) :=
  match source, review with
  | .aiSuggestion, _ | _, none => .ok (none, suggestion)
  | _, some review =>
    if (frozenReview item attempt review).totalsOk rubric then
      .ok (some review, frozenReview item attempt review)
    else .error (exportError "export_snapshot_invalid")

/-- The body of the loop of `create_export`. -/
def freezeItem (g : Store) (teacherId : Uuid) (job : GradingJob) (rubric : RubricVersion)
    (exportType : ExportType) (item : GradingJobItem) : Except TxError FrozenItem :=
  match g.submissions.find? (fun x => x.id == item.submissionId &&
      x.assignmentId == job.assignmentId && x.ownerId == teacherId) with
  | none => .error (exportError "export_snapshot_invalid")
  | some submission => do
    let (attempt, suggestion) ← g.exportAttempt teacherId rubric item
    let found := g.exportReview teacherId item.id attempt.id
    let source ← sourceValue exportType found
    require (exportType != .final || item.status == .completed)
      (exportError "export_final_unconfirmed")
    require (item.status != .completed || source == .teacherConfirmed)
      (exportError "export_snapshot_invalid")
    let (review, result) ← frozenResult rubric item attempt suggestion source found
    return {
      ownerId := teacherId
      assignmentId := job.assignmentId
      gradingJobId := job.id
      gradingJobItemId := item.id
      submissionId := item.submissionId
      gradingAttemptId := attempt.id
      teacherReviewId := review.map (·.id)
      reviewRevision := review.map (·.revisionNumber)
      position := item.position
      sourceType := source
      originalFilename := submission.originalFilename
      resultSnapshot := result }

end Store

/-- The row of a new export. -/
def queuedExport (teacherId : Uuid) (q : ExportRequest) (seed : ExportSeed) (job : GradingJob)
    (rubric : RubricVersion) (structured : StructuredRubric) : Export where
  id := seed.id
  ownerId := teacherId
  assignmentId := job.assignmentId
  gradingJobId := job.id
  exportType := q.exportType
  auditMetadata := {
    schemaVersion := "export-batch-snapshot.v1"
    assignmentTitle := job.assignmentTitleSnapshot
    rubricVersionId := rubric.id
    rubricVersion := rubric.version
    rubric := structured
    providerConfigId := job.providerConfigId
    providerConfigVersion := job.providerConfigVersion
    model := job.model
    modelParameters := job.modelParameters
    modelParametersHash := job.modelParametersHash
    promptVersion := job.promptVersion
    promptHash := job.promptHash
    resultSchemaVersion := job.resultSchemaVersion
    resultSchemaHash := job.resultSchemaHash
    rubricHash := job.rubricHash
    paperCount := job.expectedItemCount }
  idempotencyKey := q.idempotencyKey
  requestHash := q.requestHash
  workbookSchemaVersion := "paper-grading-workbook.v1"
  snapshotAt := seed.now
  createdAt := seed.now
  status := .queued
  startedAt := none
  claimToken := none
  leaseExpiresAt := none
  objectKey := none
  safeFilename := none
  fileSizeBytes := none
  fileSha256 := none
  errorCode := none
  finishedAt := none

namespace ExportStore

/-- The loop of `create_export`. -/
def freezeItems (teacherId : Uuid) (job : GradingJob) (rubric : RubricVersion)
    (exportType : ExportType) (seed : ExportSeed) :
    List GradingJobItem → ExportStore → Except TxError ExportStore
  | [], s => .ok s
  | item :: rest, s => do
    let frozen ← s.grading.freezeItem teacherId job rubric exportType item
    let s' ← s.insertExportItem { frozen with id := seed.itemId frozen.position, exportId := seed.id }
    freezeItems teacherId job rubric exportType seed rest s'

/-- `create_export` without an export of that key. -/
def freezeJob (s : ExportStore) (teacherId : Uuid) (q : ExportRequest) (seed : ExportSeed) :
    Except TxError (Export × ExportStore) := do
  let job ← s.grading.exportableJob teacherId q
  let (rubric, structured) ← s.grading.exportRubric teacherId job
  let created := queuedExport teacherId q seed job rubric structured
  let s₁ ← s.insertExport created
  let items := (s.grading.exportRows teacherId job.id).insertionSort fun x y => x.position ≤ y.position
  let s₂ ← freezeItems teacherId job rubric q.exportType seed items s₁
  require (items.length == job.expectedItemCount) (exportError "export_snapshot_invalid")
  return (created, s₂)

/-- `create_export`. -/
def createExport (s : ExportStore) (q : ExportRequest) (seed : ExportSeed) :
    Except TxError (Export × ExportStore) :=
  match q.teacher with
  | none => .error (exportError "export_job_not_found")
  | some teacherId =>
    if textOk q.idempotencyKey = false then .error textError
    else if btrimEmpty q.idempotencyKey ∨ 200 < q.idempotencyKey.length then
      .error (exportError "export_snapshot_invalid")
    else
      match s.exports.find? (fun e => e.ownerId == teacherId &&
          e.idempotencyKey == q.idempotencyKey) with
      | some existing =>
        if existing.requestHash = q.requestHash ∧ existing.gradingJobId = q.gradingJobId ∧
            existing.exportType = q.exportType then .ok (existing, s)
        else .error (exportError "export_idempotency_conflict")
      | none => s.freezeJob teacherId q seed

/-! ## The worker's transactions -/

def logExport (s : ExportStore) (e : Export) (action : ExportAuditAction) : ExportStore :=
  { s with auditLogs := s.auditLogs ++ [⟨e.ownerId, action, e.id⟩] }

/-- How often an export was claimed. -/
def claimCount (s : ExportStore) (id : Uuid) : Nat :=
  s.auditLogs.countP fun x => x.resourceId == id && x.action == .claimed

/-- The export row of a claim. -/
def claimedExport (token : Uuid) (leaseSeconds : Nat) (now : Time) (e : Export) : Export :=
  { e with
    status := .running
    startedAt := e.startedAt.or (some now)
    claimToken := some token
    leaseExpiresAt := some (now + leaseSeconds * 1000000) }

/-- The export row of a failure. -/
def failedExport (errorCode : String) (now : Time) (e : Export) : Export :=
  { e with
    status := .failed
    errorCode := some errorCode
    claimToken := none
    leaseExpiresAt := none
    finishedAt := some now }

structure ExportFile where
  objectKey : String
  safeFilename : String
  fileSizeBytes : Nat
  fileSha256 : Hash
  deriving DecidableEq

/-- The export row of a completion. -/
def completedExport (file : ExportFile) (now : Time) (e : Export) : Export :=
  { e with
    status := .completed
    objectKey := some file.objectKey
    safeFilename := some file.safeFilename
    fileSizeBytes := some file.fileSizeBytes
    fileSha256 := some file.fileSha256
    claimToken := none
    leaseExpiresAt := none
    finishedAt := some now }

/-- `claim_export`; `none` where it returns `NULL`. -/
def claimExport (s : ExportStore) (id token : Uuid) (leaseSeconds : Nat) (now : Time) :
    Except TxError (Option Export × ExportStore) :=
  if lengthBetween 30 900 leaseSeconds = false then .ok (none, s)
  else
    match s.exports.find? (·.id == id) with
    | none => .ok (none, s)
    | some e =>
      if e.status = .running ∧ e.leaseOver now ∧ 3 ≤ s.claimCount id then do
        let s' ← s.updateExports now (·.id == id) (failedExport "export_worker_lost" now)
        return (none, s'.logExport e .failed)
      else if e.status = .queued ∨ (e.status = .running ∧ e.leaseOver now) then do
        let s' ← s.updateExports now (·.id == id) (claimedExport token leaseSeconds now)
        return (some (claimedExport token leaseSeconds now e), s'.logExport e .claimed)
      else .ok (none, s)

/-- The row that the holder of a lease may end. -/
def heldExport (s : ExportStore) (id token : Uuid) (now : Time) : Option Export :=
  s.exports.find? fun e => e.id == id && e.status == .running && e.claimToken == some token &&
    e.leaseRuns now

/-- `complete_export`. -/
def completeExport (s : ExportStore) (id token : Uuid) (file : ExportFile) (now : Time) :
    Except TxError (Option Export × ExportStore) :=
  if file.objectKey = exportObjectKey id ∧ isSafeFilename file.safeFilename ∧
      0 < file.fileSizeBytes then
    match s.heldExport id token now with
    | none => .ok (none, s)
    | some e => do
      let s' ← s.updateExports now (·.id == id) (completedExport file now)
      return (some (completedExport file now e), s'.logExport e .completed)
  else .ok (none, s)

/-- `fail_export`. -/
def failExport (s : ExportStore) (id token : Uuid) (errorCode : String) (now : Time) :
    Except TxError (Option Export × ExportStore) :=
  if isExportErrorCode errorCode then
    match s.heldExport id token now with
    | none => .ok (none, s)
    | some e => do
      let s' ← s.updateExports now (·.id == id) (failedExport errorCode now)
      return (some (failedExport errorCode now e), s'.logExport e .failed)
  else .ok (none, s)

end ExportStore

/-! ## The machine -/

inductive ExportAction (env : Runtime) where
  | grading (action : Action env)
  | createExport (request : ExportRequest) (seed : ExportSeed)
  | claimExport (id token : Uuid) (leaseSeconds : Nat) (now : Time)
  | completeExport (id token : Uuid) (file : ExportStore.ExportFile) (now : Time)
  | failExport (id token : Uuid) (errorCode : String) (now : Time)

namespace ExportStore

/-- The transaction of an action. -/
def exec (env : Runtime) (s : ExportStore) : ExportAction env → Except TxError ExportStore
  | .grading a => (fun grading => { s with grading }) <$> s.grading.exec env a
  | .createExport q seed => (·.2) <$> s.createExport q seed
  | .claimExport id token leaseSeconds now => (·.2) <$> s.claimExport id token leaseSeconds now
  | .completeExport id token file now => (·.2) <$> s.completeExport id token file now
  | .failExport id token errorCode now => (·.2) <$> s.failExport id token errorCode now

/-- One action: committed, or rolled back. -/
def step (env : Runtime) (s : ExportStore) (a : ExportAction env) : ExportStore :=
  match s.exec env a with
  | .ok s' => s'
  | .error _ => s

/-- The store after a run of actions from the empty store. -/
def after (env : Runtime) (as : List (ExportAction env)) : ExportStore :=
  Runs.run (step env) empty as

end ExportStore

end PaperGrading
