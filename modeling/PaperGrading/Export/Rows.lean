import PaperGrading.Store.Rows

/-!
# Rows of the export tables

`exports` and `export_items` of the stage twelve migration.  An export freezes one batch:
`ExportIdentity` holds the columns the history trigger protects, with the batch snapshot in
`audit_metadata`; an export item is never written again.  `ExportStore` is the grading store
with these two tables and the export entries of `audit_logs`.
-/

namespace PaperGrading

/-! ## Enumerations -/

inductive ExportType where
  | draft | final
  deriving DecidableEq

inductive ExportStatus where
  | queued | running | completed | failed
  deriving DecidableEq

inductive SourceType where
  | aiSuggestion | teacherDraft | teacherConfirmed
  deriving DecidableEq

/-! ## Exports -/

/-- The object in `audit_metadata`. -/
structure BatchSnapshot where
  schemaVersion : String
  assignmentTitle : String
  rubricVersionId : Uuid
  rubricVersion : Nat
  rubric : StructuredRubric
  providerConfigId : Uuid
  providerConfigVersion : Nat
  model : String
  modelParameters : GradingProviderSnapshot
  modelParametersHash : Hash
  promptVersion : String
  promptHash : Hash
  resultSchemaVersion : String
  resultSchemaHash : Hash
  rubricHash : Hash
  paperCount : Nat
  deriving DecidableEq

/-- The columns of an export that never change. -/
structure ExportIdentity where
  id : Uuid
  ownerId : Uuid
  assignmentId : Uuid
  gradingJobId : Uuid
  exportType : ExportType
  auditMetadata : BatchSnapshot
  idempotencyKey : String
  requestHash : Hash
  workbookSchemaVersion : String
  snapshotAt : Time
  createdAt : Time
  deriving DecidableEq

structure Export extends ExportIdentity where
  status : ExportStatus
  startedAt : Option Time
  claimToken : Option Uuid
  leaseExpiresAt : Option Time
  objectKey : Option String
  safeFilename : Option String
  fileSizeBytes : Option Nat
  fileSha256 : Option Hash
  errorCode : Option String
  finishedAt : Option Time
  deriving DecidableEq

/-! ## Export items -/

/-- `criteria_results`, `deduction_results` and `evidence` of a frozen item: the AI's, whose
evidence stands inside the results, or the teacher's. -/
inductive FrozenContent where
  | suggestion (criteria : List DimensionResult) (deductions : List DeductionResult)
  | review (criteria : List ReviewCriterion) (deductions : List ReviewDeduction)
      (evidence : List ReviewEvidence)
  deriving DecidableEq

/-- `result_snapshot`. -/
structure FrozenResult where
  schemaVersion : String
  itemStatus : ItemStatus
  maxScore : ℚ
  subtotal : ℚ
  deductionTotal : ℚ
  finalScore : ℚ
  content : FrozenContent
  overallFeedback : String
  changeReason : Option String
  confirmedAt : Option Time
  attemptNumber : Nat
  scoringRound : Nat
  deriving DecidableEq

/-- A frozen paper. -/
structure FrozenItem where
  ownerId : Uuid
  assignmentId : Uuid
  gradingJobId : Uuid
  gradingJobItemId : Uuid
  submissionId : Uuid
  gradingAttemptId : Uuid
  teacherReviewId : Option Uuid
  reviewRevision : Option Nat
  position : Nat
  sourceType : SourceType
  originalFilename : String
  resultSnapshot : FrozenResult
  deriving DecidableEq

structure ExportItem extends FrozenItem where
  id : Uuid
  exportId : Uuid
  deriving DecidableEq

/-! ## The store -/

inductive ExportAuditAction where
  | claimed | completed | failed
  deriving DecidableEq

/-- An entry of `audit_logs` with resource type `export`. -/
structure ExportAudit where
  ownerId : Uuid
  action : ExportAuditAction
  resourceId : Uuid
  deriving DecidableEq

structure ExportStore where
  grading : Store
  exports : List Export
  exportItems : List ExportItem
  auditLogs : List ExportAudit
  deriving DecidableEq

namespace ExportStore

def empty : ExportStore := ⟨.empty, [], [], []⟩

/-- The frozen papers of an export. -/
def itemsOf (s : ExportStore) (exportId : Uuid) : List ExportItem :=
  s.exportItems.filter (·.exportId == exportId)

end ExportStore

end PaperGrading
