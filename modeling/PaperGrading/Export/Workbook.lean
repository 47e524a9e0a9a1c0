import PaperGrading.Base.Checks
import PaperGrading.Domain.Rubric
import PaperGrading.Export.Rows

/-!
# The workbook of an export

`export/xlsx.py`: a frozen snapshot is checked again and written to four sheets, row by row.  The
positions of the numbers are kept by hand, and compared when the saved workbook is read back.  A
text that begins like a formula gets an apostrophe before it, after its length was checked.
-/

namespace PaperGrading

/-! ## Errors -/

/-- The codes of `WorkbookValidationError`. -/
inductive WorkbookCode where
  | snapshotInvalid | cellTextTooLong | cellTextInvalid | scoreInvalid | totalsMismatch
  | finalUnconfirmed | workbookInvalid | formulaDetected
  deriving DecidableEq

def WorkbookCode.text : WorkbookCode → String
  | .snapshotInvalid => "export_snapshot_invalid"
  | .cellTextTooLong => "export_cell_text_too_long"
  | .cellTextInvalid => "export_cell_text_invalid"
  | .scoreInvalid => "export_score_invalid"
  | .totalsMismatch => "export_totals_mismatch"
  | .finalUnconfirmed => "export_final_unconfirmed"
  | .workbookInvalid => "export_workbook_invalid"
  | .formulaDetected => "export_formula_detected"

/-- What building a workbook raises. -/
inductive WorkbookError where
  | validation (code : WorkbookCode)
  | keyError
  deriving DecidableEq

/-! ## Snapshots -/

structure EvidenceEntry where
  targetType : Option String
  targetId : Option String
  blockId : String
  quote : String
  deriving DecidableEq

/-- A row of `criteria_results`; decimals are `Decimal(str(value))` of what is frozen. -/
structure CriterionRow where
  dimensionId : String
  score : Decimal
  reason : String
  revisionSuggestions : List String
  evidence : List EvidenceEntry
  deriving DecidableEq

structure DeductionRow where
  deductionId : String
  applied : Bool
  reason : String
  evidence : List EvidenceEntry
  deriving DecidableEq

structure ResultSnapshot where
  itemStatus : String
  subtotal : Decimal
  deductionTotal : Decimal
  finalScore : Decimal
  maxScore : Decimal
  criteria : List CriterionRow
  deductions : List DeductionRow
  evidence : List EvidenceEntry
  overallFeedback : String
  changeReason : Option String
  confirmedAt : Option String
  deriving DecidableEq

structure WorkbookItem where
  position : Nat
  submissionId : Uuid
  attemptId : Uuid
  reviewId : Option Uuid
  reviewRevision : Option Nat
  sourceType : SourceType
  originalFilename : String
  result : ResultSnapshot
  deriving DecidableEq

/-- What the workbook shows of `batch_snapshot`; versions are `integer` columns. -/
structure WorkbookBatch where
  assignmentId : Uuid
  gradingJobId : Uuid
  assignmentTitle : String
  rubricVersionId : Uuid
  rubricVersion : Fin (2 ^ 31)
  providerConfigId : Uuid
  providerConfigVersion : Fin (2 ^ 31)
  model : String
  promptVersion : String
  promptHash : String
  modelParametersHash : String
  paperCount : Nat
  deriving DecidableEq

structure WorkbookSnapshot (env : Runtime) where
  exportId : Uuid
  exportType : ExportType
  workbookSchemaVersion : String
  snapshotAt : Time
  batch : WorkbookBatch
  rubric : ValidRubric env
  items : List WorkbookItem
  versioned : workbookSchemaVersion = "paper-grading-workbook.v1"
  limited : items.length ≤ 100
  positions : items.map (·.position) = List.range items.length
  counted : batch.paperCount = items.length

/-- `workbook_snapshot_from_frozen`. -/
def workbookSnapshotFromFrozen (env : Runtime) (exportId : Uuid) (exportType : ExportType)
    (workbookSchemaVersion : String) (snapshotAt : Time) (batch : WorkbookBatch)
    (rubric : StructuredRubric) (items : List WorkbookItem) :
    Except WorkbookError (WorkbookSnapshot env) :=
  if hrubric : rubric.accepts env = true then
    if h : workbookSchemaVersion = "paper-grading-workbook.v1" ∧ items.length ≤ 100 ∧
        items.map (·.position) = List.range items.length ∧ batch.paperCount = items.length then
      if items = [] ∨ ¬(items.map (·.submissionId)).Nodup then
        .error (.validation .snapshotInvalid)
      else
        .ok ⟨exportId, exportType, workbookSchemaVersion, snapshotAt, batch, ⟨rubric, hrubric⟩, items,
          h.1, h.2.1, h.2.2.1, h.2.2.2⟩
    else .error (.validation .snapshotInvalid)
  else .error (.validation .snapshotInvalid)

namespace Workbook

/-! ## Texts and numbers -/

def isIllegalXml (c : Char) : Bool :=
  decide (c.toNat ≤ 8) || c.toNat == 11 || c.toNat == 12 ||
    decide (14 ≤ c.toNat) && decide (c.toNat ≤ 31) || c.toNat == 0xFFFE || c.toNat == 0xFFFF

def formulaPrefixes : List Char := ['=', '+', '-', '@', '\t', '\r', '\n']

/-- `value.startswith(FORMULA_PREFIXES)`. -/
def startsFormula (s : String) : Bool :=
  match s.toList with
  | [] => false
  | c :: _ => formulaPrefixes.contains c

def protect (s : String) : String := if startsFormula s then "'" ++ s else s

def maxCellText : Nat := 32767

/-- `_text`. -/
def text (s : String) : Except WorkbookError String :=
  if maxCellText < s.length then .error (.validation .cellTextTooLong)
  else if s.toList.any isIllegalXml then .error (.validation .cellTextInvalid)
  else .ok (protect s)

/-- `_decimal`, of a value that spells a finite number. -/
def decimal (d : Decimal) : Except WorkbookError Decimal :=
  if d.exponent < -4 then .error (.validation .scoreInvalid) else .ok d

/-! ## Checks of a result -/

/-- `_validate_evidence`. -/
def validateEvidence (requireTarget : Bool) (entries : List EvidenceEntry) :
    Except WorkbookError PUnit :=
  entries.forM fun entry => do
    let _ ← text entry.blockId
    let _ ← text entry.quote
    if requireTarget then
      match entry.targetType, entry.targetId with
      | some targetType, some targetId =>
        let _ ← text targetType
        let _ ← text targetId
        return ⟨⟩
      | _, _ => .error (.validation .snapshotInvalid)
    else return ⟨⟩

section

variable {env : Runtime} (s : WorkbookSnapshot env)

def validateCriterion (row : CriterionRow) : Except WorkbookError PUnit := do
  let _ ← text row.reason
  row.revisionSuggestions.forM fun suggestion => do
    let _ ← text suggestion
    return ⟨⟩
  validateEvidence false row.evidence

def validateDeduction (row : DeductionRow) : Except WorkbookError PUnit := do
  let _ ← text row.reason
  validateEvidence false row.evidence

/-- The points of the applied deductions; an id that is not in the rubric is a `KeyError`. -/
def computedDeductions (rows : List DeductionRow) : Except WorkbookError (List ℚ) :=
  (rows.filter (·.applied)).mapM fun row => do
    let deductionId ← text row.deductionId
    match s.rubric.rubric.deductions.find? (·.id == deductionId) with
    | some deduction => return deduction.points.toRat
    | none => .error (.validation .snapshotInvalid)

/-- `_validate_result`. -/
def validateResult (item : WorkbookItem) : Except WorkbookError PUnit := do
  let result := item.result
  let rubric := s.rubric.rubric
  let subtotal ← decimal result.subtotal
  let deductionTotal ← decimal result.deductionTotal
  let finalScore ← decimal result.finalScore
  let maxScore ← decimal result.maxScore
  let criterionIds ← result.criteria.mapM fun row => text row.dimensionId
  let deductionIds ← result.deductions.mapM fun row => text row.deductionId
  result.criteria.forM validateCriterion
  result.deductions.forM validateDeduction
  validateEvidence true result.evidence
  let _ ← text result.itemStatus
  let _ ← text result.overallFeedback
  let _ ← text (result.changeReason.getD "")
  let scores ← result.criteria.mapM fun row => decimal row.score
  let points ← computedDeductions s result.deductions
  ensure (decide (criterionIds = rubric.dimensions.map (·.id)) &&
      decide (deductionIds = rubric.deductions.map (·.id)) &&
      (rubric.dimensions.zip scores).all (fun p => decide (0 ≤ p.2.toRat) &&
        decide (p.2.toRat ≤ p.1.maxScore.toRat) &&
        StructuredRubric.onGrid rubric.scoreStep.toRat p.2.toRat) &&
      decide ((scores.map (·.toRat)).sum = subtotal.toRat) &&
      decide (points.sum = deductionTotal.toRat) &&
      decide (max 0 (subtotal.toRat - deductionTotal.toRat) = finalScore.toRat) &&
      decide (maxScore.toRat = rubric.totalScore.toRat)) (.validation .totalsMismatch)
  ensure (!(s.exportType == .final && !(item.sourceType == .teacherConfirmed)))
    (.validation .finalUnconfirmed)

/-! ## Sheets -/

inductive SheetName where
  | summary | criteria | feedback | metadata
  deriving DecidableEq

/-- A value that is appended to a sheet. -/
inductive Cell where
  | int (n : Nat)
  | number (d : Decimal)
  | text (s : String)
  | flag (b : Bool)
  | blank
  deriving DecidableEq

/-- The sheets, and the numbers that are expected by sheet, row and column. -/
structure Sheets where
  rows : SheetName → List (List Cell)
  expectations : List ((SheetName × Nat × Nat) × Decimal)

/-- `append`, with the numbers of the new row, which is row `max_row + 1`. -/
def Sheets.append (w : Sheets) (name : SheetName) (row : List Cell) (numbers : List (Nat × Decimal)) :
    Sheets where
  rows := fun n => if n = name then w.rows n ++ [row] else w.rows n
  expectations := w.expectations ++ numbers.map fun x => ((name, (w.rows name).length + 1, x.1), x.2)

def statusLabel : ExportType → String
  | .final => "教师已确认"
  | .draft => "非最终成绩"

def exportTypeText : ExportType → String
  | .draft => "draft"
  | .final => "final"

def sourceText : SourceType → String
  | .aiSuggestion => "ai_suggestion"
  | .teacherDraft => "teacher_draft"
  | .teacherConfirmed => "teacher_confirmed"

def confirmationText : SourceType → String
  | .teacherConfirmed => "confirmed"
  | _ => "not_confirmed"

def summaryHeader : List String :=
  ["No.", "Original filename", "Paper status", "Result source", "Confirmation", "Subtotal",
    "Deductions", "Final score", "Max score", "Grade status"]

def criteriaHeader : List String :=
  ["No.", "Original filename", "row_type", "criterion_id", "criterion_name", "maximum_or_deduction",
    "score", "applied", "reason", "evidence_block_ids"]

def feedbackHeader : List String :=
  ["No.", "Original filename", "Overall feedback", "Revision suggestions", "Teacher change reason",
    "Result source"]

/-- The sheets with their headers. -/
def started : Sheets where
  rows
    | .summary => [[.text "导出状态", .text (statusLabel s.exportType)], summaryHeader.map .text]
    | .criteria => [criteriaHeader.map .text]
    | .feedback => [feedbackHeader.map .text]
    | .metadata => []
  expectations := []

/-- `_evidence_ids`. -/
def evidenceIds (result : ResultSnapshot) (targetType targetId : String) :
    Except WorkbookError String := do
  let ids ← (result.evidence.filter fun entry =>
    entry.targetType == some targetType && entry.targetId == some targetId).mapM fun entry =>
      text entry.blockId
  text ("; ".intercalate ids)

/-- The block ids of a row, or those of the result that name it. -/
def rowEvidence (result : ResultSnapshot) (targetType targetId : String)
    (evidence : List EvidenceEntry) : Except WorkbookError String := do
  let ids ← evidence.mapM fun entry => text entry.blockId
  let joined ← text ("; ".intercalate ids)
  if joined = "" then evidenceIds result targetType targetId else return joined

/-- A row of the criteria sheet for a dimension, and its suggestions. -/
def appendCriterion (item : WorkbookItem) (w : Sheets × List String) (row : CriterionRow) :
    Except WorkbookError (Sheets × List String) := do
  match s.rubric.rubric.dimensions.find? (·.id == row.dimensionId) with
  | none => .error .keyError
  | some dimension =>
    let ids ← rowEvidence item.result "dimension" row.dimensionId row.evidence
    let values ← row.revisionSuggestions.mapM text
    let score ← decimal row.score
    let filename ← text item.originalFilename
    let name ← text dimension.name
    let reason ← text row.reason
    return (w.1.append .criteria
        [.int (item.position + 1), .text filename, .text "dimension", .text row.dimensionId,
          .text name, .number dimension.maxScore, .number score, .blank, .text reason, .text ids]
        [(6, dimension.maxScore), (7, score)],
      w.2 ++ values.map fun value => row.dimensionId ++ ": " ++ value)

def appendDeduction (item : WorkbookItem) (w : Sheets) (row : DeductionRow) :
    Except WorkbookError Sheets := do
  match s.rubric.rubric.deductions.find? (·.id == row.deductionId) with
  | none => .error .keyError
  | some deduction =>
    let ids ← rowEvidence item.result "deduction" row.deductionId row.evidence
    let filename ← text item.originalFilename
    let name ← text deduction.name
    let reason ← text row.reason
    return w.append .criteria
      [.int (item.position + 1), .text filename, .text "deduction", .text row.deductionId,
        .text name, .number deduction.points, .blank, .flag row.applied, .text reason, .text ids]
      [(6, deduction.points)]

/-- The rows of an item in the first three sheets. -/
def appendItem (w : Sheets) (item : WorkbookItem) : Except WorkbookError Sheets := do
  validateResult s item
  let result := item.result
  let subtotal ← decimal result.subtotal
  let deductionTotal ← decimal result.deductionTotal
  let finalScore ← decimal result.finalScore
  let maxScore ← decimal result.maxScore
  let filename ← text item.originalFilename
  let status ← text result.itemStatus
  let w := w.append .summary
    [.int (item.position + 1), .text filename, .text status, .text (sourceText item.sourceType),
      .text (confirmationText item.sourceType), .number subtotal, .number deductionTotal,
      .number finalScore, .number maxScore, .text (statusLabel s.exportType)]
    [(6, subtotal), (7, deductionTotal), (8, finalScore), (9, maxScore)]
  let (w, suggestions) ← result.criteria.foldlM (appendCriterion s item) (w, [])
  let w ← result.deductions.foldlM (appendDeduction s item) w
  let feedback ← text result.overallFeedback
  let suggestions ← text ("\n".intercalate suggestions)
  let changeReason ← text (result.changeReason.getD "")
  return w.append .feedback
    [.int (item.position + 1), .text filename, .text feedback, .text suggestions, .text changeReason,
      .text (sourceText item.sourceType)] []

/-- `str(value or "")` of the revision of a review. -/
def revisionText : Option Nat → String
  | none | some 0 => ""
  | some n => toString n

/-- The values under `item.<n>`. -/
def itemMetadata (item : WorkbookItem) : List (String × String) :=
  [("attempt_id", uuidText item.attemptId), ("review_id", (item.reviewId.map uuidText).getD ""),
    ("review_revision", revisionText item.reviewRevision), ("source_type", sourceText item.sourceType),
    ("confirmed_at", item.result.confirmedAt.getD "")]

def itemKey (item : WorkbookItem) (key : String) : String :=
  "item." ++ toString (item.position + 1) ++ "." ++ key

def appendItemMetadata (w : Sheets) (item : WorkbookItem) : Except WorkbookError Sheets :=
  (itemMetadata item).foldlM (fun w x => do
    let value ← text x.2
    return w.append .metadata [.text (itemKey item x.1), .text value] []) w

/-- The metadata of the batch; the second component says whether the value goes through `_text`. -/
def batchRows (now : Time) : List (String × Bool × String) :=
  [("export_id", false, uuidText s.exportId), ("export_type", false, exportTypeText s.exportType),
    ("snapshot_at", false, env.isoformat s.snapshotAt), ("generated_at_utc", false, env.isoformat now),
    ("assignment_id", false, uuidText s.batch.assignmentId),
    ("grading_job_id", false, uuidText s.batch.gradingJobId),
    ("assignment_title", true, s.batch.assignmentTitle),
    ("rubric_version_id", false, uuidText s.batch.rubricVersionId),
    ("rubric_version", false, toString s.batch.rubricVersion.val),
    ("provider_config_id", false, uuidText s.batch.providerConfigId),
    ("provider_config_version", false, toString s.batch.providerConfigVersion.val),
    ("model", true, s.batch.model), ("prompt_version", true, s.batch.promptVersion),
    ("prompt_hash", true, s.batch.promptHash),
    ("model_parameters_hash", true, s.batch.modelParametersHash),
    ("workbook_schema_version", false, s.workbookSchemaVersion)]

def appendBatchRow (w : Sheets) (x : String × Bool × String) : Except WorkbookError Sheets := do
  let value ← if x.2.1 then text x.2.2 else pure x.2.2
  return w.append .metadata [.text x.1, .text value] []

/-- The workbook before it is saved. -/
def writeSheets (now : Time) : Except WorkbookError Sheets := do
  let w ← s.items.foldlM (appendItem s) (started s)
  let w := w.append .metadata [.text "Key", .text "Value"] []
  let w ← (batchRows s now).foldlM appendBatchRow w
  s.items.foldlM appendItemMetadata w

end

/-! ## The saved workbook -/

/-- The library: what a text cell holds, and what `_decimal` makes of a number or a text that is
read back. -/
structure Openpyxl where
  cellText : String → String
  readNumber : Decimal → Option Decimal
  readText : String → Option Decimal

/-- `check_string` cuts a text to the length that a cell can hold. -/
def Openpyxl.Truncates (lib : Openpyxl) : Prop :=
  ∀ s, lib.cellText s = String.ofList (s.toList.take maxCellText)

def saveCell (lib : Openpyxl) : Cell → Cell
  | .text s => .text (lib.cellText s)
  | c => c

def saveRows (lib : Openpyxl) (w : Sheets) (name : SheetName) : List (List Cell) :=
  (w.rows name).map (·.map (saveCell lib))

/-- `data_type == "f"`. -/
def isFormula : Cell → Bool
  | .text s => decide (1 < s.length) && s.toList.head? == some '='
  | _ => false

/-- `cell(row, column).value`, counted from one. -/
def cellAt (rows : List (List Cell)) (row column : Nat) : Option Cell :=
  (rows[row - 1]?).bind (·[column - 1]?)

/-- `_decimal` of what is read back. -/
def readCell (lib : Openpyxl) : Option Cell → Option Decimal
  | some (.int n) => some (.ofNat n)
  | some (.number d) => lib.readNumber d
  | some (.text s) => lib.readText s
  | _ => none

def sheetNames : List SheetName := [.summary, .criteria, .feedback, .metadata]

/-- The checks of the workbook that is opened again. -/
def checkSaved (lib : Openpyxl) (w : Sheets) : Except WorkbookError PUnit := do
  ensure (sheetNames.all fun name => (saveRows lib w name).all fun row => row.all fun c => !isFormula c)
    (.validation .formulaDetected)
  w.expectations.forM fun x =>
    match readCell lib (cellAt (saveRows lib w x.1.1) x.1.2.1 x.1.2.2) with
    | some actual => ensure (decide (actual.toRat = x.2.toRat)) (.validation .totalsMismatch)
    | none => .error (.validation .scoreInvalid)

/-- `build_export_workbook`, up to the bytes of the file and its name. -/
def buildExportWorkbook {env : Runtime} (lib : Openpyxl) (s : WorkbookSnapshot env) (now : Time) :
    Except WorkbookError Sheets := do
  let w ← writeSheets s now
  checkSaved lib w
  return w

end Workbook

end PaperGrading
