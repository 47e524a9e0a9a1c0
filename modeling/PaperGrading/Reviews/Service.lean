import PaperGrading.Grading.Validator
import PaperGrading.Store.Teacher

/-!
# The review service

`reviews/models.py` and `ReviewService._validate_payload`: what a browser may submit as a
review draft, the checks the service makes of it against the attempt and its rubric, and
the arguments the repository sends to `save_teacher_review_draft`.
-/

namespace PaperGrading

/-! ## Review drafts -/

/-- `ReviewDraftInput`. -/
structure ReviewDraftInput where
  attemptId : Uuid
  criteria : List ReviewCriterion
  deductions : List ReviewDeduction
  evidence : List ReviewEvidence
  overallFeedback : String
  changeReason : Option String
  deriving DecidableEq

def ReviewCriterion.accepts (env : Runtime) (c : ReviewCriterion) : Bool :=
  isContractId c.dimensionId && c.score.fits 10 4 && lengthBetween 1 10000 c.reason.length &&
    env.isEnglishNarrative c.reason && lengthBetween 1 50 c.revisionSuggestions.length &&
    c.revisionSuggestions.all fun s => !s.isEmpty && env.isEnglishNarrative s

def ReviewDeduction.accepts (env : Runtime) (d : ReviewDeduction) : Bool :=
  isContractId d.deductionId && lengthBetween 1 10000 d.reason.length &&
    env.isEnglishNarrative d.reason

def ReviewEvidence.accepts (env : Runtime) (e : ReviewEvidence) : Bool :=
  isContractId e.targetId && isBlockId e.blockId && lengthBetween 1 20000 e.quote.length &&
    env.notBlank e.quote

namespace ReviewDraftInput

/-- The validators that strip texts; a blank change reason becomes none. -/
def normalize (env : Runtime) (form : ReviewDraftInput) : ReviewDraftInput :=
  { form with
    criteria := form.criteria.map fun c =>
      { c with
        reason := env.strip c.reason
        revisionSuggestions := c.revisionSuggestions.map env.strip }
    deductions := form.deductions.map fun d => { d with reason := env.strip d.reason }
    overallFeedback := env.strip form.overallFeedback
    changeReason := (form.changeReason.map env.strip).filter fun s => !s.isEmpty }

/-- The checks on the stripped texts. -/
def accepts (env : Runtime) (p : ReviewDraftInput) : Bool :=
  lengthBetween 1 100 p.criteria.length && p.criteria.all (·.accepts env) &&
    lengthBetween 0 100 p.deductions.length && p.deductions.all (·.accepts env) &&
    lengthBetween 0 10000 p.evidence.length && p.evidence.all (·.accepts env) &&
    env.isEnglishNarrative p.overallFeedback && lengthBetween 1 20000 p.overallFeedback.length &&
    (p.changeReason.all fun s => lengthBetween 0 4000 s.length) &&
    decide (p.criteria.map (·.dimensionId)).Nodup && decide (p.deductions.map (·.deductionId)).Nodup

/-- `ReviewDraftInput.model_validate` of a form of the right shape. -/
def parse (env : Runtime) (form : ReviewDraftInput) : Option ReviewDraftInput :=
  if (form.normalize env).accepts env then some (form.normalize env) else none

/-- `grouped.get((target_type, target_id), ())`. -/
def grouped (p : ReviewDraftInput) (targetType : EvidenceTarget) (targetId : String) :
    List EvidenceQuote :=
  (p.evidence.filter fun e => e.targetType == targetType && e.targetId == targetId).map fun e =>
    ⟨e.blockId, e.quote⟩

/-- The entry names a score or deduction that the draft does not have. -/
def targetUnknown (p : ReviewDraftInput) (e : ReviewEvidence) : Bool :=
  match e.targetType with
  | .dimension => !(p.criteria.map (·.dimensionId)).contains e.targetId
  | .deduction => !(p.deductions.map (·.deductionId)).contains e.targetId

/-- The draft as a model answer; the score goes through `format(score, "f")`. -/
def gradeResult (p : ReviewDraftInput) : GradeResult where
  dimensions := p.criteria.map fun c =>
    { dimensionId := c.dimensionId
      score := c.score.reparsed
      reason := c.reason
      evidence := p.grouped .dimension c.dimensionId
      revisionSuggestions := c.revisionSuggestions }
  deductions := p.deductions.map fun d =>
    { deductionId := d.deductionId
      applied := d.applied
      reason := d.reason
      evidence := p.grouped .deduction d.deductionId }
  overallFeedback := p.overallFeedback

end ReviewDraftInput

/-! ## Review targets -/

/-- The fields of `ReviewAttemptView` that the service reads. -/
structure ReviewAttemptView where
  id : Uuid
  dimensions : List DimensionResult
  deductions : List DeductionResult
  overallFeedback : String
  deriving DecidableEq

/-- The attempt as a model answer. -/
def ReviewAttemptView.gradeResult (a : ReviewAttemptView) : GradeResult :=
  ⟨a.dimensions, a.deductions, a.overallFeedback⟩

/-- The view shows the result columns of the attempt. -/
def ReviewAttemptView.Shows (a : ReviewAttemptView) (row : AttemptResult) : Prop :=
  row.criteriaResults = some a.dimensions ∧ row.deductionResults = some a.deductions ∧
    row.overallFeedback = some a.overallFeedback

/-- `ReviewTarget`; its rubric is a validated model value. -/
structure ReviewTarget (env : Runtime) where
  itemStatus : ItemStatus
  assignmentId : Uuid
  assignmentTitle : String
  assignmentInstructions : String
  rubricVersionId : Uuid
  rubricVersion : Nat
  rubric : ValidRubric env
  submissionId : Uuid
  attempt : ReviewAttemptView

/-- The request the answer is checked against; `GradeRequest` strips the texts. -/
def ReviewTarget.gradeRequest {env : Runtime} (t : ReviewTarget env) (parsed : ParsedDocument) :
    GradeRequest where
  assignmentId := t.assignmentId
  assignmentTitle := env.strip t.assignmentTitle
  assignmentInstructions := env.strip t.assignmentInstructions
  rubricVersionId := t.rubricVersionId
  rubricVersion := t.rubricVersion
  rubric := t.rubric.rubric
  submissionId := t.submissionId
  document := parsed

/-! ## `_validate_payload` -/

inductive ReviewError where
  | state (message : String)
  | conflict (message : String)
  | validation (code message : String)
  /-- a `ValidationError` of the named pydantic model, which no handler turns into these -/
  | uncaught (model : String)
  deriving DecidableEq

/-- `f"review_{code.removeprefix('grade_')}"`. -/
def reviewCode (code : String) : String :=
  "review_" ++ if "grade_".toList.isPrefixOf code.toList then String.ofList (code.toList.drop 6) else code

/-- `ReviewDraftData`. -/
structure ReviewDraftData extends ReviewDraftInput where
  subtotal : Decimal
  deductionTotal : Decimal
  finalScore : Decimal
  deriving DecidableEq

/-- A draft with totals as the arguments of `save_teacher_review_draft`. -/
def ReviewDraftInput.payload (p : ReviewDraftInput) (subtotal deductionTotal finalScore : ℚ) :
    ReviewPayload where
  criteria := p.criteria
  deductions := p.deductions
  evidence := p.evidence
  feedback := p.overallFeedback
  changeReason := p.changeReason
  subtotal
  deductionTotal
  finalScore

/-- The arguments `_save` sends to the database. -/
def ReviewDraftData.payload (d : ReviewDraftData) : ReviewPayload :=
  d.toReviewDraftInput.payload d.subtotal.toRat d.deductionTotal.toRat d.finalScore.toRat

/-- An error of the validator as the service raises it. -/
def GradeError.review : GradeError → ReviewError
  | .validation e => .validation (reviewCode e.code) e.message
  | .uncaught model => .uncaught model

/-- `payload.change_reason` is required and missing. -/
def ReviewDraftInput.lacksReason (p : ReviewDraftInput) (original : GradeResult) : Bool :=
  p.gradeResult.toJs.canonicalJson != original.toJs.canonicalJson && p.changeReason.isNone

/-- The first model that refuses, of those that are built of the draft before the `GradeResult`. -/
def ReviewDraftInput.refusingModel (env : Runtime) (p : ReviewDraftInput) : String :=
  if !p.gradeResult.dimensions.all (·.accepts env) then "DimensionResult"
  else if !p.gradeResult.deductions.all (·.accepts env) then "DeductionResult"
  else "GradeResult"

/-- `ReviewService._validate_payload`. -/
def validatePayload (env : Runtime) (target : ReviewTarget env) (parsed : ParsedDocument)
    (payload : ReviewDraftInput) (requireEditable : Bool) : Except ReviewError ReviewDraftData := do
  ensure (!requireEditable || target.itemStatus == .needsReview) (.state "已确认复核不能修改")
  ensure (requireEditable || target.itemStatus == .needsReview || target.itemStatus == .completed)
    (.state "当前论文不能确认")
  ensure (payload.attemptId == target.attempt.id) (.conflict "复核草稿绑定的模型结果已经过期")
  ensure (payload.evidence.all fun e => !payload.targetUnknown e)
    (.validation "review_evidence_target_unknown" "教师证据引用了不存在的评分项")
  ensure (payload.gradeResult.accepts env) (.uncaught (payload.refusingModel env))
  ensure ((target.gradeRequest parsed).accepts env) (.uncaught "GradeRequest")
  let validated ←
    (validateGradeResponse env payload.gradeResult (target.gradeRequest parsed)).mapError
      GradeError.review
  ensure (target.attempt.gradeResult.accepts env) (.uncaught "GradeResult")
  ensure (!payload.lacksReason target.attempt.gradeResult)
    (.validation "review_change_reason_required" "修改 AI 结果时必须填写原因")
  return {
    payload with
    subtotal := validated.subtotal
    deductionTotal := validated.deductionTotal
    finalScore := validated.totalScore }

/-! ## The database's side -/

/-- What `save_teacher_review_draft` does with its payload: the arguments become `jsonb` and
`text`, the payload is validated, and the totals go into their columns. -/
def acceptReviewPayload (p : ReviewPayload) (rubric : StructuredRubric) (row : AttemptResult) :
    Except TxError ReviewPayload := do
  require (p.texts.all textOk) textError
  validateTeacherReviewPayload p rubric row
  Store.storedPayload p

end PaperGrading
