import PaperGrading.Base.Pool
import PaperGrading.Reviews.Uncaught

/-!
# The requests of the review workbench

`save_draft`, `confirm` and `confirm_batch` of `ReviewService` over `SqlAlchemyReviewRepository`.  A
request reads its item, fetches the text of the paper, checks what the teacher has submitted, and
only then writes; the repository reads the item again before it confirms.  Each read, and each
transaction from its first lock on, is one query of the request.
-/

namespace PaperGrading

/-! ## Views -/

/-- The errors of the review service and its repository. -/
inductive ReviewFailure where
  | notFound (message : String)
  | data (code message : String)
  | review (e : ReviewError)
  /-- a `DBAPIError` that is no conflict and no violation -/
  | database (e : TxError)
  /-- an exception of the object storage -/
  | storage (message : String)
  deriving DecidableEq

def reviewMissing : ReviewFailure := .notFound "复核任务不存在"

/-- `_REVIEW_CONFLICT_SQLSTATES`. -/
def reviewConflictSqlstates : List String := ["23503", "23505", "23P01", "40001"]

/-- `_raise_database_error`. -/
def databaseFailure : TxError → ReviewFailure
  | .database sqlstate message =>
    if sqlstate = "23514" then
      .review (.validation "review_database_validation_failed" "复核数据未通过数据库契约")
    else if reviewConflictSqlstates.contains sqlstate then .review (.conflict "复核状态已被并发修改")
    else .database (.database sqlstate message)
  | e => .database e

/-- `ReviewDraftView`. -/
structure ReviewDraftView extends ReviewDraftData where
  id : Uuid
  revisionNumber : Nat
  status : ReviewStatus
  confirmedAt : Option Time
  deriving DecidableEq

/-- What a `numeric(10,4)` column is read as. -/
def numericDecimal (x : ℚ) : Decimal := ⟨decide (x < 0), (x * 10 ^ 4).num.natAbs, -4⟩

/-- The columns of a review that a teacher submits. -/
def TeacherReview.form (r : TeacherReview) : ReviewDraftInput where
  attemptId := r.gradingAttemptId
  criteria := r.payload.criteria
  deductions := r.payload.deductions
  evidence := r.payload.evidence
  overallFeedback := r.payload.feedback
  changeReason := r.payload.changeReason

/-- A review as its owner sees it; the models of its criteria and deductions strip their texts. -/
def TeacherReview.view (env : Runtime) (r : TeacherReview) : ReviewDraftView :=
  { r.form with
    criteria := (r.form.normalize env).criteria
    deductions := (r.form.normalize env).deductions
    subtotal := numericDecimal r.payload.subtotal
    deductionTotal := numericDecimal r.payload.deductionTotal
    finalScore := numericDecimal r.payload.finalScore
    id := r.id
    revisionNumber := r.revisionNumber
    status := r.status
    confirmedAt := r.confirmedAt }

/-- `_draft_view`. -/
def draftView (env : Runtime) (r : TeacherReview) : Except ReviewFailure ReviewDraftView := do
  let view := r.view env
  ensure (view.criteria.all (·.accepts env)) (.data "review_criteria_invalid" "复核数据库快照无效")
  ensure (view.deductions.all (·.accepts env)) (.data "review_deductions_invalid" "复核数据库快照无效")
  ensure (view.evidence.all (·.accepts env)) (.data "review_evidence_invalid" "复核数据库快照无效")
  return view

def ReviewCriterion.toJs (c : ReviewCriterion) : Js :=
  .obj [("dimension_id", .str c.dimensionId), ("score", .str c.score.canonical),
    ("reason", .str c.reason), ("revision_suggestions", .arr (c.revisionSuggestions.map Js.str))]

def ReviewDeduction.toJs (d : ReviewDeduction) : Js :=
  .obj [("deduction_id", .str d.deductionId), ("applied", .bool d.applied), ("reason", .str d.reason)]

def EvidenceTarget.text : EvidenceTarget → String
  | .dimension => "dimension"
  | .deduction => "deduction"

def ReviewEvidence.toJs (e : ReviewEvidence) : Js :=
  .obj [("target_type", .str e.targetType.text), ("target_id", .str e.targetId),
    ("block_id", .str e.blockId), ("quote", .str e.quote)]

def ReviewDraftData.toJs (d : ReviewDraftData) : Js :=
  .obj [("attempt_id", .str (uuidText d.attemptId)),
    ("criteria", .arr (d.criteria.map ReviewCriterion.toJs)),
    ("deductions", .arr (d.deductions.map ReviewDeduction.toJs)),
    ("evidence", .arr (d.evidence.map ReviewEvidence.toJs)),
    ("overall_feedback", .str d.overallFeedback),
    ("change_reason", match d.changeReason with | none => .null | some reason => .str reason),
    ("subtotal", .str d.subtotal.canonical), ("deduction_total", .str d.deductionTotal.canonical),
    ("final_score", .str d.finalScore.canonical)]

/-- `ReviewService._matches`. -/
def ReviewDraftView.matches (draft : ReviewDraftView) (data : ReviewDraftData) : Bool :=
  draft.toReviewDraftData.toJs.canonicalJson == data.toJs.canonicalJson

/-! ## Reading an item -/

/-- The other fields of `ReviewTarget`. -/
structure LoadedTarget (env : Runtime) extends ReviewTarget env where
  jobId : Uuid
  submissionStatus : SubmissionStatus
  extractedObjectKey : Option String
  draft : Option ReviewDraftView

namespace Store

variable (env : Runtime) (s : Store)

/-- The joined rows of an item. -/
def targetRows (ownerId itemId : Uuid) :
    Option (GradingJobItem × GradingJob × Submission × RubricVersion) := do
  let item ← s.items.find? fun i => i.id == itemId && i.ownerId == ownerId
  let job ← s.jobs.find? fun j => j.id == item.gradingJobId && j.ownerId == item.ownerId
  let submission ← s.submissions.find? fun x => x.id == item.submissionId &&
    x.assignmentId == item.assignmentId && x.ownerId == item.ownerId
  let rubric ← s.rubrics.find? fun r => r.id == job.rubricVersionId &&
    r.assignmentId == job.assignmentId && r.ownerId == job.ownerId
  return (item, job, submission, rubric)

/-- The review of an attempt. -/
def reviewOf (ownerId : Uuid) (item : GradingJobItem) (attempt : GradingAttempt) : Option TeacherReview :=
  s.reviews.find? fun r => r.gradingAttemptId == attempt.id && r.gradingJobItemId == item.id &&
    r.ownerId == ownerId

/-- The result columns of a succeeded attempt, all of them set. -/
def attemptView (attempt : GradingAttempt) : Option ReviewAttemptView := do
  let dimensions ← attempt.criteriaResults
  let deductions ← attempt.deductionResults
  let overallFeedback ← attempt.overallFeedback
  guard (attempt.subtotal.isSome ∧ attempt.deductionTotal.isSome ∧ attempt.totalScore.isSome)
  return ⟨attempt.id, dimensions, deductions, overallFeedback⟩

def attemptInvalid : ReviewFailure := .data "review_attempt_invalid" "模型评分快照无效"

/-- `SqlAlchemyReviewRepository._load_target`; `teacher` is who the session reads as. -/
def loadTarget (teacher : Option Uuid) (itemId : Uuid) :
    Except ReviewFailure (Option (LoadedTarget env)) :=
  match teacher with
  | none => .ok none
  | some ownerId =>
    match s.targetRows ownerId itemId with
    | none => .ok none
    | some (item, job, submission, rubric) =>
      match s.latestSucceeded item.id ownerId item.dispatchVersion with
      | none => .ok none
      | some attempt =>
        match rubric.structuredRubric, attemptView attempt with
        | some structured, some view =>
          if h : structured.accepts env = true then do
            ensure (view.dimensions.all (·.accepts env) && view.deductions.all (·.accepts env))
              attemptInvalid
            ensure (view.accepts env) (.review (.uncaught "ReviewAttemptView"))
            let draft ← (s.reviewOf ownerId item attempt).mapM (draftView env)
            ensure (decide (0 < rubric.version)) (.review (.uncaught "ReviewTarget"))
            return some
              { itemStatus := item.status
                assignmentId := job.assignmentId
                assignmentTitle := job.assignmentTitleSnapshot
                assignmentInstructions := job.assignmentInstructionsSnapshot
                rubricVersionId := rubric.id
                rubricVersion := rubric.version
                rubric := ⟨structured, h⟩
                submissionId := submission.id
                attempt := view
                jobId := job.id
                submissionStatus := submission.status
                extractedObjectKey := submission.extractedObjectKey
                draft }
          else .error attemptInvalid
        | _, _ => .error attemptInvalid

end Store

/-! ## Writing -/

structure ReviewConfirmationRef where
  itemId : Uuid
  reviewId : Uuid
  revisionNumber : Nat
  deriving DecidableEq

structure ReviewConfirmationResult where
  reviews : List ReviewDraftView
  completedJobIds : List Uuid
  deriving DecidableEq

namespace Store

variable (env : Runtime) (s : Store)

/-- `_save`; the arguments become `jsonb` and `text` first. -/
def savePayload (teacher : Option Uuid) (itemId : Uuid) (data : ReviewDraftData) (freshId : RandomUuid)
    (now : Time) : Except ReviewFailure (Option Uuid × Store) :=
  (do
    require (data.payload.texts.all textOk) textError
    s.saveTeacherReviewDraft teacher itemId data.attemptId data.payload freshId now).mapError
      databaseFailure

def findReview (ownerId reviewId : Uuid) : Option TeacherReview :=
  s.reviews.find? fun r => r.id == reviewId && r.ownerId == ownerId

/-- The transaction of `save_draft`. -/
def saveReviewDraft (teacher : Option Uuid) (ownerId itemId : Uuid) (data : ReviewDraftData)
    (freshId : RandomUuid) (now : Time) : Except ReviewFailure (ReviewDraftView × Store) := do
  let (reviewId, s') ← s.savePayload teacher itemId data freshId now
  match reviewId with
  | none => .error (.review (.state "复核草稿状态已变化"))
  | some reviewId =>
    match s'.findReview ownerId reviewId with
    | none => .error reviewMissing
    | some review => do
      let view ← draftView env review
      return (view, s')

/-- `_confirm`. -/
def confirmPayload (teacher : Option Uuid) (refs : List (Uuid × Nat)) (now : Time) :
    Except ReviewFailure (Option (List Uuid) × Store) :=
  (s.confirmTeacherReviews teacher refs now).mapError databaseFailure

/-- The completed jobs of these reviews. -/
def completedJobIds (ownerId : Uuid) (rows : List TeacherReview) : List Uuid :=
  ((s.items.filter fun i => i.ownerId == ownerId && (rows.map (·.gradingJobItemId)).contains i.id
    ).filterMap fun i => do
      let job ← s.jobs.find? fun j => j.id == i.gradingJobId && j.ownerId == i.ownerId
      if job.status = .completed then some job.id else none).dedup.insertionSort (· ≤ ·)

/-- `_result`. -/
def confirmationResult (ownerId : Uuid) (refs : List (Uuid × Nat)) :
    Except ReviewFailure ReviewConfirmationResult := do
  let rows := s.reviews.filter fun r => r.ownerId == ownerId && refs.any (·.1 == r.id)
  ensure (rows.length == refs.length) reviewMissing
  let reviews ← refs.mapM fun ref =>
    match rows.find? (·.id == ref.1) with
    | some r => draftView env r
    | none => .error (.database (.runtimeError "KeyError"))
  return ⟨reviews, s.completedJobIds ownerId rows⟩

/-- `_confirm` and `_result`. -/
def confirmReviews (teacher : Option Uuid) (ownerId : Uuid) (refs : List (Uuid × Nat)) (now : Time) :
    Except ReviewFailure (Option ReviewConfirmationResult × Store) := do
  let (ids, s') ← s.confirmPayload teacher refs now
  match ids with
  | none => return (none, s')
  | some _ => do
    let result ← s'.confirmationResult env ownerId refs
    return (some result, s')

/-- The rest of `save_and_confirm` for an item that is not completed. -/
def saveAndConfirm (teacher : Option Uuid) (ownerId itemId : Uuid) (data : ReviewDraftData)
    (freshId : RandomUuid) (now : Time) :
    Except ReviewFailure (ReviewConfirmationResult × Store) := do
  let (reviewId, s₁) ← s.savePayload teacher itemId data freshId now
  match reviewId with
  | none => .error (.review (.conflict "复核草稿状态已经变化"))
  | some reviewId =>
    match s₁.findReview ownerId reviewId with
    | none => .error reviewMissing
    | some review => do
      let (result, s₂) ← s₁.confirmReviews env teacher ownerId [(review.id, review.revisionNumber)] now
      match result with
      | none => .error (.review (.conflict "复核确认状态已经变化"))
      | some result => return (result, s₂)

end Store

/-! ## The service -/

inductive ReviewQuery where
  | getTarget (ownerId itemId : Uuid)
  | getJson (key : String)
  | saveDraft (ownerId itemId : Uuid) (data : ReviewDraftData)
  /-- the read inside of `save_and_confirm` and `confirm_reviews` -/
  | loadTarget (ownerId itemId : Uuid)
  | saveAndConfirm (ownerId itemId : Uuid) (data : ReviewDraftData)
  | confirmReviews (ownerId : Uuid) (refs : List (Uuid × Nat))

def ReviewQuery.Answer (env : Runtime) : ReviewQuery → Type
  | .getTarget .. | .loadTarget .. => Except ReviewFailure (Option (LoadedTarget env))
  | .getJson _ => Except ReviewFailure ParsedDocument
  | .saveDraft .. => Except ReviewFailure ReviewDraftView
  | .saveAndConfirm .. => Except ReviewFailure ReviewConfirmationResult
  | .confirmReviews .. => Except ReviewFailure (Option ReviewConfirmationResult)

inductive ReviewResult where
  | saved (draft : ReviewDraftView)
  | confirmed (result : ReviewConfirmationResult)

abbrev ReviewDialogue (env : Runtime) : Type :=
  Dialogue ReviewQuery (ReviewQuery.Answer env) (Except ReviewFailure ReviewResult)

/-- A draft that the API has accepted. -/
def AcceptedDraft (env : Runtime) : Type :=
  { p : ReviewDraftInput // ∃ form, ReviewDraftInput.parse env form = some p }

namespace ReviewService

variable {env : Runtime}

def failing (e : ReviewFailure) : ReviewDialogue env := .done (.error e)

def conflict (message : String) : ReviewDialogue env := failing (.review (.conflict message))

/-- `ReviewService._load_target`. -/
def loadTarget (ownerId itemId : Uuid) (jobId : Option Uuid)
    (next : LoadedTarget env → ParsedDocument → ReviewDialogue env) : ReviewDialogue env :=
  .ask (.getTarget ownerId itemId) fun
    | .error e => failing e
    | .ok none => failing reviewMissing
    | .ok (some target) =>
      if jobId.any (· != target.jobId) then failing reviewMissing
      else if target.itemStatus ≠ .needsReview ∧ target.itemStatus ≠ .completed then
        failing (.review (.state "当前论文尚不能复核"))
      else
        match target.submissionStatus, target.extractedObjectKey with
        | .ready, some key => .ask (.getJson key) fun
          | .error e => failing e
          | .ok parsed => next target parsed
        | _, _ => failing (.data "review_submission_not_ready" "论文解析状态不是 ready")

def saveDraft (ownerId itemId : Uuid) (jobId : Option Uuid) (payload : ReviewDraftInput) :
    ReviewDialogue env :=
  loadTarget ownerId itemId jobId fun target parsed =>
    match validatePayload env target.toReviewTarget parsed payload true with
    | .error e => failing (.review e)
    | .ok data => .ask (.saveDraft ownerId itemId data) fun
      | .error e => failing e
      | .ok draft => .done (.ok (.saved draft))

/-- How a confirmation ends. -/
def confirmed (message : String) : Except ReviewFailure (Option ReviewConfirmationResult) → ReviewDialogue env
  | .error e => failing e
  | .ok none => conflict message
  | .ok (some result) => .done (.ok (.confirmed result))

/-- `SqlAlchemyReviewRepository.save_and_confirm`. -/
def saveAndConfirm (ownerId jobId itemId : Uuid) (data : ReviewDraftData) : ReviewDialogue env :=
  .ask (.loadTarget ownerId itemId) fun
    | .error e => failing e
    | .ok none => failing reviewMissing
    | .ok (some target) =>
      if target.jobId ≠ jobId then failing reviewMissing
      else
        match target.itemStatus, target.draft with
        | .completed, some draft =>
          .ask (.confirmReviews ownerId [(draft.id, draft.revisionNumber)]) (confirmed "复核确认状态已经变化")
        | _, _ => .ask (.saveAndConfirm ownerId itemId data) fun
          | .error e => failing e
          | .ok result => .done (.ok (.confirmed result))

def confirm (ownerId jobId itemId : Uuid) (payload : ReviewDraftInput) : ReviewDialogue env :=
  loadTarget ownerId itemId (some jobId) fun target parsed =>
    match validatePayload env target.toReviewTarget parsed payload false with
    | .error e => failing (.review e)
    | .ok data =>
      if target.itemStatus = .completed ∧
          ¬(target.draft.any fun draft => draft.status == .confirmed && draft.matches data) = true then
        conflict "论文已经用另一复核版本确认"
      else saveAndConfirm ownerId jobId itemId data

/-- The loop of `confirm_batch`. -/
def checkReferences (ownerId jobId : Uuid) (next : ReviewDialogue env) :
    List ReviewConfirmationRef → ReviewDialogue env
  | [] => next
  | reference :: rest => loadTarget ownerId reference.itemId (some jobId) fun target parsed =>
    match target.draft with
    | none => conflict "复核草稿版本已经变化"
    | some draft =>
      if draft.id ≠ reference.reviewId ∨ draft.revisionNumber ≠ reference.revisionNumber then
        conflict "复核草稿版本已经变化"
      else
        match draft.toReviewDraftInput.parse env with
        | none => failing (.review (.uncaught "ReviewDraftInput"))
        | some payload =>
          match validatePayload env target.toReviewTarget parsed payload false with
          | .error e => failing (.review e)
          | .ok validated =>
            if draft.matches validated = true then checkReferences ownerId jobId next rest
            else conflict "复核草稿内容已经变化"

/-- The loop of `SqlAlchemyReviewRepository.confirm_reviews`. -/
def recheckReferences (ownerId jobId : Uuid) (next : ReviewDialogue env) :
    List ReviewConfirmationRef → ReviewDialogue env
  | [] => next
  | reference :: rest => .ask (.loadTarget ownerId reference.itemId) fun
    | .error e => failing e
    | .ok none => failing reviewMissing
    | .ok (some target) =>
      if target.jobId = jobId ∧ (target.draft.any fun draft =>
          draft.id == reference.reviewId && draft.revisionNumber == reference.revisionNumber) = true then
        recheckReferences ownerId jobId next rest
      else failing reviewMissing

def confirmBatch (ownerId jobId : Uuid) (reviews : List ReviewConfirmationRef) : ReviewDialogue env :=
  if reviews = [] then failing (.review (.validation "review_batch_empty" "批量确认不能为空"))
  else
    checkReferences ownerId jobId
      (recheckReferences ownerId jobId
        (.ask (.confirmReviews ownerId (reviews.map fun r => (r.reviewId, r.revisionNumber)))
          (confirmed "批量复核状态已经变化")) reviews) reviews

end ReviewService

inductive ReviewRequest (env : Runtime) where
  | saveDraft (ownerId itemId : Uuid) (jobId : Option Uuid) (payload : AcceptedDraft env)
  | confirm (ownerId jobId itemId : Uuid) (payload : AcceptedDraft env)
  | confirmBatch (ownerId jobId : Uuid) (reviews : List ReviewConfirmationRef)

def ReviewRequest.dialogue {env : Runtime} : ReviewRequest env → ReviewDialogue env
  | .saveDraft ownerId itemId jobId payload => ReviewService.saveDraft ownerId itemId jobId payload.1
  | .confirm ownerId jobId itemId payload => ReviewService.confirm ownerId jobId itemId payload.1
  | .confirmBatch ownerId jobId reviews => ReviewService.confirmBatch ownerId jobId reviews

/-! ## The database and the object storage -/

/-- What settles an answer: whether the session's user is an active teacher, the text the storage
hands over, and the values the database draws. -/
structure ReviewTurnInput where
  active : Bool
  document : Except ReviewFailure ParsedDocument
  freshId : RandomUuid
  now : Time

/-- `current_active_teacher_id()`. -/
def ReviewTurnInput.teacher (input : ReviewTurnInput) (ownerId : Uuid) : Option Uuid :=
  if input.active then some ownerId else none

/-- A transaction that raises is rolled back. -/
def commit {α : Type} (s : Store) : Except ReviewFailure (α × Store) → Except ReviewFailure α × Store
  | .ok (a, s') => (.ok a, s')
  | .error e => (.error e, s)

def Store.answerReview (env : Runtime) (input : ReviewTurnInput) :
    Dialogue.Handler ReviewQuery (ReviewQuery.Answer env) Store
  | .getTarget ownerId itemId, s | .loadTarget ownerId itemId, s =>
    (s.loadTarget env (input.teacher ownerId) itemId, s)
  | .getJson _, s => (input.document, s)
  | .saveDraft ownerId itemId data, s => commit s
    (s.saveReviewDraft env (input.teacher ownerId) ownerId itemId data input.freshId input.now)
  | .saveAndConfirm ownerId itemId data, s => commit s
    (s.saveAndConfirm env (input.teacher ownerId) ownerId itemId data input.freshId input.now)
  | .confirmReviews ownerId refs, s => commit s
    (s.confirmReviews env (input.teacher ownerId) ownerId refs input.now)

/-- The requests, each with a number, over the grading tables. -/
abbrev ReviewPool (env : Runtime) : Type :=
  Pool Nat ReviewQuery (ReviewQuery.Answer env) (Except ReviewFailure ReviewResult) Store

abbrev ReviewTurn (env : Runtime) : Type := Pool.Turn Nat ReviewTurnInput (Action env)

namespace ReviewPool

variable {env : Runtime}

/-- One answer to a request, or any other transaction on the tables. -/
def step (w : ReviewPool env) (turn : ReviewTurn env) : ReviewPool env :=
  Pool.step (Store.answerReview env) (fun action s => Store.step env s action) w turn

def start (requests : Nat → ReviewRequest env) : ReviewPool env :=
  ⟨.empty, fun k => (requests k).dialogue⟩

def after (requests : Nat → ReviewRequest env) (turns : List (ReviewTurn env)) : ReviewPool env :=
  Runs.run step (start requests) turns

/-- What request `k` has been answered so far. -/
def heard (requests : Nat → ReviewRequest env) (turns : List (ReviewTurn env)) (k : Nat) :
    List ((q : ReviewQuery) × q.Answer env) :=
  Pool.transcript (Store.answerReview env) (fun action s => Store.step env s action) k (start requests)
    turns

end ReviewPool

end PaperGrading
