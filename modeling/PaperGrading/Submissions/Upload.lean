import PaperGrading.Store.System
import Mathlib.Logic.Function.Basic

/-!
# Uploads

`SubmissionService.upload_submission` of `submissions/service.py`, one phase for each point at
which it waits.  Any number of uploads interleave, of any contents to any assignments; every
call can return, raise or be cancelled, with or without an effect, and an upload can be lost
at any point (`crash`).  Writes and deletions take effect when they return.

All uploads of one content to one assignment share a submission, and with it the keys
of its objects.
-/

namespace PaperGrading

/-! ## Object keys -/

structure SubmissionObjectKeys where
  source : String
  extracted : String
  deriving DecidableEq

/-- `build_submission_object_keys`. -/
def buildSubmissionObjectKeys (ownerId assignmentId submissionId : Uuid) (mediaType : MediaType) :
    SubmissionObjectKeys :=
  let directory := "teachers/" ++ uuidText ownerId ++ "/assignments/" ++ uuidText assignmentId ++
    "/submissions/" ++ uuidText submissionId
  { source := directory ++ (match mediaType with
      | .pdf => "/source.pdf"
      | .docx => "/source.docx")
    extracted := directory ++ "/document-blocks.v1.json" }

/-! ## Requests -/

/-- The staged file of an upload, and the identifier drawn for it. -/
structure UploadRequest where
  ownerId : Uuid
  assignmentId : Uuid
  submissionId : Uuid
  originalFilename : String
  mediaType : MediaType
  content : Bytes
  deriving DecidableEq

namespace UploadRequest

/-- The keys of the objects of a submission of this upload. -/
def keys (q : UploadRequest) (id : Uuid) : SubmissionObjectKeys :=
  buildSubmissionObjectKeys q.ownerId q.assignmentId id q.mediaType

/-- What `reserve_submission` is asked for. -/
def reservation (env : Runtime) (q : UploadRequest) : SubmissionReservationRequest where
  id := q.submissionId
  assignmentId := q.assignmentId
  originalFilename := q.originalFilename
  mediaType := q.mediaType
  fileSizeBytes := q.content.length
  contentSha256 := env.sha256 q.content
  sourceObjectKey := (q.keys q.submissionId).source

end UploadRequest

/-! ## Phases -/

/-- Where an upload stands; each phase but the last is about to make one call. -/
inductive UploadPhase where
  | waiting
  /-- a failed submission is set back to `uploaded` -/
  | resetting (id : Uuid)
  /-- the source file is stored -/
  | storing (id : Uuid)
  /-- the submission is set to `parsing` -/
  | starting (id : Uuid)
  | parsing (id : Uuid)
  /-- the extracted text is stored -/
  | extracting (id : Uuid) (text : Bytes)
  /-- the submission is set to `ready` -/
  | finishing (id : Uuid)
  /-- `_mark_failed`, inside the `try` of the extracted text or before it -/
  | marking (id : Uuid) (errorCode : String) (extracted : Bool)
  /-- `_delete_after_failure`, of an error or of a cancellation -/
  | deleting (id : Uuid) (cancelled : Bool)
  /-- `_mark_cancelled` -/
  | cancelling (id : Uuid)
  | done
  deriving DecidableEq

/-- What comes of a call: it returns, or an exception or a cancellation comes out of it, with or
without an effect. -/
inductive CallOutcome where
  | returned
  | raised (applied : Bool)
  | cancelled (applied : Bool)
  deriving DecidableEq

namespace CallOutcome

def applied : CallOutcome → Bool
  | .returned => true
  | .raised applied | .cancelled applied => applied

def isCancelled : CallOutcome → Bool
  | .cancelled _ => true
  | _ => false

end CallOutcome

/-- The errors of a write after which the submission is marked as failed. -/
inductive WriteRefusal where
  /-- `QuotaExceededError`, `QuotaUnavailableError` -/
  | quota (code : String)
  /-- `SupabaseStorageError` -/
  | storage
  deriving DecidableEq

def WriteRefusal.code (storageCode : String) : WriteRefusal → String
  | .quota code => code
  | .storage => storageCode

inductive WriteOutcome where
  | refused (refusal : WriteRefusal) (applied : Bool)
  | call (outcome : CallOutcome)
  deriving DecidableEq

def WriteOutcome.applied : WriteOutcome → Bool
  | .refused _ applied => applied
  | .call outcome => outcome.applied

inductive ParseOutcome where
  | parsed (text : Bytes)
  /-- `DocumentParseError` -/
  | rejected (code : String)
  | raised
  | cancelled
  deriving DecidableEq

namespace UploadPhase

/-- The transition that a phase asks for. -/
def target (q : UploadRequest) : UploadPhase → Option (Uuid × SubmissionTarget)
  | .resetting id => some (id, .uploaded)
  | .starting id => some (id, .parsing)
  | .finishing id => some (id, .ready (q.keys id).extracted)
  | .marking id errorCode _ => some (id, .failed errorCode)
  | .cancelling id => some (id, .failed "processing_cancelled")
  | _ => none

/-- The phase after a transition that moved the submission, or did not, or was cancelled. -/
def afterTransition (moved cancelled : Bool) : UploadPhase → UploadPhase
  | .resetting id => if moved then .storing id else .done
  | .starting id => if cancelled then .cancelling id else if moved then .parsing id else .done
  | .finishing id => if moved then .done else .deleting id cancelled
  | .marking id _ extracted =>
    if extracted then .deleting id cancelled else if cancelled then .cancelling id else .done
  | _ => .done

/-- The object that a phase writes. -/
def written (q : UploadRequest) : UploadPhase → Option (String × Bytes)
  | .storing id => some ((q.keys id).source, q.content)
  | .extracting id text => some ((q.keys id).extracted, text)
  | _ => none

/-- The phase after a write. -/
def afterWrite (outcome : WriteOutcome) : UploadPhase → UploadPhase
  | .storing id =>
    match outcome with
    | .refused refusal _ => .marking id (refusal.code "storage_source_failed") false
    | .call .returned => .starting id
    | .call (.raised _) => .done
    | .call (.cancelled _) => .cancelling id
  | .extracting id _ =>
    match outcome with
    | .refused refusal _ => .marking id (refusal.code "storage_extracted_failed") true
    | .call .returned => .finishing id
    | .call (.raised _) => .deleting id false
    | .call (.cancelled _) => .deleting id true
  | p => p

def afterParse (outcome : ParseOutcome) : UploadPhase → UploadPhase
  | .parsing id =>
    match outcome with
    | .parsed text => .extracting id text
    | .rejected code => .marking id code false
    | .raised => .done
    | .cancelled => .cancelling id
  | p => p

end UploadPhase

/-! ## The machine -/

structure UploadWorld where
  db : Store
  objects : String → Option Bytes
  phase : Nat → UploadPhase

inductive UploadEvent where
  /-- `reserve_submission` and `_resolve_reservation` up to its transition -/
  | reserve (upload : Nat) (outcome : CallOutcome)
  | transition (upload : Nat) (outcome : CallOutcome)
  | write (upload : Nat) (outcome : WriteOutcome)
  | parse (upload : Nat) (outcome : ParseOutcome)
  | delete (upload : Nat) (outcome : CallOutcome)
  | crash (upload : Nat)
  /-- any other transactions: they leave the submissions alone -/
  | elsewhere (db : Store)
  deriving DecidableEq

namespace UploadEvent

/-- The upload that takes a step. -/
def upload : UploadEvent → Option Nat
  | .reserve u _ | .transition u _ | .write u _ | .parse u _ | .delete u _ | .crash u => some u
  | .elsewhere _ => none

end UploadEvent

namespace UploadWorld

def setPhase (w : UploadWorld) (u : Nat) (p : UploadPhase) : UploadWorld :=
  { w with phase := Function.update w.phase u p }

/-- `_resolve_reservation` on the row that the reservation found. -/
def resolve (state : ReservationState) (row : Option Submission) : UploadPhase :=
  match state, row with
  | .created, some x => .storing x.id
  | .duplicate, some x => if x.status = .failed then .resetting x.id else .done
  | _, _ => .done

/-- The row of a content in an assignment. -/
def submissionOf (s : Store) (ownerId assignmentId : Uuid) (contentSha256 : Hash) :
    Option Submission :=
  s.submissions.find? fun x => x.assignmentId == assignmentId && x.ownerId == ownerId &&
    x.contentSha256 == contentSha256

def reserve (env : Runtime) (q : UploadRequest) (u : Nat) (outcome : CallOutcome)
    (w : UploadWorld) : UploadWorld :=
  match w.phase u with
  | .waiting =>
    match w.db.reserveSubmission q.ownerId (q.reservation env) with
    | .error _ => w.setPhase u .done
    | .ok (state, db) =>
      let next := resolve state (submissionOf db q.ownerId q.assignmentId (env.sha256 q.content))
      { w.setPhase u (if outcome = .returned then next else .done) with
        db := if outcome.applied then db else w.db }
  | _ => w

def transition (q : UploadRequest) (u : Nat) (outcome : CallOutcome) (w : UploadWorld) :
    UploadWorld :=
  match (w.phase u).target q with
  | none => w
  | some (id, target) =>
    match w.db.transitionSubmission (some q.ownerId) id target with
    | .ok (some _, db) =>
      { w.setPhase u ((w.phase u).afterTransition (decide (outcome = .returned))
          outcome.isCancelled) with
        db := if outcome.applied then db else w.db }
    | _ => w.setPhase u ((w.phase u).afterTransition false outcome.isCancelled)

def write (q : UploadRequest) (u : Nat) (outcome : WriteOutcome) (w : UploadWorld) : UploadWorld :=
  match (w.phase u).written q with
  | none => w
  | some (key, content) =>
    { w.setPhase u ((w.phase u).afterWrite outcome) with
      objects := if outcome.applied then Function.update w.objects key (some content)
        else w.objects }

def parse (u : Nat) (outcome : ParseOutcome) (w : UploadWorld) : UploadWorld :=
  w.setPhase u ((w.phase u).afterParse outcome)

def delete (q : UploadRequest) (u : Nat) (outcome : CallOutcome) (w : UploadWorld) : UploadWorld :=
  match w.phase u with
  | .deleting id cancelled =>
    { w.setPhase u (if cancelled || outcome.isCancelled then .cancelling id else .done) with
      objects := if outcome.applied then Function.update w.objects (q.keys id).extracted none
        else w.objects }
  | _ => w

def step (env : Runtime) (uploads : Nat → UploadRequest) (w : UploadWorld) :
    UploadEvent → UploadWorld
  | .reserve u outcome => w.reserve env (uploads u) u outcome
  | .transition u outcome => w.transition (uploads u) u outcome
  | .write u outcome => w.write (uploads u) u outcome
  | .parse u outcome => w.parse u outcome
  | .delete u outcome => w.delete (uploads u) u outcome
  | .crash u => w.setPhase u .done
  | .elsewhere db => { w with db := { db with submissions := w.db.submissions } }

/-- Before the first upload. -/
def start : UploadWorld := ⟨.empty, fun _ => none, fun _ => .waiting⟩

/-- The world after a run of events. -/
def after (env : Runtime) (uploads : Nat → UploadRequest) (es : List UploadEvent) : UploadWorld :=
  Runs.run (step env uploads) start es

/-- What a ready submission needs: its extracted text, where the row says it is. -/
def ReadyPresent (w : UploadWorld) : Prop :=
  ∀ x ∈ w.db.submissions, x.status = .ready →
    ∃ key, x.extractedObjectKey = some key ∧ (w.objects key).isSome = true

/-- A deletion that takes effect finds the submission not ready, and no other upload between
its write of the extracted text and the transition to `ready`. -/
def SafeDelete (w : UploadWorld) : UploadEvent → Prop
  | .delete u outcome => ∀ id cancelled, w.phase u = .deleting id cancelled →
      outcome.applied = true →
      (∀ x ∈ w.db.submissions, x.id = id → x.status ≠ .ready) ∧
        ∀ u', w.phase u' ≠ .finishing id
  | _ => True

end UploadWorld

end PaperGrading
