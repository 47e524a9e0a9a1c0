import PaperGrading.Export.Functions
import Mathlib.Logic.Function.Basic

/-!
# The export worker

`ExportRunner` of `export/tasks.py`, one phase for each point at which it waits: the claim,
the upload of the workbook to the key of its export, the completion in the database, and
after a refused completion the failure and the deletion of what was uploaded.  Any number of
deliveries of one export interleave, and between two of their steps any other transaction
may be committed.  A delivery can stop anywhere (`crash`), and every request can take effect
without an answer.

The workbook builder is a parameter: a function of the frozen rows and the first start.
-/

namespace PaperGrading

/-! ## Workbooks -/

/-- `WorkbookArtifact`; its hash and size are those of the content. -/
structure WorkbookArtifact where
  content : Bytes
  safeFilename : String
  deriving DecidableEq

/-- What the builder reads: the frozen export, its items and the start of the generation. -/
structure FrozenExport where
  identity : ExportIdentity
  items : List FrozenItem
  generationStartedAt : Time
  deriving DecidableEq

/-- `workbook_snapshot_from_frozen` and `build_export_workbook`; a refusal carries the code of
its `WorkbookValidationError`. -/
abbrev WorkbookBuilder := FrozenExport → Except String WorkbookArtifact

/-- `EXPORT_LEASE_SECONDS`. -/
def exportLeaseSeconds : Nat := 600

/-- `MAX_EXPORT_BYTES`. -/
def maxExportBytes : Nat := 50 * 1024 * 1024

/-- What `complete` reports of an artifact. -/
def WorkbookArtifact.file (env : Runtime) (a : WorkbookArtifact) (id : Uuid) : ExportStore.ExportFile :=
  ⟨exportObjectKey id, a.safeFilename, a.content.length, env.sha256 a.content⟩

/-! ## Phases -/

/-- Where a delivery stands. -/
inductive RunnerPhase where
  | waiting
  /-- claimed, before the upload -/
  | building (token : Uuid) (frozen : FrozenExport)
  /-- uploaded, before the completion -/
  | uploaded (token : Uuid) (artifact : WorkbookArtifact) (created : Bool)
  /-- the completion was refused -/
  | refused (token : Uuid) (artifact : WorkbookArtifact) (created : Bool)
  /-- failed with the object to be cleaned up, before it is compared -/
  | cleanup (artifact : WorkbookArtifact)
  /-- before the object is deleted -/
  | deleting
  /-- an exception handler is about to fail the export -/
  | failing (token : Uuid) (errorCode : String)
  | done
  deriving DecidableEq

/-- The token a delivery holds. -/
def RunnerPhase.token? : RunnerPhase → Option Uuid
  | .building token _ | .uploaded token _ _ | .refused token _ _ | .failing token _ => some token
  | _ => none

/-- The answer to an upload or a deletion: it took effect and the worker knows, or the request
failed, with or without an effect. -/
inductive RequestOutcome where
  | answered
  | lost (applied : Bool)
  deriving DecidableEq

structure RunnerWorld where
  db : ExportStore
  /-- the object at the key of the export -/
  object : Option Bytes
  phase : Nat → RunnerPhase
  /-- how many claims were granted -/
  claims : Nat

inductive RunnerEvent (env : Runtime) where
  /-- `_claim`, by `run` or by `fail_timed_out`; the answer may be lost -/
  | claim (delivery : Nat) (token : Uuid) (timedOut answered : Bool) (now : Time)
  /-- the builder and `put_file_once` -/
  | upload (delivery : Nat) (outcome : RequestOutcome)
  /-- an `OSError` before the upload, or without an effect from `complete` or the `fail` after it -/
  | osError (delivery : Nat)
  | complete (delivery : Nat) (answered : Bool) (now : Time)
  /-- `fail`, after a refused completion or in an exception handler -/
  | fail (delivery : Nat) (answered : Bool) (now : Time)
  /-- the comparison of `delete_if_sha256` -/
  | compare (delivery : Nat)
  | delete (delivery : Nat) (applied : Bool)
  | crash (delivery : Nat)
  | elsewhere (action : ExportAction env)

namespace RunnerWorld

variable {env : Runtime}

def setPhase (w : RunnerWorld) (delivery : Nat) (p : RunnerPhase) : RunnerWorld :=
  { w with phase := Function.update w.phase delivery p }

/-- The rows a claim returns to the worker. -/
def frozenExport (s : ExportStore) (e : Export) : Option FrozenExport :=
  e.startedAt.map (⟨e.toExportIdentity, (s.itemsOf e.id).map (·.toFrozenItem), ·⟩)

/-- The next phase of a delivery whose claim was granted. -/
def claimedPhase (s : ExportStore) (e : Export) (token : Uuid) (timedOut : Bool) : RunnerPhase :=
  if timedOut then .failing token "export_workbook_timeout"
  else
    match frozenExport s e with
    | some frozen => .building token frozen
    | none => .done

def claim (id : Uuid) (delivery : Nat) (token : Uuid) (timedOut answered : Bool) (now : Time)
    (w : RunnerWorld) : RunnerWorld :=
  match w.phase delivery with
  | .waiting =>
    match w.db.claimExport id token exportLeaseSeconds now with
    | .error _ => w.setPhase delivery .done
    | .ok (none, db) => { w.setPhase delivery .done with db }
    | .ok (some e, db) =>
      let phase := if answered then claimedPhase db e token timedOut else .done
      { w.setPhase delivery phase with db, claims := w.claims + 1 }
  | _ => w

/-- The object after a request that creates it only if there is none. -/
def putOnce (w : RunnerWorld) (content : Bytes) : Option Bytes := w.object.or (some content)

def upload (env : Runtime) (build : WorkbookBuilder) (delivery : Nat) (outcome : RequestOutcome)
    (w : RunnerWorld) : RunnerWorld :=
  match w.phase delivery with
  | .building token frozen =>
    match build frozen with
    | .error code => w.setPhase delivery (.failing token code)
    | .ok artifact =>
      if lengthBetween 1 maxExportBytes artifact.content.length = false then
        w.setPhase delivery (.failing token "export_storage_failed")
      else
        match outcome, w.object with
        | .lost applied, _ =>
          { w.setPhase delivery (.failing token "export_storage_failed") with
            object := if applied then w.putOnce artifact.content else w.object }
        | .answered, none =>
          { w.setPhase delivery (.uploaded token artifact true) with
            object := some artifact.content }
        | .answered, some existing =>
          if existing.length ≤ maxExportBytes ∧ env.sha256 existing = env.sha256 artifact.content then
            w.setPhase delivery (.uploaded token artifact false)
          else w.setPhase delivery (.failing token "export_storage_failed")
  | _ => w

def osError (delivery : Nat) (w : RunnerWorld) : RunnerWorld :=
  match w.phase delivery with
  | .building token _ | .uploaded token _ _ | .refused token _ _ =>
    w.setPhase delivery (.failing token "export_workbook_failed")
  | _ => w

def complete (env : Runtime) (id : Uuid) (delivery : Nat) (answered : Bool) (now : Time)
    (w : RunnerWorld) : RunnerWorld :=
  match w.phase delivery with
  | .uploaded token artifact created =>
    match w.db.completeExport id token (artifact.file env id) now with
    | .error _ => w.setPhase delivery (.failing token "export_workbook_failed")
    | .ok (r, db) =>
      let phase :=
        if answered then if r.isSome then .done else .refused token artifact created
        else .failing token "export_workbook_failed"
      { w.setPhase delivery phase with db }
  | _ => w

def fail (id : Uuid) (delivery : Nat) (answered : Bool) (now : Time) (w : RunnerWorld) :
    RunnerWorld :=
  match w.phase delivery with
  | .refused token artifact created =>
    match w.db.failExport id token "export_completion_failed" now with
    | .error _ => w.setPhase delivery (.failing token "export_workbook_failed")
    | .ok (r, db) =>
      let phase :=
        if answered then if created && r.isSome then .cleanup artifact else .done
        else .failing token "export_workbook_failed"
      { w.setPhase delivery phase with db }
  | .failing token errorCode =>
    match w.db.failExport id token errorCode now with
    | .error _ => w.setPhase delivery .done
    | .ok (_, db) => { w.setPhase delivery .done with db }
  | _ => w

def compare (env : Runtime) (delivery : Nat) (w : RunnerWorld) : RunnerWorld :=
  match w.phase delivery with
  | .cleanup artifact =>
    match w.object with
    | none => w.setPhase delivery .done
    | some content =>
      if content.length ≤ maxExportBytes ∧ env.sha256 content = env.sha256 artifact.content then
        w.setPhase delivery .deleting
      else w.setPhase delivery .done
  | _ => w

def delete (delivery : Nat) (applied : Bool) (w : RunnerWorld) : RunnerWorld :=
  match w.phase delivery with
  | .deleting => { w.setPhase delivery .done with object := if applied then none else w.object }
  | _ => w

def step (env : Runtime) (build : WorkbookBuilder) (id : Uuid) (w : RunnerWorld) :
    RunnerEvent env → RunnerWorld
  | .claim delivery token timedOut answered now => w.claim id delivery token timedOut answered now
  | .upload delivery outcome => w.upload env build delivery outcome
  | .osError delivery => w.osError delivery
  | .complete delivery answered now => w.complete env id delivery answered now
  | .fail delivery answered now => w.fail id delivery answered now
  | .compare delivery => w.compare env delivery
  | .delete delivery applied => w.delete delivery applied
  | .crash delivery => w.setPhase delivery .done
  | .elsewhere action => { w with db := ExportStore.step env w.db action }

/-- Before anything: no rows, no object, every delivery still to come. -/
def start : RunnerWorld := ⟨.empty, none, fun _ => .waiting, 0⟩

end RunnerWorld

/-- The action is no worker transaction on the export. -/
def ExportAction.sparesExport {env : Runtime} (id : Uuid) : ExportAction env → Prop
  | .claimExport x _ _ _ | .completeExport x _ _ _ | .failExport x _ _ _ => x ≠ id
  | _ => True

/-- Only the deliveries work on the export. -/
def RunnerEvent.sparesExport {env : Runtime} (id : Uuid) : RunnerEvent env → Prop
  | .elsewhere action => action.sparesExport id
  | _ => True

end PaperGrading
