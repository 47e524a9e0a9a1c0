import PaperGrading.Maintenance.RetentionRows

/-!
# Retention runs

`RetentionService.run_once` is four transactions and a request to the object storage; any
number of runs interleave with each other, with crashes, with operators who switch policies
and place holds, and with the rest of the system, which changes the source records.  A
revalidation locks its row, then reads the policy, then the source record.

    the cases of a step, for the run that takes it and for the table            (step_move)
-/

namespace PaperGrading

structure RetentionCandidate where
  id : Uuid
  objectClass : RetentionObjectClass
  objectKey : String
  eligibleAt : Time
  deriving DecidableEq

inductive RetentionRunStatus where
  | disabled | deleted | alreadyMissing | storageTimeout | closeFailed | leaseLost | invalidated
  | idle
  deriving DecidableEq

/-- What a revalidation has read: the row it locked, the policy, the records. -/
structure RetentionFinding where
  row : RetentionObject
  now : Time
  policyEnabled : Option Bool
  store : Store

/-- `current_object` passes every test of `revalidate_retention_object`. -/
def RetentionFinding.eligible (f : RetentionFinding) : Bool :=
  f.policyEnabled == some true && decide (f.row.eligibleAt ≤ f.now) && !f.row.onHold f.now &&
    f.row.referenced f.store

inductive RetentionPhase where
  | started
  | claimed (candidate : RetentionCandidate)
  /-- inside the revalidation, the row locked -/
  | rowLocked (candidate : RetentionCandidate) (row : RetentionObject) (now : Time)
  | policyRead (candidate : RetentionCandidate) (row : RetentionObject) (now : Time)
    (policyEnabled : Option Bool)
  | eligible (candidate : RetentionCandidate)
  | deleting (candidate : RetentionCandidate)
  | answered (candidate : RetentionCandidate) (result : StorageDeleteResult)
  | timedOut (candidate : RetentionCandidate)
  | finished (status : RetentionRunStatus)
  /-- an exception, or the process ended -/
  | crashed

/-- A run, with what its revalidation found and what its delete reported. -/
structure RetentionRun where
  token : Uuid
  phase : RetentionPhase
  finding : Option RetentionFinding
  /-- the key of the delete request it sent -/
  sent : Option String
  answer : Option StorageDeleteResult

/-- An object that a delete request removed. -/
structure RetentionDeletion where
  run : Nat
  objectKey : String
  deriving DecidableEq

structure RetentionWorld where
  objects : List RetentionObject
  policies : RetentionObjectClass → Option Bool
  store : Store
  /-- the keys in the object storage -/
  stored : List String
  runs : List RetentionRun
  deletions : List RetentionDeletion

inductive StorageAnswer where
  | result (r : StorageDeleteResult)
  | timeout
  /-- any other error, which nothing handles -/
  | error

/-- What a run hears of its closing transaction. -/
inductive CloseAnswer where
  | committed
  /-- committed, but the answer is lost -/
  | lost
  | aborted
  deriving DecidableEq

inductive RetentionEvent where
  /-- `run_once` is called; `automatic_delete` is false by default -/
  | start (token : Uuid) (automaticDelete : Bool)
  | claim (k : Nat) (now : Time) (enabled : RetentionObjectClass → Option Bool)
    (skip : Uuid → Bool)
  | lockRow (k : Nat) (now : Time)
  | readPolicy (k : Nat)
  | readSource (k : Nat)
  | sendDelete (k : Nat)
  /-- the storage carries out a request, at any time after it was sent -/
  | applyDelete (k : Nat)
  | answerDelete (k : Nat) (answer : StorageAnswer)
  | complete (k : Nat) (now : Time) (close : CloseAnswer)
  | fail (k : Nat) (now : Time) (close : CloseAnswer)
  | crash (k : Nat)
  | setPolicy (category : RetentionObjectClass) (enabled : Bool)
  | setHold (id : Uuid) (hold : Option (Time × String))
  | addCandidate (row : RetentionObject)
  | changeStore (store : Store)

/-- The run that takes the step. -/
def RetentionEvent.runOf : RetentionEvent → Option Nat
  | .claim k .. | .lockRow k .. | .readPolicy k | .readSource k | .sendDelete k | .applyDelete k
  | .answerDelete k .. | .complete k .. | .fail k .. | .crash k => some k
  | .start .. | .setPolicy .. | .setHold .. | .addCandidate .. | .changeStore .. => none

def retentionLeaseSeconds : Nat := 120

namespace RetentionPhase

/-- The row a run holds the lock of. -/
def lockedId : RetentionPhase → Option Uuid
  | .rowLocked _ row _ | .policyRead _ row _ _ => some row.id
  | _ => none

def isOver : RetentionPhase → Bool
  | .finished _ | .crashed => true
  | _ => false

end RetentionPhase

namespace RetentionWorld

def setRun (k : Nat) (q : RetentionRun) (w : RetentionWorld) : RetentionWorld :=
  { w with runs := w.runs.set k q }

/-- Some run holds the lock of the row. -/
def isLocked (w : RetentionWorld) (id : Uuid) : Bool :=
  w.runs.any fun q => q.phase.lockedId == some id

def candidateOf (r : RetentionObject) : RetentionCandidate :=
  ⟨r.id, r.category, r.objectKey, r.eligibleAt⟩

/-! ## The steps of a run -/

def claim (k : Nat) (q : RetentionRun) (now : Time)
    (enabled : RetentionObjectClass → Option Bool) (skip : Uuid → Bool) (w : RetentionWorld) :
    RetentionWorld :=
  match claimNextRetentionObject enabled (fun id => skip id || w.isLocked id) q.token
      retentionLeaseSeconds now w.objects with
  | none => w.setRun k { q with phase := .finished .idle }
  | some (r, objects) =>
    { w with objects }.setRun k { q with phase := .claimed (candidateOf r) }

/-- The first statement of `revalidate_retention_object`; it waits for the lock. -/
def lockRow (k : Nat) (q : RetentionRun) (c : RetentionCandidate) (now : Time)
    (w : RetentionWorld) : RetentionWorld :=
  if w.isLocked c.id then w
  else match w.objects.find? (·.id == c.id) with
    | none => w.setRun k { q with phase := .finished .leaseLost }
    | some row =>
      if row.holds q.token now then w.setRun k { q with phase := .rowLocked c row now }
      else w.setRun k { q with phase := .finished .leaseLost }

/-- The last statements of `revalidate_retention_object`. -/
def readSource (k : Nat) (q : RetentionRun) (c : RetentionCandidate) (f : RetentionFinding)
    (w : RetentionWorld) : RetentionWorld :=
  if f.eligible then w.setRun k { q with phase := .eligible c, finding := some f }
  else
    { w with
      objects := updateObject f.row.id (fun _ => true) RetentionObject.invalidated
        w.objects }.setRun k { q with phase := .finished .invalidated }

def answerDelete (k : Nat) (q : RetentionRun) (c : RetentionCandidate) (w : RetentionWorld) :
    StorageAnswer → RetentionWorld
  | .result r => w.setRun k { q with phase := .answered c r, answer := some r }
  | .timeout => w.setRun k { q with phase := .timedOut c }
  | .error => w.setRun k { q with phase := .crashed }

def complete (k : Nat) (q : RetentionRun) (c : RetentionCandidate) (result : StorageDeleteResult)
    (now : Time) (close : CloseAnswer) (w : RetentionWorld) : RetentionWorld :=
  if close = .aborted then w.setRun k { q with phase := .finished .closeFailed }
  else if w.isLocked c.id then w
  else
    let (done, objects) := completeRetentionObject c.id q.token result now w.objects
    let status :=
      if close = .lost then .closeFailed
      else if !done then .leaseLost
      else match result with
        | .deleted => .deleted
        | .missing => .alreadyMissing
    { w with objects }.setRun k { q with phase := .finished status }

/-- Nothing handles an error of `fail_claim`. -/
def fail (k : Nat) (q : RetentionRun) (c : RetentionCandidate) (now : Time) (close : CloseAnswer)
    (w : RetentionWorld) : RetentionWorld :=
  if close = .aborted then w.setRun k { q with phase := .crashed }
  else if w.isLocked c.id then w
  else
    let failed := failRetentionObject c.id q.token "retention_storage_timeout" now w.objects
    let phase :=
      if close = .lost then .crashed
      else .finished (if failed.1 then .storageTimeout else .leaseLost)
    { w with objects := failed.2 }.setRun k { q with phase }

def applyDelete (k : Nat) (key : String) (w : RetentionWorld) : RetentionWorld :=
  if w.stored.contains key then
    { w with stored := w.stored.filter (· != key), deletions := w.deletions ++ [⟨k, key⟩] }
  else w

/-! ## All steps -/

/-- One step of run `k`. -/
def stepRun (k : Nat) (q : RetentionRun) (w : RetentionWorld) : RetentionEvent → RetentionWorld
  | .claim _ now enabled skip =>
    match q.phase with
    | .started => w.claim k q now enabled skip
    | _ => w
  | .lockRow _ now =>
    match q.phase with
    | .claimed c => w.lockRow k q c now
    | _ => w
  | .readPolicy _ =>
    match q.phase with
    | .rowLocked c row now =>
      w.setRun k { q with phase := .policyRead c row now (w.policies row.category) }
    | _ => w
  | .readSource _ =>
    match q.phase with
    | .policyRead c row now enabled => w.readSource k q c ⟨row, now, enabled, w.store⟩
    | _ => w
  | .sendDelete _ =>
    match q.phase with
    | .eligible c => w.setRun k { q with phase := .deleting c, sent := some c.objectKey }
    | _ => w
  | .applyDelete _ =>
    match q.sent with
    | some key => w.applyDelete k key
    | none => w
  | .answerDelete _ answer =>
    match q.phase with
    | .deleting c => w.answerDelete k q c answer
    | _ => w
  | .complete _ now close =>
    match q.phase with
    | .answered c result => w.complete k q c result now close
    | _ => w
  | .fail _ now close =>
    match q.phase with
    | .timedOut c => w.fail k q c now close
    | _ => w
  | .crash _ =>
    match q.phase with
    | .finished _ => w
    | _ => w.setRun k { q with phase := .crashed }
  | _ => w

/-- A new row: a candidate whose identifier, key and source are its own. -/
def insertable (row : RetentionObject) (w : RetentionWorld) : Bool :=
  row.status == .candidate && row.stateCheck && w.objects.all fun r =>
    r.id != row.id && r.objectKey != row.objectKey &&
      (r.category != row.category || r.sourceRecordId != row.sourceRecordId)

/-- `run_once` is called. -/
def startRun (token : Uuid) (automaticDelete : Bool) (w : RetentionWorld) : RetentionWorld :=
  let phase := if automaticDelete then .started else .finished .disabled
  { w with runs := w.runs ++ [⟨token, phase, none, none, none⟩] }

def step (w : RetentionWorld) (e : RetentionEvent) : RetentionWorld :=
  match e with
  | .start token automaticDelete => w.startRun token automaticDelete
  | .setPolicy category enabled =>
    { w with policies := fun c => if c = category then some enabled else w.policies c }
  | .setHold id hold =>
    if w.isLocked id then w
    else { w with objects := updateObject id (fun _ => true) (RetentionObject.held hold) w.objects }
  | .addCandidate row =>
    if w.insertable row then { w with objects := w.objects ++ [row] } else w
  | .changeStore store => { w with store }
  | e =>
    match e.runOf with
    | some k =>
      match w.runs[k]? with
      | some q => w.stepRun k q e
      | none => w
    | none => w

/-! ## What a step does -/

/-- What a step of run `k` makes of the run and of the table. -/
inductive RunMove (w : RetentionWorld) (q : RetentionRun) :
    RetentionEvent → RetentionRun → List RetentionObject → Prop
  | quit (e : RetentionEvent) (phase : RetentionPhase) (hphase : phase.isOver = true) :
    RunMove w q e { q with phase } w.objects
  | claimed (k : Nat) (now : Time) (enabled : RetentionObjectClass → Option Bool)
    (skip : Uuid → Bool) (r : RetentionObject) (hphase : q.phase = .started) (hr : r ∈ w.objects)
    (hclaimable : r.claimable enabled now = true) (hlock : w.isLocked r.id = false) :
    RunMove w q (.claim k now enabled skip) { q with phase := .claimed (candidateOf r) }
      (updateObject r.id (fun _ => true)
        (RetentionObject.claimed q.token retentionLeaseSeconds now) w.objects)
  | locked (k : Nat) (now : Time) (c : RetentionCandidate) (row : RetentionObject)
    (hphase : q.phase = .claimed c) (hrow : row ∈ w.objects) (hid : row.id = c.id)
    (hholds : row.holds q.token now = true) (hlock : w.isLocked row.id = false) :
    RunMove w q (.lockRow k now) { q with phase := .rowLocked c row now } w.objects
  | policyRead (k : Nat) (c : RetentionCandidate) (row : RetentionObject) (now : Time)
    (hphase : q.phase = .rowLocked c row now) :
    RunMove w q (.readPolicy k)
      { q with phase := .policyRead c row now (w.policies row.category) } w.objects
  | found (k : Nat) (c : RetentionCandidate) (f : RetentionFinding)
    (hphase : q.phase = .policyRead c f.row f.now f.policyEnabled) (hstore : f.store = w.store)
    (heligible : f.eligible = true) :
    RunMove w q (.readSource k) { q with phase := .eligible c, finding := some f } w.objects
  | invalidated (k : Nat) (c : RetentionCandidate) (row : RetentionObject) (now : Time)
    (policyEnabled : Option Bool) (hphase : q.phase = .policyRead c row now policyEnabled) :
    RunMove w q (.readSource k) { q with phase := .finished .invalidated }
      (updateObject row.id (fun _ => true) RetentionObject.invalidated w.objects)
  | sent (k : Nat) (c : RetentionCandidate) (hphase : q.phase = .eligible c) :
    RunMove w q (.sendDelete k) { q with phase := .deleting c, sent := some c.objectKey } w.objects
  | answered (k : Nat) (c : RetentionCandidate) (result : StorageDeleteResult)
    (hphase : q.phase = .deleting c) :
    RunMove w q (.answerDelete k (.result result))
      { q with phase := .answered c result, answer := some result } w.objects
  | timedOut (k : Nat) (c : RetentionCandidate) (hphase : q.phase = .deleting c) :
    RunMove w q (.answerDelete k .timeout) { q with phase := .timedOut c } w.objects
  | completed (k : Nat) (c : RetentionCandidate) (result : StorageDeleteResult) (now : Time)
    (close : CloseAnswer) (status : RetentionRunStatus) (hphase : q.phase = .answered c result)
    (hlock : w.isLocked c.id = false) :
    RunMove w q (.complete k now close) { q with phase := .finished status }
      (updateObject c.id (RetentionObject.holds q.token now)
        (RetentionObject.completed result now) w.objects)
  | failed (k : Nat) (c : RetentionCandidate) (now : Time) (close : CloseAnswer)
    (phase : RetentionPhase) (hover : phase.isOver = true) (hphase : q.phase = .timedOut c)
    (hlock : w.isLocked c.id = false) :
    RunMove w q (.fail k now close) { q with phase }
      (updateObject c.id (RetentionObject.holds q.token now)
        (RetentionObject.failed "retention_storage_timeout" now) w.objects)

/-- What a step makes of the world. -/
inductive Move (w : RetentionWorld) (e : RetentionEvent) (w' : RetentionWorld) : Prop
  | kept (hobjects : w'.objects = w.objects) (hruns : w'.runs = w.runs)
    (hdeletions : w'.deletions = w.deletions)
  | started (q : RetentionRun) (hphase : q.phase = .started ∨ q.phase.isOver = true)
    (hsent : q.sent = none) (hfinding : q.finding = none) (hanswer : q.answer = none)
    (hobjects : w'.objects = w.objects) (hruns : w'.runs = w.runs ++ [q]) (hdeletions : w'.deletions = w.deletions)
  | held (id : Uuid) (hold : Option (Time × String)) (he : e = .setHold id hold)
    (hlock : w.isLocked id = false)
    (hobjects : w'.objects = updateObject id (fun _ => true) (RetentionObject.held hold) w.objects)
    (hruns : w'.runs = w.runs) (hdeletions : w'.deletions = w.deletions)
  | added (row : RetentionObject) (he : e = .addCandidate row) (hrow : w.insertable row = true)
    (hobjects : w'.objects = w.objects ++ [row]) (hruns : w'.runs = w.runs)
    (hdeletions : w'.deletions = w.deletions)
  | ran (k : Nat) (q q' : RetentionRun) (he : e.runOf = some k) (hq : w.runs[k]? = some q)
    (hmove : RunMove w q e q' w'.objects) (hruns : w'.runs = w.runs.set k q')
    (hdeletions : w'.deletions = w.deletions)
  | deleted (k : Nat) (q : RetentionRun) (key : String) (hq : w.runs[k]? = some q)
    (hsent : q.sent = some key) (hobjects : w'.objects = w.objects) (hruns : w'.runs = w.runs)
    (hdeletions : w'.deletions = w.deletions ++ [⟨k, key⟩])

theorem claim_move {k : Nat} {q : RetentionRun} {now : Time}
    {enabled : RetentionObjectClass → Option Bool} {skip : Uuid → Bool} {w : RetentionWorld}
    (hq : w.runs[k]? = some q) (hphase : q.phase = .started) :
    Move w (.claim k now enabled skip) (w.claim k q now enabled skip) := by
  unfold claim
  split
  · exact .ran k q _ rfl hq (.quit _ _ rfl) rfl rfl
  next hclaim =>
    obtain ⟨row, hrow, hclaimable, hskip, rfl, rfl⟩ := claimNext_eq_some hclaim
    exact .ran k q _ rfl hq (.claimed k now enabled skip row hphase hrow hclaimable
      (Bool.or_eq_false_iff.1 hskip).2) rfl rfl

theorem lockRow_move {k : Nat} {q : RetentionRun} {c : RetentionCandidate} {now : Time}
    {w : RetentionWorld} (hq : w.runs[k]? = some q) (hphase : q.phase = .claimed c) :
    Move w (.lockRow k now) (w.lockRow k q c now) := by
  unfold lockRow
  split
  · exact .kept rfl rfl rfl
  next hlock =>
    split
    · exact .ran k q _ rfl hq (.quit _ _ rfl) rfl rfl
    next row hfind =>
      have hid : row.id = c.id := by simpa using List.find?_some hfind
      split
      next hholds =>
        exact .ran k q _ rfl hq (.locked k now c row hphase (List.mem_of_find?_eq_some hfind) hid hholds
          (by rw [hid]; simpa using hlock)) rfl rfl
      next => exact .ran k q _ rfl hq (.quit _ _ rfl) rfl rfl

theorem readSource_move {k : Nat} {q : RetentionRun} {c : RetentionCandidate}
    {row : RetentionObject} {now : Time} {enabled : Option Bool} {w : RetentionWorld}
    (hq : w.runs[k]? = some q) (hphase : q.phase = .policyRead c row now enabled) :
    Move w (.readSource k) (w.readSource k q c ⟨row, now, enabled, w.store⟩) := by
  unfold readSource
  split
  next heligible => exact .ran k q _ rfl hq (.found k c _ hphase rfl heligible) rfl rfl
  next => exact .ran k q _ rfl hq (.invalidated k c row now enabled hphase) rfl rfl

theorem answerDelete_move {k : Nat} {q : RetentionRun} {c : RetentionCandidate}
    {w : RetentionWorld} (answer : StorageAnswer) (hq : w.runs[k]? = some q)
    (hphase : q.phase = .deleting c) :
    Move w (.answerDelete k answer) (w.answerDelete k q c answer) := by
  cases answer with
  | result r => exact .ran k q _ rfl hq (.answered k c r hphase) rfl rfl
  | timeout => exact .ran k q _ rfl hq (.timedOut k c hphase) rfl rfl
  | error => exact .ran k q _ rfl hq (.quit _ _ rfl) rfl rfl

theorem complete_move {k : Nat} {q : RetentionRun} {c : RetentionCandidate}
    {result : StorageDeleteResult} {now : Time} {close : CloseAnswer} {w : RetentionWorld}
    (hq : w.runs[k]? = some q) (hphase : q.phase = .answered c result) :
    Move w (.complete k now close) (w.complete k q c result now close) := by
  unfold complete
  split
  · exact .ran k q _ rfl hq (.quit _ _ rfl) rfl rfl
  split
  · exact .kept rfl rfl rfl
  next hlock =>
    exact .ran k q _ rfl hq (.completed k c result now close _ hphase (by simpa using hlock)) rfl rfl

theorem failRetentionObject_snd {id token : Uuid} {now : Time} {objects : List RetentionObject} :
    (failRetentionObject id token "retention_storage_timeout" now objects).2 =
      updateObject id (RetentionObject.holds token now)
        (RetentionObject.failed "retention_storage_timeout" now) objects := by
  unfold failRetentionObject
  rw [if_neg (by decide)]

theorem fail_move {k : Nat} {q : RetentionRun} {c : RetentionCandidate} {now : Time}
    {close : CloseAnswer} {w : RetentionWorld} (hq : w.runs[k]? = some q)
    (hphase : q.phase = .timedOut c) :
    Move w (.fail k now close) (w.fail k q c now close) := by
  unfold fail
  split
  · exact .ran k q _ rfl hq (.quit _ _ rfl) rfl rfl
  split
  · exact .kept rfl rfl rfl
  next hlock =>
    refine .ran k q _ rfl hq ?_ rfl rfl
    show RunMove w q _ _ (failRetentionObject c.id q.token _ now w.objects).2
    rw [failRetentionObject_snd]
    refine .failed k c now close _ ?_ hphase (by simpa using hlock)
    split <;> rfl

theorem applyDelete_move {k : Nat} {q : RetentionRun} {key : String} {w : RetentionWorld}
    (hq : w.runs[k]? = some q) (hsent : q.sent = some key) :
    Move w (.applyDelete k) (w.applyDelete k key) := by
  unfold applyDelete
  split
  · exact .deleted k q key hq hsent rfl rfl rfl
  · exact .kept rfl rfl rfl

theorem step_eq_stepRun {w : RetentionWorld} {e : RetentionEvent} {k : Nat}
    (he : e.runOf = some k) :
    w.step e = match w.runs[k]? with
      | some q => w.stepRun k q e
      | none => w := by
  cases e <;> cases he <;> rfl

theorem stepRun_move {k : Nat} {q : RetentionRun} {w : RetentionWorld} {e : RetentionEvent}
    (hq : w.runs[k]? = some q) (he : e.runOf = some k) : Move w e (w.stepRun k q e) := by
  have hstay : Move w e w := .kept rfl rfl rfl
  cases e <;> cases he <;> simp only [stepRun]
  case claim.refl =>
    split
    next hphase => exact claim_move hq hphase
    next => exact hstay
  case lockRow.refl =>
    split
    next hphase => exact lockRow_move hq hphase
    next => exact hstay
  case readPolicy.refl =>
    split
    next hphase => exact .ran k q _ rfl hq (.policyRead k _ _ _ hphase) rfl rfl
    next => exact hstay
  case readSource.refl =>
    split
    next hphase => exact readSource_move hq hphase
    next => exact hstay
  case sendDelete.refl =>
    split
    next hphase => exact .ran k q _ rfl hq (.sent k _ hphase) rfl rfl
    next => exact hstay
  case applyDelete.refl =>
    split
    next hsent => exact applyDelete_move hq hsent
    next => exact hstay
  case answerDelete.refl =>
    split
    next hphase => exact answerDelete_move _ hq hphase
    next => exact hstay
  case complete.refl =>
    split
    next hphase => exact complete_move hq hphase
    next => exact hstay
  case fail.refl =>
    split
    next hphase => exact fail_move hq hphase
    next => exact hstay
  case crash.refl =>
    split
    next => exact hstay
    next => exact .ran k q _ rfl hq (.quit _ _ rfl) rfl rfl

/-- The cases of a step. -/
theorem step_move (w : RetentionWorld) (e : RetentionEvent) : Move w e (w.step e) := by
  have hstay : Move w e w := .kept rfl rfl rfl
  cases hk : e.runOf with
  | some k =>
    rw [step_eq_stepRun hk]
    split
    next q hq => exact stepRun_move hq hk
    next => exact hstay
  | none =>
    cases e <;> cases hk
    case none.start.refl token automaticDelete =>
      refine .started ⟨token, _, none, none, none⟩ ?_ rfl rfl rfl rfl rfl rfl
      cases automaticDelete <;> simp [RetentionPhase.isOver]
    case none.setPolicy.refl category enabled => exact .kept rfl rfl rfl
    case none.changeStore.refl store => exact .kept rfl rfl rfl
    case none.setHold.refl id hold =>
      show Move w _ (if w.isLocked id then w else _)
      split
      · exact hstay
      next hlock => exact .held id hold rfl (by simpa using hlock) rfl rfl rfl
    case none.addCandidate.refl row =>
      show Move w _ (if w.insertable row then _ else w)
      split
      next hrow => exact .added row rfl hrow rfl rfl rfl
      · exact hstay

end RetentionWorld

end PaperGrading
