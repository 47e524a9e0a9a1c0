import PaperGrading.Store.Claims
import PaperGrading.Store.Commits

/-!
# Claim transactions, statement by statement

`claim_attempt` takes the advisory lock of its provider, counts the running attempts, reads
the job of the item, locks the job and the item, numbers the attempt, and writes; each
statement sees what is committed when it runs.  The claims of any number of workers interleave
by statements, with each other and with every other transaction of the store, which waits as
long as it would write a row that a claim has locked.

    one statement keeps the invariant                                        (Move.serial)
    the committed stores are those of a run of whole transactions            (run_serial)
    a claim finds fewer running attempts than the frozen limit, the limits bound the running
      attempts, and no delivery is claimed twice                             (run_claims)
-/

namespace PaperGrading

/-- Where a claim stands. -/
inductive ClaimPhase where
  | started
  /-- holds the advisory lock of the provider -/
  | admitted
  | counted
  | pointed (jobId : Uuid)
  | jobLocked (job : Option GradingJob)
  | itemLocked (job : GradingJob) (item : GradingJobItem)
  | numbered (job : GradingJob) (item : GradingJobItem) (attemptNumber : Nat)
  | sequenced (job : GradingJob) (item : GradingJobItem) (attemptNumber callSequence : Nat)
  | finished (claim : Option GradingAttemptClaim)
  | failed

/-- A call of `claim_attempt`. -/
structure ClaimTransaction where
  prepared : GradingItemPreparation
  requestHash : Hash
  clock : Clock
  phase : ClaimPhase

/-- A claim that was committed, with the delivery of the item it found. -/
structure ClaimGrant where
  transaction : Nat
  itemId : Uuid
  delivery : Nat × Nat
  deriving DecidableEq

/-- The committed store, the preparations the workers have made, their claims. -/
structure ClaimWorld where
  store : Store
  preparations : List GradingItemPreparation
  transactions : List ClaimTransaction
  granted : List ClaimGrant

inductive ClaimEvent (env : Runtime) where
  | prepare (itemId : Uuid) (dispatchVersion : Nat) (now : Time)
  | start (n : Nat) (requestHash : Hash) (clock : Clock)
  | advisoryLock (k : Nat)
  | count (k : Nat)
  | readPointer (k : Nat)
  | lockJob (k : Nat)
  | lockItem (k : Nat)
  | readNumber (k : Nat)
  | readSequence (k : Nat)
  | write (k : Nat) (attemptId leaseToken : Uuid)
  /-- an error, or the end of the process -/
  | rollback (k : Nat)
  /-- a whole transaction that is not a claim -/
  | other (a : Action env)

namespace ClaimPhase

def isOver : ClaimPhase → Bool
  | .finished _ | .failed => true
  | _ => false

def holdsAdvisory : ClaimPhase → Bool
  | .started | .finished _ | .failed => false
  | _ => true

def lockedJob : ClaimPhase → Option Uuid
  | .jobLocked job => job.map (·.id)
  | .itemLocked job _ | .numbered job _ _ | .sequenced job _ _ _ => some job.id
  | _ => none

def lockedItem : ClaimPhase → Option Uuid
  | .itemLocked _ item | .numbered _ item _ | .sequenced _ item _ _ => some item.id
  | _ => none

end ClaimPhase

namespace ClaimWorld

/-! ## Locks -/

/-- A claim holds the advisory lock; `lockKey` is the hash that names it. -/
def advisoryTaken (lockKey : Uuid → Int) (key : Int) (w : ClaimWorld) : Bool :=
  w.transactions.any fun t =>
    t.phase.holdsAdvisory && lockKey t.prepared.providerConfigId == key

def jobTaken (id : Uuid) (w : ClaimWorld) : Bool :=
  w.transactions.any fun t => t.phase.lockedJob == some id

def itemTaken (id : Uuid) (w : ClaimWorld) : Bool :=
  w.transactions.any fun t => t.phase.lockedItem == some id

/-- The store leaves every locked row as it is. -/
def keepsLocked (w : ClaimWorld) (s' : Store) : Bool :=
  w.transactions.all fun t =>
    (t.phase.lockedJob.all fun id =>
      s'.jobs.find? (·.id == id) == w.store.jobs.find? (·.id == id)) &&
    (t.phase.lockedItem.all fun id =>
      s'.items.find? (·.id == id) == w.store.items.find? (·.id == id))

/-! ## Statements -/

def setPhase (k : Nat) (t : ClaimTransaction) (phase : ClaimPhase) (w : ClaimWorld) : ClaimWorld :=
  { w with transactions := w.transactions.set k { t with phase } }

def advisoryLock (lockKey : Uuid → Int) (k : Nat) (t : ClaimTransaction) (w : ClaimWorld) :
    ClaimWorld :=
  if w.advisoryTaken lockKey (lockKey t.prepared.providerConfigId) then w
  else w.setPhase k t .admitted

def count (k : Nat) (t : ClaimTransaction) (w : ClaimWorld) : ClaimWorld :=
  if t.prepared.providerSnapshot.maxConcurrency ≤ w.store.runningCount t.prepared.providerConfigId
  then w.setPhase k t (.finished none)
  else w.setPhase k t .counted

def readPointer (k : Nat) (t : ClaimTransaction) (w : ClaimWorld) : ClaimWorld :=
  match w.store.items.find? fun i =>
      i.id == t.prepared.itemId && i.ownerId == t.prepared.ownerId with
  | none => w.setPhase k t (.finished none)
  | some i => w.setPhase k t (.pointed i.gradingJobId)

/-- `SELECT … FOR UPDATE`; it waits for a lock only on a row that it selects. -/
def lockJob (k : Nat) (t : ClaimTransaction) (jobId : Uuid) (w : ClaimWorld) : ClaimWorld :=
  match w.store.jobs.find? fun j => j.id == jobId && j.ownerId == t.prepared.ownerId &&
      (j.status == .queued || j.status == .running) with
  | none => w.setPhase k t (.jobLocked none)
  | some j => if w.jobTaken j.id then w else w.setPhase k t (.jobLocked (some j))

def lockItem (k : Nat) (t : ClaimTransaction) (job : Option GradingJob) (w : ClaimWorld) :
    ClaimWorld :=
  match w.store.items.find? fun i => i.id == t.prepared.itemId &&
      i.ownerId == t.prepared.ownerId && i.dispatchVersion == t.prepared.dispatchVersion &&
      i.status == .queued && decide (i.availableAt ≤ t.clock.database) with
  | none => w.setPhase k t (.finished none)
  | some i =>
    if w.itemTaken i.id then w
    else match job with
      | none => w.setPhase k t (.finished none)
      | some j => w.setPhase k t (.itemLocked j i)

/-- The row of the attempt, from the numbers the transaction has read. -/
def attemptRow (s : Store) (t : ClaimTransaction) (item : GradingJobItem)
    (attemptNumber callSequence : Nat) (attemptId : Uuid) : GradingAttempt :=
  { s.claimedAttempt t.prepared item t.requestHash t.clock.worker attemptId with
    attemptNumber, callSequence
    idempotencyKey :=
      attemptIdempotencyKey item.id item.dispatchVersion callSequence t.requestHash }

/-- The flush of the claim. -/
def writeClaim (s : Store) (t : ClaimTransaction) (job : GradingJob) (item : GradingJobItem)
    (attempt : GradingAttempt) (leaseToken : Uuid) : Except TxError Store := do
  let s₁ ← s.insertAttempt attempt
  let s₂ ← s₁.updateItems (·.id == item.id)
    (Store.claimItem t.clock.worker leaseToken t.prepared.providerSnapshot.timeoutSeconds)
  s₂.updateJobs t.clock.database (job.status == .queued) (·.id == job.id)
    (Store.claimJob t.clock.worker)

def write (k : Nat) (t : ClaimTransaction) (job : GradingJob) (item : GradingJobItem)
    (attemptNumber callSequence : Nat) (attemptId leaseToken : Uuid) (w : ClaimWorld) :
    ClaimWorld :=
  let attempt := attemptRow w.store t item attemptNumber callSequence attemptId
  let grant : ClaimGrant := ⟨k, item.id, item.delivery⟩
  match writeClaim w.store t job item attempt leaseToken with
  | .error _ => w.setPhase k t .failed
  | .ok store =>
    { w with store, granted := w.granted ++ [grant] }.setPhase k t
      (.finished (some ⟨attempt.id, attemptNumber, attempt.scoringRound, callSequence, leaseToken,
        t.requestHash⟩))

/-! ## All steps -/

/-- One statement of claim `k`. -/
def stepClaim {env : Runtime} (lockKey : Uuid → Int) (k : Nat) (t : ClaimTransaction)
    (w : ClaimWorld) : ClaimEvent env → ClaimWorld
  | .advisoryLock _ =>
    match t.phase with
    | .started => w.advisoryLock lockKey k t
    | _ => w
  | .count _ =>
    match t.phase with
    | .admitted => w.count k t
    | _ => w
  | .readPointer _ =>
    match t.phase with
    | .counted => w.readPointer k t
    | _ => w
  | .lockJob _ =>
    match t.phase with
    | .pointed jobId => w.lockJob k t jobId
    | _ => w
  | .lockItem _ =>
    match t.phase with
    | .jobLocked job => w.lockItem k t job
    | _ => w
  | .readNumber _ =>
    match t.phase with
    | .itemLocked job item => w.setPhase k t (.numbered job item
        (Table.maxOrZero (fun a => a.gradingJobItemId == item.id) (·.attemptNumber)
          w.store.attempts + 1))
    | _ => w
  | .readSequence _ =>
    match t.phase with
    | .numbered job item attemptNumber => w.setPhase k t (.sequenced job item attemptNumber
        (Table.maxOrZero (fun a => a.gradingJobItemId == item.id &&
          a.scoringRound == item.dispatchVersion) (·.callSequence) w.store.attempts + 1))
    | _ => w
  | .write _ attemptId leaseToken =>
    match t.phase with
    | .sequenced job item attemptNumber callSequence =>
      w.write k t job item attemptNumber callSequence attemptId leaseToken
    | _ => w
  | .rollback _ =>
    match t.phase with
    | .finished _ => w
    | _ => w.setPhase k t .failed
  | _ => w

end ClaimWorld

/-- The claim that takes the step. -/
def ClaimEvent.claimOf {env : Runtime} : ClaimEvent env → Option Nat
  | .advisoryLock k | .count k | .readPointer k | .lockJob k | .lockItem k | .readNumber k
  | .readSequence k | .write k .. | .rollback k => some k
  | .prepare .. | .start .. | .other _ => none

namespace ClaimWorld

def step (env : Runtime) (lockKey : Uuid → Int) (w : ClaimWorld) (e : ClaimEvent env) :
    ClaimWorld :=
  match e with
  | .prepare itemId dispatchVersion now =>
    match w.store.prepareItem env itemId dispatchVersion now with
    | .ok (some prepared) => { w with preparations := w.preparations ++ [prepared] }
    | _ => w
  | .start n requestHash clock =>
    match w.preparations[n]? with
    | some prepared =>
      { w with transactions := w.transactions ++ [⟨prepared, requestHash, clock, .started⟩] }
    | none => w
  | .other (.claimAttempt ..) => w
  | .other a =>
    if w.keepsLocked (Store.step env w.store a) then { w with store := Store.step env w.store a }
    else w
  | e =>
    match e.claimOf with
    | some k =>
      match w.transactions[k]? with
      | some t => w.stepClaim lockKey k t e
      | none => w
    | none => w

/-! ## What a step does -/

/-- The rows that a claim has locked, as `claim_attempt` selects them. -/
structure LockedRows (s : Store) (t : ClaimTransaction) (job : GradingJob)
    (item : GradingJobItem) : Prop where
  job_mem : job ∈ s.jobs
  item_mem : item ∈ s.items
  item_job : job.id = item.gradingJobId
  job_owner : job.ownerId = t.prepared.ownerId
  job_open : job.status = .queued ∨ job.status = .running
  item_id : item.id = t.prepared.itemId
  item_owner : item.ownerId = t.prepared.ownerId
  item_version : item.dispatchVersion = t.prepared.dispatchVersion
  item_queued : item.status = .queued
  item_available : item.availableAt ≤ t.clock.database

/-- The phases that a statement of a claim can reach without a write. -/
inductive PhaseMove (lockKey : Uuid → Int) (w : ClaimWorld) (t : ClaimTransaction) :
    ClaimPhase → Prop
  | ended (phase : ClaimPhase) (hover : phase.isOver = true) : PhaseMove lockKey w t phase
  | admitted (hphase : t.phase = .started)
    (hfree : w.advisoryTaken lockKey (lockKey t.prepared.providerConfigId) = false) :
    PhaseMove lockKey w t .admitted
  | counted (hphase : t.phase = .admitted) (hroom : w.store.runningCount
      t.prepared.providerConfigId < t.prepared.providerSnapshot.maxConcurrency) :
    PhaseMove lockKey w t .counted
  | pointed (i : GradingJobItem) (hphase : t.phase = .counted) (hi : i ∈ w.store.items)
    (hid : i.id = t.prepared.itemId) (howner : i.ownerId = t.prepared.ownerId) :
    PhaseMove lockKey w t (.pointed i.gradingJobId)
  | jobMissing (jobId : Uuid) (hphase : t.phase = .pointed jobId) :
    PhaseMove lockKey w t (.jobLocked none)
  | jobLocked (j : GradingJob) (hphase : t.phase = .pointed j.id) (hj : j ∈ w.store.jobs)
    (howner : j.ownerId = t.prepared.ownerId) (hopen : j.status = .queued ∨ j.status = .running)
    (hfree : w.jobTaken j.id = false) : PhaseMove lockKey w t (.jobLocked (some j))
  | itemLocked (j : GradingJob) (i : GradingJobItem) (hphase : t.phase = .jobLocked (some j))
    (hi : i ∈ w.store.items) (hid : i.id = t.prepared.itemId)
    (howner : i.ownerId = t.prepared.ownerId)
    (hversion : i.dispatchVersion = t.prepared.dispatchVersion) (hqueued : i.status = .queued)
    (havailable : i.availableAt ≤ t.clock.database) (hfree : w.itemTaken i.id = false) :
    PhaseMove lockKey w t (.itemLocked j i)
  | numbered (j : GradingJob) (i : GradingJobItem) (hphase : t.phase = .itemLocked j i) :
    PhaseMove lockKey w t (.numbered j i (Table.maxOrZero (fun a => a.gradingJobItemId == i.id)
      (·.attemptNumber) w.store.attempts + 1))
  | sequenced (j : GradingJob) (i : GradingJobItem) (n : Nat) (hphase : t.phase = .numbered j i n) :
    PhaseMove lockKey w t (.sequenced j i n (Table.maxOrZero (fun a =>
      a.gradingJobItemId == i.id && a.scoringRound == i.dispatchVersion) (·.callSequence)
        w.store.attempts + 1))

/-- What a step makes of the world. -/
inductive Move (env : Runtime) (lockKey : Uuid → Int) (w : ClaimWorld) (e : ClaimEvent env) :
    ClaimWorld → Prop
  | kept : Move env lockKey w e w
  | prepared (prepared : GradingItemPreparation) (h : w.store.PreparedFor prepared) :
    Move env lockKey w e { w with preparations := w.preparations ++ [prepared] }
  | started (t : ClaimTransaction) (h : t.prepared ∈ w.preparations) (hphase : t.phase = .started) :
    Move env lockKey w e { w with transactions := w.transactions ++ [t] }
  | moved (k : Nat) (t : ClaimTransaction) (phase : ClaimPhase) (ht : w.transactions[k]? = some t)
    (hmove : PhaseMove lockKey w t phase) : Move env lockKey w e (w.setPhase k t phase)
  | granted (k : Nat) (t : ClaimTransaction) (job : GradingJob) (item : GradingJobItem)
    (attemptNumber callSequence : Nat) (attemptId leaseToken : Uuid) (store : Store)
    (claim : GradingAttemptClaim) (grant : ClaimGrant) (hgrant : grant = ⟨k, item.id, item.delivery⟩)
    (he : e = .write k attemptId leaseToken) (ht : w.transactions[k]? = some t)
    (hphase : t.phase = .sequenced job item attemptNumber callSequence)
    (hwrite : writeClaim w.store t job item
      (attemptRow w.store t item attemptNumber callSequence attemptId) leaseToken = .ok store) :
    Move env lockKey w e ({ w with store, granted := w.granted ++ [grant] }.setPhase k t
      (.finished (some claim)))
  | other (a : Action env) (ha : ¬Store.isClaim a)
    (hkeeps : w.keepsLocked (Store.step env w.store a) = true) :
    Move env lockKey w e { w with store := Store.step env w.store a }

section Moves

variable {env : Runtime} {lockKey : Uuid → Int} {w : ClaimWorld} {e : ClaimEvent env} {k : Nat}
  {t : ClaimTransaction}

theorem advisoryLock_move (ht : w.transactions[k]? = some t) (hphase : t.phase = .started) :
    Move env lockKey w e (w.advisoryLock lockKey k t) := by
  unfold advisoryLock
  split
  · exact .kept
  next hfree => exact .moved k t _ ht (.admitted hphase (by simpa using hfree))

theorem count_move (ht : w.transactions[k]? = some t) (hphase : t.phase = .admitted) :
    Move env lockKey w e (w.count k t) := by
  unfold count
  split
  · exact .moved k t _ ht (.ended _ rfl)
  next hroom => exact .moved k t _ ht (.counted hphase (Nat.lt_of_not_le hroom))

theorem readPointer_move (ht : w.transactions[k]? = some t) (hphase : t.phase = .counted) :
    Move env lockKey w e (w.readPointer k t) := by
  unfold readPointer
  split
  · exact .moved k t _ ht (.ended _ rfl)
  next i hfind =>
    have hq := List.find?_some hfind
    rw [Bool.and_eq_true, beq_iff_eq, beq_iff_eq] at hq
    exact .moved k t _ ht (.pointed i hphase (List.mem_of_find?_eq_some hfind) hq.1 hq.2)

theorem lockJob_move {jobId : Uuid} (ht : w.transactions[k]? = some t)
    (hphase : t.phase = .pointed jobId) : Move env lockKey w e (w.lockJob k t jobId) := by
  unfold lockJob
  split
  · exact .moved k t _ ht (.jobMissing jobId hphase)
  next j hfind =>
    have hq := List.find?_some hfind
    simp only [Bool.and_eq_true, Bool.or_eq_true, beq_iff_eq] at hq
    obtain ⟨⟨rfl, howner⟩, hopen⟩ := hq
    split
    · exact .kept
    next hfree =>
      exact .moved k t _ ht (.jobLocked j hphase (List.mem_of_find?_eq_some hfind) howner hopen
        (by simpa using hfree))

theorem lockItem_move {job : Option GradingJob} (ht : w.transactions[k]? = some t)
    (hphase : t.phase = .jobLocked job) : Move env lockKey w e (w.lockItem k t job) := by
  unfold lockItem
  split
  · exact .moved k t _ ht (.ended _ rfl)
  next i hfind =>
    have hq := List.find?_some hfind
    simp only [Bool.and_eq_true, beq_iff_eq, decide_eq_true_eq] at hq
    obtain ⟨⟨⟨⟨hid, howner⟩, hversion⟩, hqueued⟩, havailable⟩ := hq
    split
    · exact .kept
    next hfree =>
      cases job with
      | none => exact .moved k t _ ht (.ended _ rfl)
      | some j =>
        exact .moved k t _ ht (.itemLocked j i hphase (List.mem_of_find?_eq_some hfind) hid howner
          hversion hqueued havailable (by simpa using hfree))

theorem write_move {job : GradingJob} {item : GradingJobItem} {n c : Nat}
    {attemptId leaseToken : Uuid} (ht : w.transactions[k]? = some t)
    (hphase : t.phase = .sequenced job item n c) :
    Move env lockKey w (.write k attemptId leaseToken)
      (w.write k t job item n c attemptId leaseToken) := by
  unfold write
  extract_lets attempt grant
  split
  · exact .moved k t _ ht (.ended _ rfl)
  next store hwrite =>
    exact .granted k t job item n c attemptId leaseToken store _ grant rfl rfl ht hphase hwrite

theorem stepClaim_move (ht : w.transactions[k]? = some t) (he : e.claimOf = some k) :
    Move env lockKey w e (w.stepClaim lockKey k t e) := by
  cases e <;> cases he <;> simp only [stepClaim]
  case advisoryLock.refl =>
    split
    next hphase => exact advisoryLock_move ht hphase
    next => exact .kept
  case count.refl =>
    split
    next hphase => exact count_move ht hphase
    next => exact .kept
  case readPointer.refl =>
    split
    next hphase => exact readPointer_move ht hphase
    next => exact .kept
  case lockJob.refl =>
    split
    next hphase => exact lockJob_move ht hphase
    next => exact .kept
  case lockItem.refl =>
    split
    next hphase => exact lockItem_move ht hphase
    next => exact .kept
  case readNumber.refl =>
    split
    next hphase => exact .moved k t _ ht (.numbered _ _ hphase)
    next => exact .kept
  case readSequence.refl =>
    split
    next hphase => exact .moved k t _ ht (.sequenced _ _ _ hphase)
    next => exact .kept
  case write.refl =>
    split
    next hphase => exact write_move ht hphase
    next => exact .kept
  case rollback.refl =>
    split
    next => exact .kept
    next => exact .moved k t _ ht (.ended _ rfl)

theorem step_eq_stepClaim (he : e.claimOf = some k) :
    w.step env lockKey e = match w.transactions[k]? with
      | some t => w.stepClaim lockKey k t e
      | none => w := by
  cases e <;> cases he <;> rfl

theorem step_other (a : Action env) (ha : ¬Store.isClaim a) :
    w.step env lockKey (.other a) =
      if w.keepsLocked (Store.step env w.store a) then { w with store := Store.step env w.store a }
      else w := by
  cases a with
  | claimAttempt => exact absurd trivial ha
  | _ => rfl

/-- The cases of a step. -/
theorem step_move (lockKey : Uuid → Int) (w : ClaimWorld) (e : ClaimEvent env) :
    Move env lockKey w e (w.step env lockKey e) := by
  cases hk : e.claimOf with
  | some k =>
    rw [step_eq_stepClaim hk]
    split
    next t ht => exact stepClaim_move ht hk
    next => exact .kept
  | none =>
    cases e <;> cases hk
    case none.prepare.refl itemId dispatchVersion now =>
      simp only [step]
      split
      next hprepared => exact .prepared _ (Store.prepareItem_preparedFor hprepared)
      next => exact .kept
    case none.start.refl n requestHash clock =>
      simp only [step]
      split
      next hprepared => exact .started _ (List.mem_of_getElem? hprepared) rfl
      next => exact .kept
    case none.other.refl a =>
      by_cases ha : Store.isClaim a
      · cases a <;> first | exact .kept | cases ha
      · rw [step_other a ha]
        split
        next hkeeps => exact .other a ha hkeeps
        next => exact .kept

end Moves

/-! ## The invariant -/

/-- The calls of an item, in the order of their rows. -/
def callsOf (s : Store) (itemId : Uuid) : List AttemptIdentity :=
  (s.attempts.map (·.toAttemptIdentity)).filter (·.gradingJobItemId == itemId)

def nextNumber (s : Store) (item : GradingJobItem) : Nat :=
  Table.maxOrZero (fun _ => true) (·.attemptNumber) (callsOf s item.id) + 1

def nextSequence (s : Store) (item : GradingJobItem) : Nat :=
  Table.maxOrZero (·.scoringRound == item.dispatchVersion) (·.callSequence)
    (callsOf s item.id) + 1

theorem nextNumber_eq (s : Store) (item : GradingJobItem) :
    Table.maxOrZero (fun a => a.gradingJobItemId == item.id) (·.attemptNumber) s.attempts + 1 =
      nextNumber s item := by
  unfold nextNumber callsOf Table.maxOrZero
  rw [List.filter_true, List.filter_map, List.map_map]
  rfl

theorem nextSequence_eq (s : Store) (item : GradingJobItem) :
    Table.maxOrZero (fun a => a.gradingJobItemId == item.id &&
      a.scoringRound == item.dispatchVersion) (·.callSequence) s.attempts + 1 =
      nextSequence s item := by
  unfold nextSequence callsOf Table.maxOrZero
  rw [List.filter_map, List.filter_map, List.map_map, List.filter_filter]
  simp only [Function.comp_def, Bool.and_comm]

/-- There is room under the limit. -/
def Room (s : Store) (t : ClaimTransaction) : Prop :=
  s.runningCount t.prepared.providerConfigId < t.prepared.providerSnapshot.maxConcurrency

/-- What a claim knows in its phase. -/
def Fits (s : Store) (t : ClaimTransaction) : ClaimPhase → Prop
  | .started | .admitted | .finished _ | .failed => True
  | .counted => Room s t
  | .pointed jobId => Room s t ∧
    ∃ i ∈ s.items, i.id = t.prepared.itemId ∧ i.gradingJobId = jobId
  | .jobLocked job => Room s t ∧ ∀ j, job = some j → j ∈ s.jobs ∧
    j.ownerId = t.prepared.ownerId ∧ (j.status = .queued ∨ j.status = .running) ∧
    ∃ i ∈ s.items, i.id = t.prepared.itemId ∧ i.gradingJobId = j.id
  | .itemLocked j i => Room s t ∧ LockedRows s t j i
  | .numbered j i n => Room s t ∧ LockedRows s t j i ∧ n = nextNumber s i
  | .sequenced j i n c =>
    Room s t ∧ LockedRows s t j i ∧ n = nextNumber s i ∧ c = nextSequence s i

/-- What a claim knows does not depend on where it stands. -/
theorem Fits.setPhase {s : Store} {t : ClaimTransaction} {phase phase' : ClaimPhase}
    (h : Fits s t phase) : Fits s { t with phase := phase' } phase := by
  have rows {j : GradingJob} {i : GradingJobItem} (hr : LockedRows s t j i) :
      LockedRows s { t with phase := phase' } j i := { hr with }
  cases phase with
  | itemLocked => exact ⟨h.1, rows h.2⟩
  | numbered | sequenced => exact ⟨h.1, rows h.2.1, h.2.2⟩
  | _ => exact h

structure Serial (env : Runtime) (lockKey : Uuid → Int) (w : ClaimWorld) : Prop where
  reached : ∃ as, w.store = Store.after env as
  limits : w.store.WithinLimits
  prepared : ∀ p ∈ w.preparations, w.store.PreparedFor p
  claims : ∀ t ∈ w.transactions, t.prepared ∈ w.preparations
  fits : ∀ (k : Nat) t, w.transactions[k]? = some t → Fits w.store t t.phase
  advisory : ∀ (i j : Nat) t u, w.transactions[i]? = some t → w.transactions[j]? = some u →
    t.phase.holdsAdvisory = true → u.phase.holdsAdvisory = true →
    lockKey t.prepared.providerConfigId = lockKey u.prepared.providerConfigId → i = j
  jobs : ∀ (i j : Nat) t u id, w.transactions[i]? = some t → w.transactions[j]? = some u →
    t.phase.lockedJob = some id → u.phase.lockedJob = some id → i = j
  items : ∀ (i j : Nat) t u id, w.transactions[i]? = some t → w.transactions[j]? = some u →
    t.phase.lockedItem = some id → u.phase.lockedItem = some id → i = j
  spent : ∀ g ∈ w.granted, w.store.Spent g.itemId g.delivery
  once : w.granted.Pairwise fun g h => (g.itemId, g.delivery) ≠ (h.itemId, h.delivery)

/-! ## The write is the whole transaction -/

theorem LockedRows.claimableRows {s : Store} (hk : s.Keys) {t : ClaimTransaction}
    {job : GradingJob} {item : GradingJobItem} (h : LockedRows s t job item) :
    s.claimableRows t.prepared t.clock.database = some (job, item) := by
  have hpointer : s.items.find? (fun i => i.id == t.prepared.itemId &&
      i.ownerId == t.prepared.ownerId) = some item :=
    Table.find?_eq_some_of_key hk.items h.item_mem _ (by simp [h.item_id, h.item_owner])
      fun i hi => by simp_all [h.item_id]
  have hjob : s.jobs.find? (fun j => j.id == item.gradingJobId &&
      j.ownerId == t.prepared.ownerId && (j.status == .queued || j.status == .running)) =
        some job :=
    Table.find?_eq_some_of_key hk.jobs h.job_mem _
      (by simpa [h.item_job, h.job_owner] using h.job_open) fun j hj => by simp_all [h.item_job]
  have hitem : s.items.find? (fun i => i.id == t.prepared.itemId &&
      i.ownerId == t.prepared.ownerId && i.dispatchVersion == t.prepared.dispatchVersion &&
      i.status == .queued && decide (i.availableAt ≤ t.clock.database)) = some item :=
    Table.find?_eq_some_of_key hk.items h.item_mem _
      (by simp [h.item_id, h.item_owner, h.item_version, h.item_queued, h.item_available])
      fun i hi => by simp_all [h.item_id]
  unfold Store.claimableRows
  simp only [Option.bind_eq_bind, hpointer, Option.bind_some, hjob, hitem, Option.pure_def]

/-- The numbers that the transaction has read are those of the whole transaction. -/
theorem attemptRow_eq (s : Store) (t : ClaimTransaction) (item : GradingJobItem)
    (attemptId : Uuid) : attemptRow s t item (nextNumber s item) (nextSequence s item) attemptId =
      s.claimedAttempt t.prepared item t.requestHash t.clock.worker attemptId := by
  unfold attemptRow Store.claimedAttempt
  simp only [nextNumber_eq, nextSequence_eq]

theorem claimAttempt_of_write {s s' : Store} (hk : s.Keys) {t : ClaimTransaction}
    {job : GradingJob} {item : GradingJobItem} {n c : Nat} {attemptId leaseToken : Uuid}
    (hfits : Fits s t (.sequenced job item n c))
    (h : writeClaim s t job item (attemptRow s t item n c attemptId) leaseToken = .ok s') :
    ∃ claim, s.claimAttempt t.prepared t.requestHash t.clock attemptId leaseToken =
      .ok (some claim, s') := by
  obtain ⟨hroom, hrows, rfl, rfl⟩ := hfits
  rw [attemptRow_eq] at h
  unfold writeClaim at h
  simp only [bind_eq_ok] at h
  obtain ⟨s₁, h₁, s₂, h₂, h₃⟩ := h
  unfold Store.claimAttempt
  rw [if_neg (Nat.not_le.2 hroom), hrows.claimableRows hk]
  simp only [h₁, bind_eq_ok, Except.ok.injEq, pure, Except.pure, Prod.mk.injEq]
  exact ⟨_, s₁, rfl, s₂, h₂, s', h₃, rfl, rfl⟩

/-- A write claims the locked rows. -/
theorem claimed_of_write {s s' : Store} (hk : s.Keys) {t : ClaimTransaction} {job : GradingJob}
    {item : GradingJobItem} {n c : Nat} {attemptId leaseToken : Uuid}
    (hfits : Fits s t (.sequenced job item n c))
    (h : writeClaim s t job item (attemptRow s t item n c attemptId) leaseToken = .ok s') :
    ∃ attempt, Store.Claimed s s' t.prepared job item attempt t.clock leaseToken := by
  obtain ⟨claim, hclaim⟩ := claimAttempt_of_write hk hfits h
  obtain ⟨-, hrows, -⟩ := hfits
  rcases Store.claimAttempt_cases hk hclaim with ⟨hnone, -⟩ | ⟨job', item', hclaimed, -⟩
  · cases hnone
  · obtain rfl : item' = item := Table.eq_of_key_eq hk.items hclaimed.item_mem hrows.item_mem
      (hclaimed.item_prepared.1.trans hrows.item_id.symm)
    obtain rfl : job' = job := Table.eq_of_key_eq hk.jobs hclaimed.job_mem hrows.job_mem
      (hclaimed.item_job.symm.trans hrows.item_job.symm)
    exact ⟨_, hclaimed⟩

/-! ## Other claims in a step -/

/-- What a claim knows stays true when its rows and their calls stay. -/
theorem Fits.mono {s s' : Store} {t : ClaimTransaction}
    (hroom : t.phase.holdsAdvisory = true →
      s'.runningCount t.prepared.providerConfigId ≤ s.runningCount t.prepared.providerConfigId)
    (hident : ∀ i ∈ s.items, ∃ i' ∈ s'.items, i'.toItemIdentity = i.toItemIdentity)
    (hjob : ∀ j ∈ s.jobs, t.phase.lockedJob = some j.id → j ∈ s'.jobs)
    (hitem : ∀ i ∈ s.items, t.phase.lockedItem = some i.id → i ∈ s'.items)
    (hcalls : ∀ id, t.phase.lockedItem = some id → callsOf s' id = callsOf s id)
    (h : Fits s t t.phase) : Fits s' t t.phase := by
  have room (hholds : t.phase.holdsAdvisory = true) (hr : Room s t) : Room s' t :=
    (hroom hholds).trans_lt hr
  have pointer {jobId : Uuid}
      (hp : ∃ i ∈ s.items, i.id = t.prepared.itemId ∧ i.gradingJobId = jobId) :
      ∃ i ∈ s'.items, i.id = t.prepared.itemId ∧ i.gradingJobId = jobId := by
    obtain ⟨i, hi, hid, hij⟩ := hp
    obtain ⟨i', hi', hii⟩ := hident i hi
    exact ⟨i', hi', by rw [hii, hid], by rw [hii, hij]⟩
  have rows {j : GradingJob} {i : GradingJobItem} (hj : t.phase.lockedJob = some j.id)
      (hi : t.phase.lockedItem = some i.id) (hr : LockedRows s t j i) : LockedRows s' t j i :=
    { hr with job_mem := hjob j hr.job_mem hj, item_mem := hitem i hr.item_mem hi }
  cases hphase : t.phase with
  | started | admitted | finished | failed => trivial
  | counted =>
    rw [hphase] at h
    exact room (by rw [hphase]; rfl) h
  | pointed jobId =>
    rw [hphase] at h
    exact ⟨room (by rw [hphase]; rfl) h.1, pointer h.2⟩
  | jobLocked job =>
    rw [hphase] at h
    refine ⟨room (by rw [hphase]; rfl) h.1, fun j hj => ?_⟩
    obtain ⟨hmem, howner, hopen, hpointer⟩ := h.2 j hj
    exact ⟨hjob j hmem (by rw [hphase, hj]; rfl), howner, hopen, pointer hpointer⟩
  | itemLocked j i =>
    rw [hphase] at h
    exact ⟨room (by rw [hphase]; rfl) h.1, rows (by rw [hphase]; rfl) (by rw [hphase]; rfl) h.2⟩
  | numbered j i n =>
    rw [hphase] at h
    obtain ⟨hr, hrows, hn⟩ := h
    refine ⟨room (by rw [hphase]; rfl) hr, rows (by rw [hphase]; rfl) (by rw [hphase]; rfl) hrows, ?_⟩
    rw [hn, nextNumber, nextNumber, hcalls i.id (by rw [hphase]; rfl)]
  | sequenced j i n c =>
    rw [hphase] at h
    obtain ⟨hr, hrows, hn, hc⟩ := h
    have hsame := hcalls i.id (by rw [hphase]; rfl)
    refine ⟨room (by rw [hphase]; rfl) hr, rows (by rw [hphase]; rfl) (by rw [hphase]; rfl) hrows, ?_,
      ?_⟩
    · rw [hn, nextNumber, nextNumber, hsame]
    · rw [hc, nextSequence, nextSequence, hsame]

/-! ## The claim that moves -/

namespace PhaseMove

variable {lockKey : Uuid → Int} {w : ClaimWorld} {t : ClaimTransaction} {phase : ClaimPhase}

theorem of_isOver {s : Store} (h : phase.isOver = true) : Fits s t phase := by
  cases phase <;> trivial

theorem locks_of_isOver (h : phase.isOver = true) :
    phase.holdsAdvisory = false ∧ phase.lockedJob = none ∧ phase.lockedItem = none := by
  cases phase with
  | finished | failed => exact ⟨rfl, rfl, rfl⟩
  | _ => cases h

theorem fits (hk : w.store.Keys) (hfits : Fits w.store t t.phase)
    (h : PhaseMove lockKey w t phase) : Fits w.store t phase := by
  cases h with
  | ended _ hover => exact of_isOver hover
  | admitted hphase hfree => trivial
  | counted hphase hroom => exact hroom
  | pointed i hphase hi hid howner =>
    rw [hphase] at hfits
    exact ⟨hfits, i, hi, hid, rfl⟩
  | jobMissing jobId hphase =>
    rw [hphase] at hfits
    exact ⟨hfits.1, fun j hj => by cases hj⟩
  | jobLocked j hphase hj howner hopen hfree =>
    rw [hphase] at hfits
    refine ⟨hfits.1, fun j' hj' => ?_⟩
    obtain rfl := Option.some.inj hj'
    exact ⟨hj, howner, hopen, hfits.2⟩
  | itemLocked j i hphase hi hid howner hversion hqueued havailable hfree =>
    rw [hphase] at hfits
    obtain ⟨hroom, hjob⟩ := hfits
    obtain ⟨hj, hjowner, hopen, i', hi', hid', hij⟩ := hjob j rfl
    obtain rfl : i' = i := Table.eq_of_key_eq hk.items hi' hi (hid'.trans hid.symm)
    exact ⟨hroom, hj, hi, hij.symm, hjowner, hopen, hid, howner, hversion, hqueued, havailable⟩
  | numbered j i hphase =>
    rw [hphase] at hfits
    exact ⟨hfits.1, hfits.2, nextNumber_eq w.store i⟩
  | sequenced j i n hphase =>
    rw [hphase] at hfits
    exact ⟨hfits.1, hfits.2.1, hfits.2.2, nextSequence_eq w.store i⟩

theorem holdsAdvisory (h : PhaseMove lockKey w t phase) (hholds : phase.holdsAdvisory = true) :
    t.phase.holdsAdvisory = true ∨
      w.advisoryTaken lockKey (lockKey t.prepared.providerConfigId) = false := by
  cases h with
  | ended _ hover => cases (locks_of_isOver hover).1.symm.trans hholds
  | admitted hphase hfree => exact .inr hfree
  | counted hphase => exact .inl (by rw [hphase]; rfl)
  | pointed _ hphase => exact .inl (by rw [hphase]; rfl)
  | jobMissing _ hphase => exact .inl (by rw [hphase]; rfl)
  | jobLocked _ hphase => exact .inl (by rw [hphase]; rfl)
  | itemLocked _ _ hphase => exact .inl (by rw [hphase]; rfl)
  | numbered _ _ hphase => exact .inl (by rw [hphase]; rfl)
  | sequenced _ _ _ hphase => exact .inl (by rw [hphase]; rfl)

theorem lockedJob {id : Uuid} (h : PhaseMove lockKey w t phase)
    (hlock : phase.lockedJob = some id) :
    t.phase.lockedJob = some id ∨ w.jobTaken id = false := by
  cases h with
  | ended _ hover => cases (locks_of_isOver hover).2.1.symm.trans hlock
  | jobLocked j hphase hj howner hopen hfree => exact .inr (Option.some.inj hlock ▸ hfree)
  | itemLocked _ _ hphase => exact .inl (by rw [hphase]; exact hlock)
  | numbered _ _ hphase => exact .inl (by rw [hphase]; exact hlock)
  | sequenced _ _ _ hphase => exact .inl (by rw [hphase]; exact hlock)
  | admitted | counted | pointed | jobMissing => cases hlock

theorem lockedItem {id : Uuid} (h : PhaseMove lockKey w t phase)
    (hlock : phase.lockedItem = some id) :
    t.phase.lockedItem = some id ∨ w.itemTaken id = false := by
  cases h with
  | ended _ hover => cases (locks_of_isOver hover).2.2.symm.trans hlock
  | itemLocked _ _ hphase hi hid howner hversion hqueued havailable hfree =>
    exact .inr (Option.some.inj hlock ▸ hfree)
  | numbered _ _ hphase => exact .inl (by rw [hphase]; exact hlock)
  | sequenced _ _ _ hphase => exact .inl (by rw [hphase]; exact hlock)
  | admitted | counted | pointed | jobMissing | jobLocked => cases hlock

end PhaseMove

/-! ## One step -/

/-- A lock that the moving claim takes, and that nobody held, stays exclusive. -/
theorem exclusive_setPhase {w : ClaimWorld} {k : Nat} {t : ClaimTransaction} {phase : ClaimPhase}
    (ht : w.transactions[k]? = some t) (holds : ClaimTransaction → Prop)
    (hw : ∀ (i j : Nat) t u, w.transactions[i]? = some t → w.transactions[j]? = some u →
      holds t → holds u → i = j)
    (hmove : holds { t with phase } → holds t ∨ ∀ u ∈ w.transactions, ¬holds u) :
    ∀ (i j : Nat) t' u', (w.setPhase k t phase).transactions[i]? = some t' →
      (w.setPhase k t phase).transactions[j]? = some u' → holds t' → holds u' → i = j := by
  have other : ∀ (j : Nat) u', w.transactions[j]? = some u' → holds { t with phase } → holds u' →
      k = j := by
    intro j u' hu' hnew hu
    rcases hmove hnew with hold | hfree
    · exact hw k j t u' ht hu' hold hu
    · exact absurd hu (hfree u' (List.mem_of_getElem? hu'))
  intro i j t' u' ht' hu' hholds hholds'
  rcases Table.getElem?_set_cases ht' with ⟨rfl, rfl⟩ | ⟨-, hold⟩ <;>
    rcases Table.getElem?_set_cases hu' with ⟨rfl, rfl⟩ | ⟨-, hold'⟩
  · rfl
  · exact other j u' hold' hholds hholds'
  · exact (other i t' hold hholds' hholds).symm
  · exact hw i j t' u' hold hold' hholds hholds'

namespace Serial

variable {env : Runtime} {lockKey : Uuid → Int} {w : ClaimWorld}

theorem wellFormed (hw : Serial env lockKey w) : Store.WellFormed env w.store := by
  obtain ⟨as, has⟩ := hw.reached
  exact has ▸ Store.after_wellFormed as

theorem keys (hw : Serial env lockKey w) : w.store.Keys := hw.wellFormed.sound.keys

theorem preparedFor (hw : Serial env lockKey w) {k : Nat} {t : ClaimTransaction}
    (ht : w.transactions[k]? = some t) : w.store.PreparedFor t.prepared :=
  hw.prepared _ (hw.claims t (List.mem_of_getElem? ht))

/-- A claim moves to a phase whose locks are free or its own. -/
theorem setPhase (hw : Serial env lockKey w) {k : Nat} {t : ClaimTransaction} {phase : ClaimPhase}
    (ht : w.transactions[k]? = some t) (hfits : Fits w.store t phase)
    (hadvisory : phase.holdsAdvisory = true → t.phase.holdsAdvisory = true ∨
      w.advisoryTaken lockKey (lockKey t.prepared.providerConfigId) = false)
    (hjob : ∀ id, phase.lockedJob = some id → t.phase.lockedJob = some id ∨ w.jobTaken id = false)
    (hitem : ∀ id, phase.lockedItem = some id →
      t.phase.lockedItem = some id ∨ w.itemTaken id = false) :
    Serial env lockKey (w.setPhase k t phase) where
  reached := hw.reached
  limits := hw.limits
  prepared := hw.prepared
  claims u hu := by
    obtain ⟨i, hi⟩ := List.getElem?_of_mem hu
    rcases Table.getElem?_set_cases hi with ⟨-, rfl⟩ | ⟨-, hold⟩
    · exact hw.claims t (List.mem_of_getElem? ht)
    · exact hw.claims u (List.mem_of_getElem? hold)
  fits i u hu := by
    rcases Table.getElem?_set_cases hu with ⟨-, rfl⟩ | ⟨-, hold⟩
    · exact hfits.setPhase
    · exact hw.fits i u hold
  advisory i j u v hu hv hholds hholds' hkey := by
    refine exclusive_setPhase ht (fun x => x.phase.holdsAdvisory = true ∧
      lockKey x.prepared.providerConfigId = lockKey u.prepared.providerConfigId)
      (fun i j x y hx hy h h' => hw.advisory i j x y hx hy h.1 h'.1 (h.2.trans h'.2.symm))
      (fun h => ?_) i j u v hu hv ⟨hholds, rfl⟩ ⟨hholds', hkey.symm⟩
    refine (hadvisory h.1).imp (fun hold => ⟨hold, h.2⟩) fun hfree x hx hxh => ?_
    have := List.any_eq_false.1 hfree x hx
    exact this (by rw [hxh.1, hxh.2, ← h.2]; simp)
  jobs i j u v id hu hv hlock hlock' := by
    refine exclusive_setPhase ht (fun x => x.phase.lockedJob = some id)
      (fun i j x y hx hy h h' => hw.jobs i j x y id hx hy h h') (fun h => ?_) i j u v hu hv hlock hlock'
    refine (hjob id h).imp_right fun hfree x hx hxl => ?_
    exact List.any_eq_false.1 hfree x hx (beq_iff_eq.2 hxl)
  items i j u v id hu hv hlock hlock' := by
    refine exclusive_setPhase ht (fun x => x.phase.lockedItem = some id)
      (fun i j x y hx hy h h' => hw.items i j x y id hx hy h h') (fun h => ?_) i j u v hu hv hlock
      hlock'
    refine (hitem id h).imp_right fun hfree x hx hxl => ?_
    exact List.any_eq_false.1 hfree x hx (beq_iff_eq.2 hxl)
  spent := hw.spent
  once := hw.once

theorem moved (hw : Serial env lockKey w) {k : Nat} {t : ClaimTransaction} {phase : ClaimPhase}
    (ht : w.transactions[k]? = some t) (hmove : PhaseMove lockKey w t phase) :
    Serial env lockKey (w.setPhase k t phase) :=
  hw.setPhase ht (hmove.fits hw.keys (hw.fits k t ht)) hmove.holdsAdvisory (fun _ => hmove.lockedJob)
    fun _ => hmove.lockedItem

/-- The job that the claim has locked is the one it was prepared for. -/
theorem job_eq (hw : Serial env lockKey w) {k : Nat} {t : ClaimTransaction} {job : GradingJob}
    {item : GradingJobItem} (ht : w.transactions[k]? = some t)
    (hrows : LockedRows w.store t job item) :
    job.providerConfigId = t.prepared.providerConfigId ∧
      job.modelParameters = t.prepared.providerSnapshot :=
  (hw.preparedFor ht).job hw.keys hrows.item_mem hrows.job_mem hrows.item_id hrows.item_job.symm

/-- What the other claims know outlives a write. -/
theorem fits_granted (hw : Serial env lockKey w) {k i : Nat} {t u : ClaimTransaction}
    {job : GradingJob} {item : GradingJobItem} {n c : Nat} {attempt : GradingAttempt}
    {leaseToken : Uuid} {s' : Store} (ht : w.transactions[k]? = some t)
    (hphase : t.phase = .sequenced job item n c) (hu : w.transactions[i]? = some u) (hik : i ≠ k)
    (hclaimed : Store.Claimed w.store s' t.prepared job item attempt t.clock leaseToken) :
    Fits s' u u.phase := by
  have hfits := hw.fits k t ht
  rw [hphase] at hfits
  have hprovider := (hw.job_eq ht hfits.2.1).1
  have hmove : Store.AnyMove env w.store s' := .claimed hclaimed
  refine (hw.fits i u hu).mono (fun hholds => ?_) (fun i' hi' => hmove.item_kept hw.wellFormed.sound hi')
    (fun j hj hlock => ?_) (fun i' hi' hlock => ?_) fun id hlock => ?_
  · have hne : job.providerConfigId ≠ u.prepared.providerConfigId := by
      intro he
      refine hik (hw.advisory i k u t hu ht hholds (by rw [hphase]; rfl) ?_)
      rw [← he, hprovider]
    have hle := hclaimed.runningCount_le hw.wellFormed u.prepared.providerConfigId
    rwa [if_neg hne, Nat.add_zero] at hle
  · have hne : j.id ≠ job.id := fun he =>
      hik (hw.jobs i k u t j.id hu ht hlock (by rw [hphase, he]; rfl))
    rw [hclaimed.eq]
    exact (Table.mem_replaceRow hclaimed.job_mem).2 (.inr ⟨hj, hne⟩)
  · have hne : i'.id ≠ item.id := fun he =>
      hik (hw.items i k u t i'.id hu ht hlock (by rw [hphase, he]; rfl))
    rw [hclaimed.eq]
    exact (Table.mem_replaceRow hclaimed.item_mem).2 (.inr ⟨hi', hne⟩)
  · have hne : item.id ≠ id := fun he =>
      hik (hw.items i k u t id hu ht hlock (by rw [hphase, ← he]; rfl))
    obtain ⟨hash, attemptId, hattempt⟩ := hclaimed.attempt_eq
    have hitem : attempt.gradingJobItemId = item.id := by rw [hattempt]; rfl
    rw [hclaimed.eq, callsOf, callsOf, List.map_append, List.filter_append]
    simp [hitem, hne]

theorem granted (hw : Serial env lockKey w) {k : Nat} {t : ClaimTransaction} {job : GradingJob}
    {item : GradingJobItem} {n c : Nat} {attemptId leaseToken : Uuid} {s' : Store}
    {claim : GradingAttemptClaim} {grant : ClaimGrant}
    (hgrant : grant = ⟨k, item.id, item.delivery⟩) (ht : w.transactions[k]? = some t)
    (hphase : t.phase = .sequenced job item n c)
    (hwrite : writeClaim w.store t job item (attemptRow w.store t item n c attemptId) leaseToken =
      .ok s') :
    Serial env lockKey ({ w with store := s', granted := w.granted ++ [grant] }.setPhase k t
      (.finished (some claim))) := by
  have hfits := hw.fits k t ht
  rw [hphase] at hfits
  obtain ⟨attempt, hclaimed⟩ := claimed_of_write hw.keys hfits hwrite
  have hwf := hw.wellFormed
  have hmove : Store.AnyMove env w.store s' := .claimed hclaimed
  have hjob := hw.job_eq ht hfits.2.1
  have hw' : Serial env lockKey (w.setPhase k t (.finished (some claim))) :=
    hw.setPhase ht trivial (fun h => by cases h) (fun _ h => by cases h) fun _ h => by cases h
  subst hgrant
  refine { hw' with
    reached := ?_, limits := ?_, prepared := ?_, fits := ?_, spent := ?_, once := ?_ }
  · obtain ⟨as, has⟩ := hw.reached
    obtain ⟨claim', hclaim⟩ := claimAttempt_of_write hw.keys hfits hwrite
    refine ⟨as ++ [.claimAttempt t.prepared t.requestHash t.clock attemptId leaseToken], ?_⟩
    have hexec : w.store.exec env (.claimAttempt t.prepared t.requestHash t.clock attemptId
        leaseToken) = .ok s' := Store.map_snd_eq_ok.2 ⟨_, hclaim⟩
    rw [Store.after_concat, ← has]
    exact (Store.step_of_ok hexec).symm
  · refine hclaimed.withinLimits hwf ?_ hw.limits
    rw [hjob.1, hjob.2]
    exact hfits.1
  · exact fun p hp => hmove.preparedFor hwf.sound (hw.prepared p hp)
  · intro i u hu
    rcases Table.getElem?_set_cases hu with ⟨-, rfl⟩ | ⟨hik, hold⟩
    · trivial
    · exact hw.fits_granted ht hphase hold hik hclaimed
  · intro g hg
    rcases List.mem_append.1 hg with hg | hg
    · exact hmove.spent hw.keys (hw.spent g hg)
    · rw [List.mem_singleton.1 hg]
      exact hclaimed.spent
  · refine List.pairwise_append.2 ⟨hw.once, List.pairwise_singleton _ _, fun g hg g' hg' => ?_⟩
    rw [List.mem_singleton.1 hg']
    intro he
    obtain ⟨hid, hdelivery⟩ := Prod.mk.inj he
    have hspent := hw.spent g hg
    rw [show g.itemId = item.id from hid] at hspent
    exact hspent.ne hw.keys hclaimed.item_mem hclaimed.item_queued hdelivery

/-- What the claims know outlives a transaction that leaves their rows alone. -/
theorem fits_other (hw : Serial env lockKey w) {a : Action env} (ha : ¬Store.isClaim a)
    (hkeeps : w.keepsLocked (Store.step env w.store a) = true) {i : Nat} {u : ClaimTransaction}
    (hu : w.transactions[i]? = some u) : Fits (Store.step env w.store a) u u.phase := by
  have hwf := hw.wellFormed
  have hlocked := List.all_eq_true.1 hkeeps u (List.mem_of_getElem? hu)
  rw [Bool.and_eq_true] at hlocked
  have hcalls : (Store.step env w.store a).attempts.map (·.toAttemptIdentity) =
      w.store.attempts.map (·.toAttemptIdentity) :=
    Store.step_ungranted (P := fun s => s.attempts.map (·.toAttemptIdentity) =
      w.store.attempts.map (·.toAttemptIdentity)) hwf ha
      (fun _ _ ht hm he => (hm.identities ht.sound.keys).trans he) rfl
  refine (hw.fits i u hu).mono (fun _ => ?_) (fun i' hi' => ?_) (fun j hj hlock => ?_)
    (fun i' hi' hlock => ?_) fun id _ => ?_
  · exact Store.step_ungranted (P := fun s => s.runningCount u.prepared.providerConfigId ≤
      w.store.runningCount u.prepared.providerConfigId) hwf ha
      (fun _ _ ht hm hle => (hm.runningCount_le ht _).trans hle) le_rfl
  · refine Store.step_ungranted (P := fun s => ∃ i'' ∈ s.items, i''.toItemIdentity =
      i'.toItemIdentity) hwf ha (fun _ _ ht hm ⟨x, hx, hxi⟩ => ?_) ⟨i', hi', rfl⟩
    obtain ⟨y, hy, hyx⟩ := hm.1.item_kept ht.sound hx
    exact ⟨y, hy, hyx.trans hxi⟩
  · have hsame := hlocked.1
    rw [hlock, Option.all_some, beq_iff_eq, Table.find?_eq_some_of_key hw.keys.jobs hj
      (fun x => x.id == j.id) (by simp) (by simp)] at hsame
    exact List.mem_of_find?_eq_some hsame
  · have hsame := hlocked.2
    rw [hlock, Option.all_some, beq_iff_eq, Table.find?_eq_some_of_key hw.keys.items hi'
      (fun x => x.id == i'.id) (by simp) (by simp)] at hsame
    exact List.mem_of_find?_eq_some hsame
  · rw [callsOf, callsOf, hcalls]

theorem other (hw : Serial env lockKey w) {a : Action env} (ha : ¬Store.isClaim a)
    (hkeeps : w.keepsLocked (Store.step env w.store a) = true) :
    Serial env lockKey { w with store := Store.step env w.store a } where
  reached := by
    obtain ⟨as, has⟩ := hw.reached
    exact ⟨as ++ [a], by rw [Store.after_concat, ← has]⟩
  limits := Store.step_ungranted hw.wellFormed ha (fun _ _ ht hm hl => hm.withinLimits ht hl)
    hw.limits
  prepared p hp := Store.step_ungranted (P := fun s => s.PreparedFor p) hw.wellFormed ha
    (fun _ _ ht hm hp => hm.1.preparedFor ht.sound hp) (hw.prepared p hp)
  claims := hw.claims
  fits _ _ hu := hw.fits_other ha hkeeps hu
  advisory := hw.advisory
  jobs := hw.jobs
  items := hw.items
  spent g hg := Store.step_ungranted (P := fun s => s.Spent g.itemId g.delivery) hw.wellFormed ha
    (fun _ _ ht hm hs => hm.1.spent ht.sound.keys hs) (hw.spent g hg)
  once := hw.once

/-- A claim that has not begun has no locks. -/
theorem started (hw : Serial env lockKey w) {t : ClaimTransaction} (h : t.prepared ∈ w.preparations)
    (hphase : t.phase = .started) :
    Serial env lockKey { w with transactions := w.transactions ++ [t] } := by
  refine { hw with claims := ?_, fits := ?_, advisory := ?_, jobs := ?_, items := ?_ }
  · intro u hu
    rcases List.mem_append.1 hu with hu | hu
    · exact hw.claims u hu
    · rw [List.mem_singleton.1 hu]
      exact h
  · intro i u hu
    rcases Table.getElem?_concat_cases hu with hold | rfl
    · exact hw.fits i u hold
    · rw [hphase]
      trivial
  · intro i j u v hu hv hholds hholds' hkey
    rcases Table.getElem?_concat_cases hu with hu | rfl
    · rcases Table.getElem?_concat_cases hv with hv | rfl
      · exact hw.advisory i j u v hu hv hholds hholds' hkey
      · rw [hphase] at hholds'
        cases hholds'
    · rw [hphase] at hholds
      cases hholds
  · intro i j u v id hu hv hlock hlock'
    rcases Table.getElem?_concat_cases hu with hu | rfl
    · rcases Table.getElem?_concat_cases hv with hv | rfl
      · exact hw.jobs i j u v id hu hv hlock hlock'
      · rw [hphase] at hlock'
        cases hlock'
    · rw [hphase] at hlock
      cases hlock
  · intro i j u v id hu hv hlock hlock'
    rcases Table.getElem?_concat_cases hu with hu | rfl
    · rcases Table.getElem?_concat_cases hv with hv | rfl
      · exact hw.items i j u v id hu hv hlock hlock'
      · rw [hphase] at hlock'
        cases hlock'
    · rw [hphase] at hlock
      cases hlock

end Serial

/-- **One statement keeps the invariant.** -/
theorem Move.serial {env : Runtime} {lockKey : Uuid → Int} {w w' : ClaimWorld}
    {e : ClaimEvent env} (hw : Serial env lockKey w) (h : Move env lockKey w e w') :
    Serial env lockKey w' := by
  cases h with
  | kept => exact hw
  | prepared p hp =>
    refine { hw with prepared := fun q hq => ?_, claims := fun t ht => ?_ }
    · rcases List.mem_append.1 hq with hq | hq
      · exact hw.prepared q hq
      · rw [List.mem_singleton.1 hq]
        exact hp
    · exact List.mem_append_left _ (hw.claims t ht)
  | started t ht hphase => exact hw.started ht hphase
  | moved k t phase ht hmove => exact hw.moved ht hmove
  | granted k t job item n c attemptId leaseToken store claim grant hgrant he ht hphase hwrite =>
    exact hw.granted hgrant ht hphase hwrite
  | other a ha hkeeps => exact hw.other ha hkeeps

/-! ## Runs -/

def start : ClaimWorld := ⟨.empty, [], [], []⟩

theorem start_serial (env : Runtime) (lockKey : Uuid → Int) : Serial env lockKey start :=
  ⟨⟨[], rfl⟩, Store.withinLimits_empty, by simp [start], by simp [start], by simp [start],
    by simp [start], by simp [start], by simp [start], by simp [start], .nil⟩

theorem run_serial {env : Runtime} {lockKey : Uuid → Int} {w : ClaimWorld}
    (hw : Serial env lockKey w) (events : List (ClaimEvent env)) :
    Serial env lockKey (Runs.run (step env lockKey) w events) :=
  Runs.run_invariant events hw fun w e hw => (step_move lockKey w e).serial hw

/-- A step inserts no attempt, or it is the write of a claim that found a queued item and room
under the limit of its job. -/
theorem granted_step {env : Runtime} {lockKey : Uuid → Int} {w : ClaimWorld}
    (hw : Serial env lockKey w) (e : ClaimEvent env) :
    ((w.step env lockKey e).granted = w.granted ∧
      (w.step env lockKey e).store.attempts.length = w.store.attempts.length) ∨
    ∃ k attemptId leaseToken, e = .write k attemptId leaseToken ∧
      ∃ job ∈ w.store.jobs, ∃ item ∈ w.store.items, item.gradingJobId = job.id ∧
        item.status = .queued ∧
        w.store.runningCount job.providerConfigId < job.modelParameters.maxConcurrency ∧
        (w.step env lockKey e).granted = w.granted ++ [⟨k, item.id, item.delivery⟩] ∧
        ∃ attempt, attempt.gradingJobItemId = item.id ∧
          (w.step env lockKey e).store.attempts = w.store.attempts ++ [attempt] := by
  have hmove := step_move lockKey w e
  generalize w.step env lockKey e = w' at hmove ⊢
  cases hmove with
  | kept | prepared | started | moved => exact .inl ⟨rfl, rfl⟩
  | other a ha hkeeps =>
    exact .inl ⟨rfl, Store.step_ungranted (P := fun s => s.attempts.length =
      w.store.attempts.length) hw.wellFormed ha (fun _ _ _ hm he => hm.2.trans he) rfl⟩
  | granted k t job item n c attemptId leaseToken store claim grant hgrant he ht hphase hwrite =>
    have hfits := hw.fits k t ht
    rw [hphase] at hfits
    obtain ⟨attempt, hclaimed⟩ := claimed_of_write hw.keys hfits hwrite
    obtain ⟨hprovider, hparameters⟩ := hw.job_eq ht hfits.2.1
    obtain ⟨hash, id, hattempt⟩ := hclaimed.attempt_eq
    refine .inr ⟨k, attemptId, leaseToken, he, job, hclaimed.job_mem, item, hclaimed.item_mem,
      hclaimed.item_job, hclaimed.item_queued, ?_, by rw [← hgrant]; rfl, attempt, ?_, ?_⟩
    · rw [hprovider, hparameters]
      exact hfits.1
    · rw [hattempt]
      rfl
    · exact congrArg Store.attempts hclaimed.eq

/-- **Claims.**  However the statements of claims and the other transactions interleave: an
attempt starts only when fewer attempts of its provider run than its job allows; the limits
frozen in a provider's jobs bound its running attempts; no delivery is claimed twice. -/
theorem run_claims (env : Runtime) (lockKey : Uuid → Int) (events : List (ClaimEvent env)) :
    let w := Runs.run (step env lockKey) start events
    (∀ e, ((w.step env lockKey e).granted = w.granted ∧
        (w.step env lockKey e).store.attempts.length = w.store.attempts.length) ∨
      ∃ k attemptId leaseToken, e = .write k attemptId leaseToken ∧
        ∃ job ∈ w.store.jobs, ∃ item ∈ w.store.items, item.gradingJobId = job.id ∧
          item.status = .queued ∧
          w.store.runningCount job.providerConfigId < job.modelParameters.maxConcurrency ∧
          (w.step env lockKey e).granted = w.granted ++ [⟨k, item.id, item.delivery⟩] ∧
          ∃ attempt, attempt.gradingJobItemId = item.id ∧
            (w.step env lockKey e).store.attempts = w.store.attempts ++ [attempt]) ∧
    (∀ p, w.store.runningCount p = 0 ∨ ∃ j ∈ w.store.jobs, j.providerConfigId = p ∧
      w.store.runningCount p ≤ j.modelParameters.maxConcurrency) ∧
    w.granted.Pairwise fun g h => (g.itemId, g.delivery) ≠ (h.itemId, h.delivery) := by
  intro w
  have hw : Serial env lockKey w := run_serial (start_serial env lockKey) events
  exact ⟨fun e => granted_step hw e, hw.limits, hw.once⟩

end ClaimWorld

end PaperGrading
