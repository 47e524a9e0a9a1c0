import PaperGrading.Domain.Values
import PaperGrading.Base.Table
import PaperGrading.Base.Runs
import PaperGrading.Store.Rows
import Mathlib.Algebra.Order.Floor.Semiring
import Mathlib.Data.Rat.Floor
import Mathlib.Logic.Function.Basic

/-!
# The storage quota

`reserve_storage_growth` and `finalize_storage_growth` on the reservations and on the objects
of the bucket, the repository that rolls a refused reservation back, and the writers of
`storage/supabase.py`: each reserves, writes its object and finalises, and any other writer,
deletion or loss comes in between.  The operation key of a write is made of its object key and
content hash, so that a repeated write repeats its key.
-/

namespace PaperGrading

/-! ## The bucket -/

/-- A row of `storage.objects`, with the size in its metadata. -/
structure StoredObject where
  name : String
  size : Nat
  deriving DecidableEq

/-- The objects of the bucket; their names are unique. -/
structure Bucket where
  objects : List StoredObject
  unique : (objects.map (·.name)).Nodup

namespace Bucket

def empty : Bucket := ⟨[], List.nodup_nil⟩

/-- The total size. -/
def used (b : Bucket) : Nat := (b.objects.map (·.size)).sum

/-- The size of what a write to a key replaces. -/
def replacedSize (b : Bucket) (name : String) : Nat :=
  (b.objects.map fun o => if o.name = name then o.size else 0).foldr max 0

def has (b : Bucket) (name : String) : Bool := b.objects.any (·.name == name)

theorem unique_filter (b : Bucket) (p : StoredObject → Bool) :
    ((b.objects.filter p).map (·.name)).Nodup :=
  b.unique.sublist (List.filter_sublist.map _)

def remove (b : Bucket) (name : String) : Bucket :=
  ⟨b.objects.filter (·.name != name), b.unique_filter _⟩

/-- A write that replaces what is there. -/
def put (b : Bucket) (name : String) (size : Nat) : Bucket where
  objects := ⟨name, size⟩ :: (b.remove name).objects
  unique := by
    refine List.nodup_cons.2 ⟨fun h => ?_, (b.remove name).unique⟩
    obtain ⟨o, ho, he⟩ := List.mem_map.1 h
    have := List.of_mem_filter ho
    simp [he] at this

/-- A write that creates the object or leaves what is there. -/
def putOnce (b : Bucket) (name : String) (size : Nat) : Bucket :=
  if b.has name then b else b.put name size

end Bucket

/-! ## Reservations -/

inductive ReservationStatus where
  | reserved | committed | released | uncertain
  deriving DecidableEq

structure QuotaReservation where
  id : Uuid
  operationKey : String
  objectKey : String
  contentSha256 : Hash
  requestedBytes : Nat
  usedBytesSnapshot : Nat
  reservedBytesSnapshot : Nat
  capacityBytesSnapshot : Nat
  status : ReservationStatus
  leaseExpiresAt : Time
  deriving DecidableEq

/-- The storage row of `quota_resource_states` once it is enabled. -/
structure QuotaLimits where
  capacityBytes : Nat
  warningRatio : ℚ
  hardLimitRatio : ℚ
  reservationSeconds : Nat
  capacity : 0 < capacityBytes
  thresholds : 0 < warningRatio ∧ warningRatio < hardLimitRatio ∧ hardLimitRatio ≤ 1
  intervals : 60 ≤ reservationSeconds ∧ reservationSeconds ≤ 3600

namespace QuotaLimits

/-- `ceil(capacity_bytes * hard_limit_ratio)`. -/
def hardLimit (l : QuotaLimits) : Nat := ⌈l.capacityBytes * l.hardLimitRatio⌉₊

def warningLimit (l : QuotaLimits) : Nat := ⌈l.capacityBytes * l.warningRatio⌉₊

end QuotaLimits

structure GrowthRequest where
  operationKey : String
  objectKey : String
  contentSha256 : Hash
  requestedBytes : Nat
  deriving DecidableEq

inductive QuotaState where
  | ok | warning | blocked | unavailable
  deriving DecidableEq

/-- A row that the functions return. -/
structure QuotaAnswer where
  state : QuotaState
  reservationId : Option Uuid
  usedBytes : Nat
  reservedBytes : Nat
  requestedBytes : Nat
  capacityBytes : Option Nat
  errorCode : Option String
  deriving DecidableEq

/-- The states of a finished write. -/
inductive FinalStatus where
  | committed | released | uncertain
  deriving DecidableEq

def FinalStatus.status : FinalStatus → ReservationStatus
  | .committed => .committed
  | .released => .released
  | .uncertain => .uncertain

structure QuotaStore where
  bucket : Bucket
  reservations : List QuotaReservation

namespace QuotaStore

/-- The reservation of an operation. -/
def reservationOf (s : QuotaStore) (operationKey : String) : Option QuotaReservation :=
  s.reservations.find? (·.operationKey == operationKey)

def setStatus (s : QuotaStore) (p : QuotaReservation → Bool) (status : ReservationStatus) :
    QuotaStore :=
  { s with reservations := Table.setWhere p ({ · with status }) s.reservations }

/-- Reservations whose lease is over become uncertain. -/
def expire (s : QuotaStore) (now : Time) : QuotaStore :=
  s.setStatus (fun r => r.status == .reserved && decide (r.leaseExpiresAt ≤ now)) .uncertain

/-- The reservations that are added to the sizes of the objects: those of running leases, and
those of finished writes whose object is not there. -/
def counts (s : QuotaStore) (now : Time) (r : QuotaReservation) : Bool :=
  (r.status == .reserved && decide (now < r.leaseExpiresAt)) ||
    ((r.status == .committed || r.status == .uncertain) && !s.bucket.has r.objectKey)

/-- The bytes that other keys have reserved. -/
def reservedBytes (s : QuotaStore) (now : Time) (objectKey : String) : Nat :=
  ((s.reservations.filter fun r => s.counts now r && r.objectKey != objectKey).map
    (·.requestedBytes)).sum

def unavailable (q : GrowthRequest) (capacityBytes : Option Nat) (errorCode : String) :
    QuotaAnswer :=
  ⟨.unavailable, none, 0, 0, q.requestedBytes, capacityBytes, some errorCode⟩

/-- The answer of a reservation that is there already. -/
def replay (r : QuotaReservation) : QuotaAnswer :=
  ⟨.ok, some r.id, r.usedBytesSnapshot, r.reservedBytesSnapshot, r.requestedBytes,
    some r.capacityBytesSnapshot, none⟩

def growthState (l : QuotaLimits) (projected : Nat) : QuotaState :=
  if l.hardLimit ≤ projected then .blocked
  else if l.warningLimit ≤ projected then .warning
  else .ok

/-- The insertion of a new reservation, or the renewal of the one of the operation. -/
def hold (s : QuotaStore) (l : QuotaLimits) (q : GrowthRequest) (existing : Option QuotaReservation)
    (newId : Uuid) (now : Time) (used reserved : Nat) : Except TxError (Uuid × QuotaStore) :=
  let lease := now + l.reservationSeconds * 1000000
  match existing with
  | some r => .ok (r.id, { s with reservations := Table.setWhere (·.id == r.id) ({ · with
      status := .reserved, usedBytesSnapshot := used, reservedBytesSnapshot := reserved,
      capacityBytesSnapshot := l.capacityBytes, leaseExpiresAt := lease }) s.reservations })
  | none =>
    if s.reservations.any (·.id == newId) then .error (uniqueViolation "quota_reservations")
    else .ok (newId, { s with reservations := s.reservations ++ [{
      id := newId, operationKey := q.operationKey, objectKey := q.objectKey,
      contentSha256 := q.contentSha256, requestedBytes := q.requestedBytes,
      usedBytesSnapshot := used, reservedBytesSnapshot := reserved,
      capacityBytesSnapshot := l.capacityBytes, status := .reserved, leaseExpiresAt := lease }] })

/-- The part of `reserve_storage_growth` that weighs the request; `readable` is whether the objects
could be read. -/
def weigh (s : QuotaStore) (l : QuotaLimits) (q : GrowthRequest) (existing : Option QuotaReservation)
    (newId : Uuid) (readable : Bool) (now : Time) : Except TxError (QuotaAnswer × QuotaStore) :=
  if readable = false then
    .ok (unavailable q (some l.capacityBytes) "storage_usage_unavailable", s)
  else
    let s := s.expire now
    let used := s.bucket.used - s.bucket.replacedSize q.objectKey
    let reserved := s.reservedBytes now q.objectKey
    let state := growthState l (used + reserved + q.requestedBytes)
    if state = .blocked then
      .ok (⟨.blocked, none, s.bucket.used, reserved, q.requestedBytes, some l.capacityBytes, none⟩, s)
    else do
      let (id, s') ← s.hold l q existing newId now used reserved
      return (⟨state, some id, used, reserved, q.requestedBytes, some l.capacityBytes, none⟩, s')

/-- The reservation is of another write than the request. -/
def conflicts (r : QuotaReservation) (q : GrowthRequest) : Bool :=
  r.objectKey != q.objectKey || r.contentSha256 != q.contentSha256 ||
    r.requestedBytes != q.requestedBytes

/-- The reservation answers a repeated request. -/
def answers (r : QuotaReservation) (now : Time) : Bool :=
  (r.status == .reserved && decide (now < r.leaseExpiresAt)) || r.status == .committed

/-- `reserve_storage_growth`; `limits` is `none` while the quota is disabled. -/
def reserveStorageGrowth (s : QuotaStore) (limits : Option QuotaLimits) (q : GrowthRequest)
    (newId : Uuid) (readable : Bool) (now : Time) : Except TxError (QuotaAnswer × QuotaStore) :=
  if btrimEmpty q.operationKey ∨ 200 < q.operationKey.length ∨ btrimEmpty q.objectKey then
    .ok (unavailable q none "quota_request_invalid", s)
  else
    match limits with
    | none => .ok (⟨.ok, none, 0, 0, q.requestedBytes, none, none⟩, s)
    | some l =>
      match s.reservationOf q.operationKey with
      | none => s.weigh l q none newId readable now
      | some r =>
        if conflicts r q then
          .ok ({ replay r with
            state := .unavailable
            requestedBytes := q.requestedBytes
            errorCode := some "quota_idempotency_conflict" }, s)
        else if answers r now then .ok (replay r, s)
        else
          -- a lease that is over is recorded as uncertain before anything else
          let s := s.setStatus (fun x => x.id == r.id && r.status == .reserved) .uncertain
          s.weigh l q (some r) newId readable now

/-- `finalize_storage_growth`. -/
def finalizeStorageGrowth (s : QuotaStore) (id : Uuid) (status : FinalStatus) :
    QuotaAnswer × QuotaStore :=
  match s.reservations.find? (·.id == id) with
  | none => (⟨.unavailable, some id, 0, 0, 0, none, some "quota_reservation_not_found"⟩, s)
  | some r =>
    if r.status = .reserved ∨ r.status = .uncertain then
      (replay r, s.setStatus (·.id == id) status.status)
    else if r.status ≠ status.status then
      ({ replay r with state := .unavailable, errorCode := some "quota_finalize_conflict" }, s)
    else (replay r, s)

/-! ## The repository -/

inductive QuotaError where
  | exceeded (code : String)
  | unavailable (code : String)
  | database (error : TxError)
  deriving DecidableEq

/-- `_parse_result`. -/
def parseResult (a : QuotaAnswer) : Except QuotaError (Option Uuid) :=
  match a.state with
  | .blocked => .error (.exceeded (a.errorCode.getD "storage_quota_exceeded"))
  | .unavailable => .error (.unavailable (a.errorCode.getD "storage_quota_unavailable"))
  | .ok | .warning => .ok a.reservationId

/-- `SqlAlchemyQuotaRepository.reserve_storage_growth`: a refusal is raised inside the transaction
and rolls it back. -/
def reserveGrowth (s : QuotaStore) (limits : Option QuotaLimits) (q : GrowthRequest) (newId : Uuid)
    (readable : Bool) (now : Time) : Except QuotaError (Option Uuid × QuotaStore) :=
  match s.reserveStorageGrowth limits q newId readable now with
  | .error e => .error (.database e)
  | .ok (answer, s') =>
    match parseResult answer with
    | .error e => .error e
    | .ok id => .ok (id, s')

/-- `_finalize_storage_growth`. -/
def finalizeGrowth (s : QuotaStore) (id : Uuid) (status : FinalStatus) :
    Except QuotaError QuotaStore :=
  let (answer, s') := s.finalizeStorageGrowth id status
  match parseResult answer with
  | .error e => .error e
  | .ok _ => .ok s'

end QuotaStore

/-! ## Writers -/

/-- The bytes of a digest. -/
def hashBytes (h : Hash) : Bytes :=
  (List.range 32).reverse.map fun i => UInt8.ofNat (h.toNat / 256 ^ i)

/-- `_quota_operation_key`. -/
def quotaOperationKey (env : Runtime) (key : String) (contentSha256 : Hash) : String :=
  "storage:" ++ hashHex (env.sha256 ("paper-grading:storage-growth:v1".toUTF8.toList ++ 0 ::
    key.toUTF8.toList ++ 0 :: hashBytes contentSha256))

/-- A write of `storage/supabase.py`; `put_file` and `put_json` replace what is there, `put_file_once`
and `put_json_once` do not. -/
structure ObjectWrite where
  key : String
  contentSha256 : Hash
  size : Nat
  upsert : Bool
  deriving DecidableEq

/-- What `_reserve_growth` asks for. -/
def ObjectWrite.request (env : Runtime) (q : ObjectWrite) : GrowthRequest :=
  ⟨quotaOperationKey env q.key q.contentSha256, q.key, q.contentSha256, q.size⟩

/-- Where a writer stands; the identifier of its reservation is missing while the quota is
disabled. -/
inductive WriterPhase where
  | waiting
  /-- reserved, before the write -/
  | writing (reservation : Option Uuid)
  /-- written or failed, before the finalisation -/
  | closing (reservation : Option Uuid) (status : FinalStatus)
  | done
  deriving DecidableEq

structure QuotaWorld where
  store : QuotaStore
  phase : Nat → WriterPhase

/-- What comes of a write: it is confirmed, or it failed with or without an effect. -/
inductive ObjectWriteOutcome where
  | confirmed
  | failed (applied : Bool)
  deriving DecidableEq

inductive QuotaEvent where
  /-- the reservation of a writer; its answer may be lost -/
  | reserve (writer : Nat) (newId : Uuid) (readable answered : Bool) (now : Time)
  | write (writer : Nat) (outcome : ObjectWriteOutcome)
  /-- the finalisation of a writer, with or without an effect -/
  | finalize (writer : Nat) (applied : Bool)
  /-- the writer is lost -/
  | crash (writer : Nat)
  /-- a compensating deletion or one of the retention -/
  | delete (key : String)

namespace QuotaWorld

def setPhase (w : QuotaWorld) (n : Nat) (p : WriterPhase) : QuotaWorld :=
  { w with phase := Function.update w.phase n p }

def reserve (limits : Option QuotaLimits) (q : GrowthRequest) (n : Nat) (newId : Uuid)
    (readable answered : Bool) (now : Time) (w : QuotaWorld) : QuotaWorld :=
  match w.phase n with
  | .waiting =>
    match w.store.reserveGrowth limits q newId readable now with
    | .error _ => w.setPhase n .done
    | .ok (id, store) => { w.setPhase n (if answered then .writing id else .done) with store }
  | _ => w

def write (q : ObjectWrite) (n : Nat) (outcome : ObjectWriteOutcome) (w : QuotaWorld) : QuotaWorld :=
  match w.phase n with
  | .writing id =>
    let bucket := if q.upsert then w.store.bucket.put q.key q.size
      else w.store.bucket.putOnce q.key q.size
    match outcome with
    | .confirmed => { w.setPhase n (.closing id .committed) with store := { w.store with bucket } }
    | .failed applied =>
      { w.setPhase n (.closing id .uncertain) with
        store := if applied then { w.store with bucket } else w.store }
  | _ => w

def finalize (n : Nat) (applied : Bool) (w : QuotaWorld) : QuotaWorld :=
  match w.phase n with
  | .closing none _ => w.setPhase n .done
  | .closing (some id) status =>
    match w.store.finalizeGrowth id status with
    | .error _ => w.setPhase n .done
    | .ok store => { w.setPhase n .done with store := if applied then store else w.store }
  | _ => w

def delete (key : String) (w : QuotaWorld) : QuotaWorld :=
  { w with store := { w.store with bucket := w.store.bucket.remove key } }

def step (env : Runtime) (limits : Option QuotaLimits) (writers : Nat → ObjectWrite) (w : QuotaWorld) :
    QuotaEvent → QuotaWorld
  | .reserve n newId readable answered now =>
    w.reserve limits ((writers n).request env) n newId readable answered now
  | .write n outcome => w.write (writers n) n outcome
  | .finalize n applied => w.finalize n applied
  | .crash n => w.setPhase n .done
  | .delete key => w.delete key

/-- Before the first writer. -/
def start (store : QuotaStore) : QuotaWorld := ⟨store, fun _ => .waiting⟩

/-- The world after a run of events. -/
def after (env : Runtime) (limits : Option QuotaLimits) (writers : Nat → ObjectWrite)
    (store : QuotaStore) (es : List QuotaEvent) : QuotaWorld :=
  Runs.run (step env limits writers) (start store) es

end QuotaWorld

end PaperGrading
