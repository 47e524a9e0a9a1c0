import PaperGrading.Store.Rows

/-!
# Retention objects

`retention_objects` and the database functions that claim, revalidate, complete and fail
them.  Every update meets the state constraint of the table.

    a claimed row was claimable                                        (claimNext_eq_some)
    the updates of the functions keep `stateCheck`     (stateCheck_claimed, stateCheck_completed, …)
-/

namespace PaperGrading

inductive RetentionObjectClass where
  | submissionSource | submissionExtracted | gradingRawResponse
  deriving DecidableEq

inductive RetentionObjectStatus where
  | candidate | running | completed | failed | invalidated
  deriving DecidableEq

inductive StorageDeleteResult where
  | deleted | missing
  deriving DecidableEq

/-- A row of `retention_objects`. -/
structure RetentionObject where
  id : Uuid
  ownerId : Uuid
  category : RetentionObjectClass
  sourceRecordId : Uuid
  objectKey : String
  retentionAnchorAt : Time
  eligibleAt : Time
  status : RetentionObjectStatus
  holdUntil : Option Time
  holdReason : Option String
  claimToken : Option Uuid
  leaseExpiresAt : Option Time
  claimCount : Nat
  nextAttemptAt : Option Time
  lastErrorCode : Option String
  storageResult : Option StorageDeleteResult
  deletedAt : Option Time
  completedAt : Option Time
  deriving DecidableEq

namespace RetentionObject

/-- The check constraint `state`. -/
def stateCheck (r : RetentionObject) : Bool :=
  let open_ := r.deletedAt.isNone && r.completedAt.isNone && r.storageResult.isNone
  match r.status with
  | .running => r.claimToken.isSome && r.leaseExpiresAt.isSome && open_
  | .candidate | .failed | .invalidated =>
    r.claimToken.isNone && r.leaseExpiresAt.isNone && open_
  | .completed => r.claimToken.isNone && r.leaseExpiresAt.isNone && r.deletedAt.isSome &&
      r.completedAt.isSome && r.storageResult.isSome

/-- Completed or invalidated. -/
def isFinal (r : RetentionObject) : Bool := r.status == .completed || r.status == .invalidated

/-- The token of the row, and its lease runs. -/
def holds (token : Uuid) (now : Time) (r : RetentionObject) : Bool :=
  r.status == .running && r.claimToken == some token && r.leaseExpiresAt.any (now < ·)

def onHold (now : Time) (r : RetentionObject) : Bool := r.holdUntil.any (now < ·)

/-! ## Claiming -/

/-- The condition of `claim_next_retention_object`; `enabled` is the policy table. -/
def claimable (enabled : RetentionObjectClass → Option Bool) (now : Time) (r : RetentionObject) :
    Bool :=
  enabled r.category == some true && decide (r.eligibleAt ≤ now) &&
    r.nextAttemptAt.all (· ≤ now) && r.holdUntil.all (· ≤ now) &&
    (r.status == .candidate || r.status == .failed ||
      (r.status == .running && r.leaseExpiresAt.any (· ≤ now)))

def claimed (token : Uuid) (leaseSeconds : Nat) (now : Time) (r : RetentionObject) :
    RetentionObject :=
  { r with
    status := .running, claimToken := some token
    leaseExpiresAt := some (now + leaseSeconds * 1000000)
    claimCount := r.claimCount + 1, nextAttemptAt := none, lastErrorCode := none }

/-- `ORDER BY eligible_at, id`. -/
def before (x y : RetentionObject) : Bool :=
  decide (x.eligibleAt < y.eligibleAt) || (x.eligibleAt == y.eligibleAt && x.id.toNat ≤ y.id.toNat)

/-! ## Revalidating -/

/-- The record of its category still names the object. -/
def referenced (store : Store) (r : RetentionObject) : Bool :=
  match r.category with
  | .submissionSource => store.submissions.any fun s =>
      s.id == r.sourceRecordId && s.ownerId == r.ownerId && s.sourceObjectKey == r.objectKey
  | .submissionExtracted => store.submissions.any fun s =>
      s.id == r.sourceRecordId && s.ownerId == r.ownerId && s.extractedObjectKey == some r.objectKey
  | .gradingRawResponse => store.attempts.any fun a =>
      a.id == r.sourceRecordId && a.ownerId == r.ownerId &&
        a.rawResponseObjectKey == some r.objectKey

def invalidated (r : RetentionObject) : RetentionObject :=
  { r with
    status := .invalidated, claimToken := none, leaseExpiresAt := none
    lastErrorCode := some "retention_candidate_invalidated" }

/-! ## Closing -/

def completed (result : StorageDeleteResult) (now : Time) (r : RetentionObject) :
    RetentionObject :=
  { r with
    status := .completed, claimToken := none, leaseExpiresAt := none, lastErrorCode := none
    storageResult := some result, deletedAt := some now, completedAt := some now }

def failed (errorCode : String) (now : Time) (r : RetentionObject) : RetentionObject :=
  { r with
    status := .failed, claimToken := none, leaseExpiresAt := none
    nextAttemptAt := some (now + 300 * 1000000), lastErrorCode := some errorCode }

/-- An operator's hold. -/
def held (hold : Option (Time × String)) (r : RetentionObject) : RetentionObject :=
  { r with holdUntil := hold.map (·.1), holdReason := hold.map (·.2) }

end RetentionObject

/-! ## The functions -/

/-- `UPDATE retention_objects SET … WHERE id = … AND …`. -/
def updateObject (id : Uuid) (p : RetentionObject → Bool) (set : RetentionObject → RetentionObject)
    (objects : List RetentionObject) : List RetentionObject :=
  objects.map fun r => if r.id = id ∧ p r = true then set r else r

/-- The row that `claim_next_retention_object` selects; `skip` are the rows that another
transaction has locked or that the snapshot does not show. -/
def selectNext (enabled : RetentionObjectClass → Option Bool) (skip : Uuid → Bool) (now : Time)
    (objects : List RetentionObject) : Option RetentionObject :=
  ((objects.filter fun r => r.claimable enabled now && !skip r.id).mergeSort
    RetentionObject.before).head?

/-- `claim_next_retention_object`: the claimed row and the table. -/
def claimNextRetentionObject (enabled : RetentionObjectClass → Option Bool) (skip : Uuid → Bool)
    (token : Uuid) (leaseSeconds : Nat) (now : Time) (objects : List RetentionObject) :
    Option (RetentionObject × List RetentionObject) :=
  if 30 ≤ leaseSeconds ∧ leaseSeconds ≤ 900 then
    (selectNext enabled skip now objects).map fun r =>
      (r.claimed token leaseSeconds now,
        updateObject r.id (fun _ => true) (RetentionObject.claimed token leaseSeconds now) objects)
  else none

/-- `complete_retention_object`: whether a row was completed, and the table. -/
def completeRetentionObject (id token : Uuid) (result : StorageDeleteResult) (now : Time)
    (objects : List RetentionObject) : Bool × List RetentionObject :=
  (objects.any fun r => r.id == id && r.holds token now,
    updateObject id (RetentionObject.holds token now) (RetentionObject.completed result now) objects)

/-- `fail_retention_object`. -/
def failRetentionObject (id token : Uuid) (errorCode : String) (now : Time)
    (objects : List RetentionObject) : Bool × List RetentionObject :=
  if btrimEmpty errorCode then (false, objects)
  else (objects.any fun r => r.id == id && r.holds token now,
    updateObject id (RetentionObject.holds token now) (RetentionObject.failed errorCode now) objects)

/-! ## What they do to a row -/

namespace RetentionObject

theorem holds_iff {token : Uuid} {now : Time} {r : RetentionObject} :
    r.holds token now = true ↔ r.status = .running ∧ r.claimToken = some token ∧
      ∃ lease, r.leaseExpiresAt = some lease ∧ now < lease := by
  unfold holds
  simp [Option.any_eq_true, and_assoc]

theorem stateCheck_claimed {token : Uuid} {leaseSeconds : Nat} {now : Time} {r : RetentionObject}
    (h : r.stateCheck = true) (hstatus : r.isFinal = false) :
    (r.claimed token leaseSeconds now).stateCheck = true := by
  unfold stateCheck isFinal at *
  cases hs : r.status <;> simp_all [claimed]

theorem stateCheck_invalidated {r : RetentionObject} (h : r.stateCheck = true)
    (hstatus : r.status = .running) : r.invalidated.stateCheck = true := by
  unfold stateCheck at *
  simp_all [invalidated]

theorem stateCheck_completed {result : StorageDeleteResult} {now : Time} (r : RetentionObject) :
    (r.completed result now).stateCheck = true := rfl

theorem stateCheck_failed {errorCode : String} {now : Time} {r : RetentionObject}
    (h : r.stateCheck = true) (hstatus : r.status = .running) :
    (r.failed errorCode now).stateCheck = true := by
  unfold stateCheck at *
  simp_all [failed]

theorem isFinal_of_claimable {enabled : RetentionObjectClass → Option Bool} {now : Time}
    {r : RetentionObject} (h : r.claimable enabled now = true) : r.isFinal = false := by
  unfold claimable at h
  unfold isFinal
  cases hs : r.status <;> simp_all

end RetentionObject

theorem claimNext_eq_some {enabled : RetentionObjectClass → Option Bool} {skip : Uuid → Bool}
    {token : Uuid} {leaseSeconds : Nat} {now : Time} {objects objects' : List RetentionObject}
    {claimed : RetentionObject}
    (h : claimNextRetentionObject enabled skip token leaseSeconds now objects =
      some (claimed, objects')) :
    ∃ r ∈ objects, r.claimable enabled now = true ∧ skip r.id = false ∧
      claimed = r.claimed token leaseSeconds now ∧ objects' = updateObject r.id (fun _ => true)
        (RetentionObject.claimed token leaseSeconds now) objects := by
  unfold claimNextRetentionObject at h
  split at h
  · obtain ⟨r, hr, h⟩ := Option.map_eq_some_iff.1 h
    obtain ⟨rfl, rfl⟩ := Prod.mk.inj h
    have hmem := List.mem_of_mem_head? hr
    rw [List.mem_mergeSort, List.mem_filter, Bool.and_eq_true, Bool.not_eq_true'] at hmem
    exact ⟨r, hmem.1, hmem.2.1, hmem.2.2, rfl, rfl⟩
  · cases h

end PaperGrading
