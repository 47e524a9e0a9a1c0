import PaperGrading.Storage.Growth

/-!
# What the quota counts at rest

Without a write under way and without a held reservation the quota counts the objects, and the
reservations of finished writes whose object is not there.  A deletion takes the object and
leaves the reservation.

    the answer to a request for a new key                                    (reserveGrowth_new)
    it follows the objects exactly if every reservation has its object       (after_accounts_iff)
-/

namespace PaperGrading

open Table

namespace QuotaStore

variable {s : QuotaStore} {l : QuotaLimits} {q : GrowthRequest} {newId : Uuid} {now : Time}

/-- No reservation is held. -/
def Quiet (s : QuotaStore) : Prop := ∀ r ∈ s.reservations, r.status ≠ .reserved

/-- A well-formed request for a new object, and a free identifier for its reservation. -/
structure NewObject (s : QuotaStore) (q : GrowthRequest) (newId : Uuid) : Prop where
  wellFormed : ¬(btrimEmpty q.operationKey = true ∨ 200 < q.operationKey.length ∨
    btrimEmpty q.objectKey = true)
  operation : ∀ r ∈ s.reservations, r.operationKey ≠ q.operationKey
  reservations : ∀ r ∈ s.reservations, r.objectKey ≠ q.objectKey
  object : s.bucket.has q.objectKey = false
  id : ∀ r ∈ s.reservations, r.id ≠ newId

/-- The reservations whose object is not there. -/
def unbacked (s : QuotaStore) : Nat :=
  ((s.reservations.filter fun r => (r.status == .committed || r.status == .uncertain) &&
    !s.bucket.has r.objectKey).map (·.requestedBytes)).sum

/-- Every finished write that reserved something has its object. -/
def Backed (s : QuotaStore) : Prop :=
  ∀ r ∈ s.reservations, r.status = .committed ∨ r.status = .uncertain →
    r.requestedBytes = 0 ∨ s.bucket.has r.objectKey = true

theorem unbacked_eq_zero : s.unbacked = 0 ↔ s.Backed := by
  unfold unbacked Backed
  rw [List.sum_eq_zero_iff]
  simp only [List.mem_map, List.mem_filter, forall_exists_index, and_imp]
  constructor
  · intro h r hr hst
    by_cases hhas : s.bucket.has r.objectKey = true
    · exact .inr hhas
    · refine .inl (h _ r hr ?_ rfl)
      rcases hst with hst | hst <;> simp [hst, hhas]
  · rintro h _ r hr hp rfl
    simp only [Bool.and_eq_true, Bool.or_eq_true, beq_iff_eq, Bool.not_eq_true'] at hp
    rcases h r hr hp.1 with hzero | hhas
    · exact hzero
    · rw [hp.2] at hhas
      cases hhas

/-! ## At rest -/

theorem expire_quiet (hs : s.Quiet) : s.expire now = s := by
  unfold expire setStatus
  rw [setWhere_of_forall_false fun r hr => ?_]
  rw [beq_eq_false_iff_ne.2 (hs r hr), Bool.false_and]

theorem reservedBytes_quiet (hs : s.Quiet) (hnew : s.NewObject q newId) :
    s.reservedBytes now q.objectKey = s.unbacked := by
  unfold reservedBytes unbacked
  congr 2
  refine List.filter_congr fun r hr => ?_
  have hst : (r.status == .reserved) = false := beq_eq_false_iff_ne.2 (hs r hr)
  have hkey : (r.objectKey != q.objectKey) = true := bne_iff_ne.2 (hnew.reservations r hr)
  rw [counts, hst, hkey, Bool.false_and, Bool.false_or, Bool.and_true]

/-- The answer at rest: the objects and the reservations without an object. -/
theorem reserveGrowth_new (hs : s.Quiet) (hnew : s.NewObject q newId) :
    (l.hardLimit ≤ s.bucket.used + s.unbacked + q.requestedBytes ∧
        s.reserveGrowth (some l) q newId true now =
          .error (.exceeded "storage_quota_exceeded")) ∨
      (s.bucket.used + s.unbacked + q.requestedBytes < l.hardLimit ∧
        ∃ r, s.reserveGrowth (some l) q newId true now = .ok r) := by
  have hfind : s.reservationOf q.operationKey = none := by
    refine List.find?_eq_none.2 fun r hr => ?_
    simpa using hnew.operation r hr
  have hany : s.reservations.any (·.id == newId) = false := by
    refine List.any_eq_false.2 fun r hr => ?_
    simpa using hnew.id r hr
  have hused : s.bucket.used - s.bucket.replacedSize q.objectKey = s.bucket.used := by
    rw [Bucket.replacedSize_eq_zero hnew.object, Nat.sub_zero]
  unfold reserveGrowth reserveStorageGrowth
  rw [if_neg hnew.wellFormed]
  simp only [hfind]
  unfold weigh
  rw [if_neg (by decide)]
  simp only [expire_quiet hs, reservedBytes_quiet hs hnew, hused]
  by_cases hlimit : l.hardLimit ≤ s.bucket.used + s.unbacked + q.requestedBytes
  · refine .inl ⟨hlimit, ?_⟩
    rw [if_pos (growthState_eq_blocked.2 hlimit)]
    rfl
  · refine .inr ⟨not_le.1 hlimit, ?_⟩
    rw [if_neg (mt growthState_eq_blocked.1 hlimit)]
    unfold hold
    simp only [hany]
    cases hstate : growthState l (s.bucket.used + s.unbacked + q.requestedBytes) with
    | blocked => exact absurd (growthState_eq_blocked.1 hstate) hlimit
    | ok => exact ⟨_, rfl⟩
    | warning => exact ⟨_, rfl⟩
    | unavailable =>
      unfold growthState at hstate
      split at hstate
      · cases hstate
      · split at hstate <;> cases hstate

/-- Requests for a new key are answered by the objects alone. -/
def Accounts (s : QuotaStore) (l : QuotaLimits) (q : GrowthRequest) (newId : Uuid) : Prop :=
  ∀ requestedBytes now,
    ((∃ r, s.reserveGrowth (some l) { q with requestedBytes } newId true now = .ok r) ↔
      s.bucket.used + requestedBytes < l.hardLimit) ∧
    (s.reserveGrowth (some l) { q with requestedBytes } newId true now =
        .error (.exceeded "storage_quota_exceeded") ↔
      l.hardLimit ≤ s.bucket.used + requestedBytes)

/-- At rest the objects alone decide exactly if every reservation has its object, or if the
objects fill the bucket anyway. -/
theorem accounts_iff (hs : s.Quiet) (hnew : s.NewObject q newId) :
    s.Accounts l q newId ↔ s.Backed ∨ l.hardLimit ≤ s.bucket.used := by
  have hanswer (requestedBytes : Nat) (now : Time) :
      (l.hardLimit ≤ s.bucket.used + s.unbacked + requestedBytes ∧
          s.reserveGrowth (some l) { q with requestedBytes } newId true now =
            .error (.exceeded "storage_quota_exceeded")) ∨
        (s.bucket.used + s.unbacked + requestedBytes < l.hardLimit ∧
          ∃ r, s.reserveGrowth (some l) { q with requestedBytes } newId true now = .ok r) := by
    have hnew' : s.NewObject { q with requestedBytes } newId :=
      ⟨hnew.wellFormed, hnew.operation, hnew.reservations, hnew.object, hnew.id⟩
    exact reserveGrowth_new hs hnew'
  rw [← unbacked_eq_zero]
  constructor
  · intro h
    by_contra hcond
    push Not at hcond
    -- the largest request that the objects leave room for is refused
    obtain ⟨hadmitted, -⟩ := h (l.hardLimit - 1 - s.bucket.used) 0
    obtain ⟨r, hr⟩ := hadmitted.2 (by omega)
    rcases hanswer (l.hardLimit - 1 - s.bucket.used) 0 with ⟨-, herr⟩ | ⟨hlt, -⟩
    · rw [hr] at herr
      cases herr
    · have := hcond.1
      omega
  · intro hcond requestedBytes now
    rcases hanswer requestedBytes now with ⟨hle, herr⟩ | ⟨hlt, r, hr⟩
    · rw [herr]
      refine ⟨⟨fun ⟨r, hr⟩ => ?_, fun hlt => ?_⟩, fun _ => ?_, fun _ => rfl⟩
      · cases hr
      · omega
      · omega
    · rw [hr]
      refine ⟨⟨fun _ => ?_, fun _ => ⟨r, rfl⟩⟩, fun herr => ?_, fun hle => ?_⟩
      · omega
      · cases herr
      · omega

end QuotaStore

namespace QuotaWorld

variable {env : Runtime} {limits : Option QuotaLimits} {l : QuotaLimits} {writers : Nat → ObjectWrite}
  {w : QuotaWorld}

/-- No write is under way and every reservation is finalised. -/
structure AtRest (w : QuotaWorld) : Prop where
  idle : ∀ n id, w.phase n ≠ .writing id
  quiet : w.store.Quiet

/-- **What the quota counts after any history.** -/
theorem after_accounts_iff (store : QuotaStore) (es : List QuotaEvent)
    (hrest : (after env (some l) writers store es).AtRest) {q : GrowthRequest} {newId : Uuid}
    (hnew : (after env (some l) writers store es).store.NewObject q newId) :
    (after env (some l) writers store es).store.Accounts l q newId ↔
      (after env (some l) writers store es).store.Backed ∨
        l.hardLimit ≤ (after env (some l) writers store es).store.bucket.used :=
  QuotaStore.accounts_iff hrest.quiet hnew

end QuotaWorld

/-! ## A deleted object -/

namespace Sample

open QuotaWorld

/-- Written, confirmed and deleted again. -/
def deleted : List QuotaEvent := writeOnce 0 1 ++ [.delete "k"]

def stored : QuotaWorld := after sampleRuntime (some hundred) fourWriters emptyStore (writeOnce 0 1)

def emptied : QuotaWorld := after sampleRuntime (some hundred) fourWriters emptyStore deleted

def smallObject : GrowthRequest := ⟨"new", "n", 3, 20⟩

/-- The first writer is done, no other one came. -/
theorem atRest_of_first {es : List QuotaEvent} (hes : ∀ ev ∈ es, writerOf ev = none ∨ writerOf ev = some 0)
    (hdone : (after sampleRuntime (some hundred) fourWriters emptyStore es).phase 0 = .done)
    (hquiet : (after sampleRuntime (some hundred) fourWriters emptyStore es).store.reservations.all
      (·.status != .reserved) = true) :
    (after sampleRuntime (some hundred) fourWriters emptyStore es).AtRest := by
  refine ⟨fun n id hphase => ?_, fun r hr => by simpa using List.all_eq_true.1 hquiet r hr⟩
  by_cases hn : n = 0
  · subst hn
    rw [hdone] at hphase
    cases hphase
  · have hother : ∀ ev ∈ es, writerOf ev ≠ some n := by
      intro ev hev he
      rcases hes ev hev with hnone | hzero
      · rw [hnone] at he
        cases he
      · rw [hzero] at he
        exact hn (Option.some.inj he).symm
    rw [after_phase_other hother] at hphase
    cases hphase

theorem newObject_of {s : QuotaStore} {r : QuotaReservation} (hr : s.reservations = [r])
    (hop : r.operationKey ≠ "new") (hkey : r.objectKey ≠ "n") (hid : r.id ≠ 9)
    (hobject : s.bucket.has "n" = false) : s.NewObject smallObject 9 := by
  have hall {P : QuotaReservation → Prop} (h : P r) : ∀ x ∈ s.reservations, P x := by
    intro x hx
    rw [hr] at hx
    rw [List.mem_singleton.1 hx]
    exact h
  exact ⟨by decide +kernel, hall hop, hall hkey, hobject, hall hid⟩

/-- The reservation of the first writer, finalised. -/
def firstReservation : QuotaReservation :=
  ⟨1, quotaOperationKey sampleRuntime "k" 1, "k", 1, 90, 0, 0, 100, .committed, 60000000⟩

theorem stored_accounts : stored.store.Accounts hundred smallObject 9 := by
  have hrest : stored.AtRest :=
    atRest_of_first (by decide +kernel) (by decide +kernel) (by decide +kernel)
  have hrow : stored.store.reservations = [firstReservation] := by decide +kernel
  have hnew : stored.store.NewObject smallObject 9 :=
    newObject_of hrow (by decide +kernel) (by decide) (by decide) (by decide +kernel)
  exact (after_accounts_iff emptyStore (writeOnce 0 1) hrest hnew).2
    (.inl (QuotaStore.unbacked_eq_zero.1 (by decide +kernel)))

theorem emptied_counts : ¬∀ (es : List QuotaEvent) (q : GrowthRequest) (newId : Uuid),
    (after sampleRuntime (some hundred) fourWriters emptyStore es).AtRest →
    (after sampleRuntime (some hundred) fourWriters emptyStore es).store.NewObject q newId →
    (after sampleRuntime (some hundred) fourWriters emptyStore es).store.Accounts hundred q newId := by
  intro h
  have hrest : emptied.AtRest :=
    atRest_of_first (by decide +kernel) (by decide +kernel) (by decide +kernel)
  have hrow : emptied.store.reservations = [firstReservation] := by decide +kernel
  have hnew : emptied.store.NewObject smallObject 9 :=
    newObject_of hrow (by decide +kernel) (by decide) (by decide) (by decide +kernel)
  have hunbacked : emptied.store.unbacked = 90 := by decide +kernel
  have hused : emptied.store.bucket.used = 0 := by decide +kernel
  have hlimit : hundred.hardLimit = 100 := by decide +kernel
  rcases (QuotaStore.accounts_iff hrest.quiet hnew).1 (h deleted smallObject 9 hrest hnew) with
    hbacked | hfull
  · rw [← QuotaStore.unbacked_eq_zero, hunbacked] at hbacked
    cases hbacked
  · omega

end Sample

end PaperGrading
