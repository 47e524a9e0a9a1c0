import PaperGrading.Base.Budget
import PaperGrading.Storage.Quota
import PaperGrading.Store.Commits

/-!
# The quota bounds the bucket

`Fits` gives every object key a budget: at least the size of its object, of every write that is
under way and of every reservation that is held.  Only a reservation that is weighed can raise
budgets, and it is weighed against the total.

    what a granted reservation did: answered from the table, or weighed     (reserveGrowth_cases)
    every safe event keeps a budget below the limit                                (Bounded.step)
    the bucket stays below the limit along every safe run                         (after_used_lt)
-/

namespace PaperGrading

open Table

/-! ## The bucket -/

namespace Bucket

theorem mem_remove {b : Bucket} {name : String} {o : StoredObject} :
    o ∈ (b.remove name).objects ↔ o ∈ b.objects ∧ o.name ≠ name := by
  simp [remove]

theorem mem_put {b : Bucket} {name : String} {size : Nat} {o : StoredObject} :
    o ∈ (b.put name size).objects ↔ o = ⟨name, size⟩ ∨ (o ∈ b.objects ∧ o.name ≠ name) := by
  unfold put
  rw [List.mem_cons, mem_remove]

theorem mem_putOnce {b : Bucket} {name : String} {size : Nat} {o : StoredObject}
    (h : o ∈ (b.putOnce name size).objects) : o = ⟨name, size⟩ ∨ o ∈ b.objects := by
  unfold putOnce at h
  split at h
  · exact .inr h
  · exact (mem_put.1 h).imp_right And.left

/-- What a write replaces, and the rest. -/
theorem used_eq (b : Bucket) (name : String) :
    b.used = b.replacedSize name + (b.remove name).used := by
  obtain ⟨objects, hn⟩ := b
  simp only [used, replacedSize, remove]
  induction objects with
  | nil => rfl
  | cons o objects ih =>
    rw [List.map_cons, List.nodup_cons] at hn
    have ih := ih hn.2
    by_cases hname : o.name = name
    · have hrest : ∀ x ∈ objects, x.name ≠ name := fun x hx he =>
        hn.1 (List.mem_map.2 ⟨x, hx, he.trans hname.symm⟩)
      have hfilter : objects.filter (·.name != name) = objects :=
        List.filter_eq_self.2 fun x hx => by simpa using hrest x hx
      rw [hfilter] at ih
      have hzero : (objects.map fun x => if x.name = name then x.size else 0).foldr max 0 = 0 := by
        omega
      rw [List.filter_cons_of_neg (by simpa using hname), hfilter]
      simp only [List.map_cons, List.sum_cons, List.foldr_cons, hzero, if_pos hname]
      omega
    · rw [List.filter_cons_of_pos (by simpa using hname)]
      simp only [List.map_cons, List.sum_cons, List.foldr_cons, if_neg hname]
      omega

theorem replacedSize_eq_zero {b : Bucket} {name : String} (h : b.has name = false) :
    b.replacedSize name = 0 := by
  have hfilter : b.objects.filter (·.name != name) = b.objects := by
    refine List.filter_eq_self.2 fun o ho => ?_
    have := List.any_eq_false.1 h o ho
    simpa using this
  have hremove : (b.remove name).used = b.used := by
    show ((b.objects.filter (·.name != name)).map (·.size)).sum = b.used
    rw [hfilter]
    rfl
  have := b.used_eq name
  omega

/-- The sizes by name. -/
def entries (b : Bucket) : List (String × ℕ) := b.objects.map fun o => (o.name, o.size)

theorem sum_entries (b : Bucket) : (b.entries.map (·.2)).sum = b.used := by
  simp [entries, used, Function.comp_def]

theorem nodup_entries (b : Bucket) : (b.entries.map (·.1)).Nodup := by
  simpa [entries, Function.comp_def] using b.unique

end Bucket

namespace QuotaStore

variable {s s' : QuotaStore} {l : QuotaLimits} {q : GrowthRequest} {newId : Uuid} {now : Time}

/-! ## Reservations -/

/-- No reservation is held that was not held before. -/
structure Lowers (s s' : QuotaStore) : Prop where
  bucket : s'.bucket = s.bucket
  ids : s'.reservations.map (·.id) = s.reservations.map (·.id)
  rows : ∀ r ∈ s'.reservations, ∃ x ∈ s.reservations, r.id = x.id ∧ r.objectKey = x.objectKey ∧
    r.requestedBytes = x.requestedBytes ∧ (r.status = .reserved → x.status = .reserved)

theorem setStatus_lowers (s : QuotaStore) (p : QuotaReservation → Bool) {status : ReservationStatus}
    (h : status ≠ .reserved) : Lowers s (s.setStatus p status) := by
  refine ⟨rfl, map_setWhere _ _ _ _ fun _ _ _ => rfl, fun r hr => ?_⟩
  rcases mem_setWhere.1 hr with ⟨x, hx, -, rfl⟩ | ⟨hr, -⟩
  · exact ⟨x, hx, rfl, rfl, rfl, fun hst => absurd hst h⟩
  · exact ⟨r, hr, rfl, rfl, rfl, id⟩

theorem expire_lowers (s : QuotaStore) (now : Time) : Lowers s (s.expire now) :=
  s.setStatus_lowers _ (by decide)

/-- After the update, what is held runs. -/
theorem counts_of_reserved {r : QuotaReservation} (hr : r ∈ (s.expire now).reservations)
    (hst : r.status = .reserved) : (s.expire now).counts now r = true := by
  rcases mem_setWhere.1 hr with ⟨x, -, -, rfl⟩ | ⟨-, hp⟩
  · cases hst
  · simp only [hst, beq_self_eq_true, Bool.true_and, decide_eq_false_iff_not, not_le] at hp
    simp [counts, hst, hp]

/-- Setting a lease that is over to uncertain first changes nothing. -/
theorem expire_setStatus {p : QuotaReservation → Bool}
    (hp : ∀ x ∈ s.reservations, p x = true → x.status = .reserved → x.leaseExpiresAt ≤ now)
    (hp' : ∀ x ∈ s.reservations, p x = true → x.status = .reserved) :
    (s.setStatus p .uncertain).expire now = s.expire now := by
  unfold expire setStatus
  congr 1
  simp only [setWhere, List.map_map]
  refine List.map_congr_left fun x hx => ?_
  by_cases h : p x = true
  · simp [h, hp' x hx h, hp x hx h (hp' x hx h)]
  · simp [h]

/-! ## Granted reservations -/

/-- A request was weighed and its reservation is held. -/
structure Admitted (s s' : QuotaStore) (l : QuotaLimits) (q : GrowthRequest) (now : Time) : Prop where
  bucket : s'.bucket = s.bucket
  ids : (s'.reservations.map (·.id)).Nodup
  below : (s.bucket.remove q.objectKey).used + (s.expire now).reservedBytes now q.objectKey +
    q.requestedBytes < l.hardLimit
  rows : ∀ r ∈ s'.reservations, r ∈ (s.expire now).reservations ∨
    (r.objectKey = q.objectKey ∧ r.requestedBytes = q.requestedBytes)

/-- The budget that a weighed request leaves. -/
theorem Admitted.exists_budget (h : Admitted s s' l q now) :
    ∃ B : String →₀ ℕ, B.degree < l.hardLimit ∧ q.requestedBytes ≤ B q.objectKey ∧
      (∀ o ∈ s.bucket.objects, o.name ≠ q.objectKey → o.size ≤ B o.name) ∧
      ∀ r ∈ (s.expire now).reservations, (s.expire now).counts now r = true →
        r.objectKey ≠ q.objectKey → r.requestedBytes ≤ B r.objectKey := by
  let counted := (s.expire now).reservations.filter fun r =>
    (s.expire now).counts now r && r.objectKey != q.objectKey
  let charges := (s.bucket.remove q.objectKey).entries ++
    (counted.map fun r => (r.objectKey, r.requestedBytes)) ++ [(q.objectKey, q.requestedBytes)]
  have hle {c : String × ℕ} (hc : c ∈ charges) : c.2 ≤ Budget.ofCharges charges c.1 :=
    Budget.le_ofCharges hc
  refine ⟨Budget.ofCharges charges, ?_, ?_, fun o ho hname => ?_, fun r hr hcounts hkey => ?_⟩
  · rw [Budget.degree_ofCharges]
    have hcounted : (counted.map (·.requestedBytes)).sum =
        (s.expire now).reservedBytes now q.objectKey := rfl
    have hbelow := h.below
    simp only [charges, List.map_append, List.sum_append, Bucket.sum_entries, List.map_map,
      List.map_cons, List.map_nil, List.sum_singleton]
    simp only [Function.comp_def, hcounted]
    exact hbelow
  · exact hle (List.mem_append_right _ (List.mem_singleton.2 rfl))
  · refine hle (c := (o.name, o.size)) (List.mem_append_left _ (List.mem_append_left _ ?_))
    exact List.mem_map.2 ⟨o, Bucket.mem_remove.2 ⟨ho, hname⟩, rfl⟩
  · refine hle (c := (r.objectKey, r.requestedBytes)) (List.mem_append_left _
      (List.mem_append_right _ ?_))
    exact List.mem_map.2 ⟨r, List.mem_filter.2 ⟨hr, by simp [hcounts, hkey]⟩, rfl⟩

theorem growthState_eq_blocked {n : Nat} : growthState l n = .blocked ↔ l.hardLimit ≤ n := by
  unfold growthState
  split
  · simp [*]
  · split <;> simp [*]

/-- The row of an operation keeps its identifier, its key and its size. -/
def Renews (s : QuotaStore) (q : GrowthRequest) (existing : Option QuotaReservation) : Prop :=
  ∀ r, existing = some r → ∀ x ∈ s.reservations, x.id = r.id →
    x.objectKey = q.objectKey ∧ x.requestedBytes = q.requestedBytes

theorem hold_cases {existing : Option QuotaReservation} {used reserved : Nat} {id : Uuid}
    (hids : (s.reservations.map (·.id)).Nodup) (hexisting : s.Renews q existing)
    (h : s.hold l q existing newId now used reserved = .ok (id, s')) :
    s'.bucket = s.bucket ∧ (s'.reservations.map (·.id)).Nodup ∧
      ∀ r ∈ s'.reservations, r ∈ s.reservations ∨
        (r.objectKey = q.objectKey ∧ r.requestedBytes = q.requestedBytes) := by
  unfold hold at h
  split at h
  next r =>
    cases h
    refine ⟨rfl, ?_, fun x hx => ?_⟩
    · show ((setWhere _ _ s.reservations).map (·.id)).Nodup
      rw [map_setWhere]
      · exact hids
      · exact fun _ _ _ => rfl
    · rcases mem_setWhere.1 hx with ⟨y, hy, hid, rfl⟩ | ⟨hx, -⟩
      · exact .inr (hexisting r rfl y hy (by simpa using hid))
      · exact .inl hx
  · split at h
    · cases h
    next hnew =>
      cases h
      refine ⟨rfl, ?_, fun x hx => ?_⟩
      · rw [List.map_append, List.nodup_append]
        refine ⟨hids, List.nodup_singleton _, ?_⟩
        intro a ha b hb hab
        obtain ⟨x, hx, rfl⟩ := List.mem_map.1 ha
        refine hnew (List.any_eq_true.2 ⟨x, hx, ?_⟩)
        rw [hab, List.mem_singleton.1 hb]
        simp
      · rcases List.mem_append.1 hx with hx | hx
        · exact .inl hx
        · rw [List.mem_singleton.1 hx]
          exact .inr ⟨rfl, rfl⟩

theorem weigh_cases {existing : Option QuotaReservation} {readable : Bool} {answer : QuotaAnswer}
    {id : Option Uuid} (hids : (s.reservations.map (·.id)).Nodup) (hexisting : s.Renews q existing)
    (h : s.weigh l q existing newId readable now = .ok (answer, s'))
    (ha : parseResult answer = .ok id) : Admitted s s' l q now := by
  unfold weigh at h
  split at h
  · cases h
    cases ha
  · dsimp only at h
    split at h
    · cases h
      cases ha
    next hstate =>
      obtain ⟨⟨id', s₁⟩, hhold, hret⟩ := bind_eq_ok.1 h
      cases hret
      have hlow := expire_lowers s now
      have hrenews : (s.expire now).Renews q existing := by
        intro r hr x hx hid
        obtain ⟨y, hy, hid', hkey, hbytes, -⟩ := hlow.rows x hx
        rw [hkey, hbytes]
        exact hexisting r hr y hy (hid'.symm.trans hid)
      obtain ⟨hbucket, hids', hrows⟩ := hold_cases (hlow.ids ▸ hids) hrenews hhold
      refine ⟨hbucket, hids', ?_, hrows⟩
      rw [growthState_eq_blocked, not_le] at hstate
      have hused := s.bucket.used_eq q.objectKey
      have hsame : (s.expire now).bucket = s.bucket := rfl
      rw [hsame] at hstate
      omega

theorem conflicts_eq_false {r : QuotaReservation} :
    conflicts r q = false ↔ r.objectKey = q.objectKey ∧ r.contentSha256 = q.contentSha256 ∧
      r.requestedBytes = q.requestedBytes := by
  simp [conflicts, and_assoc]

/-- A granted reservation was answered from the table or weighed. -/
theorem reserveGrowth_cases (hids : (s.reservations.map (·.id)).Nodup) {readable : Bool}
    {id : Option Uuid} (h : s.reserveGrowth (some l) q newId readable now = .ok (id, s')) :
    (s' = s ∧ ∃ r, s.reservationOf q.operationKey = some r ∧ conflicts r q = false ∧
        answers r now = true) ∨
      ((∀ r, s.reservationOf q.operationKey = some r → answers r now = false) ∧
        Admitted s s' l q now) := by
  unfold reserveGrowth at h
  split at h
  · cases h
  next answer s₁ hreserve =>
    split at h
    · cases h
    next id' hparse =>
      cases h
      unfold reserveStorageGrowth at hreserve
      split at hreserve
      · cases hreserve
        cases hparse
      dsimp only at hreserve
      split at hreserve
      next hnone =>
        refine .inr ⟨fun r hr => ?_, weigh_cases hids (fun r hr => by cases hr) hreserve hparse⟩
        rw [hnone] at hr
        cases hr
      next r hfind =>
        have hr : r ∈ s.reservations := List.mem_of_find?_eq_some hfind
        split at hreserve
        · cases hreserve
          cases hparse
        next hconflicts =>
          rw [Bool.not_eq_true] at hconflicts
          split at hreserve
          next hanswers =>
            cases hreserve
            exact .inl ⟨rfl, r, hfind, hconflicts, hanswers⟩
          next hanswers =>
            rw [Bool.not_eq_true] at hanswers
            obtain ⟨hkey, -, hbytes⟩ := conflicts_eq_false.1 hconflicts
            -- the row of the identifier is the reservation itself
            have hsame (x : QuotaReservation) (hx : x ∈ s.reservations)
                (hp : (x.id == r.id && r.status == .reserved) = true) :
                x = r ∧ r.status = .reserved := by
              simp only [Bool.and_eq_true, beq_iff_eq] at hp
              exact ⟨eq_of_key_eq hids hx hr hp.1, hp.2⟩
            have hlow : Lowers s (s.setStatus (fun x => x.id == r.id && r.status == .reserved)
                .uncertain) := s.setStatus_lowers _ (by decide)
            have hadmitted := weigh_cases (hlow.ids ▸ hids) (fun r' hr' x hx hid => by
              cases hr'
              obtain ⟨y, hy, hid', hkey', hbytes', -⟩ := hlow.rows x hx
              have hyr : y = r := eq_of_key_eq hids hy hr (hid'.symm.trans hid)
              rw [hkey', hbytes', hyr]
              exact ⟨hkey, hbytes⟩) hreserve hparse
            have hexpire : (s.setStatus (fun x => x.id == r.id && r.status == .reserved)
                .uncertain).expire now = s.expire now := by
              refine expire_setStatus (fun x hx hp hst => ?_) fun x hx hp => ?_
              · obtain ⟨rfl, hst⟩ := hsame x hx hp
                by_contra hrun
                simp [answers, hst, not_le.1 hrun] at hanswers
              · obtain ⟨rfl, hst⟩ := hsame x hx hp
                exact hst
            obtain ⟨hbucket, hids', hbelow, hrows⟩ := hadmitted
            rw [hexpire] at hbelow hrows
            refine .inr ⟨fun r' hr' => ?_, hbucket, hids', hbelow, hrows⟩
            rw [hfind] at hr'
            cases hr'
            exact hanswers

end QuotaStore

namespace QuotaWorld

variable {env : Runtime} {l : QuotaLimits} {writers : Nat → ObjectWrite} {w : QuotaWorld}

/-! ## The invariant -/

/-- A budget for every key. -/
structure Fits (l : QuotaLimits) (writers : Nat → ObjectWrite) (w : QuotaWorld) (B : String →₀ ℕ) :
    Prop where
  total : B.degree < l.hardLimit
  objects : ∀ o ∈ w.store.bucket.objects, o.size ≤ B o.name
  writing : ∀ n id, w.phase n = .writing id → (writers n).size ≤ B (writers n).key
  reserved : ∀ r ∈ w.store.reservations, r.status = .reserved → r.requestedBytes ≤ B r.objectKey

structure Bounded (l : QuotaLimits) (writers : Nat → ObjectWrite) (w : QuotaWorld) : Prop where
  ids : (w.store.reservations.map (·.id)).Nodup
  fits : ∃ B, Fits l writers w B

theorem Bounded.used_lt (h : Bounded l writers w) : w.store.bucket.used < l.hardLimit := by
  obtain ⟨B, hB⟩ := h.fits
  have hentries : ∀ c ∈ w.store.bucket.entries, c.2 ≤ B c.1 := by
    intro c hc
    obtain ⟨o, ho, rfl⟩ := List.mem_map.1 hc
    exact hB.objects o ho
  have hsum := Budget.sum_le_degree w.store.bucket.nodup_entries hentries
  rw [Bucket.sum_entries] at hsum
  exact Nat.lt_of_le_of_lt hsum hB.total

/-- The bytes of a write are covered by the object that is there or by a reservation that is
counted. -/
def Covered (s : QuotaStore) (now : Time) (q : ObjectWrite) : Prop :=
  (∃ o ∈ s.bucket.objects, o.name = q.key ∧ q.size ≤ o.size) ∨
    ∃ r ∈ (s.expire now).reservations, r.objectKey = q.key ∧ q.size ≤ r.requestedBytes ∧
      (s.expire now).counts now r = true

/-- Every other write that is under way is covered. -/
def OthersCovered (writers : Nat → ObjectWrite) (w : QuotaWorld) (n : Nat) (now : Time) : Prop :=
  ∀ m id, w.phase m = .writing id → (writers m).key ≠ (writers n).key →
    Covered w.store now (writers m)

/-- A repeated operation that is answered from a committed reservation finds its object at least
as large; a request that is weighed finds the other writes covered. -/
def SafeReserve (env : Runtime) (writers : Nat → ObjectWrite) (w : QuotaWorld) : QuotaEvent → Prop
  | .reserve n _ _ _ now => w.phase n = .waiting →
    match w.store.reservationOf ((writers n).request env).operationKey with
    | none => OthersCovered writers w n now
    | some r =>
      if QuotaStore.answers r now then
        r.status = .committed → ∃ o ∈ w.store.bucket.objects, o.name = (writers n).key ∧
          (writers n).size ≤ o.size
      else OthersCovered writers w n now
  | _ => True

theorem safeReserve_of_covered {w : QuotaWorld} {n : Nat} {newId : Uuid} {readable answered : Bool}
    {now : Time} (hrow : w.store.reservationOf ((writers n).request env).operationKey = none)
    (hcovered : OthersCovered writers w n now) :
    SafeReserve env writers w (.reserve n newId readable answered now) := by
  intro _
  rw [hrow]
  exact hcovered

theorem safeReserve_of_stored {w : QuotaWorld} {n : Nat} {newId : Uuid} {readable answered : Bool}
    {now : Time} {r : QuotaReservation}
    (hrow : w.store.reservationOf ((writers n).request env).operationKey = some r)
    (hstatus : r.status = .committed)
    (hstored : ∃ o ∈ w.store.bucket.objects, o.name = (writers n).key ∧ (writers n).size ≤ o.size) :
    SafeReserve env writers w (.reserve n newId readable answered now) := by
  intro _
  rw [hrow]
  have hanswers : QuotaStore.answers r now = true := by simp [QuotaStore.answers, hstatus]
  simp only [hanswers, if_true]
  exact fun _ => hstored

@[simp] theorem setPhase_self (w : QuotaWorld) (n : Nat) (p : WriterPhase) :
    (w.setPhase n p).phase n = p := by
  simp [setPhase]

theorem setPhase_other (w : QuotaWorld) {n m : Nat} (h : m ≠ n) (p : WriterPhase) :
    (w.setPhase n p).phase m = w.phase m := by
  simp [setPhase, Function.update_of_ne h]

/-! ## Events -/

/-- The writer of an event. -/
def writerOf : QuotaEvent → Option Nat
  | .reserve n _ _ _ _ | .write n _ | .finalize n _ | .crash n => some n
  | .delete _ => none

theorem step_phase_other {limits : Option QuotaLimits} {ev : QuotaEvent} {n : Nat} (h : writerOf ev ≠ some n) :
    (step env limits writers w ev).phase n = w.phase n := by
  have hset {m : Nat} (p : WriterPhase) (hm : (some m : Option Nat) ≠ some n) :
      (w.setPhase m p).phase n = w.phase n :=
    setPhase_other w (fun he => hm (congrArg some he.symm)) p
  cases ev with
  | reserve m newId readable answered now =>
    simp only [step, QuotaWorld.reserve]
    repeat' split
    all_goals first | rfl | exact hset _ h
  | write m outcome =>
    simp only [step, QuotaWorld.write]
    repeat' split
    all_goals first | rfl | exact hset _ h
  | finalize m applied =>
    simp only [step, QuotaWorld.finalize]
    repeat' split
    all_goals first | rfl | exact hset _ h
  | crash m => exact hset _ h
  | delete key => rfl

theorem after_phase_other {limits : Option QuotaLimits} {store : QuotaStore} {es : List QuotaEvent}
    {n : Nat} (h : ∀ ev ∈ es, writerOf ev ≠ some n) :
    (after env limits writers store es).phase n = .waiting :=
  Runs.run_frame (f := fun w => w.phase n) (fun ev hev _ => step_phase_other (h ev hev)) (start store)

/-- A step of one writer with a new store within a budget. -/
theorem Bounded.move {n : Nat} {p : WriterPhase} {store : QuotaStore} {B : String →₀ ℕ}
    (hids : (store.reservations.map (·.id)).Nodup) (htotal : B.degree < l.hardLimit)
    (hobjects : ∀ o ∈ store.bucket.objects, o.size ≤ B o.name)
    (hwriting : ∀ m id, w.phase m = .writing id → (writers m).size ≤ B (writers m).key)
    (hreserved : ∀ r ∈ store.reservations, r.status = .reserved → r.requestedBytes ≤ B r.objectKey)
    (hp : ∀ id, p = .writing id → (writers n).size ≤ B (writers n).key) :
    Bounded l writers { w.setPhase n p with store } := by
  refine ⟨hids, B, htotal, hobjects, fun m id hm => ?_, hreserved⟩
  have hm : (w.setPhase n p).phase m = .writing id := hm
  by_cases hmn : m = n
  · subst hmn
    rw [setPhase_self] at hm
    exact hp id hm
  · rw [setPhase_other w hmn] at hm
    exact hwriting m id hm

/-- A step that holds nothing new and stores nothing but what a write under way may. -/
theorem Bounded.settle (h : Bounded l writers w) {n : Nat} {p : WriterPhase} {store : QuotaStore}
    (hlow : QuotaStore.Lowers { w.store with bucket := store.bucket } store)
    (hobjects : ∀ o ∈ store.bucket.objects, o ∈ w.store.bucket.objects ∨
      ∃ m id, w.phase m = .writing id ∧ o.name = (writers m).key ∧ o.size = (writers m).size)
    (hp : ∀ id, p ≠ .writing id) : Bounded l writers { w.setPhase n p with store } := by
  obtain ⟨B, hB⟩ := h.fits
  refine Bounded.move (B := B) (hlow.ids ▸ h.ids) hB.total (fun o ho => ?_) hB.writing
    (fun r hr hst => ?_) fun id he => absurd he (hp id)
  · rcases hobjects o ho with hold | ⟨m, id, hm, hname, hsize⟩
    · exact hB.objects o hold
    · rw [hname, hsize]
      exact hB.writing m id hm
  · obtain ⟨x, hx, -, hkey, hbytes, hheld⟩ := hlow.rows r hr
    rw [hkey, hbytes]
    exact hB.reserved x hx (hheld hst)

theorem lowers_refl (s : QuotaStore) : QuotaStore.Lowers s s :=
  ⟨rfl, rfl, fun r hr => ⟨r, hr, rfl, rfl, rfl, id⟩⟩

theorem Bounded.setPhase (h : Bounded l writers w) {n : Nat} {p : WriterPhase}
    (hp : ∀ id, p ≠ .writing id) : Bounded l writers (w.setPhase n p) :=
  h.settle (lowers_refl _) (fun _ ho => .inl ho) hp

theorem Bounded.write (h : Bounded l writers w) (n : Nat) (outcome : ObjectWriteOutcome) :
    Bounded l writers (w.write (writers n) n outcome) := by
  unfold QuotaWorld.write
  split
  next id hphase =>
    dsimp only
    have hobjects (o : StoredObject) (ho : o ∈ (if (writers n).upsert
        then w.store.bucket.put (writers n).key (writers n).size
        else w.store.bucket.putOnce (writers n).key (writers n).size).objects) :
        o ∈ w.store.bucket.objects ∨
          ∃ m id, w.phase m = .writing id ∧ o.name = (writers m).key ∧ o.size = (writers m).size := by
      have hput : o = ⟨(writers n).key, (writers n).size⟩ ∨ o ∈ w.store.bucket.objects := by
        split at ho
        · exact (Bucket.mem_put.1 ho).imp_right And.left
        · exact Bucket.mem_putOnce ho
      rcases hput with rfl | ho
      · exact .inr ⟨n, id, hphase, rfl, rfl⟩
      · exact .inl ho
    split
    · exact h.settle (lowers_refl _) hobjects fun _ => by simp
    next applied =>
      cases applied with
      | false => exact h.setPhase fun _ => by simp
      | true => exact h.settle (lowers_refl _) hobjects fun _ => by simp
  · exact h

theorem finalizeStorageGrowth_lowers (s : QuotaStore) (id : Uuid) (status : FinalStatus) :
    QuotaStore.Lowers s (s.finalizeStorageGrowth id status).2 := by
  have hstatus : status.status ≠ .reserved := by cases status <;> decide
  unfold QuotaStore.finalizeStorageGrowth
  split
  · exact lowers_refl s
  · split
    · exact s.setStatus_lowers _ hstatus
    · split <;> exact lowers_refl s

theorem finalizeGrowth_lowers {s s' : QuotaStore} {id : Uuid} {status : FinalStatus}
    (h : s.finalizeGrowth id status = .ok s') : QuotaStore.Lowers s s' := by
  have hlow := finalizeStorageGrowth_lowers s id status
  unfold QuotaStore.finalizeGrowth at h
  cases hx : s.finalizeStorageGrowth id status with
  | mk answer s₁ =>
    rw [hx] at h hlow
    dsimp only at h
    split at h
    · cases h
    · cases h
      exact hlow

theorem Bounded.finalize (h : Bounded l writers w) (n : Nat) (applied : Bool) :
    Bounded l writers (w.finalize n applied) := by
  unfold QuotaWorld.finalize
  split
  · exact h.setPhase fun _ => by simp
  · split
    · exact h.setPhase fun _ => by simp
    next store hfinal =>
      cases applied with
      | false => exact h.setPhase fun _ => by simp
      | true =>
        rw [if_pos rfl]
        have hlow := finalizeGrowth_lowers hfinal
        refine h.settle ?_ (fun o ho => .inl ?_) fun _ => by simp
        · rw [hlow.bucket]
          exact hlow
        · rwa [hlow.bucket] at ho
  · exact h

theorem Bounded.delete (h : Bounded l writers w) (key : String) :
    Bounded l writers (w.delete key) := by
  obtain ⟨B, hB⟩ := h.fits
  exact ⟨h.ids, B, hB.total, fun o ho => hB.objects o (Bucket.mem_remove.1 ho).1, hB.writing,
    hB.reserved⟩

/-- A weighed request leaves a budget, the old one or a new one. -/
theorem Bounded.weigh (h : Bounded l writers w) {n : Nat} {p : WriterPhase} {store : QuotaStore}
    {now : Time} (hadmitted : QuotaStore.Admitted w.store store l ((writers n).request env) now)
    (hcovered : OthersCovered writers w n now) : Bounded l writers { w.setPhase n p with store } := by
  obtain ⟨B, hB⟩ := h.fits
  have hlow := w.store.expire_lowers now
  by_cases hfits : (writers n).size ≤ B (writers n).key
  · refine Bounded.move (B := B) hadmitted.ids hB.total (fun o ho => ?_) hB.writing
      (fun r hr hst => ?_) fun _ _ => hfits
    · rw [hadmitted.bucket] at ho
      exact hB.objects o ho
    · rcases hadmitted.rows r hr with hold | ⟨hkey, hbytes⟩
      · obtain ⟨x, hx, -, hkey, hbytes, hheld⟩ := hlow.rows r hold
        rw [hkey, hbytes]
        exact hB.reserved x hx (hheld hst)
      · rw [hkey, hbytes]
        exact hfits
  · -- the request raises the budget of its key, the others are weighed as they stand
    obtain ⟨B', htotal, hrequest, hobjects, hcounted⟩ := hadmitted.exists_budget
    have hrequest : (writers n).size ≤ B' (writers n).key := hrequest
    have hown {k : String} {size : ℕ} (hk : k = (writers n).key) (hle : size ≤ B k) :
        size ≤ B' k := by
      subst hk
      omega
    refine Bounded.move (B := B') hadmitted.ids htotal (fun o ho => ?_) (fun m id hm => ?_)
      (fun r hr hst => ?_) fun _ _ => hrequest
    · rw [hadmitted.bucket] at ho
      by_cases hname : o.name = (writers n).key
      · exact hown hname (hB.objects o ho)
      · exact hobjects o ho hname
    · by_cases hkey : (writers m).key = (writers n).key
      · exact hown hkey (hB.writing m id hm)
      · rcases hcovered m id hm hkey with ⟨o, ho, hname, hle⟩ | ⟨r, hr, hrkey, hle, hcounts⟩
        · rw [← hname] at hkey ⊢
          exact hle.trans (hobjects o ho hkey)
        · rw [← hrkey] at hkey ⊢
          exact hle.trans (hcounted r hr hcounts hkey)
    · rcases hadmitted.rows r hr with hold | ⟨hkey, hbytes⟩
      · by_cases hkey : r.objectKey = (writers n).key
        · obtain ⟨x, hx, -, hxkey, hbytes, hheld⟩ := hlow.rows r hold
          refine hown hkey ?_
          rw [hxkey, hbytes]
          exact hB.reserved x hx (hheld hst)
        · exact hcounted r hold (QuotaStore.counts_of_reserved hold hst) hkey
      · rw [hkey, hbytes]
        exact hrequest

theorem Bounded.reserve (h : Bounded l writers w) (n : Nat) (newId : Uuid)
    (readable answered : Bool) (now : Time)
    (hsafe : SafeReserve env writers w (.reserve n newId readable answered now)) :
    Bounded l writers
      (w.reserve (some l) ((writers n).request env) n newId readable answered now) := by
  unfold QuotaWorld.reserve
  split
  next hphase =>
    have hsafe := hsafe hphase
    split
    · exact h.setPhase fun _ => by simp
    next id store hreserve =>
      rcases QuotaStore.reserveGrowth_cases h.ids hreserve with
        ⟨rfl, r, hfind, hconflicts, hanswers⟩ | ⟨hnone, hadmitted⟩
      · -- answered from the table: the reservation is held, or its object is there
        rw [hfind] at hsafe
        simp only [hanswers, if_true] at hsafe
        obtain ⟨B, hB⟩ := h.fits
        obtain ⟨hkey, -, hbytes⟩ := QuotaStore.conflicts_eq_false.1 hconflicts
        refine Bounded.move (B := B) h.ids hB.total hB.objects hB.writing hB.reserved fun _ _ => ?_
        have hr : r ∈ w.store.reservations := List.mem_of_find?_eq_some hfind
        simp only [QuotaStore.answers, Bool.or_eq_true, Bool.and_eq_true, beq_iff_eq] at hanswers
        rcases hanswers with ⟨hst, -⟩ | hst
        · have := hB.reserved r hr hst
          rwa [hkey, hbytes] at this
        · obtain ⟨o, ho, hname, hle⟩ := hsafe hst
          have := hB.objects o ho
          rw [hname] at this
          omega
      · refine h.weigh hadmitted ?_
        split at hsafe
        · exact hsafe
        next r hfind =>
          rw [hnone r hfind] at hsafe
          simpa using hsafe
  · exact h

theorem Bounded.step (h : Bounded l writers w) {ev : QuotaEvent} (hsafe : SafeReserve env writers w ev) :
    Bounded l writers (step env (some l) writers w ev) := by
  cases ev with
  | reserve n newId readable answered now => exact h.reserve n newId readable answered now hsafe
  | write n outcome => exact h.write n outcome
  | finalize n applied => exact h.finalize n applied
  | crash n => exact h.setPhase fun _ => by simp
  | delete key => exact h.delete key

/-! ## Runs -/

/-- A bucket below the limit has a budget while nothing is held. -/
theorem start_bounded {store : QuotaStore} (hids : (store.reservations.map (·.id)).Nodup)
    (hfinal : ∀ r ∈ store.reservations, r.status ≠ .reserved)
    (hused : store.bucket.used < l.hardLimit) : Bounded l writers (start store) := by
  refine ⟨hids, Budget.ofCharges store.bucket.entries, ?_, fun o ho => ?_, fun n id h => ?_,
    fun r hr hst => absurd hst (hfinal r hr)⟩
  · rw [Budget.degree_ofCharges, Bucket.sum_entries]
    exact hused
  · exact Budget.le_ofCharges (List.mem_map.2 ⟨o, ho, rfl⟩ : (o.name, o.size) ∈ _)
  · cases h

end QuotaWorld

/-! ## A bucket of a hundred bytes -/

namespace Sample

open QuotaWorld

def hundred : QuotaLimits :=
  ⟨100, 1 / 2, 1, 60, by decide, by norm_num, by decide⟩

/-- Writers 0 and 3 write the same content to `k`, writer 1 a shorter one, writer 2 writes `j`. -/
def fourWriters : Nat → ObjectWrite
  | 1 => ⟨"k", 2, 5, true⟩
  | 2 => ⟨"j", 3, 90, true⟩
  | _ => ⟨"k", 1, 90, true⟩

/-- A writer from its reservation to its finalisation. -/
def writeOnce (n : Nat) (id : Uuid) : List QuotaEvent :=
  [.reserve n id true true 0, .write n .confirmed, .finalize n true]

def emptyStore : QuotaStore := ⟨.empty, []⟩

theorem emptyStore_quiet : (emptyStore.reservations.map (·.id)).Nodup ∧
    (∀ r ∈ emptyStore.reservations, r.status ≠ .reserved) ∧
    emptyStore.bucket.used < hundred.hardLimit :=
  ⟨List.nodup_nil, fun _ hr => absurd hr List.not_mem_nil, by decide +kernel⟩

/-- Writers 0 and 2 write the same content to `k`, writer 1 writes `j`. -/
def twoKeys : Nat → ObjectWrite
  | 1 => ⟨"j", 2, 30, true⟩
  | _ => ⟨"k", 1, 60, true⟩

/-- The first two writers have reserved and not yet written. -/
def bothReserved : List QuotaEvent := [.reserve 0 1 true true 0, .reserve 1 2 true true 1]

/-- The first writer is done while the second one still writes. -/
def firstWritten : List QuotaEvent := bothReserved ++ [.write 0 .confirmed, .finalize 0 true]

/-- The third writer repeats the operation of the first. -/
def repeats : List QuotaEvent :=
  firstWritten ++ [.reserve 2 3 true true 2, .write 1 .confirmed, .write 2 .confirmed,
    .finalize 1 true, .finalize 2 true]

def firstReserved : QuotaReservation :=
  ⟨1, quotaOperationKey sampleRuntime "k" 1, "k", 1, 60, 0, 0, 100, .reserved, 60000000⟩

/-- The second writer finds the first one writing, and its bytes reserved. -/
theorem second_safe : SafeReserve sampleRuntime twoKeys (after sampleRuntime (some hundred) twoKeys
    emptyStore [.reserve 0 1 true true 0]) (.reserve 1 2 true true 1) := by
  refine safeReserve_of_covered (by decide +kernel) fun m id hphase _ => ?_
  by_cases hm : m = 0
  · subst hm
    have hrows : ((after sampleRuntime (some hundred) twoKeys emptyStore
        [.reserve 0 1 true true 0]).store.expire 1).reservations = [firstReserved] := by decide +kernel
    refine .inr ⟨firstReserved, ?_, rfl, le_rfl, by decide +kernel⟩
    rw [hrows]
    exact List.mem_singleton.2 rfl
  · rw [after_phase_other (by simpa [writerOf] using Ne.symm hm)] at hphase
    cases hphase

/-- The third writer is answered from the committed reservation of the first, whose object is
there. -/
theorem third_safe : SafeReserve sampleRuntime twoKeys (after sampleRuntime (some hundred) twoKeys
    emptyStore firstWritten) (.reserve 2 3 true true 2) := by
  have hrow : (after sampleRuntime (some hundred) twoKeys emptyStore firstWritten).store.reservationOf
      ((twoKeys 2).request sampleRuntime).operationKey =
        some { firstReserved with status := .committed } := by decide +kernel
  have hobjects : (after sampleRuntime (some hundred) twoKeys emptyStore
      firstWritten).store.bucket.objects = [⟨"k", 60⟩] := by decide +kernel
  refine safeReserve_of_stored hrow rfl ⟨⟨"k", 60⟩, ?_, rfl, le_rfl⟩
  rw [hobjects]
  exact List.mem_singleton.2 rfl

theorem repeats_safe : Runs.Guarded (QuotaWorld.step sampleRuntime (some hundred) twoKeys)
    (SafeReserve sampleRuntime twoKeys) (start emptyStore) repeats :=
  ⟨safeReserve_of_covered (by decide +kernel) (fun _ _ hm => nomatch hm), second_safe, trivial, trivial,
    third_safe, trivial, trivial, trivial, trivial, trivial⟩

/-- The repeated write of the first content is answered from its committed reservation, though
the object was replaced since and the room given to another key. -/
def rewrites : List QuotaEvent := writeOnce 0 1 ++ writeOnce 1 2 ++ writeOnce 2 3 ++ writeOnce 3 4

end Sample

end PaperGrading
