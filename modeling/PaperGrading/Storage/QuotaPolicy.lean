import PaperGrading.Domain.DecimalContext
import PaperGrading.Store.Admission

/-!
# The quota policy and the quota functions

`QuotaPolicy.evaluate` divides in the context of 28 digits and compares the quotient with the
ratios; the functions of the database compare the projected bytes with the ceiling of an exact
product.  Both decide whether the projected bytes reach the capacity times the ratio.

    h ≤ p / c rounded ↔ c * h ≤ p, for p below 10 ^ 20 and h of four decimals     (le_ratio_iff)
    growthState l p = l.exactState p                                      (growthState_eq_exact)
    (policy.evaluate used capacity requested).state = l.exactState projected    (evaluate_state)
-/

namespace PaperGrading

/-! ## The policy -/

/-- The decision of the policy; `unavailable` is a state of the database alone. -/
structure QuotaDecision where
  state : QuotaState
  usedBytes : Int
  requestedBytes : Int
  projectedBytes : Int
  capacityBytes : Int
  deriving DecidableEq

/-- `QuotaPolicy`, with the check of `__post_init__`. -/
structure QuotaPolicy where
  warningRatio : Decimal
  hardLimitRatio : Decimal
  thresholds : 0 < warningRatio.toRat ∧ warningRatio.toRat < hardLimitRatio.toRat ∧
    hardLimitRatio.toRat ≤ 1

def Decimal.ofInt (n : Int) : Decimal := ⟨decide (n < 0), n.natAbs, 0⟩

/-- `evaluate`; an error is the text of a `QuotaConfigurationError`. -/
def QuotaPolicy.evaluate (policy : QuotaPolicy) (usedBytes capacityBytes requestedBytes : Int) :
    Except String QuotaDecision :=
  if capacityBytes ≤ 0 then .error "容量必须大于零"
  else if usedBytes < 0 ∨ requestedBytes < 0 then .error "使用量和请求字节数不能为负数"
  else
    let projected := usedBytes + requestedBytes
    let ratio := (Decimal.ofInt projected).dividedBy (Decimal.ofInt capacityBytes)
    let state :=
      if policy.hardLimitRatio.toRat ≤ ratio.toRat then QuotaState.blocked
      else if policy.warningRatio.toRat ≤ ratio.toRat then .warning
      else .ok
    .ok ⟨state, usedBytes, requestedBytes, projected, capacityBytes⟩

/-- The comparison of the projected bytes with the exact products. -/
def QuotaLimits.exactState (l : QuotaLimits) (projected : Nat) : QuotaState :=
  if l.capacityBytes * l.hardLimitRatio ≤ projected then .blocked
  else if l.capacityBytes * l.warningRatio ≤ projected then .warning
  else .ok

/-! ## Both compare exactly -/

theorem growthState_eq_exact (l : QuotaLimits) (projected : Nat) :
    QuotaStore.growthState l projected = l.exactState projected := by
  unfold QuotaStore.growthState QuotaLimits.exactState QuotaLimits.hardLimit QuotaLimits.warningLimit
  simp only [Nat.ceil_le]

theorem Decimal.toRat_ofInt (n : Int) : (Decimal.ofInt n).toRat = n := by
  rw [Decimal.toRat_eq, Decimal.ofInt, Decimal.signed_natAbs]
  simp

/-- The quotient of a capacity at a ratio of four decimals is exact. -/
theorem toRat_ratio_of_eq {p c k : Nat} (hc : 0 < c) (hp : p < 10 ^ 20) (hk : k ≤ 10 ^ 4)
    (h : c * k = p * 10 ^ 4) :
    ((Decimal.ofInt p).dividedBy (Decimal.ofInt c)).toRat = (k : ℚ) / 10 ^ 4 := by
  have hcq : (0 : ℚ) < c := by exact_mod_cast hc
  have hquot : (p : ℚ) / c = k / 10 ^ 4 := by
    rw [div_eq_div_iff hcq.ne' (by norm_num)]
    have : ((c * k : Nat) : ℚ) = (p * 10 ^ 4 : Nat) := by rw [h]
    push_cast at this
    linarith
  have hvalue : (Decimal.ofInt p).toRat / (Decimal.ofInt c).toRat = k / 10 ^ 4 := by
    rw [Decimal.toRat_ofInt, Decimal.toRat_ofInt, Int.cast_natCast, Int.cast_natCast, hquot]
  rw [Decimal.toRat_dividedBy (k := k) (e := -4) (by show (c : Int).natAbs ≠ 0; omega) _
    (by omega) (by decide) _, hvalue]
  · rw [hvalue, abs_of_nonneg (by positivity)]
    rfl
  · have hlog : Nat.log 10 p < 20 := Nat.log_lt_of_lt_pow' (by norm_num) hp
    show 0 - 0 - ((Nat.log 10 (c : Int).natAbs : Int) - Nat.log 10 (p : Int).natAbs + 28 + 1) ≤ -4
    rw [Int.natAbs_natCast, Int.natAbs_natCast]
    omega

/-- The quotient is rounded, but never across a ratio of four decimals. -/
theorem le_ratio_iff {p c : Nat} (hc : 0 < c) (hp : p < 10 ^ 20) {h : ℚ} (hscale : OnScale 4 h)
    (hpos : 0 < h) (hone : h ≤ 1) :
    h ≤ ((Decimal.ofInt p).dividedBy (Decimal.ofInt c)).toRat ↔ c * h ≤ p := by
  have hcq : (0 : ℚ) < c := by exact_mod_cast hc
  have hpq : (p : ℚ) < 10 ^ 20 := by exact_mod_cast hp
  obtain ⟨k, hk⟩ := hscale
  have hkpos : 0 < k := by
    have : (0 : ℚ) < k := by rw [← hk]; positivity
    exact_mod_cast this
  have hk4 : k ≤ 10 ^ 4 := by
    have : (k : ℚ) ≤ 10 ^ 4 := by rw [← hk]; linarith
    exact_mod_cast this
  obtain ⟨k, rfl⟩ := Int.eq_ofNat_of_zero_le hkpos.le
  have hh : h = k / 10 ^ 4 := by rw [eq_div_iff (by norm_num), hk]; rfl
  have hexact : (c : ℚ) * h ≤ p ↔ c * k ≤ p * 10 ^ 4 := by
    rw [hh, ← mul_div_assoc, div_le_iff₀ (by norm_num)]
    exact_mod_cast Iff.rfl
  have herr := Decimal.abs_dividedBy_sub (x := Decimal.ofInt p) (y := Decimal.ofInt c)
    (by show (c : Int).natAbs ≠ 0; omega)
  rw [Decimal.toRat_ofInt, Decimal.toRat_ofInt, Int.cast_natCast, Int.cast_natCast,
    abs_of_nonneg (show (0 : ℚ) ≤ p / c by positivity)] at herr
  replace herr := abs_le.1 (herr.trans (add_le_add_right Decimal.zpow_etiny_le _))
  rcases lt_or_ge (c : ℚ) (10 ^ 50) with hsmall | hlarge
  · -- unequal products differ by at least one, which is more than the rounding moves
    have hunit : (0 : ℚ) < c * 10 ^ 4 := by positivity
    have hquot : (p : ℚ) / c * (c * 10 ^ 4) = p * 10 ^ 4 := by field_simp
    have hmoves : ((p : ℚ) / c / 10 ^ 26 + 1 / 10 ^ 60) * (c * 10 ^ 4) < 1 := by
      have hsplit : ((p : ℚ) / c / 10 ^ 26 + 1 / 10 ^ 60) * (c * 10 ^ 4) =
          p * 10 ^ 4 / 10 ^ 26 + c * 10 ^ 4 / 10 ^ 60 := by
        rw [← hquot]
        ring
      rw [hsplit]
      linarith
    have hscaled : h * (c * 10 ^ 4) = c * k := by rw [hh]; field_simp
    rw [hexact]
    rcases lt_trichotomy (c * k) (p * 10 ^ 4) with hlt | heq | hgt
    · have hgap : (c : ℚ) * k + 1 ≤ p * 10 ^ 4 := by exact_mod_cast hlt
      refine iff_of_true (le_of_mul_le_mul_right ?_ hunit) hlt.le
      have := mul_le_mul_of_nonneg_right herr.1 hunit.le
      linarith
    · refine iff_of_true ?_ heq.le
      rw [toRat_ratio_of_eq hc hp (by exact_mod_cast hk4) heq, hh]
    · have hgap : (p : ℚ) * 10 ^ 4 + 1 ≤ c * k := by exact_mod_cast hgt
      refine iff_of_false (fun hle => ?_) (not_le.2 hgt)
      have h1 := mul_le_mul_of_nonneg_right herr.2 hunit.le
      have h2 := mul_le_mul_of_nonneg_right hle hunit.le
      linarith
  · -- the projected bytes are nothing to such a capacity
    have hk1 : (1 : ℚ) ≤ k := by exact_mod_cast hkpos
    have hmin : (1 : ℚ) / 10 ^ 4 ≤ h := by
      rw [hh]
      exact div_le_div_of_nonneg_right hk1 (by norm_num)
    have hquot : (p : ℚ) / c ≤ 1 / 10 ^ 30 := by
      rw [div_le_iff₀ hcq]
      linarith
    refine iff_of_false (fun hle => ?_) (fun hle => ?_)
    · linarith [herr.2]
    · have := mul_le_mul hlarge hmin (by norm_num) hcq.le
      linarith

/-! ## The classifications agree -/

/-- A policy and a row of `quota_resource_states` with the same ratios. -/
structure SameRatios (policy : QuotaPolicy) (l : QuotaLimits) : Prop where
  warning : l.warningRatio = policy.warningRatio.toRat
  hardLimit : l.hardLimitRatio = policy.hardLimitRatio.toRat
  decimals : OnScale 4 l.warningRatio ∧ OnScale 4 l.hardLimitRatio

theorem evaluate_state {policy : QuotaPolicy} {l : QuotaLimits} (hl : SameRatios policy l)
    {used requested : Nat} (hsum : used + requested < 2 ^ 64) :
    ∃ d, policy.evaluate used l.capacityBytes requested = .ok d ∧
      d.state = l.exactState (used + requested) := by
  have hcap := l.capacity
  have hle {h : ℚ} := le_ratio_iff (p := used + requested) hcap (hsum.trans (by norm_num)) (h := h)
  obtain ⟨hwarning, hlt, hone⟩ := l.thresholds
  have hhard : (0 : ℚ) < l.hardLimitRatio := hwarning.trans hlt
  unfold QuotaPolicy.evaluate
  rw [if_neg (by omega), if_neg (by omega)]
  refine ⟨_, rfl, ?_⟩
  unfold QuotaLimits.exactState
  rw [← hl.hardLimit, ← hl.warning, ← Nat.cast_add]
  simp only [hle hl.decimals.2 hhard hone, hle hl.decimals.1 hwarning (hlt.le.trans hone)]

theorem weigh_state {s s' : QuotaStore} {l : QuotaLimits} {q : GrowthRequest}
    {existing : Option QuotaReservation} {newId : Uuid} {now : Time} {answer : QuotaAnswer}
    (h : s.weigh l q existing newId true now = .ok (answer, s')) :
    answer.state = l.exactState (s.bucket.used - s.bucket.replacedSize q.objectKey +
      (s.expire now).reservedBytes now q.objectKey + q.requestedBytes) := by
  rw [← growthState_eq_exact]
  unfold QuotaStore.weigh at h
  simp only [Bool.true_eq_false, if_false] at h
  split at h
  next hblocked =>
    cases h
    exact hblocked.symm
  · obtain ⟨⟨id, s''⟩, -, h⟩ := bind_eq_ok.1 h
    cases h
    rfl

/-- **The policy, the database quota and the storage quota classify the projected bytes alike, by
the exact comparison with the capacity times the ratio.** -/
theorem classifications_agree {policy : QuotaPolicy} {l : QuotaLimits} (hl : SameRatios policy l)
    {used reserved requested : Nat} (hsum : used + reserved + requested < 2 ^ 64) :
    (∃ d, policy.evaluate (used + reserved : Nat) l.capacityBytes requested = .ok d ∧
      d.state = l.exactState (used + reserved + requested)) ∧
    (∀ key, btrimEmpty key = false → key.length ≤ 200 →
      (DatabaseQuota.checkDatabaseGrowth ⟨some l, some (used + reserved)⟩ key requested).state =
        l.exactState (used + reserved + requested)) ∧
    ∀ (s s' : QuotaStore) (q : GrowthRequest) (existing : Option QuotaReservation) (newId : Uuid)
      (now : Time) (answer : QuotaAnswer), s.weigh l q existing newId true now = .ok (answer, s') →
      s.bucket.used - s.bucket.replacedSize q.objectKey = used →
      (s.expire now).reservedBytes now q.objectKey = reserved → q.requestedBytes = requested →
      answer.state = l.exactState (used + reserved + requested) := by
  refine ⟨?_, fun key hkey hlength => ?_, fun s s' q existing newId now answer h hu hr hq => ?_⟩
  · exact evaluate_state hl hsum
  · unfold DatabaseQuota.checkDatabaseGrowth
    rw [if_neg (by simp [hkey, hlength])]
    exact growthState_eq_exact l _
  · rw [weigh_state h, hu, hr, hq]

/-- The default ratios. -/
def defaultPolicy : QuotaPolicy := ⟨⟨false, 70, -2⟩, ⟨false, 85, -2⟩, by decide +kernel⟩

def defaultLimits : QuotaLimits :=
  ⟨1000, 7 / 10, 17 / 20, 900, by decide, by norm_num, by decide⟩

theorem sameRatios_default : SameRatios defaultPolicy defaultLimits :=
  ⟨by decide +kernel, by decide +kernel, ⟨7000, by norm_num [defaultLimits]⟩,
    ⟨8500, by norm_num [defaultLimits]⟩⟩

theorem classifications_agree_default :
    ((∃ d, defaultPolicy.evaluate (600 + 50 : Nat) defaultLimits.capacityBytes 50 = .ok d ∧
      d.state = defaultLimits.exactState (600 + 50 + 50)) ∧
    (∀ key, btrimEmpty key = false → key.length ≤ 200 →
      (DatabaseQuota.checkDatabaseGrowth ⟨some defaultLimits, some (600 + 50)⟩ key 50).state =
        defaultLimits.exactState (600 + 50 + 50)) ∧
    ∀ (s s' : QuotaStore) (q : GrowthRequest) (existing : Option QuotaReservation) (newId : Uuid)
      (now : Time) (answer : QuotaAnswer),
      s.weigh defaultLimits q existing newId true now = .ok (answer, s') →
      s.bucket.used - s.bucket.replacedSize q.objectKey = 600 →
      (s.expire now).reservedBytes now q.objectKey = 50 → q.requestedBytes = 50 →
      answer.state = defaultLimits.exactState (600 + 50 + 50)) ∧
    defaultLimits.exactState (600 + 50 + 50) = .warning :=
  ⟨classifications_agree sameRatios_default (by norm_num), by decide +kernel⟩

end PaperGrading
