import PaperGrading.Domain.Decimals
import Mathlib.Data.Nat.Log
import Mathlib.Algebra.Order.BigOperators.Group.List
import Mathlib.Algebra.Order.Field.Rat
import Mathlib.Data.Nat.Cast.Field
import Mathlib.Data.Nat.Cast.Order.Field
import Mathlib.Tactic.Linarith

/-!
# Arithmetic in the default context

The operations of `decimal` round their exact result to 28 digits and to multiples of
`10 ^ etiny`, half to even.  Overflow, which is an exception, is left out.

    0 ≤ x → 0 ≤ y → 0 ≤ x + y, x * y, x / 10 ^ 6            (toRat_plus_nonneg, …)
    the context holds what it rounds to, and rounds nothing that it holds
                                                  (representable_fix, toRat_fix)
    10 ^ k ≤ |x| → 10 ^ k ≤ |fix x|, and so for ≤            (zpow_le_abs_fix, …)
    the relative error of a quotient is below 10 ^ -26, but for underflow
                                                            (abs_dividedBy_sub)
-/

namespace PaperGrading

namespace Decimal

/-- `getcontext().prec` -/
def precision : Nat := 28

/-- `n / d`, rounded half to even. -/
def roundHalfEven (n d : Nat) : Nat :=
  let q := n / d
  let r := n % d
  if d < 2 * r ∨ 2 * r = d ∧ q % 2 = 1 then q + 1 else q

/-- `Etiny()` of the context: no result has a lower exponent. -/
def etiny : Int := -1000026

/-- How many digits of the coefficient are cut: those above the precision and those below
`etiny`. -/
def cut (x : Decimal) : Nat :=
  max (Nat.log 10 x.coefficient + 1 - precision) (etiny - x.exponent).toNat

/-- `_fix`: the number in the context. -/
def fix (x : Decimal) : Decimal :=
  if x.cut = 0 then x
  else
    let c := roundHalfEven x.coefficient (10 ^ x.cut)
    if c = 10 ^ precision then ⟨x.negative, 10 ^ (precision - 1), x.exponent + x.cut + 1⟩
    else ⟨x.negative, c, x.exponent + x.cut⟩

/-- `x + y` -/
def plus (x y : Decimal) : Decimal := (x.add y).fix

/-- `x * y` -/
def times (x y : Decimal) : Decimal :=
  fix ⟨x.negative != y.negative, x.coefficient * y.coefficient, x.exponent + y.exponent⟩

/-- Removes trailing zeros while the exponent is below the ideal one. -/
def stripTo (ideal : Int) : Nat → Decimal → Decimal
  | 0, x => x
  | fuel + 1, x =>
    if x.exponent < ideal ∧ x.coefficient % 10 = 0 then
      stripTo ideal fuel ⟨x.negative, x.coefficient / 10, x.exponent + 1⟩
    else x

/-- `x / Decimal(1_000_000)`, of an `x` that is within the precision. -/
def perMillion (x : Decimal) : Decimal :=
  fix (stripTo x.exponent 6 ⟨x.negative, x.coefficient, x.exponent - 6⟩)

/-- The power of ten that a division scales with. -/
def divisionShift (x y : Decimal) : Int :=
  Nat.log 10 y.coefficient - Nat.log 10 x.coefficient + precision + 1

/-- `x / y`, of a `y` that is not zero: the quotient with one digit more than the precision, which
tells how the rest rounds, or the exact quotient with the exponent nearest to the ideal one. -/
def dividedBy (x y : Decimal) : Decimal :=
  let shift := divisionShift x y
  let n := x.coefficient * 10 ^ shift.toNat
  let d := y.coefficient * 10 ^ (-shift).toNat
  let ideal := x.exponent - y.exponent
  let negative := x.negative != y.negative
  if n % d = 0 then fix (stripTo ideal shift.toNat ⟨negative, n / d, ideal - shift⟩)
  else fix ⟨negative, if n / d % 5 = 0 then n / d + 1 else n / d, ideal - shift⟩

/-! ## Signs -/

/-- A decimal that is not below zero; minus zero is none below. -/
theorem toRat_nonneg_iff {x : Decimal} : 0 ≤ x.toRat ↔ x.negative = true → x.coefficient = 0 := by
  have hpow : (0 : ℚ) < 10 ^ x.exponent := by positivity
  rw [toRat_eq, mul_nonneg_iff_of_pos_right hpow]
  unfold signed
  cases x.negative with
  | false => simp
  | true => simp

theorem roundHalfEven_zero (d : Nat) : roundHalfEven 0 d = 0 := by
  unfold roundHalfEven
  simp

theorem coefficient_fix_of_zero {x : Decimal} (h : x.coefficient = 0) : x.fix.coefficient = 0 := by
  unfold fix
  split
  · exact h
  · rw [h, roundHalfEven_zero]
    rfl

theorem fix_negative (x : Decimal) : x.fix.negative = x.negative := by
  unfold fix
  simp only
  split
  · rfl
  · split <;> rfl

theorem toRat_fix_nonneg {x : Decimal} (h : 0 ≤ x.toRat) : 0 ≤ x.fix.toRat := by
  rw [toRat_nonneg_iff] at h ⊢
  intro hneg
  rw [fix_negative] at hneg
  exact coefficient_fix_of_zero (h hneg)

theorem toRat_plus_nonneg {x y : Decimal} (hx : 0 ≤ x.toRat) (hy : 0 ≤ y.toRat) :
    0 ≤ (x.plus y).toRat := by
  refine toRat_fix_nonneg ?_
  rw [toRat_add]
  exact add_nonneg hx hy

theorem toRat_times_nonneg {x y : Decimal} (hx : 0 ≤ x.toRat) (hy : 0 ≤ y.toRat) :
    0 ≤ (x.times y).toRat := by
  refine toRat_fix_nonneg ?_
  rw [toRat_nonneg_iff] at hx hy ⊢
  simp only [bne_iff_ne, ne_eq]
  intro hne
  cases hnx : x.negative with
  | true => rw [hx hnx, Nat.zero_mul]
  | false =>
    cases hny : y.negative with
    | true => rw [hy hny, Nat.mul_zero]
    | false => exact absurd (hnx.trans hny.symm) hne

theorem toRat_stripTo_nonneg {ideal : Int} (fuel : Nat) {x : Decimal} (h : 0 ≤ x.toRat) :
    0 ≤ (stripTo ideal fuel x).toRat := by
  induction fuel generalizing x with
  | zero => exact h
  | succ fuel ih =>
    unfold stripTo
    split
    · refine ih (toRat_nonneg_iff.2 fun hneg => ?_)
      rw [toRat_nonneg_iff.1 h hneg]
    · exact h

theorem toRat_perMillion_nonneg {x : Decimal} (h : 0 ≤ x.toRat) : 0 ≤ x.perMillion.toRat := by
  rw [toRat_nonneg_iff] at h
  exact toRat_fix_nonneg (toRat_stripTo_nonneg 6 (toRat_nonneg_iff.2 h))

theorem toRat_ofNat_nonneg (n : Nat) : 0 ≤ (ofNat n).toRat :=
  toRat_nonneg_iff.2 fun h => nomatch h

/-! ## Rounding -/

theorem roundHalfEven_of_dvd {n d : Nat} (hd : 0 < d) (h : d ∣ n) : roundHalfEven n d = n / d := by
  have hr : n % d = 0 := Nat.mod_eq_zero_of_dvd h
  unfold roundHalfEven
  simp only [hr]
  rw [if_neg (by omega)]

theorem roundHalfEven_near {n d : Nat} (hd : 0 < d) :
    roundHalfEven n d * d ≤ n + d ∧ n ≤ roundHalfEven n d * d + d := by
  have hdiv := Nat.div_add_mod n d
  have hmod := Nat.mod_lt n hd
  rw [Nat.mul_comm] at hdiv
  unfold roundHalfEven
  simp only
  split
  · rw [Nat.add_mul]
    omega
  · omega

theorem roundHalfEven_one (n : Nat) : roundHalfEven n 1 = n := by
  rw [roundHalfEven_of_dvd Nat.one_pos (one_dvd n), Nat.div_one]

theorem le_roundHalfEven {m n d : Nat} (hd : 0 < d) (h : m * d ≤ n) : m ≤ roundHalfEven n d := by
  have hdiv : m ≤ n / d := (Nat.le_div_iff_mul_le hd).2 h
  unfold roundHalfEven
  simp only
  split <;> omega

theorem roundHalfEven_le {m n d : Nat} (hd : 0 < d) (h : n ≤ m * d) : roundHalfEven n d ≤ m := by
  have hdiv : n / d ≤ m := Nat.div_le_of_le_mul (by rwa [Nat.mul_comm])
  unfold roundHalfEven
  simp only
  split
  next hup =>
    -- only a quotient with a rest is rounded up
    have hne : n / d ≠ m := by
      rintro rfl
      have := Nat.div_add_mod n d
      rw [Nat.mul_comm] at h
      omega
    omega
  · exact hdiv

/-- What is cut is cut from a coefficient that is too long, or from an exponent that is too low. -/
theorem cut_cases (x : Decimal) (hcut : x.cut ≠ 0) :
    10 ^ (27 + x.cut) ≤ x.coefficient ∨ x.exponent + x.cut = etiny := by
  rcases le_total (etiny - x.exponent).toNat (Nat.log 10 x.coefficient + 1 - precision) with h | h
  · left
    have hlog : x.cut = Nat.log 10 x.coefficient + 1 - precision := max_eq_left h
    unfold precision at hlog
    have hne : x.coefficient ≠ 0 := by
      intro h0
      simp [h0] at hlog
      omega
    rw [show 27 + x.cut = Nat.log 10 x.coefficient by omega]
    exact Nat.pow_log_le_self 10 hne
  · right
    have htiny : x.cut = (etiny - x.exponent).toNat := max_eq_right h
    omega

theorem coefficient_lt_cut (x : Decimal) : x.coefficient < 10 ^ (28 + x.cut) := by
  have hle : Nat.log 10 x.coefficient + 1 - precision ≤ x.cut := le_max_left _ _
  unfold precision at hle
  exact (Nat.lt_pow_succ_log_self (b := 10) (by norm_num) x.coefficient).trans_le
    (Nat.pow_le_pow_right (by norm_num) (by omega))

theorem etiny_le_cut (x : Decimal) : etiny ≤ x.exponent + x.cut := by
  have hle : (etiny - x.exponent).toNat ≤ x.cut := le_max_right _ _
  omega

theorem signed_mul (b : Bool) (c d : Nat) (e : Int) :
    (⟨b, c * d, e⟩ : Decimal).signed = (⟨b, c, e⟩ : Decimal).signed * d := by
  unfold signed
  cases b <;> simp

/-- A coefficient that ends in zeros. -/
theorem toRat_mul_pow (b : Bool) (c n : Nat) (e : Int) :
    toRat ⟨b, c * 10 ^ n, e⟩ = toRat ⟨b, c, e + n⟩ := by
  rw [toRat_eq, toRat_eq, signed_mul, zpow_add₀ (by norm_num), zpow_natCast]
  have : signed ⟨b, c, e⟩ = signed ⟨b, c, e + n⟩ := rfl
  rw [this]
  push_cast
  ring

/-- The cut coefficient, whether or not the carry makes it longer. -/
theorem toRat_fix_eq (x : Decimal) : x.fix.toRat =
    toRat ⟨x.negative, roundHalfEven x.coefficient (10 ^ x.cut), x.exponent + x.cut⟩ := by
  unfold fix
  split
  next hcut =>
    rw [hcut, pow_zero, roundHalfEven_one, Nat.cast_zero, add_zero]
  · dsimp only
    split
    next hc =>
      rw [hc]
      have : (10 : Nat) ^ precision = 10 ^ (precision - 1) * 10 ^ 1 := by
        rw [← pow_add]
        rfl
      rw [this, toRat_mul_pow]
      rfl
    · rfl

theorem abs_toRat (x : Decimal) : |x.toRat| = x.coefficient * (10 : ℚ) ^ x.exponent := by
  rw [toRat_eq, abs_mul, abs_of_pos (show (0 : ℚ) < 10 ^ x.exponent by positivity)]
  congr 1
  unfold signed
  cases x.negative <;> simp

theorem abs_fix (x : Decimal) : |x.fix.toRat| =
    roundHalfEven x.coefficient (10 ^ x.cut) * (10 : ℚ) ^ (x.exponent + x.cut) := by
  rw [toRat_fix_eq, abs_toRat]

/-- The coefficient on the scale that it is rounded to. -/
theorem abs_toRat_cut (x : Decimal) : |x.toRat| =
    x.coefficient / (10 ^ x.cut : Nat) * (10 : ℚ) ^ (x.exponent + x.cut) := by
  rw [abs_toRat, zpow_add₀ (by norm_num), zpow_natCast]
  push_cast
  field_simp

/-! ## What the context holds -/

/-- A number of at most 28 digits on an exponent that is not below `etiny`. -/
def Representable (q : ℚ) : Prop :=
  ∃ (k : Nat) (e : Int), |q| = k * (10 : ℚ) ^ e ∧ k < 10 ^ 28 ∧ etiny ≤ e

theorem representable_fix (x : Decimal) : Representable x.fix.toRat := by
  have hle : roundHalfEven x.coefficient (10 ^ x.cut) ≤ 10 ^ 28 :=
    roundHalfEven_le (by positivity) (by rw [← pow_add]; exact (coefficient_lt_cut x).le)
  have htiny := etiny_le_cut x
  rcases hle.lt_or_eq with hlt | heq
  · exact ⟨_, _, abs_fix x, hlt, htiny⟩
  · refine ⟨10 ^ 27, x.exponent + x.cut + 1, ?_, by norm_num, by omega⟩
    rw [abs_fix, heq, zpow_add_one₀ (by norm_num)]
    push_cast
    ring

/-- Two spellings of one number differ by zeros at the end of a coefficient. -/
theorem mul_pow_eq_of_zpow {c k : ℚ} {n : Nat} {e f : Int} (hf : f = n + e)
    (h : c * (10 : ℚ) ^ f = k * (10 : ℚ) ^ e) : c * 10 ^ n = k := by
  rw [hf, zpow_add₀ (by norm_num), zpow_natCast, ← mul_assoc] at h
  exact mul_right_cancel₀ (by positivity) h

/-- Only zeros are cut off a number that the context holds. -/
theorem pow_cut_dvd {x : Decimal} (h : Representable x.toRat) (hcut : x.cut ≠ 0) :
    10 ^ x.cut ∣ x.coefficient := by
  obtain ⟨k, e, hx, hk, he⟩ := h
  rw [abs_toRat] at hx
  rcases le_or_gt e x.exponent with hle | hgt
  · -- then the coefficient is neither too long nor its exponent too low
    exfalso
    obtain ⟨n, hn⟩ := Int.eq_ofNat_of_zero_le (Int.sub_nonneg_of_le hle)
    have hnat : x.coefficient * 10 ^ n = k := by
      exact_mod_cast mul_pow_eq_of_zpow (n := n) (by omega) hx
    rcases cut_cases x hcut with hlong | htiny
    · have h1 : x.coefficient ≤ x.coefficient * 10 ^ n := Nat.le_mul_of_pos_right _ (by positivity)
      have h2 : 10 ^ 28 ≤ 10 ^ (27 + x.cut) := Nat.pow_le_pow_right (by norm_num) (by omega)
      omega
    · omega
  · -- the zeros that the number has more than its coefficient
    obtain ⟨n, hn⟩ := Int.eq_ofNat_of_zero_le (Int.sub_nonneg_of_le hgt.le)
    have hnat : k * 10 ^ n = x.coefficient := by
      exact_mod_cast mul_pow_eq_of_zpow (n := n) (by omega) hx.symm
    have hle : x.cut ≤ n := by
      rcases cut_cases x hcut with hlong | htiny
      · by_contra hlt
        have h1 : k * 10 ^ n < 10 ^ 28 * 10 ^ n := (Nat.mul_lt_mul_right (by positivity)).2 hk
        rw [← pow_add] at h1
        have h2 : 10 ^ (28 + n) ≤ 10 ^ (27 + x.cut) := Nat.pow_le_pow_right (by norm_num) (by omega)
        omega
      · omega
    rw [← hnat]
    exact (Nat.pow_dvd_pow 10 hle).mul_left k

/-- **A number that the context holds is not rounded.** -/
theorem toRat_fix {x : Decimal} (h : Representable x.toRat) : x.fix.toRat = x.toRat := by
  by_cases hcut : x.cut = 0
  · rw [fix, if_pos hcut]
  · have hdvd := pow_cut_dvd h hcut
    rw [toRat_fix_eq, roundHalfEven_of_dvd (by positivity) hdvd, ← toRat_mul_pow,
      Nat.div_mul_cancel hdvd]

/-! ## Rounding keeps powers of ten -/

/-- A power of ten in units of the last digit that is kept. -/
theorem zpow_units {x : Decimal} {k : Int} (h : x.exponent + x.cut ≤ k) :
    ∃ n : Nat, (10 : ℚ) ^ k = (10 ^ n : Nat) * (10 : ℚ) ^ (x.exponent + x.cut) := by
  obtain ⟨n, hn⟩ := Int.eq_ofNat_of_zero_le (Int.sub_nonneg_of_le h)
  refine ⟨n, ?_⟩
  rw [show k = n + (x.exponent + x.cut) by omega, zpow_add₀ (by norm_num), zpow_natCast]
  push_cast
  rfl

/-- A power of ten below the last digit that is kept: only a coefficient that is too long has
such digits. -/
theorem long_of_lt_cut {x : Decimal} {k : Int} (hk : etiny ≤ k) (h : k < x.exponent + x.cut) :
    x.cut = 0 ∨ 10 ^ (27 + x.cut) ≤ x.coefficient := by
  by_cases hcut : x.cut = 0
  · exact .inl hcut
  · rcases cut_cases x hcut with hlow | htiny
    · exact .inr hlow
    · omega

theorem zpow_le_abs_fix {x : Decimal} {k : Int} (hk : etiny ≤ k) (h : (10 : ℚ) ^ k ≤ |x.toRat|) :
    (10 : ℚ) ^ k ≤ |x.fix.toRat| := by
  have hunit : (0 : ℚ) < 10 ^ (x.exponent + x.cut) := by positivity
  rcases le_or_gt (x.exponent + x.cut) k with hle | hgt
  · obtain ⟨n, hn⟩ := zpow_units hle
    rw [abs_toRat_cut, hn] at h
    rw [abs_fix, hn]
    refine mul_le_mul_of_nonneg_right ?_ hunit.le
    have hc := le_of_mul_le_mul_right h hunit
    rw [le_div_iff₀ (by positivity)] at hc
    have hnat : 10 ^ n * 10 ^ x.cut ≤ x.coefficient := by exact_mod_cast hc
    exact_mod_cast le_roundHalfEven (by positivity) hnat
  · rcases long_of_lt_cut hk hgt with hcut | hlong
    · rwa [fix, if_pos hcut]
    · have hone : 1 ≤ roundHalfEven x.coefficient (10 ^ x.cut) := by
        refine le_roundHalfEven (by positivity) ?_
        rw [one_mul]
        exact (Nat.pow_le_pow_right (by norm_num) (by omega)).trans hlong
      have hone' : (1 : ℚ) ≤ roundHalfEven x.coefficient (10 ^ x.cut) := by exact_mod_cast hone
      rw [abs_fix]
      calc (10 : ℚ) ^ k ≤ 10 ^ (x.exponent + x.cut) :=
            zpow_le_zpow_right₀ (by norm_num) hgt.le
        _ ≤ _ := le_mul_of_one_le_left hunit.le hone'

theorem abs_fix_le_zpow {x : Decimal} {k : Int} (hk : etiny ≤ k) (h : |x.toRat| ≤ (10 : ℚ) ^ k) :
    |x.fix.toRat| ≤ (10 : ℚ) ^ k := by
  have hunit : (0 : ℚ) < 10 ^ (x.exponent + x.cut) := by positivity
  rcases le_or_gt (x.exponent + x.cut) k with hle | hgt
  · obtain ⟨n, hn⟩ := zpow_units hle
    rw [abs_toRat_cut, hn] at h
    rw [abs_fix, hn]
    refine mul_le_mul_of_nonneg_right ?_ hunit.le
    have hc := le_of_mul_le_mul_right h hunit
    rw [div_le_iff₀ (by positivity)] at hc
    have hnat : x.coefficient ≤ 10 ^ n * 10 ^ x.cut := by exact_mod_cast hc
    exact_mod_cast roundHalfEven_le (by positivity) hnat
  · rcases long_of_lt_cut hk hgt with hcut | hlong
    · rwa [fix, if_pos hcut]
    · exfalso
      have hone : (1 : ℚ) ≤ x.coefficient / (10 ^ x.cut : Nat) := by
        rw [le_div_iff₀ (by positivity), one_mul]
        exact_mod_cast (Nat.pow_le_pow_right (by norm_num) (by omega)).trans hlong
      rw [abs_toRat_cut] at h
      have hlt : (10 : ℚ) ^ k < 10 ^ (x.exponent + x.cut) := zpow_lt_zpow_right₀ (by norm_num) hgt
      exact absurd (h.trans_lt hlt) (not_lt.2 (le_mul_of_one_le_left hunit.le hone))

/-! ## The error of rounding -/

/-- What underflow moves is next to nothing. -/
theorem zpow_etiny_le : (10 : ℚ) ^ etiny ≤ 1 / 10 ^ 60 := by
  rw [one_div, ← zpow_natCast, ← zpow_neg]
  exact zpow_le_zpow_right₀ (by norm_num) (by decide)

theorem signed_sub (b : Bool) (c d : Nat) (e : Int) :
    |((⟨b, c, e⟩ : Decimal).signed : ℚ) - (⟨b, d, e⟩ : Decimal).signed| = |(c : ℚ) - d| := by
  unfold signed
  cases b
  · simp
  · simp only [if_true, Int.cast_neg, Int.cast_natCast]
    rw [← abs_neg]
    ring_nf

/-- Rounding moves a number by less than one in its 27th digit, or below `etiny`. -/
theorem abs_fix_sub (x : Decimal) :
    |x.fix.toRat - x.toRat| ≤ |x.toRat| / 10 ^ 27 + (10 : ℚ) ^ etiny := by
  have htiny : (0 : ℚ) < 10 ^ etiny := by positivity
  have hnn : 0 ≤ |x.toRat| / 10 ^ 27 := div_nonneg (abs_nonneg _) (by norm_num)
  by_cases hcut : x.cut = 0
  · rw [fix, if_pos hcut, sub_self, abs_zero]
    positivity
  have hunit : (0 : ℚ) < 10 ^ (x.exponent + x.cut) := by positivity
  -- a unit of the last digit that is kept
  have hnear : |x.fix.toRat - x.toRat| ≤ (10 : ℚ) ^ (x.exponent + x.cut) := by
    rw [toRat_fix_eq, ← toRat_mul_pow, toRat_eq, toRat_eq, ← sub_mul, abs_mul,
      abs_of_pos (show (0 : ℚ) < 10 ^ x.exponent by positivity), zpow_add₀ (by norm_num),
      zpow_natCast, mul_comm ((10 : ℚ) ^ x.exponent)]
    refine mul_le_mul_of_nonneg_right ?_ (by positivity)
    generalize x.cut = cut
    obtain ⟨b, c, e⟩ := x
    rw [signed_sub]
    obtain ⟨hle, hge⟩ := roundHalfEven_near (n := c) (d := 10 ^ cut) (by positivity)
    have hle' : ((roundHalfEven c (10 ^ cut) * 10 ^ cut : Nat) : ℚ) ≤ c + 10 ^ cut := by
      exact_mod_cast hle
    have hge' : (c : ℚ) ≤ (roundHalfEven c (10 ^ cut) * 10 ^ cut : Nat) + 10 ^ cut := by
      exact_mod_cast hge
    rw [abs_le]
    constructor <;> linarith
  rcases cut_cases x hcut with hlong | htiny'
  · have hsmall : (10 : ℚ) ^ (x.exponent + x.cut) ≤ |x.toRat| / 10 ^ 27 := by
      rw [le_div_iff₀ (by positivity), abs_toRat_cut, mul_comm]
      refine mul_le_mul_of_nonneg_right ?_ hunit.le
      rw [le_div_iff₀ (by positivity)]
      have : 10 ^ 27 * 10 ^ x.cut ≤ x.coefficient := by rwa [← pow_add]
      exact_mod_cast this
    linarith
  · rw [htiny'] at hnear
    linarith

/-! ## Division -/

theorem toRat_stripTo (ideal : Int) (fuel : Nat) (x : Decimal) :
    (stripTo ideal fuel x).toRat = x.toRat := by
  induction fuel generalizing x with
  | zero => rfl
  | succ fuel ih =>
    unfold stripTo
    split
    next h =>
      rw [ih]
      obtain ⟨b, c, e⟩ := x
      have hc : c = c / 10 * 10 ^ 1 := by
        have := h.2
        simp only at this
        omega
      conv_rhs => rw [hc, toRat_mul_pow]
      rfl
    · rfl

theorem toRat_perMillion {x : Decimal} (h : Representable (x.toRat / 10 ^ 6)) :
    x.perMillion.toRat = x.toRat / 10 ^ 6 := by
  have hexact : toRat ⟨x.negative, x.coefficient, x.exponent - 6⟩ = x.toRat / 10 ^ 6 := by
    rw [toRat_eq, toRat_eq, zpow_sub₀ (by norm_num), ← mul_div_assoc]
    rfl
  unfold perMillion
  rw [toRat_fix, toRat_stripTo, hexact]
  rwa [toRat_stripTo, hexact]

/-- The sign as a factor. -/
def sign (b : Bool) : ℚ := if b then -1 else 1

theorem abs_sign (b : Bool) : |sign b| = 1 := by
  cases b <;> simp [sign]

theorem toRat_eq_sign (b : Bool) (c : Nat) (e : Int) :
    toRat ⟨b, c, e⟩ = sign b * c * (10 : ℚ) ^ e := by
  rw [toRat_eq]
  cases b <;> simp [signed, sign]

theorem sign_div (a b : Bool) : sign a / sign b = sign (a != b) := by
  cases a <;> cases b <;> simp [sign]

/-- The exact quotient on the scale of the division. -/
theorem toRat_div (x y : Decimal) (shift : Int) :
    x.toRat / y.toRat = sign (x.negative != y.negative) *
      ((x.coefficient * 10 ^ shift.toNat : Nat) / (y.coefficient * 10 ^ (-shift).toNat : Nat)) *
      (10 : ℚ) ^ (x.exponent - y.exponent - shift) := by
  obtain ⟨a, c, e⟩ := x
  obtain ⟨b, d, f⟩ := y
  have hshift : (10 : ℚ) ^ (-shift) * 10 ^ shift.toNat / 10 ^ (-shift).toNat = 1 := by
    rcases le_total 0 shift with h | h
    · obtain ⟨n, rfl⟩ := Int.eq_ofNat_of_zero_le h
      rw [show (-(n : Int)).toNat = 0 by omega, Int.toNat_natCast, pow_zero, div_one, zpow_neg,
        zpow_natCast, inv_mul_cancel₀ (by positivity)]
    · obtain ⟨n, hn⟩ := Int.eq_ofNat_of_zero_le (Int.neg_nonneg_of_nonpos h)
      rw [hn, show shift.toNat = 0 by omega, Int.toNat_natCast, pow_zero, mul_one, zpow_natCast,
        div_self (by positivity)]
  rw [toRat_eq_sign, toRat_eq_sign, ← sign_div, sub_eq_add_neg (e - f), zpow_add₀ (by norm_num),
    zpow_sub₀ (by norm_num)]
  push_cast
  calc sign a * c * (10 : ℚ) ^ e / (sign b * d * 10 ^ f)
      = sign a * c * (10 : ℚ) ^ e / (sign b * d * 10 ^ f) *
          ((10 : ℚ) ^ (-shift) * 10 ^ shift.toNat / 10 ^ (-shift).toNat) := by
        rw [hshift, mul_one]
    _ = _ := by
        simp only [div_eq_mul_inv, mul_inv]
        ring

/-- The quotient has at least 29 digits. -/
theorem le_quotient {c d : Nat} (hc : c ≠ 0) {shift : Int}
    (h : shift = Nat.log 10 d - Nat.log 10 c + precision + 1) :
    10 ^ 28 * (d * 10 ^ (-shift).toNat) ≤ c * 10 ^ shift.toNat := by
  have hlow := Nat.pow_log_le_self 10 hc
  have hhigh := (Nat.lt_pow_succ_log_self (b := 10) (by norm_num) d).le
  unfold precision at h
  rcases le_total 0 shift with hs | hs
  · rw [show (-shift).toNat = 0 by omega, pow_zero, mul_one]
    calc 10 ^ 28 * d ≤ 10 ^ 28 * 10 ^ (Nat.log 10 d).succ := Nat.mul_le_mul_left _ hhigh
      _ = 10 ^ (Nat.log 10 c) * 10 ^ shift.toNat := by
        rw [← pow_add, ← pow_add]
        congr 1
        omega
      _ ≤ c * 10 ^ shift.toNat := Nat.mul_le_mul_right _ hlow
  · rw [show shift.toNat = 0 by omega, pow_zero, mul_one]
    calc 10 ^ 28 * (d * 10 ^ (-shift).toNat)
        ≤ 10 ^ 28 * (10 ^ (Nat.log 10 d).succ * 10 ^ (-shift).toNat) :=
          Nat.mul_le_mul_left _ (Nat.mul_le_mul_right _ hhigh)
      _ = 10 ^ (Nat.log 10 c) := by
        rw [← pow_add, ← pow_add]
        congr 1
        omega
      _ ≤ c := hlow

/-- What the division makes of an exact quotient. -/
theorem toRat_exact_quotient {x y : Decimal} {n d : Nat} {shift : Int} (hd : 0 < d)
    (hn : x.coefficient * 10 ^ shift.toNat = n) (hd' : y.coefficient * 10 ^ (-shift).toNat = d)
    (h : n % d = 0) :
    toRat ⟨x.negative != y.negative, n / d, x.exponent - y.exponent - shift⟩ =
      x.toRat / y.toRat := by
  rw [toRat_div x y shift, hn, hd', toRat_eq_sign,
    Nat.cast_div (Nat.dvd_of_mod_eq_zero h) (by exact_mod_cast hd.ne')]

/-- **A quotient of at most 28 digits is exact.** -/
theorem toRat_dividedBy {x y : Decimal} (hy : y.coefficient ≠ 0) {k : Nat} {e : Int}
    (h : |x.toRat / y.toRat| = k * (10 : ℚ) ^ e) (hk : k < 10 ^ 28) (htiny : etiny ≤ e)
    (he : x.exponent - y.exponent - divisionShift x y ≤ e) :
    (x.dividedBy y).toRat = x.toRat / y.toRat := by
  have hd : 0 < y.coefficient * 10 ^ (-divisionShift x y).toNat := by positivity
  have hrepresentable : Representable (x.toRat / y.toRat) := ⟨k, e, h, hk, htiny⟩
  have hzero : x.coefficient * 10 ^ (divisionShift x y).toNat %
      (y.coefficient * 10 ^ (-divisionShift x y).toNat) = 0 := by
    rw [toRat_div x y (divisionShift x y), abs_mul, abs_mul, abs_sign, one_mul,
      abs_of_pos (show (0 : ℚ) < 10 ^ (x.exponent - y.exponent - divisionShift x y) by positivity),
      abs_of_nonneg (div_nonneg (Nat.cast_nonneg _) (Nat.cast_nonneg _))] at h
    obtain ⟨m, hm⟩ := Int.eq_ofNat_of_zero_le (Int.sub_nonneg_of_le he)
    have hquotient := mul_pow_eq_of_zpow (n := m) (by omega) h.symm
    rw [eq_div_iff (by exact_mod_cast hd.ne')] at hquotient
    have hnat : k * 10 ^ m * (y.coefficient * 10 ^ (-divisionShift x y).toNat) =
        x.coefficient * 10 ^ (divisionShift x y).toNat := by exact_mod_cast hquotient
    rw [← hnat, Nat.mul_mod_left]
  have hexact := toRat_exact_quotient (x := x) (y := y) hd rfl rfl hzero
  unfold dividedBy
  simp only
  rw [if_pos hzero, toRat_fix, toRat_stripTo, hexact]
  rwa [toRat_stripTo, hexact]

/-- The digit that stands for the rest of a quotient is off by at most one. -/
theorem abs_digit_sub {n d : Nat} (hd : 0 < d) :
    |((if n / d % 5 = 0 then n / d + 1 else n / d : Nat) : ℚ) - n / d| ≤ 1 := by
  have hdq : (0 : ℚ) < d := by exact_mod_cast hd
  have hlow : ((n / d : Nat) : ℚ) ≤ n / d := Nat.cast_div_le
  have hhigh : (n : ℚ) / d < (n / d : Nat) + 1 := by
    rw [div_lt_iff₀ hdq]
    have hdiv := Nat.div_add_mod n d
    have hmod := Nat.mod_lt n hd
    have hnat : n < (n / d + 1) * d := by
      rw [Nat.add_mul, Nat.mul_comm]
      omega
    exact_mod_cast hnat
  rw [abs_le]
  split
  · push_cast
    constructor <;> linarith
  · constructor <;> linarith

/-- **The error of a division.** -/
theorem abs_dividedBy_sub {x y : Decimal} (hy : y.coefficient ≠ 0) :
    |(x.dividedBy y).toRat - x.toRat / y.toRat| ≤
      |x.toRat / y.toRat| / 10 ^ 26 + (10 : ℚ) ^ etiny := by
  have hd : 0 < y.coefficient * 10 ^ (-divisionShift x y).toNat := by positivity
  unfold dividedBy
  simp only
  split
  next hzero =>
    have hexact := toRat_exact_quotient (x := x) (y := y) hd rfl rfl hzero
    have hfix := abs_fix_sub (stripTo (x.exponent - y.exponent) (divisionShift x y).toNat
      ⟨x.negative != y.negative, x.coefficient * 10 ^ (divisionShift x y).toNat /
        (y.coefficient * 10 ^ (-divisionShift x y).toNat),
        x.exponent - y.exponent - divisionShift x y⟩)
    rw [toRat_stripTo, hexact] at hfix
    refine hfix.trans (add_le_add_left ?_ _)
    exact div_le_div_of_nonneg_left (abs_nonneg _) (by norm_num) (by norm_num)
  next hrest =>
    have hc : x.coefficient ≠ 0 := by
      rintro h0
      simp [h0] at hrest
    have hlarge := @le_quotient _ y.coefficient hc (divisionShift x y) rfl
    have hquot := toRat_div x y (divisionShift x y)
    generalize hN : x.coefficient * 10 ^ (divisionShift x y).toNat = n at *
    generalize hD : y.coefficient * 10 ^ (-divisionShift x y).toNat = d at *
    generalize x.exponent - y.exponent - divisionShift x y = e at *
    generalize (x.negative != y.negative) = b at *
    generalize hq : (if n / d % 5 = 0 then n / d + 1 else n / d) = c
    have hdq : (0 : ℚ) < d := by exact_mod_cast hd
    have hnear : |(c : ℚ) - n / d| ≤ 1 := hq ▸ abs_digit_sub hd
    have hbig : (10 : ℚ) ^ 28 ≤ n / d := by
      rw [le_div_iff₀ hdq]
      exact_mod_cast hlarge
    have hpow : (0 : ℚ) < 10 ^ e := by positivity
    have hvalue : |x.toRat / y.toRat| = n / d * (10 : ℚ) ^ e := by
      rw [hquot, abs_mul, abs_mul, abs_sign, one_mul, abs_of_pos hpow,
        abs_of_pos (lt_of_lt_of_le (by norm_num) hbig)]
    have hdigit : |toRat ⟨b, c, e⟩ - x.toRat / y.toRat| ≤ |x.toRat / y.toRat| / 10 ^ 28 := by
      rw [hvalue, toRat_eq_sign, hquot, ← sub_mul, ← mul_sub, abs_mul, abs_mul, abs_sign, one_mul,
        abs_of_pos hpow, mul_div_right_comm]
      refine mul_le_mul_of_nonneg_right (hnear.trans ?_) hpow.le
      rwa [le_div_iff₀ (by norm_num), one_mul]
    have hfix := abs_fix_sub ⟨b, c, e⟩
    have hsize : |toRat ⟨b, c, e⟩| ≤ |x.toRat / y.toRat| + |x.toRat / y.toRat| / 10 ^ 28 := by
      have := abs_sub_abs_le_abs_sub (toRat ⟨b, c, e⟩) (x.toRat / y.toRat)
      linarith
    have htri := abs_sub_le (fix ⟨b, c, e⟩).toRat (toRat ⟨b, c, e⟩) (x.toRat / y.toRat)
    have hnn := abs_nonneg (x.toRat / y.toRat)
    generalize |x.toRat / y.toRat| = v at *
    generalize (10 : ℚ) ^ etiny = tiny at *
    have hfix' : |(fix ⟨b, c, e⟩).toRat - toRat ⟨b, c, e⟩| ≤ (v + v / 10 ^ 28) / 10 ^ 27 + tiny :=
      hfix.trans (add_le_add_left (div_le_div_of_nonneg_right hsize (by norm_num)) _)
    refine (htri.trans (add_le_add hfix' hdigit)).trans ?_
    norm_num
    linarith

/-! ## Exact results -/

/-- The number of decimal places is never near `etiny`. -/
theorem representable_of_onScale {q : ℚ} {p : Nat} (hp : p ≤ 1000) (h : OnScale p q)
    (hlt : |q| * 10 ^ p < 10 ^ 28) : Representable q := by
  obtain ⟨k, hk⟩ := h
  have habs : |q| * 10 ^ p = k.natAbs := by
    rw [← abs_of_pos (show (0 : ℚ) < 10 ^ p by positivity), ← abs_mul, hk, Nat.cast_natAbs,
      Int.cast_abs]
  refine ⟨k.natAbs, -(p : Int), ?_, ?_, ?_⟩
  · rw [← habs, zpow_neg, zpow_natCast, mul_inv_cancel_right₀ (by positivity)]
  · rw [habs] at hlt
    exact_mod_cast hlt
  · unfold etiny
    omega

theorem toRat_mul (x y : Decimal) :
    toRat ⟨x.negative != y.negative, x.coefficient * y.coefficient, x.exponent + y.exponent⟩ =
      x.toRat * y.toRat := by
  have hsign : sign (x.negative != y.negative) = sign x.negative * sign y.negative := by
    cases x.negative <;> cases y.negative <;> simp [sign]
  obtain ⟨a, c, e⟩ := x
  obtain ⟨b, d, f⟩ := y
  rw [toRat_eq_sign, toRat_eq_sign, toRat_eq_sign, hsign, zpow_add₀ (by norm_num)]
  push_cast
  ring

theorem toRat_times {x y : Decimal} (h : Representable (x.toRat * y.toRat)) :
    (x.times y).toRat = x.toRat * y.toRat := by
  rw [← toRat_mul] at h ⊢
  exact toRat_fix h

theorem toRat_plus {x y : Decimal} (h : Representable (x.toRat + y.toRat)) :
    (x.plus y).toRat = x.toRat + y.toRat := by
  rw [← toRat_add] at h ⊢
  exact toRat_fix h

/-! ## Sums -/

/-- `sum(values, start=Decimal(0))` -/
def sumUp (values : List Decimal) : Decimal := values.foldl plus (ofNat 0)

theorem representable_foldl {values : List Decimal} {start : Decimal}
    (h : Representable start.toRat) : Representable (values.foldl plus start).toRat := by
  induction values generalizing start with
  | nil => exact h
  | cons x values ih => exact ih (representable_fix _)

theorem representable_sumUp (values : List Decimal) : Representable (sumUp values).toRat :=
  representable_foldl ⟨0, 0, by simp, by norm_num, by decide⟩

/-- A sum of numbers on one scale none of whose parts outgrows the context. -/
theorem toRat_foldl_plus {p : Nat} (hp : p ≤ 1000) {b : ℚ} (hb : 0 ≤ b) {values : List Decimal}
    {start : Decimal} (hstart : OnScale p start.toRat)
    (hvalues : ∀ x ∈ values, OnScale p x.toRat ∧ |x.toRat| ≤ b)
    (hlt : (|start.toRat| + values.length * b) * 10 ^ p < 10 ^ 28) :
    (values.foldl plus start).toRat = start.toRat + (values.map toRat).sum := by
  induction values generalizing start with
  | nil => simp
  | cons x values ih =>
    rw [List.forall_mem_cons] at hvalues
    obtain ⟨⟨hscale, hle⟩, hvalues⟩ := hvalues
    rw [List.length_cons, Nat.cast_add_one, add_one_mul] at hlt
    have hsize : |start.toRat + x.toRat| ≤ |start.toRat| + b :=
      (abs_add_le _ _).trans (add_le_add_right hle _)
    have hrest : 0 ≤ values.length * b := mul_nonneg (Nat.cast_nonneg _) hb
    have hsum : (start.plus x).toRat = start.toRat + x.toRat := by
      refine toRat_plus (representable_of_onScale hp (hstart.add hscale) (lt_of_le_of_lt ?_ hlt))
      exact mul_le_mul_of_nonneg_right (by linarith) (by positivity)
    rw [List.foldl_cons, ih (hsum ▸ hstart.add hscale) hvalues ?_, hsum, List.map_cons,
      List.sum_cons, add_assoc]
    rw [hsum]
    exact lt_of_le_of_lt (mul_le_mul_of_nonneg_right (by linarith) (by positivity)) hlt

/-- **The numbers of a field add up without rounding.** -/
theorem toRat_sumUp {m p : Nat} (hp : p < m) (hm : m ≤ 28) {values : List Decimal}
    (hfits : ∀ x ∈ values, x.fits m p = true) (hlength : values.length * 10 ^ m < 10 ^ 28) :
    (sumUp values).toRat = (values.map toRat).sum := by
  have hlt : (|(ofNat 0).toRat| + values.length * (10 : ℚ) ^ (m - p)) * 10 ^ p < 10 ^ 28 := by
    rw [toRat_zero, abs_zero, zero_add, mul_assoc, ← pow_add, Nat.sub_add_cancel hp.le]
    exact_mod_cast hlength
  rw [sumUp, toRat_foldl_plus (by omega) (by positivity) (toRat_zero ▸ onScale_zero p)
    (fun x hx => ⟨(fits_iff.1 (hfits x hx)).1, (fits_iff.1 (hfits x hx)).2.le⟩) hlt, toRat_zero,
    zero_add]

theorem abs_sum_le {b : ℚ} {values : List ℚ} (h : ∀ x ∈ values, |x| ≤ b) :
    |values.sum| ≤ values.length * b := by
  induction values with
  | nil => simp
  | cons x values ih =>
    rw [List.forall_mem_cons] at h
    rw [List.sum_cons, List.length_cons, Nat.cast_add_one, add_one_mul, add_comm]
    exact (abs_add_le _ _).trans (add_le_add (ih h.2) h.1)

theorem sumUp_bounded {m p : Nat} (hp : p < m) (hm : m ≤ 28) {values : List Decimal}
    (hfits : ∀ x ∈ values, x.fits m p = true) (hlength : values.length * 10 ^ m < 10 ^ 28) :
    OnScale p (sumUp values).toRat ∧ |(sumUp values).toRat| ≤ values.length * 10 ^ (m - p) := by
  rw [toRat_sumUp hp hm hfits hlength, ← List.length_map (f := toRat)]
  exact ⟨onScale_sum (List.forall_mem_map.2 fun x hx => (fits_iff.1 (hfits x hx)).1),
    abs_sum_le (List.forall_mem_map.2 fun x hx => (fits_iff.1 (hfits x hx)).2.le)⟩

/-- A price of 0.3 for a million tokens, of twelve tokens. -/
example : ((ofNat 12).times ⟨false, 3, -1⟩).perMillion = ⟨false, 36, -7⟩ := by decide

end Decimal

end PaperGrading
