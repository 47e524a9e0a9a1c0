import PaperGrading.Domain.Values
import Mathlib.Algebra.Order.Field.Rat
import Mathlib.Algebra.Order.Field.Power
import Mathlib.Tactic.FieldSimp
import Mathlib.Tactic.Ring
import Mathlib.Tactic.NormNum

/-!
# Decimals as numbers

What the checks on a `Decimal` say of the number it spells:

    d.fits m p ↔ OnScale p d.toRat ∧ |d.toRat| < 10 ^ (m - p)      (fits_iff)
    (a.add b).toRat = a.toRat + b.toRat                            (toRat_add)
    d.reparsed.toRat = d.toRat                                     (toRat_reparsed)

`OnScale p x` says that `x` has at most `p` decimal places.
-/

namespace PaperGrading

/-- A multiple of `10 ^ -p`. -/
def OnScale (p : Nat) (x : ℚ) : Prop := ∃ k : Int, x * 10 ^ p = k

theorem OnScale.add {p : Nat} {x y : ℚ} (hx : OnScale p x) (hy : OnScale p y) :
    OnScale p (x + y) := by
  obtain ⟨k, hk⟩ := hx
  obtain ⟨l, hl⟩ := hy
  exact ⟨k + l, by rw [add_mul, hk, hl, Int.cast_add]⟩

theorem OnScale.neg {p : Nat} {x : ℚ} (hx : OnScale p x) : OnScale p (-x) := by
  obtain ⟨k, hk⟩ := hx
  exact ⟨-k, by rw [neg_mul, hk, Int.cast_neg]⟩

theorem onScale_zero (p : Nat) : OnScale p 0 := ⟨0, by simp⟩

theorem onScale_sum {p : Nat} {l : List ℚ} (h : ∀ x ∈ l, OnScale p x) : OnScale p l.sum := by
  induction l with
  | nil => exact onScale_zero p
  | cons x l ih =>
    rw [List.forall_mem_cons] at h
    rw [List.sum_cons]
    exact h.1.add (ih h.2)

namespace Decimal

/-! ## The number of a decimal -/

/-- The coefficient with its sign. -/
def signed (d : Decimal) : Int := if d.negative then -d.coefficient else d.coefficient

theorem toRat_eq (d : Decimal) : d.toRat = d.signed * (10 : ℚ) ^ d.exponent := by
  obtain ⟨negative, c, n | n⟩ := d
  · cases negative <;> simp [toRat, signed]
  · have hpow : mkRat c (10 ^ (n + 1)) = (c : ℚ) * (10 : ℚ) ^ Int.negSucc n := by
      rw [Rat.mkRat_eq_div, zpow_negSucc, div_eq_mul_inv]
      push_cast
      rfl
    cases negative <;> simp [toRat, signed, hpow]

/-- The coefficient on a lower exponent. -/
theorem toRat_shift (d : Decimal) {e : Int} (he : e ≤ d.exponent) :
    d.toRat = ((d.signed * 10 ^ (d.exponent - e).toNat : Int) : ℚ) * (10 : ℚ) ^ e := by
  rw [toRat_eq, Int.cast_mul, mul_assoc]
  congr 1
  obtain ⟨n, hn⟩ := Int.eq_ofNat_of_zero_le (Int.sub_nonneg_of_le he)
  have hexp : d.exponent = n + e := by omega
  rw [hn, hexp, zpow_add₀ (by norm_num)]
  simp

/-! ## Normal form -/

/-- No trailing zero can be removed. -/
def IsNormal (d : Decimal) : Prop :=
  d.coefficient = 0 ∧ d.exponent = 0 ∨ d.coefficient % 10 ≠ 0

theorem toRat_normalize (fuel : Nat) (d : Decimal) : (normalize fuel d).toRat = d.toRat := by
  induction fuel generalizing d with
  | zero => rfl
  | succ fuel ih =>
    unfold normalize
    split
    next h => simp [toRat_eq, signed, h]
    split
    next h0 h10 =>
      rw [ih, toRat_eq, toRat_eq]
      have hc : d.signed = 10 * signed ⟨d.negative, d.coefficient / 10, d.exponent + 1⟩ := by
        unfold signed
        split <;> dsimp only <;> omega
      rw [hc, zpow_add_one₀ (by norm_num)]
      push_cast
      ring
    next => rfl

theorem isNormal_normalize {fuel : Nat} {d : Decimal} (h : d.coefficient < 2 ^ (fuel + 1)) :
    (normalize (fuel + 1) d).IsNormal := by
  induction fuel generalizing d with
  | zero =>
    unfold normalize
    split
    next h0 => exact .inl ⟨h0, rfl⟩
    split
    next => omega
    next h10 => exact .inr h10
  | succ fuel ih =>
    unfold normalize
    split
    next h0 => exact .inl ⟨h0, rfl⟩
    split
    next =>
      have hlt : d.coefficient / 10 < 2 ^ (fuel + 1) := by rw [pow_succ] at h; omega
      exact ih hlt
    next h10 => exact .inr h10

theorem onScale_of_exponent {d : Decimal} {p : Nat} (h : -(p : Int) ≤ d.exponent) :
    OnScale p d.toRat := by
  refine ⟨d.signed * 10 ^ (d.exponent + p).toNat, ?_⟩
  rw [toRat_shift d h, zpow_neg, zpow_natCast, inv_mul_cancel_right₀ (by positivity)]
  congr 4
  omega

theorem onScale_iff_of_isNormal {d : Decimal} (h : d.IsNormal) (p : Nat) :
    OnScale p d.toRat ↔ -(p : Int) ≤ d.exponent := by
  constructor
  · rintro ⟨k, hk⟩
    rcases h with ⟨-, he⟩ | hc
    · omega
    by_contra hlt
    -- below the scale the coefficient would end in a zero
    obtain ⟨j, hj⟩ := Int.eq_ofNat_of_zero_le (show 0 ≤ -(p : Int) - d.exponent - 1 by omega)
    have hexp : d.exponent = -((j + 1 + p : Nat) : Int) := by push_cast; omega
    have hsigned : d.signed = k * 10 ^ j * 10 := by
      rw [toRat_eq, hexp, zpow_neg, zpow_natCast, pow_add, mul_inv, ← mul_assoc,
        inv_mul_cancel_right₀ (by positivity)] at hk
      have hk' : (d.signed : ℚ) = k * 10 ^ (j + 1) := by
        rw [← hk, inv_mul_cancel_right₀ (by positivity)]
      rw [pow_succ, ← mul_assoc] at hk'
      exact_mod_cast hk'
    have habs : d.signed.natAbs = d.coefficient := by
      unfold signed
      split <;> simp
    omega
  · exact onScale_of_exponent

/-- **`max_digits` and `decimal_places` bound the scale and the size of the number.** -/
theorem fits_iff {maxDigits decimalPlaces : Nat} {d : Decimal} :
    d.fits maxDigits decimalPlaces = true ↔
      OnScale decimalPlaces d.toRat ∧ |d.toRat| < 10 ^ (maxDigits - decimalPlaces) := by
  have hnormal : (normalize (Nat.log2 d.coefficient + 1) d).IsNormal :=
    isNormal_normalize Nat.lt_log2_self
  unfold fits
  rw [Bool.and_eq_true, decide_eq_true_iff, decide_eq_true_iff, toRat_normalize,
    ← onScale_iff_of_isNormal hnormal, toRat_normalize]

/-! ## Arithmetic -/

/-- The exact sum, which `Decimal.__add__` rounds. -/
def add (a b : Decimal) : Decimal :=
  let e := min a.exponent b.exponent
  let n := a.signed * 10 ^ (a.exponent - e).toNat + b.signed * 10 ^ (b.exponent - e).toNat
  ⟨decide (n < 0), n.natAbs, e⟩

def neg (d : Decimal) : Decimal := { d with negative := !d.negative }

/-- `max(Decimal(0), value)`. -/
def positivePart (d : Decimal) : Decimal := if 0 < d.toRat then d else ofNat 0

/-- `Decimal(format(value, "f"))`: a positive exponent becomes trailing zeros. -/
def reparsed (d : Decimal) : Decimal :=
  match d.exponent with
  | .ofNat n => ⟨d.negative, d.coefficient * 10 ^ n, 0⟩
  | .negSucc _ => d

theorem signed_natAbs (n : Int) (e : Int) : signed ⟨decide (n < 0), n.natAbs, e⟩ = n := by
  simp only [signed, decide_eq_true_iff]
  split <;> omega

@[simp] theorem toRat_add (a b : Decimal) : (a.add b).toRat = a.toRat + b.toRat := by
  rw [toRat_shift a (min_le_left a.exponent b.exponent),
    toRat_shift b (min_le_right a.exponent b.exponent), ← add_mul, ← Int.cast_add, add, toRat_eq]
  simp only [signed_natAbs]

@[simp] theorem toRat_neg (d : Decimal) : d.neg.toRat = -d.toRat := by
  rw [toRat_eq, toRat_eq]
  unfold neg signed
  cases d.negative <;> simp

@[simp] theorem toRat_zero : (ofNat 0).toRat = 0 := by
  rw [toRat_eq]
  simp [ofNat, signed]

@[simp] theorem toRat_positivePart (d : Decimal) : d.positivePart.toRat = max 0 d.toRat := by
  unfold positivePart
  split
  next h => exact (max_eq_right h.le).symm
  next h => rw [toRat_zero, max_eq_left (not_lt.1 h)]

@[simp] theorem toRat_reparsed (d : Decimal) : d.reparsed.toRat = d.toRat := by
  obtain ⟨negative, c, n | n⟩ := d
  · rw [toRat_eq, toRat_eq]
    cases negative <;> simp [reparsed, signed]
  · rfl

theorem fixed_reparsed (d : Decimal) : d.reparsed.fixed = d.fixed := by
  obtain ⟨negative, c, n | n⟩ := d
  · simp only [reparsed, fixed, pow_zero, mul_one]
    rfl
  · rfl

theorem canonical_reparsed (d : Decimal) : d.reparsed.canonical = d.canonical := by
  rw [canonical, fixed_reparsed, canonical]

end Decimal

end PaperGrading
