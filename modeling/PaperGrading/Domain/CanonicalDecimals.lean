import PaperGrading.Domain.DecimalContext
import PaperGrading.Domain.Numeric
import Mathlib.Data.List.Induction

/-!
# Decimals in canonical text

The decimal branch of `_canonical_value`: `format(value, "f")` without the zeros that end a fraction.
A decimal has one canonical text for each number that it can spell.

    numericText d.canonical spells d.toRat                             (numericText_canonical)
    a.canonical = b.canonical ↔ a.toRat = b.toRat                      (canonical_eq_iff)
-/

namespace PaperGrading

namespace Decimal

/-! ## The parts of the text -/

/-- The last `width` digits of `n`, with leading zeros. -/
def padded (width n : Nat) : List Char :=
  List.replicate (width - (Nat.toDigits 10 n).length) '0' ++ Nat.toDigits 10 n

/-- What `format(value, "f")` writes before the point. -/
def whole (d : Decimal) : List Char :=
  match d.exponent with
  | .ofNat n => Nat.toDigits 10 (d.coefficient * 10 ^ n)
  | .negSucc n => Nat.toDigits 10 (d.coefficient / 10 ^ (n + 1))

/-- What it writes after the point. -/
def fraction (d : Decimal) : List Char :=
  match d.exponent with
  | .ofNat _ => []
  | .negSucc n => padded (n + 1) (d.coefficient % 10 ^ (n + 1))

def trimZeros (l : List Char) : List Char := (l.reverse.dropWhile (· == '0')).reverse

def signText (d : Decimal) : List Char := if d.negative then ['-'] else []

/-- The text with the point only before a digit. -/
def trimmed (d : Decimal) : List Char :=
  d.signText ++ (d.whole ++ if trimZeros d.fraction = [] then [] else '.' :: trimZeros d.fraction)

theorem whole_ne_nil (d : Decimal) : d.whole ≠ [] := by
  unfold whole
  split <;> exact Nat.toDigits_ne_nil

theorem isDigit_whole (d : Decimal) : ∀ c ∈ d.whole, c.isDigit = true := by
  unfold whole
  split <;> exact fun _ hc => Nat.isDigit_of_mem_toDigits (by omega) (by omega) hc

theorem isDigit_fraction (d : Decimal) : ∀ c ∈ d.fraction, c.isDigit = true := by
  unfold fraction
  split
  · simp
  · intro c hc
    rcases List.mem_append.1 hc with hc | hc
    · rw [List.eq_of_mem_replicate hc]
      rfl
    · exact Nat.isDigit_of_mem_toDigits (by omega) (by omega) hc

theorem toList_fixed (d : Decimal) : d.fixed.toList =
    d.signText ++ (d.whole ++ if d.exponent < 0 then '.' :: d.fraction else []) := by
  have hsign : (if d.negative then "-" else "").toList = d.signText := by
    unfold signText
    split <;> rfl
  have hlength (n : Nat) : n.repr.length = (Nat.toDigits 10 n).length := by
    rw [← Nat.toList_repr, String.length_toList]
  obtain ⟨negative, c, n | n⟩ := d
  · rw [fixed, String.toList_append, hsign]
    simp [whole]
  · rw [fixed, String.toList_append, hsign]
    simp [whole, fraction, padded, hlength, Int.negSucc_lt_zero]

/-! ## Trailing zeros -/

theorem trimZeros_append_zero (l : List Char) : trimZeros (l ++ ['0']) = trimZeros l := by
  simp [trimZeros]

/-- What is trimmed are zeros. -/
theorem trimZeros_spec (l : List Char) :
    ∃ k, l = trimZeros l ++ List.replicate k '0' ∧ ∀ c ∈ trimZeros l, c ∈ l := by
  induction l using List.reverseRecOn with
  | nil => exact ⟨0, rfl, by simp [trimZeros]⟩
  | append_singleton l c ih =>
    by_cases hc : c = '0'
    · subst hc
      obtain ⟨k, hk, hmem⟩ := ih
      rw [trimZeros_append_zero]
      refine ⟨k + 1, ?_, fun d hd => List.mem_append_left _ (hmem d hd)⟩
      rw [List.replicate_succ', ← List.append_assoc, ← hk]
    · have htrim : trimZeros (l ++ [c]) = l ++ [c] := by simp [trimZeros, hc]
      rw [htrim]
      exact ⟨0, by simp, fun d hd => hd⟩

theorem dropWhile_append_of_stop {p : Char → Bool} {c : Char} (hc : p c = false) (l r : List Char) :
    (l ++ c :: r).dropWhile p = l.dropWhile p ++ c :: r := by
  induction l with
  | nil => simp [hc]
  | cons a l ih =>
    by_cases ha : p a = true
    · simp [ha, ih]
    · simp [ha]

theorem rstrip_zero (x f : List Char) : rstrip '0' (String.ofList (x ++ '.' :: f)) =
    String.ofList (x ++ '.' :: trimZeros f) := by
  unfold rstrip trimZeros
  rw [String.toList_ofList, List.reverse_append, List.reverse_cons, List.append_assoc,
    List.singleton_append, dropWhile_append_of_stop (by decide)]
  simp

/-- A point is removed when nothing is left behind it. -/
theorem rstrip_point {x f : List Char} (hx : ∀ c ∈ x, c.isDigit = true) (hne : x ≠ [])
    (hf : ∀ c ∈ f, c.isDigit = true) (s : List Char) :
    rstrip '.' (String.ofList (s ++ (x ++ '.' :: f))) =
      String.ofList (s ++ (x ++ if f = [] then [] else '.' :: f)) := by
  have hpoint {c : Char} (hc : c.isDigit = true) : (c == '.') = false := by
    rw [beq_eq_false_iff_ne]
    rintro rfl
    exact absurd hc (by decide)
  unfold rstrip
  rw [String.toList_ofList]
  split
  · next hnil =>
    obtain ⟨y, c, rfl⟩ := List.eq_nil_or_concat x |>.resolve_left hne
    have hc := hpoint (hx c (by simp))
    simp [hnil, hc]
  · next hsome =>
    obtain ⟨y, c, rfl⟩ := List.eq_nil_or_concat f |>.resolve_left hsome
    have hc := hpoint (hf c (by simp))
    simp [hc]

theorem trimmed_ne_nil (d : Decimal) : d.trimmed ≠ [] := by
  intro h
  exact d.whole_ne_nil (List.append_eq_nil_iff.1 (List.append_eq_nil_iff.1 h).2).1

theorem contains_point (d : Decimal) : d.fixed.toList.contains '.' = decide (d.exponent < 0) := by
  have hsign : '.' ∉ d.signText := by
    unfold signText
    split <;> decide
  have hwhole : '.' ∉ d.whole := fun h => absurd (d.isDigit_whole _ h) (by decide)
  rw [toList_fixed, Bool.eq_iff_iff, List.contains_iff_mem, decide_eq_true_iff, List.mem_append,
    List.mem_append]
  constructor
  · rintro (h | h | h)
    · exact absurd h hsign
    · exact absurd h hwhole
    · by_contra hexp
      rw [if_neg hexp] at h
      exact absurd h List.not_mem_nil
  · intro hexp
    rw [if_pos hexp]
    exact .inr (.inr List.mem_cons_self)

/-- The canonical text, but for a zero with a sign. -/
theorem toList_canonical (d : Decimal) :
    d.canonical.toList = if d.trimmed = ['-', '0'] then ['0'] else d.trimmed := by
  have htext : (if d.fixed.toList.contains '.' then rstrip '.' (rstrip '0' d.fixed) else d.fixed) =
      String.ofList d.trimmed := by
    have hfixed : d.fixed = String.ofList d.fixed.toList := (String.ofList_toList).symm
    rw [contains_point]
    by_cases hexp : d.exponent < 0
    · rw [if_pos (decide_eq_true hexp), hfixed, toList_fixed, if_pos hexp, ← List.append_assoc,
        rstrip_zero, List.append_assoc, rstrip_point d.isDigit_whole d.whole_ne_nil]
      · rfl
      · obtain ⟨k, -, hmem⟩ := trimZeros_spec d.fraction
        exact fun c hc => d.isDigit_fraction c (hmem c hc)
    · have hfraction : d.fraction = [] := by
        unfold fraction
        split
        · rfl
        · next n hn => exact absurd (hn ▸ Int.negSucc_lt_zero n) hexp
      rw [if_neg (by simpa using hexp), hfixed, toList_fixed, if_neg hexp]
      simp [trimmed, hfraction, trimZeros]
  have hempty : String.ofList d.trimmed ≠ "" := fun h =>
    d.trimmed_ne_nil (by rw [← String.toList_ofList (l := d.trimmed), h]; rfl)
  have hzero : String.ofList d.trimmed = "-0" ↔ d.trimmed = ['-', '0'] := by
    rw [← String.toList_inj, String.toList_ofList]
    rfl
  unfold canonical
  simp only [htext, hempty, or_false, hzero]
  split
  · rfl
  · rw [String.toList_ofList]

/-! ## The number of the text -/

theorem length_padded {width n : Nat} (hw : 0 < width) (h : n < 10 ^ width) :
    (padded width n).length = width := by
  have hlength := (Nat.length_toDigits_le_iff (by omega) hw).2 h
  rw [padded, List.length_append, List.length_replicate]
  omega

theorem ofDigitChars_padded (width n init : Nat) : Nat.ofDigitChars 10 (padded width n) init =
    10 ^ (padded width n).length * init + n := by
  rw [Nat.ofDigitChars_eq_ofDigitChars_zero, padded, Nat.ofDigitChars_append,
    Nat.ofDigitChars_replicate_zero, Nat.mul_zero, Nat.ofDigitChars_ten_toDigits]

/-- All digits spell the decimal, with as many places as stand after the point. -/
theorem toRat_digits (d : Decimal) :
    toRat ⟨d.negative, Nat.ofDigitChars 10 (d.whole ++ d.fraction) 0, -d.fraction.length⟩ = d.toRat := by
  rw [Nat.ofDigitChars_append]
  obtain ⟨negative, c, n | n⟩ := d
  · simp only [whole, fraction, Nat.ofDigitChars_ten_toDigits, Nat.ofDigitChars_nil]
    rw [toRat_mul_pow]
    simp
  · have hlt : c % 10 ^ (n + 1) < 10 ^ (n + 1) := Nat.mod_lt _ (by positivity)
    have hdigits : Nat.ofDigitChars 10 (padded (n + 1) (c % 10 ^ (n + 1)))
        (Nat.ofDigitChars 10 (Nat.toDigits 10 (c / 10 ^ (n + 1))) 0) = c := by
      rw [ofDigitChars_padded, length_padded (by omega) hlt, Nat.ofDigitChars_ten_toDigits]
      exact Nat.div_add_mod c (10 ^ (n + 1))
    simp only [whole, fraction, hdigits, length_padded (Nat.succ_pos n) hlt]
    rfl

theorem toRat_trimmed (d : Decimal) :
    toRat ⟨d.negative, Nat.ofDigitChars 10 (d.whole ++ trimZeros d.fraction) 0,
      0 - (trimZeros d.fraction).length⟩ = d.toRat := by
  rw [← toRat_digits d]
  obtain ⟨k, hk, -⟩ := trimZeros_spec d.fraction
  have hdigits : Nat.ofDigitChars 10 (d.whole ++ d.fraction) 0 =
      Nat.ofDigitChars 10 (d.whole ++ trimZeros d.fraction) 0 * 10 ^ k := by
    conv_lhs => rw [hk]
    rw [← List.append_assoc, Nat.ofDigitChars_append, Nat.ofDigitChars_replicate_zero, Nat.mul_comm]
  have hlength : (d.fraction.length : Int) = (trimZeros d.fraction).length + k := by
    conv_lhs => rw [hk]
    rw [List.length_append, List.length_replicate, Nat.cast_add]
  rw [hdigits, toRat_mul_pow, hlength]
  congr 2
  omega

/-- **The canonical text spells the number.** -/
theorem numericText_canonical (d : Decimal) :
    ∃ e : Decimal, numericText d.canonical = some (e, 0) ∧ e.toRat = d.toRat := by
  have htrim : ∀ c ∈ trimZeros d.fraction, c.isDigit = true := by
    obtain ⟨k, -, hmem⟩ := trimZeros_spec d.fraction
    exact fun c hc => d.isDigit_fraction c (hmem c hc)
  have hread (negative : Bool) (x : List Char)
      (hx : d.canonical.toList = (if negative then ['-'] else []) ++ (d.whole ++ x))
      (hfx : x = if trimZeros d.fraction = [] then [] else '.' :: trimZeros d.fraction) :
      numericText d.canonical = some (⟨negative,
        Nat.ofDigitChars 10 (d.whole ++ trimZeros d.fraction) 0, 0 - (trimZeros d.fraction).length⟩, 0) := by
    subst hfx
    exact numericText_parts (by rw [List.append_nil]; exact hx) d.isDigit_whole htrim
      d.whole_ne_nil (by simp) (show readExponent [] = some 0 from rfl)
  have htext := d.toList_canonical
  split at htext
  · next hzero =>
    have hparts : d.whole = ['0'] ∧ trimZeros d.fraction = [] := by
      obtain ⟨c, l, hcl⟩ := List.exists_cons_of_ne_nil d.whole_ne_nil
      have hdigit : c ≠ '-' := by
        rintro rfl
        exact absurd (d.isDigit_whole '-' (by rw [hcl]; exact List.mem_cons_self)) (by decide)
      unfold trimmed signText at hzero
      rw [hcl] at hzero ⊢
      split at hzero
      · simp only [List.cons_append, List.nil_append, List.cons.injEq, true_and] at hzero
        obtain ⟨rfl, hl⟩ := hzero
        obtain ⟨rfl, hrest⟩ := List.append_eq_nil_iff.1 hl
        refine ⟨rfl, by_contra fun hne => ?_⟩
        rw [if_neg hne] at hrest
        cases hrest
      · simp only [List.cons_append, List.nil_append, List.cons.injEq] at hzero
        exact absurd hzero.1 hdigit
    obtain ⟨hwhole, hfraction⟩ := hparts
    have hvalue := d.toRat_trimmed
    have := hread false [] (by rw [htext, hwhole]; rfl) (by rw [if_pos hfraction])
    refine ⟨_, this, ?_⟩
    rw [← hvalue, hwhole, hfraction]
    simp [toRat_eq, signed, Nat.ofDigitChars]
  · exact ⟨_, hread d.negative _ htext rfl, d.toRat_trimmed⟩

/-! ## One text for one number -/

theorem toDigits_mul_ten {n : Nat} (h : 0 < n) :
    Nat.toDigits 10 (n * 10) = Nat.toDigits 10 n ++ ['0'] := by
  rw [Nat.toDigits_of_base_le (by omega) (by omega), Nat.mul_div_cancel n (by omega),
    Nat.mul_mod_left]
  rfl

theorem padded_mul_ten {width : Nat} (hw : 0 < width) (n : Nat) :
    padded (width + 1) (n * 10) = padded width n ++ ['0'] := by
  unfold padded
  rcases Nat.eq_zero_or_pos n with rfl | hn
  · obtain ⟨k, rfl⟩ := Nat.exists_eq_succ_of_ne_zero hw.ne'
    simp [List.replicate_succ']
  · rw [toDigits_mul_ten hn, List.length_append, List.length_singleton, ← List.append_assoc]
    congr 3
    omega

/-- A zero at the end of the coefficient changes nothing. -/
theorem trimmed_mul_ten (negative : Bool) (c : Nat) (e : Int) :
    trimmed ⟨negative, c * 10, e⟩ = trimmed ⟨negative, c, e + 1⟩ := by
  have hsame : whole ⟨negative, c * 10, e⟩ = whole ⟨negative, c, e + 1⟩ ∧
      trimZeros (fraction ⟨negative, c * 10, e⟩) = trimZeros (fraction ⟨negative, c, e + 1⟩) := by
    match e with
    | .ofNat n =>
      have hexp : Int.ofNat n + 1 = Int.ofNat (n + 1) := rfl
      rw [hexp]
      simp [whole, fraction, pow_succ', mul_assoc]
    | .negSucc 0 =>
      have hexp : Int.negSucc 0 + 1 = Int.ofNat 0 := rfl
      rw [hexp]
      simp only [whole, fraction, zero_add, pow_one, pow_zero, mul_one,
        Nat.mul_div_cancel c (show 0 < 10 by omega), Nat.mul_mod_left, true_and]
      rfl
    | .negSucc (n + 1) =>
      have hexp : Int.negSucc (n + 1) + 1 = Int.negSucc n := rfl
      rw [hexp]
      simp only [whole, fraction]
      rw [pow_succ 10 (n + 1), Nat.mul_div_mul_right _ _ (by omega), Nat.mul_mod_mul_right,
        padded_mul_ten (by omega), trimZeros_append_zero]
      exact ⟨rfl, rfl⟩
  unfold trimmed
  rw [hsame.1, hsame.2]
  rfl

theorem canonical_mul_pow (negative : Bool) (c k : Nat) (e : Int) :
    canonical ⟨negative, c * 10 ^ k, e⟩ = canonical ⟨negative, c, e + k⟩ := by
  apply String.toList_injective
  rw [toList_canonical, toList_canonical]
  suffices htrim : trimmed ⟨negative, c * 10 ^ k, e⟩ = trimmed ⟨negative, c, e + k⟩ by rw [htrim]
  induction k generalizing e with
  | zero => simp
  | succ k ih =>
    rw [pow_succ, ← mul_assoc, trimmed_mul_ten, ih, Nat.cast_succ, add_assoc, add_comm (1 : Int)]

theorem canonical_zero (negative : Bool) (e : Int) : canonical ⟨negative, 0, e⟩ = "0" := by
  obtain ⟨n, rfl | rfl⟩ := e.eq_nat_or_neg
  · apply String.toList_injective
    rw [toList_canonical]
    cases negative <;> simp [trimmed, signText, whole, fraction, trimZeros]
  · have h := canonical_mul_pow negative 0 n (-n)
    rw [zero_mul, neg_add_cancel] at h
    rw [h]
    cases negative <;> rfl

/-- **Equal numbers have one canonical text, and different numbers have different ones.** -/
theorem canonical_eq_iff {a b : Decimal} : a.canonical = b.canonical ↔ a.toRat = b.toRat := by
  constructor
  · intro h
    obtain ⟨x, hx, hxa⟩ := a.numericText_canonical
    obtain ⟨y, hy, hyb⟩ := b.numericText_canonical
    rw [h, hy] at hx
    cases hx
    exact hxa.symm.trans hyb
  · intro h
    obtain ⟨s, c, e⟩ := a
    obtain ⟨s', c', e'⟩ := b
    -- both on the lower exponent
    obtain ⟨k, hk⟩ := Int.eq_ofNat_of_zero_le (Int.sub_nonneg_of_le (min_le_left e e'))
    obtain ⟨k', hk'⟩ := Int.eq_ofNat_of_zero_le (Int.sub_nonneg_of_le (min_le_right e e'))
    have he : e = min e e' + k := by omega
    have he' : e' = min e e' + k' := by omega
    generalize min e e' = m at he he'
    subst he he'
    rw [← toRat_mul_pow, ← toRat_mul_pow, toRat_eq, toRat_eq] at h
    have hsigned := mul_right_cancel₀ (zpow_ne_zero m (by norm_num : (10 : ℚ) ≠ 0)) h
    rw [Int.cast_inj] at hsigned
    rw [← canonical_mul_pow, ← canonical_mul_pow]
    generalize c * 10 ^ k = n at hsigned
    generalize c' * 10 ^ k' = n' at hsigned
    rcases Nat.eq_zero_or_pos n with rfl | hn
    · have hn' : n' = 0 := by
        unfold signed at hsigned
        cases s <;> cases s' <;> simp at hsigned <;> omega
      rw [hn', canonical_zero, canonical_zero]
    · have hsame : s = s' ∧ n = n' := by
        unfold signed at hsigned
        cases s <;> cases s' <;> simp at hsigned ⊢ <;> omega
      rw [hsame.1, hsame.2]

end Decimal

end PaperGrading
