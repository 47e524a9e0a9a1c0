import PaperGrading.Domain.Bands
import PaperGrading.Domain.DecimalContext

/-!
# The digits a field admits

`Field(max_digits=m, decimal_places=p)` counts the digits of a number as it is given and those of
its `normalize()`, which rounds in the context of 28 digits, and takes the shorter.  A number of
more than 28 digits may so be admitted for the sake of the number it is rounded to, and is kept
as it was given.

    x.fits m p ↔ x.admitted m p ∧ OnScale p x                        (fits_iff_admitted)
    the scores of a rubric are multiples of its step, which leaves no such number, and so are
    those of a grade                                     (numbersAdmitted_iff, fits_score)
    sums of scores are exact                            (sumUp_hundred, toRat_plus_step)
-/

namespace PaperGrading

namespace Decimal

/-! ## Counting -/

/-- The digits after the point. -/
def places (x : Decimal) : Nat := (-x.exponent).toNat

/-- The digits in all: those of the coefficient, and zeros up to the point. -/
def digitCount (x : Decimal) : Nat :=
  max (Nat.log 10 x.coefficient + 1 + x.exponent.toNat) x.places

/-- The digits before the point. -/
def wholeDigits (x : Decimal) : Nat := x.digitCount - x.places

/-- `normalize()`: the number in the context, without trailing zeros. -/
def normalized (x : Decimal) : Decimal := normalize (Nat.log2 x.fix.coefficient + 1) x.fix

/-- `Field(max_digits=m, decimal_places=p)`: each count may be that of the number as it is given
or that of the normalized one. -/
def admitted (maxDigits decimalPlaces : Nat) (x : Decimal) : Bool :=
  let n := x.normalized
  (decide (x.digitCount ≤ maxDigits) || decide (n.digitCount ≤ maxDigits)) &&
    (decide (x.places ≤ decimalPlaces) || decide (n.places ≤ decimalPlaces)) &&
      (decide (x.wholeDigits ≤ maxDigits - decimalPlaces) ||
        decide (n.wholeDigits ≤ maxDigits - decimalPlaces))

theorem toRat_normalized (x : Decimal) : x.normalized.toRat = x.fix.toRat := toRat_normalize _ _

theorem isNormal_normalized (x : Decimal) : x.normalized.IsNormal :=
  isNormal_normalize Nat.lt_log2_self

theorem onScale_of_places {x : Decimal} {p : Nat} (h : x.places ≤ p) : OnScale p x.toRat := by
  unfold places at h
  exact onScale_of_exponent (by omega)

theorem abs_lt_of_wholeDigits {x : Decimal} {w : Nat} (h : x.wholeDigits ≤ w) :
    |x.toRat| < 10 ^ w := by
  have hlog := Nat.lt_pow_succ_log_self (b := 10) (by norm_num) x.coefficient
  have hcoefficient : (x.coefficient : ℚ) < 10 ^ (Nat.log 10 x.coefficient + 1) := by
    exact_mod_cast hlog
  rw [abs_toRat]
  calc (x.coefficient : ℚ) * (10 : ℚ) ^ x.exponent
      < 10 ^ (Nat.log 10 x.coefficient + 1) * (10 : ℚ) ^ x.exponent :=
        mul_lt_mul_of_pos_right hcoefficient (by positivity)
    _ = (10 : ℚ) ^ ((Nat.log 10 x.coefficient + 1 : Nat) + x.exponent) := by
        rw [zpow_add₀ (by norm_num), zpow_natCast]
    _ ≤ (10 : ℚ) ^ (w : Int) := by
        refine zpow_le_zpow_right₀ (by norm_num) ?_
        unfold wholeDigits digitCount places at h
        omega
    _ = 10 ^ w := zpow_natCast _ _

theorem wholeDigits_le {x : Decimal} {w : Nat} (hc : x.coefficient ≠ 0) (h : |x.toRat| < 10 ^ w) :
    x.wholeDigits ≤ w := by
  have hlog : ((10 ^ Nat.log 10 x.coefficient : Nat) : ℚ) ≤ x.coefficient := by
    exact_mod_cast Nat.pow_log_le_self 10 hc
  have hlt : (10 : ℚ) ^ ((Nat.log 10 x.coefficient : Nat) + x.exponent) < (10 : ℚ) ^ (w : Int) := by
    rw [zpow_natCast]
    refine lt_of_le_of_lt ?_ h
    rw [abs_toRat, zpow_add₀ (by norm_num), zpow_natCast]
    push_cast at hlog
    exact mul_le_mul_of_nonneg_right hlog (by positivity)
  have hexp := (zpow_lt_zpow_iff_right₀ (by norm_num : (1 : ℚ) < 10)).1 hlt
  unfold wholeDigits digitCount places
  omega

/-! ## Admitted numbers -/

section

variable {x : Decimal} {m p : Nat}

theorem abs_lt_of_admitted (h : x.admitted m p = true) : |x.toRat| < 10 ^ (m - p) := by
  unfold admitted at h
  simp only [Bool.and_eq_true, Bool.or_eq_true, decide_eq_true_iff] at h
  rcases h.2 with hwhole | hwhole
  · exact abs_lt_of_wholeDigits hwhole
  · have hfix := abs_lt_of_wholeDigits hwhole
    rw [toRat_normalized] at hfix
    by_contra hle
    rw [not_lt, ← zpow_natCast] at hle
    have hround := zpow_le_abs_fix (by unfold etiny; omega) hle
    rw [zpow_natCast] at hround
    exact absurd hfix (not_lt.2 hround)

/-- A number with few digits is held by the context. -/
theorem representable_of_short (hp : p < m) (hm : m ≤ 28) (hscale : OnScale p x.toRat)
    (hlt : |x.toRat| < 10 ^ (m - p)) : Representable x.toRat := by
  refine representable_of_onScale (by omega) hscale ?_
  calc |x.toRat| * 10 ^ p < 10 ^ (m - p) * 10 ^ p := mul_lt_mul_of_pos_right hlt (by positivity)
    _ = 10 ^ m := by
        rw [← pow_add]
        congr 1
        omega
    _ ≤ 10 ^ 28 := pow_le_pow_right₀ (by norm_num) hm

/-- What an admitted number is rounded to has the decimal places of the field. -/
theorem onScale_fix_of_admitted (hp : p < m) (hm : m ≤ 28) (h : x.admitted m p = true) :
    OnScale p x.fix.toRat := by
  have hlt := abs_lt_of_admitted h
  unfold admitted at h
  simp only [Bool.and_eq_true, Bool.or_eq_true, decide_eq_true_iff] at h
  rcases h.1.2 with hplaces | hplaces
  · have hscale : OnScale p x.toRat := onScale_of_places hplaces
    rwa [toRat_fix (representable_of_short hp hm hscale hlt)]
  · rw [← toRat_normalized]
    exact onScale_of_places hplaces

theorem admitted_of_fits (hp : p < m) (hm : m ≤ 28) (h : x.fits m p = true) :
    x.admitted m p = true := by
  obtain ⟨hscale, hlt⟩ := fits_iff.1 h
  have hvalue : x.normalized.toRat = x.toRat := by
    rw [toRat_normalized, toRat_fix (representable_of_short hp hm hscale hlt)]
  have hexponent : -(p : Int) ≤ x.normalized.exponent := by
    rw [← onScale_iff_of_isNormal (isNormal_normalized x), hvalue]
    exact hscale
  have hplaces : x.normalized.places ≤ p := by
    unfold places
    omega
  have hwhole : x.normalized.wholeDigits ≤ m - p := by
    rcases isNormal_normalized x with ⟨hzero, hexp⟩ | hcoefficient
    · unfold wholeDigits digitCount places
      rw [hzero, hexp]
      simp
      omega
    · refine wholeDigits_le (fun h0 => hcoefficient (by rw [h0])) ?_
      rwa [hvalue]
  have hdigits : x.normalized.digitCount ≤ m := by
    unfold wholeDigits at hwhole
    omega
  unfold admitted
  simp only [Bool.and_eq_true, Bool.or_eq_true, decide_eq_true_iff]
  exact ⟨⟨.inr hdigits, .inr hplaces⟩, .inr hwhole⟩

/-- **The field admits what fits, and numbers with more places that are rounded to such.** -/
theorem fits_iff_admitted (hp : p < m) (hm : m ≤ 28) :
    x.fits m p = true ↔ x.admitted m p = true ∧ OnScale p x.toRat :=
  ⟨fun h => ⟨admitted_of_fits hp hm h, (fits_iff.1 h).1⟩,
    fun ⟨h, hscale⟩ => fits_iff.2 ⟨hscale, abs_lt_of_admitted h⟩⟩

/-- An admitted number with more places than the field has is not one that the context holds. -/
theorem fix_ne_of_admitted (hp : p < m) (hm : m ≤ 28) (h : x.admitted m p = true)
    (hscale : ¬OnScale p x.toRat) : x.fix.toRat ≠ x.toRat := fun heq =>
  hscale (heq ▸ onScale_fix_of_admitted hp hm h)

end

/-- A hundred numbers of the field for scores. -/
theorem sumUp_hundred {values : List Decimal} (hfits : ∀ x ∈ values, x.fits 10 4 = true)
    (hlength : values.length ≤ 100) :
    (sumUp values).toRat = (values.map toRat).sum ∧
      OnScale 4 (sumUp values).toRat ∧ |(sumUp values).toRat| ≤ 10 ^ 8 := by
  have hlt : values.length * 10 ^ 10 < 10 ^ 28 := by omega
  obtain ⟨hscale, hle⟩ := sumUp_bounded (by norm_num) (by norm_num) hfits hlt
  refine ⟨toRat_sumUp (by norm_num) (by norm_num) hfits hlt, hscale, hle.trans ?_⟩
  have hcast : (values.length : ℚ) ≤ 100 := by exact_mod_cast hlength
  norm_num
  linarith

/-- Twenty-nine digits are rounded to one. -/
example : admitted 18 9 ⟨false, 10 ^ 28 + 1, -28⟩ = true ∧
    fits 18 9 ⟨false, 10 ^ 28 + 1, -28⟩ = false := by
  decide +kernel

end Decimal

/-! ## The numbers of a rubric -/

namespace StructuredRubric

/-- The numbers of a rubric as its model checks them: the digits of each, the sum in the context,
and remainders, which raise an exception for a quotient of more than 28 digits.  Remainders are
exact: those below `10 ^ etiny`, which the context takes for zero, are left out. -/
structure NumbersAdmitted (r : StructuredRubric) : Prop where
  digits : ∀ d ∈ r.decimals, d.admitted 10 4 = true
  sum : (Decimal.sumUp (r.dimensions.map (·.maxScore))).toRat = r.totalScore.toRat
  grid : ∀ x ∈ r.scores, ∃ q : Nat, q < 10 ^ 28 ∧ x = q * r.scoreStep.toRat

/-- And as `accepts` does, on the exact numbers. -/
structure NumbersFit (r : StructuredRubric) : Prop where
  digits : ∀ d ∈ r.decimals, d.fits 10 4 = true
  sum : (r.dimensions.map (·.maxScore.toRat)).sum = r.totalScore.toRat
  grid : ∀ x ∈ r.scores, onGrid r.scoreStep.toRat x = true

theorem mem_scores_of_mem_decimals {r : StructuredRubric} {d : Decimal} (h : d ∈ r.decimals) :
    d = r.scoreStep ∨ d.toRat ∈ r.scores := by
  unfold decimals at h
  unfold scores
  simp only [List.mem_cons, List.mem_append, List.mem_flatMap, List.mem_map] at h ⊢
  rcases h with rfl | rfl | ⟨x, hx, rfl | ⟨b, hb, rfl | rfl | h⟩⟩ | ⟨x, hx, rfl⟩
  · exact .inr (.inl (.inl (.inl rfl)))
  · exact .inl rfl
  · exact .inr (.inl (.inl (.inr ⟨x, hx, rfl⟩)))
  · exact .inr (.inl (.inr ⟨x, hx, b, hb, .inl rfl⟩))
  · exact .inr (.inl (.inr ⟨x, hx, b, hb, .inr (.inl rfl)⟩))
  · cases h
  · exact .inr (.inr ⟨x, hx, rfl⟩)

theorem exists_of_mem_scores {r : StructuredRubric} {x : ℚ} (h : x ∈ r.scores) :
    ∃ d ∈ r.decimals, d.toRat = x := by
  unfold scores at h
  unfold decimals
  simp only [List.mem_cons, List.mem_append, List.mem_flatMap, List.mem_map] at h ⊢
  rcases h with ((rfl | ⟨d, hd, rfl⟩) | ⟨d, hd, b, hb, rfl | rfl | h⟩) | ⟨d, hd, rfl⟩
  · exact ⟨_, .inl rfl, rfl⟩
  · exact ⟨_, .inr (.inr (.inl ⟨d, hd, .inl rfl⟩)), rfl⟩
  · exact ⟨_, .inr (.inr (.inl ⟨d, hd, .inr ⟨b, hb, .inl rfl⟩⟩)), rfl⟩
  · exact ⟨_, .inr (.inr (.inl ⟨d, hd, .inr ⟨b, hb, .inr (.inl rfl)⟩⟩)), rfl⟩
  · cases h
  · exact ⟨_, .inr (.inr (.inr ⟨d, hd, rfl⟩)), rfl⟩

/-- A step that divides a total of four places in less than `10 ^ 28` parts and is rounded to four
places has four places: rounding it would move the total by less than a unit. -/
theorem onScale_step {total step : Decimal} {q : Nat} (hstep : 0 < step.toRat)
    (htotal : OnScale 4 total.toRat) (hlt : total.toRat < 10 ^ 6) (hq : q < 10 ^ 28)
    (heq : total.toRat = q * step.toRat) (hpos : 0 < total.toRat)
    (hfix : OnScale 4 step.fix.toRat) : OnScale 4 step.toRat := by
  have herr := Decimal.abs_fix_sub step
  have htiny : (10 : ℚ) ^ Decimal.etiny ≤ 1 / 10 ^ 60 := Decimal.zpow_etiny_le
  rw [abs_of_pos hstep] at herr
  obtain ⟨t, ht⟩ := htotal
  obtain ⟨j, hj⟩ := hfix
  have hqq : (q : ℚ) < 10 ^ 28 := by exact_mod_cast hq
  have hq0 : (0 : ℚ) < q := by
    rw [heq] at hpos
    exact pos_of_mul_pos_left hpos hstep.le
  have hmoves : |((j * q - t : Int) : ℚ)| < 1 := by
    have hsame : ((j * q - t : Int) : ℚ) = (step.fix.toRat - step.toRat) * (q * 10 ^ 4) := by
      push_cast
      rw [← hj, ← ht, heq]
      ring
    have hunit : (0 : ℚ) < q * 10 ^ 4 := by positivity
    rw [hsame, abs_mul, abs_of_pos hunit]
    calc |step.fix.toRat - step.toRat| * (q * 10 ^ 4)
        ≤ (step.toRat / 10 ^ 27 + 1 / 10 ^ 60) * (q * 10 ^ 4) :=
          mul_le_mul_of_nonneg_right (herr.trans (add_le_add_right htiny _)) hunit.le
      _ = q * step.toRat * 10 ^ 4 / 10 ^ 27 + q * 10 ^ 4 / 10 ^ 60 := by ring
      _ < 1 := by
          rw [← heq]
          linarith
  have hint : j * q - t = 0 := Int.abs_lt_one_iff.1 (by exact_mod_cast hmoves)
  refine ⟨j, ?_⟩
  have hjt : (j : ℚ) * q = t := by exact_mod_cast sub_eq_zero.1 hint
  have hscaled : step.toRat * 10 ^ 4 * q = j * q := by
    rw [hjt, ← ht, heq]
    ring
  exact mul_right_cancel₀ hq0.ne' hscaled

/-- A multiple of a step of four places has no more. -/
theorem onScale_of_onGrid {p : Nat} {step x : ℚ} (hpos : 0 < step) (hstep : OnScale p step)
    (h : onGrid step x = true) : OnScale p x := by
  obtain ⟨k, rfl⟩ := (onGrid_iff hpos).1 h
  obtain ⟨j, hj⟩ := hstep
  refine ⟨k * j, ?_⟩
  rw [mul_assoc, hj]
  push_cast
  rfl

theorem maxScore_mem {r : StructuredRubric} {d : RubricDimension} (h : d ∈ r.dimensions) :
    d.maxScore ∈ r.decimals :=
  List.mem_cons_of_mem _ (List.mem_cons_of_mem _ (List.mem_append_left _
    (List.mem_flatMap.2 ⟨d, h, List.mem_cons_self⟩)))

/-- Maxima that fit add up to a number the context holds. -/
theorem toRat_sumUp_maxima {r : StructuredRubric} (hdigits : ∀ d ∈ r.decimals, d.fits 10 4 = true)
    (hlength : r.dimensions.length ≤ 100) :
    (Decimal.sumUp (r.dimensions.map (·.maxScore))).toRat =
      (r.dimensions.map (·.maxScore.toRat)).sum := by
  have hmaxima : ∀ x ∈ r.dimensions.map (·.maxScore), x.fits 10 4 = true :=
    List.forall_mem_map.2 fun d hd => hdigits _ (maxScore_mem hd)
  refine (Decimal.sumUp_hundred hmaxima (by rwa [List.length_map])).1.trans ?_
  rw [List.map_map]
  rfl

/-- The step has four places, and so have the scores, which are multiples of it. -/
theorem NumbersAdmitted.fits {r : StructuredRubric} (h : r.NumbersAdmitted)
    (hstep : 0 < r.scoreStep.toRat) (htotal : 0 < r.totalScore.toRat) :
    ∀ d ∈ r.decimals, d.fits 10 4 = true := by
  have htotalDigits := h.digits r.totalScore (by simp [decimals])
  have hstepDigits := h.digits r.scoreStep (by simp [decimals])
  have htotalScale : OnScale 4 r.totalScore.toRat := by
    have hfix := Decimal.onScale_fix_of_admitted (by norm_num) (by norm_num) htotalDigits
    rwa [Decimal.toRat_fix (h.sum ▸ Decimal.representable_sumUp _)] at hfix
  have hlt := Decimal.abs_lt_of_admitted htotalDigits
  obtain ⟨q, hq, heq⟩ := h.grid r.totalScore.toRat (by simp [scores])
  have hscale : OnScale 4 r.scoreStep.toRat :=
    onScale_step hstep htotalScale ((le_abs_self _).trans_lt hlt) hq heq htotal
      (Decimal.onScale_fix_of_admitted (by norm_num) (by norm_num) hstepDigits)
  intro d hd
  refine (Decimal.fits_iff_admitted (by norm_num) (by norm_num)).2 ⟨h.digits d hd, ?_⟩
  rcases mem_scores_of_mem_decimals hd with rfl | hmem
  · exact hscale
  · obtain ⟨k, -, hk⟩ := h.grid _ hmem
    exact onScale_of_onGrid hstep hscale ((onGrid_iff hstep).2 ⟨k, hk⟩)

/-- A step of four places is at least `10 ^ -4`, so the quotients have few digits. -/
theorem NumbersFit.quotient {r : StructuredRubric} (h : r.NumbersFit)
    (hstep : 0 < r.scoreStep.toRat) {x : ℚ} (hx : x ∈ r.scores) (hnn : 0 ≤ x) :
    ∃ q : Nat, q < 10 ^ 28 ∧ x = q * r.scoreStep.toRat := by
  obtain ⟨k, rfl⟩ := (onGrid_iff hstep).1 (h.grid x hx)
  have hk : 0 ≤ k := by exact_mod_cast nonneg_of_mul_nonneg_left hnn hstep
  obtain ⟨k, rfl⟩ := Int.eq_ofNat_of_zero_le hk
  refine ⟨k, ?_, by push_cast; rfl⟩
  obtain ⟨j, hj⟩ := (Decimal.fits_iff.1 (h.digits r.scoreStep (by simp [decimals]))).1
  have hj1 : (1 : ℚ) ≤ j := by
    have : (0 : ℚ) < j := by rw [← hj]; positivity
    exact_mod_cast this
  obtain ⟨d, hd, hdx⟩ := exists_of_mem_scores hx
  have hlt := (le_abs_self _).trans_lt (Decimal.fits_iff.1 (h.digits d hd)).2
  rw [hdx] at hlt
  have hk4 : (k : ℚ) ≤ k * r.scoreStep.toRat * 10 ^ 4 := by
    rw [mul_assoc, hj]
    exact le_mul_of_one_le_right (Nat.cast_nonneg k) hj1
  have hk28 : (k : ℚ) < 10 ^ 28 := by
    push_cast at hlt
    linarith
  exact_mod_cast hk28

/-- **The two checks accept the same rubrics.** -/
theorem numbersAdmitted_iff {r : StructuredRubric} (hstep : 0 < r.scoreStep.toRat)
    (htotal : 0 < r.totalScore.toRat) (hnn : ∀ x ∈ r.scores, 0 ≤ x)
    (hlength : r.dimensions.length ≤ 100) : r.NumbersAdmitted ↔ r.NumbersFit := by
  constructor
  · intro h
    have hfits := h.fits hstep htotal
    refine ⟨hfits, toRat_sumUp_maxima hfits hlength ▸ h.sum, fun x hx => ?_⟩
    obtain ⟨k, -, rfl⟩ := h.grid x hx
    exact (onGrid_iff hstep).2 ⟨k, rfl⟩
  · intro h
    exact ⟨fun d hd => Decimal.admitted_of_fits (by norm_num) (by norm_num) (h.digits d hd),
      (toRat_sumUp_maxima h.digits hlength).trans h.sum, fun x hx => h.quotient hstep hx (hnn x hx)⟩

/-- A rubric that is accepted passes the checks on its numbers. -/
theorem numbersFit_of_accepts {env : Runtime} {r : StructuredRubric} (h : r.accepts env = true) :
    r.NumbersFit where
  digits := fits_of_accepts h
  sum := (gridded_of_accepts h).total
  grid := by
    unfold accepts at h
    simp only [Bool.and_eq_true, List.all_eq_true] at h
    exact h.1.1.2

/-- The minimum that a band must have after one with this maximum. -/
theorem toRat_plus_step {r : StructuredRubric} (h : r.NumbersFit) {x : Decimal}
    (hx : x ∈ r.decimals) : (x.plus r.scoreStep).toRat = x.toRat + r.scoreStep.toRat := by
  obtain ⟨hscale, hlt⟩ := Decimal.fits_iff.1 (h.digits x hx)
  obtain ⟨hstepScale, hstepLt⟩ := Decimal.fits_iff.1 (h.digits r.scoreStep (by simp [decimals]))
  refine Decimal.toRat_plus
    (Decimal.representable_of_onScale (by norm_num) (hscale.add hstepScale) ?_)
  have habs := abs_add_le x.toRat r.scoreStep.toRat
  norm_num at hlt hstepLt ⊢
  linarith

/-- **A score on the grid of its rubric has the digits of its field, whichever are counted.** -/
theorem fits_score {env : Runtime} {r : StructuredRubric} (h : r.accepts env = true) {x : Decimal}
    (hgrid : onGrid r.scoreStep.toRat x.toRat = true) : x.fits 10 4 = x.admitted 10 4 := by
  have hdigits := (numbersFit_of_accepts h).digits r.scoreStep (by simp [decimals])
  have hscale := onScale_of_onGrid (gridded_of_accepts h).step_pos (Decimal.fits_iff.1 hdigits).1 hgrid
  rw [Bool.eq_iff_iff, Decimal.fits_iff_admitted (by norm_num) (by norm_num)]
  exact and_iff_left hscale

end StructuredRubric

end PaperGrading
