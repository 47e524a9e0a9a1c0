import PaperGrading.Domain.Decimals
import PaperGrading.Domain.Rubric
import Mathlib.Tactic.Linarith

/-!
# The bands of a dimension

`StructuredRubric` checks each band against its neighbour: the first starts at zero, each next one
a step above the last, the last ends at the maximum of the dimension.  With every bound on the
grid of the step this makes the bands a partition of the grid.

    onGrid step x ↔ ∃ k : ℤ, x = k * step                                  (onGrid_iff)
    every grid point up to the maximum lies in one band                    (countP_bands)
-/

namespace PaperGrading

namespace StructuredRubric

theorem onGrid_iff {step x : ℚ} (hstep : 0 < step) :
    onGrid step x = true ↔ ∃ k : Int, x = k * step := by
  unfold onGrid
  rw [decide_eq_true_iff, Rat.den_eq_one_iff]
  constructor
  · intro h
    exact ⟨(x / step).num, by rw [h, div_mul_cancel₀ x hstep.ne']⟩
  · rintro ⟨k, rfl⟩
    rw [mul_div_cancel_right₀ _ hstep.ne', Rat.num_intCast]

end StructuredRubric

namespace RubricBand

/-- The score lies in the band. -/
def contains (b : RubricBand) (score : ℚ) : Bool :=
  decide (b.minScore.toRat ≤ score) && decide (score ≤ b.maxScore.toRat)

theorem contains_iff {b : RubricBand} {score : ℚ} :
    b.contains score = true ↔ b.minScore.toRat ≤ score ∧ score ≤ b.maxScore.toRat := by
  rw [contains, Bool.and_eq_true, decide_eq_true_iff, decide_eq_true_iff]

end RubricBand

namespace RubricDimension

open StructuredRubric

/-- The grid point below the first band that is still to come. -/
def below (step : ℚ) : Option ℚ → ℚ
  | none => -step
  | some m => m

theorem bandsCover_cons {step maxScore : ℚ} {previousMax : Option ℚ} {b : RubricBand}
    {bands : List RubricBand} : bandsCover step maxScore previousMax (b :: bands) = true ↔
      b.minScore.toRat = below step previousMax + step ∧ b.minScore.toRat ≤ b.maxScore.toRat ∧
        b.maxScore.toRat ≤ maxScore ∧
        bandsCover step maxScore (some b.maxScore.toRat) bands = true := by
  cases previousMax <;> simp [bandsCover, below, and_assoc]

/-- Every band lies above the ones before it and below the maximum. -/
theorem bounds_of_bandsCover {step maxScore : ℚ} (hstep : 0 < step) {previousMax : Option ℚ}
    {bands : List RubricBand} (h : bandsCover step maxScore previousMax bands = true) :
    ∀ b ∈ bands, below step previousMax < b.minScore.toRat ∧
      b.minScore.toRat ≤ b.maxScore.toRat ∧ b.maxScore.toRat ≤ maxScore := by
  induction bands generalizing previousMax with
  | nil => simp
  | cons b bands ih =>
    obtain ⟨hmin, hle, hmax, hrest⟩ := bandsCover_cons.1 h
    have hlt : below step previousMax < b.minScore.toRat := by linarith
    intro c hc
    rcases List.mem_cons.1 hc with rfl | hc
    · exact ⟨hlt, hle, hmax⟩
    · obtain ⟨hbelow, hc'⟩ := ih hrest c hc
      refine ⟨?_, hc'⟩
      calc below step previousMax < b.minScore.toRat := hlt
        _ ≤ b.maxScore.toRat := hle
        _ < c.minScore.toRat := hbelow

/-- The bands increase and do not meet. -/
theorem pairwise_of_bandsCover {step maxScore : ℚ} (hstep : 0 < step) {previousMax : Option ℚ}
    {bands : List RubricBand} (h : bandsCover step maxScore previousMax bands = true) :
    bands.Pairwise fun b c => b.maxScore.toRat < c.minScore.toRat := by
  induction bands generalizing previousMax with
  | nil => exact .nil
  | cons b bands ih =>
    obtain ⟨-, -, -, hrest⟩ := bandsCover_cons.1 h
    exact .cons (fun c hc => (bounds_of_bandsCover hstep hrest c hc).1) (ih hrest)

/-- Bands above a score do not contain it. -/
theorem countP_eq_zero {bands : List RubricBand} {x : ℚ}
    (h : ∀ b ∈ bands, x < b.minScore.toRat) : bands.countP (·.contains x) = 0 := by
  rw [List.countP_eq_zero]
  intro b hb hx
  exact absurd (RubricBand.contains_iff.1 hx).1 (not_le.2 (h b hb))

/-- **A grid point above the bands that are done lies in exactly one of the others.** -/
theorem countP_of_bandsCover {step maxScore : ℚ} (hstep : 0 < step) {previousMax : Option ℚ}
    {bands : List RubricBand} (h : bandsCover step maxScore previousMax bands = true)
    (hgrid : ∀ b ∈ bands, ∃ j : Int, b.maxScore.toRat = j * step)
    (hprevious : ∃ j : Int, below step previousMax = j * step) {k : Int}
    (hlow : below step previousMax < k * step) (hhigh : k * step ≤ maxScore) :
    bands.countP (·.contains (k * step)) = 1 := by
  induction bands generalizing previousMax with
  | nil =>
    have hdone : previousMax = some maxScore := by simpa [bandsCover] using h
    rw [hdone, below] at hlow
    exact absurd hhigh (not_le.2 hlow)
  | cons b bands ih =>
    obtain ⟨hmin, hle, hmax, hrest⟩ := bandsCover_cons.1 h
    obtain ⟨hb, hgrid⟩ := List.forall_mem_cons.1 hgrid
    rw [List.countP_cons]
    by_cases hx : (k : ℚ) * step ≤ b.maxScore.toRat
    · -- the next grid point after the last band is the first of this one
      have hfirst : b.minScore.toRat ≤ k * step := by
        obtain ⟨j, hj⟩ := hprevious
        rw [hj] at hlow hmin
        have hjk : (j : ℚ) < k := lt_of_mul_lt_mul_right hlow hstep.le
        have hjk' : (j : ℚ) + 1 ≤ k := by exact_mod_cast Int.add_one_le_of_lt (by exact_mod_cast hjk)
        calc b.minScore.toRat = (j + 1) * step := by rw [hmin]; ring
          _ ≤ k * step := mul_le_mul_of_nonneg_right hjk' hstep.le
      have hin : b.contains (k * step) = true := RubricBand.contains_iff.2 ⟨hfirst, hx⟩
      have hrest0 : bands.countP (·.contains (k * step)) = 0 :=
        countP_eq_zero fun c hc => hx.trans_lt (bounds_of_bandsCover hstep hrest c hc).1
      rw [hrest0, if_pos hin]
    · have hout : ¬b.contains (k * step) = true := fun hin => hx (RubricBand.contains_iff.1 hin).2
      rw [if_neg hout, ih hrest hgrid hb (not_le.1 hx)]

end RubricDimension

namespace StructuredRubric

/-- What the model validator has checked of the grid. -/
structure Gridded (r : StructuredRubric) : Prop where
  step_pos : 0 < r.scoreStep.toRat
  dimension_ids : (r.dimensions.map (·.id)).Nodup
  deduction_ids : (r.deductions.map (·.id)).Nodup
  dimension_max : ∀ d ∈ r.dimensions, 0 < d.maxScore.toRat
  total : (r.dimensions.map (·.maxScore.toRat)).sum = r.totalScore.toRat
  total_lt : r.totalScore.toRat < 10 ^ 6
  points : ∀ d ∈ r.deductions, 0 < d.points.toRat ∧ OnScale 4 d.points.toRat
  band_max : ∀ d ∈ r.dimensions, ∀ b ∈ d.bands, ∃ k : Int, b.maxScore.toRat = k * r.scoreStep.toRat
  cover : ∀ d ∈ r.dimensions,
    RubricDimension.bandsCover r.scoreStep.toRat d.maxScore.toRat none d.bands = true

theorem gridded_of_accepts {env : Runtime} {r : StructuredRubric} (h : r.accepts env = true) :
    r.Gridded := by
  unfold accepts at h
  simp only [Bool.and_eq_true, decide_eq_true_eq, List.all_eq_true] at h
  obtain ⟨⟨⟨⟨⟨⟨⟨⟨⟨⟨⟨⟨⟨⟨⟨⟨-, hfits⟩, hstep⟩, -⟩, -⟩, hdimensions⟩, -⟩, hdeductions⟩, hids⟩, -⟩, hdids⟩, -⟩,
    htotal⟩, -⟩, hgrid⟩, -⟩, hcover⟩ := h
  refine ⟨hstep, hids, hdids, fun d hd => ?_, htotal, ?_, fun d hd => ?_, fun d hd b hb => ?_, hcover⟩
  · have hd' := hdimensions d hd
    unfold RubricDimension.accepts at hd'
    simp only [Bool.and_eq_true, decide_eq_true_eq] at hd'
    exact hd'.1.1.1.1.1.2
  · exact (le_abs_self _).trans_lt (Decimal.fits_iff.1 hfits).2
  · have hd' := hdeductions d hd
    unfold RubricDeduction.accepts at hd'
    simp only [Bool.and_eq_true, decide_eq_true_eq] at hd'
    exact ⟨hd'.1.2, (Decimal.fits_iff.1 hd'.2).1⟩
  · refine (onGrid_iff hstep).1 (hgrid _ ?_)
    simp only [scores, List.cons_append, List.mem_cons, List.mem_append, List.mem_flatMap]
    exact .inr (.inl (.inr ⟨d, hd, b, hb, by simp⟩))

/-- **Every multiple of the step up to the maximum of a dimension lies in exactly one band.** -/
theorem countP_bands {r : StructuredRubric} (h : r.Gridded) {d : RubricDimension}
    (hd : d ∈ r.dimensions) {k : Int} (hlow : 0 ≤ (k : ℚ) * r.scoreStep.toRat)
    (hhigh : (k : ℚ) * r.scoreStep.toRat ≤ d.maxScore.toRat) :
    d.bands.countP (·.contains (k * r.scoreStep.toRat)) = 1 := by
  refine RubricDimension.countP_of_bandsCover h.step_pos (h.cover d hd) (h.band_max d hd)
    ⟨-1, by simp [RubricDimension.below]⟩ ?_ hhigh
  have := h.step_pos
  rw [RubricDimension.below]
  linarith

end StructuredRubric

end PaperGrading
