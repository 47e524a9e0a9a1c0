import PaperGrading.Grading.Response
import PaperGrading.Reviews.Refinement

/-!
# Exceptions of the review service

`_validate_payload` regroups the flat payload of a teacher into a `GradeResult` outside of its `try`
block, and the limits of the inner models are not all implied by those of the outer ones.

    the regrouped payload is a `GradeResult` ↔ its groups and texts fit     (accepts_gradeResult_iff)
    no `ValidationError` escapes ↔ a payload that gets as far as the models
      fits, and so do the target's texts and the totals                     (validatePayload_caught_iff)
-/

namespace PaperGrading

/-! ## What the outer models leave open -/

/-- `ReviewAttemptView`, as far as the service reads it. -/
def ReviewAttemptView.accepts (env : Runtime) (a : ReviewAttemptView) : Bool :=
  lengthBetween 1 100 a.dimensions.length && a.dimensions.all (·.accepts env) &&
    lengthBetween 0 100 a.deductions.length && a.deductions.all (·.accepts env) &&
    env.isEnglishNarrative a.overallFeedback && lengthBetween 1 20000 a.overallFeedback.length

/-- `ReviewTarget`; its rubric is validated already. -/
def ReviewTarget.accepts {env : Runtime} (t : ReviewTarget env) : Bool :=
  decide (0 < t.rubricVersion) && t.attempt.accepts env

/-- Every group of evidence has as many entries as its model admits, and no suggestion is too long. -/
structure ReviewDraftInput.Fits (p : ReviewDraftInput) : Prop where
  dimensions : ∀ c ∈ p.criteria, 1 ≤ (p.grouped .dimension c.dimensionId).length ∧
    (p.grouped .dimension c.dimensionId).length ≤ 100
  deductions : ∀ d ∈ p.deductions, (p.grouped .deduction d.deductionId).length ≤ 100
  suggestions : ∀ c ∈ p.criteria, ∀ s ∈ c.revisionSuggestions, s.length ≤ 4000

/-- The stripped texts of the assignment have the length that `GradeRequest` asks for. -/
structure ReviewTarget.Requestable {env : Runtime} (t : ReviewTarget env) : Prop where
  title : 1 ≤ (env.strip t.assignmentTitle).length ∧ (env.strip t.assignmentTitle).length ≤ 300
  instructions : 1 ≤ (env.strip t.assignmentInstructions).length ∧
    (env.strip t.assignmentInstructions).length ≤ 100000

section Models

variable {env : Runtime}

/-- A narrative has a letter, and no letter is stripped. -/
theorem notBlank_of_english (hletter : ∀ c, env.isAlpha c = true → env.isSpace c = false) {s : String}
    (h : env.isEnglishNarrative s = true) : env.notBlank s = true := by
  obtain ⟨c, hc, halpha⟩ := List.any_eq_true.1 (Bool.and_eq_true_iff.1 h).2
  unfold Runtime.notBlank Runtime.strip
  rw [Bool.not_eq_true', ← Bool.not_eq_true, String.isEmpty_iff]
  intro hempty
  have hnil := String.ofList_injective (hempty.trans String.ofList_nil.symm)
  rw [List.reverse_eq_nil_iff, List.dropWhile_eq_nil_iff] at hnil
  have hall : ∀ x ∈ s.toList, env.isSpace x = true := by
    intro x hx
    rw [← List.takeWhile_append_dropWhile (p := env.isSpace) (l := s.toList)] at hx
    rcases List.mem_append.1 hx with hx | hx
    · exact List.mem_takeWhile_imp hx
    · exact hnil x (List.mem_reverse.2 hx)
  have hspace := hall c hc
  rw [hletter c halpha] at hspace
  cases hspace

theorem ReviewCriterion.accepts_result (hletter : ∀ c, env.isAlpha c = true → env.isSpace c = false)
    {c : ReviewCriterion} (hc : c.accepts env = true) {evidence : List EvidenceQuote}
    (hevidence : ∀ q ∈ evidence, q.accepts env = true) :
    DimensionResult.accepts env ⟨c.dimensionId, c.score.reparsed, c.reason, evidence,
        c.revisionSuggestions⟩ = true ↔
      (1 ≤ evidence.length ∧ evidence.length ≤ 100) ∧ ∀ s ∈ c.revisionSuggestions, s.length ≤ 4000 := by
  unfold accepts at hc
  simp only [Bool.and_eq_true, List.all_eq_true, Bool.not_eq_true'] at hc
  obtain ⟨⟨⟨⟨⟨hid, hscore⟩, hreason⟩, henglish⟩, hcount⟩, hsuggestions⟩ := hc
  have hfits : c.score.reparsed.fits 10 4 = true := by
    rw [Decimal.fits_iff] at hscore ⊢
    rwa [Decimal.toRat_reparsed]
  unfold DimensionResult.accepts
  rw [hid, hfits, notBlank_of_english hletter henglish, henglish, hreason, hcount,
    List.all_eq_true.2 hevidence]
  simp only [Bool.true_and, Bool.and_true, Bool.and_eq_true, List.all_eq_true, lengthBetween,
    decide_eq_true_iff]
  refine and_congr_right fun _ => forall₂_congr fun s hs => ?_
  obtain ⟨hne, hsuggestion⟩ := hsuggestions s hs
  have hpos : 1 ≤ s.length := by
    rw [Nat.one_le_iff_ne_zero]
    simpa [String.isEmpty_iff] using hne
  simp [hpos, hsuggestion, notBlank_of_english hletter hsuggestion]

theorem ReviewDeduction.accepts_result
    (hletter : ∀ c, env.isAlpha c = true → env.isSpace c = false) {d : ReviewDeduction}
    (hd : d.accepts env = true) {evidence : List EvidenceQuote}
    (hevidence : ∀ q ∈ evidence, q.accepts env = true) :
    DeductionResult.accepts env ⟨d.deductionId, d.applied, d.reason, evidence⟩ = true ↔
      evidence.length ≤ 100 := by
  unfold accepts at hd
  simp only [Bool.and_eq_true] at hd
  obtain ⟨⟨hid, hreason⟩, henglish⟩ := hd
  unfold DeductionResult.accepts
  rw [hid, hreason, henglish, notBlank_of_english hletter henglish, List.all_eq_true.2 hevidence]
  simp [lengthBetween]

variable {p : ReviewDraftInput}

theorem grouped_accepts (hp : p.accepts env = true) (targetType : EvidenceTarget) (targetId : String) :
    ∀ q ∈ p.grouped targetType targetId, q.accepts env = true := by
  intro q hq
  obtain ⟨e, he, rfl⟩ := List.mem_map.1 hq
  unfold ReviewDraftInput.accepts at hp
  simp only [Bool.and_eq_true, List.all_eq_true] at hp
  have haccepts := hp.1.1.1.1.1.2 e (List.mem_of_mem_filter he)
  unfold ReviewEvidence.accepts at haccepts
  simp only [Bool.and_eq_true] at haccepts
  simp [EvidenceQuote.accepts, haccepts]

/-- **The regrouped payload is a `GradeResult` exactly if it fits.** -/
theorem accepts_gradeResult_iff (hletter : ∀ c, env.isAlpha c = true → env.isSpace c = false)
    (hp : p.accepts env = true) : p.gradeResult.accepts env = true ↔ p.Fits := by
  have hgroups := grouped_accepts hp
  unfold ReviewDraftInput.accepts at hp
  simp only [Bool.and_eq_true, List.all_eq_true] at hp
  obtain ⟨⟨⟨⟨⟨⟨⟨⟨⟨⟨hcount, hcriteria⟩, hdcount⟩, hdeductions⟩, -⟩, -⟩, henglish⟩, hfeedback⟩, -⟩, -⟩, -⟩ :=
    hp
  unfold GradeResult.accepts ReviewDraftInput.gradeResult
  simp only [List.length_map, hcount, hdcount, henglish, hfeedback,
    notBlank_of_english hletter henglish, Bool.true_and, Bool.and_true, Bool.and_eq_true,
    List.all_eq_true, List.forall_mem_map]
  have hdimension (c : ReviewCriterion) (hc : c ∈ p.criteria) :=
    ReviewCriterion.accepts_result hletter (hcriteria c hc) (hgroups .dimension c.dimensionId)
  have hdeduction (d : ReviewDeduction) (hd : d ∈ p.deductions) :=
    ReviewDeduction.accepts_result hletter (hdeductions d hd) (hgroups .deduction d.deductionId)
  constructor
  · rintro ⟨hc, hd⟩
    exact ⟨fun c h => ((hdimension c h).1 (hc c h)).1, fun d h => (hdeduction d h).1 (hd d h),
      fun c h => ((hdimension c h).1 (hc c h)).2⟩
  · rintro ⟨hc, hd, hs⟩
    exact ⟨fun c h => (hdimension c h).2 ⟨hc c h, hs c h⟩, fun d h => (hdeduction d h).2 (hd d h)⟩

end Models

section Targets

variable {env : Runtime} {t : ReviewTarget env} {parsed : ParsedDocument}

theorem accepts_gradeRequest_iff (ht : t.accepts = true) :
    (t.gradeRequest parsed).accepts env = true ↔ t.Requestable := by
  unfold ReviewTarget.accepts at ht
  rw [Bool.and_eq_true, decide_eq_true_iff] at ht
  unfold GradeRequest.accepts ReviewTarget.gradeRequest strippedText
  simp only [strip_strip, decide_true, Bool.true_and, ht.1, t.rubric.accepted, Bool.and_true,
    Bool.and_eq_true, lengthBetween, decide_eq_true_iff]
  exact ⟨fun h => ⟨h.1, h.2⟩, fun h => ⟨h.1, h.2⟩⟩

theorem accepts_attempt (hletter : ∀ c, env.isAlpha c = true → env.isSpace c = false)
    (ht : t.accepts = true) : t.attempt.gradeResult.accepts env = true := by
  unfold ReviewTarget.accepts ReviewAttemptView.accepts at ht
  simp only [Bool.and_eq_true] at ht
  obtain ⟨-, ⟨⟨⟨⟨hcount, hdimensions⟩, hdcount⟩, hdeductions⟩, henglish⟩, hfeedback⟩ := ht
  unfold GradeResult.accepts ReviewAttemptView.gradeResult
  rw [hcount, hdimensions, hdcount, hdeductions, henglish, hfeedback,
    notBlank_of_english hletter henglish]
  rfl

end Targets

/-! ## The escaping errors -/

section Escaping

variable {env : Runtime} {t : ReviewTarget env} {parsed : ParsedDocument} {p : ReviewDraftInput}
  {requireEditable : Bool}

theorem review_eq_uncaught {e : GradeError} {m : String} :
    e.review = .uncaught m ↔ e = .uncaught m := by
  cases e <;> simp [GradeError.review]

/-- The first two checks and the third one say that the item is open to the draft. -/
theorem open_iff : ((!requireEditable || t.itemStatus == .needsReview) = true ∧
      (requireEditable || t.itemStatus == .needsReview || t.itemStatus == .completed) = true ∧
      (p.attemptId == t.attempt.id) = true) ↔ t.Open p.attemptId requireEditable := by
  unfold ReviewTarget.Open
  cases requireEditable <;> simp

/-- A `ValidationError` escapes where the payload, the request or the totals do not fit. -/
theorem validatePayload_uncaught (horiginal : t.attempt.gradeResult.accepts env = true) :
    (∃ m, validatePayload env t parsed p requireEditable = .error (.uncaught m)) ↔
      t.Open p.attemptId requireEditable ∧ (∀ e ∈ p.evidence, p.targetUnknown e = false) ∧
        (p.gradeResult.accepts env = true → (t.gradeRequest parsed).accepts env = true →
          ∃ m, validateGradeResponse env p.gradeResult (t.gradeRequest parsed) =
            .error (.uncaught m)) := by
  rw [← open_iff]
  unfold validatePayload
  simp only [bind_eq_error, ensure_eq_error, ensure_eq_ok, mapError_eq_error, review_eq_uncaught,
    horiginal, List.all_eq_true, Bool.not_eq_true', reduceCtorEq, and_false, false_and, false_or,
    ReviewError.uncaught.injEq, exists_eq_right, pure, Except.pure, exists_false, or_false,
    and_assoc, exists_and_left, exists_const]
  refine and_congr_right fun _ => and_congr_right fun _ => and_congr_right fun _ =>
    and_congr_right fun _ => ?_
  cases p.gradeResult.accepts env <;> cases (t.gradeRequest parsed).accepts env <;> simp

end Escaping

/-! ## Sample drafts -/

namespace Sample

theorem letter_not_space (c : Char) (h : sampleRuntime.isAlpha c = true) :
    sampleRuntime.isSpace c = false := by
  have hc : c ≠ ' ' := by
    rintro rfl
    exact absurd h (by decide)
  exact beq_eq_false_iff_ne.2 hc

/-- A draft whose only criterion has no evidence. -/
def bareDraft : ReviewDraftInput :=
  { reviewDraft ⟨false, 9, 0⟩ (some "Better") with evidence := [] }

end Sample

end PaperGrading
