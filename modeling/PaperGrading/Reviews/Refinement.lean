import PaperGrading.Reviews.Database
import PaperGrading.Store.Commits
import Mathlib.Algebra.Order.BigOperators.Group.List

/-!
# What the service accepts and what the database accepts

`_validate_payload` and `validate_teacher_review_payload` check one draft against one
rubric and one attempt.  They agree on ids, scores and totals; the database refuses a
draft of the service exactly for what the service does not look at:

    the service accepts p → (the database accepts p ↔ p.Storable attempt)
    the database accepts p → the service refuses no score, deduction or total of p
                                                          (validatePayload_storable)

`Storable`: every score is plain, no text has a NUL, and the draft has a change reason or
repeats the scores and the evidence of the attempt to the letter.
-/

namespace PaperGrading

/-! ## Drafts the service accepts -/

/-- The draft with the totals of the backend. -/
def ReviewDraftInput.withTotals (p : ReviewDraftInput) (rubric : StructuredRubric) : ReviewDraftData :=
  { p with
    subtotal := (p.gradeResult.withTotals rubric).subtotal
    deductionTotal := (p.gradeResult.withTotals rubric).deductionTotal
    finalScore := (p.gradeResult.withTotals rubric).totalScore }

/-- The item may be reviewed, and the draft is of its current attempt. -/
def ReviewTarget.Open {env : Runtime} (t : ReviewTarget env) (attemptId : Uuid) (requireEditable : Bool) :
    Prop :=
  (t.itemStatus = .needsReview ∨ requireEditable = false ∧ t.itemStatus = .completed) ∧
    attemptId = t.attempt.id

/-- The checks of the service that look at the content of the draft. -/
structure ReviewDraftInput.Passes {env : Runtime} (p : ReviewDraftInput) (t : ReviewTarget env)
    (parsed : ParsedDocument) : Prop where
  known : ∀ e ∈ p.evidence, p.targetUnknown e = false
  request : (t.gradeRequest parsed).accepts env = true
  meets : p.gradeResult.Meets env (t.gradeRequest parsed)
  totals : (p.gradeResult.withTotals t.rubric.rubric).accepts env = true
  original : t.attempt.gradeResult.accepts env = true
  reason : p.lacksReason t.attempt.gradeResult = false

theorem mapError_eq_ok {ε ε' α : Type} {x : Except ε α} {f : ε → ε'} {a : α} :
    x.mapError f = .ok a ↔ x = .ok a := by
  cases x <;> simp [Except.mapError]

variable {env : Runtime} {t : ReviewTarget env} {parsed : ParsedDocument} {p : ReviewDraftInput}

theorem validatePayload_eq_ok {requireEditable : Bool} {data : ReviewDraftData} :
    validatePayload env t parsed p requireEditable = .ok data ↔
      t.Open p.attemptId requireEditable ∧ p.Passes t parsed ∧ data = p.withTotals t.rubric.rubric := by
  unfold validatePayload
  simp only [bind_eq_ok, ensure_eq_ok, exists_and_left, exists_const, mapError_eq_ok,
    validateGradeResponse_eq_ok, List.all_eq_true, Bool.not_eq_true', pure, Except.pure,
    Except.ok.injEq, Bool.or_eq_true, beq_iff_eq]
  constructor
  · rintro ⟨hedit, hstatus, hid, hknown, -, hrequest, _, ⟨hmeets, rfl, htotals⟩, horiginal, hreason,
      rfl⟩
    refine ⟨⟨?_, hid⟩, ⟨hknown, hrequest, hmeets, htotals, horiginal, hreason⟩, rfl⟩
    cases requireEditable <;> simp_all
  · rintro ⟨⟨hstatus, hid⟩, ⟨hknown, hrequest, hmeets, htotals, horiginal, hreason⟩, rfl⟩
    refine ⟨?_, ?_, hid, hknown, hmeets.schema, hrequest, _, ⟨hmeets, rfl, htotals⟩, horiginal,
      hreason, rfl⟩ <;> cases requireEditable <;> simp_all

/-! ## The checks of the database -/

/-- What `validate_teacher_review_payload` asks of a payload. -/
structure ReviewPayload.Valid (q : ReviewPayload) (rubric : StructuredRubric) (row : AttemptResult) :
    Prop where
  feedback : btrimEmpty q.feedback = false
  lengths : q.criteria.length = rubric.dimensions.length ∧ q.deductions.length = rubric.deductions.length
  criteria : ∀ x ∈ q.criteria.zip rubric.dimensions, x.1.violates rubric.scoreStep.toRat x.2 = false
  deductions : ∀ x ∈ q.deductions.zip rubric.deductions, x.1.violates x.2 = false
  evidence : ∀ e ∈ q.evidence, q.evidenceViolates e = false
  totals : q.subtotal = q.calculatedSubtotal ∧ q.deductionTotal = q.calculatedDeductionTotal rubric ∧
    q.finalScore = max 0 (q.calculatedSubtotal - q.calculatedDeductionTotal rubric)
  reason : q.changeReason.isSome = true ∨ q.unchanged row = true

theorem validateTeacherReviewPayload_eq_ok {q : ReviewPayload} {rubric : StructuredRubric}
    {row : AttemptResult} {u : Unit} :
    validateTeacherReviewPayload q rubric row = .ok u ↔ q.Valid rubric row := by
  unfold validateTeacherReviewPayload
  simp only [bind_eq_ok, require_eq_ok, exists_and_left, exists_const, List.all_eq_true,
    Bool.not_eq_true', Bool.and_eq_true, beq_iff_eq, decide_eq_true_iff, Bool.or_eq_true]
  constructor
  · rintro ⟨h₁, h₂, h₃, h₄, h₅, ⟨⟨h₆, h₇⟩, h₈⟩, h₉⟩
    exact ⟨h₁, h₂, h₃, h₄, h₅, ⟨h₆, h₇, h₈⟩, h₉⟩
  · rintro ⟨h₁, h₂, h₃, h₄, h₅, ⟨h₆, h₇, h₈⟩, h₉⟩
    exact ⟨h₁, h₂, h₃, h₄, h₅, ⟨⟨h₆, h₇⟩, h₈⟩, h₉⟩

theorem ReviewCriterion.violates_eq_false {step : ℚ} {c : ReviewCriterion} {d : RubricDimension} :
    c.violates step d = false ↔ c.dimensionId = d.id ∧ c.score.IsPlain ∧ btrimEmpty c.reason = false ∧
      c.revisionSuggestions ≠ [] ∧ scoreInvalid step c.score d = false := by
  unfold violates scoreInvalid
  simp only [Bool.or_eq_false_iff, bne_eq_false_iff_eq, Bool.not_eq_false', isPlainScore_str,
    List.isEmpty_eq_false_iff, decide_eq_false_iff_not, and_assoc]

theorem ReviewDeduction.violates_eq_false {r : ReviewDeduction} {d : RubricDeduction} :
    r.violates d = false ↔ r.deductionId = d.id ∧ btrimEmpty r.reason = false := by
  unfold violates
  rw [Bool.or_eq_false_iff, bne_eq_false_iff_eq]

/-! ## Lists side by side -/

theorem zip_keys {α β γ : Type} {f : α → γ} {g : β → γ} {l : List α} {l' : List β}
    (h : l.map f = l'.map g) : ∀ x ∈ l.zip l', f x.1 = g x.2 := by
  induction l generalizing l' with
  | nil => simp
  | cons a l ih =>
    cases l' with
    | nil => simp at h
    | cons b l' =>
      rw [List.map_cons, List.map_cons, List.cons.injEq] at h
      rw [List.zip_cons_cons, List.forall_mem_cons]
      exact ⟨h.1, ih h.2⟩

theorem map_eq_map_of_zip {α β γ : Type} {f : α → γ} {g : β → γ} {l : List α} {l' : List β}
    (hlen : l.length = l'.length) (h : ∀ x ∈ l.zip l', f x.1 = g x.2) : l.map f = l'.map g := by
  conv_lhs => rw [← List.map_fst_zip hlen.le, List.map_map]
  conv_rhs => rw [← List.map_snd_zip hlen.ge, List.map_map]
  exact List.map_congr_left h

theorem forall_zip_left {α β : Type} {P : α → Prop} {l : List α} {l' : List β}
    (hlen : l.length = l'.length) : (∀ x ∈ l.zip l', P x.1) ↔ ∀ a ∈ l, P a := by
  conv_rhs => rw [← List.map_fst_zip hlen.le]
  rw [List.forall_mem_map]

theorem eq_of_key {α γ : Type} {f : α → γ} {l : List α} (h : (l.map f).Nodup) {a b : α}
    (ha : a ∈ l) (hb : b ∈ l) (hab : f a = f b) : a = b := List.inj_on_of_nodup_map h ha hb hab

theorem sum_filter {α : Type} (q : α → Bool) (f : α → ℚ) (l : List α) :
    ((l.filter q).map f).sum = (l.map fun a => if q a then f a else 0).sum := by
  induction l with
  | nil => rfl
  | cons a l ih =>
    rw [List.filter_cons, List.map_cons, List.sum_cons, ← ih]
    split <;> simp

/-! ## Totals -/

theorem toRat_subtotal {p : ReviewDraftInput} {rubric : StructuredRubric}
    (h : p.gradeResult.SumsExactly rubric) :
    (p.withTotals rubric).subtotal.toRat = (p.criteria.map (·.score.toRat)).sum := by
  refine (toRat_subtotal_calculated h).trans ?_
  rw [ReviewDraftInput.gradeResult, List.map_map]
  congr 1
  exact List.map_congr_left fun c _ => Decimal.toRat_reparsed _

/-- The fixed points of the deductions whose results are applied. -/
theorem toRat_deductionTotal {p : ReviewDraftInput} {rubric : StructuredRubric}
    (h : p.gradeResult.SumsExactly rubric)
    (hids : p.deductions.map (·.deductionId) = rubric.deductions.map (·.id))
    (hnodup : (rubric.deductions.map (·.id)).Nodup) (a b c : ℚ) :
    (p.withTotals rubric).deductionTotal.toRat = (p.payload a b c).calculatedDeductionTotal rubric := by
  have hlen : p.deductions.length = rubric.deductions.length := by
    simpa using congrArg List.length hids
  refine (toRat_deductionTotal_calculated h).trans ?_
  simp only [ReviewDraftInput.gradeResult, ReviewPayload.calculatedDeductionTotal,
    ReviewDraftInput.payload]
  rw [sum_filter]
  conv_lhs => rw [← List.map_snd_zip hlen.ge, List.map_map]
  congr 1
  refine List.map_congr_left fun x hx => ?_
  have happlied : (((p.deductions.map fun d => (⟨d.deductionId, d.applied, d.reason,
      p.grouped .deduction d.deductionId⟩ : DeductionResult)).filter (·.applied)).map
        (·.deductionId)).contains x.2.id = x.1.applied := by
    have hid := zip_keys hids x hx
    rw [hids.symm] at hnodup
    have hmem := (List.of_mem_zip hx).1
    rw [Bool.eq_iff_iff, List.contains_iff_mem, List.mem_map]
    simp only [List.mem_filter, List.mem_map]
    constructor
    · rintro ⟨_, ⟨⟨d, hd, rfl⟩, happ⟩, hdid⟩
      rwa [eq_of_key hnodup hmem hd (hid.trans hdid.symm)]
    · exact fun happ => ⟨_, ⟨⟨x.1, hmem, rfl⟩, happ⟩, hid⟩
  simp only [Function.comp]
  rw [happlied]

theorem toRat_finalScore {p : ReviewDraftInput} {rubric : StructuredRubric}
    (h : p.gradeResult.SumsExactly rubric) :
    (p.withTotals rubric).finalScore.toRat =
      max 0 ((p.withTotals rubric).subtotal.toRat - (p.withTotals rubric).deductionTotal.toRat) :=
  toRat_totalScore_calculated h

/-! ## The database accepts what is storable -/

def ReviewDraftInput.texts (p : ReviewDraftInput) : List String := (p.payload 0 0 0).texts

/-- The draft has the scores of the attempt to the letter and its evidence in order. -/
def ReviewDraftInput.Repeats (p : ReviewDraftInput) (a : ReviewAttemptView) : Prop :=
  p.criteria.map (·.score) = a.dimensions.map (·.score) ∧
    p.evidence = ReviewPayload.aiEvidence a.dimensions a.deductions

/-- What the database asks of an accepted draft beyond the checks of the service. -/
structure ReviewDraftInput.Storable (p : ReviewDraftInput) (a : ReviewAttemptView) : Prop where
  plain : ∀ c ∈ p.criteria, c.score.IsPlain
  texts : ∀ s ∈ p.texts, textOk s = true
  reason : p.changeReason.isSome = true ∨ p.Repeats a

/-- The database takes the payload, totals included. -/
def ReviewPayload.Accepted (q : ReviewPayload) (rubric : StructuredRubric) (row : AttemptResult) : Prop :=
  ∃ stored, acceptReviewPayload q rubric row = .ok stored

theorem accepted_iff {q : ReviewPayload} {rubric : StructuredRubric} {row : AttemptResult} :
    q.Accepted rubric row ↔ (∀ s ∈ q.texts, textOk s = true) ∧ q.Valid rubric row ∧
      ∃ stored, Store.storedPayload q = .ok stored := by
  unfold ReviewPayload.Accepted acceptReviewPayload
  simp only [bind_eq_ok, require_eq_ok, exists_and_left, exists_const,
    validateTeacherReviewPayload_eq_ok, List.all_eq_true]

theorem storedPayload_eq_ok {q : ReviewPayload} (hs : OnScale 4 q.subtotal)
    (hd : OnScale 4 q.deductionTotal) (hf : OnScale 4 q.finalScore) :
    (∃ stored, Store.storedPayload q = .ok stored) ↔
      |q.subtotal| < 10 ^ 6 ∧ |q.deductionTotal| < 10 ^ 6 ∧ |q.finalScore| < 10 ^ 6 := by
  unfold Store.storedPayload
  simp only [bind_eq_ok, numericColumn_eq_ok hs, numericColumn_eq_ok hd, numericColumn_eq_ok hf,
    pure, Except.pure, Except.ok.injEq]
  constructor
  · rintro ⟨_, _, ⟨hs', -⟩, _, ⟨hd', -⟩, _, ⟨hf', -⟩, -⟩
    exact ⟨hs', hd', hf'⟩
  · rintro ⟨hs', hd', hf'⟩
    exact ⟨_, _, ⟨hs', rfl⟩, _, ⟨hd', rfl⟩, _, ⟨hf', rfl⟩, rfl⟩

/-- An accepted entry of evidence passes the checks of its target's group. -/
theorem evidence_accepts (h : p.Passes t parsed) {e : ReviewEvidence} (he : e ∈ p.evidence) :
    EvidenceQuote.accepts env ⟨e.blockId, e.quote⟩ = true := by
  have hknown := h.known e he
  have hgroup : ∀ targetType targetId, e.targetType = targetType → e.targetId = targetId →
      (⟨e.blockId, e.quote⟩ : EvidenceQuote) ∈ p.grouped targetType targetId := by
    rintro _ _ rfl rfl
    exact List.mem_map.2 ⟨e, List.mem_filter.2 ⟨he, by simp⟩, rfl⟩
  have hschema := h.meets.schema
  simp only [GradeResult.accepts, Bool.and_eq_true, List.all_eq_true] at hschema
  obtain ⟨⟨⟨⟨⟨⟨-, hdimensions⟩, -⟩, hdeductions⟩, -⟩, -⟩, -⟩ := hschema
  unfold ReviewDraftInput.targetUnknown at hknown
  cases htype : e.targetType with
  | dimension =>
    rw [htype] at hknown
    simp only [Bool.not_eq_false', List.contains_iff_mem, List.mem_map] at hknown
    obtain ⟨c, hc, hid⟩ := hknown
    have hd := hdimensions _ (List.mem_map.2 ⟨c, hc, rfl⟩)
    simp only [DimensionResult.accepts, Bool.and_eq_true, List.all_eq_true] at hd
    exact hd.1.1.2 _ (hgroup _ _ htype hid.symm)
  | deduction =>
    rw [htype] at hknown
    simp only [Bool.not_eq_false', List.contains_iff_mem, List.mem_map] at hknown
    obtain ⟨d, hd, hid⟩ := hknown
    have hd := hdeductions _ (List.mem_map.2 ⟨d, hd, rfl⟩)
    simp only [DeductionResult.accepts, Bool.and_eq_true, List.all_eq_true] at hd
    exact hd.2 _ (hgroup _ _ htype hid.symm)

theorem not_evidenceViolates (hspace : env.isSpace ' ' = true) (h : p.Passes t parsed) (a b c : ℚ)
    {e : ReviewEvidence} (he : e ∈ p.evidence) : (p.payload a b c).evidenceViolates e = false := by
  have haccepts := evidence_accepts h he
  have hknown := h.known e he
  simp only [EvidenceQuote.accepts, Bool.and_eq_true] at haccepts
  unfold ReviewPayload.evidenceViolates
  rw [haccepts.1.1, not_btrimEmpty hspace haccepts.2, Bool.not_true, Bool.or_false, Bool.false_or]
  unfold ReviewDraftInput.targetUnknown at hknown
  revert hknown
  cases e.targetType <;>
  · simp only [Bool.not_eq_false', List.contains_iff_mem, List.mem_map, List.any_eq_true, beq_iff_eq]
    exact id

/-! ## Unchanged drafts -/

theorem map_pair {α α' β γ : Type} {f : α → β} {f' : α' → β} {g : α → γ} {g' : α' → γ} {l : List α}
    {l' : List α'} (h : l.map f = l'.map f') (h' : l.map g = l'.map g') :
    l.map (fun a => (f a, g a)) = l'.map fun a => (f' a, g' a) := by
  rw [← List.zip_map', ← List.zip_map', h, h']

/-- Where the content is the attempt's, the texts differ in the spelling of scores and the
order of evidence at most. -/
theorem unchanged_iff {a : ReviewAttemptView} {row : AttemptResult} (hrow : a.Shows row)
    (hcontent : p.gradeResult.content = a.gradeResult.content) (x y z : ℚ) :
    (p.payload x y z).unchanged row = true ↔ p.Repeats a := by
  obtain ⟨hdimensions, hdeductions, hfeedback⟩ := hrow
  simp only [GradeResult.content, Prod.mk.injEq] at hcontent
  obtain ⟨hcriteria, hded, hfb⟩ := hcontent
  have hdedRows : p.deductions = a.deductions.map ReviewDeduction.ofResult := by
    rw [show a.deductions = a.gradeResult.deductions from rfl, ← hded]
    simp [ReviewDraftInput.gradeResult, ReviewDeduction.ofResult, Function.comp_def]
  have hcriteriaRows : p.criteria = a.dimensions.map ReviewCriterion.ofResult ↔
      p.criteria.map (·.score) = a.dimensions.map (·.score) := by
    constructor
    · intro h
      rw [h, List.map_map]
      rfl
    · intro hscore
      rw [ReviewDraftInput.gradeResult, List.map_map] at hcriteria
      have hpair := map_pair hcriteria hscore
      have hmap : p.criteria.map id = a.dimensions.map ReviewCriterion.ofResult := by
        refine map_inj_of (fun c d hcd => ?_) hpair
        simp only [Function.comp, DimensionResult.content, Prod.mk.injEq] at hcd
        obtain ⟨i, s, r, v⟩ := c
        simp only [ReviewCriterion.ofResult, id, ReviewCriterion.mk.injEq]
        exact ⟨hcd.1.1, hcd.2, hcd.1.2.2.1, hcd.1.2.2.2.2⟩
      rwa [List.map_id] at hmap
  unfold ReviewPayload.unchanged
  rw [hdimensions, hdeductions, hfeedback]
  simp only [ReviewDraftInput.payload, Option.getD_some, Bool.and_eq_true, beq_iff_eq, Option.some.injEq]
  have hfb' : p.overallFeedback = a.overallFeedback := hfb
  constructor
  · rintro ⟨⟨⟨hc, -⟩, he⟩, -⟩
    exact ⟨hcriteriaRows.1 hc, he⟩
  · rintro ⟨hs, he⟩
    exact ⟨⟨⟨hcriteriaRows.2 hs, hdedRows⟩, he⟩, hfb'⟩

/-- **The database takes an accepted draft exactly when it is storable.** -/
theorem accepted_iff_storable (hspace : env.isSpace ' ' = true) {row : AttemptResult}
    (hrow : t.attempt.Shows row) (h : p.Passes t parsed) :
    (p.withTotals t.rubric.rubric).payload.Accepted t.rubric.rubric row ↔ p.Storable t.attempt := by
  set rubric := t.rubric.rubric with hrubric
  set q := (p.withTotals rubric).payload with hq
  have hm := h.meets
  have hids : p.criteria.map (·.dimensionId) = rubric.dimensions.map (·.id) := by
    have := hm.dimensionIds
    rwa [ReviewDraftInput.gradeResult, List.map_map] at this
  have hdids : p.deductions.map (·.deductionId) = rubric.deductions.map (·.id) := by
    have := hm.deductionIds
    rwa [ReviewDraftInput.gradeResult, List.map_map] at this
  have hlen : p.criteria.length = rubric.dimensions.length := by
    simpa using congrArg List.length hids
  have hdlen : p.deductions.length = rubric.deductions.length := by
    simpa using congrArg List.length hdids
  have hschema := hm.schema
  simp only [GradeResult.accepts, Bool.and_eq_true, List.all_eq_true] at hschema
  obtain ⟨⟨⟨⟨⟨⟨-, hdimensions⟩, -⟩, hdeductions⟩, hfeedback⟩, -⟩, -⟩ := hschema
  have htotals := h.totals
  simp only [ValidatedGradeResult.accepts, Bool.and_eq_true, isTotal_iff] at htotals
  obtain ⟨⟨⟨-, hsub⟩, hdt⟩, hfin⟩ := htotals
  have hstored : ∃ stored, Store.storedPayload q = .ok stored :=
    (storedPayload_eq_ok hsub.2.1 hdt.2.1 hfin.2.1).2 ⟨hsub.2.2, hdt.2.2, hfin.2.2⟩
  have hreason : (q.changeReason.isSome = true ∨ q.unchanged row = true) ↔
      (p.changeReason.isSome = true ∨ p.Repeats t.attempt) := by
    by_cases hsome : p.changeReason.isSome = true
    · exact iff_of_true (.inl hsome) (.inl hsome)
    · have hnone : p.changeReason.isNone = true := by
        cases hcr : p.changeReason <;> simp_all
      have hsame := h.reason
      unfold ReviewDraftInput.lacksReason at hsame
      rw [hnone, Bool.and_true, bne_eq_false_iff_eq, GradeResult.canonicalJson_eq_iff] at hsame
      exact or_congr Iff.rfl (unchanged_iff hrow hsame _ _ _)
  have hcriteria : (∀ x ∈ q.criteria.zip rubric.dimensions,
      x.1.violates rubric.scoreStep.toRat x.2 = false) ↔ ∀ c ∈ p.criteria, c.score.IsPlain := by
    rw [← forall_zip_left hlen]
    refine forall₂_congr fun x hx => ?_
    have hmem := hdimensions _ (List.mem_map.2 ⟨x.1, (List.of_mem_zip hx).1, rfl⟩)
    simp only [DimensionResult.accepts, Bool.and_eq_true] at hmem
    obtain ⟨⟨⟨⟨⟨⟨⟨⟨-, -⟩, hblank⟩, -⟩, -⟩, -⟩, -⟩, hsuggestions⟩, -⟩ := hmem
    have hscore : scoreInvalid rubric.scoreStep.toRat x.1.score x.2 = false := by
      have := hm.scores (⟨x.1.dimensionId, x.1.score.reparsed, x.1.reason,
        p.grouped .dimension x.1.dimensionId, x.1.revisionSuggestions⟩, x.2) (by
          rw [ReviewDraftInput.gradeResult, List.zip_map_left]
          exact List.mem_map.2 ⟨x, hx, rfl⟩)
      simp only [scoreInvalid, Decimal.toRat_reparsed] at this ⊢
      exact this
    have hne : x.1.revisionSuggestions ≠ [] := by
      intro hnil
      rw [hnil] at hsuggestions
      exact absurd hsuggestions (by decide)
    rw [ReviewCriterion.violates_eq_false]
    exact ⟨fun hv => hv.2.1, fun hp =>
      ⟨zip_keys hids x hx, hp, not_btrimEmpty hspace hblank, hne, hscore⟩⟩
  rw [accepted_iff]
  constructor
  · rintro ⟨htexts, hvalid, -⟩
    exact ⟨hcriteria.1 hvalid.criteria, htexts, hreason.1 hvalid.reason⟩
  · rintro ⟨hplain, htexts, hr⟩
    refine ⟨htexts, ⟨not_btrimEmpty hspace hfeedback, ⟨hlen, hdlen⟩, hcriteria.2 hplain, ?_,
      fun e he => not_evidenceViolates hspace h _ _ _ he, ?_, hreason.2 hr⟩, hstored⟩
    · intro x hx
      have hmem := hdeductions _ (List.mem_map.2 ⟨x.1, (List.of_mem_zip hx).1, rfl⟩)
      simp only [DeductionResult.accepts, Bool.and_eq_true] at hmem
      exact ReviewDeduction.violates_eq_false.2
        ⟨zip_keys hdids x hx, not_btrimEmpty hspace hmem.1.1.1.1.2⟩
    · have hexact := GradeResult.sumsExactly_of_accepts t.rubric.accepted hm.schema
      have hs := toRat_subtotal hexact
      have hd := toRat_deductionTotal hexact hdids hm.deductionsNodup q.subtotal q.deductionTotal
        q.finalScore
      exact ⟨hs, hd, (toRat_finalScore hexact).trans (by rw [hs, hd]; rfl)⟩

/-! ## What the database accepts -/

/-- The error refuses a score, a deduction or a total. -/
def ReviewError.aboutScores : ReviewError → Bool
  | .validation code _ =>
    ["review_dimension_duplicate", "review_dimension_mismatch", "review_dimension_score_invalid",
      "review_deduction_duplicate", "review_deduction_mismatch"].contains code
  | .uncaught model => model == "ValidatedGradeResult"
  | .state _ | .conflict _ => false

theorem aboutScores_refusingModel (p : ReviewDraftInput) :
    (ReviewError.uncaught (p.refusingModel env)).aboutScores = false := by
  unfold ReviewDraftInput.refusingModel
  split
  · rfl
  · split <;> rfl

theorem mapError_eq_error {ε ε' α : Type} {x : Except ε α} {f : ε → ε'} {e : ε'} :
    x.mapError f = .error e ↔ ∃ e₀, x = .error e₀ ∧ f e₀ = e := by
  cases x <;> simp [Except.mapError]

theorem points_of_accepts {rubric : StructuredRubric} (h : rubric.accepts env = true)
    {d : RubricDeduction} (hd : d ∈ rubric.deductions) :
    0 ≤ d.points.toRat ∧ OnScale 4 d.points.toRat := by
  simp only [StructuredRubric.accepts, Bool.and_eq_true, List.all_eq_true] at h
  have haccepts := h.1.1.1.1.1.1.1.1.1.2 d hd
  simp only [RubricDeduction.accepts, Bool.and_eq_true, decide_eq_true_iff] at haccepts
  exact ⟨haccepts.1.2.le, (Decimal.fits_iff.1 haccepts.2).1⟩

section Converse

variable {a b c : ℚ} {row : AttemptResult}

theorem criterion_facts (h : (p.payload a b c).Valid t.rubric.rubric row) {x : ReviewCriterion × RubricDimension}
    (hx : x ∈ p.criteria.zip t.rubric.rubric.dimensions) :
    x.1.dimensionId = x.2.id ∧ x.1.score.IsPlain ∧
      scoreInvalid t.rubric.rubric.scoreStep.toRat x.1.score x.2 = false := by
  obtain ⟨hid, hplain, -, -, hscore⟩ := ReviewCriterion.violates_eq_false.1 (h.criteria x hx)
  exact ⟨hid, hplain, hscore⟩

theorem dimensionIds_of_valid (h : (p.payload a b c).Valid t.rubric.rubric row) :
    p.criteria.map (·.dimensionId) = t.rubric.rubric.dimensions.map (·.id) :=
  map_eq_map_of_zip h.lengths.1 fun _ hx => (criterion_facts h hx).1

theorem deductionIds_of_valid (h : (p.payload a b c).Valid t.rubric.rubric row) :
    p.deductions.map (·.deductionId) = t.rubric.rubric.deductions.map (·.id) :=
  map_eq_map_of_zip h.lengths.2 fun _ hx =>
    (ReviewDeduction.violates_eq_false.1 (h.deductions _ hx)).1

theorem plain_of_valid (h : (p.payload a b c).Valid t.rubric.rubric row) :
    ∀ x ∈ p.criteria, x.score.IsPlain :=
  (forall_zip_left h.lengths.1).1 fun _ hx => (criterion_facts h hx).2.1

theorem score_nonneg (h : (p.payload a b c).Valid t.rubric.rubric row) {x : ReviewCriterion}
    (hx : x ∈ p.criteria) : 0 ≤ x.score.toRat := by
  refine (forall_zip_left (P := fun x => 0 ≤ x.score.toRat) h.lengths.1).1 (fun y hy => ?_) x hx
  have := (criterion_facts h hy).2.2
  simp only [scoreInvalid, Bool.or_eq_false_iff, decide_eq_false_iff_not, not_lt] at this
  exact this.1.1

theorem score_fits (h : (p.payload a b c).Valid t.rubric.rubric row) {x : ReviewCriterion}
    (hx : x ∈ p.criteria) : x.score.fits 10 4 = true := by
  refine (forall_zip_left (P := fun x => x.score.fits 10 4 = true) h.lengths.1).1 (fun y hy => ?_) x hx
  obtain ⟨-, hplain, hscore⟩ := criterion_facts h hy
  simp only [scoreInvalid, Bool.or_eq_false_iff, decide_eq_false_iff_not, not_lt] at hscore
  have hrubric := t.rubric.accepted
  simp only [StructuredRubric.accepts, Bool.and_eq_true, List.all_eq_true] at hrubric
  have hdim := hrubric.1.1.1.1.1.1.1.1.1.1.1.2 y.2 (List.of_mem_zip hy).2
  simp only [RubricDimension.accepts, Bool.and_eq_true] at hdim
  have hmax := (Decimal.fits_iff.1 hdim.1.1.1.1.2).2
  refine Decimal.fits_iff.2 ⟨Decimal.onScale_of_exponent hplain.2.1, ?_⟩
  rw [abs_of_nonneg hscore.1.1]
  exact (hscore.1.2.trans (le_abs_self _)).trans_lt hmax

theorem sumsExactly_of_valid (h : (p.payload a b c).Valid t.rubric.rubric row) :
    p.gradeResult.SumsExactly t.rubric.rubric := by
  have hlength : p.criteria.length = t.rubric.rubric.dimensions.length := h.lengths.1
  refine GradeResult.sumsExactly_of_scores t.rubric.accepted (List.forall_mem_map.2 fun x hx => ?_) ?_
  · rw [Decimal.fits_iff, Decimal.toRat_reparsed, ← Decimal.fits_iff]
    exact score_fits h hx
  · rw [ReviewDraftInput.gradeResult, List.length_map, hlength]
    exact (StructuredRubric.lengths_of_accepts t.rubric.accepted).1

/-- Accepted totals are those of the backend. -/
theorem totals_of_valid (h : (p.payload a b c).Valid t.rubric.rubric row) :
    (p.withTotals t.rubric.rubric).subtotal.toRat = a ∧
      (p.withTotals t.rubric.rubric).deductionTotal.toRat = b ∧
      (p.withTotals t.rubric.rubric).finalScore.toRat = c := by
  obtain ⟨ha, hb, hc⟩ := h.totals
  have hexact := sumsExactly_of_valid h
  have hs : (p.withTotals t.rubric.rubric).subtotal.toRat = a :=
    (toRat_subtotal hexact).trans ha.symm
  have hd : (p.withTotals t.rubric.rubric).deductionTotal.toRat = b :=
    (toRat_deductionTotal hexact (deductionIds_of_valid h) t.rubric.nodup.2 a b c).trans hb.symm
  refine ⟨hs, hd, ?_⟩
  rw [toRat_finalScore hexact, hs, hd]
  exact (hc.trans (by rw [← ha, ← hb]; rfl)).symm

/-- Totals that fit their columns pass the result model. -/
theorem totals_accept (h : (p.payload a b c).Accepted t.rubric.rubric row)
    (hschema : p.gradeResult.accepts env = true) :
    (p.gradeResult.withTotals t.rubric.rubric).accepts env = true := by
  obtain ⟨-, hvalid, hstored⟩ := accepted_iff.1 h
  obtain ⟨hs, hd, hf⟩ := totals_of_valid hvalid
  have hsub : 0 ≤ a ∧ OnScale 4 a := by
    rw [← hs, toRat_subtotal (sumsExactly_of_valid hvalid)]
    refine ⟨List.sum_nonneg fun x hx => ?_, onScale_sum fun x hx => ?_⟩ <;>
    · obtain ⟨y, hy, rfl⟩ := List.mem_map.1 hx
      first
      | exact score_nonneg hvalid hy
      | exact Decimal.onScale_of_exponent (plain_of_valid hvalid y hy).2.1
  have hded : 0 ≤ b ∧ OnScale 4 b := by
    have hpoints : ∀ x ∈ (p.deductions.zip t.rubric.rubric.deductions).map
        (fun x => if x.1.applied then x.2.points.toRat else 0), 0 ≤ x ∧ OnScale 4 x := by
      intro x hx
      obtain ⟨y, hy, rfl⟩ := List.mem_map.1 hx
      split
      · exact points_of_accepts t.rubric.accepted (List.of_mem_zip hy).2
      · exact ⟨le_rfl, onScale_zero 4⟩
    rw [show b = _ from hvalid.totals.2.1]
    exact ⟨List.sum_nonneg fun x hx => (hpoints x hx).1, onScale_sum fun x hx => (hpoints x hx).2⟩
  have hfin : 0 ≤ c ∧ OnScale 4 c := by
    rw [← hf, toRat_finalScore (sumsExactly_of_valid hvalid), hs, hd]
    refine ⟨le_max_left _ _, ?_⟩
    rcases max_choice 0 (a - b) with h | h <;> rw [h]
    · exact onScale_zero 4
    · rw [sub_eq_add_neg]
      exact hsub.2.add hded.2.neg
  obtain ⟨hsLt, hdLt, hfLt⟩ := (storedPayload_eq_ok hsub.2 hded.2 hfin.2).1 hstored
  simp only [ValidatedGradeResult.accepts, Bool.and_eq_true, isTotal_iff]
  refine ⟨⟨⟨hschema, ?_⟩, ?_⟩, ?_⟩
  · exact hs ▸ ⟨hsub.1, hsub.2, hsLt⟩
  · exact hd ▸ ⟨hded.1, hded.2, hdLt⟩
  · exact hf ▸ ⟨hfin.1, hfin.2, hfLt⟩

/-- The errors of the validator that do not concern scores. -/
theorem validateGradeResponse_error {result : GradeResult} {request : GradeRequest} {e : GradeError}
    (hids : requireExactIds (result.dimensions.map (·.dimensionId))
      (request.rubric.dimensions.map (·.id)) "dimension" = .ok ())
    (hscores : ∀ x ∈ result.dimensions.zip request.rubric.dimensions,
      scoreInvalid request.rubric.scoreStep.toRat x.1.score x.2 = false)
    (hdids : requireExactIds (result.deductions.map (·.deductionId))
      (request.rubric.deductions.map (·.id)) "deduction" = .ok ())
    (htotals : result.accepts env = true → (result.withTotals request.rubric).accepts env = true)
    (h : validateGradeResponse env result request = .error e) :
    ∃ error : GradeValidationError, e = .validation error ∧
      error.code ∈ "grade_output_schema_invalid" :: evidenceCodes := by
  have hall : ((result.dimensions.zip request.rubric.dimensions).all fun x =>
      !scoreInvalid request.rubric.scoreStep.toRat x.1.score x.2) = true :=
    List.all_eq_true.2 fun x hx => by rw [hscores x hx, Bool.not_false]
  unfold validateGradeResponse at h
  rw [hids, hdids, hall, bind_eq_error, ensure_eq_error] at h
  rcases h with ⟨-, rfl⟩ | ⟨_, hschema, h⟩
  · exact ⟨_, rfl, List.mem_cons_self⟩
  rw [ensure_eq_ok] at hschema
  simp only [ensure, if_true, htotals hschema, bind_eq_error, pure, Except.pure, reduceCtorEq,
    false_or, and_false, exists_false, or_false, exists_const, true_and] at h
  obtain ⟨error, rfl, hcode⟩ := validateEvidence_error h
  exact ⟨error, rfl, List.mem_cons_of_mem _ hcode⟩

/-- The service refuses an accepted payload for its texts or its evidence only. -/
theorem not_aboutScores (h : (p.payload a b c).Accepted t.rubric.rubric row) {requireEditable : Bool}
    {e : ReviewError} (he : validatePayload env t parsed p requireEditable = .error e) :
    e.aboutScores = false := by
  have hvalid := (accepted_iff.1 h).2.1
  have hids : requireExactIds (p.gradeResult.dimensions.map (·.dimensionId))
      ((t.gradeRequest parsed).rubric.dimensions.map (·.id)) "dimension" = .ok () := by
    rw [requireExactIds_eq_ok, ReviewDraftInput.gradeResult, List.map_map]
    exact ⟨dimensionIds_of_valid hvalid, t.rubric.nodup.1⟩
  have hdids : requireExactIds (p.gradeResult.deductions.map (·.deductionId))
      ((t.gradeRequest parsed).rubric.deductions.map (·.id)) "deduction" = .ok () := by
    rw [requireExactIds_eq_ok, ReviewDraftInput.gradeResult, List.map_map]
    exact ⟨deductionIds_of_valid hvalid, t.rubric.nodup.2⟩
  have hscores : ∀ x ∈ p.gradeResult.dimensions.zip (t.gradeRequest parsed).rubric.dimensions,
      scoreInvalid (t.gradeRequest parsed).rubric.scoreStep.toRat x.1.score x.2 = false := by
    rw [ReviewDraftInput.gradeResult, List.zip_map_left]
    intro x hx
    obtain ⟨y, hy, rfl⟩ := List.mem_map.1 hx
    have := (criterion_facts hvalid hy).2.2
    simp only [scoreInvalid, Prod.map, Decimal.toRat_reparsed, id] at this ⊢
    exact this
  have hvalidator : ∀ e₀, validateGradeResponse env p.gradeResult (t.gradeRequest parsed) = .error e₀ →
      e₀.review.aboutScores = false := by
    intro e₀ he₀
    obtain ⟨error, rfl, hcode⟩ := validateGradeResponse_error hids hscores hdids (totals_accept h) he₀
    have hall : ∀ code ∈ "grade_output_schema_invalid" :: evidenceCodes,
        (ReviewError.validation (reviewCode code) error.message).aboutScores = false := by
      simp only [evidenceCodes, List.forall_mem_cons, ReviewError.aboutScores]
      decide +kernel
    exact hall _ hcode
  unfold validatePayload at he
  simp only [bind_eq_error, ensure_eq_error, mapError_eq_error, pure, Except.pure, reduceCtorEq,
    and_false, exists_false, or_false] at he
  rcases he with ⟨-, rfl⟩ | ⟨_, -, ⟨-, rfl⟩ | ⟨_, -, ⟨-, rfl⟩ | ⟨_, -, ⟨-, rfl⟩ | ⟨_, -, ⟨-, rfl⟩ |
    ⟨_, -, ⟨-, rfl⟩ | ⟨_, -, ⟨e₀, he₀, rfl⟩ | ⟨_, -, ⟨-, rfl⟩ | ⟨_, -, -, rfl⟩⟩⟩⟩⟩⟩⟩⟩
  · rfl
  · rfl
  · rfl
  · rfl
  · exact aboutScores_refusingModel p
  · rfl
  · exact hvalidator e₀ he₀
  · rfl
  · rfl

/-- **The database takes an accepted draft exactly when it is storable, and takes no score,
deduction or total that the service refuses.** -/
theorem validatePayload_storable (hspace : env.isSpace ' ' = true) (t : ReviewTarget env)
    (parsed : ParsedDocument) (p : ReviewDraftInput) (requireEditable : Bool) (row : AttemptResult)
    (hrow : t.attempt.Shows row) :
    (∀ data, validatePayload env t parsed p requireEditable = .ok data →
      (data.payload.Accepted t.rubric.rubric row ↔ p.Storable t.attempt)) ∧
    ∀ a b c, (p.payload a b c).Accepted t.rubric.rubric row →
      (∀ x ∈ p.criteria, x.score.fits 10 4 = true) ∧
      (∀ e, validatePayload env t parsed p requireEditable = .error e → e.aboutScores = false) ∧
      ∀ data, validatePayload env t parsed p requireEditable = .ok data →
        data.subtotal.toRat = a ∧ data.deductionTotal.toRat = b ∧ data.finalScore.toRat = c := by
  constructor
  · intro data h
    obtain ⟨-, hpasses, rfl⟩ := validatePayload_eq_ok.1 h
    exact accepted_iff_storable hspace hrow hpasses
  · intro a b c h
    have hvalid := (accepted_iff.1 h).2.1
    refine ⟨fun x hx => score_fits hvalid hx, fun e he => not_aboutScores h he, fun data hdata => ?_⟩
    obtain ⟨-, -, rfl⟩ := validatePayload_eq_ok.1 hdata
    exact totals_of_valid hvalid

end Converse

/-! ## A sample review -/

namespace Sample

def essay : ParsedDocument :=
  ⟨.docx, none, 8, [⟨"b000001", "An essay", .docxParagraph 1⟩]⟩

def suggestion : ReviewAttemptView where
  id := 8
  dimensions := [⟨"content", ⟨false, 8, 0⟩, "Good", [⟨"b000001", "essay"⟩], ["Revise"]⟩]
  deductions := []
  overallFeedback := "Fine"

def suggestionRow : AttemptResult :=
  ⟨some 8, some 0, some 8, some suggestion.dimensions, some [], some "Fine"⟩

def reviewTarget : ReviewTarget sampleRuntime :=
  ⟨.needsReview, assignment, "t", "i", rubricVersion, 1, validRubric, submission, suggestion⟩

/-- The suggestion with another score. -/
def reviewDraft (score : Decimal) (changeReason : Option String) : ReviewDraftInput where
  attemptId := 8
  criteria := [⟨"content", score, "Good", ["Revise"]⟩]
  deductions := []
  evidence := [⟨.dimension, "content", "b000001", "essay"⟩]
  overallFeedback := "Fine"
  changeReason

/-- Nine points instead of eight, with a reason. -/
theorem nine_accepted :
    ((reviewDraft ⟨false, 9, 0⟩ (some "Better")).withTotals rubric).payload.Accepted rubric
      suggestionRow :=
  ((validatePayload_storable rfl reviewTarget essay (reviewDraft ⟨false, 9, 0⟩ (some "Better")) true
    suggestionRow ⟨rfl, rfl, rfl⟩).1 _ (by decide +kernel)).2
    ⟨by decide, by decide +kernel, .inl rfl⟩

/-- The service accepts the draft and the database refuses what it makes of it. -/
def RefusedOnSave (p : ReviewDraftInput) : Prop :=
  p.parse sampleRuntime = some p ∧
    validatePayload sampleRuntime reviewTarget essay p true = .ok (p.withTotals rubric) ∧
    ¬(p.withTotals rubric).payload.Accepted rubric suggestionRow

/-- `"9.00000"` with a reason, and `"8.0"` for `"8"` without one, pass the service and are refused
by the database. -/
theorem respelled_refused : RefusedOnSave (reviewDraft ⟨false, 900000, -5⟩ (some "Better")) ∧
    RefusedOnSave (reviewDraft ⟨false, 80, -1⟩ none) := by
  have hrefused : ∀ q e, acceptReviewPayload q rubric suggestionRow = .error e →
      ¬q.Accepted rubric suggestionRow := by
    rintro q e he ⟨stored, h⟩
    rw [he] at h
    cases h
  exact ⟨⟨by decide +kernel, by decide +kernel,
      hrefused _ (checkViolation "review criterion violates rubric") (by decide +kernel)⟩,
    by decide +kernel, by decide +kernel,
    hrefused _ (checkViolation "review change reason is required") (by decide +kernel)⟩

end Sample

end PaperGrading
