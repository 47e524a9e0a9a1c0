import PaperGrading.Reviews.Refinement

/-!
# Saving an unmodified suggestion

The review page opens with the scores, texts and evidence of the attempt.  Submitting that
form as it stands goes through `ReviewDraftInput`, `_validate_payload` and the database.
For every result the grading validator accepted:

    the untouched form is saved without a change reason ↔ the result is Resubmittable
                                                                     (initialForm_accepted_iff)

The models of a review strip the texts that the models of a grading keep, so a result with
blanks around a text counts as changed.
-/

namespace PaperGrading

/-! ## The form -/

/-- What the page has loaded. -/
structure ReviewDetail where
  attempt : ReviewAttemptView
  draft : Option ReviewDraftData

/-- `attemptEvidence`. -/
def attemptEvidence (attempt : ReviewAttemptView) : List ReviewEvidence :=
  attempt.dimensions.flatMap (fun d => d.evidence.map fun q =>
      ⟨.dimension, d.dimensionId, q.blockId, q.quote⟩) ++
    attempt.deductions.flatMap fun d => d.evidence.map fun q =>
      ⟨.deduction, d.deductionId, q.blockId, q.quote⟩

/-- `initialForm`. -/
def initialForm (detail : ReviewDetail) : ReviewDraftInput :=
  match detail.draft with
  | some draft => draft.toReviewDraftInput
  | none =>
    { attemptId := detail.attempt.id
      criteria := detail.attempt.dimensions.map fun d =>
        ⟨d.dimensionId, d.score, d.reason, d.revisionSuggestions⟩
      deductions := detail.attempt.deductions.map fun d => ⟨d.deductionId, d.applied, d.reason⟩
      evidence := attemptEvidence detail.attempt
      overallFeedback := detail.attempt.overallFeedback
      changeReason := none }

/-- The view of an attempt with a validated result. -/
def ValidatedGradeResult.view (v : ValidatedGradeResult) (id : Uuid) : ReviewAttemptView :=
  ⟨id, v.dimensions, v.deductions, v.overallFeedback⟩

/-! ## Evidence finds its group again -/

theorem filter_flatMap_key {α β : Type} (key : α → String) (items : α → List β) (q : α → β → Bool)
    {l : List α} (hnodup : (l.map key).Nodup) {a : α} (ha : a ∈ l)
    (hq : ∀ a' ∈ l, ∀ b ∈ items a', q a b = decide (key a' = key a)) :
    (l.flatMap items).filter (q a) = items a := by
  induction l with
  | nil => cases ha
  | cons a' l ih =>
    rw [List.map_cons, List.nodup_cons] at hnodup
    rw [List.forall_mem_cons] at hq
    rw [List.flatMap_cons, List.filter_append]
    by_cases hkey : key a' = key a
    · have haa : a = a' := by
        rcases List.mem_cons.1 ha with h | h
        · exact h
        · exact absurd (hkey ▸ List.mem_map_of_mem h) hnodup.1
      subst haa
      have hself : (items a).filter (q a) = items a :=
        List.filter_eq_self.2 fun b hb => by rw [hq.1 b hb]; simp
      have hrest : (l.flatMap items).filter (q a) = [] := by
        rw [List.filter_eq_nil_iff]
        intro b hb
        obtain ⟨c, hc, hb⟩ := List.mem_flatMap.1 hb
        rw [hq.2 c hc b hb, decide_eq_true_iff]
        exact fun h => hnodup.1 (h ▸ List.mem_map_of_mem hc)
      rw [hself, hrest, List.append_nil]
    · have hmem : a ∈ l := by
        rcases List.mem_cons.1 ha with h | h
        · exact absurd (h ▸ rfl) hkey
        · exact h
      have hnone : (items a').filter (q a) = [] := by
        rw [List.filter_eq_nil_iff]
        intro b hb
        rw [hq.1 b hb, decide_eq_true_iff]
        exact hkey
      rw [hnone, List.nil_append, ih hnodup.2 hmem hq.2]

theorem grouped_dimension {a : ReviewAttemptView} (hnodup : (a.dimensions.map (·.dimensionId)).Nodup)
    {p : ReviewDraftInput} (hp : p.evidence = attemptEvidence a) {d : DimensionResult}
    (hd : d ∈ a.dimensions) : p.grouped .dimension d.dimensionId = d.evidence := by
  have hded : ((a.deductions.flatMap fun d => d.evidence.map fun q =>
      (⟨.deduction, d.deductionId, q.blockId, q.quote⟩ : ReviewEvidence)).filter fun e =>
        e.targetType == .dimension && e.targetId == d.dimensionId) = [] := by
    rw [List.filter_eq_nil_iff]
    intro e he
    obtain ⟨_, -, he⟩ := List.mem_flatMap.1 he
    obtain ⟨_, -, rfl⟩ := List.mem_map.1 he
    simp
  have hdim := filter_flatMap_key DimensionResult.dimensionId
    (fun d => d.evidence.map fun q =>
      (⟨.dimension, d.dimensionId, q.blockId, q.quote⟩ : ReviewEvidence))
    (fun d e => e.targetType == .dimension && e.targetId == d.dimensionId) hnodup hd (by
      intro d' _ e he
      obtain ⟨_, -, rfl⟩ := List.mem_map.1 he
      simp [beq_eq_decide])
  unfold ReviewDraftInput.grouped
  rw [hp, attemptEvidence, List.filter_append, hded, List.append_nil, hdim, List.map_map]
  exact List.map_id'' (fun q => rfl) _

theorem grouped_deduction {a : ReviewAttemptView} (hnodup : (a.deductions.map (·.deductionId)).Nodup)
    {p : ReviewDraftInput} (hp : p.evidence = attemptEvidence a) {d : DeductionResult}
    (hd : d ∈ a.deductions) : p.grouped .deduction d.deductionId = d.evidence := by
  have hdim : ((a.dimensions.flatMap fun d => d.evidence.map fun q =>
      (⟨.dimension, d.dimensionId, q.blockId, q.quote⟩ : ReviewEvidence)).filter fun e =>
        e.targetType == .deduction && e.targetId == d.deductionId) = [] := by
    rw [List.filter_eq_nil_iff]
    intro e he
    obtain ⟨_, -, he⟩ := List.mem_flatMap.1 he
    obtain ⟨_, -, rfl⟩ := List.mem_map.1 he
    simp
  have hded := filter_flatMap_key DeductionResult.deductionId
    (fun d => d.evidence.map fun q =>
      (⟨.deduction, d.deductionId, q.blockId, q.quote⟩ : ReviewEvidence))
    (fun d e => e.targetType == .deduction && e.targetId == d.deductionId) hnodup hd (by
      intro d' _ e he
      obtain ⟨_, -, rfl⟩ := List.mem_map.1 he
      simp [beq_eq_decide])
  unfold ReviewDraftInput.grouped
  rw [hp, attemptEvidence, List.filter_append, hdim, List.nil_append, hded, List.map_map]
  exact List.map_id'' (fun q => rfl) _

/-! ## The form as a model answer -/

/-- The result with its scores written out and its texts stripped. -/
def GradeResult.resubmitted (env : Runtime) (r : GradeResult) : GradeResult where
  dimensions := r.dimensions.map fun d =>
    { d with
      score := d.score.reparsed
      reason := env.strip d.reason
      revisionSuggestions := d.revisionSuggestions.map env.strip }
  deductions := r.deductions.map fun d => { d with reason := env.strip d.reason }
  overallFeedback := env.strip r.overallFeedback

theorem gradeResult_normalize {env : Runtime} {a : ReviewAttemptView}
    (hdim : (a.dimensions.map (·.dimensionId)).Nodup)
    (hded : (a.deductions.map (·.deductionId)).Nodup) :
    ((initialForm ⟨a, none⟩).normalize env).gradeResult = a.gradeResult.resubmitted env := by
  have hevidence : ((initialForm ⟨a, none⟩).normalize env).evidence = attemptEvidence a := rfl
  unfold ReviewDraftInput.gradeResult GradeResult.resubmitted
  simp only [ReviewAttemptView.gradeResult, GradeResult.mk.injEq]
  refine ⟨?_, ?_, rfl⟩
  · rw [show ((initialForm ⟨a, none⟩).normalize env).criteria = (a.dimensions.map fun d =>
      (⟨d.dimensionId, d.score, env.strip d.reason, d.revisionSuggestions.map env.strip⟩ :
        ReviewCriterion)) by simp [initialForm, ReviewDraftInput.normalize], List.map_map]
    refine List.map_congr_left fun d hd => ?_
    simp only [Function.comp, grouped_dimension hdim hevidence hd]
  · rw [show ((initialForm ⟨a, none⟩).normalize env).deductions = (a.deductions.map fun d =>
      (⟨d.deductionId, d.applied, env.strip d.reason⟩ : ReviewDeduction)) by
        simp [initialForm, ReviewDraftInput.normalize], List.map_map]
    refine List.map_congr_left fun d hd => ?_
    simp only [Function.comp, grouped_deduction hded hevidence hd]

/-- Nothing that submitting the form changes or refuses. -/
structure ReviewAttemptView.Resubmittable (env : Runtime) (a : ReviewAttemptView) : Prop where
  reasons : ∀ d ∈ a.dimensions, env.strip d.reason = d.reason
  suggestions : ∀ d ∈ a.dimensions, ∀ s ∈ d.revisionSuggestions, env.strip s = s
  deductionReasons : ∀ d ∈ a.deductions, env.strip d.reason = d.reason
  feedback : env.strip a.overallFeedback = a.overallFeedback
  plain : ∀ d ∈ a.dimensions, d.score.IsPlain
  evidence : (attemptEvidence a).length ≤ 10000
  texts : ∀ s ∈ (initialForm ⟨a, none⟩).texts, textOk s = true

variable {env : Runtime} {t : ReviewTarget env} {parsed : ParsedDocument} {a : ReviewAttemptView}
  {r : GradeResult}

/-- Stripping keeps the content exactly where there is nothing to strip. -/
theorem content_resubmitted_iff : (r.resubmitted env).content = r.content ↔
    (∀ d ∈ r.dimensions, env.strip d.reason = d.reason ∧
      ∀ s ∈ d.revisionSuggestions, env.strip s = s) ∧
    (∀ d ∈ r.deductions, env.strip d.reason = d.reason) ∧
      env.strip r.overallFeedback = r.overallFeedback := by
  have hself : ∀ l : List String, l.map env.strip = l ↔ ∀ s ∈ l, env.strip s = s := by
    intro l
    conv_lhs => rw [← List.map_id l, List.map_map]
    exact List.map_inj_left
  have hdeductions : r.deductions.map (fun d => { d with reason := env.strip d.reason }) =
      r.deductions ↔ ∀ d ∈ r.deductions, env.strip d.reason = d.reason := by
    conv_lhs => rw [← List.map_id r.deductions, List.map_map]
    rw [List.map_inj_left]
    refine forall₂_congr fun d _ => ?_
    obtain ⟨i, b, s, e⟩ := d
    simp
  unfold GradeResult.content GradeResult.resubmitted
  simp only [Prod.mk.injEq, List.map_map, List.map_inj_left, hdeductions]
  refine and_congr (forall₂_congr fun d _ => ?_) Iff.rfl
  simp only [Function.comp, DimensionResult.content, Decimal.canonical_reparsed, Prod.mk.injEq,
    true_and, hself]

/-- The result with its scores written out. -/
def GradeResult.respelled (r : GradeResult) : GradeResult :=
  { r with dimensions := r.dimensions.map fun d => { d with score := d.score.reparsed } }

theorem resubmitted_eq (h : (r.resubmitted env).content = r.content) :
    r.resubmitted env = r.respelled := by
  obtain ⟨hdimensions, hdeductions, hfeedback⟩ := content_resubmitted_iff.1 h
  unfold GradeResult.resubmitted GradeResult.respelled
  rw [hfeedback, GradeResult.mk.injEq]
  refine ⟨List.map_congr_left fun d hd => ?_, ?_, rfl⟩
  · obtain ⟨hreason, hsuggestions⟩ := hdimensions d hd
    rw [hreason, List.map_congr_left hsuggestions, List.map_id'' (fun s => rfl)]
  · rw [List.map_congr_left (fun d hd => by rw [hdeductions d hd]), List.map_id'' (fun d => rfl)]

theorem fits_reparsed (d : Decimal) (m n : Nat) : d.reparsed.fits m n = d.fits m n := by
  rw [Bool.eq_iff_iff, Decimal.fits_iff, Decimal.fits_iff, Decimal.toRat_reparsed]

theorem respelled_accepts : r.respelled.accepts env = r.accepts env := by
  unfold GradeResult.accepts GradeResult.respelled
  simp only [List.length_map, List.all_map, Function.comp_def, DimensionResult.accepts, fits_reparsed]

theorem isTotal_congr {d e : Decimal} (h : d.toRat = e.toRat) : isTotal d = isTotal e := by
  rw [Bool.eq_iff_iff, isTotal_iff, isTotal_iff, h]

theorem respelled_sumsExactly {rubric : StructuredRubric} (h : r.SumsExactly rubric) :
    r.respelled.SumsExactly rubric where
  scores := List.forall_mem_map.2 fun d hd => (fits_reparsed _ _ _).trans (h.scores d hd)
  dimensions := by
    rw [GradeResult.respelled, List.length_map]
    exact h.dimensions
  points := h.points
  deductions := h.deductions

theorem respelled_withTotals {rubric : StructuredRubric} (h : r.SumsExactly rubric) :
    (r.respelled.withTotals rubric).accepts env = (r.withTotals rubric).accepts env := by
  have hrespelled := respelled_sumsExactly h
  have hsub : (r.respelled.withTotals rubric).subtotal.toRat = (r.withTotals rubric).subtotal.toRat := by
    refine (toRat_subtotal_calculated hrespelled).trans (Eq.trans ?_
      (toRat_subtotal_calculated h).symm)
    rw [GradeResult.respelled, List.map_map]
    congr 1
    exact List.map_congr_left fun d _ => Decimal.toRat_reparsed _
  have hfin : (r.respelled.withTotals rubric).totalScore.toRat =
      (r.withTotals rubric).totalScore.toRat := by
    refine (toRat_totalScore_calculated hrespelled).trans (Eq.trans ?_
      (toRat_totalScore_calculated h).symm)
    exact congrArg (fun x => max 0 (x - (r.withTotals rubric).deductionTotal.toRat)) hsub
  unfold ValidatedGradeResult.accepts
  rw [isTotal_congr hsub, isTotal_congr hfin]
  exact congrArg (fun b => b && _ && _ && _) respelled_accepts

theorem respelled_meets {request : GradeRequest} (h : r.Meets env request) :
    r.respelled.Meets env request where
  schema := respelled_accepts.trans h.schema
  dimensionIds := by
    rw [← h.dimensionIds, GradeResult.respelled, List.map_map]
    rfl
  dimensionsNodup := h.dimensionsNodup
  scores := by
    rw [GradeResult.respelled, List.zip_map_left]
    intro x hx
    obtain ⟨y, hy, rfl⟩ := List.mem_map.1 hx
    have := h.scores y hy
    simp only [scoreInvalid, Prod.map, Decimal.toRat_reparsed, id] at this ⊢
    exact this
  deductionIds := h.deductionIds
  deductionsNodup := h.deductionsNodup
  evidence := by
    have hgroups : r.respelled.evidenceGroups = r.evidenceGroups := by
      simp [GradeResult.evidenceGroups, GradeResult.respelled]
    rw [hgroups]
    exact h.evidence

/-! ## The form passes its model -/

theorem normalize_initialForm (h : (a.gradeResult.resubmitted env).content = a.gradeResult.content) :
    (initialForm ⟨a, none⟩).normalize env = initialForm ⟨a, none⟩ := by
  obtain ⟨hdimensions, hdeductions, hfeedback⟩ := content_resubmitted_iff.1 h
  unfold ReviewDraftInput.normalize initialForm
  simp only [List.map_map, Option.map_none, Option.filter_none, ReviewDraftInput.mk.injEq, true_and,
    and_true]
  refine ⟨List.map_congr_left fun d hd => ?_, List.map_congr_left fun d hd => ?_, hfeedback⟩
  · obtain ⟨hreason, hsuggestions⟩ := hdimensions d hd
    simp only [Function.comp, hreason, List.map_congr_left hsuggestions, List.map_id_fun', id]
  · simp only [Function.comp, hdeductions d hd]

theorem attemptEvidence_accepts (h : a.gradeResult.accepts env = true) :
    ∀ e ∈ attemptEvidence a, e.accepts env = true := by
  simp only [GradeResult.accepts, Bool.and_eq_true, List.all_eq_true] at h
  obtain ⟨⟨⟨⟨⟨⟨-, hdimensions⟩, -⟩, hdeductions⟩, -⟩, -⟩, -⟩ := h
  have hentry : ∀ (targetType : EvidenceTarget) (id : String) (q : EvidenceQuote),
      isContractId id = true → q.accepts env = true →
      ReviewEvidence.accepts env ⟨targetType, id, q.blockId, q.quote⟩ = true := by
    intro _ id q hid hq
    simp only [EvidenceQuote.accepts, Bool.and_eq_true] at hq
    simp only [ReviewEvidence.accepts, hid, hq, Bool.and_self]
  intro e he
  rcases List.mem_append.1 he with he | he
  · obtain ⟨d, hd, he⟩ := List.mem_flatMap.1 he
    obtain ⟨q, hq, rfl⟩ := List.mem_map.1 he
    have haccepts := hdimensions d hd
    simp only [DimensionResult.accepts, Bool.and_eq_true, List.all_eq_true] at haccepts
    exact hentry _ _ q haccepts.1.1.1.1.1.1.1.1 (haccepts.1.1.2 q hq)
  · obtain ⟨d, hd, he⟩ := List.mem_flatMap.1 he
    obtain ⟨q, hq, rfl⟩ := List.mem_map.1 he
    have haccepts := hdeductions d hd
    simp only [DeductionResult.accepts, Bool.and_eq_true, List.all_eq_true] at haccepts
    exact hentry _ _ q haccepts.1.1.1.1.1 (haccepts.2 q hq)

theorem initialForm_accepts (h : a.gradeResult.accepts env = true)
    (hdim : (a.dimensions.map (·.dimensionId)).Nodup)
    (hded : (a.deductions.map (·.deductionId)).Nodup) (hevidence : (attemptEvidence a).length ≤ 10000) :
    (initialForm ⟨a, none⟩).accepts env = true := by
  have hentries := attemptEvidence_accepts h
  simp only [GradeResult.accepts, Bool.and_eq_true, List.all_eq_true] at h
  obtain ⟨⟨⟨⟨⟨⟨hdimensionCount, hdimensions⟩, hdeductionCount⟩, hdeductions⟩, -⟩, henglish⟩, hlength⟩ := h
  simp only [ReviewAttemptView.gradeResult] at hdimensionCount hdeductionCount henglish hlength
  have hcriteria : ∀ d ∈ a.dimensions, ReviewCriterion.accepts env
      ⟨d.dimensionId, d.score, d.reason, d.revisionSuggestions⟩ = true := by
    intro d hd
    have haccepts := hdimensions d hd
    simp only [DimensionResult.accepts, Bool.and_eq_true, List.all_eq_true] at haccepts
    obtain ⟨⟨⟨⟨⟨⟨⟨⟨hid, hscore⟩, -⟩, hreason⟩, hreasonLength⟩, -⟩, -⟩, hcount⟩, hsuggestions⟩ := haccepts
    simp only [ReviewCriterion.accepts, hid, hscore, hreason, hreasonLength, hcount, Bool.true_and,
      List.all_eq_true, Bool.and_eq_true, Bool.not_eq_true']
    intro s hs
    obtain ⟨⟨hlen, -⟩, hs⟩ := hsuggestions s hs
    refine ⟨?_, hs⟩
    rw [← Bool.not_eq_true, String.isEmpty_iff]
    rintro rfl
    exact absurd hlen (by decide)
  have hdeductionRows : ∀ d ∈ a.deductions, ReviewDeduction.accepts env
      ⟨d.deductionId, d.applied, d.reason⟩ = true := by
    intro d hd
    have haccepts := hdeductions d hd
    simp only [DeductionResult.accepts, Bool.and_eq_true, List.all_eq_true] at haccepts
    obtain ⟨⟨⟨⟨⟨hid, -⟩, hreason⟩, hreasonLength⟩, -⟩, -⟩ := haccepts
    simp only [ReviewDeduction.accepts, hid, hreason, hreasonLength, Bool.and_self]
  unfold ReviewDraftInput.accepts initialForm
  simp only [List.length_map, List.map_map, List.all_map, Function.comp_def, hdimensionCount,
    hdeductionCount, henglish, hlength, Option.all_none, hdim, hded, decide_true, Bool.and_true,
    Bool.true_and, Bool.and_eq_true, List.all_eq_true]
  refine ⟨⟨⟨hcriteria, hdeductionRows⟩, ?_⟩, hentries⟩
  simpa [lengthBetween] using hevidence

theorem initialForm_known (a : ReviewAttemptView) : ∀ e ∈ (initialForm ⟨a, none⟩).evidence,
    (initialForm ⟨a, none⟩).targetUnknown e = false := by
  intro e he
  rcases List.mem_append.1 he with he | he
  · obtain ⟨d, hd, he⟩ := List.mem_flatMap.1 he
    obtain ⟨q, -, rfl⟩ := List.mem_map.1 he
    simp only [ReviewDraftInput.targetUnknown, initialForm, List.map_map, Bool.not_eq_false',
      List.contains_iff_mem]
    exact List.mem_map.2 ⟨d, hd, rfl⟩
  · obtain ⟨d, hd, he⟩ := List.mem_flatMap.1 he
    obtain ⟨q, -, rfl⟩ := List.mem_map.1 he
    simp only [ReviewDraftInput.targetUnknown, initialForm, List.map_map, Bool.not_eq_false',
      List.contains_iff_mem]
    exact List.mem_map.2 ⟨d, hd, rfl⟩

/-! ## Main result -/

theorem shows_of_resultColumns {v : ValidatedGradeResult} {row : AttemptResult}
    (h : resultColumns v = .ok row) (id : Uuid) : (v.view id).Shows row := by
  unfold resultColumns at h
  simp only [bind_eq_ok, pure, Except.pure, Except.ok.injEq] at h
  obtain ⟨_, -, _, -, _, -, rfl⟩ := h
  exact ⟨rfl, rfl, rfl⟩

/-- **The untouched form of a validated result is saved without a change reason exactly when the
result is resubmittable.** -/
theorem initialForm_accepted_iff (hspace : env.isSpace ' ' = true) (t : ReviewTarget env)
    (parsed : ParsedDocument) (raw : GradeResult) (v : ValidatedGradeResult) (row : AttemptResult)
    (id : Uuid) (requireEditable : Bool) (hstatus : t.itemStatus = .needsReview)
    (hrequest : (t.gradeRequest parsed).accepts env = true)
    (hvalid : validateGradeResponse env raw (t.gradeRequest parsed) = .ok v)
    (hrow : resultColumns v = .ok row) (hview : t.attempt = v.view id) :
    (∃ p data, (initialForm ⟨t.attempt, none⟩).parse env = some p ∧
      validatePayload env t parsed p requireEditable = .ok data ∧
      data.payload.Accepted t.rubric.rubric row) ↔ t.attempt.Resubmittable env := by
  obtain ⟨hmeets, rfl, htotals⟩ := validateGradeResponse_eq_ok.1 hvalid
  have hshows : t.attempt.Shows row := hview ▸ shows_of_resultColumns hrow id
  have hresult : t.attempt.gradeResult = raw := by rw [hview]; rfl
  have hdim : (t.attempt.dimensions.map (·.dimensionId)).Nodup := by
    have := hmeets.dimensionIds ▸ hmeets.dimensionsNodup
    rwa [← hresult] at this
  have hded : (t.attempt.deductions.map (·.deductionId)).Nodup := by
    have := hmeets.deductionIds ▸ hmeets.deductionsNodup
    rwa [← hresult] at this
  have hsame : ((initialForm ⟨t.attempt, none⟩).normalize env).gradeResult = raw.resubmitted env := by
    rw [gradeResult_normalize hdim hded, hresult]
  constructor
  · rintro ⟨p, data, hparse, hpayload, haccepted⟩
    unfold ReviewDraftInput.parse at hparse
    split at hparse
    next haccepts =>
      obtain rfl := Option.some.inj hparse
      obtain ⟨-, hpasses, rfl⟩ := validatePayload_eq_ok.1 hpayload
      have hstorable := (accepted_iff_storable hspace hshows hpasses).1 haccepted
      have hreason := hpasses.reason
      have hnone : ((initialForm ⟨t.attempt, none⟩).normalize env).changeReason.isNone = true := rfl
      unfold ReviewDraftInput.lacksReason at hreason
      rw [hnone, Bool.and_true, bne_eq_false_iff_eq, GradeResult.canonicalJson_eq_iff, hsame,
        hresult] at hreason
      have hnormal := normalize_initialForm (hresult ▸ hreason)
      rw [hnormal] at hstorable haccepts
      obtain ⟨hdimensions, hdeductions, hfeedback⟩ := content_resubmitted_iff.1 (hresult ▸ hreason)
      refine ⟨fun d hd => (hdimensions d hd).1, fun d hd => (hdimensions d hd).2, hdeductions,
        hfeedback, fun d hd => ?_, ?_, hstorable.texts⟩
      · exact hstorable.plain _ (List.mem_map.2 ⟨d, hd, rfl⟩)
      · simp only [ReviewDraftInput.accepts, Bool.and_eq_true] at haccepts
        have hcount : lengthBetween 0 10000 (attemptEvidence t.attempt).length = true :=
          haccepts.1.1.1.1.1.1.2
        simpa [lengthBetween] using hcount
    next => cases hparse
  · intro h
    have hcontent : (raw.resubmitted env).content = raw.content := by
      rw [← hresult]
      exact content_resubmitted_iff.2
        ⟨fun d hd => ⟨h.reasons d hd, h.suggestions d hd⟩, h.deductionReasons, h.feedback⟩
    have hnormal := normalize_initialForm (hresult ▸ hcontent)
    rw [hnormal, resubmitted_eq hcontent] at hsame
    have hschema : t.attempt.gradeResult.accepts env = true := hresult ▸ hmeets.schema
    have haccepts := initialForm_accepts hschema hdim hded h.evidence
    have hpasses : (initialForm ⟨t.attempt, none⟩).Passes t parsed := by
      refine ⟨initialForm_known t.attempt, hrequest, hsame ▸ respelled_meets hmeets, ?_, hschema, ?_⟩
      · rw [hsame, respelled_withTotals (GradeResult.sumsExactly_of_accepts t.rubric.accepted hmeets.schema)]
        exact htotals
      · unfold ReviewDraftInput.lacksReason
        rw [hsame, hresult, ← resubmitted_eq hcontent, GradeResult.canonicalJson_eq_iff.2 hcontent]
        simp
    refine ⟨_, _, by rw [ReviewDraftInput.parse, hnormal, if_pos haccepts],
      validatePayload_eq_ok.2 ⟨⟨.inl hstatus, rfl⟩, hpasses, rfl⟩,
      (accepted_iff_storable hspace hshows hpasses).2 ⟨?_, h.texts, .inr ⟨?_, rfl⟩⟩⟩
    · intro c hc
      obtain ⟨d, hd, rfl⟩ := List.mem_map.1 hc
      exact h.plain d hd
    · simp [initialForm]

/-! ## A suggestion with a blank at the end -/

namespace Sample

/-- The answer of the model for the sample paper. -/
def essayResult (reason : String) : GradeResult where
  dimensions := [⟨"content", ⟨false, 8, 0⟩, reason, [⟨"b000001", "essay"⟩], ["Revise"]⟩]
  deductions := []
  overallFeedback := "Fine"

def essayTarget (reason : String) : ReviewTarget sampleRuntime :=
  { reviewTarget with attempt := ((essayResult reason).withTotals rubric).view 8 }

def essayRow (reason : String) : AttemptResult :=
  ⟨some 8, some 0, some 8, some (essayResult reason).dimensions, some [], some "Fine"⟩

/-- The answer without blanks is saved as it stands. -/
theorem plainAnswer_saved :
    ∃ p data, (initialForm ⟨(essayTarget "Good").attempt, none⟩).parse sampleRuntime = some p ∧
      validatePayload sampleRuntime (essayTarget "Good") essay p true = .ok data ∧
      data.payload.Accepted rubric (essayRow "Good") :=
  (initialForm_accepted_iff rfl (essayTarget "Good") essay (essayResult "Good")
    ((essayResult "Good").withTotals rubric) (essayRow "Good") 8 true rfl (by decide +kernel)
    (by decide +kernel) (by decide +kernel) rfl).2
    ⟨by decide +kernel, by decide +kernel, by decide +kernel, by decide +kernel, by decide +kernel,
      by decide +kernel, by decide +kernel⟩

/-- An accepted answer whose reason ends in a blank: the service wants a change reason for the
untouched form. -/
theorem blankAnswer_refused :
    validateGradeResponse sampleRuntime (essayResult "Good ") ((essayTarget "Good ").gradeRequest essay) =
        .ok ((essayResult "Good ").withTotals rubric) ∧
      resultColumns ((essayResult "Good ").withTotals rubric) = .ok (essayRow "Good ") ∧
      ((initialForm ⟨(essayTarget "Good ").attempt, none⟩).parse sampleRuntime).map
          (fun p => validatePayload sampleRuntime (essayTarget "Good ") essay p true) =
        some (.error (.validation "review_change_reason_required" "修改 AI 结果时必须填写原因")) := by
  refine ⟨by decide +kernel, by decide +kernel, by decide +kernel⟩

end Sample

end PaperGrading
