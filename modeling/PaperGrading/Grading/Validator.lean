import PaperGrading.Base.Checks
import PaperGrading.Domain.Grading
import PaperGrading.Domain.CanonicalJson
import PaperGrading.Domain.DecimalFields
import Mathlib.Data.List.Infix

/-!
# The grading contract

`domain/grading.py`, `grading/totals.py` and `grading/validator.py`: what the strict result
models accept, the totals the backend computes, and `validate_grade_response`, the only way
a result enters the system.

    validateGradeResponse env raw request = .ok v ↔
      Meets env raw request ∧ v = withTotals raw request.rubric ∧ v.accepts env
                                                              (validateGradeResponse_eq_ok)
-/

namespace PaperGrading

/-! ## Narrative texts -/

/-- `require_english_narrative` returns its value: every letter is a Latin one, and there
is one. -/
def Runtime.isEnglishNarrative (env : Runtime) (s : String) : Bool :=
  (s.toList.all fun c => !env.isAlpha c || env.nameHasLatin c) && s.toList.any env.isAlpha

/-- `value.strip()` is true. -/
def Runtime.notBlank (env : Runtime) (s : String) : Bool := !(env.strip s).isEmpty

/-! ## Result models -/

def EvidenceQuote.accepts (env : Runtime) (q : EvidenceQuote) : Bool :=
  isBlockId q.blockId && lengthBetween 1 20000 q.quote.length && env.notBlank q.quote

def DimensionResult.accepts (env : Runtime) (d : DimensionResult) : Bool :=
  isContractId d.dimensionId && d.score.fits 10 4 && env.notBlank d.reason &&
    env.isEnglishNarrative d.reason && lengthBetween 1 10000 d.reason.length &&
    lengthBetween 1 100 d.evidence.length && d.evidence.all (·.accepts env) &&
    lengthBetween 1 50 d.revisionSuggestions.length &&
    d.revisionSuggestions.all fun s =>
      lengthBetween 1 4000 s.length && env.notBlank s && env.isEnglishNarrative s

def DeductionResult.accepts (env : Runtime) (d : DeductionResult) : Bool :=
  isContractId d.deductionId && env.notBlank d.reason && env.isEnglishNarrative d.reason &&
    lengthBetween 1 10000 d.reason.length && lengthBetween 0 100 d.evidence.length &&
    d.evidence.all (·.accepts env)

/-- `GradeResult.model_validate` of a value of the right shape. -/
def GradeResult.accepts (env : Runtime) (r : GradeResult) : Bool :=
  lengthBetween 1 100 r.dimensions.length && r.dimensions.all (·.accepts env) &&
    lengthBetween 0 100 r.deductions.length && r.deductions.all (·.accepts env) &&
    env.notBlank r.overallFeedback && env.isEnglishNarrative r.overallFeedback &&
    lengthBetween 1 20000 r.overallFeedback.length

/-- `Field(ge=0, max_digits=10, decimal_places=4)`. -/
def isTotal (d : Decimal) : Bool := decide (0 ≤ d.toRat) && d.fits 10 4

theorem isTotal_iff {d : Decimal} :
    isTotal d = true ↔ 0 ≤ d.toRat ∧ OnScale 4 d.toRat ∧ |d.toRat| < 10 ^ 6 := by
  rw [isTotal, Bool.and_eq_true, decide_eq_true_iff, Decimal.fits_iff]

def ValidatedGradeResult.accepts (env : Runtime) (r : ValidatedGradeResult) : Bool :=
  r.toGradeResult.accepts env && isTotal r.subtotal && isTotal r.deductionTotal &&
    isTotal r.totalScore

/-- `GradeRequest(…)`; the document is already a `ParsedDocument`. -/
def GradeRequest.accepts (env : Runtime) (r : GradeRequest) : Bool :=
  strippedText env 300 r.assignmentTitle && strippedText env 100000 r.assignmentInstructions &&
    decide (0 < r.rubricVersion) && r.rubric.accepts env

def EvidenceQuote.toJs (q : EvidenceQuote) : Js :=
  .obj [("block_id", .str q.blockId), ("quote", .str q.quote)]

def DimensionResult.toJs (d : DimensionResult) : Js :=
  .obj [("dimension_id", .str d.dimensionId), ("score", .str d.score.canonical),
    ("reason", .str d.reason), ("evidence", .arr (d.evidence.map EvidenceQuote.toJs)),
    ("revision_suggestions", .arr (d.revisionSuggestions.map Js.str))]

def DeductionResult.toJs (d : DeductionResult) : Js :=
  .obj [("deduction_id", .str d.deductionId), ("applied", .bool d.applied),
    ("reason", .str d.reason), ("evidence", .arr (d.evidence.map EvidenceQuote.toJs))]

/-- The value compared and hashed, with its decimals in canonical form. -/
def GradeResult.toJs (r : GradeResult) : Js :=
  .obj [("schema_version", .str gradeResultSchemaVersion),
    ("dimensions", .arr (r.dimensions.map DimensionResult.toJs)),
    ("deductions", .arr (r.deductions.map DeductionResult.toJs)),
    ("overall_feedback", .str r.overallFeedback)]

/-! ## Totals -/

structure GradeTotals where
  subtotal : Decimal
  deductionTotal : Decimal
  totalScore : Decimal

/-- `calculate_grade_totals` -/
def calculateGradeTotals (result : GradeResult) (rubric : StructuredRubric) : GradeTotals :=
  let subtotal := Decimal.sumUp (result.dimensions.map (·.score))
  let appliedIds := (result.deductions.filter (·.applied)).map (·.deductionId)
  let deductionTotal := Decimal.sumUp
    ((rubric.deductions.filter fun d => appliedIds.contains d.id).map (·.points))
  ⟨subtotal, deductionTotal, (subtotal.plus deductionTotal.neg).positivePart⟩

/-- Scores and points that the context adds up without rounding. -/
structure GradeResult.SumsExactly (result : GradeResult) (rubric : StructuredRubric) : Prop where
  scores : ∀ x ∈ result.dimensions, x.score.fits 10 4 = true
  dimensions : result.dimensions.length ≤ 100
  points : ∀ d ∈ rubric.deductions, d.points.fits 10 4 = true
  deductions : rubric.deductions.length ≤ 100

theorem GradeResult.sumsExactly_of_scores {env : Runtime} {result : GradeResult}
    {rubric : StructuredRubric} (hrubric : rubric.accepts env = true)
    (hscores : ∀ x ∈ result.dimensions, x.score.fits 10 4 = true)
    (hlength : result.dimensions.length ≤ 100) : result.SumsExactly rubric where
  scores := hscores
  dimensions := hlength
  points _ hd := StructuredRubric.fits_of_accepts hrubric _ (StructuredRubric.points_mem hd)
  deductions := (StructuredRubric.lengths_of_accepts hrubric).2

theorem GradeResult.sumsExactly_of_accepts {env : Runtime} {result : GradeResult}
    {rubric : StructuredRubric} (hrubric : rubric.accepts env = true)
    (h : result.accepts env = true) : result.SumsExactly rubric := by
  simp only [accepts, DimensionResult.accepts, lengthBetween, Bool.and_eq_true, List.all_eq_true,
    decide_eq_true_iff] at h
  obtain ⟨⟨⟨⟨⟨⟨hlength, hdimensions⟩, -⟩, -⟩, -⟩, -⟩, -⟩ := h
  exact sumsExactly_of_scores hrubric (fun x hx => (hdimensions x hx).1.1.1.1.1.1.1.2) hlength.2

section Totals

variable {result : GradeResult} {rubric : StructuredRubric}

namespace GradeResult.SumsExactly

theorem fits_scores (h : result.SumsExactly rubric) :
    ∀ x ∈ result.dimensions.map (·.score), x.fits 10 4 = true :=
  List.forall_mem_map.2 h.scores

theorem fits_points (h : result.SumsExactly rubric) (p : RubricDeduction → Bool) :
    ∀ x ∈ (rubric.deductions.filter p).map (·.points), x.fits 10 4 = true :=
  List.forall_mem_map.2 fun d hd => h.points d (List.mem_of_mem_filter hd)

theorem length_scores (h : result.SumsExactly rubric) :
    (result.dimensions.map (·.score)).length ≤ 100 := by
  rw [List.length_map]
  exact h.dimensions

theorem length_points (h : result.SumsExactly rubric) (p : RubricDeduction → Bool) :
    ((rubric.deductions.filter p).map (·.points)).length ≤ 100 := by
  rw [List.length_map]
  exact (List.length_filter_le _ _).trans h.deductions

end GradeResult.SumsExactly

theorem toRat_subtotal_calculated (h : result.SumsExactly rubric) :
    (calculateGradeTotals result rubric).subtotal.toRat =
      (result.dimensions.map (·.score.toRat)).sum := by
  refine (Decimal.sumUp_hundred h.fits_scores h.length_scores).1.trans ?_
  rw [List.map_map]
  rfl

theorem toRat_deductionTotal_calculated (h : result.SumsExactly rubric) :
    (calculateGradeTotals result rubric).deductionTotal.toRat =
      ((rubric.deductions.filter fun d => ((result.deductions.filter (·.applied)).map
        (·.deductionId)).contains d.id).map (·.points.toRat)).sum := by
  refine (Decimal.sumUp_hundred (h.fits_points _) (h.length_points _)).1.trans ?_
  rw [List.map_map]
  rfl

theorem toRat_totalScore_calculated (h : result.SumsExactly rubric) :
    (calculateGradeTotals result rubric).totalScore.toRat =
      max 0 ((calculateGradeTotals result rubric).subtotal.toRat -
        (calculateGradeTotals result rubric).deductionTotal.toRat) := by
  obtain ⟨-, hsubtotal, hsub⟩ := Decimal.sumUp_hundred h.fits_scores h.length_scores
  unfold calculateGradeTotals
  dsimp only
  generalize Decimal.sumUp (result.dimensions.map (·.score)) = a at *
  obtain ⟨-, hdeductions, hded⟩ := Decimal.sumUp_hundred (h.fits_points fun d =>
    ((result.deductions.filter (·.applied)).map (·.deductionId)).contains d.id) (h.length_points _)
  generalize Decimal.sumUp _ = b at *
  rw [Decimal.toRat_positivePart, Decimal.toRat_plus, Decimal.toRat_neg, sub_eq_add_neg]
  rw [Decimal.toRat_neg]
  refine Decimal.representable_of_onScale (by norm_num) (hsubtotal.add hdeductions.neg) ?_
  have habs : |a.toRat + -b.toRat| ≤ 10 ^ 8 + 10 ^ 8 :=
    (abs_add_le _ _).trans (add_le_add hsub (by rwa [abs_neg]))
  linarith

end Totals

/-! ## The validator -/

/-- `GradeValidationError`; the path is `$` except for schema errors. -/
structure GradeValidationError where
  code : String
  message : String
  deriving DecidableEq

inductive GradeError where
  | validation (error : GradeValidationError)
  /-- a `ValidationError` of the named pydantic model, raised outside the `try` -/
  | uncaught (model : String)
  deriving DecidableEq

/-- `_require_exact_ids`. -/
def requireExactIds (actual expected : List String) (label : String) : Except GradeError Unit := do
  ensure (decide actual.Nodup)
    (.validation ⟨"grade_" ++ label ++ "_duplicate", "模型返回了重复的" ++ label ++ " ID"⟩)
  ensure (actual == expected)
    (.validation ⟨"grade_" ++ label ++ "_mismatch", "模型返回的" ++ label ++ "与评分标准不一致"⟩)

namespace ParsedDocument

/-- `{block.block_id: block.text for block in document.blocks}.get(block_id)`. -/
def blockText (document : ParsedDocument) (blockId : String) : Option String :=
  (document.blocks.reverse.find? (·.blockId == blockId)).map (·.text)

/-- `evidence.quote in source`. -/
def quoteIn (source quote : String) : Bool := decide (quote.toList <:+: source.toList)

end ParsedDocument

/-- One evidence group of `_validate_evidence`, after the quotes in `seen`. -/
def validateEvidenceGroup (document : ParsedDocument) :
    List EvidenceQuote → List EvidenceQuote → Except GradeError Unit
  | _, [] => .ok ()
  | seen, q :: qs => do
    ensure (!seen.contains q)
      (.validation ⟨"grade_evidence_duplicate", "同一评分项不能重复引用完全相同的证据"⟩)
    match document.blockText q.blockId with
    | none => .error (.validation ⟨"grade_evidence_block_unknown", "模型引用了不存在的文本块"⟩)
    | some source =>
      ensure (ParsedDocument.quoteIn source q.quote)
        (.validation ⟨"grade_evidence_quote_mismatch", "模型证据没有逐字出现在指定文本块中"⟩)
      validateEvidenceGroup document (q :: seen) qs

/-- The evidence of every score and deduction of a result. -/
def GradeResult.evidenceGroups (r : GradeResult) : List (List EvidenceQuote) :=
  r.dimensions.map (·.evidence) ++ r.deductions.map (·.evidence)

/-- `_validate_evidence`. -/
def validateEvidence (document : ParsedDocument) : List (List EvidenceQuote) → Except GradeError Unit
  | [] => .ok ()
  | group :: groups => do
    validateEvidenceGroup document [] group
    validateEvidence document groups

/-- The score check of one dimension. -/
def scoreInvalid (step : ℚ) (score : Decimal) (d : RubricDimension) : Bool :=
  decide (score.toRat < 0) || decide (d.maxScore.toRat < score.toRat) ||
    !StructuredRubric.onGrid step score.toRat

/-- The result with the totals of the backend. -/
def GradeResult.withTotals (result : GradeResult) (rubric : StructuredRubric) : ValidatedGradeResult :=
  let totals := calculateGradeTotals result rubric
  { result with
    subtotal := totals.subtotal
    deductionTotal := totals.deductionTotal
    totalScore := totals.totalScore }

/-- `validate_grade_response` of a value of the right shape. -/
def validateGradeResponse (env : Runtime) (result : GradeResult) (request : GradeRequest) :
    Except GradeError ValidatedGradeResult := do
  ensure (result.accepts env)
    (.validation ⟨"grade_output_schema_invalid", "模型没有返回有效的统一评分结构"⟩)
  requireExactIds (result.dimensions.map (·.dimensionId)) (request.rubric.dimensions.map (·.id))
    "dimension"
  ensure ((result.dimensions.zip request.rubric.dimensions).all fun x =>
      !scoreInvalid request.rubric.scoreStep.toRat x.1.score x.2)
    (.validation ⟨"grade_dimension_score_invalid", "模型分数越界或不符合评分步长"⟩)
  requireExactIds (result.deductions.map (·.deductionId)) (request.rubric.deductions.map (·.id))
    "deduction"
  validateEvidence request.document result.evidenceGroups
  let validated := result.withTotals request.rubric
  ensure (validated.accepts env) (.uncaught "ValidatedGradeResult")
  return validated

/-! ## Results with one canonical text -/

theorem map_inj_of {α α' β γ : Type} {f : α → β} {f' : α' → β} {g : α → γ} {g' : α' → γ}
    (h : ∀ x y, f x = f' y → g x = g' y) :
    ∀ {l : List α} {l' : List α'}, l.map f = l'.map f' → l.map g = l'.map g'
  | [], [], _ => rfl
  | [], y :: l', hl => by simp at hl
  | x :: l, [], hl => by simp at hl
  | x :: l, y :: l', hl => by
    rw [List.map_cons, List.map_cons, List.cons.injEq] at hl
    rw [List.map_cons, List.map_cons, h x y hl.1, map_inj_of h hl.2]

/-- A dimension result as its canonical text sees it. -/
def DimensionResult.content (d : DimensionResult) :
    String × String × String × List EvidenceQuote × List String :=
  (d.dimensionId, d.score.canonical, d.reason, d.evidence, d.revisionSuggestions)

def GradeResult.content (r : GradeResult) :
    List (String × String × String × List EvidenceQuote × List String) × List DeductionResult × String :=
  (r.dimensions.map DimensionResult.content, r.deductions, r.overallFeedback)

namespace Js

theorem sorted_arr (vs : List Js) : (Js.arr vs).sorted = .arr (vs.map sorted) := by
  rw [sorted, sortedElems_eq_map]

theorem sorted_arr_map_inj {α β : Type} {f : α → Js} {g : α → β}
    (h : ∀ x y, (f x).sorted = (f y).sorted → g x = g y) {l l' : List α}
    (hl : (Js.arr (l.map f)).sorted = (Js.arr (l'.map f)).sorted) : l.map g = l'.map g := by
  rw [sorted_arr, sorted_arr, Js.arr.injEq, List.map_map, List.map_map] at hl
  exact map_inj_of h hl

end Js

theorem EvidenceQuote.toJs_inj {q q' : EvidenceQuote} (h : q.toJs.sorted = q'.toJs.sorted) :
    q = q' := by
  have := Js.sorted_obj_inj h rfl (by simp)
  simp only [List.map_cons, List.map_nil, Js.sorted, List.cons.injEq, Js.str.injEq] at this
  obtain ⟨b, t⟩ := q
  obtain ⟨b', t'⟩ := q'
  simp_all

theorem evidence_inj {l l' : List EvidenceQuote}
    (h : (Js.arr (l.map EvidenceQuote.toJs)).sorted = (Js.arr (l'.map EvidenceQuote.toJs)).sorted) :
    l = l' := by
  have := Js.sorted_arr_map_inj (g := id) (fun _ _ => EvidenceQuote.toJs_inj) h
  rwa [List.map_id, List.map_id] at this

theorem strings_inj {l l' : List String}
    (h : (Js.arr (l.map Js.str)).sorted = (Js.arr (l'.map Js.str)).sorted) : l = l' := by
  have := Js.sorted_arr_map_inj (g := id) (fun x y hxy => by simpa [Js.sorted] using hxy) h
  rwa [List.map_id, List.map_id] at this

theorem DimensionResult.content_of_toJs {d d' : DimensionResult}
    (h : d.toJs.sorted = d'.toJs.sorted) : d.content = d'.content := by
  have := Js.sorted_obj_inj h rfl (by simp)
  simp only [List.map_cons, List.map_nil, List.cons.injEq, and_true] at this
  obtain ⟨hid, hscore, hreason, hevidence, hsuggestions⟩ := this
  simp only [Js.sorted, Js.str.injEq] at hid hscore hreason
  simp only [content, hid, hscore, hreason, evidence_inj hevidence, strings_inj hsuggestions]

theorem DeductionResult.toJs_inj {d d' : DeductionResult} (h : d.toJs.sorted = d'.toJs.sorted) :
    d = d' := by
  have := Js.sorted_obj_inj h rfl (by simp)
  simp only [List.map_cons, List.map_nil, List.cons.injEq, and_true] at this
  obtain ⟨hid, happlied, hreason, hevidence⟩ := this
  simp only [Js.sorted, Js.str.injEq, Js.bool.injEq] at hid happlied hreason
  obtain ⟨i, a, r, e⟩ := d
  obtain ⟨i', a', r', e'⟩ := d'
  simp only [DeductionResult.mk.injEq]
  exact ⟨hid, happlied, hreason, evidence_inj hevidence⟩

theorem GradeResult.isCanonical_toJs (r : GradeResult) : r.toJs.IsCanonical := by
  have hevidence : ∀ l : List EvidenceQuote, (Js.arr (l.map EvidenceQuote.toJs)).IsCanonical := by
    intro l
    rw [Js.IsCanonical, Js.elemsCanonical_iff]
    intro v hv
    obtain ⟨q, -, rfl⟩ := List.mem_map.1 hv
    simp [EvidenceQuote.toJs, Js.IsCanonical, Js.FieldsCanonical]
  have hstrings : ∀ l : List String, (Js.arr (l.map Js.str)).IsCanonical := by
    intro l
    rw [Js.IsCanonical, Js.elemsCanonical_iff]
    intro v hv
    obtain ⟨q, -, rfl⟩ := List.mem_map.1 hv
    trivial
  simp only [toJs, Js.IsCanonical, Js.FieldsCanonical, Js.elemsCanonical_iff, List.mem_map,
    forall_exists_index, and_imp, forall_apply_eq_imp_iff₂, and_true, true_and]
  constructor
  · intro d _
    have he := hevidence d.evidence
    have hs := hstrings d.revisionSuggestions
    simp only [Js.IsCanonical] at he hs
    simp [DimensionResult.toJs, Js.IsCanonical, Js.FieldsCanonical, he, hs]
  · intro d _
    have he := hevidence d.evidence
    simp only [Js.IsCanonical] at he
    simp [DeductionResult.toJs, Js.IsCanonical, Js.FieldsCanonical, he]

theorem GradeResult.toJs_of_content {r r' : GradeResult} (h : r.content = r'.content) :
    r.toJs = r'.toJs := by
  simp only [content, Prod.mk.injEq] at h
  obtain ⟨hd, hded, hfeedback⟩ := h
  have hjs : r.dimensions.map DimensionResult.toJs = r'.dimensions.map DimensionResult.toJs := by
    refine map_inj_of (fun d d' hc => ?_) hd
    simp only [DimensionResult.content, Prod.mk.injEq] at hc
    simp only [DimensionResult.toJs, hc]
  simp only [toJs, hjs, hded, hfeedback]

/-- **Two results have one canonical text exactly when they differ in the spelling of scores
only.** -/
theorem GradeResult.canonicalJson_eq_iff {r r' : GradeResult} :
    r.toJs.canonicalJson = r'.toJs.canonicalJson ↔ r.content = r'.content := by
  refine ⟨fun h => ?_, fun h => by rw [toJs_of_content h]⟩
  have hsorted := Js.canonicalJson_inj r.isCanonical_toJs r'.isCanonical_toJs h
  have := Js.sorted_obj_inj hsorted rfl (by simp)
  simp only [List.map_cons, List.map_nil, List.cons.injEq, and_true] at this
  obtain ⟨-, hdimensions, hdeductions, hfeedback⟩ := this
  have hd := Js.sorted_arr_map_inj (fun _ _ => DimensionResult.content_of_toJs) hdimensions
  have hded := Js.sorted_arr_map_inj (g := id) (fun _ _ => DeductionResult.toJs_inj) hdeductions
  rw [List.map_id, List.map_id] at hded
  simp only [Js.sorted, Js.str.injEq] at hfeedback
  simp only [content, hd, hded, hfeedback]

/-! ## What an accepted result meets -/

/-- The checks of the validator that look at the result. -/
structure GradeResult.Meets (env : Runtime) (result : GradeResult) (request : GradeRequest) : Prop where
  schema : result.accepts env = true
  dimensionIds : result.dimensions.map (·.dimensionId) = request.rubric.dimensions.map (·.id)
  dimensionsNodup : (request.rubric.dimensions.map (·.id)).Nodup
  scores : ∀ x ∈ result.dimensions.zip request.rubric.dimensions,
    scoreInvalid request.rubric.scoreStep.toRat x.1.score x.2 = false
  deductionIds : result.deductions.map (·.deductionId) = request.rubric.deductions.map (·.id)
  deductionsNodup : (request.rubric.deductions.map (·.id)).Nodup
  evidence : validateEvidence request.document result.evidenceGroups = .ok ()

theorem requireExactIds_eq_ok {actual expected : List String} {label : String} {u : Unit} :
    requireExactIds actual expected label = .ok u ↔ actual = expected ∧ expected.Nodup := by
  rw [requireExactIds, bind_unit_eq_ok, ensure_eq_ok, ensure_eq_ok, decide_eq_true_iff, beq_iff_eq]
  constructor
  · rintro ⟨h, rfl⟩
    exact ⟨rfl, h⟩
  · rintro ⟨rfl, h⟩
    exact ⟨h, rfl⟩

theorem validateGradeResponse_eq_ok {env : Runtime} {result : GradeResult} {request : GradeRequest}
    {v : ValidatedGradeResult} :
    validateGradeResponse env result request = .ok v ↔
      result.Meets env request ∧ v = result.withTotals request.rubric ∧ v.accepts env = true := by
  unfold validateGradeResponse
  simp only [bind_unit_eq_ok, ensure_eq_ok, requireExactIds_eq_ok, List.all_eq_true,
    Bool.not_eq_true', pure, Except.pure, Except.ok.injEq]
  constructor
  · rintro ⟨hschema, ⟨hids, hnodup⟩, hscores, ⟨hdids, hdnodup⟩, hevidence, haccepts, rfl⟩
    exact ⟨⟨hschema, hids, hnodup, hscores, hdids, hdnodup, hevidence⟩, rfl, haccepts⟩
  · rintro ⟨⟨hschema, hids, hnodup, hscores, hdids, hdnodup, hevidence⟩, rfl, haccepts⟩
    exact ⟨hschema, ⟨hids, hnodup⟩, hscores, ⟨hdids, hdnodup⟩, hevidence, haccepts, rfl⟩

/-! ## Errors -/

def evidenceCodes : List String :=
  ["grade_evidence_duplicate", "grade_evidence_block_unknown", "grade_evidence_quote_mismatch"]

theorem validateEvidenceGroup_error {document : ParsedDocument} {seen group : List EvidenceQuote}
    {e : GradeError} (h : validateEvidenceGroup document seen group = .error e) :
    ∃ error : GradeValidationError, e = .validation error ∧ error.code ∈ evidenceCodes := by
  induction group generalizing seen with
  | nil => cases h
  | cons q group ih =>
    rw [validateEvidenceGroup, bind_eq_error, ensure_eq_error] at h
    rcases h with ⟨-, rfl⟩ | ⟨_, -, h⟩
    · exact ⟨_, rfl, by simp [evidenceCodes]⟩
    split at h
    · cases h
      exact ⟨_, rfl, by simp [evidenceCodes]⟩
    · rw [bind_eq_error, ensure_eq_error] at h
      rcases h with ⟨-, rfl⟩ | ⟨_, -, h⟩
      · exact ⟨_, rfl, by simp [evidenceCodes]⟩
      · exact ih h

theorem validateEvidence_error {document : ParsedDocument} {groups : List (List EvidenceQuote)}
    {e : GradeError} (h : validateEvidence document groups = .error e) :
    ∃ error : GradeValidationError, e = .validation error ∧ error.code ∈ evidenceCodes := by
  induction groups with
  | nil => cases h
  | cons group groups ih =>
    rw [validateEvidence, bind_eq_error] at h
    rcases h with h | ⟨_, -, h⟩
    · exact validateEvidenceGroup_error h
    · exact ih h

end PaperGrading
