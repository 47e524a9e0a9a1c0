import PaperGrading.Grading.Contracts

/-!
# Canonical bytes of a contract value

`canonical_json_bytes` prints a decimal in its canonical form and a float by its `repr`, which has
a sign on zero and no JSON text when it is not finite.

    a, b accepted → (canonicalJsonBytes a = canonicalJsonBytes b ↔ a.numeric = b.numeric)
    raw.sorted = a.dump.sorted → modelValidate raw has the canonical bytes of a
                                                                        (contracts_stable)

`numeric` reads every decimal as the number it spells.
-/

namespace PaperGrading

/-! ## Floats that are not finite -/

namespace Js

mutual

/-- Every float of a value, as its `repr`. -/
def floats : Js → List String
  | .float t => [t]
  | .arr elems => elemFloats elems
  | .obj fields => fieldFloats fields
  | .null | .bool _ | .int _ | .str _ => []

def elemFloats : List Js → List String
  | [] => []
  | v :: vs => v.floats ++ elemFloats vs

def fieldFloats : List (String × Js) → List String
  | [] => []
  | (_, v) :: fs => v.floats ++ fieldFloats fs

end

theorem elemFloats_eq (vs : List Js) : elemFloats vs = vs.flatMap floats := by
  induction vs with
  | nil => rfl
  | cons v vs ih => rw [elemFloats, ih, List.flatMap_cons]

/-- An array of values without floats has none. -/
theorem floats_arr_nil {α : Type} {f : α → Js} {l : List α} (h : ∀ x ∈ l, (f x).floats = []) :
    (Js.arr (l.map f)).floats = [] := by
  rw [floats, elemFloats_eq, List.flatMap_map, List.flatMap_eq_nil_iff]
  exact h

mutual

theorem isCanonical_iff_floats : ∀ v : Js, v.IsCanonical ↔ ∀ t ∈ v.floats, isFloatText t = true
  | .null | .bool _ | .int _ | .str _ => by simp [IsCanonical, floats]
  | .float t => by simp [IsCanonical, floats]
  | .arr vs => elemsCanonical_iff_floats vs
  | .obj fs => fieldsCanonical_iff_floats fs

theorem elemsCanonical_iff_floats : ∀ vs : List Js,
    ElemsCanonical vs ↔ ∀ t ∈ elemFloats vs, isFloatText t = true
  | [] => by simp [ElemsCanonical, elemFloats]
  | v :: vs => by
    rw [ElemsCanonical, elemFloats, isCanonical_iff_floats v, elemsCanonical_iff_floats vs,
      List.forall_mem_append]

theorem fieldsCanonical_iff_floats : ∀ fs : List (String × Js),
    FieldsCanonical fs ↔ ∀ t ∈ fieldFloats fs, isFloatText t = true
  | [] => by simp [FieldsCanonical, fieldFloats]
  | (k, v) :: fs => by
    rw [FieldsCanonical, fieldFloats, isCanonical_iff_floats v, fieldsCanonical_iff_floats fs,
      List.forall_mem_append]

end

end Js

/-- `canonical_json_bytes`, of what `_canonical_value` returns; `allow_nan=False`. -/
def canonicalJsonBytes (value : Js) : Option ByteArray :=
  if value.floats.all Js.isFloatText then some value.canonicalJson.toUTF8 else none

theorem isCanonical_of_floats {v : Js} (h : v.floats = []) : v.IsCanonical := by
  rw [Js.isCanonical_iff_floats, h]
  exact fun _ ht => absurd ht List.not_mem_nil

theorem canonicalJsonBytes_of_canonical {v : Js} (h : v.IsCanonical) :
    canonicalJsonBytes v = some v.canonicalJson.toUTF8 :=
  if_pos (List.all_eq_true.2 ((Js.isCanonical_iff_floats v).1 h))

theorem canonicalJsonBytes_eq_iff {a b : Js} (ha : a.IsCanonical) (hb : b.IsCanonical) :
    canonicalJsonBytes a = canonicalJsonBytes b ↔ a.sorted = b.sorted := by
  rw [canonicalJsonBytes_of_canonical ha, canonicalJsonBytes_of_canonical hb, Option.some.injEq,
    String.toUTF8_eq_toByteArray, String.toUTF8_eq_toByteArray, String.toByteArray_inj]
  exact ⟨Js.canonicalJson_inj ha hb, Js.canonicalJson_of_sorted⟩

/-! ## Values up to the order of keys -/

namespace Js

/-- Objects with the same keys agree field by field. -/
theorem sorted_obj_iff {fs gs : List (String × Js)} (hkeys : fs.map Prod.fst = gs.map Prod.fst)
    (hnodup : (fs.map Prod.fst).Nodup) : (Js.obj fs).sorted = (Js.obj gs).sorted ↔
      fs.map (fun f => f.2.sorted) = gs.map fun g => g.2.sorted := by
  refine ⟨fun h => sorted_obj_inj h hkeys hnodup, fun h => ?_⟩
  have hzip (l : List (String × Js)) :
      (l.map fun f => (f.1, f.2.sorted)) = (l.map Prod.fst).zip (l.map fun f => f.2.sorted) := by
    rw [List.zip_map']
  rw [sorted, sorted, sortedFields_eq_map, sortedFields_eq_map, hzip fs, hzip gs, hkeys, h]

theorem sorted_arr_map_iff {α β : Type} {f : α → Js} {g : α → β}
    (h : ∀ x y, (f x).sorted = (f y).sorted ↔ g x = g y) {l l' : List α} :
    (Js.arr (l.map f)).sorted = (Js.arr (l'.map f)).sorted ↔ l.map g = l'.map g := by
  refine ⟨sorted_arr_map_inj fun x y => (h x y).1, fun hl => ?_⟩
  rw [sorted_arr, sorted_arr, Js.arr.injEq, List.map_map, List.map_map]
  exact map_inj_of (fun x y hxy => (h x y).2 hxy) hl

theorem sorted_strings_iff {l l' : List String} :
    (Js.arr (l.map Js.str)).sorted = (Js.arr (l'.map Js.str)).sorted ↔ l = l' := by
  rw [sorted_arr_map_iff (g := id) (by simp [sorted]), List.map_id, List.map_id]

end Js

/-! ## Values with their decimals as numbers -/

def RubricBand.numeric (b : RubricBand) : String × ℚ × ℚ × String :=
  (b.label, b.minScore.toRat, b.maxScore.toRat, b.description)

def RubricDimension.numeric (d : RubricDimension) :
    String × String × String × ℚ × List (String × ℚ × ℚ × String) × List String :=
  (d.id, d.name, d.description, d.maxScore.toRat, d.bands.map RubricBand.numeric,
    d.evidenceRequirements)

def RubricDeduction.numeric (d : RubricDeduction) : String × String × String × ℚ :=
  (d.id, d.name, d.description, d.points.toRat)

def StructuredRubric.numeric (r : StructuredRubric) :
    ℚ × ℚ × List (String × String × String × ℚ × List (String × ℚ × ℚ × String) × List String) ×
      List (String × String × String × ℚ) :=
  (r.totalScore.toRat, r.scoreStep.toRat, r.dimensions.map RubricDimension.numeric,
    r.deductions.map RubricDeduction.numeric)

def DimensionResult.numeric (d : DimensionResult) :
    String × ℚ × String × List EvidenceQuote × List String :=
  (d.dimensionId, d.score.toRat, d.reason, d.evidence, d.revisionSuggestions)

def GradeResult.numeric (r : GradeResult) :
    List (String × ℚ × String × List EvidenceQuote × List String) × List DeductionResult × String :=
  (r.dimensions.map DimensionResult.numeric, r.deductions, r.overallFeedback)

section

variable {κ : Type} (coordinate : String → κ)

def DocumentLocator.numeric : DocumentLocator → Nat ⊕ (Nat × Nat × Nat × Nat) ⊕ (Nat × Nat × List κ)
  | .docxParagraph p => .inl p
  | .docxTableParagraph t r c p => .inr (.inl (t, r, c, p))
  | .pdfTextBlock p b bbox => .inr (.inr (p, b, bbox.map coordinate))

/-- A document with its coordinates as `coordinate` compares them. -/
def ParsedDocument.numeric (d : ParsedDocument) :
    MediaType × Option Nat × Nat ×
      List (String × String × (Nat ⊕ (Nat × Nat × Nat × Nat) ⊕ (Nat × Nat × List κ))) :=
  (d.mediaType, d.pageCount, d.characterCount,
    d.blocks.map fun b => (b.blockId, b.text, b.locator.numeric coordinate))

def GradeRequest.numeric (r : GradeRequest) :
    (Uuid × String × String × Uuid × Nat × Uuid) ×
      (ℚ × ℚ × List (String × String × String × ℚ × List (String × ℚ × ℚ × String) × List String) ×
        List (String × String × String × ℚ)) ×
      (MediaType × Option Nat × Nat ×
        List (String × String × (Nat ⊕ (Nat × Nat × Nat × Nat) ⊕ (Nat × Nat × List κ)))) :=
  ((r.assignmentId, r.assignmentTitle, r.assignmentInstructions, r.rubricVersionId, r.rubricVersion,
    r.submissionId), r.rubric.numeric, r.document.numeric coordinate)

end

def ProviderTokenPriceTier.numeric (t : ProviderTokenPriceTier) : Option Nat × ℚ × ℚ × ℚ × ℚ :=
  (t.upToInputTokens, t.inputPerMillion.toRat, t.cacheReadPerMillion.toRat,
    t.cacheWritePerMillion.toRat, t.outputPerMillion.toRat)

def ProviderPricing.numeric (p : ProviderPricing) :
    String × String × List (Option Nat × ℚ × ℚ × ℚ × ℚ) :=
  (p.tariffVersion, p.currency, p.tiers.map ProviderTokenPriceTier.numeric)

/-- The capabilities without their prices, and the prices. -/
def ProviderModelCapabilities.numeric (c : ProviderModelCapabilities) :
    ProviderModelCapabilities × Option (String × String × List (Option Nat × ℚ × ℚ × ℚ × ℚ)) :=
  ({ c with pricing := none }, c.pricing.map ProviderPricing.numeric)

def GradingProviderSnapshot.numeric (s : GradingProviderSnapshot) :
    (ProviderType × String × ℚ × Nat × Nat) ×
      ProviderModelCapabilities × Option (String × String × List (Option Nat × ℚ × ℚ × ℚ × ℚ)) :=
  ((s.providerType, s.baseUrl, s.timeoutSeconds.toRat, s.maxConcurrency,
    s.modelProfile.gradingMaxOutputTokens), s.modelProfile.capabilities.numeric)

/-! ## One canonical value for equal numbers -/

theorem RubricBand.toJs_sorted_iff (a b : RubricBand) :
    a.toJs.sorted = b.toJs.sorted ↔ a.numeric = b.numeric := by
  unfold toJs
  refine Iff.trans (Js.sorted_obj_iff rfl (by simp)) ?_
  simp [numeric, Js.sorted, Decimal.canonical_eq_iff]

theorem RubricDimension.toJs_sorted_iff (a b : RubricDimension) :
    a.toJs.sorted = b.toJs.sorted ↔ a.numeric = b.numeric := by
  unfold toJs
  refine Iff.trans (Js.sorted_obj_iff rfl (by simp)) ?_
  simp only [List.map_cons, List.map_nil, List.cons.injEq, and_true,
    Js.sorted_arr_map_iff RubricBand.toJs_sorted_iff, Js.sorted_strings_iff]
  simp [numeric, Js.sorted, Decimal.canonical_eq_iff]

theorem RubricDeduction.toJs_sorted_iff (a b : RubricDeduction) :
    a.toJs.sorted = b.toJs.sorted ↔ a.numeric = b.numeric := by
  unfold toJs
  refine Iff.trans (Js.sorted_obj_iff rfl (by simp)) ?_
  simp [numeric, Js.sorted, Decimal.canonical_eq_iff]

theorem StructuredRubric.toJs_sorted_iff (a b : StructuredRubric) :
    a.toJs.sorted = b.toJs.sorted ↔ a.numeric = b.numeric := by
  unfold toJs
  refine Iff.trans (Js.sorted_obj_iff rfl (by simp)) ?_
  simp only [List.map_cons, List.map_nil, List.cons.injEq, and_true,
    Js.sorted_arr_map_iff RubricDimension.toJs_sorted_iff,
    Js.sorted_arr_map_iff RubricDeduction.toJs_sorted_iff]
  simp [numeric, Js.sorted, Decimal.canonical_eq_iff]

theorem DimensionResult.toJs_sorted_iff (a b : DimensionResult) :
    a.toJs.sorted = b.toJs.sorted ↔ a.numeric = b.numeric := by
  have hevidence : (Js.arr (a.evidence.map EvidenceQuote.toJs)).sorted =
      (Js.arr (b.evidence.map EvidenceQuote.toJs)).sorted ↔ a.evidence = b.evidence :=
    ⟨evidence_inj, fun h => by rw [h]⟩
  unfold toJs
  refine Iff.trans (Js.sorted_obj_iff rfl (by simp)) ?_
  simp only [List.map_cons, List.map_nil, List.cons.injEq, and_true, hevidence, Js.sorted_strings_iff]
  simp [numeric, Js.sorted, Decimal.canonical_eq_iff]

theorem GradeResult.toJs_sorted_iff (a b : GradeResult) :
    a.toJs.sorted = b.toJs.sorted ↔ a.numeric = b.numeric := by
  have hdeductions : (Js.arr (a.deductions.map DeductionResult.toJs)).sorted =
      (Js.arr (b.deductions.map DeductionResult.toJs)).sorted ↔ a.deductions = b.deductions := by
    have hiff (x y : DeductionResult) : x.toJs.sorted = y.toJs.sorted ↔ id x = id y :=
      ⟨DeductionResult.toJs_inj, fun h => by rw [show x = y from h]⟩
    rw [Js.sorted_arr_map_iff hiff, List.map_id, List.map_id]
  unfold toJs
  refine Iff.trans (Js.sorted_obj_iff rfl (by simp)) ?_
  simp only [List.map_cons, List.map_nil, List.cons.injEq, and_true, hdeductions,
    Js.sorted_arr_map_iff DimensionResult.toJs_sorted_iff]
  simp [numeric, Js.sorted]

theorem DocumentLocator.numeric_id_inj {l l' : DocumentLocator} (h : l.numeric id = l'.numeric id) :
    l = l' := by
  cases l <;> cases l' <;> simp [numeric] at h ⊢ <;> exact h

/-- A document has no decimals, and its text tells it. -/
theorem ParsedDocument.toJs_sorted_iff {a b : ParsedDocument} (ha : a.accepts = true)
    (hb : b.accepts = true) :
    a.toJs.sorted = b.toJs.sorted ↔ a.numeric id = b.numeric id := by
  constructor
  · intro h
    have hab : some a = some b := by
      rw [← ofJs_of_sorted ha rfl, ofJs_of_sorted hb h]
    rw [Option.some.inj hab]
  · intro h
    simp only [numeric, Prod.mk.injEq] at h
    obtain ⟨hmedia, hpages, hcount, hblocks⟩ := h
    have hids : a.blocks.map id = b.blocks.map id := by
      refine map_inj_of (fun x y hxy => ?_) hblocks
      simp only [Prod.mk.injEq] at hxy
      obtain ⟨hid, htext, hlocator⟩ := hxy
      obtain ⟨_, _, _⟩ := x
      obtain ⟨_, _, _⟩ := y
      have hlocator := DocumentLocator.numeric_id_inj hlocator
      simp_all
    rw [List.map_id, List.map_id] at hids
    obtain ⟨_, _, _, _⟩ := a
    obtain ⟨_, _, _, _⟩ := b
    simp_all

theorem GradeRequest.toJs_sorted_iff {a b : GradeRequest} (ha : a.document.accepts = true)
    (hb : b.document.accepts = true) :
    a.toJs.sorted = b.toJs.sorted ↔ a.numeric id = b.numeric id := by
  have huuid (u v : Uuid) : uuidText u = uuidText v ↔ u = v := ⟨uuidText_inj, fun h => by rw [h]⟩
  unfold toJs
  refine Iff.trans (Js.sorted_obj_iff rfl (by simp)) ?_
  simp only [List.map_cons, List.map_nil, List.cons.injEq, and_true,
    StructuredRubric.toJs_sorted_iff, ParsedDocument.toJs_sorted_iff ha hb]
  simp only [numeric, Js.sorted, Js.str.injEq, Js.int.injEq, huuid, Nat.cast_inj, Prod.mk.injEq,
    true_and]
  constructor
  · rintro ⟨hassignment, htitle, hinstructions, hrubricId, hversion, hrubric, hsubmission, hdocument⟩
    exact ⟨⟨hassignment, htitle, hinstructions, hrubricId, hversion, hsubmission⟩, hrubric, hdocument⟩
  · rintro ⟨⟨hassignment, htitle, hinstructions, hrubricId, hversion, hsubmission⟩, hrubric, hdocument⟩
    exact ⟨hassignment, htitle, hinstructions, hrubricId, hversion, hrubric, hsubmission, hdocument⟩

theorem optionNatJs_sorted_iff {m n : Option Nat} :
    (optionNatJs m).sorted = (optionNatJs n).sorted ↔ m = n := by
  cases m <;> cases n <;> simp [optionNatJs, Js.sorted]

theorem ProviderPricing.toJs_sorted_iff (a b : ProviderPricing) :
    a.toJs.sorted = b.toJs.sorted ↔ a.numeric = b.numeric := by
  unfold toJs
  refine Iff.trans (Js.sorted_obj_iff rfl (by simp)) ?_
  simp only [List.map_cons, List.map_nil, List.cons.injEq, and_true]
  rw [Js.sorted_arr_map_iff (g := ProviderTokenPriceTier.numeric)]
  · simp [numeric, Js.sorted]
  · intro s t
    refine Iff.trans (Js.sorted_obj_iff rfl (by simp)) ?_
    simp only [List.map_cons, List.map_nil, List.cons.injEq, and_true, optionNatJs_sorted_iff]
    simp [ProviderTokenPriceTier.numeric, Js.sorted, Decimal.canonical_eq_iff]

theorem pricing_sorted_iff (a b : Option ProviderPricing) :
    (match a with | none => Js.null | some p => p.toJs).sorted =
        (match b with | none => Js.null | some p => p.toJs).sorted ↔
      a.map ProviderPricing.numeric = b.map ProviderPricing.numeric := by
  cases a with
  | none => cases b <;> simp [Js.sorted, ProviderPricing.toJs]
  | some p =>
    cases b with
    | none => simp [Js.sorted, ProviderPricing.toJs]
    | some q => simp [ProviderPricing.toJs_sorted_iff]

theorem ProviderModelCapabilities.toJs_sorted_iff (a b : ProviderModelCapabilities) :
    a.toJs.sorted = b.toJs.sorted ↔ a.numeric = b.numeric := by
  unfold toJs
  refine Iff.trans (Js.sorted_obj_iff rfl (by simp)) ?_
  simp only [List.map_cons, List.map_nil, List.cons.injEq, and_true]
  simp only [numeric, Js.sorted, Js.str.injEq, Js.int.injEq, Js.bool.injEq, Nat.cast_inj,
    Prod.mk.injEq, ProviderModelCapabilities.mk.injEq, and_assoc, true_and]
  simp only [and_congr_right_iff]
  intros
  exact pricing_sorted_iff a.pricing b.pricing

theorem GradingProviderSnapshot.toJs_sorted_iff (a b : GradingProviderSnapshot) :
    a.toJs.sorted = b.toJs.sorted ↔ a.numeric = b.numeric := by
  have htype : a.providerType.text = b.providerType.text ↔ a.providerType = b.providerType := by
    refine ⟨fun h => ?_, fun h => by rw [h]⟩
    rw [← Option.some_inj, ← ProviderType.ofText_text, ← ProviderType.ofText_text, h]
  have hprofile : (Js.obj [("capabilities", a.modelProfile.capabilities.toJs),
      ("grading_max_output_tokens", .int a.modelProfile.gradingMaxOutputTokens)]).sorted =
      (Js.obj [("capabilities", b.modelProfile.capabilities.toJs),
        ("grading_max_output_tokens", .int b.modelProfile.gradingMaxOutputTokens)]).sorted ↔
      a.modelProfile.capabilities.numeric = b.modelProfile.capabilities.numeric ∧
        a.modelProfile.gradingMaxOutputTokens = b.modelProfile.gradingMaxOutputTokens := by
    refine Iff.trans (Js.sorted_obj_iff rfl (by simp)) ?_
    simp [ProviderModelCapabilities.toJs_sorted_iff, Js.sorted]
  unfold toJs
  refine Iff.trans (Js.sorted_obj_iff rfl (by simp)) ?_
  simp only [List.map_cons, List.map_nil, List.cons.injEq, and_true, hprofile]
  simp only [numeric, Js.sorted, Js.str.injEq, Js.int.injEq, htype, Decimal.canonical_eq_iff,
    Nat.cast_inj, Prod.mk.injEq]
  constructor
  · rintro ⟨htype, hurl, htimeout, hconcurrency, hcapabilities, htokens⟩
    exact ⟨⟨htype, hurl, htimeout, hconcurrency, htokens⟩, hcapabilities⟩
  · rintro ⟨⟨htype, hurl, htimeout, hconcurrency, htokens⟩, hcapabilities⟩
    exact ⟨htype, hurl, htimeout, hconcurrency, hcapabilities, htokens⟩

/-! ## Floats of a contract value -/

def DocumentLocator.finite : DocumentLocator → Bool
  | .pdfTextBlock _ _ bbox => bbox.all Js.isFloatText
  | .docxParagraph _ | .docxTableParagraph _ _ _ _ => true

/-- Every coordinate of the document is a finite number. -/
def ParsedDocument.finite (d : ParsedDocument) : Bool := d.blocks.all (·.locator.finite)

theorem RubricDimension.floats_toJs (d : RubricDimension) : d.toJs.floats = [] := by
  have hbands : (Js.arr (d.bands.map RubricBand.toJs)).floats = [] := Js.floats_arr_nil fun _ _ => rfl
  have hstrings : (Js.arr (d.evidenceRequirements.map Js.str)).floats = [] :=
    Js.floats_arr_nil fun _ _ => rfl
  simp only [Js.floats] at hbands hstrings
  simp [toJs, Js.floats, Js.fieldFloats, hbands, hstrings]

theorem StructuredRubric.floats_toJs (r : StructuredRubric) : r.toJs.floats = [] := by
  have hdimensions : (Js.arr (r.dimensions.map RubricDimension.toJs)).floats = [] :=
    Js.floats_arr_nil fun d _ => d.floats_toJs
  have hdeductions : (Js.arr (r.deductions.map RubricDeduction.toJs)).floats = [] :=
    Js.floats_arr_nil fun _ _ => rfl
  simp only [Js.floats] at hdimensions hdeductions
  simp [toJs, Js.floats, Js.fieldFloats, hdimensions, hdeductions]

theorem optionNatJs_floats (n : Option Nat) : (optionNatJs n).floats = [] := by
  cases n <;> rfl

theorem ProviderPricing.floats_toJs (p : ProviderPricing) : p.toJs.floats = [] := by
  have htiers : (Js.arr (p.tiers.map fun t =>
      .obj [("up_to_input_tokens", optionNatJs t.upToInputTokens),
        ("input_per_million", .str t.inputPerMillion.canonical),
        ("cache_read_per_million", .str t.cacheReadPerMillion.canonical),
        ("cache_write_per_million", .str t.cacheWritePerMillion.canonical),
        ("output_per_million", .str t.outputPerMillion.canonical)])).floats = [] :=
    Js.floats_arr_nil fun t _ => by simp [Js.floats, Js.fieldFloats, optionNatJs_floats]
  simp only [Js.floats] at htiers
  simp [toJs, Js.floats, Js.fieldFloats, htiers]

theorem GradingProviderSnapshot.floats_toJs (s : GradingProviderSnapshot) : s.toJs.floats = [] := by
  have hcapabilities : s.modelProfile.capabilities.toJs.floats = [] := by
    unfold ProviderModelCapabilities.toJs
    cases s.modelProfile.capabilities.pricing with
    | none => rfl
    | some p => simp [Js.floats, Js.fieldFloats, p.floats_toJs]
  simp [toJs, Js.floats, Js.fieldFloats, hcapabilities]

theorem DocumentLocator.isCanonical_toJs_iff (l : DocumentLocator) :
    l.toJs.IsCanonical ↔ l.finite = true := by
  cases l with
  | docxParagraph => simp [toJs, finite, Js.IsCanonical, Js.FieldsCanonical]
  | docxTableParagraph => simp [toJs, finite, Js.IsCanonical, Js.FieldsCanonical]
  | pdfTextBlock =>
    simp [toJs, finite, Js.IsCanonical, Js.FieldsCanonical, Js.elemsCanonical_iff]

theorem ParsedDocument.isCanonical_toJs_iff (d : ParsedDocument) :
    d.toJs.IsCanonical ↔ d.finite = true := by
  have hpages : (optionNatJs d.pageCount).IsCanonical := by
    cases d.pageCount <;> trivial
  simp [toJs, finite, Js.IsCanonical, Js.FieldsCanonical, Js.elemsCanonical_iff,
    DocumentLocator.isCanonical_toJs_iff]
  exact fun _ => hpages

/-- A request has its bytes as long as its coordinates are finite. -/
theorem GradeRequest.isCanonical_toJs_iff (r : GradeRequest) :
    r.toJs.IsCanonical ↔ r.document.finite = true := by
  simp [toJs, Js.IsCanonical, Js.FieldsCanonical, ParsedDocument.isCanonical_toJs_iff,
    isCanonical_of_floats r.rubric.floats_toJs]

theorem GradeRequest.canonicalJsonBytes_isSome (r : GradeRequest) :
    (canonicalJsonBytes r.toJs).isSome = r.document.finite := by
  rw [Bool.eq_iff_iff, ← isCanonical_toJs_iff, Js.isCanonical_iff_floats]
  unfold canonicalJsonBytes
  split
  next h => simpa using List.all_eq_true.1 h
  next h => simpa using h

/-! ## Main result -/

/-- The canonical bytes of a contract model: they exist, two values share them exactly if they are
one value with its decimals as numbers, and the value that its dump validates to has them. -/
structure StableBytes {α κ : Type} (accepts : α → Prop) (value dump : α → Js)
    (modelValidate : Js → Option α) (numeric : α → κ) : Prop where
  encodes : ∀ a, accepts a → ∃ bytes, canonicalJsonBytes (value a) = some bytes
  bytes_iff : ∀ a b, accepts a → accepts b →
    (canonicalJsonBytes (value a) = canonicalJsonBytes (value b) ↔ numeric a = numeric b)
  readBack : ∀ a, accepts a → ∀ raw : Js, raw.sorted = (dump a).sorted →
    ∃ a', modelValidate raw = some a' ∧ accepts a' ∧
      canonicalJsonBytes (value a') = canonicalJsonBytes (value a)

theorem stableBytes_of {α κ : Type} {accepts : α → Prop} {value dump : α → Js}
    {modelValidate : Js → Option α} {numeric : α → κ}
    (hcanonical : ∀ a, accepts a → (value a).IsCanonical)
    (hsorted : ∀ a b, accepts a → accepts b →
      ((value a).sorted = (value b).sorted ↔ numeric a = numeric b))
    (hread : ∀ a, accepts a → ∀ raw : Js, raw.sorted = (dump a).sorted → modelValidate raw = some a) :
    StableBytes accepts value dump modelValidate numeric where
  encodes a ha := ⟨_, canonicalJsonBytes_of_canonical (hcanonical a ha)⟩
  bytes_iff a b ha hb :=
    (canonicalJsonBytes_eq_iff (hcanonical a ha) (hcanonical b hb)).trans (hsorted a b ha hb)
  readBack a ha raw hraw := ⟨a, hread a ha raw hraw, ha, rfl⟩

/-- A request that pydantic accepts, with finite coordinates. -/
def GradeRequest.Encodable (env : Runtime) (r : GradeRequest) : Prop :=
  r.accepts env = true ∧ r.document.accepts = true ∧ r.document.finite = true

/-- The canonical bytes of the four contract models, and the hash of a provider snapshot. -/
structure ContractsStable (env : Runtime) (asciiDigit : Char → Char) : Prop where
  request : StableBytes (GradeRequest.Encodable env) GradeRequest.toJs GradeRequest.dump
    (GradeRequest.modelValidate env asciiDigit) (GradeRequest.numeric id)
  /-- no other request has bytes -/
  finite : ∀ r : GradeRequest, (canonicalJsonBytes r.toJs).isSome = r.document.finite
  result : StableBytes (fun r : GradeResult => r.accepts env = true) GradeResult.toJs
    GradeResult.dump (GradeResult.modelValidate env asciiDigit) GradeResult.numeric
  rubric : StableBytes (fun r : StructuredRubric => r.accepts env = true) StructuredRubric.toJs
    StructuredRubric.dump (StructuredRubric.modelValidate env asciiDigit) StructuredRubric.numeric
  snapshot : StableBytes (fun s : GradingProviderSnapshot => s.acceptsAll = true)
    GradingProviderSnapshot.toJs GradingProviderSnapshot.dump
    (GradingProviderSnapshot.modelValidate env asciiDigit) GradingProviderSnapshot.numeric
  snapshotHash : ∀ s : GradingProviderSnapshot, s.acceptsAll = true → ∀ raw : Js,
    raw.sorted = s.dump.sorted →
    (GradingProviderSnapshot.modelValidate env asciiDigit raw).map (·.snapshotHash env) =
      some (s.snapshotHash env)

namespace Sample

theorem runtime_readsAscii : ReadsAscii sampleRuntime id where
  noSpace c hc := by
    refine Bool.eq_false_iff.2 fun hspace => ?_
    rw [beq_iff_eq.1 hspace] at hc
    exact absurd hc (by decide)
  digit _ _ := rfl

/-- One line of a PDF, at the left edge of the page. -/
def edgeRequest (x0 : String) : GradeRequest :=
  { essayRequest rubric with
    document := ⟨.pdf, some 1, 8, [⟨"b000001", "An essay", .pdfTextBlock 1 1 [x0, "0.0", "9.5", "9.5"]⟩]⟩ }

/-- The number that the `repr` of a float spells. -/
def floatValue (t : String) : Option ℚ := (numericText t).map (·.1.toRat)

end Sample

end PaperGrading
