import PaperGrading.Domain.CanonicalDecimals
import PaperGrading.Domain.StrictReads
import PaperGrading.Grading.Response
import PaperGrading.Parsing.Blocks
import PaperGrading.Providers.Pricing
import PaperGrading.Rubrics.Content

/-!
# Contract values that come back from storage

`model_dump(mode="json")` of a contract value and `model_validate` of what comes back, for the
models whose canonical hash is stored: `GradeRequest`, `GradeResult`, `StructuredRubric` and
`GradingProviderSnapshot`.

    r.accepts env → raw.sorted = r.dump.sorted → modelValidate raw = some r
-/

namespace PaperGrading

/-! ## Fields -/

/-- A `Decimal` field: a text, an integer, or the `str` of a float. -/
def laxDecimal (env : Runtime) (asciiDigit : Char → Char) (fields : List (String × Js)) (key : String) :
    Option Decimal :=
  match Js.get? fields key with
  | some (.str s) => Decimal.ofText env asciiDigit s
  | some (.int n) => some ⟨decide (n < 0), n.natAbs, 0⟩
  | some (.float t) => Decimal.ofText env asciiDigit t
  | _ => none

/-- A text that a validator strips before the checks. -/
def strippedField (env : Runtime) (fields : List (String × Js)) (key : String) : Option String :=
  (strictText fields key).map env.strip

/-- `int | None`, with `gt=0` and the default `None`. -/
def optionalPositive (fields : List (String × Js)) (key : String) : Option (Option Nat) :=
  match Js.get? fields key with
  | none | some .null => some none
  | some (.int n) => if 1 ≤ n then some (some n.toNat) else none
  | _ => none

/-- `Literal[1]` -/
def literalOne (fields : List (String × Js)) (key : String) : Bool :=
  match Js.get? fields key with
  | some (.int n) => n == 1
  | _ => false

/-! ## Identifiers -/

def hexValue (c : Char) : Option Nat :=
  if c.isDigit then some (c.toNat - 48)
  else if 'a' ≤ c ∧ c ≤ 'f' then some (c.toNat - 87)
  else if 'A' ≤ c ∧ c ≤ 'F' then some (c.toNat - 55)
  else none

/-- The digits of an identifier, in groups or without hyphens. -/
def uuidDigits (l : List Char) : Option (List Char) :=
  if l.length = 36 ∧ l[8]? = some '-' ∧ l[13]? = some '-' ∧ l[18]? = some '-' ∧ l[23]? = some '-' then
    some (l.take 8 ++ (l.drop 9).take 4 ++ (l.drop 14).take 4 ++ (l.drop 19).take 4 ++ l.drop 24)
  else if l.length = 32 then some l
  else none

def uuidOfText (s : String) : Option Uuid := do
  let digits ← uuidDigits s.toList
  let values ← digits.mapM hexValue
  return BitVec.ofNat 128 (values.foldl (fun n d => 16 * n + d) 0)

theorem hexValue_digitChar : ∀ k < 16, hexValue (Nat.digitChar k) = some k := by decide

theorem mapM_hexFixed (width n : Nat) : (hexFixed width n).mapM hexValue =
    some ((List.range width).reverse.map fun i => n / 16 ^ i % 16) := by
  unfold hexFixed
  generalize (List.range width).reverse = l
  induction l with
  | nil => rfl
  | cons i l ih =>
    rw [List.map_cons, List.mapM_cons, hexValue_digitChar _ (Nat.mod_lt _ (by decide)), ih]
    rfl

theorem foldl_hexDigits (width n m : Nat) :
    ((List.range width).reverse.map fun i => n / 16 ^ i % 16).foldl (fun n d => 16 * n + d) m =
      m * 16 ^ width + n % 16 ^ width := by
  induction width generalizing m with
  | zero => simp [Nat.mod_one]
  | succ width ih =>
    rw [List.range_succ, List.reverse_append, List.reverse_singleton, List.singleton_append,
      List.map_cons, List.foldl_cons, ih, Nat.mod_pow_succ, pow_succ]
    ring

theorem uuidDigits_groups {a b c d e : List Char} (ha : a.length = 8) (hb : b.length = 4)
    (hc : c.length = 4) (hd : d.length = 4) (he : e.length = 12) :
    uuidDigits (a ++ '-' :: b ++ '-' :: c ++ '-' :: d ++ '-' :: e) = some (a ++ b ++ c ++ d ++ e) := by
  have hdrop {l : List Char} {n : Nat} (h : l.length ≤ n) : l.drop n = [] := List.drop_eq_nil_iff.2 h
  unfold uuidDigits
  rw [if_pos (by simp [ha, hb, hc, hd, he])]
  simp [List.drop_append, ha, hb, hc, hd, hdrop (l := a), hdrop (l := b),
    hdrop (l := c), hdrop (l := d)]

theorem uuidOfText_uuidText (u : Uuid) : uuidOfText (uuidText u) = some u := by
  have hlength := length_hexFixed 32 u.toNat
  have hdigits : uuidDigits (uuidText u).toList = some (hexFixed 32 u.toNat) := by
    unfold uuidText
    rw [String.toList_ofList, uuidDigits_groups (by simp [hlength]) (by simp [hlength])
      (by simp [hlength]) (by simp [hlength]) (by simp [hlength])]
    generalize hexFixed 32 u.toNat = l
    rw [show l.drop 12 = (l.drop 8).drop 4 by rw [List.drop_drop],
      show l.drop 16 = ((l.drop 8).drop 4).drop 4 by rw [List.drop_drop, List.drop_drop],
      show l.drop 20 = (((l.drop 8).drop 4).drop 4).drop 4 by
        rw [List.drop_drop, List.drop_drop, List.drop_drop]]
    simp only [List.append_assoc, List.take_append_drop]
  have hvalue : u.toNat % 16 ^ 32 = u.toNat := Nat.mod_eq_of_lt u.isLt
  unfold uuidOfText
  simp only [hdigits, mapM_hexFixed, foldl_hexDigits, hvalue, Option.bind_eq_bind, Option.bind_some,
    Nat.zero_mul, Nat.zero_add]
  exact congrArg some (BitVec.ofNat_toNat 128 u)

/-! ## Rubrics -/

section

variable (env : Runtime) (asciiDigit : Char → Char)

def RubricBand.parse (raw : Js) : Option RubricBand := do
  let fields ← strictObject ["label", "min_score", "max_score", "description"] [] raw
  return {
    label := ← strippedField env fields "label"
    minScore := ← laxDecimal env asciiDigit fields "min_score"
    maxScore := ← laxDecimal env asciiDigit fields "max_score"
    description := ← strippedField env fields "description" }

def RubricDimension.parse (raw : Js) : Option RubricDimension := do
  let fields ← strictObject
    ["id", "name", "description", "max_score", "bands", "evidence_requirements"] [] raw
  let requirements ← strictTuple strictString fields "evidence_requirements"
  return {
    id := ← strictText fields "id"
    name := ← strippedField env fields "name"
    description := ← strippedField env fields "description"
    maxScore := ← laxDecimal env asciiDigit fields "max_score"
    bands := ← strictTuple (RubricBand.parse env asciiDigit) fields "bands"
    evidenceRequirements := requirements.map env.joinWords }

def RubricDeduction.parse (raw : Js) : Option RubricDeduction := do
  let fields ← strictObject ["id", "name", "description", "points"] [] raw
  return {
    id := ← strictText fields "id"
    name := ← strippedField env fields "name"
    description := ← strippedField env fields "description"
    points := ← laxDecimal env asciiDigit fields "points" }

def StructuredRubric.parse (raw : Js) : Option StructuredRubric := do
  let fields ← strictObject ["schema_version", "total_score", "score_step", "dimensions"]
    ["deductions"] raw
  guard (literalOne fields "schema_version")
  return {
    totalScore := ← laxDecimal env asciiDigit fields "total_score"
    scoreStep := ← laxDecimal env asciiDigit fields "score_step"
    dimensions := ← strictTuple (RubricDimension.parse env asciiDigit) fields "dimensions"
    deductions := ← strictTuple (RubricDeduction.parse env asciiDigit) fields "deductions" }

/-- `StructuredRubric.model_validate` -/
def StructuredRubric.modelValidate (raw : Js) : Option StructuredRubric := do
  let r ← StructuredRubric.parse env asciiDigit raw
  guard (r.accepts env)
  return r

end

/-! ## Results -/

def DimensionResult.dump (d : DimensionResult) : Js :=
  .obj [("dimension_id", .str d.dimensionId), ("score", .str d.score.str), ("reason", .str d.reason),
    ("evidence", .arr (d.evidence.map EvidenceQuote.toJs)),
    ("revision_suggestions", .arr (d.revisionSuggestions.map Js.str))]

/-- `GradeResult.model_dump(mode="json")`; only the scores are decimals. -/
def GradeResult.dump (r : GradeResult) : Js :=
  .obj [("schema_version", .str gradeResultSchemaVersion),
    ("dimensions", .arr (r.dimensions.map DimensionResult.dump)),
    ("deductions", .arr (r.deductions.map DeductionResult.toJs)),
    ("overall_feedback", .str r.overallFeedback)]

/-- `GradeResult.model_validate` -/
def GradeResult.modelValidate (env : Runtime) (asciiDigit : Char → Char) (raw : Js) :
    Option GradeResult := do
  let r ← GradeResult.parse env asciiDigit raw
  guard (r.accepts env)
  return r

/-! ## Requests -/

/-- `GradeRequest.model_dump(mode="json")`; a document has no decimals. -/
def GradeRequest.dump (r : GradeRequest) : Js :=
  .obj [("schema_version", .str gradeRequestVersion),
    ("assignment_id", .str (uuidText r.assignmentId)), ("assignment_title", .str r.assignmentTitle),
    ("assignment_instructions", .str r.assignmentInstructions),
    ("rubric_version_id", .str (uuidText r.rubricVersionId)),
    ("rubric_version", .int r.rubricVersion), ("rubric", r.rubric.dump),
    ("submission_id", .str (uuidText r.submissionId)), ("document", r.document.toJs),
    ("feedback_language", .str "en")]

/-- `GradeRequest.model_validate` -/
def GradeRequest.modelValidate (env : Runtime) (asciiDigit : Char → Char) (raw : Js) :
    Option GradeRequest := do
  let fields ← strictObject ["assignment_id", "assignment_title", "assignment_instructions",
    "rubric_version_id", "rubric_version", "rubric", "submission_id", "document"]
    ["schema_version", "feedback_language"] raw
  guard (literalOrMissing fields "schema_version" gradeRequestVersion)
  guard (literalOrMissing fields "feedback_language" "en")
  let r : GradeRequest := {
    assignmentId := ← (strictText fields "assignment_id").bind uuidOfText
    assignmentTitle := ← strippedField env fields "assignment_title"
    assignmentInstructions := ← strippedField env fields "assignment_instructions"
    rubricVersionId := ← (strictText fields "rubric_version_id").bind uuidOfText
    rubricVersion := ← strictPositive fields "rubric_version"
    rubric := ← (Js.get? fields "rubric").bind (StructuredRubric.modelValidate env asciiDigit)
    submissionId := ← (strictText fields "submission_id").bind uuidOfText
    document := ← (Js.get? fields "document").bind ParsedDocument.ofJs }
  guard (r.accepts env)
  return r

/-! ## Provider snapshots -/

namespace ProviderModelCapabilities

def accepts (c : ProviderModelCapabilities) : Bool :=
  lengthBetween 1 100 c.capabilityVersion.length && lengthBetween 1 255 c.model.length &&
    decide (0 < c.contextWindowTokens) && decide (0 < c.maxOutputTokens) &&
    ["json_schema", "json_object"].contains c.structuredOutput &&
    ["canonical", "openai", "anthropic", "gemini"].contains c.schemaDialect &&
    ["temperature_zero", "temperature_fixed_0_6", "do_sample_false", "omit"].contains
      c.samplingPolicy &&
    ["disabled", "enabled", "omit"].contains c.thinkingPolicy &&
    ["max_tokens", "max_completion_tokens", "max_output_tokens"].contains c.outputTokenParameter &&
    c.pricing.all (·.accepts)

end ProviderModelCapabilities

def ProviderModelProfile.accepts (p : ProviderModelProfile) : Bool :=
  p.capabilities.accepts && lengthBetween 1 1000000 p.gradingMaxOutputTokens &&
    decide (p.gradingMaxOutputTokens ≤ p.capabilities.maxOutputTokens)

/-- `GradingProviderSnapshot` with the models inside it. -/
def GradingProviderSnapshot.acceptsAll (s : GradingProviderSnapshot) : Bool :=
  s.accepts && s.modelProfile.accepts

def ProviderTokenPriceTier.dump (t : ProviderTokenPriceTier) : Js :=
  .obj [("up_to_input_tokens", optionNatJs t.upToInputTokens),
    ("input_per_million", .str t.inputPerMillion.str),
    ("cache_read_per_million", .str t.cacheReadPerMillion.str),
    ("cache_write_per_million", .str t.cacheWritePerMillion.str),
    ("output_per_million", .str t.outputPerMillion.str)]

def ProviderPricing.dump (p : ProviderPricing) : Js :=
  .obj [("tariff_version", .str p.tariffVersion), ("currency", .str p.currency),
    ("tiers", .arr (p.tiers.map ProviderTokenPriceTier.dump))]

def pricingJs (dump : ProviderPricing → Js) : Option ProviderPricing → Js
  | none => .null
  | some p => dump p

def ProviderModelCapabilities.dump (c : ProviderModelCapabilities) : Js :=
  .obj [("capability_version", .str c.capabilityVersion), ("model", .str c.model),
    ("context_window_tokens", .int c.contextWindowTokens),
    ("max_output_tokens", .int c.maxOutputTokens),
    ("structured_output", .str c.structuredOutput), ("schema_dialect", .str c.schemaDialect),
    ("sampling_policy", .str c.samplingPolicy), ("thinking_policy", .str c.thinkingPolicy),
    ("output_token_parameter", .str c.outputTokenParameter),
    ("supports_model_listing", .bool c.supportsModelListing),
    ("pricing", pricingJs ProviderPricing.dump c.pricing)]

def ProviderModelProfile.dump (p : ProviderModelProfile) : Js :=
  .obj [("capabilities", p.capabilities.dump),
    ("grading_max_output_tokens", .int p.gradingMaxOutputTokens)]

/-- `GradingProviderSnapshot.model_dump(mode="json")` -/
def GradingProviderSnapshot.dump (s : GradingProviderSnapshot) : Js :=
  .obj [("provider_type", .str s.providerType.text), ("base_url", .str s.baseUrl),
    ("timeout_seconds", .str s.timeoutSeconds.str), ("max_concurrency", .int s.maxConcurrency),
    ("model_profile", s.modelProfile.dump)]

def ProviderType.ofText (text : String) : Option ProviderType :=
  [.deepseek, .kimi, .glm, .openai, .anthropic, .gemini, .openaiCompatible].find?
    fun t : ProviderType => t.text == text

theorem ProviderType.ofText_text (t : ProviderType) : ofText t.text = some t := by
  cases t <;> decide

section

variable (env : Runtime) (asciiDigit : Char → Char)

def ProviderTokenPriceTier.parse (raw : Js) : Option ProviderTokenPriceTier := do
  let fields ← strictObject ["input_per_million", "cache_read_per_million", "cache_write_per_million",
    "output_per_million"] ["up_to_input_tokens"] raw
  return {
    upToInputTokens := ← optionalPositive fields "up_to_input_tokens"
    inputPerMillion := ← laxDecimal env asciiDigit fields "input_per_million"
    cacheReadPerMillion := ← laxDecimal env asciiDigit fields "cache_read_per_million"
    cacheWritePerMillion := ← laxDecimal env asciiDigit fields "cache_write_per_million"
    outputPerMillion := ← laxDecimal env asciiDigit fields "output_per_million" }

def ProviderPricing.parse (raw : Js) : Option ProviderPricing := do
  let fields ← strictObject ["tariff_version", "currency", "tiers"] [] raw
  return {
    tariffVersion := ← strictText fields "tariff_version"
    currency := ← strictText fields "currency"
    tiers := ← strictTuple (ProviderTokenPriceTier.parse env asciiDigit) fields "tiers" }

/-- `ProviderPricing | None = None` -/
def optionalPricing (fields : List (String × Js)) (key : String) : Option (Option ProviderPricing) :=
  match Js.get? fields key with
  | none | some .null => some none
  | some raw => (ProviderPricing.parse env asciiDigit raw).map some

def ProviderModelCapabilities.parse (raw : Js) : Option ProviderModelCapabilities := do
  let fields ← strictObject ["capability_version", "model", "context_window_tokens",
    "max_output_tokens", "structured_output", "schema_dialect", "sampling_policy", "thinking_policy",
    "output_token_parameter", "supports_model_listing"] ["pricing"] raw
  return {
    capabilityVersion := ← strictText fields "capability_version"
    model := ← strictText fields "model"
    contextWindowTokens := ← strictPositive fields "context_window_tokens"
    maxOutputTokens := ← strictPositive fields "max_output_tokens"
    structuredOutput := ← strictText fields "structured_output"
    schemaDialect := ← strictText fields "schema_dialect"
    samplingPolicy := ← strictText fields "sampling_policy"
    thinkingPolicy := ← strictText fields "thinking_policy"
    outputTokenParameter := ← strictText fields "output_token_parameter"
    supportsModelListing := ← strictBool fields "supports_model_listing"
    pricing := ← optionalPricing env asciiDigit fields "pricing" }

def ProviderModelProfile.parse (raw : Js) : Option ProviderModelProfile := do
  let fields ← strictObject ["capabilities", "grading_max_output_tokens"] [] raw
  return {
    capabilities :=
      ← (Js.get? fields "capabilities").bind (ProviderModelCapabilities.parse env asciiDigit)
    gradingMaxOutputTokens := ← strictPositive fields "grading_max_output_tokens" }

/-- `GradingProviderSnapshot.model_validate` -/
def GradingProviderSnapshot.modelValidate (raw : Js) : Option GradingProviderSnapshot := do
  let fields ← strictObject ["provider_type", "base_url", "timeout_seconds", "max_concurrency",
    "model_profile"] [] raw
  let s : GradingProviderSnapshot := {
    providerType := ← (strictText fields "provider_type").bind ProviderType.ofText
    baseUrl := ← strictText fields "base_url"
    timeoutSeconds := ← laxDecimal env asciiDigit fields "timeout_seconds"
    maxConcurrency := ← strictPositive fields "max_concurrency"
    modelProfile := ← (Js.get? fields "model_profile").bind (ProviderModelProfile.parse env asciiDigit) }
  guard s.acceptsAll
  return s

end

/-! ## Reading decimals and texts back -/

/-- The characters of `str(Decimal)`. -/
def isDecimalChar (c : Char) : Bool := c.isDigit || c == '-' || c == '+' || c == '.' || c == 'E'

/-- None of them is a blank, and the digits among them are ASCII digits already. -/
structure ReadsAscii (env : Runtime) (asciiDigit : Char → Char) : Prop where
  noSpace : ∀ c, isDecimalChar c = true → env.isSpace c = false
  digit : ∀ c, isDecimalChar c = true → asciiDigit c = c

theorem isDecimalChar_str (d : Decimal) : ∀ c ∈ d.str.toList, isDecimalChar c = true := by
  obtain ⟨hip, hfp, -⟩ := d.strParts_spec
  have hdigit {c : Char} (hc : c.isDigit = true) : isDecimalChar c = true := by
    simp [isDecimalChar, hc]
  have hint {n : Int} {c : Char} (hc : c ∈ (toString n).toList) : isDecimalChar c = true := by
    rcases Js.mem_intText hc with hc | rfl
    · exact hdigit hc
    · rfl
  have hexponent : ∀ c ∈ Decimal.strExponent d.writtenExponent, isDecimalChar c = true := by
    unfold Decimal.strExponent
    split
    · simp
    · split
      · simp only [List.mem_cons]
        rintro c (rfl | rfl | hc)
        · rfl
        · rfl
        · exact hint hc
      · simp only [List.mem_cons]
        rintro c (rfl | hc)
        · rfl
        · exact hint hc
  intro c hc
  rw [Decimal.toList_str] at hc
  simp only [List.mem_append] at hc
  rcases hc with hc | (hc | hc) | hc
  · split at hc
    · rw [List.mem_singleton.1 hc]
      rfl
    · exact absurd hc List.not_mem_nil
  · exact hdigit (hip c hc)
  · split at hc
    · exact absurd hc List.not_mem_nil
    · rcases List.mem_cons.1 hc with rfl | hc
      · rfl
      · exact hdigit (hfp c hc)
  · exact hexponent c hc

section

variable {env : Runtime} {asciiDigit : Char → Char} (hascii : ReadsAscii env asciiDigit)
include hascii

theorem ofText_str (d : Decimal) : Decimal.ofText env asciiDigit d.str = some d := by
  have hchars := isDecimalChar_str d
  have hspace : ∀ l : List Char, (∀ c ∈ l, isDecimalChar c = true) → l.dropWhile env.isSpace = l := by
    intro l hl
    cases l with
    | nil => rfl
    | cons c l =>
      rw [List.dropWhile_cons_of_neg]
      simp [hascii.noSpace c (hl c List.mem_cons_self)]
  have hstrip : env.strip d.str = d.str := by
    apply String.toList_injective
    rw [toList_strip, hspace _ hchars, List.rdropWhile,
      hspace _ fun c hc => hchars c (List.mem_reverse.1 hc), List.reverse_reverse]
  have hfilter : d.str.toList.filter (· != '_') = d.str.toList := by
    refine List.filter_eq_self.2 fun c hc => ?_
    have := hchars c hc
    rw [bne_iff_ne]
    rintro rfl
    exact absurd this (by decide)
  have hmap : d.str.toList.map asciiDigit = d.str.toList := by
    conv_rhs => rw [← List.map_id d.str.toList]
    exact List.map_congr_left fun c hc => hascii.digit c (hchars c hc)
  unfold Decimal.ofText
  rw [hstrip, hfilter, hmap, String.ofList_toList, Decimal.numericText_str]
  rfl

theorem laxDecimal_eq {fs gs : List (String × Js)} (h : Reads fs gs) {k : String} {d : Decimal}
    (hm : (k, Js.str d.str) ∈ gs) : laxDecimal env asciiDigit fs k = some d := by
  obtain ⟨w, hw, hs⟩ := h.get? k _ hm
  rw [Js.eq_str_of_sorted hs] at hw
  simp [laxDecimal, hw, ofText_str hascii]

end

theorem strippedField_eq {env : Runtime} {fs gs : List (String × Js)} (h : Reads fs gs) {k s : String}
    (hm : (k, Js.str s) ∈ gs) {hi : Nat} (hs : strippedText env hi s = true) :
    strippedField env fs k = some s := by
  unfold strippedText at hs
  rw [Bool.and_eq_true, decide_eq_true_iff] at hs
  rw [strippedField, h.text hm, Option.map_some, hs.1]

/-! ## Results and documents that come back -/

theorem EvidenceQuote.parse_of_sorted {q : EvidenceQuote} {raw : Js}
    (hraw : raw.sorted = q.toJs.sorted) : EvidenceQuote.parse raw = some q := by
  obtain ⟨fs, rfl, hfs⟩ := reads_of_sorted hraw (by simp)
  have hid := hfs.text (k := "block_id") (s := q.blockId) (by simp)
  have hquote := hfs.text (k := "quote") (s := q.quote) (by simp)
  rw [parse, hfs.strictObject_eq (by simp) (by simp)]
  simp [hid, hquote]

theorem DeductionResult.parse_of_sorted {d : DeductionResult} {raw : Js}
    (hraw : raw.sorted = d.toJs.sorted) : DeductionResult.parse raw = some d := by
  obtain ⟨fs, rfl, hfs⟩ := reads_of_sorted hraw (by simp)
  have hid := hfs.text (k := "deduction_id") (s := d.deductionId) (by simp)
  have happlied := hfs.bool (k := "applied") (b := d.applied) (by simp)
  have hreason := hfs.text (k := "reason") (s := d.reason) (by simp)
  have hevidence := hfs.tuple (k := "evidence") (l := d.evidence) (by simp) fun q _ raw hraw =>
    EvidenceQuote.parse_of_sorted hraw
  rw [parse, hfs.strictObject_eq (by simp) (by simp)]
  simp [hid, happlied, hreason, hevidence]

theorem DocumentLocator.ofJs_of_sorted {l : DocumentLocator} (h : l.accepts = true) {raw : Js}
    (hraw : raw.sorted = l.toJs.sorted) : DocumentLocator.ofJs raw = some l := by
  cases l with
  | docxParagraph p =>
    obtain ⟨fs, rfl, hfs⟩ := reads_of_sorted hraw (by simp)
    simp only [accepts, decide_eq_true_iff] at h
    have hkind := hfs.text (k := "kind") (s := "docx_paragraph") (by simp)
    have hp := hfs.positive (k := "paragraph") (n := p) (by simp) h
    simp only [ofJs, hkind]
    rw [hfs.strictObject_eq (by simp) (by simp)]
    simp [hp]
  | docxTableParagraph t r c p =>
    obtain ⟨fs, rfl, hfs⟩ := reads_of_sorted hraw (by simp)
    simp only [accepts, Bool.and_eq_true, decide_eq_true_iff] at h
    have hkind := hfs.text (k := "kind") (s := "docx_table_paragraph") (by simp)
    have ht := hfs.positive (k := "table") (n := t) (by simp) h.1.1.1
    have hr := hfs.positive (k := "row") (n := r) (by simp) h.1.1.2
    have hc := hfs.positive (k := "column") (n := c) (by simp) h.1.2
    have hp := hfs.positive (k := "paragraph") (n := p) (by simp) h.2
    simp only [ofJs, hkind]
    rw [hfs.strictObject_eq (by simp) (by simp)]
    simp [ht, hr, hc, hp]
  | pdfTextBlock p b bbox =>
    obtain ⟨fs, rfl, hfs⟩ := reads_of_sorted hraw (by simp)
    simp only [accepts, Bool.and_eq_true, decide_eq_true_iff] at h
    have hkind := hfs.text (k := "kind") (s := "pdf_text_block") (by simp)
    have hp := hfs.positive (k := "page") (n := p) (by simp) h.1.1
    have hb := hfs.positive (k := "block") (n := b) (by simp) h.1.2
    have hmem : ("bbox", Js.arr (bbox.map Js.float)) ∈ [("kind", Js.str "pdf_text_block"),
      ("page", .int p), ("block", .int b), ("bbox", .arr (bbox.map Js.float))] := by simp
    have hbbox : strictTuple strictFloat fs "bbox" = some bbox :=
      hfs.tuple hmem fun t _ raw hraw => by rw [Js.eq_float_of_sorted hraw, strictFloat]
    simp only [ofJs, hkind]
    rw [hfs.strictObject_eq (by simp) (by simp)]
    simp [hp, hb, hbbox]

theorem DocumentBlock.ofJs_of_sorted {b : DocumentBlock} (h : b.accepts = true) {raw : Js}
    (hraw : raw.sorted = b.toJs.sorted) : DocumentBlock.ofJs raw = some b := by
  obtain ⟨fs, rfl, hfs⟩ := reads_of_sorted hraw (by simp)
  simp only [accepts, Bool.and_eq_true] at h
  have hid := hfs.text (k := "block_id") (s := b.blockId) (by simp)
  have htext := hfs.text (k := "text") (s := b.text) (by simp)
  have hlocator := hfs.nested (k := "locator") (by simp) fun raw hraw =>
    DocumentLocator.ofJs_of_sorted h.2 hraw
  rw [ofJs, hfs.strictObject_eq (by simp) (by simp)]
  simp [hid, htext, hlocator]

theorem ParsedDocument.pageCountOf_of_sorted {n : Option Nat} {raw : Js}
    (hraw : raw.sorted = (optionNatJs n).sorted) : pageCountOf raw = some n := by
  cases n with
  | none => rw [Js.eq_null_of_sorted hraw, pageCountOf]
  | some n =>
    rw [Js.eq_int_of_sorted hraw]
    simp [pageCountOf]

/-- **A stored document is read back in any key order.** -/
theorem ParsedDocument.ofJs_of_sorted {d : ParsedDocument} (h : d.accepts = true) {raw : Js}
    (hraw : raw.sorted = d.toJs.sorted) : ParsedDocument.ofJs raw = some d := by
  have hjs : d.toJs = .obj [("schema_version", .str schemaVersion),
      ("parser_version", .str parserVersion), ("media_type", .str d.mediaType.text),
      ("page_count", optionNatJs d.pageCount), ("character_count", .int d.characterCount),
      ("blocks", .arr (d.blocks.map DocumentBlock.toJs))] := by
    unfold toJs optionNatJs
    cases d.pageCount <;> rfl
  rw [hjs] at hraw
  obtain ⟨fs, rfl, hfs⟩ := reads_of_sorted hraw (by simp)
  have haccepts := h
  simp only [accepts, lengthBetween, Bool.and_eq_true, List.all_eq_true, decide_eq_true_iff] at h
  obtain ⟨⟨⟨⟨⟨⟨hcount, -⟩, -⟩, hblocks⟩, -⟩, -⟩, -⟩ := h
  have hschema := hfs.literal (k := "schema_version") (s := schemaVersion) (by simp)
  have hparser := hfs.literal (k := "parser_version") (s := parserVersion) (by simp)
  have hmedia := hfs.text (k := "media_type") (s := d.mediaType.text) (by simp)
  have hmediaType : mediaTypeOf d.mediaType.text = some d.mediaType := by
    cases d.mediaType <;> decide
  have hpages := hfs.nested (k := "page_count") (by simp) fun raw hraw =>
    pageCountOf_of_sorted (n := d.pageCount) hraw
  have hcount := hfs.positive (k := "character_count") (n := d.characterCount) (by simp) hcount
  have hblocks := hfs.tuple (k := "blocks") (by simp) fun b hb raw hraw =>
    DocumentBlock.ofJs_of_sorted (hblocks b hb) hraw
  rw [ofJs, hfs.strictObject_eq (by simp) (by simp)]
  simp [hschema, hparser, hmedia, hmediaType, hpages, hcount, hblocks, haccepts]

/-! ## Values that come back -/

section

variable {env : Runtime} {asciiDigit : Char → Char} (hascii : ReadsAscii env asciiDigit)

include hascii

theorem RubricBand.parse_of_sorted {b : RubricBand} (h : b.accepts env = true) {raw : Js}
    (hraw : raw.sorted = b.dump.sorted) : RubricBand.parse env asciiDigit raw = some b := by
  obtain ⟨fs, rfl, hfs⟩ := reads_of_sorted hraw (by simp)
  simp only [accepts, Bool.and_eq_true] at h
  have hlabel := strippedField_eq hfs (k := "label") (by simp) h.1.1.1.1.1
  have hdescription := strippedField_eq hfs (k := "description") (by simp) h.2
  have hmin := laxDecimal_eq hascii hfs (k := "min_score") (d := b.minScore) (by simp)
  have hmax := laxDecimal_eq hascii hfs (k := "max_score") (d := b.maxScore) (by simp)
  rw [parse, hfs.strictObject_eq (by simp) (by simp)]
  simp [hlabel, hdescription, hmin, hmax]

theorem RubricDimension.parse_of_sorted {d : RubricDimension} (h : d.accepts env = true) {raw : Js}
    (hraw : raw.sorted = d.dump.sorted) : RubricDimension.parse env asciiDigit raw = some d := by
  obtain ⟨fs, rfl, hfs⟩ := reads_of_sorted hraw (by simp)
  simp only [accepts, Bool.and_eq_true, List.all_eq_true] at h
  obtain ⟨⟨⟨⟨⟨⟨⟨⟨hid, hname⟩, hdescription⟩, -⟩, -⟩, -⟩, hbands⟩, -⟩, hrequirements⟩ := h
  have hid := hfs.text (k := "id") (s := d.id) (by simp)
  have hname := strippedField_eq hfs (k := "name") (by simp) hname
  have hdescription := strippedField_eq hfs (k := "description") (by simp) hdescription
  have hmax := laxDecimal_eq hascii hfs (k := "max_score") (d := d.maxScore) (by simp)
  have hbands := hfs.tuple (k := "bands") (by simp) fun b hb raw hraw =>
    RubricBand.parse_of_sorted hascii (hbands b hb) hraw
  have hstrings := hfs.strings (k := "evidence_requirements") (l := d.evidenceRequirements) (by simp)
  have hwords : d.evidenceRequirements.map env.joinWords = d.evidenceRequirements := by
    conv_rhs => rw [← List.map_id d.evidenceRequirements]
    exact List.map_congr_left fun r hr => (decide_eq_true_iff.1 (hrequirements r hr).1)
  rw [parse, hfs.strictObject_eq (by simp) (by simp)]
  simp [hid, hname, hdescription, hmax, hbands, hstrings, hwords]

theorem RubricDeduction.parse_of_sorted {d : RubricDeduction} (h : d.accepts env = true) {raw : Js}
    (hraw : raw.sorted = d.dump.sorted) : RubricDeduction.parse env asciiDigit raw = some d := by
  obtain ⟨fs, rfl, hfs⟩ := reads_of_sorted hraw (by simp)
  simp only [accepts, Bool.and_eq_true] at h
  have hid := hfs.text (k := "id") (s := d.id) (by simp)
  have hname := strippedField_eq hfs (k := "name") (by simp) h.1.1.1.2
  have hdescription := strippedField_eq hfs (k := "description") (by simp) h.1.1.2
  have hpoints := laxDecimal_eq hascii hfs (k := "points") (d := d.points) (by simp)
  rw [parse, hfs.strictObject_eq (by simp) (by simp)]
  simp [hid, hname, hdescription, hpoints]

theorem StructuredRubric.parse_of_sorted {r : StructuredRubric} (h : r.accepts env = true) {raw : Js}
    (hraw : raw.sorted = r.dump.sorted) : StructuredRubric.parse env asciiDigit raw = some r := by
  obtain ⟨fs, rfl, hfs⟩ := reads_of_sorted hraw (by simp)
  simp only [accepts, Bool.and_eq_true, List.all_eq_true] at h
  have hversion : literalOne fs "schema_version" = true := by
    obtain ⟨w, hw, hs⟩ := hfs.get? "schema_version" (.int 1) (by simp)
    rw [Js.eq_int_of_sorted hs] at hw
    simp [literalOne, hw]
  have htotal := laxDecimal_eq hascii hfs (k := "total_score") (d := r.totalScore) (by simp)
  have hstep := laxDecimal_eq hascii hfs (k := "score_step") (d := r.scoreStep) (by simp)
  have hdimensions := hfs.tuple (k := "dimensions") (by simp) fun d hd raw hraw =>
    RubricDimension.parse_of_sorted hascii (h.1.1.1.1.1.1.1.1.1.1.1.2 d hd) hraw
  have hdeductions := hfs.tuple (k := "deductions") (by simp) fun d hd raw hraw =>
    RubricDeduction.parse_of_sorted hascii (h.1.1.1.1.1.1.1.1.1.2 d hd) hraw
  rw [parse, hfs.strictObject_eq (by simp) (by simp)]
  simp [hversion, htotal, hstep, hdimensions, hdeductions]

/-- **A rubric comes back from its dump as it was.** -/
theorem StructuredRubric.modelValidate_of_sorted {r : StructuredRubric} (h : r.accepts env = true)
    {raw : Js} (hraw : raw.sorted = r.dump.sorted) :
    StructuredRubric.modelValidate env asciiDigit raw = some r := by
  rw [modelValidate, parse_of_sorted hascii h hraw]
  simp [h]

theorem DimensionResult.parse_of_sorted {d : DimensionResult} {raw : Js}
    (hraw : raw.sorted = d.dump.sorted) : DimensionResult.parse env asciiDigit raw = some d := by
  obtain ⟨fs, rfl, hfs⟩ := reads_of_sorted hraw (by simp)
  have hid := hfs.text (k := "dimension_id") (s := d.dimensionId) (by simp)
  have hscore := hfs.text (k := "score") (s := d.score.str) (by simp)
  have hreason := hfs.text (k := "reason") (s := d.reason) (by simp)
  have hevidence := hfs.tuple (k := "evidence") (l := d.evidence) (by simp) fun q _ raw hraw =>
    EvidenceQuote.parse_of_sorted hraw
  have hsuggestions := hfs.strings (k := "revision_suggestions") (l := d.revisionSuggestions) (by simp)
  rw [parse, hfs.strictObject_eq (by simp) (by simp)]
  simp [hid, hscore, ofText_str hascii, hreason, hevidence, hsuggestions]

/-- **A result comes back from its dump as it was.** -/
theorem GradeResult.modelValidate_of_sorted {r : GradeResult} (h : r.accepts env = true) {raw : Js}
    (hraw : raw.sorted = r.dump.sorted) : GradeResult.modelValidate env asciiDigit raw = some r := by
  obtain ⟨fs, rfl, hfs⟩ := reads_of_sorted hraw (by simp)
  have hversion := hfs.text (k := "schema_version") (s := gradeResultSchemaVersion) (by simp)
  have hdimensions := hfs.tuple (k := "dimensions") (l := r.dimensions) (by simp) fun d _ raw hraw =>
    DimensionResult.parse_of_sorted hascii hraw
  have hdeductions := hfs.tuple (k := "deductions") (l := r.deductions) (by simp) fun d _ raw hraw =>
    DeductionResult.parse_of_sorted hraw
  have hfeedback := hfs.text (k := "overall_feedback") (s := r.overallFeedback) (by simp)
  rw [modelValidate, parse, hfs.strictObject_eq (by simp) (by simp)]
  simp [hversion, hdimensions, hdeductions, hfeedback, h]

/-- **A request comes back from its dump as it was.** -/
theorem GradeRequest.modelValidate_of_sorted {r : GradeRequest} (h : r.accepts env = true)
    (hdocument : r.document.accepts = true) {raw : Js} (hraw : raw.sorted = r.dump.sorted) :
    GradeRequest.modelValidate env asciiDigit raw = some r := by
  obtain ⟨fs, rfl, hfs⟩ := reads_of_sorted hraw (by simp)
  have haccepts := h
  simp only [accepts, Bool.and_eq_true, decide_eq_true_iff] at h
  obtain ⟨⟨⟨htitle, hinstructions⟩, hversion⟩, hrubric⟩ := h
  have hschema := hfs.literal (k := "schema_version") (s := gradeRequestVersion) (by simp)
  have hlanguage := hfs.literal (k := "feedback_language") (s := "en") (by simp)
  have hassignment := hfs.text (k := "assignment_id") (s := uuidText r.assignmentId) (by simp)
  have htitle := strippedField_eq hfs (k := "assignment_title") (by simp) htitle
  have hinstructions := strippedField_eq hfs (k := "assignment_instructions") (by simp) hinstructions
  have hrubricId := hfs.text (k := "rubric_version_id") (s := uuidText r.rubricVersionId) (by simp)
  have hversion := hfs.positive (k := "rubric_version") (n := r.rubricVersion) (by simp) hversion
  have hrubric := hfs.nested (k := "rubric") (by simp) fun raw hraw =>
    StructuredRubric.modelValidate_of_sorted hascii hrubric hraw
  have hsubmission := hfs.text (k := "submission_id") (s := uuidText r.submissionId) (by simp)
  have hread := hfs.nested (k := "document") (by simp) fun raw hraw =>
    ParsedDocument.ofJs_of_sorted hdocument hraw
  rw [modelValidate, hfs.strictObject_eq (by simp) (by simp)]
  simp [hschema, hlanguage, hassignment, htitle, hinstructions, hrubricId, hversion, hrubric,
    hsubmission, hread, uuidOfText_uuidText, haccepts]

theorem ProviderTokenPriceTier.parse_of_sorted {t : ProviderTokenPriceTier} (h : t.accepts = true)
    {raw : Js} (hraw : raw.sorted = t.dump.sorted) :
    ProviderTokenPriceTier.parse env asciiDigit raw = some t := by
  obtain ⟨fs, rfl, hfs⟩ := reads_of_sorted hraw (by simp)
  simp only [accepts, Bool.and_eq_true] at h
  have hlimit : optionalPositive fs "up_to_input_tokens" = some t.upToInputTokens := by
    obtain ⟨w, hw, hs⟩ := hfs.get? "up_to_input_tokens" (optionNatJs t.upToInputTokens) (by simp)
    have hpositive := h.1
    cases hn : t.upToInputTokens with
    | none =>
      rw [hn] at hs
      rw [Js.eq_null_of_sorted hs] at hw
      simp [optionalPositive, hw]
    | some n =>
      rw [hn] at hs hpositive
      rw [Js.eq_int_of_sorted hs] at hw
      have hn : 0 < n := by simpa using hpositive
      simp [optionalPositive, hw, one_le_cast hn]
  have hinput := laxDecimal_eq hascii hfs (k := "input_per_million") (d := t.inputPerMillion) (by simp)
  have hread := laxDecimal_eq hascii hfs (k := "cache_read_per_million")
    (d := t.cacheReadPerMillion) (by simp)
  have hwrite := laxDecimal_eq hascii hfs (k := "cache_write_per_million")
    (d := t.cacheWritePerMillion) (by simp)
  have houtput := laxDecimal_eq hascii hfs (k := "output_per_million") (d := t.outputPerMillion)
    (by simp)
  rw [parse, hfs.strictObject_eq (by simp) (by simp)]
  simp [hlimit, hinput, hread, hwrite, houtput]

theorem ProviderPricing.parse_of_sorted {p : ProviderPricing} (h : p.accepts = true) {raw : Js}
    (hraw : raw.sorted = p.dump.sorted) : ProviderPricing.parse env asciiDigit raw = some p := by
  obtain ⟨fs, rfl, hfs⟩ := reads_of_sorted hraw (by simp)
  simp only [accepts, Bool.and_eq_true, List.all_eq_true] at h
  have hversion := hfs.text (k := "tariff_version") (s := p.tariffVersion) (by simp)
  have hcurrency := hfs.text (k := "currency") (s := p.currency) (by simp)
  have htiers := hfs.tuple (k := "tiers") (by simp) fun t ht raw hraw =>
    ProviderTokenPriceTier.parse_of_sorted hascii (h.1.2 t ht) hraw
  rw [parse, hfs.strictObject_eq (by simp) (by simp)]
  simp [hversion, hcurrency, htiers]

theorem ProviderModelCapabilities.parse_of_sorted {c : ProviderModelCapabilities}
    (h : c.accepts = true) {raw : Js} (hraw : raw.sorted = c.dump.sorted) :
    ProviderModelCapabilities.parse env asciiDigit raw = some c := by
  obtain ⟨fs, rfl, hfs⟩ := reads_of_sorted hraw (by simp)
  simp only [accepts, Bool.and_eq_true, decide_eq_true_iff] at h
  obtain ⟨⟨⟨⟨⟨⟨⟨⟨-, hcontext⟩, houtput⟩, -⟩, -⟩, -⟩, -⟩, -⟩, hpricing⟩ := h
  have hversion := hfs.text (k := "capability_version") (s := c.capabilityVersion) (by simp)
  have hmodel := hfs.text (k := "model") (s := c.model) (by simp)
  have hcontext := hfs.positive (k := "context_window_tokens") (n := c.contextWindowTokens) (by simp)
    hcontext
  have houtput := hfs.positive (k := "max_output_tokens") (n := c.maxOutputTokens) (by simp) houtput
  have hstructured := hfs.text (k := "structured_output") (s := c.structuredOutput) (by simp)
  have hdialect := hfs.text (k := "schema_dialect") (s := c.schemaDialect) (by simp)
  have hsampling := hfs.text (k := "sampling_policy") (s := c.samplingPolicy) (by simp)
  have hthinking := hfs.text (k := "thinking_policy") (s := c.thinkingPolicy) (by simp)
  have hparameter := hfs.text (k := "output_token_parameter") (s := c.outputTokenParameter) (by simp)
  have hlisting := hfs.bool (k := "supports_model_listing") (b := c.supportsModelListing) (by simp)
  have hprices : optionalPricing env asciiDigit fs "pricing" = some c.pricing := by
    obtain ⟨w, hw, hs⟩ := hfs.get? "pricing" (pricingJs ProviderPricing.dump c.pricing) (by simp)
    cases hp : c.pricing with
    | none =>
      rw [hp] at hs
      rw [Js.eq_null_of_sorted hs] at hw
      simp [optionalPricing, hw]
    | some p =>
      rw [hp] at hs hpricing
      have hparse := ProviderPricing.parse_of_sorted hascii (by simpa using hpricing) hs
      obtain ⟨fields, rfl, -⟩ := reads_of_sorted hs (by simp)
      simp [optionalPricing, hw, hparse]
  rw [parse, hfs.strictObject_eq (by simp) (by simp)]
  simp [hversion, hmodel, hcontext, houtput, hstructured, hdialect, hsampling, hthinking,
    hparameter, hlisting, hprices]

theorem ProviderModelProfile.parse_of_sorted {p : ProviderModelProfile} (h : p.accepts = true)
    {raw : Js} (hraw : raw.sorted = p.dump.sorted) :
    ProviderModelProfile.parse env asciiDigit raw = some p := by
  obtain ⟨fs, rfl, hfs⟩ := reads_of_sorted hraw (by simp)
  simp only [accepts, lengthBetween, Bool.and_eq_true, decide_eq_true_iff] at h
  have hcapabilities := hfs.nested (k := "capabilities") (by simp) fun raw hraw =>
    ProviderModelCapabilities.parse_of_sorted hascii h.1.1 hraw
  have hmax := hfs.positive (k := "grading_max_output_tokens") (n := p.gradingMaxOutputTokens)
    (by simp) h.1.2.1
  rw [parse, hfs.strictObject_eq (by simp) (by simp)]
  simp [hcapabilities, hmax]

/-- **A provider snapshot comes back from its dump as it was.** -/
theorem GradingProviderSnapshot.modelValidate_of_sorted {s : GradingProviderSnapshot}
    (h : s.acceptsAll = true) {raw : Js} (hraw : raw.sorted = s.dump.sorted) :
    GradingProviderSnapshot.modelValidate env asciiDigit raw = some s := by
  obtain ⟨fs, rfl, hfs⟩ := reads_of_sorted hraw (by simp)
  have haccepts := h
  simp only [acceptsAll, accepts, lengthBetween, Bool.and_eq_true, decide_eq_true_iff] at h
  have htype := hfs.text (k := "provider_type") (s := s.providerType.text) (by simp)
  have hurl := hfs.text (k := "base_url") (s := s.baseUrl) (by simp)
  have htimeout := laxDecimal_eq hascii hfs (k := "timeout_seconds") (d := s.timeoutSeconds) (by simp)
  have hconcurrency := hfs.positive (k := "max_concurrency") (n := s.maxConcurrency) (by simp)
    h.1.2.1
  have hprofile := hfs.nested (k := "model_profile") (by simp) fun raw hraw =>
    ProviderModelProfile.parse_of_sorted hascii h.2 hraw
  rw [modelValidate, hfs.strictObject_eq (by simp) (by simp)]
  simp [htype, ProviderType.ofText_text, hurl, htimeout, hconcurrency, hprofile, haccepts]

end

end PaperGrading
