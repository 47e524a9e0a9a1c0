import PaperGrading.Grading.Calls

/-!
# Reading a stored answer back

The correction of an answer is built from the envelope that was stored under the key of its attempt.

    the text of the answer is read back as it was written                (previousOutput_envelope)
    the correction prompt of a stored answer                             (correctionPrompt_eq_ok)
-/

namespace PaperGrading

variable {env : Runtime} {lib : GradingLibrary} {claim : GradingAttemptClaim} {receivedAt : Time}
  {r : ProviderGradeResult} {content : Bytes}

theorem dumps_eq_ok {json : JsonRuntime} {v : Js} :
    dumps json v = .ok content ↔ v.decodes json.recursionLimit = true ∧ content = v.canonicalBytes := by
  unfold dumps
  split
  next h => simp [h, eq_comm]
  next h => simp [h]

/-- The members of the envelope of an answer have different keys. -/
theorem responseEnvelope_nodup (env : Runtime) (claim : GradingAttemptClaim) (receivedAt : Time)
    (r : ProviderGradeResult) : ∃ fs, responseEnvelope env claim receivedAt r = .obj fs ∧
    (fs.map (·.1)).Nodup ∧ ("output_text", Js.str r.outputText) ∈ fs := by
  refine ⟨_, rfl, ?_, by simp⟩
  rw [List.map_append]
  show (["schema_version", "attempt_id", "request_hash", "received_at"] ++
    ["provider_type", "requested_model", "reported_model", "request_id", "finish_reason",
      "output_text", "usage", "estimated_cost", "raw_response_base64", "raw_response_sha256",
      "sent_schema_sha256"]).Nodup
  decide

/-- **The text of an answer is read back as it was written.** -/
theorem previousOutput_envelope {json : JsonRuntime}
    (h : dumps json (responseEnvelope env claim receivedAt r) = .ok content) :
    ∃ v, Json.loads json content = .ok v ∧ previousOutput v = some (.ofString r.outputText) := by
  obtain ⟨fs, hfs, hnodup, hmem⟩ := responseEnvelope_nodup env claim receivedAt r
  rw [hfs, dumps_eq_ok] at h
  obtain ⟨hdecodes, rfl⟩ := h
  refine ⟨_, Json.loads_canonicalJson hdecodes, ?_⟩
  unfold previousOutput
  rw [Json.key_sorted hnodup hmem]
  rfl

theorem getJson_eq_ok {objects : String → Option Bytes} {key : String} :
    getJson objects key = .ok content ↔
      objects key = some content ∧ content.length ≤ maxPrivateJsonBytes := by
  unfold getJson
  cases h : objects key with
  | none => simp
  | some old =>
    dsimp only
    split
    next hlarge =>
      simp only [reduceCtorEq, Option.some.injEq, false_iff, not_and]
      rintro rfl
      omega
    next hsmall =>
      simp only [Except.ok.injEq, Option.some.injEq, iff_self_and]
      rintro rfl
      omega

theorem correctionPrompt_object {objects : String → Option Bytes} {prepared : GradingItemPreparation}
    {initial p : GradingPrompt} {key : String}
    (h : correctionPrompt env lib objects prepared initial key = .ok p) :
    ∃ content, objects key = some content := by
  unfold correctionPrompt at h
  simp only [bind_eq_ok, getJson_eq_ok] at h
  obtain ⟨_, -, content, ⟨hcontent, -⟩, -⟩ := h
  exact ⟨content, hcontent⟩

theorem correctionPrompt_built {objects : String → Option Bytes} {prepared : GradingItemPreparation}
    {initial p : GradingPrompt} {key : String}
    (h : correctionPrompt env lib objects prepared initial key = .ok p) :
    ∃ issues output, buildCorrectionPrompt env initial issues output = some p := by
  unfold correctionPrompt at h
  simp only [bind_eq_ok, required_eq_ok] at h
  obtain ⟨_, -, _, -, _, -, _, -, issues, -, _, -, _, -, output, -, hbuild⟩ := h
  exact ⟨issues, output, hbuild⟩

/-- **The correction prompt of a stored answer**: the text of the answer and the issues of the
attempt, unless one of them breaks a limit. -/
theorem correctionPrompt_eq_ok {objects : String → Option Bytes} {prepared : GradingItemPreparation}
    {initial p : GradingPrompt} {key : String} (hobject : objects key = some content)
    (h : dumps lib.json (responseEnvelope env claim receivedAt r) = .ok content) :
    correctionPrompt env lib objects prepared initial key = .ok p ↔
      content.length ≤ maxPrivateJsonBytes ∧ ∃ issues,
        prepared.previousErrorDetails = some (.issues issues) ∧ issues.all (·.accepts) = true ∧
        lengthBetween 1 100 issues.length = true ∧
        buildCorrectionPrompt env initial issues r.outputText = some p := by
  obtain ⟨v, hloads, hprevious⟩ := previousOutput_envelope h
  unfold correctionPrompt
  simp only [bind_eq_ok, required_eq_ok, getJson_eq_ok, ensure_eq_ok]
  constructor
  · rintro ⟨details, hdetails, _, ⟨hcontent, hsize⟩, envelope, henvelope, previous, hprev, issues,
      hissues, _, haccepts, _, hcount, output, houtput, hbuild⟩
    rw [hobject] at hcontent
    cases hcontent
    rw [hloads] at henvelope
    cases henvelope
    rw [hprevious] at hprev
    cases hprev
    rw [Json.decode_ofString] at houtput
    cases houtput
    refine ⟨hsize, issues, ?_, haccepts, hcount, hbuild⟩
    cases details with
    | issues list =>
      cases hissues
      exact hdetails
    | _ => cases hissues
  · rintro ⟨hsize, issues, hdetails, haccepts, hcount, hbuild⟩
    exact ⟨_, hdetails, content, ⟨hobject, hsize⟩, v, by rw [hloads]; rfl, _, hprevious, issues, rfl,
      (), haccepts, (), hcount, _, Json.decode_ofString _, hbuild⟩

end PaperGrading
