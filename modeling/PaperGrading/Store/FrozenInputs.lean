import PaperGrading.Store.Preparation

/-!
# The inputs of an item

Whenever an item is prepared, it is prepared from the same inputs: the columns of its job, the text
of its paper, the content of its rubric version and the connection of its provider at the version of
the job never change.

    the rows of a preparation stay behind it                                    (Backed.move)
    two preparations of an item differ in their lineage only                    (Backed.same)
-/

namespace PaperGrading

/-- A preparation of these rows. -/
def GradingItemPreparation.ofRows (lineage : AttemptLineage) (dispatchVersion : Nat) (i : ItemIdentity)
    (j : JobSnapshot) (rubricVersion : Nat) (extractedObjectKey : String) (rubric : StructuredRubric)
    (encryptedApiKey apiKeyNonce : Bytes) : GradingItemPreparation :=
  { lineage with
    ownerId := i.ownerId
    jobId := i.gradingJobId
    itemId := i.id
    dispatchVersion
    submissionId := i.submissionId
    extractedObjectKey
    assignmentId := j.assignmentId
    assignmentTitle := j.assignmentTitleSnapshot
    assignmentInstructions := j.assignmentInstructionsSnapshot
    rubricVersionId := j.rubricVersionId
    rubricVersion
    rubric
    providerConfigId := j.providerConfigId
    providerConfigVersion := j.providerConfigVersion
    encryptedApiKey
    apiKeyNonce
    model := j.model
    providerSnapshot := j.modelParameters
    promptVersion := j.promptVersion
    promptHash := j.promptHash
    resultSchemaVersion := j.resultSchemaVersion
    resultSchema := j.resultSchema
    resultSchemaHash := j.resultSchemaHash
    rubricHash := j.rubricHash }

/-- They differ in their lineage and their round only. -/
def GradingItemPreparation.SameInputs (p p' : GradingItemPreparation) : Prop :=
  p' = { p with toAttemptLineage := p'.toAttemptLineage, dispatchVersion := p'.dispatchVersion }

namespace Store

open Table

variable {env : Runtime} {s s' : Store}

/-- The rows behind a preparation. -/
structure BackingRows (s : Store) (p : GradingItemPreparation) (i : GradingJobItem) (j : GradingJob)
    (x : Submission) (r : RubricVersion) (q : ProviderConfig) : Prop where
  item_mem : i ∈ s.items
  job_mem : j ∈ s.jobs
  job_is : j.id = i.gradingJobId
  submission_mem : x ∈ s.submissions
  submission_is : x.id = i.submissionId ∧ x.status = .ready
  submission_key : x.extractedObjectKey = some p.extractedObjectKey
  rubric_mem : r ∈ s.rubrics
  rubric_is : r.id = j.rubricVersionId ∧ r.status ≠ .draft
  rubric_content : r.structuredRubric = some p.rubric
  provider_mem : q ∈ s.providers
  provider_is : q.id = j.providerConfigId ∧ j.providerConfigVersion ≤ q.configVersion
  provider_key : q.configVersion = j.providerConfigVersion →
    q.encryptedApiKey = some p.encryptedApiKey ∧ q.apiKeyNonce = some p.apiKeyNonce
  columns : p = .ofRows p.toAttemptLineage p.dispatchVersion i.toItemIdentity j.toJobSnapshot r.version
    p.extractedObjectKey p.rubric p.encryptedApiKey p.apiKeyNonce

/-- The inputs of the preparation are those of its item. -/
def Backed (s : Store) (p : GradingItemPreparation) : Prop := ∃ i j x r q, BackingRows s p i j x r q

/-- **The rows of a preparation stay behind it**, whatever is done to them. -/
theorem Backed.move (hw : WellFormed env s) {p : GradingItemPreparation} (h : Backed s p)
    (hm : AnyMove env s s') : Backed s' p := by
  obtain ⟨i, j, x, r, q, h⟩ := h
  obtain ⟨i', hi', hi⟩ := hm.item_kept hw.sound h.item_mem
  obtain ⟨j', hj', hj⟩ := hm.job_kept hw.sound h.job_mem
  obtain ⟨r', hr', hr, hcontent, -⟩ := hm.rubric_kept h.rubric_mem
  obtain ⟨hcontent, hleft⟩ := hcontent h.rubric_is.2
  obtain ⟨q', hq', hqid, hle, hconnection⟩ := hm.provider_kept h.provider_mem
  refine ⟨i', j', x, r', q', hi', hj', ?_, hm.submission_kept h.submission_mem h.submission_is.2, ?_,
    h.submission_key, hr', ⟨?_, hleft⟩, ?_, hq', ⟨?_, ?_⟩, fun he => ?_, ?_⟩
  · rw [hi, hj]
    exact h.job_is
  · rw [hi]
    exact h.submission_is
  · rw [hr, hj]
    exact h.rubric_is.1
  · rw [hcontent]
    exact h.rubric_content
  · rw [hj, hqid]
    exact h.provider_is.1
  · rw [hj]
    exact h.provider_is.2.trans hle
  · -- at the version of the job the connection has not changed
    rw [hj] at he
    have hversion := h.provider_is.2
    have hsame : q'.configVersion = q.configVersion := by omega
    rw [hconnection hsame]
    exact h.provider_key (by omega)
  · rw [hi, hj, hr]
    exact h.columns

/-- What `prepare_item` returns is built from the rows it joins, and the provider is the job's. -/
theorem prepareItem_rows {itemId : Uuid} {dispatchVersion : Nat} {now : Time}
    {p : GradingItemPreparation}
    (h : s.prepareItem env itemId dispatchVersion now = .ok (some p)) :
    ∃ i j x r q, BackingRows s p i j x r q ∧ q.configVersion = j.providerConfigVersion := by
  obtain ⟨i, j, x, r, q, key, structured, apiKey, nonce, hrow, hkey, hstructured, hapiKey, hnonce,
    ⟨hready, hconfirmed, hversion⟩, -, -, rfl⟩ := prepareItem_eq_some.1 h
  have hrows := preparationRow_rows hrow
  refine ⟨i, j, x, r, q, ⟨hrows.item_mem, hrows.job_mem, hrows.job_is.1, hrows.submission_mem,
    ⟨hrows.submission_is, hready⟩, hkey, hrows.rubric_mem, ⟨hrows.rubric_is, by simp [hconfirmed]⟩,
    hstructured, hrows.provider_mem, ⟨hrows.provider_is, hversion.ge⟩, fun _ => ⟨hapiKey, hnonce⟩, ?_⟩,
    hversion⟩
  unfold preparationOf GradingItemPreparation.ofRows
  dsimp only
  rw [hrows.job_is.1, hrows.submission_is, hrows.rubric_is, hrows.provider_is, hversion]

theorem prepareItem_backed {itemId : Uuid} {dispatchVersion : Nat} {now : Time}
    {p : GradingItemPreparation}
    (h : s.prepareItem env itemId dispatchVersion now = .ok (some p)) : Backed s p := by
  obtain ⟨i, j, x, r, q, hrows, -⟩ := prepareItem_rows h
  exact ⟨i, j, x, r, q, hrows⟩

/-- **Two preparations of an item differ in their lineage only.** -/
theorem Backed.same (hw : WellFormed env s) {p p' : GradingItemPreparation} (h : Backed s p)
    {itemId : Uuid} {dispatchVersion : Nat} {now : Time}
    (h' : s.prepareItem env itemId dispatchVersion now = .ok (some p')) (hid : p.itemId = p'.itemId) :
    p.SameInputs p' := by
  have hk := hw.sound.keys
  obtain ⟨i, j, x, r, q, h⟩ := h
  obtain ⟨i', j', x', r', q', h', hcurrent⟩ := prepareItem_rows h'
  have hi : i = i' := by
    refine eq_of_key_eq hk.items h.item_mem h'.item_mem ?_
    have hp := congrArg GradingItemPreparation.itemId h.columns
    have hp' := congrArg GradingItemPreparation.itemId h'.columns
    exact hp.symm.trans (hid.trans hp')
  subst hi
  obtain rfl := eq_of_key_eq hk.jobs h.job_mem h'.job_mem (h.job_is.trans h'.job_is.symm)
  obtain rfl := eq_of_key_eq (submissionIds_nodup hw.sound) h.submission_mem h'.submission_mem
    (h.submission_is.1.trans h'.submission_is.1.symm)
  obtain rfl := eq_of_key_eq (rubricIds_nodup hw.sound) h.rubric_mem h'.rubric_mem
    (h.rubric_is.1.trans h'.rubric_is.1.symm)
  obtain rfl := eq_of_key_eq hw.sound.inputs.providers h.provider_mem h'.provider_mem
    (h.provider_is.1.trans h'.provider_is.1.symm)
  have hkey := Option.some.inj (h.submission_key.symm.trans h'.submission_key)
  have hrubric := Option.some.inj (h.rubric_content.symm.trans h'.rubric_content)
  obtain ⟨hapiKey, hnonce⟩ := h.provider_key hcurrent
  obtain ⟨hapiKey', hnonce'⟩ := h'.provider_key hcurrent
  have hapi := Option.some.inj (hapiKey.symm.trans hapiKey')
  have hnon := Option.some.inj (hnonce.symm.trans hnonce')
  unfold GradingItemPreparation.SameInputs
  have hp := h.columns
  have hp' := h'.columns
  rw [← hkey, ← hrubric, ← hapi, ← hnon] at hp'
  rw [hp', hp]
  rfl

end Store

end PaperGrading
