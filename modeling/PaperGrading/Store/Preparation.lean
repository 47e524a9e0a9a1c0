import PaperGrading.Store.Areas
import PaperGrading.Store.Claims
import PaperGrading.Store.Commits

/-!
# What `prepare_item` finds

`prepare_item` joins a waiting item with its job, its paper, its rubric version and its provider,
and refuses inputs that are no longer those the batch was created from.  Whatever has been done to
them since, only the status of the rubric version can have changed.

    every job of a reachable store finds its frozen inputs                        (after_sourced)
    prepare_item refuses a waiting item exactly if its rubric version is superseded
                                                                          (prepareItem_iff)
    while confirm_rubric leaves the rubrics of open batches alone, every waiting item
      of every reachable store can be prepared                               (after_prepares)
-/

namespace PaperGrading

/-- The contract columns of a job are those of a rubric. -/
def JobSnapshot.FrozenFrom (env : Runtime) (j : JobSnapshot) (structured : StructuredRubric) : Prop :=
  let contract := buildGradingContractSnapshot env structured
  j.promptVersion = contract.promptVersion.text ∧ j.promptHash = contract.promptHash ∧
    j.resultSchemaVersion = contract.resultSchemaVersion ∧ j.resultSchema = contract.resultSchema ∧
    j.resultSchemaHash = contract.resultSchemaHash ∧ j.rubricHash = contract.rubricHash

/-- The preparation is built from the columns that the job has frozen. -/
structure GradingItemPreparation.BuiltFrom (env : Runtime) (prepared : GradingItemPreparation)
    (j : JobSnapshot) : Prop where
  job : prepared.jobId = j.id ∧ prepared.ownerId = j.ownerId
  assignment : prepared.assignmentId = j.assignmentId ∧
    prepared.assignmentTitle = j.assignmentTitleSnapshot ∧
    prepared.assignmentInstructions = j.assignmentInstructionsSnapshot
  rubric : prepared.rubricVersionId = j.rubricVersionId ∧ j.FrozenFrom env prepared.rubric
  provider : prepared.providerConfigId = j.providerConfigId ∧
    prepared.providerConfigVersion = j.providerConfigVersion ∧ prepared.model = j.model ∧
    prepared.providerSnapshot = j.modelParameters
  contract : prepared.promptVersion = j.promptVersion ∧ prepared.promptHash = j.promptHash ∧
    prepared.resultSchemaVersion = j.resultSchemaVersion ∧ prepared.resultSchema = j.resultSchema ∧
    prepared.resultSchemaHash = j.resultSchemaHash ∧ prepared.rubricHash = j.rubricHash

namespace Store

open Table

variable {env : Runtime} {R : GradingJob → GradingAttemptFailure → Prop}
  {keep : RubricVersion → Prop} {s s' : Store}

/-! ## The rows of a preparation -/

/-- The rows that `prepare_item` joins. -/
structure PreparationRows (s : Store) (itemId : Uuid) (dispatchVersion : Nat) (now : Time)
    (item : GradingJobItem) (job : GradingJob) (submission : Submission) (rubric : RubricVersion)
    (provider : ProviderConfig) : Prop where
  item_mem : item ∈ s.items
  item_is : item.id = itemId ∧ item.dispatchVersion = dispatchVersion
  queued : item.status = .queued
  available : item.availableAt ≤ now
  job_mem : job ∈ s.jobs
  job_is : job.id = item.gradingJobId ∧ job.ownerId = item.ownerId
  dispatchable : job.status = .queued ∨ job.status = .running
  submission_mem : submission ∈ s.submissions
  submission_is : submission.id = item.submissionId
  rubric_mem : rubric ∈ s.rubrics
  rubric_is : rubric.id = job.rubricVersionId
  provider_mem : provider ∈ s.providers
  provider_is : provider.id = job.providerConfigId

theorem preparationRow_rows {itemId : Uuid} {dispatchVersion : Nat} {now : Time}
    {item : GradingJobItem} {job : GradingJob} {submission : Submission} {rubric : RubricVersion}
    {provider : ProviderConfig}
    (h : s.preparationRow itemId dispatchVersion now = some (item, job, submission, rubric, provider)) :
    PreparationRows s itemId dispatchVersion now item job submission rubric provider := by
  unfold preparationRow at h
  simp only [Option.bind_eq_bind, Option.bind_eq_some_iff, Option.pure_def, Option.some.injEq,
    Prod.mk.injEq] at h
  obtain ⟨_, hitem, _, hjob, _, hsubmission, _, hrubric, _, hprovider, rfl, rfl, rfl, rfl, rfl⟩ := h
  have hiq := List.find?_some hitem
  have hjq := List.find?_some hjob
  have hxq := List.find?_some hsubmission
  have hrq := List.find?_some hrubric
  have hpq := List.find?_some hprovider
  simp only [Bool.and_eq_true, Bool.or_eq_true, beq_iff_eq, decide_eq_true_eq] at hiq hjq hxq hrq hpq
  exact ⟨List.mem_of_find?_eq_some hitem, hiq.1.1, hiq.1.2, hiq.2, List.mem_of_find?_eq_some hjob,
    hjq.1, hjq.2, List.mem_of_find?_eq_some hsubmission, hxq.1, List.mem_of_find?_eq_some hrubric,
    hrq.1, List.mem_of_find?_eq_some hprovider, hpq⟩

/-- In a well-formed store the join finds the rows of a waiting item. -/
theorem preparationRow_of_rows (hw : WellFormed env s) {itemId : Uuid} {dispatchVersion : Nat}
    {now : Time} {item : GradingJobItem} {job : GradingJob} {submission : Submission}
    {rubric : RubricVersion} {provider : ProviderConfig}
    (h : PreparationRows s itemId dispatchVersion now item job submission rubric provider) :
    s.preparationRow itemId dispatchVersion now = some (item, job, submission, rubric, provider) := by
  have hk := hw.sound.keys
  obtain ⟨rfl, rfl⟩ := h.item_is
  have hsubmission : submission.ownerId = item.ownerId := by
    obtain ⟨x, hx, hid, -, howner, -⟩ := hw.refs.submissions item h.item_mem
    rw [← howner, eq_of_key_eq (submissionIds_nodup hw.sound) h.submission_mem hx
      (h.submission_is.trans hid.symm)]
  have hrubric : rubric.ownerId = job.ownerId := by
    obtain ⟨r, hr, hid, -, howner, -⟩ := hw.refs.rubrics job h.job_mem
    rw [← howner, eq_of_key_eq (rubricIds_nodup hw.sound) h.rubric_mem hr (h.rubric_is.trans hid.symm)]
  have hopen : (job.status == .queued || job.status == .running) = true := by
    simpa using h.dispatchable
  unfold preparationRow
  simp only [Option.bind_eq_bind]
  rw [find?_eq_some_of_key hk.items h.item_mem _ (by simp [h.queued, h.available]) fun y hy => by
    simp only [Bool.and_eq_true, beq_iff_eq] at hy
    exact hy.1.1.1]
  simp only [Option.bind_some]
  rw [find?_eq_some_of_key hk.jobs h.job_mem _ (by simp [h.job_is, hopen]) fun y hy => by
    simp only [Bool.and_eq_true, beq_iff_eq] at hy
    rw [hy.1.1, h.job_is.1]]
  simp only [Option.bind_some]
  rw [find?_eq_some_of_key (submissionIds_nodup hw.sound) h.submission_mem _
    (by simp [h.submission_is, hsubmission]) fun y hy => by
      simp only [Bool.and_eq_true, beq_iff_eq] at hy
      rw [hy.1, h.submission_is]]
  simp only [Option.bind_some]
  rw [find?_eq_some_of_key (rubricIds_nodup hw.sound) h.rubric_mem _
    (by simp [h.rubric_is, hrubric]) fun y hy => by
      simp only [Bool.and_eq_true, beq_iff_eq] at hy
      rw [hy.1, h.rubric_is]]
  simp only [Option.bind_some]
  rw [find?_eq_some_of_key hw.sound.inputs.providers h.provider_mem _ (by simp [h.provider_is])
    fun y hy => by
      simp only [beq_iff_eq] at hy
      rw [hy, h.provider_is]]
  rfl

/-- The preparation that is built from the rows. -/
def preparationOf (s : Store) (dispatchVersion : Nat) (item : GradingJobItem) (job : GradingJob)
    (submission : Submission) (rubric : RubricVersion) (provider : ProviderConfig)
    (extractedObjectKey : String) (structured : StructuredRubric)
    (encryptedApiKey apiKeyNonce : Bytes) : GradingItemPreparation :=
  { s.attemptLineage item.id dispatchVersion with
    ownerId := item.ownerId
    jobId := job.id
    itemId := item.id
    dispatchVersion := item.dispatchVersion
    submissionId := submission.id
    extractedObjectKey
    assignmentId := job.assignmentId
    assignmentTitle := job.assignmentTitleSnapshot
    assignmentInstructions := job.assignmentInstructionsSnapshot
    rubricVersionId := rubric.id
    rubricVersion := rubric.version
    rubric := structured
    providerConfigId := provider.id
    providerConfigVersion := provider.configVersion
    encryptedApiKey
    apiKeyNonce
    model := job.model
    providerSnapshot := job.modelParameters
    promptVersion := job.promptVersion
    promptHash := job.promptHash
    resultSchemaVersion := job.resultSchemaVersion
    resultSchema := job.resultSchema
    resultSchemaHash := job.resultSchemaHash
    rubricHash := job.rubricHash }

theorem prepareItem_eq_some {itemId : Uuid} {dispatchVersion : Nat} {now : Time}
    {prepared : GradingItemPreparation} :
    s.prepareItem env itemId dispatchVersion now = .ok (some prepared) ↔
      ∃ item job submission rubric provider key structured apiKey nonce,
        s.preparationRow itemId dispatchVersion now = some (item, job, submission, rubric, provider) ∧
        submission.extractedObjectKey = some key ∧ rubric.structuredRubric = some structured ∧
        provider.encryptedApiKey = some apiKey ∧ provider.apiKeyNonce = some nonce ∧
        (submission.status = .ready ∧ rubric.status = .confirmed ∧
          provider.configVersion = job.providerConfigVersion) ∧
        job.modelParameters.snapshotHash env = job.modelParametersHash ∧
        structured.accepts env = true ∧ prepared = s.preparationOf dispatchVersion item job submission
          rubric provider key structured apiKey nonce := by
  unfold prepareItem
  constructor
  · intro h
    split at h
    · cases h
    next item job submission rubric provider hrow =>
      split at h
      next key structured apiKey nonce hkey hstructured hapiKey hnonce =>
        simp only [bind_eq_ok, require_eq_ok, Bool.and_eq_true, beq_iff_eq] at h
        obtain ⟨_, hinputs, _, hhash, _, haccepts, h⟩ := h
        cases h
        exact ⟨item, job, submission, rubric, provider, key, structured, apiKey, nonce, hrow, hkey,
          hstructured, hapiKey, hnonce, ⟨hinputs.1.1, hinputs.1.2, hinputs.2⟩, hhash, haccepts, rfl⟩
      · cases h
  · rintro ⟨item, job, submission, rubric, provider, key, structured, apiKey, nonce, hrow, hkey,
      hstructured, hapiKey, hnonce, ⟨hready, hconfirmed, hversion⟩, hhash, haccepts, rfl⟩
    simp only [hrow, hkey, hstructured, hapiKey, hnonce, bind_eq_ok, require_eq_ok]
    exact ⟨(), by simp [hready, hconfirmed, hversion], (), by simp [hhash], (), haccepts, rfl⟩

/-! ## Jobs that start to use their provider -/

theorem usesProvider_iff {j : GradingJob} :
    j.usesProvider = true ↔ j.status = .queued ∨ j.status = .running ∨ j.status = .paused := by
  simp [GradingJob.usesProvider, or_assoc]

/-- A confirmation opens only a job that has an active item. -/
theorem closedJob_uses {items : List GradingJobItem} {teacherId : Uuid} {now : Time} {j : GradingJob}
    (h : (closedJob items teacherId now j).usesProvider = true) :
    ∃ i ∈ items, i.gradingJobId = j.id ∧ i.isActive = true := by
  unfold closedJob preserveActiveJobStatus at h
  split at h
  next hactive =>
    obtain ⟨i, hi, hq⟩ := List.any_eq_true.1 hactive.2
    simp only [Bool.and_eq_true, beq_iff_eq] at hq
    have hid : i.gradingJobId = j.id := by
      rw [hq.1.1]
      unfold reviewedJob
      split <;> rfl
    exact ⟨i, hi, hid, hq.2⟩
  · unfold reviewedJob at h
    rw [usesProvider_iff] at h
    split at h <;> simp at h

theorem reconciledStatus_uses {current : JobStatus} {statuses : List ItemStatus}
    (h : reconciledStatus current statuses = .queued ∨ reconciledStatus current statuses = .running ∨
      reconciledStatus current statuses = .paused) : reconciledStatus current statuses = current := by
  unfold reconciledStatus at h ⊢
  split at h
  · split at h
    · simp at h
    · split at h <;> simp at h
  next hstay => rw [if_neg hstay]

/-- A job row across work is new, or repeats a snapshot, and it used its provider before. -/
theorem Work.uses_provider (hc : ∀ j ∈ s.jobs, (s.batch j).Consistent)
    (h : Work env R keep s s') {j' : GradingJob} (hj' : j' ∈ s'.jobs) :
    (∃ items, Created env s s' j' items) ∨ ∃ j ∈ s.jobs, j'.toJobSnapshot = j.toJobSnapshot ∧
      (j'.usesProvider = true → j.usesProvider = true) := by
  cases h with
  | inputs h => exact .inr ⟨j', h.1.jobs ▸ hj', rfl, id⟩
  | claimed h =>
    rw [congrArg Store.jobs h.eq] at hj'
    rcases (mem_replaceRow h.job_mem).1 hj' with rfl | ⟨hj', -⟩
    · refine .inr ⟨_, h.job_mem, jobUpdateCheck_snapshot h.job_check, fun _ => ?_⟩
      exact usesProvider_iff.2 (h.job_open.imp_right .inl)
    · exact .inr ⟨j', hj', rfl, id⟩
  | closed h =>
    rw [congrArg Store.jobs h.eq] at hj'
    rcases (mem_replaceRow h.job_mem).1 hj' with rfl | ⟨hj', -⟩
    · refine .inr ⟨_, h.job_mem, jobUpdateCheck_snapshot h.job_check, fun huses => ?_⟩
      rw [usesProvider_iff, reconciledJob_status] at huses
      have hsame := reconciledStatus_uses huses
      rw [hsame] at huses
      exact usesProvider_iff.2 huses
    · exact .inr ⟨j', hj', rfl, id⟩
  | created h =>
    have hjobs := congrArg Store.jobs h.eq
    rw [hjobs] at hj'
    rcases List.mem_append.1 hj' with hj' | hj'
    · exact .inr ⟨j', hj', rfl, id⟩
    · rw [List.mem_singleton.1 hj']
      exact .inl ⟨_, h⟩
  | drafted h =>
    have hjobs : s'.jobs = s.jobs := by
      rcases h.write with ⟨_, _, _, _, _, _, he⟩ | ⟨_, _, _, _, he⟩ <;> rw [he]
    exact .inr ⟨j', hjobs ▸ hj', rfl, id⟩
  | @confirmed teacherId refs now h =>
    rw [congrArg Store.jobs h.eq] at hj'
    rcases mem_setWhere.1 hj' with ⟨j, hj, hhit, rfl⟩ | ⟨hj', -⟩
    · refine .inr ⟨j, hj, jobUpdateCheck_snapshot (h.job_check j hj hhit), fun huses => ?_⟩
      obtain ⟨i', hi', hij, hactive⟩ := closedJob_uses huses
      -- a completed item is not active, so the active one was there before
      have hi : i' ∈ s.items := by
        rw [congrArg Store.items h.eq] at hi'
        rcases mem_setWhere.1 hi' with ⟨i, -, -, rfl⟩ | ⟨hi, -⟩
        · cases hactive
        · exact hi
      have hne : j.status ≠ .cancelled :=
        jobUpdateCheck_ne_cancelled (h.job_check j hj hhit) (closedJob_ne_cancelled _ _ _ _)
      exact usesProvider_iff.2 (((hc j hj).open_iff hne).2 (active_hasStatus.2 ⟨i', hi, hij, hactive⟩))
    · exact .inr ⟨j', hj', rfl, id⟩

/-- A job row across a move is new, or repeats a snapshot; a job that starts to use its provider
is retried. -/
theorem Move.uses_provider (hc : ∀ j ∈ s.jobs, (s.batch j).Consistent)
    (h : Move env R keep s s') {j' : GradingJob} (hj' : j' ∈ s'.jobs) :
    (∃ items, Created env s s' j' items) ∨ ∃ j ∈ s.jobs, j'.toJobSnapshot = j.toJobSnapshot ∧
      (j'.usesProvider = true → j.usesProvider = true ∨ ∃ item now, Retried s s' j item now) := by
  have hwork (h : Work env R keep s s') : (∃ items, Created env s s' j' items) ∨
      ∃ j ∈ s.jobs, j'.toJobSnapshot = j.toJobSnapshot ∧
        (j'.usesProvider = true → j.usesProvider = true ∨ ∃ item now, Retried s s' j item now) := by
    rcases h.uses_provider hc hj' with hcreated | ⟨j, hj, hsame, huses⟩
    · exact .inl hcreated
    · exact .inr ⟨j, hj, hsame, fun hu => .inl (huses hu)⟩
  cases h with
  | inputs h => exact hwork (.inputs h)
  | claimed h => exact hwork (.claimed h)
  | closed h => exact hwork (.closed h)
  | created h => exact hwork (.created h)
  | drafted h => exact hwork (.drafted h)
  | confirmed h => exact hwork (.confirmed h)
  | switched h =>
    rw [congrArg Store.jobs h.eq] at hj'
    rcases (mem_replaceRow h.job_mem).1 hj' with rfl | ⟨hj', -⟩
    · refine .inr ⟨_, h.job_mem, jobUpdateCheck_snapshot h.job_check, fun _ => .inl ?_⟩
      rcases h.move with ⟨hst | hst, -⟩ | ⟨hst, -⟩ <;> simp [usesProvider_iff, hst]
    · exact .inr ⟨j', hj', rfl, .inl⟩
  | cancelled h =>
    rw [congrArg Store.jobs h.eq] at hj'
    rcases (mem_replaceRow h.job_mem).1 hj' with rfl | ⟨hj', -⟩
    · refine .inr ⟨_, h.job_mem, jobUpdateCheck_snapshot h.job_check, fun huses => ?_⟩
      simp [usesProvider_iff, cancelJob] at huses
    · exact .inr ⟨j', hj', rfl, .inl⟩
  | retried h =>
    have hjobs := congrArg Store.jobs h.eq
    rw [hjobs] at hj'
    rcases (mem_replaceRow h.job_mem).1 hj' with rfl | ⟨hj', -⟩
    · exact .inr ⟨_, h.job_mem, jobUpdateCheck_snapshot h.job_check, fun _ => .inr ⟨_, _, h⟩⟩
    · exact .inr ⟨j', hj', rfl, .inl⟩

/-! ## Frozen inputs -/

/-- The inputs that a job has frozen, as the store has them now. -/
structure Sourced (env : Runtime) (s : Store) (j : GradingJob) : Prop where
  parameters : j.modelParameters.snapshotHash env = j.modelParametersHash
  rubric : ∃ r ∈ s.rubrics, r.id = j.rubricVersionId ∧ r.status ≠ .draft ∧
    ∃ structured, r.structuredRubric = some structured ∧ structured.accepts env = true ∧
      j.FrozenFrom env structured
  provider : ∃ p ∈ s.providers, p.id = j.providerConfigId ∧
    j.providerConfigVersion ≤ p.configVersion ∧
    (j.usesProvider = true → p.configVersion = j.providerConfigVersion) ∧
    (p.configVersion = j.providerConfigVersion →
      p.encryptedApiKey.isSome = true ∧ p.apiKeyNonce.isSome = true)

/-- The rows a creation reads. -/
theorem creationInputs_rows {ownerId assignmentId : Uuid} {payload : GradingJobCreate}
    {assignment : Assignment} {rubric : RubricVersion} {structured : StructuredRubric}
    {provider : ProviderConfig} {model : String} {profile : ProviderModelProfile}
    (h : s.creationInputs ownerId assignmentId payload =
      .ok (assignment, rubric, structured, provider, model, profile)) :
    (rubric ∈ s.rubrics ∧ rubric.status = .confirmed ∧ rubric.structuredRubric = some structured) ∧
      provider ∈ s.providers ∧ provider.status = .enabled := by
  unfold creationInputs at h
  split at h
  next ha hr =>
    split at h
    next hstructured hprovider hmodel =>
      simp only [bind_eq_ok, require_eq_ok] at h
      obtain ⟨_, -, h⟩ := h
      split at h
      · cases h
      next hfind =>
        simp only [bind_eq_ok, require_eq_ok, Bool.and_eq_true, beq_iff_eq] at h
        obtain ⟨_, ⟨⟨henabled, -⟩, -⟩, h⟩ := h
        split at h
        · cases h
        · cases h
          have hconfirmed := List.find?_some hr
          simp only [Bool.and_eq_true, beq_iff_eq] at hconfirmed
          exact ⟨⟨List.mem_of_find?_eq_some hr, hconfirmed.2, hstructured⟩,
            List.mem_of_find?_eq_some hfind, henabled⟩
    · cases h
  · cases h

/-- An enabled provider has its key. -/
theorem enabled_key {p : ProviderConfig} (hrow : p.rowCheck = .ok ()) (henabled : p.status = .enabled) :
    p.encryptedApiKey.isSome = true ∧ p.apiKeyNonce.isSome = true := by
  unfold ProviderConfig.rowCheck at hrow
  simp only [bind_eq_ok, require_eq_ok, henabled, bne_self_eq_false, Bool.false_or,
    Bool.and_eq_true] at hrow
  obtain ⟨_, -, _, hmaterial, _, ⟨⟨⟨-, hkey⟩, -⟩, -⟩, -⟩ := hrow
  refine ⟨hkey, ?_⟩
  cases hnonce : p.apiKeyNonce with
  | some nonce => rfl
  | none =>
    obtain ⟨key, hkey⟩ := Option.isSome_iff_exists.1 hkey
    rw [hkey, hnonce] at hmaterial
    cases hmaterial

theorem Created.sourced (hw : WellFormed env s) {job : GradingJob} {items : List GradingJobItem}
    (h : Created env s s' job items) : Sourced env s' job := by
  obtain ⟨ownerId, assignmentId, payload, assignment, rubric, structured, provider, snapshot, model,
    profile, seed, hinputs, haccepts, rfl⟩ := h.source
  obtain ⟨⟨hrubric, hconfirmed, hstructured⟩, hprovider, henabled⟩ := creationInputs_rows hinputs
  have hrubrics : s'.rubrics = s.rubrics := by rw [h.eq]
  have hproviders : s'.providers = s.providers := by rw [h.eq]
  exact ⟨rfl, ⟨rubric, hrubrics ▸ hrubric, rfl, by simp [hconfirmed], structured, hstructured, haccepts,
      rfl, rfl, rfl, rfl, rfl, rfl⟩,
    ⟨provider, hproviders ▸ hprovider, rfl, le_rfl, fun _ => rfl, fun _ =>
      enabled_key (hw.sound.inputs.provider_check _ hprovider) henabled⟩⟩

theorem Move.sourced (hw : WellFormed env s) (hc : ∀ j ∈ s.jobs, (s.batch j).Consistent)
    (h : Move env R keep s s') (hs : ∀ j ∈ s.jobs, Sourced env s j) :
    ∀ j' ∈ s'.jobs, Sourced env s' j' := by
  intro j' hj'
  rcases h.uses_provider hc hj' with ⟨items, hcreated⟩ | ⟨j, hj, hsame, huses⟩
  · exact hcreated.sourced hw
  obtain ⟨hparameters, ⟨r, hr, hrid, hleft, structured, hstructured, haccepts, hfrozen⟩,
    ⟨p, hp, hpid, hle, hcurrent, hkey⟩⟩ := hs j hj
  refine ⟨by rw [hsame]; exact hparameters, ?_, ?_⟩
  · obtain ⟨r', hr', hident, hcontent, -⟩ := h.rubric_kept hr
    obtain ⟨hcontent, hleft'⟩ := hcontent hleft
    exact ⟨r', hr', by rw [hident, hsame, hrid], hleft', structured, by rw [hcontent, hstructured],
      haccepts, hsame ▸ hfrozen⟩
  · rw [hsame]
    rcases h.inputs_cases with hin | hsameInputs
    · -- the version of a provider in use stands
      obtain ⟨p', hp', hpid', hle', hversion, hconnection⟩ := hin.1.providers p hp
      refine ⟨p', hp', hpid'.trans hpid, hle.trans hle', fun hu => ?_, fun he => ?_⟩
      · have hj's : j' ∈ s.jobs := hin.1.jobs ▸ hj'
        rcases hversion with hversion | hunused
        · rw [hversion]
          refine hcurrent ?_
          rwa [← eq_of_key_eq hw.sound.keys.jobs hj's hj (by rw [hsame])]
        · rw [hunused j' hj's (by rw [hsame, hpid])] at hu
          cases hu
      · have heq : p'.configVersion = p.configVersion := by omega
        rw [hconnection heq]
        exact hkey (by omega)
    · refine ⟨p, hsameInputs.2.2.1 ▸ hp, hpid, hle, fun hu => ?_, hkey⟩
      rcases huses hu with hu | ⟨item, now, hretried⟩
      · exact hcurrent hu
      · obtain ⟨q, hq, hqid, hqversion⟩ := hretried.provider
        rw [eq_of_key_eq hw.sound.inputs.providers hp hq (hpid.trans hqid.symm), hqversion]

theorem after_sourced (as : List (Action env)) :
    ∀ j ∈ (after env as).jobs, Sourced env (after env as) j :=
  (after_invariant (P := fun t => (∀ j ∈ t.jobs, (t.batch j).Consistent) ∧
      ∀ j ∈ t.jobs, Sourced env t j)
    (fun _ _ hw h ht => ⟨h.batches (fun _ => True) hw (fun _ _ _ _ => trivial)
      (fun _ => Batch.Fresh.consistent) (fun _ _ => Batch.Step.consistent) ht.1,
      h.sourced hw ht.1 ht.2⟩) ⟨by simp [empty], by simp [empty]⟩ as).2

/-! ## Waiting items -/

/-- An item that a worker may take up now. -/
structure Waiting (s : Store) (job : GradingJob) (item : GradingJobItem) (now : Time) : Prop where
  job_mem : job ∈ s.jobs
  item_mem : item ∈ s.items
  item_job : item.gradingJobId = job.id
  dispatchable : job.status = .queued ∨ job.status = .running
  queued : item.status = .queued
  available : item.availableAt ≤ now

/-- The rubric version of the job is still the confirmed one. -/
def RubricStands (s : Store) (j : GradingJob) : Prop :=
  ∃ r ∈ s.rubrics, r.id = j.rubricVersionId ∧ r.status = .confirmed

/-- The rows and values that the preparation of a waiting item reads. -/
theorem Waiting.rows (hw : WellFormed env s) {job : GradingJob} {item : GradingJobItem} {now : Time}
    (hs : Sourced env s job) (h : Waiting s job item now) :
    ∃ submission rubric provider key structured apiKey nonce,
      PreparationRows s item.id item.dispatchVersion now item job submission rubric provider ∧
      (submission.status = .ready ∧ submission.extractedObjectKey = some key) ∧
      (rubric.structuredRubric = some structured ∧ structured.accepts env = true ∧
        job.FrozenFrom env structured) ∧
      provider.configVersion = job.providerConfigVersion ∧ provider.encryptedApiKey = some apiKey ∧
        provider.apiKeyNonce = some nonce := by
  obtain ⟨x, hx, hxid, -, -, hready⟩ := hw.refs.submissions item h.item_mem
  obtain ⟨key, hkey⟩ := Option.isSome_iff_exists.1 (ready_extracted hw hx hready)
  obtain ⟨r, hr, hrid, -, structured, hstructured⟩ := hs.rubric
  obtain ⟨p, hp, hpid, -, hcurrent, hmaterial⟩ := hs.provider
  have hversion := hcurrent (usesProvider_iff.2 (h.dispatchable.imp_right .inl))
  obtain ⟨apiKey, hapiKey⟩ := Option.isSome_iff_exists.1 (hmaterial hversion).1
  obtain ⟨nonce, hnonce⟩ := Option.isSome_iff_exists.1 (hmaterial hversion).2
  obtain ⟨j, hj, hjid, hjo, -⟩ := hw.refs.items item h.item_mem
  obtain rfl := eq_of_key_eq hw.sound.keys.jobs hj h.job_mem (hjid.trans h.item_job)
  exact ⟨x, r, p, key, structured, apiKey, nonce, ⟨h.item_mem, ⟨rfl, rfl⟩, h.queued, h.available,
    h.job_mem, ⟨hjid, hjo⟩, h.dispatchable, hx, hxid, hr, hrid, hp, hpid⟩, ⟨hready, hkey⟩, hstructured,
    hversion, hapiKey, hnonce⟩

/-- A waiting item whose rubric version stands is prepared from what its job has frozen. -/
theorem prepareItem_of_stands (hw : WellFormed env s) {job : GradingJob} {item : GradingJobItem}
    {now : Time} (hs : Sourced env s job) (h : Waiting s job item now) (hstands : s.RubricStands job) :
    ∃ prepared, s.prepareItem env item.id item.dispatchVersion now = .ok (some prepared) ∧
      prepared.BuiltFrom env job.toJobSnapshot := by
  obtain ⟨x, r, p, key, structured, apiKey, nonce, hrows, ⟨hready, hkey⟩,
    ⟨hstructured, haccepts, hfrozen⟩, hversion, hapiKey, hnonce⟩ := h.rows hw hs
  have hconfirmed : r.status = .confirmed := by
    obtain ⟨r', hr', hid, hconfirmed⟩ := hstands
    rwa [eq_of_key_eq (rubricIds_nodup hw.sound) hrows.rubric_mem hr' (hrows.rubric_is.trans hid.symm)]
  refine ⟨_, prepareItem_eq_some.2 ⟨item, job, x, r, p, key, structured, apiKey, nonce,
    preparationRow_of_rows hw hrows, hkey, hstructured, hapiKey, hnonce, ⟨hready, hconfirmed, hversion⟩,
    hs.parameters, haccepts, rfl⟩, ?_⟩
  exact ⟨⟨rfl, hrows.job_is.2.symm⟩, ⟨rfl, rfl, rfl⟩, ⟨hrows.rubric_is, hfrozen⟩,
    ⟨hrows.provider_is, hversion, rfl, rfl⟩, ⟨rfl, rfl, rfl, rfl, rfl, rfl⟩⟩

/-- One whose version is superseded is refused. -/
theorem prepareItem_of_superseded (hw : WellFormed env s) {job : GradingJob} {item : GradingJobItem}
    {now : Time} (hs : Sourced env s job) (h : Waiting s job item now)
    (hstands : ¬s.RubricStands job) :
    s.prepareItem env item.id item.dispatchVersion now = .error immutableInputsInvalid := by
  obtain ⟨x, r, p, key, structured, apiKey, nonce, hrows, ⟨hready, hkey⟩, ⟨hstructured, -⟩, hversion,
    hapiKey, hnonce⟩ := h.rows hw hs
  have hsuperseded : r.status ≠ .confirmed := fun hconfirmed =>
    hstands ⟨r, hrows.rubric_mem, hrows.rubric_is, hconfirmed⟩
  unfold prepareItem
  simp only [preparationRow_of_rows hw hrows, hkey, hstructured, hapiKey, hnonce]
  simp only [beq_eq_false_iff_ne.2 hsuperseded, Bool.and_false, Bool.false_and, require]
  rfl

/-- **Only the rubric version of a waiting item can have become invalid.** -/
theorem prepareItem_iff (hw : WellFormed env s) {job : GradingJob} {item : GradingJobItem}
    {now : Time} (hs : Sourced env s job) (h : Waiting s job item now) :
    (∃ prepared, s.prepareItem env item.id item.dispatchVersion now = .ok (some prepared) ∧
      prepared.BuiltFrom env job.toJobSnapshot) ↔ s.RubricStands job := by
  refine ⟨?_, prepareItem_of_stands hw hs h⟩
  rintro ⟨prepared, hok, -⟩
  by_contra hstands
  rw [prepareItem_of_superseded hw hs h hstands] at hok
  cases hok

/-! ## Runs that leave the rubrics of open batches alone -/

/-- The action supersedes the rubric version of a batch that is still graded, or grades again in a
batch whose version is superseded. -/
def strands (s : Store) : Action env → Prop
  | .confirmRubric ownerId assignmentId rubricId providerId model now =>
    (∃ s', s.confirmRubric env ownerId assignmentId rubricId providerId model now = .ok (true, s')) ∧
      ∃ j ∈ s.jobs, (j.assignmentId = assignmentId ∧ j.ownerId = ownerId) ∧ j.usesProvider = true
  | .controlGradingJob teacher jobId action now =>
    (∃ s', s.controlGradingJob teacher jobId action now = .ok (some jobId, s')) ∧
      (∃ itemId, action = .retry itemId) ∧ ∃ j ∈ s.jobs, j.id = jobId ∧ ¬s.RubricStands j
  | _ => False

/-- Every batch that is still graded has the confirmed rubric version. -/
def Standing (s : Store) : Prop := ∀ j ∈ s.jobs, j.usesProvider = true → s.RubricStands j

theorem RubricStands.congr {j j' : GradingJob} (h : s.RubricStands j)
    (hsame : j'.toJobSnapshot = j.toJobSnapshot) : s.RubricStands j' := by
  obtain ⟨r, hr, hid, hconfirmed⟩ := h
  exact ⟨r, hr, by rw [hid, hsame], hconfirmed⟩

theorem RubricStands.move {j : GradingJob} (h : Move env R keep s s')
    (hkeep : ∀ r ∈ s.rubrics, r.id = j.rubricVersionId → keep r) (hstands : s.RubricStands j) :
    s'.RubricStands j := by
  obtain ⟨r, hr, hid, hconfirmed⟩ := hstands
  obtain ⟨r', hr', hident, -, hstays⟩ := h.rubric_kept hr
  exact ⟨r', hr', by rw [hident, hid], hstays hconfirmed (hkeep r hr hid)⟩

theorem Created.stands {job : GradingJob} {items : List GradingJobItem}
    (h : Created env s s' job items) : s'.RubricStands job := by
  obtain ⟨⟨r, hr, hid, -, -, hconfirmed⟩, -⟩ := jobInsertCheck_eq_ok h.job_check
  have hrubrics : s'.rubrics = s.rubrics := by rw [h.eq]
  exact ⟨r, hrubrics ▸ hr, hid, hconfirmed⟩

theorem Work.standing (hc : ∀ j ∈ s.jobs, (s.batch j).Consistent) (h : Work env R keep s s')
    (hkeep : ∀ r, keep r) (hst : s.Standing) : s'.Standing := by
  intro j' hj' huses'
  rcases h.uses_provider hc hj' with ⟨items, hcreated⟩ | ⟨j, hj, hsame, huses⟩
  · exact hcreated.stands
  · exact ((hst j hj (huses huses')).move h.move fun r _ _ => hkeep r).congr hsame

/-- A confirmation that returns `False` has written nothing. -/
theorem confirmRubric_false {ownerId assignmentId rubricId providerId : Uuid} {model : String}
    {now : Time} (h : s.confirmRubric env ownerId assignmentId rubricId providerId model now =
      .ok (false, s')) : s' = s := by
  unfold confirmRubric at h
  split at h
  · split at h
    · split at h
      all_goals
        simp only [bind_eq_ok] at h
        obtain ⟨s₁, -, s₂, -, s₃, -, s₄, -, hret⟩ := h
        cases hret
    · cases h
      rfl
  · cases h
    rfl

/-- The rubric version of a job belongs to the assignment of the job. -/
theorem rubric_of_job (hw : WellFormed env s) {j : GradingJob} (hj : j ∈ s.jobs) {r : RubricVersion}
    (hr : r ∈ s.rubrics) (hid : r.id = j.rubricVersionId) :
    r.assignmentId = j.assignmentId ∧ r.ownerId = j.ownerId := by
  obtain ⟨x, hx, hxid, hxa, hxo, -⟩ := hw.refs.rubrics j hj
  rw [eq_of_key_eq (rubricIds_nodup hw.sound) hr hx (hid.trans hxid.symm)]
  exact ⟨hxa, hxo⟩

theorem confirmRubric_standing (hw : WellFormed env s) {ownerId assignmentId rubricId providerId : Uuid}
    {model : String} {now : Time} {r : Bool} (hst : s.Standing)
    (h : s.confirmRubric env ownerId assignmentId rubricId providerId model now = .ok (r, s'))
    (ha : ¬s.strands (.confirmRubric ownerId assignmentId rubricId providerId model now : Action env)) :
    s'.Standing := by
  cases r with
  | false => rw [confirmRubric_false h]; exact hst
  | true =>
    have hkept := confirmRubric_kept h
    intro j hj huses
    have hjs : j ∈ s.jobs := hkept.1.jobs ▸ hj
    refine (hst j hjs huses).move (R := fun _ _ => True) (.inputs hkept) fun x hx hid hof => ?_
    obtain ⟨hassignment, howner⟩ := rubric_of_job hw hjs hx hid
    rw [hassignment, howner] at hof
    exact ha ⟨⟨s', h⟩, j, hjs, hof, huses⟩

theorem controlGradingJob_standing (hk : s.Keys) {teacher : Option Uuid} {jobId : Uuid}
    {action : ControlAction} {now : Time} {r : Option Uuid} (hst : s.Standing)
    (h : s.controlGradingJob teacher jobId action now = .ok (r, s'))
    (ha : ¬s.strands (.controlGradingJob teacher jobId action now : Action env)) : s'.Standing := by
  -- the rubrics are not touched, so only the job that is written matters
  have hof {job job' : GradingJob} (hjob : job ∈ s.jobs) (hrubrics : s'.rubrics = s.rubrics)
      (hjobs : s'.jobs = replaceRow (·.id) job job' s.jobs)
      (hnew : job'.usesProvider = true → s.RubricStands job') : s'.Standing := by
    have hstands {j : GradingJob} (hj : s.RubricStands j) : s'.RubricStands j := by
      unfold RubricStands
      rw [hrubrics]
      exact hj
    intro j hj huses
    rw [hjobs] at hj
    rcases (mem_replaceRow hjob).1 hj with rfl | ⟨hj, -⟩
    · exact hstands (hnew huses)
    · exact hstands (hst j hj huses)
  rcases controlGradingJob_cases hk h with
    ⟨-, rfl⟩ | ⟨job, -, hid, rfl, ⟨job', hc, -⟩ | ⟨-, hc⟩ | ⟨item, rfl, -, hc⟩⟩
  · exact hst
  · refine hof hc.job_mem (by rw [hc.eq]) (by rw [hc.eq]) fun _ => ?_
    refine (hst job hc.job_mem (usesProvider_iff.2 ?_)).congr (jobUpdateCheck_snapshot hc.job_check)
    rcases hc.move with ⟨hopen | hopen, -⟩ | ⟨hopen, -⟩ <;> simp [hopen]
  · refine hof hc.job_mem (by rw [hc.eq]) (by rw [hc.eq]) fun huses => ?_
    simp [usesProvider_iff, cancelJob] at huses
  · refine hof hc.job_mem (by rw [hc.eq]) (by rw [hc.eq]) fun _ => ?_
    refine RubricStands.congr ?_ (jobUpdateCheck_snapshot hc.job_check)
    by_contra hnot
    exact ha ⟨⟨s', h⟩, ⟨item.id, rfl⟩, job, hc.job_mem, hid, hnot⟩

theorem step_standing (hs : Steady env s) {a : Action env} (hst : s.Standing) (ha : ¬s.strands a) :
    (step env s a).Standing := by
  refine step_induction (P := Standing) hst fun s' h => ?_
  have hwork (hcontrol : ¬isControl a) (hkeep : ∀ r, ¬supersedes a r) : s'.Standing := by
    have hworks := exec_works (R := fun _ _ => True) hs.wellFormed.sound (failureIs_true a) hcontrol h
    clear h
    suffices hall : Steady env s' ∧ s'.Standing from hall.2
    induction hworks with
    | refl => exact ⟨hs, hst⟩
    | tail _ hw ih => exact ⟨hw.move.steady ih.1, hw.standing ih.1.consistent hkeep ih.2⟩
  cases a with
  | confirmRubric =>
    obtain ⟨_, h⟩ := map_snd_eq_ok.1 h
    exact confirmRubric_standing hs.wellFormed hst h ha
  | controlGradingJob =>
    obtain ⟨_, h⟩ := map_snd_eq_ok.1 h
    exact controlGradingJob_standing hs.wellFormed.sound.keys hst h ha
  | _ => exact hwork id fun _ => id

end Store

namespace Sample

open Store

theorem ready_waiting : Waiting (after sampleRuntime setup) jobRow itemRow 1 := by
  rw [after_setup]
  exact ⟨by simp [ready], by simp [ready], rfl, .inl rfl, rfl, by decide⟩

theorem setup_unstranded :
    Runs.Guarded (step sampleRuntime) (fun s a => ¬s.strands a) empty setup := by
  have hempty : (Runs.run (step sampleRuntime) empty (setup.take 5)).jobs = [] := by decide +kernel
  refine ⟨id, id, id, id, id, ?_, id, id, id, id, trivial⟩
  rintro ⟨-, j, hj, -⟩
  exact List.not_mem_nil (hempty ▸ hj)

/-- The teacher writes and confirms a second rubric version. -/
def revision : List (Action sampleRuntime) :=
  [.createRubricDraft teacher assignment ⟨"r", ⟨false, 10, 0⟩, ⟨false, 1, 0⟩⟩ 40 1,
    .saveGeneratedRubric teacher assignment 40 provider 1 "m" validRubric,
    .confirmRubric teacher assignment 40 provider "m" 2]

theorem revision_refused : Waiting (after sampleRuntime (setup ++ revision)) jobRow itemRow 3 ∧
    (after sampleRuntime (setup ++ revision)).prepareItem sampleRuntime itemRow.id
      itemRow.dispatchVersion 3 = .error immutableInputsInvalid := by
  have hrun : after sampleRuntime (setup ++ revision) =
      Runs.run (step sampleRuntime) ready revision := by
    rw [after, Runs.run_append, ← after, after_setup]
  have hframe : Frame ready (Runs.run (step sampleRuntime) ready revision) .rubrics :=
    run_frame (after_setup ▸ after_wellFormed setup) (by decide)
  have hwaiting : Waiting (after sampleRuntime (setup ++ revision)) jobRow itemRow 3 := by
    rw [hrun, hframe]
    exact ⟨List.mem_singleton_self _, List.mem_singleton_self _, rfl, .inl rfl, rfl, by decide⟩
  refine ⟨hwaiting, prepareItem_of_superseded (after_wellFormed _)
    (after_sourced _ _ hwaiting.job_mem) hwaiting ?_⟩
  have hrubrics : (Runs.run (step sampleRuntime) ready revision).rubrics.all
      (fun r => r.id != rubricVersion || r.status != .confirmed) = true := by decide +kernel
  rintro ⟨r, hr, hid, hconfirmed⟩
  have := List.all_eq_true.1 hrubrics r (hrun ▸ hr)
  rw [hid, hconfirmed] at this
  cases this

end Sample

end PaperGrading
