import PaperGrading.Domain.Texts
import PaperGrading.Providers.Rows
import PaperGrading.Rubrics.Effects
import PaperGrading.Storage.Quota
import PaperGrading.Store.Commits

/-!
# Which creations are admitted

A creation passes the validators of `GradingJobCreate`, the gate of `check_database_growth`,
the snapshots that are validated again, the constraints of two tables and their insert
triggers.  The gate counts the characters of its operation key, which is the idempotency key
behind the owner; the snapshot counts those of the address that the URL policy has normalised.

    of a ready assignment, confirmed rubric, tested provider and an unused key, in any store
      the services can reach, a batch is created exactly when the key has at most 151
      characters and no NUL and the address at most 2048                     (created_iff)
-/

namespace PaperGrading

/-! ## The request -/

theorem length_strip_le (env : Runtime) (s : String) : (env.strip s).length ≤ s.length := by
  unfold Runtime.strip
  rw [← String.length_toList, ← String.length_toList, String.toList_ofList, List.length_reverse]
  calc _ ≤ (s.toList.dropWhile env.isSpace).reverse.length :=
        (List.dropWhile_sublist _).length_le
    _ = (s.toList.dropWhile env.isSpace).length := List.length_reverse
    _ ≤ s.toList.length := (List.dropWhile_sublist _).length_le

/-- The validators of `GradingJobCreate`. -/
def GradingJobCreate.validate (env : Runtime) (submissionIds : List Uuid) (idempotencyKey : String) :
    Option GradingJobCreate :=
  if h : (1 ≤ submissionIds.length ∧ submissionIds.length ≤ 100) ∧
      (1 ≤ idempotencyKey.length ∧ idempotencyKey.length ≤ 200) ∧
      env.strip idempotencyKey ≠ "" ∧ submissionIds.Nodup then
    some ⟨submissionIds, env.strip idempotencyKey, h.1, h.2.2.2,
      h.2.2.1, (length_strip_le env idempotencyKey).trans h.2.1.2⟩
  else none

/-- `GRADING_JOB_BASE_RESERVATION_BYTES`. -/
def gradingJobBaseReservationBytes : Nat := 64 * 1024

/-- `GRADING_JOB_ITEM_RESERVATION_BYTES`. -/
def gradingJobItemReservationBytes : Nat := 256 * 1024

namespace GradingJobCreate

def operationKey (p : GradingJobCreate) (ownerId : Uuid) : String :=
  "grading-job:" ++ uuidText ownerId ++ ":" ++ p.idempotencyKey

def requestedBytes (p : GradingJobCreate) : Nat :=
  gradingJobBaseReservationBytes + p.submissionIds.length * gradingJobItemReservationBytes

end GradingJobCreate

/-! ## The gate -/

/-- The database row of `quota_resource_states`, disabled or with its limits, and what
`pg_database_size` says. -/
structure DatabaseQuota where
  limits : Option QuotaLimits
  used : Option Nat

namespace DatabaseQuota

/-- `check_database_growth`. -/
def checkDatabaseGrowth (q : DatabaseQuota) (operationKey : String) (requestedBytes : Nat) :
    QuotaAnswer :=
  if btrimEmpty operationKey ∨ 200 < operationKey.length then
    ⟨.unavailable, none, 0, 0, requestedBytes, none, some "quota_request_invalid"⟩
  else
    match q.limits with
    | none => ⟨.ok, none, 0, 0, requestedBytes, none, none⟩
    | some l =>
      match q.used with
      | none => ⟨.unavailable, none, 0, 0, requestedBytes, some l.capacityBytes,
          some "database_usage_unavailable"⟩
      | some used => ⟨QuotaStore.growthState l (used + requestedBytes), none, used, 0,
          requestedBytes, some l.capacityBytes, none⟩

/-- The quota is disabled, or its limit is not reached. -/
def HasRoom (q : DatabaseQuota) (requestedBytes : Nat) : Prop :=
  ∀ l, q.limits = some l → ∃ used, q.used = some used ∧ used + requestedBytes < l.hardLimit

end DatabaseQuota

/-- `_parse_result` lets a creation go on in these states. -/
def QuotaAnswer.passes (a : QuotaAnswer) : Bool := a.state == .ok || a.state == .warning

namespace Store

/-- `create_or_get_job` with the gate that it asks. -/
def createUnderQuota (env : Runtime) (s : Store) (quota : DatabaseQuota)
    (ownerId assignmentId : Uuid) (payload : GradingJobCreate) (seed : CreationSeed) :
    Except TxError ((Uuid × Bool) × Store) :=
  s.createOrGetJob env ownerId assignmentId payload
    (quota.checkDatabaseGrowth (payload.operationKey ownerId) payload.requestedBytes).passes seed

end Store

/-! ## What the services hand over -/

/-- The bounds of `ProviderConfigCreate` and `ProviderConfigUpdate` that the columns do not
repeat.  The address is normalised after its own bound was checked. -/
structure ProviderConfigUpdateValues.InBounds (v : ProviderConfigUpdateValues) : Prop where
  timeout : 0 < v.connection.timeoutSeconds.toRat ∧ v.connection.timeoutSeconds.toRat ≤ 300
  digits : v.connection.timeoutSeconds.fits 8 3 = true
  concurrency : 1 ≤ v.maxConcurrency ∧ v.maxConcurrency ≤ 100

/-- The values of a provider come through the models of its service. -/
def Action.Served {env : Runtime} : Action env → Prop
  | .createProvider _ values => values.InBounds
  | .updateProvider _ _ values => values.InBounds
  | _ => True

namespace Store

open Table

variable {env : Runtime} {s s' : Store}

/-- What the rows say that a creation copies. -/
structure Admissible (env : Runtime) (s : Store) : Prop where
  assignments : ∀ a ∈ s.assignments, assignmentCheck a = .ok ()
  rubrics : ∀ r ∈ s.rubrics, ∀ x, r.structuredRubric = some x → x.accepts env = true
  providers : ∀ p ∈ s.providers, p.columns.InBounds

theorem admissible_empty : Admissible env empty :=
  ⟨by simp [empty], by simp [empty], by simp [empty]⟩

/-! ### Assignments -/

theorem Admissible.setAssignments (h : Admissible env s) {p : Assignment → Bool}
    {set : Assignment → Assignment}
    (hset : ∀ a ∈ s.assignments, p a = true → assignmentCheck (set a) = .ok ()) :
    ∀ a ∈ setWhere p set s.assignments, assignmentCheck a = .ok () := by
  intro a ha
  rcases mem_setWhere.1 ha with ⟨a₀, ha₀, hp, rfl⟩ | ⟨hm, -⟩
  · exact hset a₀ ha₀ hp
  · exact h.assignments a hm

theorem createAssignment_admissible (h : Admissible env s) {ownerId assignmentId rubricId : Uuid}
    {title instructions : String} {draft : RubricDraftCreate} {now : Time}
    (hcreate : s.createAssignment env ownerId title instructions draft assignmentId rubricId now =
      .ok s') : Admissible env s' := by
  unfold createAssignment at hcreate
  simp only [bind_eq_ok, insertAssignment_eq_ok, insertRubric_eq_ok] at hcreate
  obtain ⟨_, ⟨rfl, -, hcheck, -⟩, r, hr, rfl, -⟩ := hcreate
  refine ⟨fun a ha => ?_, fun x hx y hy => ?_, h.providers⟩
  · rcases List.mem_append.1 ha with ha | ha
    · exact h.assignments a ha
    · rw [List.mem_singleton.1 ha]
      exact hcheck
  · rcases List.mem_append.1 hx with hx | hx
    · exact h.rubrics x hx y hy
    · rw [List.mem_singleton.1 hx, (draftRubric_eq_ok hr).2.2.2.2] at hy
      cases hy

theorem updateAssignment_admissible (h : Admissible env s) {ownerId assignmentId : Uuid}
    {title instructions : String} {r : Bool}
    (hupdate : s.updateAssignment ownerId assignmentId title instructions = .ok (r, s')) :
    Admissible env s' := by
  unfold updateAssignment at hupdate
  split at hupdate
  · cases hupdate
    exact h
  · split at hupdate
    · simp only [bind_eq_ok, updateAssignments_eq_ok] at hupdate
      obtain ⟨_, ⟨rfl, hcheck⟩, hret⟩ := hupdate
      cases hret
      exact ⟨h.setAssignments fun a ha hp => (hcheck a ha hp).2, h.rubrics, h.providers⟩
    · cases hupdate
      exact h

theorem updateAssignmentStatus_admissible (h : Admissible env s) {ownerId assignmentId : Uuid}
    {action : AssignmentStatusAction} {r : Bool}
    (hupdate : s.updateAssignmentStatus ownerId assignmentId action = .ok (r, s')) :
    Admissible env s' := by
  rcases updateAssignmentStatus_cases hupdate with rfl | ⟨status, rfl, -⟩
  · exact h
  · exact ⟨h.setAssignments fun a ha _ => h.assignments a ha, h.rubrics, h.providers⟩

/-! ### Rubrics -/

theorem createRubricDraft_admissible (h : Admissible env s) {ownerId assignmentId rubricId : Uuid}
    {draft : RubricDraftCreate} {now : Time} {r : Bool} (hframe : Frame s s' .rubrics)
    (hcreate : s.createRubricDraft env ownerId assignmentId draft rubricId now = .ok (r, s')) :
    Admissible env s' := by
  rcases createRubricDraft_cases hcreate with rfl | ⟨-, hassignments, -, row, hnew⟩
  · exact h
  · refine ⟨hassignments ▸ h.assignments, fun x hx y hy => ?_, ?_⟩
    · rw [hnew.rubrics] at hx
      rcases List.mem_append.1 hx with hx | hx
      · exact h.rubrics x hx y hy
      · rw [List.mem_singleton.1 hx, hnew.structured] at hy
        cases hy
    · rw [hframe]
      exact h.providers

/-- A save or an edit writes content that was validated. -/
theorem Admissible.replaceDraft (h : Admissible env s) {draft new : RubricVersion}
    (hdraft : draft ∈ s.rubrics) {structured : ValidRubric env}
    (hnew : new.structuredRubric = some structured.rubric) :
    Admissible env { s with rubrics := replaceRow (·.id) draft new s.rubrics } := by
  refine ⟨h.assignments, fun x hx y hy => ?_, h.providers⟩
  rcases (mem_replaceRow hdraft).1 hx with rfl | ⟨hm, -⟩
  · rw [hnew] at hy
    cases hy
    exact structured.accepted
  · exact h.rubrics x hm y hy

theorem afterConfirm_structured (ownerId assignmentId rubricId : Uuid) (now : Time)
    (r : RubricVersion) : (afterConfirm ownerId assignmentId rubricId now r).structuredRubric =
      r.structuredRubric := by
  unfold afterConfirm
  split
  · rfl
  · split <;> rfl

theorem ConfirmedRubric.admissible (h : Admissible env s)
    {ownerId assignmentId rubricId providerId : Uuid} {model : String} {now : Time}
    {draft : RubricVersion}
    (hc : ConfirmedRubric s s' ownerId assignmentId rubricId providerId model now draft) :
    Admissible env s' := by
  rw [hc.eq]
  refine ⟨h.setAssignments fun a ha _ => h.assignments a ha, fun x hx y hy => ?_, h.providers⟩
  obtain ⟨r, hr, rfl⟩ := List.mem_map.1 hx
  rw [afterConfirm_structured] at hy
  exact h.rubrics r hr y hy

/-! ### Providers -/

theorem columns_invalidate (old new : ProviderConfig) :
    (invalidateProviderTest old new).columns = new.columns := by
  unfold invalidateProviderTest
  split <;> rfl

theorem updateMatching_admissible (h : Admissible env s) {p : ProviderConfig → Bool}
    {set : ProviderConfig → ProviderConfig} {r : Bool}
    (hset : ∀ x ∈ s.providers, (set x).columns.InBounds)
    (hupdate : s.updateMatching p set = .ok (r, s')) : Admissible env s' := by
  unfold updateMatching updateProviders at hupdate
  split at hupdate
  · simp only [bind_eq_ok, updateWhere_eq_ok] at hupdate
    obtain ⟨s₁, ⟨rows, ⟨rfl, -⟩, _, -, h₁⟩, hret⟩ := hupdate
    cases h₁
    cases hret
    refine ⟨h.assignments, h.rubrics, fun x hx => ?_⟩
    rcases mem_setWhere.1 hx with ⟨x₀, hx₀, -, rfl⟩ | ⟨hm, -⟩
    · rw [columns_invalidate]
      exact hset x₀ hx₀
    · exact h.providers x hm
  · cases hupdate
    exact h

theorem createProvider_admissible (h : Admissible env s) {id : Uuid}
    {values : ProviderConfigUpdateValues} (hvalues : values.InBounds)
    (hcreate : s.createProvider id values = .ok s') : Admissible env s' := by
  unfold createProvider at hcreate
  simp only [bind_eq_ok, insertRow_eq_ok] at hcreate
  obtain ⟨rows, ⟨rfl, -⟩, _, -, hret⟩ := hcreate
  cases hret
  refine ⟨h.assignments, h.rubrics, fun x hx => ?_⟩
  rcases List.mem_append.1 hx with hx | hx
  · exact h.providers x hx
  · rw [List.mem_singleton.1 hx]
    exact hvalues

/-! ### Runs -/

/-- **The rows stay admissible.** -/
theorem step_admissible (hs : Sound env s) (h : Admissible env s) {a : Action env}
    (ha : a.Served) : Admissible env (step env s a) := by
  refine step_induction h fun s' hexec => ?_
  have hframe := exec_frame hs hexec
  cases a with
  | createAssignment => exact createAssignment_admissible h hexec
  | updateAssignment =>
    obtain ⟨_, hexec⟩ := map_snd_eq_ok.1 hexec
    exact updateAssignment_admissible h hexec
  | updateAssignmentStatus =>
    obtain ⟨_, hexec⟩ := map_snd_eq_ok.1 hexec
    exact updateAssignmentStatus_admissible h hexec
  | createRubricDraft =>
    obtain ⟨_, hexec⟩ := map_snd_eq_ok.1 hexec
    exact createRubricDraft_admissible h hframe hexec
  | saveGeneratedRubric =>
    obtain ⟨_, hexec⟩ := map_snd_eq_ok.1 hexec
    rcases saveGeneratedRubric_cases hs hexec with ⟨-, rfl⟩ | ⟨-, draft, he, rfl⟩
    · exact h
    · exact h.replaceDraft he.mem rfl
  | updateStructuredRubric =>
    obtain ⟨_, hexec⟩ := map_snd_eq_ok.1 hexec
    rcases updateStructuredRubric_cases hs hexec with ⟨-, rfl⟩ | ⟨-, draft, he, -, -, rfl⟩
    · exact h
    · exact h.replaceDraft he.mem rfl
  | confirmRubric =>
    obtain ⟨_, hexec⟩ := map_snd_eq_ok.1 hexec
    rcases confirmRubric_cases hs hexec with ⟨-, rfl⟩ | ⟨-, draft, hc⟩
    · exact h
    · exact hc.admissible h
  | createProvider => exact createProvider_admissible h ha hexec
  | updateProvider =>
    obtain ⟨_, hexec⟩ := map_snd_eq_ok.1 hexec
    exact updateMatching_admissible h (by intro _ _; exact ha) hexec
  | markTested | enableTested | disableEnabled =>
    obtain ⟨_, hexec⟩ := map_snd_eq_ok.1 hexec
    exact updateMatching_admissible h (by intro x hx; exact h.providers x hx) hexec
  | reserveSubmission | transitionSubmission =>
    rw [hframe]
    exact ⟨h.assignments, h.rubrics, h.providers⟩
  | _ =>
    obtain ⟨hassignments, hrubrics, hproviders, -⟩ := hframe
    exact ⟨hassignments ▸ h.assignments, hrubrics ▸ h.rubrics, hproviders ▸ h.providers⟩

theorem after_admissible {as : List (Action env)} (hserved : ∀ a ∈ as, a.Served) :
    Admissible env (after env as) := by
  induction as using List.reverseRecOn with
  | nil => exact admissible_empty
  | append_singleton as a ih =>
    rw [after_concat]
    exact step_admissible (after_wellFormed as).sound
      (ih fun b hb => hserved b (List.mem_append_left _ hb))
      (hserved a (List.mem_append_right _ List.mem_cons_self))

/-! ## A creation that is wanted -/

/-- An assignment, rubric, submissions and provider that a batch can be made of, and a key that is
not in use. -/
structure Creatable (s : Store) (ownerId assignmentId : Uuid) (payload : GradingJobCreate)
    (rubric : RubricVersion) (provider : ProviderConfig) : Prop where
  assignment : ∃ a ∈ s.assignments, a.id = assignmentId ∧ a.ownerId = ownerId ∧ a.status = .ready
  rubric_mem : rubric ∈ s.rubrics
  rubric_of : rubric.assignmentId = assignmentId ∧ rubric.ownerId = ownerId
  confirmed : rubric.status = .confirmed
  submissions : ∀ id ∈ payload.submissionIds, ∃ x ∈ s.submissions, x.id = id ∧
    x.assignmentId = assignmentId ∧ x.ownerId = ownerId ∧ x.status = .ready
  provider_mem : provider ∈ s.providers
  provider_of : rubric.providerConfigId = some provider.id
  enabled : provider.status = .enabled
  tested : provider.testedConfigVersion = some provider.configVersion
  default_model : provider.defaultModel = rubric.model
  profile : ∃ x ∈ provider.modelProfiles, provider.defaultModel = some x.1
  unused : s.jobByKey ownerId payload.idempotencyKey = none

/-- The identifiers that are drawn are new. -/
structure FreshIds (s : Store) (payload : GradingJobCreate) (seed : CreationSeed) : Prop where
  job : ∀ j ∈ s.jobs, j.id ≠ seed.jobId
  items : ∀ i ∈ s.items, ∀ n < payload.submissionIds.length, i.id ≠ seed.itemId n
  apart : ∀ m n, m < payload.submissionIds.length → n < payload.submissionIds.length →
    seed.itemId m = seed.itemId n → m = n

/-- The rows that a creation reads. -/
structure Inputs (s : Store) (ownerId assignmentId : Uuid) (payload : GradingJobCreate)
    (rubric : RubricVersion) (provider : ProviderConfig) (assignment : Assignment)
    (structured : StructuredRubric) (model : String) (profile : ProviderModelProfile) : Prop where
  eq : s.creationInputs ownerId assignmentId payload =
    .ok (assignment, rubric, structured, provider, model, profile)
  assignment_mem : assignment ∈ s.assignments
  assignment_of : assignment.id = assignmentId ∧ assignment.ownerId = ownerId
  ready : assignment.status = .ready
  structured : rubric.structuredRubric = some structured
  model : rubric.model = some model

theorem confirmed_content {r : RubricVersion} (hr : r.rowCheck env = .ok ())
    (hc : r.status = .confirmed) : ∃ structured, r.structuredRubric = some structured := by
  unfold RubricVersion.rowCheck at hr
  simp only [bind_eq_ok, require_eq_ok, hc, Bool.and_eq_true] at hr
  obtain ⟨_, -, _, -, _, -, _, -, _, -, _, -, ⟨-, hstructured⟩, -⟩ := hr
  exact Option.isSome_iff_exists.1 hstructured

theorem Creatable.inputs (hs : Sound env s) {ownerId assignmentId : Uuid}
    {payload : GradingJobCreate} {rubric : RubricVersion} {provider : ProviderConfig}
    (h : Creatable s ownerId assignmentId payload rubric provider) :
    ∃ assignment structured model profile,
      Inputs s ownerId assignmentId payload rubric provider assignment structured model profile := by
  obtain ⟨structured, hstructured⟩ :=
    confirmed_content (hs.inputs.rubric_check _ h.rubric_mem) h.confirmed
  obtain ⟨x, hx, hmodel⟩ := h.profile
  have hrubric : s.rubrics.find? (fun r => r.assignmentId == assignmentId &&
      r.ownerId == ownerId && r.status == .confirmed) = some rubric := by
    have hq : (rubric.assignmentId == assignmentId && rubric.ownerId == ownerId &&
        rubric.status == .confirmed) = true := by
      simp [h.rubric_of, h.confirmed]
    have hsome : (s.rubrics.find? fun r => r.assignmentId == assignmentId &&
        r.ownerId == ownerId && r.status == .confirmed).isSome :=
      List.find?_isSome.2 ⟨_, h.rubric_mem, hq⟩
    obtain ⟨r, hr⟩ := Option.isSome_iff_exists.1 hsome
    have hrq := List.find?_some hr
    simp only [Bool.and_eq_true, beq_iff_eq] at hrq hq
    rw [hr, eq_of_conflict hs.inputs.rubrics (List.mem_of_find?_eq_some hr) h.rubric_mem
      (by simp [rubricConflict, hrq, hq]) (by simp [rubricConflict, hrq, hq])]
  have hprovider : s.providers.find? (·.id == provider.id) = some provider :=
    find?_eq_some_of_key hs.inputs.providers h.provider_mem _ (by simp) (by simp)
  obtain ⟨a, ha⟩ : ∃ a, s.assignments.find? (fun a => a.id == assignmentId &&
      a.ownerId == ownerId && a.status == .ready) = some a := by
    obtain ⟨a, ha, hid, howner, hready⟩ := h.assignment
    exact Option.isSome_iff_exists.1 (List.find?_isSome.2 ⟨a, ha, by simp [hid, howner, hready]⟩)
  have haq := List.find?_some ha
  simp only [Bool.and_eq_true, beq_iff_eq] at haq
  obtain ⟨⟨name, profile⟩, hprofile⟩ : ∃ y, provider.modelProfiles.find? (·.1 == x.1) = some y :=
    Option.isSome_iff_exists.1 (List.find?_isSome.2 ⟨x, hx, by simp⟩)
  have hsubmissions : (payload.submissionIds.all fun id => s.submissions.any fun y => y.id == id &&
      y.assignmentId == assignmentId && y.ownerId == ownerId && y.status == .ready) = true := by
    rw [List.all_eq_true]
    intro id hid
    obtain ⟨y, hy, hyid, hya, hyo, hyr⟩ := h.submissions id hid
    exact List.any_eq_true.2 ⟨y, hy, by simp [hyid, hya, hyo, hyr]⟩
  refine ⟨a, structured, x.1, profile, ?_, List.mem_of_find?_eq_some ha, haq.1, haq.2,
    hstructured, h.default_model ▸ hmodel⟩
  unfold creationInputs
  simp only [ha, hrubric, hstructured, h.provider_of, ← h.default_model, hmodel, hsubmissions,
    hprovider, h.enabled, h.tested, beq_self_eq_true, Bool.and_self, hprofile]
  rfl

end Store

/-! ## The checks -/

theorem length_ne_zero_of_not_blank {s : String} (h : btrimEmpty s = false) : 1 ≤ s.length := by
  rcases Nat.eq_zero_or_pos s.length with h0 | h0
  · rw [String.length_eq_zero_iff.1 h0] at h
    exact absurd h (by decide)
  · exact h0

/-- A stripped key does not begin with a space. -/
theorem not_btrimEmpty_strip {env : Runtime} (hspace : env.isSpace ' ' = true) {s : String}
    (h : env.strip s ≠ "") : btrimEmpty (env.strip s) = false := by
  rw [Bool.eq_false_iff]
  intro hb
  have hall := btrimEmpty_iff.1 hb
  unfold Runtime.strip at h hall
  rw [String.toList_ofList] at hall
  generalize hl : (s.toList.dropWhile env.isSpace).reverse = l at h hall
  have hne : l.dropWhile env.isSpace ≠ [] := by
    intro he
    rw [he] at h
    exact h rfl
  have hlast := hall _ (List.mem_reverse.2 (List.head_mem hne))
  have := List.head_dropWhile_not env.isSpace hne
  rw [hlast, hspace] at this
  cases this

namespace GradingJobCreate

variable {env : Runtime} {submissionIds : List Uuid} {idempotencyKey : String}
  {payload : GradingJobCreate}

theorem validate_key (hspace : env.isSpace ' ' = true)
    (h : validate env submissionIds idempotencyKey = some payload) :
    btrimEmpty payload.idempotencyKey = false := by
  unfold validate at h
  split at h
  next hvalid =>
    cases h
    exact not_btrimEmpty_strip hspace hvalid.2.2.1
  · cases h

/-- The operation key has 49 characters before the idempotency key. -/
theorem length_operationKey (p : GradingJobCreate) (ownerId : Uuid) :
    (p.operationKey ownerId).length = 49 + p.idempotencyKey.length := by
  have howner : (uuidText ownerId).length = 36 := length_uuidText ownerId
  unfold operationKey
  rw [String.length_append, String.length_append, String.length_append, howner]
  simp only [show "grading-job:".length = 12 from rfl, show ":".length = 1 from rfl]

theorem operationKey_not_blank (p : GradingJobCreate) (ownerId : Uuid) :
    btrimEmpty (p.operationKey ownerId) = false := by
  rw [Bool.eq_false_iff]
  intro hb
  have hg : 'g' ∈ (p.operationKey ownerId).toList := by
    unfold operationKey
    simp
  exact absurd (btrimEmpty_iff.1 hb 'g' hg) (by decide)

end GradingJobCreate

/-- **With room in the database the gate opens exactly for the keys it has characters for.** -/
theorem DatabaseQuota.passes_iff {quota : DatabaseQuota} {payload : GradingJobCreate}
    (hroom : quota.HasRoom payload.requestedBytes) (ownerId : Uuid) :
    (quota.checkDatabaseGrowth (payload.operationKey ownerId) payload.requestedBytes).passes =
      true ↔ payload.idempotencyKey.length ≤ 151 := by
  unfold checkDatabaseGrowth
  rw [payload.operationKey_not_blank ownerId, payload.length_operationKey ownerId]
  split
  next hlong =>
    refine iff_of_false (by simp [QuotaAnswer.passes]) ?_
    simp only [Bool.false_eq_true, false_or] at hlong
    omega
  next hshort =>
    simp only [Bool.false_eq_true, false_or] at hshort
    refine iff_of_true ?_ (by omega)
    cases hlimits : quota.limits with
    | none => rfl
    | some l =>
      obtain ⟨used, hused, hlt⟩ := hroom l hlimits
      simp only [hused, QuotaAnswer.passes, QuotaStore.growthState, if_neg (Nat.not_le.2 hlt)]
      split <;> rfl

/-- Of the bounds of the snapshot only that of the address can be missed. -/
theorem ProviderConfigUpdateValues.InBounds.snapshot_accepts {p : ProviderConfig}
    (h : p.columns.InBounds) (hp : p.rowCheck = .ok ()) (profile : ProviderModelProfile) :
    (⟨p.providerType, p.baseUrl, p.timeoutSeconds, p.maxConcurrency, profile⟩ :
      GradingProviderSnapshot).accepts = true ↔ p.baseUrl.length ≤ 2048 := by
  obtain ⟨⟨hpos, hle⟩, hdigits, hlo, hhi⟩ := h
  have hurl : 1 ≤ p.baseUrl.length := by
    unfold ProviderConfig.rowCheck at hp
    simp only [bind_eq_ok, require_eq_ok, Bool.and_eq_true, Bool.not_eq_true'] at hp
    obtain ⟨_, -, _, -, _, -, _, -, _, ⟨-, hurl⟩, -⟩ := hp
    exact length_ne_zero_of_not_blank hurl
  simp only [ProviderConfig.columns] at hpos hle hdigits hlo hhi
  simp [GradingProviderSnapshot.accepts, lengthBetween, hpos, hle, hdigits, hlo, hhi]
  omega

namespace Store

open Table

variable {env : Runtime} {s : Store} {ownerId assignmentId : Uuid} {payload : GradingJobCreate}
  {rubric : RubricVersion} {provider : ProviderConfig} {assignment : Assignment}
  {structured : StructuredRubric} {model : String} {profile : ProviderModelProfile}
  {seed : CreationSeed}

theorem assignmentCheck_texts {a : Assignment} (h : assignmentCheck a = .ok ()) :
    btrimEmpty a.title = false ∧ btrimEmpty a.instructions = false := by
  unfold assignmentCheck at h
  simp only [bind_eq_ok, require_eq_ok, Bool.not_eq_true'] at h
  obtain ⟨_, -, _, htitle, hinstructions⟩ := h
  exact ⟨htitle, hinstructions⟩

theorem model_not_blank {r : RubricVersion} (hr : r.rowCheck env = .ok ()) (hm : r.model = some model) :
    btrimEmpty model = false := by
  unfold RubricVersion.rowCheck at hr
  simp only [bind_eq_ok, require_eq_ok, hm, Bool.and_eq_true, Option.all_some,
    Bool.not_eq_true'] at hr
  obtain ⟨_, -, _, -, _, -, _, -, _, ⟨⟨-, hmodel⟩, -⟩, -⟩ := hr
  exact hmodel

theorem version_pos {p : ProviderConfig} (hp : p.rowCheck = .ok ()) : 0 < p.configVersion := by
  unfold ProviderConfig.rowCheck at hp
  simp only [bind_eq_ok, require_eq_ok, Bool.and_eq_true, decide_eq_true_eq] at hp
  obtain ⟨_, -, _, -, _, -, _, ⟨⟨hpos, -⟩, -⟩, -⟩ := hp
  exact hpos

/-- **Of the checks on the job only that of its key can fail.** -/
theorem Inputs.job_check (h : Inputs s ownerId assignmentId payload rubric provider assignment
    structured model profile) (hs : Sound env s) (ha : Admissible env s)
    (hc : Creatable s ownerId assignmentId payload rubric provider)
    (hkey : btrimEmpty payload.idempotencyKey = false) (snapshot : GradingProviderSnapshot) :
    s.jobInsertCheck (createdJob env ownerId payload assignment rubric structured provider snapshot
      model seed) = .ok () ↔ textOk payload.idempotencyKey = true := by
  have hconfirmed : (s.rubrics.any fun r => r.id == rubric.id && r.assignmentId == assignment.id &&
      r.ownerId == ownerId && r.status == .confirmed && s.assignments.any fun a =>
        a.id == r.assignmentId && a.ownerId == r.ownerId && a.status == .ready) = true := by
    refine List.any_eq_true.2 ⟨rubric, hc.rubric_mem, ?_⟩
    simp only [hc.rubric_of, h.assignment_of, hc.confirmed, beq_self_eq_true, Bool.true_and]
    exact List.any_eq_true.2 ⟨assignment, h.assignment_mem, by simp [h.assignment_of, h.ready]⟩
  have hprovider : (s.providers.any fun p => p.id == provider.id) = true :=
    List.any_eq_true.2 ⟨provider, hc.provider_mem, by simp⟩
  obtain ⟨htitle, hinstructions⟩ := assignmentCheck_texts (ha.assignments _ h.assignment_mem)
  have hmodel := model_not_blank (hs.inputs.rubric_check _ hc.rubric_mem) h.model
  have hversion := version_pos (hs.inputs.provider_check _ hc.provider_mem)
  have hprompt : btrimEmpty (buildGradingContractSnapshot env structured).promptVersion.text = false := by
    show btrimEmpty PromptVersion.current.text = false
    decide
  have hschema : btrimEmpty (buildGradingContractSnapshot env structured).resultSchemaVersion = false := by
    show btrimEmpty gradeResultSchemaVersion = false
    decide
  unfold jobInsertCheck
  simp only [createdJob, bind_eq_ok, require_eq_ok, hconfirmed, hprovider, htitle, hinstructions,
    hmodel, hversion, hprompt, hschema, hkey, lengthBetween, payload.countOk,
    GradingJob.timestampsCheck, Bool.and_self, Bool.not_false, decide_true, Nat.lt_one_iff,
    exists_const, true_and, and_true]
  simp

theorem createdItems_getElem {job : GradingJob} {n : Nat}
    (hn : n < (createdItems job seed payload.submissionIds).length) :
    ∃ id, payload.submissionIds[n]? = some id ∧
      (createdItems job seed payload.submissionIds)[n] = createdItem job seed n id := by
  simp only [createdItems, List.length_mapIdx] at hn
  exact ⟨payload.submissionIds[n], List.getElem?_eq_getElem hn, by simp [createdItems]⟩

/-- No unique index keeps the items of a new job apart. -/
theorem FreshIds.itemsUnique (h : FreshIds s payload seed) (hw : WellFormed env s)
    {job : GradingJob} (hjob : job.id = seed.jobId) :
    itemsUnique (s.items ++ createdItems job seed payload.submissionIds) = true := by
  refine decide_eq_true (List.pairwise_append.2 ⟨hw.sound.keys.itemRows, ?_, fun i hi x hx => ?_⟩)
  · rw [List.pairwise_iff_getElem]
    intro m n hm hn hlt
    obtain ⟨idm, hidm, hem⟩ := createdItems_getElem hm
    obtain ⟨idn, hidn, hen⟩ := createdItems_getElem hn
    obtain ⟨hm', rfl⟩ := List.getElem?_eq_some_iff.1 hidm
    obtain ⟨hn', rfl⟩ := List.getElem?_eq_some_iff.1 hidn
    have hitem : seed.itemId m ≠ seed.itemId n := fun he => by
      have := h.apart m n hm' hn' he
      omega
    have hsubmission : payload.submissionIds[m] ≠ payload.submissionIds[n] := fun he => by
      have := (payload.distinct.getElem_inj_iff).1 he
      omega
    rw [hem, hen]
    simp [itemConflict, createdItem, hitem, hsubmission]
    omega
  · obtain ⟨n, hn, rfl⟩ := List.mem_mapIdx.1 hx
    obtain ⟨j, hj, hji, -⟩ := hw.refs.items i hi
    have hitem := h.items i hi n hn
    have hother : i.gradingJobId ≠ job.id := by
      rw [← hji, hjob]
      exact h.job j hj
    simp [itemConflict, createdItem, hitem, hother]

/-- The item loop of a creation that no check stops. -/
theorem foldlM_insertItem_of {items : List GradingJobItem}
    (hcheck : ∀ i ∈ items, s.itemInsertCheck i = .ok ())
    (huniq : Store.itemsUnique (s.items ++ items) = true) :
    items.foldlM insertItem s = .ok { s with items := s.items ++ items } := by
  induction items generalizing s with
  | nil => simp [pure, Except.pure]
  | cons i items ih =>
    have hone : Store.itemsUnique (s.items ++ [i]) = true := by
      refine decide_eq_true ((of_decide_eq_true huniq).sublist ?_)
      exact List.Sublist.append_left (List.singleton_sublist.2 List.mem_cons_self) _
    rw [List.foldlM_cons, bind_eq_ok]
    refine ⟨_, insertItem_eq_ok.2 ⟨rfl, hcheck i List.mem_cons_self, hone⟩, ?_⟩
    rw [ih (s := { s with items := s.items ++ [i] })
      (fun x hx => hcheck x (List.mem_cons_of_mem _ hx)) (by simpa using huniq)]
    simp

theorem Inputs.item_check (h : Inputs s ownerId assignmentId payload rubric provider assignment
    structured model profile) (hc : Creatable s ownerId assignmentId payload rubric provider)
    (hfresh : FreshIds s payload seed) (snapshot : GradingProviderSnapshot) {job : GradingJob}
    (hjob : job = createdJob env ownerId payload assignment rubric structured provider snapshot
      model seed) {i : GradingJobItem} (hi : i ∈ createdItems job seed payload.submissionIds) :
    ({ s with jobs := s.jobs ++ [job] } : Store).itemInsertCheck i = .ok () := by
  obtain ⟨n, hn, rfl⟩ := List.mem_mapIdx.1 hi
  subst hjob
  obtain ⟨x, hx, hxid, hxa, hxo, hxr⟩ := hc.submissions _ (List.getElem_mem hn)
  have hfind : (s.jobs ++ [createdJob env ownerId payload assignment rubric structured provider
      snapshot model seed]).find? (fun j => j.id == seed.jobId && j.assignmentId == assignment.id &&
        j.ownerId == ownerId) = some (createdJob env ownerId payload assignment rubric structured
          provider snapshot model seed) := by
    rw [List.find?_append, List.find?_eq_none.2 fun j hj => by simp [hfresh.job j hj]]
    simp [createdJob]
  have hready : (s.submissions.any fun x => x.id == payload.submissionIds[n] &&
      x.assignmentId == assignment.id && x.ownerId == ownerId && x.status == .ready) = true :=
    List.any_eq_true.2 ⟨x, hx, by simp [hxid, hxa, hxo, hxr, h.assignment_of]⟩
  unfold itemInsertCheck
  simp only [createdItem, createdJob] at hfind ⊢
  rw [hfind]
  simp only [bind_eq_ok, require_eq_ok]
  exact ⟨(), rfl, (), hready, (), decide_eq_true hn, rfl⟩

theorem itemStatuses_created (hw : WellFormed env s) (hfresh : FreshIds s payload seed)
    {jobs : List GradingJob} {job : GradingJob} (hjob : job.id = seed.jobId) :
    (({ s with jobs := jobs, items := s.items ++ createdItems job seed payload.submissionIds } :
      Store).itemStatuses job.id).length = payload.submissionIds.length := by
  have hold : s.items.filter (·.gradingJobId == job.id) = [] := by
    refine List.filter_eq_nil_iff.2 fun i hi he => ?_
    obtain ⟨j, hj, hji, -⟩ := hw.refs.items i hi
    exact hfresh.job j hj (by rw [hji, beq_iff_eq.1 he, hjob])
  have hnew : (createdItems job seed payload.submissionIds).filter (·.gradingJobId == job.id) =
      createdItems job seed payload.submissionIds := by
    refine List.filter_eq_self.2 fun i hi => ?_
    obtain ⟨n, id, rfl⟩ := mem_createdItems hi
    exact beq_self_eq_true _
  unfold itemStatuses
  rw [List.filter_append, hold, hnew, List.nil_append, List.length_map]
  simp [createdItems]

/-- The transaction behind the gate. -/
theorem createOrGetJob_iff (hw : WellFormed env s) (ha : Admissible env s)
    (hc : Creatable s ownerId assignmentId payload rubric provider)
    (hkey : btrimEmpty payload.idempotencyKey = false) (hfresh : FreshIds s payload seed)
    {quotaOk : Bool} :
    (∃ s', s.createOrGetJob env ownerId assignmentId payload quotaOk seed =
      .ok ((seed.jobId, true), s')) ↔
      quotaOk = true ∧ textOk payload.idempotencyKey = true ∧ provider.baseUrl.length ≤ 2048 := by
  obtain ⟨assignment, structured, model, profile, hin⟩ := hc.inputs hw.sound
  have haccepts := ha.rubrics _ hc.rubric_mem _ hin.structured
  have hsnapshot := (ha.providers _ hc.provider_mem).snapshot_accepts
    (hw.sound.inputs.provider_check _ hc.provider_mem) profile
  have hunique : ∀ snapshot, jobsUnique (s.jobs ++ [createdJob env ownerId payload assignment rubric
      structured provider snapshot model seed]) = true := fun snapshot => by
    refine decide_eq_true (List.pairwise_append.2 ⟨hw.sound.keys.jobRows,
      List.pairwise_singleton _ _, fun j hj x hx => ?_⟩)
    obtain rfl := List.mem_singleton.1 hx
    have hnone := List.find?_eq_none.1 hc.unused j hj
    simp only [Bool.and_eq_true, beq_iff_eq, not_and] at hnone
    simp only [jobConflict, createdJob, Bool.or_eq_false_iff, beq_eq_false_iff_ne,
      Bool.and_eq_false_imp, beq_iff_eq]
    exact ⟨hfresh.job j hj, hnone⟩
  unfold createOrGetJob
  rw [hc.unused]
  simp only [hin.eq, bind_eq_ok, require_eq_ok, insertJob_eq_ok, Except.ok.injEq]
  constructor
  · rintro ⟨s', _, hquota, _, rfl, _, -, _, hurl, _, ⟨rfl, hjob, -⟩, -⟩
    exact ⟨hquota, (hin.job_check hw.sound ha hc hkey _).1 hjob, hsnapshot.1 hurl⟩
  · rintro ⟨hquota, htext, hurl⟩
    refine ⟨_, (), hquota, _, rfl, (), haccepts, (), hsnapshot.2 hurl, _,
      ⟨rfl, (hin.job_check hw.sound ha hc hkey _).2 htext, hunique _⟩, _,
      foldlM_insertItem_of (fun i hi => hin.item_check hc hfresh _ rfl hi)
        (hfresh.itemsUnique hw rfl), (), ?_, rfl⟩
    exact beq_iff_eq.2 (itemStatuses_created hw hfresh rfl)

/-- **A wanted creation is made exactly when its key and the address fit.** -/
theorem created_iff {as : List (Action env)} (hserved : ∀ a ∈ as, a.Served)
    (hspace : env.isSpace ' ' = true) {submissionIds : List Uuid} {idempotencyKey : String}
    (hvalid : GradingJobCreate.validate env submissionIds idempotencyKey = some payload)
    (hc : Creatable (after env as) ownerId assignmentId payload rubric provider)
    {quota : DatabaseQuota} (hroom : quota.HasRoom payload.requestedBytes)
    (hfresh : FreshIds (after env as) payload seed) :
    (∃ s', (after env as).createUnderQuota env quota ownerId assignmentId payload seed =
      .ok ((seed.jobId, true), s')) ↔
      payload.idempotencyKey.length ≤ 151 ∧ textOk payload.idempotencyKey = true ∧
        provider.baseUrl.length ≤ 2048 := by
  unfold createUnderQuota
  rw [createOrGetJob_iff (after_wellFormed as) (after_admissible hserved) hc
    (GradingJobCreate.validate_key hspace hvalid) hfresh, DatabaseQuota.passes_iff hroom ownerId]

end Store

namespace Sample

open Store

/-- The quota is not enabled. -/
def unlimited : DatabaseQuota := ⟨none, none⟩

theorem unlimited_hasRoom (n : Nat) : unlimited.HasRoom n := fun l h => by cases h

theorem setup_served : ∀ a ∈ setup.take 9, a.Served := by
  have hvalues : (⟨connection, "p", 4, none⟩ : ProviderConfigUpdateValues).InBounds :=
    ⟨by decide +kernel, by decide +kernel, by decide⟩
  simp [setup, Action.Served, hvalues]

theorem parsed_creatable {p : GradingJobCreate} (hp : p.submissionIds = [submission]) :
    Creatable parsed teacher assignment p rubricRow providerRow where
  assignment := ⟨assignmentRow, List.mem_singleton.2 rfl, rfl, rfl, rfl⟩
  rubric_mem := List.mem_singleton.2 rfl
  rubric_of := ⟨rfl, rfl⟩
  confirmed := rfl
  submissions := by
    rw [hp]
    exact fun id hid => ⟨submissionRow, List.mem_singleton.2 rfl, (List.mem_singleton.1 hid).symm,
      rfl, rfl, rfl⟩
  provider_mem := List.mem_singleton.2 rfl
  provider_of := rfl
  enabled := rfl
  tested := rfl
  default_model := rfl
  profile := ⟨_, List.mem_singleton.2 rfl, rfl⟩
  unused := rfl

theorem parsed_fresh {p : GradingJobCreate} (hp : p.submissionIds = [submission]) :
    FreshIds parsed p seed where
  job := fun j hj => absurd hj List.not_mem_nil
  items := fun i hi => absurd hi List.not_mem_nil
  apart := by
    rw [hp]
    intro m n hm hn _
    simp only [List.length_singleton] at hm hn
    omega

theorem short_created : (∃ s', (after sampleRuntime (setup.take 9)).createUnderQuota sampleRuntime
      unlimited teacher assignment payload seed = .ok ((job, true), s')) ↔
    payload.idempotencyKey.length ≤ 151 ∧ textOk payload.idempotencyKey = true ∧
      providerRow.baseUrl.length ≤ 2048 := by
  have hvalid : GradingJobCreate.validate sampleRuntime [submission] "k" = some payload := by
    decide +kernel
  have hc : Creatable (after sampleRuntime (setup.take 9)) teacher assignment payload rubricRow
      providerRow := after_parsed ▸ parsed_creatable rfl
  exact created_iff setup_served rfl hvalid hc (unlimited_hasRoom _)
    (after_parsed ▸ parsed_fresh rfl)

/-- A key of 152 characters; the model accepts 200. -/
def longKey : String := String.ofList (List.replicate 152 'k')

def longPayload : GradingJobCreate :=
  ⟨[submission], longKey, payload.countOk, payload.distinct, by decide +kernel⟩

/-- The quota is disabled, and its gate refuses the creation for the length of its key. -/
theorem longKey_refused :
    GradingJobCreate.validate sampleRuntime [submission] longKey = some longPayload ∧
      (∀ a ∈ setup.take 9, a.Served) ∧
      Creatable (after sampleRuntime (setup.take 9)) teacher assignment longPayload rubricRow
        providerRow ∧
      unlimited.HasRoom longPayload.requestedBytes ∧
      FreshIds (after sampleRuntime (setup.take 9)) longPayload seed ∧
      (unlimited.checkDatabaseGrowth (longPayload.operationKey teacher)
        longPayload.requestedBytes).errorCode = some "quota_request_invalid" ∧
      (after sampleRuntime (setup.take 9)).createUnderQuota sampleRuntime unlimited teacher
        assignment longPayload seed = .error .quotaBlocked := by
  have hcode : (unlimited.checkDatabaseGrowth (longPayload.operationKey teacher)
      longPayload.requestedBytes) = ⟨.unavailable, none, 0, 0, 327680, none,
        some "quota_request_invalid"⟩ := by decide +kernel
  rw [after_parsed]
  refine ⟨by decide +kernel, setup_served, parsed_creatable rfl, unlimited_hasRoom _,
    parsed_fresh rfl, by rw [hcode], ?_⟩
  unfold createUnderQuota
  rw [hcode]
  rfl

end Sample

end PaperGrading
