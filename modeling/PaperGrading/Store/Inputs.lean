import PaperGrading.Domain.Numeric
import PaperGrading.Store.Tables

/-!
# Assignments, rubrics, providers and submissions

The transactions that write what a batch is created from: `rubrics/repository.py`,
`providers/repository.py`, `submissions/repository.py` and the triggers of their
tables.  Row-level security is folded into the owner conditions of each query.
-/

namespace PaperGrading

/-! ## Rubric content -/

/-- `lower(regexp_replace(btrim(name), '[[:space:]]+', ' ', 'g'))`. -/
def dbFoldedName (env : Runtime) (name : String) : List Char :=
  let trimmed := ((name.toList.dropWhile (· == ' ')).reverse.dropWhile (· == ' ')).reverse
  let runs := trimmed.splitBy fun a b => env.dbIsSpace a == env.dbIsSpace b
  (runs.flatMap fun run => if run.any env.dbIsSpace then [' '] else run).map env.dbLower

/-- The band loop of `paper_grading_valid_structured_rubric`. -/
def dbBandsCover (step dimensionMax : ℚ) : Option ℚ → List RubricBand → Bool
  | previousMax, [] => decide (previousMax = some dimensionMax)
  | previousMax, b :: bands =>
    let bandMin := b.minScore.toRat
    let bandMax := b.maxScore.toRat
    !btrimEmpty b.label && !btrimEmpty b.description && decide (0 ≤ bandMin) &&
      decide (bandMin ≤ bandMax) && decide (bandMax ≤ dimensionMax) &&
      StructuredRubric.onGrid step bandMin && StructuredRubric.onGrid step bandMax &&
      decide (bandMin = (match previousMax with | none => 0 | some m => m + step)) &&
      dbBandsCover step dimensionMax (some bandMax) bands

/-- `paper_grading_valid_structured_rubric`, on the dump of a rubric; it casts the text of each
decimal to `numeric`. -/
def validStructuredRubric (env : Runtime) (r : StructuredRubric) (total step : ℚ) : Bool :=
  r.decimals.all (·.numericOk) && decide (r.totalScore.toRat = total) &&
    decide (r.scoreStep.toRat = step) && decide (0 < total) && decide (0 < step) &&
    decide (step ≤ total) && StructuredRubric.onGrid step total && !r.dimensions.isEmpty &&
    r.dimensions.all (fun d =>
      isContractId d.id && !(dbFoldedName env d.name).isEmpty && !btrimEmpty d.description &&
        decide (0 < d.maxScore.toRat) && StructuredRubric.onGrid step d.maxScore.toRat &&
        !d.bands.isEmpty && dbBandsCover step d.maxScore.toRat none d.bands &&
        !d.evidenceRequirements.isEmpty && d.evidenceRequirements.all (!btrimEmpty ·)) &&
    decide (r.dimensions.map (·.id)).Nodup &&
    decide (r.dimensions.map (dbFoldedName env ·.name)).Nodup &&
    decide ((r.dimensions.map (·.maxScore.toRat)).sum = total) &&
    r.deductions.all fun d =>
      isContractId d.id && !btrimEmpty d.name && !btrimEmpty d.description &&
        decide (0 < d.points.toRat) && decide (d.points.toRat ≤ total) &&
        StructuredRubric.onGrid step d.points.toRat

namespace StructuredRubric

/-- Every text of the rubric; `jsonb` stores none of them with a NUL. -/
def texts (r : StructuredRubric) : List String :=
  r.dimensions.flatMap (fun d => d.id :: d.name :: d.description ::
      (d.bands.flatMap (fun b => [b.label, b.description]) ++ d.evidenceRequirements)) ++
    r.deductions.flatMap fun d => [d.id, d.name, d.description]

end StructuredRubric

namespace RubricVersion

/-- The check constraints of `rubric_versions`. -/
def rowCheck (env : Runtime) (r : RubricVersion) : Except TxError Unit := do
  require (textOk r.originalRubric && r.structuredRubric.all fun x => x.texts.all textOk) textError
  require (decide (0 < r.version)) (checkViolation "rubric_versions_version_check")
  require (decide (0 < r.totalScore) && decide (0 < r.scoreStep) &&
      decide (r.scoreStep ≤ r.totalScore) && StructuredRubric.onGrid r.scoreStep r.totalScore)
    (checkViolation "rubric_versions_score_range_check")
  require (!btrimEmpty r.originalRubric) (checkViolation "rubric_versions_original_rubric_check")
  require ((r.providerConfigId.isNone == r.model.isNone) && r.model.all (!btrimEmpty ·) &&
      (r.structuredRubric.isNone || r.providerConfigId.isSome))
    (checkViolation "rubric_versions_generation_check")
  require (r.structuredRubric.all fun x => validStructuredRubric env x r.totalScore r.scoreStep)
    (checkViolation "rubric_versions_content_check")
  require (match r.status with
      | .draft => r.confirmedAt.isNone
      | _ => r.confirmedAt.isSome && r.structuredRubric.isSome && r.providerConfigId.isSome)
    (checkViolation "rubric_versions_confirmation_check")

end RubricVersion

/-- `paper_grading_protect_rubric_history`. -/
def protectRubricHistory (assignments : List Assignment) (old new : RubricVersion) :
    Except TxError Unit := do
  require (decide (new.toRubricIdentity = old.toRubricIdentity))
    (objectState "rubric version identity is immutable")
  match old.status with
  | .superseded => .error (objectState "superseded rubric version is immutable")
  | .confirmed =>
    require (new.status == .superseded && decide (new.toRubricContent = old.toRubricContent))
      (objectState "confirmed rubric content is immutable")
    require (!assignments.any fun a => a.id == old.assignmentId && a.ownerId == old.ownerId &&
        a.status == .ready)
      (checkViolation "ready assignment cannot lose its confirmed rubric")
  | .draft =>
    require (new.status != .superseded)
      (objectState "draft rubric can only remain draft or become confirmed")

namespace Store

/-- Two rows that some unique index of `rubric_versions` keeps apart. -/
def rubricConflict (x y : RubricVersion) : Bool :=
  x.id == y.id || (x.assignmentId == y.assignmentId && (x.version == y.version ||
    (x.status == .draft && y.status == .draft) || (x.status == .confirmed && y.status == .confirmed)))

def rubricsUnique (rows : List RubricVersion) : Bool :=
  decide (rows.Pairwise fun x y => rubricConflict x y = false)

def updateRubrics (env : Runtime) (s : Store) (p : RubricVersion → Bool)
    (set : RubricVersion → RubricVersion) : Except TxError Store := do
  let rubrics ← Table.updateWhere p set (fun old new => do
    protectRubricHistory s.assignments old new
    new.rowCheck env) s.rubrics
  require (rubricsUnique rubrics) (uniqueViolation "rubric_versions")
  return { s with rubrics }

def insertRubric (env : Runtime) (s : Store) (r : RubricVersion) : Except TxError Store := do
  let rubrics ← Table.insertRow (fun r => do
    r.rowCheck env
    require (s.assignments.any fun a => a.id == r.assignmentId && a.ownerId == r.ownerId)
      (foreignKeyViolation "rubric_versions_assignment_id_owner_id_fkey")) s.rubrics r
  require (rubricsUnique rubrics) (uniqueViolation "rubric_versions")
  return { s with rubrics }

/-! ## Assignments -/

def assignmentCheck (a : Assignment) : Except TxError Unit := do
  require (textOk a.title && textOk a.instructions) textError
  require (!btrimEmpty a.title) (checkViolation "assignments_title_check")
  require (!btrimEmpty a.instructions) (checkViolation "assignments_instructions_check")

/-- `paper_grading_require_confirmed_rubric_for_ready_assignment`. -/
def requireConfirmedRubric (s : Store) (a : Assignment) : Except TxError Unit :=
  require (a.status != .ready || s.rubrics.any fun r => r.assignmentId == a.id &&
      r.ownerId == a.ownerId && r.status == .confirmed)
    (checkViolation "ready assignment requires a confirmed rubric")

def updateAssignments (s : Store) (p : Assignment → Bool) (set : Assignment → Assignment) :
    Except TxError Store := do
  let assignments ← Table.updateWhere p set (fun _ new => do
    s.requireConfirmedRubric new
    assignmentCheck new) s.assignments
  return { s with assignments }

def insertAssignment (s : Store) (a : Assignment) : Except TxError Store := do
  let assignments ← Table.insertRow (fun a => do
    s.requireConfirmedRubric a
    assignmentCheck a) s.assignments a
  require (decide (assignments.map (·.id)).Nodup) (uniqueViolation "assignments_pkey")
  return { s with assignments }

def findAssignment (s : Store) (ownerId assignmentId : Uuid) : Option Assignment :=
  s.assignments.find? fun a => a.id == assignmentId && a.ownerId == ownerId

end Store

/-- `AssignmentCreate` and `RubricDraftCreate`: the first raw rubric and its scores. -/
structure RubricDraftCreate where
  originalRubric : String
  totalScore : Decimal
  scoreStep : Decimal
  deriving DecidableEq

namespace Store

def draftRubric (ownerId assignmentId id : Uuid) (version : Nat) (draft : RubricDraftCreate)
    (now : Time) : Except TxError RubricVersion := do
  let totalScore ← numericColumn 10 4 draft.totalScore.toRat
  let scoreStep ← numericColumn 10 4 draft.scoreStep.toRat
  return { id, ownerId, assignmentId, version, createdAt := now
           originalRubric := draft.originalRubric, structuredRubric := none
           totalScore, scoreStep
           providerConfigId := none, model := none, confirmedAt := none, status := .draft }

def createAssignment (env : Runtime) (s : Store) (ownerId : Uuid) (title instructions : String)
    (draft : RubricDraftCreate) (assignmentId rubricId : Uuid) (now : Time) :
    Except TxError Store := do
  let s₁ ← s.insertAssignment ⟨assignmentId, ownerId, title, instructions, .draft⟩
  let rubric ← draftRubric ownerId assignmentId rubricId 1 draft now
  s₁.insertRubric env rubric

def updateAssignment (s : Store) (ownerId assignmentId : Uuid) (title instructions : String) :
    Except TxError (Bool × Store) :=
  match s.findAssignment ownerId assignmentId with
  | none => .ok (false, s)
  | some a =>
    if a.status = .draft then do
      let s' ← s.updateAssignments (·.id == assignmentId) fun a => { a with title, instructions }
      return (true, s')
    else .ok (false, s)

inductive AssignmentStatusAction where
  | archive | restore
  deriving DecidableEq

def updateAssignmentStatus (s : Store) (ownerId assignmentId : Uuid)
    (action : AssignmentStatusAction) : Except TxError (Bool × Store) :=
  match s.findAssignment ownerId assignmentId with
  | none => .ok (false, s)
  | some a =>
    match action with
    | .archive =>
      if a.status = .archived then .ok (true, s)
      else do
        let s' ← s.updateAssignments (·.id == assignmentId) fun a => { a with status := .archived }
        return (true, s')
    | .restore =>
      if a.status = .archived then do
        let confirmed := s.rubrics.any fun r => r.assignmentId == assignmentId &&
          r.ownerId == ownerId && r.status == .confirmed
        let s' ← s.updateAssignments (·.id == assignmentId) fun a =>
          { a with status := if confirmed then .ready else .draft }
        return (true, s')
      else .ok (false, s)

/-! ## Rubric versions -/

def createRubricDraft (env : Runtime) (s : Store) (ownerId assignmentId : Uuid)
    (draft : RubricDraftCreate) (rubricId : Uuid) (now : Time) : Except TxError (Bool × Store) :=
  match s.findAssignment ownerId assignmentId with
  | none => .ok (false, s)
  | some a =>
    if a.status = .archived ∨ s.rubrics.any (fun r => r.assignmentId == assignmentId &&
        r.ownerId == ownerId && r.status == .draft) then .ok (false, s)
    else do
      let latest := Table.maxOrZero
        (fun r => r.assignmentId == assignmentId && r.ownerId == ownerId) (·.version) s.rubrics
      let rubric ← draftRubric ownerId assignmentId rubricId (latest + 1) draft now
      let s' ← s.insertRubric env rubric
      return (true, s')

/-- The enabled provider whose current configuration passed its test. -/
def testedProvider (s : Store) (providerId : Uuid) (expectedModel : String) :
    Option ProviderConfig :=
  s.providers.find? fun p => p.id == providerId && p.status == .enabled && p.testedAt.isSome &&
    p.testedConfigVersion == some p.configVersion && p.defaultModel == some expectedModel

/-- The draft of an assignment that is not archived. -/
def editableDraft (s : Store) (ownerId assignmentId rubricId : Uuid) : Option RubricVersion := do
  let a ← s.findAssignment ownerId assignmentId
  guard (a.status ≠ .archived)
  s.rubrics.find? fun r => r.id == rubricId && r.assignmentId == assignmentId &&
    r.ownerId == ownerId && r.status == .draft

def saveGeneratedRubric (env : Runtime) (s : Store) (ownerId assignmentId rubricId providerId : Uuid)
    (expectedConfigVersion : Nat) (expectedModel : String) (structured : ValidRubric env) :
    Except TxError (Bool × Store) :=
  match s.testedProvider providerId expectedModel, s.editableDraft ownerId assignmentId rubricId with
  | some provider, some _ =>
    if provider.configVersion = expectedConfigVersion then do
      let s' ← s.updateRubrics env (·.id == rubricId) fun r =>
        { r with providerConfigId := some providerId, model := some expectedModel
                 structuredRubric := some structured.rubric }
      return (true, s')
    else .ok (false, s)
  | _, _ => .ok (false, s)

def updateStructuredRubric (env : Runtime) (s : Store) (ownerId assignmentId rubricId : Uuid)
    (structured : ValidRubric env) : Except TxError (Bool × Store) :=
  match s.editableDraft ownerId assignmentId rubricId with
  | none => .ok (false, s)
  | some draft =>
    if draft.providerConfigId.isSome ∧ draft.model.isSome then do
      let s' ← s.updateRubrics env (·.id == rubricId) fun r =>
        { r with structuredRubric := some structured.rubric }
      return (true, s')
    else .ok (false, s)

/-- The four flushes of `confirm_rubric`: unready, supersede, confirm, ready again. -/
def confirmRubric (env : Runtime) (s : Store) (ownerId assignmentId rubricId providerId : Uuid)
    (expectedModel : String) (now : Time) : Except TxError (Bool × Store) :=
  match s.testedProvider providerId expectedModel, s.findAssignment ownerId assignmentId,
      s.editableDraft ownerId assignmentId rubricId with
  | some _, some a, some target =>
    if target.providerConfigId = some providerId ∧ target.model = some expectedModel ∧
        target.structuredRubric.isSome then do
      let s₁ ← if a.status = .ready then
          s.updateAssignments (·.id == assignmentId) fun a => { a with status := .draft }
        else .ok s
      let s₂ ← s₁.updateRubrics env (fun r => r.assignmentId == assignmentId &&
        r.ownerId == ownerId && r.status == .confirmed) fun r => { r with status := .superseded }
      let s₃ ← s₂.updateRubrics env (·.id == rubricId) fun r =>
        { r with status := .confirmed, confirmedAt := some now }
      let s₄ ← s₃.updateAssignments (·.id == assignmentId) fun a => { a with status := .ready }
      return (true, s₄)
    else .ok (false, s)
  | _, _, _ => .ok (false, s)

end Store

/-! ## Providers -/

namespace ProviderConfig

/-- The check constraints of `provider_configs`. -/
def rowCheck (p : ProviderConfig) : Except TxError Unit := do
  require (decide (0 < p.timeoutSeconds.toRat) && decide (0 < p.maxConcurrency) &&
      p.monthlyBudget.all fun b => decide (0 ≤ b))
    (checkViolation "provider_configs_limits_check")
  require (match p.encryptedApiKey, p.apiKeyNonce with
      | none, none => true
      | some key, some nonce => decide (nonce.length = 12) && decide (17 ≤ key.length)
      | _, _ => false)
    (checkViolation "provider_configs_key_material_check")
  require (p.status != .enabled || (p.testedAt.isSome && p.encryptedApiKey.isSome &&
      p.defaultModel.isSome && p.testedConfigVersion == some p.configVersion))
    (checkViolation "provider_configs_enabled_check")
  require (decide (0 < p.configVersion) && p.testedConfigVersion.all (fun v => decide (0 < v)) &&
      p.testedAt.isNone == p.testedConfigVersion.isNone)
    (checkViolation "provider_configs_test_version_check")
  require (!btrimEmpty p.name && !btrimEmpty p.baseUrl) (checkViolation "provider_configs_text_check")
  require (p.defaultModel.all fun m => !btrimEmpty m && p.allowedModels.contains m)
    (checkViolation "provider_configs_default_model_check")

end ProviderConfig

/-- `paper_grading_invalidate_provider_test`. -/
def invalidateProviderTest (old new : ProviderConfig) : ProviderConfig :=
  if new.toProviderConnection ≠ old.toProviderConnection then
    { new with configVersion := old.configVersion + 1, testedAt := none
               testedConfigVersion := none, status := .draft }
  else { new with configVersion := old.configVersion }

/-- A batch that still uses its provider. -/
def GradingJob.usesProvider (j : GradingJob) : Bool :=
  j.status == .queued || j.status == .running || j.status == .paused

/-- `ProviderConfigUpdateValues`. -/
structure ProviderConfigUpdateValues where
  connection : ProviderConnection
  name : String
  maxConcurrency : Nat
  monthlyBudget : Option ℚ
  deriving DecidableEq

namespace Store

/-- `paper_grading_guard_provider_update`. -/
def guardProviderUpdate (s : Store) (old new : ProviderConfig) : Except TxError Unit :=
  require (decide (new.toProviderConnection = old.toProviderConnection) ||
      !s.jobs.any fun j => j.providerConfigId == old.id && j.usesProvider)
    (objectState "provider configuration has active grading jobs")

/-- `UPDATE provider_configs`: the guard sees the row as set, the checks the invalidated row. -/
def updateProviders (s : Store) (p : ProviderConfig → Bool) (set : ProviderConfig → ProviderConfig) :
    Except TxError Store := do
  let providers ← Table.updateWhere p (fun old => invalidateProviderTest old (set old))
    (fun old new => do
      s.guardProviderUpdate old new
      new.rowCheck) s.providers
  require (decide (providers.map (·.name)).Nodup) (uniqueViolation "provider_configs_name_key")
  return { s with providers }

/-- `create`: a draft at version one, as the service builds it. -/
def createProvider (s : Store) (id : Uuid) (values : ProviderConfigUpdateValues) :
    Except TxError Store := do
  let row : ProviderConfig :=
    { values.connection with
      id, name := values.name, maxConcurrency := values.maxConcurrency
      monthlyBudget := values.monthlyBudget, status := .draft, configVersion := 1
      testedConfigVersion := none, testedAt := none }
  let providers ← Table.insertRow ProviderConfig.rowCheck s.providers row
  require (decide (providers.map (·.name)).Nodup && decide (providers.map (·.id)).Nodup)
    (uniqueViolation "provider_configs")
  return { s with providers }

/-- `none` where no row matches, so that the repository rolls back. -/
def updateMatching (s : Store) (p : ProviderConfig → Bool) (set : ProviderConfig → ProviderConfig) :
    Except TxError (Bool × Store) :=
  if s.providers.any p then do
    let s' ← s.updateProviders p set
    return (true, s')
  else .ok (false, s)

def updateProvider (s : Store) (id : Uuid) (expectedConfigVersion : Nat)
    (values : ProviderConfigUpdateValues) : Except TxError (Bool × Store) :=
  s.updateMatching (fun p => p.id == id && p.configVersion == expectedConfigVersion) fun p =>
    { p with toProviderConnection := values.connection, name := values.name
             maxConcurrency := values.maxConcurrency, monthlyBudget := values.monthlyBudget }

def markTested (s : Store) (id : Uuid) (expectedConfigVersion : Nat) (testedAt : Time) :
    Except TxError (Bool × Store) :=
  s.updateMatching (fun p => p.id == id && p.configVersion == expectedConfigVersion) fun p =>
    { p with testedAt := some testedAt, testedConfigVersion := some expectedConfigVersion }

def enableTested (s : Store) (id : Uuid) : Except TxError (Bool × Store) :=
  s.updateMatching (fun p => p.id == id && p.encryptedApiKey.isSome && p.apiKeyNonce.isSome &&
      p.defaultModel.any (fun m => p.modelProfiles.any (·.1 == m)) && p.testedAt.isSome &&
      p.testedConfigVersion == some p.configVersion) fun p =>
    { p with status := .enabled }

def disableEnabled (s : Store) (id : Uuid) : Except TxError (Bool × Store) :=
  s.updateMatching (fun p => p.id == id && p.status == .enabled) fun p =>
    { p with status := .disabled }

end Store

/-! ## Submissions -/

/-- `SubmissionReservationRequest`. -/
structure SubmissionReservationRequest where
  id : Uuid
  assignmentId : Uuid
  originalFilename : String
  mediaType : MediaType
  fileSizeBytes : Nat
  contentSha256 : Hash
  sourceObjectKey : String
  deriving DecidableEq

namespace Submission

def directory (x : Submission) : String :=
  "teachers/" ++ uuidText x.ownerId ++ "/assignments/" ++ uuidText x.assignmentId ++
    "/submissions/" ++ uuidText x.id

/-- The check constraints of `submissions`. -/
def rowCheck (x : Submission) : Except TxError Unit := do
  require (textOk x.originalFilename && x.errorCode.all textOk) textError
  require (decide (0 < x.fileSizeBytes) && decide (x.fileSizeBytes ≤ 20971520) &&
      !btrimEmpty x.sourceObjectKey)
    (checkViolation "submissions_file_check")
  require (lengthBetween 1 255 x.originalFilename.length && !btrimEmpty x.originalFilename)
    (checkViolation "submissions_original_filename_check")
  require (match x.status with
      | .uploaded | .parsing => x.extractedObjectKey.isNone && x.errorCode.isNone
      | .ready => x.extractedObjectKey.isSome && x.errorCode.isNone
      | .failed => x.extractedObjectKey.isNone && x.errorCode.any (!btrimEmpty ·))
    (checkViolation "submissions_state_check")
  require (decide (x.sourceObjectKey = x.directory ++ (match x.mediaType with
        | .pdf => "/source.pdf"
        | .docx => "/source.docx")) &&
      x.extractedObjectKey.all fun key => decide (key = x.directory ++ "/document-blocks.v1.json"))
    (checkViolation "submissions_object_keys_check")

end Submission

inductive ReservationState where
  | created | duplicate | assignmentNotFound | assignmentNotReady
  deriving DecidableEq

/-- The target of `transition_submission`. -/
inductive SubmissionTarget where
  | parsing
  | failed (errorCode : String)
  | ready (extractedObjectKey : String)
  | uploaded
  deriving DecidableEq

namespace SubmissionTarget

/-- The moves `transition_submission` allows; nothing leaves `ready`. -/
def allowed (current : SubmissionStatus) : SubmissionTarget → Bool
  | .parsing => current == .uploaded
  | .failed errorCode => (current == .uploaded || current == .parsing) && !btrimEmpty errorCode
  | .ready key => current == .parsing && !btrimEmpty key
  | .uploaded => current == .failed

def apply (t : SubmissionTarget) (x : Submission) : Submission :=
  match t with
  | .parsing => { x with status := .parsing, extractedObjectKey := none, errorCode := none }
  | .failed errorCode =>
    { x with status := .failed, extractedObjectKey := none, errorCode := some errorCode }
  | .ready key => { x with status := .ready, extractedObjectKey := some key, errorCode := none }
  | .uploaded => { x with status := .uploaded, extractedObjectKey := none, errorCode := none }

end SubmissionTarget

namespace Store

def submissionConflict (x y : Submission) : Bool :=
  x.id == y.id || (x.assignmentId == y.assignmentId && x.contentSha256 == y.contentSha256) ||
    x.sourceObjectKey == y.sourceObjectKey ||
    (x.extractedObjectKey.isSome && x.extractedObjectKey == y.extractedObjectKey)

def submissionsUnique (rows : List Submission) : Bool :=
  decide (rows.Pairwise fun x y => submissionConflict x y = false)

def reserveSubmission (s : Store) (ownerId : Uuid) (r : SubmissionReservationRequest) :
    Except TxError (ReservationState × Store) :=
  match s.findAssignment ownerId r.assignmentId with
  | none => .ok (.assignmentNotFound, s)
  | some a =>
    if a.status ≠ .ready then .ok (.assignmentNotReady, s)
    else if s.submissions.any fun x => x.assignmentId == r.assignmentId &&
        x.contentSha256 == r.contentSha256 then
      if s.submissions.any fun x => x.assignmentId == r.assignmentId && x.ownerId == ownerId &&
          x.contentSha256 == r.contentSha256 then .ok (.duplicate, s)
      else .error (.runtimeError "论文哈希冲突后未找到已有记录")
    else do
      let row : Submission :=
        { id := r.id, ownerId, assignmentId := r.assignmentId
          originalFilename := r.originalFilename, mediaType := r.mediaType
          fileSizeBytes := r.fileSizeBytes, contentSha256 := r.contentSha256
          sourceObjectKey := r.sourceObjectKey, extractedObjectKey := none
          status := .uploaded, errorCode := none }
      let submissions ← Table.insertRow Submission.rowCheck s.submissions row
      require (submissionsUnique submissions) (uniqueViolation "submissions")
      return (.created, { s with submissions })

def transitionSubmission (s : Store) (teacher : Option Uuid) (submissionId : Uuid)
    (target : SubmissionTarget) : Except TxError (Option Uuid × Store) :=
  match teacher with
  | none => .error (.database "42501" "active teacher context required")
  | some actorId =>
    match s.submissions.find? (fun x => x.id == submissionId && x.ownerId == actorId) with
    | none => .ok (none, s)
    | some current => do
      require (target.allowed current.status) (objectState "invalid submission transition")
      let submissions ← Table.updateWhere (fun x => x.id == submissionId && x.ownerId == actorId)
        target.apply (fun _ new => new.rowCheck) s.submissions
      require (submissionsUnique submissions) (uniqueViolation "submissions")
      return (some submissionId, { s with submissions })

end Store

end PaperGrading
