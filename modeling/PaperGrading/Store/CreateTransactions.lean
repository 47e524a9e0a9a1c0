import PaperGrading.Store.Commits

/-!
# Creations, statement by statement

`create_or_get_job` looks its idempotency key up, passes the quota gate, locks the assignment,
the confirmed rubric and the provider, and inserts the job with `ON CONFLICT DO NOTHING`; when
the insert finds the key taken it reads the job of the key again.  Requests of any number of
teachers interleave by statements, with each other and with every other transaction of the
store.

    one statement keeps the invariant                                     (Move.consistent)
    one job for each key; its requests return it or are refused          (run_creations)
    undisturbed, the statements are the whole transaction                (run_statements)
-/

namespace PaperGrading

/-- What a creation has read under its locks. -/
structure CreationSources where
  assignment : Assignment
  rubric : RubricVersion
  structured : StructuredRubric
  provider : ProviderConfig
  model : String
  profile : ProviderModelProfile

namespace CreationSources

def snapshot (src : CreationSources) : GradingProviderSnapshot where
  providerType := src.provider.providerType
  baseUrl := src.provider.baseUrl
  timeoutSeconds := src.provider.timeoutSeconds
  maxConcurrency := src.provider.maxConcurrency
  modelProfile := src.profile

end CreationSources

/-- Where a creation stands. -/
inductive CreatePhase where
  | started
  /-- no job has the key -/
  | missed
  | admitted
  | assignmentRead (assignment : Option Assignment)
  | rubricRead (assignment : Assignment) (rubric : RubricVersion) (structured : StructuredRubric)
    (providerId : Uuid) (model : String)
  | submissionsRead (assignment : Assignment) (rubric : RubricVersion)
    (structured : StructuredRubric) (providerId : Uuid) (model : String)
  | providerRead (src : CreationSources)
  /-- the row of the job is inserted, not committed -/
  | inserted (src : CreationSources) (seed : CreationSeed)
  /-- the insert found the key taken -/
  | lost
  | finished (jobId : Uuid) (created : Bool)
  | failed (e : TxError)
  | aborted

/-- A call of `create_or_get_job`. -/
structure CreateRequest where
  ownerId : Uuid
  assignmentId : Uuid
  payload : GradingJobCreate
  phase : CreatePhase

structure CreateWorld where
  store : Store
  requests : List CreateRequest

inductive CreateEvent (env : Runtime) where
  | request (ownerId assignmentId : Uuid) (payload : GradingJobCreate)
  | lookup (k : Nat)
  | quota (k : Nat) (quotaOk : Bool)
  | lockAssignment (k : Nat)
  | lockRubric (k : Nat)
  | readSubmissions (k : Nat)
  | lockProvider (k : Nat)
  | insertJob (k : Nat) (seed : CreationSeed)
  | readConcurrent (k : Nat)
  | commit (k : Nat)
  /-- an error of the connection, or the end of the process -/
  | abort (k : Nat)
  /-- a whole transaction that is not a creation -/
  | other (a : Action env)

namespace CreatePhase

def lockedAssignment : CreatePhase → Option Uuid
  | .assignmentRead assignment => assignment.map (·.id)
  | .rubricRead assignment .. | .submissionsRead assignment .. => some assignment.id
  | .providerRead src | .inserted src _ => some src.assignment.id
  | _ => none

def lockedRubric : CreatePhase → Option Uuid
  | .rubricRead _ rubric .. | .submissionsRead _ rubric .. => some rubric.id
  | .providerRead src | .inserted src _ => some src.rubric.id
  | _ => none

def lockedProvider : CreatePhase → Option Uuid
  | .providerRead src | .inserted src _ => some src.provider.id
  | _ => none

def isOver : CreatePhase → Bool
  | .finished .. | .failed _ | .aborted => true
  | _ => false

end CreatePhase

namespace CreateRequest

def requestHash (env : Runtime) (q : CreateRequest) : Hash :=
  q.payload.requestHash env q.assignmentId

/-- The row that the request inserts. -/
def job (env : Runtime) (q : CreateRequest) (src : CreationSources) (seed : CreationSeed) :
    GradingJob :=
  Store.createdJob env q.ownerId q.payload src.assignment src.rubric src.structured src.provider
    src.snapshot src.model seed

/-- The row that waits for the commit. -/
def pending (env : Runtime) (q : CreateRequest) : Option GradingJob :=
  match q.phase with
  | .inserted src seed => some (q.job env src seed)
  | _ => none

end CreateRequest

def idempotencyConflict : TxError := .gradingJobIdempotencyConflict "同一幂等键对应了不同批次请求"

def assignmentInvalid : TxError :=
  .gradingJobConfigurationError "作业或评分标准状态已变化" "grading_job_assignment_invalid"

def submissionsInvalid : TxError :=
  .gradingJobConfigurationError "批次包含不存在或尚未解析完成的论文" "grading_job_submissions_invalid"

def providerInvalid (message : String) : TxError :=
  .gradingJobConfigurationError message "grading_job_provider_invalid"

namespace CreateWorld

/-! ## Locks -/

def taken (locked : CreatePhase → Option Uuid) (id : Uuid) (w : CreateWorld) : Bool :=
  w.requests.any fun q => locked q.phase == some id

/-- The store leaves every locked row as it is. -/
def keepsLocked (w : CreateWorld) (s' : Store) : Bool :=
  w.requests.all fun q =>
    (q.phase.lockedAssignment.all fun id =>
      s'.assignments.filter (·.id == id) == w.store.assignments.filter (·.id == id)) &&
    (q.phase.lockedRubric.all fun id =>
      s'.rubrics.find? (·.id == id) == w.store.rubrics.find? (·.id == id)) &&
    (q.phase.lockedProvider.all fun id =>
      s'.providers.find? (·.id == id) == w.store.providers.find? (·.id == id))

/-! ## Statements -/

def setPhase (k : Nat) (q : CreateRequest) (phase : CreatePhase) (w : CreateWorld) : CreateWorld :=
  { w with requests := w.requests.set k { q with phase } }

/-- The answer to a request that finds the job of its key. -/
def answer (env : Runtime) (q : CreateRequest) (existing : GradingJob) : CreatePhase :=
  if existing.requestHash = q.requestHash env then .finished existing.id false
  else .failed idempotencyConflict

def lookup (env : Runtime) (k : Nat) (q : CreateRequest) (w : CreateWorld) : CreateWorld :=
  match w.store.jobByKey q.ownerId q.payload.idempotencyKey with
  | some existing => w.setPhase k q (answer env q existing)
  | none => w.setPhase k q .missed

def lockAssignment (k : Nat) (q : CreateRequest) (w : CreateWorld) : CreateWorld :=
  match w.store.assignments.find? fun a => a.id == q.assignmentId && a.ownerId == q.ownerId &&
      a.status == .ready with
  | none => w.setPhase k q (.assignmentRead none)
  | some a =>
    if w.taken CreatePhase.lockedAssignment a.id then w
    else w.setPhase k q (.assignmentRead (some a))

/-- The rubric is locked, then both rows are looked at. -/
def lockRubric (k : Nat) (q : CreateRequest) (assignment : Option Assignment) (w : CreateWorld) :
    CreateWorld :=
  match w.store.rubrics.find? fun r => r.assignmentId == q.assignmentId &&
      r.ownerId == q.ownerId && r.status == .confirmed with
  | none => w.setPhase k q (.failed assignmentInvalid)
  | some r =>
    if w.taken CreatePhase.lockedRubric r.id then w
    else match assignment, r.structuredRubric, r.providerConfigId, r.model with
      | some a, some structured, some providerId, some model =>
        w.setPhase k q (.rubricRead a r structured providerId model)
      | _, _, _, _ => w.setPhase k q (.failed assignmentInvalid)

def submissionsReady (s : Store) (q : CreateRequest) : Bool :=
  q.payload.submissionIds.all fun id => s.submissions.any fun x => x.id == id &&
    x.assignmentId == q.assignmentId && x.ownerId == q.ownerId && x.status == .ready

def readSubmissions (env : Runtime) (k : Nat) (q : CreateRequest) (assignment : Assignment)
    (rubric : RubricVersion) (structured : StructuredRubric) (providerId : Uuid) (model : String)
    (w : CreateWorld) : CreateWorld :=
  if submissionsReady w.store q then
    if structured.accepts env then
      w.setPhase k q (.submissionsRead assignment rubric structured providerId model)
    else w.setPhase k q (.failed (.validationError "StructuredRubric"))
  else w.setPhase k q (.failed submissionsInvalid)

def lockProvider (k : Nat) (q : CreateRequest) (assignment : Assignment) (rubric : RubricVersion)
    (structured : StructuredRubric) (providerId : Uuid) (model : String) (w : CreateWorld) :
    CreateWorld :=
  match w.store.providers.find? (·.id == providerId) with
  | none => w.setPhase k q (.failed (providerInvalid "供应商当前配置不可用于评分"))
  | some provider =>
    if w.taken CreatePhase.lockedProvider provider.id then w
    else if provider.status = .enabled ∧
        provider.testedConfigVersion = some provider.configVersion ∧
        provider.defaultModel = some model then
      match provider.modelProfiles.find? (·.1 == model) with
      | none => w.setPhase k q (.failed (providerInvalid "默认模型缺少管理员确认的能力快照"))
      | some (_, profile) =>
        let src : CreationSources := ⟨assignment, rubric, structured, provider, model, profile⟩
        if src.snapshot.accepts then w.setPhase k q (.providerRead src)
        else w.setPhase k q (.failed (.validationError "GradingProviderSnapshot"))
    else w.setPhase k q (.failed (providerInvalid "供应商当前配置不可用于评分"))

/-- `INSERT … ON CONFLICT DO NOTHING`: it waits for a row that is not yet committed. -/
def insertJob (env : Runtime) (k : Nat) (q : CreateRequest) (src : CreationSources)
    (seed : CreationSeed) (w : CreateWorld) : CreateWorld :=
  let job := q.job env src seed
  match w.store.jobInsertCheck job with
  | .error e => w.setPhase k q (.failed e)
  | .ok () =>
    if (w.store.jobByKey q.ownerId q.payload.idempotencyKey).isSome then w.setPhase k q .lost
    else if w.requests.any fun p => (p.pending env).any (Store.jobConflict job ·) then w
    else if Store.jobsUnique (w.store.jobs ++ [job]) then w.setPhase k q (.inserted src seed)
    else w.setPhase k q (.failed (uniqueViolation "grading_jobs"))

def readConcurrent (env : Runtime) (k : Nat) (q : CreateRequest) (w : CreateWorld) : CreateWorld :=
  match w.store.jobByKey q.ownerId q.payload.idempotencyKey with
  | some existing => w.setPhase k q (answer env q existing)
  | none => w.setPhase k q (.failed idempotencyConflict)

/-- The flush of the items and the checks at the commit. -/
def insertItems (s : Store) (q : CreateRequest) (job : GradingJob) (seed : CreationSeed) :
    Except TxError Store := do
  let s' ← (Store.createdItems job seed q.payload.submissionIds).foldlM Store.insertItem
    { s with jobs := s.jobs ++ [job] }
  require ((s'.itemStatuses job.id).length == job.expectedItemCount)
    (checkViolation "grading job item count does not match expected count")
  return s'

def commit (env : Runtime) (k : Nat) (q : CreateRequest) (src : CreationSources)
    (seed : CreationSeed) (w : CreateWorld) : CreateWorld :=
  match insertItems w.store q (q.job env src seed) seed with
  | .error e => w.setPhase k q (.failed e)
  | .ok store => { w with store }.setPhase k q (.finished (q.job env src seed).id true)

/-! ## All steps -/

/-- One statement of request `k`. -/
def stepRequest {env : Runtime} (k : Nat) (q : CreateRequest) (w : CreateWorld) :
    CreateEvent env → CreateWorld
  | .lookup _ =>
    match q.phase with
    | .started => w.lookup env k q
    | _ => w
  | .quota _ quotaOk =>
    match q.phase with
    | .missed => w.setPhase k q (if quotaOk then .admitted else .failed .quotaBlocked)
    | _ => w
  | .lockAssignment _ =>
    match q.phase with
    | .admitted => w.lockAssignment k q
    | _ => w
  | .lockRubric _ =>
    match q.phase with
    | .assignmentRead assignment => w.lockRubric k q assignment
    | _ => w
  | .readSubmissions _ =>
    match q.phase with
    | .rubricRead a r structured providerId model =>
      w.readSubmissions env k q a r structured providerId model
    | _ => w
  | .lockProvider _ =>
    match q.phase with
    | .submissionsRead a r structured providerId model =>
      w.lockProvider k q a r structured providerId model
    | _ => w
  | .insertJob _ seed =>
    match q.phase with
    | .providerRead src => w.insertJob env k q src seed
    | _ => w
  | .readConcurrent _ =>
    match q.phase with
    | .lost => w.readConcurrent env k q
    | _ => w
  | .commit _ =>
    match q.phase with
    | .inserted src seed => w.commit env k q src seed
    | _ => w
  | .abort _ => if q.phase.isOver then w else w.setPhase k q .aborted
  | _ => w

end CreateWorld

/-- The request that takes the step. -/
def CreateEvent.requestOf {env : Runtime} : CreateEvent env → Option Nat
  | .lookup k | .quota k _ | .lockAssignment k | .lockRubric k | .readSubmissions k
  | .lockProvider k | .insertJob k _ | .readConcurrent k | .commit k | .abort k => some k
  | .request .. | .other _ => none

namespace CreateWorld

def step (env : Runtime) (w : CreateWorld) (e : CreateEvent env) : CreateWorld :=
  match e with
  | .request ownerId assignmentId payload =>
    { w with requests := w.requests ++ [⟨ownerId, assignmentId, payload, .started⟩] }
  | .other (.createOrGetJob ..) => w
  | .other a =>
    if w.keepsLocked (Store.step env w.store a) then { w with store := Store.step env w.store a }
    else w
  | e =>
    match e.requestOf with
    | some k =>
      match w.requests[k]? with
      | some q => w.stepRequest k q e
      | none => w
    | none => w

/-! ## What a step does -/

/-- The rows that a creation has locked before it looks at the provider. -/
structure RubricRead (s : Store) (q : CreateRequest) (a : Assignment) (r : RubricVersion)
    (structured : StructuredRubric) (providerId : Uuid) (model : String) : Prop where
  assignment : s.assignments.find? (fun a => a.id == q.assignmentId && a.ownerId == q.ownerId &&
    a.status == .ready) = some a
  rubric_mem : r ∈ s.rubrics
  rubric_assignment : r.assignmentId = q.assignmentId
  rubric_owner : r.ownerId = q.ownerId
  rubric_confirmed : r.status = .confirmed
  rubric_structured : r.structuredRubric = some structured
  rubric_provider : r.providerConfigId = some providerId
  rubric_model : r.model = some model

structure SourcesRead (env : Runtime) (s : Store) (q : CreateRequest) (src : CreationSources) :
    Prop where
  rubric : RubricRead s q src.assignment src.rubric src.structured src.provider.id src.model
  accepts : src.structured.accepts env = true
  provider_mem : src.provider ∈ s.providers
  provider_enabled : src.provider.status = .enabled
  provider_tested : src.provider.testedConfigVersion = some src.provider.configVersion
  provider_model : src.provider.defaultModel = some src.model
  profile : ∃ name, src.provider.modelProfiles.find? (·.1 == src.model) = some (name, src.profile)
  snapshot : src.snapshot.accepts = true

/-- The phases that a statement of a creation can reach without a commit. -/
inductive PhaseMove (env : Runtime) (w : CreateWorld) (q : CreateRequest) : CreatePhase → Prop
  | aborted (hopen : q.phase.isOver = false) : PhaseMove env w q .aborted
  | refused (hphase : q.phase = .started ∨ q.phase = .lost) :
    PhaseMove env w q (.failed idempotencyConflict)
  | found (existing : GradingJob) (hphase : q.phase = .started ∨ q.phase = .lost)
    (hkey : w.store.jobByKey q.ownerId q.payload.idempotencyKey = some existing)
    (hhash : existing.requestHash = q.requestHash env) :
    PhaseMove env w q (.finished existing.id false)
  | missed (hphase : q.phase = .started)
    (hkey : w.store.jobByKey q.ownerId q.payload.idempotencyKey = none) :
    PhaseMove env w q .missed
  | failed (e : TxError) (hstarted : q.phase ≠ .started) (hlost : q.phase ≠ .lost)
    (hopen : q.phase.isOver = false) : PhaseMove env w q (.failed e)
  | admitted (hphase : q.phase = .missed) : PhaseMove env w q .admitted
  | assignmentRead (assignment : Option Assignment) (hphase : q.phase = .admitted)
    (ha : ∀ a, assignment = some a → w.store.assignments.find? (fun a => a.id == q.assignmentId &&
      a.ownerId == q.ownerId && a.status == .ready) = some a) :
    PhaseMove env w q (.assignmentRead assignment)
  | rubricRead (a : Assignment) (r : RubricVersion) (structured : StructuredRubric)
    (providerId : Uuid) (model : String) (hphase : q.phase = .assignmentRead (some a))
    (hr : r ∈ w.store.rubrics) (hassignment : r.assignmentId = q.assignmentId)
    (howner : r.ownerId = q.ownerId) (hconfirmed : r.status = .confirmed)
    (hstructured : r.structuredRubric = some structured)
    (hprovider : r.providerConfigId = some providerId) (hmodel : r.model = some model) :
    PhaseMove env w q (.rubricRead a r structured providerId model)
  | submissionsRead (a : Assignment) (r : RubricVersion) (structured : StructuredRubric)
    (providerId : Uuid) (model : String)
    (hphase : q.phase = .rubricRead a r structured providerId model)
    (haccepts : structured.accepts env = true) :
    PhaseMove env w q (.submissionsRead a r structured providerId model)
  | providerRead (src : CreationSources) (hphase : q.phase = .submissionsRead src.assignment
      src.rubric src.structured src.provider.id src.model)
    (hprovider : src.provider ∈ w.store.providers) (henabled : src.provider.status = .enabled)
    (htested : src.provider.testedConfigVersion = some src.provider.configVersion)
    (hmodel : src.provider.defaultModel = some src.model)
    (hprofile : ∃ name, src.provider.modelProfiles.find? (·.1 == src.model) =
      some (name, src.profile)) (hsnapshot : src.snapshot.accepts = true) :
    PhaseMove env w q (.providerRead src)
  | inserted (src : CreationSources) (seed : CreationSeed) (hphase : q.phase = .providerRead src)
    (hcheck : w.store.jobInsertCheck (q.job env src seed) = .ok ())
    (hpending : ∀ p ∈ w.requests, ∀ job, p.pending env = some job →
      Store.jobConflict (q.job env src seed) job = false)
    (hunique : Store.jobsUnique (w.store.jobs ++ [q.job env src seed]) = true) :
    PhaseMove env w q (.inserted src seed)
  | lost (src : CreationSources) (hphase : q.phase = .providerRead src) : PhaseMove env w q .lost

/-- What a step makes of the world. -/
inductive Move (env : Runtime) (w : CreateWorld) (e : CreateEvent env) : CreateWorld → Prop
  | kept : Move env w e w
  | requested (q : CreateRequest) (hphase : q.phase = .started) :
    Move env w e { w with requests := w.requests ++ [q] }
  | moved (k : Nat) (q : CreateRequest) (phase : CreatePhase) (hq : w.requests[k]? = some q)
    (hmove : PhaseMove env w q phase) : Move env w e (w.setPhase k q phase)
  | created (k : Nat) (q : CreateRequest) (src : CreationSources) (seed : CreationSeed)
    (store : Store) (he : e = .commit k) (hq : w.requests[k]? = some q)
    (hphase : q.phase = .inserted src seed)
    (hitems : insertItems w.store q (q.job env src seed) seed = .ok store) :
    Move env w e ({ w with store }.setPhase k q (.finished (q.job env src seed).id true))
  | other (a : Action env) (he : e = .other a) (ha : ¬Store.isCreation a)
    (hkeeps : w.keepsLocked (Store.step env w.store a) = true) :
    Move env w e { w with store := Store.step env w.store a }

section Moves

variable {env : Runtime} {w : CreateWorld} {e : CreateEvent env} {k : Nat} {q : CreateRequest}

theorem answer_move {existing : GradingJob} (hq : w.requests[k]? = some q)
    (hphase : q.phase = .started ∨ q.phase = .lost)
    (hkey : w.store.jobByKey q.ownerId q.payload.idempotencyKey = some existing) :
    Move env w e (w.setPhase k q (answer env q existing)) := by
  unfold answer
  split
  next hhash => exact .moved k q _ hq (.found existing hphase hkey hhash)
  next => exact .moved k q _ hq (.refused hphase)

theorem lookup_move (hq : w.requests[k]? = some q) (hphase : q.phase = .started) :
    Move env w e (w.lookup env k q) := by
  unfold lookup
  split
  next hkey => exact answer_move hq (.inl hphase) hkey
  next hkey => exact .moved k q _ hq (.missed hphase hkey)

theorem readConcurrent_move (hq : w.requests[k]? = some q) (hphase : q.phase = .lost) :
    Move env w e (w.readConcurrent env k q) := by
  unfold readConcurrent
  split
  next hkey => exact answer_move hq (.inr hphase) hkey
  next => exact .moved k q _ hq (.refused (.inr hphase))

/-- A request that has looked its key up, and has not lost the insert, may fail. -/
theorem failed_move {phase : CreatePhase} (error : TxError) (hq : w.requests[k]? = some q)
    (hphase : q.phase = phase) (hstarted : phase ≠ .started) (hlost : phase ≠ .lost)
    (hopen : phase.isOver = false) : Move env w e (w.setPhase k q (.failed error)) :=
  .moved k q _ hq (.failed error (hphase ▸ hstarted) (hphase ▸ hlost) (hphase ▸ hopen))

theorem lockAssignment_move (hq : w.requests[k]? = some q) (hphase : q.phase = .admitted) :
    Move env w e (w.lockAssignment k q) := by
  unfold lockAssignment
  split
  · exact .moved k q _ hq (.assignmentRead none hphase fun _ h => by cases h)
  next a hfind =>
    split
    · exact .kept
    · refine .moved k q _ hq (.assignmentRead (some a) hphase fun a' ha => ?_)
      obtain rfl := Option.some.inj ha
      exact hfind

theorem lockRubric_move {assignment : Option Assignment} (hq : w.requests[k]? = some q)
    (hphase : q.phase = .assignmentRead assignment) :
    Move env w e (w.lockRubric k q assignment) := by
  have hfailed : Move env w e (w.setPhase k q (.failed assignmentInvalid)) :=
    failed_move _ hq hphase (by simp) (by simp) rfl
  unfold lockRubric
  split
  · exact hfailed
  next r hfind =>
    have hr := List.find?_some hfind
    simp only [Bool.and_eq_true, beq_iff_eq] at hr
    split
    · exact .kept
    · split
      next hstructured hprovider hmodel =>
        exact .moved k q _ hq (.rubricRead _ r _ _ _ hphase (List.mem_of_find?_eq_some hfind)
          hr.1.1 hr.1.2 hr.2 hstructured hprovider hmodel)
      · exact hfailed

theorem readSubmissions_move {a : Assignment} {r : RubricVersion} {structured : StructuredRubric}
    {providerId : Uuid} {model : String} (hq : w.requests[k]? = some q)
    (hphase : q.phase = .rubricRead a r structured providerId model) :
    Move env w e (w.readSubmissions env k q a r structured providerId model) := by
  unfold readSubmissions
  split
  · split
    next haccepts => exact .moved k q _ hq (.submissionsRead a r _ _ _ hphase haccepts)
    · exact failed_move _ hq hphase (by simp) (by simp) rfl
  · exact failed_move _ hq hphase (by simp) (by simp) rfl

theorem lockProvider_move {a : Assignment} {r : RubricVersion} {structured : StructuredRubric}
    {providerId : Uuid} {model : String} (hq : w.requests[k]? = some q)
    (hphase : q.phase = .submissionsRead a r structured providerId model) :
    Move env w e (w.lockProvider k q a r structured providerId model) := by
  have hfailed (error : TxError) : Move env w e (w.setPhase k q (.failed error)) :=
    failed_move error hq hphase (by simp) (by simp) rfl
  unfold lockProvider
  split
  · exact hfailed _
  next provider hfind =>
    have hid : provider.id = providerId := by simpa using List.find?_some hfind
    split
    · exact .kept
    split
    next husable =>
      split
      · exact hfailed _
      next name profile hprofile =>
        extract_lets src
        split
        next hsnapshot =>
          refine .moved k q _ hq (.providerRead src ?_ (List.mem_of_find?_eq_some hfind) husable.1
            husable.2.1 husable.2.2 ⟨name, hprofile⟩ hsnapshot)
          rw [hphase, ← hid]
        next => exact hfailed _
    next => exact hfailed _

theorem insertJob_move {src : CreationSources} {seed : CreationSeed} (hq : w.requests[k]? = some q)
    (hphase : q.phase = .providerRead src) : Move env w e (w.insertJob env k q src seed) := by
  unfold insertJob
  extract_lets job
  split
  · exact failed_move _ hq hphase (by simp) (by simp) rfl
  next hcheck =>
    split
    · exact .moved k q _ hq (.lost src hphase)
    split
    · exact .kept
    next hpending =>
      split
      next hunique =>
        refine .moved k q _ hq (.inserted src seed hphase hcheck (fun p hp job' hjob => ?_) hunique)
        have hfree := List.any_eq_false.1 (Bool.not_eq_true _ ▸ hpending) p hp
        rw [hjob, Option.any_some] at hfree
        exact Bool.not_eq_true _ ▸ hfree
      next => exact failed_move _ hq hphase (by simp) (by simp) rfl

theorem commit_move {src : CreationSources} {seed : CreationSeed} (hq : w.requests[k]? = some q)
    (hphase : q.phase = .inserted src seed) :
    Move env w (.commit k) (w.commit env k q src seed) := by
  unfold commit
  split
  · exact failed_move _ hq hphase (by simp) (by simp) rfl
  next store hitems => exact .created k q src seed store rfl hq hphase hitems

theorem stepRequest_move (hq : w.requests[k]? = some q) (he : e.requestOf = some k) :
    Move env w e (w.stepRequest k q e) := by
  cases e <;> cases he <;> simp only [stepRequest]
  case lookup.refl =>
    split
    next hphase => exact lookup_move hq hphase
    next => exact .kept
  case lockAssignment.refl =>
    split
    next hphase => exact lockAssignment_move hq hphase
    next => exact .kept
  case lockRubric.refl =>
    split
    next hphase => exact lockRubric_move hq hphase
    next => exact .kept
  case readSubmissions.refl =>
    split
    next hphase => exact readSubmissions_move hq hphase
    next => exact .kept
  case lockProvider.refl =>
    split
    next hphase => exact lockProvider_move hq hphase
    next => exact .kept
  case insertJob.refl =>
    split
    next hphase => exact insertJob_move hq hphase
    next => exact .kept
  case readConcurrent.refl =>
    split
    next hphase => exact readConcurrent_move hq hphase
    next => exact .kept
  case commit.refl =>
    split
    next hphase => exact commit_move hq hphase
    next => exact .kept
  case quota.refl quotaOk =>
    split
    next hphase =>
      cases quotaOk with
      | true => exact .moved k q _ hq (.admitted hphase)
      | false => exact failed_move _ hq hphase (by simp) (by simp) rfl
    next => exact .kept
  case abort.refl =>
    split
    next => exact .kept
    next hopen => exact .moved k q _ hq (.aborted (Bool.not_eq_true _ ▸ hopen))

theorem step_eq_stepRequest (he : e.requestOf = some k) :
    w.step env e = match w.requests[k]? with
      | some q => w.stepRequest k q e
      | none => w := by
  cases e <;> cases he <;> rfl

theorem step_other (a : Action env) (ha : ¬Store.isCreation a) :
    w.step env (.other a) =
      if w.keepsLocked (Store.step env w.store a) then { w with store := Store.step env w.store a }
      else w := by
  cases a with
  | createOrGetJob => exact absurd trivial ha
  | _ => rfl

/-- The cases of a step. -/
theorem step_move (w : CreateWorld) (e : CreateEvent env) : Move env w e (w.step env e) := by
  cases hk : e.requestOf with
  | some k =>
    rw [step_eq_stepRequest hk]
    split
    next q hq => exact stepRequest_move hq hk
    next => exact .kept
  | none =>
    cases e <;> cases hk
    case none.request.refl ownerId assignmentId payload =>
      exact .requested ⟨ownerId, assignmentId, payload, .started⟩ rfl
    case none.other.refl a =>
      by_cases ha : Store.isCreation a
      · cases a <;> first | exact .kept | cases ha
      · rw [step_other a ha]
        split
        next hkeeps => exact .other a rfl ha hkeeps
        next => exact .kept

end Moves

/-! ## Transactions that create no batch -/

/-- A move that inserts no job. -/
def Uncreated (env : Runtime) (s s' : Store) : Prop :=
  Store.AnyMove env s s' ∧ s'.jobs.length = s.jobs.length

theorem exec_uncreated {env : Runtime} {s s' : Store} {a : Action env} (hs : Store.Sound env s)
    (ha : ¬Store.isCreation a) (h : s.exec env a = .ok s') :
    Relation.ReflTransGen (Uncreated env) s s' := by
  have hchores (hwork : ¬Store.isControl a) (hclaim : ¬Store.isClaim a) :
      Relation.ReflTransGen (Uncreated env) s s' :=
    Relation.ReflTransGen.mono (fun _ _ hc => ⟨hc.1.move.any, hc.2.2.resolve_right ha⟩) _ _
      (Store.exec_chores hs (Store.failureIs_true a) hwork hclaim h)
  cases a with
  | claimAttempt =>
    obtain ⟨_, h⟩ := Store.map_snd_eq_ok.1 h
    rcases Store.claimAttempt_cases hs.keys h with ⟨-, he⟩ | ⟨_, _, hc, -⟩
    · exact he ▸ .refl
    · refine .single ⟨.claimed hc, ?_⟩
      rw [hc.eq]
      exact Table.length_setWhere _ _ _
  | controlGradingJob =>
    obtain ⟨_, h⟩ := Store.map_snd_eq_ok.1 h
    rcases Store.controlGradingJob_cases hs.keys h with
      ⟨-, he⟩ | ⟨_, -, -, -, ⟨_, hc, -⟩ | ⟨-, hc⟩ | ⟨_, -, -, hc⟩⟩
    · exact he ▸ .refl
    · refine .single ⟨.switched hc, ?_⟩
      rw [hc.eq]
      exact Table.length_setWhere _ _ _
    · refine .single ⟨.cancelled hc, ?_⟩
      rw [hc.eq]
      exact Table.length_setWhere _ _ _
    · refine .single ⟨.retried hc, ?_⟩
      rw [hc.eq]
      exact Table.length_setWhere _ _ _
  | _ => exact hchores id id

/-- They keep what identifies the jobs and the items. -/
theorem Uncreated.identities {env : Runtime} {s s' : Store} (hk : s.Keys)
    (h : Uncreated env s s') :
    s'.jobs.map (·.toJobSnapshot) = s.jobs.map (·.toJobSnapshot) ∧
      s'.items.map (·.toItemIdentity) = s.items.map (·.toItemIdentity) := by
  rcases h.1.identities hk with ⟨job, items, hc⟩ | hsame
  · have := h.2
    rw [hc.eq, List.length_append] at this
    simp at this
  · exact hsame

theorem step_identities {env : Runtime} {s : Store} (hw : Store.WellFormed env s) {a : Action env}
    (ha : ¬Store.isCreation a) :
    (Store.step env s a).jobs.map (·.toJobSnapshot) = s.jobs.map (·.toJobSnapshot) ∧
      (Store.step env s a).items.map (·.toItemIdentity) = s.items.map (·.toItemIdentity) := by
  refine Store.step_chain (P := fun t => t.jobs.map (·.toJobSnapshot) = s.jobs.map
    (·.toJobSnapshot) ∧ t.items.map (·.toItemIdentity) = s.items.map (·.toItemIdentity)) hw
    (fun _ _ h => h.1) (fun _ => exec_uncreated hw.sound ha) (fun t t' ht hm hp => ?_) ⟨rfl, rfl⟩
  obtain ⟨hjobs, hitems⟩ := hm.identities ht.sound.keys
  exact ⟨hjobs.trans hp.1, hitems.trans hp.2⟩

/-! ## The commit is the whole transaction -/

theorem jobByKey_none {s : Store} {job : GradingJob}
    (hunique : Store.jobsUnique (s.jobs ++ [job]) = true) :
    s.jobByKey job.ownerId job.idempotencyKey = none := by
  unfold Store.jobByKey
  rw [List.find?_eq_none]
  intro j hj hkey
  rw [Bool.and_eq_true, beq_iff_eq, beq_iff_eq] at hkey
  have hpair := (List.pairwise_append.1 (of_decide_eq_true hunique)).2.2 j hj job
    (List.mem_singleton.2 rfl)
  simp [Store.jobConflict, hkey.1, hkey.2] at hpair

/-- The store after a commit. -/
theorem insertItems_eq_ok {env : Runtime} {s s' : Store} (hk : s.Keys) {q : CreateRequest}
    {src : CreationSources} {seed : CreationSeed}
    (h : insertItems s q (q.job env src seed) seed = .ok s') :
    s' = { s with
      jobs := s.jobs ++ [q.job env src seed]
      items := s.items ++ Store.createdItems (q.job env src seed) seed q.payload.submissionIds } ∧
    (src.assignment.id = q.assignmentId → submissionsReady s q = true) ∧
    (s'.itemStatuses (q.job env src seed).id).length = (q.job env src seed).expectedItemCount := by
  unfold insertItems at h
  simp only [bind_eq_ok, require_eq_ok, beq_iff_eq] at h
  obtain ⟨s₂, hitems, _, hcount, hret⟩ := h
  cases hret
  obtain ⟨he, hcheck, -⟩ := Store.foldlM_insertItem
    (by simpa [Store.itemsUnique] using hk.itemRows) hitems
  refine ⟨he, fun hassignment => ?_, hcount⟩
  unfold submissionsReady
  rw [List.all_eq_true]
  intro id hid
  obtain ⟨n, hn, rfl⟩ := List.mem_iff_getElem.1 hid
  have hmem : Store.createdItem (q.job env src seed) seed n q.payload.submissionIds[n] ∈
      Store.createdItems (q.job env src seed) seed q.payload.submissionIds := by
    unfold Store.createdItems
    exact List.mem_mapIdx.2 ⟨n, hn, rfl⟩
  obtain ⟨_, -, x, hx, -, ⟨hxid, hxa, hxo, hxr⟩, -⟩ :=
    Store.itemInsertCheck_eq_ok (hcheck _ hmem)
  rw [List.any_eq_true]
  refine ⟨x, hx, ?_⟩
  rw [hxid, hxa, hxo, hxr]
  simp only [Store.createdItem, CreateRequest.job, Store.createdJob, hassignment, beq_self_eq_true,
    Bool.and_self]

theorem RubricRead.assignment_row {s : Store} {q : CreateRequest} {a : Assignment}
    {r : RubricVersion} {structured : StructuredRubric} {providerId : Uuid} {model : String}
    (h : RubricRead s q a r structured providerId model) :
    a.id = q.assignmentId ∧ a.ownerId = q.ownerId ∧ a.status = .ready := by
  simpa [and_assoc] using List.find?_some h.assignment

/-- The job of the request's key, with the request's hash. -/
structure IsAnswer (env : Runtime) (q : CreateRequest) (job : GradingJob) : Prop where
  owner : job.ownerId = q.ownerId
  key : job.idempotencyKey = q.payload.idempotencyKey
  hash : job.requestHash = q.requestHash env

/-- A job made from what the request has read answers it. -/
theorem SourcesRead.isAnswer {env : Runtime} {s : Store} {q : CreateRequest}
    {src : CreationSources} (h : SourcesRead env s q src) (seed : CreationSeed) :
    IsAnswer env q (q.job env src seed) := by
  refine ⟨rfl, rfl, ?_⟩
  simp only [CreateRequest.job, Store.createdJob, CreateRequest.requestHash,
    h.rubric.assignment_row.1]

/-- The locked rows are those that the whole transaction reads. -/
theorem SourcesRead.creationInputs {env : Runtime} {s : Store} (hs : Store.Sound env s)
    {q : CreateRequest} {src : CreationSources} (h : SourcesRead env s q src)
    (hready : submissionsReady s q = true) :
    s.creationInputs q.ownerId q.assignmentId q.payload =
      .ok (src.assignment, src.rubric, src.structured, src.provider, src.model, src.profile) := by
  have ha : s.assignments.find? (fun a => a.id == q.assignmentId && a.ownerId == q.ownerId &&
      a.status == .ready) = some src.assignment := h.rubric.assignment
  have hr : s.rubrics.find? (fun r => r.assignmentId == q.assignmentId && r.ownerId == q.ownerId &&
      r.status == .confirmed) = some src.rubric := by
    have hq : (src.rubric.assignmentId == q.assignmentId && src.rubric.ownerId == q.ownerId &&
        src.rubric.status == .confirmed) = true := by
      simp [h.rubric.rubric_assignment, h.rubric.rubric_owner, h.rubric.rubric_confirmed]
    have hsome : (s.rubrics.find? fun r => r.assignmentId == q.assignmentId &&
        r.ownerId == q.ownerId && r.status == .confirmed).isSome :=
      List.find?_isSome.2 ⟨_, h.rubric.rubric_mem, hq⟩
    obtain ⟨r, hr⟩ := Option.isSome_iff_exists.1 hsome
    have hrq := List.find?_some hr
    simp only [Bool.and_eq_true, beq_iff_eq] at hrq hq
    have hconflict : Store.rubricConflict src.rubric r = true ∧
        Store.rubricConflict r src.rubric = true := by
      simp [Store.rubricConflict, hrq, hq]
    rw [hr, Table.eq_of_conflict hs.inputs.rubrics h.rubric.rubric_mem
      (List.mem_of_find?_eq_some hr) hconflict.1 hconflict.2]
  have hp : s.providers.find? (·.id == src.provider.id) = some src.provider :=
    Table.find?_eq_some_of_key hs.inputs.providers h.provider_mem _ (by simp) (by simp)
  obtain ⟨name, hprofile⟩ := h.profile
  unfold submissionsReady at hready
  unfold Store.creationInputs
  simp only [ha, hr, h.rubric.rubric_structured, h.rubric.rubric_provider, h.rubric.rubric_model,
    hready, hp, h.provider_enabled, h.provider_tested, h.provider_model, beq_self_eq_true,
    Bool.and_self, hprofile]
  rfl

/-- A commit is the whole creation at the store that it finds. -/
theorem createOrGetJob_of_commit {env : Runtime} {s s' : Store} (hs : Store.Sound env s)
    {q : CreateRequest} {src : CreationSources} {seed : CreationSeed} (h : SourcesRead env s q src)
    (hcheck : s.jobInsertCheck (q.job env src seed) = .ok ())
    (hunique : Store.jobsUnique (s.jobs ++ [q.job env src seed]) = true)
    (hitems : insertItems s q (q.job env src seed) seed = .ok s') :
    s.createOrGetJob env q.ownerId q.assignmentId q.payload true seed =
      .ok (((q.job env src seed).id, true), s') := by
  have hkey : s.jobByKey q.ownerId q.payload.idempotencyKey = none := jobByKey_none hunique
  have hready := (insertItems_eq_ok hs.keys hitems).2.1 h.rubric.assignment_row.1
  unfold Store.createOrGetJob
  unfold insertItems at hitems
  simp only [bind_eq_ok, require_eq_ok, beq_iff_eq] at hitems
  obtain ⟨s₂, hfold, _, hcount, hret⟩ := hitems
  rw [hkey]
  simp only [bind_eq_ok, require_eq_ok, Store.insertJob_eq_ok]
  exact ⟨(), trivial, _, h.creationInputs hs hready, (), h.accepts, (), h.snapshot, _,
    ⟨rfl, hcheck, hunique⟩, s₂, hfold, (), beq_iff_eq.2 hcount, by cases hret; rfl⟩

/-! ## What a request knows -/

/-- The submissions of a batch, with their positions, in the order of its rows. -/
def positionsOf (s : Store) (jobId : Uuid) : List (Uuid × Nat) :=
  (s.items.filter (·.gradingJobId == jobId)).map fun i => (i.submissionId, i.position)

/-- What a request knows of the store in a phase. -/
def Fits (env : Runtime) (s : Store) (q : CreateRequest) : CreatePhase → Prop
  | .assignmentRead (some a) => s.assignments.find? (fun a => a.id == q.assignmentId &&
    a.ownerId == q.ownerId && a.status == .ready) = some a
  | .rubricRead a r structured providerId model => RubricRead s q a r structured providerId model
  | .submissionsRead a r structured providerId model =>
    RubricRead s q a r structured providerId model ∧ structured.accepts env = true
  | .providerRead src => SourcesRead env s q src
  | .inserted src seed => SourcesRead env s q src ∧
    s.jobInsertCheck (q.job env src seed) = .ok () ∧
    Store.jobsUnique (s.jobs ++ [q.job env src seed]) = true
  | .finished jobId created => (∃ job ∈ s.jobs, job.id = jobId ∧ IsAnswer env q job) ∧
    (created = true → positionsOf s jobId = q.payload.submissionIds.mapIdx fun n id => (id, n))
  | _ => True

theorem RubricRead.setPhase {s : Store} {q : CreateRequest} {phase : CreatePhase} {a : Assignment}
    {r : RubricVersion} {structured : StructuredRubric} {providerId : Uuid} {model : String}
    (h : RubricRead s q a r structured providerId model) :
    RubricRead s { q with phase } a r structured providerId model :=
  { h with }

theorem SourcesRead.setPhase {env : Runtime} {s : Store} {q : CreateRequest} {phase : CreatePhase}
    {src : CreationSources} (h : SourcesRead env s q src) :
    SourcesRead env s { q with phase } src :=
  { h with rubric := h.rubric.setPhase }

theorem IsAnswer.setPhase {env : Runtime} {q : CreateRequest} {phase : CreatePhase}
    {job : GradingJob} (h : IsAnswer env q job) : IsAnswer env { q with phase } job :=
  { h with }

theorem Fits.setPhase {env : Runtime} {s : Store} {q : CreateRequest} {phase phase' : CreatePhase}
    (h : Fits env s q phase) : Fits env s { q with phase := phase' } phase := by
  cases phase with
  | assignmentRead assignment =>
    cases assignment with
    | none => trivial
    | some a => exact h
  | rubricRead => exact RubricRead.setPhase h
  | submissionsRead => exact ⟨h.1.setPhase, h.2⟩
  | providerRead => exact SourcesRead.setPhase h
  | inserted => exact ⟨h.1.setPhase, h.2⟩
  | finished =>
    obtain ⟨⟨job, hjob, hid, hanswer⟩, hpositions⟩ := h
    exact ⟨⟨job, hjob, hid, hanswer.setPhase⟩, hpositions⟩
  | _ => trivial

/-- The rows under a request's locks are still there. -/
structure LocksKept (s s' : Store) (phase : CreatePhase) : Prop where
  assignment : ∀ id, phase.lockedAssignment = some id →
    s'.assignments.filter (·.id == id) = s.assignments.filter (·.id == id)
  rubric : ∀ r ∈ s.rubrics, phase.lockedRubric = some r.id → r ∈ s'.rubrics
  provider : ∀ p ∈ s.providers, phase.lockedProvider = some p.id → p ∈ s'.providers

/-- The assignment of a request, found by its id, its owner and its status. -/
theorem LocksKept.find_assignment {s s' : Store} {phase : CreatePhase} (h : LocksKept s s' phase)
    {q : CreateRequest} {a : Assignment}
    (hfind : s.assignments.find? (fun a => a.id == q.assignmentId && a.ownerId == q.ownerId &&
      a.status == .ready) = some a) (hlock : phase.lockedAssignment = some a.id) :
    s'.assignments.find? (fun a => a.id == q.assignmentId && a.ownerId == q.ownerId &&
      a.status == .ready) = some a := by
  have hid : a.id = q.assignmentId := by
    have := List.find?_some hfind
    simp only [Bool.and_eq_true, beq_iff_eq] at this
    exact this.1.1
  rw [← hfind]
  refine Table.find?_eq_of_filter_eq (h.assignment a.id hlock) fun x hx => ?_
  simp only [Bool.and_eq_true, beq_iff_eq] at hx
  rw [hx.1.1, hid, beq_self_eq_true]

theorem RubricRead.kept {s s' : Store} {q : CreateRequest} {a : Assignment} {r : RubricVersion}
    {structured : StructuredRubric} {providerId : Uuid} {model : String} {phase : CreatePhase}
    (h : RubricRead s q a r structured providerId model) (hlocks : LocksKept s s' phase)
    (hassignment : phase.lockedAssignment = some a.id) (hrubric : phase.lockedRubric = some r.id) :
    RubricRead s' q a r structured providerId model :=
  { h with
    assignment := hlocks.find_assignment h.assignment hassignment
    rubric_mem := hlocks.rubric r h.rubric_mem hrubric }

theorem SourcesRead.kept {env : Runtime} {s s' : Store} {q : CreateRequest} {src : CreationSources}
    {phase : CreatePhase} (h : SourcesRead env s q src) (hlocks : LocksKept s s' phase)
    (hassignment : phase.lockedAssignment = some src.assignment.id)
    (hrubric : phase.lockedRubric = some src.rubric.id)
    (hprovider : phase.lockedProvider = some src.provider.id) : SourcesRead env s' q src :=
  { h with
    rubric := h.rubric.kept hlocks hassignment hrubric
    provider_mem := hlocks.provider _ h.provider_mem hprovider }

/-- The checks of the job row look at locked rows and at the row itself. -/
theorem SourcesRead.jobInsertCheck {env : Runtime} {s s' : Store} {q : CreateRequest}
    {src : CreationSources} {seed : CreationSeed} (h : SourcesRead env s' q src)
    (hcheck : s.jobInsertCheck (q.job env src seed) = .ok ()) :
    s'.jobInsertCheck (q.job env src seed) = .ok () := by
  unfold Store.jobInsertCheck at hcheck ⊢
  simp only [bind_eq_ok, require_eq_ok] at hcheck ⊢
  obtain ⟨_, -, _, htext, _, hsnapshot, _, hprogress, _, htitle, _, htimes, -⟩ := hcheck
  obtain ⟨ha, howner, hready⟩ := h.rubric.assignment_row
  have hconfirmed : (s'.rubrics.any fun r => r.id == (q.job env src seed).rubricVersionId &&
      r.assignmentId == (q.job env src seed).assignmentId &&
      r.ownerId == (q.job env src seed).ownerId && r.status == .confirmed &&
      s'.assignments.any fun a => a.id == r.assignmentId && a.ownerId == r.ownerId &&
        a.status == .ready) = true := by
    refine List.any_eq_true.2 ⟨src.rubric, h.rubric.rubric_mem, ?_⟩
    simp only [CreateRequest.job, Store.createdJob, ha, h.rubric.rubric_assignment,
      h.rubric.rubric_owner, h.rubric.rubric_confirmed, beq_self_eq_true, Bool.true_and]
    refine List.any_eq_true.2 ⟨src.assignment, List.mem_of_find?_eq_some h.rubric.assignment, ?_⟩
    simp [ha, howner, hready]
  have hprovider : (s'.providers.any fun p => p.id == (q.job env src seed).providerConfigId) =
      true :=
    List.any_eq_true.2 ⟨src.provider, h.provider_mem, by simp [CreateRequest.job, Store.createdJob]⟩
  exact ⟨(), hconfirmed, (), htext, (), hsnapshot, (), hprogress, (), htitle, (), htimes, hprovider⟩

/-- What a request knows outlives a change that leaves its locked rows and all batches alone. -/
theorem Fits.kept {env : Runtime} {s s' : Store} {q : CreateRequest} {phase : CreatePhase}
    (h : Fits env s q phase) (hlocks : LocksKept s s' phase)
    (hunique : ∀ src seed, phase = .inserted src seed →
      Store.jobsUnique (s.jobs ++ [q.job env src seed]) = true →
      Store.jobsUnique (s'.jobs ++ [q.job env src seed]) = true)
    (hjobs : ∀ job ∈ s.jobs, ∃ job' ∈ s'.jobs, job'.toJobSnapshot = job.toJobSnapshot)
    (hpositions : ∀ job ∈ s.jobs, positionsOf s' job.id = positionsOf s job.id) :
    Fits env s' q phase := by
  cases phase with
  | assignmentRead assignment =>
    cases assignment with
    | none => trivial
    | some a => exact hlocks.find_assignment h rfl
  | rubricRead => exact RubricRead.kept h hlocks rfl rfl
  | submissionsRead => exact ⟨h.1.kept hlocks rfl rfl, h.2⟩
  | providerRead => exact SourcesRead.kept h hlocks rfl rfl rfl
  | inserted src seed =>
    obtain ⟨hsources, hcheck, huniq⟩ := h
    have hsources' := hsources.kept hlocks rfl rfl rfl
    exact ⟨hsources', hsources'.jobInsertCheck hcheck, hunique src seed rfl huniq⟩
  | finished jobId created =>
    obtain ⟨⟨job, hjob, hid, hanswer⟩, hcreated⟩ := h
    obtain ⟨job', hjob', hsame⟩ := hjobs job hjob
    refine ⟨⟨job', hjob', by rw [hsame, hid], by rw [hsame, hanswer.owner],
      by rw [hsame, hanswer.key], by rw [hsame, hanswer.hash]⟩, fun hc => ?_⟩
    rw [← hid, hpositions job hjob, hid]
    exact hcreated hc
  | _ => trivial

theorem positionsOf_of_items {s s' : Store} (jobId : Uuid)
    (h : s'.items.map (·.toItemIdentity) = s.items.map (·.toItemIdentity)) :
    positionsOf s' jobId = positionsOf s jobId := by
  have hpositions (t : Store) : positionsOf t jobId =
      ((t.items.map (·.toItemIdentity)).filter (·.gradingJobId == jobId)).map
        fun i => (i.submissionId, i.position) := by
    rw [positionsOf, List.filter_map, List.map_map]
    rfl
  rw [hpositions, hpositions, h]

theorem positionsOf_append {s s' : Store} {items : List GradingJobItem} (jobId : Uuid)
    (h : s'.items = s.items ++ items) : positionsOf s' jobId = positionsOf s jobId ++
      (items.filter (·.gradingJobId == jobId)).map fun i => (i.submissionId, i.position) := by
  rw [positionsOf, h, List.filter_append, List.map_append]
  rfl

/-- The items of a new batch stand at the positions of its submissions. -/
theorem positions_createdItems (job : GradingJob) (seed : CreationSeed) (ids : List Uuid) :
    ((Store.createdItems job seed ids).filter (·.gradingJobId == job.id)).map
      (fun i => (i.submissionId, i.position)) = ids.mapIdx fun n id => (id, n) := by
  rw [List.filter_eq_self.2 fun i hi => ?_]
  · unfold Store.createdItems
    rw [List.mapIdx_eq_zipIdx_map, List.mapIdx_eq_zipIdx_map, List.map_map]
    rfl
  · obtain ⟨n, id, rfl⟩ := Store.mem_createdItems hi
    simp [Store.createdItem]

theorem positions_other {job : GradingJob} {seed : CreationSeed} {ids : List Uuid} {jobId : Uuid}
    (h : job.id ≠ jobId) :
    (Store.createdItems job seed ids).filter (·.gradingJobId == jobId) = [] := by
  rw [List.filter_eq_nil_iff]
  intro i hi
  obtain ⟨n, id, rfl⟩ := Store.mem_createdItems hi
  simpa [Store.createdItem] using h

/-- No item belongs to a job that is not there. -/
theorem positionsOf_fresh {s : Store} (hr : Store.Refs s) {jobId : Uuid}
    (h : ∀ j ∈ s.jobs, j.id ≠ jobId) : positionsOf s jobId = [] := by
  rw [positionsOf, List.map_eq_nil_iff, List.filter_eq_nil_iff]
  intro i hi
  obtain ⟨j, hj, hid, -⟩ := hr.items i hi
  simpa [← hid] using h j hj

namespace PhaseMove

variable {env : Runtime} {w : CreateWorld} {q : CreateRequest} {phase : CreatePhase}

/-- A request that is over makes no move. -/
theorem not_isOver (h : PhaseMove env w q phase) : q.phase.isOver = false := by
  cases h with
  | aborted hopen => exact hopen
  | failed _ _ _ hopen => exact hopen
  | refused hphase => rcases hphase with hphase | hphase <;> rw [hphase] <;> rfl
  | found _ hphase => rcases hphase with hphase | hphase <;> rw [hphase] <;> rfl
  | missed hphase => rw [hphase]; rfl
  | admitted hphase => rw [hphase]; rfl
  | assignmentRead _ hphase => rw [hphase]; rfl
  | rubricRead _ _ _ _ _ hphase => rw [hphase]; rfl
  | submissionsRead _ _ _ _ _ hphase => rw [hphase]; rfl
  | providerRead _ hphase => rw [hphase]; rfl
  | inserted _ _ hphase => rw [hphase]; rfl
  | lost _ hphase => rw [hphase]; rfl

theorem fits (h : PhaseMove env w q phase) (hfits : Fits env w.store q q.phase) :
    Fits env w.store q phase := by
  cases h with
  | aborted => trivial
  | refused => trivial
  | missed => trivial
  | failed => trivial
  | admitted => trivial
  | lost => trivial
  | found existing hphase hkey hhash =>
    have hq := List.find?_some hkey
    simp only [Bool.and_eq_true, beq_iff_eq] at hq
    exact ⟨⟨existing, List.mem_of_find?_eq_some hkey, rfl, hq.1, hq.2, hhash⟩, fun h => by cases h⟩
  | assignmentRead assignment hphase ha =>
    cases assignment with
    | none => trivial
    | some a => exact ha a rfl
  | rubricRead a r structured providerId model hphase hr hassignment howner hconfirmed hstructured
      hprovider hmodel =>
    rw [hphase] at hfits
    exact ⟨hfits, hr, hassignment, howner, hconfirmed, hstructured,
      hprovider, hmodel⟩
  | submissionsRead a r structured providerId model hphase haccepts =>
    rw [hphase] at hfits
    exact ⟨hfits, haccepts⟩
  | providerRead src hphase hprovider henabled htested hmodel hprofile hsnapshot =>
    rw [hphase] at hfits
    exact ⟨hfits.1, hfits.2, hprovider, henabled, htested, hmodel, hprofile, hsnapshot⟩
  | inserted src seed hphase hcheck hpending hunique =>
    rw [hphase] at hfits
    exact ⟨hfits, hcheck, hunique⟩

end PhaseMove

/-! ## The invariant -/

/-- The rows that two requests hold back do not conflict. -/
def Compatible (env : Runtime) (p q : CreateRequest) : Prop :=
  ∀ x y, p.pending env = some x → q.pending env = some y → Store.jobConflict x y = false

structure Consistent (env : Runtime) (w : CreateWorld) : Prop where
  reached : ∃ as, w.store = Store.after env as
  fits : ∀ q ∈ w.requests, Fits env w.store q q.phase
  pending : Table.Apart (Compatible env) w.requests
  /-- every job was created by a request that has returned it -/
  born : ∀ job ∈ w.store.jobs, ∃ q ∈ w.requests, q.phase = .finished job.id true

theorem jobConflict_comm (x y : GradingJob) : Store.jobConflict x y = Store.jobConflict y x := by
  simp only [Store.jobConflict, Bool.beq_comm]

theorem jobsUnique_append {rows : List GradingJob} {job : GradingJob} :
    Store.jobsUnique (rows ++ [job]) = true ↔
      Store.jobsUnique rows = true ∧ ∀ j ∈ rows, Store.jobConflict j job = false := by
  simp [Store.jobsUnique, List.pairwise_append]

theorem compatible_of_none {env : Runtime} {p : CreateRequest} (h : p.pending env = none)
    (q : CreateRequest) : Compatible env p q ∧ Compatible env q p := by
  constructor
  · intro x y hx
    cases h.symm.trans hx
  · intro x y _ hy
    cases h.symm.trans hy

/-- A request that starts to wait for its commit is compatible with those that wait. -/
theorem PhaseMove.compatible {env : Runtime} {w : CreateWorld} {q p : CreateRequest}
    {phase : CreatePhase} (h : PhaseMove env w q phase) (hp : p ∈ w.requests) :
    Compatible env { q with phase } p ∧ Compatible env p { q with phase } := by
  cases h with
  | inserted src seed hphase hcheck hpending hunique =>
    constructor
    · intro x y hx hy
      obtain rfl := Option.some.inj hx
      exact hpending p hp y hy
    · intro x y hx hy
      obtain rfl := Option.some.inj hy
      rw [jobConflict_comm]
      exact hpending p hp x hx
  | _ => exact compatible_of_none rfl p

theorem getElem?_setPhase {w : CreateWorld} {k : Nat} {q : CreateRequest} {phase : CreatePhase}
    (hq : w.requests[k]? = some q) :
    (w.setPhase k q phase).requests[k]? = some { q with phase } :=
  List.getElem?_set_self (List.getElem?_eq_some_iff.1 hq).1

/-- The other requests stay. -/
theorem mem_setPhase {w : CreateWorld} {k : Nat} {q p : CreateRequest} {phase : CreatePhase}
    (hq : w.requests[k]? = some q) (hp : p ∈ w.requests) (hne : p ≠ q) :
    p ∈ (w.setPhase k q phase).requests := by
  obtain ⟨i, hi⟩ := List.getElem?_of_mem hp
  have hik : i ≠ k := fun he => hne (Option.some.inj (hi.symm.trans (he ▸ hq)))
  refine List.mem_of_getElem? (i := i) ?_
  rw [setPhase, List.getElem?_set_ne hik.symm]
  exact hi

namespace Consistent

variable {env : Runtime} {w : CreateWorld}

theorem wellFormed (hw : Consistent env w) : Store.WellFormed env w.store := by
  obtain ⟨as, has⟩ := hw.reached
  exact has ▸ Store.after_wellFormed as

theorem moved (hw : Consistent env w) {k : Nat} {q : CreateRequest} {phase : CreatePhase}
    (hq : w.requests[k]? = some q) (hmove : PhaseMove env w q phase) :
    Consistent env (w.setPhase k q phase) where
  reached := hw.reached
  fits p hp := by
    rcases List.mem_or_eq_of_mem_set hp with hold | rfl
    · exact hw.fits p hold
    · exact (hmove.fits (hw.fits q (List.mem_of_getElem? hq))).setPhase
  pending := hw.pending.set fun _ _ hp _ => hmove.compatible (List.mem_of_getElem? hp)
  born job hjob := by
    obtain ⟨p, hp, hphase⟩ := hw.born job hjob
    refine ⟨p, mem_setPhase hq hp fun he => ?_, hphase⟩
    have hopen := hmove.not_isOver
    rw [← he, hphase] at hopen
    cases hopen

theorem requested (hw : Consistent env w) {q : CreateRequest} (hphase : q.phase = .started) :
    Consistent env { w with requests := w.requests ++ [q] } where
  reached := hw.reached
  fits p hp := by
    rcases List.mem_append.1 hp with hold | hnew
    · exact hw.fits p hold
    · rw [List.mem_singleton.1 hnew, hphase]
      trivial
  pending := hw.pending.concat fun p => compatible_of_none (by rw [CreateRequest.pending, hphase]) p
  born job hjob := by
    obtain ⟨p, hp, hfinished⟩ := hw.born job hjob
    exact ⟨p, List.mem_append_left _ hp, hfinished⟩

/-- What the other requests know outlives a commit. -/
theorem fits_created (hw : Consistent env w) {k i : Nat} {q p : CreateRequest}
    {src : CreationSources} {seed : CreationSeed} {s' : Store} (hq : w.requests[k]? = some q)
    (hphase : q.phase = .inserted src seed)
    (hitems : insertItems w.store q (q.job env src seed) seed = .ok s')
    (hp : w.requests[i]? = some p) (hik : i ≠ k) : Fits env s' p p.phase := by
  have hfits := hw.fits q (List.mem_of_getElem? hq)
  rw [hphase] at hfits
  obtain ⟨-, -, hunique⟩ := hfits
  obtain ⟨rfl, -, -⟩ := insertItems_eq_ok hw.wellFormed.sound.keys hitems
  refine (hw.fits p (List.mem_of_getElem? hp)).kept
    ⟨fun _ _ => rfl, fun _ hr _ => hr, fun _ hp _ => hp⟩ (fun src' seed' hphase' hunique' => ?_)
    (fun job hjob => ⟨job, List.mem_append_left _ hjob, rfl⟩) fun job hjob => ?_
  · refine jobsUnique_append.2 ⟨hunique, fun j hj => ?_⟩
    rcases List.mem_append.1 hj with hj | hj
    · exact (jobsUnique_append.1 hunique').2 j hj
    · rw [List.mem_singleton.1 hj]
      exact hw.pending k i q p hq hp hik.symm _ _ (by rw [CreateRequest.pending, hphase])
        (by rw [CreateRequest.pending, hphase'])
  · have hne : (q.job env src seed).id ≠ job.id := fun he => by
      have := (jobsUnique_append.1 hunique).2 job hjob
      simp [Store.jobConflict, he] at this
    rw [positionsOf_append job.id rfl, positions_other hne, List.map_nil, List.append_nil]

/-- The commit answers its request with the new batch. -/
theorem fits_answer (hw : Consistent env w) {k : Nat} {q : CreateRequest}
    {src : CreationSources} {seed : CreationSeed} {s' : Store} (hq : w.requests[k]? = some q)
    (hphase : q.phase = .inserted src seed)
    (hitems : insertItems w.store q (q.job env src seed) seed = .ok s') :
    Fits env s' q (.finished (q.job env src seed).id true) := by
  have hfits := hw.fits q (List.mem_of_getElem? hq)
  rw [hphase] at hfits
  obtain ⟨hsources, -, hunique⟩ := hfits
  obtain ⟨rfl, -, -⟩ := insertItems_eq_ok hw.wellFormed.sound.keys hitems
  refine ⟨⟨q.job env src seed, List.mem_append_right _ (List.mem_singleton.2 rfl), rfl,
    hsources.isAnswer seed⟩, fun _ => ?_⟩
  · have hfresh : positionsOf w.store (q.job env src seed).id = [] :=
      positionsOf_fresh hw.wellFormed.refs fun j hj he => by
        have := (jobsUnique_append.1 hunique).2 j hj
        simp [Store.jobConflict, he] at this
    rw [positionsOf_append _ rfl, hfresh, List.nil_append, positions_createdItems]

theorem created (hw : Consistent env w) {k : Nat} {q : CreateRequest} {src : CreationSources}
    {seed : CreationSeed} {s' : Store} (hq : w.requests[k]? = some q)
    (hphase : q.phase = .inserted src seed)
    (hitems : insertItems w.store q (q.job env src seed) seed = .ok s') :
    Consistent env ({ w with store := s' }.setPhase k q
      (.finished (q.job env src seed).id true)) where
  reached := by
    have hfits := hw.fits q (List.mem_of_getElem? hq)
    rw [hphase] at hfits
    obtain ⟨hsources, hcheck, hunique⟩ := hfits
    obtain ⟨as, has⟩ := hw.reached
    have hexec : w.store.exec env (.createOrGetJob q.ownerId q.assignmentId q.payload true seed) =
        .ok s' :=
      Store.map_snd_eq_ok.2
        ⟨_, createOrGetJob_of_commit hw.wellFormed.sound hsources hcheck hunique hitems⟩
    refine ⟨as ++ [.createOrGetJob q.ownerId q.assignmentId q.payload true seed], ?_⟩
    rw [Store.after_concat, ← has]
    exact (Store.step_of_ok hexec).symm
  fits p hp := by
    obtain ⟨i, hi⟩ := List.getElem?_of_mem hp
    rcases Table.getElem?_set_cases hi with ⟨-, rfl⟩ | ⟨hik, hold⟩
    · exact (hw.fits_answer hq hphase hitems).setPhase
    · exact hw.fits_created hq hphase hitems hold hik
  pending := hw.pending.set fun _ _ _ _ => compatible_of_none rfl _
  born job hjob := by
    obtain ⟨rfl, -, -⟩ := insertItems_eq_ok hw.wellFormed.sound.keys hitems
    rcases List.mem_append.1 hjob with hold | hnew
    · obtain ⟨p, hp, hfinished⟩ := hw.born job hold
      refine ⟨p, mem_setPhase hq hp fun he => ?_, hfinished⟩
      rw [he, hphase] at hfinished
      cases hfinished
    · rw [List.mem_singleton.1 hnew]
      exact ⟨_, List.mem_of_getElem? (getElem?_setPhase hq), rfl⟩

/-- The rows under locks after a transaction that leaves them alone. -/
theorem locksKept (hw : Consistent env w) {s' : Store} (hkeeps : w.keepsLocked s' = true)
    {q : CreateRequest} (hq : q ∈ w.requests) : LocksKept w.store s' q.phase := by
  have hlocked := List.all_eq_true.1 hkeeps q hq
  simp only [Bool.and_eq_true] at hlocked
  obtain ⟨⟨hassignment, hrubric⟩, hprovider⟩ := hlocked
  have hs := hw.wellFormed.sound
  refine ⟨fun id hlock => ?_, fun r hr hlock => ?_, fun p hp hlock => ?_⟩
  · rwa [hlock, Option.all_some, beq_iff_eq] at hassignment
  · rw [hlock, Option.all_some, beq_iff_eq, Table.find?_eq_some_of_key
      (Store.rubricIds_nodup hs) hr (fun x => x.id == r.id) (by simp) (by simp)] at hrubric
    exact List.mem_of_find?_eq_some hrubric
  · rw [hlock, Option.all_some, beq_iff_eq, Table.find?_eq_some_of_key hs.inputs.providers hp
      (fun x => x.id == p.id) (by simp) (by simp)] at hprovider
    exact List.mem_of_find?_eq_some hprovider

theorem other (hw : Consistent env w) {a : Action env} (ha : ¬Store.isCreation a)
    (hkeeps : w.keepsLocked (Store.step env w.store a) = true) :
    Consistent env { w with store := Store.step env w.store a } where
  reached := by
    obtain ⟨as, has⟩ := hw.reached
    exact ⟨as ++ [a], by rw [Store.after_concat, ← has]⟩
  fits q hq := by
    obtain ⟨hjobs, hitems⟩ := step_identities hw.wellFormed ha
    refine (hw.fits q hq).kept (hw.locksKept hkeeps hq) (fun src seed _ hunique => ?_)
      (fun job hjob => ?_) fun job _ => positionsOf_of_items job.id hitems
    · refine decide_eq_true (Store.jobs_pairwise_of_map_eq ?_ (of_decide_eq_true hunique))
      rw [List.map_append, List.map_append, hjobs]
    · have hmem : job.toJobSnapshot ∈
          (Store.step env w.store a).jobs.map (·.toJobSnapshot) := by
        rw [hjobs]
        exact List.mem_map_of_mem hjob
      obtain ⟨job', hjob', hsame⟩ := List.mem_map.1 hmem
      exact ⟨job', hjob', hsame⟩
  pending := hw.pending
  born job hjob := by
    obtain ⟨hjobs, -⟩ := step_identities hw.wellFormed ha
    have hmem : job.toJobSnapshot ∈ w.store.jobs.map (·.toJobSnapshot) := by
      rw [← hjobs]
      exact List.mem_map_of_mem hjob
    obtain ⟨job', hjob', hsame⟩ := List.mem_map.1 hmem
    obtain ⟨p, hp, hfinished⟩ := hw.born job' hjob'
    exact ⟨p, hp, by rw [hfinished, hsame]⟩

end Consistent

/-- **One statement keeps the invariant.** -/
theorem Move.consistent {env : Runtime} {w w' : CreateWorld} {e : CreateEvent env}
    (hw : Consistent env w) (h : Move env w e w') : Consistent env w' := by
  cases h with
  | kept => exact hw
  | requested q hphase => exact hw.requested hphase
  | moved k q phase hq hmove => exact hw.moved hq hmove
  | created k q src seed store he hq hphase hitems => exact hw.created hq hphase hitems
  | other a he ha hkeeps => exact hw.other ha hkeeps

/-! ## Runs -/

def start : CreateWorld := ⟨.empty, []⟩

theorem start_consistent (env : Runtime) : Consistent env start :=
  ⟨⟨[], rfl⟩, by simp [start], fun _ _ _ _ h => by simp [start] at h,
    by simp [start, Store.empty]⟩

theorem run_consistent {env : Runtime} {w : CreateWorld} (hw : Consistent env w)
    (events : List (CreateEvent env)) : Consistent env (Runs.run (step env) w events) :=
  Runs.run_invariant events hw fun w e hw => (step_move w e).consistent hw

/-- What becomes of a request whose key belongs to a batch with another hash. -/
structure Rejected (q q' : CreateRequest) : Prop where
  same : q' = { q with phase := q'.phase }
  unfinished : ∀ jobId created, q'.phase ≠ .finished jobId created
  conflict : q.phase = .started ∨ q.phase = .lost →
    q'.phase = q.phase ∨ q'.phase = .failed idempotencyConflict ∨ q'.phase = .aborted

/-- A job with the request's key and another hash. -/
def KeyTaken (env : Runtime) (s : Store) (q : CreateRequest) : Prop :=
  ∃ job ∈ s.jobs, job.ownerId = q.ownerId ∧ job.idempotencyKey = q.payload.idempotencyKey ∧
    job.requestHash ≠ q.requestHash env

/-- The job of a key is the only one. -/
theorem job_unique {env : Runtime} {s : Store} (hw : Store.WellFormed env s) {job job' : GradingJob}
    (hjob : job ∈ s.jobs) (hjob' : job' ∈ s.jobs) (howner : job.ownerId = job'.ownerId)
    (hkey : job.idempotencyKey = job'.idempotencyKey) : job = job' :=
  Table.eq_of_conflict hw.sound.keys.jobRows hjob hjob' (by simp [Store.jobConflict, howner, hkey])
    (by simp [Store.jobConflict, howner, hkey])

theorem jobByKey_eq_some {env : Runtime} {s : Store} (hw : Store.WellFormed env s)
    {job : GradingJob} (hjob : job ∈ s.jobs) :
    s.jobByKey job.ownerId job.idempotencyKey = some job := by
  have hsome : (s.jobByKey job.ownerId job.idempotencyKey).isSome :=
    List.find?_isSome.2 ⟨job, hjob, by simp⟩
  obtain ⟨found, hfound⟩ := Option.isSome_iff_exists.1 hsome
  have hq := List.find?_some hfound
  simp only [Bool.and_eq_true, beq_iff_eq] at hq
  rw [hfound, job_unique hw (List.mem_of_find?_eq_some hfound) hjob hq.1 hq.2]

namespace KeyTaken

variable {env : Runtime} {w : CreateWorld} {q : CreateRequest}

/-- A request of that key is not answered. -/
theorem unfinished (h : KeyTaken env w.store q) (hw : Consistent env w) (hq : q ∈ w.requests)
    (jobId : Uuid) (created : Bool) : q.phase ≠ .finished jobId created := by
  intro hphase
  have hfits := hw.fits q hq
  rw [hphase] at hfits
  obtain ⟨⟨job, hjob, -, hanswer⟩, -⟩ := hfits
  obtain ⟨job', hjob', howner, hkey, hhash⟩ := h
  rw [← job_unique hw.wellFormed hjob hjob' (hanswer.owner.trans howner.symm)
    (hanswer.key.trans hkey.symm)] at hhash
  exact hhash hanswer.hash

theorem answer_eq (h : KeyTaken env w.store q) (hw : Consistent env w) :
    ∃ existing, w.store.jobByKey q.ownerId q.payload.idempotencyKey = some existing ∧
      existing.requestHash ≠ q.requestHash env := by
  obtain ⟨job, hjob, howner, hkey, hhash⟩ := h
  exact ⟨job, by rw [← howner, ← hkey, jobByKey_eq_some hw.wellFormed hjob], hhash⟩

/-- The key stays taken. -/
theorem step (h : KeyTaken env w.store q) (hw : Consistent env w) (e : CreateEvent env) :
    KeyTaken env (w.step env e).store q := by
  obtain ⟨job, hjob, htaken⟩ := h
  have hmove := step_move w e
  generalize w.step env e = w' at hmove ⊢
  cases hmove with
  | kept | requested | moved => exact ⟨job, hjob, htaken⟩
  | created k p src seed store he hp hphase hitems =>
    obtain ⟨rfl, -, -⟩ := insertItems_eq_ok hw.wellFormed.sound.keys hitems
    exact ⟨job, List.mem_append_left _ hjob, htaken⟩
  | other a he ha hkeeps =>
    obtain ⟨hjobs, -⟩ := step_identities hw.wellFormed ha
    have hmem : job.toJobSnapshot ∈ (Store.step env w.store a).jobs.map (·.toJobSnapshot) := by
      rw [hjobs]
      exact List.mem_map_of_mem hjob
    obtain ⟨job', hjob', hsame⟩ := List.mem_map.1 hmem
    refine ⟨job', hjob', ?_⟩
    rw [hsame]
    exact htaken

end KeyTaken

/-- A request across a step. -/
theorem request_step {env : Runtime} {w : CreateWorld} {k : Nat} {q : CreateRequest}
    (hq : w.requests[k]? = some q) (e : CreateEvent env) :
    ∃ phase, (w.step env e).requests[k]? = some { q with phase } ∧
      (phase = q.phase ∨ PhaseMove env w q phase ∨ ∃ src seed, q.phase = .inserted src seed) := by
  have hmove := step_move w e
  generalize w.step env e = w' at hmove ⊢
  have hset {p : CreateRequest} {j : Nat} {phase : CreatePhase} (hp : w.requests[j]? = some p)
      (hrel : p = q → PhaseMove env w q phase ∨ ∃ src seed, q.phase = .inserted src seed) :
      ∃ phase', (w.requests.set j { p with phase })[k]? = some { q with phase := phase' } ∧
        (phase' = q.phase ∨ PhaseMove env w q phase' ∨ ∃ src seed, q.phase = .inserted src seed) := by
    by_cases hjk : j = k
    · subst hjk
      obtain rfl := Option.some.inj (hp.symm.trans hq)
      exact ⟨phase, List.getElem?_set_self (List.getElem?_eq_some_iff.1 hq).1, .inr (hrel rfl)⟩
    · exact ⟨q.phase, by rw [List.getElem?_set_ne hjk, hq], .inl rfl⟩
  cases hmove with
  | kept | other => exact ⟨q.phase, hq, .inl rfl⟩
  | requested p hphase =>
    exact ⟨q.phase, by rw [List.getElem?_append_left (List.getElem?_eq_some_iff.1 hq).1, hq],
      .inl rfl⟩
  | moved j p phase hp hmove => exact hset hp fun he => .inl (he ▸ hmove)
  | created j p src seed store he hp hphase hitems =>
    exact hset hp fun he => .inr ⟨src, seed, he ▸ hphase⟩

namespace KeyTaken

variable {env : Runtime} {w : CreateWorld} {q : CreateRequest}

/-- From the two places where a request looks for the job of its key it can only be refused. -/
theorem refused (h : KeyTaken env w.store q) (hw : Consistent env w) {phase : CreatePhase}
    (hphase : q.phase = .started ∨ q.phase = .lost) (hmove : PhaseMove env w q phase) :
    phase = .failed idempotencyConflict ∨ phase = .aborted := by
  obtain ⟨existing, hkey, hhash⟩ := h.answer_eq hw
  have hno {p : CreatePhase} (hp : q.phase = p) (hstarted : p ≠ .started) (hlost : p ≠ .lost) :
      False := hphase.elim (fun he => hstarted (hp ▸ he)) fun he => hlost (hp ▸ he)
  cases hmove with
  | aborted => exact .inr rfl
  | refused => exact .inl rfl
  | found existing' _ hkey' hhash' =>
    obtain rfl := Option.some.inj (hkey.symm.trans hkey')
    exact absurd hhash' hhash
  | missed _ hkey' => cases hkey.symm.trans hkey'
  | failed e hstarted hlost => exact (hno rfl hstarted hlost).elim
  | admitted hp => exact (hno hp (by simp) (by simp)).elim
  | assignmentRead _ hp => exact (hno hp (by simp) (by simp)).elim
  | rubricRead _ _ _ _ _ hp => exact (hno hp (by simp) (by simp)).elim
  | submissionsRead _ _ _ _ _ hp => exact (hno hp (by simp) (by simp)).elim
  | providerRead _ hp => exact (hno hp (by simp) (by simp)).elim
  | inserted _ _ hp => exact (hno hp (by simp) (by simp)).elim
  | lost _ hp => exact (hno hp (by simp) (by simp)).elim

theorem lookup (h : KeyTaken env w.store q) (hw : Consistent env w) {k : Nat}
    (hq : w.requests[k]? = some q) (hphase : q.phase = .started) :
    w.step env (.lookup k) = w.setPhase k q (.failed idempotencyConflict) := by
  obtain ⟨existing, hkey, hhash⟩ := h.answer_eq hw
  rw [step_eq_stepRequest rfl, hq]
  simp only [stepRequest, hphase, CreateWorld.lookup, hkey, answer, hhash, if_false]

theorem readConcurrent (h : KeyTaken env w.store q) (hw : Consistent env w) {k : Nat}
    (hq : w.requests[k]? = some q) (hphase : q.phase = .lost) :
    w.step env (.readConcurrent k) = w.setPhase k q (.failed idempotencyConflict) := by
  obtain ⟨existing, hkey, hhash⟩ := h.answer_eq hw
  rw [step_eq_stepRequest rfl, hq]
  simp only [stepRequest, hphase, CreateWorld.readConcurrent, hkey, answer, hhash, if_false]

/-- The request in every later state. -/
theorem rejected (h : KeyTaken env w.store q) (hw : Consistent env w) {k : Nat}
    (hq : w.requests[k]? = some q) (later : List (CreateEvent env)) :
    ∃ q', (Runs.run (CreateWorld.step env) w later).requests[k]? = some q' ∧ Rejected q q' := by
  have hself : Rejected q q :=
    ⟨rfl, h.unfinished hw (List.mem_of_getElem? hq), fun _ => .inl rfl⟩
  refine (Runs.run_invariant (P := fun w' => Consistent env w' ∧ KeyTaken env w'.store q ∧
    ∃ q', w'.requests[k]? = some q' ∧ Rejected q q') later ⟨hw, h, q, hq, hself⟩ ?_).2.2
  rintro w' e ⟨hw', htaken, q', hq', hrejected⟩
  obtain ⟨phase, hnext, hphase⟩ := request_step hq' e
  have hw'' := (step_move w' e).consistent hw'
  have htaken' := htaken.step hw' e
  have hsame := hrejected.same
  refine ⟨hw'', htaken', _, hnext, ⟨by rw [hsame], ?_, fun hstart => ?_⟩⟩
  · have hown : KeyTaken env (w'.step env e).store { q' with phase } := by
      rw [hsame]
      exact htaken'
    exact hown.unfinished hw'' (List.mem_of_getElem? hnext)
  · have hown : KeyTaken env w'.store q' := by
      rw [hsame]
      exact htaken
    rcases hphase with rfl | hmove | ⟨src, seed, hinserted⟩
    · exact hrejected.conflict hstart
    · rcases hrejected.conflict hstart with he | he | he
      · exact .inr (hown.refused hw' (he ▸ hstart) hmove)
      · cases (hmove.not_isOver.symm.trans (by rw [he]; rfl) : false = true)
      · cases (hmove.not_isOver.symm.trans (by rw [he]; rfl) : false = true)
    · rcases hrejected.conflict hstart with he | he | he
      · rcases hstart with hstart | hstart <;> cases hinserted.symm.trans (he.trans hstart)
      · cases hinserted.symm.trans he
      · cases hinserted.symm.trans he

end KeyTaken

/-- What a step does to the store: nothing, another transaction, or a whole new batch for a request
whose key was free. -/
theorem store_step {env : Runtime} {w : CreateWorld} (hw : Consistent env w)
    (e : CreateEvent env) :
    (w.step env e).store = w.store ∨
    (∃ a, e = .other a ∧ ¬Store.isCreation a ∧ (w.step env e).store = Store.step env w.store a) ∨
    ∃ k q job seed, e = .commit k ∧ w.requests[k]? = some q ∧ IsAnswer env q job ∧
      w.store.jobByKey q.ownerId q.payload.idempotencyKey = none ∧
      (w.step env e).requests[k]? = some { q with phase := .finished job.id true } ∧
      (w.step env e).store = { w.store with
        jobs := w.store.jobs ++ [job]
        items := w.store.items ++ Store.createdItems job seed q.payload.submissionIds } := by
  have hmove := step_move w e
  generalize w.step env e = w' at hmove ⊢
  cases hmove with
  | kept | requested | moved => exact .inl rfl
  | other a he ha hkeeps => exact .inr (.inl ⟨a, he, ha, rfl⟩)
  | created k q src seed store he hq hphase hitems =>
    have hfits := hw.fits q (List.mem_of_getElem? hq)
    rw [hphase] at hfits
    obtain ⟨hsources, -, hunique⟩ := hfits
    have hkey : w.store.jobByKey q.ownerId q.payload.idempotencyKey = none := jobByKey_none hunique
    obtain ⟨rfl, -, -⟩ := insertItems_eq_ok hw.wellFormed.sound.keys hitems
    exact .inr (.inr ⟨k, q, q.job env src seed, seed, he, hq, hsources.isAnswer seed, hkey,
      getElem?_setPhase hq, rfl⟩)

/-- **Creations.**  However the statements of creations and the other transactions interleave:
a key has one job; a request that succeeds returns the job of its key, which has its hash; every
job was returned by the request that created it, and its items stand in the order of the
submissions.  A request whose key has a job with another hash never succeeds, and is refused with
the conflict when it looks the key up, before its other statements or after the insert.  Only the
commit of a request whose key is free changes the store, by its whole batch. -/
theorem run_creations (env : Runtime) (events : List (CreateEvent env)) :
    let w := Runs.run (step env) start events
    (∀ job ∈ w.store.jobs, ∀ job' ∈ w.store.jobs, job.ownerId = job'.ownerId →
      job.idempotencyKey = job'.idempotencyKey → job = job') ∧
    (∀ q ∈ w.requests, ∀ jobId created, q.phase = .finished jobId created →
      ∃ job ∈ w.store.jobs, job.id = jobId ∧ IsAnswer env q job) ∧
    (∀ job ∈ w.store.jobs, ∃ q ∈ w.requests, q.phase = .finished job.id true ∧
      IsAnswer env q job ∧ positionsOf w.store job.id =
        q.payload.submissionIds.mapIdx fun n id => (id, n)) ∧
    (∀ (k : Nat) q, w.requests[k]? = some q → KeyTaken env w.store q →
      (q.phase = .started →
        w.step env (.lookup k) = w.setPhase k q (.failed idempotencyConflict)) ∧
      (q.phase = .lost →
        w.step env (.readConcurrent k) = w.setPhase k q (.failed idempotencyConflict)) ∧
      ∀ later, ∃ q', (Runs.run (step env) w later).requests[k]? = some q' ∧ Rejected q q') ∧
    ∀ e, (w.step env e).store = w.store ∨
      (∃ a, e = .other a ∧ ¬Store.isCreation a ∧ (w.step env e).store = Store.step env w.store a) ∨
      ∃ k q job seed, e = .commit k ∧ w.requests[k]? = some q ∧ IsAnswer env q job ∧
        w.store.jobByKey q.ownerId q.payload.idempotencyKey = none ∧
        (w.step env e).requests[k]? = some { q with phase := .finished job.id true } ∧
        (w.step env e).store = { w.store with
          jobs := w.store.jobs ++ [job]
          items := w.store.items ++ Store.createdItems job seed q.payload.submissionIds } := by
  intro w
  have hw : Consistent env w := run_consistent (start_consistent env) events
  refine ⟨fun job hjob job' hjob' => job_unique hw.wellFormed hjob hjob', ?_, ?_, ?_, store_step hw⟩
  · intro q hq jobId created hphase
    have hfits := hw.fits q hq
    rw [hphase] at hfits
    exact hfits.1
  · intro job hjob
    obtain ⟨q, hq, hphase⟩ := hw.born job hjob
    have hfits := hw.fits q hq
    rw [hphase] at hfits
    obtain ⟨⟨job', hjob', hid, hanswer⟩, hpositions⟩ := hfits
    obtain rfl := Table.eq_of_key_eq hw.wellFormed.sound.keys.jobs hjob' hjob hid
    exact ⟨q, hq, hphase, hanswer, hpositions rfl⟩
  · intro k q hq htaken
    exact ⟨htaken.lookup hw hq, htaken.readConcurrent hw hq, htaken.rejected hw hq⟩

/-! ## A creation that nothing disturbs -/

/-- The statements of a creation, in their order. -/
def statements (env : Runtime) (k : Nat) (seed : CreationSeed) : List (CreateEvent env) :=
  [.lookup k, .quota k true, .lockAssignment k, .lockRubric k, .readSubmissions k, .lockProvider k,
    .insertJob k seed, .commit k]

@[simp] theorem setPhase_store (w : CreateWorld) (k : Nat) (q : CreateRequest)
    (phase : CreatePhase) : (w.setPhase k q phase).store = w.store := rfl

theorem setPhase_setPhase (w : CreateWorld) (k : Nat) (q : CreateRequest)
    (phase phase' : CreatePhase) :
    (w.setPhase k q phase).setPhase k { q with phase } phase' = w.setPhase k q phase' := by
  simp only [setPhase, List.set_set]

/-- A request that holds no lock on its assignment holds none. -/
theorem locks_of_unlocked {env : Runtime} {q : CreateRequest}
    (h : q.phase.lockedAssignment = none) : q.phase.lockedRubric = none ∧
      q.phase.lockedProvider = none ∧ q.pending env = none := by
  unfold CreateRequest.pending
  cases hphase : q.phase <;> rw [hphase] at h <;> first | exact ⟨rfl, rfl, rfl⟩ | cases h

theorem taken_setPhase {w : CreateWorld} {k : Nat} {q : CreateRequest} {phase : CreatePhase}
    {locked : CreatePhase → Option Uuid} (h : ∀ p ∈ w.requests, locked p.phase = none)
    (hphase : locked phase = none) (id : Uuid) : (w.setPhase k q phase).taken locked id = false := by
  refine List.any_eq_false.2 fun p hp => ?_
  rcases List.mem_or_eq_of_mem_set hp with hold | rfl
  · simp [h p hold]
  · simp [hphase]

/-- The rows that a whole creation reads. -/
structure Readable (s : Store) (q : CreateRequest) (src : CreationSources) : Prop where
  assignment : s.assignments.find? (fun a => a.id == q.assignmentId && a.ownerId == q.ownerId &&
    a.status == .ready) = some src.assignment
  rubric : s.rubrics.find? (fun r => r.assignmentId == q.assignmentId && r.ownerId == q.ownerId &&
    r.status == .confirmed) = some src.rubric
  structured : src.rubric.structuredRubric = some src.structured
  providerId : src.rubric.providerConfigId = some src.provider.id
  model : src.rubric.model = some src.model
  submissions : submissionsReady s q = true
  provider : s.providers.find? (·.id == src.provider.id) = some src.provider
  usable : src.provider.status = .enabled ∧
    src.provider.testedConfigVersion = some src.provider.configVersion ∧
    src.provider.defaultModel = some src.model
  profile : ∃ name, src.provider.modelProfiles.find? (·.1 == src.model) = some (name, src.profile)

theorem readable_of_creationInputs {s : Store} {q : CreateRequest} {src : CreationSources}
    (h : s.creationInputs q.ownerId q.assignmentId q.payload = .ok (src.assignment, src.rubric,
      src.structured, src.provider, src.model, src.profile)) : Readable s q src := by
  obtain ⟨a, r, structured, provider, model, profile⟩ := src
  unfold Store.creationInputs at h
  split at h
  next ha hr =>
    split at h
    next _ providerId _ hstructured hprovider hmodel =>
      simp only [bind_eq_ok, require_eq_ok] at h
      obtain ⟨_, hready, h⟩ := h
      split at h
      · cases h
      next hfind =>
        simp only [bind_eq_ok, require_eq_ok, Bool.and_eq_true, beq_iff_eq] at h
        obtain ⟨_, ⟨⟨henabled, htested⟩, hdefault⟩, h⟩ := h
        split at h
        · cases h
        next hprofile =>
          cases h
          have hid : provider.id = providerId := by simpa using List.find?_some hfind
          exact ⟨ha, hr, hstructured, hid ▸ hprovider, hmodel, hready, hid ▸ hfind,
            ⟨henabled, htested, hdefault⟩, _, hprofile⟩
    · cases h
  · cases h

/-- What a whole creation goes through when it adds a batch. -/
theorem createOrGetJob_created {env : Runtime} {s s' : Store} {q : CreateRequest}
    {seed : CreationSeed} {jobId : Uuid} (h : s.createOrGetJob env q.ownerId q.assignmentId
      q.payload true seed = .ok ((jobId, true), s')) :
    s.jobByKey q.ownerId q.payload.idempotencyKey = none ∧
    ∃ src, Readable s q src ∧ src.structured.accepts env = true ∧ src.snapshot.accepts = true ∧
      s.jobInsertCheck (q.job env src seed) = .ok () ∧
      Store.jobsUnique (s.jobs ++ [q.job env src seed]) = true ∧ jobId = (q.job env src seed).id ∧
      insertItems s q (q.job env src seed) seed = .ok s' := by
  unfold Store.createOrGetJob at h
  split at h
  · simp only [bind_eq_ok] at h
    obtain ⟨_, -, h⟩ := h
    cases h
  next hkey =>
    simp only [bind_eq_ok, require_eq_ok, Store.insertJob_eq_ok] at h
    obtain ⟨_, -, ⟨a, r, structured, provider, model, profile⟩, hinputs, _, haccepts, _, hsnapshot,
      _, ⟨rfl, hcheck, hunique⟩, s₂, hitems, _, hcount, hret⟩ := h
    cases hret
    refine ⟨hkey, ⟨a, r, structured, provider, model, profile⟩, readable_of_creationInputs hinputs,
      haccepts, hsnapshot, hcheck, hunique, rfl, ?_⟩
    unfold insertItems
    simp only [bind_eq_ok, require_eq_ok]
    exact ⟨s', hitems, (), hcount, rfl⟩

/-- **Undisturbed, the statements are the whole transaction.** -/
theorem run_statements {env : Runtime} {w : CreateWorld} {k : Nat} {q : CreateRequest}
    (hq : w.requests[k]? = some q) (hphase : q.phase = .started)
    (hfree : ∀ p ∈ w.requests, p.phase.lockedAssignment = none) {seed : CreationSeed} {jobId : Uuid}
    {s' : Store} (h : w.store.createOrGetJob env q.ownerId q.assignmentId q.payload true seed =
      .ok ((jobId, true), s')) :
    Runs.run (step env) w (statements env k seed) =
      { w with store := s' }.setPhase k q (.finished jobId true) := by
  obtain ⟨hkey, src, hread, haccepts, hsnapshot, hcheck, hunique, rfl, hitems⟩ :=
    createOrGetJob_created h
  have next {phase : CreatePhase} {e : CreateEvent env} (he : e.requestOf = some k) :
      (w.setPhase k q phase).step env e = (w.setPhase k q phase).stepRequest k { q with phase } e := by
    rw [step_eq_stepRequest he, getElem?_setPhase hq]
  have hlocks : ∀ p ∈ w.requests, p.phase.lockedRubric = none ∧ p.phase.lockedProvider = none ∧
      p.pending env = none := fun p hp => locks_of_unlocked (hfree p hp)
  have hlookup : w.step env (.lookup k) = w.setPhase k q .missed := by
    rw [step_eq_stepRequest rfl, hq]
    simp only [stepRequest, hphase, lookup, hkey]
  have hquota : (w.setPhase k q .missed).step env (.quota k true) = w.setPhase k q .admitted := by
    rw [next rfl]
    simp only [stepRequest, if_true, setPhase_setPhase]
  have hassignment : (w.setPhase k q .admitted).step env (.lockAssignment k) =
      w.setPhase k q (.assignmentRead (some src.assignment)) := by
    have htaken : (w.setPhase k q .admitted).taken CreatePhase.lockedAssignment src.assignment.id =
        false := taken_setPhase hfree rfl _
    rw [next rfl]
    simp only [stepRequest, lockAssignment, setPhase_store, hread.assignment, htaken,
      setPhase_setPhase]
    rfl
  have hrubric : (w.setPhase k q (.assignmentRead (some src.assignment))).step env
      (.lockRubric k) = w.setPhase k q (.rubricRead src.assignment src.rubric src.structured
        src.provider.id src.model) := by
    have htaken : (w.setPhase k q (.assignmentRead (some src.assignment))).taken
        CreatePhase.lockedRubric src.rubric.id = false :=
      taken_setPhase (fun p hp => (hlocks p hp).1) rfl _
    rw [next rfl]
    simp only [stepRequest, lockRubric, setPhase_store, hread.rubric, htaken, hread.structured,
      hread.providerId, hread.model, setPhase_setPhase]
    rfl
  have hsubmissions : (w.setPhase k q (.rubricRead src.assignment src.rubric src.structured
      src.provider.id src.model)).step env (.readSubmissions k) =
      w.setPhase k q (.submissionsRead src.assignment src.rubric src.structured src.provider.id
        src.model) := by
    have hready := hread.submissions
    unfold submissionsReady at hready
    rw [next rfl]
    simp only [stepRequest, readSubmissions, submissionsReady, setPhase_store, hready, haccepts,
      if_true, setPhase_setPhase]
  have hprovider : (w.setPhase k q (.submissionsRead src.assignment src.rubric src.structured
      src.provider.id src.model)).step env (.lockProvider k) = w.setPhase k q (.providerRead src) := by
    have htaken : (w.setPhase k q (.submissionsRead src.assignment src.rubric src.structured
        src.provider.id src.model)).taken CreatePhase.lockedProvider src.provider.id = false :=
      taken_setPhase (fun p hp => (hlocks p hp).2.1) rfl _
    obtain ⟨name, hprofile⟩ := hread.profile
    rw [next rfl]
    simp only [stepRequest, lockProvider, setPhase_store, hread.provider, htaken, hread.usable,
      hprofile, setPhase_setPhase]
    exact if_pos hsnapshot
  have hinserted : (w.setPhase k q (.providerRead src)).step env (.insertJob k seed) =
      w.setPhase k q (.inserted src seed) := by
    have hpending : ((w.setPhase k q (.providerRead src)).requests.any fun p =>
        (p.pending env).any (Store.jobConflict (q.job env src seed) ·)) = false := by
      refine List.any_eq_false.2 fun p hp => ?_
      rcases List.mem_or_eq_of_mem_set hp with hold | rfl
      · simp [(hlocks p hold).2.2]
      · simp [CreateRequest.pending]
    have hjob : CreateRequest.job env { q with phase := .providerRead src } src seed =
        q.job env src seed := rfl
    rw [next rfl]
    simp only [stepRequest, insertJob, setPhase_store, hjob, hcheck, hkey, hpending, hunique,
      setPhase_setPhase]
    rfl
  have hcommit : (w.setPhase k q (.inserted src seed)).step env (.commit k) =
      { w with store := s' }.setPhase k q (.finished (q.job env src seed).id true) := by
    have hjob : CreateRequest.job env { q with phase := .inserted src seed } src seed =
        q.job env src seed := rfl
    have hflush : insertItems w.store { q with phase := .inserted src seed } (q.job env src seed)
        seed = .ok s' := hitems
    rw [next rfl]
    simp only [stepRequest, commit, setPhase_store, hjob, hflush]
    simp only [setPhase, List.set_set]
  simp only [statements, Runs.run_cons, Runs.run_nil, hlookup, hquota, hassignment, hrubric,
    hsubmissions, hprovider, hinserted, hcommit]

/-- Before any request the other transactions run as they do alone. -/
theorem run_others {env : Runtime} {w : CreateWorld} (hw : w.requests = []) (as : List (Action env))
    (has : ∀ a ∈ as, ¬Store.isCreation a) : Runs.run (step env) w (as.map .other) =
      { w with store := Runs.run (Store.step env) w.store as } := by
  induction as generalizing w with
  | nil => rfl
  | cons a as ih =>
    have hkeeps : w.keepsLocked (Store.step env w.store a) = true := by
      rw [keepsLocked, hw]
      rfl
    rw [List.map_cons, Runs.run_cons, step_other a (has a (List.mem_cons_self ..)), if_pos hkeeps]
    exact ih (w := { w with store := Store.step env w.store a }) hw
      fun b hb => has b (List.mem_cons_of_mem a hb)

/-! ## Two requests that race for a key -/

namespace Racing

open Sample

def first : CreateRequest := ⟨teacher, assignment, payload, .started⟩

/-- A request for a paper that does not exist. -/
def second : CreateRequest :=
  ⟨teacher, assignment, ⟨[9], "k", by decide, by decide, payload.keyOk⟩, .started⟩

/-- The second request looks the key up before the first commits. -/
def events : List (CreateEvent sampleRuntime) :=
  (setup.take 9).map .other ++ ([.request teacher assignment first.payload,
    .request teacher assignment second.payload, .lookup 1] ++
  (statements sampleRuntime 0 seed ++
    [.quota 1 true, .lockAssignment 1, .lockRubric 1, .readSubmissions 1]))

theorem run_events : Runs.run (step sampleRuntime) start events =
    ⟨ready, [{ first with phase := .finished job true },
      { second with phase := .failed submissionsInvalid }]⟩ := by
  have hsetup : Runs.run (step sampleRuntime) start ((setup.take 9).map .other) = ⟨parsed, []⟩ := by
    rw [run_others rfl _ (by simp [setup, Store.isCreation])]
    exact congrArg (CreateWorld.mk · []) after_parsed
  have hlookup : Runs.run (step sampleRuntime) ⟨parsed, []⟩ [.request teacher assignment
      first.payload, .request teacher assignment second.payload, .lookup 1] =
      ⟨parsed, [first, { second with phase := .missed }]⟩ := rfl
  have hfirst : Runs.run (step sampleRuntime) ⟨parsed, [first, { second with phase := .missed }]⟩
      (statements sampleRuntime 0 seed) = ⟨ready, [{ first with phase := .finished job true },
        { second with phase := .missed }]⟩ :=
    run_statements (q := first) rfl rfl (by simp [first, CreatePhase.lockedAssignment]) create_ready
  rw [events, Runs.run_append, hsetup, Runs.run_append, hlookup, Runs.run_append, hfirst]
  rfl

/-- The second request is told of its own papers, not of the conflict. -/
theorem second_submissionsInvalid :
    ∃ q, (Runs.run (step sampleRuntime) start events).requests[1]? = some q ∧
      KeyTaken sampleRuntime (Runs.run (step sampleRuntime) start events).store q ∧
      q.phase = .failed submissionsInvalid ∧ submissionsInvalid ≠ idempotencyConflict := by
  rw [run_events]
  refine ⟨_, rfl, ⟨jobRow, List.mem_singleton.2 rfl, rfl, rfl, ?_⟩, rfl,
    by simp [submissionsInvalid, idempotencyConflict]⟩
  decide +kernel

end Racing

end CreateWorld

end PaperGrading
