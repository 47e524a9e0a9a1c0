import PaperGrading.Domain.Texts
import PaperGrading.Export.Delivery
import PaperGrading.Export.Workbook

/-!
# How an export run ends

`ExportRunner.run` of `export/tasks.py` after its claim, call by call: the builder, the
temporary file, `put_file_once` under the quota gate, the completion, the failure and the
compensating deletion, each with every way it can end, and the `except` clauses they meet.
Before each of its transactions any others may be committed that do not hold its lease token.

    a lease that runs keeps its row, whatever the others do          (step_held)
    a run leaves the export ended, or has lost its lease, exactly when
      nothing but the three caught classes came out of the upload    (RunCalls.released_iff)
-/

namespace PaperGrading

/-! ## Exceptions -/

/-- What comes out of a call inside the `try` of `run`. -/
inductive RunError where
  /-- `WorkbookValidationError` -/
  | workbook (code : WorkbookCode)
  /-- `SupabaseStorageError` -/
  | storage
  /-- `OSError`, `UnicodeError` -/
  | os
  | quotaExceeded (code : String)
  | quotaUnavailable (code : String)
  | other
  deriving DecidableEq

/-- The `except` clauses of `run`: what the export is failed with. -/
def RunError.errorCode? : RunError → Option String
  | .workbook code => some code.text
  | .storage => some "export_storage_failed"
  | .os => some "export_workbook_failed"
  | .quotaExceeded _ | .quotaUnavailable _ | .other => none

/-! ## The upload -/

/-- The answer to the `POST` of the workbook. -/
inductive PostOutcome where
  | status (code : Nat)
  /-- `httpx.HTTPError`, `OSError` -/
  | httpError
  | raised
  deriving DecidableEq

/-- The answer to the `GET` of an object that is already there. -/
inductive GetOutcome where
  | content (content : Bytes)
  /-- `SupabaseStorageError` of `_require_success` -/
  | failed
  | raised
  deriving DecidableEq

/-- What comes of the calls of `put_file_once`. -/
structure PutCalls where
  /-- `path.stat` -/
  stat : Bool
  /-- `reserve_storage_growth`; no reservation where there is no quota gate or nothing grows -/
  reserve : Except RunError (Option Uuid)
  post : PostOutcome
  get : GetOutcome
  /-- `commit_storage_growth` -/
  commit : Except RunError Unit

namespace PutCalls

/-- The body of `put_file_once` under its reservation. -/
def request (env : Runtime) (content : Bytes) (c : PutCalls) : Except RunError Bool :=
  match c.post with
  | .httpError => .error .storage
  | .raised => .error .other
  | .status code =>
    if 200 ≤ code ∧ code ≤ 299 then .ok true
    else if code ≠ 400 ∧ code ≠ 409 then .error .storage
    else
      match c.get with
      | .failed => .error .storage
      | .raised => .error .other
      | .content existing =>
        if maxExportBytes < existing.length ∨ env.sha256 existing ≠ env.sha256 content then
          .error .storage
        else .ok false

/-- `put_file_once`.  After an error the reservation becomes uncertain; if that fails too, the
first error is still the one that is raised. -/
def putFileOnce (env : Runtime) (content : Bytes) (c : PutCalls) : Except RunError Bool := do
  if !c.stat || !lengthBetween 1 maxExportBytes content.length then throw .storage
  let reservation ← c.reserve
  let created ← c.request env content
  if reservation.isSome then c.commit
  return created

end PutCalls

/-! ## The run -/

/-- What others commit before a transaction of the run, and its time. -/
structure Turn (env : Runtime) where
  others : List (ExportAction env)
  now : Time

def Turn.before {env : Runtime} (t : Turn env) (s : ExportStore) : ExportStore :=
  Runs.run (ExportStore.step env) s t.others

/-- What comes of the calls of a run after its claim. -/
structure RunCalls (env : Runtime) where
  /-- `workbook_snapshot_from_frozen` and `build_export_workbook` -/
  build : Except RunError WorkbookArtifact
  /-- the temporary file -/
  file : Except RunError Unit
  put : PutCalls
  /-- `delete_if_sha256` -/
  cleanup : Except RunError Bool
  completion : Turn env
  /-- the failure after a refused completion, or in an `except` clause -/
  failure : Turn env
  /-- the failure in an `except` clause after `cleanup` -/
  lastFailure : Turn env
  exit : Turn env

/-- What `run` returns, or that it raises. -/
inductive RunEnd where
  | returned (result : String)
  | raised
  deriving DecidableEq

namespace RunCalls

variable {env : Runtime}

/-- The builder and the upload. -/
def upload (c : RunCalls env) : Except RunError (WorkbookArtifact × Bool) := do
  let artifact ← c.build
  c.file
  let created ← c.put.putFileOnce env artifact.content
  return (artifact, created)

/-- An `except` clause. -/
def handle (id token : Uuid) (turn : Turn env) (error : RunError) (s : ExportStore) :
    RunEnd × ExportStore :=
  match error.errorCode? with
  | none => (.raised, s)
  | some code =>
    match (turn.before s).failExport id token code turn.now with
    | .error _ => (.raised, turn.before s)
    | .ok (_, s') => (.returned code, s')

/-- `ExportRunner.run` with a granted claim. -/
def run (c : RunCalls env) (id token : Uuid) (s : ExportStore) : RunEnd × ExportStore :=
  match c.upload with
  | .error e => handle id token c.failure e s
  | .ok (artifact, created) =>
    match (c.completion.before s).completeExport id token (artifact.file env id) c.completion.now with
    | .error _ => (.raised, c.completion.before s)
    | .ok (some _, s₁) => (.returned "completed", s₁)
    | .ok (none, s₁) =>
      match (c.failure.before s₁).failExport id token "export_completion_failed" c.failure.now with
      | .error _ => (.raised, c.failure.before s₁)
      | .ok (none, s₂) => (.returned "lease_lost", s₂)
      | .ok (some _, s₂) =>
        if created then
          match c.cleanup with
          | .error .storage => (.raised, s₂)
          | .error e => handle id token c.lastFailure e s₂
          | .ok _ => (.returned "export_completion_failed", s₂)
        else (.returned "export_completion_failed", s₂)

/-- The store when `run` exits. -/
def after (c : RunCalls env) (id token : Uuid) (s : ExportStore) : ExportStore :=
  c.exit.before (c.run id token s).2

/-- Nothing but the three caught classes comes out of the upload. -/
def handled (c : RunCalls env) : Bool :=
  match c.upload with
  | .ok _ => true
  | .error e => e.errorCode?.isSome

end RunCalls

/-- The export is completed, or failed with a code, or its lease is no longer that of `token`. -/
def ExportStore.Settled (s : ExportStore) (id token : Uuid) (now : Time) : Prop :=
  ∃ e ∈ s.exports, e.id = id ∧ (e.status = .completed ∨
    (e.status = .failed ∧ ∃ code, e.errorCode = some code ∧ isExportErrorCode code = true) ∨
    (e.status = .running ∧ (e.claimToken ≠ some token ∨ e.leaseRuns now = false)))

/-- A transaction that does not hold the token, up to a time. -/
def ExportAction.Foreign {env : Runtime} (token : Uuid) (last : Time) : ExportAction env → Prop
  | .claimExport _ t _ now | .completeExport _ t _ now | .failExport _ t _ now =>
    t ≠ token ∧ now ≤ last
  | _ => True

/-! ## Rows pass their checks -/

open Table

namespace Export

theorem rowCheck_eq_ok {e : Export} : e.rowCheck = .ok () ↔
    ((!btrimEmpty e.idempotencyKey && !btrimEmpty e.workbookSchemaVersion) = true ∧
      e.resultCheck = true ∧ e.objectKey.all (· == exportObjectKey e.id) = true ∧
      e.safeFilename.all isSafeFilename = true) := by
  unfold rowCheck
  simp only [bind_eq_ok, require_eq_ok]
  constructor
  · rintro ⟨_, h₁, _, h₂, _, h₃, h₄⟩
    exact ⟨h₁, h₂, h₃, h₄⟩
  · rintro ⟨h₁, h₂, h₃, h₄⟩
    exact ⟨(), h₁, (), h₂, (), h₃, h₄⟩

end Export

namespace ExportStore

variable {env : Runtime} {s s' : ExportStore} {id token : Uuid}

/-- The constraints of the table `exports`. -/
structure Checked (s : ExportStore) : Prop where
  sound : s.Sound
  rows : ∀ e ∈ s.exports, e.rowCheck = .ok ()

theorem Wrote.checked (hs : s.Checked) {now : Time} {old new : Export} {action : ExportAuditAction}
    (h : Wrote s s' now old new action) : s'.Checked := by
  refine ⟨h.sound hs.sound, fun e he => ?_⟩
  rw [h.eq] at he
  rcases (mem_replaceRow h.old_mem).1 he with rfl | ⟨he, -⟩
  · exact (exportUpdateCheck_eq_ok.1 h.check).2.2
  · exact hs.rows e he

theorem step_checked (hs : s.Checked) (a : ExportAction env) : (step env s a).Checked := by
  refine ⟨(step_sound hs.sound a).1, ?_⟩
  refine step_induction (P := fun t => ∀ e ∈ t.exports, e.rowCheck = .ok ()) hs.rows fun t h => ?_
  cases a with
  | createExport q seed =>
    obtain ⟨x, h⟩ := map_snd_eq_ok.1 h
    obtain ⟨teacherId, -, -, hkey, ⟨-, -, rfl⟩ | ⟨job, rows, hc⟩⟩ := createExport_cases h
    · exact hs.rows
    · intro e he
      rw [hc.eq] at he
      rcases List.mem_append.1 he with he | he
      · exact hs.rows e he
      · obtain ⟨rubric, structured, -, rfl, -⟩ := hc.rubric_eq
        rw [List.mem_singleton.1 he]
        refine Export.rowCheck_eq_ok.2 ⟨?_, rfl, rfl, rfl⟩
        have : btrimEmpty q.idempotencyKey = false := by
          by_contra hne
          exact hkey (.inl (by simpa using hne))
        simp only [queuedExport, this, Bool.not_false, Bool.true_and]
        decide
  | grading b =>
    rcases exec_cases hs.sound.unique h with ⟨b, grading, -, -, rfl⟩ | ⟨-, hne⟩ |
      ⟨_, _, _, _, _, _, he, -⟩ | ⟨hne, -⟩
    · exact hs.rows
    · exact absurd rfl (hne b)
    · cases he
    · exact absurd rfl (hne b)
  | _ =>
    rcases exec_cases hs.sound.unique h with ⟨b, grading, he, -, -⟩ | ⟨rfl, -⟩ |
      ⟨_, _, _, _, _, _, he, -⟩ | ⟨-, now, old, new, action, hw⟩
    · cases he
    · exact hs.rows
    · cases he
    · exact (hw.checked hs).rows

theorem after_checked (as : List (ExportAction env)) : (after env as).Checked :=
  Runs.run_invariant as ⟨⟨rfl, by simp [empty]⟩, by simp [empty]⟩ fun _ a h => step_checked h a

/-! ## The row under a lease -/

/-- The row of an export, once it was claimed with `token` until `lease`. -/
structure Leased (id token : Uuid) (lease : Time) (e : Export) : Prop where
  id_eq : e.id = id
  claimed : e.status ≠ .queued
  failed : e.status = .failed → ∃ code, e.errorCode = some code ∧ isExportErrorCode code = true
  lease_eq : e.status = .running → e.claimToken = some token → e.leaseExpiresAt = some lease

/-- The lease of `token` is over at `now`, or the export has ended, or was claimed again. -/
def Released (token : Uuid) (lease now : Time) (e : Export) : Prop :=
  e.status = .running → e.claimToken = some token → lease ≤ now

variable {lease now last : Time} {e : Export}

theorem Leased.leaseRuns (h : Leased id token lease e) (hrun : e.status = .running)
    (htoken : e.claimToken = some token) (hlt : now < lease) : e.leaseRuns now = true := by
  simpa [Export.leaseRuns, h.lease_eq hrun htoken] using hlt

theorem Leased.failedExport (h : Leased id token lease e) {code : String}
    (hcode : isExportErrorCode code = true) : Leased id token lease (failedExport code now e) :=
  ⟨h.id_eq, by simp [ExportStore.failedExport], fun _ => ⟨code, rfl, hcode⟩,
    fun hrun => by cases hrun⟩

theorem Leased.completedExport (h : Leased id token lease e) (file : ExportFile) :
    Leased id token lease (completedExport file now e) :=
  ⟨h.id_eq, by simp [ExportStore.completedExport], fun hf => (by cases hf), fun hrun => by cases hrun⟩

theorem isExportErrorCode_of_check {old : Export} {code : String}
    (h : exportUpdateCheck now old (failedExport code now old) = .ok ()) :
    isExportErrorCode code = true := by
  have hresult := (Export.rowCheck_eq_ok.1 (exportUpdateCheck_eq_ok.1 h).2.2).2.1
  simp only [Export.resultCheck, failedExport, Bool.and_eq_true] at hresult
  exact hresult.1.2

/-- What the transactions of others do to the row of a lease. -/
structure Keeps (token : Uuid) (lease last : Time) (e e' : Export) : Prop where
  released : ∀ now, Released token lease now e → Released token lease now e'
  held : last < lease → e.status = .running → e.claimToken = some token → e' = e

theorem Keeps.refl : Keeps token lease last e e := ⟨fun _ h => h, fun _ _ _ => rfl⟩

theorem step_foreign (hs : s.Checked) {a : ExportAction env} (ha : a.Foreign token last)
    (he : s.exportRow id = some e) (hl : Leased id token lease e) :
    ∃ e', (step env s a).exportRow id = some e' ∧ Leased id token lease e' ∧
      Keeps token lease last e e' := by
  by_cases hspares : a.sparesExport id
  · exact ⟨e, ((step_spares hs.sound hspares).2.1 e he).1, hl, .refl⟩
  refine step_induction (P := fun t => ∃ e', t.exportRow id = some e' ∧ Leased id token lease e' ∧
    Keeps token lease last e e') ⟨e, he, hl, .refl⟩ fun t h => ?_
  have hrow {now : Time} {old new : Export} {action : ExportAuditAction}
      (hw : Wrote s t now old new action) (hid : old.id = id) : old = e ∧ t.exportRow id = some new := by
    obtain ⟨hold, hnew⟩ := hw.exportRow_self hs.sound hid
    rw [he] at hold
    cases hold
    exact ⟨rfl, hnew⟩
  cases a with
  | claimExport x token' leaseSeconds now =>
    obtain rfl : x = id := by simpa [ExportAction.sparesExport] using hspares
    obtain ⟨r, h⟩ := map_snd_eq_ok.1 h
    -- a claim finds the lease over
    have hover (hrun : e.status = .running) (ho : e.leaseOver now = true)
        (htoken : e.claimToken = some token) : lease ≤ now := by
      simpa [Export.leaseOver, hl.lease_eq hrun htoken] using ho
    rcases claimExport_cases hs.sound.unique h with ⟨-, rfl⟩ |
      ⟨old, hid, ⟨-, hrun, ho, -, hw⟩ | ⟨-, hopen, hw⟩⟩
    · exact ⟨e, he, hl, .refl⟩
    · obtain ⟨rfl, hnew⟩ := hrow hw hid
      refine ⟨_, hnew, hl.failedExport (isExportErrorCode_of_check hw.check),
        ⟨fun _ _ hr => (by cases hr), fun hlast _ htoken => ?_⟩⟩
      exact absurd (hlast.trans_le (hover hrun ho htoken)) (not_lt.2 ha.2)
    · obtain ⟨rfl, hnew⟩ := hrow hw hid
      refine ⟨_, hnew, ⟨hl.id_eq, by simp [claimedExport], fun hf => (by cases hf), fun _ ht => ?_⟩,
        ⟨fun _ _ _ ht => ?_, fun hlast _ htoken => ?_⟩⟩
      · exact absurd (Option.some.inj ht) ha.1
      · exact absurd (Option.some.inj ht) ha.1
      · obtain ⟨hrun, ho, -⟩ := hopen.resolve_left hl.claimed
        exact absurd (hlast.trans_le (hover hrun ho htoken)) (not_lt.2 ha.2)
  | completeExport x token' file now =>
    obtain rfl : x = id := by simpa [ExportAction.sparesExport] using hspares
    obtain ⟨r, h⟩ := map_snd_eq_ok.1 h
    rcases completeExport_cases hs.sound.unique h with ⟨-, rfl⟩ | ⟨old, -, hh, -, hw⟩
    · exact ⟨e, he, hl, .refl⟩
    · obtain ⟨rfl, hnew⟩ := hrow hw hh.id_eq
      refine ⟨_, hnew, hl.completedExport file,
        ⟨fun _ _ hr => (by cases hr), fun _ _ htoken => ?_⟩⟩
      rw [hh.token_eq] at htoken
      exact absurd (Option.some.inj htoken) ha.1
  | failExport x token' errorCode now =>
    obtain rfl : x = id := by simpa [ExportAction.sparesExport] using hspares
    obtain ⟨r, h⟩ := map_snd_eq_ok.1 h
    rcases failExport_cases hs.sound.unique h with ⟨-, rfl⟩ | ⟨old, -, hh, hw⟩
    · exact ⟨e, he, hl, .refl⟩
    · obtain ⟨rfl, hnew⟩ := hrow hw hh.id_eq
      refine ⟨_, hnew, hl.failedExport (isExportErrorCode_of_check hw.check),
        ⟨fun _ _ hr => (by cases hr), fun _ _ htoken => ?_⟩⟩
      rw [hh.token_eq] at htoken
      exact absurd (Option.some.inj htoken) ha.1
  | _ => exact absurd trivial hspares

theorem Keeps.trans {e' e'' : Export} (h : Keeps token lease last e e')
    (h' : Keeps token lease last e' e'') : Keeps token lease last e e'' := by
  refine ⟨fun now hr => h'.released now (h.released now hr), fun hlast hrun htoken => ?_⟩
  obtain rfl := h.held hlast hrun htoken
  exact h'.held hlast hrun htoken

/-- **A lease that runs keeps its row**, whatever the others do, and one that is over is never
given back to its token. -/
theorem run_foreign (hs : s.Checked) {as : List (ExportAction env)}
    (has : ∀ a ∈ as, a.Foreign token last) (he : s.exportRow id = some e)
    (hl : Leased id token lease e) :
    (Runs.run (step env) s as).Checked ∧ ∃ e', (Runs.run (step env) s as).exportRow id = some e' ∧
      Leased id token lease e' ∧ Keeps token lease last e e' := by
  induction as generalizing s e with
  | nil => exact ⟨hs, e, he, hl, .refl⟩
  | cons a as ih =>
    obtain ⟨e', he', hl', hk⟩ := step_foreign hs (has a List.mem_cons_self) he hl
    obtain ⟨hs', e'', he'', hl'', hk'⟩ :=
      ih (step_checked hs a) (fun b hb => has b (List.mem_cons_of_mem _ hb)) he' hl'
    exact ⟨hs', e'', he'', hl'', hk.trans hk'⟩

/-! ## The run's own transactions -/

theorem exportObjectKey_inj {a b : Uuid} (h : exportObjectKey a = exportObjectKey b) : a = b := by
  obtain ⟨h, -⟩ := append_inj_of_toList h rfl
  obtain ⟨-, h⟩ := append_inj_of_toList h (by rw [length_uuidText, length_uuidText])
  exact uuidText_inj h

theorem exportConflict_comm (x y : Export) : exportConflict x y = exportConflict y x := by
  unfold exportConflict
  rw [Bool.eq_iff_iff]
  simp only [Bool.or_eq_true, Bool.and_eq_true, beq_iff_eq, Option.isSome_iff_exists]
  grind

/-- A row of the same identity meets no other one: an object key names its export. -/
theorem exportConflict_of_identity (hs : s.Checked) {new z : Export} (he : e ∈ s.exports)
    (hz : z ∈ s.exports) (hne : z ≠ e) (hident : new.toExportIdentity = e.toExportIdentity)
    (hrow : new.rowCheck = .ok ()) : exportConflict new z = false := by
  have : Std.Symm fun x y => exportConflict x y = false :=
    ⟨fun x y h => by rwa [exportConflict_comm]⟩
  have hold : exportConflict e z = false :=
    (of_decide_eq_true hs.sound.unique).forall he hz hne.symm
  have hid : new.id = e.id := congrArg ExportIdentity.id hident
  have howner : new.ownerId = e.ownerId := congrArg ExportIdentity.ownerId hident
  have hkey : new.idempotencyKey = e.idempotencyKey := congrArg ExportIdentity.idempotencyKey hident
  unfold exportConflict at hold ⊢
  rw [hid, howner, hkey]
  simp only [Bool.or_eq_false_iff] at hold ⊢
  refine ⟨hold.1, ?_⟩
  have hz' := (Export.rowCheck_eq_ok.1 (hs.rows z hz)).2.2.1
  have hnew := (Export.rowCheck_eq_ok.1 hrow).2.2.1
  cases hk : new.objectKey with
  | none => rfl
  | some key =>
    cases hk' : z.objectKey with
    | none => rfl
    | some key' =>
      rw [hk, Option.all_some, beq_iff_eq] at hnew
      rw [hk', Option.all_some, beq_iff_eq] at hz'
      subst hnew hz'
      simp only [Option.isSome_some, Bool.true_and, beq_eq_false_iff_ne]
      intro hsame
      have hids := exportObjectKey_inj (Option.some.inj hsame)
      rw [hid] at hids
      simp [hids] at hold

/-- An update of one export that its checks accept is made. -/
theorem updateExports_ok (hs : s.Checked) (he : s.exportRow id = some e) {set : Export → Export}
    (hcheck : exportUpdateCheck now e (set e) = .ok ()) :
    ∃ s', s.updateExports now (·.id == id) set = .ok s' := by
  obtain ⟨hmem, rfl⟩ := (exportRow_eq_some hs.sound).1 he
  have hn := exportIds_nodup hs.sound.unique
  obtain ⟨hident, -, hrow⟩ := exportUpdateCheck_eq_ok.1 hcheck
  have hset : setWhere (·.id == e.id) set s.exports = replaceRow (·.id) e (set e) s.exports :=
    setWhere_eq_replaceRow hn hmem (by simp) (fun x _ hx => by simpa using hx) set
  have hupdate : updateWhere (·.id == e.id) set (exportUpdateCheck now) s.exports =
      .ok (replaceRow (·.id) e (set e) s.exports) := by
    refine (updateWhere_eq_ok _ _ _ _ _).2 ⟨hset.symm, fun x hx hid => ?_⟩
    obtain rfl := eq_of_key_eq hn hx hmem (by simpa using hid)
    exact hcheck
  have hunique : exportsUnique (replaceRow (·.id) e (set e) s.exports) = true := by
    refine decide_eq_true (pairwise_replaceRow hn hmem (of_decide_eq_true hs.sound.unique)
      (by simp [exportConflict]) fun z hz hne => ?_)
    have hc := exportConflict_of_identity hs hmem hz hne hident hrow
    exact ⟨hc, by rwa [exportConflict_comm]⟩
  exact ⟨_, bind_eq_ok.2 ⟨_, hupdate, bind_eq_ok.2 ⟨(), require_eq_ok.2 hunique, rfl⟩⟩⟩

theorem heldExport_eq_some (hs : s.Checked) (he : s.exportRow id = some e)
    (hh : Holds e id token now) : s.heldExport id token now = some e := by
  obtain ⟨hmem, -⟩ := (exportRow_eq_some hs.sound).1 he
  refine find?_eq_some_of_key (exportIds_nodup hs.sound.unique) hmem _ ?_ fun x hx => ?_
  · simp [hh.id_eq, hh.running, hh.token_eq, hh.lease]
  · simp only [Bool.and_eq_true, beq_iff_eq] at hx
    exact hx.1.1.1.trans hh.id_eq.symm

theorem heldExport_eq_none (hs : s.Checked) (he : s.exportRow id = some e)
    (hh : ¬Holds e id token now) : s.heldExport id token now = none := by
  cases h : s.heldExport id token now with
  | none => rfl
  | some x =>
    obtain ⟨hx, hholds⟩ := heldExport_some h
    rw [(exportRow_eq_some hs.sound).2 ⟨hx, hholds.id_eq⟩] at he
    cases he
    exact absurd hholds hh

theorem released_of_not_holds (hl : Leased id token lease e) (h : ¬Holds e id token now) :
    Released token lease now e := by
  intro hrun htoken
  by_contra hlt
  refine h ⟨hl.id_eq, hrun, htoken, ?_⟩
  simpa [Export.leaseRuns, hl.lease_eq hrun htoken] using hlt

/-- What a transaction of the run leaves behind. -/
structure Ended (id token : Uuid) (lease now : Time) (s : ExportStore) : Prop where
  checked : s.Checked
  row : ∃ e, s.exportRow id = some e ∧ Leased id token lease e ∧ Released token lease now e

theorem holds_check (hs : s.Checked) (he : s.exportRow id = some e) (hh : Holds e id token now) :
    (!btrimEmpty e.idempotencyKey && !btrimEmpty e.workbookSchemaVersion) = true ∧
      e.startedAt.isSome = true ∧ e.objectKey = none ∧ e.safeFilename = none ∧
      e.fileSizeBytes = none ∧ e.fileSha256 = none ∧ e.errorCode = none := by
  obtain ⟨htexts, hresult, -, -⟩ := Export.rowCheck_eq_ok.1 (hs.rows e
    ((exportRow_eq_some hs.sound).1 he).1)
  unfold Export.resultCheck at hresult
  rw [hh.running] at hresult
  simp only [Bool.and_eq_true, Option.isNone_iff_eq_none] at hresult
  obtain ⟨⟨⟨⟨⟨⟨⟨⟨hstarted, -⟩, -⟩, hkey⟩, hname⟩, hsize⟩, hsha⟩, hcode⟩, -⟩ := hresult
  exact ⟨htexts, hstarted, hkey, hname, hsize, hsha, hcode⟩

/-- `fail_export` with a stable code ends the lease, or finds it over. -/
theorem failExport_ended (now : Time) (hs : s.Checked) (he : s.exportRow id = some e)
    (hl : Leased id token lease e) {code : String} (hcode : isExportErrorCode code = true) :
    ∃ r s', s.failExport id token code now = .ok (r, s') ∧ Ended id token lease now s' := by
  unfold failExport
  rw [if_pos hcode]
  by_cases hh : Holds e id token now
  · obtain ⟨htexts, hstarted, hkey, hname, hsize, hsha, -⟩ := holds_check hs he hh
    have hcheck : exportUpdateCheck now e (failedExport code now e) = .ok () := by
      refine exportUpdateCheck_eq_ok.2 ⟨rfl, ?_, Export.rowCheck_eq_ok.2 ⟨htexts, ?_, ?_, ?_⟩⟩
      · simp [Export.allowedMove, hh.running, failedExport]
      · simp [Export.resultCheck, failedExport, hstarted, hkey, hname, hsize, hsha, hcode]
      · simp [failedExport, hkey]
      · simp [failedExport, hname]
    obtain ⟨s', hs'⟩ := updateExports_ok hs he hcheck
    have hw := updateExports_wrote hs.sound.unique ((exportRow_eq_some hs.sound).1 he).1 hh.id_eq hs'
      .failed
    refine ⟨_, _, by rw [heldExport_eq_some hs he hh]; exact bind_eq_ok.2 ⟨s', hs', rfl⟩,
      hw.checked hs, _, (hw.exportRow_self hs.sound hh.id_eq).2, hl.failedExport hcode, ?_⟩
    intro hrun
    cases hrun
  · rw [heldExport_eq_none hs he hh]
    exact ⟨_, _, rfl, hs, e, he, hl, released_of_not_holds hl hh⟩

/-- `complete_export` completes the export, or leaves it alone. -/
theorem completeExport_ended (now : Time) (hs : s.Checked) (he : s.exportRow id = some e)
    (hl : Leased id token lease e) (file : ExportFile) :
    (∃ e' s', s.completeExport id token file now = .ok (some e', s') ∧
      Ended id token lease now s') ∨ s.completeExport id token file now = .ok (none, s) := by
  unfold completeExport
  split
  next hfile =>
    by_cases hh : Holds e id token now
    · obtain ⟨htexts, hstarted, -, -, -, -, hcode⟩ := holds_check hs he hh
      have hcheck : exportUpdateCheck now e (completedExport file now e) = .ok () := by
        refine exportUpdateCheck_eq_ok.2 ⟨rfl, ?_, Export.rowCheck_eq_ok.2 ⟨htexts, ?_, ?_, ?_⟩⟩
        · simp [Export.allowedMove, hh.running, completedExport]
        · simp [Export.resultCheck, completedExport, hstarted, hcode, hfile.2.2]
        · simp [completedExport, hfile.1, hh.id_eq]
        · simp [completedExport, hfile.2.1]
      obtain ⟨s', hs'⟩ := updateExports_ok hs he hcheck
      have hw := updateExports_wrote hs.sound.unique ((exportRow_eq_some hs.sound).1 he).1 hh.id_eq
        hs' .completed
      refine .inl ⟨_, _, by rw [heldExport_eq_some hs he hh]; exact bind_eq_ok.2 ⟨s', hs', rfl⟩,
        hw.checked hs, _, (hw.exportRow_self hs.sound hh.id_eq).2, hl.completedExport file, ?_⟩
      intro hrun
      cases hrun
    · rw [heldExport_eq_none hs he hh]
      exact .inr rfl
  · exact .inr rfl

theorem Ended.mono (h : Ended id token lease now s) (hle : now ≤ last) :
    Ended id token lease last s := by
  obtain ⟨hs, e, he, hl, hr⟩ := h
  exact ⟨hs, e, he, hl, fun hrun htoken => (hr hrun htoken).trans hle⟩

end ExportStore

/-! ## Whole runs -/

open ExportStore

variable {env : Runtime}

/-- The others do not hold the token, and the transaction of the turn is not after `last`. -/
structure Turn.Foreign (token : Uuid) (last : Time) (t : Turn env) : Prop where
  others : ∀ a ∈ t.others, a.Foreign token last
  now_le : t.now ≤ last

section Turn

variable {t : Turn env} {id token : Uuid} {lease last : Time} {s : ExportStore} {e : Export}

theorem Turn.Foreign.before (h : t.Foreign token last) (hs : s.Checked)
    (he : s.exportRow id = some e) (hl : Leased id token lease e) :
    (t.before s).Checked ∧ ∃ e', (t.before s).exportRow id = some e' ∧ Leased id token lease e' ∧
      Keeps token lease last e e' :=
  run_foreign hs h.others he hl

theorem Turn.Foreign.ended (h : t.Foreign token last) (hs : Ended id token lease last s) :
    Ended id token lease last (t.before s) := by
  obtain ⟨hs, e, he, hl, hr⟩ := hs
  obtain ⟨hs', e', he', hl', hk⟩ := h.before hs he hl
  exact ⟨hs', e', he', hl', hk.released _ hr⟩

end Turn

theorem RunError.errorCode?_stable {error : RunError} {code : String}
    (h : error.errorCode? = some code) : isExportErrorCode code = true := by
  cases error with
  | workbook c => cases c <;> cases h <;> decide
  | storage | os =>
    cases h
    decide
  | quotaExceeded c | quotaUnavailable c | other => cases h

namespace RunCalls

variable {id token : Uuid} {lease : Time} {s : ExportStore} {e : Export}

/-- Nobody else holds the lease token, and the run ends with its exit. -/
structure Alone (token : Uuid) (c : RunCalls env) : Prop where
  completion : c.completion.Foreign token c.exit.now
  failure : c.failure.Foreign token c.exit.now
  lastFailure : c.lastFailure.Foreign token c.exit.now
  exit : c.exit.Foreign token c.exit.now

theorem handle_ended {turn : Turn env} {last : Time} (hturn : turn.Foreign token last)
    (hs : s.Checked) (he : s.exportRow id = some e) (hl : Leased id token lease e)
    {error : RunError} (herror : error.errorCode?.isSome = true) :
    Ended id token lease last (handle id token turn error s).2 := by
  obtain ⟨code, hcode⟩ := Option.isSome_iff_exists.1 herror
  obtain ⟨hs', e', he', hl', -⟩ := hturn.before hs he hl
  obtain ⟨r, s', hfail, hended⟩ := failExport_ended turn.now hs' he' hl'
    (RunError.errorCode?_stable hcode)
  unfold handle
  rw [hcode]
  simp only [hfail]
  exact hended.mono hturn.now_le

/-- After the export has ended an `except` clause changes nothing of that. -/
theorem handle_of_ended {turn : Turn env} {last : Time} (hturn : turn.Foreign token last)
    (hs : Ended id token lease last s) (error : RunError) :
    Ended id token lease last (handle id token turn error s).2 := by
  cases herror : error.errorCode? with
  | none =>
    unfold handle
    rw [herror]
    exact hs
  | some code =>
    obtain ⟨hchecked, e, he, hl, -⟩ := hs
    exact handle_ended hturn hchecked he hl (by rw [herror]; rfl)

/-- With a handled upload the run ends the export, or finds its lease over. -/
theorem run_ended {c : RunCalls env} (ha : c.Alone token) (hs : s.Checked)
    (he : s.exportRow id = some e) (hl : Leased id token lease e) (h : c.handled = true) :
    Ended id token lease c.exit.now (c.run id token s).2 := by
  unfold handled at h
  unfold run
  cases hupload : c.upload with
  | error error =>
    rw [hupload] at h
    exact handle_ended ha.failure hs he hl h
  | ok p =>
    obtain ⟨artifact, created⟩ := p
    obtain ⟨hs₁, e₁, he₁, hl₁, -⟩ := ha.completion.before hs he hl
    dsimp only
    rcases completeExport_ended c.completion.now hs₁ he₁ hl₁ (artifact.file env id) with
      ⟨e', s', hcomplete, hended⟩ | hcomplete
    · rw [hcomplete]
      exact hended.mono ha.completion.now_le
    · rw [hcomplete]
      obtain ⟨hs₂, e₂, he₂, hl₂, -⟩ := ha.failure.before hs₁ he₁ hl₁
      obtain ⟨r, s', hfail, hended⟩ := failExport_ended c.failure.now hs₂ he₂ hl₂
        (show isExportErrorCode "export_completion_failed" = true by decide)
      have hended := hended.mono ha.failure.now_le
      dsimp only
      rw [hfail]
      cases r with
      | none => exact hended
      | some e' =>
        dsimp only
        split
        · split
          · exact hended
          · exact handle_of_ended ha.lastFailure hended _
          · exact hended
        · exact hended

/-- Any other exception leaves the store as it is. -/
theorem run_of_not_handled {c : RunCalls env} (h : c.handled = false) :
    c.run id token s = (.raised, s) := by
  unfold handled at h
  unfold run
  cases hupload : c.upload with
  | ok p =>
    rw [hupload] at h
    cases h
  | error error =>
    rw [hupload] at h
    unfold handle
    rw [Option.isSome_eq_false_iff, Option.isNone_iff_eq_none] at h
    simp only [h]

theorem settled_of_ended {now : Time} (h : Ended id token lease now s) : s.Settled id token now := by
  obtain ⟨hs, e, he, hl, hr⟩ := h
  obtain ⟨hmem, hid⟩ := (exportRow_eq_some hs.sound).1 he
  refine ⟨e, hmem, hid, ?_⟩
  cases hst : e.status with
  | queued => exact absurd hst hl.claimed
  | completed => exact .inl rfl
  | failed => exact .inr (.inl ⟨rfl, hl.failed hst⟩)
  | running =>
    refine .inr (.inr ⟨rfl, ?_⟩)
    by_cases htoken : e.claimToken = some token
    · have := hr hst htoken
      exact .inr (by simpa [Export.leaseRuns, hl.lease_eq hst htoken] using this)
    · exact .inl htoken

/-- Under a lease that runs nothing has ended. -/
theorem not_settled_of_held {now : Time} (hs : s.Checked) (he : s.exportRow id = some e)
    (hh : Holds e id token now) : ¬s.Settled id token now := by
  rintro ⟨x, hx, hid, hsettled⟩
  rw [(exportRow_eq_some hs.sound).2 ⟨hx, hid⟩] at he
  cases he
  rcases hsettled with hst | ⟨hst, -⟩ | ⟨-, hother | hover⟩
  · rw [hh.running] at hst
    cases hst
  · rw [hh.running] at hst
    cases hst
  · exact hother hh.token_eq
  · rw [hh.lease] at hover
    cases hover

/-- The row of a granted claim. -/
theorem claimed_leased (hs : s.Checked) {s' : ExportStore} {claimedAt : Time}
    (hclaim : s.claimExport id token exportLeaseSeconds claimedAt = .ok (some e, s')) :
    s'.Checked ∧ s'.exportRow id = some e ∧ e.status = .running ∧ e.claimToken = some token ∧
      Leased id token (claimedAt + exportLeaseSeconds * 1000000) e := by
  rcases claimExport_cases hs.sound.unique hclaim with ⟨hne, -⟩ |
    ⟨old, hid, ⟨hne, -⟩ | ⟨he, -, hw⟩⟩
  · cases hne
  · cases hne
  · cases he
    refine ⟨hw.checked hs, (hw.exportRow_self hs.sound hid).2, rfl, rfl, hid, ?_, ?_, fun _ _ => rfl⟩
    · simp [claimedExport]
    · intro hf
      cases hf

/-- **When a run leaves its export completed, failed with a code, or has lost its lease**: exactly if
nothing but the three caught classes comes out of the builder and the upload, or the lease has
run out. -/
theorem released_iff {as : List (ExportAction env)} {claimedAt : Time}
    (hclaim : (ExportStore.after env as).claimExport id token exportLeaseSeconds claimedAt =
      .ok (some e, s)) {c : RunCalls env} (ha : c.Alone token) :
    (c.after id token s).Settled id token c.exit.now ↔
      c.handled = true ∨ claimedAt + exportLeaseSeconds * 1000000 ≤ c.exit.now := by
  obtain ⟨hs, he, hrun, htoken, hl⟩ := claimed_leased (after_checked as) hclaim
  generalize claimedAt + exportLeaseSeconds * 1000000 = lease at hl ⊢
  cases hh : c.handled with
  | true =>
    exact iff_of_true (settled_of_ended (ha.exit.ended (run_ended ha hs he hl hh))) (.inl rfl)
  | false =>
    unfold RunCalls.after
    rw [run_of_not_handled hh]
    constructor
    · refine fun hsettled => .inr (not_lt.1 fun hlt => ?_)
      -- the lease still runs, and the row is as the claim left it
      obtain ⟨hs', e', he', -, hk⟩ := ha.exit.before hs he hl
      obtain rfl := hk.held hlt hrun htoken
      exact not_settled_of_held hs' he' ⟨hl.id_eq, hrun, htoken, hl.leaseRuns hrun htoken hlt⟩
        hsettled
    · rintro (hne | hover)
      · cases hne
      · exact settled_of_ended (ha.exit.ended ⟨hs, e, he, hl, fun _ _ => hover⟩)

end RunCalls

/-! ## A storage error, and a quota refusal -/

namespace Sample

open RunCalls

/-- The sample export, claimed. -/
def leased : Export := claimedRow 31 5 draftExport

def leasedStore : ExportStore :=
  ⟨reviewable, [leased], [frozenPaper], [⟨teacher, .claimed, 16⟩]⟩

theorem claim_queued : (ExportStore.after sampleRuntime queueExport).claimExport 16 31
    exportLeaseSeconds 5 = .ok (some leased, leasedStore) := by
  rw [after_queueExport]
  exact @claimExport_claimedWorld draftExport 0 (fun _ => .waiting) 31 5 ⟨rfl, rfl⟩ (.inl rfl)
    (by decide) rfl (by decide +kernel)

/-- The workbook is built, stored and reported. -/
def reported : RunCalls sampleRuntime where
  build := .ok ⟨[80, 75], "a.xlsx"⟩
  file := .ok ()
  put := ⟨true, .ok none, .status 200, .failed, .ok ()⟩
  cleanup := .ok true
  completion := ⟨[], 6⟩
  failure := ⟨[], 7⟩
  lastFailure := ⟨[], 8⟩
  exit := ⟨[], 9⟩

theorem alone_nil {now : Time} (h : now ≤ 9) :
    (Turn.mk [] now : Turn sampleRuntime).Foreign 31 9 :=
  ⟨fun _ ha => absurd ha List.not_mem_nil, h⟩

/-- The storage does not answer. -/
def storageDown : RunCalls sampleRuntime :=
  { reported with put := { reported.put with post := .httpError } }

theorem storageDown_settled : (storageDown.after 16 31 leasedStore).Settled 16 31 9 ↔
    storageDown.handled = true ∨ 5 + exportLeaseSeconds * 1000000 ≤ 9 :=
  released_iff claim_queued (c := storageDown)
    ⟨alone_nil (by decide), alone_nil (by decide), alone_nil (by decide), alone_nil (by decide)⟩

/-- The quota gate refuses the workbook. -/
def quotaRefused : RunCalls sampleRuntime :=
  { reported with put := { reported.put with
      reserve := .error (.quotaExceeded "storage_quota_exceeded") } }

/-- The exception comes out of `run`, and the export stays `running` under its lease. -/
theorem quotaRefused_strands : quotaRefused.run 16 31 leasedStore = (.raised, leasedStore) ∧
    ¬(quotaRefused.after 16 31 leasedStore).Settled 16 31 9 := by
  have hraised : quotaRefused.run 16 31 leasedStore = (.raised, leasedStore) :=
    run_of_not_handled (by decide)
  refine ⟨hraised, ?_⟩
  obtain ⟨hs, he, hrun, htoken, -⟩ := claimed_leased (after_checked queueExport) claim_queued
  unfold RunCalls.after
  rw [hraised]
  exact not_settled_of_held hs he ⟨rfl, hrun, htoken, by decide⟩

end Sample

end PaperGrading
