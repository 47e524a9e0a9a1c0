import PaperGrading.Export.Snapshots
import PaperGrading.Export.Runner

/-!
# Deliveries of one export

All deliveries of an export upload to one key and may delete there.  `Delivers` is what their
interleavings keep: an object is the workbook of the frozen rows, a delivery that deletes does
so after the export has failed, and a completed export has its object.

    every event keeps the invariant, and what it can do to the row      (Delivers.step, step_rowStep)
    a completed or failed row stays, and the object of a completed one  (run_kept, object_stays)
    at most three claims, and who may end an export                     (after_deliveries)
-/

namespace PaperGrading

open Table

namespace ExportStore

variable {env : Runtime} {s s' : ExportStore} {id : Uuid}

/-! ## One row -/

/-- The row of an export. -/
def exportRow (s : ExportStore) (id : Uuid) : Option Export := s.exports.find? (·.id == id)

theorem exportRow_eq_some (hs : s.Sound) {e : Export} :
    s.exportRow id = some e ↔ e ∈ s.exports ∧ e.id = id := by
  constructor
  · intro h
    exact ⟨List.mem_of_find?_eq_some h, by simpa using List.find?_some h⟩
  · rintro ⟨he, rfl⟩
    exact find?_eq_some_of_key (exportIds_nodup hs.unique) he _ (by simp) fun x hx => by simpa using hx

/-- What no transaction takes back: a final row, and what the builder reads. -/
def RowKept (id : Uuid) (s s' : ExportStore) : Prop :=
  ∀ e, s.exportRow id = some e → ∃ e', s'.exportRow id = some e' ∧
    (e.status = .completed ∨ e.status = .failed → e' = e) ∧
    ∀ frozen, RunnerWorld.frozenExport s e = some frozen →
      RunnerWorld.frozenExport s' e' = some frozen

theorem RowKept.refl (s : ExportStore) : RowKept id s s := fun e he => ⟨e, he, fun _ => rfl, fun _ h => h⟩

theorem RowKept.trans {t : ExportStore} (h : RowKept id s s') (h' : RowKept id s' t) :
    RowKept id s t := by
  intro e he
  obtain ⟨e', he', hfinal, hfrozen⟩ := h e he
  obtain ⟨e'', he'', hfinal', hfrozen'⟩ := h' e' he'
  refine ⟨e'', he'', fun hst => ?_, fun frozen hf => hfrozen' frozen (hfrozen frozen hf)⟩
  obtain rfl := hfinal hst
  exact hfinal' hst

theorem Wrote.sound (hs : s.Sound) {now : Time} {old new : Export} {action : ExportAuditAction}
    (h : Wrote s s' now old new action) : s'.Sound := by
  refine ⟨h.unique, fun i hi => ?_⟩
  obtain ⟨x, hx, hid⟩ := hs.owned i (by rw [h.eq] at hi; exact hi)
  obtain ⟨x', hx', hident⟩ := h.grows.exports x hx
  exact ⟨x', hx', (congrArg ExportIdentity.id hident).trans hid⟩

theorem Wrote.exportRow_self (hs : s.Sound) {now : Time} {old new : Export}
    {action : ExportAuditAction} (h : Wrote s s' now old new action) (hid : old.id = id) :
    s.exportRow id = some old ∧ s'.exportRow id = some new := by
  refine ⟨(exportRow_eq_some hs).2 ⟨h.old_mem, hid⟩, (exportRow_eq_some (h.sound hs)).2 ⟨?_, ?_⟩⟩
  · rw [h.eq]
    exact (mem_replaceRow h.old_mem).2 (.inl rfl)
  · exact (congrArg ExportIdentity.id h.identity).trans hid

theorem Wrote.exportRow_other {now : Time} {old new : Export} {action : ExportAuditAction}
    (hs : s.Sound) (h : Wrote s s' now old new action) (hid : old.id ≠ id) :
    s'.exportRow id = s.exportRow id := by
  apply Option.ext
  intro e
  rw [exportRow_eq_some hs, exportRow_eq_some (h.sound hs), h.eq]
  constructor
  · rintro ⟨he, rfl⟩
    rcases (mem_replaceRow h.old_mem).1 he with rfl | ⟨he, -⟩
    · exact absurd (congrArg ExportIdentity.id h.identity).symm hid
    · exact ⟨he, rfl⟩
  · rintro ⟨he, rfl⟩
    exact ⟨(mem_replaceRow h.old_mem).2 (.inr ⟨he, fun h' => hid h'.symm⟩), rfl⟩

theorem Wrote.claimCount {now : Time} {old new : Export} {action : ExportAuditAction}
    (h : Wrote s s' now old new action) :
    s'.claimCount id = s.claimCount id + if old.id = id ∧ action = .claimed then 1 else 0 := by
  unfold ExportStore.claimCount
  rw [h.eq, List.countP_append, List.countP_singleton]
  simp

/-- A write of the row itself. -/
theorem Wrote.kept (hs : s.Sound) {now : Time} {old new : Export} {action : ExportAuditAction}
    (h : Wrote s s' now old new action) (hid : old.id = id)
    (hstarted : ∀ t, old.startedAt = some t → new.startedAt = some t) : RowKept id s s' := by
  intro e he
  obtain ⟨hold, hnew⟩ := h.exportRow_self hs hid
  rw [hold] at he
  cases he
  refine ⟨new, hnew, fun hst => ?_, fun frozen hfrozen => ?_⟩
  · have hmove := Export.allowedMove_status (exportUpdateCheck_eq_ok.1 h.check).2.1
    rcases hst with hst | hst <;> rw [hst] at hmove <;> rcases hmove with hmove | hmove <;> cases hmove
  · unfold RunnerWorld.frozenExport at hfrozen ⊢
    obtain ⟨t, ht, hfrozen⟩ := Option.map_eq_some_iff.1 hfrozen
    rw [hstarted t ht, Option.map_some, h.identity, h.grows.items old h.old_mem, hfrozen]

/-! ## The worker's transactions -/

theorem claimExport_kept (hs : s.Sound) {token : Uuid} {leaseSeconds : Nat} {now : Time}
    {r : Option Export} (h : s.claimExport id token leaseSeconds now = .ok (r, s')) :
    s'.Sound ∧ RowKept id s s' := by
  rcases claimExport_cases hs.unique h with ⟨-, rfl⟩ | ⟨old, hid, ⟨-, -, -, -, hw⟩ | ⟨-, -, hw⟩⟩
  · exact ⟨hs, .refl _⟩
  · exact ⟨hw.sound hs, hw.kept hs hid fun t ht => ht⟩
  · exact ⟨hw.sound hs, hw.kept hs hid fun t ht => by simp [claimedExport, ht]⟩

theorem completeExport_kept (hs : s.Sound) {token : Uuid} {file : ExportFile} {now : Time}
    {r : Option Export} (h : s.completeExport id token file now = .ok (r, s')) :
    s'.Sound ∧ RowKept id s s' ∧ s'.claimCount id = s.claimCount id := by
  rcases completeExport_cases hs.unique h with ⟨-, rfl⟩ | ⟨old, -, hh, -, hw⟩
  · exact ⟨hs, .refl _, rfl⟩
  · exact ⟨hw.sound hs, hw.kept hs hh.id_eq fun t ht => ht, by simp [hw.claimCount]⟩

theorem failExport_kept (hs : s.Sound) {token : Uuid} {errorCode : String} {now : Time}
    {r : Option Export} (h : s.failExport id token errorCode now = .ok (r, s')) :
    s'.Sound ∧ RowKept id s s' ∧ s'.claimCount id = s.claimCount id := by
  rcases failExport_cases hs.unique h with ⟨-, rfl⟩ | ⟨old, -, hh, hw⟩
  · exact ⟨hs, .refl _, rfl⟩
  · exact ⟨hw.sound hs, hw.kept hs hh.id_eq fun t ht => ht, by simp [hw.claimCount]⟩

/-! ## Everything else -/

/-- Transactions that are not about the export leave its row alone, or create it. -/
theorem step_spares (hs : s.Sound) {a : ExportAction env} (ha : a.sparesExport id) :
    (step env s a).claimCount id = s.claimCount id ∧
      (∀ e, s.exportRow id = some e → (step env s a).exportRow id = some e ∧
        (step env s a).itemsOf id = s.itemsOf id) ∧
      (s.exportRow id = none → ∀ e, (step env s a).exportRow id = some e → e.status = .queued) := by
  have hsame (t : ExportStore) (he : t.exports = s.exports) (hi : t.exportItems = s.exportItems)
      (hl : t.auditLogs = s.auditLogs) : t.claimCount id = s.claimCount id ∧
      (∀ e, s.exportRow id = some e → t.exportRow id = some e ∧ t.itemsOf id = s.itemsOf id) ∧
      (s.exportRow id = none → ∀ e, t.exportRow id = some e → e.status = .queued) := by
    unfold ExportStore.claimCount exportRow itemsOf
    rw [he, hi, hl]
    exact ⟨rfl, fun e h => ⟨h, rfl⟩, fun hnone e h => by rw [hnone] at h; cases h⟩
  -- a write of another export
  have hother {t : ExportStore} {now : Time} {old new : Export} {action : ExportAuditAction}
      (hw : Wrote s t now old new action) (hid : old.id ≠ id) : t.claimCount id = s.claimCount id ∧
      (∀ e, s.exportRow id = some e → t.exportRow id = some e ∧ t.itemsOf id = s.itemsOf id) ∧
      (s.exportRow id = none → ∀ e, t.exportRow id = some e → e.status = .queued) := by
    refine ⟨by simp [hw.claimCount, hid], fun e he => ⟨(hw.exportRow_other hs hid).trans he, ?_⟩,
      fun hnone e he => ?_⟩
    · rw [hw.eq]
      rfl
    · rw [hw.exportRow_other hs hid, hnone] at he
      cases he
  refine step_induction (P := fun t => t.claimCount id = s.claimCount id ∧
    (∀ e, s.exportRow id = some e → t.exportRow id = some e ∧ t.itemsOf id = s.itemsOf id) ∧
    (s.exportRow id = none → ∀ e, t.exportRow id = some e → e.status = .queued))
    (hsame s rfl rfl rfl) fun t h => ?_
  have hsound : t.Sound := by
    have := (step_sound hs a).1
    rwa [step_of_ok h] at this
  cases a with
  | grading b =>
    rcases exec_cases hs.unique h with ⟨b, grading, -, -, rfl⟩ | ⟨-, hne⟩ | ⟨_, _, _, _, _, _, he, -⟩ |
      ⟨hne, -⟩
    · exact hsame _ rfl rfl rfl
    · exact absurd rfl (hne b)
    · cases he
    · exact absurd rfl (hne b)
  | createExport q seed =>
    obtain ⟨x, h⟩ := map_snd_eq_ok.1 h
    obtain ⟨teacherId, -, -, -, ⟨-, -, rfl⟩ | ⟨job, rows, hc⟩⟩ := createExport_cases h
    · exact hsame _ rfl rfl rfl
    · refine ⟨by rw [hc.eq]; rfl, fun e he => ?_, fun hnone e he => ?_⟩
      · obtain ⟨hmem, rfl⟩ := (exportRow_eq_some hs).1 he
        refine ⟨(exportRow_eq_some hsound).2 ⟨?_, rfl⟩, (hc.grows hs).1.items e hmem⟩
        rw [hc.eq]
        exact List.mem_append_left _ hmem
      · obtain ⟨hmem, hid⟩ := (exportRow_eq_some hsound).1 he
        rw [hc.eq] at hmem
        rcases List.mem_append.1 hmem with hmem | hmem
        · rw [(exportRow_eq_some hs).2 ⟨hmem, hid⟩] at hnone
          cases hnone
        · obtain ⟨rubric, structured, -, rfl, -⟩ := hc.rubric_eq
          rw [List.mem_singleton.1 hmem]
          rfl
  | claimExport x token leaseSeconds now =>
    obtain ⟨r, h⟩ := map_snd_eq_ok.1 h
    rcases claimExport_cases hs.unique h with ⟨-, rfl⟩ | ⟨old, rfl, ⟨-, -, -, -, hw⟩ | ⟨-, -, hw⟩⟩
    · exact hsame _ rfl rfl rfl
    · exact hother hw ha
    · exact hother hw ha
  | completeExport x token file now =>
    obtain ⟨r, h⟩ := map_snd_eq_ok.1 h
    rcases completeExport_cases hs.unique h with ⟨-, rfl⟩ | ⟨old, -, hh, -, hw⟩
    · exact hsame _ rfl rfl rfl
    · exact hother hw (hh.id_eq ▸ ha)
  | failExport x token errorCode now =>
    obtain ⟨r, h⟩ := map_snd_eq_ok.1 h
    rcases failExport_cases hs.unique h with ⟨-, rfl⟩ | ⟨old, -, hh, hw⟩
    · exact hsame _ rfl rfl rfl
    · exact hother hw (hh.id_eq ▸ ha)

end ExportStore

namespace RunnerWorld

variable {env : Runtime} {build : WorkbookBuilder} {id : Uuid} {w w' : RunnerWorld}

/-! ## The invariant -/

/-- The export has failed. -/
def Failed (id : Uuid) (w : RunnerWorld) : Prop :=
  ∃ e, w.db.exportRow id = some e ∧ e.status = .failed

/-- The content is the workbook of the frozen rows. -/
def Built (build : WorkbookBuilder) (id : Uuid) (w : RunnerWorld) (content : Bytes) : Prop :=
  ∃ e frozen artifact, w.db.exportRow id = some e ∧ frozenExport w.db e = some frozen ∧
    build frozen = .ok artifact ∧ content = artifact.content

/-- What a phase promises. -/
def PhaseOk (id : Uuid) (w : RunnerWorld) : RunnerPhase → Prop
  | .building _ frozen => ∃ e, w.db.exportRow id = some e ∧ frozenExport w.db e = some frozen
  | .uploaded _ artifact _ | .refused _ artifact _ => w.Failed id ∨ w.object = some artifact.content
  | .cleanup _ | .deleting => w.Failed id
  | _ => True

/-- The object of a completed export is there, as it was recorded. -/
def Recorded (env : Runtime) (id : Uuid) (w : RunnerWorld) (e : Export) : Prop :=
  ∃ content, w.object = some content ∧ e.objectKey = some (exportObjectKey id) ∧
    e.fileSha256 = some (env.sha256 content) ∧ e.fileSizeBytes = some content.length

structure Delivers (env : Runtime) (build : WorkbookBuilder) (id : Uuid) (w : RunnerWorld) :
    Prop where
  sound : w.db.Sound
  counted : w.claims = w.db.claimCount id
  bounded : w.claims ≤ 3
  fresh : (∀ e, w.db.exportRow id = some e → e.status = .queued) → w.claims = 0
  phases : ∀ d, PhaseOk id w (w.phase d)
  object : ∀ content, w.object = some content → Built build id w content
  completed : ∀ e, w.db.exportRow id = some e → e.status = .completed → Recorded env id w e

@[simp] theorem setPhase_self (w : RunnerWorld) (d : Nat) (p : RunnerPhase) :
    (w.setPhase d p).phase d = p := by
  simp [setPhase]

theorem setPhase_other (w : RunnerWorld) {d d' : Nat} (h : d' ≠ d) (p : RunnerPhase) :
    (w.setPhase d p).phase d' = w.phase d' := by
  simp [setPhase, Function.update_of_ne h]

/-- There is only one workbook. -/
theorem Built.unique {c c' : Bytes} (h : Built build id w c) (h' : Built build id w c') : c = c' := by
  obtain ⟨e, frozen, artifact, he, hfrozen, hbuild, rfl⟩ := h
  obtain ⟨e', frozen', artifact', he', hfrozen', hbuild', rfl⟩ := h'
  rw [he] at he'
  cases he'
  rw [hfrozen] at hfrozen'
  cases hfrozen'
  rw [hbuild] at hbuild'
  cases hbuild'
  rfl

theorem Failed.kept (hk : ExportStore.RowKept id w.db w'.db) (h : w.Failed id) : w'.Failed id := by
  obtain ⟨e, he, hst⟩ := h
  obtain ⟨e', he', hfinal, -⟩ := hk e he
  exact ⟨e', he', hfinal (.inr hst) ▸ hst⟩

theorem Built.kept (hk : ExportStore.RowKept id w.db w'.db) {c : Bytes} (h : Built build id w c) :
    Built build id w' c := by
  obtain ⟨e, frozen, artifact, he, hfrozen, hbuild, rfl⟩ := h
  obtain ⟨e', he', -, hkept⟩ := hk e he
  exact ⟨e', frozen, artifact, he', hkept frozen hfrozen, hbuild, rfl⟩

/-- Phases keep their promises while an object goes only after a failure. -/
theorem PhaseOk.kept (w' : RunnerWorld) (hk : ExportStore.RowKept id w.db w'.db)
    (hobject : ∀ c, w.object = some c → w'.Failed id ∨ w'.object = some c) {p : RunnerPhase}
    (h : PhaseOk id w p) : PhaseOk id w' p := by
  cases p with
  | building token frozen =>
    obtain ⟨e, he, hfrozen⟩ := h
    obtain ⟨e', he', -, hkept⟩ := hk e he
    exact ⟨e', he', hkept frozen hfrozen⟩
  | uploaded token artifact created => exact h.elim (.inl ∘ Failed.kept hk) (hobject _)
  | refused token artifact created => exact h.elim (.inl ∘ Failed.kept hk) (hobject _)
  | cleanup artifact => exact Failed.kept hk h
  | deleting => exact Failed.kept hk h
  | _ => trivial

/-- The step of one delivery that leaves the object alone. -/
theorem Delivers.move (h : Delivers env build id w) {db : ExportStore} {claims d : Nat}
    {p : RunnerPhase} (hs : db.Sound) (hk : ExportStore.RowKept id w.db db)
    (hcounted : claims = db.claimCount id) (hbounded : claims ≤ 3)
    (hfresh : (∀ e, db.exportRow id = some e → e.status = .queued) → claims = 0)
    (hp : PhaseOk id { w with db } p)
    (hcompleted : ∀ e, db.exportRow id = some e → e.status = .completed →
      w.db.exportRow id = some e ∨ Recorded env id w e) :
    Delivers env build id { w.setPhase d p with db, claims } := by
  refine ⟨hs, hcounted, hbounded, hfresh, fun d' => ?_, fun c hc => (h.object c hc).kept hk,
    fun e he hst => ?_⟩
  · by_cases hd : d' = d
    · subst hd
      show PhaseOk id { w.setPhase d' p with db, claims } ((w.setPhase d' p).phase d')
      rw [setPhase_self]
      exact hp.kept _ (.refl _) fun c hc => .inr hc
    · show PhaseOk id { w.setPhase d p with db, claims } ((w.setPhase d p).phase d')
      rw [setPhase_other w hd]
      exact (h.phases d').kept { w.setPhase d p with db, claims } hk fun c hc => .inr hc
  · rcases hcompleted e he hst with hold | hrecorded
    · exact h.completed e hold hst
    · exact hrecorded

/-- A step that neither claims nor completes. -/
theorem Delivers.settle (h : Delivers env build id w) {db : ExportStore} {d : Nat} {p : RunnerPhase}
    (hs : db.Sound) (hk : ExportStore.RowKept id w.db db) (hcount : db.claimCount id = w.db.claimCount id)
    (hfresh : ∀ e, w.db.exportRow id = some e → e.status ≠ .queued →
      ∃ e', db.exportRow id = some e' ∧ e'.status ≠ .queued)
    (hp : PhaseOk id { w with db } p)
    (hcompleted : ∀ e, db.exportRow id = some e → e.status = .completed →
      w.db.exportRow id = some e ∨ Recorded env id w e) :
    Delivers env build id { w.setPhase d p with db } := by
  refine h.move hs hk (h.counted.trans hcount.symm) h.bounded (fun hq => h.fresh fun e he => ?_) hp
    hcompleted
  by_contra hst
  obtain ⟨e', he', hne⟩ := hfresh e he hst
  exact hne (hq e' he')

/-- A delivery moves on by itself. -/
theorem Delivers.setPhase (h : Delivers env build id w) {d : Nat} {p : RunnerPhase}
    (hp : PhaseOk id w p) : Delivers env build id (w.setPhase d p) :=
  h.settle h.sound (.refl _) rfl (fun e he hst => ⟨e, he, hst⟩) hp fun _ he _ => .inl he

/-! ## Events -/

theorem Delivers.claim (h : Delivers env build id w) (d : Nat) (token : Uuid)
    (timedOut answered : Bool) (now : Time) :
    Delivers env build id (w.claim id d token timedOut answered now) := by
  have hs := h.sound
  unfold RunnerWorld.claim
  split
  · split
    · exact h.setPhase trivial
    next db hclaim =>
      obtain ⟨hsound, hkept⟩ := ExportStore.claimExport_kept hs hclaim
      rcases ExportStore.claimExport_cases hs.unique hclaim with ⟨-, rfl⟩ |
        ⟨old, hid, ⟨-, hrun, -, -, hw⟩ | ⟨hne, -⟩⟩
      · exact h.setPhase trivial
      · -- a lost export fails
        obtain ⟨hold, hnew⟩ := hw.exportRow_self hs hid
        refine h.settle hsound hkept (by simp [hw.claimCount])
          (fun _ _ _ => ⟨_, hnew, by simp [ExportStore.failedExport]⟩) trivial fun e he hst => ?_
        rw [hnew] at he
        cases he
        cases hst
      · cases hne
    next e db hclaim =>
      obtain ⟨hsound, hkept⟩ := ExportStore.claimExport_kept hs hclaim
      rcases ExportStore.claimExport_cases hs.unique hclaim with ⟨hne, -⟩ |
        ⟨old, hid, ⟨hne, -⟩ | ⟨hr, hopen, hw⟩⟩
      · cases hne
      · cases hne
      · cases hr
        obtain ⟨hold, hnew⟩ := hw.exportRow_self hs hid
        have hcount : db.claimCount id = w.db.claimCount id + 1 := by simp [hw.claimCount, hid]
        refine h.move hsound hkept (by rw [hcount, h.counted]) ?_ (fun hq => ?_) ?_ fun e he hst => ?_
        · -- a queued export was never claimed
          rcases hopen with hqueued | ⟨-, -, hlt⟩
          · rw [h.fresh fun e he => by rw [hold] at he; cases he; exact hqueued]
            omega
          · rw [h.counted]
            omega
        · have hst := hq _ hnew
          cases hst
        · cases answered with
          | false => trivial
          | true =>
            show PhaseOk id _ (claimedPhase db _ token timedOut)
            unfold claimedPhase
            split
            · trivial
            · split
              next frozen hfrozen => exact ⟨_, hnew, hfrozen⟩
              · trivial
        · rw [hnew] at he
          cases he
          cases hst
  · exact h

/-- An upload that creates the object or leaves the one that is there. -/
theorem Delivers.store (h : Delivers env build id w) {d : Nat} {p : RunnerPhase} {content : Bytes}
    (hbuilt : Built build id w content)
    (hp : ∀ c, w.putOnce content = some c → PhaseOk id { w with object := some c } p) :
    Delivers env build id { w.setPhase d p with object := w.putOnce content } := by
  have hput : ∃ c, w.putOnce content = some c ∧ Built build id w c ∧
      ∀ c', w.object = some c' → c = c' := by
    unfold putOnce
    cases hobject : w.object with
    | none => exact ⟨content, rfl, hbuilt, fun c' hc => by cases hc⟩
    | some c => exact ⟨c, rfl, h.object c hobject, fun c' hc => by cases hc; rfl⟩
  obtain ⟨c, hc, hcbuilt, hold⟩ := hput
  rw [hc]
  refine ⟨h.sound, h.counted, h.bounded, h.fresh, fun d' => ?_, fun c' hc' => ?_, fun e he hst => ?_⟩
  · by_cases hd : d' = d
    · subst hd
      show PhaseOk id { w.setPhase d' p with object := some c } ((w.setPhase d' p).phase d')
      rw [setPhase_self]
      exact (hp c hc).kept _ (.refl _) fun c' hc' => .inr hc'
    · show PhaseOk id { w.setPhase d p with object := some c } ((w.setPhase d p).phase d')
      rw [setPhase_other w hd]
      exact (h.phases d').kept { w.setPhase d p with object := some c } (.refl w.db) fun c' hc' =>
        .inr (congrArg some (hold c' hc'))
  · cases hc'
    exact hcbuilt
  · obtain ⟨content', hc', hrest⟩ := h.completed e he hst
    exact ⟨content', congrArg some (hold content' hc'), hrest⟩

theorem Delivers.upload (h : Delivers env build id w) (d : Nat) (outcome : RequestOutcome) :
    Delivers env build id (w.upload env build d outcome) := by
  unfold RunnerWorld.upload
  split
  next token frozen hphase =>
    have hfrozen : PhaseOk id w (.building token frozen) := hphase ▸ h.phases d
    split
    · exact h.setPhase trivial
    next artifact hbuild =>
      have hbuilt : Built build id w artifact.content := by
        obtain ⟨e, he, hf⟩ := hfrozen
        exact ⟨e, frozen, artifact, he, hf, hbuild, rfl⟩
      split
      · exact h.setPhase trivial
      · split
        next applied =>
          cases applied with
          | false => exact h.setPhase trivial
          | true => exact h.store hbuilt fun _ _ => trivial
        next hnone =>
          have hput : w.putOnce artifact.content = some artifact.content := by
            simp [putOnce, hnone]
          have := h.store (d := d) (p := .uploaded token artifact true) hbuilt fun c hc =>
            .inr ((congrArg some (Option.some.inj (hput.symm.trans hc))).symm)
          rwa [hput] at this
        next existing hobject =>
          split
          · have hsame := (h.object existing hobject).unique hbuilt
            exact h.setPhase (.inr (by rw [hobject, hsame]))
          · exact h.setPhase trivial
  · exact h

theorem Delivers.osError (h : Delivers env build id w) (d : Nat) :
    Delivers env build id (w.osError d) := by
  unfold RunnerWorld.osError
  split
  · exact h.setPhase trivial
  · exact h.setPhase trivial
  · exact h.setPhase trivial
  · exact h

theorem Delivers.complete (h : Delivers env build id w) (d : Nat) (answered : Bool) (now : Time) :
    Delivers env build id (w.complete env id d answered now) := by
  have hs := h.sound
  unfold RunnerWorld.complete
  split
  next token artifact created hphase =>
    have huploaded : PhaseOk id w (.uploaded token artifact created) := hphase ▸ h.phases d
    split
    · exact h.setPhase trivial
    next r db hcomplete =>
      obtain ⟨hsound, hkept, hcount⟩ := ExportStore.completeExport_kept hs hcomplete
      refine h.settle hsound hkept hcount ?_ ?_ ?_
      · intro e he hst
        rcases ExportStore.completeExport_cases hs.unique hcomplete with ⟨-, rfl⟩ |
          ⟨old, -, hh, -, hw⟩
        · exact ⟨e, he, hst⟩
        · exact ⟨_, (hw.exportRow_self hs hh.id_eq).2, by simp [ExportStore.completedExport]⟩
      · cases answered with
        | false => trivial
        | true =>
          show PhaseOk id { w with db } (if r.isSome then .done else .refused token artifact created)
          split
          · trivial
          · exact huploaded.imp_left (Failed.kept hkept)
      · intro e he hst
        rcases ExportStore.completeExport_cases hs.unique hcomplete with ⟨-, rfl⟩ |
          ⟨old, -, hh, hkey, hw⟩
        · exact .inl he
        · obtain ⟨hold, hnew⟩ := hw.exportRow_self hs hh.id_eq
          rw [hnew] at he
          cases he
          -- the row was running, so the object of the upload is still there
          rcases huploaded with ⟨x, hx, hxst⟩ | hobject
          · rw [hold] at hx
            cases hx
            rw [hh.running] at hxst
            cases hxst
          · exact .inr ⟨artifact.content, hobject, congrArg some hkey, rfl, rfl⟩
  · exact h

theorem Delivers.fail (h : Delivers env build id w) (d : Nat) (answered : Bool) (now : Time) :
    Delivers env build id (w.fail id d answered now) := by
  have hs := h.sound
  -- a failed transaction of the delivery, with the phase it leads to
  have hfail {token : Uuid} {code : String} {r : Option Export} {db : ExportStore} {p : RunnerPhase}
      (hf : w.db.failExport id token code now = .ok (r, db))
      (hp : r.isSome = true → RunnerWorld.Failed id { w with db } → PhaseOk id { w with db } p)
      (hp' : r.isSome = false → PhaseOk id { w with db } p) :
      Delivers env build id { w.setPhase d p with db } := by
    obtain ⟨hsound, hkept, hcount⟩ := ExportStore.failExport_kept hs hf
    rcases ExportStore.failExport_cases hs.unique hf with ⟨rfl, rfl⟩ | ⟨old, rfl, hh, hw⟩
    · exact h.setPhase (hp' rfl)
    · obtain ⟨hold, hnew⟩ := hw.exportRow_self hs hh.id_eq
      refine h.settle hsound hkept hcount
        (fun _ _ _ => ⟨_, hnew, by simp [ExportStore.failedExport]⟩) (hp rfl ⟨_, hnew, rfl⟩)
        fun e he hst => ?_
      rw [hnew] at he
      cases he
      cases hst
  unfold RunnerWorld.fail
  split
  next token artifact created hphase =>
    split
    · exact h.setPhase trivial
    next r db hf =>
      refine hfail hf (fun hr hfailed => ?_) fun hr => ?_
      · cases answered with
        | false => trivial
        | true =>
          show PhaseOk id { w with db } (if created && r.isSome then .cleanup artifact else .done)
          split
          · exact hfailed
          · trivial
      · cases answered with
        | false => trivial
        | true =>
          show PhaseOk id { w with db } (if created && r.isSome then .cleanup artifact else .done)
          rw [hr, Bool.and_false]
          trivial
  next token code hphase =>
    split
    · exact h.setPhase trivial
    next r db hf => exact hfail hf (fun _ _ => trivial) fun _ => trivial
  · exact h

theorem Delivers.compare (h : Delivers env build id w) (d : Nat) :
    Delivers env build id (w.compare env d) := by
  unfold RunnerWorld.compare
  split
  next artifact hphase =>
    have hfailed : PhaseOk id w (.cleanup artifact) := hphase ▸ h.phases d
    split
    · exact h.setPhase trivial
    · split
      · exact h.setPhase hfailed
      · exact h.setPhase trivial
  · exact h

theorem Delivers.delete (h : Delivers env build id w) (d : Nat) (applied : Bool) :
    Delivers env build id (w.delete d applied) := by
  unfold RunnerWorld.delete
  split
  next hphase =>
    have hfailed : w.Failed id := by
      have := h.phases d
      rwa [hphase] at this
    cases applied with
    | false => exact h.setPhase trivial
    | true =>
      refine ⟨h.sound, h.counted, h.bounded, h.fresh, fun d' => ?_, fun c hc => ?_,
        fun e he hst => ?_⟩
      · by_cases hd : d' = d
        · subst hd
          show PhaseOk id _ ((w.setPhase d' .done).phase d')
          rw [setPhase_self]
          trivial
        · show PhaseOk id { w.setPhase d .done with object := none } ((w.setPhase d .done).phase d')
          rw [setPhase_other w hd]
          exact (h.phases d').kept { w.setPhase d .done with object := none } (.refl w.db) fun c hc =>
            .inl hfailed
      · cases hc
      · obtain ⟨x, hx, hxst⟩ := hfailed
        have he' : w.db.exportRow id = some e := he
        rw [hx] at he'
        cases he'
        rw [hxst] at hst
        cases hst
  · exact h

theorem Delivers.elsewhere_kept (h : Delivers env build id w) {a : ExportAction env}
    (ha : a.sparesExport id) : ExportStore.RowKept id w.db (ExportStore.step env w.db a) := by
  obtain ⟨-, hrow, -⟩ := ExportStore.step_spares h.sound ha
  intro e he
  obtain ⟨he', hitems⟩ := hrow e he
  refine ⟨e, he', fun _ => rfl, fun frozen hfrozen => ?_⟩
  obtain ⟨-, rfl⟩ := (ExportStore.exportRow_eq_some h.sound).1 he
  unfold frozenExport at hfrozen ⊢
  rw [hitems]
  exact hfrozen

theorem Delivers.elsewhere (h : Delivers env build id w) {a : ExportAction env}
    (ha : a.sparesExport id) :
    Delivers env build id { w with db := ExportStore.step env w.db a } := by
  obtain ⟨hcount, hrow, hnew⟩ := ExportStore.step_spares h.sound ha
  have hkept := h.elsewhere_kept ha
  -- a row that is there now is the old one, or new and queued
  have hback (e : Export) (he : (ExportStore.step env w.db a).exportRow id = some e) :
      w.db.exportRow id = some e ∨ e.status = .queued := by
    cases hold : w.db.exportRow id with
    | none => exact .inr (hnew hold e he)
    | some x =>
      rw [(hrow x hold).1] at he
      exact .inl he
  refine ⟨(ExportStore.step_sound h.sound a).1, h.counted.trans hcount.symm, h.bounded,
    fun hq => h.fresh fun e he => hq e (hrow e he).1,
    fun d => (h.phases d).kept { w with db := ExportStore.step env w.db a } hkept fun c hc => .inr hc,
    fun c hc => (h.object c hc).kept hkept, fun e he hst => ?_⟩
  rcases hback e he with hold | hqueued
  · exact h.completed e hold hst
  · rw [hqueued] at hst
    cases hst

theorem Delivers.step (h : Delivers env build id w) {ev : RunnerEvent env}
    (hev : ev.sparesExport id) : Delivers env build id (step env build id w ev) := by
  cases ev with
  | claim d token timedOut answered now => exact h.claim d token timedOut answered now
  | upload d outcome => exact h.upload d outcome
  | osError d => exact h.osError d
  | complete d answered now => exact h.complete d answered now
  | fail d answered now => exact h.fail d answered now
  | compare d => exact h.compare d
  | delete d applied => exact h.delete d applied
  | crash d => exact h.setPhase trivial
  | elsewhere a => exact h.elsewhere hev

/-! ## Transitions of the row -/

/-- How one event can change the row of the export. -/
inductive RowStep (id : Uuid) (w : RunnerWorld) (ev : RunnerEvent env) (s' : ExportStore) : Prop where
  /-- not at all, or the export was created -/
  | same (kept : ∀ e, w.db.exportRow id = some e → s'.exportRow id = some e)
      (created : w.db.exportRow id = none → ∀ e, s'.exportRow id = some e → e.status = .queued)
      (frozen : ExportStore.RowKept id w.db s')
  /-- a delivery claimed it -/
  | claimed (d : Nat) (token : Uuid) (timedOut answered : Bool) (now : Time) (old : Export)
      (event : ev = .claim d token timedOut answered now)
      (wrote : old.id = id ∧ ExportStore.Wrote w.db s' now old
        (ExportStore.claimedExport token exportLeaseSeconds now old) .claimed)
  /-- a claim gave it up -/
  | lost (d : Nat) (token : Uuid) (timedOut answered : Bool) (now : Time) (old : Export)
      (event : ev = .claim d token timedOut answered now)
      (gone : old.status = .running ∧ old.leaseOver now = true ∧ 3 ≤ w.db.claimCount id)
      (wrote : old.id = id ∧ ExportStore.Wrote w.db s' now old
        (ExportStore.failedExport "export_worker_lost" now old) .failed)
  /-- the holder of the lease completed it -/
  | completed (d : Nat) (answered : Bool) (now : Time) (token : Uuid) (file : ExportStore.ExportFile)
      (old : Export) (event : ev = .complete d answered now) (holder : (w.phase d).token? = some token)
      (holds : ExportStore.Holds old id token now)
      (wrote : ExportStore.Wrote w.db s' now old (ExportStore.completedExport file now old) .completed)
  /-- the holder of the lease failed it -/
  | failed (d : Nat) (answered : Bool) (now : Time) (token : Uuid) (errorCode : String)
      (old : Export) (event : ev = .fail d answered now) (holder : (w.phase d).token? = some token)
      (holds : ExportStore.Holds old id token now)
      (wrote : ExportStore.Wrote w.db s' now old (ExportStore.failedExport errorCode now old) .failed)

theorem RowStep.of_eq {ev : RunnerEvent env} {s' : ExportStore} (h : s' = w.db) :
    RowStep id w ev s' := by
  subst h
  refine .same (fun _ he => he) (fun hnone e he => ?_) (.refl _)
  rw [hnone] at he
  cases he

theorem step_rowStep (h : Delivers env build id w) {ev : RunnerEvent env}
    (hev : ev.sparesExport id) : RowStep id w ev (step env build id w ev).db := by
  have hu := h.sound.unique
  cases ev with
  | claim d token timedOut answered now =>
    simp only [RunnerWorld.step, RunnerWorld.claim]
    split
    · split
      · exact .of_eq rfl
      next db hclaim =>
        rcases ExportStore.claimExport_cases hu hclaim with ⟨-, rfl⟩ |
          ⟨old, hid, ⟨-, hrun, hover, hcount, hw⟩ | ⟨hne, -⟩⟩
        · exact .of_eq rfl
        · exact .lost d token timedOut answered now old rfl ⟨hrun, hover, hid ▸ hcount⟩ ⟨hid, hw⟩
        · cases hne
      next e db hclaim =>
        rcases ExportStore.claimExport_cases hu hclaim with ⟨hne, -⟩ |
          ⟨old, hid, ⟨hne, -⟩ | ⟨hr, -, hw⟩⟩
        · cases hne
        · cases hne
        · exact .claimed d token timedOut answered now old rfl ⟨hid, hw⟩
    · exact .of_eq rfl
  | upload d outcome =>
    refine .of_eq ?_
    simp only [RunnerWorld.step, RunnerWorld.upload]
    repeat' split
    all_goals rfl
  | osError d =>
    refine .of_eq ?_
    simp only [RunnerWorld.step, RunnerWorld.osError]
    split <;> rfl
  | complete d answered now =>
    simp only [RunnerWorld.step, RunnerWorld.complete]
    split
    next token artifact created hphase =>
      split
      · exact .of_eq rfl
      next r db hcomplete =>
        rcases ExportStore.completeExport_cases hu hcomplete with ⟨-, rfl⟩ | ⟨old, -, hh, -, hw⟩
        · exact .of_eq rfl
        · exact .completed d answered now token _ old rfl (by rw [hphase]; rfl) hh hw
    · exact .of_eq rfl
  | fail d answered now =>
    simp only [RunnerWorld.step, RunnerWorld.fail]
    split
    next token artifact created hphase =>
      split
      · exact .of_eq rfl
      next r db hf =>
        rcases ExportStore.failExport_cases hu hf with ⟨-, rfl⟩ | ⟨old, -, hh, hw⟩
        · exact .of_eq rfl
        · exact .failed d answered now token _ old rfl (by rw [hphase]; rfl) hh hw
    next token code hphase =>
      split
      · exact .of_eq rfl
      next r db hf =>
        rcases ExportStore.failExport_cases hu hf with ⟨-, rfl⟩ | ⟨old, -, hh, hw⟩
        · exact .of_eq rfl
        · exact .failed d answered now token _ old rfl (by rw [hphase]; rfl) hh hw
    · exact .of_eq rfl
  | compare d =>
    refine .of_eq ?_
    simp only [RunnerWorld.step, RunnerWorld.compare]
    repeat' split
    all_goals rfl
  | delete d applied =>
    refine .of_eq ?_
    simp only [RunnerWorld.step, RunnerWorld.delete]
    split <;> rfl
  | crash d => exact .of_eq rfl
  | elsewhere a =>
    obtain ⟨-, hrow, hnew⟩ := ExportStore.step_spares h.sound hev
    exact .same (fun e he => (hrow e he).1) hnew (h.elsewhere_kept hev)

theorem RowStep.kept (hs : w.db.Sound) {ev : RunnerEvent env} {s' : ExportStore}
    (h : RowStep id w ev s') : ExportStore.RowKept id w.db s' := by
  cases h with
  | same _ _ frozen => exact frozen
  | claimed d token timedOut answered now old event wrote =>
    exact wrote.2.kept hs wrote.1 fun t ht => by simp [ExportStore.claimedExport, ht]
  | lost d token timedOut answered now old event gone wrote =>
    exact wrote.2.kept hs wrote.1 fun t ht => ht
  | completed d answered now token file old event holder holds wrote =>
    exact wrote.kept hs holds.id_eq fun t ht => ht
  | failed d answered now token errorCode old event holder holds wrote =>
    exact wrote.kept hs holds.id_eq fun t ht => ht

/-! ## Runs -/

/-- The deliveries of an export from the start. -/
def after (env : Runtime) (build : WorkbookBuilder) (id : Uuid) (es : List (RunnerEvent env)) :
    RunnerWorld :=
  Runs.run (step env build id) start es

theorem after_append (es es' : List (RunnerEvent env)) :
    after env build id (es ++ es') = Runs.run (step env build id) (after env build id es) es' :=
  Runs.run_append start es es'

theorem start_delivers : Delivers env build id start := by
  refine ⟨⟨rfl, fun _ hi => absurd hi List.not_mem_nil⟩, rfl, by decide, fun _ => rfl,
    fun _ => trivial, fun _ hc => ?_, fun _ he => ?_⟩
  · cases hc
  · cases he

theorem run_kept (h : Delivers env build id w) (es : List (RunnerEvent env))
    (hes : ∀ ev ∈ es, ev.sparesExport id) :
    Delivers env build id (Runs.run (step env build id) w es) ∧
      ExportStore.RowKept id w.db (Runs.run (step env build id) w es).db := by
  induction es generalizing w with
  | nil => exact ⟨h, .refl _⟩
  | cons ev es ih =>
    have hev := hes ev List.mem_cons_self
    obtain ⟨hend, hkept⟩ := ih (h.step hev) fun ev' hev' => hes ev' (List.mem_cons_of_mem _ hev')
    exact ⟨hend, ((step_rowStep h hev).kept h.sound).trans hkept⟩

theorem after_delivers (es : List (RunnerEvent env)) (hes : ∀ ev ∈ es, ev.sparesExport id) :
    Delivers env build id (after env build id es) :=
  (run_kept start_delivers es hes).1

/-- A completed export has one object, now and later. -/
theorem Delivers.object_stays (h : Delivers env build id w) {e : Export}
    (he : w.db.exportRow id = some e) (hst : e.status = .completed) (es : List (RunnerEvent env))
    (hes : ∀ ev ∈ es, ev.sparesExport id) :
    (Runs.run (RunnerWorld.step env build id) w es).object = w.object := by
  obtain ⟨hend, hkept⟩ := run_kept h es hes
  obtain ⟨e', he', hfinal, -⟩ := hkept e he
  obtain rfl := hfinal (.inl hst)
  obtain ⟨content, hcontent, -⟩ := h.completed e' he hst
  obtain ⟨content', hcontent', -⟩ := hend.completed e' he' hst
  have hbuilt := (h.object content hcontent).kept hkept
  rw [hcontent, hcontent', hbuilt.unique (hend.object content' hcontent')]

/-- Who ended an export: the holder of the lease, or a claim that gave it up. -/
inductive EndedBy (id : Uuid) (w : RunnerWorld) (old e : Export) : RunnerEvent env → Prop where
  | complete (d : Nat) (answered : Bool) (now : Time) (token : Uuid)
      (holder : (w.phase d).token? = some token) (holds : ExportStore.Holds old id token now)
      (status : e.status = .completed) : EndedBy id w old e (.complete d answered now)
  | fail (d : Nat) (answered : Bool) (now : Time) (token : Uuid)
      (holder : (w.phase d).token? = some token) (holds : ExportStore.Holds old id token now)
      (status : e.status = .failed) : EndedBy id w old e (.fail d answered now)
  | lost (d : Nat) (token : Uuid) (timedOut answered : Bool) (now : Time)
      (running : old.status = .running) (gone : old.leaseOver now = true) (claims : w.claims = 3)
      (status : e.status = .failed) : EndedBy id w old e (.claim d token timedOut answered now)

theorem Delivers.endedBy (h : Delivers env build id w) {ev : RunnerEvent env}
    (hev : ev.sparesExport id) {e : Export}
    (he : (RunnerWorld.step env build id w ev).db.exportRow id = some e)
    (hst : e.status = .completed ∨ e.status = .failed) (hnew : w.db.exportRow id ≠ some e) :
    ∃ old, w.db.exportRow id = some old ∧ EndedBy id w old e ev := by
  have hs := h.sound
  cases step_rowStep h hev with
  | same kept created frozen =>
    cases hold : w.db.exportRow id with
    | none =>
      rw [created hold e he] at hst
      rcases hst with hst | hst <;> cases hst
    | some x =>
      rw [kept x hold] at he
      exact absurd (hold.trans he) hnew
  | claimed d token timedOut answered now old event wrote =>
    rw [(wrote.2.exportRow_self hs wrote.1).2] at he
    cases he
    rcases hst with hst | hst <;> cases hst
  | lost d token timedOut answered now old event gone wrote =>
    obtain ⟨hold, hnow⟩ := wrote.2.exportRow_self hs wrote.1
    rw [hnow] at he
    cases he
    have hclaims : w.claims = 3 := by
      have := h.counted
      have := h.bounded
      omega
    exact ⟨old, hold, event ▸ .lost d token timedOut answered now gone.1 gone.2.1 hclaims rfl⟩
  | completed d answered now token file old event holder holds wrote =>
    obtain ⟨hold, hnow⟩ := wrote.exportRow_self hs holds.id_eq
    rw [hnow] at he
    cases he
    exact ⟨old, hold, event ▸ .complete d answered now token holder holds rfl⟩
  | failed d answered now token errorCode old event holder holds wrote =>
    obtain ⟨hold, hnow⟩ := wrote.exportRow_self hs holds.id_eq
    rw [hnow] at he
    cases he
    exact ⟨old, hold, event ▸ .fail d answered now token holder holds rfl⟩

/-- **The deliveries of one export**: at most three claims, an end that stays, a completed export
with its object, and no end but by the holder of the lease or by a claim after three. -/
theorem after_deliveries (es : List (RunnerEvent env)) (hes : ∀ ev ∈ es, ev.sparesExport id) :
    (after env build id es).claims ≤ 3 ∧
      (∀ e, (after env build id es).db.exportRow id = some e → e.status = .completed →
        Recorded env id (after env build id es) e) ∧
      (∀ e, (after env build id es).db.exportRow id = some e →
        e.status = .completed ∨ e.status = .failed →
        ∀ es' : List (RunnerEvent env), (∀ ev ∈ es', ev.sparesExport id) →
          (after env build id (es ++ es')).db.exportRow id = some e ∧
          (e.status = .completed →
            (after env build id (es ++ es')).object = (after env build id es).object)) ∧
      ∀ ev : RunnerEvent env, ev.sparesExport id →
        ∀ e, (after env build id (es ++ [ev])).db.exportRow id = some e →
          e.status = .completed ∨ e.status = .failed →
          (after env build id es).db.exportRow id ≠ some e →
          ∃ old, (after env build id es).db.exportRow id = some old ∧
            EndedBy id (after env build id es) old e ev := by
  have h : Delivers env build id (after env build id es) := after_delivers es hes
  refine ⟨h.bounded, h.completed, fun e he hst es' hes' => ?_, fun ev hev e he hst hnew => ?_⟩
  · rw [after_append]
    obtain ⟨e', he', hfinal, -⟩ := (run_kept h es' hes').2 e he
    exact ⟨hfinal hst ▸ he', fun hcompleted => h.object_stays he hcompleted es' hes'⟩
  · rw [after_append] at he
    exact h.endedBy hev he hst hnew

end RunnerWorld

/-! ## The deliveries of the sample export -/

namespace Sample

open ExportStore

/-- No workbook comes of it: every delivery is lost while it builds. -/
def noWorkbook : WorkbookBuilder := fun _ => .error "export_workbook_failed"

def queueExport : List (ExportAction sampleRuntime) := grade ++ [.createExport draftRequest exportSeed]

theorem after_queueExport : ExportStore.after sampleRuntime queueExport = exported := by
  have hcreate : (ExportStore.mk reviewable [] [] []).exec sampleRuntime
      (.createExport draftRequest exportSeed) = .ok exported :=
    map_snd_eq_ok.2 ⟨draftExport, create_reviewable⟩
  have hgrade := after_grade
  unfold ExportStore.after at hgrade ⊢
  rw [queueExport, Runs.run_append, hgrade]
  exact step_of_ok hcreate

theorem elsewhere_db (w : RunnerWorld) (as : List (ExportAction sampleRuntime)) :
    Runs.run (RunnerWorld.step sampleRuntime noWorkbook 16) w (as.map .elsewhere) =
      { w with db := Runs.run (ExportStore.step sampleRuntime) w.db as } := by
  induction as generalizing w with
  | nil => rfl
  | cons a as ih =>
    rw [List.map_cons, Runs.run_cons, ih]
    rfl

/-- The sample export and its log, claimed so often. -/
def claimedWorld (e : Export) (n : Nat) (phase : Nat → RunnerPhase) : RunnerWorld :=
  ⟨⟨reviewable, [e], [frozenPaper], List.replicate n ⟨teacher, .claimed, 16⟩⟩, none, phase, n⟩

def claimedRow (token : Uuid) (now : Time) (e : Export) : Export :=
  claimedExport token exportLeaseSeconds now e

theorem updateExports_claimedWorld {e : Export} {n : Nat} {phase : Nat → RunnerPhase} {now : Time}
    {set : Export → Export} (hid : e.id = 16) (hcheck : exportUpdateCheck now e (set e) = .ok ()) :
    (claimedWorld e n phase).db.updateExports now (·.id == 16) set =
      .ok { (claimedWorld e n phase).db with exports := [set e] } := by
  unfold updateExports
  simp only [bind_eq_ok, updateWhere_eq_ok, require_eq_ok]
  refine ⟨_, ⟨rfl, fun x hx _ => ?_⟩, (), ?_, ?_⟩
  · rw [List.mem_singleton.1 hx]
    exact hcheck
  · simp [claimedWorld, setWhere, exportsUnique]
  · simp only [claimedWorld, setWhere, List.map_cons, List.map_nil, hid]
    rfl

theorem claimCount_claimedWorld (e : Export) (n : Nat) (phase : Nat → RunnerPhase) :
    (claimedWorld e n phase).db.claimCount 16 = n := by
  unfold claimCount claimedWorld
  rw [List.countP_replicate, if_pos (by decide)]

theorem claimExport_claimedWorld {e : Export} {n : Nat} {phase : Nat → RunnerPhase} {token : Uuid}
    {now : Time} (hid : e.id = 16 ∧ e.ownerId = teacher)
    (hopen : e.status = .queued ∨ (e.status = .running ∧ e.leaseOver now = true)) (hn : n < 3)
    (hmove : Export.allowedMove now e (claimedRow token now e) = true)
    (hrow : (claimedRow token now e).rowCheck = .ok ()) :
    (claimedWorld e n phase).db.claimExport 16 token exportLeaseSeconds now =
      .ok (some (claimedRow token now e), (claimedWorld (claimedRow token now e) (n + 1) phase).db) := by
  have hfind : (claimedWorld e n phase).db.exports.find? (·.id == 16) = some e := by
    simp [claimedWorld, hid.1]
  have hupdate : (claimedWorld e n phase).db.updateExports now (·.id == 16)
      (claimedExport token exportLeaseSeconds now) =
      .ok { (claimedWorld e n phase).db with exports := [claimedRow token now e] } :=
    updateExports_claimedWorld hid.1 (exportUpdateCheck_eq_ok.2 ⟨rfl, hmove, hrow⟩)
  unfold claimExport
  rw [if_neg (by decide), hfind]
  simp only [claimCount_claimedWorld]
  rw [if_neg (by omega), if_pos hopen, hupdate]
  simp [claimedWorld, claimedRow, logExport, hid, List.replicate_succ']

/-- A lost claim of the sample export. -/
theorem claim_lost {e : Export} {n : Nat} {phase : Nat → RunnerPhase} {d : Nat} {token : Uuid}
    {now : Time} (hid : e.id = 16 ∧ e.ownerId = teacher) (hphase : phase d = .waiting)
    (hopen : e.status = .queued ∨ (e.status = .running ∧ e.leaseOver now = true)) (hn : n < 3)
    (hmove : Export.allowedMove now e (claimedRow token now e) = true)
    (hrow : (claimedRow token now e).rowCheck = .ok ()) :
    (claimedWorld e n phase).claim 16 d token false false now =
      claimedWorld (claimedRow token now e) (n + 1) (Function.update phase d .done) := by
  have hwaiting : (claimedWorld e n phase).phase d = .waiting := hphase
  unfold RunnerWorld.claim
  rw [hwaiting, claimExport_claimedWorld hid hopen hn hmove hrow]
  rfl

/-- A claim after the last lease. -/
theorem claim_gaveUp {e : Export} {n : Nat} {phase : Nat → RunnerPhase} {d : Nat} {token : Uuid}
    {now : Time} (hid : e.id = 16) (hphase : phase d = .waiting)
    (hover : e.status = .running ∧ e.leaseOver now = true) (hn : 3 ≤ n)
    (hcheck : exportUpdateCheck now e (failedExport "export_worker_lost" now e) = .ok ()) :
    ((claimedWorld e n phase).claim 16 d token false true now).db.exportRow 16 =
      some (failedExport "export_worker_lost" now e) := by
  have hclaim : (claimedWorld e n phase).db.claimExport 16 token exportLeaseSeconds now =
      .ok (none, { (claimedWorld e n phase).db with
        exports := [failedExport "export_worker_lost" now e] }.logExport e .failed) := by
    have hfind : (claimedWorld e n phase).db.exports.find? (·.id == 16) = some e := by
      simp [claimedWorld, hid]
    unfold claimExport
    rw [if_neg (by decide), hfind]
    simp only [claimCount_claimedWorld]
    rw [if_pos ⟨hover.1, hover.2, hn⟩, updateExports_claimedWorld hid hcheck]
    rfl
  have hwaiting : (claimedWorld e n phase).phase d = .waiting := hphase
  have hrow : (failedExport "export_worker_lost" now e).id = 16 := hid
  unfold RunnerWorld.claim
  rw [hwaiting, hclaim]
  simp [exportRow, logExport, hrow]

/-- Three deliveries claim and are lost, a lease apart. -/
def lostClaims : List (RunnerEvent sampleRuntime) :=
  [.claim 0 31 false false 5, .claim 1 32 false false 600000005,
    .claim 2 33 false false 1200000005]

theorem run_lostClaims (w : RunnerWorld) :
    Runs.run (RunnerWorld.step sampleRuntime noWorkbook 16) w lostClaims =
      ((w.claim 16 0 31 false false 5).claim 16 1 32 false false 600000005).claim 16 2 33 false false
        1200000005 := rfl

/-- The export as the third delivery left it. -/
def thirdClaim : Export :=
  claimedRow 33 1200000005 (claimedRow 32 600000005 (claimedRow 31 5 draftExport))

def thirdPhases : Nat → RunnerPhase :=
  Function.update (Function.update (Function.update (fun _ => .waiting) 0 .done) 1 .done) 2 .done

def deliveries : List (RunnerEvent sampleRuntime) := queueExport.map .elsewhere ++ lostClaims

theorem after_lostClaims : RunnerWorld.after sampleRuntime noWorkbook 16 deliveries =
    claimedWorld thirdClaim 3 thirdPhases := by
  have hqueue : Runs.run (RunnerWorld.step sampleRuntime noWorkbook 16) RunnerWorld.start
      (queueExport.map .elsewhere) = claimedWorld draftExport 0 fun _ => .waiting := by
    rw [elsewhere_db]
    have := after_queueExport
    unfold ExportStore.after at this
    simp only [RunnerWorld.start, this]
    rfl
  have hfirst : (claimedWorld draftExport 0 fun _ => .waiting).claim 16 0 31 false false 5 = _ :=
    claim_lost ⟨rfl, rfl⟩ rfl (.inl rfl) (by decide) rfl (by decide +kernel)
  have hsecond : (claimedWorld (claimedRow 31 5 draftExport) 1
      (Function.update (fun _ => .waiting) 0 .done)).claim 16 1 32 false false 600000005 = _ :=
    claim_lost ⟨rfl, rfl⟩ rfl (.inr ⟨rfl, rfl⟩) (by decide) rfl (by decide +kernel)
  have hthird : (claimedWorld (claimedRow 32 600000005 (claimedRow 31 5 draftExport)) 2
      (Function.update (Function.update (fun _ => .waiting) 0 .done) 1 .done)).claim 16 2 33 false
        false 1200000005 = _ :=
    claim_lost ⟨rfl, rfl⟩ rfl (.inr ⟨rfl, rfl⟩) (by decide) rfl (by decide +kernel)
  unfold RunnerWorld.after deliveries
  rw [Runs.run_append, hqueue, run_lostClaims, hfirst, hsecond, hthird]
  rfl

/-- The claim of a fourth delivery after the lease of the third. -/
def fourthClaim : RunnerEvent sampleRuntime := .claim 3 34 false true 1800000005

theorem run_fourthClaim (w : RunnerWorld) :
    Runs.run (RunnerWorld.step sampleRuntime noWorkbook 16) w [fourthClaim] =
      w.claim 16 3 34 false true 1800000005 := rfl

def lostExport : Export := failedExport "export_worker_lost" 1800000005 thirdClaim

theorem after_fourthClaim :
    (RunnerWorld.after sampleRuntime noWorkbook 16 (deliveries ++ [fourthClaim])).db.exportRow 16 =
      some lostExport := by
  have hcheck : exportUpdateCheck 1800000005 thirdClaim lostExport = .ok () :=
    exportUpdateCheck_eq_ok.2 ⟨rfl, by decide +kernel, by decide +kernel⟩
  rw [RunnerWorld.after_append, after_lostClaims, run_fourthClaim]
  exact claim_gaveUp rfl rfl ⟨rfl, rfl⟩ (by decide) hcheck

theorem deliveries_spare : ∀ ev ∈ deliveries ++ [fourthClaim], ev.sparesExport 16 := by
  have hgrade : ∀ ev ∈ queueExport.map RunnerEvent.elsewhere, ev.sparesExport 16 := by
    intro ev hev
    obtain ⟨a, ha, rfl⟩ := List.mem_map.1 hev
    rcases List.mem_append.1 ha with ha | ha
    · obtain ⟨b, -, rfl⟩ := List.mem_map.1 ha
      trivial
    · obtain rfl := List.mem_singleton.1 ha
      trivial
  intro ev hev
  rcases List.mem_append.1 hev with hev | hev
  · rcases List.mem_append.1 hev with hev | hev
    · exact hgrade ev hev
    · simp only [lostClaims, List.mem_cons, List.not_mem_nil, or_false] at hev
      rcases hev with rfl | rfl | rfl <;> trivial
  · obtain rfl := List.mem_singleton.1 hev
    trivial

/-- A fifth delivery finds nothing to do. -/
theorem fifthClaim_nothing : (RunnerWorld.after sampleRuntime noWorkbook 16
    (deliveries ++ [fourthClaim] ++ [.claim 4 35 false true 1800000006])).db.exportRow 16 =
      some lostExport :=
  ((RunnerWorld.after_deliveries (deliveries ++ [fourthClaim]) deliveries_spare).2.2.1 lostExport
    after_fourthClaim (.inr rfl) [.claim 4 35 false true 1800000006] fun ev hev => by
      obtain rfl := List.mem_singleton.1 hev
      trivial).1

/-- The fourth delivery fails the export without ever holding it. -/
theorem fourthClaim_fails :
    ¬∀ es : List (RunnerEvent sampleRuntime), (∀ ev ∈ es, ev.sparesExport 16) →
      ∀ ev : RunnerEvent sampleRuntime, ev.sparesExport 16 →
        ∀ e, (RunnerWorld.after sampleRuntime noWorkbook 16 (es ++ [ev])).db.exportRow 16 = some e →
          e.status = .completed ∨ e.status = .failed →
          (RunnerWorld.after sampleRuntime noWorkbook 16 es).db.exportRow 16 ≠ some e →
          ∃ old d answered now token,
            (RunnerWorld.after sampleRuntime noWorkbook 16 es).db.exportRow 16 = some old ∧
            Holds old 16 token now ∧
            ((RunnerWorld.after sampleRuntime noWorkbook 16 es).phase d).token? = some token ∧
            (ev = .complete d answered now ∨ ev = .fail d answered now) := by
  intro h
  have hspare := deliveries_spare
  have hold : (RunnerWorld.after sampleRuntime noWorkbook 16 deliveries).db.exportRow 16 ≠
      some lostExport := by
    rw [after_lostClaims]
    intro he
    cases congrArg (Option.map Export.status) he
  obtain ⟨old, d, answered, now, token, -, -, -, hev | hev⟩ :=
    h deliveries (fun ev hev => hspare ev (List.mem_append_left _ hev)) fourthClaim trivial lostExport
      after_fourthClaim (.inr rfl) hold
  · cases hev
  · cases hev

end Sample

end PaperGrading
