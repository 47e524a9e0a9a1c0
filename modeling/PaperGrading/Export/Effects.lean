import PaperGrading.Export.Functions

/-!
# What the export functions do

A worker transaction that returns a row wrote exactly one export and one audit entry
(`Wrote`); `create_export` appends an export with its items or finds the old one.  No
transaction changes the identity of an export or the items of one that is there.

    claim, complete and fail leave the store alone or wrote one row  (claimExport_cases, …)
    exports and their items are kept along every run                             (run_grows)
    the grading tables follow the grading actions alone                       (after_grading)
-/

namespace PaperGrading

open Table

/-! ## Checks -/

theorem exportUpdateCheck_eq_ok {now : Time} {old new : Export} :
    exportUpdateCheck now old new = .ok () ↔ new.toExportIdentity = old.toExportIdentity ∧
      Export.allowedMove now old new = true ∧ new.rowCheck = .ok () := by
  unfold exportUpdateCheck protectExportHistory
  simp only [bind_eq_ok, require_eq_ok, decide_eq_true_eq]
  constructor
  · rintro ⟨_, ⟨_, hid, hmove⟩, hrow⟩
    exact ⟨hid, hmove, hrow⟩
  · rintro ⟨hid, hmove, hrow⟩
    exact ⟨(), ⟨(), hid, hmove⟩, hrow⟩

/-- The moves of an export: `completed` and `failed` have none. -/
theorem Export.allowedMove_status {now : Time} {old new : Export}
    (h : Export.allowedMove now old new = true) : old.status = .queued ∨ old.status = .running := by
  unfold allowedMove at h
  split at h <;> simp_all

namespace ExportStore

variable {env : Runtime} {s s' : ExportStore}

/-! ## Writes -/

theorem exportIds_nodup (hu : exportsUnique s.exports = true) : (s.exports.map (·.id)).Nodup := by
  rw [List.Nodup, List.pairwise_map]
  refine (of_decide_eq_true hu).imp fun {x y} h he => ?_
  simp [exportConflict, he] at h

theorem insertExport_eq_ok {e : Export} :
    s.insertExport e = .ok s' ↔ s' = { s with exports := s.exports ++ [e] } ∧
      e.rowCheck = .ok () ∧ exportsUnique (s.exports ++ [e]) = true := by
  unfold insertExport
  simp only [bind_eq_ok, require_eq_ok, insertRow_eq_ok]
  constructor
  · rintro ⟨rows, ⟨rfl, hchk⟩, _, hu, hret⟩
    cases hret
    exact ⟨rfl, hchk, hu⟩
  · rintro ⟨rfl, hchk, hu⟩
    exact ⟨_, ⟨rfl, hchk⟩, (), hu, rfl⟩

theorem insertExportItem_eq_ok {i : ExportItem} :
    s.insertExportItem i = .ok s' ↔ s' = { s with exportItems := s.exportItems ++ [i] } ∧
      exportItemCheck i = .ok () ∧ exportItemsUnique (s.exportItems ++ [i]) = true := by
  unfold insertExportItem
  simp only [bind_eq_ok, require_eq_ok, insertRow_eq_ok]
  constructor
  · rintro ⟨rows, ⟨rfl, hchk⟩, _, hu, hret⟩
    cases hret
    exact ⟨rfl, hchk, hu⟩
  · rintro ⟨rfl, hchk, hu⟩
    exact ⟨_, ⟨rfl, hchk⟩, (), hu, rfl⟩

/-- One export was written, and its audit entry. -/
structure Wrote (s s' : ExportStore) (now : Time) (old new : Export) (action : ExportAuditAction) :
    Prop where
  old_mem : old ∈ s.exports
  check : exportUpdateCheck now old new = .ok ()
  unique : exportsUnique s'.exports = true
  eq : s' = { s with
    exports := replaceRow (·.id) old new s.exports
    auditLogs := s.auditLogs ++ [⟨old.ownerId, action, old.id⟩] }

theorem updateExports_wrote (hu : exportsUnique s.exports = true) {id : Uuid} {now : Time}
    {set : Export → Export} {old : Export} (hold : old ∈ s.exports) (hid : old.id = id)
    (h : s.updateExports now (·.id == id) set = .ok s') (action : ExportAuditAction) :
    Wrote s (s'.logExport old action) now old (set old) action := by
  unfold updateExports at h
  simp only [bind_eq_ok, require_eq_ok, updateWhere_eq_ok] at h
  obtain ⟨rows, ⟨rfl, hchk⟩, _, hu', hret⟩ := h
  cases hret
  subst hid
  refine ⟨hold, hchk old hold (by simp), hu', ?_⟩
  unfold logExport
  rw [setWhere_eq_replaceRow (exportIds_nodup hu) hold (by simp) fun r _ hr => by simpa using hr]

/-- `claim_export` found nothing to claim, gave up a lost export, or claimed it. -/
theorem claimExport_cases (hu : exportsUnique s.exports = true) {id token : Uuid}
    {leaseSeconds : Nat} {now : Time} {r : Option Export}
    (h : s.claimExport id token leaseSeconds now = .ok (r, s')) :
    (r = none ∧ s' = s) ∨ ∃ old, old.id = id ∧
      ((r = none ∧ old.status = .running ∧ old.leaseOver now = true ∧ 3 ≤ s.claimCount id ∧
          Wrote s s' now old (failedExport "export_worker_lost" now old) .failed) ∨
        (r = some (claimedExport token leaseSeconds now old) ∧
          (old.status = .queued ∨ (old.status = .running ∧ old.leaseOver now = true ∧
            s.claimCount id < 3)) ∧
          Wrote s s' now old (claimedExport token leaseSeconds now old) .claimed)) := by
  unfold claimExport at h
  split at h
  · cases h
    exact .inl ⟨rfl, rfl⟩
  split at h
  · cases h
    exact .inl ⟨rfl, rfl⟩
  next old hfind =>
    have hold := List.mem_of_find?_eq_some hfind
    have hid : old.id = id := by simpa using List.find?_some hfind
    split at h
    next hlost =>
      obtain ⟨s₁, hs₁, hret⟩ := bind_eq_ok.1 h
      cases hret
      exact .inr ⟨old, hid, .inl ⟨rfl, hlost.1, hlost.2.1, hlost.2.2,
        updateExports_wrote hu hold hid hs₁ _⟩⟩
    next hlost =>
      split at h
      next hopen =>
        obtain ⟨s₁, hs₁, hret⟩ := bind_eq_ok.1 h
        cases hret
        refine .inr ⟨old, hid, .inr ⟨rfl, hopen.imp_right fun ⟨hrun, hover⟩ => ⟨hrun, hover, ?_⟩,
          updateExports_wrote hu hold hid hs₁ _⟩⟩
        by_contra hcount
        exact hlost ⟨hrun, hover, by omega⟩
      · cases h
        exact .inl ⟨rfl, rfl⟩

/-- The holder of a running lease. -/
structure Holds (e : Export) (id token : Uuid) (now : Time) : Prop where
  id_eq : e.id = id
  running : e.status = .running
  token_eq : e.claimToken = some token
  lease : e.leaseRuns now = true

theorem heldExport_some {id token : Uuid} {now : Time} {e : Export}
    (h : s.heldExport id token now = some e) : e ∈ s.exports ∧ Holds e id token now := by
  unfold heldExport at h
  have hq := List.find?_some h
  simp only [Bool.and_eq_true, beq_iff_eq] at hq
  exact ⟨List.mem_of_find?_eq_some h, hq.1.1.1, hq.1.1.2, hq.1.2, hq.2⟩

theorem completeExport_cases (hu : exportsUnique s.exports = true) {id token : Uuid}
    {file : ExportFile} {now : Time} {r : Option Export}
    (h : s.completeExport id token file now = .ok (r, s')) :
    (r = none ∧ s' = s) ∨ ∃ old, r = some (completedExport file now old) ∧
      Holds old id token now ∧ file.objectKey = exportObjectKey id ∧
      Wrote s s' now old (completedExport file now old) .completed := by
  unfold completeExport at h
  split at h
  next hfile =>
    split at h
    · cases h
      exact .inl ⟨rfl, rfl⟩
    next old hheld =>
      obtain ⟨hold, hholds⟩ := heldExport_some hheld
      obtain ⟨s₁, hs₁, hret⟩ := bind_eq_ok.1 h
      cases hret
      exact .inr ⟨old, rfl, hholds, hfile.1, updateExports_wrote hu hold hholds.id_eq hs₁ _⟩
  · cases h
    exact .inl ⟨rfl, rfl⟩

theorem failExport_cases (hu : exportsUnique s.exports = true) {id token : Uuid}
    {errorCode : String} {now : Time} {r : Option Export}
    (h : s.failExport id token errorCode now = .ok (r, s')) :
    (r = none ∧ s' = s) ∨ ∃ old, r = some (failedExport errorCode now old) ∧
      Holds old id token now ∧ Wrote s s' now old (failedExport errorCode now old) .failed := by
  unfold failExport at h
  split at h
  · split at h
    · cases h
      exact .inl ⟨rfl, rfl⟩
    next old hheld =>
      obtain ⟨hold, hholds⟩ := heldExport_some hheld
      obtain ⟨s₁, hs₁, hret⟩ := bind_eq_ok.1 h
      cases hret
      exact .inr ⟨old, rfl, hholds, updateExports_wrote hu hold hholds.id_eq hs₁ _⟩
  · cases h
    exact .inl ⟨rfl, rfl⟩

/-! ## Creation -/

/-- The loop appends one row for each item. -/
theorem freezeItems_eq_ok {teacherId : Uuid} {job : GradingJob} {rubric : RubricVersion}
    {exportType : ExportType} {seed : ExportSeed} {items : List GradingJobItem}
    (h : freezeItems teacherId job rubric exportType seed items s = .ok s') :
    ∃ rows : List ExportItem, s' = { s with exportItems := s.exportItems ++ rows } ∧
      (∀ row ∈ rows, row.exportId = seed.id) ∧
      List.Forall₂ (fun item row => s.grading.freezeItem teacherId job rubric exportType item =
        .ok row.toFrozenItem) items rows := by
  induction items generalizing s with
  | nil =>
    cases h
    exact ⟨[], by simp, by simp, .nil⟩
  | cons item rest ih =>
    unfold freezeItems at h
    simp only [bind_eq_ok, insertExportItem_eq_ok] at h
    obtain ⟨frozen, hfrozen, s₁, ⟨rfl, -, -⟩, hrest⟩ := h
    obtain ⟨rows, rfl, hids, hrows⟩ := ih hrest
    refine ⟨_ :: rows, by rw [List.append_assoc]; rfl, fun row hrow => ?_, .cons hfrozen hrows⟩
    rcases List.mem_cons.1 hrow with rfl | hrow
    · rfl
    · exact hids row hrow

/-- The items of the batch in the order of the loop. -/
def sortedRows (s : ExportStore) (teacherId jobId : Uuid) : List GradingJobItem :=
  (s.grading.exportRows teacherId jobId).insertionSort fun x y => x.position ≤ y.position

/-- A new export with its frozen items. -/
structure Created (s s' : ExportStore) (teacherId : Uuid) (q : ExportRequest) (seed : ExportSeed)
    (job : GradingJob) (e : Export) (rows : List ExportItem) : Prop where
  teacher_eq : q.teacher = some teacherId
  fresh : ∀ x ∈ s.exports, x.ownerId = teacherId → x.idempotencyKey ≠ q.idempotencyKey
  job_eq : s.grading.exportableJob teacherId q = .ok job
  rubric_eq : ∃ rubric structured, s.grading.exportRubric teacherId job = .ok (rubric, structured) ∧
    e = queuedExport teacherId q seed job rubric structured ∧
    List.Forall₂ (fun item row => s.grading.freezeItem teacherId job rubric q.exportType item =
      .ok row.toFrozenItem) (s.sortedRows teacherId job.id) rows
  row_ids : ∀ row ∈ rows, row.exportId = seed.id
  unique : exportsUnique (s.exports ++ [e]) = true
  eq : s' = { s with exports := s.exports ++ [e], exportItems := s.exportItems ++ rows }

theorem freezeJob_created {teacherId : Uuid} {q : ExportRequest} {seed : ExportSeed} {e : Export}
    (hteacher : q.teacher = some teacherId)
    (hfresh : ∀ x ∈ s.exports, x.ownerId = teacherId → x.idempotencyKey ≠ q.idempotencyKey)
    (h : s.freezeJob teacherId q seed = .ok (e, s')) :
    ∃ job rows, Created s s' teacherId q seed job e rows := by
  unfold freezeJob at h
  simp only [bind_eq_ok, insertExport_eq_ok] at h
  obtain ⟨job, hjob, ⟨rubric, structured⟩, hrubric, s₁, ⟨rfl, -, hu⟩, s₂, hitems, -, -, hret⟩ := h
  obtain ⟨rows, rfl, hids, hrows⟩ := freezeItems_eq_ok hitems
  cases hret
  exact ⟨job, rows, hteacher, hfresh, hjob, ⟨rubric, structured, hrubric, rfl, hrows⟩, hids, hu, rfl⟩

/-- An export that is the one a request asks for. -/
structure Answers (q : ExportRequest) (e : ExportIdentity) : Prop where
  teacher : q.teacher = some e.ownerId
  key : e.idempotencyKey = q.idempotencyKey
  job : e.gradingJobId = q.gradingJobId
  exportType : e.exportType = q.exportType
  hash : e.requestHash = q.requestHash

/-- `create_export` finds the export of the key, or freezes the batch. -/
theorem createExport_cases {q : ExportRequest} {seed : ExportSeed} {e : Export}
    (h : s.createExport q seed = .ok (e, s')) :
    ∃ teacherId, q.teacher = some teacherId ∧ textOk q.idempotencyKey = true ∧
      ¬(btrimEmpty q.idempotencyKey = true ∨ 200 < q.idempotencyKey.length) ∧
      ((e ∈ s.exports ∧ Answers q e.toExportIdentity ∧ s' = s) ∨
        ∃ job rows, Created s s' teacherId q seed job e rows) := by
  unfold createExport at h
  split at h
  · cases h
  next teacherId hteacher =>
    split at h
    · cases h
    next htext =>
      split at h
      · cases h
      next hkey =>
        refine ⟨teacherId, hteacher, by simpa using htext, hkey, ?_⟩
        split at h
        next existing hfind =>
          have hq := List.find?_some hfind
          simp only [Bool.and_eq_true, beq_iff_eq] at hq
          split at h
          next hsame =>
            obtain ⟨hhash, hjob, htype⟩ := hsame
            cases h
            exact .inl ⟨List.mem_of_find?_eq_some hfind,
              ⟨hteacher.trans (congrArg some hq.1.symm), hq.2, hjob, htype, hhash⟩, rfl⟩
          · cases h
        next hfind =>
          refine .inr (freezeJob_created hteacher (fun x hx ho hi => ?_) h)
          have := List.find?_eq_none.1 hfind x hx
          simp [ho, hi] at this

/-! ## Every step -/

theorem step_of_ok {a : ExportAction env} (h : s.exec env a = .ok s') : step env s a = s' := by
  simp [step, h]

/-- What holds of the store and of every committed successor holds after the step. -/
theorem step_induction {a : ExportAction env} {P : ExportStore → Prop} (h0 : P s)
    (hok : ∀ s', s.exec env a = .ok s' → P s') : P (step env s a) := by
  unfold step
  cases h : s.exec env a with
  | error e => exact h0
  | ok s' => exact hok s' h

theorem map_snd_eq_ok {ε α : Type} {x : Except ε (α × ExportStore)} {s' : ExportStore} :
    ((·.2) <$> x) = .ok s' ↔ ∃ v, x = .ok (v, s') := by
  cases x with
  | error e => simp
  | ok v => exact ⟨fun h => ⟨v.1, by cases h; rfl⟩, fun ⟨w, hw⟩ => by cases hw; rfl⟩

/-- Everything a committed action may have done. -/
theorem exec_cases (hu : exportsUnique s.exports = true) {a : ExportAction env}
    (h : s.exec env a = .ok s') :
    (∃ b grading, a = .grading b ∧ s.grading.exec env b = .ok grading ∧
        s' = { s with grading }) ∨
      (s' = s ∧ ∀ b, a ≠ .grading b) ∨
      (∃ teacherId q seed job e rows, a = .createExport q seed ∧
        Created s s' teacherId q seed job e rows) ∨
      ((∀ b, a ≠ .grading b) ∧ ∃ now old new action, Wrote s s' now old new action) := by
  cases a with
  | grading b =>
    cases hb : s.grading.exec env b with
    | error e => simp [exec, hb] at h
    | ok grading =>
      simp only [exec, hb] at h
      cases h
      exact .inl ⟨b, grading, rfl, hb, rfl⟩
  | createExport q seed =>
    obtain ⟨e, h⟩ := map_snd_eq_ok.1 h
    obtain ⟨teacherId, -, -, -, ⟨-, -, rfl⟩ | ⟨job, rows, hc⟩⟩ := createExport_cases h
    · exact .inr (.inl ⟨rfl, by simp⟩)
    · exact .inr (.inr (.inl ⟨teacherId, q, seed, job, e, rows, rfl, hc⟩))
  | claimExport id token leaseSeconds now =>
    obtain ⟨r, h⟩ := map_snd_eq_ok.1 h
    rcases claimExport_cases hu h with ⟨-, rfl⟩ | ⟨old, -, ⟨-, -, -, -, hw⟩ | ⟨-, -, hw⟩⟩
    · exact .inr (.inl ⟨rfl, by simp⟩)
    · exact .inr (.inr (.inr ⟨by simp, _, _, _, _, hw⟩))
    · exact .inr (.inr (.inr ⟨by simp, _, _, _, _, hw⟩))
  | completeExport id token file now =>
    obtain ⟨r, h⟩ := map_snd_eq_ok.1 h
    rcases completeExport_cases hu h with ⟨-, rfl⟩ | ⟨old, -, -, -, hw⟩
    · exact .inr (.inl ⟨rfl, by simp⟩)
    · exact .inr (.inr (.inr ⟨by simp, _, _, _, _, hw⟩))
  | failExport id token errorCode now =>
    obtain ⟨r, h⟩ := map_snd_eq_ok.1 h
    rcases failExport_cases hu h with ⟨-, rfl⟩ | ⟨old, -, -, hw⟩
    · exact .inr (.inl ⟨rfl, by simp⟩)
    · exact .inr (.inr (.inr ⟨by simp, _, _, _, _, hw⟩))

/-! ## What every step keeps -/

/-- The unique indexes, and that every frozen item belongs to an export. -/
structure Sound (s : ExportStore) : Prop where
  unique : exportsUnique s.exports = true
  owned : ∀ i ∈ s.exportItems, ∃ e ∈ s.exports, e.id = i.exportId

/-- Exports keep their identity and their items. -/
structure Grows (s s' : ExportStore) : Prop where
  exports : ∀ e ∈ s.exports, ∃ e' ∈ s'.exports, e'.toExportIdentity = e.toExportIdentity
  items : ∀ e ∈ s.exports, s'.itemsOf e.id = s.itemsOf e.id

theorem Grows.refl (s : ExportStore) : Grows s s := ⟨fun e he => ⟨e, he, rfl⟩, fun _ _ => rfl⟩

theorem Grows.trans {t : ExportStore} (h : Grows s s') (h' : Grows s' t) : Grows s t := by
  refine ⟨fun e he => ?_, fun e he => ?_⟩
  · obtain ⟨e', he', hid⟩ := h.exports e he
    obtain ⟨e'', he'', hid'⟩ := h'.exports e' he'
    exact ⟨e'', he'', hid'.trans hid⟩
  · obtain ⟨e', he', hid⟩ := h.exports e he
    have hkept := h'.items e' he'
    rw [congrArg ExportIdentity.id hid] at hkept
    exact hkept.trans (h.items e he)

theorem Wrote.identity {now : Time} {old new : Export} {action : ExportAuditAction}
    (h : Wrote s s' now old new action) : new.toExportIdentity = old.toExportIdentity :=
  (exportUpdateCheck_eq_ok.1 h.check).1

theorem Wrote.grows {now : Time} {old new : Export} {action : ExportAuditAction}
    (h : Wrote s s' now old new action) : Grows s s' := by
  rw [h.eq]
  refine ⟨fun e he => ?_, fun _ _ => rfl⟩
  by_cases hid : e.id = old.id
  · refine ⟨new, (mem_replaceRow h.old_mem).2 (.inl rfl), ?_⟩
    have hu : (s.exports.map (·.id)).Nodup := by
      have hn : ((replaceRow (·.id) old new s.exports).map (·.id)).Nodup := by
        have := exportIds_nodup h.unique
        rw [h.eq] at this
        exact this
      have hmap : (replaceRow (·.id) old new s.exports).map (·.id) = s.exports.map (·.id) :=
        map_setWhere _ _ _ _ fun r _ hr => by
          rw [congrArg ExportIdentity.id h.identity]
          exact (beq_iff_eq.1 hr).symm
      rwa [hmap] at hn
    rw [h.identity, eq_of_key_eq hu he h.old_mem hid]
  · exact ⟨e, (mem_replaceRow h.old_mem).2 (.inr ⟨he, hid⟩), rfl⟩

theorem Created.grows (hs : s.Sound) {teacherId : Uuid} {q : ExportRequest} {seed : ExportSeed}
    {job : GradingJob} {e : Export} {rows : List ExportItem}
    (h : Created s s' teacherId q seed job e rows) :
    Grows s s' ∧ e ∈ s'.exports ∧ s'.itemsOf e.id = rows := by
  obtain ⟨rubric, structured, -, rfl, -⟩ := h.rubric_eq
  have hids := exportIds_nodup (s := { s with exports := s.exports ++ [queuedExport teacherId q seed
    job rubric structured] }) h.unique
  have hnew : ∀ x ∈ s.exports, x.id ≠ seed.id := by
    intro x hx he
    rw [List.map_append, List.nodup_append] at hids
    exact hids.2.2 x.id (List.mem_map_of_mem hx) _ (List.mem_singleton.2 rfl) he
  rw [h.eq]
  refine ⟨⟨fun x hx => ⟨x, List.mem_append_left _ hx, rfl⟩, fun x hx => ?_⟩,
    List.mem_append_right _ (List.mem_singleton.2 rfl), ?_⟩
  · unfold itemsOf
    rw [List.filter_append, List.append_right_eq_self, List.filter_eq_nil_iff]
    intro row hrow he
    exact hnew x hx ((beq_iff_eq.1 he).symm.trans (h.row_ids row hrow))
  · unfold itemsOf
    have hold : s.exportItems.filter (·.exportId == seed.id) = [] := by
      rw [List.filter_eq_nil_iff]
      intro row hrow he
      obtain ⟨x, hx, hid⟩ := hs.owned row hrow
      exact hnew x hx (hid.trans (beq_iff_eq.1 he))
    have hall : rows.filter (·.exportId == seed.id) = rows :=
      List.filter_eq_self.2 fun row hrow => by simpa using h.row_ids row hrow
    show (s.exportItems ++ rows).filter (·.exportId == seed.id) = rows
    rw [List.filter_append, hold, hall, List.nil_append]

theorem step_sound (hs : s.Sound) (a : ExportAction env) :
    (step env s a).Sound ∧ Grows s (step env s a) := by
  refine step_induction (P := fun t => t.Sound ∧ Grows s t) ⟨hs, .refl s⟩ fun s' h => ?_
  rcases exec_cases hs.unique h with ⟨b, grading, -, -, rfl⟩ | ⟨rfl, -⟩ |
    ⟨teacherId, q, seed, job, e, rows, -, hc⟩ | ⟨-, now, old, new, action, hw⟩
  · exact ⟨⟨hs.unique, hs.owned⟩, ⟨fun e he => ⟨e, he, rfl⟩, fun _ _ => rfl⟩⟩
  · exact ⟨hs, .refl _⟩
  · obtain ⟨hgrows, -, -⟩ := hc.grows hs
    refine ⟨⟨?_, fun i hi => ?_⟩, hgrows⟩
    · rw [hc.eq]
      exact hc.unique
    · rw [hc.eq] at hi ⊢
      rcases List.mem_append.1 hi with hold | hnew
      · obtain ⟨x, hx, hid⟩ := hs.owned i hold
        exact ⟨x, List.mem_append_left _ hx, hid⟩
      · obtain ⟨rubric, structured, -, rfl, -⟩ := hc.rubric_eq
        exact ⟨_, List.mem_append_right _ (List.mem_singleton.2 rfl), (hc.row_ids i hnew).symm⟩
  · refine ⟨⟨hw.unique, fun i hi => ?_⟩, hw.grows⟩
    have hitems : s'.exportItems = s.exportItems := by rw [hw.eq]
    obtain ⟨x, hx, hid⟩ := hs.owned i (hitems ▸ hi)
    obtain ⟨x', hx', hident⟩ := hw.grows.exports x hx
    exact ⟨x', hx', (congrArg ExportIdentity.id hident).trans hid⟩

theorem run_sound (hs : s.Sound) (as : List (ExportAction env)) : (Runs.run (step env) s as).Sound :=
  Runs.run_invariant as hs fun _ a ht => (step_sound ht a).1

/-- **Exports keep their identity and their items** along every run. -/
theorem run_grows (hs : s.Sound) (as : List (ExportAction env)) :
    Grows s (Runs.run (step env) s as) :=
  Runs.run_mono as hs Grows.refl Grows.trans (fun _ a ht => (step_sound ht a).1)
    fun _ a ht => (step_sound ht a).2

theorem after_sound (as : List (ExportAction env)) : (after env as).Sound :=
  run_sound ⟨rfl, by simp [empty]⟩ as

/-! ## The grading tables -/

/-- The grading action of an action. -/
def gradingAction : ExportAction env → Option (Action env)
  | .grading b => some b
  | _ => none

theorem step_grading (hs : s.Sound) (a : ExportAction env) :
    (step env s a).grading = ((gradingAction a).map (Store.step env s.grading)).getD s.grading := by
  unfold step
  cases h : s.exec env a with
  | error e =>
    cases a with
    | grading b =>
      cases hb : s.grading.exec env b with
      | error e' => simp [gradingAction, Store.step, hb]
      | ok grading => simp [exec, hb] at h
    | _ => rfl
  | ok s' =>
    rcases exec_cases hs.unique h with ⟨b, grading, rfl, hb, rfl⟩ | ⟨rfl, hne⟩ |
      ⟨teacherId, q, seed, job, e, rows, rfl, hc⟩ | ⟨hne, now, old, new, action, hw⟩
    · simp [gradingAction, Store.step, hb]
    · cases a with
      | grading b => exact absurd rfl (hne b)
      | _ => rfl
    · show s'.grading = s.grading
      rw [hc.eq]
    · cases a with
      | grading b => exact absurd rfl (hne b)
      | _ =>
        show s'.grading = s.grading
        rw [hw.eq]

/-- The grading tables are those of a run of the grading machine. -/
theorem after_grading (as : List (ExportAction env)) :
    (after env as).grading = Store.after env (as.filterMap gradingAction) := by
  unfold after Store.after
  have hs : empty.Sound := ⟨rfl, by simp [empty]⟩
  have hgrading : empty.grading = Store.empty := rfl
  rw [← hgrading]
  generalize empty = s at hs
  induction as generalizing s with
  | nil => rfl
  | cons a as ih =>
    have hstep := step_grading hs a
    rw [Runs.run_cons, ih _ (step_sound hs a).1, hstep]
    cases ha : gradingAction a with
    | none => rw [List.filterMap_cons_none ha]; rfl
    | some b => rw [List.filterMap_cons_some ha]; rfl

end ExportStore

end PaperGrading
