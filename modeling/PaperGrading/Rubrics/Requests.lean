import PaperGrading.Rubrics.Effects
import PaperGrading.Store.Commits

/-!
# Generating, editing and confirming a draft

`structure_rubric`, `update_structured_rubric` and `confirm_rubric` each read the draft in
one transaction and write it in a later one; a generation asks the provider in between.
The later transaction asks whether the version still is a draft, whether the provider is
as it was, and never whether the content is.

    every save, edit and confirmation finds the draft as its request has read it  →
      a successful write is replaced only by a request that had seen it, and what a
      confirmation freezes is what it had read                              (run_keepsContent)
    a slow generation replaces an edit that has been reported as a success     (lost_edit)
-/

namespace PaperGrading

open Table

/-! ## Requests -/

inductive DraftRequestKind (env : Runtime) where
  | generate (providerId : Uuid)
  | edit (structured : ValidRubric env)
  | confirm

inductive DraftPhase (env : Runtime) where
  | read
  /-- the provider has been asked -/
  | asked (providerId : Uuid) (configVersion : Nat) (model : String)
  | generated (providerId : Uuid) (configVersion : Nat) (model : String)
    (structured : ValidRubric env)
  | saved | confirmed | failed

/-- A request that has read its draft and found nothing wrong with it. -/
structure DraftRequest (env : Runtime) where
  ownerId : Uuid
  assignmentId : Uuid
  kind : DraftRequestKind env
  draft : RubricVersion
  /-- how many saves and edits had been committed when it read the draft -/
  seen : Nat
  phase : DraftPhase env

/-- A save or an edit that was reported as a success. -/
structure ContentWrite where
  rubricId : Uuid
  writer : Nat
  content : StructuredRubric
  deriving DecidableEq

structure DraftWorld (env : Runtime) where
  store : Store
  requests : List (DraftRequest env)
  writes : List ContentWrite

/-- The actions of the three requests. -/
def Action.writesContent {env : Runtime} : Action env → Bool
  | .saveGeneratedRubric .. | .updateStructuredRubric .. | .confirmRubric .. => true
  | _ => false

inductive DraftEvent (env : Runtime) where
  | begin (ownerId assignmentId rubricId : Uuid) (kind : DraftRequestKind env)
  | ask (k : Nat)
  | answer (k : Nat) (structured : Option (ValidRubric env))
  | write (k : Nat) (now : Time)
  /-- only the three requests write the content of a draft or confirm it -/
  | elsewhere (action : Action env) (other : action.writesContent = false)

/-- What the service checks of the draft before it goes on. -/
def DraftRequestKind.accepts {env : Runtime} (draft : RubricVersion) :
    DraftRequestKind env → Bool
  | .generate _ => draft.status == .draft
  | .edit structured =>
    draft.status == .draft && draft.providerConfigId.isSome && draft.model.isSome &&
      decide (structured.rubric.totalScore.toRat = draft.totalScore) &&
      decide (structured.rubric.scoreStep.toRat = draft.scoreStep)
  | .confirm =>
    draft.status == .draft && draft.structuredRubric.isSome && draft.providerConfigId.isSome &&
      draft.model.isSome

namespace DraftWorld

variable {env : Runtime}

def setPhase (k : Nat) (q : DraftRequest env) (phase : DraftPhase env) (w : DraftWorld env) :
    DraftWorld env :=
  { w with requests := w.requests.set k { q with phase } }

/-- The first transaction of a request; one that is refused here leaves no trace. -/
def begin (ownerId assignmentId rubricId : Uuid) (kind : DraftRequestKind env)
    (w : DraftWorld env) : DraftWorld env :=
  match w.store.findAssignment ownerId assignmentId, w.store.rubrics.find? (fun r =>
      r.assignmentId == assignmentId && r.ownerId == ownerId && r.id == rubricId) with
  | some a, some draft =>
    if a.status ≠ .archived ∧ kind.accepts draft = true then
      { w with
        requests := w.requests ++ [⟨ownerId, assignmentId, kind, draft, w.writes.length, .read⟩] }
    else w
  | _, _ => w

/-- `structure_rubric` reads the provider and asks it. -/
def ask (k : Nat) (w : DraftWorld env) : DraftWorld env :=
  match w.requests[k]? with
  | some q =>
    match q.kind, q.phase with
    | .generate providerId, .read =>
      match w.store.providers.find? (·.id == providerId) with
      | some p =>
        match p.encryptedApiKey, p.apiKeyNonce, p.defaultModel with
        | some key, some nonce, some model =>
          if p.status = .enabled ∧ p.testedAt.isSome ∧
              p.testedConfigVersion = some p.configVersion ∧ (env.decrypt key nonce p.id).isSome then
            w.setPhase k q (.asked p.id p.configVersion model)
          else w.setPhase k q .failed
        | _, _, _ => w.setPhase k q .failed
      | none => w.setPhase k q .failed
    | _, _ => w
  | none => w

/-- The generator returns a rubric that the Python model has accepted, or fails. -/
def answer (k : Nat) (structured : Option (ValidRubric env)) (w : DraftWorld env) :
    DraftWorld env :=
  match w.requests[k]? with
  | some q =>
    match q.phase, structured with
    | .asked providerId version model, some x =>
      w.setPhase k q (.generated providerId version model x)
    | .asked .., none => w.setPhase k q .failed
    | _, _ => w
  | none => w

/-- The last transaction wrote `content`, or found nothing to write. -/
def finishSave (k : Nat) (q : DraftRequest env) (content : StructuredRubric)
    (result : Except TxError (Bool × Store)) (w : DraftWorld env) : DraftWorld env :=
  match result with
  | .ok (true, store) =>
    { store, requests := w.requests.set k { q with phase := .saved }
      writes := w.writes ++ [⟨q.draft.id, k, content⟩] }
  | .ok (false, _) | .error _ => w.setPhase k q .failed

def finishConfirm (k : Nat) (q : DraftRequest env) (result : Except TxError (Bool × Store))
    (w : DraftWorld env) : DraftWorld env :=
  match result with
  | .ok (true, store) => { w with store, requests := w.requests.set k { q with phase := .confirmed } }
  | .ok (false, _) | .error _ => w.setPhase k q .failed

/-- The last transaction of a request. -/
def write (k : Nat) (now : Time) (w : DraftWorld env) : DraftWorld env :=
  match w.requests[k]? with
  | some q =>
    match q.kind, q.phase with
    | .generate _, .generated providerId version model structured =>
      w.finishSave k q structured.rubric (w.store.saveGeneratedRubric env q.ownerId q.assignmentId
        q.draft.id providerId version model structured)
    | .edit structured, .read =>
      w.finishSave k q structured.rubric (w.store.updateStructuredRubric env q.ownerId
        q.assignmentId q.draft.id structured)
    | .confirm, .read =>
      match q.draft.providerConfigId, q.draft.model with
      | some providerId, some model =>
        w.finishConfirm k q (w.store.confirmRubric env q.ownerId q.assignmentId q.draft.id
          providerId model now)
      | _, _ => w.setPhase k q .failed
    | _, _ => w
  | none => w

def step (w : DraftWorld env) : DraftEvent env → DraftWorld env
  | .begin ownerId assignmentId rubricId kind => w.begin ownerId assignmentId rubricId kind
  | .ask k => w.ask k
  | .answer k structured => w.answer k structured
  | .write k now => w.write k now
  | .elsewhere action _ => { w with store := Store.step env w.store action }

def after (env : Runtime) (es : List (DraftEvent env)) : DraftWorld env :=
  Runs.run step ⟨.empty, [], []⟩ es

/-! ## What is asked of the content -/

/-- A successful write is replaced only by a request that read the draft after it. -/
def ReplacedInOrder (w : DraftWorld env) : Prop :=
  ∀ (i j : Nat) (x y : ContentWrite), i < j → w.writes[i]? = some x → w.writes[j]? = some y →
    x.rubricId = y.rubricId →
      ∃ q : DraftRequest env, w.requests[y.writer]? = some q ∧ i < q.seen

/-- A confirmation freezes what its own request has read. -/
def FrozenAsRead (w : DraftWorld env) : Prop :=
  ∀ (k : Nat) (q : DraftRequest env), w.requests[k]? = some q → q.phase = .confirmed →
    ∃ row ∈ w.store.rubrics, row.toRubricIdentity = q.draft.toRubricIdentity ∧
      row.status ≠ .draft ∧ row.toRubricContent = { q.draft.toRubricContent with confirmedAt := row.confirmedAt }

/-- The content of a version is what was last written to it. -/
def Logged (w : DraftWorld env) : Prop :=
  ∀ row ∈ w.store.rubrics, row.structuredRubric =
    ((w.writes.filter (·.rubricId == row.id)).getLast?).map (·.content)

/-- The last transaction of the request finds the rows it asks for. -/
def Reaches (w : DraftWorld env) (q : DraftRequest env) : Bool :=
  match w.store.editableDraft q.ownerId q.assignmentId q.draft.id, q.kind, q.phase with
  | some _, .generate _, .generated providerId version model _ =>
    (w.store.testedProvider providerId model).any (·.configVersion == version)
  | some draft, .edit _, .read => draft.providerConfigId.isSome && draft.model.isSome
  | some draft, .confirm, .read =>
    draft.providerConfigId == q.draft.providerConfigId && draft.model == q.draft.model &&
      draft.structuredRubric.isSome
  | _, _, _ => false

/-- The draft is as the request has read it: for a save or an edit no other write has come
in between, for a confirmation the content is the same. -/
def AsRead (w : DraftWorld env) (q : DraftRequest env) : Prop :=
  match q.kind with
  | .confirm => ∀ row ∈ w.store.rubrics, row.id = q.draft.id →
      row.structuredRubric = q.draft.structuredRubric
  | _ => ∀ x ∈ w.writes.drop q.seen, x.rubricId ≠ q.draft.id

/-- The last transactions of all requests come while the draft is as it was read. -/
def Fresh (w : DraftWorld env) : DraftEvent env → Prop
  | .write k _ => ∀ q ∈ w.requests[k]?, w.Reaches q = true → w.AsRead q
  | _ => True

instance decidableAsRead (w : DraftWorld env) (q : DraftRequest env) : Decidable (w.AsRead q) :=
  match h : q.kind with
  | .confirm => decidable_of_iff (∀ row ∈ w.store.rubrics, row.id = q.draft.id →
      row.structuredRubric = q.draft.structuredRubric) (by simp only [AsRead, h])
  | .generate _ | .edit _ => decidable_of_iff (∀ x ∈ w.writes.drop q.seen, x.rubricId ≠ q.draft.id)
      (by simp only [AsRead, h])

instance decidableFresh (w : DraftWorld env) : ∀ e, Decidable (w.Fresh e)
  | .write k _ =>
    match h : w.requests[k]? with
    | some q => decidable_of_iff (w.Reaches q = true → w.AsRead q) (by simp [Fresh, h])
    | none => .isTrue (by simp [Fresh, h])
  | .begin .. | .ask _ | .answer .. | .elsewhere .. => .isTrue trivial

/-! ## One event -/

/-- The columns that no transaction writes. -/
def rawRubric (r : RubricVersion) : RubricIdentity × String × ℚ × ℚ :=
  (r.toRubricIdentity, r.originalRubric, r.totalScore, r.scoreStep)

theorem rawRubric_id {r x : RubricVersion} (h : rawRubric r = rawRubric x) : r.id = x.id :=
  congrArg (fun v => v.1.id) h

/-- What an event does; `fresh` is what the guard of the run says of it. -/
inductive DraftMove (w : DraftWorld env) (fresh : Prop) : DraftWorld env → Prop
  | same : DraftMove w fresh w
  | began {q : DraftRequest env} (hq : q.draft ∈ w.store.rubrics)
    (hseen : q.seen = w.writes.length) (hphase : q.phase = .read) :
    DraftMove w fresh { w with requests := w.requests ++ [q] }
  | moved {k : Nat} {q : DraftRequest env} {phase : DraftPhase env}
    (hk : w.requests[k]? = some q) (hphase : phase ≠ .confirmed) :
    DraftMove w fresh (w.setPhase k q phase)
  | grown {store : Store} {added : List RubricVersion} (hs : Store.Sound env store)
    (hstore : store.rubrics = w.store.rubrics ++ added)
    (hadded : ∀ r ∈ added, r.structuredRubric = none) : DraftMove w fresh { w with store }
  | saved {k : Nat} {q : DraftRequest env} {draft row : RubricVersion} {content : StructuredRubric}
    {store : Store} (hk : w.requests[k]? = some q) (hs : Store.Sound env store)
    (hedit : Store.Editable w.store q.ownerId q.assignmentId q.draft.id draft)
    (hraw : rawRubric row = rawRubric draft) (hrow : row.structuredRubric = some content)
    (hstore : store.rubrics = replaceRow (·.id) draft row w.store.rubrics)
    (hfresh : fresh → ∀ x ∈ w.writes.drop q.seen, x.rubricId ≠ q.draft.id) :
    DraftMove w fresh { store, requests := w.requests.set k { q with phase := .saved }
                        writes := w.writes ++ [⟨q.draft.id, k, content⟩] }
  | confirmed {k : Nat} {q : DraftRequest env} {draft : RubricVersion} {store : Store} {now : Time}
    (hk : w.requests[k]? = some q) (hs : Store.Sound env store)
    (hedit : Store.Editable w.store q.ownerId q.assignmentId q.draft.id draft)
    (hread : draft.providerConfigId = q.draft.providerConfigId ∧ draft.model = q.draft.model)
    (hstore : store.rubrics =
      w.store.rubrics.map (Store.afterConfirm q.ownerId q.assignmentId q.draft.id now))
    (hfresh : fresh → draft.structuredRubric = q.draft.structuredRubric) :
    DraftMove w fresh { w with store, requests := w.requests.set k { q with phase := .confirmed } }

variable {w : DraftWorld env}

theorem begin_move (ownerId assignmentId rubricId : Uuid) (kind : DraftRequestKind env)
    (fresh : Prop) : DraftMove w fresh (w.begin ownerId assignmentId rubricId kind) := by
  unfold DraftWorld.begin
  split
  next hfind =>
    split
    · exact .began (List.mem_of_find?_eq_some hfind) rfl rfl
    · exact .same
  · exact .same

theorem ask_move (k : Nat) (fresh : Prop) : DraftMove w fresh (w.ask k) := by
  unfold ask
  split
  next q hk =>
    split
    · split
      · split
        · split
          · exact .moved hk (by simp)
          · exact .moved hk (by simp)
        · exact .moved hk (by simp)
      · exact .moved hk (by simp)
    · exact .same
  · exact .same

theorem answer_move (k : Nat) (structured : Option (ValidRubric env)) (fresh : Prop) :
    DraftMove w fresh (w.answer k structured) := by
  unfold answer
  split
  next q hk =>
    split
    · exact .moved hk (by simp)
    · exact .moved hk (by simp)
    · exact .same
  · exact .same

/-- Where only the three requests write content, the other actions add versions without any. -/
theorem exec_grows {s s' : Store} (hs : Store.Sound env s) {a : Action env}
    (ha : a.writesContent = false) (h : s.exec env a = .ok s') :
    ∃ added, s'.rubrics = s.rubrics ++ added ∧ ∀ r ∈ added, r.structuredRubric = none := by
  have hsame (h : s'.rubrics = s.rubrics) :
      ∃ added, s'.rubrics = s.rubrics ++ added ∧ ∀ r ∈ added, r.structuredRubric = none :=
    ⟨[], by simp [h], by simp⟩
  by_cases harea : a.area = .rubrics
  · cases a with
    | createAssignment =>
      obtain ⟨-, -, r, hr⟩ := Store.createAssignment_eq h
      exact ⟨[r], hr.rubrics, by simpa using hr.structured⟩
    | updateAssignment =>
      obtain ⟨_, h⟩ := Store.map_snd_eq_ok.1 h
      rcases Store.updateAssignment_cases h with rfl | rfl <;> exact hsame rfl
    | updateAssignmentStatus =>
      obtain ⟨_, h⟩ := Store.map_snd_eq_ok.1 h
      rcases Store.updateAssignmentStatus_cases h with rfl | ⟨_, rfl, -⟩ <;> exact hsame rfl
    | createRubricDraft =>
      obtain ⟨_, h⟩ := Store.map_snd_eq_ok.1 h
      rcases Store.createRubricDraft_cases h with rfl | ⟨-, -, -, r, hr⟩
      · exact hsame rfl
      · exact ⟨[r], hr.rubrics, by simpa using hr.structured⟩
    | saveGeneratedRubric | updateStructuredRubric | confirmRubric => cases ha
    | _ => cases harea
  · refine hsame ?_
    have hframe := Store.exec_frame hs h
    cases hb : a.area with
    | rubrics => exact absurd hb harea
    | providers | submissions =>
      rw [hb] at hframe
      rw [hframe]
    | grading =>
      rw [hb] at hframe
      exact hframe.2.1

theorem elsewhere_move (hs : Store.Sound env w.store) {a : Action env}
    (ha : a.writesContent = false) (fresh : Prop) :
    DraftMove w fresh { w with store := Store.step env w.store a } := by
  have hsound : Store.Sound env (Store.step env w.store a) :=
    (Store.step_moves (R := fun _ _ => True) hs (Store.failureIs_true a)).2
  obtain ⟨added, hstore, hadded⟩ := Store.step_induction
    (P := fun s => ∃ added, s.rubrics = w.store.rubrics ++ added ∧
      ∀ r ∈ added, r.structuredRubric = none) (s := w.store) (a := a)
    ⟨[], by simp, by simp⟩ fun s' h => exec_grows hs ha h
  exact .grown hsound hstore hadded

theorem exec_sound {s s' : Store} (hs : Store.Sound env s) {a : Action env}
    (h : s.exec env a = .ok s') : Store.Sound env s' := by
  rw [← Store.step_of_ok h]
  exact (Store.step_moves (R := fun _ _ => True) hs (Store.failureIs_true a)).2

/-! ## The last transaction -/

theorem saved_reaches {q : DraftRequest env} {providerId provider : Uuid} {version : Nat}
    {model : String} {structured : ValidRubric env} {s' : Store} (hkind : q.kind = .generate provider)
    (hphase : q.phase = .generated providerId version model structured)
    (h : w.store.saveGeneratedRubric env q.ownerId q.assignmentId q.draft.id providerId version model
      structured = .ok (true, s')) : w.Reaches q = true := by
  unfold Store.saveGeneratedRubric at h
  split at h
  next p draft hp hdraft =>
    split at h
    next hversion =>
      unfold Reaches
      rw [hdraft, hkind, hphase]
      simp [hp, hversion]
    · cases h
  · cases h

theorem edited_reaches {q : DraftRequest env} {structured : ValidRubric env} {s' : Store}
    (hkind : q.kind = .edit structured) (hphase : q.phase = .read)
    (h : w.store.updateStructuredRubric env q.ownerId q.assignmentId q.draft.id structured =
      .ok (true, s')) : w.Reaches q = true := by
  unfold Store.updateStructuredRubric at h
  split at h
  · cases h
  next draft hdraft =>
    split at h
    next hgenerated =>
      unfold Reaches
      rw [hdraft, hkind, hphase]
      simpa using hgenerated
    · cases h

theorem confirmed_reaches {q : DraftRequest env} {providerId : Uuid} {model : String} {now : Time}
    {s' : Store} (hkind : q.kind = .confirm) (hphase : q.phase = .read)
    (hprovider : q.draft.providerConfigId = some providerId) (hmodel : q.draft.model = some model)
    (h : w.store.confirmRubric env q.ownerId q.assignmentId q.draft.id providerId model now =
      .ok (true, s')) : w.Reaches q = true := by
  unfold Store.confirmRubric at h
  split at h
  next draft _ _ hdraft =>
    split at h
    next hread =>
      unfold Reaches
      rw [hdraft, hkind, hphase]
      simp [hprovider, hmodel, hread.1, hread.2.1, hread.2.2]
    · cases h
  · cases h

/-- A save or an edit. -/
theorem finishSave_move {k : Nat} {q : DraftRequest env} {content : StructuredRubric}
    {result : Except TxError (Bool × Store)} {fresh : Prop} (hk : w.requests[k]? = some q)
    (hresult : ∀ store, result = .ok (true, store) → Store.Sound env store ∧
      ∃ draft row, Store.Editable w.store q.ownerId q.assignmentId q.draft.id draft ∧
        rawRubric row = rawRubric draft ∧ row.structuredRubric = some content ∧
        store.rubrics = replaceRow (·.id) draft row w.store.rubrics ∧
        (fresh → ∀ x ∈ w.writes.drop q.seen, x.rubricId ≠ q.draft.id)) :
    DraftMove w fresh (w.finishSave k q content result) := by
  unfold finishSave
  split
  next store =>
    obtain ⟨hs, draft, row, hedit, hraw, hrow, hstore, hfresh⟩ := hresult store rfl
    exact .saved hk hs hedit hraw hrow hstore hfresh
  · exact .moved hk (by simp)
  · exact .moved hk (by simp)

theorem write_move (hs : Store.Sound env w.store) (k : Nat) (now : Time) :
    DraftMove w (Fresh w (.write k now)) (w.write k now) := by
  unfold DraftWorld.write
  split
  next q hk =>
    -- what the guard says of a request that reaches its draft
    have hread (hreach : w.Reaches q = true) (hfresh : Fresh w (.write k now)) : w.AsRead q :=
      hfresh q hk hreach
    split
    next providerId version model structured hkind hphase =>
      refine finishSave_move hk fun store h => ?_
      refine ⟨exec_sound (a := .saveGeneratedRubric ..) hs (Store.map_snd_eq_ok.2 ⟨_, h⟩), ?_⟩
      rcases Store.saveGeneratedRubric_cases hs h with ⟨hfalse, -⟩ | ⟨-, draft, hedit, rfl⟩
      · cases hfalse
      · refine ⟨draft, Store.generatedRubric draft providerId model structured.rubric, hedit, rfl, rfl,
          rfl, fun hfresh => ?_⟩
        have := hread (saved_reaches hkind hphase h) hfresh
        rwa [AsRead, hkind] at this
    next structured hkind hphase =>
      refine finishSave_move hk fun store h => ?_
      refine ⟨exec_sound (a := .updateStructuredRubric ..) hs (Store.map_snd_eq_ok.2 ⟨_, h⟩), ?_⟩
      rcases Store.updateStructuredRubric_cases hs h with ⟨hfalse, -⟩ | ⟨-, draft, hedit, -, -, rfl⟩
      · cases hfalse
      · refine ⟨draft, Store.editedRubric draft structured.rubric, hedit, rfl, rfl, rfl,
          fun hfresh => ?_⟩
        have := hread (edited_reaches hkind hphase h) hfresh
        rwa [AsRead, hkind] at this
    next hkind hphase =>
      split
      next providerId model hprovider hmodel =>
        unfold finishConfirm
        split
        next store h =>
          rcases Store.confirmRubric_cases hs h with ⟨hfalse, -⟩ | ⟨-, draft, hc⟩
          · cases hfalse
          · refine .confirmed hk (exec_sound (a := .confirmRubric ..) hs
              (Store.map_snd_eq_ok.2 ⟨_, h⟩)) hc.editable ⟨hc.generated.1.trans hprovider.symm,
              hc.generated.2.trans hmodel.symm⟩ (by rw [hc.eq]) fun hfresh => ?_
            have := hread (confirmed_reaches hkind hphase hprovider hmodel h) hfresh
            rw [AsRead, hkind] at this
            exact this draft hc.editable.mem hc.editable.id
        · exact .moved hk (by simp)
        · exact .moved hk (by simp)
      · exact .moved hk (by simp)
    · exact .same
  · exact .same

/-- **What an event does.** -/
theorem step_move (hs : Store.Sound env w.store) (e : DraftEvent env) :
    DraftMove w (Fresh w e) (w.step e) := by
  cases e with
  | begin ownerId assignmentId rubricId kind => exact begin_move ownerId assignmentId rubricId kind _
  | ask k => exact ask_move k _
  | answer k structured => exact answer_move k structured _
  | write k now => exact write_move hs k now
  | elsewhere a ha => exact elsewhere_move hs ha _

/-! ## What every run keeps -/

structure Tracked (w : DraftWorld env) : Prop where
  sound : Store.Sound env w.store
  seen : ∀ q ∈ w.requests, q.seen ≤ w.writes.length
  read : ∀ q ∈ w.requests, ∃ row ∈ w.store.rubrics, rawRubric row = rawRubric q.draft
  written : ∀ x ∈ w.writes, ∃ row ∈ w.store.rubrics, row.id = x.rubricId
  logged : Logged w
theorem tracked_empty : Tracked (⟨.empty, [], []⟩ : DraftWorld env) :=
  ⟨Store.sound_empty, by simp, by simp, by simp, by simp [Logged, Store.empty]⟩

theorem afterConfirm_raw (ownerId assignmentId rubricId : Uuid) (now : Time) (r : RubricVersion) :
    rawRubric (Store.afterConfirm ownerId assignmentId rubricId now r) = rawRubric r ∧
      (Store.afterConfirm ownerId assignmentId rubricId now r).structuredRubric =
        r.structuredRubric := by
  unfold Store.afterConfirm
  split
  · exact ⟨rfl, rfl⟩
  · split <;> exact ⟨rfl, rfl⟩

/-- No event removes a version or changes its raw columns. -/
theorem DraftMove.raw_kept {fresh : Prop} {w' : DraftWorld env} (hm : DraftMove w fresh w')
    (hs : Store.Sound env w.store) {row : RubricVersion} (hrow : row ∈ w.store.rubrics) :
    ∃ row' ∈ w'.store.rubrics, rawRubric row' = rawRubric row := by
  cases hm with
  | same => exact ⟨row, hrow, rfl⟩
  | began => exact ⟨row, hrow, rfl⟩
  | moved => exact ⟨row, hrow, rfl⟩
  | grown _ hstore => exact ⟨row, by rw [hstore]; exact List.mem_append_left _ hrow, rfl⟩
  | @saved _ _ draft _ _ _ _ _ hedit hraw _ hstore _ =>
    simp only [hstore]
    by_cases hid : row.id = draft.id
    · obtain rfl := eq_of_key_eq (Store.rubricIds_nodup hs) hrow hedit.mem hid
      exact ⟨_, (mem_replaceRow hrow).2 (.inl rfl), hraw⟩
    · exact ⟨row, (mem_replaceRow hedit.mem).2 (.inr ⟨hrow, hid⟩), rfl⟩
  | confirmed _ _ _ _ hstore _ =>
    simp only [hstore]
    exact ⟨_, List.mem_map_of_mem hrow, (afterConfirm_raw ..).1⟩

/-- A request that is there before an event is there after it, with what it had read. -/
theorem DraftMove.request_kept {fresh : Prop} {w' : DraftWorld env} (hm : DraftMove w fresh w')
    {n : Nat} {q : DraftRequest env} (hn : w.requests[n]? = some q) :
    ∃ q', w'.requests[n]? = some q' ∧ q'.draft = q.draft ∧ q'.seen = q.seen := by
  have hset {k : Nat} {p : DraftRequest env} (phase : DraftPhase env)
      (hk : w.requests[k]? = some p) : ∃ q', (w.requests.set k { p with phase })[n]? = some q' ∧
        q'.draft = q.draft ∧ q'.seen = q.seen := by
    by_cases hkn : k = n
    · subst hkn
      rw [hk] at hn
      cases hn
      exact ⟨_, List.getElem?_set_self (List.getElem?_eq_some_iff.1 hk).1, rfl, rfl⟩
    · exact ⟨q, by rw [List.getElem?_set_ne hkn, hn], rfl, rfl⟩
  cases hm with
  | same => exact ⟨q, hn, rfl, rfl⟩
  | began =>
    exact ⟨q, by rw [List.getElem?_append_left (List.getElem?_eq_some_iff.1 hn).1, hn], rfl, rfl⟩
  | moved hk => exact hset _ hk
  | grown => exact ⟨q, hn, rfl, rfl⟩
  | saved hk => exact hset _ hk
  | confirmed hk => exact hset _ hk

/-- Every request after an event has read its draft by then. -/
theorem DraftMove.request_before {fresh : Prop} {w' : DraftWorld env} (hm : DraftMove w fresh w')
    {q' : DraftRequest env} (hq' : q' ∈ w'.requests) :
    (∃ q ∈ w.requests, q'.draft = q.draft ∧ q'.seen = q.seen) ∨
      (q'.draft ∈ w.store.rubrics ∧ q'.seen = w.writes.length) := by
  have hset {k : Nat} {p : DraftRequest env} (phase : DraftPhase env)
      (hk : w.requests[k]? = some p) (h : q' ∈ w.requests.set k { p with phase }) :
      ∃ q ∈ w.requests, q'.draft = q.draft ∧ q'.seen = q.seen := by
    rcases List.mem_or_eq_of_mem_set h with h | rfl
    · exact ⟨q', h, rfl, rfl⟩
    · exact ⟨p, List.mem_of_getElem? hk, rfl, rfl⟩
  cases hm with
  | same => exact .inl ⟨q', hq', rfl, rfl⟩
  | began hq hseen =>
    rcases List.mem_append.1 hq' with hq' | hq'
    · exact .inl ⟨q', hq', rfl, rfl⟩
    · obtain rfl := List.mem_singleton.1 hq'
      exact .inr ⟨hq, hseen⟩
  | moved hk => exact .inl (hset _ hk hq')
  | grown => exact .inl ⟨q', hq', rfl, rfl⟩
  | saved hk => exact .inl (hset _ hk hq')
  | confirmed hk => exact .inl (hset _ hk hq')

theorem DraftMove.writes_le {fresh : Prop} {w' : DraftWorld env} (hm : DraftMove w fresh w') :
    w.writes.length ≤ w'.writes.length := by
  cases hm with
  | saved => simp
  | _ => exact le_rfl

theorem DraftMove.sound {fresh : Prop} {w' : DraftWorld env} (hm : DraftMove w fresh w')
    (hs : Store.Sound env w.store) : Store.Sound env w'.store := by
  cases hm with
  | grown hs' => exact hs'
  | saved _ hs' => exact hs'
  | confirmed _ hs' => exact hs'
  | _ => exact hs

/-- The content of a version is the last one written to it. -/
theorem DraftMove.logged {fresh : Prop} {w' : DraftWorld env} (hm : DraftMove w fresh w')
    (h : Tracked w) : Logged w' := by
  cases hm with
  | same => exact h.logged
  | began => exact h.logged
  | moved => exact h.logged
  | grown hs hstore hadded =>
    intro row hrow
    simp only [hstore] at hrow
    rcases List.mem_append.1 hrow with hold | hnew
    · exact h.logged row hold
    · -- nothing has been written to a version that was not there
      have hnone : w.writes.filter (·.rubricId == row.id) = [] := by
        rw [List.filter_eq_nil_iff]
        intro x hx hid
        obtain ⟨old, hold, hoid⟩ := h.written x hx
        have hnodup := Store.rubricIds_nodup hs
        rw [hstore, List.map_append, List.nodup_append] at hnodup
        exact hnodup.2.2 _ (List.mem_map_of_mem hold) _ (List.mem_map_of_mem hnew)
          (hoid.trans (by simpa using hid))
      simp [hnone, hadded row hnew]
  | @saved k q draft new content _ _ _ hedit hraw hnew hstore _ =>
    intro row hrow
    simp only [hstore] at hrow
    have hnid : new.id = q.draft.id := (rawRubric_id hraw).trans hedit.id
    rcases (mem_replaceRow hedit.mem).1 hrow with rfl | ⟨hold, hne⟩
    · simp [List.filter_append, hnid, hnew]
    · have hne : ¬q.draft.id = row.id := fun he => hne (he.symm.trans hedit.id.symm)
      simpa [List.filter_append, hne] using h.logged row hold
  | confirmed _ _ _ _ hstore _ =>
    intro row hrow
    simp only [hstore] at hrow
    obtain ⟨old, hold, rfl⟩ := List.mem_map.1 hrow
    obtain ⟨hraw, hsame⟩ := afterConfirm_raw _ _ _ _ old
    rw [hsame, rawRubric_id hraw]
    exact h.logged old hold

theorem DraftMove.tracked {fresh : Prop} {w' : DraftWorld env} (hm : DraftMove w fresh w')
    (h : Tracked w) : Tracked w' := by
  refine ⟨hm.sound h.sound, fun q' hq' => ?_, fun q' hq' => ?_, fun x hx => ?_, hm.logged h⟩
  · rcases hm.request_before hq' with ⟨q, hq, -, hseen⟩ | ⟨-, hseen⟩
    · rw [hseen]
      exact (h.seen q hq).trans hm.writes_le
    · rw [hseen]
      exact hm.writes_le
  · have hfound : ∃ row ∈ w.store.rubrics, rawRubric row = rawRubric q'.draft := by
      rcases hm.request_before hq' with ⟨q, hq, hdraft, -⟩ | ⟨hdraft, -⟩
      · rw [hdraft]
        exact h.read q hq
      · exact ⟨q'.draft, hdraft, rfl⟩
    obtain ⟨row, hrow, hraw⟩ := hfound
    obtain ⟨row', hrow', hraw'⟩ := hm.raw_kept h.sound hrow
    exact ⟨row', hrow', hraw'.trans hraw⟩
  · have hfound : ∃ row ∈ w.store.rubrics, row.id = x.rubricId := by
      cases hm with
      | saved _ _ hedit =>
        rcases List.mem_append.1 hx with hx | hx
        · exact h.written x hx
        · obtain rfl := List.mem_singleton.1 hx
          exact ⟨_, hedit.mem, hedit.id⟩
      | _ => exact h.written x hx
    obtain ⟨row, hrow, hid⟩ := hfound
    obtain ⟨row', hrow', hraw⟩ := hm.raw_kept h.sound hrow
    exact ⟨row', hrow', (rawRubric_id hraw).trans hid⟩

/-! ## Fresh runs -/

theorem DraftMove.replacedInOrder {w' : DraftWorld env} (hm : DraftMove w True w')
    (hr : ReplacedInOrder w) : ReplacedInOrder w' := by
  -- a write that was there before still names a request that had seen the earlier one
  have hold {i j : Nat} {x y : ContentWrite} (hij : i < j) (hi : w.writes[i]? = some x)
      (hj : w.writes[j]? = some y) (hid : x.rubricId = y.rubricId) :
      ∃ q : DraftRequest env, w'.requests[y.writer]? = some q ∧ i < q.seen := by
    obtain ⟨q, hq, hlt⟩ := hr i j x y hij hi hj hid
    obtain ⟨q', hq', -, hseen⟩ := hm.request_kept hq
    exact ⟨q', hq', hseen ▸ hlt⟩
  intro i j x y hij hi hj hid
  cases hm with
  | @saved k q _ _ content _ hk _ _ _ _ _ hfresh =>
    by_cases hlt : j < w.writes.length
    · rw [List.getElem?_append_left hlt] at hj
      rw [List.getElem?_append_left (hij.trans hlt)] at hi
      exact hold hij hi hj hid
    · -- the new write: its request had seen every write to this draft
      have hlast : j = w.writes.length := by
        have := (List.getElem?_eq_some_iff.1 hj).1
        rw [List.length_append, List.length_singleton] at this
        omega
      subst hlast
      rw [List.getElem?_concat_length] at hj
      cases hj
      rw [List.getElem?_append_left hij] at hi
      refine ⟨_, List.getElem?_set_self (List.getElem?_eq_some_iff.1 hk).1, ?_⟩
      by_contra hge
      refine hfresh trivial x (List.mem_iff_getElem?.2 ⟨i - q.seen, ?_⟩) hid
      rw [List.getElem?_drop, Nat.add_sub_cancel' (not_lt.1 hge), hi]
  | same => exact hold hij hi hj hid
  | began => exact hold hij hi hj hid
  | moved => exact hold hij hi hj hid
  | grown => exact hold hij hi hj hid
  | confirmed => exact hold hij hi hj hid

/-- What is frozen stays frozen. -/
theorem DraftMove.frozen_kept {fresh : Prop} {w' : DraftWorld env} (hm : DraftMove w fresh w')
    (hs : Store.Sound env w.store) {row : RubricVersion} (hrow : row ∈ w.store.rubrics)
    (hleft : row.status ≠ .draft) : ∃ row' ∈ w'.store.rubrics,
      row'.toRubricIdentity = row.toRubricIdentity ∧ row'.status ≠ .draft ∧
        row'.toRubricContent = row.toRubricContent := by
  -- a write to a draft does not hit it
  have hne {ownerId assignmentId rubricId : Uuid} {draft : RubricVersion}
      (hedit : Store.Editable w.store ownerId assignmentId rubricId draft) : row.id ≠ draft.id := by
    intro hid
    obtain rfl := eq_of_key_eq (Store.rubricIds_nodup hs) hrow hedit.mem hid
    exact hleft hedit.draft
  cases hm with
  | same => exact ⟨row, hrow, rfl, hleft, rfl⟩
  | began => exact ⟨row, hrow, rfl, hleft, rfl⟩
  | moved => exact ⟨row, hrow, rfl, hleft, rfl⟩
  | grown _ hstore => exact ⟨row, by rw [hstore]; exact List.mem_append_left _ hrow, rfl, hleft, rfl⟩
  | saved _ _ hedit _ _ hstore _ =>
    simp only [hstore]
    exact ⟨row, (mem_replaceRow hedit.mem).2 (.inr ⟨hrow, hne hedit⟩), rfl, hleft, rfl⟩
  | @confirmed _ q _ _ now _ _ hedit _ hstore _ =>
    simp only [hstore]
    have hid : row.id ≠ q.draft.id := fun he => hne hedit (he.trans hedit.id.symm)
    refine ⟨_, List.mem_map_of_mem hrow, ?_⟩
    unfold Store.afterConfirm
    rw [if_neg hid]
    split
    · exact ⟨rfl, by simp, rfl⟩
    · exact ⟨rfl, hleft, rfl⟩

/-- A confirmation of the draft that its request has read. -/
theorem confirm_frozen (h : Tracked w) {q : DraftRequest env} (hq : q ∈ w.requests)
    {draft : RubricVersion}
    (hedit : Store.Editable w.store q.ownerId q.assignmentId q.draft.id draft)
    (hread : draft.providerConfigId = q.draft.providerConfigId ∧ draft.model = q.draft.model)
    (hcontent : draft.structuredRubric = q.draft.structuredRubric) (now : Time) :
    ∃ row ∈ w.store.rubrics.map (Store.afterConfirm q.ownerId q.assignmentId q.draft.id now),
      row.toRubricIdentity = q.draft.toRubricIdentity ∧ row.status ≠ .draft ∧
        row.toRubricContent = { q.draft.toRubricContent with confirmedAt := row.confirmedAt } := by
  obtain ⟨row, hrow, hraw⟩ := h.read q hq
  obtain rfl : row = draft := eq_of_key_eq (Store.rubricIds_nodup h.sound) hrow hedit.mem
    ((rawRubric_id hraw).trans hedit.id.symm)
  simp only [rawRubric, Prod.mk.injEq] at hraw
  obtain ⟨hidentity, horiginal, htotal, hstep⟩ := hraw
  refine ⟨_, List.mem_map_of_mem hrow, ?_⟩
  unfold Store.afterConfirm
  rw [if_pos hedit.id]
  refine ⟨hidentity, by simp, ?_⟩
  simp only [horiginal, htotal, hstep, hread.1, hread.2, hcontent]

theorem DraftMove.frozenAsRead {w' : DraftWorld env} (hm : DraftMove w True w') (h : Tracked w)
    (hf : FrozenAsRead w) : FrozenAsRead w' := by
  have hold {k : Nat} {q : DraftRequest env} (hk : w.requests[k]? = some q)
      (hphase : q.phase = .confirmed) : ∃ row ∈ w'.store.rubrics,
        row.toRubricIdentity = q.draft.toRubricIdentity ∧ row.status ≠ .draft ∧
          row.toRubricContent = { q.draft.toRubricContent with confirmedAt := row.confirmedAt } := by
    obtain ⟨row, hrow, hid, hleft, hcontent⟩ := hf k q hk hphase
    obtain ⟨row', hrow', hid', hleft', hcontent'⟩ := hm.frozen_kept h.sound hrow hleft
    refine ⟨row', hrow', hid'.trans hid, hleft', ?_⟩
    rw [hcontent', hcontent]
  intro n p hn hphase
  have hset {k : Nat} {q : DraftRequest env} {phase : DraftPhase env} (hk : w.requests[k]? = some q)
      (hne : phase ≠ .confirmed) (h : (w.requests.set k { q with phase })[n]? = some p) :
      w.requests[n]? = some p := by
    by_cases hkn : k = n
    · subst hkn
      rw [List.getElem?_set_self (List.getElem?_eq_some_iff.1 hk).1] at h
      cases h
      exact absurd hphase hne
    · rwa [List.getElem?_set_ne hkn] at h
  cases hm with
  | same => exact hold hn hphase
  | @began q _ _ hread =>
    by_cases hlt : n < w.requests.length
    · rw [List.getElem?_append_left hlt] at hn
      exact hold hn hphase
    · rw [List.getElem?_append_right (not_lt.1 hlt)] at hn
      obtain rfl := List.mem_singleton.1 (List.mem_of_getElem? hn)
      rw [hread] at hphase
      cases hphase
  | moved hk hne => exact hold (hset hk hne hn) hphase
  | grown => exact hold hn hphase
  | saved hk => exact hold (hset hk (by simp) hn) hphase
  | @confirmed k q draft store now hk _ hedit hread hstore hfresh =>
    by_cases hkn : k = n
    · subst hkn
      rw [List.getElem?_set_self (List.getElem?_eq_some_iff.1 hk).1] at hn
      cases hn
      simp only [hstore]
      exact confirm_frozen h (List.mem_of_getElem? hk) hedit hread (hfresh trivial) now
    · rw [List.getElem?_set_ne hkn] at hn
      exact hold hn hphase

/-- **A run without stale writes keeps every content**: what was written is replaced only by a
request that had seen it, and what is frozen is what the confirmation had read. -/
theorem run_keepsContent {es : List (DraftEvent env)}
    (hfresh : Runs.Guarded step Fresh ⟨.empty, [], []⟩ es) :
    Logged (after env es) ∧ ReplacedInOrder (after env es) ∧ FrozenAsRead (after env es) := by
  have h : Tracked (after env es) ∧ ReplacedInOrder (after env es) ∧ FrozenAsRead (after env es) := by
    refine Runs.run_invariant_of_guarded (P := fun w : DraftWorld env =>
      Tracked w ∧ ReplacedInOrder w ∧ FrozenAsRead w)
      ⟨tracked_empty, by simp [ReplacedInOrder], by simp [FrozenAsRead]⟩ hfresh ?_
    rintro w e ⟨h, hordered, hfrozen⟩ hgood
    have hm := step_move h.sound e
    rw [show Fresh w e = True from propext ⟨fun _ => trivial, fun _ => hgood⟩] at hm
    exact ⟨hm.tracked h, hm.replacedInOrder hordered, hm.frozenAsRead h hfrozen⟩
  exact ⟨h.1.logged, h.2⟩

end DraftWorld

/-! ## Overtaken writes -/

namespace Sample

open DraftWorld

/-- The generated rubric with another description. -/
def rewritten : ValidRubric sampleRuntime :=
  ⟨{ rubric with dimensions := rubric.dimensions.map fun d => { d with description := "Argument" } },
    by decide +kernel⟩

/-- A tested provider and an assignment with a raw draft. -/
def draftSetup : List (DraftEvent sampleRuntime) :=
  [.elsewhere (.createProvider provider ⟨connection, "p", 4, none⟩) rfl,
   .elsewhere (.markTested provider 1 0) rfl,
   .elsewhere (.enableTested provider) rfl,
   .elsewhere (.createAssignment teacher "t" "i" ⟨"r", ⟨false, 10, 0⟩, ⟨false, 1, 0⟩⟩ assignment
     rubricVersion 0) rfl]

/-- A generation from beginning to end. -/
def generation (k : Nat) : List (DraftEvent sampleRuntime) :=
  [.begin teacher assignment rubricVersion (.generate provider), .ask k, .answer k (some validRubric),
   .write k 0]

/-- One request after the other. -/
def inTurn : List (DraftEvent sampleRuntime) :=
  draftSetup ++ generation 0 ++
    [.begin teacher assignment rubricVersion (.edit rewritten), .write 1 0,
     .begin teacher assignment rubricVersion .confirm, .write 2 0]

theorem inTurn_keeps : FrozenAsRead (after sampleRuntime inTurn) ∧
    (after sampleRuntime inTurn).writes.map (·.writer) = [0, 1] ∧
    (after sampleRuntime inTurn).store.rubrics.map (·.status) = [.confirmed] :=
  ⟨(run_keepsContent (show Runs.Guarded step Fresh ⟨.empty, [], []⟩ inTurn by decide +kernel)).2.2,
    by decide +kernel, by decide +kernel⟩

/-- A second generation is under way while the teacher edits the draft. -/
def slowGeneration : List (DraftEvent sampleRuntime) :=
  draftSetup ++ generation 0 ++
    [.begin teacher assignment rubricVersion (.generate provider), .ask 1,
     .begin teacher assignment rubricVersion (.edit rewritten), .write 2 0,
     .answer 1 (some validRubric), .write 1 0]

/-- The teacher edits the draft while it is being confirmed. -/
def editedAfterReading : List (DraftEvent sampleRuntime) :=
  draftSetup ++ generation 0 ++
    [.begin teacher assignment rubricVersion .confirm,
     .begin teacher assignment rubricVersion (.edit rewritten), .write 2 0, .write 1 0]

theorem slowGeneration_writes :
    (after sampleRuntime slowGeneration).writes.map (fun x => (x.rubricId, x.writer)) =
        [(rubricVersion, 0), (rubricVersion, 2), (rubricVersion, 1)] ∧
      (after sampleRuntime slowGeneration).requests.map (·.seen) = [0, 1, 1] := by
  decide +kernel

/-- The descriptions of a content. -/
def descriptions (r : RubricVersion) : Option (List String) :=
  r.structuredRubric.map (·.dimensions.map (·.description))

theorem editedAfterReading_rows :
    (after sampleRuntime editedAfterReading).store.rubrics.map descriptions = [some ["Argument"]] ∧
      (after sampleRuntime editedAfterReading).requests.map (fun q => descriptions q.draft) =
        [none, some ["Content"], some ["Content"]] := by
  decide +kernel

theorem editedAfterReading_confirmed : ((after sampleRuntime editedAfterReading).requests[1]?.map
    fun q => match q.phase with | .confirmed => true | _ => false) = some true := by
  decide +kernel

/-- **An edit is lost, and a content that no confirmation has read is frozen.** -/
theorem overtaken_content :
    ¬(∀ es, ReplacedInOrder (after sampleRuntime es)) ∧
      ¬∀ es, FrozenAsRead (after sampleRuntime es) := by
  constructor
  · intro h
    obtain ⟨hwrites, hseen⟩ := slowGeneration_writes
    have hwrite (n writer : Nat)
        (hn : [(rubricVersion, 0), (rubricVersion, 2), (rubricVersion, 1)][n]? =
          some (rubricVersion, writer)) : ∃ x, (after sampleRuntime slowGeneration).writes[n]? = some x ∧
          x.rubricId = rubricVersion ∧ x.writer = writer := by
      rw [← hwrites, List.getElem?_map, Option.map_eq_some_iff] at hn
      obtain ⟨x, hx, he⟩ := hn
      exact ⟨x, hx, congrArg Prod.fst he, congrArg Prod.snd he⟩
    obtain ⟨x, hx, hxid, -⟩ := hwrite 1 2 rfl
    obtain ⟨y, hy, hyid, hwriter⟩ := hwrite 2 1 rfl
    obtain ⟨q, hq, hlt⟩ := h slowGeneration 1 2 x y (by decide) hx hy (hxid.trans hyid.symm)
    have hq' := congrArg (·[1]?) hseen
    rw [hwriter] at hq
    simp only [List.getElem?_map, hq, Option.map_some] at hq'
    have hone : q.seen = 1 := Option.some.inj hq'
    omega
  · intro h
    obtain ⟨hrows, hdrafts⟩ := editedAfterReading_rows
    obtain ⟨q, hq, hphase⟩ := Option.map_eq_some_iff.1 editedAfterReading_confirmed
    obtain ⟨row, hrow, -, -, hcontent⟩ := h editedAfterReading 1 q hq (by split at hphase <;> simp_all)
    have hfrozen : descriptions row = some ["Argument"] := by
      have hmem := List.mem_map_of_mem (f := descriptions) hrow
      rw [hrows] at hmem
      exact List.mem_singleton.1 hmem
    have hread : descriptions q.draft = some ["Content"] := by
      have hq' := congrArg (·[1]?) hdrafts
      simp only [List.getElem?_map, hq, Option.map_some] at hq'
      exact Option.some.inj hq'
    have hsame : descriptions row = descriptions q.draft := by
      unfold descriptions
      rw [hcontent]
    rw [hfrozen, hread] at hsame
    exact absurd hsame (by decide)

end Sample

end PaperGrading
