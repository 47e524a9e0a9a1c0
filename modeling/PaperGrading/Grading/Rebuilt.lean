import PaperGrading.Grading.Corrections
import PaperGrading.Store.FrozenInputs

/-!
# Building a correction

The call of a correction is built from the inputs of the call that it corrects, which stand, and from
the answer that was rejected.

    the inputs of a call are those of every later preparation of its item    (after_rebuildable)
    a correction can be built exactly if the answer fits into its prompt         (after_rebuilds)
-/

namespace PaperGrading

section Build

variable {env : Runtime} {lib : GradingLibrary} {objects objects' : String → Option Bytes}
  {p p' : GradingItemPreparation} {call : GradingCall}

/-! ## The parts of a call -/

/-- The request that is sent. -/
def GradingItemPreparation.providerRequest (p : GradingItemPreparation) (apiKey : String)
    (prompt : GradingPrompt) : ProviderGradeRequest where
  providerConfigId := p.providerConfigId
  configVersion := p.providerConfigVersion
  providerType := p.providerSnapshot.providerType
  baseUrl := p.providerSnapshot.baseUrl
  apiKey
  model := p.model
  timeoutSeconds := p.providerSnapshot.timeoutSeconds
  maxOutputTokens := p.providerSnapshot.modelProfile.gradingMaxOutputTokens
  capabilities := p.providerSnapshot.modelProfile.capabilities
  resultSchemaJson := p.resultSchema
  prompt

/-- What the inputs of a preparation give, whatever its prompt is. -/
structure Buildable (env : Runtime) (lib : GradingLibrary) (objects : String → Option Bytes)
    (p : GradingItemPreparation) (document : ParsedDocument) (version : PromptVersion)
    (apiKey : String) : Prop where
  document_eq : ∃ content, getJson objects p.extractedObjectKey = .ok content ∧
    (lib.decodeJson content).bind ParsedDocument.ofJs = some document
  request : (p.gradeRequest document).accepts env = true
  version_eq : PromptVersion.parse? p.promptVersion = some version
  profile : (p.providerSnapshot.modelProfile.capabilities.model == p.model) = true
  key_eq : env.decrypt p.encryptedApiKey p.apiKeyNonce p.providerConfigId = some apiKey

/-- The prompt is that of the contract, and the request with it passes its checks. -/
def GradingPrompt.sendable (env : Runtime) (p : GradingItemPreparation) (apiKey : String)
    (prompt : GradingPrompt) : Bool :=
  prompt.frozen p && (p.providerRequest apiKey prompt).accepts env

theorem buildCall_eq_ok : buildCall env lib objects p = .ok call ↔
    ∃ document version apiKey, Buildable env lib objects p document version apiKey ∧
      promptOf env lib objects p (p.gradeRequest document) version = .ok call.prompt ∧
      call.prompt.sendable env p apiKey = true ∧
      call = ⟨p.gradeRequest document, p.providerRequest apiKey call.prompt⟩ := by
  unfold buildCall GradingPrompt.sendable
  simp only [bind_eq_ok, required_eq_ok, ensure_eq_ok, Bool.and_eq_true]
  constructor
  · rintro ⟨content, hcontent, document, hdocument, _, hrequest, version, hversion, prompt, hprompt, _,
      hfrozen, _, hprofile, apiKey, hkey, _, haccepts, h⟩
    cases h
    exact ⟨document, version, apiKey, ⟨⟨content, hcontent, hdocument⟩, hrequest, hversion, hprofile,
      hkey⟩, hprompt, ⟨hfrozen, haccepts⟩, rfl⟩
  · rintro ⟨document, version, apiKey, ⟨⟨content, hcontent, hdocument⟩, hrequest, hversion, hprofile,
      hkey⟩, hprompt, ⟨hfrozen, haccepts⟩, hcall⟩
    refine ⟨content, hcontent, document, hdocument, (), hrequest, version, hversion, call.prompt, ?_, (),
      hfrozen, (), hprofile, apiKey, hkey, (), haccepts, ?_⟩
    · exact hprompt
    · rw [hcall]
      rfl

/-- The inputs of a preparation that has the same ones give the same. -/
theorem Buildable.same (hsame : p.SameInputs p')
    (hobject : objects' p.extractedObjectKey = objects p.extractedObjectKey)
    {document : ParsedDocument} {version : PromptVersion} {apiKey : String}
    (h : Buildable env lib objects p document version apiKey) :
    Buildable env lib objects' p' document version apiKey := by
  rw [GradingItemPreparation.SameInputs] at hsame
  rw [hsame]
  obtain ⟨content, hcontent, hdocument⟩ := h.document_eq
  refine ⟨⟨content, ?_, hdocument⟩, h.request, h.version_eq, h.profile, h.key_eq⟩
  unfold getJson at hcontent ⊢
  dsimp only
  rw [hobject]
  exact hcontent

theorem Buildable.unique {document document' : ParsedDocument} {version version' : PromptVersion}
    {apiKey apiKey' : String} (h : Buildable env lib objects p document version apiKey)
    (h' : Buildable env lib objects p document' version' apiKey') :
    document = document' ∧ version = version' ∧ apiKey = apiKey' := by
  obtain ⟨content, hcontent, hdocument⟩ := h.document_eq
  obtain ⟨content', hcontent', hdocument'⟩ := h'.document_eq
  obtain rfl := Except.ok.inj (hcontent.symm.trans hcontent')
  exact ⟨Option.some.inj (hdocument.symm.trans hdocument'),
    Option.some.inj (h.version_eq.symm.trans h'.version_eq),
    Option.some.inj (h.key_eq.symm.trans h'.key_eq)⟩

/-- The checks see a prompt by the hashes of its contract only. -/
theorem sendable_correction (hsame : p.SameInputs p') {apiKey : String} {initial prompt : GradingPrompt}
    {issues : List GradeValidationIssue} {output : String}
    (h : buildCorrectionPrompt env initial issues output = some prompt)
    (hinitial : initial.sendable env p apiKey = true) : prompt.sendable env p' apiKey = true := by
  obtain ⟨-, hversion, hhash, hschemaVersion, hschemaHash, hrubric, -⟩ := buildCorrectionPrompt_some h
  rw [GradingItemPreparation.SameInputs] at hsame
  rw [hsame]
  unfold GradingPrompt.sendable GradingPrompt.frozen at hinitial ⊢
  rw [hversion, hhash, hschemaVersion, hschemaHash, hrubric]
  rw [Bool.and_eq_true] at hinitial ⊢
  refine ⟨hinitial.1, ?_⟩
  have haccepts := hinitial.2
  unfold ProviderGradeRequest.accepts GradingItemPreparation.providerRequest at haccepts ⊢
  dsimp only at haccepts ⊢
  rw [hschemaHash]
  exact haccepts

/-- **A correction of a call that was built can be built exactly if its prompt can.** -/
theorem buildCall_correction (hsame : p.SameInputs p')
    (hobject : objects' p.extractedObjectKey = objects p.extractedObjectKey)
    (hbuilt : buildCall env lib objects p = .ok call) (hinitial : p.previousResponseObjectKey = none)
    {key : String} (hkey : p'.previousResponseObjectKey = some key) :
    (∃ call', buildCall env lib objects' p' = .ok call') ↔
      ∃ prompt, correctionPrompt env lib objects' p' call.prompt key = .ok prompt := by
  obtain ⟨document, version, apiKey, hbuildable, hprompt, hsendable, hcall⟩ := buildCall_eq_ok.1 hbuilt
  have hbuildable' := hbuildable.same hsame hobject
  have hinitialPrompt : call.prompt = buildGradingPrompt env (p.gradeRequest document) version := by
    unfold promptOf at hprompt
    rw [hinitial] at hprompt
    exact (Except.ok.inj hprompt).symm
  have hrequest : p'.gradeRequest document = p.gradeRequest document := by
    rw [GradingItemPreparation.SameInputs] at hsame
    rw [hsame]
    rfl
  constructor
  · rintro ⟨call', h⟩
    obtain ⟨document', version', apiKey', hb, hp, -, -⟩ := buildCall_eq_ok.1 h
    obtain ⟨rfl, rfl, -⟩ := hbuildable'.unique hb
    unfold promptOf at hp
    rw [hkey, hrequest, ← hinitialPrompt] at hp
    exact ⟨_, hp⟩
  · rintro ⟨prompt, h⟩
    obtain ⟨issues, output, hbuild⟩ := correctionPrompt_built h
    refine ⟨⟨p'.gradeRequest document, p'.providerRequest apiKey prompt⟩, buildCall_eq_ok.2
      ⟨document, version, apiKey, hbuildable', ?_, sendable_correction hsame hbuild hsendable, rfl⟩⟩
    unfold promptOf
    rw [hkey, hrequest, ← hinitialPrompt]
    exact h

/-- What is sent for the same inputs differs in the prompt only. -/
theorem buildCall_same (hsame : p.SameInputs p')
    (hobject : objects' p.extractedObjectKey = objects p.extractedObjectKey) {call' : GradingCall}
    (h : buildCall env lib objects p = .ok call) (h' : buildCall env lib objects' p' = .ok call') :
    call'.gradeRequest = call.gradeRequest ∧
      call'.providerRequest = { call.providerRequest with prompt := call'.prompt } := by
  obtain ⟨document, version, apiKey, hb, -, -, hcall⟩ := buildCall_eq_ok.1 h
  obtain ⟨document', version', apiKey', hb', -, -, hcall'⟩ := buildCall_eq_ok.1 h'
  obtain ⟨rfl, -, rfl⟩ := (hb.same hsame hobject).unique hb'
  rw [GradingItemPreparation.SameInputs] at hsame
  constructor
  · rw [hcall, hcall', hsame]
    rfl
  · rw [hcall, hcall', hsame]
    rfl

/-- A prompt of two messages is the initial one. -/
theorem buildCall_initial (h : buildCall env lib objects p = .ok call)
    (htwo : call.prompt.messages.length = 2) : p.previousResponseObjectKey = none := by
  obtain ⟨document, version, apiKey, -, hprompt, -, -⟩ := buildCall_eq_ok.1 h
  cases hkey : p.previousResponseObjectKey with
  | none => rfl
  | some key =>
    unfold promptOf at hprompt
    rw [hkey] at hprompt
    obtain ⟨issues, output, hbuild⟩ := correctionPrompt_built hprompt
    have hthree := (buildCorrectionPrompt_some hbuild).1
    omega

/-- **The same inputs give the same call**, where no correction is asked for. -/
theorem buildCall_retry (hsame : p.SameInputs p')
    (hobject : objects' p.extractedObjectKey = objects p.extractedObjectKey) {call' : GradingCall}
    (h : buildCall env lib objects p = .ok call) (h' : buildCall env lib objects' p' = .ok call')
    (htwo : call.prompt.messages.length = 2) (htwo' : call'.prompt.messages.length = 2) :
    call' = call := by
  have hkey := buildCall_initial h htwo
  have hkey' := buildCall_initial h' htwo'
  obtain ⟨hrequest, hprovider⟩ := buildCall_same hsame hobject h h'
  obtain ⟨document, version, apiKey, hb, hprompt, -, hcall⟩ := buildCall_eq_ok.1 h
  obtain ⟨document', version', apiKey', hb', hprompt', -, hcall'⟩ := buildCall_eq_ok.1 h'
  obtain ⟨rfl, rfl, rfl⟩ := (hb.same hsame hobject).unique hb'
  have hdocument : p'.gradeRequest document = p.gradeRequest document := by
    rw [hcall, hcall'] at hrequest
    exact hrequest
  unfold promptOf at hprompt hprompt'
  rw [hkey] at hprompt
  rw [hkey', hdocument] at hprompt'
  have hsamePrompt : call'.prompt = call.prompt := Except.ok.inj (hprompt'.symm.trans hprompt)
  rw [hsamePrompt] at hprovider
  calc call' = ⟨call'.gradeRequest, call'.providerRequest⟩ := rfl
    _ = ⟨call.gradeRequest, { call.providerRequest with prompt := call.prompt }⟩ := by
      rw [hrequest, hprovider]
    _ = call := rfl

end Build

namespace GradingItemPreparation

theorem SameInputs.refl (p : GradingItemPreparation) : p.SameInputs p := rfl

theorem SameInputs.symm {p p' : GradingItemPreparation} (h : p.SameInputs p') : p'.SameInputs p := by
  unfold SameInputs at h ⊢
  rw [h]

theorem SameInputs.paper {p p' : GradingItemPreparation} (h : p.SameInputs p') :
    p'.extractedObjectKey = p.extractedObjectKey := by
  rw [SameInputs] at h
  rw [h]

end GradingItemPreparation

namespace GradingWorld

open Store Table

variable {runner : GradingAttemptRunner} {w w' : GradingWorld}

/-! ## Preparations -/

/-- The preparation is that of a run that waits to claim, or of a call. -/
def Alive (w : GradingWorld) (p : GradingItemPreparation) : Prop :=
  (∃ run, w.phase run = .prepared p) ∨ (∃ run call, w.phase run = .built p call) ∨
    ∃ c ∈ w.calls, c.prepared = p

/-- The call was built from the preparation and the text of the paper, which has not been replaced. -/
def Basis (runner : GradingAttemptRunner) (w : GradingWorld) (p : GradingItemPreparation)
    (call : GradingCall) : Prop :=
  ∃ objects content, buildCall runner.env runner.lib objects p = .ok call ∧
    objects p.extractedObjectKey = some content ∧
    (w.objects p.extractedObjectKey = some content ∨ p.extractedObjectKey ∈ w.removed)

/-- All preparations of an item have the same inputs, and the calls were built from them. -/
structure Rebuildable (runner : GradingAttemptRunner) (w : GradingWorld) : Prop where
  traced : Traced runner w
  backed : ∀ p, Alive w p → Backed w.store p
  same : ∀ p p', Alive w p → Alive w p' → p.itemId = p'.itemId → p.SameInputs p'
  built : ∀ run p call, w.phase run = .built p call → Basis runner w p call
  calls : ∀ c ∈ w.calls, Basis runner w c.prepared c.call

theorem start_rebuildable : Rebuildable runner start := by
  have hnone : ∀ p, ¬Alive start p := by
    rintro p (⟨run, h⟩ | ⟨run, call, h⟩ | ⟨c, hc, -⟩)
    · cases h
    · cases h
    · cases hc
  exact ⟨start_traced, fun p h => absurd h (hnone p), fun p _ h => absurd h (hnone p),
    (fun _ _ _ h => by cases h), by simp [start]⟩

/-- An object stays as it is until it is removed. -/
theorem GradingMove.object_stays (hm : GradingMove runner w w') {key : String} {content : Bytes}
    (h : w.objects key = some content) : w'.objects key = some content ∨ key ∈ w'.removed := by
  have hput (key' : String) (content' : Bytes) : w.putOnce key' content' key = some content := by
    unfold putOnce
    by_cases hk : key = key'
    · subst hk
      rw [Function.update_self, h, Option.some_or]
    · rw [Function.update_of_ne hk]
      exact h
  cases hm with
  | put | upload => exact .inl (hput _ _)
  | removed key' =>
    by_cases hk : key = key'
    · exact .inr (by simp [hk])
    · refine .inl ?_
      dsimp only
      rw [Function.update_of_ne hk]
      exact h
  | _ => exact .inl h

theorem GradingMove.removed_grows (hm : GradingMove runner w w') {key : String}
    (h : key ∈ w.removed) : key ∈ w'.removed := by
  cases hm with
  | removed => exact List.mem_append_left _ h
  | _ => exact h

theorem Basis.mono (hm : GradingMove runner w w') {p : GradingItemPreparation} {call : GradingCall}
    (h : Basis runner w p call) : Basis runner w' p call := by
  obtain ⟨objects, content, hbuilt, hcontent, hkept⟩ := h
  refine ⟨objects, content, hbuilt, hcontent, ?_⟩
  rcases hkept with hkept | hremoved
  · exact hm.object_stays hkept
  · exact .inr (hm.removed_grows hremoved)

/-- The phases after a step of one run. -/
theorem phase_update {phase : Nat → RunPhase} {run k : Nat} {p q : RunPhase}
    (h : Function.update phase run p k = q) : p = q ∨ phase k = q := by
  by_cases hk : k = run
  · subst hk
    rw [Function.update_self] at h
    exact .inl h
  · rw [Function.update_of_ne hk] at h
    exact .inr h

/-- A preparation is new when it is made, and stays with its run and its call. -/
theorem GradingMove.alive (hm : GradingMove runner w w') {p : GradingItemPreparation}
    (h : Alive w' p) : Alive w p ∨
      ∃ itemId dispatchVersion now,
        w.store.prepareItem runner.env itemId dispatchVersion now = .ok (some p) := by
  have hphases {run : Nat} {q : RunPhase} (hq : ∀ x, q = .prepared x → Alive w x)
      (hq' : ∀ x call, q = .built x call → Alive w x)
      (h : (∃ k, Function.update w.phase run q k = .prepared p) ∨
        (∃ k call, Function.update w.phase run q k = .built p call) ∨
        ∃ c ∈ w.calls, c.prepared = p) : Alive w p := by
    rcases h with ⟨k, hk⟩ | ⟨k, call, hk⟩ | hc
    · rcases phase_update hk with hk | hk
      · exact hq p hk
      · exact .inl ⟨k, hk⟩
    · rcases phase_update hk with hk | hk
      · exact hq' p call hk
      · exact .inr (.inl ⟨k, call, hk⟩)
    · exact .inr (.inr hc)
  cases hm with
  | stays | upload | removed | elsewhere => exact .inl h
  | ended | abandoned | closed => exact .inl (hphases (by simp) (by simp) h)
  | @prepared run prepared itemId dispatchVersion now hphase hp =>
    rcases h with ⟨k, hk⟩ | ⟨k, call, hk⟩ | hc
    · rcases phase_update hk with hk | hk
      · cases hk
        exact .inr ⟨_, _, _, hp⟩
      · exact .inl (.inl ⟨k, hk⟩)
    · rcases phase_update hk with hk | hk
      · cases hk
      · exact .inl (.inr (.inl ⟨k, call, hk⟩))
    · exact .inl (.inr (.inr hc))
  | @built run prepared call hphase hb =>
    refine .inl (hphases (by simp) (fun x c hx => ?_) h)
    cases hx
    exact .inl ⟨run, hphase⟩
  | @granted run prepared call store claim clock attemptId token hphase hc =>
    rcases h with h | h | ⟨c, hmem, hcp⟩
    · exact .inl (hphases (by simp) (by simp) (.inl h))
    · exact .inl (hphases (by simp) (by simp) (.inr (.inl h)))
    · rcases List.mem_append.1 hmem with hmem | hmem
      · exact .inl (.inr (.inr ⟨c, hmem, hcp⟩))
      · rw [List.mem_singleton.1 hmem] at hcp
        exact .inl (.inr (.inl ⟨run, call, hcp ▸ hphase⟩))
  | @called run prepared call claim outcome receivedAt hphase =>
    refine .inl (hphases ?_ ?_ h)
    · intro x hx
      unfold calledPhase at hx
      dsimp only at hx
      split at hx <;> split at hx <;> cases hx
    · intro x c hx
      unfold calledPhase at hx
      dsimp only at hx
      split at hx <;> split at hx <;> cases hx
  | put hphase hsize hnext =>
    refine .inl (hphases ?_ ?_ h)
    · intro x hx
      rcases hnext with rfl | ⟨e, -, rfl, -⟩ <;> cases hx
    · intro x c hx
      rcases hnext with rfl | ⟨e, -, rfl, -⟩ <;> cases hx

theorem Alive.backed (h : Rebuildable runner w) (hm : GradingMove runner w w')
    {p : GradingItemPreparation} (hp : Alive w' p) : Backed w'.store p := by
  have hw := wellFormed_of_store h.traced.booked.accounted.store
  refine hm.store_kept (P := (Backed · p)) hw (fun _ _ ht hmove hf => hf.move ht hmove) ?_
  rcases hm.alive hp with hp | ⟨_, _, _, hp⟩
  · exact h.backed p hp
  · exact prepareItem_backed hp

theorem Alive.same (h : Rebuildable runner w) (hm : GradingMove runner w w')
    {p p' : GradingItemPreparation} (hp : Alive w' p) (hp' : Alive w' p')
    (hid : p.itemId = p'.itemId) : p.SameInputs p' := by
  have hw := wellFormed_of_store h.traced.booked.accounted.store
  rcases hm.alive hp with hp | ⟨_, _, _, hp⟩
  · rcases hm.alive hp' with hp' | ⟨_, _, _, hp'⟩
    · exact h.same p p' hp hp' hid
    · exact (h.backed p hp).same hw hp' hid
  · rcases hm.alive hp' with hp' | ⟨_, _, _, hp'⟩
    · exact ((h.backed p' hp').same hw hp hid.symm).symm
    · exact (prepareItem_backed hp).same hw hp' hid

/-- A run has the call that it had, or has just built it. -/
theorem GradingMove.built_phase (hm : GradingMove runner w w') {k : Nat}
    {p : GradingItemPreparation} {call : GradingCall} (h : w'.phase k = .built p call) :
    w.phase k = .built p call ∨ buildCall runner.env runner.lib w.objects p = .ok call := by
  have hphase {run : Nat} {q : RunPhase} (hq : q ≠ .built p call)
      (h : Function.update w.phase run q k = .built p call) : w.phase k = .built p call :=
    (phase_update h).resolve_left hq
  cases hm with
  | stays | upload | removed | elsewhere => exact .inl h
  | ended | abandoned | closed | prepared | granted => exact .inl (hphase (by simp) h)
  | @built run prepared call' hwait hb =>
    rcases phase_update h with hk | hk
    · cases hk
      exact .inr hb
    · exact .inl hk
  | @called run prepared call' claim outcome receivedAt hwait =>
    refine .inl (hphase (fun hq => ?_) h)
    unfold calledPhase at hq
    dsimp only at hq
    split at hq <;> split at hq <;> cases hq
  | put hwait hsize hnext =>
    refine .inl (hphase ?_ h)
    rcases hnext with rfl | ⟨e, -, rfl, -⟩ <;> simp

/-- A call that is made had been built. -/
theorem GradingMove.call_built (hm : GradingMove runner w w') {c : ProviderCall} (hc : c ∈ w'.calls) :
    c ∈ w.calls ∨ ∃ run, w.phase run = .built c.prepared c.call := by
  cases hm with
  | @granted run prepared call store claim clock attemptId token hphase _ =>
    rcases List.mem_append.1 hc with hc | hc
    · exact .inl hc
    · rw [List.mem_singleton.1 hc]
      exact .inr ⟨run, hphase⟩
  | _ => exact .inl hc

/-- **One step keeps the inputs of the calls.** -/
theorem GradingMove.rebuildable (h : Rebuildable runner w) (hm : GradingMove runner w w') :
    Rebuildable runner w' := by
  refine ⟨hm.traced h.traced, fun p hp => hp.backed h hm, fun p p' hp hp' => hp.same h hm hp', ?_, ?_⟩
  · intro k p call hphase
    rcases hm.built_phase hphase with hold | hbuilt
    · exact (h.built k p call hold).mono hm
    · obtain ⟨document, version, apiKey, hb, -⟩ := buildCall_eq_ok.1 hbuilt
      obtain ⟨content, hcontent, -⟩ := hb.document_eq
      have hobject := (getJson_eq_ok.1 hcontent).1
      exact ⟨w.objects, content, hbuilt, hobject, hm.object_stays hobject⟩
  · intro c hc
    rcases hm.call_built hc with hold | ⟨run, hphase⟩
    · exact (h.calls c hold).mono hm
    · exact (h.built run _ _ hphase).mono hm

theorem after_rebuildable (events : List (GradingEvent runner.env)) :
    Rebuildable runner (after runner events) :=
  Runs.run_invariant events start_rebuildable fun w e h => (step_moves w e).rebuildable h

/-! ## Every run -/

/-- The text that a call was built from is still there. -/
theorem Basis.present {p : GradingItemPreparation} {call : GradingCall} (h : Basis runner w p call)
    (hpaper : p.extractedObjectKey ∉ w.removed) : ∃ objects,
      buildCall runner.env runner.lib objects p = .ok call ∧
        objects p.extractedObjectKey = w.objects p.extractedObjectKey := by
  obtain ⟨objects, content, hbuilt, hcontent, hkept⟩ := h
  exact ⟨objects, hbuilt, hcontent.trans (hkept.resolve_right hpaper).symm⟩

/-- Two calls of an item were built from the same text. -/
theorem Rebuildable.pair (h : Rebuildable runner w) {c c' : ProviderCall} (hc : c ∈ w.calls)
    (hc' : c' ∈ w.calls) (hid : c.prepared.itemId = c'.prepared.itemId)
    (hpaper : c.prepared.extractedObjectKey ∉ w.removed) :
    c.prepared.SameInputs c'.prepared ∧ ∃ objects objects',
      buildCall runner.env runner.lib objects c.prepared = .ok c.call ∧
      buildCall runner.env runner.lib objects' c'.prepared = .ok c'.call ∧
      objects' c.prepared.extractedObjectKey = objects c.prepared.extractedObjectKey := by
  have hsame := h.same _ _ (.inr (.inr ⟨c, hc, rfl⟩)) (.inr (.inr ⟨c', hc', rfl⟩)) hid
  have hkey := hsame.paper
  obtain ⟨objects, hbuilt, hobject⟩ := (h.calls c hc).present hpaper
  obtain ⟨objects', hbuilt', hobject'⟩ := (h.calls c' hc').present (hkey ▸ hpaper)
  rw [hkey] at hobject'
  exact ⟨hsame, objects, objects', hbuilt, hbuilt', hobject'.trans hobject.symm⟩

/-- What stands under the key of a record is the envelope of its call, until it is removed. -/
theorem Booked.envelope (h : Booked runner w) {x : GradingAttempt} {prepared : GradingItemPreparation}
    {call : GradingCall} {e : CallEnd} {r : ProviderGradeResult}
    (hrec : Recorded runner w x prepared call e) (hout : e.outcome = .returned r) {key : String}
    (hkey : x.rawResponseObjectKey = some key) (hpresent : key ∉ w.removed) :
    ∃ content, w.objects key = some content ∧ content.length ≤ maxPrivateJsonBytes ∧
      dumps runner.lib.json (responseEnvelope runner.env e.claim e.receivedAt r) = .ok content := by
  have hcolumn := hrec.response.1
  rw [hkey, hout] at hcolumn
  obtain rfl : key = buildProviderResponseObjectKey prepared x.id := Option.some.inj hcolumn
  obtain ⟨-, hkept⟩ := hrec.stored (by rw [hout]; rfl)
  rw [hrec.attempt] at hkept
  obtain ⟨content, hobject⟩ := Option.isSome_iff_exists.1 (hkept.resolve_right hpresent)
  obtain ⟨hsize, e', he', hid, hcontent⟩ := h.objects _ _ _ _ _ hobject
  obtain rfl := List.inj_on_of_nodup_map h.once he' hrec.source.ended (hid.trans hrec.attempt.symm)
  obtain ⟨envelope, henvelope, hcontent⟩ := CallEnd.content_eq_some.1 hcontent
  rw [hout] at henvelope
  cases henvelope
  exact ⟨content, hobject, hsize, hcontent⟩

/-- The prompt of a correction of this answer exists exactly if the answer is no larger than a
prompt admits. -/
theorem exists_buildCorrectionPrompt (env : Runtime) {initial : GradingPrompt}
    (issues : List GradeValidationIssue) {r : ProviderGradeResult}
    (htwo : initial.messages.length = 2) :
    (∃ p, buildCorrectionPrompt env initial issues r.outputText = some p) ↔
      r.outputText.utf8ByteSize ≤ 1000000 := by
  have hnonempty : r.outputText ≠ "" := by
    intro hempty
    have hlength := r.outputTextOk.1
    rw [hempty] at hlength
    exact absurd hlength (by decide)
  unfold buildCorrectionPrompt
  split
  next hbad =>
    simp only [htwo, hnonempty, ne_eq, not_true_eq_false, false_or] at hbad
    simp only [reduceCtorEq, exists_false, false_iff]
    omega
  next hgood =>
    simp only [not_or, not_lt] at hgood
    exact iff_of_true ⟨_, rfl⟩ hgood.2.2

/-- The answer that a preparation is to correct. -/
structure Rejected (w : GradingWorld) (p : GradingItemPreparation) (key : String) (x : GradingAttempt)
    (c : ProviderCall) (e : CallEnd) (r : ProviderGradeResult) : Prop where
  row : x ∈ w.store.attempts ∧ x.gradingJobItemId = p.itemId ∧ x.scoringRound = p.dispatchVersion
  rejected : x.errorCode = some correctionRequired ∧ x.rawResponseObjectKey = some key
  called : c ∈ w.calls ∧ c.claim.attemptId = x.id ∧ c.prepared.itemId = p.itemId ∧
    c.call.prompt.messages.length = 2
  ended : e ∈ w.ends ∧ e.claim = c.claim ∧ e.outcome = .returned r

/-- **A correction can be built exactly if the answer fits into its prompt**: everything else that
its call needs was there when the answer was asked for, and has not changed. -/
theorem Rebuildable.corrects (h : Rebuildable runner w) {run : Nat} {p : GradingItemPreparation}
    {key : String} (hphase : w.phase run = .prepared p) (hkey : p.previousResponseObjectKey = some key) :
    ∃ x c e r, Rejected w p key x c e r ∧ (key ∉ w.removed → p.extractedObjectKey ∉ w.removed →
      ((∃ call, buildCall runner.env runner.lib w.objects p = .ok call) ↔
        r.outputText.utf8ByteSize ≤ 1000000)) := by
  obtain ⟨s₀, hseen⟩ : PhaseSeen runner w (.prepared p) := hphase ▸ h.traced.phases run
  have hresponse : p.previousResponseObjectKey =
      (s₀.correctionSource p.itemId p.dispatchVersion).bind (·.rawResponseObjectKey) := by
    rw [← attemptLineage_response, ← hseen.lineage]
  have hdetails : p.previousErrorDetails =
      (s₀.correctionSource p.itemId p.dispatchVersion).bind (·.errorDetails) := by
    rw [← attemptLineage_details, ← hseen.lineage]
  rw [hkey] at hresponse
  obtain ⟨x, hsource, hcolumn⟩ := Option.bind_eq_some_iff.1 hresponse.symm
  rw [hsource, Option.bind_some] at hdetails
  obtain ⟨hx₀, hxi, hxr, hcode⟩ := correctionSource_some hsource
  obtain ⟨-, hx⟩ := hseen.later.kept x hx₀ hxi
  obtain ⟨prepared, call, e, r, issue, hrec, hout, htwo, hissues, haccepts⟩ :=
    corrected_answer h.traced.booked hx hcode
  have hitem : prepared.itemId = p.itemId := (h.traced.booked.item hx hrec).1.trans hxi
  refine ⟨x, _, e, r, ⟨⟨hx, hxi, hxr⟩, ⟨hcode, hcolumn⟩, ⟨hrec.source.called, hrec.attempt, hitem, htwo⟩,
    hrec.source.ended, rfl, hout⟩, fun hpresent hpaper => ?_⟩
  -- the rejected call was built from the same inputs
  have hsame := h.same _ p (.inr (.inr ⟨_, hrec.source.called, rfl⟩)) (.inl ⟨run, hphase⟩) hitem
  rw [hsame.paper] at hpaper
  obtain ⟨objects, hbuilt, hobject⟩ := (h.calls _ hrec.source.called).present hpaper
  rw [buildCall_correction hsame hobject.symm hbuilt (buildCall_initial hbuilt htwo) hkey,
    ← exists_buildCorrectionPrompt runner.env [issue] htwo]
  -- and its answer is still there, with the issue of its row
  obtain ⟨content, hcontent, hsize, hdumps⟩ := h.traced.booked.envelope hrec hout hcolumn hpresent
  refine exists_congr fun prompt => ?_
  rw [correctionPrompt_eq_ok hcontent hdumps, hdetails, hissues]
  constructor
  · rintro ⟨-, issues, hsome, -, -, hbuild⟩
    obtain rfl : [issue] = issues := by simpa using hsome
    exact hbuild
  · intro hbuild
    exact ⟨hsize, [issue], rfl, by simpa using haccepts, by rfl, hbuild⟩

/-- What the calls of an item send. -/
structure Rebuilds (runner : GradingAttemptRunner) (w : GradingWorld) : Prop where
  /-- all calls of an item send the same but for their prompts -/
  same : ∀ c ∈ w.calls, ∀ c' ∈ w.calls, c.prepared.itemId = c'.prepared.itemId →
    c.prepared.extractedObjectKey ∉ w.removed → c'.call.gradeRequest = c.call.gradeRequest ∧
      c'.call.providerRequest = { c.call.providerRequest with prompt := c'.call.prompt }
  /-- all calls that are no corrections send the same -/
  retries : ∀ c ∈ w.calls, ∀ c' ∈ w.calls, c.prepared.itemId = c'.prepared.itemId →
    c.prepared.extractedObjectKey ∉ w.removed → c.call.prompt.messages.length = 2 →
    c'.call.prompt.messages.length = 2 → c'.call = c.call
  /-- a correction can be built exactly if the rejected answer fits into its prompt -/
  corrections : ∀ run p key, w.phase run = .prepared p → p.previousResponseObjectKey = some key →
    ∃ x c e r, Rejected w p key x c e r ∧ (key ∉ w.removed → p.extractedObjectKey ∉ w.removed →
      ((∃ call, buildCall runner.env runner.lib w.objects p = .ok call) ↔
        r.outputText.utf8ByteSize ≤ 1000000))

/-- **The calls of an item send the same request**, whatever the teachers edit between them: a retry
repeats the call, and a correction changes nothing but the prompt. -/
theorem after_rebuilds (events : List (GradingEvent runner.env)) :
    Rebuilds runner (after runner events) := by
  have h := after_rebuildable events
  refine ⟨fun c hc c' hc' hid hpaper => ?_, fun c hc c' hc' hid hpaper htwo htwo' => ?_,
    fun run p key hphase hkey => h.corrects hphase hkey⟩
  · obtain ⟨hsame, _, _, hbuilt, hbuilt', hobject⟩ := h.pair hc hc' hid hpaper
    exact buildCall_same hsame hobject hbuilt hbuilt'
  · obtain ⟨hsame, _, _, hbuilt, hbuilt', hobject⟩ := h.pair hc hc' hid hpaper
    exact buildCall_retry hsame hobject hbuilt hbuilt' htwo htwo'

end GradingWorld

end PaperGrading
