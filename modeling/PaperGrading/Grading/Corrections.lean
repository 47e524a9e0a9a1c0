import PaperGrading.Grading.Audit
import PaperGrading.Grading.Envelopes
import PaperGrading.Store.Lineage

/-!
# What a call is sent

A run prepares its item in one transaction and claims the attempt in another; between the two other
runs may have claimed, failed and queued the item again.  If none has, the attempt names the one
before it as its parent, and the call is sent what the history of its round asks for: the initial
prompt, or the correction of the stored answer that was rejected.  If one has, the parent shows it.

    a rejected answer is the answer that is stored under the key of its attempt   (corrected_answer)
    one step keeps what the runs have seen                                     (GradingMove.traced)
    every run of the world                                                        (after_corrected)
-/

namespace PaperGrading

/-- The prompt of a call, before the hashes are compared. -/
theorem buildCall_prompt {env : Runtime} {lib : GradingLibrary} {objects : String → Option Bytes}
    {prepared : GradingItemPreparation} {call : GradingCall}
    (h : buildCall env lib objects prepared = .ok call) :
    ∃ version, promptOf env lib objects prepared call.gradeRequest version = .ok call.prompt := by
  unfold buildCall at h
  simp only [bind_eq_ok, required_eq_ok, ensure_eq_ok] at h
  obtain ⟨_, -, _, -, _, -, version, -, prompt, hprompt, _, -, _, -, _, -, _, -, h⟩ := h
  cases h
  exact ⟨version, hprompt⟩

namespace GradingWorld

open Store Table

variable {runner : GradingAttemptRunner} {w w' : GradingWorld}

/-! ## Rejected answers -/

/-- **A rejected answer is the answer of its call**, which is stored under the key of its attempt. -/
theorem corrected_answer (h : Booked runner w) {x : GradingAttempt} (hx : x ∈ w.store.attempts)
    (hcode : x.errorCode = some correctionRequired) :
    ∃ prepared call e r issue, Recorded runner w x prepared call e ∧ e.outcome = .returned r ∧
      call.prompt.messages.length = 2 ∧ x.errorDetails = some (.issues [issue]) ∧
      issue.accepts = true := by
  obtain ⟨as, has⟩ := h.accounted.store
  have hfailed : x.status = .failed := by
    by_contra hnot
    have hcodes : ∀ a ∈ w.store.attempts, a.status ≠ .failed → a.errorCode = none :=
      has ▸ after_errorCode as
    have hnone := hcodes x hx hnot
    rw [hcode] at hnone
    cases hnone
  rcases h.rows x hx with ⟨hrun, -⟩ | ⟨hunknown, -⟩ | ⟨prepared, call, e, hrec⟩
  · rw [hfailed] at hrun
    cases hrun
  · rw [hcode] at hunknown
    exact absurd (Option.some.inj hunknown) (by decide)
  · obtain ⟨ending, hending, -, -, hwrote⟩ := hrec.ending
    cases ending with
    | succeeded completion =>
      rw [hfailed] at hwrote
      cases hwrote.1
    | failed failure =>
      obtain ⟨-, hfailure, hdetails, -⟩ := hwrote
      rw [hcode] at hfailure
      have hfailure : failure.errorCode = correctionRequired := (Option.some.inj hfailure).symm
      cases hout : e.outcome with
      | urlError =>
        rw [hout] at hending
        cases hending
        exact absurd hfailure (by decide)
      | adapterError error =>
        rw [hout] at hending
        cases hending
        exact absurd hfailure (providerErrorCode_ne_correction error.codeKnown)
      | returned r =>
        rw [hout] at hending
        rcases answerEnding_cases hending with ⟨_, he⟩ | ⟨issue, htwo, haccepts, he⟩ | ⟨issue, -, he⟩
        · cases he
        · cases he
          exact ⟨prepared, call, e, r, issue, hrec, hout, htwo, hdetails, haccepts⟩
        · cases he
          have hother : invalidAfterCorrection ≠ correctionRequired := by decide
          exact absurd hfailure hother
      | otherException =>
        rw [hout] at hending
        cases hending

/-! ## What the runs have seen -/

/-- The call is sent what its round asks for: the initial prompt, or, after an attempt that asked for
a correction, the correction of the answer of that attempt with the issues of that attempt. -/
def Prompted (runner : GradingAttemptRunner) (w : GradingWorld) (call : GradingCall) :
    Option GradingAttempt → Prop
  | none => ∃ version, call.prompt = buildGradingPrompt runner.env call.gradeRequest version
  | some x => ∃ version issues e r, x.errorDetails = some (.issues issues) ∧ e ∈ w.ends ∧
      e.claim.attemptId = x.id ∧ e.outcome = .returned r ∧
      buildCorrectionPrompt runner.env (buildGradingPrompt runner.env call.gradeRequest version) issues
        r.outputText = some call.prompt

theorem Prompted.mono (hends : ∀ e ∈ w.ends, e ∈ w'.ends) {call : GradingCall}
    {source : Option GradingAttempt} (h : Prompted runner w call source) :
    Prompted runner w' call source := by
  cases source with
  | none => exact h
  | some x =>
    obtain ⟨version, issues, e, r, hdetails, he, hrest⟩ := h
    exact ⟨version, issues, e, r, hdetails, hends e he, hrest⟩

/-- A correction prompt has one message more. -/
theorem Prompted.messages {call : GradingCall} {x : GradingAttempt}
    (h : Prompted runner w call (some x)) : call.prompt.messages.length = 3 := by
  obtain ⟨_, _, _, _, -, -, -, -, hbuild⟩ := h
  exact (buildCorrectionPrompt_some hbuild).1

/-- The preparation shows the item as it was in `s₀`. -/
structure Seen (s₀ s : Store) (prepared : GradingItemPreparation) : Prop where
  lineage : prepared.toAttemptLineage =
    s₀.attemptLineage prepared.itemId prepared.dispatchVersion
  later : Later s₀ s prepared.itemId prepared.dispatchVersion

/-- What a run has seen before its claim. -/
def PhaseSeen (runner : GradingAttemptRunner) (w : GradingWorld) : RunPhase → Prop
  | .prepared prepared => ∃ s₀, Seen s₀ w.store prepared
  | .built prepared call => ∃ s₀, Seen s₀ w.store prepared ∧
      Prompted runner w call (s₀.correctionSource prepared.itemId prepared.dispatchVersion)
  | _ => True

/-- The attempt of a call: what its run had seen (`s₀`), and what was there when it was claimed
(`s₁`). -/
structure CallSeen (runner : GradingAttemptRunner) (w : GradingWorld) (c : ProviderCall)
    (s₀ s₁ : Store) (a : GradingAttempt) : Prop where
  mem : a ∈ w.store.attempts
  id : a.id = c.claim.attemptId
  keys : s₁.Keys
  seen : Later s₀ s₁ a.gradingJobItemId a.scoringRound
  parent : a.parentAttemptId = (s₀.lastAttempt a.gradingJobItemId).map (·.id)
  prompted : Prompted runner w c.call (s₀.correctionSource a.gradingJobItemId a.scoringRound)
  number : a.attemptNumber =
    maxOrZero (fun x => x.gradingJobItemId == a.gradingJobItemId) (·.attemptNumber) s₁.attempts + 1
  later : Later s₁ w.store a.gradingJobItemId a.scoringRound

structure Traced (runner : GradingAttemptRunner) (w : GradingWorld) : Prop where
  booked : Booked runner w
  phases : ∀ run, PhaseSeen runner w (w.phase run)
  calls : ∀ c ∈ w.calls, ∃ s₀ s₁ a, CallSeen runner w c s₀ s₁ a

theorem start_traced : Traced runner start := ⟨start_booked, fun _ => trivial, by simp [start]⟩

theorem GradingMove.later (hw : WellFormed runner.env w.store) (h : GradingMove runner w w')
    {s₀ : Store} {itemId : Uuid} {round : Nat} (hl : Later s₀ w.store itemId round) :
    Later s₀ w'.store itemId round :=
  h.store_kept (P := (Later s₀ · itemId round)) hw (fun _ _ ht hm hl => hl.move ht hm) hl

theorem Seen.mono (hw : WellFormed runner.env w.store) (hm : GradingMove runner w w') {s₀ : Store}
    {prepared : GradingItemPreparation} (h : Seen s₀ w.store prepared) : Seen s₀ w'.store prepared :=
  ⟨h.lineage, hm.later hw h.later⟩

theorem PhaseSeen.mono (hw : WellFormed runner.env w.store) (hm : GradingMove runner w w')
    {p : RunPhase} (h : PhaseSeen runner w p) : PhaseSeen runner w' p := by
  cases p with
  | prepared prepared =>
    obtain ⟨s₀, hseen⟩ := h
    exact ⟨s₀, hseen.mono hw hm⟩
  | built prepared call =>
    obtain ⟨s₀, hseen, hprompted⟩ := h
    exact ⟨s₀, hseen.mono hw hm, hprompted.mono (hm.grows hw).ends⟩
  | _ => trivial

theorem CallSeen.mono (hw : WellFormed runner.env w.store) (hm : GradingMove runner w w')
    {c : ProviderCall} {s₀ s₁ : Store} {a : GradingAttempt} (h : CallSeen runner w c s₀ s₁ a) :
    ∃ a', CallSeen runner w' c s₀ s₁ a' := by
  obtain ⟨a', ha', hident⟩ := hm.store_kept
    (P := fun t => ∃ a' ∈ t.attempts, a'.toAttemptIdentity = a.toAttemptIdentity) hw
    (fun t t' ht hmove ⟨b, hb, he⟩ => by
      obtain ⟨b', hb', he'⟩ := hmove.attempt_kept ht.sound hb
      exact ⟨b', hb', he'.trans he⟩) ⟨a, h.mem, rfl⟩
  refine ⟨a', ha', ?_, h.keys, ?_, ?_, ?_, ?_, ?_⟩
  · rw [hident]
    exact h.id
  · rw [hident]
    exact h.seen
  · rw [hident]
    exact h.parent
  · rw [hident]
    exact h.prompted.mono (hm.grows hw).ends
  · rw [hident]
    exact h.number
  · rw [hident]
    exact hm.later hw h.later

/-! ## One step -/

theorem prepareItem_seen {env : Runtime} {s : Store} (hl : s.Leased) {itemId : Uuid}
    {dispatchVersion : Nat} {now : Time} {prepared : GradingItemPreparation}
    (h : s.prepareItem env itemId dispatchVersion now = .ok (some prepared)) :
    Seen s s prepared := by
  obtain ⟨item, job, _, _, _, _, _, _, _, hrow, -, -, -, -, -, -, -, rfl⟩ := prepareItem_eq_some.1 h
  have hrows := preparationRow_rows hrow
  refine ⟨?_, Later.refl hl hrows.item_mem hrows.queued⟩
  show s.attemptLineage item.id dispatchVersion = s.attemptLineage item.id item.dispatchVersion
  rw [hrows.item_is.2]

/-- **The prompt that is built is the one that the attempts seen ask for**, whatever has been stored
since then. -/
theorem buildCall_prompted (h : Booked runner w) {s₀ : Store} {prepared : GradingItemPreparation}
    (hseen : Seen s₀ w.store prepared) {call : GradingCall}
    (hcall : buildCall runner.env runner.lib w.objects prepared = .ok call) :
    Prompted runner w call (s₀.correctionSource prepared.itemId prepared.dispatchVersion) := by
  obtain ⟨version, hprompt⟩ := buildCall_prompt hcall
  have hkey : prepared.previousResponseObjectKey =
      (s₀.correctionSource prepared.itemId prepared.dispatchVersion).bind (·.rawResponseObjectKey) := by
    rw [← attemptLineage_response, ← hseen.lineage]
  have hdetails : prepared.previousErrorDetails =
      (s₀.correctionSource prepared.itemId prepared.dispatchVersion).bind (·.errorDetails) := by
    rw [← attemptLineage_details, ← hseen.lineage]
  unfold promptOf at hprompt
  cases hsource : s₀.correctionSource prepared.itemId prepared.dispatchVersion with
  | none =>
    rw [hsource, Option.bind_none] at hkey
    rw [hkey] at hprompt
    exact ⟨version, (Except.ok.inj hprompt).symm⟩
  | some x =>
    obtain ⟨hx₀, hxi, -, hcode⟩ := correctionSource_some hsource
    obtain ⟨-, hx⟩ := hseen.later.kept x hx₀ hxi
    obtain ⟨p, c, e, r, issue, hrec, hout, -, -⟩ := corrected_answer h hx hcode
    rw [hsource, Option.bind_some] at hkey hdetails
    rw [hkey, hrec.response.1, hout] at hprompt
    replace hprompt : correctionPrompt runner.env runner.lib w.objects prepared _ _ = .ok call.prompt :=
      hprompt
    obtain ⟨content, hobject⟩ := correctionPrompt_object hprompt
    -- what is stored there is the envelope of the answer
    obtain ⟨-, e', he', hid, hcontent⟩ := h.objects _ _ _ _ _ hobject
    obtain rfl := List.inj_on_of_nodup_map h.once he' hrec.source.ended (hid.trans hrec.attempt.symm)
    obtain ⟨envelope, henvelope, hcontent⟩ := CallEnd.content_eq_some.1 hcontent
    rw [hout] at henvelope
    cases henvelope
    obtain ⟨-, issues, hissues, -, -, hbuild⟩ := (correctionPrompt_eq_ok hobject hcontent).1 hprompt
    exact ⟨version, issues, e', r, hdetails.symm.trans hissues, he', hid, hout, hbuild⟩

theorem Traced.granted (h : Traced runner w) {run : Nat} {prepared : GradingItemPreparation}
    {call : GradingCall} {store : Store} {claim : GradingAttemptClaim} {clock : Clock}
    {attemptId token : Uuid} (hphase : w.phase run = .built prepared call)
    (hc : w.store.claimAttempt prepared call.prompt.callHash clock attemptId token =
      .ok (some claim, store)) :
    ∃ s₀ s₁ a, CallSeen runner { w.setPhase run (.calling prepared call claim) with
      store, calls := w.calls ++ [⟨run, prepared, claim, call⟩] } ⟨run, prepared, claim, call⟩ s₀ s₁ a := by
  obtain ⟨as, has⟩ := h.booked.accounted.store
  have hw := wellFormed_of_store h.booked.accounted.store
  have hl : w.store.Leased := has ▸ after_leased as
  have hmove : GradingMove runner w _ := .granted hphase hc
  obtain ⟨s₀, hseen, hprompted⟩ : PhaseSeen runner w (.built prepared call) := hphase ▸ h.phases run
  obtain ⟨job, item, hclaimed, hclaim⟩ := claimAttempt_granted hw.sound.keys hc
  obtain ⟨hid, hversion⟩ := hclaimed.item_prepared
  refine ⟨s₀, w.store, _, ⟨hclaimed.attempt_mem, by rw [hclaim]; rfl, hw.sound.keys, ?_, ?_, ?_, rfl, ?_⟩⟩
  · show Later s₀ w.store item.id item.dispatchVersion
    rw [hid, hversion]
    exact hseen.later
  · show prepared.parentAttemptId = (s₀.lastAttempt item.id).map (·.id)
    rw [hid, ← attemptLineage_parent, ← hseen.lineage]
  · show Prompted runner _ call (s₀.correctionSource item.id item.dispatchVersion)
    rw [hid, hversion]
    exact hprompted.mono (hmove.grows hw).ends
  · have hany : AnyMove runner.env w.store store := .claimed hclaimed
    exact (Later.refl hl hclaimed.item_mem hclaimed.item_queued).move hw hany

/-- **One step keeps what the runs have seen.** -/
theorem GradingMove.traced (h : Traced runner w) (hm : GradingMove runner w w') : Traced runner w' := by
  have hw := wellFormed_of_store h.booked.accounted.store
  have hbooked := hm.booked h.booked
  have hphases : ∀ run, PhaseSeen runner w' (w.phase run) := fun run => (h.phases run).mono hw hm
  have hset {run : Nat} {p : RunPhase} (hp : PhaseSeen runner w' p) :
      ∀ k, PhaseSeen runner w' (Function.update w.phase run p k) := by
    rw [Function.forall_update_iff w.phase (fun _ q => PhaseSeen runner w' q)]
    exact ⟨hp, fun k _ => hphases k⟩
  have hcalls : ∀ c ∈ w.calls, ∃ s₀ s₁ a, CallSeen runner w' c s₀ s₁ a := by
    intro c hc
    obtain ⟨s₀, s₁, a, hseen⟩ := h.calls c hc
    obtain ⟨a', hseen'⟩ := hseen.mono hw hm
    exact ⟨s₀, s₁, a', hseen'⟩
  cases hm with
  | stays => exact h
  | ended => exact ⟨hbooked, hset trivial, hcalls⟩
  | prepared hphase hp =>
    obtain ⟨as, has⟩ := h.booked.accounted.store
    have hl : w.store.Leased := has ▸ after_leased as
    exact ⟨hbooked, hset ⟨_, prepareItem_seen hl hp⟩, hcalls⟩
  | @built run prepared call hphase hb =>
    obtain ⟨s₀, hseen⟩ : PhaseSeen runner w (.prepared prepared) := hphase ▸ h.phases run
    exact ⟨hbooked, hset ⟨s₀, hseen, buildCall_prompted h.booked hseen hb⟩, hcalls⟩
  | granted hphase hc =>
    refine ⟨hbooked, hset trivial, fun c hmem => ?_⟩
    rcases List.mem_append.1 hmem with hmem | hmem
    · exact hcalls c hmem
    · rw [List.mem_singleton.1 hmem]
      exact h.granted hphase hc
  | abandoned => exact ⟨hbooked, hset trivial, hcalls⟩
  | @called run prepared call claim outcome receivedAt hphase =>
    refine ⟨hbooked, hset ?_, hcalls⟩
    unfold calledPhase
    dsimp only
    split
    · split <;> trivial
    · split <;> trivial
  | put hphase hsize hnext =>
    refine ⟨hbooked, hset ?_, hcalls⟩
    rcases hnext with rfl | ⟨e, -, rfl, -⟩ <;> trivial
  | closed => exact ⟨hbooked, hset trivial, hcalls⟩
  | upload | removed | elsewhere => exact ⟨hbooked, hphases, hcalls⟩

theorem after_traced (events : List (GradingEvent runner.env)) :
    Traced runner (after runner events) :=
  Runs.run_invariant events start_traced fun w e h => (step_moves w e).traced h

/-! ## What an attempt shows -/

/-- The attempt names the one before it. -/
def Fresh (s : Store) (a : GradingAttempt) : Prop :=
  a.parentAttemptId = (s.precedingAttempt a).map (·.id)

/-- The attempts before the attempt of a call are those that were there when it was claimed. -/
theorem CallSeen.before {c : ProviderCall} {s₀ s₁ : Store} {a : GradingAttempt}
    (hpos : ∀ b ∈ w.store.attempts, 0 < b.attemptNumber) (h : CallSeen runner w c s₀ s₁ a)
    {b : GradingAttempt} (hb : b.gradingJobItemId = a.gradingJobItemId) :
    (b ∈ w.store.attempts ∧ b.attemptNumber < a.attemptNumber) ↔ b ∈ s₁.attempts := by
  have hnumber := h.number
  set top := maxOrZero (fun x => x.gradingJobItemId == a.gradingJobItemId) (·.attemptNumber)
    s₁.attempts with htop
  constructor
  · rintro ⟨hmem, hlt⟩
    rcases h.later.added b hmem hb with hseen | ⟨-, hnew⟩
    · exact hseen
    · exfalso
      -- a later attempt has a number above the newest that was there
      have hbpos := hpos b hmem
      by_cases hzero : 0 < top
      · obtain ⟨x, hx, hxi, hxn⟩ := maxOrZero_attained htop.symm hzero
        have := hnew x hx (by simpa using hxi)
        omega
      · omega
  · intro hmem
    have hle : b.attemptNumber ≤ top := le_maxOrZero (p := fun x : GradingAttempt =>
      x.gradingJobItemId == a.gradingJobItemId) (f := fun x => x.attemptNumber) hmem (by simpa using hb)
    exact ⟨(h.later.kept b hmem hb).2, by omega⟩

theorem CallSeen.preceding (hk : w.store.Keys) (hpos : ∀ b ∈ w.store.attempts, 0 < b.attemptNumber)
    {c : ProviderCall} {s₀ s₁ : Store} {a : GradingAttempt} (h : CallSeen runner w c s₀ s₁ a) :
    w.store.precedingAttempt a = s₁.lastAttempt a.gradingJobItemId := by
  refine latest_congr (fun b => ?_) fun x hx y hy hp hq he => ?_
  · simp only [Bool.and_eq_true, beq_iff_eq, decide_eq_true_eq]
    constructor
    · rintro ⟨hmem, hitem, hlt⟩
      exact ⟨(h.before hpos hitem).1 ⟨hmem, hlt⟩, hitem⟩
    · rintro ⟨hmem, hitem⟩
      obtain ⟨hmem, hlt⟩ := (h.before hpos hitem).2 hmem
      exact ⟨hmem, hitem, hlt⟩
  · simp only [Bool.and_eq_true, beq_iff_eq] at hp hq
    exact attempt_eq_of_number hk hx hy (hp.1.trans hq.1.symm) he

theorem CallSeen.correction (hk : w.store.Keys)
    (hpos : ∀ b ∈ w.store.attempts, 0 < b.attemptNumber) {c : ProviderCall} {s₀ s₁ : Store}
    {a : GradingAttempt} (h : CallSeen runner w c s₀ s₁ a)
    (hsame : ∀ b, b.gradingJobItemId = a.gradingJobItemId → (b ∈ s₀.attempts ↔ b ∈ s₁.attempts)) :
    w.store.correctionBefore a = s₀.correctionSource a.gradingJobItemId a.scoringRound := by
  refine latest_congr (fun b => ?_) fun x hx y hy hp hq he => ?_
  · simp only [Bool.and_eq_true, beq_iff_eq, decide_eq_true_eq]
    constructor
    · rintro ⟨hmem, ⟨⟨hitem, hround⟩, hcode⟩, hlt⟩
      exact ⟨(hsame b hitem).2 ((h.before hpos hitem).1 ⟨hmem, hlt⟩), ⟨hitem, hround⟩, hcode⟩
    · rintro ⟨hmem, ⟨hitem, hround⟩, hcode⟩
      obtain ⟨hmem, hlt⟩ := (h.before hpos hitem).2 ((hsame b hitem).1 hmem)
      exact ⟨hmem, ⟨⟨hitem, hround⟩, hcode⟩, hlt⟩
  · simp only [Bool.and_eq_true, beq_iff_eq] at hp hq
    exact attempt_eq_of_number hk hx hy (hp.1.1.1.trans hq.1.1.1.symm) he

/-- A call whose attempt names the attempt before it was sent what its round asks for. -/
theorem CallSeen.fresh (hk : w.store.Keys) (hpos : ∀ b ∈ w.store.attempts, 0 < b.attemptNumber)
    {c : ProviderCall} {s₀ s₁ : Store} {a : GradingAttempt} (h : CallSeen runner w c s₀ s₁ a)
    (hfresh : Fresh w.store a) : Prompted runner w c.call (w.store.correctionBefore a) := by
  unfold Fresh at hfresh
  rw [h.parent, h.preceding hk hpos] at hfresh
  rw [h.correction hk hpos (h.seen.eq_of_last h.keys hfresh)]
  exact h.prompted

/-- Otherwise another attempt of its round was claimed after the preparation. -/
theorem CallSeen.stale (hk : w.store.Keys) (hr : w.store.Rounds)
    (hpos : ∀ b ∈ w.store.attempts, 0 < b.attemptNumber) {c : ProviderCall} {s₀ s₁ : Store}
    {a : GradingAttempt} (h : CallSeen runner w c s₀ s₁ a) (hstale : ¬Fresh w.store a) :
    ∃ x ∈ w.store.attempts, x.gradingJobItemId = a.gradingJobItemId ∧
      x.scoringRound = a.scoringRound ∧ x.attemptNumber < a.attemptNumber ∧
      ∀ y ∈ w.store.attempts, a.parentAttemptId = some y.id → y.attemptNumber < x.attemptNumber := by
  obtain ⟨x, hitem, hx, hnot⟩ : ∃ x, x.gradingJobItemId = a.gradingJobItemId ∧ x ∈ s₁.attempts ∧
      x ∉ s₀.attempts := by
    by_contra hnone
    push Not at hnone
    refine hstale ?_
    unfold Fresh
    rw [h.parent, h.preceding hk hpos]
    unfold lastAttempt
    refine congrArg _ (latest_congr (fun b => ?_) fun u hu v hv hp hq he => ?_)
    · simp only [beq_iff_eq]
      constructor
      · rintro ⟨hb, hbi⟩
        exact ⟨(h.seen.kept b hb hbi).2, hbi⟩
      · rintro ⟨hb, hbi⟩
        exact ⟨hnone b hbi hb, hbi⟩
    · simp only [beq_iff_eq] at hp hq
      exact attempt_eq_of_number h.keys (h.seen.kept u hu hp).2 (h.seen.kept v hv hq).2
        (hp.trans hq.symm) he
  obtain ⟨hmem, hlt⟩ := (h.before hpos hitem).2 hx
  obtain ⟨hround, hnew⟩ := (h.seen.added x hx hitem).resolve_left hnot
  have hle := hr.ordered x hmem a h.mem hitem (by omega)
  refine ⟨x, hmem, hitem, by omega, hlt, fun y hy hparent => ?_⟩
  rw [h.parent, Option.map_eq_some_iff] at hparent
  obtain ⟨z, hz, hid⟩ := hparent
  obtain ⟨hz₀, hzi, -⟩ := lastAttempt_some hz
  have hz₁ := (h.seen.kept z hz₀ hzi).2
  have hzy : z = y := eq_of_key_eq hk.attemptIds ((h.before hpos hzi).2 hz₁).1 hy hid
  exact hzy ▸ hnew z hz₀ hzi

/-! ## Every run -/

/-- What is sent, and how often, by the rows of the attempts. -/
structure Corrected (runner : GradingAttemptRunner) (w : GradingWorld) : Prop where
  /-- an attempt that names the one before it was sent what its round asks for -/
  prompts : ∀ c ∈ w.calls, ∀ a ∈ w.store.attempts, a.id = c.claim.attemptId → Fresh w.store a →
    Prompted runner w c.call (w.store.correctionBefore a)
  /-- one that does not was overtaken by an attempt of its round, between preparation and claim -/
  stale : ∀ c ∈ w.calls, ∀ a ∈ w.store.attempts, a.id = c.claim.attemptId → ¬Fresh w.store a →
    ∃ x ∈ w.store.attempts, x.gradingJobItemId = a.gradingJobItemId ∧
      x.scoringRound = a.scoringRound ∧ x.attemptNumber < a.attemptNumber ∧
      ∀ y ∈ w.store.attempts, a.parentAttemptId = some y.id → y.attemptNumber < x.attemptNumber
  /-- among attempts that name the one before them, one of a round is rejected for correction -/
  once : ∀ x ∈ w.store.attempts, ∀ y ∈ w.store.attempts, Fresh w.store x → Fresh w.store y →
    x.gradingJobItemId = y.gradingJobItemId → x.scoringRound = y.scoringRound →
    x.errorCode = some correctionRequired → y.errorCode = some correctionRequired → x = y
  /-- a round of such attempts has one correction and the retries -/
  bounded : ∀ itemId round, (∀ a ∈ w.store.roundAttempts itemId round, Fresh w.store a) →
    (w.store.roundAttempts itemId round).length ≤ runner.maxProviderRetries + 2

/-- An attempt that was rejected for correction follows none that was. -/
theorem Traced.not_after_correction (h : Traced runner w) {x y : GradingAttempt}
    (hx : x ∈ w.store.attempts) (hy : y ∈ w.store.attempts) (hfresh : Fresh w.store y)
    (hitem : x.gradingJobItemId = y.gradingJobItemId) (hround : x.scoringRound = y.scoringRound)
    (hxc : x.errorCode = some correctionRequired) (hyc : y.errorCode = some correctionRequired) :
    ¬x.attemptNumber < y.attemptNumber := by
  intro hlt
  obtain ⟨as, has⟩ := h.booked.accounted.store
  have hk := (wellFormed_of_store h.booked.accounted.store).sound.keys
  have hpos : ∀ a ∈ w.store.attempts, 0 < a.attemptNumber ∧ 0 < a.callSequence :=
    has ▸ after_position_pos as
  obtain ⟨_, call, e, _, _, hrec, -, htwo, -⟩ := corrected_answer h.booked hy hyc
  obtain ⟨s₀, s₁, a, hseen⟩ := h.calls _ hrec.source.called
  obtain rfl : a = y := eq_of_key_eq hk.attemptIds hseen.mem hy (hseen.id.trans hrec.attempt)
  have hprompted := hseen.fresh hk (fun b hb => (hpos b hb).1) hfresh
  cases hbefore : w.store.correctionBefore a with
  | none =>
    have := latest_eq_none.1 hbefore x hx
    simp [hitem, hround, hxc, hlt] at this
  | some z =>
    rw [hbefore] at hprompted
    have hthree := hprompted.messages
    replace htwo : call.prompt.messages.length = 2 := htwo
    replace hthree : call.prompt.messages.length = 3 := hthree
    omega

theorem Traced.once (h : Traced runner w) {x y : GradingAttempt} (hx : x ∈ w.store.attempts)
    (hy : y ∈ w.store.attempts) (hfx : Fresh w.store x) (hfy : Fresh w.store y)
    (hitem : x.gradingJobItemId = y.gradingJobItemId) (hround : x.scoringRound = y.scoringRound)
    (hxc : x.errorCode = some correctionRequired) (hyc : y.errorCode = some correctionRequired) :
    x = y := by
  have hk := (wellFormed_of_store h.booked.accounted.store).sound.keys
  have h₁ := h.not_after_correction hx hy hfy hitem hround hxc hyc
  have h₂ := h.not_after_correction hy hx hfx hitem.symm hround.symm hyc hxc
  exact attempt_eq_of_number hk hx hy hitem (by omega)

/-- Rows of which no two are alike, and any two of which are the same, are at most one. -/
theorem length_filter_le_one {l : List GradingAttempt} (hnodup : l.Nodup) {p : GradingAttempt → Bool}
    (h : ∀ a ∈ l, ∀ b ∈ l, p a = true → p b = true → a = b) : (l.filter p).length ≤ 1 := by
  have hn := hnodup.filter p
  have hall : ∀ a ∈ l.filter p, ∀ b ∈ l.filter p, a = b := fun a ha b hb =>
    h a (List.mem_filter.1 ha).1 b (List.mem_filter.1 hb).1 (List.mem_filter.1 ha).2
      (List.mem_filter.1 hb).2
  generalize l.filter p = k at hn hall
  match k with
  | [] => simp
  | [a] => simp
  | a :: b :: k =>
    have hab := hall a (by simp) b (by simp)
    rw [hab] at hn
    simp at hn

theorem length_le_of_cover {l : List GradingAttempt} {p q r : GradingAttempt → Bool}
    (h : ∀ a ∈ l, (p a || (q a || r a)) = true) :
    l.length ≤ (l.filter p).length + ((l.filter q).length + (l.filter r).length) := by
  induction l with
  | nil => simp
  | cons a l ih =>
    have hl := ih fun b hb => h b (List.mem_cons_of_mem a hb)
    have ha := h a List.mem_cons_self
    simp only [List.filter_cons, List.length_cons]
    cases hp : p a <;> cases hq : q a <;> cases hr : r a <;> simp [hp, hq, hr] at ha ⊢ <;> omega

/-- The attempts of a round: the last, one that was rejected for correction, and the retries. -/
theorem Traced.bounded (h : Traced runner w) (itemId : Uuid) (round : Nat)
    (hfresh : ∀ a ∈ w.store.roundAttempts itemId round, Fresh w.store a) :
    (w.store.roundAttempts itemId round).length ≤ runner.maxProviderRetries + 2 := by
  have hk := (wellFormed_of_store h.booked.accounted.store).sound.keys
  have hretries := h.booked.accounted.retries itemId round
  set l := w.store.roundAttempts itemId round with hl
  have hmem : ∀ a ∈ l, a ∈ w.store.attempts ∧ a.gradingJobItemId = itemId ∧ a.scoringRound = round :=
    fun a ha => mem_roundAttempts.1 ha
  have hnodup : l.Nodup := (List.Nodup.of_map _ hk.attemptIds).filter _
  let correction : GradingAttempt → Bool := fun a => a.errorCode == some correctionRequired
  let last : GradingAttempt → Bool := fun a => l.all fun b => decide (b.attemptNumber ≤ a.attemptNumber)
  have hcorrection : (l.filter correction).length ≤ 1 := by
    refine length_filter_le_one hnodup fun a ha b hb hac hbc => ?_
    obtain ⟨ham, hai, har⟩ := hmem a ha
    obtain ⟨hbm, hbi, hbr⟩ := hmem b hb
    exact h.once ham hbm (hfresh a ha) (hfresh b hb) (hai.trans hbi.symm) (har.trans hbr.symm)
      (by simpa [correction] using hac) (by simpa [correction] using hbc)
  have hlast : (l.filter last).length ≤ 1 := by
    refine length_filter_le_one hnodup fun a ha b hb hal hbl => ?_
    obtain ⟨ham, hai, har⟩ := hmem a ha
    obtain ⟨hbm, hbi, hbr⟩ := hmem b hb
    have hab := of_decide_eq_true (List.all_eq_true.1 hbl a ha)
    have hba := of_decide_eq_true (List.all_eq_true.1 hal b hb)
    exact attempt_eq_of_number hk ham hbm (hai.trans hbi.symm) (by omega)
  have hcover : ∀ a ∈ l, (retriedIn l a || (correction a || last a)) = true := by
    intro a ha
    by_cases hc : correction a = true
    · rw [hc, Bool.true_or, Bool.or_true]
    by_cases hla : last a = true
    · rw [hla, Bool.or_true, Bool.or_true]
    · -- neither the last nor a correction: it was retried
      have hretried : retriedIn l a = true := by
        obtain ⟨b, hb, hlt⟩ : ∃ b ∈ l, a.attemptNumber < b.attemptNumber := by
          simpa [last] using hla
        unfold retriedIn
        simp only [Bool.and_eq_true, bne_iff_ne, List.any_eq_true, decide_eq_true_eq]
        exact ⟨by simpa [correction] using hc, b, hb, hlt⟩
      rw [hretried, Bool.true_or]
  have hle := length_le_of_cover hcover
  omega

end GradingWorld

end PaperGrading
