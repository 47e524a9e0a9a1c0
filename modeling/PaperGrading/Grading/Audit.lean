import PaperGrading.Grading.CallsOnce
import PaperGrading.Store.Areas
import PaperGrading.Store.Preparation

/-!
# The audit trail of the calls

An attempt that has ended is a record of its call.  Its row says what the runner makes of the end of
that one call, or that the lease expired; the key in its row names the attempt itself; and the
object under that key is the envelope of that call, until retention removes it.

    every transaction of somebody else leaves the ended rows as they are           (step_idle)
    the key of the response names its attempt                                (responseKey_inj)
    one step keeps the records                                           (GradingMove.booked)
    every run of the world                                                    (after_audited)
-/

namespace PaperGrading

/-! ## Transactions of others -/

namespace Store

open Table

variable {env : Runtime} {s s' t : Store}

/-- Attempts stay as they are, but that running ones may expire. -/
def Idle (s s' : Store) : Prop :=
  ∀ a' ∈ s'.attempts, a' ∈ s.attempts ∨
    ∃ a ∈ s.attempts, ∃ now, a.status = .running ∧ a' = expiredAttempt now a

theorem Idle.of_attempts (h : s'.attempts = s.attempts) : Idle s s' := fun _ ha => .inl (h ▸ ha)

/-- An expired attempt does not expire again. -/
theorem Idle.trans (h : Idle s t) (h' : Idle t s') : Idle s s' := by
  intro a' ha'
  rcases h' a' ha' with ha | ⟨a, ha, now, hrun, rfl⟩
  · exact h a' ha
  · rcases h a ha with ha | ⟨b, -, _, -, rfl⟩
    · exact .inr ⟨a, ha, now, hrun, rfl⟩
    · cases hrun

theorem expireOne_idle {clock : Clock} {candidate : Uuid × Uuid}
    (h : expireOne clock s candidate = .ok s') : Idle s s' := by
  unfold expireOne reconcileJob at h
  split at h
  · split at h
    · cases h
    next attempt hattempt =>
      simp only [bind_eq_ok, updateAttempts_eq_ok, updateItems_eq_ok, updateJobs_eq_ok] at h
      obtain ⟨_, ⟨rfl, hcheck, -⟩, _, ⟨rfl, -⟩, _, -, rfl, -⟩ := h
      intro a' ha'
      rcases mem_setWhere.1 ha' with ⟨a, ha, hid, rfl⟩ | ⟨ha, -⟩
      · exact .inr ⟨a, ha, clock.worker, (attemptUpdateCheck_eq_ok.1 (hcheck a ha hid)).1.1, rfl⟩
      · exact .inl ha
  · cases h
    exact .of_attempts rfl

theorem expireStaleAttempts_idle {limit : Nat} {clock : Clock}
    (h : s.expireStaleAttempts limit clock = .ok s') : Idle s s' := by
  unfold expireStaleAttempts at h
  generalize s.expiryCandidates limit clock.database = candidates at h
  induction candidates generalizing s with
  | nil =>
    cases h
    exact .of_attempts rfl
  | cons c candidates ih =>
    rw [List.foldlM_cons, bind_eq_ok] at h
    obtain ⟨t, ht, h⟩ := h
    exact (expireOne_idle ht).trans (ih h)

/-- The services of the teacher's inputs write no attempt. -/
theorem Frame.attempts {area : Area} (h : Frame s s' area) (hne : area ≠ .grading) :
    s'.attempts = s.attempts := by
  cases area with
  | grading => exact absurd rfl hne
  | rubrics | providers | submissions =>
    unfold Frame at h
    rw [h]

/-- **Only the runs end an attempt, but for the expiry of its lease.** -/
theorem exec_idle {a : Action env} (hs : Sound env s) (ha : a.byRunner = false)
    (h : s.exec env a = .ok s') : Idle s s' := by
  have hk := hs.keys
  have hframe : a.area ≠ .grading → Idle s s' := fun hne =>
    .of_attempts ((exec_frame hs h).attempts hne)
  cases a with
  | claimAttempt | finishSuccess | finishFailure => cases ha
  | createOrGetJob =>
    obtain ⟨_, h⟩ := map_snd_eq_ok.1 h
    rcases createOrGetJob_cases hk h with rfl | ⟨_, _, -, hc⟩
    · exact .of_attempts rfl
    · exact .of_attempts (by rw [hc.eq])
  | expireStaleAttempts => exact expireStaleAttempts_idle h
  | controlGradingJob =>
    obtain ⟨_, h⟩ := map_snd_eq_ok.1 h
    rcases controlGradingJob_cases hk h with
      ⟨-, rfl⟩ | ⟨_, -, -, -, ⟨_, hc, -⟩ | ⟨-, hc⟩ | ⟨_, -, -, hc⟩⟩
    · exact .of_attempts rfl
    · exact .of_attempts (by rw [hc.eq])
    · exact .of_attempts (by rw [hc.eq])
    · exact .of_attempts (by rw [hc.eq])
  | saveTeacherReviewDraft =>
    obtain ⟨_, h⟩ := map_snd_eq_ok.1 h
    rcases saveTeacherReviewDraft_cases hk h with ⟨-, rfl⟩ | ⟨_, _, _, -, -, -, hc⟩
    · exact .of_attempts rfl
    · rcases hc.write with ⟨_, _, _, _, _, _, he⟩ | ⟨_, _, _, _, he⟩ <;>
        exact .of_attempts (by rw [he])
  | confirmTeacherReviews teacher =>
    obtain ⟨_, h⟩ := map_snd_eq_ok.1 h
    cases teacher with
    | none =>
      cases h
      exact .of_attempts rfl
    | some teacherId =>
      obtain ⟨-, ⟨-, -, rfl⟩ | ⟨-, -, rfl⟩ | ⟨-, hc⟩⟩ := confirmTeacherReviews_eq_ok.1 h
      · exact .of_attempts rfl
      · exact .of_attempts rfl
      · exact .of_attempts (by rw [hc.eq])
  | _ => exact hframe (by simp [Action.area])

theorem step_idle {a : Action env} (hs : Sound env s) (ha : a.byRunner = false) :
    Idle s (step env s a) :=
  step_induction (P := Idle s) (.of_attempts rfl) fun _ h => exec_idle hs ha h

end Store

/-! ## Keys -/

/-- The key of a response, by the ids of the rows. -/
def responseKey (ownerId jobId itemId attemptId : Uuid) : String :=
  attemptDirectory ownerId jobId itemId attemptId ++ "/provider-response.v1.json"

theorem buildProviderResponseObjectKey_eq (prepared : GradingItemPreparation) (attemptId : Uuid) :
    buildProviderResponseObjectKey prepared attemptId =
      responseKey prepared.ownerId prepared.jobId prepared.itemId attemptId := rfl

/-- **The key of a response names its attempt.** -/
theorem responseKey_inj {o o' j j' i i' a a' : Uuid}
    (h : responseKey o j i a = responseKey o' j' i' a') : a = a' := by
  obtain ⟨h, -⟩ := append_inj_of_toList h rfl
  obtain ⟨-, h⟩ := append_inj_of_toList h (by rw [length_uuidText, length_uuidText])
  exact uuidText_inj h

/-- No upload writes to the key of a response: the names of the files differ. -/
theorem responseKey_ne_blocks (o j i a : Uuid) (directory : String) :
    responseKey o j i a ≠ directory ++ "/document-blocks.v1.json" := by
  intro h
  have hlast := congrArg (fun s : String => s.toList.reverse.take 9) h
  unfold responseKey at hlast
  simp only [String.toList_append, List.reverse_append] at hlast
  rw [List.take_append_of_le_length (by decide), List.take_append_of_le_length (by decide)] at hlast
  exact absurd hlast (by decide)

/-! ## What a call leaves behind -/

/-- The object that the run stores at the end of the call. -/
def CallEnd.content (runner : GradingAttemptRunner) (e : CallEnd) : Option Bytes :=
  (callEnvelope runner.env e.claim e.receivedAt e.outcome).bind fun envelope =>
    (dumps runner.lib.json envelope).toOption

theorem CallEnd.content_eq_some {runner : GradingAttemptRunner} {e : CallEnd} {content : Bytes} :
    e.content runner = some content ↔
      ∃ envelope, callEnvelope runner.env e.claim e.receivedAt e.outcome = some envelope ∧
        dumps runner.lib.json envelope = .ok content := by
  unfold CallEnd.content
  rw [Option.bind_eq_some_iff]
  refine exists_congr fun envelope => and_congr_right fun _ => ?_
  cases dumps runner.lib.json envelope <;> simp [Except.toOption]

/-- The hash of the answer, or of the response that came with an error. -/
def ProviderOutcome.responseHash (env : Runtime) : ProviderOutcome → Option Hash
  | .returned r => some r.rawResponseSha256
  | .adapterError e => e.response.map fun r => env.sha256 r.rawBody
  | .urlError | .otherException => none

theorem isSome_callEnvelope (env : Runtime) (claim : GradingAttemptClaim) (receivedAt : Time)
    (outcome : ProviderOutcome) :
    (callEnvelope env claim receivedAt outcome).isSome = (outcome.responseHash env).isSome := by
  cases outcome <;> simp [callEnvelope, ProviderOutcome.responseHash]

/-- The columns of the response. -/
def AttemptEnding.response : AttemptEnding → Option String × Option Hash
  | .succeeded completion => (some completion.responseObjectKey, some completion.responseObjectSha256)
  | .failed failure => (failure.responseObjectKey, failure.responseObjectSha256)

/-- A run names the response exactly when it has stored one. -/
theorem callEnding_response {env : Runtime} {lib : GradingLibrary} {maxProviderRetries : Nat}
    {prepared : GradingItemPreparation} {call : GradingCall} {claim : GradingAttemptClaim}
    {outcome : ProviderOutcome} {ending : AttemptEnding}
    (h : callEnding env lib maxProviderRetries prepared call claim outcome = .ok ending) :
    ending.response = ((outcome.responseHash env).map fun _ =>
      buildProviderResponseObjectKey prepared claim.attemptId, outcome.responseHash env) := by
  cases outcome with
  | urlError =>
    cases h
    rfl
  | adapterError e =>
    cases h
    simp [AttemptEnding.response, adapterFailure, ProviderOutcome.responseHash, Option.map_map,
      Function.comp_def]
  | returned r =>
    rcases answerEnding_cases h with ⟨_, rfl⟩ | ⟨issue, -, -, rfl⟩ | ⟨issue, -, rfl⟩ <;> rfl
  | otherException => cases h

/-- What is known of the call when it is closed. -/
def AttemptEnding.callState : AttemptEnding → ProviderCallState
  | .succeeded _ => .responseReceived
  | .failed failure => failure.providerCallState

/-- A call that is closed as answered had an answer. -/
theorem callEnding_answered {env : Runtime} {lib : GradingLibrary} {maxProviderRetries : Nat}
    {prepared : GradingItemPreparation} {call : GradingCall} {claim : GradingAttemptClaim}
    {outcome : ProviderOutcome} {ending : AttemptEnding}
    (h : callEnding env lib maxProviderRetries prepared call claim outcome = .ok ending)
    (hstate : ending.callState = .responseReceived) : (outcome.responseHash env).isSome := by
  cases outcome with
  | urlError =>
    cases h
    cases hstate
  | adapterError e =>
    cases h
    replace hstate : adapterCallState e = .responseReceived := hstate
    unfold adapterCallState at hstate
    split at hstate
    next hresponse => simpa [ProviderOutcome.responseHash] using hresponse
    · split at hstate <;> cases hstate
  | returned r => rfl
  | otherException => cases h

/-- The row says what the ending says. -/
def AttemptEnding.Wrote (ending : AttemptEnding) (a : GradingAttempt) : Prop :=
  (a.rawResponseObjectKey, a.rawResponseSha256) = ending.response ∧
    a.providerCallState = ending.callState ∧
    match ending with
    | .succeeded completion => a.status = .succeeded ∧
        resultColumns completion.validatedResult = .ok a.toAttemptResult ∧
        usageColumns completion.providerResult = .ok a.toAttemptUsage
    | .failed failure => a.status = .failed ∧
        a.errorCode = some failure.errorCode ∧ a.errorDetails = some failure.errorDetails ∧
        ∀ r, failure.providerResult = some r → usageColumns r = .ok a.toAttemptUsage

namespace GradingWorld

open Store Table

variable {runner : GradingAttemptRunner} {w w' : GradingWorld}

/-- The transaction that closes an attempt writes its ending into the row of the claim. -/
theorem finish_wrote {s s' : Store} (hk : s.Keys) {claim : GradingAttemptClaim} {clock : Clock}
    {ending : AttemptEnding} (h : finish s claim clock ending = .ok s') :
    ∃ a ∈ s.attempts, a.id = claim.attemptId ∧ ∃ a', a'.toAttemptIdentity = a.toAttemptIdentity ∧
      ending.Wrote a' ∧ s'.attempts = replaceRow (·.id) a a' s.attempts := by
  have hset {a : GradingAttempt} (ha : a ∈ s.attempts) (set : GradingAttempt → GradingAttempt) :
      setWhere (·.id == a.id) set s.attempts = replaceRow (·.id) a (set a) s.attempts :=
    setWhere_eq_replaceRow hk.attemptIds ha (by simp) (fun x _ hx => by simpa using hx) set
  cases ending with
  | succeeded completion =>
    unfold finish finishSuccess reconcileJob at h
    simp only [bind_eq_ok, updateAttempts_eq_ok, updateItems_eq_ok, updateJobs_eq_ok] at h
    obtain ⟨⟨job, item, a⟩, hlock, result, hresult, usage, husage, _, ⟨rfl, -⟩, _, ⟨rfl, -⟩, _, -,
      rfl, -⟩ := h
    obtain ⟨-, -, ha, -, -, -, -, hid, -⟩ := lockClaimed_eq_ok hlock
    exact ⟨a, ha, hid, succeededAttempt completion result usage clock.worker a, rfl,
      ⟨rfl, rfl, rfl, hresult, husage⟩, hset ha _⟩
  | failed failure =>
    unfold finish finishFailure reconcileJob at h
    simp only [bind_eq_ok, updateAttempts_eq_ok, updateItems_eq_ok, updateJobs_eq_ok] at h
    obtain ⟨⟨job, item, a⟩, hlock, usage, husage, _, ⟨rfl, -⟩, _, ⟨rfl, -⟩, _, -, rfl, -⟩ := h
    obtain ⟨-, -, ha, -, -, -, -, hid, -⟩ := lockClaimed_eq_ok hlock
    refine ⟨a, ha, hid, failedAttempt failure usage clock.worker a, rfl,
      ⟨rfl, rfl, rfl, rfl, rfl, fun r hr => ?_⟩, hset ha _⟩
    unfold failureUsage at husage
    rw [hr] at husage
    exact husage

/-! ## The books -/

/-- The item of the preparation. -/
def Located (s : Store) (prepared : GradingItemPreparation) : Prop :=
  ∃ i ∈ s.items, i.id = prepared.itemId ∧ i.ownerId = prepared.ownerId ∧
    i.gradingJobId = prepared.jobId

/-- The claim is that of an attempt of the item that was prepared. -/
def Granted (s : Store) (prepared : GradingItemPreparation) (claim : GradingAttemptClaim) : Prop :=
  Located s prepared ∧ s.Vouched claim ∧
    ∃ a ∈ s.attempts, a.id = claim.attemptId ∧ a.gradingJobItemId = prepared.itemId

/-- The object is there, or retention has removed it. -/
def Kept (w : GradingWorld) (key : String) : Prop := (w.objects key).isSome ∨ key ∈ w.removed

/-- A call of the run, for this preparation and claim, and how it ended. -/
structure CallOf (w : GradingWorld) (run : Nat) (prepared : GradingItemPreparation)
    (claim : GradingAttemptClaim) (call : GradingCall) (e : CallEnd) : Prop where
  called : ⟨run, prepared, claim, call⟩ ∈ w.calls
  ended : e ∈ w.ends
  same : e.run = run ∧ e.claim = claim

/-- The response, if there is one, was stored under the key of the attempt. -/
def Stored (runner : GradingAttemptRunner) (w : GradingWorld) (prepared : GradingItemPreparation)
    (e : CallEnd) : Prop :=
  (e.outcome.responseHash runner.env).isSome → (e.content runner).isSome ∧
    Kept w (buildProviderResponseObjectKey prepared e.claim.attemptId)

/-- What a run holds while it waits. -/
def PhaseBooked (runner : GradingAttemptRunner) (w : GradingWorld) (run : Nat) : RunPhase → Prop
  | .prepared prepared | .built prepared _ => Located w.store prepared
  | .calling prepared call claim => ⟨run, prepared, claim, call⟩ ∈ w.calls ∧
      ∀ e ∈ w.ends, e.claim.attemptId ≠ claim.attemptId
  | .storing prepared claim content ending => ∃ call e, CallOf w run prepared claim call e ∧
      e.content runner = some content ∧ ending =
        callEnding runner.env runner.lib runner.maxProviderRetries prepared call claim e.outcome
  | .closing claim ending => ∃ prepared call e, CallOf w run prepared claim call e ∧
      callEnding runner.env runner.lib runner.maxProviderRetries prepared call claim e.outcome =
        .ok ending ∧ Stored runner w prepared e
  | .waiting | .done _ => True

/-- The row is the record of this call. -/
structure Recorded (runner : GradingAttemptRunner) (w : GradingWorld) (a : GradingAttempt)
    (prepared : GradingItemPreparation) (call : GradingCall) (e : CallEnd) : Prop where
  source : CallOf w e.run prepared e.claim call e
  attempt : e.claim.attemptId = a.id
  ending : ∃ ending, callEnding runner.env runner.lib runner.maxProviderRetries prepared call e.claim
    e.outcome = .ok ending ∧ ending.Wrote a
  stored : Stored runner w prepared e

/-- The row of an attempt whose lease has expired. -/
def Expired (a : GradingAttempt) : Prop :=
  a.errorCode = some outcomeUnknown ∧ a.providerCallState = .ambiguous ∧ a.rawResponseObjectKey = none

/-- The attempt runs, its lease has expired, or its row is the record of a call. -/
def RowBooked (runner : GradingAttemptRunner) (w : GradingWorld) (a : GradingAttempt) : Prop :=
  (a.status = .running ∧ a.providerCallState = .started ∧ a.rawResponseObjectKey = none) ∨
    Expired a ∨ ∃ prepared call e, Recorded runner w a prepared call e

structure Booked (runner : GradingAttemptRunner) (w : GradingWorld) : Prop where
  accounted : Accounted runner w
  phases : ∀ run, PhaseBooked runner w run (w.phase run)
  rows : ∀ a ∈ w.store.attempts, RowBooked runner w a
  granted : ∀ c ∈ w.calls, Granted w.store c.prepared c.claim
  hashes : ∀ c ∈ w.calls, c.claim.requestHash = c.call.prompt.callHash
  calls : ∀ e ∈ w.ends, ∃ c ∈ w.calls, c.run = e.run ∧ c.claim = e.claim
  once : (w.ends.map (·.claim.attemptId)).Nodup
  objects : ∀ o j i a content, w.objects (responseKey o j i a) = some content →
    content.length ≤ maxPrivateJsonBytes ∧
      ∃ e ∈ w.ends, e.claim.attemptId = a ∧ e.content runner = some content

theorem start_booked : Booked runner start :=
  ⟨start_accounted, fun _ => trivial, by simp [start, Store.empty], by simp [start], by simp [start],
    by simp [start], by simp [start], by simp [start]⟩

/-! ## What a step keeps -/

/-- What the transactions of a store keep is kept by a step of the world. -/
theorem GradingMove.store_kept {P : Store → Prop} (hw : WellFormed runner.env w.store)
    (h : GradingMove runner w w')
    (hP : ∀ t t', WellFormed runner.env t → AnyMove runner.env t t' → P t → P t')
    (h0 : P w.store) : P w'.store := by
  rcases h.store with he | ⟨a, he⟩
  · rw [he]
    exact h0
  · rw [he]
    exact step_invariant hw (failureIs_true a) (fun _ => False.elim) hP h0

theorem located_of_move {env : Runtime} {s s' : Store} (hw : WellFormed env s) (h : AnyMove env s s')
    {prepared : GradingItemPreparation} (hp : Located s prepared) : Located s' prepared := by
  obtain ⟨i, hi, hid, howner, hjob⟩ := hp
  obtain ⟨i', hi', he⟩ := h.item_kept hw.sound hi
  exact ⟨i', hi', by rw [he, hid], by rw [he, howner], by rw [he, hjob]⟩

/-- The books only grow. -/
structure Grows (w w' : GradingWorld) : Prop where
  located : ∀ p, Located w.store p → Located w'.store p
  granted : ∀ p claim, Granted w.store p claim → Granted w'.store p claim
  calls : ∀ c ∈ w.calls, c ∈ w'.calls
  ends : ∀ e ∈ w.ends, e ∈ w'.ends
  kept : ∀ key, Kept w key → Kept w' key

theorem isSome_putOnce {key key' : String} {content : Bytes} (h : (w.objects key').isSome) :
    (w.putOnce key content key').isSome := by
  unfold putOnce
  by_cases hk : key' = key
  · subst hk
    rw [Function.update_self, Option.isSome_or, h, Bool.true_or]
  · rw [Function.update_of_ne hk]
    exact h

theorem isSome_putOnce_self (w : GradingWorld) (key : String) (content : Bytes) :
    (w.putOnce key content key).isSome := by
  unfold putOnce
  rw [Function.update_self]
  cases w.objects key <;> rfl

/-- What is under a key after the request was there before, or is what the request brought. -/
theorem putOnce_eq_some {key key' : String} {content old : Bytes}
    (h : w.putOnce key content key' = some old) :
    w.objects key' = some old ∨ (key' = key ∧ old = content ∧ w.objects key = none) := by
  unfold putOnce at h
  by_cases hk : key' = key
  · subst hk
    rw [Function.update_self] at h
    cases hobj : w.objects key' with
    | none =>
      rw [hobj] at h
      exact .inr ⟨rfl, (Option.some.inj h).symm, rfl⟩
    | some x =>
      rw [hobj] at h
      exact .inl h
  · rw [Function.update_of_ne hk] at h
    exact .inl h

theorem GradingMove.kept (h : GradingMove runner w w') {key : String} (hkept : Kept w key) :
    Kept w' key := by
  cases h with
  | put | upload => exact hkept.imp_left isSome_putOnce
  | removed key' =>
    by_cases hk : key = key'
    · exact .inr (by simp [hk])
    · refine hkept.imp (fun h => ?_) fun h => List.mem_append_left _ h
      show (Function.update w.objects key' none key).isSome
      rw [Function.update_of_ne hk]
      exact h
  | _ => exact hkept

theorem GradingMove.grows (hw : WellFormed runner.env w.store) (h : GradingMove runner w w') :
    Grows w w' := by
  have hlocated : ∀ p, Located w.store p → Located w'.store p := fun p =>
    h.store_kept (P := (Located · p)) hw fun _ _ ht hm => located_of_move ht hm
  refine ⟨hlocated, ?_, ?_, ?_, fun _ => h.kept⟩
  · rintro p claim ⟨hp, hv, hmem⟩
    refine ⟨hlocated p hp, h.vouched hw hv, ?_⟩
    refine h.store_kept (P := fun t => ∃ a ∈ t.attempts, a.id = claim.attemptId ∧
      a.gradingJobItemId = p.itemId) hw (fun t t' ht hm => ?_) hmem
    rintro ⟨a, ha, hid, hitem⟩
    obtain ⟨a', ha', he⟩ := hm.attempt_kept ht.sound ha
    exact ⟨a', ha', by rw [he, hid], by rw [he, hitem]⟩
  · intro c hc
    cases h with
    | granted => exact List.mem_append_left _ hc
    | _ => exact hc
  · intro e he
    cases h with
    | called => exact List.mem_append_left _ he
    | _ => exact he

theorem CallOf.mono (hg : Grows w w') {run : Nat} {prepared : GradingItemPreparation}
    {claim : GradingAttemptClaim} {call : GradingCall} {e : CallEnd}
    (h : CallOf w run prepared claim call e) : CallOf w' run prepared claim call e :=
  ⟨hg.calls _ h.called, hg.ends _ h.ended, h.same⟩

theorem Stored.mono (hg : Grows w w') {prepared : GradingItemPreparation} {e : CallEnd}
    (h : Stored runner w prepared e) : Stored runner w' prepared e := fun hs =>
  ⟨(h hs).1, hg.kept _ (h hs).2⟩

theorem RowBooked.mono (hg : Grows w w') {a : GradingAttempt} (h : RowBooked runner w a) :
    RowBooked runner w' a := by
  rcases h with h | h | ⟨prepared, call, e, h⟩
  · exact .inl h
  · exact .inr (.inl h)
  · exact .inr (.inr ⟨prepared, call, e, h.source.mono hg, h.attempt, h.ending, h.stored.mono hg⟩)

/-- The phase of a run that does not move. -/
theorem PhaseBooked.mono (hg : Grows w w') {run : Nat} {p : RunPhase}
    (hfresh : ∀ claim, p.claim? = some claim → ∀ e ∈ w'.ends, e ∉ w.ends →
      e.claim.attemptId ≠ claim.attemptId)
    (h : PhaseBooked runner w run p) : PhaseBooked runner w' run p := by
  cases p with
  | prepared | built => exact hg.located _ h
  | calling prepared call claim =>
    refine ⟨hg.calls _ h.1, fun e he => ?_⟩
    by_cases hold : e ∈ w.ends
    · exact h.2 e hold
    · exact hfresh claim rfl e he hold
  | storing prepared claim content ending =>
    obtain ⟨call, e, hcall, hrest⟩ := h
    exact ⟨call, e, hcall.mono hg, hrest⟩
  | closing claim ending =>
    obtain ⟨prepared, call, e, hcall, hending, hstored⟩ := h
    exact ⟨prepared, call, e, hcall.mono hg, hending, hstored.mono hg⟩
  | waiting | done => trivial

/-- A run that holds a claim has called with it. -/
theorem PhaseBooked.called {run : Nat} {p : RunPhase} (h : PhaseBooked runner w run p)
    {claim : GradingAttemptClaim} (hclaim : p.claim? = some claim) :
    ∃ c ∈ w.calls, c.run = run ∧ c.claim = claim := by
  cases p with
  | calling prepared call c =>
    cases hclaim
    exact ⟨_, h.1, rfl, rfl⟩
  | storing prepared c content ending =>
    cases hclaim
    obtain ⟨call, e, hcall, -⟩ := h
    exact ⟨_, hcall.called, rfl, rfl⟩
  | closing c ending =>
    cases hclaim
    obtain ⟨prepared, call, e, hcall, -⟩ := h
    exact ⟨_, hcall.called, rfl, rfl⟩
  | _ => cases hclaim

/-- No two runs hold a claim of the same attempt. -/
theorem Booked.holder_unique (h : Booked runner w) {run run' : Nat} {claim claim' : GradingAttemptClaim}
    (hr : (w.phase run).claim? = some claim) (hr' : (w.phase run').claim? = some claim')
    (hid : claim.attemptId = claim'.attemptId) : run = run' := by
  obtain ⟨c, hc, rfl, rfl⟩ := (h.phases run).called hr
  obtain ⟨c', hc', rfl, rfl⟩ := (h.phases run').called hr'
  exact congrArg ProviderCall.run (List.inj_on_of_nodup_map h.accounted.once hc hc' hid)

/-! ## One step -/

theorem prepareItem_located {env : Runtime} {s : Store} {itemId : Uuid} {dispatchVersion : Nat}
    {now : Time} {prepared : GradingItemPreparation}
    (h : s.prepareItem env itemId dispatchVersion now = .ok (some prepared)) : Located s prepared := by
  obtain ⟨item, job, _, _, _, _, _, _, _, hrow, -, -, -, -, -, -, -, rfl⟩ := prepareItem_eq_some.1 h
  have hrows := preparationRow_rows hrow
  exact ⟨item, hrows.item_mem, rfl, rfl, hrows.job_is.1.symm⟩

/-- What a step that writes no row and ends no call must show. -/
theorem Booked.of_same (h : Booked runner w) (ha : Accounted runner w') (hg : Grows w w')
    (hattempts : w'.store.attempts = w.store.attempts) (hcalls : w'.calls = w.calls)
    (hends : w'.ends = w.ends) (hobjects : w'.objects = w.objects)
    (hphases : ∀ run, PhaseBooked runner w' run (w'.phase run)) : Booked runner w' := by
  refine ⟨ha, hphases, ?_, ?_, ?_, ?_, ?_, ?_⟩
  · rw [hattempts]
    exact fun a ha => (h.rows a ha).mono hg
  · rw [hcalls]
    exact fun c hc => hg.granted _ _ (h.granted c hc)
  · rw [hcalls]
    exact h.hashes
  · rw [hcalls, hends]
    exact h.calls
  · rw [hends]
    exact h.once
  · rw [hobjects, hends]
    exact h.objects

/-- The phases after a step of one run that ends no call. -/
theorem Booked.phases_set (h : Booked runner w) (hg : Grows w w') (hends : w'.ends = w.ends)
    {run : Nat} {p : RunPhase} (hp : PhaseBooked runner w' run p) :
    ∀ k, PhaseBooked runner w' k (Function.update w.phase run p k) := by
  rw [Function.forall_update_iff w.phase (fun k q => PhaseBooked runner w' k q)]
  exact ⟨hp, fun k _ => (h.phases k).mono hg fun _ _ e he hnot => absurd (hends ▸ he) hnot⟩

/-- The rows after a claim. -/
theorem Booked.rows_claimed (h : Booked runner w) (hg : Grows w w')
    {prepared : GradingItemPreparation} {job : GradingJob} {item : GradingJobItem}
    {attempt : GradingAttempt} {clock : Clock} {token : Uuid}
    (hc : Claimed w.store w'.store prepared job item attempt clock token) :
    ∀ a ∈ w'.store.attempts, RowBooked runner w' a := by
  intro a ha
  rw [congrArg Store.attempts hc.eq] at ha
  rcases List.mem_append.1 ha with ha | ha
  · exact (h.rows a ha).mono hg
  · obtain ⟨hash, id, he⟩ := hc.attempt_eq
    rw [List.mem_singleton.1 ha, he]
    exact .inl ⟨rfl, rfl, rfl⟩

theorem Booked.claimed (h : Booked runner w) {run : Nat} {prepared : GradingItemPreparation}
    {call : GradingCall} {store : Store} {claim : GradingAttemptClaim} {clock : Clock}
    {attemptId token : Uuid} (hphase : w.phase run = .built prepared call)
    (hc : w.store.claimAttempt prepared call.prompt.callHash clock attemptId token =
      .ok (some claim, store)) :
    Booked runner { w.setPhase run (.calling prepared call claim) with
      store, calls := w.calls ++ [⟨run, prepared, claim, call⟩] } := by
  have hw := wellFormed_of_store h.accounted.store
  have hmove : GradingMove runner w _ := .granted hphase hc
  have hg := hmove.grows hw
  obtain ⟨hv, hfresh⟩ := claimAttempt_vouched hw.sound.keys hc
  obtain ⟨job, item, hclaimed, hclaim⟩ := claimAttempt_granted hw.sound.keys hc
  have hlocated : Located w.store prepared := by
    have := h.phases run
    rw [hphase] at this
    exact this
  have hends : ∀ e ∈ w.ends, e.claim.attemptId ≠ claim.attemptId := by
    intro e he hid
    obtain ⟨c, hcm, -, hcc⟩ := h.calls e he
    obtain ⟨a, ha, haid, -⟩ := h.accounted.calls c hcm
    exact hfresh a ha (haid.trans ((congrArg GradingAttemptClaim.attemptId hcc).trans hid))
  have hcall : ⟨run, prepared, claim, call⟩ ∈ w.calls ++ [⟨run, prepared, claim, call⟩] :=
    List.mem_append_right _ (List.mem_singleton_self _)
  refine ⟨hmove.accounted h.accounted, h.phases_set hg rfl ⟨hcall, hends⟩, h.rows_claimed hg hclaimed,
    ?_, ?_, ?_, h.once, h.objects⟩
  · intro c hcm
    rcases List.mem_append.1 hcm with hcm | hcm
    · exact hg.granted _ _ (h.granted c hcm)
    · rw [List.mem_singleton.1 hcm]
      refine ⟨hg.located _ hlocated, hv, _, hclaimed.attempt_mem, ?_, hclaimed.item_prepared.1⟩
      rw [hclaim]
      rfl
  · intro c hcm
    rcases List.mem_append.1 hcm with hcm | hcm
    · exact h.hashes c hcm
    · rw [List.mem_singleton.1 hcm, hclaim]
  · intro e he
    obtain ⟨c, hcm, hce⟩ := h.calls e he
    exact ⟨c, List.mem_append_left _ hcm, hce⟩

/-- What the run holds after its call. -/
theorem calledPhase_booked {run : Nat} {prepared : GradingItemPreparation} {call : GradingCall}
    {claim : GradingAttemptClaim} {outcome : ProviderOutcome} {receivedAt : Time} {e : CallEnd}
    (he : e = ⟨run, claim, outcome, receivedAt⟩) (hcall : CallOf w run prepared claim call e) :
    PhaseBooked runner w run (calledPhase runner prepared call claim receivedAt outcome) := by
  subst he
  unfold calledPhase
  dsimp only
  split
  next envelope henvelope =>
    split
    next content hcontent =>
      exact ⟨call, _, hcall, CallEnd.content_eq_some.2 ⟨envelope, henvelope, hcontent⟩, rfl⟩
    · trivial
  next henvelope =>
    split
    next ending hending =>
      refine ⟨prepared, call, _, hcall, hending, fun hs => ?_⟩
      -- there is no response to store
      have hnone := isSome_callEnvelope runner.env claim receivedAt outcome
      rw [henvelope] at hnone
      rw [← hnone] at hs
      cases hs
    · trivial

theorem Booked.called (h : Booked runner w) {run : Nat} {prepared : GradingItemPreparation}
    {call : GradingCall} {claim : GradingAttemptClaim} {outcome : ProviderOutcome} {receivedAt : Time}
    (hphase : w.phase run = .calling prepared call claim) :
    Booked runner { w.setPhase run (calledPhase runner prepared call claim receivedAt outcome) with
      ends := w.ends ++ [⟨run, claim, outcome, receivedAt⟩] } := by
  have hw := wellFormed_of_store h.accounted.store
  have hmove := @GradingMove.called runner w run prepared call claim outcome receivedAt hphase
  have hg := hmove.grows hw
  obtain ⟨hcall, hnone⟩ : PhaseBooked runner w run (.calling prepared call claim) :=
    hphase ▸ h.phases run
  refine ⟨hmove.accounted h.accounted, ?_, fun a ha => (h.rows a ha).mono hg, h.granted, h.hashes, ?_,
    ?_, ?_⟩
  · refine (Function.forall_update_iff w.phase fun k q => PhaseBooked runner _ k q).2 ⟨?_, ?_⟩
    · exact calledPhase_booked rfl ⟨hcall, List.mem_append_right _ (List.mem_singleton_self _),
        rfl, rfl⟩
    · intro k hne
      refine (h.phases k).mono hg fun claim' hclaim' e he hnot hid => hne ?_
      obtain rfl : e = _ := List.mem_singleton.1 ((List.mem_append.1 he).resolve_left hnot)
      exact h.holder_unique hclaim' (by rw [hphase]; rfl) hid.symm
  · intro e he
    rcases List.mem_append.1 he with he | he
    · exact h.calls e he
    · rw [List.mem_singleton.1 he]
      exact ⟨_, hcall, rfl, rfl⟩
  · show (List.map _ (w.ends ++ [_])).Nodup
    rw [List.map_append, List.map_singleton, List.nodup_append]
    refine ⟨h.once, by simp, ?_⟩
    intro x hx y hy hxy
    obtain ⟨e, he, rfl⟩ := List.mem_map.1 hx
    rw [List.mem_singleton.1 hy] at hxy
    exact hnone e he hxy
  · intro o j i a content hcontent
    obtain ⟨hsize, e, he, hrest⟩ := h.objects o j i a content hcontent
    exact ⟨hsize, e, List.mem_append_left _ he, hrest⟩

/-- Under the key of an attempt there is the envelope of its own call, or nothing. -/
theorem Booked.agrees (h : Booked runner w) (prepared : GradingItemPreparation) {e : CallEnd}
    {content : Bytes} (he : e ∈ w.ends) (hcontent : e.content runner = some content) :
    (w.objects (buildProviderResponseObjectKey prepared e.claim.attemptId)).all (· == content) := by
  rw [Option.all_eq_true]
  intro old hold
  obtain ⟨-, e', he', hid, hcontent'⟩ := h.objects _ _ _ _ _ hold
  rw [List.inj_on_of_nodup_map h.once he' he hid, hcontent] at hcontent'
  exact beq_iff_eq.2 (Option.some.inj hcontent').symm

theorem Booked.put (h : Booked runner w) {run : Nat} {prepared : GradingItemPreparation}
    {claim : GradingAttemptClaim} {content : Bytes} {ending : Except RunException AttemptEnding}
    {next : RunPhase} (hphase : w.phase run = .storing prepared claim content ending)
    (hsize : content.length ≤ maxPrivateJsonBytes)
    (hnext : next = .done none ∨ ∃ e, ending = .ok e ∧ next = .closing claim e ∧
      (w.objects (buildProviderResponseObjectKey prepared claim.attemptId)).all (· == content)) :
    Booked runner { w.setPhase run next with
      objects := w.putOnce (buildProviderResponseObjectKey prepared claim.attemptId) content } := by
  have hw := wellFormed_of_store h.accounted.store
  have hmove : GradingMove runner w _ := .put hphase hsize hnext
  have hg := hmove.grows hw
  obtain ⟨call, e, hcall, hcontent, hending⟩ :
      PhaseBooked runner w run (.storing prepared claim content ending) := hphase ▸ h.phases run
  have hclaim : e.claim = claim := hcall.same.2
  refine ⟨hmove.accounted h.accounted, h.phases_set hg rfl ?_, fun a ha => (h.rows a ha).mono hg,
    h.granted, h.hashes, h.calls, h.once, ?_⟩
  · rcases hnext with rfl | ⟨closing, hclosing, rfl, -⟩
    · trivial
    · refine ⟨prepared, call, e, hcall.mono hg, hending.symm.trans hclosing, fun _ => ⟨?_, .inl ?_⟩⟩
      · rw [hcontent]
        rfl
      · dsimp only
        rw [hclaim]
        exact isSome_putOnce_self w _ content
  · intro o j i a old hold
    dsimp only at hold
    rcases putOnce_eq_some hold with hold | ⟨hkey, rfl, -⟩
    · exact h.objects o j i a old hold
    · exact ⟨hsize, e, hcall.ended, by rw [hclaim, responseKey_inj hkey], hcontent⟩

theorem Booked.closed (h : Booked runner w) {run : Nat} {claim : GradingAttemptClaim}
    {ending : AttemptEnding} {store : Store} {clock : Clock} (result : Option RunResult)
    (hphase : w.phase run = .closing claim ending) (hc : finish w.store claim clock ending = .ok store) :
    Booked runner { w.setPhase run (.done result) with store } := by
  have hw := wellFormed_of_store h.accounted.store
  have hmove : GradingMove runner w _ := .closed result hphase hc
  have hg := hmove.grows hw
  obtain ⟨prepared, call, e, hcall, hending, hstored⟩ :
      PhaseBooked runner w run (.closing claim ending) := hphase ▸ h.phases run
  obtain ⟨rfl, rfl⟩ := hcall.same
  obtain ⟨a, ha, hid, a', hident, hwrote, hrows⟩ := finish_wrote hw.sound.keys hc
  refine ⟨hmove.accounted h.accounted, h.phases_set hg rfl trivial, ?_, fun c hc =>
    hg.granted _ _ (h.granted c hc), h.hashes, h.calls, h.once, h.objects⟩
  intro x hx
  replace hx : x ∈ store.attempts := hx
  rw [hrows] at hx
  rcases (mem_replaceRow ha).1 hx with rfl | ⟨hx, -⟩
  · refine .inr (.inr ⟨prepared, call, e, hcall.mono hg, ?_, ⟨ending, hending, hwrote⟩,
      hstored.mono hg⟩)
    rw [hident, hid]
  · exact (h.rows x hx).mono hg

theorem Booked.elsewhere (h : Booked runner w) {action : Action runner.env}
    (haction : action.byRunner = false) :
    Booked runner { w with store := Store.step runner.env w.store action } := by
  have hw := wellFormed_of_store h.accounted.store
  have hmove : GradingMove runner w _ := .elsewhere haction
  have hg := hmove.grows hw
  refine ⟨hmove.accounted h.accounted, fun run => (h.phases run).mono hg fun _ _ e he hnot =>
    absurd he hnot, ?_, fun c hc => hg.granted _ _ (h.granted c hc), h.hashes, h.calls, h.once,
    h.objects⟩
  intro a' ha'
  rcases step_idle hw.sound haction a' ha' with ha | ⟨a, ha, now, hrun, rfl⟩
  · exact (h.rows a' ha).mono hg
  · refine .inr (.inl ⟨rfl, rfl, ?_⟩)
    show a.rawResponseObjectKey = none
    rcases h.rows a ha with ⟨-, -, hkey⟩ | ⟨-, -, hkey⟩ | ⟨_, _, _, hrecorded⟩
    · exact hkey
    · exact hkey
    · -- the record of a call does not run
      obtain ⟨ending, -, -, hwrote⟩ := hrecorded.ending
      cases ending <;> simp [hrun] at hwrote

/-- **One step keeps the records.** -/
theorem GradingMove.booked (h : Booked runner w) (hm : GradingMove runner w w') : Booked runner w' := by
  have hw := wellFormed_of_store h.accounted.store
  have hg := hm.grows hw
  have ha := hm.accounted h.accounted
  cases hm with
  | stays => exact h
  | ended run result => exact h.of_same ha hg rfl rfl rfl rfl (h.phases_set hg rfl trivial)
  | prepared hphase hp =>
    exact h.of_same ha hg rfl rfl rfl rfl (h.phases_set hg rfl (prepareItem_located hp))
  | @built run prepared call hphase hp =>
    have hlocated : Located w.store prepared := by
      have := h.phases run
      rw [hphase] at this
      exact this
    exact h.of_same ha hg rfl rfl rfl rfl (h.phases_set hg rfl hlocated)
  | granted hphase hc => exact h.claimed hphase hc
  | @abandoned run prepared call store claim clock attemptId token hphase hc =>
    obtain ⟨job, item, hclaimed, -⟩ := claimAttempt_granted hw.sound.keys hc
    exact ⟨ha, h.phases_set hg rfl trivial, h.rows_claimed hg hclaimed, fun c hc =>
      hg.granted _ _ (h.granted c hc), h.hashes, h.calls, h.once, h.objects⟩
  | called hphase => exact h.called hphase
  | put hphase hsize hnext => exact h.put hphase hsize hnext
  | closed result hphase hc => exact h.closed result hphase hc
  | upload x content =>
    refine ⟨ha, fun run => (h.phases run).mono hg fun _ _ e he hnot => absurd he hnot,
      fun a ha => (h.rows a ha).mono hg, h.granted, h.hashes, h.calls, h.once, ?_⟩
    intro o j i a old hold
    dsimp only at hold
    rcases putOnce_eq_some hold with hold | ⟨hkey, -⟩
    · exact h.objects o j i a old hold
    · exact absurd hkey (responseKey_ne_blocks o j i a _)
  | removed key =>
    refine ⟨ha, fun run => (h.phases run).mono hg fun _ _ e he hnot => absurd he hnot,
      fun a ha => (h.rows a ha).mono hg, h.granted, h.hashes, h.calls, h.once, ?_⟩
    intro o j i a old hold
    dsimp only at hold
    by_cases hkey : responseKey o j i a = key
    · rw [hkey, Function.update_self] at hold
      cases hold
    · rw [Function.update_of_ne hkey] at hold
      exact h.objects o j i a old hold
  | elsewhere haction => exact h.elsewhere haction

theorem after_booked (events : List (GradingEvent runner.env)) :
    Booked runner (after runner events) :=
  Runs.run_invariant events start_booked fun w e h => (step_moves w e).booked h

/-! ## Every run -/

/-- Whatever is stored about the calls is the record of a call. -/
structure Audited (runner : GradingAttemptRunner) (w : GradingWorld) : Prop where
  /-- a call ends at most once, with the claim it was made with, and for the prompt it was made for -/
  ends : (∀ e ∈ w.ends, ∃ c ∈ w.calls, c.run = e.run ∧ c.claim = e.claim) ∧
    (w.ends.map (·.claim.attemptId)).Nodup ∧
    ∀ c ∈ w.calls, c.claim.requestHash = c.call.prompt.callHash
  /-- the row of an attempt that has ended is what the runner makes of the end of its call -/
  rows : ∀ a ∈ w.store.attempts, a.status ≠ .running → Expired a ∨
    ∃ c ∈ w.calls, ∃ e ∈ w.ends, e.run = c.run ∧ e.claim = c.claim ∧ c.claim.attemptId = a.id ∧
      c.prepared.itemId = a.gradingJobItemId ∧ ∃ ending, callEnding runner.env runner.lib
        runner.maxProviderRetries c.prepared c.call c.claim e.outcome = .ok ending ∧ ending.Wrote a
  /-- an answer is named in its row -/
  answered : ∀ a ∈ w.store.attempts, a.providerCallState = .responseReceived →
    a.rawResponseObjectKey.isSome
  /-- what a row names was stored, and is there until it is removed -/
  responses : ∀ a ∈ w.store.attempts, ∀ key, a.rawResponseObjectKey = some key →
    (∃ i ∈ w.store.items, i.id = a.gradingJobItemId ∧
      key = responseKey i.ownerId i.gradingJobId i.id a.id) ∧
    ∃ e ∈ w.ends, e.claim.attemptId = a.id ∧
      a.rawResponseSha256 = e.outcome.responseHash runner.env ∧
      ∃ content, e.content runner = some content ∧
        (w.objects key = some content ∨ (w.objects key = none ∧ key ∈ w.removed))
  /-- nothing else is ever stored under the key of an attempt -/
  objects : ∀ o j i a content, w.objects (responseKey o j i a) = some content →
    content.length ≤ maxPrivateJsonBytes ∧ ∃ e ∈ w.ends, e.claim.attemptId = a ∧ e.content runner = some content
  /-- no run finds another envelope where it stores its own -/
  agrees : ∀ run prepared claim content ending, w.phase run = .storing prepared claim content ending →
    (w.objects (buildProviderResponseObjectKey prepared claim.attemptId)).all (· == content)

/-- The row of a record names the response, if there is one. -/
theorem Recorded.response {a : GradingAttempt} {prepared : GradingItemPreparation} {call : GradingCall}
    {e : CallEnd} (h : Recorded runner w a prepared call e) :
    a.rawResponseObjectKey = (e.outcome.responseHash runner.env).map (fun _ =>
        buildProviderResponseObjectKey prepared a.id) ∧
      a.rawResponseSha256 = e.outcome.responseHash runner.env := by
  obtain ⟨ending, hending, hresponse, -⟩ := h.ending
  rw [callEnding_response hending, h.attempt] at hresponse
  exact ⟨congrArg Prod.fst hresponse, congrArg Prod.snd hresponse⟩

/-- The item of a record is the item that was prepared. -/
theorem Booked.item (h : Booked runner w) {a : GradingAttempt} (ha : a ∈ w.store.attempts)
    {prepared : GradingItemPreparation} {call : GradingCall} {e : CallEnd}
    (hrec : Recorded runner w a prepared call e) : prepared.itemId = a.gradingJobItemId ∧
    ∃ i ∈ w.store.items, i.id = a.gradingJobItemId ∧ buildProviderResponseObjectKey prepared a.id =
      responseKey i.ownerId i.gradingJobId i.id a.id := by
  have hk := (wellFormed_of_store h.accounted.store).sound.keys
  obtain ⟨⟨i, hi, hid, howner, hjob⟩, -, b, hb, hbid, hbitem⟩ := h.granted _ hrec.source.called
  obtain rfl := eq_of_key_eq hk.attemptIds hb ha (hbid.trans hrec.attempt)
  exact ⟨hbitem.symm, i, hi, hid.trans hbitem.symm, by rw [buildProviderResponseObjectKey_eq, hid, howner, hjob]⟩

/-- **The audit trail is complete and true.**  In every run of any number of workers, crashes, lost
requests, lease expiries, retention passes and teacher actions, an ended attempt is the record of its
one call, and the object it names is the envelope of that call. -/
theorem after_audited (events : List (GradingEvent runner.env)) :
    Audited runner (after runner events) := by
  have h := after_booked events
  refine ⟨⟨h.calls, h.once, h.hashes⟩, ?_, ?_, ?_, h.objects, ?_⟩
  · intro a ha hstopped
    rcases h.rows a ha with ⟨hrun, -⟩ | hexpired | ⟨prepared, call, e, hrec⟩
    · exact absurd hrun hstopped
    · exact .inl hexpired
    · obtain ⟨ending, hending, hwrote⟩ := hrec.ending
      exact .inr ⟨_, hrec.source.called, e, hrec.source.ended, rfl, rfl, hrec.attempt,
        (h.item ha hrec).1, ending, hending, hwrote⟩
  · intro a ha hanswered
    rcases h.rows a ha with ⟨-, hstate, -⟩ | ⟨-, hstate, -⟩ | ⟨prepared, call, e, hrec⟩
    · rw [hanswered] at hstate
      cases hstate
    · rw [hanswered] at hstate
      cases hstate
    · obtain ⟨ending, hending, -, hstate, -⟩ := hrec.ending
      rw [hrec.response.1, Option.isSome_map]
      exact callEnding_answered hending (hstate.symm.trans hanswered)
  · intro a ha key hkey
    rcases h.rows a ha with ⟨-, -, hnone⟩ | ⟨-, -, hnone⟩ | ⟨prepared, call, e, hrec⟩
    · rw [hkey] at hnone
      cases hnone
    · rw [hkey] at hnone
      cases hnone
    · obtain ⟨hcolumn, hhash⟩ := hrec.response
      rw [hcolumn, Option.map_eq_some_iff] at hkey
      obtain ⟨hash, hsome, rfl⟩ := hkey
      refine ⟨(h.item ha hrec).2, e, hrec.source.ended, hrec.attempt, hhash, ?_⟩
      obtain ⟨hcontent, hkept⟩ := hrec.stored (by rw [hsome]; rfl)
      obtain ⟨content, hcontent⟩ := Option.isSome_iff_exists.1 hcontent
      refine ⟨content, hcontent, ?_⟩
      rw [hrec.attempt] at hkept
      have hagrees := h.agrees prepared hrec.source.ended hcontent
      rw [hrec.attempt] at hagrees
      cases hobject : (after runner events).objects (buildProviderResponseObjectKey prepared a.id) with
      | none =>
        unfold Kept at hkept
        rw [hobject] at hkept
        exact .inr ⟨rfl, hkept.resolve_left (by simp)⟩
      | some old =>
        rw [hobject] at hagrees
        exact .inl (by rw [beq_iff_eq.1 hagrees])
  · intro run prepared claim content ending hphase
    obtain ⟨call, e, hcall, hcontent, -⟩ :
        PhaseBooked runner _ run (.storing prepared claim content ending) := hphase ▸ h.phases run
    obtain ⟨rfl, rfl⟩ := hcall.same
    exact h.agrees prepared hcall.ended hcontent

end GradingWorld

end PaperGrading
