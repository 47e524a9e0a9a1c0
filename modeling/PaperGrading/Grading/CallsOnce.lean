import PaperGrading.Grading.RunnerMoves

/-!
# No call is repeated by itself

A run asks its provider once, for an attempt of its own.  In a round another attempt follows only one
whose call is known to have failed: the answer was there and is to be corrected, or the error was
safe to retry and the limit of retries was not reached.  A call that succeeded, or whose outcome is
not known (an ambiguous error, an expired lease), ends the calls of its round, whatever runs and
teachers do in between.

    the end of an attempt queues its item only if the attempt may be repeated   (finish_repeated)
    one step keeps the books                                               (GradingMove.accounted)
    every run of the world                                                      (after_callsOnce)
-/

namespace PaperGrading

/-! ## Attempts that may be repeated -/

/-- The attempt failed, for an answer to be corrected or for an error that is safe to retry. -/
def GradingAttempt.Repeatable (maxProviderRetries : Nat) (a : GradingAttempt) : Prop :=
  a.status = .failed ∧
    ((a.errorCode = some correctionRequired ∧ a.providerCallState = .responseReceived) ∨
      (a.errorDetails = some (.retry true .safe) ∧ a.callSequence ≤ maxProviderRetries ∧
        (a.providerCallState = .notSent ∨ a.providerCallState = .responseReceived)))

theorem adapterAction_retry {maxProviderRetries callSequence : Nat} {e : ProviderAdapterError}
    (h : adapterAction maxProviderRetries callSequence e = .retry) :
    e.retryable = true ∧ e.retrySafety = .safe ∧ callSequence ≤ maxProviderRetries := by
  unfold adapterAction at h
  split at h
  next hsafe =>
    split at h
    next hle => exact ⟨hsafe.1, hsafe.2, hle⟩
    · cases h
  · split at h <;> cases h

theorem adapterCallState_safe {e : ProviderAdapterError} (h : e.retrySafety = .safe) :
    adapterCallState e = .notSent ∨ adapterCallState e = .responseReceived := by
  unfold adapterCallState
  rw [if_pos h]
  split
  · exact .inr rfl
  · exact .inl rfl

/-- The runner hands in this ending, for the preparation and the claim of the run. -/
def AttemptEnding.Of (runner : GradingAttemptRunner) (prepared : GradingItemPreparation)
    (claim : GradingAttemptClaim) (ending : AttemptEnding) : Prop :=
  ∃ call outcome, callEnding runner.env runner.lib runner.maxProviderRetries prepared call claim
    outcome = .ok ending

/-- A failure that the runner retries leaves an attempt that may be repeated. -/
theorem AttemptEnding.Of.repeatable {runner : GradingAttemptRunner}
    {prepared : GradingItemPreparation} {claim : GradingAttemptClaim} {failure : GradingAttemptFailure}
    (h : (AttemptEnding.failed failure).Of runner prepared claim) (hretry : failure.action = .retry)
    {a : GradingAttempt} (ha : a.callSequence = claim.callSequence) (usage : AttemptUsage) (now : Time) :
    (Store.failedAttempt failure usage now a).Repeatable runner.maxProviderRetries := by
  refine ⟨rfl, ?_⟩
  obtain ⟨call, outcome, h⟩ := h
  cases outcome with
  | urlError =>
    cases h
    cases hretry
  | adapterError e =>
    cases h
    obtain ⟨hretryable, hsafe, hle⟩ := adapterAction_retry hretry
    refine .inr ⟨?_, ?_, adapterCallState_safe hsafe⟩
    · show some (ErrorDetails.retry e.retryable e.retrySafety) = _
      rw [hretryable, hsafe]
    · show a.callSequence ≤ _
      rw [ha]
      exact hle
  | returned r =>
    rcases answerEnding_cases h with ⟨_, he⟩ | ⟨issue, -, -, he⟩ | ⟨issue, -, he⟩
    · cases he
    · cases he
      exact .inl ⟨rfl, rfl⟩
    · cases he
      cases hretry
  | otherException => cases h

theorem failItem_queued {f : GradingAttemptFailure} {now : Time} {i : GradingJobItem}
    (h : (Store.failItem f now i).status = .queued) : f.action = .retry := by
  unfold Store.failItem at h
  cases haction : f.action with
  | retry => rfl
  | needsReview =>
    rw [haction] at h
    cases h
  | failed =>
    rw [haction] at h
    cases h

namespace GradingWorld

variable {runner : GradingAttemptRunner} {w w' : GradingWorld}

/-- The attempt of a claim is the one that its identity describes. -/
theorem vouched_attempt {s : Store} (hk : s.Keys) {claim : GradingAttemptClaim} (hv : s.Vouched claim)
    {a : GradingAttempt} (ha : a ∈ s.attempts) (hid : a.id = claim.attemptId) :
    a.attemptNumber = claim.attemptNumber ∧ a.scoringRound = claim.scoringRound ∧
      a.callSequence = claim.callSequence ∧ a.requestHash = claim.requestHash := by
  obtain ⟨b, hb, hbid, hrest⟩ := hv
  rw [Table.eq_of_key_eq hk.attemptIds ha hb (hid.trans hbid.symm)]
  exact hrest

/-- The end of an attempt queues its item only if the attempt may be repeated. -/
theorem finish_repeated {s s' : Store} (hk : s.Keys) (hr : s.Rounds)
    (hp : s.Repeated (·.Repeatable runner.maxProviderRetries)) {claim : GradingAttemptClaim}
    (hv : s.Vouched claim) {clock : Clock} {ending : AttemptEnding} {prepared : GradingItemPreparation}
    (hof : ending.Of runner prepared claim) (h : finish s claim clock ending = .ok s') :
    s'.Repeated (·.Repeatable runner.maxProviderRetries) := by
  cases ending with
  | succeeded completion =>
    obtain ⟨job, item, attempt, result, usage, -, hclosed⟩ :=
      Store.finishSuccess_closed (R := fun _ _ => True) hk h
    exact hclosed.repeated hk hr hp fun hq => by cases hq
  | failed failure =>
    obtain ⟨job, item, attempt, usage, hlock, hclosed⟩ :=
      Store.finishFailure_closed (R := fun _ _ => True) hk (fun _ _ _ _ => trivial) h
    obtain ⟨-, -, hattempt, -, -, -, -, hid, -⟩ := Store.lockClaimed_eq_ok hlock
    obtain ⟨-, -, hsequence, -⟩ := vouched_attempt hk hv hattempt hid
    exact hclosed.repeated hk hr hp fun hq => hof.repeatable (failItem_queued hq) hsequence usage _

/-! ## The books -/

/-- What a run holds while it waits. -/
def PhaseOk (runner : GradingAttemptRunner) (s : Store) : RunPhase → Prop
  | .calling _ _ claim => s.Vouched claim
  | .storing prepared claim _ ending =>
    s.Vouched claim ∧ ∀ e, ending = .ok e → e.Of runner prepared claim
  | .closing claim ending => s.Vouched claim ∧ ∃ prepared, ending.Of runner prepared claim
  | _ => True

/-- Every call belongs to an attempt, and attempts are repeated for known failures only. -/
structure Accounted (runner : GradingAttemptRunner) (w : GradingWorld) : Prop where
  store : ∃ as, w.store = Store.after runner.env as
  repeated : w.store.Repeated (·.Repeatable runner.maxProviderRetries)
  phases : ∀ run, PhaseOk runner w.store (w.phase run)
  calls : ∀ c ∈ w.calls, w.store.Vouched c.claim
  once : (w.calls.map (·.claim.attemptId)).Nodup

theorem start_accounted : Accounted runner start :=
  ⟨⟨[], rfl⟩, Store.repeated_empty, fun _ => trivial, by simp [start], by simp [start]⟩

theorem PhaseOk.mono {s s' : Store} (h : ∀ claim, s.Vouched claim → s'.Vouched claim) {p : RunPhase}
    (hp : PhaseOk runner s p) : PhaseOk runner s' p := by
  cases p with
  | calling _ _ claim => exact h claim hp
  | storing prepared claim content ending => exact ⟨h claim hp.1, hp.2⟩
  | closing claim ending => exact ⟨h claim hp.1, hp.2⟩
  | _ => trivial

/-- The phase of the run that moves is new, the others are as before. -/
theorem phases_of {s : Store} {phase : Nat → RunPhase} {run : Nat} {p : RunPhase}
    (hphases : ∀ k, PhaseOk runner s (phase k)) (hp : PhaseOk runner s p) :
    ∀ k, PhaseOk runner s (Function.update phase run p k) := by
  intro k
  by_cases hk : k = run
  · subst hk
    rw [Function.update_self]
    exact hp
  · rw [Function.update_of_ne hk]
    exact hphases k

theorem calledPhase_ok {s : Store} {prepared : GradingItemPreparation} {call : GradingCall}
    {claim : GradingAttemptClaim} {receivedAt : Time} (hv : s.Vouched claim) (outcome : ProviderOutcome) :
    PhaseOk runner s (calledPhase runner prepared call claim receivedAt outcome) := by
  unfold calledPhase
  dsimp only
  split
  · split
    · exact ⟨hv, fun e he => ⟨call, outcome, he⟩⟩
    · trivial
  · split
    next ending he => exact ⟨hv, prepared, call, outcome, he⟩
    · trivial

/-- What the store goes through while no run claims or closes. -/
theorem elsewhere_repeated {s : Store} {as : List (Action runner.env)}
    (hs : s = Store.after runner.env as)
    (hp : s.Repeated (·.Repeatable runner.maxProviderRetries)) {action : Action runner.env}
    (haction : action.byRunner = false) :
    (Store.step runner.env s action).Repeated (·.Repeatable runner.maxProviderRetries) := by
  have hw : Store.WellFormed runner.env s := hs ▸ Store.after_wellFormed as
  have hR : Store.FailureIs (fun _ _ => False) s action := by
    cases action with
    | finishFailure => cases haction
    | _ => trivial
  have hall := Store.step_invariant (R := fun _ _ => False)
    (P := fun t => t.Leased ∧ t.Rounds ∧ t.Repeated (·.Repeatable runner.maxProviderRetries)) hw hR
    (fun (_ : RubricVersion) (h : False) => h.elim) (fun t t' ht hmove ⟨hl, hr, hp⟩ => ?_)
    ⟨hs ▸ Store.after_leased as, hs ▸ Store.after_rounds as, hp⟩
  · exact hall.2.2
  · refine ⟨hmove.leased ht hl, hmove.rounds ht hl hr, hmove.repeated ht hl hr hp ?_⟩
    intro job item item' attempt attempt' now hclosing hq
    cases hclosing with
    | succeeded => cases hq
    | failed f usage hfalse => exact hfalse.elim
    | expired => cases hq

/-- **One step keeps the books.** -/
theorem GradingMove.accounted (ha : Accounted runner w) (h : GradingMove runner w w') :
    Accounted runner w' := by
  have hw := wellFormed_of_store ha.store
  have hk := hw.sound.keys
  obtain ⟨as, has⟩ := ha.store
  have hstore : ∃ as, w'.store = Store.after runner.env as := by
    rcases h.store with he | ⟨a, he⟩
    · exact ⟨as, he.trans has⟩
    · exact ⟨as ++ [a], by rw [he, has, Store.after_concat]⟩
  have hvouched : ∀ claim, w.store.Vouched claim → w'.store.Vouched claim := fun _ => h.vouched hw
  have hphases : ∀ k, PhaseOk runner w'.store (w.phase k) := fun k => (ha.phases k).mono hvouched
  have hcalls : ∀ c ∈ w.calls, w'.store.Vouched c.claim := fun c hc => hvouched _ (ha.calls c hc)
  have hrounds : w.store.Rounds := has ▸ Store.after_rounds as
  have hof {run : Nat} {p : RunPhase} (hphase : w.phase run = p) : PhaseOk runner w.store p :=
    hphase ▸ ha.phases run
  cases h with
  | stays => exact ha
  | ended run result =>
    exact ⟨hstore, ha.repeated, phases_of hphases trivial, hcalls, ha.once⟩
  | prepared hphase h =>
    exact ⟨hstore, ha.repeated, phases_of hphases trivial, hcalls, ha.once⟩
  | built hphase h =>
    exact ⟨hstore, ha.repeated, phases_of hphases trivial, hcalls, ha.once⟩
  | granted hphase h =>
    obtain ⟨hv, hfresh⟩ := Store.claimAttempt_vouched hk h
    obtain ⟨job, item, hclaimed, -⟩ := Store.claimAttempt_granted hk h
    refine ⟨hstore, hclaimed.repeated ha.repeated, phases_of hphases hv, ?_, ?_⟩
    · intro c hc
      rcases List.mem_append.1 hc with hc | hc
      · exact hcalls c hc
      · rw [List.mem_singleton.1 hc]
        exact hv
    · rw [List.map_append, List.map_singleton, List.nodup_append]
      refine ⟨ha.once, by simp, ?_⟩
      intro x hx y hy hxy
      obtain ⟨c, hc, rfl⟩ := List.mem_map.1 hx
      rw [List.mem_singleton.1 hy] at hxy
      obtain ⟨a, hattempt, hid, -⟩ := ha.calls c hc
      exact hfresh a hattempt (hid.trans hxy)
  | abandoned hphase h =>
    obtain ⟨job, item, hclaimed, -⟩ := Store.claimAttempt_granted hk h
    exact ⟨hstore, hclaimed.repeated ha.repeated, phases_of hphases trivial, hcalls, ha.once⟩
  | @called run prepared call claim outcome receivedAt hphase =>
    exact ⟨hstore, ha.repeated, phases_of hphases (calledPhase_ok (hof hphase) outcome), hcalls, ha.once⟩
  | put hphase hsize hnext =>
    refine ⟨hstore, ha.repeated, phases_of hphases ?_, hcalls, ha.once⟩
    obtain ⟨hv, hending⟩ := hof hphase
    rcases hnext with rfl | ⟨e, he, rfl, -⟩
    · trivial
    · exact ⟨hv, _, hending e he⟩
  | closed result hphase h =>
    obtain ⟨hv, prepared, hending⟩ := hof hphase
    exact ⟨hstore, finish_repeated hk hrounds ha.repeated hv hending h, phases_of hphases trivial,
      hcalls, ha.once⟩
  | upload x content => exact ⟨hstore, ha.repeated, ha.phases, ha.calls, ha.once⟩
  | removed key => exact ⟨hstore, ha.repeated, ha.phases, ha.calls, ha.once⟩
  | elsewhere haction =>
    exact ⟨hstore, elsewhere_repeated has ha.repeated haction, hphases, hcalls, ha.once⟩

theorem after_accounted (events : List (GradingEvent runner.env)) :
    Accounted runner (after runner events) :=
  Runs.run_invariant events start_accounted fun w e h => (step_moves w e).accounted h

/-! ## Every run -/

/-- The attempt was repeated in its round, and not for a correction. -/
def retriedIn (round : List GradingAttempt) (a : GradingAttempt) : Bool :=
  a.errorCode != some correctionRequired &&
    round.any fun b => decide (a.attemptNumber < b.attemptNumber)

/-- The retries of a round are within the limit: the calls of a round are counted from one. -/
theorem Accounted.retries (ha : Accounted runner w) (itemId : Uuid) (round : Nat) :
    ((w.store.roundAttempts itemId round).filter
      (retriedIn (w.store.roundAttempts itemId round))).length ≤ runner.maxProviderRetries := by
  obtain ⟨as, has⟩ := ha.store
  have hk := (wellFormed_of_store ha.store).sound.keys
  have hr : w.store.Rounds := has ▸ Store.after_rounds as
  refine Store.length_le_of_sequence hk hr _ fun a hmem hretried => ?_
  obtain ⟨hattempt, hitem, hround⟩ := Store.mem_roundAttempts.1 hmem
  unfold retriedIn at hretried
  simp only [Bool.and_eq_true, bne_iff_ne, List.any_eq_true, decide_eq_true_eq] at hretried
  obtain ⟨hcode, b, hb, hlt⟩ := hretried
  obtain ⟨hbattempt, hbitem, hbround⟩ := Store.mem_roundAttempts.1 hb
  obtain ⟨-, hcorrect | ⟨-, hle, -⟩⟩ := ha.repeated.earlier a hattempt b hbattempt
    (hitem.trans hbitem.symm) (hround.trans hbround.symm) hlt
  · exact absurd hcorrect.1 hcode
  · have hpos : ∀ a ∈ w.store.attempts, 0 < a.attemptNumber ∧ 0 < a.callSequence :=
      has ▸ Store.after_position_pos as
    exact ⟨(hpos a hattempt).2, hle⟩

/-- No call is repeated by itself, but after a failure that is known and may be repeated. -/
structure CallsOnce (runner : GradingAttemptRunner) (w : GradingWorld) : Prop where
  /-- every call belongs to an attempt, and no two to the same -/
  perAttempt : (∀ c ∈ w.calls, w.store.Vouched c.claim) ∧ (w.calls.map (·.claim.attemptId)).Nodup
  /-- an attempt that another one of its round has followed -/
  followed : ∀ a ∈ w.store.attempts, ∀ b ∈ w.store.attempts,
    a.gradingJobItemId = b.gradingJobItemId → a.scoringRound = b.scoringRound →
    a.attemptNumber < b.attemptNumber → a.Repeatable runner.maxProviderRetries
  /-- any other attempt that has stopped -/
  ends : ∀ a ∈ w.store.attempts, a.status ≠ .running → ¬a.Repeatable runner.maxProviderRetries →
    w.store.RoundClosed a.gradingJobItemId a.scoringRound
  oneSuccess : ∀ a ∈ w.store.attempts, ∀ b ∈ w.store.attempts, a.status = .succeeded →
    b.status = .succeeded → a.gradingJobItemId = b.gradingJobItemId →
    a.scoringRound = b.scoringRound → a = b
  /-- the retries of a round -/
  retries : ∀ itemId round, ((w.store.roundAttempts itemId round).filter
    (retriedIn (w.store.roundAttempts itemId round))).length ≤ runner.maxProviderRetries

/-- **No provider call is repeated unless it is known to have failed in a way that may be repeated**,
in every run of any number of workers, crashes, lease expiries and teacher actions. -/
theorem after_callsOnce (events : List (GradingEvent runner.env)) :
    CallsOnce runner (after runner events) := by
  have ha := after_accounted events
  obtain ⟨as, has⟩ := ha.store
  have hw := wellFormed_of_store ha.store
  have hk := hw.sound.keys
  have hr : (after runner events).store.Rounds := has ▸ Store.after_rounds as
  have hl : (after runner events).store.Leased := has ▸ Store.after_leased as
  refine ⟨⟨ha.calls, ha.once⟩, ha.repeated.earlier, ?_, ?_, ha.retries⟩
  · intro a hmem hstopped hnot
    exact ha.repeated.roundClosed hw hl hr hmem hstopped hnot
  · intro a hmem b hbmem hsa hsb hitem hround
    exact hr.succeeded_unique hk hmem hbmem hsa hsb hitem hround

end GradingWorld

end PaperGrading
