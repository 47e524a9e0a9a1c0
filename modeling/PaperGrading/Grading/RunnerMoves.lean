import PaperGrading.Grading.Runner
import PaperGrading.Store.Repeats

/-!
# What one step of the grading world does

    every step is one of the moves of `GradingMove`                                   (step_moves)
    the store of every run of the world is that of a run of the store               (after_store)
    a claim belongs to an attempt that was new when it was granted      (claimAttempt_vouched)
-/

namespace PaperGrading

/-! ## Issues -/

/-- The codes of `validate_grade_response`. -/
def gradeErrorCodes : List String :=
  ["grade_output_schema_invalid", "grade_dimension_duplicate", "grade_dimension_mismatch",
    "grade_dimension_score_invalid", "grade_deduction_duplicate", "grade_deduction_mismatch"] ++
  evidenceCodes

theorem requireExactIds_code {actual expected : List String} {label : String}
    {error : GradeValidationError}
    (h : requireExactIds actual expected label = .error (.validation error)) :
    error.code = "grade_" ++ label ++ "_duplicate" ∨ error.code = "grade_" ++ label ++ "_mismatch" := by
  unfold requireExactIds at h
  rw [bind_eq_error, ensure_eq_error] at h
  rcases h with ⟨-, he⟩ | ⟨_, -, h⟩
  · cases he
    exact .inl rfl
  · rw [ensure_eq_error] at h
    cases h.2
    exact .inr rfl

theorem validateGradeResponse_code {env : Runtime} {result : GradeResult} {request : GradeRequest}
    {error : GradeValidationError}
    (h : validateGradeResponse env result request = .error (.validation error)) :
    error.code ∈ gradeErrorCodes := by
  unfold validateGradeResponse at h
  simp only [bind_eq_error, ensure_eq_error, pure, Except.pure] at h
  rcases h with ⟨-, he⟩ | ⟨_, -, he | ⟨_, -, ⟨-, he⟩ | ⟨_, -, he | ⟨_, -, he | ⟨_, -, h⟩⟩⟩⟩⟩
  · cases he
    decide
  · rcases requireExactIds_code he with he | he <;> rw [he] <;> decide
  · cases he
    decide
  · rcases requireExactIds_code he with he | he <;> rw [he] <;> decide
  · obtain ⟨error', he', hcode⟩ := validateEvidence_error he
    cases he'
    exact List.mem_append_right _ hcode
  · rcases h with ⟨-, he⟩ | ⟨_, -, he⟩ <;> cases he

theorem validateLoadedResponse_code {env : Runtime} {lib : GradingLibrary} {raw : Loaded}
    {request : GradeRequest} {error : GradeValidationError}
    (h : validateLoadedResponse env lib raw request = .error (.validation error)) :
    error.code ∈ gradeErrorCodes := by
  unfold validateLoadedResponse at h
  split at h
  · cases h
    decide
  · unfold validateRawResponse at h
    split at h
    · cases h
      decide
    · exact validateGradeResponse_code h

/-- Every issue that the validator names passes its own checks. -/
theorem issue_accepts {lib : GradingLibrary} {raw : Loaded} {error : GradeValidationError}
    (hcode : error.code ∈ gradeErrorCodes)
    (hpath : lengthBetween 1 500 (error.issue lib raw).path.length = true) :
    (error.issue lib raw).accepts = true := by
  have hall : ∀ code ∈ gradeErrorCodes, lengthBetween 1 128 code.length = true ∧
      code.toList.all (fun c => c.isLower || c.isDigit || c == '_') = true ∧
      code.toList.head?.any (·.isLower) = true := by
    decide
  obtain ⟨hlength, hletters, hfirst⟩ := hall error.code hcode
  unfold GradeValidationIssue.accepts
  simp only [Bool.and_eq_true]
  exact ⟨⟨⟨hlength, hpath⟩, hletters⟩, hfirst⟩

/-! ## Endings -/

/-- An answer is accepted, corrected or left to the teacher. -/
theorem answerEnding_cases {env : Runtime} {lib : GradingLibrary} {prepared : GradingItemPreparation}
    {call : GradingCall} {claim : GradingAttemptClaim} {r : ProviderGradeResult}
    {ending : AttemptEnding} (h : answerEnding env lib prepared call claim r = .ok ending) :
    (∃ result, ending = .succeeded ⟨result, r,
        buildProviderResponseObjectKey prepared claim.attemptId, r.rawResponseSha256⟩) ∨
      (∃ issue : GradeValidationIssue, call.prompt.messages.length = 2 ∧
        issue.accepts = true ∧ ending = .failed (validationFailure prepared claim r true issue)) ∨
      ∃ issue, call.prompt.messages.length = 3 ∧
        ending = .failed (validationFailure prepared claim r false issue) := by
  unfold answerEnding at h
  rw [bind_eq_ok] at h
  obtain ⟨raw, -, h⟩ := h
  rw [bind_eq_ok] at h
  obtain ⟨outcome, houtcome, h⟩ := h
  unfold assessGradeResponse at houtcome
  split at houtcome
  · cases houtcome
  split at houtcome
  · cases houtcome
  next hlength =>
    split at houtcome
    · cases houtcome
      cases h
      exact .inl ⟨_, rfl⟩
    · cases houtcome
    next error herror =>
      dsimp only at houtcome
      split at houtcome
      · cases houtcome
      next hpath =>
        have haccepts : (error.issue lib raw).accepts = true :=
          issue_accepts (validateLoadedResponse_code herror) (by simpa using hpath)
        split at houtcome
        next htwo =>
          cases houtcome
          cases h
          exact .inr (.inl ⟨_, htwo, haccepts, rfl⟩)
        next hnot =>
          cases houtcome
          cases h
          exact .inr (.inr ⟨_, by omega, rfl⟩)

namespace GradingWorld

variable {runner : GradingAttemptRunner} {w w' : GradingWorld}

/-! ## Moves -/

/-- What a step can do to the world. -/
inductive GradingMove (runner : GradingAttemptRunner) (w : GradingWorld) : GradingWorld → Prop
  | stays : GradingMove runner w w
  /-- a run returns or is left by an exception, without a write -/
  | ended (run : Nat) (result : Option RunResult) : GradingMove runner w (w.setPhase run (.done result))
  | prepared {run : Nat} {prepared : GradingItemPreparation} {itemId : Uuid} {dispatchVersion : Nat}
    {now : Time} (hphase : w.phase run = .waiting)
    (h : w.store.prepareItem runner.env itemId dispatchVersion now = .ok (some prepared)) :
    GradingMove runner w (w.setPhase run (.prepared prepared))
  | built {run : Nat} {prepared : GradingItemPreparation} {call : GradingCall}
    (hphase : w.phase run = .prepared prepared)
    (h : buildCall runner.env runner.lib w.objects prepared = .ok call) :
    GradingMove runner w (w.setPhase run (.built prepared call))
  | granted {run : Nat} {prepared : GradingItemPreparation} {call : GradingCall} {store : Store}
    {claim : GradingAttemptClaim} {clock : Clock} {attemptId token : Uuid}
    (hphase : w.phase run = .built prepared call)
    (h : w.store.claimAttempt prepared call.prompt.callHash clock attemptId token =
      .ok (some claim, store)) :
    GradingMove runner w { w.setPhase run (.calling prepared call claim) with
      store, calls := w.calls ++ [⟨run, prepared, claim, call⟩] }
  /-- the claim is committed, and the run never learns of it -/
  | abandoned {run : Nat} {prepared : GradingItemPreparation} {call : GradingCall} {store : Store}
    {claim : GradingAttemptClaim} {clock : Clock} {attemptId token : Uuid}
    (hphase : w.phase run = .built prepared call)
    (h : w.store.claimAttempt prepared call.prompt.callHash clock attemptId token =
      .ok (some claim, store)) :
    GradingMove runner w { w.setPhase run (.done none) with store }
  | called {run : Nat} {prepared : GradingItemPreparation} {call : GradingCall}
    {claim : GradingAttemptClaim} {outcome : ProviderOutcome} {receivedAt : Time}
    (hphase : w.phase run = .calling prepared call claim) :
    GradingMove runner w { w.setPhase run (calledPhase runner prepared call claim receivedAt outcome) with
      ends := w.ends ++ [⟨run, claim, outcome, receivedAt⟩] }
  /-- the envelope is stored, and the run may not learn of it -/
  | put {run : Nat} {prepared : GradingItemPreparation} {claim : GradingAttemptClaim}
    {content : Bytes} {ending : Except RunException AttemptEnding} {next : RunPhase}
    (hphase : w.phase run = .storing prepared claim content ending)
    (hsize : content.length ≤ maxPrivateJsonBytes)
    (hnext : next = .done none ∨ ∃ e, ending = .ok e ∧ next = .closing claim e ∧
      (w.objects (buildProviderResponseObjectKey prepared claim.attemptId)).all (· == content)) :
    GradingMove runner w { w.setPhase run next with
      objects := w.putOnce (buildProviderResponseObjectKey prepared claim.attemptId) content }
  | closed {run : Nat} {claim : GradingAttemptClaim} {ending : AttemptEnding} {store : Store}
    {clock : Clock} (result : Option RunResult) (hphase : w.phase run = .closing claim ending)
    (h : finish w.store claim clock ending = .ok store) :
    GradingMove runner w { w.setPhase run (.done result) with store }
  | upload (x : Submission) (content : Bytes) : GradingMove runner w
    { w with objects := w.putOnce (x.directory ++ "/document-blocks.v1.json") content }
  | removed (key : String) : GradingMove runner w
    { w with objects := Function.update w.objects key none, removed := w.removed ++ [key] }
  | elsewhere {action : Action runner.env} (h : action.byRunner = false) : GradingMove runner w
    { w with store := Store.step runner.env w.store action }

/-- A claim that is not granted writes nothing. -/
theorem claimAttempt_none {s s' : Store} {prepared : GradingItemPreparation} {hash : Hash}
    {clock : Clock} {attemptId token : Uuid}
    (h : s.claimAttempt prepared hash clock attemptId token = .ok (none, s')) : s' = s := by
  unfold Store.claimAttempt at h
  split at h
  · cases h
    rfl
  split at h
  · cases h
    rfl
  · simp only [bind_eq_ok] at h
    obtain ⟨_, -, _, -, _, -, h⟩ := h
    cases h

theorem claim_moves (run : Nat) (answered : Bool) (clock : Clock) (attemptId token : Uuid) :
    GradingMove runner w (w.claim run answered clock attemptId token) := by
  unfold claim
  split
  next prepared call hphase =>
    split
    · exact .ended run none
    next store h =>
      rw [claimAttempt_none h]
      exact .ended run _
    next claim store h =>
      split
      · exact .granted hphase h
      · exact .abandoned hphase h
  · exact .stays

theorem put_moves (run : Nat) (outcome : RequestOutcome) :
    GradingMove runner w (w.put run outcome) := by
  unfold put
  split
  next prepared claim content ending hphase =>
    dsimp only
    split
    · exact .ended run none
    next hsize =>
      have hsize : content.length ≤ maxPrivateJsonBytes := by omega
      split
      next applied =>
        cases applied
        · exact .ended run none
        · exact .put hphase hsize (.inl rfl)
      · split
        next hsame =>
          cases hending : ending with
          | error e => exact .put (hending ▸ hphase) hsize (.inl rfl)
          | ok e => exact .put (hending ▸ hphase) hsize (.inr ⟨e, rfl, rfl, hsame⟩)
        · exact .ended run none
  · exact .stays

/-- **Every step is one of the moves.** -/
theorem step_moves (w : GradingWorld) (e : GradingEvent runner.env) :
    GradingMove runner w (step runner w e) := by
  cases e with
  | prepare run itemId dispatchVersion now =>
    show GradingMove runner w (w.prepare runner run itemId dispatchVersion now)
    unfold prepare
    split
    next hphase =>
      split
      · exact .ended run none
      · exact .ended run _
      next prepared h => exact .prepared hphase h
    · exact .stays
  | build run =>
    show GradingMove runner w (w.build runner run)
    unfold build
    split
    next prepared hphase =>
      split
      · exact .ended run none
      next call h => exact .built hphase h
    · exact .stays
  | claim run answered clock attemptId token => exact claim_moves run answered clock attemptId token
  | call run outcome receivedAt =>
    show GradingMove runner w (w.call runner run outcome receivedAt)
    unfold call
    split
    next prepared call claim hphase => exact .called hphase
    · exact .stays
  | put run outcome => exact put_moves run outcome
  | close run answered clock =>
    show GradingMove runner w (w.close run answered clock)
    unfold close
    split
    next claim ending hphase =>
      split
      · exact .ended run none
      next store h => exact .closed _ hphase h
    · exact .stays
  | crash run => exact .ended run none
  | upload x content => exact .upload x content
  | removed key => exact .removed key
  | elsewhere action =>
    show GradingMove runner w (if action.byRunner then w else _)
    split
    · exact .stays
    next h => exact .elsewhere (by simpa using h)

/-! ## The store -/

/-- A move leaves the store as it is, or commits one of its transactions. -/
theorem GradingMove.store (h : GradingMove runner w w') :
    w'.store = w.store ∨ ∃ a : Action runner.env, w'.store = Store.step runner.env w.store a := by
  have hstep {a : Action runner.env} {store : Store} (h : w.store.exec runner.env a = .ok store) :
      ∃ a : Action runner.env, store = Store.step runner.env w.store a :=
    ⟨a, (Store.step_of_ok h).symm⟩
  cases h with
  | @granted run prepared call store claim clock attemptId token hphase h =>
    exact .inr (hstep (a := .claimAttempt prepared call.prompt.callHash clock attemptId token)
      (Store.map_snd_eq_ok.2 ⟨_, h⟩))
  | @abandoned run prepared call store claim clock attemptId token hphase h =>
    exact .inr (hstep (a := .claimAttempt prepared call.prompt.callHash clock attemptId token)
      (Store.map_snd_eq_ok.2 ⟨_, h⟩))
  | @closed run claim ending store clock result hphase h =>
    cases ending with
    | succeeded completion =>
      exact .inr (hstep (a := .finishSuccess claim completion clock) h)
    | failed failure => exact .inr (hstep (a := .finishFailure claim failure clock) h)
  | elsewhere h => exact .inr ⟨_, rfl⟩
  | _ => exact .inl rfl

/-- **The runs of the worker are runs of the store**, whatever they interleave with. -/
theorem after_store (events : List (GradingEvent runner.env)) :
    ∃ as, (after runner events).store = Store.after runner.env as := by
  refine Runs.run_invariant (P := fun w : GradingWorld => ∃ as, w.store = Store.after runner.env as) events
    ⟨[], rfl⟩ ?_
  rintro w e ⟨as, has⟩
  rcases (step_moves w e).store with he | ⟨a, he⟩
  · exact ⟨as, he.trans has⟩
  · exact ⟨as ++ [a], by rw [he, has, Store.after_concat]⟩

end GradingWorld

/-! ## Vouchers -/

namespace Store

variable {env : Runtime} {s s' : Store}

/-- The claim is that of an attempt of the store. -/
def Vouched (s : Store) (claim : GradingAttemptClaim) : Prop :=
  ∃ a ∈ s.attempts, a.id = claim.attemptId ∧ a.attemptNumber = claim.attemptNumber ∧
    a.scoringRound = claim.scoringRound ∧ a.callSequence = claim.callSequence ∧
    a.requestHash = claim.requestHash

theorem Vouched.step (hw : WellFormed env s) {claim : GradingAttemptClaim} (h : s.Vouched claim)
    (a : Action env) : (step env s a).Vouched claim := by
  refine step_invariant (P := (·.Vouched claim)) hw (failureIs_true a) (fun _ => False.elim)
    (fun t t' ht hmove hv => ?_) h
  obtain ⟨a, ha, hid, hnumber, hround, hsequence, hhash⟩ := hv
  obtain ⟨a', ha', hident, -⟩ := (hmove.attempts_evolve ht.sound.keys).forward ha
  exact ⟨a', ha', by rw [hident, hid], by rw [hident, hnumber], by rw [hident, hround],
    by rw [hident, hsequence], by rw [hident, hhash]⟩

/-- What a granted claim returns is the claim of a new attempt. -/
theorem claimAttempt_granted (hk : s.Keys) {prepared : GradingItemPreparation} {hash : Hash}
    {clock : Clock} {attemptId token : Uuid} {claim : GradingAttemptClaim}
    (h : s.claimAttempt prepared hash clock attemptId token = .ok (some claim, s')) :
    ∃ job item, Claimed s s' prepared job item
        (s.claimedAttempt prepared item hash clock.worker attemptId) clock token ∧
      claim = ⟨attemptId, (s.claimedAttempt prepared item hash clock.worker attemptId).attemptNumber,
        item.dispatchVersion,
        (s.claimedAttempt prepared item hash clock.worker attemptId).callSequence, token, hash⟩ := by
  rcases claimAttempt_cases hk h with ⟨hnone, -⟩ | ⟨job, item, hclaimed, hclaim⟩
  · cases hnone
  · exact ⟨job, item, hclaimed, Option.some.inj hclaim⟩

theorem Claimed.attempt_mem {prepared : GradingItemPreparation} {job : GradingJob}
    {item : GradingJobItem} {attempt : GradingAttempt} {clock : Clock} {token : Uuid}
    (h : Claimed s s' prepared job item attempt clock token) : attempt ∈ s'.attempts := by
  rw [congrArg Store.attempts h.eq]
  simp

/-- The id of a new attempt is new. -/
theorem Claimed.attempt_fresh {prepared : GradingItemPreparation} {job : GradingJob}
    {item : GradingJobItem} {attempt : GradingAttempt} {clock : Clock} {token : Uuid}
    (h : Claimed s s' prepared job item attempt clock token) :
    ∀ a ∈ s.attempts, a.id ≠ attempt.id := by
  intro a ha he
  have hpair : (s.attempts ++ [attempt]).Pairwise fun x y => attemptConflict x y = false := by
    simpa [attemptsUnique] using h.unique
  have := (List.pairwise_append.1 hpair).2.2 a ha attempt (by simp)
  simp [attemptConflict, he] at this

theorem claimAttempt_vouched (hk : s.Keys) {prepared : GradingItemPreparation} {hash : Hash}
    {clock : Clock} {attemptId token : Uuid} {claim : GradingAttemptClaim}
    (h : s.claimAttempt prepared hash clock attemptId token = .ok (some claim, s')) :
    s'.Vouched claim ∧ ∀ a ∈ s.attempts, a.id ≠ claim.attemptId := by
  obtain ⟨job, item, hclaimed, rfl⟩ := claimAttempt_granted hk h
  exact ⟨⟨_, hclaimed.attempt_mem, rfl, rfl, rfl, rfl, rfl⟩, hclaimed.attempt_fresh⟩

end Store

namespace GradingWorld

variable {runner : GradingAttemptRunner} {w w' : GradingWorld}

theorem wellFormed_of_store (h : ∃ as, w.store = Store.after runner.env as) :
    Store.WellFormed runner.env w.store := by
  obtain ⟨as, has⟩ := h
  rw [has]
  exact Store.after_wellFormed as

theorem GradingMove.vouched (hw : Store.WellFormed runner.env w.store) (h : GradingMove runner w w')
    {claim : GradingAttemptClaim} (hv : w.store.Vouched claim) : w'.store.Vouched claim := by
  rcases h.store with he | ⟨a, he⟩
  · rw [he]
    exact hv
  · rw [he]
    exact hv.step hw a

end GradingWorld

end PaperGrading
