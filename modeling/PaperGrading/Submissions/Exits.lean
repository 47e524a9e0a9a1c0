import PaperGrading.Submissions.Extracted
import Mathlib.Data.List.Pairwise

/-!
# How an upload ends

One upload with any outcome of each of its calls, among any other uploads and transactions
that leave its row alone.  What it asks of the database depends on its phase and on the status
of its row only, so an upload is followed by these two (`RowRun`), and what its row will be
at the end can be told at each phase from the calls still ahead (`outlook`).

    the outlook of an upload stays the same at each of its steps            (RowRun.outlook_next)
    the row is left `failed` or `ready`, or the write of `failed` failed,
      exactly when every exception on the way is one that is handled        (UploadWorld.settled_iff)
-/

namespace PaperGrading

open Table Store

/-! ## Algorithm -/

/-- What comes of each call of an upload; a call that is not reached does not matter. -/
structure UploadScript where
  /-- `reserve_submission` -/
  reserve : CallOutcome
  /-- the reset of a failed submission to `uploaded` -/
  reset : CallOutcome
  /-- `put_file` -/
  source : WriteOutcome
  /-- the transition to `parsing` -/
  parsing : CallOutcome
  /-- `parse_document` and the serialisation of its result -/
  parse : ParseOutcome
  /-- `_put_extracted_object` -/
  extracted : WriteOutcome
  /-- the transition to `ready` -/
  ready : CallOutcome
  /-- `_mark_failed` -/
  failed : CallOutcome
  /-- `_delete_after_failure` -/
  delete : CallOutcome
  /-- `_mark_cancelled` -/
  cancelled : CallOutcome

namespace UploadScript

def transition (c : UploadScript) : UploadPhase → CallOutcome
  | .resetting _ => c.reset
  | .starting _ => c.parsing
  | .finishing _ => c.ready
  | .marking _ _ _ => c.failed
  | _ => c.cancelled

/-- The next event of an upload. -/
def event (c : UploadScript) (u : Nat) : UploadPhase → Option UploadEvent
  | .waiting => some (.reserve u c.reserve)
  | .storing _ => some (.write u c.source)
  | .parsing _ => some (.parse u c.parse)
  | .extracting _ _ => some (.write u c.extracted)
  | .deleting _ _ => some (.delete u c.delete)
  | .done => none
  | p => some (.transition u (c.transition p))

/-! The exceptions that leave the row `failed` or `ready`, from the last call back to the first. -/

def handledReady (c : UploadScript) : Bool :=
  match c.ready with
  | .raised applied => applied || c.delete.isCancelled
  | _ => true

def handledExtracted (c : UploadScript) : Bool :=
  match c.extracted with
  | .call .returned => c.handledReady
  | .call (.raised _) => c.delete.isCancelled
  | _ => true

def handledParse (c : UploadScript) : Bool :=
  match c.parse with
  | .parsed _ => c.handledExtracted
  | .raised => false
  | _ => true

def handledParsing (c : UploadScript) : Bool :=
  match c.parsing with
  | .returned => c.handledParse
  | .raised _ => false
  | .cancelled _ => true

def handledSource (c : UploadScript) : Bool :=
  match c.source with
  | .call .returned => c.handledParsing
  | .call (.raised _) => false
  | _ => true

def handledReset (c : UploadScript) : Bool :=
  match c.reset with
  | .returned => c.handledSource
  | outcome => !outcome.applied

/-- Every exception of the upload of a new submission, or of one that had failed, is handled. -/
def handled (c : UploadScript) (retry : Bool) : Bool :=
  match c.reserve with
  | .returned => if retry then c.handledReset else c.handledSource
  | outcome => retry || !outcome.applied

end UploadScript

namespace UploadWorld

/-- A write of `failed` by an upload that the database refuses, or that does not take effect. -/
def losesFailure (uploads : Nat → UploadRequest) (u : Nat) (w : UploadWorld) : UploadEvent → Bool
  | .transition u' outcome =>
    u' == u && match (w.phase u).target (uploads u) with
      | some (id, .failed errorCode) =>
        !(outcome.applied && match w.db.transitionSubmission (some (uploads u).ownerId) id
            (.failed errorCode) with
          | .ok (some _, _) => true
          | _ => false)
      | _ => false
  | _ => false

/-- A world, and whether a write of `failed` by one upload was lost on the way to it. -/
structure Watched where
  world : UploadWorld
  lost : Bool

def watch (env : Runtime) (uploads : Nat → UploadRequest) (u : Nat) (r : Watched)
    (ev : UploadEvent) : Watched :=
  ⟨step env uploads r.world ev, r.lost || r.world.losesFailure uploads u ev⟩

/-- The upload takes its own next step, or some other transaction leaves its row as it is. -/
def Admits (env : Runtime) (uploads : Nat → UploadRequest) (u : Nat) (c : UploadScript) (id : Uuid)
    (r : Watched) (ev : UploadEvent) : Prop :=
  c.event u (r.world.phase u) = some ev ∨ (ev.upload ≠ some u ∧ ∀ y, y.id = id →
    (y ∈ (step env uploads r.world ev).db.submissions ↔ y ∈ r.world.db.submissions))

/-- An upload is about to reserve the submission `x`, and will not answer it as a duplicate. -/
structure Reserves (env : Runtime) (uploads : Nat → UploadRequest) (u : Nat) (w : UploadWorld)
    (state : ReservationState) (db : Store) (x : Submission) : Prop where
  waiting : w.phase u = .waiting
  reserve : w.db.reserveSubmission (uploads u).ownerId ((uploads u).reservation env) =
    .ok (state, db)
  found : submissionOf db (uploads u).ownerId (uploads u).assignmentId
    (env.sha256 (uploads u).content) = some x
  continues : resolve state (some x) ≠ .done

/-- The submission is `failed` or `ready`, unless the write of `failed` itself failed. -/
def Watched.Settled (r : Watched) (id : Uuid) : Prop :=
  ∀ y ∈ r.world.db.submissions, y.id = id → y.status = .failed ∨ y.status = .ready ∨ r.lost = true

end UploadWorld

/-! ## One row along one upload -/

namespace SubmissionTarget

/-- What a transition of a sound row still depends on. -/
def accepted (status : SubmissionStatus) (t : SubmissionTarget) : Bool :=
  t.allowed status && match t with
    | .failed errorCode => textOk errorCode
    | _ => true

def isFailed : SubmissionTarget → Bool
  | .failed _ => true
  | _ => false

def status : SubmissionTarget → SubmissionStatus
  | .parsing => .parsing
  | .failed _ => .failed
  | .ready _ => .ready
  | .uploaded => .uploaded

end SubmissionTarget

/-- An upload and the status of its row. -/
structure RowRun where
  phase : UploadPhase
  status : SubmissionStatus
  lost : Bool

namespace RowRun

/-- The phase after a write, a parse or a deletion. -/
def afterCall (c : UploadScript) : UploadPhase → UploadPhase
  | .storing id => (UploadPhase.storing id).afterWrite c.source
  | .parsing id => (UploadPhase.parsing id).afterParse c.parse
  | .extracting id text => (UploadPhase.extracting id text).afterWrite c.extracted
  | .deleting id cancelled =>
    if cancelled || c.delete.isCancelled then .cancelling id else .done
  | p => p

def next (q : UploadRequest) (c : UploadScript) (a : RowRun) : RowRun :=
  match a.phase.target q with
  | none => { a with phase := afterCall c a.phase }
  | some (_, t) =>
    let outcome := c.transition a.phase
    let applied := t.accepted a.status && outcome.applied
    { phase := a.phase.afterTransition (t.accepted a.status && decide (outcome = .returned))
        outcome.isCancelled
      status := if applied then t.status else a.status
      lost := a.lost || (t.isFailed && !applied) }

def settled (a : RowRun) : Bool :=
  a.lost || a.status == .failed || a.status == .ready

/-- Whether the row will be settled at the end. -/
def outlook (c : UploadScript) (a : RowRun) : Bool :=
  match a.phase with
  | .resetting _ => c.handledReset
  | .storing _ => c.handledSource
  | .starting _ => c.handledParsing
  | .parsing _ => c.handledParse
  | .extracting _ _ => c.handledExtracted
  | .finishing _ => c.handledReady
  | .deleting _ cancelled => a.settled || cancelled || c.delete.isCancelled
  | .marking _ _ _ | .cancelling _ => true
  | .waiting | .done => a.settled

/-- The status that a phase finds. -/
def Fits (a : RowRun) : Prop :=
  match a.phase with
  | .resetting _ => a.status = .failed ∧ a.lost = false
  | .storing _ | .starting _ => a.status = .uploaded ∧ a.lost = false
  | .parsing _ | .extracting _ _ | .finishing _ => a.status = .parsing ∧ a.lost = false
  | _ => True

theorem btrimEmpty_extracted (q : UploadRequest) (id : Uuid) :
    btrimEmpty (q.keys id).extracted = false := by
  rw [Bool.eq_false_iff]
  intro h
  have ht := btrimEmpty_iff.1 h 't' (by simp [UploadRequest.keys, buildSubmissionObjectKeys])
  simp at ht

theorem accepted_ready (q : UploadRequest) (id : Uuid) :
    (SubmissionTarget.ready (q.keys id).extracted).accepted .parsing = true := by
  simp [SubmissionTarget.accepted, SubmissionTarget.allowed, btrimEmpty_extracted]

variable {q : UploadRequest} {c : UploadScript} {st : SubmissionStatus} {lost : Bool} {id : Uuid}

/-- A transition to `failed` that is lost is noted, and one that is not leaves the row `failed`. -/
theorem settled_next {a : RowRun} {code : String} (h : a.phase.target q = some (id, .failed code)) :
    (a.next q c).settled = true := by
  unfold next settled
  rw [h]
  simp only [SubmissionTarget.isFailed, SubmissionTarget.status]
  cases (SubmissionTarget.failed code).accepted a.status && (c.transition a.phase).applied <;> simp

/-- Past the writes of the upload a settled row stays settled. -/
theorem outlook_of_settled {a : RowRun} (h : a.settled = true)
    (hp : (∃ id late, a.phase = .deleting id late) ∨ (∃ id, a.phase = .cancelling id) ∨
      a.phase = .done) : a.Fits ∧ a.outlook c = true := by
  unfold Fits outlook
  rcases hp with ⟨id, late, hp⟩ | ⟨id, hp⟩ | hp <;> rw [hp]
  · exact ⟨trivial, by simp [h]⟩
  · exact ⟨trivial, rfl⟩
  · exact ⟨trivial, h⟩

/-- **The outlook of an upload stays the same** at each of its steps. -/
theorem outlook_next {a : RowRun} (h : a.Fits) :
    (a.next q c).Fits ∧ (a.next q c).outlook c = a.outlook c := by
  obtain ⟨p, st, lost⟩ := a
  obtain ⟨reserve, reset, source, parsing, parse, extracted, ready, failed, delete, cancelled⟩ := c
  cases p with
  | waiting => exact ⟨trivial, rfl⟩
  | done => exact ⟨trivial, rfl⟩
  | resetting id =>
    obtain ⟨rfl, rfl⟩ := h
    cases reset with
    | returned => exact ⟨⟨rfl, rfl⟩, rfl⟩
    | raised applied | cancelled applied => cases applied <;> exact ⟨trivial, rfl⟩
  | storing id =>
    obtain ⟨rfl, rfl⟩ := h
    rcases source with ⟨refusal, applied⟩ | _ | applied | applied
    · exact ⟨trivial, rfl⟩
    · exact ⟨⟨rfl, rfl⟩, rfl⟩
    · exact ⟨trivial, rfl⟩
    · exact ⟨trivial, rfl⟩
  | starting id =>
    obtain ⟨rfl, rfl⟩ := h
    cases parsing with
    | returned => exact ⟨⟨rfl, rfl⟩, rfl⟩
    | raised applied | cancelled applied => cases applied <;> exact ⟨trivial, rfl⟩
  | parsing id =>
    obtain ⟨rfl, rfl⟩ := h
    cases parse with
    | parsed text => exact ⟨⟨rfl, rfl⟩, rfl⟩
    | rejected code | raised | cancelled => exact ⟨trivial, rfl⟩
  | extracting id text =>
    obtain ⟨rfl, rfl⟩ := h
    rcases extracted with ⟨refusal, applied⟩ | _ | applied | applied
    · exact ⟨trivial, rfl⟩
    · exact ⟨⟨rfl, rfl⟩, rfl⟩
    · exact ⟨trivial, rfl⟩
    · exact ⟨trivial, rfl⟩
  | finishing id =>
    obtain ⟨rfl, rfl⟩ := h
    have haccepted := accepted_ready q id
    unfold next
    simp only [UploadPhase.target, haccepted, Bool.true_and]
    cases ready with
    | returned => exact ⟨trivial, rfl⟩
    | raised applied | cancelled applied => cases applied <;> exact ⟨trivial, rfl⟩
  | deleting id c' =>
    cases c' with
    | true => exact ⟨trivial, by simp [next, UploadPhase.target, afterCall, outlook]⟩
    | false => cases delete <;> exact ⟨trivial, by simp [next, UploadPhase.target, afterCall, outlook, settled, CallOutcome.isCancelled]⟩
  | marking id code extracted =>
    refine outlook_of_settled (settled_next rfl) ?_
    unfold next
    simp only [UploadPhase.target, UploadPhase.afterTransition]
    cases extracted with
    | true => exact .inl ⟨id, _, rfl⟩
    | false =>
      simp only [Bool.false_eq_true, if_false]
      split
      · exact .inr (.inl ⟨id, rfl⟩)
      · exact .inr (.inr rfl)
  | cancelling id => exact outlook_of_settled (settled_next rfl) (.inr (.inr rfl))

end RowRun

/-! ## Uploads follow it -/

/-- The submission that a phase works on. -/
def UploadPhase.About (id : Uuid) : UploadPhase → Prop
  | .resetting i | .storing i | .starting i | .parsing i | .extracting i _ | .finishing i
  | .marking i _ _ | .deleting i _ | .cancelling i => i = id
  | .waiting => False
  | .done => True

namespace UploadPhase

variable {q : UploadRequest} {p : UploadPhase} {id : Uuid}

theorem About.target (h : p.About id) {i : Uuid} {t : SubmissionTarget}
    (ht : p.target q = some (i, t)) : i = id := by
  cases p <;> cases ht <;> exact h

theorem About.afterTransition (h : p.About id) (moved cancelled : Bool) :
    (p.afterTransition moved cancelled).About id := by
  unfold UploadPhase.afterTransition
  split <;> repeat' split
  all_goals first | exact h | trivial

theorem About.afterWrite (h : p.About id) (outcome : WriteOutcome) :
    (p.afterWrite outcome).About id := by
  unfold UploadPhase.afterWrite
  split
  · split <;> first | exact h | trivial
  · split <;> exact h
  · exact h

theorem About.afterParse (h : p.About id) (outcome : ParseOutcome) :
    (p.afterParse outcome).About id := by
  unfold UploadPhase.afterParse
  split
  · split <;> first | exact h | trivial
  · exact h

theorem About.afterCall (h : p.About id) (c : UploadScript) : (RowRun.afterCall c p).About id := by
  cases p with
  | storing i => exact h.afterWrite c.source
  | extracting i text => exact h.afterWrite c.extracted
  | parsing i => exact h.afterParse c.parse
  | deleting i late =>
    show (if late || c.delete.isCancelled then cancelling i else done).About id
    split
    · exact h
    · trivial
  | _ => exact h

/-- The key that a transition to `ready` names. -/
theorem ready_key {i : Uuid} {t : SubmissionTarget} (ht : p.target q = some (i, t)) {x : Submission}
    (hid : x.id = i) (howner : x.ownerId = q.ownerId) (hassignment : x.assignmentId = q.assignmentId)
    {key : String} (hkey : t = .ready key) : key = x.directory ++ "/document-blocks.v1.json" := by
  subst hkey
  obtain ⟨rfl, rfl⟩ := UploadWorld.target_ready ht
  unfold UploadRequest.keys buildSubmissionObjectKeys Submission.directory
  rw [hid, howner, hassignment]

end UploadPhase

namespace UploadWorld

variable {env : Runtime} {uploads : Nat → UploadRequest} {u : Nat} {c : UploadScript} {id : Uuid}

/-- The constraints of the table `submissions`. -/
structure Rows (w : UploadWorld) : Prop where
  unique : w.db.submissions.Pairwise fun x y => submissionConflict x y = false
  check : ∀ x ∈ w.db.submissions, x.rowCheck = .ok ()

theorem rowCheck_apply {x : Submission} {t : SubmissionTarget} (hx : x.rowCheck = .ok ())
    (ht : t.accepted x.status = true)
    (hkey : ∀ key, t = .ready key → key = x.directory ++ "/document-blocks.v1.json") :
    (t.apply x).rowCheck = .ok () := by
  unfold Submission.rowCheck at hx ⊢
  simp only [bind_eq_ok, require_eq_ok] at hx ⊢
  obtain ⟨_, htext, _, hfile, _, hname, _, -, hkeys⟩ := hx
  simp only [Bool.and_eq_true] at htext hkeys
  have hfixed (e : Option String) (he : e.all textOk = true) :
      (textOk x.originalFilename && e.all textOk) = true := by
    rw [htext.1, he, Bool.and_self]
  have hboth {b : Bool} (hb : b = true) := Bool.and_eq_true_iff.2 ⟨hkeys.1, hb⟩
  cases t with
  | parsing | uploaded =>
    exact ⟨(), hfixed none rfl, (), hfile, (), hname, (), rfl, hboth rfl⟩
  | ready key =>
    refine ⟨(), hfixed none rfl, (), hfile, (), hname, (), rfl, hboth ?_⟩
    have hname : key = x.directory ++ "/document-blocks.v1.json" := hkey key rfl
    exact decide_eq_true hname
  | failed code =>
    simp only [SubmissionTarget.accepted, SubmissionTarget.allowed, Bool.and_eq_true] at ht
    refine ⟨(), hfixed (some code) ht.2, (), hfile, (), hname, (), ?_, hboth rfl⟩
    simpa [SubmissionTarget.apply] using ht.1.2

theorem submissionConflict_comm (x y : Submission) :
    submissionConflict x y = submissionConflict y x := by
  unfold submissionConflict
  rw [Bool.eq_iff_iff]
  simp only [Bool.or_eq_true, Bool.and_eq_true, beq_iff_eq, Option.isSome_iff_exists]
  grind

/-- A transition meets no other row: the key of an extracted text names its submission. -/
theorem submissionConflict_apply {w : UploadWorld} (hw : w.Rows) {x z : Submission}
    {t : SubmissionTarget} (hx : x ∈ w.db.submissions) (hz : z ∈ w.db.submissions) (hne : z ≠ x)
    (hkey : ∀ key, t = .ready key → key = x.directory ++ "/document-blocks.v1.json") :
    submissionConflict (t.apply x) z = false := by
  have : Std.Symm fun x y => submissionConflict x y = false :=
    ⟨fun y y' h => by rwa [submissionConflict_comm]⟩
  have hxz : submissionConflict x z = false := hw.unique.forall hx hz hne.symm
  unfold submissionConflict at hxz ⊢
  simp only [Bool.or_eq_false_iff] at hxz ⊢
  obtain ⟨⟨⟨hid, hcontent⟩, hsource⟩, -⟩ := hxz
  cases t with
  | ready key =>
    refine ⟨⟨⟨hid, hcontent⟩, hsource⟩, ?_⟩
    obtain rfl := hkey key rfl
    simp only [SubmissionTarget.apply, Option.isSome_some, Bool.true_and, beq_eq_false_iff_ne]
    intro hz'
    have hkeys := extracted_of_rowCheck (hw.check z hz) hz'.symm
    have hxz : x.id = z.id := extracted_inj (m := x.mediaType) hkeys
    simp [hxz] at hid
  | parsing | uploaded | failed => exact ⟨⟨⟨hid, hcontent⟩, hsource⟩, rfl⟩

theorem accepted_of_rowCheck {x : Submission} {t : SubmissionTarget}
    (ht : t.allowed x.status = true) (hx : (t.apply x).rowCheck = .ok ()) :
    t.accepted x.status = true := by
  unfold SubmissionTarget.accepted
  rw [ht, Bool.true_and]
  cases t with
  | failed code =>
    unfold Submission.rowCheck at hx
    simp only [bind_eq_ok, require_eq_ok] at hx
    obtain ⟨_, htext, -⟩ := hx
    simp only [SubmissionTarget.apply, Bool.and_eq_true] at htext
    simpa using htext.2
  | _ => rfl

/-- The row of a submission after a transition. -/
def transitioned (w : UploadWorld) (x : Submission) (t : SubmissionTarget) : Store :=
  { w.db with submissions := replaceRow (·.id) x (t.apply x) w.db.submissions }

section Transition

variable {w : UploadWorld} {x : Submission} {t : SubmissionTarget}

theorem Rows.transitioned (hw : w.Rows) (hx : x ∈ w.db.submissions)
    (ht : t.accepted x.status = true)
    (hkey : ∀ key, t = .ready key → key = x.directory ++ "/document-blocks.v1.json") :
    ({ w with db := w.transitioned x t } : UploadWorld).Rows := by
  refine ⟨pairwise_replaceRow (nodup_submissionIds hw.unique) hx hw.unique
    (by simp [submissionConflict]) fun z hz hne => ?_, fun y hy => ?_⟩
  · have hxz := submissionConflict_apply hw hx hz hne hkey
    exact ⟨hxz, by rwa [submissionConflict_comm]⟩
  · rcases (mem_replaceRow hx).1 hy with rfl | ⟨hy, -⟩
    · exact rowCheck_apply (hw.check x hx) ht hkey
    · exact hw.check y hy

/-- An accepted transition of a sound row is made. -/
theorem transitionSubmission_of_accepted (hw : w.Rows) (hx : x ∈ w.db.submissions)
    (ht : t.accepted x.status = true)
    (hkey : ∀ key, t = .ready key → key = x.directory ++ "/document-blocks.v1.json") :
    w.db.transitionSubmission (some x.ownerId) x.id t = .ok (some x.id, w.transitioned x t) := by
  have hn := nodup_submissionIds hw.unique
  have hid (y : Submission) (hy : (y.id == x.id && y.ownerId == x.ownerId) = true) :
      y.id = x.id := by
    simp only [Bool.and_eq_true, beq_iff_eq] at hy
    exact hy.1
  have hfind : w.db.submissions.find? (fun y => y.id == x.id && y.ownerId == x.ownerId) = some x :=
    find?_eq_some_of_key hn hx _ (by simp) hid
  have hupdate : updateWhere (fun y => y.id == x.id && y.ownerId == x.ownerId) t.apply
      (fun _ new => new.rowCheck) w.db.submissions = .ok (w.transitioned x t).submissions := by
    refine (updateWhere_eq_ok _ _ _ _ _).2
      ⟨(setWhere_eq_replaceRow hn hx (by simp) (fun y _ hy => hid y hy) t.apply).symm,
        fun y hy hp => ?_⟩
    obtain rfl := eq_of_key_eq hn hy hx (hid y hp)
    exact rowCheck_apply (hw.check y hy) ht hkey
  have hunique : submissionsUnique (w.transitioned x t).submissions = true := by
    simpa [submissionsUnique] using (hw.transitioned hx ht hkey).unique
  have hallowed : t.allowed x.status = true := by
    unfold SubmissionTarget.accepted at ht
    exact (Bool.and_eq_true_iff.1 ht).1
  simp only [transitionSubmission, hfind]
  exact bind_eq_ok.2 ⟨(), require_eq_ok.2 hallowed, bind_eq_ok.2 ⟨_, hupdate,
    bind_eq_ok.2 ⟨(), require_eq_ok.2 hunique, rfl⟩⟩⟩

/-- One that is not accepted is refused. -/
theorem accepted_of_transitionSubmission (hw : w.Rows) (hx : x ∈ w.db.submissions)
    {r : Uuid} {db : Store}
    (h : w.db.transitionSubmission (some x.ownerId) x.id t = .ok (some r, db)) :
    t.accepted x.status = true := by
  rcases transitionSubmission_cases hw.unique h with ⟨hne, -⟩ |
    ⟨y, hy, hid, -, hallowed, hrow, -, -⟩
  · cases hne
  · obtain rfl := eq_of_key_eq (nodup_submissionIds hw.unique) hy hx hid
    exact accepted_of_rowCheck hallowed hrow

end Transition

/-- The row of a submission, as an upload finds it. -/
def RowOf (q : UploadRequest) (id : Uuid) (st : SubmissionStatus) (w : UploadWorld) : Prop :=
  ∃ x ∈ w.db.submissions, x.id = id ∧ x.ownerId = q.ownerId ∧ x.assignmentId = q.assignmentId ∧
    x.status = st

/-- A world in which an upload and its row stand as said. -/
structure Shows (q : UploadRequest) (u : Nat) (id : Uuid) (r : Watched) (a : RowRun) : Prop where
  rows : r.world.Rows
  phase : r.world.phase u = a.phase
  about : a.phase.About id
  row : RowOf q id a.status r.world
  lost : r.lost = a.lost

theorem step_call (env : Runtime) {w : UploadWorld} {ev : UploadEvent} (hev : c.event u (w.phase u) = some ev)
    (hp : (w.phase u).About id) (ht : (w.phase u).target (uploads u) = none) :
    (step env uploads w ev).db = w.db ∧
      (step env uploads w ev).phase u = RowRun.afterCall c (w.phase u) ∧
      losesFailure uploads u w ev = false := by
  cases h : w.phase u with
  | waiting => 
    rw [h] at hp
    cases hp
  | done => 
    rw [h] at hev
    cases hev
  | storing i =>
    rw [h] at hev
    cases hev
    simp [step, write, h, UploadPhase.written, losesFailure, RowRun.afterCall, setPhase]
  | extracting i text =>
    rw [h] at hev
    cases hev
    simp [step, write, h, UploadPhase.written, losesFailure, RowRun.afterCall, setPhase]
  | parsing i =>
    rw [h] at hev
    cases hev
    simp [step, parse, h, losesFailure, RowRun.afterCall, setPhase]
  | deleting i late =>
    rw [h] at hev
    cases hev
    simp [step, delete, h, losesFailure, RowRun.afterCall, setPhase]
  | _ => 
    rw [h] at ht
    cases ht

theorem event_of_target {p : UploadPhase} {i : Uuid} {t : SubmissionTarget}
    (ht : p.target (uploads u) = some (i, t)) : c.event u p = some (.transition u (c.transition p)) := by
  cases p <;> cases ht <;> rfl

theorem RowOf.transitioned {q : UploadRequest} {w : UploadWorld} {x : Submission}
    {t : SubmissionTarget} (hx : x ∈ w.db.submissions) (howner : x.ownerId = q.ownerId)
    (hassignment : x.assignmentId = q.assignmentId) :
    RowOf q x.id t.status { w with db := w.transitioned x t } := by
  refine ⟨t.apply x, (mem_replaceRow hx).2 (.inl rfl), ?_⟩
  obtain ⟨hid, ho, ha⟩ := apply_identity t x
  refine ⟨hid, ho.trans howner, ha.trans hassignment, ?_⟩
  cases t <;> rfl

theorem step_transition_of_accepted (env : Runtime) {w : UploadWorld} {x : Submission}
    {t : SubmissionTarget} (outcome : CallOutcome)
    (ht : (w.phase u).target (uploads u) = some (x.id, t))
    (hmade : w.db.transitionSubmission (some (uploads u).ownerId) x.id t =
      .ok (some x.id, w.transitioned x t)) :
    step env uploads w (.transition u outcome) =
      { w.setPhase u ((w.phase u).afterTransition (decide (outcome = .returned))
          outcome.isCancelled) with
        db := if outcome.applied then w.transitioned x t else w.db } ∧
    losesFailure uploads u w (.transition u outcome) = (t.isFailed && !outcome.applied) := by
  unfold step UploadWorld.transition losesFailure
  simp only [ht, hmade, beq_self_eq_true, Bool.true_and, true_and]
  cases t with
  | failed code => simp [hmade, SubmissionTarget.isFailed]
  | _ => rfl

theorem step_transition_of_refused (env : Runtime) {w : UploadWorld} {i : Uuid}
    {t : SubmissionTarget} (outcome : CallOutcome)
    (ht : (w.phase u).target (uploads u) = some (i, t))
    (hrefused : ∀ y db, w.db.transitionSubmission (some (uploads u).ownerId) i t ≠
      .ok (some y, db)) :
    step env uploads w (.transition u outcome) =
      w.setPhase u ((w.phase u).afterTransition false outcome.isCancelled) ∧
    losesFailure uploads u w (.transition u outcome) = t.isFailed := by
  unfold step UploadWorld.transition losesFailure
  simp only [ht, beq_self_eq_true, Bool.true_and, true_and]
  cases t with
  | failed code => simp [SubmissionTarget.isFailed]
  | _ => rfl

/-- An upload makes its transitions as its row allows. -/
theorem Shows.transition {r : Watched} {a : RowRun} (h : Shows (uploads u) u id r a) {i : Uuid}
    {t : SubmissionTarget} (ht : a.phase.target (uploads u) = some (i, t)) :
    Shows (uploads u) u id (watch env uploads u r (.transition u (c.transition a.phase)))
      (a.next (uploads u) c) := by
  obtain ⟨hrows, hphase, habout, ⟨x, hx, rfl, howner, hassignment, hstatus⟩, hlost⟩ := h
  obtain rfl := habout.target ht
  have hkey (key : String) (hk : t = .ready key) := UploadPhase.ready_key ht rfl howner hassignment hk
  have htarget : (r.world.phase u).target (uploads u) = some (x.id, t) := by rw [hphase, ht]
  unfold RowRun.next watch
  rw [ht]
  dsimp only
  generalize c.transition a.phase = outcome
  cases haccepted : t.accepted a.status with
  | true =>
    rw [← hstatus] at haccepted
    have hmade := transitionSubmission_of_accepted hrows hx haccepted hkey
    rw [howner] at hmade
    obtain ⟨hstep, hloses⟩ := step_transition_of_accepted env outcome htarget hmade
    rw [hstep, hloses, hlost, hphase]
    simp only [Bool.true_and]
    refine ⟨?_, setPhase_self _ _ _, habout.afterTransition _ _, ?_, rfl⟩
    · cases outcome.applied with
      | true =>
        have hmoved := hrows.transitioned hx haccepted hkey
        exact ⟨hmoved.unique, hmoved.check⟩
      | false => exact ⟨hrows.unique, hrows.check⟩
    · cases outcome.applied with
      | true => exact .transitioned hx howner hassignment
      | false => exact ⟨x, hx, rfl, howner, hassignment, hstatus⟩
  | false =>
    have hrefused (y : Uuid) (db : Store) :
        r.world.db.transitionSubmission (some (uploads u).ownerId) x.id t ≠ .ok (some y, db) := by
      intro hmade
      rw [← howner] at hmade
      rw [← hstatus, accepted_of_transitionSubmission hrows hx hmade] at haccepted
      cases haccepted
    obtain ⟨hstep, hloses⟩ := step_transition_of_refused env outcome htarget hrefused
    rw [hstep, hloses, hlost, hphase]
    simp only [Bool.false_and, Bool.not_false, Bool.and_true]
    exact ⟨⟨hrows.unique, hrows.check⟩, setPhase_self _ _ _, habout.afterTransition _ _,
      ⟨x, hx, rfl, howner, hassignment, hstatus⟩, rfl⟩

/-- One more step of the upload. -/
theorem Shows.own {r : Watched} {a : RowRun} (h : Shows (uploads u) u id r a) {ev : UploadEvent}
    (hev : c.event u (r.world.phase u) = some ev) :
    Shows (uploads u) u id (watch env uploads u r ev) (a.next (uploads u) c) := by
  cases ht : a.phase.target (uploads u) with
  | some p =>
    rw [h.phase, event_of_target ht] at hev
    cases hev
    exact h.transition ht
  | none =>
    rw [← h.phase] at ht
    obtain ⟨hdb, hphase, hloses⟩ := step_call env hev (h.phase ▸ h.about) ht
    have habout := h.about
    rw [← h.phase] at habout
    unfold RowRun.next watch
    rw [← h.phase, ht, hloses, Bool.or_false]
    dsimp only
    refine ⟨⟨?_, ?_⟩, hphase, habout.afterCall c, ?_, h.lost⟩
    · show (step env uploads r.world ev).db.submissions.Pairwise _
      rw [hdb]
      exact h.rows.unique
    · show ∀ x ∈ (step env uploads r.world ev).db.submissions, _
      rw [hdb]
      exact h.rows.check
    · unfold RowOf
      show ∃ x ∈ (step env uploads r.world ev).db.submissions, _
      rw [hdb]
      exact h.row

/-- Every event keeps the constraints. -/
theorem Rows.step {w : UploadWorld} (h : w.Rows) (ev : UploadEvent) :
    (step env uploads w ev).Rows := by
  cases ev with
  | reserve u outcome =>
    unfold UploadWorld.step UploadWorld.reserve
    dsimp only
    split
    · split
      · exact ⟨h.unique, h.check⟩
      next state db hreserve =>
        cases outcome.applied with
        | false => exact ⟨h.unique, h.check⟩
        | true =>
          rcases reserveSubmission_cases hreserve with rfl | ⟨row, -, hrow, huniq, rfl⟩
          · exact ⟨h.unique, h.check⟩
          · refine ⟨by simpa [submissionsUnique] using huniq, fun x hx => ?_⟩
            rcases List.mem_append.1 hx with hx | hx
            · exact h.check x hx
            · rw [List.mem_singleton.1 hx]
              exact hrow
    · exact h
  | transition u outcome =>
    unfold UploadWorld.step UploadWorld.transition
    dsimp only
    split
    · exact h
    · split
      next hmade =>
        cases outcome.applied with
        | false => exact ⟨h.unique, h.check⟩
        | true =>
          rcases transitionSubmission_cases h.unique hmade with ⟨hne, -⟩ |
            ⟨x, hx, -, -, -, hrow, huniq, rfl⟩
          · cases hne
          · refine ⟨by simpa [submissionsUnique] using huniq, fun y hy => ?_⟩
            rcases (mem_replaceRow hx).1 hy with rfl | ⟨hy, -⟩
            · exact hrow
            · exact h.check y hy
      · exact ⟨h.unique, h.check⟩
  | write u outcome =>
    unfold UploadWorld.step UploadWorld.write
    dsimp only
    split <;> exact ⟨h.unique, h.check⟩
  | delete u outcome =>
    unfold UploadWorld.step UploadWorld.delete
    dsimp only
    split <;> exact ⟨h.unique, h.check⟩
  | parse u outcome => exact ⟨h.unique, h.check⟩
  | crash u => exact ⟨h.unique, h.check⟩
  | elsewhere db => exact ⟨h.unique, h.check⟩

theorem losesFailure_other {w : UploadWorld} {ev : UploadEvent} (h : ev.upload ≠ some u) :
    losesFailure uploads u w ev = false := by
  cases ev with
  | transition u' outcome =>
    have hu : (u' == u) = false := beq_eq_false_iff_ne.2 fun he => h (congrArg some he)
    simp only [losesFailure, hu, Bool.false_and]
  | _ => rfl

/-- A step of another upload. -/
theorem Shows.other {r : Watched} {a : RowRun} (h : Shows (uploads u) u id r a) {ev : UploadEvent}
    (hev : ev.upload ≠ some u) (hrow : ∀ y, y.id = id →
      (y ∈ (step env uploads r.world ev).db.submissions ↔ y ∈ r.world.db.submissions)) :
    Shows (uploads u) u id (watch env uploads u r ev) a := by
  obtain ⟨x, hx, hid, hrest⟩ := h.row
  refine ⟨h.rows.step ev, (step_phase_other hev).trans h.phase, h.about,
    ⟨x, (hrow x hid).2 hx, hid, hrest⟩, ?_⟩
  unfold watch
  rw [losesFailure_other hev, Bool.or_false]
  exact h.lost

/-! ## Runs -/

/-- Along a run of an upload its row keeps its outlook. -/
theorem Shows.run {es : List UploadEvent} {r : Watched} {a : RowRun}
    (h : Shows (uploads u) u id r a) (hfits : a.Fits)
    (hes : Runs.Guarded (watch env uploads u) (Admits env uploads u c id) r es) :
    ∃ a' : RowRun, Shows (uploads u) u id (Runs.run (watch env uploads u) r es) a' ∧ a'.Fits ∧
      a'.outlook c = a.outlook c := by
  refine Runs.run_invariant_of_guarded (P := fun r => ∃ a' : RowRun, Shows (uploads u) u id r a' ∧
    a'.Fits ∧ a'.outlook c = a.outlook c) ⟨a, h, hfits, rfl⟩ hes ?_
  rintro r ev ⟨a', h', hfits', houtlook⟩ (hown | ⟨hother, hrow⟩)
  · obtain ⟨hnext, heq⟩ := RowRun.outlook_next (q := uploads u) (c := c) hfits'
    exact ⟨_, h'.own hown, hnext, heq.trans houtlook⟩
  · exact ⟨a', h'.other hother hrow, hfits', houtlook⟩

theorem settled_iff_outlook {r : Watched} {a : RowRun} (h : Shows (uploads u) u id r a)
    (hdone : r.world.phase u = .done) : r.Settled id ↔ a.outlook c = true := by
  obtain ⟨x, hx, rfl, -, -, hstatus⟩ := h.row
  have hout : a.outlook c = a.settled := by
    unfold RowRun.outlook
    rw [← h.phase, hdone]
  rw [hout]
  unfold Watched.Settled RowRun.settled
  rw [h.lost, ← hstatus]
  simp only [Bool.or_eq_true, beq_iff_eq]
  constructor
  · intro hall
    rcases hall x hx rfl with hs | hs | hs
    · exact .inl (.inr hs)
    · exact .inr hs
    · exact .inl (.inl hs)
  · intro hs y hy hid
    obtain rfl := eq_of_key_eq (nodup_submissionIds h.rows.unique) hy hx hid
    rcases hs with (hs | hs) | hs
    · exact .inr (.inr hs)
    · exact .inl hs
    · exact .inr (.inl hs)

/-! ## The reservation -/

theorem submissionOf_eq_some {s : Store} {ownerId assignmentId : Uuid} {content : Hash}
    {x : Submission} (h : submissionOf s ownerId assignmentId content = some x) :
    x ∈ s.submissions ∧ x.ownerId = ownerId ∧ x.assignmentId = assignmentId ∧
      x.contentSha256 = content := by
  have hx := List.find?_some h
  simp only [Bool.and_eq_true, beq_iff_eq] at hx
  exact ⟨List.mem_of_find?_eq_some h, hx.1.2, hx.1.1, hx.2⟩

/-- A reservation finds the row of the content, or inserts it. -/
theorem reserveSubmission_found {s s' : Store} {ownerId : Uuid} {q : SubmissionReservationRequest}
    {state : ReservationState} (h : s.reserveSubmission ownerId q = .ok (state, s'))
    {x : Submission} (hx : submissionOf s' ownerId q.assignmentId q.contentSha256 = some x) :
    (state ≠ .created ∧ s' = s) ∨
      (state = .created ∧ x.status = .uploaded ∧ ∀ y ∈ s.submissions, y.id ≠ x.id) := by
  unfold reserveSubmission at h
  split at h
  · cases h
    exact .inl ⟨by simp, rfl⟩
  split at h
  · cases h
    exact .inl ⟨by simp, rfl⟩
  split at h
  · split at h <;> cases h
    exact .inl ⟨by simp, rfl⟩
  next hany =>
    simp only [bind_eq_ok, insertRow_eq_ok, require_eq_ok] at h
    obtain ⟨rows, ⟨rfl, -⟩, _, huniq, hret⟩ := h
    cases hret
    obtain ⟨hmem, -, ha, hcontent⟩ := submissionOf_eq_some hx
    rcases List.mem_append.1 hmem with hmem | hmem
    · refine absurd (List.any_eq_true.2 ⟨x, hmem, ?_⟩) hany
      simp [ha, hcontent]
    · rw [List.mem_singleton.1 hmem]
      refine .inr ⟨rfl, rfl, fun y hy he => ?_⟩
      have hpair := of_decide_eq_true huniq
      have hconflict := (List.pairwise_append.1 hpair).2.2 y hy _ (List.mem_singleton_self _)
      simp [submissionConflict, he] at hconflict

theorem rows_after (env : Runtime) (uploads : Nat → UploadRequest) (es : List UploadEvent) :
    (after env uploads es).Rows :=
  Runs.run_invariant es ⟨.nil, fun _ hx => absurd hx List.not_mem_nil⟩ fun _ ev h => h.step ev

theorem resolve_eq {state : ReservationState} {x : Submission}
    (h : resolve state (some x) ≠ .done) :
    (state = .created ∧ resolve state (some x) = .storing x.id) ∨
      (state = .duplicate ∧ x.status = .failed ∧ resolve state (some x) = .resetting x.id) := by
  cases state with
  | created => exact .inl ⟨rfl, rfl⟩
  | duplicate =>
    unfold resolve at h ⊢
    dsimp only at h ⊢
    split at h
    next hfailed =>
      rw [if_pos hfailed]
      exact .inr ⟨rfl, hfailed, rfl⟩
    · exact absurd rfl h
  | _ => exact absurd rfl h

section Reservation

variable {w : UploadWorld} {state : ReservationState} {db : Store} {x : Submission}

theorem Reserves.step (h : Reserves env uploads u w state db x) (outcome : CallOutcome) :
    step env uploads w (.reserve u outcome) =
      { w.setPhase u (if outcome = .returned then resolve state (some x) else .done) with
        db := if outcome.applied then db else w.db } := by
  simp only [UploadWorld.step, UploadWorld.reserve, h.waiting, h.reserve, h.found]

/-- A reservation that took effect, or found the row of an upload that had failed. -/
theorem Reserves.shows (h : Reserves env uploads u w state db x) (hw : w.Rows)
    {outcome : CallOutcome} (happlied : outcome.applied = true ∨ state = .duplicate) :
    Shows (uploads u) u x.id (watch env uploads u ⟨w, false⟩ (.reserve u outcome))
      ⟨if outcome = .returned then resolve state (some x) else .done, x.status, false⟩ := by
  obtain ⟨hmem, howner, hassignment, -⟩ := submissionOf_eq_some h.found
  have hrows := @UploadWorld.Rows.step env uploads w hw (.reserve u outcome)
  have hstep := h.step outcome
  have hdb : (UploadWorld.step env uploads w (.reserve u outcome)).db = db := by
    rw [hstep]
    dsimp only
    split
    · rfl
    next ha =>
      obtain rfl := happlied.resolve_left ha
      rcases reserveSubmission_found h.reserve h.found with ⟨-, rfl⟩ | ⟨hne, -⟩
      · rfl
      · cases hne
  refine ⟨hrows, ?_, ?_, ⟨x, ?_, rfl, howner, hassignment, rfl⟩, rfl⟩
  · show (UploadWorld.step env uploads w (.reserve u outcome)).phase u = _
    rw [hstep]
    exact setPhase_self _ _ _
  · dsimp only
    split
    · rcases resolve_eq h.continues with ⟨-, hp⟩ | ⟨-, -, hp⟩ <;> rw [hp] <;> rfl
    · trivial
  · show x ∈ (UploadWorld.step env uploads w (.reserve u outcome)).db.submissions
    rw [hdb]
    exact hmem

theorem Reserves.outlook (h : Reserves env uploads u w state db x)
    (happlied : c.reserve.applied = true ∨ state = .duplicate) :
    RowRun.Fits ⟨if c.reserve = .returned then resolve state (some x) else .done, x.status, false⟩ ∧
      RowRun.outlook c ⟨if c.reserve = .returned then resolve state (some x) else .done, x.status,
        false⟩ = c.handled (state == .duplicate) := by
  unfold UploadScript.handled
  rcases resolve_eq h.continues with ⟨rfl, hp⟩ | ⟨rfl, hstatus, hp⟩
  · have hstatus : x.status = .uploaded := by
      rcases reserveSubmission_found h.reserve h.found with ⟨hne, -⟩ | ⟨-, hstatus, -⟩
      · exact absurd rfl hne
      · exact hstatus
    rw [hp, hstatus]
    cases hc : c.reserve with
    | returned => exact ⟨⟨rfl, rfl⟩, rfl⟩
    | raised applied | cancelled applied =>
      rw [hc] at happlied
      obtain rfl : applied = true := happlied.resolve_right (by simp)
      exact ⟨trivial, rfl⟩
  · rw [hp, hstatus]
    cases hc : c.reserve with
    | returned => exact ⟨⟨rfl, rfl⟩, rfl⟩
    | raised applied | cancelled applied => exact ⟨trivial, rfl⟩

/-- A reservation that did not take effect leaves no row, now and later. -/
theorem settled_of_not_applied (h : Reserves env uploads u w state db x)
    (hcreated : state = .created) {outcome : CallOutcome} (happlied : outcome.applied = false)
    {es : List UploadEvent}
    (hes : Runs.Guarded (watch env uploads u) (Admits env uploads u c x.id)
      (watch env uploads u ⟨w, false⟩ (.reserve u outcome)) es) :
    (Runs.run (watch env uploads u) (watch env uploads u ⟨w, false⟩ (.reserve u outcome)) es).Settled
      x.id := by
  have hnone : ∀ y ∈ w.db.submissions, y.id ≠ x.id := by
    rcases reserveSubmission_found h.reserve h.found with ⟨hne, -⟩ | ⟨-, -, hnone⟩
    · exact absurd hcreated hne
    · exact hnone
  have hstart : ((watch env uploads u ⟨w, false⟩ (.reserve u outcome)).world.phase u = .done ∧
      ∀ y ∈ (watch env uploads u ⟨w, false⟩ (.reserve u outcome)).world.db.submissions,
        y.id ≠ x.id) := by
    unfold watch
    dsimp only
    rw [h.step outcome, happlied]
    refine ⟨?_, hnone⟩
    have hne : outcome ≠ .returned := by
      rintro rfl
      cases happlied
    rw [if_neg hne]
    exact setPhase_self _ _ _
  have hend := Runs.run_invariant_of_guarded (P := fun r : Watched => r.world.phase u = .done ∧
    ∀ y ∈ r.world.db.submissions, y.id ≠ x.id) hstart hes ?_
  · exact fun y hy hid => absurd hid (hend.2 y hy)
  · rintro r ev ⟨hdone, hno⟩ (hown | ⟨hother, hrow⟩)
    · rw [hdone] at hown
      cases hown
    · exact ⟨(step_phase_other hother).trans hdone, fun y hy hid => hno y ((hrow y hid).1 hy) hid⟩

end Reservation

/-- **When an upload leaves its submission `failed` or `ready`**, or the write of `failed` itself
failed: in every run in which it goes from its reservation to its end, exactly if each exception
on the way is one that is handled. -/
theorem settled_iff {before es : List UploadEvent} {state : ReservationState} {db : Store}
    {x : Submission} (h : Reserves env uploads u (after env uploads before) state db x)
    (hes : Runs.Guarded (watch env uploads u) (Admits env uploads u c x.id)
      ⟨after env uploads before, false⟩ (.reserve u c.reserve :: es))
    (hdone : (Runs.run (watch env uploads u) ⟨after env uploads before, false⟩
      (.reserve u c.reserve :: es)).world.phase u = .done) :
    (Runs.run (watch env uploads u) ⟨after env uploads before, false⟩
      (.reserve u c.reserve :: es)).Settled x.id ↔ c.handled (state == .duplicate) = true := by
  have hw := rows_after env uploads before
  generalize after env uploads before = w at h hes hdone hw
  rw [Runs.run_cons] at hdone ⊢
  by_cases happlied : c.reserve.applied = true ∨ state = .duplicate
  · obtain ⟨hfits, houtlook⟩ := h.outlook happlied
    obtain ⟨a, hshows, -, ha⟩ := (h.shows hw happlied).run hfits hes.2
    rw [settled_iff_outlook hshows hdone, ha, houtlook]
  · push Not at happlied
    obtain ⟨hcall, hstate⟩ := happlied
    have hcall : c.reserve.applied = false := by simpa using hcall
    have hcreated : state = .created := by
      rcases resolve_eq h.continues with ⟨hcreated, -⟩ | ⟨hduplicate, -, -⟩
      · exact hcreated
      · exact absurd hduplicate hstate
    refine iff_of_true (settled_of_not_applied h hcreated hcall hes.2) ?_
    unfold UploadScript.handled
    cases hc : c.reserve with
    | returned =>
      rw [hc] at hcall
      cases hcall
    | raised applied | cancelled applied =>
      rw [hc] at hcall
      obtain rfl : applied = false := hcall
      exact Bool.or_true _

end UploadWorld

/-! ## A quota refusal, and a lost connection -/

namespace Sample

open UploadWorld

/-- Nothing goes wrong. -/
def smooth : UploadScript where
  reserve := .returned
  reset := .returned
  source := .call .returned
  parsing := .returned
  parse := .parsed [66]
  extracted := .call .returned
  ready := .returned
  failed := .returned
  delete := .returned
  cancelled := .returned

/-- The quota gate refuses the source file. -/
def overQuota : UploadScript :=
  { smooth with source := .refused (.quota "storage_quota_exceeded") false }

/-- The connection to the database is lost before the transition to `parsing`. -/
def disconnected : UploadScript := { smooth with parsing := .raised false }

def beforeUpload : List UploadEvent := [.elsewhere parsed]

def reservedRow : Submission where
  id := submission
  ownerId := teacher
  assignmentId := assignment
  originalFilename := "a.pdf"
  mediaType := .pdf
  fileSizeBytes := 1
  contentSha256 := sampleRuntime.sha256 [65]
  sourceObjectKey := ((uploads 0).keys submission).source
  extractedObjectKey := none
  status := .uploaded
  errorCode := none

theorem upload_reserves : Reserves sampleRuntime uploads 0 (after sampleRuntime uploads beforeUpload)
    .created { parsed with submissions := [reservedRow] } reservedRow where
  waiting := rfl
  reserve := by decide +kernel
  found := by decide +kernel
  continues := by decide +kernel

def overQuotaRun : Watched :=
  Runs.run (watch sampleRuntime uploads 0) ⟨after sampleRuntime uploads beforeUpload, false⟩
    [.reserve 0 .returned, .write 0 (.refused (.quota "storage_quota_exceeded") false),
      .transition 0 .returned]

theorem overQuota_settled : overQuotaRun.Settled submission ↔ overQuota.handled false = true :=
  settled_iff (c := overQuota) upload_reserves ⟨.inl (by decide +kernel), .inl (by decide +kernel),
    .inl (by decide +kernel), trivial⟩ (by decide +kernel)

def disconnectedRun : Watched :=
  Runs.run (watch sampleRuntime uploads 0) ⟨after sampleRuntime uploads beforeUpload, false⟩
    [.reserve 0 .returned, .write 0 (.call .returned), .transition 0 (.raised false)]

theorem disconnectedRun_after : disconnectedRun.lost = false ∧
    disconnectedRun.world.db.submissions.map (fun x => (x.id, x.status)) =
      [(submission, .uploaded)] := by
  decide +kernel

/-- The row is left `uploaded`, and the same file sent again is answered as a duplicate. -/
theorem disconnected_unsettled :
    Runs.Guarded (watch sampleRuntime uploads 0)
      (Admits sampleRuntime uploads 0 disconnected submission)
      ⟨after sampleRuntime uploads beforeUpload, false⟩
      [.reserve 0 .returned, .write 0 (.call .returned), .transition 0 (.raised false)] ∧
    disconnectedRun.world.phase 0 = .done ∧ ¬disconnectedRun.Settled submission ∧
    (step sampleRuntime uploads disconnectedRun.world (.reserve 1 .returned)).phase 1 = .done := by
  refine ⟨⟨.inl (by decide +kernel), .inl (by decide +kernel), .inl (by decide +kernel), trivial⟩,
    by decide +kernel, fun h => ?_, by decide +kernel⟩
  obtain ⟨hlost, hrows⟩ := disconnectedRun_after
  have hmem : (submission, SubmissionStatus.uploaded) ∈
      disconnectedRun.world.db.submissions.map (fun x => (x.id, x.status)) := by
    rw [hrows]
    exact List.mem_singleton_self _
  obtain ⟨x, hx, he⟩ := List.mem_map.1 hmem
  obtain ⟨hid, hst⟩ := Prod.mk.inj he
  rcases h x hx hid with hs | hs | hs
  · rw [hs] at hst
    cases hst
  · rw [hs] at hst
    cases hst
  · rw [hs] at hlost
    cases hlost

end Sample

end PaperGrading
