import PaperGrading.Store.InputEffects
import PaperGrading.Store.TeacherEffects
import Mathlib.Logic.Relation

/-!
# Moves of the grading tables

A committed action is a chain of `Move`s: an input transaction that leaves the
grading tables alone, one of the grading transactions, or, for the expiry scan, one
closed attempt per expired lease.  `R` is what is known of the failures the workers
hand in, `keep` which rubrics stay confirmed; both are free where they do not matter.

    s.exec env a = .ok s' → Relation.ReflTransGen (Move env R keep) s s'                     (exec_moves)
    without the teacher's controls it is a chain of `Work`                             (exec_works)
    every table evolves under the checks of its triggers     (jobs_evolve, items_evolve, …)
    what every move keeps is kept by every action                                         (step_keeps)
-/

namespace PaperGrading

namespace Store

open Table

/-! ## Moves -/

inductive Move (env : Runtime) (R : GradingJob → GradingAttemptFailure → Prop)
    (keep : RubricVersion → Prop) (s s' : Store) : Prop
  | inputs (h : Keeps env keep s s')
  | claimed {prepared : GradingItemPreparation} {job : GradingJob} {item : GradingJobItem}
    {attempt : GradingAttempt} {clock : Clock} {token : Uuid}
    (h : Claimed s s' prepared job item attempt clock token)
  | closed {job : GradingJob} {item item' : GradingJobItem} {attempt attempt' : GradingAttempt}
    {now : Time} (h : Closed R s s' job item item' attempt attempt' now)
  | switched {job job' : GradingJob} (h : Switched s s' job job')
  | cancelled {job : GradingJob} {now : Time} (h : Cancelled s s' job now)
  | retried {job : GradingJob} {item : GradingJobItem} {now : Time} (h : Retried s s' job item now)
  | created {job : GradingJob} {items : List GradingJobItem} (h : Created env s s' job items)
  | drafted {item : GradingJobItem} {attempt : GradingAttempt} {review : TeacherReview}
    (h : Drafted s s' item attempt review)
  | confirmed {teacherId : Uuid} {refs : List (Uuid × Nat)} {now : Time}
    (h : Confirmed s s' teacherId refs now)

variable {env : Runtime} {R : GradingJob → GradingAttemptFailure → Prop}
  {keep : RubricVersion → Prop} {s s' : Store}

/-! ## How the tables evolve -/

theorem itemUpdateCheck_identity {old new : GradingJobItem} (h : itemUpdateCheck old new = .ok ()) :
    new.toItemIdentity = old.toItemIdentity :=
  (itemUpdateCheck_eq_ok.1 h).1

theorem jobUpdateCheck_snapshot {old new : GradingJob} (h : jobUpdateCheck old new = .ok ()) :
    new.toJobSnapshot = old.toJobSnapshot :=
  (jobUpdateCheck_eq_ok.1 h).1

theorem attemptUpdateCheck_identity {old new : GradingAttempt}
    (h : s.attemptUpdateCheck old new = .ok ()) :
    new.toAttemptIdentity = old.toAttemptIdentity :=
  (attemptUpdateCheck_eq_ok.1 h).2.1

theorem reviewUpdateCheck_eq_ok {old new : TeacherReview} :
    s.reviewUpdateCheck old new = .ok () ↔
      old.status ≠ .confirmed ∧
      (new.status = .draft → new.revisionNumber = old.revisionNumber + 1) ∧
      (new.status = .confirmed → new.revisionNumber = old.revisionNumber) ∧
      new.toReviewIdentity = old.toReviewIdentity ∧
      s.validateReviewScore new = .ok () ∧ new.rowCheck = .ok () := by
  unfold reviewUpdateCheck protectReviewHistory
  simp only [bind_eq_ok, require_eq_ok, bne_iff_ne, Bool.or_eq_true, beq_iff_eq, decide_eq_true_eq,
    ne_eq, ← imp_iff_not_or]
  constructor
  · rintro ⟨_, ⟨_, hc, _, hd, _, hk, hid⟩, _, hscore, hrow⟩
    exact ⟨hc, hd, hk, hid, hscore, hrow⟩
  · rintro ⟨hc, hd, hk, hid, hscore, hrow⟩
    exact ⟨(), ⟨(), hc, (), hd, (), hk, hid⟩, (), hscore, hrow⟩

theorem Move.jobs_evolve (hk : s.Keys) (h : Move env R keep s s') :
    Evolves (·.toJobSnapshot) (fun old new => jobUpdateCheck old new = .ok ())
      (fun j => j.status = .queued ∧ s.jobInsertCheck j = .ok () ∧
        ∃ i ∈ s'.items, i.gradingJobId = j.id) s.jobs s'.jobs := by
  cases h with
  | inputs h =>
    rw [h.1.jobs]
    exact .refl _
  | claimed h =>
    rw [h.eq]
    exact .replaceRow hk.jobs h.job_mem (jobUpdateCheck_snapshot h.job_check) h.job_check
  | closed h =>
    rw [h.eq]
    exact .replaceRow hk.jobs h.job_mem (jobUpdateCheck_snapshot h.job_check) h.job_check
  | switched h =>
    rw [h.eq]
    exact .replaceRow hk.jobs h.job_mem (jobUpdateCheck_snapshot h.job_check) h.job_check
  | cancelled h =>
    rw [h.eq]
    exact .replaceRow hk.jobs h.job_mem (jobUpdateCheck_snapshot h.job_check) h.job_check
  | retried h =>
    rw [h.eq]
    exact .replaceRow hk.jobs h.job_mem (jobUpdateCheck_snapshot h.job_check) h.job_check
  | created h =>
    rw [h.eq]
    exact .append fun j hj => by
      rw [List.mem_singleton.1 hj]
      obtain ⟨i, hi⟩ := List.exists_mem_of_ne_nil _ h.items_ne
      exact ⟨h.job_status, h.job_check, i, List.mem_append_right _ hi, h.item_job i hi⟩
  | drafted h =>
    rcases h.write with ⟨_, _, _, _, _, _, he⟩ | ⟨_, _, _, _, he⟩ <;> rw [he] <;> exact .refl _
  | confirmed h =>
    rw [h.eq]
    exact .setWhere (fun j hj hp => jobUpdateCheck_snapshot (h.job_check j hj hp)) h.job_check

theorem Move.items_evolve (hk : s.Keys) (h : Move env R keep s s') :
    Evolves (·.toItemIdentity) (fun old new => itemUpdateCheck old new = .ok ())
      (fun i => i.status = .queued ∧ i.dispatchVersion = 1 ∧
        ({ s with jobs := s'.jobs } : Store).itemInsertCheck i = .ok ()) s.items s'.items := by
  cases h with
  | inputs h =>
    rw [h.1.items]
    exact .refl _
  | claimed h =>
    rw [h.eq]
    exact .replaceRow hk.items h.item_mem (itemUpdateCheck_identity h.item_check) h.item_check
  | closed h =>
    rw [h.eq]
    exact .replaceRow hk.items h.item_mem (itemUpdateCheck_identity h.item_check) h.item_check
  | switched h =>
    rw [h.eq]
    exact .refl _
  | cancelled h =>
    rw [h.eq]
    exact .setWhere (fun i hi hp => itemUpdateCheck_identity (h.item_check i hi hp)) h.item_check
  | retried h =>
    rw [h.eq]
    exact .replaceRow hk.items h.item_mem (itemUpdateCheck_identity h.item_check) h.item_check
  | created h =>
    rw [h.eq]
    exact .append fun i hi => ⟨h.item_queued i hi, h.item_version i hi, h.item_check i hi⟩
  | drafted h =>
    rcases h.write with ⟨_, _, _, _, _, _, he⟩ | ⟨_, _, _, _, he⟩ <;> rw [he] <;> exact .refl _
  | confirmed h =>
    rw [h.eq]
    exact .setWhere (fun i hi hp => itemUpdateCheck_identity (h.item_check i hi hp)) h.item_check

theorem Move.attempts_evolve (hk : s.Keys) (h : Move env R keep s s') :
    Evolves (·.toAttemptIdentity) (fun old new => s.attemptUpdateCheck old new = .ok ())
      (fun a => s.attemptInsertCheck a = .ok ()) s.attempts s'.attempts := by
  cases h with
  | inputs h =>
    rw [h.1.attempts]
    exact .refl _
  | claimed h =>
    rw [h.eq]
    exact .append fun a ha => by
      rw [List.mem_singleton.1 ha]
      exact h.attempt_check
  | closed h =>
    rw [h.eq]
    exact .replaceRow hk.attemptIds h.attempt_mem (attemptUpdateCheck_identity h.attempt_check)
      h.attempt_check
  | switched h => rw [h.eq]; exact .refl _
  | cancelled h => rw [h.eq]; exact .refl _
  | retried h => rw [h.eq]; exact .refl _
  | created h => rw [h.eq]; exact .refl _
  | drafted h =>
    rcases h.write with ⟨_, _, _, _, _, _, he⟩ | ⟨_, _, _, _, he⟩ <;> rw [he] <;> exact .refl _
  | confirmed h => rw [h.eq]; exact .refl _

theorem Move.reviews_evolve (hk : s.Keys) (h : Move env R keep s s') :
    Evolves (·.toReviewIdentity) (fun old new => s.reviewUpdateCheck old new = .ok ())
      (fun r => r.status = .draft ∧ isRfcUuid r.id = true ∧ s.reviewInsertCheck r = .ok ())
      s.reviews s'.reviews := by
  cases h with
  | inputs h =>
    rw [h.1.reviews]
    exact .refl _
  | claimed h => rw [h.eq]; exact .refl _
  | closed h => rw [h.eq]; exact .refl _
  | switched h => rw [h.eq]; exact .refl _
  | cancelled h => rw [h.eq]; exact .refl _
  | retried h => rw [h.eq]; exact .refl _
  | created h => rw [h.eq]; exact .refl _
  | drafted h =>
    rcases h.write with ⟨old, hold, _, _, hchk, _, he⟩ | ⟨_, hrfc, hchk, _, he⟩
    · rw [he]
      exact .replaceRow hk.reviewIds hold (reviewUpdateCheck_eq_ok.1 hchk).2.2.2.1 hchk
    · rw [he]
      exact .append fun r hr => by
        rw [List.mem_singleton.1 hr]
        exact ⟨h.review_draft, hrfc, hchk⟩
  | confirmed h =>
    rw [h.eq]
    exact .setWhere (fun r hr hp => (reviewUpdateCheck_eq_ok.1 (h.review_check r hr hp)).2.2.2.1)
      h.review_check

/-! ## Keys -/

theorem jobs_pairwise_of_map_eq {rows rows' : List GradingJob}
    (h : rows'.map (·.toJobSnapshot) = rows.map (·.toJobSnapshot))
    (hp : rows.Pairwise fun x y => jobConflict x y = false) :
    rows'.Pairwise fun x y => jobConflict x y = false :=
  pairwise_of_map_eq (fun x y x' y' hx hy hxy => by rw [← hxy]; unfold jobConflict; rw [hx, hy]) h hp

theorem items_pairwise_of_map_eq {rows rows' : List GradingJobItem}
    (h : rows'.map (·.toItemIdentity) = rows.map (·.toItemIdentity))
    (hp : rows.Pairwise fun x y => itemConflict x y = false) :
    rows'.Pairwise fun x y => itemConflict x y = false :=
  pairwise_of_map_eq (fun x y x' y' hx hy hxy => by rw [← hxy]; unfold itemConflict; rw [hx, hy])
    h hp

/-- Only a creation adds jobs or items, and nothing changes what identifies them. -/
theorem Move.identities (hk : s.Keys) (h : Move env R keep s s') :
    (∃ job items, Created env s s' job items) ∨
      (s'.jobs.map (·.toJobSnapshot) = s.jobs.map (·.toJobSnapshot) ∧
        s'.items.map (·.toItemIdentity) = s.items.map (·.toItemIdentity)) := by
  cases h with
  | inputs h => exact .inr ⟨by rw [h.1.jobs], by rw [h.1.items]⟩
  | claimed h =>
    rw [h.eq]
    exact .inr ⟨map_replaceRow hk.jobs h.job_mem (jobUpdateCheck_snapshot h.job_check),
      map_replaceRow hk.items h.item_mem (itemUpdateCheck_identity h.item_check)⟩
  | closed h =>
    rw [h.eq]
    exact .inr ⟨map_replaceRow hk.jobs h.job_mem (jobUpdateCheck_snapshot h.job_check),
      map_replaceRow hk.items h.item_mem (itemUpdateCheck_identity h.item_check)⟩
  | switched h =>
    rw [h.eq]
    exact .inr ⟨map_replaceRow hk.jobs h.job_mem (jobUpdateCheck_snapshot h.job_check), rfl⟩
  | cancelled h =>
    rw [h.eq]
    exact .inr ⟨map_replaceRow hk.jobs h.job_mem (jobUpdateCheck_snapshot h.job_check),
      map_setWhere _ _ _ _ fun i hi hp => itemUpdateCheck_identity (h.item_check i hi hp)⟩
  | retried h =>
    rw [h.eq]
    exact .inr ⟨map_replaceRow hk.jobs h.job_mem (jobUpdateCheck_snapshot h.job_check),
      map_replaceRow hk.items h.item_mem (itemUpdateCheck_identity h.item_check)⟩
  | created h => exact .inl ⟨_, _, h⟩
  | drafted h =>
    rcases h.write with ⟨_, _, _, _, _, _, he⟩ | ⟨_, _, _, _, he⟩ <;> rw [he] <;>
      exact .inr ⟨rfl, rfl⟩
  | confirmed h =>
    rw [h.eq]
    exact .inr ⟨map_setWhere _ _ _ _ fun j hj hp => jobUpdateCheck_snapshot (h.job_check j hj hp),
      map_setWhere _ _ _ _ fun i hi hp => itemUpdateCheck_identity (h.item_check i hi hp)⟩

theorem Move.keys (hk : s.Keys) (h : Move env R keep s s') : s'.Keys := by
  have hrows : s'.attempts.Pairwise (fun x y => attemptConflict x y = false) ∧
      s'.reviews.Pairwise fun x y => reviewConflict x y = false := by
    cases h with
    | inputs h => exact ⟨h.1.attempts ▸ hk.attempts, h.1.reviews ▸ hk.reviews⟩
    | claimed h => rw [h.eq]; exact ⟨by simpa [attemptsUnique] using h.unique, hk.reviews⟩
    | closed h => rw [h.eq]; exact ⟨by simpa [attemptsUnique] using h.unique, hk.reviews⟩
    | switched h => rw [h.eq]; exact ⟨hk.attempts, hk.reviews⟩
    | cancelled h => rw [h.eq]; exact ⟨hk.attempts, hk.reviews⟩
    | retried h => rw [h.eq]; exact ⟨hk.attempts, hk.reviews⟩
    | created h => rw [h.eq]; exact ⟨hk.attempts, hk.reviews⟩
    | drafted h =>
      rcases h.write with ⟨_, _, _, _, _, hu, he⟩ | ⟨_, _, _, hu, he⟩ <;> rw [he] <;>
        exact ⟨hk.attempts, by simpa [reviewsUnique] using hu⟩
    | confirmed h =>
      have hu := h.unique
      rw [h.eq] at hu ⊢
      exact ⟨hk.attempts, by simpa [reviewsUnique] using hu⟩
  rcases h.identities hk with ⟨_, _, h⟩ | ⟨hjobs, hitems⟩
  · refine ⟨?_, ?_, hrows.1, hrows.2⟩ <;> rw [h.eq]
    · simpa [jobsUnique] using h.jobs_unique
    · simpa [itemsUnique] using h.items_unique
  · exact ⟨jobs_pairwise_of_map_eq hjobs hk.jobRows, items_pairwise_of_map_eq hitems hk.itemRows,
      hrows.1, hrows.2⟩

/-- Keys and row constraints: what every run keeps by the constraints of the tables alone. -/
structure Sound (env : Runtime) (s : Store) : Prop where
  keys : s.Keys
  inputs : InputRows env s

/-- The input tables are left alone. -/
def SameInputs (s s' : Store) : Prop :=
  s'.assignments = s.assignments ∧ s'.rubrics = s.rubrics ∧ s'.providers = s.providers ∧
    s'.submissions = s.submissions

theorem InputRows.of_same (h : SameInputs s s') (hi : InputRows env s) : InputRows env s' := by
  obtain ⟨-, hr, hp, hx⟩ := h
  exact ⟨hr ▸ hi.rubrics, hr ▸ hi.rubric_check, hp ▸ hi.providers, hp ▸ hi.provider_check,
    hx ▸ hi.submissions, hx ▸ hi.submission_check⟩

theorem Move.inputs_cases (h : Move env R keep s s') : Keeps env keep s s' ∨ SameInputs s s' := by
  cases h with
  | inputs h => exact .inl h
  | claimed h => rw [h.eq]; exact .inr ⟨rfl, rfl, rfl, rfl⟩
  | closed h => rw [h.eq]; exact .inr ⟨rfl, rfl, rfl, rfl⟩
  | switched h => rw [h.eq]; exact .inr ⟨rfl, rfl, rfl, rfl⟩
  | cancelled h => rw [h.eq]; exact .inr ⟨rfl, rfl, rfl, rfl⟩
  | retried h => rw [h.eq]; exact .inr ⟨rfl, rfl, rfl, rfl⟩
  | created h => rw [h.eq]; exact .inr ⟨rfl, rfl, rfl, rfl⟩
  | drafted h =>
    rcases h.write with ⟨_, _, _, _, _, _, he⟩ | ⟨_, _, _, _, he⟩ <;> rw [he] <;>
      exact .inr ⟨rfl, rfl, rfl, rfl⟩
  | confirmed h => rw [h.eq]; exact .inr ⟨rfl, rfl, rfl, rfl⟩

theorem Move.sound (hs : Sound env s) (h : Move env R keep s s') : Sound env s' := by
  refine ⟨h.keys hs.keys, ?_⟩
  rcases h.inputs_cases with hin | hsame
  · exact hin.2 hs.inputs
  · exact hs.inputs.of_same hsame

/-! ## Actions are chains of moves -/

abbrev Moves (env : Runtime) (R : GradingJob → GradingAttemptFailure → Prop)
    (keep : RubricVersion → Prop) : Store → Store → Prop :=
  Relation.ReflTransGen (Move env R keep)

theorem Moves.sound (hs : Sound env s) (h : Moves env R keep s s') : Sound env s' := by
  induction h with
  | refl => exact hs
  | tail _ hm ih => exact hm.sound ih

/-- A move of any transaction but a control. -/
inductive Work (env : Runtime) (R : GradingJob → GradingAttemptFailure → Prop)
    (keep : RubricVersion → Prop) (s s' : Store) : Prop
  | inputs (h : Keeps env keep s s')
  | claimed {prepared : GradingItemPreparation} {job : GradingJob} {item : GradingJobItem}
    {attempt : GradingAttempt} {clock : Clock} {token : Uuid}
    (h : Claimed s s' prepared job item attempt clock token)
  | closed {job : GradingJob} {item item' : GradingJobItem} {attempt attempt' : GradingAttempt}
    {now : Time} (h : Closed R s s' job item item' attempt attempt' now)
  | created {job : GradingJob} {items : List GradingJobItem} (h : Created env s s' job items)
  | drafted {item : GradingJobItem} {attempt : GradingAttempt} {review : TeacherReview}
    (h : Drafted s s' item attempt review)
  | confirmed {teacherId : Uuid} {refs : List (Uuid × Nat)} {now : Time}
    (h : Confirmed s s' teacherId refs now)

theorem Work.move (h : Work env R keep s s') : Move env R keep s s' := by
  cases h with
  | inputs h => exact .inputs h
  | claimed h => exact .claimed h
  | closed h => exact .closed h
  | created h => exact .created h
  | drafted h => exact .drafted h
  | confirmed h => exact .confirmed h

/-- Work that claims nothing: no attempt is inserted, and no job unless a batch is created. -/
def Chore (env : Runtime) (R : GradingJob → GradingAttemptFailure → Prop)
    (keep : RubricVersion → Prop) (creates : Prop) (s s' : Store) : Prop :=
  Work env R keep s s' ∧ s'.attempts.length = s.attempts.length ∧
    (s'.jobs.length = s.jobs.length ∨ creates)

section Chores

variable {creates : Prop}

theorem Keeps.chore (h : Keeps env keep s s') : Chore env R keep creates s s' :=
  ⟨.inputs h, by rw [h.1.attempts], .inl (by rw [h.1.jobs])⟩

theorem Closed.chore {job : GradingJob} {item item' : GradingJobItem}
    {attempt attempt' : GradingAttempt} {now : Time}
    (h : Closed R s s' job item item' attempt attempt' now) : Chore env R keep creates s s' := by
  refine ⟨.closed h, ?_, .inl ?_⟩ <;> rw [h.eq] <;> exact length_setWhere _ _ _

theorem Created.chore {job : GradingJob} {items : List GradingJobItem} (hcreates : creates)
    (h : Created env s s' job items) : Chore env R keep creates s s' :=
  ⟨.created h, by rw [h.eq], .inr hcreates⟩

theorem Drafted.chore {item : GradingJobItem} {attempt : GradingAttempt} {review : TeacherReview}
    (h : Drafted s s' item attempt review) : Chore env R keep creates s s' := by
  refine ⟨.drafted h, ?_⟩
  rcases h.write with ⟨_, _, _, _, _, _, he⟩ | ⟨_, _, _, _, he⟩ <;> rw [he] <;>
    exact ⟨rfl, .inl rfl⟩

theorem Confirmed.chore {teacherId : Uuid} {refs : List (Uuid × Nat)} {now : Time}
    (h : Confirmed s s' teacherId refs now) : Chore env R keep creates s s' := by
  refine ⟨.confirmed h, ?_, .inl ?_⟩ <;> rw [h.eq]
  exact length_setWhere _ _ _

end Chores

/-- The expiry scan closes one attempt after the other. -/
theorem expireStaleAttempts_chores {limit : Nat} {clock : Clock} (hk : s.Keys)
    (h : s.expireStaleAttempts limit clock = .ok s') (creates : Prop) :
    Relation.ReflTransGen (Chore env R keep creates) s s' := by
  have scan : ∀ (candidates : List (Uuid × Uuid)) (t : Store), t.Keys →
      (∀ c ∈ candidates, ∀ i ∈ t.items, i.id = c.2 → i.gradingJobId = c.1) →
      candidates.foldlM (expireOne clock) t = .ok s' →
      Relation.ReflTransGen (Chore env R keep creates) t s' := by
    intro candidates
    induction candidates with
    | nil =>
      intro t _ _ h
      cases h
      exact .refl
    | cons c candidates ih =>
      intro t htk hc h
      rw [List.foldlM_cons, bind_eq_ok] at h
      obtain ⟨u, hu, h⟩ := h
      rcases expireOne_cases (R := R) htk (hc c (by simp)) hu with
        rfl | ⟨job, item, attempt, -, hclosed⟩
      · exact ih u htk (fun c' hc' => hc c' (by simp [hc'])) h
      · have hchore : Chore env R keep creates t u := hclosed.chore
        refine .head hchore (ih u (hchore.1.move.keys htk) (fun c' hc' i hi he => ?_) h)
        rw [hclosed.eq] at hi
        rcases (mem_replaceRow hclosed.item_mem).1 hi with rfl | ⟨hi, -⟩
        · exact hc c' (by simp [hc']) item hclosed.item_mem he
        · exact hc c' (by simp [hc']) i hi he
  refine scan _ s hk (fun c hc i hi he => ?_) h
  unfold expiryCandidates at hc
  obtain ⟨x, hx, rfl⟩ := List.mem_map.1 hc
  have hxm := List.mem_of_mem_filter (List.mem_insertionSort _ |>.1 (List.mem_of_mem_take hx))
  rw [eq_of_key_eq hk.items hi hxm he]

/-- What is known of the failure an action hands in. -/
def FailureIs (R : GradingJob → GradingAttemptFailure → Prop) (s : Store) : Action env → Prop
  | .finishFailure claim f _ => ∀ job item attempt,
      s.lockClaimed claim = .ok (job, item, attempt) → R job f
  | _ => True

theorem failureIs_true (a : Action env) : FailureIs (fun _ _ => True) s a := by
  cases a with
  | finishFailure => exact fun _ _ _ _ => trivial
  | _ => trivial

theorem InputsKept.mono {keep keep' : RubricVersion → Prop} (hk : ∀ r, keep' r → keep r)
    (h : InputsKept keep s s') : InputsKept keep' s s' :=
  ⟨h.jobs, h.items, h.attempts, h.reviews, fun r hr => by
    obtain ⟨r', hr', hid, hcontent, hconf⟩ := h.rubrics r hr
    exact ⟨r', hr', hid, hcontent, fun hc hkr => hconf hc (hk r hkr)⟩, h.providers, h.submissions⟩

theorem Keeps.mono {keep keep' : RubricVersion → Prop} (hk : ∀ r, keep' r → keep r)
    (h : Keeps env keep s s') : Keeps env keep' s s' :=
  ⟨h.1.mono hk, h.2⟩

/-- The action is a teacher's control of a batch. -/
def isControl : Action env → Prop
  | .controlGradingJob .. => True
  | _ => False

/-- The action is a worker's claim. -/
def isClaim : Action env → Prop
  | .claimAttempt .. => True
  | _ => False

/-- The action creates a batch. -/
def isCreation : Action env → Prop
  | .createOrGetJob .. => True
  | _ => False

/-- Every committed action but a control or a claim is a chain of chores. -/
theorem exec_chores {a : Action env} (hs : Sound env s) (hR : FailureIs R s a)
    (hwork : ¬isControl a) (hclaim : ¬isClaim a) (h : s.exec env a = .ok s') :
    Relation.ReflTransGen (Chore env R (fun r => ¬supersedes a r) (isCreation a)) s s' := by
  have hk := hs.keys
  cases a with
  | createAssignment =>
    exact .single ((createAssignment_kept h).mono fun _ _ => trivial).chore
  | updateAssignment =>
    obtain ⟨_, h⟩ := map_snd_eq_ok.1 h
    exact .single ((updateAssignment_kept h).mono fun _ _ => trivial).chore
  | updateAssignmentStatus =>
    obtain ⟨_, h⟩ := map_snd_eq_ok.1 h
    exact .single ((updateAssignmentStatus_kept h).mono fun _ _ => trivial).chore
  | createRubricDraft =>
    obtain ⟨_, h⟩ := map_snd_eq_ok.1 h
    exact .single ((createRubricDraft_kept h).mono fun _ _ => trivial).chore
  | saveGeneratedRubric =>
    obtain ⟨_, h⟩ := map_snd_eq_ok.1 h
    exact .single ((saveGeneratedRubric_kept h).mono fun _ _ => trivial).chore
  | updateStructuredRubric =>
    obtain ⟨_, h⟩ := map_snd_eq_ok.1 h
    exact .single ((updateStructuredRubric_kept h).mono fun _ _ => trivial).chore
  | confirmRubric =>
    obtain ⟨_, h⟩ := map_snd_eq_ok.1 h
    exact .single (Keeps.chore (confirmRubric_kept h))
  | createProvider => exact .single (Keeps.chore (createProvider_kept h))
  | updateProvider =>
    obtain ⟨_, h⟩ := map_snd_eq_ok.1 h
    exact .single (Keeps.chore (updateMatching_kept (by intro _; rfl) h))
  | markTested =>
    obtain ⟨_, h⟩ := map_snd_eq_ok.1 h
    exact .single (Keeps.chore (updateMatching_kept (by intro _; rfl) h))
  | enableTested =>
    obtain ⟨_, h⟩ := map_snd_eq_ok.1 h
    exact .single (Keeps.chore (updateMatching_kept (by intro _; rfl) h))
  | disableEnabled =>
    obtain ⟨_, h⟩ := map_snd_eq_ok.1 h
    exact .single (Keeps.chore (updateMatching_kept (by intro _; rfl) h))
  | reserveSubmission =>
    obtain ⟨_, h⟩ := map_snd_eq_ok.1 h
    exact .single (Keeps.chore (reserveSubmission_kept h))
  | transitionSubmission =>
    obtain ⟨_, h⟩ := map_snd_eq_ok.1 h
    exact .single (Keeps.chore (transitionSubmission_kept hs.inputs.submissions h))
  | createOrGetJob =>
    obtain ⟨_, h⟩ := map_snd_eq_ok.1 h
    rcases createOrGetJob_cases hk h with he | ⟨_, _, -, hc⟩
    · exact he ▸ .refl
    · exact .single (hc.chore trivial)
  | claimAttempt => exact absurd trivial hclaim
  | finishSuccess =>
    obtain ⟨_, _, _, _, _, -, hc⟩ := finishSuccess_closed (R := R) hk h
    exact .single hc.chore
  | finishFailure =>
    obtain ⟨_, _, _, _, -, hc⟩ := finishFailure_closed hk hR h
    exact .single hc.chore
  | expireStaleAttempts =>
    exact expireStaleAttempts_chores hk h _
  | controlGradingJob => exact absurd trivial hwork
  | saveTeacherReviewDraft =>
    obtain ⟨_, h⟩ := map_snd_eq_ok.1 h
    rcases saveTeacherReviewDraft_cases hk h with ⟨-, he⟩ | ⟨_, _, _, -, -, -, hc⟩
    · exact he ▸ .refl
    · exact .single hc.chore
  | confirmTeacherReviews teacher =>
    obtain ⟨_, h⟩ := map_snd_eq_ok.1 h
    cases teacher with
    | none =>
      cases h
      exact .refl
    | some teacherId =>
      obtain ⟨-, ⟨-, -, he⟩ | ⟨-, -, he⟩ | ⟨-, hc⟩⟩ := confirmTeacherReviews_eq_ok.1 h
      · exact he ▸ .refl
      · exact he ▸ .refl
      · exact .single hc.chore

/-- Every committed action but a control is a chain of such moves. -/
theorem exec_works {a : Action env} (hs : Sound env s) (hR : FailureIs R s a)
    (hwork : ¬isControl a) (h : s.exec env a = .ok s') :
    Relation.ReflTransGen (Work env R fun r => ¬supersedes a r) s s' := by
  have hchores (hclaim : ¬isClaim a) :
      Relation.ReflTransGen (Work env R fun r => ¬supersedes a r) s s' :=
    Relation.ReflTransGen.mono (fun _ _ hc => hc.1) _ _ (exec_chores hs hR hwork hclaim h)
  cases a with
  | claimAttempt =>
    obtain ⟨_, h⟩ := map_snd_eq_ok.1 h
    rcases claimAttempt_cases hs.keys h with ⟨-, he⟩ | ⟨_, _, hc, -⟩
    · exact he ▸ .refl
    · exact .single (.claimed hc)
  | _ => exact hchores id

/-- **Every committed action is a chain of moves.** -/
theorem exec_moves {a : Action env} (hs : Sound env s) (hR : FailureIs R s a)
    (h : s.exec env a = .ok s') : Moves env R (fun r => ¬supersedes a r) s s' := by
  have hwork (hwork : ¬isControl a) : Moves env R (fun r => ¬supersedes a r) s s' :=
    Relation.ReflTransGen.mono (fun _ _ hw => hw.move) _ _ (exec_works hs hR hwork h)
  cases a with
  | controlGradingJob =>
    obtain ⟨_, h⟩ := map_snd_eq_ok.1 h
    rcases controlGradingJob_cases hs.keys h with
      ⟨-, he⟩ | ⟨_, -, -, -, ⟨_, hc, -⟩ | ⟨-, hc⟩ | ⟨_, -, -, hc⟩⟩
    · exact he ▸ .refl
    · exact .single (.switched hc)
    · exact .single (.cancelled hc)
    · exact .single (.retried hc)
  | _ => exact hwork id

/-! ## Runs -/

/-- A move about which nothing more is known. -/
abbrev AnyMove (env : Runtime) : Store → Store → Prop :=
  Move env (fun _ _ => True) (fun _ => False)

theorem Move.mono {R' : GradingJob → GradingAttemptFailure → Prop} {keep' : RubricVersion → Prop}
    (hR : ∀ j f, R j f → R' j f) (hkeep : ∀ r, keep' r → keep r) (h : Move env R keep s s') :
    Move env R' keep' s s' := by
  cases h with
  | inputs h => exact .inputs (h.mono hkeep)
  | claimed h => exact .claimed h
  | closed h =>
    refine .closed ⟨h.job_mem, h.item_mem, h.attempt_mem, h.item_job, h.attempt_item, h.item_running,
      h.attempt_running, ?_, h.attempt_check, h.unique, h.item_check, h.count, h.job_check, h.eq⟩
    cases h.closing with
    | succeeded c result usage => exact .succeeded c result usage
    | failed f usage hf => exact .failed f usage (hR _ _ hf)
    | expired => exact .expired
  | switched h => exact .switched h
  | cancelled h => exact .cancelled h
  | retried h => exact .retried h
  | created h => exact .created h
  | drafted h => exact .drafted h
  | confirmed h => exact .confirmed h

theorem Move.any (h : Move env R keep s s') : AnyMove env s s' :=
  h.mono (fun _ _ _ => trivial) fun _ => False.elim

theorem sound_empty : Sound env empty :=
  ⟨⟨.nil, .nil, .nil, .nil⟩, ⟨.nil, by simp [empty], List.nodup_nil, by simp [empty], .nil,
    by simp [empty]⟩⟩

/-- An action, committed or not, is a chain of moves. -/
theorem step_moves {a : Action env} (hs : Sound env s) (hR : FailureIs R s a) :
    Moves env R (fun r => ¬supersedes a r) s (step env s a) ∧ Sound env (step env s a) := by
  refine step_induction (P := fun t => Moves env R (fun r => ¬supersedes a r) s t ∧ Sound env t)
    ⟨.refl, hs⟩ fun s' h => ?_
  have hm := exec_moves hs hR h
  exact ⟨hm, Moves.sound hs hm⟩

/-- What every move keeps is kept by an action that meets `R` and `keep`. -/
theorem step_keeps {P : Store → Prop} {a : Action env} (hs : Sound env s) (hR : FailureIs R s a)
    (hkeep : ∀ r, keep r → ¬supersedes a r)
    (hP : ∀ t t', Sound env t → Move env R keep t t' → P t → P t') (h0 : P s) : P (step env s a) := by
  have hmoves := (step_moves hs hR).1
  generalize step env s a = u at hmoves ⊢
  induction hmoves with
  | refl => exact h0
  | tail hm h ih => exact hP _ _ (Moves.sound hs hm) (h.mono (fun _ _ => id) hkeep) ih

end Store

end PaperGrading
