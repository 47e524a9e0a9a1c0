import PaperGrading.Rubrics.Versions

/-!
# One teacher's rows

Every row belongs to a teacher and hangs on rows of the same teacher.  A transaction writes rows of
the teachers it concerns: of the teacher who sends it, of the owner of the paper that it grades, or
of the owners of the leases that have expired; an administrator's writes rows of nobody.

    a transaction that does not concern a teacher leaves their rows as they are      (step_intact)
    and so does every run of such transactions, from every reachable store        (after_separate)
-/

namespace Table

variable {α β γ : Type} [DecidableEq β] [DecidableEq γ] {owner : α → β} {o : β} {rows : List α}

/-- The rows of one owner. -/
def ofOwner (owner : α → β) (o : β) (rows : List α) : List α := rows.filter fun r => owner r == o

theorem mem_ofOwner {r : α} : r ∈ ofOwner owner o rows ↔ r ∈ rows ∧ owner r = o := by
  simp [ofOwner]

/-- A statement that keeps the owners and the rows of one of them. -/
theorem ofOwner_map {f : α → α} (hsame : ∀ r ∈ rows, owner (f r) = owner r)
    (hfix : ∀ r ∈ rows, owner r = o → f r = r) : ofOwner owner o (rows.map f) = ofOwner owner o rows := by
  unfold ofOwner
  induction rows with
  | nil => rfl
  | cons r rows ih =>
    have ih' := ih (fun x hx => hsame x (by simp [hx])) fun x hx => hfix x (by simp [hx])
    rw [List.map_cons, List.filter_cons, List.filter_cons, hsame r (by simp), ih']
    by_cases hr : owner r = o
    · rw [hfix r (by simp) hr]
    · simp [hr]

theorem ofOwner_setWhere {p : α → Bool} {set : α → α}
    (hsame : ∀ r ∈ rows, p r = true → owner (set r) = owner r)
    (hother : ∀ r ∈ rows, p r = true → owner r ≠ o) :
    ofOwner owner o (setWhere p set rows) = ofOwner owner o rows := by
  refine ofOwner_map (fun r hr => ?_) fun r hr ho => ?_
  · by_cases hp : p r = true
    · rw [if_pos hp, hsame r hr hp]
    · rw [if_neg hp]
  · rw [if_neg fun hp => hother r hr hp ho]

theorem ofOwner_replaceRow {key : α → γ} {x y : α} (hn : (rows.map key).Nodup) (hx : x ∈ rows)
    (hsame : owner y = owner x) (hother : owner x ≠ o) :
    ofOwner owner o (replaceRow key x y rows) = ofOwner owner o rows := by
  have hrow (r : α) (hr : r ∈ rows) (hk : (key r == key x) = true) : r = x :=
    eq_of_key_eq hn hr hx (by simpa using hk)
  refine ofOwner_setWhere (fun r hr hk => ?_) fun r hr hk => ?_
  · rw [hsame, hrow r hr hk]
  · rw [hrow r hr hk]
    exact hother

theorem ofOwner_append {added : List α} (hother : ∀ r ∈ added, owner r ≠ o) :
    ofOwner owner o (rows ++ added) = ofOwner owner o rows := by
  have hnone : ofOwner owner o added = [] := List.filter_eq_nil_iff.2 fun r hr => by
    simpa using hother r hr
  unfold ofOwner at *
  rw [List.filter_append, hnone, List.append_nil]

end Table

namespace PaperGrading

/-- The transaction is one of this teacher, or grades a paper of theirs. -/
def Action.Concerns {env : Runtime} (s : Store) (o : Uuid) : Action env → Prop
  | .createAssignment ownerId .. | .updateAssignment ownerId .. | .updateAssignmentStatus ownerId .. |
    .createRubricDraft ownerId .. | .saveGeneratedRubric ownerId .. |
    .updateStructuredRubric ownerId .. | .confirmRubric ownerId .. | .reserveSubmission ownerId _ |
    .createOrGetJob ownerId .. => ownerId = o
  | .transitionSubmission teacher .. | .controlGradingJob teacher .. |
    .saveTeacherReviewDraft teacher .. | .confirmTeacherReviews teacher .. => teacher = some o
  | .claimAttempt prepared .. => ∃ i ∈ s.items, i.id = prepared.itemId ∧ i.ownerId = o
  | .finishSuccess claim .. | .finishFailure claim .. =>
    ∃ a ∈ s.attempts, a.id = claim.attemptId ∧ a.ownerId = o
  | .expireStaleAttempts _ clock =>
    ∃ i ∈ s.items, Store.leaseExpired clock.database i = true ∧ i.ownerId = o
  | .createProvider .. | .updateProvider .. | .markTested .. | .enableTested .. |
    .disableEnabled .. => False

namespace Store

open Table

variable {env : Runtime} {s s' t : Store} {o : Uuid}

/-- The rows of this teacher are the same. -/
structure Intact (o : Uuid) (s s' : Store) : Prop where
  assignments : ofOwner (·.ownerId) o s'.assignments = ofOwner (·.ownerId) o s.assignments
  rubrics : ofOwner (·.ownerId) o s'.rubrics = ofOwner (·.ownerId) o s.rubrics
  submissions : ofOwner (·.ownerId) o s'.submissions = ofOwner (·.ownerId) o s.submissions
  jobs : ofOwner (·.ownerId) o s'.jobs = ofOwner (·.ownerId) o s.jobs
  items : ofOwner (·.ownerId) o s'.items = ofOwner (·.ownerId) o s.items
  attempts : ofOwner (·.ownerId) o s'.attempts = ofOwner (·.ownerId) o s.attempts
  reviews : ofOwner (·.ownerId) o s'.reviews = ofOwner (·.ownerId) o s.reviews

theorem Intact.refl (o : Uuid) (s : Store) : Intact o s s := ⟨rfl, rfl, rfl, rfl, rfl, rfl, rfl⟩

theorem Intact.trans (h : Intact o s t) (h' : Intact o t s') : Intact o s s' :=
  ⟨h'.assignments.trans h.assignments, h'.rubrics.trans h.rubrics, h'.submissions.trans h.submissions,
    h'.jobs.trans h.jobs, h'.items.trans h.items, h'.attempts.trans h.attempts,
    h'.reviews.trans h.reviews⟩

/-! ## Grading -/

theorem job_owner (hw : WellFormed env s) {item : GradingJobItem} {job : GradingJob}
    (hi : item ∈ s.items) (hj : job ∈ s.jobs) (hij : item.gradingJobId = job.id) :
    job.ownerId = item.ownerId := by
  obtain ⟨j, hj', hid, ho, -⟩ := hw.refs.items item hi
  obtain rfl := eq_of_key_eq hw.sound.keys.jobs hj' hj (hid.trans hij)
  exact ho

theorem attempt_owner (hw : WellFormed env s) {attempt : GradingAttempt} {item : GradingJobItem}
    (ha : attempt ∈ s.attempts) (hi : item ∈ s.items) (hai : attempt.gradingJobItemId = item.id) :
    attempt.ownerId = item.ownerId := by
  obtain ⟨i, hi', hid, ho⟩ := hw.refs.attempts attempt ha
  obtain rfl := eq_of_key_eq hw.sound.keys.items hi' hi (hid.trans hai)
  exact ho.symm

theorem jobUpdateCheck_owner {old new : GradingJob} (h : jobUpdateCheck old new = .ok ()) :
    new.ownerId = old.ownerId :=
  congrArg JobSnapshot.ownerId (jobUpdateCheck_snapshot h)

theorem itemUpdateCheck_owner {old new : GradingJobItem} (h : itemUpdateCheck old new = .ok ()) :
    new.ownerId = old.ownerId :=
  congrArg ItemIdentity.ownerId (itemUpdateCheck_identity h)

theorem Claimed.intact (hw : WellFormed env s) {prepared : GradingItemPreparation} {job : GradingJob}
    {item : GradingJobItem} {attempt : GradingAttempt} {clock : Clock} {token : Uuid}
    (h : Claimed s s' prepared job item attempt clock token) (ho : item.ownerId ≠ o) :
    Intact o s s' := by
  have hjob := job_owner hw h.item_mem h.job_mem h.item_job
  have hk := hw.sound.keys
  obtain ⟨hash, id, rfl⟩ := h.attempt_eq
  rw [h.eq]
  refine ⟨rfl, rfl, rfl, ?_, ?_, ?_, rfl⟩
  · exact ofOwner_replaceRow hk.jobs h.job_mem (jobUpdateCheck_owner h.job_check) (hjob ▸ ho)
  · exact ofOwner_replaceRow hk.items h.item_mem (itemUpdateCheck_owner h.item_check) ho
  · exact ofOwner_append fun a ha => by
      rw [List.mem_singleton.1 ha]
      exact ho

theorem Closed.intact {R : GradingJob → GradingAttemptFailure → Prop} (hw : WellFormed env s)
    {job : GradingJob} {item item' : GradingJobItem} {attempt attempt' : GradingAttempt} {now : Time}
    (h : Closed R s s' job item item' attempt attempt' now) (ho : item.ownerId ≠ o) :
    Intact o s s' := by
  have hjob := job_owner hw h.item_mem h.job_mem h.item_job
  have hattempt := attempt_owner hw h.attempt_mem h.item_mem h.attempt_item
  have hk := hw.sound.keys
  rw [h.eq]
  refine ⟨rfl, rfl, rfl, ?_, ?_, ?_, rfl⟩
  · exact ofOwner_replaceRow hk.jobs h.job_mem (jobUpdateCheck_owner h.job_check) (hjob ▸ ho)
  · exact ofOwner_replaceRow hk.items h.item_mem (itemUpdateCheck_owner h.item_check) ho
  · exact ofOwner_replaceRow hk.attemptIds h.attempt_mem
      (congrArg AttemptIdentity.ownerId (attemptUpdateCheck_identity h.attempt_check)) (hattempt ▸ ho)

theorem Created.intact {job : GradingJob} {items : List GradingJobItem}
    (h : Created env s s' job items) (ho : job.ownerId ≠ o) : Intact o s s' := by
  have hids : ((s.jobs ++ [job]).map (·.id)).Nodup := by
    have hu := h.jobs_unique
    unfold jobsUnique at hu
    rw [List.Nodup, List.pairwise_map]
    refine (of_decide_eq_true hu).imp fun {x y} hxy he => ?_
    simp [jobConflict, he] at hxy
  rw [h.eq]
  refine ⟨rfl, rfl, rfl, ?_, ?_, rfl, rfl⟩
  · exact ofOwner_append fun j hj => by
      rw [List.mem_singleton.1 hj]
      exact ho
  · refine ofOwner_append fun i hi => ?_
    obtain ⟨j, hj, -, -, ⟨hid, -, howner, -⟩, -⟩ := itemInsertCheck_eq_ok (h.item_check i hi)
    have hjob : j = job :=
      eq_of_key_eq hids hj (List.mem_append_right _ (List.mem_singleton_self _))
        (hid.trans (h.item_job i hi))
    rw [← howner, hjob]
    exact ho

theorem Drafted.intact (hw : WellFormed env s) {item : GradingJobItem} {attempt : GradingAttempt}
    {review : TeacherReview} (h : Drafted s s' item attempt review) (ho : item.ownerId ≠ o) :
    Intact o s s' := by
  have hreview : review.ownerId ≠ o := h.review_owner ▸ ho
  rcases h.write with ⟨old, hold, -, -, hchk, -, rfl⟩ | ⟨-, -, -, -, rfl⟩
  · have hsame : review.ownerId = old.ownerId :=
      congrArg ReviewIdentity.ownerId (reviewUpdateCheck_eq_ok.1 hchk).2.2.2.1
    exact ⟨rfl, rfl, rfl, rfl, rfl, rfl,
      ofOwner_replaceRow hw.sound.keys.reviewIds hold hsame (hsame ▸ hreview)⟩
  · refine ⟨rfl, rfl, rfl, rfl, rfl, rfl, ofOwner_append fun r hr => ?_⟩
    rw [List.mem_singleton.1 hr]
    exact hreview

theorem Confirmed.intact {teacherId : Uuid} {refs : List (Uuid × Nat)} {now : Time}
    (h : Confirmed s s' teacherId refs now) (ho : teacherId ≠ o) : Intact o s s' := by
  rw [h.eq]
  refine ⟨rfl, rfl, rfl, ?_, ?_, rfl, ?_⟩
  · refine ofOwner_setWhere (fun j hj hp => jobUpdateCheck_owner (h.job_check j hj hp))
      fun j hj hp => ?_
    unfold confirmedJob at hp
    rw [Bool.and_eq_true, beq_iff_eq] at hp
    exact hp.2 ▸ ho
  · refine ofOwner_setWhere (fun i hi hp => itemUpdateCheck_owner (h.item_check i hi hp))
      fun i hi hp => ?_
    unfold reviewedItem at hp
    rw [Bool.and_eq_true, beq_iff_eq] at hp
    exact hp.1 ▸ ho
  · refine ofOwner_setWhere (fun r hr hp => congrArg ReviewIdentity.ownerId
      (reviewUpdateCheck_eq_ok.1 (h.review_check r hr hp)).2.2.2.1) fun r hr hp => ?_
    unfold referenced at hp
    rw [Bool.and_eq_true, beq_iff_eq] at hp
    exact hp.1 ▸ ho

theorem controlGradingJob_intact (hw : WellFormed env s) {teacher : Option Uuid} {jobId : Uuid}
    {action : ControlAction} {now : Time} {r : Option Uuid}
    (h : s.controlGradingJob teacher jobId action now = .ok (r, s')) (ho : teacher ≠ some o) :
    Intact o s s' := by
  have hk := hw.sound.keys
  rcases controlGradingJob_cases hk h with ⟨-, rfl⟩ | ⟨job, rfl, -, -, hwrites⟩
  · exact .refl o _
  have hjob : job.ownerId ≠ o := fun he => ho (by rw [he])
  rcases hwrites with ⟨job', hc, -⟩ | ⟨-, hc⟩ | ⟨item, -, howner, hc⟩
  · rw [hc.eq]
    exact ⟨rfl, rfl, rfl, ofOwner_replaceRow hk.jobs hc.job_mem (jobUpdateCheck_owner hc.job_check)
      hjob, rfl, rfl, rfl⟩
  · rw [hc.eq]
    refine ⟨rfl, rfl, rfl, ofOwner_replaceRow hk.jobs hc.job_mem (jobUpdateCheck_owner hc.job_check)
      hjob, ?_, rfl, rfl⟩
    refine ofOwner_setWhere (fun i hi hp => itemUpdateCheck_owner (hc.item_check i hi hp))
      fun i hi hp => ?_
    unfold cancellable at hp
    simp only [Bool.and_eq_true, beq_iff_eq] at hp
    exact hp.1.2 ▸ hjob
  · rw [hc.eq]
    exact ⟨rfl, rfl, rfl, ofOwner_replaceRow hk.jobs hc.job_mem (jobUpdateCheck_owner hc.job_check)
      hjob, ofOwner_replaceRow hk.items hc.item_mem (itemUpdateCheck_owner hc.item_check)
      (howner ▸ hjob), rfl, rfl⟩

/-- The draft is saved for an item of the teacher. -/
theorem saveTeacherReviewDraft_intact (hw : WellFormed env s) {teacher : Option Uuid}
    {itemId attemptId : Uuid} {p : ReviewPayload} {freshId : RandomUuid} {now : Time} {r : Option Uuid}
    (h : s.saveTeacherReviewDraft teacher itemId attemptId p freshId now = .ok (r, s'))
    (ho : teacher ≠ some o) : Intact o s s' := by
  have hk := hw.sound.keys
  rcases saveTeacherReviewDraft_cases hk h with ⟨-, rfl⟩ | ⟨item, attempt, review, hid, hr, -, hc⟩
  · exact .refl o _
  refine hc.intact hw fun howner => ?_
  -- the item of the draft is the one that was found for the teacher
  unfold saveTeacherReviewDraft at h
  split at h
  · cases h
    cases hr
  next teacherId =>
    split at h
    · cases h
      cases hr
    next found _ _ htarget =>
      obtain ⟨hfound, hfid, hfo, -⟩ := draftTarget_some htarget
      obtain rfl := eq_of_key_eq hk.items hfound hc.item_mem (hfid.trans hid.symm)
      exact ho (by rw [← hfo, howner])

/-- The scan closes attempts of expired leases only. -/
theorem expireStaleAttempts_intact (hw : WellFormed env s) {limit : Nat} {clock : Clock}
    (h : s.expireStaleAttempts limit clock = .ok s')
    (ho : ∀ i ∈ s.items, leaseExpired clock.database i = true → i.ownerId ≠ o) : Intact o s s' := by
  have scan : ∀ (candidates : List (Uuid × Uuid)) (t : Store), WellFormed env t →
      (∀ i ∈ t.items, leaseExpired clock.database i = true → i.ownerId ≠ o) →
      (∀ c ∈ candidates, ∀ i ∈ t.items, i.id = c.2 → i.gradingJobId = c.1) →
      candidates.foldlM (expireOne clock) t = .ok s' → Intact o t s' := by
    intro candidates
    induction candidates with
    | nil =>
      intro t _ _ _ h
      cases h
      exact .refl o _
    | cons c candidates ih =>
      intro t hwt hot hc h
      rw [List.foldlM_cons, bind_eq_ok] at h
      obtain ⟨u, hu, h⟩ := h
      rcases expireOne_cases (R := fun _ _ => True) hwt.sound.keys (hc c (by simp)) hu with
        rfl | ⟨job, item, attempt, hexpired, hclosed⟩
      · exact ih u hwt hot (fun c' hc' => hc c' (by simp [hc'])) h
      have hintact : Intact o t u := hclosed.intact hwt (hot item hclosed.item_mem hexpired)
      have hmove : AnyMove env t u := .closed hclosed
      refine hintact.trans (ih u (hmove.wellFormed hwt) (fun i hi hexpiry howner => ?_)
        (fun c' hc' i hi he => ?_) h)
      · -- the rows of the teacher are those of before
        have hmem : i ∈ ofOwner (·.ownerId) o u.items := mem_ofOwner.2 ⟨hi, howner⟩
        rw [hintact.items] at hmem
        exact hot i (mem_ofOwner.1 hmem).1 hexpiry howner
      · rw [hclosed.eq] at hi
        rcases (mem_replaceRow hclosed.item_mem).1 hi with rfl | ⟨hi, -⟩
        · exact hc c' (by simp [hc']) item hclosed.item_mem he
        · exact hc c' (by simp [hc']) i hi he
  refine scan _ s hw ho (fun c hc i hi he => ?_) h
  unfold expiryCandidates at hc
  obtain ⟨x, hx, rfl⟩ := List.mem_map.1 hc
  have hxm := List.mem_of_mem_filter (List.mem_insertionSort _ |>.1 (List.mem_of_mem_take hx))
  rw [eq_of_key_eq hw.sound.keys.items hi hxm he]

/-! ## Papers and rubrics -/

theorem findAssignment_rows (hn : (s.assignments.map (·.id)).Nodup) {ownerId assignmentId : Uuid}
    (h : ∃ a ∈ s.assignments, a.id = assignmentId ∧ a.ownerId = ownerId) {a : Assignment}
    (ha : a ∈ s.assignments) (hid : (a.id == assignmentId) = true) : a.ownerId = ownerId := by
  obtain ⟨b, hb, hbid, rfl⟩ := h
  rw [beq_iff_eq] at hid
  rw [eq_of_key_eq hn ha hb (hid.trans hbid.symm)]

/-- A statement about the assignment of a teacher. -/
theorem setAssignments_intact (hn : (s.assignments.map (·.id)).Nodup) {ownerId assignmentId : Uuid}
    (hfound : ∃ a ∈ s.assignments, a.id = assignmentId ∧ a.ownerId = ownerId) (ho : ownerId ≠ o)
    {set : Assignment → Assignment} (hset : ∀ a, (set a).ownerId = a.ownerId) :
    ofOwner (·.ownerId) o (setWhere (·.id == assignmentId) set s.assignments) =
      ofOwner (·.ownerId) o s.assignments :=
  ofOwner_setWhere (fun a _ _ => hset a) fun _ ha hid =>
    findAssignment_rows hn hfound ha hid ▸ ho

theorem updateAssignment_intact (hn : (s.assignments.map (·.id)).Nodup) {ownerId assignmentId : Uuid}
    {title instructions : String} {r : Bool}
    (h : s.updateAssignment ownerId assignmentId title instructions = .ok (r, s')) (ho : ownerId ≠ o) :
    Intact o s s' := by
  cases hfind : s.findAssignment ownerId assignmentId with
  | none =>
    unfold updateAssignment at h
    rw [hfind] at h
    cases h
    exact .refl o s
  | some a =>
    rcases updateAssignment_cases h with rfl | rfl
    · exact .refl o _
    · exact ⟨setAssignments_intact hn ⟨a, findAssignment_eq_some hfind⟩ ho fun _ => rfl, rfl, rfl, rfl,
        rfl, rfl, rfl⟩

theorem updateAssignmentStatus_intact (hn : (s.assignments.map (·.id)).Nodup)
    {ownerId assignmentId : Uuid} {action : AssignmentStatusAction} {r : Bool}
    (h : s.updateAssignmentStatus ownerId assignmentId action = .ok (r, s')) (ho : ownerId ≠ o) :
    Intact o s s' := by
  cases hfind : s.findAssignment ownerId assignmentId with
  | none =>
    unfold updateAssignmentStatus at h
    rw [hfind] at h
    cases h
    exact .refl o s
  | some a =>
    rcases updateAssignmentStatus_cases h with rfl | ⟨status, rfl, -⟩
    · exact .refl o _
    · exact ⟨setAssignments_intact hn ⟨a, findAssignment_eq_some hfind⟩ ho fun _ => rfl, rfl, rfl, rfl,
        rfl, rfl, rfl⟩

theorem NewDraft.intact {ownerId assignmentId : Uuid} {version : Nat} {r : RubricVersion}
    (h : NewDraft s s' ownerId assignmentId version r) (ho : ownerId ≠ o) :
    ofOwner (·.ownerId) o s'.rubrics = ofOwner (·.ownerId) o s.rubrics := by
  rw [h.rubrics]
  refine ofOwner_append fun x hx => ?_
  rw [List.mem_singleton.1 hx, h.owner]
  exact ho

theorem ConfirmedRubric.intact (hs : Sound env s) (hn : (s.assignments.map (·.id)).Nodup)
    {ownerId assignmentId rubricId providerId : Uuid} {model : String} {now : Time}
    {draft : RubricVersion}
    (h : ConfirmedRubric s s' ownerId assignmentId rubricId providerId model now draft)
    (ho : ownerId ≠ o) : Intact o s s' := by
  obtain ⟨a, ha, haid, hao, -⟩ := h.editable.open_
  rw [h.eq]
  refine ⟨setAssignments_intact hn ⟨a, ha, haid, hao⟩ ho fun _ => rfl, ?_, rfl, rfl, rfl, rfl, rfl⟩
  refine ofOwner_map (fun r _ => ?_) fun r hr hro => ?_
  · unfold afterConfirm
    split
    · rfl
    · split <;> rfl
  · have hid : r.id ≠ rubricId := fun hid => ho <| by
      rw [← h.editable.owner, ← hro,
        eq_of_key_eq (rubricIds_nodup hs) hr h.editable.mem (hid.trans h.editable.id.symm)]
    have hother : ¬isConfirmedOf ownerId assignmentId r = true := by
      unfold isConfirmedOf
      simp only [Bool.and_eq_true, beq_iff_eq]
      rintro ⟨⟨-, hrow⟩, -⟩
      exact ho (hrow.symm.trans hro)
    unfold afterConfirm
    rw [if_neg hid, if_neg hother]

/-- A reservation inserts a row of its teacher, for an assignment of theirs. -/
theorem reserveSubmission_owned {ownerId : Uuid} {q : SubmissionReservationRequest}
    {r : ReservationState} (h : s.reserveSubmission ownerId q = .ok (r, s')) :
    s' = s ∨ ∃ row, row.ownerId = ownerId ∧
      (∃ a ∈ s.assignments, a.id = row.assignmentId ∧ a.ownerId = ownerId) ∧
      s' = { s with submissions := s.submissions ++ [row] } := by
  unfold reserveSubmission at h
  split at h
  · cases h
    exact .inl rfl
  next a hfind =>
    split at h
    · cases h
      exact .inl rfl
    split at h
    · split at h <;> cases h
      exact .inl rfl
    · simp only [bind_eq_ok, insertRow_eq_ok, require_eq_ok] at h
      obtain ⟨rows, ⟨rfl, -⟩, _, -, hret⟩ := h
      cases hret
      exact .inr ⟨_, rfl, ⟨a, findAssignment_eq_some hfind⟩, rfl⟩

theorem reserveSubmission_intact {ownerId : Uuid} {q : SubmissionReservationRequest}
    {r : ReservationState} (h : s.reserveSubmission ownerId q = .ok (r, s')) (ho : ownerId ≠ o) :
    Intact o s s' := by
  rcases reserveSubmission_owned h with rfl | ⟨row, howner, -, rfl⟩
  · exact .refl o _
  · refine ⟨rfl, rfl, ofOwner_append fun x hx => ?_, rfl, rfl, rfl, rfl⟩
    rw [List.mem_singleton.1 hx, howner]
    exact ho

/-! ## One transaction -/

/-- **A transaction that does not concern a teacher leaves their rows as they are.** -/
theorem step_intact (hw : WellFormed env s) (hn : (s.assignments.map (·.id)).Nodup) {a : Action env}
    (h : ¬a.Concerns s o) : Intact o s (step env s a) := by
  have hk := hw.sound.keys
  refine step_induction (P := Intact o s) (.refl o s) fun s' hexec => ?_
  cases a with
  | createAssignment ownerId title instructions draft assignmentId rubricId now =>
    obtain ⟨hassignments, -, r, hr⟩ := createAssignment_eq hexec
    have hframe := createAssignment_frame hexec
    unfold Frame at hframe
    rw [hframe]
    refine ⟨?_, hr.intact h, rfl, rfl, rfl, rfl, rfl⟩
    show ofOwner _ o s'.assignments = _
    rw [hassignments]
    refine ofOwner_append fun a ha => ?_
    rw [List.mem_singleton.1 ha]
    exact h
  | updateAssignment =>
    obtain ⟨_, hexec⟩ := map_snd_eq_ok.1 hexec
    exact updateAssignment_intact hn hexec h
  | updateAssignmentStatus =>
    obtain ⟨_, hexec⟩ := map_snd_eq_ok.1 hexec
    exact updateAssignmentStatus_intact hn hexec h
  | createRubricDraft =>
    obtain ⟨_, hexec⟩ := map_snd_eq_ok.1 hexec
    have hframe := createRubricDraft_frame hexec
    rcases createRubricDraft_cases hexec with rfl | ⟨-, hassignments, -, r, hr⟩
    · exact .refl o _
    · unfold Frame at hframe
      rw [hframe]
      exact ⟨congrArg _ hassignments, hr.intact h, rfl, rfl, rfl, rfl, rfl⟩
  | saveGeneratedRubric =>
    obtain ⟨_, hexec⟩ := map_snd_eq_ok.1 hexec
    rcases saveGeneratedRubric_cases hw.sound hexec with ⟨-, rfl⟩ | ⟨-, draft, he, rfl⟩
    · exact .refl o _
    · exact ⟨rfl, ofOwner_replaceRow (rubricIds_nodup hw.sound) he.mem rfl (he.owner ▸ h), rfl, rfl, rfl,
        rfl, rfl⟩
  | updateStructuredRubric =>
    obtain ⟨_, hexec⟩ := map_snd_eq_ok.1 hexec
    rcases updateStructuredRubric_cases hw.sound hexec with ⟨-, rfl⟩ | ⟨-, draft, he, -, -, rfl⟩
    · exact .refl o _
    · exact ⟨rfl, ofOwner_replaceRow (rubricIds_nodup hw.sound) he.mem rfl (he.owner ▸ h), rfl, rfl, rfl,
        rfl, rfl⟩
  | confirmRubric =>
    obtain ⟨_, hexec⟩ := map_snd_eq_ok.1 hexec
    rcases confirmRubric_cases hw.sound hexec with ⟨-, rfl⟩ | ⟨-, draft, hc⟩
    · exact .refl o _
    · exact hc.intact hw.sound hn h
  | createProvider | updateProvider | markTested | enableTested | disableEnabled =>
    have hframe : Frame s s' .providers := exec_frame hw.sound hexec
    unfold Frame at hframe
    rw [hframe]
    exact ⟨rfl, rfl, rfl, rfl, rfl, rfl, rfl⟩
  | reserveSubmission =>
    obtain ⟨_, hexec⟩ := map_snd_eq_ok.1 hexec
    exact reserveSubmission_intact hexec h
  | transitionSubmission =>
    obtain ⟨_, hexec⟩ := map_snd_eq_ok.1 hexec
    rcases transitionSubmission_cases hw.sound.inputs.submissions hexec with
      ⟨-, rfl⟩ | ⟨x, hx, -, rfl, -, -, -, rfl⟩
    · exact .refl o _
    · exact ⟨rfl, rfl, ofOwner_replaceRow (submissionIds_nodup hw.sound) hx (apply_identity _ x).2.1
        fun he => h (by rw [← he]; rfl), rfl, rfl, rfl, rfl⟩
  | createOrGetJob =>
    obtain ⟨_, hexec⟩ := map_snd_eq_ok.1 hexec
    rcases createOrGetJob_cases hk hexec with rfl | ⟨job, items, howner, hc⟩
    · exact .refl o _
    · exact hc.intact (howner ▸ h)
  | claimAttempt =>
    obtain ⟨_, hexec⟩ := map_snd_eq_ok.1 hexec
    rcases claimAttempt_cases hk hexec with ⟨-, rfl⟩ | ⟨job, item, hc, -⟩
    · exact .refl o _
    · exact hc.intact hw fun he => h ⟨item, hc.item_mem, hc.item_prepared.1, he⟩
  | finishSuccess =>
    obtain ⟨job, item, attempt, _, _, hlock, hc⟩ :=
      finishSuccess_closed (R := fun _ _ => True) hk hexec
    obtain ⟨-, -, -, -, -, -, -, hid, -⟩ := lockClaimed_eq_ok hlock
    exact hc.intact hw fun he => h ⟨attempt, hc.attempt_mem, hid,
      (attempt_owner hw hc.attempt_mem hc.item_mem hc.attempt_item).trans he⟩
  | finishFailure =>
    obtain ⟨job, item, attempt, _, hlock, hc⟩ :=
      finishFailure_closed (R := fun _ _ => True) hk (fun _ _ _ _ => trivial) hexec
    obtain ⟨-, -, -, -, -, -, -, hid, -⟩ := lockClaimed_eq_ok hlock
    exact hc.intact hw fun he => h ⟨attempt, hc.attempt_mem, hid,
      (attempt_owner hw hc.attempt_mem hc.item_mem hc.attempt_item).trans he⟩
  | expireStaleAttempts =>
    exact expireStaleAttempts_intact hw hexec fun i hi hexpired howner => h ⟨i, hi, hexpired, howner⟩
  | controlGradingJob =>
    obtain ⟨_, hexec⟩ := map_snd_eq_ok.1 hexec
    exact controlGradingJob_intact hw hexec h
  | saveTeacherReviewDraft =>
    obtain ⟨_, hexec⟩ := map_snd_eq_ok.1 hexec
    exact saveTeacherReviewDraft_intact hw hexec h
  | confirmTeacherReviews teacher =>
    obtain ⟨_, hexec⟩ := map_snd_eq_ok.1 hexec
    cases teacher with
    | none =>
      cases hexec
      exact .refl o _
    | some teacherId =>
      obtain ⟨-, ⟨-, -, rfl⟩ | ⟨-, -, rfl⟩ | ⟨-, hc⟩⟩ := confirmTeacherReviews_eq_ok.1 hexec
      · exact .refl o _
      · exact .refl o _
      · exact hc.intact fun he => h (by rw [← he]; rfl)

/-! ## Whose rows they are -/

/-- Every row hangs on rows of its own teacher. -/
structure Owned (s : Store) : Prop where
  rubrics : ∀ r ∈ s.rubrics, ∃ a ∈ s.assignments, a.id = r.assignmentId ∧ a.ownerId = r.ownerId
  submissions : ∀ x ∈ s.submissions, ∃ a ∈ s.assignments, a.id = x.assignmentId ∧ a.ownerId = x.ownerId
  jobs : ∀ j ∈ s.jobs, ∃ r ∈ s.rubrics, r.id = j.rubricVersionId ∧ r.assignmentId = j.assignmentId ∧
    r.ownerId = j.ownerId
  items : ∀ i ∈ s.items, (∃ j ∈ s.jobs, j.id = i.gradingJobId ∧ j.ownerId = i.ownerId) ∧
    ∃ x ∈ s.submissions, x.id = i.submissionId ∧ x.ownerId = i.ownerId
  attempts : ∀ a ∈ s.attempts, ∃ i ∈ s.items, i.id = a.gradingJobItemId ∧ i.ownerId = a.ownerId
  reviews : ∀ r ∈ s.reviews, ∃ a ∈ s.attempts, a.id = r.gradingAttemptId ∧
    a.gradingJobItemId = r.gradingJobItemId ∧ a.ownerId = r.ownerId

/-- The papers belong to the owners of their assignments. -/
def PapersOwned (s : Store) : Prop :=
  ∀ x ∈ s.submissions, ∃ a ∈ s.assignments, a.id = x.assignmentId ∧ a.ownerId = x.ownerId

/-- An assignment keeps its owner. -/
theorem exec_assignments (hs : Sound env s) {a : Action env} (h : s.exec env a = .ok s')
    {x : Assignment} (hx : x ∈ s.assignments) :
    ∃ x' ∈ s'.assignments, x'.id = x.id ∧ x'.ownerId = x.ownerId := by
  have hset {p : Assignment → Bool} {set : Assignment → Assignment}
      (hid : ∀ a, (set a).id = a.id ∧ (set a).ownerId = a.ownerId) :
      ∃ x' ∈ setWhere p set s.assignments, x'.id = x.id ∧ x'.ownerId = x.ownerId := by
    by_cases hp : p x = true
    · exact ⟨set x, mem_setWhere.2 (.inl ⟨x, hx, hp, rfl⟩), hid x⟩
    · exact ⟨x, mem_setWhere.2 (.inr ⟨hx, by simpa using hp⟩), rfl, rfl⟩
  have hsame (he : s'.assignments = s.assignments) :
      ∃ x' ∈ s'.assignments, x'.id = x.id ∧ x'.ownerId = x.ownerId := ⟨x, he ▸ hx, rfl, rfl⟩
  have hframe := exec_frame hs h
  cases a with
  | createAssignment =>
    obtain ⟨hassignments, -⟩ := createAssignment_eq h
    exact ⟨x, hassignments ▸ List.mem_append_left _ hx, rfl, rfl⟩
  | updateAssignment =>
    obtain ⟨_, h⟩ := map_snd_eq_ok.1 h
    rcases updateAssignment_cases h with rfl | rfl
    · exact hsame rfl
    · exact hset fun _ => ⟨rfl, rfl⟩
  | updateAssignmentStatus =>
    obtain ⟨_, h⟩ := map_snd_eq_ok.1 h
    rcases updateAssignmentStatus_cases h with rfl | ⟨status, rfl, -⟩
    · exact hsame rfl
    · exact hset fun _ => ⟨rfl, rfl⟩
  | createRubricDraft =>
    obtain ⟨_, h⟩ := map_snd_eq_ok.1 h
    rcases createRubricDraft_cases h with rfl | ⟨-, hassignments, -⟩
    · exact hsame rfl
    · exact hsame hassignments
  | saveGeneratedRubric =>
    obtain ⟨_, h⟩ := map_snd_eq_ok.1 h
    rcases saveGeneratedRubric_cases hs h with ⟨-, rfl⟩ | ⟨-, draft, -, rfl⟩ <;> exact hsame rfl
  | updateStructuredRubric =>
    obtain ⟨_, h⟩ := map_snd_eq_ok.1 h
    rcases updateStructuredRubric_cases hs h with ⟨-, rfl⟩ | ⟨-, draft, -, -, -, rfl⟩ <;>
      exact hsame rfl
  | confirmRubric =>
    obtain ⟨_, h⟩ := map_snd_eq_ok.1 h
    rcases confirmRubric_cases hs h with ⟨-, rfl⟩ | ⟨-, draft, hc⟩
    · exact hsame rfl
    · rw [hc.eq]
      exact hset fun _ => ⟨rfl, rfl⟩
  | createProvider | updateProvider | markTested | enableTested | disableEnabled |
    reserveSubmission | transitionSubmission =>
    unfold Action.area Frame at hframe
    exact hsame (by rw [hframe])
  | _ => exact hsame hframe.1

theorem step_papersOwned (hs : Sound env s) (h : PapersOwned s) (a : Action env) :
    PapersOwned (step env s a) := by
  refine step_induction h fun s' hexec => ?_
  have hkept {x : Submission} (hx : x ∈ s.submissions) :
      ∃ a ∈ s'.assignments, a.id = x.assignmentId ∧ a.ownerId = x.ownerId := by
    obtain ⟨b, hb, hbid, hbo⟩ := h x hx
    obtain ⟨b', hb', hid', ho'⟩ := exec_assignments hs hexec hb
    exact ⟨b', hb', hid'.trans hbid, ho'.trans hbo⟩
  have hsame (he : s'.submissions = s.submissions) : PapersOwned s' := fun x hx => hkept (he ▸ hx)
  have hframe := exec_frame hs hexec
  cases a with
  | reserveSubmission =>
    obtain ⟨_, hexec⟩ := map_snd_eq_ok.1 hexec
    rcases reserveSubmission_owned hexec with rfl | ⟨row, howner, ⟨b, hb, hbid, hbo⟩, rfl⟩
    · exact h
    · intro x hx
      rcases List.mem_append.1 hx with hx | hx
      · exact h x hx
      · rw [List.mem_singleton.1 hx]
        exact ⟨b, hb, hbid, hbo.trans howner.symm⟩
  | transitionSubmission =>
    obtain ⟨_, hexec⟩ := map_snd_eq_ok.1 hexec
    rcases transitionSubmission_cases hs.inputs.submissions hexec with
      ⟨-, rfl⟩ | ⟨y, hy, -, -, -, -, -, rfl⟩
    · exact h
    · intro x hx
      rcases (mem_replaceRow hy).1 hx with rfl | ⟨hx, -⟩
      · obtain ⟨-, howner, hassignment⟩ := apply_identity _ y
        rw [howner, hassignment]
        exact h y hy
      · exact h x hx
  | createAssignment | updateAssignment | updateAssignmentStatus | createRubricDraft |
    saveGeneratedRubric | updateStructuredRubric | confirmRubric | createProvider | updateProvider |
    markTested | enableTested | disableEnabled =>
    unfold Action.area Frame at hframe
    exact hsame (by rw [hframe])
  | _ => exact hsame hframe.2.2.2

theorem after_papersOwned (as : List (Action env)) : PapersOwned (after env as) :=
  (Runs.run_invariant (P := fun s => WellFormed env s ∧ PapersOwned s) as
    ⟨wellFormed_empty, by simp [PapersOwned, empty]⟩ fun _ a h =>
      ⟨step_wellFormed h.1 a, step_papersOwned h.1.sound h.2 a⟩).2

theorem after_owned (as : List (Action env)) : Owned (after env as) := by
  have hr := (after_wellFormed as).refs
  refine ⟨(after_ordered as).owner, after_papersOwned as, fun j hj => ?_, fun i hi => ⟨?_, ?_⟩,
    hr.attempts, fun r hrm => ?_⟩
  · obtain ⟨r, hrm, hid, ha, ho, -⟩ := hr.rubrics j hj
    exact ⟨r, hrm, hid, ha, ho⟩
  · obtain ⟨j, hj, hid, ho, -⟩ := hr.items i hi
    exact ⟨j, hj, hid, ho⟩
  · obtain ⟨x, hx, hid, -, ho, -⟩ := hr.submissions i hi
    exact ⟨x, hx, hid, ho⟩
  · obtain ⟨a, ha, hid, hitem, ho, -⟩ := hr.reviews r hrm
    exact ⟨a, ha, hid, hitem, ho⟩

/-! ## Every run -/

/-- The teachers are kept apart. -/
structure Separate (env : Runtime) (s : Store) : Prop where
  owned : Owned s
  intact : ∀ (o : Uuid) (bs : List (Action env)),
    Runs.Guarded (step env) (fun t a => ¬a.Concerns t o) s bs → Intact o s (Runs.run (step env) s bs)

/-- **The teachers are kept apart.**  Every row hangs on rows of its own teacher, and whatever other
teachers, administrators and the grading of other teachers' papers do, in any order and for any
number of transactions, leaves the rows of a teacher as they are. -/
theorem after_separate (as : List (Action env)) : Separate env (after env as) := by
  refine ⟨after_owned as, fun o bs hg => ?_⟩
  have hinv := Runs.run_invariant_of_guarded
    (P := fun t => Intact o (after env as) t ∧ WellFormed env t ∧ OrderedVersions t)
    ⟨.refl o _, after_wellFormed as, after_ordered as⟩ hg fun t a ⟨hi, hw, hv⟩ ha =>
      ⟨hi.trans (step_intact hw hv.assignments ha), step_wellFormed hw a, step_ordered hw.sound hv a⟩
  exact hinv.1

end Store

end PaperGrading
