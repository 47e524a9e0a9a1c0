import PaperGrading.Reviews.Confirmations
import PaperGrading.Store.Areas

/-!
# Where the reviews come from

Nothing stands in a review that nobody has submitted: it is a draft that the API has accepted and
that has passed the checks against its item as the request had read it, or a transaction from outside
of the requests has stored it.

    a transaction leaves what the reviews say, or is a save of it                  (exec_reviews)
    an answer leaves what the reviews say, or its query has stored it      (answerReview_reviews)
    every run                                                                 (after_submitted)
-/

namespace PaperGrading

/-- The review says what `r` says. -/
structure TeacherReview.Repeats (r r' : TeacherReview) : Prop where
  identity : r'.toReviewIdentity = r.toReviewIdentity
  payload : r'.payload = r.payload

theorem TeacherReview.Repeats.refl (r : TeacherReview) : r.Repeats r := ⟨rfl, rfl⟩

theorem StoredAs.repeated {ownerId itemId : Uuid} {data : ReviewDraftData} {r r' : TeacherReview}
    (h : StoredAs ownerId itemId data r) (hr : r.Repeats r') : StoredAs ownerId itemId data r' where
  owner := (congrArg ReviewIdentity.ownerId hr.identity).trans h.owner
  item := (congrArg ReviewIdentity.gradingJobItemId hr.identity).trans h.item
  attempt := (congrArg ReviewIdentity.gradingAttemptId hr.identity).trans h.attempt
  payload := by
    rw [hr.payload]
    exact h.payload

/-- The transaction is a save of what the review says. -/
def Action.Saves {env : Runtime} (r : TeacherReview) : Action env → Prop
  | .saveTeacherReviewDraft _ itemId _ payload _ _ =>
    r.gradingJobItemId = itemId ∧ Store.storedPayload payload = .ok r.payload
  | _ => False

theorem Action.Saves.repeated {env : Runtime} {r r' : TeacherReview} {a : Action env}
    (h : a.Saves r) (hr : r.Repeats r') : a.Saves r' := by
  cases a with
  | saveTeacherReviewDraft =>
    refine ⟨(congrArg ReviewIdentity.gradingJobItemId hr.identity).trans h.1, ?_⟩
    rw [hr.payload]
    exact h.2
  | _ => exact h

/-- The query asks for what the review says to be stored. -/
def ReviewQuery.Stores (r : TeacherReview) : ReviewQuery → Prop
  | .saveDraft ownerId itemId data | .saveAndConfirm ownerId itemId data => StoredAs ownerId itemId data r
  | _ => False

namespace Store

open Table

variable {env : Runtime} {s s' : Store}

/-! ## Transactions -/

/-- The reviews say what reviews have said before. -/
def Carried (s s' : Store) : Prop := ∀ r' ∈ s'.reviews, ∃ r ∈ s.reviews, r.Repeats r'

theorem Carried.of_reviews (h : s'.reviews = s.reviews) : Carried s s' :=
  fun r hr => ⟨r, h ▸ hr, .refl r⟩

theorem Frame.reviews {area : Area} (h : Frame s s' area) (hne : area ≠ .grading) :
    s'.reviews = s.reviews := by
  cases area with
  | grading => exact absurd rfl hne
  | rubrics | providers | submissions =>
    unfold Frame at h
    rw [h]

theorem expireStaleAttempts_reviews {limit : Nat} {clock : Clock}
    (h : s.expireStaleAttempts limit clock = .ok s') : s'.reviews = s.reviews := by
  unfold expireStaleAttempts at h
  generalize s.expiryCandidates limit clock.database = candidates at h
  induction candidates generalizing s with
  | nil =>
    cases h
    rfl
  | cons c candidates ih =>
    rw [List.foldlM_cons, bind_eq_ok] at h
    obtain ⟨t, ht, h⟩ := h
    refine (ih h).trans ?_
    unfold expireOne reconcileJob at ht
    split at ht
    · split at ht
      · cases ht
      · simp only [bind_eq_ok, updateAttempts_eq_ok, updateItems_eq_ok, updateJobs_eq_ok] at ht
        obtain ⟨_, ⟨rfl, -⟩, _, ⟨rfl, -⟩, _, -, rfl, -⟩ := ht
        rfl
    · cases ht
      rfl

/-- A save writes one review. -/
theorem saveTeacherReviewDraft_reviews (hk : s.Keys) {teacher : Option Uuid} {itemId attemptId : Uuid}
    {p : ReviewPayload} {freshId : RandomUuid} {now : Time} {id : Option Uuid}
    (h : s.saveTeacherReviewDraft teacher itemId attemptId p freshId now = .ok (id, s')) :
    ∀ r ∈ s'.reviews, r ∈ s.reviews ∨
      (id = some r.id ∧ r.gradingJobItemId = itemId ∧ storedPayload p = .ok r.payload) := by
  rcases saveTeacherReviewDraft_cases hk h with ⟨-, rfl⟩ | ⟨item, attempt, review, hitem, hid, hstored, hd⟩
  · exact fun r hr => .inl hr
  · intro r hr
    have hsplit : r = review ∨ r ∈ s.reviews := by
      rcases hd.write with ⟨old, hold, -, -, -, -, he⟩ | ⟨-, -, -, -, he⟩
      · rw [congrArg Store.reviews he] at hr
        exact ((mem_replaceRow hold).1 hr).imp_right (·.1)
      · rw [congrArg Store.reviews he] at hr
        exact (List.mem_append.1 hr).symm.imp_left List.mem_singleton.1
    rcases hsplit with rfl | hr
    · exact .inr ⟨hid, hd.review_item.trans hitem, hstored⟩
    · exact .inl hr

/-- A confirmation leaves what the reviews say. -/
theorem confirmTeacherReviews_carried {teacher : Option Uuid} {refs : List (Uuid × Nat)} {now : Time}
    {ids : Option (List Uuid)} (h : s.confirmTeacherReviews teacher refs now = .ok (ids, s')) :
    Carried s s' := by
  cases teacher with
  | none =>
    cases h
    exact .of_reviews rfl
  | some teacherId =>
    obtain ⟨-, ⟨-, -, rfl⟩ | ⟨-, -, rfl⟩ | ⟨-, hc⟩⟩ := confirmTeacherReviews_eq_ok.1 h
    · exact .of_reviews rfl
    · exact .of_reviews rfl
    · intro r' hr'
      rw [congrArg Store.reviews hc.eq] at hr'
      rcases mem_setWhere.1 hr' with ⟨r, hr, -, rfl⟩ | ⟨hr, -⟩
      · exact ⟨r, hr, rfl, rfl⟩
      · exact ⟨r', hr, .refl r'⟩

/-- **A transaction leaves what the reviews say, or is a save of it.** -/
theorem exec_reviews {a : Action env} (hs : Sound env s) (h : s.exec env a = .ok s') :
    ∀ r' ∈ s'.reviews, (∃ r ∈ s.reviews, r.Repeats r') ∨ a.Saves r' := by
  have hk := hs.keys
  have hcarried (hc : Carried s s') :
      ∀ r' ∈ s'.reviews, (∃ r ∈ s.reviews, r.Repeats r') ∨ a.Saves r' := fun r' hr' => .inl (hc r' hr')
  have hframe : a.area ≠ .grading → Carried s s' := fun hne =>
    .of_reviews ((exec_frame hs h).reviews hne)
  cases a with
  | claimAttempt =>
    obtain ⟨_, h⟩ := map_snd_eq_ok.1 h
    rcases claimAttempt_cases hk h with ⟨-, rfl⟩ | ⟨_, _, hc, -⟩
    · exact hcarried (.of_reviews rfl)
    · exact hcarried (.of_reviews (by rw [hc.eq]))
  | finishSuccess claim completion clock =>
    refine hcarried (.of_reviews ?_)
    replace h : s.finishSuccess claim completion clock = .ok s' := h
    unfold finishSuccess reconcileJob at h
    simp only [bind_eq_ok, updateAttempts_eq_ok, updateItems_eq_ok, updateJobs_eq_ok] at h
    obtain ⟨_, -, _, -, _, -, _, ⟨rfl, -⟩, _, ⟨rfl, -⟩, _, -, rfl, -⟩ := h
    rfl
  | finishFailure claim failure clock =>
    refine hcarried (.of_reviews ?_)
    replace h : s.finishFailure claim failure clock = .ok s' := h
    unfold finishFailure reconcileJob at h
    simp only [bind_eq_ok, updateAttempts_eq_ok, updateItems_eq_ok, updateJobs_eq_ok] at h
    obtain ⟨_, -, _, -, _, ⟨rfl, -⟩, _, ⟨rfl, -⟩, _, -, rfl, -⟩ := h
    rfl
  | createOrGetJob =>
    obtain ⟨_, h⟩ := map_snd_eq_ok.1 h
    rcases createOrGetJob_cases hk h with rfl | ⟨_, _, -, hc⟩
    · exact hcarried (.of_reviews rfl)
    · exact hcarried (.of_reviews (by rw [hc.eq]))
  | expireStaleAttempts => exact hcarried (.of_reviews (expireStaleAttempts_reviews h))
  | controlGradingJob =>
    obtain ⟨_, h⟩ := map_snd_eq_ok.1 h
    rcases controlGradingJob_cases hk h with
      ⟨-, rfl⟩ | ⟨_, -, -, -, ⟨_, hc, -⟩ | ⟨-, hc⟩ | ⟨_, -, -, hc⟩⟩
    · exact hcarried (.of_reviews rfl)
    · exact hcarried (.of_reviews (by rw [hc.eq]))
    · exact hcarried (.of_reviews (by rw [hc.eq]))
    · exact hcarried (.of_reviews (by rw [hc.eq]))
  | saveTeacherReviewDraft =>
    obtain ⟨_, h⟩ := map_snd_eq_ok.1 h
    intro r hr
    exact (saveTeacherReviewDraft_reviews hk h r hr).imp (fun hold => ⟨r, hold, .refl r⟩) fun hnew => hnew.2
  | confirmTeacherReviews =>
    obtain ⟨_, h⟩ := map_snd_eq_ok.1 h
    exact hcarried (confirmTeacherReviews_carried h)
  | _ => exact hcarried (hframe (by simp [Action.area]))

/-! ## Answers -/

section

variable {teacher : Option Uuid} {ownerId itemId : Uuid} {data : ReviewDraftData} {freshId : RandomUuid}
  {now : Time}

theorem savePayload_reviews (hw : WellFormed env s) {id : Uuid} {r₀ : TeacherReview}
    (h : s.savePayload teacher itemId data freshId now = .ok (some id, s'))
    (hr₀ : s'.findReview ownerId id = some r₀) :
    ∀ r ∈ s'.reviews, r ∈ s.reviews ∨ StoredAs ownerId itemId data r := by
  intro r hr
  have hsave := (savePayload_eq_ok.1 h).2
  have hstep : step env s (.saveTeacherReviewDraft teacher itemId data.attemptId data.payload freshId now) =
      s' := step_of_ok (map_snd_eq_ok.2 ⟨_, hsave⟩)
  have hk : s'.Keys := (hstep ▸ step_wellFormed hw _ : WellFormed env s').sound.keys
  obtain ⟨hrm, hid, hrow⟩ := savePayload_row hw h hr₀
  rcases saveTeacherReviewDraft_reviews hw.sound.keys hsave r hr with hold | ⟨hnew, -⟩
  · exact .inl hold
  · obtain rfl := eq_of_key_eq hk.reviewIds hrm hr (hid.trans (Option.some.inj hnew))
    exact .inr hrow

theorem confirmReviews_carried {refs : List (Uuid × Nat)} {c : Option ReviewConfirmationResult}
    (h : s.confirmReviews env teacher ownerId refs now = .ok (c, s')) : Carried s s' := by
  unfold confirmReviews at h
  obtain ⟨⟨ids, t⟩, hconfirm, h⟩ := bind_eq_ok.1 h
  have hcarried : Carried s t := confirmTeacherReviews_carried (confirmPayload_eq_ok.1 hconfirm)
  cases ids with
  | none =>
    cases h
    exact hcarried
  | some ids =>
    obtain ⟨_, -, h⟩ := bind_eq_ok.1 h
    cases h
    exact hcarried

end

/-- **An answer leaves what the reviews say, or its query has stored it.** -/
theorem answerReview_reviews (hw : WellFormed env s) (input : ReviewTurnInput) (q : ReviewQuery) :
    ∀ r' ∈ (answerReview env input q s).2.reviews, (∃ r ∈ s.reviews, r.Repeats r') ∨ q.Stores r' := by
  have hsame (r' : TeacherReview) (hr' : r' ∈ s.reviews) :
      (∃ r ∈ s.reviews, r.Repeats r') ∨ q.Stores r' := .inl ⟨r', hr', .refl r'⟩
  cases q with
  | getTarget | getJson | loadTarget => exact hsame
  | saveDraft ownerId itemId data =>
    simp only [answerReview]
    cases h : s.saveReviewDraft env (input.teacher ownerId) ownerId itemId data input.freshId input.now with
    | error e => exact hsame
    | ok x =>
      obtain ⟨view, s'⟩ := x
      obtain ⟨id, r, hsave, hr, -⟩ := saveReviewDraft_eq_ok.1 h
      intro r' hr'
      exact (savePayload_reviews hw hsave hr r' hr').imp_left fun hold => ⟨r', hold, .refl r'⟩
  | saveAndConfirm ownerId itemId data =>
    simp only [answerReview]
    cases h : s.saveAndConfirm env (input.teacher ownerId) ownerId itemId data input.freshId input.now with
    | error e => exact hsame
    | ok x =>
      obtain ⟨c, s'⟩ := x
      obtain ⟨id, r, s₁, hsave, hr, hconfirm⟩ := saveAndConfirm_eq_ok.1 h
      intro r' hr'
      -- the review has been stored before it is confirmed
      obtain ⟨stored, hstored, hrepeats⟩ := confirmReviews_carried hconfirm r' hr'
      rcases savePayload_reviews hw hsave hr stored hstored with hold | hrow
      · exact .inl ⟨stored, hold, hrepeats⟩
      · exact .inr (hrow.repeated hrepeats)
  | confirmReviews ownerId refs =>
    simp only [answerReview]
    cases h : s.confirmReviews env (input.teacher ownerId) ownerId refs input.now with
    | error e => exact hsame
    | ok x =>
      obtain ⟨c, s'⟩ := x
      exact fun r' hr' => .inl (confirmReviews_carried h r' hr')

end Store

/-! ## Every run -/

/-- The request submits this draft of the item; a draft that is only saved must still be editable. -/
def ReviewRequest.Submits {env : Runtime} (request : ReviewRequest env) (ownerId itemId : Uuid)
    (payload : AcceptedDraft env) (requireEditable : Bool) : Prop :=
  match requireEditable with
  | true => ∃ job, request = .saveDraft ownerId itemId job payload
  | false => ∃ jobId, request = .confirm ownerId jobId itemId payload

namespace ReviewPool

variable {env : Runtime} {requests : Nat → ReviewRequest env} {turns : List (ReviewTurn env)}
  {known known' : Nat → List ((q : ReviewQuery) × q.Answer env)} {w : ReviewPool env}

/-- A request has submitted what the review says, after it had passed the checks against the item as
the request had read it. -/
def Submitted (requests : Nat → ReviewRequest env)
    (known : Nat → List ((q : ReviewQuery) × q.Answer env)) (r : TeacherReview) : Prop :=
  ∃ k payload requireEditable t data,
    (requests k).Submits r.ownerId r.gradingJobItemId payload requireEditable ∧
    ReviewService.Validated (· ∈ known k) r.ownerId r.gradingJobItemId payload.1 requireEditable t data ∧
      StoredAs r.ownerId r.gradingJobItemId data r

theorem Submitted.mono {r r' : TeacherReview} (h : Submitted requests known r) (hr : r.Repeats r')
    (hknown : ∀ k, ∀ x ∈ known k, x ∈ known' k) : Submitted requests known' r' := by
  obtain ⟨k, payload, requireEditable, t, data, hsubmits, ⟨hread, hvalid⟩, hrow⟩ := h
  have howner : r'.ownerId = r.ownerId := congrArg ReviewIdentity.ownerId hr.identity
  have hitem : r'.gradingJobItemId = r.gradingJobItemId :=
    congrArg ReviewIdentity.gradingJobItemId hr.identity
  refine ⟨k, payload, requireEditable, t, data, ?_⟩
  rw [howner, hitem]
  exact ⟨hsubmits, ⟨hknown k _ hread, hvalid⟩, hrow.repeated hr⟩

/-- What a request stores it was asked to store. -/
theorem submitted_of_stores {k : Nat} {q : ReviewQuery} {r : TeacherReview} (hstores : q.Stores r)
    (hmay : (ReviewService.contract (requests k)).may (· ∈ known k) q) : Submitted requests known r := by
  cases q with
  | saveDraft ownerId itemId data =>
    obtain ⟨job, payload, t, hrequest, hvalid⟩ := hmay
    obtain rfl : r.ownerId = ownerId := StoredAs.owner hstores
    obtain rfl : r.gradingJobItemId = itemId := StoredAs.item hstores
    exact ⟨k, payload, true, t, data, ⟨job, hrequest⟩, hvalid, hstores⟩
  | saveAndConfirm ownerId itemId data =>
    obtain ⟨jobId, payload, t, hrequest, hvalid⟩ := hmay
    obtain rfl : r.ownerId = ownerId := StoredAs.owner hstores
    obtain rfl : r.gradingJobItemId = itemId := StoredAs.item hstores
    exact ⟨k, payload, false, t, data, ⟨jobId, hrequest⟩, hvalid, hstores⟩
  | _ => exact hstores.elim

/-- Every review is submitted by a request or saved from outside, and the requests keep their
contracts. -/
structure Sourced (requests : Nat → ReviewRequest env) (turns : List (ReviewTurn env))
    (known : Nat → List ((q : ReviewQuery) × q.Answer env)) (w : ReviewPool env) : Prop where
  reviews : ∀ r ∈ w.state.reviews, Submitted requests known r ∨
    ∃ action, .outside action ∈ turns ∧ action.Saves r
  keeps : ∀ k, (ReviewService.contract (requests k)).Keeps (requests k).Rests
    ((ReviewService.contract (requests k)).Learned (known k)) (w.dialogues k)

/-- **One turn keeps the sources of the reviews.** -/
theorem step_sourced (hw : Store.WellFormed env w.state) (h : Sourced requests turns known w)
    {turn : ReviewTurn env} (hturn : turn ∈ turns) :
    Sourced requests turns (fun k => known k ++ Pool.heardAt (Store.answerReview env) k w turn)
      (step w turn) := by
  refine ⟨fun r' hr' => ?_, Pool.step_keeps h.keeps turn⟩
  have hkept (hr : ∃ r ∈ w.state.reviews, r.Repeats r') :
      Submitted requests (fun k => known k ++ Pool.heardAt (Store.answerReview env) k w turn) r' ∨
        ∃ action, .outside action ∈ turns ∧ action.Saves r' := by
    obtain ⟨r, hr, hrepeats⟩ := hr
    refine (h.reviews r hr).imp (fun h => h.mono hrepeats fun _ _ hx => List.mem_append_left _ hx) ?_
    rintro ⟨action, hmem, hsaves⟩
    exact ⟨action, hmem, hsaves.repeated hrepeats⟩
  cases turn with
  | outside action =>
    have hmoved : ∀ x ∈ (Store.step env w.state action).reviews,
        (∃ r ∈ w.state.reviews, r.Repeats x) ∨ action.Saves x :=
      Store.step_induction (P := fun t => ∀ x ∈ t.reviews,
        (∃ r ∈ w.state.reviews, r.Repeats x) ∨ action.Saves x)
        (fun x hx => .inl ⟨x, hx, .refl x⟩) fun _ h => Store.exec_reviews hw.sound h
    rcases hmoved r' hr' with hr | hsaves
    · exact hkept hr
    · exact .inr ⟨action, hturn, hsaves⟩
  | answer k input =>
    cases hk : w.dialogues k with
    | done result =>
      rw [show step w (.answer k input) = w from Pool.step_done hk input] at hr'
      exact hkept ⟨r', hr', .refl r'⟩
    | ask q next =>
      rw [show step w (.answer k input) = _ from Pool.step_ask hk input] at hr'
      rcases Store.answerReview_reviews hw input q r' hr' with hr | hstores
      · exact hkept hr
      · -- the request may store only what it has validated
        have hkeeps := h.keeps k
        rw [hk, ReviewService.learned_contract] at hkeeps
        exact .inl ((submitted_of_stores hstores hkeeps.1).mono (.refl r') fun _ _ hx =>
          List.mem_append_left _ hx)

theorem start_sourced (requests : Nat → ReviewRequest env) (turns : List (ReviewTurn env)) :
    Sourced requests turns (fun _ => []) (start requests) := by
  refine ⟨fun r hr => ?_, fun k => ?_⟩
  · cases hr
  · rw [Contract.learned_nil]
    exact (requests k).keeps

/-- What the reviews of a run rest on. -/
structure Attributed (requests : Nat → ReviewRequest env) (turns : List (ReviewTurn env)) : Prop where
  /-- a request has submitted what the review says, and it has passed the checks against the item as
  the request had read it; or a transaction from outside of the requests has saved it -/
  reviews : ∀ r ∈ (after requests turns).state.reviews,
    (∃ k payload requireEditable t parsed data,
      (requests k).Submits r.ownerId r.gradingJobItemId payload requireEditable ∧
      ⟨.getTarget r.ownerId r.gradingJobItemId, .ok (some t)⟩ ∈ heard requests turns k ∧
      validatePayload env t.toReviewTarget parsed payload.1 requireEditable = .ok data ∧
      (r.view env).matches data = true) ∨
    ∃ action, .outside action ∈ turns ∧ action.Saves r

/-- **No review says what nobody has submitted**, in any order of the steps of the requests and of
all other transactions. -/
theorem after_submitted (requests : Nat → ReviewRequest env) (turns : List (ReviewTurn env)) :
    Attributed requests turns := by
  have hsourced : Sourced requests turns (heard requests turns) (after requests turns) := by
    refine Pool.run_keeps Store.reviews_sound ?_ (start_upheld requests) (start_sourced requests turns)
    intro known w hup h turn hmem
    obtain ⟨as, has⟩ := hup.inv
    exact step_sourced (has ▸ Store.after_wellFormed as) h hmem
  refine ⟨fun r hr => (hsourced.reviews r hr).imp_left ?_⟩
  rintro ⟨k, payload, requireEditable, t, data, hsubmits, ⟨hread, parsed, hvalid⟩, hrow⟩
  obtain ⟨form, hparse⟩ := payload.2
  exact ⟨k, payload, requireEditable, t, parsed, data, hsubmits, hread, hvalid,
    view_matches_of_validated hrow hvalid hparse⟩

end ReviewPool

end PaperGrading
