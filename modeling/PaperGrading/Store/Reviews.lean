import PaperGrading.Store.Rounds

/-!
# Reviews, their attempts and their items

A review belongs to a succeeded attempt, an item is completed exactly while it has a
confirmed review, and that review is about the one success of the current round.
Confirmed reviews, completed items and ended attempts are final.  The revisions of an
item grow with every save, over all its rounds.

    Reviewed holds of every reachable store                                       (after_reviewed)
    a saved revision exceeds every earlier one of the item                       (Drafted.exceeds)
    confirmed reviews and completed items never change                              (run_final)
-/

namespace PaperGrading

namespace Store

open Table

variable {env : Runtime} {R : GradingJob → GradingAttemptFailure → Prop}
  {keep : RubricVersion → Prop} {s s' : Store}

/-! ## Definitions -/

structure Reviewed (s : Store) : Prop where
  attempt_succeeded : ∀ r ∈ s.reviews, ∀ a ∈ s.attempts, a.id = r.gradingAttemptId →
    a.status = .succeeded
  confirmed_item : ∀ r ∈ s.reviews, r.status = .confirmed → ∀ i ∈ s.items,
    i.id = r.gradingJobItemId → i.status = .completed ∧
      ∀ a ∈ s.attempts, a.id = r.gradingAttemptId → a.scoringRound = i.dispatchVersion
  completed_review : ∀ i ∈ s.items, i.status = .completed →
    ∃ r ∈ s.reviews, r.gradingJobItemId = i.id ∧ r.status = .confirmed
  revisions : ∀ r ∈ s.reviews, ∀ x ∈ s.reviews, r.gradingJobItemId = x.gradingJobItemId →
    ∀ a ∈ s.attempts, ∀ b ∈ s.attempts, a.id = r.gradingAttemptId → b.id = x.gradingAttemptId →
      a.scoringRound < b.scoringRound → r.revisionNumber < x.revisionNumber

/-! ## Final rows -/

/-- An ended attempt never changes. -/
theorem Move.ended_kept (hk : s.Keys) (h : Move env R keep s s') {a : GradingAttempt}
    (ha : a ∈ s.attempts) (hend : a.status ≠ .running) : a ∈ s'.attempts := by
  obtain ⟨a', ha', -, rfl | hchk⟩ := (h.attempts_evolve hk).forward ha
  · exact ha'
  · exact absurd (attemptUpdateCheck_eq_ok.1 hchk).1.1 hend

/-- A completed item never changes. -/
theorem Move.completed_kept (hk : s.Keys) (h : Move env R keep s s') {i : GradingJobItem}
    (hi : i ∈ s.items) (hc : i.status = .completed) : i ∈ s'.items := by
  obtain ⟨i', hi', -, rfl | hchk⟩ := h.item_forward hk hi
  · exact hi'
  · obtain ⟨-, hmove, -⟩ := itemUpdateCheck_eq_ok.1 hchk
    rw [hc] at hmove
    cases hmove

/-- A confirmed review never changes. -/
theorem Move.confirmed_kept (hk : s.Keys) (h : Move env R keep s s') {r : TeacherReview}
    (hr : r ∈ s.reviews) (hc : r.status = .confirmed) : r ∈ s'.reviews := by
  obtain ⟨r', hr', -, rfl | hchk⟩ := (h.reviews_evolve hk).forward hr
  · exact hr'
  · exact absurd hc (reviewUpdateCheck_eq_ok.1 hchk).1

/-- The attempt of a review that was there before, and the attempt of the same id now. -/
theorem Move.review_attempt (hw : WellFormed env s) (hv : s.Reviewed) (h : Move env R keep s s')
    {r : TeacherReview} (hr : r ∈ s.reviews) {a : GradingAttempt} (ha : a ∈ s'.attempts)
    (hid : a.id = r.gradingAttemptId) : a ∈ s.attempts ∧ a.status = .succeeded := by
  obtain ⟨b, hb, hbid, -⟩ := hw.refs.reviews r hr
  have hbs := hv.attempt_succeeded r hr b hb hbid
  have hb' := h.ended_kept hw.sound.keys hb (by rw [hbs]; simp)
  rw [eq_of_key_eq (h.keys hw.sound.keys).attemptIds ha hb' (hid.trans hbid.symm)]
  exact ⟨hb, hbs⟩

/-! ## The one success of a round -/

/-- Two attempts of an item with the same number are one. -/
theorem attempt_eq_of_number (hk : s.Keys) {a b : GradingAttempt} (ha : a ∈ s.attempts)
    (hb : b ∈ s.attempts) (hi : a.gradingJobItemId = b.gradingJobItemId)
    (hn : a.attemptNumber = b.attemptNumber) : a = b := by
  refine eq_of_conflict hk.attempts ha hb ?_ ?_ <;> simp [attemptConflict, hi, hn]

/-- A round has at most one success. -/
theorem Rounds.succeeded_unique (hk : s.Keys) (hr : s.Rounds) {a b : GradingAttempt}
    (ha : a ∈ s.attempts) (hb : b ∈ s.attempts) (has : a.status = .succeeded)
    (hbs : b.status = .succeeded) (hi : a.gradingJobItemId = b.gradingJobItemId)
    (hround : a.scoringRound = b.scoringRound) : a = b :=
  attempt_eq_of_number hk ha hb hi (Nat.le_antisymm
    (hr.succeeded_last b hb hbs a ha hi hround) (hr.succeeded_last a ha has b hb hi.symm hround.symm))

/-- One review per attempt. -/
theorem review_eq_of_attempt (hk : s.Keys) {r x : TeacherReview} (hr : r ∈ s.reviews)
    (hx : x ∈ s.reviews) (ha : r.gradingAttemptId = x.gradingAttemptId) : r = x := by
  refine eq_of_conflict hk.reviews hr hx ?_ ?_ <;> simp [reviewConflict, ha]

/-! ## Saving -/

/-- **A saved revision exceeds every earlier revision of its item.** -/
theorem Drafted.exceeds (hw : WellFormed env s) (hrounds : s.Rounds) (hv : s.Reviewed)
    {item : GradingJobItem} {attempt : GradingAttempt} {review : TeacherReview}
    (h : Drafted s s' item attempt review) {r : TeacherReview} (hr : r ∈ s.reviews)
    (hri : r.gradingJobItemId = item.id) : r.revisionNumber < review.revisionNumber := by
  have hk := hw.sound.keys
  obtain ⟨hattempt, hai, -, has, hround⟩ := latestSucceeded_some h.attempt_eq
  obtain ⟨a, ha, haid, hari, hao, -⟩ := hw.refs.reviews r hr
  have hasucc := hv.attempt_succeeded r hr a ha haid
  rcases h.write with ⟨old, hold, -, hreview, -⟩ | ⟨hnew, -⟩
  · have hrev : review.revisionNumber = old.revisionNumber + 1 :=
      congrArg TeacherReview.revisionNumber hreview
    have hatt : old.gradingAttemptId = attempt.id :=
      (congrArg (·.gradingAttemptId) hreview).symm.trans h.review_attempt
    have hitem : old.gradingJobItemId = item.id :=
      (congrArg (·.gradingJobItemId) hreview).symm.trans h.review_item
    have hle : a.scoringRound ≤ attempt.scoringRound := by
      rw [hround]
      exact hrounds.le_version a ha item h.item_mem (hari.trans hri)
    rcases hle.lt_or_eq with hlt | he
    · -- a review of an earlier round
      have := hv.revisions r hr old hold (hri.trans hitem.symm) a ha attempt hattempt haid hatt.symm hlt
      omega
    · -- the row that is saved again
      have hsame := hrounds.succeeded_unique hk ha hattempt hasucc has
        ((hari.trans hri).trans hai.symm) he
      have : r = old := review_eq_of_attempt hk hr hold (haid.symm.trans ((congrArg (·.id) hsame).trans hatt.symm))
      rw [this]
      omega
  · have hro : r.ownerId = item.ownerId := by
      obtain ⟨x, hx, hxid, hxo⟩ := hw.refs.attempts a ha
      rw [eq_of_key_eq hk.items h.item_mem hx (hri.symm.trans (hari.symm.trans hxid.symm)), hxo, hao]
    have := le_maxOrZero (p := fun r => r.gradingJobItemId == item.id && r.ownerId == item.ownerId)
      (f := (·.revisionNumber)) hr (by simp [hri, hro])
    omega

/-! ## Every move keeps the reviews -/

/-- Moves that neither write a review nor complete an item. -/
theorem Reviewed.of_same (hw : WellFormed env s) (hv : s.Reviewed) (h : Move env R keep s s')
    (hsame : s'.reviews = s.reviews)
    (hcompleted : ∀ i ∈ s'.items, i.status = .completed → i ∈ s.items) : s'.Reviewed := by
  have hk := hw.sound.keys
  have hk' := h.keys hk
  refine ⟨?_, ?_, ?_, ?_⟩ <;> rw [hsame]
  · intro r hr a ha hid
    exact (h.review_attempt hw hv hr ha hid).2
  · intro r hr hc i' hi' hid
    obtain ⟨a, ha, haid, hai, -⟩ := hw.refs.reviews r hr
    obtain ⟨i, hi, hiid, -⟩ := hw.refs.attempts a ha
    obtain ⟨hst, hround⟩ := hv.confirmed_item r hr hc i hi (hiid.trans hai)
    have hi'' := h.completed_kept hk hi hst
    have : i' = i := eq_of_key_eq hk'.items hi' hi'' (hid.trans (hiid.trans hai).symm)
    subst this
    exact ⟨hst, fun b hb hbid => hround b (h.review_attempt hw hv hr hb hbid).1 hbid⟩
  · intro i hi hc
    exact hv.completed_review i (hcompleted i hi hc) hc
  · intro r hr x hx hrx a ha b hb haid hbid hlt
    exact hv.revisions r hr x hx hrx a (h.review_attempt hw hv hr ha haid).1 b
      (h.review_attempt hw hv hx hb hbid).1 haid hbid hlt

theorem Drafted.reviewed (hw : WellFormed env s) (hrounds : s.Rounds) (hv : s.Reviewed)
    {item : GradingJobItem} {attempt : GradingAttempt} {review : TeacherReview}
    (h : Drafted s s' item attempt review) : s'.Reviewed := by
  have hk := hw.sound.keys
  obtain ⟨hattempt, hai, -, has, hround⟩ := latestSucceeded_some h.attempt_eq
  have hitems : s'.items = s.items := by
    rcases h.write with ⟨_, _, _, _, _, _, he⟩ | ⟨_, _, _, _, he⟩ <;> rw [he]
  have hattempts : s'.attempts = s.attempts := by
    rcases h.write with ⟨_, _, _, _, _, _, he⟩ | ⟨_, _, _, _, he⟩ <;> rw [he]
  have hreviews : ∀ r ∈ s'.reviews, r = review ∨ r ∈ s.reviews := by
    intro r hr
    rcases h.write with ⟨old, hold, -, -, -, -, he⟩ | ⟨_, _, _, _, he⟩ <;>
      rw [congrArg Store.reviews he] at hr
    · exact ((mem_replaceRow hold).1 hr).imp id (·.1)
    · rcases List.mem_append.1 hr with hr | hr
      · exact .inr hr
      · exact .inl (List.mem_singleton.1 hr)
  have hmine : ∀ a ∈ s.attempts, a.id = review.gradingAttemptId → a = attempt := fun a ha hid =>
    eq_of_key_eq hk.attemptIds ha hattempt (hid.trans h.review_attempt)
  refine ⟨?_, ?_, ?_, ?_⟩
  · rw [hattempts]
    intro r hr a ha hid
    rcases hreviews r hr with rfl | hr
    · rw [hmine a ha hid]
      exact has
    · exact hv.attempt_succeeded r hr a ha hid
  · rw [hitems, hattempts]
    intro r hr hc i hi hid
    rcases hreviews r hr with rfl | hr
    · rw [h.review_draft] at hc
      cases hc
    · exact hv.confirmed_item r hr hc i hi hid
  · rw [hitems]
    intro i hi hc
    obtain ⟨r, hr, hri, hrc⟩ := hv.completed_review i hi hc
    have hmove : AnyMove env s s' := .drafted h
    exact ⟨r, hmove.confirmed_kept hk hr hrc, hri, hrc⟩
  · rw [hattempts]
    intro r hr x hx hrx a ha b hb haid hbid hlt
    rcases hreviews r hr with rfl | hr <;> rcases hreviews x hx with rfl | hx
    · rw [hmine a ha haid, hmine b hb hbid] at hlt
      omega
    · -- no attempt is of a later round than the one being reviewed
      rw [hmine a ha haid, hround] at hlt
      have hbi : b.gradingJobItemId = item.id := by
        obtain ⟨c, hc, hcid, hci, -⟩ := hw.refs.reviews x hx
        rw [eq_of_key_eq hk.attemptIds hb hc (hbid.trans hcid.symm), hci, ← hrx, h.review_item]
      have := hrounds.le_version b hb item h.item_mem hbi
      omega
    · exact h.exceeds hw hrounds hv hr (hrx.trans h.review_item)
    · exact hv.revisions r hr x hx hrx a ha b hb haid hbid hlt

theorem Confirmed.reviewed {teacherId : Uuid} {refs : List (Uuid × Nat)} {now : Time}
    (hw : WellFormed env s) (hv : s.Reviewed) (h : Confirmed s s' teacherId refs now) :
    s'.Reviewed := by
  have hk := hw.sound.keys
  have hitems : s'.items = setWhere (s.reviewedItem teacherId refs) (completeItem now) s.items :=
    congrArg Store.items h.eq
  have hattempts : s'.attempts = s.attempts := by rw [h.eq]
  -- a review now and the same review before
  have horigin : ∀ r ∈ s'.reviews, ∃ x ∈ s.reviews, r.toReviewIdentity = x.toReviewIdentity ∧
      r.revisionNumber = x.revisionNumber ∧
      (r = x ∨ (referenced teacherId refs x = true ∧ r = confirmReview now x)) := by
    intro r hr
    rw [congrArg Store.reviews h.eq] at hr
    rcases mem_setWhere.1 hr with ⟨x, hx, href, rfl⟩ | ⟨hr, -⟩
    · exact ⟨x, hx, rfl, rfl, .inr ⟨href, rfl⟩⟩
    · exact ⟨r, hr, rfl, rfl, .inl rfl⟩
  refine ⟨?_, ?_, ?_, ?_⟩
  · rw [hattempts]
    intro r hr a ha hid
    obtain ⟨x, hx, hident, -⟩ := horigin r hr
    exact hv.attempt_succeeded x hx a ha (hid.trans (congrArg (·.gradingAttemptId) hident))
  · rw [hattempts]
    intro r hr hc i' hi' hid
    obtain ⟨x, hx, hident, -, hcase⟩ := horigin r hr
    have hatt : r.gradingAttemptId = x.gradingAttemptId := congrArg (·.gradingAttemptId) hident
    have hritem : r.gradingJobItemId = x.gradingJobItemId := congrArg (·.gradingJobItemId) hident
    rw [hitems] at hi'
    rcases hcase with rfl | ⟨href, rfl⟩
    · -- confirmed before: its item is completed, so it is not touched
      rcases mem_setWhere.1 hi' with ⟨i, hi, hhit, rfl⟩ | ⟨hi, -⟩
      · have hst := (hv.confirmed_item r hx hc i hi hid).1
        rw [h.item_review hw hi hhit] at hst
        cases hst
      · exact hv.confirmed_item r hx hc i' hi hid
    · obtain ⟨job, item, _, _, attempt, hrows, hconf⟩ := h.confirmable hw hx href
      have hhit : s.reviewedItem teacherId refs item = true :=
        (reviewedItem_iff hw hrows.item_mem).2 ⟨x, hx, href, hrows.item_id.symm⟩
      rcases mem_setWhere.1 hi' with ⟨i, hi, -, rfl⟩ | ⟨hi, hmiss⟩
      · have : i = item := eq_of_key_eq hk.items hi hrows.item_mem (hid.trans hrows.item_id.symm)
        subst this
        refine ⟨rfl, fun b hb hbid => ?_⟩
        rw [eq_of_key_eq hk.attemptIds hb hrows.attempt_mem (hbid.trans hrows.attempt_id.symm)]
        exact hconf.attempt_round
      · rw [eq_of_key_eq hk.items hi hrows.item_mem (hid.trans hrows.item_id.symm), hhit] at hmiss
        cases hmiss
  · intro i' hi' hc
    rw [hitems] at hi'
    rcases mem_setWhere.1 hi' with ⟨i, hi, hhit, rfl⟩ | ⟨hi, -⟩
    · obtain ⟨x, hx, href, hxi⟩ := (reviewedItem_iff hw hi).1 hhit
      refine ⟨confirmReview now x, ?_, hxi, rfl⟩
      rw [congrArg Store.reviews h.eq]
      exact mem_setWhere.2 (.inl ⟨x, hx, href, rfl⟩)
    · obtain ⟨x, hx, hxi, hxc⟩ := hv.completed_review i' hi hc
      have hmove : AnyMove env s s' := .confirmed h
      exact ⟨x, hmove.confirmed_kept hk hx hxc, hxi, hxc⟩
  · rw [hattempts]
    intro r hr x hx hrx a ha b hb haid hbid hlt
    obtain ⟨y, hy, hry, hrev, -⟩ := horigin r hr
    obtain ⟨z, hz, hxz, hrev', -⟩ := horigin x hx
    rw [hrev, hrev']
    rw [hry] at haid hrx
    rw [hxz] at hbid hrx
    exact hv.revisions y hy z hz hrx a ha b hb haid hbid hlt

theorem Move.reviewed (hw : WellFormed env s) (hr : s.Rounds) (hv : s.Reviewed)
    (h : Move env R keep s s') : s'.Reviewed := by
  have hsame := Reviewed.of_same hw hv h
  cases h with
  | inputs h => exact hsame h.1.reviews fun i hi _ => h.1.items ▸ hi
  | claimed h =>
    refine hsame (by rw [h.eq]) fun i hi hc => ?_
    rw [congrArg Store.items h.eq] at hi
    rcases (mem_replaceRow h.item_mem).1 hi with rfl | ⟨hi, -⟩
    · cases hc
    · exact hi
  | closed h =>
    refine hsame (by rw [h.eq]) fun i hi hc => ?_
    rw [congrArg Store.items h.eq] at hi
    rcases (mem_replaceRow h.item_mem).1 hi with rfl | ⟨hi, -⟩
    · rcases closing_item_status h.closing with hst | hst | hst <;> rw [hst] at hc <;> cases hc
    · exact hi
  | switched h => exact hsame (by rw [h.eq]) fun i hi _ => by rwa [congrArg Store.items h.eq] at hi
  | cancelled h =>
    refine hsame (by rw [h.eq]) fun i hi hc => ?_
    rw [congrArg Store.items h.eq] at hi
    rcases mem_setWhere.1 hi with ⟨_, _, _, rfl⟩ | ⟨hi, -⟩
    · cases hc
    · exact hi
  | retried h =>
    refine hsame (by rw [h.eq]) fun i hi hc => ?_
    rw [congrArg Store.items h.eq] at hi
    rcases (mem_replaceRow h.item_mem).1 hi with rfl | ⟨hi, -⟩
    · cases hc
    · exact hi
  | created h =>
    refine hsame (by rw [h.eq]) fun i hi hc => ?_
    rw [congrArg Store.items h.eq] at hi
    rcases List.mem_append.1 hi with hi | hi
    · exact hi
    · rw [h.item_queued i hi] at hc
      cases hc
  | drafted h => exact h.reviewed hw hr hv
  | confirmed h => exact h.reviewed hw hv

/-! ## Runs -/

/-- What the rounds and reviews of a store obey. -/
structure Graded (s : Store) : Prop where
  leased : s.Leased
  rounds : s.Rounds
  reviewed : s.Reviewed

theorem Move.graded (hw : WellFormed env s) (hg : s.Graded) (h : Move env R keep s s') : s'.Graded :=
  ⟨h.leased hw hg.leased, h.rounds hw hg.leased hg.rounds, h.reviewed hw hg.rounds hg.reviewed⟩

theorem graded_empty : Graded empty :=
  ⟨by simp [Leased, empty], rounds_empty,
    ⟨by simp [empty], by simp [empty], by simp [empty], by simp [empty]⟩⟩

theorem after_graded (as : List (Action env)) : (after env as).Graded :=
  after_invariant (fun _ _ hw h hg => h.graded hw hg) graded_empty as

/-- **Ended attempts, completed items and confirmed reviews are final.** -/
theorem run_final (hw : WellFormed env s) (as : List (Action env)) :
    (∀ a ∈ s.attempts, a.status ≠ .running → a ∈ (Runs.run (step env) s as).attempts) ∧
      (∀ i ∈ s.items, i.status = .completed → i ∈ (Runs.run (step env) s as).items) ∧
      ∀ r ∈ s.reviews, r.status = .confirmed → r ∈ (Runs.run (step env) s as).reviews :=
  (run_invariant (P := fun t => (∀ a ∈ s.attempts, a.status ≠ .running → a ∈ t.attempts) ∧
      (∀ i ∈ s.items, i.status = .completed → i ∈ t.items) ∧
      ∀ r ∈ s.reviews, r.status = .confirmed → r ∈ t.reviews)
    (fun _ _ ht h hp => ⟨fun a ha hst => h.ended_kept ht.sound.keys (hp.1 a ha hst) hst,
      fun i hi hst => h.completed_kept ht.sound.keys (hp.2.1 i hi hst) hst,
      fun r hr hst => h.confirmed_kept ht.sound.keys (hp.2.2 r hr hst) hst⟩)
    hw ⟨fun _ ha _ => ha, fun _ hi _ => hi, fun _ hr _ => hr⟩ as).2

/-! ## Revisions along a run -/

/-- A review row only gains revisions. -/
theorem Move.review_grows (hk : s.Keys) (h : Move env R keep s s') {r : TeacherReview}
    (hr : r ∈ s.reviews) : ∃ r' ∈ s'.reviews, r'.toReviewIdentity = r.toReviewIdentity ∧
      r.revisionNumber ≤ r'.revisionNumber := by
  obtain ⟨r', hr', hident, rfl | hchk⟩ := (h.reviews_evolve hk).forward hr
  · exact ⟨r', hr', rfl, le_rfl⟩
  · obtain ⟨-, hd, hc, -⟩ := reviewUpdateCheck_eq_ok.1 hchk
    refine ⟨r', hr', hident, ?_⟩
    cases hst : r'.status with
    | draft => rw [hd hst]; omega
    | confirmed => rw [hc hst]

theorem run_review_grows (hw : WellFormed env s) {r : TeacherReview} (hr : r ∈ s.reviews)
    (as : List (Action env)) : ∃ r' ∈ (Runs.run (step env) s as).reviews,
      r'.toReviewIdentity = r.toReviewIdentity ∧ r.revisionNumber ≤ r'.revisionNumber :=
  (run_invariant (P := fun t => ∃ r' ∈ t.reviews, r'.toReviewIdentity = r.toReviewIdentity ∧
      r.revisionNumber ≤ r'.revisionNumber)
    (fun _ _ ht h hp => by
      obtain ⟨x, hx, hident, hle⟩ := hp
      obtain ⟨x', hx', hident', hle'⟩ := h.review_grows ht.sound.keys hx
      exact ⟨x', hx', hident'.trans hident, hle.trans hle'⟩)
    hw ⟨r, hr, rfl, le_rfl⟩ as).2

theorem Drafted.review_mem {item : GradingJobItem} {attempt : GradingAttempt}
    {review : TeacherReview} (h : Drafted s s' item attempt review) : review ∈ s'.reviews := by
  rcases h.write with ⟨old, hold, -, -, -, -, he⟩ | ⟨-, -, -, -, he⟩ <;>
    rw [congrArg Store.reviews he]
  · exact (mem_replaceRow hold).2 (.inl rfl)
  · exact List.mem_append_right _ (by simp)

/-- A save stores a new revision of the item, above all earlier ones. -/
theorem save_exceeds (hw : WellFormed env s) (hg : s.Graded) {teacher : Option Uuid}
    {itemId attemptId id : Uuid} {p : ReviewPayload} {freshId : RandomUuid} {now : Time}
    (h : s.saveTeacherReviewDraft teacher itemId attemptId p freshId now = .ok (some id, s')) :
    ∃ r ∈ s'.reviews, r.id = id ∧ r.gradingJobItemId = itemId ∧
      ∀ x ∈ s.reviews, x.gradingJobItemId = itemId → x.revisionNumber < r.revisionNumber := by
  rcases saveTeacherReviewDraft_cases hw.sound.keys h with ⟨hnone, -⟩ |
    ⟨item, attempt, review, rfl, hid, -, hd⟩
  · cases hnone
  · cases hid
    exact ⟨review, hd.review_mem, rfl, hd.review_item,
      fun x hx hxi => hd.exceeds hw hg.rounds hg.reviewed hx hxi⟩

/-! ## Confirming batches -/

theorem referencedReview_of_mem (hk : s.Keys) {teacherId : Uuid} {ref : Uuid × Nat}
    {r : TeacherReview} (hr : r ∈ s.reviews) (hid : r.id = ref.1) (hrev : r.revisionNumber = ref.2)
    (ho : r.ownerId = teacherId) : s.referencedReview teacherId ref = some r := by
  unfold referencedReview
  refine find?_eq_some_of_key hk.reviewIds hr _ (by simp [hid, hrev, ho]) fun x hx => ?_
  simp only [Bool.and_eq_true, beq_iff_eq] at hx
  rw [hx.1.1, hid]

/-- Every reference of an answered confirmation is a confirmed review at that revision. -/
theorem confirm_confirms {teacherId : Uuid} {refs : List (Uuid × Nat)} {now : Time}
    {ids : List Uuid}
    (h : s.confirmTeacherReviews (some teacherId) refs now = .ok (some ids, s')) :
    validRefs refs ∧ ids = refs.map (·.1) ∧ ∀ ref ∈ refs, ∃ r ∈ s'.reviews,
      r.id = ref.1 ∧ r.revisionNumber = ref.2 ∧ r.ownerId = teacherId ∧ r.status = .confirmed := by
  obtain ⟨hvalid, ⟨-, hnone, -⟩ | ⟨hall, hids, rfl⟩ | ⟨hids, hc⟩⟩ := confirmTeacherReviews_eq_ok.1 h
  · cases hnone
  · cases hids
    refine ⟨hvalid, rfl, fun ref href => ?_⟩
    obtain ⟨r, hr, hst⟩ := hall ref href
    obtain ⟨hrm, hid, hrev, ho⟩ := referencedReview_some hr
    exact ⟨r, hrm, hid, hrev, ho, hst⟩
  · cases hids
    refine ⟨hvalid, rfl, fun ref href => ?_⟩
    obtain ⟨r, hr, -⟩ := hc.found ref href
    obtain ⟨hrm, hid, hrev, ho⟩ := referencedReview_some hr
    refine ⟨confirmReview now r, ?_, hid, hrev, ho, rfl⟩
    rw [congrArg Store.reviews hc.eq]
    refine mem_setWhere.2 (.inl ⟨r, hrm, ?_, rfl⟩)
    simp only [referenced, Bool.and_eq_true, beq_iff_eq, List.any_eq_true]
    exact ⟨ho, ref, href, hid.symm⟩

/-- A confirmation leaves the other reviews alone. -/
theorem confirm_others {teacher : Option Uuid} {refs : List (Uuid × Nat)} {now : Time}
    {r : Option (List Uuid)} (h : s.confirmTeacherReviews teacher refs now = .ok (r, s')) :
    ∀ x ∈ s'.reviews, x ∈ s.reviews ∨ x.id ∈ refs.map (·.1) := by
  intro x hx
  cases teacher with
  | none =>
    cases h
    exact .inl hx
  | some teacherId =>
    obtain ⟨-, ⟨-, -, rfl⟩ | ⟨-, -, rfl⟩ | ⟨-, hc⟩⟩ := confirmTeacherReviews_eq_ok.1 h
    · exact .inl hx
    · exact .inl hx
    · rw [congrArg Store.reviews hc.eq] at hx
      rcases mem_setWhere.1 hx with ⟨y, -, hhit, rfl⟩ | ⟨hx, -⟩
      · simp only [referenced, Bool.and_eq_true, List.any_eq_true, beq_iff_eq] at hhit
        obtain ⟨-, ref, href, hid⟩ := hhit
        exact .inr (List.mem_map.2 ⟨ref, href, hid⟩)
      · exact .inl hx

/-- **A confirmation can be repeated**: at any later time it answers the same ids and changes
nothing. -/
theorem confirm_repeats (hw : WellFormed env s') {teacher : Option Uuid} {refs : List (Uuid × Nat)}
    {now now' : Time} {ids : List Uuid}
    (h : s.confirmTeacherReviews teacher refs now = .ok (some ids, s')) (as : List (Action env)) :
    (Runs.run (step env) s' as).confirmTeacherReviews teacher refs now' =
      .ok (some ids, Runs.run (step env) s' as) := by
  cases teacher with
  | none => cases h
  | some teacherId =>
    obtain ⟨hvalid, rfl, hall⟩ := confirm_confirms h
    have hk := (run_invariant (P := fun _ => True) (fun _ _ _ _ _ => trivial) hw trivial as).1.sound.keys
    refine confirmTeacherReviews_eq_ok.2 ⟨hvalid, .inr (.inl ⟨fun ref href => ?_, rfl, rfl⟩)⟩
    obtain ⟨r, hr, hid, hrev, ho, hst⟩ := hall ref href
    exact ⟨r, referencedReview_of_mem hk ((run_final hw as).2.2 r hr hst) hid hrev ho, hst⟩

/-- **Reviews are trustworthy in every reachable store**: at most one confirmed review per item,
exactly for completed items, about the one success of the current round, final, with growing
revisions; and confirmations are all or nothing and repeatable. -/
theorem after_reviews (as : List (Action env)) :
    (∀ r ∈ (after env as).reviews, ∀ x ∈ (after env as).reviews, r.status = .confirmed →
      x.status = .confirmed → r.gradingJobItemId = x.gradingJobItemId → r = x) ∧
    (∀ i ∈ (after env as).items, i.status = .completed ↔
      ∃ r ∈ (after env as).reviews, r.gradingJobItemId = i.id ∧ r.status = .confirmed) ∧
    (∀ r ∈ (after env as).reviews, r.status = .confirmed →
      ∃ i ∈ (after env as).items, i.id = r.gradingJobItemId ∧
      ∃ a ∈ (after env as).attempts, a.id = r.gradingAttemptId ∧ a.gradingJobItemId = i.id ∧
        a.status = .succeeded ∧ a.scoringRound = i.dispatchVersion ∧
        (∀ b ∈ (after env as).attempts, b.gradingJobItemId = i.id → b.status = .succeeded →
          b.scoringRound = i.dispatchVersion → b = a) ∧
        ∀ bs, r ∈ (after env (as ++ bs)).reviews ∧ i ∈ (after env (as ++ bs)).items) ∧
    (∀ teacher teacher' itemId attemptId attemptId' p p' freshId freshId' now now' id id' s₁ s₂ bs,
      (after env as).saveTeacherReviewDraft teacher itemId attemptId p freshId now =
        .ok (some id, s₁) →
      (Runs.run (step env) s₁ bs).saveTeacherReviewDraft teacher' itemId attemptId' p' freshId' now' =
        .ok (some id', s₂) →
      ∃ r ∈ s₁.reviews, ∃ r' ∈ s₂.reviews, r.id = id ∧ r'.id = id' ∧
        r.gradingJobItemId = itemId ∧ r'.gradingJobItemId = itemId ∧
        r.revisionNumber < r'.revisionNumber) ∧
    (∀ teacher refs now e, (after env as).confirmTeacherReviews teacher refs now = .error e →
      step env (after env as) (.confirmTeacherReviews teacher refs now) = after env as) ∧
    ∀ teacher refs now answer s',
      (after env as).confirmTeacherReviews teacher refs now = .ok (answer, s') →
      (∀ x ∈ s'.reviews, x ∈ (after env as).reviews ∨ x.id ∈ refs.map (·.1)) ∧
      ((answer = none ∧ s' = after env as) ∨
        ∃ ids, answer = some ids ∧ ids = refs.map (·.1) ∧
          (∀ ref ∈ refs, ∃ r ∈ s'.reviews, r.id = ref.1 ∧ r.revisionNumber = ref.2 ∧
            r.status = .confirmed) ∧
          ∀ bs now', (Runs.run (step env) s' bs).confirmTeacherReviews teacher refs now' =
            .ok (some ids, Runs.run (step env) s' bs)) := by
  have hw : WellFormed env (after env as) := after_wellFormed as
  have hg : (after env as).Graded := after_graded as
  have hk := hw.sound.keys
  refine ⟨?_, fun i hi => ⟨hg.reviewed.completed_review i hi, ?_⟩, ?_, ?_,
    fun teacher refs now e he => ?_, ?_⟩
  · intro r hr x hx hrc hxc hrx
    refine eq_of_conflict hk.reviews hr hx ?_ ?_ <;> simp [reviewConflict, hrx, hrc, hxc]
  · rintro ⟨r, hr, hri, hrc⟩
    exact (hg.reviewed.confirmed_item r hr hrc i hi hri.symm).1
  · intro r hr hrc
    obtain ⟨a, ha, haid, hai, -⟩ := hw.refs.reviews r hr
    obtain ⟨i, hi, hiid, -⟩ := hw.refs.attempts a ha
    obtain ⟨hst, hround⟩ := hg.reviewed.confirmed_item r hr hrc i hi (hiid.trans hai)
    have has := hg.reviewed.attempt_succeeded r hr a ha haid
    refine ⟨i, hi, hiid.trans hai, a, ha, haid, hiid.symm, has, hround a ha haid, ?_, fun bs => ?_⟩
    · intro b hb hbi hbs hbr
      exact hg.rounds.succeeded_unique hk hb ha hbs has (hbi.trans hiid) (hbr.trans (hround a ha haid).symm)
    · rw [after, Runs.run_append]
      have hfinal := run_final hw bs
      exact ⟨hfinal.2.2 r hr hrc, hfinal.2.1 i hi hst⟩
  · intro teacher teacher' itemId attemptId attemptId' p p' freshId freshId' now now' id id' s₁ s₂ bs
      hsave hsave'
    have hstep : step env (after env as)
        (.saveTeacherReviewDraft teacher itemId attemptId p freshId now) = s₁ :=
      step_of_ok (map_snd_eq_ok.2 ⟨_, hsave⟩)
    have hrun : Runs.run (step env) s₁ bs = after env
        (as ++ .saveTeacherReviewDraft teacher itemId attemptId p freshId now :: bs) := by
      rw [after, Runs.run_append, Runs.run_cons]
      exact congrArg (Runs.run (step env) · bs) hstep.symm
    have hw₁ : WellFormed env s₁ := hstep ▸ step_wellFormed hw _
    obtain ⟨r, hr, hrid, hri, -⟩ := save_exceeds hw hg hsave
    obtain ⟨x, hx, hident, hle⟩ := run_review_grows hw₁ hr bs
    rw [hrun] at hsave' hx
    obtain ⟨r', hr', hrid', hri', hexceeds⟩ := save_exceeds (after_wellFormed _) (after_graded _) hsave'
    have := hexceeds x hx ((congrArg (·.gradingJobItemId) hident).trans hri)
    exact ⟨r, hr, r', hr', hrid, hrid', hri, hri', by omega⟩
  · rw [step, exec, he]
    rfl
  · intro teacher refs now answer s' h
    refine ⟨confirm_others h, ?_⟩
    have hstep : step env (after env as) (.confirmTeacherReviews teacher refs now) = s' :=
      step_of_ok (map_snd_eq_ok.2 ⟨_, h⟩)
    have hw' : WellFormed env s' := hstep ▸ step_wellFormed hw _
    cases answer with
    | some ids =>
      refine .inr ⟨ids, rfl, ?_⟩
      cases teacher with
      | none => cases h
      | some teacherId =>
        obtain ⟨-, hids, hall⟩ := confirm_confirms h
        refine ⟨hids, fun ref href => ?_, fun bs now' => confirm_repeats hw' h bs⟩
        obtain ⟨r, hr, hid, hrev, -, hst⟩ := hall ref href
        exact ⟨r, hr, hid, hrev, hst⟩
    | none =>
      refine .inl ⟨rfl, ?_⟩
      cases teacher with
      | none =>
        cases h
        rfl
      | some teacherId =>
        obtain ⟨-, ⟨-, -, he⟩ | ⟨-, hnone, -⟩ | ⟨hnone, -⟩⟩ := confirmTeacherReviews_eq_ok.1 h
        · exact he
        · cases hnone
        · cases hnone

end Store

end PaperGrading
