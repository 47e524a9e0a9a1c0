import PaperGrading.Domain.CanonicalDecimals
import PaperGrading.Reviews.Requests
import PaperGrading.Store.Reviews

/-!
# What a successful review request has done

Any number of `save_draft`, `confirm` and `confirm_batch` requests, one answer at a time, between any
other transactions.  A row that a request has read may get a later revision, may be confirmed, and
does nothing else; so what a request was answered says what is there now.

    a confirmed batch is, item by item, what the request has read and checked
    a confirmed review is what the request has submitted, unless somebody else confirmed
      the item between the two reads of the request                     (after_honoured)
    all requests that confirm an item return the same review
-/

namespace PaperGrading

open Table

/-! ## Rows that have been read -/

namespace Store

/-- What may have become of a review. -/
structure Kept (r r' : TeacherReview) : Prop where
  identity : r'.toReviewIdentity = r.toReviewIdentity
  revision : r.revisionNumber ≤ r'.revisionNumber
  payload : r'.revisionNumber = r.revisionNumber → r'.payload = r.payload
  final : r.status = .confirmed → r' = r

theorem Kept.refl (r : TeacherReview) : Kept r r := ⟨rfl, le_rfl, fun _ => rfl, fun _ => rfl⟩

theorem Kept.trans {r x y : TeacherReview} (h : Kept r x) (h' : Kept x y) : Kept r y where
  identity := h'.identity.trans h.identity
  revision := h.revision.trans h'.revision
  payload he := by
    have hle := h.revision
    have hle' := h'.revision
    exact (h'.payload (by omega)).trans (h.payload (by omega))
  final hc := by
    obtain rfl := h.final hc
    exact h'.final hc

section

variable {env : Runtime} {R : GradingJob → GradingAttemptFailure → Prop}
  {keep : RubricVersion → Prop} {s s' : Store}

/-- Only saves and confirmations touch reviews. -/
theorem Move.review_kept (hk : s.Keys) (h : Move env R keep s s') {r : TeacherReview}
    (hr : r ∈ s.reviews) : ∃ r' ∈ s'.reviews, Kept r r' := by
  have hsame (he : s'.reviews = s.reviews) : ∃ r' ∈ s'.reviews, Kept r r' := ⟨r, he ▸ hr, .refl r⟩
  cases h with
  | inputs h => exact hsame h.1.reviews
  | claimed h | closed h | switched h | cancelled h | retried h | created h =>
    exact hsame (by rw [h.eq])
  | @drafted item attempt review h =>
    rcases h.write with ⟨old, hold, hdraft, hresave, -, -, he⟩ | ⟨-, -, -, -, he⟩
    · rw [congrArg Store.reviews he]
      by_cases hid : r.id = old.id
      · obtain rfl := eq_of_key_eq hk.reviewIds hr hold hid
        refine ⟨review, (mem_replaceRow hold).2 (.inl rfl), ?_⟩
        have hrev : review.revisionNumber = r.revisionNumber + 1 := by
          rw [hresave]
          rfl
        have hident : review.toReviewIdentity = r.toReviewIdentity := by
          rw [hresave]
          rfl
        refine ⟨hident, by omega, fun he => ?_, fun hc => ?_⟩
        · omega
        · rw [hdraft] at hc
          cases hc
      · exact ⟨r, (mem_replaceRow hold).2 (.inr ⟨hr, hid⟩), .refl r⟩
    · rw [congrArg Store.reviews he]
      exact ⟨r, List.mem_append_left _ hr, .refl r⟩
  | @confirmed teacherId refs now h =>
    rw [congrArg Store.reviews h.eq]
    by_cases hhit : referenced teacherId refs r = true
    · refine ⟨confirmReview now r, mem_setWhere.2 (.inl ⟨r, hr, hhit, rfl⟩), rfl, le_rfl, fun _ => rfl,
        fun hc => ?_⟩
      exact absurd hc (reviewUpdateCheck_eq_ok.1 (h.review_check r hr hhit)).1
    · exact ⟨r, mem_setWhere.2 (.inr ⟨hr, by simpa using hhit⟩), .refl r⟩

/-- A review along a run. -/
theorem run_review_kept (hw : WellFormed env s) {r r₀ : TeacherReview} (hr : r ∈ s.reviews)
    (hkept : Kept r₀ r) (as : List (Action env)) :
    ∃ r' ∈ (Runs.run (step env) s as).reviews, Kept r₀ r' :=
  (run_invariant (P := fun t => ∃ r' ∈ t.reviews, Kept r₀ r')
    (fun t t' ht h hp => by
      obtain ⟨x, hx, hkx⟩ := hp
      obtain ⟨x', hx', hkx'⟩ := h.review_kept ht.sound.keys hx
      exact ⟨x', hx', hkx.trans hkx'⟩)
    hw ⟨r, hr, hkept⟩ as).2

end

/-! ## Transactions of the repository -/

variable {env : Runtime} {s s' : Store} {teacher : Option Uuid} {ownerId itemId : Uuid}
  {data : ReviewDraftData} {freshId : RandomUuid} {now : Time}

theorem savePayload_eq_ok {x : Option Uuid × Store} :
    s.savePayload teacher itemId data freshId now = .ok x ↔ data.payload.texts.all textOk = true ∧
      s.saveTeacherReviewDraft teacher itemId data.attemptId data.payload freshId now = .ok x := by
  unfold savePayload
  rw [mapError_eq_ok, bind_eq_ok]
  simp only [require_eq_ok, exists_const]

theorem confirmPayload_eq_ok {refs : List (Uuid × Nat)} {x : Option (List Uuid) × Store} :
    s.confirmPayload teacher refs now = .ok x ↔ s.confirmTeacherReviews teacher refs now = .ok x :=
  mapError_eq_ok

theorem saveReviewDraft_eq_ok {view : ReviewDraftView} :
    s.saveReviewDraft env teacher ownerId itemId data freshId now = .ok (view, s') ↔
      ∃ id r, s.savePayload teacher itemId data freshId now = .ok (some id, s') ∧
        s'.findReview ownerId id = some r ∧ draftView env r = .ok view := by
  unfold saveReviewDraft
  rw [bind_eq_ok]
  constructor
  · rintro ⟨⟨id, s₁⟩, hsave, h⟩
    cases id with
    | none => cases h
    | some id =>
      simp only at h
      split at h
      · cases h
      next r hr =>
        obtain ⟨v, hv, h⟩ := bind_eq_ok.1 h
        cases h
        exact ⟨id, r, hsave, hr, hv⟩
  · rintro ⟨id, r, hsave, hr, hv⟩
    refine ⟨_, hsave, ?_⟩
    simp only [hr, hv]
    rfl

theorem confirmReviews_eq_ok {refs : List (Uuid × Nat)} {result : Option ReviewConfirmationResult} :
    s.confirmReviews env teacher ownerId refs now = .ok (result, s') ↔
      (result = none ∧ s.confirmTeacherReviews teacher refs now = .ok (none, s')) ∨
      ∃ ids c, result = some c ∧ s.confirmTeacherReviews teacher refs now = .ok (some ids, s') ∧
        s'.confirmationResult env ownerId refs = .ok c := by
  unfold confirmReviews
  rw [bind_eq_ok]
  simp only [confirmPayload_eq_ok]
  constructor
  · rintro ⟨⟨ids, s₁⟩, hconfirm, h⟩
    cases ids with
    | none =>
      cases h
      exact .inl ⟨rfl, hconfirm⟩
    | some ids =>
      obtain ⟨c, hc, h⟩ := bind_eq_ok.1 h
      cases h
      exact .inr ⟨ids, c, rfl, hconfirm, hc⟩
  · rintro (⟨rfl, hconfirm⟩ | ⟨ids, c, rfl, hconfirm, hc⟩)
    · exact ⟨_, hconfirm, rfl⟩
    · refine ⟨_, hconfirm, ?_⟩
      simp only [hc]
      rfl

theorem saveAndConfirm_eq_ok {c : ReviewConfirmationResult} :
    s.saveAndConfirm env teacher ownerId itemId data freshId now = .ok (c, s') ↔
      ∃ id r s₁, s.savePayload teacher itemId data freshId now = .ok (some id, s₁) ∧
        s₁.findReview ownerId id = some r ∧
        s₁.confirmReviews env teacher ownerId [(r.id, r.revisionNumber)] now = .ok (some c, s') := by
  unfold saveAndConfirm
  rw [bind_eq_ok]
  constructor
  · rintro ⟨⟨id, s₁⟩, hsave, h⟩
    cases id with
    | none => cases h
    | some id =>
      simp only at h
      split at h
      · cases h
      next r hr =>
        obtain ⟨⟨result, s₂⟩, hconfirm, h⟩ := bind_eq_ok.1 h
        cases result with
        | none => cases h
        | some result =>
          cases h
          exact ⟨id, r, s₁, hsave, hr, hconfirm⟩
  · rintro ⟨id, r, s₁, hsave, hr, hconfirm⟩
    refine ⟨_, hsave, ?_⟩
    simp only [hr, hconfirm, bind, Except.bind]
    rfl

/-- An answer is given by actions of the store. -/
theorem answerReview_run (input : ReviewTurnInput) (q : ReviewQuery) (s : Store) :
    ∃ as : List (Action env), (answerReview env input q s).2 = Runs.run (step env) s as := by
  have hsave {teacher : Option Uuid} {itemId : Uuid} {data : ReviewDraftData} {freshId : RandomUuid}
      {now : Time} {x : Option Uuid} {s₁ : Store}
      (h : s.savePayload teacher itemId data freshId now = .ok (x, s₁)) :
      step env s (.saveTeacherReviewDraft teacher itemId data.attemptId data.payload freshId now) = s₁ :=
    step_of_ok (map_snd_eq_ok.2 ⟨_, (savePayload_eq_ok.1 h).2⟩)
  have hconfirm {s s' : Store} {teacher : Option Uuid} {ownerId : Uuid} {refs : List (Uuid × Nat)}
      {now : Time} {result : Option ReviewConfirmationResult}
      (h : s.confirmReviews env teacher ownerId refs now = .ok (result, s')) :
      step env s (.confirmTeacherReviews teacher refs now) = s' := by
    rcases confirmReviews_eq_ok.1 h with ⟨-, h⟩ | ⟨_, _, -, h, -⟩ <;>
      exact step_of_ok (map_snd_eq_ok.2 ⟨_, h⟩)
  cases q with
  | getTarget | loadTarget | getJson => exact ⟨[], rfl⟩
  | saveDraft ownerId itemId data =>
    simp only [answerReview]
    cases h : s.saveReviewDraft env (input.teacher ownerId) ownerId itemId data input.freshId input.now with
    | error e => exact ⟨[], rfl⟩
    | ok x =>
      obtain ⟨id, r, hs, -, -⟩ := saveReviewDraft_eq_ok.1 h
      exact ⟨[_], (hsave hs).symm⟩
  | saveAndConfirm ownerId itemId data =>
    simp only [answerReview]
    cases h : s.saveAndConfirm env (input.teacher ownerId) ownerId itemId data input.freshId input.now with
    | error e => exact ⟨[], rfl⟩
    | ok x =>
      obtain ⟨id, r, s₁, hs, -, hc⟩ := saveAndConfirm_eq_ok.1 h
      refine ⟨[.saveTeacherReviewDraft (input.teacher ownerId) itemId data.attemptId data.payload
        input.freshId input.now,
        .confirmTeacherReviews (input.teacher ownerId) [(r.id, r.revisionNumber)] input.now], ?_⟩
      rw [Runs.run_cons, hsave hs, Runs.run_cons, Runs.run_nil]
      exact (hconfirm hc).symm
  | confirmReviews ownerId refs =>
    simp only [answerReview]
    cases h : s.confirmReviews env (input.teacher ownerId) ownerId refs input.now with
    | error e => exact ⟨[], rfl⟩
    | ok x => exact ⟨[_], (hconfirm h).symm⟩

end Store

/-! ## Views -/

section Views

variable {env : Runtime} {r r' : TeacherReview} {view : ReviewDraftView} {data : ReviewDraftData}

theorem draftView_eq_ok : draftView env r = .ok view ↔ ((∀ c ∈ view.criteria, c.accepts env = true) ∧
    (∀ d ∈ view.deductions, d.accepts env = true) ∧ ∀ e ∈ view.evidence, e.accepts env = true) ∧
      view = r.view env := by
  unfold draftView
  simp only [bind_eq_ok, ensure_eq_ok, exists_const, pure, Except.pure, Except.ok.injEq,
    List.all_eq_true]
  constructor
  · rintro ⟨hc, hd, he, rfl⟩
    exact ⟨⟨hc, hd, he⟩, rfl⟩
  · rintro ⟨⟨hc, hd, he⟩, rfl⟩
    exact ⟨hc, hd, he, rfl⟩

/-- The view of a later row at the same revision. -/
theorem view_of_kept (h : Store.Kept r r') (hrev : r'.revisionNumber = r.revisionNumber) :
    r'.view env = { r.view env with status := r'.status, confirmedAt := r'.confirmedAt } := by
  have hid : r'.id = r.id := congrArg ReviewIdentity.id h.identity
  have hattempt : r'.gradingAttemptId = r.gradingAttemptId :=
    congrArg ReviewIdentity.gradingAttemptId h.identity
  simp only [TeacherReview.view, TeacherReview.form, h.payload hrev, hrev, hid, hattempt]

theorem toRat_numericDecimal {x : ℚ} (h : OnScale 4 x) : (numericDecimal x).toRat = x := by
  obtain ⟨k, hk⟩ := h
  have hnum : (x * 10 ^ 4).num = k := by
    rw [hk]
    exact Rat.num_intCast k
  have hsign : (numericDecimal x).signed = k := by
    unfold numericDecimal Decimal.signed
    rw [hnum]
    by_cases hx : x < 0
    · have hneg : k < 0 := by
        have : (k : ℚ) < 0 := by
          rw [← hk]
          exact mul_neg_of_neg_of_pos hx (by norm_num)
        exact_mod_cast this
      simp only [hx, decide_true, if_true]
      omega
    · have hpos : 0 ≤ k := by
        have : (0 : ℚ) ≤ k := by
          rw [← hk]
          exact mul_nonneg (not_lt.1 hx) (by norm_num)
        exact_mod_cast this
      simp only [hx, decide_false]
      show ((k.natAbs : Nat) : Int) = k
      omega
  rw [Decimal.toRat_eq, hsign, ← hk]
  show x * 10 ^ 4 * (10 : ℚ) ^ (-4 : Int) = x
  rw [zpow_neg, mul_assoc]
  norm_num

/-- The totals have four decimals. -/
structure ReviewDraftData.Scaled (data : ReviewDraftData) : Prop where
  subtotal : OnScale 4 data.subtotal.toRat
  deductionTotal : OnScale 4 data.deductionTotal.toRat
  finalScore : OnScale 4 data.finalScore.toRat

theorem storedPayload_scaled (h : data.Scaled) {stored : ReviewPayload}
    (hstored : Store.storedPayload data.payload = .ok stored) : stored = data.payload := by
  unfold Store.storedPayload at hstored
  obtain ⟨a, ha, hstored⟩ := bind_eq_ok.1 hstored
  obtain ⟨b, hb, hstored⟩ := bind_eq_ok.1 hstored
  obtain ⟨c, hc, hstored⟩ := bind_eq_ok.1 hstored
  obtain rfl : a = data.payload.subtotal := ((numericColumn_eq_ok h.subtotal).1 ha).2
  obtain rfl : b = data.payload.deductionTotal := ((numericColumn_eq_ok h.deductionTotal).1 hb).2
  obtain rfl : c = data.payload.finalScore := ((numericColumn_eq_ok h.finalScore).1 hc).2
  exact (Except.ok.inj hstored).symm

/-- The row is what `data` has been stored as. -/
structure StoredAs (ownerId itemId : Uuid) (data : ReviewDraftData) (r : TeacherReview) : Prop where
  owner : r.ownerId = ownerId
  item : r.gradingJobItemId = itemId
  attempt : r.gradingAttemptId = data.attemptId
  payload : Store.storedPayload data.payload = .ok r.payload

/-- The view of a stored draft matches the draft. -/
theorem view_matches {ownerId itemId : Uuid} (h : StoredAs ownerId itemId data r) (hs : data.Scaled)
    (hcriteria : (data.toReviewDraftInput.normalize env).criteria = data.criteria)
    (hdeductions : (data.toReviewDraftInput.normalize env).deductions = data.deductions) :
    (r.view env).matches data = true := by
  have hpayload := storedPayload_scaled hs h.payload
  have hform : r.form = data.toReviewDraftInput := by
    unfold TeacherReview.form
    rw [hpayload, h.attempt]
    rfl
  have hsubtotal : (numericDecimal r.payload.subtotal).canonical = data.subtotal.canonical := by
    rw [hpayload, Decimal.canonical_eq_iff]
    exact toRat_numericDecimal hs.subtotal
  have hdeduction : (numericDecimal r.payload.deductionTotal).canonical = data.deductionTotal.canonical := by
    rw [hpayload, Decimal.canonical_eq_iff]
    exact toRat_numericDecimal hs.deductionTotal
  have hfinal : (numericDecimal r.payload.finalScore).canonical = data.finalScore.canonical := by
    rw [hpayload, Decimal.canonical_eq_iff]
    exact toRat_numericDecimal hs.finalScore
  have hjs : (r.view env).toReviewDraftData.toJs = data.toJs := by
    unfold ReviewDraftData.toJs TeacherReview.view
    simp only [hform, hcriteria, hdeductions, hsubtotal, hdeduction, hfinal]
  unfold ReviewDraftView.matches
  rw [hjs]
  exact beq_self_eq_true _

variable {t : ReviewTarget env} {parsed : ParsedDocument} {p : ReviewDraftInput} {requireEditable : Bool}

theorem validated_draft (h : validatePayload env t parsed p requireEditable = .ok data) :
    data.toReviewDraftInput = p ∧ data.Scaled := by
  obtain ⟨-, hpasses, rfl⟩ := validatePayload_eq_ok.1 h
  have htotals := hpasses.totals
  unfold ValidatedGradeResult.accepts at htotals
  simp only [Bool.and_eq_true] at htotals
  obtain ⟨⟨⟨-, hs⟩, hd⟩, hf⟩ := htotals
  exact ⟨rfl, (isTotal_iff.1 hs).2.1, (isTotal_iff.1 hd).2.1, (isTotal_iff.1 hf).2.1⟩

/-- The API has stripped the texts. -/
theorem parse_normal {form : ReviewDraftInput} (h : form.parse env = some p) :
    (p.normalize env).criteria = p.criteria ∧ (p.normalize env).deductions = p.deductions := by
  unfold ReviewDraftInput.parse at h
  split at h
  · cases h
    simp only [ReviewDraftInput.normalize, List.map_map, Function.comp_def, strip_strip, and_self]
  · cases h

theorem view_matches_of_validated {ownerId itemId : Uuid} (h : StoredAs ownerId itemId data r)
    (hvalid : validatePayload env t parsed p requireEditable = .ok data)
    {form : ReviewDraftInput} (hparse : form.parse env = some p) : (r.view env).matches data = true := by
  obtain ⟨rfl, hs⟩ := validated_draft hvalid
  obtain ⟨hcriteria, hdeductions⟩ := parse_normal hparse
  exact view_matches h hs hcriteria hdeductions

end Views

/-! ## What the answers say of the tables -/

namespace Store

variable {env : Runtime} {s s' : Store} {teacher : Option Uuid} {ownerId itemId : Uuid}
  {data : ReviewDraftData} {freshId : RandomUuid} {now : Time}

theorem findReview_some {id : Uuid} {r : TeacherReview} (h : s.findReview ownerId id = some r) :
    r ∈ s.reviews ∧ r.id = id ∧ r.ownerId = ownerId := by
  have hq := List.find?_some h
  rw [Bool.and_eq_true, beq_iff_eq, beq_iff_eq] at hq
  exact ⟨List.mem_of_find?_eq_some h, hq⟩

/-- The attempt that a save names. -/
theorem saved_attempt {attemptId id : Uuid} {p : ReviewPayload}
    (h : s.saveTeacherReviewDraft teacher itemId attemptId p freshId now = .ok (some id, s')) :
    ∃ r ∈ s'.reviews, r.id = id ∧ r.gradingAttemptId = attemptId := by
  unfold saveTeacherReviewDraft at h
  split at h
  · cases h
  next teacherId =>
    split at h
    · cases h
    next item attempt structured htarget =>
      obtain ⟨-, -, -, -, -, rfl⟩ := draftTarget_some htarget
      obtain ⟨_, _, h⟩ := bind_eq_ok.1 h
      split at h
      next old hold =>
        have hom := List.mem_of_find?_eq_some hold
        have hoq := List.find?_some hold
        simp only [Bool.and_eq_true, beq_iff_eq] at hoq
        split at h
        · simp only [bind_eq_ok, updateReviews_eq_ok] at h
          obtain ⟨stored, -, s₁, ⟨rfl, -, -⟩, hret⟩ := h
          cases hret
          exact ⟨resaveReview old.revisionNumber stored old,
            mem_setWhere.2 (.inl ⟨old, hom, by simp, rfl⟩), rfl, hoq.1.1⟩
        · cases h
      next hnone =>
        simp only [bind_eq_ok, insertReview_eq_ok] at h
        obtain ⟨stored, -, s₁, ⟨rfl, -, -⟩, hret⟩ := h
        cases hret
        exact ⟨_, List.mem_append_right _ (List.mem_singleton_self _), rfl, rfl⟩

theorem savePayload_row (hw : WellFormed env s) {id : Uuid} {r : TeacherReview}
    (h : s.savePayload teacher itemId data freshId now = .ok (some id, s'))
    (hr : s'.findReview ownerId id = some r) :
    r ∈ s'.reviews ∧ r.id = id ∧ StoredAs ownerId itemId data r := by
  obtain ⟨-, hsave⟩ := savePayload_eq_ok.1 h
  have hstep : step env s (.saveTeacherReviewDraft teacher itemId data.attemptId data.payload freshId now) =
      s' := step_of_ok (map_snd_eq_ok.2 ⟨_, hsave⟩)
  have hk : s'.Keys := (hstep ▸ step_wellFormed hw _ : WellFormed env s').sound.keys
  obtain ⟨hrm, hid, ho⟩ := findReview_some hr
  rcases saveTeacherReviewDraft_cases hw.sound.keys hsave with ⟨hnone, -⟩ |
    ⟨item, attempt, review, hitem, hsome, hstored, hd⟩
  · cases hnone
  · cases hsome
    obtain rfl := eq_of_key_eq hk.reviewIds hrm hd.review_mem hid
    obtain ⟨x, hx, hxid, hxa⟩ := saved_attempt hsave
    obtain rfl := eq_of_key_eq hk.reviewIds hx hrm hxid
    exact ⟨hrm, hid, ho, hd.review_item.trans hitem, hxa, hstored⟩

theorem forall₂_of_mapM {ε α β : Type} {f : α → Except ε β} {l : List α} {ys : List β}
    (h : l.mapM f = .ok ys) : List.Forall₂ (fun x y => f x = .ok y) l ys := by
  induction l generalizing ys with
  | nil =>
    rw [List.mapM_nil] at h
    cases h
    exact .nil
  | cons x l ih =>
    rw [List.mapM_cons] at h
    obtain ⟨y, hy, h⟩ := bind_eq_ok.1 h
    obtain ⟨ys', hys, h⟩ := bind_eq_ok.1 h
    cases h
    exact .cons hy (ih hys)

/-- The view is of a confirmed review at this revision. -/
def ShowsConfirmed (env : Runtime) (s : Store) (ownerId : Uuid) (ref : Uuid × Nat)
    (view : ReviewDraftView) : Prop :=
  ∃ r ∈ s.reviews, r.status = .confirmed ∧ r.id = ref.1 ∧ r.revisionNumber = ref.2 ∧
    r.ownerId = ownerId ∧ draftView env r = .ok view

theorem confirmReviews_shows (hw : WellFormed env s') {refs : List (Uuid × Nat)}
    {c : ReviewConfirmationResult}
    (h : s.confirmReviews env teacher ownerId refs now = .ok (some c, s')) :
    List.Forall₂ (ShowsConfirmed env s' ownerId) refs c.reviews := by
  rcases confirmReviews_eq_ok.1 h with ⟨hnone, -⟩ | ⟨ids, c, hc, hconfirm, hresult⟩
  · cases hnone
  cases hc
  cases teacher with
  | none => cases hconfirm
  | some teacherId =>
    obtain ⟨-, -, hall⟩ := confirm_confirms hconfirm
    unfold confirmationResult at hresult
    obtain ⟨-, -, hresult⟩ := bind_eq_ok.1 hresult
    obtain ⟨views, hviews, hresult⟩ := bind_eq_ok.1 hresult
    cases hresult
    have hboth := (List.forall₂_and_left refs views).2 ⟨hall, forall₂_of_mapM hviews⟩
    refine hboth.imp ?_
    rintro ref view ⟨⟨r, hr, hid, hrev, -, hst⟩, hview⟩
    split at hview
    next x hx =>
      have hxm := List.mem_filter.1 (List.mem_of_find?_eq_some hx)
      have hxid : x.id = ref.1 := by simpa using List.find?_some hx
      obtain rfl := eq_of_key_eq hw.sound.keys.reviewIds hr hxm.1 (hid.trans hxid.symm)
      rw [Bool.and_eq_true, beq_iff_eq] at hxm
      exact ⟨r, hr, hst, hid, hrev, hxm.2.1, hview⟩
    · cases hview

/-- The review has been stored and confirmed in one go. -/
def Wrote (env : Runtime) (s : Store) (ownerId itemId : Uuid) (data : ReviewDraftData)
    (c : ReviewConfirmationResult) : Prop :=
  ∃ r ∈ s.reviews, r.status = .confirmed ∧ StoredAs ownerId itemId data r ∧
    ∃ view, draftView env r = .ok view ∧ c.reviews = [view]

theorem saveAndConfirm_wrote (hw : WellFormed env s) {c : ReviewConfirmationResult}
    (h : s.saveAndConfirm env teacher ownerId itemId data freshId now = .ok (c, s')) :
    Wrote env s' ownerId itemId data c := by
  obtain ⟨id, r, s₁, hsave, hr, hconfirm⟩ := saveAndConfirm_eq_ok.1 h
  have hstep₁ : step env s
      (.saveTeacherReviewDraft teacher itemId data.attemptId data.payload freshId now) = s₁ :=
    step_of_ok (map_snd_eq_ok.2 ⟨_, (savePayload_eq_ok.1 hsave).2⟩)
  have hw₁ : WellFormed env s₁ := hstep₁ ▸ step_wellFormed hw _
  obtain ⟨hrm, -, hrow⟩ := savePayload_row hw hsave hr
  have hstep : step env s₁ (.confirmTeacherReviews teacher [(r.id, r.revisionNumber)] now) = s' := by
    rcases confirmReviews_eq_ok.1 hconfirm with ⟨hnone, -⟩ | ⟨_, _, -, hc, -⟩
    · cases hnone
    · exact step_of_ok (map_snd_eq_ok.2 ⟨_, hc⟩)
  have hw' : WellFormed env s' := hstep ▸ step_wellFormed hw₁ _
  -- the confirmed row is the one that has been saved
  obtain ⟨x, hx, hkept⟩ := run_review_kept hw₁ hrm (.refl r)
    [.confirmTeacherReviews teacher [(r.id, r.revisionNumber)] now]
  rw [Runs.run_cons, Runs.run_nil, hstep] at hx
  have hshows := confirmReviews_shows hw' hconfirm
  obtain ⟨view, views, hview, hnil, hviews⟩ := List.forall₂_cons_left_iff.1 hshows
  rw [List.forall₂_nil_left_iff.1 hnil] at hviews
  obtain ⟨y, hy, hst, hyid, hyrev, -, hyview⟩ := hview
  have hxid : x.id = r.id := congrArg ReviewIdentity.id hkept.identity
  obtain rfl := eq_of_key_eq hw'.sound.keys.reviewIds hy hx (hyid.trans hxid.symm)
  refine ⟨y, hy, hst, ⟨?_, ?_, ?_, ?_⟩, view, hyview, hviews⟩
  · exact (congrArg ReviewIdentity.ownerId hkept.identity).trans hrow.owner
  · exact (congrArg ReviewIdentity.gradingJobItemId hkept.identity).trans hrow.item
  · exact (congrArg ReviewIdentity.gradingAttemptId hkept.identity).trans hrow.attempt
  · rw [hkept.payload hyrev]
    exact hrow.payload

theorem targetRows_some {item : GradingJobItem} {job : GradingJob} {submission : Submission}
    {rubric : RubricVersion} (h : s.targetRows ownerId itemId = some (item, job, submission, rubric)) :
    item ∈ s.items ∧ item.id = itemId ∧ item.ownerId = ownerId := by
  unfold targetRows at h
  obtain ⟨i, hi, h⟩ := Option.bind_eq_some_iff.1 h
  obtain ⟨j, -, h⟩ := Option.bind_eq_some_iff.1 h
  obtain ⟨x, -, h⟩ := Option.bind_eq_some_iff.1 h
  obtain ⟨r, -, h⟩ := Option.bind_eq_some_iff.1 h
  cases h
  have hq := List.find?_some hi
  rw [Bool.and_eq_true, beq_iff_eq, beq_iff_eq] at hq
  exact ⟨List.mem_of_find?_eq_some hi, hq⟩

theorem reviewOf_some {item : GradingJobItem} {attempt : GradingAttempt} {r : TeacherReview}
    (h : s.reviewOf ownerId item attempt = some r) :
    r ∈ s.reviews ∧ r.gradingAttemptId = attempt.id ∧ r.gradingJobItemId = item.id ∧
      r.ownerId = ownerId := by
  have hq := List.find?_some h
  simp only [Bool.and_eq_true, beq_iff_eq] at hq
  exact ⟨List.mem_of_find?_eq_some h, hq.1.1, hq.1.2, hq.2⟩

/-- The confirmed review of a completed item is the one that a read finds. -/
theorem reviewOf_completed (hw : WellFormed env s) (hg : s.Graded) {item : GradingJobItem}
    (hi : item ∈ s.items) (hst : item.status = .completed) {attempt : GradingAttempt}
    (ha : s.latestSucceeded item.id ownerId item.dispatchVersion = some attempt) :
    ∃ r, s.reviewOf ownerId item attempt = some r ∧ r.status = .confirmed := by
  obtain ⟨r, hr, hri, hrc⟩ := hg.reviewed.completed_review item hi hst
  obtain ⟨ham, hai, hao, has, hround⟩ := latestSucceeded_some ha
  obtain ⟨a, ham', haid, hai', hao', -⟩ := hw.refs.reviews r hr
  have hrounda := (hg.reviewed.confirmed_item r hr hrc item hi hri.symm).2 a ham' haid
  have heq : a = attempt := hg.rounds.succeeded_unique hw.sound.keys ham' ham
    (hg.reviewed.attempt_succeeded r hr a ham' haid) has (hai'.trans (hri.trans hai.symm))
    (hrounda.trans hround.symm)
  subst heq
  have hfound : s.reviewOf ownerId item a ≠ none := fun hnone => by
    have := List.find?_eq_none.1 hnone r hr
    simp [haid, hri, hao'.symm.trans hao] at this
  obtain ⟨x, hx⟩ := Option.ne_none_iff_exists'.1 hfound
  obtain ⟨hxm, hxa, -⟩ := reviewOf_some hx
  obtain rfl := review_eq_of_attempt hw.sound.keys hxm hr (hxa.trans haid)
  exact ⟨x, hx, hrc⟩

theorem loadTarget_eq_ok {t : LoadedTarget env}
    (h : s.loadTarget env (some ownerId) itemId = .ok (some t)) :
    ∃ item attempt, item ∈ s.items ∧ item.id = itemId ∧ item.status = t.itemStatus ∧
      s.latestSucceeded item.id ownerId item.dispatchVersion = some attempt ∧
      (s.reviewOf ownerId item attempt).mapM (draftView env) = .ok t.draft := by
  unfold loadTarget at h
  simp only at h
  split at h
  · cases h
  next item job submission rubric hrows =>
    obtain ⟨hi, hid, -⟩ := targetRows_some hrows
    split at h
    · cases h
    next attempt hattempt =>
      split at h
      · split at h
        · obtain ⟨-, -, h⟩ := bind_eq_ok.1 h
          obtain ⟨-, -, h⟩ := bind_eq_ok.1 h
          obtain ⟨draft, hdraft, h⟩ := bind_eq_ok.1 h
          obtain ⟨-, -, h⟩ := bind_eq_ok.1 h
          cases h
          exact ⟨item, attempt, hi, hid, rfl, hattempt, hdraft⟩
        · cases h
      · cases h

/-- The view was of a review of the item; the review may have changed since. -/
def Shows (env : Runtime) (s : Store) (ownerId itemId : Uuid) (view : ReviewDraftView) : Prop :=
  ∃ r, draftView env r = .ok view ∧ r.ownerId = ownerId ∧ r.gradingJobItemId = itemId ∧
    ∃ r' ∈ s.reviews, Kept r r'

/-- What a read has found. -/
structure Found (s : Store) (ownerId itemId : Uuid) (t : LoadedTarget env) : Prop where
  draft : ∀ view ∈ t.draft, Shows env s ownerId itemId view
  completed : t.itemStatus = .completed → ∃ view ∈ t.draft, view.status = .confirmed

theorem mapM_eq_ok_some {ε α β : Type} {f : α → Except ε β} {o : Option α} {b : β} :
    o.mapM f = .ok (some b) ↔ ∃ a, o = some a ∧ f a = .ok b := by
  cases o with
  | none => simp [pure, Except.pure]
  | some a =>
    cases h : f a <;> simp [h]

theorem loadTarget_found (hw : WellFormed env s) (hg : s.Graded) {t : LoadedTarget env}
    (h : s.loadTarget env (some ownerId) itemId = .ok (some t)) : Found s ownerId itemId t := by
  obtain ⟨item, attempt, hi, rfl, hstatus, hattempt, hdraft⟩ := loadTarget_eq_ok h
  refine ⟨fun view hv => ?_, fun hc => ?_⟩
  · rw [Option.mem_def.1 hv] at hdraft
    obtain ⟨r, hr, hview⟩ := mapM_eq_ok_some.1 hdraft
    obtain ⟨hrm, -, hitem, howner⟩ := reviewOf_some hr
    exact ⟨r, hview, howner, hitem, r, hrm, .refl r⟩
  · obtain ⟨r, hr, hrc⟩ := reviewOf_completed hw hg hi (hstatus.trans hc) hattempt
    rw [hr] at hdraft
    cases hview : draftView env r with
    | error e => simp [hview] at hdraft
    | ok view =>
      have hsome : t.draft = some view := by simpa [hview, eq_comm] using hdraft
      refine ⟨view, hsome, ?_⟩
      rw [(draftView_eq_ok.1 hview).2]
      exact hrc

/-- What an answer says of the tables, then and at any later time. -/
def Lasting (env : Runtime) (s : Store) : (q : ReviewQuery) × q.Answer env → Prop
  | ⟨.getTarget ownerId itemId, .ok (some t)⟩ => Found s ownerId itemId t
  | ⟨.loadTarget ownerId itemId, .ok (some t)⟩ => Found s ownerId itemId t
  | ⟨.saveDraft ownerId itemId data, .ok view⟩ => ∃ r, draftView env r = .ok view ∧
      StoredAs ownerId itemId data r ∧ ∃ r' ∈ s.reviews, Kept r r'
  | ⟨.saveAndConfirm ownerId itemId data, .ok c⟩ => Wrote env s ownerId itemId data c
  | ⟨.confirmReviews ownerId refs, .ok (some c)⟩ =>
      List.Forall₂ (ShowsConfirmed env s ownerId) refs c.reviews
  | _ => True

/-- **What an answer says stays true.** -/
theorem lasting_run (hw : WellFormed env s) {x : (q : ReviewQuery) × q.Answer env}
    (h : Lasting env s x) (as : List (Action env)) : Lasting env (Runs.run (step env) s as) x := by
  have hkept {r : TeacherReview} (hr : ∃ r' ∈ s.reviews, Kept r r') :
      ∃ r' ∈ (Runs.run (step env) s as).reviews, Kept r r' := by
    obtain ⟨r', hr', hk⟩ := hr
    exact run_review_kept hw hr' hk as
  have hfound {ownerId itemId : Uuid} {t : LoadedTarget env} (hf : Found s ownerId itemId t) :
      Found (Runs.run (step env) s as) ownerId itemId t := by
    refine ⟨fun view hv => ?_, hf.completed⟩
    obtain ⟨r, hview, howner, hitem, hr⟩ := hf.draft view hv
    exact ⟨r, hview, howner, hitem, hkept hr⟩
  have hfinal := (run_final hw as).2.2
  obtain ⟨q, a⟩ := x
  cases q with
  | getTarget ownerId itemId | loadTarget ownerId itemId =>
    match a, h with
    | .error _, _ => trivial
    | .ok none, _ => trivial
    | .ok (some t), h => exact hfound h
  | getJson => trivial
  | saveDraft ownerId itemId data =>
    match a, h with
    | .error _, _ => trivial
    | .ok view, ⟨r, hview, hrow, hr⟩ => exact ⟨r, hview, hrow, hkept hr⟩
  | saveAndConfirm ownerId itemId data =>
    match a, h with
    | .error _, _ => trivial
    | .ok c, ⟨r, hr, hst, hrow⟩ => exact ⟨r, hfinal r hr hst, hst, hrow⟩
  | confirmReviews ownerId refs =>
    match a, h with
    | .error _, _ => trivial
    | .ok none, _ => trivial
    | .ok (some c), h =>
      refine List.Forall₂.imp ?_ h
      rintro ref view ⟨r, hr, hst, hrest⟩
      exact ⟨r, hfinal r hr hst, hst, hrest⟩

/-- An answer says what is true. -/
theorem answerReview_lasting (hw : WellFormed env s) (hg : s.Graded) (input : ReviewTurnInput)
    (q : ReviewQuery) : Lasting env (answerReview env input q s).2 ⟨q, (answerReview env input q s).1⟩ := by
  have hw' : WellFormed env (answerReview env input q s).2 := by
    obtain ⟨as, has⟩ := @answerReview_run env input q s
    rw [has]
    exact (run_invariant (P := fun _ => True) (fun _ _ _ _ _ => trivial) hw trivial as).1
  have htarget (ownerId itemId : Uuid) (t : LoadedTarget env)
      (h : s.loadTarget env (input.teacher ownerId) itemId = .ok (some t)) : Found s ownerId itemId t := by
    unfold ReviewTurnInput.teacher at h
    split at h
    · exact loadTarget_found hw hg h
    · cases h
  cases q with
  | getTarget ownerId itemId | loadTarget ownerId itemId =>
    simp only [answerReview]
    match h : s.loadTarget env (input.teacher ownerId) itemId with
    | .error _ => trivial
    | .ok none => trivial
    | .ok (some t) => exact htarget ownerId itemId t h
  | getJson => trivial
  | saveDraft ownerId itemId data =>
    simp only [answerReview] at hw' ⊢
    match h : s.saveReviewDraft env (input.teacher ownerId) ownerId itemId data input.freshId input.now with
    | .error _ => trivial
    | .ok (view, s') =>
      obtain ⟨id, r, hsave, hr, hview⟩ := saveReviewDraft_eq_ok.1 h
      obtain ⟨hrm, -, hrow⟩ := savePayload_row hw hsave hr
      exact ⟨r, hview, hrow, r, hrm, .refl r⟩
  | saveAndConfirm ownerId itemId data =>
    simp only [answerReview] at hw' ⊢
    match h : s.saveAndConfirm env (input.teacher ownerId) ownerId itemId data input.freshId input.now with
    | .error _ => trivial
    | .ok (c, s') => exact saveAndConfirm_wrote hw h
  | confirmReviews ownerId refs =>
    simp only [answerReview] at hw' ⊢
    match h : s.confirmReviews env (input.teacher ownerId) ownerId refs input.now with
    | .error _ => trivial
    | .ok (none, s') => trivial
    | .ok (some c, s') =>
      rw [h] at hw'
      exact confirmReviews_shows hw' h

/-- The tables are reachable, and what the answers have said of them holds. -/
theorem reviews_sound : Pool.Sound (Contract.ofAnswers ReviewQuery (ReviewQuery.Answer env))
    (answerReview env) (fun action s => step env s action) (fun s => ∃ as, s = after env as)
    (Lasting env) where
  kept input q s _ hs _ _ := by
    obtain ⟨as, rfl⟩ := hs
    obtain ⟨bs, hbs⟩ := @answerReview_run env input q (after env as)
    exact ⟨as ++ bs, by rw [hbs, after, after, Runs.run_append]⟩
  learns input q s f hs hf := by
    obtain ⟨as, rfl⟩ := hs
    subst hf
    exact answerReview_lasting (after_wellFormed as) (after_graded as) input q
  stable input q s f hs hf := by
    obtain ⟨as, rfl⟩ := hs
    obtain ⟨bs, hbs⟩ := @answerReview_run env input q (after env as)
    rw [hbs]
    exact lasting_run (after_wellFormed as) hf bs
  outside_kept action s hs := by
    obtain ⟨as, rfl⟩ := hs
    exact ⟨as ++ [action], by rw [after, after, Runs.run_append]; rfl⟩
  outside_stable action s f hs hf := by
    obtain ⟨as, rfl⟩ := hs
    exact lasting_run (after_wellFormed as) hf [action]

end Store

/-! ## What a result rests on -/

namespace ReviewService

variable {env : Runtime} {ownerId jobId itemId : Uuid} {payload : ReviewDraftInput}
  {known : (q : ReviewQuery) × q.Answer env → Prop}

/-- The request has read `t`, and the draft passes the checks against it. -/
def Validated (known : (q : ReviewQuery) × q.Answer env → Prop) (ownerId itemId : Uuid)
    (payload : ReviewDraftInput) (requireEditable : Bool) (t : LoadedTarget env)
    (data : ReviewDraftData) : Prop :=
  known ⟨.getTarget ownerId itemId, .ok (some t)⟩ ∧
    ∃ parsed, validatePayload env t.toReviewTarget parsed payload requireEditable = .ok data

def Saves (ownerId itemId : Uuid) (payload : ReviewDraftInput)
    (known : (q : ReviewQuery) × q.Answer env → Prop) : Except ReviewFailure ReviewResult → Prop
  | .ok (.saved view) => ∃ t data, Validated known ownerId itemId payload true t data ∧
      known ⟨.saveDraft ownerId itemId data, .ok view⟩
  | .ok (.confirmed _) => False
  | .error _ => True

/-- The review is the request's own, or the repository has found the item completed. -/
def Confirms (ownerId itemId : Uuid) (payload : ReviewDraftInput)
    (known : (q : ReviewQuery) × q.Answer env → Prop) : Except ReviewFailure ReviewResult → Prop
  | .ok (.confirmed c) => ∃ t data, Validated known ownerId itemId payload false t data ∧
      (t.itemStatus = .completed →
        ∃ view ∈ t.draft, view.status = .confirmed ∧ view.matches data = true) ∧
      (known ⟨.saveAndConfirm ownerId itemId data, .ok c⟩ ∨
        ∃ t' view, known ⟨.loadTarget ownerId itemId, .ok (some t')⟩ ∧ t'.itemStatus = .completed ∧
          view ∈ t'.draft ∧
          known ⟨.confirmReviews ownerId [(view.id, view.revisionNumber)], .ok (some c)⟩)
  | .ok (.saved _) => False
  | .error _ => True

/-- The draft that a reference names has been read and checked. -/
def Checked (known : (q : ReviewQuery) × q.Answer env → Prop) (ownerId : Uuid)
    (reference : ReviewConfirmationRef) : Prop :=
  ∃ t seen payload data, Validated known ownerId reference.itemId payload false t data ∧
    seen ∈ t.draft ∧ seen.id = reference.reviewId ∧ seen.revisionNumber = reference.revisionNumber ∧
    seen.toReviewDraftInput.parse env = some payload ∧ seen.matches data = true

def ConfirmsBatch (ownerId : Uuid) (reviews : List ReviewConfirmationRef)
    (known : (q : ReviewQuery) × q.Answer env → Prop) : Except ReviewFailure ReviewResult → Prop
  | .ok (.confirmed c) => (∀ reference ∈ reviews, Checked known ownerId reference) ∧
      known ⟨.confirmReviews ownerId (reviews.map fun r => (r.reviewId, r.revisionNumber)), .ok (some c)⟩
  | .ok (.saved _) => False
  | .error _ => True

theorem Checked.mono {known' : (q : ReviewQuery) × q.Answer env → Prop} (h : ∀ x, known x → known' x)
    {reference : ReviewConfirmationRef} (hc : Checked known ownerId reference) :
    Checked known' ownerId reference := by
  obtain ⟨t, seen, payload, data, ⟨hread, hvalid⟩, hrest⟩ := hc
  exact ⟨t, seen, payload, data, ⟨h _ hread, hvalid⟩, hrest⟩

/-- A request keeps this contract: it stores only what it was asked to store, once that has passed the
checks against the item as it has read it. -/
abbrev contract (request : ReviewRequest env) :
    Contract ReviewQuery (ReviewQuery.Answer env) ((q : ReviewQuery) × q.Answer env) where
  may known
    | .saveDraft ownerId itemId data =>
      ∃ job payload t, request = .saveDraft ownerId itemId job payload ∧
        Validated known ownerId itemId payload.1 true t data
    | .saveAndConfirm ownerId itemId data =>
      ∃ jobId payload t, request = .confirm ownerId jobId itemId payload ∧
        Validated known ownerId itemId payload.1 false t data
    | _ => True
  learned q a f := f = ⟨q, a⟩

theorem learned_contract (request : ReviewRequest env) (heard : List ((q : ReviewQuery) × q.Answer env)) :
    (contract request).Learned heard = (· ∈ heard) := by
  ext x
  exact Contract.learned_ofAnswers

section

variable {request : ReviewRequest env}
  {post : ((q : ReviewQuery) × q.Answer env → Prop) → Except ReviewFailure ReviewResult → Prop}

theorem loadTarget_keeps (hfail : ∀ known e, post known (.error e)) {job : Option Uuid}
    {next : LoadedTarget env → ParsedDocument → ReviewDialogue env}
    (hnext : ∀ known' t parsed, (∀ x, known x → known' x) →
      known' ⟨.getTarget ownerId itemId, .ok (some t)⟩ →
        (contract request).Keeps post known' (next t parsed)) :
    (contract request).Keeps post known (loadTarget ownerId itemId job next) := by
  refine ⟨trivial, fun answer => ?_⟩
  match answer with
  | .error e => exact hfail _ e
  | .ok none => exact hfail _ _
  | .ok (some t) =>
    simp only
    split
    · exact hfail _ _
    split
    · exact hfail _ _
    split
    · refine ⟨trivial, fun document => ?_⟩
      match document with
      | .error e => exact hfail _ e
      | .ok parsed =>
        refine hnext _ t parsed (fun x hx => .inl (.inl hx)) ?_
        exact .inl (.inr rfl)
    · exact hfail _ _

theorem confirmed_keeps (hfail : ∀ known e, post known (.error e)) {message : String}
    {answer : Except ReviewFailure (Option ReviewConfirmationResult)}
    (hok : ∀ c, answer = .ok (some c) → post known (.ok (.confirmed c))) :
    (contract request).Keeps post known (confirmed message answer) := by
  match answer with
  | .error e => exact hfail _ e
  | .ok none => exact hfail _ _
  | .ok (some c) => exact hok c rfl

theorem checkReferences_keeps (hfail : ∀ known e, post known (.error e)) {next : ReviewDialogue env}
    {reviews : List ReviewConfirmationRef}
    (hnext : ∀ known', (∀ x, known x → known' x) →
      (∀ reference ∈ reviews, Checked known' ownerId reference) → (contract request).Keeps post known' next) :
    (contract request).Keeps post known (checkReferences ownerId jobId next reviews) := by
  induction reviews generalizing known with
  | nil => exact hnext known (fun _ hx => hx) (by simp)
  | cons reference rest ih =>
    refine loadTarget_keeps hfail fun known' t parsed hmono hread => ?_
    split
    · exact hfail _ _
    next seen hseen =>
      split
      · exact hfail _ _
      next href =>
        rw [not_or, not_not, not_not] at href
        split
        · exact hfail _ _
        next payload hparse =>
          split
          · exact hfail _ _
          next data hvalid =>
            generalize hmatches : seen.matches data = matched
            cases matched with
            | false => exact hfail _ _
            | true =>
              have hchecked : Checked known' ownerId reference :=
                ⟨t, seen, payload, data, ⟨hread, parsed, hvalid⟩, hseen, href.1, href.2, hparse, hmatches⟩
              refine ih fun known'' hmono' hrest => hnext known'' (fun x hx => hmono' x (hmono x hx)) ?_
              intro r hr
              rcases List.mem_cons.1 hr with rfl | hr
              · exact hchecked.mono hmono'
              · exact hrest r hr

theorem recheckReferences_keeps (hfail : ∀ known e, post known (.error e)) {next : ReviewDialogue env}
    {reviews : List ReviewConfirmationRef}
    (hnext : ∀ known', (∀ x, known x → known' x) → (contract request).Keeps post known' next) :
    (contract request).Keeps post known (recheckReferences ownerId jobId next reviews) := by
  induction reviews generalizing known with
  | nil => exact hnext known fun _ hx => hx
  | cons reference rest ih =>
    refine ⟨trivial, fun answer => ?_⟩
    match answer with
    | .error e => exact hfail _ e
    | .ok none => exact hfail _ _
    | .ok (some t) =>
      simp only
      split
      · exact ih fun known' hmono => hnext known' fun x hx => hmono x (.inl hx)
      · exact hfail _ _

end

theorem saveDraft_keeps (payload : AcceptedDraft env) (job : Option Uuid) :
    (contract (.saveDraft ownerId itemId job payload)).Keeps (Saves ownerId itemId payload.1) known
      (saveDraft ownerId itemId job payload.1) := by
  refine loadTarget_keeps (fun _ _ => trivial) fun known' t parsed hmono hread => ?_
  split
  · exact trivial
  next data hvalid =>
    refine ⟨⟨job, payload, t, rfl, hread, parsed, hvalid⟩, fun answer => ?_⟩
    match answer with
    | .error e => exact trivial
    | .ok view => exact ⟨t, data, ⟨.inl hread, parsed, hvalid⟩, .inr rfl⟩

theorem confirm_keeps (payload : AcceptedDraft env) :
    (contract (.confirm ownerId jobId itemId payload)).Keeps (Confirms ownerId itemId payload.1) known
      (confirm ownerId jobId itemId payload.1) := by
  refine loadTarget_keeps (fun _ _ => trivial) fun known' t parsed hmono hread => ?_
  split
  · exact trivial
  next data hvalid =>
    split
    · exact trivial
    next hseen =>
      have hmatched (hc : t.itemStatus = .completed) :
          ∃ view ∈ t.draft, view.status = .confirmed ∧ view.matches data = true := by
        by_contra hne
        refine hseen ⟨hc, fun hany => hne ?_⟩
        obtain ⟨view, hview, hboth⟩ := (Option.any_eq_true _ _).1 hany
        rw [Bool.and_eq_true, beq_iff_eq] at hboth
        exact ⟨view, hview, hboth⟩
      refine ⟨trivial, fun answer => ?_⟩
      match answer with
      | .error e => exact trivial
      | .ok none => exact trivial
      | .ok (some t') =>
        simp only
        split
        · exact trivial
        split
        next view hstatus hdraft =>
          -- the shortcut of the repository
          refine ⟨trivial, fun answer => confirmed_keeps (fun _ _ => trivial) fun c hc => ?_⟩
          subst hc
          refine ⟨t, data, ⟨.inl (.inl hread), parsed, hvalid⟩, hmatched, .inr ?_⟩
          exact ⟨t', view, .inl (.inr rfl), hstatus, hdraft, .inr rfl⟩
        · refine ⟨⟨jobId, payload, t, rfl, .inl hread, parsed, hvalid⟩, fun answer => ?_⟩
          match answer with
          | .error e => exact trivial
          | .ok c =>
            exact ⟨t, data, ⟨.inl (.inl hread), parsed, hvalid⟩, hmatched, .inl (.inr rfl)⟩

theorem confirmBatch_keeps (reviews : List ReviewConfirmationRef) :
    (contract (.confirmBatch ownerId jobId reviews)).Keeps (ConfirmsBatch ownerId reviews) known
      (confirmBatch ownerId jobId reviews) := by
  unfold confirmBatch
  split
  · exact trivial
  refine checkReferences_keeps (fun _ _ => trivial) fun known' hmono hchecked => ?_
  refine recheckReferences_keeps (fun _ _ => trivial) fun known'' hmono' => ?_
  refine ⟨trivial, fun answer => confirmed_keeps (fun _ _ => trivial) fun c hc => ?_⟩
  subst hc
  exact ⟨fun reference hr => (hchecked reference hr).mono fun x hx => .inl (hmono' x hx), .inr rfl⟩

end ReviewService

/-- What the result of a request rests on. -/
def ReviewRequest.Rests {env : Runtime} : ReviewRequest env →
    ((q : ReviewQuery) × q.Answer env → Prop) → Except ReviewFailure ReviewResult → Prop
  | .saveDraft ownerId itemId _ payload => ReviewService.Saves ownerId itemId payload.1
  | .confirm ownerId _ itemId payload => ReviewService.Confirms ownerId itemId payload.1
  | .confirmBatch ownerId _ reviews => ReviewService.ConfirmsBatch ownerId reviews

theorem ReviewRequest.keeps {env : Runtime} (request : ReviewRequest env) :
    (ReviewService.contract request).Keeps request.Rests (fun _ => False) request.dialogue := by
  cases request with
  | saveDraft ownerId itemId job payload => exact ReviewService.saveDraft_keeps payload job
  | confirm ownerId jobId itemId payload => exact ReviewService.confirm_keeps payload
  | confirmBatch ownerId jobId reviews => exact ReviewService.confirmBatch_keeps reviews

theorem ReviewRequest.keeps_answers {env : Runtime} (request : ReviewRequest env) :
    (Contract.ofAnswers ReviewQuery (ReviewQuery.Answer env)).Keeps request.Rests (fun _ => False)
      request.dialogue := by
  refine Contract.Keeps.weaken ?_ ?_ request.keeps
  · rfl
  · exact fun _ _ _ => trivial

/-! ## Every run -/

/-- The confirmed review of an item, as its owner sees it. -/
def Store.ConfirmedReview (env : Runtime) (s : Store) (ownerId itemId : Uuid) (view : ReviewDraftView) :
    Prop :=
  ∃ r ∈ s.reviews, r.status = .confirmed ∧ r.ownerId = ownerId ∧ r.gradingJobItemId = itemId ∧
    draftView env r = .ok view

theorem Store.ConfirmedReview.unique {env : Runtime} {s : Store} (hk : s.Keys) {itemId : Uuid}
    {ownerId ownerId' : Uuid} {view view' : ReviewDraftView} (h : s.ConfirmedReview env ownerId itemId view)
    (h' : s.ConfirmedReview env ownerId' itemId view') : view = view' := by
  obtain ⟨r, hr, hst, -, hitem, hview⟩ := h
  obtain ⟨x, hx, hst', -, hitem', hview'⟩ := h'
  have heq : r = x := by
    refine eq_of_conflict hk.reviews hr hx ?_ ?_ <;> simp [reviewConflict, hst, hst', hitem, hitem']
  subst heq
  rw [hview] at hview'
  exact Except.ok.inj hview'

/-- A confirmed draft that has been read is still the confirmed review. -/
theorem Store.Shows.confirmed {env : Runtime} {s : Store} {ownerId itemId : Uuid}
    {view : ReviewDraftView} (h : s.Shows env ownerId itemId view) (hst : view.status = .confirmed) :
    s.ConfirmedReview env ownerId itemId view := by
  obtain ⟨r, hview, howner, hitem, r', hr', hkept⟩ := h
  have hrst : r.status = .confirmed := by
    rw [(draftView_eq_ok.1 hview).2] at hst
    exact hst
  obtain rfl := hkept.final hrst
  exact ⟨r', hr', hrst, howner, hitem, hview⟩

/-- What is confirmed at the revision of a draft that has been read is this draft. -/
theorem Store.Shows.at_revision {env : Runtime} {s : Store} (hk : s.Keys) {ownerId itemId : Uuid}
    {seen view : ReviewDraftView} (h : s.Shows env ownerId itemId seen)
    (hc : s.ShowsConfirmed env ownerId (seen.id, seen.revisionNumber) view) :
    s.ConfirmedReview env ownerId itemId view ∧
      view = { seen with status := .confirmed, confirmedAt := view.confirmedAt } := by
  obtain ⟨r, hseen, howner, hitem, r', hr', hkept⟩ := h
  obtain ⟨x, hx, hst, hid, hrev, -, hview⟩ := hc
  obtain ⟨-, rfl⟩ := draftView_eq_ok.1 hseen
  have hrid : r'.id = r.id := congrArg ReviewIdentity.id hkept.identity
  obtain rfl := eq_of_key_eq hk.reviewIds hx hr' (hid.trans hrid.symm)
  refine ⟨⟨x, hx, hst, ?_, ?_, hview⟩, ?_⟩
  · exact (congrArg ReviewIdentity.ownerId hkept.identity).trans howner
  · exact (congrArg ReviewIdentity.gradingJobItemId hkept.identity).trans hitem
  · rw [(draftView_eq_ok.1 hview).2, view_of_kept hkept hrev, hst]

namespace ReviewPool

variable {env : Runtime}

/-- Request `k` has ended with this result. -/
def Returned (w : ReviewPool env) (k : Nat) (result : ReviewResult) : Prop :=
  w.dialogues k = .done (.ok result)

/-- Before anything the requests have heard nothing and keep their contracts. -/
theorem start_upheld (requests : Nat → ReviewRequest env) :
    Pool.Upheld (Contract.ofAnswers ReviewQuery (ReviewQuery.Answer env)) (fun k => (requests k).Rests)
      (fun s => ∃ as, s = Store.after env as) (Store.Lasting env) (fun _ => []) (start requests) :=
  Pool.upheld_start ⟨[], rfl⟩ fun k => (requests k).keeps_answers

section Run

variable {requests : Nat → ReviewRequest env} {turns : List (ReviewTurn env)} {k : Nat}

/-- What the requests have been answered holds of the tables and justifies their results. -/
theorem after_upheld (requests : Nat → ReviewRequest env) (turns : List (ReviewTurn env)) :
    Pool.Upheld (Contract.ofAnswers ReviewQuery (ReviewQuery.Answer env)) (fun k => (requests k).Rests)
      (fun s => ∃ as, s = Store.after env as) (Store.Lasting env) (heard requests turns)
      (after requests turns) :=
  Pool.run_upheld Store.reviews_sound (start_upheld requests) turns

theorem after_keys (requests : Nat → ReviewRequest env) (turns : List (ReviewTurn env)) :
    (after requests turns).state.Keys := by
  obtain ⟨as, has⟩ := (after_upheld requests turns).inv
  rw [has]
  exact (Store.after_wellFormed as).sound.keys

/-- An answer that has been heard still holds. -/
theorem lasting_of_heard {x : (q : ReviewQuery) × q.Answer env} (hx : x ∈ heard requests turns k) :
    Store.Lasting env (after requests turns).state x :=
  (after_upheld requests turns).true_of_learned k x (Contract.learned_ofAnswers.2 hx)

theorem Returned.rests {result : ReviewResult} (hr : Returned (after requests turns) k result) :
    (requests k).Rests (· ∈ heard requests turns k) (.ok result) := by
  rw [← ReviewService.learned_contract (requests k)]
  exact (after_upheld requests turns).result hr

theorem Returned.saves {ownerId itemId : Uuid} {job : Option Uuid} {payload : AcceptedDraft env}
    {view : ReviewDraftView} (hreq : requests k = .saveDraft ownerId itemId job payload)
    (hr : Returned (after requests turns) k (.saved view)) :
    ∃ t parsed data, ⟨.getTarget ownerId itemId, .ok (some t)⟩ ∈ heard requests turns k ∧
      validatePayload env t.toReviewTarget parsed payload.1 true = .ok data ∧ view.matches data = true ∧
      (after requests turns).state.Shows env ownerId itemId view := by
  have hrest := hr.rests
  rw [hreq] at hrest
  obtain ⟨t, data, ⟨hread, parsed, hvalid⟩, hanswer⟩ := hrest
  obtain ⟨r, hview, hrow, hkept⟩ := lasting_of_heard hanswer
  refine ⟨t, parsed, data, hread, hvalid, ?_, r, hview, hrow.owner, hrow.item, hkept⟩
  obtain ⟨form, hparse⟩ := payload.2
  rw [(draftView_eq_ok.1 hview).2]
  exact view_matches_of_validated hrow hvalid hparse

/-- What the shortcut of the repository returns is the confirmed review. -/
theorem shortcut_confirms {ownerId itemId : Uuid} {t : LoadedTarget env} {view : ReviewDraftView}
    {c : ReviewConfirmationResult}
    (hread : ⟨.loadTarget ownerId itemId, .ok (some t)⟩ ∈ heard requests turns k)
    (hst : t.itemStatus = .completed) (hview : t.draft = some view)
    (hanswer : ⟨.confirmReviews ownerId [(view.id, view.revisionNumber)], .ok (some c)⟩ ∈
      heard requests turns k) :
    c.reviews = [view] ∧ (after requests turns).state.ConfirmedReview env ownerId itemId view := by
  have hk := after_keys requests turns
  have hfound : Store.Found _ ownerId itemId t := lasting_of_heard hread
  obtain ⟨view', hview', hconfirmed⟩ := hfound.completed hst
  obtain rfl : view' = view := Option.some.inj (hview'.symm.trans hview)
  have hshows := hfound.draft view' hview
  have hanswered := lasting_of_heard hanswer
  obtain ⟨shown, rest, hshown, hnil, hviews⟩ := List.forall₂_cons_left_iff.1 hanswered
  rw [List.forall₂_nil_left_iff.1 hnil] at hviews
  have hown := hshows.confirmed hconfirmed
  obtain rfl := (hshows.at_revision hk hshown).1.unique hk hown
  exact ⟨hviews, hown⟩

theorem Returned.confirms {ownerId jobId itemId : Uuid} {payload : AcceptedDraft env}
    {c : ReviewConfirmationResult} (hreq : requests k = .confirm ownerId jobId itemId payload)
    (hr : Returned (after requests turns) k (.confirmed c)) :
    ∃ t parsed data view, ⟨.getTarget ownerId itemId, .ok (some t)⟩ ∈ heard requests turns k ∧
      validatePayload env t.toReviewTarget parsed payload.1 false = .ok data ∧ c.reviews = [view] ∧
      (after requests turns).state.ConfirmedReview env ownerId itemId view ∧
      (view.matches data = true ∨ t.itemStatus = .needsReview ∧
        ∃ t', ⟨.loadTarget ownerId itemId, .ok (some t')⟩ ∈ heard requests turns k ∧
          t'.itemStatus = .completed ∧ t'.draft = some view) := by
  have hrest := hr.rests
  rw [hreq] at hrest
  obtain ⟨t, data, ⟨hread, parsed, hvalid⟩, hmatched, hwrote | ⟨t', view, hread', hst, hview, hanswer⟩⟩ :=
    hrest
  · obtain ⟨r, hrm, hst, hrow, view, hview, hviews⟩ := lasting_of_heard hwrote
    refine ⟨t, parsed, data, view, hread, hvalid, hviews, ⟨r, hrm, hst, hrow.owner, hrow.item, hview⟩,
      .inl ?_⟩
    obtain ⟨form, hparse⟩ := payload.2
    rw [(draftView_eq_ok.1 hview).2]
    exact view_matches_of_validated hrow hvalid hparse
  · -- the repository has found the item completed
    obtain ⟨hviews, hown⟩ := shortcut_confirms hread' hst hview hanswer
    refine ⟨t, parsed, data, view, hread, hvalid, hviews, hown, ?_⟩
    cases hstatus : t.itemStatus with
    | needsReview => exact .inr ⟨rfl, t', hread', hst, hview⟩
    | completed =>
      obtain ⟨seen, hseen, hsst, hmatches⟩ := hmatched hstatus
      have hfound : Store.Found _ ownerId itemId t := lasting_of_heard hread
      have hsame := ((hfound.draft seen hseen).confirmed hsst).unique (after_keys requests turns) hown
      exact .inl (hsame ▸ hmatches)
    | _ =>
      have hopen := (validatePayload_eq_ok.1 hvalid).1.1
      simp [hstatus] at hopen

theorem Returned.confirmsBatch {ownerId jobId : Uuid} {reviews : List ReviewConfirmationRef}
    {c : ReviewConfirmationResult} (hreq : requests k = .confirmBatch ownerId jobId reviews)
    (hr : Returned (after requests turns) k (.confirmed c)) :
    List.Forall₂ (fun reference view => ∃ t seen parsed payload data,
      ⟨.getTarget ownerId reference.itemId, .ok (some t)⟩ ∈ heard requests turns k ∧ t.draft = some seen ∧
      seen.toReviewDraftInput.parse env = some payload ∧
      validatePayload env t.toReviewTarget parsed payload false = .ok data ∧ seen.matches data = true ∧
      view = { seen with status := .confirmed, confirmedAt := view.confirmedAt } ∧
      (after requests turns).state.ConfirmedReview env ownerId reference.itemId view) reviews
      c.reviews := by
  have hrest := hr.rests
  rw [hreq] at hrest
  obtain ⟨hchecked, hanswer⟩ := hrest
  have hanswered := List.forall₂_map_left_iff.1 (lasting_of_heard hanswer)
  refine ((List.forall₂_and_left reviews c.reviews).2 ⟨hchecked, hanswered⟩).imp ?_
  rintro reference view ⟨⟨t, seen, payload, data, ⟨hread, parsed, hvalid⟩, hseen, hid, hrev, hparse,
    hmatches⟩, hshown⟩
  have hfound : Store.Found _ ownerId reference.itemId t := lasting_of_heard hread
  rw [← hid, ← hrev] at hshown
  obtain ⟨hown, hsame⟩ := (hfound.draft seen hseen).at_revision (after_keys requests turns) hshown
  exact ⟨t, seen, parsed, payload, data, hread, hseen, hparse, hvalid, hmatches, hsame, hown⟩

end Run

/-- What the successful requests of a run have been told is so. -/
structure Honoured (requests : Nat → ReviewRequest env) (turns : List (ReviewTurn env)) : Prop where
  /-- a saved draft is what the request has submitted -/
  saved : ∀ k ownerId itemId job payload view, requests k = .saveDraft ownerId itemId job payload →
    Returned (after requests turns) k (.saved view) →
    ∃ t parsed data, ⟨.getTarget ownerId itemId, .ok (some t)⟩ ∈ heard requests turns k ∧
      validatePayload env t.toReviewTarget parsed payload.1 true = .ok data ∧ view.matches data = true ∧
      (after requests turns).state.Shows env ownerId itemId view
  /-- a confirmed review is what the request has submitted, unless the item was completed between the
  two reads of the request -/
  confirmed : ∀ k ownerId jobId itemId payload c, requests k = .confirm ownerId jobId itemId payload →
    Returned (after requests turns) k (.confirmed c) →
    ∃ t parsed data view, ⟨.getTarget ownerId itemId, .ok (some t)⟩ ∈ heard requests turns k ∧
      validatePayload env t.toReviewTarget parsed payload.1 false = .ok data ∧ c.reviews = [view] ∧
      (after requests turns).state.ConfirmedReview env ownerId itemId view ∧
      (view.matches data = true ∨ t.itemStatus = .needsReview ∧
        ∃ t', ⟨.loadTarget ownerId itemId, .ok (some t')⟩ ∈ heard requests turns k ∧
          t'.itemStatus = .completed ∧ t'.draft = some view)
  /-- all of them return one review -/
  agreed : ∀ k k' ownerId ownerId' jobId jobId' itemId payload payload' c c',
    requests k = .confirm ownerId jobId itemId payload →
    requests k' = .confirm ownerId' jobId' itemId payload' →
    Returned (after requests turns) k (.confirmed c) → Returned (after requests turns) k' (.confirmed c') →
    c.reviews = c'.reviews
  /-- a confirmed batch is, draft by draft, what the request has read and checked -/
  batch : ∀ k ownerId jobId reviews c, requests k = .confirmBatch ownerId jobId reviews →
    Returned (after requests turns) k (.confirmed c) →
    List.Forall₂ (fun reference view => ∃ t seen parsed payload data,
      ⟨.getTarget ownerId reference.itemId, .ok (some t)⟩ ∈ heard requests turns k ∧ t.draft = some seen ∧
      seen.toReviewDraftInput.parse env = some payload ∧
      validatePayload env t.toReviewTarget parsed payload false = .ok data ∧ seen.matches data = true ∧
      view = { seen with status := .confirmed, confirmedAt := view.confirmedAt } ∧
      (after requests turns).state.ConfirmedReview env ownerId reference.itemId view) reviews c.reviews

/-- **The review requests keep their word**, in any order of their steps and of all other
transactions. -/
theorem after_honoured (requests : Nat → ReviewRequest env) (turns : List (ReviewTurn env)) :
    Honoured requests turns := by
  refine ⟨fun k ownerId itemId job payload view hreq hr => hr.saves hreq,
    fun k ownerId jobId itemId payload c hreq hr => hr.confirms hreq, ?_,
    fun k ownerId jobId reviews c hreq hr => hr.confirmsBatch hreq⟩
  intro k k' ownerId ownerId' jobId jobId' itemId payload payload' c c' hreq hreq' hr hr'
  obtain ⟨-, -, -, view, -, -, hviews, hown, -⟩ := hr.confirms hreq
  obtain ⟨-, -, -, view', -, -, hviews', hown', -⟩ := hr'.confirms hreq'
  rw [hviews, hviews', hown.unique (after_keys requests turns) hown']

end ReviewPool

end PaperGrading
