import PaperGrading.Export.Effects
import PaperGrading.Store.ConfirmDraft
import PaperGrading.Store.Pause
import Mathlib.Data.List.Range
import Mathlib.Data.List.Perm.Subperm

/-!
# What an export holds

`Frozen g e rows` says what the rows of an export should be, in terms of the grading store
`g` they were taken from: every item of the batch once, in order of its position, each with
the last success of its current round, as the teacher left it.

    an export that is returned is the one of its request; it was frozen so when the first
    request of its key was answered, and nothing that happens later changes its rows or makes
    a second export of its key                                              (after_createExport)
-/

namespace PaperGrading

open Table

/-! ## Definitions -/

/-- How a row of an export shows an item and an attempt of it. -/
structure ShowsItem (g : Store) (exportType : ExportType) (item : GradingJobItem)
    (attempt : GradingAttempt) (row : FrozenItem) : Prop where
  item_eq : row.gradingJobItemId = item.id ∧ row.submissionId = item.submissionId ∧
    row.position = item.position
  attempt_eq : row.gradingAttemptId = attempt.id ∧ attempt.gradingJobItemId = item.id ∧
    attempt.status = .succeeded ∧ attempt.scoringRound = item.dispatchVersion
  last : ∀ a ∈ g.attempts, a.gradingJobItemId = item.id → a.status = .succeeded →
    a.scoringRound = item.dispatchVersion → a.attemptNumber ≤ attempt.attemptNumber
  source : row.sourceType = .teacherConfirmed ↔
    ∃ r ∈ g.reviews, r.gradingAttemptId = attempt.id ∧ r.status = .confirmed
  confirmed : ∀ r ∈ g.reviews, r.gradingAttemptId = attempt.id → r.status = .confirmed →
    item.status = .completed ∧ row.resultSnapshot = frozenReview item attempt r ∧
      row.teacherReviewId = some r.id ∧ row.reviewRevision = some r.revisionNumber
  draft : ∀ r ∈ g.reviews, r.gradingAttemptId = attempt.id → r.status = .draft →
    exportType = .draft ∧ row.sourceType = .teacherDraft ∧
      row.resultSnapshot = frozenReview item attempt r ∧
      row.teacherReviewId = some r.id ∧ row.reviewRevision = some r.revisionNumber
  suggestion : (∀ r ∈ g.reviews, r.gradingAttemptId ≠ attempt.id) →
    exportType = .draft ∧ row.sourceType = .aiSuggestion ∧
      frozenSuggestion item attempt = some row.resultSnapshot
  final : exportType = .final → item.status = .completed ∧ row.sourceType = .teacherConfirmed

/-- What the rows of an export should be. -/
structure Frozen (g : Store) (e : ExportIdentity) (rows : List FrozenItem) : Prop where
  job : ∃ job ∈ g.jobs, job.id = e.gradingJobId ∧ job.ownerId = e.ownerId ∧
    rows.length = job.expectedItemCount
  positions : rows.map (·.position) = List.range rows.length
  items : (rows.map (·.gradingJobItemId)).Perm
    ((g.items.filter (·.gradingJobId == e.gradingJobId)).map (·.id))
  shows : ∀ row ∈ rows, ∃ item ∈ g.items, item.gradingJobId = e.gradingJobId ∧
    ∃ attempt ∈ g.attempts, ShowsItem g e.exportType item attempt row

/-! ## Positions -/

/-- Distinct numbers below their count, in order, are the numbers from zero on. -/
theorem eq_range_of_sorted {l : List Nat} (hs : l.Pairwise (· ≤ ·)) (hn : l.Nodup)
    (hlt : ∀ n ∈ l, n < l.length) : l = List.range l.length := by
  have hsub : l.Subperm (List.range l.length) :=
    hn.subperm fun n hn => List.mem_range.2 (hlt n hn)
  have hperm : l.Perm (List.range l.length) := hsub.perm_of_length_le (by simp)
  exact hperm.eq_of_pairwise (fun a b _ _ hab hba => Nat.le_antisymm hab hba) hs
    (List.pairwise_le_range)

namespace Store

variable {env : Runtime} {g : Store}

/-! ## The batch -/

theorem exportableJob_eq_ok {teacherId : Uuid} {q : ExportRequest} {job : GradingJob}
    (h : g.exportableJob teacherId q = .ok job) :
    job ∈ g.jobs ∧ job.id = q.gradingJobId ∧ job.ownerId = teacherId ∧
      (g.exportRows teacherId job.id).length = job.expectedItemCount ∧
      ∀ i ∈ g.exportRows teacherId job.id,
        i.position < (g.exportRows teacherId job.id).length := by
  unfold exportableJob at h
  split at h
  · cases h
  next j hj =>
    have hq := List.find?_some hj
    simp only [Bool.and_eq_true, beq_iff_eq] at hq
    simp only [bind_eq_ok, require_eq_ok, Bool.and_eq_true, beq_iff_eq] at h
    obtain ⟨_, -, _, ⟨⟨⟨⟨hcount, hbetween⟩, -⟩, -⟩, hmax⟩, hret⟩ := h
    cases hret
    refine ⟨List.mem_of_find?_eq_some hj, hq.1, hq.2, hcount, fun i hi => ?_⟩
    have hle := (List.max?_eq_some_iff.1 hmax).2 i.position (List.mem_map_of_mem hi)
    simp only [lengthBetween, Bool.and_eq_true, decide_eq_true_eq] at hbetween
    omega

/-- The items of a batch all belong to its teacher. -/
theorem exportRows_eq (hw : WellFormed env g) {teacherId : Uuid} {job : GradingJob}
    (hj : job ∈ g.jobs) (ho : job.ownerId = teacherId) :
    g.exportRows teacherId job.id = g.items.filter (·.gradingJobId == job.id) := by
  unfold exportRows
  refine List.filter_congr fun i hi => ?_
  by_cases hij : i.gradingJobId = job.id
  · obtain ⟨j, hj', hid, hown, -⟩ := hw.refs.items i hi
    rw [eq_of_key_eq hw.sound.keys.jobs hj' hj (hid.trans hij), ho] at hown
    simp [hij, hown]
  · simp [hij]

/-! ## One item -/

/-- The review of an attempt is found whenever there is one. -/
theorem exportReview_eq (hw : WellFormed env g) {item : GradingJobItem} {attempt : GradingAttempt}
    {teacherId : Uuid} (ha : attempt ∈ g.attempts) (hai : attempt.gradingJobItemId = item.id)
    (hao : attempt.ownerId = teacherId) {r : TeacherReview} (hr : r ∈ g.reviews)
    (hra : r.gradingAttemptId = attempt.id) :
    g.exportReview teacherId item.id attempt.id = some r := by
  have hk := hw.sound.keys
  obtain ⟨a, ha', haid, hari, hao', -⟩ := hw.refs.reviews r hr
  obtain rfl : a = attempt := eq_of_key_eq hk.attemptIds ha' ha (haid.trans hra)
  cases h : g.exportReview teacherId item.id a.id with
  | none =>
    have := List.find?_eq_none.1 h r hr
    simp [hra, ← hari, hai, ← hao', hao] at this
  | some x =>
    have hx := List.mem_of_find?_eq_some h
    have hq := List.find?_some h
    simp only [Bool.and_eq_true, beq_iff_eq] at hq
    rw [review_eq_of_attempt hk hx hr (hq.1.1.trans hra.symm)]

theorem exportReview_none {item : GradingJobItem} {attempt : GradingAttempt} {teacherId : Uuid}
    (h : ∀ r ∈ g.reviews, r.gradingAttemptId ≠ attempt.id) :
    g.exportReview teacherId item.id attempt.id = none := by
  unfold exportReview
  rw [List.find?_eq_none]
  intro r hr
  simp [h r hr]

theorem exportReview_some {itemId attemptId teacherId : Uuid} {r : TeacherReview}
    (h : g.exportReview teacherId itemId attemptId = some r) :
    r ∈ g.reviews ∧ r.gradingAttemptId = attemptId := by
  have hq := List.find?_some h
  simp only [Bool.and_eq_true, beq_iff_eq] at hq
  exact ⟨List.mem_of_find?_eq_some h, hq.1.1⟩

theorem exportAttempt_eq_ok {teacherId : Uuid} {rubric : RubricVersion} {item : GradingJobItem}
    {attempt : GradingAttempt} {suggestion : FrozenResult}
    (h : g.exportAttempt teacherId rubric item = .ok (attempt, suggestion)) :
    g.latestSucceeded item.id teacherId item.dispatchVersion = some attempt ∧
      frozenSuggestion item attempt = some suggestion := by
  unfold exportAttempt at h
  split at h
  · cases h
  next a ha =>
    split at h
    · cases h
    next result hresult =>
      split at h
      · cases h
        exact ⟨ha, hresult⟩
      · cases h

/-- The source of a row, from the status of the review that was found. -/
theorem sourceValue_eq_ok {exportType : ExportType} {review : Option TeacherReview}
    {source : SourceType} (h : sourceValue exportType review = .ok source) :
    (source = .teacherConfirmed ∧ ∃ r, review = some r ∧ r.status = .confirmed) ∨
      (source = .teacherDraft ∧ exportType = .draft ∧ ∃ r, review = some r ∧ r.status = .draft) ∨
      (source = .aiSuggestion ∧ exportType = .draft ∧ review = none) := by
  unfold sourceValue at h
  split at h
  next hmap =>
    cases h
    obtain ⟨r, hr, hst⟩ := Option.map_eq_some_iff.1 hmap
    exact .inl ⟨rfl, r, hr, hst⟩
  · cases h
  next hmap =>
    cases h
    obtain ⟨r, hr, hst⟩ := Option.map_eq_some_iff.1 hmap
    exact .inr (.inl ⟨rfl, rfl, r, hr, hst⟩)
  next hmap =>
    cases h
    exact .inr (.inr ⟨rfl, rfl, Option.map_eq_none_iff.1 hmap⟩)

theorem frozenResult_review {rubric : RubricVersion} {item : GradingJobItem}
    {attempt : GradingAttempt} {suggestion result : FrozenResult} {source : SourceType}
    {r : TeacherReview} {review : Option TeacherReview} (hsource : source ≠ .aiSuggestion)
    (h : frozenResult rubric item attempt suggestion source (some r) = .ok (review, result)) :
    review = some r ∧ result = frozenReview item attempt r := by
  unfold frozenResult at h
  split at h
  · contradiction
  next hnone => cases hnone
  next hsome =>
    cases hsome
    split at h
    · cases h
      exact ⟨rfl, rfl⟩
    · cases h

theorem freezeItem_shows (hw : WellFormed env g) (hg : g.Graded) {teacherId : Uuid}
    {job : GradingJob} {rubric : RubricVersion} {exportType : ExportType} {item : GradingJobItem}
    (hi : item ∈ g.items) {row : FrozenItem}
    (h : g.freezeItem teacherId job rubric exportType item = .ok row) :
    ∃ attempt ∈ g.attempts, ShowsItem g exportType item attempt row := by
  unfold freezeItem at h
  split at h
  · cases h
  simp only [bind_eq_ok, require_eq_ok] at h
  obtain ⟨⟨attempt, suggestion⟩, hattempt, source, hsource, _, hfinal, _, hcompleted,
    ⟨review, result⟩, hresult, hret⟩ := h
  cases hret
  obtain ⟨hlatest, hsuggestion⟩ := exportAttempt_eq_ok hattempt
  obtain ⟨ha, hai, hao, has, hround⟩ := latestSucceeded_some hlatest
  have hfound (r : TeacherReview) (hr : r ∈ g.reviews) (hra : r.gradingAttemptId = attempt.id) :=
    exportReview_eq hw ha hai hao hr hra
  have hsources := sourceValue_eq_ok hsource
  refine ⟨attempt, ha, ⟨rfl, rfl, rfl⟩, ⟨rfl, hai, has, hround⟩, fun a ha' hai' has' hround' => ?_,
    ?_, fun r hr hra hst => ?_, fun r hr hra hst => ?_, fun hnone => ?_, fun hft => ?_⟩
  · obtain ⟨i, hi', hiid, hio⟩ := hw.refs.attempts a ha'
    obtain ⟨i₂, hi₂, hiid₂, hio₂⟩ := hw.refs.attempts attempt ha
    have hsame : i = i₂ := eq_of_key_eq hw.sound.keys.items hi' hi₂
      ((hiid.trans hai').trans (hiid₂.trans hai).symm)
    have hle := le_of_latest hlatest ha' (by simp [hai', has', hround', ← hio, hsame, hio₂, hao])
    exact hle
  · constructor
    · intro hs
      rcases hsources with ⟨-, r, hr, hst⟩ | ⟨hs', -⟩ | ⟨hs', -⟩
      · exact ⟨r, (exportReview_some hr).1, (exportReview_some hr).2, hst⟩
      · rw [hs'] at hs
        cases hs
      · rw [hs'] at hs
        cases hs
    · rintro ⟨r, hr, hra, hst⟩
      rw [hfound r hr hra] at hsources
      rcases hsources with ⟨hs, -⟩ | ⟨-, -, x, hx, hxst⟩ | ⟨-, -, hx⟩
      · exact hs
      · cases hx
        rw [hst] at hxst
        cases hxst
      · cases hx
  · rw [hfound r hr hra] at hsources hresult
    have hsrc : source = .teacherConfirmed := by
      rcases hsources with ⟨hs, -⟩ | ⟨-, -, x, hx, hxst⟩ | ⟨-, -, hx⟩
      · exact hs
      · cases hx
        rw [hst] at hxst
        cases hxst
      · cases hx
    obtain ⟨rfl, rfl⟩ := frozenResult_review (by simp [hsrc]) hresult
    obtain ⟨a, ha', haid, hari, -⟩ := hw.refs.reviews r hr
    have hitem : item.id = r.gradingJobItemId := by
      rw [← hai, ← hari, eq_of_key_eq hw.sound.keys.attemptIds ha' ha (haid.trans hra)]
    exact ⟨(hg.reviewed.confirmed_item r hr hst item hi hitem).1, rfl, rfl, rfl⟩
  · rw [hfound r hr hra] at hsources hresult
    rcases hsources with ⟨-, x, hx, hxst⟩ | ⟨hs, hdraft, -⟩ | ⟨-, -, hx⟩
    · cases hx
      rw [hst] at hxst
      cases hxst
    · obtain ⟨rfl, rfl⟩ := frozenResult_review (by simp [hs]) hresult
      exact ⟨hdraft, hs, rfl, rfl, rfl⟩
    · cases hx
  · rw [exportReview_none hnone] at hsources hresult
    rcases hsources with ⟨-, x, hx, -⟩ | ⟨-, -, x, hx, -⟩ | ⟨hs, hdraft, -⟩
    · cases hx
    · cases hx
    · subst hs
      cases hresult
      exact ⟨hdraft, rfl, hsuggestion⟩
  · subst hft
    rcases hsources with ⟨hs, -⟩ | ⟨-, hx, -⟩ | ⟨-, hx, -⟩
    · exact ⟨by simpa using hfinal, hs⟩
    · cases hx
    · cases hx

end Store

namespace ExportStore

variable {env : Runtime} {s s' : ExportStore}

/-! ## The whole export -/

/-- The rows of the loop, next to the items they were frozen from. -/
theorem freezeItem_columns {g : Store} {teacherId : Uuid} {job : GradingJob}
    {rubric : RubricVersion} {exportType : ExportType} {item : GradingJobItem} {row : FrozenItem}
    (h : g.freezeItem teacherId job rubric exportType item = .ok row) :
    row.gradingJobItemId = item.id ∧ row.position = item.position := by
  unfold Store.freezeItem at h
  split at h
  · cases h
  simp only [bind_eq_ok] at h
  obtain ⟨_, -, _, -, _, -, _, -, _, -, hret⟩ := h
  cases hret
  exact ⟨rfl, rfl⟩

theorem Created.frozen (hw : Store.WellFormed env s.grading) (hg : s.grading.Graded)
    {teacherId : Uuid} {q : ExportRequest} {seed : ExportSeed} {job : GradingJob} {e : Export}
    {rows : List ExportItem} (h : Created s s' teacherId q seed job e rows) :
    Frozen s.grading e.toExportIdentity (rows.map (·.toFrozenItem)) := by
  obtain ⟨hj, hjid, hjo, hcount, hlt⟩ := Store.exportableJob_eq_ok h.job_eq
  obtain ⟨rubric, structured, -, rfl, hrows⟩ := h.rubric_eq
  have hperm : (s.sortedRows teacherId job.id).Perm (s.grading.exportRows teacherId job.id) :=
    List.perm_insertionSort _ _
  have hids : rows.map (·.gradingJobItemId) = (s.sortedRows teacherId job.id).map (·.id) := by
    rw [← List.forall₂_eq_eq_eq, List.forall₂_map_left_iff, List.forall₂_map_right_iff]
    exact hrows.flip.imp fun row item hrow => (freezeItem_columns hrow).1
  have hpositions : rows.map (·.position) = (s.sortedRows teacherId job.id).map (·.position) := by
    rw [← List.forall₂_eq_eq_eq, List.forall₂_map_left_iff, List.forall₂_map_right_iff]
    exact hrows.flip.imp fun row item hrow => (freezeItem_columns hrow).2
  have hlength : rows.length = (s.grading.exportRows teacherId job.id).length :=
    hrows.length_eq.symm.trans hperm.length_eq
  have hitem (i : GradingJobItem) (hi : i ∈ s.sortedRows teacherId job.id) :
      i ∈ s.grading.items ∧ i.gradingJobId = job.id := by
    have := List.mem_filter.1 (hperm.mem_iff.1 hi)
    simp only [Bool.and_eq_true, beq_iff_eq] at this
    exact ⟨this.1, this.2.1⟩
  refine ⟨⟨job, hj, rfl, hjo, by rw [List.length_map, hlength, hcount]⟩, ?_, ?_, fun row hrow => ?_⟩
  · rw [List.map_map, List.length_map]
    have hsorted : (rows.map (·.position)).Pairwise (· ≤ ·) := by
      rw [hpositions, List.pairwise_map]
      exact List.pairwise_insertionSort _ _
    have hnodup : (rows.map (·.position)).Nodup := by
      rw [hpositions, (hperm.map _).nodup_iff, List.Nodup, List.pairwise_map]
      refine (hw.sound.keys.itemRows.filter _).imp_of_mem fun {x y} hx hy hxy he => ?_
      have hxj := (List.mem_filter.1 hx).2
      have hyj := (List.mem_filter.1 hy).2
      simp only [Bool.and_eq_true, beq_iff_eq] at hxj hyj
      simp [Store.itemConflict, hxj.1, hyj.1, he] at hxy
    have hbelow : ∀ n ∈ rows.map (·.position), n < (rows.map (·.position)).length := by
      rw [List.length_map, hlength, hpositions]
      intro n hn
      obtain ⟨i, hi, rfl⟩ := List.mem_map.1 hn
      exact hlt i (hperm.mem_iff.1 hi)
    have hrange := eq_range_of_sorted hsorted hnodup hbelow
    rw [List.length_map] at hrange
    exact hrange
  · rw [List.map_map]
    show (rows.map (·.gradingJobItemId)).Perm _
    rw [hids, show (queuedExport teacherId q seed job rubric structured).gradingJobId = job.id from
      rfl, ← Store.exportRows_eq hw hj hjo]
    exact hperm.map _
  · obtain ⟨x, hx, rfl⟩ := List.mem_map.1 hrow
    obtain ⟨i, hi, hfreeze⟩ := exists_of_forall₂ hrows hx
    obtain ⟨hmem, hij⟩ := hitem i hi
    obtain ⟨attempt, ha, hshows⟩ := Store.freezeItem_shows hw hg hmem hfreeze
    exact ⟨i, hmem, hij, attempt, ha, hshows⟩

/-! ## Runs -/

theorem step_gradingAction (s : ExportStore) (a : Action env) :
    step env s (.grading a) = { s with grading := Store.step env s.grading a } := by
  cases h : s.grading.exec env a <;> simp [step, Store.step, exec, h]

/-- A run of the grading machine alone. -/
theorem after_gradings (as : List (Action env)) :
    after env (as.map .grading) = ⟨Store.after env as, [], [], []⟩ := by
  unfold after Store.after empty
  generalize Store.empty = g
  induction as generalizing g with
  | nil => rfl
  | cons a as ih =>
    rw [List.map_cons, Runs.run_cons, Runs.run_cons, ← ih, step_gradingAction]

theorem after_concat (as : List (ExportAction env)) (a : ExportAction env) :
    after env (as ++ [a]) = step env (after env as) a := by
  unfold after
  rw [Runs.run_append]
  rfl

/-- The request that made an export, in the store it found. -/
structure FrozenFor (s : ExportStore) (q : ExportRequest) (e : ExportIdentity)
    (rows : List FrozenItem) : Prop where
  answers : Answers q e
  fresh : ∀ x ∈ s.exports, x.ownerId = e.ownerId → x.idempotencyKey ≠ e.idempotencyKey
  frozen : Frozen s.grading e rows

theorem Created.answers {teacherId : Uuid} {q : ExportRequest} {seed : ExportSeed}
    {job : GradingJob} {e : Export} {rows : List ExportItem}
    (h : Created s s' teacherId q seed job e rows) : Answers q e.toExportIdentity := by
  obtain ⟨-, hjob, -⟩ := Store.exportableJob_eq_ok h.job_eq
  obtain ⟨rubric, structured, -, rfl, -⟩ := h.rubric_eq
  exact ⟨h.teacher_eq, rfl, hjob, rfl, rfl⟩

theorem Created.frozenFor {as : List (ExportAction env)} {teacherId : Uuid} {q : ExportRequest}
    {seed : ExportSeed} {job : GradingJob} {e : Export} {rows : List ExportItem}
    (h : Created (after env as) s' teacherId q seed job e rows) :
    FrozenFor (after env as) q e.toExportIdentity (rows.map (·.toFrozenItem)) := by
  have hwellFormed : Store.WellFormed env (after env as).grading := by
    rw [after_grading]
    exact Store.after_wellFormed _
  have hgraded : (after env as).grading.Graded := by
    rw [after_grading]
    exact Store.after_graded _
  have hanswers : Answers q e.toExportIdentity := h.answers
  refine ⟨hanswers, fun x hx ho => ?_, h.frozen hwellFormed hgraded⟩
  rw [hanswers.key]
  exact h.fresh x hx (ho.trans (Option.some.inj (hanswers.teacher.symm.trans h.teacher_eq)))

/-- Every export was frozen by the first request of its key. -/
theorem after_frozen (as : List (ExportAction env)) {e : Export} (he : e ∈ (after env as).exports) :
    ∃ bs q seed, bs ++ [.createExport q seed] <+: as ∧
      FrozenFor (after env bs) q e.toExportIdentity
        (((after env as).itemsOf e.id).map (·.toFrozenItem)) := by
  induction as using List.reverseRecOn generalizing e with
  | nil => cases he
  | append_singleton as a ih =>
    have hs : (after env as).Sound := after_sound as
    rw [after_concat] at he ⊢
    -- an export that was there before, with the items it had
    have hkept (x : Export) (hx : x ∈ (after env as).exports)
        (hid : x.toExportIdentity = e.toExportIdentity) :
        ∃ bs q seed, bs ++ [.createExport q seed] <+: as ++ [a] ∧
          FrozenFor (after env bs) q e.toExportIdentity
            (((step env (after env as) a).itemsOf e.id).map (·.toFrozenItem)) := by
      obtain ⟨bs, q, seed, hbs, hfrozen⟩ := ih hx
      refine ⟨bs, q, seed, hbs.trans (List.prefix_append _ _), ?_⟩
      have hitems := (step_sound hs a).2.items x hx
      rw [hid] at hfrozen hitems
      rw [hitems]
      exact hfrozen
    cases h : (after env as).exec env a with
    | error err =>
      have hstep : step env (after env as) a = after env as := by simp [step, h]
      rw [hstep] at he
      exact hkept e he rfl
    | ok s' =>
      rw [step_of_ok h] at he hkept ⊢
      rcases exec_cases hs.unique h with ⟨b, grading, -, -, rfl⟩ | ⟨rfl, -⟩ |
        ⟨teacherId, q, seed, job, x, rows, rfl, hc⟩ | ⟨-, now, old, new, action, hw⟩
      · exact hkept e he rfl
      · exact hkept e he rfl
      · rw [hc.eq] at he
        rcases List.mem_append.1 he with he | he
        · exact hkept e he rfl
        · rw [List.mem_singleton.1 he, (hc.grows hs).2.2]
          exact ⟨as, q, seed, List.prefix_rfl, hc.frozenFor⟩
      · rw [hw.eq] at he
        rcases (mem_replaceRow hw.old_mem).1 he with rfl | ⟨he, -⟩
        · exact hkept old hw.old_mem hw.identity.symm
        · exact hkept e he rfl

/-- One export for each teacher and key. -/
theorem export_eq_of_key (hs : s.Sound) {x y : Export} (hx : x ∈ s.exports) (hy : y ∈ s.exports)
    (ho : x.ownerId = y.ownerId) (hk : x.idempotencyKey = y.idempotencyKey) : x = y :=
  eq_of_conflict (of_decide_eq_true hs.unique) hx hy (by simp [exportConflict, ho, hk])
    (by simp [exportConflict, ho, hk])

/-- A request whose key has an export gets that export, or a conflict. -/
theorem createExport_again (hs : s.Sound) {q : ExportRequest} {seed : ExportSeed} {e : Export}
    (he : e ∈ s.exports) (ho : q.teacher = some e.ownerId)
    (hk : q.idempotencyKey = e.idempotencyKey) (htext : textOk q.idempotencyKey = true)
    (hlen : ¬(btrimEmpty q.idempotencyKey = true ∨ 200 < q.idempotencyKey.length)) :
    s.createExport q seed = .error (exportError "export_idempotency_conflict") ∨
      s.createExport q seed = .ok (e, s) := by
  have hfind : s.exports.find? (fun x => x.ownerId == e.ownerId &&
      x.idempotencyKey == q.idempotencyKey) = some e := by
    cases h : s.exports.find? (fun x => x.ownerId == e.ownerId &&
        x.idempotencyKey == q.idempotencyKey) with
    | none =>
      have := List.find?_eq_none.1 h e he
      simp [hk] at this
    | some x =>
      have hq := List.find?_some h
      simp only [Bool.and_eq_true, beq_iff_eq] at hq
      rw [export_eq_of_key hs (List.mem_of_find?_eq_some h) he hq.1 (hq.2.trans hk)]
  unfold createExport
  rw [ho]
  simp only
  rw [if_neg (by simp [htext]), if_neg hlen, hfind]
  simp only
  split
  · exact .inr rfl
  · exact .inl rfl

/-- A request whose key has no export freezes the batch. -/
theorem createExport_new {q : ExportRequest} {seed : ExportSeed} {teacherId : Uuid}
    (ho : q.teacher = some teacherId) (htext : textOk q.idempotencyKey = true)
    (hlen : ¬(btrimEmpty q.idempotencyKey = true ∨ 200 < q.idempotencyKey.length))
    (hnew : ∀ e ∈ s.exports, e.ownerId = teacherId → e.idempotencyKey ≠ q.idempotencyKey) :
    s.createExport q seed = s.freezeJob teacherId q seed := by
  have hfind : s.exports.find? (fun x => x.ownerId == teacherId &&
      x.idempotencyKey == q.idempotencyKey) = none := by
    rw [List.find?_eq_none]
    intro x hx hq
    simp only [Bool.and_eq_true, beq_iff_eq] at hq
    exact hnew x hx hq.1 hq.2
  unfold createExport
  rw [ho]
  simp only
  rw [if_neg (by simp [htext]), if_neg hlen, hfind]

/-- **What an export holds, and keeps.** -/
theorem after_createExport (as : List (ExportAction env)) {q : ExportRequest} {seed : ExportSeed}
    {e : Export} (h : (after env as).createExport q seed = .ok (e, s')) :
    (Answers q e.toExportIdentity ∧ e ∈ s'.exports) ∧
    (∃ bs q₀ seed₀, bs ++ [.createExport q₀ seed₀] <+: as ++ [.createExport q seed] ∧
      FrozenFor (after env bs) q₀ e.toExportIdentity
        ((s'.itemsOf e.id).map (·.toFrozenItem)) ∧
      (e ∈ (after env as).exports ∧ s' = after env as ∨
        (∀ x ∈ (after env as).exports, x.ownerId = e.ownerId →
          x.idempotencyKey ≠ e.idempotencyKey) ∧ bs = as ∧ q₀ = q ∧ seed₀ = seed)) ∧
    ∀ bs : List (ExportAction env),
      (∃ e' ∈ (Runs.run (step env) s' bs).exports, e'.toExportIdentity = e.toExportIdentity) ∧
      (Runs.run (step env) s' bs).itemsOf e.id = s'.itemsOf e.id ∧
      (∀ x ∈ (Runs.run (step env) s' bs).exports, x.ownerId = e.ownerId →
        x.idempotencyKey = e.idempotencyKey → x.id = e.id) ∧
      ∀ q' seed', q'.teacher = q.teacher → q'.idempotencyKey = q.idempotencyKey →
        (Runs.run (step env) s' bs).createExport q' seed' =
            .error (exportError "export_idempotency_conflict") ∨
          ∃ e', e'.toExportIdentity = e.toExportIdentity ∧
            (Runs.run (step env) s' bs).createExport q' seed' =
              .ok (e', Runs.run (step env) s' bs) := by
  have hs : (after env as).Sound := after_sound as
  have hsound : s'.Sound := by
    have hstep : step env (after env as) (.createExport q seed) = s' :=
      step_of_ok (map_snd_eq_ok.2 ⟨e, h⟩)
    exact hstep ▸ (step_sound hs _).1
  obtain ⟨teacherId, hteacher, htext, hlen, hcase⟩ := createExport_cases h
  obtain ⟨he, hanswers, hfrozen⟩ : e ∈ s'.exports ∧ Answers q e.toExportIdentity ∧
      ∃ bs q₀ seed₀, bs ++ [.createExport q₀ seed₀] <+: as ++ [.createExport q seed] ∧
        FrozenFor (after env bs) q₀ e.toExportIdentity
          ((s'.itemsOf e.id).map (·.toFrozenItem)) ∧
        (e ∈ (after env as).exports ∧ s' = after env as ∨
          (∀ x ∈ (after env as).exports, x.ownerId = e.ownerId →
            x.idempotencyKey ≠ e.idempotencyKey) ∧ bs = as ∧ q₀ = q ∧ seed₀ = seed) := by
    rcases hcase with ⟨he, hanswers, rfl⟩ | ⟨job, rows, hc⟩
    · obtain ⟨bs, q₀, seed₀, hbs, hfor⟩ := after_frozen as he
      exact ⟨he, hanswers, bs, q₀, seed₀, hbs.trans (List.prefix_append _ _), hfor,
        .inl ⟨he, rfl⟩⟩
    · obtain ⟨-, hmem, hitems⟩ := hc.grows hs
      have hfor := hc.frozenFor
      exact ⟨hmem, hc.answers, as, q, seed, List.prefix_rfl, hitems ▸ hfor,
        .inr ⟨hfor.fresh, rfl, rfl, rfl⟩⟩
  have ho : e.ownerId = teacherId := Option.some.inj (hanswers.teacher.symm.trans hteacher)
  have hk : e.idempotencyKey = q.idempotencyKey := hanswers.key
  refine ⟨⟨hanswers, he⟩, hfrozen, fun bs => ?_⟩
  have hgrows : Grows s' (Runs.run (step env) s' bs) := run_grows hsound bs
  have ht : (Runs.run (step env) s' bs).Sound := run_sound hsound bs
  obtain ⟨e', he', hid⟩ := hgrows.exports e he
  refine ⟨⟨e', he', hid⟩, hgrows.items e he, fun x hx hxo hxk => ?_, fun q' seed' hq' hkey' => ?_⟩
  · rw [export_eq_of_key ht hx he' (hxo.trans (congrArg ExportIdentity.ownerId hid).symm)
      (hxk.trans (congrArg ExportIdentity.idempotencyKey hid).symm)]
    exact congrArg ExportIdentity.id hid
  · have ho' : e'.ownerId = teacherId := (congrArg ExportIdentity.ownerId hid).trans ho
    have hk' : e'.idempotencyKey = q.idempotencyKey :=
      (congrArg ExportIdentity.idempotencyKey hid).trans hk
    have hteacher' : q'.teacher = some e'.ownerId := by rw [hq', hteacher, ho']
    have hagain : (Runs.run (step env) s' bs).createExport q' seed' =
        .error (exportError "export_idempotency_conflict") ∨
          (Runs.run (step env) s' bs).createExport q' seed' = .ok (e', Runs.run (step env) s' bs) :=
      createExport_again ht he' hteacher' (hkey'.trans hk'.symm) (hkey' ▸ htext) (hkey' ▸ hlen)
    rcases hagain with hc | hok
    · exact .inl hc
    · exact .inr ⟨e', hid, hok⟩

end ExportStore

/-! ## The export of one paper -/

namespace Sample

open Store ExportStore

def reviewableJob : GradingJob := reconciledJob [.needsReview] 3 (claimJob 1 jobRow)

/-- The paper is graded and waits for the teacher. -/
def reviewable : Store :=
  { claimed with
    attempts := [gradedAttempt]
    items := [reviewItem]
    jobs := [reviewableJob] }

theorem finish_claimed : claimed.finishSuccess firstClaim completion ⟨3, 3⟩ = .ok reviewable := by
  have hs : Steady sampleRuntime claimed := after_claimed ▸ after_steady _
  have hlock : claimed.lockClaimed firstClaim =
      .ok (claimJob 1 jobRow, runningItem, runningAttempt) := rfl
  exact (finishSuccess_ok hs hlock).2
    ⟨_, _, by decide +kernel, by decide +kernel, by decide +kernel, by decide +kernel, rfl⟩

def grading : List (Action sampleRuntime) :=
  setup ++ [.claimAttempt preparation 0 ⟨1, 1⟩ 8 9] ++
    [.finishSuccess firstClaim completion ⟨3, 3⟩]

def grade : List (ExportAction sampleRuntime) := grading.map .grading

theorem after_grade : ExportStore.after sampleRuntime grade = ⟨reviewable, [], [], []⟩ := by
  have hstep : Store.step sampleRuntime claimed (.finishSuccess firstClaim completion ⟨3, 3⟩) =
      reviewable := Store.step_of_ok finish_claimed
  rw [grade, after_gradings, grading, Store.after_concat, after_claimed, hstep]

def draftRequest : ExportRequest := ⟨some teacher, job, .draft, "k", 0⟩

def exportSeed : ExportSeed := ⟨16, fun n => 17 + n, 4⟩

def draftExport : Export := queuedExport teacher draftRequest exportSeed reviewableJob rubricRow rubric

def suggested : FrozenResult :=
  ⟨"export-item-snapshot.v1", .needsReview, 10, 10, 0, 10, .suggestion result.dimensions [], "Fine.",
    none, none, 1, 1⟩

def frozenPaper : ExportItem :=
  ⟨⟨teacher, assignment, job, item, submission, 8, none, none, 0, .aiSuggestion, "a.pdf", suggested⟩,
    17, 16⟩

def exported : ExportStore := ⟨reviewable, [draftExport], [frozenPaper], []⟩

theorem create_reviewable :
    (ExportStore.mk reviewable [] [] []).createExport draftRequest exportSeed =
      .ok (draftExport, exported) := by
  have hjob : reviewable.exportableJob teacher draftRequest = .ok reviewableJob := rfl
  have hrubric : reviewable.exportRubric teacher reviewableJob = .ok (rubricRow, rubric) := by
    decide +kernel
  have hfreeze : reviewable.freezeItem teacher reviewableJob rubricRow .draft reviewItem =
      .ok frozenPaper.toFrozenItem := by decide +kernel
  rw [createExport_new (show draftRequest.teacher = some teacher from rfl) (by decide) (by decide)
    fun _ he => absurd he List.not_mem_nil]
  unfold freezeJob
  simp only [bind_eq_ok]
  refine ⟨_, hjob, _, hrubric, _, insertExport_eq_ok.2 ⟨rfl, by decide +kernel, rfl⟩, exported, ?_,
    (), rfl, rfl⟩
  refine bind_eq_ok.2 ⟨_, hfreeze, bind_eq_ok.2 ⟨exported,
    insertExportItem_eq_ok.2 ⟨rfl, by decide +kernel, rfl⟩, rfl⟩⟩

/-! ## The export of two papers -/

/-- The row of a call that ended well. -/
def succeeded (c : GradingAttemptCompletion) (now : Time) (a : GradingAttempt) : GradingAttempt :=
  succeededAttempt c
    ⟨some 10, some 0, some 10, some result.dimensions, some [], some "Fine."⟩
    ⟨some "r", some "m", some 1, some 0, some 0, some 1, some 0, some 2, none, none, none⟩ now a

def reviewPairItem : GradingJobItem := closeItem .needsReview none 3 runningPairItem

/-- The first paper is graded, the second waits. -/
def pairHalf : Store :=
  { pairClaimed with
    attempts := [succeeded completion 3 pairAttempt]
    items := [reviewPairItem, secondItem]
    jobs := [reconciledJob [.needsReview, .queued] 3 (claimJob 1 pairJob)] }

def halfJob : GradingJob := reconciledJob [.needsReview, .queued] 3 (claimJob 1 pairJob)

def otherAttempt : GradingAttempt := pairHalf.claimedAttempt secondPreparation secondItem 0 4 10

def runningSecondItem : GradingJobItem := claimItem 4 11 snapshot.timeoutSeconds secondItem

/-- The second paper is being graded. -/
def pairSecond : Store :=
  { pairHalf with
    attempts := [succeeded completion 3 pairAttempt, otherAttempt]
    items := [reviewPairItem, runningSecondItem]
    jobs := [claimJob 4 halfJob] }

def otherCompletion : GradingAttemptCompletion := ⟨result, answer, "other", 0⟩

def secondClaim : GradingAttemptClaim := ⟨10, 1, 1, 1, 11, 0⟩

def reviewSecondItem : GradingJobItem := closeItem .needsReview none 5 runningSecondItem

def pairReviewJob : GradingJob := reconciledJob [.needsReview, .needsReview] 5 (claimJob 4 halfJob)

/-- Both papers are graded and wait for the teacher. -/
def pairGraded : Store :=
  { pairSecond with
    attempts := [succeeded completion 3 pairAttempt, succeeded otherCompletion 5 otherAttempt]
    items := [reviewPairItem, reviewSecondItem]
    jobs := [pairReviewJob] }

def pairReview : TeacherReview := newReview teacher (succeeded completion 3 pairAttempt) 1 savedPayload reviewId 6

/-- The teacher has saved a draft for the first paper. -/
def pairReviewable : Store := { pairGraded with reviews := [pairReview] }

def gradePair : List (Action sampleRuntime) :=
  [.finishSuccess firstClaim completion ⟨3, 3⟩,
   .claimAttempt secondPreparation 0 ⟨4, 4⟩ 10 11,
   .finishSuccess secondClaim otherCompletion ⟨5, 5⟩,
   .saveTeacherReviewDraft (some teacher) item 8 savedPayload reviewId 6]

theorem finish_pairClaimed (hs : Steady sampleRuntime pairClaimed) :
    pairClaimed.finishSuccess firstClaim completion ⟨3, 3⟩ = .ok pairHalf := by
  have hlock : pairClaimed.lockClaimed firstClaim =
      .ok (claimJob 1 pairJob, runningPairItem, pairAttempt) := rfl
  exact (finishSuccess_ok hs hlock).2
    ⟨_, _, by decide +kernel, by decide +kernel, by decide +kernel, by decide +kernel, rfl⟩

theorem claim_pairHalf (hs : Steady sampleRuntime pairHalf) :
    pairHalf.claimAttempt secondPreparation 0 ⟨4, 4⟩ 10 11 = .ok (some secondClaim, pairSecond) := by
  have hrows : pairHalf.claimableRows secondPreparation 4 = some (halfJob, secondItem) := rfl
  have hcheck : pairHalf.attemptInsertCheck otherAttempt = .ok () := by decide +kernel
  have hunique : attemptsUnique (pairHalf.attempts ++ [otherAttempt]) = true := by decide +kernel
  have hclaim : pairHalf.claimAttempt secondPreparation 0 ⟨4, 4⟩ 10 11 = .ok _ :=
    claimAttempt_ok hs.wellFormed (by decide +kernel) hrows hcheck hunique
  have hnumber : (pairHalf.claimedAttempt secondPreparation secondItem 0 4 10).attemptNumber = 1 := by
    decide +kernel
  have hsequence : (pairHalf.claimedAttempt secondPreparation secondItem 0 4 10).callSequence = 1 := by
    decide +kernel
  have hitems : replaceRow (·.id) secondItem
      (claimItem 4 11 secondPreparation.providerSnapshot.timeoutSeconds secondItem) pairHalf.items =
        [reviewPairItem, runningSecondItem] := by decide +kernel
  refine hclaim.trans ?_
  rw [hnumber, hsequence, show pairHalf.jobs = [halfJob] from rfl, replaceRow_singleton, hitems]
  rfl

theorem finish_pairSecond (hs : Steady sampleRuntime pairSecond) :
    pairSecond.finishSuccess secondClaim otherCompletion ⟨5, 5⟩ = .ok pairGraded := by
  have hlock : pairSecond.lockClaimed secondClaim =
      .ok (claimJob 4 halfJob, runningSecondItem, otherAttempt) := rfl
  exact (finishSuccess_ok hs hlock).2
    ⟨_, _, by decide +kernel, by decide +kernel, by decide +kernel, by decide +kernel, rfl⟩

theorem save_pairGraded :
    pairGraded.saveTeacherReviewDraft (some teacher) item 8 savedPayload reviewId 6 =
      .ok (some reviewId.value, pairReviewable) := by
  have htarget : pairGraded.draftTarget teacher item 8 =
      some (reviewPairItem, succeeded completion 3 pairAttempt, rubric) := by decide +kernel
  unfold saveTeacherReviewDraft
  simp only [htarget]
  refine bind_eq_ok.2 ⟨(), by decide +kernel, bind_eq_ok.2 ⟨savedPayload, by decide +kernel, ?_⟩⟩
  exact bind_eq_ok.2 ⟨pairReviewable, insertReview_eq_ok.2 ⟨rfl, by decide +kernel, rfl⟩, rfl⟩

theorem after_gradePair : Store.after sampleRuntime (pairRun ++ gradePair) = pairReviewable := by
  have hclaimed : Steady sampleRuntime pairClaimed := after_pairRun ▸ after_steady pairRun
  have hfirst : Store.step sampleRuntime pairClaimed (.finishSuccess firstClaim completion ⟨3, 3⟩) =
      pairHalf := Store.step_of_ok (finish_pairClaimed hclaimed)
  have hhalf : Steady sampleRuntime pairHalf := hfirst ▸ step_steady hclaimed _
  have hclaim : Store.step sampleRuntime pairHalf
      (.claimAttempt secondPreparation 0 ⟨4, 4⟩ 10 11) = pairSecond :=
    Store.step_of_ok (Store.map_snd_eq_ok.2 ⟨_, claim_pairHalf hhalf⟩)
  have hsecond : Steady sampleRuntime pairSecond := hclaim ▸ step_steady hhalf _
  have hlast : Store.step sampleRuntime pairSecond
      (.finishSuccess secondClaim otherCompletion ⟨5, 5⟩) = pairGraded :=
    Store.step_of_ok (finish_pairSecond hsecond)
  have hsave : Store.step sampleRuntime pairGraded
      (.saveTeacherReviewDraft (some teacher) item 8 savedPayload reviewId 6) = pairReviewable :=
    Store.step_of_ok (Store.map_snd_eq_ok.2 ⟨_, save_pairGraded⟩)
  have hrun : Runs.run (Store.step sampleRuntime) Store.empty pairRun = pairClaimed := after_pairRun
  rw [Store.after, Runs.run_append, hrun, gradePair, Runs.run_cons, hfirst, Runs.run_cons, hclaim,
    Runs.run_cons, hlast, Runs.run_cons, hsave, Runs.run_nil]

def pairExport : Export :=
  queuedExport teacher draftRequest exportSeed pairReviewJob rubricRow rubric

def reviewed : FrozenResult :=
  ⟨"export-item-snapshot.v1", .needsReview, 10, 10, 0, 10,
    .review savedPayload.criteria [] savedPayload.evidence, "Fine.", none, none, 1, 1⟩

/-- The first paper has the teacher's draft. -/
def firstFrozen : ExportItem :=
  ⟨⟨teacher, assignment, job, item, submission, 8, some reviewId.value, some 1, 0, .teacherDraft,
    "a.pdf", reviewed⟩, 17, 16⟩

/-- The second is as the AI wrote it. -/
def secondFrozen : ExportItem :=
  ⟨⟨teacher, assignment, job, secondItem.id, secondSubmission, 10, none, none, 1, .aiSuggestion,
    "b.pdf", suggested⟩, 18, 16⟩

def pairExported : ExportStore :=
  ⟨pairReviewable, [pairExport], [firstFrozen, secondFrozen], []⟩

theorem create_pairReviewable :
    (ExportStore.mk pairReviewable [] [] []).createExport draftRequest exportSeed =
      .ok (pairExport, pairExported) := by
  have hjob : pairReviewable.exportableJob teacher draftRequest = .ok pairReviewJob := rfl
  have hrubric : pairReviewable.exportRubric teacher pairReviewJob = .ok (rubricRow, rubric) := by
    decide +kernel
  have hfirst : pairReviewable.freezeItem teacher pairReviewJob rubricRow .draft reviewPairItem =
      .ok firstFrozen.toFrozenItem := by decide +kernel
  have hsecond : pairReviewable.freezeItem teacher pairReviewJob rubricRow .draft
      reviewSecondItem = .ok secondFrozen.toFrozenItem := by decide +kernel
  have hitems : (pairReviewable.exportRows teacher pairReviewJob.id).insertionSort
      (fun x y => x.position ≤ y.position) = [reviewPairItem, reviewSecondItem] := by decide +kernel
  rw [createExport_new (show draftRequest.teacher = some teacher from rfl) (by decide) (by decide)
    fun _ he => absurd he List.not_mem_nil]
  unfold freezeJob
  simp only [bind_eq_ok]
  refine ⟨_, hjob, _, hrubric, ⟨pairReviewable, [pairExport], [], []⟩,
    insertExport_eq_ok.2 ⟨rfl, by decide +kernel, rfl⟩, pairExported, ?_, (), ?_, rfl⟩
  · rw [hitems]
    refine bind_eq_ok.2 ⟨_, hfirst, bind_eq_ok.2 ⟨⟨pairReviewable, [pairExport], [firstFrozen], []⟩,
      insertExportItem_eq_ok.2 ⟨rfl, by decide +kernel, rfl⟩, ?_⟩⟩
    exact bind_eq_ok.2 ⟨_, hsecond, bind_eq_ok.2 ⟨pairExported,
      insertExportItem_eq_ok.2 ⟨rfl, by decide +kernel, rfl⟩, rfl⟩⟩
  · rw [hitems]
    rfl

/-- An export of a batch whose papers are shown from different sources. -/
theorem pair_exported :
    (Answers draftRequest pairExport.toExportIdentity ∧ pairExport ∈ pairExported.exports) ∧
    FrozenFor ⟨pairReviewable, [], [], []⟩ draftRequest pairExport.toExportIdentity
      [firstFrozen.toFrozenItem, secondFrozen.toFrozenItem] ∧
    ∀ bs : List (ExportAction sampleRuntime),
      (Runs.run (ExportStore.step sampleRuntime) pairExported bs).itemsOf pairExport.id =
        [firstFrozen, secondFrozen] := by
  have hafter : ExportStore.after sampleRuntime ((pairRun ++ gradePair).map .grading) =
      ⟨pairReviewable, [], [], []⟩ := by
    rw [after_gradings, after_gradePair]
  obtain ⟨hanswers, ⟨bs, q₀, seed₀, -, hfor, hnew⟩, hkept⟩ :=
    after_createExport ((pairRun ++ gradePair).map .grading)
      (by rw [hafter]; exact create_pairReviewable)
  rw [hafter] at hnew
  rcases hnew with ⟨hold, -⟩ | ⟨-, rfl, rfl, rfl⟩
  · exact absurd hold List.not_mem_nil
  · rw [hafter] at hfor
    exact ⟨hanswers, hfor, fun bs => (hkept bs).2.1⟩

end Sample

end PaperGrading
