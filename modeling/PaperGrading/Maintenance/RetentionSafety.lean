import Mathlib.Data.List.Induction
import PaperGrading.Base.Runs
import PaperGrading.Maintenance.Retention

/-!
# Retention is safe

What every interleaving of retention runs keeps: rows are unique by identifier and by key, one
run at most holds the lock of a row, and a run knows in each phase what its revalidation read.

    one step keeps the invariant                                               (Move.sound)
    every deletion belongs to a run whose revalidation allowed it; the current tokens of an
      object agree; only the holder of the token completes a row, after its delete was
      answered; final rows change no more                                   (run_retention)
-/

namespace PaperGrading

namespace RetentionWorld

/-! ## What a step does to a row -/

/-- The change of one row. -/
inductive RowMove (w : RetentionWorld) (e : RetentionEvent) (r : RetentionObject) :
    RetentionObject → Prop
  | same : RowMove w e r r
  | claimed (token : Uuid) (now : Time) (hfinal : r.isFinal = false)
    (hlock : w.isLocked r.id = false) : RowMove w e r (r.claimed token retentionLeaseSeconds now)
  | invalidated (k : Nat) (q : RetentionRun) (he : e.runOf = some k) (hq : w.runs[k]? = some q)
    (hlocks : q.phase.lockedId = some r.id) (hstatus : r.status = .running) :
    RowMove w e r r.invalidated
  | completed (k : Nat) (q : RetentionRun) (c : RetentionCandidate) (result : StorageDeleteResult)
    (now : Time) (close : CloseAnswer) (he : e = .complete k now close) (hq : w.runs[k]? = some q)
    (hphase : q.phase = .answered c result) (hid : r.id = c.id) (hholds : r.holds q.token now = true)
    (hlock : w.isLocked r.id = false) : RowMove w e r (r.completed result now)
  | failed (token : Uuid) (now : Time) (hholds : r.holds token now = true)
    (hlock : w.isLocked r.id = false) :
    RowMove w e r (r.failed "retention_storage_timeout" now)
  | held (hold : Option (Time × String)) (he : e = .setHold r.id hold)
    (hlock : w.isLocked r.id = false) : RowMove w e r (r.held hold)

/-- Every row changes by a `RowMove`, and at most one row is new. -/
def RowsMove (w : RetentionWorld) (e : RetentionEvent) (objects : List RetentionObject) : Prop :=
  ∃ (g : RetentionObject → RetentionObject) (added : List RetentionObject),
    objects = w.objects.map g ++ added ∧ (∀ r ∈ w.objects, RowMove w e r (g r)) ∧
      (added = [] ∨ ∃ row, added = [row] ∧ w.insertable row = true)

namespace RowMove

variable {w : RetentionWorld} {e : RetentionEvent} {r r' : RetentionObject}

theorem candidate_eq (h : RowMove w e r r') : candidateOf r' = candidateOf r := by
  cases h <;> rfl

theorem id_eq (h : RowMove w e r r') : r'.id = r.id := by
  cases h <;> rfl

theorem objectKey_eq (h : RowMove w e r r') : r'.objectKey = r.objectKey := by
  cases h <;> rfl

theorem stateCheck (h : RowMove w e r r') (hr : r.stateCheck = true) : r'.stateCheck = true := by
  cases h with
  | same => exact hr
  | claimed token now hfinal hlock => exact RetentionObject.stateCheck_claimed hr hfinal
  | invalidated k q he hq hlocks hstatus => exact RetentionObject.stateCheck_invalidated hr hstatus
  | completed k q c result now close he hq hphase hid hholds hlock =>
    exact RetentionObject.stateCheck_completed r
  | failed token now hholds hlock =>
    exact RetentionObject.stateCheck_failed hr (RetentionObject.holds_iff.1 hholds).1
  | held hold he hlock => exact hr

/-- A final row keeps all but its hold, and its hold unless an operator sets it. -/
theorem final (h : RowMove w e r r') (hr : r.isFinal = true) :
    r' = r ∨ ∃ hold, e = .setHold r.id hold ∧ r' = r.held hold := by
  have hrun : r.status ≠ .running := by
    intro h
    simp [RetentionObject.isFinal, h] at hr
  cases h with
  | same => exact .inl rfl
  | claimed token now hfinal hlock => simp [hfinal] at hr
  | invalidated k q he hq hlocks hstatus => exact absurd hstatus hrun
  | completed k q c result now close he hq hphase hid hholds hlock =>
    exact absurd (RetentionObject.holds_iff.1 hholds).1 hrun
  | failed token now hholds hlock => exact absurd (RetentionObject.holds_iff.1 hholds).1 hrun
  | held hold he hlock => exact .inr ⟨hold, he, rfl⟩

/-- Only its own lock's holder changes a locked row. -/
theorem eq_of_locked (h : RowMove w e r r') (hlock : w.isLocked r.id = true) :
    r' = r ∨ ∃ k q, e.runOf = some k ∧ w.runs[k]? = some q ∧ q.phase.lockedId = some r.id := by
  cases h with
  | same => exact .inl rfl
  | invalidated k q he hq hlocks hstatus => exact .inr ⟨k, q, he, hq, hlocks⟩
  | claimed _ _ _ hfree => simp [hfree] at hlock
  | completed _ _ _ _ _ _ _ _ _ _ _ hfree => simp [hfree] at hlock
  | failed _ _ _ hfree => simp [hfree] at hlock
  | held _ _ hfree => simp [hfree] at hlock

end RowMove

theorem rowsMove_same {w : RetentionWorld} {e : RetentionEvent} : RowsMove w e w.objects :=
  ⟨id, [], by simp, fun _ _ => .same, .inl rfl⟩

theorem rowsMove_update {w : RetentionWorld} {e : RetentionEvent} {id : Uuid}
    {p : RetentionObject → Bool} {set : RetentionObject → RetentionObject}
    (h : ∀ r ∈ w.objects, r.id = id → p r = true → RowMove w e r (set r)) :
    RowsMove w e (updateObject id p set w.objects) := by
  refine ⟨_, [], (List.append_nil _).symm, fun r hr => ?_, .inl rfl⟩
  split
  next hr' => exact h r hr hr'.1 hr'.2
  next => exact .same

/-! ## The invariant -/

/-- The run's revalidation allowed the deletion of the object. -/
def Allowed (q : RetentionRun) (key : String) : Prop :=
  ∃ f, q.finding = some f ∧ f.row.holds q.token f.now = true ∧ f.eligible = true ∧
    f.row.objectKey = key

/-- What a run knows in its phase. -/
def Fits (objects : List RetentionObject) (q : RetentionRun) : RetentionPhase → Prop
  | .finished _ | .crashed => True
  | .started => q.sent = none
  | .claimed c => (∃ r ∈ objects, candidateOf r = c) ∧ q.sent = none
  | .rowLocked c row now | .policyRead c row now _ =>
    row ∈ objects ∧ candidateOf row = c ∧ row.holds q.token now = true ∧ q.sent = none
  | .eligible c => (∃ r ∈ objects, candidateOf r = c) ∧ Allowed q c.objectKey ∧ q.sent = none
  | .deleting c | .timedOut c =>
    (∃ r ∈ objects, candidateOf r = c) ∧ q.sent = some c.objectKey
  | .answered c result =>
    (∃ r ∈ objects, candidateOf r = c) ∧ q.sent = some c.objectKey ∧ q.answer = some result

structure Sound (w : RetentionWorld) : Prop where
  ids : ∀ r ∈ w.objects, ∀ r' ∈ w.objects, r.id = r'.id → r = r'
  keys : ∀ r ∈ w.objects, ∀ r' ∈ w.objects, r.objectKey = r'.objectKey → r = r'
  checks : ∀ r ∈ w.objects, r.stateCheck = true
  fits : ∀ (k : Nat) q, w.runs[k]? = some q → Fits w.objects q q.phase
  sent : ∀ (k : Nat) q key, w.runs[k]? = some q → q.sent = some key → Allowed q key
  locks : ∀ (i j : Nat) p q id, w.runs[i]? = some p → w.runs[j]? = some q →
    p.phase.lockedId = some id → q.phase.lockedId = some id → i = j
  deletions : ∀ d ∈ w.deletions, ∃ q, w.runs[d.run]? = some q ∧ q.sent = some d.objectKey

theorem lockedId_of_isOver {phase : RetentionPhase} (h : phase.isOver = true) :
    phase.lockedId = none := by
  cases phase with
  | rowLocked | policyRead => cases h
  | _ => rfl

theorem fits_of_isOver {objects : List RetentionObject} {q : RetentionRun} {phase : RetentionPhase}
    (h : phase.isOver = true) : Fits objects q phase := by
  cases phase <;> trivial

theorem isLocked_of_lockedId {w : RetentionWorld} {k : Nat} {q : RetentionRun} {id : Uuid}
    (hq : w.runs[k]? = some q) (hlock : q.phase.lockedId = some id) : w.isLocked id = true :=
  List.any_eq_true.2 ⟨q, List.mem_of_getElem? hq, beq_iff_eq.2 hlock⟩

/-- The rows of a step. -/
theorem Move.rows {w w' : RetentionWorld} {e : RetentionEvent} (hw : Sound w)
    (h : Move w e w') : RowsMove w e w'.objects := by
  cases h with
  | kept hobjects => exact hobjects ▸ rowsMove_same
  | started q hphase hsent hfinding hanswer hobjects => exact hobjects ▸ rowsMove_same
  | deleted k q key hq hsent hobjects => exact hobjects ▸ rowsMove_same
  | held id hold he hlock hobjects =>
    rw [hobjects]
    exact rowsMove_update fun r _ hid _ => .held hold (hid ▸ he) (hid ▸ hlock)
  | added row he hrow hobjects =>
    exact ⟨id, [row], by simpa using hobjects, fun _ _ => .same, .inr ⟨row, rfl, hrow⟩⟩
  | ran k q q' he hq hmove =>
    have hfits := hw.fits k q hq
    generalize w'.objects = objects at hmove
    cases hmove with
    | quit | locked | policyRead | found | sent | answered | timedOut => exact rowsMove_same
    | claimed _ now enabled skip row hphase hrow hclaimable hlock =>
      refine rowsMove_update fun r hr hid _ => ?_
      rw [hw.ids r hr row hrow hid]
      exact .claimed _ _ (RetentionObject.isFinal_of_claimable hclaimable) hlock
    | invalidated _ c row now enabled hphase =>
      rw [hphase] at hfits
      obtain ⟨hrow, -, hholds, -⟩ := hfits
      refine rowsMove_update fun r hr hid _ => ?_
      rw [hw.ids r hr row hrow hid]
      exact .invalidated k q he hq (by rw [hphase]; rfl) (RetentionObject.holds_iff.1 hholds).1
    | completed _ c result now close status hphase hlock =>
      refine rowsMove_update fun r hr hid hholds => ?_
      exact .completed k q c result now close (by cases he; rfl) hq hphase hid hholds (hid ▸ hlock)
    | failed _ c now close phase hover hphase hlock =>
      exact rowsMove_update fun r hr hid hholds => .failed q.token now hholds (hid ▸ hlock)

namespace RowsMove

variable {w : RetentionWorld} {e : RetentionEvent} {objects : List RetentionObject}

theorem mem_cases (h : RowsMove w e objects) {r' : RetentionObject} (hr' : r' ∈ objects) :
    (∃ r ∈ w.objects, RowMove w e r r') ∨ w.insertable r' = true := by
  obtain ⟨g, added, rfl, hg, hadded⟩ := h
  rcases List.mem_append.1 hr' with hr' | hr'
  · obtain ⟨r, hr, rfl⟩ := List.mem_map.1 hr'
    exact .inl ⟨r, hr, hg r hr⟩
  · rcases hadded with rfl | ⟨row, rfl, hrow⟩
    · cases hr'
    · exact .inr (List.mem_singleton.1 hr' ▸ hrow)

theorem exists_move (h : RowsMove w e objects) {r : RetentionObject} (hr : r ∈ w.objects) :
    ∃ r' ∈ objects, RowMove w e r r' := by
  obtain ⟨g, added, rfl, hg, -⟩ := h
  exact ⟨g r, List.mem_append_left _ (List.mem_map_of_mem hr), hg r hr⟩

/-- A column that no step changes, and that a new row has for itself, stays unique. -/
theorem unique {β : Type} (col : RetentionObject → β)
    (hcol : ∀ r r', RowMove w e r r' → col r' = col r)
    (hnew : ∀ row, w.insertable row = true → ∀ r ∈ w.objects, col r ≠ col row)
    (hw : ∀ r ∈ w.objects, ∀ r' ∈ w.objects, col r = col r' → r = r')
    (h : RowsMove w e objects) : ∀ r ∈ objects, ∀ r' ∈ objects, col r = col r' → r = r' := by
  obtain ⟨g, added, rfl, hg, hadded⟩ := h
  have hmapped : ∀ r ∈ w.objects.map g, ∀ row ∈ added, col r ≠ col row := by
    intro r hr row hrow
    obtain ⟨s, hs, rfl⟩ := List.mem_map.1 hr
    rcases hadded with rfl | ⟨row', rfl, hins⟩
    · cases hrow
    · rw [List.mem_singleton.1 hrow, hcol _ _ (hg s hs)]
      exact hnew row' hins s hs
  intro r hr r' hr' heq
  rcases List.mem_append.1 hr with hr | hr <;> rcases List.mem_append.1 hr' with hr' | hr'
  · obtain ⟨s, hs, rfl⟩ := List.mem_map.1 hr
    obtain ⟨s', hs', rfl⟩ := List.mem_map.1 hr'
    rw [hcol _ _ (hg s hs), hcol _ _ (hg s' hs')] at heq
    rw [hw s hs s' hs' heq]
  · exact absurd heq (hmapped r hr r' hr')
  · exact absurd heq.symm (hmapped r' hr' r hr)
  · rcases hadded with rfl | ⟨row, rfl, -⟩
    · cases hr
    · rw [List.mem_singleton.1 hr, List.mem_singleton.1 hr']

end RowsMove

theorem insertable_ne {w : RetentionWorld} {row : RetentionObject} (h : w.insertable row = true) :
    row.status = .candidate ∧ row.stateCheck = true ∧
      ∀ r ∈ w.objects, r.id ≠ row.id ∧ r.objectKey ≠ row.objectKey := by
  unfold insertable at h
  rw [Bool.and_eq_true, Bool.and_eq_true, beq_iff_eq, List.all_eq_true] at h
  refine ⟨h.1.1, h.1.2, fun r hr => ?_⟩
  have hr := h.2 r hr
  rw [Bool.and_eq_true, Bool.and_eq_true] at hr
  exact ⟨bne_iff_ne.1 hr.1.1, bne_iff_ne.1 hr.1.2⟩

/-! ## The runs in a step -/

/-- A run that does not move keeps what it knows when its locked row stays. -/
theorem Fits.mono {objects objects' : List RetentionObject} {q : RetentionRun}
    (hcandidate : ∀ r ∈ objects, ∃ r' ∈ objects', candidateOf r' = candidateOf r)
    (hlocked : ∀ r ∈ objects, q.phase.lockedId = some r.id → r ∈ objects')
    (h : Fits objects q q.phase) : Fits objects' q q.phase := by
  have hexists : ∀ {c}, (∃ r ∈ objects, candidateOf r = c) → ∃ r ∈ objects', candidateOf r = c := by
    rintro c ⟨r, hr, rfl⟩
    exact hcandidate r hr
  cases hphase : q.phase with
  | finished | crashed => trivial
  | started =>
    rw [hphase] at h
    exact h
  | rowLocked c row now =>
    rw [hphase] at h
    exact ⟨hlocked row h.1 (by rw [hphase]; rfl), h.2⟩
  | policyRead c row now enabled =>
    rw [hphase] at h
    exact ⟨hlocked row h.1 (by rw [hphase]; rfl), h.2⟩
  | claimed c | eligible c | deleting c | answered c result | timedOut c =>
    rw [hphase] at h
    exact ⟨hexists h.1, h.2⟩

/-- The run that moves. -/
theorem RunMove.fits {w : RetentionWorld} {q q' : RetentionRun} {e : RetentionEvent}
    {objects : List RetentionObject} (hw : Sound w) (hfits : Fits w.objects q q.phase)
    (hrows : RowsMove w e objects) (h : RunMove w q e q' objects) : Fits objects q' q'.phase := by
  cases h with
  | quit _ phase hphase => exact fits_of_isOver hphase
  | claimed k now enabled skip row hphase hrow hclaimable hlock =>
    rw [hphase] at hfits
    obtain ⟨r', hr', hmove⟩ := hrows.exists_move hrow
    exact ⟨⟨r', hr', hmove.candidate_eq⟩, hfits⟩
  | locked k now c row hphase hrow hid hholds hlock =>
    rw [hphase] at hfits
    obtain ⟨⟨r, hr, rfl⟩, hsent⟩ := hfits
    exact ⟨hrow, by rw [hw.ids row hrow r hr hid], hholds, hsent⟩
  | policyRead k c row now hphase =>
    rw [hphase] at hfits
    exact hfits
  | found k c f hphase hstore heligible =>
    rw [hphase] at hfits
    obtain ⟨hrow, hc, hholds, hsent⟩ := hfits
    exact ⟨⟨f.row, hrow, hc⟩, ⟨f, rfl, hholds, heligible, by rw [← hc]; rfl⟩, hsent⟩
  | invalidated | completed => trivial
  | sent k c hphase =>
    rw [hphase] at hfits
    exact ⟨hfits.1, rfl⟩
  | answered k c result hphase =>
    rw [hphase] at hfits
    exact ⟨hfits.1, hfits.2, rfl⟩
  | timedOut k c hphase =>
    rw [hphase] at hfits
    exact hfits
  | failed k c now close phase hover hphase hlock => exact fits_of_isOver hover

/-- A run never changes its token. -/
theorem RunMove.token_eq {w : RetentionWorld} {q q' : RetentionRun} {e : RetentionEvent}
    {objects : List RetentionObject} (h : RunMove w q e q' objects) : q'.token = q.token := by
  cases h <;> rfl

theorem RunMove.lockedId_cases {w : RetentionWorld} {q q' : RetentionRun} {e : RetentionEvent}
    {objects : List RetentionObject} {id : Uuid} (h : RunMove w q e q' objects)
    (hid : q'.phase.lockedId = some id) : q.phase.lockedId = some id ∨ w.isLocked id = false := by
  cases h with
  | locked k now c row hphase hrow hrid hholds hlock => exact .inr (Option.some.inj hid ▸ hlock)
  | policyRead k c row now hphase => exact .inl (by rw [hphase]; exact hid)
  | quit _ phase hphase => cases (lockedId_of_isOver hphase).symm.trans hid
  | failed k c now close phase hover => cases (lockedId_of_isOver hover).symm.trans hid
  | _ => cases hid

/-- What a revalidation allowed stays allowed, and a request is sent for what is allowed. -/
theorem RunMove.allowed {w : RetentionWorld} {q q' : RetentionRun} {e : RetentionEvent}
    {objects : List RetentionObject} (hfits : Fits w.objects q q.phase)
    (hsent : ∀ key, q.sent = some key → Allowed q key) (h : RunMove w q e q' objects) {key : String}
    (hkey : q'.sent = some key) : Allowed q' key := by
  cases h with
  | found k c f hphase hstore heligible =>
    rw [hphase] at hfits
    cases hfits.2.2.2.symm.trans hkey
  | sent k c hphase =>
    rw [hphase] at hfits
    obtain rfl := Option.some.inj hkey
    exact hfits.2.1
  | _ => exact hsent key hkey

/-- A request is sent once. -/
theorem RunMove.sent_eq {w : RetentionWorld} {q q' : RetentionRun} {e : RetentionEvent}
    {objects : List RetentionObject} (hfits : Fits w.objects q q.phase)
    (h : RunMove w q e q' objects) {key : String} (hkey : q.sent = some key) :
    q'.sent = some key := by
  cases h with
  | sent k c hphase =>
    rw [hphase] at hfits
    cases hfits.2.2.symm.trans hkey
  | _ => exact hkey

/-! ## The invariant holds -/

/-- The runs of a step: one may move, one may be new. -/
theorem Move.runs {w w' : RetentionWorld} {e : RetentionEvent} (h : Move w e w') {k : Nat}
    {q' : RetentionRun} (hq' : w'.runs[k]? = some q') :
    (w.runs[k]? = some q' ∧ (e.runOf = some k → w'.objects = w.objects)) ∨
      (∃ q, w.runs[k]? = some q ∧ e.runOf = some k ∧ RunMove w q e q' w'.objects) ∨
      ((q'.phase = .started ∨ q'.phase.isOver = true) ∧ q'.sent = none ∧ q'.finding = none ∧
        q'.answer = none) := by
  cases h with
  | kept hobjects hruns => exact .inl ⟨hruns ▸ hq', fun _ => hobjects⟩
  | deleted j q key hq hsent hobjects hruns => exact .inl ⟨hruns ▸ hq', fun _ => hobjects⟩
  | held id hold he hlock hobjects hruns =>
    subst he
    exact .inl ⟨hruns ▸ hq', fun hk => by cases hk⟩
  | added row he hrow hobjects hruns =>
    subst he
    exact .inl ⟨hruns ▸ hq', fun hk => by cases hk⟩
  | started q hphase hsent hfinding hanswer hobjects hruns =>
    rw [hruns, List.getElem?_append] at hq'
    split at hq'
    · exact .inl ⟨hq', fun _ => hobjects⟩
    · have := List.mem_singleton.1 (List.mem_of_getElem? hq')
      subst this
      exact .inr (.inr ⟨hphase, hsent, hfinding, hanswer⟩)
  | ran j q q'' he hq hmove hruns =>
    rw [hruns, List.getElem?_set] at hq'
    split at hq'
    next hjk =>
      subst hjk
      split at hq'
      · cases hq'
        exact .inr (.inl ⟨q, hq, he, hmove⟩)
      · cases hq'
    next hjk =>
      refine .inl ⟨hq', fun hk => absurd ?_ hjk⟩
      exact Option.some.inj (he.symm.trans hk)

theorem Move.fits {w w' : RetentionWorld} {e : RetentionEvent} (hw : Sound w) (h : Move w e w')
    {k : Nat} {q' : RetentionRun} (hq' : w'.runs[k]? = some q') :
    Fits w'.objects q' q'.phase := by
  have hrows := h.rows hw
  rcases h.runs hq' with ⟨hq, hsame⟩ | ⟨q, hq, -, hmove⟩ | ⟨hphase, hsent, -⟩
  · by_cases hk : e.runOf = some k
    · rw [hsame hk]
      exact hw.fits k q' hq
    · refine (hw.fits k q' hq).mono (fun r hr => ?_) (fun r hr hlocks => ?_)
      · obtain ⟨r', hr', hmove⟩ := hrows.exists_move hr
        exact ⟨r', hr', hmove.candidate_eq⟩
      · obtain ⟨r', hr', hmove⟩ := hrows.exists_move hr
        rcases hmove.eq_of_locked (isLocked_of_lockedId hq hlocks) with rfl | ⟨j, q, hj, hqj, hlocks'⟩
        · exact hr'
        · rw [hw.locks j k q q' r.id hqj hq hlocks' hlocks] at hj
          exact absurd hj hk
  · exact hmove.fits hw (hw.fits k q hq) hrows
  · rcases hphase with hphase | hphase
    · rw [hphase]
      exact hsent
    · exact fits_of_isOver hphase

theorem Move.sent {w w' : RetentionWorld} {e : RetentionEvent} (hw : Sound w) (h : Move w e w')
    {k : Nat} {q' : RetentionRun} {key : String} (hq' : w'.runs[k]? = some q')
    (hkey : q'.sent = some key) : Allowed q' key := by
  rcases h.runs hq' with ⟨hq, -⟩ | ⟨q, hq, -, hmove⟩ | ⟨-, hsent, -⟩
  · exact hw.sent k q' key hq hkey
  · exact hmove.allowed (hw.fits k q hq) (fun key => hw.sent k q key hq) hkey
  · cases hsent.symm.trans hkey

/-- A lock that a step takes was free. -/
theorem Move.lockedId {w w' : RetentionWorld} {e : RetentionEvent} (h : Move w e w') {k : Nat}
    {q' : RetentionRun} {id : Uuid} (hq' : w'.runs[k]? = some q') (hid : q'.phase.lockedId = some id) :
    (∃ q, w.runs[k]? = some q ∧ q.phase.lockedId = some id) ∨
      (e.runOf = some k ∧ w.isLocked id = false) := by
  rcases h.runs hq' with ⟨hq, -⟩ | ⟨q, hq, he, hmove⟩ | ⟨hphase, -, -⟩
  · exact .inl ⟨q', hq, hid⟩
  · rcases hmove.lockedId_cases hid with hlocks | hfree
    · exact .inl ⟨q, hq, hlocks⟩
    · exact .inr ⟨he, hfree⟩
  · rcases hphase with hphase | hphase
    · rw [hphase] at hid
      cases hid
    · cases (lockedId_of_isOver hphase).symm.trans hid

/-- Requests stay sent. -/
theorem Move.sent_mono {w w' : RetentionWorld} {e : RetentionEvent} (hw : Sound w)
    (h : Move w e w') {k : Nat} {q : RetentionRun} {key : String} (hq : w.runs[k]? = some q)
    (hkey : q.sent = some key) : ∃ q', w'.runs[k]? = some q' ∧ q'.sent = some key := by
  cases h with
  | kept hobjects hruns => exact ⟨q, hruns ▸ hq, hkey⟩
  | deleted j p key' hp hsent hobjects hruns => exact ⟨q, hruns ▸ hq, hkey⟩
  | held id hold he hlock hobjects hruns => exact ⟨q, hruns ▸ hq, hkey⟩
  | added row he hrow hobjects hruns => exact ⟨q, hruns ▸ hq, hkey⟩
  | started p hphase hsent hfinding hanswer hobjects hruns =>
    refine ⟨q, ?_, hkey⟩
    rw [hruns, List.getElem?_append_left (List.getElem?_eq_some_iff.1 hq).1]
    exact hq
  | ran j p p' he hp hmove hruns =>
    rw [hruns, List.getElem?_set]
    split
    next hjk =>
      subst hjk
      obtain rfl := Option.some.inj (hp.symm.trans hq)
      rw [if_pos (List.getElem?_eq_some_iff.1 hq).1]
      exact ⟨p', rfl, hmove.sent_eq (hw.fits j p hp) hkey⟩
    next => exact ⟨q, hq, hkey⟩

theorem Move.deletions {w w' : RetentionWorld} {e : RetentionEvent} (hw : Sound w)
    (h : Move w e w') {d : RetentionDeletion} (hd : d ∈ w'.deletions) :
    ∃ q, w'.runs[d.run]? = some q ∧ q.sent = some d.objectKey := by
  have hold : d ∈ w.deletions → ∃ q, w'.runs[d.run]? = some q ∧ q.sent = some d.objectKey := by
    intro hd
    obtain ⟨q, hq, hkey⟩ := hw.deletions d hd
    exact h.sent_mono hw hq hkey
  cases h with
  | deleted k q key hq hsent hobjects hruns hdeletions =>
    rw [hdeletions] at hd
    rcases List.mem_append.1 hd with hd | hd
    · exact hold hd
    · rw [List.mem_singleton.1 hd, hruns]
      exact ⟨q, hq, hsent⟩
  | kept _ _ hdeletions | started _ _ _ _ _ _ _ hdeletions | held _ _ _ _ _ _ hdeletions
  | added _ _ _ _ _ hdeletions | ran _ _ _ _ _ _ _ hdeletions => exact hold (hdeletions ▸ hd)

/-- **One step keeps the invariant.** -/
theorem Move.sound {w w' : RetentionWorld} {e : RetentionEvent} (hw : Sound w) (h : Move w e w') :
    Sound w' where
  ids := (h.rows hw).unique (·.id) (fun _ _ h => h.id_eq)
    (fun _ hrow r hr => ((insertable_ne hrow).2.2 r hr).1) hw.ids
  keys := (h.rows hw).unique (·.objectKey) (fun _ _ h => h.objectKey_eq)
    (fun _ hrow r hr => ((insertable_ne hrow).2.2 r hr).2) hw.keys
  checks r' hr' := by
    rcases (h.rows hw).mem_cases hr' with ⟨r, hr, hmove⟩ | hrow
    · exact hmove.stateCheck (hw.checks r hr)
    · exact (insertable_ne hrow).2.1
  fits k q' hq' := h.fits hw hq'
  sent k q' key hq' hkey := h.sent hw hq' hkey
  locks i j p' q' id hp' hq' hpid hqid := by
    rcases h.lockedId hp' hpid with ⟨p, hp, hplocks⟩ | ⟨hi, hfree⟩ <;>
      rcases h.lockedId hq' hqid with ⟨q, hq, hqlocks⟩ | ⟨hj, hfree'⟩
    · exact hw.locks i j p q id hp hq hplocks hqlocks
    · exact absurd (isLocked_of_lockedId hp hplocks) (by simp [hfree'])
    · exact absurd (isLocked_of_lockedId hq hqlocks) (by simp [hfree])
    · exact Option.some.inj (hi.symm.trans hj)
  deletions d hd := h.deletions hw hd

/-- An empty table, no runs. -/
def start (policies : RetentionObjectClass → Option Bool) (store : Store) (stored : List String) :
    RetentionWorld :=
  ⟨[], policies, store, stored, [], []⟩

theorem start_sound (policies : RetentionObjectClass → Option Bool) (store : Store)
    (stored : List String) : Sound (start policies store stored) := by
  constructor <;> simp [start]

abbrev run (w : RetentionWorld) (events : List RetentionEvent) : RetentionWorld :=
  Runs.run step w events

theorem run_sound {w : RetentionWorld} (hw : Sound w) (events : List RetentionEvent) :
    Sound (w.run events) :=
  Runs.run_invariant events hw fun w e hw => (step_move w e).sound hw

/-! ## The history of a run -/

/-- In the run `events` from `w`, run `k` locked the row, which carried its token, then read a
policy that enables the category, then a record that references the row. -/
structure Revalidated (w : RetentionWorld) (events : List RetentionEvent) (k : Nat) (token : Uuid)
    (row : RetentionObject) (now : Time) : Prop where
  rowLocked : ∃ pre post, events = pre ++ .lockRow k now :: post ∧ row ∈ (w.run pre).objects
  policyRead : ∃ pre post, events = pre ++ .readPolicy k :: post ∧
    (w.run pre).policies row.category = some true
  sourceRead : ∃ pre post, events = pre ++ .readSource k :: post ∧ row ∈ (w.run pre).objects ∧
    row.referenced (w.run pre).store = true
  holds : row.holds token now = true
  eligible : row.eligibleAt ≤ now
  notOnHold : row.onHold now = false

/-- Where the contents of a run come from. -/
structure Recorded (w : RetentionWorld) (events : List RetentionEvent) (k : Nat)
    (q : RetentionRun) : Prop where
  rowLocked : ∀ c row now, q.phase = .rowLocked c row now →
    ∃ pre post, events = pre ++ .lockRow k now :: post ∧ row ∈ (w.run pre).objects
  policyRead : ∀ c row now enabled, q.phase = .policyRead c row now enabled →
    (∃ pre post, events = pre ++ .lockRow k now :: post ∧ row ∈ (w.run pre).objects) ∧
    ∃ pre post, events = pre ++ .readPolicy k :: post ∧
      (w.run pre).policies row.category = enabled
  finding : ∀ f, q.finding = some f →
    (∃ pre post, events = pre ++ .lockRow k f.now :: post ∧ f.row ∈ (w.run pre).objects) ∧
    (∃ pre post, events = pre ++ .readPolicy k :: post ∧
      (w.run pre).policies f.row.category = f.policyEnabled) ∧
    ∃ pre post, events = pre ++ .readSource k :: post ∧ f.row ∈ (w.run pre).objects ∧
      f.store = (w.run pre).store
  answer : ∀ result, q.answer = some result → .answerDelete k (.result result) ∈ events

theorem exists_split_append {e e' : RetentionEvent} {events : List RetentionEvent}
    {P : List RetentionEvent → Prop} (h : ∃ pre post, events = pre ++ e :: post ∧ P pre) :
    ∃ pre post, events ++ [e'] = pre ++ e :: post ∧ P pre := by
  obtain ⟨pre, post, rfl, hpre⟩ := h
  exact ⟨pre, post ++ [e'], by simp, hpre⟩

theorem Recorded.append {w : RetentionWorld} {events : List RetentionEvent} {k : Nat}
    {q : RetentionRun} (e : RetentionEvent) (h : Recorded w events k q) :
    Recorded w (events ++ [e]) k q where
  rowLocked c row now hphase := exists_split_append (h.rowLocked c row now hphase)
  policyRead c row now enabled hphase :=
    have h := h.policyRead c row now enabled hphase
    ⟨exists_split_append h.1, exists_split_append h.2⟩
  finding f hf :=
    have h := h.finding f hf
    ⟨exists_split_append h.1, exists_split_append h.2.1, exists_split_append h.2.2⟩
  answer result hresult := List.mem_append_left _ (h.answer result hresult)

/-- A run that holds no lock records its finding and its answer. -/
theorem recorded_of_unlocked {w : RetentionWorld} {events : List RetentionEvent} {k : Nat}
    {q : RetentionRun} {phase : RetentionPhase} (h : Recorded w events k q)
    (hphase : phase.lockedId = none) : Recorded w events k { q with phase } where
  rowLocked c row now hp := by
    subst hp
    cases hphase
  policyRead c row now enabled hp := by
    subst hp
    cases hphase
  finding := h.finding
  answer := h.answer

theorem RunMove.recorded {w : RetentionWorld} {events : List RetentionEvent} {k : Nat}
    {q q' : RetentionRun} {e : RetentionEvent} {objects : List RetentionObject}
    (hw : Sound (w.run events)) (hq : (w.run events).runs[k]? = some q) (he : e.runOf = some k)
    (h : Recorded w events k q) (hmove : RunMove (w.run events) q e q' objects) :
    Recorded w (events ++ [e]) k q' := by
  have happ := h.append e
  have hfits := hw.fits k q hq
  cases hmove with
  | quit _ phase hphase => exact recorded_of_unlocked happ (lockedId_of_isOver hphase)
  | failed _ c now close phase hover hphase hlock =>
    exact recorded_of_unlocked happ (lockedId_of_isOver hover)
  | locked _ now c row hphase hrow hid hholds hlock =>
    cases he
    refine ⟨fun c' row' now' hp => ?_, fun c' row' now' enabled hp => (by cases hp),
      happ.finding, happ.answer⟩
    cases hp
    exact ⟨events, [], rfl, hrow⟩
  | policyRead _ c row now hphase =>
    cases he
    refine ⟨fun c' row' now' hp => (by cases hp), fun c' row' now' enabled hp => ?_,
      happ.finding, happ.answer⟩
    cases hp
    exact ⟨happ.rowLocked c row now hphase, events, [], rfl, rfl⟩
  | found _ c f hphase hstore heligible =>
    cases he
    refine ⟨fun c' row' now' hp => (by cases hp), fun c' row' now' enabled hp => (by cases hp),
      fun f' hf => ?_, happ.answer⟩
    obtain rfl := Option.some.inj hf
    rw [hphase] at hfits
    have hread := happ.policyRead c f.row f.now f.policyEnabled hphase
    exact ⟨hread.1, hread.2, events, [], rfl, hfits.1, hstore⟩
  | answered _ c result hphase =>
    cases he
    refine ⟨fun c' row' now' hp => (by cases hp), fun c' row' now' enabled hp => (by cases hp),
      happ.finding, fun result' hresult => ?_⟩
    obtain rfl := Option.some.inj hresult
    exact List.mem_append_right _ (List.mem_singleton.2 rfl)
  | sent _ c hphase =>
    exact ⟨fun c' row' now' hp => (by cases hp), fun c' row' now' enabled hp => (by cases hp),
      happ.finding, happ.answer⟩
  | claimed | invalidated | timedOut | completed => exact recorded_of_unlocked happ rfl

theorem run_append_singleton (w : RetentionWorld) (events : List RetentionEvent)
    (e : RetentionEvent) : w.run (events ++ [e]) = (w.run events).step e :=
  Runs.run_append w events [e]

theorem run_recorded {w : RetentionWorld} (hw : Sound w) (hruns : w.runs = [])
    (events : List RetentionEvent) :
    ∀ (k : Nat) q, (w.run events).runs[k]? = some q → Recorded w events k q := by
  induction events using List.reverseRecOn with
  | nil =>
    intro k q hq
    rw [show (w.run []).runs = [] from hruns] at hq
    cases hq
  | append_singleton events e ih =>
    intro k q' hq'
    rw [run_append_singleton] at hq'
    rcases (step_move _ e).runs hq' with ⟨hq, -⟩ | ⟨q, hq, he, hmove⟩ |
      ⟨hphase, -, hfinding, hanswer⟩
    · exact (ih k q' hq).append e
    · exact hmove.recorded (run_sound hw events) hq he (ih k q hq)
    · refine ⟨fun c row now hp => ?_, fun c row now enabled hp => ?_, fun f hf => ?_,
        fun result hresult => ?_⟩
      · rcases hphase with hphase | hphase <;> rw [hp] at hphase <;> cases hphase
      · rcases hphase with hphase | hphase <;> rw [hp] at hphase <;> cases hphase
      · cases hfinding.symm.trans hf
      · cases hanswer.symm.trans hresult

/-! ## The guarantees -/

/-- `r'` is `r` but for its hold. -/
def SameButHold (r r' : RetentionObject) : Prop :=
  r' = { r with holdUntil := r'.holdUntil, holdReason := r'.holdReason }

theorem final_step {w : RetentionWorld} (hw : Sound w) (e : RetentionEvent) {r : RetentionObject}
    (hr : r ∈ w.objects) (hfinal : r.isFinal = true) :
    ∃ r' ∈ (w.step e).objects, r'.id = r.id ∧ r'.isFinal = true ∧ SameButHold r r' ∧
      ((∀ hold, e ≠ .setHold r.id hold) → r' = r) := by
  obtain ⟨r', hr', hmove⟩ := ((step_move w e).rows hw).exists_move hr
  refine ⟨r', hr', hmove.id_eq, ?_⟩
  rcases hmove.final hfinal with rfl | ⟨hold, he, rfl⟩
  · exact ⟨hfinal, rfl, fun _ => rfl⟩
  · exact ⟨hfinal, rfl, fun h => absurd he (h hold)⟩

theorem final_run {w : RetentionWorld} (hw : Sound w) (later : List RetentionEvent)
    {r : RetentionObject} (hr : r ∈ w.objects) (hfinal : r.isFinal = true) :
    ∃ r' ∈ (w.run later).objects, r'.id = r.id ∧ SameButHold r r' ∧
      ((∀ hold, .setHold r.id hold ∉ later) → r' = r) := by
  induction later generalizing w r with
  | nil => exact ⟨r, hr, rfl, rfl, fun _ => rfl⟩
  | cons e later ih =>
    obtain ⟨r₁, hr₁, hid₁, hfinal₁, hsame₁, hkept₁⟩ := final_step hw e hr hfinal
    obtain ⟨r₂, hr₂, hid₂, hsame₂, hkept₂⟩ := ih ((step_move w e).sound hw) hr₁ hfinal₁
    refine ⟨r₂, hr₂, hid₂.trans hid₁, ?_, fun h => ?_⟩
    · unfold SameButHold at *
      rw [hsame₂, hsame₁]
    · rw [hkept₂ fun hold hmem => h hold (hid₁ ▸ List.mem_cons_of_mem e hmem)]
      exact hkept₁ fun hold he => h hold (he ▸ List.mem_cons_self)

theorem completed_step {w : RetentionWorld} (hw : Sound w) (e : RetentionEvent)
    {r' : RetentionObject} (hr' : r' ∈ (w.step e).objects) (hstatus : r'.status = .completed) :
    ∃ r ∈ w.objects, r.id = r'.id ∧ (r.status = .completed ∨
      ∃ k now close q result, e = .complete k now close ∧ w.runs[k]? = some q ∧
        q.sent = some r.objectKey ∧ q.answer = some result ∧ r.holds q.token now = true ∧
        r' = r.completed result now) := by
  rcases ((step_move w e).rows hw).mem_cases hr' with ⟨r, hr, hmove⟩ | hrow
  · refine ⟨r, hr, hmove.id_eq.symm, ?_⟩
    cases hmove with
    | same | held => exact .inl hstatus
    | claimed | invalidated | failed => cases hstatus
    | completed k q c result now close he hq hphase hid hholds hlock =>
      have hfits := hw.fits k q hq
      rw [hphase] at hfits
      obtain ⟨⟨row, hrow, rfl⟩, hsent, hanswer⟩ := hfits
      have := hw.ids r hr row hrow hid
      subst this
      exact .inr ⟨k, now, close, q, result, he, hq, hsent, hanswer, hholds, rfl⟩
  · cases (insertable_ne hrow).1.symm.trans hstatus

/-- **Retention.**  After any interleaving: every deleted object belongs to a run that
revalidated it with its own token; the current tokens of an object agree; a row is completed
only by a run that holds its current token, after its delete was answered; final rows change
no more, but for the hold an operator sets on them. -/
theorem run_retention (policies : RetentionObjectClass → Option Bool) (store : Store)
    (stored : List String) (events : List RetentionEvent) :
    let w := (start policies store stored).run events
    (∀ d ∈ w.deletions, ∃ q row now, w.runs[d.run]? = some q ∧ row.objectKey = d.objectKey ∧
      Revalidated (start policies store stored) events d.run q.token row now) ∧
    (∀ r ∈ w.objects, ∀ r' ∈ w.objects, r.id = r'.id ∨ r.objectKey = r'.objectKey →
      ∀ token token' now now', r.holds token now = true → r'.holds token' now' = true →
        token = token') ∧
    (∀ e, ∀ r' ∈ (w.step e).objects, r'.status = .completed →
      ∃ r ∈ w.objects, r.id = r'.id ∧ (r.status = .completed ∨
        ∃ k now close q result, e = .complete k now close ∧ w.runs[k]? = some q ∧
          q.sent = some r.objectKey ∧ .answerDelete k (.result result) ∈ events ∧
          r.holds q.token now = true ∧ r' = r.completed result now)) ∧
    (∀ later, ∀ r ∈ w.objects, r.isFinal = true →
      ∃ r' ∈ (w.run later).objects, r'.id = r.id ∧ SameButHold r r' ∧
        ((∀ hold, .setHold r.id hold ∉ later) → r' = r)) := by
  intro w
  have h0 := start_sound policies store stored
  have hw : Sound w := run_sound h0 events
  have hrecorded := run_recorded h0 rfl events
  refine ⟨fun d hd => ?_, fun r hr r' hr' hsame token token' now now' htoken htoken' => ?_,
    fun e r' hr' hstatus => ?_, fun later r hr hfinal => final_run hw later hr hfinal⟩
  · obtain ⟨q, hq, hsent⟩ := hw.deletions d hd
    obtain ⟨f, hf, hholds, heligible, hkey⟩ := hw.sent d.run q d.objectKey hq hsent
    obtain ⟨hlocked, hpolicy, pre, post, hevents, hrow, hstore⟩ :=
      (hrecorded d.run q hq).finding f hf
    unfold RetentionFinding.eligible at heligible
    rw [Bool.and_eq_true, Bool.and_eq_true, Bool.and_eq_true, beq_iff_eq, decide_eq_true_eq,
      Bool.not_eq_true'] at heligible
    obtain ⟨⟨⟨henabled, hafter⟩, hhold⟩, href⟩ := heligible
    refine ⟨q, f.row, f.now, hq, hkey, hlocked, ?_, ⟨pre, post, hevents, hrow, hstore ▸ href⟩, hholds,
      hafter, hhold⟩
    simpa only [henabled] using hpolicy
  · have : r = r' := hsame.elim (hw.ids r hr r' hr') (hw.keys r hr r' hr')
    subst this
    exact Option.some.inj ((RetentionObject.holds_iff.1 htoken).2.1.symm.trans
      (RetentionObject.holds_iff.1 htoken').2.1)
  · obtain ⟨r, hr, hid, hcompleted | ⟨k, now, close, q, result, he, hq, hsent, hanswer, hholds,
      rfl⟩⟩ := completed_step hw e hr' hstatus
    · exact ⟨r, hr, hid, .inl hcompleted⟩
    · exact ⟨r, hr, hid, .inr ⟨k, now, close, q, result, he, hq, hsent,
        (hrecorded k q hq).answer result hanswer, hholds, rfl⟩⟩

end RetentionWorld

namespace Sample

/-! ## A run -/

def retainedKey : String := "teachers/1/source.docx"

def retainedStore : Store :=
  { Store.empty with
    submissions := [⟨5, 1, 2, "a.docx", .docx, 10, 0, retainedKey, none, .ready, none⟩] }

def retentionRow : RetentionObject where
  id := 9
  ownerId := 1
  category := .submissionSource
  sourceRecordId := 5
  objectKey := retainedKey
  retentionAnchorAt := 0
  eligibleAt := 10
  status := .candidate
  holdUntil := none
  holdReason := none
  claimToken := none
  leaseExpiresAt := none
  claimCount := 0
  nextAttemptAt := none
  lastErrorCode := none
  storageResult := none
  deletedAt := none
  completedAt := none

def retentionEvents : List RetentionEvent :=
  [.addCandidate retentionRow, .start 7 true, .claim 0 20 (fun _ => some true) fun _ => false,
    .lockRow 0 21, .readPolicy 0, .readSource 0, .sendDelete 0, .applyDelete 0,
    .answerDelete 0 (.result .deleted), .complete 0 22 .committed]

example :
    let w := (RetentionWorld.start (fun _ => some true) retainedStore [retainedKey]).run
      retentionEvents
    w.deletions = [⟨0, retainedKey⟩] ∧ w.objects.map (·.status) = [.completed] := by
  decide +kernel

end Sample

end PaperGrading
