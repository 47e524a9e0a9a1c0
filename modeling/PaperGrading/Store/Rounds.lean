import PaperGrading.Store.Batches

/-!
# Scoring rounds

The dispatch version of an item numbers its scoring rounds.  Attempts are numbered in
the order of their claims, a claim always opens in the current round, and a round
whose item rests (or whose item has moved on) takes no more calls: its attempts are
the same rows for ever.

    Rounds holds of every reachable store                                          (after_rounds)
    RoundClosed is for ever, and so are the attempts of the round            (run_roundClosed)
-/

namespace PaperGrading

namespace Store

open Table

variable {env : Runtime} {R : GradingJob → GradingAttemptFailure → Prop}
  {keep : RubricVersion → Prop} {s s' : Store}

/-! ## Definitions -/

/-- Attempts of one item are ordered like their rounds; a running or succeeded attempt is the
last of its round, and after a success the item rests until its next round. -/
structure Rounds (s : Store) : Prop where
  le_version : ∀ a ∈ s.attempts, ∀ i ∈ s.items, a.gradingJobItemId = i.id →
    a.scoringRound ≤ i.dispatchVersion
  ordered : ∀ a ∈ s.attempts, ∀ b ∈ s.attempts, a.gradingJobItemId = b.gradingJobItemId →
    a.attemptNumber ≤ b.attemptNumber → a.scoringRound ≤ b.scoringRound
  sequence : ∀ a ∈ s.attempts, ∀ b ∈ s.attempts, a.gradingJobItemId = b.gradingJobItemId →
    a.scoringRound = b.scoringRound → a.attemptNumber < b.attemptNumber →
    a.callSequence < b.callSequence
  running_last : ∀ a ∈ s.attempts, a.status = .running → ∀ i ∈ s.items,
    a.gradingJobItemId = i.id → a.scoringRound = i.dispatchVersion ∧
      ∀ b ∈ s.attempts, b.gradingJobItemId = i.id → b.attemptNumber ≤ a.attemptNumber
  succeeded_last : ∀ a ∈ s.attempts, a.status = .succeeded → ∀ b ∈ s.attempts,
    b.gradingJobItemId = a.gradingJobItemId → b.scoringRound = a.scoringRound →
    b.attemptNumber ≤ a.attemptNumber
  succeeded_item : ∀ a ∈ s.attempts, a.status = .succeeded → ∀ i ∈ s.items,
    a.gradingJobItemId = i.id → a.scoringRound = i.dispatchVersion →
    i.status = .needsReview ∨ i.status = .completed

/-- The item takes no more calls in the round. -/
def RoundClosed (s : Store) (itemId : Uuid) (round : Nat) : Prop :=
  ∃ i ∈ s.items, i.id = itemId ∧
    (round < i.dispatchVersion ∨ (round = i.dispatchVersion ∧ i.isActive = false))

/-- The attempts of an item in a round. -/
def roundAttempts (s : Store) (itemId : Uuid) (round : Nat) : List GradingAttempt :=
  s.attempts.filter fun a => a.gradingJobItemId == itemId && a.scoringRound == round

/-! ## What the item trigger says about rounds -/

/-- An item row moves within its round or, once it rests, to the next one. -/
theorem itemUpdateCheck_round {old new : GradingJobItem} (h : itemUpdateCheck old new = .ok ()) :
    new.dispatchVersion = old.dispatchVersion ∨
      (new.dispatchVersion = old.dispatchVersion + 1 ∧
        (old.status = .needsReview ∨ old.status = .failed) ∧ new.status = .queued) := by
  obtain ⟨-, -, hver, -⟩ := itemUpdateCheck_eq_ok.1 h
  split at hver
  next hnew => exact .inr ⟨hver.1, hnew⟩
  · split at hver <;> exact .inl hver.1

/-- Within its round a reviewed item stays reviewed. -/
theorem itemUpdateCheck_settled {old new : GradingJobItem} (h : itemUpdateCheck old new = .ok ())
    (hold : old.status = .needsReview ∨ old.status = .completed)
    (hver : new.dispatchVersion = old.dispatchVersion) :
    new.status = .needsReview ∨ new.status = .completed := by
  obtain ⟨-, hmove, hver', -⟩ := itemUpdateCheck_eq_ok.1 h
  have hq : ¬((old.status = .needsReview ∨ old.status = .failed) ∧ new.status = .queued) := by
    intro hnew
    rw [if_pos hnew] at hver'
    omega
  rcases hold with hst | hst <;> rw [hst] at hmove hq <;> revert hmove hq <;>
    cases new.status <;> simp [GradingJobItem.allowedMove]

/-- Within its round an item that rests stays at rest. -/
theorem itemUpdateCheck_inactive {old new : GradingJobItem} (h : itemUpdateCheck old new = .ok ())
    (hold : old.isActive = false) (hver : new.dispatchVersion = old.dispatchVersion) :
    new.isActive = false := by
  obtain ⟨-, hmove, hver', -⟩ := itemUpdateCheck_eq_ok.1 h
  have hq : ¬((old.status = .needsReview ∨ old.status = .failed) ∧ new.status = .queued) := by
    intro hnew
    rw [if_pos hnew] at hver'
    omega
  unfold GradingJobItem.isActive at hold ⊢
  revert hmove hq hold
  cases old.status <;> cases new.status <;> simp [GradingJobItem.allowedMove]

/-- An item row across a move: itself, or changed under its trigger. -/
theorem Move.item_forward (hk : s.Keys) (h : Move env R keep s s') {i : GradingJobItem}
    (hi : i ∈ s.items) :
    ∃ i' ∈ s'.items, i'.id = i.id ∧ (i' = i ∨ itemUpdateCheck i i' = .ok ()) := by
  obtain ⟨i', hi', hid, hchk⟩ := (h.items_evolve hk).forward hi
  exact ⟨i', hi', congrArg ItemIdentity.id hid, hchk⟩

/-- A new item has no attempts. -/
theorem Move.item_backward (hw : WellFormed env s) (h : Move env R keep s s') {i' : GradingJobItem}
    (hi' : i' ∈ s'.items) :
    (∃ i ∈ s.items, i.id = i'.id ∧ (i' = i ∨ itemUpdateCheck i i' = .ok ())) ∨
      ∀ a ∈ s'.attempts, a.gradingJobItemId ≠ i'.id := by
  by_cases hold : ∃ i ∈ s.items, i.id = i'.id
  · obtain ⟨i, hi, hid⟩ := hold
    obtain ⟨i'', hi'', hid', hchk⟩ := h.item_forward hw.sound.keys hi
    have : i'' = i' := eq_of_key_eq (h.keys hw.sound.keys).items hi'' hi' (hid'.trans hid)
    exact .inl ⟨i, hi, hid, this ▸ hchk⟩
  · right
    intro a ha he
    rcases (h.attempts_evolve hw.sound.keys).backward ha with ⟨b, hb, hident, -⟩ | hchk
    · obtain ⟨i, hi, hid, -⟩ := hw.refs.attempts b hb
      exact hold ⟨i, hi, (hid.trans (congrArg AttemptIdentity.gradingJobItemId hident).symm).trans he⟩
    · obtain ⟨i, hi, -, -, -, -, ⟨hid, -⟩, -⟩ :=
        (rubricTotalOf_eq_some hw.sound).1 (attemptInsertCheck_eq_ok hchk).2.1
      exact hold ⟨i, hi, hid.trans he⟩

/-! ## Every move keeps the rounds in order -/

/-- Moves that write no attempt. -/
theorem Rounds.of_same (hw : WellFormed env s) (hl : s.Leased) (hr : s.Rounds)
    (h : Move env R keep s s') (hsame : s'.attempts = s.attempts) : s'.Rounds := by
  have hitem : ∀ a ∈ s.attempts, ∀ i' ∈ s'.items, a.gradingJobItemId = i'.id →
      ∃ i ∈ s.items, a.gradingJobItemId = i.id ∧ (i' = i ∨ itemUpdateCheck i i' = .ok ()) := by
    intro a ha i' hi' hai
    rcases h.item_backward hw hi' with ⟨i, hi, hid, hchk⟩ | hnone
    · exact ⟨i, hi, hai.trans hid.symm, hchk⟩
    · exact absurd hai (hnone a (hsame ▸ ha))
  refine ⟨?_, ?_, ?_, ?_, ?_, ?_⟩ <;> rw [hsame]
  · intro a ha i' hi' hai
    obtain ⟨i, hi, hai', rfl | hchk⟩ := hitem a ha i' hi' hai
    · exact hr.le_version a ha i' hi hai
    · exact (hr.le_version a ha i hi hai').trans (itemUpdateCheck_version hchk)
  · exact hr.ordered
  · exact hr.sequence
  · intro a ha har i' hi' hai
    obtain ⟨i, hi, hai', rfl | hchk⟩ := hitem a ha i' hi' hai
    · exact hr.running_last a ha har i' hi hai
    · -- an item with a running attempt runs, so its version stands
      have hrun : i.status = .running := (hl i hi).2 ⟨a, ha, hai', har⟩
      obtain ⟨hround, hlast⟩ := hr.running_last a ha har i hi hai'
      rcases itemUpdateCheck_round hchk with hver | ⟨-, hst, -⟩
      · exact ⟨hround.trans hver.symm, fun b hb hbi => hlast b hb (hbi.trans (hai.symm.trans hai'))⟩
      · rw [hrun] at hst
        rcases hst with hst | hst <;> cases hst
  · exact hr.succeeded_last
  · intro a ha has i' hi' hai hround
    obtain ⟨i, hi, hai', rfl | hchk⟩ := hitem a ha i' hi' hai
    · exact hr.succeeded_item a ha has i' hi hai hround
    · have hle := hr.le_version a ha i hi hai'
      have hge := itemUpdateCheck_version hchk
      exact itemUpdateCheck_settled hchk (hr.succeeded_item a ha has i hi hai' (by omega)) (by omega)

theorem claimedAttempt_number {prepared : GradingItemPreparation} {item : GradingJobItem} {hash : Hash}
    {now : Time} {id : Uuid} {b : GradingAttempt} (hb : b ∈ s.attempts)
    (hi : b.gradingJobItemId = item.id) :
    b.attemptNumber < (s.claimedAttempt prepared item hash now id).attemptNumber :=
  Nat.lt_succ_of_le (le_maxOrZero (p := fun a => a.gradingJobItemId == item.id)
    (f := (·.attemptNumber)) hb (by simpa using hi))

theorem claimedAttempt_sequence {prepared : GradingItemPreparation} {item : GradingJobItem}
    {hash : Hash} {now : Time} {id : Uuid} {b : GradingAttempt} (hb : b ∈ s.attempts)
    (hi : b.gradingJobItemId = item.id) (hround : b.scoringRound = item.dispatchVersion) :
    b.callSequence < (s.claimedAttempt prepared item hash now id).callSequence :=
  Nat.lt_succ_of_le (le_maxOrZero (p := fun a => a.gradingJobItemId == item.id &&
    a.scoringRound == item.dispatchVersion) (f := (·.callSequence)) hb (by simp [hi, hround]))

theorem Claimed.rounds {prepared : GradingItemPreparation} {job : GradingJob} {item : GradingJobItem}
    {attempt : GradingAttempt} {clock : Clock} {token : Uuid} (hl : s.Leased) (hr : s.Rounds)
    (h : Claimed s s' prepared job item attempt clock token) : s'.Rounds := by
  obtain ⟨hash, id, rfl⟩ := h.attempt_eq
  set new := s.claimedAttempt prepared item hash clock.worker id with hnew
  have hnumber : ∀ b ∈ s.attempts, b.gradingJobItemId = item.id → b.attemptNumber < new.attemptNumber :=
    fun b hb hi => claimedAttempt_number hb hi
  have hsequence : ∀ b ∈ s.attempts, b.gradingJobItemId = item.id →
      b.scoringRound = item.dispatchVersion → b.callSequence < new.callSequence :=
    fun b hb hi hround => claimedAttempt_sequence hb hi hround
  have hidle : ∀ b ∈ s.attempts, b.gradingJobItemId = item.id → b.status ≠ .running := by
    intro b hb hbi hbr
    have := (hl item h.item_mem).2 ⟨b, hb, hbi, hbr⟩
    rw [h.item_queued] at this
    cases this
  have hunsettled : ∀ b ∈ s.attempts, b.status = .succeeded → b.gradingJobItemId = item.id →
      b.scoringRound ≠ item.dispatchVersion := by
    intro b hb hbs hbi hround
    have := hr.succeeded_item b hb hbs item h.item_mem hbi hround
    rw [h.item_queued] at this
    rcases this with hst | hst <;> cases hst
  have hattempts : ∀ a, a ∈ s'.attempts ↔ a ∈ s.attempts ∨ a = new := by
    intro a
    rw [congrArg Store.attempts h.eq, List.mem_append, List.mem_singleton]
  have hitems : ∀ i ∈ s'.items, (i.id = item.id ∧ i.dispatchVersion = item.dispatchVersion) ∨
      (i ∈ s.items ∧ i.id ≠ item.id) := by
    intro i hi
    rw [congrArg Store.items h.eq] at hi
    rcases (mem_replaceRow h.item_mem).1 hi with rfl | hi
    · exact .inl ⟨rfl, rfl⟩
    · exact .inr hi
  refine ⟨?_, ?_, ?_, ?_, ?_, ?_⟩
  · intro a ha i hi hai
    rcases (hattempts a).1 ha with ha | rfl <;> rcases hitems i hi with ⟨hid, hver⟩ | ⟨hi, hne⟩
    · rw [hver]
      exact hr.le_version a ha item h.item_mem (hai.trans hid)
    · exact hr.le_version a ha i hi hai
    · exact hver.ge
    · exact absurd hai.symm hne
  · intro a ha b hb hab hle
    rcases (hattempts a).1 ha with ha | rfl <;> rcases (hattempts b).1 hb with hb | rfl
    · exact hr.ordered a ha b hb hab hle
    · exact hr.le_version a ha item h.item_mem hab
    · exact absurd (hnumber b hb hab.symm) (by omega)
    · exact le_rfl
  · intro a ha b hb hab hround hlt
    rcases (hattempts a).1 ha with ha | rfl <;> rcases (hattempts b).1 hb with hb | rfl
    · exact hr.sequence a ha b hb hab hround hlt
    · exact hsequence a ha hab hround
    · exact absurd (hnumber b hb hab.symm) (by omega)
    · omega
  · intro a ha har i hi hai
    rcases (hattempts a).1 ha with ha | rfl <;> rcases hitems i hi with ⟨hid, hver⟩ | ⟨hi, hne⟩
    · exact absurd har (hidle a ha (hai.trans hid))
    · obtain ⟨hround, hlast⟩ := hr.running_last a ha har i hi hai
      refine ⟨hround, fun b hb hbi => ?_⟩
      rcases (hattempts b).1 hb with hb | rfl
      · exact hlast b hb hbi
      · exact absurd hbi.symm hne
    · refine ⟨hver.symm, fun b hb hbi => ?_⟩
      rcases (hattempts b).1 hb with hb | rfl
      · exact (hnumber b hb (hbi.trans hid)).le
      · exact le_rfl
    · exact absurd hai.symm hne
  · intro a ha has b hb hba hround
    rcases (hattempts a).1 ha with ha | rfl
    · rcases (hattempts b).1 hb with hb | rfl
      · exact hr.succeeded_last a ha has b hb hba hround
      · exact absurd hround.symm (hunsettled a ha has hba.symm)
    · cases has
  · intro a ha has i hi hai hround
    rcases (hattempts a).1 ha with ha | rfl
    · rcases hitems i hi with ⟨hid, hver⟩ | ⟨hi, -⟩
      · exact absurd (hround.trans hver) (hunsettled a ha has (hai.trans hid))
      · exact hr.succeeded_item a ha has i hi hai hround
    · cases has

/-- Only a success leaves a succeeded attempt, and its item waits for review. -/
theorem closing_succeeded {now : Time} {job : GradingJob} {attempt attempt' : GradingAttempt}
    {item item' : GradingJobItem} (h : Closing R now job attempt item attempt' item')
    (hs : attempt'.status = .succeeded) : item'.status = .needsReview := by
  cases h with
  | succeeded => rfl
  | failed => cases hs
  | expired => cases hs

theorem Closed.rounds {job : GradingJob} {item item' : GradingJobItem}
    {attempt attempt' : GradingAttempt} {now : Time} (hk : s.Keys) (hr : s.Rounds)
    (h : Closed R s s' job item item' attempt attempt' now) : s'.Rounds := by
  obtain ⟨⟨-, hstopped⟩, hident, -, -⟩ := attemptUpdateCheck_eq_ok.1 h.attempt_check
  have hitemId : item'.id = item.id := congrArg ItemIdentity.id (itemUpdateCheck_identity h.item_check)
  have hver : item'.dispatchVersion = item.dispatchVersion := by
    rcases itemUpdateCheck_round h.item_check with hver | ⟨-, hst, -⟩
    · exact hver
    · rw [h.item_running] at hst
      rcases hst with hst | hst <;> cases hst
  have hlast : ∀ b ∈ s.attempts, b.gradingJobItemId = item.id → b.attemptNumber ≤ attempt.attemptNumber :=
    (hr.running_last attempt h.attempt_mem h.attempt_running item h.item_mem h.attempt_item).2
  have hunsettled : ∀ b ∈ s.attempts, b.status = .succeeded → b.gradingJobItemId = item.id →
      b.scoringRound ≠ item.dispatchVersion := by
    intro b hb hbs hbi hround
    have := hr.succeeded_item b hb hbs item h.item_mem hbi hround
    rw [h.item_running] at this
    rcases this with hst | hst <;> cases hst
  have hattempts : ∀ a ∈ s'.attempts, a = attempt' ∨ (a ∈ s.attempts ∧ a.id ≠ attempt.id) := by
    intro a ha
    rw [congrArg Store.attempts h.eq] at ha
    exact (mem_replaceRow h.attempt_mem).1 ha
  -- every attempt row repeats the identity of an old one
  have horigin : ∀ a ∈ s'.attempts, ∃ b ∈ s.attempts, a.toAttemptIdentity = b.toAttemptIdentity := by
    intro a ha
    rcases hattempts a ha with rfl | ⟨ha, -⟩
    · exact ⟨attempt, h.attempt_mem, hident⟩
    · exact ⟨a, ha, rfl⟩
  have hitems : ∀ i ∈ s'.items, i = item' ∨ (i ∈ s.items ∧ i.id ≠ item.id) := by
    intro i hi
    rw [congrArg Store.items h.eq] at hi
    exact (mem_replaceRow h.item_mem).1 hi
  refine ⟨?_, ?_, ?_, ?_, ?_, ?_⟩
  · intro a ha i hi hai
    obtain ⟨b, hb, hab⟩ := horigin a ha
    rw [hab] at hai ⊢
    rcases hitems i hi with rfl | ⟨hi, -⟩
    · rw [hver]
      exact hr.le_version b hb item h.item_mem (hai.trans hitemId)
    · exact hr.le_version b hb i hi hai
  · intro a ha b hb hab hle
    obtain ⟨x, hx, hax⟩ := horigin a ha
    obtain ⟨y, hy, hby⟩ := horigin b hb
    rw [hax, hby] at hab hle ⊢
    exact hr.ordered x hx y hy hab hle
  · intro a ha b hb hab hround hlt
    obtain ⟨x, hx, hax⟩ := horigin a ha
    obtain ⟨y, hy, hby⟩ := horigin b hb
    rw [hax, hby] at hab hround hlt ⊢
    exact hr.sequence x hx y hy hab hround hlt
  · intro a ha har i hi hai
    rcases hattempts a ha with rfl | ⟨ha, hne⟩
    · exact absurd har hstopped
    rcases hitems i hi with rfl | ⟨hi, -⟩
    · refine absurd (congrArg (·.id) (running_unique hk ha h.attempt_mem har h.attempt_running ?_)) hne
      rw [hai, hitemId, h.attempt_item]
    · obtain ⟨hround, hlast⟩ := hr.running_last a ha har i hi hai
      refine ⟨hround, fun b hb hbi => ?_⟩
      obtain ⟨y, hy, hby⟩ := horigin b hb
      rw [hby] at hbi ⊢
      exact hlast y hy hbi
  · intro a ha has b hb hba hround
    obtain ⟨y, hy, hby⟩ := horigin b hb
    rw [hby] at hba hround ⊢
    rcases hattempts a ha with rfl | ⟨ha, -⟩
    · rw [hident] at hba ⊢
      exact hlast y hy (hba.trans h.attempt_item)
    · exact hr.succeeded_last a ha has y hy hba hround
  · intro a ha has i hi hai hround
    rcases hattempts a ha with rfl | ⟨ha, -⟩ <;> rcases hitems i hi with rfl | ⟨hi, hne⟩
    · exact .inl (closing_succeeded h.closing has)
    · rw [hident, h.attempt_item] at hai
      exact absurd hai.symm hne
    · exact absurd (hround.trans hver) (hunsettled a ha has (hai.trans hitemId))
    · exact hr.succeeded_item a ha has i hi hai hround

theorem Move.rounds (hw : WellFormed env s) (hl : s.Leased) (hr : s.Rounds)
    (h : Move env R keep s s') : s'.Rounds := by
  have hsame := Rounds.of_same hw hl hr h
  cases h with
  | claimed h => exact h.rounds hl hr
  | closed h => exact h.rounds hw.sound.keys hr
  | inputs h => exact hsame h.1.attempts
  | switched h => exact hsame (by rw [h.eq])
  | cancelled h => exact hsame (by rw [h.eq])
  | retried h => exact hsame (by rw [h.eq])
  | created h => exact hsame (by rw [h.eq])
  | drafted h =>
    exact hsame (by rcases h.write with ⟨_, _, _, _, _, _, he⟩ | ⟨_, _, _, _, he⟩ <;> rw [he])
  | confirmed h => exact hsame (by rw [h.eq])

theorem rounds_empty : Rounds empty :=
  ⟨by simp [empty], by simp [empty], by simp [empty], by simp [empty], by simp [empty],
    by simp [empty]⟩

/-- **Rounds are in order in every reachable store.** -/
theorem after_rounds (as : List (Action env)) : (after env as).Rounds :=
  (after_invariant (P := fun t => t.Leased ∧ t.Rounds)
    (fun _ _ hw h ht => ⟨h.leased hw ht.1, h.rounds hw ht.1 ht.2⟩)
    ⟨by simp [Leased, empty], rounds_empty⟩ as).2

/-! ## Closed rounds -/

theorem Move.roundClosed (hk : s.Keys) (h : Move env R keep s s') {itemId : Uuid} {round : Nat}
    (hc : s.RoundClosed itemId round) : s'.RoundClosed itemId round := by
  obtain ⟨i, hi, hid, hround⟩ := hc
  obtain ⟨i', hi', hid', rfl | hchk⟩ := h.item_forward hk hi
  · exact ⟨i', hi', hid, hround⟩
  refine ⟨i', hi', hid'.trans hid, ?_⟩
  rcases itemUpdateCheck_round hchk with hver | ⟨hver, -, -⟩
  · rw [hver]
    exact hround.imp id fun h => ⟨h.1, itemUpdateCheck_inactive hchk h.2 hver⟩
  · rcases hround with hlt | ⟨he, -⟩ <;> exact .inl (by omega)

/-- A round that takes calls has an item that waits or runs in it. -/
theorem RoundClosed.not_active (hk : s.Keys) {itemId : Uuid} {round : Nat}
    (hc : s.RoundClosed itemId round) {i : GradingJobItem} (hi : i ∈ s.items) (hid : i.id = itemId)
    (hround : round = i.dispatchVersion) : i.isActive = false := by
  obtain ⟨j, hj, hjid, hjr⟩ := hc
  rw [eq_of_key_eq hk.items hj hi (hjid.trans hid.symm)] at hjr
  rcases hjr with hlt | ⟨-, h⟩
  · omega
  · exact h

theorem Move.roundAttempts (hk : s.Keys) (hr : s.Rounds) (h : Move env R keep s s') {itemId : Uuid}
    {round : Nat} (hc : s.RoundClosed itemId round) :
    s'.roundAttempts itemId round = s.roundAttempts itemId round := by
  have hsame : s'.attempts = s.attempts →
      s'.roundAttempts itemId round = s.roundAttempts itemId round := fun he => by
    rw [Store.roundAttempts, he, Store.roundAttempts]
  cases h with
  | @claimed prepared job item attempt clock token h =>
    obtain ⟨hash, id, rfl⟩ := h.attempt_eq
    rw [Store.roundAttempts, congrArg Store.attempts h.eq, List.filter_append, Store.roundAttempts,
      List.append_right_eq_self, List.filter_eq_nil_iff]
    intro a ha
    rw [List.mem_singleton.1 ha]
    simp only [Bool.and_eq_true, beq_iff_eq, not_and]
    intro hai hround
    have := hc.not_active hk h.item_mem hai hround.symm
    rw [GradingJobItem.isActive, h.item_queued] at this
    cases this
  | @closed job item item' attempt attempt' now h =>
    have hident := attemptUpdateCheck_identity h.attempt_check
    rw [Store.roundAttempts, congrArg Store.attempts h.eq, Store.roundAttempts]
    have hmiss : ¬(attempt.gradingJobItemId = itemId ∧ attempt.scoringRound = round) := by
      rintro ⟨hai, hround⟩
      have hcur := (hr.running_last attempt h.attempt_mem h.attempt_running item h.item_mem
        h.attempt_item).1
      have := hc.not_active hk h.item_mem (h.attempt_item.symm.trans hai) (hround.symm.trans hcur)
      rw [GradingJobItem.isActive, h.item_running] at this
      cases this
    refine filter_setWhere_of_disjoint _ _ _ _ fun a ha he => ?_
    rw [eq_of_key_eq hk.attemptIds ha h.attempt_mem (by simpa using he)]
    rw [congrArg AttemptIdentity.gradingJobItemId hident, congrArg AttemptIdentity.scoringRound hident]
    simpa using hmiss
  | inputs h => exact hsame h.1.attempts
  | switched h => exact hsame (by rw [h.eq])
  | cancelled h => exact hsame (by rw [h.eq])
  | retried h => exact hsame (by rw [h.eq])
  | created h => exact hsame (by rw [h.eq])
  | drafted h =>
    exact hsame (by rcases h.write with ⟨_, _, _, _, _, _, he⟩ | ⟨_, _, _, _, he⟩ <;> rw [he])
  | confirmed h => exact hsame (by rw [h.eq])

/-- **A closed round stays closed**, with the same attempts, along every run. -/
theorem run_roundClosed (hw : WellFormed env s) (hl : s.Leased) (hr : s.Rounds) {itemId : Uuid}
    {round : Nat} (hc : s.RoundClosed itemId round) (as : List (Action env)) :
    (Runs.run (step env) s as).RoundClosed itemId round ∧
      (Runs.run (step env) s as).roundAttempts itemId round = s.roundAttempts itemId round :=
  (run_invariant (P := fun t => (t.Leased ∧ t.Rounds) ∧ t.RoundClosed itemId round ∧
      t.roundAttempts itemId round = s.roundAttempts itemId round)
    (fun _ _ ht h hp => ⟨⟨h.leased ht hp.1.1, h.rounds ht hp.1.1 hp.1.2⟩,
      h.roundClosed ht.sound.keys hp.2.1,
      (h.roundAttempts ht.sound.keys hp.1.2 hp.2.1).trans hp.2.2⟩)
    hw ⟨⟨hl, hr⟩, hc, rfl⟩ as).2.2

end Store

end PaperGrading
