import PaperGrading.Store.Reviews
import Mathlib.Order.Interval.Finset.Nat

/-!
# What may be repeated

Within a round an item is queued again only by the transaction that closes its attempt.  So what is
known of every attempt that is closed while its item is queued again holds of every attempt that is
not the last of its round.

    a claim, a closing and any other move keep it     (Claimed.repeated, Closed.repeated, Move.repeated)
    an attempt that does not have it ends the calls of its round           (Repeated.roundClosed)
-/

namespace PaperGrading

namespace Store

open Table

variable {env : Runtime} {R : GradingJob → GradingAttemptFailure → Prop}
  {keep : RubricVersion → Prop} {s s' : Store} {P : GradingAttempt → Prop}

/-- Attempts that another attempt of the round has followed, or can follow, are `P`. -/
structure Repeated (P : GradingAttempt → Prop) (s : Store) : Prop where
  earlier : ∀ a ∈ s.attempts, ∀ b ∈ s.attempts, a.gradingJobItemId = b.gradingJobItemId →
    a.scoringRound = b.scoringRound → a.attemptNumber < b.attemptNumber → P a
  queued : ∀ a ∈ s.attempts, ∀ i ∈ s.items, a.gradingJobItemId = i.id →
    a.scoringRound = i.dispatchVersion → i.status = .queued → P a

theorem repeated_empty : Repeated P empty := ⟨by simp [empty], by simp [empty]⟩

/-- Moves that write no attempt. -/
theorem Repeated.of_same (hw : WellFormed env s) (hl : s.Leased) (hr : s.Rounds) (hp : s.Repeated P)
    (h : Move env R keep s s') (hsame : s'.attempts = s.attempts) : s'.Repeated P := by
  have hl' := h.leased hw hl
  refine ⟨by rw [hsame]; exact hp.earlier, ?_⟩
  rw [hsame]
  intro a ha i' hi' hai hround hq
  rcases h.item_backward hw hi' with ⟨i, hi, hid, rfl | hchk⟩ | hnone
  · exact hp.queued a ha i' hi hai hround hq
  · have hai' : a.gradingJobItemId = i.id := hai.trans hid.symm
    rcases itemUpdateCheck_round hchk with hver | ⟨hver, -, -⟩
    · by_cases hiq : i.status = .queued
      · exact hp.queued a ha i hi hai' (hround.trans hver) hiq
      exfalso
      by_cases hir : i.status = .running
      · -- a running item has a running attempt, which still runs
        have hrun : s'.hasRunning i'.id := by
          rw [hasRunning_congr hsame, ← hid]
          exact (hl i hi).1 hir
        have := (hl' i' hi').2 hrun
        rw [hq] at this
        cases this
      · have hinactive : i.isActive = false := by
          unfold GradingJobItem.isActive
          simp [hiq, hir]
        have := itemUpdateCheck_inactive hchk hinactive hver
        simp [GradingJobItem.isActive, hq] at this
    · have := hr.le_version a ha i hi hai'
      omega
  · exact absurd hai (hnone a (hsame ▸ ha))

theorem Claimed.repeated {prepared : GradingItemPreparation} {job : GradingJob}
    {item : GradingJobItem} {attempt : GradingAttempt} {clock : Clock} {token : Uuid}
    (hp : s.Repeated P) (h : Claimed s s' prepared job item attempt clock token) : s'.Repeated P := by
  obtain ⟨hash, id, rfl⟩ := h.attempt_eq
  set new := s.claimedAttempt prepared item hash clock.worker id with hnew
  have hattempts : ∀ a, a ∈ s'.attempts ↔ a ∈ s.attempts ∨ a = new := by
    intro a
    rw [congrArg Store.attempts h.eq, List.mem_append, List.mem_singleton]
  refine ⟨?_, ?_⟩
  · intro a ha b hb hab hround hlt
    rcases (hattempts a).1 ha with ha | rfl <;> rcases (hattempts b).1 hb with hb | rfl
    · exact hp.earlier a ha b hb hab hround hlt
    · exact hp.queued a ha item h.item_mem hab hround h.item_queued
    · have : b.attemptNumber < new.attemptNumber := claimedAttempt_number hb hab.symm
      omega
    · omega
  · intro a ha i hi hai hround hq
    rw [congrArg Store.items h.eq] at hi
    rcases (mem_replaceRow h.item_mem).1 hi with rfl | ⟨hi, hne⟩
    · cases hq
    · rcases (hattempts a).1 ha with ha | rfl
      · exact hp.queued a ha i hi hai hround hq
      · exact absurd hai.symm hne

/-- The end of an attempt whose item is queued again only if the attempt is `P`. -/
theorem Closed.repeated {job : GradingJob} {item item' : GradingJobItem}
    {attempt attempt' : GradingAttempt} {now : Time} (hk : s.Keys) (hr : s.Rounds) (hp : s.Repeated P)
    (h : Closed R s s' job item item' attempt attempt' now)
    (hP : item'.status = .queued → P attempt') : s'.Repeated P := by
  have hident := attemptUpdateCheck_identity h.attempt_check
  have hitemId : item'.id = item.id := congrArg ItemIdentity.id (itemUpdateCheck_identity h.item_check)
  have hver : item'.dispatchVersion = item.dispatchVersion := by
    rcases itemUpdateCheck_round h.item_check with hver | ⟨-, hst, -⟩
    · exact hver
    · rw [h.item_running] at hst
      rcases hst with hst | hst <;> cases hst
  obtain ⟨hcurrent, hlast⟩ :=
    hr.running_last attempt h.attempt_mem h.attempt_running item h.item_mem h.attempt_item
  have hattempts : ∀ a ∈ s'.attempts, a = attempt' ∨ (a ∈ s.attempts ∧ a.id ≠ attempt.id) := by
    intro a ha
    rw [congrArg Store.attempts h.eq] at ha
    exact (mem_replaceRow h.attempt_mem).1 ha
  have horigin : ∀ a ∈ s'.attempts, ∃ b ∈ s.attempts, a.toAttemptIdentity = b.toAttemptIdentity := by
    intro a ha
    rcases hattempts a ha with rfl | ⟨ha, -⟩
    · exact ⟨attempt, h.attempt_mem, hident⟩
    · exact ⟨a, ha, rfl⟩
  refine ⟨?_, ?_⟩
  · intro a ha b hb hab hround hlt
    obtain ⟨y, hy, hby⟩ := horigin b hb
    rw [hby] at hab hround hlt
    rcases hattempts a ha with rfl | ⟨ha, -⟩
    · -- no attempt follows the running one
      rw [hident] at hab hlt
      have := hlast y hy (hab.symm.trans h.attempt_item)
      omega
    · exact hp.earlier a ha y hy hab hround hlt
  · intro a ha i hi hai hround hq
    rw [congrArg Store.items h.eq] at hi
    rcases (mem_replaceRow h.item_mem).1 hi with rfl | ⟨hi, hne⟩
    · rcases hattempts a ha with rfl | ⟨ha, hneq⟩
      · exact hP hq
      · have hai' : a.gradingJobItemId = attempt.gradingJobItemId :=
          hai.trans (hitemId.trans h.attempt_item.symm)
        have hle := hlast a ha (hai.trans hitemId)
        have hnumber : a.attemptNumber ≠ attempt.attemptNumber := fun he =>
          hneq (congrArg (·.id) (attempt_eq_of_number hk ha h.attempt_mem hai' he))
        exact hp.earlier a ha attempt h.attempt_mem hai'
          ((hround.trans hver).trans hcurrent.symm) (by omega)
    · rcases hattempts a ha with rfl | ⟨ha, -⟩
      · rw [hident] at hai
        exact absurd (hai.symm.trans h.attempt_item) hne
      · exact hp.queued a ha i hi hai hround hq

theorem Move.repeated (hw : WellFormed env s) (hl : s.Leased) (hr : s.Rounds) (hp : s.Repeated P)
    (h : Move env R keep s s')
    (hP : ∀ {job : GradingJob} {item item' : GradingJobItem} {attempt attempt' : GradingAttempt}
      {now : Time}, Closing R now job attempt item attempt' item' → item'.status = .queued →
        P attempt') : s'.Repeated P := by
  have hsame := Repeated.of_same hw hl hr hp h
  cases h with
  | claimed h => exact h.repeated hp
  | closed h => exact h.repeated hw.sound.keys hr hp (hP h.closing)
  | inputs h => exact hsame h.1.attempts
  | switched h => exact hsame (by rw [h.eq])
  | cancelled h => exact hsame (by rw [h.eq])
  | retried h => exact hsame (by rw [h.eq])
  | created h => exact hsame (by rw [h.eq])
  | drafted h =>
    exact hsame (by rcases h.write with ⟨_, _, _, _, _, _, he⟩ | ⟨_, _, _, _, he⟩ <;> rw [he])
  | confirmed h => exact hsame (by rw [h.eq])

/-- An attempt that has stopped and is not `P` ends the calls of its round. -/
theorem Repeated.roundClosed (hw : WellFormed env s) (hl : s.Leased) (hr : s.Rounds)
    (hp : s.Repeated P) {a : GradingAttempt} (ha : a ∈ s.attempts) (hstopped : a.status ≠ .running)
    (hnot : ¬P a) : s.RoundClosed a.gradingJobItemId a.scoringRound := by
  obtain ⟨i, hi, hid, -⟩ := hw.refs.attempts a ha
  have hle := hr.le_version a ha i hi hid.symm
  refine ⟨i, hi, hid, ?_⟩
  by_cases hlt : a.scoringRound < i.dispatchVersion
  · exact .inl hlt
  have hround : a.scoringRound = i.dispatchVersion := by omega
  refine .inr ⟨hround, ?_⟩
  have hq : i.status ≠ .queued := fun hq => hnot (hp.queued a ha i hi hid.symm hround hq)
  have hrun : i.status ≠ .running := by
    intro hrun
    obtain ⟨b, hb, hbi, hbr⟩ := (hl i hi).1 hrun
    obtain ⟨hbround, hlast⟩ := hr.running_last b hb hbr i hi hbi
    have hle := hlast a ha hid.symm
    have hne : a.attemptNumber ≠ b.attemptNumber := by
      intro he
      have := attempt_eq_of_number hw.sound.keys ha hb (hid.symm.trans hbi.symm) he
      exact hstopped (this ▸ hbr)
    exact hnot (hp.earlier a ha b hb (hid.symm.trans hbi.symm) (hround.trans hbround.symm) (by omega))
  unfold GradingJobItem.isActive
  simp [hq, hrun]

/-! ## Call sequences -/

/-- The attempts of an item and the calls of a round are counted from one. -/
theorem after_position_pos (as : List (Action env)) :
    ∀ a ∈ (after env as).attempts, 0 < a.attemptNumber ∧ 0 < a.callSequence := by
  refine after_invariant (P := fun t => ∀ a ∈ t.attempts, 0 < a.attemptNumber ∧ 0 < a.callSequence)
    (fun t t' ht h hpos => ?_) (by simp [empty]) as
  intro a' ha'
  rcases (h.attempts_evolve ht.sound.keys).backward ha' with ⟨a, ha, hident, -⟩ | hchk
  · rw [congrArg AttemptIdentity.callSequence hident, congrArg AttemptIdentity.attemptNumber hident]
    exact hpos a ha
  · unfold attemptInsertCheck at hchk
    simp only [bind_eq_ok, require_eq_ok, Bool.and_eq_true, decide_eq_true_eq] at hchk
    obtain ⟨_, -, _, -, _, -, _, ⟨⟨hnumber, -⟩, hsequence⟩, -⟩ := hchk
    exact ⟨hnumber, hsequence⟩

/-- Only a failed attempt has an error code. -/
theorem after_errorCode (as : List (Action env)) :
    ∀ a ∈ (after env as).attempts, a.status ≠ .failed → a.errorCode = none := by
  refine after_invariant (P := fun t => ∀ a ∈ t.attempts, a.status ≠ .failed → a.errorCode = none)
    (fun t t' ht h hnone => ?_) (by simp [empty]) as
  have hsame (he : t'.attempts = t.attempts) :
      ∀ a ∈ t'.attempts, a.status ≠ .failed → a.errorCode = none := by
    rw [he]
    exact hnone
  cases h with
  | claimed hc =>
    intro a ha hstatus
    rw [congrArg Store.attempts hc.eq] at ha
    rcases List.mem_append.1 ha with ha | ha
    · exact hnone a ha hstatus
    · obtain ⟨hash, id, he⟩ := hc.attempt_eq
      rw [List.mem_singleton.1 ha, he]
      rfl
  | closed hc =>
    intro a ha hstatus
    rw [congrArg Store.attempts hc.eq] at ha
    rcases (mem_replaceRow hc.attempt_mem).1 ha with rfl | ⟨ha, -⟩
    · cases hc.closing with
      | succeeded =>
        have hnot := hnone _ hc.attempt_mem (by rw [hc.attempt_running]; simp)
        exact hnot
      | failed => exact absurd rfl hstatus
      | expired => exact absurd rfl hstatus
    · exact hnone a ha hstatus
  | inputs hc => exact hsame hc.1.attempts
  | switched hc => exact hsame (by rw [hc.eq])
  | cancelled hc => exact hsame (by rw [hc.eq])
  | retried hc => exact hsame (by rw [hc.eq])
  | created hc => exact hsame (by rw [hc.eq])
  | drafted hc =>
    exact hsame (by rcases hc.write with ⟨_, _, _, _, _, _, he⟩ | ⟨_, _, _, _, he⟩ <;> rw [he])
  | confirmed hc => exact hsame (by rw [hc.eq])

/-- No two attempts of a round are the same call. -/
theorem Rounds.sequence_inj (hk : s.Keys) (hr : s.Rounds) {a b : GradingAttempt}
    (ha : a ∈ s.attempts) (hb : b ∈ s.attempts) (hi : a.gradingJobItemId = b.gradingJobItemId)
    (hround : a.scoringRound = b.scoringRound) (hseq : a.callSequence = b.callSequence) : a = b := by
  refine attempt_eq_of_number hk ha hb hi ?_
  by_contra hne
  rcases Nat.lt_or_gt_of_ne hne with hlt | hlt
  · have := hr.sequence a ha b hb hi hround hlt
    omega
  · have := hr.sequence b hb a ha hi.symm hround.symm hlt
    omega

theorem mem_roundAttempts {itemId : Uuid} {round : Nat} {a : GradingAttempt} :
    a ∈ s.roundAttempts itemId round ↔
      a ∈ s.attempts ∧ a.gradingJobItemId = itemId ∧ a.scoringRound = round := by
  unfold roundAttempts
  simp

/-- Attempts of a round whose calls are among the first `n` are at most `n`. -/
theorem length_le_of_sequence (hk : s.Keys) (hr : s.Rounds) {itemId : Uuid} {round n : Nat}
    (p : GradingAttempt → Bool)
    (hp : ∀ a ∈ s.roundAttempts itemId round, p a = true → 0 < a.callSequence ∧ a.callSequence ≤ n) :
    ((s.roundAttempts itemId round).filter p).length ≤ n := by
  set l := (s.roundAttempts itemId round).filter p with hl
  have hmem : ∀ a ∈ l, a ∈ s.roundAttempts itemId round ∧ p a = true := fun a ha =>
    List.mem_filter.1 ha
  have hnodup : l.Nodup := ((List.Nodup.of_map _ hk.attemptIds).filter _).filter _
  have hinj : (l.map (·.callSequence)).Nodup := by
    refine hnodup.map_on fun a ha b hb he => ?_
    obtain ⟨has, hai, har⟩ := mem_roundAttempts.1 (hmem a ha).1
    obtain ⟨hbs, hbi, hbr⟩ := mem_roundAttempts.1 (hmem b hb).1
    exact hr.sequence_inj hk has hbs (hai.trans hbi.symm) (har.trans hbr.symm) he
  have hsub : (l.map (·.callSequence)).toFinset ⊆ Finset.Icc 1 n := by
    intro x hx
    obtain ⟨a, ha, rfl⟩ := List.mem_map.1 (List.mem_toFinset.1 hx)
    have := hp a (hmem a ha).1 (hmem a ha).2
    exact Finset.mem_Icc.2 ⟨by omega, this.2⟩
  have hcard := Finset.card_le_card hsub
  rw [List.toFinset_card_of_nodup hinj, List.length_map, Nat.card_Icc] at hcard
  omega

end Store

end PaperGrading
