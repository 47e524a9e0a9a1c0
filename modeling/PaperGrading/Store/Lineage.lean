import PaperGrading.Store.Repeats

/-!
# What a preparation has seen

Kind, parent and correction input of an attempt are derived from the attempts of its item when it is
prepared.  At that moment none of them runs, so that those rows never change again, and every later
attempt of the item has a higher number.

    what was seen stays, whatever is added                                        (Later.move)
    the parent is the newest attempt that was seen                    (attemptLineage_parent)
    nothing was added in between exactly when the parent is the attempt before  (Later.eq_of_last)
-/

namespace PaperGrading

namespace Store

open Table

variable {env : Runtime} {s₀ s s' : Store} {itemId : Uuid} {round : Nat}

/-! ## Later stores -/

/-- `s₀` has seen the attempts of the item when none of them ran, in this round; those of `s` are
these, and later ones. -/
structure Later (s₀ s : Store) (itemId : Uuid) (round : Nat) : Prop where
  kept : ∀ a ∈ s₀.attempts, a.gradingJobItemId = itemId → a.status ≠ .running ∧ a ∈ s.attempts
  added : ∀ a ∈ s.attempts, a.gradingJobItemId = itemId → a ∈ s₀.attempts ∨
    (round ≤ a.scoringRound ∧
      ∀ b ∈ s₀.attempts, b.gradingJobItemId = itemId → b.attemptNumber < a.attemptNumber)
  version : ∃ i ∈ s.items, i.id = itemId ∧ round ≤ i.dispatchVersion

/-- A queued item has no running attempt. -/
theorem Later.refl (hl : s.Leased) {i : GradingJobItem} (hi : i ∈ s.items)
    (hq : i.status = .queued) : Later s s i.id i.dispatchVersion := by
  refine ⟨fun a ha hai => ⟨fun hrun => ?_, ha⟩, fun a ha _ => .inl ha, i, hi, rfl, le_rfl⟩
  have := (hl i hi).2 ⟨a, ha, hai, hrun⟩
  rw [hq] at this
  cases this

/-- The version of an item never falls. -/
theorem Later.version_move (hk : s.Keys) (h : Later s₀ s itemId round) (hm : AnyMove env s s') :
    ∃ i ∈ s'.items, i.id = itemId ∧ round ≤ i.dispatchVersion := by
  obtain ⟨i, hi, hid, hle⟩ := h.version
  obtain ⟨i', hi', hid', rfl | hchk⟩ := hm.item_forward hk hi
  · exact ⟨i', hi', hid, hle⟩
  · exact ⟨i', hi', hid'.trans hid, hle.trans (itemUpdateCheck_version hchk)⟩

/-- **What was seen stays seen, and what is added is newer.** -/
theorem Later.move (hw : WellFormed env s) (h : Later s₀ s itemId round) (hm : AnyMove env s s') :
    Later s₀ s' itemId round := by
  have hk := hw.sound.keys
  have hversion := h.version_move hk hm
  have hkept : ∀ a ∈ s₀.attempts, a.gradingJobItemId = itemId →
      a.status ≠ .running ∧ a ∈ s'.attempts := by
    intro a ha hai
    obtain ⟨hended, hmem⟩ := h.kept a ha hai
    exact ⟨hended, hm.ended_kept hk hmem hended⟩
  have hsame (he : s'.attempts = s.attempts) : Later s₀ s' itemId round :=
    ⟨hkept, he ▸ h.added, hversion⟩
  cases hm with
  | @claimed prepared job item attempt clock token hc =>
    refine ⟨hkept, ?_, hversion⟩
    intro a ha hai
    rw [congrArg Store.attempts hc.eq] at ha
    rcases List.mem_append.1 ha with ha | ha
    · exact h.added a ha hai
    · obtain ⟨hash, id, rfl⟩ := hc.attempt_eq
      rw [List.mem_singleton.1 ha] at hai ⊢
      obtain ⟨i, hi, hid, hle⟩ := h.version
      have hitem : i = item := eq_of_key_eq hk.items hi hc.item_mem (hid.trans hai.symm)
      subst hitem
      refine .inr ⟨hle, fun b hb hbi => ?_⟩
      exact claimedAttempt_number (h.kept b hb hbi).2 (hbi.trans hai.symm)
  | @closed job item item' attempt attempt' now hc =>
    refine ⟨hkept, ?_, hversion⟩
    intro a ha hai
    rw [congrArg Store.attempts hc.eq] at ha
    rcases (mem_replaceRow hc.attempt_mem).1 ha with rfl | ⟨ha, -⟩
    · -- the attempt that ran was not seen
      have hident := attemptUpdateCheck_identity hc.attempt_check
      rw [hident] at hai
      rcases h.added attempt hc.attempt_mem hai with hseen | hnew
      · exact absurd hc.attempt_running (h.kept attempt hseen hai).1
      · rw [hident]
        exact .inr hnew
    · exact h.added a ha hai
  | inputs hc => exact hsame hc.1.attempts
  | switched hc => exact hsame (by rw [hc.eq])
  | cancelled hc => exact hsame (by rw [hc.eq])
  | retried hc => exact hsame (by rw [hc.eq])
  | created hc => exact hsame (by rw [hc.eq])
  | drafted hc =>
    exact hsame (by rcases hc.write with ⟨_, _, _, _, _, _, he⟩ | ⟨_, _, _, _, he⟩ <;> rw [he])
  | confirmed hc => exact hsame (by rw [hc.eq])

/-! ## Lineage -/

theorem lastAttempt_some {a : GradingAttempt} (h : s.lastAttempt itemId = some a) :
    a ∈ s.attempts ∧ a.gradingJobItemId = itemId ∧
      ∀ b ∈ s.attempts, b.gradingJobItemId = itemId → b.attemptNumber ≤ a.attemptNumber := by
  obtain ⟨ha, hp⟩ := latest_mem h
  refine ⟨ha, by simpa using hp, fun b hb hbi => ?_⟩
  exact le_of_latest (p := fun x : GradingAttempt => x.gradingJobItemId == itemId)
    (f := fun x => x.attemptNumber) h hb (by simpa using hbi)

theorem lastAttempt_none (h : s.lastAttempt itemId = none) :
    ∀ b ∈ s.attempts, b.gradingJobItemId ≠ itemId := by
  intro b hb hbi
  have := latest_eq_none.1 h b hb
  simp [hbi] at this

theorem correctionSource_some {a : GradingAttempt} (h : s.correctionSource itemId round = some a) :
    a ∈ s.attempts ∧ a.gradingJobItemId = itemId ∧ a.scoringRound = round ∧
      a.errorCode = some correctionRequired := by
  obtain ⟨ha, hp⟩ := latest_mem h
  simp only [Bool.and_eq_true, beq_iff_eq] at hp
  exact ⟨ha, hp.1.1, hp.1.2, hp.2⟩

/-- The parent is the newest attempt of the item. -/
theorem attemptLineage_parent :
    (s.attemptLineage itemId round).parentAttemptId = (s.lastAttempt itemId).map (·.id) := by
  unfold attemptLineage
  dsimp only
  split
  next source hsource =>
    cases hlast : s.lastAttempt itemId with
    | some a => rfl
    | none =>
      obtain ⟨ha, hai, -⟩ := correctionSource_some hsource
      exact absurd hai (lastAttempt_none hlast source ha)
  · split
    · rfl
    · split
      next a hlast => rw [hlast, Option.map_some]
      next hlast => rw [hlast, Option.map_none]

theorem attemptLineage_response :
    (s.attemptLineage itemId round).previousResponseObjectKey =
      (s.correctionSource itemId round).bind (·.rawResponseObjectKey) := by
  unfold attemptLineage
  dsimp only
  split
  next source hsource => rw [hsource, Option.bind_some]
  next hsource =>
    rw [hsource, Option.bind_none]
    split
    · rfl
    · split <;> rfl

theorem attemptLineage_details :
    (s.attemptLineage itemId round).previousErrorDetails =
      (s.correctionSource itemId round).bind (·.errorDetails) := by
  unfold attemptLineage
  dsimp only
  split
  next source hsource => rw [hsource, Option.bind_some]
  next hsource =>
    rw [hsource, Option.bind_none]
    split
    · rfl
    · split <;> rfl

/-! ## Attempts before an attempt -/

/-- The attempt of the item before this one. -/
def precedingAttempt (s : Store) (a : GradingAttempt) : Option GradingAttempt :=
  latest (fun x => x.gradingJobItemId == a.gradingJobItemId &&
    decide (x.attemptNumber < a.attemptNumber)) (·.attemptNumber) s.attempts

/-- The newest attempt of the round before this one that asked for a correction. -/
def correctionBefore (s : Store) (a : GradingAttempt) : Option GradingAttempt :=
  latest (fun x => x.gradingJobItemId == a.gradingJobItemId && x.scoringRound == a.scoringRound &&
    x.errorCode == some correctionRequired && decide (x.attemptNumber < a.attemptNumber))
    (·.attemptNumber) s.attempts

/-- Of two tables with the same rows that count, and no two numbers alike, the newest row is the
same. -/
theorem latest_congr {p q : GradingAttempt → Bool} {rows rows' : List GradingAttempt}
    (hsame : ∀ a, (a ∈ rows ∧ p a = true) ↔ (a ∈ rows' ∧ q a = true))
    (hinj : ∀ a ∈ rows, ∀ b ∈ rows, p a = true → p b = true → a.attemptNumber = b.attemptNumber →
      a = b) :
    latest p (·.attemptNumber) rows = latest q (·.attemptNumber) rows' := by
  cases h : latest p (·.attemptNumber) rows with
  | none =>
    symm
    rw [latest_eq_none] at h ⊢
    intro b hb
    by_contra hq
    obtain ⟨hb', hp⟩ := (hsame b).2 ⟨hb, by simpa using hq⟩
    simp [h b hb'] at hp
  | some a =>
    have hmem := latest_mem h
    cases h' : latest q (·.attemptNumber) rows' with
    | none =>
      obtain ⟨ha', hq⟩ := (hsame a).1 hmem
      simp [latest_eq_none.1 h' a ha'] at hq
    | some b =>
      have hb := (hsame b).2 (latest_mem h')
      have hle := le_of_latest h hb.1 hb.2
      have ha := (hsame a).1 hmem
      have hle' := le_of_latest h' ha.1 ha.2
      exact congrArg some (hinj a hmem.1 b hb.1 hmem.2 hb.2 (by omega))

/-- If the newest attempt is one that was seen, all of them were. -/
theorem Later.eq_of_last (hk : s.Keys) (h : Later s₀ s itemId round)
    (hlast : (s₀.lastAttempt itemId).map (·.id) = (s.lastAttempt itemId).map (·.id)) :
    ∀ a, a.gradingJobItemId = itemId → (a ∈ s₀.attempts ↔ a ∈ s.attempts) := by
  intro a hai
  refine ⟨fun ha => (h.kept a ha hai).2, fun ha => ?_⟩
  rcases h.added a ha hai with hseen | ⟨-, hnew⟩
  · exact hseen
  · cases hl : s.lastAttempt itemId with
    | none => exact absurd hai (lastAttempt_none hl a ha)
    | some b =>
      rw [hl, Option.map_some, Option.map_eq_some_iff] at hlast
      obtain ⟨c, hc, hid⟩ := hlast
      obtain ⟨hcm, hci, -⟩ := lastAttempt_some hc
      obtain ⟨hbm, -, hmax⟩ := lastAttempt_some hl
      have hbc : c = b := eq_of_key_eq hk.attemptIds (h.kept c hcm hci).2 hbm hid
      have hlt := hnew c hcm hci
      have hle := hmax a ha hai
      rw [hbc] at hlt
      omega

end Store

end PaperGrading
