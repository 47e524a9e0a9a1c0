import PaperGrading.Store.Worker

/-!
# What the status of a batch means

A batch is a job status over the set of item statuses that occur in it.
`Consistent` is the intended reading of the status, without any word on how it is
computed: a batch that is not cancelled is open (queued, running or paused) exactly
while some item waits or runs, and every closed status describes its items.  `Step`
is what may happen to a batch; `requeue` tells for which job statuses a stopped item
may be queued again.

    Step requeue b b' → b.Consistent → b'.Consistent                         (Step.consistent)
    Step requeue b b' → b.Finished → b'.Finished, if requeue excludes cancelled (Step.finished)

`Store.Batches` shows that every job row of the store makes these steps only.
-/

namespace PaperGrading

structure Batch where
  status : JobStatus
  has : ItemStatus → Prop

namespace Batch

/-! ## Definitions -/

/-- The statuses in which a batch still has work to do. -/
def Open (b : Batch) : Prop :=
  b.status = .queued ∨ b.status = .running ∨ b.status = .paused

/-- Some item waits for a worker or is being graded. -/
def Active (b : Batch) : Prop :=
  b.has .queued ∨ b.has .running

structure Consistent (b : Batch) : Prop where
  open_iff : b.status ≠ .cancelled → (b.Open ↔ b.Active)
  queued : b.status = .queued → ∀ st, b.has st → st = .queued
  completed : b.status = .completed → ∀ st, b.has st → st = .completed
  failed : b.status = .failed → ∀ st, b.has st → st = .failed
  needsReview : b.status = .needsReview → b.has .needsReview ∨ b.has .completed
  uncancelled : b.status ≠ .cancelled → ¬b.has .cancelled

/-- A cancelled batch has no item that waits. -/
def Finished (b : Batch) : Prop :=
  b.status = .cancelled → ¬b.has .queued

/-- A new batch. -/
def Fresh (b : Batch) : Prop :=
  b.status = .queued ∧ b.has .queued ∧ ∀ st, b.has st → st = .queued

inductive Step (requeue : JobStatus → Prop) (b : Batch) : Batch → Prop
  /-- a queued item starts to run -/
  | claim {has' : ItemStatus → Prop} (hopen : b.status = .queued ∨ b.status = .running)
    (hr : has' .running) (hnew : ∀ st, has' st → b.has st ∨ st = .running) :
    Step requeue b ⟨.running, has'⟩
  /-- a running item stops and the status is derived again -/
  | stop {has' : ItemStatus → Prop} {stopped : ItemStatus} {statuses : List ItemStatus}
    (hr : b.has .running) (hst : stopped = .queued ∨ stopped = .needsReview ∨ stopped = .failed)
    (hrequeue : stopped = .queued → requeue b.status)
    (hnew : ∀ st, has' st → b.has st ∨ st = stopped) (hall : ∀ st, st ∈ statuses ↔ has' st) :
    Step requeue b ⟨reconciledStatus b.status statuses, has'⟩
  /-- pause and resume -/
  | switch {status' : JobStatus} (hopen : b.Open) (hst : status' = .running ∨ status' = .paused) :
    Step requeue b ⟨status', b.has⟩
  /-- the queued items are cancelled with the batch -/
  | cancel {has' : ItemStatus → Prop} (hopen : b.Open) (hq : ¬has' .queued) :
    Step requeue b ⟨.cancelled, has'⟩
  /-- an item is queued again for a new round -/
  | reopen {has' : ItemStatus → Prop} (hne : b.status ≠ .cancelled) (hq : has' .queued)
    (hnew : ∀ st, has' st → b.has st ∨ st = .queued) : Step requeue b ⟨.running, has'⟩
  /-- reviewed items are completed -/
  | confirm {has' : ItemStatus → Prop} {status' : JobStatus} (hne : b.status ≠ .cancelled)
    (hd : has' .completed) (hnew : ∀ st, has' st → b.has st ∨ st = .completed)
    (hst : (status' = .completed ∧ ∀ st, has' st → st = .completed) ∨
      (status' = .needsReview ∧ ¬Active ⟨status', has'⟩) ∨
      ((status' = .running ∨ status' = .paused) ∧ Active ⟨status', has'⟩)) :
    Step requeue b ⟨status', has'⟩

variable {requeue : JobStatus → Prop} {b b' : Batch}

/-! ## Consistency -/

theorem consistent_of_cancelled (h : b.status = .cancelled) : b.Consistent := by
  obtain ⟨status, has⟩ := b
  cases h
  exact ⟨fun h => absurd rfl h, nofun, nofun, nofun, nofun, fun h => absurd rfl h⟩

/-- A batch with active items may be running or paused. -/
theorem consistent_of_active (hb : b.status = .running ∨ b.status = .paused) (ha : b.Active)
    (hc : ¬b.has .cancelled) : b.Consistent := by
  obtain ⟨status, has⟩ := b
  rcases hb with rfl | rfl
  · exact ⟨fun _ => ⟨fun _ => ha, fun _ => by simp [Open]⟩, nofun, nofun, nofun, nofun, fun _ => hc⟩
  · exact ⟨fun _ => ⟨fun _ => ha, fun _ => by simp [Open]⟩, nofun, nofun, nofun, nofun, fun _ => hc⟩

/-- Without active items the three closed statuses describe the batch. -/
theorem consistent_of_closed (ha : ¬b.Active) (hc : ¬b.has .cancelled)
    (hb : (b.status = .needsReview ∧ (b.has .needsReview ∨ b.has .completed)) ∨
      (b.status = .completed ∧ ∀ st, b.has st → st = .completed) ∨
      (b.status = .failed ∧ ∀ st, b.has st → st = .failed)) : b.Consistent := by
  obtain ⟨status, has⟩ := b
  rcases hb with ⟨rfl, h⟩ | ⟨rfl, h⟩ | ⟨rfl, h⟩
  · exact ⟨fun _ => ⟨by simp [Open], fun h => absurd h ha⟩, nofun, nofun, nofun, fun _ => h,
      fun _ => hc⟩
  · exact ⟨fun _ => ⟨by simp [Open], fun h => absurd h ha⟩, nofun, fun _ => h, nofun, nofun,
      fun _ => hc⟩
  · exact ⟨fun _ => ⟨by simp [Open], fun h => absurd h ha⟩, nofun, nofun, fun _ => h, nofun,
      fun _ => hc⟩

theorem Fresh.consistent (h : b.Fresh) : b.Consistent := by
  obtain ⟨status, has⟩ := b
  obtain ⟨rfl, hq, hall⟩ := h
  exact ⟨fun _ => ⟨fun _ => .inl hq, fun _ => .inl rfl⟩, fun _ => hall, nofun, nofun, nofun,
    fun _ hc => nomatch hall _ hc⟩

/-- An open batch with an item that is not queued runs or is paused. -/
theorem Consistent.running_or_paused (h : b.Consistent) (hne : b.status ≠ .cancelled)
    (hr : b.has .running) : b.status = .running ∨ b.status = .paused := by
  rcases (h.open_iff hne).2 (.inr hr) with hst | hst
  · cases h.queued hst _ hr
  · exact hst

/-- **Reconciliation is right**: the derived status describes the batch. -/
theorem Consistent.reconcile (h : b.Consistent) (hr : b.has .running) {has' : ItemStatus → Prop}
    {stopped : ItemStatus} {statuses : List ItemStatus} (hstopped : stopped ≠ .cancelled)
    (hnew : ∀ st, has' st → b.has st ∨ st = stopped) (hst : ∀ st, st ∈ statuses ↔ has' st) :
    Consistent ⟨reconciledStatus b.status statuses, has'⟩ := by
  by_cases hcancelled : b.status = .cancelled
  · refine consistent_of_cancelled ?_
    rw [hcancelled, reconciledStatus, if_neg fun h => h.1 rfl]
  have hc : ¬has' .cancelled := fun hc => by
    rcases hnew _ hc with hc | hc
    · exact h.uncancelled hcancelled hc
    · exact hstopped hc.symm
  unfold reconciledStatus
  by_cases ha : has' .queued ∨ has' .running
  · -- still active: the status stays
    rw [if_neg fun hn => ha.elim (fun h => hn.2.1 ((hst _).2 h)) fun h => hn.2.2 ((hst _).2 h)]
    exact consistent_of_active (h.running_or_paused hcancelled hr) ha hc
  have hq : ¬has' .queued := fun h => ha (.inl h)
  have hrun : ¬has' .running := fun h => ha (.inr h)
  rw [if_pos ⟨hcancelled, fun h => hq ((hst _).1 h), fun h => hrun ((hst _).1 h)⟩]
  by_cases hrev : has' .needsReview ∨ has' .completed
  · rw [if_pos (hrev.imp (hst _).2 (hst _).2)]
    exact consistent_of_closed ha hc (.inl ⟨rfl, hrev⟩)
  rw [if_neg fun h => hrev (h.imp (hst _).1 (hst _).1)]
  by_cases hf : has' .failed
  · rw [if_pos ((hst _).2 hf)]
    refine consistent_of_closed ha hc (.inr (.inr ⟨rfl, fun st hs => ?_⟩))
    cases st with
    | failed => rfl
    | queued => exact absurd hs hq
    | running => exact absurd hs hrun
    | needsReview => exact absurd (.inl hs) hrev
    | completed => exact absurd (.inr hs) hrev
    | cancelled => exact absurd hs hc
  · rw [if_neg fun h => hf ((hst _).1 h)]
    exact consistent_of_cancelled rfl

/-- **Every step keeps the status of a batch right.** -/
theorem Step.consistent (hs : Step requeue b b') (h : b.Consistent) : b'.Consistent := by
  cases hs with
  | claim hopen hr hnew =>
    refine consistent_of_active (.inl rfl) (.inr hr) fun hc => ?_
    rcases hnew _ hc with hc | hc
    · exact h.uncancelled (by rcases hopen with hst | hst <;> rw [hst] <;> simp) hc
    · cases hc
  | stop hr hst _ hnew hall =>
    exact h.reconcile hr (by rcases hst with rfl | rfl | rfl <;> simp) hnew hall
  | switch hopen hst =>
    have hne : b.status ≠ .cancelled := by rcases hopen with hst | hst | hst <;> rw [hst] <;> simp
    exact consistent_of_active hst ((h.open_iff hne).1 hopen) (h.uncancelled hne)
  | cancel => exact consistent_of_cancelled rfl
  | reopen hne hq hnew =>
    refine consistent_of_active (.inl rfl) (.inl hq) fun hc => ?_
    rcases hnew _ hc with hc | hc
    · exact h.uncancelled hne hc
    · cases hc
  | @confirm has' status' hne hd hnew hst =>
    have hc : ¬has' .cancelled := fun hc => by
      rcases hnew _ hc with hc | hc
      · exact h.uncancelled hne hc
      · cases hc
    rcases hst with ⟨rfl, hall⟩ | ⟨rfl, ha⟩ | ⟨hst, ha⟩
    · refine consistent_of_closed (fun ha => ?_) hc (.inr (.inl ⟨rfl, hall⟩))
      rcases ha with hq | hr
      · cases hall _ hq
      · cases hall _ hr
    · exact consistent_of_closed ha hc (.inl ⟨rfl, .inr hd⟩)
    · exact consistent_of_active hst ha hc

/-! ## Cancellation -/

theorem Fresh.finished (h : b.Fresh) : b.Finished := fun hc => by
  rw [h.1] at hc
  cases hc

/-- **Nothing waits in a cancelled batch**, as long as no stopped item is queued again in one. -/
theorem Step.finished (hrequeue : ¬requeue .cancelled) (hs : Step requeue b b') (h : b.Finished) :
    b'.Finished := by
  cases hs with
  | claim => exact nofun
  | @stop has' stopped statuses hr hst hre hnew hall =>
    intro hc hq
    by_cases hb : b.status = .cancelled
    · rcases hnew _ hq with hq | rfl
      · exact h hb hq
      · exact hrequeue (hb ▸ hre rfl)
    · -- a status that becomes `cancelled` was derived from items none of which waits
      simp only [reconciledStatus] at hc
      split at hc
      next hn => exact hn.2.1 ((hall _).2 hq)
      · exact hb hc
  | switch _ hst => rcases hst with rfl | rfl <;> exact nofun
  | cancel _ hq => exact fun _ => hq
  | reopen => exact nofun
  | confirm _ _ _ hst =>
    intro hc
    rcases hst with ⟨rfl, -⟩ | ⟨rfl, -⟩ | ⟨rfl | rfl, -⟩ <;> cases hc

end Batch

end PaperGrading
