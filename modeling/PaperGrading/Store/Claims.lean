import PaperGrading.Store.Rounds

/-!
# Claims under the provider limit

What the transactions do to the running attempts of a provider, and to the deliveries of an
item: the pair of dispatch version and retry count, which moves on whenever the item is queued
again.

    only a claim adds a running attempt, to the provider of its job
                                      (Ungranted.runningCount_le, Claimed.runningCount_le)
    a claimed delivery is never queued again                            (Move.spent, Spent.ne)
-/

namespace PaperGrading

/-- Which queueing of the item this is. -/
def GradingJobItem.delivery (i : GradingJobItem) : Nat × Nat := (i.dispatchVersion, i.retryCount)

namespace Store

open Table

variable {env : Runtime} {R : GradingJob → GradingAttemptFailure → Prop}
  {keep : RubricVersion → Prop} {s s' : Store}

/-! ## Moves that claim nothing -/

/-- A move that inserts no attempt. -/
def Ungranted (env : Runtime) (s s' : Store) : Prop :=
  AnyMove env s s' ∧ s'.attempts.length = s.attempts.length

/-- Every committed action but a claim is a chain of such moves. -/
theorem exec_ungranted {a : Action env} (hs : Sound env s) (hclaim : ¬isClaim a)
    (h : s.exec env a = .ok s') : Relation.ReflTransGen (Ungranted env) s s' := by
  have hchores (hwork : ¬isControl a) : Relation.ReflTransGen (Ungranted env) s s' :=
    Relation.ReflTransGen.mono (fun _ _ hc => ⟨hc.1.move.any, hc.2.1⟩) _ _
      (exec_chores hs (failureIs_true a) hwork hclaim h)
  cases a with
  | controlGradingJob =>
    obtain ⟨_, h⟩ := map_snd_eq_ok.1 h
    rcases controlGradingJob_cases hs.keys h with
      ⟨-, he⟩ | ⟨_, -, -, -, ⟨_, hc, -⟩ | ⟨-, hc⟩ | ⟨_, -, -, hc⟩⟩
    · exact he ▸ .refl
    · exact .single ⟨.switched hc, by rw [hc.eq]⟩
    · exact .single ⟨.cancelled hc, by rw [hc.eq]⟩
    · exact .single ⟨.retried hc, by rw [hc.eq]⟩
  | _ => exact hchores id

/-- What such moves keep is kept by every action but a claim. -/
theorem step_ungranted {P : Store → Prop} {a : Action env} (hw : WellFormed env s)
    (hclaim : ¬isClaim a)
    (hP : ∀ t t', WellFormed env t → Ungranted env t t' → P t → P t') (h0 : P s) :
    P (step env s a) :=
  step_chain hw (fun _ _ h => h.1) (fun _ => exec_ungranted hw.sound hclaim) hP h0

/-- The attempts keep their places and identities; none starts to run. -/
theorem Ungranted.attempts (hk : s.Keys) (h : Ungranted env s s') :
    ∃ f : GradingAttempt → GradingAttempt, s'.attempts = s.attempts.map f ∧
      ∀ a ∈ s.attempts, (f a).toAttemptIdentity = a.toAttemptIdentity ∧
        ((f a).status = .running → a.status = .running) := by
  obtain ⟨f, added, he, hf, -⟩ := h.1.attempts_evolve hk
  have hadded : added = [] := by
    have := h.2
    rw [he, List.length_append, List.length_map] at this
    exact List.eq_nil_of_length_eq_zero (by omega)
  refine ⟨f, by rw [he, hadded, List.append_nil], fun a ha => ⟨(hf a ha).1, fun hrun => ?_⟩⟩
  rcases (hf a ha).2 with he | hchk
  · exact he ▸ hrun
  · exact absurd hrun (attemptUpdateCheck_eq_ok.1 hchk).1.2

theorem Ungranted.identities (hk : s.Keys) (h : Ungranted env s s') :
    s'.attempts.map (·.toAttemptIdentity) = s.attempts.map (·.toAttemptIdentity) := by
  obtain ⟨f, he, hf⟩ := h.attempts hk
  rw [he, List.map_map]
  exact List.map_congr_left fun a ha => (hf a ha).1

/-! ## The provider of an attempt -/

/-- The job of the attempt's item is a job of the provider. -/
def ofProvider (s : Store) (providerConfigId : Uuid) (a : GradingAttempt) : Bool :=
  s.items.any fun i => i.id == a.gradingJobItemId && s.jobs.any fun j =>
    j.id == i.gradingJobId && j.providerConfigId == providerConfigId

theorem ofProvider_iff {p : Uuid} {a : GradingAttempt} :
    s.ofProvider p a = true ↔ ∃ i ∈ s.items, i.id = a.gradingJobItemId ∧
      ∃ j ∈ s.jobs, j.id = i.gradingJobId ∧ j.providerConfigId = p := by
  simp [ofProvider]

/-- In a well-formed store the item and the job of an attempt decide. -/
theorem ofProvider_eq (hk : s.Keys) {p : Uuid} {a : GradingAttempt} {i : GradingJobItem}
    {j : GradingJob} (hi : i ∈ s.items) (hj : j ∈ s.jobs) (hai : i.id = a.gradingJobItemId)
    (hij : j.id = i.gradingJobId) : s.ofProvider p a = (j.providerConfigId == p) := by
  rw [Bool.eq_iff_iff, ofProvider_iff, beq_iff_eq]
  constructor
  · rintro ⟨i', hi', hai', j', hj', hij', hp⟩
    have hii : i' = i := eq_of_key_eq hk.items hi' hi (hai'.trans hai.symm)
    subst hii
    rw [← hp, eq_of_key_eq hk.jobs hj hj' (hij.trans hij'.symm)]
  · exact fun hp => ⟨i, hi, hai, j, hj, hij, hp⟩

/-- A move keeps the provider of an attempt. -/
theorem Move.ofProvider_eq (hw : WellFormed env s) (h : Move env R keep s s') {p : Uuid}
    {a a' : GradingAttempt} (ha : a ∈ s.attempts) (hid : a'.gradingJobItemId = a.gradingJobItemId) :
    s'.ofProvider p a' = s.ofProvider p a := by
  obtain ⟨i, hi, hai, -⟩ := hw.refs.attempts a ha
  obtain ⟨j, hj, hij, -⟩ := hw.refs.items i hi
  obtain ⟨i', hi', hii⟩ := h.item_kept hw.sound hi
  obtain ⟨j', hj', hjj⟩ := h.job_kept hw.sound hj
  rw [Store.ofProvider_eq hw.sound.keys hi hj hai hij,
    Store.ofProvider_eq (h.keys hw.sound.keys) hi' hj' (by rw [hii, hai, hid])
      (by rw [hjj, hii, hij]), hjj]

theorem runningCount_eq (p : Uuid) : s.runningCount p =
    s.attempts.countP fun a => a.status == .running && s.ofProvider p a := rfl

theorem Ungranted.runningCount_le (hw : WellFormed env s) (h : Ungranted env s s') (p : Uuid) :
    s'.runningCount p ≤ s.runningCount p := by
  obtain ⟨f, he, hf⟩ := h.attempts hw.sound.keys
  rw [runningCount_eq, runningCount_eq, he, List.countP_map]
  refine List.countP_mono_left fun a ha hcount => ?_
  obtain ⟨hid, hrun⟩ := hf a ha
  rw [Function.comp, Bool.and_eq_true, beq_iff_eq] at hcount
  rw [Bool.and_eq_true, beq_iff_eq]
  refine ⟨hrun hcount.1, ?_⟩
  rw [← h.1.ofProvider_eq hw ha (congrArg AttemptIdentity.gradingJobItemId hid)]
  exact hcount.2

/-- A claim adds one running attempt, to the provider of its job. -/
theorem Claimed.runningCount_le (hw : WellFormed env s) {prepared : GradingItemPreparation}
    {job : GradingJob} {item : GradingJobItem} {attempt : GradingAttempt} {clock : Clock}
    {token : Uuid} (h : Claimed s s' prepared job item attempt clock token) (p : Uuid) :
    s'.runningCount p ≤ s.runningCount p + if job.providerConfigId = p then 1 else 0 := by
  have hmove : AnyMove env s s' := .claimed h
  obtain ⟨hash, id, hattempt⟩ := h.attempt_eq
  have hai : item.id = attempt.gradingJobItemId := by rw [hattempt]; rfl
  have hkept : s.attempts.countP (fun a => a.status == .running && s'.ofProvider p a) =
      s.runningCount p := by
    refine List.countP_congr fun a ha => ?_
    rw [hmove.ofProvider_eq hw ha rfl]
    rfl
  have hattempts : s'.attempts = s.attempts ++ [attempt] := by rw [h.eq]
  rw [runningCount_eq, hattempts, List.countP_append, hkept, List.countP_singleton]
  refine Nat.add_le_add_left ?_ _
  have hprovider : s'.ofProvider p attempt = (job.providerConfigId == p) := by
    obtain ⟨i', hi', hii⟩ := hmove.item_kept hw.sound h.item_mem
    obtain ⟨j', hj', hjj⟩ := hmove.job_kept hw.sound h.job_mem
    rw [Store.ofProvider_eq (hmove.keys hw.sound.keys) hi' hj' (by rw [hii, hai])
      (by rw [hii, hjj, h.item_job]), hjj]
  have hrunning : attempt.status = .running := by rw [hattempt]; rfl
  rw [hprovider, hrunning]
  by_cases hp : job.providerConfigId = p <;> simp [hp]

/-! ## The bound -/

/-- No provider runs more attempts than the largest limit frozen in one of its jobs. -/
def WithinLimits (s : Store) : Prop :=
  ∀ p, s.runningCount p = 0 ∨ ∃ j ∈ s.jobs, j.providerConfigId = p ∧
    s.runningCount p ≤ j.modelParameters.maxConcurrency

theorem withinLimits_empty : WithinLimits empty := fun _ => .inl rfl

theorem Ungranted.withinLimits (hw : WellFormed env s) (h : Ungranted env s s')
    (hl : s.WithinLimits) : s'.WithinLimits := by
  intro p
  have hle := h.runningCount_le hw p
  rcases hl p with hzero | ⟨j, hj, hp, hmax⟩
  · exact .inl (by omega)
  · obtain ⟨j', hj', hjj⟩ := h.1.job_kept hw.sound hj
    exact .inr ⟨j', hj', by rw [hjj, hp], by rw [hjj]; omega⟩

theorem Claimed.withinLimits (hw : WellFormed env s) {prepared : GradingItemPreparation}
    {job : GradingJob} {item : GradingJobItem} {attempt : GradingAttempt} {clock : Clock}
    {token : Uuid} (h : Claimed s s' prepared job item attempt clock token)
    (hroom : s.runningCount job.providerConfigId < job.modelParameters.maxConcurrency)
    (hl : s.WithinLimits) : s'.WithinLimits := by
  have hmove : AnyMove env s s' := .claimed h
  intro p
  have hle := h.runningCount_le hw p
  by_cases hp : job.providerConfigId = p
  · obtain ⟨j', hj', hjj⟩ := hmove.job_kept hw.sound h.job_mem
    rw [if_pos hp] at hle
    refine .inr ⟨j', hj', by rw [hjj, hp], ?_⟩
    rw [hjj]
    rw [hp] at hroom
    omega
  · rw [if_neg hp, Nat.add_zero] at hle
    rcases hl p with hzero | ⟨j, hj, hjp, hmax⟩
    · exact .inl (by omega)
    · obtain ⟨j', hj', hjj⟩ := hmove.job_kept hw.sound hj
      exact .inr ⟨j', hj', by rw [hjj, hjp], by rw [hjj]; omega⟩

/-! ## Deliveries -/

/-- The item has left the delivery for good. -/
def Spent (s : Store) (itemId : Uuid) (d : Nat × Nat) : Prop :=
  ∃ i ∈ s.items, i.id = itemId ∧ (d.1 < i.dispatchVersion ∨ (d.1 = i.dispatchVersion ∧
    (d.2 < i.retryCount ∨ (d.2 = i.retryCount ∧ i.status ≠ .queued))))

theorem Move.spent (hk : s.Keys) (h : Move env R keep s s') {itemId : Uuid} {d : Nat × Nat}
    (hd : s.Spent itemId d) : s'.Spent itemId d := by
  obtain ⟨i, hi, hid, hspent⟩ := hd
  obtain ⟨i', hi', hid', rfl | hchk⟩ := h.item_forward hk hi
  · exact ⟨i', hi', hid, hspent⟩
  · refine ⟨i', hi', hid'.trans hid, ?_⟩
    obtain ⟨-, hmove, hver, -⟩ := itemUpdateCheck_eq_ok.1 hchk
    split at hver
    · omega
    next hmanual =>
      split at hver
      · omega
      next hretry =>
        rw [hver.1, hver.2]
        refine hspent.imp_right (And.imp_right (Or.imp_right (And.imp_right fun hnot hq => ?_)))
        -- a row that becomes queued was running, failed or under review
        cases hold : i.status <;> simp_all [GradingJobItem.allowedMove]

/-- A queued item is in a delivery that is not spent. -/
theorem Spent.ne (hk : s.Keys) {d : Nat × Nat} {i : GradingJobItem} (hi : i ∈ s.items)
    (hqueued : i.status = .queued) (h : s.Spent i.id d) : d ≠ i.delivery := by
  obtain ⟨i', hi', hid, hspent⟩ := h
  obtain rfl := eq_of_key_eq hk.items hi' hi hid
  rintro rfl
  unfold GradingJobItem.delivery at hspent
  rcases hspent with hlt | ⟨-, hlt | ⟨-, hne⟩⟩
  · exact absurd hlt (Nat.lt_irrefl _)
  · exact absurd hlt (Nat.lt_irrefl _)
  · exact hne hqueued

theorem Claimed.spent {prepared : GradingItemPreparation} {job : GradingJob}
    {item : GradingJobItem} {attempt : GradingAttempt} {clock : Clock} {token : Uuid}
    (h : Claimed s s' prepared job item attempt clock token) : s'.Spent item.id item.delivery := by
  refine ⟨claimItem clock.worker token prepared.providerSnapshot.timeoutSeconds item, ?_, rfl,
    .inr ⟨rfl, .inr ⟨rfl, by simp [claimItem]⟩⟩⟩
  rw [h.eq]
  exact (mem_replaceRow h.item_mem).2 (.inl rfl)

/-! ## Preparations -/

/-- The preparation carries the frozen inputs of its item's job. -/
def PreparedFor (s : Store) (prepared : GradingItemPreparation) : Prop :=
  ∃ i ∈ s.items, ∃ j ∈ s.jobs, i.id = prepared.itemId ∧ j.id = i.gradingJobId ∧
    j.providerConfigId = prepared.providerConfigId ∧ j.modelParameters = prepared.providerSnapshot

theorem prepareItem_preparedFor {itemId : Uuid} {dispatchVersion : Nat} {now : Time}
    {prepared : GradingItemPreparation}
    (h : s.prepareItem env itemId dispatchVersion now = .ok (some prepared)) :
    s.PreparedFor prepared := by
  unfold prepareItem at h
  split at h
  · cases h
  next hrow =>
    unfold preparationRow at hrow
    simp only [Option.bind_eq_bind, Option.bind_eq_some_iff, Option.pure_def, Option.some.injEq,
      Prod.mk.injEq] at hrow
    obtain ⟨item, hitem, job, hjob, _, -, _, -, provider, hprovider, rfl, rfl, rfl, rfl, rfl⟩ := hrow
    have hjq := List.find?_some hjob
    have hpq := List.find?_some hprovider
    simp only [Bool.and_eq_true, beq_iff_eq] at hjq hpq
    split at h
    · simp only [bind_eq_ok, require_eq_ok] at h
      obtain ⟨_, -, _, -, _, -, h⟩ := h
      cases h
      exact ⟨item, List.mem_of_find?_eq_some hitem, job, List.mem_of_find?_eq_some hjob, rfl,
        hjq.1.1, hpq.symm, rfl⟩
    · cases h

theorem Move.preparedFor (hs : Sound env s) (h : Move env R keep s s')
    {prepared : GradingItemPreparation} (hp : s.PreparedFor prepared) :
    s'.PreparedFor prepared := by
  obtain ⟨i, hi, j, hj, hid, hij, hprovider, hparameters⟩ := hp
  obtain ⟨i', hi', hii⟩ := h.item_kept hs hi
  obtain ⟨j', hj', hjj⟩ := h.job_kept hs hj
  exact ⟨i', hi', j', hj', by rw [hii, hid], by rw [hii, hjj, hij], by rw [hjj, hprovider],
    by rw [hjj, hparameters]⟩

/-- The job of the item is the job the preparation was made for. -/
theorem PreparedFor.job (hk : s.Keys) {prepared : GradingItemPreparation} {i : GradingJobItem}
    {j : GradingJob} (h : s.PreparedFor prepared) (hi : i ∈ s.items) (hj : j ∈ s.jobs)
    (hid : i.id = prepared.itemId) (hij : i.gradingJobId = j.id) :
    j.providerConfigId = prepared.providerConfigId ∧
      j.modelParameters = prepared.providerSnapshot := by
  obtain ⟨i', hi', j', hj', hid', hij', hsame⟩ := h
  obtain rfl := eq_of_key_eq hk.items hi' hi (hid'.trans hid.symm)
  obtain rfl := eq_of_key_eq hk.jobs hj' hj (hij'.trans hij)
  exact hsame

end Store

end PaperGrading
