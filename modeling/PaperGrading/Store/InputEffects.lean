import PaperGrading.Store.Effects

/-!
# What the input transactions keep

Assignments, rubrics, providers and submissions change while batches that were
created from them are being graded.  `InputsKept keep s s'` lists what survives every
such transaction: the grading tables, the identity of every row, the content of a
rubric once it left draft, a ready submission, and the connection of a provider
whose version is unchanged.  `keep` holds of the confirmed rubrics that stay confirmed.

    s.exec env (an input action) = .ok s' → InputsKept keep s s' ∧ (InputRows s → InputRows s')
-/

namespace PaperGrading

namespace Store

open Table

/-! ## Definitions -/

structure InputsKept (keep : RubricVersion → Prop) (s s' : Store) : Prop where
  jobs : s'.jobs = s.jobs
  items : s'.items = s.items
  attempts : s'.attempts = s.attempts
  reviews : s'.reviews = s.reviews
  rubrics : ∀ r ∈ s.rubrics, ∃ r' ∈ s'.rubrics, r'.toRubricIdentity = r.toRubricIdentity ∧
    (r.status ≠ .draft → r'.toRubricContent = r.toRubricContent ∧ r'.status ≠ .draft) ∧
    (r.status = .confirmed → keep r → r'.status = .confirmed)
  providers : ∀ p ∈ s.providers, ∃ p' ∈ s'.providers, p'.id = p.id ∧
    p.configVersion ≤ p'.configVersion ∧
    (p'.configVersion = p.configVersion ∨ ∀ j ∈ s.jobs, j.providerConfigId = p.id →
      j.usesProvider = false) ∧
    (p'.configVersion = p.configVersion → p'.toProviderConnection = p.toProviderConnection)
  submissions : ∀ x ∈ s.submissions, ∃ x' ∈ s'.submissions, x'.id = x.id ∧
    x'.ownerId = x.ownerId ∧ x'.assignmentId = x.assignmentId ∧ (x.status = .ready → x' = x)

/-- Keys and row constraints of the input tables. -/
structure InputRows (env : Runtime) (s : Store) : Prop where
  rubrics : s.rubrics.Pairwise fun x y => rubricConflict x y = false
  rubric_check : ∀ r ∈ s.rubrics, r.rowCheck env = .ok ()
  providers : (s.providers.map (·.id)).Nodup
  provider_check : ∀ p ∈ s.providers, p.rowCheck = .ok ()
  submissions : s.submissions.Pairwise fun x y => submissionConflict x y = false
  submission_check : ∀ x ∈ s.submissions, x.rowCheck = .ok ()

variable {env : Runtime} {keep : RubricVersion → Prop}

theorem InputsKept.refl (s : Store) : InputsKept keep s s :=
  ⟨rfl, rfl, rfl, rfl, fun r hr => ⟨r, hr, rfl, fun h => ⟨rfl, h⟩, fun h _ => h⟩,
    fun p hp => ⟨p, hp, rfl, le_rfl, .inl rfl, fun _ => rfl⟩,
    fun x hx => ⟨x, hx, rfl, rfl, rfl, fun _ => rfl⟩⟩

/-- `keep` may only look at the identity of a rubric. -/
theorem InputsKept.trans {s t u : Store}
    (hkeep : ∀ x y : RubricVersion, x.toRubricIdentity = y.toRubricIdentity → keep x → keep y)
    (h₁ : InputsKept keep s t) (h₂ : InputsKept keep t u) : InputsKept keep s u := by
  refine ⟨h₂.jobs.trans h₁.jobs, h₂.items.trans h₁.items, h₂.attempts.trans h₁.attempts,
    h₂.reviews.trans h₁.reviews, fun r hr => ?_, fun p hp => ?_, fun x hx => ?_⟩
  · obtain ⟨r₁, hr₁, hid₁, hcontent₁, hconf₁⟩ := h₁.rubrics r hr
    obtain ⟨r₂, hr₂, hid₂, hcontent₂, hconf₂⟩ := h₂.rubrics r₁ hr₁
    refine ⟨r₂, hr₂, hid₂.trans hid₁, fun hd => ?_, fun hc hk => ?_⟩
    · obtain ⟨hc₁, hd₁⟩ := hcontent₁ hd
      obtain ⟨hc₂, hd₂⟩ := hcontent₂ hd₁
      exact ⟨hc₂.trans hc₁, hd₂⟩
    · exact hconf₂ (hconf₁ hc hk) (hkeep r r₁ hid₁.symm hk)
  · obtain ⟨p₁, hp₁, hid₁, hle₁, hver₁, hconn₁⟩ := h₁.providers p hp
    obtain ⟨p₂, hp₂, hid₂, hle₂, hver₂, hconn₂⟩ := h₂.providers p₁ hp₁
    refine ⟨p₂, hp₂, hid₂.trans hid₁, hle₁.trans hle₂, ?_, fun he => ?_⟩
    · rcases hver₁ with he₁ | hun
      · rcases hver₂ with he₂ | hun
        · exact .inl (he₂.trans he₁)
        · rw [h₁.jobs, hid₁] at hun
          exact .inr hun
      · exact .inr hun
    · rw [hconn₂ (by omega), hconn₁ (by omega)]
  · obtain ⟨x₁, hx₁, hid₁, ho₁, ha₁, hready₁⟩ := h₁.submissions x hx
    obtain ⟨x₂, hx₂, hid₂, ho₂, ha₂, hready₂⟩ := h₂.submissions x₁ hx₁
    refine ⟨x₂, hx₂, hid₂.trans hid₁, ho₂.trans ho₁, ha₂.trans ha₁, fun hr => ?_⟩
    have he := hready₁ hr
    subst he
    exact hready₂ hr

/-! ## Assignments and rubrics -/

theorem updateAssignments_kept {s s' : Store} {p : Assignment → Bool} {set : Assignment → Assignment}
    (h : s.updateAssignments p set = .ok s') :
    InputsKept keep s s' ∧ (InputRows env s → InputRows env s') := by
  unfold updateAssignments at h
  obtain ⟨rows, -, hret⟩ := bind_eq_ok.1 h
  cases hret
  have hr : InputsKept keep s s := .refl s
  exact ⟨⟨rfl, rfl, rfl, rfl, hr.rubrics, hr.providers, hr.submissions⟩,
    fun hi => ⟨hi.rubrics, hi.rubric_check, hi.providers, hi.provider_check, hi.submissions,
      hi.submission_check⟩⟩

theorem insertAssignment_kept {s s' : Store} {a : Assignment} (h : s.insertAssignment a = .ok s') :
    InputsKept keep s s' ∧ (InputRows env s → InputRows env s') := by
  unfold insertAssignment at h
  simp only [bind_eq_ok] at h
  obtain ⟨rows, -, _, -, hret⟩ := h
  cases hret
  have hr : InputsKept keep s s := .refl s
  exact ⟨⟨rfl, rfl, rfl, rfl, hr.rubrics, hr.providers, hr.submissions⟩,
    fun hi => ⟨hi.rubrics, hi.rubric_check, hi.providers, hi.provider_check, hi.submissions,
      hi.submission_check⟩⟩

theorem protectRubricHistory_eq_ok {assignments : List Assignment} {old new : RubricVersion}
    (h : protectRubricHistory assignments old new = .ok ()) :
    new.toRubricIdentity = old.toRubricIdentity ∧
      (old.status ≠ .draft → old.status = .confirmed ∧ new.status = .superseded ∧
        new.toRubricContent = old.toRubricContent) := by
  unfold protectRubricHistory at h
  simp only [bind_eq_ok, require_eq_ok, decide_eq_true_eq] at h
  obtain ⟨_, hid, h⟩ := h
  refine ⟨hid, fun hd => ?_⟩
  split at h
  · cases h
  next hc =>
    simp only [bind_eq_ok, require_eq_ok, Bool.and_eq_true, beq_iff_eq, decide_eq_true_eq] at h
    obtain ⟨_, ⟨hs, hcontent⟩, -⟩ := h
    exact ⟨hc, hs, hcontent⟩
  next hdraft => exact absurd hdraft hd

/-- An `UPDATE rubric_versions`; a version leaves confirmed only by being superseded. -/
theorem updateRubrics_kept {s s' : Store} {p : RubricVersion → Bool}
    {set : RubricVersion → RubricVersion}
    (hset : ∀ r, p r = true → keep r → r.status = .confirmed → (set r).status ≠ .superseded)
    (h : s.updateRubrics env p set = .ok s') :
    InputsKept keep s s' ∧ (InputRows env s → InputRows env s') := by
  unfold updateRubrics at h
  simp only [bind_eq_ok, updateWhere_eq_ok, require_eq_ok] at h
  obtain ⟨rows, ⟨rfl, hchk⟩, _, huniq, hret⟩ := h
  cases hret
  have hr : InputsKept keep s s := .refl s
  refine ⟨⟨rfl, rfl, rfl, rfl, fun r hrm => ?_, hr.providers, hr.submissions⟩,
    fun hi => ⟨by simpa [rubricsUnique] using huniq, fun r hrm => ?_, hi.providers,
      hi.provider_check, hi.submissions, hi.submission_check⟩⟩
  · cases hp : p r with
    | false => exact ⟨r, mem_setWhere.2 (.inr ⟨hrm, hp⟩), rfl, fun h => ⟨rfl, h⟩, fun h _ => h⟩
    | true =>
      obtain ⟨_, hprot, -⟩ := hchk r hrm hp
      obtain ⟨hid, hleft⟩ := protectRubricHistory_eq_ok hprot
      refine ⟨set r, mem_setWhere.2 (.inl ⟨r, hrm, hp, rfl⟩), hid, fun hd => ?_, fun hc hk => ?_⟩
      · obtain ⟨-, hs, hcontent⟩ := hleft hd
        exact ⟨hcontent, by rw [hs]; simp⟩
      · obtain ⟨-, hs, -⟩ := hleft (by rw [hc]; simp)
        exact absurd hs (hset r hp hk hc)
  · rcases mem_setWhere.1 hrm with ⟨r₀, hr₀, hp, rfl⟩ | ⟨hm, -⟩
    · obtain ⟨_, -, hrow⟩ := hchk r₀ hr₀ hp
      exact hrow
    · exact hi.rubric_check r hm

theorem insertRubric_kept {s s' : Store} {r : RubricVersion} (h : s.insertRubric env r = .ok s') :
    InputsKept keep s s' ∧ (InputRows env s → InputRows env s') := by
  unfold insertRubric at h
  simp only [bind_eq_ok, insertRow_eq_ok, require_eq_ok] at h
  obtain ⟨rows, ⟨rfl, _, hrow, -⟩, _, huniq, hret⟩ := h
  cases hret
  have hr : InputsKept keep s s := .refl s
  refine ⟨⟨rfl, rfl, rfl, rfl, fun x hx => ?_, hr.providers, hr.submissions⟩,
    fun hi => ⟨by simpa [rubricsUnique] using huniq, fun x hx => ?_, hi.providers,
      hi.provider_check, hi.submissions, hi.submission_check⟩⟩
  · exact ⟨x, List.mem_append_left _ hx, rfl, fun h => ⟨rfl, h⟩, fun h _ => h⟩
  · rcases List.mem_append.1 hx with hx | hx
    · exact hi.rubric_check x hx
    · rw [List.mem_singleton.1 hx]
      exact hrow

/-! ## Providers -/

theorem invalidateProviderTest_id (old new : ProviderConfig) :
    (invalidateProviderTest old new).id = new.id := by
  unfold invalidateProviderTest
  split <;> rfl

/-- The version of a row after the trigger: one more iff the connection changed. -/
theorem invalidateProviderTest_version (old new : ProviderConfig) :
    (invalidateProviderTest old new).toProviderConnection = new.toProviderConnection ∧
      (invalidateProviderTest old new).configVersion =
        if new.toProviderConnection = old.toProviderConnection then old.configVersion
        else old.configVersion + 1 := by
  unfold invalidateProviderTest
  by_cases h : new.toProviderConnection = old.toProviderConnection
  · simp [h]
  · simp [h]

theorem updateProviders_kept {s s' : Store} {p : ProviderConfig → Bool}
    {set : ProviderConfig → ProviderConfig} (hid : ∀ x, (set x).id = x.id)
    (h : s.updateProviders p set = .ok s') :
    InputsKept keep s s' ∧ (InputRows env s → InputRows env s') := by
  unfold updateProviders at h
  simp only [bind_eq_ok, updateWhere_eq_ok, require_eq_ok] at h
  obtain ⟨rows, ⟨rfl, hchk⟩, _, -, hret⟩ := h
  cases hret
  have hr : InputsKept keep s s := .refl s
  refine ⟨⟨rfl, rfl, rfl, rfl, hr.rubrics, fun x hx => ?_, hr.submissions⟩,
    fun hi => ⟨hi.rubrics, hi.rubric_check, ?_, fun x hx => ?_, hi.submissions,
      hi.submission_check⟩⟩
  · cases hp : p x with
    | false =>
      exact ⟨x, mem_setWhere.2 (.inr ⟨hx, hp⟩), rfl, le_rfl, .inl rfl, fun _ => rfl⟩
    | true =>
      obtain ⟨hconn, hver⟩ := invalidateProviderTest_version x (set x)
      obtain ⟨_, hguard, -⟩ := hchk x hx hp
      refine ⟨_, mem_setWhere.2 (.inl ⟨x, hx, hp, rfl⟩), ?_, ?_, ?_, ?_⟩
      · rw [invalidateProviderTest_id, hid]
      · rw [hver]
        split <;> omega
      · rw [hver]
        split
        · exact .inl rfl
        next hne =>
          right
          intro j hj hjp
          rw [guardProviderUpdate, require_eq_ok, hconn, decide_eq_false hne, Bool.false_or,
            Bool.not_eq_true', List.any_eq_false] at hguard
          have := hguard j hj
          simpa [hjp] using this
      · intro he
        rw [hver] at he
        split at he
        next heq => rw [hconn, heq]
        · omega
  · rw [map_setWhere _ _ _ _ fun x _ _ => by rw [invalidateProviderTest_id, hid]]
    exact hi.providers
  · rcases mem_setWhere.1 hx with ⟨x₀, hx₀, hp, rfl⟩ | ⟨hm, -⟩
    · obtain ⟨_, -, hrow⟩ := hchk x₀ hx₀ hp
      exact hrow
    · exact hi.provider_check x hm

theorem updateMatching_kept {s s' : Store} {p : ProviderConfig → Bool}
    {set : ProviderConfig → ProviderConfig} {r : Bool} (hid : ∀ x, (set x).id = x.id)
    (h : s.updateMatching p set = .ok (r, s')) :
    InputsKept keep s s' ∧ (InputRows env s → InputRows env s') := by
  unfold updateMatching at h
  split at h
  · obtain ⟨s₁, h₁, hret⟩ := bind_eq_ok.1 h
    cases hret
    exact updateProviders_kept hid h₁
  · cases h
    exact ⟨.refl s, id⟩

theorem createProvider_kept {s s' : Store} {id : Uuid} {values : ProviderConfigUpdateValues}
    (h : s.createProvider id values = .ok s') :
    InputsKept keep s s' ∧ (InputRows env s → InputRows env s') := by
  unfold createProvider at h
  simp only [bind_eq_ok, insertRow_eq_ok, require_eq_ok, Bool.and_eq_true, decide_eq_true_eq] at h
  obtain ⟨rows, ⟨rfl, hrow⟩, _, ⟨-, huniq⟩, hret⟩ := h
  cases hret
  have hr : InputsKept keep s s := .refl s
  refine ⟨⟨rfl, rfl, rfl, rfl, hr.rubrics, fun x hx => ?_, hr.submissions⟩,
    fun hi => ⟨hi.rubrics, hi.rubric_check, huniq, fun x hx => ?_, hi.submissions,
      hi.submission_check⟩⟩
  · exact ⟨x, List.mem_append_left _ hx, rfl, le_rfl, .inl rfl, fun _ => rfl⟩
  · rcases List.mem_append.1 hx with hx | hx
    · exact hi.provider_check x hx
    · rw [List.mem_singleton.1 hx]
      exact hrow

/-! ## Submissions -/

theorem nodup_submissionIds {rows : List Submission}
    (h : rows.Pairwise fun x y => submissionConflict x y = false) : (rows.map (·.id)).Nodup := by
  rw [List.Nodup, List.pairwise_map]
  refine h.imp fun {x y} h he => ?_
  simp [submissionConflict, he] at h

/-- A reservation leaves the store alone, or inserts its row. -/
theorem reserveSubmission_cases {s s' : Store} {ownerId : Uuid} {q : SubmissionReservationRequest}
    {r : ReservationState} (h : s.reserveSubmission ownerId q = .ok (r, s')) :
    s' = s ∨ ∃ row, row.status = .uploaded ∧ row.rowCheck = .ok () ∧
      submissionsUnique (s.submissions ++ [row]) = true ∧
      s' = { s with submissions := s.submissions ++ [row] } := by
  unfold reserveSubmission at h
  split at h
  · cases h
    exact .inl rfl
  split at h
  · cases h
    exact .inl rfl
  split at h
  · split at h <;> cases h
    exact .inl rfl
  simp only [bind_eq_ok, insertRow_eq_ok, require_eq_ok] at h
  obtain ⟨rows, ⟨rfl, hrow⟩, _, huniq, hret⟩ := h
  cases hret
  exact .inr ⟨_, rfl, hrow, huniq, rfl⟩

theorem reserveSubmission_kept {s s' : Store} {ownerId : Uuid} {q : SubmissionReservationRequest}
    {r : ReservationState} (h : s.reserveSubmission ownerId q = .ok (r, s')) :
    InputsKept keep s s' ∧ (InputRows env s → InputRows env s') := by
  have hr : InputsKept keep s s := .refl s
  rcases reserveSubmission_cases h with rfl | ⟨row, -, hrow, huniq, rfl⟩
  · exact ⟨hr, id⟩
  refine ⟨⟨rfl, rfl, rfl, rfl, hr.rubrics, hr.providers, fun x hx => ?_⟩,
    fun hi => ⟨hi.rubrics, hi.rubric_check, hi.providers, hi.provider_check,
      by simpa [submissionsUnique] using huniq, fun x hx => ?_⟩⟩
  · exact ⟨x, List.mem_append_left _ hx, rfl, rfl, rfl, fun _ => rfl⟩
  · rcases List.mem_append.1 hx with hx | hx
    · exact hi.submission_check x hx
    · rw [List.mem_singleton.1 hx]
      exact hrow

theorem apply_identity (t : SubmissionTarget) (x : Submission) :
    (t.apply x).id = x.id ∧ (t.apply x).ownerId = x.ownerId ∧
      (t.apply x).assignmentId = x.assignmentId := by
  cases t <;> exact ⟨rfl, rfl, rfl⟩

theorem allowed_ready (t : SubmissionTarget) : t.allowed .ready = false := by
  cases t <;> rfl

/-- A transition finds no row, or moves the one of its teacher. -/
theorem transitionSubmission_cases {s s' : Store} {teacher : Option Uuid} {submissionId : Uuid}
    {target : SubmissionTarget} {r : Option Uuid}
    (hn : s.submissions.Pairwise fun x y => submissionConflict x y = false)
    (h : s.transitionSubmission teacher submissionId target = .ok (r, s')) :
    (r = none ∧ s' = s) ∨ ∃ x ∈ s.submissions, x.id = submissionId ∧ teacher = some x.ownerId ∧
      target.allowed x.status = true ∧ (target.apply x).rowCheck = .ok () ∧
      submissionsUnique s'.submissions = true ∧
      s' = { s with submissions := replaceRow (·.id) x (target.apply x) s.submissions } := by
  unfold transitionSubmission at h
  split at h
  · cases h
  next actorId =>
    split at h
    · cases h
      exact .inl ⟨rfl, rfl⟩
    next x hfind =>
      simp only [bind_eq_ok, updateWhere_eq_ok, require_eq_ok] at h
      obtain ⟨_, hallowed, rows, ⟨rfl, hchk⟩, _, huniq, hret⟩ := h
      cases hret
      have hx := List.mem_of_find?_eq_some hfind
      have hq := List.find?_some hfind
      have hp := hq
      simp only [Bool.and_eq_true, beq_iff_eq] at hp
      obtain ⟨rfl, rfl⟩ := hp
      refine .inr ⟨x, hx, rfl, rfl, hallowed, hchk x hx hq, huniq, ?_⟩
      rw [setWhere_eq_replaceRow (nodup_submissionIds hn) hx hq fun y _ hy => ?_]
      simp only [Bool.and_eq_true, beq_iff_eq] at hy
      exact hy.1

/-- Nothing leaves `ready`: the row of a transition is not ready before it. -/
theorem transitionSubmission_kept {s s' : Store} {teacher : Option Uuid} {submissionId : Uuid}
    {target : SubmissionTarget} {r : Option Uuid}
    (hn : s.submissions.Pairwise fun x y => submissionConflict x y = false)
    (h : s.transitionSubmission teacher submissionId target = .ok (r, s')) :
    InputsKept keep s s' ∧ (InputRows env s → InputRows env s') := by
  have hr : InputsKept keep s s := .refl s
  rcases transitionSubmission_cases hn h with ⟨-, rfl⟩ | ⟨x, hx, -, -, hallowed, hrow, huniq, rfl⟩
  · exact ⟨hr, id⟩
  refine ⟨⟨rfl, rfl, rfl, rfl, hr.rubrics, hr.providers, fun y hy => ?_⟩,
    fun hi => ⟨hi.rubrics, hi.rubric_check, hi.providers, hi.provider_check,
      by simpa [submissionsUnique] using huniq, fun y hy => ?_⟩⟩
  · by_cases hid : y.id = x.id
    · obtain rfl : y = x := eq_of_key_eq (nodup_submissionIds hn) hy hx hid
      obtain ⟨hid, ho, ha⟩ := apply_identity target y
      refine ⟨_, (mem_replaceRow hy).2 (.inl rfl), hid, ho, ha, fun hready => ?_⟩
      rw [hready, allowed_ready] at hallowed
      cases hallowed
    · exact ⟨y, (mem_replaceRow hx).2 (.inr ⟨hy, hid⟩), rfl, rfl, rfl, fun _ => rfl⟩
  · rcases (mem_replaceRow hx).1 hy with rfl | ⟨hy, -⟩
    · exact hrow
    · exact hi.submission_check y hy

/-! ## Transactions -/

/-- The rubrics that an action may supersede. -/
def supersedes : Action env → RubricVersion → Prop
  | .confirmRubric ownerId assignmentId .., r => r.assignmentId = assignmentId ∧ r.ownerId = ownerId
  | _, _ => False

/-- The two facts every input transaction is proved to have. -/
def Keeps (env : Runtime) (keep : RubricVersion → Prop) (s s' : Store) : Prop :=
  InputsKept keep s s' ∧ (InputRows env s → InputRows env s')

theorem Keeps.refl (s : Store) : Keeps env keep s s := ⟨.refl s, id⟩

theorem Keeps.trans {s t u : Store}
    (hkeep : ∀ x y : RubricVersion, x.toRubricIdentity = y.toRubricIdentity → keep x → keep y)
    (h₁ : Keeps env keep s t) (h₂ : Keeps env keep t u) : Keeps env keep s u :=
  ⟨h₁.1.trans hkeep h₂.1, h₂.2 ∘ h₁.2⟩

theorem createAssignment_kept {s s' : Store} {ownerId assignmentId rubricId : Uuid}
    {title instructions : String} {draft : RubricDraftCreate} {now : Time}
    (h : s.createAssignment env ownerId title instructions draft assignmentId rubricId now = .ok s') :
    Keeps env (fun _ => True) s s' := by
  unfold createAssignment at h
  simp only [bind_eq_ok] at h
  obtain ⟨s₁, h₁, rubric, -, h₂⟩ := h
  exact Keeps.trans (fun _ _ _ => id) (insertAssignment_kept h₁) (insertRubric_kept h₂)

theorem updateAssignment_kept {s s' : Store} {ownerId assignmentId : Uuid}
    {title instructions : String} {r : Bool}
    (h : s.updateAssignment ownerId assignmentId title instructions = .ok (r, s')) :
    Keeps env (fun _ => True) s s' := by
  unfold updateAssignment at h
  split at h
  · cases h
    exact .refl s
  · split at h
    · obtain ⟨s₁, h₁, hret⟩ := bind_eq_ok.1 h
      cases hret
      exact updateAssignments_kept h₁
    · cases h
      exact .refl s

theorem updateAssignmentStatus_kept {s s' : Store} {ownerId assignmentId : Uuid}
    {action : AssignmentStatusAction} {r : Bool}
    (h : s.updateAssignmentStatus ownerId assignmentId action = .ok (r, s')) :
    Keeps env (fun _ => True) s s' := by
  unfold updateAssignmentStatus at h
  split at h
  · cases h
    exact .refl s
  · split at h <;> split at h
    · cases h
      exact .refl s
    · obtain ⟨s₁, h₁, hret⟩ := bind_eq_ok.1 h
      cases hret
      exact updateAssignments_kept h₁
    · obtain ⟨s₁, h₁, hret⟩ := bind_eq_ok.1 h
      cases hret
      exact updateAssignments_kept h₁
    · cases h
      exact .refl s

theorem createRubricDraft_kept {s s' : Store} {ownerId assignmentId rubricId : Uuid}
    {draft : RubricDraftCreate} {now : Time} {r : Bool}
    (h : s.createRubricDraft env ownerId assignmentId draft rubricId now = .ok (r, s')) :
    Keeps env (fun _ => True) s s' := by
  unfold createRubricDraft at h
  split at h
  · cases h
    exact .refl s
  · split at h
    · cases h
      exact .refl s
    · simp only [bind_eq_ok] at h
      obtain ⟨rubric, -, s₁, h₁, hret⟩ := h
      cases hret
      exact insertRubric_kept h₁

theorem saveGeneratedRubric_kept {s s' : Store} {ownerId assignmentId rubricId providerId : Uuid}
    {version : Nat} {model : String} {structured : ValidRubric env} {r : Bool}
    (h : s.saveGeneratedRubric env ownerId assignmentId rubricId providerId version model structured =
      .ok (r, s')) : Keeps env (fun _ => True) s s' := by
  unfold saveGeneratedRubric at h
  split at h
  · split at h
    · obtain ⟨s₁, h₁, hret⟩ := bind_eq_ok.1 h
      cases hret
      exact updateRubrics_kept (fun r _ _ hc => by simp [hc]) h₁
    · cases h
      exact .refl s
  · cases h
    exact .refl s

theorem updateStructuredRubric_kept {s s' : Store} {ownerId assignmentId rubricId : Uuid}
    {structured : ValidRubric env} {r : Bool}
    (h : s.updateStructuredRubric env ownerId assignmentId rubricId structured = .ok (r, s')) :
    Keeps env (fun _ => True) s s' := by
  unfold updateStructuredRubric at h
  split at h
  · cases h
    exact .refl s
  · split at h
    · obtain ⟨s₁, h₁, hret⟩ := bind_eq_ok.1 h
      cases hret
      exact updateRubrics_kept (fun r _ _ hc => by simp [hc]) h₁
    · cases h
      exact .refl s

/-- The rubrics outside an assignment. -/
def otherRubric (ownerId assignmentId : Uuid) (r : RubricVersion) : Prop :=
  ¬(r.assignmentId = assignmentId ∧ r.ownerId = ownerId)

theorem otherRubric_congr {ownerId assignmentId : Uuid} (x y : RubricVersion)
    (h : x.toRubricIdentity = y.toRubricIdentity) (hx : otherRubric ownerId assignmentId x) :
    otherRubric ownerId assignmentId y := by
  unfold otherRubric at hx ⊢
  rwa [← h]

/-- The last three flushes of `confirm_rubric`. -/
theorem confirmFlushes_kept {s s₂ s₃ s₄ : Store} {ownerId assignmentId rubricId : Uuid} {now : Time}
    (h₂ : s.updateRubrics env (fun r => r.assignmentId == assignmentId && r.ownerId == ownerId &&
      r.status == .confirmed) (fun r => { r with status := .superseded }) = .ok s₂)
    (h₃ : s₂.updateRubrics env (·.id == rubricId)
      (fun r => { r with status := .confirmed, confirmedAt := some now }) = .ok s₃)
    (h₄ : s₃.updateAssignments (·.id == assignmentId) (fun a => { a with status := .ready }) =
      .ok s₄) : Keeps env (otherRubric ownerId assignmentId) s s₄ := by
  have hsupersede : Keeps env (otherRubric ownerId assignmentId) s s₂ :=
    updateRubrics_kept (fun x hp hk _ => by
      simp only [Bool.and_eq_true, beq_iff_eq] at hp
      exact absurd hp.1 hk) h₂
  have hconfirm : Keeps env (otherRubric ownerId assignmentId) s₂ s₃ :=
    updateRubrics_kept (fun x _ _ _ => by simp) h₃
  exact (hsupersede.trans otherRubric_congr hconfirm).trans otherRubric_congr
    (updateAssignments_kept h₄)

/-- A confirmation supersedes rubrics of its own assignment only. -/
theorem confirmRubric_kept {s s' : Store} {ownerId assignmentId rubricId providerId : Uuid}
    {model : String} {now : Time} {r : Bool}
    (h : s.confirmRubric env ownerId assignmentId rubricId providerId model now = .ok (r, s')) :
    Keeps env (otherRubric ownerId assignmentId) s s' := by
  unfold confirmRubric at h
  split at h
  · split at h
    · split at h
      · simp only [bind_eq_ok] at h
        obtain ⟨s₁, h₁, s₂, h₂, s₃, h₃, s₄, h₄, hret⟩ := h
        cases hret
        have hunready : Keeps env (otherRubric ownerId assignmentId) s s₁ :=
          updateAssignments_kept h₁
        exact hunready.trans otherRubric_congr (confirmFlushes_kept h₂ h₃ h₄)
      · simp only [bind_eq_ok] at h
        obtain ⟨s₁, h₁, s₂, h₂, s₃, h₃, s₄, h₄, hret⟩ := h
        cases h₁
        cases hret
        exact confirmFlushes_kept h₂ h₃ h₄
    · cases h
      exact .refl s
  · cases h
    exact .refl s

end Store

end PaperGrading
