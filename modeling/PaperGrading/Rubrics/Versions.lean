import PaperGrading.Rubrics.Effects

/-!
# The versions of a rubric

An assignment has at most one draft and at most one confirmed version; the draft is the
last version, and the confirmed one follows every superseded one.  An assignment that is
not archived is ready exactly when it has a confirmed version.

    every transaction keeps the order of the versions                              (step_ordered)
    and so does every run; what has left draft keeps its content                   (run_versions)
-/

namespace PaperGrading

namespace Store

open Table

variable {env : Runtime} {s s' : Store}

/-! ## The invariant -/

structure OrderedVersions (s : Store) : Prop where
  assignments : (s.assignments.map (·.id)).Nodup
  owner : ∀ r ∈ s.rubrics, ∃ a ∈ s.assignments, a.id = r.assignmentId ∧ a.ownerId = r.ownerId
  draft_last : ∀ r ∈ s.rubrics, r.status = .draft → ∀ x ∈ s.rubrics,
    x.assignmentId = r.assignmentId → x.id ≠ r.id → x.version < r.version
  confirmed_after : ∀ r ∈ s.rubrics, r.status = .confirmed → ∀ x ∈ s.rubrics,
    x.assignmentId = r.assignmentId → x.status = .superseded → x.version < r.version
  ready : ∀ a ∈ s.assignments, a.status ≠ .archived →
    (a.status = .ready ↔ ∃ r ∈ s.rubrics, r.assignmentId = a.id ∧ r.status = .confirmed)

theorem orderedVersions_empty : OrderedVersions empty :=
  ⟨List.nodup_nil, by simp [empty], by simp [empty], by simp [empty], by simp [empty]⟩

theorem OrderedVersions.of_same (h : OrderedVersions s) (ha : s'.assignments = s.assignments)
    (hr : s'.rubrics = s.rubrics) : OrderedVersions s' := by
  obtain ⟨hnodup, howner, hlast, hafter, hready⟩ := h
  rw [← ha, ← hr] at *
  exact ⟨hnodup, howner, hlast, hafter, hready⟩

/-- The owner of an assignment is the owner of its versions. -/
theorem OrderedVersions.owner_eq (h : OrderedVersions s) {r : RubricVersion} {a : Assignment}
    (hr : r ∈ s.rubrics) (ha : a ∈ s.assignments) (hid : r.assignmentId = a.id) :
    r.ownerId = a.ownerId := by
  obtain ⟨a', ha', haid, hao⟩ := h.owner r hr
  rw [← eq_of_key_eq h.assignments ha' ha (haid.trans hid)]
  exact hao.symm

/-! ## Assignments -/

/-- An `UPDATE` of assignments that leaves every status as the versions call for. -/
theorem OrderedVersions.setAssignments (h : OrderedVersions s) {p : Assignment → Bool}
    {set : Assignment → Assignment} (hid : ∀ a, (set a).id = a.id)
    (howner : ∀ a, (set a).ownerId = a.ownerId)
    (hset : ∀ a ∈ s.assignments, p a = true → (set a).status ≠ .archived →
      ((set a).status = .ready ↔ ∃ r ∈ s.rubrics, r.assignmentId = a.id ∧ r.status = .confirmed)) :
    OrderedVersions { s with assignments := setWhere p set s.assignments } := by
  refine ⟨?_, fun r hr => ?_, h.draft_last, h.confirmed_after, fun a ha hopen => ?_⟩
  · rw [map_setWhere (·.id) p set s.assignments fun a _ _ => hid a]
    exact h.assignments
  · obtain ⟨a, ha, haid, hao⟩ := h.owner r hr
    cases hp : p a with
    | true =>
      exact ⟨set a, mem_setWhere.2 (.inl ⟨a, ha, hp, rfl⟩), (hid a).trans haid, (howner a).trans hao⟩
    | false => exact ⟨a, mem_setWhere.2 (.inr ⟨ha, hp⟩), haid, hao⟩
  · rcases mem_setWhere.1 ha with ⟨b, hb, hp, rfl⟩ | ⟨ha, -⟩
    · rw [hid]
      exact hset b hb hp hopen
    · exact h.ready a ha hopen

/-! ## Drafts -/

/-- A new draft that follows all versions of its assignment. -/
theorem OrderedVersions.newDraft (h : OrderedVersions s) {ownerId assignmentId : Uuid}
    {version : Nat} {r : RubricVersion} (hassignments : s'.assignments = s.assignments)
    (hdraft : NewDraft s s' ownerId assignmentId version r)
    (hassignment : ∃ a ∈ s.assignments, a.id = assignmentId ∧ a.ownerId = ownerId)
    (hnone : ∀ x ∈ s.rubrics, x.assignmentId = assignmentId → x.status ≠ .draft)
    (hbelow : ∀ x ∈ s.rubrics, x.assignmentId = assignmentId → x.version < version) :
    OrderedVersions s' := by
  have hmem {x : RubricVersion} : x ∈ s'.rubrics ↔ x ∈ s.rubrics ∨ x = r := by
    rw [hdraft.rubrics, List.mem_append, List.mem_singleton]
  refine ⟨hassignments ▸ h.assignments, fun x hx => ?_, fun x hx hxd y hy hya hne => ?_,
    fun x hx hxc y hy hya hys => ?_, fun a ha hopen => ?_⟩
  · rw [hassignments]
    rcases hmem.1 hx with hx | rfl
    · exact h.owner x hx
    · rw [hdraft.assignment, hdraft.owner]
      exact hassignment
  · rcases hmem.1 hx with hx | rfl
    · rcases hmem.1 hy with hy | rfl
      · exact h.draft_last x hx hxd y hy hya hne
      · exact absurd hxd (hnone x hx (hya.symm.trans hdraft.assignment))
    · rcases hmem.1 hy with hy | rfl
      · rw [hdraft.version]
        exact hbelow y hy (hya.trans hdraft.assignment)
      · exact absurd rfl hne
  · rcases hmem.1 hx with hx | rfl
    · rcases hmem.1 hy with hy | rfl
      · exact h.confirmed_after x hx hxc y hy hya hys
      · rw [hdraft.draft] at hys
        cases hys
    · rw [hdraft.draft] at hxc
      cases hxc
  · rw [hassignments] at ha
    rw [h.ready a ha hopen]
    constructor
    · rintro ⟨x, hx, hxa, hxc⟩
      exact ⟨x, hmem.2 (.inl hx), hxa, hxc⟩
    · rintro ⟨x, hx, hxa, hxc⟩
      rcases hmem.1 hx with hx | rfl
      · exact ⟨x, hx, hxa, hxc⟩
      · rw [hdraft.draft] at hxc
        cases hxc

/-- A new assignment comes with its first draft. -/
theorem OrderedVersions.create (h : OrderedVersions s) {a : Assignment} {r : RubricVersion}
    (hassignments : s'.assignments = s.assignments ++ [a])
    (hnodup : (s'.assignments.map (·.id)).Nodup) (hstatus : a.status = .draft)
    (hdraft : NewDraft s s' a.ownerId a.id 1 r) : OrderedVersions s' := by
  -- no version belongs to it yet
  have hnone {x : RubricVersion} (hx : x ∈ s.rubrics) : x.assignmentId ≠ a.id := by
    intro hxa
    obtain ⟨b, hb, hbid, -⟩ := h.owner x hx
    rw [hassignments, List.map_append, List.nodup_append] at hnodup
    exact hnodup.2.2 _ (List.mem_map_of_mem hb) _ (by simp) (hbid.trans hxa)
  have hadded : OrderedVersions { s with assignments := s'.assignments } := by
    refine ⟨hnodup, fun x hx => ?_, h.draft_last, h.confirmed_after, fun b hb hopen => ?_⟩
    · obtain ⟨b, hb, hbid⟩ := h.owner x hx
      exact ⟨b, hassignments ▸ List.mem_append_left _ hb, hbid⟩
    · rw [hassignments] at hb
      rcases List.mem_append.1 hb with hb | hb
      · exact h.ready b hb hopen
      · obtain rfl := List.mem_singleton.1 hb
        rw [hstatus]
        simp only [reduceCtorEq, false_iff]
        rintro ⟨x, hx, hxa, -⟩
        exact hnone hx hxa
  refine hadded.newDraft rfl ⟨hdraft.assignment, hdraft.owner, hdraft.version, hdraft.draft,
    hdraft.structured, hdraft.unique, hdraft.rubrics⟩ ⟨a, ?_, rfl, rfl⟩ (fun x hx hxa => absurd hxa (hnone hx))
    fun x hx hxa => absurd hxa (hnone hx)
  exact hassignments ▸ List.mem_append_right _ (List.mem_singleton_self a)

/-- A draft is replaced by a draft of the same version. -/
theorem OrderedVersions.replaceDraft (h : OrderedVersions s) (hs : Sound env s)
    {draft row : RubricVersion} (hm : draft ∈ s.rubrics)
    (hid : row.toRubricIdentity = draft.toRubricIdentity) (hstatus : row.status = draft.status) :
    OrderedVersions { s with rubrics := replaceRow (·.id) draft row s.rubrics } := by
  -- every version of the new table stands for one of the old table
  have hback {x : RubricVersion} (hx : x ∈ replaceRow (·.id) draft row s.rubrics) :
      ∃ x₀ ∈ s.rubrics, x.toRubricIdentity = x₀.toRubricIdentity ∧ x.status = x₀.status := by
    rcases (mem_replaceRow hm).1 hx with rfl | ⟨hx, -⟩
    · exact ⟨draft, hm, hid, hstatus⟩
    · exact ⟨x, hx, rfl, rfl⟩
  have hforward {x : RubricVersion} (hx : x ∈ s.rubrics) :
      ∃ x' ∈ replaceRow (·.id) draft row s.rubrics,
        x'.toRubricIdentity = x.toRubricIdentity ∧ x'.status = x.status := by
    by_cases hxid : x.id = draft.id
    · obtain rfl : x = draft := eq_of_key_eq (rubricIds_nodup hs) hx hm hxid
      exact ⟨row, (mem_replaceRow hm).2 (.inl rfl), hid, hstatus⟩
    · exact ⟨x, (mem_replaceRow hm).2 (.inr ⟨hx, hxid⟩), rfl, rfl⟩
  refine ⟨h.assignments, fun x hx => ?_, fun x hx hxd y hy hya hne => ?_,
    fun x hx hxc y hy hya hys => ?_, fun a ha hopen => ?_⟩
  · obtain ⟨x₀, hx₀, hxid, -⟩ := hback hx
    rw [hxid]
    exact h.owner x₀ hx₀
  · obtain ⟨x₀, hx₀, hxid, hxs⟩ := hback hx
    obtain ⟨y₀, hy₀, hyid, -⟩ := hback hy
    rw [hxid, hyid] at hya hne ⊢
    exact h.draft_last x₀ hx₀ (hxs.symm.trans hxd) y₀ hy₀ hya hne
  · obtain ⟨x₀, hx₀, hxid, hxs⟩ := hback hx
    obtain ⟨y₀, hy₀, hyid, hys'⟩ := hback hy
    rw [hxid, hyid] at hya ⊢
    exact h.confirmed_after x₀ hx₀ (hxs.symm.trans hxc) y₀ hy₀ hya (hys'.symm.trans hys)
  · rw [h.ready a ha hopen]
    constructor
    · rintro ⟨x, hx, hxa, hxc⟩
      obtain ⟨x', hx', hxid, hxs⟩ := hforward hx
      exact ⟨x', hx', by rw [hxid]; exact hxa, hxs.trans hxc⟩
    · rintro ⟨x, hx, hxa, hxc⟩
      obtain ⟨x₀, hx₀, hxid, hxs⟩ := hback hx
      exact ⟨x₀, hx₀, by rw [← hxid]; exact hxa, hxs.symm.trans hxc⟩

/-! ## Confirmation -/

theorem afterConfirm_identity (ownerId assignmentId rubricId : Uuid) (now : Time)
    (r : RubricVersion) :
    (afterConfirm ownerId assignmentId rubricId now r).toRubricIdentity = r.toRubricIdentity := by
  unfold afterConfirm
  split
  · rfl
  · split <;> rfl

/-- What a version is after a confirmation in its assignment. -/
theorem afterConfirm_status {ownerId assignmentId rubricId : Uuid} {now : Time} {r : RubricVersion}
    (ha : r.assignmentId = assignmentId) (ho : r.ownerId = ownerId) :
    (afterConfirm ownerId assignmentId rubricId now r).status =
      if r.id = rubricId then .confirmed
      else if r.status = .confirmed then .superseded else r.status := by
  unfold afterConfirm isConfirmedOf
  split
  · rfl
  · by_cases hc : r.status = .confirmed <;> simp [ha, ho, hc]

theorem afterConfirm_elsewhere {ownerId assignmentId rubricId : Uuid} {now : Time}
    {r : RubricVersion} (hid : r.id ≠ rubricId) (ha : r.assignmentId ≠ assignmentId) :
    afterConfirm ownerId assignmentId rubricId now r = r := by
  simp [afterConfirm, isConfirmedOf, hid, ha]

section Confirm

variable {ownerId assignmentId rubricId : Uuid} {draft : RubricVersion}

/-- The other versions of the draft's assignment are older. -/
theorem Editable.version_lt (he : Editable s ownerId assignmentId rubricId draft)
    (h : OrderedVersions s) {x : RubricVersion} (hx : x ∈ s.rubrics)
    (hxa : x.assignmentId = assignmentId) (hne : x.id ≠ rubricId) : x.version < draft.version :=
  h.draft_last draft he.mem he.draft x hx (hxa.trans he.assignment.symm) (he.id.symm ▸ hne)

theorem Editable.not_draft (he : Editable s ownerId assignmentId rubricId draft)
    (h : OrderedVersions s) {x : RubricVersion} (hx : x ∈ s.rubrics)
    (hxa : x.assignmentId = assignmentId) (hne : x.id ≠ rubricId) : x.status ≠ .draft := by
  intro hxd
  have hlt := he.version_lt h hx hxa hne
  have hgt := h.draft_last x hx hxd draft he.mem (he.assignment.trans hxa.symm)
    (by rw [he.id]; exact Ne.symm hne)
  omega

/-- Versions of other assignments are left alone. -/
theorem Editable.confirm_other (he : Editable s ownerId assignmentId rubricId draft)
    (hs : Sound env s) (now : Time) {x : RubricVersion} (hx : x ∈ s.rubrics)
    (hxa : x.assignmentId ≠ assignmentId) :
    afterConfirm ownerId assignmentId rubricId now x = x := by
  refine afterConfirm_elsewhere (fun hid => hxa ?_) hxa
  rw [eq_of_key_eq (rubricIds_nodup hs) hx he.mem (hid.trans he.id.symm)]
  exact he.assignment

theorem Editable.confirm_status (he : Editable s ownerId assignmentId rubricId draft)
    (h : OrderedVersions s) (now : Time) {x : RubricVersion} (hx : x ∈ s.rubrics)
    (hxa : x.assignmentId = assignmentId) :
    (afterConfirm ownerId assignmentId rubricId now x).status =
      if x.id = rubricId then .confirmed else if x.status = .confirmed then .superseded
      else x.status := by
  obtain ⟨a, ham, haid, hao, -⟩ := he.open_
  exact afterConfirm_status hxa ((h.owner_eq hx ham (hxa.trans haid.symm)).trans hao)

/-- In its assignment the draft becomes the one confirmed version. -/
theorem Editable.confirmed_iff (he : Editable s ownerId assignmentId rubricId draft)
    (h : OrderedVersions s) (now : Time) {x : RubricVersion} (hx : x ∈ s.rubrics)
    (hxa : x.assignmentId = assignmentId) :
    (afterConfirm ownerId assignmentId rubricId now x).status = .confirmed ↔ x.id = rubricId := by
  rw [he.confirm_status h now hx hxa]
  by_cases hid : x.id = rubricId
  · simp [hid]
  · by_cases hxc : x.status = .confirmed <;> simp [hid, hxc]

/-- No version of the assignment is a draft after a confirmation. -/
theorem Editable.confirm_not_draft (he : Editable s ownerId assignmentId rubricId draft)
    (h : OrderedVersions s) (now : Time) {x : RubricVersion} (hx : x ∈ s.rubrics)
    (hxa : x.assignmentId = assignmentId) :
    (afterConfirm ownerId assignmentId rubricId now x).status ≠ .draft := by
  rw [he.confirm_status h now hx hxa]
  by_cases hid : x.id = rubricId
  · simp [hid]
  · rw [if_neg hid]
    split
    · simp
    · exact he.not_draft h hx hxa hid

theorem OrderedVersions.confirm (h : OrderedVersions s) (hs : Sound env s) {providerId : Uuid}
    {model : String} {now : Time}
    (hc : ConfirmedRubric s s' ownerId assignmentId rubricId providerId model now draft) :
    OrderedVersions s' := by
  obtain ⟨he, -, -, heq⟩ := hc
  have hback {x : RubricVersion} (hx : x ∈ s'.rubrics) :
      ∃ x₀ ∈ s.rubrics, x = afterConfirm ownerId assignmentId rubricId now x₀ ∧
        x.toRubricIdentity = x₀.toRubricIdentity := by
    rw [heq] at hx
    obtain ⟨x₀, hx₀, rfl⟩ := List.mem_map.1 hx
    exact ⟨x₀, hx₀, rfl, afterConfirm_identity ..⟩
  refine ⟨?_, fun x hx => ?_, fun x hx hxd y hy hya hne => ?_, fun x hx hxc y hy hya hys => ?_,
    fun b hb hopen => ?_⟩
  · rw [heq]
    simp only
    rw [map_setWhere (fun b : Assignment => b.id) _ _ _ (by intro _ _ _; rfl)]
    exact h.assignments
  · obtain ⟨x₀, hx₀, -, hxid⟩ := hback hx
    obtain ⟨b, hb, hbid, hbo⟩ := h.owner x₀ hx₀
    rw [hxid, heq]
    by_cases hba : b.id = assignmentId
    · exact ⟨{ b with status := .ready }, mem_setWhere.2 (.inl ⟨b, hb, by simp [hba], rfl⟩), hbid, hbo⟩
    · exact ⟨b, mem_setWhere.2 (.inr ⟨hb, by simp [hba]⟩), hbid, hbo⟩
  · obtain ⟨x₀, hx₀, rfl, hxid⟩ := hback hx
    obtain ⟨y₀, hy₀, rfl, hyid⟩ := hback hy
    rw [hxid, hyid] at hya hne ⊢
    by_cases hxa : x₀.assignmentId = assignmentId
    · exact absurd hxd (he.confirm_not_draft h now hx₀ hxa)
    · rw [he.confirm_other hs now hx₀ hxa] at hxd
      exact h.draft_last x₀ hx₀ hxd y₀ hy₀ hya hne
  · obtain ⟨x₀, hx₀, rfl, hxid⟩ := hback hx
    obtain ⟨y₀, hy₀, rfl, hyid⟩ := hback hy
    rw [hxid, hyid] at hya ⊢
    by_cases hxa : x₀.assignmentId = assignmentId
    · have hid := (he.confirmed_iff h now hx₀ hxa).1 hxc
      obtain rfl : x₀ = draft := eq_of_key_eq (rubricIds_nodup hs) hx₀ he.mem (hid.trans he.id.symm)
      refine he.version_lt h hy₀ (hya.trans hxa) fun hyr => ?_
      rw [(he.confirmed_iff h now hy₀ (hya.trans hxa)).2 hyr] at hys
      cases hys
    · rw [he.confirm_other hs now hx₀ hxa] at hxc
      rw [he.confirm_other hs now hy₀ (hya ▸ hxa)] at hys
      exact h.confirmed_after x₀ hx₀ hxc y₀ hy₀ hya hys
  · rw [heq] at hb ⊢
    rcases mem_setWhere.1 hb with ⟨b, hb, hba, rfl⟩ | ⟨hb, hba⟩
    · have hconf := (he.confirmed_iff h now he.mem he.assignment).2 he.id
      have hba : b.id = assignmentId := by simpa using hba
      refine ⟨fun _ => ⟨_, List.mem_map_of_mem he.mem, ?_, hconf⟩, fun _ => rfl⟩
      rw [afterConfirm_identity, he.assignment, hba]
    · have hba : b.id ≠ assignmentId := by simpa using hba
      rw [h.ready b hb hopen]
      constructor
      · rintro ⟨x, hx, hxa, hxc⟩
        refine ⟨_, List.mem_map_of_mem hx, ?_, ?_⟩
        · rw [afterConfirm_identity, hxa]
        · rw [he.confirm_other hs now hx (hxa ▸ hba), hxc]
      · rintro ⟨x, hx, hxa, hxc⟩
        obtain ⟨x₀, hx₀, rfl⟩ := List.mem_map.1 hx
        rw [afterConfirm_identity] at hxa
        rw [he.confirm_other hs now hx₀ (hxa ▸ hba)] at hxc
        exact ⟨x₀, hx₀, hxa, hxc⟩

end Confirm

/-! ## Runs -/

theorem OrderedVersions.retitled (h : OrderedVersions s) (assignmentId : Uuid)
    (title instructions : String) :
    OrderedVersions { s with
      assignments := setWhere (·.id == assignmentId) (fun a => { a with title, instructions })
        s.assignments } :=
  h.setAssignments (fun _ => rfl) (fun _ => rfl) fun a ha _ hopen => h.ready a ha hopen

/-- A status that the versions of the assignment call for. -/
theorem OrderedVersions.switched (h : OrderedVersions s) {ownerId assignmentId : Uuid}
    {status : AssignmentStatus} (hstatus : status = .archived ∨
      ((∃ a ∈ s.assignments, a.id = assignmentId ∧ a.ownerId = ownerId) ∧
        status = if s.rubrics.any (isConfirmedOf ownerId assignmentId) then .ready else .draft)) :
    OrderedVersions { s with
      assignments := setWhere (·.id == assignmentId) (fun a => { a with status })
        s.assignments } := by
  refine h.setAssignments (fun _ => rfl) (fun _ => rfl) fun b hb hbid hopen => ?_
  rcases hstatus with rfl | ⟨⟨a, ha, haid, hao⟩, rfl⟩
  · exact absurd rfl hopen
  · have hbid : b.id = assignmentId := by simpa using hbid
    have hany : s.rubrics.any (isConfirmedOf ownerId assignmentId) = true ↔
        ∃ r ∈ s.rubrics, r.assignmentId = b.id ∧ r.status = .confirmed := by
      simp only [List.any_eq_true, isConfirmedOf, Bool.and_eq_true, beq_iff_eq]
      constructor
      · rintro ⟨r, hr, ⟨hra, -⟩, hrc⟩
        exact ⟨r, hr, hra.trans hbid.symm, hrc⟩
      · rintro ⟨r, hr, hra, hrc⟩
        have hra := hra.trans hbid
        exact ⟨r, hr, ⟨hra, (h.owner_eq hr ha (hra.trans haid.symm)).trans hao⟩, hrc⟩
    rw [← hany]
    split
    next hc => simp [hc]
    next hc => simp [hc]

theorem step_ordered (hs : Sound env s) (h : OrderedVersions s) (a : Action env) :
    OrderedVersions (step env s a) := by
  refine step_induction h fun s' hexec => ?_
  by_cases harea : a.area = .rubrics
  · cases a with
    | createAssignment ownerId title instructions draft assignmentId rubricId now =>
      obtain ⟨hassignments, hnodup, r, hr⟩ := createAssignment_eq hexec
      exact h.create hassignments hnodup rfl hr
    | updateAssignment =>
      obtain ⟨_, hexec⟩ := map_snd_eq_ok.1 hexec
      rcases updateAssignment_cases hexec with rfl | rfl
      · exact h
      · exact h.retitled _ _ _
    | updateAssignmentStatus =>
      obtain ⟨_, hexec⟩ := map_snd_eq_ok.1 hexec
      rcases updateAssignmentStatus_cases hexec with rfl | ⟨status, rfl, hstatus⟩
      · exact h
      · exact h.switched hstatus
    | createRubricDraft ownerId assignmentId draft rubricId now =>
      obtain ⟨_, hexec⟩ := map_snd_eq_ok.1 hexec
      rcases createRubricDraft_cases hexec with rfl | ⟨⟨a, ha, haid, hao⟩, hassignments, hnone, row, hrow⟩
      · exact h
      · have hown {x : RubricVersion} (hx : x ∈ s.rubrics) (hxa : x.assignmentId = assignmentId) :
            x.ownerId = ownerId := (h.owner_eq hx ha (hxa.trans haid.symm)).trans hao
        refine h.newDraft hassignments hrow ⟨a, ha, haid, hao⟩
          (fun x hx hxa => hnone x hx hxa (hown hx hxa)) fun x hx hxa => Nat.lt_succ_of_le ?_
        exact le_maxOrZero (p := fun r => r.assignmentId == assignmentId && r.ownerId == ownerId)
          (f := (·.version)) hx (by simp [hxa, hown hx hxa])
    | saveGeneratedRubric =>
      obtain ⟨_, hexec⟩ := map_snd_eq_ok.1 hexec
      rcases saveGeneratedRubric_cases hs hexec with ⟨-, rfl⟩ | ⟨-, draft, he, rfl⟩
      · exact h
      · exact h.replaceDraft hs he.mem rfl rfl
    | updateStructuredRubric =>
      obtain ⟨_, hexec⟩ := map_snd_eq_ok.1 hexec
      rcases updateStructuredRubric_cases hs hexec with ⟨-, rfl⟩ | ⟨-, draft, he, -, -, rfl⟩
      · exact h
      · exact h.replaceDraft hs he.mem rfl rfl
    | confirmRubric =>
      obtain ⟨_, hexec⟩ := map_snd_eq_ok.1 hexec
      rcases confirmRubric_cases hs hexec with ⟨-, rfl⟩ | ⟨-, draft, hc⟩
      · exact h
      · exact h.confirm hs hc
    | _ => cases harea
  · have hframe := exec_frame hs hexec
    cases ha : a.area with
    | rubrics => exact absurd ha harea
    | providers | submissions =>
      rw [ha] at hframe
      rw [hframe]
      exact h.of_same rfl rfl
    | grading =>
      rw [ha] at hframe
      exact h.of_same hframe.1 hframe.2.1

theorem after_ordered (as : List (Action env)) : OrderedVersions (after env as) :=
  (Runs.run_invariant (P := fun s => Sound env s ∧ OrderedVersions s) as
    ⟨sound_empty, orderedVersions_empty⟩ fun _ a h =>
      ⟨(step_moves (R := fun _ _ => True) h.1 (failureIs_true a)).2, step_ordered h.1 h.2 a⟩).2

/-- What has left draft keeps its content and never is a draft again. -/
def HistoryKept (s s' : Store) : Prop :=
  ∀ r ∈ s.rubrics, r.status ≠ .draft → ∃ r' ∈ s'.rubrics,
    r'.toRubricIdentity = r.toRubricIdentity ∧ r'.toRubricContent = r.toRubricContent ∧
      r'.status ≠ .draft

theorem HistoryKept.trans {s t u : Store} (h : HistoryKept s t) (h' : HistoryKept t u) :
    HistoryKept s u := by
  intro r hr hleft
  obtain ⟨r', hr', hid, hcontent, hleft'⟩ := h r hr hleft
  obtain ⟨r'', hr'', hid', hcontent', hleft''⟩ := h' r' hr' hleft'
  exact ⟨r'', hr'', hid'.trans hid, hcontent'.trans hcontent, hleft''⟩

theorem step_history (hs : Sound env s) (a : Action env) : HistoryKept s (step env s a) :=
  step_keeps (P := HistoryKept s) hs (failureIs_true a) (fun _ => False.elim)
    (fun _ _ _ (hm : Move env (fun _ _ => True) (fun _ => False) _ _) h =>
      h.trans fun r hr hleft => by
        obtain ⟨r', hr', hid, hcontent, -⟩ := hm.rubric_kept hr
        exact ⟨r', hr', hid, hcontent hleft⟩)
    fun r hr hleft => ⟨r, hr, rfl, rfl, hleft⟩

theorem after_history (as bs : List (Action env)) :
    HistoryKept (after env as) (after env (as ++ bs)) := by
  unfold after
  rw [Runs.run_append]
  exact Runs.run_mono (P := Sound env) bs (after_wellFormed as).sound
    (fun _ r hr hleft => ⟨r, hr, rfl, rfl, hleft⟩) (fun h h' => h.trans h')
    (fun _ a h => (step_moves (R := fun _ _ => True) h (failureIs_true a)).2)
    fun _ a h => step_history h a

/-! ## The theorem -/

/-- The versions of one assignment. -/
structure VersionsOf (s : Store) (a : Assignment) : Prop where
  one_draft : ∀ r ∈ s.rubrics, ∀ x ∈ s.rubrics, r.assignmentId = a.id → x.assignmentId = a.id →
    r.status = .draft → x.status = .draft → x = r
  draft_last : ∀ r ∈ s.rubrics, ∀ x ∈ s.rubrics, r.assignmentId = a.id → x.assignmentId = a.id →
    r.status = .draft → x ≠ r → x.version < r.version
  one_confirmed : ∀ r ∈ s.rubrics, ∀ x ∈ s.rubrics, r.assignmentId = a.id →
    x.assignmentId = a.id → r.status = .confirmed → x.status = .confirmed → x = r
  confirmed_after : ∀ r ∈ s.rubrics, ∀ x ∈ s.rubrics, r.assignmentId = a.id →
    x.assignmentId = a.id → r.status = .confirmed → x.status = .superseded → x.version < r.version
  ready : a.status ≠ .archived →
    (a.status = .ready ↔ ∃ r ∈ s.rubrics, r.assignmentId = a.id ∧ r.status = .confirmed)

theorem OrderedVersions.versionsOf (h : OrderedVersions s) (hs : Sound env s) {a : Assignment}
    (ha : a ∈ s.assignments) : VersionsOf s a where
  one_draft := fun r hr x hx hra hxa hrd hxd =>
    eq_of_conflict hs.inputs.rubrics hx hr (by simp [rubricConflict, hra, hxa, hrd, hxd])
      (by simp [rubricConflict, hra, hxa, hrd, hxd])
  draft_last := fun r hr x hx hra hxa hrd hne =>
    h.draft_last r hr hrd x hx (hxa.trans hra.symm) fun hid =>
      hne (eq_of_key_eq (rubricIds_nodup hs) hx hr hid)
  one_confirmed := fun r hr x hx hra hxa hrc hxc =>
    eq_of_conflict hs.inputs.rubrics hx hr (by simp [rubricConflict, hra, hxa, hrc, hxc])
      (by simp [rubricConflict, hra, hxa, hrc, hxc])
  confirmed_after := fun r hr x hx hra hxa hrc hxs =>
    h.confirmed_after r hr hrc x hx (hxa.trans hra.symm) hxs
  ready := h.ready a ha

/-- **The versions of every assignment are in order**, and their history is frozen. -/
theorem run_versions (as : List (Action env)) :
    (∀ a ∈ (after env as).assignments, VersionsOf (after env as) a) ∧
    ∀ bs, ∀ r ∈ (after env as).rubrics, r.status ≠ .draft →
      ∃ r' ∈ (after env (as ++ bs)).rubrics, r'.toRubricIdentity = r.toRubricIdentity ∧
        r'.toRubricContent = r.toRubricContent ∧ r'.status ≠ .draft ∧
        ∀ x ∈ (after env (as ++ bs)).rubrics, x.id = r.id → x = r' := by
  refine ⟨fun a ha => (after_ordered as).versionsOf (after_wellFormed as).sound ha,
    fun bs r hr hleft => ?_⟩
  obtain ⟨r', hr', hid, hcontent, hleft'⟩ := after_history as bs r hr hleft
  refine ⟨r', hr', hid, hcontent, hleft', fun x hx hxid => ?_⟩
  have hidr : r'.id = r.id := congrArg RubricIdentity.id hid
  exact eq_of_key_eq (rubricIds_nodup (after_wellFormed (as ++ bs)).sound) hx hr' (hxid.trans hidr.symm)

end Store

end PaperGrading
