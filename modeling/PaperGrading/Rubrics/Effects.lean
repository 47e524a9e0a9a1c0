import PaperGrading.Store.Areas

/-!
# What the rubric transactions write

Every transaction of `rubrics/repository.py` locks the row of its assignment before it
looks at a version, so that the transactions of one assignment exclude each other.  Each
either finds nothing to do or makes the writes stated here.

    a save or an edit replaces the content of one draft      (saveGeneratedRubric_cases, …)
    a confirmation supersedes, confirms and makes ready           (confirmRubric_cases)
-/

namespace PaperGrading

namespace Store

open Table

variable {env : Runtime} {s s' : Store}

/-! ## Statements -/

theorem updateAssignments_eq_ok {p : Assignment → Bool} {set : Assignment → Assignment} :
    s.updateAssignments p set = .ok s' ↔
      s' = { s with assignments := setWhere p set s.assignments } ∧
        ∀ a ∈ s.assignments, p a = true →
          s.requireConfirmedRubric (set a) = .ok () ∧ assignmentCheck (set a) = .ok () := by
  unfold updateAssignments
  simp only [bind_eq_ok, updateWhere_eq_ok, pure, Except.pure, Except.ok.injEq]
  constructor
  · rintro ⟨rows, ⟨rfl, hchk⟩, rfl⟩
    refine ⟨rfl, fun a ha hp => ?_⟩
    obtain ⟨_, hready, hrow⟩ := hchk a ha hp
    exact ⟨hready, hrow⟩
  · rintro ⟨rfl, hchk⟩
    exact ⟨_, ⟨rfl, fun a ha hp => ⟨(), hchk a ha hp⟩⟩, rfl⟩

theorem updateRubrics_eq_ok {p : RubricVersion → Bool} {set : RubricVersion → RubricVersion} :
    s.updateRubrics env p set = .ok s' ↔
      s' = { s with rubrics := setWhere p set s.rubrics } ∧
        (∀ r ∈ s.rubrics, p r = true → protectRubricHistory s.assignments r (set r) = .ok () ∧
          (set r).rowCheck env = .ok ()) ∧ rubricsUnique (setWhere p set s.rubrics) = true := by
  unfold updateRubrics
  simp only [bind_eq_ok, updateWhere_eq_ok, require_eq_ok, pure, Except.pure, Except.ok.injEq]
  constructor
  · rintro ⟨rows, ⟨rfl, hchk⟩, _, huniq, rfl⟩
    refine ⟨rfl, fun r hr hp => ?_, huniq⟩
    obtain ⟨_, hprotect, hrow⟩ := hchk r hr hp
    exact ⟨hprotect, hrow⟩
  · rintro ⟨rfl, hchk, huniq⟩
    exact ⟨_, ⟨rfl, fun r hr hp => ⟨(), hchk r hr hp⟩⟩, (), huniq, rfl⟩

theorem insertRubric_eq_ok {r : RubricVersion} :
    s.insertRubric env r = .ok s' ↔
      s' = { s with rubrics := s.rubrics ++ [r] } ∧ r.rowCheck env = .ok () ∧
        (∃ a ∈ s.assignments, a.id = r.assignmentId ∧ a.ownerId = r.ownerId) ∧
        rubricsUnique (s.rubrics ++ [r]) = true := by
  unfold insertRubric
  simp only [bind_eq_ok, insertRow_eq_ok, require_eq_ok, List.any_eq_true, Bool.and_eq_true,
    beq_iff_eq, pure, Except.pure, Except.ok.injEq]
  constructor
  · rintro ⟨rows, ⟨rfl, _, hrow, howner⟩, _, huniq, rfl⟩
    exact ⟨rfl, hrow, howner, huniq⟩
  · rintro ⟨rfl, hrow, howner, huniq⟩
    exact ⟨_, ⟨rfl, (), hrow, howner⟩, (), huniq, rfl⟩

theorem insertAssignment_eq_ok {a : Assignment} :
    s.insertAssignment a = .ok s' ↔
      s' = { s with assignments := s.assignments ++ [a] } ∧
        s.requireConfirmedRubric a = .ok () ∧ assignmentCheck a = .ok () ∧
        ((s.assignments ++ [a]).map (·.id)).Nodup := by
  unfold insertAssignment
  simp only [bind_eq_ok, insertRow_eq_ok, require_eq_ok, decide_eq_true_eq, pure, Except.pure,
    Except.ok.injEq]
  constructor
  · rintro ⟨rows, ⟨rfl, _, hready, hrow⟩, _, huniq, rfl⟩
    exact ⟨rfl, hready, hrow, huniq⟩
  · rintro ⟨rfl, hready, hrow, huniq⟩
    exact ⟨_, ⟨rfl, (), hready, hrow⟩, (), huniq, rfl⟩

/-! ## Lookups -/

theorem findAssignment_eq_some {ownerId assignmentId : Uuid} {a : Assignment}
    (h : s.findAssignment ownerId assignmentId = some a) :
    a ∈ s.assignments ∧ a.id = assignmentId ∧ a.ownerId = ownerId := by
  have hq := List.find?_some h
  simp only [Bool.and_eq_true, beq_iff_eq] at hq
  exact ⟨List.mem_of_find?_eq_some h, hq⟩

/-- The draft that a save, an edit or a confirmation locks. -/
structure Editable (s : Store) (ownerId assignmentId rubricId : Uuid) (draft : RubricVersion) :
    Prop where
  mem : draft ∈ s.rubrics
  id : draft.id = rubricId
  assignment : draft.assignmentId = assignmentId
  owner : draft.ownerId = ownerId
  draft : draft.status = .draft
  open_ : ∃ a ∈ s.assignments, a.id = assignmentId ∧ a.ownerId = ownerId ∧ a.status ≠ .archived

theorem editableDraft_eq_some {ownerId assignmentId rubricId : Uuid} {draft : RubricVersion}
    (h : s.editableDraft ownerId assignmentId rubricId = some draft) :
    Editable s ownerId assignmentId rubricId draft := by
  unfold editableDraft at h
  simp only [Option.bind_eq_bind, Option.bind_eq_some_iff] at h
  obtain ⟨a, ha, _, hguard, hfind⟩ := h
  have hopen : a.status ≠ .archived := fun hc => by simp [hc] at hguard
  obtain ⟨ham, haid, hao⟩ := findAssignment_eq_some ha
  have hq := List.find?_some hfind
  simp only [Bool.and_eq_true, beq_iff_eq] at hq
  exact ⟨List.mem_of_find?_eq_some hfind, hq.1.1.1, hq.1.1.2, hq.1.2, hq.2, a, ham, haid, hao, hopen⟩

/-! ## Transactions -/

/-- A write hits the draft only. -/
theorem setWhere_draft (hs : Sound env s) {draft : RubricVersion} (hm : draft ∈ s.rubrics)
    (set : RubricVersion → RubricVersion) :
    setWhere (·.id == draft.id) set s.rubrics =
      replaceRow (·.id) draft (set draft) s.rubrics :=
  setWhere_eq_replaceRow (rubricIds_nodup hs) hm (by simp) (by simp) set

def generatedRubric (draft : RubricVersion) (providerId : Uuid) (model : String)
    (structured : StructuredRubric) : RubricVersion :=
  { draft with providerConfigId := some providerId, model := some model
               structuredRubric := some structured }

def editedRubric (draft : RubricVersion) (structured : StructuredRubric) : RubricVersion :=
  { draft with structuredRubric := some structured }

theorem saveGeneratedRubric_cases (hs : Sound env s) {ownerId assignmentId rubricId providerId : Uuid}
    {version : Nat} {model : String} {structured : ValidRubric env} {r : Bool}
    (h : s.saveGeneratedRubric env ownerId assignmentId rubricId providerId version model structured =
      .ok (r, s')) :
    (r = false ∧ s' = s) ∨ (r = true ∧ ∃ draft, Editable s ownerId assignmentId rubricId draft ∧
      s' = { s with
        rubrics := replaceRow (·.id) draft
          (generatedRubric draft providerId model structured.rubric) s.rubrics }) := by
  unfold saveGeneratedRubric at h
  split at h
  next draft _ hdraft =>
    have he := editableDraft_eq_some hdraft
    split at h
    · simp only [bind_eq_ok, updateRubrics_eq_ok] at h
      obtain ⟨s₁, ⟨rfl, -⟩, hret⟩ := h
      cases hret
      refine .inr ⟨rfl, _, he, ?_⟩
      rw [← he.id, setWhere_draft hs he.mem]
      rfl
    · cases h
      exact .inl ⟨rfl, rfl⟩
  · cases h
    exact .inl ⟨rfl, rfl⟩

theorem updateStructuredRubric_cases (hs : Sound env s) {ownerId assignmentId rubricId : Uuid}
    {structured : ValidRubric env} {r : Bool}
    (h : s.updateStructuredRubric env ownerId assignmentId rubricId structured = .ok (r, s')) :
    (r = false ∧ s' = s) ∨ (r = true ∧ ∃ draft, Editable s ownerId assignmentId rubricId draft ∧
      draft.providerConfigId.isSome ∧ draft.model.isSome ∧
      s' = { s with
        rubrics := replaceRow (·.id) draft (editedRubric draft structured.rubric) s.rubrics }) := by
  unfold updateStructuredRubric at h
  split at h
  · cases h
    exact .inl ⟨rfl, rfl⟩
  next draft hdraft =>
    have he := editableDraft_eq_some hdraft
    split at h
    next hgenerated =>
      simp only [bind_eq_ok, updateRubrics_eq_ok] at h
      obtain ⟨s₁, ⟨rfl, -⟩, hret⟩ := h
      cases hret
      refine .inr ⟨rfl, _, he, hgenerated.1, hgenerated.2, ?_⟩
      rw [← he.id, setWhere_draft hs he.mem]
      rfl
    · cases h
      exact .inl ⟨rfl, rfl⟩

/-- The versions of an assignment that a confirmation of one of them supersedes. -/
def isConfirmedOf (ownerId assignmentId : Uuid) (r : RubricVersion) : Bool :=
  r.assignmentId == assignmentId && r.ownerId == ownerId && r.status == .confirmed

/-- The row of a version after the confirmation of `rubricId`. -/
def afterConfirm (ownerId assignmentId rubricId : Uuid) (now : Time) (r : RubricVersion) :
    RubricVersion :=
  if r.id = rubricId then { r with status := .confirmed, confirmedAt := some now }
  else if isConfirmedOf ownerId assignmentId r then { r with status := .superseded }
  else r

/-- The writes of `confirm_rubric`. -/
structure ConfirmedRubric (s s' : Store) (ownerId assignmentId rubricId providerId : Uuid)
    (model : String) (now : Time) (draft : RubricVersion) : Prop where
  editable : Editable s ownerId assignmentId rubricId draft
  generated : draft.providerConfigId = some providerId ∧ draft.model = some model
  structured : draft.structuredRubric.isSome
  eq : s' = { s with
    assignments := setWhere (·.id == assignmentId) (fun a => { a with status := .ready }) s.assignments
    rubrics := s.rubrics.map (afterConfirm ownerId assignmentId rubricId now) }

theorem confirm_supersede (hs : Sound env s) {ownerId assignmentId rubricId : Uuid}
    {draft : RubricVersion} (he : Editable s ownerId assignmentId rubricId draft) (now : Time) :
    setWhere (·.id == rubricId) (fun r => { r with status := .confirmed, confirmedAt := some now })
      (setWhere (isConfirmedOf ownerId assignmentId) (fun r => { r with status := .superseded })
        s.rubrics) = s.rubrics.map (afterConfirm ownerId assignmentId rubricId now) := by
  unfold setWhere
  rw [List.map_map]
  apply List.map_congr_left
  intro r hr
  unfold afterConfirm
  by_cases hid : r.id = rubricId
  · -- the draft is not one of the confirmed versions
    obtain rfl : r = draft := eq_of_key_eq (rubricIds_nodup hs) hr he.mem (hid.trans he.id.symm)
    simp [isConfirmedOf, he.draft, hid]
  · by_cases hc : isConfirmedOf ownerId assignmentId r <;> simp [hc, hid]

theorem setWhere_twice {α : Type} {p : α → Bool} {f g : α → α} {rows : List α}
    (hp : ∀ r ∈ rows, p (f r) = p r) (hg : ∀ r ∈ rows, g (f r) = g r) :
    setWhere p g (setWhere p f rows) = setWhere p g rows := by
  unfold setWhere
  rw [List.map_map]
  apply List.map_congr_left
  intro r hr
  cases h : p r with
  | true => simp [h, hp r hr, hg r hr]
  | false => simp [h]

theorem confirmRubric_cases (hs : Sound env s) {ownerId assignmentId rubricId providerId : Uuid}
    {model : String} {now : Time} {r : Bool}
    (h : s.confirmRubric env ownerId assignmentId rubricId providerId model now = .ok (r, s')) :
    (r = false ∧ s' = s) ∨ (r = true ∧ ∃ draft,
      ConfirmedRubric s s' ownerId assignmentId rubricId providerId model now draft) := by
  unfold confirmRubric at h
  split at h
  next _ a draft _ _ hdraft =>
    have he := editableDraft_eq_some hdraft
    split at h
    next hgenerated =>
      obtain ⟨hprovider, hmodel, hstructured⟩ := hgenerated
      refine .inr ?_
      split at h
      · simp only [bind_eq_ok, updateAssignments_eq_ok, updateRubrics_eq_ok] at h
        obtain ⟨_, ⟨rfl, -⟩, _, ⟨rfl, -⟩, _, ⟨rfl, -⟩, _, ⟨rfl, -⟩, hret⟩ := h
        cases hret
        refine ⟨rfl, draft, he, ⟨hprovider, hmodel⟩, hstructured, ?_⟩
        have hready : setWhere (·.id == assignmentId) (fun a => { a with status := .ready })
            (setWhere (·.id == assignmentId) (fun a => { a with status := .draft }) s.assignments) =
              setWhere (·.id == assignmentId) (fun a : Assignment => { a with status := .ready })
                s.assignments := setWhere_twice (by simp) (by simp)
        simp only [hready]
        rw [← confirm_supersede hs he now]
        rfl
      · simp only [bind_eq_ok, updateAssignments_eq_ok, updateRubrics_eq_ok] at h
        obtain ⟨_, hsame, _, ⟨rfl, -⟩, _, ⟨rfl, -⟩, _, ⟨rfl, -⟩, hret⟩ := h
        cases hsame
        cases hret
        refine ⟨rfl, draft, he, ⟨hprovider, hmodel⟩, hstructured, ?_⟩
        rw [← confirm_supersede hs he now]
        rfl
    · cases h
      exact .inl ⟨rfl, rfl⟩
  · cases h
    exact .inl ⟨rfl, rfl⟩

/-- A first version belongs to its new assignment; a later one to an assignment without a draft. -/
structure NewDraft (s s' : Store) (ownerId assignmentId : Uuid) (version : Nat) (r : RubricVersion) :
    Prop where
  assignment : r.assignmentId = assignmentId
  owner : r.ownerId = ownerId
  version : r.version = version
  draft : r.status = .draft
  structured : r.structuredRubric = none
  unique : rubricsUnique s'.rubrics = true
  rubrics : s'.rubrics = s.rubrics ++ [r]

theorem draftRubric_eq_ok {ownerId assignmentId id : Uuid} {version : Nat} {draft : RubricDraftCreate}
    {now : Time} {r : RubricVersion} (h : draftRubric ownerId assignmentId id version draft now = .ok r) :
    r.assignmentId = assignmentId ∧ r.ownerId = ownerId ∧ r.version = version ∧
      r.status = .draft ∧ r.structuredRubric = none := by
  unfold draftRubric at h
  simp only [bind_eq_ok] at h
  obtain ⟨_, -, _, -, hret⟩ := h
  cases hret
  exact ⟨rfl, rfl, rfl, rfl, rfl⟩

theorem createAssignment_eq {ownerId assignmentId rubricId : Uuid} {title instructions : String}
    {draft : RubricDraftCreate} {now : Time}
    (h : s.createAssignment env ownerId title instructions draft assignmentId rubricId now = .ok s') :
    s'.assignments = s.assignments ++ [⟨assignmentId, ownerId, title, instructions, .draft⟩] ∧
      (s'.assignments.map (·.id)).Nodup ∧ ∃ r, NewDraft s s' ownerId assignmentId 1 r := by
  unfold createAssignment at h
  simp only [bind_eq_ok, insertAssignment_eq_ok, insertRubric_eq_ok] at h
  obtain ⟨_, ⟨rfl, -, -, hnodup⟩, r, hr, rfl, -, -, huniq⟩ := h
  obtain ⟨hassignment, howner, hversion, hdraft, hnone⟩ := draftRubric_eq_ok hr
  exact ⟨rfl, hnodup, r, hassignment, howner, hversion, hdraft, hnone, huniq, rfl⟩

theorem updateAssignment_cases {ownerId assignmentId : Uuid} {title instructions : String} {r : Bool}
    (h : s.updateAssignment ownerId assignmentId title instructions = .ok (r, s')) :
    s' = s ∨ s' = { s with
      assignments := setWhere (·.id == assignmentId) (fun a => { a with title, instructions })
        s.assignments } := by
  unfold updateAssignment at h
  split at h
  · cases h
    exact .inl rfl
  · split at h
    · simp only [bind_eq_ok, updateAssignments_eq_ok] at h
      obtain ⟨_, ⟨rfl, -⟩, hret⟩ := h
      cases hret
      exact .inr rfl
    · cases h
      exact .inl rfl

/-- The assignment is archived, or restored to the status its versions call for. -/
theorem updateAssignmentStatus_cases {ownerId assignmentId : Uuid} {action : AssignmentStatusAction}
    {r : Bool} (h : s.updateAssignmentStatus ownerId assignmentId action = .ok (r, s')) :
    s' = s ∨ ∃ status, s' = { s with
        assignments := setWhere (·.id == assignmentId) (fun a => { a with status }) s.assignments } ∧
      (status = .archived ∨ ((∃ a ∈ s.assignments, a.id = assignmentId ∧ a.ownerId = ownerId) ∧
        status = if s.rubrics.any (isConfirmedOf ownerId assignmentId) then .ready else .draft)) := by
  unfold updateAssignmentStatus at h
  split at h
  · cases h
    exact .inl rfl
  next a hfind =>
    have ha := findAssignment_eq_some hfind
    split at h <;> split at h
    · cases h
      exact .inl rfl
    · simp only [bind_eq_ok, updateAssignments_eq_ok] at h
      obtain ⟨_, ⟨rfl, -⟩, hret⟩ := h
      cases hret
      exact .inr ⟨_, rfl, .inl rfl⟩
    · simp only [bind_eq_ok, updateAssignments_eq_ok] at h
      obtain ⟨_, ⟨rfl, -⟩, hret⟩ := h
      cases hret
      exact .inr ⟨_, rfl, .inr ⟨⟨a, ha⟩, rfl⟩⟩
    · cases h
      exact .inl rfl

theorem createRubricDraft_cases {ownerId assignmentId rubricId : Uuid} {draft : RubricDraftCreate}
    {now : Time} {r : Bool}
    (h : s.createRubricDraft env ownerId assignmentId draft rubricId now = .ok (r, s')) :
    s' = s ∨ (∃ a ∈ s.assignments, a.id = assignmentId ∧ a.ownerId = ownerId) ∧
      s'.assignments = s.assignments ∧
      (∀ x ∈ s.rubrics, x.assignmentId = assignmentId → x.ownerId = ownerId → x.status ≠ .draft) ∧
      ∃ row, NewDraft s s' ownerId assignmentId (Table.maxOrZero
        (fun r => r.assignmentId == assignmentId && r.ownerId == ownerId) (·.version) s.rubrics + 1)
        row := by
  unfold createRubricDraft at h
  split at h
  · cases h
    exact .inl rfl
  next a hfind =>
    split at h
    · cases h
      exact .inl rfl
    next hopen =>
      simp only [bind_eq_ok, insertRubric_eq_ok] at h
      obtain ⟨row, hrow, _, ⟨rfl, -, -, huniq⟩, hret⟩ := h
      cases hret
      obtain ⟨hassignment, howner, hversion, hdraft, hnone⟩ := draftRubric_eq_ok hrow
      refine .inr ⟨⟨a, findAssignment_eq_some hfind⟩, rfl, fun x hx hxa hxo hxd => hopen (.inr ?_), row,
        hassignment, howner, hversion, hdraft, hnone, huniq, rfl⟩
      exact List.any_eq_true.2 ⟨x, hx, by simp [hxa, hxo, hxd]⟩

end Store

end PaperGrading
