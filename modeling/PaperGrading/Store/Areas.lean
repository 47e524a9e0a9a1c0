import PaperGrading.Store.Integrity

/-!
# Which tables an action writes

The assignment service writes assignments and rubrics, the provider service writes
providers, the submission service writes submissions; grading writes none of them.

    s.exec env a = .ok s' → a.area.Frame s s'                                        (exec_frame)
-/

namespace PaperGrading

/-- The service an action belongs to. -/
inductive Area where
  | rubrics | providers | submissions | grading
  deriving DecidableEq

def Action.area {env : Runtime} : Action env → Area
  | .createAssignment .. | .updateAssignment .. | .updateAssignmentStatus .. |
    .createRubricDraft .. | .saveGeneratedRubric .. | .updateStructuredRubric .. |
    .confirmRubric .. => .rubrics
  | .createProvider .. | .updateProvider .. | .markTested .. | .enableTested .. |
    .disableEnabled .. => .providers
  | .reserveSubmission .. | .transitionSubmission .. => .submissions
  | _ => .grading

namespace Store

open Table

/-- Only the tables of the service have changed. -/
def Frame (s s' : Store) : Area → Prop
  | .rubrics => s' = { s with assignments := s'.assignments, rubrics := s'.rubrics }
  | .providers => s' = { s with providers := s'.providers }
  | .submissions => s' = { s with submissions := s'.submissions }
  | .grading => SameInputs s s'

variable {env : Runtime} {s s' : Store}

theorem Frame.refl (s : Store) (area : Area) : Frame s s area := by
  cases area with
  | rubrics | providers | submissions => rfl
  | grading => exact ⟨rfl, rfl, rfl, rfl⟩

theorem Frame.trans {s t u : Store} {area : Area} (h : Frame s t area) (h' : Frame t u area) :
    Frame s u area := by
  cases area with
  | rubrics | providers | submissions =>
    simp only [Frame] at h h' ⊢
    rw [h', h]
  | grading =>
    obtain ⟨ha, hr, hp, hx⟩ := h
    obtain ⟨ha', hr', hp', hx'⟩ := h'
    exact ⟨ha'.trans ha, hr'.trans hr, hp'.trans hp, hx'.trans hx⟩

/-! ## Assignments and rubrics -/

theorem updateAssignments_frame {p : Assignment → Bool} {set : Assignment → Assignment}
    (h : s.updateAssignments p set = .ok s') : Frame s s' .rubrics := by
  unfold updateAssignments at h
  obtain ⟨rows, -, hret⟩ := bind_eq_ok.1 h
  cases hret
  rfl

theorem updateRubrics_frame {p : RubricVersion → Bool} {set : RubricVersion → RubricVersion}
    (h : s.updateRubrics env p set = .ok s') : Frame s s' .rubrics := by
  unfold updateRubrics at h
  simp only [bind_eq_ok] at h
  obtain ⟨rows, -, _, -, hret⟩ := h
  cases hret
  rfl

theorem insertRubric_frame {r : RubricVersion} (h : s.insertRubric env r = .ok s') :
    Frame s s' .rubrics := by
  unfold insertRubric at h
  simp only [bind_eq_ok] at h
  obtain ⟨rows, -, _, -, hret⟩ := h
  cases hret
  rfl

theorem createAssignment_frame {ownerId assignmentId rubricId : Uuid} {title instructions : String}
    {draft : RubricDraftCreate} {now : Time}
    (h : s.createAssignment env ownerId title instructions draft assignmentId rubricId now = .ok s') :
    Frame s s' .rubrics := by
  unfold createAssignment insertAssignment at h
  simp only [bind_eq_ok] at h
  obtain ⟨s₁, ⟨rows, -, _, -, hret⟩, rubric, -, h₂⟩ := h
  have hs₁ : Frame s s₁ .rubrics := by
    cases hret
    rfl
  exact hs₁.trans (insertRubric_frame h₂)

theorem updateAssignment_frame {ownerId assignmentId : Uuid} {title instructions : String}
    {r : Bool} (h : s.updateAssignment ownerId assignmentId title instructions = .ok (r, s')) :
    Frame s s' .rubrics := by
  unfold updateAssignment at h
  split at h
  · cases h
    exact .refl _ _
  · split at h
    · obtain ⟨s₁, h₁, hret⟩ := bind_eq_ok.1 h
      cases hret
      exact updateAssignments_frame h₁
    · cases h
      exact .refl _ _

theorem updateAssignmentStatus_frame {ownerId assignmentId : Uuid}
    {action : AssignmentStatusAction} {r : Bool}
    (h : s.updateAssignmentStatus ownerId assignmentId action = .ok (r, s')) :
    Frame s s' .rubrics := by
  unfold updateAssignmentStatus at h
  split at h
  · cases h
    exact .refl _ _
  · split at h <;> split at h
    · cases h
      exact .refl _ _
    · obtain ⟨s₁, h₁, hret⟩ := bind_eq_ok.1 h
      cases hret
      exact updateAssignments_frame h₁
    · obtain ⟨s₁, h₁, hret⟩ := bind_eq_ok.1 h
      cases hret
      exact updateAssignments_frame h₁
    · cases h
      exact .refl _ _

theorem createRubricDraft_frame {ownerId assignmentId rubricId : Uuid} {draft : RubricDraftCreate}
    {now : Time} {r : Bool}
    (h : s.createRubricDraft env ownerId assignmentId draft rubricId now = .ok (r, s')) :
    Frame s s' .rubrics := by
  unfold createRubricDraft at h
  split at h
  · cases h
    exact .refl _ _
  · split at h
    · cases h
      exact .refl _ _
    · simp only [bind_eq_ok] at h
      obtain ⟨rubric, -, s₁, h₁, hret⟩ := h
      cases hret
      exact insertRubric_frame h₁

theorem saveGeneratedRubric_frame {ownerId assignmentId rubricId providerId : Uuid}
    {version : Nat} {model : String} {structured : ValidRubric env} {r : Bool}
    (h : s.saveGeneratedRubric env ownerId assignmentId rubricId providerId version model structured =
      .ok (r, s')) : Frame s s' .rubrics := by
  unfold saveGeneratedRubric at h
  split at h
  · split at h
    · obtain ⟨s₁, h₁, hret⟩ := bind_eq_ok.1 h
      cases hret
      exact updateRubrics_frame h₁
    · cases h
      exact .refl _ _
  · cases h
    exact .refl _ _

theorem updateStructuredRubric_frame {ownerId assignmentId rubricId : Uuid}
    {structured : ValidRubric env} {r : Bool}
    (h : s.updateStructuredRubric env ownerId assignmentId rubricId structured = .ok (r, s')) :
    Frame s s' .rubrics := by
  unfold updateStructuredRubric at h
  split at h
  · cases h
    exact .refl _ _
  · split at h
    · obtain ⟨s₁, h₁, hret⟩ := bind_eq_ok.1 h
      cases hret
      exact updateRubrics_frame h₁
    · cases h
      exact .refl _ _

theorem confirmRubric_frame {ownerId assignmentId rubricId providerId : Uuid} {model : String}
    {now : Time} {r : Bool}
    (h : s.confirmRubric env ownerId assignmentId rubricId providerId model now = .ok (r, s')) :
    Frame s s' .rubrics := by
  have flushes {s₁ s₂ s₃ s₄ : Store} {p q : RubricVersion → Bool}
      {set set' : RubricVersion → RubricVersion} {u : Assignment → Bool}
      {set'' : Assignment → Assignment} (h₂ : s₁.updateRubrics env p set = .ok s₂)
      (h₃ : s₂.updateRubrics env q set' = .ok s₃) (h₄ : s₃.updateAssignments u set'' = .ok s₄) :
      Frame s₁ s₄ .rubrics :=
    ((updateRubrics_frame h₂).trans (updateRubrics_frame h₃)).trans (updateAssignments_frame h₄)
  unfold confirmRubric at h
  split at h
  · split at h
    · split at h
      · simp only [bind_eq_ok] at h
        obtain ⟨s₁, h₁, s₂, h₂, s₃, h₃, s₄, h₄, hret⟩ := h
        cases hret
        exact (updateAssignments_frame h₁).trans (flushes h₂ h₃ h₄)
      · simp only [bind_eq_ok] at h
        obtain ⟨s₁, h₁, s₂, h₂, s₃, h₃, s₄, h₄, hret⟩ := h
        cases h₁
        cases hret
        exact flushes h₂ h₃ h₄
    · cases h
      exact .refl _ _
  · cases h
    exact .refl _ _

/-! ## Providers and submissions -/

theorem updateMatching_frame {p : ProviderConfig → Bool} {set : ProviderConfig → ProviderConfig}
    {r : Bool} (h : s.updateMatching p set = .ok (r, s')) : Frame s s' .providers := by
  unfold updateMatching updateProviders at h
  split at h
  · simp only [bind_eq_ok] at h
    obtain ⟨s₁, ⟨rows, -, _, -, h₁⟩, hret⟩ := h
    cases h₁
    cases hret
    rfl
  · cases h
    exact .refl _ _

theorem createProvider_frame {id : Uuid} {values : ProviderConfigUpdateValues}
    (h : s.createProvider id values = .ok s') : Frame s s' .providers := by
  unfold createProvider at h
  simp only [bind_eq_ok] at h
  obtain ⟨rows, -, _, -, hret⟩ := h
  cases hret
  rfl

theorem reserveSubmission_frame {ownerId : Uuid} {q : SubmissionReservationRequest}
    {r : ReservationState} (h : s.reserveSubmission ownerId q = .ok (r, s')) :
    Frame s s' .submissions := by
  rcases reserveSubmission_cases h with rfl | ⟨row, -, -, -, rfl⟩
  · exact .refl _ _
  · rfl

theorem transitionSubmission_frame {teacher : Option Uuid} {submissionId : Uuid}
    {target : SubmissionTarget} {r : Option Uuid}
    (hn : s.submissions.Pairwise fun x y => submissionConflict x y = false)
    (h : s.transitionSubmission teacher submissionId target = .ok (r, s')) :
    Frame s s' .submissions := by
  rcases transitionSubmission_cases hn h with ⟨-, rfl⟩ | ⟨x, -, -, -, -, -, -, rfl⟩
  · exact .refl _ _
  · rfl

/-! ## Grading -/

theorem expireOne_frame {clock : Clock} {candidate : Uuid × Uuid}
    (h : expireOne clock s candidate = .ok s') : Frame s s' .grading := by
  unfold expireOne reconcileJob at h
  split at h
  · split at h
    · cases h
    · simp only [bind_eq_ok, updateAttempts_eq_ok, updateItems_eq_ok, updateJobs_eq_ok] at h
      obtain ⟨_, ⟨rfl, -⟩, _, ⟨rfl, -⟩, _, -, rfl, -⟩ := h
      exact ⟨rfl, rfl, rfl, rfl⟩
  · cases h
    exact .refl _ _

theorem expireStaleAttempts_frame {limit : Nat} {clock : Clock}
    (h : s.expireStaleAttempts limit clock = .ok s') : Frame s s' .grading := by
  unfold expireStaleAttempts at h
  generalize s.expiryCandidates limit clock.database = candidates at h
  induction candidates generalizing s with
  | nil =>
    cases h
    exact .refl _ _
  | cons c candidates ih =>
    rw [List.foldlM_cons, bind_eq_ok] at h
    obtain ⟨t, ht, h⟩ := h
    exact (expireOne_frame ht).trans (ih h)

/-- **An action writes the tables of its service only.** -/
theorem exec_frame {a : Action env} (hs : Sound env s) (h : s.exec env a = .ok s') :
    Frame s s' a.area := by
  have hk := hs.keys
  cases a with
  | createAssignment => exact createAssignment_frame h
  | updateAssignment =>
    obtain ⟨_, h⟩ := map_snd_eq_ok.1 h
    exact updateAssignment_frame h
  | updateAssignmentStatus =>
    obtain ⟨_, h⟩ := map_snd_eq_ok.1 h
    exact updateAssignmentStatus_frame h
  | createRubricDraft =>
    obtain ⟨_, h⟩ := map_snd_eq_ok.1 h
    exact createRubricDraft_frame h
  | saveGeneratedRubric =>
    obtain ⟨_, h⟩ := map_snd_eq_ok.1 h
    exact saveGeneratedRubric_frame h
  | updateStructuredRubric =>
    obtain ⟨_, h⟩ := map_snd_eq_ok.1 h
    exact updateStructuredRubric_frame h
  | confirmRubric =>
    obtain ⟨_, h⟩ := map_snd_eq_ok.1 h
    exact confirmRubric_frame h
  | createProvider => exact createProvider_frame h
  | updateProvider | markTested | enableTested | disableEnabled =>
    obtain ⟨_, h⟩ := map_snd_eq_ok.1 h
    exact updateMatching_frame h
  | reserveSubmission =>
    obtain ⟨_, h⟩ := map_snd_eq_ok.1 h
    exact reserveSubmission_frame h
  | transitionSubmission =>
    obtain ⟨_, h⟩ := map_snd_eq_ok.1 h
    exact transitionSubmission_frame hs.inputs.submissions h
  | createOrGetJob =>
    obtain ⟨_, h⟩ := map_snd_eq_ok.1 h
    rcases createOrGetJob_cases hk h with rfl | ⟨_, _, -, hc⟩
    · exact .refl _ _
    · rw [hc.eq]
      exact ⟨rfl, rfl, rfl, rfl⟩
  | claimAttempt =>
    obtain ⟨_, h⟩ := map_snd_eq_ok.1 h
    rcases claimAttempt_cases hk h with ⟨-, rfl⟩ | ⟨_, _, hc, -⟩
    · exact .refl _ _
    · rw [hc.eq]
      exact ⟨rfl, rfl, rfl, rfl⟩
  | finishSuccess =>
    obtain ⟨_, _, _, _, _, -, hc⟩ := finishSuccess_closed (R := fun _ _ => True) hk h
    rw [hc.eq]
    exact ⟨rfl, rfl, rfl, rfl⟩
  | finishFailure =>
    obtain ⟨_, _, _, _, -, hc⟩ :=
      finishFailure_closed (R := fun _ _ => True) hk (fun _ _ _ _ => trivial) h
    rw [hc.eq]
    exact ⟨rfl, rfl, rfl, rfl⟩
  | expireStaleAttempts => exact expireStaleAttempts_frame h
  | controlGradingJob =>
    obtain ⟨_, h⟩ := map_snd_eq_ok.1 h
    rcases controlGradingJob_cases hk h with
      ⟨-, rfl⟩ | ⟨_, -, -, -, ⟨_, hc, -⟩ | ⟨-, hc⟩ | ⟨_, -, -, hc⟩⟩
    · exact .refl _ _
    · rw [hc.eq]
      exact ⟨rfl, rfl, rfl, rfl⟩
    · rw [hc.eq]
      exact ⟨rfl, rfl, rfl, rfl⟩
    · rw [hc.eq]
      exact ⟨rfl, rfl, rfl, rfl⟩
  | saveTeacherReviewDraft =>
    obtain ⟨_, h⟩ := map_snd_eq_ok.1 h
    rcases saveTeacherReviewDraft_cases hk h with ⟨-, rfl⟩ | ⟨_, _, _, -, -, -, hc⟩
    · exact .refl _ _
    · rcases hc.write with ⟨_, _, _, _, _, _, he⟩ | ⟨_, _, _, _, he⟩ <;> rw [he] <;>
        exact ⟨rfl, rfl, rfl, rfl⟩
  | confirmTeacherReviews teacher =>
    obtain ⟨_, h⟩ := map_snd_eq_ok.1 h
    cases teacher with
    | none =>
      cases h
      exact .refl _ _
    | some teacherId =>
      obtain ⟨-, ⟨-, -, rfl⟩ | ⟨-, -, rfl⟩ | ⟨-, hc⟩⟩ := confirmTeacherReviews_eq_ok.1 h
      · exact .refl _ _
      · exact .refl _ _
      · rw [hc.eq]
        exact ⟨rfl, rfl, rfl, rfl⟩

theorem step_frame (hs : Sound env s) (a : Action env) : Frame s (step env s a) a.area :=
  step_induction (P := fun t => Frame s t a.area) (.refl s _) fun _ h => exec_frame hs h

/-- A run of one service writes the tables of that service only. -/
theorem run_frame {area : Area} {as : List (Action env)} (hw : WellFormed env s)
    (has : ∀ a ∈ as, a.area = area) : Frame s (Runs.run (step env) s as) area := by
  induction as generalizing s with
  | nil => exact .refl s area
  | cons a as ih =>
    have hfirst := step_frame hw.sound a
    rw [has a List.mem_cons_self] at hfirst
    exact hfirst.trans (ih (step_wellFormed hw a) fun b hb => has b (List.mem_cons_of_mem a hb))

end Store

end PaperGrading
