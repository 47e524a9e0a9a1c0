import PaperGrading.Base.Runs
import PaperGrading.Store.Teacher
import PaperGrading.Store.Batch

/-!
# The store as a state machine

`Action` lists every transaction that writes the grading store, with all the values
the surrounding code chooses; `step` commits it or, if it fails, leaves the store as
it was.  A run is any list of actions from the empty store.  The worker actions take
an arbitrary preparation, completion or failure, so that a run of the real workers
(however stale what they carry) is a run of this machine.
-/

namespace PaperGrading

inductive Action (env : Runtime) where
  | createAssignment (ownerId : Uuid) (title instructions : String) (draft : RubricDraftCreate)
      (assignmentId rubricId : Uuid) (now : Time)
  | updateAssignment (ownerId assignmentId : Uuid) (title instructions : String)
  | updateAssignmentStatus (ownerId assignmentId : Uuid) (action : Store.AssignmentStatusAction)
  | createRubricDraft (ownerId assignmentId : Uuid) (draft : RubricDraftCreate) (rubricId : Uuid)
      (now : Time)
  | saveGeneratedRubric (ownerId assignmentId rubricId providerId : Uuid)
      (expectedConfigVersion : Nat) (expectedModel : String) (structured : ValidRubric env)
  | updateStructuredRubric (ownerId assignmentId rubricId : Uuid) (structured : ValidRubric env)
  | confirmRubric (ownerId assignmentId rubricId providerId : Uuid) (expectedModel : String)
      (now : Time)
  | createProvider (id : Uuid) (values : ProviderConfigUpdateValues)
  | updateProvider (id : Uuid) (expectedConfigVersion : Nat) (values : ProviderConfigUpdateValues)
  | markTested (id : Uuid) (expectedConfigVersion : Nat) (testedAt : Time)
  | enableTested (id : Uuid)
  | disableEnabled (id : Uuid)
  | reserveSubmission (ownerId : Uuid) (request : SubmissionReservationRequest)
  | transitionSubmission (teacher : Option Uuid) (submissionId : Uuid) (target : SubmissionTarget)
  | createOrGetJob (ownerId assignmentId : Uuid) (payload : GradingJobCreate) (quotaOk : Bool)
      (seed : CreationSeed)
  | claimAttempt (prepared : GradingItemPreparation) (requestHash : Hash) (clock : Clock)
      (attemptId leaseToken : Uuid)
  | finishSuccess (claim : GradingAttemptClaim) (completion : GradingAttemptCompletion)
      (clock : Clock)
  | finishFailure (claim : GradingAttemptClaim) (failure : GradingAttemptFailure) (clock : Clock)
  | expireStaleAttempts (limit : Nat) (clock : Clock)
  | controlGradingJob (teacher : Option Uuid) (jobId : Uuid) (action : ControlAction) (now : Time)
  | saveTeacherReviewDraft (teacher : Option Uuid) (itemId attemptId : Uuid)
      (payload : ReviewPayload) (freshId : RandomUuid) (now : Time)
  | confirmTeacherReviews (teacher : Option Uuid) (refs : List (Uuid × Nat)) (now : Time)

namespace Store

/-- The transaction of an action: the store it commits, or the error that rolls it back. -/
def exec (env : Runtime) (s : Store) : Action env → Except TxError Store
  | .createAssignment ownerId title instructions draft assignmentId rubricId now =>
    s.createAssignment env ownerId title instructions draft assignmentId rubricId now
  | .updateAssignment ownerId assignmentId title instructions =>
    (·.2) <$> s.updateAssignment ownerId assignmentId title instructions
  | .updateAssignmentStatus ownerId assignmentId action =>
    (·.2) <$> s.updateAssignmentStatus ownerId assignmentId action
  | .createRubricDraft ownerId assignmentId draft rubricId now =>
    (·.2) <$> s.createRubricDraft env ownerId assignmentId draft rubricId now
  | .saveGeneratedRubric ownerId assignmentId rubricId providerId version model structured =>
    (·.2) <$> s.saveGeneratedRubric env ownerId assignmentId rubricId providerId version model
      structured
  | .updateStructuredRubric ownerId assignmentId rubricId structured =>
    (·.2) <$> s.updateStructuredRubric env ownerId assignmentId rubricId structured
  | .confirmRubric ownerId assignmentId rubricId providerId model now =>
    (·.2) <$> s.confirmRubric env ownerId assignmentId rubricId providerId model now
  | .createProvider id values => s.createProvider id values
  | .updateProvider id version values => (·.2) <$> s.updateProvider id version values
  | .markTested id version testedAt => (·.2) <$> s.markTested id version testedAt
  | .enableTested id => (·.2) <$> s.enableTested id
  | .disableEnabled id => (·.2) <$> s.disableEnabled id
  | .reserveSubmission ownerId request => (·.2) <$> s.reserveSubmission ownerId request
  | .transitionSubmission teacher submissionId target =>
    (·.2) <$> s.transitionSubmission teacher submissionId target
  | .createOrGetJob ownerId assignmentId payload quotaOk seed =>
    (·.2) <$> s.createOrGetJob env ownerId assignmentId payload quotaOk seed
  | .claimAttempt prepared requestHash clock attemptId leaseToken =>
    (·.2) <$> s.claimAttempt prepared requestHash clock attemptId leaseToken
  | .finishSuccess claim completion clock => s.finishSuccess claim completion clock
  | .finishFailure claim failure clock => s.finishFailure claim failure clock
  | .expireStaleAttempts limit clock => s.expireStaleAttempts limit clock
  | .controlGradingJob teacher jobId action now =>
    (·.2) <$> s.controlGradingJob teacher jobId action now
  | .saveTeacherReviewDraft teacher itemId attemptId payload freshId now =>
    (·.2) <$> s.saveTeacherReviewDraft teacher itemId attemptId payload freshId now
  | .confirmTeacherReviews teacher refs now =>
    (·.2) <$> s.confirmTeacherReviews teacher refs now

/-- One action: committed, or rolled back. -/
def step (env : Runtime) (s : Store) (a : Action env) : Store :=
  match s.exec env a with
  | .ok s' => s'
  | .error _ => s

/-- The store after a run of actions from the empty store. -/
def after (env : Runtime) (as : List (Action env)) : Store :=
  Runs.run (step env) empty as

/-! ## Lemmas -/

theorem step_of_ok {env : Runtime} {s s' : Store} {a : Action env} (h : s.exec env a = .ok s') :
    step env s a = s' := by
  simp [step, h]

/-- What holds of the store and of every committed successor holds after the step. -/
theorem step_induction {env : Runtime} {s : Store} {a : Action env} {P : Store → Prop} (h0 : P s)
    (hok : ∀ s', s.exec env a = .ok s' → P s') : P (step env s a) := by
  unfold step
  cases h : s.exec env a with
  | error e => exact h0
  | ok s' => exact hok s' h

theorem map_snd_eq_ok {ε α : Type} {x : Except ε (α × Store)} {s' : Store} :
    ((·.2) <$> x) = .ok s' ↔ ∃ v, x = .ok (v, s') := by
  cases x with
  | error e => simp
  | ok v => exact ⟨fun h => ⟨v.1, by cases h; rfl⟩, fun ⟨w, hw⟩ => by cases hw; rfl⟩

end Store

end PaperGrading
