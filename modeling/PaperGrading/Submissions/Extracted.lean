import PaperGrading.Domain.Texts
import PaperGrading.Store.Commits
import PaperGrading.Submissions.Upload

/-!
# The extracted text of a ready submission

The keys of two submissions differ, so only uploads of one submission can meet at an object.
An upload that is about to set its submission to `ready` has written the text, and what
removes it again is a compensating deletion: of an upload that failed before, or of the one
whose own transition to `ready` was committed without an answer.

    every step but an unsafe deletion keeps what ready submissions need    (Uploads.step)
    no run without an unsafe deletion loses the text of a ready submission   (after_readyPresent)
-/

namespace PaperGrading

open Table Store

/-! ## Keys -/

theorem extracted_inj {o o' a a' i i' : Uuid} {m m' : MediaType}
    (h : (buildSubmissionObjectKeys o a i m).extracted =
      (buildSubmissionObjectKeys o' a' i' m').extracted) : i = i' := by
  obtain ⟨h, -⟩ := append_inj_of_toList h rfl
  obtain ⟨-, h⟩ := append_inj_of_toList h (by rw [length_uuidText, length_uuidText])
  exact uuidText_inj h

/-- The key of a row is the one that `build_submission_object_keys` gives. -/
theorem extracted_of_rowCheck {x : Submission} (h : x.rowCheck = .ok ()) {key : String}
    (hkey : x.extractedObjectKey = some key) :
    key = (buildSubmissionObjectKeys x.ownerId x.assignmentId x.id x.mediaType).extracted := by
  unfold Submission.rowCheck at h
  simp only [bind_eq_ok, require_eq_ok] at h
  obtain ⟨_, -, _, -, _, -, _, -, hkeys⟩ := h
  rw [hkey] at hkeys
  have : key = x.directory ++ "/document-blocks.v1.json" := by
    simpa using (Bool.and_eq_true_iff.1 hkeys).2
  exact this

namespace UploadWorld

variable {env : Runtime} {uploads : Nat → UploadRequest} {w : UploadWorld}

/-! ## The invariant -/

structure Uploads (uploads : Nat → UploadRequest) (w : UploadWorld) : Prop where
  unique : w.db.submissions.Pairwise fun x y => submissionConflict x y = false
  check : ∀ x ∈ w.db.submissions, x.rowCheck = .ok ()
  /-- an upload that is about to set `ready` has written the text -/
  finishing : ∀ u id, w.phase u = .finishing id →
    (w.objects ((uploads u).keys id).extracted).isSome = true
  present : w.ReadyPresent

theorem start_uploads : Uploads uploads start := by
  refine ⟨.nil, fun x hx => absurd hx List.not_mem_nil, fun u id h => ?_,
    fun x hx => absurd hx List.not_mem_nil⟩
  cases h

@[simp] theorem setPhase_self (w : UploadWorld) (u : Nat) (p : UploadPhase) :
    (w.setPhase u p).phase u = p := by
  simp [setPhase]

theorem setPhase_other (w : UploadWorld) {u u' : Nat} (h : u' ≠ u) (p : UploadPhase) :
    (w.setPhase u p).phase u' = w.phase u' := by
  simp [setPhase, Function.update_of_ne h]

/-- No event moves another upload. -/
theorem step_phase_other {ev : UploadEvent} {u : Nat} (h : ev.upload ≠ some u) :
    (step env uploads w ev).phase u = w.phase u := by
  have hset (u' : Nat) (hu : some u' ≠ some u) (p : UploadPhase) :
      (w.setPhase u' p).phase u = w.phase u :=
    setPhase_other w (fun he => hu (congrArg some he.symm)) p
  cases ev with
  | elsewhere db => rfl
  | parse u' outcome => exact hset u' h _
  | crash u' => exact hset u' h _
  | reserve u' outcome =>
    unfold step UploadWorld.reserve
    dsimp only
    split
    · split <;> exact hset u' h _
    · rfl
  | transition u' outcome =>
    unfold step UploadWorld.transition
    dsimp only
    split
    · rfl
    · split <;> exact hset u' h _
  | write u' outcome =>
    unfold step UploadWorld.write
    dsimp only
    split
    · rfl
    · exact hset u' h _
  | delete u' outcome =>
    unfold step UploadWorld.delete
    dsimp only
    split
    · exact hset u' h _
    · rfl

theorem after_phase_other {es : List UploadEvent} {u : Nat} (h : ∀ ev ∈ es, ev.upload ≠ some u) :
    (after env uploads es).phase u = .waiting :=
  Runs.run_frame (f := fun w => w.phase u) (fun ev hev _ => step_phase_other (h ev hev)) start

/-- A step of one upload that removes nothing that is needed. -/
theorem Uploads.settle {u : Nat} {p : UploadPhase} {db : Store}
    {objects : String → Option Bytes}
    (hunique : db.submissions.Pairwise fun x y => submissionConflict x y = false)
    (hcheck : ∀ x ∈ db.submissions, x.rowCheck = .ok ())
    (hfinishing : ∀ u' id, w.phase u' = .finishing id →
      (objects ((uploads u').keys id).extracted).isSome = true)
    (hp : ∀ id, p = .finishing id → (objects ((uploads u).keys id).extracted).isSome = true)
    (hready : ∀ x ∈ db.submissions, x.status = .ready →
      ∃ key, x.extractedObjectKey = some key ∧ (objects key).isSome = true) :
    Uploads uploads { w.setPhase u p with db, objects } := by
  refine ⟨hunique, hcheck, fun u' id hphase => ?_, hready⟩
  have hphase : (w.setPhase u p).phase u' = .finishing id := hphase
  by_cases hu : u' = u
  · subst hu
    rw [setPhase_self] at hphase
    exact hp id hphase
  · rw [setPhase_other w hu] at hphase
    exact hfinishing u' id hphase

/-- A step of one upload that removes no object. -/
theorem Uploads.move (h : Uploads uploads w) {u : Nat} {p : UploadPhase} {db : Store}
    {objects : String → Option Bytes}
    (hunique : db.submissions.Pairwise fun x y => submissionConflict x y = false)
    (hcheck : ∀ x ∈ db.submissions, x.rowCheck = .ok ())
    (hobjects : ∀ key, (w.objects key).isSome = true → (objects key).isSome = true)
    (hp : ∀ id, p = .finishing id → (objects ((uploads u).keys id).extracted).isSome = true)
    (hready : ∀ x ∈ db.submissions, x.status = .ready → x ∈ w.db.submissions ∨
      ∃ key, x.extractedObjectKey = some key ∧ (w.objects key).isSome = true) :
    Uploads uploads { w.setPhase u p with db, objects } := by
  refine .settle hunique hcheck (fun u' id hphase => hobjects _ (h.finishing u' id hphase)) hp
    fun x hx hst => ?_
  rcases hready x hx hst with hold | ⟨key, hkey, hpresent⟩
  · obtain ⟨key, hkey, hpresent⟩ := h.present x hold hst
    exact ⟨key, hkey, hobjects key hpresent⟩
  · exact ⟨key, hkey, hobjects key hpresent⟩

theorem Uploads.setPhase (h : Uploads uploads w) {u : Nat} {p : UploadPhase}
    (hp : ∀ id, p = .finishing id → (w.objects ((uploads u).keys id).extracted).isSome = true) :
    Uploads uploads (w.setPhase u p) :=
  h.move h.unique h.check (fun _ hkey => hkey) hp fun _ hx _ => .inl hx

/-! ## Events -/

theorem Uploads.reserve (h : Uploads uploads w) (u : Nat) (outcome : CallOutcome) :
    Uploads uploads (w.reserve env (uploads u) u outcome) := by
  have hresolve (state : ReservationState) (row : Option Submission) (id : Uuid) :
      resolve state row ≠ .finishing id := by
    unfold resolve
    split
    · simp
    · split <;> simp
    · simp
  unfold UploadWorld.reserve
  split
  · split
    · exact h.setPhase fun id hp => by cases hp
    next state db hreserve =>
      have hp (id : Uuid) : (if outcome = .returned then resolve state (submissionOf db
          (uploads u).ownerId (uploads u).assignmentId (env.sha256 (uploads u).content)) else
          .done) ≠ .finishing id := by
        split
        · exact hresolve _ _ id
        · simp
      have hset := h.setPhase (u := u) fun id he => absurd he (hp id)
      cases outcome.applied with
      | false => exact hset
      | true =>
        rcases reserveSubmission_cases hreserve with rfl | ⟨row, hst, hrow, huniq, rfl⟩
        · exact hset
        · refine h.move (by simpa [submissionsUnique] using huniq) (fun x hx => ?_)
            (fun _ hkey => hkey) (fun id he => absurd he (hp id)) fun x hx hready => ?_
          · rcases List.mem_append.1 hx with hx | hx
            · exact h.check x hx
            · rw [List.mem_singleton.1 hx]
              exact hrow
          · rcases List.mem_append.1 hx with hx | hx
            · exact .inl hx
            · rw [List.mem_singleton.1 hx, hst] at hready
              cases hready
  · exact h

/-- The row of a transition to `ready` names the key of the upload. -/
theorem apply_ready {t : SubmissionTarget} {x : Submission} (h : (t.apply x).status = .ready) :
    ∃ key, t = .ready key ∧ (t.apply x).extractedObjectKey = some key := by
  cases t with
  | ready key => exact ⟨key, rfl, rfl⟩
  | _ => cases h

theorem target_ready {q : UploadRequest} {p : UploadPhase} {id : Uuid} {key : String}
    (h : p.target q = some (id, .ready key)) : p = .finishing id ∧ key = (q.keys id).extracted := by
  cases p <;> cases h
  exact ⟨rfl, rfl⟩

theorem afterTransition_ne_finishing (moved cancelled : Bool) (p : UploadPhase) (id : Uuid) :
    p.afterTransition moved cancelled ≠ .finishing id := by
  unfold UploadPhase.afterTransition
  repeat' split
  all_goals simp

theorem Uploads.transition (h : Uploads uploads w) (u : Nat) (outcome : CallOutcome) :
    Uploads uploads (w.transition (uploads u) u outcome) := by
  have hp (moved : Bool) (id : Uuid)
      (he : (w.phase u).afterTransition moved outcome.isCancelled = .finishing id) :
      (w.objects ((uploads u).keys id).extracted).isSome = true :=
    absurd he (afterTransition_ne_finishing moved _ _ id)
  unfold UploadWorld.transition
  split
  · exact h
  next id target htarget =>
    split
    next id' db htrans =>
      cases outcome.applied with
      | false => exact h.setPhase (hp _)
      | true =>
        rcases transitionSubmission_cases h.unique htrans with ⟨hne, -⟩ |
          ⟨x, hx, rfl, -, -, hrow, huniq, rfl⟩
        · cases hne
        · refine h.move (by simpa [submissionsUnique] using huniq) (fun y hy => ?_)
            (fun _ hkey => hkey) (hp _) fun y hy hready => ?_
          · rcases (mem_replaceRow hx).1 hy with rfl | ⟨hy, -⟩
            · exact hrow
            · exact h.check y hy
          · rcases (mem_replaceRow hx).1 hy with rfl | ⟨hy, -⟩
            · obtain ⟨key, rfl, hkey⟩ := apply_ready hready
              obtain ⟨hphase, rfl⟩ := target_ready htarget
              exact .inr ⟨_, hkey, h.finishing u x.id hphase⟩
            · exact .inl hy
    · exact h.setPhase (hp _)

theorem written_finishing {q : UploadRequest} {p : UploadPhase} {outcome : WriteOutcome} {id : Uuid}
    {key : String} {content : Bytes} (h : p.written q = some (key, content))
    (hp : p.afterWrite outcome = .finishing id) :
    outcome = .call .returned ∧ key = (q.keys id).extracted := by
  cases p with
  | storing id' =>
    rcases outcome with ⟨r, a⟩ | _ | a | a <;> cases hp
  | extracting id' text =>
    rcases outcome with ⟨r, a⟩ | _ | a | a <;> cases hp
    cases h
    exact ⟨rfl, rfl⟩
  | _ => cases h

theorem isSome_update (objects : String → Option Bytes) (key k : String) (content : Bytes)
    (h : k = key ∨ (objects k).isSome = true) :
    (Function.update objects key (some content) k).isSome = true := by
  by_cases hkey : k = key
  · subst hkey
    rw [Function.update_self]
    rfl
  · rw [Function.update_of_ne hkey]
    exact h.resolve_left hkey

theorem Uploads.write (h : Uploads uploads w) (u : Nat) (outcome : WriteOutcome) :
    Uploads uploads (w.write (uploads u) u outcome) := by
  unfold UploadWorld.write
  split
  · exact h
  next key content hwritten =>
    cases ha : outcome.applied with
    | false =>
      refine h.setPhase fun id hp => ?_
      rw [(written_finishing hwritten hp).1] at ha
      cases ha
    | true =>
      rw [if_pos rfl]
      exact h.move h.unique h.check (fun k hk => isSome_update _ _ _ _ (.inr hk))
        (fun id hp => isSome_update _ _ _ _ (.inl (written_finishing hwritten hp).2.symm))
        fun _ hx _ => .inl hx

theorem Uploads.parse (h : Uploads uploads w) (u : Nat) (outcome : ParseOutcome) :
    Uploads uploads (w.parse u outcome) := by
  refine h.setPhase fun id hp => ?_
  unfold UploadPhase.afterParse at hp
  split at hp
  · split at hp <;> cases hp
  · exact h.finishing u id hp

/-- A safe deletion hits no object that a ready submission or an upload before its transition
needs: their keys differ. -/
theorem Uploads.delete (h : Uploads uploads w) (u : Nat) (outcome : CallOutcome)
    (hsafe : w.SafeDelete (.delete u outcome)) :
    Uploads uploads (w.delete (uploads u) u outcome) := by
  unfold UploadWorld.delete
  split
  next id cancelled hphase =>
    have hp (id' : Uuid) : (if cancelled || outcome.isCancelled then UploadPhase.cancelling id
        else .done) ≠ .finishing id' := by
      split <;> simp
    have hfinishing (u' : Nat) (id' : Uuid) (hphase' : w.phase u' = .finishing id')
        (ha : outcome.applied = true) :
        ((uploads u').keys id').extracted ≠ ((uploads u).keys id).extracted := by
      intro he
      exact (hsafe id cancelled hphase ha).2 u' (extracted_inj he ▸ hphase')
    have hready (x : Submission) (hx : x ∈ w.db.submissions) (hst : x.status = .ready)
        (ha : outcome.applied = true) {key : String} (hkey : x.extractedObjectKey = some key) :
        key ≠ ((uploads u).keys id).extracted := by
      intro he
      rw [extracted_of_rowCheck (h.check x hx) hkey] at he
      exact (hsafe id cancelled hphase ha).1 x hx (extracted_inj he) hst
    cases ha : outcome.applied with
    | false => exact h.setPhase fun id' he => absurd he (hp id')
    | true =>
      rw [if_pos rfl]
      refine .settle h.unique h.check (fun u' id' hphase' => ?_) (fun id' he => absurd he (hp id'))
        fun x hx hst => ?_
      · rw [Function.update_of_ne (hfinishing u' id' hphase' ha)]
        exact h.finishing u' id' hphase'
      · obtain ⟨key, hkey, hpresent⟩ := h.present x hx hst
        refine ⟨key, hkey, ?_⟩
        rwa [Function.update_of_ne (hready x hx hst ha hkey)]
  · exact h

theorem Uploads.step (h : Uploads uploads w) {ev : UploadEvent} (hsafe : w.SafeDelete ev) :
    Uploads uploads (step env uploads w ev) := by
  cases ev with
  | reserve u outcome => exact h.reserve u outcome
  | transition u outcome => exact h.transition u outcome
  | write u outcome => exact h.write u outcome
  | parse u outcome => exact h.parse u outcome
  | delete u outcome => exact h.delete u outcome hsafe
  | crash u => exact h.setPhase fun id hp => by cases hp
  | elsewhere db => exact ⟨h.unique, h.check, h.finishing, h.present⟩

/-! ## Runs -/

/-- **Ready submissions keep their extracted text** along every run without an unsafe deletion. -/
theorem after_readyPresent (es : List UploadEvent)
    (hsafe : Runs.Guarded (UploadWorld.step env uploads) SafeDelete start es) :
    (after env uploads es).ReadyPresent :=
  (Runs.run_invariant_of_guarded start_uploads hsafe fun _ _ h hs => h.step hs).present

end UploadWorld

/-! ## Two uploads of one paper -/

namespace Sample

open UploadWorld

/-- The same file again and again, each time with a new identifier. -/
def uploads (u : Nat) : UploadRequest :=
  ⟨teacher, assignment, submission + BitVec.ofNat 128 u, "a.pdf", .pdf, [65]⟩

/-- An upload from its first write to the transition to `ready`. -/
def process (u : Nat) : List UploadEvent :=
  [.write u (.call .returned), .transition u .returned, .parse u (.parsed [66]),
    .write u (.call .returned), .transition u .returned]

/-- The text of the first upload is stored, but the upload hears of an error and fails; the second
one sets the submission back before the first deletes what it has written. -/
def failedUpload : List UploadEvent :=
  [.elsewhere parsed, .reserve 0 .returned, .write 0 (.call .returned), .transition 0 .returned,
    .parse 0 (.parsed [66]), .write 0 (.refused .storage true), .transition 0 .returned,
    .reserve 1 .returned, .transition 1 .returned]

/-- The deletion comes before the second upload stores the text again. -/
def earlyDelete : List UploadEvent := failedUpload ++ .delete 0 .returned :: process 1

theorem failedUpload_phases :
    (after sampleRuntime uploads failedUpload).phase 0 = .deleting submission false ∧
    (after sampleRuntime uploads failedUpload).phase 1 = .storing submission ∧
    (after sampleRuntime uploads failedUpload).db.submissions.map (·.status) = [.uploaded] := by
  decide +kernel

/-- The submission is not ready, and the second upload has not come to the text. -/
theorem firstDelete_safe :
    SafeDelete (after sampleRuntime uploads failedUpload) (.delete 0 .returned) := by
  obtain ⟨hfirst, hsecond, hrows⟩ := failedUpload_phases
  intro id cancelled hphase _
  constructor
  · intro x hx _ hready
    have hstatus := List.mem_map_of_mem (f := fun x : Submission => x.status) hx
    rw [hrows, hready] at hstatus
    cases List.mem_singleton.1 hstatus
  · intro u hfinishing
    by_cases h0 : u = 0
    · rw [h0, hfirst] at hfinishing
      cases hfinishing
    by_cases h1 : u = 1
    · rw [h1, hsecond] at hfinishing
      cases hfinishing
    -- no other upload has begun
    have hbegun : ∀ ev ∈ failedUpload, ev.upload.all (fun v => v = 0 ∨ v = 1) = true :=
      List.all_eq_true.1 (by decide +kernel)
    have hwaiting : (after sampleRuntime uploads failedUpload).phase u = .waiting := by
      refine after_phase_other fun ev hev he => ?_
      have hor := hbegun ev hev
      rw [he, Option.all_some, decide_eq_true_iff] at hor
      exact hor.elim h0 h1
    rw [hwaiting] at hfinishing
    cases hfinishing

theorem earlyDelete_safe :
    Runs.Guarded (UploadWorld.step sampleRuntime uploads) SafeDelete start earlyDelete :=
  Runs.guarded_append.2 ⟨⟨trivial, trivial, trivial, trivial, trivial, trivial, trivial, trivial,
    trivial, trivial⟩, firstDelete_safe, trivial, trivial, trivial, trivial, trivial, trivial⟩

/-- The deletion removes the text, and the second upload completes with it. -/
theorem earlyDelete_present :
    (after sampleRuntime uploads failedUpload).objects blocksKey = some [66] ∧
      (after sampleRuntime uploads (failedUpload ++ [.delete 0 .returned])).objects blocksKey = none ∧
      (after sampleRuntime uploads earlyDelete).db.submissions.map
        (fun x => (x.status, x.extractedObjectKey)) = [(.ready, some blocksKey)] ∧
      (after sampleRuntime uploads earlyDelete).ReadyPresent :=
  ⟨by decide +kernel, by decide +kernel, by decide +kernel,
    after_readyPresent earlyDelete earlyDelete_safe⟩

/-- The first upload cannot store the text and fails; before it deletes what it may have written,
the second one resets the submission and completes. -/
def lateDelete : List UploadEvent :=
  [.elsewhere parsed, .reserve 0 .returned, .write 0 (.call .returned), .transition 0 .returned,
    .parse 0 (.parsed [66]), .write 0 (.refused .storage false), .transition 0 .returned,
    .reserve 1 .returned, .transition 1 .returned] ++ process 1 ++ [.delete 0 .returned]

theorem after_lateDelete :
    (after sampleRuntime uploads lateDelete).db.submissions.map
        (fun x => (x.status, x.extractedObjectKey)) = [(.ready, some blocksKey)] ∧
      (after sampleRuntime uploads lateDelete).objects blocksKey = none := by
  decide +kernel

theorem lateDelete_loses : ¬∀ es, (after sampleRuntime uploads es).ReadyPresent := by
  intro h
  obtain ⟨hrows, hobject⟩ := after_lateDelete
  have hmem : (SubmissionStatus.ready, some blocksKey) ∈
      (after sampleRuntime uploads lateDelete).db.submissions.map
        (fun x => (x.status, x.extractedObjectKey)) := by
    rw [hrows]
    exact List.mem_singleton.2 rfl
  obtain ⟨x, hx, he⟩ := List.mem_map.1 hmem
  obtain ⟨hst, hkey⟩ := Prod.mk.inj he
  obtain ⟨key, hkey', hpresent⟩ := h lateDelete x hx hst
  rw [hkey] at hkey'
  cases hkey'
  rw [hobject] at hpresent
  cases hpresent

end Sample

end PaperGrading
