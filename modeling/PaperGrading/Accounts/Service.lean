import PaperGrading.Base.Runs
import Mathlib.Logic.Function.Basic

/-!
# Disabling and enabling a teacher

`disable_teacher` and `enable_teacher` of `auth/service.py`.  Each is a sequence of profile
statements, every one committed by itself, and one call of the Auth gateway; requests for
one teacher interleave at every statement.

    every ban while the profile is disabled, no activation of a banned account →
      once all requests have ended and one succeeded: active ↔ not banned        (run_agrees)
-/

namespace PaperGrading

/-! ## The two stores -/

inductive ProfileRole where
  | admin | teacher
  deriving DecidableEq

inductive ProfileStatus where
  | invited | active | disabled
  deriving DecidableEq

/-- The columns of `profiles` that the service looks at. -/
structure Profile where
  role : ProfileRole
  status : ProfileStatus
  deriving DecidableEq

/-! ## Requests -/

inductive AccountAction where
  | disable | enable
  deriving DecidableEq

inductive AccountError where
  | state (message : String)
  | sync (message : String)
  deriving DecidableEq

/-- Where a request is: `updating` before its profile update, `syncing` before its gateway call,
`confirming` before the last read. -/
inductive AccountPhase where
  | waiting | updating | syncing | confirming | returned
  | failed (error : AccountError)
  deriving DecidableEq

/-- The request has not begun or has ended. -/
def AccountPhase.idle : AccountPhase → Bool
  | .waiting | .returned | .failed _ => true
  | _ => false

structure AccountWorld where
  profile : Profile
  /-- `banned_until` of the Auth account is set -/
  banned : Bool
  phase : Nat → AccountPhase

namespace AccountWorld

def setPhase (w : AccountWorld) (k : Nat) (p : AccountPhase) : AccountWorld :=
  { w with phase := Function.update w.phase k p }

def setStatus (w : AccountWorld) (status : ProfileStatus) : AccountWorld :=
  { w with profile := { w.profile with status } }

/-- The first read of a request. -/
def read (w : AccountWorld) : AccountAction → AccountPhase
  | .disable =>
    if w.profile.role ≠ .teacher then .failed (.state "只有正常教师账户可以停用")
    else match w.profile.status with
      | .active => .updating
      | .disabled => .syncing
      | .invited => .failed (.state "只有正常教师账户可以停用")
  | .enable =>
    if w.profile.role = .teacher ∧ w.profile.status = .disabled then .syncing
    else .failed (.state "只有已停用教师账户可以启用")

/-- `disable_active` or `enable_disabled`. -/
def updateProfile (w : AccountWorld) (k : Nat) : AccountAction → AccountWorld
  | .disable =>
    if w.profile.status = .active ∧ w.profile.role = .teacher then
      (w.setStatus .disabled).setPhase k .syncing
    else w.setPhase k (.failed (.state "教师账户状态已变化"))
  | .enable =>
    if w.profile.status = .disabled ∧ w.profile.role = .teacher then
      (w.setStatus .active).setPhase k .confirming
    else w.setPhase k (.failed (.state "教师账户状态已变化"))

/-- `disable_user` or `enable_user`, with the check of the account it returns. -/
def callGateway (w : AccountWorld) (k : Nat) : AccountAction → AccountWorld
  | .disable =>
    let w := { w with banned := true }
    if w.banned then w.setPhase k .confirming
    else w.setPhase k (.failed (.sync "Supabase Auth 未确认账户封禁"))
  | .enable =>
    let w := { w with banned := false }
    if w.banned then w.setPhase k (.failed (.sync "Supabase Auth 未确认解除封禁"))
    else w.setPhase k .updating

/-- The last read of a request. -/
def confirm (w : AccountWorld) : AccountAction → AccountPhase
  | .disable =>
    if w.profile.status = .disabled then .returned else .failed (.state "教师账户停用失败")
  | .enable =>
    if w.profile.status = .active then .returned else .failed (.state "教师账户启用失败")

/-- The next statement of request `k`. -/
def step (requests : Nat → AccountAction) (w : AccountWorld) (k : Nat) : AccountWorld :=
  match w.phase k with
  | .waiting => w.setPhase k (w.read (requests k))
  | .updating => w.updateProfile k (requests k)
  | .syncing => w.callGateway k (requests k)
  | .confirming => w.setPhase k (w.confirm (requests k))
  | .returned | .failed _ => w

/-- A teacher's account before the first request. -/
def start (status : ProfileStatus) (banned : Bool) : AccountWorld :=
  ⟨⟨.teacher, status⟩, banned, fun _ => .waiting⟩

/-- Every request that has started has ended. -/
def Quiescent (w : AccountWorld) : Prop := ∀ k, (w.phase k).idle = true

/-- The profile is open exactly if the Auth account is. -/
def Agrees (w : AccountWorld) : Prop := w.profile.status = .active ↔ w.banned = false

/-- The step bans no account whose profile is open and opens no profile whose account is banned. -/
def InStep (requests : Nat → AccountAction) (w : AccountWorld) (k : Nat) : Prop :=
  (requests k = .disable → w.phase k = .syncing → w.profile.status = .disabled) ∧
    (requests k = .enable → w.phase k = .updating → w.profile.status = .disabled →
      w.banned = false)

instance (requests : Nat → AccountAction) (w : AccountWorld) (k : Nat) :
    Decidable (InStep requests w k) :=
  inferInstanceAs (Decidable (_ ∧ _))

/-! ## Lemmas -/

variable {requests : Nat → AccountAction} {w : AccountWorld} {k : Nat}

@[simp] theorem setPhase_self (w : AccountWorld) (k : Nat) (p : AccountPhase) :
    (w.setPhase k p).phase k = p := by
  simp [setPhase]

theorem setPhase_other (w : AccountWorld) {j k : Nat} (h : j ≠ k) (p : AccountPhase) :
    (w.setPhase k p).phase j = w.phase j := by
  simp [setPhase, Function.update_of_ne h]

@[simp] theorem setPhase_profile (w : AccountWorld) (k : Nat) (p : AccountPhase) :
    (w.setPhase k p).profile = w.profile := rfl

@[simp] theorem setPhase_banned (w : AccountWorld) (k : Nat) (p : AccountPhase) :
    (w.setPhase k p).banned = w.banned := rfl

/-- What every step of a run in step keeps.  A disagreement of the two stores is either as old as
the run, or a request is about to end it. -/
structure Consistent (requests : Nat → AccountAction) (w : AccountWorld) : Prop where
  role : w.profile.role = .teacher
  invited : w.profile.status = .invited → ∀ k, w.phase k = .waiting ∨ ∃ e, w.phase k = .failed e
  opened : w.profile.status = .active → w.banned = true → ∀ k,
    w.phase k = .waiting ∨ (∃ e, w.phase k = .failed e) ∨
      (requests k = .disable ∧ w.phase k = .updating)
  closed : w.profile.status = .disabled → w.banned = false →
    (∃ k, requests k = .disable ∧ w.phase k = .syncing) ∨
      (∃ k, requests k = .enable ∧ w.phase k = .updating) ∨
      ∀ k, w.phase k ≠ .confirming ∧ w.phase k ≠ .returned

theorem consistent_start (status : ProfileStatus) (banned : Bool) :
    Consistent requests (start status banned) where
  role := rfl
  invited _ _ := .inl rfl
  opened _ _ _ := .inl rfl
  closed _ _ := .inr (.inr fun _ => ⟨by simp [start], by simp [start]⟩)

/-- A request moves on and neither store changes. -/
theorem Consistent.setPhase (h : Consistent requests w) {p : AccountPhase}
    (hinvited : w.profile.status = .invited → p = .waiting ∨ ∃ e, p = .failed e)
    (hopened : w.profile.status = .active → w.banned = true → p = .waiting ∨ (∃ e, p = .failed e) ∨
      (requests k = .disable ∧ p = .updating))
    (hclosed : w.profile.status = .disabled → w.banned = false →
      ¬(requests k = .disable ∧ w.phase k = .syncing) ∧
        ¬(requests k = .enable ∧ w.phase k = .updating) ∧
        (p = .confirming ∨ p = .returned → w.phase k = .confirming ∨ w.phase k = .returned)) :
    Consistent requests (w.setPhase k p) := by
  refine ⟨h.role, fun hs j => ?_, fun hs hb j => ?_, fun hs hb => ?_⟩
  · by_cases hj : j = k
    · rw [hj, setPhase_self]
      exact hinvited hs
    · rw [setPhase_other w hj]
      exact h.invited hs j
  · by_cases hj : j = k
    · rw [hj, setPhase_self]
      exact hopened hs hb
    · rw [setPhase_other w hj]
      exact h.opened hs hb j
  · obtain ⟨hnotBan, hnotOpen, hend⟩ := hclosed hs hb
    rcases h.closed hs hb with ⟨j, hj, hphase⟩ | ⟨j, hj, hphase⟩ | hearly
    · have hne : j ≠ k := fun he => hnotBan (he ▸ ⟨hj, hphase⟩)
      exact .inl ⟨j, hj, (setPhase_other w hne p).trans hphase⟩
    · have hne : j ≠ k := fun he => hnotOpen (he ▸ ⟨hj, hphase⟩)
      exact .inr (.inl ⟨j, hj, (setPhase_other w hne p).trans hphase⟩)
    · refine .inr (.inr fun j => ?_)
      by_cases hj : j = k
      · rw [hj, setPhase_self]
        have hk := hearly k
        exact ⟨fun hp => (hend (.inl hp)).elim hk.1 hk.2, fun hp => (hend (.inr hp)).elim hk.1 hk.2⟩
      · rw [setPhase_other w hj]
        exact hearly j

theorem Consistent.read (h : Consistent requests w) (hk : w.phase k = .waiting) :
    Consistent requests (w.setPhase k (w.read (requests k))) := by
  have hclosed : ∀ p : AccountPhase, p ≠ .confirming → p ≠ .returned →
      ¬(requests k = .disable ∧ w.phase k = .syncing) ∧
        ¬(requests k = .enable ∧ w.phase k = .updating) ∧
        (p = .confirming ∨ p = .returned → w.phase k = .confirming ∨ w.phase k = .returned) := by
    intro p hc hr
    simp [hk, hc, hr]
  refine h.setPhase (fun hs => ?_) (fun hs _ => ?_) (fun hs _ => hclosed _ ?_ ?_) <;>
    cases hq : requests k <;> simp [AccountWorld.read, h.role, hs]

theorem Consistent.updateProfile (h : Consistent requests w) (hk : w.phase k = .updating)
    (hin : InStep requests w k) : Consistent requests (w.updateProfile k (requests k)) := by
  -- a statement that matches no row ends the request
  have hfail (hstatus : requests k = .enable → w.profile.status ≠ .disabled) (e : AccountError) :
      Consistent requests (w.setPhase k (.failed e)) := by
    refine h.setPhase (fun _ => .inr ⟨e, rfl⟩) (fun _ _ => .inr (.inl ⟨e, rfl⟩)) fun hs _ =>
      ⟨by simp [hk], fun hq => hstatus hq.1 hs, by simp⟩
  cases hq : requests k with
  | disable =>
    simp only [AccountWorld.updateProfile]
    split
    next hs =>
      refine ⟨h.role, by simp [setStatus], by simp [setStatus], fun _ _ => .inl ⟨k, hq, ?_⟩⟩
      exact setPhase_self _ k _
    next => exact hfail (by simp [hq]) _
  | enable =>
    simp only [AccountWorld.updateProfile]
    split
    next hs =>
      have hopen := hin.2 hq hk hs.1
      refine ⟨h.role, by simp [setStatus], fun _ hb => ?_, by simp [setStatus]⟩
      rw [show w.banned = true from hb] at hopen
      cases hopen
    next hs => exact hfail (fun _ hd => hs ⟨hd, h.role⟩) _

theorem Consistent.callGateway (h : Consistent requests w) (hk : w.phase k = .syncing)
    (hin : InStep requests w k) : Consistent requests (w.callGateway k (requests k)) := by
  cases hq : requests k with
  | disable =>
    have hs := hin.1 hq hk
    refine ⟨h.role, ?_, ?_, ?_⟩ <;> simp [AccountWorld.callGateway, hs]
  | enable =>
    refine ⟨h.role, fun hs => ?_, by simp [AccountWorld.callGateway], fun _ _ =>
      .inr (.inl ⟨k, hq, ?_⟩)⟩
    · have hs' : w.profile.status = .invited := by simpa [AccountWorld.callGateway] using hs
      rcases h.invited hs' k with hw | ⟨e, he⟩
      · simp [hk] at hw
      · simp [hk] at he
    · simp [AccountWorld.callGateway]

theorem Consistent.confirm (h : Consistent requests w) (hk : w.phase k = .confirming) :
    Consistent requests (w.setPhase k (w.confirm (requests k))) := by
  refine h.setPhase (fun hs => ?_) (fun hs hb => ?_) fun _ _ => by simp [hk]
  · rcases h.invited hs k with hw | ⟨e, he⟩
    · simp [hk] at hw
    · simp [hk] at he
  · rcases h.opened hs hb k with hw | ⟨e, he⟩ | ⟨-, hu⟩
    · simp [hk] at hw
    · simp [hk] at he
    · simp [hk] at hu

theorem Consistent.step (h : Consistent requests w) (k : Nat) (hin : InStep requests w k) :
    Consistent requests (w.step requests k) := by
  unfold AccountWorld.step
  split
  next hk => exact h.read hk
  next hk => exact h.updateProfile hk hin
  next hk => exact h.callGateway hk hin
  next hk => exact h.confirm hk
  · exact h
  · exact h

/-- **Profile and Auth account agree** after requests that never act on a stale profile. -/
theorem run_agrees (requests : Nat → AccountAction) (status : ProfileStatus) (banned : Bool)
    {ks : List Nat}
    (hin : Runs.Guarded (AccountWorld.step requests) (InStep requests) (start status banned) ks)
    (hquiet : (Runs.run (AccountWorld.step requests) (start status banned) ks).Quiescent)
    (hone : ∃ k, (Runs.run (AccountWorld.step requests) (start status banned) ks).phase k = .returned) :
    (Runs.run (AccountWorld.step requests) (start status banned) ks).Agrees := by
  have h : Consistent requests (Runs.run (AccountWorld.step requests) (start status banned) ks) :=
    Runs.run_invariant_of_guarded (consistent_start status banned) hin
      fun _ k hw hk => hw.step k hk
  generalize Runs.run (AccountWorld.step requests) (start status banned) ks = w at h hquiet hone ⊢
  obtain ⟨k, hk⟩ := hone
  unfold Agrees
  cases hs : w.profile.status with
  | invited =>
    rcases h.invited hs k with hw | ⟨e, he⟩
    · simp [hk] at hw
    · simp [hk] at he
  | active =>
    refine iff_of_true rfl ?_
    by_contra hb
    rcases h.opened hs (by simpa using hb) k with hw | ⟨e, he⟩ | ⟨-, hu⟩
    · simp [hk] at hw
    · simp [hk] at he
    · simp [hk] at hu
  | disabled =>
    refine iff_of_false (by simp) fun hb => ?_
    rcases h.closed hs hb with ⟨j, -, hj⟩ | ⟨j, -, hj⟩ | hearly
    · have := hquiet j
      simp [hj, AccountPhase.idle] at this
    · have := hquiet j
      simp [hj, AccountPhase.idle] at this
    · exact (hearly k).2 hk

end AccountWorld

/-! ## Two requests that overlap -/

namespace Sample

open AccountWorld

def disableThenEnable : Nat → AccountAction
  | 0 => .disable
  | _ => .enable

theorem disable_then_enable : (Runs.run (AccountWorld.step disableThenEnable) (start .active false)
    [0, 0, 0, 0, 1, 1, 1, 1]).Agrees := by
  refine run_agrees disableThenEnable .active false (by decide) (fun k => ?_) ⟨0, by decide⟩
  rcases k with _ | _ | k
  · decide
  · decide
  · rfl

/-- **A ban overtaken by an activation**: the profile is open and the account is banned. -/
theorem overtaken_ban : ¬∀ (requests : Nat → AccountAction) (status : ProfileStatus) (banned : Bool)
    (ks : List Nat), (Runs.run (AccountWorld.step requests) (start status banned) ks).Quiescent →
      (∃ k, (Runs.run (AccountWorld.step requests) (start status banned) ks).phase k = .returned) →
      (Runs.run (AccountWorld.step requests) (start status banned) ks).Agrees := by
  intro h
  have hagrees := h disableThenEnable .active false [0, 0, 1, 1, 1, 1, 0, 0] (fun k => by
    rcases k with _ | _ | k
    · decide
    · decide
    · rfl) ⟨1, by decide⟩
  unfold Agrees at hagrees
  revert hagrees
  decide

end Sample

end PaperGrading
