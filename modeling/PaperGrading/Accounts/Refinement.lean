import PaperGrading.Accounts.Directory

/-!
# One teacher among all accounts

The requests that disable and enable one teacher, over all accounts, with a gateway that does what
it is asked.  Statement by statement they are the machine of `AccountWorld`.

    the same requests in the same order: the profile, the ban and every request are where the
    machine has them                                                              (run_simulates)
-/

namespace PaperGrading

open Table AccountService

namespace AccountWorld

/-- The request of the service. -/
def dialogueOf (id : Uuid) : AccountAction → AccountDialogue
  | .disable => disableTeacher id
  | .enable => enableTeacher id

/-- A gateway that does what this request asks. -/
def obedient (user : AuthUser) (time : Time) (action : AccountAction) : GatewayTurn where
  users := .ok [user]
  user := .ok { user with bannedUntil := if action = .disable then some time else none }
  created := none
  takesEffect := true

/-- The request is in this phase. -/
def InPhase (id : Uuid) (action : AccountAction) (dialogue : AccountDialogue) : AccountPhase → Prop
  | .waiting => dialogue = dialogueOf id action
  | .updating =>
    match action with
    | .disable => dialogue = closeProfile id
    | .enable => dialogue = openProfile id
  | .syncing =>
    match action with
    | .disable => dialogue = banUser id
    | .enable => dialogue = liftBan id
  | .confirming =>
    match action with
    | .disable => dialogue = confirmDisabled id
    | .enable => dialogue = confirmEnabled id
  | .returned => ∃ r, dialogue = returning r
  | .failed e => dialogue = .done (.error (.account e))

/-- The account as the machine sees it. -/
structure Represents (id : Uuid) (d : Directory) (w : AccountWorld) : Prop where
  ids : (d.profiles.map (·.id)).Nodup
  profile : ∃ p ∈ d.profiles, p.id = id ∧ p.role = w.profile.role ∧ p.status = w.profile.status
  banned : d.banned id = w.banned

/-! ## One statement -/

variable {id : Uuid} {d : Directory} {w : AccountWorld}

theorem Represents.find (h : Represents id d w) :
    ∃ p, d.profiles.find? (·.id == id) = some p ∧ p.role = w.profile.role ∧
      p.status = w.profile.status := by
  obtain ⟨p, hp, rfl, hrole, hstatus⟩ := h.profile
  exact ⟨p, find?_eq_some_of_key h.ids hp _ (beq_self_eq_true _) fun q hq => by simpa using hq,
    hrole, hstatus⟩

/-- An update hits the profile exactly if it has this status and is a teacher's. -/
theorem Represents.update (h : Represents id d w) (before after : ProfileStatus) :
    (d.update id before fun p => { p with status := after }).1 =
        decide (w.profile.status = before ∧ w.profile.role = .teacher) ∧
      Represents id (d.update id before fun p => { p with status := after }).2
        (if w.profile.status = before ∧ w.profile.role = .teacher then w.setStatus after else w) := by
  obtain ⟨p, hp, rfl, hrole, hstatus⟩ := h.profile
  have hhit : Directory.hits p.id before p = true ↔
      w.profile.status = before ∧ w.profile.role = .teacher := by
    rw [Directory.hits_iff, hrole, hstatus]
    exact and_iff_right rfl
  have hany : d.profiles.any (Directory.hits p.id before) = Directory.hits p.id before p := by
    rw [Bool.eq_iff_iff, List.any_eq_true]
    refine ⟨fun ⟨q, hq, hh⟩ => ?_, fun hh => ⟨p, hp, hh⟩⟩
    have he : q = p := eq_of_key_eq h.ids hq hp (Directory.hits_iff.1 hh).1
    rwa [he] at hh
  have hids := map_setWhere (·.id) (Directory.hits p.id before) (fun p => { p with status := after })
    d.profiles fun _ _ _ => rfl
  refine ⟨hany.trans (by rw [Bool.eq_iff_iff, hhit, decide_eq_true_iff]), ?_⟩
  by_cases hc : w.profile.status = before ∧ w.profile.role = .teacher
  · rw [if_pos hc]
    exact ⟨hids.symm ▸ h.ids, ⟨_, mem_setWhere.2 (.inl ⟨p, hp, hhit.2 hc, rfl⟩), rfl, hrole, rfl⟩,
      h.banned⟩
  · rw [if_neg hc]
    exact ⟨hids.symm ▸ h.ids, ⟨p, mem_setWhere.2 (.inr ⟨hp, by simpa using mt hhit.1 hc⟩), rfl, hrole,
      hstatus⟩, h.banned⟩

/-- The stores and all requests are where the machine has them. -/
structure Simulates (id : Uuid) (requests : Nat → AccountAction) (pool : AccountPool)
    (w : AccountWorld) : Prop where
  stores : Represents id pool.state w
  phases : ∀ k, InPhase id (requests k) (pool.dialogues k) (w.phase k)

variable {requests : Nat → AccountAction} {pool : AccountPool}

theorem Simulates.move (h : Simulates id requests pool w) {d' : Directory} {w' : AccountWorld}
    (hstores : Represents id d' w') (hsame : w'.phase = w.phase) {k : Nat} {dialogue : AccountDialogue}
    {phase : AccountPhase} (hphase : InPhase id (requests k) dialogue phase) :
    Simulates id requests ⟨d', Function.update pool.dialogues k dialogue⟩ (w'.setPhase k phase) := by
  refine ⟨⟨hstores.ids, hstores.profile, hstores.banned⟩, fun j => ?_⟩
  by_cases hj : j = k
  · subst hj
    simpa using hphase
  · rw [setPhase_other _ hj, hsame]
    simpa only [Function.update_of_ne hj] using h.phases j

/-- The first read. -/
theorem Simulates.read (h : Simulates id requests pool w) {k : Nat} (turn : GatewayTurn)
    (hk : pool.dialogues k = dialogueOf id (requests k)) :
    Simulates id requests (AccountPool.step pool (.answer k turn))
      (w.setPhase k (w.read (requests k))) := by
  obtain ⟨p, hp, hrole, hstatus⟩ := h.stores.find
  cases hq : requests k with
  | disable =>
    rw [hq] at hk
    unfold AccountPool.step
    rw [Pool.step_ask hk]
    refine h.move h.stores rfl ?_
    simp only [Directory.answer, hp, AccountWorld.read, hq]
    cases hr : w.profile.role <;> cases hs : w.profile.status <;>
      simp [hrole, hstatus, hr, hs, InPhase, stateError]
  | enable =>
    rw [hq] at hk
    unfold AccountPool.step
    rw [Pool.step_ask hk]
    refine h.move h.stores rfl ?_
    simp only [Directory.answer, hp, AccountWorld.read, hq]
    cases hr : w.profile.role <;> cases hs : w.profile.status <;>
      simp [hrole, hstatus, hr, hs, InPhase, stateError]

/-- The update of the profile. -/
theorem Simulates.updateProfile (h : Simulates id requests pool w) {k : Nat} (turn : GatewayTurn)
    (hk : InPhase id (requests k) (pool.dialogues k) .updating) :
    Simulates id requests (AccountPool.step pool (.answer k turn)) (w.updateProfile k (requests k)) := by
  cases hq : requests k with
  | disable =>
    rw [hq] at hk
    unfold AccountPool.step
    rw [Pool.step_ask hk]
    obtain ⟨hchanged, hstores⟩ := h.stores.update .active .disabled
    simp only [Directory.answer, hchanged, AccountWorld.updateProfile]
    by_cases hc : w.profile.status = .active ∧ w.profile.role = .teacher
    · rw [if_pos hc] at hstores
      rw [if_pos hc]
      exact h.move hstores rfl (by simp [hc, hq, InPhase])
    · rw [if_neg hc] at hstores
      rw [if_neg hc]
      exact h.move hstores rfl (by simp [hc, InPhase, stateError])
  | enable =>
    rw [hq] at hk
    unfold AccountPool.step
    rw [Pool.step_ask hk]
    obtain ⟨hchanged, hstores⟩ := h.stores.update .disabled .active
    simp only [Directory.answer, hchanged, AccountWorld.updateProfile]
    by_cases hc : w.profile.status = .disabled ∧ w.profile.role = .teacher
    · rw [if_pos hc] at hstores
      rw [if_pos hc]
      exact h.move hstores rfl (by simp [hc, hq, InPhase])
    · rw [if_neg hc] at hstores
      rw [if_neg hc]
      exact h.move hstores rfl (by simp [hc, InPhase, stateError])

/-- The call of the gateway, which obeys. -/
theorem Simulates.callGateway (h : Simulates id requests pool w) {k : Nat} (user : AuthUser) (time : Time)
    (hk : InPhase id (requests k) (pool.dialogues k) .syncing) :
    Simulates id requests (AccountPool.step pool (.answer k (obedient user time (requests k))))
      (w.callGateway k (requests k)) := by
  cases hq : requests k with
  | disable =>
    rw [hq] at hk
    unfold AccountPool.step
    rw [Pool.step_ask hk]
    have hstores : Represents id { pool.state with banned := Function.update pool.state.banned id true }
      { w with banned := true } := ⟨h.stores.ids, h.stores.profile, by simp⟩
    exact h.move hstores rfl (by simp [Directory.answer, obedient, hq, InPhase])
  | enable =>
    rw [hq] at hk
    unfold AccountPool.step
    rw [Pool.step_ask hk]
    have hstores : Represents id { pool.state with banned := Function.update pool.state.banned id false }
      { w with banned := false } := ⟨h.stores.ids, h.stores.profile, by simp⟩
    exact h.move hstores rfl (by simp [Directory.answer, obedient, hq, InPhase])

/-- The last read. -/
theorem Simulates.confirm (h : Simulates id requests pool w) {k : Nat} (turn : GatewayTurn)
    (hk : InPhase id (requests k) (pool.dialogues k) .confirming) :
    Simulates id requests (AccountPool.step pool (.answer k turn))
      (w.setPhase k (w.confirm (requests k))) := by
  obtain ⟨p, hp, -, hstatus⟩ := h.stores.find
  cases hq : requests k with
  | disable =>
    rw [hq] at hk
    unfold AccountPool.step
    rw [Pool.step_ask hk]
    refine h.move h.stores rfl ?_
    simp only [Directory.answer, hp, AccountWorld.confirm, hstatus]
    by_cases hs : w.profile.status = .disabled <;> simp [hs, InPhase, stateError]
  | enable =>
    rw [hq] at hk
    unfold AccountPool.step
    rw [Pool.step_ask hk]
    refine h.move h.stores rfl ?_
    simp only [Directory.answer, hp, AccountWorld.confirm, hstatus]
    by_cases hs : w.profile.status = .active <;> simp [hs, InPhase, stateError]

/-- **One statement** of a request. -/
theorem Simulates.step (h : Simulates id requests pool w) (user : AuthUser) (time : Time) (k : Nat) :
    Simulates id requests (AccountPool.step pool (.answer k (obedient user time (requests k))))
      (w.step requests k) := by
  have hphase := h.phases k
  unfold AccountWorld.step
  cases hw : w.phase k <;> rw [hw] at hphase
  case waiting => exact h.read _ hphase
  case updating => exact h.updateProfile _ hphase
  case syncing => exact h.callGateway user time hphase
  case confirming => exact h.confirm _ hphase
  case returned =>
    -- a request that has ended stays as it is
    obtain ⟨r, hr⟩ := hphase
    unfold AccountPool.step
    rw [Pool.step_done hr]
    exact h
  case failed e =>
    have hr : pool.dialogues k = .done (.error (.account e)) := hphase
    unfold AccountPool.step
    rw [Pool.step_done hr]
    exact h

/-- **The machine of one teacher is the service**: the same requests in the same order leave the
profile, the ban and every request where the machine has them. -/
theorem run_simulates {p : ProfileRecord} (hids : (d.profiles.map (·.id)).Nodup) (hp : p ∈ d.profiles)
    (hrole : p.role = .teacher) (requests : Nat → AccountAction) (user : AuthUser) (time : Time)
    (ks : List Nat) :
    Simulates p.id requests
      (Runs.run AccountPool.step ⟨d, fun k => dialogueOf p.id (requests k)⟩
        (ks.map fun k => .answer k (obedient user time (requests k))))
      (Runs.run (AccountWorld.step requests) (AccountWorld.start p.status (d.banned p.id)) ks) := by
  have hstart : Simulates p.id requests ⟨d, fun k => dialogueOf p.id (requests k)⟩
      (AccountWorld.start p.status (d.banned p.id)) :=
    ⟨⟨hids, ⟨p, hp, rfl, hrole, rfl⟩, rfl⟩, fun _ => rfl⟩
  generalize (⟨d, fun k => dialogueOf p.id (requests k)⟩ : AccountPool) = pool at hstart ⊢
  generalize AccountWorld.start p.status (d.banned p.id) = w at hstart ⊢
  induction ks generalizing pool w with
  | nil => exact hstart
  | cons k ks ih => exact ih _ _ (hstart.step user time k)

end AccountWorld

namespace Sample

open AccountWorld

def invitedUser : AuthUser := ⟨7, "teacher@example.edu", some 1, none, none⟩

def oneTeacher : Directory := ⟨[⟨7, "教师", .teacher, .active⟩], fun _ => false⟩

theorem disable_then_enable_simulated : Simulates 7 disableThenEnable
    (Runs.run AccountPool.step ⟨oneTeacher, fun k => dialogueOf 7 (disableThenEnable k)⟩
      ([0, 0, 0, 0, 1, 1, 1, 1].map fun k => .answer k (obedient invitedUser 2 (disableThenEnable k))))
    (Runs.run (AccountWorld.step disableThenEnable) (AccountWorld.start .active false)
      [0, 0, 0, 0, 1, 1, 1, 1]) :=
  run_simulates (d := oneTeacher) (p := ⟨7, "教师", .teacher, .active⟩) (by decide) (by decide) rfl
    disableThenEnable invitedUser 2 [0, 0, 0, 0, 1, 1, 1, 1]

end Sample

end PaperGrading
