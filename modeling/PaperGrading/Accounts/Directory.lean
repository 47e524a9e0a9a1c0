import PaperGrading.Accounts.Service
import PaperGrading.Base.Checks
import PaperGrading.Base.Pool
import PaperGrading.Base.Table
import PaperGrading.Domain.Values

/-!
# The accounts

`AccountService` over all accounts: any number of requests of every kind, one statement or one call
of the Auth gateway at a time, whatever the gateway answers and whether or not it does what it is
asked.  The trigger on `auth.users` creates the profiles.

    at every time there is at most one administrator, whose profile is open and whose account the
    service has not banned, and who stays administrator                     (after_administered)
    all bootstraps that succeed name this administrator
-/

namespace PaperGrading

open Table

/-! ## Records -/

/-- A row of `profiles`. -/
structure ProfileRecord where
  id : Uuid
  displayName : String
  role : ProfileRole
  status : ProfileStatus
  deriving DecidableEq

structure AuthUser where
  id : Uuid
  email : String
  invitedAt : Option Time
  lastSignInAt : Option Time
  bannedUntil : Option Time

structure CurrentAccount where
  id : Uuid
  email : String
  displayName : String
  role : ProfileRole
  status : ProfileStatus

structure TeacherAccount where
  id : Uuid
  email : String
  displayName : String
  status : ProfileStatus
  invitedAt : Option Time

inductive DirectoryError where
  | account (e : AccountError)
  /-- `SupabaseAuthError` -/
  | auth (message : String)
  /-- `IntegrityError` of the database -/
  | integrity

/-- What a request returns. -/
inductive AccountResult where
  | teachers (accounts : List TeacherAccount)
  | bootstrapped (account : CurrentAccount)
  | invited (account : TeacherAccount)
  | completed (profile : ProfileRecord)
  | disabled (profile : ProfileRecord)
  | enabled (profile : ProfileRecord)

/-! ## The service -/

/-- A statement on `profiles` or a call of the gateway. -/
inductive AccountQuery where
  | getById (userId : Uuid)
  | getAdmin
  | listByIds (userIds : List Uuid)
  | activateInvited (userId : Uuid)
  | disableActive (userId : Uuid)
  | enableDisabled (userId : Uuid)
  | promoteInvitedToAdmin (userId : Uuid) (displayName : String)
  /-- all pages of `list_users` -/
  | listAllAuthUsers
  | inviteTeacher (email displayName : String)
  | disableUser (userId : Uuid)
  | enableUser (userId : Uuid)

def AccountQuery.Answer : AccountQuery → Type
  | .getById _ | .getAdmin => Option ProfileRecord
  | .listByIds _ => List ProfileRecord
  | .activateInvited _ | .disableActive _ | .enableDisabled _ => Bool
  | .promoteInvitedToAdmin .. => Except DirectoryError Bool
  | .listAllAuthUsers => Except DirectoryError (List AuthUser)
  | .inviteTeacher .. | .disableUser _ | .enableUser _ => Except DirectoryError AuthUser

abbrev AccountDialogue : Type :=
  Dialogue AccountQuery AccountQuery.Answer (Except DirectoryError AccountResult)

namespace AccountService

variable (env : Runtime) (lower : String → String)

def stateError (message : String) : AccountDialogue := .done (.error (.account (.state message)))

def syncError (message : String) : AccountDialogue := .done (.error (.account (.sync message)))

def returning (r : AccountResult) : AccountDialogue := .done (.ok r)

def listTeachers : AccountDialogue :=
  .ask .listAllAuthUsers fun
    | .error e => .done (.error e)
    | .ok authUsers => .ask (.listByIds (authUsers.map (·.id))) fun (profiles : List ProfileRecord) =>
      returning <| .teachers <| authUsers.filterMap fun user => do
        let profile ← profiles.find? (·.id == user.id)
        if profile.role ≠ .teacher then none
        else some ⟨user.id, user.email, profile.displayName, profile.status, user.invitedAt⟩

/-- The end of `bootstrap_admin`: the invited account is promoted. -/
def promoteInvited (authUser : AuthUser) (normalizedName : String) : AccountDialogue :=
  let refused := stateError "管理员必须来自尚未激活的 Supabase 邀请"
  let failed := syncError "总管理员引导失败"
  .ask (.getById authUser.id) fun
    | none => refused
    | some profile =>
      if profile.role ≠ .teacher ∨ profile.status ≠ .invited ∨ authUser.invitedAt = none ∨
          authUser.lastSignInAt ≠ none then refused
      else .ask (.promoteInvitedToAdmin authUser.id normalizedName) fun
        | .error e => .done (.error e)
        | .ok changed => .ask (.getById authUser.id) fun
          | none => failed
          | some promoted =>
            if changed = false ∨ promoted.role ≠ .admin ∨ promoted.status ≠ .active then failed
            else returning (.bootstrapped
              ⟨promoted.id, authUser.email, promoted.displayName, .admin, .active⟩)

def bootstrapAdmin (email displayName : String) : AccountDialogue :=
  let normalizedEmail := lower (env.strip email)
  let normalizedName := env.strip displayName
  .ask .getAdmin fun (existingAdmin : Option ProfileRecord) => .ask .listAllAuthUsers fun
    | .error e => .done (.error e)
    | .ok authUsers =>
      match existingAdmin, authUsers.filter fun user => lower user.email == normalizedEmail with
      | some admin, [user] =>
        if admin.id ≠ user.id ∨ admin.status ≠ .active then stateError "系统已经存在其他总管理员"
        else returning (.bootstrapped ⟨admin.id, user.email, admin.displayName, .admin, .active⟩)
      | some _, _ => stateError "系统已经存在其他总管理员"
      | none, [] => .ask (.inviteTeacher normalizedEmail normalizedName) fun
        | .error e => .done (.error e)
        | .ok user => promoteInvited user normalizedName
      | none, [user] => promoteInvited user normalizedName
      | none, _ => syncError "Supabase Auth 存在重复管理员邮箱"

def inviteTeacher (email displayName : String) : AccountDialogue :=
  let normalizedEmail := lower (env.strip email)
  let normalizedName := env.strip displayName
  .ask .listAllAuthUsers fun
    | .error e => .done (.error e)
    | .ok existingUsers =>
      if existingUsers.any fun user => lower user.email == normalizedEmail then stateError "邮箱已经存在"
      else .ask (.inviteTeacher normalizedEmail normalizedName) fun
        | .error e => .done (.error e)
        | .ok user => .ask (.getById user.id) fun
          | none => syncError "邀请账户未生成匹配的 teacher profile"
          | some profile =>
            if profile.role ≠ .teacher ∨ profile.status ≠ .invited ∨
                profile.displayName ≠ normalizedName then
              syncError "邀请账户未生成匹配的 teacher profile"
            else returning (.invited
              ⟨user.id, user.email, profile.displayName, profile.status, user.invitedAt⟩)

def completeInvite (userId : Uuid) : AccountDialogue :=
  .ask (.getById userId) fun
    | none => stateError "账户不能完成教师邀请"
    | some profile =>
      if profile.role = .admin ∧ profile.status = .active then returning (.completed profile)
      else if profile.role ≠ .teacher then stateError "账户不能完成教师邀请"
      else if profile.status = .active then returning (.completed profile)
      else if profile.status ≠ .invited then stateError "账户不能完成教师邀请"
      else .ask (.activateInvited profile.id) fun (changed : Bool) => .ask (.getById profile.id) fun
        | none => stateError "教师邀请状态转换失败"
        | some activated =>
          if changed = false ∨ activated.status ≠ .active then stateError "教师邀请状态转换失败"
          else returning (.completed activated)

/-! `disable_teacher`, from its end to its beginning. -/

def confirmDisabled (userId : Uuid) : AccountDialogue :=
  .ask (.getById userId) fun
    | none => stateError "教师账户停用失败"
    | some disabled =>
      if disabled.status ≠ .disabled then stateError "教师账户停用失败" else returning (.disabled disabled)

def banUser (userId : Uuid) : AccountDialogue :=
  .ask (.disableUser userId) fun
    | .error e => .done (.error e)
    | .ok authUser =>
      if authUser.bannedUntil = none then syncError "Supabase Auth 未确认账户封禁"
      else confirmDisabled userId

def closeProfile (userId : Uuid) : AccountDialogue :=
  .ask (.disableActive userId) fun
    | false => stateError "教师账户状态已变化"
    | true => banUser userId

def disableTeacher (userId : Uuid) : AccountDialogue :=
  .ask (.getById userId) fun
    | none => stateError "只有正常教师账户可以停用"
    | some profile =>
      if profile.role ≠ .teacher ∨ profile.status = .invited then stateError "只有正常教师账户可以停用"
      else if profile.status = .active then closeProfile userId
      else banUser userId

/-! `enable_teacher`. -/

def confirmEnabled (userId : Uuid) : AccountDialogue :=
  .ask (.getById userId) fun
    | none => stateError "教师账户启用失败"
    | some enabled =>
      if enabled.status ≠ .active then stateError "教师账户启用失败" else returning (.enabled enabled)

def openProfile (userId : Uuid) : AccountDialogue :=
  .ask (.enableDisabled userId) fun
    | false => stateError "教师账户状态已变化"
    | true => confirmEnabled userId

def liftBan (userId : Uuid) : AccountDialogue :=
  .ask (.enableUser userId) fun
    | .error e => .done (.error e)
    | .ok authUser =>
      if authUser.bannedUntil ≠ none then syncError "Supabase Auth 未确认解除封禁"
      else openProfile userId

def enableTeacher (userId : Uuid) : AccountDialogue :=
  .ask (.getById userId) fun
    | none => stateError "只有已停用教师账户可以启用"
    | some profile =>
      if profile.role ≠ .teacher ∨ profile.status ≠ .disabled then stateError "只有已停用教师账户可以启用"
      else liftBan userId

end AccountService

/-- A request, or the bootstrap command. -/
inductive AccountRequest where
  | listTeachers
  | bootstrapAdmin (email displayName : String)
  | inviteTeacher (email displayName : String)
  | completeInvite (userId : Uuid)
  | disableTeacher (userId : Uuid)
  | enableTeacher (userId : Uuid)

def AccountRequest.dialogue (env : Runtime) (lower : String → String) : AccountRequest → AccountDialogue
  | .listTeachers => AccountService.listTeachers
  | .bootstrapAdmin email displayName => AccountService.bootstrapAdmin env lower email displayName
  | .inviteTeacher email displayName => AccountService.inviteTeacher env lower email displayName
  | .completeInvite userId => AccountService.completeInvite userId
  | .disableTeacher userId => AccountService.disableTeacher userId
  | .enableTeacher userId => AccountService.enableTeacher userId

/-! ## The two stores -/

/-- `btrim(s)`. -/
def btrim (s : String) : String :=
  String.ofList ((s.toList.dropWhile (· == ' ')).reverse.dropWhile (· == ' ')).reverse

/-- The profiles, and the accounts that the service has had banned. -/
structure Directory where
  profiles : List ProfileRecord
  banned : Uuid → Bool

/-- What the gateway does at a turn: what it answers, which account it creates, and whether a ban or
its lifting takes effect. -/
structure GatewayTurn where
  users : Except DirectoryError (List AuthUser)
  user : Except DirectoryError AuthUser
  created : Option Uuid
  takesEffect : Bool

namespace Directory

/-- `paper_grading_create_invited_teacher`; it fails with a blank name or for a known account. -/
def createInvitedTeacher (d : Directory) (id : Uuid) (displayName : String) : Directory :=
  if btrim displayName = "" ∨ d.profiles.any (·.id == id) then d
  else { d with profiles := d.profiles ++ [⟨id, btrim displayName, .teacher, .invited⟩] }

/-- The rows that a statement of the service hits. -/
def hits (userId : Uuid) (status : ProfileStatus) (p : ProfileRecord) : Bool :=
  p.id == userId && p.status == status && p.role == .teacher

/-- `UPDATE profiles SET … WHERE … RETURNING id`. -/
def update (d : Directory) (userId : Uuid) (status : ProfileStatus)
    (set : ProfileRecord → ProfileRecord) : Bool × Directory :=
  (d.profiles.any (hits userId status),
    { d with profiles := setWhere (hits userId status) set d.profiles })

def promote (displayName : String) (p : ProfileRecord) : ProfileRecord :=
  { p with role := .admin, status := .active, displayName }

/-- `promote_invited_to_admin`, under `profiles_single_admin_idx` and `profiles_display_name_check`. -/
def promoteInvitedToAdmin (d : Directory) (userId : Uuid) (displayName : String) :
    Except DirectoryError Bool × Directory :=
  if d.profiles.any (hits userId .invited) ∧
      (d.profiles.any (·.role == .admin) ∨ btrim displayName = "") then (.error .integrity, d)
  else
    let (changed, d) := d.update userId .invited (promote displayName)
    (.ok changed, d)

/-- A statement or a call of the gateway is answered. -/
def answer (turn : GatewayTurn) : Dialogue.Handler AccountQuery AccountQuery.Answer Directory
  | .getById userId, d => (d.profiles.find? (·.id == userId), d)
  | .getAdmin, d => (d.profiles.find? (·.role == .admin), d)
  | .listByIds userIds, d => (d.profiles.filter (userIds.contains ·.id), d)
  | .activateInvited userId, d => d.update userId .invited fun p => { p with status := .active }
  | .disableActive userId, d => d.update userId .active fun p => { p with status := .disabled }
  | .enableDisabled userId, d => d.update userId .disabled fun p => { p with status := .active }
  | .promoteInvitedToAdmin userId displayName, d => d.promoteInvitedToAdmin userId displayName
  | .listAllAuthUsers, d => (turn.users, d)
  | .inviteTeacher _ displayName, d => (turn.user,
    match turn.created with
    | some id => d.createInvitedTeacher id displayName
    | none => d)
  | .disableUser userId, d => (turn.user,
    if turn.takesEffect then { d with banned := Function.update d.banned userId true } else d)
  | .enableUser userId, d => (turn.user,
    if turn.takesEffect then { d with banned := Function.update d.banned userId false } else d)

/-- An invitation that is not the service's. -/
def invitedElsewhere (d : Directory) (invitation : Uuid × String) : Directory :=
  d.createInvitedTeacher invitation.1 invitation.2

end Directory

/-! ## Access -/

/-- The identity behind a token. -/
structure AuthIdentity where
  id : Uuid
  email : String

inductive AccessError where
  | authenticationRequired
  | invalidSession
  | profileMissing
  | accountDisabled
  | adminRequired
  deriving DecidableEq

/-- The code of the response. -/
def AccessError.code : AccessError → Nat × String × String
  | .authenticationRequired => (401, "authentication_required", "需要登录")
  | .invalidSession => (401, "invalid_session", "登录已失效")
  | .profileMissing => (403, "profile_missing", "账户未完成配置")
  | .accountDisabled => (403, "account_disabled", "账户已停用")
  | .adminRequired => (403, "admin_required", "需要管理员权限")

/-- `get_current_account`: `credentials` are the verified identity of the bearer token, if there is one. -/
def getCurrentAccount (d : Directory) (credentials : Option (Option AuthIdentity)) :
    Except AccessError CurrentAccount :=
  match credentials with
  | none => .error .authenticationRequired
  | some none => .error .invalidSession
  | some (some identity) =>
    match d.profiles.find? (·.id == identity.id) with
    | none => .error .profileMissing
    | some profile =>
      if profile.status = .disabled then .error .accountDisabled
      else .ok ⟨profile.id, identity.email, profile.displayName, profile.role, profile.status⟩

def requireAdmin (account : CurrentAccount) : Except AccessError CurrentAccount :=
  if account.role ≠ .admin ∨ account.status ≠ .active then .error .adminRequired else .ok account

/-! ## What the requests learn -/

inductive AccountFact where
  /-- a teacher who has accepted the invitation -/
  | settled (id : Uuid)
  | admin (id : Uuid)

namespace Directory

def Holds (d : Directory) : AccountFact → Prop
  | .settled id => ∃ p ∈ d.profiles, p.id = id ∧ p.role = .teacher ∧ p.status ≠ .invited
  | .admin id => ∃ p ∈ d.profiles, p.id = id ∧ p.role = .admin

/-- Only the account of a settled teacher is banned. -/
def contract : Contract AccountQuery AccountQuery.Answer AccountFact where
  may
    | known, .disableUser userId => known (.settled userId)
    | _, _ => True
  learned
    | .getById userId, some p, .settled id => id = userId ∧ p.role = .teacher ∧ p.status ≠ .invited
    | .getById _, some p, .admin id => id = p.id ∧ p.role = .admin
    | .getAdmin, some p, .admin id => id = p.id
    | _, _, _ => False

/-- A bootstrap names the administrator. -/
def Justified (known : AccountFact → Prop) : Except DirectoryError AccountResult → Prop
  | .ok (.bootstrapped account) => known (.admin account.id)
  | .ok (.completed profile) => profile.status = .active
  | .ok (.disabled profile) => profile.status = .disabled
  | .ok (.enabled profile) => profile.status = .active
  | _ => True

/-- What holds of the two stores at every time. -/
structure Governed (d : Directory) : Prop where
  ids : (d.profiles.map (·.id)).Nodup
  single : ∀ p ∈ d.profiles, ∀ q ∈ d.profiles, p.role = .admin → q.role = .admin → p = q
  active : ∀ p ∈ d.profiles, p.role = .admin → p.status = .active
  /-- only settled teachers are banned -/
  banned : ∀ id, d.banned id = true → d.Holds (.settled id)

/-! ## One turn -/

/-- What a turn may do to the two stores; `mayBan` are the accounts whose ban is asked for. -/
inductive Change (mayBan : Uuid → Prop) (d : Directory) : Directory → Prop where
  | same : Change mayBan d d
  | invited (id : Uuid) (displayName : String) (h : ∀ p ∈ d.profiles, p.id ≠ id) :
    Change mayBan d { d with profiles := d.profiles ++ [⟨id, displayName, .teacher, .invited⟩] }
  | status (id : Uuid) (before after : ProfileStatus) (h : after ≠ .invited) :
    Change mayBan d { d with
      profiles := setWhere (hits id before) (fun p => { p with status := after }) d.profiles }
  | promoted (id : Uuid) (displayName : String) (h : ∀ p ∈ d.profiles, p.role ≠ .admin) :
    Change mayBan d { d with
      profiles := setWhere (hits id .invited) (promote displayName) d.profiles }
  | banned (id : Uuid) (h : mayBan id) :
    Change mayBan d { d with banned := Function.update d.banned id true }
  | unbanned (id : Uuid) : Change mayBan d { d with banned := Function.update d.banned id false }

variable {d d' : Directory} {mayBan : Uuid → Prop}

theorem createInvitedTeacher_change (id : Uuid) (displayName : String) :
    Change mayBan d (d.createInvitedTeacher id displayName) := by
  unfold createInvitedTeacher
  split
  · exact .same
  next h =>
    refine .invited id _ fun p hp he => h (.inr ?_)
    exact List.any_eq_true.2 ⟨p, hp, beq_iff_eq.2 he⟩

theorem promoteInvitedToAdmin_change (userId : Uuid) (displayName : String) :
    Change mayBan d (d.promoteInvitedToAdmin userId displayName).2 := by
  unfold promoteInvitedToAdmin
  split
  · exact .same
  next h =>
    show Change mayBan d { d with profiles := setWhere _ _ d.profiles }
    by_cases hhit : d.profiles.any (hits userId .invited) = true
    · refine .promoted userId displayName fun p hp hrole => h ⟨hhit, .inl ?_⟩
      exact List.any_eq_true.2 ⟨p, hp, beq_iff_eq.2 hrole⟩
    · -- no row is hit
      rw [setWhere_of_forall_false fun p hp => by
        simpa using fun hh => hhit (List.any_eq_true.2 ⟨p, hp, hh⟩)]
      exact .same

/-- **What a query does** to the two stores. -/
theorem answer_change (turn : GatewayTurn) (q : AccountQuery) (d : Directory) :
    Change (fun id => q = .disableUser id) d (answer turn q d).2 := by
  cases q with
  | getById | getAdmin | listByIds | listAllAuthUsers => exact .same
  | activateInvited userId => exact .status userId .invited .active (by simp)
  | disableActive userId => exact .status userId .active .disabled (by simp)
  | enableDisabled userId => exact .status userId .disabled .active (by simp)
  | promoteInvitedToAdmin userId displayName => exact promoteInvitedToAdmin_change userId displayName
  | inviteTeacher email displayName =>
    simp only [answer]
    cases turn.created with
    | none => exact .same
    | some id => exact createInvitedTeacher_change id displayName
  | disableUser userId =>
    simp only [answer]
    split
    · exact .banned userId rfl
    · exact .same
  | enableUser userId =>
    simp only [answer]
    split
    · exact .unbanned userId
    · exact .same

/-! ## What a turn keeps -/

theorem hits_iff {id : Uuid} {status : ProfileStatus} {p : ProfileRecord} :
    hits id status p = true ↔ p.id = id ∧ p.status = status ∧ p.role = .teacher := by
  simp [hits, and_assoc]

/-- A fact stays true. -/
theorem Change.holds (h : Change mayBan d d') {f : AccountFact} (hf : d.Holds f) : d'.Holds f := by
  cases h with
  | same | banned | unbanned => exact hf
  | invited id displayName =>
    cases f with
    | settled i =>
      obtain ⟨p, hp, hpi⟩ := hf
      exact ⟨p, List.mem_append_left _ hp, hpi⟩
    | admin i =>
      obtain ⟨p, hp, hpi⟩ := hf
      exact ⟨p, List.mem_append_left _ hp, hpi⟩
  | status id before after hafter =>
    cases f with
    | settled i =>
      obtain ⟨p, hp, hpi, hrole, hstatus⟩ := hf
      by_cases hh : hits id before p = true
      · exact ⟨_, mem_setWhere.2 (.inl ⟨p, hp, hh, rfl⟩), hpi, hrole, hafter⟩
      · exact ⟨p, mem_setWhere.2 (.inr ⟨hp, by simpa using hh⟩), hpi, hrole, hstatus⟩
    | admin i =>
      obtain ⟨p, hp, hpi, hrole⟩ := hf
      by_cases hh : hits id before p = true
      · exact ⟨_, mem_setWhere.2 (.inl ⟨p, hp, hh, rfl⟩), hpi, hrole⟩
      · exact ⟨p, mem_setWhere.2 (.inr ⟨hp, by simpa using hh⟩), hpi, hrole⟩
  | promoted id displayName =>
    have hkept {p : ProfileRecord} (hp : p ∈ d.profiles) (hne : ¬hits id .invited p = true) :
        p ∈ setWhere (hits id .invited) (promote displayName) d.profiles :=
      mem_setWhere.2 (.inr ⟨hp, by simpa using hne⟩)
    cases f with
    | settled i =>
      obtain ⟨p, hp, hpi, hrole, hstatus⟩ := hf
      exact ⟨p, hkept hp fun hh => hstatus (hits_iff.1 hh).2.1, hpi, hrole, hstatus⟩
    | admin i =>
      obtain ⟨p, hp, hpi, hrole⟩ := hf
      exact ⟨p, hkept hp fun hh => by simp [(hits_iff.1 hh).2.2] at hrole, hpi, hrole⟩

/-- A profile that has become another one's status stays no administrator's. -/
theorem mem_status {id : Uuid} {before after : ProfileStatus} {p : ProfileRecord}
    (hp : p ∈ setWhere (hits id before) (fun p => { p with status := after }) d.profiles)
    (hrole : p.role = .admin) : p ∈ d.profiles := by
  rcases mem_setWhere.1 hp with ⟨r, -, hhit, rfl⟩ | ⟨hp, -⟩
  · have hteacher : r.role = .teacher := (hits_iff.1 hhit).2.2
    rw [show r.role = .admin from hrole] at hteacher
    cases hteacher
  · exact hp

/-- The first administrator is the one that has been promoted. -/
theorem mem_promoted {id : Uuid} {displayName : String} (hnone : ∀ p ∈ d.profiles, p.role ≠ .admin)
    {p : ProfileRecord} (hp : p ∈ setWhere (hits id .invited) (promote displayName) d.profiles)
    (hrole : p.role = .admin) : ∃ r ∈ d.profiles, r.id = id ∧ p = promote displayName r := by
  rcases mem_setWhere.1 hp with ⟨r, hr, hhit, rfl⟩ | ⟨hp, -⟩
  · exact ⟨r, hr, (hits_iff.1 hhit).1, rfl⟩
  · exact absurd hrole (hnone p hp)

theorem Change.governed (h : Change mayBan d d') (hd : Governed d)
    (hban : ∀ id, mayBan id → d.Holds (.settled id)) : Governed d' := by
  -- the bans are those of before, and their facts stay true
  have hbanned {d' : Directory} (h : Change mayBan d d') (hb : d'.banned = d.banned) (id : Uuid)
      (hid : d'.banned id = true) : d'.Holds (.settled id) := h.holds (hd.banned id (hb ▸ hid))
  cases h with
  | same => exact hd
  | invited id displayName hnew =>
    have hold {p : ProfileRecord} (hp : p ∈ d.profiles ++ [⟨id, displayName, .teacher, .invited⟩])
        (hrole : p.role = .admin) : p ∈ d.profiles := by
      rcases List.mem_append.1 hp with hp | hp
      · exact hp
      · rw [List.mem_singleton.1 hp] at hrole
        cases hrole
    refine ⟨?_, fun p hp q hq hpr hqr => hd.single p (hold hp hpr) q (hold hq hqr) hpr hqr,
      fun p hp hpr => hd.active p (hold hp hpr) hpr, hbanned (.invited id displayName hnew) rfl⟩
    rw [List.map_append, List.nodup_append]
    refine ⟨hd.ids, List.nodup_singleton _, fun i hi j hj => ?_⟩
    obtain ⟨p, hp, rfl⟩ := List.mem_map.1 hi
    rw [List.mem_singleton.1 hj]
    exact hnew p hp
  | status id before after hafter =>
    have hids := map_setWhere (·.id) (hits id before) (fun p => { p with status := after }) d.profiles
      fun _ _ _ => rfl
    exact ⟨hids.symm ▸ hd.ids,
      fun p hp q hq hpr hqr => hd.single p (mem_status hp hpr) q (mem_status hq hqr) hpr hqr,
      fun p hp hpr => hd.active p (mem_status hp hpr) hpr, hbanned (.status id before after hafter) rfl⟩
  | promoted id displayName hnone =>
    have hids := map_setWhere (·.id) (hits id .invited) (promote displayName) d.profiles fun _ _ _ => rfl
    refine ⟨hids.symm ▸ hd.ids, fun p hp q hq hpr hqr => ?_, fun p hp hpr => ?_,
      hbanned (.promoted id displayName hnone) rfl⟩
    · obtain ⟨r, hr, hrid, rfl⟩ := mem_promoted hnone hp hpr
      obtain ⟨r', hr', hrid', rfl⟩ := mem_promoted hnone hq hqr
      rw [eq_of_key_eq hd.ids hr hr' (hrid.trans hrid'.symm)]
    · obtain ⟨r, -, -, rfl⟩ := mem_promoted hnone hp hpr
      rfl
  | banned id hmay =>
    refine ⟨hd.ids, hd.single, hd.active, fun i hi => ?_⟩
    by_cases hii : i = id
    · exact hii ▸ hban id hmay
    · exact hd.banned i (by simpa [Function.update_of_ne hii] using hi)
  | unbanned id =>
    refine ⟨hd.ids, hd.single, hd.active, fun i hi => ?_⟩
    by_cases hii : i = id
    · simp [hii] at hi
    · exact hd.banned i (by simpa [Function.update_of_ne hii] using hi)

/-! ## What an answer teaches -/

theorem answer_learns (turn : GatewayTurn) (q : AccountQuery) (d : Directory) {f : AccountFact}
    (hf : contract.learned q (answer turn q d).1 f) : (answer turn q d).2.Holds f := by
  cases q with
  | getById userId =>
    simp only [answer] at hf ⊢
    cases hp : d.profiles.find? (·.id == userId) with
    | none => rw [hp] at hf; cases hf
    | some p =>
      rw [hp] at hf
      have hmem := List.mem_of_find?_eq_some hp
      have hid : p.id = userId := by simpa using List.find?_some hp
      cases f with
      | settled id =>
        obtain ⟨rfl, hrole, hstatus⟩ := hf
        exact ⟨p, hmem, hid, hrole, hstatus⟩
      | admin id =>
        obtain ⟨rfl, hrole⟩ := hf
        exact ⟨p, hmem, rfl, hrole⟩
  | getAdmin =>
    simp only [answer] at hf ⊢
    cases hp : d.profiles.find? (·.role == .admin) with
    | none => rw [hp] at hf; cases hf
    | some p =>
      rw [hp] at hf
      have hrole : p.role = .admin := by simpa using List.find?_some hp
      cases f with
      | settled id => cases hf
      | admin id =>
        obtain rfl : id = p.id := hf
        exact ⟨p, List.mem_of_find?_eq_some hp, rfl, hrole⟩
  | _ => cases hf

theorem invitedElsewhere_change (invitation : Uuid × String) (d : Directory) :
    Change (fun _ => False) d (d.invitedElsewhere invitation) :=
  createInvitedTeacher_change invitation.1 invitation.2

theorem sound : Pool.Sound contract answer (fun i d => d.invitedElsewhere i) Governed Holds where
  kept turn q d known hd htrue hmay := by
    refine (answer_change turn q d).governed hd ?_
    rintro id rfl
    exact htrue _ hmay
  learns turn q d f _ hf := answer_learns turn q d hf
  stable turn q d f _ hf := (answer_change turn q d).holds hf
  outside_kept invitation d hd := (invitedElsewhere_change invitation d).governed hd fun _ h => h.elim
  outside_stable invitation d _ _ hf := (invitedElsewhere_change invitation d).holds hf

end Directory

/-! ## What the requests ask and conclude -/

namespace AccountService

open Directory

variable {env : Runtime} {lower : String → String} {known : AccountFact → Prop}

theorem promoteInvited_keeps (authUser : AuthUser) (normalizedName : String) :
    contract.Keeps Justified known (promoteInvited authUser normalizedName) := by
  refine ⟨trivial, fun profile => ?_⟩
  cases profile with
  | none => exact trivial
  | some profile =>
    simp only
    split
    · exact trivial
    refine ⟨trivial, fun changed => ?_⟩
    cases changed with
    | error e => exact trivial
    | ok changed =>
      refine ⟨trivial, fun promoted => ?_⟩
      cases promoted with
      | none => exact trivial
      | some promoted =>
        simp only
        split
        · exact trivial
        next h => exact .inr ⟨rfl, by_contra fun hne => h (.inr (.inl hne))⟩

theorem bootstrapAdmin_keeps (email displayName : String) :
    contract.Keeps Justified known (bootstrapAdmin env lower email displayName) := by
  refine ⟨trivial, fun existingAdmin => ⟨trivial, fun listed => ?_⟩⟩
  cases listed with
  | error e => exact trivial
  | ok authUsers =>
    simp only
    split
    · split
      · exact trivial
      · exact .inl (.inr rfl)
    · exact trivial
    · refine ⟨trivial, fun invited => ?_⟩
      cases invited with
      | error e => exact trivial
      | ok user => exact promoteInvited_keeps user _
    · exact promoteInvited_keeps _ _
    · exact trivial

theorem listTeachers_keeps : contract.Keeps Justified known listTeachers := by
  refine ⟨trivial, fun listed => ?_⟩
  cases listed with
  | error e => exact trivial
  | ok authUsers => exact ⟨trivial, fun _ => trivial⟩

theorem inviteTeacher_keeps (email displayName : String) :
    contract.Keeps Justified known (inviteTeacher env lower email displayName) := by
  refine ⟨trivial, fun listed => ?_⟩
  cases listed with
  | error e => exact trivial
  | ok existingUsers =>
    simp only
    split
    · exact trivial
    refine ⟨trivial, fun invited => ?_⟩
    cases invited with
    | error e => exact trivial
    | ok user =>
      refine ⟨trivial, fun profile => ?_⟩
      cases profile with
      | none => exact trivial
      | some profile =>
        simp only
        split <;> exact trivial

theorem completeInvite_keeps (userId : Uuid) : contract.Keeps Justified known (completeInvite userId) := by
  refine ⟨trivial, fun profile => ?_⟩
  cases profile with
  | none => exact trivial
  | some profile =>
    simp only
    split
    next h => exact h.2
    split
    · exact trivial
    split
    next h => exact h
    split
    · exact trivial
    refine ⟨trivial, fun changed => ⟨trivial, fun activated => ?_⟩⟩
    cases activated with
    | none => exact trivial
    | some activated =>
      simp only
      split
      · exact trivial
      next h => exact by_contra fun hne => h (.inr hne)

/-- The account is one of a settled teacher. -/
theorem banUser_keeps {userId : Uuid} (h : known (.settled userId)) :
    contract.Keeps Justified known (banUser userId) := by
  refine ⟨h, fun banned => ?_⟩
  cases banned with
  | error e => exact trivial
  | ok authUser =>
    simp only
    split
    · exact trivial
    refine ⟨trivial, fun disabled => ?_⟩
    cases disabled with
    | none => exact trivial
    | some disabled =>
      simp only
      split
      · exact trivial
      next h => exact not_not.1 h

theorem disableTeacher_keeps (userId : Uuid) : contract.Keeps Justified known (disableTeacher userId) := by
  refine ⟨trivial, fun profile => ?_⟩
  cases profile with
  | none => exact trivial
  | some profile =>
    simp only
    split
    · exact trivial
    next h =>
      -- the profile that has been read is one of a settled teacher
      have hsettled : profile.role = .teacher ∧ profile.status ≠ .invited := by
        rw [not_or, not_not] at h
        exact h
      split
      · refine ⟨trivial, fun changed => ?_⟩
        cases changed with
        | false => exact trivial
        | true => exact banUser_keeps (.inl (.inr ⟨rfl, hsettled⟩))
      · exact banUser_keeps (.inr ⟨rfl, hsettled⟩)

theorem enableTeacher_keeps (userId : Uuid) : contract.Keeps Justified known (enableTeacher userId) := by
  refine ⟨trivial, fun profile => ?_⟩
  cases profile with
  | none => exact trivial
  | some profile =>
    simp only
    split
    · exact trivial
    refine ⟨trivial, fun unbanned => ?_⟩
    cases unbanned with
    | error e => exact trivial
    | ok authUser =>
      simp only
      split
      · exact trivial
      refine ⟨trivial, fun changed => ?_⟩
      cases changed with
      | false => exact trivial
      | true =>
        refine ⟨trivial, fun enabled => ?_⟩
        cases enabled with
        | none => exact trivial
        | some enabled =>
          simp only
          split
          · exact trivial
          next h => exact not_not.1 h

end AccountService

theorem AccountRequest.keeps (env : Runtime) (lower : String → String) (request : AccountRequest) :
    Directory.contract.Keeps Directory.Justified (fun _ => False) (request.dialogue env lower) := by
  cases request with
  | listTeachers => exact AccountService.listTeachers_keeps
  | bootstrapAdmin email displayName => exact AccountService.bootstrapAdmin_keeps email displayName
  | inviteTeacher email displayName => exact AccountService.inviteTeacher_keeps email displayName
  | completeInvite userId => exact AccountService.completeInvite_keeps userId
  | disableTeacher userId => exact AccountService.disableTeacher_keeps userId
  | enableTeacher userId => exact AccountService.enableTeacher_keeps userId

/-! ## Every run -/

/-- The requests, each with a number, over the two stores. -/
abbrev AccountPool : Type :=
  Pool Nat AccountQuery AccountQuery.Answer (Except DirectoryError AccountResult) Directory

abbrev AccountTurn : Type := Pool.Turn Nat GatewayTurn (Uuid × String)

namespace AccountPool

def step (w : AccountPool) (turn : AccountTurn) : AccountPool :=
  Pool.step Directory.answer (fun invitation d => d.invitedElsewhere invitation) w turn

/-- No account, and the requests that will come. -/
def start (env : Runtime) (lower : String → String) (requests : Nat → AccountRequest) : AccountPool :=
  ⟨⟨[], fun _ => false⟩, fun k => (requests k).dialogue env lower⟩

def after (env : Runtime) (lower : String → String) (requests : Nat → AccountRequest)
    (turns : List AccountTurn) : AccountPool :=
  Runs.run step (start env lower requests) turns

/-- Request `k` has been answered with the account of a bootstrap. -/
def Bootstrapped (w : AccountPool) (k : Nat) (account : CurrentAccount) : Prop :=
  w.dialogues k = .done (.ok (.bootstrapped account))

/-- The turn is the statement with which a request opens this profile again. -/
def Opens (w : AccountPool) (id : Uuid) (turn : AccountTurn) : Prop :=
  ∃ k input next, turn = .answer k input ∧ w.dialogues k = .ask (.enableDisabled id) next

/-- There is one administrator at most, whom no request takes the account from, and a disabled teacher
stays disabled. -/
structure Administered (w : AccountPool) : Prop where
  single : ∀ p ∈ w.state.profiles, ∀ q ∈ w.state.profiles, p.role = .admin → q.role = .admin → p = q
  unbanned : ∀ p ∈ w.state.profiles, p.role = .admin ∨ p.status = .invited →
    w.state.banned p.id = false
  named : ∀ k account, Bootstrapped w k account →
    ∃ p ∈ w.state.profiles, p.id = account.id ∧ p.role = .admin
  agreed : ∀ j k a b, Bootstrapped w j a → Bootstrapped w k b → a.id = b.id
  access : ∀ identity,
    (∃ account, (getCurrentAccount w.state (some (some identity)) >>= requireAdmin) = .ok account) ↔
      ∃ p ∈ w.state.profiles, p.id = identity.id ∧ p.role = .admin
  lasting : ∀ p ∈ w.state.profiles, p.role = .admin → ∀ turns,
    ∃ q ∈ (Runs.run step w turns).state.profiles, q.id = p.id ∧ q.role = .admin
  closed : ∀ p ∈ w.state.profiles, p.status = .disabled → ∀ turns,
    Runs.Guarded step (fun w turn => ¬Opens w p.id turn) w turns →
      p ∈ (Runs.run step w turns).state.profiles

theorem find_profile {d : Directory} (hd : d.Governed) {p : ProfileRecord} (hp : p ∈ d.profiles) :
    d.profiles.find? (·.id == p.id) = some p :=
  find?_eq_some_of_key hd.ids hp _ (beq_self_eq_true _) fun q hq => by simpa using hq

theorem access_admin {d : Directory} (hd : d.Governed) (identity : AuthIdentity) :
    (∃ account, (getCurrentAccount d (some (some identity)) >>= requireAdmin) = .ok account) ↔
      ∃ p ∈ d.profiles, p.id = identity.id ∧ p.role = .admin := by
  constructor
  · rintro ⟨account, h⟩
    obtain ⟨current, hcurrent, hadmin⟩ := bind_eq_ok.1 h
    unfold getCurrentAccount at hcurrent
    cases hf : d.profiles.find? (·.id == identity.id) with
    | none =>
      simp only [hf] at hcurrent
      cases hcurrent
    | some p =>
      simp only [hf] at hcurrent
      split at hcurrent <;> cases hcurrent
      unfold requireAdmin at hadmin
      split at hadmin
      · cases hadmin
      next hrole =>
        exact ⟨p, List.mem_of_find?_eq_some hf, by simpa using List.find?_some hf,
          by_contra fun hne => hrole (.inl hne)⟩
  · rintro ⟨p, hp, hid, hrole⟩
    have hstatus := hd.active p hp hrole
    have hf : d.profiles.find? (·.id == identity.id) = some p := hid ▸ find_profile hd hp
    refine ⟨⟨p.id, identity.email, p.displayName, p.role, p.status⟩, ?_⟩
    simp [getCurrentAccount, requireAdmin, hf, hstatus, hrole, bind, Except.bind]

theorem mem_createInvitedTeacher {d : Directory} {p : ProfileRecord} (hp : p ∈ d.profiles) (id : Uuid)
    (displayName : String) : p ∈ (d.createInvitedTeacher id displayName).profiles := by
  unfold Directory.createInvitedTeacher
  split
  · exact hp
  · exact List.mem_append_left _ hp

/-- Only its own statement opens a disabled profile. -/
theorem answer_closed {d : Directory} {p : ProfileRecord} (hp : p ∈ d.profiles)
    (hstatus : p.status = .disabled) (turn : GatewayTurn) {q : AccountQuery}
    (hq : q ≠ .enableDisabled p.id) : p ∈ (Directory.answer turn q d).2.profiles := by
  have hmissed {id : Uuid} {status : ProfileStatus} {set : ProfileRecord → ProfileRecord}
      (h : id = p.id → status ≠ .disabled) : p ∈ setWhere (Directory.hits id status) set d.profiles := by
    refine mem_setWhere.2 (.inr ⟨hp, Bool.eq_false_iff.2 fun hh => ?_⟩)
    obtain ⟨hid, hs, -⟩ := Directory.hits_iff.1 hh
    exact h hid.symm (hs.symm.trans hstatus)
  cases q with
  | getById | getAdmin | listByIds | listAllAuthUsers => exact hp
  | activateInvited userId => exact hmissed fun _ => by simp
  | disableActive userId => exact hmissed fun _ => by simp
  | enableDisabled userId => exact hmissed fun hid => absurd (hid ▸ rfl) hq
  | promoteInvitedToAdmin userId displayName =>
    simp only [Directory.answer, Directory.promoteInvitedToAdmin]
    split
    · exact hp
    · exact hmissed fun _ => by simp
  | inviteTeacher email displayName =>
    simp only [Directory.answer]
    cases turn.created with
    | none => exact hp
    | some id => exact mem_createInvitedTeacher hp id displayName
  | disableUser userId =>
    simp only [Directory.answer]
    split <;> exact hp
  | enableUser userId =>
    simp only [Directory.answer]
    split <;> exact hp

theorem step_closed {w : AccountPool} {p : ProfileRecord} (hp : p ∈ w.state.profiles)
    (hstatus : p.status = .disabled) {turn : AccountTurn} (hturn : ¬Opens w p.id turn) :
    p ∈ (step w turn).state.profiles := by
  cases turn with
  | outside invitation => exact mem_createInvitedTeacher hp _ _
  | answer k input =>
    unfold step
    cases hk : w.dialogues k with
    | done r => exact (Pool.step_done hk input).symm ▸ hp
    | ask q next =>
      rw [Pool.step_ask hk]
      refine answer_closed hp hstatus input ?_
      rintro rfl
      exact hturn ⟨k, input, next, rfl, hk⟩

/-- **The administrator is safe**, whatever is requested, in any order of the statements, and whatever
the gateway does. -/
theorem after_administered (env : Runtime) (lower : String → String) (requests : Nat → AccountRequest)
    (turns : List AccountTurn) : Administered (after env lower requests turns) := by
  have hempty : Directory.Governed ⟨[], fun _ => false⟩ :=
    ⟨List.nodup_nil, fun _ h => absurd h (by simp), fun _ h => absurd h (by simp), fun _ h => by cases h⟩
  have hup := Pool.run_upheld Directory.sound
    (Pool.upheld_start hempty fun k => (requests k).keeps env lower) turns
  have hgov := hup.inv
  have hnamed (k : Nat) (account : CurrentAccount) (hk : Bootstrapped (after env lower requests turns) k account) :
      ∃ p ∈ (after env lower requests turns).state.profiles, p.id = account.id ∧ p.role = .admin := by
    exact hup.true_of_learned k _ (hup.result hk)
  refine ⟨hgov.single, fun p hp hsafe => ?_, hnamed, fun j k a b ha hb => ?_,
    access_admin hgov, fun p hp hrole turns' => ?_, fun p hp hstatus turns' hguard => ?_⟩
  · refine Bool.eq_false_iff.2 fun hbanned => ?_
    obtain ⟨q, hq, hid, hrole, hstatus⟩ := hgov.banned p.id hbanned
    obtain rfl := eq_of_key_eq hgov.ids hq hp hid
    rcases hsafe with h | h
    · rw [hrole] at h
      cases h
    · exact hstatus h
  · obtain ⟨p, hp, hpa, hprole⟩ := hnamed j a ha
    obtain ⟨q, hq, hqb, hqrole⟩ := hnamed k b hb
    rw [← hpa, ← hqb, hgov.single p hp q hq hprole hqrole]
  · exact Pool.run_stable Directory.sound hup (f := .admin p.id) ⟨p, hp, rfl, hrole⟩ turns'
  · exact Runs.run_invariant_of_guarded (P := fun w : AccountPool => p ∈ w.state.profiles) hp hguard
      fun w turn hw hturn => step_closed hw hstatus hturn

end AccountPool

end PaperGrading
