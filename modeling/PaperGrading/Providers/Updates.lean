import PaperGrading.Providers.Config
import PaperGrading.Store.Commits
import Mathlib.Logic.Function.Basic

/-!
# Two administrators update one provider

Each request reads the row in one transaction and writes all its columns back in
another; in between anything may happen to the store.  The write only asks whether
`config_version` is as it was read, and that version counts changes of the connection
columns alone.

    both writes succeed → every changed field is in the row  ↔
      the later one read the row after the earlier write, or it changes every field outside
      the connection that the earlier one changed; and if the earlier one changed the base
      URL, the later one names it too or finds it in normal form                (run_updates)
-/

namespace PaperGrading

open Table

/-! ## Fields -/

/-- The fields of a payload. -/
inductive ProviderField where
  | providerType | name | baseUrl | apiKey | allowedModels | defaultModel | timeoutSeconds
  | maxConcurrency | monthlyBudget | modelProfiles
  deriving DecidableEq

namespace ProviderField

/-- A change of the field starts a new `config_version`. -/
def isConnection : ProviderField → Bool
  | .name | .maxConcurrency | .monthlyBudget => false
  | _ => true

/-- Two rows have the same value in the field. -/
def Agrees (x y : ProviderConfigUpdateValues) : ProviderField → Prop
  | .providerType => x.connection.providerType = y.connection.providerType
  | .name => x.name = y.name
  | .baseUrl => x.connection.baseUrl = y.connection.baseUrl
  | .apiKey => x.connection.encryptedApiKey = y.connection.encryptedApiKey ∧
      x.connection.apiKeyNonce = y.connection.apiKeyNonce
  | .allowedModels => x.connection.allowedModels = y.connection.allowedModels
  | .defaultModel => x.connection.defaultModel = y.connection.defaultModel
  | .timeoutSeconds => x.connection.timeoutSeconds = y.connection.timeoutSeconds
  | .maxConcurrency => x.maxConcurrency = y.maxConcurrency
  | .monthlyBudget => x.monthlyBudget = y.monthlyBudget
  | .modelProfiles => x.connection.modelProfiles = y.connection.modelProfiles

end ProviderField

/-- The payload names the field. -/
def ProviderConfigUpdate.supplies (p : ProviderConfigUpdate) : ProviderField → Bool
  | .providerType => p.providerType.isSome
  | .name => p.name.isSome
  | .baseUrl => p.baseUrl.isSome
  | .apiKey => p.apiKey.isSome
  | .allowedModels => p.allowedModels.isSome
  | .defaultModel => p.defaultModel.isSome
  | .timeoutSeconds => p.timeoutMillis.isSome
  | .maxConcurrency => p.maxConcurrency.isSome
  | .monthlyBudget => p.monthlyBudget.isSome
  | .modelProfiles => p.modelProfiles.isSome

/-- Who sends a request. -/
inductive Administrator where
  | one | other
  deriving DecidableEq

/-- A write that was reported as a success: the request, the row it read, the columns it wrote,
and how many updates of the provider had succeeded when it read. -/
structure ProviderWrite where
  who : Administrator
  request : UpdateRequest
  current : ProviderConfig
  written : ProviderConfigUpdateValues
  seen : Nat
  deriving DecidableEq

namespace ProviderWrite

/-- The request names the field and gives it another value than it read. -/
def Changes (w : ProviderWrite) (f : ProviderField) : Prop :=
  w.request.payload.supplies f = true ∧ ¬f.Agrees w.current.columns w.written

/-- What two successful updates promise of the row: the changes of the later one, and those of
the earlier one in every other field. -/
def Kept (x y : ProviderWrite) (row : ProviderConfig) : Prop :=
  ∀ f : ProviderField, (y.Changes f → f.Agrees row.columns y.written) ∧
    (x.Changes f → ¬y.Changes f → f.Agrees row.columns x.written)

end ProviderWrite

/-! ## The two requests -/

inductive UpdatePhase where
  | waiting
  /-- the row was read and the columns are ready to be written -/
  | ready (current : ProviderConfig) (values : ProviderConfigUpdateValues) (seen : Nat)
  | failed (error : ProviderUpdateError)
  | updated
  deriving DecidableEq

/-- How many writes the request has to its name. -/
def UpdatePhase.writes : UpdatePhase → Nat
  | .updated => 1
  | _ => 0

structure UpdateWorld where
  store : Store
  phase : Administrator → UpdatePhase
  log : List ProviderWrite

inductive UpdateEvent (env : Runtime) where
  | read (who : Administrator)
  | write (who : Administrator)
  | elsewhere (action : Action env)

namespace UpdateWorld

variable {env : Runtime}

def setPhase (w : UpdateWorld) (who : Administrator) (p : UpdatePhase) : UpdateWorld :=
  { w with phase := Function.update w.phase who p }

/-- The first transaction of `update`. -/
def read (policy : UrlPolicy) (id : Uuid) (q : UpdateRequest) (who : Administrator)
    (w : UpdateWorld) : UpdateWorld :=
  match w.phase who with
  | .waiting =>
    match w.store.providers.find? (·.id == id) with
    | none => w.setPhase who (.failed (.notFound "供应商配置不存在"))
    | some current =>
      match q.values policy current with
      | .error e => w.setPhase who (.failed e)
      | .ok values => w.setPhase who (.ready current values w.log.length)
  | _ => w

/-- The second transaction of `update`. -/
def write (id : Uuid) (q : UpdateRequest) (who : Administrator) (w : UpdateWorld) : UpdateWorld :=
  match w.phase who with
  | .ready current values seen =>
    match w.store.updateProvider id current.configVersion values with
    | .error e => w.setPhase who (.failed (.database e))
    | .ok (false, _) => w.setPhase who (.failed (.state "更新期间供应商配置已变化"))
    | .ok (true, store) =>
      { w.setPhase who .updated with store, log := w.log ++ [⟨who, q, current, values, seen⟩] }
  | _ => w

def step (policy : UrlPolicy) (id : Uuid) (requests : Administrator → UpdateRequest)
    (w : UpdateWorld) : UpdateEvent env → UpdateWorld
  | .read who => w.read policy id (requests who) who
  | .write who => w.write id (requests who) who
  | .elsewhere action => { w with store := Store.step env w.store action }

/-- Both requests are still to come. -/
def start (s : Store) : UpdateWorld := ⟨s, fun _ => .waiting, []⟩

end UpdateWorld

/-! ## What a request writes -/

namespace UpdateRequest

/-- A request that names no base URL and still may write another one than it read: the URL policy
of a compatible provider strips the stored one again. -/
def KeepsBaseUrl (policy : UrlPolicy) (q : UpdateRequest) (current : ProviderConfig) : Prop :=
  q.payload.supplies .baseUrl = true ∨
    q.payload.providerType.getD current.providerType ≠ .openaiCompatible ∨
      ProviderBaseUrlPolicy.normalForm policy.lib current.baseUrl = some current.baseUrl

theorem officialBaseUrl_eq_none {providerType : ProviderType} :
    officialBaseUrl providerType = none ↔ providerType = .openaiCompatible := by
  cases providerType <;> simp [officialBaseUrl]

/-- The base URL of an official provider is the given one, else it is the normal form of that. -/
theorem checkedBaseUrl_eq_ok {policy : UrlPolicy} {q : UpdateRequest} {providerType : ProviderType}
    {baseUrl url : String} (h : q.checkedBaseUrl policy providerType baseUrl = .ok url) :
    (providerType ≠ .openaiCompatible ∧ url = baseUrl) ∨
      (providerType = .openaiCompatible ∧
        ProviderBaseUrlPolicy.normalForm policy.lib baseUrl = some url) := by
  unfold checkedBaseUrl at h
  split at h
  next official hofficial =>
    split at h
    · cases h
      refine .inl ⟨fun hcompatible => ?_, rfl⟩
      rw [officialBaseUrl_eq_none.2 hcompatible] at hofficial
      cases hofficial
    · cases h
  next hnone =>
    split at h
    next validated hvalidated =>
      cases h
      exact .inr ⟨officialBaseUrl_eq_none.1 hnone,
        ProviderBaseUrlPolicy.validate_value hvalidated⟩
    · cases h

/-- What a successful computation of the columns went through. -/
theorem values_eq_ok {policy : UrlPolicy} {q : UpdateRequest} {current : ProviderConfig}
    {written : ProviderConfigUpdateValues} (h : q.values policy current = .ok written) :
    ∃ model key, q.payload.defaultModel.or current.defaultModel = some model ∧
      q.checkedBaseUrl policy (q.payload.providerType.getD current.providerType)
        (q.givenBaseUrl current) = .ok written.connection.baseUrl ∧
      q.sealedKey current = .ok key ∧
      written = {
        connection := {
          providerType := q.payload.providerType.getD current.providerType
          baseUrl := written.connection.baseUrl
          allowedModels := q.payload.allowedModels.getD current.allowedModels
          modelProfiles := q.payload.modelProfiles.getD current.modelProfiles
          encryptedApiKey := some key.1
          apiKeyNonce := some key.2
          defaultModel := some model
          timeoutSeconds :=
            (q.payload.timeoutMillis.map fun n => ⟨false, n, -3⟩).getD current.timeoutSeconds }
        name := q.payload.name.getD current.name
        maxConcurrency := q.payload.maxConcurrency.getD current.maxConcurrency
        monthlyBudget := q.payload.monthlyBudget.getD current.monthlyBudget } := by
  unfold values at h
  simp only at h
  split at h
  · cases h
  next model hmodel =>
    split at h
    · cases h
    split at h
    · cases h
    simp only [bind_eq_ok] at h
    obtain ⟨url, hurl, key, hkey, hret⟩ := h
    cases hret
    exact ⟨model, key, hmodel, hurl, hkey, rfl⟩

/-- A base URL the payload leaves open is written as it was read, if the request keeps it. -/
theorem values_baseUrl {policy : UrlPolicy} {q : UpdateRequest} {current : ProviderConfig}
    {written : ProviderConfigUpdateValues} (h : q.values policy current = .ok written)
    (hs : q.payload.supplies .baseUrl = false) :
    written.connection.baseUrl = current.baseUrl ↔ q.KeepsBaseUrl policy current := by
  obtain ⟨model, key, -, hurl, -⟩ := values_eq_ok h
  have hopen : q.givenBaseUrl current = current.baseUrl := by
    unfold givenBaseUrl
    rw [Option.isSome_eq_false_iff.1 hs |> Option.isNone_iff_eq_none.1]
  rw [hopen] at hurl
  unfold KeepsBaseUrl
  rw [hs]
  rcases checkedBaseUrl_eq_ok hurl with ⟨hofficial, hsame⟩ | ⟨hcompatible, hnormal⟩
  · exact iff_of_true hsame (.inr (.inl hofficial))
  · rw [hnormal, hcompatible]
    simp

/-- A field the payload leaves open is written as it was read; the base URL if the request keeps
it. -/
theorem values_kept {policy : UrlPolicy} {q : UpdateRequest} {current : ProviderConfig}
    {written : ProviderConfigUpdateValues} (h : q.values policy current = .ok written)
    {f : ProviderField} (hf : f = .baseUrl → q.KeepsBaseUrl policy current)
    (hs : q.payload.supplies f = false) : f.Agrees current.columns written := by
  by_cases hbase : f = .baseUrl
  · subst hbase
    exact ((values_baseUrl h hs).2 (hf rfl)).symm
  obtain ⟨model, key, hmodel, -, hkey, hwritten⟩ := values_eq_ok h
  rw [hwritten]
  cases f with
  | baseUrl => exact absurd rfl hbase
  | apiKey =>
    have hnone : q.payload.apiKey = none := by simpa [ProviderConfigUpdate.supplies] using hs
    unfold sealedKey at hkey
    rw [hnone] at hkey
    split at hkey
    · contradiction
    next hk hn =>
      cases hkey
      exact ⟨hk, hn⟩
    · cases hkey
  | defaultModel =>
    have hnone : q.payload.defaultModel = none := by
      simpa [ProviderConfigUpdate.supplies] using hs
    rw [hnone, Option.none_or] at hmodel
    exact hmodel
  | _ =>
    simp only [ProviderConfigUpdate.supplies, Option.isSome_eq_false_iff,
      Option.isNone_iff_eq_none] at hs
    simp [ProviderField.Agrees, ProviderConfig.columns, hs]

end UpdateRequest

/-! ## What a write leaves behind -/

namespace Store

variable {s s' : Store}

/-- The row of a successful update: its columns are the given ones, and its version moves on
exactly if the connection changes. -/
theorem updateProvider_row (hn : (s.providers.map (·.id)).Nodup) {id : Uuid} {version : Nat}
    {values : ProviderConfigUpdateValues} {row : ProviderConfig} (hrow : row ∈ s.providers)
    (hid : row.id = id) (h : s.updateProvider id version values = .ok (true, s')) :
    row.configVersion = version ∧ ∃ row' ∈ s'.providers, row'.id = id ∧ row'.columns = values ∧
      row'.configVersion =
        if values.connection = row.toProviderConnection then version else version + 1 := by
  unfold updateProvider updateMatching at h
  split at h
  next hany =>
    obtain ⟨p, hp, hq⟩ := List.any_eq_true.1 hany
    simp only [Bool.and_eq_true, beq_iff_eq] at hq
    have hsame : p = row := eq_of_key_eq hn hp hrow (hq.1.trans hid.symm)
    rw [hsame] at hq
    unfold updateProviders at h
    simp only [bind_eq_ok, updateWhere_eq_ok] at h
    obtain ⟨s₁, ⟨rows, ⟨rfl, -⟩, _, -, h₁⟩, hret⟩ := h
    cases h₁
    cases hret
    refine ⟨hq.2, _, mem_setWhere.2 (.inl ⟨row, hrow, by simp [hq.1, hq.2], rfl⟩), ?_, ?_, ?_⟩
    · rw [invalidateProviderTest_id]
      exact hid
    · unfold invalidateProviderTest
      split <;> rfl
    · rw [(invalidateProviderTest_version _ _).2, hq.2]
  · cases h

end Store

/-! ## The rows behind the two requests -/

namespace ProviderField

theorem Agrees.of_eq {x y : ProviderConfigUpdateValues} (h : x = y) (f : ProviderField) :
    f.Agrees x y := by
  subst h
  cases f <;> simp [Agrees]

theorem Agrees.symm {x y : ProviderConfigUpdateValues} {f : ProviderField} (h : f.Agrees x y) :
    f.Agrees y x := by
  cases f with
  | apiKey => exact ⟨h.1.symm, h.2.symm⟩
  | _ => exact Eq.symm h

theorem Agrees.trans {x y z : ProviderConfigUpdateValues} {f : ProviderField} (h : f.Agrees x y)
    (h' : f.Agrees y z) : f.Agrees x z := by
  cases f with
  | apiKey => exact ⟨h.1.trans h'.1, h.2.trans h'.2⟩
  | _ => exact Eq.trans h h'

theorem Agrees.of_connection {x y : ProviderConfigUpdateValues} (h : x.connection = y.connection)
    {f : ProviderField} (hf : f.isConnection = true) : f.Agrees x y := by
  cases f <;> simp_all [Agrees, isConnection]

end ProviderField

namespace ProviderWrite

def Valid (policy : UrlPolicy) (w : ProviderWrite) : Prop :=
  w.request.values policy w.current = .ok w.written

/-- What the request does not change it writes as it was read. -/
theorem agrees_of_not_changes {policy : UrlPolicy} {w : ProviderWrite} (hw : w.Valid policy)
    {f : ProviderField} (hf : f = .baseUrl → w.request.KeepsBaseUrl policy w.current)
    (hc : ¬w.Changes f) : f.Agrees w.current.columns w.written := by
  cases hs : w.request.payload.supplies f with
  | false => exact UpdateRequest.values_kept hw hf hs
  | true => exact not_not.1 fun hn => hc ⟨hs, hn⟩

end ProviderWrite

namespace UpdateWorld

variable {env : Runtime} {policy : UrlPolicy} {id : Uuid}
  {requests : Administrator → UpdateRequest} {w : UpdateWorld}

/-- The row of the provider after the logged writes. -/
def LogState (policy : UrlPolicy) (row : ProviderConfig) : List ProviderWrite → Prop
  | [] => True
  | [x] => x.Valid policy ∧ row.columns = x.written ∧ row.configVersion =
      if x.written.connection = x.current.toProviderConnection then x.current.configVersion
      else x.current.configVersion + 1
  | [x, y] => x.Valid policy ∧ y.Valid policy ∧ row.columns = y.written ∧
      ((y.seen = 1 ∧ y.current.columns = x.written) ∨
        (y.seen = 0 ∧ y.current.columns = x.current.columns ∧
          x.written.connection = x.current.toProviderConnection))
  | _ => False

/-- What a request that is ready to write has read: the row, or the row before the logged write. -/
def ReadyState (policy : UrlPolicy) (row : ProviderConfig) (log : List ProviderWrite)
    (q : UpdateRequest) (current : ProviderConfig) (values : ProviderConfigUpdateValues)
    (seen : Nat) : Prop :=
  q.values policy current = .ok values ∧
    ((seen = log.length ∧ current.columns = row.columns ∧
        current.configVersion = row.configVersion) ∨
      ∃ x, log = [x] ∧ seen = 0 ∧ current.columns = x.current.columns ∧
        current.configVersion = x.current.configVersion)

structure Tracked (env : Runtime) (policy : UrlPolicy) (id : Uuid)
    (requests : Administrator → UpdateRequest) (w : UpdateWorld) : Prop where
  sound : Store.Sound env w.store
  count : w.log.length = (w.phase .one).writes + (w.phase .other).writes
  senders : ∀ x ∈ w.log, w.phase x.who = .updated ∧ x.request = requests x.who
  distinct : (w.log.map (·.who)).Nodup
  idle : (∀ row ∈ w.store.providers, row.id ≠ id) →
    w.log = [] ∧ ∀ who current values seen, w.phase who ≠ .ready current values seen
  log_state : ∀ row ∈ w.store.providers, row.id = id → LogState policy row w.log
  ready_state : ∀ row ∈ w.store.providers, row.id = id → ∀ who current values seen,
    w.phase who = .ready current values seen →
      ReadyState policy row w.log (requests who) current values seen

@[simp] theorem setPhase_self (w : UpdateWorld) (who : Administrator) (p : UpdatePhase) :
    (w.setPhase who p).phase who = p := by
  simp [setPhase]

theorem setPhase_other (w : UpdateWorld) {who who' : Administrator} (h : who' ≠ who)
    (p : UpdatePhase) : (w.setPhase who p).phase who' = w.phase who' := by
  simp [setPhase, Function.update_of_ne h]

/-- A request moves on without a write. -/
theorem Tracked.setPhase (h : Tracked env policy id requests w) {who : Administrator}
    {p : UpdatePhase} (hp : p.writes = 0) (hw : (w.phase who).writes = 0)
    (hready : ∀ current values seen, p = .ready current values seen →
      (∃ row ∈ w.store.providers, row.id = id) ∧
        ∀ row ∈ w.store.providers, row.id = id →
          ReadyState policy row w.log (requests who) current values seen) :
    Tracked env policy id requests (w.setPhase who p) := by
  refine ⟨h.sound, ?_, fun x hx => ?_, h.distinct, fun hnone => ?_, h.log_state,
    fun row hrow hid who' c v n hphase => ?_⟩
  · have hcount := h.count
    cases who with
    | one =>
      rw [setPhase_self, setPhase_other w (by simp), hp]
      rw [hw] at hcount
      exact hcount
    | other =>
      rw [setPhase_self, setPhase_other w (by simp), hp]
      rw [hw] at hcount
      exact hcount
  · obtain ⟨hphase, hrequest⟩ := h.senders x hx
    have hne : x.who ≠ who := by
      rintro he
      rw [he] at hphase
      rw [hphase] at hw
      cases hw
    exact ⟨(setPhase_other w hne p).trans hphase, hrequest⟩
  · refine ⟨(h.idle hnone).1, fun who' c v n hphase => ?_⟩
    by_cases he : who' = who
    · subst he
      rw [setPhase_self] at hphase
      obtain ⟨⟨row, hrow, hid⟩, -⟩ := hready c v n hphase
      exact hnone row hrow hid
    · rw [setPhase_other w he] at hphase
      exact (h.idle hnone).2 who' c v n hphase
  · by_cases he : who' = who
    · subst he
      rw [setPhase_self] at hphase
      exact (hready c v n hphase).2 row hrow hid
    · rw [setPhase_other w he] at hphase
      exact h.ready_state row hrow hid who' c v n hphase

theorem Tracked.fail (h : Tracked env policy id requests w) {who : Administrator}
    (hw : (w.phase who).writes = 0) (e : ProviderUpdateError) :
    Tracked env policy id requests (w.setPhase who (.failed e)) :=
  h.setPhase rfl hw fun _ _ _ he => nomatch he

theorem Tracked.read (h : Tracked env policy id requests w) (who : Administrator) :
    Tracked env policy id requests (w.read policy id (requests who) who) := by
  unfold UpdateWorld.read
  split
  next hphase =>
    have hw : (w.phase who).writes = 0 := by rw [hphase]; rfl
    split
    · exact h.fail hw _
    next current hfind =>
      have hmem := List.mem_of_find?_eq_some hfind
      have hid : current.id = id := by simpa using List.find?_some hfind
      split
      · exact h.fail hw _
      next values hvalues =>
        refine h.setPhase rfl hw fun c v n he => ?_
        cases he
        refine ⟨⟨current, hmem, hid⟩, fun row hrow hrid => ⟨hvalues, .inl ⟨rfl, ?_⟩⟩⟩
        rw [eq_of_key_eq h.sound.inputs.providers hrow hmem (hrid.trans hid.symm)]
        exact ⟨rfl, rfl⟩
  · exact h

/-- A successful write, from what the request had read. -/
theorem logState_write {row row' current : ProviderConfig} {q : UpdateRequest}
    {values : ProviderConfigUpdateValues} {log : List ProviderWrite} {seen : Nat}
    (who : Administrator) (hlen : log.length ≤ 1) (hlog : LogState policy row log)
    (hready : ReadyState policy row log q current values seen)
    (hversion : row.configVersion = current.configVersion) (hcolumns : row'.columns = values)
    (hnext : row'.configVersion = if values.connection = row.toProviderConnection then
      current.configVersion else current.configVersion + 1) :
    LogState policy row' (log ++ [⟨who, q, current, values, seen⟩]) := by
  obtain ⟨hvalues, hread⟩ := hready
  cases log with
  | nil =>
    obtain ⟨-, hcol, -⟩ | ⟨x, hx, -⟩ := hread
    · have hconn : current.toProviderConnection = row.toProviderConnection :=
        congrArg ProviderConfigUpdateValues.connection hcol
      refine ⟨hvalues, hcolumns, ?_⟩
      rw [hnext, hconn]
    · cases hx
  | cons x rest =>
    obtain rfl : rest = [] := List.eq_nil_of_length_eq_zero (by simpa using hlen)
    obtain ⟨hx, hxcol, hxver⟩ := hlog
    refine ⟨hx, hvalues, hcolumns, ?_⟩
    obtain ⟨hseen, hcol, -⟩ | ⟨x', he, hseen, hcol, hver⟩ := hread
    · exact .inl ⟨hseen, hcol.trans hxcol⟩
    · obtain rfl : x = x' := (List.cons.inj he).1
      refine .inr ⟨hseen, hcol, ?_⟩
      -- the version the request had read is still the row's: the first write kept the connection
      by_contra hne
      rw [hversion, hver, if_neg hne] at hxver
      omega

theorem Tracked.write (h : Tracked env policy id requests w) (who : Administrator) :
    Tracked env policy id requests (w.write id (requests who) who) := by
  unfold UpdateWorld.write
  split
  next current values seen hphase =>
    have hw : (w.phase who).writes = 0 := by rw [hphase]; rfl
    split
    · exact h.fail hw _
    · exact h.fail hw _
    next store hupdate =>
      have hstep : Store.step env w.store (.updateProvider id current.configVersion values) = store :=
        Store.step_of_ok (Store.map_snd_eq_ok.2 ⟨_, hupdate⟩)
      have hsound : Store.Sound env store :=
        hstep ▸ (Store.step_moves (R := fun _ _ => True) h.sound (Store.failureIs_true _)).2
      obtain ⟨row, hrow, hid⟩ : ∃ row ∈ w.store.providers, row.id = id := by
        by_contra hnone
        push Not at hnone
        exact (h.idle hnone).2 who current values seen hphase
      have hready := h.ready_state row hrow hid who current values seen hphase
      obtain ⟨hversion, row', hrow', hid', hcolumns, hnext⟩ :=
        Store.updateProvider_row h.sound.inputs.providers hrow hid hupdate
      have hother : ∀ who', who' ≠ who → w.log.length = (w.phase who').writes := by
        have hcount := h.count
        cases who <;> intro who' hne <;> cases who' <;> first | exact absurd rfl hne | omega
      have hlen : w.log.length ≤ 1 := by
        have := hother (match who with | .one => .other | .other => .one) (by cases who <;> simp)
        unfold UpdatePhase.writes at this
        split at this <;> omega
      have hlog :=
        logState_write who hlen (h.log_state row hrow hid) hready hversion hcolumns hnext
      have hkey (r : ProviderConfig) (hr : r ∈ store.providers) (hrid : r.id = id) : r = row' :=
        eq_of_key_eq hsound.inputs.providers hr hrow' (hrid.trans hid'.symm)
      have hsender : ∀ x ∈ w.log, x.who ≠ who := by
        rintro x hx he
        have := (h.senders x hx).1
        rw [he, hphase] at this
        cases this
      refine ⟨hsound, ?_, fun x hx => ?_, ?_, fun hnone => absurd hid' (hnone row' hrow'),
        fun r hr hrid => ?_, fun r hr hrid who' c v n hphase' => ?_⟩
      · have hcount := h.count
        rw [List.length_append, List.length_singleton]
        cases who with
        | one =>
          show _ = ((w.setPhase .one .updated).phase .one).writes +
            ((w.setPhase .one .updated).phase .other).writes
          rw [setPhase_self, setPhase_other w (by simp), hcount, hw, Nat.zero_add, Nat.add_comm]
          rfl
        | other =>
          show _ = ((w.setPhase .other .updated).phase .one).writes +
            ((w.setPhase .other .updated).phase .other).writes
          rw [setPhase_self, setPhase_other w (by simp), hcount, hw]
          rfl
      · rcases List.mem_append.1 hx with hx | hx
        · exact ⟨(setPhase_other w (hsender x hx) _).trans (h.senders x hx).1, (h.senders x hx).2⟩
        · rw [List.mem_singleton.1 hx]
          exact ⟨setPhase_self w who _, rfl⟩
      · rw [List.map_append, List.nodup_append]
        refine ⟨h.distinct, List.nodup_singleton _, fun a ha b hb => ?_⟩
        obtain ⟨x, hx, rfl⟩ := List.mem_map.1 ha
        rw [List.map_singleton, List.mem_singleton] at hb
        rw [hb]
        exact hsender x hx
      · rw [hkey r hr hrid]
        exact hlog
      · -- the other request, if it is ready, had read the row before this write
        have hne : who' ≠ who := by
          rintro rfl
          have := (setPhase_self w who' .updated).symm.trans hphase'
          cases this
        have hready' : w.phase who' = .ready c v n := (setPhase_other w hne _).symm.trans hphase'
        have hempty : w.log = [] := by
          have := hother who' hne
          rw [hready'] at this
          exact List.eq_nil_of_length_eq_zero this
        obtain ⟨hv, ⟨hn, hcol, hver⟩ | ⟨x, hx, -⟩⟩ :=
          h.ready_state row hrow hid who' c v n hready'
        · obtain ⟨-, ⟨-, hcol', -⟩ | ⟨x, hx, -⟩⟩ := hready
          · refine ⟨hv, .inr ⟨_, by rw [hempty]; rfl, ?_, hcol.trans hcol'.symm,
              hver.trans hversion⟩⟩
            rw [hn, hempty]
            rfl
          · rw [hempty] at hx
            cases hx
        · rw [hempty] at hx
          cases hx
  · exact h

theorem Tracked.elsewhere (h : Tracked env policy id requests w) {a : Action env}
    (hother : ∀ version values, a ≠ .updateProvider id version values) :
    Tracked env policy id requests { w with store := Store.step env w.store a } := by
  have hsound : Store.Sound env (Store.step env w.store a) :=
    (Store.step_moves (R := fun _ _ => True) h.sound (Store.failureIs_true a)).2
  have hkept := Store.step_columns h.sound hother
  by_cases hrow : ∃ row ∈ w.store.providers, row.id = id
  · obtain ⟨row, hrow, hid⟩ := hrow
    obtain ⟨row', hrow', hid', hcol, hver⟩ := hkept row hrow hid
    have hkey (r : ProviderConfig) (hr : r ∈ (Store.step env w.store a).providers)
        (hrid : r.id = id) : r = row' :=
      eq_of_key_eq hsound.inputs.providers hr hrow' (hrid.trans hid'.symm)
    refine ⟨hsound, h.count, h.senders, h.distinct, fun hnone => absurd hid' (hnone row' hrow'),
      fun r hr hrid => ?_, fun r hr hrid who c v n hphase => ?_⟩
    · rw [hkey r hr hrid]
      have hlog := h.log_state row hrow hid
      unfold LogState at hlog ⊢
      rw [hcol, hver]
      exact hlog
    · rw [hkey r hr hrid]
      have hready := h.ready_state row hrow hid who c v n hphase
      unfold ReadyState at hready ⊢
      rw [hcol, hver]
      exact hready
  · -- there was no such provider yet: nothing was read
    push Not at hrow
    obtain ⟨hlog, hidle⟩ := h.idle hrow
    refine ⟨hsound, h.count, h.senders, h.distinct, fun _ => h.idle hrow, fun r _ _ => ?_,
      fun r _ _ who c v n hphase => absurd hphase (hidle who c v n)⟩
    rw [hlog]
    trivial

/-! ## The theorem -/

/-- No event is a third update of the provider. -/
def NoOtherUpdate (id : Uuid) : UpdateEvent env → Prop
  | .elsewhere a => ∀ version values, a ≠ .updateProvider id version values
  | _ => True

theorem tracked_start {s : Store} (hs : Store.Sound env s) :
    Tracked env policy id requests (start s) where
  sound := hs
  count := rfl
  senders x hx := absurd hx List.not_mem_nil
  distinct := List.nodup_nil
  idle _ := by
    refine ⟨rfl, fun who current values seen h => ?_⟩
    have h' : UpdatePhase.waiting = .ready current values seen := h
    cases h'
  log_state _ _ _ := trivial
  ready_state _ _ _ who current values seen h := by
    have h' : UpdatePhase.waiting = .ready current values seen := h
    cases h'

theorem run_tracked (as : List (Action env)) {es : List (UpdateEvent env)}
    (hother : ∀ e ∈ es, NoOtherUpdate id e) :
    Tracked env policy id requests
      (Runs.run (step policy id requests) (start (Store.after env as)) es) := by
  generalize hw : start (Store.after env as) = w
  have h : Tracked env policy id requests w := hw ▸ tracked_start (Store.after_wellFormed as).sound
  clear hw
  induction es generalizing w with
  | nil => exact h
  | cons e es ih =>
    refine ih (fun e' he' => hother e' (List.mem_cons_of_mem _ he')) _ ?_
    cases e with
    | read who => exact h.read who
    | write who => exact h.write who
    | elsewhere a => exact h.elsewhere (hother _ List.mem_cons_self)

/-- Whether two updates lose nothing depends on the unversioned fields and on the base URL. -/
theorem LogState.kept_iff {row : ProviderConfig} {x y : ProviderWrite}
    (h : LogState policy row [x, y]) :
    ProviderWrite.Kept x y row ↔
      (y.seen = 1 ∨ ∀ f : ProviderField, f.isConnection = false → x.Changes f → y.Changes f) ∧
        (x.Changes .baseUrl → y.request.KeepsBaseUrl policy y.current) := by
  obtain ⟨-, hy, hcol, hread⟩ := h
  -- a stale request passes the write only if the earlier write kept the connection
  have hversioned (f : ProviderField) (hf : f.isConnection = true) (hxf : x.Changes f) :
      y.current.columns = x.written := by
    rcases hread with ⟨-, hcur⟩ | ⟨-, -, hconn⟩
    · exact hcur
    · exact absurd (ProviderField.Agrees.of_connection hconn.symm hf) hxf.2
  constructor
  · intro hkept
    refine ⟨?_, fun hxf => ?_⟩
    · rcases hread with ⟨hseen, -⟩ | ⟨-, hcur, -⟩
      · exact .inl hseen
      · refine .inr fun f hf hxf => ?_
        by_contra hyf
        have hname : f = .baseUrl → y.request.KeepsBaseUrl policy y.current := by
          rintro rfl
          cases hf
        have hstale := ProviderWrite.agrees_of_not_changes hy hname hyf
        have hfinal := (hkept f).2 hxf hyf
        rw [hcol] at hfinal
        rw [hcur] at hstale
        exact hxf.2 (hstale.trans hfinal)
    · cases hs : y.request.payload.supplies .baseUrl with
      | true => exact .inl hs
      | false =>
        have hyf : ¬y.Changes .baseUrl := fun hc => by
          rw [hc.1] at hs
          cases hs
        have hfinal := (hkept .baseUrl).2 hxf hyf
        rw [hcol, ← hversioned .baseUrl rfl hxf] at hfinal
        exact (UpdateRequest.values_baseUrl hy hs).1 hfinal
  · rintro ⟨hcond, hurl⟩ f
    refine ⟨fun _ => ProviderField.Agrees.of_eq hcol f, fun hxf hyf => ?_⟩
    rw [hcol]
    have hkeeps : f = .baseUrl → y.request.KeepsBaseUrl policy y.current := by
      rintro rfl
      exact hurl hxf
    have hstale := ProviderWrite.agrees_of_not_changes hy hkeeps hyf
    cases hf : f.isConnection with
    | true =>
      rw [hversioned f hf hxf] at hstale
      exact hstale.symm
    | false =>
      rcases hcond with hseen | hcond
      · rcases hread with ⟨-, hcur⟩ | ⟨hseen', -⟩
        · rw [hcur] at hstale
          exact hstale.symm
        · rw [hseen] at hseen'
          cases hseen'
      · exact absurd (hcond f hf hxf) hyf

/-- **When both updates survive**: exactly if the later one read after the earlier one wrote, or
also changes every name, concurrency and budget that the earlier one changed; and, if the earlier
one changed the base URL, the later one names it too, is for an official provider, or finds it in
normal form. -/
theorem run_updates (as : List (Action env)) {es : List (UpdateEvent env)}
    (hother : ∀ e ∈ es, NoOtherUpdate id e)
    (hdone : ∀ who, (Runs.run (step policy id requests) (start (Store.after env as)) es).phase who =
      .updated) :
    ∃ x y row, (Runs.run (step policy id requests) (start (Store.after env as)) es).log = [x, y] ∧
      row ∈ (Runs.run (step policy id requests) (start (Store.after env as)) es).store.providers ∧
      row.id = id ∧ x.who ≠ y.who ∧ x.request = requests x.who ∧ y.request = requests y.who ∧
      (ProviderWrite.Kept x y row ↔
        (y.seen = 1 ∨ ∀ f : ProviderField, f.isConnection = false → x.Changes f → y.Changes f) ∧
          (x.Changes .baseUrl → y.request.KeepsBaseUrl policy y.current)) := by
  have h : Tracked env policy id requests
      (Runs.run (step policy id requests) (start (Store.after env as)) es) := run_tracked as hother
  generalize Runs.run (step policy id requests) (start (Store.after env as)) es = w at h hdone ⊢
  have hlength : w.log.length = 2 := by
    rw [h.count, hdone, hdone]
    rfl
  obtain ⟨x, y, hlog⟩ := List.length_eq_two.1 hlength
  obtain ⟨row, hrow, hid⟩ : ∃ row ∈ w.store.providers, row.id = id := by
    by_contra hnone
    push Not at hnone
    rw [(h.idle hnone).1] at hlength
    cases hlength
  have hstate := h.log_state row hrow hid
  have hdistinct := h.distinct
  rw [hlog] at hstate hdistinct
  refine ⟨x, y, row, hlog, hrow, hid, by simpa using hdistinct, ?_, ?_, hstate.kept_iff⟩
  · exact (h.senders x (by simp [hlog])).2
  · exact (h.senders y (by simp [hlog])).2

end UpdateWorld

/-! ## Two updates that overlap -/

namespace Sample

open Store Table

def urlPolicy : UrlPolicy := ⟨urlLibrary, false⟩

def resolved : Except String (List String) := publicResolver "" 443

/-- A payload that names nothing. -/
def noFields : ProviderConfigUpdate :=
  ⟨none, none, none, none, none, none, none, none, none, none, by simp, by simp, by simp, by simp,
    by simp⟩

def rename : UpdateRequest := ⟨{ noFields with name := some "q", nameOk := by decide }, resolved, [], []⟩

def widen : UpdateRequest :=
  ⟨{ noFields with maxConcurrency := some 8, concurrencyOk := by decide }, resolved, [], []⟩

/-- One administrator renames the provider, the other raises its concurrency. -/
def renameAndWiden : Administrator → UpdateRequest
  | .one => rename
  | .other => widen

/-- Both read before either writes. -/
def overlapping : List (UpdateEvent sampleRuntime) :=
  [.read .one, .read .other, .write .one, .write .other]

def newProviderRow : ProviderConfig :=
  { providerRow with status := .draft, testedConfigVersion := none, testedAt := none }

def renamed : ProviderConfigUpdateValues := ⟨connection, "q", 4, none⟩
def widened : ProviderConfigUpdateValues := ⟨connection, "p", 8, none⟩

def overlapped : UpdateWorld :=
  Runs.run (UpdateWorld.step urlPolicy provider renameAndWiden)
    (UpdateWorld.start (after sampleRuntime (setup.take 1))) overlapping

theorem overlapped_log : overlapped.log =
    [⟨.one, rename, newProviderRow, renamed, 0⟩, ⟨.other, widen, newProviderRow, widened, 0⟩] := by
  decide +kernel

theorem overlapped_providers : overlapped.store.providers.map (·.columns) = [widened] := by
  decide +kernel

theorem overlapped_updated (who : Administrator) : overlapped.phase who = .updated := by
  cases who <;> decide +kernel

/-- **A stale write is reported as a success**: the new name is gone. -/
theorem overlapping_loses :
    ¬∀ (policy : UrlPolicy) (id : Uuid) (requests : Administrator → UpdateRequest)
      (as : List (Action sampleRuntime)) (es : List (UpdateEvent sampleRuntime)),
      (∀ e ∈ es, UpdateWorld.NoOtherUpdate id e) →
      (∀ who, (Runs.run (UpdateWorld.step policy id requests)
        (UpdateWorld.start (after sampleRuntime as)) es).phase who = .updated) →
      ∃ x y row, (Runs.run (UpdateWorld.step policy id requests)
          (UpdateWorld.start (after sampleRuntime as)) es).log = [x, y] ∧
        row ∈ (Runs.run (UpdateWorld.step policy id requests)
          (UpdateWorld.start (after sampleRuntime as)) es).store.providers ∧
        row.id = id ∧ ProviderWrite.Kept x y row := by
  intro h
  obtain ⟨x, y, row, hlog, hrow, -, hkept⟩ :=
    h urlPolicy provider renameAndWiden (setup.take 1) overlapping
      (by simp [overlapping, UpdateWorld.NoOtherUpdate]) overlapped_updated
  have hpair := overlapped_log.symm.trans hlog
  simp only [List.cons.injEq, and_true] at hpair
  obtain ⟨rfl, rfl⟩ := hpair
  have hcolumns : row.columns = widened := by
    have hmem : row.columns ∈ overlapped.store.providers.map (·.columns) :=
      List.mem_map.2 ⟨row, hrow, rfl⟩
    rw [overlapped_providers] at hmem
    exact List.mem_singleton.1 hmem
  have hname := (hkept .name).2
    ⟨rfl, fun he => absurd (show "p" = "q" from he) (by decide)⟩
    (fun hy => absurd hy.1 (by decide))
  rw [hcolumns] at hname
  exact absurd (show "p" = "q" from hname) (by decide)

def compatible : ProviderConnection :=
  { connection with
    providerType := .openaiCompatible
    baseUrl := "https://models.example.com/v1" }

def move : UpdateRequest :=
  ⟨{ noFields with baseUrl := some "https://models.example.org/v2/" }, resolved, [], []⟩

/-- One administrator moves the provider to another host, the other renames it. -/
def moveAndRename : Administrator → UpdateRequest
  | .one => move
  | .other => rename

/-- One update after the other. -/
def oneByOne : List (UpdateEvent sampleRuntime) :=
  [.read .one, .write .one, .read .other, .write .other]

def updatedInTurn : UpdateWorld :=
  Runs.run (UpdateWorld.step urlPolicy provider moveAndRename)
    (UpdateWorld.start (after sampleRuntime [.createProvider provider ⟨compatible, "p", 4, none⟩]))
    oneByOne

theorem updatedInTurn_log : updatedInTurn.log.map (fun w => (w.seen, w.current.baseUrl)) =
    [(0, "https://models.example.com/v1"), (1, "https://models.example.org/v2")] := by
  decide +kernel

theorem oneByOne_keeps : ∃ x y row, updatedInTurn.log = [x, y] ∧
    row ∈ updatedInTurn.store.providers ∧ ProviderWrite.Kept x y row := by
  obtain ⟨x, y, row, hlog, hrow, -, -, -, -, hiff⟩ :=
    UpdateWorld.run_updates [.createProvider provider ⟨compatible, "p", 4, none⟩]
      (by simp [oneByOne, UpdateWorld.NoOtherUpdate])
      (show ∀ who, updatedInTurn.phase who = .updated by intro who; cases who <;> decide +kernel)
  have hread := updatedInTurn_log
  rw [show updatedInTurn.log = [x, y] from hlog] at hread
  simp only [List.map_cons, List.map_nil, List.cons.injEq, Prod.mk.injEq, and_true] at hread
  refine ⟨x, y, row, hlog, hrow, hiff.2 ⟨.inl hread.2.1, fun _ => .inr (.inr ?_)⟩⟩
  rw [hread.2.2]
  decide +kernel

end Sample

end PaperGrading
