import PaperGrading.Providers.Rows

/-!
# Connection tests

`ProviderConfigService.test_connection`: a request reads the provider row in one
transaction, asks the provider over the network, and records the result in another
transaction under the condition that `config_version` is still the one it read.  In
between anything may happen to the store.

    an enabled provider was tested as it is: since that test began its connection and its
    version are what they are now, at every moment; a test that began before a change of the
    connection records nothing any more                                         (run_tested)
-/

namespace PaperGrading

open Table

/-! ## Requests -/

inductive TestPhase where
  | testing | passed | failed | marked
  deriving DecidableEq

/-- A request that has reached the network: the row it read, and where it is. -/
structure ConnectionTest where
  config : ProviderConfig
  phase : TestPhase
  deriving DecidableEq

structure TestWorld where
  store : Store
  tests : List ConnectionTest

/-- The action that records a test. -/
def Action.marksTested {env : Runtime} : Action env → Bool
  | .markTested .. => true
  | _ => false

inductive TestEvent (env : Runtime) where
  | begin (id : Uuid)
  | answer (k : Nat) (passed : Bool)
  | mark (k : Nat) (testedAt : Time)
  /-- only `test_connection` records tests -/
  | elsewhere (action : Action env) (other : action.marksTested = false)

namespace TestWorld

variable {env : Runtime}

/-- The first transaction of `test_connection`, up to the network request; a request that fails
before it leaves no trace. -/
def begin (env : Runtime) (id : Uuid) (w : TestWorld) : TestWorld :=
  match w.store.providers.find? (·.id == id) with
  | none => w
  | some config =>
    match config.encryptedApiKey, config.apiKeyNonce, config.defaultModel with
    | some key, some nonce, some _ =>
      if (env.decrypt key nonce config.id).isSome then
        { w with tests := w.tests ++ [⟨config, .testing⟩] }
      else w
    | _, _, _ => w

/-- The provider answers, or the request to it fails. -/
def answer (k : Nat) (passed : Bool) (w : TestWorld) : TestWorld :=
  match w.tests[k]? with
  | some ⟨config, .testing⟩ =>
    { w with tests := w.tests.set k ⟨config, if passed then .passed else .failed⟩ }
  | _ => w

/-- The second transaction of `test_connection`. -/
def mark (k : Nat) (testedAt : Time) (w : TestWorld) : TestWorld :=
  match w.tests[k]? with
  | some ⟨config, .passed⟩ =>
    match w.store.markTested config.id config.configVersion testedAt with
    | .ok (true, store) => { w with store, tests := w.tests.set k ⟨config, .marked⟩ }
    | .ok (false, _) | .error _ => { w with tests := w.tests.set k ⟨config, .failed⟩ }
  | _ => w

def step (env : Runtime) (w : TestWorld) : TestEvent env → TestWorld
  | .begin id => w.begin env id
  | .answer k passed => w.answer k passed
  | .mark k testedAt => w.mark k testedAt
  | .elsewhere action _ => { w with store := Store.step env w.store action }

def after (env : Runtime) (es : List (TestEvent env)) : TestWorld :=
  Runs.run (step env) ⟨.empty, []⟩ es

/-! ## Provider rows only climb -/

/-- Every provider is still there; its version has not fallen, and with the same version it has
the same connection. -/
def Climbs (s s' : Store) : Prop :=
  ∀ p ∈ s.providers, ∃ p' ∈ s'.providers, p'.id = p.id ∧ p.configVersion ≤ p'.configVersion ∧
    (p'.configVersion = p.configVersion → p'.toProviderConnection = p.toProviderConnection)

theorem Climbs.refl (s : Store) : Climbs s s := fun p hp => ⟨p, hp, rfl, le_rfl, fun _ => rfl⟩

theorem Climbs.trans {s t u : Store} (h : Climbs s t) (h' : Climbs t u) : Climbs s u := by
  intro p hp
  obtain ⟨q, hq, hqid, hqle, hqconn⟩ := h p hp
  obtain ⟨r, hr, hrid, hrle, hrconn⟩ := h' q hq
  refine ⟨r, hr, hrid.trans hqid, hqle.trans hrle, fun he => ?_⟩
  have hmid : q.configVersion = p.configVersion := by omega
  exact (hrconn (he.trans hmid.symm)).trans (hqconn hmid)

theorem climbs_action {s : Store} (hs : Store.Sound env s) (a : Action env) :
    Climbs s (Store.step env s a) :=
  Store.step_keeps (P := Climbs s) hs (Store.failureIs_true a) (fun _ => False.elim)
    (fun _ _ _ (hm : Store.Move env (fun _ _ => True) (fun _ => False) _ _) h =>
      h.trans fun _ hp => hm.provider_kept hp) (.refl s)

/-! ## One event -/

variable {w : TestWorld}

theorem begin_cases (env : Runtime) (id : Uuid) (w : TestWorld) :
    w.begin env id = w ∨ ∃ config ∈ w.store.providers, config.id = id ∧
      w.begin env id = { w with tests := w.tests ++ [⟨config, .testing⟩] } := by
  unfold TestWorld.begin
  split
  · exact .inl rfl
  next config hfind =>
    split
    · split
      · exact .inr ⟨config, List.mem_of_find?_eq_some hfind, by simpa using List.find?_some hfind, rfl⟩
      · exact .inl rfl
    · exact .inl rfl

theorem answer_cases (k : Nat) (passed : Bool) (w : TestWorld) :
    w.answer k passed = w ∨ ∃ config, w.tests[k]? = some ⟨config, .testing⟩ ∧ w.answer k passed =
      { w with tests := w.tests.set k ⟨config, if passed then .passed else .failed⟩ } := by
  unfold answer
  split
  next config hk => exact .inr ⟨config, hk, rfl⟩
  · exact .inl rfl

theorem mark_cases (k : Nat) (testedAt : Time) (w : TestWorld) :
    w.mark k testedAt = w ∨ ∃ config, w.tests[k]? = some ⟨config, .passed⟩ ∧
      (w.mark k testedAt = { w with tests := w.tests.set k ⟨config, .failed⟩ } ∨
        ∃ store, w.store.markTested config.id config.configVersion testedAt = .ok (true, store) ∧
          w.mark k testedAt = { w with store, tests := w.tests.set k ⟨config, .marked⟩ }) := by
  unfold mark
  split
  next config hk =>
    refine .inr ⟨config, hk, ?_⟩
    split
    next store hstore => exact .inr ⟨store, hstore, rfl⟩
    · exact .inl rfl
    · exact .inl rfl
  · exact .inl rfl

/-- A recorded test is an action of the store. -/
theorem markTested_step (env : Runtime) {s store : Store} {id : Uuid} {version : Nat} {testedAt : Time}
    (h : s.markTested id version testedAt = .ok (true, store)) :
    store = Store.step env s (.markTested id version testedAt) := by
  have hexec : s.exec env (.markTested id version testedAt) = .ok store :=
    Store.map_snd_eq_ok.2 ⟨_, h⟩
  exact (Store.step_of_ok hexec).symm

theorem step_sound (hs : Store.Sound env w.store) (e : TestEvent env) :
    Store.Sound env (w.step env e).store := by
  have haction (a : Action env) : Store.Sound env (Store.step env w.store a) :=
    (Store.step_moves (R := fun _ _ => True) hs (Store.failureIs_true a)).2
  cases e with
  | begin id => rcases begin_cases env id w with h | ⟨_, -, -, h⟩ <;> simp [step, h, hs]
  | answer k passed => rcases answer_cases k passed w with h | ⟨_, -, h⟩ <;> simp [step, h, hs]
  | mark k testedAt =>
    rcases mark_cases k testedAt w with h | ⟨config, -, h | ⟨store, hstore, h⟩⟩
    · simp [step, h, hs]
    · simp [step, h, hs]
    · simp only [step, h, markTested_step env hstore]
      exact haction _
  | elsewhere a => exact haction a

theorem step_climbs (hs : Store.Sound env w.store) (e : TestEvent env) :
    Climbs w.store (w.step env e).store := by
  cases e with
  | begin id =>
    rcases begin_cases env id w with h | ⟨_, -, -, h⟩ <;> simp [step, h, Climbs.refl]
  | answer k passed =>
    rcases answer_cases k passed w with h | ⟨_, -, h⟩ <;> simp [step, h, Climbs.refl]
  | mark k testedAt =>
    rcases mark_cases k testedAt w with h | ⟨config, -, h | ⟨store, hstore, h⟩⟩
    · simp [step, h, Climbs.refl]
    · simp [step, h, Climbs.refl]
    · simp only [step, h, markTested_step env hstore]
      exact climbs_action hs _
  | elsewhere a => exact climbs_action hs a

theorem after_sound (es : List (TestEvent env)) : Store.Sound env (after env es).store :=
  Runs.run_invariant (P := fun w : TestWorld => Store.Sound env w.store) es Store.sound_empty
    fun _ e h => step_sound h e

theorem after_append (es fs : List (TestEvent env)) :
    after env (es ++ fs) = Runs.run (step env) (after env es) fs := Runs.run_append _ _ _

theorem after_climbs (es fs : List (TestEvent env)) :
    Climbs (after env es).store (after env (es ++ fs)).store := by
  rw [after_append]
  exact Runs.run_mono (P := fun w : TestWorld => Store.Sound env w.store)
    (R := fun (v w : TestWorld) => Climbs v.store w.store) fs (after_sound es)
    (fun w : TestWorld => .refl w.store) (fun h h' => h.trans h') (fun _ e h => step_sound h e)
    fun _ e h => step_climbs h e

/-! ## The record of a test -/

/-- A statement that leaves the record of the test alone writes no record of a new one. -/
theorem updateMatching_tested {s s' : Store} {p : ProviderConfig → Bool}
    {set : ProviderConfig → ProviderConfig} {r : Bool} (hid : ∀ x, (set x).id = x.id)
    (hset : ∀ x, (set x).testedConfigVersion = x.testedConfigVersion)
    (h : s.updateMatching p set = .ok (r, s')) : ∀ x' ∈ s'.providers,
      x'.testedConfigVersion = some x'.configVersion → ∃ x ∈ s.providers, x.id = x'.id ∧
        x.testedConfigVersion = some x.configVersion ∧ x.configVersion = x'.configVersion := by
  unfold Store.updateMatching Store.updateProviders at h
  split at h
  · simp only [bind_eq_ok, updateWhere_eq_ok] at h
    obtain ⟨s₁, ⟨rows, ⟨rfl, -⟩, _, -, h₁⟩, hret⟩ := h
    cases h₁
    cases hret
    intro x' hx' htested
    rcases mem_setWhere.1 hx' with ⟨x, hx, -, rfl⟩ | ⟨hx, -⟩
    · refine ⟨x, hx, ?_, ?_⟩
      · rw [Store.invalidateProviderTest_id, hid]
      · unfold invalidateProviderTest at htested ⊢
        split at htested
        · cases htested
        next hsame =>
          rw [if_neg hsame]
          exact ⟨(hset x).symm.trans htested, rfl⟩
    · exact ⟨x', hx, rfl, htested, rfl⟩
  · cases h
    exact fun x' hx' htested => ⟨x', hx', rfl, htested, rfl⟩

/-- Nothing but `mark_tested` writes a record. -/
theorem tested_before {s : Store} (hs : Store.Sound env s) {a : Action env} (ha : a.marksTested = false) :
    ∀ x' ∈ (Store.step env s a).providers, x'.testedConfigVersion = some x'.configVersion →
      ∃ x ∈ s.providers, x.id = x'.id ∧ x.testedConfigVersion = some x.configVersion ∧
        x.configVersion = x'.configVersion := by
  refine Store.step_induction (P := fun s' => ∀ x' ∈ s'.providers,
    x'.testedConfigVersion = some x'.configVersion → ∃ x ∈ s.providers, x.id = x'.id ∧
      x.testedConfigVersion = some x.configVersion ∧ x.configVersion = x'.configVersion)
    (fun x' hx' htested => ⟨x', hx', rfl, htested, rfl⟩) fun s' h => ?_
  by_cases hw : a.area = .providers
  · cases a with
    | createProvider =>
      unfold Store.exec Store.createProvider at h
      simp only [bind_eq_ok, insertRow_eq_ok] at h
      obtain ⟨rows, ⟨rfl, -⟩, _, -, hret⟩ := h
      cases hret
      intro x' hx' htested
      rcases List.mem_append.1 hx' with hx | hx
      · exact ⟨x', hx, rfl, htested, rfl⟩
      · rw [List.mem_singleton.1 hx] at htested
        cases htested
    | updateProvider | enableTested | disableEnabled =>
      obtain ⟨_, h⟩ := Store.map_snd_eq_ok.1 h
      exact updateMatching_tested (by intro _; rfl) (by intro _; rfl) h
    | markTested => cases ha
    | _ => cases hw
  · rw [Store.exec_providers hs hw h]
    exact fun x' hx' htested => ⟨x', hx', rfl, htested, rfl⟩

/-- Behind every record of the current version there is a test of that version. -/
def Evidence (w : TestWorld) : Prop :=
  ∀ x ∈ w.store.providers, x.testedConfigVersion = some x.configVersion →
    ∃ (k : Nat) (config : ProviderConfig), w.tests[k]? = some ⟨config, .marked⟩ ∧ config.id = x.id ∧
      config.configVersion = x.configVersion

/-- A test moves on that was not marked yet. -/
theorem marked_set {tests : List ConnectionTest} {k : Nat} {t t' : ConnectionTest}
    (hk : tests[k]? = some t) (ht : t.phase ≠ .marked) {j : Nat} {config : ProviderConfig}
    (hj : tests[j]? = some ⟨config, .marked⟩) : (tests.set k t')[j]? = some ⟨config, .marked⟩ := by
  have hne : k ≠ j := by
    rintro rfl
    rw [hk] at hj
    cases hj
    exact ht rfl
  rw [List.getElem?_set_ne hne, hj]

theorem Evidence.step (h : Evidence w) (hs : Store.Sound env w.store) (e : TestEvent env) :
    Evidence (w.step env e) := by
  have hset {k : Nat} {t t' : ConnectionTest} (hk : w.tests[k]? = some t) (ht : t.phase ≠ .marked) :
      Evidence { w with tests := w.tests.set k t' } := by
    intro x hx htested
    obtain ⟨j, config, hj, hid, hver⟩ := h x hx htested
    exact ⟨j, config, marked_set hk ht hj, hid, hver⟩
  cases e with
  | begin id =>
    rcases begin_cases env id w with he | ⟨config, -, -, he⟩
    · simpa [TestWorld.step, he] using h
    · simp only [TestWorld.step, he]
      intro x hx htested
      obtain ⟨j, c, hj, hid, hver⟩ := h x hx htested
      exact ⟨j, c, by rw [List.getElem?_append_left (List.getElem?_eq_some_iff.1 hj).1, hj], hid, hver⟩
  | answer k passed =>
    rcases answer_cases k passed w with he | ⟨config, hk, he⟩
    · simpa [TestWorld.step, he] using h
    · simp only [TestWorld.step, he]
      exact hset hk (by simp)
  | mark k testedAt =>
    rcases mark_cases k testedAt w with he | ⟨config, hk, he | ⟨store, hstore, he⟩⟩
    · simpa [TestWorld.step, he] using h
    · simp only [TestWorld.step, he]
      exact hset hk (by simp)
    · simp only [TestWorld.step, he]
      have hlt : k < w.tests.length := (List.getElem?_eq_some_iff.1 hk).1
      unfold Store.markTested Store.updateMatching Store.updateProviders at hstore
      split at hstore
      · simp only [bind_eq_ok, updateWhere_eq_ok] at hstore
        obtain ⟨s₁, ⟨rows, ⟨rfl, -⟩, _, -, h₁⟩, hret⟩ := hstore
        cases h₁
        cases hret
        intro x' hx' htested
        rcases mem_setWhere.1 hx' with ⟨x, hx, hp, rfl⟩ | ⟨hx, -⟩
        · simp only [Bool.and_eq_true, beq_iff_eq] at hp
          refine ⟨k, config, List.getElem?_set_self hlt, ?_, ?_⟩
          · rw [Store.invalidateProviderTest_id]
            exact hp.1.symm
          · rw [(Store.invalidateProviderTest_version _ _).2, if_pos rfl]
            exact hp.2.symm
        · obtain ⟨j, c, hj, hid, hver⟩ := h x' hx htested
          exact ⟨j, c, marked_set hk (by simp) hj, hid, hver⟩
      · cases hstore
  | elsewhere a ha =>
    intro x' hx' htested
    obtain ⟨x, hx, hid, ht, hver⟩ := tested_before hs ha x' hx' htested
    obtain ⟨j, c, hj, hcid, hcver⟩ := h x hx ht
    exact ⟨j, c, hj, hcid.trans hid, hcver.trans hver⟩

theorem after_evidence (es : List (TestEvent env)) : Evidence (after env es) :=
  (Runs.run_invariant (P := fun w : TestWorld => Store.Sound env w.store ∧ Evidence w) es
    ⟨Store.sound_empty, by simp [Evidence, Store.empty]⟩
    fun _ e h => ⟨step_sound h.1 e, h.2.step h.1 e⟩).2

/-! ## How a test came about -/

/-- The test `k` read its row after `pre`, and the provider answered it since. -/
structure Began (es : List (TestEvent env)) (k : Nat) (t : ConnectionTest)
    (pre post : List (TestEvent env)) : Prop where
  eq : es = pre ++ .begin t.config.id :: post
  index : (after env pre).tests.length = k
  began : (after env (pre ++ [.begin t.config.id])).tests.length = k + 1
  read : t.config ∈ (after env pre).store.providers
  answered : t.phase = .passed ∨ t.phase = .marked → .answer k true ∈ post

theorem Began.later {es pre post : List (TestEvent env)} {k : Nat} {t t' : ConnectionTest}
    (h : Began es k t pre post) (e : TestEvent env) (hconfig : t'.config = t.config)
    (hphase : t'.phase = .passed ∨ t'.phase = .marked →
      (t.phase = .passed ∨ t.phase = .marked) ∨ e = .answer k true) :
    Began (es ++ [e]) k t' pre (post ++ [e]) := by
  refine ⟨by rw [h.eq, hconfig]; simp, h.index, hconfig ▸ h.began, hconfig ▸ h.read, fun hp => ?_⟩
  rcases hphase hp with hp | rfl
  · exact List.mem_append_left _ (h.answered hp)
  · simp

theorem after_concat (es : List (TestEvent env)) (e : TestEvent env) :
    after env (es ++ [e]) = (after env es).step env e := by
  rw [after_append]
  rfl

theorem after_began (es : List (TestEvent env)) {k : Nat} {t : ConnectionTest}
    (hk : (after env es).tests[k]? = some t) : ∃ pre post, Began es k t pre post := by
  induction es using List.reverseRecOn generalizing k t with
  | nil => simp [after] at hk
  | append_singleton es e ih =>
    rw [after_concat] at hk
    have hkept (h : (after env es).tests[k]? = some t) : ∃ pre post, Began (es ++ [e]) k t pre post := by
      obtain ⟨pre, post, hb⟩ := ih h
      exact ⟨pre, post ++ [e], hb.later e rfl .inl⟩
    -- test `j` moves on
    have hset {j : Nat} {t₀ t' : ConnectionTest} (hj : (after env es).tests[j]? = some t₀)
        (hconfig : t'.config = t₀.config) (hphase : t'.phase = .passed ∨ t'.phase = .marked →
          (t₀.phase = .passed ∨ t₀.phase = .marked) ∨ e = .answer j true)
        (h : ((after env es).tests.set j t')[k]? = some t) :
        ∃ pre post, Began (es ++ [e]) k t pre post := by
      by_cases hjk : j = k
      · subst hjk
        rw [List.getElem?_set_self (List.getElem?_eq_some_iff.1 hj).1] at h
        cases h
        obtain ⟨pre, post, hb⟩ := ih hj
        exact ⟨pre, post ++ [e], hb.later e hconfig hphase⟩
      · rw [List.getElem?_set_ne hjk] at h
        exact hkept h
    cases e with
    | begin id =>
      rcases begin_cases env id (after env es) with he | ⟨config, hmem, rfl, he⟩
      · simp only [step, he] at hk
        exact hkept hk
      · simp only [step, he] at hk
        by_cases hlt : k < (after env es).tests.length
        · rw [List.getElem?_append_left hlt] at hk
          exact hkept hk
        · rw [List.getElem?_append_right (not_lt.1 hlt)] at hk
          have hindex : k - (after env es).tests.length = 0 := by
            have := (List.getElem?_eq_some_iff.1 hk).1
            rw [List.length_singleton] at this
            omega
          rw [hindex] at hk
          cases hk
          have hlength : (after env es).tests.length = k := by omega
          exact ⟨es, [], rfl, hlength, by simp [after_concat, step, he, hlength], hmem, by simp⟩
    | answer j passed =>
      rcases answer_cases j passed (after env es) with he | ⟨config, hj, he⟩
      · simp only [step, he] at hk
        exact hkept hk
      · simp only [step, he] at hk
        exact hset hj (by exact rfl) (by cases passed <;> simp) hk
    | mark j testedAt =>
      rcases mark_cases j testedAt (after env es) with he | ⟨config, hj, he | ⟨store, -, he⟩⟩
      · simp only [step, he] at hk
        exact hkept hk
      · simp only [step, he] at hk
        exact hset hj (by exact rfl) (by simp) hk
      · simp only [step, he] at hk
        exact hset hj (by exact rfl) (by simp) hk
    | elsewhere a ha => exact hkept hk

/-- The row that a test has read never changes. -/
theorem run_config (fs : List (TestEvent env)) {w : TestWorld} {k : Nat} {t : ConnectionTest}
    (hk : w.tests[k]? = some t) :
    ∃ t', (Runs.run (step env) w fs).tests[k]? = some t' ∧ t'.config = t.config := by
  refine Runs.run_invariant (P := fun w : TestWorld => ∃ t', w.tests[k]? = some t' ∧
    t'.config = t.config) fs ⟨t, hk, rfl⟩ ?_
  rintro w e ⟨t', hk', hconfig⟩
  have hset {j : Nat} {u u' : ConnectionTest} (hj : w.tests[j]? = some u)
      (hu : u'.config = u.config) : ∃ t', (w.tests.set j u')[k]? = some t' ∧ t'.config = t.config := by
    by_cases hjk : j = k
    · subst hjk
      rw [hk'] at hj
      cases hj
      exact ⟨u', List.getElem?_set_self (List.getElem?_eq_some_iff.1 hk').1, hu.trans hconfig⟩
    · exact ⟨t', by rw [List.getElem?_set_ne hjk, hk'], hconfig⟩
  cases e with
  | begin id =>
    rcases begin_cases env id w with he | ⟨config, -, -, he⟩
    · simp only [step, he]
      exact ⟨t', hk', hconfig⟩
    · simp only [step, he]
      exact ⟨t', by rw [List.getElem?_append_left (List.getElem?_eq_some_iff.1 hk').1, hk'], hconfig⟩
  | answer j passed =>
    rcases answer_cases j passed w with he | ⟨config, hj, he⟩
    · simp only [step, he]
      exact ⟨t', hk', hconfig⟩
    · simp only [step, he]
      exact hset hj (by exact rfl)
  | mark j testedAt =>
    rcases mark_cases j testedAt w with he | ⟨config, hj, he | ⟨store, -, he⟩⟩
    · simp only [step, he]
      exact ⟨t', hk', hconfig⟩
    · simp only [step, he]
      exact hset hj (by exact rfl)
    · simp only [step, he]
      exact hset hj (by exact rfl)
  | elsewhere a ha => exact ⟨t', hk', hconfig⟩

/-! ## The theorem -/

/-- A test of the provider began after `pre`, has passed and is recorded; at every moment since
then the provider has had its present version and its present connection. -/
structure TestedSince (es : List (TestEvent env)) (p : ProviderConfig)
    (pre post : List (TestEvent env)) : Prop where
  eq : es = pre ++ .begin p.id :: post
  began : (after env (pre ++ [.begin p.id])).tests.length = (after env pre).tests.length + 1
  answered : .answer (after env pre).tests.length true ∈ post
  marked : ∃ config, (after env es).tests[(after env pre).tests.length]? = some ⟨config, .marked⟩
  unchanged : ∀ mid, mid <+: post → ∃ row ∈ (after env (pre ++ .begin p.id :: mid)).store.providers,
    row.id = p.id ∧ row.configVersion = p.configVersion ∧
      row.toProviderConnection = p.toProviderConnection

/-- A row between two rows of one version has their connection. -/
theorem row_between {es fs gs : List (TestEvent env)} {config p : ProviderConfig}
    (hconfig : config ∈ (after env es).store.providers)
    (hp : p ∈ (after env (es ++ (fs ++ gs))).store.providers) (hid : config.id = p.id)
    (hver : config.configVersion = p.configVersion) :
    ∃ row ∈ (after env (es ++ fs)).store.providers, row.id = p.id ∧
      row.configVersion = p.configVersion ∧ row.toProviderConnection = p.toProviderConnection := by
  obtain ⟨row, hrow, hrid, hle, -⟩ := after_climbs es fs config hconfig
  obtain ⟨last, hlast, hlid, hle', hconn⟩ := after_climbs (es ++ fs) gs row hrow
  rw [List.append_assoc] at hlast
  have hsame : last = p := eq_of_key_eq (after_sound _).inputs.providers hlast hp
    (hlid.trans (hrid.trans hid))
  rw [hsame] at hle' hconn
  have hrver : row.configVersion = p.configVersion := by omega
  exact ⟨row, hrow, hrid.trans hid, hrver, (hconn hrver.symm).symm⟩

theorem tested_since (es : List (TestEvent env)) {p : ProviderConfig}
    (hp : p ∈ (after env es).store.providers) (htested : p.testedConfigVersion = some p.configVersion) :
    ∃ pre post, TestedSince es p pre post := by
  obtain ⟨k, config, hk, hid, hver⟩ := after_evidence es p hp htested
  obtain ⟨pre, post, heq, rfl, hbegan, hread, hanswer⟩ := after_began es hk
  simp only at heq hbegan hread
  rw [hid] at heq hbegan
  refine ⟨pre, post, heq, hbegan, hanswer (.inr rfl), ⟨config, hk⟩, ?_⟩
  rintro mid ⟨rest, rfl⟩
  have hp' : p ∈ (after env (pre ++ ((.begin p.id :: mid) ++ rest))).store.providers := by
    rw [List.cons_append, ← heq]
    exact hp
  exact row_between hread hp' hid hver

/-- A test that began before a change of the connection finds no row to record itself in. -/
theorem stale_test {pre mid post : List (TestEvent env)} {id : Uuid}
    (hbegan : (after env (pre ++ [.begin id])).tests.length = (after env pre).tests.length + 1)
    (hchanged : ∀ old ∈ (after env pre).store.providers,
      ∀ new ∈ (after env (pre ++ .begin id :: mid)).store.providers, old.id = id → new.id = id →
        new.toProviderConnection ≠ old.toProviderConnection) (testedAt : Time) :
    ((after env (pre ++ .begin id :: (mid ++ post))).mark (after env pre).tests.length testedAt).store =
      (after env (pre ++ .begin id :: (mid ++ post))).store := by
  -- the row the test has read
  obtain ⟨config, hconfig, hid, hk⟩ : ∃ config ∈ (after env pre).store.providers, config.id = id ∧
      (after env (pre ++ [.begin id])).tests[(after env pre).tests.length]? = some ⟨config, .testing⟩ := by
    rw [after_concat] at hbegan ⊢
    rcases begin_cases env id (after env pre) with he | ⟨config, hconfig, hid, he⟩
    · rw [step, he] at hbegan
      omega
    · exact ⟨config, hconfig, hid, by simp [step, he]⟩
  have hsplit : pre ++ .begin id :: (mid ++ post) = (pre ++ [.begin id]) ++ (mid ++ post) := by simp
  obtain ⟨⟨config', phase⟩, hlater, hsame⟩ := run_config (mid ++ post) hk
  rw [← after_append, ← hsplit] at hlater
  obtain rfl : config' = config := hsame
  -- its version is over
  obtain ⟨new, hnew, hnid, hle, hconn⟩ := after_climbs pre (.begin id :: mid) config' hconfig
  have hlt : config'.configVersion < new.configVersion := by
    refine lt_of_le_of_ne hle fun he => ?_
    exact hchanged config' hconfig new hnew hid (hnid.trans hid) (hconn he.symm)
  obtain ⟨last, hlast, hlid, hle', -⟩ := after_climbs (pre ++ .begin id :: mid) post new hnew
  rw [List.append_assoc, List.cons_append] at hlast
  rcases mark_cases (after env pre).tests.length testedAt
      (after env (pre ++ .begin id :: (mid ++ post))) with he | ⟨c, hc, he | ⟨store, hstore, he⟩⟩
  · rw [he]
  · rw [he]
  · exfalso
    rw [hlater] at hc
    cases hc
    unfold Store.markTested Store.updateMatching at hstore
    split at hstore
    next hany =>
      obtain ⟨row, hrow, hq⟩ := List.any_eq_true.1 hany
      simp only [Bool.and_eq_true, beq_iff_eq] at hq
      have hrl : row = last := eq_of_key_eq (after_sound _).inputs.providers hrow hlast
        (hq.1.trans (hlid.trans hnid).symm)
      rw [hrl] at hq
      omega
    · cases hstore

/-- **An enabled provider was tested as it is**, and a test of something else is never recorded. -/
theorem run_tested (es : List (TestEvent env)) :
    (∀ p ∈ (after env es).store.providers, p.status = .enabled →
      p.testedConfigVersion = some p.configVersion ∧ ∃ pre post, TestedSince es p pre post) ∧
    ∀ pre mid post id, es = pre ++ .begin id :: (mid ++ post) →
      (after env (pre ++ [.begin id])).tests.length = (after env pre).tests.length + 1 →
      (∀ old ∈ (after env pre).store.providers,
        ∀ new ∈ (after env (pre ++ .begin id :: mid)).store.providers, old.id = id → new.id = id →
          new.toProviderConnection ≠ old.toProviderConnection) →
      ∀ testedAt, ((after env es).mark (after env pre).tests.length testedAt).store =
        (after env es).store := by
  constructor
  · intro p hp henabled
    have htested : p.testedConfigVersion = some p.configVersion := by
      have hcheck := (after_sound es).inputs.provider_check p hp
      unfold ProviderConfig.rowCheck at hcheck
      simp only [bind_eq_ok, require_eq_ok] at hcheck
      obtain ⟨_, -, _, -, _, htest, -⟩ := hcheck
      simp only [henabled, bne_self_eq_false, Bool.false_or, Bool.and_eq_true, beq_iff_eq] at htest
      exact htest.2
    exact ⟨htested, tested_since es hp htested⟩
  · rintro pre mid post id rfl hbegan hchanged testedAt
    exact stale_test hbegan hchanged testedAt

end TestWorld

end PaperGrading
