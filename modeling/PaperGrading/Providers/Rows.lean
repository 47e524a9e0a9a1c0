import PaperGrading.Store.Areas

/-!
# What changes a provider row

Only the provider service writes `provider_configs`.  Of its transactions only an
update changes the columns an administrator edits: a test, an enabling and a disabling
leave them and the `config_version` as they are.

    an action that is no update of the provider keeps its columns and its version   (step_columns)
-/

namespace PaperGrading

/-- The columns an update writes. -/
def ProviderConfig.columns (p : ProviderConfig) : ProviderConfigUpdateValues :=
  ⟨p.toProviderConnection, p.name, p.maxConcurrency, p.monthlyBudget⟩

namespace Store

open Table

variable {env : Runtime} {s s' : Store}

/-! ## The provider transactions -/

/-- The row of the provider keeps its columns and its version. -/
def ColumnsKept (id : Uuid) (s s' : Store) : Prop :=
  ∀ p ∈ s.providers, p.id = id → ∃ p' ∈ s'.providers, p'.id = id ∧ p'.columns = p.columns ∧
    p'.configVersion = p.configVersion

theorem ColumnsKept.of_eq {id : Uuid} (h : s'.providers = s.providers) : ColumnsKept id s s' :=
  fun p hp hid => ⟨p, h ▸ hp, hid, rfl, rfl⟩

/-- A statement that leaves the columns of this provider alone. -/
theorem updateMatching_columns {id : Uuid} {p : ProviderConfig → Bool}
    {set : ProviderConfig → ProviderConfig} {r : Bool} (hid : ∀ x, (set x).id = x.id)
    (hset : ∀ x, x.id = id → p x = true → (set x).columns = x.columns)
    (h : s.updateMatching p set = .ok (r, s')) : ColumnsKept id s s' := by
  unfold updateMatching updateProviders at h
  split at h
  · simp only [bind_eq_ok, updateWhere_eq_ok] at h
    obtain ⟨s₁, ⟨rows, ⟨rfl, -⟩, _, -, h₁⟩, hret⟩ := h
    cases h₁
    cases hret
    intro x hx hxid
    cases hp : p x with
    | false => exact ⟨x, mem_setWhere.2 (.inr ⟨hx, hp⟩), hxid, rfl, rfl⟩
    | true =>
      have hcol := hset x hxid hp
      have hconn : (set x).toProviderConnection = x.toProviderConnection :=
        congrArg ProviderConfigUpdateValues.connection hcol
      have hrow : invalidateProviderTest x (set x) =
          { set x with configVersion := x.configVersion } := by
        rw [invalidateProviderTest, if_neg (by simp [hconn])]
      refine ⟨_, mem_setWhere.2 (.inl ⟨x, hx, hp, rfl⟩), ?_, ?_, ?_⟩
      · rw [hrow]
        exact (hid x).trans hxid
      · rw [hrow]
        exact hcol
      · rw [hrow]
  · cases h
    exact .of_eq rfl

/-- **Only the provider service writes the table.** -/
theorem exec_providers (hs : Sound env s) {a : Action env} (ha : a.area ≠ .providers)
    (h : s.exec env a = .ok s') : s'.providers = s.providers := by
  have hframe := exec_frame hs h
  cases harea : a.area with
  | providers => exact absurd harea ha
  | rubrics | submissions =>
    rw [harea] at hframe
    rw [hframe]
  | grading =>
    rw [harea] at hframe
    exact hframe.2.2.1

/-- **Nothing but an update of the provider changes its columns or its version.** -/
theorem step_columns (hs : Sound env s) {id : Uuid} {a : Action env}
    (hother : ∀ version values, a ≠ .updateProvider id version values) :
    ColumnsKept id s (step env s a) := by
  refine step_induction (.of_eq rfl) fun s' h => ?_
  by_cases ha : a.area = .providers
  · cases a with
    | createProvider =>
      unfold exec createProvider at h
      simp only [bind_eq_ok, insertRow_eq_ok] at h
      obtain ⟨rows, ⟨rfl, -⟩, _, -, hret⟩ := h
      cases hret
      exact fun p hp hid => ⟨p, List.mem_append_left _ hp, hid, rfl, rfl⟩
    | updateProvider other version values =>
      obtain ⟨_, h⟩ := map_snd_eq_ok.1 h
      refine updateMatching_columns (by intro _; rfl) (fun x hid hp => ?_) h
      simp only [Bool.and_eq_true, beq_iff_eq] at hp
      rw [← hp.1, hid] at hother
      exact absurd rfl (hother version values)
    | markTested | enableTested | disableEnabled =>
      obtain ⟨_, h⟩ := map_snd_eq_ok.1 h
      exact updateMatching_columns (by intro _; rfl) (by intro _ _ _; rfl) h
    | _ => cases ha
  · exact .of_eq (exec_providers hs ha h)

end Store

end PaperGrading
