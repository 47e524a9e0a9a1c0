import PaperGrading.Domain.DecimalFields
import PaperGrading.Providers.Adapters

/-!
# The cost of a call

`estimate_cost` takes the first tier whose bound admits the input, and computes in the context of
28 digits.  The checks of `ProviderPricing` leave one such tier.  They also leave prices of more
than nine decimal places, which the context rounds; the others are short enough for the products,
their sum and the division.

    t.accepts → (every call that is charged under t costs its charge, exactly ↔
      the prices of t are multiples of 10 ^ -9)                            (estimateCost_exact_iff)
-/

namespace PaperGrading

/-! ## The checks on a price list -/

namespace ProviderTokenPriceTier

/-- `Field(ge=0, max_digits=18, decimal_places=9)` -/
def acceptsPrice (price : Decimal) : Bool := decide (0 ≤ price.toRat) && price.admitted 18 9

def prices (t : ProviderTokenPriceTier) : List Decimal :=
  [t.inputPerMillion, t.cacheReadPerMillion, t.cacheWritePerMillion, t.outputPerMillion]

/-- `Field(default=None, gt=0)` and the four prices. -/
def accepts (t : ProviderTokenPriceTier) : Bool :=
  t.upToInputTokens.all (0 < ·) && t.prices.all acceptsPrice

/-- Every price is a multiple of `10 ^ -9`. -/
def ShortPrices (t : ProviderTokenPriceTier) : Prop := ∀ price ∈ t.prices, OnScale 9 price.toRat

/-- The tier is not bounded, or its bound admits the input. -/
def admits (t : ProviderTokenPriceTier) (inputTokens : Nat) : Bool :=
  t.upToInputTokens.all (inputTokens ≤ ·)

/-- The price of each kind of token times its count, per million. -/
def charge (t : ProviderTokenPriceTier) (u : ProviderTokenUsage) : ℚ :=
  ((u.inputTokens - u.cachedInputTokens - u.cacheWriteInputTokens) * t.inputPerMillion.toRat +
    u.cachedInputTokens * t.cacheReadPerMillion.toRat +
    u.cacheWriteInputTokens * t.cacheWritePerMillion.toRat +
    u.outputTokens * t.outputPerMillion.toRat) / 10 ^ 6

/-- The amount that `estimate_cost` computes with a tier. -/
def amount (t : ProviderTokenPriceTier) (u : ProviderTokenUsage) : Decimal :=
  Decimal.perMillion (((((Decimal.ofNat (u.inputTokens - u.cachedInputTokens -
    u.cacheWriteInputTokens)).times t.inputPerMillion).plus
    ((Decimal.ofNat u.cachedInputTokens).times t.cacheReadPerMillion)).plus
    ((Decimal.ofNat u.cacheWriteInputTokens).times t.cacheWritePerMillion)).plus
    ((Decimal.ofNat u.outputTokens).times t.outputPerMillion))

end ProviderTokenPriceTier

namespace ProviderPricing

/-- `validate_tiers`. -/
def validateTiers (p : ProviderPricing) : Except String Unit :=
  let finiteLimits := p.tiers.filterMap (·.upToInputTokens)
  if (p.tiers.getLast?.bind (·.upToInputTokens)).isSome then
    .error "价格快照最后一档必须覆盖全部剩余输入长度"
  else if p.tiers.dropLast.any (·.upToInputTokens.isNone) then
    .error "只有价格快照最后一档可以没有输入上限"
  else if finiteLimits ≠ finiteLimits.dedup.insertionSort (· ≤ ·) then
    .error "价格分档上限必须严格递增且不得重复"
  else .ok ()

/-- The fields and the validator of `ProviderPricing`. -/
def accepts (p : ProviderPricing) : Bool :=
  lengthBetween 1 100 p.tariffVersion.length && isCurrency p.currency &&
    lengthBetween 1 100 p.tiers.length && p.tiers.all (·.accepts) &&
    decide (p.validateTiers = .ok ())

end ProviderPricing

/-! ## The tier -/

theorem ProviderPricing.validateTiers_eq_ok {p : ProviderPricing}
    (h : p.validateTiers = .ok ()) (hne : p.tiers ≠ []) :
    (∃ t, p.tiers.getLast? = some t ∧ t.upToInputTokens = none) ∧
      (∀ t ∈ p.tiers.dropLast, t.upToInputTokens.isSome) ∧
      (p.tiers.filterMap (·.upToInputTokens)).Pairwise (· < ·) := by
  unfold validateTiers at h
  simp only at h
  split at h
  · cases h
  next hlast =>
    split at h
    · cases h
    next hrest =>
      split at h
      · cases h
      next hsorted =>
        refine ⟨⟨p.tiers.getLast hne, List.getLast?_eq_some_getLast hne, ?_⟩, fun t ht => ?_, ?_⟩
        · simpa [List.getLast?_eq_some_getLast hne] using hlast
        · cases hs : t.upToInputTokens with
          | some n => rfl
          | none => exact absurd (List.any_eq_true.2 ⟨t, ht, by rw [hs]; rfl⟩) hrest
        · have hlimits := not_not.1 hsorted
          generalize p.tiers.filterMap (·.upToInputTokens) = limits at hlimits ⊢
          rw [hlimits]
          have hnodup := (List.perm_insertionSort (· ≤ ·) limits.dedup).nodup_iff.2
            limits.nodup_dedup
          exact ((List.pairwise_insertionSort (· ≤ ·) limits.dedup).and hnodup).imp fun h =>
            lt_of_le_of_ne h.1 h.2

theorem ProviderPricing.accepts_iff {p : ProviderPricing} : p.accepts = true ↔
    lengthBetween 1 100 p.tariffVersion.length = true ∧ isCurrency p.currency = true ∧
      lengthBetween 1 100 p.tiers.length = true ∧ (∀ t ∈ p.tiers, t.accepts = true) ∧
      p.validateTiers = .ok () := by
  simp [accepts, and_assoc]

/-- What the checks say of a price: it may have more than nine places, but not what it is rounded
to. -/
theorem ProviderTokenPriceTier.price_of_accepts {t : ProviderTokenPriceTier}
    (h : t.accepts = true) {price : Decimal} (hprice : price ∈ t.prices) :
    0 ≤ price.toRat ∧ price.toRat < 10 ^ 9 ∧ OnScale 9 price.fix.toRat ∧
      (¬OnScale 9 price.toRat → price.fix.toRat ≠ price.toRat) := by
  unfold accepts at h
  rw [Bool.and_eq_true, List.all_eq_true] at h
  have hone := h.2 price hprice
  unfold acceptsPrice at hone
  rw [Bool.and_eq_true, decide_eq_true_iff] at hone
  exact ⟨hone.1, (le_abs_self _).trans_lt (Decimal.abs_lt_of_admitted hone.2),
    Decimal.onScale_fix_of_admitted (by norm_num) (by norm_num) hone.2,
    Decimal.fix_ne_of_admitted (by norm_num) (by norm_num) hone.2⟩

theorem ProviderPricing.valid_of_accepts {p : ProviderPricing} (h : p.accepts = true) :
    p.Valid := by
  obtain ⟨-, hcurrency, hlength, htiers, hvalid⟩ := accepts_iff.1 h
  have hne : p.tiers ≠ [] := by
    intro hnil
    simp [hnil, lengthBetween] at hlength
  obtain ⟨hlast, hbounded, hincreasing⟩ := validateTiers_eq_ok hvalid hne
  refine ⟨hcurrency, fun t ht => ?_, hlast, hbounded, hincreasing⟩
  have hprices {price : Decimal} (hprice : price ∈ t.prices) : 0 ≤ price.toRat :=
    (ProviderTokenPriceTier.price_of_accepts (htiers t ht) hprice).1
  simp only [ProviderTokenPriceTier.prices] at hprices
  exact ⟨hprices (by simp), hprices (by simp), hprices (by simp), hprices (by simp)⟩

/-- The tier at `i` is the first that admits the input. -/
def ProviderPricing.FirstTier (p : ProviderPricing) (inputTokens : Nat)
    (i : Fin p.tiers.length) : Prop :=
  (p.tiers.get i).admits inputTokens = true ∧ ∀ j < i, (p.tiers.get j).admits inputTokens = false

theorem ProviderPricing.FirstTier.unique {p : ProviderPricing} {n : Nat}
    {i j : Fin p.tiers.length} (hi : p.FirstTier n i) (hj : p.FirstTier n j) : i = j := by
  rcases lt_trichotomy i j with h | h | h
  · exact absurd hi.1 (by rw [hj.2 i h]; decide)
  · exact h
  · exact absurd hj.1 (by rw [hi.2 j h]; decide)

theorem ProviderPricing.Valid.firstTier {p : ProviderPricing} (h : p.Valid) (n : Nat) :
    ∃ i, p.FirstTier n i ∧ p.tiers.find? (·.admits n) = some (p.tiers.get i) := by
  obtain ⟨t, -, hfind⟩ := h.tier n
  obtain ⟨hadmits, i, hi, hget, hbefore⟩ := List.find?_eq_some_iff_getElem.1 hfind
  refine ⟨⟨i, hi⟩, ⟨?_, fun j hj => ?_⟩, ?_⟩
  · show (p.tiers[i]).admits n = true
    rw [hget]
    exact hadmits
  · have := hbefore j hj
    show (p.tiers[(j : Nat)]).admits n = false
    simpa [ProviderTokenPriceTier.admits] using this
  · show _ = some p.tiers[i]
    rw [hget]
    exact hfind

/-- A table that is accepted charges every call under one tier, the first that admits it. -/
theorem estimateCost_tier {p : ProviderPricing} (hp : p.accepts = true) (u : ProviderTokenUsage) :
    ∃ i, p.FirstTier u.inputTokens i ∧ ∃ cost, estimateCost u (some p) = .ok (some cost) ∧
      cost.amount = (p.tiers.get i).amount u ∧ 0 ≤ cost.amount.toRat := by
  have hvalid := ProviderPricing.valid_of_accepts hp
  obtain ⟨i, hfirst, hfind⟩ := hvalid.firstTier u.inputTokens
  refine ⟨i, hfirst, ?_⟩
  obtain ⟨cost, hcost⟩ := @estimateCost_ok u (some p) fun q hq => by
    cases hq
    exact hvalid
  have hfind' : p.tiers.find? (fun t => t.upToInputTokens.all (u.inputTokens ≤ ·)) =
      some (p.tiers.get i) := hfind
  unfold ProviderTokenPriceTier.amount
  unfold estimateCost at hcost ⊢
  simp only [hfind'] at hcost ⊢
  split at hcost
  next h =>
    rw [dif_pos h]
    refine ⟨_, rfl, ?_, ?_⟩
    · dsimp only
    · dsimp only
      exact h.2
  · cases hcost

/-! ## Short prices -/

/-- A sum and a division that the context holds at every step. -/
theorem toRat_perMillion_plus {w x y z : Decimal}
    (h₂ : Decimal.Representable (w.toRat + x.toRat))
    (h₃ : Decimal.Representable (w.toRat + x.toRat + y.toRat))
    (h₄ : Decimal.Representable (w.toRat + x.toRat + y.toRat + z.toRat))
    (hdiv : Decimal.Representable ((w.toRat + x.toRat + y.toRat + z.toRat) / 10 ^ 6)) :
    (((w.plus x).plus y).plus z).perMillion.toRat =
      (w.toRat + x.toRat + y.toRat + z.toRat) / 10 ^ 6 := by
  have s₂ := Decimal.toRat_plus h₂
  have s₃ := Decimal.toRat_plus (x := w.plus x) (y := y) (by rwa [s₂])
  have s₄ := Decimal.toRat_plus (x := (w.plus x).plus y) (y := z) (by rwa [s₃, s₂])
  rw [s₃, s₂] at s₄
  rw [Decimal.toRat_perMillion (by rwa [s₄]), s₄]

/-- A number that is not negative, has nine decimal places and stays below `bound`. -/
structure ShortAmount (bound : ℚ) (x : ℚ) : Prop where
  nonneg : 0 ≤ x
  scale : OnScale 9 x
  lt : x < bound

theorem ShortAmount.add {a b x y : ℚ} (hx : ShortAmount a x) (hy : ShortAmount b y) :
    ShortAmount (a + b) (x + y) :=
  ⟨add_nonneg hx.nonneg hy.nonneg, hx.scale.add hy.scale, add_lt_add hx.lt hy.lt⟩

theorem ShortAmount.representable {bound x : ℚ} (h : ShortAmount bound x) (hb : bound ≤ 10 ^ 19) :
    Decimal.Representable x := by
  refine Decimal.representable_of_onScale (p := 9) (by norm_num) h.scale ?_
  rw [abs_of_nonneg h.nonneg]
  have := h.lt
  linarith

/-- A millionth has fifteen decimal places. -/
theorem ShortAmount.perMillion {bound x : ℚ} (h : ShortAmount bound x) (hb : bound ≤ 10 ^ 19) :
    Decimal.Representable (x / 10 ^ 6) := by
  obtain ⟨k, hk⟩ := h.scale
  refine Decimal.representable_of_onScale (p := 15) (by norm_num) ⟨k, ?_⟩ ?_
  · rw [← hk]
    ring
  · rw [abs_of_nonneg (div_nonneg h.nonneg (by norm_num))]
    have := h.lt
    linarith

/-- The product of a count and a price. -/
theorem shortAmount_times {n : Nat} {price : Decimal} (hn : n < 10 ^ 9)
    (hprice : 0 ≤ price.toRat ∧ OnScale 9 price.toRat ∧ price.toRat < 10 ^ 9) :
    ((Decimal.ofNat n).times price).toRat = n * price.toRat ∧
      ShortAmount (n * 10 ^ 9 + 1) (n * price.toRat) := by
  obtain ⟨hnn, ⟨k, hk⟩, hlt⟩ := hprice
  have hn' : (n : ℚ) < 10 ^ 9 := by exact_mod_cast hn
  have hle : (n : ℚ) * price.toRat ≤ n * 10 ^ 9 :=
    mul_le_mul_of_nonneg_left hlt.le (Nat.cast_nonneg n)
  have hamount : ShortAmount (n * 10 ^ 9 + 1) (n * price.toRat) :=
    ⟨mul_nonneg (Nat.cast_nonneg n) hnn, ⟨n * k, by rw [mul_assoc, hk]; push_cast; rfl⟩,
      by linarith⟩
  have hcount : (Decimal.ofNat n).toRat = n := by
    rw [Decimal.toRat_eq]
    simp [Decimal.ofNat, Decimal.signed]
  refine ⟨?_, hamount⟩
  rw [Decimal.toRat_times, hcount]
  rw [hcount]
  exact hamount.representable (by linarith)

/-- Short prices are charged exactly. -/
theorem amount_eq_charge {t : ProviderTokenPriceTier} (ht : t.accepts = true) (hs : t.ShortPrices)
    {u : ProviderTokenUsage} (hinput : u.inputTokens < 10 ^ 9) (houtput : u.outputTokens < 10 ^ 9) :
    (t.amount u).toRat = t.charge u ∧ 0 ≤ t.charge u := by
  have hprices (price : Decimal) (hprice : price ∈ t.prices) :
      0 ≤ price.toRat ∧ OnScale 9 price.toRat ∧ price.toRat < 10 ^ 9 :=
    have h := ProviderTokenPriceTier.price_of_accepts ht hprice
    ⟨h.1, hs price hprice, h.2.1⟩
  simp only [ProviderTokenPriceTier.prices] at hprices
  have hle := u.cachedLeInput
  -- the three kinds of input tokens share the bound on the input
  have hinput' : ((u.inputTokens - u.cachedInputTokens - u.cacheWriteInputTokens : Nat) : ℚ) +
      u.cachedInputTokens + u.cacheWriteInputTokens < 10 ^ 9 := by
    have : u.inputTokens - u.cachedInputTokens - u.cacheWriteInputTokens + u.cachedInputTokens +
        u.cacheWriteInputTokens < 10 ^ 9 := by omega
    exact_mod_cast this
  have houtput' : (u.outputTokens : ℚ) < 10 ^ 9 := by exact_mod_cast houtput
  obtain ⟨h₁, a₁⟩ := shortAmount_times (n := u.inputTokens - u.cachedInputTokens -
    u.cacheWriteInputTokens) (by omega) (hprices t.inputPerMillion (by simp))
  obtain ⟨h₂, a₂⟩ := shortAmount_times (n := u.cachedInputTokens) (by omega)
    (hprices t.cacheReadPerMillion (by simp))
  obtain ⟨h₃, a₃⟩ := shortAmount_times (n := u.cacheWriteInputTokens) (by omega)
    (hprices t.cacheWritePerMillion (by simp))
  obtain ⟨h₄, a₄⟩ := shortAmount_times houtput (hprices t.outputPerMillion (by simp))
  have hn₄ : (0 : ℚ) ≤ u.outputTokens := Nat.cast_nonneg _
  have hn₃ : (0 : ℚ) ≤ u.cacheWriteInputTokens := Nat.cast_nonneg _
  rw [← h₁] at a₁
  rw [← h₂] at a₂
  rw [← h₃] at a₃
  rw [← h₄] at a₄
  have hsum := ((a₁.add a₂).add a₃).add a₄
  have hamount : (t.amount u).toRat = _ / 10 ^ 6 :=
    toRat_perMillion_plus ((a₁.add a₂).representable (by linarith))
      (((a₁.add a₂).add a₃).representable (by linarith)) (hsum.representable (by linarith))
      (hsum.perMillion (by linarith))
  have hcast : ((u.inputTokens - u.cachedInputTokens - u.cacheWriteInputTokens : Nat) : ℚ) =
      u.inputTokens - u.cachedInputTokens - u.cacheWriteInputTokens := by
    rw [Nat.cast_sub (by omega), Nat.cast_sub (by omega)]
  have hcharge : (t.amount u).toRat = t.charge u := by
    rw [hamount, h₁, h₂, h₃, h₄, hcast]
    rfl
  refine ⟨hcharge, ?_⟩
  rw [← hcharge, hamount]
  exact div_nonneg hsum.nonneg (by norm_num)

/-! ## Other prices -/

theorem times_zero (x : Decimal) : ((Decimal.ofNat 0).times x).toRat = 0 := by
  have hzero : ((Decimal.ofNat 0).times x).coefficient = 0 :=
    Decimal.coefficient_fix_of_zero (Nat.zero_mul _)
  rw [Decimal.toRat_eq]
  unfold Decimal.signed
  simp [hzero]

theorem times_one (x : Decimal) : (Decimal.ofNat 1).times x = x.fix := by
  unfold Decimal.times Decimal.ofNat
  simp

/-- What a price is rounded to is charged exactly. -/
theorem shortAmount_fix {t : ProviderTokenPriceTier} (ht : t.accepts = true) {price : Decimal}
    (hprice : price ∈ t.prices) : ShortAmount (10 ^ 9 + 1) price.fix.toRat := by
  obtain ⟨hnn, hlt, hscale, -⟩ := ProviderTokenPriceTier.price_of_accepts ht hprice
  have hle : |price.fix.toRat| ≤ (10 : ℚ) ^ (9 : Int) :=
    Decimal.abs_fix_le_zpow (by decide) (by rw [abs_of_nonneg hnn]; exact_mod_cast hlt.le)
  refine ⟨Decimal.toRat_fix_nonneg hnn, hscale, ?_⟩
  have := (le_abs_self _).trans hle
  norm_num at this ⊢
  linarith

/-- One token of a kind is charged with the rounded price. -/
theorem exists_token {t : ProviderTokenPriceTier} (ht : t.accepts = true) {price : Decimal}
    (hprice : price ∈ t.prices) : ∃ u : ProviderTokenUsage, u.inputTokens ≤ 1 ∧
      u.outputTokens ≤ 1 ∧ (t.amount u).toRat = price.fix.toRat / 10 ^ 6 ∧
      t.charge u = price.toRat / 10 ^ 6 := by
  have hshort := shortAmount_fix ht hprice
  have hvalue := hshort.representable (by norm_num)
  have hdiv := hshort.perMillion (by norm_num)
  have hzero : Decimal.Representable 0 := ⟨0, 0, by simp, by norm_num, by decide⟩
  simp only [ProviderTokenPriceTier.prices, List.mem_cons, List.not_mem_nil, or_false] at hprice
  rcases hprice with rfl | rfl | rfl | rfl
  · refine ⟨⟨1, 0, 0, 0, 0, none, by decide, by decide⟩, le_rfl, Nat.zero_le 1, ?_, ?_⟩
    · refine (toRat_perMillion_plus ?_ ?_ ?_ ?_).trans ?_ <;>
        simp only [times_zero, Nat.sub_zero, times_one, add_zero] <;> assumption
    · simp [ProviderTokenPriceTier.charge]
  · refine ⟨⟨1, 1, 0, 0, 0, none, by decide, by decide⟩, le_rfl, Nat.zero_le 1, ?_, ?_⟩
    · refine (toRat_perMillion_plus ?_ ?_ ?_ ?_).trans ?_ <;>
        simp only [times_zero, Nat.sub_self, times_one, add_zero, zero_add] <;> assumption
    · simp [ProviderTokenPriceTier.charge]
  · refine ⟨⟨1, 0, 1, 0, 0, none, by decide, by decide⟩, le_rfl, Nat.zero_le 1, ?_, ?_⟩
    · refine (toRat_perMillion_plus ?_ ?_ ?_ ?_).trans ?_ <;>
        simp only [times_zero, Nat.sub_zero, Nat.sub_self, times_one, add_zero, zero_add] <;> assumption
    · simp [ProviderTokenPriceTier.charge]
  · refine ⟨⟨0, 0, 0, 1, 0, none, by decide, by decide⟩, Nat.zero_le 1, le_rfl, ?_, ?_⟩
    · refine (toRat_perMillion_plus ?_ ?_ ?_ ?_).trans ?_ <;>
        simp only [times_zero, Nat.sub_zero, times_one, add_zero, zero_add] <;> assumption
    · simp [ProviderTokenPriceTier.charge]

/-- A table that charges small calls under the tier. -/
def tableOf (t : ProviderTokenPriceTier) : ProviderPricing :=
  ⟨"v1", "USD", match t.upToInputTokens with
    | none => [t]
    | some _ => [t, { t with upToInputTokens := none }]⟩

theorem accepts_tableOf {t : ProviderTokenPriceTier} (ht : t.accepts = true) :
    (tableOf t).accepts = true := by
  rw [ProviderPricing.accepts_iff]
  have hrest : ProviderTokenPriceTier.accepts { t with upToInputTokens := none } = true := by
    unfold ProviderTokenPriceTier.accepts at ht ⊢
    rw [Bool.and_eq_true] at ht
    exact ht.2
  unfold tableOf
  cases hlimit : t.upToInputTokens with
  | none =>
    refine ⟨(by decide : lengthBetween 1 100 "v1".length = true), (by decide : isCurrency "USD" = true),
      rfl, by simpa using ht, ?_⟩
    simp [ProviderPricing.validateTiers, hlimit]
  | some n =>
    refine ⟨(by decide : lengthBetween 1 100 "v1".length = true), (by decide : isCurrency "USD" = true),
      rfl, by simpa using ⟨ht, hrest⟩, ?_⟩
    simp [ProviderPricing.validateTiers, hlimit]

/-- The first tier of the table is the one that it was made for. -/
theorem firstTier_tableOf {t : ProviderTokenPriceTier} (ht : t.accepts = true) {n : Nat}
    (hn : n ≤ 1) : ∃ i, (tableOf t).FirstTier n i ∧ (tableOf t).tiers.get i = t := by
  have hadmits : t.admits n = true := by
    unfold ProviderTokenPriceTier.accepts at ht
    rw [Bool.and_eq_true] at ht
    unfold ProviderTokenPriceTier.admits
    cases hlimit : t.upToInputTokens with
    | none => rfl
    | some m =>
      have hm : 0 < m := by simpa [hlimit] using ht.1
      simp only [Option.all_some, decide_eq_true_iff]
      omega
  have hhead : ∃ rest, (tableOf t).tiers = t :: rest := by
    unfold tableOf
    cases t.upToInputTokens <;> exact ⟨_, rfl⟩
  obtain ⟨rest, htiers⟩ := hhead
  have hlt : 0 < (tableOf t).tiers.length := by simp [htiers]
  have hget : (tableOf t).tiers.get ⟨0, hlt⟩ = t := by simp [htiers]
  exact ⟨⟨0, hlt⟩, ⟨by rw [hget]; exact hadmits, fun j hj => absurd hj (Nat.not_lt_zero _)⟩, hget⟩

/-! ## The theorem -/

/-- **Exactly one tier is the first that admits the input, and the estimate is its charge, exactly
if the prices of that tier are multiples of `10 ^ -9`.** -/
theorem estimateCost_exact_iff {t : ProviderTokenPriceTier} (ht : t.accepts = true) :
    (∀ (p : ProviderPricing) (u : ProviderTokenUsage), p.accepts = true →
      u.inputTokens < 10 ^ 9 → u.outputTokens < 10 ^ 9 →
      ∃! i : Fin p.tiers.length, p.FirstTier u.inputTokens i ∧
        ∃ cost, estimateCost u (some p) = .ok (some cost) ∧ 0 ≤ cost.amount.toRat ∧
          (p.tiers.get i = t → cost.amount.toRat = t.charge u)) ↔ t.ShortPrices := by
  constructor
  · intro h price hprice
    by_contra hscale
    obtain ⟨u, hinput, houtput, hamount, hcharge⟩ := exists_token ht hprice
    obtain ⟨i, ⟨hfirst, cost, hcost, -, hexact⟩, -⟩ :=
      h (tableOf t) u (accepts_tableOf ht) (by omega) (by omega)
    obtain ⟨j, hj, hget⟩ := firstTier_tableOf ht hinput
    obtain rfl := hj.unique hfirst
    obtain ⟨k, hk, cost', hcost', hamount', -⟩ := estimateCost_tier (accepts_tableOf ht) u
    obtain rfl := hk.unique hfirst
    rw [hcost] at hcost'
    cases hcost'
    have hsame := hexact hget
    rw [hamount', hget, hamount, hcharge] at hsame
    exact (ProviderTokenPriceTier.price_of_accepts ht hprice).2.2.2 hscale
      ((div_left_inj' (by norm_num)).1 hsame)
  · intro hs p u hp hinput houtput
    obtain ⟨i, hfirst, cost, hcost, hamount, hnn⟩ := estimateCost_tier hp u
    refine ⟨i, ⟨hfirst, cost, hcost, hnn, fun hget => ?_⟩, fun j hj => hj.1.unique hfirst⟩
    rw [hamount, hget]
    exact (amount_eq_charge ht hs hinput houtput).1

/-! ## Two prices -/

/-- A tier with one price for every kind of token. -/
def flatTier (limit : Option Nat) (price : Decimal) : ProviderTokenPriceTier :=
  ⟨limit, price, price, price, price⟩

/-- The longest price of nine decimal places. -/
def longestTier : ProviderTokenPriceTier := flatTier (some 200000) ⟨false, 999999999999999999, -9⟩

theorem estimateCost_exact_longest :
    (longestTier.accepts = true ∧ longestTier.ShortPrices) ∧
    ∀ (p : ProviderPricing) (u : ProviderTokenUsage), p.accepts = true →
      u.inputTokens < 10 ^ 9 → u.outputTokens < 10 ^ 9 →
      ∃! i : Fin p.tiers.length, p.FirstTier u.inputTokens i ∧
        ∃ cost, estimateCost u (some p) = .ok (some cost) ∧ 0 ≤ cost.amount.toRat ∧
          (p.tiers.get i = longestTier → cost.amount.toRat = longestTier.charge u) := by
  have haccepts : longestTier.accepts = true := by decide +kernel
  have hshort : longestTier.ShortPrices := fun price hprice => by
    obtain rfl : price = ⟨false, 999999999999999999, -9⟩ := by
      simpa [longestTier, flatTier, ProviderTokenPriceTier.prices] using hprice
    exact Decimal.onScale_of_exponent (by decide)
  exact ⟨⟨haccepts, hshort⟩, (estimateCost_exact_iff haccepts).2 hshort⟩

/-- A price of 28 decimal places, which is rounded to one. -/
def roundedPrice : ProviderPricing := ⟨"v1", "USD", [flatTier none ⟨false, 10 ^ 28 + 1, -28⟩]⟩

def oneToken : ProviderTokenUsage := ⟨1, 0, 0, 0, 0, none, Nat.le_succ 0, le_rfl⟩

/-- **An accepted price is rounded**: one token costs less than it is charged. -/
theorem roundedPrice_loses :
    ¬∀ (p : ProviderPricing) (u : ProviderTokenUsage), p.accepts = true →
      u.inputTokens < 10 ^ 9 → u.outputTokens < 10 ^ 9 →
      ∃! i : Fin p.tiers.length, p.FirstTier u.inputTokens i ∧
        ∃ cost, estimateCost u (some p) = .ok (some cost) ∧ 0 ≤ cost.amount.toRat ∧
          cost.amount.toRat = (p.tiers.get i).charge u := by
  intro h
  have haccepts : roundedPrice.accepts = true := by decide +kernel
  obtain ⟨i, ⟨hfirst, cost, hcost, -, hexact⟩, -⟩ :=
    h roundedPrice oneToken haccepts (by decide) (by decide)
  obtain ⟨j, hj, cost', hcost', hamount, -⟩ := estimateCost_tier haccepts oneToken
  rw [hcost] at hcost'
  cases hcost'
  obtain rfl := hj.unique hfirst
  rw [hamount] at hexact
  have hdiffer : ∀ i : Fin roundedPrice.tiers.length,
      ((roundedPrice.tiers.get i).amount oneToken).toRat ≠
        (roundedPrice.tiers.get i).charge oneToken := by
    decide +kernel
  exact hdiffer j hexact

end PaperGrading
