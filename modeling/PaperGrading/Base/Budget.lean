import Mathlib.Data.Finsupp.Weight
import Mathlib.Algebra.BigOperators.Group.List.Basic

/-!
# Budgets

A budget gives every key an amount, all but finitely many zero; its degree is the total.
A list of charges makes a budget of the same total.

    the charges of a key never exceed the budget they make                   (le_ofCharges)
    entries of different keys within a budget sum to at most its total        (sum_le_degree)
-/

namespace Budget

variable {κ : Type*}

/-! ## Charges -/

/-- The budget that a list of charges makes. -/
noncomputable def ofCharges (charges : List (κ × ℕ)) : κ →₀ ℕ :=
  (charges.map fun c => Finsupp.single c.1 c.2).sum

@[simp] theorem ofCharges_nil : ofCharges ([] : List (κ × ℕ)) = 0 := rfl

@[simp] theorem ofCharges_cons (c : κ × ℕ) (charges : List (κ × ℕ)) :
    ofCharges (c :: charges) = Finsupp.single c.1 c.2 + ofCharges charges := by
  simp [ofCharges]

theorem degree_ofCharges (charges : List (κ × ℕ)) :
    (ofCharges charges).degree = (charges.map (·.2)).sum := by
  induction charges with
  | nil => simp
  | cons c charges ih => simp [ih, Finsupp.degree_single]

theorem le_ofCharges {charges : List (κ × ℕ)} {c : κ × ℕ} (h : c ∈ charges) :
    c.2 ≤ ofCharges charges c.1 := by
  induction charges with
  | nil => cases h
  | cons d charges ih =>
    rw [ofCharges_cons, Finsupp.add_apply]
    rcases List.mem_cons.1 h with rfl | h
    · rw [Finsupp.single_eq_same]
      omega
    · have := ih h
      omega

/-! ## Entries -/

theorem ofCharges_eq_zero {charges : List (κ × ℕ)} {k : κ} (h : k ∉ charges.map (·.1)) :
    ofCharges charges k = 0 := by
  induction charges with
  | nil => rfl
  | cons c charges ih =>
    rw [List.map_cons, List.mem_cons, not_or] at h
    rw [ofCharges_cons, Finsupp.add_apply, ih h.2, Finsupp.single_eq_of_ne h.1]

theorem ofCharges_le {entries : List (κ × ℕ)} {B : κ →₀ ℕ} (hn : (entries.map (·.1)).Nodup)
    (hB : ∀ c ∈ entries, c.2 ≤ B c.1) : ofCharges entries ≤ B := by
  induction entries with
  | nil => exact zero_le
  | cons c entries ih =>
    rw [List.map_cons, List.nodup_cons] at hn
    intro k
    rw [ofCharges_cons, Finsupp.add_apply]
    by_cases hk : k = c.1
    · subst hk
      rw [ofCharges_eq_zero hn.1, Finsupp.single_eq_same]
      exact hB c List.mem_cons_self
    · rw [Finsupp.single_eq_of_ne hk, Nat.zero_add]
      exact ih hn.2 (fun d hd => hB d (List.mem_cons_of_mem _ hd)) k

/-- Entries of different keys share the total. -/
theorem sum_le_degree {entries : List (κ × ℕ)} {B : κ →₀ ℕ} (hn : (entries.map (·.1)).Nodup)
    (hB : ∀ c ∈ entries, c.2 ≤ B c.1) : (entries.map (·.2)).sum ≤ B.degree := by
  rw [← degree_ofCharges]
  exact Finsupp.degree_mono (ofCharges_le hn hB)

end Budget
