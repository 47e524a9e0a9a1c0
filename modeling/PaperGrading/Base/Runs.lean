import Mathlib.Data.List.Basic
import Mathlib.Tactic.Cases

/-!
# Runs of a total step function

A system is a step function `step : σ → α → σ`; a rejected action leaves the state
as it is.  `run` performs a list of actions; `Guarded good` says that every action
of the list meets `good` in the state it is applied to.

    P s → (∀ s a, P s → P (step s a)) → P (run step s as)                       (run_invariant)
    P s → Guarded … → (∀ s a, P s → good s a → P (step s a)) → P (run step s as)   (run_invariant_of_guarded)
    a preorder respected by each step relates both ends of a run                 (run_mono)
-/

namespace Runs

variable {σ α : Type*}

/-! ## Definitions -/

/-- The state after the actions `as`, performed in order. -/
def run (step : σ → α → σ) (s : σ) (as : List α) : σ :=
  as.foldl step s

/-- Every action of the list meets `good` in the state in which it is performed. -/
def Guarded (step : σ → α → σ) (good : σ → α → Prop) : σ → List α → Prop
  | _, [] => True
  | s, a :: as => good s a ∧ Guarded step good (step s a) as

/-- A guard that can be checked can be checked along a run. -/
instance decidableGuarded (step : σ → α → σ) (good : σ → α → Prop)
    [∀ s a, Decidable (good s a)] : ∀ s as, Decidable (Guarded step good s as)
  | _, [] => .isTrue trivial
  | s, a :: as =>
    have := decidableGuarded step good (step s a) as
    inferInstanceAs (Decidable (good s a ∧ Guarded step good (step s a) as))

/-! ## Lemmas -/

variable {step : σ → α → σ} {good : σ → α → Prop}

@[simp] theorem run_nil (s : σ) : run step s [] = s := rfl

@[simp] theorem run_cons (s : σ) (a : α) (as : List α) :
    run step s (a :: as) = run step (step s a) as := rfl

theorem run_append (s : σ) (as bs : List α) :
    run step s (as ++ bs) = run step (run step s as) bs := by
  simp [run, List.foldl_append]

theorem guarded_append {s : σ} {as bs : List α} :
    Guarded step good s (as ++ bs) ↔
      Guarded step good s as ∧ Guarded step good (run step s as) bs := by
  induction as generalizing s with
  | nil => simp [Guarded]
  | cons a as ih => simp [Guarded, ih, and_assoc]

theorem guarded_and {good' : σ → α → Prop} {s : σ} {as : List α} (h : Guarded step good s as)
    (h' : Guarded step good' s as) : Guarded step (fun s a => good s a ∧ good' s a) s as := by
  induction as generalizing s with
  | nil => trivial
  | cons a as ih => exact ⟨⟨h.1, h'.1⟩, ih h.2 h'.2⟩

/-- What every step keeps holds at the end of every run. -/
theorem run_invariant {P : σ → Prop} {s : σ} (as : List α) (h0 : P s)
    (hstep : ∀ s a, P s → P (step s a)) : P (run step s as) := by
  induction as generalizing s with
  | nil => exact h0
  | cons a as ih => exact ih (hstep s a h0)

/-- What no action of a run touches is as it was. -/
theorem run_frame {β : Type*} {f : σ → β} {as : List α}
    (h : ∀ a ∈ as, ∀ s, f (step s a) = f s) (s : σ) : f (run step s as) = f s := by
  induction as generalizing s with
  | nil => rfl
  | cons a as ih =>
    rw [List.forall_mem_cons] at h
    rw [run_cons, ih h.2, h.1]

/-- What every good step keeps holds at the end of every guarded run. -/
theorem run_invariant_of_guarded {P : σ → Prop} {s : σ} {as : List α} (h0 : P s)
    (hg : Guarded step good s as) (hstep : ∀ s a, P s → good s a → P (step s a)) :
    P (run step s as) := by
  induction as generalizing s with
  | nil => exact h0
  | cons a as ih => exact ih (hstep s a h0 hg.1) hg.2

/-- A preorder that each step climbs (while `P` holds) is climbed by the whole run. -/
theorem run_mono {P : σ → Prop} {R : σ → σ → Prop} {s : σ} (as : List α) (h0 : P s)
    (hrefl : ∀ s, R s s) (htrans : ∀ {s t u}, R s t → R t u → R s u)
    (hP : ∀ s a, P s → P (step s a)) (hR : ∀ s a, P s → R s (step s a)) :
    R s (run step s as) := by
  induction as generalizing s with
  | nil => exact hrefl s
  | cons a as ih => exact htrans (hR s a h0) (ih (hP s a h0))

end Runs
