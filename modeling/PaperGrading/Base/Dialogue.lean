import Mathlib.Data.List.Basic
import Mathlib.Tactic.Cases

/-!
# Dialogues

A dialogue asks queries and goes on with what it is answered; a handler answers them and keeps a
state.  What every answer keeps, every run keeps.  Two handlers that answer alike except where `stop`
holds run a dialogue alike up to the first such query.

    P t → (∀ q t, P t → P (h q t).2) → P (run h d t).2                               (run_invariant)
    no query is stopped → the two runs have one result and related states         (run_of_stop_none)
    the first stopped query → the second run goes on from there, in a related state
                                                                                  (run_of_stop_some)
-/

/-- A program that asks queries of `Q`, each answered by an `A q`, and ends with a result. -/
inductive Dialogue (Q : Type) (A : Q → Type) (ρ : Type) where
  | done (result : ρ)
  | ask (query : Q) (next : A query → Dialogue Q A ρ)

namespace Dialogue

variable {Q : Type} {A : Q → Type} {ρ τ υ : Type}

/-! ## Runs -/

/-- What answers the queries. -/
abbrev Handler (Q : Type) (A : Q → Type) (τ : Type) : Type := (q : Q) → τ → A q × τ

def run (h : Handler Q A τ) : Dialogue Q A ρ → τ → ρ × τ
  | done r, t => (r, t)
  | ask q next, t => run h (next (h q t).1) (h q t).2

/-- The queries of a run, each with its answer. -/
def transcript (h : Handler Q A τ) : Dialogue Q A ρ → τ → List ((q : Q) × A q)
  | done _, _ => []
  | ask q next, t => ⟨q, (h q t).1⟩ :: transcript h (next (h q t).1) (h q t).2

/-- A query that waits for its answer. -/
structure Waiting (Q : Type) (A : Q → Type) (ρ τ : Type) where
  query : Q
  next : A query → Dialogue Q A ρ
  state : τ

/-- The first query of a run that `stop` holds of. -/
def firstStop (h : Handler Q A τ) (stop : Q → τ → Bool) : Dialogue Q A ρ → τ → Option (Waiting Q A ρ τ)
  | done _, _ => none
  | ask q next, t =>
    if stop q t then some ⟨q, next, t⟩ else firstStop h stop (next (h q t).1) (h q t).2

/-! ## Lemmas -/

variable {h : Handler Q A τ} {h' : Handler Q A υ} {stop : Q → τ → Bool} {R : τ → υ → Prop}

theorem run_invariant {P : τ → Prop} (hstep : ∀ q t, P t → P (h q t).2) (d : Dialogue Q A ρ) {t : τ}
    (ht : P t) : P (run h d t).2 := by
  induction d generalizing t with
  | done => exact ht
  | ask q next ih => exact ih _ (hstep q t ht)

/-- The first stopped query is stopped, in a state that the queries before it have kept. -/
theorem firstStop_invariant {P : τ → Prop} (hstep : ∀ q t, P t → stop q t = false → P (h q t).2)
    {d : Dialogue Q A ρ} {t : τ} (ht : P t) {x : Waiting Q A ρ τ} (hx : firstStop h stop d t = some x) :
    P x.state ∧ stop x.query x.state = true := by
  induction d generalizing t with
  | done => cases hx
  | ask q next ih =>
    unfold firstStop at hx
    by_cases hs : stop q t = true
    · rw [if_pos hs] at hx
      cases hx
      exact ⟨ht, hs⟩
    · rw [if_neg hs] at hx
      exact ih _ (hstep q t ht (by simpa using hs)) hx

/-- A run that meets no stopped query keeps what the others keep. -/
theorem run_invariant_of_stop_none {P : τ → Prop} (hstep : ∀ q t, P t → stop q t = false → P (h q t).2)
    {d : Dialogue Q A ρ} {t : τ} (ht : P t) (hnone : firstStop h stop d t = none) : P (run h d t).2 := by
  induction d generalizing t with
  | done => exact ht
  | ask q next ih =>
    unfold firstStop at hnone
    by_cases hs : stop q t = true
    · rw [if_pos hs] at hnone
      cases hnone
    · rw [if_neg hs] at hnone
      exact ih _ (hstep q t ht (by simpa using hs)) hnone

/-- The two handlers answer alike, except for the stopped queries. -/
def AgreeUntil (h : Handler Q A τ) (h' : Handler Q A υ) (stop : Q → τ → Bool) (R : τ → υ → Prop) : Prop :=
  ∀ q t u, R t u → stop q t = false → (h' q u).1 = (h q t).1 ∧ R (h q t).2 (h' q u).2

theorem run_of_stop_none (hagree : AgreeUntil h h' stop R) {d : Dialogue Q A ρ} {t : τ} {u : υ}
    (hR : R t u) (hnone : firstStop h stop d t = none) :
    (run h' d u).1 = (run h d t).1 ∧ R (run h d t).2 (run h' d u).2 := by
  induction d generalizing t u with
  | done => exact ⟨rfl, hR⟩
  | ask q next ih =>
    unfold firstStop at hnone
    by_cases hs : stop q t = true
    · rw [if_pos hs] at hnone
      cases hnone
    · rw [if_neg hs] at hnone
      obtain ⟨hanswer, hR'⟩ := hagree q t u hR (by simpa using hs)
      show (run h' (next (h' q u).1) (h' q u).2).1 = _ ∧ R _ (run h' (next (h' q u).1) (h' q u).2).2
      rw [hanswer]
      exact ih _ hR' hnone

theorem run_of_stop_some (hagree : AgreeUntil h h' stop R) {d : Dialogue Q A ρ} {t : τ} {u : υ}
    (hR : R t u) {x : Waiting Q A ρ τ} (hx : firstStop h stop d t = some x) :
    ∃ u', R x.state u' ∧ run h' d u = run h' (ask x.query x.next) u' := by
  induction d generalizing t u with
  | done => cases hx
  | ask q next ih =>
    unfold firstStop at hx
    by_cases hs : stop q t = true
    · rw [if_pos hs] at hx
      cases hx
      exact ⟨u, hR, rfl⟩
    · rw [if_neg hs] at hx
      obtain ⟨hanswer, hR'⟩ := hagree q t u hR (by simpa using hs)
      obtain ⟨u', hu', hrun⟩ := ih _ hR' hx
      refine ⟨u', hu', ?_⟩
      show run h' (next (h' q u).1) (h' q u).2 = _
      rw [hanswer]
      exact hrun

/-- A run goes on from its first stopped query. -/
theorem run_firstStop {d : Dialogue Q A ρ} {t : τ} {x : Waiting Q A ρ τ}
    (hx : firstStop h stop d t = some x) : run h d t = run h (ask x.query x.next) x.state := by
  have hself : AgreeUntil h h stop Eq := by
    rintro q t _ rfl -
    exact ⟨rfl, rfl⟩
  obtain ⟨u, rfl, hrun⟩ := run_of_stop_some hself rfl hx
  exact hrun

end Dialogue
