import Mathlib.Logic.Unique

/-!
# Checks and outcomes

A program that raises is an `Except`.  `ensure` raises unless a condition holds, and `Ends P E`
says how a program may end: with a result that satisfies `P` or an error that satisfies `E`.

    Ends P E x → (∀ a, P a → Ends Q E (f a)) → Ends Q E (x >>= f)          (Ends.bind)
    what one round of a loop keeps, the loop keeps                          (Ends.foldlM)
-/

namespace PaperGrading

/-- `if not condition: raise error`. -/
def ensure {ε : Type} (condition : Bool) (error : ε) : Except ε Unit :=
  if condition then .ok () else .error error

@[simp] theorem ensure_eq_ok {ε : Type} {b : Bool} {e : ε} {u : Unit} :
    ensure b e = .ok u ↔ b = true := by
  unfold ensure
  split <;> simp_all

theorem bind_eq_ok {ε α β : Type} {x : Except ε α} {f : α → Except ε β} {b : β} :
    (x >>= f) = .ok b ↔ ∃ a, x = .ok a ∧ f a = .ok b := by
  cases x with
  | error e => simp [bind, Except.bind]
  | ok a => simp [bind, Except.bind]

theorem bind_unit_eq_ok {ε α : Type} {x : Except ε Unit} {f : Unit → Except ε α} {a : α} :
    (x >>= f) = .ok a ↔ x = .ok () ∧ f () = .ok a := by
  cases x <;> simp [bind, Except.bind]

theorem ensure_eq_error {ε : Type} {b : Bool} {e e' : ε} :
    ensure b e = .error e' ↔ b = false ∧ e = e' := by
  unfold ensure
  cases b <;> simp

theorem bind_eq_error {ε α β : Type} {x : Except ε α} {f : α → Except ε β} {e : ε} :
    (x >>= f) = .error e ↔ x = .error e ∨ ∃ a, x = .ok a ∧ f a = .error e := by
  cases x <;> simp [bind, Except.bind]

theorem bind_unit_eq_error {ε α : Type} {x : Except ε Unit} {f : Unit → Except ε α} {e : ε} :
    (x >>= f) = .error e ↔ x = .error e ∨ x = .ok () ∧ f () = .error e := by
  rw [bind_eq_error, Unique.exists_iff]

/-! ## How a program ends -/

/-- The program returns a value with `P` or raises an error with `E`. -/
inductive Ends {ε α : Type} (P : α → Prop) (E : ε → Prop) : Except ε α → Prop
  | ok {a : α} (h : P a) : Ends P E (.ok a)
  | error {e : ε} (h : E e) : Ends P E (.error e)

namespace Ends

variable {ε α β : Type} {P Q : α → Prop} {E : ε → Prop}

theorem of_ok {a : α} : Ends P E (.ok a : Except ε α) → P a
  | .ok h => h

theorem of_error {e : ε} : Ends P E (.error e : Except ε α) → E e
  | .error h => h

theorem mono {x : Except ε α} (h : Ends P E x) (hPQ : ∀ a, P a → Q a) : Ends Q E x := by
  cases h with
  | ok h => exact .ok (hPQ _ h)
  | error h => exact .error h

theorem bind {R : β → Prop} {x : Except ε α} {f : α → Except ε β} (h : Ends P E x)
    (hf : ∀ a, P a → Ends R E (f a)) : Ends R E (x >>= f) := by
  cases h with
  | ok h => exact hf _ h
  | error h => exact .error h

theorem mapError {ε' : Type} {E' : ε' → Prop} {x : Except ε α} (h : Ends P E x) {f : ε → ε'}
    (hf : ∀ e, E e → E' (f e)) : Ends P E' (x.mapError f) := by
  cases h with
  | ok h => exact .ok h
  | error h => exact .error (hf _ h)

theorem ensure {b : Bool} {e : ε} (h : b = false → E e) :
    Ends (fun _ => b = true) E (ensure b e) := by
  cases b with
  | true => exact .ok rfl
  | false => exact .error (h rfl)

theorem foldlM_after {σ : Type} {f : σ → α → Except ε σ} {I : List α → σ → Prop} {l : List α}
    (hstep : ∀ done a s, a ∈ l → I done s → Ends (I (done ++ [a])) E (f s a)) {done : List α}
    {s : σ} (h : I done s) : Ends (I (done ++ l)) E (l.foldlM f s) := by
  induction l generalizing done s with
  | nil => exact .ok (by rwa [List.append_nil])
  | cons a l ih =>
    rw [List.foldlM_cons]
    refine (hstep done a s List.mem_cons_self h).bind fun s' h' => ?_
    have := ih (fun done b s hb => hstep done b s (List.mem_cons_of_mem a hb)) h'
    rwa [List.append_assoc, List.singleton_append] at this

/-- The invariant may mention the items that are done. -/
theorem foldlM {σ : Type} {f : σ → α → Except ε σ} {I : List α → σ → Prop} {l : List α} {s : σ}
    (h : I [] s) (hstep : ∀ done a s, a ∈ l → I done s → Ends (I (done ++ [a])) E (f s a)) :
    Ends (I l) E (l.foldlM f s) := by
  have := foldlM_after hstep h
  rwa [List.nil_append] at this

theorem forM {f : α → Except ε PUnit} {l : List α}
    (h : ∀ a ∈ l, Ends (fun _ => True) E (f a)) : Ends (fun _ => True) E (l.forM f) := by
  induction l with
  | nil => exact .ok trivial
  | cons a l ih =>
    exact (h a List.mem_cons_self).bind fun _ _ => ih fun b hb => h b (List.mem_cons_of_mem a hb)

end Ends

end PaperGrading
