import Mathlib.Data.List.Nodup
import Mathlib.Data.List.Dedup
import Mathlib.Tactic.Cases

/-!
# A worklist with a bound

`sweep` pops a node, skips it when it is tracked and was seen, refuses it, or pushes what follows
it, until the stack is empty or more than `limit` nodes were inspected.  Nodes that are not tracked
may come without a check, because each of them follows one node only.

    one step keeps what was inspected closed and sound         (Swept.skip, Swept.inspect)
    passed  → nothing reached is refused, and at most `limit` nodes are reached
    refused → a refused node is reached
    tooMany → more than `limit` nodes are reached              (sweep_start_sound)
-/

namespace Worklist

variable {V : Type*}

/-! ## Algorithm -/

inductive Outcome (V : Type*) where
  | passed
  | refused (node : V)
  | tooMany

/-- The nodes that the sweep has to inspect. -/
inductive Reached (next : V → List V) (start : V) : V → Prop where
  | start : Reached next start start
  | step {u v : V} : Reached next start u → v ∈ next u → Reached next start v

section

variable [DecidableEq V] (next : V → List V) (refuses tracked : V → Bool) (limit : Nat)

def sweep : Nat → List V → List V → Outcome V
  | _, _, [] => .passed
  | inspected, seen, v :: stack =>
    if tracked v && seen.contains v then sweep inspected seen stack
    else if limit < inspected + 1 then .tooMany
    else if refuses v then .refused v
    else sweep (inspected + 1) (if tracked v then v :: seen else seen) ((next v).reverse ++ stack)
  termination_by inspected _ stack => (limit - inspected, stack.length)
  decreasing_by
    · simp [Prod.lex_def]
    · simp only [Prod.lex_def]
      omega

end

/-- Each node that is not tracked follows one node, once. -/
structure OneParent (next : V → List V) (tracked : V → Bool) (start : V) : Prop where
  start : tracked start = true
  parent : ∀ u u' w, w ∈ next u → w ∈ next u' → tracked w = false → u = u'
  once : ∀ u, ((next u).filter fun w => !tracked w).Nodup

/-! ## The invariant -/

/-- `done` holds what was inspected. -/
structure Swept (next : V → List V) (refuses tracked : V → Bool) (start : V)
    (done seen stack : List V) : Prop where
  nodup : done.Nodup
  seen : ∀ v, v ∈ seen ↔ v ∈ done ∧ tracked v = true
  fine : ∀ v ∈ done, refuses v = false
  reached : ∀ v, v ∈ done ∨ v ∈ stack → Reached next start v
  covered : start ∈ done ∨ start ∈ stack
  closed : ∀ u ∈ done, ∀ v ∈ next u, v ∈ done ∨ v ∈ stack
  parent : ∀ v, v ∈ done ∨ v ∈ stack → tracked v = false → ∃ u ∈ done, v ∈ next u
  fresh : ∀ v ∈ stack, tracked v = false → v ∉ done
  once : (stack.filter fun w => !tracked w).Nodup

section

variable {next : V → List V} {refuses tracked : V → Bool} {start : V} {done seen stack : List V}
  {v : V}

theorem swept_start (h : tracked start = true) : Swept next refuses tracked start [] [] [start] where
  nodup := List.nodup_nil
  seen := by simp
  fine := by simp
  reached := by
    rintro v (h | h)
    · cases h
    · rw [List.mem_singleton.1 h]
      exact .start
  covered := .inr (List.mem_singleton.2 rfl)
  closed := by simp
  parent := by
    rintro v (hv | hv) hu
    · cases hv
    · rw [List.mem_singleton.1 hv, h] at hu
      cases hu
  fresh := by simp
  once := by simp [h]

/-- A tracked node that was seen is left out. -/
theorem Swept.skip (h : Swept next refuses tracked start done seen (v :: stack))
    (hv : tracked v = true) (hseen : v ∈ seen) : Swept next refuses tracked start done seen stack := by
  have hdone : v ∈ done := ((h.seen v).1 hseen).1
  have hmem {w : V} (hw : w ∈ done ∨ w ∈ v :: stack) : w ∈ done ∨ w ∈ stack := by
    rcases hw with hw | hw
    · exact .inl hw
    · rcases List.mem_cons.1 hw with rfl | hw
      · exact .inl hdone
      · exact .inr hw
  have hkeep {w : V} (hw : w ∈ done ∨ w ∈ stack) : w ∈ done ∨ w ∈ v :: stack :=
    hw.imp_right (List.mem_cons_of_mem v)
  refine ⟨h.nodup, h.seen, h.fine, fun w hw => h.reached w (hkeep hw), hmem h.covered,
    fun u hu w hw => hmem (h.closed u hu w hw), fun w hw => h.parent w (hkeep hw),
    fun w hw => h.fresh w (List.mem_cons_of_mem v hw), ?_⟩
  have honce := h.once
  rwa [List.filter_cons_of_neg (by simp [hv])] at honce

/-- The node on top of the stack was not inspected yet. -/
theorem Swept.top_fresh (h : Swept next refuses tracked start done seen (v :: stack))
    (hv : ¬(tracked v = true ∧ v ∈ seen)) : v ∉ done := by
  intro hdone
  cases htracked : tracked v with
  | true => exact hv ⟨htracked, (h.seen v).2 ⟨hdone, htracked⟩⟩
  | false => exact h.fresh v List.mem_cons_self htracked hdone

theorem Swept.inspect (hone : OneParent next tracked start)
    (h : Swept next refuses tracked start done seen (v :: stack))
    (hv : ¬(tracked v = true ∧ v ∈ seen)) (hfine : refuses v = false) :
    Swept next refuses tracked start (v :: done) (if tracked v then v :: seen else seen)
      ((next v).reverse ++ stack) := by
  have hfresh := h.top_fresh hv
  have hreached := h.reached v (.inr List.mem_cons_self)
  -- nothing that follows the node and is not tracked was met before
  have hnew : ∀ w ∈ next v, tracked w = false → w ∉ done ∧ w ∉ v :: stack := by
    intro w hw hu
    have hmet : ¬(w ∈ done ∨ w ∈ v :: stack) := by
      intro hmet
      obtain ⟨u, hdone, hnext⟩ := h.parent w hmet hu
      exact hfresh (hone.parent u v w hnext hw hu ▸ hdone)
    exact not_or.1 hmet
  refine ⟨List.nodup_cons.2 ⟨hfresh, h.nodup⟩, fun w => ?_, ?_, ?_, ?_, ?_, ?_, ?_, ?_⟩
  · cases htracked : tracked v with
    | true =>
      rw [if_pos rfl, List.mem_cons, List.mem_cons, h.seen w]
      constructor
      · rintro (rfl | ⟨hdone, hw⟩)
        · exact ⟨.inl rfl, htracked⟩
        · exact ⟨.inr hdone, hw⟩
      · rintro ⟨rfl | hdone, hw⟩
        · exact .inl rfl
        · exact .inr ⟨hdone, hw⟩
    | false =>
      rw [if_neg (by simp), List.mem_cons, h.seen w]
      constructor
      · exact fun hw => ⟨.inr hw.1, hw.2⟩
      · rintro ⟨rfl | hdone, hw⟩
        · rw [htracked] at hw
          cases hw
        · exact ⟨hdone, hw⟩
  · rw [List.forall_mem_cons]
    exact ⟨hfine, h.fine⟩
  · intro w hw
    rw [List.mem_cons, List.mem_append, List.mem_reverse] at hw
    rcases hw with (rfl | hw) | hw | hw
    · exact hreached
    · exact h.reached w (.inl hw)
    · exact hreached.step hw
    · exact h.reached w (.inr (List.mem_cons_of_mem v hw))
  · rcases h.covered with hs | hs
    · exact .inl (List.mem_cons_of_mem v hs)
    · rcases List.mem_cons.1 hs with rfl | hs
      · exact .inl List.mem_cons_self
      · exact .inr (List.mem_append_right _ hs)
  · intro u hu w hw
    rcases List.mem_cons.1 hu with rfl | hu
    · exact .inr (List.mem_append_left _ (List.mem_reverse.2 hw))
    · rcases h.closed u hu w hw with hw | hw
      · exact .inl (List.mem_cons_of_mem v hw)
      · rcases List.mem_cons.1 hw with rfl | hw
        · exact .inl List.mem_cons_self
        · exact .inr (List.mem_append_right _ hw)
  · intro w hw hu
    rw [List.mem_cons, List.mem_append, List.mem_reverse] at hw
    have hold (hw : w ∈ done ∨ w ∈ v :: stack) : ∃ u ∈ v :: done, w ∈ next u := by
      obtain ⟨u, hdone, hnext⟩ := h.parent w hw hu
      exact ⟨u, List.mem_cons_of_mem v hdone, hnext⟩
    rcases hw with (rfl | hw) | hw | hw
    · exact hold (.inr List.mem_cons_self)
    · exact hold (.inl hw)
    · exact ⟨v, List.mem_cons_self, hw⟩
    · exact hold (.inr (List.mem_cons_of_mem v hw))
  · intro w hw hu hdone
    have honce := h.once
    rcases List.mem_append.1 hw with hnext | hstack
    · obtain ⟨hold, hstack⟩ := hnew w (List.mem_reverse.1 hnext) hu
      rcases List.mem_cons.1 hdone with rfl | hdone
      · exact hstack List.mem_cons_self
      · exact hold hdone
    · rcases List.mem_cons.1 hdone with rfl | hdone
      · rw [List.filter_cons_of_pos (by simp [hu]), List.nodup_cons] at honce
        exact honce.1 (List.mem_filter.2 ⟨hstack, by simp [hu]⟩)
      · exact h.fresh w (List.mem_cons_of_mem v hstack) hu hdone
  · have honce := h.once
    rw [List.filter_append, List.nodup_append]
    refine ⟨?_, ?_, fun a ha b hb hab => ?_⟩
    · rw [List.filter_reverse, List.nodup_reverse]
      exact hone.once v
    · exact honce.sublist ((List.sublist_cons_self v stack).filter _)
    · rw [List.mem_filter, List.mem_reverse] at ha
      have hu : tracked a = false := by simpa using ha.2
      exact (hnew a ha.1 hu).2 (List.mem_cons_of_mem v (hab ▸ (List.mem_filter.1 hb).1))

/-! ## Outcomes -/

/-- An empty stack leaves everything reached among what was inspected. -/
theorem Swept.mem_iff (h : Swept next refuses tracked start done seen []) :
    v ∈ done ↔ Reached next start v := by
  have hcovered : start ∈ done := h.covered.resolve_right List.not_mem_nil
  refine ⟨fun hv => h.reached v (.inl hv), fun hv => ?_⟩
  induction hv with
  | start => exact hcovered
  | step _ hnext ih => exact (h.closed _ ih _ hnext).resolve_right List.not_mem_nil

/-- What an outcome says of the nodes that are reached. -/
def Sound (next : V → List V) (refuses : V → Bool) (start : V) (limit : Nat) : Outcome V → Prop
  | .passed => (∀ v, Reached next start v → refuses v = false) ∧
      ∃ l : List V, l.length ≤ limit ∧ ∀ v, Reached next start v → v ∈ l
  | .refused v => Reached next start v ∧ refuses v = true
  | .tooMany => ∃ l : List V, l.Nodup ∧ limit < l.length ∧ ∀ v ∈ l, Reached next start v

theorem sweep_sound [DecidableEq V] {limit : Nat} (hone : OneParent next tracked start)
    {inspected : Nat} (h : Swept next refuses tracked start done seen stack)
    (hdone : done.length = inspected) (hle : inspected ≤ limit) :
    Sound next refuses start limit (sweep next refuses tracked limit inspected seen stack) := by
  induction inspected, seen, stack using sweep.induct next refuses tracked limit
    generalizing done with
  | case1 inspected seen =>
    rw [sweep]
    exact ⟨fun v hv => h.fine v (h.mem_iff.2 hv), done, by omega, fun v => h.mem_iff.2⟩
  | case2 inspected seen v stack hskip ih =>
    rw [sweep, if_pos hskip]
    rw [Bool.and_eq_true, List.contains_iff_mem] at hskip
    exact ih (h.skip hskip.1 hskip.2) hdone hle
  | case3 inspected seen v stack hskip hlimit =>
    rw [sweep, if_neg hskip, if_pos hlimit]
    rw [Bool.and_eq_true, List.contains_iff_mem] at hskip
    refine ⟨v :: done, List.nodup_cons.2 ⟨h.top_fresh hskip, h.nodup⟩, ?_, ?_⟩
    · rw [List.length_cons, hdone]
      exact hlimit
    · rw [List.forall_mem_cons]
      exact ⟨h.reached v (.inr List.mem_cons_self), fun w hw => h.reached w (.inl hw)⟩
  | case4 inspected seen v stack hskip hlimit hrefuses =>
    rw [sweep, if_neg hskip, if_neg hlimit, if_pos hrefuses]
    exact ⟨h.reached v (.inr List.mem_cons_self), hrefuses⟩
  | case5 inspected seen v stack hskip hlimit hrefuses ih =>
    rw [sweep, if_neg hskip, if_neg hlimit, if_neg hrefuses]
    rw [Bool.and_eq_true, List.contains_iff_mem] at hskip
    refine ih (h.inspect hone hskip (by simpa using hrefuses)) ?_ (by omega)
    rw [List.length_cons, hdone]

/-- **The outcome of a sweep from the start.** -/
theorem sweep_start_sound [DecidableEq V] {limit : Nat} (hone : OneParent next tracked start) :
    Sound next refuses start limit (sweep next refuses tracked limit 0 [] [start]) :=
  sweep_sound hone (swept_start hone.start) rfl (Nat.zero_le _)

end

end Worklist
