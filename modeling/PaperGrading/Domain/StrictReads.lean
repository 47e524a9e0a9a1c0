import PaperGrading.Base.Table
import PaperGrading.Domain.CanonicalJson
import PaperGrading.Domain.Strict

/-!
# Reading an object in any key order

A stored object may come back with its keys in another order, as `jsonb` does.  What the strict
readers make of a field does not depend on it.

    raw.sorted = (.obj gs).sorted → the readers find in `raw` what stands in `gs`      (Reads)
-/

namespace PaperGrading

namespace Js

theorem eq_null_of_sorted {v : Js} (h : v.sorted = Js.null.sorted) : v = .null := by
  cases v <;> simp [sorted] at h ⊢

theorem eq_str_of_sorted {v : Js} {s : String} (h : v.sorted = (Js.str s).sorted) : v = .str s := by
  cases v <;> simp [sorted] at h ⊢
  exact h

theorem eq_bool_of_sorted {v : Js} {b : Bool} (h : v.sorted = (Js.bool b).sorted) : v = .bool b := by
  cases v <;> simp [sorted] at h ⊢
  exact h

theorem eq_int_of_sorted {v : Js} {n : Int} (h : v.sorted = (Js.int n).sorted) : v = .int n := by
  cases v <;> simp [sorted] at h ⊢
  exact h

theorem eq_float_of_sorted {v : Js} {t : String} (h : v.sorted = (Js.float t).sorted) :
    v = .float t := by
  cases v <;> simp [sorted] at h ⊢
  exact h

/-- An array keeps the order of its elements. -/
theorem eq_arr_of_sorted {v : Js} {ws : List Js} (h : v.sorted = (Js.arr ws).sorted) :
    ∃ vs, v = .arr vs ∧ List.Forall₂ (fun x y => x.sorted = y.sorted) vs ws := by
  cases v with
  | arr vs =>
    refine ⟨vs, rfl, ?_⟩
    simp only [sorted, sortedElems_eq_map, Js.arr.injEq] at h
    rw [← List.forall₂_eq_eq_eq, List.forall₂_map_left_iff, List.forall₂_map_right_iff] at h
    exact h
  | _ => simp [sorted] at h

end Js

/-! ## Objects -/

/-- The fields are those of `gs`, up to the order of keys on every level. -/
structure Reads (fs gs : List (String × Js)) : Prop where
  keys : ∀ f ∈ fs, f.1 ∈ gs.map Prod.fst
  get? : ∀ k v, (k, v) ∈ gs → ∃ w, Js.get? fs k = some w ∧ w.sorted = v.sorted

theorem get?_of_mem {fs : List (String × Js)} (hn : (fs.map Prod.fst).Nodup) {f : String × Js}
    (hf : f ∈ fs) : Js.get? fs f.1 = some f.2 := by
  have hn' : (fs.reverse.map Prod.fst).Nodup := by
    rw [List.map_reverse, List.nodup_reverse]
    exact hn
  unfold Js.get?
  rw [Table.find?_eq_some_of_key hn' (List.mem_reverse.2 hf) _ (by simp) (by simp)]
  rfl

theorem reads_of_sorted {raw : Js} {gs : List (String × Js)} (h : raw.sorted = (Js.obj gs).sorted)
    (hn : (gs.map Prod.fst).Nodup) : ∃ fs, raw = .obj fs ∧ Reads fs gs := by
  cases raw with
  | obj fs =>
    refine ⟨fs, rfl, ?_⟩
    simp only [Js.sorted, Js.obj.injEq, Js.sortedFields_eq_map] at h
    have hperm : (fs.map fun f => (f.1, f.2.sorted)).Perm (gs.map fun g => (g.1, g.2.sorted)) :=
      (h ▸ (List.perm_insertionSort _ _).symm : List.Perm _ _).trans (List.perm_insertionSort _ _)
    have hfst (l : List (String × Js)) : (l.map fun f => (f.1, f.2.sorted)).map Prod.fst =
        l.map Prod.fst := by
      rw [List.map_map]
      rfl
    have hkeys : (fs.map Prod.fst).Perm (gs.map Prod.fst) := by
      have := hperm.map Prod.fst
      rwa [hfst, hfst] at this
    refine ⟨fun f hf => hkeys.mem_iff.1 (List.mem_map_of_mem hf), fun k v hkv => ?_⟩
    have hmem : (k, v.sorted) ∈ fs.map fun f => (f.1, f.2.sorted) :=
      hperm.mem_iff.2 (List.mem_map.2 ⟨(k, v), hkv, rfl⟩)
    obtain ⟨f, hf, he⟩ := List.mem_map.1 hmem
    rw [Prod.mk.injEq] at he
    exact ⟨f.2, he.1 ▸ get?_of_mem (hkeys.nodup_iff.2 hn) hf, he.2⟩
  | _ => simp [Js.sorted] at h

namespace Reads

variable {fs gs : List (String × Js)} (h : Reads fs gs)
include h

theorem strictObject_eq {required optional : List String}
    (hrequired : ∀ k ∈ required, k ∈ gs.map Prod.fst)
    (hkeys : ∀ k ∈ gs.map Prod.fst, k ∈ required ++ optional) :
    strictObject required optional (.obj fs) = some fs := by
  refine if_pos ?_
  rw [Bool.and_eq_true, List.all_eq_true, List.all_eq_true]
  refine ⟨fun k hk => ?_, fun f hf => ?_⟩
  · obtain ⟨⟨k', v⟩, hv, rfl⟩ := List.mem_map.1 (hrequired k hk)
    obtain ⟨w, hw, -⟩ := h.get? k' v hv
    simp [hw]
  · exact List.contains_iff_mem.2 (hkeys f.1 (h.keys f hf))

theorem text {k s : String} (hm : (k, Js.str s) ∈ gs) : strictText fs k = some s := by
  obtain ⟨w, hw, hs⟩ := h.get? k _ hm
  rw [Js.eq_str_of_sorted hs] at hw
  simp [strictText, hw]

theorem bool {k : String} {b : Bool} (hm : (k, Js.bool b) ∈ gs) : strictBool fs k = some b := by
  obtain ⟨w, hw, hs⟩ := h.get? k _ hm
  rw [Js.eq_bool_of_sorted hs] at hw
  simp [strictBool, hw]

theorem positive {k : String} {n : Nat} (hm : (k, Js.int n) ∈ gs) (hn : 1 ≤ n) :
    strictPositive fs k = some n := by
  obtain ⟨w, hw, hs⟩ := h.get? k _ hm
  rw [Js.eq_int_of_sorted hs] at hw
  have hle : (1 : Int) ≤ n := by exact_mod_cast hn
  simp [strictPositive, hw, hle]

theorem literal {k s : String} (hm : (k, Js.str s) ∈ gs) : literalOrMissing fs k s = true := by
  obtain ⟨w, hw, hs⟩ := h.get? k _ hm
  rw [Js.eq_str_of_sorted hs] at hw
  simp [literalOrMissing, hw]

/-- A model inside the model. -/
theorem nested {α : Type} {k : String} {v : Js} {x : α} {parse : Js → Option α} (hm : (k, v) ∈ gs)
    (hparse : ∀ raw : Js, raw.sorted = v.sorted → parse raw = some x) :
    (Js.get? fs k).bind parse = some x := by
  obtain ⟨w, hw, hs⟩ := h.get? k _ hm
  rw [hw, Option.bind_some, hparse w hs]

/-- Each element is read on its own. -/
theorem tuple {α : Type} {k : String} {l : List α} {toJs : α → Js} {parse : Js → Option α}
    (hm : (k, Js.arr (l.map toJs)) ∈ gs)
    (hparse : ∀ x ∈ l, ∀ raw : Js, raw.sorted = (toJs x).sorted → parse raw = some x) :
    strictTuple parse fs k = some l := by
  obtain ⟨w, hw, hs⟩ := h.get? k _ hm
  obtain ⟨vs, rfl, hvs⟩ := Js.eq_arr_of_sorted hs
  have hread : vs.mapM parse = some l := by
    clear hm hw hs
    induction l generalizing vs with
    | nil =>
      cases hvs
      rfl
    | cons x l ih =>
      cases hvs with
      | cons hv hvs =>
        rw [List.mapM_cons, hparse x List.mem_cons_self _ hv,
          ih (fun y hy => hparse y (List.mem_cons_of_mem x hy)) _ hvs]
        rfl
  simp [strictTuple, hw, hread]

theorem strings {k : String} {l : List String} (hm : (k, Js.arr (l.map Js.str)) ∈ gs) :
    strictTuple strictString fs k = some l :=
  h.tuple hm fun x _ raw hraw => by rw [Js.eq_str_of_sorted hraw, strictString]

end Reads

end PaperGrading
