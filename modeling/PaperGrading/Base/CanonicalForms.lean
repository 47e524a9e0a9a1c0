import Mathlib.Data.List.Sort
import Mathlib.Tactic.Tauto

/-!
# Canonical decomposition and composition

Characters decompose into sequences, the combining ones among them are put in the order of their
classes, and composition replaces a starter and a character after it by one character.  The data is
a parameter, with two laws: what a decomposition yields is not decomposed further, and a composite
decomposes as the pair it stands for.

    decomposed u a = decomposed u b → composed u a = composed u b, and conversely      (composed_iff)
    composed u (composed u l) = composed u l                                     (composed_composed)
    composed u (a ++ c :: b) = composed u a ++ c :: composed u b      for an inert c  (composed_inert)
    a ++ c :: b is composed iff a and b are                           for an inert c (isComposed_inert)
-/

/-- Decompositions, combining classes and primary composites. -/
structure CanonicalData (C : Type*) where
  decompose : C → List C
  combiningClass : C → Nat
  primary : C → C → Option C
  decompose_fixed : ∀ c, ∀ x ∈ decompose c, decompose x = [x]
  decompose_primary : ∀ {a b p}, primary a b = some p → decompose p = decompose a ++ [b]

namespace CanonicalData

variable {C : Type*} (u : CanonicalData C)

/-! ## Algorithm -/

/-- `a` may stand before `b`: they are exchanged when both combine and `b` has the lower class. -/
def InOrder (a b : C) : Prop := ¬(0 < u.combiningClass b ∧ u.combiningClass b < u.combiningClass a)

instance (a b : C) : Decidable (u.InOrder a b) := inferInstanceAs (Decidable (¬_))

def reorder (l : List C) : List C := l.insertionSort u.InOrder

def decomposed (l : List C) : List C := u.reorder (l.flatMap u.decompose)

/-- Composition after the starter `s`, with the `marks` that were left between. -/
def composeAfter (s : C) (marks : List C) : List C → List C
  | [] => s :: marks
  | c :: rest =>
    let blocked := marks.any fun b => u.combiningClass c ≤ u.combiningClass b
    match if blocked then none else u.primary s c with
    | some p => composeAfter p marks rest
    | none =>
      if u.combiningClass c = 0 then s :: marks ++ composeAfter c [] rest
      else composeAfter s (marks ++ [c]) rest

def compose : List C → List C
  | [] => []
  | c :: rest => if u.combiningClass c = 0 then u.composeAfter c [] rest else c :: compose rest

def composed (l : List C) : List C := u.compose (u.decomposed l)

def IsComposed (l : List C) : Prop := u.composed l = l

/-! ## Reordering -/

/-- Exchanges of adjacent characters with distinct classes, none of them a starter. -/
inductive Reordered : List C → List C → Prop where
  | refl (l : List C) : Reordered l l
  | swap (l : List C) {x y : C} (l' : List C) (hx : 0 < u.combiningClass x)
      (hy : 0 < u.combiningClass y) (hne : u.combiningClass x ≠ u.combiningClass y) :
      Reordered (l ++ x :: y :: l') (l ++ y :: x :: l')
  | trans {l l' l'' : List C} : Reordered l l' → Reordered l' l'' → Reordered l l''

variable {u}

theorem Reordered.symm {l l' : List C} (h : u.Reordered l l') : u.Reordered l' l := by
  induction h with
  | refl l => exact .refl l
  | swap l l' hx hy hne => exact .swap l l' hy hx hne.symm
  | trans _ _ ih ih' => exact ih'.trans ih

theorem Reordered.append_left (a : List C) {l l' : List C} (h : u.Reordered l l') :
    u.Reordered (a ++ l) (a ++ l') := by
  induction h with
  | refl l => exact .refl _
  | swap l l' hx hy hne =>
    rw [← List.append_assoc, ← List.append_assoc]
    exact .swap (a ++ l) l' hx hy hne
  | trans _ _ ih ih' => exact ih.trans ih'

theorem Reordered.append_right (a : List C) {l l' : List C} (h : u.Reordered l l') :
    u.Reordered (l ++ a) (l' ++ a) := by
  induction h with
  | refl l => exact .refl _
  | swap l l' hx hy hne =>
    rw [List.append_assoc, List.append_assoc]
    exact .swap l (l' ++ a) hx hy hne
  | trans _ _ ih ih' => exact ih.trans ih'

theorem Reordered.append {a a' b b' : List C} (ha : u.Reordered a a') (hb : u.Reordered b b') :
    u.Reordered (a ++ b) (a' ++ b') :=
  (ha.append_right b).trans (hb.append_left a')

theorem Reordered.perm {l l' : List C} (h : u.Reordered l l') : l.Perm l' := by
  induction h with
  | refl l => exact .refl l
  | swap l l' _ _ _ => exact (List.Perm.swap _ _ l').append_left l
  | trans _ _ ih ih' => exact ih.trans ih'

theorem reorder_cons (c : C) (l : List C) :
    u.reorder (c :: l) = (u.reorder l).orderedInsert u.InOrder c := rfl

/-- Two insertions commute when the classes differ. -/
theorem insert_insert {x y : C} (hx : 0 < u.combiningClass x)
    (hlt : u.combiningClass x < u.combiningClass y) (l : List C) :
    (l.orderedInsert u.InOrder y).orderedInsert u.InOrder x =
      (l.orderedInsert u.InOrder x).orderedInsert u.InOrder y := by
  have hxy : u.InOrder x y := fun h => by omega
  have hyx : ¬u.InOrder y x := not_not.2 ⟨hx, hlt⟩
  induction l with
  | nil => simp [hxy, hyx]
  | cons b l ih =>
    by_cases hyb : u.InOrder y b
    · have hxb : u.InOrder x b := fun h => hyb ⟨h.1, h.2.trans hlt⟩
      simp [hyb, hxb, hxy, hyx]
    · by_cases hxb : u.InOrder x b
      · simp [hyb, hxb, hyx]
      · simp [hyb, hxb, ih]

theorem Reordered.reorder_eq {l l' : List C} (h : u.Reordered l l') :
    u.reorder l = u.reorder l' := by
  induction h with
  | refl l => rfl
  | trans _ _ ih ih' => exact ih.trans ih'
  | @swap l x y l' hx hy hne =>
    induction l with
    | cons c l ih => rw [List.cons_append, List.cons_append, reorder_cons, reorder_cons, ih]
    | nil =>
      rw [List.nil_append, List.nil_append, reorder_cons, reorder_cons, reorder_cons, reorder_cons]
      rcases lt_or_gt_of_ne hne with hlt | hlt
      · exact insert_insert hx hlt _
      · exact (insert_insert hy hlt _).symm

theorem orderedInsert_reordered (c : C) (l : List C) :
    u.Reordered (l.orderedInsert u.InOrder c) (c :: l) := by
  induction l with
  | nil => exact .refl _
  | cons b l ih =>
    by_cases h : u.InOrder c b
    · rw [List.orderedInsert_cons_of_le _ _ h]
      exact .refl _
    · have hcb := not_not.1 h
      rw [List.orderedInsert_of_not_le _ _ h]
      exact (ih.append_left [b]).trans (.swap [] l hcb.1 (by omega) (by omega))

theorem reorder_reordered (l : List C) : u.Reordered (u.reorder l) l := by
  induction l with
  | nil => exact .refl _
  | cons c l ih =>
    rw [reorder_cons]
    exact (orderedInsert_reordered c _).trans (ih.append_left [c])

theorem reorder_reorder (l : List C) : u.reorder (u.reorder l) = u.reorder l :=
  (reorder_reordered l).reorder_eq

/-- Marks of lower classes are passed. -/
theorem reordered_past {c : C} {marks : List C}
    (h : ∀ b ∈ marks, 0 < u.combiningClass b ∧ u.combiningClass b < u.combiningClass c) :
    u.Reordered (c :: marks) (marks ++ [c]) := by
  induction marks with
  | nil => exact .refl _
  | cons b marks ih =>
    rw [List.forall_mem_cons] at h
    have hswap : u.Reordered (c :: b :: marks) (b :: c :: marks) :=
      .swap [] marks (by omega) h.1.1 (by omega)
    exact hswap.trans ((ih h.2).append_left [b])

/-- A starter divides what is reordered. -/
theorem reorder_starter {c : C} (hc : u.combiningClass c = 0) (a b : List C) :
    u.reorder (a ++ c :: b) = u.reorder a ++ c :: u.reorder b := by
  have hstop (x : C) : u.InOrder x c := fun h => by omega
  have hfirst (x : C) : u.InOrder c x := fun h => by omega
  have hinsert (x : C) (l m : List C) : (l ++ c :: m).orderedInsert u.InOrder x =
      l.orderedInsert u.InOrder x ++ c :: m := by
    induction l with
    | nil => simp [hstop x]
    | cons d l ih =>
      by_cases hd : u.InOrder x d
      · simp [hd]
      · simp [hd, ih]
  induction a with
  | nil =>
    rw [List.nil_append, reorder_cons]
    cases u.reorder b with
    | nil => rfl
    | cons d l => exact List.orderedInsert_cons_of_le _ _ (hfirst d)
  | cons x a ih => rw [List.cons_append, reorder_cons, ih, hinsert, reorder_cons]

/-! ## Decomposition -/

theorem flatMap_of_fixed {l : List C} (h : ∀ x ∈ l, u.decompose x = [x]) :
    l.flatMap u.decompose = l :=
  (List.flatMap_congr h).trans (List.flatMap_singleton' l)

theorem decomposed_mem_fixed {l : List C} : ∀ x ∈ u.decomposed l, u.decompose x = [x] := by
  intro x hx
  have hmem := (reorder_reordered _).perm.mem_iff.1 hx
  obtain ⟨c, -, hc⟩ := List.mem_flatMap.1 hmem
  exact u.decompose_fixed c x hc

/-! ## Composition undoes nothing -/

/-- What is composed decomposes to what was there, up to exchanges. -/
theorem composeAfter_reordered {s : C} {marks rest : List C}
    (hmarks : ∀ b ∈ marks, u.decompose b = [b] ∧ 0 < u.combiningClass b)
    (hrest : ∀ x ∈ rest, u.decompose x = [x]) :
    u.Reordered ((u.composeAfter s marks rest).flatMap u.decompose)
      (u.decompose s ++ marks ++ rest) := by
  induction rest generalizing s marks with
  | nil =>
    rw [composeAfter, List.flatMap_cons, flatMap_of_fixed fun b hb => (hmarks b hb).1,
      List.append_nil]
    exact .refl _
  | cons c rest ih =>
    rw [List.forall_mem_cons] at hrest
    rw [composeAfter]
    split
    · -- the composite takes the character over the marks that do not block it
      next p hp =>
      split at hp
      · cases hp
      · next hblocked =>
        have hlower : ∀ b ∈ marks, 0 < u.combiningClass b ∧ u.combiningClass b < u.combiningClass c := by
          intro b hb
          have hle : ¬u.combiningClass c ≤ u.combiningClass b := fun hle =>
            hblocked (List.any_eq_true.2 ⟨b, hb, by simpa using hle⟩)
          exact ⟨(hmarks b hb).2, by omega⟩
        refine (ih hmarks hrest.2).trans ?_
        rw [u.decompose_primary hp]
        simp only [List.append_assoc]
        refine Reordered.append_left _ ?_
        have hpast := (reordered_past hlower).append_right rest
        simpa only [List.cons_append, List.append_assoc, List.nil_append] using hpast
    · split
      · rw [List.cons_append, List.flatMap_cons, List.flatMap_append,
          flatMap_of_fixed fun b hb => (hmarks b hb).1, List.append_assoc]
        refine Reordered.append_left _ (Reordered.append_left _ ?_)
        refine (ih (by simp) hrest.2).trans ?_
        rw [hrest.1]
        exact .refl _
      · next hzero =>
        refine (ih ?_ hrest.2).trans ?_
        · intro b hb
          rcases List.mem_append.1 hb with hb | hb
          · exact hmarks b hb
          · rw [List.mem_singleton.1 hb]
            exact ⟨hrest.1, Nat.pos_of_ne_zero hzero⟩
        · simp only [List.append_assoc, List.cons_append, List.nil_append]
          exact .refl _

theorem compose_reordered {l : List C} (h : ∀ x ∈ l, u.decompose x = [x]) :
    u.Reordered ((u.compose l).flatMap u.decompose) l := by
  induction l with
  | nil => exact .refl _
  | cons c l ih =>
    rw [List.forall_mem_cons] at h
    rw [compose]
    split
    · refine (composeAfter_reordered (by simp) h.2).trans ?_
      rw [h.1]
      exact .refl _
    · rw [List.flatMap_cons, h.1]
      exact (ih h.2).append_left [c]

variable (u)

/-- Composing keeps what a text decomposes to. -/
theorem decomposed_composed (l : List C) : u.decomposed (u.composed l) = u.decomposed l := by
  have h := (compose_reordered (decomposed_mem_fixed (u := u) (l := l))).reorder_eq
  exact h.trans (reorder_reorder _)

theorem composed_composed (l : List C) : u.composed (u.composed l) = u.composed l := by
  unfold composed
  rw [show u.decomposed (u.compose (u.decomposed l)) = u.decomposed l from u.decomposed_composed l]

/-- **Texts have one composed form iff they have one decomposed form.** -/
theorem composed_iff {a b : List C} : u.composed a = u.composed b ↔ u.decomposed a = u.decomposed b := by
  refine ⟨fun h => ?_, fun h => congrArg u.compose h⟩
  rw [← u.decomposed_composed a, h, u.decomposed_composed]

theorem decomposed_append (a b : List C) :
    u.decomposed (a ++ b) = u.reorder (u.decomposed a ++ u.decomposed b) := by
  unfold decomposed
  rw [List.flatMap_append]
  exact ((reorder_reordered _).append (reorder_reordered _)).symm.reorder_eq

/-- Parts may be composed first. -/
theorem composed_append (a b : List C) :
    u.composed (u.composed a ++ u.composed b) = u.composed (a ++ b) := by
  rw [composed_iff, decomposed_append, decomposed_composed, decomposed_composed, decomposed_append]

/-! ## Inert characters -/

/-- Neither decomposes, nor combines, nor takes part in a composite. -/
structure Inert (c : C) : Prop where
  decompose : u.decompose c = [c]
  starter : u.combiningClass c = 0
  first : ∀ d, u.primary c d = none
  second : ∀ d, u.primary d c = none

variable {u} {c : C}

theorem composeAfter_inert_start (hc : u.Inert c) (marks l : List C) :
    u.composeAfter c marks l = c :: marks ++ u.compose l := by
  induction l generalizing marks with
  | nil => simp [composeAfter, compose]
  | cons d l ih =>
    have hnone (blocked : Bool) : (if blocked then none else u.primary c d) = none := by
      rw [hc.first, ite_self]
    rw [composeAfter, compose]
    simp only [hnone]
    split
    · rfl
    · rw [ih]
      simp

theorem composeAfter_inert (hc : u.Inert c) (s : C) (marks a b : List C) :
    u.composeAfter s marks (a ++ c :: b) = u.composeAfter s marks a ++ c :: u.compose b := by
  induction a generalizing s marks with
  | nil =>
    have hnone (blocked : Bool) : (if blocked then none else u.primary s c) = none := by
      rw [hc.second, ite_self]
    rw [List.nil_append, composeAfter, composeAfter]
    simp only [hnone]
    rw [if_pos hc.starter, composeAfter_inert_start hc]
    rfl
  | cons d a ih =>
    rw [List.cons_append, composeAfter, composeAfter]
    split
    · exact ih _ _
    · split
      · rw [ih, ← List.append_assoc]
      · exact ih _ _

theorem compose_inert (hc : u.Inert c) (a b : List C) :
    u.compose (a ++ c :: b) = u.compose a ++ c :: u.compose b := by
  induction a with
  | nil =>
    have hstart : u.compose (c :: b) = u.composeAfter c [] b := if_pos hc.starter
    rw [List.nil_append, hstart, composeAfter_inert_start hc]
    rfl
  | cons d a ih =>
    rw [List.cons_append, compose, compose]
    split
    · exact composeAfter_inert hc _ _ _ _
    · rw [ih, List.cons_append]

/-- What stands for an inert character divides a text. -/
theorem composed_divided {w : C} (hc : u.Inert c) (hw : u.decompose w = [c]) (a b : List C) :
    u.composed (a ++ w :: b) = u.composed a ++ c :: u.composed b := by
  unfold composed decomposed
  rw [List.flatMap_append, List.flatMap_cons, hw, List.singleton_append, reorder_starter hc.starter,
    compose_inert hc]

/-- **An inert character divides a text.** -/
theorem composed_inert (hc : u.Inert c) (a b : List C) :
    u.composed (a ++ c :: b) = u.composed a ++ c :: u.composed b :=
  composed_divided hc hc.decompose a b

/-! ## Composed texts -/

/-- A character that nothing else decomposes to comes from itself. -/
theorem mem_of_mem_composed {a : List C} (hc : u.decompose c = [c])
    (hsole : ∀ y, c ∈ u.decompose y → y = c) (h : c ∈ u.composed a) : c ∈ a := by
  have hflat : c ∈ (u.composed a).flatMap u.decompose :=
    List.mem_flatMap.2 ⟨c, h, by rw [hc]; exact List.mem_singleton.2 rfl⟩
  have hdecomposed : c ∈ u.decomposed a := by
    rw [← u.decomposed_composed a]
    exact (reorder_reordered _).perm.mem_iff.2 hflat
  obtain ⟨y, hy, hyc⟩ := List.mem_flatMap.1 ((reorder_reordered _).perm.mem_iff.1 hdecomposed)
  rwa [← hsole y hyc]

theorem mem_composeAfter {s x : C} {marks rest : List C} (h : x ∈ u.composeAfter s marks rest) :
    x = s ∨ x ∈ marks ∨ x ∈ rest ∨ ∃ a b, u.primary a b = some x := by
  induction rest generalizing s marks with
  | nil =>
    rw [composeAfter, List.mem_cons] at h
    exact h.imp_right .inl
  | cons d rest ih =>
    rw [composeAfter] at h
    split at h
    · next p hp =>
      split at hp
      · cases hp
      · rcases ih h with rfl | h | h | h
        · exact .inr (.inr (.inr ⟨s, d, hp⟩))
        · exact .inr (.inl h)
        · exact .inr (.inr (.inl (List.mem_cons_of_mem d h)))
        · exact .inr (.inr (.inr h))
    · split at h
      · rw [List.cons_append, List.mem_cons, List.mem_append] at h
        rcases h with h | h | h
        · exact .inl h
        · exact .inr (.inl h)
        · rcases ih h with rfl | h | h | h
          · exact .inr (.inr (.inl List.mem_cons_self))
          · cases h
          · exact .inr (.inr (.inl (List.mem_cons_of_mem d h)))
          · exact .inr (.inr (.inr h))
      · rcases ih h with h | h | h | h
        · exact .inl h
        · rcases List.mem_append.1 h with h | h
          · exact .inr (.inl h)
          · rw [List.mem_singleton.1 h]
            exact .inr (.inr (.inl List.mem_cons_self))
        · exact .inr (.inr (.inl (List.mem_cons_of_mem d h)))
        · exact .inr (.inr (.inr h))

theorem mem_compose {x : C} {l : List C} (h : x ∈ u.compose l) :
    x ∈ l ∨ ∃ a b, u.primary a b = some x := by
  induction l with
  | nil => cases h
  | cons d l ih =>
    rw [compose] at h
    split at h
    · rcases mem_composeAfter h with rfl | h | h | h
      · exact .inl List.mem_cons_self
      · cases h
      · exact .inl (List.mem_cons_of_mem d h)
      · exact .inr h
    · rcases List.mem_cons.1 h with rfl | h
      · exact .inl List.mem_cons_self
      · exact (ih h).imp_left (List.mem_cons_of_mem d)

/-- What stands for an inert character and is left by composition is that character. -/
theorem eq_of_mem_composed {w : C} {l : List C} (hc : u.Inert c) (hw : u.decompose w = [c])
    (h : w ∈ u.composed l) : w = c := by
  rcases mem_compose h with hmem | ⟨a, b, hp⟩
  · have hfixed := decomposed_mem_fixed w hmem
    rw [hw] at hfixed
    exact (List.singleton_injective hfixed).symm
  · have hlast := u.decompose_primary hp
    rw [hw] at hlast
    have hb : b = c := by
      have := congrArg List.getLast? hlast
      simpa using this.symm
    rw [hb, hc.second] at hp
    cases hp

/-- A first occurrence divides a list in one way. -/
theorem first_inj {x x' z z' : List C} (hx : c ∉ x) (hx' : c ∉ x') :
    x ++ c :: z = x' ++ c :: z' ↔ x = x' ∧ z = z' := by
  induction x generalizing x' with
  | nil =>
    cases x' with
    | nil => simp
    | cons d x' =>
      rw [List.mem_cons, not_or] at hx'
      simp [hx'.1]
  | cons d x ih =>
    rw [List.mem_cons, not_or] at hx
    cases x' with
    | nil => simp [Ne.symm hx.1]
    | cons d' x' =>
      rw [List.mem_cons, not_or] at hx'
      simp [ih hx.2 hx'.2, and_assoc]

theorem isComposed_cons (hc : u.Inert c) {l : List C} : u.IsComposed (c :: l) ↔ u.IsComposed l := by
  unfold IsComposed
  rw [show c :: l = [] ++ c :: l from rfl, composed_inert hc]
  exact List.cons_inj_right c

theorem isComposed_concat (hc : u.Inert c) {l : List C} :
    u.IsComposed (l ++ [c]) ↔ u.IsComposed l := by
  unfold IsComposed
  rw [composed_inert hc]
  exact List.append_left_inj [c]

/-- **A text is composed iff both sides of an inert character are.** -/
theorem isComposed_inert (hc : u.Inert c) (hsole : ∀ y, c ∈ u.decompose y → y = c) {a b : List C} :
    u.IsComposed (a ++ c :: b) ↔ u.IsComposed a ∧ u.IsComposed b := by
  have hfree {a b : List C} (ha : c ∉ a) :
      u.IsComposed (a ++ c :: b) ↔ u.IsComposed a ∧ u.IsComposed b := by
    have hfirst : c ∉ u.composed a := fun h => ha (mem_of_mem_composed hc.decompose hsole h)
    unfold IsComposed
    rw [composed_inert hc]
    exact first_inj hfirst ha
  induction hn : a.length using Nat.strong_induction_on generalizing a b with
  | h n ih =>
    by_cases ha : c ∈ a
    · -- the first occurrence divides both sides
      obtain ⟨a₁, a₂, rfl, hfirst⟩ := List.eq_append_cons_of_mem ha
      have hshort : a₂.length < n := by
        rw [← hn, List.length_append, List.length_cons]
        omega
      have hrest : u.IsComposed (a₂ ++ c :: b) ↔ u.IsComposed a₂ ∧ u.IsComposed b := ih _ hshort rfl
      rw [List.append_assoc, List.cons_append, hfree hfirst, hrest, hfree hfirst, and_assoc]
    · exact hfree ha

end CanonicalData
