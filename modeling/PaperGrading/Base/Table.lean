import Mathlib.Data.List.Basic
import Mathlib.Data.List.Nodup
import Mathlib.Data.List.MinMax
import Mathlib.Tactic.Cases

/-!
# Tables: rows as lists, statements as checked updates

A table is the list of its rows in insertion order.  `updateWhere p set check` is
one `UPDATE … SET … WHERE p`: every row hit by `p` is replaced by `set` of it,
provided `check old new` (row triggers and check constraints) accepts each of
them; otherwise nothing is written.  `insertRow` appends one checked row.

    updateWhere p set check rows = .ok rows' ↔
      rows' = setWhere p set rows ∧ ∀ r ∈ rows, p r → check r (set r) = .ok ()    (updateWhere_eq_ok)
    keys are kept by `setWhere` when `set` keeps them                             (map_setWhere)

`Evolves key ok new rows rows'` is the summary of a transaction on one table: rows keep
their place and key, a changed row passed `ok`, and the rows added at the end meet `new`.
-/

namespace Table

variable {α β ε : Type}

/-! ## Algorithm -/

/-- The effect of an `UPDATE`: rows hit by `p` are replaced, the others stay. -/
def setWhere (p : α → Bool) (set : α → α) (rows : List α) : List α :=
  rows.map fun r => if p r then set r else r

/-- One `UPDATE` statement with its row triggers and check constraints. -/
def updateWhere (p : α → Bool) (set : α → α) (check : α → α → Except ε Unit) (rows : List α) :
    Except ε (List α) :=
  match (rows.filter p).mapM (fun r => check r (set r)) with
  | .error e => .error e
  | .ok _ => .ok (setWhere p set rows)

/-- One `INSERT` of a single row. -/
def insertRow (check : α → Except ε Unit) (rows : List α) (r : α) : Except ε (List α) :=
  match check r with
  | .error e => .error e
  | .ok _ => .ok (rows ++ [r])

/-- The table with the row of `x`'s key replaced by `y`. -/
def replaceRow [DecidableEq β] (key : α → β) (x y : α) (rows : List α) : List α :=
  setWhere (fun r => key r == key x) (fun _ => y) rows

/-- `SELECT coalesce(max(f), 0) … WHERE p`. -/
def maxOrZero (p : α → Bool) (f : α → Nat) (rows : List α) : Nat :=
  ((rows.filter p).map f).foldr max 0

/-- `SELECT … WHERE p ORDER BY f DESC LIMIT 1`. -/
def latest (p : α → Bool) (f : α → Nat) (rows : List α) : Option α :=
  (rows.filter p).argmax f

/-- What a transaction did to a table. -/
def Evolves (key : α → β) (ok : α → α → Prop) (new : α → Prop) (rows rows' : List α) : Prop :=
  ∃ (f : α → α) (added : List α), rows' = rows.map f ++ added ∧
    (∀ r ∈ rows, key (f r) = key r ∧ (f r = r ∨ ok r (f r))) ∧ ∀ r ∈ added, new r

/-! ## Lemmas -/

theorem mapM_unit_eq_ok (f : α → Except ε Unit) (rows : List α) :
    (∃ us, rows.mapM f = .ok us) ↔ ∀ r ∈ rows, f r = .ok () := by
  induction rows with
  | nil => exact ⟨fun _ r hr => absurd hr (by simp), fun _ => ⟨[], rfl⟩⟩
  | cons r rows ih =>
    rw [List.mapM_cons]
    cases h : f r with
    | error e =>
      constructor
      · rintro ⟨us, hus⟩
        cases hus
      · intro hall
        have := hall r (by simp)
        rw [h] at this
        cases this
    | ok u =>
      cases hrest : rows.mapM f with
      | error e =>
        constructor
        · rintro ⟨us, hus⟩
          cases hus
        · intro hall
          have hok := ih.2 fun r' hr' => hall r' (by simp [hr'])
          obtain ⟨us, hus⟩ := hok
          rw [hrest] at hus
          cases hus
      | ok us =>
        constructor
        · intro _ r' hr'
          rcases List.mem_cons.1 hr' with rfl | hr'
          · exact h
          · exact ih.1 ⟨us, hrest⟩ r' hr'
        · intro _
          exact ⟨u :: us, rfl⟩

/-- **What one `UPDATE` does**: it writes exactly `setWhere`, and every row it hits passed its check. -/
theorem updateWhere_eq_ok (p : α → Bool) (set : α → α) (check : α → α → Except ε Unit)
    (rows rows' : List α) :
    updateWhere p set check rows = .ok rows' ↔
      rows' = setWhere p set rows ∧ ∀ r ∈ rows, p r = true → check r (set r) = .ok () := by
  have hall := mapM_unit_eq_ok (fun r => check r (set r)) (rows.filter p)
  unfold updateWhere
  cases h : (rows.filter p).mapM (fun r => check r (set r)) with
  | error e =>
    constructor
    · intro hc
      cases hc
    · rintro ⟨_, hchk⟩
      obtain ⟨us, hus⟩ := hall.2 fun r hr => by
        obtain ⟨hm, hp⟩ := List.mem_filter.1 hr
        exact hchk r hm hp
      rw [h] at hus
      cases hus
  | ok us =>
    have hchk := hall.1 ⟨us, h⟩
    constructor
    · intro hc
      cases hc
      exact ⟨rfl, fun r hm hp => hchk r (List.mem_filter.2 ⟨hm, hp⟩)⟩
    · rintro ⟨rfl, _⟩
      rfl

theorem insertRow_eq_ok (check : α → Except ε Unit) (rows rows' : List α) (r : α) :
    insertRow check rows r = .ok rows' ↔ rows' = rows ++ [r] ∧ check r = .ok () := by
  unfold insertRow
  cases h : check r with
  | error e => simp
  | ok u => simp [eq_comm]

theorem mem_setWhere {p : α → Bool} {set : α → α} {rows : List α} {x : α} :
    x ∈ setWhere p set rows ↔
      (∃ r ∈ rows, p r = true ∧ set r = x) ∨ (x ∈ rows ∧ p x = false) := by
  unfold setWhere
  rw [List.mem_map]
  constructor
  · rintro ⟨r, hr, he⟩
    cases hp : p r with
    | true => exact .inl ⟨r, hr, hp, by simpa [hp] using he⟩
    | false =>
      have : r = x := by simpa [hp] using he
      subst this
      exact .inr ⟨hr, hp⟩
  · rintro (⟨r, hr, hp, he⟩ | ⟨hx, hp⟩)
    · exact ⟨r, hr, by simpa [hp] using he⟩
    · exact ⟨x, hx, by simp [hp]⟩

/-- A column that `set` does not write is kept row by row. -/
theorem map_setWhere (f : α → β) (p : α → Bool) (set : α → α) (rows : List α)
    (hf : ∀ r ∈ rows, p r = true → f (set r) = f r) :
    (setWhere p set rows).map f = rows.map f := by
  unfold setWhere
  rw [List.map_map]
  apply List.map_congr_left
  intro r hr
  cases hp : p r with
  | true => simpa [Function.comp, hp] using hf r hr hp
  | false => simp [Function.comp, hp]

theorem filterMap_setWhere (f : α → Option β) (p : α → Bool) (set : α → α) (rows : List α)
    (hf : ∀ r ∈ rows, p r = true → f (set r) = f r) :
    (setWhere p set rows).filterMap f = rows.filterMap f := by
  have h := congrArg (List.filterMap id) (map_setWhere f p set rows hf)
  simpa only [List.filterMap_map, Function.id_comp] using h

theorem length_setWhere (p : α → Bool) (set : α → α) (rows : List α) :
    (setWhere p set rows).length = rows.length := by
  simp [setWhere]

/-- Nothing is hit: nothing changes. -/
theorem setWhere_of_forall_false {p : α → Bool} {set : α → α} {rows : List α}
    (h : ∀ r ∈ rows, p r = false) : setWhere p set rows = rows := by
  unfold setWhere
  conv_rhs => rw [← List.map_id rows]
  apply List.map_congr_left
  intro r hr
  simp [h r hr]

theorem setWhere_congr {p q : α → Bool} {set set' : α → α} {rows : List α}
    (hp : ∀ r ∈ rows, p r = q r) (hset : ∀ r ∈ rows, p r = true → set r = set' r) :
    setWhere p set rows = setWhere q set' rows := by
  unfold setWhere
  apply List.map_congr_left
  intro r hr
  rw [← hp r hr]
  cases h : p r with
  | true => simpa using hset r hr h
  | false => rfl

/-- Two `UPDATE`s with one assignment and disjoint conditions are one. -/
theorem setWhere_setWhere {p q : α → Bool} {set : α → α} {rows : List α}
    (hset : ∀ r ∈ rows, p r = true → q (set r) = false) :
    setWhere q set (setWhere p set rows) = setWhere (fun r => p r || q r) set rows := by
  unfold setWhere
  rw [List.map_map]
  apply List.map_congr_left
  intro r hr
  cases h : p r with
  | true => simp [h, hset r hr h]
  | false => simp [h]

/-- Rows selected by a condition that the `UPDATE` neither reads nor changes. -/
theorem filter_setWhere (q p : α → Bool) (set : α → α) (rows : List α)
    (hq : ∀ r ∈ rows, p r = true → q (set r) = q r) :
    (setWhere p set rows).filter q = setWhere p set (rows.filter q) := by
  induction rows with
  | nil => rfl
  | cons r rows ih =>
    have ih' := ih fun r' hr' => hq r' (by simp [hr'])
    have hr := hq r (by simp)
    unfold setWhere at ih' ⊢
    cases hp : p r <;> cases hqr : q r <;> simp_all

/-- A lookup by columns that the `UPDATE` does not write, read at such a column. -/
theorem find?_setWhere (f : α → β) (q p : α → Bool) (set : α → α) (rows : List α)
    (hq : ∀ r ∈ rows, p r = true → q (set r) = q r)
    (hf : ∀ r ∈ rows, p r = true → f (set r) = f r) :
    ((setWhere p set rows).find? q).map f = (rows.find? q).map f := by
  rw [← List.head?_filter, ← List.head?_filter, filter_setWhere q p set rows hq, ← List.head?_map,
    map_setWhere f p set _ fun r hr => hf r (List.mem_of_mem_filter hr), List.head?_map]

theorem filter_setWhere_of_disjoint (q p : α → Bool) (set : α → α) (rows : List α)
    (hq : ∀ r ∈ rows, p r = true → q r = false ∧ q (set r) = false) :
    (setWhere p set rows).filter q = rows.filter q := by
  rw [filter_setWhere q p set rows fun r hr hp => by rw [(hq r hr hp).1, (hq r hr hp).2]]
  apply setWhere_of_forall_false
  intro r hr
  obtain ⟨hm, hqr⟩ := List.mem_filter.1 hr
  cases hp : p r with
  | true => rw [(hq r hm hp).1] at hqr; cases hqr
  | false => rfl

theorem le_maxOrZero {p : α → Bool} {f : α → Nat} {rows : List α} {r : α} (hr : r ∈ rows)
    (hp : p r = true) : f r ≤ maxOrZero p f rows := by
  unfold maxOrZero
  have hm : f r ∈ (rows.filter p).map f := List.mem_map.2 ⟨r, List.mem_filter.2 ⟨hr, hp⟩, rfl⟩
  generalize (rows.filter p).map f = l at hm
  induction l with
  | nil => cases hm
  | cons n l ih =>
    simp only [List.foldr_cons]
    rcases List.mem_cons.1 hm with rfl | hm
    · exact Nat.le_max_left _ _
    · exact (ih hm).trans (Nat.le_max_right _ _)

/-- The maximum is attained as soon as it is positive. -/
theorem maxOrZero_attained {p : α → Bool} {f : α → Nat} {rows : List α} {n : Nat}
    (h : maxOrZero p f rows = n) (hn : 0 < n) : ∃ r ∈ rows, p r = true ∧ f r = n := by
  unfold maxOrZero at h
  have hm : n ∈ (rows.filter p).map f := by
    subst h
    generalize (rows.filter p).map f = l at hn ⊢
    induction l with
    | nil => simp at hn
    | cons m l ih =>
      simp only [List.foldr_cons] at hn ⊢
      rcases Nat.le_total m (l.foldr max 0) with hle | hle
      · rw [Nat.max_eq_right hle] at hn ⊢
        exact List.mem_cons_of_mem _ (ih hn)
      · rw [Nat.max_eq_left hle]
        simp
  obtain ⟨r, hr, rfl⟩ := List.mem_map.1 hm
  obtain ⟨hr, hp⟩ := List.mem_filter.1 hr
  exact ⟨r, hr, hp, rfl⟩

theorem latest_eq_none {p : α → Bool} {f : α → Nat} {rows : List α} :
    latest p f rows = none ↔ ∀ r ∈ rows, p r = false := by
  unfold latest
  rw [List.argmax_eq_none, List.filter_eq_nil_iff]
  simp

theorem latest_mem {p : α → Bool} {f : α → Nat} {rows : List α} {r : α}
    (h : latest p f rows = some r) : r ∈ rows ∧ p r = true :=
  List.mem_filter.1 (List.argmax_mem h)

theorem le_of_latest {p : α → Bool} {f : α → Nat} {rows : List α} {r x : α}
    (h : latest p f rows = some r) (hx : x ∈ rows) (hp : p x = true) : f x ≤ f r :=
  List.le_of_mem_argmax (List.mem_filter.2 ⟨hx, hp⟩) h

/-- Two rows with one key are one row. -/
theorem eq_of_key_eq {key : α → β} {rows : List α} (hn : (rows.map key).Nodup) {x y : α}
    (hx : x ∈ rows) (hy : y ∈ rows) (h : key x = key y) : x = y :=
  List.inj_on_of_nodup_map hn hx hy h

/-- Two rows that a unique index cannot keep apart are one row. -/
theorem eq_of_conflict {conflict : α → α → Bool} {rows : List α}
    (hp : rows.Pairwise fun x y => conflict x y = false) {x y : α} (hx : x ∈ rows) (hy : y ∈ rows)
    (hxy : conflict x y = true) (hyx : conflict y x = true) : x = y := by
  induction hp with
  | nil => cases hx
  | @cons r rows hr _ ih =>
    rcases List.mem_cons.1 hx with rfl | hx' <;> rcases List.mem_cons.1 hy with rfl | hy'
    · rfl
    · rw [hr y hy'] at hxy
      cases hxy
    · rw [hr x hx'] at hyx
      cases hyx
    · exact ih hx' hy'

/-- A condition that no two rows can share is met at most once. -/
theorem countP_le_one {conflict : α → α → Bool} {rows : List α} {p : α → Bool}
    (hp : rows.Pairwise fun x y => conflict x y = false)
    (hconf : ∀ x y, p x = true → p y = true → conflict x y = true) : rows.countP p ≤ 1 := by
  induction hp with
  | nil => simp
  | @cons r rows hr _ ih =>
    rw [List.countP_cons]
    cases hpr : p r with
    | false => simpa using ih
    | true =>
      have hnone : rows.countP p = 0 := List.countP_eq_zero.2 fun y hy hpy => by
        have := hr y hy
        rw [hconf r y hpr hpy] at this
        cases this
      simp [hnone]

/-- Under a unique key an `UPDATE` that hits the rows of one key replaces exactly that row. -/
theorem setWhere_eq_replaceRow [DecidableEq β] {key : α → β} {rows : List α} {x : α}
    {p : α → Bool} (hn : (rows.map key).Nodup) (hx : x ∈ rows) (hp : p x = true)
    (hkey : ∀ r ∈ rows, p r = true → key r = key x) (set : α → α) :
    setWhere p set rows = replaceRow key x (set x) rows := by
  unfold replaceRow setWhere
  apply List.map_congr_left
  intro r hr
  by_cases hk : key r = key x
  · have : r = x := eq_of_key_eq hn hr hx hk
    simp [this, hp]
  · have hpr : p r = false := by
      cases h : p r with
      | true => exact absurd (hkey r hr h) hk
      | false => rfl
    simp [hk, hpr]

theorem mem_replaceRow [DecidableEq β] {key : α → β} {rows : List α} {x y z : α} (hx : x ∈ rows) :
    z ∈ replaceRow key x y rows ↔ z = y ∨ (z ∈ rows ∧ key z ≠ key x) := by
  unfold replaceRow
  rw [mem_setWhere]
  constructor
  · rintro (⟨r, _, _, rfl⟩ | ⟨hz, hk⟩)
    · exact .inl rfl
    · exact .inr ⟨hz, by simpa using hk⟩
  · rintro (rfl | ⟨hz, hk⟩)
    · exact .inl ⟨x, hx, by simp, rfl⟩
    · exact .inr ⟨hz, by simpa using hk⟩

theorem map_replaceRow [DecidableEq β] {γ : Type} {key : α → β} {f : α → γ} {rows : List α}
    {x y : α} (hn : (rows.map key).Nodup) (hx : x ∈ rows) (hy : f y = f x) :
    (replaceRow key x y rows).map f = rows.map f := by
  apply map_setWhere
  intro r hr hk
  have : r = x := eq_of_key_eq hn hr hx (by simpa using hk)
  rw [this, hy]

@[simp] theorem replaceRow_singleton [DecidableEq β] (key : α → β) (x y : α) :
    replaceRow key x y [x] = [y] := by
  simp [replaceRow, setWhere]

/-- The first row is the only one of its key. -/
theorem replaceRow_cons_self [DecidableEq β] {key : α → β} {x y : α} {rows : List α}
    (h : ∀ r ∈ rows, key r ≠ key x) : replaceRow key x y (x :: rows) = y :: rows := by
  unfold replaceRow
  rw [setWhere, List.map_cons, if_pos (by simp)]
  congr 1
  exact setWhere_of_forall_false fun r hr => by simpa using h r hr

/-- Under a unique key the lookup of a row's own key returns that row. -/
theorem find?_eq_some_of_key [DecidableEq β] {key : α → β} {rows : List α}
    (hn : (rows.map key).Nodup) {x : α} (hx : x ∈ rows) (q : α → Bool) (hq : q x = true)
    (hkey : ∀ r, q r = true → key r = key x) : rows.find? q = some x := by
  cases h : rows.find? q with
  | none => exact absurd hq (by simp [List.find?_eq_none.1 h x hx])
  | some y =>
    have hy := List.mem_of_find?_eq_some h
    have hqy := List.find?_some h
    rw [eq_of_key_eq hn hy hx (hkey y hqy)]

/-- A lookup only sees the rows that can answer it. -/
theorem find?_eq_of_filter_eq {p q : α → Bool} {rows rows' : List α}
    (h : rows'.filter p = rows.filter p) (hq : ∀ x, q x = true → p x = true) :
    rows'.find? q = rows.find? q := by
  have hfilter (l : List α) : l.find? q = (l.filter p).find? q := by
    rw [List.find?_filter]
    congr 1
    funext x
    cases hx : q x with
    | false => simp
    | true => simp [hq x hx]
  rw [hfilter rows', h, ← hfilter]

/-- A row replaced by one that no other row conflicts with. -/
theorem pairwise_replaceRow [DecidableEq β] {key : α → β} {conflict : α → α → Bool} {rows : List α}
    {x y : α} (hn : (rows.map key).Nodup) (hx : x ∈ rows)
    (hp : rows.Pairwise fun a b => conflict a b = false) (hself : conflict x x = true)
    (hy : ∀ z ∈ rows, z ≠ x → conflict y z = false ∧ conflict z y = false) :
    (replaceRow key x y rows).Pairwise fun a b => conflict a b = false := by
  have hrow : ∀ a ∈ rows, (key a == key x) = true → a = x := fun a ha he =>
    eq_of_key_eq hn ha hx (by simpa using he)
  unfold replaceRow setWhere
  rw [List.pairwise_map]
  refine hp.imp_of_mem fun {a b} ha hb hab => ?_
  by_cases hak : (key a == key x) = true <;> by_cases hbk : (key b == key x) = true
  · rw [hrow a ha hak, hrow b hb hbk, hself] at hab
    cases hab
  · rw [if_pos hak, if_neg hbk]
    exact (hy b hb fun he => hbk (by simp [he])).1
  · rw [if_neg hak, if_pos hbk]
    exact (hy a ha fun he => hak (by simp [he])).2
  · rw [if_neg hak, if_neg hbk]
    exact hab

/-- What stands opposite a row of the second list. -/
theorem exists_of_forall₂ {R : α → β → Prop} {xs : List α} {ys : List β} (h : List.Forall₂ R xs ys)
    {y : β} (hy : y ∈ ys) : ∃ x ∈ xs, R x y := by
  induction h with
  | nil => cases hy
  | cons hxy _ ih =>
    rcases List.mem_cons.1 hy with rfl | hy
    · exact ⟨_, List.mem_cons_self, hxy⟩
    · obtain ⟨x, hx, hR⟩ := ih hy
      exact ⟨x, List.mem_cons_of_mem _ hx, hR⟩

/-! ## Evolution of a table -/

namespace Evolves

variable {key : α → β} {ok : α → α → Prop} {new : α → Prop} {rows rows' : List α}

theorem refl (rows : List α) : Evolves key ok new rows rows :=
  ⟨id, [], by simp, fun _ _ => ⟨rfl, .inl rfl⟩, by simp⟩

theorem setWhere {p : α → Bool} {set : α → α} (hkey : ∀ r ∈ rows, p r = true → key (set r) = key r)
    (hok : ∀ r ∈ rows, p r = true → ok r (set r)) :
    Evolves key ok new rows (setWhere p set rows) := by
  refine ⟨fun r => if p r then set r else r, [], by simp [Table.setWhere], fun r hr => ?_, by simp⟩
  cases hp : p r with
  | true => simpa [hp] using ⟨hkey r hr hp, .inr (hok r hr hp)⟩
  | false => simp [hp]

theorem replaceRow {γ : Type} [DecidableEq γ] {id : α → γ} {x y : α} (hn : (rows.map id).Nodup)
    (hx : x ∈ rows) (hkey : key y = key x) (hok : ok x y) :
    Evolves key ok new rows (replaceRow id x y rows) := by
  have hhit : ∀ r ∈ rows, (id r == id x) = true → r = x := fun r hr he =>
    eq_of_key_eq hn hr hx (by simpa using he)
  refine Evolves.setWhere (fun r hr he => ?_) fun r hr he => ?_
  · rw [hhit r hr he, hkey]
  · rw [hhit r hr he]
    exact hok

theorem append {added : List α} (hnew : ∀ r ∈ added, new r) :
    Evolves key ok new rows (rows ++ added) :=
  ⟨id, added, by simp, fun _ _ => ⟨rfl, .inl rfl⟩, hnew⟩

/-- A row that is there stays, itself or changed under its check. -/
theorem forward (h : Evolves key ok new rows rows') {r : α} (hr : r ∈ rows) :
    ∃ r' ∈ rows', key r' = key r ∧ (r' = r ∨ ok r r') := by
  obtain ⟨f, added, rfl, hf, -⟩ := h
  exact ⟨f r, List.mem_append_left _ (List.mem_map_of_mem hr), hf r hr⟩

/-- A row of the new table comes from an old one, or is new. -/
theorem backward (h : Evolves key ok new rows rows') {r' : α} (hr : r' ∈ rows') :
    (∃ r ∈ rows, key r' = key r ∧ (r' = r ∨ ok r r')) ∨ new r' := by
  obtain ⟨f, added, rfl, hf, hnew⟩ := h
  rcases List.mem_append.1 hr with hr | hr
  · obtain ⟨r, hrm, rfl⟩ := List.mem_map.1 hr
    exact .inl ⟨r, hrm, hf r hrm⟩
  · exact .inr (hnew r' hr)

end Evolves

/-- A pairwise condition on keys only depends on the key column. -/
theorem pairwise_of_map_eq {R : α → α → Prop} {key : α → β} {rows rows' : List α}
    (hR : ∀ x y x' y', key x' = key x → key y' = key y → R x y → R x' y')
    (h : rows'.map key = rows.map key) (hp : rows.Pairwise R) : rows'.Pairwise R := by
  induction rows generalizing rows' with
  | nil =>
    rw [List.map_nil, List.map_eq_nil_iff] at h
    rw [h]
    exact .nil
  | cons x rows ih =>
    cases rows' with
    | nil => exact .nil
    | cons x' rows' =>
      simp only [List.map_cons, List.cons.injEq] at h
      obtain ⟨hx, hrest⟩ := List.pairwise_cons.1 hp
      refine List.pairwise_cons.2 ⟨fun y' hy' => ?_, ih h.2 hrest⟩
      have hm : key y' ∈ rows.map key := by
        rw [← h.2]
        exact List.mem_map_of_mem hy'
      obtain ⟨y, hy, hye⟩ := List.mem_map.1 hm
      exact hR x y x' y' h.1 hye.symm (hx y hy)

/-! ## Rows by position -/

theorem getElem?_set_cases {rows : List α} {k i : Nat} {x y : α} (h : (rows.set k x)[i]? = some y) :
    (i = k ∧ y = x) ∨ (i ≠ k ∧ rows[i]? = some y) := by
  rw [List.getElem?_set] at h
  split at h
  next hik =>
    split at h
    · exact .inl ⟨hik.symm, (Option.some.inj h).symm⟩
    · cases h
  next hik => exact .inr ⟨Ne.symm hik, h⟩

theorem getElem?_concat_cases {rows : List α} {i : Nat} {x y : α}
    (h : (rows ++ [x])[i]? = some y) : rows[i]? = some y ∨ y = x := by
  rw [List.getElem?_append] at h
  split at h
  · exact .inl h
  · exact .inr (List.mem_singleton.1 (List.mem_of_getElem? h))

/-- Any two rows at different positions are related. -/
def Apart (R : α → α → Prop) (rows : List α) : Prop :=
  ∀ (i j : Nat) x y, rows[i]? = some x → rows[j]? = some y → i ≠ j → R x y

namespace Apart

variable {R : α → α → Prop} {rows : List α}

theorem set (h : Apart R rows) {k : Nat} {x : α}
    (hx : ∀ (i : Nat) y, rows[i]? = some y → i ≠ k → R x y ∧ R y x) : Apart R (rows.set k x) := by
  intro i j y z hy hz hij
  rcases getElem?_set_cases hy with ⟨rfl, rfl⟩ | ⟨hik, hold⟩
  · rcases getElem?_set_cases hz with ⟨rfl, rfl⟩ | ⟨hjk, hold'⟩
    · exact absurd rfl hij
    · exact (hx j z hold' hjk).1
  · rcases getElem?_set_cases hz with ⟨rfl, rfl⟩ | ⟨-, hold'⟩
    · exact (hx i y hold hik).2
    · exact h i j y z hold hold' hij

theorem concat (h : Apart R rows) {x : α} (hx : ∀ y, R x y ∧ R y x) : Apart R (rows ++ [x]) := by
  intro i j y z hy hz hij
  rcases getElem?_concat_cases hy with hold | rfl
  · rcases getElem?_concat_cases hz with hold' | rfl
    · exact h i j y z hold hold' hij
    · exact (hx y).2
  · exact (hx z).1

end Apart

end Table
