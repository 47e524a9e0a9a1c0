import PaperGrading.Domain.Texts
import PaperGrading.Reviews.Service
import Mathlib.Tactic.Linarith

/-!
# The payload checks of the database

`validate_teacher_review_payload` works on texts: a score is matched against a pattern, and
totals go through `numeric(10,4)`.  In terms of values:

    isPlainScore d.str = true ↔ d.IsPlain                                (isPlainScore_str)
    OnScale 4 x → (numericColumn 10 4 x = .ok y ↔ |x| < 10 ^ 6 ∧ y = x)  (numericColumn_eq_ok)
-/

namespace PaperGrading

/-! ## Scores as texts -/

/-- Written without sign, without exponent and with at most four decimal places. -/
def Decimal.IsPlain (d : Decimal) : Prop := d.negative = false ∧ -4 ≤ d.exponent ∧ d.exponent ≤ 0

instance (d : Decimal) : Decidable d.IsPlain := inferInstanceAs (Decidable (_ ∧ _))

/-- The pattern of the text before the point. -/
def isWhole (cs : List Char) : Bool :=
  match cs with
  | [] => false
  | c :: cs => (c == '0' && cs.isEmpty) || (c.isDigit && c != '0' && cs.all Char.isDigit)

/-- The pattern of the text from the point on. -/
def isFrac (cs : List Char) : Bool :=
  match cs with
  | [] => true
  | _ :: ds => lengthBetween 1 4 ds.length && ds.all Char.isDigit

theorem isPlainScore_eq {text : String} {whole frac : List Char} (htext : text.toList = whole ++ frac)
    (hwhole : ∀ c ∈ whole, c.isDigit = true) (hfrac : frac = [] ∨ ∃ ds, frac = '.' :: ds) :
    isPlainScore text = (isWhole whole && isFrac frac) := by
  have hne : ∀ c ∈ whole, (c != '.') = true := by
    intro c hc
    rw [bne_iff_ne]
    rintro rfl
    exact absurd (hwhole _ hc) (by decide)
  have htake : text.toList.takeWhile (· != '.') = whole := by
    rw [htext, List.takeWhile_append_of_pos hne]
    rcases hfrac with rfl | ⟨ds, rfl⟩ <;> simp
  have hdrop : text.toList.dropWhile (· != '.') = frac := by
    rw [htext, List.dropWhile_append_of_pos hne]
    rcases hfrac with rfl | ⟨ds, rfl⟩ <;> simp
  unfold isPlainScore
  simp only [htake, hdrop]
  rfl

theorem isDigit_of_isWhole {cs : List Char} (h : isWhole cs = true) {c : Char} (hc : c ∈ cs) :
    c.isDigit = true := by
  cases cs with
  | nil => exact absurd h (by decide)
  | cons d ds =>
    simp only [isWhole, Bool.or_eq_true, Bool.and_eq_true, beq_iff_eq, List.isEmpty_iff] at h
    rcases h with ⟨rfl, rfl⟩ | ⟨⟨hd, -⟩, hds⟩
    · rw [List.mem_singleton.1 hc]
      decide
    · rcases List.mem_cons.1 hc with rfl | hc
      · exact hd
      · exact List.all_eq_true.1 hds c hc

/-- A plain score has digits and points only. -/
theorem mem_of_isPlainScore {text : String} (h : isPlainScore text = true) {c : Char}
    (hc : c ∈ text.toList) : c.isDigit = true ∨ c = '.' := by
  have hhead := List.head?_dropWhile_not (· != '.') text.toList
  have hparts : (isWhole (text.toList.takeWhile (· != '.')) &&
      isFrac (text.toList.dropWhile (· != '.'))) = true := h
  rw [Bool.and_eq_true] at hparts
  rw [← List.takeWhile_append_dropWhile (p := (· != '.')) (l := text.toList)] at hc
  rcases List.mem_append.1 hc with hc | hc
  · exact .inl (isDigit_of_isWhole hparts.1 hc)
  · revert hhead hparts hc
    cases text.toList.dropWhile (· != '.') with
    | nil => exact fun _ _ hc => absurd hc List.not_mem_nil
    | cons d ds =>
      intro hhead hparts hc
      simp only [isFrac, Bool.and_eq_true] at hparts
      rcases List.mem_cons.1 hc with rfl | hc
      · exact .inr (by simpa using hhead)
      · exact .inl (List.all_eq_true.1 hparts.2.2 c hc)

theorem isWhole_toDigits (n : Nat) : isWhole (Nat.toDigits 10 n) = true := by
  rcases Js.digits_cases n with h | ⟨c, cs, h, hc⟩
  · rw [h]
    decide
  · have hdigit : ∀ d ∈ c :: cs, d.isDigit = true := fun d hd =>
      Nat.isDigit_of_mem_toDigits (b := 10) (n := n) (by omega) (by omega) (h ▸ hd)
    rw [List.forall_mem_cons] at hdigit
    rw [h, isWhole]
    simpa [hdigit.1, hc] using hdigit.2

theorem length_pos_of_isWhole {cs : List Char} (h : isWhole cs = true) : 0 < cs.length := by
  cases cs with
  | nil => exact absurd h (by decide)
  | cons c cs => exact Nat.succ_pos _

/-- The first digits of several. -/
theorem isWhole_take {cs : List Char} (h : isWhole cs = true) {k : Nat}
    (hk : 0 < k ∧ k < cs.length) : isWhole (cs.take k) = true := by
  cases cs with
  | nil => exact absurd h (by decide)
  | cons c cs =>
    obtain ⟨k, rfl⟩ := Nat.exists_eq_add_one_of_ne_zero hk.1.ne'
    have hcs : cs ≠ [] := by
      rintro rfl
      simp at hk
    simp only [isWhole, Bool.or_eq_true, Bool.and_eq_true, List.isEmpty_iff, hcs, and_false,
      false_or] at h
    rw [List.take_succ_cons, isWhole]
    have hall : (cs.take k).all Char.isDigit = true :=
      List.all_eq_true.2 fun d hd => List.all_eq_true.1 h.2 d (List.mem_of_mem_take hd)
    simp [h.1.1, h.1.2, hall]

/-- `str` of a decimal whose exponent is in the range of positional notation. -/
theorem str_positional (d : Decimal) (hn : d.negative = false) (he : d.exponent ≤ 0)
    (hl : -6 < d.exponent + (Nat.toDigits 10 d.coefficient).length) :
    ∃ whole frac, d.str.toList = whole ++ frac ∧ isWhole whole = true ∧
      (d.exponent = 0 ∧ frac = [] ∨ d.exponent < 0 ∧ ∃ ds, frac = '.' :: ds ∧
        (∀ c ∈ ds, c.isDigit = true) ∧ (ds.length : Int) = -d.exponent) := by
  have hdigits : (toString d.coefficient).toList = Nat.toDigits 10 d.coefficient := Nat.toList_repr
  have hdigit : ∀ c ∈ Nat.toDigits 10 d.coefficient, c.isDigit = true := fun c hc =>
    Nat.isDigit_of_mem_toDigits (by omega) (by omega) hc
  have hwhole := isWhole_toDigits d.coefficient
  have hlen : (toString d.coefficient).length = (Nat.toDigits 10 d.coefficient).length := by
    rw [← String.length_toList, hdigits]
  unfold Decimal.str
  simp only [hlen, hn, he, hl, true_and, if_true, Bool.false_eq_true, if_false, sub_self]
  generalize Nat.toDigits 10 d.coefficient = D at *
  generalize toString d.coefficient = digits at *
  generalize d.exponent = e at *
  split
  next hpoint =>
    -- the point stands before all digits
    refine ⟨['0'], '.' :: (List.replicate (-(e + D.length)).toNat '0' ++ D), ?_, by decide,
      .inr ⟨by have := length_pos_of_isWhole hwhole; omega, _, rfl, ?_, ?_⟩⟩
    · simp [hdigits]
    · intro c hc
      rcases List.mem_append.1 hc with hc | hc
      · rw [(List.mem_replicate.1 hc).2]
        decide
      · exact hdigit c hc
    · rw [List.length_append, List.length_replicate]
      omega
  next hpoint =>
    split
    next hall =>
      -- no point
      obtain rfl : e = 0 := by omega
      exact ⟨D, [], by simp [hdigits], hwhole, .inl ⟨rfl, rfl⟩⟩
    next hall =>
      obtain ⟨k, hk⟩ := Int.eq_ofNat_of_zero_le (show 0 ≤ e + D.length by omega)
      refine ⟨D.take k, '.' :: D.drop k, ?_, isWhole_take hwhole (by omega),
        .inr ⟨by omega, _, rfl, fun c hc => hdigit c (List.mem_of_mem_drop hc), ?_⟩⟩
      · simp [hdigits, hk]
      · rw [List.length_drop]
        omega

theorem mem_str_of_exponent {d : Decimal} (h : ¬(d.exponent ≤ 0 ∧
    -6 < d.exponent + (Nat.toDigits 10 d.coefficient).length)) : 'E' ∈ d.str.toList := by
  have hdigits : (toString d.coefficient).toList = Nat.toDigits 10 d.coefficient := Nat.toList_repr
  have hlen : (toString d.coefficient).length = (Nat.toDigits 10 d.coefficient).length := by
    rw [← String.length_toList, hdigits]
  have hpos := length_pos_of_isWhole (isWhole_toDigits d.coefficient)
  unfold Decimal.str
  simp only [hlen, h, if_false]
  have hshift : d.exponent + (Nat.toDigits 10 d.coefficient).length - 1 ≠ 0 := by omega
  rw [String.toList_append, List.mem_append, if_neg hshift]
  right
  split <;> simp

/-- **The pattern accepts exactly the plain scores.** -/
theorem isPlainScore_str (d : Decimal) : isPlainScore d.str = true ↔ d.IsPlain := by
  have hpos := length_pos_of_isWhole (isWhole_toDigits d.coefficient)
  unfold Decimal.IsPlain
  by_cases hn : d.negative = true
  · refine iff_of_false (fun h => ?_) (by simp [hn])
    have hmem : '-' ∈ d.str.toList := by simp [Decimal.str, hn]
    rcases mem_of_isPlainScore h hmem with h | h <;> exact absurd h (by decide)
  rw [Bool.not_eq_true] at hn
  by_cases hrange : d.exponent ≤ 0 ∧ -6 < d.exponent + (Nat.toDigits 10 d.coefficient).length
  · obtain ⟨whole, frac, htext, hwhole, hfrac⟩ := str_positional d hn hrange.1 hrange.2
    have hdigit : ∀ c ∈ whole, c.isDigit = true := fun c hc => isDigit_of_isWhole hwhole hc
    rcases hfrac with ⟨he, rfl⟩ | ⟨he, ds, rfl, hds, hlen⟩
    · rw [isPlainScore_eq htext hdigit (.inl rfl), hwhole]
      simp [isFrac, hn, he]
    · rw [isPlainScore_eq htext hdigit (.inr ⟨ds, rfl⟩), hwhole]
      have hall : ds.all Char.isDigit = true := List.all_eq_true.2 hds
      simp only [isFrac, lengthBetween, hall, hn, Bool.true_and, Bool.and_true, Bool.and_eq_true,
        decide_eq_true_iff, true_and]
      omega
  · refine iff_of_false (fun h => ?_) (by omega)
    rcases mem_of_isPlainScore h (mem_str_of_exponent hrange) with h | h <;> exact absurd h (by decide)

/-! ## Numeric columns -/

theorem floor_add_half (m : Int) : ((m : ℚ) + 1 / 2).floor = m := by
  have hlow : m ≤ ((m : ℚ) + 1 / 2).floor := Rat.le_floor_iff.2 (by linarith)
  have hhigh : ¬ m + 1 ≤ ((m : ℚ) + 1 / 2).floor := by
    rw [Rat.le_floor_iff]
    push_cast
    linarith
  omega

theorem numericColumn_eq_ok {precision scale : Nat} {x y : ℚ} (hx : OnScale scale x) :
    numericColumn precision scale x = .ok y ↔ |x| < 10 ^ (precision - scale) ∧ y = x := by
  obtain ⟨k, hk⟩ := hx
  have hround : (if 0 ≤ x * 10 ^ scale then ((x * 10 ^ scale + 1 / 2).floor : ℚ)
      else -((1 / 2 - x * 10 ^ scale).floor : ℚ)) / 10 ^ scale = x := by
    rw [hk]
    have hfloor := floor_add_half k
    have hfloor' : ((1 : ℚ) / 2 - k).floor = -k := by
      rw [← floor_add_half (-k)]
      congr 1
      push_cast
      ring
    have heq : (if 0 ≤ (k : ℚ) then (((k : ℚ) + 1 / 2).floor : ℚ)
        else -((1 / 2 - (k : ℚ)).floor : ℚ)) = k := by
      rw [hfloor, hfloor']
      split <;> simp
    rw [heq, ← hk, mul_div_assoc, div_self (by positivity), mul_one]
  unfold numericColumn
  dsimp only
  rw [hround]
  split
  next h => simp [h, eq_comm]
  next h => simp [h]

end PaperGrading
