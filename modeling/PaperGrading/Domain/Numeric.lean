import PaperGrading.Domain.CanonicalJson
import PaperGrading.Domain.Decimals

/-!
# Decimals as PostgreSQL reads them

`text::numeric` on the texts that `str(Decimal)` prints.  The text of a decimal spells its
coefficient and its exponent, so nothing is lost on the way; what a `numeric` cannot hold is
refused.

    numericText d.str = some (d, d.writtenExponent)                           (numericText_str)
    numericIn d.str = if d.numericOk then some d.toRat else none              (numericIn_str)
-/

namespace PaperGrading

/-! ## `numeric_in` -/

def readDigits (l : List Char) : Option Nat :=
  if l ≠ [] ∧ l.all Char.isDigit then some (Nat.ofDigitChars 10 l 0) else none

/-- The exponent of a number and the end of the text. -/
def readExponent : List Char → Option Int
  | [] => some 0
  | 'e' :: '-' :: l | 'E' :: '-' :: l => (readDigits l).map fun n => -(n : Int)
  | 'e' :: '+' :: l | 'E' :: '+' :: l | 'e' :: l | 'E' :: l => (readDigits l).map Int.ofNat
  | _ => none

def readSign : List Char → Bool × List Char
  | '-' :: l => (true, l)
  | '+' :: l => (false, l)
  | l => (false, l)

def readFraction : List Char → List Char × List Char
  | '.' :: l => (l.takeWhile Char.isDigit, l.dropWhile Char.isDigit)
  | l => ([], l)

/-- The decimal a text spells, with the exponent it writes; surrounding blanks, digit
separators and the special values are left out. -/
def numericText (text : String) : Option (Decimal × Int) :=
  let (negative, l) := readSign text.toList
  let ip := l.takeWhile Char.isDigit
  let (fp, rest) := readFraction (l.dropWhile Char.isDigit)
  if ip = [] ∧ fp = [] then none
  else (readExponent rest).map fun e =>
    (⟨negative, Nat.ofDigitChars 10 (ip ++ fp) 0, e - fp.length⟩, e)

/-- The exponent written fits half an `int4`, at most 16383 decimal places and 131072 digits
before the point. -/
def numericRange (d : Decimal) (written : Int) : Bool :=
  decide (|written| ≤ 1073741823) && decide (-16383 ≤ d.exponent) &&
    (d.coefficient == 0 || decide ((Nat.toDigits 10 d.coefficient).length + d.exponent ≤ 131072))

/-- `text::numeric`; `none` is an error. -/
def numericIn (text : String) : Option ℚ :=
  match numericText text with
  | some (d, written) => if numericRange d written then some d.toRat else none
  | none => none

namespace Decimal

/-! ## The text of a decimal -/

/-- The digits of the coefficient. -/
def digits (d : Decimal) : List Char := Nat.toDigits 10 d.coefficient

/-- How many digits `str` writes before the point. -/
def dotplace (d : Decimal) : Int :=
  if d.exponent ≤ 0 ∧ -6 < d.exponent + d.digits.length then d.exponent + d.digits.length else 1

/-- The exponent `str` writes. -/
def writtenExponent (d : Decimal) : Int := d.exponent + d.digits.length - d.dotplace

/-- A `numeric` holds the decimal as `str` writes it. -/
def numericOk (d : Decimal) : Bool := numericRange d d.writtenExponent

def strExponent (n : Int) : List Char :=
  if n = 0 then [] else if 0 < n then 'E' :: '+' :: (toString n).toList else 'E' :: (toString n).toList

/-- The digits before the point and after it, as `str` writes them. -/
def strParts (d : Decimal) : List Char × List Char :=
  if d.dotplace ≤ 0 then (['0'], List.replicate (-d.dotplace).toNat '0' ++ d.digits)
  else (d.digits.take d.dotplace.toNat, d.digits.drop d.dotplace.toNat)

theorem digits_ne_nil (d : Decimal) : d.digits ≠ [] := Nat.toDigits_ne_nil

theorem isDigit_digits (d : Decimal) : ∀ c ∈ d.digits, c.isDigit = true :=
  fun _ hc => Nat.isDigit_of_mem_toDigits (by omega) (by omega) hc

theorem dotplace_le (d : Decimal) : d.dotplace ≤ d.digits.length := by
  have hpos : 0 < d.digits.length := List.length_pos_iff.2 d.digits_ne_nil
  unfold dotplace
  split <;> omega

theorem toList_str (d : Decimal) : d.str.toList =
    (if d.negative then ['-'] else []) ++ (d.strParts.1 ++
      (if d.strParts.2 = [] then [] else '.' :: d.strParts.2) ++ strExponent d.writtenExponent) := by
  have hdigits : (toString d.coefficient).toList = d.digits := Nat.toList_repr
  have hlength : ((toString d.coefficient).length : Int) = d.digits.length := by
    rw [← hdigits, String.length_toList]
  have hplace : (if d.exponent ≤ 0 ∧ -6 < d.exponent + (toString d.coefficient).length then
      d.exponent + (toString d.coefficient).length else 1) = d.dotplace := by
    rw [hlength, dotplace]
  have hbody : (if d.dotplace ≤ 0 then
        "0." ++ String.ofList (List.replicate (-d.dotplace).toNat '0') ++ toString d.coefficient
      else if ((toString d.coefficient).length : Int) ≤ d.dotplace then toString d.coefficient ++
        String.ofList (List.replicate (d.dotplace - (toString d.coefficient).length).toNat '0')
      else String.ofList ((toString d.coefficient).toList.take d.dotplace.toNat) ++ "." ++
        String.ofList ((toString d.coefficient).toList.drop d.dotplace.toNat)).toList =
      d.strParts.1 ++ (if d.strParts.2 = [] then [] else '.' :: d.strParts.2) := by
    have hle := d.dotplace_le
    unfold strParts
    rw [hlength, hdigits]
    split
    · simp [d.digits_ne_nil]
      rfl
    · split
      next hall =>
        -- every digit stands before the point
        have hdrop : d.digits.drop d.dotplace.toNat = [] := List.drop_eq_nil_iff.2 (by omega)
        have htake : d.digits.take d.dotplace.toNat = d.digits := List.take_of_length_le (by omega)
        have hzeros : (d.dotplace - d.digits.length).toNat = 0 := by omega
        simp [hdrop, htake, hzeros]
        rfl
      next hsome =>
        have hdrop : d.digits.drop d.dotplace.toNat ≠ [] := fun h => by
          have := List.drop_eq_nil_iff.1 h
          omega
        simp [hdrop]
  have hexponent (n : Int) : (if n = 0 then "" else if 0 < n then "E+" ++ toString n
      else "E" ++ toString n).toList = strExponent n := by
    unfold strExponent
    split
    · rfl
    · split <;> simp
  have hsign : (if d.negative then "-" else "").toList = if d.negative then ['-'] else [] := by
    split <;> rfl
  unfold str
  simp only [hplace]
  rw [String.toList_append, String.toList_append, hsign, hbody, hexponent, hlength,
    List.append_assoc, writtenExponent]

/-! ## Reading it back -/

theorem takeWhile_digits {l rest : List Char} (hl : ∀ c ∈ l, c.isDigit = true)
    (hrest : ∀ c ∈ rest.head?, c.isDigit = false) :
    (l ++ rest).takeWhile Char.isDigit = l ∧ (l ++ rest).dropWhile Char.isDigit = rest := by
  rw [List.takeWhile_append_of_pos hl, List.dropWhile_append_of_pos hl]
  cases rest with
  | nil => simp
  | cons c rest =>
    have hc : c.isDigit = false := hrest c rfl
    simp [hc]

theorem readExponent_strExponent (n : Int) : readExponent (strExponent n) = some n := by
  have hread (m : Nat) : readDigits (Nat.toDigits 10 m) = some m := by
    have hall : (Nat.toDigits 10 m).all Char.isDigit = true := List.all_eq_true.2 fun _ hc =>
      Nat.isDigit_of_mem_toDigits (by omega) (by omega) hc
    simp [readDigits, hall, Nat.toDigits_ne_nil]
  unfold strExponent
  split
  next h => rw [h, readExponent]
  · split
    next hpos =>
      rw [Js.intText_eq, if_pos (by omega), Nat.toList_repr, readExponent, hread]
      simp
      omega
    next h0 hneg =>
      rw [Js.intText_eq, if_neg (by omega), Nat.toList_repr, readExponent, hread]
      simp
      omega

/-- The digits of the text spell the coefficient, those after the point its scale. -/
theorem strParts_spec (d : Decimal) :
    (∀ c ∈ d.strParts.1, c.isDigit = true) ∧ (∀ c ∈ d.strParts.2, c.isDigit = true) ∧
      d.strParts.1 ≠ [] ∧ Nat.ofDigitChars 10 (d.strParts.1 ++ d.strParts.2) 0 = d.coefficient ∧
      d.writtenExponent - d.strParts.2.length = d.exponent := by
  have hvalue : Nat.ofDigitChars 10 d.digits 0 = d.coefficient := Nat.ofDigitChars_ten_toDigits
  have hle := d.dotplace_le
  unfold strParts writtenExponent
  split
  next hplace =>
    refine ⟨by simp, fun c hc => ?_, by simp, ?_, ?_⟩
    · rcases List.mem_append.1 hc with hc | hc
      · rw [List.eq_of_mem_replicate hc]
        rfl
      · exact d.isDigit_digits c hc
    · rw [Nat.ofDigitChars_append, Nat.ofDigitChars_append, Nat.ofDigitChars_replicate_zero,
        show Nat.ofDigitChars 10 ['0'] 0 = 0 from rfl, Nat.mul_zero, hvalue]
    · rw [List.length_append, List.length_replicate]
      omega
  next hplace =>
    refine ⟨fun c hc => d.isDigit_digits c (List.mem_of_mem_take hc),
      fun c hc => d.isDigit_digits c (List.mem_of_mem_drop hc), fun h => ?_, ?_, ?_⟩
    · rcases List.take_eq_nil_iff.1 h with h | h
      · omega
      · exact d.digits_ne_nil h
    · rw [List.take_append_drop, hvalue]
    · rw [List.length_drop]
      omega

/-- A sign, digits around a point and an exponent. -/
theorem numericText_parts {text : String} {negative : Bool} {ip fp rest : List Char} {e : Int}
    (htext : text.toList = (if negative then ['-'] else []) ++
      (ip ++ (if fp = [] then [] else '.' :: fp) ++ rest))
    (hip : ∀ c ∈ ip, c.isDigit = true) (hfp : ∀ c ∈ fp, c.isDigit = true) (hne : ip ≠ [])
    (hend : ∀ c ∈ rest.head?, c.isDigit = false ∧ c ≠ '.') (hexp : readExponent rest = some e) :
    numericText text = some (⟨negative, Nat.ofDigitChars 10 (ip ++ fp) 0, e - fp.length⟩, e) := by
  have hsign : readSign text.toList =
      (negative, ip ++ (if fp = [] then [] else '.' :: fp) ++ rest) := by
    rw [htext]
    cases negative with
    | true => rfl
    | false =>
      obtain ⟨c, l, hcl⟩ := List.exists_cons_of_ne_nil hne
      have hc := hip c (by rw [hcl]; simp)
      rw [hcl]
      simp only [Bool.false_eq_true, if_false, List.nil_append, List.cons_append, readSign]
      split
      next h => simp only [List.cons.injEq] at h; exact absurd (h.1 ▸ hc) (by decide)
      next h => simp only [List.cons.injEq] at h; exact absurd (h.1 ▸ hc) (by decide)
      · rfl
  have hpoint : ∀ c ∈ ((if fp = [] then [] else '.' :: fp) ++ rest).head?, c.isDigit = false := by
    split
    · exact fun c hc => (hend c hc).1
    · simp
  have hfraction : readFraction ((if fp = [] then [] else '.' :: fp) ++ rest) = (fp, rest) := by
    split
    next hnil =>
      rw [hnil, List.nil_append]
      cases rest with
      | nil => rfl
      | cons c l =>
        have hc := (hend c rfl).2
        unfold readFraction
        split
        next h =>
          cases h
          exact absurd rfl hc
        · rfl
    · obtain ⟨htake, hdrop⟩ := takeWhile_digits hfp fun c hc => (hend c hc).1
      simp only [List.cons_append, readFraction, htake, hdrop]
  obtain ⟨htake, hdrop⟩ := takeWhile_digits hip hpoint
  unfold numericText
  simp only [hsign, List.append_assoc, htake, hdrop, hfraction, hne, false_and, if_false, hexp,
    Option.map_some]

/-- **The text of a decimal spells that decimal.** -/
theorem numericText_str (d : Decimal) : numericText d.str = some (d, d.writtenExponent) := by
  obtain ⟨hip, hfp, hne, hvalue, hscale⟩ := d.strParts_spec
  -- the exponent starts with a letter
  have hend : ∀ c ∈ (strExponent d.writtenExponent).head?, c.isDigit = false ∧ c ≠ '.' := by
    unfold strExponent
    split
    · simp
    · split <;> simp
  rw [numericText_parts d.toList_str hip hfp hne hend (readExponent_strExponent _), hvalue, hscale]

theorem numericIn_str (d : Decimal) :
    numericIn d.str = if d.numericOk then some d.toRat else none := by
  unfold numericIn
  rw [numericText_str]
  rfl

/-! ## The decimals of a contract -/

/-- Where the first digit of a decimal of at most ten digits and four places stands. -/
theorem leading_of_fits {d : Decimal} (h : d.fits 10 4 = true) (h0 : d.coefficient ≠ 0) :
    -3 ≤ d.exponent + d.digits.length ∧ d.exponent + d.digits.length ≤ 6 := by
  obtain ⟨⟨k, hk⟩, hlt⟩ := fits_iff.1 h
  have hpos : 0 < d.digits.length := List.length_pos_iff.2 d.digits_ne_nil
  have habs : |d.toRat| = d.coefficient * (10 : ℚ) ^ d.exponent := by
    have hten : (0 : ℚ) < 10 ^ d.exponent := zpow_pos (by norm_num) _
    rw [toRat_eq, abs_mul, abs_of_pos hten]
    unfold signed
    split <;> simp
  constructor
  · by_contra hsmall
    -- a multiple of `10 ^ -4` below `10 ^ -4` is zero
    have hupper : (d.coefficient : ℚ) < 10 ^ (d.digits.length : Int) := by
      have := (Nat.length_toDigits_le_iff (b := 10) (n := d.coefficient) (by norm_num) hpos).1 le_rfl
      rw [zpow_natCast]
      exact_mod_cast this
    have hsize : |d.toRat| < 10 ^ (-4 : Int) := by
      rw [habs]
      calc (d.coefficient : ℚ) * 10 ^ d.exponent
          < 10 ^ (d.digits.length : Int) * 10 ^ d.exponent :=
            mul_lt_mul_of_pos_right hupper (zpow_pos (by norm_num) _)
        _ = 10 ^ ((d.digits.length : Int) + d.exponent) := (zpow_add₀ (by norm_num) _ _).symm
        _ ≤ 10 ^ (-4 : Int) := zpow_le_zpow_right₀ (by norm_num) (by omega)
    have hkabs : |(k : ℚ)| < 1 := by
      rw [← hk, abs_mul, abs_of_pos (by positivity : (0 : ℚ) < 10 ^ 4)]
      calc |d.toRat| * 10 ^ 4 < 10 ^ (-4 : Int) * 10 ^ 4 :=
            mul_lt_mul_of_pos_right hsize (by positivity)
        _ = 1 := by norm_num
    have hk0 : k = 0 := by
      rw [← Int.cast_abs] at hkabs
      exact Int.abs_lt_one_iff.1 (by exact_mod_cast hkabs)
    rw [hk0, Int.cast_zero, mul_eq_zero, or_iff_left (by norm_num)] at hk
    rw [hk, abs_zero, eq_comm, mul_eq_zero] at habs
    rcases habs with hc | hc
    · exact h0 (by exact_mod_cast hc)
    · exact absurd hc (zpow_ne_zero _ (by norm_num))
  · by_contra hlarge
    have hlower : (10 : ℚ) ^ ((d.digits.length : Int) - 1) ≤ d.coefficient := by
      rcases Nat.eq_or_lt_of_le (Nat.succ_le_of_lt hpos) with hone | hmore
      · rw [← hone]
        norm_num
        exact_mod_cast Nat.one_le_iff_ne_zero.2 h0
      · have hge : 10 ^ (d.digits.length - 1) ≤ d.coefficient := by
          by_contra hsmall
          have hk : 0 < d.digits.length - 1 := by omega
          have := (Nat.length_toDigits_le_iff (b := 10) (n := d.coefficient) (by norm_num) hk).2
            (not_le.1 hsmall)
          rw [show Nat.toDigits 10 d.coefficient = d.digits from rfl] at this
          omega
        rw [show (d.digits.length : Int) - 1 = ((d.digits.length - 1 : Nat) : Int) by omega,
          zpow_natCast]
        exact_mod_cast hge
    have hsize : (10 : ℚ) ^ (6 : Int) ≤ |d.toRat| := by
      rw [habs]
      calc (10 : ℚ) ^ (6 : Int) ≤ 10 ^ ((d.digits.length : Int) - 1 + d.exponent) :=
            zpow_le_zpow_right₀ (by norm_num) (by omega)
        _ = 10 ^ ((d.digits.length : Int) - 1) * 10 ^ d.exponent := zpow_add₀ (by norm_num) _ _
        _ ≤ d.coefficient * 10 ^ d.exponent :=
            mul_le_mul_of_nonneg_right hlower (zpow_nonneg (by norm_num) _)
    exact absurd hlt (not_lt.2 (by exact_mod_cast hsize))

/-- **When a `numeric` holds a decimal of a contract**: the exponent alone decides. -/
theorem numericOk_iff {d : Decimal} (h : d.fits 10 4 = true) :
    d.numericOk = true ↔ -16383 ≤ d.exponent ∧ d.exponent ≤ 1073741823 := by
  unfold numericOk numericRange
  simp only [Bool.and_eq_true, Bool.or_eq_true, decide_eq_true_eq, beq_iff_eq, abs_le]
  by_cases h0 : d.coefficient = 0
  · have hlength : d.digits.length = 1 := by
      rw [digits, h0]
      rfl
    have hwritten : d.writtenExponent = 0 ∨ d.writtenExponent = d.exponent := by
      unfold writtenExponent dotplace
      rw [hlength]
      split <;> omega
    have hpositive : 0 < d.exponent → d.writtenExponent = d.exponent := by
      unfold writtenExponent dotplace
      rw [hlength]
      split <;> omega
    have hzero : d.coefficient = 0 ∨ ((Nat.toDigits 10 d.coefficient).length : Int) + d.exponent ≤ 131072 :=
      .inl h0
    constructor
    · rintro ⟨⟨hw, hlow⟩, -⟩
      refine ⟨hlow, ?_⟩
      by_contra hbig
      rw [hpositive (by omega)] at hw
      omega
    · rintro ⟨hlow, hhigh⟩
      refine ⟨⟨?_, hlow⟩, hzero⟩
      rcases hwritten with hw | hw <;> rw [hw] <;> omega
  · obtain ⟨hlow, hhigh⟩ := leading_of_fits h h0
    have hpos : 0 < d.digits.length := List.length_pos_iff.2 d.digits_ne_nil
    have hwritten : 0 ≤ d.writtenExponent ∧ d.writtenExponent ≤ 5 := by
      unfold writtenExponent dotplace
      split <;> omega
    have hdigits : ((Nat.toDigits 10 d.coefficient).length : Int) = d.digits.length := rfl
    constructor
    · rintro ⟨⟨-, hlow⟩, -⟩
      exact ⟨hlow, by omega⟩
    · rintro ⟨hlow, -⟩
      exact ⟨⟨⟨by omega, by omega⟩, hlow⟩, .inr (by omega)⟩

end Decimal

end PaperGrading
