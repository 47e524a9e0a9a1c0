import PaperGrading.Reviews.Refinement
import PaperGrading.Grading.Response

/-!
# The preview of the review totals

`decimal.ts` reads scores with a pattern of its own and adds scaled integers; the service reads
them with `Decimal` and adds decimals.

    parseDecimal text = some n → Decimal(text) = n / 10 ^ 4                       (ofText_of_parse)
    parseDecimal (formatDecimal n) = max 0 n                                 (parseDecimal_format)
    the preview of an accepted form shows what is stored ↔
      every score and every applied deduction is written in the pattern         (preview_shows_iff)
-/

namespace PaperGrading

/-! ## `decimal.ts` -/

/-- `DECIMAL_PATTERN.exec(value)`: the digits before the point and those after it. -/
def matchDecimal (value : String) : Option (List Char × List Char) :=
  let whole := value.toList.takeWhile Char.isDigit
  if isWhole whole then
    match value.toList.dropWhile Char.isDigit with
    | [] => some (whole, [])
    | '.' :: fraction =>
      if lengthBetween 1 4 fraction.length && fraction.all Char.isDigit then some (whole, fraction)
      else none
    | _ => none
  else none

def padEnd (fraction : List Char) : List Char := fraction ++ List.replicate (4 - fraction.length) '0'

def parseDecimal (value : String) : Option Int :=
  (matchDecimal value).map fun (whole, fraction) =>
    (Nat.ofDigitChars 10 whole 0 * 10 ^ 4 + Nat.ofDigitChars 10 (padEnd fraction) 0 : Nat)

def padStart (digits : List Char) : List Char := List.replicate (4 - digits.length) '0' ++ digits

def formatDecimal (value : Int) : String :=
  let safe := value.toNat
  let fraction := padStart (Nat.toDigits 10 (safe % 10 ^ 4))
  let trimmed := (fraction.reverse.dropWhile (· == '0')).reverse
  String.ofList (Nat.toDigits 10 (safe / 10 ^ 4) ++ if trimmed = [] then [] else '.' :: trimmed)

structure ReviewTotal where
  subtotal : String
  deductionTotal : String
  finalScore : String
  deriving DecidableEq

/-- A deduction of the form and the points that the page found for it. -/
structure PreviewDeduction where
  applied : Bool
  points : String
  deriving DecidableEq

def calculateReviewTotal (scores : List String) (deductions : List PreviewDeduction) :
    Option ReviewTotal :=
  let parsedScores := scores.map parseDecimal
  let parsedDeductions := deductions.map fun d => if d.applied then parseDecimal d.points else some 0
  if parsedScores.any (·.isNone) || parsedDeductions.any (·.isNone) then none
  else
    let subtotal := (parsedScores.filterMap id).sum
    let deductionTotal := (parsedDeductions.filterMap id).sum
    some ⟨formatDecimal subtotal, formatDecimal deductionTotal,
      formatDecimal (subtotal - deductionTotal)⟩

/-- `preview` of the workbench; the rubric comes as JSON, its decimals by `str`. -/
def preview (rubric : StructuredRubric) (scores : List String) (deductions : List ReviewDeduction) :
    Option ReviewTotal :=
  calculateReviewTotal scores (deductions.map fun d => ⟨d.applied,
    ((rubric.deductions.find? (·.id == d.deductionId)).map (·.points.str)).getD "0"⟩)

/-! ## Reading -/

/-- The pattern, read as a number. -/
structure Matches (value : String) (whole fraction : List Char) : Prop where
  text : value.toList = whole ++ if fraction = [] then [] else '.' :: fraction
  isWhole : isWhole whole = true
  digits : ∀ c ∈ fraction, c.isDigit = true
  length : fraction.length ≤ 4

theorem matchDecimal_eq_some {value : String} {whole fraction : List Char} :
    matchDecimal value = some (whole, fraction) ↔ Matches value whole fraction := by
  constructor
  · intro h
    have hsplit := List.takeWhile_append_dropWhile (p := Char.isDigit) (l := value.toList)
    unfold matchDecimal at h
    simp only at h
    split at h
    next hwhole =>
      split at h
      next hrest =>
        simp only [Option.some.injEq, Prod.mk.injEq] at h
        obtain ⟨rfl, rfl⟩ := h
        exact ⟨by rw [if_pos rfl, ← hrest, hsplit], hwhole, by simp, by simp⟩
      next ds hrest =>
        split at h
        next hds =>
          simp only [Option.some.injEq, Prod.mk.injEq] at h
          obtain ⟨rfl, rfl⟩ := h
          simp only [lengthBetween, Bool.and_eq_true, decide_eq_true_iff] at hds
          have hne : ds ≠ [] := List.length_pos_iff.1 hds.1.1
          exact ⟨by rw [if_neg hne, ← hrest, hsplit], hwhole, List.all_eq_true.1 hds.2, hds.1.2⟩
        · cases h
      · cases h
    · cases h
  · rintro ⟨htext, hwhole, hdigits, hlength⟩
    have hd : ∀ c ∈ whole, c.isDigit = true := fun c hc => isDigit_of_isWhole hwhole hc
    have hhead : ∀ c ∈ (if fraction = [] then [] else '.' :: fraction).head?,
        c.isDigit = false := by
      split <;> simp
    obtain ⟨htake, hdrop⟩ := Decimal.takeWhile_digits hd hhead
    unfold matchDecimal
    simp only [htext, htake, hdrop, hwhole, if_true]
    by_cases hnil : fraction = []
    · simp [hnil]
    · have hpos : 1 ≤ fraction.length := List.length_pos_iff.2 hnil
      have hall : fraction.all Char.isDigit = true := List.all_eq_true.2 hdigits
      simp [hnil, lengthBetween, hall, hlength]

theorem parseDecimal_eq_some {value : String} {n : Int} : parseDecimal value = some n ↔
    ∃ whole fraction, Matches value whole fraction ∧ n = (Nat.ofDigitChars 10 whole 0 * 10 ^ 4 +
      Nat.ofDigitChars 10 (padEnd fraction) 0 : Nat) := by
  unfold parseDecimal
  rw [Option.map_eq_some_iff]
  constructor
  · rintro ⟨⟨whole, fraction⟩, h, rfl⟩
    exact ⟨whole, fraction, matchDecimal_eq_some.1 h, rfl⟩
  · rintro ⟨whole, fraction, h, rfl⟩
    exact ⟨(whole, fraction), matchDecimal_eq_some.2 h, rfl⟩

theorem parseDecimal_isSome {value : String} :
    (parseDecimal value).isSome = (matchDecimal value).isSome := by
  unfold parseDecimal
  rw [Option.isSome_map]

/-- The decimal that the pattern spells. -/
theorem numericText_of_matches {value : String} {whole fraction : List Char}
    (h : Matches value whole fraction) : numericText value =
      some (⟨false, Nat.ofDigitChars 10 (whole ++ fraction) 0, -fraction.length⟩, 0) := by
  have hd : ∀ c ∈ whole, c.isDigit = true := fun c hc => isDigit_of_isWhole h.isWhole hc
  have hne : whole ≠ [] := List.length_pos_iff.1 (length_pos_of_isWhole h.isWhole)
  have hhead : ∀ c ∈ (if fraction = [] then [] else '.' :: fraction).head?, c.isDigit = false := by
    split <;> simp
  obtain ⟨htake, hdrop⟩ := Decimal.takeWhile_digits hd hhead
  have hsign : readSign value.toList = (false, value.toList) := by
    obtain ⟨c, cs, rfl⟩ := List.exists_cons_of_ne_nil hne
    have hc := hd c List.mem_cons_self
    rw [h.text, List.cons_append]
    unfold readSign
    split
    next heq => cases heq; exact absurd hc (by decide)
    next heq => cases heq; exact absurd hc (by decide)
    · rfl
  have hfraction : readFraction (if fraction = [] then [] else '.' :: fraction) = (fraction, []) := by
    split
    next hnil => rw [hnil]; rfl
    next hnil =>
      obtain ⟨htake, hdrop⟩ := @Decimal.takeWhile_digits _ [] h.digits (by simp)
      rw [List.append_nil] at htake hdrop
      simp [readFraction, htake, hdrop]
  rw [h.text] at hsign
  unfold numericText
  simp only [h.text, hsign, htake, hdrop, hfraction, hne, false_and, if_false, readExponent,
    Option.map_some, zero_sub]

theorem ofDigitChars_padEnd {whole fraction : List Char} (h : fraction.length ≤ 4) :
    Nat.ofDigitChars 10 whole 0 * 10 ^ 4 + Nat.ofDigitChars 10 (padEnd fraction) 0 =
      Nat.ofDigitChars 10 (whole ++ fraction) 0 * 10 ^ (4 - fraction.length) := by
  unfold padEnd
  have hpow : 10 ^ 4 = 10 ^ fraction.length * 10 ^ (4 - fraction.length) := by
    rw [← pow_add]
    congr 1
    omega
  have hfraction : Nat.ofDigitChars 10 fraction (Nat.ofDigitChars 10 whole 0) =
      10 ^ fraction.length * Nat.ofDigitChars 10 whole 0 + Nat.ofDigitChars 10 fraction 0 :=
    Nat.ofDigitChars_eq_ofDigitChars_zero
  rw [Nat.ofDigitChars_append, Nat.ofDigitChars_append, Nat.ofDigitChars_replicate_zero, hfraction,
    hpow]
  ring

/-- The characters of the pattern are what they are to `Decimal`. -/
def PlainChars (env : Runtime) (asciiDigit : Char → Char) : Prop :=
  ∀ c : Char, c.isDigit = true ∨ c = '.' → asciiDigit c = c ∧ env.isSpace c = false

variable {env : Runtime} {asciiDigit : Char → Char}

theorem strip_of_plain {s : String} (h : ∀ c ∈ s.toList, env.isSpace c = false) :
    env.strip s = s := by
  have hdrop {l : List Char} (hl : ∀ c ∈ l, env.isSpace c = false) : l.dropWhile env.isSpace = l := by
    cases l with
    | nil => rfl
    | cons c l => rw [List.dropWhile_cons_of_neg (by simp [hl c])]
  unfold Runtime.strip
  rw [hdrop h, hdrop fun c hc => h c (List.mem_reverse.1 hc), List.reverse_reverse,
    String.ofList_toList]

theorem ofText_of_matches (hchars : PlainChars env asciiDigit) {value : String}
    {whole fraction : List Char} (h : Matches value whole fraction) :
    Decimal.ofText env asciiDigit value = (numericText value).map (·.1) := by
  have hmem : ∀ c ∈ value.toList, c.isDigit = true ∨ c = '.' := by
    intro c hc
    rw [h.text] at hc
    rcases List.mem_append.1 hc with hc | hc
    · exact .inl (isDigit_of_isWhole h.isWhole hc)
    · split at hc
      · exact absurd hc List.not_mem_nil
      · rcases List.mem_cons.1 hc with rfl | hc
        · exact .inr rfl
        · exact .inl (h.digits c hc)
  have hfilter : value.toList.filter (· != '_') = value.toList := by
    refine List.filter_eq_self.2 fun c hc => ?_
    rw [bne_iff_ne]
    rintro rfl
    rcases hmem _ hc with h | h
    · exact absurd h (by decide)
    · exact absurd h (by decide)
  have hmap : value.toList.map asciiDigit = value.toList :=
    (List.map_congr_left fun c hc => (hchars c (hmem c hc)).1).trans (List.map_id _)
  unfold Decimal.ofText
  rw [strip_of_plain fun c hc => (hchars c (hmem c hc)).2, hfilter, hmap, String.ofList_toList]

/-- The text spells the number for `Decimal`. -/
def Spells (env : Runtime) (asciiDigit : Char → Char) (text : String) (x : ℚ) : Prop :=
  (Decimal.ofText env asciiDigit text).map Decimal.toRat = some x

theorem ofText_of_parse (hchars : PlainChars env asciiDigit) {value : String} {n : Int}
    (h : parseDecimal value = some n) : Spells env asciiDigit value (n / 10 ^ 4) := by
  obtain ⟨whole, fraction, hmatches, rfl⟩ := parseDecimal_eq_some.1 h
  unfold Spells
  rw [ofText_of_matches hchars hmatches, numericText_of_matches hmatches,
    ofDigitChars_padEnd hmatches.length, Option.map_some, Option.map_some, Option.some.injEq,
    Decimal.toRat_eq]
  obtain ⟨k, hk⟩ := Nat.exists_eq_add_of_le hmatches.length
  have hsub : 4 - fraction.length = k := by omega
  simp only [Decimal.signed, Bool.false_eq_true, if_false]
  rw [hsub, hk, zpow_neg, zpow_natCast]
  push_cast
  rw [pow_add, mul_div_mul_right _ _ (by positivity), ← div_eq_mul_inv]

/-! ## Writing -/

/-- The zeros that `replace` takes from the end come back with `padEnd`. -/
theorem padEnd_trim {fraction : List Char} (h : fraction.length = 4) :
    padEnd (fraction.reverse.dropWhile (· == '0')).reverse = fraction := by
  have hzeros : (fraction.reverse.takeWhile (· == '0')).reverse =
      List.replicate (4 - (fraction.reverse.dropWhile (· == '0')).reverse.length) '0' := by
    have hlength := congrArg List.length
      (List.takeWhile_append_dropWhile (p := (· == '0')) (l := fraction.reverse))
    rw [List.length_append, List.length_reverse, h] at hlength
    refine List.eq_replicate_iff.2 ⟨?_, fun c hc => ?_⟩
    · rw [List.length_reverse, List.length_reverse]
      omega
    · simpa using List.mem_takeWhile_imp (List.mem_reverse.1 hc)
  unfold padEnd
  rw [← hzeros, ← List.reverse_append, List.takeWhile_append_dropWhile, List.reverse_reverse]

theorem padStart_spec {n : Nat} (h : n < 10 ^ 4) : (padStart (Nat.toDigits 10 n)).length = 4 ∧
    (∀ c ∈ padStart (Nat.toDigits 10 n), c.isDigit = true) ∧
      Nat.ofDigitChars 10 (padStart (Nat.toDigits 10 n)) 0 = n := by
  have hlength : (Nat.toDigits 10 n).length ≤ 4 := 
    (Nat.length_toDigits_le_iff (by decide) (by decide)).2 h
  unfold padStart
  refine ⟨?_, fun c hc => ?_, ?_⟩
  · rw [List.length_append, List.length_replicate]
    omega
  · rcases List.mem_append.1 hc with hc | hc
    · rw [List.eq_of_mem_replicate hc]
      rfl
    · exact Nat.isDigit_of_mem_toDigits (by omega) (by omega) hc
  · rw [Nat.ofDigitChars_append, Nat.ofDigitChars_replicate_zero, Nat.mul_zero,
      Nat.ofDigitChars_ten_toDigits]

theorem parseDecimal_format (n : Int) : parseDecimal (formatDecimal n) = some (max 0 n) := by
  obtain ⟨hlength, hdigits, hvalue⟩ := padStart_spec (Nat.mod_lt n.toNat (by decide : 0 < 10 ^ 4))
  refine parseDecimal_eq_some.2 ⟨Nat.toDigits 10 (n.toNat / 10 ^ 4),
    ((padStart (Nat.toDigits 10 (n.toNat % 10 ^ 4))).reverse.dropWhile (· == '0')).reverse,
    ⟨?_, isWhole_toDigits _, fun c hc => ?_, ?_⟩, ?_⟩
  · unfold formatDecimal
    rw [String.toList_ofList]
  · exact hdigits c (List.mem_reverse.1 ((List.dropWhile_sublist _).subset (List.mem_reverse.1 hc)))
  · rw [List.length_reverse]
    refine (List.dropWhile_sublist _).length_le.trans ?_
    rw [List.length_reverse, hlength]
  · rw [padEnd_trim hlength, hvalue, Nat.ofDigitChars_ten_toDigits]
    have := Nat.div_add_mod n.toNat (10 ^ 4)
    omega

/-! ## The totals -/

theorem spells_format (hchars : PlainChars env asciiDigit) (n : Int) :
    Spells env asciiDigit (formatDecimal n) (max 0 ((n : ℚ) / 10 ^ 4)) := by
  have hmax : max 0 ((n : ℚ) / 10 ^ 4) = ((max 0 n : Int) : ℚ) / 10 ^ 4 := by
    rcases le_total 0 n with h | h
    · rw [max_eq_right h, max_eq_right (div_nonneg (by exact_mod_cast h) (by norm_num))]
    · rw [max_eq_left h, Int.cast_zero, zero_div,
        max_eq_left (div_nonpos_of_nonpos_of_nonneg (by exact_mod_cast h) (by norm_num))]
  rw [hmax]
  exact ofText_of_parse hchars (parseDecimal_format n)

/-- The sum of what is parsed, on the scale of four decimals. -/
theorem sum_parsed {α : Type} {l : List α} {parse : α → Option Int} {value : α → ℚ}
    (h : ∀ a ∈ l, ∃ n : Int, parse a = some n ∧ (n : ℚ) / 10 ^ 4 = value a) :
    (((l.map parse).filterMap id).sum : Int) / (10 : ℚ) ^ 4 = (l.map value).sum := by
  induction l with
  | nil => simp
  | cons a l ih =>
    rw [List.forall_mem_cons] at h
    obtain ⟨⟨n, hn, hvalue⟩, hrest⟩ := h
    have hcons : ((a :: l).map parse).filterMap id = n :: (l.map parse).filterMap id := by
      simp [hn]
    rw [hcons, List.map_cons, List.sum_cons, List.sum_cons, Int.cast_add, add_div, hvalue, ih hrest]

theorem calculateReviewTotal_isSome {scores : List String} {deductions : List PreviewDeduction} :
    (calculateReviewTotal scores deductions).isSome = true ↔
      (∀ s ∈ scores, (parseDecimal s).isSome = true) ∧
        ∀ d ∈ deductions, d.applied = true → (parseDecimal d.points).isSome = true := by
  have hscores : (scores.map parseDecimal).any (·.isNone) = false ↔
      ∀ s ∈ scores, (parseDecimal s).isSome = true := by
    simp [Option.isSome_iff_ne_none]
  have hdeductions : (deductions.map fun d => if d.applied then parseDecimal d.points else some 0).any
      (·.isNone) = false ↔ ∀ d ∈ deductions, d.applied = true →
        (parseDecimal d.points).isSome = true := by
    rw [List.any_map, List.any_eq_false]
    refine forall₂_congr fun d _ => ?_
    cases h : d.applied <;> simp [h, Option.isSome_iff_ne_none]
  unfold calculateReviewTotal
  simp only
  split
  next h =>
    refine iff_of_false (by simp) fun hall => ?_
    rw [hscores.2 hall.1, hdeductions.2 hall.2] at h
    exact absurd h (by decide)
  next h =>
    rw [Bool.not_eq_true, Bool.or_eq_false_iff] at h
    exact iff_of_true rfl ⟨hscores.1 h.1, hdeductions.1 h.2⟩

theorem spells_totals (hchars : PlainChars env asciiDigit) {scores : List String}
    {deductions : List PreviewDeduction} {v : ReviewTotal}
    (h : calculateReviewTotal scores deductions = some v) {a b : ℚ}
    (ha : (((scores.map parseDecimal).filterMap id).sum : Int) / (10 : ℚ) ^ 4 = a)
    (hb : (((deductions.map fun d => if d.applied then parseDecimal d.points else some 0).filterMap
      id).sum : Int) / (10 : ℚ) ^ 4 = b) :
    Spells env asciiDigit v.subtotal (max 0 a) ∧ Spells env asciiDigit v.deductionTotal (max 0 b) ∧
      Spells env asciiDigit v.finalScore (max 0 (a - b)) := by
  unfold calculateReviewTotal at h
  simp only at h
  split at h
  · cases h
  · cases h
    rw [← ha, ← hb, ← sub_div, ← Int.cast_sub]
    exact ⟨spells_format hchars _, spells_format hchars _, spells_format hchars _⟩

/-- What the preview reads is written in the pattern. -/
structure WrittenPlainly (rubric : StructuredRubric) (scores : List String)
    (deductions : List ReviewDeduction) : Prop where
  scores : ∀ s ∈ scores, (matchDecimal s).isSome = true
  points : ∀ d ∈ deductions, d.applied = true → ∀ r ∈ rubric.deductions, r.id = d.deductionId →
    (matchDecimal r.points.str).isSome = true

/-- A preview that shows the totals of a draft. -/
def Previews (env : Runtime) (asciiDigit : Char → Char) (shown : Option ReviewTotal)
    (data : ReviewDraftData) : Prop :=
  ∃ v, shown = some v ∧ Spells env asciiDigit v.subtotal data.subtotal.toRat ∧
    Spells env asciiDigit v.deductionTotal data.deductionTotal.toRat ∧
    Spells env asciiDigit v.finalScore data.finalScore.toRat

/-- The page finds the points of the rubric's deduction. -/
theorem find_points {rubric : StructuredRubric} {deductions : List ReviewDeduction}
    (hids : deductions.map (·.deductionId) = rubric.deductions.map (·.id))
    (hnodup : (rubric.deductions.map (·.id)).Nodup) :
    (deductions.map fun d => (⟨d.applied, ((rubric.deductions.find? (·.id == d.deductionId)).map
        (·.points.str)).getD "0"⟩ : PreviewDeduction)) =
      (deductions.zip rubric.deductions).map fun x => ⟨x.1.applied, x.2.points.str⟩ := by
  have hlen : deductions.length = rubric.deductions.length := by
    simpa using congrArg List.length hids
  conv_lhs => rw [← List.map_fst_zip hlen.le, List.map_map]
  refine List.map_congr_left fun x hx => ?_
  have hfind : rubric.deductions.find? (·.id == x.1.deductionId) = some x.2 := by
    rw [zip_keys hids x hx]
    exact Table.find?_eq_some_of_key hnodup (List.of_mem_zip hx).2 _ (by simp) (by simp)
  simp only [Function.comp, hfind, Option.map_some, Option.getD_some]

theorem sum_scores (hchars : PlainChars env asciiDigit) {scores : List String} {ds : List Decimal}
    (h : scores.map (Decimal.ofText env asciiDigit) = ds.map some)
    (hplain : ∀ s ∈ scores, (matchDecimal s).isSome = true) :
    (((scores.map parseDecimal).filterMap id).sum : Int) / (10 : ℚ) ^ 4 =
      (ds.map Decimal.toRat).sum := by
  let value (s : String) : ℚ := ((Decimal.ofText env asciiDigit s).map Decimal.toRat).getD 0
  have hvalue : ∀ s ∈ scores, ∃ n : Int, parseDecimal s = some n ∧ (n : ℚ) / 10 ^ 4 = value s := by
    intro s hs
    have hsome : (parseDecimal s).isSome = true := by
      rw [parseDecimal_isSome]
      exact hplain s hs
    obtain ⟨n, hn⟩ := Option.isSome_iff_exists.1 hsome
    have hspells := ofText_of_parse hchars hn
    unfold Spells at hspells
    exact ⟨n, hn, by simp only [value, hspells, Option.getD_some]⟩
  have hvalues : scores.map value = ds.map Decimal.toRat := by
    have := congrArg (List.map fun o : Option Decimal => (o.map Decimal.toRat).getD 0) h
    simpa [Function.comp_def, value] using this
  rw [sum_parsed hvalue, hvalues]

theorem sum_points (hchars : PlainChars env asciiDigit) {l : List (ReviewDeduction × RubricDeduction)}
    (hplain : ∀ x ∈ l, x.1.applied = true → (matchDecimal x.2.points.str).isSome = true) :
    ((((l.map fun x => (⟨x.1.applied, x.2.points.str⟩ : PreviewDeduction)).map fun d =>
        if d.applied then parseDecimal d.points else some 0).filterMap id).sum : Int) /
        (10 : ℚ) ^ 4 = (l.map fun x => if x.1.applied then x.2.points.toRat else 0).sum := by
  rw [List.map_map]
  refine sum_parsed fun x hx => ?_
  show ∃ n, (if x.1.applied = true then parseDecimal x.2.points.str else some 0) = some n ∧ _
  cases happlied : x.1.applied with
  | false => exact ⟨0, rfl, by simp⟩
  | true =>
    obtain ⟨n, hn⟩ := Option.isSome_iff_exists.1 (parseDecimal_isSome.trans (hplain x hx happlied))
    obtain ⟨whole, fraction, hmatches, -⟩ := parseDecimal_eq_some.1 hn
    have hspells := ofText_of_parse hchars hn
    unfold Spells at hspells
    rw [ofText_of_matches hchars hmatches, Decimal.numericText_str, Option.map_some,
      Option.map_some, Option.some.injEq] at hspells
    exact ⟨n, hn, hspells.symm⟩

/-- **The preview of an accepted form shows the stored totals iff all that it reads is written in
its pattern.** -/
theorem preview_shows_iff (hchars : PlainChars env asciiDigit) {t : ReviewTarget env}
    {parsed : ParsedDocument} {p : ReviewDraftInput} {requireEditable : Bool}
    {data : ReviewDraftData} (hp : validatePayload env t parsed p requireEditable = .ok data)
    {scores : List String}
    (hscores : scores.map (Decimal.ofText env asciiDigit) = p.criteria.map fun c => some c.score) :
    Previews env asciiDigit (preview t.rubric.rubric scores p.deductions) data ↔
      WrittenPlainly t.rubric.rubric scores p.deductions := by
  obtain ⟨-, hpasses, rfl⟩ := validatePayload_eq_ok.1 hp
  have hids : p.deductions.map (·.deductionId) = t.rubric.rubric.deductions.map (·.id) := by
    have := hpasses.meets.deductionIds
    simpa [ReviewDraftInput.gradeResult, ReviewTarget.gradeRequest, Function.comp_def] using this
  have hnodup := t.rubric.nodup.2
  have hlen : p.deductions.length = t.rubric.rubric.deductions.length := by
    simpa using congrArg List.length hids
  have hpartner : ∀ d ∈ p.deductions, ∃ r, (d, r) ∈ p.deductions.zip t.rubric.rubric.deductions := by
    intro d hd
    rw [← List.map_fst_zip hlen.le] at hd
    obtain ⟨⟨d', r⟩, hx, rfl⟩ := List.mem_map.1 hd
    exact ⟨r, hx⟩
  unfold preview
  rw [find_points hids hnodup]
  constructor
  · rintro ⟨v, hv, -⟩
    have hsome := calculateReviewTotal_isSome.1 (Option.isSome_iff_exists.2 ⟨v, hv⟩)
    refine ⟨fun s hs => parseDecimal_isSome ▸ hsome.1 s hs, fun d hd happlied r hr hid => ?_⟩
    obtain ⟨r', hx⟩ := hpartner d hd
    have hkey : d.deductionId = r'.id := zip_keys hids _ hx
    have heq : r = r' := eq_of_key hnodup hr (List.of_mem_zip hx).2 (hid.trans hkey)
    rw [heq, ← parseDecimal_isSome]
    exact hsome.2 ⟨d.applied, r'.points.str⟩ (List.mem_map.2 ⟨(d, r'), hx, rfl⟩) happlied
  · rintro ⟨hplain, hpoints⟩
    have hzip : ∀ x ∈ p.deductions.zip t.rubric.rubric.deductions, x.1.applied = true →
        (matchDecimal x.2.points.str).isSome = true := fun x hx happlied =>
      hpoints x.1 (List.of_mem_zip hx).1 happlied x.2 (List.of_mem_zip hx).2 (zip_keys hids x hx).symm
    have hsome : (calculateReviewTotal scores ((p.deductions.zip t.rubric.rubric.deductions).map
        fun x => ⟨x.1.applied, x.2.points.str⟩)).isSome = true := by
      refine calculateReviewTotal_isSome.2 ⟨fun s hs => ?_, fun d hd happlied => ?_⟩
      · rw [parseDecimal_isSome]
        exact hplain s hs
      · obtain ⟨x, hx, rfl⟩ := List.mem_map.1 hd
        rw [parseDecimal_isSome]
        exact hzip x hx happlied
    obtain ⟨v, hv⟩ := Option.isSome_iff_exists.1 hsome
    refine ⟨v, hv, ?_⟩
    have hparsed : (p.criteria.map (·.score)).map some = p.criteria.map fun c => some c.score := by
      rw [List.map_map]
      rfl
    have hsubtotal := sum_scores hchars (hscores.trans hparsed.symm) hplain
    have hdeduction := sum_points hchars hzip
    have hcalculated : ((p.deductions.zip t.rubric.rubric.deductions).map fun x =>
        if x.1.applied then x.2.points.toRat else 0).sum =
        (p.payload 0 0 0).calculatedDeductionTotal t.rubric.rubric := rfl
    rw [hcalculated] at hdeduction
    simp only [List.map_map, Function.comp_def] at hsubtotal
    have htotals := hpasses.totals
    simp only [ValidatedGradeResult.accepts, Bool.and_eq_true, isTotal_iff] at htotals
    have hs0 : 0 ≤ (p.withTotals t.rubric.rubric).subtotal.toRat := htotals.1.1.2.1
    have hd0 : 0 ≤ (p.withTotals t.rubric.rubric).deductionTotal.toRat := htotals.1.2.1
    have hexact := GradeResult.sumsExactly_of_accepts t.rubric.accepted hpasses.meets.schema
    have hs := toRat_subtotal hexact
    have hd := toRat_deductionTotal hexact hids hnodup 0 0 0
    rw [toRat_finalScore hexact, hs, hd]
    rw [hs] at hs0
    rw [hd] at hd0
    have hspells := spells_totals hchars hv hsubtotal hdeduction
    rwa [max_eq_right hs0, max_eq_right hd0] at hspells

/-! ## A score with a leading zero -/

namespace Sample

theorem plainChars_sample : PlainChars sampleRuntime id := by
  intro c hc
  refine ⟨rfl, ?_⟩
  show (c == ' ') = false
  rw [beq_eq_false_iff_ne]
  rintro rfl
  exact absurd hc (by decide)

/-- Nine points, written `09`. -/
def nineDraft : ReviewDraftInput := reviewDraft ⟨false, 9, 0⟩ (some "Better")

theorem nineDraft_ok : validatePayload sampleRuntime reviewTarget essay nineDraft true =
    .ok (nineDraft.withTotals rubric) := by decide +kernel

theorem plain_previewed :
    Previews sampleRuntime id (preview rubric ["9"] nineDraft.deductions) (nineDraft.withTotals rubric) ↔
      WrittenPlainly rubric ["9"] nineDraft.deductions :=
  preview_shows_iff plainChars_sample nineDraft_ok (by decide +kernel)

theorem leadingZero_hidden :
    ¬∀ (p : ReviewDraftInput) (data : ReviewDraftData) (scores : List String),
      validatePayload sampleRuntime reviewTarget essay p true = .ok data →
      data.payload.Accepted rubric suggestionRow →
      scores.map (Decimal.ofText sampleRuntime id) = (p.criteria.map fun c => some c.score) →
      Previews sampleRuntime id (preview rubric scores p.deductions) data := by
  intro h
  have hstored : ∃ stored, acceptReviewPayload (nineDraft.withTotals rubric).payload rubric
      suggestionRow = .ok stored := by
    cases hs : acceptReviewPayload (nineDraft.withTotals rubric).payload rubric suggestionRow with
    | ok stored => exact ⟨stored, rfl⟩
    | error e =>
      have : (acceptReviewPayload (nineDraft.withTotals rubric).payload rubric
        suggestionRow).isOk = true := by decide +kernel
      rw [hs] at this
      cases this
  obtain ⟨v, hv, -⟩ := h nineDraft _ ["09"] nineDraft_ok hstored (by decide +kernel)
  have hnone : preview rubric ["09"] nineDraft.deductions = none := by decide +kernel
  rw [hnone] at hv
  cases hv

end Sample

end PaperGrading
