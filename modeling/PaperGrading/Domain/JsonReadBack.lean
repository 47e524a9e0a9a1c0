import PaperGrading.Base.Table
import PaperGrading.Domain.CanonicalJson
import PaperGrading.Domain.JsonLoads
import PaperGrading.Domain.Texts
import Mathlib.Data.List.TakeDrop
import Mathlib.Tactic.IntervalCases

/-!
# What was dumped is loaded

The text of a value is read as that value, by the scanner of `json.loads`.  Every lemma is about a
text and what closes it, so that the parts of a list or a dict can be read one after the other.

    a dict without floats and overlong integers, nested no deeper than the scanner goes, is read
      back with its keys in order                                    (loads_canonicalJson)
    a key of such a dict has the value that was written under it            (key_sorted)
-/

namespace PaperGrading

namespace Json

/-! ## What was written as a string -/

open Js

@[simp] theorem val_point (c : Char) : (point c).val = c.toNat := by
  unfold point
  refine Nat.mod_eq_of_lt ?_
  have := c.valid
  unfold UInt32.isValidChar Nat.isValidChar at this
  show c.val.toNat < 0x110000
  omega

theorem point_inj {c d : Char} : point c = point d ↔ c = d := by
  refine ⟨fun h => ?_, fun h => h ▸ rfl⟩
  have hval : c.toNat = d.toNat := by rw [← val_point, h, val_point]
  rw [← Char.ofNat_toNat c, hval, Char.ofNat_toNat]

/-- What stands after the backslash of an escape. -/
theorem escape_escapeChar : ∀ c ∈ escapedChars, ∀ r,
    escape (points (escapeChar c).tail ++ r) = some (point c, r) := by
  have hcontrol : ∀ n < 32, ∀ r, escape (points (escapeChar (Char.ofNat n)).tail ++ r) =
      some (point (Char.ofNat n), r) := by
    intro n hn r
    interval_cases n <;> rfl
  intro c hc r
  rcases mem_escapedChars.1 hc with rfl | rfl | h
  · rfl
  · rfl
  · simpa using hcontrol c.toNat h r

theorem escapeChar_eq_cons {c : Char} (h : c ∈ escapedChars) :
    escapeChar c = '\\' :: (escapeChar c).tail := by
  have hhead := head_escapeChar c []
  rw [if_pos h, List.append_nil] at hhead
  obtain ⟨tail, htail⟩ := List.head?_eq_some_iff.1 hhead
  rw [htail, List.tail_cons]

theorem scanString_escapeChar (c : Char) (fuel : Nat) (r : List CodePoint) :
    scanString (fuel + 1) (points (escapeChar c) ++ r) =
      (scanString fuel r).map fun x => (point c :: x.1, x.2) := by
  by_cases hc : c ∈ escapedChars
  · rw [escapeChar_eq_cons hc]
    show scanString (fuel + 1) (point '\\' :: (points (escapeChar c).tail ++ r)) = _
    rw [scanString, if_neg (by rw [point_inj]; decide), if_neg (by rw [val_point]; decide), if_pos rfl,
      escape_escapeChar c hc, Option.bind_eq_bind, Option.bind_some]
    dsimp only
    cases scanString fuel r <;> rfl
  · rw [escapeChar_of_not_mem hc]
    rw [mem_escapedChars, not_or, not_or] at hc
    show scanString (fuel + 1) (point c :: r) = _
    rw [scanString, if_neg (by rw [point_inj]; exact hc.1), if_neg (by rw [val_point]; exact hc.2.2),
      if_neg (by rw [point_inj]; exact hc.2.1), Option.bind_eq_bind, Option.bind_some]
    dsimp only
    cases scanString fuel r <;> rfl

/-- A quoted text is read to its closing quote. -/
theorem scanString_escaped (cs : List Char) (r : List CodePoint) {fuel : Nat} (h : cs.length < fuel) :
    scanString fuel (points (cs.flatMap escapeChar) ++ point '"' :: r) = some (points cs, r) := by
  induction cs generalizing fuel with
  | nil =>
    obtain ⟨fuel, rfl⟩ := Nat.exists_eq_add_one_of_ne_zero (Nat.ne_zero_of_lt h)
    rfl
  | cons c cs ih =>
    obtain ⟨fuel, rfl⟩ := Nat.exists_eq_add_one_of_ne_zero (Nat.ne_zero_of_lt h)
    have hassoc : points ((c :: cs).flatMap escapeChar) ++ point '"' :: r =
        points (escapeChar c) ++ (points (cs.flatMap escapeChar) ++ point '"' :: r) := by
      simp [points]
    rw [hassoc, scanString_escapeChar, ih (by simpa using h)]
    rfl

theorem length_escapeChar_pos (c : Char) : 0 < (escapeChar c).length := by
  have := head_escapeChar c []
  cases h : escapeChar c with
  | nil => simp [h] at this
  | cons => simp

theorem length_le_escaped (cs : List Char) : cs.length ≤ (cs.flatMap escapeChar).length := by
  induction cs with
  | nil => simp
  | cons c cs ih =>
    rw [List.flatMap_cons, List.length_append, List.length_cons]
    have := length_escapeChar_pos c
    omega

/-! ## What was written as a number -/

/-- What follows a value that is inside another, or nothing. -/
def Closes (x : List Char) : Prop := ∀ c ∈ x.head?, c = ',' ∨ c = ']' ∨ c = '\x7d'

theorem isDigit_point (c : Char) : isDigit (point c) = c.isDigit := by
  unfold isDigit Char.isDigit
  rw [val_point]
  rfl

theorem Closes.not_digit {x : List Char} (h : Closes x) : ∀ p ∈ (points x).head?, isDigit p = false := by
  intro p hp
  unfold points at hp
  rw [List.head?_map, Option.mem_def, Option.map_eq_some_iff] at hp
  obtain ⟨c, hc, rfl⟩ := hp
  rw [isDigit_point]
  rcases h c hc with rfl | rfl | rfl <;> decide

theorem span_digits {ds x : List Char} (hds : ∀ c ∈ ds, c.isDigit = true) (hx : Closes x) :
    (points ds ++ points x).span isDigit = (points ds, points x) := by
  have hpos : ∀ p ∈ points ds, isDigit p = true := by
    intro p hp
    obtain ⟨c, hc, rfl⟩ := List.mem_map.1 hp
    rw [isDigit_point]
    exact hds c hc
  rw [List.span_eq_takeWhile_dropWhile, List.takeWhile_append_of_pos hpos,
    List.dropWhile_append_of_pos hpos]
  cases h : points x with
  | nil => simp
  | cons p ps =>
    have hp := hx.not_digit p (by rw [h]; rfl)
    rw [List.takeWhile_cons_of_neg (by simp [hp]), List.dropWhile_cons_of_neg (by simp [hp]),
      List.append_nil]

theorem numberOf_points (ds : List Char) : numberOf (points ds) = Nat.ofDigitChars 10 ds 0 := by
  unfold numberOf points
  rw [List.foldl_map, Nat.ofDigitChars_eq_foldl]
  simp only [val_point]
  rfl

theorem scanWhole_digits (n : Nat) {x : List Char} (hx : Closes x) :
    scanWhole (points (Nat.toDigits 10 n) ++ points x) =
      some (points (Nat.toDigits 10 n), points x) := by
  have hdigit : ∀ c ∈ Nat.toDigits 10 n, c.isDigit = true := fun c hc =>
    Nat.isDigit_of_mem_toDigits (by omega) (by omega) hc
  rcases digits_cases n with h | ⟨c, cs, h, hc⟩
  · rw [h]
    rfl
  · have hspan := span_digits hdigit hx
    rw [h] at hspan hdigit ⊢
    show scanWhole (point c :: (points cs ++ points x)) = _
    rw [scanWhole, if_neg (by rw [point_inj]; exact hc),
      if_pos (by rw [isDigit_point]; exact hdigit c List.mem_cons_self)]
    exact congrArg some hspan

theorem scanFraction_closes {x : List Char} (hx : Closes x) :
    scanFraction (points x) = ([], points x) := by
  unfold scanFraction
  split
  next p d rest h =>
    rw [if_neg, h]
    intro hp
    obtain ⟨hp, -⟩ := Bool.and_eq_true_iff.1 hp
    cases x with
    | nil => cases h
    | cons c x =>
      have hpc : point c = p := (List.cons.inj h).1
      rw [decide_eq_true_iff, ← hpc, point_inj] at hp
      have := hx c rfl
      rw [hp] at this
      exact absurd this (by decide)
  · rfl

theorem scanExponent_closes {x : List Char} (hx : Closes x) :
    scanExponent (points x) = ([], points x) := by
  cases x with
  | nil => rfl
  | cons c x =>
    show scanExponent (point c :: points x) = _
    unfold scanExponent
    dsimp only
    rw [if_neg]
    · rfl
    · rw [Bool.or_eq_true, beq_iff_eq, beq_iff_eq, point_inj, point_inj]
      rintro (rfl | rfl)
      · exact absurd (hx _ rfl) (by decide)
      · exact absurd (hx _ rfl) (by decide)

theorem scanNumber_digits {json : JsonRuntime} (negative : Bool) {n : Nat} {x : List Char}
    (hn : (Nat.toDigits 10 n).length ≤ maxIntDigits) (hx : Closes x) :
    scanNumber json negative (points (Nat.toDigits 10 n) ++ points x) =
      .ok (.int (if negative then -(n : Int) else n), points x) := by
  unfold scanNumber
  rw [scanWhole_digits n hx]
  dsimp only
  rw [scanFraction_closes hx]
  dsimp only
  rw [scanExponent_closes hx]
  dsimp only
  rw [if_pos (by rfl), if_neg (by rw [points, List.length_map]; omega), numberOf_points,
    Nat.ofDigitChars_toDigits (by omega) (by omega)]


end Json

/-! ## What was written as a value -/

namespace Js

mutual

/-- The value as `json.loads` has it. -/
def loaded (json : JsonRuntime) : Js → Loaded
  | .null => .null
  | .bool b => .bool b
  | .int n => .int n
  | .float t => .float (json.floatOf (Json.points t.toList))
  | .str s => .str (.ofString s)
  | .arr vs => .arr (loadedElems json vs)
  | .obj fs => .obj (loadedFields json fs)

def loadedElems (json : JsonRuntime) : List Js → List Loaded
  | [] => []
  | v :: vs => v.loaded json :: loadedElems json vs

def loadedFields (json : JsonRuntime) : List (String × Js) → List (PyStr × Loaded)
  | [] => []
  | (k, v) :: fs => (.ofString k, v.loaded json) :: loadedFields json fs

end

mutual

/-- At most `depth` levels of lists and dicts, no float, and no integer that is too long to be
read. -/
def decodes : Nat → Js → Bool
  | _, .float _ => false
  | _, .int n => decide ((Nat.toDigits 10 n.natAbs).length ≤ Json.maxIntDigits)
  | depth + 1, .arr vs => elemsDecode depth vs
  | depth + 1, .obj fs => fieldsDecode depth fs
  | 0, .arr _ | 0, .obj _ => false
  | _, .null | _, .bool _ | _, .str _ => true

def elemsDecode : Nat → List Js → Bool
  | _, [] => true
  | depth, v :: vs => v.decodes depth && elemsDecode depth vs

def fieldsDecode : Nat → List (String × Js) → Bool
  | _, [] => true
  | depth, (_, v) :: fs => v.decodes depth && fieldsDecode depth fs

end

end Js

namespace Json
open Js

theorem points_append (x y : List Char) : points (x ++ y) = points x ++ points y := List.map_append

theorem points_cons (c : Char) (x : List Char) : points (c :: x) = point c :: points x := rfl

theorem ofString_points (s : String) : (PyStr.ofString s).points = points s.toList := rfl

/-- A number is no constant. -/
theorem scanConstant_digit {c : Char} {x : List Char} (h : c.isDigit = true) :
    scanConstant (points (c :: x)) = none := by
  have hne (d : Char) (hd : d.isDigit = false) : c ≠ d := by
    rintro rfl
    rw [h] at hd
    cases hd
  unfold scanConstant constants
  rw [Option.map_eq_none_iff, List.find?_eq_none]
  simp [points, point_inj, (hne 'n' (by decide)).symm, (hne 't' (by decide)).symm,
    (hne 'f' (by decide)).symm, (hne 'N' (by decide)).symm, (hne 'I' (by decide)).symm,
    (hne '-' (by decide)).symm]

theorem scanConstant_minus {c : Char} {x : List Char} (h : c.isDigit = true) :
    scanConstant (points ('-' :: c :: x)) = none := by
  have hne : c ≠ 'I' := by
    rintro rfl
    cases h
  unfold scanConstant constants
  rw [Option.map_eq_none_iff, List.find?_eq_none]
  simp [points, point_inj, hne.symm]


/-- The scanner reads this text as this value, whatever closes it. -/
def Reads (json : JsonRuntime) (depth : Nat) (t : List Char) (v : Loaded) : Prop :=
  ∀ x, Closes x → scanValue json depth (points (t ++ x)) = .ok (v, points x)

variable {json : JsonRuntime} {depth : Nat}

theorem reads_quoted (s : String) : Reads json depth (quoteChars s) (.str (.ofString s)) := by
  intro x hx
  have htext : points (quoteChars s ++ x) =
      point '"' :: (points (s.toList.flatMap escapeChar) ++ point '"' :: points x) := by
    simp [quoteChars, escaped, points]
  have hfuel : s.toList.length < (points (s.toList.flatMap escapeChar) ++ point '"' :: points x).length := by
    have := length_le_escaped s.toList
    simp only [points, List.length_append, List.length_map, List.length_cons]
    omega
  rw [htext, scanValue.eq_def]
  dsimp only
  rw [if_pos rfl, scanString_escaped s.toList _ hfuel]
  rfl

theorem reads_int {n : Int} (hn : (Nat.toDigits 10 n.natAbs).length ≤ maxIntDigits) :
    Reads json depth (toString n).toList (.int n) := by
  intro x hx
  have hdigit : ∀ c ∈ Nat.toDigits 10 n.natAbs, c.isDigit = true := fun c hc =>
    Nat.isDigit_of_mem_toDigits (by omega) (by omega) hc
  obtain ⟨c, cs, hcs⟩ := List.exists_cons_of_ne_nil (Nat.toDigits_ne_nil (n := n.natAbs) (b := 10))
  have hc : c.isDigit = true := hdigit c (hcs ▸ List.mem_cons_self)
  have hne (d : Char) (hd : d.isDigit = false) : point c ≠ point d := by
    rw [Ne, point_inj]
    rintro rfl
    rw [hc] at hd
    cases hd
  rw [intText_eq]
  split
  next hpos =>
    have hnat : n.toNat = n.natAbs := by omega
    have hvalue := @scanNumber_digits json false _ _ hn hx
    rw [hnat, Nat.toList_repr, hcs]
    rw [hcs] at hvalue
    show scanValue json depth (point c :: (points (cs ++ x))) = _
    rw [scanValue.eq_def]
    dsimp only
    rw [if_neg (hne '"' (by decide)), if_neg (hne '[' (by decide)),
      if_neg (hne '\x7b' (by decide))]
    rw [show point c :: points (cs ++ x) = points (c :: (cs ++ x)) from rfl, scanConstant_digit hc]
    dsimp only
    rw [if_neg (hne '-' (by decide)), show points (c :: (cs ++ x)) = points (c :: cs) ++ points x from
      points_append (c :: cs) x, hvalue]
    simp [Int.natAbs_of_nonneg hpos]
  next hneg =>
    have hnat : (-n).toNat = n.natAbs := by omega
    have hvalue := @scanNumber_digits json true _ _ hn hx
    rw [hnat, Nat.toList_repr, hcs]
    rw [hcs] at hvalue
    show scanValue json depth (point '-' :: points (c :: (cs ++ x))) = _
    have hminus (d : Char) (hd : '-' ≠ d) : point '-' ≠ point d := by rwa [Ne, point_inj]
    rw [scanValue.eq_def]
    dsimp only
    rw [if_neg (hminus '"' (by decide)), if_neg (hminus '[' (by decide)),
      if_neg (hminus '\x7b' (by decide)),
      show point '-' :: points (c :: (cs ++ x)) = points ('-' :: c :: (cs ++ x)) from rfl,
      scanConstant_minus hc]
    dsimp only
    rw [if_pos rfl, show points (c :: (cs ++ x)) = points (c :: cs) ++ points x from
      points_append (c :: cs) x, hvalue]
    rw [if_pos rfl, show -(n.natAbs : Int) = n by omega]


theorem reads_constant (word : String) {v : Loaded} (hmem : (word, v) ∈ constants.take 3) :
    Reads json depth word.toList v := by
  intro x hx
  simp only [constants, List.take_succ_cons, List.take_zero, List.mem_cons, Prod.mk.injEq,
    List.not_mem_nil, or_false] at hmem
  rcases hmem with ⟨rfl, rfl⟩ | ⟨rfl, rfl⟩ | ⟨rfl, rfl⟩ <;>
  · rw [scanValue.eq_def]
    rfl

/-- A text begins with no blank and no closing bracket. -/
theorem text_cons (v : Js) {depth : Nat} (h : v.decodes depth = true) :
    ∃ c t, text v = c :: t ∧ isSpace (point c) = false ∧ c ≠ ']' := by
  have hcons (c : Char) (t : List Char) (hsp : isSpace (point c) = false) (hb : c ≠ ']') :
      ∃ d u, c :: t = d :: u ∧ isSpace (point d) = false ∧ d ≠ ']' := ⟨c, t, rfl, hsp, hb⟩
  match v with
  | .null | .bool true | .bool false | .str _ | .arr [] | .arr (_ :: _) | .obj []
  | .obj (_ :: _) => exact hcons _ _ (by decide) (by decide)
  | .float _ => simp [decodes] at h
  | .int n =>
    obtain ⟨c, t, hct⟩ := List.exists_cons_of_ne_nil (intText_ne_nil n)
    refine ⟨c, t, hct, ?_⟩
    rcases mem_intText (hct ▸ List.mem_cons_self) with hd | rfl
    · have hne (d : Char) (hdigit : d.isDigit = false) : c ≠ d := by
        rintro rfl
        rw [hd] at hdigit
        cases hdigit
      refine ⟨?_, hne ']' (by decide)⟩
      simp only [isSpace, Bool.or_eq_false_iff, beq_eq_false_iff_ne, Ne, point_inj]
      exact ⟨⟨⟨hne _ (by decide), hne _ (by decide)⟩, hne _ (by decide)⟩, hne _ (by decide)⟩
    · exact ⟨by decide, by decide⟩

theorem skipSpace_text {v : Js} {depth : Nat} (h : v.decodes depth = true) (x : List Char) :
    skipSpace (points (text v ++ x)) = points (text v ++ x) := by
  obtain ⟨c, t, ht, hsp, -⟩ := text_cons v h
  rw [ht]
  exact List.dropWhile_cons_of_neg (by simp [hsp])

/-- One element, and what its closing character leads to. -/
theorem scanElements_last {t : List Char} {v : Loaded} (hv : Reads json depth t v) (fuel : Nat)
    (x : List Char) :
    scanElements (scanValue json depth) (fuel + 1) (points (t ++ ']' :: x)) = .ok ([v], points x) := by
  rw [scanElements, hv (']' :: x) (by rintro c ⟨⟩; exact .inr (.inl rfl))]
  rfl

theorem scanElements_cons {t : List Char} {v : Loaded} (hv : Reads json depth t v) (fuel : Nat)
    {w : Js} (hw : w.decodes depth = true) (x : List Char) :
    scanElements (scanValue json depth) (fuel + 1) (points (t ++ ',' :: (text w ++ x))) =
      (scanElements (scanValue json depth) fuel (points (text w ++ x))).map
        fun r => (v :: r.1, r.2) := by
  rw [scanElements, hv (',' :: (text w ++ x)) (by rintro c ⟨⟩; exact .inl rfl)]
  show (do
    let r ← scanElements (scanValue json depth) fuel (skipSpace (points (text w ++ x)))
    .ok (v :: r.1, r.2)) = _
  rw [skipSpace_text hw]
  cases scanElements (scanValue json depth) fuel (points (text w ++ x)) <;> rfl

theorem scanKey_member (k : String) {w : Js} (hw : w.decodes depth = true) (x : List Char) :
    scanKey (points (quoteChars k ++ ':' :: (text w ++ x))) =
      .ok (.ofString k, points (text w ++ x)) := by
  have htext : points (quoteChars k ++ ':' :: (text w ++ x)) =
      point '"' :: (points (k.toList.flatMap escapeChar) ++ point '"' ::
        points (':' :: (text w ++ x))) := by
    simp [quoteChars, escaped, points]
  have hfuel : k.toList.length < (points (k.toList.flatMap escapeChar) ++ point '"' ::
      points (':' :: (text w ++ x))).length := by
    have := length_le_escaped k.toList
    simp only [points, List.length_append, List.length_map, List.length_cons]
    omega
  rw [htext, scanKey, if_pos rfl, scanString_escaped k.toList _ hfuel]
  show (Except.ok (.ofString k, skipSpace (points (text w ++ x))) :
    Except LoadError (PyStr × List CodePoint)) = _
  rw [skipSpace_text hw]

theorem scanMembers_last (k : String) {w : Js} (hw : w.decodes depth = true)
    (hv : Reads json depth (text w) (w.loaded json)) (fuel : Nat) (x : List Char) :
    scanMembers (scanValue json depth) (fuel + 1)
        (points (quoteChars k ++ ':' :: (text w ++ '\x7d' :: x))) =
      .ok ([(.ofString k, w.loaded json)], points x) := by
  rw [scanMembers, scanKey_member k hw]
  show scanValue json depth (points (text w ++ '\x7d' :: x)) >>= _ = _
  rw [hv ('\x7d' :: x) (by rintro c ⟨⟩; exact .inr (.inr rfl))]
  rfl


theorem scanMembers_cons (k l : String) {w u : Js} (hw : w.decodes depth = true)
    (hv : Reads json depth (text w) (w.loaded json)) (fuel : Nat) (x : List Char) :
    scanMembers (scanValue json depth) (fuel + 1) (points (quoteChars k ++ ':' :: (text w ++
        ',' :: (quoteChars l ++ ':' :: (text u ++ x))))) =
      (scanMembers (scanValue json depth) fuel (points (quoteChars l ++ ':' :: (text u ++ x)))).map
        fun r => ((.ofString k, w.loaded json) :: r.1, r.2) := by
  rw [scanMembers, scanKey_member k hw]
  show scanValue json depth (points (text w ++ ',' :: (quoteChars l ++ ':' :: (text u ++ x)))) >>= _ = _
  rw [hv (',' :: (quoteChars l ++ ':' :: (text u ++ x))) (by rintro c ⟨⟩; exact .inl rfl)]
  show (do
    let r ← scanMembers (scanValue json depth) fuel
      (skipSpace (points (quoteChars l ++ ':' :: (text u ++ x))))
    .ok ((PyStr.ofString k, w.loaded json) :: r.1, r.2)) = _
  rw [show skipSpace (points (quoteChars l ++ ':' :: (text u ++ x))) =
    points (quoteChars l ++ ':' :: (text u ++ x)) from rfl]
  cases scanMembers (scanValue json depth) fuel (points (quoteChars l ++ ':' :: (text u ++ x))) <;> rfl

theorem length_elemsTail (vs : List Js) : vs.length < (elemsTail vs).length := by
  induction vs with
  | nil => simp [elemsTail]
  | cons v vs ih =>
    simp only [elemsTail, List.length_cons, List.length_append]
    omega

theorem length_fieldsTail (fs : List (String × Js)) : fs.length < (fieldsTail fs).length := by
  induction fs with
  | nil => simp [fieldsTail]
  | cons f fs ih =>
    simp only [fieldsTail, List.length_cons, List.length_append]
    omega

mutual

/-- **What was written is read.** -/
theorem reads_text : ∀ (v : Js) {depth : Nat}, v.decodes depth = true →
    Reads json depth (text v) (v.loaded json)
  | .null, _, _ => reads_constant "null" (by simp [constants, loaded])
  | .bool true, _, _ => reads_constant "true" (by simp [constants, loaded])
  | .bool false, _, _ => reads_constant "false" (by simp [constants, loaded])
  | .float _, _, h => by simp [decodes] at h
  | .int n, _, h => reads_int (by simpa [decodes] using h)
  | .str s, _, _ => reads_quoted s
  | .arr _, 0, h | .obj _, 0, h => by simp [decodes] at h
  | .arr [], depth + 1, _ | .obj [], depth + 1, _ => fun x hx => rfl
  | .arr (v :: vs), depth + 1, h => by
    intro x hx
    simp only [decodes, elemsDecode, Bool.and_eq_true] at h
    obtain ⟨c, t, ht, -, hb⟩ := text_cons v h.1
    have hlength : vs.length < (points (text v ++ (elemsTail vs ++ x))).length := by
      have := length_elemsTail vs
      simp only [points, List.length_map, List.length_append]
      omega
    have hrun := scanElements_text v vs (reads_text v h.1) h.2 hlength x
    rw [show text (.arr (v :: vs)) ++ x = '[' :: (text v ++ (elemsTail vs ++ x)) by simp [text],
      points_cons, scanValue, if_neg (by rw [point_inj]; decide), if_pos rfl,
      skipSpace_text h.1 (elemsTail vs ++ x)]
    rw [ht] at hrun ⊢
    show (if point c = point ']' then _ else _) = _
    rw [if_neg (by rw [point_inj]; exact hb)]
    show (do
      let (elems, rest) ← scanElements (scanValue json depth)
        (points (c :: t ++ (elemsTail vs ++ x))).length (points (c :: t ++ (elemsTail vs ++ x)))
      _) = _
    rw [hrun]
    rfl
  | .obj ((k, w) :: fs), depth + 1, h => by
    intro x hx
    simp only [decodes, fieldsDecode, Bool.and_eq_true] at h
    have hlength : fs.length <
        (points (quoteChars k ++ ':' :: (text w ++ (fieldsTail fs ++ x)))).length := by
      have := length_fieldsTail fs
      simp only [points, List.length_map, List.length_append, List.length_cons]
      omega
    have hrun := scanMembers_text k w fs h.1 (reads_text w h.1) h.2 hlength x
    rw [show text (.obj ((k, w) :: fs)) ++ x =
      '\x7b' :: (quoteChars k ++ ':' :: (text w ++ (fieldsTail fs ++ x))) by simp [text],
      points_cons, scanValue, if_neg (by rw [point_inj]; decide), if_neg (by rw [point_inj]; decide),
      if_pos rfl]
    show (do
      let (fields, rest) ← scanMembers (scanValue json depth)
        (points (quoteChars k ++ ':' :: (text w ++ (fieldsTail fs ++ x)))).length
        (points (quoteChars k ++ ':' :: (text w ++ (fieldsTail fs ++ x))))
      _) = _
    rw [hrun]
    rfl

theorem scanElements_text : ∀ (v : Js) (vs : List Js) {depth fuel : Nat},
    Reads json depth (text v) (v.loaded json) → elemsDecode depth vs = true → vs.length < fuel →
    ∀ x, scanElements (scanValue json depth) fuel (points (text v ++ (elemsTail vs ++ x))) =
      .ok (v.loaded json :: loadedElems json vs, points x)
  | v, [], _, fuel + 1, hv, _, _, x => scanElements_last hv fuel x
  | v, w :: ws, _, fuel + 1, hv, h, hfuel, x => by
    simp only [elemsDecode, Bool.and_eq_true] at h
    rw [show text v ++ (elemsTail (w :: ws) ++ x) =
      text v ++ ',' :: (text w ++ (elemsTail ws ++ x)) by simp [elemsTail],
      scanElements_cons hv fuel h.1,
      scanElements_text w ws (reads_text w h.1) h.2 (by simpa using hfuel)]
    rfl

theorem scanMembers_text : ∀ (k : String) (w : Js) (fs : List (String × Js)) {depth fuel : Nat},
    w.decodes depth = true → Reads json depth (text w) (w.loaded json) →
    fieldsDecode depth fs = true → fs.length < fuel → ∀ x,
    scanMembers (scanValue json depth) fuel
        (points (quoteChars k ++ ':' :: (text w ++ (fieldsTail fs ++ x)))) =
      .ok ((.ofString k, w.loaded json) :: loadedFields json fs, points x)
  | k, w, [], _, fuel + 1, hw, hv, _, _, x => scanMembers_last k hw hv fuel x
  | k, w, (l, u) :: fs, _, fuel + 1, hw, hv, h, hfuel, x => by
    simp only [fieldsDecode, Bool.and_eq_true] at h
    rw [show quoteChars k ++ ':' :: (text w ++ (fieldsTail ((l, u) :: fs) ++ x)) =
      quoteChars k ++ ':' :: (text w ++ ',' :: (quoteChars l ++ ':' :: (text u ++
        (fieldsTail fs ++ x)))) by simp [fieldsTail], scanMembers_cons k l hw hv fuel,
      scanMembers_text l u fs h.1 (reads_text u h.1) h.2 (by simpa using hfuel)]
    rfl

end

/-! ## Main result -/

theorem elemsDecode_iff {depth : Nat} {vs : List Js} :
    elemsDecode depth vs = true ↔ ∀ v ∈ vs, v.decodes depth = true := by
  induction vs with
  | nil => simp [elemsDecode]
  | cons v vs ih => rw [elemsDecode, Bool.and_eq_true, ih, List.forall_mem_cons]

theorem fieldsDecode_iff {depth : Nat} {fs : List (String × Js)} :
    fieldsDecode depth fs = true ↔ ∀ f ∈ fs, f.2.decodes depth = true := by
  induction fs with
  | nil => simp [fieldsDecode]
  | cons f fs ih => rw [fieldsDecode, Bool.and_eq_true, ih, List.forall_mem_cons]

mutual

theorem decodes_sorted : ∀ (v : Js) {depth : Nat}, v.decodes depth = true →
    v.sorted.decodes depth = true
  | .null, _, h | .bool _, _, h | .int _, _, h | .float _, _, h | .str _, _, h => h
  | .arr _, 0, h | .obj _, 0, h => by simp [decodes] at h
  | .arr vs, depth + 1, h => by
    rw [sorted, decodes, sortedElems_eq_map, elemsDecode_iff]
    intro w hw
    obtain ⟨v, hv, rfl⟩ := List.mem_map.1 hw
    exact elemsDecode_sorted vs h v hv
  | .obj fs, depth + 1, h => by
    rw [sorted, decodes, sortedFields_eq_map, fieldsDecode_iff]
    intro g hg
    obtain ⟨f, hf, rfl⟩ := List.mem_map.1 ((List.mem_insertionSort _).1 hg)
    exact fieldsDecode_sorted fs h f hf

theorem elemsDecode_sorted : ∀ (vs : List Js) {depth : Nat}, elemsDecode depth vs = true →
    ∀ v ∈ vs, v.sorted.decodes depth = true
  | [], _, _, _, hv => absurd hv List.not_mem_nil
  | w :: vs, _, h, v, hv => by
    rw [elemsDecode, Bool.and_eq_true] at h
    rcases List.mem_cons.1 hv with hv | hv
    · rw [hv]
      exact decodes_sorted w h.1
    · exact elemsDecode_sorted vs h.2 v hv

theorem fieldsDecode_sorted : ∀ (fs : List (String × Js)) {depth : Nat},
    fieldsDecode depth fs = true → ∀ f ∈ fs, f.2.sorted.decodes depth = true
  | [], _, _, _, hf => absurd hf List.not_mem_nil
  | (k, w) :: fs, _, h, f, hf => by
    rw [fieldsDecode, Bool.and_eq_true] at h
    rcases List.mem_cons.1 hf with hf | hf
    · rw [hf]
      exact decodes_sorted w h.1
    · exact fieldsDecode_sorted fs h.2 f hf

end

/-- The text of a dict that stands alone. -/
theorem loadsText_text {fs : List (String × Js)}
    (h : (Js.obj fs).decodes json.recursionLimit = true) :
    loadsText json (points (text (.obj fs))) = .ok ((Js.obj fs).loaded json) := by
  have hread := @reads_text json _ _ h [] fun c hc => by cases hc
  have hskip := skipSpace_text h []
  rw [List.append_nil] at hread hskip
  have hhead : (points (text (.obj fs))).head? = some (point '\x7b') := by cases fs <;> rfl
  unfold loadsText
  rw [hskip, hread, hhead, if_neg (by decide)]
  rfl

theorem fromUTF8_toByteArray (s : String) : String.fromUTF8? ⟨s.toByteArray.data.toList.toArray⟩ = some s := by
  unfold String.fromUTF8?
  rw [Array.toArray_toList, dif_pos s.isValidUTF8]
  rfl

/-- A text that starts with a brace is taken for UTF-8. -/
theorem decodeBytes_text {s : String} {c : Char} {t : List Char} (hs : s.toList = '\x7b' :: c :: t)
    (hc : c ≠ '\x00') : decodeBytes json s.toByteArray.data.toList = some (points s.toList) := by
  obtain ⟨b, bs, hb⟩ := List.exists_cons_of_ne_nil (String.utf8EncodeChar_ne_nil (c := c))
  have hzero : b ≠ 0 := by
    rintro rfl
    exact hc (zero_mem_utf8EncodeChar (hb ▸ List.mem_cons_self))
  have hbytes : s.toByteArray.data.toList = 0x7b :: b :: (bs ++ t.flatMap String.utf8EncodeChar) := by
    rw [bytes_eq, hs, List.flatMap_cons, List.flatMap_cons, hb]
    rfl
  have hutf8 : isUtf8 s.toByteArray.data.toList = true := by
    rw [hbytes]
    generalize bs ++ t.flatMap String.utf8EncodeChar = rest
    match rest with
    | [] => simpa [isUtf8] using hzero
    | [_] => simp [isUtf8]
    | _ :: _ :: _ => simpa [isUtf8] using hzero
  unfold decodeBytes
  rw [if_pos hutf8, fromUTF8_toByteArray]

/-- **A dict that was dumped is loaded.** -/
theorem loads_canonicalJson {fs : List (String × Js)}
    (h : (Js.obj fs).decodes json.recursionLimit = true) :
    loads json (Js.obj fs).canonicalJson.toByteArray.data.toList =
      .ok ((Js.obj fs).sorted.loaded json) := by
  have hsorted := decodes_sorted _ h
  have htext := canonicalJson_eq_text (.obj fs)
  obtain ⟨gs, hgs⟩ : ∃ gs, (Js.obj fs).sorted = .obj gs := ⟨_, rfl⟩
  rw [hgs] at hsorted htext ⊢
  have hhead : ∃ c t, text (.obj gs) = '\x7b' :: c :: t ∧ c ≠ '\x00' := by
    cases gs with
    | nil => exact ⟨_, _, rfl, by decide⟩
    | cons g gs => exact ⟨'"', _, rfl, by decide⟩
  obtain ⟨c, t, ht, hc⟩ := hhead
  unfold loads
  rw [decodeBytes_text (htext.trans ht) hc, htext]
  exact loadsText_text hsorted

/-! ## Reading a key -/

theorem charOf_point (c : Char) : PyStr.charOf (point c) = some c := by
  unfold PyStr.charOf
  have hvalid : (point c).val.isValidChar := by
    rw [val_point]
    exact c.valid
  rw [dif_pos hvalid]
  have hchar : ∀ n (h : n.isValidChar), n = c.toNat → Char.ofNatAux n h = c := by
    rintro n h rfl
    have hofNat := Char.ofNat_toNat c
    rwa [Char.ofNat, dif_pos h] at hofNat
  rw [hchar _ hvalid (val_point c)]

theorem decode_ofString (s : String) : (PyStr.ofString s).decode? = some s := by
  unfold PyStr.decode?
  have hchars : ∀ cs : List Char, (points cs).mapM PyStr.charOf = some cs := by
    intro cs
    induction cs with
    | nil => rfl
    | cons c cs ih =>
      rw [points_cons, List.mapM_cons, charOf_point, ih]
      rfl
  rw [ofString_points, hchars]
  simp

theorem is_ofString (s text : String) : (PyStr.ofString s).is text = decide (s = text) := by
  unfold PyStr.is
  rw [decode_ofString, Bool.eq_iff_iff, beq_iff_eq, decide_eq_true_iff, Option.some.injEq]

theorem loadedFields_eq_map (fs : List (String × Js)) :
    loadedFields json fs = fs.map fun f => (.ofString f.1, f.2.loaded json) := by
  induction fs with
  | nil => rfl
  | cons f fs ih => rw [loadedFields, ih, List.map_cons]

/-- What stands under a key of a dict that was dumped. -/
theorem key_sorted {fs : List (String × Js)} (hnodup : (fs.map (·.1)).Nodup) {k : String} {v : Js}
    (h : (k, v) ∈ fs) :
    Part.key (some ((Js.obj fs).sorted.loaded json)) k = some (v.sorted.loaded json) := by
  have hsorted : (Js.obj fs).sorted.loaded json = .obj
      (((fs.map fun f => (f.1, f.2.sorted)).insertionSort fun x y => x.1 ≤ y.1).map
        fun f => (.ofString f.1, f.2.loaded json)) := by
    rw [sorted, loaded, loadedFields_eq_map, sortedFields_eq_map]
  have hperm := List.perm_insertionSort (fun x y : String × Js => x.1 ≤ y.1)
    (fs.map fun f => (f.1, f.2.sorted))
  generalize ((fs.map fun f => (f.1, f.2.sorted)).insertionSort fun x y => x.1 ≤ y.1) = gs at *
  have hmem : (k, v.sorted) ∈ gs := hperm.mem_iff.2 (List.mem_map_of_mem h)
  have hkeys : (gs.map (·.1)).Nodup := by
    refine (hperm.map _).nodup_iff.2 ?_
    rwa [List.map_map]
  have hreverse : ((gs.map fun f => (PyStr.ofString f.1, f.2.loaded json)).reverse.map
      (·.1.decode?)).Nodup := by
    rw [List.map_reverse, List.nodup_reverse, List.map_map]
    have hdecode : (fun f : String × Js => (PyStr.ofString f.1).decode?) = some ∘ (·.1) :=
      funext fun f => decode_ofString f.1
    show (gs.map fun f => (PyStr.ofString f.1).decode?).Nodup
    rw [hdecode, ← List.map_map]
    exact hkeys.map (Option.some_injective _)
  rw [hsorted]
  unfold Part.key
  have hfind := Table.find?_eq_some_of_key hreverse
    (x := (PyStr.ofString k, v.sorted.loaded json))
    (List.mem_reverse.2 (List.mem_map.2 ⟨(k, v.sorted), hmem, rfl⟩)) (·.1.is k)
    (by simp [is_ofString]) (fun r hr => by
      rw [decode_ofString]
      exact beq_iff_eq.1 hr)
  dsimp only
  rw [hfind]
  rfl

end Json

end PaperGrading
