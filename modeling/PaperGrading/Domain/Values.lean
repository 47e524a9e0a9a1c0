import Mathlib.Data.Rat.Defs
import Mathlib.Algebra.Order.Ring.Rat
import Mathlib.Data.List.Sort

/-!
# Values: identifiers, decimals and JSON

`Uuid`, `Hash` and `Bytes` are the column types of the same names; times count
microseconds.  `Decimal` is Python's `decimal.Decimal` without the special values
(pydantic admits finite ones only): sign, coefficient and exponent, so that two
spellings of one number stay different values.  `Js` is a decoded JSON value and
`canonicalJson` the text of `canonical_json_bytes`.
-/

namespace PaperGrading

abbrev Uuid := BitVec 128
abbrev Hash := BitVec 256
abbrev Time := Nat
abbrev Bytes := List UInt8

/-! ## Text -/

/-- The lowest `width` hexadecimal digits of `n`, most significant first. -/
def hexFixed (width n : Nat) : List Char :=
  (List.range width).reverse.map fun i => Nat.digitChar (n / 16 ^ i % 16)

/-- `str(uuid)`: 32 hexadecimal digits in groups of 8, 4, 4, 4 and 12. -/
def uuidText (u : Uuid) : String :=
  let digits := hexFixed 32 u.toNat
  String.ofList (digits.take 8 ++ '-' :: (digits.drop 8).take 4 ++ '-' :: (digits.drop 12).take 4 ++
    '-' :: (digits.drop 16).take 4 ++ '-' :: digits.drop 20)

/-- `bytes.hex()` of a SHA-256 digest. -/
def hashHex (h : Hash) : String := String.ofList (hexFixed 64 h.toNat)

/-- `btrim(s) = ''` in PostgreSQL, which trims spaces only; on the UTF-8 bytes. -/
def btrimEmpty (s : String) : Bool := s.toByteArray.data.toList.all (· == 32)

/-- Neither `text` nor `jsonb` stores the NUL character, the only one with a zero byte. -/
def hasNul (s : String) : Bool := s.toByteArray.data.toList.any (· == 0)

/-! ## Identifiers differ as texts -/

theorem digitChar_inj {a b : Nat} (ha : a < 16) (hb : b < 16) (h : Nat.digitChar a = Nat.digitChar b) :
    a = b := by
  have hall : ∀ a < 16, ∀ b < 16, Nat.digitChar a = Nat.digitChar b → a = b := by decide
  exact hall a ha b hb h

theorem length_hexFixed (width n : Nat) : (hexFixed width n).length = width := by
  simp [hexFixed]

theorem eq_of_hexDigits (width : Nat) : ∀ n m : Nat, n < 16 ^ width → m < 16 ^ width →
    (∀ i < width, n / 16 ^ i % 16 = m / 16 ^ i % 16) → n = m := by
  induction width with
  | zero =>
    intro n m hn hm _
    omega
  | succ width ih =>
    intro n m hn hm h
    have hlow : n % 16 = m % 16 := by simpa using h 0 (by omega)
    have hhigh : n / 16 = m / 16 := by
      refine ih _ _ (by omega) (by omega) fun i hi => ?_
      have := h (i + 1) (by omega)
      rwa [pow_succ', ← Nat.div_div_eq_div_mul, ← Nat.div_div_eq_div_mul] at this
    omega

theorem hexFixed_inj {width n m : Nat} (hn : n < 16 ^ width) (hm : m < 16 ^ width)
    (h : hexFixed width n = hexFixed width m) : n = m := by
  refine eq_of_hexDigits width n m hn hm fun i hi => ?_
  unfold hexFixed at h
  have hi' := List.map_inj_left.1 h i (by simpa using hi)
  exact digitChar_inj (Nat.mod_lt _ (by decide)) (Nat.mod_lt _ (by decide)) hi'

theorem length_uuidText (u : Uuid) : (uuidText u).toList.length = 36 := by
  simp [uuidText, length_hexFixed]

theorem drop_eq_of_take {α : Type} {a b : List α} {n k : Nat}
    (htake : (a.drop n).take k = (b.drop n).take k) (hdrop : a.drop (n + k) = b.drop (n + k)) :
    a.drop n = b.drop n := by
  rw [← List.take_append_drop k (a.drop n), ← List.take_append_drop k (b.drop n), List.drop_drop,
    List.drop_drop, htake, hdrop]

theorem uuidText_inj {u v : Uuid} (h : uuidText u = uuidText v) : u = v := by
  apply BitVec.eq_of_toNat_eq
  suffices hexFixed 32 u.toNat = hexFixed 32 v.toNat from hexFixed_inj u.isLt v.isLt this
  unfold uuidText at h
  have hu := length_hexFixed 32 u.toNat
  have hv := length_hexFixed 32 v.toNat
  generalize hexFixed 32 u.toNat = a at h hu
  generalize hexFixed 32 v.toNat = b at h hv
  -- the groups, from the last to the first
  obtain ⟨h, h₅⟩ := List.append_inj' (String.ofList_injective h) (by simp [hu, hv])
  obtain ⟨h, h₄⟩ := List.append_inj' h (by simp [hu, hv])
  obtain ⟨h, h₃⟩ := List.append_inj' h (by simp [hu, hv])
  obtain ⟨h₁, h₂⟩ := List.append_inj' h (by simp [hu, hv])
  have h₅ := (List.cons.inj h₅).2
  have h₄ := drop_eq_of_take (List.cons.inj h₄).2 h₅
  have h₃ := drop_eq_of_take (List.cons.inj h₃).2 h₄
  have h₂ := drop_eq_of_take (List.cons.inj h₂).2 h₃
  rw [← List.take_append_drop 8 a, ← List.take_append_drop 8 b, h₁, h₂]

/-! ## Decimals -/

/-- `decimal.Decimal`: `(-1)^negative * coefficient * 10^exponent`. -/
structure Decimal where
  negative : Bool
  coefficient : Nat
  exponent : Int
  deriving DecidableEq, Repr

namespace Decimal

def ofNat (n : Nat) : Decimal := ⟨false, n, 0⟩

/-- The number a decimal spells. -/
def toRat (d : Decimal) : ℚ :=
  let magnitude : ℚ := match d.exponent with
    | .ofNat n => ((d.coefficient * 10 ^ n : Nat) : ℚ)
    | .negSucc n => mkRat d.coefficient (10 ^ (n + 1))
  if d.negative then -magnitude else magnitude

/-- `Decimal.__str__`. -/
def str (d : Decimal) : String :=
  let digits := toString d.coefficient
  let len : Int := digits.length
  let leftdigits := d.exponent + len
  let dotplace := if d.exponent ≤ 0 ∧ -6 < leftdigits then leftdigits else 1
  let body :=
    if dotplace ≤ 0 then "0." ++ String.ofList (List.replicate (-dotplace).toNat '0') ++ digits
    else if len ≤ dotplace then digits ++ String.ofList (List.replicate (dotplace - len).toNat '0')
    else String.ofList (digits.toList.take dotplace.toNat) ++ "." ++
      String.ofList (digits.toList.drop dotplace.toNat)
  let shift := leftdigits - dotplace
  let exp := if shift = 0 then "" else if 0 < shift then "E+" ++ toString shift else "E" ++ toString shift
  (if d.negative then "-" else "") ++ body ++ exp

/-- `format(value, "f")`. -/
def fixed (d : Decimal) : String :=
  let body := match d.exponent with
    | .ofNat n => toString (d.coefficient * 10 ^ n)
    | .negSucc n =>
      toString (d.coefficient / 10 ^ (n + 1)) ++ "." ++
        let frac := toString (d.coefficient % 10 ^ (n + 1))
        String.ofList (List.replicate (n + 1 - frac.length) '0') ++ frac
  (if d.negative then "-" else "") ++ body

/-- Removes trailing characters equal to `c`. -/
def rstrip (c : Char) (s : String) : String :=
  String.ofList (s.toList.reverse.dropWhile (· == c)).reverse

/-- The decimal branch of `_canonical_value`. -/
def canonical (d : Decimal) : String :=
  let text := d.fixed
  let text := if text.toList.contains '.' then rstrip '.' (rstrip '0' text) else text
  if text = "-0" ∨ text = "" then "0" else text

/-- Digits and decimal places of `d` as `max_digits` and `decimal_places` count them:
trailing zeros of the fraction do not count. -/
def normalize : Nat → Decimal → Decimal
  | 0, d => d
  | fuel + 1, d =>
    if d.coefficient = 0 then { d with exponent := 0 }
    else if d.coefficient % 10 = 0 then
      normalize fuel { d with coefficient := d.coefficient / 10, exponent := d.exponent + 1 }
    else d

/-- At most `p` decimal places and at most `m - p` digits before the point.  The field
`Field(max_digits=m, decimal_places=p)` counts the digits that are left in a context of 28,
`admitted`; of the numbers of a rubric and of its scores the two take the same
(`numbersAdmitted_iff`, `fits_score`). -/
def fits (maxDigits decimalPlaces : Nat) (d : Decimal) : Bool :=
  let n := normalize (Nat.log2 d.coefficient + 1) d
  decide (-(decimalPlaces : Int) ≤ n.exponent) && decide (|n.toRat| < 10 ^ (maxDigits - decimalPlaces))

end Decimal

/-! ## JSON -/

/-- A decoded JSON value; a float keeps its text, which no contract reads. -/
inductive Js where
  | null
  | bool (b : Bool)
  | int (n : Int)
  | float (text : String)
  | str (s : String)
  | arr (elems : List Js)
  | obj (fields : List (String × Js))

namespace Js

/-- `dict.get(key)`; the last of several equal keys wins, as in `json.loads`. -/
def get? (fields : List (String × Js)) (key : String) : Option Js :=
  (fields.reverse.find? (·.1 == key)).map (·.2)

def escapeChar (c : Char) : List Char :=
  if c = '"' then ['\\', '"']
  else if c = '\\' then ['\\', '\\']
  else if c = '\n' then ['\\', 'n']
  else if c = '\r' then ['\\', 'r']
  else if c = '\t' then ['\\', 't']
  else if c = '\x08' then ['\\', 'b']
  else if c = '\x0c' then ['\\', 'f']
  else if c.toNat < 32 then ['\\', 'u'] ++ hexFixed 4 c.toNat
  else [c]

def quote (s : String) : String :=
  String.ofList ('"' :: s.toList.flatMap escapeChar ++ ['"'])

mutual

/-- `json.dumps(…, ensure_ascii=False, sort_keys=True, separators=(",", ":"))`. -/
def canonicalJson : Js → String
  | .null => "null"
  | .bool true => "true"
  | .bool false => "false"
  | .int n => toString n
  | .float text => text
  | .str s => quote s
  | .arr elems => "[" ++ ",".intercalate (canonicalElems elems) ++ "]"
  | .obj fields =>
    let sorted := (canonicalFields fields).insertionSort fun x y => x.1 ≤ y.1
    "\x7b" ++ ",".intercalate (sorted.map fun x => quote x.1 ++ ":" ++ x.2) ++ "\x7d"

def canonicalElems : List Js → List String
  | [] => []
  | x :: xs => canonicalJson x :: canonicalElems xs

def canonicalFields : List (String × Js) → List (String × String)
  | [] => []
  | (k, v) :: rest => (k, canonicalJson v) :: canonicalFields rest

end

end Js

/-! ## Runtime -/

/-- What the code takes from its libraries: SHA-256, the Unicode tables behind `str.split`,
`casefold`, `isalpha` and `unicodedata.name`, the database's character classes, the JSON schemas pydantic generates, timestamps
as text and the decryption of a stored API key. -/
structure Runtime where
  sha256 : Bytes → Hash
  isSpace : Char → Bool
  isAlpha : Char → Bool
  /-- `"LATIN" in unicodedata.name(c, "")` -/
  nameHasLatin : Char → Bool
  casefold : Char → List Char
  /-- the database's `lower()` and `[[:space:]]` -/
  dbLower : Char → Char
  dbIsSpace : Char → Bool
  gradeResultSchema : Js
  initialPayloadSchema : Js
  correctionPayloadSchema : Js
  isoformat : Time → String
  decrypt : (ciphertext nonce : Bytes) → (providerId : Uuid) → Option String

namespace Runtime

/-- `canonical_sha256`. -/
def canonicalSha256 (env : Runtime) (value : Js) : Hash :=
  env.sha256 value.canonicalJson.toUTF8.toList

/-- `str.strip()`. -/
def strip (env : Runtime) (s : String) : String :=
  String.ofList ((s.toList.dropWhile env.isSpace).reverse.dropWhile env.isSpace).reverse

/-- `" ".join(s.split())`. -/
def joinWords (env : Runtime) (s : String) : String :=
  " ".intercalate ((s.toList.splitBy fun a b => env.isSpace a == env.isSpace b).filterMap fun w =>
    if w.any env.isSpace then none else some (String.ofList w))

/-- `" ".join(name.split()).casefold()`. -/
def foldedName (env : Runtime) (name : String) : List Char :=
  (env.joinWords name).toList.flatMap env.casefold

end Runtime

end PaperGrading
