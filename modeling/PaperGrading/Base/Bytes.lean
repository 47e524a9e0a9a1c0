import Mathlib.Data.List.Induction
import Mathlib.Tactic.Ring

/-!
# Numbers as bytes

Big-endian fields of a fixed width.

    x < 256 ^ n → (beBytes n x = l ↔ l.length = n ∧ beNat l = x)            (beBytes_eq_iff)
-/

namespace BigEndian

/-- `n` bytes of a number, the most significant first. -/
def beBytes : Nat → Nat → List UInt8
  | 0, _ => []
  | n + 1, x => beBytes n (x / 256) ++ [UInt8.ofNat x]

/-- The number that bytes spell, the most significant first. -/
def beNat (l : List UInt8) : Nat := l.foldl (fun x b => x * 256 + b.toNat) 0

@[simp] theorem length_beBytes (n x : Nat) : (beBytes n x).length = n := by
  induction n generalizing x with
  | zero => rfl
  | succ n ih => rw [beBytes, List.length_append, ih, List.length_singleton]

@[simp] theorem beNat_concat (l : List UInt8) (b : UInt8) :
    beNat (l ++ [b]) = beNat l * 256 + b.toNat := by
  rw [beNat, List.foldl_append]
  rfl

theorem beNat_beBytes {n x : Nat} (h : x < 256 ^ n) : beNat (beBytes n x) = x := by
  induction n generalizing x with
  | zero =>
    rw [pow_zero] at h
    rw [beBytes, beNat, List.foldl_nil]
    omega
  | succ n ih =>
    have hdiv : x / 256 < 256 ^ n := by
      rw [Nat.div_lt_iff_lt_mul (by omega), ← pow_succ]
      exact h
    rw [beBytes, beNat_concat, ih hdiv, UInt8.toNat_ofNat']
    omega

theorem beBytes_beNat (l : List UInt8) : beBytes l.length (beNat l) = l := by
  induction l using List.reverseRecOn with
  | nil => rfl
  | append_singleton l b ih =>
    have hb := b.toNat_lt
    have hdiv : (beNat l * 256 + b.toNat) / 256 = beNat l := by omega
    have hbyte : UInt8.ofNat (beNat l * 256 + b.toNat) = b := by
      apply UInt8.toNat_inj.1
      rw [UInt8.toNat_ofNat']
      omega
    rw [beNat_concat, List.length_append, List.length_singleton, beBytes, hdiv, hbyte, ih]

theorem beNat_lt (l : List UInt8) : beNat l < 256 ^ l.length := by
  induction l using List.reverseRecOn with
  | nil => decide
  | append_singleton l b ih =>
    have hb := b.toNat_lt
    rw [beNat_concat, List.length_append, List.length_singleton, pow_succ]
    omega

/-- **Fields of a fixed width spell each number once.** -/
theorem beBytes_eq_iff {n x : Nat} (h : x < 256 ^ n) {l : List UInt8} :
    beBytes n x = l ↔ l.length = n ∧ beNat l = x := by
  constructor
  · rintro rfl
    exact ⟨length_beBytes n x, beNat_beBytes h⟩
  · rintro ⟨rfl, rfl⟩
    exact beBytes_beNat l

end BigEndian
