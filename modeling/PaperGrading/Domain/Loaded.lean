import PaperGrading.Domain.Values
import PaperGrading.Base.Checks

/-!
# Untrusted JSON

What `json.loads` makes of the bytes of a stranger.  A `str` is a list of code points and may hold
a lone surrogate, which no UTF-8 text has; a float may be infinite or no number.  `Part` is what
stands at a place of such a value, or `none` where the place does not exist, and the readers of a
`Part` raise `malformed` for whatever is not of the wanted type.
-/

namespace PaperGrading

/-! ## Values -/

/-- A code point of a `str`, a surrogate or not. -/
abbrev CodePoint := Fin 0x110000

instance neZeroCodePoints : @NeZero Nat Zero.ofOfNat0 0x110000 := ⟨Nat.succ_ne_zero 0x10FFFF⟩

structure PyStr where
  points : List CodePoint
  deriving DecidableEq

namespace PyStr

def charOf (p : CodePoint) : Option Char :=
  if h : p.val.isValidChar then some (Char.ofNatAux p.val h) else none

/-- The text, unless a surrogate stands in it. -/
def decode? (s : PyStr) : Option String := (s.points.mapM charOf).map String.ofList

def ofString (s : String) : PyStr := ⟨s.toList.map fun c => Fin.ofNat _ c.toNat⟩

/-- `s == "…"` -/
def is (s : PyStr) (text : String) : Bool := s.decode? == some text

/-- `bool(s.strip())` -/
def notBlank (env : Runtime) (s : PyStr) : Bool :=
  s.points.any fun p => (charOf p).all (!env.isSpace ·)

end PyStr

inductive PyFloat where
  | finite (value : ℚ)
  | infinite (negative : Bool)
  | nan
  deriving DecidableEq

/-- A value that `json.loads` returns. -/
inductive Loaded where
  | null
  | bool (b : Bool)
  | int (n : Int)
  | float (x : PyFloat)
  | str (s : PyStr)
  | arr (elems : List Loaded)
  | obj (fields : List (PyStr × Loaded))

/-- What `json.loads` raises: `JSONDecodeError` or `UnicodeDecodeError`, the `ValueError` of an
integer with too many digits, or the `RecursionError` of a deep nesting. -/
inductive LoadError where
  | decode | digits | recursion
  deriving DecidableEq

/-! ## Places -/

abbrev Part := Option Loaded

namespace Part

/-- The value of a key, of a dict that has it; the last of several equal keys wins. -/
def key (x : Part) (k : String) : Part :=
  match x with
  | some (.obj fields) => (fields.reverse.find? (·.1.is k)).map (·.2)
  | _ => none

/-- The element of a list of one. -/
def only (x : Part) : Part :=
  match x with
  | some (.arr [v]) => some v
  | _ => none

def is (x : Part) (text : String) : Bool :=
  match x with
  | some (.str s) => s.is text
  | _ => false

def isDict (x : Part) : Bool :=
  match x with
  | some (.obj _) => true
  | _ => false

/-- `x == 0` -/
def isZero (x : Part) : Bool :=
  match x with
  | some (.bool b) => !b
  | some (.int n) => n == 0
  | some (.float (.finite q)) => q == 0
  | _ => false

/-- `bool(x)` -/
def truthy (x : Part) : Bool :=
  match x with
  | none | some .null => false
  | some (.bool b) => b
  | some (.int n) => n != 0
  | some (.float x) => x != .finite 0
  | some (.str s) => !s.points.isEmpty
  | some (.arr elems) => !elems.isEmpty
  | some (.obj fields) => !fields.isEmpty

/-- `hash(x)` does not raise. -/
def hashable (x : Part) : Bool :=
  match x with
  | some (.arr _) | some (.obj _) => false
  | _ => true

end Part

/-! ## Readers -/

/-- How a guarded block is left: by `TypeError` or `KeyError`, or by the error it raises itself. -/
inductive ReadError (ε : Type) where
  | malformed
  | raised (error : ε)
  deriving DecidableEq

namespace Part

variable {ε : Type}

def need (b : Bool) : Except (ReadError ε) Unit := ensure b .malformed

def refuseIf (b : Bool) (error : ε) : Except (ReadError ε) Unit := ensure (!b) (.raised error)

def nonempty (x : Part) : Except (ReadError ε) PyStr :=
  match x with
  | some (.str s) => if s.points.isEmpty then .error .malformed else .ok s
  | _ => .error .malformed

def notBlank (env : Runtime) (x : Part) : Except (ReadError ε) PyStr :=
  match x with
  | some (.str s) => if s.notBlank env then .ok s else .error .malformed
  | _ => .error .malformed

/-- `type(value) is int and value >= 0` -/
def count (x : Part) : Except (ReadError ε) Nat :=
  match x with
  | some (.int n) => if 0 ≤ n then .ok n.toNat else .error .malformed
  | _ => .error .malformed

/-- A count that may be left out. -/
def countOr (x : Part) (other : Nat) : Except (ReadError ε) Nat :=
  match x with
  | none => .ok other
  | some v => count (some v)

@[simp] theorem need_eq_ok {b : Bool} {u : Unit} :
    (need b : Except (ReadError ε) Unit) = .ok u ↔ b = true :=
  ensure_eq_ok

@[simp] theorem refuseIf_eq_ok {b : Bool} {e : ε} {u : Unit} : refuseIf b e = .ok u ↔ b = false := by
  unfold refuseIf
  rw [ensure_eq_ok, Bool.not_eq_true']

@[simp] theorem nonempty_eq_ok {x : Part} {s : PyStr} :
    (nonempty x : Except (ReadError ε) PyStr) = .ok s ↔ x = some (.str s) ∧ s.points ≠ [] := by
  unfold nonempty
  split
  next s' =>
    split
    next he =>
      have hnil := List.isEmpty_iff.1 he
      simp only [reduceCtorEq, Option.some.injEq, Loaded.str.injEq, false_iff, not_and, not_not]
      rintro rfl
      exact hnil
    next hne =>
      simp only [Except.ok.injEq, Option.some.injEq, Loaded.str.injEq]
      refine ⟨?_, fun h => h.1⟩
      rintro rfl
      exact ⟨rfl, fun h => hne (List.isEmpty_iff.2 h)⟩
  next hstr =>
    simp only [reduceCtorEq, false_iff, not_and]
    rintro rfl
    exact absurd rfl (hstr s)

@[simp] theorem notBlank_eq_ok {env : Runtime} {x : Part} {s : PyStr} :
    (notBlank env x : Except (ReadError ε) PyStr) = .ok s ↔
      x = some (.str s) ∧ s.notBlank env = true := by
  unfold notBlank
  split
  next s' =>
    split
    next hb =>
      simp only [Except.ok.injEq, Option.some.injEq, Loaded.str.injEq]
      refine ⟨?_, fun h => h.1⟩
      rintro rfl
      exact ⟨rfl, hb⟩
    next hb =>
      simp only [reduceCtorEq, Option.some.injEq, Loaded.str.injEq, false_iff, not_and]
      rintro rfl
      exact hb
  next hstr =>
    simp only [reduceCtorEq, false_iff, not_and]
    rintro rfl
    exact absurd rfl (hstr s)

@[simp] theorem count_eq_ok {x : Part} {n : Nat} :
    (count x : Except (ReadError ε) Nat) = .ok n ↔ x = some (.int n) := by
  unfold count
  split
  next m =>
    simp only [Option.some.injEq, Loaded.int.injEq]
    split
    next hm =>
      rw [Except.ok.injEq]
      omega
    next hm =>
      simp only [reduceCtorEq, false_iff]
      omega
  next hint =>
    simp only [reduceCtorEq, false_iff]
    rintro rfl
    exact absurd rfl (hint n)

@[simp] theorem countOr_eq_ok {x : Part} {other n : Nat} :
    (countOr x other : Except (ReadError ε) Nat) = .ok n ↔
      x = some (.int n) ∨ x = none ∧ n = other := by
  unfold countOr
  split
  · simp [eq_comm]
  · rw [count_eq_ok]
    simp

end Part

end PaperGrading
