import PaperGrading.Domain.Values

/-!
# Strict shapes

What pydantic reads from a decoded JSON value for a model with `extra="forbid"`: the fields it
names, each of its type, and no other.
-/

namespace PaperGrading

/-- An object with the required keys, and no key but these and the optional ones. -/
def strictObject (required optional : List String) : Js → Option (List (String × Js))
  | .obj fields =>
    if required.all (fun k => (Js.get? fields k).isSome) &&
        fields.all (fun f => (required ++ optional).contains f.1) then some fields
    else none
  | _ => none

def strictText (fields : List (String × Js)) (key : String) : Option String :=
  match Js.get? fields key with
  | some (.str s) => some s
  | _ => none

def strictBool (fields : List (String × Js)) (key : String) : Option Bool :=
  match Js.get? fields key with
  | some (.bool b) => some b
  | _ => none

/-- A `tuple[…, …]`; a missing one is empty. -/
def strictTuple {α : Type} (parse : Js → Option α) (fields : List (String × Js)) (key : String) :
    Option (List α) :=
  match Js.get? fields key with
  | none => some []
  | some (.arr elems) => elems.mapM parse
  | some _ => none

def strictString : Js → Option String
  | .str s => some s
  | _ => none

/-- A positive integer, `Field(ge=1)`. -/
def strictPositive (fields : List (String × Js)) (key : String) : Option Nat :=
  match Js.get? fields key with
  | some (.int n) => if 1 ≤ n then some n.toNat else none
  | _ => none

/-- A `Literal` field with a default. -/
def literalOrMissing (fields : List (String × Js)) (key value : String) : Bool :=
  match Js.get? fields key with
  | none => true
  | some (.str s) => s == value
  | some _ => false

theorem strictTuple_map {α : Type} {parse : Js → Option α} {toJs : α → Js} {l : List α}
    (h : ∀ x ∈ l, parse (toJs x) = some x) : (l.map toJs).mapM parse = some l := by
  induction l with
  | nil => rfl
  | cons x l ih =>
    rw [List.forall_mem_cons] at h
    rw [List.map_cons, List.mapM_cons, h.1, ih h.2]
    rfl

end PaperGrading
