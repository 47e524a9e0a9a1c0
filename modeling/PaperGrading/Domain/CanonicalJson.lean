import PaperGrading.Domain.Values

/-!
# Canonical JSON is unambiguous

`canonical_json_bytes` compares two contract values by their text.  The text of a value
ends where the value ends, so two values with the same text are the same value up to the
order of object keys:

    a.IsCanonical → b.IsCanonical → a.canonicalJson = b.canonicalJson → a.sorted = b.sorted
                                                                        (canonicalJson_inj)

`sorted` orders the keys of every object; `text` prints a value as it stands, so that
`canonicalJson` prints `sorted` (canonicalJson_eq_text).
-/

namespace PaperGrading

namespace Js

/-! ## Text of a value, in the order of its fields -/

def escaped (s : String) : List Char := s.toList.flatMap escapeChar

def quoteChars (s : String) : List Char := '"' :: (escaped s ++ ['"'])

mutual

def text : Js → List Char
  | .null => "null".toList
  | .bool true => "true".toList
  | .bool false => "false".toList
  | .int n => (toString n).toList
  | .float t => t.toList
  | .str s => quoteChars s
  | .arr [] => ['[', ']']
  | .arr (v :: vs) => '[' :: (text v ++ elemsTail vs)
  | .obj [] => ['\x7b', '\x7d']
  | .obj ((k, v) :: fs) => '\x7b' :: (quoteChars k ++ ':' :: (text v ++ fieldsTail fs))

/-- The elements after the first, with the closing bracket. -/
def elemsTail : List Js → List Char
  | [] => [']']
  | v :: vs => ',' :: (text v ++ elemsTail vs)

def fieldsTail : List (String × Js) → List Char
  | [] => ['\x7d']
  | (k, v) :: fs => ',' :: (quoteChars k ++ ':' :: (text v ++ fieldsTail fs))

end

mutual

/-- The keys of every object in order. -/
def sorted : Js → Js
  | .arr elems => .arr (sortedElems elems)
  | .obj fields => .obj ((sortedFields fields).insertionSort fun x y => x.1 ≤ y.1)
  | .null => .null
  | .bool b => .bool b
  | .int n => .int n
  | .float t => .float t
  | .str s => .str s

def sortedElems : List Js → List Js
  | [] => []
  | v :: vs => v.sorted :: sortedElems vs

def sortedFields : List (String × Js) → List (String × Js)
  | [] => []
  | (k, v) :: fs => (k, v.sorted) :: sortedFields fs

end

theorem sortedElems_eq_map (vs : List Js) : sortedElems vs = vs.map sorted := by
  induction vs with
  | nil => rfl
  | cons v vs ih => rw [sortedElems, ih, List.map_cons]

theorem sortedFields_eq_map (fs : List (String × Js)) :
    sortedFields fs = fs.map fun f => (f.1, f.2.sorted) := by
  induction fs with
  | nil => rfl
  | cons f fs ih => rw [sortedFields, ih, List.map_cons]

/-! ## `canonicalJson` prints the sorted value -/

theorem toList_quote (s : String) : (quote s).toList = quoteChars s := by
  simp [quote, quoteChars, escaped]

theorem text_arr (vs : List Js) :
    text (.arr vs) = '[' :: ([','].intercalate (vs.map text) ++ [']']) := by
  have htail : ∀ v vs, text v ++ elemsTail vs =
      [','].intercalate ((v :: vs).map text) ++ [']'] := by
    intro v vs
    induction vs generalizing v with
    | nil => simp [elemsTail]
    | cons w vs ih => rw [elemsTail, ih w]; simp
  cases vs with
  | nil => rfl
  | cons v vs => rw [text, htail]

/-- One member of an object. -/
def member (f : String × Js) : List Char := quoteChars f.1 ++ ':' :: text f.2

theorem text_obj (fs : List (String × Js)) :
    text (.obj fs) = '\x7b' :: ([','].intercalate (fs.map member) ++ ['\x7d']) := by
  have htail : ∀ f fs, member f ++ fieldsTail fs =
      [','].intercalate ((f :: fs).map member) ++ ['\x7d'] := by
    intro f fs
    induction fs generalizing f with
    | nil => simp [fieldsTail]
    | cons g fs ih =>
      rw [fieldsTail, show quoteChars g.1 ++ ':' :: (text g.2 ++ fieldsTail fs) =
        member g ++ fieldsTail fs by simp [member], ih g]
      simp
  cases fs with
  | nil => rfl
  | cons f fs => rw [← htail, text, member, List.append_assoc, List.cons_append]

theorem canonicalFields_eq_map (fs : List (String × Js)) :
    canonicalFields fs = fs.map fun f => (f.1, f.2.canonicalJson) := by
  induction fs with
  | nil => rfl
  | cons f fs ih => rw [canonicalFields, ih, List.map_cons]

theorem canonicalElems_eq_map (vs : List Js) : canonicalElems vs = vs.map canonicalJson := by
  induction vs with
  | nil => rfl
  | cons v vs ih => rw [canonicalElems, ih, List.map_cons]

mutual

theorem canonicalJson_eq_text : ∀ v : Js, v.canonicalJson.toList = text v.sorted
  | .null => rfl
  | .bool true => rfl
  | .bool false => rfl
  | .int n => rfl
  | .float t => rfl
  | .str s => toList_quote s
  | .arr vs => by
    rw [canonicalJson, sorted, text_arr, sortedElems_eq_map, canonicalElems_eq_map, List.map_map]
    have ih := elems_eq_text vs
    have hmap : vs.map (String.toList ∘ canonicalJson) = vs.map (text ∘ sorted) :=
      List.map_congr_left ih
    simp only [String.toList_append, String.toList_intercalate, List.map_map, hmap]
    rfl
  | .obj fs => by
    rw [canonicalJson, sorted, text_obj, sortedFields_eq_map, canonicalFields_eq_map]
    have ih := fields_eq_text fs
    have hl := List.map_insertionSort (fun x y : String × Js => x.1 ≤ y.1)
      (s := fun x y : String × String => x.1 ≤ y.1) (fun f => (f.1, f.2.canonicalJson)) fs
      (fun _ _ _ _ => Iff.rfl)
    have hr := List.map_insertionSort (fun x y : String × Js => x.1 ≤ y.1)
      (s := fun x y : String × Js => x.1 ≤ y.1) (fun f => (f.1, f.2.sorted)) fs
      (fun _ _ _ _ => Iff.rfl)
    rw [← hl, ← hr]
    have hmap : ∀ gs : List (String × Js), (∀ f ∈ gs, f ∈ fs) →
        gs.map (String.toList ∘ (fun x : String × String => quote x.1 ++ ":" ++ x.2) ∘
          fun f => (f.1, f.2.canonicalJson)) = gs.map (member ∘ fun f => (f.1, f.2.sorted)) := by
      intro gs hsub
      refine List.map_congr_left fun f hf => ?_
      simp [member, toList_quote, ih f (hsub f hf)]
    simp only [String.toList_append, String.toList_intercalate, List.map_map]
    rw [hmap _ fun f hf => (List.mem_insertionSort _).1 hf]
    rfl

theorem elems_eq_text : ∀ vs : List Js, ∀ v ∈ vs, v.canonicalJson.toList = text v.sorted
  | [], _, h => absurd h List.not_mem_nil
  | v :: vs, w, h => by
    rcases List.mem_cons.1 h with h | h
    · rw [h]
      exact canonicalJson_eq_text v
    · exact elems_eq_text vs w h

theorem fields_eq_text : ∀ fs : List (String × Js), ∀ f ∈ fs,
    f.2.canonicalJson.toList = text f.2.sorted
  | [], _, h => absurd h List.not_mem_nil
  | (k, v) :: fs, f, h => by
    rcases List.mem_cons.1 h with h | h
    · rw [h]
      exact canonicalJson_eq_text v
    · exact fields_eq_text fs f h

end

/-! ## Strings end at their closing quote -/

/-- The characters JSON writes with a backslash. -/
def escapedChars : List Char := '"' :: '\\' :: (List.range 32).map Char.ofNat

theorem mem_escapedChars {c : Char} : c ∈ escapedChars ↔ c = '"' ∨ c = '\\' ∨ c.toNat < 32 := by
  simp only [escapedChars, List.mem_cons, List.mem_map, List.mem_range]
  constructor
  · rintro (h | h | ⟨n, hn, rfl⟩)
    · exact .inl h
    · exact .inr (.inl h)
    · have hall : ∀ n < 32, (Char.ofNat n).toNat < 32 := by decide
      exact .inr (.inr (hall n hn))
  · rintro (h | h | h)
    · exact .inl h
    · exact .inr (.inl h)
    · exact .inr (.inr ⟨c.toNat, h, Char.ofNat_toNat c⟩)

theorem escapeChar_of_not_mem {c : Char} (h : c ∉ escapedChars) : escapeChar c = [c] := by
  have hne : ∀ d ∈ escapedChars, c ≠ d := fun d hd hc => h (hc ▸ hd)
  rw [mem_escapedChars, not_or, not_or] at h
  unfold escapeChar
  rw [if_neg h.1, if_neg h.2.1, if_neg (hne '\n' (by decide)), if_neg (hne '\r' (by decide)),
    if_neg (hne '\t' (by decide)), if_neg (hne '\x08' (by decide)),
    if_neg (hne '\x0c' (by decide)), if_neg h.2.2]

theorem escapeChar_prefixes_eq : ∀ c ∈ escapedChars, ∀ d ∈ escapedChars,
    (escapeChar c).isPrefixOf (escapeChar d) = true → c = d := by
  have hall : (escapedChars.all fun c => escapedChars.all fun d =>
      !(escapeChar c).isPrefixOf (escapeChar d) || c == d) = true := by decide +kernel
  intro c hc d hd hp
  simpa [hp] using List.all_eq_true.1 (List.all_eq_true.1 hall c hc) d hd

theorem head_escapeChar (c : Char) (x : List Char) :
    (escapeChar c ++ x).head? = some (if c ∈ escapedChars then '\\' else c) := by
  split
  next hc =>
    have hall : (escapedChars.all fun c => (escapeChar c).head? == some '\\') = true := by
      decide +kernel
    rw [List.head?_append, beq_iff_eq.1 (List.all_eq_true.1 hall c hc), Option.some_or]
  next hc => rw [escapeChar_of_not_mem hc, List.singleton_append, List.head?_cons]

theorem escapeChar_inj {c d : Char} {x y : List Char}
    (h : escapeChar c ++ x = escapeChar d ++ y) : c = d ∧ x = y := by
  have hhead := congrArg List.head? h
  rw [head_escapeChar, head_escapeChar, Option.some.injEq] at hhead
  have hcd : c = d := by
    by_cases hc : c ∈ escapedChars <;> by_cases hd : d ∈ escapedChars
    · have hcx : escapeChar c <+: escapeChar d ++ y := ⟨x, h⟩
      rcases List.prefix_or_prefix_of_prefix hcx (List.prefix_append _ _) with hp | hp
      · exact escapeChar_prefixes_eq c hc d hd (List.isPrefixOf_iff_prefix.2 hp)
      · exact (escapeChar_prefixes_eq d hd c hc (List.isPrefixOf_iff_prefix.2 hp)).symm
    · rw [if_pos hc, if_neg hd] at hhead
      exact absurd (hhead ▸ by decide) hd
    · rw [if_neg hc, if_pos hd] at hhead
      exact absurd (hhead ▸ by decide) hc
    · rwa [if_neg hc, if_neg hd] at hhead
  subst hcd
  exact ⟨rfl, List.append_cancel_left h⟩

theorem escapeChar_ne_quote {c : Char} {x y : List Char} : escapeChar c ++ x ≠ '"' :: y := by
  intro h
  have hhead := congrArg List.head? h
  rw [head_escapeChar, List.head?_cons, Option.some.injEq] at hhead
  split at hhead
  · exact absurd hhead (by decide)
  next hc => exact hc (hhead ▸ by decide)

theorem escaped_inj : ∀ {s t x y : List Char},
    s.flatMap escapeChar ++ '"' :: x = t.flatMap escapeChar ++ '"' :: y → s = t ∧ x = y
  | [], [], _, _, h => ⟨rfl, (List.cons.inj h).2⟩
  | [], d :: t, _, _, h => by
    rw [List.flatMap_cons, List.append_assoc] at h
    exact absurd h.symm escapeChar_ne_quote
  | c :: s, [], _, _, h => by
    rw [List.flatMap_cons, List.append_assoc] at h
    exact absurd h escapeChar_ne_quote
  | c :: s, d :: t, _, _, h => by
    rw [List.flatMap_cons, List.flatMap_cons, List.append_assoc, List.append_assoc] at h
    obtain ⟨rfl, htail⟩ := escapeChar_inj h
    obtain ⟨rfl, hrest⟩ := escaped_inj htail
    exact ⟨rfl, hrest⟩

theorem quoteChars_inj {s t : String} {x y : List Char}
    (h : quoteChars s ++ x = quoteChars t ++ y) : s = t ∧ x = y := by
  simp only [quoteChars, escaped, List.cons_append, List.append_assoc, List.nil_append,
    List.cons.injEq, true_and] at h
  obtain ⟨hs, hx⟩ := escaped_inj h
  exact ⟨String.toList_injective hs, hx⟩

/-! ## Numbers end at the next character that is no part of a number -/

def isNumeral (c : Char) : Bool := c.isDigit || c == '-' || c == '+' || c == '.' || c == 'e'

/-- What stands after a value: nothing that continues a number. -/
def Ends (x : List Char) : Prop := ∀ c ∈ x.head?, isNumeral c = false

/-- The text of a float is no integer's. -/
def isFloatText (t : String) : Bool :=
  t.toList.all isNumeral && t.toList.any fun c => c == '.' || c == 'e'

theorem numeral_inj {s t x y : List Char} (hs : s.all isNumeral = true) (ht : t.all isNumeral = true)
    (hx : Ends x) (hy : Ends y) (h : s ++ x = t ++ y) : s = t ∧ x = y := by
  have htake : ∀ {s x : List Char}, s.all isNumeral = true → Ends x →
      (s ++ x).takeWhile isNumeral = s := by
    intro s x hs hx
    rw [List.takeWhile_append_of_pos (List.all_eq_true.1 hs)]
    cases x with
    | nil => exact List.append_nil s
    | cons c x => rw [List.takeWhile_cons_of_neg (by simp [hx c rfl]), List.append_nil]
  have hst := congrArg (List.takeWhile isNumeral) h
  rw [htake hs hx, htake ht hy] at hst
  subst hst
  exact ⟨rfl, List.append_cancel_left h⟩

theorem natText_inj {m n : Nat} (h : m.repr = n.repr) : m = n := by
  have hm := Nat.ofDigitChars_toDigits (b := 10) (n := m) (by omega) (by omega)
  rwa [← Nat.toList_repr, h, Nat.toList_repr,
    Nat.ofDigitChars_toDigits (b := 10) (by omega) (by omega), eq_comm] at hm

/-- No superfluous zero in front. -/
theorem digits_cases (n : Nat) :
    Nat.toDigits 10 n = ['0'] ∨ ∃ c cs, Nat.toDigits 10 n = c :: cs ∧ c ≠ '0' := by
  induction n using Nat.strongRecOn with
  | _ n ih =>
    rcases Nat.lt_or_ge n 10 with hn | hn
    · rw [Nat.toDigits_of_lt_base hn]
      have hall : ∀ n < 10, Nat.digitChar n = '0' ∨ Nat.digitChar n ≠ '0' := by decide
      rcases hall n hn with h | h
      · exact .inl (by rw [h])
      · exact .inr ⟨_, [], rfl, h⟩
    · rw [Nat.toDigits_of_base_le (by omega) hn]
      rcases ih (n / 10) (by omega) with h | ⟨c, cs, h, hc⟩
      · -- a quotient that is not zero has a first digit that is not zero
        have hz := Nat.ofDigitChars_toDigits (b := 10) (n := n / 10) (by omega) (by omega)
        rw [h] at hz
        simp [Nat.ofDigitChars] at hz
        omega
      · exact .inr ⟨c, cs ++ [Nat.digitChar (n % 10)], by rw [h, List.cons_append], hc⟩

theorem isDigit_natText {n : Nat} {c : Char} (h : c ∈ n.repr.toList) : c.isDigit = true := by
  rw [Nat.toList_repr] at h
  exact Nat.isDigit_of_mem_toDigits (by omega) (by omega) h

theorem intText_eq (n : Int) :
    (toString n).toList = if 0 ≤ n then n.toNat.repr.toList else '-' :: (-n).toNat.repr.toList := by
  cases n with
  | ofNat m => rfl
  | negSucc m => rw [if_neg (by simp)]; simp [Int.toString_eq_repr, Int.repr]

theorem intText_ne_nil (n : Int) : (toString n).toList ≠ [] := by
  rw [intText_eq]
  split
  · rw [Nat.toList_repr]; exact Nat.toDigits_ne_nil
  · exact List.cons_ne_nil _ _

theorem mem_intText {n : Int} {c : Char} (h : c ∈ (toString n).toList) :
    c.isDigit = true ∨ c = '-' := by
  rw [intText_eq] at h
  split at h
  · exact .inl (isDigit_natText h)
  · rcases List.mem_cons.1 h with h | h
    · exact .inr h
    · exact .inl (isDigit_natText h)

theorem intText_inj {m n : Int} (h : (toString m).toList = (toString n).toList) : m = n := by
  have hsign : ∀ {k l : Nat}, k.repr.toList ≠ '-' :: l.repr.toList := by
    intro k l he
    have := isDigit_natText (n := k) (c := '-') (he ▸ List.mem_cons_self)
    exact absurd this (by decide)
  rw [intText_eq, intText_eq] at h
  split at h <;> split at h
  · have := natText_inj (String.toList_injective h); omega
  · exact absurd h hsign
  · exact absurd h.symm hsign
  · have := natText_inj (String.toList_injective (List.cons.inj h).2); omega

/-! ## Values end where they end -/

mutual

/-- Every float is written as a float. -/
def IsCanonical : Js → Prop
  | .float t => isFloatText t = true
  | .arr vs => ElemsCanonical vs
  | .obj fs => FieldsCanonical fs
  | .null | .bool _ | .int _ | .str _ => True

def ElemsCanonical : List Js → Prop
  | [] => True
  | v :: vs => v.IsCanonical ∧ ElemsCanonical vs

def FieldsCanonical : List (String × Js) → Prop
  | [] => True
  | (_, v) :: fs => v.IsCanonical ∧ FieldsCanonical fs

end

/-- The constructors as the first character of the text tells them apart. -/
def kind : Js → Nat
  | .null => 0
  | .bool _ => 1
  | .int _ | .float _ => 2
  | .str _ => 3
  | .arr _ => 4
  | .obj _ => 5

def kindOf (c : Char) : Nat :=
  if c = 'n' then 0 else if c = 't' ∨ c = 'f' then 1 else if isNumeral c = true then 2
  else if c = '"' then 3 else if c = '[' then 4 else 5

theorem kindOf_numeral {c : Char} (h : isNumeral c = true) : kindOf c = 2 := by
  have hne : ∀ d : Char, isNumeral d = false → c ≠ d := fun d hd hc => by simp [hc, hd] at h
  unfold kindOf
  rw [if_neg (hne 'n' (by decide)), if_neg (by simp [hne 't' (by decide), hne 'f' (by decide)]),
    if_pos h]

theorem isNumeral_intText {n : Int} : (toString n).toList.all isNumeral = true := by
  refine List.all_eq_true.2 fun c hc => ?_
  rcases mem_intText hc with h | h <;> simp [isNumeral, h]

/-- The first character of a text tells its constructor, and continues no number. -/
theorem head_text (v : Js) (hv : v.IsCanonical) (x : List Char) :
    ∃ c, (text v ++ x).head? = some c ∧ kindOf c = v.kind ∧ c ≠ ']' ∧ c ≠ ',' := by
  have hnum : ∀ t : List Char, t ≠ [] → t.all isNumeral = true →
      ∃ c, (t ++ x).head? = some c ∧ kindOf c = 2 ∧ c ≠ ']' ∧ c ≠ ',' := by
    intro t ht hall
    cases t with
    | nil => exact absurd rfl ht
    | cons c t =>
      have hc := List.all_eq_true.1 hall c List.mem_cons_self
      refine ⟨c, rfl, kindOf_numeral hc, ?_, ?_⟩ <;>
      · rintro rfl
        exact absurd hc (by decide)
  match v, hv with
  | .null, _ => exact ⟨'n', rfl, by decide, by decide, by decide⟩
  | .bool true, _ => exact ⟨'t', rfl, by decide, by decide, by decide⟩
  | .bool false, _ => exact ⟨'f', rfl, by decide, by decide, by decide⟩
  | .int n, _ => exact hnum _ (intText_ne_nil n) isNumeral_intText
  | .float t, h =>
    simp only [IsCanonical, isFloatText, Bool.and_eq_true] at h
    refine hnum _ (fun hnil => ?_) h.1
    have hempty : t.toList = [] := hnil
    rw [hempty] at h
    exact absurd h.2 (by decide)
  | .str s, _ => exact ⟨'"', rfl, (by decide : kindOf '"' = 3), by decide, by decide⟩
  | .arr [], _ => exact ⟨'[', rfl, by decide, by decide, by decide⟩
  | .arr (_ :: _), _ => exact ⟨'[', rfl, (by decide : kindOf '[' = 4), by decide, by decide⟩
  | .obj [], _ => exact ⟨'\x7b', rfl, by decide, by decide, by decide⟩
  | .obj (_ :: _), _ => exact ⟨'\x7b', rfl, (by decide : kindOf '\x7b' = 5), by decide, by decide⟩

theorem ends_elemsTail (vs : List Js) (x : List Char) : Ends (elemsTail vs ++ x) := by
  cases vs <;>
  · intro c hc
    simp only [elemsTail, List.cons_append, List.head?_cons, Option.mem_some_iff] at hc
    exact hc ▸ by decide

theorem ends_fieldsTail (fs : List (String × Js)) (x : List Char) : Ends (fieldsTail fs ++ x) := by
  cases fs <;>
  · intro c hc
    simp only [fieldsTail, List.cons_append, List.head?_cons, Option.mem_some_iff] at hc
    exact hc ▸ by decide

theorem intText_ne_floatText {n : Int} {t : String} (ht : isFloatText t = true) :
    (toString n).toList ≠ t.toList := by
  intro h
  simp only [isFloatText, Bool.and_eq_true, List.any_eq_true] at ht
  obtain ⟨-, c, hc, hdot⟩ := ht
  rcases mem_intText (h ▸ hc) with hdigit | rfl
  · simp only [Bool.or_eq_true, beq_iff_eq] at hdot
    rcases hdot with rfl | rfl <;> exact absurd hdigit (by decide)
  · exact absurd hdot (by decide)

theorem text_empty_ne {v : Js} {vs : List Js} {x y : List Char} (hv : v.IsCanonical) :
    text (.arr []) ++ x ≠ text (.arr (v :: vs)) ++ y := by
  intro h
  simp only [text, List.cons_append, List.append_assoc, List.nil_append, List.cons.injEq,
    true_and] at h
  obtain ⟨c, hc, -, hne, -⟩ := head_text v hv (elemsTail vs ++ y)
  rw [← h, List.head?_cons, Option.some.injEq] at hc
  exact hne hc.symm

mutual

/-- A text is followed by what follows the value. -/
theorem text_inj : ∀ {a b : Js} {x y : List Char}, a.IsCanonical → b.IsCanonical → Ends x → Ends y →
    text a ++ x = text b ++ y → a = b ∧ x = y := by
  intro a b x y ha hb hx hy h
  have hkind : a.kind = b.kind := by
    obtain ⟨c, hc, hca, -, -⟩ := head_text a ha x
    obtain ⟨d, hd, hdb, -, -⟩ := head_text b hb y
    rw [h, hd, Option.some.injEq] at hc
    rw [← hca, ← hdb, hc]
  match a, b, hkind with
  | .null, .null, _ => exact ⟨rfl, List.append_cancel_left h⟩
  | .bool b₁, .bool b₂, _ => cases b₁ <;> cases b₂ <;> simp_all [text]
  | .int m, .int n, _ =>
    obtain ⟨ht, hxy⟩ := numeral_inj isNumeral_intText isNumeral_intText hx hy h
    exact ⟨by rw [intText_inj ht], hxy⟩
  | .int m, .float t, _ =>
    have hf : isFloatText t = true := hb
    have hall := (Bool.and_eq_true _ _ ▸ hf).1
    exact absurd (numeral_inj isNumeral_intText hall hx hy h).1 (intText_ne_floatText hf)
  | .float t, .int n, _ =>
    have hf : isFloatText t = true := ha
    have hall := (Bool.and_eq_true _ _ ▸ hf).1
    exact absurd (numeral_inj hall isNumeral_intText hx hy h).1.symm (intText_ne_floatText hf)
  | .float t, .float u, _ =>
    have hft : isFloatText t = true := ha
    have hfu : isFloatText u = true := hb
    obtain ⟨ht, hxy⟩ := numeral_inj (Bool.and_eq_true _ _ ▸ hft).1 (Bool.and_eq_true _ _ ▸ hfu).1
      hx hy h
    exact ⟨by rw [String.toList_injective ht], hxy⟩
  | .str s, .str t, _ =>
    obtain ⟨rfl, hxy⟩ := quoteChars_inj h
    exact ⟨rfl, hxy⟩
  | .arr [], .arr [], _ => exact ⟨rfl, List.append_cancel_left h⟩
  | .arr [], .arr (w :: ws), _ => exact absurd h (text_empty_ne hb.1)
  | .arr (v :: vs), .arr [], _ => exact absurd h.symm (text_empty_ne ha.1)
  | .arr (v :: vs), .arr (w :: ws), _ =>
    simp only [text, List.cons_append, List.append_assoc, List.cons.injEq, true_and] at h
    obtain ⟨rfl, htail⟩ := text_inj ha.1 hb.1 (ends_elemsTail vs x) (ends_elemsTail ws y) h
    obtain ⟨rfl, hxy⟩ := elemsTail_inj ha.2 hb.2 htail
    exact ⟨rfl, hxy⟩
  | .obj [], .obj [], _ => exact ⟨rfl, List.append_cancel_left h⟩
  | .obj [], .obj ((_, _) :: gs), _ => simp [text, quoteChars] at h
  | .obj ((_, _) :: fs), .obj [], _ => simp [text, quoteChars] at h
  | .obj ((k, v) :: fs), .obj ((l, w) :: gs), _ =>
    simp only [text, List.cons_append, List.append_assoc, List.cons.injEq, true_and] at h
    obtain ⟨rfl, hrest⟩ := quoteChars_inj h
    obtain ⟨rfl, htail⟩ := text_inj ha.1 hb.1 (ends_fieldsTail fs x) (ends_fieldsTail gs y)
      (List.cons.inj hrest).2
    obtain ⟨rfl, hxy⟩ := fieldsTail_inj ha.2 hb.2 htail
    exact ⟨rfl, hxy⟩

theorem elemsTail_inj : ∀ {vs ws : List Js} {x y : List Char}, ElemsCanonical vs →
    ElemsCanonical ws → elemsTail vs ++ x = elemsTail ws ++ y → vs = ws ∧ x = y
  | [], [], _, _, _, _, h => ⟨rfl, List.append_cancel_left h⟩
  | [], w :: ws, _, _, _, _, h => by simp [elemsTail] at h
  | v :: vs, [], _, _, _, _, h => by simp [elemsTail] at h
  | v :: vs, w :: ws, x, y, hv, hw, h => by
    simp only [elemsTail, List.cons_append, List.append_assoc, List.cons.injEq, true_and] at h
    obtain ⟨rfl, htail⟩ := text_inj hv.1 hw.1 (ends_elemsTail vs x) (ends_elemsTail ws y) h
    obtain ⟨rfl, hxy⟩ := elemsTail_inj hv.2 hw.2 htail
    exact ⟨rfl, hxy⟩

theorem fieldsTail_inj : ∀ {fs gs : List (String × Js)} {x y : List Char}, FieldsCanonical fs →
    FieldsCanonical gs → fieldsTail fs ++ x = fieldsTail gs ++ y → fs = gs ∧ x = y
  | [], [], _, _, _, _, h => ⟨rfl, List.append_cancel_left h⟩
  | [], (_, _) :: gs, _, _, _, _, h => by simp [fieldsTail] at h
  | (_, _) :: fs, [], _, _, _, _, h => by simp [fieldsTail] at h
  | (k, v) :: fs, (l, w) :: gs, x, y, hf, hg, h => by
    simp only [fieldsTail, List.cons_append, List.append_assoc, List.cons.injEq, true_and] at h
    obtain ⟨rfl, hrest⟩ := quoteChars_inj h
    obtain ⟨rfl, htail⟩ := text_inj hf.1 hg.1 (ends_fieldsTail fs x) (ends_fieldsTail gs y)
      (List.cons.inj hrest).2
    obtain ⟨rfl, hxy⟩ := fieldsTail_inj hf.2 hg.2 htail
    exact ⟨rfl, hxy⟩

end

/-! ## Main result -/

theorem elemsCanonical_iff {vs : List Js} : ElemsCanonical vs ↔ ∀ v ∈ vs, v.IsCanonical := by
  induction vs with
  | nil => simp [ElemsCanonical]
  | cons v vs ih => rw [ElemsCanonical, ih, List.forall_mem_cons]

theorem fieldsCanonical_iff {fs : List (String × Js)} :
    FieldsCanonical fs ↔ ∀ f ∈ fs, f.2.IsCanonical := by
  induction fs with
  | nil => simp [FieldsCanonical]
  | cons f fs ih => rw [FieldsCanonical, ih, List.forall_mem_cons]

mutual

theorem isCanonical_sorted : ∀ {v : Js}, v.IsCanonical → v.sorted.IsCanonical
  | .null, _ | .bool _, _ | .int _, _ | .str _, _ => trivial
  | .float _, h => h
  | .arr vs, h => by
    rw [sorted, IsCanonical, sortedElems_eq_map, elemsCanonical_iff]
    intro w hw
    obtain ⟨v, hv, rfl⟩ := List.mem_map.1 hw
    exact elemsCanonical_sorted h v hv
  | .obj fs, h => by
    rw [sorted, IsCanonical, sortedFields_eq_map, fieldsCanonical_iff]
    intro g hg
    obtain ⟨f, hf, rfl⟩ := List.mem_map.1 ((List.mem_insertionSort _).1 hg)
    exact fieldsCanonical_sorted h f hf

theorem elemsCanonical_sorted : ∀ {vs : List Js}, ElemsCanonical vs →
    ∀ v ∈ vs, v.sorted.IsCanonical
  | [], _, _, hv => absurd hv List.not_mem_nil
  | w :: vs, h, v, hv => by
    rcases List.mem_cons.1 hv with hv | hv
    · rw [hv]
      exact isCanonical_sorted h.1
    · exact elemsCanonical_sorted h.2 v hv

theorem fieldsCanonical_sorted : ∀ {fs : List (String × Js)}, FieldsCanonical fs →
    ∀ f ∈ fs, f.2.sorted.IsCanonical
  | [], _, _, hf => absurd hf List.not_mem_nil
  | (k, w) :: fs, h, f, hf => by
    rcases List.mem_cons.1 hf with hf | hf
    · rw [hf]
      exact isCanonical_sorted h.1
    · exact fieldsCanonical_sorted h.2 f hf

end

/-- **The canonical text determines the value up to the order of object keys.** -/
theorem canonicalJson_inj {a b : Js} (ha : a.IsCanonical) (hb : b.IsCanonical)
    (h : a.canonicalJson = b.canonicalJson) : a.sorted = b.sorted := by
  have hends : Ends [] := fun c hc => absurd hc (by simp)
  have htext : text a.sorted ++ [] = text b.sorted ++ [] := by
    rw [← canonicalJson_eq_text, ← canonicalJson_eq_text, h]
  exact (text_inj (isCanonical_sorted ha) (isCanonical_sorted hb) hends hends htext).1

theorem canonicalJson_of_sorted {a b : Js} (h : a.sorted = b.sorted) :
    a.canonicalJson = b.canonicalJson := by
  apply String.toList_injective
  rw [canonicalJson_eq_text, canonicalJson_eq_text, h]

theorem eq_of_perm_of_keys {α β : Type} {l₁ l₂ : List (α × β)} (hp : l₁.Perm l₂)
    (hkeys : l₁.map Prod.fst = l₂.map Prod.fst) (hnodup : (l₁.map Prod.fst).Nodup) : l₁ = l₂ := by
  induction l₁ generalizing l₂ with
  | nil => exact hp.nil_eq
  | cons x l₁ ih =>
    cases l₂ with
    | nil => exact absurd hp.symm.nil_eq (List.cons_ne_nil _ _).symm
    | cons y l₂ =>
      simp only [List.map_cons, List.cons.injEq, List.nodup_cons] at hkeys hnodup
      have hxy : x = y := by
        rcases List.mem_cons.1 (hp.mem_iff.1 List.mem_cons_self) with h | h
        · exact h
        · exact absurd (hkeys.2 ▸ List.mem_map_of_mem h) hnodup.1
      subst hxy
      rw [ih (hp.cons_inv) hkeys.2 hnodup.2]

/-- Objects with the same keys are equal up to order field by field. -/
theorem sorted_obj_inj {fs gs : List (String × Js)} (h : (Js.obj fs).sorted = (Js.obj gs).sorted)
    (hkeys : fs.map Prod.fst = gs.map Prod.fst) (hnodup : (fs.map Prod.fst).Nodup) :
    fs.map (fun f => f.2.sorted) = gs.map fun g => g.2.sorted := by
  simp only [sorted, Js.obj.injEq, sortedFields_eq_map] at h
  have hp : (fs.map fun f => (f.1, f.2.sorted)).Perm (gs.map fun g => (g.1, g.2.sorted)) :=
    (h ▸ (List.perm_insertionSort _ _).symm : List.Perm _ _).trans (List.perm_insertionSort _ _)
  have hfst : ∀ l : List (String × Js), (l.map fun f => (f.1, f.2.sorted)).map Prod.fst =
      l.map Prod.fst := fun l => by rw [List.map_map]; rfl
  have heq := eq_of_perm_of_keys hp (by rw [hfst, hfst, hkeys]) (by rwa [hfst])
  have := congrArg (List.map Prod.snd) heq
  rwa [List.map_map, List.map_map] at this

end Js

end PaperGrading
