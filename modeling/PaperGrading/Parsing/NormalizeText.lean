import PaperGrading.Base.CanonicalForms
import PaperGrading.Domain.Texts
import PaperGrading.Parsing.Blocks
import PaperGrading.Store.Commits

/-!
# Normalised texts

`normalize_text` composes a text first and takes its NULs out afterwards, so that the parts on both
sides of a NUL meet without being composed again.

    the other steps keep a composed text composed, both ways   (isComposed_unixNewlines,
                                                      isComposed_plainSpaces, isComposed_strip)
    the result is composed and a fixed point iff the parts between NULs do not interact
                                                                               (normalised_iff)
-/

namespace PaperGrading

open CanonicalData

/-- `unicodedata.normalize("NFC", …)`. -/
def nfc (u : CanonicalData Char) (s : String) : String := String.ofList (u.composed s.toList)

/-- The tables leave the characters of `normalize_text` alone, and every whitespace character
stands for one that does not interact. -/
structure PlainTables (env : Runtime) (u : CanonicalData Char) : Prop where
  inert : ∀ c ∈ ['\r', '\n', '\x00', '\u00a0', ' '], u.Inert c
  sole : ∀ c ∈ ['\r', '\n', '\x00', '\u00a0', ' '], ∀ y, c ∈ u.decompose y → y = c
  space : ∀ w, env.isSpace w = true → ∃ c, u.Inert c ∧ u.decompose w = [c]

/-- What is promised of a normalised text. -/
structure Normalised (env : Runtime) (u : CanonicalData Char) (s : String) : Prop where
  fixed : normalizeText env (nfc u) (normalizeText env (nfc u) s) = normalizeText env (nfc u) s
  composed : nfc u (normalizeText env (nfc u) s) = normalizeText env (nfc u) s
  plain : ∀ c ∈ (normalizeText env (nfc u) s).toList, c ≠ '\r' ∧ c ≠ '\x00' ∧ c ≠ '\u00a0'

/-- The parts between NULs are composed together as they are one by one. -/
def PartsApart (u : CanonicalData Char) (s : String) : Prop :=
  u.composed (s.toList.splitOn '\x00').flatten = ((s.toList.splitOn '\x00').map u.composed).flatten

/-! ## Steps -/

variable {env : Runtime} {u : CanonicalData Char}

/-- `replace("\u00a0", " ")`. -/
def plainSpaces (l : List Char) : List Char := l.map fun c => if c = '\u00a0' then ' ' else c

/-- `replace("\x00", "")`. -/
def withoutNul (l : List Char) : List Char := l.filter (· != '\x00')

/-- The text before `strip()`. -/
def replaced (l : List Char) : List Char := withoutNul (plainSpaces (unixNewlines l))

theorem toList_nfc (s : String) : (nfc u s).toList = u.composed s.toList := String.toList_ofList

theorem toList_normalizeText (s : String) : (normalizeText env (nfc u) s).toList =
    ((replaced (u.composed s.toList)).dropWhile env.isSpace).rdropWhile env.isSpace := by
  unfold normalizeText
  rw [toList_strip, String.toList_ofList, toList_nfc]
  rfl

theorem mem_withoutNul {l : List Char} {c : Char} : c ∈ withoutNul l ↔ c ∈ l ∧ c ≠ '\x00' := by
  simp [withoutNul]

theorem withoutNul_append (a b : List Char) :
    withoutNul (a ++ b) = withoutNul a ++ withoutNul b := List.filter_append a b

theorem mem_plainSpaces {l : List Char} {c : Char} (h : c ∈ plainSpaces l) :
    c ≠ '\u00a0' ∧ (c = ' ' ∨ c ∈ l) := by
  obtain ⟨d, hd, rfl⟩ := List.mem_map.1 h
  by_cases hspace : d = '\u00a0'
  · rw [if_pos hspace]
    exact ⟨by decide, .inl rfl⟩
  · rw [if_neg hspace]
    exact ⟨hspace, .inr hd⟩

theorem mem_unixNewlines {l : List Char} {c : Char} (h : c ∈ unixNewlines l) :
    c ≠ '\r' ∧ (c = '\n' ∨ c ∈ l) := by
  induction l using unixNewlines.induct with
  | case1 l ih =>
    rw [unixNewlines, List.mem_cons] at h
    rcases h with rfl | h
    · exact ⟨by decide, .inl rfl⟩
    · exact ⟨(ih h).1, (ih h).2.imp_right fun h => by simp [h]⟩
  | case2 l _ ih =>
    rw [unixNewlines, List.mem_cons] at h
    · rcases h with rfl | h
      · exact ⟨by decide, .inl rfl⟩
      · exact ⟨(ih h).1, (ih h).2.imp_right fun h => by simp [h]⟩
    · assumption
  | case3 d l hcrlf hcr ih =>
    rw [unixNewlines, List.mem_cons] at h
    · rcases h with rfl | h
      · exact ⟨fun hc => hcr hc, .inr List.mem_cons_self⟩
      · exact ⟨(ih h).1, (ih h).2.imp_right fun h => by simp [h]⟩
    · exact hcrlf
    · exact hcr
  | case4 => cases h

theorem mem_replaced {l : List Char} {c : Char} (h : c ∈ replaced l) :
    (c ≠ '\r' ∧ c ≠ '\x00' ∧ c ≠ '\u00a0') ∧ (c = ' ' ∨ c = '\n' ∨ c ∈ l) := by
  obtain ⟨hmem, hnul⟩ := mem_withoutNul.1 h
  obtain ⟨hspace, hmem⟩ := mem_plainSpaces hmem
  rcases hmem with rfl | hmem
  · exact ⟨⟨by decide, hnul, hspace⟩, .inl rfl⟩
  · obtain ⟨hreturn, hmem⟩ := mem_unixNewlines hmem
    exact ⟨⟨hreturn, hnul, hspace⟩, .inr hmem⟩

theorem unixNewlines_of_plain {l : List Char} (h : ∀ c ∈ l, c ≠ '\r') : unixNewlines l = l := by
  induction l with
  | nil => rfl
  | cons c l ih =>
    rw [List.forall_mem_cons] at h
    rw [unixNewlines, ih h.2]
    · exact fun _ hc => absurd hc h.1
    · exact h.1

theorem replaced_of_plain {l : List Char} (h : ∀ c ∈ l, c ≠ '\r' ∧ c ≠ '\x00' ∧ c ≠ '\u00a0') :
    replaced l = l := by
  unfold replaced
  rw [unixNewlines_of_plain fun c hc => (h c hc).1]
  have hspaces : plainSpaces l = l :=
    (List.map_congr_left fun c hc => if_neg (h c hc).2.2).trans (List.map_id' l)
  rw [hspaces]
  exact List.filter_eq_self.2 fun c hc => by simpa using (h c hc).2.1

/-! ## Replacements and composition -/

section

variable (h : PlainTables env u)

include h

theorem isComposed_plain {c : Char} (hc : c ∈ ['\r', '\n', '\x00', '\u00a0', ' ']) {a b : List Char} :
    u.IsComposed (a ++ c :: b) ↔ u.IsComposed a ∧ u.IsComposed b :=
  isComposed_inert (h.inert c hc) (h.sole c hc)

theorem isComposed_plainSpaces (a l : List Char) :
    u.IsComposed (a ++ withoutNul (plainSpaces l)) ↔ u.IsComposed (a ++ withoutNul l) := by
  induction l generalizing a with
  | nil => rfl
  | cons c l ih =>
    by_cases hspace : c = '\u00a0'
    · subst hspace
      show u.IsComposed (a ++ ' ' :: withoutNul (plainSpaces l)) ↔
        u.IsComposed (a ++ '\u00a0' :: withoutNul l)
      rw [isComposed_plain h (by simp), isComposed_plain h (by simp)]
      exact and_congr_right fun _ => ih []
    · have hcons : plainSpaces (c :: l) = [c] ++ plainSpaces l := by
        simp [plainSpaces, hspace]
      rw [hcons, withoutNul_append, ← List.append_assoc, ih, List.append_assoc, ← withoutNul_append]
      rfl

theorem isComposed_unixNewlines (a l : List Char) :
    u.IsComposed (a ++ withoutNul (unixNewlines l)) ↔ u.IsComposed (a ++ withoutNul l) := by
  induction l using unixNewlines.induct generalizing a with
  | case1 l ih =>
    rw [unixNewlines]
    show u.IsComposed (a ++ '\n' :: withoutNul (unixNewlines l)) ↔
      u.IsComposed (a ++ '\r' :: ([] ++ '\n' :: withoutNul l))
    rw [isComposed_plain h (by simp), isComposed_plain h (by simp), isComposed_plain h (by simp)]
    exact and_congr_right fun _ => (ih []).trans (and_iff_right rfl).symm
  | case2 l hcrlf ih =>
    rw [unixNewlines]
    · show u.IsComposed (a ++ '\n' :: withoutNul (unixNewlines l)) ↔
        u.IsComposed (a ++ '\r' :: withoutNul l)
      rw [isComposed_plain h (by simp), isComposed_plain h (by simp)]
      exact and_congr_right fun _ => ih []
    · exact hcrlf
  | case3 c l hcrlf hcr ih =>
    rw [unixNewlines]
    · show u.IsComposed (a ++ withoutNul ([c] ++ unixNewlines l)) ↔
        u.IsComposed (a ++ withoutNul ([c] ++ l))
      rw [withoutNul_append, withoutNul_append, ← List.append_assoc, ih, List.append_assoc]
    · exact hcrlf
    · exact hcr
  | case4 => rfl

theorem isComposed_replaced (l : List Char) :
    u.IsComposed (replaced l) ↔ u.IsComposed (withoutNul l) :=
  (isComposed_plainSpaces h [] _).trans (isComposed_unixNewlines h [] l)

end

/-! ## `strip` and composition -/

theorem isComposed_dropWhile {p : Char → Bool} {l : List Char}
    (h : ∀ w ∈ l, p w = true → u.Inert w) : u.IsComposed (l.dropWhile p) ↔ u.IsComposed l := by
  induction l with
  | nil => rfl
  | cons c l ih =>
    rw [List.forall_mem_cons] at h
    by_cases hc : p c = true
    · rw [List.dropWhile_cons_of_pos hc, ih h.2, isComposed_cons (h.1 hc)]
    · rw [List.dropWhile_cons_of_neg hc]

theorem isComposed_rdropWhile {p : Char → Bool} {l : List Char}
    (h : ∀ w ∈ l, p w = true → u.Inert w) : u.IsComposed (l.rdropWhile p) ↔ u.IsComposed l := by
  induction l using List.reverseRecOn with
  | nil => rfl
  | append_singleton l c ih =>
    by_cases hc : p c = true
    · rw [List.rdropWhile_concat_pos p l c hc, isComposed_concat (h c (by simp) hc)]
      exact ih fun w hw => h w (List.mem_append_left _ hw)
    · rw [List.rdropWhile_concat_neg p l c hc]

/-- The whitespace of a composed text is inert. -/
theorem inert_of_mem_replaced (h : PlainTables env u) {l : List Char} {w : Char}
    (hw : w ∈ replaced (u.composed l)) (hspace : env.isSpace w = true) : u.Inert w := by
  rcases (mem_replaced hw).2 with rfl | rfl | hmem
  · exact h.inert _ (by simp)
  · exact h.inert _ (by simp)
  · obtain ⟨c, hc, hdecompose⟩ := h.space w hspace
    rwa [eq_of_mem_composed hc hdecompose hmem]

theorem isComposed_normalizeText (h : PlainTables env u) (s : String) :
    u.IsComposed (normalizeText env (nfc u) s).toList ↔
      u.IsComposed (withoutNul (u.composed s.toList)) := by
  have hinert : ∀ w ∈ replaced (u.composed s.toList), env.isSpace w = true → u.Inert w :=
    fun w hw => inert_of_mem_replaced h hw
  rw [toList_normalizeText, isComposed_rdropWhile, isComposed_dropWhile hinert,
    isComposed_replaced h]
  exact fun w hw => hinert w ((List.dropWhile_sublist _).subset hw)

/-! ## Parts between NULs -/

section

variable (h : PlainTables env u)

include h

theorem withoutNul_composed (l : List Char) :
    withoutNul (u.composed l) = ((l.splitOn '\x00').map u.composed).flatten := by
  have hfree {a : List Char} (ha : '\x00' ∉ a) : withoutNul (u.composed a) = u.composed a := by
    refine List.filter_eq_self.2 fun c hc => ?_
    have : c ≠ '\x00' := fun heq => ha
      (mem_of_mem_composed (h.inert _ (by simp)).decompose (h.sole _ (by simp)) (heq ▸ hc))
    simpa using this
  induction hn : l.length using Nat.strong_induction_on generalizing l with
  | h n ih =>
    by_cases hl : '\x00' ∈ l
    · obtain ⟨a, b, rfl, ha⟩ := List.eq_append_cons_of_mem hl
      have hshort : b.length < n := by
        rw [← hn, List.length_append, List.length_cons]
        omega
      rw [composed_inert (h.inert _ (by simp)), withoutNul_append, hfree ha,
        List.splitOn_append_cons_self_of_not_mem ha, List.map_cons, List.flatten_cons,
        ← ih _ hshort b rfl]
      rfl
    · rw [hfree hl, List.splitOn_eq_singleton hl, List.map_singleton, List.flatten_singleton]

end

theorem composed_flatten (parts : List (List Char)) :
    u.composed (parts.map u.composed).flatten = u.composed parts.flatten := by
  induction parts with
  | nil => rfl
  | cons a parts ih =>
    rw [List.map_cons, List.flatten_cons, List.flatten_cons, ← u.composed_append,
      u.composed_composed, ih, u.composed_append]

/-! ## Normalised texts -/

/-- **A text is normalised as promised iff the parts between its NULs do not interact.** -/
theorem normalised_iff (h : PlainTables env u) (s : String) :
    Normalised env u s ↔ PartsApart u s := by
  have hparts : u.IsComposed (withoutNul (u.composed s.toList)) ↔ PartsApart u s := by
    unfold IsComposed PartsApart
    rw [withoutNul_composed h, composed_flatten]
  rw [← hparts, ← isComposed_normalizeText h]
  constructor
  · intro hs
    have := congrArg String.toList hs.composed
    rwa [toList_nfc] at this
  · intro hs
    have hplain : ∀ c ∈ (normalizeText env (nfc u) s).toList,
        c ≠ '\r' ∧ c ≠ '\x00' ∧ c ≠ '\u00a0' := by
      intro c hc
      rw [toList_normalizeText] at hc
      have hmem := (List.dropWhile_sublist _).subset ((List.rdropWhile_prefix _ _).subset hc)
      exact (mem_replaced hmem).1
    refine ⟨?_, ?_, hplain⟩
    · -- a composed and plain text is only stripped again
      apply String.toList_injective
      rw [toList_normalizeText, show u.composed _ = _ from hs, replaced_of_plain hplain]
      have hstrip := strip_strip env (String.ofList (replaced (u.composed s.toList)))
      have hagain := congrArg String.toList hstrip
      rw [toList_strip, toList_strip, String.toList_ofList, ← toList_normalizeText] at hagain
      exact hagain
    · apply String.toList_injective
      rw [toList_nfc]
      exact hs

/-! ## Accents -/

namespace Sample

/-- One letter with an accent. -/
def accents : CanonicalData Char where
  decompose c := if c = '\u00e9' then ['e', '\u0301'] else [c]
  combiningClass c := if c = '\u0301' then 230 else 0
  primary a b := if a = 'e' ∧ b = '\u0301' then some '\u00e9' else none
  decompose_fixed c x hx := by
    split at hx
    · simp only [List.mem_cons, List.not_mem_nil, or_false] at hx
      rcases hx with rfl | rfl <;> rfl
    · next hc =>
      rw [List.mem_singleton.1 hx, if_neg hc]
  decompose_primary {a b p} hp := by
    split at hp
    · next hab =>
      cases hp
      rw [hab.1, hab.2]
      rfl
    · cases hp

/-- The characters that `str.strip` removes. -/
def whitespace : List Char :=
  ['\t', '\n', '\x0b', '\x0c', '\r', '\x1c', '\x1d', '\x1e', '\x1f', ' ', '\x85', '\u00a0', '\u1680',
    '\u2000', '\u2001', '\u2002', '\u2003', '\u2004', '\u2005', '\u2006', '\u2007', '\u2008', '\u2009',
    '\u200a', '\u2028', '\u2029', '\u202f', '\u205f', '\u3000']

def pythonRuntime : Runtime := { sampleRuntime with isSpace := fun c => whitespace.contains c }

theorem accents_inert {c : Char} (h : c ∉ ['\u00e9', '\u0301', 'e']) : accents.Inert c := by
  simp only [List.mem_cons, List.not_mem_nil, or_false, not_or] at h
  exact ⟨if_neg h.1, if_neg h.2.1, fun d => if_neg fun hd => h.2.2 hd.1,
    fun d => if_neg fun hd => h.2.1 hd.2⟩

theorem accents_plain : PlainTables pythonRuntime accents where
  inert c hc := by
    have hnone : ['\r', '\n', '\x00', '\u00a0', ' '].all
        (fun c => decide (c ∉ ['\u00e9', '\u0301', 'e'])) = true := by decide
    exact accents_inert (of_decide_eq_true (List.all_eq_true.1 hnone c hc))
  sole c hc y hy := by
    have hnone : ['\r', '\n', '\x00', '\u00a0', ' '].all
        (fun c => decide (c ∉ ['e', '\u0301'])) = true := by decide
    have hlist : c ∉ ['e', '\u0301'] := of_decide_eq_true (List.all_eq_true.1 hnone c hc)
    dsimp only [accents] at hy
    split at hy
    · exact absurd hy hlist
    · exact (List.mem_singleton.1 hy).symm
  space w hw := by
    -- no white space has an accent
    have hnone : whitespace.all (fun c => decide (c ∉ ['\u00e9', '\u0301', 'e'])) = true := by decide
    have hinert : accents.Inert w :=
      accents_inert (of_decide_eq_true (List.all_eq_true.1 hnone w (List.contains_iff_mem.1 hw)))
    exact ⟨w, hinert, hinert.decompose⟩

theorem nul_between_accent : ¬Normalised pythonRuntime accents "e\x00\u0301" := by
  intro h
  exact absurd h.composed (by decide +kernel)

/-- Everything but the letter is white space or a NUL. -/
theorem accents_normalised :
    normalizeText pythonRuntime (nfc accents) " e\u0301\r\n\x00 " = "\u00e9" ∧
      (Normalised pythonRuntime accents " e\u0301\r\n\x00 " ↔
        PartsApart accents " e\u0301\r\n\x00 ") :=
  ⟨by decide +kernel, normalised_iff accents_plain _⟩

end Sample

end PaperGrading
