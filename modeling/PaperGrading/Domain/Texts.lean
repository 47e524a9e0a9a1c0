import PaperGrading.Domain.Values
import Mathlib.Data.List.DropRight
import Mathlib.Data.List.TakeWhile

/-!
# The characters of a text

The database reads the bytes of a text, the model its characters.

    btrimEmpty s = true ↔ every character of s is a space                (btrimEmpty_iff)
    hasNul s = false ↔ no character of s is the NUL                      (hasNul_eq_false)
    strip is idempotent                                                     (strip_strip)
-/

namespace PaperGrading

theorem append_inj_of_toList {s s' t t' : String} (h : s ++ t = s' ++ t')
    (hlength : t.toList.length = t'.toList.length) : s = s' ∧ t = t' := by
  have h := congrArg String.toList h
  rw [String.toList_append, String.toList_append] at h
  obtain ⟨hs, ht⟩ := List.append_inj' h hlength
  exact ⟨String.toList_injective hs, String.toList_injective ht⟩

theorem bytes_eq (s : String) :
    s.toByteArray.data.toList = s.toList.flatMap String.utf8EncodeChar := by
  rw [← String.utf8Encode_toList, List.utf8Encode]
  simp

theorem ofNat_eq_byte {n b : Nat} (hb : b < 256) (h : UInt8.ofNat n = UInt8.ofNat b) :
    n % 256 = b := by
  have := congrArg UInt8.toNat h
  rwa [UInt8.toNat_ofNat', UInt8.toNat_ofNat', Nat.mod_eq_of_lt hb] at this

/-! ## Blank texts -/

theorem utf8EncodeChar_space {c : Char} (h : ∀ b ∈ String.utf8EncodeChar c, b = 32) : c = ' ' := by
  have hbyte : ∀ n : Nat, UInt8.ofNat n = 32 → n % 256 = 32 :=
    fun n hn => ofNat_eq_byte (by omega) hn
  have hval : c.val.toNat = 32 := by
    unfold String.utf8EncodeChar at h
    dsimp only at h
    -- the first byte of a longer sequence is at least 192
    split at h
    next => have := hbyte _ (h _ List.mem_cons_self); omega
    split at h
    next => have := hbyte _ (h _ List.mem_cons_self); omega
    split at h
    next => have := hbyte _ (h _ List.mem_cons_self); omega
    next => have := hbyte _ (h _ List.mem_cons_self); omega
  exact Char.ext (UInt32.toNat_inj.1 hval)

theorem btrimEmpty_iff {s : String} : btrimEmpty s = true ↔ ∀ c ∈ s.toList, c = ' ' := by
  unfold btrimEmpty
  rw [bytes_eq, List.all_eq_true]
  simp only [List.mem_flatMap, forall_exists_index, and_imp, beq_iff_eq]
  constructor
  · exact fun h c hc => utf8EncodeChar_space fun b hb => h b c hc hb
  · intro h b c hc hb
    rw [h c hc] at hb
    exact List.mem_singleton.1 hb

/-- Python's `strip` removes the space. -/
theorem not_btrimEmpty {env : Runtime} (hspace : env.isSpace ' ' = true) {s : String}
    (h : (!(env.strip s).isEmpty) = true) : btrimEmpty s = false := by
  rw [Bool.eq_false_iff]
  intro hb
  have hdrop : s.toList.dropWhile env.isSpace = [] :=
    List.dropWhile_eq_nil_iff.2 fun c hc => by rw [btrimEmpty_iff.1 hb c hc, hspace]
  have hstrip : env.strip s = "" := by
    unfold Runtime.strip
    rw [hdrop]
    rfl
  rw [hstrip] at h
  exact absurd h (by decide)

/-! ## The NUL -/

theorem zero_mem_utf8EncodeChar {c : Char} (h : 0 ∈ String.utf8EncodeChar c) : c = '\x00' := by
  have hbyte : ∀ n : Nat, 0 = UInt8.ofNat n → n % 256 = 0 :=
    fun n hn => ofNat_eq_byte (by omega) hn.symm
  have hval : c.val.toNat = 0 := by
    unfold String.utf8EncodeChar at h
    dsimp only at h
    -- every byte of a longer sequence is at least 128
    split at h
    next =>
      have := hbyte _ (List.mem_singleton.1 h)
      omega
    split at h
    next =>
      simp only [List.mem_cons, List.not_mem_nil, or_false] at h
      rcases h with h | h <;> have := hbyte _ h <;> omega
    split at h
    next =>
      simp only [List.mem_cons, List.not_mem_nil, or_false] at h
      rcases h with h | h | h <;> have := hbyte _ h <;> omega
    next =>
      simp only [List.mem_cons, List.not_mem_nil, or_false] at h
      rcases h with h | h | h | h <;> have := hbyte _ h <;> omega
  exact Char.ext (UInt32.toNat_inj.1 hval)

theorem hasNul_eq_false {s : String} : hasNul s = false ↔ '\x00' ∉ s.toList := by
  unfold hasNul
  rw [bytes_eq, List.any_eq_false]
  simp only [List.mem_flatMap, forall_exists_index, and_imp, beq_iff_eq]
  constructor
  · intro h hmem
    exact h 0 _ hmem (by decide) rfl
  · rintro h b c hc hb rfl
    rw [zero_mem_utf8EncodeChar hb] at hc
    exact h hc

/-! ## `strip` -/

theorem toList_strip (env : Runtime) (s : String) :
    (env.strip s).toList = (s.toList.dropWhile env.isSpace).rdropWhile env.isSpace :=
  String.toList_ofList

theorem strip_strip (env : Runtime) (s : String) : env.strip (env.strip s) = env.strip s := by
  apply String.toList_injective
  rw [toList_strip, toList_strip]
  generalize hm : s.toList.dropWhile env.isSpace = m
  have hleft : m.dropWhile env.isSpace = m := by
    rw [← hm]
    exact List.dropWhile_idempotent _ _
  -- what is left of `m` starts as `m` does
  have hstarts : (m.rdropWhile env.isSpace).dropWhile env.isSpace = m.rdropWhile env.isSpace := by
    rw [List.dropWhile_eq_self_iff] at hleft ⊢
    intro hpos
    have hle := (List.rdropWhile_prefix env.isSpace (l := m)).length_le
    have hhead := (List.rdropWhile_prefix env.isSpace (l := m)).getElem hpos
    rw [hhead]
    exact hleft (hpos.trans_le hle)
  rw [hstarts]
  exact List.rdropWhile_idempotent _ _

end PaperGrading
