import Mathlib.Data.List.Sort
import Mathlib.Data.List.Infix

/-!
# The highlighted block

`HighlightedBlock` searches each quote in the text of a block, sorts what it found by position and
cuts the text in one pass, past every range that begins before the cursor.

    the parts make up the text                                          (flatten_parts)
    a highlighted part is a quote at its first occurrence               (highlights_first)
    a highlighted part ends before the next one begins                  (highlights_disjoint)
-/

namespace PaperGrading

/-- A string of the frontend: its UTF-16 code units. -/
abbrev JsString := List UInt16

namespace HighlightedBlock

/-- `text.indexOf(quote)`, `none` for -1. -/
def indexOf (text quote : JsString) : Option Nat :=
  (List.range (text.length + 1)).find? fun i => quote.isPrefixOf (text.drop i)

/-- `text.slice(start, stop)` -/
def slice (text : JsString) (start stop : Nat) : JsString := (text.drop start).take (stop - start)

structure QuoteRange where
  quote : JsString
  start : Nat
  deriving DecidableEq

structure BlockPart where
  text : JsString
  highlighted : Bool
  deriving DecidableEq

/-- The quotes that occur, by position; the sort is stable. -/
def ranges (text : JsString) (evidence : List JsString) : List QuoteRange :=
  (evidence.filterMap fun quote => (indexOf text quote).map (⟨quote, ·⟩)).insertionSort
    fun left right => left.start ≤ right.start

/-- The loop over the ranges and the rest after the last one. -/
def cut (text : JsString) : Nat → List QuoteRange → List BlockPart
  | cursor, [] =>
    if cursor < text.length then [⟨slice text cursor text.length, false⟩] else []
  | cursor, range :: rest =>
    if range.start < cursor then cut text cursor rest
    else
      (if cursor < range.start then [⟨slice text cursor range.start, false⟩] else []) ++
        ⟨range.quote, true⟩ :: cut text (range.start + range.quote.length) rest

/-- The parts that are rendered. -/
def parts (text : JsString) (evidence : List JsString) : List BlockPart :=
  cut text 0 (ranges text evidence)

/-! ## Positions -/

/-- The highlighted parts with the position where each begins. -/
def highlights : Nat → List BlockPart → List (Nat × JsString)
  | _, [] => []
  | position, part :: rest =>
    (if part.highlighted then [(position, part.text)] else []) ++
      highlights (position + part.text.length) rest

/-- The quote occurs at the position and nowhere before it. -/
def FirstOccurrence (text quote : JsString) (position : Nat) : Prop :=
  position ≤ text.length ∧ quote <+: text.drop position ∧
    ∀ i < position, ¬quote <+: text.drop i

theorem indexOf_eq_some {text quote : JsString} {i : Nat} :
    indexOf text quote = some i ↔ FirstOccurrence text quote i := by
  unfold indexOf FirstOccurrence
  rw [List.find?_range_eq_some]
  simp only [List.isPrefixOf_iff_prefix, Bool.not_eq_true', List.mem_range, Nat.lt_succ_iff,
    ← Bool.not_eq_true]
  exact and_left_comm

theorem mem_ranges {text : JsString} {evidence : List JsString} {r : QuoteRange} :
    r ∈ ranges text evidence ↔ r.quote ∈ evidence ∧ FirstOccurrence text r.quote r.start := by
  unfold ranges
  rw [List.mem_insertionSort, List.mem_filterMap]
  simp only [Option.map_eq_some_iff, indexOf_eq_some]
  constructor
  · rintro ⟨quote, hquote, start, hfirst, rfl⟩
    exact ⟨hquote, hfirst⟩
  · rintro ⟨hquote, hfirst⟩
    exact ⟨r.quote, hquote, r.start, hfirst, rfl⟩

/-! ## The loop -/

variable {text : JsString}

theorem slice_append_drop {start stop : Nat} (h : start ≤ stop) :
    slice text start stop ++ text.drop stop = text.drop start := by
  unfold slice
  have : text.drop stop = (text.drop start).drop (stop - start) := by
    rw [List.drop_drop]
    congr 1
    omega
  rw [this, List.take_append_drop]

theorem length_slice {start stop : Nat} (hstop : stop ≤ text.length) :
    (slice text start stop).length = stop - start := by
  unfold slice
  rw [List.length_take, List.length_drop]
  omega

/-- What the quote at a position leaves of the text. -/
theorem quote_append_drop {quote : JsString} {start : Nat} (h : quote <+: text.drop start) :
    quote ++ text.drop (start + quote.length) = text.drop start := by
  rw [← List.drop_drop]
  exact List.prefix_iff_eq_append.1 h

theorem end_le_length {quote : JsString} {start : Nat} (hle : start ≤ text.length)
    (h : quote <+: text.drop start) : start + quote.length ≤ text.length := by
  have := h.length_le
  rw [List.length_drop] at this
  omega

/-- The part before a range, if there is any. -/
def gap (text : JsString) (cursor start : Nat) : List BlockPart :=
  if cursor < start then [⟨slice text cursor start, false⟩] else []

theorem flatten_gap {cursor start : Nat} (h : cursor ≤ start) :
    ((gap text cursor start).map (·.text)).flatten ++ text.drop start = text.drop cursor := by
  unfold gap
  split
  · simpa using slice_append_drop h
  · have : cursor = start := by omega
    simp [this]

theorem highlights_gap {cursor start : Nat} (h : cursor ≤ start) (hstart : start ≤ text.length)
    (l : List BlockPart) : highlights cursor (gap text cursor start ++ l) = highlights start l := by
  unfold gap
  split
  · have : cursor + (start - cursor) = start := by omega
    simp [highlights, length_slice hstart, this]
  · have : cursor = start := by omega
    simp [this]

theorem cut_cons {cursor : Nat} {range : QuoteRange} {rest : List QuoteRange}
    (h : cursor ≤ range.start) : cut text cursor (range :: rest) =
      gap text cursor range.start ++
        ⟨range.quote, true⟩ :: cut text (range.start + range.quote.length) rest := by
  unfold gap
  rw [cut, if_neg (by omega)]

theorem flatten_cut {rs : List QuoteRange} (hrs : ∀ r ∈ rs, FirstOccurrence text r.quote r.start)
    {cursor : Nat} (hcursor : cursor ≤ text.length) :
    ((cut text cursor rs).map (·.text)).flatten = text.drop cursor := by
  induction rs generalizing cursor with
  | nil =>
    unfold cut
    split
    · simp [slice]
    · rw [List.drop_eq_nil_of_le (by omega)]
      rfl
  | cons r rs ih =>
    rw [List.forall_mem_cons] at hrs
    obtain ⟨⟨hle, hstarts, -⟩, hrest⟩ := hrs
    rcases Nat.lt_or_ge r.start cursor with hskip | hkeep
    · rw [cut, if_pos hskip]
      exact ih hrest hcursor
    · rw [cut_cons hkeep, List.map_append, List.flatten_append, List.map_cons, List.flatten_cons,
        ih hrest (end_le_length hle hstarts), quote_append_drop hstarts, flatten_gap hkeep]

/-- What is highlighted from the cursor on: ranges, each from the end of the one before. -/
theorem highlights_cut {rs : List QuoteRange}
    (hrs : ∀ r ∈ rs, FirstOccurrence text r.quote r.start) {cursor : Nat} :
    (∀ x ∈ highlights cursor (cut text cursor rs), cursor ≤ x.1 ∧ ⟨x.2, x.1⟩ ∈ rs) ∧
      (highlights cursor (cut text cursor rs)).Pairwise fun x y => x.1 + x.2.length ≤ y.1 := by
  induction rs generalizing cursor with
  | nil =>
    unfold cut
    split <;> simp [highlights]
  | cons r rs ih =>
    rw [List.forall_mem_cons] at hrs
    rcases Nat.lt_or_ge r.start cursor with hskip | hkeep
    · rw [cut, if_pos hskip]
      obtain ⟨hmem, hpair⟩ := @ih hrs.2 cursor
      exact ⟨fun x hx => ⟨(hmem x hx).1, List.mem_cons_of_mem _ (hmem x hx).2⟩, hpair⟩
    · rw [cut_cons hkeep, highlights_gap hkeep hrs.1.1]
      obtain ⟨hmem, hpair⟩ := @ih hrs.2 (r.start + r.quote.length)
      simp only [highlights, if_true, List.singleton_append, List.forall_mem_cons,
        List.pairwise_cons]
      refine ⟨⟨⟨hkeep, List.mem_cons_self⟩, fun x hx => ?_⟩, fun x hx => (hmem x hx).1, hpair⟩
      exact ⟨by have := (hmem x hx).1; omega, List.mem_cons_of_mem _ (hmem x hx).2⟩

/-! ## The block -/

theorem flatten_parts (text : JsString) (evidence : List JsString) :
    ((parts text evidence).map (·.text)).flatten = text :=
  flatten_cut (fun _ hr => (mem_ranges.1 hr).2) (Nat.zero_le _)

theorem highlights_first {evidence : List JsString} {x : Nat × JsString}
    (hx : x ∈ highlights 0 (parts text evidence)) :
    x.2 ∈ evidence ∧ FirstOccurrence text x.2 x.1 := by
  have hranges : ∀ r ∈ ranges text evidence, FirstOccurrence text r.quote r.start :=
    fun r hr => (mem_ranges.1 hr).2
  have hmem := (highlights_cut hranges).1 x hx
  exact mem_ranges.1 hmem.2

theorem highlights_disjoint (text : JsString) (evidence : List JsString) :
    (highlights 0 (parts text evidence)).Pairwise fun x y => x.1 + x.2.length ≤ y.1 :=
  (highlights_cut fun _ hr => (mem_ranges.1 hr).2).2

/-- **The rendered parts make up the block text; the highlighted ones are quotes, each at its first
occurrence and each from the end of the one before.** -/
theorem parts_correct (text : JsString) (evidence : List JsString) :
    ((parts text evidence).map (·.text)).flatten = text ∧
      (∀ x ∈ highlights 0 (parts text evidence),
        x.2 ∈ evidence ∧ FirstOccurrence text x.2 x.1) ∧
      (highlights 0 (parts text evidence)).Pairwise fun x y => x.1 + x.2.length ≤ y.1 :=
  ⟨flatten_parts text evidence, fun _ => highlights_first, highlights_disjoint text evidence⟩

/-- `abcab` with `bc` twice, `ca`, `ab`, which overlaps `bc`, and a quote that is not there. -/
example : parts [1, 2, 3, 1, 2] [[2, 3], [2, 3], [3, 1], [1, 2], [9]] =
    [⟨[1, 2], true⟩, ⟨[3, 1], true⟩, ⟨[2], false⟩] := by decide +kernel

end HighlightedBlock

end PaperGrading
