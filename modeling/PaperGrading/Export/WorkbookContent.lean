import PaperGrading.Export.Workbook
import PaperGrading.Base.Table
import PaperGrading.Domain.CanonicalJson
import PaperGrading.Store.Commits

/-!
# What a workbook shows

The content of each row in terms of the frozen snapshot, and how a saved cell shows it.

    the sheets hold the content of the snapshot, row by row                       (writeSheets_holds)
    every number is read back as the frozen decimal                             (read_of_checkSaved)
    the workbook shows the snapshot iff no text of the full length begins like a formula  (shown_iff)
-/

namespace PaperGrading

namespace Workbook

/-! ## Content -/

/-- What a cell is to show.  A joined text consists of labelled parts. -/
inductive Content where
  | position (n : Nat)
  | number (d : Decimal)
  | text (s : String)
  | joined (separator : String) (parts : List (String × String))
  | fixed (s : String)
  | flag (b : Bool)
  | blank

/-- The value that is appended for a content. -/
def Content.written : Content → Cell
  | .position n => .int n
  | .number d => .number d
  | .text s => .text (protect s)
  | .joined separator parts =>
    .text (protect (separator.intercalate (parts.map fun p => p.1 ++ protect p.2)))
  | .fixed s => .text s
  | .flag b => .flag b
  | .blank => .blank

/-- What `_text` has checked of a content. -/
def Content.Fits : Content → Prop
  | .text s => s.length ≤ maxCellText
  | .joined separator parts =>
    (separator.intercalate (parts.map fun p => p.1 ++ protect p.2)).length ≤ maxCellText
  | _ => True

def blockIds (entries : List EvidenceEntry) : List (String × String) :=
  entries.map fun entry => ("", entry.blockId)

/-- The block ids of a row, or those of the result that name it. -/
def evidenceContent (result : ResultSnapshot) (targetType targetId : String)
    (evidence : List EvidenceEntry) : Content :=
  .joined "; " (blockIds
    (if "; ".intercalate (evidence.map (·.blockId)) = "" then
      result.evidence.filter fun entry =>
        entry.targetType == some targetType && entry.targetId == some targetId
    else evidence))

section

variable {env : Runtime} (s : WorkbookSnapshot env)

def summaryRow (item : WorkbookItem) : List Content :=
  [.position (item.position + 1), .text item.originalFilename, .text item.result.itemStatus,
    .fixed (sourceText item.sourceType), .fixed (confirmationText item.sourceType),
    .number item.result.subtotal, .number item.result.deductionTotal, .number item.result.finalScore,
    .number item.result.maxScore, .fixed (statusLabel s.exportType)]

def dimensionRow (item : WorkbookItem) (dimension : RubricDimension) (row : CriterionRow) :
    List Content :=
  [.position (item.position + 1), .text item.originalFilename, .fixed "dimension",
    .fixed dimension.id, .text dimension.name, .number dimension.maxScore, .number row.score, .blank,
    .text row.reason, evidenceContent item.result "dimension" dimension.id row.evidence]

def deductionRow (item : WorkbookItem) (deduction : RubricDeduction) (row : DeductionRow) :
    List Content :=
  [.position (item.position + 1), .text item.originalFilename, .fixed "deduction",
    .fixed deduction.id, .text deduction.name, .number deduction.points, .blank, .flag row.applied,
    .text row.reason, evidenceContent item.result "deduction" deduction.id row.evidence]

/-- One row for each dimension, then one for each deduction, in the order of the rubric. -/
def criteriaRows (item : WorkbookItem) : List (List Content) :=
  List.zipWith (dimensionRow item) s.rubric.rubric.dimensions item.result.criteria ++
    List.zipWith (deductionRow item) s.rubric.rubric.deductions item.result.deductions

def suggestionParts (result : ResultSnapshot) : List (String × String) :=
  result.criteria.flatMap fun row =>
    row.revisionSuggestions.map fun suggestion => (row.dimensionId ++ ": ", suggestion)

def feedbackRow (item : WorkbookItem) : List Content :=
  [.position (item.position + 1), .text item.originalFilename, .text item.result.overallFeedback,
    .joined "\n" (suggestionParts item.result), .text (item.result.changeReason.getD ""),
    .fixed (sourceText item.sourceType)]

def itemMetadataRows (item : WorkbookItem) : List (List Content) :=
  (itemMetadata item).map fun x => [.fixed (itemKey item x.1), .text x.2]

def batchMetadataRows (now : Time) : List (List Content) :=
  (batchRows s now).map fun x => [.fixed x.1, if x.2.1 then .text x.2.2 else .fixed x.2.2]

/-- The content of a sheet. -/
def content (now : Time) : SheetName → List (List Content)
  | .summary =>
    [[.fixed "导出状态", .fixed (statusLabel s.exportType)], summaryHeader.map .fixed] ++
      s.items.map (summaryRow s)
  | .criteria => criteriaHeader.map .fixed :: s.items.flatMap (criteriaRows s)
  | .feedback => feedbackHeader.map .fixed :: s.items.map feedbackRow
  | .metadata =>
    [.fixed "Key", .fixed "Value"] :: (batchMetadataRows s now ++ s.items.flatMap itemMetadataRows)

end

/-! ## How a cell shows its content -/

/-- The text itself, or behind an apostrophe that protects it. -/
def Protects (frozen shown : String) : Prop :=
  if startsFormula frozen then shown = "'" ++ frozen else shown = frozen

def Shows (lib : Openpyxl) : Content → Cell → Prop
  | .position n, .int m => m = n
  | .number d, .number e => ∃ actual, lib.readNumber e = some actual ∧ actual.toRat = d.toRat
  | .text s, .text t => Protects s t
  | .joined separator parts, .text t =>
    ∃ shown, List.Forall₂ (fun p u => Protects p.2 u) parts shown ∧
      t = separator.intercalate (List.zipWith (fun p u => p.1 ++ u) parts shown)
  | .fixed s, .text t => t = s
  | .flag b, .flag c => c = b
  | .blank, .blank => True
  | _, _ => False

/-- At most the length of a cell, and no formula prefix. -/
def Plain (t : String) : Prop := t.length ≤ maxCellText ∧ startsFormula t = false

instance (t : String) : Decidable (Plain t) :=
  inferInstanceAs (Decidable (_ ∧ _))

/-- What is promised of a saved workbook. -/
structure Shown {env : Runtime} (lib : Openpyxl) (s : WorkbookSnapshot env) (now : Time) (w : Sheets) :
    Prop where
  /-- each item has a result for every dimension and deduction, in the order of the rubric -/
  dimensions : ∀ item ∈ s.items,
    item.result.criteria.map (·.dimensionId) = s.rubric.rubric.dimensions.map (·.id)
  deductions : ∀ item ∈ s.items,
    item.result.deductions.map (·.deductionId) = s.rubric.rubric.deductions.map (·.id)
  rows : ∀ name,
    List.Forall₂ (List.Forall₂ (Shows lib)) (content s now name) (saveRows lib w name)
  texts : ∀ name, ∀ row ∈ saveRows lib w name, ∀ t, Cell.text t ∈ row → Plain t

/-- No text that stands in a cell of its own has the full length and begins like a formula. -/
def NoFullFormula {env : Runtime} (s : WorkbookSnapshot env) (now : Time) : Prop :=
  ∀ name, ∀ row ∈ content s now name, ∀ t, Content.text t ∈ row →
    ¬(t.length = maxCellText ∧ startsFormula t = true)

/-! ## Texts -/

theorem startsFormula_iff {s : String} :
    startsFormula s = true ↔ ∃ c, s.toList.head? = some c ∧ c ∈ formulaPrefixes := by
  unfold startsFormula
  cases s.toList with
  | nil => simp
  | cons c cs => simp

theorem text_eq_ok {s t : String} (h : text s = .ok t) : t = protect s ∧ s.length ≤ maxCellText := by
  unfold text at h
  split at h
  · cases h
  · next hlength =>
    split at h
    · cases h
    · cases h
      exact ⟨rfl, Nat.le_of_not_lt hlength⟩

theorem startsFormula_apostrophe (s : String) : startsFormula ("'" ++ s) = false := by
  unfold startsFormula
  rw [String.toList_append]
  rfl

theorem startsFormula_protect (s : String) : startsFormula (protect s) = false := by
  unfold protect
  split
  · exact startsFormula_apostrophe s
  · next h => simpa using h

theorem protects_protect (s : String) : Protects s (protect s) := by
  unfold Protects protect
  split <;> rfl

theorem decimal_eq_ok {d e : Decimal} (h : decimal d = .ok e) : e = d := by
  unfold decimal at h
  split at h
  · cases h
  · cases h
    rfl

theorem mapM_text_eq_ok {α : Type} {f : α → String} {l : List α} {ts : List String}
    (h : l.mapM (fun a => text (f a)) = .ok ts) : ts = l.map fun a => protect (f a) := by
  induction l generalizing ts with
  | nil =>
    cases h
    rfl
  | cons a l ih =>
    rw [List.mapM_cons] at h
    obtain ⟨t, ht, h⟩ := bind_eq_ok.1 h
    obtain ⟨us, hus, h⟩ := bind_eq_ok.1 h
    cases h
    rw [List.map_cons, (text_eq_ok ht).1, ih hus]

theorem protect_eq_empty {s : String} : protect s = "" ↔ s = "" := by
  unfold protect
  split
  · next h =>
    constructor
    · intro he
      rw [String.append_eq_empty_iff] at he
      exact absurd he.1 (by decide)
    · rintro rfl
      exact absurd h (by decide)
  · rfl

theorem intercalate_eq_empty {separator : String} (hs : separator ≠ "") {l : List String} :
    separator.intercalate l = "" ↔ l = [] ∨ l = [""] := by
  match l with
  | [] => simp
  | [t] => simp
  | t :: u :: l =>
    rw [String.intercalate_cons_cons, String.append_eq_empty_iff, String.append_eq_empty_iff]
    simp [hs]

theorem startsFormula_append {a b : String} (h : a ≠ "") :
    startsFormula (a ++ b) = startsFormula a := by
  unfold startsFormula
  rw [String.toList_append]
  cases ha : a.toList with
  | nil => exact absurd (String.toList_eq_nil_iff.1 ha) h
  | cons c cs => rfl

/-- A joined text begins like its first part, or like the separator. -/
theorem startsFormula_intercalate {separator : String} {l : List String}
    (hl : ∀ t ∈ l, startsFormula t = false)
    (hs : (∀ t ∈ l, t ≠ "") ∨ startsFormula separator = false) :
    startsFormula (separator.intercalate l) = false := by
  induction l with
  | nil => rfl
  | cons t l ih =>
    cases l with
    | nil =>
      rw [String.intercalate_singleton]
      exact hl t List.mem_cons_self
    | cons u l =>
      rw [String.intercalate_cons_cons, String.append_assoc]
      by_cases ht : t = ""
      · have hsep := hs.resolve_left fun h => h t List.mem_cons_self ht
        rw [ht, String.empty_append]
        by_cases he : separator = ""
        · rw [he, String.empty_append, ← he]
          exact ih (fun t ht => hl t (List.mem_cons_of_mem _ ht)) (.inr hsep)
        · rw [startsFormula_append he, hsep]
      · rw [startsFormula_append ht]
        exact hl t List.mem_cons_self

/-- An id of the contract begins with a lowercase letter. -/
theorem not_startsFormula_of_isContractId {s : String} (h : isContractId s = true) :
    startsFormula s = false ∧ s ≠ "" ∧ s.length ≤ 64 ∧ s.toList.head? ≠ some '\'' := by
  unfold isContractId at h
  unfold startsFormula
  rw [← String.length_toList, ne_eq, ← String.toList_eq_nil_iff]
  cases hs : s.toList with
  | nil => simp [hs] at h
  | cons c cs =>
    simp only [hs, Bool.and_eq_true, decide_eq_true_eq] at h
    obtain ⟨⟨hc, hlength⟩, -⟩ := h
    refine ⟨?_, List.cons_ne_nil c cs, Nat.succ_le_succ hlength, ?_⟩
    · rw [Bool.eq_false_iff, ne_eq, List.contains_iff_mem]
      intro hm
      simp only [formulaPrefixes, List.mem_cons, List.not_mem_nil, or_false] at hm
      rcases hm with rfl | rfl | rfl | rfl | rfl | rfl | rfl <;> exact absurd hc (by decide)
    · rw [List.head?_cons]
      rintro ⟨⟩
      exact absurd hc (by decide)

/-- A text that is written as an id of the contract is that id. -/
theorem eq_of_protect {s id : String} (hid : isContractId id = true) (h : protect s = id) : s = id := by
  unfold protect at h
  split at h
  · refine absurd ?_ (not_startsFormula_of_isContractId hid).2.2.2
    rw [← h, String.toList_append]
    rfl
  · exact h

/-! ## Rows in the order of writing -/

/-- A row with its sheet. -/
abbrev Entry := SheetName × List Content

def onSheet (name : SheetName) (log : List Entry) : List (List Content) :=
  log.filterMap fun x => if x.1 = name then some x.2 else none

/-- The numbers of a row, by column. -/
def numbersOf (row : List Content) : List (Nat × Decimal) :=
  row.zipIdx.filterMap fun x =>
    match x.1 with
    | .number d => some (x.2 + 1, d)
    | _ => none

/-- The sheets hold the rows of a log, and exactly their numbers are expected. -/
structure Holds (log : List Entry) (w : Sheets) : Prop where
  rows : ∀ name, w.rows name = (onSheet name log).map (·.map Content.written)
  fits : ∀ x ∈ log, ∀ c ∈ x.2, c.Fits
  expected : ∀ name r c d, ((name, r, c), d) ∈ w.expectations ↔
    ∃ i row, r = i + 1 ∧ (onSheet name log)[i]? = some row ∧ (c, d) ∈ numbersOf row

theorem onSheet_append (name : SheetName) (log log' : List Entry) :
    onSheet name (log ++ log') = onSheet name log ++ onSheet name log' :=
  List.filterMap_append

theorem onSheet_single (name name' : SheetName) (row : List Content) :
    onSheet name [(name', row)] = if name = name' then [row] else [] := by
  unfold onSheet
  by_cases h : name = name' <;> simp [h, eq_comm]

theorem onSheet_flatMap {α : Type} (name : SheetName) (f : α → List Entry) (l : List α) :
    onSheet name (l.flatMap f) = l.flatMap fun a => onSheet name (f a) := by
  induction l with
  | nil => rfl
  | cons a l ih => rw [List.flatMap_cons, List.flatMap_cons, onSheet_append, ih]

theorem onSheet_map {α : Type} (name name' : SheetName) (f : α → List Content) (l : List α) :
    onSheet name (l.map fun a => (name', f a)) = if name' = name then l.map f else [] := by
  unfold onSheet
  rw [List.filterMap_map]
  split
  · next h => simp [h]
  · next h => simp [h]

theorem mem_numbersOf {row : List Content} {c : Nat} {d : Decimal} :
    (c, d) ∈ numbersOf row ↔ ∃ j, c = j + 1 ∧ row[j]? = some (.number d) := by
  unfold numbersOf
  rw [List.mem_filterMap]
  constructor
  · rintro ⟨⟨x, j⟩, hx, h⟩
    rw [List.mem_zipIdx_iff_getElem?] at hx
    split at h
    · next d' hd =>
      cases h
      exact ⟨j, rfl, by rw [hx, ← hd]⟩
    · cases h
  · rintro ⟨j, rfl, h⟩
    exact ⟨(.number d, j), List.mem_zipIdx_iff_getElem?.2 h, rfl⟩

namespace Holds

variable {log : List Entry} {w : Sheets}

/-- **One appended row.** -/
theorem append (h : Holds log w) {name : SheetName} {row : List Content} {cells : List Cell}
    {numbers : List (Nat × Decimal)} (hcells : cells = row.map Content.written)
    (hnumbers : numbers = numbersOf row) (hfits : ∀ c ∈ row, c.Fits) :
    Holds (log ++ [(name, row)]) (w.append name cells numbers) := by
  subst hcells hnumbers
  have hlength : (w.rows name).length = (onSheet name log).length := by
    rw [h.rows name, List.length_map]
  refine ⟨fun n => ?_, fun x hx => ?_, fun n r c d => ?_⟩
  · rw [onSheet_append, onSheet_single]
    unfold Sheets.append
    by_cases hn : n = name <;> simp [hn, h.rows]
  · rcases List.mem_append.1 hx with hx | hx
    · exact h.fits x hx
    · rw [List.mem_singleton.1 hx]
      exact hfits
  · unfold Sheets.append
    rw [List.mem_append, h.expected n r c d, onSheet_append, onSheet_single, hlength]
    constructor
    · rintro (⟨i, row', rfl, hrow, hd⟩ | hnew)
      · refine ⟨i, row', rfl, ?_, hd⟩
        rw [List.getElem?_append_left (List.getElem?_eq_some_iff.1 hrow).1, hrow]
      · obtain ⟨y, hy, he⟩ := List.mem_map.1 hnew
        simp only [Prod.mk.injEq] at he
        obtain ⟨⟨rfl, rfl, rfl⟩, rfl⟩ := he
        exact ⟨(onSheet name log).length, row, rfl, by simp, hy⟩
    · rintro ⟨i, row', rfl, hrow, hd⟩
      rcases Nat.lt_or_ge i (onSheet n log).length with hi | hi
      · rw [List.getElem?_append_left hi] at hrow
        exact .inl ⟨i, row', rfl, hrow, hd⟩
      · rw [List.getElem?_append_right hi] at hrow
        split at hrow
        · next hn =>
          subst hn
          obtain ⟨hz, hrow⟩ := List.getElem?_eq_some_iff.1 hrow
          have hi' : i = (onSheet n log).length := by
            simp only [List.length_singleton] at hz
            omega
          subst hi'
          simp only [Nat.sub_self, List.getElem_singleton] at hrow
          exact .inr (List.mem_map.2 ⟨(c, d), hrow ▸ hd, rfl⟩)
        · simp at hrow

end Holds

/-! ## Checked results -/

/-- The entries of a table that a list of rows names, row by row. -/
theorem flatMap_find? {α β γ : Type} {key : α → String} {keyOf : β → String} (row : α → β → γ)
    {xs : List α} (hn : (xs.map key).Nodup) {ys : List β} (h : ys.map keyOf = xs.map key) :
    (ys.flatMap fun y => ((xs.find? (key · == keyOf y)).map (row · y)).toList) =
      List.zipWith row xs ys := by
  -- the rows that are left name the entries that are left, which the whole table finds
  suffices hsuffix : ∀ us : List α, (∀ u ∈ us, u ∈ xs) → ys.map keyOf = us.map key →
      (ys.flatMap fun y => ((xs.find? (key · == keyOf y)).map (row · y)).toList) =
        List.zipWith row us ys from hsuffix xs (fun _ hu => hu) h
  clear h
  induction ys with
  | nil => simp
  | cons y ys ih =>
    intro us hus h
    cases us with
    | nil => simp at h
    | cons u us =>
      rw [List.map_cons, List.map_cons] at h
      obtain ⟨hkey, hrest⟩ := List.cons.inj h
      rw [List.flatMap_cons, ih us (fun v hv => hus v (List.mem_cons_of_mem u hv)) hrest,
        Table.find?_eq_some_of_key hn (hus u List.mem_cons_self) _ (by simp [hkey])
          (fun v hv => by simpa [hkey] using hv)]
      rfl

theorem map_eq_of_protect {α : Type} {f : α → String} {l : List α} {ids : List String}
    (h : (l.map fun a => protect (f a)) = ids) (hids : ∀ id ∈ ids, isContractId id = true) :
    l.map f = ids := by
  subst h
  exact List.map_congr_left fun a ha => eq_of_protect (hids _ (List.mem_map_of_mem ha)) rfl ▸ rfl

section

variable {env : Runtime} {s : WorkbookSnapshot env}

/-- `_text` leaves the ids of the rubric as they are, so the rows name exactly those. -/
theorem ids_of_validateResult {item : WorkbookItem} {u : PUnit} (h : validateResult s item = .ok u) :
    item.result.criteria.map (·.dimensionId) = s.rubric.rubric.dimensions.map (·.id) ∧
      item.result.deductions.map (·.deductionId) = s.rubric.rubric.deductions.map (·.id) := by
  unfold validateResult at h
  simp only [bind_eq_ok, ensure_eq_ok, Bool.and_eq_true, decide_eq_true_eq] at h
  obtain ⟨_, -, _, -, _, -, _, -, ids, hids, ids', hids', h⟩ := h
  obtain ⟨_, -, _, -, _, -, _, -, _, -, _, -, _, -, _, -, _, hchecks, -⟩ := h
  obtain ⟨⟨⟨⟨⟨⟨hcriteria, hdeductions⟩, -⟩, -⟩, -⟩, -⟩, -⟩ := hchecks
  obtain ⟨hdimension, hdeduction⟩ := s.rubric.contractIds
  rw [mapM_text_eq_ok hids] at hcriteria
  rw [mapM_text_eq_ok hids'] at hdeductions
  refine ⟨map_eq_of_protect hcriteria fun id hid => ?_, map_eq_of_protect hdeductions fun id hid => ?_⟩
  · obtain ⟨dimension, hd, rfl⟩ := List.mem_map.1 hid
    exact hdimension dimension hd
  · obtain ⟨deduction, hd, rfl⟩ := List.mem_map.1 hid
    exact hdeduction deduction hd

theorem joined_blockIds {l : List EvidenceEntry} {ids : List String} {t : String}
    (hids : l.mapM (fun entry => text entry.blockId) = .ok ids)
    (ht : text ("; ".intercalate ids) = .ok t) :
    (Content.joined "; " (blockIds l)).written = .text t ∧
      (Content.joined "; " (blockIds l)).Fits := by
  have hparts : ((blockIds l).map fun p => p.1 ++ protect p.2) = ids := by
    rw [mapM_text_eq_ok hids]
    simp [blockIds, Function.comp_def]
  obtain ⟨rfl, hlength⟩ := text_eq_ok ht
  rw [← hparts] at hlength ⊢
  exact ⟨rfl, hlength⟩

theorem rowEvidence_eq_ok {result : ResultSnapshot} {targetType targetId : String}
    {evidence : List EvidenceEntry} {t : String}
    (h : rowEvidence result targetType targetId evidence = .ok t) :
    (evidenceContent result targetType targetId evidence).written = .text t ∧
      (evidenceContent result targetType targetId evidence).Fits := by
  have hempty : protect ("; ".intercalate (evidence.map fun entry => protect entry.blockId)) = "" ↔
      "; ".intercalate (evidence.map (·.blockId)) = "" := by
    rw [protect_eq_empty, intercalate_eq_empty (by decide), intercalate_eq_empty (by decide)]
    match evidence with
    | [] => simp
    | [entry] => simp [protect_eq_empty]
    | _ :: _ :: _ => simp
  unfold rowEvidence at h
  obtain ⟨ids, hids, h⟩ := bind_eq_ok.1 h
  obtain ⟨joined, hjoined, h⟩ := bind_eq_ok.1 h
  have heq : joined = "" ↔ "; ".intercalate (evidence.map (·.blockId)) = "" := by
    rw [(text_eq_ok hjoined).1, mapM_text_eq_ok hids, hempty]
  unfold evidenceContent
  split at h
  · next hnone =>
    rw [if_pos (heq.1 hnone)]
    unfold evidenceIds at h
    obtain ⟨ids', hids', h⟩ := bind_eq_ok.1 h
    exact joined_blockIds hids' h
  · next hsome =>
    cases h
    rw [if_neg fun he => hsome (heq.2 he)]
    exact joined_blockIds hids hjoined

/-! ## Rows of an item -/

/-- What one round of a loop adds, the loop adds for each item. -/
theorem foldlM_flatMap {ε σ α β : Type} {f : σ → α → Except ε σ} {C : α → List β}
    {I : List β → σ → Prop} {l : List α}
    (hstep : ∀ done a x y, a ∈ l → I done x → f x a = .ok y → I (done ++ C a) y)
    {done : List β} {x y : σ} (h : I done x) (hok : l.foldlM f x = .ok y) :
    I (done ++ l.flatMap C) y := by
  induction l generalizing done x with
  | nil =>
    cases hok
    rwa [List.flatMap_nil, List.append_nil]
  | cons a l ih =>
    rw [List.foldlM_cons] at hok
    obtain ⟨z, hz, hok⟩ := bind_eq_ok.1 hok
    have := ih (fun done b x y hb => hstep done b x y (List.mem_cons_of_mem a hb))
      (hstep done a x z List.mem_cons_self h hz) hok
    rwa [List.append_assoc] at this


theorem appendCriterion_eq_ok {item : WorkbookItem} {w w' : Sheets × List String} {row : CriterionRow}
    (h : appendCriterion s item w row = .ok w') :
    (∀ log, Holds log w.1 →
      Holds (log ++ ((s.rubric.rubric.dimensions.find? (·.id == row.dimensionId)).map fun dimension =>
        (SheetName.criteria, dimensionRow item dimension row)).toList) w'.1) ∧
      w'.2 = w.2 ++ row.revisionSuggestions.map fun value => row.dimensionId ++ ": " ++ protect value := by
  unfold appendCriterion at h
  split at h
  · cases h
  · next dimension hfind =>
    obtain ⟨ids, hids, h⟩ := bind_eq_ok.1 h
    obtain ⟨values, hvalues, h⟩ := bind_eq_ok.1 h
    obtain ⟨score, hscore, h⟩ := bind_eq_ok.1 h
    obtain ⟨filename, hfilename, h⟩ := bind_eq_ok.1 h
    obtain ⟨name, hname, h⟩ := bind_eq_ok.1 h
    obtain ⟨reason, hreason, h⟩ := bind_eq_ok.1 h
    cases h
    have hid : dimension.id = row.dimensionId := by simpa using List.find?_some hfind
    obtain ⟨hids, hfits⟩ := rowEvidence_eq_ok hids
    obtain ⟨rfl, hfilename⟩ := text_eq_ok hfilename
    obtain ⟨rfl, hname⟩ := text_eq_ok hname
    obtain ⟨rfl, hreason⟩ := text_eq_ok hreason
    obtain rfl := decimal_eq_ok hscore
    refine ⟨fun log hlog => ?_, by rw [mapM_text_eq_ok (f := id) hvalues]; simp⟩
    rw [hfind]
    show Holds (log ++ [(_, dimensionRow item dimension row)]) (w.1.append _ _ _)
    refine hlog.append ?_ rfl ?_
    · rw [← hid] at hids
      simp [dimensionRow, Content.written, ← hid, ← hids]
    · rw [← hid] at hfits
      simp only [dimensionRow, List.mem_cons, List.not_mem_nil, or_false]
      rintro c (rfl | rfl | rfl | rfl | rfl | rfl | rfl | rfl | rfl | rfl) <;> trivial

theorem appendDeduction_eq_ok {item : WorkbookItem} {w w' : Sheets} {row : DeductionRow}
    (h : appendDeduction s item w row = .ok w') {log : List Entry} (hlog : Holds log w) :
    Holds (log ++ ((s.rubric.rubric.deductions.find? (·.id == row.deductionId)).map fun deduction =>
      (SheetName.criteria, deductionRow item deduction row)).toList) w' := by
  unfold appendDeduction at h
  split at h
  · cases h
  · next deduction hfind =>
    obtain ⟨ids, hids, h⟩ := bind_eq_ok.1 h
    obtain ⟨filename, hfilename, h⟩ := bind_eq_ok.1 h
    obtain ⟨name, hname, h⟩ := bind_eq_ok.1 h
    obtain ⟨reason, hreason, h⟩ := bind_eq_ok.1 h
    cases h
    have hid : deduction.id = row.deductionId := by simpa using List.find?_some hfind
    obtain ⟨hids, hfits⟩ := rowEvidence_eq_ok hids
    obtain ⟨rfl, hfilename⟩ := text_eq_ok hfilename
    obtain ⟨rfl, hname⟩ := text_eq_ok hname
    obtain ⟨rfl, hreason⟩ := text_eq_ok hreason
    rw [hfind]
    show Holds (log ++ [(_, deductionRow item deduction row)]) (w.append _ _ _)
    refine hlog.append ?_ rfl ?_
    · rw [← hid] at hids
      simp [deductionRow, Content.written, ← hid, ← hids]
    · rw [← hid] at hfits
      simp only [deductionRow, List.mem_cons, List.not_mem_nil, or_false]
      rintro c (rfl | rfl | rfl | rfl | rfl | rfl | rfl | rfl | rfl | rfl) <;> trivial

/-- The rows of an item, in the order in which they are appended. -/
def itemLog (s : WorkbookSnapshot env) (item : WorkbookItem) : List Entry :=
  (.summary, summaryRow s item) :: ((criteriaRows s item).map (fun row => (.criteria, row)) ++
    [(.feedback, feedbackRow item)])

/-- **Each item gets its rows.** -/
theorem appendItem_eq_ok {item : WorkbookItem} {w w' : Sheets} (h : appendItem s w item = .ok w')
    {log : List Entry} (hlog : Holds log w) : Holds (log ++ itemLog s item) w' := by
  unfold appendItem at h
  obtain ⟨_, hvalid, h⟩ := bind_eq_ok.1 h
  obtain ⟨subtotal, hsubtotal, h⟩ := bind_eq_ok.1 h
  obtain ⟨deductionTotal, hdeductionTotal, h⟩ := bind_eq_ok.1 h
  obtain ⟨finalScore, hfinalScore, h⟩ := bind_eq_ok.1 h
  obtain ⟨maxScore, hmaxScore, h⟩ := bind_eq_ok.1 h
  obtain ⟨filename, hfilename, h⟩ := bind_eq_ok.1 h
  obtain ⟨status, hstatus, h⟩ := bind_eq_ok.1 h
  obtain ⟨⟨w₁, suggestions⟩, hcriteria, h⟩ := bind_eq_ok.1 h
  obtain ⟨w₂, hdeductions, h⟩ := bind_eq_ok.1 h
  obtain ⟨feedback, hfeedback, h⟩ := bind_eq_ok.1 h
  obtain ⟨joined, hjoined, h⟩ := bind_eq_ok.1 h
  obtain ⟨changeReason, hchangeReason, h⟩ := bind_eq_ok.1 h
  cases h
  obtain rfl := decimal_eq_ok hsubtotal
  obtain rfl := decimal_eq_ok hdeductionTotal
  obtain rfl := decimal_eq_ok hfinalScore
  obtain rfl := decimal_eq_ok hmaxScore
  obtain ⟨rfl, hfilename⟩ := text_eq_ok hfilename
  obtain ⟨rfl, hstatus⟩ := text_eq_ok hstatus
  obtain ⟨rfl, hfeedback⟩ := text_eq_ok hfeedback
  obtain ⟨rfl, hlength⟩ := text_eq_ok hjoined
  obtain ⟨rfl, hchangeReason⟩ := text_eq_ok hchangeReason
  have hsummary : ∀ c ∈ summaryRow s item, c.Fits := by
    simp only [summaryRow, List.mem_cons, List.not_mem_nil, or_false]
    rintro c (rfl | rfl | rfl | rfl | rfl | rfl | rfl | rfl | rfl | rfl) <;> trivial
  have h₁ : Holds (log ++ [(.summary, summaryRow s item)]) _ := hlog.append rfl rfl hsummary
  have h₂ := foldlM_flatMap (f := appendCriterion s item)
    (I := fun log (x : Sheets × List String) => Holds log x.1)
    (fun done row x y _ hx hy => (appendCriterion_eq_ok hy).1 done hx) h₁ hcriteria
  have h₃ := foldlM_flatMap (f := appendDeduction s item) (I := Holds)
    (fun done row x y _ hx hy => appendDeduction_eq_ok hy hx) h₂ hdeductions
  have hsuggestions := foldlM_flatMap (f := appendCriterion s item)
    (I := fun done (x : Sheets × List String) => x.2 = done)
    (fun done row x y _ hx hy => hx ▸ (appendCriterion_eq_ok hy).2) rfl hcriteria
  obtain ⟨hdimensionIds, hdeductionIds⟩ := ids_of_validateResult hvalid
  obtain ⟨hdimension, hdeduction⟩ := s.rubric.nodup
  rw [flatMap_find? (fun dimension row => (SheetName.criteria, dimensionRow item dimension row))
      hdimension hdimensionIds,
    flatMap_find? (fun deduction row => (SheetName.criteria, deductionRow item deduction row))
      hdeduction hdeductionIds] at h₃
  have hparts : ((suggestionParts item.result).map fun p => p.1 ++ protect p.2) = suggestions := by
    rw [show suggestions = _ from hsuggestions]
    simp [suggestionParts, List.map_flatMap, Function.comp_def]
  have hfits : ∀ c ∈ feedbackRow item, c.Fits := by
    rw [← hparts] at hlength
    simp only [feedbackRow, List.mem_cons, List.not_mem_nil, or_false]
    rintro c (rfl | rfl | rfl | rfl | rfl | rfl) <;> trivial
  subst hparts
  have h₄ : Holds (_ ++ [(.feedback, feedbackRow item)]) _ := h₃.append rfl rfl hfits
  show Holds _ (w₂.append .feedback ((feedbackRow item).map Content.written)
    (numbersOf (feedbackRow item)))
  simpa [itemLog, criteriaRows, List.map_zipWith] using h₄

/-! ## All rows -/

/-- The rows of a workbook, in the order in which they are appended. -/
def log (s : WorkbookSnapshot env) (now : Time) : List Entry :=
  [(.summary, [.fixed "导出状态", .fixed (statusLabel s.exportType)]),
      (.summary, summaryHeader.map .fixed), (.criteria, criteriaHeader.map .fixed),
      (.feedback, feedbackHeader.map .fixed)] ++ s.items.flatMap (itemLog s) ++
    [(.metadata, [.fixed "Key", .fixed "Value"])] ++
    (batchMetadataRows s now).map (fun row => (.metadata, row)) ++
    s.items.flatMap fun item => (itemMetadataRows item).map fun row => (.metadata, row)

theorem onSheet_itemLog (name : SheetName) (item : WorkbookItem) : onSheet name (itemLog s item) =
    match name with
    | .summary => [summaryRow s item]
    | .criteria => criteriaRows s item
    | .feedback => [feedbackRow item]
    | .metadata => [] := by
  have hmap := onSheet_map name .criteria id (criteriaRows s item)
  rw [List.map_id] at hmap
  show onSheet name ([(.summary, summaryRow s item)] ++ (_ ++ [(.feedback, feedbackRow item)])) = _
  rw [onSheet_append, onSheet_append, onSheet_single, onSheet_single]
  cases name <;> simp_all

theorem onSheet_log (now : Time) (name : SheetName) : onSheet name (log s now) = content s now name := by
  have hbatch := onSheet_map name .metadata id (batchMetadataRows s now)
  have hitem (item : WorkbookItem) := onSheet_map name .metadata id (itemMetadataRows item)
  simp only [List.map_id, id_eq] at hbatch hitem
  unfold log
  simp only [onSheet_append, onSheet_flatMap, onSheet_itemLog, hbatch, hitem]
  cases name <;> simp [onSheet, content, List.map_eq_flatMap]

theorem fits_fixed (texts : List String) : ∀ c ∈ texts.map Content.fixed, c.Fits := by
  intro c hc
  obtain ⟨t, -, rfl⟩ := List.mem_map.1 hc
  trivial

theorem started_holds : Holds [(.summary, [.fixed "导出状态", .fixed (statusLabel s.exportType)]),
    (.summary, summaryHeader.map .fixed), (.criteria, criteriaHeader.map .fixed),
    (.feedback, feedbackHeader.map .fixed)] (started s) := by
  have h₀ : Holds [] ⟨fun _ => [], []⟩ := ⟨fun _ => rfl, by simp, by simp [onSheet]⟩
  have h₁ : Holds (_ ++ [(.summary, [.fixed "导出状态", .fixed (statusLabel s.exportType)])]) _ :=
    h₀.append rfl rfl (fits_fixed ["导出状态", statusLabel s.exportType])
  have h₂ : Holds (_ ++ [(.summary, summaryHeader.map .fixed)]) _ :=
    h₁.append rfl rfl (fits_fixed summaryHeader)
  have h₃ : Holds (_ ++ [(.criteria, criteriaHeader.map .fixed)]) _ :=
    h₂.append rfl rfl (fits_fixed criteriaHeader)
  have h₄ : Holds (_ ++ [(.feedback, feedbackHeader.map .fixed)]) _ :=
    h₃.append rfl rfl (fits_fixed feedbackHeader)
  have hstarted : started s = Sheets.append (Sheets.append (Sheets.append (Sheets.append
      ⟨fun _ => [], []⟩ .summary [.text "导出状态", .text (statusLabel s.exportType)] [])
      .summary (summaryHeader.map .text) []) .criteria (criteriaHeader.map .text) [])
      .feedback (feedbackHeader.map .text) [] := by
    unfold started Sheets.append
    congr 1
    funext name
    cases name <;> rfl
  rw [hstarted]
  exact h₄

theorem appendBatchRow_eq_ok {w w' : Sheets} {x : String × Bool × String}
    (h : appendBatchRow w x = .ok w') {log : List Entry} (hlog : Holds log w) :
    Holds (log ++ [(.metadata, [.fixed x.1, if x.2.1 then .text x.2.2 else .fixed x.2.2])]) w' := by
  unfold appendBatchRow at h
  split at h
  · next hx =>
    obtain ⟨value, hvalue, h⟩ := bind_eq_ok.1 h
    cases h
    obtain ⟨rfl, hlength⟩ := text_eq_ok hvalue
    rw [if_pos hx]
    refine hlog.append rfl rfl fun c hc => ?_
    simp only [List.mem_cons, List.not_mem_nil, or_false] at hc
    rcases hc with rfl | rfl <;> trivial
  · next hx =>
    cases h
    rw [if_neg hx]
    exact hlog.append rfl rfl (fits_fixed [x.1, x.2.2])

theorem appendItemMetadata_eq_ok {w w' : Sheets} {item : WorkbookItem}
    (h : appendItemMetadata w item = .ok w') {log : List Entry} (hlog : Holds log w) :
    Holds (log ++ (itemMetadataRows item).map fun row => (.metadata, row)) w' := by
  have hstep := foldlM_flatMap (I := Holds)
    (C := fun x => [(.metadata, [.fixed (itemKey item x.1), .text x.2])])
    (fun done x w w' _ hw hx => by
      obtain ⟨value, hvalue, hx⟩ := bind_eq_ok.1 hx
      cases hx
      obtain ⟨rfl, hlength⟩ := text_eq_ok hvalue
      refine hw.append rfl rfl fun c hc => ?_
      simp only [List.mem_cons, List.not_mem_nil, or_false] at hc
      rcases hc with rfl | rfl <;> trivial) hlog h
  simpa [itemMetadataRows, List.map_eq_flatMap, List.flatMap_assoc] using hstep

/-- **The sheets hold the content of the snapshot.** -/
theorem writeSheets_holds {now : Time} {w : Sheets} (h : writeSheets s now = .ok w) :
    Holds (log s now) w := by
  unfold writeSheets at h
  obtain ⟨w₁, hitems, h⟩ := bind_eq_ok.1 h
  obtain ⟨w₂, hbatch, h⟩ := bind_eq_ok.1 h
  have h₁ := foldlM_flatMap (f := appendItem s) (I := Holds)
    (fun done item w w' _ hw hw' => appendItem_eq_ok hw' hw) started_holds hitems
  have h₂ : Holds (_ ++ [(.metadata, [.fixed "Key", .fixed "Value"])]) _ :=
    h₁.append rfl rfl (fits_fixed ["Key", "Value"])
  have h₃ := foldlM_flatMap (f := appendBatchRow) (I := Holds)
    (fun done x w w' _ hw hw' => appendBatchRow_eq_ok hw' hw) h₂ hbatch
  have h₄ := foldlM_flatMap (f := appendItemMetadata) (I := Holds)
    (fun done item w w' _ hw hw' => appendItemMetadata_eq_ok hw' hw) h₃ h
  simpa [log, batchMetadataRows, List.map_eq_flatMap, List.flatMap_assoc] using h₄

/-! ## Texts that are written as they are -/

theorem plain_of_isContractId {t : String} (h : isContractId t = true) : Plain t :=
  ⟨(not_startsFormula_of_isContractId h).2.2.1.trans (by decide),
    (not_startsFormula_of_isContractId h).1⟩

theorem plain_uuidText (u : Uuid) : Plain (uuidText u) := by
  refine ⟨by rw [← String.length_toList, length_uuidText]; decide, ?_⟩
  have hdigit : ∀ k < 16, formulaPrefixes.contains (Nat.digitChar k) = false := by decide
  have htext : ∃ rest, (uuidText u).toList = Nat.digitChar (u.toNat / 16 ^ 31 % 16) :: rest := by
    unfold uuidText hexFixed
    rw [String.toList_ofList]
    exact ⟨_, rfl⟩
  obtain ⟨rest, htext⟩ := htext
  unfold startsFormula
  rw [htext]
  exact hdigit _ (Nat.mod_lt _ (by decide))

theorem startsFormula_natText (n : Nat) : startsFormula (toString n) = false := by
  show startsFormula n.repr = false
  have hdigit (c : Char) (hc : c ∈ formulaPrefixes) : c.isDigit = false := by
    have hnone : formulaPrefixes.all (fun c => !c.isDigit) = true := by decide
    simpa using List.all_eq_true.1 hnone c hc
  unfold startsFormula
  cases htext : n.repr.toList with
  | nil => rfl
  | cons c cs =>
    rw [Bool.eq_false_iff, ne_eq, List.contains_iff_mem]
    intro hc
    have := Js.isDigit_natText (n := n) (htext ▸ List.mem_cons_self)
    rw [hdigit c hc] at this
    cases this

theorem plain_version (n : Fin (2 ^ 31)) : Plain (toString n.val) := by
  refine ⟨?_, startsFormula_natText n.val⟩
  have hlength : n.val.repr.length ≤ 10 :=
    (Nat.length_repr_le_iff (by decide)).2 (n.isLt.trans (by decide))
  exact hlength.trans (by decide)

theorem plain_itemKey {item : WorkbookItem} (h : item ∈ s.items) {x : String × String}
    (hx : x ∈ itemMetadata item) : Plain (itemKey item x.1) := by
  have hposition : item.position ∈ List.range s.items.length :=
    s.positions ▸ List.mem_map_of_mem h
  have hnumber : (item.position + 1).repr.length ≤ 3 := by
    rw [Nat.length_repr_le_iff (by decide)]
    have := List.mem_range.1 hposition
    have := s.limited
    omega
  have hkey : x.1.length ≤ 20 := by
    simp only [itemMetadata, List.mem_cons, List.not_mem_nil, or_false] at hx
    rcases hx with rfl | rfl | rfl | rfl | rfl <;> dsimp only <;> decide
  unfold itemKey
  refine ⟨?_, ?_⟩
  · simp only [String.length_append, show "item.".length = 5 from rfl, show ".".length = 1 from rfl,
      show maxCellText = 32767 from rfl]
    have : (toString (item.position + 1)).length ≤ 3 := hnumber
    omega
  · rw [String.append_assoc, String.append_assoc, startsFormula_append (by decide)]
    rfl

theorem plain_sourceText (t : SourceType) : Plain (sourceText t) ∧ Plain (confirmationText t) := by
  cases t <;> decide

theorem plain_statusLabel (t : ExportType) : Plain (statusLabel t) ∧ Plain (exportTypeText t) := by
  cases t <;> decide

/-- What is written without `_text`, and what is joined, can stand in a cell as it is. -/
def Content.Calm : Content → Prop
  | .fixed t => Plain t
  | .joined separator parts =>
    startsFormula (separator.intercalate (parts.map fun p => p.1 ++ protect p.2)) = false
  | _ => True

theorem calm_evidenceContent (result : ResultSnapshot) (targetType targetId : String)
    (evidence : List EvidenceEntry) :
    (evidenceContent result targetType targetId evidence).Calm := by
  unfold evidenceContent Content.Calm blockIds
  refine startsFormula_intercalate (fun t ht => ?_) (.inr rfl)
  simp only [List.map_map, List.mem_map, Function.comp_apply, String.empty_append] at ht
  obtain ⟨entry, -, rfl⟩ := ht
  exact startsFormula_protect entry.blockId

/-- A suggestion stands behind the id of its dimension. -/
theorem calm_suggestionParts {item : WorkbookItem}
    (h : ∀ row ∈ item.result.criteria, isContractId row.dimensionId = true) :
    (Content.joined "\n" (suggestionParts item.result)).Calm := by
  have hpart : ∀ t ∈ (suggestionParts item.result).map (fun p => p.1 ++ protect p.2),
      startsFormula t = false ∧ t ≠ "" := by
    intro t ht
    simp only [suggestionParts, List.mem_map, List.mem_flatMap] at ht
    obtain ⟨-, ⟨row, hrow, suggestion, -, rfl⟩, rfl⟩ := ht
    obtain ⟨hformula, hempty, -⟩ := not_startsFormula_of_isContractId (h row hrow)
    dsimp only
    rw [String.append_assoc]
    refine ⟨by rw [startsFormula_append hempty, hformula], fun he => hempty ?_⟩
    exact (String.append_eq_empty_iff.1 he).1
  exact startsFormula_intercalate (fun t ht => (hpart t ht).1) (.inl fun t ht => (hpart t ht).2)

theorem calm_fixed {texts : List String} (h : ∀ t ∈ texts, Plain t) :
    ∀ c ∈ texts.map Content.fixed, c.Calm := by
  intro c hc
  obtain ⟨t, ht, rfl⟩ := List.mem_map.1 hc
  exact h t ht

theorem mem_zipWith {α β γ : Type} {f : α → β → γ} {xs : List α} {ys : List β} {z : γ}
    (h : z ∈ List.zipWith f xs ys) : ∃ x ∈ xs, ∃ y ∈ ys, z = f x y := by
  rw [← List.map_uncurry_zip_eq_zipWith] at h
  obtain ⟨⟨x, y⟩, hxy, rfl⟩ := List.mem_map.1 h
  exact ⟨x, (List.of_mem_zip hxy).1, y, (List.of_mem_zip hxy).2, rfl⟩

theorem calm_criteriaRows {item : WorkbookItem} :
    ∀ row ∈ criteriaRows s item, ∀ c ∈ row, c.Calm := by
  obtain ⟨hdimension, hdeduction⟩ := s.rubric.contractIds
  intro row hrow c hc
  rcases List.mem_append.1 hrow with hrow | hrow
  · obtain ⟨dimension, hmem, result, -, rfl⟩ := mem_zipWith hrow
    have hkind : Plain "dimension" := by decide
    have hid : Plain dimension.id := plain_of_isContractId (hdimension dimension hmem)
    have hids := calm_evidenceContent item.result "dimension" dimension.id result.evidence
    simp only [dimensionRow, List.mem_cons, List.not_mem_nil, or_false] at hc
    rcases hc with rfl | rfl | rfl | rfl | rfl | rfl | rfl | rfl | rfl | rfl <;> trivial
  · obtain ⟨deduction, hmem, result, -, rfl⟩ := mem_zipWith hrow
    have hkind : Plain "deduction" := by decide
    have hid : Plain deduction.id := plain_of_isContractId (hdeduction deduction hmem)
    have hids := calm_evidenceContent item.result "deduction" deduction.id result.evidence
    simp only [deductionRow, List.mem_cons, List.not_mem_nil, or_false] at hc
    rcases hc with rfl | rfl | rfl | rfl | rfl | rfl | rfl | rfl | rfl | rfl <;> trivial

theorem calm_summaryRow (item : WorkbookItem) : ∀ c ∈ summaryRow s item, c.Calm := by
  intro c hc
  obtain ⟨hsource, hconfirmation⟩ := plain_sourceText item.sourceType
  obtain ⟨hstatus, -⟩ := plain_statusLabel s.exportType
  simp only [summaryRow, List.mem_cons, List.not_mem_nil, or_false] at hc
  rcases hc with rfl | rfl | rfl | rfl | rfl | rfl | rfl | rfl | rfl | rfl <;> trivial

theorem calm_feedbackRow {item : WorkbookItem}
    (h : ∀ row ∈ item.result.criteria, isContractId row.dimensionId = true) :
    ∀ c ∈ feedbackRow item, c.Calm := by
  intro c hc
  obtain ⟨hsource, -⟩ := plain_sourceText item.sourceType
  have hsuggestions := calm_suggestionParts h
  simp only [feedbackRow, List.mem_cons, List.not_mem_nil, or_false] at hc
  rcases hc with rfl | rfl | rfl | rfl | rfl | rfl <;> trivial

/-- A value of the batch that `_text` does not see has a form of its own. -/
theorem plain_batchRows {now : Time} (hiso : ∀ t, Plain (env.isoformat t)) :
    ∀ x ∈ batchRows s now, Plain x.1 ∧ (x.2.1 = false → Plain x.2.2) := by
  have hschema : Plain s.workbookSchemaVersion := by
    rw [s.versioned]
    decide
  have hchecked {t : String} : true = false → Plain t := nofun
  simp only [batchRows, List.forall_mem_cons]
  refine ⟨⟨by decide, fun _ => plain_uuidText s.exportId⟩,
    ⟨by decide, fun _ => (plain_statusLabel s.exportType).2⟩,
    ⟨by decide, fun _ => hiso s.snapshotAt⟩, ⟨by decide, fun _ => hiso now⟩,
    ⟨by decide, fun _ => plain_uuidText s.batch.assignmentId⟩,
    ⟨by decide, fun _ => plain_uuidText s.batch.gradingJobId⟩, ⟨by decide, hchecked⟩,
    ⟨by decide, fun _ => plain_uuidText s.batch.rubricVersionId⟩,
    ⟨by decide, fun _ => plain_version s.batch.rubricVersion⟩,
    ⟨by decide, fun _ => plain_uuidText s.batch.providerConfigId⟩,
    ⟨by decide, fun _ => plain_version s.batch.providerConfigVersion⟩, ⟨by decide, hchecked⟩,
    ⟨by decide, hchecked⟩, ⟨by decide, hchecked⟩, ⟨by decide, hchecked⟩,
    ⟨by decide, fun _ => hschema⟩, ?_⟩
  exact fun x hx => absurd hx List.not_mem_nil

theorem calm_batchMetadataRows {now : Time} (hiso : ∀ t, Plain (env.isoformat t)) :
    ∀ row ∈ batchMetadataRows s now, ∀ c ∈ row, c.Calm := by
  intro row hrow c hc
  obtain ⟨x, hx, rfl⟩ := List.mem_map.1 hrow
  obtain ⟨hkey, hvalue⟩ := plain_batchRows hiso x hx
  simp only [List.mem_cons, List.not_mem_nil, or_false] at hc
  rcases hc with rfl | rfl
  · exact hkey
  · split
    · trivial
    · next hchecked => exact hvalue (by simpa using hchecked)

theorem calm_itemMetadataRows {item : WorkbookItem} (h : item ∈ s.items) :
    ∀ row ∈ itemMetadataRows item, ∀ c ∈ row, c.Calm := by
  intro row hrow c hc
  obtain ⟨x, hx, rfl⟩ := List.mem_map.1 hrow
  have hkey := plain_itemKey h hx
  simp only [List.mem_cons, List.not_mem_nil, or_false] at hc
  rcases hc with rfl | rfl <;> trivial

theorem calm_content {now : Time} (hiso : ∀ t, Plain (env.isoformat t))
    (hids : ∀ item ∈ s.items,
      item.result.criteria.map (·.dimensionId) = s.rubric.rubric.dimensions.map (·.id)) :
    ∀ name, ∀ row ∈ content s now name, ∀ c ∈ row, c.Calm := by
  have hcontract : ∀ item ∈ s.items, ∀ row ∈ item.result.criteria,
      isContractId row.dimensionId = true := by
    intro item hitem row hrow
    have hid := List.mem_map_of_mem (f := (·.dimensionId)) hrow
    rw [hids item hitem] at hid
    obtain ⟨dimension, hd, he⟩ := List.mem_map.1 hid
    exact he ▸ s.rubric.contractIds.1 dimension hd
  intro name row hrow
  cases name with
  | summary =>
    simp only [content, List.mem_append, List.mem_cons, List.not_mem_nil, or_false, List.mem_map] at hrow
    rcases hrow with (rfl | rfl) | ⟨item, -, rfl⟩
    · have hstatus := (plain_statusLabel s.exportType).1
      have hlabel : Plain "导出状态" := by decide
      have hboth : ∀ t ∈ ["导出状态", statusLabel s.exportType], Plain t := by simp [hstatus, hlabel]
      exact calm_fixed hboth
    · exact calm_fixed (by decide)
    · exact calm_summaryRow item
  | criteria =>
    simp only [content, List.mem_cons, List.mem_flatMap] at hrow
    rcases hrow with rfl | ⟨item, -, hrow⟩
    · exact calm_fixed (by decide)
    · exact calm_criteriaRows row hrow
  | feedback =>
    simp only [content, List.mem_cons, List.mem_map] at hrow
    rcases hrow with rfl | ⟨item, hitem, rfl⟩
    · exact calm_fixed (by decide)
    · exact calm_feedbackRow (hcontract item hitem)
  | metadata =>
    simp only [content, List.mem_cons, List.mem_append, List.mem_flatMap] at hrow
    rcases hrow with rfl | hrow | ⟨item, hitem, hrow⟩
    · have hheader : ∀ t ∈ ["Key", "Value"], Plain t := by decide
      exact calm_fixed hheader
    · exact calm_batchMetadataRows hiso row hrow
    · exact calm_itemMetadataRows hitem row hrow

end

/-! ## Saved cells -/

section

variable {lib : Openpyxl} (hlib : lib.Truncates)
include hlib

theorem cellText_of_le {t : String} (h : t.length ≤ maxCellText) : lib.cellText t = t := by
  rw [hlib t, List.take_of_length_le (by rwa [String.length_toList]), String.ofList_toList]

theorem plain_cellText {t : String} (h : startsFormula t = false) : Plain (lib.cellText t) := by
  rw [hlib t]
  refine ⟨?_, ?_⟩
  · rw [String.length_ofList, List.length_take]
    exact Nat.min_le_left _ _
  · unfold startsFormula at h ⊢
    rw [String.toList_ofList]
    cases ht : t.toList with
    | nil => rfl
    | cons c cs =>
      rw [ht] at h
      exact h

/-- **The apostrophe has no room before a text of the full length.** -/
theorem protects_cellText {t : String} (h : t.length ≤ maxCellText) :
    Protects t (lib.cellText (protect t)) ↔ ¬(t.length = maxCellText ∧ startsFormula t = true) := by
  unfold Protects protect
  split
  · next hformula =>
    have hlength : ("'" ++ t).length = t.length + 1 := by
      rw [String.length_append, Nat.add_comm]
      rfl
    constructor
    · rintro hshown ⟨hfull, -⟩
      have hcut := (plain_cellText hlib (startsFormula_apostrophe t)).1
      rw [hshown, hlength, hfull] at hcut
      exact absurd hcut (Nat.not_succ_le_self _)
    · intro hfull
      refine cellText_of_le hlib ?_
      rw [hlength]
      exact Nat.lt_of_le_of_ne h fun he => hfull ⟨he, hformula⟩
  · next hformula =>
    refine iff_of_true (cellText_of_le hlib h) fun hfull => hformula hfull.2

/-- **How a saved cell shows its content.** -/
theorem shows_saveCell {c : Content} (hfits : c.Fits) (hcalm : c.Calm)
    (hnumber : ∀ d, c = .number d → ∃ actual, lib.readNumber d = some actual ∧ actual.toRat = d.toRat) :
    Shows lib c (saveCell lib c.written) ↔
      ∀ t, c = .text t → ¬(t.length = maxCellText ∧ startsFormula t = true) := by
  cases c with
  | position n => exact iff_of_true rfl fun t ht => nomatch ht
  | number d => exact iff_of_true (hnumber d rfl) fun t ht => nomatch ht
  | text t =>
    rw [show Shows lib (.text t) (saveCell lib (Content.text t).written) =
      Protects t (lib.cellText (protect t)) from rfl, protects_cellText hlib hfits]
    exact ⟨fun h u hu => by cases hu; exact h, fun h => h t rfl⟩
  | joined separator parts =>
    refine iff_of_true ?_ fun t ht => nomatch ht
    have hprotect : protect (separator.intercalate (parts.map fun p => p.1 ++ protect p.2)) =
        separator.intercalate (parts.map fun p => p.1 ++ protect p.2) :=
      if_neg (by rw [show startsFormula _ = false from hcalm]; exact Bool.false_ne_true)
    refine ⟨parts.map fun p => protect p.2, ?_, ?_⟩
    · rw [List.forall₂_map_right_iff, List.forall₂_same]
      exact fun p _ => protects_protect p.2
    · rw [hprotect, cellText_of_le hlib hfits, List.zipWith_map_right, List.zipWith_self]
  | fixed t => exact iff_of_true (cellText_of_le hlib hcalm.1) fun u hu => nomatch hu
  | flag b => exact iff_of_true rfl fun t ht => nomatch ht
  | blank => exact iff_of_true trivial fun t ht => nomatch ht

theorem plain_saveCell {c : Content} (hcalm : c.Calm) {t : String}
    (h : saveCell lib c.written = .text t) : Plain t := by
  cases c with
  | text u =>
    cases h
    exact plain_cellText hlib (startsFormula_protect u)
  | joined separator parts =>
    cases h
    exact plain_cellText hlib (startsFormula_protect _)
  | fixed u =>
    cases h
    exact plain_cellText hlib hcalm.2
  | position n => cases h
  | number d => cases h
  | flag b => cases h
  | blank => cases h

end

/-! ## The workbook -/

theorem forM_eq_ok {ε α : Type} {f : α → Except ε Unit} {l : List α} :
    l.forM f = .ok () ↔ ∀ a ∈ l, f a = .ok () := by
  induction l with
  | nil => exact iff_of_true rfl fun a ha => absurd ha List.not_mem_nil
  | cons b l ih =>
    rw [List.forall_mem_cons, ← ih]
    exact bind_unit_eq_ok

section

variable {env : Runtime} {s : WorkbookSnapshot env} {lib : Openpyxl} {now : Time} {w : Sheets}

theorem ids_of_writeSheets (h : writeSheets s now = .ok w) : ∀ item ∈ s.items,
    item.result.criteria.map (·.dimensionId) = s.rubric.rubric.dimensions.map (·.id) ∧
      item.result.deductions.map (·.deductionId) = s.rubric.rubric.deductions.map (·.id) := by
  unfold writeSheets at h
  obtain ⟨w₁, hitems, -⟩ := bind_eq_ok.1 h
  have hids := foldlM_flatMap (f := appendItem s) (C := fun item => [item])
    (I := fun done _ => ∀ item ∈ done,
      item.result.criteria.map (·.dimensionId) = s.rubric.rubric.dimensions.map (·.id) ∧
        item.result.deductions.map (·.deductionId) = s.rubric.rubric.deductions.map (·.id))
    (fun done item w w' _ hdone hw => by
      unfold appendItem at hw
      obtain ⟨_, hvalid, -⟩ := bind_eq_ok.1 hw
      intro x hx
      rcases List.mem_append.1 hx with hx | hx
      · exact hdone x hx
      · rw [List.mem_singleton.1 hx]
        exact ids_of_validateResult hvalid)
    (fun _ hx => absurd hx List.not_mem_nil) hitems
  simpa using hids

/-- The cell of an expected number is where it is looked for. -/
theorem cellAt_saveRows {log : List Entry} (hw : Holds log w) {name : SheetName} {r c : Nat} {d : Decimal}
    (h : ((name, r, c), d) ∈ w.expectations) : cellAt (saveRows lib w name) r c = some (.number d) := by
  obtain ⟨i, row, rfl, hrow, hd⟩ := (hw.expected name r c d).1 h
  obtain ⟨j, rfl, hcell⟩ := mem_numbersOf.1 hd
  unfold cellAt saveRows
  rw [hw.rows name]
  simp [hrow, hcell, Content.written, saveCell]

theorem read_of_checkSaved (hw : Holds (log s now) w) (h : checkSaved lib w = .ok ())
    {name : SheetName} {row : List Content} (hrow : row ∈ content s now name) {d : Decimal}
    (hd : .number d ∈ row) : ∃ actual, lib.readNumber d = some actual ∧ actual.toRat = d.toRat := by
  rw [← onSheet_log] at hrow
  obtain ⟨i, hi⟩ := List.mem_iff_getElem?.1 hrow
  obtain ⟨j, hj⟩ := List.mem_iff_getElem?.1 hd
  have hmem : ((name, i + 1, j + 1), d) ∈ w.expectations :=
    (hw.expected name (i + 1) (j + 1) d).2 ⟨i, row, rfl, hi, mem_numbersOf.2 ⟨j, rfl, hj⟩⟩
  unfold checkSaved at h
  obtain ⟨_, -, h⟩ := bind_eq_ok.1 h
  have hread := forM_eq_ok.1 h _ hmem
  rw [cellAt_saveRows hw hmem] at hread
  split at hread
  · next actual hactual =>
    exact ⟨actual, hactual, by simpa using ensure_eq_ok.1 hread⟩
  · cases hread

theorem saveRows_eq (hw : Holds (log s now) w) (name : SheetName) : saveRows lib w name =
    (content s now name).map (·.map fun c => saveCell lib c.written) := by
  unfold saveRows
  rw [hw.rows name, onSheet_log, List.map_map]
  simp only [Function.comp_def, List.map_map]

theorem fits_content (hw : Holds (log s now) w) (name : SheetName) :
    ∀ row ∈ content s now name, ∀ c ∈ row, c.Fits := by
  intro row hrow
  rw [← onSheet_log] at hrow
  obtain ⟨x, hx, hrow⟩ := List.mem_filterMap.1 hrow
  split at hrow
  · cases hrow
    exact hw.fits x hx
  · cases hrow

/-- The rows are shown as soon as the numbers are read back. -/
theorem rows_iff (hlib : lib.Truncates) (hiso : ∀ t, Plain (env.isoformat t))
    (h : writeSheets s now = .ok w) (hcheck : checkSaved lib w = .ok ()) :
    (∀ name, List.Forall₂ (List.Forall₂ (Shows lib)) (content s now name) (saveRows lib w name)) ↔
      NoFullFormula s now := by
  have hw := writeSheets_holds h
  have hcalm : ∀ name, ∀ row ∈ content s now name, ∀ c ∈ row, c.Calm :=
    calm_content hiso fun item hitem => (ids_of_writeSheets h item hitem).1
  have hshows (name : SheetName) (row : List Content) (hrow : row ∈ content s now name) (c : Content)
      (hc : c ∈ row) : Shows lib c (saveCell lib c.written) ↔
        ∀ t, c = .text t → ¬(t.length = maxCellText ∧ startsFormula t = true) :=
    shows_saveCell hlib (fits_content hw name row hrow c hc) (hcalm name row hrow c hc) fun d hd =>
      read_of_checkSaved hw hcheck hrow (hd ▸ hc)
  simp only [saveRows_eq hw, List.forall₂_map_right_iff, List.forall₂_same]
  constructor
  · intro hall name row hrow t ht
    exact (hshows name row hrow _ ht).1 (hall name row hrow _ ht) t rfl
  · intro hall name row hrow c hc
    exact (hshows name row hrow c hc).2 fun t ht => hall name row hrow t (ht ▸ hc)

theorem plain_saveRows (hlib : lib.Truncates) (hiso : ∀ t, Plain (env.isoformat t))
    (h : writeSheets s now = .ok w) (name : SheetName) :
    ∀ row ∈ saveRows lib w name, ∀ t, Cell.text t ∈ row → Plain t := by
  have hcalm : ∀ name, ∀ row ∈ content s now name, ∀ c ∈ row, c.Calm :=
    calm_content hiso fun item hitem => (ids_of_writeSheets h item hitem).1
  intro row hrow t ht
  rw [saveRows_eq (writeSheets_holds h)] at hrow
  obtain ⟨contents, hcontents, rfl⟩ := List.mem_map.1 hrow
  obtain ⟨c, hc, hct⟩ := List.mem_map.1 ht
  exact plain_saveCell hlib (hcalm name contents hcontents c hc) hct

/-- **What a workbook shows.**  A workbook that is built has the rows of the frozen snapshot, its
numbers and its texts, iff no text that stands in a cell of its own begins like a formula and has the
full length of a cell. -/
theorem shown_iff (hlib : lib.Truncates) (hiso : ∀ t, Plain (env.isoformat t))
    (h : buildExportWorkbook lib s now = .ok w) : Shown lib s now w ↔ NoFullFormula s now := by
  unfold buildExportWorkbook at h
  obtain ⟨_, hwrite, h⟩ := bind_eq_ok.1 h
  obtain ⟨_, hcheck, h⟩ := bind_eq_ok.1 h
  cases h
  have hids := ids_of_writeSheets hwrite
  have hrows := rows_iff hlib hiso hwrite hcheck
  exact ⟨fun hshown => hrows.1 hshown.rows, fun hfull => ⟨fun item hitem => (hids item hitem).1,
    fun item hitem => (hids item hitem).2, hrows.2 hfull, plain_saveRows hlib hiso hwrite⟩⟩

theorem not_isFormula {t : String} (h : startsFormula t = false) : isFormula (.text t) = false := by
  unfold isFormula
  rw [Bool.and_eq_false_iff]
  refine .inr (Bool.eq_false_iff.2 fun he => ?_)
  have : startsFormula t = true := startsFormula_iff.2 ⟨'=', by simpa using he, by decide⟩
  rw [h] at this
  cases this

/-- A library that reads every number back accepts what was written. -/
theorem checkSaved_eq_ok (hlib : lib.Truncates) (hiso : ∀ t, Plain (env.isoformat t))
    (hread : ∀ d, lib.readNumber d = some d) (h : writeSheets s now = .ok w) :
    checkSaved lib w = .ok () := by
  have hplain := plain_saveRows hlib hiso h
  unfold checkSaved
  rw [bind_unit_eq_ok, ensure_eq_ok, forM_eq_ok]
  constructor
  · simp only [List.all_eq_true, Bool.not_eq_true']
    intro name _ row hrow c hc
    cases c with
    | text t => exact not_isFormula (hplain name row hrow t hc).2
    | int n => rfl
    | number d => rfl
    | flag b => rfl
    | blank => rfl
  · rintro ⟨⟨name, r, c⟩, d⟩ hx
    rw [cellAt_saveRows (writeSheets_holds h) hx]
    simp [readCell, hread]

end

/-! ## When a workbook is written -/

theorem foldlM_ok {ε σ α : Type} {f : σ → α → Except ε σ} {l : List α}
    (h : ∀ a ∈ l, ∀ x, ∃ y, f x a = .ok y) (x : σ) : ∃ y, l.foldlM f x = .ok y := by
  induction l generalizing x with
  | nil => exact ⟨x, rfl⟩
  | cons a l ih =>
    obtain ⟨y, hy⟩ := h a List.mem_cons_self x
    rw [List.foldlM_cons, hy]
    exact ih (fun b hb => h b (List.mem_cons_of_mem a hb)) y

section

variable {env : Runtime} {s : WorkbookSnapshot env} {now : Time}

/-- The batch and the reviews only add texts that `_text` accepts. -/
theorem writeSheets_ok {w : Sheets} (hitems : s.items.foldlM (appendItem s) (started s) = .ok w)
    (hbatch : ∀ x ∈ batchRows s now, x.2.1 = true → ∃ t, text x.2.2 = .ok t)
    (hreview : ∀ item ∈ s.items, ∀ x ∈ itemMetadata item, ∃ t, text x.2 = .ok t) :
    ∃ w, writeSheets s now = .ok w := by
  have hstep : ∀ x ∈ batchRows s now, ∀ w, ∃ w', appendBatchRow w x = .ok w' := by
    intro x hx w
    unfold appendBatchRow
    split
    · next hchecked =>
      obtain ⟨t, ht⟩ := hbatch x hx hchecked
      rw [ht]
      exact ⟨_, rfl⟩
    · exact ⟨_, rfl⟩
  have hlast : ∀ item ∈ s.items, ∀ w, ∃ w', appendItemMetadata w item = .ok w' := by
    intro item hitem
    refine foldlM_ok fun x hx w => ?_
    obtain ⟨t, ht⟩ := hreview item hitem x hx
    rw [ht]
    exact ⟨_, rfl⟩
  unfold writeSheets
  obtain ⟨w₂, hw₂⟩ := foldlM_ok hstep (w.append .metadata [.text "Key", .text "Value"] [])
  obtain ⟨w₃, hw₃⟩ := foldlM_ok hlast w₂
  exact ⟨w₃, bind_eq_ok.2 ⟨w, hitems, bind_eq_ok.2 ⟨w₂, hw₂, hw₃⟩⟩⟩

end

end Workbook

/-! ## Samples -/

namespace Sample

open Workbook

def exactLib : Openpyxl := ⟨fun t => String.ofList (t.toList.take maxCellText), some, fun _ => none⟩

def workbookBatch (title : String) : WorkbookBatch :=
  ⟨assignment, job, title, rubricVersion, 1, provider, 1, "m", "v1", "p", "q", 1⟩

def workbookItem : WorkbookItem :=
  ⟨0, submission, item, none, none, .aiSuggestion, "-a.pdf",
    ⟨"ai_suggested", ⟨false, 7, 0⟩, ⟨false, 0, 0⟩, ⟨false, 70, -1⟩, ⟨false, 10, 0⟩,
      [⟨"content", ⟨false, 7, 0⟩, "good", ["=more"], [⟨none, none, "b000001", "text"⟩]⟩], [], [],
      "fine", none, none⟩⟩

/-- A draft export of one paper, with the title of the assignment. -/
def workbook (title : String) : WorkbookSnapshot sampleRuntime :=
  ⟨7, .draft, "paper-grading-workbook.v1", 0, workbookBatch title, validRubric, [workbookItem], rfl,
    by decide, rfl, rfl⟩

theorem exactLib_truncates : exactLib.Truncates := fun _ => rfl

theorem plain_isoformat (t : Time) : Plain (sampleRuntime.isoformat t) := by
  show Plain "1970-01-01T00:00:00Z"
  decide

/-- The title is in no row of an item. -/
theorem appendItem_workbook (title : String) :
    (workbook title).items.foldlM (appendItem (workbook title)) (started (workbook title)) =
      [workbookItem].foldlM (appendItem (workbook "t")) (started (workbook "t")) := rfl

theorem text_eq_ok_of_isOk {t : String} (h : (text t).isOk = true) : ∃ u, text t = .ok u := by
  cases ht : text t with
  | error e =>
    rw [ht] at h
    cases h
  | ok u => exact ⟨u, rfl⟩

theorem workbook_built {title t : String} (h : text title = .ok t) :
    ∃ w, writeSheets (workbook title) 0 = .ok w ∧ checkSaved exactLib w = .ok () := by
  have hclosed : ([workbookItem].foldlM (appendItem (workbook "t")) (started (workbook "t"))).isOk =
      true := by
    decide +kernel
  cases hitems : [workbookItem].foldlM (appendItem (workbook "t")) (started (workbook "t")) with
  | error e =>
    rw [hitems] at hclosed
    cases hclosed
  | ok w₁ =>
    rw [← appendItem_workbook title] at hitems
    have hbatch : ∀ x ∈ batchRows (workbook title) 0, x.2.1 = true → ∃ t, text x.2.2 = .ok t := by
      intro x hx hchecked
      simp only [batchRows, workbook, workbookBatch, List.mem_cons, List.not_mem_nil, or_false] at hx
      rcases hx with rfl | rfl | rfl | rfl | rfl | rfl | rfl | rfl | rfl | rfl | rfl | rfl | rfl |
        rfl | rfl | rfl
      all_goals
        first
        | cases hchecked; done
        | exact ⟨t, h⟩
        | exact text_eq_ok_of_isOk (by decide +kernel)
    have hreview : ∀ x ∈ itemMetadata workbookItem, (text x.2).isOk = true := by decide +kernel
    obtain ⟨w, hw⟩ := writeSheets_ok hitems hbatch fun x hx y hy => by
      rw [List.mem_singleton.1 hx] at hy
      exact text_eq_ok_of_isOk (hreview y hy)
    exact ⟨w, hw, checkSaved_eq_ok exactLib_truncates plain_isoformat (fun _ => rfl) hw⟩

theorem accepted_workbook (title : String) :
    workbookSnapshotFromFrozen sampleRuntime 7 .draft "paper-grading-workbook.v1" 0
      (workbookBatch title) rubric [workbookItem] = .ok (workbook title) := by
  unfold workbookSnapshotFromFrozen
  rw [dif_pos (show rubric.accepts sampleRuntime = true from validRubric.accepted), dif_pos ⟨rfl, by decide, rfl, rfl⟩, if_neg (by decide)]
  rfl

/-- A title of `n + 1` characters that begins like a formula. -/
def formulaTitle (n : Nat) : String := String.ofList ('=' :: List.replicate n 'x')

theorem length_formulaTitle (n : Nat) : (formulaTitle n).length = n + 1 := by
  rw [formulaTitle, String.length_ofList, List.length_cons, List.length_replicate]

theorem startsFormula_formulaTitle (n : Nat) : startsFormula (formulaTitle n) = true := by
  rw [formulaTitle, startsFormula, String.toList_ofList]
  rfl

theorem text_formulaTitle {n : Nat} (h : n < maxCellText) : ∃ t, text (formulaTitle n) = .ok t := by
  have hxml : (formulaTitle n).toList.any isIllegalXml = false := by
    rw [formulaTitle, String.toList_ofList, List.any_cons, List.any_replicate,
      show isIllegalXml '=' = false from rfl, show isIllegalXml 'x' = false from rfl, ite_self]
    rfl
  refine ⟨protect (formulaTitle n), ?_⟩
  rw [text, if_neg (by rw [length_formulaTitle]; omega), hxml]
  rfl

/-- The sheets of a short title show everything. -/
theorem workbook_shown : ∃ w, buildExportWorkbook exactLib (workbook "=t") 0 = .ok w ∧
    (Shown exactLib (workbook "=t") 0 w ↔ NoFullFormula (workbook "=t") 0) := by
  obtain ⟨t, ht⟩ := text_eq_ok_of_isOk (t := "=t") (by decide +kernel)
  obtain ⟨w, hw, hcheck⟩ := workbook_built ht
  have hbuilt : buildExportWorkbook exactLib (workbook "=t") 0 = .ok w :=
    bind_eq_ok.2 ⟨w, hw, bind_eq_ok.2 ⟨(), hcheck, rfl⟩⟩
  exact ⟨w, hbuilt, shown_iff exactLib_truncates plain_isoformat hbuilt⟩

/-- The last character of the title is lost: the snapshot is accepted and its workbook is built, but
does not show the title. -/
theorem fullTitle_cut : ∃ s w,
    workbookSnapshotFromFrozen sampleRuntime 7 .draft "paper-grading-workbook.v1" 0
        (workbookBatch (formulaTitle 32766)) rubric [workbookItem] = .ok s ∧
      buildExportWorkbook exactLib s 0 = .ok w ∧ ¬Shown exactLib s 0 w := by
  obtain ⟨t, ht⟩ := text_formulaTitle (n := 32766) (by decide)
  have hlength := length_formulaTitle 32766
  have hformula := startsFormula_formulaTitle 32766
  generalize formulaTitle 32766 = title at ht hlength hformula
  obtain ⟨w, hw, hcheck⟩ := workbook_built ht
  refine ⟨workbook title, w, accepted_workbook title,
    bind_eq_ok.2 ⟨w, hw, bind_eq_ok.2 ⟨(), hcheck, rfl⟩⟩, fun hshown => ?_⟩
  have hfull := (rows_iff exactLib_truncates plain_isoformat hw hcheck).1 hshown.rows
  have hrow : [.fixed "assignment_title", .text title] ∈ content (workbook title) 0 .metadata := by
    simp [content, batchMetadataRows, batchRows, workbook, workbookBatch]
  exact hfull .metadata _ hrow title (by simp) ⟨hlength, hformula⟩

end Sample

end PaperGrading
