import PaperGrading.Parsing.Blocks
import PaperGrading.Store.Commits
import Mathlib.Data.List.Nodup

/-!
# Word documents

`parse_docx` of `parsing/docx.py`, from the opened document on.  `row.cells` lists a merged cell
once for each place of the grid that it covers; the loop takes a cell once by `id(cell._tc)`.
The proxy `cell._tc` is a temporary object: it lives while the row is visited, and beyond that
only as long as the loop variables `cell` and `paragraph` hold it.  A proxy that is gone leaves its
identity to any other, so the identities of a table are a parameter, `Live` if objects
that live together differ.

    a parsed document holds each cell once, in order  ↔
      a cell with text is met again exactly when its identity is            (exact_iff)
-/

namespace PaperGrading

/-! ## The opened document -/

/-- A cell: its paragraphs, and the paragraphs of each table nested in it. -/
structure TableCell where
  paragraphs : List String
  tables : List (List String)

/-- A table: its cells by number, and what `row.cells` lists for each row. -/
structure DocxTable where
  cell : Nat → TableCell
  rows : List (List Nat)

inductive BodyItem where
  | paragraph (text : String)
  | table (table : DocxTable)
  | other

/-- A header or a footer: its paragraphs, the texts of its table cells, and whether it has a text
box with text. -/
structure Story where
  paragraphs : List String
  cells : List String
  textBox : Bool

structure DocxSource where
  /-- text boxes, content controls or tracked changes in the body -/
  revised : Bool
  stories : List Story
  body : List BodyItem

/-- One place of the grid of a table, as the loops number it. -/
structure CellVisit where
  row : Nat
  column : Nat
  node : Nat
  deriving DecidableEq

/-- The places of the grid in the order of the loops. -/
def DocxTable.visits (t : DocxTable) : List CellVisit :=
  t.rows.zipIdx.flatMap fun (cells, r) => cells.zipIdx.map fun (node, c) => ⟨r + 1, c + 1, node⟩

/-! ## The parser -/

section Parser

variable (limits : ParseLimits) (normalize : String → String)

/-- The paragraphs of a cell with their locators. -/
def DocxTable.cellTexts (t : DocxTable) (number : Nat) (v : CellVisit) :
    List (String × DocumentLocator) :=
  (t.cell v.node).paragraphs.zipIdx.map fun (text, i) =>
    (text, .docxTableParagraph number v.row v.column (i + 1))

/-- The body of the loop over `row.cells`; `identity` is `id(cell._tc)`. -/
def visitCell (identity : CellVisit → Nat) (t : DocxTable) (number : Nat)
    (state : List Nat × BlockState) (v : CellVisit) : Except ParseFailure (List Nat × BlockState) :=
  if state.1.contains (identity v) then .ok state
  else do
    ensure (t.cell v.node).tables.isEmpty
      (.parse ⟨"docx_content_unsupported", "不支持嵌套表格"⟩)
    let s ← (t.cellTexts number v).foldlM (appendBlock limits normalize) state.2
    return (identity v :: state.1, s)

/-- The loop over the body, after the given numbers of paragraphs and tables. -/
def parseBody (identities : Nat → CellVisit → Nat) :
    Nat → Nat → List BodyItem → BlockState → Except ParseFailure BlockState
  | _, _, [], s => .ok s
  | p, t, .paragraph text :: items, s => do
    let s ← appendBlock limits normalize s (text, .docxParagraph (p + 1))
    parseBody identities (p + 1) t items s
  | p, t, .table table :: items, s => do
    let state ← table.visits.foldlM
      (visitCell limits normalize (identities (t + 1)) table (t + 1)) ([], s)
    parseBody identities p (t + 1) items state.2
  | _, _, .other :: _, _ =>
    .error (.parse ⟨"docx_content_unsupported", "DOCX 包含不支持的正文结构"⟩)

def checkStory (story : Story) : Except ParseFailure PUnit := do
  ensure (story.paragraphs.all fun text => (normalize text).isEmpty)
    (.parse ⟨"docx_content_unsupported", "DOCX 页眉或页脚包含首版不支持的文字"⟩)
  ensure (story.cells.all fun text => (normalize text).isEmpty)
    (.parse ⟨"docx_content_unsupported", "DOCX 页眉或页脚包含首版不支持的表格文字"⟩)
  ensure (!story.textBox)
    (.parse ⟨"docx_content_unsupported", "DOCX 页眉或页脚包含首版不支持的文本框"⟩)

/-- `parse_docx` of an opened document. -/
def parseDocx (identities : Nat → CellVisit → Nat) (source : DocxSource) :
    Except ParseFailure ParsedDocument := do
  ensure (!source.revised)
    (.parse ⟨"docx_content_unsupported", "DOCX 包含文本框、内容控件或未接受的修订内容"⟩)
  source.stories.forM (checkStory normalize)
  let s ← parseBody limits normalize identities 0 0 source.body .start
  buildDocument .docx none "文档没有可提取文字" s

end Parser

/-! ## Which cells are taken -/

/-- The visits whose key has not occurred before. -/
def firstBy {κ : Type} [DecidableEq κ] (key : CellVisit → κ) : List κ → List CellVisit → List CellVisit
  | _, [] => []
  | seen, v :: vs => (if key v ∈ seen then [] else [v]) ++ firstBy key (key v :: seen) vs

/-- The texts of a body, when `taken` says which cells of a table are taken. -/
def bodyTexts (taken : Nat → DocxTable → List CellVisit) :
    Nat → Nat → List BodyItem → List (String × DocumentLocator)
  | _, _, [] => []
  | p, t, .paragraph text :: items =>
    (text, .docxParagraph (p + 1)) :: bodyTexts taken (p + 1) t items
  | p, t, .table table :: items =>
    (taken (t + 1) table).flatMap (table.cellTexts (t + 1)) ++ bodyTexts taken p (t + 1) items
  | p, t, .other :: items => bodyTexts taken p t items

/-- What the loop takes: a cell whose identity is new. -/
def takenById (identities : Nat → CellVisit → Nat) (number : Nat) (t : DocxTable) : List CellVisit :=
  firstBy (identities number) [] t.visits

/-- What it should take: each cell where it is met first. -/
def takenByCell (_ : Nat) (t : DocxTable) : List CellVisit := firstBy (·.node) [] t.visits

/-- The tables of a body with their numbers. -/
def bodyTables : Nat → List BodyItem → List (Nat × DocxTable)
  | _, [] => []
  | t, .table table :: items => (t + 1, table) :: bodyTables (t + 1) items
  | t, _ :: items => bodyTables t items

section Taken

variable {κ : Type} [DecidableEq κ] {key : CellVisit → κ}

theorem firstBy_append (seen : List κ) (vs vs' : List CellVisit) :
    firstBy key seen (vs ++ vs') =
      firstBy key seen vs ++ firstBy key ((vs.map key).reverse ++ seen) vs' := by
  induction vs generalizing seen with
  | nil => rfl
  | cons v vs ih =>
    rw [List.cons_append, firstBy, firstBy, ih, List.append_assoc, List.map_cons, List.reverse_cons,
      List.append_assoc, List.singleton_append]

theorem firstBy_concat (vs : List CellVisit) (v : CellVisit) :
    firstBy key [] (vs ++ [v]) =
      firstBy key [] vs ++ if key v ∈ vs.map key then [] else [v] := by
  rw [firstBy_append, List.append_nil, firstBy, firstBy, List.append_nil]
  simp only [List.mem_reverse]

theorem mem_of_mem_firstBy {seen : List κ} {vs : List CellVisit} {v : CellVisit}
    (h : v ∈ firstBy key seen vs) : v ∈ vs := by
  induction vs generalizing seen with
  | nil => cases h
  | cons u vs ih =>
    rw [firstBy] at h
    rcases List.mem_append.1 h with h | h
    · split at h
      · cases h
      · rw [List.mem_singleton.1 h]
        exact List.mem_cons_self
    · exact List.mem_cons_of_mem _ (ih h)

end Taken

/-! ## What the parser builds -/

section Parsed

variable {limits : ParseLimits} {normalize : String → String}

theorem cellTexts_accepts {t : DocxTable} {number : Nat} (hnumber : 1 ≤ number) {v : CellVisit}
    (hv : v ∈ t.visits) : ∀ x ∈ t.cellTexts number v, x.2.accepts = true := by
  intro x hx
  obtain ⟨⟨text, i⟩, -, rfl⟩ := List.mem_map.1 hx
  obtain ⟨⟨cells, r⟩, -, hv⟩ := List.mem_flatMap.1 hv
  obtain ⟨⟨node, c⟩, -, rfl⟩ := List.mem_map.1 hv
  simp [DocumentLocator.accepts, hnumber]

/-- **The loops over a table** take the cells whose identity is new, and none of them holds a
table. -/
theorem visitTable_ends (hlimits : limits.Storable) (identity : CellVisit → Nat) (t : DocxTable)
    {number : Nat} (hnumber : 1 ≤ number) {s : BlockState} (hs : s.Built limits) :
    Ends (fun state => state.2.Built limits ∧ state.2.content = s.content ++
        keptTexts normalize ((firstBy identity [] t.visits).flatMap (t.cellTexts number)) ∧
        ∀ v ∈ firstBy identity [] t.visits, (t.cell v.node).tables = [])
      ParseFailure.Meant (t.visits.foldlM (visitCell limits normalize identity t number) ([], s)) := by
  have hloop : Ends (fun state => (∀ k, k ∈ state.1 ↔ k ∈ t.visits.map identity) ∧
      state.2.Built limits ∧ state.2.content = s.content ++
        keptTexts normalize ((firstBy identity [] t.visits).flatMap (t.cellTexts number)) ∧
      ∀ v ∈ firstBy identity [] t.visits, (t.cell v.node).tables = []) ParseFailure.Meant
      (t.visits.foldlM (visitCell limits normalize identity t number) ([], s)) := by
    refine Ends.foldlM (I := fun done (state : List Nat × BlockState) => (∀ k, k ∈ state.1 ↔ k ∈ done.map identity) ∧
      state.2.Built limits ∧ state.2.content = s.content ++
        keptTexts normalize ((firstBy identity [] done).flatMap (t.cellTexts number)) ∧
      ∀ v ∈ firstBy identity [] done, (t.cell v.node).tables = [])
      ⟨fun k => Iff.rfl, hs, by simp [firstBy, keptTexts], fun v hv => by cases hv⟩ ?_
    rintro done v ⟨seen, s'⟩ hv ⟨hseen, hbuilt, hcontent, htables⟩
    dsimp only at hseen hbuilt hcontent htables
    have hmem : seen.contains (identity v) = true ↔ identity v ∈ done.map identity := by
      rw [List.contains_iff_mem, hseen]
    rw [firstBy_concat]
    unfold visitCell
    by_cases hold : identity v ∈ done.map identity
    · rw [if_pos hold, if_pos (hmem.2 hold), List.append_nil]
      refine .ok ⟨fun k => ?_, hbuilt, hcontent, htables⟩
      rw [hseen, List.map_append, List.mem_append, List.map_singleton, List.mem_singleton]
      exact ⟨.inl, fun h => h.elim id fun h => h ▸ hold⟩
    · rw [if_neg hold, if_neg (mt hmem.1 hold)]
      refine (Ends.ensure fun _ => trivial).bind fun _ hempty => ?_
      refine (appendAll_ends hlimits hbuilt (cellTexts_accepts hnumber hv)).bind fun s'' h => ?_
      refine .ok ⟨fun k => ?_, h.1, ?_, ?_⟩
      · rw [List.mem_cons, hseen, List.map_append, List.mem_append, List.map_singleton,
          List.mem_singleton, or_comm]
      · rw [h.2, hcontent, List.append_assoc, ← keptTexts_append, List.flatMap_append,
          List.flatMap_singleton]
      · intro u hu
        rcases List.mem_append.1 hu with hu | hu
        · exact htables u hu
        · rw [List.mem_singleton.1 hu]
          exact List.isEmpty_iff.1 hempty
  exact hloop.mono fun state h => h.2

theorem parseBody_ends (hlimits : limits.Storable) (identities : Nat → CellVisit → Nat) (p t : Nat)
    (items : List BodyItem) {s : BlockState} (hs : s.Built limits) :
    Ends (fun s' => s'.Built limits ∧ s'.content = s.content ++
        keptTexts normalize (bodyTexts (takenById identities) p t items) ∧
        ∀ x ∈ bodyTables t items, ∀ v ∈ takenById identities x.1 x.2, (x.2.cell v.node).tables = [])
      ParseFailure.Meant (parseBody limits normalize identities p t items s) := by
  induction items generalizing p t s with
  | nil => exact .ok ⟨hs, by simp [bodyTexts, keptTexts], fun x hx => by cases hx⟩
  | cons item items ih =>
    cases item with
    | paragraph text =>
      have haccepts : DocumentLocator.accepts (.docxParagraph (p + 1)) = true := by
        simp [DocumentLocator.accepts]
      refine (appendBlock_ends hlimits hs haccepts).bind fun s' h => ?_
      refine (ih (p + 1) t h.1).mono fun s'' h' => ⟨h'.1, ?_, h'.2.2⟩
      rw [h'.2.1, h.2, List.append_assoc, ← keptTexts_append]
      rfl
    | table table =>
      refine (visitTable_ends hlimits (identities (t + 1)) table (Nat.le_add_left 1 t) hs).bind
        fun state h => ?_
      refine (ih p (t + 1) h.1).mono fun s'' h' => ⟨h'.1, ?_, fun x hx => ?_⟩
      · rw [h'.2.1, h.2.1, List.append_assoc, ← keptTexts_append]
        rfl
      · rcases List.mem_cons.1 hx with rfl | hx
        · exact h.2.2
        · exact h'.2.2 x hx
    | other => exact .error trivial

/-- **A Word document** is refused with a document error or built from the cells that the loops
take. -/
theorem parseDocx_ends (hlimits : limits.Storable) (identities : Nat → CellVisit → Nat)
    (source : DocxSource) :
    Ends (fun d => Faithful limits normalize
          ((bodyTexts (takenById identities) 0 0 source.body).map (·.1)) d ∧
        d.blocks.map (fun b => (b.text, b.locator)) =
          keptTexts normalize (bodyTexts (takenById identities) 0 0 source.body) ∧
        ∀ x ∈ bodyTables 0 source.body, ∀ v ∈ takenById identities x.1 x.2,
          (x.2.cell v.node).tables = [])
      ParseFailure.Meant (parseDocx limits normalize identities source) := by
  unfold parseDocx
  refine (Ends.ensure fun _ => trivial).bind fun _ _ => ?_
  refine (Ends.forM fun story _ => ?_).bind fun _ _ => ?_
  · unfold checkStory
    refine (Ends.ensure fun _ => trivial).bind fun _ _ => ?_
    refine (Ends.ensure fun _ => trivial).bind fun _ _ => ?_
    exact (Ends.ensure fun _ => trivial).mono fun _ _ => trivial
  · refine (parseBody_ends hlimits identities 0 0 source.body (BlockState.start_built limits)).bind
      fun s h => ?_
    have htexts : s.texts = keptLines normalize
        ((bodyTexts (takenById identities) 0 0 source.body).map (·.1)) := by
      rw [← BlockState.map_fst_content, h.2.1, ← map_fst_keptTexts]
      rfl
    refine (buildDocument_ends hlimits h.1 rfl (fun _ hn => by cases hn) htexts _).mono
      fun d hd => ⟨hd.2, ?_, h.2.2⟩
    rw [hd.1]
    exact h.2.1

end Parsed

/-! ## Each cell once -/

/-- The cell has text, its own or that of a table in it. -/
def DocxTable.hasText (normalize : String → String) (t : DocxTable) (node : Nat) : Bool :=
  ((t.cell node).paragraphs ++ (t.cell node).tables.flatten).any fun text => !(normalize text).isEmpty

/-- The document holds the text of each cell once, where the cell is met first, and no text is
hidden in a nested table. -/
structure HoldsEachCell (normalize : String → String) (source : DocxSource) (d : ParsedDocument) :
    Prop where
  content : d.blocks.map (fun b => (b.text, b.locator)) =
    keptTexts normalize (bodyTexts takenByCell 0 0 source.body)
  nested : ∀ x ∈ bodyTables 0 source.body, ∀ v ∈ x.2.visits, ∀ text ∈ (x.2.cell v.node).tables.flatten,
    (normalize text).isEmpty = true

/-- A cell with text has been met before exactly if its identity has. -/
def DocxTable.Recognised (normalize : String → String) (t : DocxTable) (identity : CellVisit → Nat) :
    Prop :=
  ∀ pre v post, t.visits = pre ++ v :: post → t.hasText normalize v.node = true →
    (identity v ∈ pre.map identity ↔ v.node ∈ pre.map (·.node))

section Exact

variable {limits : ParseLimits} {normalize : String → String}

/-- Parts that a property of their elements tells apart are equal part by part. -/
theorem append_eq_append_iff_of_tag {α : Type} (tag : α → Bool) {a a' r r' : List α}
    (ha : ∀ x ∈ a, tag x = true) (ha' : ∀ x ∈ a', tag x = true) (hr : ∀ x ∈ r, tag x = false)
    (hr' : ∀ x ∈ r', tag x = false) : a ++ r = a' ++ r' ↔ a = a' ∧ r = r' := by
  constructor
  · intro h
    have hfilter := congrArg (List.filter tag) h
    rw [List.filter_append, List.filter_append, List.filter_eq_self.2 ha, List.filter_eq_self.2 ha',
      List.filter_eq_nil_iff.2 (by simpa using hr), List.filter_eq_nil_iff.2 (by simpa using hr'),
      List.append_nil, List.append_nil] at hfilter
    subst hfilter
    exact ⟨rfl, List.append_cancel_left h⟩
  · rintro ⟨rfl, rfl⟩
    rfl

theorem ite_nil_eq_iff {α : Type} {P Q : Prop} [Decidable P] [Decidable Q] {l : List α} :
    (if P then [] else l) = (if Q then [] else l) ↔ (l ≠ [] → (P ↔ Q)) := by
  by_cases hP : P <;> by_cases hQ : Q <;> simp [hP, hQ]

theorem keptTexts_locator {items : List (String × DocumentLocator)} {x : String × DocumentLocator}
    (h : x ∈ keptTexts normalize items) : ∃ y ∈ items, y.2 = x.2 := by
  obtain ⟨y, hy, rfl⟩ := List.mem_map.1 (List.mem_of_mem_filter h)
  exact ⟨y, hy, rfl⟩

/-- The place of a locator in the grid. -/
def DocumentLocator.place : DocumentLocator → Option (Nat × Nat)
  | .docxTableParagraph _ r c _ => some (r, c)
  | _ => none

theorem place_cellTexts {t : DocxTable} {number : Nat} {v : CellVisit}
    {x : String × DocumentLocator} (h : x ∈ t.cellTexts number v) :
    x.2.place = some (v.row, v.column) := by
  obtain ⟨_, -, rfl⟩ := List.mem_map.1 h
  rfl

theorem visits_places_nodup (t : DocxTable) : (t.visits.map fun v => (v.row, v.column)).Nodup := by
  have hzip {α : Type} (l : List α) : (l.zipIdx.map Prod.snd).Nodup := by
    rw [List.zipIdx_map_snd]
    exact List.nodup_range'
  rw [DocxTable.visits, List.map_flatMap]
  refine List.nodup_flatMap.2 ⟨fun x _ => ?_, ?_⟩
  · rw [List.map_map]
    have hcolumns := (hzip x.1).map (f := (· + 1)) fun _ _ h => Nat.succ.inj h
    rw [List.map_map] at hcolumns
    refine List.Nodup.of_map Prod.snd ?_
    rw [List.map_map]
    exact hcolumns
  · refine (List.pairwise_map.1 (hzip t.rows)).imp fun {x y} hne => ?_
    intro p hx hy
    simp only [List.map_map, List.mem_map, Function.comp] at hx hy
    obtain ⟨a, -, rfl⟩ := hx
    obtain ⟨b, -, hb⟩ := hy
    exact hne (Nat.succ.inj (congrArg Prod.fst hb)).symm

/-- Two ways to tell cells apart give the same texts of a table exactly if they agree on each
cell with a text of its own. -/
theorem firstBy_texts_iff {κ κ' : Type} [DecidableEq κ] [DecidableEq κ'] (key : CellVisit → κ)
    (key' : CellVisit → κ') (t : DocxTable) (number : Nat) {vs : List CellVisit}
    (hnodup : (vs.map fun v => (v.row, v.column)).Nodup) (seen : List κ) (seen' : List κ') :
    keptTexts normalize ((firstBy key seen vs).flatMap (t.cellTexts number)) =
        keptTexts normalize ((firstBy key' seen' vs).flatMap (t.cellTexts number)) ↔
      ∀ pre v post, vs = pre ++ v :: post → keptTexts normalize (t.cellTexts number v) ≠ [] →
        (key v ∈ (pre.map key).reverse ++ seen ↔ key' v ∈ (pre.map key').reverse ++ seen') := by
  induction vs generalizing seen seen' with
  | nil => simp [firstBy]
  | cons v vs ih =>
    rw [List.map_cons, List.nodup_cons] at hnodup
    -- the texts of the first cell stand at its place, those of the others do not
    have hrest {κ : Type} [DecidableEq κ] (key : CellVisit → κ) (seen : List κ) :
        ∀ x ∈ keptTexts normalize ((firstBy key seen vs).flatMap (t.cellTexts number)),
          (x.2.place == some (v.row, v.column)) = false := by
      intro x hx
      obtain ⟨y, hy, hyx⟩ := keptTexts_locator hx
      obtain ⟨u, hu, hy⟩ := List.mem_flatMap.1 hy
      rw [← hyx, place_cellTexts hy, beq_eq_false_iff_ne]
      intro he
      exact hnodup.1 (List.mem_map.2 ⟨u, mem_of_mem_firstBy hu, Option.some.inj he⟩)
    have hfirst {κ : Type} [DecidableEq κ] (key : CellVisit → κ) (seen : List κ) :
        ∀ x ∈ keptTexts normalize ((if key v ∈ seen then [] else [v]).flatMap (t.cellTexts number)),
          (x.2.place == some (v.row, v.column)) = true := by
      intro x hx
      obtain ⟨y, hy, hyx⟩ := keptTexts_locator hx
      obtain ⟨u, hu, hy⟩ := List.mem_flatMap.1 hy
      have huv : u = v := by
        split at hu
        · cases hu
        · exact List.mem_singleton.1 hu
      rw [← hyx, place_cellTexts hy, huv, beq_self_eq_true]
    have hhead : keptTexts normalize ((if key v ∈ seen then [] else [v]).flatMap (t.cellTexts number)) =
        keptTexts normalize ((if key' v ∈ seen' then [] else [v]).flatMap (t.cellTexts number)) ↔
        (keptTexts normalize (t.cellTexts number v) ≠ [] → (key v ∈ seen ↔ key' v ∈ seen')) := by
      have hite {P : Prop} [Decidable P] :
          keptTexts normalize ((if P then [] else [v]).flatMap (t.cellTexts number)) =
            if P then [] else keptTexts normalize (t.cellTexts number v) := by
        split
        · rfl
        · rw [List.flatMap_singleton]
      rw [hite, hite, ite_nil_eq_iff]
    rw [firstBy, firstBy, List.flatMap_append, List.flatMap_append, keptTexts_append,
      keptTexts_append, append_eq_append_iff_of_tag _ (hfirst key seen) (hfirst key' seen')
        (hrest key _) (hrest key' _), hhead, ih hnodup.2]
    constructor
    · rintro ⟨hv, hvs⟩ pre u post hsplit hkept
      cases pre with
      | nil =>
        obtain ⟨rfl, -⟩ := List.cons.inj hsplit
        exact hv hkept
      | cons w pre =>
        obtain ⟨rfl, htail⟩ := List.cons.inj hsplit
        have := hvs pre u post htail hkept
        simpa [List.mem_append, or_comm, or_left_comm] using this
    · intro h
      refine ⟨fun hkept => h [] v vs rfl hkept, fun pre u post hsplit hkept => ?_⟩
      have := h (v :: pre) u post (by rw [hsplit, List.cons_append]) hkept
      simpa [List.mem_append, or_comm, or_left_comm] using this

/-- The number of the table of a locator. -/
def DocumentLocator.tableNumber : DocumentLocator → Option Nat
  | .docxTableParagraph t _ _ _ => some t
  | _ => none

/-- Later tables have higher numbers. -/
theorem tableNumber_bodyTexts {taken : Nat → DocxTable → List CellVisit} {p t : Nat}
    {items : List BodyItem} : ∀ x ∈ bodyTexts taken p t items, ∀ n ∈ x.2.tableNumber, t < n := by
  induction items generalizing p t with
  | nil => simp [bodyTexts]
  | cons item items ih =>
    intro x hx n hn
    cases item with
    | paragraph text =>
      rcases List.mem_cons.1 hx with rfl | hx
      · cases hn
      · exact ih x hx n hn
    | table table =>
      rcases List.mem_append.1 hx with hx | hx
      · obtain ⟨v, -, hx⟩ := List.mem_flatMap.1 hx
        obtain ⟨_, -, rfl⟩ := List.mem_map.1 hx
        obtain rfl := Option.some.inj hn
        exact Nat.lt_succ_self t
      · exact (Nat.lt_succ_self t).trans (ih x hx n hn)
    | other => exact ih x hx n hn

/-- The texts of a body agree exactly if those of its tables do. -/
theorem bodyTexts_eq_iff {taken taken' : Nat → DocxTable → List CellVisit} {p t : Nat}
    {items : List BodyItem} :
    keptTexts normalize (bodyTexts taken p t items) =
        keptTexts normalize (bodyTexts taken' p t items) ↔
      ∀ x ∈ bodyTables t items,
        keptTexts normalize ((taken x.1 x.2).flatMap (x.2.cellTexts x.1)) =
          keptTexts normalize ((taken' x.1 x.2).flatMap (x.2.cellTexts x.1)) := by
  induction items generalizing p t with
  | nil => simp [bodyTexts, bodyTables]
  | cons item items ih =>
    cases item with
    | paragraph text =>
      have hcons (l : List (String × DocumentLocator)) :
          keptTexts normalize ((text, .docxParagraph (p + 1)) :: l) =
            keptTexts normalize [(text, .docxParagraph (p + 1))] ++ keptTexts normalize l :=
        keptTexts_append [_] l
      rw [bodyTexts, bodyTexts, hcons (bodyTexts taken _ _ _), hcons (bodyTexts taken' _ _ _),
        List.append_cancel_left_eq, ih, bodyTables]
      exact fun _ h => by cases h
    | table table =>
      have htable (taken : Nat → DocxTable → List CellVisit) : ∀ x ∈ keptTexts normalize
          ((taken (t + 1) table).flatMap (table.cellTexts (t + 1))),
          (x.2.tableNumber == some (t + 1)) = true := by
        intro x hx
        obtain ⟨y, hy, hyx⟩ := keptTexts_locator hx
        obtain ⟨v, -, hy⟩ := List.mem_flatMap.1 hy
        obtain ⟨_, -, rfl⟩ := List.mem_map.1 hy
        rw [← hyx]
        exact beq_self_eq_true _
      have hrest (taken : Nat → DocxTable → List CellVisit) : ∀ x ∈ keptTexts normalize
          (bodyTexts taken p (t + 1) items), (x.2.tableNumber == some (t + 1)) = false := by
        intro x hx
        obtain ⟨y, hy, hyx⟩ := keptTexts_locator hx
        rw [← hyx, beq_eq_false_iff_ne]
        intro he
        exact absurd (tableNumber_bodyTexts y hy (t + 1) he) (Nat.lt_irrefl _)
      rw [bodyTexts, bodyTexts, keptTexts_append, keptTexts_append,
        append_eq_append_iff_of_tag _ (htable taken) (htable taken') (hrest taken) (hrest taken'), ih,
        bodyTables, List.forall_mem_cons]
    | other => exact ih

theorem keptTexts_ne_nil {items : List (String × DocumentLocator)} :
    keptTexts normalize items ≠ [] ↔
      ∃ text ∈ items.map (·.1), (normalize text).isEmpty = false := by
  rw [ne_eq, keptTexts, List.filter_eq_nil_iff, List.forall_mem_map]
  push Not
  constructor
  · rintro ⟨x, hx, hkept⟩
    exact ⟨x.1, List.mem_map_of_mem hx, by simpa using hkept⟩
  · rintro ⟨text, htext, hkept⟩
    obtain ⟨x, hx, rfl⟩ := List.mem_map.1 htext
    exact ⟨x, hx, by simpa using hkept⟩

theorem map_fst_cellTexts (t : DocxTable) (number : Nat) (v : CellVisit) :
    (t.cellTexts number v).map (·.1) = (t.cell v.node).paragraphs := by
  rw [DocxTable.cellTexts, List.map_map]
  exact List.zipIdx_map_fst 0 _

/-- A cell with a text of its own. -/
theorem hasText_of_kept {t : DocxTable} {number : Nat} {v : CellVisit}
    (h : keptTexts normalize (t.cellTexts number v) ≠ []) : t.hasText normalize v.node = true := by
  obtain ⟨text, htext, hkept⟩ := keptTexts_ne_nil.1 h
  rw [map_fst_cellTexts] at htext
  exact List.any_eq_true.2 ⟨text, List.mem_append_left _ htext, by rw [hkept]; rfl⟩

theorem kept_of_hasText {t : DocxTable} {number : Nat} {v : CellVisit}
    (h : t.hasText normalize v.node = true)
    (hnested : ∀ text ∈ (t.cell v.node).tables.flatten, (normalize text).isEmpty = true) :
    keptTexts normalize (t.cellTexts number v) ≠ [] := by
  obtain ⟨text, htext, hkept⟩ := List.any_eq_true.1 h
  rw [Bool.not_eq_true'] at hkept
  rcases List.mem_append.1 htext with htext | htext
  · exact keptTexts_ne_nil.2 ⟨text, by rwa [map_fst_cellTexts], hkept⟩
  · rw [hnested text htext] at hkept
    cases hkept

/-- A cell is met a first time. -/
theorem exists_first {vs : List CellVisit} {v : CellVisit} (hv : v ∈ vs) :
    ∃ pre u post, vs = pre ++ u :: post ∧ u.node = v.node ∧ v.node ∉ pre.map (·.node) := by
  obtain ⟨before, after, hsplit, hnew⟩ :=
    List.eq_append_cons_of_mem (List.mem_map_of_mem (f := (·.node)) hv)
  obtain ⟨pre, rest, rfl, rfl, hrest⟩ := List.map_eq_append_iff.1 hsplit
  obtain ⟨u, post, rfl, hu, -⟩ := List.map_eq_cons_iff.1 hrest
  exact ⟨pre, u, post, rfl, hu, hnew⟩

theorem mem_firstBy_of_new {key : CellVisit → Nat} {pre post : List CellVisit} {v : CellVisit}
    (h : key v ∉ pre.map key) : v ∈ firstBy key [] (pre ++ v :: post) := by
  rw [firstBy_append, List.append_nil, firstBy, if_neg (by rwa [List.mem_reverse])]
  exact List.mem_append_right _ List.mem_cons_self

/-- **A parsed document holds each cell once exactly if every cell with text is recognised** by the
identities of its proxies. -/
theorem exact_iff {env : Runtime} {nfc : String → String} (hlimits : limits.Storable)
    {identities : Nat → CellVisit → Nat} {source : DocxSource} {d : ParsedDocument}
    (h : parseDocx limits (normalizeText env nfc) identities source = .ok d) :
    HoldsEachCell (normalizeText env nfc) source d ↔
      ∀ x ∈ bodyTables 0 source.body, x.2.Recognised (normalizeText env nfc) (identities x.1) := by
  obtain ⟨-, hparsed, htaken⟩ := (h ▸ parseDocx_ends hlimits identities source).of_ok
  have hagree (x : Nat × DocxTable) :
      keptTexts (normalizeText env nfc) ((takenById identities x.1 x.2).flatMap (x.2.cellTexts x.1)) =
          keptTexts (normalizeText env nfc) ((takenByCell x.1 x.2).flatMap (x.2.cellTexts x.1)) ↔
        ∀ pre v post, x.2.visits = pre ++ v :: post →
          keptTexts (normalizeText env nfc) (x.2.cellTexts x.1 v) ≠ [] →
          (identities x.1 v ∈ pre.map (identities x.1) ↔ v.node ∈ pre.map (·.node)) := by
    rw [takenById, takenByCell, firstBy_texts_iff _ _ x.2 x.1 (visits_places_nodup x.2)]
    simp only [List.append_nil, List.mem_reverse]
  constructor
  · rintro ⟨hcontent, hnested⟩ x hx pre v post hsplit htext
    rw [hparsed, bodyTexts_eq_iff] at hcontent
    have hv : v ∈ x.2.visits := by simp [hsplit]
    exact (hagree x).1 (hcontent x hx) pre v post hsplit
      (kept_of_hasText htext (hnested x hx v hv))
  · intro hrecognised
    refine ⟨?_, fun x hx v hv text htext => ?_⟩
    · rw [hparsed, bodyTexts_eq_iff]
      intro x hx
      rw [hagree]
      intro pre v post hsplit hkept
      exact hrecognised x hx pre v post hsplit (hasText_of_kept hkept)
    · -- a cell with such a text would have been taken where it is met first
      by_contra hkept
      have hhas : x.2.hasText (normalizeText env nfc) v.node = true :=
        List.any_eq_true.2 ⟨text, List.mem_append_right _ htext, by simpa using hkept⟩
      obtain ⟨pre, u, post, hsplit, hu, hnew⟩ := exists_first hv
      have hid : identities x.1 u ∉ pre.map (identities x.1) := fun hold =>
        hnew (hu ▸ (hrecognised x hx pre u post hsplit (hu ▸ hhas)).1 hold)
      have hmem : u ∈ takenById identities x.1 x.2 := by
        rw [takenById, hsplit]
        exact mem_firstBy_of_new hid
      rw [← hu, htaken x hx u hmem] at htext
      cases htext

end Exact

/-! ## Lifetimes -/

/-- The cells whose proxies the variables `cell` and `paragraph` still hold when the cells of a row
are listed. -/
def DocxTable.held (t : DocxTable) (identity : CellVisit → Nat) (row : Nat) : List CellVisit :=
  ((t.visits.filter fun v => v.row < row).getLast?).toList ++
    (((firstBy identity [] t.visits).filter fun v =>
      v.row < row && !(t.cell v.node).paragraphs.isEmpty).getLast?).toList

/-- Proxies that live together have one identity exactly if they stand for one cell: those of a row,
and those of a row with the ones still held. -/
structure DocxTable.Live (t : DocxTable) (identity : CellVisit → Nat) : Prop where
  row : ∀ u ∈ t.visits, ∀ v ∈ t.visits, u.row = v.row → (identity u = identity v ↔ u.node = v.node)
  held : ∀ v ∈ t.visits, ∀ u ∈ t.held identity v.row, (identity u = identity v ↔ u.node = v.node)

/-- Within one row nothing goes wrong. -/
theorem DocxTable.Live.recognised_of_row {t : DocxTable} {identity : CellVisit → Nat}
    (h : t.Live identity) (hrow : ∀ u ∈ t.visits, ∀ v ∈ t.visits, u.row = v.row)
    (normalize : String → String) : t.Recognised normalize identity := by
  intro pre v post hsplit _
  have hv : v ∈ t.visits := by simp [hsplit]
  have hpre (u : CellVisit) (hu : u ∈ pre) : identity u = identity v ↔ u.node = v.node := by
    have hmem : u ∈ t.visits := by simp [hsplit, hu]
    exact h.row u hmem v hv (hrow u hmem v hv)
  rw [List.mem_map, List.mem_map]
  exact exists_congr fun u => and_congr_right fun hu => hpre u hu

/-! ## Sample tables -/

namespace Sample

/-- A table of the given rows whose cells hold one paragraph each. -/
def grid (rows : List (List Nat)) : DocxTable where
  cell node := ⟨[["A", "B", "C", "D"].getD node ""], []⟩
  rows := rows

def gridSource (rows : List (List Nat)) : DocxSource := ⟨false, [], [.table (grid rows)]⟩

/-- The first proxy of the second row gets the place of the first proxy of the first row. -/
def reused (_ : Nat) (v : CellVisit) : Nat := if v.node = 2 then 0 else v.node

def cellBlock (n : Nat) (text : String) (row column : Nat) : DocumentBlock :=
  ⟨blockIdText n, text, .docxTableParagraph 1 row column 1⟩

/-- What is left of four cells in two rows. -/
def gridDocument : ParsedDocument :=
  ⟨.docx, none, 3, [cellBlock 1 "A" 1 1, cellBlock 2 "B" 1 2, cellBlock 3 "D" 2 2]⟩

def rowDocument : ParsedDocument :=
  ⟨.docx, none, 2, [cellBlock 1 "A" 1 1, cellBlock 2 "B" 1 2]⟩

/-- One row, with the second cell merged over two columns. -/
theorem row_holdsEachCell :
    HoldsEachCell (normalizeText sampleRuntime id) (gridSource [[0, 1, 1]]) rowDocument := by
  have hparsed : parseDocx .application (normalizeText sampleRuntime id) reused
      (gridSource [[0, 1, 1]]) = .ok rowDocument := by decide +kernel
  refine (exact_iff ParseLimits.application_storable hparsed).2 fun x hx => ?_
  obtain rfl := List.mem_singleton.1 hx
  have hlive : (grid [[0, 1, 1]]).Live (reused 1) := ⟨by decide +kernel, by decide +kernel⟩
  exact hlive.recognised_of_row (by decide +kernel) _

/-- The identity of a proxy that is gone makes the first cell of the second row look like one that
was met before, and its text is lost. -/
theorem grid_loses :
    (∀ x ∈ bodyTables 0 (gridSource [[0, 1], [2, 3]]).body, x.2.Live (reused x.1)) ∧
      parseDocx .application (normalizeText sampleRuntime id) reused (gridSource [[0, 1], [2, 3]]) =
        .ok gridDocument ∧
      ¬HoldsEachCell (normalizeText sampleRuntime id) (gridSource [[0, 1], [2, 3]]) gridDocument := by
  refine ⟨fun x hx => ?_, by decide +kernel, fun h => absurd h.content (by decide +kernel)⟩
  obtain rfl := List.mem_singleton.1 hx
  exact ⟨by decide +kernel, by decide +kernel⟩

end Sample

end PaperGrading
