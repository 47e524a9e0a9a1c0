import PaperGrading.Parsing.Docx

/-!
# PDF documents

`parse_pdf` of `parsing/pdf.py`, from the extracted lines on, and what both parsers promise: a
document of exactly the texts that are worth a block, or a `DocumentParseError`.

    either parser ends in a faithful document or a document error          (parsers_faithful)
-/

namespace PaperGrading

/-! ## The extracted lines -/

/-- A line of a page with the distances of its edges, rounded, as JSON numbers: the edges that
pdfplumber gives are taken to be finite. -/
structure PdfLine where
  text : String
  x0 : String
  top : String
  x1 : String
  bottom : String

structure PdfPage where
  lines : List PdfLine
  images : Bool
  /-- characters, curves or rectangles -/
  marks : Bool

structure PdfSource where
  encrypted : Bool
  /-- `len(reader.pages)` -/
  pageCount : Nat
  /-- what `_reject_active_content` raises -/
  active : Option DocumentParseError
  pages : List PdfPage

/-- The texts that the parser extracts. -/
def PdfSource.texts (source : PdfSource) : List String :=
  source.pages.flatMap fun page => page.lines.map (·.text)

/-! ## The parser -/

/-- The blocks, and the pages without text. -/
structure PdfState where
  built : BlockState
  scanned : List Nat
  unextractable : List Nat

section Parser

variable (limits : ParseLimits) (normalize : String → String)

/-- The body of the loop over the lines of a page; the state carries `page_block_number`. -/
def appendLine (page : Nat) (state : Nat × BlockState) (line : PdfLine) :
    Except ParseFailure (Nat × BlockState) :=
  if (normalize line.text).isEmpty then .ok state
  else do
    let s ← appendBlock limits normalize state.2
      (line.text, .pdfTextBlock page (state.1 + 1) [line.x0, line.top, line.x1, line.bottom])
    return (state.1 + 1, s)

/-- The body of the loop over the pages. -/
def parsePage (state : PdfState) (numbered : PdfPage × Nat) : Except ParseFailure PdfState := do
  let (page, i) := numbered
  let lines ← page.lines.foldlM (appendLine limits normalize (i + 1)) (0, state.built)
  let empty := lines.1 == 0
  return ⟨lines.2, if empty && page.images then state.scanned ++ [i + 1] else state.scanned,
    if empty && !page.images && page.marks then state.unextractable ++ [i + 1]
    else state.unextractable⟩

/-- The `try` block of `parse_pdf`. -/
def readPdf (source : PdfSource) : Except ParseFailure ParsedDocument := do
  ensure (!source.encrypted) (.parse ⟨"document_encrypted", "不支持加密 PDF"⟩)
  ensure (source.pageCount != 0) (.parse ⟨"document_empty", "PDF 没有页面"⟩)
  ensure (decide (source.pageCount ≤ limits.maxPdfPages))
    (.parse ⟨"pdf_pages_too_many", "PDF 页数超过限制"⟩)
  match source.active with
  | some error => .error (.parse error)
  | none => do
    ensure (source.pages.length == source.pageCount)
      (.parse ⟨"pdf_parse_failed", "PDF 页面目录不一致"⟩)
    let state ← source.pages.zipIdx.foldlM (parsePage limits normalize) ⟨.start, [], []⟩
    ensure state.scanned.isEmpty
      (.parse ⟨if state.built.blocks.isEmpty then "pdf_scan_unsupported"
        else "pdf_partial_scan_unsupported", "不支持扫描型 PDF，且不会自动执行 OCR"⟩)
    ensure state.unextractable.isEmpty
      (.parse ⟨"pdf_text_unextractable", "PDF 页面文字无法可靠提取"⟩)
    buildDocument .pdf (some source.pageCount) "PDF 没有可提取文字" state.built

/-- `parse_pdf` of the extracted lines; a `ValidationError` is a `ValueError`. -/
def parsePdf (source : PdfSource) : Except ParseFailure ParsedDocument :=
  (readPdf limits normalize source).mapError fun
    | .parse error => .parse error
    | .validation _ => .parse ⟨"pdf_parse_failed", "PDF 文件损坏或无法解析"⟩

end Parser

/-! ## What the parser builds -/

section Parsed

variable {limits : ParseLimits} {normalize : String → String}

theorem keptLines_append (raw raw' : List String) :
    keptLines normalize (raw ++ raw') = keptLines normalize raw ++ keptLines normalize raw' := by
  simp [keptLines]

theorem appendLine_ends (hlimits : limits.Storable) {page : Nat} (hpage : 1 ≤ page)
    {state : Nat × BlockState} (hs : state.2.Built limits) (line : PdfLine) :
    Ends (fun state' => state'.2.Built limits ∧
        state'.2.texts = state.2.texts ++ keptLines normalize [line.text])
      ParseFailure.Meant (appendLine limits normalize page state line) := by
  unfold appendLine
  split
  next hempty => exact .ok ⟨hs, by simp [keptLines, hempty]⟩
  next hkept =>
    have haccepts : DocumentLocator.accepts (.pdfTextBlock page (state.1 + 1)
        [line.x0, line.top, line.x1, line.bottom]) = true := by
      simp [DocumentLocator.accepts, hpage]
    refine (appendBlock_ends hlimits hs haccepts).bind fun s h => .ok ⟨h.1, ?_⟩
    rw [← BlockState.map_fst_content, h.2, List.map_append, BlockState.map_fst_content,
      map_fst_keptTexts]
    rfl

/-- **A page** adds the texts of its lines. -/
theorem parsePage_ends (hlimits : limits.Storable) {state : PdfState}
    (hs : state.built.Built limits) (numbered : PdfPage × Nat) :
    Ends (fun state' => state'.built.Built limits ∧
        state'.built.texts = state.built.texts ++
          keptLines normalize (numbered.1.lines.map (·.text)))
      ParseFailure.Meant (parsePage limits normalize state numbered) := by
  have hlines : Ends (fun state' => state'.2.Built limits ∧ state'.2.texts = state.built.texts ++
      keptLines normalize (numbered.1.lines.map (·.text))) ParseFailure.Meant
      (numbered.1.lines.foldlM (appendLine limits normalize (numbered.2 + 1)) (0, state.built)) := by
    refine Ends.foldlM (I := fun (done : List PdfLine) (state' : Nat × BlockState) => state'.2.Built limits ∧
      state'.2.texts = state.built.texts ++ keptLines normalize (done.map (·.text)))
      ⟨hs, by simp [keptLines]⟩ fun done line state' _ h => ?_
    refine (appendLine_ends hlimits (Nat.le_add_left 1 _) h.1 line).mono fun s'' h' => ⟨h'.1, ?_⟩
    rw [h'.2, h.2, List.append_assoc, ← keptLines_append, List.map_append, List.map_singleton]
  exact hlines.bind fun lines h => .ok h

theorem readPdf_ends (hlimits : limits.Storable) (source : PdfSource) :
    Ends (Faithful limits normalize source.texts) ParseFailure.Meant
      (readPdf limits normalize source) := by
  unfold readPdf
  refine (Ends.ensure fun _ => trivial).bind fun _ _ => ?_
  refine (Ends.ensure fun _ => trivial).bind fun _ hpages => ?_
  refine (Ends.ensure fun _ => trivial).bind fun _ hmost => ?_
  rw [bne_iff_ne] at hpages
  rw [decide_eq_true_iff] at hmost
  split
  · exact .error trivial
  refine (Ends.ensure fun _ => trivial).bind fun _ _ => ?_
  have hloop : Ends (fun state => state.built.Built limits ∧
      state.built.texts = keptLines normalize source.texts) ParseFailure.Meant
      (source.pages.zipIdx.foldlM (parsePage limits normalize) ⟨.start, [], []⟩) := by
    have htexts : source.texts =
        source.pages.zipIdx.flatMap fun numbered => numbered.1.lines.map (·.text) := by
      conv_lhs => rw [PdfSource.texts, ← List.zipIdx_map_fst 0 source.pages, List.flatMap_map]
    rw [htexts]
    refine Ends.foldlM (I := fun (done : List (PdfPage × Nat)) (state : PdfState) => state.built.Built limits ∧
      state.built.texts = keptLines normalize (done.flatMap fun numbered =>
        numbered.1.lines.map (·.text))) ⟨BlockState.start_built limits, rfl⟩
      fun done numbered state _ h => ?_
    refine (parsePage_ends hlimits h.1 numbered).mono fun state' h' => ⟨h'.1, ?_⟩
    rw [h'.2, h.2, ← keptLines_append, List.flatMap_append, List.flatMap_singleton]
  refine hloop.bind fun state h => ?_
  refine (Ends.ensure fun _ => trivial).bind fun _ _ => ?_
  refine (Ends.ensure fun _ => trivial).bind fun _ _ => ?_
  have hfit : ParsedDocument.pagesFit .pdf (some source.pageCount) = true := by
    have := hlimits.pages
    simp only [ParsedDocument.pagesFit, lengthBetween, Bool.and_eq_true, decide_eq_true_iff]
    omega
  exact (buildDocument_ends hlimits h.1 hfit (fun n hn => by cases hn; exact hmost) h.2 _).mono
    fun d hd => hd.2

theorem parsePdf_ends (hlimits : limits.Storable) (source : PdfSource) :
    Ends (Faithful limits normalize source.texts) ParseFailure.Meant
      (parsePdf limits normalize source) := by
  refine (readPdf_ends hlimits source).mapError fun e he => ?_
  cases e with
  | parse error => exact trivial
  | validation model => exact he.elim

end Parsed

/-- **Either parser** ends in a document of exactly the texts that are worth a block, numbered, within
the limits and read back as it was, or in a document error. -/
theorem parsers_faithful {limits : ParseLimits} (hlimits : limits.Storable) (env : Runtime)
    (nfc : String → String) :
    (∀ (identities : Nat → CellVisit → Nat) (source : DocxSource),
      Ends (Faithful limits (normalizeText env nfc)
          ((bodyTexts (takenById identities) 0 0 source.body).map (·.1))) ParseFailure.Meant
        (parseDocx limits (normalizeText env nfc) identities source)) ∧
      ∀ source : PdfSource, Ends (Faithful limits (normalizeText env nfc) source.texts)
        ParseFailure.Meant (parsePdf limits (normalizeText env nfc) source) :=
  ⟨fun identities source => (parseDocx_ends hlimits identities source).mono fun _ h => h.1,
    parsePdf_ends hlimits⟩

/-! ## A sample page -/

namespace Sample

def page : PdfSource where
  encrypted := false
  pageCount := 1
  active := none
  pages := [⟨[⟨" An\u00a0essay\r\n", "72.0", "72.0", "120.5", "84.0"⟩,
    ⟨"\u00a0", "72.0", "90.0", "75.0", "102.0"⟩], false, true⟩]

theorem page_faithful : Ends (Faithful .application (normalizeText sampleRuntime id) page.texts)
    ParseFailure.Meant (parsePdf .application (normalizeText sampleRuntime id) page) :=
  (parsers_faithful ParseLimits.application_storable sampleRuntime id).2 page

end Sample

end PaperGrading
