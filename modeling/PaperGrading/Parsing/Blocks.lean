import PaperGrading.Base.Checks
import PaperGrading.Domain.Grading
import PaperGrading.Domain.Provider
import PaperGrading.Domain.Strict
import Mathlib.Algebra.GroupWithZero.Nat
import Mathlib.Algebra.Order.BigOperators.Group.List
import Mathlib.Algebra.Order.Group.Nat

/-!
# Blocks of a parsed document

`parsing/models.py` and what both parsers share: the limits, the normalisation of a text, the
loop that numbers the blocks, and the model that reads a stored document back.

    appended blocks are the normalised texts that are not empty, in order   (appendAll_eq_ok)
    a built document is read back as it was                                 (ofJs_toJs)
-/

namespace PaperGrading

/-! ## Limits and errors -/

/-- `ParseLimits`, as far as the parsers read it. -/
structure ParseLimits where
  maxPdfPages : Nat
  maxCharacters : Nat
  maxBlocks : Nat

/-- `ParseLimits()`, the limits of the application. -/
def ParseLimits.application : ParseLimits := ⟨200, 500000, 50000⟩

/-- No limit exceeds what the stored document may have. -/
structure ParseLimits.Storable (limits : ParseLimits) : Prop where
  pages : limits.maxPdfPages ≤ 200
  characters : limits.maxCharacters ≤ 500000
  blocks : limits.maxBlocks ≤ 50000

theorem ParseLimits.application_storable : ParseLimits.application.Storable :=
  ⟨le_rfl, le_rfl, le_rfl⟩

structure DocumentParseError where
  code : String
  message : String
  deriving DecidableEq

/-- What a parser raises. -/
inductive ParseFailure where
  | parse (error : DocumentParseError)
  /-- a `ValidationError` of the named pydantic model -/
  | validation (model : String)
  deriving DecidableEq

/-! ## Texts -/

/-- `replace("\r\n", "\n").replace("\r", "\n")`. -/
def unixNewlines : List Char → List Char
  | '\r' :: '\n' :: cs => '\n' :: unixNewlines cs
  | '\r' :: cs => '\n' :: unixNewlines cs
  | c :: cs => c :: unixNewlines cs
  | [] => []

/-- `normalize_text`; `nfc` is `unicodedata.normalize("NFC", …)`. -/
def normalizeText (env : Runtime) (nfc : String → String) (value : String) : String :=
  let normalized := (unixNewlines (nfc value).toList).map fun c => if c = '\u00a0' then ' ' else c
  env.strip (String.ofList (normalized.filter (· != '\x00')))

/-! ## Models -/

/-- `f"b{n:06d}"`. -/
def blockIdText (n : Nat) : String :=
  let digits := Nat.toDigits 10 n
  String.ofList ('b' :: List.replicate (6 - digits.length) '0' ++ digits)

namespace DocumentLocator

def accepts : DocumentLocator → Bool
  | .docxParagraph p => decide (1 ≤ p)
  | .docxTableParagraph t r c p => decide (1 ≤ t) && decide (1 ≤ r) && decide (1 ≤ c) && decide (1 ≤ p)
  | .pdfTextBlock p b bbox => decide (1 ≤ p) && decide (1 ≤ b) && decide (bbox.length = 4)

end DocumentLocator

def DocumentBlock.accepts (b : DocumentBlock) : Bool :=
  isBlockId b.blockId && lengthBetween 1 500000 b.text.length && b.locator.accepts

namespace ParsedDocument

/-- The ids that `validate_block_ids` expects. -/
def expectedIds (n : Nat) : List String := (List.range n).map fun i => blockIdText (i + 1)

/-- `ParsedDocument(…)`: the field constraints, then `validate_block_ids`. -/
def accepts (d : ParsedDocument) : Bool :=
  lengthBetween 1 500000 d.characterCount && lengthBetween 1 50000 d.blocks.length &&
    d.blocks.all (·.accepts) && d.blocks.map (·.blockId) == expectedIds d.blocks.length &&
    d.characterCount == (d.blocks.map (·.text.length)).sum &&
    match d.mediaType, d.pageCount with
    | .pdf, some n => lengthBetween 1 200 n
    | .docx, none => true
    | _, _ => false

end ParsedDocument

/-! ## Reading a document back -/

def strictFloat : Js → Option String
  | .float text => some text
  | _ => none

def DocumentLocator.ofJs : Js → Option DocumentLocator
  | .obj fields =>
    match strictText fields "kind" with
    | some "docx_paragraph" => do
      let fields ← strictObject ["kind", "paragraph"] [] (.obj fields)
      return .docxParagraph (← strictPositive fields "paragraph")
    | some "docx_table_paragraph" => do
      let fields ← strictObject ["kind", "table", "row", "column", "paragraph"] [] (.obj fields)
      return .docxTableParagraph (← strictPositive fields "table") (← strictPositive fields "row")
        (← strictPositive fields "column") (← strictPositive fields "paragraph")
    | some "pdf_text_block" => do
      let fields ← strictObject ["kind", "page", "block", "bbox"] [] (.obj fields)
      return .pdfTextBlock (← strictPositive fields "page") (← strictPositive fields "block")
        (← strictTuple strictFloat fields "bbox")
    | _ => none
  | _ => none

def DocumentBlock.ofJs (raw : Js) : Option DocumentBlock := do
  let fields ← strictObject ["block_id", "text", "locator"] [] raw
  return {
    blockId := ← strictText fields "block_id"
    text := ← strictText fields "text"
    locator := ← (Js.get? fields "locator").bind DocumentLocator.ofJs }

namespace ParsedDocument

def mediaTypeOf (text : String) : Option MediaType :=
  if text = MediaType.pdf.text then some .pdf
  else if text = MediaType.docx.text then some .docx
  else none

def pageCountOf : Js → Option (Option Nat)
  | .null => some none
  | .int n => if 0 ≤ n then some (some n.toNat) else none
  | _ => none

/-- `ParsedDocument.model_validate_json`, on a decoded value. -/
def ofJs (raw : Js) : Option ParsedDocument := do
  let fields ← strictObject ["media_type", "page_count", "character_count", "blocks"]
    ["schema_version", "parser_version"] raw
  guard (literalOrMissing fields "schema_version" schemaVersion)
  guard (literalOrMissing fields "parser_version" parserVersion)
  let d : ParsedDocument := {
    mediaType := ← (strictText fields "media_type").bind mediaTypeOf
    pageCount := ← (Js.get? fields "page_count").bind pageCountOf
    characterCount := ← strictPositive fields "character_count"
    blocks := ← strictTuple DocumentBlock.ofJs fields "blocks" }
  guard d.accepts
  return d

end ParsedDocument

/-! ## The loop -/

/-- What the loops of both parsers have built. -/
structure BlockState where
  blocks : List DocumentBlock
  characterCount : Nat

/-- Before the first text. -/
def BlockState.start : BlockState := ⟨[], 0⟩

/-- `append_block`; `normalize` is `normalize_text`. -/
def appendBlock (limits : ParseLimits) (normalize : String → String) (s : BlockState)
    (item : String × DocumentLocator) : Except ParseFailure BlockState := do
  let normalized := normalize item.1
  if normalized.isEmpty then return s
  let characterCount := s.characterCount + normalized.length
  ensure (decide (characterCount ≤ limits.maxCharacters))
    (.parse ⟨"document_text_too_large", "可提取文本超过限制"⟩)
  ensure (decide (s.blocks.length < limits.maxBlocks))
    (.parse ⟨"document_blocks_too_many", "可定位文本块超过限制"⟩)
  let block : DocumentBlock := ⟨blockIdText (s.blocks.length + 1), normalized, item.2⟩
  ensure block.accepts (.validation "DocumentBlock")
  return ⟨s.blocks ++ [block], characterCount⟩

/-- The texts that are worth a block, normalised. -/
def keptTexts (normalize : String → String) (items : List (String × DocumentLocator)) :
    List (String × DocumentLocator) :=
  (items.map fun x => (normalize x.1, x.2)).filter fun x => !x.1.isEmpty

/-- The same of texts alone. -/
def keptLines (normalize : String → String) (raw : List String) : List String :=
  (raw.map normalize).filter fun text => !text.isEmpty

theorem map_fst_keptTexts (normalize : String → String) (items : List (String × DocumentLocator)) :
    (keptTexts normalize items).map (·.1) = keptLines normalize (items.map (·.1)) := by
  unfold keptTexts keptLines
  rw [List.map_map, List.filter_map, List.filter_map, List.map_map]
  rfl

theorem isBlockId_blockIdText {n : Nat} (h : n < 10 ^ 6) : isBlockId (blockIdText n) = true := by
  have hlength : (Nat.toDigits 10 n).length ≤ 6 :=
    (Nat.length_toDigits_le_iff (by omega) (by omega)).2 h
  have hdigits : ∀ c ∈ Nat.toDigits 10 n, c.isDigit = true := fun c hc =>
    Nat.isDigit_of_mem_toDigits (by omega) (by omega) hc
  unfold isBlockId blockIdText
  rw [String.toList_ofList]
  simp only [List.cons_append, List.length_append, List.length_replicate, List.all_append,
    Bool.and_eq_true, decide_eq_true_iff, List.all_eq_true]
  refine ⟨by omega, fun c hc => ?_, hdigits⟩
  rw [List.eq_of_mem_replicate hc]
  rfl

namespace BlockState

/-- What a reader of the document can see of the blocks. -/
def content (s : BlockState) : List (String × DocumentLocator) :=
  s.blocks.map fun b => (b.text, b.locator)

def texts (s : BlockState) : List String := s.blocks.map (·.text)

theorem map_fst_content (s : BlockState) : s.content.map (·.1) = s.texts := by
  rw [content, List.map_map]
  rfl

/-- The blocks are numbered and within the limits. -/
structure Built (limits : ParseLimits) (s : BlockState) : Prop where
  ids : s.blocks.map (·.blockId) = ParsedDocument.expectedIds s.blocks.length
  accepted : ∀ b ∈ s.blocks, b.accepts = true
  counted : s.characterCount = (s.blocks.map (·.text.length)).sum
  characters : s.characterCount ≤ limits.maxCharacters
  within : s.blocks.length ≤ limits.maxBlocks

theorem start_built (limits : ParseLimits) : start.Built limits :=
  ⟨rfl, fun _ hb => absurd hb List.not_mem_nil, rfl, Nat.zero_le _, Nat.zero_le _⟩

end BlockState

/-- The errors that the parsers are meant to raise. -/
def ParseFailure.Meant : ParseFailure → Prop
  | .parse _ => True
  | .validation _ => False

section Loop

variable {limits : ParseLimits} {normalize : String → String}

theorem expectedIds_succ (n : Nat) :
    ParsedDocument.expectedIds (n + 1) = ParsedDocument.expectedIds n ++ [blockIdText (n + 1)] := by
  unfold ParsedDocument.expectedIds
  rw [List.range_succ, List.map_append, List.map_singleton]

/-- **One text** becomes the next block, or nothing if it is empty. -/
theorem appendBlock_ends (hlimits : limits.Storable) {s : BlockState} (hs : s.Built limits)
    {item : String × DocumentLocator} (hlocator : item.2.accepts = true) :
    Ends (fun s' => s'.Built limits ∧ s'.content = s.content ++ keptTexts normalize [item])
      ParseFailure.Meant (appendBlock limits normalize s item) := by
  unfold appendBlock
  dsimp only
  split
  next hempty => exact .ok ⟨hs, by simp [keptTexts, hempty]⟩
  next hempty =>
    refine (Ends.ensure fun _ => trivial).bind fun _ hcharacters => ?_
    refine (Ends.ensure fun _ => trivial).bind fun _ hblocks => ?_
    rw [decide_eq_true_iff] at hcharacters hblocks
    have hpos : 0 < (normalize item.1).length := by
      rw [Nat.pos_iff_ne_zero]
      simpa [String.isEmpty_iff] using hempty
    have haccepts : DocumentBlock.accepts
        ⟨blockIdText (s.blocks.length + 1), normalize item.1, item.2⟩ = true := by
      have := hlimits.characters
      have := hlimits.blocks
      have hid : isBlockId (blockIdText (s.blocks.length + 1)) = true :=
        isBlockId_blockIdText (by omega)
      simp only [DocumentBlock.accepts, hid, hlocator, lengthBetween, Bool.true_and, Bool.and_true,
        Bool.and_eq_true, decide_eq_true_iff]
      omega
    rw [haccepts]
    refine .ok ⟨⟨?_, ?_, ?_, hcharacters, ?_⟩, ?_⟩
    · rw [List.map_append, hs.ids, List.length_append, List.length_singleton, expectedIds_succ]
      rfl
    · intro b hb
      rcases List.mem_append.1 hb with hb | hb
      · exact hs.accepted b hb
      · rw [List.mem_singleton.1 hb]
        exact haccepts
    · simp [hs.counted]
    · rw [List.length_append, List.length_singleton]
      omega
    · simp [BlockState.content, keptTexts, hempty]

theorem keptTexts_append (items items' : List (String × DocumentLocator)) :
    keptTexts normalize (items ++ items') = keptTexts normalize items ++ keptTexts normalize items' := by
  simp [keptTexts]

/-- **The blocks are the texts that are worth one, in order.** -/
theorem appendAll_ends (hlimits : limits.Storable) {s : BlockState} (hs : s.Built limits)
    {items : List (String × DocumentLocator)} (hlocators : ∀ x ∈ items, x.2.accepts = true) :
    Ends (fun s' => s'.Built limits ∧ s'.content = s.content ++ keptTexts normalize items)
      ParseFailure.Meant (items.foldlM (appendBlock limits normalize) s) := by
  refine Ends.foldlM (I := fun done (s' : BlockState) =>
    s'.Built limits ∧ s'.content = s.content ++ keptTexts normalize done)
    ⟨hs, by simp [keptTexts]⟩ fun done item s' hitem h => ?_
  refine (appendBlock_ends hlimits h.1 (hlocators item hitem)).mono fun s'' h' => ⟨h'.1, ?_⟩
  rw [h'.2, h.2, keptTexts_append, List.append_assoc]

end Loop

/-! ## The document -/

/-- What a parser promises of the document that it builds from the texts it has extracted. -/
structure Faithful (limits : ParseLimits) (normalize : String → String) (raw : List String)
    (d : ParsedDocument) : Prop where
  texts : d.blocks.map (·.text) = keptLines normalize raw
  ids : d.blocks.map (·.blockId) = ParsedDocument.expectedIds d.blocks.length
  characters : d.characterCount ≤ limits.maxCharacters
  blocks : d.blocks.length ≤ limits.maxBlocks
  pages : ∀ n ∈ d.pageCount, n ≤ limits.maxPdfPages
  readBack : ParsedDocument.ofJs d.toJs = some d

/-- The end of both parsers. -/
def buildDocument (mediaType : MediaType) (pageCount : Option Nat) (emptyMessage : String)
    (s : BlockState) : Except ParseFailure ParsedDocument := do
  ensure (!s.blocks.isEmpty) (.parse ⟨"document_empty", emptyMessage⟩)
  let d : ParsedDocument := ⟨mediaType, pageCount, s.characterCount, s.blocks⟩
  ensure d.accepts (.validation "ParsedDocument")
  return d

namespace ParsedDocument

/-- The page count that goes with the format. -/
def pagesFit (mediaType : MediaType) (pageCount : Option Nat) : Bool :=
  match mediaType, pageCount with
  | .pdf, some n => lengthBetween 1 200 n
  | .docx, none => true
  | _, _ => false

end ParsedDocument

theorem one_le_cast {n : Nat} (h : 1 ≤ n) : (1 : Int) ≤ n := by
  exact_mod_cast h

theorem DocumentLocator.ofJs_toJs {l : DocumentLocator} (h : l.accepts = true) :
    DocumentLocator.ofJs l.toJs = some l := by
  cases l with
  | docxParagraph p =>
    simp only [accepts, decide_eq_true_iff] at h
    simp [toJs, ofJs, strictText, strictObject, strictPositive, Js.get?, one_le_cast h]
  | docxTableParagraph t r c p =>
    simp only [accepts, Bool.and_eq_true, decide_eq_true_iff] at h
    obtain ⟨⟨⟨ht, hr⟩, hc⟩, hp⟩ := h
    simp [toJs, ofJs, strictText, strictObject, strictPositive, Js.get?, one_le_cast ht,
      one_le_cast hr, one_le_cast hc, one_le_cast hp]
  | pdfTextBlock p b bbox =>
    simp only [accepts, Bool.and_eq_true, decide_eq_true_iff] at h
    obtain ⟨⟨hp, hb⟩, -⟩ := h
    have hbbox : (bbox.map Js.float).mapM strictFloat = some bbox :=
      strictTuple_map fun _ _ => rfl
    simp [toJs, ofJs, strictText, strictObject, strictPositive, strictTuple, Js.get?, hbbox,
      one_le_cast hp, one_le_cast hb]

/-- What `model_dump` writes of a block. -/
def DocumentBlock.toJs (b : DocumentBlock) : Js :=
  .obj [("block_id", .str b.blockId), ("text", .str b.text), ("locator", b.locator.toJs)]

theorem DocumentBlock.ofJs_toJs {b : DocumentBlock} (h : b.accepts = true) :
    DocumentBlock.ofJs b.toJs = some b := by
  simp only [accepts, Bool.and_eq_true] at h
  simp [toJs, ofJs, strictText, strictObject, Js.get?, DocumentLocator.ofJs_toJs h.2]

/-- **A document that the model accepts is read back as it was.** -/
theorem ParsedDocument.ofJs_toJs {d : ParsedDocument} (h : d.accepts = true) :
    ofJs d.toJs = some d := by
  have haccepts := h
  simp only [accepts, lengthBetween, Bool.and_eq_true, List.all_eq_true, decide_eq_true_iff] at h
  obtain ⟨⟨⟨⟨⟨⟨hcount, -⟩, -⟩, hblocks⟩, -⟩, -⟩, -⟩ := h
  have hread : (d.blocks.map DocumentBlock.toJs).mapM DocumentBlock.ofJs = some d.blocks :=
    strictTuple_map fun b hb => DocumentBlock.ofJs_toJs (hblocks b hb)
  have hjs : d.toJs = .obj [("schema_version", .str schemaVersion),
      ("parser_version", .str parserVersion), ("media_type", .str d.mediaType.text),
      ("page_count", optionNatJs d.pageCount),
      ("character_count", .int d.characterCount), ("blocks", .arr (d.blocks.map DocumentBlock.toJs))] :=
    rfl
  have hmedia : mediaTypeOf d.mediaType.text = some d.mediaType := by
    cases d.mediaType <;> decide
  have hpages : pageCountOf (optionNatJs d.pageCount) = some d.pageCount := by
    cases d.pageCount <;> simp [pageCountOf, optionNatJs]
  rw [hjs]
  simp [ofJs, strictObject, strictText, strictPositive, strictTuple, literalOrMissing, Js.get?, hmedia,
    hpages, hread, one_le_cast hcount, haccepts]

/-- **A numbered document within the limits can be stored and read back.** -/
theorem buildDocument_ends {limits : ParseLimits} (hlimits : limits.Storable) {s : BlockState}
    (hs : s.Built limits) {mediaType : MediaType} {pageCount : Option Nat}
    (hpages : ParsedDocument.pagesFit mediaType pageCount = true)
    (hlimit : ∀ n ∈ pageCount, n ≤ limits.maxPdfPages) {normalize : String → String}
    {raw : List String} (htexts : s.texts = keptLines normalize raw) (emptyMessage : String) :
    Ends (fun d => d.blocks = s.blocks ∧ Faithful limits normalize raw d) ParseFailure.Meant
      (buildDocument mediaType pageCount emptyMessage s) := by
  unfold buildDocument
  refine (Ends.ensure fun _ => trivial).bind fun _ hblocks => ?_
  have hne : s.blocks ≠ [] := by simpa using hblocks
  have hlength : 0 < s.blocks.length := List.length_pos_iff.2 hne
  have hcount : 1 ≤ s.characterCount := by
    rw [hs.counted]
    obtain ⟨b, hb⟩ := List.exists_mem_of_ne_nil _ hne
    have haccepts := hs.accepted b hb
    simp only [DocumentBlock.accepts, lengthBetween, Bool.and_eq_true, decide_eq_true_iff] at haccepts
    exact haccepts.1.2.1.trans (List.le_sum_of_mem (List.mem_map_of_mem hb))
  have haccepts : ParsedDocument.accepts ⟨mediaType, pageCount, s.characterCount, s.blocks⟩ = true := by
    have hcharacters := hs.characters.trans hlimits.characters
    have hwithin := hs.within.trans hlimits.blocks
    have hids : (s.blocks.map (·.blockId) == ParsedDocument.expectedIds s.blocks.length) = true :=
      beq_iff_eq.2 hs.ids
    have hsum : (s.characterCount == (s.blocks.map (·.text.length)).sum) = true :=
      beq_iff_eq.2 hs.counted
    have hall : s.blocks.all (·.accepts) = true := List.all_eq_true.2 hs.accepted
    unfold ParsedDocument.pagesFit at hpages
    unfold ParsedDocument.accepts
    rw [hids, hsum, hall, hpages]
    simp only [lengthBetween, Bool.and_true, Bool.and_eq_true, decide_eq_true_iff]
    omega
  exact (Ends.ensure fun h => absurd haccepts (by simp [h])).bind fun _ _ =>
    .ok ⟨rfl, htexts, hs.ids, hs.characters, hs.within, hlimit, ParsedDocument.ofJs_toJs haccepts⟩

end PaperGrading
