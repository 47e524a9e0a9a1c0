import PaperGrading.Domain.Rubric

/-!
# The grading contract: documents, requests and results

The provider-neutral values of one scoring call: the parsed document, the
`GradeRequest` that is hashed and sent, and the result types of the model answer.
-/

namespace PaperGrading

/-! ## Documents -/

inductive DocumentLocator where
  | docxParagraph (paragraph : Nat)
  | docxTableParagraph (table row column paragraph : Nat)
  | pdfTextBlock (page block : Nat) (bbox : List String)
  deriving DecidableEq

inductive MediaType where
  | pdf
  | docx
  deriving DecidableEq

def MediaType.text : MediaType → String
  | .pdf => "application/pdf"
  | .docx => "application/vnd.openxmlformats-officedocument.wordprocessingml.document"

structure DocumentBlock where
  blockId : String
  text : String
  locator : DocumentLocator
  deriving DecidableEq

/-- A parsed document as stored under `extracted_object_key`. -/
structure ParsedDocument where
  mediaType : MediaType
  pageCount : Option Nat
  characterCount : Nat
  blocks : List DocumentBlock
  deriving DecidableEq

namespace DocumentLocator

def toJs : DocumentLocator → Js
  | .docxParagraph p => .obj [("kind", .str "docx_paragraph"), ("paragraph", .int p)]
  | .docxTableParagraph t r c p =>
    .obj [("kind", .str "docx_table_paragraph"), ("table", .int t), ("row", .int r),
      ("column", .int c), ("paragraph", .int p)]
  | .pdfTextBlock p b bbox =>
    .obj [("kind", .str "pdf_text_block"), ("page", .int p), ("block", .int b),
      ("bbox", .arr (bbox.map Js.float))]

end DocumentLocator

namespace ParsedDocument

def schemaVersion : String := "document-blocks.v1"

def parserVersion : String := "1"

def toJs (d : ParsedDocument) : Js :=
  .obj [("schema_version", .str schemaVersion), ("parser_version", .str parserVersion),
    ("media_type", .str d.mediaType.text),
    ("page_count", match d.pageCount with | none => .null | some n => .int n),
    ("character_count", .int d.characterCount),
    ("blocks", .arr (d.blocks.map fun b =>
      .obj [("block_id", .str b.blockId), ("text", .str b.text), ("locator", b.locator.toJs)]))]

end ParsedDocument

/-! ## Requests -/

def gradeRequestVersion : String := "grade-request.v1"

def gradeResultSchemaVersion : String := "grade-result.v1"

/-- The complete, hashable input of one scoring call. -/
structure GradeRequest where
  assignmentId : Uuid
  assignmentTitle : String
  assignmentInstructions : String
  rubricVersionId : Uuid
  rubricVersion : Nat
  rubric : StructuredRubric
  submissionId : Uuid
  document : ParsedDocument
  deriving DecidableEq

def GradeRequest.toJs (r : GradeRequest) : Js :=
  .obj [("schema_version", .str gradeRequestVersion),
    ("assignment_id", .str (uuidText r.assignmentId)),
    ("assignment_title", .str r.assignmentTitle),
    ("assignment_instructions", .str r.assignmentInstructions),
    ("rubric_version_id", .str (uuidText r.rubricVersionId)),
    ("rubric_version", .int r.rubricVersion), ("rubric", r.rubric.toJs),
    ("submission_id", .str (uuidText r.submissionId)), ("document", r.document.toJs),
    ("feedback_language", .str "en")]

/-! ## Results -/

structure EvidenceQuote where
  blockId : String
  quote : String
  deriving DecidableEq

structure DimensionResult where
  dimensionId : String
  score : Decimal
  reason : String
  evidence : List EvidenceQuote
  revisionSuggestions : List String
  deriving DecidableEq

structure DeductionResult where
  deductionId : String
  applied : Bool
  reason : String
  evidence : List EvidenceQuote
  deriving DecidableEq

/-- What the model may return; it has no total by design. -/
structure GradeResult where
  dimensions : List DimensionResult
  deductions : List DeductionResult
  overallFeedback : String
  deriving DecidableEq

structure ValidatedGradeResult extends GradeResult where
  subtotal : Decimal
  deductionTotal : Decimal
  totalScore : Decimal
  deriving DecidableEq

/-- `GradeValidationIssue`. -/
structure GradeValidationIssue where
  code : String
  path : String
  deriving DecidableEq

def GradeValidationIssue.toJs (i : GradeValidationIssue) : Js :=
  .obj [("code", .str i.code), ("path", .str i.path)]

end PaperGrading
