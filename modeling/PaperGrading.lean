import PaperGrading.Store.ConfirmDraft
import PaperGrading.Store.Pause
import PaperGrading.Store.ClaimTransactions
import PaperGrading.Store.CreateTransactions
import PaperGrading.Store.Admission
import PaperGrading.Providers.Updates
import PaperGrading.Providers.Tests
import PaperGrading.Providers.Connection
import PaperGrading.Providers.Adapters
import PaperGrading.Providers.Pricing
import PaperGrading.Providers.SchemaNames
import PaperGrading.Rubrics.Versions
import PaperGrading.Rubrics.Requests
import PaperGrading.Store.Owners
import PaperGrading.Rubrics.Content
import PaperGrading.Export.Snapshots
import PaperGrading.Export.Exits
import PaperGrading.Export.WorkbookContent
import PaperGrading.Submissions.Exits
import PaperGrading.Storage.Accounting
import PaperGrading.Storage.QuotaPolicy
import PaperGrading.Accounts.Refinement
import PaperGrading.Grading.Response
import PaperGrading.Grading.ContractHashes
import PaperGrading.Domain.JsonReadBack
import PaperGrading.Parsing.Pdf
import PaperGrading.Parsing.ActiveContent
import PaperGrading.Parsing.NormalizeText
import PaperGrading.Maintenance.Backup
import PaperGrading.Maintenance.RetentionSafety
import PaperGrading.Reviews.Unmodified
import PaperGrading.Reviews.Uncaught
import PaperGrading.Reviews.Confirmations
import PaperGrading.Reviews.Submitted
import PaperGrading.Frontend.HighlightedBlock
import PaperGrading.Frontend.ReviewTotal
import PaperGrading.Store.Preparation
import PaperGrading.Grading.Calls
import PaperGrading.Grading.CallsOnce
import PaperGrading.Grading.Audit
import PaperGrading.Grading.Corrections
import PaperGrading.Grading.Rebuilt
import PaperGrading.Grading.Verdicts
import PaperGrading.Http.UploadLimit
