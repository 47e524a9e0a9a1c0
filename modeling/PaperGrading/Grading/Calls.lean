import PaperGrading.Domain.JsonReadBack
import PaperGrading.Grading.Contracts
import PaperGrading.Grading.Prompt
import PaperGrading.Grading.Response
import PaperGrading.Parsing.Blocks
import PaperGrading.Store.Worker

/-!
# One provider call

The functions of `workers/tasks.py` and `grading/validator.py` around the call of one attempt: what
is read and built before the claim, the envelope that is stored under the key of the attempt, and
how the end of the call closes the attempt.

    buildCall            the prompt and the request of a preparation, or the exception
    assessGradeResponse  accepted, to be corrected once, or left to the teacher
    callEnvelope         what the end of a call stores
    callEnding           what the end of a call hands to the database
-/

namespace PaperGrading

/-! ## Values of a strict model -/

namespace Loaded

mutual

/-- The value as a strict model may take it: no float and no lone surrogate stands in an accepted
answer, and of equal keys the last one counts. -/
def js? : Loaded → Option Js
  | .null => some .null
  | .bool b => some (.bool b)
  | .int n => some (.int n)
  | .float _ => none
  | .str s => s.decode?.map .str
  | .arr elems => (elemsJs? elems).map .arr
  | .obj fields => (fieldsJs? fields).map .obj

def elemsJs? : List Loaded → Option (List Js)
  | [] => some []
  | v :: vs => do
    let w ← js? v
    let ws ← elemsJs? vs
    return w :: ws

def fieldsJs? : List (PyStr × Loaded) → Option (List (String × Js))
  | [] => some []
  | (k, v) :: fields => do
    let rest ← fieldsJs? fields
    let key ← k.decode?
    if rest.any (·.1 == key) then return rest
    else
      let w ← js? v
      return (key, w) :: rest

end

end Loaded

/-! ## Libraries and exceptions -/

/-- What the runner takes from its libraries: the JSON parsers of the interpreter and of pydantic,
the ASCII digit of a decimal digit, and the place of the first error of a `ValidationError`. -/
structure GradingLibrary where
  json : JsonRuntime
  decodeJson : Bytes → Option Js
  asciiDigit : Char → Char
  firstValidationPath : Loaded → String

/-- An exception that leaves `run`. -/
inductive RunException where
  | runtimeError (message : String)
  /-- a `ValueError`, of the prompts or of an encoding -/
  | valueError
  /-- a `ValidationError` of the named pydantic model -/
  | validationError (model : String)
  | gradeValidation (error : GradeValidationError)
  | load (error : LoadError)
  | storage
  | encryptedApiKey
  /-- whatever else leaves an adapter -/
  | adapter
  deriving DecidableEq

/-- The value, or the exception that its absence raises. -/
def required {α : Type} (x : Option α) (e : RunException) : Except RunException α :=
  match x with
  | some a => .ok a
  | none => .error e

@[simp] theorem required_eq_ok {α : Type} {x : Option α} {e : RunException} {a : α} :
    required x e = .ok a ↔ x = some a := by
  cases x <;> simp [required]

/-! ## Assessment -/

/-- `GradeValidationOutcome`; the shape of each status. -/
inductive GradeValidationOutcome where
  | accepted (attemptCount : Nat) (result : ValidatedGradeResult)
  | correctionRequired (issue : GradeValidationIssue)
  | needsReview (issue : GradeValidationIssue)
  deriving DecidableEq

def invalidAfterCorrection : String := "grade_output_invalid_after_correction"

/-- `validate_grade_response` of what `json.loads` returned. -/
def validateLoadedResponse (env : Runtime) (lib : GradingLibrary) (raw : Loaded)
    (request : GradeRequest) : Except GradeError ValidatedGradeResult :=
  match raw.js? with
  | none => .error (.validation ⟨"grade_output_schema_invalid", "模型没有返回有效的统一评分结构"⟩)
  | some js => validateRawResponse env lib.asciiDigit js request

/-- The issue of an error; only a schema error names a place in the answer. -/
def GradeValidationError.issue (lib : GradingLibrary) (raw : Loaded) (e : GradeValidationError) :
    GradeValidationIssue :=
  ⟨e.code, if e.code = "grade_output_schema_invalid" then lib.firstValidationPath raw else "$"⟩

/-- `assess_grade_response`. -/
def assessGradeResponse (env : Runtime) (lib : GradingLibrary) (raw : Loaded)
    (request : GradeRequest) (prompt : GradingPrompt) : Except RunException GradeValidationOutcome :=
  if prompt.baseRequestHash ≠ env.canonicalSha256 request.toJs then
    .error (.gradeValidation ⟨"grade_request_snapshot_mismatch", "评分请求与已保存提示词快照不一致"⟩)
  else if prompt.messages.length ≠ 2 ∧ prompt.messages.length ≠ 3 then .error .valueError
  else
    match validateLoadedResponse env lib raw request with
    | .ok result => .ok (.accepted (prompt.messages.length - 1) result)
    | .error (.uncaught model) => .error (.validationError model)
    | .error (.validation error) =>
      let issue := error.issue lib raw
      if lengthBetween 1 500 issue.path.length = false then
        .error (.validationError "GradeValidationIssue")
      else if prompt.messages.length = 2 then .ok (.correctionRequired issue)
      else .ok (.needsReview issue)

/-! ## Objects -/

/-- `MAX_PRIVATE_JSON_BYTES`. -/
def maxPrivateJsonBytes : Nat := 20 * 1024 * 1024

/-- `get_json`, of a storage that answers. -/
def getJson (objects : String → Option Bytes) (key : String) : Except RunException Bytes :=
  match objects key with
  | none => .error .storage
  | some content => if maxPrivateJsonBytes < content.length then .error .storage else .ok content

/-- The directory of an attempt's objects. -/
def attemptDirectory (ownerId jobId itemId attemptId : Uuid) : String :=
  "teachers/" ++ uuidText ownerId ++ "/grading-jobs/" ++ uuidText jobId ++ "/items/" ++
    uuidText itemId ++ "/attempts/" ++ uuidText attemptId

/-- `build_provider_response_object_key`. -/
def buildProviderResponseObjectKey (prepared : GradingItemPreparation) (attemptId : Uuid) : String :=
  attemptDirectory prepared.ownerId prepared.jobId prepared.itemId attemptId ++
    "/provider-response.v1.json"

/-! ## The request -/

/-- `ProviderGradeRequest`. -/
structure ProviderGradeRequest where
  providerConfigId : Uuid
  configVersion : Nat
  providerType : ProviderType
  baseUrl : String
  apiKey : String
  model : String
  timeoutSeconds : Decimal
  maxOutputTokens : Nat
  capabilities : ProviderModelCapabilities
  resultSchemaJson : String
  prompt : GradingPrompt
  deriving DecidableEq

/-- The checks of `ProviderGradeRequest`; that the schema text is canonical JSON of a dict holds of
every text that was just encoded. -/
def ProviderGradeRequest.accepts (env : Runtime) (r : ProviderGradeRequest) : Bool :=
  decide (0 < r.configVersion) && lengthBetween 1 2048 r.baseUrl.length &&
    lengthBetween 1 4096 r.apiKey.length && lengthBetween 1 255 r.model.length &&
    (decide (0 < r.timeoutSeconds.toRat) && decide (r.timeoutSeconds.toRat ≤ 300) &&
      r.timeoutSeconds.fits 8 3) &&
    lengthBetween 1 1000000 r.maxOutputTokens &&
    lengthBetween 2 1000000 r.resultSchemaJson.utf8ByteSize &&
    r.capabilities.model == r.model &&
    decide (r.maxOutputTokens ≤ r.capabilities.maxOutputTokens) &&
    env.sha256 r.resultSchemaJson.toUTF8.toList == r.prompt.resultSchemaHash

/-- The request that is graded, and the request that is sent. -/
structure GradingCall where
  gradeRequest : GradeRequest
  providerRequest : ProviderGradeRequest
  deriving DecidableEq

def GradingCall.prompt (call : GradingCall) : GradingPrompt := call.providerRequest.prompt

/-- `GradeRequest(…)` of a preparation. -/
def GradingItemPreparation.gradeRequest (prepared : GradingItemPreparation)
    (document : ParsedDocument) : GradeRequest where
  assignmentId := prepared.assignmentId
  assignmentTitle := prepared.assignmentTitle
  assignmentInstructions := prepared.assignmentInstructions
  rubricVersionId := prepared.rubricVersionId
  rubricVersion := prepared.rubricVersion
  rubric := prepared.rubric
  submissionId := prepared.submissionId
  document

/-- `previous_error_details.get("issues")`, if it is a list. -/
def ErrorDetails.issueList? : ErrorDetails → Option (List GradeValidationIssue)
  | .issues list => some list
  | _ => none

/-- `envelope.get("output_text")`, if the envelope is a dict and the value a text. -/
def previousOutput (envelope : Loaded) : Option PyStr :=
  match Part.key (some envelope) "output_text" with
  | some (.str s) => some s
  | _ => none

def correctionObjectInvalid : RunException := .runtimeError "纠正调用的上次响应审计对象无效"

/-- The checks of `GradeValidationIssue`. -/
def GradeValidationIssue.accepts (i : GradeValidationIssue) : Bool :=
  lengthBetween 1 128 i.code.length && lengthBetween 1 500 i.path.length &&
    i.code.toList.all (fun c => c.isLower || c.isDigit || c == '_') &&
    i.code.toList.head?.any (·.isLower)

/-- The correction prompt of a preparation that names a rejected answer. -/
def correctionPrompt (env : Runtime) (lib : GradingLibrary) (objects : String → Option Bytes)
    (prepared : GradingItemPreparation) (initial : GradingPrompt) (key : String) :
    Except RunException GradingPrompt := do
  let details ← required prepared.previousErrorDetails (.runtimeError "纠正调用缺少上次校验错误")
  let content ← getJson objects key
  let envelope ← (Json.loads lib.json content).mapError .load
  let previous ← required (previousOutput envelope) correctionObjectInvalid
  let issues ← required details.issueList? correctionObjectInvalid
  ensure (issues.all (·.accepts)) (.validationError "GradeValidationIssue")
  ensure (lengthBetween 1 100 issues.length) (.validationError "GradeValidationOutcome")
  -- a lone surrogate cannot be encoded
  let invalidOutput ← required previous.decode? .valueError
  required (buildCorrectionPrompt env initial issues invalidOutput) .valueError

/-- The prompt of a preparation: the initial one, or its correction. -/
def promptOf (env : Runtime) (lib : GradingLibrary) (objects : String → Option Bytes)
    (prepared : GradingItemPreparation) (request : GradeRequest) (version : PromptVersion) :
    Except RunException GradingPrompt :=
  let initial := buildGradingPrompt env request version
  match prepared.previousResponseObjectKey with
  | none => .ok initial
  | some key => correctionPrompt env lib objects prepared initial key

/-- The prompt is that of the contract which the batch has frozen. -/
def GradingPrompt.frozen (prompt : GradingPrompt) (prepared : GradingItemPreparation) : Bool :=
  prompt.promptVersion.text == prepared.promptVersion && prompt.promptHash == prepared.promptHash &&
    prompt.resultSchemaVersion == prepared.resultSchemaVersion &&
    prompt.resultSchemaHash == prepared.resultSchemaHash && prompt.rubricHash == prepared.rubricHash

/-- What `run` does between `prepare_item` and `claim_attempt`. -/
def buildCall (env : Runtime) (lib : GradingLibrary) (objects : String → Option Bytes)
    (prepared : GradingItemPreparation) : Except RunException GradingCall := do
  let content ← getJson objects prepared.extractedObjectKey
  let document ← required ((lib.decodeJson content).bind ParsedDocument.ofJs)
    (.validationError "ParsedDocument")
  let request := prepared.gradeRequest document
  ensure (request.accepts env) (.validationError "GradeRequest")
  let version ← required (PromptVersion.parse? prepared.promptVersion) .valueError
  let prompt ← promptOf env lib objects prepared request version
  ensure (prompt.frozen prepared) (.runtimeError "评分批次快照与当前评分契约不一致")
  let profile := prepared.providerSnapshot.modelProfile
  ensure (profile.capabilities.model == prepared.model)
    (.runtimeError "评分批次模型与能力快照不一致")
  let apiKey ← required (env.decrypt prepared.encryptedApiKey prepared.apiKeyNonce
    prepared.providerConfigId) .encryptedApiKey
  let providerRequest : ProviderGradeRequest := {
    providerConfigId := prepared.providerConfigId
    configVersion := prepared.providerConfigVersion
    providerType := prepared.providerSnapshot.providerType
    baseUrl := prepared.providerSnapshot.baseUrl
    apiKey
    model := prepared.model
    timeoutSeconds := prepared.providerSnapshot.timeoutSeconds
    maxOutputTokens := profile.gradingMaxOutputTokens
    capabilities := profile.capabilities
    resultSchemaJson := prepared.resultSchema
    prompt }
  ensure (providerRequest.accepts env) (.validationError "ProviderGradeRequest")
  return { gradeRequest := request, providerRequest }

/-! ## Base64 -/

def base64Alphabet : List Char :=
  "ABCDEFGHIJKLMNOPQRSTUVWXYZabcdefghijklmnopqrstuvwxyz0123456789+/".toList

/-- The digit of six bits. -/
def base64Digit (n : Nat) : Char := base64Alphabet.getD (n % 64) '='

/-- `base64.b64encode`, group by group of three bytes. -/
def b64encode : Bytes → List Char
  | [] => []
  | [a] => [base64Digit (a.toNat / 4), base64Digit (a.toNat % 4 * 16), '=', '=']
  | [a, b] => [base64Digit (a.toNat / 4), base64Digit (a.toNat % 4 * 16 + b.toNat / 16),
      base64Digit (b.toNat % 16 * 4), '=']
  | a :: b :: c :: rest =>
    base64Digit (a.toNat / 4) :: base64Digit (a.toNat % 4 * 16 + b.toNat / 16) ::
      base64Digit (b.toNat % 16 * 4 + c.toNat / 64) :: base64Digit c.toNat :: b64encode rest

/-! ## Envelopes -/

def Js.canonicalBytes (v : Js) : Bytes := v.canonicalJson.toByteArray.data.toList

/-- `canonical_json_bytes` of a value without floats: the interpreter writes no integer, and no
nesting, that it would not read. -/
def dumps (json : JsonRuntime) (v : Js) : Except RunException Bytes :=
  if v.decodes json.recursionLimit then .ok v.canonicalBytes else .error .valueError

def responseSchemaVersion : String := "provider-response.v1"

/-- What both envelopes say of the attempt. -/
def envelopeHead (env : Runtime) (claim : GradingAttemptClaim) (receivedAt : Time) :
    List (String × Js) :=
  [("schema_version", .str responseSchemaVersion), ("attempt_id", .str (uuidText claim.attemptId)),
    ("request_hash", .str (hashHex claim.requestHash)), ("received_at", .str (env.isoformat receivedAt))]

/-- The envelope of an answer. -/
def responseEnvelope (env : Runtime) (claim : GradingAttemptClaim) (receivedAt : Time)
    (r : ProviderGradeResult) : Js :=
  .obj (envelopeHead env claim receivedAt ++ [
    ("provider_type", .str r.providerType.text), ("requested_model", .str r.requestedModel),
    ("reported_model", .str r.reportedModel), ("request_id", .str r.requestId),
    ("finish_reason", .str ProviderGradeResult.finishReason), ("output_text", .str r.outputText),
    ("usage", r.usage.toJs),
    ("estimated_cost", match r.estimatedCost with | none => .null | some c => c.toJs),
    ("raw_response_base64", .str (String.ofList (b64encode r.rawResponse))),
    ("raw_response_sha256", .str (hashHex r.rawResponseSha256)),
    ("sent_schema_sha256", .str (hashHex r.sentSchemaSha256))])

/-- The envelope of an error that came with a response. -/
def errorEnvelope (env : Runtime) (claim : GradingAttemptClaim) (receivedAt : Time) (code : String)
    (r : ProviderHttpResponse) : Js :=
  .obj (envelopeHead env claim receivedAt ++ [
    ("error_code", .str code), ("status_code", .int r.statusCode),
    ("headers", .obj (r.headers.map fun h => (h.1, .str h.2))),
    ("raw_response_base64", .str (String.ofList (b64encode r.rawBody))),
    ("raw_response_sha256", .str (hashHex (env.sha256 r.rawBody)))])

/-! ## Endings -/

/-- What a run hands to `finish_success` or `finish_failure`. -/
inductive AttemptEnding where
  | succeeded (completion : GradingAttemptCompletion)
  | failed (failure : GradingAttemptFailure)
  deriving DecidableEq

inductive RunResult where
  | completed | duplicate | retryScheduled | needsReview | failed
  deriving DecidableEq

/-- What `run` returns after it has closed the attempt. -/
def AttemptEnding.result : AttemptEnding → RunResult
  | .succeeded _ => .completed
  | .failed failure =>
    match failure.action with
    | .retry => .retryScheduled
    | .needsReview => .needsReview
    | .failed => .failed

theorem notSent_ne_started : ProviderCallState.notSent ≠ .started := by decide

/-- The failure after a `ProviderUrlError`. -/
def urlFailure : GradingAttemptFailure where
  action := .failed
  retryDelaySeconds := 0
  errorCode := "provider_base_url_unavailable"
  errorDetails := .reason "url_policy_rejected"
  providerCallState := .notSent
  providerResult := none
  providerRequestId := none
  responseObjectKey := none
  responseObjectSha256 := none
  delayOk := by decide
  codeOk := by decide
  stateOk := notSent_ne_started

/-- What the runner decides on a `ProviderAdapterError` of the call with this number. -/
def adapterAction (maxProviderRetries callSequence : Nat) (e : ProviderAdapterError) :
    FailureAction :=
  if e.retryable = true ∧ e.retrySafety = .safe then
    if callSequence ≤ maxProviderRetries then .retry else .needsReview
  else if e.retrySafety = .unknown then .needsReview
  else .failed

/-- `min(60, 5 * 2 ** (claim.call_sequence - 1))` before a retry. -/
def retryDelay (action : FailureAction) (callSequence : Nat) : Nat :=
  if action = .retry then min 60 (5 * 2 ^ (callSequence - 1)) else 0

theorem retryDelay_le (action : FailureAction) (callSequence : Nat) :
    retryDelay action callSequence ≤ 3600 := by
  unfold retryDelay
  split <;> omega

/-- What is known of the call when it ended in an error. -/
def adapterCallState (e : ProviderAdapterError) : ProviderCallState :=
  if e.response.isSome then .responseReceived
  else if e.retrySafety = .safe then .notSent
  else .ambiguous

theorem adapterCallState_ne_started (e : ProviderAdapterError) : adapterCallState e ≠ .started := by
  unfold adapterCallState
  split
  · simp
  split <;> simp

theorem providerErrorCode_ne_empty {code : String} (h : code ∈ providerErrorCodes) : code ≠ "" := by
  rintro rfl
  exact absurd h (by decide)

/-- The first request id among the headers. -/
def headerRequestId (r : ProviderHttpResponse) : Option String :=
  ["x-request-id", "openai-request-id", "request-id"].findSome? fun name =>
    (r.headers.find? (·.1 == name)).map (·.2)

/-- The failure after a `ProviderAdapterError`. -/
def adapterFailure (env : Runtime) (maxProviderRetries : Nat) (prepared : GradingItemPreparation)
    (claim : GradingAttemptClaim) (e : ProviderAdapterError) : GradingAttemptFailure where
  action := adapterAction maxProviderRetries claim.callSequence e
  retryDelaySeconds :=
    retryDelay (adapterAction maxProviderRetries claim.callSequence e) claim.callSequence
  errorCode := e.code
  errorDetails := .retry e.retryable e.retrySafety
  providerCallState := adapterCallState e
  providerResult := none
  providerRequestId := e.response.bind headerRequestId
  responseObjectKey := e.response.map fun _ => buildProviderResponseObjectKey prepared claim.attemptId
  responseObjectSha256 := e.response.map fun r => env.sha256 r.rawBody
  delayOk := retryDelay_le _ _
  codeOk := providerErrorCode_ne_empty e.codeKnown
  stateOk := adapterCallState_ne_started e

/-- The failure after an answer that was not accepted. -/
def validationFailure (prepared : GradingItemPreparation) (claim : GradingAttemptClaim)
    (r : ProviderGradeResult) (correctable : Bool) (issue : GradeValidationIssue) :
    GradingAttemptFailure where
  action := if correctable then .retry else .needsReview
  retryDelaySeconds := 0
  errorCode := if correctable then correctionRequired else invalidAfterCorrection
  errorDetails := .issues [issue]
  providerCallState := .responseReceived
  providerResult := some r
  providerRequestId := none
  responseObjectKey := some (buildProviderResponseObjectKey prepared claim.attemptId)
  responseObjectSha256 := some r.rawResponseSha256
  delayOk := by decide
  codeOk := by cases correctable <;> decide
  stateOk := by decide

/-- `json.loads(provider_result.output_text)`, with `None` for what is no JSON. -/
def rawResult (lib : GradingLibrary) (outputText : String) : Except RunException Loaded :=
  match Json.loadsText lib.json (PyStr.ofString outputText).points with
  | .ok raw => .ok raw
  | .error .decode => .ok .null
  | .error e => .error (.load e)

/-- The ending that an answer leads to. -/
def answerEnding (env : Runtime) (lib : GradingLibrary) (prepared : GradingItemPreparation)
    (call : GradingCall) (claim : GradingAttemptClaim) (r : ProviderGradeResult) :
    Except RunException AttemptEnding := do
  let raw ← rawResult lib r.outputText
  let outcome ← assessGradeResponse env lib raw call.gradeRequest call.prompt
  return match outcome with
    | .accepted _ result => .succeeded ⟨result, r,
        buildProviderResponseObjectKey prepared claim.attemptId, r.rawResponseSha256⟩
    | .correctionRequired issue => .failed (validationFailure prepared claim r true issue)
    | .needsReview issue => .failed (validationFailure prepared claim r false issue)

/-- The ending that the end of `adapter.grade` leads to. -/
def callEnding (env : Runtime) (lib : GradingLibrary) (maxProviderRetries : Nat)
    (prepared : GradingItemPreparation) (call : GradingCall) (claim : GradingAttemptClaim) :
    ProviderOutcome → Except RunException AttemptEnding
  | .urlError => .ok (.failed urlFailure)
  | .adapterError e => .ok (.failed (adapterFailure env maxProviderRetries prepared claim e))
  | .returned r => answerEnding env lib prepared call claim r
  | .otherException => .error .adapter

/-- The envelope that is stored before the attempt is closed. -/
def callEnvelope (env : Runtime) (claim : GradingAttemptClaim) (receivedAt : Time) :
    ProviderOutcome → Option Js
  | .returned r => some (responseEnvelope env claim receivedAt r)
  | .adapterError e => e.response.map (errorEnvelope env claim receivedAt e.code)
  | .urlError | .otherException => none

end PaperGrading
