import PaperGrading.Domain.DecimalContext
import PaperGrading.Domain.Loaded
import PaperGrading.Domain.Provider
import PaperGrading.Domain.Rubric
import PaperGrading.Store.Commits

/-!
# How the adapters answer

The part of `grade` that comes after the request was sent: the client of `providers/http.py`
collects and decodes the body, the adapter looks at the status, reads the fields by hand in a
guarded block and builds the result.  The block turns `KeyError` and `TypeError` into
`provider_response_invalid`; what stands before and after it is not guarded.

    a block returns an answer exactly where the JSON has its shape    (OpenAI.read_eq_ok, …)
    grade returns or raises `ProviderAdapterError` exactly when the body can be decoded, the
      error code of OpenAI can be hashed and the answer fits its models       (handled_iff)
-/

namespace PaperGrading

/-! ## Exceptions -/

/-- An exception of `grade` that its callers do not expect. -/
inductive UncaughtException where
  | valueError
  | typeError
  | recursionError
  /-- of a pydantic model -/
  | validationError (model : String)
  deriving DecidableEq

inductive GradeException where
  | adapter (error : ProviderAdapterError)
  | uncaught (exception : UncaughtException)
  deriving DecidableEq

/-- A code of `ProviderAdapterError`. -/
abbrev KnownCode := {code : String // code ∈ providerErrorCodes}

namespace KnownCode

def authenticationFailed : KnownCode := ⟨"provider_authentication_failed", by decide⟩
def balanceUnavailable : KnownCode := ⟨"provider_balance_unavailable", by decide⟩
def contentRefused : KnownCode := ⟨"provider_content_refused", by decide⟩
def contextExceeded : KnownCode := ⟨"provider_context_exceeded", by decide⟩
def endpointInvalid : KnownCode := ⟨"provider_endpoint_invalid", by decide⟩
def outputTruncated : KnownCode := ⟨"provider_output_truncated", by decide⟩
def permissionDenied : KnownCode := ⟨"provider_permission_denied", by decide⟩
def quotaExhausted : KnownCode := ⟨"provider_quota_exhausted", by decide⟩
def rateLimited : KnownCode := ⟨"provider_rate_limited", by decide⟩
def redirectRejected : KnownCode := ⟨"provider_redirect_rejected", by decide⟩
def requestFailed : KnownCode := ⟨"provider_request_failed", by decide⟩
def requestInvalid : KnownCode := ⟨"provider_request_invalid", by decide⟩
def responseInvalid : KnownCode := ⟨"provider_response_invalid", by decide⟩
def responseTooLarge : KnownCode := ⟨"provider_response_too_large", by decide⟩
def timeout : KnownCode := ⟨"provider_timeout", by decide⟩
def unavailable : KnownCode := ⟨"provider_unavailable", by decide⟩

/-- `ProviderAdapterError(code, …, response=response)` -/
def error (code : KnownCode) (response : Option ProviderHttpResponse) : GradeException :=
  .adapter ⟨code.1, false, .never, response, code.2, fun h => nomatch h⟩

/-- The same with `retryable=True`. -/
def retryable (code : KnownCode) (response : Option ProviderHttpResponse) : GradeException :=
  .adapter ⟨code.1, true, .unknown, response, code.2, fun _ => rfl⟩

/-- The same with `retryable=True, retry_safety="safe"`. -/
def safe (code : KnownCode) (response : Option ProviderHttpResponse) : GradeException :=
  .adapter ⟨code.1, true, .safe, response, code.2, fun _ => rfl⟩

end KnownCode

/-! ## The client -/

/-- `MAX_PROVIDER_RESPONSE_BYTES`. -/
def maxProviderResponseBytes : Nat := 1000000

/-- `_SAFE_RESPONSE_HEADERS`. -/
def safeResponseHeaders : List String :=
  ["content-type", "openai-request-id", "request-id", "retry-after", "x-request-id"]

/-- A response as it arrives; the headers are decoded as Latin-1, their names in lower case. -/
structure RawResponse where
  statusCode : Nat
  headers : List (String × String)
  body : Bytes
  deriving DecidableEq

/-- The response that the client hands on. -/
def RawResponse.http (r : RawResponse) : ProviderHttpResponse where
  statusCode := r.statusCode
  rawBody := r.body
  headers := safeResponseHeaders.filterMap fun name =>
    (r.headers.reverse.find? (·.1 == name)).map fun header => (name, header.2)

/-- The end of `_request_json`. -/
def requestJson (loads : Bytes → Except LoadError Loaded) (r : RawResponse) :
    Except GradeException (ProviderHttpResponse × Loaded) :=
  if maxProviderResponseBytes < r.body.length then .error (KnownCode.responseTooLarge.error none)
  else
    match loads r.body with
    | .ok payload => .ok (r.http, payload)
    | .error .decode => .ok (r.http, .null)
    | .error .digits => .error (.uncaught .valueError)
    | .error .recursion => .error (.uncaught .recursionError)

/-! ## Status codes -/

/-- `raise_for_provider_status`. -/
def raiseForProviderStatus (providerType : ProviderType) (response : ProviderHttpResponse) :
    Except GradeException Unit :=
  let code := response.statusCode
  if code = 200 then .ok ()
  else if 300 ≤ code ∧ code < 400 then .error (KnownCode.redirectRejected.error response)
  else if code = 401 ∨ code = 403 ∧ providerType = .gemini then
    .error (KnownCode.authenticationFailed.error response)
  else if code = 403 then .error (KnownCode.permissionDenied.error response)
  else if code = 402 then .error (KnownCode.balanceUnavailable.error response)
  else if code = 400 ∨ code = 422 then .error (KnownCode.requestInvalid.error response)
  else if code = 404 then .error (KnownCode.endpointInvalid.error response)
  else if code = 408 ∨ code = 504 then .error (KnownCode.timeout.safe response)
  else if code = 429 then .error (KnownCode.rateLimited.safe response)
  else if code = 500 ∨ code = 502 ∨ code = 503 ∨ code = 529 then
    .error (KnownCode.unavailable.safe response)
  else .error (KnownCode.requestFailed.error response)

/-- `payload["error"]["code"]`, where there is one. -/
def errorCode (payload : Loaded) : Part := (Part.key (some payload) "error").key "code"

/-- `str(error_code)` is one of these numbers. -/
def normalizedCodeIn (code : Part) (numbers : List Nat) : Bool :=
  match code with
  | some (.str s) => numbers.any fun n => s.is (toString n)
  | some (.int n) => numbers.any fun m => n == m
  | _ => false

/-- The look of an adapter at the error code and the status. -/
def raiseForStatus (providerType : ProviderType) (response : ProviderHttpResponse)
    (payload : Loaded) : Except GradeException Unit :=
  let code := errorCode payload
  match providerType with
  | .openai =>
    -- a membership test in a set hashes the code
    if !code.hashable then .error (.uncaught .typeError)
    else if code.is "insufficient_quota" || code.is "billing_hard_limit_reached" then
      .error (KnownCode.quotaExhausted.error response)
    else raiseForProviderStatus .openai response
  | .kimi =>
    if code.is "exceeded_current_quota_error" then .error (KnownCode.quotaExhausted.error response)
    else if code.is "engine_overloaded_error" then .error (KnownCode.unavailable.retryable response)
    else if code.is "content_filter" then .error (KnownCode.contentRefused.error response)
    else raiseForProviderStatus .kimi response
  | .glm =>
    if normalizedCodeIn code [1000, 1001, 1003] then
      .error (KnownCode.authenticationFailed.error response)
    else if normalizedCodeIn code [1113, 1308] then
      .error (KnownCode.quotaExhausted.error response)
    else if normalizedCodeIn code [1301] then .error (KnownCode.contentRefused.error response)
    else if normalizedCodeIn code [1200, 1230, 1234, 1305] then
      .error (KnownCode.unavailable.retryable response)
    else raiseForProviderStatus .glm response
  | providerType => raiseForProviderStatus providerType response

/-! ## Guarded blocks -/

/-- What a guarded block has read. -/
structure Answer where
  requestId : PyStr
  reportedModel : PyStr
  outputText : PyStr
  inputTokens : Nat
  cachedInputTokens : Nat
  cacheWriteInputTokens : Nat
  outputTokens : Nat
  reasoningTokens : Nat
  totalTokens : Option Nat
  deriving DecidableEq

open PaperGrading.Part

abbrev Read := Except (ReadError KnownCode)

namespace OpenAI

def message (payload : Loaded) : Part := (key (some payload) "output").only

def block (payload : Loaded) : Part := ((message payload).key "content").only

def usage (payload : Loaded) : Part := key (some payload) "usage"

/-- An incomplete answer, for one of two reasons. -/
def incomplete (payload : Loaded) : Read Unit :=
  if (key (some payload) "status").is "incomplete" then do
    let reason := (key (some payload) "incomplete_details").key "reason"
    refuseIf (reason.is "max_output_tokens") .outputTruncated
    refuseIf (reason.is "content_filter") .contentRefused
    need false
  else .ok ()

def read (env : Runtime) (payload : Loaded) : Read Answer := do
  need ((key (some payload) "object").is "response")
  incomplete payload
  need ((key (some payload) "status").is "completed")
  let requestId ← nonempty (key (some payload) "id")
  let reportedModel ← nonempty (key (some payload) "model")
  need (((message payload).key "type").is "message" &&
    ((message payload).key "role").is "assistant" &&
    ((message payload).key "status").is "completed")
  need (block payload).isSome
  refuseIf (((block payload).key "type").is "refusal") .contentRefused
  need (((block payload).key "type").is "output_text")
  let outputText ← notBlank env ((block payload).key "text")
  let inputTokens ← count ((usage payload).key "input_tokens")
  let outputTokens ← count ((usage payload).key "output_tokens")
  let totalTokens ← count ((usage payload).key "total_tokens")
  let cachedTokens ← count (((usage payload).key "input_tokens_details").key "cached_tokens")
  let reasoningTokens ← count
    (((usage payload).key "output_tokens_details").key "reasoning_tokens")
  need (totalTokens == inputTokens + outputTokens)
  return ⟨requestId, reportedModel, outputText, inputTokens, cachedTokens, 0, outputTokens,
    reasoningTokens, totalTokens⟩

end OpenAI

namespace Anthropic

def block (payload : Loaded) : Part := (key (some payload) "content").only

def usage (payload : Loaded) : Part := key (some payload) "usage"

def read (env : Runtime) (payload : Loaded) : Read Answer := do
  need ((key (some payload) "type").is "message" && (key (some payload) "role").is "assistant")
  let stopReason := key (some payload) "stop_reason"
  refuseIf (stopReason.is "max_tokens") .outputTruncated
  refuseIf (stopReason.is "model_context_window_exceeded") .contextExceeded
  refuseIf (stopReason.is "refusal") .contentRefused
  need (stopReason.is "end_turn")
  let requestId ← nonempty (key (some payload) "id")
  let reportedModel ← nonempty (key (some payload) "model")
  need (((block payload).key "type").is "text")
  let outputText ← notBlank env ((block payload).key "text")
  let inputTokens ← count ((usage payload).key "input_tokens")
  let cacheWriteTokens ← countOr ((usage payload).key "cache_creation_input_tokens") 0
  let cacheReadTokens ← countOr ((usage payload).key "cache_read_input_tokens") 0
  let outputTokens ← count ((usage payload).key "output_tokens")
  return ⟨requestId, reportedModel, outputText, inputTokens + cacheWriteTokens + cacheReadTokens,
    cacheReadTokens, cacheWriteTokens, outputTokens, 0, none⟩

end Anthropic

namespace Gemini

def candidate (payload : Loaded) : Part := (key (some payload) "candidates").only

def part (payload : Loaded) : Part :=
  (((candidate payload).key "content").key "parts").only

def usage (payload : Loaded) : Part := key (some payload) "usageMetadata"

/-- The finish reasons that count as a refusal. -/
def refusals : List String :=
  ["SAFETY", "RECITATION", "BLOCKLIST", "PROHIBITED_CONTENT", "SPII", "IMAGE_SAFETY",
    "IMAGE_PROHIBITED_CONTENT"]

def read (env : Runtime) (payload : Loaded) : Read Answer := do
  need (isDict (some payload))
  refuseIf ((key (some payload) "promptFeedback").key "blockReason").truthy .contentRefused
  let requestId ← nonempty (key (some payload) "responseId")
  let reportedModel ← nonempty (key (some payload) "modelVersion")
  need ((candidate payload).key "index").isZero
  let finishReason := (candidate payload).key "finishReason"
  refuseIf (finishReason.is "MAX_TOKENS") .outputTruncated
  -- the membership test raises `TypeError` for a list or a dict, as the comparison below
  refuseIf (refusals.any finishReason.is) .contentRefused
  need (finishReason.is "STOP")
  need (((candidate payload).key "content").key "role" |>.is "model")
  let outputText ← notBlank env ((part payload).key "text")
  let inputTokens ← count ((usage payload).key "promptTokenCount")
  let cachedTokens ← countOr ((usage payload).key "cachedContentTokenCount") 0
  let candidateTokens ← count ((usage payload).key "candidatesTokenCount")
  let reasoningTokens ← countOr ((usage payload).key "thoughtsTokenCount") 0
  let totalTokens ← count ((usage payload).key "totalTokenCount")
  need (totalTokens == inputTokens + (candidateTokens + reasoningTokens))
  return ⟨requestId, reportedModel, outputText, inputTokens, cachedTokens, 0,
    candidateTokens + reasoningTokens, reasoningTokens, totalTokens⟩

end Gemini

namespace ChatCompletion

def choice (payload : Loaded) : Part := (key (some payload) "choices").only

def message (payload : Loaded) : Part := (choice payload).key "message"

def usage (payload : Loaded) : Part := key (some payload) "usage"

end ChatCompletion

open ChatCompletion

namespace OpenAICompatible

/-- Details that may be left out. -/
def details (payload : Loaded) (name : String) : Part := (usage payload).key name

def read (env : Runtime) (payload : Loaded) : Read Answer := do
  need ((key (some payload) "object").is "chat.completion")
  let requestId ← nonempty (key (some payload) "id")
  let reportedModel ← nonempty (key (some payload) "model")
  need ((choice payload).key "index").isZero
  let finishReason := (choice payload).key "finish_reason"
  refuseIf (finishReason.is "length") .outputTruncated
  refuseIf (finishReason.is "content_filter" || finishReason.is "sensitive") .contentRefused
  refuseIf (finishReason.is "model_context_window_exceeded") .contextExceeded
  need (finishReason.is "stop")
  need (((message payload).key "role").is "assistant")
  let outputText ← notBlank env ((message payload).key "content")
  let inputTokens ← count ((usage payload).key "prompt_tokens")
  let outputTokens ← count ((usage payload).key "completion_tokens")
  let totalTokens ← count ((usage payload).key "total_tokens")
  let inputDetails := details payload "prompt_tokens_details"
  let outputDetails := details payload "completion_tokens_details"
  need ((inputDetails.isNone || inputDetails.isDict) &&
    (outputDetails.isNone || outputDetails.isDict))
  let cachedTokens ← countOr (inputDetails.key "cached_tokens") 0
  let reasoningTokens ← countOr (outputDetails.key "reasoning_tokens") 0
  need (totalTokens == inputTokens + outputTokens)
  return ⟨requestId, reportedModel, outputText, inputTokens, cachedTokens, 0, outputTokens,
    reasoningTokens, totalTokens⟩

end OpenAICompatible

namespace DeepSeek

/-- `message.get("reasoning_content") in {None, ""}` -/
def noReasoning (payload : Loaded) : Bool :=
  match (message payload).key "reasoning_content" with
  | none | some .null => true
  | some (.str s) => s.points.isEmpty
  | some _ => false

def read (env : Runtime) (payload : Loaded) : Read Answer := do
  need ((key (some payload) "object").is "chat.completion")
  let requestId ← nonempty (key (some payload) "id")
  let reportedModel ← nonempty (key (some payload) "model")
  need ((choice payload).key "index").isZero
  let finishReason := (choice payload).key "finish_reason"
  refuseIf (finishReason.is "length") .outputTruncated
  refuseIf (finishReason.is "content_filter") .contentRefused
  need (finishReason.is "stop")
  need (((message payload).key "role").is "assistant" && noReasoning payload)
  let outputText ← notBlank env ((message payload).key "content")
  let promptTokens ← count ((usage payload).key "prompt_tokens")
  let completionTokens ← count ((usage payload).key "completion_tokens")
  let totalTokens ← count ((usage payload).key "total_tokens")
  let hitTokens ← countOr ((usage payload).key "prompt_cache_hit_tokens") 0
  let missTokens ← countOr ((usage payload).key "prompt_cache_miss_tokens") promptTokens
  need (totalTokens == promptTokens + completionTokens && hitTokens + missTokens == promptTokens)
  return ⟨requestId, reportedModel, outputText, promptTokens, hitTokens, 0, completionTokens, 0,
    totalTokens⟩

end DeepSeek

/-- The guarded block of an adapter. -/
def readAnswer (env : Runtime) : ProviderType → Loaded → Read Answer
  | .openai => OpenAI.read env
  | .anthropic => Anthropic.read env
  | .gemini => Gemini.read env
  | .deepseek => DeepSeek.read env
  | .kimi | .glm | .openaiCompatible => OpenAICompatible.read env

/-! ## The result -/

/-- The validators of `ProviderPricing` and of its tiers. -/
structure ProviderPricing.Valid (p : ProviderPricing) : Prop where
  currency : isCurrency p.currency = true
  prices : ∀ t ∈ p.tiers, 0 ≤ t.inputPerMillion.toRat ∧ 0 ≤ t.cacheReadPerMillion.toRat ∧
    0 ≤ t.cacheWritePerMillion.toRat ∧ 0 ≤ t.outputPerMillion.toRat
  last : ∃ t, p.tiers.getLast? = some t ∧ t.upToInputTokens = none
  bounded : ∀ t ∈ p.tiers.dropLast, t.upToInputTokens.isSome
  increasing : (p.tiers.filterMap (·.upToInputTokens)).Pairwise (· < ·)

/-- `estimate_cost`. -/
def estimateCost (usage : ProviderTokenUsage) (pricing : Option ProviderPricing) :
    Except GradeException (Option ProviderCostEstimate) :=
  match pricing with
  | none => .ok none
  | some p =>
    match p.tiers.find? fun t => t.upToInputTokens.all (usage.inputTokens ≤ ·) with
    | none => .error (.uncaught .valueError)
    | some tier =>
      let uncached := usage.inputTokens - usage.cachedInputTokens - usage.cacheWriteInputTokens
      let amount := Decimal.perMillion (((((Decimal.ofNat uncached).times tier.inputPerMillion).plus
        ((Decimal.ofNat usage.cachedInputTokens).times tier.cacheReadPerMillion)).plus
        ((Decimal.ofNat usage.cacheWriteInputTokens).times tier.cacheWritePerMillion)).plus
        ((Decimal.ofNat usage.outputTokens).times tier.outputPerMillion))
      if h : isCurrency p.currency = true ∧ 0 ≤ amount.toRat then
        .ok (some ⟨p.tariffVersion, p.currency, amount, h.1, h.2⟩)
      else .error (.uncaught (.validationError "ProviderCostEstimate"))

/-- What the reading of a response needs of the request that was sent: the validated model and
pricing of `ProviderGradeRequest`, and the hash of the schema that went out. -/
structure SentRequest where
  providerType : ProviderType
  model : String
  pricing : Option ProviderPricing
  sentSchemaSha256 : Hash
  modelOk : 1 ≤ model.length ∧ model.length ≤ 255
  pricingOk : ∀ p, pricing = some p → p.Valid

/-- A `str` field with bounds on its length, which has to be encoded in UTF-8. -/
def boundedText (s : PyStr) (lo hi : Nat) : Option String :=
  s.decode?.filter fun text => lengthBetween lo hi text.length

/-- The construction of `ProviderTokenUsage` and `ProviderGradeResult` from an answer. -/
def finish (env : Runtime) (request : SentRequest)
    (response : ProviderHttpResponse) (a : Answer) :
    Except GradeException ProviderGradeResult :=
  if husage : a.cachedInputTokens + a.cacheWriteInputTokens ≤ a.inputTokens ∧
      a.reasoningTokens ≤ a.outputTokens then do
    let usage : ProviderTokenUsage :=
      ⟨a.inputTokens, a.cachedInputTokens, a.cacheWriteInputTokens, a.outputTokens,
        a.reasoningTokens, a.totalTokens, husage.1, husage.2⟩
    let estimatedCost ← estimateCost usage request.pricing
    match boundedText a.reportedModel 1 255, boundedText a.requestId 1 500, a.outputText.decode? with
    | some reportedModel, some requestId, some outputText =>
      if h : 1 ≤ outputText.length ∧ outputText.length ≤ 1000000 then
        return {
          providerType := request.providerType
          requestedModel := request.model
          reportedModel, requestId, outputText, usage, estimatedCost
          rawResponse := response.rawBody
          rawResponseSha256 := env.sha256 response.rawBody
          sentSchemaSha256 := request.sentSchemaSha256
          outputTextOk := h }
      else .error (.uncaught (.validationError "ProviderGradeResult"))
    | _, _, _ => .error (.uncaught (.validationError "ProviderGradeResult"))
  else .error (.uncaught (.validationError "ProviderTokenUsage"))

/-- The error of a guarded block as `grade` raises it; DeepSeek's does not carry the response. -/
def blockError (providerType : ProviderType) (response : ProviderHttpResponse) :
    ReadError KnownCode → GradeException
  | .malformed => KnownCode.responseInvalid.error
    (if providerType = .deepseek then none else some response)
  | .raised code => code.error response

/-- `grade` after the request was sent. -/
def gradeResponse (env : Runtime)
    (loads : Bytes → Except LoadError Loaded) (request : SentRequest) (r : RawResponse) :
    Except GradeException ProviderGradeResult := do
  let (response, payload) ← requestJson loads r
  raiseForStatus request.providerType response payload
  let answer ← (readAnswer env request.providerType payload).mapError
    (blockError request.providerType response)
  finish env request response answer

/-! ## Shapes -/

namespace Part

theorem is_unique {x : Part} {s t : String} (hs : x.is s = true) (ht : x.is t = true) : s = t := by
  unfold is PyStr.is at hs ht
  split at hs
  · rw [beq_iff_eq] at hs ht
    exact Option.some.inj (hs.symm.trans ht)
  · cases hs

theorem is_false {x : Part} {s t : String} (hs : x.is s = true) (hne : s ≠ t) : x.is t = false :=
  Bool.eq_false_iff.2 fun ht => hne (is_unique hs ht)

end Part

/-- The texts and the counts that every shape asks for. -/
structure Texts (env : Runtime) (id model text : Part) (a : Answer) : Prop where
  requestId : id = some (.str a.requestId) ∧ a.requestId.points ≠ []
  reportedModel : model = some (.str a.reportedModel) ∧ a.reportedModel.points ≠ []
  outputText : text = some (.str a.outputText) ∧ a.outputText.notBlank env = true

/-- A count that is there, or is left out. -/
def OptionalCount (x : Part) (n : Nat) : Prop := x = some (.int n) ∨ x = none ∧ n = 0

structure OpenAI.Shape (env : Runtime) (payload : Loaded) (a : Answer) : Prop where
  object : (key (some payload) "object").is "response" = true
  status : (key (some payload) "status").is "completed" = true
  message : ((message payload).key "type").is "message" = true ∧
    ((message payload).key "role").is "assistant" = true ∧
    ((message payload).key "status").is "completed" = true
  output : ((block payload).key "type").is "output_text" = true
  texts : Texts env (key (some payload) "id") (key (some payload) "model")
    ((block payload).key "text") a
  input : (usage payload).key "input_tokens" = some (.int a.inputTokens)
  outputTokens : (usage payload).key "output_tokens" = some (.int a.outputTokens)
  total : (usage payload).key "total_tokens" = some (.int (a.inputTokens + a.outputTokens : Nat))
  cached : ((usage payload).key "input_tokens_details").key "cached_tokens" =
    some (.int a.cachedInputTokens)
  reasoning : ((usage payload).key "output_tokens_details").key "reasoning_tokens" =
    some (.int a.reasoningTokens)
  rest : a.cacheWriteInputTokens = 0 ∧ a.totalTokens = some (a.inputTokens + a.outputTokens)

theorem OpenAI.incomplete_eq_ok {payload : Loaded} {u : Unit} :
    OpenAI.incomplete payload = .ok u ↔ (key (some payload) "status").is "incomplete" = false := by
  unfold incomplete
  split
  next h => simp [bind_eq_ok, h]
  next h => simp [h]

theorem OpenAI.read_eq_ok {env : Runtime} {payload : Loaded} {a : Answer} :
    OpenAI.read env payload = .ok a ↔ OpenAI.Shape env payload a := by
  unfold read
  simp only [bind_eq_ok, need_eq_ok, refuseIf_eq_ok, nonempty_eq_ok, notBlank_eq_ok, count_eq_ok,
    OpenAI.incomplete_eq_ok, Bool.and_eq_true, beq_iff_eq, and_assoc]
  constructor
  · rintro ⟨_, hobject, _, -, _, hstatus, id, hid, hidne, model, hmodel, hmodelne, _, htype, hrole,
      hmstatus, _, -, _, -, _, houtput, text, htext, hblank, input, hinput, output, houtputs,
      total, htotal, cached, hcached, reasoning, hreasoning, _, rfl, hret⟩
    cases hret
    exact ⟨hobject, hstatus, ⟨htype, hrole, hmstatus⟩, houtput,
      ⟨⟨hid, hidne⟩, ⟨hmodel, hmodelne⟩, ⟨htext, hblank⟩⟩, hinput, houtputs, htotal, hcached,
      hreasoning, rfl, rfl⟩
  · intro h
    have hblock : (block payload).isSome = true := by
      cases hb : block payload with
      | none =>
        have := h.texts.outputText.1
        rw [hb] at this
        cases this
      | some v => rfl
    refine ⟨(), h.object, (), is_false h.status (by decide), (), h.status, _, h.texts.requestId.1,
      h.texts.requestId.2, _, h.texts.reportedModel.1, h.texts.reportedModel.2, (), h.message.1,
      h.message.2.1, h.message.2.2, (), hblock, (), is_false h.output (by decide), (), h.output, _,
      h.texts.outputText.1, h.texts.outputText.2, _, h.input, _, h.outputTokens, _, h.total, _,
      h.cached, _, h.reasoning, (), rfl, ?_⟩
    obtain ⟨hwrite, htotal⟩ := h.rest
    cases a
    simp only at hwrite htotal
    rw [hwrite, htotal]
    rfl

structure Anthropic.Shape (env : Runtime) (payload : Loaded) (a : Answer) : Prop where
  message : (key (some payload) "type").is "message" = true ∧
    (key (some payload) "role").is "assistant" = true
  stop : (key (some payload) "stop_reason").is "end_turn" = true
  block : ((block payload).key "type").is "text" = true
  texts : Texts env (key (some payload) "id") (key (some payload) "model")
    ((Anthropic.block payload).key "text") a
  input : ∃ n, (usage payload).key "input_tokens" = some (.int (n : Nat)) ∧
    a.inputTokens = n + a.cacheWriteInputTokens + a.cachedInputTokens
  written : OptionalCount ((usage payload).key "cache_creation_input_tokens")
    a.cacheWriteInputTokens
  cached : OptionalCount ((usage payload).key "cache_read_input_tokens") a.cachedInputTokens
  outputTokens : (usage payload).key "output_tokens" = some (.int a.outputTokens)
  rest : a.reasoningTokens = 0 ∧ a.totalTokens = none

theorem Anthropic.read_eq_ok {env : Runtime} {payload : Loaded} {a : Answer} :
    Anthropic.read env payload = .ok a ↔ Anthropic.Shape env payload a := by
  unfold read
  simp only [bind_eq_ok, need_eq_ok, refuseIf_eq_ok, nonempty_eq_ok, notBlank_eq_ok, count_eq_ok,
    countOr_eq_ok, Bool.and_eq_true, and_assoc]
  constructor
  · rintro ⟨_, htype, hrole, _, -, _, -, _, -, _, hstop, id, hid, hidne, model, hmodel, hmodelne, _,
      hblock, text, htext, hblank, input, hinput, written, hwritten, cached, hcached, output,
      houtput, hret⟩
    cases hret
    exact ⟨⟨htype, hrole⟩, hstop, hblock, ⟨⟨hid, hidne⟩, ⟨hmodel, hmodelne⟩, ⟨htext, hblank⟩⟩,
      ⟨input, hinput, rfl⟩, hwritten, hcached, houtput, rfl, rfl⟩
  · intro h
    obtain ⟨n, hinput, hsum⟩ := h.input
    refine ⟨(), h.message.1, h.message.2, (), is_false h.stop (by decide), (),
      is_false h.stop (by decide), (), is_false h.stop (by decide), (), h.stop, _,
      h.texts.requestId.1, h.texts.requestId.2, _, h.texts.reportedModel.1,
      h.texts.reportedModel.2, (), h.block, _, h.texts.outputText.1, h.texts.outputText.2, n,
      hinput, _, h.written, _, h.cached, _, h.outputTokens, ?_⟩
    obtain ⟨hreasoning, htotal⟩ := h.rest
    cases a
    simp only at hsum hreasoning htotal
    rw [hsum, hreasoning, htotal]
    rfl

structure Gemini.Shape (env : Runtime) (payload : Loaded) (a : Answer) : Prop where
  dict : isDict (some payload) = true
  unblocked : ((key (some payload) "promptFeedback").key "blockReason").truthy = false
  index : ((candidate payload).key "index").isZero = true
  finish : ((candidate payload).key "finishReason").is "STOP" = true
  role : (((candidate payload).key "content").key "role").is "model" = true
  texts : Texts env (key (some payload) "responseId") (key (some payload) "modelVersion")
    ((part payload).key "text") a
  input : (usage payload).key "promptTokenCount" = some (.int a.inputTokens)
  cached : OptionalCount ((usage payload).key "cachedContentTokenCount") a.cachedInputTokens
  output : ∃ n, (usage payload).key "candidatesTokenCount" = some (.int (n : Nat)) ∧
    a.outputTokens = n + a.reasoningTokens
  reasoning : OptionalCount ((usage payload).key "thoughtsTokenCount") a.reasoningTokens
  total : (usage payload).key "totalTokenCount" = some (.int (a.inputTokens + a.outputTokens : Nat))
  rest : a.cacheWriteInputTokens = 0 ∧ a.totalTokens = some (a.inputTokens + a.outputTokens)

theorem Gemini.refusals_false {x : Part} (h : x.is "STOP" = true) : refusals.any x.is = false := by
  rw [List.any_eq_false]
  intro reason hreason hr
  rw [← is_unique h hr] at hreason
  exact absurd hreason (by decide)

theorem Gemini.read_eq_ok {env : Runtime} {payload : Loaded} {a : Answer} :
    Gemini.read env payload = .ok a ↔ Gemini.Shape env payload a := by
  unfold read
  simp only [bind_eq_ok, need_eq_ok, refuseIf_eq_ok, nonempty_eq_ok, notBlank_eq_ok, count_eq_ok,
    countOr_eq_ok, beq_iff_eq, and_assoc]
  constructor
  · rintro ⟨_, hdict, _, hunblocked, id, hid, hidne, model, hmodel, hmodelne, _, hindex, _, -, _, -, _,
      hstop, _, hrole, text, htext, hblank, input, hinput, cached, hcached, output, houtput,
      reasoning, hreasoning, total, htotal, _, rfl, hret⟩
    cases hret
    exact ⟨hdict, hunblocked, hindex, hstop, hrole,
      ⟨⟨hid, hidne⟩, ⟨hmodel, hmodelne⟩, ⟨htext, hblank⟩⟩, hinput, hcached,
      ⟨output, houtput, rfl⟩, hreasoning, htotal, rfl, rfl⟩
  · intro h
    obtain ⟨n, houtput, hsum⟩ := h.output
    refine ⟨(), h.dict, (), h.unblocked, _, h.texts.requestId.1, h.texts.requestId.2, _,
      h.texts.reportedModel.1, h.texts.reportedModel.2, (), h.index, (),
      is_false h.finish (by decide), (), Gemini.refusals_false h.finish, (), h.finish, (), h.role, _,
      h.texts.outputText.1, h.texts.outputText.2, _, h.input, _, h.cached, n, houtput, _,
      h.reasoning, _, h.total, (), by rw [hsum], ?_⟩
    obtain ⟨hwrite, htotal⟩ := h.rest
    cases a
    simp only at hsum hwrite htotal
    rw [hsum, hwrite, htotal, hsum]
    rfl

/-- What the two chat completions have in common. -/
structure ChatCompletion.Shape (env : Runtime) (payload : Loaded) (a : Answer) : Prop where
  object : (key (some payload) "object").is "chat.completion" = true
  index : ((choice payload).key "index").isZero = true
  finish : ((choice payload).key "finish_reason").is "stop" = true
  role : ((message payload).key "role").is "assistant" = true
  texts : Texts env (key (some payload) "id") (key (some payload) "model")
    ((message payload).key "content") a
  input : (usage payload).key "prompt_tokens" = some (.int a.inputTokens)
  output : (usage payload).key "completion_tokens" = some (.int a.outputTokens)
  total : (usage payload).key "total_tokens" = some (.int (a.inputTokens + a.outputTokens : Nat))
  rest : a.cacheWriteInputTokens = 0 ∧ a.totalTokens = some (a.inputTokens + a.outputTokens)

structure OpenAICompatible.Shape (env : Runtime) (payload : Loaded) (a : Answer) : Prop where
  chat : ChatCompletion.Shape env payload a
  details : ∀ name ∈ ["prompt_tokens_details", "completion_tokens_details"],
    details payload name = none ∨ (details payload name).isDict = true
  cached : OptionalCount ((OpenAICompatible.details payload "prompt_tokens_details").key
    "cached_tokens") a.cachedInputTokens
  reasoning : OptionalCount ((OpenAICompatible.details payload "completion_tokens_details").key
    "reasoning_tokens") a.reasoningTokens

theorem OpenAICompatible.read_eq_ok {env : Runtime} {payload : Loaded} {a : Answer} :
    OpenAICompatible.read env payload = .ok a ↔ OpenAICompatible.Shape env payload a := by
  unfold read
  simp only [bind_eq_ok, need_eq_ok, refuseIf_eq_ok, nonempty_eq_ok, notBlank_eq_ok, count_eq_ok,
    countOr_eq_ok, Bool.and_eq_true, Bool.or_eq_true, Bool.or_eq_false_iff, Option.isNone_iff_eq_none,
    beq_iff_eq, and_assoc]
  constructor
  · rintro ⟨_, hobject, id, hid, hidne, model, hmodel, hmodelne, _, hindex, _, -, _, -, -, _, -, _,
      hstop, _, hrole, text, htext, hblank, input, hinput, output, houtput, total, htotal, _, hin,
      hout, cached, hcached, reasoning, hreasoning, _, rfl, hret⟩
    cases hret
    refine ⟨⟨hobject, hindex, hstop, hrole, ⟨⟨hid, hidne⟩, ⟨hmodel, hmodelne⟩, ⟨htext, hblank⟩⟩,
      hinput, houtput, htotal, rfl, rfl⟩, ?_, hcached, hreasoning⟩
    rw [List.forall_mem_cons, List.forall_mem_singleton]
    exact ⟨hin, hout⟩
  · intro h
    have hdetails := h.details
    rw [List.forall_mem_cons, List.forall_mem_singleton] at hdetails
    refine ⟨(), h.chat.object, _, h.chat.texts.requestId.1, h.chat.texts.requestId.2, _,
      h.chat.texts.reportedModel.1, h.chat.texts.reportedModel.2, (), h.chat.index, (),
      is_false h.chat.finish (by decide), (), is_false h.chat.finish (by decide),
      is_false h.chat.finish (by decide), (), is_false h.chat.finish (by decide), (),
      h.chat.finish, (), h.chat.role, _, h.chat.texts.outputText.1, h.chat.texts.outputText.2, _,
      h.chat.input, _, h.chat.output, _, h.chat.total, (), hdetails.1, hdetails.2, _, h.cached, _,
      h.reasoning, (), rfl, ?_⟩
    obtain ⟨hwrite, htotal⟩ := h.chat.rest
    cases a
    simp only at hwrite htotal
    rw [hwrite, htotal]
    rfl

structure DeepSeek.Shape (env : Runtime) (payload : Loaded) (a : Answer) : Prop where
  chat : ChatCompletion.Shape env payload a
  answered : noReasoning payload = true
  hit : OptionalCount ((usage payload).key "prompt_cache_hit_tokens") a.cachedInputTokens
  miss : ∃ n : Nat, ((usage payload).key "prompt_cache_miss_tokens" = some (.int n) ∨
    (usage payload).key "prompt_cache_miss_tokens" = none ∧ n = a.inputTokens) ∧
      a.cachedInputTokens + n = a.inputTokens
  reasoning : a.reasoningTokens = 0

theorem DeepSeek.read_eq_ok {env : Runtime} {payload : Loaded} {a : Answer} :
    DeepSeek.read env payload = .ok a ↔ DeepSeek.Shape env payload a := by
  unfold read
  simp only [bind_eq_ok, need_eq_ok, refuseIf_eq_ok, nonempty_eq_ok, notBlank_eq_ok, count_eq_ok,
    countOr_eq_ok, Bool.and_eq_true, beq_iff_eq, and_assoc]
  constructor
  · rintro ⟨_, hobject, id, hid, hidne, model, hmodel, hmodelne, _, hindex, _, -, _, -, _, hstop, _,
      hrole, hanswered, text, htext, hblank, input, hinput, output, houtput, total, htotal, hit,
      hhit, miss, hmiss, _, rfl, hsum, hret⟩
    cases hret
    exact ⟨⟨hobject, hindex, hstop, hrole, ⟨⟨hid, hidne⟩, ⟨hmodel, hmodelne⟩, ⟨htext, hblank⟩⟩,
      hinput, houtput, htotal, rfl, rfl⟩, hanswered, hhit, ⟨miss, hmiss, hsum⟩, rfl⟩
  · intro h
    obtain ⟨n, hmiss, hsum⟩ := h.miss
    refine ⟨(), h.chat.object, _, h.chat.texts.requestId.1, h.chat.texts.requestId.2, _,
      h.chat.texts.reportedModel.1, h.chat.texts.reportedModel.2, (), h.chat.index, (),
      is_false h.chat.finish (by decide), (), is_false h.chat.finish (by decide), (),
      h.chat.finish, (), h.chat.role, h.answered, _, h.chat.texts.outputText.1,
      h.chat.texts.outputText.2, _, h.chat.input, _, h.chat.output, _, h.chat.total, _, h.hit, n,
      hmiss, (), rfl, hsum, ?_⟩
    obtain ⟨hwrite, htotal⟩ := h.chat.rest
    have hreasoning := h.reasoning
    cases a
    simp only at hwrite htotal hreasoning
    rw [hwrite, htotal, hreasoning]
    rfl

/-- The shape of the answers of a provider. -/
def AnswerShape (env : Runtime) : ProviderType → Loaded → Answer → Prop
  | .openai => OpenAI.Shape env
  | .anthropic => Anthropic.Shape env
  | .gemini => Gemini.Shape env
  | .deepseek => DeepSeek.Shape env
  | .kimi | .glm | .openaiCompatible => OpenAICompatible.Shape env

theorem readAnswer_eq_ok {env : Runtime} {providerType : ProviderType} {payload : Loaded}
    {a : Answer} : readAnswer env providerType payload = .ok a ↔
      AnswerShape env providerType payload a := by
  cases providerType with
  | openai => exact OpenAI.read_eq_ok
  | anthropic => exact Anthropic.read_eq_ok
  | gemini => exact Gemini.read_eq_ok
  | deepseek => exact DeepSeek.read_eq_ok
  | kimi | glm | openaiCompatible => exact OpenAICompatible.read_eq_ok

/-! ## How a call ends -/

namespace PyStr

theorem length_decode {s : PyStr} {text : String} (h : s.decode? = some text) :
    text.length = s.points.length := by
  unfold decode? at h
  obtain ⟨chars, hchars, rfl⟩ := Option.map_eq_some_iff.1 h
  have hlength : ∀ {points : List CodePoint} {chars : List Char},
      points.mapM charOf = some chars → chars.length = points.length := by
    intro points
    induction points with
    | nil =>
      intro chars h
      cases h
      rfl
    | cons p points ih =>
      intro chars h
      rw [List.mapM_cons] at h
      obtain ⟨c, -, h⟩ := Option.bind_eq_some_iff.1 h
      obtain ⟨cs, hcs, h⟩ := Option.bind_eq_some_iff.1 h
      cases h
      rw [List.length_cons, List.length_cons, ih hcs]
  rw [← String.length_toList, String.toList_ofList, hlength hchars]

end PyStr

/-- What `ProviderTokenUsage` and `ProviderGradeResult` ask of an answer and a guarded block does
not: no lone surrogate, lengths in bounds, parts no larger than their wholes. -/
structure Answer.Fits (a : Answer) : Prop where
  encodable : ∀ s ∈ [a.requestId, a.reportedModel, a.outputText], s.decode?.isSome
  requestId : a.requestId.points.length ≤ 500
  reportedModel : a.reportedModel.points.length ≤ 255
  outputText : a.outputText.points.length ≤ 1000000
  cached : a.cachedInputTokens + a.cacheWriteInputTokens ≤ a.inputTokens
  reasoning : a.reasoningTokens ≤ a.outputTokens

theorem ProviderPricing.Valid.tier {p : ProviderPricing} (h : p.Valid) (n : Nat) :
    ∃ t ∈ p.tiers, p.tiers.find? (fun t => t.upToInputTokens.all (n ≤ ·)) = some t := by
  obtain ⟨t, ht, hnone⟩ := h.last
  have hmem := List.mem_of_getLast? ht
  have hsome : (p.tiers.find? fun t => t.upToInputTokens.all (n ≤ ·)).isSome :=
    List.find?_isSome.2 ⟨t, hmem, by rw [hnone]; rfl⟩
  obtain ⟨x, hx⟩ := Option.isSome_iff_exists.1 hsome
  exact ⟨x, List.mem_of_find?_eq_some hx, hx⟩

/-- A validated price list gives every usage a cost. -/
theorem estimateCost_ok (usage : ProviderTokenUsage)
    {pricing : Option ProviderPricing} (h : ∀ p, pricing = some p → p.Valid) :
    ∃ cost, estimateCost usage pricing = .ok cost := by
  unfold estimateCost
  cases pricing with
  | none => exact ⟨none, rfl⟩
  | some p =>
    have hp := h p rfl
    obtain ⟨tier, htier, hfind⟩ := hp.tier usage.inputTokens
    obtain ⟨hinput, hread, hwrite, houtput⟩ := hp.prices tier htier
    simp only [hfind]
    split
    · exact ⟨_, rfl⟩
    next hneg =>
      refine absurd ⟨hp.currency, ?_⟩ hneg
      have hproduct : ∀ (n : Nat) {price : Decimal}, 0 ≤ price.toRat →
          0 ≤ ((Decimal.ofNat n).times price).toRat := fun n _ h =>
        Decimal.toRat_times_nonneg (Decimal.toRat_ofNat_nonneg n) h
      exact Decimal.toRat_perMillion_nonneg (Decimal.toRat_plus_nonneg (Decimal.toRat_plus_nonneg
        (Decimal.toRat_plus_nonneg (hproduct _ hinput) (hproduct _ hread)) (hproduct _ hwrite))
        (hproduct _ houtput))

theorem boundedText_isSome {s : PyStr} {hi : Nat} (hne : s.points ≠ []) :
    (∃ text, boundedText s 1 hi = some text) ↔ s.decode?.isSome ∧ s.points.length ≤ hi := by
  have hpos : 1 ≤ s.points.length := List.length_pos_iff.2 hne
  unfold boundedText
  cases h : s.decode? with
  | none => simp
  | some text =>
    simp [Option.filter_eq_some_iff, lengthBetween, PyStr.length_decode h, hpos]

/-- The construction of the result succeeds or raises a `ValidationError`. -/
theorem finish_cases (env : Runtime) (request : SentRequest)
    (response : ProviderHttpResponse) {a : Answer} (hid : a.requestId.points ≠ [])
    (hmodel : a.reportedModel.points ≠ []) (htext : a.outputText.points ≠ []) :
    (a.Fits ∧ ∃ result, finish env request response a = .ok result) ∨
      (¬a.Fits ∧ ∃ model, finish env request response a =
        .error (.uncaught (.validationError model))) := by
  unfold finish
  split
  next husage =>
    obtain ⟨cost, hcost⟩ := estimateCost_ok ⟨a.inputTokens, a.cachedInputTokens,
      a.cacheWriteInputTokens, a.outputTokens, a.reasoningTokens, a.totalTokens, husage.1,
      husage.2⟩ request.pricingOk
    simp only [hcost, bind, Except.bind]
    have hmodel' := @boundedText_isSome _ 255 hmodel
    have hid' := @boundedText_isSome _ 500 hid
    have hone : 1 ≤ a.outputText.points.length := List.length_pos_iff.2 htext
    split
    next model id text hm hi ht =>
      have hlength := PyStr.length_decode ht
      split
      next hbound =>
        have hm' := hmodel'.1 ⟨_, hm⟩
        have hi' := hid'.1 ⟨_, hi⟩
        refine .inl ⟨⟨?_, hi'.2, hm'.2, by omega, husage.1, husage.2⟩, _, rfl⟩
        simp [hm'.1, hi'.1, ht]
      next hbound =>
        refine .inr ⟨fun hfits => hbound ⟨by omega, ?_⟩, _, rfl⟩
        have := hfits.outputText
        omega
    next hnone =>
      refine .inr ⟨fun hfits => ?_, _, rfl⟩
      have hencodable := hfits.encodable
      simp only [List.forall_mem_cons, List.not_mem_nil, false_imp_iff, implies_true,
        and_true] at hencodable
      obtain ⟨model, hm⟩ := hmodel'.2 ⟨hencodable.2.1, hfits.reportedModel⟩
      obtain ⟨id, hi⟩ := hid'.2 ⟨hencodable.1, hfits.requestId⟩
      obtain ⟨text, ht⟩ := Option.isSome_iff_exists.1 hencodable.2.2
      exact hnone model id text hm hi ht
  next husage => exact .inr ⟨fun hfits => husage ⟨hfits.cached, hfits.reasoning⟩, _, rfl⟩

theorem AnswerShape.nonempty {env : Runtime} {providerType : ProviderType} {payload : Loaded}
    {a : Answer} (h : AnswerShape env providerType payload a) :
    a.requestId.points ≠ [] ∧ a.reportedModel.points ≠ [] ∧ a.outputText.points ≠ [] := by
  have htexts : ∃ id model text, Texts env id model text a := by
    cases providerType with
    | openai => exact ⟨_, _, _, OpenAI.Shape.texts h⟩
    | anthropic => exact ⟨_, _, _, Anthropic.Shape.texts h⟩
    | gemini => exact ⟨_, _, _, Gemini.Shape.texts h⟩
    | deepseek => exact ⟨_, _, _, (DeepSeek.Shape.chat h).texts⟩
    | kimi | glm | openaiCompatible => exact ⟨_, _, _, (OpenAICompatible.Shape.chat h).texts⟩
  obtain ⟨id, model, text, ht⟩ := htexts
  refine ⟨ht.requestId.2, ht.reportedModel.2, fun hnil => ?_⟩
  have hblank := ht.outputText.2
  unfold PyStr.notBlank at hblank
  rw [hnil] at hblank
  cases hblank

/-- The value that the client hands on: `None` for a body that is not JSON. -/
def Decodes (loads : Bytes → Except LoadError Loaded) (body : Bytes) (payload : Loaded) : Prop :=
  loads body = .ok payload ∨ loads body = .error .decode ∧ payload = .null

theorem requestJson_cases (loads : Bytes → Except LoadError Loaded) (r : RawResponse) :
    (maxProviderResponseBytes < r.body.length ∧
      requestJson loads r = .error (KnownCode.responseTooLarge.error none)) ∨
    (r.body.length ≤ maxProviderResponseBytes ∧
      ((∃ payload, Decodes loads r.body payload ∧ requestJson loads r = .ok (r.http, payload)) ∨
        (∀ payload, ¬Decodes loads r.body payload) ∧
          ∃ e, requestJson loads r = .error (.uncaught e))) := by
  unfold requestJson Decodes
  split
  next hlarge => exact .inl ⟨hlarge, rfl⟩
  next hsmall =>
    refine .inr ⟨Nat.le_of_not_lt hsmall, ?_⟩
    cases h : loads r.body with
    | ok payload => exact .inl ⟨payload, .inl rfl, rfl⟩
    | error e =>
      cases e with
      | decode => exact .inl ⟨.null, .inr ⟨rfl, rfl⟩, rfl⟩
      | digits | recursion => exact .inr ⟨by simp, _, rfl⟩

/-- A status or an error code is fine or raises `ProviderAdapterError`, if the code is hashed. -/
theorem raiseForProviderStatus_ends (providerType : ProviderType)
    (response : ProviderHttpResponse) : Ends (fun _ => True) (fun e => ∃ error, e = .adapter error)
      (raiseForProviderStatus providerType response) := by
  unfold raiseForProviderStatus
  simp only
  repeat' split
  all_goals first | exact .ok trivial | exact .error ⟨_, rfl⟩

theorem raiseForStatus_ends {providerType : ProviderType} {payload : Loaded}
    (hhash : providerType = .openai → (errorCode payload).hashable = true)
    (response : ProviderHttpResponse) : Ends (fun _ => True) (fun e => ∃ error, e = .adapter error)
      (raiseForStatus providerType response payload) := by
  have hstatus := raiseForProviderStatus_ends providerType response
  unfold raiseForStatus
  cases providerType with
  | openai =>
    simp only [hhash rfl, Bool.not_true, Bool.false_eq_true, if_false]
    split
    · exact .error ⟨_, rfl⟩
    · exact hstatus
  | kimi | glm =>
    simp only
    repeat' split
    all_goals first | exact .error ⟨_, rfl⟩ | exact hstatus
  | _ => exact hstatus

/-- What a response must be for `grade` to answer it. -/
def Answerable (env : Runtime) (loads : Bytes → Except LoadError Loaded)
    (providerType : ProviderType) (r : RawResponse) : Prop :=
  maxProviderResponseBytes < r.body.length ∨
    ∃ payload, Decodes loads r.body payload ∧
      (providerType = .openai → (errorCode payload).hashable = true) ∧
      (raiseForStatus providerType r.http payload = .ok () →
        ∀ a, AnswerShape env providerType payload a → a.Fits)

/-- `grade` returns a result or raises `ProviderAdapterError`. -/
def Handled (x : Except GradeException ProviderGradeResult) : Prop :=
  (∃ result, x = .ok result) ∨ ∃ error, x = .error (.adapter error)

theorem blockError_adapter (providerType : ProviderType) (response : ProviderHttpResponse)
    (e : ReadError KnownCode) : ∃ error, blockError providerType response e = .adapter error := by
  cases e with
  | malformed => exact ⟨_, rfl⟩
  | raised code => exact ⟨_, rfl⟩

/-- A code that cannot be hashed. -/
theorem raiseForStatus_unhashable {payload : Loaded} (h : (errorCode payload).hashable = false)
    (response : ProviderHttpResponse) :
    raiseForStatus .openai response payload = .error (.uncaught .typeError) := by
  unfold raiseForStatus
  simp only [h, Bool.not_false, if_true]

/-- The part of `grade` behind the client. -/
theorem handled_payload (env : Runtime) (request : SentRequest)
    (response : ProviderHttpResponse) (payload : Loaded) :
    Handled (do
      raiseForStatus request.providerType response payload
      let answer ← (readAnswer env request.providerType payload).mapError
        (blockError request.providerType response)
      finish env request response answer) ↔
      (request.providerType = .openai → (errorCode payload).hashable = true) ∧
        (raiseForStatus request.providerType response payload = .ok () →
          ∀ a, AnswerShape env request.providerType payload a → a.Fits) := by
  by_cases hhash : request.providerType = .openai → (errorCode payload).hashable = true
  · have hends := raiseForStatus_ends hhash response
    rw [and_iff_right hhash]
    cases hstatus : raiseForStatus request.providerType response payload with
    | error e =>
      rw [hstatus] at hends
      obtain ⟨error, rfl⟩ := hends.of_error
      exact iff_of_true (.inr ⟨error, rfl⟩) fun h => nomatch h
    | ok _ =>
      cases hread : readAnswer env request.providerType payload with
      | error e =>
        obtain ⟨error, herror⟩ := blockError_adapter request.providerType response e
        refine iff_of_true (.inr ⟨error, ?_⟩) fun _ a ha => ?_
        · simp only [bind, Except.bind, Except.mapError, herror]
        · rw [readAnswer_eq_ok.2 ha] at hread
          cases hread
      | ok a =>
        have hshape := readAnswer_eq_ok.1 hread
        have hfits : ((.ok () : Except GradeException Unit) = .ok () → ∀ a',
            AnswerShape env request.providerType payload a' → a'.Fits) ↔ a.Fits := by
          refine ⟨fun h => h rfl a hshape, fun h _ a' ha' => ?_⟩
          have := readAnswer_eq_ok.2 ha'
          rw [hread] at this
          cases this
          exact h
        rw [hfits]
        obtain ⟨hid, hmodel, htext⟩ := hshape.nonempty
        simp only [bind, Except.bind, Except.mapError]
        rcases finish_cases env request response hid hmodel htext with
          ⟨hf, result, hresult⟩ | ⟨hf, model, hmodel⟩
        · exact iff_of_true (.inl ⟨result, hresult⟩) hf
        · refine iff_of_false ?_ hf
          rw [hmodel]
          rintro (⟨_, h⟩ | ⟨_, h⟩) <;> cases h
  · obtain ⟨hopenai, hcode⟩ := Classical.not_imp.1 hhash
    refine iff_of_false ?_ fun h => hhash h.1
    rw [hopenai, raiseForStatus_unhashable (Bool.eq_false_iff.2 hcode)]
    rintro (⟨_, h⟩ | ⟨_, h⟩) <;> cases h

/-- **No other exception comes out exactly when the response is answerable.** -/
theorem handled_iff (env : Runtime)
    (loads : Bytes → Except LoadError Loaded) (request : SentRequest) (r : RawResponse) :
    Handled (gradeResponse env loads request r) ↔
      Answerable env loads request.providerType r := by
  unfold gradeResponse Answerable
  rcases requestJson_cases loads r with ⟨hlarge, hjson⟩ | ⟨hsmall, ⟨payload, hdecodes, hjson⟩ |
    ⟨hnone, e, hjson⟩⟩
  · rw [hjson]
    exact iff_of_true (.inr ⟨_, rfl⟩) (.inl hlarge)
  · have hunique : ∀ payload', Decodes loads r.body payload' → payload' = payload := by
      intro payload' h
      rcases h with h | ⟨h, rfl⟩ <;> rcases hdecodes with h' | ⟨h', rfl⟩ <;> rw [h] at h'
      · exact Except.ok.inj h'
      · cases h'
      · cases h'
    rw [hjson, or_iff_right (Nat.not_lt.2 hsmall)]
    refine (handled_payload env request r.http payload).trans ⟨fun h => ⟨payload, hdecodes, h⟩, ?_⟩
    rintro ⟨payload', hdecodes', h⟩
    rw [hunique payload' hdecodes'] at h
    exact h
  · rw [hjson]
    refine iff_of_false ?_ ?_
    · rintro (⟨_, h⟩ | ⟨_, h⟩) <;> cases h
    · rintro (hlarge | ⟨payload, hdecodes, -⟩)
      · omega
      · exact hnone payload hdecodes

namespace Sample

/-- A decoded object of a literal. -/
def loadedObj (fields : List (String × Loaded)) : Loaded :=
  .obj (fields.map fun f => (.ofString f.1, f.2))

def loadedStr (s : String) : Loaded := .str (.ofString s)

/-- Two tokens out of one came from the cache. -/
def overCachedText : String :=
  "\x7b\"responseId\":\"r\",\"modelVersion\":\"m\",\"candidates\":[\x7b\"index\":0," ++
  "\"finishReason\":\"STOP\",\"content\":\x7b\"role\":\"model\",\"parts\":[\x7b\"text\":\"t\"\x7d]\x7d\x7d]," ++
  "\"usageMetadata\":\x7b\"promptTokenCount\":1,\"cachedContentTokenCount\":2," ++
  "\"candidatesTokenCount\":1,\"totalTokenCount\":2\x7d\x7d"

def overCached : Loaded :=
  loadedObj [("responseId", loadedStr "r"), ("modelVersion", loadedStr "m"),
    ("candidates", .arr [loadedObj [("index", .int 0), ("finishReason", loadedStr "STOP"),
      ("content", loadedObj [("role", loadedStr "model"),
        ("parts", .arr [loadedObj [("text", loadedStr "t")]])])]]),
    ("usageMetadata", loadedObj [("promptTokenCount", .int 1), ("cachedContentTokenCount", .int 2),
      ("candidatesTokenCount", .int 1), ("totalTokenCount", .int 2)])]

/-- An error whose code is a list. -/
def listCodeText : String := "\x7b\"error\":\x7b\"code\":[]\x7d\x7d"

def listCode : Loaded := loadedObj [("error", loadedObj [("code", .arr [])])]

/-- The decoder, right on the two bodies. -/
def loadsBodies (body : Bytes) : Except LoadError Loaded :=
  if body = overCachedText.toUTF8.toList then .ok overCached
  else if body = listCodeText.toUTF8.toList then .ok listCode
  else .error .decode

def sent (providerType : ProviderType) : SentRequest :=
  ⟨providerType, "m", none, 0, by decide, fun _ h => nomatch h⟩

/-- A usage that contradicts itself is a `ValidationError`, a code that is a list a `TypeError`. -/
theorem malformed_escapes :
    ¬Handled (gradeResponse sampleRuntime loadsBodies (sent .gemini)
        ⟨200, [], overCachedText.toUTF8.toList⟩) ∧
      ¬Handled (gradeResponse sampleRuntime loadsBodies (sent .openai)
        ⟨400, [], listCodeText.toUTF8.toList⟩) := by
  have husage : gradeResponse sampleRuntime loadsBodies (sent .gemini)
      ⟨200, [], overCachedText.toUTF8.toList⟩ =
        .error (.uncaught (.validationError "ProviderTokenUsage")) := by decide +kernel
  have hcode : gradeResponse sampleRuntime loadsBodies (sent .openai)
      ⟨400, [], listCodeText.toUTF8.toList⟩ = .error (.uncaught .typeError) := by decide +kernel
  rw [husage, hcode]
  constructor <;> rintro (⟨_, h⟩ | ⟨_, h⟩) <;> cases h

end Sample

end PaperGrading
