import PaperGrading.Domain.Values

/-!
# Provider profiles, usage and call outcomes

The provider snapshot a batch freezes, the result every adapter returns and the
errors an adapter raises.  `ProviderTokenUsage`, `ProviderCostEstimate`,
`ProviderGradeResult` and `ProviderAdapterError` carry their pydantic checks (or
the constructor's own check) as fields.
-/

namespace PaperGrading

inductive ProviderType where
  | deepseek | kimi | glm | openai | anthropic | gemini | openaiCompatible
  deriving DecidableEq

def ProviderType.text : ProviderType → String
  | .deepseek => "deepseek"
  | .kimi => "kimi"
  | .glm => "glm"
  | .openai => "openai"
  | .anthropic => "anthropic"
  | .gemini => "gemini"
  | .openaiCompatible => "openai_compatible"

/-! ## Profiles -/

structure ProviderTokenPriceTier where
  upToInputTokens : Option Nat
  inputPerMillion : Decimal
  cacheReadPerMillion : Decimal
  cacheWritePerMillion : Decimal
  outputPerMillion : Decimal
  deriving DecidableEq

structure ProviderPricing where
  tariffVersion : String
  currency : String
  tiers : List ProviderTokenPriceTier
  deriving DecidableEq

/-- The capability snapshot; its policies are kept as the texts they are stored with. -/
structure ProviderModelCapabilities where
  capabilityVersion : String
  model : String
  contextWindowTokens : Nat
  maxOutputTokens : Nat
  structuredOutput : String
  schemaDialect : String
  samplingPolicy : String
  thinkingPolicy : String
  outputTokenParameter : String
  supportsModelListing : Bool
  pricing : Option ProviderPricing
  deriving DecidableEq

structure ProviderModelProfile where
  capabilities : ProviderModelCapabilities
  gradingMaxOutputTokens : Nat
  deriving DecidableEq

/-- `GradingProviderSnapshot`: what a batch needs to call its provider, without the key. -/
structure GradingProviderSnapshot where
  providerType : ProviderType
  baseUrl : String
  timeoutSeconds : Decimal
  maxConcurrency : Nat
  modelProfile : ProviderModelProfile
  deriving DecidableEq

def optionNatJs : Option Nat → Js
  | none => .null
  | some n => .int n

namespace ProviderPricing

def toJs (p : ProviderPricing) : Js :=
  .obj [("tariff_version", .str p.tariffVersion), ("currency", .str p.currency),
    ("tiers", .arr (p.tiers.map fun t =>
      .obj [("up_to_input_tokens", optionNatJs t.upToInputTokens),
        ("input_per_million", .str t.inputPerMillion.canonical),
        ("cache_read_per_million", .str t.cacheReadPerMillion.canonical),
        ("cache_write_per_million", .str t.cacheWritePerMillion.canonical),
        ("output_per_million", .str t.outputPerMillion.canonical)]))]

end ProviderPricing

namespace ProviderModelCapabilities

def toJs (c : ProviderModelCapabilities) : Js :=
  .obj [("capability_version", .str c.capabilityVersion), ("model", .str c.model),
    ("context_window_tokens", .int c.contextWindowTokens),
    ("max_output_tokens", .int c.maxOutputTokens),
    ("structured_output", .str c.structuredOutput), ("schema_dialect", .str c.schemaDialect),
    ("sampling_policy", .str c.samplingPolicy), ("thinking_policy", .str c.thinkingPolicy),
    ("output_token_parameter", .str c.outputTokenParameter),
    ("supports_model_listing", .bool c.supportsModelListing),
    ("pricing", match c.pricing with | none => .null | some p => p.toJs)]

end ProviderModelCapabilities

namespace GradingProviderSnapshot

def toJs (s : GradingProviderSnapshot) : Js :=
  .obj [("provider_type", .str s.providerType.text), ("base_url", .str s.baseUrl),
    ("timeout_seconds", .str s.timeoutSeconds.canonical),
    ("max_concurrency", .int s.maxConcurrency),
    ("model_profile", .obj [("capabilities", s.modelProfile.capabilities.toJs),
      ("grading_max_output_tokens", .int s.modelProfile.gradingMaxOutputTokens)])]

/-- `snapshot_hash`. -/
def snapshotHash (env : Runtime) (s : GradingProviderSnapshot) : Hash :=
  env.canonicalSha256 s.toJs

end GradingProviderSnapshot

/-! ## Results -/

/-- `ProviderTokenUsage` with its subset validator. -/
structure ProviderTokenUsage where
  inputTokens : Nat
  cachedInputTokens : Nat
  cacheWriteInputTokens : Nat
  outputTokens : Nat
  reasoningTokens : Nat
  totalTokens : Option Nat
  cachedLeInput : cachedInputTokens + cacheWriteInputTokens ≤ inputTokens
  reasoningLeOutput : reasoningTokens ≤ outputTokens
  deriving DecidableEq

/-- `Field(pattern=r"^[A-Z]{3}$")`. -/
def isCurrency (s : String) : Bool := decide (s.length = 3) && s.toList.all Char.isUpper

structure ProviderCostEstimate where
  tariffVersion : String
  currency : String
  amount : Decimal
  currencyOk : isCurrency currency = true
  amountNonneg : 0 ≤ amount.toRat
  deriving DecidableEq

/-- What every adapter returns. -/
structure ProviderGradeResult where
  providerType : ProviderType
  requestedModel : String
  reportedModel : String
  requestId : String
  outputText : String
  usage : ProviderTokenUsage
  estimatedCost : Option ProviderCostEstimate
  rawResponse : Bytes
  rawResponseSha256 : Hash
  sentSchemaSha256 : Hash
  outputTextOk : 1 ≤ outputText.length ∧ outputText.length ≤ 1000000
  deriving DecidableEq

namespace ProviderGradeResult

def finishReason : String := "completed"

end ProviderGradeResult

/-! ## Errors -/

inductive RetrySafety where
  | never | safe | unknown
  deriving DecidableEq

def RetrySafety.text : RetrySafety → String
  | .never => "never"
  | .safe => "safe"
  | .unknown => "unknown"

/-- `ProviderHttpResponse`; the decoded body is read inside the adapters only. -/
structure ProviderHttpResponse where
  statusCode : Nat
  rawBody : Bytes
  headers : List (String × String)
  deriving DecidableEq

/-- The codes the adapters and their HTTP client construct `ProviderAdapterError` with. -/
def providerErrorCodes : List String :=
  ["provider_authentication_failed", "provider_balance_unavailable",
    "provider_capability_unsupported", "provider_content_refused", "provider_context_exceeded",
    "provider_endpoint_invalid", "provider_model_unavailable", "provider_network_unavailable",
    "provider_output_truncated", "provider_permission_denied", "provider_quota_exhausted",
    "provider_rate_limited", "provider_redirect_rejected", "provider_request_failed",
    "provider_request_invalid", "provider_response_invalid", "provider_response_too_large",
    "provider_timeout", "provider_unavailable"]

/-- `ProviderAdapterError`; its constructor refuses a safe error that is not retryable. -/
structure ProviderAdapterError where
  code : String
  retryable : Bool
  retrySafety : RetrySafety
  response : Option ProviderHttpResponse
  codeKnown : code ∈ providerErrorCodes
  safeRetryable : retrySafety = .safe → retryable = true
  deriving DecidableEq

/-- How `adapter.grade` can end. -/
inductive ProviderOutcome where
  | returned (result : ProviderGradeResult)
  | urlError
  | adapterError (error : ProviderAdapterError)
  /-- any other exception class, such as the `ValidationError` of a malformed usage -/
  | otherException
  deriving DecidableEq

namespace ProviderTokenUsage

def toJs (u : ProviderTokenUsage) : Js :=
  .obj [("input_tokens", .int u.inputTokens), ("cached_input_tokens", .int u.cachedInputTokens),
    ("cache_write_input_tokens", .int u.cacheWriteInputTokens),
    ("output_tokens", .int u.outputTokens), ("reasoning_tokens", .int u.reasoningTokens),
    ("total_tokens", optionNatJs u.totalTokens)]

end ProviderTokenUsage

namespace ProviderCostEstimate

def toJs (c : ProviderCostEstimate) : Js :=
  .obj [("tariff_version", .str c.tariffVersion), ("currency", .str c.currency),
    ("amount", .str c.amount.canonical), ("estimated", .bool true)]

end ProviderCostEstimate

/-! ## Lemmas -/

theorem providerErrorCode_ne_correction {code : String} (h : code ∈ providerErrorCodes) :
    code ≠ "grade_output_correction_required" := by
  rintro rfl
  exact absurd h (by decide)

end PaperGrading
