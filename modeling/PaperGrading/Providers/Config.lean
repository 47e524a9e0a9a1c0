import PaperGrading.Providers.Connection
import PaperGrading.Providers.Rows

/-!
# The provider service

`ProviderConfigService.update` of `providers/config.py`: it reads the stored row, fills
in what the payload leaves open from it and writes all eleven columns back, under the
condition that the row's `config_version` is still the one it read.
-/

namespace PaperGrading

/-! ## The payload -/

/-- `ProviderConfigUpdate` after its validators.  The time limit is in thousandths, the scale of
its column; the profiles are in the key order of `jsonb`; only for the budget does an explicit
null differ from a field that is left out. -/
structure ProviderConfigUpdate where
  providerType : Option ProviderType
  name : Option String
  baseUrl : Option String
  apiKey : Option String
  allowedModels : Option (List String)
  defaultModel : Option String
  timeoutMillis : Option Nat
  maxConcurrency : Option Nat
  monthlyBudget : Option (Option ℚ)
  modelProfiles : Option (List (String × ProviderModelProfile))
  nameOk : name ≠ some ""
  modelsOk : allowedModels ≠ some []
  modelOk : defaultModel ≠ some ""
  timeoutOk : timeoutMillis ≠ some 0
  concurrencyOk : maxConcurrency ≠ some 0
  deriving DecidableEq

inductive ProviderUpdateError where
  | notFound (message : String)
  | state (message : String)
  | configuration (message : String)
  /-- what the URL policy raises -/
  | url (error : UrlException)
  /-- the assertions on the stored key -/
  | assertion
  | database (error : TxError)
  deriving DecidableEq

/-! ## The update -/

/-- The URL policy of the service. -/
structure UrlPolicy where
  lib : UrlLibrary
  allowOfficialFakeIp : Bool

/-- One request: its payload, what the resolver answers for its host, and the sealed new key. -/
structure UpdateRequest where
  payload : ProviderConfigUpdate
  resolved : Except String (List String)
  encryptedApiKey : Bytes
  apiKeyNonce : Bytes
  deriving DecidableEq

/-- `_validate_model_profiles`. -/
def validateModelProfiles (allowedModels : List String)
    (modelProfiles : List (String × ProviderModelProfile)) : Bool :=
  modelProfiles.all fun x => allowedModels.contains x.1 && x.2.capabilities.model == x.1

namespace UpdateRequest

/-- `payload.base_url or current.base_url`; the validator may have stripped it to nothing. -/
def givenBaseUrl (q : UpdateRequest) (current : ProviderConfig) : String :=
  match q.payload.baseUrl with
  | none | some "" => current.baseUrl
  | some url => url

/-- The base URL that is written, by the URL policy for a compatible provider. -/
def checkedBaseUrl (policy : UrlPolicy) (q : UpdateRequest) (providerType : ProviderType)
    (baseUrl : String) : Except ProviderUpdateError String :=
  match officialBaseUrl providerType with
  | some url =>
    if baseUrl = url then .ok baseUrl
    else .error (.configuration "内置供应商必须使用官方 Base URL")
  | none =>
    match ProviderBaseUrlPolicy.validate policy.lib (fun _ _ => q.resolved)
        policy.allowOfficialFakeIp providerType baseUrl with
    | .ok validated => .ok validated.value
    | .error e => .error (.url e)

/-- The sealed key: the new one, else the stored one. -/
def sealedKey (q : UpdateRequest) (current : ProviderConfig) :
    Except ProviderUpdateError (Bytes × Bytes) :=
  match q.payload.apiKey, current.encryptedApiKey, current.apiKeyNonce with
  | some _, _, _ => .ok (q.encryptedApiKey, q.apiKeyNonce)
  | none, some key, some nonce => .ok (key, nonce)
  | none, _, _ => .error .assertion

/-- The columns that `update` hands to the repository. -/
def values (policy : UrlPolicy) (q : UpdateRequest) (current : ProviderConfig) :
    Except ProviderUpdateError ProviderConfigUpdateValues :=
  let p := q.payload
  let providerType := p.providerType.getD current.providerType
  let allowedModels := p.allowedModels.getD current.allowedModels
  let modelProfiles := p.modelProfiles.getD current.modelProfiles
  match p.defaultModel.or current.defaultModel with
  | none => .error (.configuration "默认模型尚未配置")
  | some model =>
    if ¬allowedModels.contains model then
      .error (.configuration "默认模型必须包含在允许模型中")
    else if ¬validateModelProfiles allowedModels modelProfiles then
      .error (.configuration "模型能力快照必须与允许模型和映射键一致")
    else do
      let baseUrl ← q.checkedBaseUrl policy providerType (q.givenBaseUrl current)
      let key ← q.sealedKey current
      return {
        connection := {
          providerType, baseUrl, allowedModels, modelProfiles
          encryptedApiKey := some key.1
          apiKeyNonce := some key.2
          defaultModel := some model
          timeoutSeconds :=
            (p.timeoutMillis.map fun n => ⟨false, n, -3⟩).getD current.timeoutSeconds }
        name := p.name.getD current.name
        maxConcurrency := p.maxConcurrency.getD current.maxConcurrency
        monthlyBudget := p.monthlyBudget.getD current.monthlyBudget }

end UpdateRequest

end PaperGrading
