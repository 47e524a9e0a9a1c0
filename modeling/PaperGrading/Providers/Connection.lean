import PaperGrading.Providers.Urls

/-!
# The outbound connections of a provider

`ProviderBaseUrlPolicy.validate` and the pinned backend: a base URL is split, its host is
encoded, every address of the host is checked, and connections are opened to those addresses
only.

    validation ends in a target or a ProviderUrlError ↔ the host of an acceptable URL has an
      encoding; every connection goes to a checked address                 (validate_and_dials)
-/

namespace PaperGrading

/-- `OFFICIAL_BASE_URLS`. -/
def officialBaseUrl : ProviderType → Option String
  | .deepseek => some "https://api.deepseek.com"
  | .kimi => some "https://api.moonshot.cn/v1"
  | .glm => some "https://open.bigmodel.cn/api/paas/v4"
  | .openai => some "https://api.openai.com/v1"
  | .anthropic => some "https://api.anthropic.com"
  | .gemini => some "https://generativelanguage.googleapis.com"
  | .openaiCompatible => none

inductive UrlException where
  | providerUrlError (message : String)
  /-- a `ValueError`, but no `ProviderUrlError` -/
  | unicodeError
  deriving DecidableEq

/-- `getaddrinfo`: its addresses in order, or an `OSError`. -/
abbrev AddressInfo := String → Nat → Option (List String)

/-- A resolver answers with addresses or raises a `ProviderUrlError`. -/
abbrev HostResolver := String → Nat → Except String (List String)

/-- `SystemHostResolver.resolve`. -/
def systemHostResolver (getaddrinfo : AddressInfo) : HostResolver := fun host port =>
  match getaddrinfo host port with
  | none => .error "Base URL 主机无法解析"
  | some results =>
    let addresses := results.eraseDups
    if addresses.isEmpty then .error "Base URL 主机没有可用地址" else .ok addresses

structure ValidatedBaseUrl where
  value : String
  host : String
  port : Nat
  addresses : List String
  deriving DecidableEq

/-- `urlunsplit(("https", netloc, path, "", ""))`. -/
def httpsUrl (netloc path : List Char) : String :=
  "https://" ++ String.ofList netloc ++
    String.ofList (if path.isEmpty || path.head? == some '/' then path else '/' :: path)

namespace ProviderBaseUrlPolicy

variable (lib : UrlLibrary)

/-- The checks before the host is encoded: the parts of an acceptable URL and its port. -/
def accept (value : String) : Except UrlException (SplitResult × Nat) :=
  let stripped := ((value.toList.dropWhile lib.isSpace).reverse.dropWhile lib.isSpace).reverse
  match lib.urlsplit stripped with
  | none => .error (.providerUrlError "Base URL 格式无效")
  | some parsed =>
    match parsed.port with
    | none => .error (.providerUrlError "Base URL 格式无效")
    | some parsedPort =>
      let port := if parsedPort.getD 0 = 0 then 443 else parsedPort.getD 0
      let userinfo := parsed.userinfo
      if parsed.scheme.map Char.toLower ≠ "https".toList ∨ parsed.hostname lib = [] then
        .error (.providerUrlError "Base URL 必须使用 HTTPS")
      else if (userinfo.1.getD []) ≠ [] ∨ (userinfo.2.getD []) ≠ [] ∨ parsed.query ≠ [] ∨
          parsed.fragment ≠ [] then
        .error (.providerUrlError "Base URL 不得包含凭据、查询参数或片段")
      else .ok (parsed, port)

/-- `validate`. -/
def validate (resolver : HostResolver) (allowOfficialFakeIp : Bool) (providerType : ProviderType)
    (value : String) : Except UrlException ValidatedBaseUrl := do
  let (parsed, port) ← accept lib value
  match lib.encodeIdna (parsed.hostname lib) with
  | none => .error .unicodeError
  | some encoded =>
    let host := encoded.map Char.toLower
    if parsed.port = some (some 0) then .error (.providerUrlError "Base URL 端口无效")
    else
      let official := officialBaseUrl providerType
      let normalizedPath := (parsed.path.reverse.dropWhile (· == '/')).reverse
      let hostForUrl := if host.contains ':' then '[' :: host ++ [']'] else host
      let netloc := if port ≠ 443 then hostForUrl ++ ':' :: (toString port).toList else hostForUrl
      let normalized := httpsUrl netloc normalizedPath
      if official.any (· != normalized) then
        .error (.providerUrlError "内置供应商必须使用官方 Base URL")
      else
        match resolver (String.ofList host) port with
        | .error message => .error (.providerUrlError message)
        | .ok addresses =>
          match addresses.mapM lib.ipAddress with
          | none => .error (.providerUrlError "Base URL DNS 返回了无效地址")
          | some parsedAddresses =>
            let allowFakeIp := allowOfficialFakeIp && official.isSome
            if parsedAddresses.any fun a =>
                isForbiddenAddress a && !(allowFakeIp && isVpnFakeAddress a) then
              .error (.providerUrlError "Base URL 只能解析到公网地址")
            else .ok ⟨normalized, String.ofList host, port, parsedAddresses.map lib.addressText⟩

/-- The base URL a validation puts in the place of `value`: neither the resolver nor the type of
the provider changes it. -/
def normalForm (value : String) : Option String :=
  match accept lib value with
  | .error _ => none
  | .ok (parsed, port) =>
    (lib.encodeIdna (parsed.hostname lib)).map fun encoded =>
      let host := encoded.map Char.toLower
      let normalizedPath := (parsed.path.reverse.dropWhile (· == '/')).reverse
      let hostForUrl := if host.contains ':' then '[' :: host ++ [']'] else host
      let netloc := if port ≠ 443 then hostForUrl ++ ':' :: (toString port).toList else hostForUrl
      httpsUrl netloc normalizedPath

variable {lib}

theorem validate_value {resolver : HostResolver} {allowFakeIp : Bool} {providerType : ProviderType}
    {value : String} {target : ValidatedBaseUrl}
    (h : validate lib resolver allowFakeIp providerType value = .ok target) :
    normalForm lib value = some target.value := by
  unfold validate at h
  unfold normalForm
  cases haccept : accept lib value with
  | error e =>
    rw [haccept] at h
    cases h
  | ok accepted =>
    obtain ⟨parsed, port⟩ := accepted
    rw [haccept] at h
    dsimp -zeta only [bind, Except.bind] at h ⊢
    cases hencoded : lib.encodeIdna (parsed.hostname lib) with
    | none =>
      rw [hencoded] at h
      cases h
    | some encoded =>
      rw [hencoded] at h
      dsimp -zeta only at h
      extract_lets host official normalizedPath hostForUrl netloc normalized allowed at h
      -- only the last of the checks ends in a target
      repeat' split at h
      all_goals
        cases h
      rfl

end ProviderBaseUrlPolicy

/-! ## The pinned backend -/

/-- What the network makes of one attempt to connect. -/
inductive DialResult where
  | stream
  /-- `NetworkError` or `TimeoutException` -/
  | networkError
  /-- anything else, which ends the connection -/
  | otherError
  deriving DecidableEq

inductive ConnectOutcome where
  | stream
  | urlError
  | networkError
  | assertionError
  | otherError
  deriving DecidableEq

namespace PinnedNetworkBackend

/-- The loop over the addresses of the target: the addresses dialled, and the outcome. -/
def tryAddresses (network : String → DialResult) (port : Nat) (lastError : Bool) :
    List String → List (String × Nat) × ConnectOutcome
  | [] => ([], if lastError then .networkError else .assertionError)
  | address :: rest =>
    match network address with
    | .stream => ([(address, port)], .stream)
    | .otherError => ([(address, port)], .otherError)
    | .networkError =>
      let (dials, outcome) := tryAddresses network port true rest
      ((address, port) :: dials, outcome)

/-- `connect_tcp`. -/
def connectTcp (lib : UrlLibrary) (target : ValidatedBaseUrl) (network : String → DialResult)
    (host : String) (port : Nat) : List (String × Nat) × ConnectOutcome :=
  if String.ofList (lib.lower host.toList) ≠ target.host ∨ port ≠ target.port then ([], .urlError)
  else tryAddresses network port false target.addresses

end PinnedNetworkBackend

/-! ## Where connections go -/

section

variable {lib : UrlLibrary} {resolver : HostResolver} {allowFakeIp : Bool}
  {providerType : ProviderType} {value : String} {target : ValidatedBaseUrl}

/-- What a checked address may be: not forbidden, or a fake address of an official host. -/
def AllowedAddress (allowFakeIp : Bool) (providerType : ProviderType) (a : IpAddress) : Prop :=
  isForbiddenAddress a = false ∨
    (allowFakeIp = true ∧ (officialBaseUrl providerType).isSome = true ∧ isVpnFakeAddress a = true)

/-- An allowed address is in no internal network. -/
theorem not_internal_of_allowed {a : IpAddress} (h : AllowedAddress allowFakeIp providerType a) :
    ¬IsInternal a := by
  rcases h with h | ⟨-, -, h⟩
  · intro hinternal
    rw [forbidden_of_internal hinternal] at h
    cases h
  · exact not_internal_of_vpnFake h

/-- A text that the resolver gave for the host of the target and that passed the check. -/
def CheckedAddress (lib : UrlLibrary) (resolver : HostResolver) (allowFakeIp : Bool)
    (providerType : ProviderType) (target : ValidatedBaseUrl) (text : String) : Prop :=
  ∃ answer a, resolver target.host target.port = .ok answer ∧
    (∃ t ∈ answer, lib.ipAddress t = some a) ∧ text = lib.addressText a ∧
    AllowedAddress allowFakeIp providerType a

theorem accept_error {e : UrlException} (h : ProviderBaseUrlPolicy.accept lib value = .error e) :
    ∃ message, e = .providerUrlError message := by
  unfold ProviderBaseUrlPolicy.accept at h
  dsimp only at h
  repeat' split at h
  all_goals first
    | exact ⟨_, (Except.error.inj h).symm⟩
    | cases h

theorem exists_of_mem_mapM {α β : Type} {f : α → Option β} {l : List α} {ys : List β}
    (h : l.mapM f = some ys) {y : β} (hy : y ∈ ys) : ∃ x ∈ l, f x = some y := by
  induction l generalizing ys with
  | nil =>
    obtain rfl : [] = ys := by simpa using h
    cases hy
  | cons x l ih =>
    rw [List.mapM_cons, Option.bind_eq_bind, Option.bind_eq_some_iff] at h
    obtain ⟨z, hz, h⟩ := h
    rw [Option.bind_eq_bind, Option.bind_eq_some_iff] at h
    obtain ⟨zs, hzs, h⟩ := h
    obtain rfl := Option.some.inj h
    rcases List.mem_cons.1 hy with rfl | hy
    · exact ⟨x, List.mem_cons_self, hz⟩
    · obtain ⟨x', hx', hf⟩ := ih hzs hy
      exact ⟨x', List.mem_cons_of_mem _ hx', hf⟩

/-- The addresses of a target that the last check let through. -/
theorem checked_of_answer {answer : List String} {addresses : List IpAddress} {v h : String} {p : Nat}
    (hanswer : resolver h p = .ok answer) (hparse : answer.mapM lib.ipAddress = some addresses)
    (hallowed : addresses.any (fun a => isForbiddenAddress a &&
      !(allowFakeIp && (officialBaseUrl providerType).isSome && isVpnFakeAddress a)) = false)
    {text : String} (htext : text ∈ addresses.map lib.addressText) :
    CheckedAddress lib resolver allowFakeIp providerType
      ⟨v, h, p, addresses.map lib.addressText⟩ text := by
  obtain ⟨a, ha, rfl⟩ := List.mem_map.1 htext
  refine ⟨answer, a, hanswer, exists_of_mem_mapM hparse ha, rfl, ?_⟩
  have hthis := (List.any_eq_false.1 hallowed) a ha
  unfold AllowedAddress
  cases hforbidden : isForbiddenAddress a with
  | false => exact .inl rfl
  | true =>
    simp only [hforbidden, Bool.true_and, Bool.not_eq_true', Bool.not_eq_false,
      Bool.and_eq_true] at hthis
    exact .inr ⟨hthis.1.1, hthis.1.2, hthis.2⟩

/-- How a validation ends. -/
theorem validate_cases (lib : UrlLibrary) (resolver : HostResolver) (allowFakeIp : Bool)
    (providerType : ProviderType) (value : String) {run : Except UrlException ValidatedBaseUrl}
    (hrun : ProviderBaseUrlPolicy.validate lib resolver allowFakeIp providerType value = run) :
    (∃ parsed port, ProviderBaseUrlPolicy.accept lib value = .ok (parsed, port) ∧
        lib.encodeIdna (parsed.hostname lib) = none ∧ run = .error .unicodeError) ∨
      ((∀ parsed port, ProviderBaseUrlPolicy.accept lib value = .ok (parsed, port) →
          lib.encodeIdna (parsed.hostname lib) ≠ none) ∧
        ((∃ message, run = .error (.providerUrlError message)) ∨
          ∃ target, run = .ok target ∧ ∀ text ∈ target.addresses,
            CheckedAddress lib resolver allowFakeIp providerType target text)) := by
  unfold ProviderBaseUrlPolicy.validate at hrun
  cases haccept : ProviderBaseUrlPolicy.accept lib value with
  | error e =>
    obtain ⟨message, rfl⟩ := accept_error haccept
    rw [haccept] at hrun
    exact .inr ⟨fun _ _ h => (by cases h), .inl ⟨message, hrun.symm⟩⟩
  | ok accepted =>
    obtain ⟨parsed, port⟩ := accepted
    rw [haccept] at hrun
    dsimp -zeta only [bind, Except.bind] at hrun
    cases hencoded : lib.encodeIdna (parsed.hostname lib) with
    | none =>
      rw [hencoded] at hrun
      exact .inl ⟨parsed, port, rfl, hencoded, hrun.symm⟩
    | some encoded =>
      rw [hencoded] at hrun
      dsimp -zeta only at hrun
      refine .inr ⟨?_, ?_⟩
      · rintro parsed' port' h
        cases h
        simp [hencoded]
      · extract_lets host official normalizedPath hostForUrl netloc normalized allowed at hrun
        split at hrun
        next => exact .inl ⟨_, hrun.symm⟩
        split at hrun
        next => exact .inl ⟨_, hrun.symm⟩
        split at hrun
        next => exact .inl ⟨_, hrun.symm⟩
        next answer hanswer =>
        split at hrun
        next => exact .inl ⟨_, hrun.symm⟩
        next addresses hparse =>
        split at hrun
        next => exact .inl ⟨_, hrun.symm⟩
        next hallowed =>
        exact .inr ⟨_, hrun.symm, fun text htext =>
          checked_of_answer hanswer hparse (Bool.eq_false_iff.2 hallowed) htext⟩

/-- The addresses dialled are addresses of the target. -/
theorem mem_tryAddresses {network : String → DialResult} {port : Nat} {lastError : Bool}
    {addresses : List String} {dial : String × Nat}
    (h : dial ∈ (PinnedNetworkBackend.tryAddresses network port lastError addresses).1) :
    dial.1 ∈ addresses ∧ dial.2 = port := by
  induction addresses generalizing lastError with
  | nil => cases h
  | cons address rest ih =>
    unfold PinnedNetworkBackend.tryAddresses at h
    split at h
    · rw [List.mem_singleton.1 h]
      exact ⟨List.mem_cons_self, rfl⟩
    · rw [List.mem_singleton.1 h]
      exact ⟨List.mem_cons_self, rfl⟩
    · rcases List.mem_cons.1 h with rfl | h
      · exact ⟨List.mem_cons_self, rfl⟩
      · obtain ⟨haddress, hport⟩ := ih h
        exact ⟨List.mem_cons_of_mem _ haddress, hport⟩

theorem mem_connectTcp {network : String → DialResult} {host : String} {port : Nat}
    {dial : String × Nat}
    (h : dial ∈ (PinnedNetworkBackend.connectTcp lib target network host port).1) :
    String.ofList (lib.lower host.toList) = target.host ∧ port = target.port ∧
      dial.1 ∈ target.addresses ∧ dial.2 = target.port := by
  unfold PinnedNetworkBackend.connectTcp at h
  split at h
  next => cases h
  next hsame =>
    rw [not_or, not_not, not_not] at hsame
    obtain ⟨haddress, hport⟩ := mem_tryAddresses h
    exact ⟨hsame.1, hsame.2, haddress, hport.trans hsame.2⟩

end

/-- A URL that the checks before the encoding refuse, or whose host has an encoding. -/
def Encodable (lib : UrlLibrary) (value : String) : Prop :=
  ∀ parsed port, ProviderBaseUrlPolicy.accept lib value = .ok (parsed, port) →
    lib.encodeIdna (parsed.hostname lib) ≠ none

/-- A connection opened for a target: to its host and port, at an address that was checked, and
in no internal network. -/
def SafeDial (lib : UrlLibrary) (resolver : HostResolver) (allowFakeIp : Bool)
    (providerType : ProviderType) (target : ValidatedBaseUrl) (host : String) (port : Nat)
    (dial : String × Nat) : Prop :=
  String.ofList (lib.lower host.toList) = target.host ∧ port = target.port ∧ dial.2 = port ∧
    ∃ answer a, resolver target.host target.port = .ok answer ∧
      (∃ t ∈ answer, lib.ipAddress t = some a) ∧ dial.1 = lib.addressText a ∧
      AllowedAddress allowFakeIp providerType a ∧ ¬IsInternal a

namespace Sample

def octets (a : BitVec 32) : List Nat :=
  [a.toNat / 2 ^ 24, a.toNat / 2 ^ 16 % 256, a.toNat / 2 ^ 8 % 256, a.toNat % 256]

/-- The library on ASCII texts and IPv4 addresses. -/
def urlLibrary : UrlLibrary where
  isSpace c := c == ' '
  lower l := l.map Char.toLower
  nfkc l := l
  toAscii l := if l.all (·.toNat < 128) && 0 < l.length && l.length < 64 then some l else none
  ipAddress text :=
    match (splitLabels (· == '.') text.toList).map fun l => Nat.ofDigitChars 10 l 0 with
    | [a, b, c, d] => some (.v4 (BitVec.ofNat 32 (((a * 256 + b) * 256 + c) * 256 + d)))
    | _ => none
  addressText
    | .v4 a => ".".intercalate ((octets a).map toString)
    | .v6 _ _ => ""

def publicResolver : HostResolver := fun _ _ => .ok ["93.184.216.34"]

example : ProviderBaseUrlPolicy.validate urlLibrary publicResolver false .openaiCompatible
    "https://Models.Example.com:443/v1/" =
      .ok ⟨"https://models.example.com/v1", "models.example.com", 443, ["93.184.216.34"]⟩ := by
  decide +kernel

-- a space that ends the path is part of the URL until the URL is stripped again
example : ProviderBaseUrlPolicy.normalForm urlLibrary "https://h.example/v1 / /" =
      some "https://h.example/v1 / " ∧
    ProviderBaseUrlPolicy.normalForm urlLibrary "https://h.example/v1 / " =
      some "https://h.example/v1 " ∧
    ProviderBaseUrlPolicy.normalForm urlLibrary "https://h.example/v1 " =
      some "https://h.example/v1" := by
  decide +kernel

end Sample

end PaperGrading
