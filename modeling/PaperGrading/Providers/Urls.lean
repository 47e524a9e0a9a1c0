import PaperGrading.Domain.Provider

/-!
# URLs, host names and addresses

What `providers/connection.py` uses of `urllib.parse`, of the codec `idna` and of
`ipaddress`, on lists of characters.  Unicode normalization, the encoding of a label that
is not ASCII and the texts of addresses are left to the library.

    internal networks are forbidden, in their IPv6 spelling too          (forbidden_of_internal)
-/

namespace PaperGrading

/-! ## Addresses -/

/-- `IPv4Address` or `IPv6Address`, the latter with its scope. -/
inductive IpAddress where
  | v4 (a : BitVec 32)
  | v6 (a : BitVec 128) (scope : Option String)
  deriving DecidableEq

/-- `address in network`, a network being its first address and the length of its prefix. -/
def inNetwork {w : Nat} (a : BitVec w) (network : BitVec w × Nat) : Bool :=
  a.toNat / 2 ^ (w - network.2) == network.1.toNat / 2 ^ (w - network.2)

/-- `a.b.c.d/n`. -/
def net4 (a b c d n : Nat) : BitVec 32 × Nat :=
  (BitVec.ofNat 32 (((a * 256 + b) * 256 + c) * 256 + d), n)

/-- The first 48 bits of an IPv6 network, the rest zero. -/
def net6 (a b c n : Nat) : BitVec 128 × Nat :=
  (BitVec.ofNat 128 (((a * 2 ^ 16 + b) * 2 ^ 16 + c) * 2 ^ 80), n)

def loopback4 := net4 127 0 0 0 8
def linkLocal4 := net4 169 254 0 0 16
def multicast4 := net4 224 0 0 0 4
def reserved4 := net4 240 0 0 0 4
def sharedAddressSpace4 := net4 100 64 0 0 10

/-- `_private_networks` of IPv4. -/
def privateNetworks4 : List (BitVec 32 × Nat) :=
  [net4 0 0 0 0 8, net4 10 0 0 0 8, loopback4, linkLocal4, net4 172 16 0 0 12, net4 192 0 0 0 24,
    net4 192 0 0 170 31, net4 192 0 2 0 24, net4 192 168 0 0 16, net4 198 18 0 0 15,
    net4 198 51 100 0 24, net4 203 0 113 0 24, reserved4, net4 255 255 255 255 32]

def privateExceptions4 : List (BitVec 32 × Nat) := [net4 192 0 0 9 32, net4 192 0 0 10 32]

def linkLocal6 := net6 0xfe80 0 0 10
def multicast6 := net6 0xff00 0 0 8

/-- `_private_networks` of IPv6. -/
def privateNetworks6 : List (BitVec 128 × Nat) :=
  [(1, 128), (0, 128), (BitVec.ofNat 128 (0xffff * 2 ^ 32), 96), net6 0x64 0xff9b 1 48,
    net6 0x100 0 0 64, net6 0x2001 0 0 23, net6 0x2001 0xdb8 0 32, net6 0x2002 0 0 16,
    net6 0x3fff 0 0 20, net6 0xfc00 0 0 7, linkLocal6]

def privateExceptions6 : List (BitVec 128 × Nat) :=
  [(BitVec.ofNat 128 (0x20010001 * 2 ^ 96 + 1), 128), (BitVec.ofNat 128 (0x20010001 * 2 ^ 96 + 2), 128),
    net6 0x2001 3 0 32, net6 0x2001 4 0x112 48, net6 0x2001 0x20 0 28, net6 0x2001 0x30 0 28]

/-- `_reserved_networks` of IPv6. -/
def reservedNetworks6 : List (BitVec 128 × Nat) :=
  [net6 0 0 0 8, net6 0x100 0 0 8, net6 0x200 0 0 7, net6 0x400 0 0 6, net6 0x800 0 0 5,
    net6 0x1000 0 0 4, net6 0x4000 0 0 3, net6 0x6000 0 0 3, net6 0x8000 0 0 3, net6 0xa000 0 0 3,
    net6 0xc000 0 0 3, net6 0xe000 0 0 4, net6 0xf000 0 0 5, net6 0xf800 0 0 6, net6 0xfe00 0 0 9]

/-- `_is_forbidden_address` of an IPv4 address. -/
def isForbidden4 (a : BitVec 32) : Bool :=
  let isPrivate := privateNetworks4.any (inNetwork a) && !privateExceptions4.any (inNetwork a)
  let isGlobal := !inNetwork a sharedAddressSpace4 && !isPrivate
  !isGlobal || isPrivate || inNetwork a loopback4 || inNetwork a linkLocal4 ||
    inNetwork a multicast4 || inNetwork a reserved4 || a == 0

/-- `_is_forbidden_address` of an IPv6 address that maps no IPv4 address. -/
def isForbidden6 (a : BitVec 128) : Bool :=
  let isPrivate := privateNetworks6.any (inNetwork a) && !privateExceptions6.any (inNetwork a)
  let isGlobal := !isPrivate
  !isGlobal || isPrivate || a == 1 || inNetwork a linkLocal6 || inNetwork a multicast6 ||
    reservedNetworks6.any (inNetwork a) || a == 0

/-- `ipv4_mapped`. -/
def ipv4Mapped (a : BitVec 128) : Option (BitVec 32) :=
  if a.toNat / 2 ^ 32 = 0xffff then some (BitVec.ofNat 32 a.toNat) else none

def isForbiddenAddress : IpAddress → Bool
  | .v4 a => isForbidden4 a
  | .v6 a _ =>
    match ipv4Mapped a with
    | some mapped => isForbidden4 mapped
    | none => isForbidden6 a

/-! ## Internal networks -/

/-- Loopback, the private networks of organisations, link-local and shared addresses. -/
def internalNetworks4 : List (BitVec 32 × Nat) :=
  [net4 0 0 0 0 8, net4 10 0 0 0 8, loopback4, linkLocal4, net4 172 16 0 0 12, net4 192 168 0 0 16,
    sharedAddressSpace4]

def internalNetworks6 : List (BitVec 128 × Nat) := [(0, 128), (1, 128), net6 0xfc00 0 0 7, linkLocal6]

/-- An address of an internal network, also one spelled as a mapped IPv6 address. -/
def IsInternal : IpAddress → Prop
  | .v4 a => internalNetworks4.any (inNetwork a) = true
  | .v6 a _ =>
    match ipv4Mapped a with
    | some mapped => internalNetworks4.any (inNetwork mapped) = true
    | none => internalNetworks6.any (inNetwork a) = true

/-- Two networks with a common address: one holds the first address of the other. -/
theorem inNetwork_or {w : Nat} {a : BitVec w} {n m : BitVec w × Nat} (hn : inNetwork a n = true)
    (hm : inNetwork a m = true) : inNetwork m.1 n = true ∨ inNetwork n.1 m = true := by
  unfold inNetwork at *
  simp only [beq_iff_eq] at *
  have hdiv {x y : Nat} {i j : Nat} (hij : j ≤ i) (h : x / 2 ^ j = y / 2 ^ j) :
      x / 2 ^ i = y / 2 ^ i := by
    obtain ⟨k, rfl⟩ := Nat.exists_eq_add_of_le hij
    rw [pow_add, ← Nat.div_div_eq_div_mul, h, Nat.div_div_eq_div_mul]
  rcases Nat.le_total (w - n.2) (w - m.2) with hle | hle
  · exact .inr ((hdiv hle hn).symm.trans hm)
  · exact .inl ((hdiv hle hm).symm.trans hn)

/-- No network of one list has an address in common with one of the other. -/
theorem any_eq_false_of_disjoint {w : Nat} {a : BitVec w} {n : BitVec w × Nat}
    {networks : List (BitVec w × Nat)} (hn : inNetwork a n = true)
    (hdisjoint : ∀ m ∈ networks, inNetwork m.1 n = false ∧ inNetwork n.1 m = false) :
    networks.any (inNetwork a) = false := by
  rw [List.any_eq_false]
  intro m hm hmem
  obtain ⟨h₁, h₂⟩ := hdisjoint m hm
  rcases inNetwork_or hn hmem with h | h
  · rw [h] at h₁
    cases h₁
  · rw [h] at h₂
    cases h₂

theorem isForbidden4_of_internal {a : BitVec 32} (h : internalNetworks4.any (inNetwork a) = true) :
    isForbidden4 a = true := by
  obtain ⟨n, hn, ha⟩ := List.any_eq_true.1 h
  have hcases : ∀ n ∈ internalNetworks4, n = sharedAddressSpace4 ∨ (n ∈ privateNetworks4 ∧
      ∀ m ∈ privateExceptions4, inNetwork m.1 n = false ∧ inNetwork n.1 m = false) := by
    decide +kernel
  unfold isForbidden4
  rcases hcases n hn with rfl | ⟨hprivate, hdisjoint⟩
  · simp [ha]
  · have hexceptions := any_eq_false_of_disjoint ha hdisjoint
    have hany : privateNetworks4.any (inNetwork a) = true := List.any_eq_true.2 ⟨n, hprivate, ha⟩
    simp [hany, hexceptions]

theorem isForbidden6_of_internal {a : BitVec 128} (h : internalNetworks6.any (inNetwork a) = true) :
    isForbidden6 a = true := by
  obtain ⟨n, hn, ha⟩ := List.any_eq_true.1 h
  have hcases : ∀ n ∈ internalNetworks6, n ∈ privateNetworks6 ∧
      ∀ m ∈ privateExceptions6, inNetwork m.1 n = false ∧ inNetwork n.1 m = false := by
    decide +kernel
  obtain ⟨hprivate, hdisjoint⟩ := hcases n hn
  have hexceptions := any_eq_false_of_disjoint ha hdisjoint
  have hany : privateNetworks6.any (inNetwork a) = true := List.any_eq_true.2 ⟨n, hprivate, ha⟩
  unfold isForbidden6
  simp [hany, hexceptions]

/-- **Internal addresses are forbidden**, in their IPv6 spelling too. -/
theorem forbidden_of_internal {a : IpAddress} (h : IsInternal a) : isForbiddenAddress a = true := by
  cases a with
  | v4 a => exact isForbidden4_of_internal h
  | v6 a scope =>
    unfold IsInternal at h
    unfold isForbiddenAddress
    cases hmapped : ipv4Mapped a with
    | none =>
      simp only [hmapped] at h ⊢
      exact isForbidden6_of_internal h
    | some mapped =>
      simp only [hmapped] at h ⊢
      exact isForbidden4_of_internal h

def vpnFakeIpNetwork := net4 198 18 0 0 15

def isVpnFakeAddress : IpAddress → Bool
  | .v4 a => inNetwork a vpnFakeIpNetwork
  | .v6 _ _ => false

theorem not_internal_of_vpnFake {a : IpAddress} (h : isVpnFakeAddress a = true) : ¬IsInternal a := by
  cases a with
  | v6 a scope => cases h
  | v4 a =>
    have hdisjoint : ∀ m ∈ internalNetworks4,
        inNetwork m.1 vpnFakeIpNetwork = false ∧ inNetwork vpnFakeIpNetwork.1 m = false := by
      decide +kernel
    show ¬internalNetworks4.any (inNetwork a) = true
    rw [any_eq_false_of_disjoint h hdisjoint]
    decide

/-! ## The libraries -/

/-- What the URL functions take from the Unicode database and from `ipaddress`. -/
structure UrlLibrary where
  isSpace : Char → Bool
  lower : List Char → List Char
  /-- `unicodedata.normalize("NFKC", ·)` -/
  nfkc : List Char → List Char
  /-- `encodings.idna.ToASCII`; `none` is a `UnicodeError` -/
  toAscii : List Char → Option (List Char)
  /-- `ip_address(text)`; `none` is a `ValueError` -/
  ipAddress : String → Option IpAddress
  /-- `str(address)` -/
  addressText : IpAddress → String

/-! ## Texts -/

/-- `text.partition(c)`. -/
def partitionAt (c : Char) (l : List Char) : List Char × Bool × List Char :=
  (l.takeWhile (· != c), l.contains c, (l.dropWhile (· != c)).drop 1)

/-- `text.rpartition(c)`: before the last `c` and after it. -/
def rpartitionAt (c : Char) (l : List Char) : List Char × Bool × List Char :=
  let (after, found, before) := partitionAt c l.reverse
  if found then (before.reverse, true, after.reverse) else ([], false, l)

/-- `text.split(c)` for the characters `p` holds of. -/
def splitLabels (p : Char → Bool) : List Char → List (List Char)
  | [] => [[]]
  | c :: l =>
    if p c then [] :: splitLabels p l
    else match splitLabels p l with
      | [] => [[c]]
      | w :: ws => (c :: w) :: ws

/-! ## `urlsplit` -/

structure SplitResult where
  scheme : List Char
  netloc : List Char
  path : List Char
  query : List Char
  fragment : List Char

namespace UrlLibrary

variable (lib : UrlLibrary)

/-- `_checknetloc`: no separator appears when the host is normalized. -/
def checkNetloc (netloc : List Char) : Bool :=
  netloc.all (·.toNat < 128) ||
    let n := netloc.filter fun c => !(['@', ':', '#', '?'].contains c)
    let normalized := lib.nfkc n
    decide (n = normalized) || !(['/', '?', '#', '@', ':'].any normalized.contains)

def isHex (c : Char) : Bool := c.isDigit || ('a' ≤ c && c ≤ 'f') || ('A' ≤ c && c ≤ 'F')

/-- `_check_bracketed_host`. -/
def checkBracketedHost (hostname : List Char) : Bool :=
  match hostname with
  | 'v' :: rest =>
    let (version, found, address) := partitionAt '.' rest
    found && !version.isEmpty && version.all isHex && !address.isEmpty && !address.contains '\n'
  | _ =>
    match lib.ipAddress (String.ofList hostname) with
    | some (.v6 _ _) => true
    | _ => false

/-- `_check_bracketed_netloc`. -/
def checkBracketedNetloc (netloc : List Char) : Bool :=
  let (_, _, hostnameAndPort) := rpartitionAt '@' netloc
  let (beforeBracket, haveOpenBr, bracketed) := partitionAt '[' hostnameAndPort
  if haveOpenBr then
    let (hostname, _, port) := partitionAt ']' bracketed
    beforeBracket.isEmpty && (port.isEmpty || port.head? == some ':') &&
      lib.checkBracketedHost hostname
  else lib.checkBracketedHost (partitionAt ':' hostnameAndPort).1

def isSchemeChar (c : Char) : Bool := c.isAlphanum || c == '+' || c == '-' || c == '.'

/-- `urlsplit(url)`; `none` is a `ValueError`. -/
def urlsplit (url : List Char) : Option SplitResult :=
  let url := (url.dropWhile (·.toNat ≤ 32)).filter fun c => !(['\t', '\r', '\n'].contains c)
  let (start, found, rest) := partitionAt ':' url
  let (scheme, url) :=
    if found && start.head?.any Char.isAlpha && start.all isSchemeChar then
      (start.map Char.toLower, rest)
    else ([], url)
  let (netloc, url) :=
    match url with
    | '/' :: '/' :: rest =>
      let ends (c : Char) : Bool := c == '/' || c == '?' || c == '#'
      (rest.takeWhile (!ends ·), rest.dropWhile (!ends ·))
    | _ => ([], url)
  if netloc.contains '[' != netloc.contains ']' then none
  else if netloc.contains '[' && !lib.checkBracketedNetloc netloc then none
  else
    let (url, _, fragment) := partitionAt '#' url
    let (path, _, query) := partitionAt '?' url
    if lib.checkNetloc netloc then some ⟨scheme, netloc, path, query, fragment⟩ else none

end UrlLibrary

namespace SplitResult

/-- `_userinfo`: the user name and the password. -/
def userinfo (r : SplitResult) : Option (List Char) × Option (List Char) :=
  let (userinfo, haveInfo, _) := rpartitionAt '@' r.netloc
  if haveInfo then
    let (username, havePassword, password) := partitionAt ':' userinfo
    (some username, if havePassword then some password else none)
  else (none, none)

/-- `_hostinfo`: the host name and the port. -/
def hostinfo (r : SplitResult) : List Char × Option (List Char) :=
  let (_, _, hostinfo) := rpartitionAt '@' r.netloc
  let (_, haveOpenBr, bracketed) := partitionAt '[' hostinfo
  let (hostname, port) :=
    if haveOpenBr then
      let (hostname, _, rest) := partitionAt ']' bracketed
      (hostname, (partitionAt ':' rest).2.2)
    else
      let (hostname, _, port) := partitionAt ':' hostinfo
      (hostname, port)
  (hostname, if port.isEmpty then none else some port)

/-- `hostname`: in lower case up to the zone of an address. -/
def hostname (lib : UrlLibrary) (r : SplitResult) : List Char :=
  let (host, found, zone) := partitionAt '%' r.hostinfo.1
  lib.lower host ++ (if found then '%' :: zone else [])

/-- `port`; `none` is a `ValueError`. -/
def port (r : SplitResult) : Option (Option Nat) :=
  match r.hostinfo.2 with
  | none => some none
  | some digits =>
    if digits.all Char.isDigit then
      let n := Nat.ofDigitChars 10 digits 0
      if n ≤ 65535 then some (some n) else none
    else none

end SplitResult

/-! ## `str.encode("idna")` -/

/-- `none` is a `UnicodeError`. -/
def UrlLibrary.encodeIdna (lib : UrlLibrary) (host : List Char) : Option (List Char) :=
  if host.all (·.toNat < 128) then
    let labels := splitLabels (· == '.') host
    if labels.dropLast.all (fun l => 0 < l.length && l.length < 64) &&
        labels.getLast?.all (·.length < 64) then some host
    else none
  else
    let labels := splitLabels (fun c => c == '.' || c == '\u3002' || c == '\uff0e' || c == '\uff61') host
    let (labels, trailingDot) :=
      if labels.getLast? = some [] then (labels.dropLast, ['.']) else (labels, [])
    (labels.mapM lib.toAscii).map fun encoded => ['.'].intercalate encoded ++ trailingDot

end PaperGrading
