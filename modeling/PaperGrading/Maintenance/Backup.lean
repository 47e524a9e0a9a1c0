import PaperGrading.Base.Bytes
import PaperGrading.Base.StreamAead
import PaperGrading.Domain.Values

/-!
# The backup envelope

`BackupFileCipher`: the fixed fields, the identifier of the key and the nonce are the header,
the header is the associated data, the body is sealed piece by piece and the tag comes last.

    decrypting succeeds with p ↔ the file is what encrypting p writes for some nonce, and
    otherwise it raises and leaves no file                                 (decryptFile_spec)
-/

namespace PaperGrading

open BigEndian

def fileChunkBytes : Nat := 1024 * 1024

def envelopeMagic : Bytes := [80, 71, 66, 65, 67, 75, 85, 80]

def envelopeVersionByte : UInt8 := 1

def nonceBytes : Nat := 12

def tagBytes : Nat := 16

def keyBytes : Nat := 32

/-- `^[A-Za-z0-9][A-Za-z0-9._-]{0,63}$`. -/
def isKeyId (s : String) : Bool :=
  match s.toList with
  | [] => false
  | c :: cs => c.isAlphanum && decide (cs.length ≤ 63) &&
      cs.all fun d => d.isAlphanum || d == '.' || d == '_' || d == '-'

abbrev CipherKey := { k : Bytes // k.length = keyBytes }

abbrev Nonce := { n : Bytes // n.length = nonceBytes }

structure BackupEncryptionKey where
  keyId : String
  key : CipherKey
  keyId_valid : isKeyId keyId = true

/-- `UUID.bytes`. -/
def uuidBytes (u : Uuid) : Bytes := beBytes 16 u.toNat

/-- `UUID(bytes=…)`. -/
def uuidOfBytes (b : Bytes) : Uuid := BitVec.ofNat 128 (beNat b)

/-- `str.encode("ascii")` of an ASCII text. -/
def encodeAscii (s : String) : Bytes := s.toList.map fun c => UInt8.ofNat c.toNat

/-- `bytes.decode("ascii")`. -/
def decodeAscii (b : Bytes) : Option String :=
  if b.all (· < 128) then some (String.ofList (b.map fun x => Char.ofNat x.toNat)) else none

inductive BackupError where
  /-- `BackupEnvelopeError`, a `ValueError` -/
  | envelope (code : String)
  | invalidTag
  /-- `FileExistsError`, an `OSError` -/
  | fileExists
  deriving DecidableEq

def envelopeInvalid : BackupError := .envelope "backup_envelope_invalid"

/-- The cipher of the envelope. -/
abbrev FileAead := StreamAead CipherKey Nonce tagBytes

namespace BackupFileCipher

/-! ## Encrypting -/

def header (backupId : Uuid) (keyId : String) (nonce : Bytes) : Bytes :=
  let keyIdBytes := encodeAscii keyId
  envelopeMagic ++ [envelopeVersionByte] ++ uuidBytes backupId ++ beBytes 2 keyIdBytes.length ++
    keyIdBytes ++ nonce

/-- `while chunk := source.read(FILE_CHUNK_BYTES)`: what is written and the context. -/
def encryptLoop (A : FileAead) (s : A.Encryptor) (source : Bytes) : Bytes × A.Encryptor :=
  let chunk := source.take fileChunkBytes
  if _h : chunk = [] then ([], s)
  else
    let (out, s') := A.encUpdate s chunk
    let (rest, s'') := encryptLoop A s' (source.drop fileChunkBytes)
    (out ++ rest, s'')
termination_by source.length
decreasing_by
  have hsource : source ≠ [] := fun hnil => _h (by simp [chunk, hnil])
  have hpos := List.length_pos_iff.2 hsource
  have hchunk : 0 < fileChunkBytes := by decide
  rw [List.length_drop]
  omega

/-- The content of an encrypted file. -/
def encryptedBytes (A : FileAead) (key : BackupEncryptionKey) (backupId : Uuid) (nonce : Nonce)
    (source : Bytes) : Bytes :=
  let header := header backupId key.keyId nonce
  let (body, s) := encryptLoop A (A.encryptor key.key nonce header) source
  let (rest, tag) := A.encFinalize s
  header ++ body ++ rest ++ tag

/-- `encrypt_file`, with the file at the destination before and after. -/
def encryptFile (A : FileAead) (key : BackupEncryptionKey) (backupId : Uuid) (nonce : Nonce)
    (source : Bytes) (destination : Option Bytes) : Except BackupError Unit × Option Bytes :=
  match destination with
  | some _ => (.error .fileExists, destination)
  | none => (.ok (), some (encryptedBytes A key backupId nonce source))

/-! ## Decrypting -/

/-- `source.seek(position); source.read(n)`. -/
def readAt (source : Bytes) (position n : Nat) : Bytes := (source.drop position).take n

def minimumHeaderBytes : Nat := envelopeMagic.length + 1 + 16 + 2

/-- What the envelope says before its body is read. -/
structure Envelope where
  header : Bytes
  nonce : Nonce
  tag : Bytes
  ciphertextSize : Nat

def readEnvelope (key : BackupEncryptionKey) (expectedBackupId : Uuid) (source : Bytes) :
    Except BackupError Envelope :=
  let totalSize := source.length
  let fixed := readAt source 0 minimumHeaderBytes
  if fixed.length ≠ minimumHeaderBytes then .error envelopeInvalid
  else if fixed.take envelopeMagic.length ≠ envelopeMagic then .error envelopeInvalid
  else if fixed[envelopeMagic.length]? ≠ some envelopeVersionByte then
    .error (.envelope "backup_encryption_version_unsupported")
  else
    let offset := envelopeMagic.length + 1
    let actualBackupId := uuidOfBytes (readAt fixed offset 16)
    let keyIdSize := beNat (readAt fixed (offset + 16) 2)
    let keyIdBytes := readAt source minimumHeaderBytes keyIdSize
    let nonce := readAt source (minimumHeaderBytes + keyIdBytes.length) nonceBytes
    if h : keyIdBytes.length ≠ keyIdSize ∨ nonce.length ≠ nonceBytes then .error envelopeInvalid
    else match decodeAscii keyIdBytes with
    | none => .error envelopeInvalid
    | some actualKeyId =>
      if actualBackupId ≠ expectedBackupId ∨ actualKeyId ≠ key.keyId then
        .error (.envelope "backup_envelope_identity_mismatch")
      else
        let header := fixed ++ keyIdBytes ++ nonce
        if totalSize < header.length + tagBytes then .error envelopeInvalid
        else
          let tag := readAt source (totalSize - tagBytes) tagBytes
          if tag.length ≠ tagBytes then .error envelopeInvalid
          else .ok ⟨header, ⟨nonce, by simpa using (not_or.1 h).2⟩, tag,
            totalSize - header.length - tagBytes⟩

/-- `while remaining`: the context and what has been written. -/
def decryptLoop (A : FileAead) (s : A.Decryptor) (rest : Bytes) (remaining : Nat)
    (written : Bytes) : Except BackupError A.Decryptor × Bytes :=
  if remaining = 0 then (.ok s, written)
  else
    let chunk := rest.take (min fileChunkBytes remaining)
    if _h : chunk = [] then (.error envelopeInvalid, written)
    else
      let (out, s') := A.decUpdate s chunk
      decryptLoop A s' (rest.drop chunk.length) (remaining - chunk.length) (written ++ out)
termination_by remaining
decreasing_by
  have hpos : 0 < chunk.length := List.length_pos_iff.2 _h
  exact Nat.sub_lt (Nat.pos_of_ne_zero ‹_›) hpos

/-- A run of the guarded block: its outcome, the destination and whether the run created it. -/
structure DecryptRun where
  result : Except BackupError Unit
  destination : Option Bytes
  destinationCreated : Bool

def decryptRun (A : FileAead) (key : BackupEncryptionKey) (expectedBackupId : Uuid) (source : Bytes)
    (destination : Option Bytes) : DecryptRun :=
  match readEnvelope key expectedBackupId source with
  | .error e => ⟨.error e, destination, false⟩
  | .ok envelope =>
    match destination with
    | some _ => ⟨.error .fileExists, destination, false⟩
    | none =>
      let s := A.decryptor key.key envelope.nonce envelope.tag envelope.header
      match decryptLoop A s (source.drop envelope.header.length) envelope.ciphertextSize [] with
      | (.error e, written) => ⟨.error e, some written, true⟩
      | (.ok s', written) =>
        match A.decFinalize s' with
        | none => ⟨.error .invalidTag, some written, true⟩
        | some rest => ⟨.ok (), some (written ++ rest), true⟩

/-- `decrypt_file`: the handlers of the guarded block. -/
def decryptFile (A : FileAead) (key : BackupEncryptionKey) (expectedBackupId : Uuid)
    (source : Bytes) (destination : Option Bytes) : Except BackupError Unit × Option Bytes :=
  let run := decryptRun A key expectedBackupId source destination
  let unlinked := if run.destinationCreated then none else run.destination
  match run.result with
  | .ok () => (.ok (), run.destination)
  | .error .invalidTag =>
    (.error (.envelope "backup_envelope_authentication_failed"), unlinked)
  | .error e => (.error e, unlinked)

/-! ## Fields -/

theorem length_uuidBytes (u : Uuid) : (uuidBytes u).length = 16 := length_beBytes 16 _

theorem uuidOfBytes_uuidBytes (u : Uuid) : uuidOfBytes (uuidBytes u) = u := by
  unfold uuidOfBytes uuidBytes
  rw [beNat_beBytes (by have := u.isLt; omega), BitVec.ofNat_toNat, BitVec.setWidth_eq]

theorem uuidBytes_uuidOfBytes {b : Bytes} (h : b.length = 16) : uuidBytes (uuidOfBytes b) = b := by
  have hlt := beNat_lt b
  unfold uuidOfBytes uuidBytes
  rw [BitVec.toNat_ofNat, Nat.mod_eq_of_lt (by rw [h] at hlt; omega), ← h, beBytes_beNat]

theorem decodeAscii_eq_some {b : Bytes} {s : String} :
    decodeAscii b = some s ↔ (∀ c ∈ s.toList, c.toNat < 128) ∧ b = encodeAscii s := by
  have hascii : ∀ n < 128, (Char.ofNat n).toNat = n := by decide
  have hchar (x : UInt8) (hx : x < 128) : (Char.ofNat x.toNat).toNat = x.toNat :=
    hascii _ (UInt8.lt_iff_toNat_lt.1 hx)
  have hbyte (c : Char) (hc : c.toNat < 128) :
      UInt8.ofNat c.toNat < 128 ∧ Char.ofNat (UInt8.ofNat c.toNat).toNat = c := by
    have htoNat : (UInt8.ofNat c.toNat).toNat = c.toNat := by
      rw [UInt8.toNat_ofNat']
      omega
    rw [UInt8.lt_iff_toNat_lt, htoNat, Char.ofNat_toNat]
    exact ⟨hc, rfl⟩
  unfold decodeAscii encodeAscii
  constructor
  · intro h
    split at h
    next hall =>
      obtain rfl := Option.some.inj h
      rw [List.all_eq_true] at hall
      constructor
      · intro c hc
        rw [String.toList_ofList] at hc
        obtain ⟨x, hx, rfl⟩ := List.mem_map.1 hc
        have hx := of_decide_eq_true (hall x hx)
        rw [hchar x hx]
        exact UInt8.lt_iff_toNat_lt.1 hx
      · rw [String.toList_ofList, List.map_map]
        conv => lhs; rw [← List.map_id b]
        apply List.map_congr_left
        intro x hx
        rw [Function.comp_apply, hchar x (of_decide_eq_true (hall x hx)), UInt8.ofNat_toNat]
        rfl
    next => cases h
  · rintro ⟨hascii, rfl⟩
    rw [if_pos]
    · congr 1
      rw [List.map_map]
      conv => rhs; rw [← String.ofList_toList (s := s), ← List.map_id s.toList]
      congr 1
      apply List.map_congr_left
      intro c hc
      exact (hbyte c (hascii c hc)).2
    · rw [List.all_eq_true]
      intro x hx
      obtain ⟨c, hc, rfl⟩ := List.mem_map.1 hx
      exact decide_eq_true (hbyte c (hascii c hc)).1

theorem ascii_of_isAlphanum {c : Char} (h : c.isAlphanum = true) : c.toNat < 128 := by
  delta Char.isAlphanum Char.isAlpha Char.isUpper Char.isLower Char.isDigit at h
  simp only [Bool.or_eq_true, Bool.and_eq_true, decide_eq_true_eq, ge_iff_le,
    UInt32.le_iff_toNat_le] at h
  have hval : c.val.toNat = c.toNat := rfl
  simp at h
  omega

/-- The identifier of a key is ASCII and has at most 64 characters. -/
theorem isKeyId_ascii {s : String} (h : isKeyId s = true) :
    (∀ c ∈ s.toList, c.toNat < 128) ∧ s.toList.length ≤ 64 := by
  unfold isKeyId at h
  split at h
  next => cases h
  next c cs heq =>
    simp only [Bool.and_eq_true, decide_eq_true_eq, List.all_eq_true, Bool.or_eq_true, beq_iff_eq] at h
    obtain ⟨⟨hc, hlength⟩, hcs⟩ := h
    rw [heq]
    refine ⟨List.forall_mem_cons.2 ⟨ascii_of_isAlphanum hc, fun d hd => ?_⟩, ?_⟩
    · rcases hcs d hd with ((hd | rfl) | rfl) | rfl
      · exact ascii_of_isAlphanum hd
      all_goals decide
    · rw [List.length_cons]
      omega

/-! ## The loops -/

variable (A : FileAead)

/-- The loop of the encoder feeds some cutting of the text. -/
theorem encryptLoop_eq (s : A.Encryptor) (source : Bytes) :
    ∃ chunks, chunks.flatten = source ∧
      encryptLoop A s source = runUpdates A.encUpdate s chunks := by
  fun_induction encryptLoop A s source with
  | case1 s source chunk h =>
    have hsource : source = [] := by
      have hchunk : fileChunkBytes ≠ 0 := by decide
      exact (List.take_eq_nil_iff.1 h).resolve_left hchunk
    exact ⟨[], hsource.symm, rfl⟩
  | case2 s source chunk h out s' heq rest s'' hloop ih =>
    obtain ⟨chunks, hflat, hrun⟩ := ih
    refine ⟨chunk :: chunks, ?_, ?_⟩
    · rw [List.flatten_cons, hflat, List.take_append_drop]
    · rw [runUpdates_cons, heq, ← hrun, hloop]

/-- So does the loop of the decoder, as long as the body is there. -/
theorem decryptLoop_eq (s : A.Decryptor) (rest : Bytes) (remaining : Nat) (written : Bytes)
    (h : remaining ≤ rest.length) :
    ∃ chunks, chunks.flatten = rest.take remaining ∧
      decryptLoop A s rest remaining written =
        (.ok (runUpdates A.decUpdate s chunks).2,
          written ++ (runUpdates A.decUpdate s chunks).1) := by
  fun_induction decryptLoop A s rest remaining written with
  | case1 s rest written => exact ⟨[], by simp, by simp [runUpdates]⟩
  | case2 s rest remaining written hne chunk hchunk =>
    exfalso
    have hpos : fileChunkBytes ≠ 0 := by decide
    rcases List.take_eq_nil_iff.1 hchunk with hmin | hrest
    · omega
    · rw [hrest, List.length_nil] at h
      omega
  | case3 s rest remaining written hne chunk hchunk out s' heq ih =>
    have hlength : chunk.length ≤ remaining := by
      simp only [chunk, List.length_take]
      omega
    obtain ⟨chunks, hflat, hloop⟩ := ih (by rw [List.length_drop]; omega)
    refine ⟨chunk :: chunks, ?_, ?_⟩
    · have hchunk' : chunk = rest.take chunk.length := by simp [chunk]
      rw [List.flatten_cons, hflat]
      nth_rewrite 1 [hchunk']
      rw [← List.take_add]
      congr 1
      omega
    · rw [hloop, runUpdates_cons, heq, List.append_assoc]

/-! ## The files -/

variable {A} {key : BackupEncryptionKey} {backupId : Uuid}

/-- An encrypted file is the header, the ciphertext and the tag. -/
theorem encryptedBytes_eq (nonce : Nonce) (source : Bytes) :
    let header := header backupId key.keyId nonce
    encryptedBytes A key backupId nonce source =
      header ++ (A.sealed key.key nonce header source).1 ++
        (A.sealed key.key nonce header source).2 := by
  intro header
  obtain ⟨chunks, hflat, hloop⟩ := encryptLoop_eq A (A.encryptor key.key nonce header) source
  have hsealed := A.encrypts key.key nonce header chunks
  rw [hflat] at hsealed
  dsimp only at hsealed
  rw [← hsealed, encryptedBytes]
  simp only [show BackupFileCipher.header backupId key.keyId nonce = header from rfl, hloop,
    List.append_assoc]

/-! ## The envelope -/

theorem readAt_append {a b c : Bytes} {p n : Nat} (ha : a.length = p) (hb : b.length = n) :
    readAt (a ++ (b ++ c)) p n = b := by
  unfold readAt
  rw [List.drop_left' ha, List.take_left' hb]

/-- A field, cut out of the bytes from its place on. -/
theorem drop_eq_readAt_append (b : Bytes) (p n : Nat) : b.drop p = readAt b p n ++ b.drop (p + n) := by
  rw [readAt, ← List.drop_drop, List.take_append_drop]

/-- The fixed fields. -/
def fixedFields (backupId : Uuid) (keyIdSize : Nat) : Bytes :=
  envelopeMagic ++ [envelopeVersionByte] ++ uuidBytes backupId ++ beBytes 2 keyIdSize

theorem length_fixedFields (backupId : Uuid) (n : Nat) :
    (fixedFields backupId n).length = minimumHeaderBytes := by
  simp [fixedFields, length_uuidBytes, minimumHeaderBytes]

theorem header_eq (backupId : Uuid) (keyId : String) (nonce : Bytes) : header backupId keyId nonce =
    fixedFields backupId (encodeAscii keyId).length ++ encodeAscii keyId ++ nonce := rfl

/-- What the checks of the fixed fields say. -/
theorem fixedFields_eq {fixed : Bytes} {n : Nat} (hlength : fixed.length = 27)
    (hmagic : fixed.take 8 = envelopeMagic) (hversion : fixed[8]? = some envelopeVersionByte)
    (hid : uuidOfBytes (readAt fixed 9 16) = backupId) (hsize : beNat (readAt fixed 25 2) = n) :
    fixed = fixedFields backupId n := by
  have hid' : uuidBytes backupId = readAt fixed 9 16 := by
    rw [← hid]
    exact uuidBytes_uuidOfBytes (by simp [readAt, hlength])
  have hsize' : beBytes 2 n = readAt fixed 25 2 := by
    have hlength2 : (readAt fixed 25 2).length = 2 := by simp [readAt, hlength]
    have hspell := beBytes_beNat (readAt fixed 25 2)
    rwa [hlength2, hsize] at hspell
  have hversion' : fixed.drop 8 = envelopeVersionByte :: fixed.drop 9 := by
    obtain ⟨hlt, hget⟩ := List.getElem?_eq_some_iff.1 hversion
    rw [← hget]
    exact List.drop_eq_getElem_cons hlt
  have htail : fixed.drop 25 = readAt fixed 25 2 := by
    rw [drop_eq_readAt_append fixed 25 2, List.drop_eq_nil_of_le (by omega), List.append_nil]
  calc fixed = fixed.take 8 ++ fixed.drop 8 := (List.take_append_drop 8 fixed).symm
    _ = envelopeMagic ++ envelopeVersionByte :: (readAt fixed 9 16 ++ readAt fixed 25 2) := by
      rw [hmagic, hversion', drop_eq_readAt_append fixed 9 16, htail]
    _ = fixedFields backupId n := by
      rw [fixedFields, hid', hsize']
      simp

/-- What the reader finds in a file that was written. -/
theorem readEnvelope_written (nonce : Nonce) (body : Bytes) {tag : Bytes} (htag : tag.length = tagBytes) :
    readEnvelope key backupId (header backupId key.keyId nonce ++ body ++ tag) =
      .ok ⟨header backupId key.keyId nonce, nonce, tag, body.length⟩ := by
  obtain ⟨hascii, hshort⟩ := isKeyId_ascii key.keyId_valid
  have hkeyId : (encodeAscii key.keyId).length < 256 ^ 2 := by
    rw [encodeAscii, List.length_map]
    omega
  obtain ⟨fixed, hfixed⟩ : ∃ fixed, fixedFields backupId (encodeAscii key.keyId).length = fixed :=
    ⟨_, rfl⟩
  have hlength : fixed.length = minimumHeaderBytes := by rw [← hfixed, length_fixedFields]
  have hmagic : fixed.take envelopeMagic.length = envelopeMagic := by
    rw [← hfixed, fixedFields, List.append_assoc, List.append_assoc, List.take_left]
  have hversion : fixed[envelopeMagic.length]? = some envelopeVersionByte := by
    rw [← hfixed]
    rfl
  have hid : readAt fixed (envelopeMagic.length + 1) 16 = uuidBytes backupId := by
    rw [← hfixed, fixedFields, List.append_assoc]
    exact readAt_append (by rfl) (length_uuidBytes backupId)
  have hsize : readAt fixed (envelopeMagic.length + 1 + 16) 2 =
      beBytes 2 (encodeAscii key.keyId).length := by
    rw [← hfixed, fixedFields]
    have happend := readAt_append (c := []) (p := envelopeMagic.length + 1 + 16)
      (a := envelopeMagic ++ [envelopeVersionByte] ++ uuidBytes backupId)
      (by simp [length_uuidBytes]) (length_beBytes 2 (encodeAscii key.keyId).length)
    rwa [List.append_nil] at happend
  -- the four places the file is read at
  obtain ⟨source, hsource⟩ : ∃ source, header backupId key.keyId nonce ++ body ++ tag = source :=
    ⟨_, rfl⟩
  have hwritten : source = fixed ++ (encodeAscii key.keyId ++ (nonce ++ (body ++ tag))) := by
    rw [← hsource, header_eq, hfixed]
    simp only [List.append_assoc]
  have hread₀ : readAt source 0 minimumHeaderBytes = fixed := by
    rw [hwritten, readAt, List.drop_zero, List.take_left' hlength]
  have hread₁ : readAt source minimumHeaderBytes (encodeAscii key.keyId).length =
      encodeAscii key.keyId := by
    rw [hwritten]
    exact readAt_append hlength rfl
  have hread₂ : readAt source (minimumHeaderBytes + (encodeAscii key.keyId).length) nonceBytes =
      nonce := by
    rw [hwritten, ← List.append_assoc]
    exact readAt_append (by rw [List.length_append, hlength]) nonce.2
  have htotal : source.length =
      (fixed ++ encodeAscii key.keyId ++ nonce.1).length + body.length + tagBytes := by
    rw [hwritten]
    simp only [List.length_append, htag]
    omega
  have hread₃ : readAt source (source.length - tagBytes) tagBytes = tag := by
    have hplace : (fixed ++ encodeAscii key.keyId ++ nonce.1 ++ body).length =
        source.length - tagBytes := by
      rw [htotal]
      simp only [List.length_append]
      omega
    have happend := readAt_append (c := []) hplace htag
    rw [hwritten]
    rw [hwritten] at happend
    simpa only [List.append_assoc, List.append_nil] using happend
  rw [hsource, header_eq, hfixed]
  unfold readEnvelope
  simp only [hread₀, hlength, hmagic, hversion, hid, hsize, uuidOfBytes_uuidBytes,
    beNat_beBytes hkeyId, hread₁, hread₂, hread₃, htag, nonce.2,
    decodeAscii_eq_some.2 ⟨hascii, rfl⟩, ne_eq, not_true_eq_false, or_self, if_false, dif_neg,
    not_false_eq_true]
  rw [if_neg (by omega), htotal]
  congr 2
  omega

/-- **The envelope that is read is the one that was written.** -/
theorem readEnvelope_eq_ok {source : Bytes} {envelope : Envelope} :
    readEnvelope key backupId source = .ok envelope ↔
      ∃ (nonce : Nonce) (body tag : Bytes), tag.length = tagBytes ∧
        source = header backupId key.keyId nonce ++ body ++ tag ∧
        envelope = ⟨header backupId key.keyId nonce, nonce, tag, body.length⟩ := by
  constructor
  · intro h
    unfold readEnvelope at h
    extract_lets totalSize fixed offset actualBackupId keyIdSize keyIdBytes nonce readHeader tag at h
    split at h
    next => cases h
    next hlength =>
    split at h
    next => cases h
    next hmagic =>
    split at h
    next => cases h
    next hversion =>
    split at h
    next => cases h
    next hrest =>
    split at h
    next => cases h
    next actualKeyId hdecode =>
    split at h
    next => cases h
    next hidentity =>
    split at h
    next => cases h
    next hsize =>
    split at h
    next => cases h
    next htag =>
    obtain rfl := (Except.ok.inj h).symm
    simp only [not_not, not_or] at hlength hmagic hversion hrest hidentity htag
    obtain ⟨hkeyId, hnonce⟩ := hrest
    obtain ⟨hid, rfl⟩ := hidentity
    obtain ⟨-, hkeyIdBytes⟩ := decodeAscii_eq_some.1 hdecode
    have hfixed : fixed = fixedFields backupId (encodeAscii key.keyId).length :=
      fixedFields_eq hlength hmagic hversion hid (by rw [← hkeyIdBytes]; exact hkeyId.symm)
    have hheader : readHeader = header backupId key.keyId nonce := by
      rw [header_eq]
      simp only [readHeader, hfixed, hkeyIdBytes]
    have htotal : readHeader.length + tagBytes ≤ source.length := not_lt.1 hsize
    -- the header, then the body, then the tag
    have hstart : source = readHeader ++ source.drop readHeader.length := by
      have hread : readHeader.length = minimumHeaderBytes + keyIdBytes.length + nonceBytes := by
        simp only [readHeader, List.length_append, hlength, hnonce]
      have hfixed : source = fixed ++ source.drop minimumHeaderBytes :=
        (List.take_append_drop minimumHeaderBytes source).symm
      have hkey : source.drop minimumHeaderBytes =
          keyIdBytes ++ source.drop (minimumHeaderBytes + keyIdBytes.length) := by
        rw [hkeyId]
        exact drop_eq_readAt_append source _ _
      have hnonce : source.drop (minimumHeaderBytes + keyIdBytes.length) =
          nonce ++ source.drop (minimumHeaderBytes + keyIdBytes.length + nonceBytes) :=
        drop_eq_readAt_append source _ _
      calc source = fixed ++ (keyIdBytes ++ (nonce ++
            source.drop (minimumHeaderBytes + keyIdBytes.length + nonceBytes))) := by
            rw [← hnonce, ← hkey, ← hfixed]
        _ = readHeader ++ source.drop readHeader.length := by
            rw [hread]
            simp only [readHeader, List.append_assoc]
    have hend : source.drop readHeader.length =
        readAt source readHeader.length (totalSize - readHeader.length - tagBytes) ++ tag := by
      have hplace : readHeader.length + (totalSize - readHeader.length - tagBytes) =
          totalSize - tagBytes := by omega
      rw [drop_eq_readAt_append source _ (totalSize - readHeader.length - tagBytes), hplace]
      congr 1
      exact (List.take_of_length_le (by rw [List.length_drop]; omega)).symm
    have hbody : (readAt source readHeader.length (totalSize - readHeader.length - tagBytes)).length =
        totalSize - readHeader.length - tagBytes := by
      rw [readAt, List.length_take, List.length_drop]
      omega
    refine ⟨⟨nonce, hnonce⟩, readAt source readHeader.length
      (totalSize - readHeader.length - tagBytes), tag, htag, ?_, ?_⟩
    · rw [← hheader, List.append_assoc, ← hend]
      exact hstart
    · rw [hbody, hheader]
  · rintro ⟨nonce, body, tag, htag, rfl, rfl⟩
    exact readEnvelope_written nonce body htag

/-- Everything the reader refuses is a `BackupEnvelopeError`. -/
theorem readEnvelope_error {source : Bytes} {e : BackupError}
    (h : readEnvelope key backupId source = .error e) : ∃ code, e = .envelope code := by
  unfold readEnvelope at h
  dsimp only at h
  repeat' split at h
  all_goals first
    | exact ⟨_, (Except.error.inj h).symm⟩
    | cases h

/-! ## Decrypting what was written -/

/-- Decrypting an envelope opens its body. -/
theorem decryptFile_envelope (nonce : Nonce) (body : Bytes) {tag : Bytes}
    (htag : tag.length = tagBytes) :
    let header := header backupId key.keyId nonce
    (∀ p, A.sealed key.key nonce header p = (body, tag) →
      decryptFile A key backupId (header ++ body ++ tag) none = (.ok (), some p)) ∧
    ((∀ p, A.sealed key.key nonce header p ≠ (body, tag)) →
      decryptFile A key backupId (header ++ body ++ tag) none =
        (.error (.envelope "backup_envelope_authentication_failed"), none)) := by
  intro header
  have hread : readEnvelope key backupId (header ++ body ++ tag) =
      .ok ⟨header, nonce, tag, body.length⟩ := readEnvelope_written nonce body htag
  have hrest : (header ++ body ++ tag).drop header.length = body ++ tag := by
    rw [List.append_assoc, List.drop_left]
  obtain ⟨chunks, hflat, hloop⟩ := decryptLoop_eq A (A.decryptor key.key nonce tag header)
    (body ++ tag) body.length [] (by rw [List.length_append]; omega)
  rw [List.take_left] at hflat
  have hopens := A.decrypts key.key nonce tag header chunks
  rw [hflat] at hopens
  dsimp only at hopens
  have hrun : decryptRun A key backupId (header ++ body ++ tag) none =
      match A.decFinalize (runUpdates A.decUpdate (A.decryptor key.key nonce tag header) chunks).2 with
      | none => ⟨.error .invalidTag,
          some (runUpdates A.decUpdate (A.decryptor key.key nonce tag header) chunks).1, true⟩
      | some rest => ⟨.ok (),
          some ((runUpdates A.decUpdate (A.decryptor key.key nonce tag header) chunks).1 ++ rest),
          true⟩ := by
    unfold decryptRun
    rw [hread]
    simp only [hrest, hloop, List.nil_append]
  unfold decryptFile
  rw [hrun]
  cases hfinal : A.decFinalize
      (runUpdates A.decUpdate (A.decryptor key.key nonce tag header) chunks).2 with
  | none =>
    rw [hfinal] at hopens
    exact ⟨fun p hp => absurd ((hopens p).2 hp) (by simp), fun _ => rfl⟩
  | some rest =>
    rw [hfinal] at hopens
    constructor
    · intro p hp
      have hp := Option.some.inj ((hopens p).2 hp)
      simp only [hp]
    · exact fun hnone => absurd ((hopens _).1 rfl) (hnone _)

theorem encryptFile_eq {nonce : Nonce} {p source : Bytes} :
    encryptFile A key backupId nonce p none = (.ok (), some source) ↔
      ∃ body tag, tag.length = tagBytes ∧
        A.sealed key.key nonce (header backupId key.keyId nonce) p = (body, tag) ∧
        source = header backupId key.keyId nonce ++ body ++ tag := by
  unfold encryptFile
  rw [encryptedBytes_eq]
  constructor
  · intro h
    simp only [Prod.mk.injEq, Option.some.injEq, true_and] at h
    exact ⟨_, _, A.length_tag _ _ _ _, rfl, h.symm⟩
  · rintro ⟨body, tag, -, hsealed, rfl⟩
    simp only [hsealed]

theorem decryptFile_encryptFile {nonce : Nonce} {p source : Bytes}
    (h : encryptFile A key backupId nonce p none = (.ok (), some source)) :
    decryptFile A key backupId source none = (.ok (), some p) := by
  obtain ⟨body, tag, htag, hsealed, rfl⟩ := encryptFile_eq.1 h
  exact (decryptFile_envelope nonce body htag).1 p hsealed

/-- What is not written by encrypting is refused, and no file is left. -/
theorem decryptFile_refuses {source : Bytes}
    (h : ¬∃ p nonce, encryptFile A key backupId nonce p none = (.ok (), some source)) :
    ∃ code, decryptFile A key backupId source none = (.error (.envelope code), none) := by
  cases hread : readEnvelope key backupId source with
  | error e =>
    obtain ⟨code, rfl⟩ := readEnvelope_error hread
    refine ⟨code, ?_⟩
    unfold decryptFile decryptRun
    rw [hread]
    rfl
  | ok envelope =>
    obtain ⟨nonce, body, tag, htag, rfl, -⟩ := readEnvelope_eq_ok.1 hread
    refine ⟨_, (decryptFile_envelope nonce body htag).2 fun p hp => h ⟨p, nonce, ?_⟩⟩
    exact encryptFile_eq.2 ⟨body, tag, htag, hp, rfl⟩

/-- **Decrypting accepts exactly what encrypting writes**: into a fresh destination it succeeds
with a text iff the file is what encrypting that text writes for this key, backup and some nonce;
otherwise it raises and leaves no file. -/
theorem decryptFile_spec (A : FileAead) (key : BackupEncryptionKey) (backupId : Uuid)
    (source : Bytes) :
    (∀ p, decryptFile A key backupId source none = (.ok (), some p) ↔
      ∃ nonce, encryptFile A key backupId nonce p none = (.ok (), some source)) ∧
    ((¬∃ p nonce, encryptFile A key backupId nonce p none = (.ok (), some source)) →
      ∃ code, decryptFile A key backupId source none = (.error (.envelope code), none)) := by
  refine ⟨fun p => ⟨fun h => ?_, fun ⟨nonce, h⟩ => decryptFile_encryptFile h⟩, decryptFile_refuses⟩
  by_contra hnone
  by_cases hsome : ∃ q nonce, encryptFile A key backupId nonce q none = (.ok (), some source)
  · obtain ⟨q, nonce, hq⟩ := hsome
    have hpq := h.symm.trans (decryptFile_encryptFile hq)
    obtain rfl : p = q := by simpa using hpq
    exact hnone ⟨nonce, hq⟩
  · obtain ⟨code, hcode⟩ := decryptFile_refuses hsome
    rw [hcode] at h
    simp at h

/-- A file that exists is never touched. -/
theorem decryptFile_existing (A : FileAead) (key : BackupEncryptionKey) (backupId : Uuid)
    (source existing : Bytes) :
    ∃ e, decryptFile A key backupId source (some existing) = (.error e, some existing) := by
  unfold decryptFile decryptRun
  cases readEnvelope key backupId source with
  | error e => cases e <;> exact ⟨_, rfl⟩
  | ok envelope => exact ⟨_, rfl⟩

end BackupFileCipher

/-! ## A cipher -/

namespace Sample

/-- A tag over the key, the nonce, the associated data and the text. -/
def checksum (k : CipherKey) (n : Nonce) (aad p : Bytes) : Bytes :=
  beBytes tagBytes (beNat (k.1 ++ n.1 ++ aad ++ p))

theorem runUpdates_collect {α : Type} (a : α) (s : Bytes) (chunks : List Bytes) :
    runUpdates (fun (s : α × Bytes) chunk => (chunk, s.1, s.2 ++ chunk)) (a, s) chunks =
      (chunks.flatten, a, s ++ chunks.flatten) := by
  induction chunks generalizing s with
  | nil => simp [runUpdates]
  | cons chunk chunks ih => simp [runUpdates_cons, ih]

/-- Texts in the clear under a checksum: the laws of the envelope's cipher can be met. -/
def checksumAead : FileAead where
  Encryptor := (Bytes → Bytes) × Bytes
  Decryptor := ((Bytes → Bytes) × Bytes) × Bytes
  sealed k n aad p := (p, checksum k n aad p)
  encryptor k n aad := (checksum k n aad, [])
  encUpdate s chunk := (chunk, s.1, s.2 ++ chunk)
  encFinalize s := ([], s.1 s.2)
  decryptor k n tag aad := ((checksum k n aad, tag), [])
  decUpdate s chunk := (chunk, s.1, s.2 ++ chunk)
  decFinalize s := if s.1.1 s.2 = s.1.2 then some [] else none
  length_tag k n aad p := length_beBytes tagBytes _
  encrypts k n aad chunks := by
    rw [runUpdates_collect]
    simp
  decrypts k n tag aad chunks p := by
    rw [runUpdates_collect]
    simp only [List.nil_append, Prod.mk.injEq]
    split
    next h =>
      simp only [Option.map_some, List.append_nil, Option.some.injEq]
      exact ⟨fun hp => by rw [← hp, h]; exact ⟨rfl, rfl⟩, fun hp => hp.1.symm⟩
    next h =>
      simp only [Option.map_none, reduceCtorEq, false_iff]
      rintro ⟨rfl, htag⟩
      exact h htag

end Sample

end PaperGrading
