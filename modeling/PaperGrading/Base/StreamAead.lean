import Mathlib.Data.List.Basic

/-!
# Streaming authenticated encryption

A cipher that takes its text piece by piece.  Ideal means that the pieces do not matter and
that a ciphertext and a tag open exactly when they seal some text.

    any cutting of a text seals it                                        (StreamAead.encrypts)
    any cutting of a ciphertext opens to p ↔ ciphertext and tag seal p    (StreamAead.decrypts)
-/

/-- Feeds the pieces of a text to a context, collecting what it puts out. -/
def runUpdates {σ : Type} (update : σ → List UInt8 → List UInt8 × σ) :
    σ → List (List UInt8) → List UInt8 × σ
  | s, [] => ([], s)
  | s, chunk :: chunks =>
    let (out, s') := update s chunk
    let (rest, s'') := runUpdates update s' chunks
    (out ++ rest, s'')

theorem runUpdates_cons {σ : Type} (update : σ → List UInt8 → List UInt8 × σ) (s : σ)
    (chunk : List UInt8) (chunks : List (List UInt8)) :
    runUpdates update s (chunk :: chunks) =
      ((update s chunk).1 ++ (runUpdates update (update s chunk).2 chunks).1,
        (runUpdates update (update s chunk).2 chunks).2) := rfl

/-- An ideal streaming cipher over associated data, ciphertext and a tag. -/
structure StreamAead (Key Nonce : Type) (tagBytes : Nat) where
  Encryptor : Type
  Decryptor : Type
  /-- what a text is sealed to: the ciphertext and the tag -/
  sealed : Key → Nonce → (aad plaintext : List UInt8) → List UInt8 × List UInt8
  encryptor : Key → Nonce → (aad : List UInt8) → Encryptor
  encUpdate : Encryptor → List UInt8 → List UInt8 × Encryptor
  /-- the rest of the ciphertext and the tag -/
  encFinalize : Encryptor → List UInt8 × List UInt8
  decryptor : Key → Nonce → (tag aad : List UInt8) → Decryptor
  decUpdate : Decryptor → List UInt8 → List UInt8 × Decryptor
  /-- the rest of the text, or `none` when the tag is wrong -/
  decFinalize : Decryptor → Option (List UInt8)
  length_tag : ∀ k n aad p, (sealed k n aad p).2.length = tagBytes
  encrypts : ∀ k n aad chunks,
    let (out, s) := runUpdates encUpdate (encryptor k n aad) chunks
    (out ++ (encFinalize s).1, (encFinalize s).2) = sealed k n aad chunks.flatten
  decrypts : ∀ k n tag aad chunks p,
    let (out, s) := runUpdates decUpdate (decryptor k n tag aad) chunks
    (decFinalize s).map (out ++ ·) = some p ↔ sealed k n aad p = (chunks.flatten, tag)
