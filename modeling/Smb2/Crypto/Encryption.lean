import Smb2.Msg.Transform

set_option autoImplicit false

/-!
# Message encryption

The AEAD layer of `crypto/encryption.rs`: an encrypted frame is an encryption header, whose tag
field authenticates the rest of the header and the ciphertext, followed by the ciphertext. The
ciphers come from third-party crates and are a parameter (`AeadPrimitives`).
-/

namespace Smb2

inductive Cipher
  | aes128Ccm | aes128Gcm | aes256Ccm | aes256Gcm
deriving DecidableEq, Repr

namespace Cipher

def nonceLen : Cipher → ℕ
  | .aes128Ccm | .aes256Ccm => 11
  | .aes128Gcm | .aes256Gcm => 12

def keyLen : Cipher → ℕ
  | .aes128Ccm | .aes128Gcm => 16
  | .aes256Ccm | .aes256Gcm => 32

lemma nonceLen_le (c : Cipher) : c.nonceLen ≤ 16 := by
  cases c <;> decide

end Cipher

def nonceBytes (counter : ℕ) : Bytes := leBytes 8 counter ++ List.replicate 8 0

@[simp] lemma length_nonceBytes (counter : ℕ) : (nonceBytes counter).length = 16 := by
  simp [nonceBytes]

/-- **The ciphers** of the third-party crates: encryption of a plaintext under (key, nonce,
associated data) gives a ciphertext and a sixteen-byte tag, and decryption gives the plaintext
back only if the tag is right. -/
structure AeadPrimitives where
  encrypt : Cipher → Bytes → Bytes → Bytes → Bytes → Bytes × Bytes
  /-- (cipher, key, nonce, associated data, tag, ciphertext) to the plaintext. -/
  decrypt : Cipher → Bytes → Bytes → Bytes → Bytes → Bytes → Option Bytes
  length_tag : ∀ c key nonce aad plain, (encrypt c key nonce aad plain).2.length = 16
  decrypt_encrypt : ∀ c key nonce aad plain,
    decrypt c key nonce aad (encrypt c key nonce aad plain).2 (encrypt c key nonce aad plain).1 =
      some plain

def untaggedHeader (plaintext nonce : Bytes) (sessionId : SessionId) : TransformHeader :=
  { signature := List.replicate 16 0, nonce,
    originalMessageSize := UInt32.ofNat plaintext.length,
    flags := transformFlagEncrypted, sessionId }

/-- `encrypt_message`: the packed header, with the tag filled in, and the ciphertext. -/
def encryptMessage (A : AeadPrimitives) (plaintext key : Bytes) (cipher : Cipher)
    (nonce : Bytes) (sessionId : SessionId) : Except Error (Bytes × Bytes) :=
  if key.length ≠ cipher.keyLen then
    let want := cipher.keyLen
    let got := key.length
    .error (.invalidData s!"encryption key length mismatch: expected {want}, got {got}")
  else
    let header := untaggedHeader plaintext nonce sessionId
    let out := A.encrypt cipher key (nonce.take cipher.nonceLen) (header.pack.drop 20) plaintext
    .ok ({ header with signature := out.2 }.pack, out.1)

def decryptMessage (A : AeadPrimitives) (transformHeader ciphertext key : Bytes)
    (cipher : Cipher) : Except Error Bytes :=
  if transformHeader.length ≠ TransformHeader.size then
    let got := transformHeader.length
    .error (.invalidData s!"transform header must be 52 bytes, got {got}")
  else if key.length ≠ cipher.keyLen then
    let want := cipher.keyLen
    let got := key.length
    .error (.invalidData s!"decryption key length mismatch: expected {want}, got {got}")
  else
    match A.decrypt cipher key (slice transformHeader 20 (20 + cipher.nonceLen))
        (transformHeader.drop 20) (slice transformHeader 4 20) ciphertext with
    | some plain => .ok plain
    | none => .error (.invalidData "decryption failed: authentication tag mismatch")

lemma decryptMessage_eq_ok {A : AeadPrimitives} {transformHeader ciphertext key plain : Bytes}
    {cipher : Cipher} :
    decryptMessage A transformHeader ciphertext key cipher = .ok plain ↔
      transformHeader.length = TransformHeader.size ∧ key.length = cipher.keyLen ∧
        A.decrypt cipher key (slice transformHeader 20 (20 + cipher.nonceLen))
          (transformHeader.drop 20) (slice transformHeader 4 20) ciphertext = some plain := by
  unfold decryptMessage
  by_cases hlen : transformHeader.length = TransformHeader.size
  · by_cases hkey : key.length = cipher.keyLen
    · simp only [hlen, hkey, ne_eq, not_true_eq_false, if_false, true_and]
      split <;> simp_all
    · simp [hlen, hkey]
  · simp [hlen]

end Smb2
