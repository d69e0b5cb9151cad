import Smb2.Pack

set_option autoImplicit false

/-!
# Message signing

The signing functions of `crypto/signing.rs`. The signature field is the last sixteen bytes of
the SMB2 header; a signature is computed over the whole message with that field zeroed. The
keyed hashes themselves come from third-party crates and are a parameter (`MacPrimitives`).
-/

namespace Smb2

def signatureOffset : ℕ := 48

def signatureLen : ℕ := 16

def minMessageLen : ℕ := 64

inductive SigningAlgorithm
  | hmacSha256 | aesCmac | aesGmac
deriving DecidableEq, Repr

def algorithmForDialect (dialect : Dialect) (gmacNegotiated : Bool) : SigningAlgorithm :=
  match dialect with
  | .smb2_0_2 | .smb2_1 => .hmacSha256
  | .smb3_0 | .smb3_0_2 => .aesCmac
  | .smb3_1_1 => if gmacNegotiated then .aesGmac else .aesCmac

/-- **The keyed hashes** of the third-party crates, each a function of a key of the length its
algorithm wants: HMAC-SHA256 and AES-128-CMAC of a message, and the AES-128-GCM tag of an empty
plaintext with the message as associated data, under a 12-byte nonce. -/
structure MacPrimitives where
  hmacSha256 : Bytes → Bytes → Bytes
  aesCmac : Bytes → Bytes → Bytes
  aesGmac : Bytes → Bytes → Bytes → Bytes

structure MacPrimitives.Lawful (P : MacPrimitives) : Prop where
  length_hmacSha256 : ∀ key message, (P.hmacSha256 key message).length = 32
  length_aesCmac : ∀ key message, (P.aesCmac key message).length = 16
  length_aesGmac : ∀ key nonce message, (P.aesGmac key nonce message).length = 16

def SigningAlgorithm.acceptsKey (a : SigningAlgorithm) (key : Bytes) : Bool :=
  match a with
  | .hmacSha256 => true
  | .aesCmac | .aesGmac => key.length == 16

def gmacNonce (messageId : MessageId) (isCancel isResponse : Bool) : Bytes :=
  leBytes 8 messageId.toNat ++
    [(if isResponse then 1 else 0) + (if isCancel then 2 else 0), 0, 0, 0]

def computeSignature (P : MacPrimitives) (message key : Bytes) (algorithm : SigningAlgorithm)
    (messageId : MessageId) (isCancel isResponse : Bool) : Except Error Bytes :=
  match algorithm with
  | .hmacSha256 => .ok ((P.hmacSha256 key message).take 16)
  | .aesCmac =>
    if key.length ≠ 16 then .error (.invalidData "AES-CMAC key error: Invalid Length")
    else .ok (P.aesCmac key message)
  | .aesGmac =>
    if key.length ≠ 16 then
      let n := key.length
      .error (.invalidData s!"AES-128-GMAC requires a 16-byte key, got {n} bytes")
    else .ok (P.aesGmac key (gmacNonce messageId isCancel isResponse) message)

def withSignature (message signature : Bytes) : Bytes :=
  message.take signatureOffset ++ signature ++ message.drop (signatureOffset + signatureLen)

def zeroSignature (message : Bytes) : Bytes :=
  withSignature message (List.replicate signatureLen 0)

def signatureField (message : Bytes) : Bytes :=
  slice message signatureOffset (signatureOffset + signatureLen)

def signMessage (P : MacPrimitives) (message key : Bytes) (algorithm : SigningAlgorithm)
    (messageId : MessageId) (isCancel : Bool) : Except Error Bytes :=
  if message.length < minMessageLen then
    let n := message.length
    .error (.invalidData s!"message too short for signing: {n} bytes, need at least 64")
  else do
    let signature ←
      computeSignature P (zeroSignature message) key algorithm messageId isCancel false
    return withSignature message signature

def verifySignature (P : MacPrimitives) (message key : Bytes) (algorithm : SigningAlgorithm)
    (messageId : MessageId) (isCancel : Bool) : Except Error Unit :=
  if message.length < minMessageLen then
    let n := message.length
    .error (.invalidData s!"message too short for verification: {n} bytes, need at least 64")
  else do
    let expected ←
      computeSignature P (zeroSignature message) key algorithm messageId isCancel true
    if signatureField message ≠ expected then
      throw (.invalidData "signature verification failed")

variable {P : MacPrimitives} {message key : Bytes} {algorithm : SigningAlgorithm}
  {messageId : MessageId} {isCancel isResponse : Bool}

lemma computeSignature_isOk :
    (computeSignature P message key algorithm messageId isCancel isResponse).isOk =
      algorithm.acceptsKey key := by
  cases algorithm with
  | hmacSha256 => rfl
  | aesCmac =>
    by_cases h : key.length = 16 <;>
      simp [computeSignature, SigningAlgorithm.acceptsKey, h, Except.isOk, Except.toBool]
  | aesGmac =>
    by_cases h : key.length = 16 <;>
      simp [computeSignature, SigningAlgorithm.acceptsKey, h, Except.isOk, Except.toBool]

lemma length_computeSignature (hP : P.Lawful) {signature : Bytes}
    (h : computeSignature P message key algorithm messageId isCancel isResponse = .ok signature) :
    signature.length = signatureLen := by
  cases algorithm with
  | hmacSha256 =>
    obtain rfl := Except.ok.inj h
    rw [List.length_take, hP.length_hmacSha256]
    rfl
  | aesCmac =>
    simp only [computeSignature] at h
    split at h
    · cases h
    · obtain rfl := Except.ok.inj h
      exact hP.length_aesCmac ..
  | aesGmac =>
    simp only [computeSignature] at h
    split at h
    · cases h
    · obtain rfl := Except.ok.inj h
      exact hP.length_aesGmac ..

lemma signMessage_isOk (hlen : minMessageLen ≤ message.length) :
    (signMessage P message key algorithm messageId isCancel).isOk = algorithm.acceptsKey key := by
  have hcompute :
      (computeSignature P (zeroSignature message) key algorithm messageId isCancel false).isOk =
        algorithm.acceptsKey key := computeSignature_isOk
  rw [signMessage, if_neg (Nat.not_lt.2 hlen), ← hcompute]
  cases computeSignature P (zeroSignature message) key algorithm messageId isCancel false <;> rfl

lemma verifySignature_eq_ok :
    verifySignature P message key algorithm messageId isCancel = .ok () ↔
      minMessageLen ≤ message.length ∧
        computeSignature P (zeroSignature message) key algorithm messageId isCancel true =
          .ok (signatureField message) := by
  unfold verifySignature
  split
  · rename_i h
    simp only [reduceCtorEq, false_iff, not_and]
    omega
  · rename_i h
    have hlen : minMessageLen ≤ message.length := by omega
    simp only [hlen, true_and]
    cases computeSignature P (zeroSignature message) key algorithm messageId isCancel true with
    | error e => simp [bind, Except.bind]
    | ok expected =>
      by_cases heq : signatureField message = expected
      · simp [bind, Except.bind, heq, pure, Except.pure]
      · simp [bind, Except.bind, heq, throw, throwThe, MonadExceptOf.throw, Ne.symm heq]

end Smb2
