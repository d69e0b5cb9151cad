import Smb2.Pack

set_option autoImplicit false

/-!
# Kerberos cryptography

The three encryption types of `auth/kerberos/crypto.rs`: AES in CTS mode with HMAC-SHA1, with keys of
256 and of 128 bits, and RC4 with HMAC-MD5. A key for one purpose is derived from a base key; the
derivation encrypts a folded constant with the base key itself.

## Implementation notes

The lengths that the types of the other crates guarantee are fields of `KerberosPrimitives`. Indexing
outside a slice, a failed assertion and a key that AES does not take are panics. The loop that
propagates the carries in `nfold` is given eight rounds; not to return is modelled as a panic, too.
-/

open List

namespace Smb2

/-- **The primitives**: AES on one block under a key of 16 or 32 bytes, keyed hashes, PBKDF2 with
HMAC-SHA1 (password, salt, iterations, length) and MD4. -/
structure KerberosPrimitives where
  aesEncrypt : Bytes → Bytes → Bytes
  aesDecrypt : Bytes → Bytes → Bytes
  hmacSha1 : Bytes → Bytes → Bytes
  hmacMd5 : Bytes → Bytes → Bytes
  pbkdf2 : Bytes → Bytes → ℕ → ℕ → Bytes
  md4 : Bytes → Bytes
  length_aesEncrypt : ∀ key block, (aesEncrypt key block).length = 16
  length_aesDecrypt : ∀ key block, (aesDecrypt key block).length = 16
  length_hmacSha1 : ∀ key data, (hmacSha1 key data).length = 20
  length_hmacMd5 : ∀ key data, (hmacMd5 key data).length = 16
  length_pbkdf2 : ∀ password salt iterations len, (pbkdf2 password salt iterations len).length = len
  length_md4 : ∀ data, (md4 data).length = 16

namespace Kerberos

inductive Failure
  | error (e : Error)
  | panic
deriving DecidableEq

abbrev Outcome := Except Failure

def raise {α : Type} (e : Error) : Outcome α := .error (.error e)

def ofResult {α : Type} : Except Error α → Outcome α
  | .ok a => .ok a
  | .error e => raise e

def ensure (c : Bool) : Outcome Unit := if c then .ok () else .error .panic

/-! ## Encryption types -/

inductive EncryptionType
  | aes256CtsHmacSha196
  | aes128CtsHmacSha196
  | rc4Hmac
deriving DecidableEq

namespace EncryptionType

def code : EncryptionType → Int32
  | aes256CtsHmacSha196 => 18
  | aes128CtsHmacSha196 => 17
  | rc4Hmac => 23

def keySize : EncryptionType → ℕ
  | aes256CtsHmacSha196 => 32
  | aes128CtsHmacSha196 => 16
  | rc4Hmac => 16

def ofCode (val : Int32) : Option EncryptionType :=
  if val = 18 then some aes256CtsHmacSha196
  else if val = 17 then some aes128CtsHmacSha196
  else if val = 23 then some rc4Hmac
  else none

lemma ofCode_eq_some_iff {val : Int32} {etype : EncryptionType} :
    ofCode val = some etype ↔ etype.code = val := by
  constructor
  · intro h
    unfold ofCode at h
    split at h
    · obtain rfl := Option.some.inj h
      exact Eq.symm ‹_›
    · split at h
      · obtain rfl := Option.some.inj h
        exact Eq.symm ‹_›
      · split at h
        · obtain rfl := Option.some.inj h
          exact Eq.symm ‹_›
        · cases h
  · rintro rfl
    cases etype <;> rfl

end EncryptionType

def etypeFromI32 (val : Int32) : Except Error EncryptionType :=
  match EncryptionType.ofCode val with
  | some etype => .ok etype
  | none => .error (.auth s!"unsupported Kerberos encryption type: {val}")

/-! ## N-fold -/

def rotatedByte (input : Bytes) (rot byteIdx : ℕ) : UInt8 :=
  let inBits := input.length * 8
  let bit := (byteIdx * 8 + inBits - rot % inBits) % inBits
  let b := bit / 8
  let s := bit % 8
  if s = 0 then input.getD b 0
  else UInt8.ofNat (((input.getD b 0).toNat <<< s) |||
    ((input.getD ((b + 1) % input.length) 0).toNat >>> (8 - s)))

def nfoldSums (input : Bytes) (outputLen : ℕ) : List ℕ :=
  let inBits := input.length * 8
  let outBits := outputLen * 8
  let lcmBytes := inBits / Nat.gcd inBits outBits * outBits / 8
  (range lcmBytes).foldl
    (fun sums i => sums.modify (i % outputLen)
      (· + (rotatedByte input (i / input.length * 13) (i % input.length)).toNat))
    (replicate outputLen 0)

def propagate (digits : List ℕ) : List ℕ × ℕ :=
  digits.foldr (fun d x => ((d + x.2) % 256 :: x.1, (d + x.2) / 256)) ([], 0)

def propagateLoop : ℕ → List ℕ → Option (List ℕ)
  | 0, _ => none
  | rounds + 1, digits =>
    let (digits', carry) := propagate digits
    if carry = 0 then some digits'
    else propagateLoop rounds (digits'.modify (digits'.length - 1) (· + carry))

def nfold (input : Bytes) (outputLen : ℕ) : Outcome Bytes :=
  match propagateLoop 8 (nfoldSums input outputLen) with
  | some digits => .ok (digits.map UInt8.ofNat)
  | none => .error .panic

/-! ## AES -/

def xor (a b : Bytes) : Bytes := zipWith (· ^^^ ·) a b

section Ciphers

variable (P : KerberosPrimitives)

def aesEcbEncrypt (key block : Bytes) : Outcome Bytes := do
  ensure (block.length = 16)
  ensure (key.length = 16 ∨ key.length = 32)
  return P.aesEncrypt key block

def aesEcbDecrypt (key block : Bytes) : Outcome Bytes := do
  ensure (block.length = 16)
  ensure (key.length = 16 ∨ key.length = 32)
  return P.aesDecrypt key block

def deriveBlocks (key : Bytes) : ℕ → Bytes → Outcome Bytes
  | 0, _ => .ok []
  | n + 1, input => do
    let encrypted ← aesEcbEncrypt P key input
    return encrypted ++ (← deriveBlocks key n encrypted)

def dkDerive (baseKey constant : Bytes) : Outcome Bytes := do
  let folded ← nfold constant 16
  let blocks ← deriveBlocks P baseKey ((baseKey.length + 15) / 16) folded
  return blocks.take baseKey.length

def usageConstant (usage : UInt32) (purpose : UInt8) : Bytes :=
  beBytes 4 usage.toNat ++ [purpose]

def usageEnc (usage : UInt32) : Bytes := usageConstant usage 0xAA

def usageInt (usage : UInt32) : Bytes := usageConstant usage 0x55

def usageChk (usage : UInt32) : Bytes := usageConstant usage 0x99

def cbcEncryptBlocks (key : Bytes) : ℕ → Bytes → Bytes → Outcome Bytes
  | 0, _, _ => .ok []
  | n + 1, prev, data => do
    let encrypted ← aesEcbEncrypt P key (xor (data.take 16) prev)
    return encrypted ++ (← cbcEncryptBlocks key n encrypted (data.drop 16))

def aesCbcEncrypt (key iv data : Bytes) : Outcome Bytes := do
  ensure (data.length % 16 = 0)
  ensure (iv.length = 16)
  cbcEncryptBlocks P key (data.length / 16) iv data

def cbcDecryptBlocks (key : Bytes) : ℕ → Bytes → Bytes → Outcome Bytes
  | 0, _, _ => .ok []
  | n + 1, prev, data => do
    let block := data.take 16
    let decrypted ← aesEcbDecrypt P key block
    return xor decrypted prev ++ (← cbcDecryptBlocks key n block (data.drop 16))

def aesCbcDecrypt (key iv data : Bytes) : Outcome Bytes := do
  ensure (data.length % 16 = 0)
  ensure (iv.length = 16)
  cbcDecryptBlocks P key (data.length / 16) iv data

def padTo (n : ℕ) (data : Bytes) : Bytes := data ++ replicate (n - data.length) 0

def encryptAesCts (key iv plaintext : Bytes) : Outcome Bytes := do
  if plaintext = [] then return []
  if plaintext.length ≤ 16 then
    ensure (16 ≤ iv.length)
    aesEcbEncrypt P key (xor (padTo 16 plaintext) iv)
  else
    let nBlocks := (plaintext.length + 15) / 16
    let result ← aesCbcEncrypt P key iv (padTo (nBlocks * 16) plaintext)
    -- the last two blocks change places
    let secondLast := (nBlocks - 2) * 16
    let last := (nBlocks - 1) * 16
    let swapped := result.take secondLast ++ slice result last (last + 16) ++
      slice result secondLast (secondLast + 16)
    return swapped.take plaintext.length

def decryptAesCts (key iv ciphertext : Bytes) : Outcome Bytes := do
  if ciphertext = [] then return []
  if ciphertext.length ≤ 16 then
    if ciphertext.length ≠ 16 then
      raise (.invalidData
        s!"AES-CTS single-block ciphertext must be exactly 16 bytes, got {ciphertext.length}")
    let pt ← aesEcbDecrypt P key ciphertext
    ensure (16 ≤ iv.length)
    return xor pt iv
  else
    let origLen := ciphertext.length
    let nBlocks := (origLen + 15) / 16
    let padded := padTo (nBlocks * 16) ciphertext
    let secondLast := (nBlocks - 2) * 16
    let last := (nBlocks - 1) * 16
    let swappedBlock := slice padded secondLast (secondLast + 16)
    let lastBlock ←
      if origLen % 16 ≠ 0 then do
        -- the partial block is filled up with the end of the decrypted full one
        let tailLen := origLen - (nBlocks - 1) * 16
        let intermediate ← aesEcbDecrypt P key swappedBlock
        pure (slice padded last (last + tailLen) ++ intermediate.drop tailLen)
      else pure (slice padded last (last + 16))
    let plaintext ← aesCbcDecrypt P key iv (padded.take secondLast ++ lastBlock ++ swappedBlock)
    return plaintext.take origLen

/-! ## RC4 -/

def swap (s : List UInt8) (i j : ℕ) : List UInt8 := (s.set i (s.getD j 0)).set j (s.getD i 0)

def rc4Schedule (key : Bytes) : List UInt8 :=
  ((range 256).foldl
    (fun x i =>
      let j := x.2 + x.1.getD i 0 + key.getD (i % key.length) 0
      (swap x.1 i j.toNat, j))
    ((range 256).map UInt8.ofNat, (0 : UInt8))).1

def rc4Stream : List UInt8 → UInt8 → UInt8 → Bytes → Bytes
  | _, _, _, [] => []
  | s, i, j, byte :: rest =>
    let i := i + 1
    let j := j + s.getD i.toNat 0
    let s := swap s i.toNat j.toNat
    (byte ^^^ s.getD (s.getD i.toNat 0 + s.getD j.toNat 0).toNat 0) :: rc4Stream s i j rest

def rc4Transform (key data : Bytes) : Outcome Bytes := do
  ensure (key ≠ [])
  return rc4Stream (rc4Schedule key) 0 0 data

def encryptRc4Hmac (confounder key : Bytes) (usage : UInt32) (plaintext : Bytes) :
    Outcome Bytes := do
  let k1 := P.hmacMd5 key (leBytes 4 usage.toNat)
  let payload := confounder ++ plaintext
  let checksum := P.hmacMd5 k1 payload
  let k3 := P.hmacMd5 k1 checksum
  return checksum ++ (← rc4Transform k3 payload)

def decryptRc4Hmac (key : Bytes) (usage : UInt32) (ciphertext : Bytes) : Outcome Bytes := do
  if ciphertext.length < 24 then
    raise (.invalidData
      "RC4-HMAC ciphertext too short (need at least 16-byte checksum + 8-byte confounder)")
  let checksum := ciphertext.take 16
  let k1 := P.hmacMd5 key (leBytes 4 usage.toNat)
  let k3 := P.hmacMd5 k1 checksum
  let payload ← rc4Transform k3 (ciphertext.drop 16)
  if P.hmacMd5 k1 payload ≠ checksum then
    raise (.invalidData "RC4-HMAC checksum verification failed")
  if payload.length < 8 then
    raise (.invalidData "RC4-HMAC decrypted payload too short")
  return payload.drop 8

/-! ## The Kerberos profiles -/

def hmacSha196 (key data : Bytes) : Bytes := (P.hmacSha1 key data).take 12

def computeChecksum (key : Bytes) (usage : UInt32) (data : Bytes) (etype : EncryptionType) :
    Outcome Bytes :=
  match etype with
  | .aes128CtsHmacSha196 | .aes256CtsHmacSha196 => do
    let kc ← dkDerive P key (usageChk usage)
    return hmacSha196 P kc data
  | .rc4Hmac =>
    let k1 := P.hmacMd5 key (leBytes 4 usage.toNat)
    .ok (P.hmacMd5 k1 data)

def kerberosEncrypt (random : ℕ → Bytes) (baseKey : Bytes) (usage : UInt32) (plaintext : Bytes)
    (etype : EncryptionType) : Outcome Bytes :=
  match etype with
  | .aes128CtsHmacSha196 | .aes256CtsHmacSha196 => do
    let ke ← dkDerive P baseKey (usageEnc usage)
    let ki ← dkDerive P baseKey (usageInt usage)
    let fullPlain := random 16 ++ plaintext
    let ciphertext ← encryptAesCts P ke (replicate 16 0) fullPlain
    return ciphertext ++ hmacSha196 P ki fullPlain
  | .rc4Hmac => encryptRc4Hmac P (random 8) baseKey usage plaintext

def kerberosDecrypt (baseKey : Bytes) (usage : UInt32) (ciphertext : Bytes)
    (etype : EncryptionType) : Outcome Bytes :=
  match etype with
  | .aes128CtsHmacSha196 | .aes256CtsHmacSha196 => do
    if ciphertext.length < 12 + 16 then
      raise (.invalidData
        "Kerberos AES ciphertext too short (need at least confounder + HMAC)")
    let hmacOffset := ciphertext.length - 12
    let ke ← dkDerive P baseKey (usageEnc usage)
    let ki ← dkDerive P baseKey (usageInt usage)
    let fullPlain ← decryptAesCts P ke (replicate 16 0) (ciphertext.take hmacOffset)
    if hmacSha196 P ki fullPlain ≠ ciphertext.drop hmacOffset then
      raise (.auth "Kerberos AES HMAC verification failed")
    if fullPlain.length < 16 then
      raise (.invalidData "Kerberos AES decrypted data too short for confounder")
    return fullPlain.drop 16
  | .rc4Hmac => decryptRc4Hmac P baseKey usage ciphertext

/-! ## Keys from passwords -/

def stringToKeyAes (password salt : List Char) (keySize : ℕ) : Outcome Bytes := do
  ensure (keySize = 16 ∨ keySize = 32)
  dkDerive P (P.pbkdf2 (utf8 password) (utf8 salt) 4096 keySize) (utf8 "kerberos".toList)

def stringToKeyRc4 (password : List Char) : Bytes := P.md4 (utf16Le password)

end Ciphers

end Kerberos

end Smb2
