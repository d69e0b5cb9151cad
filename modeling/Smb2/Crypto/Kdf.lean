import Smb2.Crypto.Signing

set_option autoImplicit false

/-!
# Key derivation

The counter-mode KDF of `crypto/kdf.rs` with HMAC-SHA256 as its pseudo-random function, and the
session keys that the SMB 3.x dialects derive with it.
-/

open List

namespace Smb2

def ascii (s : String) : Bytes := s.toList.map fun c => UInt8.ofNat c.toNat

structure DerivedKeys where
  signingKey : Bytes
  encryptionKey : Bytes
  decryptionKey : Bytes
deriving DecidableEq, Repr

namespace MacPrimitives

variable (P : MacPrimitives)

def HmacLawful : Prop := ∀ key message, (P.hmacSha256 key message).length = 32

def kdfBlock (key label context : Bytes) (keyLengthBits i : ℕ) : Bytes :=
  P.hmacSha256 key (beBytes 4 i ++ label ++ [0x00] ++ context ++ beBytes 4 keyLengthBits)

def sp800Kdf (key label context : Bytes) (keyLengthBits : ℕ) : Bytes :=
  let iterations := (keyLengthBits + 255) / 256
  let result := (range iterations).flatMap fun i =>
    P.kdfBlock key label context keyLengthBits (i + 1)
  result.take (keyLengthBits / 8)

/-- `derive_session_keys`. The source is given the dialect, too, and panics for one before 3.0 and
for 3.1.1 without a hash; its callers give a hash exactly for 3.1.1 and ask for no older dialect. -/
def deriveSessionKeys (sessionKey : Bytes) (preauthHash : Option Bytes) (keyLengthBits : ℕ) :
    DerivedKeys :=
  match preauthHash with
  | some hash =>
    { signingKey := P.sp800Kdf sessionKey (ascii "SMBSigningKey" ++ [0]) hash keyLengthBits
      encryptionKey := P.sp800Kdf sessionKey (ascii "SMBC2SCipherKey" ++ [0]) hash keyLengthBits
      decryptionKey := P.sp800Kdf sessionKey (ascii "SMBS2CCipherKey" ++ [0]) hash keyLengthBits }
  | none =>
    { signingKey := P.sp800Kdf sessionKey (ascii "SMB2AESCMAC" ++ [0]) (ascii "SmbSign" ++ [0])
        keyLengthBits
      encryptionKey := P.sp800Kdf sessionKey (ascii "SMB2AESCCM" ++ [0]) (ascii "ServerIn " ++ [0])
        keyLengthBits
      decryptionKey := P.sp800Kdf sessionKey (ascii "SMB2AESCCM" ++ [0]) (ascii "ServerOut" ++ [0])
        keyLengthBits }

variable {P}

lemma length_sp800Kdf (hP : P.HmacLawful) (key label context : Bytes) (keyLengthBits : ℕ) :
    (P.sp800Kdf key label context keyLengthBits).length = keyLengthBits / 8 := by
  have hblocks (n : ℕ) : ((range n).flatMap fun i =>
      P.kdfBlock key label context keyLengthBits (i + 1)).length = 32 * n := by
    induction n with
    | zero => rfl
    | succ n ih =>
      rw [range_succ, flatMap_append, length_append, ih, flatMap_cons,
        flatMap_nil, append_nil, kdfBlock, hP]
      omega
  rw [sp800Kdf, length_take, hblocks]
  omega

end MacPrimitives

end Smb2
