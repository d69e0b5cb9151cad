import Smb2.Pack

set_option autoImplicit false

/-!
# SESSION_SETUP messages

The fields of a SESSION_SETUP request and the body of a response (`msg/session_setup.rs`): eight fixed
bytes, then the security buffer.
-/

namespace Smb2

structure SessionSetupRequest where
  flags : UInt8
  securityMode : UInt16
  capabilities : UInt32
  channel : UInt32
  previousSessionId : UInt64
  securityBuffer : Bytes
deriving DecidableEq, Repr

def SessionSetupRequest.pack (r : SessionSetupRequest) : Bytes :=
  leBytes 2 25 ++ [r.flags, r.securityMode.toUInt8] ++ leBytes 4 r.capabilities.toNat ++
    leBytes 4 r.channel.toNat ++ leBytes 2 (64 + 24) ++
    leBytes 2 (UInt16.ofNat r.securityBuffer.length).toNat ++ leBytes 8 r.previousSessionId.toNat ++
    r.securityBuffer

abbrev SessionFlags := UInt16

namespace SessionFlags

def isGuest : SessionFlags := 0x0001

def isNull : SessionFlags := 0x0002

def encryptData : SessionFlags := 0x0004

end SessionFlags

structure SessionSetupResponse where
  sessionFlags : SessionFlags
  securityBuffer : Bytes
deriving DecidableEq, Repr

namespace SessionSetupResponse

open ReadCursor

def structureSize : UInt16 := 9

def unpack : Reader SessionSetupResponse := do
  let size ← readU16Le
  expect (size = structureSize)
    (.invalidData s!"invalid SessionSetupResponse structure size: expected 9, got {size}")
  let sessionFlags ← readU16Le
  let _offset ← readU16Le
  let bufferLength ← readU16Le
  let securityBuffer ← readBuffer bufferLength.toNat
  return { sessionFlags, securityBuffer }

/-- **The security buffer of an accepted response** is what follows the eight fixed bytes. -/
theorem securityBuffer_of_unpack {body : Bytes} {r : SessionSetupResponse} {c : ReadCursor}
    (hok : unpack (.new body) = .ok (r, c)) :
    r.securityBuffer = slice body 8 (8 + leNat (slice body 6 8)) := by
  rw [unpack] at hok
  simp only [readU16Le_then, expect_then, readBuffer_then, pure_eq_ok_pair, toNat_u16_peek] at hok
  obtain ⟨-, -, -, -, -, -, -, hr⟩ := hok
  obtain ⟨rfl, -⟩ := Prod.mk.inj hr
  rfl

end SessionSetupResponse

end Smb2
