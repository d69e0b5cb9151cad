import Smb2.Msg.Header

set_option autoImplicit false

/-!
# QUERY_INFO and QUERY_DIRECTORY

The responses of `msg/query_info.rs` and `msg/query_directory.rs` have the same layout: eight fixed
bytes with offset and length of the output buffer, and the buffer.
-/

namespace Smb2

namespace Query

open ReadCursor Header

def structureSize : UInt16 := 9

/-- The output buffer of a query response; `name` is the name of the message in error texts. -/
def unpackOutput (name : String) : Reader Bytes := do
  let start ← position
  let structSize ← readU16Le
  expect (structSize = structureSize)
    (.invalidData s!"invalid {name} structure size: expected 9, got {structSize}")
  let offset ← readU16Le
  let length ← readU32Le
  readBufferAt start offset.toNat length.toNat

/-- **The output buffer of an accepted response** is read at its offset if that lies behind the
eight fixed bytes, and right behind them otherwise. -/
theorem output_of_unpack {β : Type} {name : String} {f : Bytes → Reader β} {body : Bytes}
    {p : β × ReadCursor} (hok : (unpackOutput name >>= f) (.new body) = .ok p) :
    ∃ c, f (slice body (max 8 (leNat (slice body 2 4) - size))
      (max 8 (leNat (slice body 2 4) - size) + leNat (slice body 4 8))) c = .ok p := by
  rw [unpackOutput] at hok
  simp only [bind_assoc, position_then, readU16Le_then, expect_then, readU32Le_then,
    toNat_u16_peek, toNat_u32_peek] at hok
  obtain ⟨-, -, -, -, hbuffer⟩ := hok
  obtain ⟨c, hc⟩ := readBufferAt_then hbuffer
  refine ⟨c, ?_⟩
  simpa [ReadCursor.new, advance, peek] using hc

end Query

inductive InfoType
  | file | filesystem | security | quota
deriving DecidableEq, Repr

structure QueryInfoRequest where
  infoType : InfoType
  fileInfoClass : UInt8
  outputBufferLength : UInt32
  additionalInformation : UInt32
  flags : UInt32
  fileId : FileId
  inputBuffer : Bytes
deriving DecidableEq, Repr

structure QueryInfoResponse where
  outputBuffer : Bytes
deriving DecidableEq, Repr

def QueryInfoResponse.unpack : Reader QueryInfoResponse := do
  let outputBuffer ← Query.unpackOutput "QueryInfoResponse"
  return { outputBuffer }

structure QueryDirectoryResponse where
  outputBuffer : Bytes
deriving DecidableEq, Repr

def QueryDirectoryResponse.unpack : Reader QueryDirectoryResponse := do
  let outputBuffer ← Query.unpackOutput "QueryDirectoryResponse"
  return { outputBuffer }

end Smb2
