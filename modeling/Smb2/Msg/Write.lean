import Smb2.Pack

set_option autoImplicit false

/-!
# WRITE requests and responses

The bodies of WRITE messages (`msg/write.rs`). A request ends with the data; a response has sixteen
bytes, of which the count says how much of the data the server has taken.
-/

namespace Smb2

structure WriteRequest where
  dataOffset : UInt16
  offset : UInt64
  fileId : FileId
  channel : UInt32
  remainingBytes : UInt32
  writeChannelInfoOffset : UInt16
  writeChannelInfoLength : UInt16
  flags : UInt32
  data : Bytes

def WriteRequest.pack (r : WriteRequest) : Bytes :=
  leBytes 2 49 ++ leBytes 2 r.dataOffset.toNat ++ leBytes 4 r.data.length ++
    leBytes 8 r.offset.toNat ++ leBytes 8 r.fileId.persistent.toNat ++
    leBytes 8 r.fileId.volatile.toNat ++ leBytes 4 r.channel.toNat ++
    leBytes 4 r.remainingBytes.toNat ++ leBytes 2 r.writeChannelInfoOffset.toNat ++
    leBytes 2 r.writeChannelInfoLength.toNat ++ leBytes 4 r.flags.toNat ++
    if r.data = [] then [0] else r.data

lemma WriteRequest.length_pack (r : WriteRequest) : r.pack.length = 48 + max r.data.length 1 := by
  by_cases h : r.data = []
  · simp [pack, h]
  · have hpos := List.length_pos_iff.2 h
    simp only [pack, h, if_false, List.length_append, length_leBytes]
    omega

structure WriteResponse where
  count : UInt32
  remaining : UInt32
  writeChannelInfoOffset : UInt16
  writeChannelInfoLength : UInt16
deriving DecidableEq, Repr

namespace WriteResponse

open ReadCursor

def structureSize : UInt16 := 17

def pack (r : WriteResponse) : Bytes :=
  leBytes 2 structureSize.toNat ++ (leBytes 2 0 ++ (leBytes 4 r.count.toNat ++
    (leBytes 4 r.remaining.toNat ++ (leBytes 2 r.writeChannelInfoOffset.toNat ++
    leBytes 2 r.writeChannelInfoLength.toNat))))

def unpack : Reader WriteResponse := do
  let size ← readU16Le
  expect (size = structureSize)
    (.invalidData s!"invalid WriteResponse structure size: expected 17, got {size}")
  let _ ← readU16Le
  let count ← readU32Le
  let remaining ← readU32Le
  let writeChannelInfoOffset ← readU16Le
  let writeChannelInfoLength ← readU16Le
  return { count, remaining, writeChannelInfoOffset, writeChannelInfoLength }

end WriteResponse

end Smb2
