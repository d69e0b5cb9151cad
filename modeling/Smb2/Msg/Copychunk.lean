import Smb2.Lib.Ranges
import Smb2.Msg.Ioctl

set_option autoImplicit false

/-!
# Server-side copy messages

The buffers of the server-side copy (`msg/copychunk.rs`), which travel inside IOCTL requests and
responses.
-/

namespace Smb2

open ReadCursor

def resumeKeyLen : ℕ := 24

structure SrvCopychunk where
  sourceOffset : UInt64
  targetOffset : UInt64
  length : UInt32
deriving DecidableEq, Repr

namespace SrvCopychunk

def piece (chunk : SrvCopychunk) : Ranges.Piece :=
  ⟨chunk.sourceOffset.toNat, chunk.targetOffset.toNat, chunk.length.toNat⟩

def pack (chunk : SrvCopychunk) : Bytes :=
  leBytes 8 chunk.sourceOffset.toNat ++ (leBytes 8 chunk.targetOffset.toNat ++
    (leBytes 4 chunk.length.toNat ++ leBytes 4 0))

def unpack : Reader SrvCopychunk := do
  let sourceOffset ← readU64Le
  let targetOffset ← readU64Le
  let length ← readU32Le
  let _reserved ← readU32Le
  return { sourceOffset, targetOffset, length }

lemma unpack_bind {β : Type} {pre post : Bytes} {chunk : SrvCopychunk}
    {f : SrvCopychunk → Reader β} :
    (unpack >>= f) ⟨pre ++ (chunk.pack ++ post), pre.length⟩ =
      f chunk ⟨(pre ++ chunk.pack) ++ post, (pre ++ chunk.pack).length⟩ := by
  have hzero : leBytes 4 0 = leBytes 4 (0 : UInt32).toNat := rfl
  simp only [pack, unpack, List.append_assoc, bind_assoc, pure_bind]
  rw [hzero, readU64Le_bind, readU64Le_bind, readU32Le_bind, readU32Le_bind]
  simp only [List.append_assoc]

end SrvCopychunk

/-- The input of a copy request (`SrvCopychunkCopy`): the key of the source and the ranges. -/
structure SrvCopychunkCopy where
  sourceKey : Bytes
  chunks : List SrvCopychunk
deriving DecidableEq, Repr

namespace SrvCopychunkCopy

def pack (copy : SrvCopychunkCopy) : Bytes :=
  copy.sourceKey ++ (leBytes 4 copy.chunks.length ++ (leBytes 4 0 ++
    copy.chunks.flatMap SrvCopychunk.pack))

def unpackChunks : ℕ → Reader (List SrvCopychunk)
  | 0 => pure []
  | n + 1 => do
    let chunk ← SrvCopychunk.unpack
    let chunks ← unpackChunks n
    return chunk :: chunks

def unpack : Reader SrvCopychunkCopy := do
  let sourceKey ← readBytes resumeKeyLen
  let chunkCount ← readU32Le
  let _reserved ← readU32Le
  let chunks ← unpackChunks chunkCount.toNat
  return { sourceKey, chunks }

lemma unpackChunks_flatMap (pre : Bytes) (chunks : List SrvCopychunk) :
    ∃ c, unpackChunks chunks.length
      ⟨pre ++ chunks.flatMap SrvCopychunk.pack, pre.length⟩ = .ok (chunks, c) := by
  induction chunks generalizing pre with
  | nil => exact ⟨_, rfl⟩
  | cons chunk chunks ih =>
    obtain ⟨c, hrest⟩ := ih (pre ++ chunk.pack)
    refine ⟨c, ?_⟩
    rw [List.length_cons, unpackChunks, List.flatMap_cons, SrvCopychunk.unpack_bind, bind_eq_ok]
    exact ⟨chunks, c, hrest, rfl⟩

/-- **The server reads what the client has packed.** -/
theorem unpack_pack {copy : SrvCopychunkCopy} (hkey : copy.sourceKey.length = resumeKeyLen)
    (hcount : copy.chunks.length < 2 ^ 32) :
    ∃ c, unpack (.new copy.pack) = .ok (copy, c) := by
  have hzero : leBytes 4 0 = leBytes 4 (0 : UInt32).toNat := rfl
  have hstart (x : Bytes) : ReadCursor.new x = ⟨[] ++ x, ([] : Bytes).length⟩ := rfl
  have hnum : (UInt32.ofNat copy.chunks.length).toNat = copy.chunks.length := by
    rw [UInt32.toNat_ofNat']
    exact Nat.mod_eq_of_lt hcount
  rw [hstart, pack, unpack, readBytes_bind hkey, ← leBytes_ofNat32, readU32Le_bind, hzero,
    readU32Le_bind, hnum]
  obtain ⟨c, hchunks⟩ := unpackChunks_flatMap _ copy.chunks
  refine ⟨c, ?_⟩
  rw [bind_eq_ok]
  exact ⟨copy.chunks, c, hchunks, rfl⟩

end SrvCopychunkCopy

/-- The output of a copy request (`SrvCopychunkResponse`): what was written or, if the request was
rejected, the limits of the server. -/
structure SrvCopychunkResponse where
  chunksWritten : UInt32
  chunkBytesWritten : UInt32
  totalBytesWritten : UInt32
deriving DecidableEq, Repr

namespace SrvCopychunkResponse

def size : ℕ := 12

def pack (r : SrvCopychunkResponse) : Bytes :=
  leBytes 4 r.chunksWritten.toNat ++ (leBytes 4 r.chunkBytesWritten.toNat ++
    leBytes 4 r.totalBytesWritten.toNat)

def unpack : Reader SrvCopychunkResponse := do
  let chunksWritten ← readU32Le
  let chunkBytesWritten ← readU32Le
  let totalBytesWritten ← readU32Le
  return { chunksWritten, chunkBytesWritten, totalBytesWritten }

theorem unpack_pack (r : SrvCopychunkResponse) : ∃ c, unpack (.new r.pack) = .ok (r, c) := by
  have hstart (x : Bytes) : ReadCursor.new x = ⟨[] ++ (x ++ []), ([] : Bytes).length⟩ := by
    rw [List.append_nil]
    rfl
  rw [hstart, pack, unpack]
  simp only [List.append_assoc]
  rw [readU32Le_bind, readU32Le_bind, readU32Le_bind]
  exact ⟨_, rfl⟩

end SrvCopychunkResponse

end Smb2
