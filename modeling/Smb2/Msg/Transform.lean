import Smb2.Pack

set_option autoImplicit false

/-!
# Transform headers

The two outer headers a frame may carry (`msg/transform.rs`): the encryption header, which a
frame beginning `FD 53 4D 42` has, and the compression header, `FC 53 4D 42`.
-/

namespace Smb2

def transformProtocolId : Bytes := [0xFD, 0x53, 0x4D, 0x42]

def compressionProtocolId : Bytes := [0xFC, 0x53, 0x4D, 0x42]

def transformFlagEncrypted : UInt16 := 1

def compressionAlgorithmLz4 : UInt16 := 5

def compressionFlagNone : UInt16 := 0

structure TransformHeader where
  signature : Bytes
  /-- The nonce field, sixteen bytes of which a cipher uses the first eleven or twelve. -/
  nonce : Bytes
  originalMessageSize : UInt32
  flags : UInt16
  sessionId : SessionId
deriving DecidableEq, Repr

namespace TransformHeader

def size : ℕ := 52

def pack (h : TransformHeader) : Bytes :=
  transformProtocolId ++ h.signature ++ h.nonce ++ leBytes 4 h.originalMessageSize.toNat ++
    leBytes 2 0 ++ leBytes 2 h.flags.toNat ++ leBytes 8 h.sessionId.toNat

variable {h : TransformHeader}

lemma length_pack (hs : h.signature.length = 16) (hn : h.nonce.length = 16) :
    h.pack.length = size := by
  simp [pack, transformProtocolId, size, hs, hn]

end TransformHeader

structure CompressionTransformHeader where
  originalCompressedSegmentSize : UInt32
  compressionAlgorithm : UInt16
  flags : UInt16
  offsetOrLength : UInt32
deriving DecidableEq, Repr

namespace CompressionTransformHeader

def size : ℕ := 16

def pack (h : CompressionTransformHeader) : Bytes :=
  compressionProtocolId ++ leBytes 4 h.originalCompressedSegmentSize.toNat ++
    leBytes 2 h.compressionAlgorithm.toNat ++ leBytes 2 h.flags.toNat ++
    leBytes 4 h.offsetOrLength.toNat

def unpack : Reader CompressionTransformHeader := do
  let proto ← ReadCursor.readBytes 4
  if proto ≠ compressionProtocolId then
    let got := hexList proto
    throw (.invalidData
      s!"invalid compression transform header protocol ID: expected [FC, 53, 4D, 42], got {got}")
  let originalCompressedSegmentSize ← ReadCursor.readU32Le
  let compressionAlgorithm ← ReadCursor.readU16Le
  let flags ← ReadCursor.readU16Le
  let offsetOrLength ← ReadCursor.readU32Le
  return { originalCompressedSegmentSize, compressionAlgorithm, flags, offsetOrLength }

end CompressionTransformHeader

end Smb2
