import Smb2.Types

set_option autoImplicit false

/-!
# Compression

The functions of `crypto/compression.rs`, unchained mode: a message is an uncompressed prefix
followed by one LZ4 block. LZ4 itself comes from a third-party crate and is a parameter (`Lz4`,
`Lz4Codec`).
-/

namespace Smb2

/-- **The LZ4 block decoder** of the third-party crate: the decoded bytes, for which a buffer of
the given size is made, or the text of its error. -/
abbrev Lz4 := Bytes → ℕ → Except String Bytes

/-- **An LZ4 implementation**: decoding with the right size inverts encoding, and the decoder never
returns more bytes than it was told to expect. It may return fewer. -/
structure Lz4Codec where
  compress : Bytes → Bytes
  decompress : Lz4
  decompress_compress : ∀ data, decompress (compress data) data.length = .ok data
  length_decompress : ∀ block size data, decompress block size = .ok data → data.length ≤ size

def maxDecompressedSize : ℕ := 16 * 1024 * 1024

structure CompressedMessage where
  originalSize : UInt32
  uncompressedPrefix : Bytes
  compressedData : Bytes
  offset : UInt32
deriving DecidableEq

/-- `compress_message`: nothing if there is nothing to compress or it does not get shorter. -/
def compressMessage (compress : Bytes → Bytes) (message : Bytes) (offset : ℕ) :
    Option CompressedMessage :=
  if message.length ≤ offset then none
  else
    let toCompress := message.drop offset
    let compressed := compress toCompress
    if toCompress.length ≤ compressed.length then none
    else some { originalSize := UInt32.ofNat toCompress.length,
                uncompressedPrefix := message.take offset, compressedData := compressed,
                offset := UInt32.ofNat offset }

def decompressMessage (lz4 : Lz4) (uncompressedPrefix compressedData : Bytes)
    (originalSize : UInt32) : Except Error Bytes :=
  if originalSize.toNat > maxDecompressedSize then
    let max := maxDecompressedSize
    .error (.invalidData s!"decompressed size {originalSize} exceeds maximum allowed size {max}")
  else
    match lz4 compressedData originalSize.toNat with
    | .error e => .error (.invalidData s!"LZ4 decompression failed: {e}")
    | .ok decompressed => .ok (uncompressedPrefix ++ decompressed)

end Smb2
