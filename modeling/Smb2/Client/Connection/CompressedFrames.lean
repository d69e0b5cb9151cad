import Smb2.Client.Connection.Authenticity

set_option autoImplicit false

/-!
# Compressed frames

`build_compressed_frame` and `decompress_response` (`client/connection.rs`): a compressed message
is sent as a compression header, the uncompressed prefix and one LZ4 block, and is read back from
the same three parts. The header says how long the prefix is and how many bytes the block decodes
to.
-/

open List

namespace Smb2.Connection

open ReadCursor

def buildCompressedFrame (compressed : CompressedMessage) : Bytes :=
  CompressionTransformHeader.pack
      { originalCompressedSegmentSize := compressed.originalSize
        compressionAlgorithm := compressionAlgorithmLz4
        flags := compressionFlagNone
        offsetOrLength := compressed.offset } ++
    compressed.uncompressedPrefix ++ compressed.compressedData

/-! ## What is decoded -/

/-- **The parts of a frame** that `decompress_response` accepts as far as the LZ4 block: the
uncompressed prefix, the block, and the size that the block should decode to. -/
structure Parts (data initial block : Bytes) (size : ℕ) : Prop where
  header : ∃ header cursor, CompressionTransformHeader.unpack (.new data) = .ok (header, cursor) ∧
    header.compressionAlgorithm = compressionAlgorithmLz4 ∧ header.flags = compressionFlagNone ∧
    header.originalCompressedSegmentSize.toNat = size ∧
    header.offsetOrLength.toNat = initial.length
  data_eq : data.drop CompressionTransformHeader.size = initial ++ block
  enough : CompressionTransformHeader.size ≤ data.length
  bounded : size ≤ maxDecompressedSize

lemma Parts.eq {data initial block : Bytes} {size : ℕ} {header : CompressionTransformHeader}
    {cursor : ReadCursor} (h : Parts data initial block size)
    (hunpack : CompressionTransformHeader.unpack (.new data) = .ok (header, cursor)) :
    header.compressionAlgorithm = compressionAlgorithmLz4 ∧ header.flags = compressionFlagNone ∧
      header.originalCompressedSegmentSize.toNat = size ∧
      header.offsetOrLength.toNat = initial.length := by
  obtain ⟨header', cursor', hheader, hfields⟩ := h.header
  rw [hunpack] at hheader
  obtain ⟨rfl, -⟩ := Prod.mk.inj (Except.ok.inj hheader)
  exact hfields

/-- **What is decoded** is the prefix and what the decoder makes of the block. -/
theorem decompressResponse_eq_ok {K : Primitives} {data out : Bytes} :
    decompressResponse K data = .ok out ↔
      ∃ initial block size decoded, Parts data initial block size ∧
        K.lz4 block size = .ok decoded ∧ out = initial ++ decoded := by
  unfold decompressResponse
  by_cases hlen : data.length < CompressionTransformHeader.size
  · simp only [hlen, if_true, reduceCtorEq, false_iff]
    rintro ⟨initial, block, size, decoded, hparts, -⟩
    exact absurd hlen (Nat.not_lt.2 hparts.enough)
  rw [if_neg hlen]
  cases hunpack : CompressionTransformHeader.unpack (.new data) with
  | error e =>
    simp only [bind, Except.bind, reduceCtorEq, false_iff]
    rintro ⟨initial, block, size, decoded, hparts, -⟩
    obtain ⟨header, cursor, hheader, -⟩ := hparts.header
    rw [hunpack] at hheader
    cases hheader
  | ok parsed =>
    obtain ⟨header, cursor⟩ := parsed
    simp only [bind, Except.bind, decompressMessage]
    constructor
    · intro h
      split at h
      · cases h
      rename_i halgorithm
      split at h
      · cases h
      rename_i hflags
      split at h
      · cases h
      rename_i hoffset
      split at h
      · cases h
      rename_i hbound
      split at h
      · cases h
      rename_i decoded hdecoded
      refine ⟨_, _, _, decoded, ⟨⟨header, cursor, hunpack, not_not.1 halgorithm, not_not.1 hflags,
        rfl, ?_⟩, (take_append_drop _ _).symm, Nat.not_lt.1 hlen, Nat.not_lt.1 hbound⟩,
        hdecoded, (Except.ok.inj h).symm⟩
      rw [length_take, Nat.min_eq_left (Nat.not_lt.1 hoffset)]
    · rintro ⟨initial, block, size, decoded, hparts, hdecoded, rfl⟩
      obtain ⟨halgorithm, hflags, hsize, hoffset⟩ := hparts.eq hunpack
      have hbound := hparts.bounded
      rw [if_neg (not_not.2 halgorithm), if_neg (not_not.2 hflags), hparts.data_eq, hoffset,
        if_neg (by rw [length_append]; omega), hsize, if_neg (by omega), take_left,
        drop_left, hdecoded]

/-! ## Reading a compressed message back -/

lemma unpack_pack_compression (h : CompressionTransformHeader) (rest : Bytes) :
    ∃ cursor, CompressionTransformHeader.unpack (.new (h.pack ++ rest)) = .ok (h, cursor) := by
  have hstart : ReadCursor.new (h.pack ++ rest) =
      ⟨[] ++ (h.pack ++ rest), ([] : Bytes).length⟩ := rfl
  have hproto : compressionProtocolId.length = 4 := rfl
  rw [hstart]
  simp only [CompressionTransformHeader.pack, append_assoc]
  rw [CompressionTransformHeader.unpack, readBytes_bind hproto]
  simp only [ne_eq, not_true_eq_false, if_false]
  rw [readU32Le_bind, readU16Le_bind, readU16Le_bind, readU32Le_bind]
  exact ⟨_, rfl⟩

lemma length_pack_compression (h : CompressionTransformHeader) :
    h.pack.length = CompressionTransformHeader.size := by
  simp [CompressionTransformHeader.pack, compressionProtocolId, CompressionTransformHeader.size]

lemma compressMessage_eq_some {compress : Bytes → Bytes} {message : Bytes} {offset : ℕ}
    {c : CompressedMessage} :
    compressMessage compress message offset = some c ↔
      offset < message.length ∧
        (compress (message.drop offset)).length < (message.drop offset).length ∧
        c = { originalSize := UInt32.ofNat (message.drop offset).length,
              uncompressedPrefix := message.take offset,
              compressedData := compress (message.drop offset), offset := UInt32.ofNat offset } := by
  unfold compressMessage
  by_cases hoffset : message.length ≤ offset
  · simp only [hoffset, if_true, reduceCtorEq, false_iff, not_and]
    omega
  · rw [if_neg hoffset]
    dsimp only
    by_cases hshort : (message.drop offset).length ≤ (compress (message.drop offset)).length
    · simp only [hshort, if_true, reduceCtorEq, false_iff, not_and]
      omega
    · rw [if_neg hshort, Option.some.injEq, eq_comm]
      simp only [Nat.not_le.1 hoffset, Nat.not_le.1 hshort, true_and]

section Frame

variable {K : Primitives} {codec : Lz4Codec} {message : Bytes} {offset : ℕ} {c : CompressedMessage}

lemma parts_frame (hc : compressMessage codec.compress message offset = some c)
    (hlimit : (message.drop offset).length ≤ maxDecompressedSize) {n : ℕ}
    (hn : offset % 2 ^ 32 = n) :
    Parts (buildCompressedFrame c) (message.take n)
      ((message.take offset).drop n ++ codec.compress (message.drop offset))
      (message.drop offset).length := by
  obtain ⟨hoffset, -, rfl⟩ := compressMessage_eq_some.1 hc
  have hle : n ≤ offset := hn ▸ Nat.mod_le _ _
  have hmax : maxDecompressedSize < 2 ^ 32 := by decide
  unfold buildCompressedFrame
  rw [append_assoc]
  refine ⟨?_, ?_, ?_, hlimit⟩
  · obtain ⟨cursor, hunpack⟩ := unpack_pack_compression _ _
    refine ⟨_, cursor, hunpack, rfl, rfl, ?_, ?_⟩
    · rw [UInt32.toNat_ofNat', Nat.mod_eq_of_lt (by omega)]
    · rw [UInt32.toNat_ofNat', hn, length_take, Nat.min_eq_left (by omega)]
  · rw [drop_left' (length_pack_compression _), ← append_assoc]
    congr 1
    have htake : message.take n = (message.take offset).take n := by
      rw [take_take, Nat.min_eq_left hle]
    rw [htake, take_append_drop]
  · rw [length_append, length_pack_compression]
    exact Nat.le_add_right _ _

lemma Parts.unique {data initial block initial' block' : Bytes} {size size' : ℕ}
    (h : Parts data initial block size) (h' : Parts data initial' block' size') :
    initial = initial' ∧ block = block' ∧ size = size' := by
  obtain ⟨header, cursor, hunpack, -, -, hsize, hlength⟩ := h.header
  obtain ⟨-, -, hsize', hlength'⟩ := h'.eq hunpack
  obtain ⟨hinitial, hblock⟩ :=
    append_inj (h.data_eq.symm.trans h'.data_eq) (hlength.symm.trans hlength')
  exact ⟨hinitial, hblock, hsize.symm.trans hsize'⟩

/-- **A compressed message is read back** exactly if its offset fits the header: if it does not,
the prefix is cut off too early, and what is decoded is too short. -/
theorem decompressResponse_frame_iff (hK : K.lz4 = codec.decompress)
    (hc : compressMessage codec.compress message offset = some c)
    (hlimit : (message.drop offset).length ≤ maxDecompressedSize) :
    decompressResponse K (buildCompressedFrame c) = .ok message ↔ offset < 2 ^ 32 := by
  obtain ⟨hoffset, -, -⟩ := compressMessage_eq_some.1 hc
  have hparts := parts_frame hc hlimit rfl
  rw [decompressResponse_eq_ok]
  constructor
  · rintro ⟨initial, block, size, decoded, hparts', hdecoded, hmessage⟩
    obtain ⟨rfl, rfl, rfl⟩ := hparts.unique hparts'
    rw [hK] at hdecoded
    have hdecoded := codec.length_decompress _ _ _ hdecoded
    have hlength := congrArg length hmessage
    rw [length_append, length_take] at hlength
    rw [length_drop] at hdecoded
    omega
  · intro hlt
    rw [Nat.mod_eq_of_lt hlt] at hparts
    refine ⟨_, _, _, message.drop offset, hparts, ?_, (take_append_drop _ _).symm⟩
    have hnil : (message.take offset).drop offset = [] := by
      rw [drop_eq_nil_iff, length_take]
      exact Nat.min_le_left _ _
    rw [hnil, nil_append, hK]
    exact codec.decompress_compress _

end Frame

/-! ## Transparency -/

def Primitives.withLz4 (K : Primitives) (codec : Lz4Codec) : Primitives :=
  { K with lz4 := codec.decompress }

/-- **What is decoded has the length that the header gives**: the prefix, and exactly as many bytes
behind it as `OriginalCompressedSegmentSize` says. -/
def Exact (K : Primitives) (data : Bytes) : Prop :=
  ∀ out, decompressResponse K data = .ok out →
    ∃ initial block size decoded, Parts data initial block size ∧ out = initial ++ decoded ∧
      decoded.length = size

lemma exact_iff {K : Primitives} {data : Bytes} :
    Exact K data ↔ ∀ initial block size decoded, Parts data initial block size →
      K.lz4 block size = .ok decoded → decoded.length = size := by
  constructor
  · intro hexact initial block size decoded hparts hdecoded
    obtain ⟨initial', block', size', decoded', hparts', hout, hsize⟩ :=
      hexact _ (decompressResponse_eq_ok.2 ⟨_, _, _, _, hparts, hdecoded, rfl⟩)
    obtain ⟨rfl, rfl, rfl⟩ := hparts.unique hparts'
    rw [append_cancel_left hout, hsize]
  · intro hblocks out hout
    obtain ⟨initial, block, size, decoded, hparts, hdecoded, rfl⟩ := decompressResponse_eq_ok.1 hout
    exact ⟨initial, block, size, decoded, hparts, rfl, hblocks _ _ _ _ hparts hdecoded⟩

/-- **Compression is transparent** exactly where the source checks too little. A compressed
message within the limit is smaller in its compressed part, and is read back exactly if its offset
fits the header. A byte string is decoded to as many bytes as its header gives exactly if its
block decodes to that many. -/
theorem compression_transparent_iff (K : Primitives) (codec : Lz4Codec) :
    (∀ message offset c, compressMessage codec.compress message offset = some c →
      c.compressedData.length < (message.drop offset).length ∧
        ((message.drop offset).length ≤ maxDecompressedSize →
          (decompressResponse (K.withLz4 codec) (buildCompressedFrame c) = .ok message ↔
            offset < 2 ^ 32))) ∧
    ∀ data, Exact (K.withLz4 codec) data ↔
      ∀ initial block size decoded, Parts data initial block size →
        codec.decompress block size = .ok decoded → decoded.length = size := by
  constructor
  · intro message offset c hc
    refine ⟨?_, decompressResponse_frame_iff rfl hc⟩
    obtain ⟨-, hshort, rfl⟩ := compressMessage_eq_some.1 hc
    exact hshort
  · intro data
    exact exact_iff

/-! ### A block that decodes to less -/

def zeroRuns : Lz4Codec where
  compress data := if data.all (· = 0) then [1] else 0 :: data
  decompress block size :=
    match block with
    | [1] => .ok (replicate size 0)
    | 0 :: data => if data.length ≤ size then .ok data else .error "OutputTooSmall"
    | _ => .error "ExpectedAnotherByte"
  decompress_compress data := by
    by_cases hzero : data.all (· = 0)
    · have hdata : data = replicate data.length 0 :=
        eq_replicate_iff.2 ⟨rfl, by simpa using hzero⟩
      simp only [hzero, if_true]
      rw [← hdata]
    · simp [hzero]
  length_decompress block size data h := by
    split at h
    · obtain rfl := Except.ok.inj h
      rw [length_replicate]
    · split at h
      · obtain rfl := Except.ok.inj h
        assumption
      · cases h
    · cases h

example : (compressMessage zeroRuns.compress [7, 8, 0, 0, 0] 2).isSome = true := by decide

def shortFrame : Bytes :=
  CompressionTransformHeader.pack
    { originalCompressedSegmentSize := 5, compressionAlgorithm := compressionAlgorithmLz4,
      flags := compressionFlagNone, offsetOrLength := 0 } ++ [0, 7]

theorem shortFrame_accepted :
    decompressResponse (Receiver.samplePrimitives.withLz4 zeroRuns) shortFrame = .ok [7] ∧
      Parts shortFrame [] [0, 7] 5 ∧
      ¬ Exact (Receiver.samplePrimitives.withLz4 zeroRuns) shortFrame := by
  have hparts : Parts shortFrame [] [0, 7] 5 := by
    obtain ⟨cursor, hunpack⟩ := unpack_pack_compression
      { originalCompressedSegmentSize := 5, compressionAlgorithm := compressionAlgorithmLz4,
        flags := compressionFlagNone, offsetOrLength := 0 } [0, 7]
    exact ⟨⟨_, cursor, hunpack, rfl, rfl, rfl, rfl⟩, by decide, by decide, by decide⟩
  refine ⟨by decide, hparts, fun hexact => ?_⟩
  have hlength := exact_iff.1 hexact [] [0, 7] 5 [7] hparts rfl
  exact absurd hlength (by decide)

end Smb2.Connection
