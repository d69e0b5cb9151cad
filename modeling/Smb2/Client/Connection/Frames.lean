import Smb2.Client.Connection.State
import Smb2.Crypto.Compression
import Smb2.Msg.Header

set_option autoImplicit false

/-!
# Decoding a transport frame

What `receiver_loop` does with the bytes of one transport frame before it looks at a header
(`client/connection.rs`): undo the encryption, undo the compression, split the compound chain
into its sub-frames. Each stage fails on its own; any failure is fatal to the connection.
-/

namespace Smb2.Connection

/-- **The third-party code** a connection is built on. -/
structure Primitives where
  mac : MacPrimitives
  aead : AeadPrimitives
  lz4 : Lz4

variable (K : Primitives)

/-! ## Decryption -/

def decryptFrame (crypto : CryptoState) (data : Bytes) : Except Error Bytes :=
  match crypto.decryptionKey with
  | none => .error (.invalidData "received encrypted message but no decryption key")
  | some key =>
    match crypto.encryptionCipher with
    | none => .error (.invalidData "received encrypted message but no cipher")
    | some cipher =>
      if data.length < TransformHeader.size then
        .error (.invalidData "encrypted message too short for TransformHeader")
      else
        decryptMessage K.aead (data.take TransformHeader.size) (data.drop TransformHeader.size) key
          cipher

/-- **The AEAD accepts** a frame under a key and yields the plaintext: its tag field
authenticates the rest of the transform header and the ciphertext. -/
def AeadAccepts (crypto : CryptoState) (data plain : Bytes) : Prop :=
  ∃ key cipher, crypto.decryptionKey = some key ∧ crypto.encryptionCipher = some cipher ∧
    TransformHeader.size ≤ data.length ∧ key.length = cipher.keyLen ∧
      K.aead.decrypt cipher key (slice data 20 (20 + cipher.nonceLen)) (slice data 20 52)
        (slice data 4 20) (data.drop TransformHeader.size) = some plain

lemma slice_take {data : Bytes} {start stop n : ℕ} (h : stop ≤ n) :
    slice (data.take n) start stop = slice data start stop := by
  simp only [slice, List.drop_take, List.take_take]
  congr 1
  omega

/-- **Decryption** succeeds exactly when the AEAD accepts the frame. -/
theorem decryptFrame_eq_ok {crypto : CryptoState} {data plain : Bytes} :
    decryptFrame K crypto data = .ok plain ↔ AeadAccepts K crypto data plain := by
  unfold decryptFrame AeadAccepts
  cases hkey : crypto.decryptionKey with
  | none => simp
  | some key =>
    cases hcipher : crypto.encryptionCipher with
    | none => simp
    | some cipher =>
      have htag : slice (data.take TransformHeader.size) 4 20 = slice data 4 20 :=
        slice_take (by decide)
      have hnonce : slice (data.take TransformHeader.size) 20 (20 + cipher.nonceLen) =
          slice data 20 (20 + cipher.nonceLen) := by
        refine slice_take ?_
        have := cipher.nonceLen_le
        simp only [TransformHeader.size]
        omega
      have haad : (data.take TransformHeader.size).drop 20 = slice data 20 52 := by
        simp [slice, TransformHeader.size, List.drop_take]
      by_cases hlen : data.length < TransformHeader.size
      · simp [hlen, Nat.not_le.2 hlen]
      · have hle : TransformHeader.size ≤ data.length := by omega
        simp only [hlen, if_false, decryptMessage_eq_ok, htag, hnonce, haad, Option.some.injEq,
          List.length_take, hle, Nat.min_eq_left, true_and]
        constructor
        · intro haccept
          exact ⟨key, cipher, rfl, rfl, haccept⟩
        · rintro ⟨_, _, rfl, rfl, haccept⟩
          exact haccept

/-! ## Decompression -/

def decompressResponse (data : Bytes) : Except Error Bytes :=
  if data.length < CompressionTransformHeader.size then
    .error (.invalidData "compressed response too short for CompressionTransformHeader")
  else do
    let (header, _) ← CompressionTransformHeader.unpack (.new data)
    if header.compressionAlgorithm ≠ compressionAlgorithmLz4 then
      let got := hexPadded 4 header.compressionAlgorithm.toNat
      .error (.invalidData
        s!"unsupported compression algorithm 0x{got}, only LZ4 (0x0005) is supported")
    else if header.flags ≠ compressionFlagNone then
      let got := hexPadded 4 header.flags.toNat
      .error (.invalidData
        s!"unsupported compression flags 0x{got}, only unchained (0x0000) is supported")
    else
      let offset := header.offsetOrLength.toNat
      let remaining := data.drop CompressionTransformHeader.size
      if offset > remaining.length then
        let len := remaining.length
        .error (.invalidData
          s!"compression offset {offset} exceeds remaining data length {len}")
      else
        decompressMessage K.lz4 (remaining.take offset) (remaining.drop offset)
          header.originalCompressedSegmentSize

/-! ## Compound chains -/

/-- The loop of `split_compound` from the sub-frame at `offset` on. Only the first sub-frame is
at offset 0, so `results` is empty there and nowhere else. -/
def splitFrom (data : Bytes) (offset : ℕ) : Except Error (List Bytes) :=
  let len := data.length
  if len < offset + Header.size then
    let rest := len - offset
    .error (.invalidData
      (s!"compound response truncated at offset {offset}: need 64 bytes for header, " ++
        s!"but only {rest} remain"))
  else if offset ≠ 0 ∧ offset % 8 ≠ 0 then
    .error (.invalidData
      s!"compound response at offset {offset} is not 8-byte aligned -- must disconnect")
  else
    let nextCmd := leNat (slice data (offset + 20) (offset + 24))
    if _hlast : nextCmd = 0 then .ok [data.drop offset]
    else if len < offset + nextCmd then
      .error (.invalidData
        (s!"compound NextCommand offset {nextCmd} at position {offset} " ++
          s!"exceeds response length {len}"))
    else do
      let rest ← splitFrom data (offset + nextCmd)
      return slice data offset (offset + nextCmd) :: rest
termination_by data.length - offset
decreasing_by
  simp only [Header.size] at *
  omega

def splitCompound (data : Bytes) : Except Error (List Bytes) := splitFrom data 0

/-! ## The stages together -/

def isTransform (raw : Bytes) : Bool := raw.take 4 = transformProtocolId

/-- The part of `receiver_loop` that undoes encryption: the decoded bytes, and whether they were
encrypted. -/
def undoEncryption (crypto : CryptoState) (raw : Bytes) : Except Error (Bytes × Bool) :=
  if isTransform raw then (decryptFrame K crypto raw).map (·, true) else .ok (raw, false)

def subFrames (decoded : Bytes) : Except Error (List Bytes) := do
  let decoded ←
    if decoded.take 4 = compressionProtocolId then decompressResponse K decoded else .ok decoded
  splitCompound decoded

/-- **Decoding** of one transport frame as far as its sub-frames. -/
def decodeFrame (crypto : CryptoState) (raw : Bytes) : Except Error (List Bytes × Bool) := do
  let (decoded, wasEncrypted) ← undoEncryption K crypto raw
  let subs ← subFrames K decoded
  return (subs, wasEncrypted)

variable {K}

/-- **The sub-frames of a frame** are those of the frame itself, or of the plaintext that the AEAD
accepted if the frame begins with a transform header. -/
theorem decodeFrame_eq_ok {crypto : CryptoState} {raw : Bytes} {subs : List Bytes}
    {wasEncrypted : Bool} :
    decodeFrame K crypto raw = .ok (subs, wasEncrypted) ↔
      wasEncrypted = isTransform raw ∧
        if isTransform raw then
          ∃ plain, AeadAccepts K crypto raw plain ∧ subFrames K plain = .ok subs
        else subFrames K raw = .ok subs := by
  unfold decodeFrame undoEncryption
  by_cases htransform : isTransform raw
  · simp only [htransform, if_true, ← decryptFrame_eq_ok]
    cases decryptFrame K crypto raw with
    | error e => simp [bind, Except.bind, Except.map]
    | ok plain =>
      cases hsubs : subFrames K plain with
      | error e => simp [bind, Except.bind, Except.map, hsubs]
      | ok found =>
        simp [bind, Except.bind, Except.map, hsubs, pure, Except.pure, and_comm, eq_comm]
  · simp only [htransform, Bool.false_eq_true, if_false]
    cases hsubs : subFrames K raw with
    | error e => simp [bind, Except.bind, hsubs]
    | ok found => simp [bind, Except.bind, hsubs, pure, Except.pure, and_comm, eq_comm]

end Smb2.Connection
