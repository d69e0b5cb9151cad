import Smb2.Client.Connection.Compound
import Smb2.Client.Connection.Sizes

set_option autoImplicit false

/-!
# From the request to the sub-frames

The way of a request through the layers of the client and back: it is packed, alone or as a part of
a compound, compressed or encrypted (`wire`), framed by the transport, cut by the network into
segments, and decoded by `decodeFrame`, the receiving half of the same client.

## Implementation notes

The keys are those of one session. The direct TCP transport announces a frame of exactly 2 ^ 24
bytes as an empty one, so such frames are left out of a stream.
-/

open List

namespace Smb2

namespace Wrapping

def isEncrypted : Wrapping → Bool
  | encrypted .. => true
  | _ => false

/-- **The receiver can undo a wrapping**: it has the key and the cipher, or the part that is
compressed is within its limit. -/
def Opens (crypto : Connection.CryptoState) (message : Bytes) : Wrapping → Prop
  | plain => True
  | compressed => (message.drop Header.size).length ≤ maxDecompressedSize
  | encrypted key cipher nonce _ =>
    crypto.decryptionKey = some key ∧ crypto.encryptionCipher = some cipher ∧ nonce.length = 16

end Wrapping

namespace Connection

open Compound (packMessage Caller Moment Built build chain_of_build split_iff_short)

variable {K : Primitives} {codec : Lz4Codec} {crypto : CryptoState} {w : Wrapping}
  {message frame : Bytes} {subs : List Bytes}

/-! ## One frame -/

section Sealed

variable {h : TransformHeader} (hs : h.signature.length = 16)

include hs

lemma drop_pack : h.pack.drop 20 = h.nonce ++ (leBytes 4 h.originalMessageSize.toNat ++
    (leBytes 2 0 ++ (leBytes 2 h.flags.toNat ++ leBytes 8 h.sessionId.toNat))) := by
  simp only [TransformHeader.pack, append_assoc]
  rw [← append_assoc, drop_left' (by simp [transformProtocolId, hs])]

/-- **The fields of a sealed frame** are where `decrypt_frame` looks for them. -/
lemma slice_sealed (hn : h.nonce.length = 16) (text : Bytes) {n : ℕ} (hle : n ≤ 16) :
    slice (h.pack ++ text) 4 20 = h.signature ∧
      slice (h.pack ++ text) 20 (20 + n) = h.nonce.take n ∧
      slice (h.pack ++ text) 20 52 = h.pack.drop 20 ∧
      (h.pack ++ text).drop TransformHeader.size = text := by
  have hlen : h.pack.length = 52 := TransformHeader.length_pack hs hn
  have hdrop : (h.pack ++ text).drop 20 = h.pack.drop 20 ++ text :=
    drop_append_of_le_length (by omega)
  refine ⟨?_, ?_, ?_, drop_left' hlen⟩
  · have hsig := slice_append transformProtocolId h.signature (h.pack.drop 20 ++ text)
    rw [hs] at hsig
    rw [← hsig, drop_pack hs]
    simp only [TransformHeader.pack, append_assoc]
    rfl
  · rw [slice, hdrop, drop_pack hs, append_assoc, Nat.add_sub_cancel_left,
      take_append_of_le_length (by omega)]
  · rw [slice, hdrop, take_left' (by rw [length_drop, hlen])]

end Sealed

/-- **The AEAD accepts what it sealed**: the packed header carries the tag, and what follows the tag
is the associated data that was sealed with. -/
lemma aeadAccepts_wire {key nonce : Bytes} {cipher : Cipher} {sessionId : SessionId}
    (hopens : (Wrapping.encrypted key cipher nonce sessionId).Opens crypto message)
    (h : wire K.aead codec.compress message (.encrypted key cipher nonce sessionId) = .ok frame) :
    isTransform frame ∧ AeadAccepts K crypto frame message := by
  obtain ⟨hkey, hcipher, hnonce⟩ := hopens
  by_cases hlen : key.length = cipher.keyLen
  · rw [wire, encryptMessage, if_neg (not_not_intro hlen)] at h
    obtain rfl := Except.ok.inj h
    set header := untaggedHeader message nonce sessionId
    set out := K.aead.encrypt cipher key (nonce.take cipher.nonceLen) (header.pack.drop 20) message
    let tagged : TransformHeader := { header with signature := out.2 }
    have htag : tagged.signature.length = 16 := K.aead.length_tag ..
    have haad : tagged.pack.drop 20 = header.pack.drop 20 :=
      (drop_pack htag).trans (drop_pack (h := header) length_replicate).symm
    obtain ⟨htagAt, hnonceAt, haadAt, htextAt⟩ :=
      slice_sealed htag hnonce out.1 cipher.nonceLen_le
    refine ⟨rfl, key, cipher, hkey, hcipher, ?_, hlen, ?_⟩
    · rw [length_append, TransformHeader.length_pack (h := tagged) htag hnonce]
      exact Nat.le_add_right _ _
    · rw [htagAt, hnonceAt, haadAt, htextAt, haad]
      exact K.aead.decrypt_encrypt ..
  · rw [wire, encryptMessage, if_pos hlen] at h
    cases h

lemma subFrames_of_header (hsmb : message.take 4 = protocolId) :
    subFrames K message = splitCompound message := by
  have hne : protocolId ≠ compressionProtocolId := by decide
  rw [subFrames, hsmb, if_neg hne]
  rfl

/-- **The layers are transparent**: decoding what `wire` made of a message is splitting the message
itself, and the receiver knows whether it was encrypted. -/
theorem decodeFrame_wire (hlz4 : K.lz4 = codec.decompress) (hsmb : message.take 4 = protocolId)
    (hopens : w.Opens crypto message) (h : wire K.aead codec.compress message w = .ok frame)
    (hsplit : splitCompound message = .ok subs) :
    decodeFrame K crypto frame = .ok (subs, w.isEncrypted) := by
  have hplain : isTransform message = false := by
    rw [isTransform, hsmb]
    rfl
  have hsubs : subFrames K message = .ok subs := (subFrames_of_header hsmb).trans hsplit
  rw [decodeFrame_eq_ok]
  cases w with
  | plain =>
    obtain rfl := Except.ok.inj h
    rw [hplain]
    exact ⟨rfl, hsubs⟩
  | compressed =>
    rw [wire] at h
    split at h
    · rename_i compressed hcompressed
      obtain rfl := Except.ok.inj h
      have hback : decompressResponse K (buildCompressedFrame compressed) = .ok message :=
        (decompressResponse_frame_iff hlz4 hcompressed hopens).2 (by decide)
      refine ⟨rfl, ?_⟩
      show (decompressResponse K (buildCompressedFrame compressed) >>= splitCompound) = .ok subs
      rw [hback]
      exact hsplit
    · obtain rfl := Except.ok.inj h
      rw [hplain]
      exact ⟨rfl, hsubs⟩
  | encrypted key cipher nonce sessionId =>
    obtain ⟨htransform, haccepts⟩ := aeadAccepts_wire hopens h
    rw [htransform]
    exact ⟨rfl, message, haccepts, hsubs⟩

/-! ## What a connection sends -/

structure Emission where
  subRequests : List Bytes
  encrypted : Bool
  frame : Bytes
deriving DecidableEq

/-- **What a connection puts on the stream**: one request (`execute_with_credits`, `send_cancel`),
with whatever signature it got, or a compound (`execute_compound`), which is never compressed. -/
inductive Emits (K : Primitives) (codec : Lz4Codec) (crypto : CryptoState) : Emission → Prop
  | request {header : Header} {body frame : Bytes} {w : Wrapping} :
    header.signature.length = 16 → header.nextCommand = 0 →
    w.Opens crypto (packMessage header body) →
    wire K.aead codec.compress (packMessage header body) w = .ok frame →
    Emits K codec crypto ⟨[packMessage header body], w.isEncrypted, frame⟩
  | compound {c : Caller} {pool : CreditPool} {now : ℕ → Moment} {ops : List CompoundOp}
      {built : Built} {frame : Bytes} {w : Wrapping} :
    build K.mac c pool now ops = .ok built →
    (∀ op ∈ ops.dropLast, Header.size + op.body.length ≤ 2 ^ 32 - 8) →
    w ≠ .compressed → w.Opens crypto built.buffer →
    wire K.aead codec.compress built.buffer w = .ok frame →
    Emits K codec crypto ⟨built.subRequests, w.isEncrypted, frame⟩

lemma splitCompound_packMessage {header : Header} (body : Bytes)
    (hsig : header.signature.length = 16) (hnext : header.nextCommand = 0) :
    splitCompound (packMessage header body) = .ok [packMessage header body] := by
  have hstands : Compound.Stands true header body 0 (packMessage header body) := by
    refine ⟨header.signature, hsig, ?_⟩
    rw [← hnext]
    exact (append_nil _).symm
  have hlen : Header.size ≤ (packMessage header body).length :=
    hstands.length ▸ Compound.size_le_paddedLength _ _
  exact splitFrom_last (by omega) rfl hstands.leNat_next

lemma take_buffer (hmac : K.mac.Lawful) {c : Caller} {pool : CreditPool} {now : ℕ → Moment}
    {ops : List CompoundOp} {built : Built} (h : build K.mac c pool now ops = .ok built) :
    built.buffer.take 4 = protocolId := by
  obtain ⟨hops, hrequests, hchain⟩ := chain_of_build hmac h
  rw [Built.buffer]
  generalize built.subRequests = ps at hchain
  generalize hrs : built.requests = rs at hchain hrequests
  cases rs with
  | nil => exact absurd (mapIdx_eq_nil_iff.1 hrequests.symm) hops
  | cons r rs =>
    cases ps with
    | nil => exact hchain.elim
    | cons p ps =>
      obtain ⟨⟨signature, hsig, rfl⟩, -⟩ := hchain
      rfl

/-- **Each frame is decoded** into the sub-requests that it was made of. -/
theorem Emits.decodeFrame_eq (hlz4 : K.lz4 = codec.decompress) (hmac : K.mac.Lawful)
    {e : Emission} (h : Emits K codec crypto e) :
    decodeFrame K crypto e.frame = .ok (e.subRequests, e.encrypted) := by
  cases h with
  | request hsig hnext hopens hwire =>
    exact decodeFrame_wire hlz4 rfl hopens hwire (splitCompound_packMessage _ hsig hnext)
  | compound hbuild hshort _ hopens hwire =>
    exact decodeFrame_wire hlz4 (take_buffer hmac hbuild) hopens hwire
      ((split_iff_short hmac hbuild).2 hshort)

/-! ## A stream of frames -/

/-- **A stream is decoded into what was sent**, request by request and in order, however the network
cuts it into segments.

**Proof sketch.** Induction on the frames. The receiver takes one frame off the segments and leaves
segments of the rest; decoding the frame undoes its layers. -/
theorem stream_decoded (hlz4 : K.lz4 = codec.decompress) (hmac : K.mac.Lawful)
    {es : List Emission} {stream : Bytes} {segments : List Bytes}
    (hemits : ∀ e ∈ es, Emits K codec crypto e ∧ e.frame.length ≠ Tcp.maxFrameSize)
    (hsend : Tcp.sendAll (es.map Emission.frame) = .ok stream)
    (hsegments : segments.flatten = stream) :
    (Tcp.receives es.length segments).map (· >>= decodeFrame K crypto) =
      es.map fun e => .ok (e.subRequests, e.encrypted) := by
  induction es generalizing stream segments with
  | nil => rfl
  | cons e es ih =>
    obtain ⟨⟨hemit, hlen⟩, hrest⟩ := forall_mem_cons.1 hemits
    obtain ⟨rest, hle, hsend', rfl⟩ := Tcp.sendAll_cons hsend
    obtain ⟨left, hreceive, hleft⟩ := Tcp.receive_frame_of_lt (by omega) hsegments
    rw [length_cons, Tcp.receives, hreceive, map_cons, map_cons, ih hrest hsend' hleft]
    congr 1
    exact hemit.decodeFrame_eq hlz4 hmac

def echo : Bytes := packMessage Receiver.unsignedHeader []

def sealedEcho : Bytes := (untaggedHeader echo (nonceBytes 0) 1).pack ++ echo

def oneKey : CryptoState :=
  { decryptionKey := some (replicate 16 3), encryptionCipher := some .aes128Gcm }

/-- A sealed request and a plain one, on segments that do not end where the frames do. -/
theorem stream_decoded_twoEchos :
    (Tcp.receives 2 [Tcp.frameHeader 116 ++ sealedEcho ++ [0], (Tcp.frameHeader 64).tail ++ echo]).map
        (· >>= decodeFrame (Receiver.samplePrimitives.withLz4 zeroRuns) oneKey) =
      [.ok ([echo], true), .ok ([echo], false)] := by
  have hlz4 : (Receiver.samplePrimitives.withLz4 zeroRuns).lz4 = zeroRuns.decompress := rfl
  have hsealed : Emits (Receiver.samplePrimitives.withLz4 zeroRuns) zeroRuns oneKey
      ⟨[echo], true, sealedEcho⟩ :=
    .request rfl rfl
      (show (Wrapping.encrypted (replicate 16 3) .aes128Gcm (nonceBytes 0) 1).Opens oneKey echo from
        ⟨rfl, rfl, by decide⟩) rfl
  have hplain : Emits (Receiver.samplePrimitives.withLz4 zeroRuns) zeroRuns oneKey
      ⟨[echo], false, echo⟩ :=
    .request rfl rfl (show Wrapping.plain.Opens oneKey echo from trivial) rfl
  exact stream_decoded hlz4 lawful_samplePrimitives
    (forall_mem_cons.2 ⟨⟨hsealed, by decide⟩, forall_mem_singleton.2 ⟨hplain, by decide⟩⟩)
    rfl rfl

end Connection

end Smb2
