import Smb2.Client.Connection.CompressedFrames
import Smb2.Client.Session
import Smb2.Msg.Read
import Smb2.Msg.Write
import Smb2.Transport.Tcp

set_option autoImplicit false

/-!
# Negotiated sizes and the limits of the client

The sizes of WRITEs and READs are chosen by the server (`negotiate` in `client/connection.rs`); the
transport and the parsers have limits of their own, of 16 MB each, which bound whole frames. What a
frame has besides the data is counted here: headers, the other requests of a compound, and what
compression and encryption add.
-/

open List

namespace Smb2

open Tcp (maxFrameSize frameHeader)

inductive Wrapping
  | plain
  | compressed
  | encrypted (key : Bytes) (cipher : Cipher) (nonce : Bytes) (sessionId : SessionId)

/-- **What is handed to the transport** for a message: a message that does not get smaller is not
compressed. -/
def wire (A : AeadPrimitives) (compress : Bytes → Bytes) (message : Bytes) :
    Wrapping → Except Error Bytes
  | .plain => .ok message
  | .compressed =>
    match compressMessage compress message Header.size with
    | some compressed => .ok (Connection.buildCompressedFrame compressed)
    | none => .ok message
  | .encrypted key cipher nonce sessionId => do
    let (header, ciphertext) ← encryptMessage A message key cipher nonce sessionId
    return header ++ ciphertext

namespace Wrapping

def Valid : Wrapping → Prop
  | encrypted key cipher nonce _ => key.length = cipher.keyLen ∧ nonce.length = 16
  | _ => True

def overhead : Wrapping → ℕ
  | plain => 0
  | compressed => 15
  | encrypted .. => TransformHeader.size

end Wrapping

section Sizes

variable (A : AeadPrimitives) (compress : Bytes → Bytes) (w : Wrapping)

/-- **WRITEs are sent**: with the other requests of its frame in front of it and behind it, a WRITE
of at most the negotiated size is not too long for the transport. -/
def WritesSent (before after : Bytes) (maxWrite : UInt32) : Prop :=
  ∀ (header : Header) (request : WriteRequest) (bytes : Bytes), header.signature.length = 16 →
    request.data.length ≤ maxWrite.toNat →
      wire A compress (before ++ (header.pack ++ request.pack) ++ after) w = .ok bytes →
        ∃ sent, Tcp.send bytes = .ok sent

/-- **Answers to READs are received**: a frame whose answer to a READ has at most the negotiated
size of data comes out of the transport as it went in, and the answer's body is accepted. -/
def ReadsReceived (before after : Bytes) (maxRead : UInt32) : Prop :=
  ∀ (header : Header) (response : ReadResponse) (bytes : Bytes), header.signature.length = 16 →
    response.data.length ≤ maxRead.toNat →
      wire A compress (before ++ (header.pack ++ response.pack) ++ after) w = .ok bytes →
        (Tcp.receive [frameHeader bytes.length ++ bytes]).1 = .ok bytes ∧
          ∀ padding, ∃ c, ReadResponse.unpack (.new (response.pack ++ padding)) = .ok (response, c)

variable {A compress w} {message bytes before after : Bytes}

lemma receive_eq_iff : (Tcp.receive [frameHeader bytes.length ++ bytes]).1 = .ok bytes ↔
    bytes.length < maxFrameSize := by
  have hframe : [frameHeader bytes.length ++ bytes].flatten =
      frameHeader bytes.length ++ (bytes ++ []) := by simp
  obtain ⟨left, hreceive, -⟩ := Tcp.receive_frame hframe
  have hmod := Nat.mod_lt bytes.length (show maxFrameSize > 0 by decide)
  simp only [hreceive, Except.ok.injEq, take_eq_self_iff]
  constructor
  · omega
  · intro hlt
    rw [Nat.mod_eq_of_lt hlt]

lemma exists_send_iff : (∃ sent, Tcp.send bytes = .ok sent) ↔ bytes.length ≤ maxFrameSize := by
  constructor
  · rintro ⟨sent, hsend⟩
    exact Nat.not_lt.1 fun hgt => Tcp.send_of_gt hgt hsend
  · exact fun hle => ⟨_, Tcp.send_of_le hle⟩

section Lengths

variable (hA : ∀ c key nonce aad plain, (A.encrypt c key nonce aad plain).1.length = plain.length)
  (hw : w.Valid)

include hA hw

lemma length_wire_le (h : wire A compress message w = .ok bytes) :
    bytes.length ≤ message.length + w.overhead := by
  cases w with
  | plain =>
    obtain rfl := Except.ok.inj h
    exact Nat.le_refl _
  | compressed =>
    simp only [wire, compressMessage] at h
    split_ifs at h with hshort hlong
    · obtain rfl := Except.ok.inj h
      exact Nat.le_add_right _ _
    · obtain rfl := Except.ok.inj h
      exact Nat.le_add_right _ _
    · obtain rfl := Except.ok.inj h
      simp only [Connection.buildCompressedFrame, CompressionTransformHeader.pack,
        compressionProtocolId, length_append, length_leBytes, length_take,
        length_drop, length_cons, length_nil, Wrapping.overhead] at hlong ⊢
      omega
  | encrypted key cipher nonce sessionId =>
    have hok : encryptMessage A message key cipher nonce sessionId = .ok _ :=
      if_neg (not_not.2 hw.1)
    rw [wire, hok] at h
    obtain rfl := Except.ok.inj h
    rw [length_append, TransformHeader.length_pack (A.length_tag ..) hw.2, hA]
    exact (Nat.add_comm _ _).le

lemma exists_wire (hmessage : Header.size < message.length) :
    ∃ compress bytes, wire A compress message w = .ok bytes ∧
      bytes.length = message.length + w.overhead := by
  cases w with
  | plain => exact ⟨id, message, rfl, rfl⟩
  | compressed =>
    have hlen : (message.drop Header.size).length = message.length - Header.size :=
      length_drop
    refine ⟨tail, _, by
      rw [wire, compressMessage, if_neg (Nat.not_le.2 hmessage), if_neg (by simp; omega)], ?_⟩
    simp [Connection.buildCompressedFrame, CompressionTransformHeader.pack,
      compressionProtocolId, Wrapping.overhead]
    omega
  | encrypted key cipher nonce sessionId =>
    have hok : encryptMessage A message key cipher nonce sessionId = .ok _ :=
      if_neg (not_not.2 hw.1)
    refine ⟨id, _, by rw [wire, hok]; rfl, ?_⟩
    rw [length_append, TransformHeader.length_pack (A.length_tag ..) hw.2, hA]
    exact Nat.add_comm _ _

lemma writesSent_iff {maxWrite : UInt32} (hpos : 1 ≤ maxWrite.toNat) :
    (∀ compress, WritesSent A compress w before after maxWrite) ↔
      maxWrite.toNat + 112 + before.length + after.length + w.overhead ≤ maxFrameSize := by
  constructor
  · intro hsent
    -- The longest WRITE is the one to look at.
    let request : WriteRequest :=
      ⟨0x70, 0, ⟨0, 0⟩, 0, 0, 0, 0, 0, replicate maxWrite.toNat 0⟩
    have hmessage : (before ++ ((Header.newRequest .write).pack ++ request.pack) ++ after).length =
        maxWrite.toNat + 112 + before.length + after.length := by
      simp only [length_append, Header.length_pack (h := Header.newRequest .write) rfl,
        WriteRequest.length_pack, Header.size, request, length_replicate]
      omega
    obtain ⟨compress, bytes, hwire, hlen⟩ :=
      exists_wire hA hw (show Header.size < _ by rw [hmessage, Header.size]; omega)
    have hle := exists_send_iff.1 (hsent compress _ request bytes (by rfl) (by simp [request]) hwire)
    omega
  · intro hfits compress header request bytes hsig hdata hwire
    have hle := length_wire_le hA hw hwire
    simp only [length_append, Header.length_pack hsig, WriteRequest.length_pack,
      Header.size] at hle
    exact exists_send_iff.2 (by omega)

lemma readsReceived_iff {maxRead : UInt32} :
    (∀ compress, ReadsReceived A compress w before after maxRead) ↔
      maxRead.toNat + 80 + before.length + after.length + w.overhead < maxFrameSize := by
  constructor
  · intro hreceived
    let response : ReadResponse := ⟨0x50, 0, 0, replicate maxRead.toNat 0⟩
    have hmessage : (before ++ ((Header.newRequest .read).pack ++ response.pack) ++ after).length =
        maxRead.toNat + 80 + before.length + after.length := by
      simp only [length_append, Header.length_pack (h := Header.newRequest .read) rfl,
        ReadResponse.pack, length_leBytes, Header.size, response, length_replicate]
      omega
    obtain ⟨compress, bytes, hwire, hlen⟩ :=
      exists_wire hA hw (show Header.size < _ by rw [hmessage, Header.size]; omega)
    have hlt := receive_eq_iff.1
      (hreceived compress _ response bytes (by rfl) (by simp [response]) hwire).1
    omega
  · intro hfits compress header response bytes hsig hdata hwire
    have hle := length_wire_le hA hw hwire
    simp only [length_append, Header.length_pack hsig, ReadResponse.pack, length_leBytes,
      Header.size] at hle
    refine ⟨receive_eq_iff.2 (by omega), ?_⟩
    intro padding
    exact ReadResponse.unpack_pack padding (show _ ≤ maxFrameSize by omega)

/-- **Negotiated sizes fit the client's own limits** exactly if the server chose them so small that a
frame with that much data and all that goes with it fits. -/
theorem sizes_fit_iff {resp : NegotiateResponse} {params : NegotiatedParams}
    (haccept : NegotiatedParams.ofResponse resp = .ok params) (before after : Bytes) :
    ((∀ compress, WritesSent A compress w before after params.maxWriteSize) ↔
        resp.maxWriteSize.toNat + 112 + before.length + after.length + w.overhead ≤
          maxFrameSize) ∧
      ((∀ compress, ReadsReceived A compress w before after params.maxReadSize) ↔
        resp.maxReadSize.toNat + 80 + before.length + after.length + w.overhead <
          maxFrameSize) := by
  obtain ⟨-, -, hread, hwrite, hmin⟩ := NegotiatedParams.of_ofResponse haccept
  have hpos : 65536 ≤ resp.maxWriteSize.toNat := UInt32.le_iff_toNat_le.1 hmin
  rw [hread, hwrite]
  exact ⟨writesSent_iff hA hw (by omega), readsReceived_iff hA hw⟩

end Lengths

theorem sizes_fit_smallest :
    (∀ compress, WritesSent Connection.Receiver.samplePrimitives.aead compress
        (.encrypted (replicate 16 0) .aes128Gcm (replicate 16 0) 7) [] [] 65536) ∧
      ∀ compress, ReadsReceived Connection.Receiver.samplePrimitives.aead compress
        (.encrypted (replicate 16 0) .aes128Gcm (replicate 16 0) 7) [] [] 65536 := by
  have haccept : NegotiatedParams.ofResponse (Session.selecting 2 2) =
      .ok (Session.selectedParams (some .aes128Gcm) true) := by decide +kernel
  have hfit := sizes_fit_iff (A := Connection.Receiver.samplePrimitives.aead) (fun _ _ _ _ _ => rfl)
    (w := .encrypted (replicate 16 0) .aes128Gcm (replicate 16 0) 7) ⟨rfl, rfl⟩
    haccept [] []
  exact ⟨hfit.1.2 (by decide), hfit.2.2 (by decide)⟩

def offeringFrameSize : NegotiateResponse :=
  { Session.selecting 2 2 with maxReadSize := 0x1000000, maxWriteSize := 0x1000000 }

/-- **A WRITE that is too long**: the response is accepted, and a WRITE of the size it offers is
refused by the transport. -/
theorem offered_write_refused : ∃ params,
    NegotiatedParams.ofResponse offeringFrameSize = .ok params ∧
      ∀ sent, Tcp.send ((Header.newRequest .write).pack ++
        WriteRequest.pack ⟨0x70, 0, ⟨0, 0⟩, 0, 0, 0, 0, 0,
          replicate params.maxWriteSize.toNat 0⟩) ≠ .ok sent := by
  obtain ⟨params, hparams, hsize⟩ : ∃ params,
      NegotiatedParams.ofResponse offeringFrameSize = .ok params ∧
        params.maxWriteSize.toNat = maxFrameSize :=
    ⟨{ Session.selectedParams (some .aes128Gcm) true with
        maxReadSize := 0x1000000, maxWriteSize := 0x1000000 }, by decide +kernel, rfl⟩
  refine ⟨params, hparams, ?_⟩
  intro sent
  refine Tcp.send_of_gt ?_
  rw [length_append, WriteRequest.length_pack, length_replicate, hsize]
  omega

end Sizes

end Smb2
