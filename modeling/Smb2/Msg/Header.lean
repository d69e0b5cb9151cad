import Smb2.Pack

set_option autoImplicit false

/-!
# The SMB2 header

The 64-byte header at the beginning of every SMB2 message (`msg/header.rs`). Bytes 32 to 40 hold
an async id or a reserved word and a tree id, as the async bit of the flags says.
-/

open List

namespace Smb2

def protocolId : Bytes := [0xFE, 0x53, 0x4D, 0x42]

structure Header where
  creditCharge : UInt16
  status : NtStatus
  command : Command
  credits : UInt16
  flags : HeaderFlags
  nextCommand : UInt32
  messageId : MessageId
  treeId : Option TreeId
  asyncId : Option UInt64
  sessionId : SessionId
  signature : Bytes
deriving DecidableEq, Repr

namespace Header

open ReadCursor

def size : ℕ := 64

def structureSize : UInt16 := 64

def newRequest (command : Command) : Header where
  creditCharge := 0
  status := NtStatus.success
  command := command
  credits := 1
  flags := 0
  nextCommand := 0
  messageId := 0
  treeId := some 0
  asyncId := none
  sessionId := 0
  signature := replicate 16 0

/-- The optional fields are those that the async bit asks for, and the signature has its
length. -/
def WellFormed (h : Header) : Prop :=
  h.signature.length = 16 ∧
    if h.flags.isAsync then h.treeId = none ∧ h.asyncId.isSome
    else h.treeId.isSome ∧ h.asyncId = none

def packIds (h : Header) : Bytes :=
  if h.flags.isAsync then leBytes 8 (h.asyncId.getD 0).toNat
  else leBytes 4 0 ++ leBytes 4 (h.treeId.getD 0).toNat

def pack (h : Header) : Bytes :=
  protocolId ++ (leBytes 2 structureSize.toNat ++ (leBytes 2 h.creditCharge.toNat ++
    (leBytes 4 h.status.toNat ++ (leBytes 2 h.command.code.toNat ++ (leBytes 2 h.credits.toNat ++
    (leBytes 4 h.flags.toNat ++ (leBytes 4 h.nextCommand.toNat ++
    (leBytes 8 h.messageId.toNat ++ (h.packIds ++ (leBytes 8 h.sessionId.toNat ++
    h.signature))))))))))

lemma length_pack {h : Header} (hsig : h.signature.length = 16) : h.pack.length = size := by
  have hids : h.packIds.length = 8 := by
    unfold packIds
    split <;> simp
  have hproto : protocolId.length = 4 := rfl
  simp only [pack, length_append, length_leBytes, hids, hproto, hsig, size]

def readCommand : Reader Command := do
  let raw ← readU16Le
  match Command.tryFrom raw with
  | some command => pure command
  | none =>
    let code := hexPadded 4 raw.toNat
    throw (.invalidData s!"invalid SMB2 command code: 0x{code}")

def readIds (flags : HeaderFlags) : Reader (Option TreeId × Option UInt64) :=
  if flags.isAsync then do
    let asyncId ← readU64Le
    pure (none, some asyncId)
  else do
    let _ ← readU32Le
    let treeId ← readU32Le
    pure (some treeId, none)

def unpack : Reader Header := do
  let proto ← readBytes 4
  expect (proto = protocolId)
    (.invalidData ("invalid SMB2 protocol ID: expected [FE, 53, 4D, 42], got " ++ hexList proto))
  let size ← readU16Le
  expect (size = structureSize)
    (.invalidData s!"invalid SMB2 header structure size: expected 64, got {size}")
  let creditCharge ← readU16Le
  let status ← readU32Le
  let command ← readCommand
  let credits ← readU16Le
  let flags ← readU32Le
  let nextCommand ← readU32Le
  let messageId ← readU64Le
  let ids ← readIds flags
  let sessionId ← readU64Le
  let signature ← readBytes 16
  return { creditCharge, status, command, credits, flags, nextCommand, messageId,
           treeId := ids.1, asyncId := ids.2, sessionId, signature }

/-- A buffer of a body that begins at `start`, whose offset field counts from the beginning of the
header. An offset that points behind the cursor, back into what was read, is not followed: the
buffer is then read at the cursor. -/
def readBufferAt (start offset length : ℕ) : Reader Bytes := do
  if length > 0 then
    seekTo (start + (offset - size))
    readBytesBounded length
  else
    return []

variable {β : Type} {start offset length : ℕ} {f : Bytes → Reader β} {c : ReadCursor}
  {p : β × ReadCursor}

lemma readBufferAt_pos (hpos : 0 < length) :
    (readBufferAt start offset length >>= f) c = .ok p ↔
      start + (offset - size) - c.pos ≤ c.remaining ∧ length ≤ maxUnpackBuffer ∧
        length ≤ c.data.length - max c.pos (start + (offset - size)) ∧
        f (slice c.data (max c.pos (start + (offset - size)))
            (max c.pos (start + (offset - size)) + length))
          ⟨c.data, max c.pos (start + (offset - size)) + length⟩ = .ok p := by
  have hbuffer : readBytesBounded length = readBuffer length := by rw [readBuffer, if_pos hpos]
  rw [readBufferAt, if_pos hpos, bind_assoc, seekTo_then, hbuffer, readBuffer_then]
  rfl

lemma readBufferAt_zero :
    (readBufferAt start offset 0 >>= f) c = f [] c := rfl

lemma readBufferAt_then (h : (readBufferAt start offset length >>= f) c = .ok p) :
    ∃ c', f (slice c.data (max c.pos (start + (offset - size)))
      (max c.pos (start + (offset - size)) + length)) c' = .ok p := by
  obtain rfl | hpos := Nat.eq_zero_or_pos length
  · rw [readBufferAt_zero] at h
    exact ⟨c, by simpa [slice] using h⟩
  · exact ⟨_, ((readBufferAt_pos hpos).1 h).2.2.2⟩

lemma length_of_readBufferAt (h : (readBufferAt start offset length >>= f) c = .ok p) :
    length ≤ maxUnpackBuffer ∧ ∃ bs c', bs.length = length ∧ f bs c' = .ok p := by
  obtain rfl | hpos := Nat.eq_zero_or_pos length
  · exact ⟨Nat.zero_le _, [], c, rfl, h⟩
  · obtain ⟨-, hmax, hrest, hf⟩ := (readBufferAt_pos hpos).1 h
    exact ⟨hmax, _, _, length_slice hrest, hf⟩

lemma readBufferAt_append {pre pad bs post : Bytes} (hpos : 0 < bs.length)
    (hmax : bs.length ≤ maxUnpackBuffer)
    (hf : f bs ⟨pre ++ (pad ++ (bs ++ post)), pre.length + pad.length + bs.length⟩ = .ok p) :
    (readBufferAt 0 (size + (pre.length + pad.length)) bs.length >>= f)
      ⟨pre ++ (pad ++ (bs ++ post)), pre.length⟩ = .ok p := by
  have hat : max pre.length (0 + (size + (pre.length + pad.length) - size)) =
      (pre ++ pad).length := by
    rw [length_append]
    omega
  have hslice : slice (pre ++ (pad ++ (bs ++ post))) (pre ++ pad).length
      ((pre ++ pad).length + bs.length) = bs := by
    rw [← append_assoc]
    exact slice_append _ _ _
  rw [readBufferAt_pos hpos]
  simp only [hat, hslice]
  simp only [remaining, length_append]
  exact ⟨by omega, hmax, by omega, hf⟩

/-! ## What a parsed header says about the bytes -/

section Parsed

variable {c c' : ReadCursor}

lemma readCommand_eq_ok {command : Command} (h : readCommand c = .ok (command, c')) :
    2 ≤ c.remaining ∧ c' = { c with pos := c.pos + 2 } := by
  obtain ⟨raw, c₁, hraw, hmatch⟩ := bind_eq_ok.1 h
  obtain ⟨hlen, -, rfl⟩ := takeN_map_eq_ok.1 hraw
  cases htry : Command.tryFrom raw with
  | none =>
    simp only [htry] at hmatch
    cases hmatch
  | some _ =>
    simp only [htry] at hmatch
    obtain ⟨-, rfl⟩ := pure_eq_ok.1 hmatch
    exact ⟨hlen, rfl⟩

lemma readIds_eq_ok {flags : HeaderFlags} {ids : Option TreeId × Option UInt64}
    (h : readIds flags c = .ok (ids, c')) :
    8 ≤ c.remaining ∧ c' = { c with pos := c.pos + 8 } := by
  unfold readIds at h
  split at h
  · obtain ⟨_, c₁, hread, hret⟩ := bind_eq_ok.1 h
    obtain ⟨hlen, -, rfl⟩ := takeN_map_eq_ok.1 hread
    obtain ⟨-, rfl⟩ := pure_eq_ok.1 hret
    exact ⟨hlen, rfl⟩
  · obtain ⟨_, c₁, hreserved, h⟩ := bind_eq_ok.1 h
    obtain ⟨-, -, rfl⟩ := takeN_map_eq_ok.1 hreserved
    obtain ⟨_, c₂, htree, hret⟩ := bind_eq_ok.1 h
    obtain ⟨hlen, -, rfl⟩ := takeN_map_eq_ok.1 htree
    obtain ⟨-, rfl⟩ := pure_eq_ok.1 hret
    refine ⟨?_, rfl⟩
    simp only [remaining] at hlen ⊢
    omega

/-- **A header that parses** was read from 64 bytes, its status from bytes 8 to 12 and its flags
from bytes 16 to 20.

**Proof sketch.** Follow the reads one by one: each moves the cursor by the width of its field,
so the position of every read is known, and the last of them needs byte 63 to be there. -/
theorem unpack_eq_ok {data : Bytes} {h : Header} (hok : unpack (.new data) = .ok (h, c')) :
    size ≤ data.length ∧ h.status = UInt32.ofNat (leNat (slice data 8 12)) ∧
      h.flags = UInt32.ofNat (leNat (slice data 16 20)) := by
  simp only [unpack, readBytes, takeN_then, expect_then, readU16Le_then, readU32Le_then] at hok
  obtain ⟨-, -, -, -, -, -, hok⟩ := hok
  obtain ⟨_, _, hcommand, hok⟩ := bind_eq_ok.1 hok
  obtain ⟨-, rfl⟩ := readCommand_eq_ok hcommand
  simp only [readU16Le_then, readU32Le_then, readU64Le_then] at hok
  obtain ⟨-, -, -, -, hok⟩ := hok
  obtain ⟨_, _, hids, hok⟩ := bind_eq_ok.1 hok
  obtain ⟨-, rfl⟩ := readIds_eq_ok hids
  simp only [readU64Le_then, takeN_then] at hok
  obtain ⟨-, hlen, hok⟩ := hok
  obtain ⟨rfl, -⟩ := pure_eq_ok.1 hok
  refine ⟨?_, rfl, rfl⟩
  simp only [remaining, advance, ReadCursor.new] at hlen
  simp only [size]
  omega

end Parsed

/-! ## Round trip -/

section Packed

variable {h : Header} {pre post : Bytes} {β : Type}

lemma readCommand_bind {command : Command} {f : Command → Reader β} :
    (readCommand >>= f) ⟨pre ++ (leBytes 2 command.code.toNat ++ post), pre.length⟩ =
      f command ⟨(pre ++ leBytes 2 command.code.toNat) ++ post,
        (pre ++ leBytes 2 command.code.toNat).length⟩ := by
  rw [readCommand, bind_assoc, readU16Le_bind, Command.tryFrom_code]
  rfl

lemma readIds_bind (hwf : h.WellFormed) {f : Option TreeId × Option UInt64 → Reader β} :
    (readIds h.flags >>= f) ⟨pre ++ (h.packIds ++ post), pre.length⟩ =
      f (h.treeId, h.asyncId) ⟨(pre ++ h.packIds) ++ post, (pre ++ h.packIds).length⟩ := by
  obtain ⟨-, hids⟩ := hwf
  unfold readIds packIds
  by_cases hasync : h.flags.isAsync
  · simp only [hasync, if_true] at hids ⊢
    obtain ⟨htree, hid⟩ := hids
    obtain ⟨id, hid⟩ := Option.isSome_iff_exists.1 hid
    rw [bind_assoc, readU64Le_bind, htree, hid]
    rfl
  · simp only [hasync, Bool.false_eq_true, if_false] at hids ⊢
    obtain ⟨htree, hid⟩ := hids
    obtain ⟨tree, htree⟩ := Option.isSome_iff_exists.1 htree
    have hzero : leBytes 4 0 = leBytes 4 (0 : UInt32).toNat := rfl
    rw [bind_assoc, append_assoc, hzero, readU32Le_bind, bind_assoc, readU32Le_bind, htree,
      hid]
    simp only [append_assoc]
    rfl

/-- **Round trip.** A well-formed header is parsed back from its packed form, whatever follows
it, and the cursor is left behind it. -/
theorem unpack_pack (hwf : h.WellFormed) :
    unpack (.new (h.pack ++ post)) = .ok (h, ⟨h.pack ++ post, h.pack.length⟩) := by
  have hstart : ReadCursor.new (h.pack ++ post) = ⟨[] ++ (h.pack ++ post), ([] : Bytes).length⟩ :=
    rfl
  have hproto : protocolId.length = 4 := rfl
  rw [hstart]
  simp only [pack, append_assoc]
  rw [unpack, readBytes_bind hproto, expect_bind (by rfl), readU16Le_bind, expect_bind (by rfl),
    readU16Le_bind, readU32Le_bind, readCommand_bind, readU16Le_bind, readU32Le_bind,
    readU32Le_bind, readU64Le_bind, readIds_bind hwf, readU64Le_bind, readBytes_bind hwf.1]
  simp only [append_assoc, nil_append]
  rfl

end Packed

end Header

end Smb2
