import Smb2.Msg.Header

set_option autoImplicit false

/-!
# NEGOTIATE

The bodies of NEGOTIATE requests and responses (`msg/negotiate.rs`). A request has 36 fixed bytes and
the dialects, a response 64 fixed bytes and the security buffer; for SMB 3.1.1, both have a list of
negotiate contexts.
-/

namespace Smb2

open ReadCursor

structure Guid where
  data1 : UInt32
  data2 : UInt16
  data3 : UInt16
  data4 : Bytes
deriving DecidableEq, Repr

def Guid.unpack : Reader Guid := do
  let data1 ← readU32Le
  let data2 ← readU16Le
  let data3 ← readU16Le
  let data4 ← readBytes 8
  return { data1, data2, data3, data4 }

def Guid.pack (guid : Guid) : Bytes :=
  leBytes 4 guid.data1.toNat ++ (leBytes 2 guid.data2.toNat ++
    (leBytes 2 guid.data3.toNat ++ guid.data4))

inductive NegotiateContext
  | preauthIntegrity (hashAlgorithms : List UInt16) (salt : Bytes)
  | encryption (ciphers : List UInt16)
  | compression (flags : UInt32) (algorithms : List UInt16)
  | signing (algorithms : List UInt16)
  | unknown (contextType : UInt16) (data : Bytes)
deriving DecidableEq, Repr

namespace NegotiateContext

def readU16s : ℕ → Reader (List UInt16)
  | 0 => return []
  | n + 1 => do
    let value ← readU16Le
    return value :: (← readU16s n)

def unpack : Reader NegotiateContext := do
  let contextType ← readU16Le
  let dataLength ← readU16Le
  let _ ← readU32Le
  if contextType = 0x0001 then do
    let hashCount ← readU16Le
    let saltLength ← readU16Le
    let hashAlgorithms ← readU16s hashCount.toNat
    let salt ← readBytesBounded saltLength.toNat
    return .preauthIntegrity hashAlgorithms salt
  else if contextType = 0x0002 then do
    let cipherCount ← readU16Le
    return .encryption (← readU16s cipherCount.toNat)
  else if contextType = 0x0003 then do
    let algCount ← readU16Le
    let _ ← readU16Le
    let flags ← readU32Le
    return .compression flags (← readU16s algCount.toNat)
  else if contextType = 0x0008 then do
    let algCount ← readU16Le
    return .signing (← readU16s algCount.toNat)
  else do
    return .unknown contextType (← readBytesBounded dataLength.toNat)

def alignCursor : Reader Unit := do
  let pos ← position
  if pos % 8 ≠ 0 then skip (8 - pos % 8)

/-- `unpack_negotiate_contexts`; every context but the first begins at a multiple of eight. -/
def unpackAll (first : Bool) : ℕ → Reader (List NegotiateContext)
  | 0 => return []
  | n + 1 => do
    unless first do alignCursor
    let context ← unpack
    return context :: (← unpackAll false n)

end NegotiateContext

def NegotiateContext.unpackAt (start count offset : ℕ) : Reader (List NegotiateContext) := do
  let currentAbs := Header.size + ((← position) - start)
  if offset > currentAbs then
    skip (offset - currentAbs)
  unpackAll true count

structure NegotiateRequest where
  securityMode : UInt16
  capabilities : UInt32
  clientGuid : Guid
  dialects : List Dialect
  negotiateContexts : List NegotiateContext
deriving DecidableEq, Repr

namespace NegotiateRequest

def structureSize : UInt16 := 36

def readDialect : Reader Dialect := do
  let raw ← readU16Le
  match Dialect.tryFrom raw with
  | some dialect => return dialect
  | none => throw (.invalidData ("invalid dialect: 0x" ++ hexPadded 4 raw.toNat))

def readDialects : ℕ → Reader (List Dialect)
  | 0 => return []
  | n + 1 => do
    let dialect ← readDialect
    let dialects ← readDialects n
    return dialect :: dialects

def readContexts (start : ℕ) (dialects : List Dialect) (raw8 : Bytes) :
    Reader (List NegotiateContext) :=
  if .smb3_1_1 ∈ dialects then
    NegotiateContext.unpackAt start (UInt16.ofNat (leNat (slice raw8 4 6))).toNat
      (leNat (slice raw8 0 4))
  else pure []

def unpack : Reader NegotiateRequest := do
  let start ← position
  let size ← readU16Le
  expect (size = structureSize)
    (.invalidData s!"invalid NegotiateRequest structure size: expected 36, got {size}")
  let dialectCount ← readU16Le
  let securityMode ← readU16Le
  let _reserved ← readU16Le
  let capabilities ← readU32Le
  let clientGuid ← Guid.unpack
  let raw8 ← readBytes 8
  let dialects ← readDialects dialectCount.toNat
  let negotiateContexts ← readContexts start dialects raw8
  return { securityMode, capabilities, clientGuid, dialects, negotiateContexts }

end NegotiateRequest

structure NegotiateResponse where
  securityMode : UInt16
  dialectRevision : Dialect
  serverGuid : Guid
  capabilities : UInt32
  maxTransactSize : UInt32
  maxReadSize : UInt32
  maxWriteSize : UInt32
  systemTime : UInt64
  serverStartTime : UInt64
  securityBuffer : Bytes
  negotiateContexts : List NegotiateContext
deriving DecidableEq, Repr

namespace NegotiateResponse

def structureSize : UInt16 := 65

def readDialect : Reader Dialect := do
  let raw ← readU16Le
  match Dialect.tryFrom raw with
  | some dialect => return dialect
  | none => throw (.invalidData ("invalid dialect revision: 0x" ++ hexPadded 4 raw.toNat))

def readContexts (start : ℕ) (dialect : Dialect) (count offset : ℕ) :
    Reader (List NegotiateContext) := do
  if dialect = .smb3_1_1 ∧ count > 0 then do
    let currentAbs := Header.size + ((← position) - start)
    if offset > currentAbs then
      skip (offset - currentAbs)
    NegotiateContext.unpackAll true count
  else
    return []

def unpack : Reader NegotiateResponse := do
  let start ← position
  let size ← readU16Le
  expect (size = structureSize)
    (.invalidData s!"invalid NegotiateResponse structure size: expected 65, got {size}")
  let securityMode ← readU16Le
  let dialectRevision ← readDialect
  let contextCount ← readU16Le
  let serverGuid ← Guid.unpack
  let capabilities ← readU32Le
  let maxTransactSize ← readU32Le
  let maxReadSize ← readU32Le
  let maxWriteSize ← readU32Le
  let systemTime ← readU64Le
  let serverStartTime ← readU64Le
  let _secBufOffset ← readU16Le
  let secBufLength ← readU16Le
  let contextOffset ← readU32Le
  let securityBuffer ← readBuffer secBufLength.toNat
  let negotiateContexts ←
    readContexts start dialectRevision contextCount.toNat contextOffset.toNat
  return { securityMode, dialectRevision, serverGuid, capabilities, maxTransactSize, maxReadSize,
           maxWriteSize, systemTime, serverStartTime, securityBuffer, negotiateContexts }

lemma readDialect_then {β : Type} {f : Dialect → Reader β} {c : ReadCursor} {p : β × ReadCursor}
    (h : (readDialect >>= f) c = .ok p) : ∃ dialect, f dialect (c.advance 2) = .ok p := by
  rw [readDialect, bind_assoc, readU16Le_then] at h
  obtain ⟨-, h⟩ := h
  cases htry : Dialect.tryFrom (UInt16.ofNat (leNat (c.peek 2))) with
  | none =>
    simp only [htry] at h
    cases h
  | some dialect =>
    simp only [htry, pure_bind] at h
    exact ⟨dialect, h⟩

/-- **The security buffer of an accepted response** is what follows the 64 fixed bytes. -/
theorem securityBuffer_of_unpack {body : Bytes} {r : NegotiateResponse} {c : ReadCursor}
    (hok : unpack (.new body) = .ok (r, c)) :
    r.securityBuffer = slice body 64 (64 + leNat (slice body 58 60)) := by
  rw [unpack] at hok
  simp only [position_then, readU16Le_then, expect_then] at hok
  obtain ⟨-, -, -, hok⟩ := hok
  obtain ⟨dialect, hok⟩ := readDialect_then hok
  simp only [Guid.unpack, readBytes, bind_assoc, pure_bind, takeN_then, readU16Le_then,
    readU32Le_then, readU64Le_then, readBuffer_then, toNat_u16_peek] at hok
  obtain ⟨-, -, -, -, -, -, -, -, -, -, -, -, -, -, -, -, hok⟩ := hok
  obtain ⟨contexts, c', -, hr⟩ := bind_eq_ok.1 hok
  obtain ⟨rfl, -⟩ := pure_eq_ok.1 hr
  rfl

end NegotiateResponse

end Smb2
