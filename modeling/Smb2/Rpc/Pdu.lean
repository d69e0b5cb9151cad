import Smb2.Msg.Negotiate

set_option autoImplicit false

/-!
# DCE/RPC messages on named pipes

The protocol data units of `rpc/mod.rs`: BIND and BIND_ACK, REQUEST and RESPONSE. A server may cut a
large response into fragments, each a RESPONSE of its own; only the last one has `PFC_LAST_FRAG` set.
-/

open List

namespace Smb2.Rpc

open ReadCursor

/-! ## Constants -/

def rpcVersionMajor : UInt8 := 5

def rpcVersionMinor : UInt8 := 0

def dataRep : Bytes := [0x10, 0x00, 0x00, 0x00]

def pduTypeRequest : UInt8 := 0

def pduTypeResponse : UInt8 := 2

def pduTypeBind : UInt8 := 11

def pduTypeBindAck : UInt8 := 12

def maxFrag : UInt16 := 4280

def pfcFirstFrag : UInt8 := 0x01

def pfcLastFrag : UInt8 := 0x02

def srvsvcUuid : Guid := ⟨0x4B324FC8, 0x1670, 0x01D3, [0x12, 0x78, 0x5A, 0x47, 0xBF, 0x6E, 0xE1, 0x88]⟩

def ndrUuid : Guid := ⟨0x8A885D04, 0x1CEB, 0x11C9, [0x9F, 0xE8, 0x08, 0x00, 0x2B, 0x10, 0x48, 0x60]⟩

/-! ## What the client sends -/

def commonHeader (ptype : UInt8) (total : ℕ) (callId : UInt32) : Bytes :=
  leBytes 1 rpcVersionMajor.toNat ++ (leBytes 1 rpcVersionMinor.toNat ++ (leBytes 1 ptype.toNat ++
    (leBytes 1 (pfcFirstFrag ||| pfcLastFrag).toNat ++ (dataRep ++ (leBytes 2 total ++
    (leBytes 2 0 ++ leBytes 4 callId.toNat))))))

def buildSrvsvcBind (callId : UInt32) : Bytes :=
  let body := leBytes 2 maxFrag.toNat ++ (leBytes 2 maxFrag.toNat ++ (leBytes 4 0 ++
    (leBytes 1 1 ++ ([0, 0, 0] ++ (leBytes 2 0 ++ (leBytes 1 1 ++ (leBytes 1 0 ++
    (srvsvcUuid.pack ++ (leBytes 4 3 ++ (ndrUuid.pack ++ leBytes 4 2))))))))))
  commonHeader pduTypeBind (16 + body.length) callId ++ body

def buildRequest (callId : UInt32) (opnum : UInt16) (stubData : Bytes) : Bytes :=
  commonHeader pduTypeRequest (16 + 8 + stubData.length) callId ++
    (leBytes 4 stubData.length ++ (leBytes 2 0 ++ (leBytes 2 opnum.toNat ++ stubData)))

/-! ## What it reads -/

def expectType (expected : UInt8) (mismatch : UInt8 → Error) : Reader Unit := do
  let version ← readU8
  let versionMinor ← readU8
  expect (version = rpcVersionMajor && versionMinor = rpcVersionMinor)
    (.invalidData s!"unexpected RPC version {version}.{versionMinor}, expected 5.0")
  let ptype ← readU8
  expect (ptype = expected) (mismatch ptype)

def bindAck : Reader Unit := do
  expectType pduTypeBindAck fun ptype =>
    .invalidData s!"expected BIND_ACK (type 12), got type {ptype}"
  let _flags ← readU8
  let _dataRep ← readBytes 4
  let _fragLength ← readU16Le
  let _authLength ← readU16Le
  let _callId ← readU32Le
  let _maxXmitFrag ← readU16Le
  let _maxRecvFrag ← readU16Le
  let _assocGroup ← readU32Le
  -- The secondary address, and its padding to four bytes.
  let secAddrLen ← readU16Le
  skip secAddrLen.toNat
  skip ((4 - (2 + secAddrLen.toNat) % 4) % 4)
  let numResults ← readU8
  skip 3
  expect (numResults ≠ 0) (.invalidData "BIND_ACK has no context results")
  let result ← readU16Le
  if result ≠ 0 then
    let reason ← readU16Le
    throw (.invalidData s!"BIND rejected: result={result}, reason={reason}")

def parseBindAck (data : Bytes) : Except Error Unit := (bindAck (.new data)).map Prod.fst

def responseStub (flags : UInt8) (fragLength : UInt16) : Reader (Bytes × Bool) := do
  let headerConsumed ← position
  expect (headerConsumed ≤ fragLength.toNat)
    (.invalidData s!"RPC frag_length {fragLength} shorter than header {headerConsumed}")
  let stubData ← readBytes (fragLength.toNat - headerConsumed)
  return (stubData, flags &&& pfcLastFrag ≠ 0)

def responseFragment : Reader (Bytes × Bool) := do
  expectType pduTypeResponse fun ptype =>
    .invalidData s!"expected RESPONSE (type 2), got type {ptype}"
  let flags ← readU8
  let _dataRep ← readBytes 4
  let fragLength ← readU16Le
  let _authLength ← readU16Le
  let _callId ← readU32Le
  let _allocHint ← readU32Le
  let _contextId ← readU16Le
  let _cancelCount ← readU8
  let _reserved ← readU8
  responseStub flags fragLength

def parseResponseFragment (data : Bytes) : Except Error (Bytes × Bool) :=
  (responseFragment (.new data)).map Prod.fst

/-! ## What a server sends -/

/-- **A fragment of a response**, without authentication data. Its length fits in the field for
it. -/
structure Fragment where
  flags : UInt8
  callId : UInt32
  allocHint : UInt32
  contextId : UInt16
  cancelCount : UInt8
  reserved : UInt8
  stub : Bytes
  fits : 24 + stub.length < 2 ^ 16

namespace Fragment

def fragLength (f : Fragment) : UInt16 := UInt16.ofNat (24 + f.stub.length)

def pack (f : Fragment) : Bytes :=
  leBytes 1 rpcVersionMajor.toNat ++ (leBytes 1 rpcVersionMinor.toNat ++
    (leBytes 1 pduTypeResponse.toNat ++ (leBytes 1 f.flags.toNat ++ (dataRep ++
    (leBytes 2 f.fragLength.toNat ++ (leBytes 2 (0 : UInt16).toNat ++ (leBytes 4 f.callId.toNat ++
    (leBytes 4 f.allocHint.toNat ++ (leBytes 2 f.contextId.toNat ++
    (leBytes 1 f.cancelCount.toNat ++ (leBytes 1 f.reserved.toNat ++ f.stub)))))))))))

def isLast (f : Fragment) : Bool := f.flags &&& pfcLastFrag ≠ 0

lemma toNat_fragLength (f : Fragment) : f.fragLength.toNat = 24 + f.stub.length := by
  rw [fragLength, UInt16.toNat_ofNat']
  exact Nat.mod_eq_of_lt f.fits

lemma length_pack (f : Fragment) : f.pack.length = 24 + f.stub.length := by
  simp only [pack, length_append, length_leBytes, dataRep, length_cons, length_nil]
  omega

end Fragment

lemma responseFragment_header (f : Fragment) :
    ∃ pre : Bytes, pre.length = 24 ∧ responseFragment (.new f.pack) =
      responseStub f.flags f.fragLength ⟨pre ++ f.stub, pre.length⟩ := by
  have hstart : ReadCursor.new f.pack = ⟨[] ++ f.pack, ([] : Bytes).length⟩ := rfl
  rw [hstart, responseFragment, expectType, Fragment.pack]
  simp only [bind_assoc]
  rw [readU8_bind, readU8_bind, expect_bind (by decide), readU8_bind, expect_bind (by decide),
    readU8_bind, readBytes_bind (by decide), readU16Le_bind, readU16Le_bind, readU32Le_bind,
    readU32Le_bind, readU16Le_bind, readU8_bind, readU8_bind]
  refine ⟨_, ?_, rfl⟩
  simp only [length_append, length_leBytes, dataRep, length_cons, length_nil]

/-- **A fragment is parsed** to its stub, and to whether it is the last one. -/
theorem parseResponseFragment_pack (f : Fragment) :
    parseResponseFragment f.pack = .ok (f.stub, f.isLast) := by
  obtain ⟨pre, hpre, hheader⟩ := responseFragment_header f
  have hlength := f.toNat_fragLength
  have hnil : pre ++ f.stub = pre ++ (f.stub ++ []) := by rw [append_nil]
  rw [parseResponseFragment, hheader, hnil, responseStub, position_bind]
  dsimp only
  rw [expect_bind (by rw [decide_eq_true_iff]; omega), readBytes_bind (by omega)]
  rfl

end Smb2.Rpc
