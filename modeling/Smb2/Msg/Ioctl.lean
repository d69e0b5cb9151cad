import Smb2.Pack

set_option autoImplicit false

/-!
# IOCTL messages

The bodies of an IOCTL request and of its response (`msg/ioctl.rs`). A response has 48 fixed bytes,
then the output.

* `IoctlResponse.outputData_of_unpack` — where the output of an accepted response was read.

## Implementation notes

Of a request no part is read from the wire, so its fields are kept and its bytes are not. The
response may carry the input again, in front of the output. The reader knows this only from the
offset and count fields, which it skips.
-/

namespace Smb2

structure IoctlRequest where
  ctlCode : UInt32
  fileId : FileId
  maxInputResponse : UInt32
  maxOutputResponse : UInt32
  flags : UInt32
  inputData : Bytes
deriving DecidableEq, Repr

def smb20IoctlIsFsctl : UInt32 := 0x00000001

def fsctlSrvCopychunk : UInt32 := 0x001440F2

structure IoctlResponse where
  ctlCode : UInt32
  fileId : FileId
  flags : UInt32
  outputData : Bytes
deriving DecidableEq, Repr

namespace IoctlResponse

open ReadCursor

def structureSize : UInt16 := 49

def outputOffset (start : ℕ) (r : IoctlResponse) : ℕ :=
  if r.outputData.length % 2 ^ 32 > 0 then start + 48 else 0

def pack (start : ℕ) (r : IoctlResponse) : Bytes :=
  leBytes 2 structureSize.toNat ++ (leBytes 2 0 ++ (leBytes 4 r.ctlCode.toNat ++
    (leBytes 8 r.fileId.persistent.toNat ++ (leBytes 8 r.fileId.volatile.toNat ++
    (leBytes 4 0 ++ (leBytes 4 0 ++
    (leBytes 4 (r.outputOffset start) ++ (leBytes 4 r.outputData.length ++
    (leBytes 4 r.flags.toNat ++ (leBytes 4 0 ++ r.outputData))))))))))

def unpack : Reader IoctlResponse := do
  let size ← readU16Le
  expect (size = structureSize)
    (.invalidData s!"invalid IoctlResponse structure size: expected 49, got {size}")
  let _ ← readU16Le
  let ctlCode ← readU32Le
  let persistent ← readU64Le
  let volatile ← readU64Le
  let _inputOffset ← readU32Le
  let _inputCount ← readU32Le
  let _outputOffset ← readU32Le
  let outputCount ← readU32Le
  let flags ← readU32Le
  let _ ← readU32Le
  let outputData ← readBuffer outputCount.toNat
  return { ctlCode, fileId := { persistent, volatile }, flags, outputData }

/-- **A response that was packed is read back** if its output is within the bound. -/
theorem unpack_pack {start : ℕ} {r : IoctlResponse}
    (hmax : r.outputData.length ≤ maxUnpackBuffer) :
    ∃ c, unpack (.new (r.pack start)) = .ok (r, c) := by
  have hzero2 : leBytes 2 0 = leBytes 2 (0 : UInt16).toNat := rfl
  have hzero4 : leBytes 4 0 = leBytes 4 (0 : UInt32).toNat := rfl
  have hstart (x : Bytes) : ReadCursor.new x = ⟨[] ++ (x ++ []), ([] : Bytes).length⟩ := by
    rw [List.append_nil]
    rfl
  have hnum : (UInt32.ofNat r.outputData.length).toNat = r.outputData.length := by
    rw [UInt32.toNat_ofNat']
    exact Nat.mod_eq_of_lt (Nat.lt_of_le_of_lt hmax (by decide))
  rw [hstart, pack, unpack]
  simp only [List.append_assoc]
  rw [hzero2, hzero4, ← leBytes_ofNat32 (r.outputOffset start),
    ← leBytes_ofNat32 r.outputData.length, readU16Le_bind, expect_bind (by rfl), readU16Le_bind,
    readU32Le_bind, readU64Le_bind, readU64Le_bind, readU32Le_bind, readU32Le_bind,
    readU32Le_bind, readU32Le_bind, readU32Le_bind, readU32Le_bind, hnum,
    readBuffer_bind rfl hmax]
  exact ⟨_, rfl⟩

/-- **The output of an accepted response** is what follows the 48 fixed bytes. -/
theorem outputData_of_unpack {body : Bytes} {r : IoctlResponse} {c : ReadCursor}
    (hok : unpack (.new body) = .ok (r, c)) :
    r.outputData = slice body 48 (48 + leNat (slice body 36 40)) := by
  rw [unpack] at hok
  simp only [readU16Le_then, expect_then, readU32Le_then, readU64Le_then, readBuffer_then,
    pure_eq_ok_pair, toNat_u32_peek] at hok
  obtain ⟨-, -, -, -, -, -, -, -, -, -, -, -, -, -, hr⟩ := hok
  obtain ⟨rfl, -⟩ := Prod.mk.inj hr
  rfl

end IoctlResponse

end Smb2
