import Smb2.Client.FileReader
import Smb2.Client.Handles.Basic

set_option autoImplicit false

/-!
# What a transfer is charged

A READ, WRITE or QUERY_DIRECTORY carries a `CreditCharge`, which the server takes for the number of
64 KB units of its payload. The calls of `client/tree.rs`, `client/stream.rs` and `client/mod.rs`
each divide a length by 65536, rounding up, and cast the quotient to `u16`; the connection replaces
zero by one.
-/

namespace Smb2

open Tree (ReadPlan WritePlan)

def divCeil (n : ℕ) : UInt16 := UInt16.ofNat ((n + 65535) / 65536)

def divCeilMax (n : ℕ) : UInt16 := UInt16.ofNat (max ((n + 65535) / 65536) 1)

/-- **A READ, WRITE or QUERY_DIRECTORY**, with what decides its payload and its charge. -/
inductive Transfer
  | readFileCompound (maxRead : UInt32)
  | writeFileCompound (data : Bytes)
  | readPipelined (plan : ReadPlan) (i : ℕ) (hi : i < plan.totalChunks)
  | writePipelined (maxWrite : UInt32) (hpos : 0 < maxWrite.toNat) (data : Bytes) (i : ℕ)
  | writeStreamed (piece : Bytes)
  | writeWithProgress (remaining : ℕ) (maxWrite : UInt32)
  | fileReader (r : FileReader) (stop pos : UInt64)
  | fileWriter (data : Bytes)
  | fileUpload (remaining : ℕ) (chunkSize : UInt32)
  | fileDownload (remaining : UInt64) (chunkSize : UInt32)
  | queryDirectory (outputBufferLength : UInt32)

namespace Transfer

def length : Transfer → ℕ
  | readFileCompound maxRead => maxRead.toNat
  | writeFileCompound data | writeStreamed data | fileWriter data => data.length
  | readPipelined plan i _ => plan.thisChunk i
  | writePipelined maxWrite hpos data i =>
    ((⟨data, maxWrite.toNat, hpos⟩ : WritePlan).buildReq i).data.length
  | writeWithProgress remaining size | fileUpload remaining size => min remaining size.toNat
  | fileReader r stop pos => (r.request stop pos).length.toNat
  | fileDownload remaining chunkSize => min remaining.toNat chunkSize.toNat
  | queryDirectory outputBufferLength => outputBufferLength.toNat

def charged : Transfer → ℕ
  | readPipelined plan _ _ => plan.chunkSize
  | writePipelined maxWrite _ _ _ => maxWrite.toNat
  | t => t.length

def requested : Transfer → UInt16
  | t@(readFileCompound _) | t@(readPipelined ..) | t@(writePipelined ..) => divCeil t.charged
  | fileReader r stop pos => (r.request stop pos).creditCharge
  | t => divCeilMax t.charged

/-- **The `CreditCharge` of the header**: `credit_charge.0.max(1)`. -/
def creditCharge (t : Transfer) : UInt16 := max t.requested 1

lemma toNat_creditCharge (t : Transfer) :
    t.creditCharge.toNat = max ((t.charged + 65535) / 65536 % 65536) 1 := by
  have hmax : ∀ a : UInt16, (max a 1).toNat = max a.toNat 1 := by
    intro a
    show (if a ≤ 1 then 1 else a).toNat = _
    split <;> simp only [UInt16.le_iff_toNat_le, UInt16.toNat_one] at * <;> omega
  have hrequested : t.requested = divCeil t.charged ∨ t.requested = divCeilMax t.charged := by
    cases t <;> first | exact .inl rfl | exact .inr rfl
  rw [creditCharge, hmax]
  rcases hrequested with h | h
  · rw [h, divCeil, UInt16.toNat_ofNat']
  · rw [h, divCeilMax, UInt16.toNat_ofNat']
    omega

lemma length_le_charged (t : Transfer) :
    t.length = t.charged ∨ t.length ≤ t.charged ∧ t.charged < 2 ^ 32 := by
  cases t with
  | readPipelined plan i hi =>
    refine .inr ⟨?_, plan.chunkSize_lt⟩
    rw [length, charged, ReadPlan.thisChunk_eq hi]
    exact min_le_left ..
  | writePipelined maxWrite hpos data i =>
    refine .inr ⟨?_, maxWrite.toNat_lt⟩
    simp only [length, charged, WritePlan.length_buildReq]
    omega
  | _ => exact .inl rfl

/-- **When the charge covers the payload**: exactly if the length that it is computed from is at most
65535 units of 64 KB, or the payload is a single unit. -/
theorem charge_covers_iff (t : Transfer) :
    t.length ≤ t.creditCharge.toNat * 65536 ↔
      t.charged ≤ 65535 * 65536 ∨ t.length ≤ 65536 := by
  rw [toNat_creditCharge]
  have hle := t.length_le_charged
  omega

/-- **A payload of almost 4 GB is charged one credit.** -/
theorem undercharged_read :
    (readFileCompound 0xFFFFFFFF).creditCharge = 1 ∧
      (readFileCompound 0xFFFFFFFF).length = 65535 * 65536 + 65535 := by
  decide

end Transfer

end Smb2
