import Smb2.Auth.Kerberos.Ccache
import Smb2.Memory.Parsers
import Smb2.Msg.Dfs
import Smb2.Msg.Lock

set_option autoImplicit false

/-!
# Bounds on the memory that parsers reserve

A parser should reserve no more than its input pays for: so much for a byte, and the 16 MiB that a
length field of the wire may ask for in any case. Of the parsers here, those whose counts have 16 bits
keep to that. The other three reserve room for as many elements as a 32-bit field says, and read the
elements afterwards.
-/

namespace Smb2.Memory

open ReadCursor Metered Charge

inductive Parser
  | shareEnum
  | copychunk
  | lock
  | negotiateRequest
  | negotiateResponse
  | dfsReferral
  | ccache
deriving DecidableEq, Repr

namespace Parser

/-- **What a parser reserves** while it reads an input, whatever becomes of it. -/
def reserved : Parser → Bytes → List Charge
  | shareEnum, data => charges netShareEnumAll (.new data)
  | copychunk, data => charges srvCopychunkCopy (.new data)
  | lock, data => charges LockRequest.unpack (.new data)
  | negotiateRequest, data => charges Memory.negotiateRequest (.new data)
  | negotiateResponse, data => charges Memory.negotiateResponse (.new data)
  | dfsReferral, data => charges DfsWire.RespGetDfsReferral.unpack (.new data)
  | ccache, data => charges (Ccache.parseCcache data) (.new data)

def price : Parser → ℕ
  | shareEnum => 6
  | copychunk => 1
  | lock => 0
  | negotiateRequest => 1
  | negotiateResponse => 1
  | dfsReferral => 983025
  | ccache => 6

/-- **What the input pays for**: the price of its bytes, and the largest buffer that a length field
may ask for. -/
def allowance (p : Parser) (data : Bytes) : ℕ := p.price * data.length + maxUnpackBuffer

/-- **A parser keeps to the allowance**: no reservation goes beyond it, and all of them together are
at most twice as much. -/
def Modest (p : Parser) (data : Bytes) : Prop :=
  (∀ c ∈ p.reserved data, c.amount ≤ p.allowance data) ∧
    total (p.reserved data) ≤ 2 * p.allowance data

/-- **The 32-bit counts** that a parser meets in an input, for which it makes room before it reads
what they count. -/
def announced : Parser → Bytes → List ℕ
  | shareEnum, data => found announcedShares (.new data)
  | copychunk, data => found announcedChunks (.new data)
  | ccache, data => Ccache.announced data
  | _, _ => []

def elementSize : Parser → ℕ
  | shareEnum => rawEntrySize
  | copychunk => srvCopychunkSize
  | ccache => Ccache.stringSize
  | _ => 0

lemma accounted_reserved (p : Parser) (data : Bytes) :
    Accounted (p.allowance data) (p.reserved data) := by
  have hpaid {k b : ℕ} {l : List Charge} (hb : b ≤ maxUnpackBuffer)
      (h : Accounted (k * data.length + b) l) : Accounted (k * data.length + maxUnpackBuffer) l := by
    obtain ⟨r, hr, htotal⟩ := h
    exact ⟨r, hr, by omega⟩
  cases p with
  | shareEnum => exact hpaid (by decide) (pays_netShareEnumAll.accounted le_rfl _)
  | copychunk => exact hpaid (by decide) (pays_srvCopychunkCopy.accounted le_rfl _)
  | lock => exact hpaid (by decide) ((LockRequest.pays_unpack (q := true)).accounted le_rfl _)
  | negotiateRequest => exact hpaid (by decide) ((pays_negotiateRequest (q := true)).accounted le_rfl _)
  | negotiateResponse => exact hpaid (by decide) ((pays_negotiateResponse (q := true)).accounted le_rfl _)
  | dfsReferral => exact hpaid (by decide) (DfsWire.accounted_unpack _)
  | ccache => exact hpaid (by decide) (Ccache.accounted_parseCcache data _)

lemma aheads_reserved (p : Parser) (data : Bytes) :
    aheads (p.reserved data) = (p.announced data).map (p.elementSize * ·) := by
  cases p with
  | shareEnum => exact aheads_netShareEnumAll _
  | copychunk => exact aheads_srvCopychunkCopy _
  | lock => exact LockRequest.pays_unpack.secured rfl _
  | negotiateRequest => exact pays_negotiateRequest.secured rfl _
  | negotiateResponse => exact pays_negotiateResponse.secured rfl _
  | dfsReferral => exact DfsWire.secured_unpack _
  | ccache => exact Ccache.aheads_parseCcache data

/-- **Counts and memory.** What a parser reserves for an input keeps to the allowance exactly if every
32-bit count that the parser meets there is one for which the room keeps to it. -/
theorem modest_iff (p : Parser) (data : Bytes) :
    p.Modest data ↔ ∀ n ∈ p.announced data, p.elementSize * n ≤ p.allowance data := by
  rw [Modest, (p.accounted_reserved data).bounded_iff, p.aheads_reserved]
  exact List.forall_mem_map

def manyShares : Bytes :=
  leBytes 4 1 ++ leBytes 4 1 ++ leBytes 4 0x20000 ++ leBytes 4 0xFFFFFFFF ++ leBytes 4 0x20004 ++
    leBytes 4 0xFFFFFFFF

theorem reserved_manyShares :
    manyShares.length = 24 ∧ aheads (shareEnum.reserved manyShares) = [51539607540] ∧
      shareEnum.allowance manyShares = 16777360 ∧ ¬ shareEnum.Modest manyShares := by
  have haheads : aheads (shareEnum.reserved manyShares) = [51539607540] := by
    rw [aheads_reserved]
    decide +kernel
  have hallowance : shareEnum.allowance manyShares = 16777360 := by decide +kernel
  refine ⟨rfl, haheads, hallowance, fun hmodest => ?_⟩
  have hroom := ((shareEnum.accounted_reserved manyShares).bounded_iff.1 hmodest) 51539607540
    (by rw [haheads]; exact List.mem_cons_self)
  rw [hallowance] at hroom
  omega

end Parser

end Smb2.Memory
