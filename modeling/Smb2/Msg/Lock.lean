import Smb2.Memory.Meter

set_option autoImplicit false

/-!
# LOCK requests

The body of a LOCK request (`msg/lock.rs`), 24 fixed bytes and as many ranges as the lock count says,
and its parser with the memory that it reserves.
-/

namespace Smb2

open ReadCursor Metered Memory

structure LockElement where
  offset : UInt64
  length : UInt64
  flags : UInt32
deriving DecidableEq, Repr

def LockElement.unpack : Reader LockElement := do
  let offset ← readU64Le
  let length ← readU64Le
  let flags ← readU32Le
  let _reserved ← readU32Le
  return { offset, length, flags }

structure LockRequest where
  lockSequence : UInt32
  fileId : FileId
  locks : List LockElement
deriving DecidableEq, Repr

namespace LockRequest

def structureSize : UInt16 := 48

def lockElementSize : ℕ := 24

def unpack : Meter LockRequest := do
  let size ← free readU16Le
  free (expect (size = structureSize)
    (.invalidData s!"invalid LockRequest structure size: expected 48, got {size}"))
  let lockCount ← free readU16Le
  let lockSequence ← free readU32Le
  let persistent ← free readU64Le
  let volatile ← free readU64Le
  charge (lockElementSize * lockCount.toNat)
  let locks ← times (free LockElement.unpack) lockCount.toNat
  return { lockSequence, fileId := { persistent, volatile }, locks }

lemma pays_unpack {q : Bool} : Pays remaining 0 0 (24 * 65535) (24 * 65535) q unpack := by
  have hlock : Pays remaining 0 0 0 0 q (free LockElement.unpack) :=
    .free (eats_readU64Le.bind fun _ => eats_readU64Le.bind fun _ => eats_readU32Le.bind fun _ =>
      eats_readU32Le.bind fun _ => .pure _) (Nat.zero_le _)
  refine .free_bind eats_readU16Le fun size => .free_bind (eats_expect _ _) fun _ =>
    .free_bind eats_readU16Le fun lockCount => .free_bind eats_readU32Le fun _ =>
    .free_bind eats_readU64Le fun _ => .free_bind eats_readU64Le fun _ => ?_
  have hcount := lockCount.toNat_lt
  refine .charge_bind (by simp only [lockElementSize]; omega)
    (by simp only [lockElementSize]; omega) ?_
  exact ((hlock.times _).weaken (by omega) (Nat.zero_le _)).seq fun _ => .ret _ (Nat.zero_le _)

end LockRequest

end Smb2
