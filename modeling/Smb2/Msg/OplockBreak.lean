import Smb2.Pack

set_option autoImplicit false

/-!
# Oplock break messages

The 24-byte body that an oplock break notification, its acknowledgment and the server's response
to that share (`msg/oplock_break.rs`).
-/

namespace Smb2

structure OplockBreak where
  oplockLevel : OplockLevel
  fileId : FileId
deriving DecidableEq, Repr

namespace OplockBreak

open ReadCursor

def structureSize : UInt16 := 24

def unpack : Reader OplockBreak := do
  let size ← readU16Le
  expect (size = structureSize)
    (.invalidData s!"invalid OplockBreak structure size: expected 24, got {size}")
  let oplockLevel ← liftM (OplockLevel.tryFrom (← readU8))
  let _ ← readU8
  let _ ← readU32Le
  let persistent ← readU64Le
  let volatile ← readU64Le
  return { oplockLevel, fileId := { persistent, volatile } }

end OplockBreak

end Smb2
