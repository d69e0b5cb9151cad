import Smb2.Pack

set_option autoImplicit false

/-!
# Tree connect responses

The body of a TREE_CONNECT response (`msg/tree_connect.rs`): sixteen bytes about the share.
-/

namespace Smb2

inductive ShareType
  | disk | pipe | print
deriving DecidableEq, Repr

def ShareType.tryFromU8 (val : UInt8) : Except Error ShareType :=
  if val = 0x01 then .ok .disk
  else if val = 0x02 then .ok .pipe
  else if val = 0x03 then .ok .print
  else .error (.invalidData ("invalid share type: 0x" ++ hexPadded 2 val.toNat))

structure TreeConnectResponse where
  shareType : ShareType
  shareFlags : UInt32
  capabilities : UInt32
  maximalAccess : UInt32
deriving DecidableEq, Repr

namespace TreeConnectResponse

open ReadCursor

def structureSize : UInt16 := 16

def unpack : Reader TreeConnectResponse := do
  let size ← readU16Le
  expect (size = structureSize)
    (.invalidData s!"invalid TreeConnectResponse structure size: expected 16, got {size}")
  let shareType ← liftM (ShareType.tryFromU8 (← readU8))
  let _reserved ← readU8
  let shareFlags ← readU32Le
  let capabilities ← readU32Le
  let maximalAccess ← readU32Le
  return { shareType, shareFlags, capabilities, maximalAccess }

end TreeConnectResponse

end Smb2
