import Mathlib.Algebra.GroupWithZero.Nat
import Mathlib.Data.Nat.Notation
import Mathlib.Tactic.Common

set_option autoImplicit false

/-!
# Protocol types and errors

The identifiers, command codes, status codes, header flags, oplock levels and dialects of SMB2
(`types/`), with the source's widths, and the error values the modelled functions return (`error.rs`).
-/

namespace Smb2

abbrev Bytes := List UInt8

abbrev MessageId := UInt64

def MessageId.unsolicited : MessageId := 0xFFFFFFFFFFFFFFFF

abbrev SessionId := UInt64

abbrev TreeId := UInt32

structure FileId where
  persistent : UInt64
  volatile : UInt64
deriving DecidableEq, Repr

/-! ## Formatting

The hexadecimal forms that error texts use. -/

def hexDigit (n : ℕ) : Char :=
  if n < 10 then Char.ofNat (48 + n) else Char.ofNat (55 + n)

/-- `n` in at least `width` upper-case hexadecimal digits (`{:0width$X}`), for `n < 16 ^ width`. -/
def hexPadded (width n : ℕ) : String :=
  String.ofList ((List.range width).reverse.map fun i => hexDigit (n / 16 ^ i % 16))

def hexByte (b : UInt8) : String :=
  String.ofList ([b.toNat / 16, b.toNat % 16].map fun n =>
    if n < 10 then Char.ofNat (48 + n) else Char.ofNat (87 + n))

def hexList (bs : Bytes) : String :=
  "[" ++ ", ".intercalate (bs.map fun b => hexPadded 2 b.toNat) ++ "]"

/-! ## Commands -/

inductive Command
  | negotiate | sessionSetup | logoff | treeConnect | treeDisconnect | create | close | flush
  | read | write | lock | ioctl | cancel | echo | queryDirectory | changeNotify | queryInfo
  | setInfo | oplockBreak
deriving DecidableEq, Repr, Inhabited

namespace Command

def all : List Command :=
  [negotiate, sessionSetup, logoff, treeConnect, treeDisconnect, create, close, flush, read,
    write, lock, ioctl, cancel, echo, queryDirectory, changeNotify, queryInfo, setInfo,
    oplockBreak]

def tryFrom (code : UInt16) : Option Command := all[code.toNat]?

def code (c : Command) : UInt16 := UInt16.ofNat (all.idxOf c)

def debug : Command → String
  | negotiate => "Negotiate"
  | sessionSetup => "SessionSetup"
  | logoff => "Logoff"
  | treeConnect => "TreeConnect"
  | treeDisconnect => "TreeDisconnect"
  | create => "Create"
  | close => "Close"
  | flush => "Flush"
  | read => "Read"
  | write => "Write"
  | lock => "Lock"
  | ioctl => "Ioctl"
  | cancel => "Cancel"
  | echo => "Echo"
  | queryDirectory => "QueryDirectory"
  | changeNotify => "ChangeNotify"
  | queryInfo => "QueryInfo"
  | setInfo => "SetInfo"
  | oplockBreak => "OplockBreak"

lemma tryFrom_code (c : Command) : tryFrom c.code = some c := by
  cases c <;> rfl

end Command

/-! ## Status codes -/

abbrev NtStatus := UInt32

namespace NtStatus

def success : NtStatus := 0x00000000

def pending : NtStatus := 0x00000103

def invalidParameter : NtStatus := 0xC000000D

def moreProcessingRequired : NtStatus := 0xC0000016

def endOfFile : NtStatus := 0xC0000011

def networkSessionExpired : NtStatus := 0xC000035C

def noMoreFiles : NtStatus := 0x80000006

def bufferOverflow : NtStatus := 0x80000005

def severity (status : NtStatus) : UInt32 := status >>> 30

def isSuccessOrPartial (status : NtStatus) : Bool := status.severity = 0 || status = bufferOverflow

end NtStatus

/-! ## Header flags -/

abbrev HeaderFlags := UInt32

namespace HeaderFlags

def serverToRedir : HeaderFlags := 0x00000001

def asyncCommand : HeaderFlags := 0x00000002

def relatedOperations : HeaderFlags := 0x00000004

def signed : HeaderFlags := 0x00000008

def dfsOperations : HeaderFlags := 0x10000000

def contains (flags flag : HeaderFlags) : Bool := flags &&& flag == flag

def isAsync (flags : HeaderFlags) : Bool := contains flags asyncCommand

def isRelated (flags : HeaderFlags) : Bool := contains flags relatedOperations

end HeaderFlags

/-! ## Oplock levels -/

inductive OplockLevel
  | none | levelII | exclusive | batch | lease
deriving DecidableEq, Repr

def OplockLevel.code : OplockLevel → UInt8
  | .none => 0x00
  | .levelII => 0x01
  | .exclusive => 0x08
  | .batch => 0x09
  | .lease => 0xFF

/-! ## Dialects -/

inductive Dialect
  | smb2_0_2 | smb2_1 | smb3_0 | smb3_0_2 | smb3_1_1
deriving DecidableEq, Repr

namespace Dialect

def all : List Dialect := [smb2_0_2, smb2_1, smb3_0, smb3_0_2, smb3_1_1]

def code : Dialect → UInt16
  | smb2_0_2 => 0x0202
  | smb2_1 => 0x0210
  | smb3_0 => 0x0300
  | smb3_0_2 => 0x0302
  | smb3_1_1 => 0x0311

def tryFrom (code : UInt16) : Option Dialect := all.find? (·.code = code)

end Dialect

/-! ## Errors -/

inductive DurableLoss
  | expired
  | identityUnavailable
  | identityMismatch
  | notDurable
deriving DecidableEq, Repr

def DurableLoss.display : DurableLoss → String
  | .expired => "the server no longer has the open"
  | .identityUnavailable => "the server would not say which file the handle points at"
  | .identityMismatch => "the server handed back a different file"
  | .notDurable => "the handle was never durable"

inductive Error
  | invalidData (message : String)
  | auth (message : String)
  | protocol (status : NtStatus) (command : Command)
  | io (message : String)
  | timeout
  | disconnected
  | cancelled
  | sessionExpired
  | durableHandleLost (path : List Char) (reason : DurableLoss)
deriving DecidableEq, Repr, Inhabited

/-- The text of an error (`Display`). The status and the command of a protocol error are
printed by their codes. -/
def Error.display : Error → String
  | .invalidData message => "Invalid data: " ++ message
  | .auth message => "Authentication failed: " ++ message
  | .protocol status command =>
    "Protocol error: 0x" ++ hexPadded 8 status.toNat ++ " during " ++ toString command.code
  | .io message => "I/O error: " ++ message
  | .timeout => "Operation timed out"
  | .disconnected => "Disconnected from server"
  | .cancelled => "Operation cancelled"
  | .sessionExpired => "Session expired and reauthentication failed"
  | .durableHandleLost path reason =>
    "could not reclaim the durable handle for " ++ String.ofList path ++ ": " ++ reason.display

def OplockLevel.tryFrom (value : UInt8) : Except Error OplockLevel :=
  if value = 0x00 then .ok .none
  else if value = 0x01 then .ok .levelII
  else if value = 0x08 then .ok .exclusive
  else if value = 0x09 then .ok .batch
  else if value = 0xFF then .ok .lease
  else .error (.invalidData ("invalid OplockLevel: 0x" ++ hexPadded 2 value.toNat))

lemma OplockLevel.tryFrom_code (level : OplockLevel) : tryFrom level.code = .ok level := by
  cases level <;> rfl

end Smb2
