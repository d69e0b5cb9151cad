import Smb2.Msg.Negotiate

set_option autoImplicit false

/-!
# Create contexts

The chain of named blobs that a CREATE carries (`msg/create_context.rs`), and the ones with which a
durable handle is asked for, granted and claimed back.
-/

open List

namespace Smb2

structure CreateContext where
  name : Bytes
  data : Bytes
deriving DecidableEq, Repr

namespace CreateContext

open ReadCursor

def nameDh2q : Bytes := [0x44, 0x48, 0x32, 0x51]

def nameDh2c : Bytes := [0x44, 0x48, 0x32, 0x43]

structure EntryHeader where
  next : ℕ
  nameOffset : ℕ
  nameLength : ℕ
  dataOffset : ℕ
  dataLength : ℕ
deriving DecidableEq, Repr

def EntryHeader.unpack : Reader EntryHeader := do
  let next ← readU32Le
  let nameOffset ← readU16Le
  let nameLength ← readU16Le
  let _ ← readU16Le
  let dataOffset ← readU16Le
  let dataLength ← readU32Le
  return ⟨next.toNat, nameOffset.toNat, nameLength.toNat, dataOffset.toNat, dataLength.toNat⟩

def parseEntry (buf : Bytes) : Except Error (CreateContext × ℕ) := do
  let (entry, _) ← EntryHeader.unpack (.new buf)
  let entryLen := if entry.next = 0 then buf.length else entry.next
  if entry.next ≠ 0 ∧ buf.length < entry.next then
    throw (.invalidData "create context Next points past the end of the chain")
  let nameEnd := entry.nameOffset + entry.nameLength
  if entryLen < nameEnd then
    throw (.invalidData "create context name runs past the entry")
  let dataEnd := entry.dataOffset + entry.dataLength
  if entry.dataLength ≠ 0 ∧ entryLen < dataEnd then
    throw (.invalidData "create context data runs past the entry")
  let data := if entry.dataLength = 0 then [] else slice buf entry.dataOffset dataEnd
  return (⟨slice buf entry.nameOffset nameEnd, data⟩, entry.next)

def parseFrom : ℕ → Bytes → List CreateContext → Except Error (List CreateContext)
  | 0, _, _ => .error (.invalidData "too many create contexts")
  | n + 1, buf, out =>
    if buf.length < 16 then
      if buf = [] then .ok out
      else .error (.invalidData "create context chain ends inside an entry header")
    else
      match parseEntry buf with
      | .error e => .error e
      | .ok (context, next) =>
        if next = 0 then .ok (out ++ [context])
        else parseFrom n (buf.drop next) (out ++ [context])

def parseContexts (buf : Bytes) : Except Error (List CreateContext) :=
  parseFrom (buf.length + 1) buf []

variable {n : ℕ} {ctx : CreateContext}

def find (contexts : List CreateContext) (name : Bytes) : Option CreateContext :=
  contexts.find? (·.name = name)

/-! ## Packing -/

def align8 (n : ℕ) : ℕ := (n + 7) / 8 * 8

def resize (bs : Bytes) (n : ℕ) : Bytes := bs.take n ++ replicate (n - bs.length) 0

def dataOffset (ctx : CreateContext) : UInt16 :=
  if ctx.data = [] then 0 else UInt16.ofNat (align8 (16 + ctx.name.length))

def packHeader (next : ℕ) (ctx : CreateContext) : Bytes :=
  leBytes 4 next ++ (leBytes 2 16 ++ (leBytes 2 ctx.name.length ++ (leBytes 2 0 ++
    (leBytes 2 ctx.dataOffset.toNat ++ leBytes 4 ctx.data.length))))

def packEntry (ctx : CreateContext) : Bytes :=
  let bytes := packHeader 0 ctx ++ ctx.name
  if ctx.data = [] then bytes else resize bytes ctx.dataOffset.toNat ++ ctx.data

/-- The entries one after the other, each padded to 8 bytes; `Next` is filled in for all but the
last. -/
def chain : List Bytes → Bytes
  | [] => []
  | [bytes] => resize bytes (align8 bytes.length)
  | bytes :: next :: rest =>
    let padded := resize bytes (align8 bytes.length)
    leBytes 4 padded.length ++ padded.drop 4 ++ chain (next :: rest)

def packContexts (contexts : List CreateContext) : Bytes := chain (contexts.map packEntry)

/-- **A context that can be packed**: its name ends where a 16-bit offset reaches, and its entry is
shorter than 4 GiB. -/
def Fits (ctx : CreateContext) : Prop :=
  align8 (16 + ctx.name.length) ≤ 65535 ∧ align8 (packEntry ctx).length < 2 ^ 32

end CreateContext

structure DurableGrant where
  timeoutMs : UInt32
  persistent : Bool
deriving DecidableEq, Repr

namespace DurableGrant

open ReadCursor

def flagPersistent : UInt32 := 0x00000002

def fromBytes : Reader DurableGrant := do
  let timeoutMs ← readU32Le
  let flags ← readU32Le
  return ⟨timeoutMs, flags &&& flagPersistent ≠ 0⟩

def ofContexts (createContexts : Bytes) : Except Error (Option DurableGrant) := do
  let answered ← CreateContext.parseContexts createContexts
  match CreateContext.find answered CreateContext.nameDh2q with
  | none => return none
  | some context =>
    let (grant, _) ← fromBytes (.new context.data)
    return some grant

end DurableGrant

def persistentFlag (persistent : Bool) : UInt32 :=
  if persistent then DurableGrant.flagPersistent else 0

structure DurableRequestV2 where
  timeoutMs : UInt32
  persistent : Bool
  createGuid : Guid
deriving DecidableEq, Repr

namespace DurableRequestV2

def toBytes (request : DurableRequestV2) : Bytes :=
  leBytes 4 request.timeoutMs.toNat ++ (leBytes 4 (persistentFlag request.persistent).toNat ++
    (leBytes 8 0 ++ request.createGuid.pack))

def context (request : DurableRequestV2) : CreateContext :=
  ⟨CreateContext.nameDh2q, request.toBytes⟩

end DurableRequestV2

structure DurableReconnectV2 where
  fileId : FileId
  createGuid : Guid
  persistent : Bool
deriving DecidableEq, Repr

namespace DurableReconnectV2

def toBytes (reconnect : DurableReconnectV2) : Bytes :=
  leBytes 8 reconnect.fileId.persistent.toNat ++ (leBytes 8 reconnect.fileId.volatile.toNat ++
    (reconnect.createGuid.pack ++ leBytes 4 (persistentFlag reconnect.persistent).toNat))

def context (reconnect : DurableReconnectV2) : CreateContext :=
  ⟨CreateContext.nameDh2c, reconnect.toBytes⟩

end DurableReconnectV2

namespace CreateContext

end CreateContext

end Smb2
