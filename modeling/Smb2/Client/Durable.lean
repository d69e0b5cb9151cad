import Smb2.Client.Handles.Basic
import Smb2.Msg.Query

set_option autoImplicit false

/-!
# Durable handles

`client/durable.rs`: a file is opened with the request to keep the handle across a disconnect, and a
handle is claimed back after one. In both cases CREATE goes out with two QUERY_INFO in the same
frame, whose answers say which file it is.

## Implementation notes

What the requests carry is in `Smb2.Client.Durable.Reclaim`, the table of granted oplocks in
`Smb2.Client.Durable.Oplocks`. The GUID and the generation of the connection are arguments.
-/

namespace Smb2

open Connection (Frame)
open Exchange
open Handles
open Prog (fail lift)

structure FileIdentity where
  volumeSerial : UInt32
  indexNumber : UInt64
deriving DecidableEq, Repr

namespace FileIdentity

def fsVolumeSerialOffset : ℕ := 8

def payload (frame : Frame) : Option Bytes :=
  if frame.header.status ≠ NtStatus.success then none
  else (QueryInfoResponse.unpack (.new frame.body)).toOption.map (·.1.outputBuffer)

def fromFrames (index volume : Option Frame) : Option FileIdentity := do
  let body ← payload (← index)
  let (indexNumber, _) ← (ReadCursor.readU64Le (.new body)).toOption
  let volumeSerial := (volume.bind payload).bind fun body =>
    let field := slice body fsVolumeSerialOffset (fsVolumeSerialOffset + 4)
    if field.length = 4 then some (UInt32.ofNat (leNat field)) else none
  return ⟨volumeSerial.getD 0, indexNumber⟩

end FileIdentity

structure DurableHandle where
  fileId : FileId
  grant : DurableGrant
  identity : FileIdentity
  createGuid : Guid
  generation : UInt64
deriving DecidableEq, Repr

def DurableHandle.isCurrent (handle : DurableHandle) (generation : UInt64) : Bool :=
  handle.generation == generation

structure DurableOpen where
  fileId : FileId
  size : UInt64
  durable : Option DurableHandle
deriving DecidableEq, Repr

namespace Durable

/-- `create_and_identify`, from the responses to the compound on. A QUERY_INFO may fail. -/
def createAndIdentify (responses : Responses) : Except Error (Frame × Option FileIdentity) := do
  let frames := (← responses).map Except.toOption
  match frames.head?.join with
  | none => throw (.invalidData "compound CREATE produced no response")
  | some create =>
    if create.header.status ≠ NtStatus.success then
      throw (.protocol create.header.status .create)
    return (create, FileIdentity.fromFrames frames[1]?.join frames[2]?.join)

/-- `open_file_durable`. A handle is durable if the server grants it and says which file it is. -/
def openFileDurable (createGuid : Guid) (generation : UInt64) (responses : Responses) :
    LinkM DurableOpen := do
  post .durableCompound (firstOf responses)
  let (create, identity) ← lift (createAndIdentify responses)
  let (resp, _) ← lift (CreateResponse.unpack (.new create.body))
  let grant ← lift (DurableGrant.ofContexts resp.createContexts)
  let durable := match grant, identity with
    | some grant, some identity => some ⟨resp.fileId, grant, identity, createGuid, generation⟩
    | _, _ => none
  return ⟨resp.fileId, resp.endOfFile, durable⟩

def reclaimed (path : List Char) (responses : Responses) :
    Except Error (Frame × Option FileIdentity) :=
  match createAndIdentify responses with
  | .error (.protocol _ _) => .error (.durableHandleLost path .expired)
  | result => result

/-- `reclaim_durable_handle`: a handle on another file, or on one the server does not name, is
closed. -/
def reclaimDurableHandle (handle : DurableHandle) (path : List Char) (generation : UInt64)
    (responses : Responses) : LinkM DurableHandle := do
  post .reclaimCompound (firstOf responses)
  let (create, identity) ← lift (reclaimed path responses)
  let (resp, _) ← lift (CreateResponse.unpack (.new create.body))
  match identity with
  | none => do
    bestEffortClose resp.fileId
    fail (.durableHandleLost path .identityUnavailable)
  | some identity =>
    if identity ≠ handle.identity then do
      bestEffortClose resp.fileId
      fail (.durableHandleLost path .identityMismatch)
    else return { handle with fileId := resp.fileId, generation }

/-! ## What becomes of the handle -/

lemma createResponse_firstOf {responses : Responses} {resp : CreateResponse} :
    createResponse (firstOf responses) = .ok resp ↔
      ∃ create identity c, createAndIdentify responses = .ok (create, identity) ∧
        CreateResponse.unpack (.new create.body) = .ok (resp, c) := by
  match responses with
  | .error e => exact ⟨fun h => (by cases h), fun ⟨_, _, _, h, _⟩ => (by cases h)⟩
  | .ok [] => exact ⟨fun h => (by cases h), fun ⟨_, _, _, h, _⟩ => (by cases h)⟩
  | .ok (.error e :: rest) => exact ⟨fun h => (by cases h), fun ⟨_, _, _, h, _⟩ => (by cases h)⟩
  | .ok (.ok frame :: rest) =>
    by_cases hstatus : frame.header.status = NtStatus.success
    · have hidentify : createAndIdentify (.ok (.ok frame :: rest)) =
          .ok (frame, FileIdentity.fromFrames (rest.map Except.toOption)[0]?.join
            (rest.map Except.toOption)[1]?.join) := by
        simp [createAndIdentify, bind, Except.bind, pure, Except.pure, Except.toOption, hstatus]
      simp only [hidentify, firstOf, createResponse, bind, Except.bind, hstatus, ne_eq,
        not_true_eq_false, if_false, pure, Except.pure]
      cases hunpack : CreateResponse.unpack (.new frame.body) with
      | error e => simp [hunpack]
      | ok parsed =>
        obtain ⟨found, c⟩ := parsed
        simp [hunpack]
    · simp [createAndIdentify, firstOf, createResponse, bind, Except.bind, Except.toOption, hstatus,
        throw, throwThe, MonadExceptOf.throw]

/-- **An open for a durable handle** hands the handle out, unless the create contexts of the response
cannot be read: then it returns the error, and the handle stays open. -/
theorem openFileDurable_leaves (createGuid : Guid) (generation : UInt64) (responses : Responses) :
    Leaves (openFileDurable createGuid generation responses) fun x new =>
      ∀ file, Opened file new →
        (((∃ opened, x = .ok opened ∧ opened.fileId = file) ∨ Closed file new) ↔ Sound new) := by
  refine Leaves.post_bind (Leaves.lift_bind (fun ⟨create, identity⟩ hcreate =>
    Leaves.lift_bind (fun ⟨resp, c⟩ hunpack => ?_) fun e herror file hopened => ?_)
    fun e herror file hopened => ?_)
  · have hresp := createResponse_firstOf.2 ⟨create, identity, c, hcreate, hunpack⟩
    refine Leaves.lift_bind (fun grant hgrant => Leaves.pure fun file hopened => ?_)
      fun e herror file hopened => ?_
    · obtain ⟨_, hfile, rfl⟩ := opened_cons.1 hopened
      obtain rfl := Except.ok.inj (hresp.symm.trans hfile)
      refine iff_of_true (.inl ⟨_, rfl, rfl⟩) ?_
      simp only [sound_cons, sound_nil, and_true]
      intro other hother
      obtain rfl := Except.ok.inj (hresp.symm.trans hother)
      exact ⟨grant, hgrant⟩
    · refine iff_of_false (by simp) fun hsound => ?_
      obtain ⟨grant, hgrant⟩ := (sound_cons.1 hsound).1 resp hresp
      cases herror.symm.trans hgrant
  · obtain ⟨_, hfile, rfl⟩ := opened_cons.1 hopened
    obtain ⟨_, _, _, hcreate', hunpack⟩ := createResponse_firstOf.1 hfile
    obtain ⟨rfl, -⟩ := Prod.mk.inj (Except.ok.inj (hcreate.symm.trans hcreate'))
    cases herror.symm.trans hunpack
  · obtain ⟨_, hfile, rfl⟩ := opened_cons.1 hopened
    obtain ⟨_, _, _, hcreate, -⟩ := createResponse_firstOf.1 hfile
    cases herror.symm.trans hcreate

lemma reclaimed_eq_ok {path : List Char} {responses : Responses}
    {found : Frame × Option FileIdentity} :
    reclaimed path responses = .ok found ↔ createAndIdentify responses = .ok found := by
  unfold reclaimed
  split
  · rename_i herror
    simp [herror]
  · rfl

/-- **A reclaim** hands the handle out or closes it. -/
theorem reclaimDurableHandle_leaves (handle : DurableHandle) (path : List Char)
    (generation : UInt64) (responses : Responses) :
    Leaves (reclaimDurableHandle handle path generation responses) fun x new =>
      ∀ file, Opened file new →
        (((∃ handle', x = .ok handle' ∧ handle'.fileId = file) ∨ Closed file new) ↔ Sound new) := by
  refine Leaves.post_bind (Leaves.lift_bind (fun ⟨create, identity⟩ hcreate =>
    Leaves.lift_bind (fun ⟨resp, c⟩ hunpack => ?_) fun e herror file hopened => ?_)
    fun e herror file hopened => ?_)
  · have hresp := createResponse_firstOf.2
      ⟨create, identity, c, reclaimed_eq_ok.1 hcreate, hunpack⟩
    suffices hrest : Leaves _ fun x more => ((∃ handle' : DurableHandle, x = .ok handle' ∧
        handle'.fileId = resp.fileId) ∨ Closed resp.fileId more) ∧ Sound more by
      refine hrest.weaken fun x more hmore file hopened => ?_
      obtain ⟨_, hfile, rfl⟩ := opened_cons.1 hopened
      obtain rfl := Except.ok.inj (hresp.symm.trans hfile)
      exact iff_of_true (hmore.1.imp id fun h => closed_cons.2 (.inr h))
        (sound_cons.2 ⟨trivial, hmore.2⟩)
    have hclose : ∀ e, Leaves (do bestEffortClose resp.fileId; fail e) fun x more =>
        ((∃ handle' : DurableHandle, x = .ok handle' ∧ handle'.fileId = resp.fileId) ∨
          Closed resp.fileId more) ∧ Sound more := by
      intro e
      exact bestEffortClose_bind fun answer => Leaves.fail (by simp [Request.Needs])
    cases identity with
    | none => exact hclose _
    | some identity =>
      exact Leaves.ite (fun _ => hclose _) fun _ => Leaves.pure ⟨.inl ⟨_, rfl, rfl⟩, sound_nil⟩
  · obtain ⟨_, hfile, rfl⟩ := opened_cons.1 hopened
    obtain ⟨_, _, _, hcreate', hunpack⟩ := createResponse_firstOf.1 hfile
    obtain ⟨rfl, -⟩ := Prod.mk.inj
      (Except.ok.inj ((reclaimed_eq_ok.1 hcreate).symm.trans hcreate'))
    cases herror.symm.trans hunpack
  · obtain ⟨_, hfile, rfl⟩ := opened_cons.1 hopened
    obtain ⟨_, _, _, hcreate, -⟩ := createResponse_firstOf.1 hfile
    cases herror.symm.trans (reclaimed_eq_ok.2 hcreate)

end Durable

end Smb2
