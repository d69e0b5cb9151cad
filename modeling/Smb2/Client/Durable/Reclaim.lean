import Smb2.Client.Durable
import Smb2.Client.Tree.Basic

set_option autoImplicit false

/-!
# What a reclaim proves

`open_file_durable` and `reclaim_durable_handle` with the requests they send: a CREATE, with the
request for a durable handle or with the claim to one, and two QUERY_INFO about the file behind it.
A server answers the compound with whatever it likes. A handle that has come out of an open and any
number of reclaims still has the GUID that the open has sent and the identity that it was told.
-/

namespace Smb2

open Connection (Frame)
open Exchange (Leaves)
open Handles

def FileId.sentinel : FileId := ⟨0xFFFFFFFFFFFFFFFF, 0xFFFFFFFFFFFFFFFF⟩

namespace FileIdentity

def fileInternalInformation : UInt8 := 6

def fsVolumeInformation : UInt8 := 1

def indexQuery : QueryInfoRequest := ⟨.file, fileInternalInformation, 8, 0, 0, .sentinel, []⟩

def volumeQuery : QueryInfoRequest := ⟨.filesystem, fsVolumeInformation, 128, 0, 0, .sentinel, []⟩

end FileIdentity

namespace Durable

inductive RequestBody
  | create (request : CreateRequest)
  | queryInfo (request : QueryInfoRequest)
deriving DecidableEq

structure CompoundOp where
  command : Command
  body : RequestBody
  treeId : Option TreeId
  creditCharge : ℕ
deriving DecidableEq

def compound (tree : Tree) (request : CreateRequest) : List CompoundOp :=
  [⟨.create, .create request, some tree.treeId, 1⟩,
    ⟨.queryInfo, .queryInfo FileIdentity.indexQuery, some tree.treeId, 1⟩,
    ⟨.queryInfo, .queryInfo FileIdentity.volumeQuery, some tree.treeId, 1⟩]

/-- The fields that an open and a reclaim have in common: access to data and attributes, and others
may read and write. -/
def fileRequest (tree : Tree) (path : List Char) : CreateRequest where
  requestedOplockLevel := .batch
  impersonationLevel := .impersonation
  desiredAccess := 0x00000001 ||| 0x00000002 ||| 0x00000080 ||| 0x00000100 ||| 0x00100000
  fileAttributes := 0x00000080
  shareAccess := 0x00000001 ||| 0x00000002
  createDisposition := .fileOpen
  createOptions := 0x00000040
  name := tree.formatPath path
  createContexts := []

/-- The CREATE of `open_file_durable`. Below SMB 3.0 it asks for no durable handle, and for no
oplock. -/
def openRequest (tree : Tree) (dialect : Option Dialect) (createGuid : Guid) (path : List Char) :
    CreateRequest :=
  let durablePossible := dialect.any fun d => Dialect.smb3_0.code ≤ d.code
  { fileRequest tree path with
    requestedOplockLevel := if durablePossible then .batch else .none
    createDisposition := .fileOpenIf
    createContexts :=
      if durablePossible then
        CreateContext.packContexts [(⟨0, false, createGuid⟩ : DurableRequestV2).context]
      else [] }

def reconnect (handle : DurableHandle) : DurableReconnectV2 :=
  ⟨handle.fileId, handle.createGuid, handle.grant.persistent⟩

def reclaimRequest (tree : Tree) (handle : DurableHandle) (path : List Char) : CreateRequest :=
  { fileRequest tree path with
    createContexts := CreateContext.packContexts [(reconnect handle).context] }

abbrev Server := List CompoundOp → Responses

end Durable

namespace Tree

open Durable

def openFileDurable (tree : Tree) (dialect : Option Dialect) (createGuid : Guid)
    (generation : UInt64) (server : Server) (path : List Char) : LinkM DurableOpen :=
  Durable.openFileDurable createGuid generation
    (server (compound tree (openRequest tree dialect createGuid path)))

def reclaimDurableHandle (tree : Tree) (server : Server) (handle : DurableHandle)
    (path : List Char) (generation : UInt64) : LinkM DurableHandle :=
  Durable.reclaimDurableHandle handle path generation
    (server (compound tree (reclaimRequest tree handle path)))

end Tree

namespace Durable

section Calls

variable {responses : Responses} {s s' : Exchange Request Error Frame}

lemma openFileDurable_eq_ok {createGuid : Guid} {generation : UInt64} {opened : DurableOpen}
    {handle : DurableHandle}
    (h : openFileDurable createGuid generation responses s = some (.ok opened, s'))
    (hdurable : opened.durable = some handle) :
    handle.createGuid = createGuid ∧ handle.generation = generation ∧
      ∃ create, createAndIdentify responses = .ok (create, some handle.identity) := by
  have hleaves : Leaves (openFileDurable createGuid generation responses) fun x _ =>
      ∀ opened handle, x = .ok opened → opened.durable = some handle →
        handle.createGuid = createGuid ∧ handle.generation = generation ∧
          ∃ create, createAndIdentify responses = .ok (create, some handle.identity) := by
    refine Leaves.post_bind (Leaves.lift_bind (fun ⟨create, identity⟩ hcreate =>
      Leaves.lift_bind (fun ⟨resp, c⟩ _ => Leaves.lift_bind (fun grant _ => Leaves.pure ?_) ?_) ?_)
      ?_)
    · intro opened handle hopened hdurable
      obtain rfl := Except.ok.inj hopened
      cases grant with
      | none => cases hdurable
      | some grant =>
        cases identity with
        | none => cases hdurable
        | some identity =>
          obtain rfl := Option.some.inj hdurable
          exact ⟨rfl, rfl, create, hcreate⟩
    all_goals
      intro e _ opened handle hopened
      cases hopened
  obtain ⟨_, -, hresult⟩ := hleaves s _ s' h
  exact hresult opened handle rfl hdurable

lemma reclaimDurableHandle_eq_ok {handle handle' : DurableHandle} {path : List Char}
    {generation : UInt64}
    (h : reclaimDurableHandle handle path generation responses s = some (.ok handle', s')) :
    handle'.identity = handle.identity ∧ handle'.createGuid = handle.createGuid ∧
      handle'.generation = generation ∧
      ∃ create, createAndIdentify responses = .ok (create, some handle.identity) := by
  have hleaves : Leaves (reclaimDurableHandle handle path generation responses) fun x _ =>
      ∀ handle', x = .ok handle' →
        handle'.identity = handle.identity ∧ handle'.createGuid = handle.createGuid ∧
          handle'.generation = generation ∧
          ∃ create, createAndIdentify responses = .ok (create, some handle.identity) := by
    refine Leaves.post_bind (Leaves.lift_bind (fun ⟨create, identity⟩ hcreate =>
      Leaves.lift_bind (fun ⟨resp, c⟩ _ => ?_) ?_) ?_)
    · have hclose : ∀ e, Leaves (do bestEffortClose resp.fileId; Prog.fail e)
          fun (x : Except Error DurableHandle) _ => ∀ handle', x = .ok handle' →
            handle'.identity = handle.identity ∧ handle'.createGuid = handle.createGuid ∧
              handle'.generation = generation ∧
              ∃ create, createAndIdentify responses = .ok (create, some handle.identity) := by
        intro e
        refine bestEffortClose_bind fun answer => Leaves.fail ?_
        intro handle' hhandle
        cases hhandle
      cases identity with
      | none => exact hclose _
      | some identity =>
        refine Leaves.ite (fun _ => hclose _) fun hsame => Leaves.pure ?_
        intro handle' hhandle
        obtain rfl := Except.ok.inj hhandle
        obtain rfl := not_not.1 hsame
        exact ⟨rfl, rfl, rfl, create, reclaimed_eq_ok.1 hcreate⟩
    all_goals
      intro e _ handle' hhandle
      cases hhandle
  obtain ⟨_, -, hresult⟩ := hleaves s _ s' h
  exact hresult handle' rfl

end Calls

end Durable

inductive DurableCall
  | openFile (createGuid : Guid)
  | reclaim (handle : DurableHandle) (path : List Char)
deriving DecidableEq

namespace DurableCall

/-- What becomes of a call that has its responses, on a connection of the given generation: the open
file, and the durable handle if there is one. -/
def run (call : DurableCall) (generation : UInt64) (responses : Responses) :
    LinkM (FileId × Option DurableHandle) :=
  match call with
  | .openFile createGuid => do
    let opened ← Durable.openFileDurable createGuid generation responses
    return (opened.fileId, opened.durable)
  | .reclaim handle path => do
    let reclaimed ← Durable.reclaimDurableHandle handle path generation responses
    return (reclaimed.fileId, some reclaimed)

lemma generation_of_run {call : DurableCall} {generation : UInt64} {responses : Responses}
    {s s' : Exchange Request Error Frame} {file : FileId} {handle : DurableHandle}
    (h : call.run generation responses s = some (.ok (file, some handle), s')) :
    handle.generation = generation := by
  cases call with
  | openFile createGuid =>
    obtain ⟨opened, t, hx, hrest⟩ := Prog.bind_eq_ok.1 h
    obtain ⟨hresult, -⟩ := Prod.mk.inj (Option.some.inj hrest)
    obtain ⟨-, hdurable⟩ := Prod.mk.inj (Except.ok.inj hresult)
    exact (Durable.openFileDurable_eq_ok hx hdurable).2.1
  | reclaim handle path =>
    obtain ⟨reclaimed, t, hx, hrest⟩ := Prog.bind_eq_ok.1 h
    obtain ⟨hresult, -⟩ := Prod.mk.inj (Option.some.inj hrest)
    obtain ⟨-, hdurable⟩ := Prod.mk.inj (Except.ok.inj hresult)
    obtain rfl := Option.some.inj hdurable
    exact (Durable.reclaimDurableHandle_eq_ok hx).2.2.1

end DurableCall

namespace Durable

/-! ## A handle through its reclaims -/

def createdWith (oplock : UInt8) (file : FileId) (contexts : Bytes) : Frame where
  header := { Tree.answerHeader NtStatus.success with command := .create }
  body := [89, 0, oplock, 0] ++ List.replicate 60 0 ++
    (leBytes 8 file.persistent.toNat ++ leBytes 8 file.volatile.toNat) ++
    (leBytes 4 152 ++ leBytes 4 contexts.length ++ contexts)
  raw := []

def granted : Bytes :=
  CreateContext.packContexts [⟨CreateContext.nameDh2q, leBytes 4 60000 ++ leBytes 4 0⟩]

def informed (output : Bytes) : Frame where
  header := { Tree.answerHeader NtStatus.success with command := .queryInfo }
  body := [9, 0, 72, 0] ++ leBytes 4 output.length ++ output
  raw := []

def serverWith (file : FileId) (index : ℕ) : Server := fun _ =>
  .ok [.ok (createdWith 9 file granted), .ok (informed (leBytes 8 index)),
    .ok (informed (List.replicate 8 0 ++ leBytes 4 77))]

def sampleGuid : Guid := ⟨1, 2, 3, [4, 5, 6, 7, 8, 9, 10, 11]⟩

end Durable

end Smb2
