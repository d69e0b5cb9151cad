import Smb2.Client.Tree.Write
import Smb2.Lib.Exchange
import Smb2.Msg.TreeConnect
import Smb2.Rpc.Srvsvc

set_option autoImplicit false

/-!
# Share enumeration

`list_shares` (`client/shares.rs`): connect to `IPC$`, open the pipe `srvsvc`, bind, ask for all
shares, and clean up. The answer comes in three layers of framing. The texts of the shares stand in
the stub behind the entries; a server may cut the stub into fragments, each a message on the pipe; and
a message comes in one or more READs, all but the last with `STATUS_BUFFER_OVERFLOW`.

## Implementation notes

A call is a program over the answers to come. Log lines are left out. The two loops have as many
rounds as there are answers, and one more: each round asks, so they end when there are no answers
left.
-/

open List

namespace Smb2.Shares

open Connection (Frame)
open Exchange (ask)
open Prog (attempt fail lift diverge)
open Srvsvc (ShareInfo NdrReply filterDiskShares)
open Tree (checkStatus openedFile writeCount)

/-! ## The calls -/

inductive Request
  | treeConnect (path : List Char)
  | create (tree : UInt32) (name : List Char)
  | write (tree : UInt32) (file : FileId) (data : Bytes)
  | read (tree : UInt32) (file : FileId) (length : UInt32)
  | close (tree : UInt32) (file : FileId)
  | treeDisconnect (tree : UInt32)
deriving DecidableEq

abbrev SharesM (α : Type) := Prog (Exchange Request Error Frame) Error α

def pipeReadBufferSize : UInt32 := 65536

def connectedTree (frame : Frame) : Except Error UInt32 := do
  if frame.header.command ≠ .treeConnect then
    let got := frame.header.command.debug
    throw (.invalidData s!"expected TreeConnect response, got {got}")
  if frame.header.status ≠ NtStatus.success then
    throw (.protocol frame.header.status .treeConnect)
  let _ ← TreeConnectResponse.unpack (.new frame.body)
  match frame.header.treeId with
  | some tree => return tree
  | none => throw (.invalidData "TreeConnect response missing tree ID")

def treeConnectIpc (serverName : List Char) : SharesM UInt32 := do
  let frame ← ask (.treeConnect ("\\\\".toList ++ serverName ++ "\\IPC$".toList))
  lift (connectedTree frame)

def openSrvsvcPipe (tree : UInt32) : SharesM FileId := do
  let frame ← ask (.create tree "srvsvc".toList)
  lift (openedFile (.ok frame))

def writePipe (tree : UInt32) (file : FileId) (data : Bytes) : SharesM Unit := do
  let frame ← ask (.write tree file data)
  let _ ← lift (writeCount (.ok frame))

def readLoop (tree : UInt32) (file : FileId) : ℕ → Bytes → SharesM Bytes
  | 0, _ => diverge
  | n + 1, message => do
    let frame ← ask (.read tree file pipeReadBufferSize)
    if ¬ frame.header.status.isSuccessOrPartial then
      fail (.protocol frame.header.status .read)
    else do
      let (resp, _) ← lift (ReadResponse.unpack (.new frame.body))
      if frame.header.status ≠ NtStatus.bufferOverflow then return message ++ resp.data
      -- A server that has more but sends nothing would be asked for ever.
      else if resp.data = [] then
        fail (.invalidData "pipe read returned BUFFER_OVERFLOW with no data")
      else readLoop tree file n (message ++ resp.data)

def readPipeMessage (tree : UInt32) (file : FileId) : SharesM Bytes := fun s =>
  readLoop tree file (s.answers.length + 1) [] s

/-- The loop that puts the fragments of the response together, in at most `n` rounds. -/
def fragmentLoop (tree : UInt32) (file : FileId) : ℕ → Bytes → SharesM Bytes
  | 0, _ => diverge
  | n + 1, stub => do
    let pdu ← readPipeMessage tree file
    let (fragStub, isLast) ← lift (Rpc.parseResponseFragment pdu)
    if isLast then return stub ++ fragStub else fragmentLoop tree file n (stub ++ fragStub)

def readResponse (tree : UInt32) (file : FileId) : SharesM Bytes := fun s =>
  fragmentLoop tree file (s.answers.length + 1) [] s

def rpcBindAndRequest (serverName : List Char) (tree : UInt32) (file : FileId) :
    SharesM (List ShareInfo) := do
  writePipe tree file (Rpc.buildSrvsvcBind 1)
  let bindAckData ← readPipeMessage tree file
  lift (Rpc.parseBindAck bindAckData)
  writePipe tree file (Srvsvc.buildNetShareEnumAll 2 ("\\\\".toList ++ serverName))
  let stub ← readResponse tree file
  lift (Srvsvc.parseNetShareEnumAllStub stub)

def closeHandle (tree : UInt32) (file : FileId) : SharesM Unit := do
  let frame ← ask (.close tree file)
  lift (checkStatus .close (.ok frame))

def treeDisconnect (tree : UInt32) : SharesM Unit := do
  let frame ← ask (.treeDisconnect tree)
  lift (checkStatus .treeDisconnect (.ok frame))

def pipeRpcExchange (serverName : List Char) (tree : UInt32) : SharesM (List ShareInfo) := do
  let file ← openSrvsvcPipe tree
  let result ← attempt (rpcBindAndRequest serverName tree file)
  let _ ← attempt (closeHandle tree file)
  lift result

def listShares (serverName : List Char) : SharesM (List ShareInfo) := do
  let tree ← treeConnectIpc serverName
  let result ← attempt (pipeRpcExchange serverName tree)
  let _ ← attempt (treeDisconnect tree)
  let allShares ← lift result
  return filterDiskShares allShares

/-! ## How a server answers -/

def Brings (frame : Frame) (data : Bytes) : Prop :=
  ∃ (resp : ReadResponse) (post : Bytes), frame.body = resp.pack ++ post ∧ resp.data = data

/-- **A message on the pipe**: READs with `STATUS_BUFFER_OVERFLOW`, none of them empty, and one with
`STATUS_SUCCESS`. -/
inductive Carries : Bytes → List (Except Error Frame) → Prop
  | last {frame : Frame} {data : Bytes} (hstatus : frame.header.status = NtStatus.success)
      (hdata : Brings frame data) : Carries data [.ok frame]
  | more {frame : Frame} {data message : Bytes} {frames : List (Except Error Frame)}
      (hstatus : frame.header.status = NtStatus.bufferOverflow) (hdata : Brings frame data)
      (hne : data ≠ []) (h : Carries message frames) : Carries (data ++ message) (.ok frame :: frames)

/-- **A stub in fragments**, each a message on the pipe; only the last one is marked as such. -/
inductive Fragmented : Bytes → List (Except Error Frame) → Prop
  | last {f : Rpc.Fragment} {frames : List (Except Error Frame)} (hlast : f.isLast = true)
      (h : Carries f.pack frames) : Fragmented f.stub frames
  | more {f : Rpc.Fragment} {stub : Bytes} {frames frames' : List (Except Error Frame)}
      (hlast : f.isLast = false) (h : Carries f.pack frames) (h' : Fragmented stub frames') :
      Fragmented (f.stub ++ stub) (frames ++ frames')

/-! ## What the client makes of it -/

section Runs

variable {tree : UInt32} {file : FileId} {frames rest : List (Except Error Frame)}
  {log : List (Request × Except Error Frame)}

lemma ask_eq (r : Request) (frame : Frame) :
    (ask r : SharesM Frame) ⟨.ok frame :: rest, log⟩ =
      some (.ok frame, ⟨rest, log ++ [(r, .ok frame)]⟩) := rfl

lemma Brings.unpack {frame : Frame} {data : Bytes} (h : Brings frame data)
    (hmax : data.length ≤ ReadCursor.maxUnpackBuffer) :
    ∃ resp c, ReadResponse.unpack (.new frame.body) = .ok (resp, c) ∧ resp.data = data := by
  obtain ⟨resp, post, hbody, rfl⟩ := h
  obtain ⟨c, hc⟩ := ReadResponse.unpack_pack post hmax
  exact ⟨resp, c, by rw [hbody, hc], rfl⟩

variable {message : Bytes} {n : ℕ} {reply : NdrReply}

lemma readLoop_eq (h : Carries message frames) (hmax : message.length ≤ ReadCursor.maxUnpackBuffer)
    (hn : frames.length ≤ n) (sofar : Bytes) :
    ∃ log', readLoop tree file n sofar ⟨frames ++ rest, log⟩ =
      some (.ok (sofar ++ message), ⟨rest, log'⟩) := by
  induction h generalizing n sofar log with
  | @last frame data hstatus hdata =>
    obtain ⟨n, rfl⟩ := Nat.exists_eq_succ_of_ne_zero (Nat.ne_of_gt hn)
    obtain ⟨resp, c, hunpack, rfl⟩ := hdata.unpack hmax
    refine ⟨log ++ [(.read tree file pipeReadBufferSize, .ok frame)], ?_⟩
    have hpartial : frame.header.status.isSuccessOrPartial = true := by
      rw [hstatus]
      rfl
    have hdone : frame.header.status ≠ NtStatus.bufferOverflow := by
      rw [hstatus]
      decide
    rw [readLoop, cons_append, Prog.bind_of_ok (ask_eq _ _), if_neg (not_not.2 hpartial),
      hunpack, Prog.bind_of_ok (m := lift (.ok (resp, c))) rfl]
    dsimp only
    rw [if_pos hdone]
    rfl
  | @more frame data message frames hstatus hdata hne h ih =>
    obtain ⟨n, rfl⟩ := Nat.exists_eq_succ_of_ne_zero (Nat.ne_of_gt (Nat.lt_of_lt_of_le
      (Nat.succ_pos _) hn))
    rw [length_append] at hmax
    obtain ⟨resp, c, hunpack, rfl⟩ := hdata.unpack (by omega)
    have hpartial : frame.header.status.isSuccessOrPartial = true := by
      rw [hstatus]
      rfl
    obtain ⟨log', hrest⟩ : ∃ log', readLoop tree file n (sofar ++ resp.data)
        ⟨frames ++ rest, log ++ [(.read tree file pipeReadBufferSize, .ok frame)]⟩ =
          some (.ok (sofar ++ resp.data ++ message), ⟨rest, log'⟩) :=
      ih (by omega) (Nat.le_of_succ_le_succ hn) _
    refine ⟨log', ?_⟩
    rw [readLoop, cons_append, Prog.bind_of_ok (ask_eq _ _), if_neg (not_not.2 hpartial),
      hunpack, Prog.bind_of_ok (m := lift (.ok (resp, c))) rfl]
    dsimp only
    rw [if_neg (not_not.2 hstatus), if_neg hne, hrest, append_assoc]

lemma readPipeMessage_eq (h : Carries message frames)
    (hmax : message.length ≤ ReadCursor.maxUnpackBuffer) :
    ∃ log', readPipeMessage tree file ⟨frames ++ rest, log⟩ = some (.ok message, ⟨rest, log'⟩) := by
  have hn : frames.length ≤ (frames ++ rest).length + 1 := by
    rw [length_append]
    omega
  exact readLoop_eq h hmax hn []

lemma Carries.length_pos (h : Carries message frames) : 0 < frames.length := by
  cases h with
  | last => exact Nat.one_pos
  | more => exact Nat.succ_pos _

lemma fragmentLoop_eq {stub : Bytes} (h : Fragmented stub frames) (hn : frames.length ≤ n)
    (sofar : Bytes) :
    ∃ log', fragmentLoop tree file n sofar ⟨frames ++ rest, log⟩ =
      some (.ok (sofar ++ stub), ⟨rest, log'⟩) := by
  have hsmall : ∀ f : Rpc.Fragment, f.pack.length ≤ ReadCursor.maxUnpackBuffer := by
    intro f
    rw [f.length_pack]
    have hmax : 2 ^ 16 ≤ ReadCursor.maxUnpackBuffer := by decide
    have := f.fits
    omega
  induction h generalizing n sofar log with
  | @last f frames hlast h =>
    have hpos := h.length_pos
    obtain ⟨n, rfl⟩ := Nat.exists_eq_succ_of_ne_zero (show n ≠ 0 by omega)
    obtain ⟨log', hread⟩ : ∃ log', readPipeMessage tree file ⟨frames ++ rest, log⟩ =
        some (.ok f.pack, ⟨rest, log'⟩) := readPipeMessage_eq h (hsmall f)
    refine ⟨log', ?_⟩
    rw [fragmentLoop, Prog.bind_of_ok hread, Rpc.parseResponseFragment_pack,
      Prog.bind_of_ok (m := lift (.ok (f.stub, f.isLast))) rfl]
    dsimp only
    rw [if_pos hlast]
    rfl
  | @more f stub frames frames' hlast h h' ih =>
    have hpos := h.length_pos
    rw [length_append] at hn
    obtain ⟨n, rfl⟩ := Nat.exists_eq_succ_of_ne_zero (show n ≠ 0 by omega)
    obtain ⟨log₁, hread⟩ : ∃ log₁, readPipeMessage tree file ⟨frames ++ (frames' ++ rest), log⟩ =
        some (.ok f.pack, ⟨frames' ++ rest, log₁⟩) := readPipeMessage_eq h (hsmall f)
    obtain ⟨log', hrest⟩ : ∃ log', fragmentLoop tree file n (sofar ++ f.stub)
        ⟨frames' ++ rest, log₁⟩ = some (.ok (sofar ++ f.stub ++ stub), ⟨rest, log'⟩) :=
      ih (by omega) _
    refine ⟨log', ?_⟩
    rw [fragmentLoop, append_assoc, Prog.bind_of_ok hread, Rpc.parseResponseFragment_pack,
      Prog.bind_of_ok (m := lift (.ok (f.stub, f.isLast))) rfl]
    dsimp only
    rw [hlast, if_neg (by decide), hrest, append_assoc]

lemma readResponse_eq {stub : Bytes} (h : Fragmented stub frames) :
    ∃ log', readResponse tree file ⟨frames ++ rest, log⟩ = some (.ok stub, ⟨rest, log'⟩) := by
  have hn : frames.length ≤ (frames ++ rest).length + 1 := by
    rw [length_append]
    omega
  exact fragmentLoop_eq h hn []

lemma writePipe_eq {frame : Frame} (hwrite : writeCount (.ok frame) = .ok n) (data : Bytes) :
    writePipe tree file data ⟨.ok frame :: rest, log⟩ =
      some (.ok (), ⟨rest, log ++ [(.write tree file data, .ok frame)]⟩) := by
  rw [writePipe, Prog.bind_of_ok (ask_eq _ _), hwrite]
  rfl

/-- **The answers to the exchange on the pipe**: the BIND is taken and accepted, the request is taken,
and the response is sent in fragments. -/
inductive Answers (reply : NdrReply) : List (Except Error Frame) → Prop
  | intro {w w' : Frame} {n n' : ℕ} {ack : Bytes} {acks frames : List (Except Error Frame)}
      (hbind : writeCount (.ok w) = .ok n) (hacks : Carries ack acks) (hshort : ack.length < 2 ^ 16)
      (haccept : Rpc.parseBindAck ack = .ok ()) (hrequest : writeCount (.ok w') = .ok n')
      (hframes : Fragmented reply.stub frames) : Answers reply (.ok w :: (acks ++ .ok w' :: frames))

lemma rpcBindAndRequest_eq (h : Answers reply frames) (serverName : List Char) :
    ∃ log', rpcBindAndRequest serverName tree file ⟨frames ++ rest, log⟩ =
      some (.ok reply.shares, ⟨rest, log'⟩) := by
  obtain @⟨w, w', n, n', ack, acks, frames, hbind, hacks, hshort, haccept, hrequest, hframes⟩ := h
  have hmax : ack.length ≤ ReadCursor.maxUnpackBuffer := by
    have : 2 ^ 16 ≤ ReadCursor.maxUnpackBuffer := by decide
    omega
  obtain ⟨log₁, hread⟩ : ∃ log₁, readPipeMessage tree file
      ⟨acks ++ (.ok w' :: (frames ++ rest)),
        log ++ [(.write tree file (Rpc.buildSrvsvcBind 1), .ok w)]⟩ =
      some (.ok ack, ⟨.ok w' :: (frames ++ rest), log₁⟩) := readPipeMessage_eq hacks hmax
  obtain ⟨log', hresponse⟩ : ∃ log', readResponse tree file
      ⟨frames ++ rest, log₁ ++ [(.write tree file
        (Srvsvc.buildNetShareEnumAll 2 ("\\\\".toList ++ serverName)), .ok w')]⟩ =
      some (.ok reply.stub, ⟨rest, log'⟩) := readResponse_eq hframes
  refine ⟨log', ?_⟩
  rw [rpcBindAndRequest, cons_append, append_assoc, cons_append,
    Prog.bind_of_ok (writePipe_eq hbind _), Prog.bind_of_ok hread, haccept,
    Prog.bind_of_ok (m := lift (.ok ())) rfl, Prog.bind_of_ok (writePipe_eq hrequest _),
    Prog.bind_of_ok hresponse, Srvsvc.parseNetShareEnumAllStub_stub]
  rfl

lemma attempt_ask (r : Request) (check : Frame → Except Error Unit) (answer : Except Error Frame) :
    ∃ x log', (attempt (do let frame ← ask r; lift (check frame)) : SharesM (Except Error Unit))
      ⟨answer :: rest, log⟩ = some (.ok x, ⟨rest, log'⟩) := by
  cases answer with
  | error e => exact ⟨_, _, rfl⟩
  | ok frame => exact ⟨_, _, rfl⟩

lemma attempt_eq {α : Type} {m : SharesM α} {s t : Exchange Request Error Frame} {a : α}
    (h : m s = some (.ok a, t)) : attempt m s = some (.ok (.ok a), t) := by
  rw [attempt, h]
  rfl

lemma pipeRpcExchange_eq (h : Answers reply frames) (serverName : List Char) {opened : Frame}
    {file : FileId} (hopened : openedFile (.ok opened) = .ok file) (closed : Except Error Frame) :
    ∃ log', pipeRpcExchange serverName tree
        ⟨.ok opened :: (frames ++ closed :: rest), log⟩ =
      some (.ok reply.shares, ⟨rest, log'⟩) := by
  have hopen : openSrvsvcPipe tree ⟨.ok opened :: (frames ++ closed :: rest), log⟩ =
      some (.ok file, ⟨frames ++ closed :: rest,
        log ++ [(.create tree "srvsvc".toList, .ok opened)]⟩) := by
    rw [openSrvsvcPipe, Prog.bind_of_ok (ask_eq _ _), hopened]
    rfl
  obtain ⟨log₁, hexchange⟩ : ∃ log₁, rpcBindAndRequest serverName tree file
      ⟨frames ++ closed :: rest, log ++ [(.create tree "srvsvc".toList, .ok opened)]⟩ =
      some (.ok reply.shares, ⟨closed :: rest, log₁⟩) := rpcBindAndRequest_eq h serverName
  obtain ⟨x, log', hclose⟩ : ∃ x log', attempt (closeHandle tree file) ⟨closed :: rest, log₁⟩ =
      some (.ok x, ⟨rest, log'⟩) :=
    attempt_ask (.close tree file) (fun frame => checkStatus .close (.ok frame)) closed
  refine ⟨log', ?_⟩
  rw [pipeRpcExchange, Prog.bind_of_ok hopen, Prog.bind_of_ok (attempt_eq hexchange),
    Prog.bind_of_ok hclose]
  rfl

lemma listShares_eq (h : Answers reply frames) (serverName : List Char) {connected opened : Frame}
    {tree : UInt32} {file : FileId} (hconnected : connectedTree connected = .ok tree)
    (hopened : openedFile (.ok opened) = .ok file) (closed disconnected : Except Error Frame) :
    ∃ log', listShares serverName
        ⟨.ok connected :: .ok opened :: (frames ++ closed :: disconnected :: rest), log⟩ =
      some (.ok (filterDiskShares reply.shares), ⟨rest, log'⟩) := by
  let path := "\\\\".toList ++ serverName ++ "\\IPC$".toList
  have hconnect : treeConnectIpc serverName
      ⟨.ok connected :: .ok opened :: (frames ++ closed :: disconnected :: rest), log⟩ =
        some (.ok tree, ⟨.ok opened :: (frames ++ closed :: disconnected :: rest),
          log ++ [(.treeConnect path, .ok connected)]⟩) := by
    rw [treeConnectIpc, Prog.bind_of_ok (ask_eq _ _), hconnected]
    rfl
  obtain ⟨log₁, hexchange⟩ : ∃ log₁, pipeRpcExchange serverName tree
      ⟨.ok opened :: (frames ++ closed :: disconnected :: rest),
        log ++ [(.treeConnect path, .ok connected)]⟩ =
      some (.ok reply.shares, ⟨disconnected :: rest, log₁⟩) :=
    pipeRpcExchange_eq h serverName hopened closed
  obtain ⟨x, log', hdisconnect⟩ : ∃ x log', attempt (treeDisconnect tree)
      ⟨disconnected :: rest, log₁⟩ = some (.ok x, ⟨rest, log'⟩) :=
    attempt_ask (.treeDisconnect tree) (fun frame => checkStatus .treeDisconnect (.ok frame))
      disconnected
  refine ⟨log', ?_⟩
  rw [listShares, Prog.bind_of_ok hconnect, Prog.bind_of_ok (attempt_eq hexchange),
    Prog.bind_of_ok hdisconnect]
  rfl

end Runs

/-- **Share enumeration is lossless.** A server encodes a list of shares as a response of level 1, cuts
the stub into fragments in any way and sends each fragment in any number of READs, all but the last
with `STATUS_BUFFER_OVERFLOW`. The exchange on the pipe returns the shares, in order and without the
trailing NULs of their texts. The whole call returns those that are disks for everybody, whatever
CLOSE and TREE_DISCONNECT are answered with. -/
theorem shares_reassembled {reply : NdrReply} {answers : List (Except Error Frame)}
    (h : Answers reply answers) (serverName : List Char) (rest : List (Except Error Frame))
    (log : List (Request × Except Error Frame)) :
    (∀ tree file, ∃ log', rpcBindAndRequest serverName tree file ⟨answers ++ rest, log⟩ =
      some (.ok reply.shares, ⟨rest, log'⟩)) ∧
    ∀ (connected opened : Frame) (closed disconnected : Except Error Frame) (tree : UInt32)
      (file : FileId), connectedTree connected = .ok tree → openedFile (.ok opened) = .ok file →
      ∃ log', listShares serverName
          ⟨.ok connected :: .ok opened :: (answers ++ closed :: disconnected :: rest), log⟩ =
        some (.ok (reply.shares.filter fun s => decide s.IsPublicDisk), ⟨rest, log'⟩) := by
  refine ⟨fun tree file => rpcBindAndRequest_eq h serverName, ?_⟩
  intro connected opened closed disconnected tree file hconnected hopened
  rw [← Srvsvc.filterDiskShares_eq]
  exact listShares_eq h serverName hconnected hopened closed disconnected

/-! ### A response in two fragments -/

def readFrame (status : NtStatus) (data : Bytes) : Frame where
  header := Tree.answerHeader status
  body := { dataOffset := 0x50, dataRemaining := 0, flags := 0, data : ReadResponse }.pack
  raw := []

lemma brings_readFrame (status : NtStatus) (data : Bytes) : Brings (readFrame status data) data :=
  ⟨_, [], (append_nil _).symm, rfl⟩

def terminated (text : List Char) (pad : Bytes) (hfits : Utf16.units (text ++ [Char.ofNat 0]) < 2 ^ 32)
    (hpad : pad.length = 2 * (Utf16.units (text ++ [Char.ofNat 0]) % 2)) : Srvsvc.NdrString :=
  ⟨0x00020008, 0, 0, text ++ [Char.ofNat 0], pad, by decide, hfits, hpad⟩

def diskAndAdmin : NdrReply :=
  .array 0x00020000 0x00020004 2
    [⟨some (terminated ['A'] [] (by decide) (by decide)), Srvsvc.stypeDisktree,
        some (terminated ['d', 'o'] [0, 0] (by decide) (by decide))⟩,
      ⟨some (terminated ['C', '$'] [0, 0] (by decide) (by decide)), Srvsvc.stypeSpecial, none⟩]
    (by decide) (by decide) (by decide) []

def firstFragment : Rpc.Fragment := ⟨1, 2, 0, 0, 0, 0, diskAndAdmin.stub.take 30, by decide⟩

def lastFragment : Rpc.Fragment := ⟨2, 2, 0, 0, 0, 0, diskAndAdmin.stub.drop 30, by decide⟩

def accepted : Bytes :=
  [5, 0, 12, 3, 16, 0, 0, 0, 32, 0, 0, 0, 1, 0, 0, 0, 184, 16, 184, 16, 0, 0, 0, 0, 0, 0, 0, 0,
    1, 0, 0, 0, 0, 0]

def twoFragments : List (Except Error Frame) :=
  .ok (Tree.WriteCall.taken 72) :: ([.ok (readFrame NtStatus.success accepted)] ++
    .ok (Tree.WriteCall.taken 72) ::
      ([.ok (readFrame NtStatus.bufferOverflow (firstFragment.pack.take 40)),
          .ok (readFrame NtStatus.success (firstFragment.pack.drop 40))] ++
        [.ok (readFrame NtStatus.success lastFragment.pack)]))

lemma answers_twoFragments : Answers diskAndAdmin twoFragments := by
  have hfirst : Carries firstFragment.pack
      [.ok (readFrame NtStatus.bufferOverflow (firstFragment.pack.take 40)),
        .ok (readFrame NtStatus.success (firstFragment.pack.drop 40))] := by
    have hbegin := brings_readFrame NtStatus.bufferOverflow (firstFragment.pack.take 40)
    have hend := brings_readFrame NtStatus.success (firstFragment.pack.drop 40)
    have hparts := Carries.more rfl hbegin (by decide) (.last rfl hend)
    rwa [take_append_drop] at hparts
  have hlast : Carries lastFragment.pack [.ok (readFrame NtStatus.success lastFragment.pack)] :=
    .last rfl (brings_readFrame _ _)
  have hstub := Fragmented.more (f := firstFragment) (by decide) hfirst
    (.last (f := lastFragment) (by decide) hlast)
  have hsplit : firstFragment.stub ++ lastFragment.stub = diskAndAdmin.stub :=
    take_append_drop ..
  rw [hsplit] at hstub
  have hwrite : writeCount (.ok (Tree.WriteCall.taken 72)) = .ok 72 := by decide +kernel
  exact .intro hwrite (.last rfl (brings_readFrame _ accepted)) (by decide) (by decide +kernel)
    hwrite hstub

theorem shares_reassembled_twoFragments :
    ∃ log', rpcBindAndRequest [] 1 ⟨1, 2⟩ ⟨twoFragments ++ [], []⟩ =
      some (.ok [⟨['A'], Srvsvc.stypeDisktree, ['d', 'o']⟩, ⟨['C', '$'], Srvsvc.stypeSpecial, []⟩],
        ⟨[], log'⟩) :=
  (shares_reassembled answers_twoFragments [] [] []).1 1 ⟨1, 2⟩

end Smb2.Shares
