import Mathlib.Data.List.AList
import Smb2.Client.Credits
import Smb2.Crypto.Encryption
import Smb2.Crypto.Signing

set_option autoImplicit false

/-!
# The state of a connection

A connection of `client/connection.rs` is shared state (`Inner`) that several tasks work on at
once: callers sending requests, one writer task and one receiver task for each transport, and a
caller that revives the connection after it died. This file has the shared state, in five parts
that different operations touch, the micro-operations a task is made of, and the registers of a
task (its local variables).

A micro-operation is what one task does without another task being able to observe it half done:
an access under one lock, one atomic access, one channel operation. Everything between two such
accesses is local to the task and belongs to the operation before it.

## Implementation notes

Generations are numbered from 0; `install_transport` begins the next one. Fields marked as
*ghost* record generations and totals that the source does not keep. No operation branches on
them. Left out are the clocks (a timer is a choice of the environment), metrics, the reply
frames themselves (a reply is delivered or is an error) and the state no operation here reads:
preauth hash, negotiated parameters, the ring of abandoned ids, the tree and oplock tables, and
compression.
-/

namespace Smb2.Connection

/-! ## Session state -/

structure CryptoState where
  signingKey : Option Bytes := none
  signingAlgorithm : Option SigningAlgorithm := none
  shouldSign : Bool := false
  encryptionKey : Option Bytes := none
  decryptionKey : Option Bytes := none
  encryptionCipher : Option Cipher := none
  shouldEncrypt : Bool := false
  nonceGen : Option ℕ := none
  sessionId : ℕ := 0
deriving DecidableEq

structure SessionState where
  nextMessageId : ℕ
  /-- *Ghost*: the generation that the counter counts for. -/
  idEpoch : ℕ
  crypto : CryptoState
  /-- *Ghost*: the generation that the crypto state belongs to. -/
  cryptoEpoch : ℕ
  /-- *Ghost*: how often a part of the session was swapped out by `install_transport`. -/
  swaps : ℕ
deriving DecidableEq

/-! ## Waiters -/

inductive Reply
  /-- Nothing yet; the sending half is in the waiters map or in a task's hands. -/
  | empty
  | frame
  | error
  | closed
deriving DecidableEq

structure Waiter where
  tx : ℕ
  sent : Bool
  activity : ℕ
  asyncId : Option ℕ
  /-- *Ghost*: the generation in which the request was registered. -/
  gen : ℕ
deriving DecidableEq

/-- The waiters map, the `disconnected` flag that is set under its lock, and the one-shot
channels made so far. -/
structure Routing where
  waiters : AList fun _ : ℕ => Waiter
  disconnected : Bool
  replies : ℕ → Reply
  nextChannel : ℕ

/-! ## Writer queues -/

inductive Part
  | messageId | sessionId | flags | key
deriving DecidableEq

/-- One request of a frame: its message id, how many ids it takes, its `CreditCharge`, and the
generation whose counter the id is from (*ghost*). -/
structure Sub where
  id : ℕ
  span : ℕ
  charge : ℕ
  epoch : ℕ
deriving DecidableEq

inductive Protection
  | plain
  | signed (key : Bytes) (algorithm : SigningAlgorithm)
  | encrypted (key : Bytes) (cipher : Cipher) (nonce : ℕ)
deriving DecidableEq

structure Outgoing where
  subs : List Sub
  sessionId : ℕ
  protection : Protection
  /-- *Ghost*: from which generation each part of the session was read. -/
  stamps : List (Part × ℕ)
  /-- *Ghost*: the task that built the frame. -/
  owner : ℕ
deriving DecidableEq

def Outgoing.charge (f : Outgoing) : ℕ := (f.subs.map Sub.charge).sum

/-- The state of a write job, seen through its `done` channel. For the waiting caller `queued`
and `writing` look alike, and so do the three ways to fail. -/
inductive Ack
  | queued
  | writing
  | ok
  | refused
  | failed
  | dropped
deriving DecidableEq

structure Job where
  frame : Outgoing
  seq : ℕ
deriving DecidableEq

/-- **The queue of one writer task**, the jobs' `done` channels, and the frames that the
transport behind it has been handed, in order. -/
structure WriteQueue where
  jobs : List Job
  isOpen : Bool
  acks : ℕ → Ack
  nextSeq : ℕ
  writing : Option Job
  wire : List Outgoing

def writeQueueDepth : ℕ := 256

namespace WriteQueue

def absent : WriteQueue := ⟨[], false, fun _ => .queued, 0, none, []⟩

def new : WriteQueue := { absent with isOpen := true }

def spent (q : WriteQueue) : ℕ := (q.wire.map Outgoing.charge).sum

end WriteQueue

structure Plumbing where
  writeTx : ℕ
  queues : ℕ → WriteQueue

/-! ## Revival -/

/-- *Ghost*: how far the holder of the revival lock has come. -/
inductive Mode
  | free
  | locked
  | dead
  /-- It is past the teardown in `install_transport`, with the given number of its later steps
  done. -/
  | swapping (done : ℕ)
  | halfBuilt
deriving DecidableEq

structure Revival where
  revivals : ℕ
  lock : Option ℕ
  /-- *Ghost*: what that task is doing. -/
  mode : Mode
  /-- *Ghost*: the task that installed the live transport, until its session stands. -/
  building : Option ℕ
deriving DecidableEq

/-! ## Operations -/

/-- A request before it has an id: the ids it takes, for which it also pays credits, and the charge
in its header. They differ for NEGOTIATE, whose header leaves `CreditCharge` at 0. -/
structure Piece where
  span : ℕ
  charge : ℕ
  span_pos : 0 < span
  charge_le : charge ≤ span
deriving DecidableEq

inductive CreditOp
  | current
  /-- `try_acquire_many`; if it fails, wait for credits or, for a probe, give up quietly. -/
  | tryReserve (wait : Bool)
  | checkOpen
  | checkOutstanding
  | reserve
  | refund
  | grant (gen credits : ℕ)
  | loadDoomed
  | closePool
deriving DecidableEq

inductive SessionOp
  | start (pieces : List Piece)
  | allocate
  | cancelOf (id epoch : ℕ)
  | readSessionId
  | readFlags
  | sign
  | encrypt
  | checkReply
  | setSessionId
  | activateSigning
  | activateEncryption
deriving DecidableEq

inductive WaiterOp
  | checkDisconnected
  | register
  | removeWaiter
  | dropGuard
  | dropGuards
  | markSent
  /-- `await_response` (with a deadline) or `recv` (without) on the first guard. A lenient caller
  notes an error and goes on with its next guard. -/
  | awaitResponse (deadline lenient : Bool)
  | drain
  | fanSend
  | notePending (id : ℕ) (asyncId : Option ℕ)
  | route (id : ℕ) (ok : Bool)
deriving DecidableEq

/-- Operations on the writer queues. The Boolean says whether a failed send calls
`remove_waiter` before it returns its error. -/
inductive QueueOp
  | snapshot
  | enqueue (remove : Bool)
  | awaitAck (remove : Bool)
  | recvJob (gen : ℕ)
  | finishSend (gen : ℕ)
  | exitWriter (gen : ℕ)
deriving DecidableEq

/-- Operations of the receiver task and of the revival, among them the steps of
`install_transport`. -/
inductive ControlOp
  | receive (gen : ℕ)
  | checkNeeded
  | loadRevivals
  | lockRevive
  | checkRevived
  | checkStillDead
  | cooldown
  | attempt (first : Bool) (left : ℕ)
  | backoff
  | dial
  | resetCredits
  | resetMessageId
  | wipeCrypto
  | swapQueue
  | spawnPlumbing
  | clearDisconnected
  | revived
  | giveUp
  | abandon
  /-- Release the lock and return `Ok`: somebody else revived the connection. -/
  | unlock
deriving DecidableEq

inductive Op
  | credit (o : CreditOp)
  | session (o : SessionOp)
  | waiter (o : WaiterOp)
  | queue (o : QueueOp)
  | control (o : ControlOp)
deriving DecidableEq

/-! ## Tasks -/

inductive Role
  | caller
  | writer (gen : ℕ)
  | receiver (gen : ℕ)
deriving DecidableEq

/-- Credits taken for a request (`CreditReservation`). The source keeps only a reference to the
pool. -/
structure Reservation where
  charge : ℕ
  /-- *Ghost*: the semaphore the credits are from. -/
  pool : ℕ
  /-- *Ghost*: the message ids allocated on them. -/
  taken : ℕ
deriving DecidableEq

/-- A registered waiter's other half (`WaiterGuard`), with the generation of its registration
and of its id (*ghost*). -/
structure Guard where
  id : ℕ
  rx : ℕ
  gen : ℕ
  epoch : ℕ
deriving DecidableEq

inductive Teardown
  | none
  | drained
  | loaded (pool : ℕ)
deriving DecidableEq

/-- **A task**: what it has left to do, and its registers. -/
structure Task where
  role : Role
  prog : List Op
  onError : List Op := []
  pool : ℕ
  credit : Option Reservation := none
  refunding : Option Reservation := none
  pending : List Piece := []
  subs : List Sub := []
  ready : List Sub := []
  sessionId : ℕ := 0
  shouldSign : Bool := false
  shouldEncrypt : Bool := false
  protection : Protection := .plain
  /-- *Ghost*: what was read so far, and from which generation. -/
  stamps : List (Part × ℕ) := []
  /-- *Ghost*: the value of `SessionState.swaps` at the first of these reads. -/
  begun : ℕ := 0
  guards : List Guard := []
  outbox : Option (ℕ × Outgoing) := none
  ack : Option (ℕ × ℕ) := none
  teardown : Teardown := .none
  drained : List ℕ := []
  seen : ℕ := 0
deriving DecidableEq

end Smb2.Connection
