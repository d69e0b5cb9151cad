import Smb2.Client.Connection.Calls
import Smb2.Lib.Run

set_option autoImplicit false

/-!
# Steps of a connection

What each micro-operation does, and the transition system of a whole connection: in one step one
task executes its next operation, a new call starts, a caller's future is dropped at an await,
the budget of a revival runs out, or the runtime gets round to a task that was aborted.

The operations of a family see only their own part of the shared state, so that what a family
leaves alone is visible in its type.

## Implementation notes

`none` means that the operation is not enabled: an await that is still pending, or a choice that
does not fit the operation.
-/

namespace Smb2.Connection

inductive Choice
  | go
  /-- The operation fails: a dial, a reply that is rejected, a write that breaks off, a receive. -/
  | fail
  /-- The transport refuses the frame as too large, before writing any of it. -/
  | refuse
  | timeout (unresponsive : Bool)
  | frame (subs : List SubFrame) (malformed : Bool)
  | session (id : ℕ)
  | signing (key : Bytes) (algorithm : SigningAlgorithm)
  | encryption (encryptionKey decryptionKey : Bytes) (cipher : Cipher)
deriving DecidableEq

/-- An operation returns an error after the operations `pre`: the request's locals are dropped,
and the reservation among them is on its way back. -/
def Task.fail (t : Task) (pre : List Op) : Task :=
  { t with
    prog := pre ++ unwind ++ t.onError, onError := [], credit := none, refunding := t.credit,
    pending := [], subs := [], ready := [], stamps := [], outbox := none, ack := none }

/-! ## Credits -/

def Task.totalCharge (t : Task) : ℕ := saturatingSum (t.pending.map Piece.span)

def Task.reserved (t : Task) : Task :=
  { t with credit := some ⟨t.totalCharge, t.pool, 0⟩ }

def CreditOp.exec (p : CreditPool) (idle : Bool) (t : Task) (c : Choice) :
    CreditOp → Option (CreditPool × Task)
  | .current => some (p, { t with pool := p.live })
  | .tryReserve wait =>
    match p.tryReserve t.pool t.totalCharge with
    | some p' => some (p', t.reserved)
    | none => some (p, { t with prog := if wait then waitForCredits ++ t.prog else [] })
  | .checkOpen => some (p, if (p.semaphores t.pool).closed then t.fail [] else t)
  | .checkOutstanding => some (p, if idle then t.fail [] else t)
  | .reserve =>
    match c with
    | .go =>
      if (p.semaphores t.pool).closed then some (p, t.fail [])
      else (p.tryReserve t.pool t.totalCharge).map fun p' => (p', t.reserved)
    | .timeout _ => some (p, t.fail [])
    | _ => none
  | .refund =>
    match t.refunding with
    | some r => some (p.addPermits t.pool r.charge, { t with refunding := none })
    | none => some (p, t)
  | .grant gen credits => some ((p.addPermits t.pool credits).bank gen credits, t)
  | .loadDoomed =>
    some (p, { t with teardown := if t.teardown = .drained then .loaded p.live else t.teardown })
  | .closePool =>
    match t.teardown with
    | .loaded k => some (p.close k, { t with teardown := .none })
    | _ => some (p, t)

/-! ## Session -/

def Task.stamp (t : Task) (s : SessionState) (part : Part) (epoch : ℕ) : Task :=
  { t with
    stamps := (part, epoch) :: t.stamps,
    begun := if t.stamps = [] then s.swaps else t.begun }

def signFrame (s : SessionState) (t : Task) : Task :=
  if t.shouldSign && !t.shouldEncrypt then
    match s.crypto.signingKey, s.crypto.signingAlgorithm with
    | some key, some algorithm =>
      if algorithm.acceptsKey key then
        { t.stamp s .key s.cryptoEpoch with protection := .signed key algorithm }
      else t.fail []
    | _, _ => t
  else t

/-- `encrypt_bytes`: without a key, a cipher or a nonce generator, or with a key of the wrong
length, it fails. The nonce is used up even then. -/
def encryptFrame (s : SessionState) (t : Task) : SessionState × Task :=
  if t.shouldEncrypt then
    match s.crypto.encryptionKey, s.crypto.encryptionCipher, s.crypto.nonceGen with
    | some key, some cipher, some nonce =>
      let s' := { s with crypto := { s.crypto with nonceGen := some (nonce + 1) } }
      if key.length = cipher.keyLen then
        (s', { t.stamp s .key s.cryptoEpoch with protection := .encrypted key cipher nonce })
      else (s', t.fail [])
    | _, _, _ => (s, t.fail [])
  else (s, t)

def SessionOp.exec (s : SessionState) (t : Task) (c : Choice) :
    SessionOp → Option (SessionState × Task)
  | .start pieces =>
    some (s, { t with
      pending := pieces, subs := [], ready := [], credit := none, sessionId := 0,
      shouldSign := false, shouldEncrypt := false, protection := .plain, stamps := [],
      outbox := none, ack := none })
  | .allocate =>
    match t.pending with
    | piece :: rest =>
      some ({ s with nextMessageId := s.nextMessageId + piece.span },
        { t.stamp s .messageId s.idEpoch with
          pending := rest,
          credit := t.credit.map fun r => { r with taken := r.taken + piece.span },
          subs := t.subs ++ [⟨s.nextMessageId, piece.span, piece.charge, s.idEpoch⟩] })
    | [] => none
  | .cancelOf id epoch =>
    some (s, { t.stamp s .messageId epoch with ready := [⟨id, 0, 0, epoch⟩] })
  | .readSessionId =>
    some (s, { t.stamp s .sessionId s.cryptoEpoch with sessionId := s.crypto.sessionId })
  | .readFlags =>
    some (s, { t.stamp s .flags s.cryptoEpoch with
      shouldSign := s.crypto.shouldSign, shouldEncrypt := s.crypto.shouldEncrypt })
  | .sign => some (s, signFrame s t)
  | .encrypt => some (encryptFrame s t)
  | .checkReply => some (s, if c = .fail then t.fail [] else t)
  | .setSessionId =>
    match c with
    | .session id => some ({ s with crypto := { s.crypto with sessionId := id } }, t)
    | .fail => some (s, t.fail [])
    | _ => none
  | .activateSigning =>
    match c with
    | .signing key algorithm =>
      some ({ s with crypto := { s.crypto with
        signingKey := some key, signingAlgorithm := some algorithm, shouldSign := true } }, t)
    | _ => some (s, t)
  | .activateEncryption =>
    match c with
    | .encryption encKey decKey cipher =>
      some ({ s with crypto := { s.crypto with
        encryptionKey := some encKey, decryptionKey := some decKey,
        encryptionCipher := some cipher, shouldEncrypt := true, nonceGen := some 0 } }, t)
    | _ => some (s, t)

/-! ## Waiters -/

namespace Routing

def deliver (r : Routing) (channel : ℕ) (reply : Reply) : Routing :=
  if r.replies channel = .empty then
    { r with replies := Function.update r.replies channel reply }
  else r

def remove (r : Routing) (id : ℕ) : Routing :=
  match r.waiters.lookup id with
  | some w => { r.deliver w.tx .closed with waiters := r.waiters.erase id }
  | none => r

def insert (r : Routing) (id gen : ℕ) : Routing :=
  { r.remove id with
    waiters := r.waiters.insert id ⟨r.nextChannel, false, 0, none, gen⟩,
    nextChannel := r.nextChannel + 1 }

def modify (r : Routing) (id : ℕ) (f : Waiter → Waiter) : Routing :=
  match r.waiters.lookup id with
  | some w => { r with waiters := r.waiters.insert id (f w) }
  | none => r

def route (r : Routing) (id : ℕ) (ok : Bool) : Routing :=
  match r.waiters.lookup id with
  | some w =>
    { r.deliver w.tx (if ok then .frame else .error) with waiters := r.waiters.erase id }
  | none => r

def markSent (r : Routing) (id : ℕ) : Routing :=
  r.modify id fun w => { w with sent := true, activity := w.activity + 1 }

def notePending (r : Routing) (id : ℕ) (asyncId : Option ℕ) : Routing :=
  r.modify id fun w =>
    { w with activity := w.activity + 1, asyncId := asyncId.orElse fun _ => w.asyncId }

end Routing

def WaiterOp.exec (r : Routing) (gen : ℕ) (t : Task) (c : Choice) :
    WaiterOp → Option (Routing × Task)
  | .checkDisconnected => some (r, if r.disconnected then t.fail [] else t)
  | .register =>
    match t.subs with
    | [] => none
    | s :: rest =>
      if r.disconnected then some (r, t.fail [])
      else some (r.insert s.id gen, { t with
        subs := rest, ready := t.ready ++ [s],
        guards := t.guards ++ [⟨s.id, r.nextChannel, gen, s.epoch⟩] })
  | .removeWaiter =>
    match t.guards with
    | [] => some (r, t)
    | g :: _ => some (r.remove g.id, t)
  | .dropGuard =>
    match t.guards with
    | [] => some (r, t)
    | g :: rest => some (r.remove g.id, { t with guards := rest })
  | .dropGuards =>
    match t.guards with
    | [] => some (r, t)
    | g :: rest =>
      some (r.remove g.id, { t with guards := rest, prog := .waiter .dropGuards :: t.prog })
  | .markSent => some (t.guards.foldl (fun r g => r.markSent g.id) r, t)
  | .awaitResponse deadline lenient =>
    match t.guards, c with
    | g :: _, .go =>
      match r.replies g.rx with
      | .empty => none
      | .frame => some (r, { t with prog := .waiter .dropGuard :: t.prog })
      | _ =>
        some (r, if lenient then { t with prog := .waiter .dropGuard :: t.prog } else t.fail [])
    | g :: _, .timeout unresponsive =>
      if deadline && (r.waiters.lookup g.id).isSome then
        some (r, if lenient then
            { t with prog := responseFailed unresponsive ++ .waiter .dropGuard :: t.prog }
          else t.fail (responseFailed unresponsive))
      else none
    | _, _ => none
  | .drain =>
    some ({ r with disconnected := true, waiters := ∅ },
      { t with teardown := .drained, drained := r.waiters.entries.map fun e => e.2.tx })
  | .fanSend =>
    some (t.drained.foldl (fun r channel => r.deliver channel .error) r, { t with drained := [] })
  | .notePending id asyncId => some (r.notePending id asyncId, t)
  | .route id ok => some (r.route id ok, t)

/-! ## Writer queues -/

namespace Plumbing

def set (q : Plumbing) (gen : ℕ) (x : WriteQueue) : Plumbing :=
  { q with queues := Function.update q.queues gen x }

end Plumbing

namespace WriteQueue

def setAck (x : WriteQueue) (seq : ℕ) (a : Ack) : WriteQueue :=
  { x with acks := Function.update x.acks seq a }

def push (x : WriteQueue) (f : Outgoing) : WriteQueue :=
  { x with jobs := x.jobs ++ [⟨f, x.nextSeq⟩], nextSeq := x.nextSeq + 1 }

def beginWrite (x : WriteQueue) (j : Job) (rest : List Job) : WriteQueue :=
  { x.setAck j.seq .writing with
    jobs := rest, writing := some j, wire := x.wire ++ [j.frame] }

def refuseWrite (x : WriteQueue) (j : Job) (rest : List Job) : WriteQueue :=
  { x.setAck j.seq .refused with jobs := rest }

def endWrite (x : WriteQueue) (j : Job) (a : Ack) : WriteQueue :=
  { x.setAck j.seq a with writing := none }

/-- The writer is gone: nothing can be enqueued, the jobs left are dropped, and a write that had
begun never ends. -/
def shut (x : WriteQueue) : WriteQueue :=
  { x with
    isOpen := false, jobs := [], writing := none,
    acks := fun seq =>
      if seq ∈ x.jobs.map Job.seq then .dropped
      else if seq ∈ x.writing.map Job.seq then .failed else x.acks seq }

end WriteQueue

def Task.outgoing (t : Task) (owner : ℕ) : Outgoing :=
  ⟨t.ready ++ t.subs, t.sessionId, t.protection, t.stamps, owner⟩

def QueueOp.exec (q : Plumbing) (i : ℕ) (t : Task) (c : Choice) :
    QueueOp → Option (Plumbing × Task)
  | .snapshot =>
    some (q, { t with outbox := some (q.writeTx, t.outgoing i), subs := [], ready := [] })
  | .enqueue remove =>
    match t.outbox with
    | none => none
    | some (gen, f) =>
      let x := q.queues gen
      if x.isOpen then
        if x.jobs.length < writeQueueDepth then
          some (q.set gen (x.push f), { t with outbox := none, ack := some (gen, x.nextSeq) })
        else none
      else some (q, t.fail (sendFailed remove))
  | .awaitAck remove =>
    match t.ack with
    | none => none
    | some (gen, seq) =>
      match (q.queues gen).acks seq with
      | .queued | .writing => none
      | .ok => some (q, { t with credit := none })
      | _ => some (q, t.fail (sendFailed remove))
  | .recvJob gen =>
    let x := q.queues gen
    match x.jobs, c with
    | j :: rest, .go =>
      some (q.set gen (x.beginWrite j rest), { t with prog := [.queue (.finishSend gen)] })
    | j :: rest, .refuse =>
      some (q.set gen (x.refuseWrite j rest), { t with prog := writerLoop gen })
    | _, _ => none
  | .finishSend gen =>
    let x := q.queues gen
    match x.writing, c with
    | some j, .go => some (q.set gen (x.endWrite j .ok), { t with prog := writerLoop gen })
    | some j, .fail =>
      some (q.set gen (x.endWrite j .failed),
        { t with prog := fanErrorToWaiters ++ [.queue (.exitWriter gen)] })
    | _, _ => none
  | .exitWriter gen => some (q.set gen (q.queues gen).shut, t)

/-! ## The shared state as a whole -/

structure Shared where
  credits : CreditPool
  session : SessionState
  routing : Routing
  plumbing : Plumbing
  revival : Revival

def plumbingTasks (gen pool : ℕ) : List Task :=
  [{ role := .writer gen, prog := writerLoop gen, pool },
    { role := .receiver gen, prog := receiverLoop gen, pool }]

def Revival.release (v : Revival) : Revival := { v with lock := none, mode := .free }

/-- Operations of the receiver and of the revival, executed by task `i`; the list holds the tasks
that are spawned. -/
def ControlOp.exec (s : Shared) (i : ℕ) (t : Task) (c : Choice) :
    ControlOp → Option (Shared × Task × List Task)
  | .receive gen =>
    match c with
    | .frame subs malformed => some (s, { t with prog := handleFrame gen subs malformed }, [])
    | .fail => some (s, { t with prog := fanErrorToWaiters }, [])
    | _ => none
  | .checkNeeded =>
    some (s, if s.routing.disconnected then t else { t with prog := [] }, [])
  | .loadRevivals => some (s, { t with seen := s.revival.revivals }, [])
  | .lockRevive =>
    if s.revival.lock = none then
      some ({ s with revival := { s.revival with lock := some i, mode := .locked } }, t, [])
    else none
  | .checkRevived =>
    some (s, if s.revival.revivals = t.seen then t else { t with prog := [.control .unlock] }, [])
  | .checkStillDead =>
    if s.routing.disconnected then
      some ({ s with revival := { s.revival with mode := .dead } }, t, [])
    else some (s, { t with prog := [.control .unlock] }, [])
  | .cooldown => some (s, if c = .fail then { t with prog := [.control .giveUp] } else t, [])
  | .attempt first left =>
    some (s, { t with prog := attemptBody first, onError := attemptFailed left }, [])
  | .backoff => some (s, t, [])
  | .dial => some (s, if c = .fail then t.fail [] else t, [])
  | .resetCredits =>
    some ({ s with credits := s.credits.reset,
                   revival := { s.revival with mode := .swapping 1 } }, t, [])
  | .resetMessageId =>
    some ({ s with
      session := { s.session with
        nextMessageId := 0, idEpoch := s.session.idEpoch + 1, swaps := s.session.swaps + 1 },
      revival := { s.revival with mode := .swapping 2 } }, t, [])
  | .wipeCrypto =>
    some ({ s with
      session := { s.session with
        crypto := {}, cryptoEpoch := s.session.cryptoEpoch + 1, swaps := s.session.swaps + 1 },
      revival := { s.revival with mode := .swapping 3 } }, t, [])
  | .swapQueue =>
    let gen := s.plumbing.writeTx + 1
    some ({ s with
      plumbing := { s.plumbing.set gen .new with writeTx := gen },
      session := { s.session with swaps := s.session.swaps + 1 },
      revival := { s.revival with mode := .swapping 4, building := some i } }, t, [])
  | .spawnPlumbing =>
    some ({ s with revival := { s.revival with mode := .swapping 5 } }, t,
      plumbingTasks s.plumbing.writeTx s.credits.live)
  | .clearDisconnected =>
    some ({ s with routing := { s.routing with disconnected := false },
                   revival := { s.revival with mode := .halfBuilt } }, t, [])
  | .revived =>
    some ({ s with revival := { s.revival.release with
      revivals := s.revival.revivals + 1, building := none } }, { t with onError := [] }, [])
  | .giveUp | .abandon => some ({ s with revival := s.revival.release }, { t with onError := [] }, [])
  | .unlock =>
    some ({ s with revival := s.revival.release }, { t with prog := [], onError := [] }, [])

def Revival.afterWaiter (v : Revival) (i : ℕ) (o : WaiterOp) : Revival :=
  if o = .drain ∧ v.lock = some i ∧ v.mode = .halfBuilt then { v with mode := .dead } else v

/-- **One operation** of task `i`; `t` has it taken off its list already. -/
def exec (s : Shared) (i : ℕ) (t : Task) (c : Choice) : Op → Option (Shared × Task × List Task)
  | .credit o =>
    (o.exec s.credits s.routing.waiters.entries.isEmpty t c).map fun x =>
      ({ s with credits := x.1 }, x.2, [])
  | .session o => (o.exec s.session t c).map fun x => ({ s with session := x.1 }, x.2, [])
  | .waiter o =>
    (o.exec s.routing s.plumbing.writeTx t c).map fun x =>
      ({ s with routing := x.1, revival := s.revival.afterWaiter i o }, x.2, [])
  | .queue o => (o.exec s.plumbing i t c).map fun x => ({ s with plumbing := x.1 }, x.2, [])
  | .control o => o.exec s i t c

def Op.isAwait : Op → Bool
  | .credit .reserve => true
  | .waiter (.awaitResponse _ _) => true
  | .queue (.enqueue _) | .queue (.awaitAck _) | .queue (.recvJob _) | .queue (.finishSend _) =>
    true
  | .control (.receive _) | .control .lockRevive | .control .backoff | .control .dial => true
  | _ => false

/-! ## The transition system -/

/-- **A connection**: its shared state and its tasks. Finished tasks stay in the list with nothing
left to do. -/
structure World where
  shared : Shared
  tasks : List Task

inductive Action
  | spawn (call : Call)
  | run (i : ℕ) (c : Choice)
  | drop (i : ℕ)
  | expire (i : ℕ)
  | reap (i : ℕ)
deriving DecidableEq

def turns (i n : ℕ) : List Action := List.replicate n (.run i .go)

def Task.parked (t : Task) : Bool :=
  match t.prog with
  | op :: _ => op.isAwait
  | [] => false

def Task.dropped (t : Task) (ownsLock : Bool) : Task :=
  { t.fail [] with prog := unwind ++ if ownsLock then [.control .abandon] else [] }

def Task.expired (t : Task) : Task :=
  { t.fail [] with prog := unwind ++ markDead ++ [.control .giveUp] }

def Task.reaped (t : Task) : Task :=
  match t.role with
  | .writer gen => { t.fail [] with prog := [.queue (.exitWriter gen)] }
  | _ => { t.fail [] with prog := [] }

/-- A background task whose transport has been replaced; `spawn_plumbing` aborted it. -/
def Task.aborted (t : Task) (s : Shared) : Bool :=
  match t.role with
  | .writer gen | .receiver gen => gen < s.plumbing.writeTx
  | .caller => false

def Call.task (call : Call) (pool : ℕ) : Task :=
  { role := .caller, prog := call.program, pool }

def step (w : World) : Action → Option World
  | .spawn call =>
    some { w with tasks := w.tasks ++ [call.task w.shared.credits.live] }
  | .run i c =>
    match w.tasks[i]? with
    | some t =>
      match t.prog with
      | op :: rest =>
        (exec w.shared i { t with prog := rest } c op).map fun x =>
          ⟨x.1, w.tasks.set i x.2.1 ++ x.2.2⟩
      | [] => none
    | none => none
  | .drop i =>
    match w.tasks[i]? with
    | some t =>
      if t.role = .caller ∧ t.parked then
        some { w with tasks := w.tasks.set i (t.dropped (w.shared.revival.lock = some i)) }
      else none
    | none => none
  | .expire i =>
    match w.tasks[i]? with
    | some t =>
      if w.shared.revival.lock = some i ∧ t.parked then
        some { w with tasks := w.tasks.set i t.expired }
      else none
    | none => none
  | .reap i =>
    match w.tasks[i]? with
    | some t =>
      if t.aborted w.shared ∧ t.parked then
        some { w with tasks := w.tasks.set i t.reaped }
      else none
    | none => none

/-- A fresh connection (`from_transport`): one credit, message ids from 0, no session. -/
def init : World where
  shared :=
    { credits := .new
      session := ⟨0, 0, {}, 0, 0⟩
      routing := ⟨∅, false, fun _ => .empty, 0⟩
      plumbing := ⟨0, fun gen => if gen = 0 then .new else .absent⟩
      revival := ⟨0, none, .free, none⟩ }
  tasks := plumbingTasks 0 0

def answeredRequest : List Action :=
  .spawn (.execute 1) :: turns 2 12 ++ turns 0 2 ++ turns 2 2 ++
    .run 1 (.frame [⟨0, 5, .route true⟩] false) :: turns 1 3 ++ turns 2 2

def revivedConnection : List Action :=
  .spawn .markDead :: turns 2 4 ++ .spawn (.reconnect 1) :: turns 3 25 ++ turns 4 2

end Smb2.Connection
