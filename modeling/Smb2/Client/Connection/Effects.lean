import Smb2.Client.Connection.Routing

set_option autoImplicit false

/-!
# The ways a step can go

For each family of operations, the ways an operation can go: what it needs, what it does to its
part of the shared state, and what it does to its task. Everything that is proved about steps is
proved by cases on these relations; the definitions of `Smb2.Connection.exec` and
`Smb2.Connection.step` are unfolded only here.
-/

open Option

namespace Smb2.Connection

/-! ## Credits -/

inductive CreditEffect (p : CreditPool) (idle : Bool) (t : Task) :
    CreditOp → CreditPool → Task → Prop
  | current : CreditEffect p idle t .current p { t with pool := p.live }
  | tryReserved {wait : Bool} {p' : CreditPool}
    (h : p.tryReserve t.pool t.totalCharge = some p') :
    CreditEffect p idle t (.tryReserve wait) p' t.reserved
  | mustWait : CreditEffect p idle t (.tryReserve true) p
      { t with prog := waitForCredits ++ t.prog }
  | skipped : CreditEffect p idle t (.tryReserve false) p { t with prog := [] }
  | isOpen : CreditEffect p idle t .checkOpen p t
  | isClosed (h : (p.semaphores t.pool).closed = true) :
    CreditEffect p idle t .checkOpen p (t.fail [])
  | outstanding : CreditEffect p idle t .checkOutstanding p t
  | starved : CreditEffect p idle t .checkOutstanding p (t.fail [])
  | reserved {p' : CreditPool} (h : p.tryReserve t.pool t.totalCharge = some p') :
    CreditEffect p idle t .reserve p' t.reserved
  | waitFailed : CreditEffect p idle t .reserve p (t.fail [])
  | refunded {r : Reservation} (h : t.refunding = some r) :
    CreditEffect p idle t .refund (p.addPermits t.pool r.charge) { t with refunding := none }
  | nothingToRefund (h : t.refunding = none) : CreditEffect p idle t .refund p t
  | granted {gen credits : ℕ} :
    CreditEffect p idle t (.grant gen credits) ((p.addPermits t.pool credits).bank gen credits) t
  | doomed (h : t.teardown = .drained) :
    CreditEffect p idle t .loadDoomed p { t with teardown := .loaded p.live }
  | notDoomed (h : t.teardown ≠ .drained) : CreditEffect p idle t .loadDoomed p t
  | closed {k : ℕ} (h : t.teardown = .loaded k) :
    CreditEffect p idle t .closePool (p.close k) { t with teardown := .none }
  | nothingToClose (h : ∀ k, t.teardown ≠ .loaded k) : CreditEffect p idle t .closePool p t

variable {t t' : Task} {c : Choice} {i : ℕ} {w w' : World} {a : Action}

lemma CreditOp.effect_of_exec {o : CreditOp} {p p' : CreditPool} {idle : Bool}
    (h : o.exec p idle t c = some (p', t')) : CreditEffect p idle t o p' t' := by
  revert h
  fun_cases o.exec p idle t c <;> intro h <;> try cases h
  · exact .current
  · exact .tryReserved ‹_›
  · rename_i wait hnone
    cases wait with
    | true => exact .mustWait
    | false => exact .skipped
  · split
    · exact .isClosed ‹_›
    · exact .isOpen
  · split
    · exact .starved
    · exact .outstanding
  · exact .waitFailed
  · obtain ⟨p'', hres, heq⟩ := map_eq_some_iff.1 h
    cases heq
    exact .reserved hres
  · exact .waitFailed
  · exact .refunded ‹_›
  · exact .nothingToRefund ‹_›
  · exact .granted
  · split
    · exact .doomed ‹_›
    · exact .notDoomed ‹_›
  · exact .closed ‹_›
  · exact .nothingToClose ‹_›

/-! ## Session -/

def Task.allocated (t : Task) (s : SessionState) (piece : Piece) (rest : List Piece) : Task :=
  { t.stamp s .messageId s.idEpoch with
    pending := rest
    credit := t.credit.map fun r => { r with taken := r.taken + piece.span }
    subs := t.subs ++ [⟨s.nextMessageId, piece.span, piece.charge, s.idEpoch⟩] }

inductive SessionEffect (s : SessionState) (t : Task) : SessionOp → SessionState → Task → Prop
  | start (pieces : List Piece) : SessionEffect s t (.start pieces) s
      { t with
        pending := pieces, subs := [], ready := [], credit := none, sessionId := 0,
        shouldSign := false, shouldEncrypt := false, protection := .plain, stamps := [],
        outbox := none, ack := none }
  | allocated {piece : Piece} {rest : List Piece} (h : t.pending = piece :: rest) :
    SessionEffect s t .allocate { s with nextMessageId := s.nextMessageId + piece.span }
      (t.allocated s piece rest)
  | cancelOf (id epoch : ℕ) : SessionEffect s t (.cancelOf id epoch) s
      { t.stamp s .messageId epoch with ready := [⟨id, 0, 0, epoch⟩] }
  | readSessionId : SessionEffect s t .readSessionId s
      { t.stamp s .sessionId s.cryptoEpoch with sessionId := s.crypto.sessionId }
  | readFlags : SessionEffect s t .readFlags s
      { t.stamp s .flags s.cryptoEpoch with
        shouldSign := s.crypto.shouldSign, shouldEncrypt := s.crypto.shouldEncrypt }
  | unsigned : SessionEffect s t .sign s t
  | signed (key : Bytes) (algorithm : SigningAlgorithm) : SessionEffect s t .sign s
      { t.stamp s .key s.cryptoEpoch with protection := .signed key algorithm }
  | signFailed {key : Bytes} {algorithm : SigningAlgorithm} (hflags : t.shouldSign = true)
    (hkey : s.crypto.signingKey = some key) (halg : s.crypto.signingAlgorithm = some algorithm)
    (hlen : algorithm.acceptsKey key = false) : SessionEffect s t .sign s (t.fail [])
  | unencrypted : SessionEffect s t .encrypt s t
  | encrypted (key : Bytes) (cipher : Cipher) (nonce : ℕ) : SessionEffect s t .encrypt
      { s with crypto := { s.crypto with nonceGen := some (nonce + 1) } }
      { t.stamp s .key s.cryptoEpoch with protection := .encrypted key cipher nonce }
  | encryptFailed (crypto : CryptoState) (hflags : t.shouldEncrypt = true)
    (hbad : ∀ key cipher nonce, s.crypto.encryptionKey = some key →
      s.crypto.encryptionCipher = some cipher → s.crypto.nonceGen = some nonce →
      key.length ≠ cipher.keyLen) :
    SessionEffect s t .encrypt { s with crypto } (t.fail [])
  | accepted : SessionEffect s t .checkReply s t
  | rejected : SessionEffect s t .checkReply s (t.fail [])
  | setSessionId (id : ℕ) : SessionEffect s t .setSessionId
      { s with crypto := { s.crypto with sessionId := id } } t
  | setupFailed : SessionEffect s t .setSessionId s (t.fail [])
  | signing (crypto : CryptoState) : SessionEffect s t .activateSigning { s with crypto } t
  | encryption (crypto : CryptoState) : SessionEffect s t .activateEncryption { s with crypto } t

lemma SessionOp.effect_of_exec {o : SessionOp} {s s' : SessionState}
    (h : o.exec s t c = some (s', t')) : SessionEffect s t o s' t' := by
  revert h
  fun_cases o.exec s t c <;> intro h <;> try cases h
  · exact .start _
  · exact .allocated ‹_›
  · exact .cancelOf _ _
  · exact .readSessionId
  · exact .readFlags
  · fun_cases signFrame s t
    · exact .signed _ _
    · exact .signFailed (by simp_all) ‹_› ‹_› (by simp_all)
    · exact .unsigned
    · exact .unsigned
  · obtain ⟨rfl, rfl⟩ := Prod.ext_iff.1 (some.inj h)
    fun_cases encryptFrame s t
    · exact .encrypted _ _ _
    · exact .encryptFailed _ ‹_› (by simp_all)
    · rename_i hflags hnone
      exact .encryptFailed s.crypto hflags fun key cipher nonce hkey hcipher hnonce =>
        (hnone key cipher nonce hkey hcipher hnonce).elim
    · exact .unencrypted
  · split
    · exact .rejected
    · exact .accepted
  · exact .setSessionId _
  · exact .setupFailed
  · exact .signing _
  · exact .signing s.crypto
  · exact .encryption _
  · exact .encryption s.crypto

/-! ## Waiters -/

inductive WaiterEffect (r : Routing) (gen : ℕ) (t : Task) : WaiterOp → Routing → Task → Prop
  | connected (h : r.disconnected = false) : WaiterEffect r gen t .checkDisconnected r t
  | disconnected (h : r.disconnected = true) :
    WaiterEffect r gen t .checkDisconnected r (t.fail [])
  | registered {s : Sub} {rest : List Sub} (hsubs : t.subs = s :: rest)
    (h : r.disconnected = false) :
    WaiterEffect r gen t .register (r.insert s.id gen)
      { t with
        subs := rest, ready := t.ready ++ [s],
        guards := t.guards ++ [⟨s.id, r.nextChannel, gen, s.epoch⟩] }
  | registerFailed (h : r.disconnected = true) : WaiterEffect r gen t .register r (t.fail [])
  | removed {g : Guard} {rest : List Guard} (h : t.guards = g :: rest) :
    WaiterEffect r gen t .removeWaiter (r.remove g.id) t
  | nothingToRemove : WaiterEffect r gen t .removeWaiter r t
  | droppedGuard {g : Guard} {rest : List Guard} (h : t.guards = g :: rest) :
    WaiterEffect r gen t .dropGuard (r.remove g.id) { t with guards := rest }
  | noGuard : WaiterEffect r gen t .dropGuard r t
  | droppedGuards {g : Guard} {rest : List Guard} (h : t.guards = g :: rest) :
    WaiterEffect r gen t .dropGuards (r.remove g.id)
      { t with guards := rest, prog := .waiter .dropGuards :: t.prog }
  | noGuards : WaiterEffect r gen t .dropGuards r t
  | markedSent :
    WaiterEffect r gen t .markSent (t.guards.foldl (fun r g => r.markSent g.id) r) t
  | answered {deadline lenient : Bool} {g : Guard} {rest : List Guard}
    (h : t.guards = g :: rest) (hreply : r.replies g.rx ≠ .empty) :
    WaiterEffect r gen t (.awaitResponse deadline lenient) r
      { t with prog := .waiter .dropGuard :: t.prog }
  | answerFailed {deadline : Bool} {g : Guard} {rest : List Guard} (h : t.guards = g :: rest)
    (hreply : r.replies g.rx ≠ .empty) :
    WaiterEffect r gen t (.awaitResponse deadline false) r (t.fail [])
  | gaveUp {g : Guard} {rest : List Guard} (unresponsive : Bool) (h : t.guards = g :: rest)
    (hwaiter : (r.waiters.lookup g.id).isSome) :
    WaiterEffect r gen t (.awaitResponse true false) r (t.fail (responseFailed unresponsive))
  | wentOn {g : Guard} {rest : List Guard} (unresponsive : Bool) (h : t.guards = g :: rest)
    (hwaiter : (r.waiters.lookup g.id).isSome) :
    WaiterEffect r gen t (.awaitResponse true true) r
      { t with prog := responseFailed unresponsive ++ .waiter .dropGuard :: t.prog }
  | drained : WaiterEffect r gen t .drain { r with disconnected := true, waiters := ∅ }
      { t with teardown := .drained, drained := r.waiters.entries.map fun e => e.2.tx }
  | fanned : WaiterEffect r gen t .fanSend
      (t.drained.foldl (fun r channel => r.deliver channel .error) r) { t with drained := [] }
  | notedPending {id : ℕ} {asyncId : Option ℕ} :
    WaiterEffect r gen t (.notePending id asyncId) (r.notePending id asyncId) t
  | routed {id : ℕ} {ok : Bool} : WaiterEffect r gen t (.route id ok) (r.route id ok) t

lemma WaiterOp.effect_of_exec {o : WaiterOp} {r r' : Routing} {gen : ℕ}
    (h : o.exec r gen t c = some (r', t')) : WaiterEffect r gen t o r' t' := by
  revert h
  fun_cases o.exec r gen t c <;> intro h <;> cases h
  · split
    · exact .disconnected ‹_›
    · exact .connected (Bool.eq_false_of_not_eq_true ‹_›)
  · exact .registerFailed ‹_›
  · exact .registered ‹_› (Bool.eq_false_of_not_eq_true ‹_›)
  · exact .nothingToRemove
  · exact .removed ‹_›
  · exact .noGuard
  · exact .droppedGuard ‹_›
  · exact .noGuards
  · exact .droppedGuards ‹_›
  · exact .markedSent
  · exact .answered ‹_› (by simp_all)
  · rename_i deadline lenient g rest hguards hempty _
    cases lenient with
    | true => exact .answered hguards hempty
    | false => exact .answerFailed hguards hempty
  · rename_i deadline lenient g rest unresponsive hguards hdue
    obtain ⟨rfl, hwaiter⟩ := (Bool.and_eq_true _ _).mp hdue
    cases lenient with
    | true => exact .wentOn _ hguards hwaiter
    | false => exact .gaveUp _ hguards hwaiter
  · exact .drained
  · exact .fanned
  · exact .notedPending
  · exact .routed

/-! ## Writer queues -/

inductive QueueEffect (q : Plumbing) (i : ℕ) (t : Task) (c : Choice) :
    QueueOp → Plumbing → Task → Prop
  | snapshot : QueueEffect q i t c .snapshot q
      { t with outbox := some (q.writeTx, t.outgoing i), subs := [], ready := [] }
  | enqueued {remove : Bool} {gen : ℕ} {f : Outgoing} (h : t.outbox = some (gen, f))
    (hopen : (q.queues gen).isOpen = true) :
    QueueEffect q i t c (.enqueue remove) (q.set gen ((q.queues gen).push f))
      { t with outbox := none, ack := some (gen, (q.queues gen).nextSeq) }
  | enqueueFailed {remove : Bool} {gen : ℕ} {f : Outgoing} (h : t.outbox = some (gen, f))
    (hshut : (q.queues gen).isOpen = false) :
    QueueEffect q i t c (.enqueue remove) q (t.fail (sendFailed remove))
  | committed {remove : Bool} {gen seq : ℕ} (h : t.ack = some (gen, seq))
    (hack : (q.queues gen).acks seq = .ok) :
    QueueEffect q i t c (.awaitAck remove) q { t with credit := none }
  | sendFailed {remove : Bool} {gen seq : ℕ} (h : t.ack = some (gen, seq))
    (hack : (q.queues gen).acks seq = .refused ∨ (q.queues gen).acks seq = .failed ∨
      (q.queues gen).acks seq = .dropped) :
    QueueEffect q i t c (.awaitAck remove) q (t.fail (sendFailed remove))
  | began {gen : ℕ} {j : Job} {rest : List Job} (h : (q.queues gen).jobs = j :: rest) :
    QueueEffect q i t c (.recvJob gen) (q.set gen ((q.queues gen).beginWrite j rest))
      { t with prog := [.queue (.finishSend gen)] }
  | refused {gen : ℕ} {j : Job} {rest : List Job} (h : (q.queues gen).jobs = j :: rest)
    (hc : c = .refuse) :
    QueueEffect q i t c (.recvJob gen) (q.set gen ((q.queues gen).refuseWrite j rest))
      { t with prog := writerLoop gen }
  | finished {gen : ℕ} {j : Job} (h : (q.queues gen).writing = some j) :
    QueueEffect q i t c (.finishSend gen) (q.set gen ((q.queues gen).endWrite j .ok))
      { t with prog := writerLoop gen }
  | broke {gen : ℕ} {j : Job} (h : (q.queues gen).writing = some j) (hc : c = .fail) :
    QueueEffect q i t c (.finishSend gen) (q.set gen ((q.queues gen).endWrite j .failed))
      { t with prog := fanErrorToWaiters ++ [.queue (.exitWriter gen)] }
  | exited (gen : ℕ) :
    QueueEffect q i t c (.exitWriter gen) (q.set gen (q.queues gen).shut) t

lemma QueueOp.effect_of_exec {o : QueueOp} {q q' : Plumbing} (h : o.exec q i t c = some (q', t')) :
    QueueEffect q i t c o q' t' := by
  revert h
  fun_cases o.exec q i t c <;> intro h <;> cases h
  · exact .snapshot
  · exact .enqueued ‹_› ‹_›
  · exact .enqueueFailed ‹_› (Bool.eq_false_of_not_eq_true ‹_›)
  · exact .committed ‹_› ‹_›
  · rename_i gen seq hack hqueued hwriting hok
    refine .sendFailed hack ?_
    cases hstate : (q.queues gen).acks seq <;> simp_all
  · exact .began ‹_›
  · exact .refused ‹_› rfl
  · exact .finished ‹_›
  · exact .broke ‹_› rfl
  · exact .exited _

/-! ## Control -/

inductive ControlEffect (s : Shared) (i : ℕ) (t : Task) :
    ControlOp → Shared → Task → List Task → Prop
  | received {gen : ℕ} (subs : List SubFrame) (malformed : Bool) :
    ControlEffect s i t (.receive gen) s { t with prog := handleFrame gen subs malformed } []
  | receiveFailed {gen : ℕ} :
    ControlEffect s i t (.receive gen) s { t with prog := fanErrorToWaiters } []
  | needed : ControlEffect s i t .checkNeeded s t []
  | notNeeded : ControlEffect s i t .checkNeeded s { t with prog := [] } []
  | loadRevivals :
    ControlEffect s i t .loadRevivals s { t with seen := s.revival.revivals } []
  | locked (h : s.revival.lock = none) : ControlEffect s i t .lockRevive
      { s with revival := { s.revival with lock := some i, mode := .locked } } t []
  | sameRevival : ControlEffect s i t .checkRevived s t []
  | otherRevival : ControlEffect s i t .checkRevived s { t with prog := [.control .unlock] } []
  | stillDead (h : s.routing.disconnected = true) : ControlEffect s i t .checkStillDead
      { s with revival := { s.revival with mode := .dead } } t []
  | notDead : ControlEffect s i t .checkStillDead s { t with prog := [.control .unlock] } []
  | warm : ControlEffect s i t .cooldown s t []
  | coolingDown : ControlEffect s i t .cooldown s { t with prog := [.control .giveUp] } []
  | attempt (first : Bool) (left : ℕ) : ControlEffect s i t (.attempt first left) s
      { t with prog := attemptBody first, onError := attemptFailed left } []
  | backoff : ControlEffect s i t .backoff s t []
  | dialed : ControlEffect s i t .dial s t []
  | dialFailed : ControlEffect s i t .dial s (t.fail []) []
  | resetCredits : ControlEffect s i t .resetCredits
      { s with credits := s.credits.reset, revival := { s.revival with mode := .swapping 1 } } t []
  | resetMessageId : ControlEffect s i t .resetMessageId
      { s with
        session := { s.session with
          nextMessageId := 0, idEpoch := s.session.idEpoch + 1, swaps := s.session.swaps + 1 }
        revival := { s.revival with mode := .swapping 2 } } t []
  | wipeCrypto : ControlEffect s i t .wipeCrypto
      { s with
        session := { s.session with
          crypto := {}, cryptoEpoch := s.session.cryptoEpoch + 1, swaps := s.session.swaps + 1 }
        revival := { s.revival with mode := .swapping 3 } } t []
  | swapQueue : ControlEffect s i t .swapQueue
      { s with
        plumbing := { s.plumbing.set (s.plumbing.writeTx + 1) .new with
          writeTx := s.plumbing.writeTx + 1 }
        session := { s.session with swaps := s.session.swaps + 1 }
        revival := { s.revival with mode := .swapping 4, building := some i } } t []
  | spawnPlumbing : ControlEffect s i t .spawnPlumbing
      { s with revival := { s.revival with mode := .swapping 5 } } t
      (plumbingTasks s.plumbing.writeTx s.credits.live)
  | clearDisconnected : ControlEffect s i t .clearDisconnected
      { s with
        routing := { s.routing with disconnected := false }
        revival := { s.revival with mode := .halfBuilt } } t []
  | revived : ControlEffect s i t .revived
      { s with revival := { s.revival.release with
          revivals := s.revival.revivals + 1, building := none } } { t with onError := [] } []
  | giveUp : ControlEffect s i t .giveUp { s with revival := s.revival.release }
      { t with onError := [] } []
  | abandon : ControlEffect s i t .abandon { s with revival := s.revival.release }
      { t with onError := [] } []
  | unlock : ControlEffect s i t .unlock { s with revival := s.revival.release }
      { t with prog := [], onError := [] } []

lemma ControlOp.effect_of_exec {o : ControlOp} {s s' : Shared} {new : List Task}
    (h : o.exec s i t c = some (s', t', new)) :
    ControlEffect s i t o s' t' new := by
  revert h
  fun_cases o.exec s i t c <;> intro h <;> cases h
  · exact .received _ _
  · exact .receiveFailed
  · split
    · exact .needed
    · exact .notNeeded
  · exact .loadRevivals
  · exact .locked ‹_›
  · split
    · exact .sameRevival
    · exact .otherRevival
  · exact .stillDead ‹_›
  · exact .notDead
  · split
    · exact .coolingDown
    · exact .warm
  · exact .attempt _ _
  · exact .backoff
  · split
    · exact .dialFailed
    · exact .dialed
  · exact .resetCredits
  · exact .resetMessageId
  · exact .wipeCrypto
  · exact .swapQueue
  · exact .spawnPlumbing
  · exact .clearDisconnected
  · exact .revived
  · exact .giveUp
  · exact .abandon
  · exact .unlock

/-! ## Operations -/

inductive Effect (s : Shared) (i : ℕ) (t : Task) (c : Choice) :
    Op → Shared → Task → List Task → Prop
  | credit {o : CreditOp} {k' : CreditPool} {t' : Task}
    (h : CreditEffect s.credits s.routing.waiters.entries.isEmpty t o k' t') :
    Effect s i t c (.credit o) { s with credits := k' } t' []
  | session {o : SessionOp} {x' : SessionState} {t' : Task} (h : SessionEffect s.session t o x' t') :
    Effect s i t c (.session o) { s with session := x' } t' []
  | waiter {o : WaiterOp} {r' : Routing} {t' : Task}
    (h : WaiterEffect s.routing s.plumbing.writeTx t o r' t') :
    Effect s i t c (.waiter o)
      { s with routing := r', revival := s.revival.afterWaiter i o } t' []
  | queue {o : QueueOp} {q' : Plumbing} {t' : Task} (h : QueueEffect s.plumbing i t c o q' t') :
    Effect s i t c (.queue o) { s with plumbing := q' } t' []
  | control {o : ControlOp} {s' : Shared} {t' : Task} {new : List Task}
    (h : ControlEffect s i t o s' t' new) : Effect s i t c (.control o) s' t' new

lemma effect_of_exec {s s' : Shared} {new : List Task} {op : Op}
    (h : exec s i t c op = some (s', t', new)) : Effect s i t c op s' t' new := by
  cases op with
  | credit o =>
    obtain ⟨x, hx, heq⟩ := map_eq_some_iff.1 h
    obtain ⟨rfl, rfl, rfl⟩ := by simpa using heq
    exact .credit (o.effect_of_exec hx)
  | session o =>
    obtain ⟨x, hx, heq⟩ := map_eq_some_iff.1 h
    obtain ⟨rfl, rfl, rfl⟩ := by simpa using heq
    exact .session (o.effect_of_exec hx)
  | waiter o =>
    obtain ⟨x, hx, heq⟩ := map_eq_some_iff.1 h
    obtain ⟨rfl, rfl, rfl⟩ := by simpa using heq
    exact .waiter (o.effect_of_exec hx)
  | queue o =>
    obtain ⟨x, hx, heq⟩ := map_eq_some_iff.1 h
    obtain ⟨rfl, rfl, rfl⟩ := by simpa using heq
    exact .queue (o.effect_of_exec hx)
  | control o => exact .control (o.effect_of_exec h)

/-! ## What the families leave alone -/

section Frames

variable {t t' : Task} {c : Choice}

lemma CreditEffect.live_eq {o : CreditOp} {k k' : CreditPool} {idle : Bool}
    (h : CreditEffect k idle t o k' t') : k'.live = k.live := by
  cases h with
  | tryReserved h | reserved h => exact (CreditPool.live_tryReserve h).1
  | _ => rfl

lemma SessionEffect.epochs_eq {o : SessionOp} {s s' : SessionState}
    (h : SessionEffect s t o s' t') :
    s'.idEpoch = s.idEpoch ∧ s'.cryptoEpoch = s.cryptoEpoch ∧ s'.swaps = s.swaps := by
  cases h <;> exact ⟨rfl, rfl, rfl⟩

lemma WaiterEffect.disconnected_eq {o : WaiterOp} {r r' : Routing} {gen : ℕ}
    (h : WaiterEffect r gen t o r' t') :
    r'.disconnected = (r.disconnected || decide (o = .drain)) := by
  cases h <;> simp

lemma QueueEffect.writeTx_eq {o : QueueOp} {q q' : Plumbing} {i : ℕ}
    (h : QueueEffect q i t c o q' t') : q'.writeTx = q.writeTx := by
  cases h <;> rfl

variable {s s' : Shared} {i : ℕ} {op : Op} {new : List Task}

lemma Effect.credits_eq (h : Effect s i t c op s' t' new) (hop : ∀ o, op ≠ .credit o)
    (hreset : op ≠ .control .resetCredits) : s'.credits = s.credits := by
  cases h with
  | credit => exact absurd rfl (hop _)
  | control h =>
    cases h with
    | resetCredits => exact absurd rfl hreset
    | _ => rfl
  | _ => rfl

lemma Effect.routing_eq (h : Effect s i t c op s' t' new) (hop : ∀ o, op ≠ .waiter o)
    (hclear : op ≠ .control .clearDisconnected) : s'.routing = s.routing := by
  cases h with
  | waiter => exact absurd rfl (hop _)
  | control h =>
    cases h with
    | clearDisconnected => exact absurd rfl hclear
    | _ => rfl
  | _ => rfl

lemma Effect.plumbing_eq (h : Effect s i t c op s' t' new) (hop : ∀ o, op ≠ .queue o)
    (hswap : op ≠ .control .swapQueue) : s'.plumbing = s.plumbing := by
  cases h with
  | queue => exact absurd rfl (hop _)
  | control h =>
    cases h with
    | swapQueue => exact absurd rfl hswap
    | _ => rfl
  | _ => rfl

lemma Effect.writeTx_le (h : Effect s i t c op s' t' new) :
    s.plumbing.writeTx ≤ s'.plumbing.writeTx := by
  cases h with
  | queue h => exact h.writeTx_eq.ge
  | control h =>
    cases h with
    | swapQueue => exact Nat.le_succ _
    | _ => exact le_rfl
  | _ => exact le_rfl

lemma Effect.nextMessageId_le (h : Effect s i t c op s' t' new) :
    s'.session.idEpoch = s.session.idEpoch ∧
        s.session.nextMessageId ≤ s'.session.nextMessageId ∨
      s'.session.idEpoch = s.session.idEpoch + 1 := by
  cases h with
  | session h =>
    cases h with
    | allocated => exact .inl ⟨rfl, Nat.le_add_right ..⟩
    | _ => exact .inl ⟨rfl, le_rfl⟩
  | control h =>
    cases h with
    | resetMessageId => exact .inr rfl
    | _ => exact .inl ⟨rfl, le_rfl⟩
  | _ => exact .inl ⟨rfl, le_rfl⟩

lemma Effect.forall_new {P : Task → Prop} (h : Effect s i t c op s' t' new)
    (hP : ∀ gen pool, ∀ u ∈ plumbingTasks gen pool, P u) : ∀ u ∈ new, P u := by
  cases h with
  | control h =>
    cases h with
    | spawnPlumbing => exact hP _ _
    | _ => simp
  | _ => simp

end Frames

/-! ## Steps -/

/-- **The ways a step can go**, with what each requires and what it leaves. -/
inductive Stepped (w : World) : Action → World → Prop
  | spawn (call : Call) :
    Stepped w (.spawn call) { w with tasks := w.tasks ++ [call.task w.shared.credits.live] }
  | run {i : ℕ} {c : Choice} {t : Task} {op : Op} {rest : List Op} {s' : Shared} {t' : Task}
    {new : List Task} (ht : w.tasks[i]? = some t) (hop : t.prog = op :: rest)
    (heffect : Effect w.shared i { t with prog := rest } c op s' t' new) :
    Stepped w (.run i c) ⟨s', w.tasks.set i t' ++ new⟩
  | drop {i : ℕ} {t : Task} (ht : w.tasks[i]? = some t) (hrole : t.role = .caller)
    (hparked : t.parked) :
    Stepped w (.drop i)
      { w with tasks := w.tasks.set i (t.dropped (w.shared.revival.lock = some i)) }
  | expire {i : ℕ} {t : Task} (ht : w.tasks[i]? = some t)
    (hlock : w.shared.revival.lock = some i) (hparked : t.parked) :
    Stepped w (.expire i) { w with tasks := w.tasks.set i t.expired }
  | reap {i : ℕ} {t : Task} (ht : w.tasks[i]? = some t) (haborted : t.aborted w.shared)
    (hparked : t.parked) :
    Stepped w (.reap i) { w with tasks := w.tasks.set i t.reaped }

lemma stepped_of_step (h : step w a = some w') : Stepped w a w' := by
  revert h
  fun_cases step w a <;> intro h <;> try cases h
  · exact .spawn _
  · obtain ⟨out, hexec, rfl⟩ := map_eq_some_iff.1 h
    exact .run ‹_› ‹_› (effect_of_exec hexec)
  · exact .drop ‹_› (And.left ‹_›) (And.right ‹_›)
  · exact .expire ‹_› (And.left ‹_›) (And.right ‹_›)
  · exact .reap ‹_› (And.left ‹_›) (And.right ‹_›)

def Action.loses : Action → Option ℕ
  | .drop i | .expire i | .reap i => some i
  | .spawn _ | .run _ _ => none

def Task.lost (t : Task) (ops : List Op) : Task := { t.fail [] with prog := ops }

/-- **Step rule.** What holds after a call starts, after an operation and after a task lost its
locals holds after every step. -/
theorem step_cases {P : World → Prop} (h : step w a = some w')
    (hspawn : ∀ call, a = .spawn call →
      P { w with tasks := w.tasks ++ [Call.task call w.shared.credits.live] })
    (hrun : ∀ i c t op rest s' t' new, a = .run i c → w.tasks[i]? = some t → t.prog = op :: rest →
      Effect w.shared i { t with prog := rest } c op s' t' new → P ⟨s', w.tasks.set i t' ++ new⟩)
    (hlost : ∀ i t ops, a.loses = some i → w.tasks[i]? = some t → t.parked →
      P { w with tasks := w.tasks.set i (t.lost ops) }) :
    P w' := by
  cases stepped_of_step h with
  | spawn call => exact hspawn call rfl
  | run ht hop heffect => exact hrun _ _ _ _ _ _ _ _ rfl ht hop heffect
  | drop ht _ hparked => exact hlost _ _ _ rfl ht hparked
  | expire ht _ hparked => exact hlost _ _ _ rfl ht hparked
  | @reap i t ht _ hparked =>
    have hreaped : ∃ ops, t.reaped = t.lost ops := by
      unfold Task.reaped
      split <;> exact ⟨_, rfl⟩
    obtain ⟨ops, heq⟩ := hreaped
    rw [heq]
    exact hlost _ _ ops rfl ht hparked

lemma forall_tasks_of_step {P : Task → Prop} (hspawn : ∀ call pool, P (Call.task call pool))
    (hrun : ∀ s i t c op rest s' t' new, P t → t.prog = op :: rest →
      Effect s i { t with prog := rest } c op s' t' new → P t' ∧ ∀ u ∈ new, P u)
    (hdrop : ∀ t ownsLock, P t → P (t.dropped ownsLock)) (hexpire : ∀ t, P t → P t.expired)
    (hreap : ∀ t, P t → P t.reaped) (hw : ∀ t ∈ w.tasks, P t) (h : step w a = some w') :
    ∀ t ∈ w'.tasks, P t := by
  cases stepped_of_step h with
  | spawn call => exact Transition.forall_mem_concat hw (hspawn call _)
  | run ht hop heffect =>
    obtain ⟨ht', hnew⟩ := hrun _ _ _ _ _ _ _ _ _ (hw _ (List.mem_of_getElem? ht)) hop heffect
    exact Transition.forall_mem_set_append ht' hw hnew
  | drop ht => exact Transition.forall_mem_set (hdrop _ _ (hw _ (List.mem_of_getElem? ht))) hw
  | expire ht => exact Transition.forall_mem_set (hexpire _ (hw _ (List.mem_of_getElem? ht))) hw
  | reap ht => exact Transition.forall_mem_set (hreap _ (hw _ (List.mem_of_getElem? ht))) hw

end Smb2.Connection
