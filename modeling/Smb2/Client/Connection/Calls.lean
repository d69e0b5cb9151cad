import Smb2.Client.Connection.State

set_option autoImplicit false

/-!
# The functions of a connection, as operations

Each function of `client/connection.rs` that touches the shared state is the list of its
micro-operations, in the order of the source. A function that calls another has the other's list
inside its own. Where the source branches, the operation itself decides: it replaces what is
left of the task's list (`Smb2.Connection.exec`).
-/

open List

namespace Smb2.Connection

/-! ## Building blocks -/

def fanErrorToWaiters : List Op :=
  [.waiter .drain, .credit .loadDoomed, .credit .closePool, .waiter .fanSend]

def markDead : List Op := fanErrorToWaiters

/-- What leaving a request early drops, innermost first: its guards, then its reservation, which
goes back into the pool that is live by then. -/
def unwind : List Op := [.waiter .dropGuards, .credit .current, .credit .refund]

def reserveCredits : List Op := [.credit .current, .credit (.tryReserve true)]

def waitForCredits : List Op :=
  [.credit .current, .credit .checkOpen, .waiter .checkDisconnected, .credit .checkOutstanding,
    .credit .current, .credit .reserve]

def sendAndCount (remove : Bool) : List Op :=
  [.queue .snapshot, .queue (.enqueue remove), .queue (.awaitAck remove)]

def sendFailed (remove : Bool) : List Op := if remove then [.waiter .removeWaiter] else []

/-- What a caller does about a response that did not come, before it returns the error:
`remove_waiter` and, if the verdict is against the connection, `declare_unresponsive`. -/
def responseFailed (unresponsive : Bool) : List Op :=
  .waiter .removeWaiter :: if unresponsive then fanErrorToWaiters else []

/-! ## Sending a request -/

def charged (charge : ℕ) : Piece :=
  ⟨max charge 1, max charge 1, Nat.lt_of_lt_of_le Nat.zero_lt_one (Nat.le_max_right ..), le_rfl⟩

/-- From the allocation of the id to the protected bytes, in the order that
`execute_with_credits_inner` and `dispatch_reserved` have. -/
def buildRequest : List Op :=
  [.session .allocate, .session .readSessionId, .session .readFlags, .waiter .register,
    .session .encrypt, .session .sign]

def startRequest (pieces : List Piece) : List Op :=
  [.session (.start pieces), .waiter .checkDisconnected]

def awaitReply (deadline : Bool) : List Op :=
  [.waiter .markSent, .waiter (.awaitResponse deadline false)]

def executeWithCredits (charge : ℕ) : List Op :=
  startRequest [charged charge] ++ reserveCredits ++ buildRequest ++ sendAndCount true ++
    awaitReply true

/-- `execute_with_credits_capturing_request_inner`: as `execute_with_credits_inner`, but a
failed send leaves the waiter to its guard. -/
def executeCapturingRequest (charge : ℕ) : List Op :=
  startRequest [charged charge] ++ reserveCredits ++ buildRequest ++ sendAndCount false ++
    awaitReply true

def dispatchReserved : List Op :=
  .waiter .checkDisconnected :: buildRequest ++ sendAndCount false ++ awaitReply true

def dispatchWithCredits (charge : ℕ) : List Op :=
  startRequest [charged charge] ++ reserveCredits ++ dispatchReserved

/-- `echo_probe`: it never waits for a credit. Its own bound on the answer is the environment
dropping the task at the wait. -/
def echoProbe : List Op :=
  startRequest [charged 1] ++ .credit .current :: .credit (.tryReserve false) :: dispatchReserved

def executeCompound (charges : List ℕ) : List Op :=
  if charges = [] then [] else
    startRequest (charges.map charged) ++ .session .readFlags :: reserveCredits ++
      .session .readSessionId :: replicate charges.length (.session .allocate) ++
      .session .sign :: replicate charges.length (.waiter .register) ++
      .session .encrypt :: sendAndCount false ++
      .waiter .markSent :: replicate charges.length (.waiter (.awaitResponse true true))

/-- `send_cancel` for a request that was given its id in generation `epoch`. It costs no credits
and has no waiter. -/
def sendCancel (id epoch : ℕ) : List Op :=
  .session (.start []) :: .session .readFlags :: .session .readSessionId ::
    .session (.cancelOf id epoch) :: .session .encrypt :: .session .sign :: sendAndCount false

/-- `negotiate`: one credit and one id, a header whose `CreditCharge` stays 0, neither signed nor
encrypted. -/
def negotiate : List Op :=
  .session (.start [⟨1, 0, Nat.zero_lt_one, Nat.zero_le 1⟩]) :: reserveCredits ++
    .session .allocate :: .waiter .register :: sendAndCount false ++ awaitReply false ++
    [.session .checkReply]

/-- `Session::setup`: two round trips, after each of which the server's session id is adopted,
then the keys. -/
def sessionSetup : List Op :=
  executeCapturingRequest 1 ++ .session .setSessionId :: executeCapturingRequest 1 ++
    [.session .setSessionId, .session .activateSigning, .session .activateEncryption]

def reauthenticate : List Op := negotiate ++ sessionSetup

/-! ## Revival -/

def installTransport : List Op :=
  fanErrorToWaiters ++
    [.control .resetCredits, .control .resetMessageId, .control .wipeCrypto, .control .swapQueue,
      .control .spawnPlumbing, .control .clearDisconnected]

def reviveOnce : List Op :=
  [.control .dial] ++ installTransport ++ reauthenticate ++ [.control .revived]

/-- What an iteration of the loop in `revive_attempts` does before `revive_once` can fail. -/
def attemptBody (first : Bool) : List Op :=
  (if first then [] else [.control .backoff]) ++ reviveOnce

def attemptFailed (left : ℕ) : List Op :=
  markDead ++ [if left = 0 then .control .giveUp else .control (.attempt false (left - 1))]

/-- `reconnect_if_needed` and `revive` under a policy of at most `attempts` attempts. A connection
without a reviver behaves as one with no attempts. -/
def reconnectIfNeeded (attempts : ℕ) : List Op :=
  [.control .checkNeeded, .control .loadRevivals, .control .lockRevive, .control .checkRevived,
    .control .checkStillDead, .control .cooldown,
    if attempts = 0 then .control .giveUp else .control (.attempt true (attempts - 1))]

/-! ## Background tasks -/

def writerLoop (gen : ℕ) : List Op := [.queue (.recvJob gen)]

def receiverLoop (gen : ℕ) : List Op := [.control (.receive gen)]

inductive SubFrameAction
  | route (ok : Bool)
  | pending (asyncId : Option ℕ)
  | skip
deriving DecidableEq

structure SubFrame where
  messageId : ℕ
  credits : ℕ
  action : SubFrameAction
deriving DecidableEq

def prepareSubFrame (gen : ℕ) (s : SubFrame) : List Op :=
  (if s.credits = 0 then [] else [.credit .current, .credit (.grant gen s.credits)]) ++
    match s.action with
    | .pending asyncId => [.waiter (.notePending s.messageId asyncId)]
    | _ => []

def routeSubFrame (s : SubFrame) : List Op :=
  match s.action with
  | .route ok => [.waiter (.route s.messageId ok)]
  | _ => []

/-- One iteration of `receiver_loop` for a received frame. All sub-frames are prepared before the
first is routed; a frame that turns out malformed after the given sub-frames tears the connection
down instead. -/
def handleFrame (gen : ℕ) (subs : List SubFrame) (malformed : Bool) : List Op :=
  subs.flatMap (prepareSubFrame gen) ++
    if malformed then fanErrorToWaiters else subs.flatMap routeSubFrame ++ receiverLoop gen

def Op.handling : Op → Bool
  | .credit .current | .credit (.grant _ _) | .waiter (.notePending _ _) | .waiter (.route _ _) =>
    true
  | _ => false

variable {op : Op} {subs : List SubFrame}

lemma Op.handling_cases {P : Op → Prop} (h : op.handling) (hcurrent : P (.credit .current))
    (hgrant : ∀ gen credits, P (.credit (.grant gen credits)))
    (hpending : ∀ id asyncId, P (.waiter (.notePending id asyncId)))
    (hroute : ∀ id ok, P (.waiter (.route id ok))) : P op := by
  unfold Op.handling at h
  split at h
  · exact hcurrent
  · exact hgrant _ _
  · exact hpending _ _
  · exact hroute _ _
  · cases h

lemma handling_of_mem_prepareSubFrame {gen : ℕ} (h : op ∈ subs.flatMap (prepareSubFrame gen)) :
    op.handling := by
  obtain ⟨s, -, hs⟩ := mem_flatMap.1 h
  unfold prepareSubFrame at hs
  rcases mem_append.1 hs with h | h
  · split at h
    · cases h
    · rcases mem_pair.1 h with rfl | rfl <;> rfl
  · split at h
    · obtain rfl := mem_singleton.1 h
      rfl
    · cases h

lemma handling_of_mem_routeSubFrame (h : op ∈ subs.flatMap routeSubFrame) : op.handling := by
  obtain ⟨s, -, hs⟩ := mem_flatMap.1 h
  unfold routeSubFrame at hs
  split at hs
  · obtain rfl := mem_singleton.1 hs
    rfl
  · cases hs

lemma mem_handleFrame {gen : ℕ} {malformed : Bool} (h : op ∈ handleFrame gen subs malformed) :
    op.handling ∨ op ∈ fanErrorToWaiters ∨ op = .control (.receive gen) := by
  rcases mem_append.1 h with h | h
  · exact .inl (handling_of_mem_prepareSubFrame h)
  · split at h
    · exact .inr (.inl h)
    · rcases mem_append.1 h with h | h
      · exact .inl (handling_of_mem_routeSubFrame h)
      · exact .inr (.inr (mem_singleton.1 h))

/-! ## Entry points -/

inductive Call
  | execute (charge : ℕ)
  | executeCapturing (charge : ℕ)
  | dispatch (charge : ℕ)
  | echo
  | compound (charges : List ℕ)
  | cancel (id epoch : ℕ)
  | authenticate
  | markDead
  | reconnect (attempts : ℕ)
deriving DecidableEq

def Call.program : Call → List Op
  | .execute charge => executeWithCredits charge
  | .executeCapturing charge => executeCapturingRequest charge
  | .dispatch charge => dispatchWithCredits charge
  | .echo => echoProbe
  | .compound charges => executeCompound charges
  | .cancel id epoch => sendCancel id epoch
  | .authenticate => reauthenticate
  | .markDead => Connection.markDead
  | .reconnect attempts => reconnectIfNeeded attempts

end Smb2.Connection
