import Smb2.Client.Connection.Effects

set_option autoImplicit false

/-!
# The protocol of a request

A request reserves credits, takes its message ids, is packed into a frame, is handed to the
writer queue and, once written, is committed. The functions of a connection are lists of
operations, and nothing in the type of such a list says that they come in this order; this file
states the order as a protocol of phases and shows that every task of every run keeps to it.
What the registers of a task hold in each phase is part of the statement.
-/

open List

namespace Smb2.Connection

open Transition

inductive Phase
  /-- No reservation is held and nothing that was charged is waiting to be sent. -/
  | idle
  | fresh
  | reserved
  | packed
  | sent
deriving DecidableEq

def Phase.after (p : Phase) : Op → Option Phase
  | .credit .current | .credit .checkOpen | .credit .checkOutstanding =>
    if p = .idle ∨ p = .fresh then some p else none
  | .credit (.tryReserve _) | .credit .reserve => if p = .fresh then some .reserved else none
  | .credit _ => if p = .idle then some .idle else none
  | .session (.start _) => if p = .idle then some .fresh else none
  | .session .allocate => if p = .reserved then some .reserved else none
  | .session (.cancelOf _ _) => if p = .fresh then some .idle else none
  | .session .readSessionId | .session .readFlags | .session .sign | .session .encrypt =>
    if p = .packed ∨ p = .sent then none else some p
  | .session _ => if p = .idle then some .idle else none
  | .waiter .checkDisconnected => if p = .packed ∨ p = .sent then none else some p
  | .waiter .register => if p = .reserved then some .reserved else none
  | .waiter _ => if p = .idle then some .idle else none
  | .queue .snapshot =>
    if p = .reserved then some .packed else if p = .idle then some .idle else none
  | .queue (.enqueue _) =>
    if p = .packed then some .sent else if p = .idle then some .idle else none
  | .queue (.awaitAck _) => if p = .sent ∨ p = .idle then some .idle else none
  | .queue _ => if p = .idle then some .idle else none
  | .control _ => if p = .idle then some .idle else none

def Task.unsent (t : Task) : ℕ :=
  ((t.ready ++ t.subs).map Sub.charge).sum + (t.outbox.map fun o => o.2.charge).getD 0

def Phase.At (t : Task) : Phase → Prop
  | .idle => t.credit = none ∧ t.unsent = 0
  | .fresh => t.credit = none ∧ t.outbox = none ∧ t.ack = none ∧ t.subs = [] ∧ t.ready = []
  | .reserved => t.outbox = none ∧ t.ack = none ∧ ∃ r, t.credit = some r ∧ t.unsent ≤ r.taken
  | .packed => t.subs = [] ∧ t.ready = [] ∧ t.ack = none ∧
      ∃ r o, t.credit = some r ∧ t.outbox = some o ∧ o.2.charge ≤ r.taken
  | .sent => t.subs = [] ∧ t.ready = [] ∧ t.outbox = none ∧
      ∃ r a, t.credit = some r ∧ t.ack = some a

/-- **A task within the protocol**: it is in a phase from which what it has left to do is allowed,
and what it would do after an error is allowed once it holds nothing. -/
def Scoped (t : Task) : Prop :=
  (∃ p, Phase.At t p ∧ Follows Phase.after p t.prog) ∧ Follows Phase.after .idle t.onError

/-! ## Programs -/

lemma exec_unwind : Transition.exec Phase.after .idle unwind = some .idle := rfl

lemma exec_waitForCredits : Transition.exec Phase.after .fresh waitForCredits = some .reserved :=
  rfl

lemma exec_sendFailed (remove : Bool) :
    Transition.exec Phase.after .idle (sendFailed remove) = some .idle := by
  cases remove <;> rfl

lemma exec_responseFailed (unresponsive : Bool) :
    Transition.exec Phase.after .idle (responseFailed unresponsive) = some .idle := by
  cases unresponsive <;> rfl

lemma exec_handleFrame (gen : ℕ) (subs : List SubFrame) (malformed : Bool) :
    Transition.exec Phase.after .idle (handleFrame gen subs malformed) = some .idle := by
  refine exec_eq_self fun op hop => ?_
  rcases mem_handleFrame hop with h | h | rfl
  · exact Op.handling_cases (P := fun op => Phase.idle.after op = some .idle) h rfl
      (fun _ _ => rfl) (fun _ _ => rfl) fun _ _ => rfl
  · simp only [fanErrorToWaiters, mem_cons, not_mem_nil, or_false] at h
    rcases h with rfl | rfl | rfl | rfl <;> rfl
  · rfl

lemma exec_replicate {p : Phase} (op : Op) (h : p.after op = some p) (n : ℕ) :
    Transition.exec Phase.after p (replicate n op) = some p :=
  exec_eq_self fun op' hop' => by rw [eq_of_mem_replicate hop', h]

lemma exec_executeCompound (charges : List ℕ) :
    Transition.exec Phase.after .idle (executeCompound charges) = some .idle := by
  unfold executeCompound
  split
  · rfl
  · have hreserved : Transition.exec Phase.after .idle
        (startRequest (charges.map charged) ++ .session .readFlags :: reserveCredits) =
        some .reserved := rfl
    have hids : Transition.exec Phase.after .reserved (.session .readSessionId ::
        replicate charges.length (.session .allocate)) = some .reserved :=
      exec_cons_eq_some.2 ⟨.reserved, rfl, exec_replicate _ rfl _⟩
    have hwaiters : Transition.exec Phase.after .reserved (.session .sign ::
        replicate charges.length (.waiter .register)) = some .reserved :=
      exec_cons_eq_some.2 ⟨.reserved, rfl, exec_replicate _ rfl _⟩
    have hsent : Transition.exec Phase.after .reserved (.session .encrypt :: sendAndCount false) =
        some .idle := rfl
    have hawait : Transition.exec Phase.after .idle (.waiter .markSent ::
        replicate charges.length (.waiter (.awaitResponse true true))) = some .idle :=
      exec_cons_eq_some.2 ⟨.idle, rfl, exec_replicate _ rfl _⟩
    exact exec_trans (exec_trans (exec_trans (exec_trans hreserved hids) hwaiters) hsent) hawait

lemma follows_program (call : Call) : Follows Phase.after .idle call.program := by
  cases call with
  | compound charges => exact ⟨.idle, exec_executeCompound charges⟩
  | reconnect attempts => cases attempts <;> exact ⟨.idle, rfl⟩
  | _ => exact ⟨.idle, rfl⟩

/-! ## Operations -/

section Operations

variable {t t' : Task} {p p' : Phase} {c : Choice}

lemma scoped_fail {pre : List Op} (hpre : Transition.exec Phase.after .idle pre = some .idle)
    (herr : Follows Phase.after .idle t.onError) : Scoped (t.fail pre) := by
  refine ⟨⟨.idle, ⟨rfl, rfl⟩, ?_⟩, follows_nil _⟩
  rw [Task.fail, append_assoc]
  exact .append hpre (.append exec_unwind herr)

lemma at_of_eq (hat : Phase.At t p) (hcredit : t'.credit = t.credit)
    (houtbox : t'.outbox = t.outbox) (hack : t'.ack = t.ack) (hsubs : t'.subs = t.subs)
    (hready : t'.ready = t.ready) : Phase.At t' p := by
  cases p <;> simpa only [Phase.At, Task.unsent, hcredit, houtbox, hack, hsubs, hready] using hat

lemma at_reserved (hat : Phase.At t .fresh) : Phase.At t.reserved .reserved := by
  obtain ⟨-, houtbox, hack, hsubs, hready⟩ := hat
  exact ⟨houtbox, hack, _, rfl, by simp [Task.unsent, Task.reserved, houtbox, hsubs, hready]⟩

lemma CreditEffect.scoped {o : CreditOp} {k k' : CreditPool} {idle : Bool}
    (h : CreditEffect k idle t o k' t') (hat : Phase.At t p)
    (hop : p.after (.credit o) = some p') (hrest : Follows Phase.after p' t.prog)
    (herr : Follows Phase.after .idle t.onError) : Scoped t' := by
  have hfail : Scoped (t.fail []) := scoped_fail rfl herr
  cases h with
  | current =>
    obtain ⟨-, rfl⟩ : (p = .idle ∨ p = .fresh) ∧ p = p' := by simpa [Phase.after] using hop
    exact ⟨⟨p, at_of_eq hat rfl rfl rfl rfl rfl, hrest⟩, herr⟩
  | tryReserved | reserved =>
    obtain ⟨rfl, rfl⟩ : p = .fresh ∧ .reserved = p' := by simpa [Phase.after] using hop
    exact ⟨⟨.reserved, at_reserved hat, hrest⟩, herr⟩
  | mustWait =>
    obtain ⟨rfl, rfl⟩ : p = .fresh ∧ .reserved = p' := by simpa [Phase.after] using hop
    exact ⟨⟨.fresh, at_of_eq hat rfl rfl rfl rfl rfl, .append exec_waitForCredits hrest⟩, herr⟩
  | skipped =>
    obtain ⟨rfl, rfl⟩ : p = .fresh ∧ .reserved = p' := by simpa [Phase.after] using hop
    exact ⟨⟨.fresh, at_of_eq hat rfl rfl rfl rfl rfl, follows_nil _⟩, herr⟩
  | isOpen | outstanding =>
    obtain ⟨-, rfl⟩ : (p = .idle ∨ p = .fresh) ∧ p = p' := by simpa [Phase.after] using hop
    exact ⟨⟨p, hat, hrest⟩, herr⟩
  | isClosed | starved | waitFailed => exact hfail
  | refunded | nothingToRefund | granted | doomed | notDoomed | closed | nothingToClose =>
    obtain ⟨rfl, rfl⟩ : p = .idle ∧ .idle = p' := by simpa [Phase.after] using hop
    exact ⟨⟨.idle, at_of_eq hat rfl rfl rfl rfl rfl, hrest⟩, herr⟩

lemma at_allocated {s : SessionState} {piece : Piece} {rest : List Piece}
    (hat : Phase.At t .reserved) : Phase.At (t.allocated s piece rest) .reserved := by
  obtain ⟨houtbox, hack, r, hcredit, hunsent⟩ := hat
  refine ⟨houtbox, hack, { r with taken := r.taken + piece.span },
    by simp [Task.allocated, hcredit], ?_⟩
  have hcharge := piece.charge_le
  simp only [Task.unsent, Task.allocated, Task.stamp, houtbox, map_append, sum_append,
    map_cons, map_nil, sum_cons, sum_nil, Option.map_none,
    Option.getD_none] at hunsent ⊢
  omega

lemma SessionEffect.scoped {o : SessionOp} {s s' : SessionState} (h : SessionEffect s t o s' t')
    (hat : Phase.At t p) (hop : p.after (.session o) = some p')
    (hrest : Follows Phase.after p' t.prog) (herr : Follows Phase.after .idle t.onError) :
    Scoped t' := by
  have hfail : Scoped (t.fail []) := scoped_fail rfl herr
  cases h with
  | start =>
    obtain ⟨rfl, rfl⟩ : p = .idle ∧ .fresh = p' := by simpa [Phase.after] using hop
    exact ⟨⟨.fresh, ⟨rfl, rfl, rfl, rfl, rfl⟩, hrest⟩, herr⟩
  | allocated =>
    obtain ⟨rfl, rfl⟩ : p = .reserved ∧ .reserved = p' := by simpa [Phase.after] using hop
    exact ⟨⟨.reserved, at_allocated hat, hrest⟩, herr⟩
  | cancelOf =>
    obtain ⟨rfl, rfl⟩ : p = .fresh ∧ .idle = p' := by simpa [Phase.after] using hop
    obtain ⟨hcredit, houtbox, -, hsubs, -⟩ := hat
    refine ⟨⟨.idle, ⟨hcredit, ?_⟩, hrest⟩, herr⟩
    simp [Task.unsent, Task.stamp, houtbox, hsubs]
  | readSessionId | readFlags | unsigned | signed | unencrypted | encrypted =>
    obtain ⟨-, rfl⟩ : ¬(p = .packed ∨ p = .sent) ∧ p = p' := by simpa [Phase.after] using hop
    exact ⟨⟨p, at_of_eq hat rfl rfl rfl rfl rfl, hrest⟩, herr⟩
  | accepted | setSessionId | signing | encryption =>
    obtain ⟨rfl, rfl⟩ : p = .idle ∧ .idle = p' := by simpa [Phase.after] using hop
    exact ⟨⟨.idle, hat, hrest⟩, herr⟩
  | signFailed | encryptFailed | rejected | setupFailed => exact hfail

lemma at_register {s : Sub} {rest : List Sub} {guards : List Guard} (hsubs : t.subs = s :: rest)
    (hat : Phase.At t .reserved) :
    Phase.At { t with subs := rest, ready := t.ready ++ [s], guards } .reserved := by
  obtain ⟨houtbox, hack, r, hcredit, hunsent⟩ := hat
  refine ⟨houtbox, hack, r, hcredit, ?_⟩
  simpa [Task.unsent, hsubs, add_assoc] using hunsent

lemma WaiterEffect.scoped {o : WaiterOp} {r r' : Routing} {gen : ℕ}
    (h : WaiterEffect r gen t o r' t') (hat : Phase.At t p)
    (hop : p.after (.waiter o) = some p') (hrest : Follows Phase.after p' t.prog)
    (herr : Follows Phase.after .idle t.onError) : Scoped t' := by
  have hfail : Scoped (t.fail []) := scoped_fail rfl herr
  cases h with
  | connected =>
    obtain ⟨-, rfl⟩ : ¬(p = .packed ∨ p = .sent) ∧ p = p' := by simpa [Phase.after] using hop
    exact ⟨⟨p, hat, hrest⟩, herr⟩
  | registered hsubs =>
    obtain ⟨rfl, rfl⟩ : p = .reserved ∧ .reserved = p' := by simpa [Phase.after] using hop
    exact ⟨⟨.reserved, at_register hsubs hat, hrest⟩, herr⟩
  | disconnected | registerFailed | answerFailed => exact hfail
  | gaveUp unresponsive => exact scoped_fail (exec_responseFailed unresponsive) herr
  | droppedGuards | answered =>
    obtain ⟨rfl, rfl⟩ : p = .idle ∧ .idle = p' := by simpa [Phase.after] using hop
    exact ⟨⟨.idle, at_of_eq hat rfl rfl rfl rfl rfl, follows_cons.2 ⟨.idle, rfl, hrest⟩⟩, herr⟩
  | wentOn unresponsive =>
    obtain ⟨rfl, rfl⟩ : p = .idle ∧ .idle = p' := by simpa [Phase.after] using hop
    exact ⟨⟨.idle, at_of_eq hat rfl rfl rfl rfl rfl,
      .append (exec_responseFailed unresponsive) (follows_cons.2 ⟨.idle, rfl, hrest⟩)⟩, herr⟩
  | removed | nothingToRemove | droppedGuard | noGuard | noGuards | markedSent | drained | fanned
  | notedPending | routed =>
    obtain ⟨rfl, rfl⟩ : p = .idle ∧ .idle = p' := by simpa [Phase.after] using hop
    exact ⟨⟨.idle, at_of_eq hat rfl rfl rfl rfl rfl, hrest⟩, herr⟩

variable {i : ℕ}

lemma at_packed {gen : ℕ} (hat : Phase.At t .reserved) :
    Phase.At { t with outbox := some (gen, t.outgoing i), subs := [], ready := [] } .packed := by
  obtain ⟨houtbox, hack, r, hcredit, hunsent⟩ := hat
  refine ⟨rfl, rfl, hack, r, _, hcredit, rfl, ?_⟩
  simpa [Task.unsent, houtbox, Outgoing.charge, Task.outgoing] using hunsent

lemma QueueEffect.scoped {o : QueueOp} {q q' : Plumbing} (h : QueueEffect q i t c o q' t')
    (hat : Phase.At t p) (hop : p.after (.queue o) = some p')
    (hrest : Follows Phase.after p' t.prog) (herr : Follows Phase.after .idle t.onError) :
    Scoped t' := by
  cases h with
  | snapshot =>
    by_cases hp : p = .reserved
    · subst hp
      obtain rfl : .packed = p' := by simpa [Phase.after] using hop
      exact ⟨⟨.packed, at_packed hat, hrest⟩, herr⟩
    · obtain ⟨rfl, rfl⟩ : p = .idle ∧ .idle = p' := by simpa [Phase.after, hp] using hop
      obtain ⟨hcredit, hunsent⟩ := hat
      refine ⟨⟨.idle, ⟨hcredit, ?_⟩, hrest⟩, herr⟩
      simp only [Task.unsent, Nat.add_eq_zero_iff] at hunsent
      simpa [Task.unsent, Outgoing.charge, Task.outgoing] using hunsent.1
  | enqueued houtbox =>
    by_cases hp : p = .packed
    · subst hp
      obtain rfl : .sent = p' := by simpa [Phase.after] using hop
      obtain ⟨hsubs, hready, -, r, -, hcredit, -⟩ := hat
      exact ⟨⟨.sent, ⟨hsubs, hready, rfl, r, _, hcredit, rfl⟩, hrest⟩, herr⟩
    · obtain ⟨rfl, rfl⟩ : p = .idle ∧ .idle = p' := by simpa [Phase.after, hp] using hop
      obtain ⟨hcredit, hunsent⟩ := hat
      refine ⟨⟨.idle, ⟨hcredit, ?_⟩, hrest⟩, herr⟩
      simp only [Task.unsent, Nat.add_eq_zero_iff] at hunsent
      simpa [Task.unsent] using hunsent.1
  | committed =>
    obtain ⟨hp, rfl⟩ : (p = .sent ∨ p = .idle) ∧ .idle = p' := by simpa [Phase.after] using hop
    refine ⟨⟨.idle, ⟨rfl, ?_⟩, hrest⟩, herr⟩
    rcases hp with rfl | rfl
    · obtain ⟨hsubs, hready, houtbox, -⟩ := hat
      simp [Task.unsent, hsubs, hready, houtbox]
    · exact hat.2
  | enqueueFailed | sendFailed => exact scoped_fail (exec_sendFailed _) herr
  | began | refused | finished | broke =>
    obtain ⟨rfl, rfl⟩ : p = .idle ∧ .idle = p' := by simpa [Phase.after] using hop
    exact ⟨⟨.idle, at_of_eq hat rfl rfl rfl rfl rfl, .idle, rfl⟩, herr⟩
  | exited =>
    obtain ⟨rfl, rfl⟩ : p = .idle ∧ .idle = p' := by simpa [Phase.after] using hop
    exact ⟨⟨.idle, hat, hrest⟩, herr⟩

lemma follows_attempt (first : Bool) (left : ℕ) :
    Follows Phase.after .idle (attemptBody first) ∧
      Follows Phase.after .idle (attemptFailed left) := by
  constructor
  · cases first <;> exact ⟨.idle, rfl⟩
  · unfold attemptFailed
    split <;> exact ⟨.idle, rfl⟩

lemma scoped_plumbingTasks (gen pool : ℕ) : ∀ u ∈ plumbingTasks gen pool, Scoped u := by
  intro u hu
  rcases mem_pair.1 hu with rfl | rfl <;>
    exact ⟨⟨.idle, ⟨rfl, rfl⟩, .idle, rfl⟩, follows_nil _⟩

lemma ControlEffect.scoped {o : ControlOp} {s s' : Shared} {new : List Task}
    (h : ControlEffect s i t o s' t' new) (hat : Phase.At t p)
    (hop : p.after (.control o) = some p') (hrest : Follows Phase.after p' t.prog)
    (herr : Follows Phase.after .idle t.onError) : Scoped t' ∧ ∀ u ∈ new, Scoped u := by
  obtain ⟨rfl, rfl⟩ : p = .idle ∧ .idle = p' := by simpa [Phase.after] using hop
  have hkeep {ops : List Op} (hops : Follows Phase.after .idle ops) : Scoped { t with prog := ops } :=
    ⟨⟨.idle, at_of_eq hat rfl rfl rfl rfl rfl, hops⟩, herr⟩
  have hnone : ∀ u ∈ ([] : List Task), Scoped u := fun u hu => absurd hu not_mem_nil
  cases h with
  | received => exact ⟨hkeep ⟨.idle, exec_handleFrame ..⟩, hnone⟩
  | attempt first left =>
    exact ⟨⟨⟨.idle, at_of_eq hat rfl rfl rfl rfl rfl, (follows_attempt first left).1⟩,
      (follows_attempt first left).2⟩, hnone⟩
  | dialFailed => exact ⟨scoped_fail rfl herr, hnone⟩
  | spawnPlumbing => exact ⟨hkeep hrest, scoped_plumbingTasks _ _⟩
  | revived | giveUp | abandon =>
    exact ⟨⟨⟨.idle, at_of_eq hat rfl rfl rfl rfl rfl, hrest⟩, follows_nil _⟩, hnone⟩
  | unlock => exact ⟨⟨⟨.idle, at_of_eq hat rfl rfl rfl rfl rfl, follows_nil _⟩, follows_nil _⟩, hnone⟩
  | notNeeded => exact ⟨hkeep (follows_nil _), hnone⟩
  | receiveFailed | otherRevival | notDead | coolingDown => exact ⟨hkeep ⟨.idle, rfl⟩, hnone⟩
  | _ => exact ⟨⟨⟨.idle, at_of_eq hat rfl rfl rfl rfl rfl, hrest⟩, herr⟩, hnone⟩

end Operations

variable {t : Task} {op : Op} {rest : List Op}

/-- **Every operation keeps a task within the protocol**, and the tasks it spawns begin
within it. -/
theorem Effect.scoped {s s' : Shared} {i : ℕ} {t' : Task} {c : Choice} {new : List Task}
    (ht : Scoped t) (hop : t.prog = op :: rest)
    (h : Effect s i { t with prog := rest } c op s' t' new) :
    Scoped t' ∧ ∀ u ∈ new, Scoped u := by
  obtain ⟨⟨p, hat, hfollows⟩, herr⟩ := ht
  rw [hop] at hfollows
  obtain ⟨p', hafter, hrest⟩ := follows_cons.1 hfollows
  have hat' : Phase.At { t with prog := rest } p := at_of_eq hat rfl rfl rfl rfl rfl
  have hnone : ∀ u ∈ ([] : List Task), Scoped u := fun u hu => absurd hu not_mem_nil
  cases h with
  | credit h => exact ⟨h.scoped hat' hafter hrest herr, hnone⟩
  | session h => exact ⟨h.scoped hat' hafter hrest herr, hnone⟩
  | waiter h => exact ⟨h.scoped hat' hafter hrest herr, hnone⟩
  | queue h => exact ⟨h.scoped hat' hafter hrest herr, hnone⟩
  | control h => exact h.scoped hat' hafter hrest herr

theorem scoped_of_step {w w' : World} {a : Action} (hw : ∀ t ∈ w.tasks, Scoped t)
    (h : step w a = some w') : ∀ t ∈ w'.tasks, Scoped t := by
  refine forall_tasks_of_step (fun call pool => ?_) (fun _ _ _ _ _ _ _ _ _ ht hop h => h.scoped ht hop)
    (fun t ownsLock _ => ?_) (fun t _ => ?_) (fun t _ => ?_) hw h
  · exact ⟨⟨.idle, ⟨rfl, rfl⟩, follows_program call⟩, follows_nil _⟩
  · exact ⟨⟨.idle, ⟨rfl, rfl⟩, by cases ownsLock <;> exact ⟨.idle, rfl⟩⟩, follows_nil _⟩
  · exact ⟨⟨.idle, ⟨rfl, rfl⟩, .idle, rfl⟩, follows_nil _⟩
  · cases hrole : t.role <;> simp only [Task.reaped, hrole] <;>
      exact ⟨⟨.idle, ⟨rfl, rfl⟩, .idle, rfl⟩, follows_nil _⟩

lemma Scoped.at_of_prog (ht : Scoped t) (hop : t.prog = op :: rest) :
    ∃ p p', Phase.At t p ∧ p.after op = some p' := by
  obtain ⟨⟨p, hat, hfollows⟩, -⟩ := ht
  rw [hop] at hfollows
  obtain ⟨p', hafter, -⟩ := follows_cons.1 hfollows
  exact ⟨p, p', hat, hafter⟩

lemma Scoped.credit_or_ack (ht : Scoped t) (hop : t.prog = op :: rest)
    (hne : ∀ remove, op ≠ .queue (.awaitAck remove)) :
    t.credit = none ∨ t.ack = none := by
  obtain ⟨p, p', hat, hafter⟩ := ht.at_of_prog hop
  cases p with
  | idle | fresh => exact .inl hat.1
  | reserved => exact .inr hat.2.1
  | packed => exact .inr hat.2.2.1
  | sent =>
    unfold Phase.after at hafter
    split at hafter <;> simp at hafter
    exact absurd rfl (hne _)

end Smb2.Connection
