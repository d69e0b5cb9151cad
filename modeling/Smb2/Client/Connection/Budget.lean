import Smb2.Client.Connection.Revival

set_option autoImplicit false

/-!
# The credit budget of a transport

A server grants credits, a request spends them. Between the two, credits are in the live
semaphore, in the reservation of a caller whose frame has not been handed to the transport, or
on their way back. This file adds them up: within one generation, what the transport was handed
and what is left in the pool never exceed the one initial credit and what the server granted,
provided that no reservation is given up while its frame is with the writer and that
reservations, refunds and grants stay in their generation.
-/

open List Option

namespace Smb2.Connection

open Transition

/-! ## Accounts -/

def Reservation.due (r : Reservation) (g : ℕ) : ℕ := if r.pool = g then r.charge else 0

def dueOf (r : Option Reservation) (g : ℕ) : ℕ := (r.map (·.due g)).getD 0

def Task.handed (q : Plumbing) (t : Task) : Bool :=
  match t.ack with
  | some (gen, seq) => ((q.queues gen).acks seq).handed
  | none => false

/-- **The credits of pool `g` that a task owes**: it took them, its frame has not been handed to
the transport and they are not back. -/
def Task.owed (q : Plumbing) (g : ℕ) (t : Task) : ℕ :=
  (if t.handed q then 0 else dueOf t.credit g) + dueOf t.refunding g

def Task.Covered (t : Task) : Prop :=
  ∀ r, t.credit = some r → r.taken + (t.pending.map Piece.span).sum ≤ r.charge

structure SameAccount (t t' : Task) : Prop where
  credit : t'.credit = t.credit
  refunding : t'.refunding = t.refunding
  ack : t'.ack = t.ack
  pending : t'.pending = t.pending
  pool : t'.pool = t.pool

section Accounts

variable {t t' : Task} {c : Choice} {q : Plumbing} {g i : ℕ}

lemma WaiterEffect.account {o : WaiterOp} {r r' : Routing} {gen : ℕ}
    (h : WaiterEffect r gen t o r' t') : SameAccount t t' ∨ ∃ pre, t' = t.fail pre := by
  cases h with
  | disconnected | registerFailed | answerFailed | gaveUp => exact .inr ⟨_, rfl⟩
  | _ => exact .inl ⟨rfl, rfl, rfl, rfl, rfl⟩

lemma ControlEffect.account {o : ControlOp} {s s' : Shared} {new : List Task}
    (h : ControlEffect s i t o s' t' new) :
    SameAccount t t' ∨ (∃ pre, t' = t.fail pre) ∧ new = [] := by
  cases h with
  | dialFailed => exact .inr ⟨⟨_, rfl⟩, rfl⟩
  | _ => exact .inl ⟨rfl, rfl, rfl, rfl, rfl⟩

lemma SessionEffect.account {o : SessionOp} {s s' : SessionState} (h : SessionEffect s t o s' t') :
    SameAccount t t' ∨ (∃ pre, t' = t.fail pre) ∨ (∃ pieces, o = .start pieces) ∨ o = .allocate := by
  cases h with
  | start pieces => exact .inr (.inr (.inl ⟨pieces, rfl⟩))
  | allocated => exact .inr (.inr (.inr rfl))
  | signFailed | encryptFailed | rejected | setupFailed => exact .inr (.inl ⟨_, rfl⟩)
  | _ => exact .inl ⟨rfl, rfl, rfl, rfl, rfl⟩

lemma SameAccount.owed_eq (h : SameAccount t t') : t'.owed q g = t.owed q g := by
  have hhanded : t'.handed q = t.handed q := by rw [Task.handed, Task.handed, h.ack]
  rw [Task.owed, Task.owed, hhanded, h.credit, h.refunding]

lemma owed_task (call : Call) (pool : ℕ) : (call.task pool).owed q g = 0 := rfl

lemma owed_plumbingTasks (gen pool : ℕ) : ∀ u ∈ plumbingTasks gen pool, u.owed q g = 0 := by
  intro u hu
  rcases mem_pair.1 hu with rfl | rfl <;> rfl

end Accounts

/-! ## Prudent steps -/

/-- The frame of a task is with the writer: it waits in the queue, or it has been handed to the
transport. -/
def Task.exposed (q : Plumbing) (t : Task) : Bool :=
  match t.ack with
  | some (gen, seq) =>
    match (q.queues gen).acks seq with
    | .refused | .dropped => false
    | .queued | .writing | .ok | .failed => true
  | none => false

def Op.prudent (s : Shared) (t : Task) : Op → Bool
  /- The charges of a compound fit the `u16` that they are summed up in. -/
  | .credit (.tryReserve _) | .credit .reserve => (t.pending.map Piece.span).sum ≤ u16Max
  /- What goes back into the live pool was taken from it. -/
  | .credit .refund => t.pool = s.credits.live → ∀ r ∈ t.refunding, r.pool = s.credits.live
  /- What is granted to the live pool came over its own transport. -/
  | .credit (.grant gen _) => t.pool = s.credits.live → gen = s.credits.live
  /- What is sent over the live transport was paid for from the live pool. -/
  | .queue (.enqueue _) =>
    ∀ o ∈ t.outbox, o.1 = s.credits.live → ∀ r ∈ t.credit, r.pool = s.credits.live
  /- A write that breaks off is no reason to take the credits back. -/
  | .queue (.awaitAck _) =>
    ∀ r ∈ t.credit, r.pool = s.credits.live →
      ∀ a ∈ t.ack, (s.plumbing.queues a.1).acks a.2 ≠ .failed
  | _ => true

/-- **A prudent step**: the operation that is executed keeps the books, and no future is dropped
whose frame is with the writer. -/
def World.prudent (w : World) : Action → Bool
  | .spawn _ => true
  | .run i _ => ∀ t ∈ w.tasks[i]?, ∀ op ∈ t.prog.head?, op.prudent w.shared t
  | .drop i | .expire i | .reap i => ∀ t ∈ w.tasks[i]?, ∀ r ∈ t.credit,
      r.pool = w.shared.credits.live → t.exposed w.shared.plumbing = false

variable {w : World} {t : Task} {a : Action}

lemma prudent_op {i : ℕ} {c : Choice} {op : Op} {rest : List Op} (h : w.prudent (.run i c))
    (ht : w.tasks[i]? = some t) (hop : t.prog = op :: rest) :
    op.prudent w.shared t :=
  of_decide_eq_true h t ht op (by simp [hop])

lemma exposed_eq_false {i : ℕ} {r : Reservation} (h : w.prudent a) (ha : a.loses = some i)
    (ht : w.tasks[i]? = some t) (hr : t.credit = some r) (hpool : r.pool = w.shared.credits.live) :
    t.exposed w.shared.plumbing = false := by
  cases a <;> simp only [Action.loses, some.injEq, reduceCtorEq] at ha <;> subst ha <;>
    exact of_decide_eq_true h t ht r hr hpool

/-! ## The invariant -/

def Task.Pays (t : Task) (g : ℕ) (j : Job) : Prop :=
  t.ack = some (g, j.seq) ∧ ∃ r, t.credit = some r ∧ r.pool = g ∧ j.frame.charge ≤ r.charge

/-- A job of queue `g` costs nothing or is paid for by a task that still holds the credits. -/
def Paid (tasks : List Task) (g : ℕ) (j : Job) : Prop :=
  j.frame.charge = 0 ∨ ∃ (i : ℕ) (t : Task), tasks[i]? = some t ∧ t.Pays g j

def Task.Pooled (n : ℕ) (t : Task) : Prop :=
  t.pool ≤ n ∧ ∀ r, t.credit = some r → r.pool ≤ n

/-- **The books of the live pool**, and of the pools to come. -/
structure Funded (w : World) : Prop where
  covered : ∀ t ∈ w.tasks, t.Covered
  pooled : ∀ t ∈ w.tasks, t.Pooled w.shared.credits.live
  fresh : ∀ g, w.shared.credits.live < g → (w.shared.credits.semaphores g).permits = 1
  paid : ∀ g, w.shared.credits.live ≤ g → ∀ j ∈ (w.shared.plumbing.queues g).jobs, Paid w.tasks g j
  /-- What was handed to the transport, what is in the pool and what the tasks owe it never exceed
  what the pool was given. -/
  balance : ∀ g, w.shared.credits.live ≤ g →
    (w.shared.plumbing.queues g).spent + (w.shared.credits.semaphores g).permits +
      (w.tasks.map (Task.owed w.shared.plumbing g)).sum ≤ 1 + w.shared.credits.banked g

section Preservation

variable {w : World} {s' : Shared} {i : ℕ} {t t' : Task} {c : Choice} {op : Op} {rest : List Op}
  {new : List Task} {q : Plumbing} {g n : ℕ}

variable {j : Job} {gen : ℕ}

lemma Paid.set {tasks : List Task} (h : Paid tasks g j) (ht : tasks[i]? = some t)
    (hpays : t.Pays g j → t'.Pays g j) : Paid (tasks.set i t' ++ new) g j := by
  rcases h with h | ⟨k, u, hu, hpay⟩
  · exact .inl h
  · by_cases hk : k = i
    · subst hk
      obtain rfl : t = u := by simpa [ht] using hu
      exact .inr ⟨k, t', getElem?_set_append_self ht, hpays hpay⟩
    · exact .inr ⟨k, u, getElem?_set_append_of_ne hu hk, hpay⟩

lemma SameAccount.pays (h : SameAccount t t') (hp : t.Pays g j) : t'.Pays g j := by
  simpa only [Task.Pays, h.ack, h.credit] using hp

lemma SameAccount.covered (h : SameAccount t t') (ht : t.Covered) : t'.Covered := by
  simpa only [Task.Covered, h.credit, h.pending] using ht

lemma SameAccount.pooled (h : SameAccount t t') (ht : t.Pooled n) : t'.Pooled n := by
  simpa only [Task.Pooled, h.credit, h.pool] using ht

lemma covered_lost (ops : List Op) : (t.lost ops).Covered := by simp [Task.Covered, Task.lost, Task.fail]

lemma pooled_lost (ht : t.Pooled n) (ops : List Op) : (t.lost ops).Pooled n :=
  ⟨ht.1, by simp [Task.lost, Task.fail]⟩

lemma covered_plumbingTasks (gen pool : ℕ) : ∀ u ∈ plumbingTasks gen pool, u.Covered := by
  intro u hu
  rcases mem_pair.1 hu with rfl | rfl <;> exact fun _ h => by simp at h

lemma Funded.of_books (hw : Funded w) (ht : w.tasks[i]? = some t)
    (hplumbing : s'.plumbing = w.shared.plumbing)
    (hlive : s'.credits.live = w.shared.credits.live) (hcovered : t'.Covered)
    (hpooled : t'.Pooled w.shared.credits.live)
    (hnew : new = [] ∨ ∃ gen, new = plumbingTasks gen w.shared.credits.live)
    (hpays : ∀ g, w.shared.credits.live ≤ g → ∀ j ∈ (w.shared.plumbing.queues g).jobs,
      t.Pays g j → t'.Pays g j)
    (hfresh : ∀ g, w.shared.credits.live < g →
      (s'.credits.semaphores g).permits = (w.shared.credits.semaphores g).permits)
    (hbooks : ∀ g, w.shared.credits.live ≤ g →
      (s'.credits.semaphores g).permits + t'.owed w.shared.plumbing g + w.shared.credits.banked g ≤
        (w.shared.credits.semaphores g).permits + t.owed w.shared.plumbing g +
          s'.credits.banked g) :
    Funded ⟨s', w.tasks.set i t' ++ new⟩ := by
  have hnew' {P : Task → Prop} (hP : ∀ gen, ∀ u ∈ plumbingTasks gen w.shared.credits.live, P u) :
      ∀ u ∈ new, P u := by
    rcases hnew with rfl | ⟨gen, rfl⟩
    · simp
    · exact hP gen
  constructor
  · exact forall_mem_set_append hcovered hw.covered (hnew' fun gen => covered_plumbingTasks gen _)
  · rw [hlive]
    refine forall_mem_set_append hpooled hw.pooled (hnew' fun gen u hu => ?_)
    rcases mem_pair.1 hu with rfl | rfl <;> exact ⟨le_rfl, fun _ h => by simp at h⟩
  · intro g hg
    rw [hlive] at hg
    rw [hfresh g hg, hw.fresh g hg]
  · intro g hg j hj
    rw [hlive] at hg
    rw [hplumbing] at hj
    exact (hw.paid g hg j hj).set ht (hpays g hg j hj)
  · intro g hg
    rw [hlive] at hg
    rw [hplumbing]
    have hsum := sum_map_set_append (f := Task.owed w.shared.plumbing g) (y := t') ht
      (hnew' fun gen => owed_plumbingTasks gen _)
    have hbal := hw.balance g hg
    have hbook := hbooks g hg
    simp only
    omega

/-- The reservation of a task may be given up without harm to the live pool: its frame is not with
the writer. -/
def Task.Releasable (q : Plumbing) (live : ℕ) (t : Task) : Prop :=
  ∀ r, t.credit = some r → r.pool = live → t.exposed q = false

lemma handed_of_exposed (h : t.exposed q = false) : t.handed q = false := by
  unfold Task.exposed at h
  unfold Task.handed
  split at h
  · split at h <;> simp_all [Ack.handed]
  · rfl

lemma Task.Releasable.owed_lost (h : t.Releasable q n) (hpooled : t.Pooled n) (hg : n ≤ g)
    (ops : List Op) : (t.lost ops).owed q g ≤ t.owed q g := by
  have hlost : (t.lost ops).owed q g = dueOf t.credit g := by
    rw [Task.owed, show (t.lost ops).handed q = false from rfl]
    exact Nat.zero_add _
  rw [hlost]
  cases hcredit : t.credit with
  | none => exact Nat.zero_le _
  | some r =>
    by_cases hpool : r.pool = g
    · have hlive : r.pool = n := le_antisymm (hpooled.2 r hcredit) (hpool ▸ hg)
      rw [Task.owed, handed_of_exposed (h r hcredit hlive), hcredit]
      exact Nat.le_add_right ..
    · simp [dueOf, Reservation.due, hpool]

lemma Task.Releasable.not_pays (h : t.Releasable q n) (hpooled : t.Pooled n) (hg : n ≤ g)
    (hq : (q.queues g).WellFormed) (hj : j ∈ (q.queues g).jobs) : ¬ t.Pays g j := by
  rintro ⟨hack, r, hcredit, hpool, -⟩
  have hlive : r.pool = n := le_antisymm (hpooled.2 r hcredit) (hpool ▸ hg)
  have hexposed := h r hcredit hlive
  simp [Task.exposed, hack, hq.queued j hj] at hexposed

lemma Funded.of_lost (hw : Funded w) (hwired : Wired w) (ht : w.tasks[i]? = some t)
    (hrel : t.Releasable w.shared.plumbing w.shared.credits.live)
    (hplumbing : s'.plumbing = w.shared.plumbing) (hcredits : s'.credits = w.shared.credits)
    (ops : List Op) : Funded ⟨s', w.tasks.set i (t.lost ops) ++ []⟩ := by
  have hpooled := hw.pooled t (mem_of_getElem? ht)
  refine hw.of_books ht hplumbing (by rw [hcredits]) (covered_lost ops) (pooled_lost hpooled ops)
    (.inl rfl) (fun g hg j hj hp => absurd hp (hrel.not_pays hpooled hg (hwired.wellFormed g) hj))
    (by simp [hcredits]) fun g hg => ?_
  have := hrel.owed_lost hpooled hg ops
  rw [hcredits]
  omega

lemma releasable_of_scoped (hscoped : Scoped t) (hop : t.prog = op :: rest)
    (hne : ∀ remove, op ≠ .queue (.awaitAck remove)) : t.Releasable q n := by
  intro r hr _
  rcases hscoped.credit_or_ack hop hne with h | h
  · simp [h] at hr
  · simp [Task.exposed, h]

lemma owed_of_ack_eq_none (hack : t.ack = none) :
    t.owed q g = dueOf t.credit g + dueOf t.refunding g := by
  rw [Task.owed, show t.handed q = false by rw [Task.handed, hack]]
  rfl

lemma Funded.of_reserve (hw : Funded w) (ht : w.tasks[i]? = some t) {p' : CreditPool}
    (hres : w.shared.credits.tryReserve t.pool t.totalCharge = some p')
    (hfits : (t.pending.map Piece.span).sum ≤ u16Max) (hfresh : Phase.At t .fresh) :
    Funded ⟨{ w.shared with credits := p' },
      w.tasks.set i ({ t with prog := rest } : Task).reserved ++ []⟩ := by
  have hpooled := hw.pooled t (mem_of_getElem? ht)
  obtain ⟨hcredit, -, hack, -, -⟩ := hfresh
  obtain ⟨hlive, hbanked⟩ := CreditPool.live_tryReserve hres
  refine hw.of_books ht rfl hlive ?_ ⟨hpooled.1, ?_⟩ (.inl rfl) ?_ ?_ ?_
  · intro r hr
    obtain rfl := some.inj hr
    simp [Task.reserved, Task.totalCharge, saturatingSum_of_le hfits]
  · intro r hr
    obtain rfl := some.inj hr
    exact hpooled.1
  · rintro g - j - ⟨-, r, hr, -⟩
    simp [hcredit] at hr
  · intro g hg
    have hperm := CreditPool.permits_tryReserve hres g
    rw [if_neg (by have := hpooled.1; omega)] at hperm
    exact hperm
  · intro g hg
    have hperm := CreditPool.permits_tryReserve hres g
    have hdue : dueOf (some ⟨t.totalCharge, t.pool, 0⟩) g = if g = t.pool then t.totalCharge else 0 := by
      simp [dueOf, Reservation.due, eq_comm]
    have howed : (({ t with prog := rest } : Task).reserved).owed w.shared.plumbing g =
        dueOf (some ⟨t.totalCharge, t.pool, 0⟩) g + dueOf t.refunding g :=
      owed_of_ack_eq_none hack
    rw [howed, hdue, owed_of_ack_eq_none hack, hcredit, hbanked, ← hperm]
    simp only [dueOf, map_none, getD_none]
    omega

lemma Funded.of_refund (hw : Funded w) (ht : w.tasks[i]? = some t) {r : Reservation}
    (hr : t.refunding = some r)
    (hprudent : t.pool = w.shared.credits.live → r.pool = w.shared.credits.live) :
    Funded ⟨{ w.shared with credits := w.shared.credits.addPermits t.pool r.charge },
      w.tasks.set i { t with prog := rest, refunding := none } ++ []⟩ := by
  have hpooled := hw.pooled t (mem_of_getElem? ht)
  refine hw.of_books ht rfl rfl (hw.covered t (mem_of_getElem? ht)) hpooled (.inl rfl)
    (fun _ _ _ _ h => h) (fun g hg => ?_) (fun g hg => ?_)
  · rw [CreditPool.permits_addPermits, if_neg (by have := hpooled.1; omega), add_zero]
  · have howed : ({ t with prog := rest, refunding := none } : Task).owed w.shared.plumbing g +
        r.due g = t.owed w.shared.plumbing g := by
      rw [Task.owed, Task.owed, hr]
      rfl
    have hdue : g = t.pool → r.due g = r.charge := by
      intro hgp
      have hlive : t.pool = w.shared.credits.live := le_antisymm hpooled.1 (hgp ▸ hg)
      rw [Reservation.due, if_pos (by rw [hprudent hlive, hgp, hlive])]
    rw [CreditPool.permits_addPermits, CreditPool.banked_addPermits]
    split
    · have := hdue ‹_›
      omega
    · omega

lemma Funded.of_grant (hw : Funded w) (ht : w.tasks[i]? = some t) {credits : ℕ}
    (hprudent : t.pool = w.shared.credits.live → gen = w.shared.credits.live) :
    Funded ⟨{ w.shared with
        credits := (w.shared.credits.addPermits t.pool credits).bank gen credits },
      w.tasks.set i { t with prog := rest } ++ []⟩ := by
  have hpooled := hw.pooled t (mem_of_getElem? ht)
  refine hw.of_books ht rfl rfl (hw.covered t (mem_of_getElem? ht)) hpooled (.inl rfl)
    (fun _ _ _ _ h => h) (fun g hg => ?_) (fun g hg => ?_)
  · rw [CreditPool.semaphores_bank, CreditPool.permits_addPermits,
      if_neg (by have := hpooled.1; omega), add_zero]
  · have howed : ({ t with prog := rest } : Task).owed w.shared.plumbing g =
        t.owed w.shared.plumbing g := rfl
    have hgen : g = t.pool → g = gen := by
      intro hgp
      have hlive : t.pool = w.shared.credits.live := le_antisymm hpooled.1 (hgp ▸ hg)
      rw [hprudent hlive, hgp, hlive]
    rw [CreditPool.semaphores_bank, CreditPool.permits_addPermits, CreditPool.banked_bank,
      CreditPool.banked_addPermits, howed]
    split
    · rw [if_pos (hgen ‹_›)]
      omega
    · omega

lemma CreditEffect.funded {o : CreditOp} {k' : CreditPool} {idle : Bool}
    (h : CreditEffect w.shared.credits idle { t with prog := rest } o k' t') (hw : Funded w)
    (hwired : Wired w) (ht : w.tasks[i]? = some t) (hscoped : Scoped t)
    (hop : t.prog = .credit o :: rest) (hprudent : (Op.credit o).prudent w.shared t) :
    Funded ⟨{ w.shared with credits := k' }, w.tasks.set i t' ++ []⟩ := by
  have hcovered := hw.covered t (mem_of_getElem? ht)
  have hpooled := hw.pooled t (mem_of_getElem? ht)
  have hrel : t.Releasable w.shared.plumbing w.shared.credits.live :=
    releasable_of_scoped hscoped hop (by simp)
  obtain ⟨p, p', hat, hafter⟩ := hscoped.at_of_prog hop
  cases h with
  | current =>
    exact hw.of_books ht rfl rfl hcovered ⟨le_rfl, hpooled.2⟩ (.inl rfl) (fun _ _ _ _ h => h)
      (fun _ _ => rfl) (fun _ _ => le_rfl)
  | tryReserved hres | reserved hres =>
    obtain ⟨rfl, -⟩ : p = .fresh ∧ .reserved = p' := by simpa [Phase.after] using hafter
    exact hw.of_reserve ht hres (by simpa [Op.prudent] using hprudent) hat
  | isClosed | starved | waitFailed => exact hw.of_lost hwired ht hrel rfl rfl _
  | refunded hr => exact hw.of_refund ht hr fun hlive => of_decide_eq_true hprudent hlive _ hr
  | granted => exact hw.of_grant ht (of_decide_eq_true hprudent)
  | closed =>
    exact hw.of_books ht rfl rfl hcovered hpooled (.inl rfl) (fun _ _ _ _ h => h)
      (fun g _ => CreditPool.permits_close g) (fun g _ => by rw [CreditPool.permits_close]; exact le_rfl)
  | _ =>
    exact hw.of_books ht rfl rfl hcovered hpooled (.inl rfl) (fun _ _ _ _ h => h)
      (fun _ _ => rfl) (fun _ _ => le_rfl)

lemma Funded.of_sameAccount (hw : Funded w) (ht : w.tasks[i]? = some t) (h : SameAccount t t')
    (hplumbing : s'.plumbing = w.shared.plumbing) (hcredits : s'.credits = w.shared.credits)
    (hnew : new = [] ∨ ∃ gen, new = plumbingTasks gen w.shared.credits.live) :
    Funded ⟨s', w.tasks.set i t' ++ new⟩ := by
  refine hw.of_books ht hplumbing (by rw [hcredits])
    (h.covered (hw.covered t (mem_of_getElem? ht)))
    (h.pooled (hw.pooled t (mem_of_getElem? ht))) hnew (fun _ _ _ _ hp => h.pays hp)
    (by simp [hcredits]) (fun g _ => ?_)
  rw [hcredits, h.owed_eq]

lemma Task.Covered.allocated (hcovered : t.Covered) {s : SessionState} {piece : Piece}
    {pieces : List Piece} (hpending : t.pending = piece :: pieces) :
    (t.allocated s piece pieces).Covered := by
  intro r' hr'
  obtain ⟨r, hr, rfl⟩ := map_eq_some_iff.1 hr'
  have := hcovered r hr
  rw [hpending, map_cons, sum_cons] at this
  simp only [Task.allocated]
  omega

lemma SessionEffect.funded {o : SessionOp} {x' : SessionState}
    (h : SessionEffect w.shared.session { t with prog := rest } o x' t') (hw : Funded w)
    (hwired : Wired w) (ht : w.tasks[i]? = some t) (hscoped : Scoped t)
    (hop : t.prog = .session o :: rest) :
    Funded ⟨{ w.shared with session := x' }, w.tasks.set i t' ++ []⟩ := by
  have hcovered := hw.covered t (mem_of_getElem? ht)
  have hpooled := hw.pooled t (mem_of_getElem? ht)
  obtain ⟨p, p', hat, hafter⟩ := hscoped.at_of_prog hop
  rcases h.account with hsame | ⟨pre, rfl⟩ | ⟨pieces, rfl⟩ | rfl
  · exact hw.of_sameAccount ht ⟨hsame.1, hsame.2, hsame.3, hsame.4, hsame.5⟩ rfl rfl (.inl rfl)
  · refine hw.of_lost hwired ht (releasable_of_scoped hscoped hop (by simp)) ?_ ?_ _ <;> rfl
  · obtain ⟨rfl, -⟩ : p = .idle ∧ .fresh = p' := by simpa [Phase.after] using hafter
    cases h
    refine hw.of_books ht rfl rfl (fun _ h => by simp at h) ⟨hpooled.1, fun _ h => by simp at h⟩
      (.inl rfl) ?_ (fun _ _ => rfl) (fun g _ => ?_)
    · rintro g - j - ⟨-, r, hr, -⟩
      simp [hat.1] at hr
    · have hle : dueOf none g + dueOf t.refunding g ≤ t.owed w.shared.plumbing g := by
        rw [Task.owed]
        exact Nat.add_le_add (Nat.zero_le _) le_rfl
      rw [owed_of_ack_eq_none rfl]
      exact Nat.add_le_add_right (Nat.add_le_add_left hle _) _
  · obtain ⟨rfl, -⟩ : p = .reserved ∧ .reserved = p' := by simpa [Phase.after] using hafter
    cases h with
    | @allocated piece pieces hpending =>
      refine hw.of_books ht rfl rfl (Task.Covered.allocated (t := { t with prog := rest }) hcovered hpending)
        ⟨hpooled.1, ?_⟩ (.inl rfl) ?_ (fun _ _ => rfl) (fun g _ => ?_)
      · intro r' hr'
        obtain ⟨r, hr, rfl⟩ := map_eq_some_iff.1 hr'
        exact hpooled.2 r hr
      · rintro g - j - ⟨hack, -⟩
        simp [hat.2.1] at hack
      · have hdue : dueOf (t.credit.map fun r => { r with taken := r.taken + piece.span }) g =
            dueOf t.credit g := by
          cases t.credit <;> rfl
        have howed := owed_of_ack_eq_none (q := w.shared.plumbing) (g := g)
          (t := ({ t with prog := rest } : Task).allocated w.shared.session piece pieces) hat.2.1
        rw [howed, owed_of_ack_eq_none hat.2.1]
        exact Nat.add_le_add_right (Nat.add_le_add_left (Nat.add_le_add_right hdue.le _) _) _

lemma WaiterEffect.funded {o : WaiterOp} {r' : Routing}
    (h : WaiterEffect w.shared.routing gen { t with prog := rest } o r' t') (hw : Funded w)
    (hwired : Wired w) (ht : w.tasks[i]? = some t) (hscoped : Scoped t)
    (hop : t.prog = .waiter o :: rest) (hplumbing : s'.plumbing = w.shared.plumbing)
    (hcredits : s'.credits = w.shared.credits) :
    Funded ⟨s', w.tasks.set i t' ++ []⟩ := by
  rcases h.account with hsame | ⟨pre, rfl⟩
  · exact hw.of_sameAccount ht ⟨hsame.1, hsame.2, hsame.3, hsame.4, hsame.5⟩ hplumbing hcredits
      (.inl rfl)
  · exact hw.of_lost hwired ht (releasable_of_scoped hscoped hop (by simp)) hplumbing hcredits _

lemma owed_le_owed {q' : Plumbing} (h : ∀ a, t.ack = some a →
    ((q.queues a.1).acks a.2).handed → ((q'.queues a.1).acks a.2).handed) :
    t.owed q' g ≤ t.owed q g := by
  have hmono : t.handed q → t.handed q' := by
    unfold Task.handed
    split
    · exact h _ ‹_›
    · exact id
  simp only [Task.owed]
  split
  · omega
  · rw [if_neg fun hq => ‹¬_› (hmono hq)]

lemma Funded.of_queues (hw : Funded w) (ht : w.tasks[i]? = some t) (hsame : SameAccount t t')
    (hcredits : s'.credits = w.shared.credits)
    (hjobs : ∀ g, ∀ j ∈ (s'.plumbing.queues g).jobs, j ∈ (w.shared.plumbing.queues g).jobs)
    (hspent : ∀ g, w.shared.credits.live ≤ g →
      (s'.plumbing.queues g).spent + (w.tasks.map (Task.owed s'.plumbing g)).sum ≤
        (w.shared.plumbing.queues g).spent + (w.tasks.map (Task.owed w.shared.plumbing g)).sum) :
    Funded ⟨s', w.tasks.set i t' ++ []⟩ := by
  constructor
  · exact forall_mem_set_append (hsame.covered (hw.covered t (mem_of_getElem? ht))) hw.covered
      (by simp)
  · rw [hcredits]
    exact forall_mem_set_append (hsame.pooled (hw.pooled t (mem_of_getElem? ht))) hw.pooled
      (by simp)
  · rw [hcredits]
    exact hw.fresh
  · rw [hcredits]
    intro g hg j hj
    exact (hw.paid g hg j (hjobs g j hj)).set ht hsame.pays
  · rw [hcredits]
    intro g hg
    have hsum := sum_map_set_add (Task.owed s'.plumbing g) ht t'
    have hbal := hw.balance g hg
    have := hspent g hg
    rw [hsame.owed_eq] at hsum
    simp only [append_nil]
    omega

lemma Funded.of_reset (hw : Funded w) (ht : w.tasks[i]? = some t) (hsame : SameAccount t t')
    (hplumbing : s'.plumbing = w.shared.plumbing) (hcredits : s'.credits = w.shared.credits.reset) :
    Funded ⟨s', w.tasks.set i t' ++ []⟩ := by
  have hpermits : ∀ g, w.shared.credits.live < g → (w.shared.credits.reset.semaphores g).permits =
      (w.shared.credits.semaphores g).permits := by
    intro g hg
    by_cases hg' : g = w.shared.credits.live + 1
    · subst hg'
      rw [CreditPool.semaphores_reset_self, hw.fresh _ hg]
      rfl
    · rw [CreditPool.semaphores_reset_of_ne hg']
  have hpooled : ∀ u ∈ w.tasks, u.Pooled (w.shared.credits.live + 1) := fun u hu =>
    ⟨Nat.le_succ_of_le (hw.pooled u hu).1, fun r hr => Nat.le_succ_of_le ((hw.pooled u hu).2 r hr)⟩
  constructor
  · exact forall_mem_set_append (hsame.covered (hw.covered t (mem_of_getElem? ht))) hw.covered
      (by simp)
  · rw [hcredits]
    exact forall_mem_set_append (hsame.pooled (hpooled t (mem_of_getElem? ht))) hpooled
      (by simp)
  · rw [hcredits]
    intro g hg
    rw [hpermits g (Nat.lt_of_succ_lt hg), hw.fresh g (Nat.lt_of_succ_lt hg)]
  · rw [hcredits, hplumbing]
    intro g hg j hj
    exact (hw.paid g (Nat.le_of_succ_le hg) j hj).set ht hsame.pays
  · rw [hcredits, hplumbing]
    intro g hg
    have hsum := sum_map_set_add (Task.owed w.shared.plumbing g) ht t'
    have hbal := hw.balance g (Nat.le_of_succ_le hg)
    rw [hsame.owed_eq] at hsum
    rw [hpermits g hg, CreditPool.banked_reset]
    simp only [append_nil]
    omega

lemma Funded.of_swap (hw : Funded w) (hwired : Wired w) (ht : w.tasks[i]? = some t)
    (hsame : SameAccount t t') (hcredits : s'.credits = w.shared.credits)
    (hqueues : s'.plumbing.queues =
      (w.shared.plumbing.set (w.shared.plumbing.writeTx + 1) .new).queues) :
    Funded ⟨s', w.tasks.set i t' ++ []⟩ := by
  have hold : ∀ g, g ≠ w.shared.plumbing.writeTx + 1 →
      s'.plumbing.queues g = w.shared.plumbing.queues g := fun g hg => by
    rw [hqueues, Plumbing.queues_set_of_ne hg]
  have hnew : s'.plumbing.queues (w.shared.plumbing.writeTx + 1) = .new := by
    rw [hqueues, Plumbing.queues_set_self]
  refine hw.of_queues ht hsame hcredits (fun g j hj => ?_) (fun g _ => ?_)
  · by_cases hg : g = w.shared.plumbing.writeTx + 1
    · rw [hg, hnew] at hj
      simp [WriteQueue.new, WriteQueue.absent] at hj
    · rwa [hold g hg] at hj
  · have hspent : (s'.plumbing.queues g).spent ≤ (w.shared.plumbing.queues g).spent := by
      by_cases hg : g = w.shared.plumbing.writeTx + 1
      · rw [hg, hnew]
        exact Nat.zero_le _
      · rw [hold g hg]
    refine Nat.add_le_add hspent (sum_le_sum fun u hu => owed_le_owed fun a ha => ?_)
    rw [hold a.1 (by have := (hwired.addressed u hu).1 a ha; omega)]
    exact id

lemma ControlEffect.funded {o : ControlOp}
    (h : ControlEffect w.shared i { t with prog := rest } o s' t' new) (hw : Funded w)
    (hwired : Wired w) (ht : w.tasks[i]? = some t) (hscoped : Scoped t)
    (hop : t.prog = .control o :: rest) : Funded ⟨s', w.tasks.set i t' ++ new⟩ := by
  have hsame : SameAccount t { t with prog := rest } := ⟨rfl, rfl, rfl, rfl, rfl⟩
  by_cases hreset : o = .resetCredits
  · subst hreset
    cases h
    exact hw.of_reset ht hsame rfl rfl
  by_cases hswap : o = .swapQueue
  · subst hswap
    cases h
    exact hw.of_swap hwired ht hsame rfl rfl
  have heffect : Effect w.shared i { t with prog := rest } .go (.control o) s' t' new := .control h
  have hcredits := heffect.credits_eq (by simp) (by simpa using hreset)
  have hplumbing := heffect.plumbing_eq (by simp) (by simpa using hswap)
  have hnew : new = [] ∨ ∃ gen, new = plumbingTasks gen w.shared.credits.live := by
    cases h with
    | spawnPlumbing => exact .inr ⟨_, rfl⟩
    | _ => exact .inl rfl
  rcases h.account with hsame | ⟨⟨pre, rfl⟩, rfl⟩
  · exact hw.of_sameAccount ht ⟨hsame.1, hsame.2, hsame.3, hsame.4, hsame.5⟩ hplumbing hcredits hnew
  · exact hw.of_lost hwired ht (releasable_of_scoped hscoped hop (by simp)) hplumbing hcredits _

lemma Funded.of_unwritten (hw : Funded w) (ht : w.tasks[i]? = some t) (hsame : SameAccount t t')
    {x : WriteQueue}
    (howed : ∀ g, (w.tasks.map (Task.owed (w.shared.plumbing.set gen x) g)).sum ≤
      (w.tasks.map (Task.owed w.shared.plumbing g)).sum)
    (hjobs : ∀ j ∈ x.jobs, j ∈ (w.shared.plumbing.queues gen).jobs)
    (hspent : x.spent = (w.shared.plumbing.queues gen).spent) :
    Funded ⟨{ w.shared with plumbing := w.shared.plumbing.set gen x }, w.tasks.set i t' ++ []⟩ :=
  hw.of_queues ht hsame rfl
    (Plumbing.forall_queues_set (P := fun g y => ∀ j ∈ y.jobs, j ∈ (w.shared.plumbing.queues g).jobs)
      hjobs fun _ _ h => h)
    fun g _ => Nat.add_le_add
      (Plumbing.forall_queues_set (P := fun g y => y.spent ≤ (w.shared.plumbing.queues g).spent)
        hspent.le (fun _ => le_rfl) g)
      (howed g)

lemma Funded.of_write (hw : Funded w) (hwired : Wired w) (ht : w.tasks[i]? = some t)
    (hsame : SameAccount t t') {jobs : List Job}
    (hjobs : (w.shared.plumbing.queues gen).jobs = j :: jobs)
    (hhanded : ∀ g seq, ((w.shared.plumbing.queues g).acks seq).handed →
      (((w.shared.plumbing.set gen ((w.shared.plumbing.queues gen).beginWrite j jobs)).queues
        g).acks seq).handed) :
    Funded ⟨{ w.shared with plumbing :=
        w.shared.plumbing.set gen ((w.shared.plumbing.queues gen).beginWrite j jobs) },
      w.tasks.set i t' ++ []⟩ := by
  have hle : ∀ g, ∀ u ∈ w.tasks,
      u.owed (w.shared.plumbing.set gen ((w.shared.plumbing.queues gen).beginWrite j jobs)) g ≤
        u.owed w.shared.plumbing g :=
    fun g u _ => owed_le_owed fun a _ hh => hhanded a.1 a.2 hh
  have hj : j ∈ (w.shared.plumbing.queues gen).jobs := hjobs ▸ mem_cons_self ..
  refine hw.of_queues ht hsame rfl
    (Plumbing.forall_queues_set (P := fun g y => ∀ j ∈ y.jobs, j ∈ (w.shared.plumbing.queues g).jobs)
      (fun j' hj' => hjobs ▸ mem_cons_of_mem j hj') fun _ _ h => h) (fun g hg => ?_)
  by_cases hgen : g = gen
  · subst hgen
    have hspent : ((w.shared.plumbing.queues g).beginWrite j jobs).spent =
        (w.shared.plumbing.queues g).spent + j.frame.charge := by
      simp [WriteQueue.spent, WriteQueue.beginWrite, WriteQueue.setAck]
    simp only [Plumbing.queues_set_self, hspent]
    rcases hw.paid g hg j hj with hfree | ⟨k, u, hu, hack, r, hcredit, hpool, hcharge⟩
    · have := sum_le_sum (hle g)
      omega
    · -- The task that pays owed at least the charge before, and owes nothing for it now.
      have hbefore : u.handed w.shared.plumbing = false := by
        simp [Task.handed, hack, (hwired.wellFormed g).queued j hj, Ack.handed]
      have hafter : u.handed (w.shared.plumbing.set g
          ((w.shared.plumbing.queues g).beginWrite j jobs)) = true := by
        simp [Task.handed, hack, WriteQueue.beginWrite, WriteQueue.acks_setAck_self, Ack.handed]
      have hpaid : u.owed (w.shared.plumbing.set g
          ((w.shared.plumbing.queues g).beginWrite j jobs)) g + j.frame.charge ≤
          u.owed w.shared.plumbing g := by
        simp only [Task.owed, hbefore, hafter, if_true, hcredit, dueOf, Reservation.due, hpool,
          map_some, getD_some, Bool.false_eq_true, if_false]
        omega
      have := sum_map_add_le hu (hle g) hpaid
      omega
  · rw [Plumbing.queues_set_of_ne hgen]
    exact Nat.add_le_add_left (sum_le_sum (hle g)) _

lemma Funded.of_enqueue (hw : Funded w) (hwired : Wired w)
    (hle : w.shared.plumbing.writeTx ≤ w.shared.credits.live) (ht : w.tasks[i]? = some t)
    {f : Outgoing} (hout : t.outbox = some (gen, f)) (hack : t.credit = none ∨ t.ack = none)
    (hcost : f.charge = 0 ∨ ∃ r, t.credit = some r ∧ f.charge ≤ r.charge ∧
      (gen = w.shared.credits.live → r.pool = w.shared.credits.live)) :
    Funded ⟨{ w.shared with plumbing :=
        w.shared.plumbing.set gen ((w.shared.plumbing.queues gen).push f) },
      w.tasks.set i { t with
        prog := rest, outbox := none, ack := some (gen, (w.shared.plumbing.queues gen).nextSeq) } ++
        []⟩ := by
  have hgen : gen ≤ w.shared.plumbing.writeTx :=
    (hwired.addressed t (mem_of_getElem? ht)).2 _ hout
  have hacks : ∀ g seq, ((w.shared.plumbing.set gen ((w.shared.plumbing.queues gen).push f)).queues
      g).acks seq = (w.shared.plumbing.queues g).acks seq := fun g seq => by
    refine Plumbing.forall_queues_set (P := fun g y => y.acks seq =
      (w.shared.plumbing.queues g).acks seq) ?_ (fun _ => rfl) g
    rfl
  refine ⟨forall_mem_set_append (hw.covered t (mem_of_getElem? ht)) hw.covered (by simp),
    forall_mem_set_append (hw.pooled t (mem_of_getElem? ht)) hw.pooled (by simp), hw.fresh,
    fun g hg j hj => ?_, fun g hg => ?_⟩
  · have hold : j ∈ (w.shared.plumbing.queues g).jobs → Paid (w.tasks.set i { t with
        prog := rest, outbox := none,
        ack := some (gen, (w.shared.plumbing.queues gen).nextSeq) } ++ []) g j := fun hj =>
      (hw.paid g hg j hj).set ht fun ⟨hack', r, hr, _⟩ => by simp_all
    by_cases hg' : g = gen
    · subst hg'
      simp only [Plumbing.queues_set_self] at hj
      rcases mem_append.1 hj with h | h
      · exact hold h
      · obtain rfl := mem_singleton.1 h
        have hlive : g = w.shared.credits.live := le_antisymm (hgen.trans hle) hg
        rcases hcost with hfree | ⟨r, hr, hcharge, hpool⟩
        · exact .inl hfree
        · exact .inr ⟨i, _, getElem?_set_append_self ht, rfl, r, hr, (hpool hlive).trans hlive.symm,
            hcharge⟩
    · rw [Plumbing.queues_set_of_ne hg'] at hj
      exact hold hj
  · generalize hq' : w.shared.plumbing.set gen ((w.shared.plumbing.queues gen).push f) = q' at *
    have hothers : Task.owed q' g = Task.owed w.shared.plumbing g := by
      funext u
      exact le_antisymm (owed_le_owed fun a _ hh => by rwa [hacks])
        (owed_le_owed fun a _ hh => by rwa [← hacks])
    have hself : ({ t with
        prog := rest, outbox := none,
        ack := some (gen, (w.shared.plumbing.queues gen).nextSeq) } : Task).owed q' g =
        t.owed w.shared.plumbing g := by
      have hfresh := (hwired.wellFormed gen).fresh _ le_rfl
      simp only [Task.owed, Task.handed, hacks, hfresh, Ack.handed, Bool.false_eq_true, if_false]
      rcases hack with h | h <;> simp [h, dueOf]
    have hspent : (q'.queues g).spent = (w.shared.plumbing.queues g).spent := by
      subst hq'
      refine Plumbing.forall_queues_set (P := fun g y => y.spent =
        (w.shared.plumbing.queues g).spent) ?_ (fun _ => rfl) g
      rfl
    have hsum := sum_map_set_add (Task.owed q' g) ht { t with
      prog := rest, outbox := none, ack := some (gen, (w.shared.plumbing.queues gen).nextSeq) }
    have hbal := hw.balance g hg
    rw [hself, hothers] at hsum
    simp only [append_nil, hspent, hothers]
    omega

lemma QueueEffect.funded {o : QueueOp} {q' : Plumbing}
    (h : QueueEffect w.shared.plumbing i { t with prog := rest } c o q' t') (hw : Funded w)
    (hregular : Regular w) (ht : w.tasks[i]? = some t) (hop : t.prog = .queue o :: rest)
    (hprudent : (Op.queue o).prudent w.shared t) :
    Funded ⟨{ w.shared with plumbing := q' }, w.tasks.set i t' ++ []⟩ := by
  have hscoped := hregular.protocol t (mem_of_getElem? ht)
  have hwired := hregular.wired
  have hcovered := hw.covered t (mem_of_getElem? ht)
  have hpooled := hw.pooled t (mem_of_getElem? ht)
  have hsame {prog : List Op} : SameAccount t { t with prog } := ⟨rfl, rfl, rfl, rfl, rfl⟩
  have hhanded := h.handed_of_handed hwired.wellFormed
  have howed : ∀ g, (w.tasks.map (Task.owed q' g)).sum ≤
      (w.tasks.map (Task.owed w.shared.plumbing g)).sum := fun g =>
    sum_le_sum fun u _ => owed_le_owed fun a _ hh => hhanded a.1 a.2 hh
  cases h with
  | snapshot => exact hw.of_sameAccount ht ⟨rfl, rfl, rfl, rfl, rfl⟩ rfl rfl (.inl rfl)
  | @enqueued _ gen f hout =>
    have hout : t.outbox = some (gen, f) := hout
    have hack := hscoped.credit_or_ack hop (by simp)
    refine hw.of_enqueue hwired ?_ ht hout hack ?_
    · rw [hregular.revivable.live]
      exact Nat.le_add_right ..
    · obtain ⟨p, p', hat, hafter⟩ := hscoped.at_of_prog hop
      by_cases hp : p = .packed
      · subst hp
        obtain ⟨-, -, -, r, o, hr, ho, hcharge⟩ := hat
        obtain rfl : o = (gen, f) := some.inj (ho.symm.trans hout)
        have hpaid : f.charge ≤ r.charge :=
          hcharge.trans (Nat.le_of_add_right_le (hcovered r hr))
        exact .inr ⟨r, hr, hpaid, fun hlive => of_decide_eq_true hprudent _ hout hlive r hr⟩
      · obtain ⟨rfl, -⟩ : p = .idle ∧ .idle = p' := by simpa [Phase.after, hp] using hafter
        have hunsent := hat.2
        simp only [Task.unsent, hout, map_some, getD_some,
          Nat.add_eq_zero_iff] at hunsent
        exact .inl hunsent.2
  | enqueueFailed =>
    exact hw.of_lost hwired ht (releasable_of_scoped hscoped hop (by simp)) rfl rfl _
  | @committed _ gen seq hack hok =>
    refine hw.of_books ht rfl rfl (fun _ h => by simp at h) ⟨hpooled.1, fun _ h => by simp at h⟩
      (.inl rfl) ?_ (fun _ _ => rfl) (fun g _ => ?_)
    · rintro g - j hj ⟨hack', -⟩
      obtain ⟨rfl, rfl⟩ : gen = g ∧ seq = j.seq := by
        simpa using hack.symm.trans hack'
      simp [(hwired.wellFormed gen).queued j hj] at hok
    · have : ({ t with prog := rest, credit := none } : Task).owed w.shared.plumbing g ≤
          t.owed w.shared.plumbing g := by
        simp only [Task.owed, dueOf, map_none, getD_none, ite_self]
        exact Nat.add_le_add (Nat.zero_le _) le_rfl
      exact Nat.add_le_add_right (Nat.add_le_add_left this _) _
  | @sendFailed _ gen seq hack hstate =>
    refine hw.of_lost hwired ht (fun r hr hlive => ?_) ?_ ?_ _
    · have hne : (w.shared.plumbing.queues gen).acks seq ≠ .failed :=
        of_decide_eq_true hprudent r hr hlive _ hack
      have hstate' : (w.shared.plumbing.queues gen).acks seq = .refused ∨
          (w.shared.plumbing.queues gen).acks seq = .dropped := by simpa [hne] using hstate
      have hack' : t.ack = some (gen, seq) := hack
      rcases hstate' with h | h <;> simp [Task.exposed, hack', h]
    all_goals rfl
  | began hjobs => exact hw.of_write hwired ht hsame hjobs hhanded
  | refused hjobs =>
    exact hw.of_unwritten ht hsame howed (fun j' hj' => hjobs ▸ mem_cons_of_mem _ hj') rfl
  | finished | broke => exact hw.of_unwritten ht hsame howed (fun _ h => h) rfl
  | exited gen => exact hw.of_unwritten ht hsame howed (by simp [WriteQueue.shut]) rfl

lemma Effect.funded (h : Effect w.shared i { t with prog := rest } c op s' t' new) (hw : Funded w)
    (hregular : Regular w) (ht : w.tasks[i]? = some t) (hop : t.prog = op :: rest)
    (hprudent : op.prudent w.shared t) : Funded ⟨s', w.tasks.set i t' ++ new⟩ := by
  have hscoped := hregular.protocol t (mem_of_getElem? ht)
  cases h with
  | credit h => exact h.funded hw hregular.wired ht hscoped hop hprudent
  | session h => exact h.funded hw hregular.wired ht hscoped hop
  | waiter h => exact h.funded hw hregular.wired ht hscoped hop rfl rfl
  | queue h => exact h.funded hw hregular ht hop hprudent
  | control h => exact h.funded hw hregular.wired ht hscoped hop

end Preservation

theorem funded_of_step {w' : World} (hw : Funded w) (hregular : Regular w) (hprudent : w.prudent a)
    (h : step w a = some w') : Funded w' := by
  refine step_cases h (fun call ha => ?_) (fun i c t op rest s' t' new ha ht hop heffect => ?_)
    (fun i t ops ha ht _ => ?_)
  · refine ⟨?_, ?_, hw.fresh, fun g hg j hj => ?_, fun g hg => ?_⟩
    · exact forall_mem_concat hw.covered fun _ h => by simp [Call.task] at h
    · exact forall_mem_concat hw.pooled ⟨le_rfl, fun _ h => by simp [Call.task] at h⟩
    · rcases hw.paid g hg j hj with hfree | ⟨k, u, hu, hpay⟩
      · exact .inl hfree
      · refine .inr ⟨k, u, ?_, hpay⟩
        rw [List.getElem?_append_left (List.getElem?_eq_some_iff.1 hu).1, hu]
    · simpa [owed_task] using hw.balance g hg
  · subst ha
    exact heffect.funded hw hregular ht hop (prudent_op hprudent ht hop)
  · rw [← append_nil (w.tasks.set _ _)]
    exact hw.of_lost hregular.wired ht (fun r hr hlive => exposed_eq_false hprudent ha ht hr hlive) rfl rfl ops

lemma funded_init : Funded init where
  covered := covered_plumbingTasks 0 0
  pooled u hu := by
    rcases mem_pair.1 hu with rfl | rfl <;> exact ⟨le_rfl, fun _ h => by simp at h⟩
  fresh _ _ := rfl
  paid g _ j hj := by
    have hnil : (init.shared.plumbing.queues g).jobs = [] := by
      simp only [init]
      split <;> rfl
    simp [hnil] at hj
  balance g _ := by
    have hzero : (init.shared.plumbing.queues g).spent = 0 := by
      simp only [init]
      split <;> rfl
    rw [hzero]
    exact le_rfl

theorem funded_of_exec {as : List Action} (hrun : Transition.exec step init as = some w)
    (hprudent : Along step (fun w a _ => w.prudent a) init as) : Funded w :=
  (exec_invariant (I := fun w => Regular w ∧ Funded w)
    (fun _ _ _ hw hC hstep =>
      ⟨regular_of_step hw.1 hstep, funded_of_step hw.2 hw.1 hC hstep⟩)
    ⟨regular_init, funded_init⟩ hrun hprudent).2

/-! ## Overspending -/

/-- **Credits are not overspent.** In every run of prudent steps, with any number of callers and
revivals, the charges of the frames that the live transport was handed and the credits on hand
never exceed the one initial credit and what the server granted. -/
theorem credits_not_overspent {w : World} {as : List Action}
    (hrun : Transition.exec step init as = some w)
    (hprudent : Along step (fun w a _ => w.prudent a) init as) :
    (w.shared.plumbing.queues w.shared.credits.live).spent + w.shared.credits.available ≤
      1 + w.shared.credits.banked w.shared.credits.live :=
  (Nat.le_add_right ..).trans ((funded_of_exec hrun hprudent).balance _ le_rfl)

set_option maxRecDepth 4000 in
theorem credits_not_overspent_answeredRequest :
    ∃ w, Transition.exec step init answeredRequest = some w ∧
      (w.shared.plumbing.queues w.shared.credits.live).spent + w.shared.credits.available ≤
        1 + w.shared.credits.banked w.shared.credits.live :=
  ⟨_, rfl, credits_not_overspent
    (show Transition.exec step init answeredRequest = some _ from rfl) (by decide)⟩

/-- The future of a request is dropped while its frame waits for the writer; the writer sends the
frame all the same. -/
def droppedRequest : List Action :=
  .spawn (.execute 1) :: turns 2 12 ++ .drop 2 :: turns 2 4 ++ turns 0 1

/-- **The credit of a dropped request is spent and back in the pool.** -/
theorem droppedRequest_overspends :
    ∃ w, Transition.exec step init droppedRequest = some w ∧ w.shared.credits.live = 0 ∧
      1 + w.shared.credits.banked 0 <
        (w.shared.plumbing.queues 0).spent + w.shared.credits.available :=
  ⟨_, rfl, rfl, by decide⟩

/-! ## Generations -/

def Task.creditsOf (t : Task) : Op → Option ℕ
  | .credit (.tryReserve _) | .credit .reserve => some t.pool
  | .credit .refund => t.refunding.map Reservation.pool
  | .credit (.grant gen _) => some gen
  | _ => none

def KeepsApart (w : World) (a : Action) (w' : World) : Prop :=
  ∀ i c t op rest g, a = .run i c → w.tasks[i]? = some t → t.prog = op :: rest →
    t.creditsOf op = some g → g < w.shared.credits.live →
    w'.shared.credits.semaphores w.shared.credits.live =
      w.shared.credits.semaphores w.shared.credits.live

lemma CreditEffect.semaphores_eq {p p' : CreditPool} {idle : Bool} {t' : Task} {o : CreditOp}
    (h : CreditEffect p idle t o p' t') {k g : ℕ} (hg : t.creditsOf (.credit o) = some g)
    (hpool : t.pool ≠ k) : p'.semaphores k = p.semaphores k := by
  cases h with
  | tryReserved hres | reserved hres =>
    obtain ⟨s, -, rfl⟩ := CreditPool.tryReserve_eq_some.1 hres
    exact CreditPool.semaphores_update_of_ne (Ne.symm hpool) _
  | refunded | granted => exact CreditPool.semaphores_update_of_ne (Ne.symm hpool) _
  | closed => simp [Task.creditsOf] at hg
  | _ => rfl

lemma pool_ne_live {s : Shared} {op : Op} {g : ℕ} (hprudent : op.prudent s t)
    (hg : t.creditsOf op = some g) (hlt : g < s.credits.live) :
    t.pool ≠ s.credits.live ∧ ∃ o, op = .credit o := by
  unfold Task.creditsOf at hg
  split at hg
  · obtain rfl := some.inj hg
    exact ⟨hlt.ne, _, rfl⟩
  · obtain rfl := some.inj hg
    exact ⟨hlt.ne, _, rfl⟩
  · obtain ⟨r, hr, rfl⟩ := map_eq_some_iff.1 hg
    exact ⟨fun hlive => hlt.ne (of_decide_eq_true hprudent hlive r hr), _, rfl⟩
  · obtain rfl := some.inj hg
    exact ⟨fun hlive => hlt.ne (of_decide_eq_true hprudent hlive), _, rfl⟩
  · simp at hg

lemma keepsApart_of_prudent {w' : World} (hprudent : w.prudent a) (h : step w a = some w') :
    KeepsApart w a w' := by
  rintro i c t op rest g rfl ht hop hg hlt
  obtain ⟨hpool, o, rfl⟩ := pool_ne_live (prudent_op hprudent ht hop) hg hlt
  cases stepped_of_step h with
  | run ht' hop' heffect =>
    obtain rfl := some.inj (ht.symm.trans ht')
    obtain ⟨rfl, rfl⟩ := cons.inj (hop.symm.trans hop')
    cases heffect with
    | credit hcredit => exact hcredit.semaphores_eq hg hpool

/-- **Budgets do not leak between generations.** In every run of prudent steps, whatever is
outstanding when a transport is replaced, the credits of the live pool and the charges of the
frames sent over its transport never exceed one and what frames received over that transport
granted, and no reserve, refund or grant of an earlier generation changes the live pool. -/
theorem budgets_stay_apart {w : World} {as : List Action}
    (hrun : Transition.exec step init as = some w)
    (hprudent : Along step (fun w a _ => w.prudent a) init as) :
    w.shared.credits.available + (w.shared.plumbing.queues w.shared.credits.live).spent ≤
        1 + w.shared.credits.banked w.shared.credits.live ∧
      Along step KeepsApart init as := by
  constructor
  · have := (funded_of_exec hrun hprudent).balance _ le_rfl
    simp only [CreditPool.available]
    omega
  · exact hprudent.mono fun _ _ _ hstep hp => keepsApart_of_prudent hp hstep

set_option maxRecDepth 4000 in
theorem budgets_stay_apart_revivedConnection :
    ∃ w, Transition.exec step init revivedConnection = some w ∧
      (w.shared.credits.available + (w.shared.plumbing.queues w.shared.credits.live).spent ≤
        1 + w.shared.credits.banked w.shared.credits.live ∧
      Along step KeepsApart init revivedConnection) :=
  ⟨_, rfl, budgets_stay_apart
    (show Transition.exec step init revivedConnection = some _ from rfl) (by decide)⟩

/-- A request waits for the writer when the connection dies and is revived; then the writer of the
old transport goes away, and the request gives its credit back. -/
def lateRefund : List Action :=
  .spawn (.execute 1) :: turns 2 12 ++ .spawn .markDead :: turns 3 4 ++
    .spawn (.reconnect 1) :: turns 4 18 ++ [.reap 0] ++ turns 0 1 ++ turns 2 6

/-- **The credit of the old generation ends up in the new pool.** -/
theorem lateRefund_leaks :
    ∃ w, Transition.exec step init lateRefund = some w ∧ w.shared.credits.live = 1 ∧
      1 + w.shared.credits.banked 1 <
        w.shared.credits.available + (w.shared.plumbing.queues 1).spent :=
  ⟨_, rfl, rfl, by decide⟩

end Smb2.Connection
