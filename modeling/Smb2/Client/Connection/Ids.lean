import Mathlib.Data.Set.BooleanAlgebra
import Mathlib.Order.CompletePartialOrder
import Mathlib.Order.Interval.Set.Basic
import Smb2.Client.Connection.Queues

set_option autoImplicit false

/-!
# Every message id is used once

The counter of message ids hands out ranges that follow one another, and a request that has its
range is in one place only: with the task that built it, in the frame that the task packed, in a
queue or with a transport. This file counts, for every message id of every generation, the
requests that occupy it.
-/

namespace Smb2.Connection

open Transition

/-- The message ids that a request occupies in the eyes of the server, `[m, m + CreditCharge)`. -/
def Sub.range (s : Sub) : Set ℕ := Set.Ico s.id (s.id + s.charge)

def Sub.uses (e m : ℕ) (s : Sub) : Bool := s.epoch = e ∧ s.id ≤ m ∧ m < s.id + s.charge

def Outgoing.uses (e m : ℕ) (f : Outgoing) : ℕ := f.subs.countP (Sub.uses e m)

def Task.uses (e m : ℕ) (t : Task) : ℕ :=
  (t.ready ++ t.subs).countP (Sub.uses e m) + (t.outbox.map fun o => o.2.uses e m).getD 0

def WriteQueue.uses (e m : ℕ) (x : WriteQueue) : ℕ :=
  (x.jobs.map fun j => j.frame.uses e m).sum + (x.wire.map (Outgoing.uses e m)).sum

def SessionState.handedOut (x : SessionState) (e m : ℕ) : ℕ :=
  if e < x.idEpoch ∨ e = x.idEpoch ∧ m < x.nextMessageId then 1 else 0

/-- **The invariant**: whatever queue one looks at, an id that was handed out is occupied at most
once by the tasks and the queue together, and no other id is occupied. -/
def Distinct (w : World) : Prop :=
  ∀ e m g, (w.tasks.map (Task.uses e m)).sum + (w.shared.plumbing.queues g).uses e m ≤
    w.shared.session.handedOut e m

section Operations

variable {s s' : Shared} {i e m : ℕ} {t t' : Task} {c : Choice} {op : Op} {new : List Task}

@[simp] lemma uses_lost (ops : List Op) : (t.lost ops).uses e m = 0 := rfl

lemma uses_cancel (id epoch : ℕ) : Sub.uses e m ⟨id, 0, 0, epoch⟩ = false := by
  simp only [Sub.uses, decide_eq_false_iff_not, not_and]
  intro _ h
  omega

lemma SessionEffect.uses_le {o : SessionOp} {x x' : SessionState} (h : SessionEffect x t o x' t')
    (ho : o ≠ .allocate) : t'.uses e m ≤ t.uses e m := by
  cases h with
  | allocated => exact absurd rfl ho
  | start => exact Nat.zero_le _
  | cancelOf id epoch =>
    refine Nat.add_le_add_right ?_ _
    rw [List.countP_append, List.countP_append, List.countP_singleton, uses_cancel]
    simp [Task.stamp]
  | signFailed | encryptFailed | rejected | setupFailed => exact Nat.zero_le _
  | _ => exact le_rfl

lemma WaiterEffect.uses_le {o : WaiterOp} {r r' : Routing} {gen : ℕ}
    (h : WaiterEffect r gen t o r' t') : t'.uses e m ≤ t.uses e m := by
  cases h with
  | registered hsubs =>
    refine Nat.add_le_add_right ?_ _
    rw [hsubs, List.append_assoc, List.singleton_append]
  | disconnected | registerFailed | answerFailed | gaveUp => exact Nat.zero_le _
  | _ => exact le_rfl

lemma CreditEffect.uses_le {o : CreditOp} {p p' : CreditPool} {idle : Bool}
    (h : CreditEffect p idle t o p' t') : t'.uses e m ≤ t.uses e m := by
  cases h with
  | isClosed | starved | waitFailed => exact Nat.zero_le _
  | _ => exact le_rfl

lemma QueueEffect.uses_le {o : QueueOp} {q q' : Plumbing} (h : QueueEffect q i t c o q' t')
    (g : ℕ) :
    t'.uses e m + (q'.queues g).uses e m ≤ t.uses e m + (q.queues g).uses e m := by
  have hset {u : Task} {gen : ℕ} {x : WriteQueue} (hu : u.uses e m ≤ t.uses e m)
      (hx : u.uses e m + x.uses e m ≤ t.uses e m + (q.queues gen).uses e m) :
      u.uses e m + ((q.set gen x).queues g).uses e m ≤ t.uses e m + (q.queues g).uses e m := by
    by_cases hg : g = gen
    · subst hg
      rwa [Plumbing.queues_set_self]
    · rw [Plumbing.queues_set_of_ne hg]
      exact Nat.add_le_add_right hu _
  cases h with
  | snapshot =>
    refine Nat.add_le_add_right ?_ _
    have hpacked : ∀ u : Task, u.ready = [] → u.subs = [] →
        u.outbox = some (q.writeTx, t.outgoing i) →
        u.uses e m = (t.ready ++ t.subs).countP (Sub.uses e m) := by
      intro u h1 h2 h3
      simp [Task.uses, h1, h2, h3, Outgoing.uses, Task.outgoing]
    rw [hpacked _ rfl rfl rfl]
    exact Nat.le_add_right ..
  | @enqueued remove gen f hout hopen =>
    have hold : t.uses e m = (t.ready ++ t.subs).countP (Sub.uses e m) + f.uses e m := by
      simp [Task.uses, hout]
    refine hset ?_ ?_
    · rw [hold]
      exact Nat.le_add_right ..
    · rw [hold]
      simp only [Task.uses, WriteQueue.uses, WriteQueue.push, List.map_append, List.sum_append,
        List.map_cons, List.map_nil, List.sum_cons, List.sum_nil, Option.map_none,
        Option.getD_none]
      omega
  | @began gen j rest hj =>
    refine hset le_rfl (Nat.add_le_add_left ?_ _)
    simp only [WriteQueue.uses, WriteQueue.beginWrite, hj, List.map_append, List.sum_append,
      List.map_cons, List.map_nil, List.sum_cons, List.sum_nil]
    omega
  | @refused gen j rest hj =>
    refine hset le_rfl (Nat.add_le_add_left ?_ _)
    simp only [WriteQueue.uses, WriteQueue.refuseWrite, WriteQueue.setAck, hj, List.map_cons,
      List.sum_cons]
    omega
  | finished | broke => exact hset le_rfl le_rfl
  | exited =>
    refine hset le_rfl (Nat.add_le_add_left ?_ _)
    simp [WriteQueue.uses, WriteQueue.shut]
  | enqueueFailed | sendFailed => exact Nat.add_le_add_right (Nat.zero_le _) _
  | committed => exact le_rfl

lemma Effect.uses_le (h : Effect s i t c op s' t' new) (hop : op ≠ .session .allocate) (g : ℕ) :
    t'.uses e m + (s'.plumbing.queues g).uses e m ≤
      t.uses e m + (s.plumbing.queues g).uses e m := by
  cases h with
  | credit h => exact Nat.add_le_add_right h.uses_le _
  | session h => exact Nat.add_le_add_right (h.uses_le fun ho => hop (by rw [ho])) _
  | waiter h => exact Nat.add_le_add_right h.uses_le _
  | queue h => exact h.uses_le g
  | control h =>
    cases h with
    | dialFailed => exact Nat.add_le_add_right (Nat.zero_le _) _
    | swapQueue =>
      refine Nat.add_le_add_left ?_ _
      by_cases hg : g = s.plumbing.writeTx + 1
      · subst hg
        simp [Plumbing.set, WriteQueue.uses, WriteQueue.new, WriteQueue.absent]
      · simp [Plumbing.set, hg]
    | _ => exact le_rfl

lemma Effect.handedOut_le (h : Effect s i t c op s' t' new) :
    s.session.handedOut e m ≤ s'.session.handedOut e m := by
  unfold SessionState.handedOut
  rcases h.nextMessageId_le with ⟨hepoch, hnext⟩ | hepoch
  · split
    · rw [if_pos (by omega)]
    · exact Nat.zero_le _
  · split
    · rw [if_pos (by omega)]
    · exact Nat.zero_le _

lemma uses_allocated {x : SessionState} {piece : Piece} {rest : List Piece} :
    (t.allocated x piece rest).uses e m + x.handedOut e m ≤
      t.uses e m + ({ x with nextMessageId := x.nextMessageId + piece.span } :
        SessionState).handedOut e m := by
  have hcharge := piece.charge_le
  have huses : (t.allocated x piece rest).uses e m =
      t.uses e m + if x.idEpoch = e ∧ x.nextMessageId ≤ m ∧ m < x.nextMessageId + piece.charge
        then 1 else 0 := by
    simp only [Task.uses, Task.allocated, Task.stamp, ← List.append_assoc, List.countP_append,
      List.countP_singleton, Sub.uses, decide_eq_true_eq]
    omega
  rw [huses]
  simp only [SessionState.handedOut]
  split_ifs <;> omega

end Operations

/-! ## Runs -/

/-- **Every step leaves a message id with one request at most.** -/
theorem distinct_of_step {w w' : World} {a : Action} (hw : Distinct w) (h : step w a = some w') :
    Distinct w' := by
  refine step_cases h (fun call _ e m g => ?_) (fun i c t op rest s' t' new _ ht hop heffect e m g =>
    ?_) (fun i t ops _ ht _ e m g => ?_)
  · have huses : (Call.task call w.shared.credits.live).uses e m = 0 := rfl
    simpa [huses] using hw e m g
  · have hsum := sum_map_set_append (f := Task.uses e m) (y := t') ht
      (heffect.forall_new fun gen pool u hu => by
        rcases List.mem_pair.1 hu with rfl | rfl <;> rfl)
    have hself : ({ t with prog := rest } : Task).uses e m = t.uses e m := rfl
    have hold := hw e m g
    dsimp only
    by_cases halloc : op = .session .allocate
    · subst halloc
      cases heffect with
      | session h =>
        cases h with
        | @allocated piece pieces hpending =>
          have hnew := @uses_allocated e m { t with prog := rest } w.shared.session piece pieces
          rw [hself] at hnew
          dsimp only
          omega
    · have huses := heffect.uses_le (e := e) (m := m) halloc g
      have hout := heffect.handedOut_le (e := e) (m := m)
      rw [hself] at huses
      omega
  · have hsum := sum_map_set_add (Task.uses e m) ht (t.lost ops)
    rw [uses_lost] at hsum
    have hold := hw e m g
    dsimp only
    omega

lemma distinct_init : Distinct init := by
  intro e m g
  have hqueue : (init.shared.plumbing.queues g).uses e m = 0 := by
    simp only [init]
    split <;> rfl
  rw [hqueue]
  exact Nat.zero_le _

lemma pairwise_disjoint_of_uses {e : ℕ} {l : List Sub} (hl : ∀ s ∈ l, s.epoch = e)
    (huses : ∀ m, l.countP (Sub.uses e m) ≤ 1) :
    l.Pairwise fun a b => Disjoint a.range b.range := by
  induction l with
  | nil => exact .nil
  | cons a l ih =>
    have hmem {s : Sub} (hs : s ∈ a :: l) {m : ℕ} (hm : m ∈ s.range) : Sub.uses e m s = true :=
      decide_eq_true ⟨hl s hs, hm⟩
    refine List.pairwise_cons.2 ⟨fun b hb => Set.disjoint_left.2 fun m ha hb' => ?_,
      ih (fun s hs => hl s (List.mem_cons_of_mem a hs)) fun m => ?_⟩
    · have hone := huses m
      rw [List.countP_cons_of_pos (hmem (List.mem_cons_self ..) ha)] at hone
      have hpos : 0 < l.countP (Sub.uses e m) :=
        List.countP_pos_iff.2 ⟨b, hb, hmem (List.mem_cons_of_mem a hb) hb'⟩
      omega
    · exact (List.sublist_cons_self a l).countP_le.trans (huses m)

/-- **The requests of a generation that a transport was handed occupy disjoint ranges.** -/
theorem pairwise_disjoint_wire {w : World} (hw : Distinct w) (g e : ℕ) :
    (((w.shared.plumbing.queues g).wire.flatMap Outgoing.subs).filter (·.epoch = e)).Pairwise
      fun a b => Disjoint a.range b.range := by
  refine pairwise_disjoint_of_uses (fun s hs => by simpa using (List.mem_filter.1 hs).2) fun m => ?_
  have hall := hw e m g
  have hout : w.shared.session.handedOut e m ≤ 1 := by
    unfold SessionState.handedOut
    split <;> omega
  have hwire : ((w.shared.plumbing.queues g).wire.flatMap Outgoing.subs).countP (Sub.uses e m) =
      ((w.shared.plumbing.queues g).wire.map (Outgoing.uses e m)).sum := by
    rw [List.countP_flatMap]
    rfl
  have hfilter := (List.filter_sublist (p := fun s : Sub => decide (s.epoch = e))
    (l := (w.shared.plumbing.queues g).wire.flatMap Outgoing.subs)).countP_le (p := Sub.uses e m)
  simp only [WriteQueue.uses] at hall
  omega

end Smb2.Connection
