import Smb2.Client.Connection.Consistency

set_option autoImplicit false

/-!
# Retired tasks

`spawn_plumbing` aborts the writer and the receiver of the transport that it replaces, but an
aborted task runs on until its next await, and all tasks of a connection share one state. This file
says which of the steps of such a task leave the connection of its successors alone: exactly
those that grant no credits into the new pool, find nobody waiting for what they route, and find
the connection already dead when they tear it down.
-/

open List Option

namespace Smb2.Connection

open Transition

/-! ## What writers and receivers do -/

def Op.background : Op → Bool
  | .credit .current | .credit (.grant _ _) | .credit .loadDoomed | .credit .closePool => true
  | .waiter .drain | .waiter .fanSend | .waiter (.notePending _ _) | .waiter (.route _ _) => true
  | .queue (.recvJob _) | .queue (.finishSend _) | .queue (.exitWriter _) => true
  | .control (.receive _) => true
  | _ => false

/-- **A writer or receiver** has only operations of this kind left, and fails at none. -/
def Task.Background (t : Task) : Prop :=
  t.role ≠ .caller → ∀ o ∈ t.prog, o.background

section Background

variable {s s' : Shared} {i : ℕ} {t t' : Task} {c : Choice} {op : Op} {new : List Task}

lemma Effect.role_eq (h : Effect s i t c op s' t' new) : t'.role = t.role := by
  cases h with
  | credit h => cases h <;> rfl
  | session h => cases h <;> rfl
  | waiter h => cases h <;> rfl
  | queue h => cases h <;> rfl
  | control h => cases h <;> rfl

lemma background_handleFrame {gen : ℕ} {subs : List SubFrame} {malformed : Bool} :
    ∀ o ∈ handleFrame gen subs malformed, o.background := by
  intro o ho
  rcases mem_handleFrame ho with h | h | rfl
  · exact Op.handling_cases (P := fun o => o.background) h rfl (fun _ _ => rfl) (fun _ _ => rfl)
      fun _ _ => rfl
  · have hfan : ∀ o ∈ fanErrorToWaiters, o.background := by decide
    exact hfan o h
  · rfl

lemma Effect.background (h : Effect s i t c op s' t' new) (hop : op.background)
    (ht : ∀ o ∈ t.prog, o.background) : ∀ o ∈ t'.prog, o.background := by
  cases h with
  | credit h =>
    cases h with
    | current | granted | doomed | notDoomed | closed | nothingToClose => exact ht
    | _ => cases hop
  | session h => cases h <;> cases hop
  | waiter h =>
    cases h with
    | drained | fanned | notedPending | routed => exact ht
    | _ => cases hop
  | queue h =>
    cases h with
    | began | refused | finished => simp [writerLoop, Op.background]
    | broke => simp [fanErrorToWaiters, Op.background]
    | exited => exact ht
    | _ => cases hop
  | control h =>
    cases h with
    | received => exact background_handleFrame
    | receiveFailed => simp [fanErrorToWaiters, Op.background]
    | _ => cases hop

lemma Effect.lock_cases (h : Effect s i t c op s' t' new) :
    s'.revival.lock = s.revival.lock ∨ s'.revival.lock = none ∨
      s'.revival.lock = some i ∧ op = .control .lockRevive := by
  cases h with
  | waiter =>
    unfold Revival.afterWaiter
    split <;> exact .inl rfl
  | control h =>
    cases h with
    | locked => exact .inr (.inr ⟨rfl, rfl⟩)
    | revived | giveUp | abandon | unlock => exact .inr (.inl rfl)
    | _ => exact .inl rfl
  | _ => exact .inl rfl

end Background

/-- **The invariant**: writers and receivers keep to their operations, and revivals are run by
callers. -/
structure Staffed (w : World) : Prop where
  background : ∀ t ∈ w.tasks, t.Background
  reviver : ∀ i t, w.shared.revival.lock = some i → w.tasks[i]? = some t → t.role = .caller

section Staffed

variable {w w' : World} {s' : Shared} {i : ℕ} {t t' : Task} {c : Choice} {op : Op}
  {rest : List Op} {new : List Task}

lemma Effect.reviver (h : Effect w.shared i { t with prog := rest } c op s' t' new)
    (hw : Staffed w) (hrevivable : Revivable w) (ht : w.tasks[i]? = some t)
    (hop : t.prog = op :: rest) {j : ℕ} {u : Task} (hlock : s'.revival.lock = some j)
    (hu : (w.tasks.set i t' ++ new)[j]? = some u) : u.role = .caller := by
  have hself (hcaller : t.role = .caller) (hj : j = i) : u.role = .caller := by
    subst hj
    rw [getElem?_set_append_self ht] at hu
    obtain rfl := some.inj hu
    rw [h.role_eq]
    exact hcaller
  rcases h.lock_cases with hsame | hnone | ⟨hself', rfl⟩
  · have hold : w.shared.revival.lock = some j := hsame ▸ hlock
    by_cases hj : j = i
    · subst hj
      exact hself (hw.reviver _ t hold ht) rfl
    · have hlt := hrevivable.lock_lt j hold
      have hget : w.tasks[j]? = some w.tasks[j] := getElem?_eq_getElem hlt
      rw [getElem?_set_append_of_ne hget hj] at hu
      obtain rfl := some.inj hu
      exact hw.reviver j _ hold hget
  · rw [hnone] at hlock
    cases hlock
  · -- taking the lock is not an operation of writers and receivers
    refine hself ?_ (some.inj (hlock.symm.trans hself'))
    by_contra hrole
    have hback := hw.background t (mem_of_getElem? ht) hrole (.control .lockRevive)
      (hop ▸ mem_cons_self ..)
    cases hback

lemma Staffed.of_set (hw : Staffed w) (ht : w.tasks[i]? = some t) (hback : t'.Background)
    (hrole : t'.role = t.role) : Staffed { w with tasks := w.tasks.set i t' } where
  background := forall_mem_set hback hw.background
  reviver j u hlock hu := by
    by_cases hj : j = i
    · subst hj
      have hlt : j < w.tasks.length := (List.getElem?_eq_some_iff.1 ht).1
      rw [getElem?_set_self hlt] at hu
      obtain rfl := some.inj hu
      rw [hrole]
      exact hw.reviver j t hlock ht
    · rw [getElem?_set_ne (Ne.symm hj)] at hu
      exact hw.reviver j u hlock hu

/-- **Writers and receivers execute no other operations.** -/
theorem staffed_of_step {a : Action} (hw : Staffed w) (hrevivable : Revivable w)
    (h : step w a = some w') : Staffed w' := by
  cases stepped_of_step h with
  | spawn call =>
    refine ⟨forall_mem_concat hw.background fun hrole => absurd rfl hrole, fun j u hlock hu => ?_⟩
    rw [getElem?_append_left (hrevivable.lock_lt j hlock)] at hu
    exact hw.reviver j u hlock hu
  | run ht hop heffect =>
    refine ⟨forall_mem_set_append (fun hrole => ?_) hw.background
      (heffect.forall_new fun gen pool u hu => ?_),
      fun j u hlock hu => heffect.reviver hw hrevivable ht hop hlock hu⟩
    · rw [heffect.role_eq] at hrole
      have hself := hw.background _ (mem_of_getElem? ht) hrole
      rw [hop] at hself
      exact heffect.background (hself _ (mem_cons_self ..))
        fun o ho => hself o (mem_cons_of_mem _ ho)
    · rcases mem_pair.1 hu with rfl | rfl <;>
        simp [Task.Background, writerLoop, receiverLoop, Op.background]
  | drop ht hrole => exact hw.of_set ht (fun hne => absurd hrole hne) rfl
  | expire ht hlock => exact hw.of_set ht (fun hne => absurd (hw.reviver _ _ hlock ht) hne) rfl
  | @reap i t ht =>
    have hreaped : t.reaped.Background ∧ t.reaped.role = t.role := by
      unfold Task.reaped
      split <;> exact ⟨fun _ => by simp [Op.background], rfl⟩
    exact hw.of_set ht hreaped.1 hreaped.2

lemma staffed_init : Staffed init where
  background u hu := by
    rcases mem_pair.1 hu with rfl | rfl <;>
      simp [Task.Background, writerLoop, receiverLoop, Op.background]
  reviver := by simp [init]

end Staffed

/-! ## What their operations change -/

def SameFace (s s' : Shared) : Prop :=
  s'.credits.live = s.credits.live ∧
    s'.credits.semaphores s.credits.live = s.credits.semaphores s.credits.live ∧
    s'.routing.waiters = s.routing.waiters ∧ s'.routing.disconnected = s.routing.disconnected

/-- **What an operation must find in order to change nothing**: a grant is for another pool, a
response is for nobody, a teardown is of a connection that is dead already and closes a pool that
is not the live one or is closed already. -/
def Op.benign (s : Shared) (t : Task) : Op → Bool
  | .credit (.grant _ credits) => credits = 0 ∨ t.pool ≠ s.credits.live
  | .credit .closePool => t.teardown = .loaded s.credits.live → s.credits.isClosed = true
  | .waiter .drain => s.routing.disconnected
  | .waiter (.notePending id _) | .waiter (.route id _) => s.routing.waiters.lookup id = none
  | _ => true

section Faces

variable {s s' : Shared} {i : ℕ} {t t' : Task} {c : Choice} {op : Op} {new : List Task}

lemma sameFace_iff_waiters (hcredits : s'.credits = s.credits)
    (hdisc : s'.routing.disconnected = s.routing.disconnected) :
    SameFace s s' ↔ s'.routing.waiters = s.routing.waiters := by
  simp [SameFace, hcredits, hdisc]

lemma sameFace_iff_semaphore (hlive : s'.credits.live = s.credits.live)
    (hrouting : s'.routing = s.routing) :
    SameFace s s' ↔
      s'.credits.semaphores s.credits.live = s.credits.semaphores s.credits.live := by
  simp [SameFace, hlive, hrouting]

lemma sameFace_of_eq (hcredits : s'.credits = s.credits) (hrouting : s'.routing = s.routing) :
    SameFace s s' := by
  simp [SameFace, hcredits, hrouting]

lemma Effect.sameFace_iff (h : Effect s i t c op s' t' new) (hop : op.background)
    (hvacant : s.routing.Vacant) : SameFace s s' ↔ op.benign s t := by
  have hsame (hcredits : s'.credits = s.credits) (hrouting : s'.routing = s.routing)
      (hbenign : op.benign s t = true) : SameFace s s' ↔ op.benign s t :=
    iff_of_true (sameFace_of_eq hcredits hrouting) hbenign
  cases h with
  | credit h =>
    cases h with
    | current | doomed | notDoomed => exact hsame rfl rfl rfl
    | granted =>
      refine Iff.trans (sameFace_iff_semaphore rfl rfl) ?_
      simp only [CreditPool.semaphores_bank, CreditPool.semaphores_addPermits_eq_iff, Op.benign,
        decide_eq_true_eq]
    | @closed k hk =>
      refine Iff.trans (sameFace_iff_semaphore rfl rfl) ?_
      simp only [CreditPool.semaphores_close_eq_iff, Op.benign, decide_eq_true_eq, hk,
        Teardown.loaded.injEq, CreditPool.isClosed]
    | nothingToClose hne =>
      exact hsame rfl rfl (decide_eq_true fun hloaded => absurd hloaded (hne _))
    | _ => cases hop
  | session h => cases h <;> cases hop
  | waiter h =>
    cases h with
    | drained =>
      constructor
      · rintro ⟨-, -, -, hdisc⟩
        exact hdisc.symm
      · intro hdisc
        exact ⟨rfl, rfl, (hvacant hdisc).symm, Eq.symm hdisc⟩
    | fanned =>
      refine Iff.trans (sameFace_iff_waiters rfl (Routing.disconnected_foldl_deliver ..)) ?_
      exact iff_of_true (Routing.waiters_foldl_deliver ..) rfl
    | notedPending =>
      refine Iff.trans (sameFace_iff_waiters rfl Routing.disconnected_notePending) ?_
      simp only [Routing.waiters_notePending_eq_iff, Op.benign, decide_eq_true_eq]
    | routed =>
      refine Iff.trans (sameFace_iff_waiters rfl Routing.disconnected_route) ?_
      simp only [Routing.waiters_route_eq_iff, Op.benign, decide_eq_true_eq]
    | _ => cases hop
  | @queue o _ _ h =>
    have hbenign : (Op.queue o).benign s t = true := rfl
    exact hsame rfl rfl hbenign
  | control h =>
    cases h with
    | received | receiveFailed => exact hsame rfl rfl rfl
    | _ => cases hop

end Faces

/-! ## Runs -/

/-- **A step of a retired task leaves the connection of its successors alone.** -/
def Inert (w : World) (a : Action) (w' : World) : Prop :=
  ∀ i c t, a = .run i c → w.tasks[i]? = some t → t.aborted w.shared = true →
    SameFace w.shared w'.shared

def World.benign (w : World) : Action → Bool
  | .run i _ => ∀ t ∈ w.tasks[i]?, t.aborted w.shared = true →
      ∀ op ∈ t.prog.head?, op.benign w.shared t
  | _ => true

lemma inert_iff_benign {w w' : World} {a : Action} (hw : Staffed w)
    (hvacant : w.shared.routing.Vacant) (h : step w a = some w') :
    Inert w a w' ↔ w.benign a := by
  cases stepped_of_step h with
  | @run i c t op rest s' t' new ht hop heffect =>
    have hiff (haborted : t.aborted w.shared = true) :
        SameFace w.shared s' ↔ op.benign w.shared t := by
      have hrole : t.role ≠ .caller := by
        intro hcaller
        simp [Task.aborted, hcaller] at haborted
      have hback := hw.background t (mem_of_getElem? ht) hrole op
        (hop ▸ mem_cons_self ..)
      exact heffect.sameFace_iff hback hvacant
    have hbenign : w.benign (.run i c) ↔ (t.aborted w.shared = true → op.benign w.shared t) := by
      simp only [World.benign, ht, hop, mem_def, some.injEq, forall_eq',
        head?_cons, decide_eq_true_eq]
    rw [hbenign]
    constructor
    · intro hinert haborted
      exact (hiff haborted).1 (hinert i c t rfl ht haborted)
    · rintro hben j c' u heq hu haborted
      obtain ⟨rfl, rfl⟩ := Action.run.inj heq
      obtain rfl := some.inj (ht.symm.trans hu)
      exact (hiff haborted).2 (hben haborted)
  | _ => exact iff_of_true (fun _ _ _ heq => by cases heq) rfl

/-- **When retired tasks are inert.** Along a run nothing that the writer or the receiver of a replaced
transport does changes the live credits, the waiters or the `disconnected` flag if and only if, at
each of their steps, a grant goes to a semaphore that is not live, nobody waits for the response
that is routed, a teardown finds the connection disconnected, and the pool it closes is not the live
one or is closed. -/
theorem retired_inert_iff {run : List Action} :
    Along step Inert init run ↔ Along step (fun w a _ => w.benign a) init run := by
  refine along_iff_along (I := fun w => Revivable w ∧ Staffed w ∧ w.shared.routing.Vacant)
    (fun w a w' hw h => ?_) (fun w a w' hw h => ?_)
    ⟨revivable_init, staffed_init, fun h => by simp [init] at h⟩
  · exact ⟨revivable_of_step hw.1 h, staffed_of_step hw.2.1 hw.1 h, vacant_of_step hw.2.2 h⟩
  · exact inert_iff_benign hw.2.1 hw.2.2 h

lemma not_along_inert {run : List Action} {w w' : World} {i : ℕ} {c : Choice} {t : Task}
    (hrun : Transition.exec step init run = some w) (hstep : step w (.run i c) = some w')
    (ht : w.tasks[i]? = some t) (haborted : t.aborted w.shared = true)
    (hface : ¬ SameFace w.shared w'.shared) : ¬ Along step Inert init (run ++ [.run i c]) :=
  fun h => hface (h.at_step hrun hstep i c t rfl ht haborted)

def lateCredits : List Action :=
  .spawn .markDead :: turns 2 4 ++ .spawn (.reconnect 1) :: turns 3 18 ++
    .run 1 (.frame [⟨7, 5, .route true⟩] false) :: turns 1 1

def lateResponse : List Action :=
  revivedConnection ++ [.run 1 (.frame [⟨0, 0, .route true⟩] false)]

def lateFailure : List Action :=
  .spawn .markDead :: turns 2 4 ++ .spawn (.reconnect 1) :: turns 3 18 ++ [.run 1 .fail]

/-- **Retired tasks grant credits to the new pool, take responses to new requests and disconnect
the new connection.** -/
theorem retired_not_inert :
    ¬ Along step Inert init (lateCredits ++ [.run 1 .go]) ∧
      ¬ Along step Inert init (lateResponse ++ [.run 1 .go]) ∧
      ¬ Along step Inert init (lateFailure ++ [.run 1 .go]) := by
  refine ⟨not_along_inert rfl rfl rfl rfl fun h => ?_, not_along_inert rfl rfl rfl rfl fun h => ?_,
    not_along_inert rfl rfl rfl rfl fun h => ?_⟩
  · exact absurd h.2.1 (by decide)
  · exact absurd (congrArg (AList.lookup 0) h.2.2.1) (by decide)
  · exact absurd h.2.2.2 (by decide)

end Smb2.Connection
