import Smb2.Client.Connection.Revival

set_option autoImplicit false

/-!
# Dead or alive

A connection is dead when its `disconnected` flag is set, its waiters map is empty and its credit
pool is closed. `fan_error_to_waiters` brings this about in three accesses and `install_transport`
undoes it in six, and nothing keeps the two apart. This file has what holds in between, and when
the three signs agree once both are done.
-/

open List

namespace Smb2.Connection

open Transition

/-! ## Teardowns are carried through -/

inductive Stage
  | outside
  | drained
  | loaded
deriving DecidableEq

def Teardown.stage : Teardown → Stage
  | .none => .outside
  | .drained => .drained
  | .loaded _ => .loaded

def Stage.after : Stage → Op → Option Stage
  | .outside, .waiter .drain => some .drained
  | .outside, .credit .loadDoomed => none
  | .outside, .credit .closePool => none
  | .outside, _ => some .outside
  | .drained, .credit .loadDoomed => some .loaded
  | .loaded, .credit .closePool => some .outside
  | _, _ => none

def Complete (st : Stage) (ops : List Op) : Prop :=
  Transition.exec Stage.after st ops = some .outside

/-- **A task that carries its teardowns through.** -/
structure Task.Tidy (t : Task) : Prop where
  prog : Complete t.teardown.stage t.prog
  onError : Complete .outside t.onError

def Op.apart (op : Op) : Bool :=
  op ≠ .waiter .drain ∧ op ≠ .credit .loadDoomed ∧ op ≠ .credit .closePool

section Tidy

variable {t t' : Task} {op : Op} {rest ops : List Op}

lemma after_outside (hop : op.apart) : Stage.outside.after op = some .outside := by
  obtain ⟨h1, h2, h3⟩ := of_decide_eq_true hop
  unfold Stage.after
  split <;> simp_all

lemma complete_append (hops : Complete .outside ops) (hrest : Complete .outside rest) :
    Complete .outside (ops ++ rest) :=
  exec_trans hops hrest

lemma complete_cons (hop : op.apart) (hrest : Complete .outside rest) :
    Complete .outside (op :: rest) :=
  exec_cons_eq_some.2 ⟨.outside, after_outside hop, hrest⟩

lemma complete_of_apart (hops : ∀ o ∈ ops, o.apart) : Complete .outside ops :=
  exec_eq_self fun o ho => after_outside (hops o ho)

lemma Task.Tidy.apart (ht : t.Tidy) (hop : t.prog = op :: rest) (hapart : op.apart) :
    t.teardown = .none ∧ Complete .outside rest := by
  have hprog := ht.prog
  rw [Complete, hop, exec_cons_eq_some] at hprog
  obtain ⟨st, hst, hrest⟩ := hprog
  obtain ⟨h1, h2, h3⟩ := of_decide_eq_true hapart
  cases hteardown : t.teardown with
  | none =>
    rw [hteardown, Teardown.stage, after_outside hapart] at hst
    obtain rfl := Option.some.inj hst
    exact ⟨rfl, hrest⟩
  | drained | loaded =>
    rw [hteardown] at hst
    simp only [Teardown.stage] at hst
    unfold Stage.after at hst
    split at hst <;> simp_all

lemma complete_drained (h : Complete .drained ops) :
    ∃ rest, ops = .credit .loadDoomed :: rest ∧ Complete .loaded rest := by
  cases ops with
  | nil => cases h
  | cons op rest =>
    obtain ⟨st, hst, hrest⟩ := exec_cons_eq_some.1 h
    unfold Stage.after at hst
    split at hst <;> simp_all [Complete]

lemma complete_loaded (h : Complete .loaded ops) :
    ∃ rest, ops = .credit .closePool :: rest ∧ Complete .outside rest := by
  cases ops with
  | nil => cases h
  | cons op rest =>
    obtain ⟨st, hst, hrest⟩ := exec_cons_eq_some.1 h
    unfold Stage.after at hst
    split at hst <;> simp_all [Complete]

lemma Task.Tidy.stage (ht : t.Tidy) (hop : t.prog = op :: rest) (hapart : op.apart = false) :
    t.teardown = .none ∧ op = .waiter .drain ∧ Complete .drained rest ∨
      t.teardown = .drained ∧ op = .credit .loadDoomed ∧ Complete .loaded rest ∨
      (∃ k, t.teardown = .loaded k) ∧ op = .credit .closePool ∧ Complete .outside rest := by
  have hprog := ht.prog
  rw [hop] at hprog
  cases hteardown : t.teardown with
  | none =>
    rw [hteardown] at hprog
    obtain ⟨st, hst, hrest⟩ := exec_cons_eq_some.1 hprog
    have hdrain : op = .waiter .drain := by
      by_contra hne
      have hcases : op = .credit .loadDoomed ∨ op = .credit .closePool := by
        by_contra hnot
        simp_all [Op.apart]
      rcases hcases with rfl | rfl <;> cases hst
    subst hdrain
    obtain rfl := Option.some.inj hst
    exact .inl ⟨rfl, rfl, hrest⟩
  | drained =>
    rw [hteardown] at hprog
    obtain ⟨rest', heq, hrest⟩ := complete_drained hprog
    obtain ⟨rfl, rfl⟩ := cons.inj heq
    exact .inr (.inl ⟨rfl, rfl, hrest⟩)
  | loaded k =>
    rw [hteardown] at hprog
    obtain ⟨rest', heq, hrest⟩ := complete_loaded hprog
    obtain ⟨rfl, rfl⟩ := cons.inj heq
    exact .inr (.inr ⟨⟨k, rfl⟩, rfl, hrest⟩)

lemma tidy_of_none (hteardown : t.teardown = .none) (hprog : Complete .outside t.prog)
    (honError : Complete .outside t.onError) : t.Tidy :=
  ⟨by rw [hteardown]; exact hprog, honError⟩

lemma tidy_fail {pre : List Op} (hteardown : t.teardown = .none) (hpre : Complete .outside pre)
    (honError : Complete .outside t.onError) : (t.fail pre).Tidy := by
  refine tidy_of_none hteardown ?_ rfl
  rw [Task.fail]
  exact complete_append (complete_append hpre rfl) honError

lemma complete_handleFrame (gen : ℕ) (subs : List SubFrame) (malformed : Bool) :
    Complete .outside (handleFrame gen subs malformed) := by
  have hapart {ops : List Op} (h : ∀ o ∈ ops, o.handling) : Complete .outside ops :=
    complete_of_apart fun o ho =>
      Op.handling_cases (P := fun o => o.apart) (h o ho) rfl (fun _ _ => rfl) (fun _ _ => rfl)
        fun _ _ => rfl
  refine complete_append (hapart fun _ => handling_of_mem_prepareSubFrame) ?_
  split
  · rfl
  · exact complete_append (hapart fun _ => handling_of_mem_routeSubFrame) rfl

lemma complete_program (call : Call) : Complete .outside call.program := by
  cases call with
  | compound charges =>
    refine complete_of_apart fun o ho => ?_
    simp only [Call.program, executeCompound, startRequest, reserveCredits, sendAndCount] at ho
    split at ho
    · cases ho
    · simp only [mem_append, mem_cons, mem_replicate, not_mem_nil,
        or_false] at ho
      rcases ho with (((((rfl | rfl) | rfl | rfl | rfl) | rfl | ⟨-, rfl⟩) | rfl | ⟨-, rfl⟩) | rfl |
        rfl | rfl | rfl) | rfl | ⟨-, rfl⟩ <;> rfl
  | reconnect attempts => cases attempts <;> rfl
  | _ => rfl

variable {s s' : Shared} {i : ℕ} {c : Choice} {new : List Task}

lemma Effect.tidy_of_apart (h : Effect s i t c op s' t' new) (hop : op.apart) (ht : t.Tidy)
    (hnone : t.teardown = .none) : t'.Tidy := by
  have hprog : Complete .outside t.prog := by
    have := ht.prog
    rwa [hnone] at this
  have hkeep {u : Task} (hteardown : u.teardown = t.teardown) (hu : u.prog = t.prog)
      (herr : u.onError = t.onError) : u.Tidy :=
    tidy_of_none (hteardown.trans hnone) (hu ▸ hprog) (herr ▸ ht.onError)
  have hfail {pre : List Op} (hpre : Complete .outside pre) : (t.fail pre).Tidy :=
    tidy_fail hnone hpre ht.onError
  have hreplace {u : Task} (hteardown : u.teardown = t.teardown) (hu : Complete .outside u.prog)
      (herr : u.onError = t.onError) : u.Tidy :=
    tidy_of_none (hteardown.trans hnone) hu (herr ▸ ht.onError)
  cases h with
  | credit h =>
    cases h with
    | mustWait => exact hreplace rfl (complete_append rfl hprog) rfl
    | skipped => exact hreplace rfl rfl rfl
    | isClosed | starved | waitFailed => exact hfail rfl
    | doomed | closed => cases hop
    | _ => exact hkeep rfl rfl rfl
  | session h =>
    cases h with
    | signFailed | encryptFailed | rejected | setupFailed => exact hfail rfl
    | _ => exact hkeep rfl rfl rfl
  | waiter h =>
    cases h with
    | disconnected | registerFailed | answerFailed => exact hfail rfl
    | gaveUp unresponsive => exact hfail (by cases unresponsive <;> rfl)
    | droppedGuards => exact hreplace rfl (complete_cons rfl hprog) rfl
    | answered => exact hreplace rfl (complete_cons rfl hprog) rfl
    | wentOn unresponsive =>
      exact hreplace rfl
        (complete_append (by cases unresponsive <;> rfl) (complete_cons rfl hprog)) rfl
    | drained => cases hop
    | _ => exact hkeep rfl rfl rfl
  | queue h =>
    cases h with
    | @enqueueFailed remove | @sendFailed remove => exact hfail (by cases remove <;> rfl)
    | began | refused | finished | broke => exact hreplace rfl rfl rfl
    | _ => exact hkeep rfl rfl rfl
  | control h =>
    cases h with
    | received => exact hreplace rfl (complete_handleFrame ..) rfl
    | receiveFailed | notNeeded | otherRevival | notDead | coolingDown => exact hreplace rfl rfl rfl
    | attempt first left =>
      refine tidy_of_none hnone (by cases first <;> rfl) ?_
      simp only [attemptFailed]
      split <;> rfl
    | dialFailed => exact hfail rfl
    | revived | giveUp | abandon => exact tidy_of_none hnone hprog rfl
    | unlock => exact tidy_of_none hnone rfl rfl
    | _ => exact hkeep rfl rfl rfl

lemma Effect.tidy (h : Effect s i { t with prog := rest } c op s' t' new) (ht : t.Tidy)
    (hop : t.prog = op :: rest) : t'.Tidy := by
  cases hapart : op.apart with
  | true =>
    obtain ⟨hnone, hrest⟩ := ht.apart hop hapart
    exact h.tidy_of_apart hapart (tidy_of_none hnone hrest ht.onError) hnone
  | false =>
    rcases ht.stage hop hapart with ⟨hnone, rfl, hrest⟩ | ⟨hdrained, rfl, hrest⟩ |
      ⟨⟨k, hloaded⟩, rfl, hrest⟩
    · cases h with
      | waiter h =>
        cases h
        exact ⟨hrest, ht.onError⟩
    · cases h with
      | credit h =>
        cases h with
        | doomed => exact ⟨hrest, ht.onError⟩
        | notDoomed hne => exact absurd hdrained hne
    · cases h with
      | credit h =>
        cases h with
        | closed => exact ⟨hrest, ht.onError⟩
        | nothingToClose hne => exact absurd hloaded (hne k)

lemma Task.Tidy.teardown_of_parked (ht : t.Tidy) (hparked : t.parked) : t.teardown = .none := by
  unfold Task.parked at hparked
  split at hparked
  · rename_i op rest hop
    refine (ht.apart hop (decide_eq_true ?_)).1
    refine ⟨?_, ?_, ?_⟩ <;> rintro rfl <;> simp [Op.isAwait] at hparked
  · simp at hparked

lemma tidy_plumbingTasks (gen pool : ℕ) : ∀ u ∈ plumbingTasks gen pool, u.Tidy := by
  intro u hu
  rcases mem_pair.1 hu with rfl | rfl <;> exact ⟨rfl, rfl⟩

end Tidy

variable {w w' : World} {a : Action}

theorem tidy_of_step (hw : ∀ t ∈ w.tasks, t.Tidy) (h : step w a = some w') :
    ∀ t ∈ w'.tasks, t.Tidy := by
  have hself {i : ℕ} {t : Task} (ht : w.tasks[i]? = some t) : t.Tidy :=
    hw t (mem_of_getElem? ht)
  cases stepped_of_step h with
  | spawn call => exact forall_mem_concat hw ⟨complete_program call, rfl⟩
  | run ht hop heffect =>
    exact forall_mem_set_append (heffect.tidy (hself ht) hop) hw
      (heffect.forall_new tidy_plumbingTasks)
  | drop ht _ hparked =>
    refine forall_mem_set (tidy_of_none ((hself ht).teardown_of_parked hparked) ?_ rfl) hw
    rw [Task.dropped]
    split <;> rfl
  | expire ht _ hparked =>
    exact forall_mem_set (tidy_of_none ((hself ht).teardown_of_parked hparked) rfl rfl) hw
  | reap ht _ hparked =>
    have hnone := (hself ht).teardown_of_parked hparked
    refine forall_mem_set ?_ hw
    unfold Task.reaped
    split <;> exact tidy_of_none hnone rfl rfl

/-! ## A disconnected connection has no waiters -/

def Routing.Vacant (r : Routing) : Prop := r.disconnected = true → r.waiters = ∅

lemma WaiterEffect.vacant {r r' : Routing} {gen : ℕ} {t t' : Task} {o : WaiterOp}
    (h : WaiterEffect r gen t o r' t') (hr : r.Vacant) : r'.Vacant := by
  intro hdisc
  by_cases hdrain : o = .drain
  · subst hdrain
    cases h
    rfl
  · have hold : r.disconnected = true := by
      rwa [h.disconnected_eq, decide_eq_false hdrain, Bool.or_false] at hdisc
    have hempty := hr hold
    cases h with
    | registered _ hconn => simp [hold] at hconn
    | removed | droppedGuard | droppedGuards => rw [Routing.remove_of_empty hempty, hempty]
    | markedSent => rw [Routing.foldl_markSent_of_empty _ hempty, hempty]
    | fanned => rw [Routing.waiters_foldl_deliver, hempty]
    | notedPending => rw [Routing.notePending, Routing.modify_of_empty hempty, hempty]
    | routed => rw [Routing.route_of_empty hempty, hempty]
    | drained => rfl
    | _ => exact hempty

theorem vacant_of_step (hw : w.shared.routing.Vacant) (h : step w a = some w') :
    w'.shared.routing.Vacant := by
  refine step_cases (P := fun w' => w'.shared.routing.Vacant) h (fun _ _ => hw)
    (fun i c t op rest s' t' new _ _ _ heffect => ?_) (fun _ _ _ _ _ _ => hw)
  cases heffect with
  | waiter h => exact h.vacant hw
  | control h =>
    cases h with
    | clearDisconnected => exact fun hdisc => by simp at hdisc
    | _ => exact hw
  | _ => exact hw

/-! ## The credit pool -/

def Op.orderly (s : Shared) (t : Task) : Op → Bool
  | .credit .closePool => t.teardown = .loaded s.credits.live →
      s.routing.disconnected = true ∧ s.revival.mode.isSwapping = false
  | _ => true

/-- **A step that closes the live credit pool only while the connection is disconnected and no
transport is being installed.** -/
def World.orderly (w : World) : Action → Bool
  | .run i _ => ∀ t ∈ w.tasks[i]?, ∀ op ∈ t.prog.head?, op.orderly w.shared t
  | _ => true

def Task.Closing (live : ℕ) (t : Task) : Prop :=
  t.teardown = .drained ∨ t.teardown = .loaded live

/-- **The invariant**: a closed pool is that of a dead connection, and of a dead connection the pool
is closed, about to be closed or about to be replaced. -/
structure Consistent (w : World) : Prop where
  revivable : Revivable w
  tidy : ∀ t ∈ w.tasks, t.Tidy
  vacant : w.shared.routing.Vacant
  dead : w.shared.credits.isClosed = true →
    w.shared.routing.disconnected = true ∧ w.shared.revival.mode.isSwapping = false
  closing : w.shared.routing.disconnected = true → w.shared.credits.isClosed = true ∨
    w.shared.revival.mode.isSwapping = true ∨ ∃ t ∈ w.tasks, t.Closing w.shared.credits.live

section Pool

variable {w : World} {s' : Shared} {i : ℕ} {t t' : Task} {c : Choice} {op : Op} {rest : List Op}
  {new : List Task}

lemma CreditEffect.closed_eq {p p' : CreditPool} {idle : Bool} {o : CreditOp}
    (h : CreditEffect p idle t o p' t') (ho : o ≠ .closePool) : p'.isClosed = p.isClosed := by
  unfold CreditPool.isClosed
  cases h with
  | tryReserved h | reserved h =>
    rw [(CreditPool.live_tryReserve h).1, CreditPool.closed_tryReserve h]
  | refunded => exact CreditPool.closed_addPermits _
  | granted => exact CreditPool.closed_addPermits _
  | closed | nothingToClose => exact absurd rfl ho
  | _ => rfl

lemma CreditPool.isClosed_close {p : CreditPool} {k : ℕ} :
    (p.close k).isClosed = if p.live = k then true else p.isClosed :=
  CreditPool.closed_close _

lemma Effect.dead (h : Effect w.shared i { t with prog := rest } c op s' t' new)
    (hw : Consistent w) (ht : w.tasks[i]? = some t) (hop : t.prog = op :: rest)
    (hC : op.orderly w.shared t) (hclosed : s'.credits.isClosed = true) :
    s'.routing.disconnected = true ∧ s'.revival.mode.isSwapping = false := by
  have hmode {o : ControlOp} {k : ℕ} (hprog : t.prog = .control o :: rest)
      (ho : o.modes.1 = [.swapping k]) : w.shared.credits.isClosed = false := by
    have hswap := hw.revivable.mode_eq ht hprog ho (by simp)
    by_contra hne
    simpa [hswap, Mode.isSwapping] using (hw.dead (by simpa using hne)).2
  cases h with
  | @credit o _ _ h =>
    by_cases ho : o = .closePool
    · subst ho
      cases h with
      | @closed k hloaded =>
        simp only [CreditPool.isClosed_close] at hclosed
        split at hclosed
        · rename_i hk
          exact of_decide_eq_true hC (hk ▸ hloaded)
        · exact hw.dead hclosed
      | nothingToClose => exact hw.dead hclosed
    · exact hw.dead ((h.closed_eq ho).symm.trans hclosed)
  | session | queue => exact hw.dead hclosed
  | waiter h =>
    obtain ⟨hdisc, hswap⟩ := hw.dead hclosed
    refine ⟨by simp [h.disconnected_eq, hdisc], ?_⟩
    unfold Revival.afterWaiter
    split
    · rfl
    · exact hswap
  | control h =>
    cases h with
    | resetCredits => simp [CreditPool.isClosed, Semaphore.new] at hclosed
    | resetMessageId | wipeCrypto | swapQueue | spawnPlumbing | clearDisconnected =>
      rw [hmode hop rfl] at hclosed
      cases hclosed
    | locked | stillDead | revived | giveUp | abandon | unlock =>
      exact ⟨(hw.dead hclosed).1, rfl⟩
    | _ => exact hw.dead hclosed

lemma Effect.disconnected_of (h : Effect w.shared i t c op s' t' new)
    (hdisc : s'.routing.disconnected = true) :
    op = .waiter .drain ∨ w.shared.routing.disconnected = true ∧ op ≠ .control .clearDisconnected := by
  cases h with
  | @waiter o _ _ h =>
    have hor := h.disconnected_eq.symm.trans hdisc
    rw [Bool.or_eq_true, decide_eq_true_eq] at hor
    exact hor.symm.imp (fun ho => by rw [ho]) fun hd => ⟨hd, by simp⟩
  | control h =>
    cases h with
    | clearDisconnected => simp at hdisc
    | _ => exact .inr ⟨hdisc, by simp⟩
  | _ => exact .inr ⟨hdisc, by simp⟩

lemma Effect.closed_mono (h : Effect w.shared i t c op s' t' new)
    (hreset : op ≠ .control .resetCredits) : s'.credits.live = w.shared.credits.live ∧
      (w.shared.credits.isClosed = true → s'.credits.isClosed = true) := by
  cases h with
  | @credit o _ _ h =>
    refine ⟨h.live_eq, fun hclosed => ?_⟩
    by_cases ho : o = .closePool
    · subst ho
      cases h with
      | closed => simp [CreditPool.isClosed_close, hclosed]
      | nothingToClose => exact hclosed
    · exact (h.closed_eq ho).trans hclosed
  | control h =>
    cases h with
    | resetCredits => exact absurd rfl hreset
    | _ => exact ⟨rfl, id⟩
  | _ => exact ⟨rfl, id⟩

lemma Effect.swapping_mono (h : Effect w.shared i { t with prog := rest } c op s' t' new)
    (hw : Revivable w) (ht : w.tasks[i]? = some t) (hop : t.prog = op :: rest)
    (hclear : op ≠ .control .clearDisconnected)
    (hswap : w.shared.revival.mode.isSwapping = true) : s'.revival.mode.isSwapping = true := by
  have hne {m : Mode} (hm : m.isSwapping = false) : w.shared.revival.mode ≠ m := by
    rintro rfl
    simp [hswap] at hm
  have hmode {o : ControlOp} {m : Mode} (hprog : t.prog = .control o :: rest)
      (ho : o.modes.1 = [m]) (hfree : m ≠ .free) (hm : m.isSwapping = false) : False :=
    hne hm (hw.mode_eq ht hprog ho hfree)
  cases h with
  | waiter h =>
    unfold Revival.afterWaiter
    split
    · rename_i hhalf
      exact absurd hhalf.2.2 (hne rfl)
    · exact hswap
  | control h =>
    cases h with
    | locked hnone => exact absurd (hw.mode_free.2 hnone) (hne rfl)
    | stillDead => exact (hmode hop rfl (by simp) rfl).elim
    | revived => exact (hmode hop rfl (by simp) rfl).elim
    | giveUp => exact (hmode hop rfl (by simp) rfl).elim
    | unlock => exact (hmode hop rfl (by simp) rfl).elim
    | abandon =>
      have hmem := hw.mem_modes ht hop
      simp only [ControlOp.modes, mem_cons, not_mem_nil, or_false] at hmem
      rcases hmem with hm | hm
      · exact absurd (lock_of_modeOf hm (by simp)).2 (hne rfl)
      · exact absurd (lock_of_modeOf hm (by simp)).2 (hne rfl)
    | clearDisconnected => exact absurd rfl hclear
    | resetCredits | resetMessageId | wipeCrypto | swapQueue | spawnPlumbing => rfl
    | _ => exact hswap
  | _ => exact hswap

lemma Effect.closing_self (h : Effect w.shared i { t with prog := rest } c op s' t' new)
    (htidy : t.Tidy) (hop : t.prog = op :: rest) (hclosing : t.Closing w.shared.credits.live) :
    s'.credits.isClosed = true ∨ t'.Closing w.shared.credits.live := by
  rcases hclosing with hdrained | hloaded
  · have hprog := htidy.prog
    rw [hdrained, hop] at hprog
    obtain ⟨_, heq, -⟩ := complete_drained hprog
    obtain ⟨rfl, -⟩ := cons.inj heq
    cases h with
    | credit h =>
      cases h with
      | doomed => exact .inr (.inr rfl)
      | notDoomed hne => exact absurd hdrained hne
  · have hprog := htidy.prog
    rw [hloaded, hop] at hprog
    obtain ⟨_, heq, -⟩ := complete_loaded hprog
    obtain ⟨rfl, -⟩ := cons.inj heq
    cases h with
    | credit h =>
      cases h with
      | @closed k hk =>
        obtain rfl : w.shared.credits.live = k := by
          have hk : t.teardown = .loaded k := hk
          rw [hloaded] at hk
          exact Teardown.loaded.inj hk
        exact .inl (by simp [CreditPool.isClosed_close])
      | nothingToClose hne => exact absurd hloaded (hne _)

lemma Effect.closing (h : Effect w.shared i { t with prog := rest } c op s' t' new)
    (hw : Consistent w) (ht : w.tasks[i]? = some t) (hop : t.prog = op :: rest)
    (hdisc : s'.routing.disconnected = true) :
    s'.credits.isClosed = true ∨ s'.revival.mode.isSwapping = true ∨
      ∃ u ∈ w.tasks.set i t' ++ new, u.Closing s'.credits.live := by
  have hself : t' ∈ w.tasks.set i t' ++ new :=
    mem_of_getElem? (getElem?_set_append_self ht)
  rcases h.disconnected_of hdisc with rfl | ⟨hold, hclear⟩
  · cases h with
    | waiter h =>
      cases h
      exact .inr (.inr ⟨_, hself, .inl rfl⟩)
  by_cases hreset : op = .control .resetCredits
  · subst hreset
    cases h with
    | control h =>
      cases h
      exact .inr (.inl rfl)
  obtain ⟨hlive, hmono⟩ := h.closed_mono hreset
  rw [hlive]
  rcases hw.closing hold with hclosed | hswap | ⟨u, hu, hclosing⟩
  · exact .inl (hmono hclosed)
  · exact .inr (.inl (h.swapping_mono hw.revivable ht hop hclear hswap))
  · obtain ⟨j, hj⟩ := mem_iff_getElem?.1 hu
    by_cases hij : j = i
    · subst hij
      obtain rfl := Option.some.inj (ht.symm.trans hj)
      rcases h.closing_self (hw.tidy t hu) hop hclosing with hclosed | hclosing'
      · exact .inl hclosed
      · exact .inr (.inr ⟨t', hself, hclosing'⟩)
    · exact .inr (.inr ⟨u, mem_of_getElem? (getElem?_set_append_of_ne hj hij), hclosing⟩)

end Pool

/-! ## Runs -/

/-- **Every orderly step keeps the three signs in agreement.** -/
theorem consistent_of_step (hw : Consistent w) (hC : w.orderly a) (h : step w a = some w') :
    Consistent w' := by
  refine ⟨revivable_of_step hw.revivable h, tidy_of_step hw.tidy h, vacant_of_step hw.vacant h,
    ?_, ?_⟩
  · refine step_cases (P := fun w' => w'.shared.credits.isClosed = true →
      w'.shared.routing.disconnected = true ∧ w'.shared.revival.mode.isSwapping = false) h
      (fun _ _ => hw.dead) (fun i c t op rest s' t' new ha ht hop heffect => ?_)
      (fun _ _ _ _ _ _ => hw.dead)
    subst ha
    exact heffect.dead hw ht hop (of_decide_eq_true hC t ht op (by simp [hop]))
  · refine step_cases (P := fun w' => w'.shared.routing.disconnected = true →
      w'.shared.credits.isClosed = true ∨ w'.shared.revival.mode.isSwapping = true ∨
        ∃ t ∈ w'.tasks, t.Closing w'.shared.credits.live) h
      (fun call _ hdisc => ?_) (fun i c t op rest s' t' new _ ht hop heffect => ?_)
      (fun i t ops _ ht hparked hdisc => ?_)
    · refine (hw.closing hdisc).imp_right (Or.imp_right ?_)
      rintro ⟨u, hu, hclosing⟩
      exact ⟨u, mem_append_left _ hu, hclosing⟩
    · exact heffect.closing hw ht hop
    · refine (hw.closing hdisc).imp_right (Or.imp_right ?_)
      rintro ⟨u, hu, hclosing⟩
      -- a task with a teardown to carry on is not parked, so it is another one
      obtain ⟨j, hj⟩ := mem_iff_getElem?.1 hu
      have hij : j ≠ i := by
        rintro rfl
        obtain rfl := Option.some.inj (ht.symm.trans hj)
        have hnone := (hw.tidy t hu).teardown_of_parked hparked
        rcases hclosing with h | h <;> simp [hnone] at h
      refine ⟨u, mem_of_getElem? (i := j) ?_, hclosing⟩
      rw [getElem?_set_ne (Ne.symm hij), hj]

lemma consistent_init : Consistent init :=
  ⟨revivable_init, tidy_plumbingTasks 0 0, fun h => by simp [init] at h,
    fun h => by simp [init, CreditPool.isClosed, CreditPool.new, Semaphore.new] at h,
    fun h => by simp [init] at h⟩

def Task.fanning (t : Task) : Bool :=
  match t.prog with
  | .credit .loadDoomed :: _ | .credit .closePool :: _ | .waiter .fanSend :: _ => true
  | _ => false

/-- **Neither `fan_error_to_waiters` nor `install_transport` is in progress.** -/
def Quiescent (w : World) : Prop :=
  (∀ t ∈ w.tasks, t.fanning = false) ∧ w.shared.revival.mode.isSwapping = false

instance (w : World) : Decidable (Quiescent w) := inferInstanceAs (Decidable (_ ∧ _))

lemma Task.Tidy.fanning_of_closing {t : Task} {live : ℕ} (ht : t.Tidy) (h : t.Closing live) :
    t.fanning = true := by
  have hprog := ht.prog
  unfold Task.fanning
  rcases h with hdrained | hloaded
  · rw [hdrained] at hprog
    obtain ⟨rest, hrest, -⟩ := complete_drained hprog
    rw [hrest]
  · rw [hloaded] at hprog
    obtain ⟨rest, hrest, -⟩ := complete_loaded hprog
    rw [hrest]

/-- **The signs of a dead connection agree.** In every run whose steps close the live credit pool
only while the connection is disconnected and no transport is being installed, a connection with
no teardown and no `install_transport` in progress is disconnected if and only if its credit pool is
closed, and if it is disconnected it has no waiters. -/
theorem quiescent_consistent {run : List Action} {w : World}
    (hrun : Transition.exec step init run = some w)
    (hcond : Along step (fun w a _ => w.orderly a) init run) (hquiet : Quiescent w) :
    (w.shared.routing.disconnected = true ↔ w.shared.credits.isClosed = true) ∧
      (w.shared.routing.disconnected = true → w.shared.routing.waiters = ∅) := by
  have hw : Consistent w := by
    refine exec_invariant (fun w a w' hw hC h => ?_) consistent_init hrun hcond
    exact consistent_of_step hw hC h
  refine ⟨⟨fun hdisc => ?_, fun hclosed => (hw.dead hclosed).1⟩, hw.vacant⟩
  rcases hw.closing hdisc with hclosed | hswap | ⟨t, ht, hclosing⟩
  · exact hclosed
  · rw [hquiet.2] at hswap
    cases hswap
  · have hfanning := (hw.tidy t ht).fanning_of_closing hclosing
    rw [hquiet.1 t ht] at hfanning
    cases hfanning

def deadConnection : List Action :=
  .spawn (.execute 1) :: turns 2 12 ++ turns 0 2 ++ turns 2 2 ++ .run 1 .fail :: turns 1 4

set_option maxRecDepth 4000 in
theorem quiescent_consistent_deadConnection :
    ∃ w, Transition.exec step init deadConnection = some w ∧ Quiescent w ∧
      w.shared.routing.disconnected = true ∧
      ((w.shared.routing.disconnected = true ↔ w.shared.credits.isClosed = true) ∧
        (w.shared.routing.disconnected = true → w.shared.routing.waiters = ∅)) :=
  ⟨_, rfl, by decide, rfl, quiescent_consistent
    (show Transition.exec step init deadConnection = some _ from rfl) (by decide) (by decide)⟩

/-- The receiver of a transport that fails has drained the waiters when the connection is revived;
then it goes on. -/
def lateTeardown : List Action :=
  .run 1 .fail :: turns 1 1 ++ .spawn (.reconnect 1) :: turns 2 18 ++ turns 1 3

/-- **The pool of the new transport is closed, and the connection looks alive.** -/
theorem lateTeardown_inconsistent :
    ∃ w, Transition.exec step init lateTeardown = some w ∧ Quiescent w ∧
      w.shared.routing.disconnected = false ∧ w.shared.credits.isClosed = true :=
  ⟨_, rfl, by decide, rfl, rfl⟩

end Smb2.Connection
