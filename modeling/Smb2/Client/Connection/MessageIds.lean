import Smb2.Client.Connection.Budget
import Smb2.Client.Connection.Ids

set_option autoImplicit false

/-!
# Message ids and credits

A request takes as many message ids as it pays credits, so that the ids handed out and the credits
on hand together never exceed what the server has granted. A reservation that is dropped after its
ids were taken gives the credits back and leaves the ids taken. This file shows that the two
counters advance together as long as that happens on dead connections only, and that in any case
no two requests of a generation share a message id.
-/

namespace Smb2.Connection

open Transition

/-! ## Credits on which ids can be taken -/

/-- The credits of pool `g` in a reservation on which no message id has been taken yet. -/
def Reservation.unspent (g : ℕ) (r : Reservation) : ℕ :=
  if r.pool = g then r.charge - r.taken else 0

def unspentOf (g : ℕ) (r : Option Reservation) : ℕ := (r.map (Reservation.unspent g)).getD 0

/-- **The credits of pool `g` that a task holds and has taken no message id on.** -/
def Task.spare (g : ℕ) (t : Task) : ℕ := unspentOf g t.credit + unspentOf g t.refunding

def Shared.dead (s : Shared) : Bool := s.routing.disconnected && !s.revival.mode.isSwapping

def Shared.issued (s : Shared) : ℕ :=
  if s.session.idEpoch = s.credits.live then s.session.nextMessageId else 0

def Op.level (s : Shared) (t : Task) : Op → Bool
  /- The charges of a compound fit the `u16` that they are summed up in. -/
  | .credit (.tryReserve _) | .credit .reserve => (t.pending.map Piece.span).sum ≤ u16Max
  /- What goes back into the live pool was taken from it, and no id was taken on it. -/
  | .credit .refund => t.pool = s.credits.live →
      s.dead ∨ ∀ r ∈ t.refunding, r.pool = s.credits.live ∧ r.taken = 0
  /- What is granted to the live pool came over its own transport. -/
  | .credit (.grant gen _) => t.pool = s.credits.live → s.dead ∨ gen = s.credits.live
  /- Ids of the live generation are taken on credits of the live pool. -/
  | .session .allocate => s.session.idEpoch = s.credits.live →
      s.dead ∨ ∀ r ∈ t.credit, r.pool = s.credits.live
  | _ => true

/-- **A step that keeps ids and credits together.** -/
def World.level (w : World) : Action → Bool
  | .run i _ => ∀ t ∈ w.tasks[i]?, ∀ op ∈ t.prog.head?, op.level w.shared t
  | _ => true

def Task.Drawn (n : ℕ) (t : Task) : Prop :=
  t.pool ≤ n ∧ (∀ r, t.credit = some r → r.pool ≤ n) ∧ ∀ r, t.refunding = some r → r.pool ≤ n

section Accounts

variable {s s' : Shared} {i g n : ℕ} {t t' : Task} {c : Choice} {op : Op} {new : List Task}

lemma spare_lost (ops : List Op) : (t.lost ops).spare g ≤ t.spare g := by
  have hlost : (t.lost ops).spare g = unspentOf g t.credit := Nat.zero_add _
  rw [hlost]
  exact Nat.le_add_right ..

lemma SameAccount.spare_eq (h : SameAccount t t') : t'.spare g = t.spare g := by
  rw [Task.spare, Task.spare, h.credit, h.refunding]

lemma SameAccount.drawn (h : SameAccount t t') (ht : t.Drawn n) : t'.Drawn n := by
  simpa only [Task.Drawn, h.pool, h.credit, h.refunding] using ht

lemma drawn_lost (ht : t.Drawn n) (ops : List Op) : (t.lost ops).Drawn n :=
  ⟨ht.1, by simp [Task.lost, Task.fail], ht.2.1⟩

lemma Task.Drawn.mono {m : ℕ} (ht : t.Drawn n) (h : n ≤ m) : t.Drawn m :=
  ⟨ht.1.trans h, fun r hr => (ht.2.1 r hr).trans h, fun r hr => (ht.2.2 r hr).trans h⟩

lemma Task.Drawn.spare_eq_zero (ht : t.Drawn n) (hg : n < g) : t.spare g = 0 := by
  have hnone {r : Option Reservation} (hr : ∀ x, r = some x → x.pool ≤ n) :
      unspentOf g r = 0 := by
    cases r with
    | none => rfl
    | some x =>
      have := hr x rfl
      simp [unspentOf, Reservation.unspent, show x.pool ≠ g by omega]
  rw [Task.spare, hnone ht.2.1, hnone ht.2.2]

lemma drawn_plumbingTasks {gen pool : ℕ} (h : pool ≤ n) :
    ∀ u ∈ plumbingTasks gen pool, u.Drawn n := by
  intro u hu
  rcases List.mem_pair.1 hu with rfl | rfl <;> exact ⟨h, by simp, by simp⟩

lemma spare_plumbingTasks (gen pool : ℕ) : ∀ u ∈ plumbingTasks gen pool, u.spare g = 0 := by
  intro u hu
  rcases List.mem_pair.1 hu with rfl | rfl <;> rfl

lemma CreditEffect.level {o : CreditOp} {p p' : CreditPool} {idle : Bool}
    (h : CreditEffect p idle t o p' t')
    (hrefund : o = .refund → t.pool = p.live → ∀ r ∈ t.refunding, r.pool = p.live ∧ r.taken = 0)
    (hgrant : ∀ gen credits, o = .grant gen credits → t.pool = p.live → gen = p.live) :
    (p'.semaphores p.live).permits + t'.spare p.live + p.banked p.live ≤
      (p.semaphores p.live).permits + t.spare p.live + p'.banked p.live := by
  have hfail {pre : List Op} : (t.fail pre).spare p.live ≤ t.spare p.live := spare_lost _
  cases h with
  | tryReserved hres | reserved hres =>
    have hperm := CreditPool.permits_tryReserve hres p.live
    have hspare : t.reserved.spare p.live =
        (if p.live = t.pool then t.totalCharge else 0) + unspentOf p.live t.refunding := by
      simp [Task.reserved, Task.spare, unspentOf, Reservation.unspent, eq_comm]
    rw [(CreditPool.live_tryReserve hres).2, hspare, Task.spare]
    omega
  | isClosed | starved | waitFailed => exact Nat.add_le_add_right (Nat.add_le_add_left hfail _) _
  | @refunded r hr =>
    rw [CreditPool.permits_addPermits, CreditPool.banked_addPermits]
    have hspare : t.spare p.live = unspentOf p.live t.credit + r.unspent p.live := by
      simp [Task.spare, hr, unspentOf]
    have hspare' : ({ t with refunding := none } : Task).spare p.live = unspentOf p.live t.credit :=
      rfl
    rw [hspare, hspare']
    split
    · rename_i hpool
      obtain ⟨hlive, htaken⟩ := hrefund rfl hpool.symm r hr
      simp only [Reservation.unspent, hlive, htaken, if_true]
      omega
    · omega
  | @granted gen credits =>
    rw [CreditPool.semaphores_bank, CreditPool.permits_addPermits, CreditPool.banked_bank,
      CreditPool.banked_addPermits]
    split
    · rename_i hpool
      rw [if_pos (hgrant gen credits rfl hpool.symm).symm]
      omega
    · omega
  | closed =>
    rw [CreditPool.permits_close]
    exact le_rfl
  | _ => exact le_rfl

lemma SessionEffect.level {o : SessionOp} {x' : SessionState}
    (h : SessionEffect s.session t o x' t') (hcovered : t.Covered)
    (hpool : o = .allocate → s.session.idEpoch = s.credits.live →
      ∃ r, t.credit = some r ∧ r.pool = s.credits.live) :
    ({ s with session := x' } : Shared).issued + t'.spare s.credits.live ≤
      s.issued + t.spare s.credits.live := by
  have hfail {pre : List Op} : (t.fail pre).spare s.credits.live ≤ t.spare s.credits.live :=
    spare_lost _
  cases h with
  | start => exact Nat.add_le_add_left (Nat.add_le_add_right (Nat.zero_le _) _) _
  | @allocated piece rest hpending =>
    by_cases hepoch : s.session.idEpoch = s.credits.live
    · obtain ⟨r, hr, hlive⟩ := hpool rfl hepoch
      have hcov := hcovered r hr
      rw [hpending, List.map_cons, List.sum_cons] at hcov
      have hspare : t.spare s.credits.live =
          (r.charge - r.taken) + unspentOf s.credits.live t.refunding := by
        simp [Task.spare, hr, unspentOf, Reservation.unspent, hlive]
      have hspare' : (t.allocated s.session piece rest).spare s.credits.live =
          (r.charge - (r.taken + piece.span)) + unspentOf s.credits.live t.refunding := by
        simp [Task.spare, Task.allocated, Task.stamp, hr, unspentOf, Reservation.unspent, hlive]
      rw [hspare, hspare']
      simp only [Shared.issued, hepoch, if_true]
      omega
    · have hspare : (t.allocated s.session piece rest).spare s.credits.live ≤
          t.spare s.credits.live := by
        refine Nat.add_le_add_right ?_ _
        cases hr : t.credit with
        | none => simp [Task.allocated, hr]
        | some r =>
          simp only [Task.allocated, hr, Option.map_some, unspentOf, Option.getD_some,
            Reservation.unspent]
          split
          · omega
          · exact le_rfl
      simpa [Shared.issued, hepoch] using hspare
  | signFailed | rejected | setupFailed => exact Nat.add_le_add_left hfail _
  | encryptFailed => exact Nat.add_le_add_left hfail _
  | _ => exact le_rfl

lemma QueueEffect.spare_le {o : QueueOp} {q q' : Plumbing} (h : QueueEffect q i t c o q' t') :
    t'.spare g ≤ t.spare g := by
  cases h with
  | committed => exact Nat.add_le_add_right (Nat.zero_le _) _
  | enqueueFailed | sendFailed => exact spare_lost _
  | _ => exact le_rfl

lemma Effect.level (h : Effect s i t c op s' t' new) (hop : op.level s t) (hdead : s.dead = false)
    (hreset : op ≠ .control .resetCredits) (hcovered : t.Covered)
    (hcredit : op = .session .allocate → ∃ r, t.credit = some r) :
    s'.issued + (s'.credits.semaphores s.credits.live).permits + t'.spare s.credits.live +
        s.credits.banked s.credits.live ≤
      s.issued + (s.credits.semaphores s.credits.live).permits + t.spare s.credits.live +
        s'.credits.banked s.credits.live := by
  cases h with
  | @credit o k' _ h =>
    have hissued : ({ s with credits := k' } : Shared).issued = s.issued := by
      simp only [Shared.issued, h.live_eq]
    have hbooks := h.level
      (by
        rintro rfl hpool
        simpa [hdead] using of_decide_eq_true hop hpool)
      (by
        rintro gen credits rfl hpool
        simpa [hdead] using of_decide_eq_true hop hpool)
    rw [hissued]
    dsimp only at hbooks ⊢
    omega
  | @session o x' _ h =>
    have hbooks := h.level hcovered (by
      rintro rfl hepoch
      obtain ⟨r, hr⟩ := hcredit rfl
      have hpool : ∀ r ∈ t.credit, r.pool = s.credits.live := by
        simpa [hdead] using of_decide_eq_true hop hepoch
      exact ⟨r, hr, hpool r hr⟩)
    dsimp only at hbooks ⊢
    omega
  | waiter h =>
    have hspare : t'.spare s.credits.live ≤ t.spare s.credits.live := by
      rcases h.account with hsame | ⟨pre, rfl⟩
      · exact hsame.spare_eq.le
      · exact spare_lost _
    have hissued : ∀ r v, ({ s with routing := r, revival := v } : Shared).issued = s.issued :=
      fun _ _ => rfl
    rw [hissued]
    dsimp only
    omega
  | @queue o q' _ h =>
    have hspare := h.spare_le (g := s.credits.live)
    have hissued : ({ s with plumbing := q' } : Shared).issued = s.issued := rfl
    rw [hissued]
    dsimp only
    omega
  | control h =>
    have hspare : t'.spare s.credits.live ≤ t.spare s.credits.live := by
      rcases h.account with hsame | ⟨⟨pre, rfl⟩, -⟩
      · exact hsame.spare_eq.le
      · exact spare_lost _
    have hrest : s'.credits = s.credits ∧ s'.issued ≤ s.issued := by
      cases h with
      | resetCredits => exact absurd rfl hreset
      | resetMessageId =>
        refine ⟨rfl, ?_⟩
        simp only [Shared.issued]
        split <;> exact Nat.zero_le _
      | _ => exact ⟨rfl, le_rfl⟩
    rw [hrest.1]
    have := hrest.2
    omega

lemma Effect.covered (h : Effect s i t c op s' t' new) (hop : op.level s t) (ht : t.Covered) :
    t'.Covered := by
  have hnone {u : Task} (hu : u.credit = none) : u.Covered := fun r hr => by simp [hu] at hr
  have hsame {u : Task} (hcredit : u.credit = t.credit) (hpending : u.pending = t.pending) :
      u.Covered := by
    simpa only [Task.Covered, hcredit, hpending] using ht
  cases h with
  | credit h =>
    cases h with
    | tryReserved | reserved =>
      intro r hr
      obtain rfl := Option.some.inj hr
      simp [Task.reserved, Task.totalCharge, saturatingSum_of_le (of_decide_eq_true hop)]
    | isClosed | starved | waitFailed => exact hnone rfl
    | _ => exact hsame rfl rfl
  | session h =>
    cases h with
    | start | signFailed | encryptFailed | rejected | setupFailed => exact hnone rfl
    | allocated hpending => exact ht.allocated hpending
    | _ => exact hsame rfl rfl
  | waiter h =>
    rcases h.account with hacc | ⟨pre, rfl⟩
    · exact hacc.covered ht
    · exact hnone rfl
  | queue h =>
    cases h with
    | committed | enqueueFailed | sendFailed => exact hnone rfl
    | _ => exact hsame rfl rfl
  | control h =>
    rcases h.account with hacc | ⟨⟨pre, rfl⟩, -⟩
    · exact hacc.covered ht
    · exact hnone rfl

lemma Effect.live_le (h : Effect s i t c op s' t' new) : s.credits.live ≤ s'.credits.live := by
  cases h with
  | credit h => exact h.live_eq.ge
  | control h =>
    cases h with
    | resetCredits => exact Nat.le_succ _
    | _ => exact le_rfl
  | _ => exact le_rfl

lemma Effect.drawn (h : Effect s i t c op s' t' new) (ht : t.Drawn s.credits.live) :
    t'.Drawn s'.credits.live := by
  refine Task.Drawn.mono ?_ h.live_le
  cases h with
  | credit h =>
    cases h with
    | current => exact ⟨le_rfl, ht.2⟩
    | tryReserved | reserved =>
      refine ⟨ht.1, fun r hr => ?_, ht.2.2⟩
      obtain rfl := Option.some.inj hr
      exact ht.1
    | isClosed | starved | waitFailed => exact drawn_lost ht _
    | refunded => exact ⟨ht.1, ht.2.1, by simp⟩
    | _ => exact ht
  | session h =>
    cases h with
    | start => exact ⟨ht.1, by simp, ht.2.2⟩
    | allocated =>
      refine ⟨ht.1, fun r hr => ?_, ht.2.2⟩
      obtain ⟨r', hr', rfl⟩ := Option.map_eq_some_iff.1 hr
      exact ht.2.1 r' hr'
    | signFailed | encryptFailed | rejected | setupFailed => exact drawn_lost ht _
    | _ => exact ht
  | waiter h =>
    rcases h.account with hsame | ⟨pre, rfl⟩
    · exact hsame.drawn ht
    · exact drawn_lost ht _
  | queue h =>
    cases h with
    | committed => exact ⟨ht.1, by simp, ht.2.2⟩
    | enqueueFailed | sendFailed => exact drawn_lost ht _
    | _ => exact ht
  | control h =>
    rcases h.account with hsame | ⟨⟨pre, rfl⟩, -⟩
    · exact hsame.drawn ht
    · exact drawn_lost ht _

end Accounts

/-! ## Ids and credits advance together -/

/-- **The invariant**: on a connection that is not dead, the ids handed out, the credits on hand and
those that tasks can still take ids on never exceed what the pool was given. -/
structure Leveled (w : World) : Prop where
  regular : Regular w
  covered : ∀ t ∈ w.tasks, t.Covered
  drawn : ∀ t ∈ w.tasks, t.Drawn w.shared.credits.live
  balance : w.shared.dead = false →
    w.shared.issued + w.shared.credits.available +
        (w.tasks.map (Task.spare w.shared.credits.live)).sum ≤
      1 + w.shared.credits.banked w.shared.credits.live

section Leveled

variable {w w' : World} {s' : Shared} {i : ℕ} {t t' : Task} {c : Choice} {op : Op}
  {rest : List Op} {new : List Task}

lemma Effect.dead_mono (h : Effect w.shared i { t with prog := rest } c op s' t' new)
    (hw : Revivable w) (ht : w.tasks[i]? = some t) (hop : t.prog = op :: rest)
    (hreset : op ≠ .control .resetCredits) (hdead : w.shared.dead = true) : s'.dead = true := by
  obtain ⟨hdisc, hswap⟩ : w.shared.routing.disconnected = true ∧
      w.shared.revival.mode.isSwapping = false := by
    simpa [Shared.dead] using hdead
  have hmode {o : ControlOp} {k : ℕ} (hprog : t.prog = .control o :: rest)
      (ho : o.modes.1 = [.swapping k]) : False := by
    rw [hw.mode_eq ht hprog ho (by simp)] at hswap
    cases hswap
  cases h with
  | waiter h =>
    simp only [Shared.dead, h.disconnected_eq, hdisc, Bool.true_or, Bool.true_and,
      Bool.not_eq_true']
    unfold Revival.afterWaiter
    split
    · rfl
    · exact hswap
  | control h =>
    cases h with
    | resetCredits => exact absurd rfl hreset
    | resetMessageId | wipeCrypto | swapQueue | spawnPlumbing | clearDisconnected =>
      exact (hmode hop rfl).elim
    | locked | stillDead | revived | giveUp | abandon | unlock =>
      simp [Shared.dead, hdisc, Mode.isSwapping, Revival.release]
    | _ => exact hdead
  | _ => exact hdead

lemma Leveled.balance_reset (hw : Leveled w) (ht : w.tasks[i]? = some t)
    (hop : t.prog = .control .resetCredits :: rest) {v : Revival} :
    ({ w.shared with credits := w.shared.credits.reset, revival := v } : Shared).issued +
        w.shared.credits.reset.available +
        ((w.tasks.set i { t with prog := rest }).map
          (Task.spare w.shared.credits.reset.live)).sum ≤
      1 + w.shared.credits.reset.banked w.shared.credits.reset.live := by
  have hepoch : w.shared.session.idEpoch ≠ w.shared.credits.live + 1 := by
    have hmode := hw.regular.revivable.mode_eq ht hop rfl (by simp)
    have h1 := hw.regular.revivable.idEpoch
    have h2 := hw.regular.revivable.live
    simp only [hmode, Mode.ahead] at h1 h2
    omega
  have hspare : ∀ u ∈ w.tasks.set i { t with prog := rest },
      u.spare (w.shared.credits.live + 1) = 0 :=
    forall_mem_set ((hw.drawn t (List.mem_of_getElem? ht)).spare_eq_zero (Nat.lt_succ_self _))
      fun u hu => (hw.drawn u hu).spare_eq_zero (Nat.lt_succ_self _)
  have hsum : ((w.tasks.set i { t with prog := rest }).map
      (Task.spare (w.shared.credits.live + 1))).sum = 0 :=
    List.sum_eq_zero fun n hn => by
      obtain ⟨u, hu, rfl⟩ := List.mem_map.1 hn
      exact hspare u hu
  simp only [Shared.issued, CreditPool.available, CreditPool.live_reset,
    CreditPool.semaphores_reset_self, hsum, hepoch, if_false, Semaphore.new]
  omega

lemma Effect.balance (h : Effect w.shared i { t with prog := rest } c op s' t' new)
    (hw : Leveled w) (ht : w.tasks[i]? = some t) (hop : t.prog = op :: rest)
    (hC : op.level w.shared { t with prog := rest }) (hdead : s'.dead = false) :
    s'.issued + s'.credits.available +
        ((w.tasks.set i t' ++ new).map (Task.spare s'.credits.live)).sum ≤
      1 + s'.credits.banked s'.credits.live := by
  have hmem := List.mem_of_getElem? ht
  by_cases hreset : op = .control .resetCredits
  · subst hreset
    cases h with
    | control h =>
      cases h
      rw [List.append_nil]
      exact hw.balance_reset ht hop
  · have hlive : s'.credits.live = w.shared.credits.live := by
      cases h with
      | credit h => exact h.live_eq
      | control h =>
        cases h with
        | resetCredits => exact absurd rfl hreset
        | _ => rfl
      | _ => rfl
    have halive : w.shared.dead = false := by
      by_contra hnot
      have := h.dead_mono hw.regular.revivable ht hop hreset (by simpa using hnot)
      simp [hdead] at this
    have hcredit : op = .session .allocate → ∃ r, t.credit = some r := by
      rintro rfl
      obtain ⟨p, p', hat, hafter⟩ := (hw.regular.protocol t hmem).at_of_prog hop
      obtain ⟨rfl, -⟩ : p = .reserved ∧ .reserved = p' := by simpa [Phase.after] using hafter
      obtain ⟨-, -, r, hr, -⟩ := hat
      exact ⟨r, hr⟩
    have hbooks := h.level hC halive hreset (hw.covered t hmem) hcredit
    have hsum := sum_map_set_append (f := Task.spare w.shared.credits.live) (y := t') ht
      (h.forall_new spare_plumbingTasks)
    have hbal := hw.balance halive
    have hself : ({ t with prog := rest } : Task).spare w.shared.credits.live =
        t.spare w.shared.credits.live := rfl
    rw [hself] at hbooks
    simp only [CreditPool.available, hlive] at hbal ⊢
    omega

/-- **Every such step keeps ids and credits together.** -/
theorem leveled_of_step {a : Action} (hw : Leveled w) (hC : w.level a) (h : step w a = some w') :
    Leveled w' := by
  have hregular := regular_of_step hw.regular h
  suffices hrest : (∀ t ∈ w'.tasks, t.Covered) ∧ (∀ t ∈ w'.tasks, t.Drawn w'.shared.credits.live) ∧
      (w'.shared.dead = false → w'.shared.issued + w'.shared.credits.available +
        (w'.tasks.map (Task.spare w'.shared.credits.live)).sum ≤
          1 + w'.shared.credits.banked w'.shared.credits.live) from
    ⟨hregular, hrest.1, hrest.2.1, hrest.2.2⟩
  refine step_cases (P := fun w' => (∀ t ∈ w'.tasks, t.Covered) ∧
      (∀ t ∈ w'.tasks, t.Drawn w'.shared.credits.live) ∧
      (w'.shared.dead = false → w'.shared.issued + w'.shared.credits.available +
        (w'.tasks.map (Task.spare w'.shared.credits.live)).sum ≤
          1 + w'.shared.credits.banked w'.shared.credits.live)) h
    (fun call _ => ⟨forall_mem_concat hw.covered fun r hr => by simp [Call.task] at hr,
      forall_mem_concat hw.drawn ⟨le_rfl, by simp [Call.task], by simp [Call.task]⟩,
      fun hdead => ?_⟩)
    (fun i c t op rest s' t' new ha ht hop heffect => ?_)
    (fun i t ops _ ht _ => ⟨forall_mem_set (covered_lost ops) hw.covered,
      forall_mem_set (drawn_lost (hw.drawn t (List.mem_of_getElem? ht)) ops) hw.drawn, fun hdead => ?_⟩)
  · have hspare : (Call.task call w.shared.credits.live).spare w.shared.credits.live = 0 := rfl
    simpa [hspare] using hw.balance hdead
  · subst ha
    have hcond : op.level w.shared { t with prog := rest } := by
      have hcond : op.level w.shared t := of_decide_eq_true hC t ht op (by simp [hop])
      exact hcond
    have hmem := List.mem_of_getElem? ht
    refine ⟨forall_mem_set_append (heffect.covered hcond (hw.covered t hmem)) hw.covered
      (heffect.forall_new covered_plumbingTasks), ?_, heffect.balance hw ht hop hcond⟩
    refine forall_mem_set_append (heffect.drawn (hw.drawn t hmem))
      (fun u hu => (hw.drawn u hu).mono heffect.live_le) ?_
    cases heffect with
    | control h =>
      cases h with
      | spawnPlumbing => exact drawn_plumbingTasks le_rfl
      | _ => simp
    | _ => simp
  · have hsum := sum_map_set_add (Task.spare w.shared.credits.live) ht (t.lost ops)
    have hlost := spare_lost (t := t) (g := w.shared.credits.live) ops
    have hbal := hw.balance hdead
    dsimp only
    omega

lemma leveled_init : Leveled init :=
  ⟨regular_init, covered_plumbingTasks 0 0, drawn_plumbingTasks le_rfl, fun _ => by decide⟩

end Leveled

/-- **Message ids stay inside the window of the server.** In every run in which credits on which
message ids were taken go back into the live pool only on a dead connection, in which refunds,
grants and ids stay in their generation, and in which the charges of a compound fit `u16`: as long
as the connection is alive, the ids handed out and the credits on hand never exceed one and what
the server has granted, and the requests of a generation that a transport was handed occupy
disjoint ranges of ids. -/
theorem messageIds_in_window {run : List Action} {w : World}
    (hrun : Transition.exec step init run = some w)
    (hcond : Along step (fun w a _ => w.level a) init run) :
    (w.shared.routing.disconnected = false →
        w.shared.session.nextMessageId + w.shared.credits.available ≤
          1 + w.shared.credits.banked w.shared.credits.live) ∧
      ∀ g e, (((w.shared.plumbing.queues g).wire.flatMap Outgoing.subs).filter
        (·.epoch = e)).Pairwise fun a b => Disjoint a.range b.range := by
  constructor
  · intro hdisc
    have hw : Leveled w := by
      refine exec_invariant (fun w a w' hw hC h => ?_) leveled_init hrun hcond
      exact leveled_of_step hw hC h
    have hbal := hw.balance (by simp [Shared.dead, hdisc])
    -- no transport is being installed, so that ids and credits are of one generation
    have hahead : ∀ k, w.shared.revival.mode.ahead k = 0 := by
      intro k
      cases hmode : w.shared.revival.mode with
      | swapping n =>
        have := hw.regular.revivable.disconnected (.inr ⟨n, hmode⟩)
        simp [hdisc] at this
      | _ => rfl
    have hepoch : w.shared.session.idEpoch = w.shared.credits.live := by
      rw [hw.regular.revivable.idEpoch, hw.regular.revivable.live, hahead, hahead]
    rw [Shared.issued, if_pos hepoch] at hbal
    omega
  · intro g e
    have hw : Distinct w :=
      exec_invariant_of_step (fun _ _ _ hw h => distinct_of_step hw h) distinct_init hrun
    exact pairwise_disjoint_wire hw g e

set_option maxRecDepth 4000 in
theorem messageIds_in_window_answeredRequest :
    ∃ w, Transition.exec step init answeredRequest = some w ∧
      ((w.shared.routing.disconnected = false →
        w.shared.session.nextMessageId + w.shared.credits.available ≤
          1 + w.shared.credits.banked w.shared.credits.live) ∧
      ∀ g e, (((w.shared.plumbing.queues g).wire.flatMap Outgoing.subs).filter
        (·.epoch = e)).Pairwise fun a b => Disjoint a.range b.range) :=
  ⟨_, rfl, messageIds_in_window
    (show Transition.exec step init answeredRequest = some _ from rfl) (by decide)⟩

/-- The transport refuses the frame of a request as too large; the request gives its credit
back. -/
def refusedRequest : List Action :=
  .spawn (.execute 1) :: turns 2 12 ++ .run 0 .refuse :: turns 2 6

/-- **The id of a refused request is gone and its credit is not**, on a connection that is alive. -/
theorem refusedRequest_overruns :
    ∃ w, Transition.exec step init refusedRequest = some w ∧
      w.shared.routing.disconnected = false ∧ w.shared.credits.live = 0 ∧
      1 + w.shared.credits.banked 0 <
        w.shared.session.nextMessageId + w.shared.credits.available :=
  ⟨_, rfl, rfl, rfl, by decide⟩

end Smb2.Connection
