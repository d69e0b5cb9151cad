import Smb2.Client.Connection.Queues
import Smb2.Client.Connection.Requests

set_option autoImplicit false

/-!
# The protocol of a revival

At most one task at a time revives a connection. It takes the revival lock, makes sure that the
connection is dead, tears it down, swaps every part of the session for a fresh one and clears
`disconnected`; from then on the new session is half built until reauthentication succeeds, or
until the task tears the connection down again. This file states this order as a protocol of the
lock holder's modes, shows that every task of every run keeps to it, and reads off what that says
about the shared state: while the lock holder is dead or swapping the connection is marked
disconnected, and between revivals the credits, the ids, the crypto state and the writer queue
are of one generation.
-/

open List

namespace Smb2.Connection

open Transition

/-! ## How operations change what is left to do -/

def Op.plain : Op → Bool
  | .control _ => false
  | .waiter (.awaitResponse _ lenient) => !lenient
  | _ => true

def Op.quiet (op : Op) : Bool := op.plain && op ≠ .waiter .drain

/-- **How an operation `op` changes what a task has left to do**: not at all; it puts quiet
operations in front (any plain ones, if it is a wait that goes on after an error); it replaces
everything by plain operations; or it fails. -/
inductive Continues (op : Op) (t t' : Task) : Prop
  | keep (hprog : t'.prog = t.prog) (herr : t'.onError = t.onError)
  | push (ops : List Op) (hquiet : ∀ o ∈ ops, o.quiet) (hprog : t'.prog = ops ++ t.prog)
    (herr : t'.onError = t.onError)
  | lenient (ops : List Op) (hop : op.plain = false) (hplain : ∀ o ∈ ops, o.plain)
    (hprog : t'.prog = ops ++ t.prog) (herr : t'.onError = t.onError)
  | replace (ops : List Op) (hplain : ∀ o ∈ ops, o.plain) (hprog : t'.prog = ops)
    (herr : t'.onError = t.onError)
  | fail (pre : List Op) (hplain : ∀ o ∈ pre, o.plain) (hfail : t' = t.fail pre)

section Continues

variable {t t' : Task} {c : Choice}

lemma plain_unwind : ∀ o ∈ unwind, o.quiet := by decide

lemma plain_sendFailed (remove : Bool) : ∀ o ∈ sendFailed remove, o.plain := by
  cases remove <;> decide

lemma plain_responseFailed (unresponsive : Bool) : ∀ o ∈ responseFailed unresponsive, o.plain := by
  cases unresponsive <;> decide

lemma continues_fail {op : Op} : Continues op t (t.fail []) :=
  .fail [] (fun _ h => absurd h not_mem_nil) rfl

lemma CreditEffect.continues {o : CreditOp} {k k' : CreditPool} {idle : Bool}
    (h : CreditEffect k idle t o k' t') : Continues (.credit o) t t' := by
  cases h with
  | mustWait => exact .push waitForCredits (by decide) rfl rfl
  | skipped => exact .replace [] (by decide) rfl rfl
  | isClosed | starved | waitFailed => exact continues_fail
  | _ => exact .keep rfl rfl

lemma SessionEffect.continues {o : SessionOp} {s s' : SessionState}
    (h : SessionEffect s t o s' t') : Continues (.session o) t t' := by
  cases h with
  | signFailed | encryptFailed | rejected | setupFailed => exact continues_fail
  | _ => exact .keep rfl rfl

lemma WaiterEffect.continues {o : WaiterOp} {r r' : Routing} {gen : ℕ}
    (h : WaiterEffect r gen t o r' t') : Continues (.waiter o) t t' := by
  cases h with
  | disconnected | registerFailed | answerFailed => exact continues_fail
  | droppedGuards => exact .push [.waiter .dropGuards] (by decide) rfl rfl
  | answered => exact .push [.waiter .dropGuard] (by decide) rfl rfl
  | gaveUp unresponsive => exact .fail _ (plain_responseFailed unresponsive) rfl
  | wentOn unresponsive =>
    exact .lenient (responseFailed unresponsive ++ [.waiter .dropGuard]) rfl
      (by cases unresponsive <;> decide) (by simp) rfl
  | _ => exact .keep rfl rfl

lemma QueueEffect.continues {o : QueueOp} {q q' : Plumbing} {i : ℕ}
    (h : QueueEffect q i t c o q' t') : Continues (.queue o) t t' := by
  cases h with
  | enqueueFailed | sendFailed => exact .fail _ (plain_sendFailed _) rfl
  | began | refused | finished | broke =>
    exact .replace _ (by simp [writerLoop, fanErrorToWaiters, Op.plain]) rfl rfl
  | _ => exact .keep rfl rfl

end Continues

/-! ## The protocol -/

/-- The modes in which the lock holder, or a task without the lock, executes a control operation,
and the mode that follows. -/
def ControlOp.modes : ControlOp → List Mode × Mode
  | .receive _ | .checkNeeded | .loadRevivals => ([.free], .free)
  | .lockRevive => ([.free], .locked)
  | .checkRevived => ([.locked], .locked)
  | .checkStillDead => ([.locked], .dead)
  | .unlock => ([.locked], .free)
  | .cooldown | .attempt _ _ | .backoff | .dial => ([.dead], .dead)
  | .resetCredits => ([.dead], .swapping 1)
  | .resetMessageId => ([.swapping 1], .swapping 2)
  | .wipeCrypto => ([.swapping 2], .swapping 3)
  | .swapQueue => ([.swapping 3], .swapping 4)
  | .spawnPlumbing => ([.swapping 4], .swapping 5)
  | .clearDisconnected => ([.swapping 5], .halfBuilt)
  | .revived => ([.halfBuilt], .free)
  | .giveUp => ([.dead], .free)
  | .abandon => ([.dead, .halfBuilt], .free)

/-- The other operations that each mode allows: the lock holder sends requests only while the
session is half built, and a teardown of its own ends that. -/
def Mode.afterOther : Mode → Op → Option Mode
  | .free, _ => some .free
  | .dead, op => if op.plain then some .dead else none
  | .halfBuilt, op =>
    if op = .waiter .drain then some .dead else if op.plain then some .halfBuilt else none
  | _, _ => none

/-- **What the holder of the revival lock may do in each mode**, and the mode that follows. A task
without the lock is in mode `free`. -/
def Mode.after (m : Mode) : Op → Option Mode
  | .control o => if m ∈ o.modes.1 then some o.modes.2 else none
  | op => m.afterOther op

def Revival.modeOf (v : Revival) (i : ℕ) : Mode := if v.lock = some i then v.mode else .free

def Mode.Calm (m : Mode) : Prop := m = .free ∨ m = .dead ∨ m = .halfBuilt

/-- What a task in mode `m` may do after an error: the lock holder must be able to go on whether
the error came before the new transport was in place or after. -/
def Mode.Errs (m : Mode) (onError : List Op) : Prop :=
  (m = .free → onError = []) ∧
    (m ≠ .free → Follows Mode.after .dead onError ∧ Follows Mode.after .halfBuilt onError)

section Modes

variable {m m' : Mode} {op : Op} {ops : List Op}

lemma after_of_ne_control (hop : ∀ o, op ≠ .control o) : m.after op = m.afterOther op := by
  cases op with
  | control o => exact absurd rfl (hop o)
  | _ => rfl

lemma ne_control_of_plain (hop : op.plain) (o : ControlOp) : op ≠ .control o := by
  rintro rfl
  simp [Op.plain] at hop

lemma after_quiet (hm : m.Calm) (hop : op.quiet) : m.after op = some m := by
  simp only [Op.quiet, Bool.and_eq_true, decide_eq_true_eq] at hop
  obtain ⟨hplain, hdrain⟩ := hop
  rw [after_of_ne_control (ne_control_of_plain hplain)]
  rcases hm with rfl | rfl | rfl <;> simp [Mode.afterOther, hplain, hdrain]

lemma after_plain (hm : m.Calm) (hop : op.plain) :
    m.after op = some m ∨ m = .halfBuilt ∧ m.after op = some .dead := by
  by_cases hdrain : op = .waiter .drain
  · subst hdrain
    rcases hm with rfl | rfl | rfl
    · exact .inl rfl
    · exact .inl rfl
    · exact .inr ⟨rfl, rfl⟩
  · exact .inl (after_quiet hm (by simp [Op.quiet, hop, hdrain]))

lemma calm_of_after (hop : ∀ o, op ≠ .control o) (h : m.after op = some m') :
    m.Calm ∧ (m' = m ∨ m = .halfBuilt ∧ m' = .dead) ∧ (op.plain = false → m = .free ∧ m' = .free) := by
  rw [after_of_ne_control hop] at h
  cases m with
  | free =>
    obtain rfl : Mode.free = m' := by simpa [Mode.afterOther] using h
    exact ⟨.inl rfl, .inl rfl, fun _ => ⟨rfl, rfl⟩⟩
  | dead =>
    obtain ⟨hplain, rfl⟩ : op.plain = true ∧ Mode.dead = m' := by
      simpa [Mode.afterOther] using h
    exact ⟨.inr (.inl rfl), .inl rfl, fun hnot => by simp [hplain] at hnot⟩
  | halfBuilt =>
    simp only [Mode.afterOther] at h
    split at h
    · rename_i hdrain
      subst hdrain
      obtain rfl : Mode.dead = m' := by simpa using h
      exact ⟨.inr (.inr rfl), .inr ⟨rfl, rfl⟩, fun hnot => by simp [Op.plain] at hnot⟩
    · obtain ⟨hplain, rfl⟩ : op.plain = true ∧ Mode.halfBuilt = m' := by simpa using h
      exact ⟨.inr (.inr rfl), .inl rfl, fun hnot => by simp [hplain] at hnot⟩
  | locked | swapping => simp [Mode.afterOther] at h

lemma exec_quiet (hm : m.Calm) (hops : ∀ o ∈ ops, o.quiet) :
    Transition.exec Mode.after m ops = some m :=
  exec_eq_self fun o ho => after_quiet hm (hops o ho)

lemma exec_plain (hm : m.Calm) (hops : ∀ o ∈ ops, o.plain) :
    ∃ m', Transition.exec Mode.after m ops = some m' ∧ (m' = m ∨ m = .halfBuilt ∧ m' = .dead) := by
  induction ops generalizing m with
  | nil => exact ⟨m, rfl, .inl rfl⟩
  | cons o ops ih =>
    have ho := hops o (mem_cons_self ..)
    have hrest := fun o' ho' => hops o' (mem_cons_of_mem o ho')
    rcases after_plain hm ho with h | ⟨rfl, h⟩
    · obtain ⟨m', hm', hor⟩ := ih hm hrest
      exact ⟨m', by rw [Transition.exec, h]; exact hm', hor⟩
    · obtain ⟨m', hm', hor⟩ := ih (m := .dead) (.inr (.inl rfl)) hrest
      refine ⟨m', by rw [Transition.exec, h]; exact hm', .inr ⟨rfl, ?_⟩⟩
      simpa using hor

lemma follows_fail {t : Task} {pre : List Op} (hm : m.Calm) (hpre : ∀ o ∈ pre, o.plain)
    (herr : m.Errs t.onError) : Follows Mode.after m (t.fail pre).prog := by
  obtain ⟨m', hexec, hor⟩ := exec_plain hm hpre
  have hm' : m'.Calm := by
    rcases hor with rfl | ⟨-, rfl⟩
    · exact hm
    · exact .inr (.inl rfl)
  rw [Task.fail, append_assoc]
  refine .append hexec (.append (exec_quiet hm' plain_unwind) ?_)
  by_cases hfree : m = .free
  · rw [herr.1 hfree]
    exact follows_nil _
  · have hboth := herr.2 hfree
    rcases hm' with rfl | rfl | rfl
    · rcases hor with rfl | ⟨-, h⟩
      · exact absurd rfl hfree
      · exact absurd h (by simp)
    · exact hboth.1
    · exact hboth.2

lemma errs_nil (m : Mode) : m.Errs [] := ⟨fun _ => rfl, fun _ => ⟨follows_nil _, follows_nil _⟩⟩

lemma Mode.Errs.of_or {onError : List Op} (h : m.Errs onError)
    (hor : m' = m ∨ m = .halfBuilt ∧ m' = .dead) : m'.Errs onError := by
  rcases hor with rfl | ⟨rfl, rfl⟩
  · exact h
  · exact ⟨fun hf => absurd hf (by simp), fun _ => h.2 (by simp)⟩

lemma Continues.follows {t t' : Task} (h : Continues op t t') (hop : ∀ o, op ≠ .control o)
    (hafter : m.after op = some m') (hprog : Follows Mode.after m' t.prog)
    (herr : m.Errs t.onError) :
    Follows Mode.after m' t'.prog ∧ m'.Errs t'.onError := by
  obtain ⟨hcalm, hor, hfree⟩ := calm_of_after hop hafter
  have hcalm' : m'.Calm := by
    rcases hor with rfl | ⟨-, rfl⟩
    · exact hcalm
    · exact .inr (.inl rfl)
  have herr' := herr.of_or hor
  cases h with
  | keep hp he => exact ⟨hp ▸ hprog, he ▸ herr'⟩
  | push ops hquiet hp he =>
    rw [hp, he]
    exact ⟨.append (exec_quiet hcalm' hquiet) hprog, herr'⟩
  | lenient ops hlenient hplain hp he =>
    obtain ⟨rfl, rfl⟩ := hfree hlenient
    obtain ⟨m', hexec, hor'⟩ := exec_plain hcalm' hplain
    obtain rfl : m' = .free := by simpa using hor'
    rw [hp, he]
    exact ⟨.append hexec hprog, herr'⟩
  | replace ops hplain hp he =>
    obtain ⟨m'', hexec, -⟩ := exec_plain hcalm' hplain
    rw [hp, he]
    exact ⟨⟨m'', hexec⟩, herr'⟩
  | fail pre hplain heq =>
    subst heq
    exact ⟨follows_fail hcalm' hplain herr', errs_nil m'⟩

end Modes

/-! ## Programs -/

lemma control_not_mem_executeCompound (charges : List ℕ) (o : ControlOp) :
    .control o ∉ executeCompound charges := by
  unfold executeCompound
  split
  · exact not_mem_nil
  · simp [startRequest, reserveCredits, sendAndCount]

lemma followsMode_program (call : Call) : Follows Mode.after .free call.program := by
  cases call with
  | compound charges =>
    refine ⟨.free, exec_eq_self fun op hop => ?_⟩
    have hne : ∀ o, op ≠ .control o := by
      rintro o rfl
      exact control_not_mem_executeCompound charges o hop
    rw [after_of_ne_control hne]
    rfl
  | reconnect attempts => cases attempts <;> exact ⟨_, rfl⟩
  | _ => exact ⟨_, rfl⟩

lemma eq_receive_of_mem_handleFrame {gen : ℕ} {subs : List SubFrame} {malformed : Bool}
    {o : ControlOp} (h : .control o ∈ handleFrame gen subs malformed) : o = .receive gen := by
  rcases mem_handleFrame h with h | h | h
  · cases h
  · simp [fanErrorToWaiters] at h
  · simpa using h

lemma followsMode_handleFrame (gen : ℕ) (subs : List SubFrame) (malformed : Bool) :
    Follows Mode.after .free (handleFrame gen subs malformed) := by
  refine ⟨.free, exec_eq_self fun op hop => ?_⟩
  by_cases hcontrol : ∃ o, op = .control o
  · obtain ⟨o, rfl⟩ := hcontrol
    rw [eq_receive_of_mem_handleFrame hop]
    rfl
  · rw [after_of_ne_control fun o ho => hcontrol ⟨o, ho⟩]
    rfl

lemma followsMode_attempt (first : Bool) (left : ℕ) :
    Follows Mode.after .dead (attemptBody first) ∧ Mode.dead.Errs (attemptFailed left) := by
  refine ⟨by cases first <;> exact ⟨_, rfl⟩, fun h => absurd h (by simp), fun _ => ?_⟩
  unfold attemptFailed
  split <;> exact ⟨⟨_, rfl⟩, ⟨_, rfl⟩⟩

/-! ## The invariant -/

/-- How far the `k`-th part of a connection is ahead of the writer queue while they are being
swapped: the credits are the first part, the message ids the second, the crypto state the
third, and the queue itself is the fourth. -/
def Mode.ahead (m : Mode) (k : ℕ) : ℕ :=
  match m with
  | .swapping done => if k ≤ done ∧ done ≤ 3 then 1 else 0
  | _ => 0

def Mode.isSwapping : Mode → Bool
  | .swapping _ => true
  | _ => false

/-- **What holds of every reachable connection about its revivals.** -/
structure Revivable (w : World) : Prop where
  tasks : ∀ i t, w.tasks[i]? = some t →
    Follows Mode.after (w.shared.revival.modeOf i) t.prog ∧
      (w.shared.revival.modeOf i).Errs t.onError
  /-- The lock is held by a task, and nobody reviving means that the lock is free. -/
  lock_lt : ∀ i, w.shared.revival.lock = some i → i < w.tasks.length
  mode_free : w.shared.revival.mode = .free ↔ w.shared.revival.lock = none
  /-- While the lock holder knows the connection to be dead, and while it swaps the parts of the
  connection, `disconnected` is set. -/
  disconnected : w.shared.revival.mode = .dead ∨ (∃ k, w.shared.revival.mode = .swapping k) →
    w.shared.routing.disconnected = true
  /-- The parts of the connection are of one generation, but for those already swapped. -/
  live : w.shared.credits.live = w.shared.plumbing.writeTx + w.shared.revival.mode.ahead 1
  idEpoch : w.shared.session.idEpoch = w.shared.plumbing.writeTx + w.shared.revival.mode.ahead 2
  cryptoEpoch : w.shared.session.cryptoEpoch =
    w.shared.plumbing.writeTx + w.shared.revival.mode.ahead 3

section Preservation

variable {w : World} {s' : Shared} {i : ℕ} {t t' : Task} {op : Op} {rest : List Op}

variable {v : Revival} {m m' : Mode} {o : ControlOp} {new : List Task}

lemma lock_of_modeOf (h : v.modeOf i = m) (hm : m ≠ .free) :
    v.lock = some i ∧ v.mode = m := by
  unfold Revival.modeOf at h
  split at h
  · exact ⟨‹_›, h⟩
  · exact absurd h.symm hm

lemma modeOf_of_ne {v' : Revival} {j : ℕ} (hj : j ≠ i)
    (hlock : v'.lock = v.lock ∧ v'.lock = some i ∨ v'.lock = some i ∧ v.lock = none ∨
      v'.lock = none ∧ v.lock = some i ∨ v' = v) :
    v'.modeOf j = v.modeOf j := by
  rcases hlock with ⟨h1, h2⟩ | ⟨h1, h2⟩ | ⟨h1, h2⟩ | rfl
  · simp [Revival.modeOf, ← h1, h2, Ne.symm hj]
  · simp [Revival.modeOf, h1, h2, Ne.symm hj]
  · simp [Revival.modeOf, h1, h2, Ne.symm hj]
  · rfl

lemma Revivable.modeOf_of_length_le (hw : Revivable w) (hi : w.tasks.length ≤ i) :
    w.shared.revival.modeOf i = .free := by
  unfold Revival.modeOf
  split
  · exact absurd (hw.lock_lt i ‹_›) (by omega)
  · rfl

lemma Revivable.mem_modes (hw : Revivable w) (ht : w.tasks[i]? = some t)
    (hop : t.prog = .control o :: rest) : w.shared.revival.modeOf i ∈ o.modes.1 := by
  obtain ⟨hfollows, -⟩ := hw.tasks i t ht
  rw [hop] at hfollows
  obtain ⟨m', hafter, -⟩ := follows_cons.1 hfollows
  simp only [Mode.after, Option.ite_none_right_eq_some] at hafter
  exact hafter.1

lemma Revivable.mode_eq (hw : Revivable w) (ht : w.tasks[i]? = some t)
    (hop : t.prog = .control o :: rest) (ho : o.modes.1 = [m]) (hm : m ≠ .free) :
    w.shared.revival.mode = m := by
  have hmem := hw.mem_modes ht hop
  rw [ho, mem_singleton] at hmem
  exact (lock_of_modeOf hmem hm).2

lemma Revivable.tasks_set (hw : Revivable w) (ht : w.tasks[i]? = some t) {v' : Revival}
    (hself : Follows Mode.after (v'.modeOf i) t'.prog ∧ (v'.modeOf i).Errs t'.onError)
    (hothers : ∀ j ≠ i, v'.modeOf j = w.shared.revival.modeOf j)
    (hnew : ∀ u ∈ new, Follows Mode.after .free u.prog ∧ u.onError = []) :
    ∀ j u, (w.tasks.set i t' ++ new)[j]? = some u →
      Follows Mode.after (v'.modeOf j) u.prog ∧ (v'.modeOf j).Errs u.onError := by
  have hi : i < w.tasks.length := (List.getElem?_eq_some_iff.1 ht).1
  intro j u hu
  by_cases hj : j < w.tasks.length
  · rw [getElem?_append_left (by simpa using hj), getElem?_set] at hu
    split at hu
    · rename_i hij
      subst hij
      obtain rfl : t' = u := by simpa [hi] using hu
      exact hself
    · rename_i hij
      rw [hothers j (Ne.symm hij)]
      exact hw.tasks j u hu
  · have hfree : v'.modeOf j = .free := by
      rw [hothers j (by omega), hw.modeOf_of_length_le (by omega)]
    rw [getElem?_append_right (by simpa using hj)] at hu
    obtain ⟨hprog, herr⟩ := hnew u (mem_of_getElem? hu)
    rw [hfree, herr]
    exact ⟨hprog, errs_nil _⟩

lemma modeOf_afterWaiter {o : WaiterOp} (hafter : (v.modeOf i).after (.waiter o) = some m') :
    (v.afterWaiter i o).modeOf i = m' ∧
      ∀ j ≠ i, (v.afterWaiter i o).modeOf j = v.modeOf j := by
  obtain ⟨-, hor, -⟩ := calm_of_after (by simp) hafter
  unfold Revival.afterWaiter
  split
  · rename_i h
    obtain ⟨rfl, hlock, hmode⟩ := h
    have hm : v.modeOf i = .halfBuilt := by simp [Revival.modeOf, hlock, hmode]
    rw [hm] at hafter
    obtain rfl : Mode.dead = m' := by
      simpa [Mode.after, Mode.afterOther] using hafter
    exact ⟨by simp [Revival.modeOf, hlock],
      fun j hj => modeOf_of_ne hj (.inl ⟨rfl, hlock⟩)⟩
  · rename_i h
    refine ⟨?_, fun _ _ => rfl⟩
    rcases hor with rfl | ⟨hm, rfl⟩
    · rfl
    · obtain ⟨hlock, hmode⟩ := lock_of_modeOf hm (by simp)
      rw [hm, after_of_ne_control (by simp)] at hafter
      have hdrain : o = .drain := by
        by_contra hne
        simp [Mode.afterOther, hne] at hafter
      exact absurd ⟨hdrain, hlock, hmode⟩ h

lemma Revivable.run_other (hw : Revivable w) (ht : w.tasks[i]? = some t)
    (hop : t.prog = op :: rest) (hne : ∀ o, op ≠ .control o)
    (hcont : Continues op { t with prog := rest } t')
    (hmode : ∀ m', (w.shared.revival.modeOf i).after op = some m' →
      s'.revival.modeOf i = m' ∧ ∀ j ≠ i, s'.revival.modeOf j = w.shared.revival.modeOf j)
    (hlock : s'.revival.lock = w.shared.revival.lock)
    (htorn : s'.revival.mode = w.shared.revival.mode ∨
      w.shared.revival.mode = .halfBuilt ∧ s'.revival.mode = .dead ∧ s'.routing.disconnected = true)
    (hdisc : w.shared.routing.disconnected = true → s'.routing.disconnected = true)
    (hlive : s'.credits.live = w.shared.credits.live)
    (hids : s'.session.idEpoch = w.shared.session.idEpoch)
    (hcrypto : s'.session.cryptoEpoch = w.shared.session.cryptoEpoch)
    (htx : s'.plumbing.writeTx = w.shared.plumbing.writeTx) :
    Revivable ⟨s', w.tasks.set i t' ++ []⟩ := by
  obtain ⟨hfollows, herr⟩ := hw.tasks i t ht
  rw [hop] at hfollows
  obtain ⟨m', hafter, hrest⟩ := follows_cons.1 hfollows
  obtain ⟨hself, hothers⟩ := hmode m' hafter
  have hahead : ∀ k, s'.revival.mode.ahead k = w.shared.revival.mode.ahead k := by
    intro k
    rcases htorn with h | ⟨h1, h2, -⟩
    · rw [h]
    · simp [h1, h2, Mode.ahead]
  refine ⟨hw.tasks_set ht (hself ▸ hcont.follows hne hafter hrest herr) hothers (by simp), ?_, ?_,
    ?_, ?_, ?_, ?_⟩
  · simpa [hlock] using hw.lock_lt
  · rw [hlock, ← hw.mode_free]
    rcases htorn with h | ⟨h1, h2, -⟩
    · rw [h]
    · simp [h1, h2]
  · intro h
    rcases htorn with hsame | ⟨-, -, hset⟩
    · rw [hsame] at h
      exact hdisc (hw.disconnected h)
    · exact hset
  · rw [hlive, htx, hahead, hw.live]
  · rw [hids, htx, hahead, hw.idEpoch]
  · rw [hcrypto, htx, hahead, hw.cryptoEpoch]

lemma modeOf_eq_of_quiet (hne : ∀ o, op ≠ .control o) (hdrain : op ≠ .waiter .drain)
    (hafter : (v.modeOf i).after op = some m') :
    v.modeOf i = m' := by
  obtain ⟨-, hor, -⟩ := calm_of_after hne hafter
  rcases hor with h | ⟨hm, rfl⟩
  · exact h.symm
  · rw [hm, after_of_ne_control hne] at hafter
    simp [Mode.afterOther, hdrain] at hafter

lemma Revivable.of_tasks (hw : Revivable w) (ht : w.tasks[i]? = some t)
    (hself : Follows Mode.after (w.shared.revival.modeOf i) t'.prog ∧
      (w.shared.revival.modeOf i).Errs t'.onError) :
    Revivable ⟨w.shared, w.tasks.set i t' ++ []⟩ where
  tasks := hw.tasks_set ht hself (fun _ _ => rfl) (by simp)
  lock_lt := by simpa using hw.lock_lt
  mode_free := hw.mode_free
  disconnected := hw.disconnected
  live := hw.live
  idEpoch := hw.idEpoch
  cryptoEpoch := hw.cryptoEpoch

lemma Revivable.of_lock (hw : Revivable w) (ht : w.tasks[i]? = some t)
    (hself : Follows Mode.after (s'.revival.modeOf i) t'.prog ∧
      (s'.revival.modeOf i).Errs t'.onError)
    (hlock : s'.revival.lock = w.shared.revival.lock ∧ s'.revival.lock = some i ∨
      s'.revival.lock = some i ∧ w.shared.revival.lock = none ∨ s'.revival.lock = none ∧
      w.shared.revival.lock = some i)
    (hnew : ∀ u ∈ new, Follows Mode.after .free u.prog ∧ u.onError = [])
    (hfree : s'.revival.mode = .free ↔ s'.revival.lock = none)
    (hdisc : s'.revival.mode = .dead ∨ (∃ k, s'.revival.mode = .swapping k) →
      s'.routing.disconnected = true)
    (hlive : s'.credits.live = s'.plumbing.writeTx + s'.revival.mode.ahead 1)
    (hids : s'.session.idEpoch = s'.plumbing.writeTx + s'.revival.mode.ahead 2)
    (hcrypto : s'.session.cryptoEpoch = s'.plumbing.writeTx + s'.revival.mode.ahead 3) :
    Revivable ⟨s', w.tasks.set i t' ++ new⟩ where
  tasks := hw.tasks_set ht hself (fun j hj => modeOf_of_ne hj (by
    rcases hlock with h | h | h
    exacts [.inl h, .inr (.inl h), .inr (.inr (.inl h))])) hnew
  lock_lt j hj := by
    have hi : i < w.tasks.length := (List.getElem?_eq_some_iff.1 ht).1
    obtain rfl : i = j := by
      rcases hlock with ⟨-, h⟩ | ⟨h, -⟩ | ⟨h, -⟩ <;> simp_all
    simp only [length_append, length_set]
    omega
  mode_free := hfree
  disconnected := hdisc
  live := hlive
  idEpoch := hids
  cryptoEpoch := hcrypto

lemma Revivable.of_mode (hw : Revivable w) (ht : w.tasks[i]? = some t)
    (hm : w.shared.revival.modeOf i = m) (hne : m ≠ .free)
    (herr : (w.shared.revival.modeOf i).Errs t.onError)
    (hlock : s'.revival.lock = w.shared.revival.lock) (hmode : s'.revival.mode = m')
    (hne' : m' ≠ .free) (hprog : Follows Mode.after m' t'.prog) (honError : t'.onError = t.onError)
    (hnew : ∀ u ∈ new, Follows Mode.after .free u.prog ∧ u.onError = [])
    (hdisc : m' = .halfBuilt ∨ s'.routing.disconnected = true)
    (hgens : s'.credits.live = s'.plumbing.writeTx + m'.ahead 1 ∧
      s'.session.idEpoch = s'.plumbing.writeTx + m'.ahead 2 ∧
      s'.session.cryptoEpoch = s'.plumbing.writeTx + m'.ahead 3) :
    Revivable ⟨s', w.tasks.set i t' ++ new⟩ := by
  subst hmode
  have hheld : s'.revival.lock = some i := by rw [hlock, (lock_of_modeOf hm hne).1]
  refine hw.of_lock ht ?_ (.inl ⟨hlock, hheld⟩) hnew (by simp [hheld, hne']) (fun h => ?_) hgens.1
    hgens.2.1 hgens.2.2
  · simp only [Revival.modeOf, hheld, if_true, honError]
    exact ⟨hprog, fun h => absurd h hne', fun _ => herr.2 (hm ▸ hne)⟩
  · rcases hdisc with hhalf | hset
    · simp [hhalf] at h
    · exact hset

lemma Revivable.of_release (hw : Revivable w) (ht : w.tasks[i]? = some t)
    (hm : w.shared.revival.modeOf i = m) (hne : m ≠ .free) (hahead : ∀ k, m.ahead k = 0)
    (hlock : s'.revival.lock = none) (hmode : s'.revival.mode = .free)
    (hprog : Follows Mode.after .free t'.prog) (honError : t'.onError = [])
    (hlive : s'.credits.live = w.shared.credits.live) (hsession : s'.session = w.shared.session)
    (hplumbing : s'.plumbing = w.shared.plumbing) :
    Revivable ⟨s', w.tasks.set i t' ++ []⟩ := by
  obtain ⟨hheld, hmode'⟩ := lock_of_modeOf hm hne
  have hfree : ∀ k, s'.revival.mode.ahead k = w.shared.revival.mode.ahead k := fun k => by
    rw [hmode, hmode', hahead]
    rfl
  refine hw.of_lock ht ?_ (.inr (.inr ⟨hlock, hheld⟩)) (by simp) (by simp [hlock, hmode])
    (by simp [hmode]) ?_ ?_ ?_
  · simp only [Revival.modeOf, hlock, honError]
    exact ⟨hprog, errs_nil _⟩
  · rw [hlive, hplumbing, hfree, hw.live]
  · rw [hsession, hplumbing, hfree, hw.idEpoch]
  · rw [hsession, hplumbing, hfree, hw.cryptoEpoch]

lemma followsMode_plumbingTasks (gen pool : ℕ) :
    ∀ u ∈ plumbingTasks gen pool, Follows Mode.after .free u.prog ∧ u.onError = [] := by
  intro u hu
  rcases mem_pair.1 hu with rfl | rfl <;> exact ⟨⟨.free, rfl⟩, rfl⟩

lemma ControlEffect.revivable (h : ControlEffect w.shared i { t with prog := rest } o s' t' new)
    (hw : Revivable w) (ht : w.tasks[i]? = some t) (hop : t.prog = .control o :: rest) :
    Revivable ⟨s', w.tasks.set i t' ++ new⟩ := by
  obtain ⟨hfollows, herr⟩ := hw.tasks i t ht
  rw [hop] at hfollows
  obtain ⟨m', hafter, hrest⟩ := follows_cons.1 hfollows
  obtain ⟨hm, rfl⟩ : w.shared.revival.modeOf i ∈ o.modes.1 ∧ o.modes.2 = m' := by
    simpa [Mode.after] using hafter
  have hgens := And.intro hw.live (And.intro hw.idEpoch hw.cryptoEpoch)
  cases h <;> simp only [ControlOp.modes, mem_cons, not_mem_nil, or_false] at hm hrest
  case received subs malformed =>
    exact hw.of_tasks ht ⟨hm ▸ followsMode_handleFrame _ subs malformed, herr⟩
  case notNeeded => exact hw.of_tasks ht ⟨follows_nil _, herr⟩
  case needed | loadRevivals | sameRevival | warm | backoff | dialed =>
    exact hw.of_tasks ht ⟨hm ▸ hrest, herr⟩
  case receiveFailed | otherRevival | notDead | coolingDown =>
    exact hw.of_tasks ht ⟨hm ▸ ⟨.free, rfl⟩, herr⟩
  case attempt first left => exact hw.of_tasks ht (hm ▸ followsMode_attempt first left)
  case dialFailed =>
    rw [hm] at herr
    exact hw.of_tasks ht ⟨hm ▸ follows_fail (.inr (.inl rfl)) (by simp) herr, errs_nil _⟩
  case locked hnone =>
    have hmode : w.shared.revival.mode = .free := hw.mode_free.2 hnone
    simp only [hmode, Mode.ahead] at hgens
    refine hw.of_lock ht ?_ (.inr (.inl ⟨rfl, hnone⟩)) (by simp) (by simp) (by simp) hgens.1
      hgens.2.1 hgens.2.2
    simp only [Revival.modeOf, if_true, herr.1 hm]
    exact ⟨hrest, errs_nil _⟩
  -- The lock holder goes on to the next mode.
  case stillDead hdisc =>
    obtain ⟨-, hmode⟩ := lock_of_modeOf hm (by simp)
    refine hw.of_mode ht hm (by simp) herr rfl rfl (by simp) hrest rfl (by simp) (.inr hdisc) ?_
    simpa [hmode, Mode.ahead] using hgens
  case resetCredits =>
    obtain ⟨-, hmode⟩ := lock_of_modeOf hm (by simp)
    refine hw.of_mode ht hm (by simp) herr rfl rfl (by simp) hrest rfl (by simp)
      (.inr (hw.disconnected (.inl hmode))) ?_
    simpa [hmode, Mode.ahead] using hgens
  case resetMessageId | wipeCrypto | swapQueue =>
    obtain ⟨-, hmode⟩ := lock_of_modeOf hm (by simp)
    refine hw.of_mode ht hm (by simp) herr rfl rfl (by simp) hrest rfl (by simp)
      (.inr (hw.disconnected (.inr ⟨_, hmode⟩))) ?_
    simpa [hmode, Mode.ahead] using hgens
  case spawnPlumbing =>
    obtain ⟨-, hmode⟩ := lock_of_modeOf hm (by simp)
    refine hw.of_mode ht hm (by simp) herr rfl rfl (by simp) hrest rfl
      (followsMode_plumbingTasks _ _) (.inr (hw.disconnected (.inr ⟨_, hmode⟩))) ?_
    simpa [hmode, Mode.ahead] using hgens
  case clearDisconnected =>
    obtain ⟨-, hmode⟩ := lock_of_modeOf hm (by simp)
    refine hw.of_mode ht hm (by simp) herr rfl rfl (by simp) hrest rfl (by simp) (.inl rfl) ?_
    simpa [hmode, Mode.ahead] using hgens
  case revived | giveUp =>
    exact hw.of_release ht hm (by simp) (fun _ => rfl) rfl rfl hrest rfl rfl rfl rfl
  case abandon =>
    rcases hm with hm | hm <;>
      exact hw.of_release ht hm (by simp) (fun _ => rfl) rfl rfl hrest rfl rfl rfl rfl
  case unlock =>
    exact hw.of_release ht hm (by simp) (fun _ => rfl) rfl rfl (follows_nil _) rfl rfl rfl rfl

lemma Effect.revivable {c : Choice} (h : Effect w.shared i { t with prog := rest } c op s' t' new)
    (hw : Revivable w) (ht : w.tasks[i]? = some t) (hop : t.prog = op :: rest) :
    Revivable ⟨s', w.tasks.set i t' ++ new⟩ := by
  cases h with
  | control h => exact h.revivable hw ht hop
  | credit h =>
    exact hw.run_other ht hop (by simp) h.continues
      (fun m' hm' => ⟨modeOf_eq_of_quiet (by simp) (by simp) hm', fun _ _ => rfl⟩) rfl (.inl rfl) id
      h.live_eq rfl rfl rfl
  | session h =>
    exact hw.run_other ht hop (by simp) h.continues
      (fun m' hm' => ⟨modeOf_eq_of_quiet (by simp) (by simp) hm', fun _ _ => rfl⟩) rfl (.inl rfl) id
      rfl h.epochs_eq.1 h.epochs_eq.2.1 rfl
  | queue h =>
    exact hw.run_other ht hop (by simp) h.continues
      (fun m' hm' => ⟨modeOf_eq_of_quiet (by simp) (by simp) hm', fun _ _ => rfl⟩) rfl (.inl rfl) id
      rfl rfl rfl h.writeTx_eq
  | @waiter o _ _ h =>
    refine hw.run_other ht hop (by simp) h.continues (fun m' hm' => modeOf_afterWaiter hm') ?_ ?_ ?_
      rfl rfl rfl rfl
    · simp only [Revival.afterWaiter]
      split <;> rfl
    · simp only [Revival.afterWaiter, h.disconnected_eq]
      split
      · rename_i hdrain
        exact .inr ⟨hdrain.2.2, rfl, by simp [hdrain.1]⟩
      · exact .inl rfl
    · intro hdisc
      simp [h.disconnected_eq, hdisc]

lemma Effect.modeOf_of_ne {c : Choice}
    (h : Effect w.shared i { t with prog := rest } c op s' t' new) (hw : Revivable w)
    (ht : w.tasks[i]? = some t) (hop : t.prog = op :: rest) {j : ℕ} (hj : j ≠ i) :
    s'.revival.modeOf j = w.shared.revival.modeOf j := by
  cases h with
  | waiter h =>
    obtain ⟨hfollows, -⟩ := hw.tasks i t ht
    rw [hop] at hfollows
    obtain ⟨m', hafter, -⟩ := follows_cons.1 hfollows
    exact (modeOf_afterWaiter hafter).2 j hj
  | @control o _ _ _ h =>
    have hheld (hfree : .free ∉ o.modes.1) : w.shared.revival.lock = some i :=
      (lock_of_modeOf rfl fun hm => hfree (hm ▸ hw.mem_modes ht hop)).1
    refine Connection.modeOf_of_ne hj ?_
    cases h with
    | locked hnone => exact .inr (.inl ⟨rfl, hnone⟩)
    | stillDead | resetCredits | resetMessageId | wipeCrypto | swapQueue | spawnPlumbing |
      clearDisconnected => exact .inl ⟨rfl, hheld (by simp [ControlOp.modes])⟩
    | revived | giveUp | abandon | unlock =>
      exact .inr (.inr (.inl ⟨rfl, hheld (by simp [ControlOp.modes])⟩))
    | _ => exact .inr (.inr (.inr rfl))
  | _ => rfl

lemma Revivable.calm_of_parked (hw : Revivable w) (ht : w.tasks[i]? = some t)
    (hparked : t.parked) : (w.shared.revival.modeOf i).Calm := by
  obtain ⟨hfollows, -⟩ := hw.tasks i t ht
  unfold Task.parked at hparked
  split at hparked
  · rename_i op rest hop
    rw [hop] at hfollows
    obtain ⟨m', hafter, -⟩ := follows_cons.1 hfollows
    by_cases hcontrol : ∃ o, op = .control o
    · obtain ⟨o, rfl⟩ := hcontrol
      obtain ⟨hm, -⟩ : w.shared.revival.modeOf i ∈ o.modes.1 ∧ o.modes.2 = m' := by
        simpa [Mode.after] using hafter
      cases o <;> simp only [Op.isAwait, Bool.false_eq_true] at hparked <;>
        simp_all [ControlOp.modes, Mode.Calm]
    · exact (calm_of_after (fun o ho => hcontrol ⟨o, ho⟩) hafter).1
  · simp at hparked

lemma Revivable.mode_of_parked (hw : Revivable w) (ht : w.tasks[i]? = some t)
    (hlock : w.shared.revival.lock = some i) (hparked : t.parked) :
    w.shared.revival.modeOf i = .dead ∨ w.shared.revival.modeOf i = .halfBuilt := by
  have hne : w.shared.revival.modeOf i ≠ .free := by
    simp [Revival.modeOf, hlock, hw.mode_free]
  simpa [Mode.Calm, hne] using hw.calm_of_parked ht hparked

lemma follows_unwind {ops : List Op} (hm : m.Calm) (hops : Follows Mode.after m ops) :
    Follows Mode.after m (unwind ++ ops) :=
  .append (exec_quiet hm plain_unwind) hops

theorem revivable_of_step {w' : World} {a : Action} (hw : Revivable w)
    (h : step w a = some w') : Revivable w' := by
  cases stepped_of_step h with
  | spawn call =>
    refine ⟨fun j u hu => ?_, fun j hj => ?_, hw.mode_free, hw.disconnected, hw.live, hw.idEpoch,
      hw.cryptoEpoch⟩
    · by_cases hj : j < w.tasks.length
      · rw [getElem?_append_left hj] at hu
        exact hw.tasks j u hu
      · rw [getElem?_append_right (by omega)] at hu
        obtain rfl := mem_singleton.1 (mem_of_getElem? hu)
        rw [hw.modeOf_of_length_le (by omega)]
        exact ⟨followsMode_program call, errs_nil _⟩
    · have := hw.lock_lt j hj
      simp only [length_append]
      omega
  | run ht hop heffect => exact heffect.revivable hw ht hop
  | drop ht hrole hparked =>
    rw [← append_nil (w.tasks.set _ _)]
    refine hw.of_tasks ht ⟨follows_unwind (hw.calm_of_parked ht hparked) ?_, errs_nil _⟩
    split
    · rename_i hlock
      rcases hw.mode_of_parked ht (by simpa using hlock) hparked with hm | hm <;> rw [hm] <;>
        exact ⟨_, rfl⟩
    · exact follows_nil _
  | expire ht hlock hparked =>
    rw [← append_nil (w.tasks.set _ _)]
    refine hw.of_tasks ht ⟨?_, errs_nil _⟩
    rcases hw.mode_of_parked ht hlock hparked with hm | hm <;> rw [hm] <;> exact ⟨_, rfl⟩
  | @reap _ t ht haborted hparked =>
    rw [← append_nil (w.tasks.set _ _)]
    refine hw.of_tasks ht ?_
    unfold Task.reaped
    split
    · have hplain : ∀ gen, ∀ o ∈ [Op.queue (.exitWriter gen)], o.plain := by simp [Op.plain]
      obtain ⟨m', hexec, -⟩ := exec_plain (hw.calm_of_parked ht hparked) (hplain _)
      exact ⟨⟨m', hexec⟩, errs_nil _⟩
    · exact ⟨follows_nil _, errs_nil _⟩

end Preservation

lemma revivable_init : Revivable init where
  tasks i t ht := by
    obtain ⟨hprog, herr⟩ := followsMode_plumbingTasks 0 0 t (mem_of_getElem? ht)
    rw [herr]
    exact ⟨hprog, errs_nil _⟩
  lock_lt := by simp [init]
  mode_free := by simp [init]
  disconnected := by simp [init]
  live := rfl
  idEpoch := rfl
  cryptoEpoch := rfl

/-! ## Reachable connections -/

/-- **What holds of every reachable connection**: its tasks keep to the protocol of requests and to
that of revivals, and they and the queues fit together. -/
structure Regular (w : World) : Prop where
  protocol : ∀ t ∈ w.tasks, Scoped t
  revivable : Revivable w
  wired : Wired w

theorem regular_of_step {w w' : World} {a : Action} (hw : Regular w) (h : step w a = some w') :
    Regular w' :=
  ⟨scoped_of_step hw.protocol h, revivable_of_step hw.revivable h, wired_of_step hw.wired h⟩

lemma regular_init : Regular init := ⟨scoped_plumbingTasks 0 0, revivable_init, wired_init⟩

lemma regular_of_exec {run : List Action} {w : World}
    (hrun : Transition.exec step init run = some w) : Regular w :=
  exec_invariant_of_step (fun _ _ _ hw h => regular_of_step hw h) regular_init hrun

/-- **The parts of a connection are swapped in one order**: in every run the credit pool is of the
newest generation, then come the message ids, the keys and the queue of the writer, at most one
generation apart; and all are of one generation unless a revival is going on and the connection is
marked as disconnected. -/
theorem parts_swapped_in_order {run : List Action} {w : World}
    (hrun : Transition.exec step init run = some w) :
    w.shared.plumbing.writeTx ≤ w.shared.session.cryptoEpoch ∧
      w.shared.session.cryptoEpoch ≤ w.shared.session.idEpoch ∧
      w.shared.session.idEpoch ≤ w.shared.credits.live ∧
      w.shared.credits.live ≤ w.shared.plumbing.writeTx + 1 ∧
      (w.shared.credits.live = w.shared.plumbing.writeTx ∨
        w.shared.revival.lock ≠ none ∧ w.shared.routing.disconnected = true) := by
  have hw := (regular_of_exec hrun).revivable
  rw [hw.live, hw.idEpoch, hw.cryptoEpoch, Ne, ← hw.mode_free]
  cases hmode : w.shared.revival.mode with
  | swapping done =>
    have hdead := hw.disconnected (.inr ⟨done, hmode⟩)
    simp only [Mode.ahead]
    refine ⟨?_, ?_, ?_, ?_, .inr ⟨nofun, hdead⟩⟩ <;> grind
  | _ => simp [Mode.ahead]

set_option maxRecDepth 4000 in
theorem parts_swapped_in_order_revived :
    ∃ w, Transition.exec step init revivedConnection = some w ∧
      w.shared.credits.live = 1 ∧ w.shared.plumbing.writeTx ≤ w.shared.session.cryptoEpoch :=
  ⟨_, rfl, rfl, (parts_swapped_in_order
    (show Transition.exec step init revivedConnection = some _ from rfl)).1⟩

/-- **Message ids are taken under a reservation**: in every run a task that has something charged
and not sent holds credits, and has taken the ids for it on them. -/
theorem unsent_under_reservation {run : List Action} {w : World}
    (hrun : Transition.exec step init run = some w) {t : Task} (ht : t ∈ w.tasks)
    (hunsent : 0 < t.unsent) : ∃ r, t.credit = some r ∧ t.unsent ≤ r.taken := by
  obtain ⟨⟨p, hat, -⟩, -⟩ := (regular_of_exec hrun).protocol t ht
  cases p with
  | idle => exact absurd hat.2 hunsent.ne'
  | reserved => exact hat.2.2
  | fresh =>
    obtain ⟨-, houtbox, -, hsubs, hready⟩ := hat
    simp [Task.unsent, houtbox, hsubs, hready] at hunsent
  | packed =>
    obtain ⟨hsubs, hready, -, r, o, hcredit, houtbox, hcharge⟩ := hat
    exact ⟨r, hcredit, by simpa [Task.unsent, hsubs, hready, houtbox] using hcharge⟩
  | sent =>
    obtain ⟨hsubs, hready, houtbox, -⟩ := hat
    simp [Task.unsent, houtbox, hsubs, hready] at hunsent

set_option maxRecDepth 4000 in
theorem unsent_under_reservation_allocated :
    ∃ w t, Transition.exec step init (.spawn (.execute 1) :: turns 2 7) = some w ∧
      w.tasks[2]? = some t ∧ ∃ r, t.credit = some r ∧ t.unsent ≤ r.taken :=
  ⟨_, _, rfl, rfl, unsent_under_reservation
    (show Transition.exec step init (.spawn (.execute 1) :: turns 2 7) = some _ from rfl)
    (mem_of_getElem? (i := 2) rfl) (by decide)⟩

end Smb2.Connection
