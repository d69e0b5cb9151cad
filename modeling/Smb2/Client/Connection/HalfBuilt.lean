import Smb2.Client.Connection.Revival

set_option autoImplicit false

/-!
# Half-built sessions

`install_transport` clears the `disconnected` flag before `reauthenticate` runs, so that the
reviver's own requests pass the checks that every request makes. This file shows what keeps other
callers out until the session stands, and that a revival that fails leaves the connection
dead.
-/

open List

namespace Smb2.Connection

open Transition

/-- When an operation of task `i` leaves a half-built session alone: it looks up the queue of a
transport whose session stands, or of one that the task installed itself. -/
def Op.secluded (s : Shared) (i : ℕ) : Op → Bool
  | .queue .snapshot => s.revival.building = none ∨ s.revival.building = some i
  | _ => true

/-- **A step that leaves half-built sessions to their revivers**: no other task looks up their
queue, and the future of the reviver is not dropped. -/
def World.secluded (w : World) : Action → Bool
  | .run i _ => ∀ t ∈ w.tasks[i]?, ∀ op ∈ t.prog.head?, op.secluded w.shared i
  | .drop i => w.shared.revival.modeOf i ≠ .halfBuilt
  | _ => true

/-! ## Frames -/

/-- As long as the session of the live transport does not stand, its frames are those of the task
that installed it. -/
def BuiltAlone (s : Shared) (g : ℕ) (f : Outgoing) : Prop :=
  ∀ r, s.revival.building = some r → g = s.plumbing.writeTx → f.owner = r

section Frames

variable {w w' : World} {s s' : Shared} {i : ℕ} {t t' : Task} {c : Choice} {op : Op}
  {new : List Task}

lemma Effect.building (h : Effect s i t c op s' t' new) :
    s'.plumbing.writeTx = s.plumbing.writeTx + 1 ∨ s'.plumbing.writeTx = s.plumbing.writeTx ∧
      (s'.revival.building = s.revival.building ∨ s'.revival.building = none) := by
  cases h with
  | queue h => exact .inr ⟨h.writeTx_eq, .inl rfl⟩
  | waiter =>
    refine .inr ⟨rfl, .inl ?_⟩
    unfold Revival.afterWaiter
    split <;> rfl
  | control h =>
    cases h with
    | swapQueue => exact .inl rfl
    | revived => exact .inr ⟨rfl, .inr rfl⟩
    | _ => exact .inr ⟨rfl, .inl rfl⟩
  | _ => exact .inr ⟨rfl, .inl rfl⟩

lemma builtAlone_of_step {a : Action} (h : step w a = some w') :
    ∀ g ≤ w.shared.plumbing.writeTx, ∀ f, BuiltAlone w.shared g f → BuiltAlone w'.shared g f := by
  refine step_cases (P := fun w' => ∀ g ≤ w.shared.plumbing.writeTx, ∀ f,
    BuiltAlone w.shared g f → BuiltAlone w'.shared g f) h (fun _ _ _ _ _ hf => hf)
    (fun i c t op rest s' t' new _ _ _ heffect g hg f hf r hr hlive => ?_)
    (fun _ _ _ _ _ _ _ _ _ hf => hf)
  have hlive : g = s'.plumbing.writeTx := hlive
  have hr : s'.revival.building = some r := hr
  rcases heffect.building with hswap | ⟨htx, hsame | hnone⟩
  · omega
  · exact hf r (hsame ▸ hr) (htx ▸ hlive)
  · rw [hnone] at hr
    cases hr

lemma carried_builtAlone {a : Action} (hw : Carried (BuiltAlone w.shared) w) (hwired : Wired w)
    (hC : w.secluded a) (h : step w a = some w') : Carried (BuiltAlone w'.shared) w' := by
  refine carried_of_step hw hwired (builtAlone_of_step h) ?_ h
  rintro i c t rest rfl ht hop
  have hcond : w.shared.revival.building = none ∨ w.shared.revival.building = some i := by
    simpa [hop, Op.secluded] using of_decide_eq_true hC t ht
  refine builtAlone_of_step h _ le_rfl _ fun r hr _ => ?_
  rcases hcond with hnone | hself
  · rw [hnone] at hr
    cases hr
  · exact Option.some.inj (hself.symm.trans hr)

end Frames

/-! ## Revivals that end without success -/

/-- **What a task has left to do whose revival was dropped**: plain operations, then it gives the
lock back. -/
def Task.Abandons (t : Task) : Prop :=
  t.onError = [] ∧ ∃ pre : List Op, (∀ o ∈ pre, o.plain) ∧ t.prog = pre ++ [.control .abandon]

def Task.Persists (t : Task) : Prop :=
  .control .abandon ∉ t.prog ∧ .control .abandon ∉ t.onError

section Abandoned

variable {w w' : World} {s' : Shared} {i : ℕ} {t t' : Task} {c : Choice} {op : Op}
  {rest : List Op} {new : List Task}

lemma abandon_not_mem_of_plain {ops : List Op} (h : ∀ o ∈ ops, o.plain) :
    .control .abandon ∉ ops :=
  fun hmem => ne_control_of_plain (h _ hmem) .abandon rfl

lemma Continues.persists (h : Continues op t t') (ht : t.Persists) : t'.Persists := by
  have happend {ops ops' : List Op} (hops : ∀ o ∈ ops, o.plain)
      (hops' : .control .abandon ∉ ops') : .control .abandon ∉ ops ++ ops' := fun hmem =>
    (mem_append.1 hmem).elim (abandon_not_mem_of_plain hops) hops'
  have hquiet {ops : List Op} (h : ∀ o ∈ ops, o.quiet) : ∀ o ∈ ops, o.plain := fun o ho =>
    (Bool.and_eq_true_iff.1 (h o ho)).1
  cases h with
  | keep hp he => exact ⟨hp ▸ ht.1, he ▸ ht.2⟩
  | push ops hops hp he => exact ⟨hp ▸ happend (hquiet hops) ht.1, he ▸ ht.2⟩
  | lenient ops _ hops hp he => exact ⟨hp ▸ happend hops ht.1, he ▸ ht.2⟩
  | replace ops hops hp he => exact ⟨hp ▸ abandon_not_mem_of_plain hops, he ▸ ht.2⟩
  | fail pre hpre heq =>
    subst heq
    refine ⟨?_, not_mem_nil⟩
    rw [Task.fail, append_assoc]
    exact happend hpre (happend (hquiet plain_unwind) ht.2)

lemma Continues.abandons (h : Continues op t t') (hop : op.plain) (ht : t.Abandons) :
    t'.Abandons ∨ t'.Persists := by
  obtain ⟨herr, pre, hpre, hprog⟩ := ht
  have hpush {ops : List Op} (hops : ∀ o ∈ ops, o.plain) : ∀ o ∈ ops ++ pre, o.plain :=
    fun o ho => (mem_append.1 ho).elim (hops o) (hpre o)
  cases h with
  | keep hp he => exact .inl ⟨he ▸ herr, pre, hpre, hp ▸ hprog⟩
  | push ops hops hp he =>
    have hops : ∀ o ∈ ops, o.plain := fun o ho => (Bool.and_eq_true_iff.1 (hops o ho)).1
    exact .inl ⟨he ▸ herr, ops ++ pre, hpush hops, by rw [hp, hprog, append_assoc]⟩
  | lenient ops hlenient => simp [hop] at hlenient
  | replace ops hops hp he => exact .inr ⟨hp ▸ abandon_not_mem_of_plain hops, by simp [he, herr]⟩
  | fail pre' hpre' heq =>
    subst heq
    refine .inr ⟨?_, not_mem_nil⟩
    rw [Task.fail, herr, append_nil]
    refine abandon_not_mem_of_plain fun o ho => ?_
    rcases mem_append.1 ho with h | h
    · exact hpre' o h
    · exact (Bool.and_eq_true_iff.1 (plain_unwind o h)).1

lemma ControlEffect.persists {o : ControlOp} {s : Shared} (h : ControlEffect s i t o s' t' new)
    (ht : t.Persists) : t'.Persists := by
  cases h with
  | received subs malformed =>
    refine ⟨fun hmem => ?_, ht.2⟩
    have := eq_receive_of_mem_handleFrame hmem
    simp at this
  | receiveFailed => exact ⟨by simp [fanErrorToWaiters], ht.2⟩
  | notNeeded | otherRevival | notDead | coolingDown => exact ⟨by simp, ht.2⟩
  | attempt first left =>
    have hbody : .control .abandon ∉ attemptBody first := by cases first <;> decide
    refine ⟨hbody, ?_⟩
    simp only [attemptFailed]
    split <;> simp [markDead, fanErrorToWaiters]
  | dialFailed =>
    have hcont : Continues (.control .dial) t (t.fail []) := continues_fail
    exact hcont.persists ht
  | revived | giveUp | abandon => exact ⟨ht.1, not_mem_nil⟩
  | unlock => exact ⟨not_mem_nil, not_mem_nil⟩
  | _ => exact ht

lemma Effect.continues {s : Shared} (h : Effect s i t c op s' t' new)
    (hop : ∀ o, op ≠ .control o) : Continues op t t' := by
  cases h with
  | credit h => exact h.continues
  | session h => exact h.continues
  | waiter h => exact h.continues
  | queue h => exact h.continues
  | control => exact absurd rfl (hop _)

lemma Effect.modeOf_dead {s : Shared} (h : Effect s i t c op s' t' new) (hop : op.plain)
    (hm : s.revival.modeOf i = .dead) : s'.revival.modeOf i = .dead := by
  cases h with
  | waiter h =>
    have hmode := (lock_of_modeOf hm (by simp)).2
    simpa [Revival.afterWaiter, hmode] using hm
  | control => simp [Op.plain] at hop
  | _ => exact hm

/-- **The invariant**: a task whose revival was dropped finds the connection dead. -/
def Withdrawn (w : World) : Prop :=
  ∀ i t, w.tasks[i]? = some t →
    t.Persists ∨ w.shared.revival.modeOf i = .dead ∧ t.Abandons

lemma Effect.withdrawn (h : Effect w.shared i { t with prog := rest } c op s' t' new)
    (hop : t.prog = op :: rest)
    (ht : t.Persists ∨ w.shared.revival.modeOf i = .dead ∧ t.Abandons) :
    t'.Persists ∨ s'.revival.modeOf i = .dead ∧ t'.Abandons := by
  rcases ht with hpersists | ⟨hm, herr, pre, hpre, hprog⟩
  · have hrest : Task.Persists { t with prog := rest } :=
      ⟨fun hmem => hpersists.1 (hop ▸ mem_cons_of_mem op hmem), hpersists.2⟩
    by_cases hcontrol : ∃ o, op = .control o
    · obtain ⟨o, rfl⟩ := hcontrol
      cases h with
      | control h => exact .inl (h.persists hrest)
    · exact .inl ((h.continues fun o ho => hcontrol ⟨o, ho⟩).persists hrest)
  · cases pre with
    | nil =>
      -- the lock is given back, and nothing is left
      obtain ⟨rfl, rfl⟩ : op = .control .abandon ∧ rest = [] := by
        simpa using hop.symm.trans hprog
      cases h with
      | control h =>
        cases h
        exact .inl ⟨not_mem_nil, not_mem_nil⟩
    | cons o pre =>
      obtain ⟨rfl, rfl⟩ : op = o ∧ rest = pre ++ [.control .abandon] := by
        simpa using hop.symm.trans hprog
      have hplain := hpre op (mem_cons_self ..)
      have hcont := h.continues (ne_control_of_plain hplain)
      rcases hcont.abandons hplain ⟨herr, pre, fun o ho => hpre o (mem_cons_of_mem _ ho), rfl⟩
        with hab | hper
      · exact .inr ⟨h.modeOf_dead hplain hm, hab⟩
      · exact .inl hper

lemma persists_plumbingTasks (gen pool : ℕ) : ∀ u ∈ plumbingTasks gen pool, u.Persists := by
  intro u hu
  rcases mem_pair.1 hu with rfl | rfl <;> simp [Task.Persists, writerLoop, receiverLoop]

lemma persists_call (call : Call) (pool : ℕ) : (Call.task call pool).Persists := by
  refine ⟨?_, not_mem_nil⟩
  cases call with
  | compound charges => exact control_not_mem_executeCompound charges _
  | reconnect attempts => cases attempts <;> simp [Call.task, Call.program, reconnectIfNeeded]
  | execute | executeCapturing | dispatch | cancel =>
    simp [Call.task, Call.program, executeWithCredits, executeCapturingRequest,
      dispatchWithCredits, dispatchReserved, sendCancel, startRequest, reserveCredits,
      buildRequest, sendAndCount, awaitReply]
  | echo | authenticate | markDead => exact of_decide_eq_true rfl

lemma Withdrawn.tasks_set (hw : Withdrawn w) (ht : w.tasks[i]? = some t)
    (hself : t'.Persists ∨ s'.revival.modeOf i = .dead ∧ t'.Abandons)
    (hothers : ∀ j ≠ i, s'.revival.modeOf j = w.shared.revival.modeOf j)
    (hnew : ∀ u ∈ new, u.Persists) : Withdrawn ⟨s', w.tasks.set i t' ++ new⟩ := by
  intro j u hu
  by_cases hj : j = i
  · subst hj
    rw [getElem?_set_append_self ht] at hu
    obtain rfl := Option.some.inj hu
    exact hself
  · cases hold : w.tasks[j]? with
    | some v =>
      rw [getElem?_set_append_of_ne hold hj] at hu
      obtain rfl := Option.some.inj hu
      rw [hothers j hj]
      exact hw j _ hold
    | none =>
      have hlen : w.tasks.length ≤ j := getElem?_eq_none_iff.1 hold
      rw [getElem?_append_right (by simpa using hlen)] at hu
      exact .inl (hnew u (mem_of_getElem? hu))

/-- **A revival that is not dropped while the session is half built finds the connection dead when
it gives the lock back.** -/
theorem withdrawn_of_step {a : Action} (hw : Withdrawn w) (hrevivable : Revivable w)
    (hC : w.secluded a) (h : step w a = some w') : Withdrawn w' := by
  have hlost {i : ℕ} {t t' : Task} (ht : w.tasks[i]? = some t)
      (hself : t'.Persists ∨ w.shared.revival.modeOf i = .dead ∧ t'.Abandons) :
      Withdrawn { w with tasks := w.tasks.set i t' } := by
    rw [← append_nil (w.tasks.set i t')]
    exact hw.tasks_set ht hself (fun _ _ => rfl) (by simp)
  cases stepped_of_step h with
  | spawn call =>
    intro j u hu
    by_cases hj : j < w.tasks.length
    · rw [getElem?_append_left hj] at hu
      exact hw j u hu
    · rw [getElem?_append_right (by omega)] at hu
      obtain rfl := mem_singleton.1 (mem_of_getElem? hu)
      exact .inl (persists_call call _)
  | run ht hop heffect =>
    exact hw.tasks_set ht (heffect.withdrawn hop (hw _ _ ht))
      (fun j hj => heffect.modeOf_of_ne hrevivable ht hop hj)
      (heffect.forall_new persists_plumbingTasks)
  | @drop i t ht hrole hparked =>
    refine hlost ht ?_
    have hhalf : w.shared.revival.modeOf i ≠ .halfBuilt := of_decide_eq_true hC
    by_cases hlock : w.shared.revival.lock = some i
    · have hdead := (hrevivable.mode_of_parked ht hlock hparked).resolve_right hhalf
      refine .inr ⟨hdead, rfl, unwind, fun o ho => ?_, by simp [Task.dropped, hlock]⟩
      exact (Bool.and_eq_true_iff.1 (plain_unwind o ho)).1
    · exact .inl ⟨by simp [Task.dropped, hlock, unwind], not_mem_nil⟩
  | expire ht hlock hparked =>
    have hops : .control .abandon ∉ unwind ++ markDead ++ [.control .giveUp] := by decide
    exact hlost ht (.inl ⟨hops, not_mem_nil⟩)
  | @reap i t ht haborted hparked =>
    refine hlost ht (.inl ?_)
    unfold Task.reaped
    split <;> exact ⟨by simp, not_mem_nil⟩

lemma withdrawn_init : Withdrawn init := fun _ t ht =>
  .inl (persists_plumbingTasks 0 0 t (mem_of_getElem? ht))

end Abandoned

/-! ## Runs -/

/-- **A revival that ends without success leaves the connection disconnected.** -/
def EndsDead (w : World) (a : Action) (w' : World) : Prop :=
  ∀ i c t op rest, a = .run i c → w.tasks[i]? = some t → t.prog = op :: rest →
    op = .control .giveUp ∨ op = .control .abandon → w'.shared.routing.disconnected = true

lemma endsDead_of_step {w w' : World} {a : Action} (hw : Withdrawn w) (hrevivable : Revivable w)
    (h : step w a = some w') : EndsDead w a w' := by
  rintro i c t op rest rfl ht hop hend
  have hdead : w.shared.revival.modeOf i = .dead := by
    rcases hend with rfl | rfl
    · exact mem_singleton.1 (hrevivable.mem_modes ht hop)
    · rcases hw i t ht with hper | ⟨hm, -⟩
      · exact absurd (hop ▸ mem_cons_self ..) hper.1
      · exact hm
  have hdisc := hrevivable.disconnected (.inl (lock_of_modeOf hdead (by simp)).2)
  cases stepped_of_step h with
  | run ht' hop' heffect =>
    obtain rfl := Option.some.inj (ht.symm.trans ht')
    obtain ⟨rfl, rfl⟩ := cons.inj (hop.symm.trans hop')
    have hrouting := heffect.routing_eq (by rcases hend with rfl | rfl <;> simp)
      (by rcases hend with rfl | rfl <;> simp)
    rw [hrouting]
    exact hdisc

/-- **A half-built session is not usable.** In every run in which, while a session is half built,
no task but its reviver looks up the queue of its transport and the reviver's future is not
dropped, the frames handed to that transport before the session stands are the reviver's own, and
every revival that ends without success leaves the connection disconnected. -/
theorem halfBuilt_unusable {run : List Action} {w : World}
    (hrun : Transition.exec step init run = some w)
    (hcond : Along step (fun w a _ => w.secluded a) init run) :
    (∀ r, w.shared.revival.building = some r →
        ∀ f ∈ (w.shared.plumbing.queues w.shared.plumbing.writeTx).wire, f.owner = r) ∧
      Along step EndsDead init run := by
  constructor
  · have hcarried : Wired w ∧ Carried (BuiltAlone w.shared) w := by
      refine exec_invariant (I := fun w => Wired w ∧ Carried (BuiltAlone w.shared) w)
        (fun w a w' hw hC h => ?_) ⟨wired_init, carried_init⟩ hrun hcond
      exact ⟨wired_of_step hw.1 h, carried_builtAlone hw.2 hw.1 hC h⟩
    exact fun r hr f hf => hcarried.2.sent _ le_rfl f hf r hr rfl
  · refine along_of_invariant (I := fun w => Revivable w ∧ Withdrawn w)
      (fun w a w' hw hC h => ?_) ⟨revivable_init, withdrawn_init⟩ hcond
    exact ⟨⟨revivable_of_step hw.1 h, withdrawn_of_step hw.2 hw.1 hC h⟩,
      endsDead_of_step hw.2 hw.1 h⟩

def expiredRevival : List Action := revivedConnection ++ .expire 3 :: turns 3 9

set_option maxRecDepth 4000 in
theorem halfBuilt_unusable_expiredRevival :
    ∃ w, Transition.exec step init expiredRevival = some w ∧
      ((∀ r, w.shared.revival.building = some r →
          ∀ f ∈ (w.shared.plumbing.queues w.shared.plumbing.writeTx).wire, f.owner = r) ∧
        Along step EndsDead init expiredRevival) :=
  ⟨_, rfl, halfBuilt_unusable (show Transition.exec step init expiredRevival = some _ from rfl)
    (by decide)⟩

def earlyRequest : List Action :=
  .spawn .markDead :: turns 2 4 ++ .spawn (.reconnect 1) :: turns 3 18 ++
    .spawn (.execute 1) :: turns 6 12 ++ turns 4 1

def droppedRevival : List Action := revivedConnection ++ .drop 3 :: turns 3 4

lemma droppedRevival_abandon : ∃ w w' t, Transition.exec step init droppedRevival = some w ∧
    step w (.run 3 .go) = some w' ∧ w.tasks[3]? = some t ∧ t.prog = [.control .abandon] ∧
    w'.shared.routing.disconnected = false :=
  ⟨_, _, _, rfl, rfl, rfl, rfl, rfl⟩

/-- **A half-built session is used by another caller, and one whose revival was dropped looks
alive.** -/
theorem halfBuilt_used :
    (∃ w, Transition.exec step init earlyRequest = some w ∧ w.shared.revival.building = some 3 ∧
      ∃ f ∈ (w.shared.plumbing.queues w.shared.plumbing.writeTx).wire, f.owner ≠ 3) ∧
    ¬ Along step EndsDead init (droppedRevival ++ [.run 3 .go]) := by
  refine ⟨⟨_, rfl, rfl, _, mem_singleton_self _, by decide⟩, fun h => ?_⟩
  obtain ⟨w, w', t, hrun, hstep, ht, hop, hdisc⟩ := droppedRevival_abandon
  have hdead := h.at_step hrun hstep 3 .go t _ [] rfl ht hop (.inr rfl)
  rw [hdisc] at hdead
  cases hdead

end Smb2.Connection
