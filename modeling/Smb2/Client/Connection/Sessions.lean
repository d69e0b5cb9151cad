import Smb2.Client.Connection.Queues

set_option autoImplicit false

/-!
# Frames and sessions

The message id, the session id, the flags and the keys of a frame are read at different moments
under different locks, and the queue that the frame goes into is looked up last. This file shows
that a frame that is built in one go, without `install_transport` swapping a part of the session
between its first read and the look at the queue, belongs as a whole to the transport that it is
handed to.
-/

open List

namespace Smb2.Connection

open Transition

/-- **A frame of generation `g`**: every part of the session that went into it, and every message
id, is of that generation. -/
def Outgoing.Fits (g : ℕ) (f : Outgoing) : Prop :=
  (∀ p ∈ f.stamps, p.2 = g) ∧ ∀ s ∈ f.subs, s.epoch = g

instance (g : ℕ) (f : Outgoing) : Decidable (f.Fits g) :=
  inferInstanceAs (Decidable (_ ∧ _))

/-- The session and the queue are of one generation: no `install_transport` is between its reset
of the message ids and its swap of the queue. -/
def Shared.Steady (s : Shared) : Prop :=
  s.session.idEpoch = s.plumbing.writeTx ∧ s.session.cryptoEpoch = s.plumbing.writeTx

instance (s : Shared) : Decidable s.Steady := inferInstanceAs (Decidable (_ ∧ _))

/-- When the next operation of a task keeps frames in one piece: no part of the session was swapped
since the first part was read and none is being swapped when the queue is looked up, and a
CANCEL is for a request of the live generation. -/
def Op.undivided (s : Shared) (t : Task) : Op → Bool
  | .queue .snapshot => t.begun = s.session.swaps ∧ s.Steady
  | .session (.cancelOf _ epoch) => epoch = s.session.idEpoch
  | _ => true

/-- **A step that divides no frame between two sessions.** -/
def World.undivided (w : World) : Action → Bool
  | .run i _ => ∀ t ∈ w.tasks[i]?, ∀ op ∈ t.prog.head?, op.undivided w.shared t
  | _ => true

def Task.Uniform (g : ℕ) (t : Task) : Prop :=
  (∀ p ∈ t.stamps, p.2 = g) ∧ ∀ s ∈ t.ready ++ t.subs, s.epoch = g

/-- **The parts that a task has read**: there is no id without a note of its generation, and if
nothing was swapped since the first read and nothing is being swapped, all parts are of the live
generation. -/
structure Task.Built (s : Shared) (t : Task) : Prop where
  noted : t.stamps = [] → t.ready ++ t.subs = []
  begun_le : t.stamps ≠ [] → t.begun ≤ s.session.swaps
  uniform : t.stamps ≠ [] → t.begun = s.session.swaps → s.Steady → t.Uniform s.plumbing.writeTx

section Operations

variable {s s' : Shared} {i : ℕ} {t t' : Task} {c : Choice} {op : Op} {new : List Task}

lemma Effect.swaps (h : Effect s i t c op s' t' new) :
    s'.session.swaps = s.session.swaps + 1 ∨ s'.session.swaps = s.session.swaps ∧
      s'.session.idEpoch = s.session.idEpoch ∧ s'.session.cryptoEpoch = s.session.cryptoEpoch ∧
      s'.plumbing.writeTx = s.plumbing.writeTx := by
  cases h with
  | session h =>
    obtain ⟨hid, hcrypto, hswaps⟩ := h.epochs_eq
    exact .inr ⟨hswaps, hid, hcrypto, rfl⟩
  | queue h => exact .inr ⟨rfl, rfl, rfl, h.writeTx_eq⟩
  | control h =>
    cases h with
    | resetMessageId | wipeCrypto | swapQueue => exact .inl rfl
    | _ => exact .inr ⟨rfl, rfl, rfl, rfl⟩
  | _ => exact .inr ⟨rfl, rfl, rfl, rfl⟩

lemma Task.Built.of_swaps (ht : t.Built s)
    (h : s'.session.swaps = s.session.swaps + 1 ∨ s'.session.swaps = s.session.swaps ∧
      s'.session.idEpoch = s.session.idEpoch ∧ s'.session.cryptoEpoch = s.session.cryptoEpoch ∧
      s'.plumbing.writeTx = s.plumbing.writeTx) : t.Built s' := by
  rcases h with hswap | ⟨hswaps, hid, hcrypto, htx⟩
  · refine ⟨ht.noted, fun hne => ?_, fun hne hbegun => ?_⟩
    · have := ht.begun_le hne
      omega
    · have := ht.begun_le hne
      omega
  · refine ⟨ht.noted, fun hne => hswaps ▸ ht.begun_le hne, fun hne hbegun hsteady => ?_⟩
    rw [Shared.Steady, hid, hcrypto, htx] at hsteady
    rw [htx]
    exact ht.uniform hne (hswaps ▸ hbegun) hsteady

lemma built_of_nil (hstamps : t.stamps = []) (hids : t.ready ++ t.subs = []) : t.Built s :=
  ⟨fun _ => hids, fun h => absurd hstamps h, fun h => absurd hstamps h⟩

lemma Task.Built.of_eq (ht : t.Built s) (hstamps : t'.stamps = t.stamps) (hbegun : t'.begun = t.begun)
    (hids : t'.ready ++ t'.subs = t.ready ++ t.subs) : t'.Built s := by
  refine ⟨fun h => ?_, fun h => ?_, fun h hb hs => ?_⟩
  · rw [hids]
    exact ht.noted (hstamps ▸ h)
  · rw [hbegun]
    exact ht.begun_le (hstamps ▸ h)
  · rw [Task.Uniform, hstamps, hids]
    exact ht.uniform (hstamps ▸ h) (hbegun ▸ hb) hs

lemma Task.Built.of_read (ht : t.Built s) {part : Part} {epoch : ℕ}
    (hepoch : s.Steady → epoch = s.plumbing.writeTx)
    (hstamps : t'.stamps = (part, epoch) :: t.stamps)
    (hbegun : t'.begun = if t.stamps = [] then s.session.swaps else t.begun)
    (hids : ∀ x ∈ t'.ready ++ t'.subs, x ∈ t.ready ++ t.subs ∨ x.epoch = epoch) : t'.Built s := by
  refine ⟨fun h => ?_, fun _ => ?_, fun _ hb hs => ?_⟩
  · simp [hstamps] at h
  · rw [hbegun]
    split
    · exact le_rfl
    · exact ht.begun_le ‹_›
  · have hold : t.Uniform s.plumbing.writeTx := by
      by_cases hnil : t.stamps = []
      · refine ⟨by simp [hnil], ?_⟩
        rw [ht.noted hnil]
        simp
      · rw [hbegun, if_neg hnil] at hb
        exact ht.uniform hnil hb hs
    refine ⟨fun p hp => ?_, fun x hx => ?_⟩
    · rw [hstamps] at hp
      rcases mem_cons.1 hp with rfl | h
      · exact hepoch hs
      · exact hold.1 p h
    · rcases hids x hx with h | h
      · exact hold.2 x h
      · rw [h, hepoch hs]

lemma built_fail (pre : List Op) : (t.fail pre).Built s := built_of_nil rfl rfl

lemma SessionEffect.built {o : SessionOp} {x' : SessionState}
    (h : SessionEffect s.session t o x' t') (hop : Op.undivided s t (.session o)) (ht : t.Built s) :
    t'.Built s := by
  have hcrypto : s.Steady → s.session.cryptoEpoch = s.plumbing.writeTx := And.right
  cases h with
  | start => exact built_of_nil rfl rfl
  | @allocated piece rest =>
    refine ht.of_read (And.left ·) rfl rfl fun x hx => ?_
    have hx : x ∈ t.ready ++ (t.subs ++ [_]) := hx
    rw [← append_assoc, mem_append, mem_singleton] at hx
    exact hx.imp_right fun h => by rw [h]
  | cancelOf id epoch =>
    have hepoch : epoch = s.session.idEpoch := of_decide_eq_true hop
    refine ht.of_read (fun hs => hepoch.trans hs.1) rfl rfl fun x hx => ?_
    rcases mem_append.1 hx with h | h
    · exact .inr (by rw [mem_singleton.1 h])
    · exact .inl (mem_append_right _ h)
  | readSessionId | readFlags | signed | encrypted =>
    exact ht.of_read hcrypto rfl rfl fun x hx => .inl hx
  | signFailed | encryptFailed | rejected | setupFailed => exact built_fail _
  | _ => exact ht.of_eq rfl rfl rfl

lemma Effect.built (h : Effect s i t c op s' t' new) (hop : op.undivided s t) (ht : t.Built s) :
    t'.Built s' := by
  refine Task.Built.of_swaps ?_ h.swaps
  cases h with
  | session h => exact h.built hop ht
  | credit h =>
    cases h with
    | isClosed | starved | waitFailed => exact built_fail _
    | _ => exact ht.of_eq rfl rfl rfl
  | waiter h =>
    cases h with
    | disconnected | registerFailed | answerFailed | gaveUp => exact built_fail _
    | registered hsubs => exact ht.of_eq rfl rfl (by simp [hsubs])
    | _ => exact ht.of_eq rfl rfl rfl
  | queue h =>
    cases h with
    | enqueueFailed | sendFailed => exact built_fail _
    | snapshot =>
      -- the ids leave the task with the frame
      exact ⟨fun _ => rfl, ht.begun_le, fun hne hb hs => ⟨(ht.uniform hne hb hs).1, by simp⟩⟩
    | _ => exact ht.of_eq rfl rfl rfl
  | control h =>
    cases h with
    | dialFailed => exact built_fail _
    | _ => exact ht.of_eq rfl rfl rfl

lemma Task.Built.fits_outgoing (ht : t.Built s) (hbegun : t.begun = s.session.swaps)
    (hsteady : s.Steady) : (t.outgoing i).Fits s.plumbing.writeTx := by
  by_cases hnil : t.stamps = []
  · refine ⟨by simp [Task.outgoing, hnil], ?_⟩
    simp [Task.outgoing, ht.noted hnil]
  · exact ht.uniform hnil hbegun hsteady

end Operations

/-! ## Runs -/

/-- **The invariant**: what the tasks have read, and the frames on their way. -/
structure Separate (w : World) : Prop where
  wired : Wired w
  built : ∀ t ∈ w.tasks, t.Built w.shared
  carried : Carried (fun g f => f.Fits g) w

lemma undivided_op {w : World} {i : ℕ} {c : Choice} {t : Task} {op : Op} {rest : List Op}
    (h : w.undivided (.run i c)) (ht : w.tasks[i]? = some t) (hop : t.prog = op :: rest) :
    op.undivided w.shared { t with prog := rest } := by
  have hcond : op.undivided w.shared t := of_decide_eq_true h t (by simp [ht]) op (by simp [hop])
  exact hcond

lemma built_plumbingTasks (s : Shared) (gen pool : ℕ) :
    ∀ u ∈ plumbingTasks gen pool, u.Built s := by
  intro u hu
  rcases mem_pair.1 hu with rfl | rfl <;> exact built_of_nil rfl rfl

lemma built_of_step {w w' : World} {a : Action} (hw : ∀ t ∈ w.tasks, t.Built w.shared)
    (hC : w.undivided a) (h : step w a = some w') : ∀ t ∈ w'.tasks, t.Built w'.shared := by
  refine step_cases (P := fun w' => ∀ t ∈ w'.tasks, t.Built w'.shared) h (fun call _ => ?_)
    (fun i c t op rest s' t' new ha ht hop heffect => ?_) (fun i t ops _ ht _ => ?_)
  · exact forall_mem_concat hw (built_of_nil rfl rfl)
  · subst ha
    have hself : ({ t with prog := rest } : Task).Built w.shared :=
      (hw t (mem_of_getElem? ht)).of_eq rfl rfl rfl
    have hcond : op.undivided w.shared { t with prog := rest } := undivided_op hC ht hop
    exact forall_mem_set_append (heffect.built hcond hself)
      (fun u hu => (hw u hu).of_swaps heffect.swaps)
      (heffect.forall_new fun gen pool => built_plumbingTasks s' gen pool)
  · exact forall_mem_set (built_of_nil rfl rfl) hw

/-- **Every step that divides no frame keeps the invariant.** -/
theorem separate_of_step {w w' : World} {a : Action} (hw : Separate w) (hC : w.undivided a)
    (h : step w a = some w') : Separate w' := by
  refine ⟨wired_of_step hw.wired h, built_of_step hw.built hC h,
    carried_of_step hw.carried hw.wired (fun _ _ _ hf => hf) ?_ h⟩
  rintro i c t rest rfl ht hop
  have hcond := of_decide_eq_true (undivided_op hC ht hop)
  exact (hw.built t (mem_of_getElem? ht)).fits_outgoing hcond.1 hcond.2

lemma separate_init : Separate init :=
  ⟨wired_init, built_plumbingTasks _ 0 0, carried_init⟩

/-- **No frame crosses sessions.** In every run in which no part of the session is swapped between
the first read for a frame and the look at the queue, and in which a CANCEL is sent for requests
of the live generation, every frame handed to a transport carries message ids, session id, flags
and keys of the generation of that transport. -/
theorem frames_fit {run : List Action} {w : World} (hrun : Transition.exec step init run = some w)
    (hcond : Along step (fun w a _ => w.undivided a) init run) :
    ∀ g ≤ w.shared.plumbing.writeTx, ∀ f ∈ (w.shared.plumbing.queues g).wire, f.Fits g := by
  have hsep : Separate w := by
    refine exec_invariant (fun w a w' hw hC h => ?_) separate_init hrun hcond
    exact separate_of_step hw hC h
  exact hsep.carried.sent

set_option maxRecDepth 4000 in
theorem frames_fit_revivedConnection :
    ∃ w, Transition.exec step init revivedConnection = some w ∧
      ∀ g ≤ w.shared.plumbing.writeTx, ∀ f ∈ (w.shared.plumbing.queues g).wire, f.Fits g :=
  ⟨_, rfl, frames_fit (show Transition.exec step init revivedConnection = some _ from rfl)
    (by decide)⟩

/-- A request has its id, session id and flags when the connection dies and is revived; then it goes
on. -/
def strayRequest : List Action :=
  .spawn (.execute 1) :: turns 2 7 ++ .spawn .markDead :: turns 3 4 ++
    .spawn (.reconnect 1) :: turns 4 18 ++ turns 2 5 ++ turns 5 1

/-- **The new transport is handed a frame of the old session.** -/
theorem strayRequest_crosses :
    ∃ w, Transition.exec step init strayRequest = some w ∧ w.shared.plumbing.writeTx = 1 ∧
      ∃ f ∈ (w.shared.plumbing.queues 1).wire, (∀ p ∈ f.stamps, p.2 = 0) ∧ ¬ f.Fits 1 :=
  ⟨_, rfl, rfl, _, mem_singleton_self _, by decide, by decide⟩

end Smb2.Connection
