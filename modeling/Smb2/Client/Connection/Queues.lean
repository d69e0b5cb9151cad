import Smb2.Client.Connection.Effects

set_option autoImplicit false

/-!
# Writer queues

A caller and a writer task meet in a queue and in the `done` channel of each job. This file has
what every run keeps about them: the jobs of a queue have channels of their own on which nothing
has been answered yet, and a frame that was handed to the transport stays handed.
-/

open List

namespace Smb2.Connection

open Transition

def Ack.handed : Ack → Bool
  | .writing | .ok | .failed => true
  | .queued | .refused | .dropped => false

/-- **The jobs of a queue and their channels fit together.** -/
structure WriteQueue.WellFormed (x : WriteQueue) : Prop where
  queued : ∀ j ∈ x.jobs, x.acks j.seq = .queued
  lt : ∀ j ∈ x.jobs, j.seq < x.nextSeq
  nodup : (x.jobs.map Job.seq).Nodup
  fresh : ∀ seq, x.nextSeq ≤ seq → x.acks seq = .queued
  writing : ∀ j, x.writing = some j → x.acks j.seq = .writing

namespace WriteQueue

variable {x : WriteQueue} {f : Outgoing} {j : Job} {rest : List Job} {a : Ack} {seq : ℕ}

lemma wellFormed_absent : absent.WellFormed where
  queued := by simp [absent]
  lt := by simp [absent]
  nodup := by simp [absent]
  fresh _ _ := rfl
  writing := by simp [absent]

lemma wellFormed_new : new.WellFormed where
  queued := by simp [new, absent]
  lt := by simp [new, absent]
  nodup := by simp [new, absent]
  fresh _ _ := rfl
  writing := by simp [new, absent]

lemma acks_setAck_self : (x.setAck seq a).acks seq = a := by simp [setAck]

lemma acks_setAck_of_ne {seq' : ℕ} (h : seq' ≠ seq) :
    (x.setAck seq a).acks seq' = x.acks seq' := by
  simp [setAck, h]

lemma WellFormed.push (hx : x.WellFormed) : (x.push f).WellFormed where
  queued := forall_mem_concat hx.queued (hx.fresh _ le_rfl)
  lt := forall_mem_concat (fun j h => Nat.lt_succ_of_lt (hx.lt j h)) (Nat.lt_succ_self _)
  nodup := by
    simp only [WriteQueue.push, map_append, map_cons, map_nil]
    refine Nodup.append hx.nodup (nodup_singleton _) ?_
    intro s hs hs'
    obtain rfl := mem_singleton.1 hs'
    obtain ⟨j, hj, heq⟩ := mem_map.1 hs
    exact absurd heq (hx.lt j hj).ne
  fresh seq hseq := hx.fresh seq (Nat.le_of_succ_le hseq)
  writing := hx.writing

lemma WellFormed.seq_ne (hx : x.WellFormed) (hjobs : x.jobs = j :: rest) :
    ∀ j' ∈ rest, j'.seq ≠ j.seq := by
  have hnodup := hx.nodup
  rw [hjobs, map_cons, nodup_cons] at hnodup
  intro j' hj' heq
  exact hnodup.1 (heq ▸ mem_map_of_mem hj')

lemma WellFormed.ne_of_writing (hx : x.WellFormed) (hwriting : x.writing = some j)
    (hseq : x.acks seq = .queued) : seq ≠ j.seq := by
  rintro rfl
  simp [hx.writing j hwriting] at hseq

lemma WellFormed.pop (hx : x.WellFormed) (hjobs : x.jobs = j :: rest) {writing : Option Job}
    {wire : List Outgoing}
    (hwriting : ∀ j', writing = some j' → (x.setAck j.seq a).acks j'.seq = .writing) :
    WellFormed { x.setAck j.seq a with jobs := rest, writing, wire } where
  queued j' hj' := by
    rw [acks_setAck_of_ne (hx.seq_ne hjobs j' hj')]
    exact hx.queued j' (hjobs ▸ mem_cons_of_mem j hj')
  lt j' hj' := hx.lt j' (hjobs ▸ mem_cons_of_mem j hj')
  nodup := by
    have hnodup := hx.nodup
    rw [hjobs, map_cons, nodup_cons] at hnodup
    exact hnodup.2
  fresh seq hseq := by
    have hlt : j.seq < x.nextSeq := hx.lt j (hjobs ▸ mem_cons_self ..)
    rw [acks_setAck_of_ne (hlt.trans_le hseq).ne']
    exact hx.fresh seq hseq
  writing := hwriting

lemma WellFormed.beginWrite (hx : x.WellFormed) (hjobs : x.jobs = j :: rest) :
    (x.beginWrite j rest).WellFormed :=
  hx.pop hjobs fun j' hj' => by
    obtain rfl := Option.some.inj hj'
    exact acks_setAck_self

lemma WellFormed.refuseWrite (hx : x.WellFormed) (hjobs : x.jobs = j :: rest) :
    (x.refuseWrite j rest).WellFormed :=
  hx.pop hjobs fun j' hj' => by
    have hq := hx.queued j (hjobs ▸ mem_cons_self ..)
    rw [acks_setAck_of_ne (hx.ne_of_writing hj' hq).symm]
    exact hx.writing j' hj'

lemma WellFormed.endWrite (hx : x.WellFormed) (hwriting : x.writing = some j) :
    (x.endWrite j a).WellFormed where
  queued j' hj' := by
    have hq := hx.queued j' hj'
    rw [WriteQueue.endWrite, acks_setAck_of_ne (hx.ne_of_writing hwriting hq), hq]
  lt := hx.lt
  nodup := hx.nodup
  fresh seq hseq := by
    have hq := hx.fresh seq hseq
    rw [WriteQueue.endWrite, acks_setAck_of_ne (hx.ne_of_writing hwriting hq), hq]
  writing := by simp [WriteQueue.endWrite]

lemma WellFormed.shut (hx : x.WellFormed) : x.shut.WellFormed where
  queued := by simp [WriteQueue.shut]
  lt := by simp [WriteQueue.shut]
  nodup := by simp [WriteQueue.shut]
  fresh seq hseq := by
    have hq := hx.fresh seq hseq
    have hjobs : seq ∉ x.jobs.map Job.seq := by
      intro h
      obtain ⟨j, hj, rfl⟩ := mem_map.1 h
      exact absurd (hx.lt j hj) (Nat.not_lt.2 hseq)
    have hwriting : seq ∉ x.writing.map Job.seq := by
      intro h
      obtain ⟨j, hj, rfl⟩ := Option.map_eq_some_iff.1 h
      exact hx.ne_of_writing hj hq rfl
    simp only [WriteQueue.shut, hjobs, hwriting, if_false, hq]
  writing := by simp [WriteQueue.shut]

/-! ### Frames that were handed to the transport -/

lemma handed_setAck (ha : (x.acks seq).handed → a.handed) {seq' : ℕ}
    (h : (x.acks seq').handed) : ((x.setAck seq a).acks seq').handed := by
  by_cases hseq : seq' = seq
  · subst hseq
    rw [acks_setAck_self]
    exact ha h
  · rwa [acks_setAck_of_ne hseq]

lemma WellFormed.handed_shut (hx : x.WellFormed) (h : (x.acks seq).handed) :
    (x.shut.acks seq).handed := by
  have hjobs : seq ∉ x.jobs.map Job.seq := by
    intro hmem
    obtain ⟨j, hj, rfl⟩ := mem_map.1 hmem
    simp [hx.queued j hj, Ack.handed] at h
  simp only [WriteQueue.shut, hjobs, if_false]
  split
  · rfl
  · exact h

end WriteQueue

/-! ## Queue operations -/

section Operations

variable {q q' : Plumbing} {i : ℕ} {t t' : Task} {c : Choice} {o : QueueOp}

@[simp] lemma Plumbing.queues_set_self {gen : ℕ} {x : WriteQueue} :
    (q.set gen x).queues gen = x := by
  simp [Plumbing.set]

lemma Plumbing.queues_set_of_ne {gen gen' : ℕ} {x : WriteQueue} (h : gen' ≠ gen) :
    (q.set gen x).queues gen' = q.queues gen' := by
  simp [Plumbing.set, h]

lemma Plumbing.forall_queues_set {P : ℕ → WriteQueue → Prop} {gen : ℕ} {x : WriteQueue}
    (hx : P gen x) (hq : ∀ g, P g (q.queues g)) (g : ℕ) : P g ((q.set gen x).queues g) := by
  by_cases hg : g = gen
  · subst hg
    simpa using hx
  · rw [queues_set_of_ne hg]
    exact hq g

lemma QueueEffect.wellFormed (h : QueueEffect q i t c o q' t')
    (hq : ∀ g, (q.queues g).WellFormed) (g : ℕ) : (q'.queues g).WellFormed := by
  have hset {gen : ℕ} {x : WriteQueue} (hx : x.WellFormed) :
      ((q.set gen x).queues g).WellFormed :=
    Plumbing.forall_queues_set (P := fun _ => WriteQueue.WellFormed) hx hq g
  cases h with
  | enqueued => exact hset (hq _).push
  | began hjobs => exact hset ((hq _).beginWrite hjobs)
  | refused hjobs => exact hset ((hq _).refuseWrite hjobs)
  | finished hwriting | broke hwriting => exact hset ((hq _).endWrite hwriting)
  | exited => exact hset (hq _).shut
  | _ => exact hq g

lemma QueueEffect.handed_of_handed (h : QueueEffect q i t c o q' t')
    (hq : ∀ g, (q.queues g).WellFormed) (g seq : ℕ) (hh : ((q.queues g).acks seq).handed) :
    ((q'.queues g).acks seq).handed := by
  have hset {gen : ℕ} {x : WriteQueue}
      (hx : ∀ seq, ((q.queues gen).acks seq).handed → (x.acks seq).handed) :
      (((q.set gen x).queues g).acks seq).handed := by
    by_cases hg : g = gen
    · subst hg
      simpa using hx seq hh
    · rwa [Plumbing.queues_set_of_ne hg]
  cases h with
  | enqueued => exact hset fun _ h => h
  | began => exact hset fun _ => WriteQueue.handed_setAck fun _ => rfl
  | @refused gen j rest hjobs hc =>
    refine hset fun _ => WriteQueue.handed_setAck fun h => ?_
    simp [(hq gen).queued j (hjobs ▸ mem_cons_self ..), Ack.handed] at h
  | finished | broke => exact hset fun _ => WriteQueue.handed_setAck fun _ => rfl
  | exited gen => exact hset fun _ => (hq gen).handed_shut
  | _ => exact hh

def Task.Addressed (n : ℕ) (t : Task) : Prop :=
  (∀ a, t.ack = some a → a.1 ≤ n) ∧ ∀ f, t.outbox = some f → f.1 ≤ n

lemma Task.Addressed.of_mail {n n' : ℕ} (ht : t.Addressed n) (hn : n ≤ n')
    (hack : t'.ack = t.ack ∨ t'.ack = none) (hout : t'.outbox = t.outbox ∨ t'.outbox = none) :
    t'.Addressed n' := by
  constructor
  · intro a ha
    rcases hack with h | h
    · exact (ht.1 a (h ▸ ha)).trans hn
    · simp [h] at ha
  · intro f hf
    rcases hout with h | h
    · exact (ht.2 f (h ▸ hf)).trans hn
    · simp [h] at hf

lemma Effect.mail {s s' : Shared} {op : Op} {new : List Task} (h : Effect s i t c op s' t' new)
    (hop : ∀ o, op ≠ .queue o) :
    (t'.ack = t.ack ∨ t'.ack = none) ∧ (t'.outbox = t.outbox ∨ t'.outbox = none) := by
  have hsame : (t.ack = t.ack ∨ t.ack = none) ∧ (t.outbox = t.outbox ∨ t.outbox = none) :=
    ⟨.inl rfl, .inl rfl⟩
  have hnone {a b : Prop} : (a ∨ (none : Option (ℕ × ℕ)) = none) ∧
    (b ∨ (none : Option (ℕ × Outgoing)) = none) := ⟨.inr rfl, .inr rfl⟩
  cases h with
  | queue => exact absurd rfl (hop _)
  | credit h =>
    cases h with
    | isClosed | starved | waitFailed => exact hnone
    | _ => exact hsame
  | session h =>
    cases h with
    | start | signFailed | encryptFailed | rejected | setupFailed => exact hnone
    | _ => exact hsame
  | waiter h =>
    cases h with
    | disconnected | registerFailed | answerFailed | gaveUp => exact hnone
    | _ => exact hsame
  | control h =>
    cases h with
    | dialFailed => exact hnone
    | _ => exact hsame

lemma QueueEffect.addressed (h : QueueEffect q i t c o q' t') (ht : t.Addressed q.writeTx) :
    t'.Addressed q.writeTx := by
  cases h with
  | snapshot => exact ⟨ht.1, fun f hf => by obtain rfl := Option.some.inj hf; exact le_rfl⟩
  | enqueued hout =>
    refine ⟨fun a ha => ?_, by simp⟩
    obtain rfl := Option.some.inj ha
    exact ht.2 _ hout
  | enqueueFailed | sendFailed => exact ⟨by simp [Task.fail], by simp [Task.fail]⟩
  | _ => exact ht

end Operations

/-! ## The invariant -/

/-- **All queues are well formed, and every task refers to queues that exist.** -/
structure Wired (w : World) : Prop where
  wellFormed : ∀ g, (w.shared.plumbing.queues g).WellFormed
  addressed : ∀ t ∈ w.tasks, t.Addressed w.shared.plumbing.writeTx

lemma addressed_plumbingTasks (gen pool n : ℕ) : ∀ u ∈ plumbingTasks gen pool, u.Addressed n := by
  intro u hu
  rcases mem_pair.1 hu with rfl | rfl <;> exact ⟨by simp, by simp⟩

lemma Effect.wired {w : World} {s' : Shared} {i : ℕ} {t t' : Task} {c : Choice} {op : Op}
    {rest : List Op} {new : List Task}
    (h : Effect w.shared i { t with prog := rest } c op s' t' new) (hw : Wired w)
    (ht : w.tasks[i]? = some t) : Wired ⟨s', w.tasks.set i t' ++ new⟩ := by
  have hself : ({ t with prog := rest } : Task).Addressed w.shared.plumbing.writeTx :=
    hw.addressed t (mem_of_getElem? ht)
  by_cases hop : ∃ o, op = .queue o
  · obtain ⟨o, rfl⟩ := hop
    cases h with
    | queue h =>
      refine ⟨h.wellFormed hw.wellFormed, ?_⟩
      rw [h.writeTx_eq]
      exact forall_mem_set_append (h.addressed hself) hw.addressed (by simp)
  · have hne : ∀ o, op ≠ .queue o := fun o ho => hop ⟨o, ho⟩
    obtain ⟨hack, hout⟩ := h.mail hne
    have hmail {n : ℕ} (hn : w.shared.plumbing.writeTx ≤ n) :
        ∀ u ∈ w.tasks.set i t' ++ new, u.Addressed n :=
      forall_mem_set_append (hself.of_mail hn hack hout)
        (fun u hu => (hw.addressed u hu).of_mail hn (.inl rfl) (.inl rfl))
        (h.forall_new fun gen pool => addressed_plumbingTasks gen pool n)
    by_cases hswap : op = .control .swapQueue
    · subst hswap
      cases h with
      | control h =>
        cases h with
        | swapQueue =>
          refine ⟨Plumbing.forall_queues_set (P := fun _ => WriteQueue.WellFormed)
            WriteQueue.wellFormed_new hw.wellFormed, hmail (Nat.le_succ _)⟩
    · have hplumbing := h.plumbing_eq hne hswap
      exact ⟨by rw [hplumbing]; exact hw.wellFormed, by rw [hplumbing]; exact hmail le_rfl⟩

theorem wired_of_step {w w' : World} {a : Action} (hw : Wired w) (h : step w a = some w') :
    Wired w' := by
  refine step_cases h (fun call _ => ?_) (fun i c t op rest s' t' new _ ht hop heffect => ?_)
    (fun i t ops _ ht _ => ?_)
  · exact ⟨hw.wellFormed,
      forall_mem_concat hw.addressed ⟨by simp [Call.task], by simp [Call.task]⟩⟩
  · exact heffect.wired hw ht
  · exact ⟨hw.wellFormed,
      forall_mem_set ⟨by simp [Task.lost, Task.fail], by simp [Task.lost, Task.fail]⟩ hw.addressed⟩

lemma wired_init : Wired init := by
  refine ⟨fun g => ?_, addressed_plumbingTasks 0 0 0⟩
  simp only [init]
  split
  · exact WriteQueue.wellFormed_new
  · exact WriteQueue.wellFormed_absent

/-! ## Frames on their way -/

/-- **Every frame on its way satisfies `P`**, which may depend on the queue: the frames that tasks
have packed for a queue, those in the queues and those that the transports were handed. -/
structure Carried (P : ℕ → Outgoing → Prop) (w : World) : Prop where
  packed : ∀ t ∈ w.tasks, ∀ o, t.outbox = some o → P o.1 o.2
  queued : ∀ g, g ≤ w.shared.plumbing.writeTx → ∀ j ∈ (w.shared.plumbing.queues g).jobs, P g j.frame
  sent : ∀ g, g ≤ w.shared.plumbing.writeTx → ∀ f ∈ (w.shared.plumbing.queues g).wire, P g f

section Carried

variable {P P' : ℕ → Outgoing → Prop} {w : World} {s' : Shared} {i : ℕ} {t t' : Task} {c : Choice}
  {rest : List Op} {new : List Task}

lemma Carried.of_queue (hw : Carried P w) {gen : ℕ} {x : WriteQueue}
    (hmono : ∀ g ≤ w.shared.plumbing.writeTx, ∀ f, P g f → P' g f)
    (hwired : Wired w) (hout : ∀ o, t'.outbox = some o → P' o.1 o.2)
    (hjobs : gen ≤ w.shared.plumbing.writeTx → ∀ j ∈ x.jobs, P' gen j.frame)
    (hwire : gen ≤ w.shared.plumbing.writeTx → ∀ f ∈ x.wire, P' gen f) :
    Carried P' ⟨{ w.shared with plumbing := w.shared.plumbing.set gen x },
      w.tasks.set i t' ++ []⟩ where
  packed := forall_mem_set_append hout
    (fun u hu o ho => hmono _ ((hwired.addressed u hu).2 o ho) _ (hw.packed u hu o ho)) (by simp)
  queued g hg j hj := by
    by_cases hgen : g = gen
    · subst hgen
      simp only [Plumbing.queues_set_self] at hj
      exact hjobs hg j hj
    · rw [Plumbing.queues_set_of_ne hgen] at hj
      exact hmono g hg _ (hw.queued g hg j hj)
  sent g hg f hf := by
    by_cases hgen : g = gen
    · subst hgen
      simp only [Plumbing.queues_set_self] at hf
      exact hwire hg f hf
    · rw [Plumbing.queues_set_of_ne hgen] at hf
      exact hmono g hg _ (hw.sent g hg f hf)

lemma Carried.of_plumbing_eq (hw : Carried P w)
    (hmono : ∀ g ≤ w.shared.plumbing.writeTx, ∀ f, P g f → P' g f) (hwired : Wired w)
    (hout : ∀ o, t'.outbox = some o → P' o.1 o.2) (hnew : ∀ u ∈ new, u.outbox = none)
    (hplumbing : s'.plumbing = w.shared.plumbing) :
    Carried P' ⟨s', w.tasks.set i t' ++ new⟩ where
  packed := forall_mem_set_append hout
    (fun u hu o ho => hmono _ ((hwired.addressed u hu).2 o ho) _ (hw.packed u hu o ho))
    (fun u hu o ho => by simp [hnew u hu] at ho)
  queued g hg j hj := by
    rw [hplumbing] at hg hj
    exact hmono g hg _ (hw.queued g hg j hj)
  sent g hg f hf := by
    rw [hplumbing] at hg hf
    exact hmono g hg _ (hw.sent g hg f hf)

lemma QueueEffect.carried {o : QueueOp} {q' : Plumbing}
    (h : QueueEffect w.shared.plumbing i { t with prog := rest } c o q' t') (hw : Carried P w)
    (hwired : Wired w) (ht : w.tasks[i]? = some t)
    (hmono : ∀ g ≤ w.shared.plumbing.writeTx, ∀ f, P g f → P' g f)
    (hpack : o = .snapshot → P' w.shared.plumbing.writeTx (t.outgoing i)) :
    Carried P' ⟨{ w.shared with plumbing := q' }, w.tasks.set i t' ++ []⟩ := by
  have hmem := mem_of_getElem? ht
  have hout : ∀ o, t.outbox = some o → P' o.1 o.2 := fun o ho =>
    hmono _ ((hwired.addressed t hmem).2 o ho) _ (hw.packed t hmem o ho)
  have hjobs {g : ℕ} (hg : g ≤ w.shared.plumbing.writeTx) :
      ∀ j ∈ (w.shared.plumbing.queues g).jobs, P' g j.frame := fun j hj =>
    hmono g hg _ (hw.queued g hg j hj)
  have hwire {g : ℕ} (hg : g ≤ w.shared.plumbing.writeTx) :
      ∀ f ∈ (w.shared.plumbing.queues g).wire, P' g f := fun f hf =>
    hmono g hg _ (hw.sent g hg f hf)
  cases h with
  | snapshot =>
    refine hw.of_plumbing_eq hmono hwired (fun o ho => ?_) (by simp) rfl
    obtain rfl := Option.some.inj ho
    exact hpack rfl
  | enqueued ho =>
    exact hw.of_queue hmono hwired (by simp)
      (fun hg => forall_mem_concat (hjobs hg) (hout _ ho)) hwire
  | enqueueFailed | sendFailed =>
    exact hw.of_plumbing_eq hmono hwired (by simp [Task.fail]) (by simp) rfl
  | committed => exact hw.of_plumbing_eq hmono hwired hout (by simp) rfl
  | began hj =>
    exact hw.of_queue hmono hwired hout
      (fun hg j' hj' => hjobs hg j' (hj ▸ mem_cons_of_mem _ hj'))
      (fun hg => forall_mem_concat (hwire hg) (hjobs hg _ (hj ▸ mem_cons_self ..)))
  | refused hj =>
    exact hw.of_queue hmono hwired hout
      (fun hg j' hj' => hjobs hg j' (hj ▸ mem_cons_of_mem _ hj')) hwire
  | finished | broke => exact hw.of_queue hmono hwired hout hjobs hwire
  | exited => exact hw.of_queue hmono hwired hout (by simp [WriteQueue.shut]) hwire

lemma Carried.of_swap (hw : Carried P w)
    (hmono : ∀ g ≤ w.shared.plumbing.writeTx, ∀ f, P g f → P' g f) (hwired : Wired w)
    (hout : ∀ o, t'.outbox = some o → P' o.1 o.2)
    (hplumbing : s'.plumbing = { w.shared.plumbing.set (w.shared.plumbing.writeTx + 1) .new with
      writeTx := w.shared.plumbing.writeTx + 1 }) :
    Carried P' ⟨s', w.tasks.set i t' ++ []⟩ := by
  -- A queue that exists is the new one, which is empty, or one that was there before.
  have hqueue : ∀ g ≤ s'.plumbing.writeTx, s'.plumbing.queues g = .new ∨
      g ≤ w.shared.plumbing.writeTx ∧ s'.plumbing.queues g = w.shared.plumbing.queues g := by
    intro g hg
    rw [hplumbing] at hg ⊢
    obtain rfl | hlt := Nat.eq_or_lt_of_le hg
    · exact .inl Plumbing.queues_set_self
    · exact .inr ⟨Nat.le_of_lt_succ hlt, Plumbing.queues_set_of_ne hlt.ne⟩
  refine ⟨forall_mem_set_append hout (fun u hu o ho =>
    hmono _ ((hwired.addressed u hu).2 o ho) _ (hw.packed u hu o ho)) (by simp), ?_, ?_⟩
  · intro g hg j hj
    rcases hqueue g hg with hnew | ⟨hg', hold⟩
    · simp [hnew, WriteQueue.new, WriteQueue.absent] at hj
    · exact hmono g hg' _ (hw.queued g hg' j (hold ▸ hj))
  · intro g hg f hf
    rcases hqueue g hg with hnew | ⟨hg', hold⟩
    · simp [hnew, WriteQueue.new, WriteQueue.absent] at hf
    · exact hmono g hg' _ (hw.sent g hg' f (hold ▸ hf))

/-- **Frame rule.** If all frames on their way satisfy `P`, if `P` implies `P'` for the queues that
exist, and if a frame that is packed in this step satisfies `P'`, then all frames on their way
satisfy `P'` after the step. -/
theorem carried_of_step {w' : World} {a : Action} (hw : Carried P w) (hwired : Wired w)
    (hmono : ∀ g ≤ w.shared.plumbing.writeTx, ∀ f, P g f → P' g f)
    (hpack : ∀ i c t rest, a = .run i c → w.tasks[i]? = some t →
      t.prog = .queue .snapshot :: rest → P' w.shared.plumbing.writeTx (t.outgoing i))
    (h : step w a = some w') : Carried P' w' := by
  refine step_cases h (fun call _ => ?_) (fun i c t op rest s' t' new ha ht hop heffect => ?_)
    (fun i t ops _ ht _ => ?_)
  · refine ⟨forall_mem_concat (fun u h o ho => ?_) (by simp [Call.task]), fun g hg j hj => hmono g hg _ (hw.queued g hg j hj),
      fun g hg f hf => hmono g hg _ (hw.sent g hg f hf)⟩
    exact hmono _ ((hwired.addressed u h).2 o ho) _ (hw.packed u h o ho)
  · by_cases hqueue : ∃ o, op = .queue o
    · obtain ⟨o, rfl⟩ := hqueue
      cases heffect with
      | queue hq =>
        refine hq.carried hw hwired ht hmono ?_
        rintro rfl
        exact hpack i c t rest ha ht hop
    · have hne : ∀ o, op ≠ .queue o := fun o ho => hqueue ⟨o, ho⟩
      have hmem := mem_of_getElem? ht
      have hout : ∀ o, t'.outbox = some o → P' o.1 o.2 := by
        intro o ho
        rcases (heffect.mail hne).2 with h | h
        · rw [h] at ho
          exact hmono _ ((hwired.addressed t hmem).2 o ho) _ (hw.packed t hmem o ho)
        · simp [h] at ho
      by_cases hswap : op = .control .swapQueue
      · subst hswap
        cases heffect with
        | control h =>
          cases h
          exact hw.of_swap hmono hwired hout rfl
      · refine hw.of_plumbing_eq hmono hwired hout (heffect.forall_new fun gen pool u hu => ?_)
          (heffect.plumbing_eq hne hswap)
        rcases mem_pair.1 hu with rfl | rfl <;> rfl
  · rw [← append_nil (w.tasks.set _ _)]
    exact hw.of_plumbing_eq hmono hwired (by simp [Task.lost, Task.fail]) (by simp) rfl

lemma carried_init : Carried P init where
  packed u hu o ho := by
    rcases mem_pair.1 hu with rfl | rfl <;> simp at ho
  queued g hg j hj := by
    obtain rfl : g = 0 := Nat.le_zero.1 hg
    simp [init, WriteQueue.new, WriteQueue.absent] at hj
  sent g hg f hf := by
    obtain rfl : g = 0 := Nat.le_zero.1 hg
    simp [init, WriteQueue.new, WriteQueue.absent] at hf

end Carried

end Smb2.Connection
