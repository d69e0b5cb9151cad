import Smb2.Client.Connection.Effects

set_option autoImplicit false

/-!
# Waiters

A request that has an id registers a waiter under it and holds a guard for the waiter. The guard
knows the waiter only by the id, and a revival restarts the ids at 0. This file shows that as
long as no id is handed out again while a request of an earlier generation holds it, every waiter
belongs to exactly one guard, and what is done for a request touches no other request's waiter.
-/

open List Option

namespace Smb2.Connection

open Transition

/-! ## Waiters that go -/

namespace Routing

variable {r : Routing} {id id' channel gen : ℕ} {reply : Reply} {f : Waiter → Waiter}

/-- Whatever is in the map afterwards was there before, with the same channel and from the same
generation. -/
def Fades (r r' : Routing) : Prop :=
  ∀ id x', r'.waiters.lookup id = some x' →
    ∃ x, r.waiters.lookup id = some x ∧ x'.tx = x.tx ∧ x'.gen = x.gen

lemma Fades.of_waiters_eq {r' : Routing} (h : r'.waiters = r.waiters) : r.Fades r' := by
  intro id x hx
  exact ⟨x, h ▸ hx, rfl, rfl⟩

lemma Fades.trans {r₁ r₂ r₃ : Routing} (h : r₁.Fades r₂) (h' : r₂.Fades r₃) : r₁.Fades r₃ := by
  intro id x₃ hx₃
  obtain ⟨x₂, hx₂, htx, hgen⟩ := h' id x₃ hx₃
  obtain ⟨x₁, hx₁, htx', hgen'⟩ := h id x₂ hx₂
  exact ⟨x₁, hx₁, htx.trans htx', hgen.trans hgen'⟩

lemma fades_of_lookup {r' : Routing} (hself : r'.waiters.lookup id = none)
    (hne : ∀ id' ≠ id, r'.waiters.lookup id' = r.waiters.lookup id') : r.Fades r' := by
  intro id' x hx
  by_cases h : id' = id
  · subst h
    rw [hself] at hx
    cases hx
  · exact ⟨x, by rw [← hne id' h, hx], rfl, rfl⟩

lemma fades_remove : r.Fades (r.remove id) :=
  fades_of_lookup lookup_remove_self fun _ h => lookup_remove_of_ne h

lemma fades_route {ok : Bool} : r.Fades (r.route id ok) :=
  fades_of_lookup lookup_route_self fun _ h => lookup_route_of_ne h

lemma fades_modify (hf : ∀ x, (f x).tx = x.tx ∧ (f x).gen = x.gen) : r.Fades (r.modify id f) := by
  intro id' x' hx'
  by_cases h : id' = id
  · subst h
    rw [lookup_modify_self] at hx'
    obtain ⟨x, hx, rfl⟩ := map_eq_some_iff.1 hx'
    exact ⟨x, hx, hf x⟩
  · rw [lookup_modify_of_ne h] at hx'
    exact ⟨x', hx', rfl, rfl⟩

lemma fades_foldl_markSent (gs : List Guard) (r : Routing) :
    r.Fades (gs.foldl (fun r g => r.markSent g.id) r) := by
  induction gs generalizing r with
  | nil => exact .of_waiters_eq rfl
  | cons g gs ih =>
    have hmark : r.Fades (r.markSent g.id) := fades_modify fun _ => ⟨rfl, rfl⟩
    exact hmark.trans (ih _)

end Routing

/-! ## Holding ids -/

/-- The ids that a task holds for its requests, with or without a waiter, and the generations that
the ids are from. -/
def Task.held (t : Task) : List (ℕ × ℕ) :=
  t.subs.map (fun s => (s.id, s.epoch)) ++ t.guards.map fun g => (g.id, g.epoch)

def Task.holds (id : ℕ) (t : Task) : ℕ := (t.held.map Prod.fst).count id

def Guard.Owns (g : Guard) (id : ℕ) (x : Waiter) : Prop :=
  g.id = id ∧ g.rx = x.tx ∧ g.gen = x.gen

/-- When the next operation of a task keeps waiters apart: no id is handed out that a request of an
earlier generation still holds, and a request that declares the connection unresponsive is of the
live generation. -/
def Op.unreused (w : World) (t : Task) : Op → Bool
  | .session .allocate => ∀ u ∈ w.tasks, ∀ h ∈ u.held, h.2 < w.shared.session.idEpoch →
      h.1 ≠ w.shared.session.nextMessageId
  | .waiter .drain => ∀ g ∈ t.guards, g.gen = w.shared.plumbing.writeTx
  | _ => true

/-- **A step that reuses no id that is still held.** -/
def World.unreused (w : World) : Action → Bool
  | .run i _ => ∀ t ∈ w.tasks[i]?, ∀ op ∈ t.prog.head?, op.unreused w t
  | _ => true

/-- **Every waiter belongs to exactly one guard.** -/
structure Owned (w : World) : Prop where
  single : ∀ id, (w.tasks.map (Task.holds id)).sum ≤ 1
  owner : ∀ id x, w.shared.routing.waiters.lookup id = some x →
    ∃ (k : ℕ) (u : Task), w.tasks[k]? = some u ∧ ∃ g ∈ u.guards, g.Owns id x
  counted : ∀ t ∈ w.tasks, ∀ h ∈ t.held, h.2 ≤ w.shared.session.idEpoch ∧
    (h.2 = w.shared.session.idEpoch → h.1 < w.shared.session.nextMessageId)
  registered : ∀ id x, w.shared.routing.waiters.lookup id = some x →
    x.gen ≤ w.shared.plumbing.writeTx

section Preservation

variable {w : World} {s' : Shared} {i : ℕ} {t t' : Task} {c : Choice} {op : Op} {rest : List Op}
  {new : List Task} {id : ℕ}

lemma holds_eq : t.holds id = (t.subs.map Sub.id).count id + (t.guards.map Guard.id).count id := by
  simp [Task.holds, Task.held, count_append, Function.comp_def]

lemma one_le_holds {g : Guard} (hg : g ∈ t.guards) : 1 ≤ t.holds g.id := by
  have := one_le_count_iff.2 (mem_map_of_mem (f := Guard.id) hg)
  rw [holds_eq]
  omega

lemma Owned.guard_eq (hw : Owned w) (ht : w.tasks[i]? = some t) {g g' : Guard} (hg : g ∈ t.guards)
    {k : ℕ} {u : Task} (hu : w.tasks[k]? = some u) (hg' : g' ∈ u.guards) (hid : g'.id = g.id) :
    g' = g := by
  have hsingle := hw.single g.id
  by_cases hk : i = k
  · subst hk
    obtain rfl := some.inj (ht.symm.trans hu)
    have hle := le_sum_map (f := Task.holds g.id) ht
    rw [holds_eq] at hle
    exact eq_of_count_map_le_one (show (t.guards.map Guard.id).count g.id ≤ 1 by omega) hg' hg hid rfl
  · have := add_le_sum_map (f := Task.holds g.id) ht hu hk
    have h1 := one_le_holds hg
    have h2 := one_le_holds hg'
    rw [hid] at h2
    omega

lemma Owned.owns (hw : Owned w) (ht : w.tasks[i]? = some t) {g : Guard} (hg : g ∈ t.guards)
    {x : Waiter} (hx : w.shared.routing.waiters.lookup g.id = some x) : g.Owns g.id x := by
  obtain ⟨k, u, hu, g', hg', howns⟩ := hw.owner g.id x hx
  rwa [hw.guard_eq ht hg hu hg' howns.1] at howns

lemma Owned.lookup_eq_none (hw : Owned w) (ht : w.tasks[i]? = some t) {s : Sub} (hs : s ∈ t.subs) :
    w.shared.routing.waiters.lookup s.id = none := by
  rw [← not_isSome_iff_eq_none]
  intro hsome
  obtain ⟨x, hx⟩ := isSome_iff_exists.1 hsome
  obtain ⟨k, u, hu, g, hg, hid, -⟩ := hw.owner s.id x hx
  have hsingle := hw.single s.id
  have hsub := one_le_count_iff.2 (mem_map_of_mem (f := Sub.id) hs)
  have hguard := one_le_count_iff.2 (mem_map_of_mem (f := Guard.id) hg)
  rw [hid] at hguard
  by_cases hk : i = k
  · subst hk
    obtain rfl := some.inj (ht.symm.trans hu)
    have hle := le_sum_map (f := Task.holds s.id) ht
    rw [holds_eq] at hle
    omega
  · have := add_le_sum_map (f := Task.holds s.id) ht hu hk
    rw [holds_eq, holds_eq] at this
    omega

def Op.movesIds : Op → Bool
  | .session .allocate | .waiter .register | .waiter .dropGuard | .waiter .dropGuards => true
  | _ => false

lemma Effect.held_of_not_movesIds {s : Shared} (h : Effect s i t c op s' t' new)
    (hop : op.movesIds = false) : t'.guards = t.guards ∧ (t'.subs = t.subs ∨ t'.subs = []) := by
  have hsame : t.guards = t.guards ∧ (t.subs = t.subs ∨ t.subs = []) := ⟨rfl, .inl rfl⟩
  have hnone {a : Prop} : t.guards = t.guards ∧ (a ∨ ([] : List Sub) = []) := ⟨rfl, .inr rfl⟩
  cases h with
  | credit h =>
    cases h with
    | isClosed | starved | waitFailed => exact hnone
    | _ => exact hsame
  | session h =>
    cases h with
    | start | signFailed | encryptFailed | rejected | setupFailed => exact hnone
    | allocated => simp [Op.movesIds] at hop
    | _ => exact hsame
  | waiter h =>
    cases h with
    | disconnected | answerFailed | gaveUp => exact hnone
    | registered | registerFailed | droppedGuard | noGuard | droppedGuards | noGuards =>
      simp [Op.movesIds] at hop
    | _ => exact hsame
  | queue h =>
    cases h with
    | snapshot | enqueueFailed | sendFailed => exact hnone
    | _ => exact hsame
  | control h =>
    cases h with
    | dialFailed => exact hnone
    | _ => exact hsame

lemma Effect.fades {s : Shared} (h : Effect s i t c op s' t' new)
    (hop : op ≠ .waiter .register) : s.routing.Fades s'.routing := by
  cases h with
  | waiter h =>
    cases h with
    | registered => exact absurd rfl hop
    | removed | droppedGuard | droppedGuards => exact Routing.fades_remove
    | markedSent => exact Routing.fades_foldl_markSent _ _
    | drained =>
      intro id x hx
      simp at hx
    | fanned => exact .of_waiters_eq (Routing.waiters_foldl_deliver ..)
    | notedPending => exact Routing.fades_modify fun _ => ⟨rfl, rfl⟩
    | routed => exact Routing.fades_route
    | _ => exact .of_waiters_eq rfl
  | control h => cases h <;> exact .of_waiters_eq rfl
  | _ => exact .of_waiters_eq rfl

lemma Owned.of_fades (hw : Owned w) (ht : w.tasks[i]? = some t)
    (hfades : w.shared.routing.Fades s'.routing)
    (hguards : ∀ id x g, s'.routing.waiters.lookup id = some x → g ∈ t.guards → g.id = id →
      g ∈ t'.guards)
    (hholds : ∀ id, t'.holds id ≤ t.holds id) (hheld : ∀ h ∈ t'.held, h ∈ t.held)
    (hnew : ∀ u ∈ new, u.held = [])
    (hcounter : s'.session.idEpoch = w.shared.session.idEpoch ∧
        w.shared.session.nextMessageId ≤ s'.session.nextMessageId ∨
      s'.session.idEpoch = w.shared.session.idEpoch + 1)
    (htx : w.shared.plumbing.writeTx ≤ s'.plumbing.writeTx) :
    Owned ⟨s', w.tasks.set i t' ++ new⟩ := by
  refine ⟨fun id => ?_, fun id x' hx' => ?_, ?_, fun id x' hx' => ?_⟩
  · have hsum := sum_map_set_append (f := Task.holds id) (y := t') ht
      fun u hu => by rw [Task.holds, hnew u hu]; rfl
    have := hholds id
    have := hw.single id
    simp only
    omega
  · obtain ⟨x, hx, htx', hgen⟩ := hfades id x' hx'
    obtain ⟨k, u, hu, g, hg, hid, hrx, hgen'⟩ := hw.owner id x hx
    have howns : g.Owns id x' := ⟨hid, hrx.trans htx'.symm, hgen'.trans hgen.symm⟩
    by_cases hk : k = i
    · subst hk
      obtain rfl := some.inj (ht.symm.trans hu)
      exact ⟨k, t', getElem?_set_append_self ht, g, hguards id x' g hx' hg hid, howns⟩
    · exact ⟨k, u, getElem?_set_append_of_ne hu hk, g, hg, howns⟩
  · have hcount : ∀ h : ℕ × ℕ, (h.2 ≤ w.shared.session.idEpoch ∧
        (h.2 = w.shared.session.idEpoch → h.1 < w.shared.session.nextMessageId)) →
        h.2 ≤ s'.session.idEpoch ∧ (h.2 = s'.session.idEpoch → h.1 < s'.session.nextMessageId) := by
      intro h hh
      rcases hcounter with ⟨he, hn⟩ | he
      · rw [he]
        exact ⟨hh.1, fun heq => (hh.2 heq).trans_le hn⟩
      · rw [he]
        exact ⟨Nat.le_succ_of_le hh.1, fun heq => by omega⟩
    refine forall_mem_set_append (fun h hh => ?_)
      (fun u hu h hh => hcount h (hw.counted u hu h hh)) (fun u hu h hh => ?_)
    · exact hcount h (hw.counted t (mem_of_getElem? ht) h (hheld h hh))
    · simp [hnew u hu] at hh
  · obtain ⟨x, hx, -, hgen⟩ := hfades id x' hx'
    rw [hgen]
    exact (hw.registered id x hx).trans htx

lemma held_plumbingTasks (gen pool : ℕ) : ∀ u ∈ plumbingTasks gen pool, u.held = [] := by
  intro u hu
  rcases mem_pair.1 hu with rfl | rfl <;> rfl

lemma Owned.of_keep (hw : Owned w) (ht : w.tasks[i]? = some t)
    (hfades : w.shared.routing.Fades s'.routing) (hguards : t'.guards = t.guards)
    (hsubs : t'.subs = t.subs ∨ t'.subs = []) (hnew : ∀ u ∈ new, u.held = [])
    (hcounter : s'.session.idEpoch = w.shared.session.idEpoch ∧
        w.shared.session.nextMessageId ≤ s'.session.nextMessageId ∨
      s'.session.idEpoch = w.shared.session.idEpoch + 1)
    (htx : w.shared.plumbing.writeTx ≤ s'.plumbing.writeTx) :
    Owned ⟨s', w.tasks.set i t' ++ new⟩ := by
  refine hw.of_fades ht hfades (fun _ _ g _ hg _ => hguards ▸ hg) (fun id => ?_) (fun h hh => ?_) hnew
    hcounter htx
  · rw [holds_eq, holds_eq, hguards]
    rcases hsubs with hs | hs <;> simp [hs]
  · rw [Task.held, hguards] at hh
    rcases hsubs with hs | hs
    · rwa [hs] at hh
    · rw [hs] at hh
      exact mem_append_right _ hh

lemma Owned.of_drop (hw : Owned w) (ht : w.tasks[i]? = some t) {g : Guard} {guards : List Guard}
    (hg : t.guards = g :: guards) (hguards : t'.guards = guards) (hsubs : t'.subs = t.subs)
    (hrouting : s'.routing = w.shared.routing.remove g.id)
    (hsession : s'.session = w.shared.session) (hplumbing : s'.plumbing = w.shared.plumbing) :
    Owned ⟨s', w.tasks.set i t' ++ []⟩ := by
  refine hw.of_fades ht (hrouting ▸ Routing.fades_remove) (fun id x g' hx hg' hid => ?_)
    (fun id => ?_) (fun h hh => ?_) (by simp) (.inl ⟨by rw [hsession], by rw [hsession]⟩)
    (by rw [hplumbing])
  · rw [hg] at hg'
    rcases mem_cons.1 hg' with rfl | hmem
    · subst hid
      rw [hrouting, Routing.lookup_remove_self] at hx
      cases hx
    · rwa [hguards]
  · rw [holds_eq, holds_eq, hsubs, hg, hguards, map_cons, count_cons]
    omega
  · rw [Task.held, hsubs, hguards] at hh
    rw [Task.held, hg, map_cons]
    rcases mem_append.1 hh with h | h
    · exact mem_append_left _ h
    · exact mem_append_right _ (mem_cons_of_mem _ h)

lemma Owned.of_register (hw : Owned w) (ht : w.tasks[i]? = some t) {s : Sub} {subs : List Sub}
    (hs : t.subs = s :: subs) (hsubs : t'.subs = subs)
    (hguards : t'.guards = t.guards ++
      [⟨s.id, w.shared.routing.nextChannel, w.shared.plumbing.writeTx, s.epoch⟩])
    (hrouting : s'.routing = w.shared.routing.insert s.id w.shared.plumbing.writeTx)
    (hsession : s'.session = w.shared.session) (hplumbing : s'.plumbing = w.shared.plumbing) :
    Owned ⟨s', w.tasks.set i t' ++ []⟩ := by
  -- The id moves from the requests without a waiter to those with one.
  have hperm : t'.held.Perm t.held := by
    simp only [Task.held, hs, hsubs, hguards, map_append, map_cons, map_nil]
    rw [← append_assoc]
    exact perm_append_singleton ..
  refine ⟨fun id => ?_, fun id x hx => ?_, ?_, fun id x hx => ?_⟩
  · have hsum := sum_map_set_add (Task.holds id) ht t'
    have hholds : t'.holds id = t.holds id := (hperm.map Prod.fst).count_eq id
    have := hw.single id
    simp only [append_nil]
    omega
  · rw [hrouting] at hx
    by_cases hid : id = s.id
    · subst hid
      rw [Routing.lookup_insert_self] at hx
      obtain rfl := some.inj hx
      have hmem : ⟨s.id, w.shared.routing.nextChannel, w.shared.plumbing.writeTx, s.epoch⟩ ∈
          t'.guards := hguards ▸ mem_append_right _ (mem_singleton_self _)
      exact ⟨i, t', getElem?_set_append_self ht, _, hmem, rfl, rfl, rfl⟩
    · rw [Routing.lookup_insert_of_ne hid] at hx
      obtain ⟨k, u, hu, g, hg, howns⟩ := hw.owner id x hx
      by_cases hk : k = i
      · subst hk
        obtain rfl := some.inj (ht.symm.trans hu)
        exact ⟨k, t', getElem?_set_append_self ht, g, hguards ▸ mem_append_left _ hg, howns⟩
      · exact ⟨k, u, getElem?_set_append_of_ne hu hk, g, hg, howns⟩
  · rw [hsession]
    exact forall_mem_set_append
      (fun h hh => hw.counted t (mem_of_getElem? ht) h (hperm.mem_iff.1 hh)) hw.counted (by simp)
  · rw [hrouting] at hx
    rw [hplumbing]
    by_cases hid : id = s.id
    · subst hid
      rw [Routing.lookup_insert_self] at hx
      obtain rfl := some.inj hx
      exact le_rfl
    · rw [Routing.lookup_insert_of_ne hid] at hx
      exact hw.registered id x hx

lemma Owned.of_allocate (hw : Owned w) (ht : w.tasks[i]? = some t) {piece : Piece}
    {pieces : List Piece}
    (hfree : ∀ u ∈ w.tasks, ∀ h ∈ u.held, h.2 < w.shared.session.idEpoch →
      h.1 ≠ w.shared.session.nextMessageId) :
    Owned ⟨{ w.shared with session := { w.shared.session with
        nextMessageId := w.shared.session.nextMessageId + piece.span } },
      w.tasks.set i (({ t with prog := rest } : Task).allocated w.shared.session piece pieces) ++
        []⟩ := by
  -- Of the ids of this generation only those below the counter are held.
  have hunheld : ∀ u ∈ w.tasks, u.holds w.shared.session.nextMessageId = 0 := by
    intro u hu
    refine count_eq_zero.2 fun hmem => ?_
    obtain ⟨h, hh, heq⟩ := mem_map.1 hmem
    obtain ⟨hle, hlt⟩ := hw.counted u hu h hh
    rcases hle.lt_or_eq with he | he
    · exact hfree u hu h hh he heq
    · exact (hlt he).ne heq
  have hheld : ∀ h ∈ (({ t with prog := rest } : Task).allocated w.shared.session piece pieces).held,
      h ∈ t.held ∨ h = (w.shared.session.nextMessageId, w.shared.session.idEpoch) := by
    intro h hh
    simp only [Task.held, Task.allocated, map_append, map_cons, map_nil,
      mem_append, mem_singleton] at hh
    rcases hh with (hh | hh) | hh
    · exact .inl (mem_append_left _ hh)
    · exact .inr hh
    · exact .inl (mem_append_right _ hh)
  refine ⟨fun id => ?_, fun id x hx => ?_, ?_, hw.registered⟩
  · have hsum := sum_map_set_add (Task.holds id) ht
      (({ t with prog := rest } : Task).allocated w.shared.session piece pieces)
    have hholds : (({ t with prog := rest } : Task).allocated w.shared.session piece pieces).holds
        id = t.holds id + if w.shared.session.nextMessageId = id then 1 else 0 := by
      rw [holds_eq, holds_eq]
      simp only [Task.allocated, Task.stamp, map_append, map_cons, map_nil,
        count_append, count_singleton, beq_iff_eq]
      omega
    have hsingle := hw.single id
    simp only [append_nil]
    by_cases hid : w.shared.session.nextMessageId = id
    · have hzero : (w.tasks.map (Task.holds id)).sum = 0 := by
        refine sum_eq_zero fun n hn => ?_
        obtain ⟨u, hu, rfl⟩ := mem_map.1 hn
        exact hid ▸ hunheld u hu
      rw [if_pos hid] at hholds
      omega
    · rw [if_neg hid] at hholds
      omega
  · obtain ⟨k, u, hu, g, hg, howns⟩ := hw.owner id x hx
    by_cases hk : k = i
    · subst hk
      obtain rfl := some.inj (ht.symm.trans hu)
      exact ⟨k, _, getElem?_set_append_self ht, g, hg, howns⟩
    · exact ⟨k, u, getElem?_set_append_of_ne hu hk, g, hg, howns⟩
  · have hcount : ∀ h : ℕ × ℕ, (h.2 ≤ w.shared.session.idEpoch ∧
        (h.2 = w.shared.session.idEpoch → h.1 < w.shared.session.nextMessageId)) →
        h.2 ≤ w.shared.session.idEpoch ∧ (h.2 = w.shared.session.idEpoch →
          h.1 < w.shared.session.nextMessageId + piece.span) :=
      fun h hh => ⟨hh.1, fun heq => Nat.lt_add_right _ (hh.2 heq)⟩
    refine forall_mem_set_append (fun h hh => ?_)
      (fun u hu h hh => hcount h (hw.counted u hu h hh)) (by simp)
    rcases hheld h hh with hold | rfl
    · exact hcount h (hw.counted t (mem_of_getElem? ht) h hold)
    · exact ⟨le_rfl, fun _ => Nat.lt_add_of_pos_right piece.span_pos⟩

lemma Effect.owned (h : Effect w.shared i { t with prog := rest } c op s' t' new) (hw : Owned w)
    (ht : w.tasks[i]? = some t) (hunreused : op.unreused w t) :
    Owned ⟨s', w.tasks.set i t' ++ new⟩ := by
  by_cases hmoves : op.movesIds = false
  · obtain ⟨hguards, hsubs⟩ := h.held_of_not_movesIds hmoves
    refine hw.of_keep ht (h.fades ?_) hguards hsubs (h.forall_new held_plumbingTasks)
      h.nextMessageId_le h.writeTx_le
    rintro rfl
    simp [Op.movesIds] at hmoves
  · cases h with
    | session h =>
      cases h with
      | allocated => exact hw.of_allocate ht (of_decide_eq_true hunreused)
      | _ => simp [Op.movesIds] at hmoves
    | waiter h =>
      cases h with
      | registered hs => exact hw.of_register ht hs rfl rfl rfl rfl rfl
      | registerFailed =>
        exact hw.of_keep ht (.of_waiters_eq rfl) rfl (.inr rfl) (by simp) (.inl ⟨rfl, le_rfl⟩) le_rfl
      | droppedGuard hg => exact hw.of_drop ht hg rfl rfl rfl rfl rfl
      | droppedGuards hg => exact hw.of_drop ht hg rfl rfl rfl rfl rfl
      | noGuard | noGuards =>
        exact hw.of_keep ht (.of_waiters_eq rfl) rfl (.inl rfl) (by simp) (.inl ⟨rfl, le_rfl⟩) le_rfl
      | _ => simp [Op.movesIds] at hmoves
    | _ => simp [Op.movesIds] at hmoves

end Preservation

/-- **One step that reuses no id keeps the invariant.** -/
theorem owned_of_step {w w' : World} {a : Action} (hw : Owned w) (hunreused : w.unreused a)
    (h : step w a = some w') : Owned w' := by
  refine step_cases h (fun call _ => ?_) (fun i c t op rest s' t' new ha ht hop heffect => ?_)
    (fun i t ops _ ht _ => ?_)
  · refine ⟨fun id => ?_, fun id x hx => ?_, fun u hu => ?_, hw.registered⟩
    · have hzero : (call.task w.shared.credits.live).holds id = 0 := rfl
      simpa [hzero] using hw.single id
    · obtain ⟨k, u, hu, howner⟩ := hw.owner id x hx
      refine ⟨k, u, ?_, howner⟩
      rw [List.getElem?_append_left (List.getElem?_eq_some_iff.1 hu).1, hu]
    · rcases mem_append.1 hu with h | h
      · exact hw.counted u h
      · obtain rfl := mem_singleton.1 h
        intro h hh
        simp [Task.held, Call.task] at hh
  · subst ha
    exact heffect.owned hw ht (of_decide_eq_true hunreused t ht op (by simp [hop]))
  · rw [← append_nil (w.tasks.set _ _)]
    exact hw.of_keep ht (.of_waiters_eq rfl) rfl (.inr rfl) (by simp) (.inl ⟨rfl, le_rfl⟩) le_rfl

lemma owned_init : Owned init where
  single id := by
    have hzero : (init.tasks.map (Task.holds id)).sum = 0 := rfl
    omega
  owner id x hx := by simp [init] at hx
  counted t ht h hh := by
    have := held_plumbingTasks 0 0 t ht
    simp [this] at hh
  registered id x hx := by simp [init] at hx

/-! ## Interference -/

/-- The generations of the requests on whose behalf an operation of a task may touch the waiter
under an id. -/
def Task.behalf (t : Task) (id : ℕ) : Op → List ℕ
  | .waiter .removeWaiter | .waiter .dropGuard | .waiter .dropGuards =>
    (t.guards.head?.map Guard.gen).toList
  | .waiter .markSent => (t.guards.filter fun g => g.id = id).map Guard.gen
  | .waiter .drain => t.guards.map Guard.gen
  | .waiter .register => (t.subs.head?.map Sub.epoch).toList
  | _ => []

/-- **What is done for a request changes no waiter of a later generation.** -/
def Undisturbed (w : World) (a : Action) (w' : World) : Prop :=
  ∀ i c t op rest, a = .run i c → w.tasks[i]? = some t → t.prog = op :: rest →
    ∀ id x n, w.shared.routing.waiters.lookup id = some x → n ∈ t.behalf id op → n < x.gen →
      w'.shared.routing.waiters.lookup id = some x

section Interference

variable {w : World} {i : ℕ} {t : Task} {g : Guard} {id : ℕ} {x : Waiter}

lemma Owned.lookup_remove (hw : Owned w) (ht : w.tasks[i]? = some t) (hg : g ∈ t.guards)
    (hx : w.shared.routing.waiters.lookup id = some x) (hlt : g.gen < x.gen) :
    (w.shared.routing.remove g.id).waiters.lookup id = some x := by
  by_cases hid : id = g.id
  · subst hid
    exact absurd (hw.owns ht hg hx).2.2 hlt.ne
  · rw [Routing.lookup_remove_of_ne hid, hx]

lemma WaiterEffect.undisturbed {rest : List Op} {o : WaiterOp} {r' : Routing} {t' : Task}
    (h : WaiterEffect w.shared.routing w.shared.plumbing.writeTx { t with prog := rest } o r' t')
    (hw : Owned w) (ht : w.tasks[i]? = some t) (hunreused : (Op.waiter o).unreused w t) {n : ℕ}
    (hx : w.shared.routing.waiters.lookup id = some x) (hn : n ∈ t.behalf id (.waiter o))
    (hlt : n < x.gen) : r'.waiters.lookup id = some x := by
  cases h with
  | @removed g guards hg | @droppedGuard g guards hg | @droppedGuards g guards hg =>
    have hg : t.guards = g :: guards := hg
    obtain rfl : n = g.gen := by simpa [Task.behalf, hg] using hn
    exact hw.lookup_remove ht (hg ▸ mem_cons_self ..) hx hlt
  | nothingToRemove | noGuard | noGuards => exact hx
  | markedSent =>
    simp only [Task.behalf, List.mem_map, List.mem_filter, decide_eq_true_eq] at hn
    obtain ⟨g, ⟨hg, rfl⟩, rfl⟩ := hn
    exact absurd (hw.owns ht hg hx).2.2 hlt.ne
  | drained =>
    obtain ⟨g, hg, rfl⟩ := mem_map.1 hn
    have hlive : g.gen = w.shared.plumbing.writeTx := of_decide_eq_true hunreused g hg
    exact absurd (hw.registered id x hx) (by omega)
  | @registered s subs hs =>
    have hs : t.subs = s :: subs := hs
    by_cases hid : id = s.id
    · subst hid
      rw [hw.lookup_eq_none ht (hs ▸ mem_cons_self ..)] at hx
      cases hx
    · rw [Routing.lookup_insert_of_ne hid, hx]
  | registerFailed => exact hx
  | _ => simp [Task.behalf] at hn

lemma undisturbed_of_step {w' : World} {a : Action} (hw : Owned w) (hunreused : w.unreused a)
    (h : step w a = some w') : Undisturbed w a w' := by
  rintro i c t op rest rfl ht hop id x n hx hn hlt
  have hop' : op.unreused w t := of_decide_eq_true hunreused t ht op (by simp [hop])
  cases stepped_of_step h with
  | run ht' hop'' heffect =>
    obtain rfl := some.inj (ht.symm.trans ht')
    obtain ⟨rfl, rfl⟩ := cons.inj (hop.symm.trans hop'')
    cases heffect with
    | waiter hwaiter => exact hwaiter.undisturbed hw ht hop' hx hn hlt
    | _ => simp [Task.behalf] at hn

end Interference

/-- **Waiters of different generations do not interfere.** In every run whose steps hand out no
message id that a request of an earlier generation still holds, and in which only requests of the
live generation declare the connection unresponsive, nothing that is done for a request changes
the waiter of a request registered in a later generation. -/
theorem waiters_undisturbed {as : List Action}
    (hunreused : Along step (fun w a _ => w.unreused a) init as) :
    Along step Undisturbed init as := by
  refine along_of_invariant (I := Owned) (fun w a w' hw hun hstep => ?_) owned_init hunreused
  exact ⟨owned_of_step hw hun hstep, undisturbed_of_step hw hun hstep⟩

/-- A request with id 1 waits for its response when the connection dies. The connection is revived
and a request gets id 0; then the first one gives up and drops its guard. -/
def lateDrop : List Action :=
  answeredRequest ++ .spawn (.execute 1) :: turns 3 12 ++ turns 0 2 ++ turns 3 2 ++
    .spawn .markDead :: turns 4 4 ++ .spawn (.reconnect 1) :: turns 5 23 ++ turns 3 2

set_option maxRecDepth 4000 in
theorem waiters_undisturbed_lateDrop : Along step Undisturbed init lateDrop :=
  waiters_undisturbed (by decide)

/-- As `lateDrop`, but the request that waits has id 0 as well; it has not dropped its guard yet. -/
def reusedId : List Action :=
  .spawn (.execute 1) :: turns 2 12 ++ turns 0 2 ++ turns 2 2 ++ .spawn .markDead :: turns 3 4 ++
    .spawn (.reconnect 1) :: turns 4 23 ++ turns 2 1

lemma reusedId_drop : ∃ w w' t rest x, Transition.exec step init reusedId = some w ∧
    step w (.run 2 .go) = some w' ∧ w.tasks[2]? = some t ∧
    t.prog = .waiter .dropGuards :: rest ∧ 0 ∈ t.behalf 0 (.waiter .dropGuards) ∧
    w.shared.routing.waiters.lookup 0 = some x ∧ x.gen = 1 ∧
    w'.shared.routing.waiters.lookup 0 = none :=
  ⟨_, _, _, _, _, rfl, rfl, rfl, rfl, by decide, rfl, rfl, rfl⟩

/-- **Dropping the guard of an old request evicts the waiter of a new one.** -/
theorem reusedId_evicts : ¬ Along step Undisturbed init (reusedId ++ [.run 2 .go]) := by
  intro h
  obtain ⟨w, w', t, rest, x, hrun, hstep, ht, hop, hbehalf, hx, hgen, hnone⟩ := reusedId_drop
  have hkept := h.at_step hrun hstep 2 .go t _ rest rfl ht hop 0 x 0 hx hbehalf (by omega)
  rw [hnone] at hkept
  cases hkept

end Smb2.Connection
