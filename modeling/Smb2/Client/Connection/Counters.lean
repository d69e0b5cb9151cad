import Smb2.Client.Connection.Delivery
import Mathlib.Data.List.DropRight

set_option autoImplicit false

/-!
# The response counters

`client/connection.rs` counts every final response once: as routed, with a frame or with an error, as
late, when its caller had given up, or as stray, when nobody had asked for it. A guard that is dropped
before its response has arrived therefore leaves its id in the ring `abandoned`. It takes its waiter
out of the map first and writes to the ring behind the lock of the map, so that the receiver may look
in between. A caller that runs into its deadline takes its waiter out and leaves nothing in the ring.
-/

open List Option

namespace Smb2.Connection

open Mailbox (Channel)

def abandonedIdMemory : ℕ := 512

structure ResponseCounters where
  routedOk : UInt64
  routedErr : UInt64
  lateAfterDrop : UInt64
  stray : UInt64
deriving DecidableEq

namespace ResponseCounters

def total (m : ResponseCounters) : UInt64 := m.routedOk + m.routedErr + m.lateAfterDrop + m.stray

def routed (m : ResponseCounters) : Except Error Frame → ResponseCounters
  | .ok _ => { m with routedOk := m.routedOk + 1 }
  | .error _ => { m with routedErr := m.routedErr + 1 }

def rebalance (m : ResponseCounters) : Except Error Frame → ResponseCounters
  | .ok _ => { m with routedOk := m.routedOk - 1, lateAfterDrop := m.lateAfterDrop + 1 }
  | .error _ => { m with routedErr := m.routedErr - 1, lateAfterDrop := m.lateAfterDrop + 1 }

def orphan (m : ResponseCounters) (wasAbandoned : Bool) : ResponseCounters :=
  if wasAbandoned then { m with lateAfterDrop := m.lateAfterDrop + 1 }
  else { m with stray := m.stray + 1 }

variable (m : ResponseCounters) (result : Except Error Frame)

@[simp] lemma total_routed : (m.routed result).total = m.total + 1 := by
  cases result <;> simp only [routed, total] <;> grind

@[simp] lemma total_rebalance : (m.rebalance result).total = m.total := by
  cases result <;> simp only [rebalance, total] <;> grind

@[simp] lemma total_orphan (b : Bool) : (m.orphan b).total = m.total + 1 := by
  cases b <;> simp only [orphan, total] <;> grind

@[simp] lemma stray_routed : (m.routed result).stray = m.stray := by cases result <;> rfl

end ResponseCounters

structure Counted where
  delivery : Delivery
  counters : ResponseCounters
  abandoned : List MessageId
  /-- The guards that are being dropped, between the waiters map and the ring. -/
  dropping : List MessageId
  /-- *Ghost*: the ids that were given up, by a deadline or a drop, the newest last. -/
  givenUp : List MessageId

namespace Counted

inductive Event
  | delivery (event : Delivery.Event)
  | remember (id : MessageId)
deriving DecidableEq

def waiting (s : Counted) (i : ℕ) : Option MessageId :=
  ((s.delivery.mailbox.channels[i]?).map Channel.key).filter (· ∈ s.delivery.receiver.waiters)

def push (abandoned : List MessageId) (id : MessageId) : List MessageId :=
  (if abandonedIdMemory ≤ abandoned.length then abandoned.tail else abandoned) ++ [id]

def note (s : Counted) : Delivery.Event → Counted
  | .giveUp i => { s with givenUp := s.givenUp ++ (s.waiting i).toList }
  | .drop i => { s with dropping := s.dropping ++ (s.waiting i).toList }
  | .take =>
    match s.delivery.mailbox.queue with
    | [] => s
    | (id, answered) :: _ =>
      if id ∈ s.delivery.receiver.waiters then
        { s with counters := s.counters.routed answered.result }
      else { s with counters := s.counters.orphan (id ∈ s.abandoned) }
  | .send i =>
    match s.delivery.mailbox.channels[i]? with
    | some { sender := .routing answered, owner := .dropped, .. } =>
      { s with counters := s.counters.rebalance answered.result }
    | _ => s
  | _ => s

def step (K : Primitives) (s : Counted) : Event → Option Counted
  | .delivery event =>
    (s.delivery.step K event).map fun delivery => { s.note event with delivery }
  | .remember id =>
    if id ∈ s.dropping then
      some { s with
        dropping := s.dropping.erase id
        abandoned := push s.abandoned id
        givenUp := s.givenUp ++ [id] }
    else none

def init : Counted := ⟨.init, ⟨0, 0, 0, 0⟩, [], [], []⟩

/-- **A response that somebody has given up on is not counted as stray**: by a drop that is under way,
or while fewer than `ABANDONED_ID_MEMORY` others have been given up later. -/
def Fair (s : Counted) (a : Event) (t : Counted) : Prop :=
  a = .delivery .take → ∀ m ∈ s.delivery.mailbox.queue.head?,
    m.1 ∈ s.dropping ∨ m.1 ∈ s.givenUp.rtake abandonedIdMemory → t.counters.stray = s.counters.stray

/-- **No deadline passes** while the waiter is in the map, and no response is taken up under the id of
a guard that is half dropped. -/
def Orderly (s : Counted) : Event → Counted → Prop
  | .delivery (.giveUp i), _ => s.waiting i = none
  | .delivery .take, _ => ∀ m ∈ s.delivery.mailbox.queue.head?, m.1 ∉ s.dropping
  | _, _ => True

instance (s : Counted) (a : Event) (t : Counted) : Decidable (Orderly s a t) := by
  unfold Orderly
  split <;> infer_instance

section Steps

variable {K : Primitives} {s t : Counted} {a : Event} {d d' : Delivery} {e : Delivery.Event}

lemma seen_of_step (h : d.step K e = some d') (he : e ≠ .take) :
    d'.mailbox.seen = d.mailbox.seen := by
  have hmap : ∀ {a : Mailbox.Action MessageId Answered Error}
      {f : Mailbox MessageId Answered Error → Delivery}, (d.mailbox.step a).map f = some d' →
      a ≠ .take → (∀ m, (f m).mailbox = m) → d'.mailbox.seen = d.mailbox.seen := by
    intro a f hstep ha hf
    obtain ⟨m, hm, rfl⟩ := map_eq_some_iff.1 hstep
    rw [hf]
    cases Mailbox.effect_of_step hm with
    | take => exact absurd rfl ha
    | _ => rfl
  revert h
  fun_cases Delivery.step K d e <;> intro h
  case case1 =>
    obtain rfl := some.inj h
    rfl
  case case17 | case18 | case19 | case20 =>
    obtain ⟨r, -, rfl⟩ := map_eq_some_iff.1 h
    rfl
  case case9 | case11 | case21 => cases h
  case case12 | case13 => exact absurd rfl he
  all_goals exact hmap h (by simp) fun _ => rfl

lemma total_note (he : e ≠ .take) : (s.note e).counters.total = s.counters.total := by
  fun_cases note s e
  case case3 | case4 | case5 => exact absurd rfl he
  case case6 => exact s.counters.total_rebalance _
  all_goals rfl

lemma total_take {id : MessageId} {answered : Answered} {rest : List (MessageId × Answered)}
    (hqueue : s.delivery.mailbox.queue = (id, answered) :: rest) :
    (s.note .take).counters.total = s.counters.total + 1 := by
  simp only [note, hqueue]
  split
  · exact s.counters.total_routed _
  · exact s.counters.total_orphan _

lemma total_of_step (hs : s.counters.total = UInt64.ofNat s.delivery.mailbox.seen.length)
    (h : step K s a = some t) :
    t.counters.total = UInt64.ofNat t.delivery.mailbox.seen.length := by
  revert h
  fun_cases step K s a <;> intro h
  case case1 e =>
    obtain ⟨d, hd, rfl⟩ := map_eq_some_iff.1 h
    by_cases he : e = .take
    · subst he
      simp only [Delivery.step] at hd
      split at hd
      · cases hd
      · rename_i id answered rest hqueue
        obtain ⟨m, hm, rfl⟩ := map_eq_some_iff.1 hd
        cases Mailbox.effect_of_step hm
        simp [total_take hqueue, hs]
    · show (s.note e).counters.total = UInt64.ofNat d.mailbox.seen.length
      rw [total_note he, hs, seen_of_step hd he]
  case case2 =>
    obtain rfl := some.inj h
    exact hs
  case case3 => cases h

lemma push_rtake (l : List MessageId) (id : MessageId) :
    push (l.rtake abandonedIdMemory) id = (l ++ [id]).rtake abandonedIdMemory := by
  obtain ⟨n, hn⟩ : ∃ n, abandonedIdMemory = n + 1 := ⟨511, rfl⟩
  rw [push, hn, rtake_concat_succ]
  congr 1
  simp only [rtake, length_drop, tail_drop]
  split <;> congr 1 <;> omega

lemma fair_of_orderly (hs : s.abandoned = s.givenUp.rtake abandonedIdMemory) (ha : Orderly s a t)
    (h : step K s a = some t) : t.abandoned = t.givenUp.rtake abandonedIdMemory ∧ Fair s a t := by
  revert h
  fun_cases step K s a <;> intro h
  case case1 e =>
    obtain ⟨d, -, rfl⟩ := map_eq_some_iff.1 h
    refine ⟨?_, fun htake m hm hgiven => ?_⟩
    · show (s.note e).abandoned = (s.note e).givenUp.rtake abandonedIdMemory
      fun_cases note s e
      case case1 i =>
        simpa [show s.waiting i = none from ha] using hs
      all_goals exact hs
    · obtain rfl := Event.delivery.inj htake
      have hring : m.1 ∈ s.abandoned := hs ▸ hgiven.resolve_left (ha m hm)
      show (s.note .take).counters.stray = s.counters.stray
      simp only [note]
      split
      · rfl
      · rename_i id answered rest hqueue
        rw [hqueue] at hm
        obtain rfl := some.inj hm
        split
        · exact s.counters.stray_routed _
        · simp [ResponseCounters.orphan, hring]
  case case2 id hid =>
    obtain rfl := some.inj h
    refine ⟨?_, nofun⟩
    show push s.abandoned id = _
    rw [hs, push_rtake]
  case case3 => cases h

end Steps

/-! ## Runs -/

/-- **The counters partition the responses.** In every run of one generation they add up to the final
responses that the receiver has taken up; and if no caller runs into its deadline while its waiter is
in the map, and no response is taken up under the id of a guard that is half dropped, then no response
that somebody has given up on is counted as stray. -/
theorem responses_partition (K : Primitives) (run : List Event) :
    (∀ s, Transition.exec (step K) init run = some s → s.counters.total =
        UInt64.ofNat (s.delivery.finals.length - s.delivery.mailbox.queue.length)) ∧
      (Transition.Along (step K) Orderly init run → Transition.Along (step K) Fair init run) := by
  refine ⟨fun s hrun => ?_, fun horderly => ?_⟩
  · have htotal := Transition.exec_invariant_of_step
      (I := fun s => s.counters.total = UInt64.ofNat s.delivery.mailbox.seen.length)
      (fun _ _ _ hI hstep => total_of_step hI hstep) rfl hrun
    have hfaithful : Delivery.Faithful K s.delivery := by
      refine Transition.exec_invariant_of_step (I := fun s => Delivery.Faithful K s.delivery) ?_
        ⟨rfl, fun m hm => by cases hm⟩ hrun
      intro s a t hI hstep
      revert hstep
      fun_cases step K s a <;> intro hstep
      · obtain ⟨d, hd, rfl⟩ := map_eq_some_iff.1 hstep
        exact Delivery.faithful_of_step hI hd
      · obtain rfl := some.inj hstep
        exact hI
      · cases hstep
    have hlength := congrArg length hfaithful.finals
    rw [length_map, length_append] at hlength
    rw [htotal, ← hlength, Nat.add_sub_cancel]
  · refine Transition.along_of_invariant
      (I := fun s => s.abandoned = s.givenUp.rtake abandonedIdMemory) ?_ (rtake_nil _).symm horderly
    intro s a t hI ha h
    exact fair_of_orderly hI ha h

def droppedThenAnswered : List Event :=
  [.delivery (.register 5), .delivery (.drop 0), .remember 5,
    .delivery (.frame Receiver.unsignedHeader.pack), .delivery .take]

theorem responses_partition_dropped :
    Transition.Along (step Receiver.samplePrimitives) Orderly init droppedThenAnswered ∧
      Transition.Along (step Receiver.samplePrimitives) Fair init droppedThenAnswered :=
  have horderly := by decide +kernel
  ⟨horderly, (responses_partition Receiver.samplePrimitives droppedThenAnswered).2 horderly⟩

/-- What was given up when the response arrives for request 5, whose caller has given up in some way,
and the strays before and after it is taken up. -/
def strays (e : Delivery.Event) : Option (List MessageId × List MessageId × UInt64 × UInt64) := do
  let s ← Transition.exec (step Receiver.samplePrimitives) init
    [.delivery (.register 5), .delivery e, .delivery (.frame Receiver.unsignedHeader.pack)]
  let t ← step Receiver.samplePrimitives s (.delivery .take)
  return (s.givenUp, s.dropping, s.counters.stray, t.counters.stray)

/-- **A response that was given up on is stray**, when the caller ran into its deadline, and when its
guard has not got to the ring. -/
theorem given_up_counts_stray :
    strays (.giveUp 0) = some ([5], [], 0, 1) ∧ strays (.drop 0) = some ([], [5], 0, 1) := by
  decide +kernel

end Counted

end Smb2.Connection
