import Smb2.Client.Connection.Authenticity
import Smb2.Lib.Mailbox

set_option autoImplicit false

/-!
# Delivery of responses

The receiver task and the callers of `client/connection.rs`, within one generation, down to the
one-shot channels of the waiters. A frame is decoded and all its sub-frames are prepared; the final
responses among them are then taken up one by one: the waiter is taken out of the map, and the
response is sent over its channel. In between, other tasks register waiters, run into their deadline,
drop their guards, receive what was sent, or tear the connection down.

## Implementation notes

A response counts as received when the receiver takes it up; until then it is in the hands of the
receiver, like the bytes in the transport's buffer. The waiters map is there twice: under the ids with
what an interim response changes (`Receiver.waiters`), and as the table of the mailbox.
-/

open List Option

namespace Smb2.Connection

open Mailbox (Channel)

structure Answered where
  /-- *Ghost*: the sub-frame. -/
  sub : Bytes
  result : Except Error Frame
deriving DecidableEq

/-- **A connection, as far as the delivery of responses goes.** -/
structure Delivery where
  receiver : Receiver
  mailbox : Mailbox MessageId Answered Error
  /-- *Ghost*: the sub-frames of all frames that were accepted, in order. -/
  arrived : List Bytes

namespace Delivery

open Receiver (answer)

inductive Event
  | register (id : MessageId)
  | giveUp (i : ℕ)
  | drop (i : ℕ)
  | receive (i : ℕ)
  | frame (raw : Bytes)
  | transportError
  | take
  | send (i : ℕ)
  | drain (error : Error)
  | fail (i : ℕ)
  | other (event : Receiver.Event)
deriving DecidableEq

def forget (r : Receiver) (id : Option MessageId) : Receiver :=
  match id with
  | some id => { r with waiters := r.waiters.erase id }
  | none => r

/-- The final responses of a frame, each with what `prepare_sub_frame` has made of it. -/
def pair (subs : List Bytes) (routable : List (MessageId × Except Error Frame)) :
    List (MessageId × Answered) :=
  (subs.filterMap answer).zipWith (fun m r => (r.1, ⟨m.2.2, r.2⟩)) routable

def tearDown (d : Delivery) (r : Receiver) : Option Delivery :=
  (d.mailbox.step (.drain .disconnected)).map fun mailbox =>
    { d with receiver := r.tearDown, mailbox }

variable (K : Primitives)

def step (d : Delivery) : Event → Option Delivery
  | .register id =>
    if d.receiver.disconnected then some d
    else (d.mailbox.step (.register id)).map fun mailbox =>
      { d with
        receiver := { d.receiver with waiters := d.receiver.waiters.insert id ⟨none, 0⟩ }, mailbox }
  | .giveUp i =>
    (d.mailbox.step (.giveUp i)).map fun mailbox =>
      { d with receiver := forget d.receiver ((d.mailbox.channels[i]?).map Channel.key), mailbox }
  | .drop i =>
    (d.mailbox.step (.drop i)).map fun mailbox =>
      { d with receiver := forget d.receiver ((d.mailbox.channels[i]?).map Channel.key), mailbox }
  | .receive i => (d.mailbox.step (.receive i)).map fun mailbox => { d with mailbox }
  | .frame raw =>
    if d.receiver.running ∧ d.mailbox.queue = [] ∧ d.mailbox.channels.all (!·.isRouting) then
      match decodeFrame K d.receiver.crypto raw with
      | .error _ => d.tearDown d.receiver
      | .ok (subs, wasEncrypted) =>
        match Receiver.prepareAll K.mac wasEncrypted subs d.receiver with
        | (.error _, r) => d.tearDown r
        | (.ok routable, r) =>
          (d.mailbox.step (.arrive (pair subs routable))).map fun mailbox =>
            { d with receiver := r, mailbox, arrived := d.arrived ++ subs }
    else none
  | .transportError =>
    if d.receiver.running ∧ d.mailbox.queue = [] ∧ d.mailbox.channels.all (!·.isRouting) then
      d.tearDown d.receiver
    else none
  | .take =>
    match d.mailbox.queue with
    | [] => none
    | (id, answered) :: _ =>
      (d.mailbox.step .take).map fun mailbox =>
        { d with receiver := d.receiver.route [(id, answered.result)], mailbox }
  | .send i => (d.mailbox.step (.send i)).map fun mailbox => { d with mailbox }
  | .drain error =>
    (d.mailbox.step (.drain error)).map fun mailbox =>
      { d with receiver := { d.receiver with waiters := ∅, disconnected := true }, mailbox }
  | .fail i => (d.mailbox.step (.fail i)).map fun mailbox => { d with mailbox }
  | .other event =>
    match event with
    | .activateSigning .. | .activateEncryption .. | .registerOplock .. | .forgetOplock .. =>
      (d.receiver.step K event).map fun receiver => { d with receiver }
    | _ => none

def init : Delivery := ⟨.init, .empty, []⟩

/-- **The final responses received so far**: every sub-frame that is neither an interim response nor a
notification, under the id that it carries. -/
def finals (d : Delivery) : List (MessageId × Bytes) :=
  (d.arrived.filterMap answer).map fun m => (m.1, m.2.2)

section Steps

variable {K} {d d' : Delivery} {e : Event}

/-- **What an event does to the mailbox**: nothing, one of its steps, or a frame arrives whose
sub-frames all parse. -/
inductive Effect (K : Primitives) (d d' : Delivery) : Prop
  | quiet (hmailbox : d'.mailbox = d.mailbox) (harrived : d'.arrived = d.arrived)
  | step (a : Mailbox.Action MessageId Answered Error) (ha : ∀ messages, a ≠ .arrive messages)
      (hstep : d.mailbox.step a = some d'.mailbox) (harrived : d'.arrived = d.arrived)
  | frame (subs : List Bytes) (routable : List (MessageId × Except Error Frame)) (r : Receiver)
      (wasEncrypted : Bool)
      (hprepare : Receiver.prepareAll K.mac wasEncrypted subs d.receiver = (.ok routable, r))
      (hstep : d.mailbox.step (.arrive (pair subs routable)) = some d'.mailbox)
      (harrived : d'.arrived = d.arrived ++ subs)

lemma effect_of_map {a : Mailbox.Action MessageId Answered Error}
    {f : Mailbox MessageId Answered Error → Delivery} (h : (d.mailbox.step a).map f = some d')
    (ha : ∀ messages, a ≠ .arrive messages) (hmailbox : ∀ m, (f m).mailbox = m)
    (harrived : ∀ m, (f m).arrived = d.arrived) : Effect K d d' := by
  obtain ⟨m, hm, rfl⟩ := map_eq_some_iff.1 h
  exact .step a ha (by rw [hm, hmailbox]) (harrived m)

lemma effect_of_step (h : step K d e = some d') : Effect K d d' := by
  revert h
  fun_cases step K d e <;> intro h
  case case1 =>
    obtain rfl := some.inj h
    exact .quiet rfl rfl
  case case8 =>
    obtain ⟨m, hm, rfl⟩ := map_eq_some_iff.1 h
    exact .frame _ _ _ _ ‹_› hm rfl
  case case17 | case18 | case19 | case20 =>
    obtain ⟨r, -, rfl⟩ := map_eq_some_iff.1 h
    exact .quiet rfl rfl
  case case9 | case11 | case12 | case21 => cases h
  all_goals exact effect_of_map h (fun _ => nofun) (fun _ => rfl) fun _ => rfl

lemma pair_eq {subs : List Bytes} {routable : List (MessageId × Except Error Frame)}
    {wasEncrypted : Bool} {r r' : Receiver}
    (h : Receiver.prepareAll K.mac wasEncrypted subs r = (.ok routable, r')) :
    pair subs routable = (subs.filterMap answer).map fun m =>
      (m.1, ⟨m.2.2, Receiver.verdict K.mac r.crypto wasEncrypted m.2.1 m.2.2⟩) := by
  have hspec := (Receiver.prepareAll_spec K.mac wasEncrypted subs r).2
  rw [h] at hspec
  split at hspec
  · obtain rfl := Except.ok.inj hspec
    unfold pair
    rw [zipWith_map_right]
    generalize subs.filterMap answer = l
    induction l with
    | nil => rfl
    | cons m l ih => rw [zipWith_cons_cons, ih, map_cons]
  · obtain ⟨e, he⟩ := hspec
    cases he

def Genuine (K : Primitives) (m : MessageId × Answered) : Prop :=
  ∃ header, answer m.2.sub = some (m.1, header, m.2.sub) ∧
    ∃ crypto wasEncrypted, m.2.result =
      Receiver.verdict K.mac crypto wasEncrypted header m.2.sub

/-- **The invariant**: the responses that were taken up, and those to come, are the final ones among
all sub-frames, in order, and each is made of its sub-frame. -/
structure Faithful (K : Primitives) (d : Delivery) : Prop where
  finals : (d.mailbox.seen ++ d.mailbox.queue).map (fun m => (m.1, m.2.sub)) = d.finals
  genuine : ∀ m ∈ d.mailbox.seen ++ d.mailbox.queue, Genuine K m

lemma answer_eq_some {sub : Bytes} {m : MessageId × Header × Bytes} (h : answer sub = some m) :
    m.1 = m.2.1.messageId ∧ m.2.2 = sub := by
  revert h
  fun_cases answer sub <;> intro h <;> cases h
  exact ⟨rfl, rfl⟩

lemma faithful_of_step (hd : Faithful K d) (h : step K d e = some d') : Faithful K d' := by
  cases effect_of_step h with
  | quiet hmailbox harrived =>
    refine ⟨?_, ?_⟩
    · rw [hmailbox, hd.finals, finals, finals, harrived]
    · rw [hmailbox]
      exact hd.genuine
  | step a ha hstep harrived =>
    have hsame : d'.mailbox.seen ++ d'.mailbox.queue = d.mailbox.seen ++ d.mailbox.queue := by
      have hmessages := Mailbox.messages_of_step hstep
      cases a with
      | arrive messages => exact absurd rfl (ha messages)
      | _ => rw [hmessages, append_nil]
    refine ⟨?_, ?_⟩
    · rw [hsame, hd.finals, finals, finals, harrived]
    · rw [hsame]
      exact hd.genuine
  | frame subs routable r wasEncrypted hprepare hstep harrived =>
    have hmessages : d'.mailbox.seen ++ d'.mailbox.queue =
        d.mailbox.seen ++ d.mailbox.queue ++ pair subs routable := Mailbox.messages_of_step hstep
    have hpair := pair_eq hprepare
    refine ⟨?_, ?_⟩
    · rw [hmessages, List.map_append, hd.finals, finals, finals, harrived, filterMap_append,
        List.map_append, hpair, List.map_map]
      rfl
    · intro m hm
      rw [hmessages] at hm
      rcases mem_append.1 hm with hold | hnew
      · exact hd.genuine m hold
      · rw [hpair] at hnew
        obtain ⟨⟨id, header, sub⟩, hmem, rfl⟩ := mem_map.1 hnew
        obtain ⟨sub', -, hanswer⟩ := mem_filterMap.1 hmem
        obtain rfl : sub = sub' := (answer_eq_some hanswer).2
        exact ⟨header, hanswer, _, _, rfl⟩

end Steps

/-! ## Runs -/

section Runs

variable {K} {d d' : Delivery} {run : List Event}

lemma faithful_of_exec (h : Transition.exec (step K) init run = some d) : Faithful K d := by
  refine Transition.exec_invariant_of_step (I := Faithful K) ?_ ⟨rfl, fun m hm => by cases hm⟩ h
  intro s e t hs hstep
  exact faithful_of_step hs hstep

lemma Genuine.frame {m : MessageId × Answered} {frame : Frame} (h : Genuine K m)
    (hframe : m.2.result = .ok frame) :
    frame.raw = m.2.sub ∧ frame.header.messageId = m.1 := by
  obtain ⟨header, hanswer, crypto, wasEncrypted, hresult⟩ := h
  rw [hresult] at hframe
  revert hframe
  fun_cases Receiver.verdict K.mac crypto wasEncrypted header m.2.sub <;> intro hframe <;>
    cases hframe
  exact ⟨rfl, (answer_eq_some hanswer).1.symm⟩

end Runs

end Delivery

end Smb2.Connection
