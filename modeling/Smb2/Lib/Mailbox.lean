import Smb2.Lib.Run

set_option autoImplicit false

/-!
# One-shot channels under keys

Requests wait for messages under keys. A request is registered with a fresh one-shot channel: the
sending half goes into a table under the key, the owner keeps the receiving half. A dispatcher takes
up the messages one after the other; for each it takes the sending half out of the table, if there is
one under the message's key, and then sends. In between, requests are registered, owners give up and
drop their halves, and the whole table may be taken out to be failed with an error.

`Mailbox` has one entry for each channel ever made, which says where the sending half is. No step
looks at the ghost fields.
-/

open List Option

inductive Mailbox.Sender (α ε : Type)
  | waiting
  | routing (message : α)
  /-- With somebody who has taken out the table, and is about to send an error. -/
  | failing (error : ε)
  | gone
deriving DecidableEq

inductive Mailbox.Resolution (α ε : Type)
  | routed (message : α)
  | failed (error : ε)
  | closed
deriving DecidableEq

inductive Mailbox.Owner
  | waiting
  | givenUp
  | dropped
deriving DecidableEq

structure Mailbox.Channel (κ α ε : Type) where
  key : κ
  sender : Mailbox.Sender α ε
  owner : Mailbox.Owner
  slot : Option (Mailbox.Resolution α ε)
  received : Option (Mailbox.Resolution α ε)
  /-- *Ghost*: how many messages had been taken up when the channel was registered. -/
  since : ℕ
  /-- *Ghost*: everything the sending half was used for, in order. -/
  resolutions : List (Mailbox.Resolution α ε)
deriving DecidableEq

structure Mailbox (κ α ε : Type) where
  channels : List (Mailbox.Channel κ α ε)
  queue : List (κ × α)
  shut : Bool
  /-- *Ghost*: the messages taken up so far. -/
  seen : List (κ × α)
deriving DecidableEq

namespace Mailbox

variable {κ α ε : Type} [DecidableEq κ]

namespace Channel

def isWaiting (c : Channel κ α ε) : Bool :=
  match c.sender with
  | .waiting => true
  | _ => false

def isRouting (c : Channel κ α ε) : Bool :=
  match c.sender with
  | .routing _ => true
  | _ => false

/-- The sending half is used up. What is sent arrives unless the receiving half was dropped. -/
def resolve (c : Channel κ α ε) (r : Resolution α ε) : Channel κ α ε :=
  { c with
    sender := .gone
    slot := if c.owner = .dropped then c.slot else some r
    resolutions := c.resolutions ++ [r] }

def remove (key : κ) (c : Channel κ α ε) : Channel κ α ε :=
  if c.isWaiting ∧ c.key = key then c.resolve .closed else c

def take (key : κ) (message : α) (c : Channel κ α ε) : Channel κ α ε :=
  if c.isWaiting ∧ c.key = key then { c with sender := .routing message } else c

def drain (error : ε) (c : Channel κ α ε) : Channel κ α ε :=
  if c.isWaiting then { c with sender := .failing error } else c

end Channel

inductive Action (κ α ε : Type)
  | register (key : κ)
  | arrive (messages : List (κ × α))
  | take
  | send (i : ℕ)
  | drain (error : ε)
  | fail (i : ℕ)
  /-- An owner stops waiting, and removes what is in the table under its key. -/
  | giveUp (i : ℕ)
  | drop (i : ℕ)
  | receive (i : ℕ)
deriving DecidableEq

def register (b : Mailbox κ α ε) (key : κ) : Mailbox κ α ε :=
  { b with channels := b.channels.map (Channel.remove key) ++
      [⟨key, .waiting, .waiting, none, none, b.seen.length, []⟩] }

def modify (b : Mailbox κ α ε) (i : ℕ) (f : Channel κ α ε → Channel κ α ε) : Mailbox κ α ε :=
  { b with channels := b.channels.modify i f }

/-- **One step.** The dispatcher gets messages when it is done with those before. -/
def step (b : Mailbox κ α ε) : Action κ α ε → Option (Mailbox κ α ε)
  | .register key => if b.shut then none else some (b.register key)
  | .arrive messages =>
    if b.queue = [] ∧ b.channels.all (!·.isRouting) then some { b with queue := messages } else none
  | .take =>
    match b.queue with
    | [] => none
    | (key, message) :: rest =>
      if b.channels.all (!·.isRouting) then
        some { b with
          channels := b.channels.map (Channel.take key message)
          queue := rest
          seen := b.seen ++ [(key, message)] }
      else none
  | .send i =>
    match (b.channels[i]?).map Channel.sender with
    | some (.routing message) => some (b.modify i (·.resolve (.routed message)))
    | _ => none
  | .drain error => some { b with channels := b.channels.map (Channel.drain error), shut := true }
  | .fail i =>
    match (b.channels[i]?).map Channel.sender with
    | some (.failing error) => some (b.modify i (·.resolve (.failed error)))
    | _ => none
  | .giveUp i =>
    match b.channels[i]? with
    | some c =>
      if c.owner = .waiting then
        some ({ b with channels := b.channels.map (Channel.remove c.key) }.modify i
          fun c => { c with owner := .givenUp })
      else none
    | none => none
  | .drop i =>
    match b.channels[i]? with
    | some c =>
      if c.owner ≠ .dropped then
        some ({ b with channels := b.channels.map (Channel.remove c.key) }.modify i
          fun c => { c with owner := .dropped })
      else none
    | none => none
  | .receive i =>
    match b.channels[i]? with
    | some c =>
      if c.owner = .waiting ∧ c.received = none ∧ c.slot ≠ none then
        some (b.modify i fun c => { c with received := c.slot })
      else none
    | none => none

def empty : Mailbox κ α ε := ⟨[], [], false, []⟩

/-! ## What holds of a channel -/

def firstSince (seen : List (κ × α)) (c : Channel κ α ε) : Option (κ × α) :=
  (seen.drop c.since).find? (·.1 = c.key)

/-- **What holds of every channel**, when the messages `seen` have been taken up. -/
structure Channel.Sound (seen : List (κ × α)) (c : Channel κ α ε) : Prop where
  since_le : c.since ≤ seen.length
  waiting : c.sender = .waiting → firstSince seen c = none
  routing : ∀ a, c.sender = .routing a → firstSince seen c = some (c.key, a)
  unused : c.sender ≠ .gone → c.resolutions = []
  once : c.resolutions.length ≤ 1
  routed : ∀ a, .routed a ∈ c.resolutions → firstSince seen c = some (c.key, a)
  slot : ∀ r, c.slot = some r → r ∈ c.resolutions
  received : ∀ r, c.received = some r → r ∈ c.resolutions

namespace Channel

variable {seen : List (κ × α)} {c : Channel κ α ε}

lemma firstSince_append {m m' : κ × α} (hle : c.since ≤ seen.length)
    (h : firstSince seen c = some m) : firstSince (seen ++ [m']) c = some m := by
  unfold firstSince at h ⊢
  rw [drop_append_of_le_length hle, find?_append, h]
  rfl

lemma firstSince_append_of_none {m : κ × α} (hle : c.since ≤ seen.length)
    (h : firstSince seen c = none) :
    firstSince (seen ++ [m]) c = if m.1 = c.key then some m else none := by
  unfold firstSince at h ⊢
  rw [drop_append_of_le_length hle, find?_append, h]
  simp [find?_cons]
  split <;> simp_all

lemma Sound.resolve {r : Resolution α ε} (h : c.Sound seen) (hsender : c.sender ≠ .gone)
    (hr : ∀ a, r = .routed a → firstSince seen c = some (c.key, a)) : (c.resolve r).Sound seen := by
  have hnil := h.unused hsender
  have hlog : (c.resolve r).resolutions = [r] := by
    show c.resolutions ++ [r] = [r]
    rw [hnil]
    rfl
  refine ⟨h.since_le, fun hs => (by cases hs), fun a hs => (by cases hs), fun hs => absurd rfl hs,
    by rw [hlog]; exact le_rfl, fun a ha => ?_, fun r' hr' => ?_, fun r' hr' => ?_⟩
  · rw [hlog, mem_singleton] at ha
    exact hr a ha.symm
  · rw [hlog]
    have hslot : (if c.owner = .dropped then c.slot else some r) = some r' := hr'
    split at hslot
    · have hmem := h.slot r' hslot
      rw [hnil] at hmem
      cases hmem
    · rw [some.inj hslot]
      exact mem_singleton_self r'
  · have hmem := h.received r' hr'
    rw [hnil] at hmem
    cases hmem

omit [DecidableEq κ] in
lemma isWaiting_iff : c.isWaiting ↔ c.sender = .waiting := by
  unfold isWaiting
  split <;> simp_all

lemma Sound.remove (h : c.Sound seen) (key : κ) : (c.remove key).Sound seen := by
  unfold Channel.remove
  split
  · rename_i hc
    have hsender := isWaiting_iff.1 hc.1
    refine h.resolve ?_ ?_
    · rw [hsender]
      exact fun hgone => (by cases hgone)
    · intro a ha
      cases ha
  · exact h

lemma Sound.drain (h : c.Sound seen) (error : ε) : (c.drain error).Sound seen := by
  unfold Channel.drain
  split
  · rename_i hc
    have hsender := isWaiting_iff.1 hc
    have hnil := h.unused (by rw [hsender]; exact fun hgone => (by cases hgone))
    exact ⟨h.since_le, fun hs => (by cases hs), fun a hs => (by cases hs), fun _ => hnil, h.once,
      h.routed, h.slot, h.received⟩
  · exact h

lemma Sound.take (h : c.Sound seen) (key : κ) (message : α) :
    (c.take key message).Sound (seen ++ [(key, message)]) := by
  have hle : c.since ≤ (seen ++ [(key, message)]).length := by
    rw [length_append]
    exact Nat.le_add_right_of_le h.since_le
  have hrouted : ∀ a, .routed a ∈ c.resolutions →
      firstSince (seen ++ [(key, message)]) c = some (c.key, a) :=
    fun a ha => firstSince_append h.since_le (h.routed a ha)
  unfold Channel.take
  split
  · rename_i hc
    have hsender := isWaiting_iff.1 hc.1
    have hnil := h.unused (by rw [hsender]; exact fun hgone => (by cases hgone))
    refine ⟨hle, fun hs => (by cases hs), fun a hs => ?_, fun _ => hnil, h.once, hrouted, h.slot,
      h.received⟩
    obtain rfl := Sender.routing.inj hs
    obtain ⟨-, rfl⟩ := hc
    exact (firstSince_append_of_none h.since_le (h.waiting hsender)).trans (if_pos rfl)
  · rename_i hc
    refine ⟨hle, fun hs => ?_, fun a hs => firstSince_append h.since_le (h.routing a hs), h.unused,
      h.once, hrouted, h.slot, h.received⟩
    rw [firstSince_append_of_none h.since_le (h.waiting hs), if_neg]
    intro hkey
    exact hc ⟨isWaiting_iff.2 hs, hkey.symm⟩

lemma Sound.owner (h : c.Sound seen) (owner : Owner) : ({ c with owner } : Channel κ α ε).Sound seen :=
  ⟨h.since_le, h.waiting, h.routing, h.unused, h.once, h.routed, h.slot, h.received⟩

lemma Sound.receive (h : c.Sound seen) : ({ c with received := c.slot } : Channel κ α ε).Sound seen :=
  ⟨h.since_le, h.waiting, h.routing, h.unused, h.once, h.routed, h.slot, h.slot⟩

/-- **What stays of a channel**: key and registration; what the sending half was used for; and once
the owner does not wait any more, what it has received, and once it has dropped its half, what is in
the channel. -/
structure Later (c c' : Channel κ α ε) : Prop where
  key : c'.key = c.key
  since : c'.since = c.since
  resolutions : c.resolutions <+: c'.resolutions
  givenUp : c.owner ≠ .waiting → c'.owner ≠ .waiting ∧ c'.received = c.received
  dropped : c.owner = .dropped → c'.owner = .dropped ∧ c'.slot = c.slot

omit [DecidableEq κ]

lemma Later.refl (c : Channel κ α ε) : Later c c :=
  ⟨rfl, rfl, prefix_rfl, fun h => ⟨h, rfl⟩, fun h => ⟨h, rfl⟩⟩

lemma Later.trans {c c' c'' : Channel κ α ε} (h : Later c c') (h' : Later c' c'') : Later c c'' := by
  refine ⟨h'.key.trans h.key, h'.since.trans h.since, h.resolutions.trans h'.resolutions,
    fun hc => ?_, fun hc => ?_⟩
  · obtain ⟨howner, hreceived⟩ := h.givenUp hc
    exact ⟨(h'.givenUp howner).1, (h'.givenUp howner).2.trans hreceived⟩
  · obtain ⟨howner, hslot⟩ := h.dropped hc
    exact ⟨(h'.dropped howner).1, (h'.dropped howner).2.trans hslot⟩

end Channel

/-! ## Steps and runs -/

section Steps

variable {b b' : Mailbox κ α ε} {a : Action κ α ε}

inductive Effect (b : Mailbox κ α ε) : Action κ α ε → Mailbox κ α ε → Prop
  | register {key : κ} (hshut : b.shut = false) : Effect b (.register key) (b.register key)
  | arrive {messages : List (κ × α)} (hqueue : b.queue = [])
      (hidle : b.channels.all (!·.isRouting)) :
      Effect b (.arrive messages) { b with queue := messages }
  | take {key : κ} {message : α} {rest : List (κ × α)} (hqueue : b.queue = (key, message) :: rest)
      (hidle : b.channels.all (!·.isRouting)) :
      Effect b .take
        { b with
          channels := b.channels.map (Channel.take key message)
          queue := rest
          seen := b.seen ++ [(key, message)] }
  | send {i : ℕ} {c : Channel κ α ε} {message : α} (hc : b.channels[i]? = some c)
      (hsender : c.sender = .routing message) :
      Effect b (.send i) (b.modify i (·.resolve (.routed message)))
  | drain {error : ε} :
      Effect b (.drain error) { b with channels := b.channels.map (Channel.drain error), shut := true }
  | fail {i : ℕ} {c : Channel κ α ε} {error : ε} (hc : b.channels[i]? = some c)
      (hsender : c.sender = .failing error) :
      Effect b (.fail i) (b.modify i (·.resolve (.failed error)))
  | giveUp {i : ℕ} {c : Channel κ α ε} (hc : b.channels[i]? = some c) (howner : c.owner = .waiting) :
      Effect b (.giveUp i)
        ({ b with channels := b.channels.map (Channel.remove c.key) }.modify i
          fun c => { c with owner := .givenUp })
  | drop {i : ℕ} {c : Channel κ α ε} (hc : b.channels[i]? = some c) (howner : c.owner ≠ .dropped) :
      Effect b (.drop i)
        ({ b with channels := b.channels.map (Channel.remove c.key) }.modify i
          fun c => { c with owner := .dropped })
  | receive {i : ℕ} {c : Channel κ α ε} (hc : b.channels[i]? = some c) (howner : c.owner = .waiting) :
      Effect b (.receive i) (b.modify i fun c => { c with received := c.slot })

lemma effect_of_step (h : b.step a = some b') : Effect b a b' := by
  revert h
  fun_cases step b a <;> intro h <;> cases h
  · exact .register (Bool.eq_false_iff.2 ‹_›)
  · exact .arrive (And.left ‹_›) (And.right ‹_›)
  · exact .take ‹_› ‹_›
  · obtain ⟨c, hc, hrouting⟩ := map_eq_some_iff.1 ‹_›
    exact .send hc hrouting
  · exact .drain
  · obtain ⟨c, hc, hfailing⟩ := map_eq_some_iff.1 ‹_›
    exact .fail hc hfailing
  · exact .giveUp ‹_› ‹_›
  · exact .drop ‹_› ‹_›
  · exact .receive ‹_› (And.left ‹_›)

/-- **What a step does to the channels**: those that were there become later ones, each sound if it
was, and there may be a fresh one behind them. -/
structure Moves (b b' : Mailbox κ α ε) : Prop where
  later : ∀ (i : ℕ) (c : Channel κ α ε), b.channels[i]? = some c →
    ∃ c', b'.channels[i]? = some c' ∧ c.Later c'
  sound : (∀ c ∈ b.channels, c.Sound b.seen) → ∀ c ∈ b'.channels, c.Sound b'.seen

variable {f : Channel κ α ε → Channel κ α ε} {i : ℕ}

lemma Moves.refl (b : Mailbox κ α ε) : Moves b b :=
  ⟨fun _ c hc => ⟨c, hc, .refl c⟩, fun hb => hb⟩

lemma Moves.trans {b'' : Mailbox κ α ε} (h : Moves b b') (h' : Moves b' b'') : Moves b b'' := by
  refine ⟨fun i c hc => ?_, fun hb => h'.sound (h.sound hb)⟩
  obtain ⟨c', hc', hlater⟩ := h.later i c hc
  obtain ⟨c'', hc'', hlater'⟩ := h'.later i c' hc'
  exact ⟨c'', hc'', hlater.trans hlater'⟩

lemma messages_of_step (h : b.step a = some b') :
    b'.seen ++ b'.queue = b.seen ++ b.queue ++ match a with
      | .arrive messages => messages
      | _ => [] := by
  cases effect_of_step h with
  | arrive hqueue hidle => simp [hqueue]
  | take hqueue hidle => simp [hqueue]
  | _ => exact (append_nil _).symm

end Steps

end Mailbox
