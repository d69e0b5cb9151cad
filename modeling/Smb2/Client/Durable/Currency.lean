import Smb2.Client.Connection.Revival
import Smb2.Client.Durable.Reclaim

set_option autoImplicit false

/-!
# Handles that say they are current

A durable handle is stamped with the generation of its connection, the count of its revivals.
`is_current` compares the stamp with the generation that the connection has when it is asked. The
handle was issued by the session over which the answer to its CREATE came, and the stamp is read
later, when the answers to the whole compound have been looked at. Another clone of the connection
may revive it in between, and a revival counts only once its new session stands.

This file puts the calls that return durable handles on top of the connection, with every
interleaving of its tasks, and says when a handle that calls itself current is.

## Implementation notes

The sessions of a connection are told apart by `cryptoEpoch`, the generation of its crypto state.
The frames that reach a waiter do not say over which transport they came; `Holdings.origin` notes it
for every channel when the receiver of a transport puts a frame in. A call is a task of the
connection that executes the compound of three requests; its CREATE is the first of them, so its
channel is the first that the task registers. What the responses say is up to the server.
-/

open Option

namespace Smb2

open Connection (World Action Frame)
open Handles

namespace Connection

def World.generation (w : World) : UInt64 := UInt64.ofNat w.shared.revival.revivals

/-- **No revival has replaced the session without being counted**: the transport and the crypto
state are of one generation, and the session over that transport stands. -/
def Settled (w : World) : Prop :=
  w.shared.revival.building = none ∧ w.shared.session.cryptoEpoch = w.shared.plumbing.writeTx
deriving Decidable

lemma Effect.settled {w : World} {s' : Shared} {i : ℕ} {t t' : Task} {c : Choice} {op : Op}
    {new tasks : List Task} (hw : Revivable w) (h : Effect w.shared i t c op s' t' new)
    (hsettled : Settled ⟨s', tasks⟩) :
    (s'.revival.revivals = w.shared.revival.revivals ∧ Settled w ∧
        s'.session.cryptoEpoch = w.shared.session.cryptoEpoch) ∨
      s'.revival.revivals = w.shared.revival.revivals + 1 := by
  obtain ⟨hbuilding, hepoch⟩ := hsettled
  cases h with
  | credit h => exact .inl ⟨rfl, ⟨hbuilding, hepoch⟩, rfl⟩
  | session h =>
    have hcrypto := h.epochs_eq.2.1
    exact .inl ⟨rfl, ⟨hbuilding, hcrypto.symm.trans hepoch⟩, hcrypto⟩
  | @waiter o _ _ h =>
    have hrevivals : (w.shared.revival.afterWaiter i o).revivals = w.shared.revival.revivals := by
      unfold Revival.afterWaiter
      split <;> rfl
    have hsame : (w.shared.revival.afterWaiter i o).building = w.shared.revival.building := by
      unfold Revival.afterWaiter
      split <;> rfl
    exact .inl ⟨hrevivals, ⟨hsame.symm.trans hbuilding, hepoch⟩, rfl⟩
  | queue h => exact .inl ⟨rfl, ⟨hbuilding, hepoch.trans h.writeTx_eq⟩, rfl⟩
  | control h =>
    cases h with
    | wipeCrypto =>
      -- the crypto state is never older than the transport, so now it is newer
      have hle := hw.cryptoEpoch
      have hwiped : w.shared.session.cryptoEpoch + 1 = w.shared.plumbing.writeTx := hepoch
      omega
    | swapQueue => cases hbuilding
    | revived => exact .inr rfl
    | _ => exact .inl ⟨rfl, ⟨hbuilding, hepoch⟩, rfl⟩

/-- **A step to a settled state**: the session is the one it was and the state before was settled
as well, or a revival has been counted. -/
theorem settled_of_step {w w' : World} {a : Action} (hw : Revivable w) (h : step w a = some w')
    (hsettled : Settled w') :
    (w'.shared.revival.revivals = w.shared.revival.revivals ∧ Settled w ∧
        w'.shared.session.cryptoEpoch = w.shared.session.cryptoEpoch) ∨
      w'.shared.revival.revivals = w.shared.revival.revivals + 1 := by
  cases stepped_of_step h with
  | run ht hop heffect => exact heffect.settled hw hsettled
  | _ => exact .inl ⟨rfl, hsettled, rfl⟩

lemma revivals_le_of_step {w w' : World} {a : Action} (h : step w a = some w') :
    w.shared.revival.revivals ≤ w'.shared.revival.revivals := by
  cases stepped_of_step h with
  | run ht hop heffect =>
    cases heffect with
    | waiter h =>
      show _ ≤ (Revival.afterWaiter _ _ _).revivals
      unfold Revival.afterWaiter
      split <;> exact le_rfl
    | control h =>
      cases h with
      | revived => exact Nat.le_succ _
      | _ => exact le_rfl
    | _ => exact le_rfl
  | _ => exact le_rfl

end Connection

open Connection (Settled settled_of_step revivals_le_of_step Regular Choice turns answeredRequest)

/-! ## The calls on top of the connection -/

namespace Holdings

/-- A call under way: the task that executes its compound, and the channel on which that task waits
for the answer to the CREATE, once it has one. -/
structure Pending where
  task : ℕ
  call : DurableCall
  channel : Option ℕ
deriving DecidableEq

/-- A handle that a call has returned, with the generation of the session that has issued its
`FileId` (*ghost*). -/
structure Stamped where
  handle : DurableHandle
  issuer : Option ℕ
deriving DecidableEq

end Holdings

open Holdings (Pending Stamped)

/-- **A connection and the durable handles opened over it.** -/
structure Holdings where
  world : World
  /-- *Ghost*: the generation of the transport over which the frame in a channel came. -/
  origin : ℕ → Option ℕ
  pending : List Pending
  handles : List Stamped

namespace Holdings

inductive Event
  /-- A step of the connection: of one of the calls, of any other task, of a revival. -/
  | conn (a : Action)
  | start (call : DurableCall)
  /-- Call `k` has the responses to its compound and goes on, with the answers to what it sends
  then. -/
  | finish (k : ℕ) (responses : Responses) (answers : List (Except Error Frame))
  | isCurrent (k : ℕ)

def delivery (w : World) (a : Action) : Option (ℕ × ℕ) :=
  match a with
  | .run i _ =>
    match w.tasks[i]? with
    | some t =>
      match t.role, t.prog with
      | .receiver gen, .waiter (.route id true) :: _ =>
        (w.shared.routing.waiters.lookup id).bind fun waiter =>
          if w.shared.routing.replies waiter.tx = .empty then some (waiter.tx, gen) else none
      | _, _ => none
    | none => none
  | _ => none

def noteOrigin (origin : ℕ → Option ℕ) (w : World) (a : Action) : ℕ → Option ℕ :=
  match delivery w a with
  | some (channel, gen) => Function.update origin channel (some gen)
  | none => origin

def Pending.noteChannel (p : Pending) (w : World) : Pending :=
  match p.channel with
  | some _ => p
  | none => { p with channel := (w.tasks[p.task]?).bind fun t => t.guards.head?.map (·.rx) }

def notePending (pending : List Pending) (w : World) (a : Action) : List Pending :=
  (pending.filter fun p => !decide (a = .drop p.task)).map (·.noteChannel w)

/-- The compound of a call has been executed, and its CREATE was answered with a frame on the given
channel. -/
def Pending.answered (p : Pending) (w : World) (channel : ℕ) : Bool :=
  decide (p.channel = some channel ∧ w.shared.routing.replies channel = .frame) &&
    (w.tasks[p.task]?).any fun t => t.prog.isEmpty

/-- **One step.** A call reads the generation of the connection when it makes its handle. -/
def step (s : Holdings) : Event → Option Holdings
  | .conn a =>
    (Connection.step s.world a).map fun w =>
      { s with
        world := w
        origin := noteOrigin s.origin s.world a
        pending := notePending s.pending w a }
  | .start call =>
    (Connection.step s.world (.spawn (.compound [1, 1, 1]))).map fun w =>
      { s with
        world := w
        pending := s.pending ++ [⟨s.world.tasks.length, call, none⟩] }
  | .finish k responses answers =>
    (s.pending[k]?).bind fun p =>
      p.channel.bind fun channel =>
        if p.answered s.world channel then
          (p.call.run s.world.generation responses ⟨answers, []⟩).map fun out =>
            { s with
              pending := s.pending.eraseIdx k
              handles := s.handles ++
                (out.1.toOption.bind Prod.snd).toList.map fun h => ⟨h, s.origin channel⟩ }
        else none
  | .isCurrent k => if k < s.handles.length then some s else none

def init : Holdings := ⟨Connection.init, fun _ => none, [], []⟩

/-- **A handle that says it is current is**: when `is_current` returns `true`, the `FileId` was
issued by the session that the connection has. -/
def Truthful (s : Holdings) (e : Event) (_ : Holdings) : Prop :=
  match e with
  | .isCurrent k =>
    ∀ stamped ∈ s.handles[k]?, stamped.handle.isCurrent s.world.generation →
      stamped.issuer = some s.world.shared.session.cryptoEpoch
  | _ => True

/-- **The condition**: a call goes on while a revival is under way or over the transport that has
brought the answer to its CREATE, and `is_current` is asked while none is, with a count of revivals
that has not wrapped around. -/
def Timely (s : Holdings) (e : Event) (_ : Holdings) : Prop :=
  match e with
  | .finish k _ _ =>
    Settled s.world → ∀ p ∈ s.pending[k]?, ∀ channel ∈ p.channel,
      s.origin channel = some s.world.shared.plumbing.writeTx
  | .isCurrent _ => Settled s.world ∧ s.world.shared.revival.revivals < 2 ^ 64
  | _ => True

/-! ## Timely calls -/

/-- What holds of a handle in every state that timely calls lead to: its stamp is a count that the
connection has had, and if it is the present count of a settled connection, the handle is of the
present session. -/
def Stamped.Sound (stamped : Stamped) (w : World) : Prop :=
  ∃ r ≤ w.shared.revival.revivals, stamped.handle.generation = UInt64.ofNat r ∧
    (r = w.shared.revival.revivals → Settled w →
      stamped.issuer = some w.shared.session.cryptoEpoch)

lemma Stamped.Sound.of_step {stamped : Stamped} {w w' : World} {a : Action}
    (h : stamped.Sound w) (hw : Regular w) (hstep : Connection.step w a = some w') :
    stamped.Sound w' := by
  obtain ⟨r, hr, hgeneration, hissuer⟩ := h
  refine ⟨r, hr.trans (revivals_le_of_step hstep), hgeneration, ?_⟩
  intro hcurrent hsettled
  rcases settled_of_step hw.revivable hstep hsettled with ⟨hsame, hbefore, hepoch⟩ | hcounted
  · rw [hepoch]
    exact hissuer (hcurrent.trans hsame) hbefore
  · omega

lemma Stamped.Sound.issuer_eq {stamped : Stamped} {w : World} (h : stamped.Sound w)
    (hsettled : Settled w) (hcount : w.shared.revival.revivals < 2 ^ 64)
    (hcurrent : stamped.handle.isCurrent w.generation) :
    stamped.issuer = some w.shared.session.cryptoEpoch := by
  obtain ⟨r, hr, hgeneration, hissuer⟩ := h
  have hstamp : UInt64.ofNat r = UInt64.ofNat w.shared.revival.revivals :=
    hgeneration.symm.trans (eq_of_beq hcurrent)
  have hnat := congrArg UInt64.toNat hstamp
  rw [UInt64.toNat_ofNat_of_lt' (hr.trans_lt hcount), UInt64.toNat_ofNat_of_lt' hcount] at hnat
  exact hissuer hnat hsettled

lemma generation_of_mem {call : DurableCall} {generation : UInt64} {responses : Responses}
    {s s' : Exchange Request Error Frame} {x : Except Error (FileId × Option DurableHandle)}
    (h : call.run generation responses s = some (x, s')) {handle : DurableHandle}
    (hmem : handle ∈ (x.toOption.bind Prod.snd).toList) : handle.generation = generation := by
  cases x with
  | error e => cases hmem
  | ok result =>
    obtain ⟨file, durable⟩ := result
    cases durable with
    | none => cases hmem
    | some other =>
      obtain rfl : handle = other := List.mem_singleton.1 hmem
      exact DurableCall.generation_of_run h

def Sound (s : Holdings) : Prop :=
  Regular s.world ∧ ∀ stamped ∈ s.handles, stamped.Sound s.world

lemma sound_of_step {s s' : Holdings} {e : Event} (hs : s.Sound) (htimely : Timely s e s')
    (h : step s e = some s') : s'.Sound ∧ Truthful s e s' := by
  obtain ⟨hregular, hhandles⟩ := hs
  cases e with
  | conn _ | start _ =>
    simp only [step] at h
    obtain ⟨w, hw, rfl⟩ := map_eq_some_iff.1 h
    refine ⟨⟨Connection.regular_of_step hregular hw, ?_⟩, trivial⟩
    intro stamped hmem
    exact (hhandles stamped hmem).of_step hregular hw
  | finish k responses answers =>
    obtain ⟨p, hp, h⟩ := bind_eq_some_iff.1 h
    obtain ⟨channel, hchannel, h⟩ := bind_eq_some_iff.1 h
    obtain ⟨-, h⟩ := ite_none_right_eq_some.1 h
    obtain ⟨⟨x, t⟩, hrun, rfl⟩ := map_eq_some_iff.1 h
    refine ⟨⟨hregular, ?_⟩, trivial⟩
    intro stamped hmem
    rcases List.mem_append.1 hmem with hmem | hmem
    · exact hhandles stamped hmem
    · obtain ⟨handle, hhandle, rfl⟩ := List.mem_map.1 hmem
      refine ⟨_, le_rfl, generation_of_mem hrun hhandle, ?_⟩
      intro _ hsettled
      show s.origin channel = some s.world.shared.session.cryptoEpoch
      rw [hsettled.2]
      exact htimely hsettled p hp channel hchannel
  | isCurrent k =>
    obtain ⟨-, h⟩ := ite_none_right_eq_some.1 h
    obtain rfl := some.inj h
    refine ⟨⟨hregular, hhandles⟩, ?_⟩
    intro stamped hmem hcurrent
    have hsound := hhandles stamped (List.mem_of_getElem? hmem)
    exact hsound.issuer_eq htimely.1 htimely.2 hcurrent

lemma sound_init : init.Sound := ⟨Connection.regular_init, fun _ h => absurd h List.not_mem_nil⟩

/-- **A handle that says it is current is**, in every run in which calls and questions are
timely. -/
theorem isCurrent_truthful {es : List Event} (h : Transition.Along step Timely init es) :
    Transition.Along step Truthful init es := by
  refine Transition.along_of_invariant (I := Sound) ?_ sound_init h
  intro s e s' hs htimely hstep
  exact sound_of_step hs htimely hstep

/-! ### Opens with and without a revival in between -/

def answer (ids : List ℕ) : Choice := .frame (ids.map fun id => ⟨id, 1, .route true⟩) false

/-- Task `i` goes on for `n` operations to the point where its request is enqueued, the writer sends
it, and the task waits for the answer. -/
def sent (i n writer : ℕ) : List Action := turns i n ++ turns writer 2 ++ turns i 2

def answeredOpen : List Event :=
  answeredRequest.map .conn ++ .start (.openFile Durable.sampleGuid) ::
    (sent 3 16 0 ++ .run 1 (answer [1, 2, 3]) :: turns 1 9 ++ turns 3 6).map .conn

def revivalBegun : List Event :=
  (.spawn .markDead :: turns 4 4 ++ .spawn (.reconnect 1) :: sent 5 25 6).map .conn

/-- The server answers NEGOTIATE and two requests to set the session up, and the revival is
counted. -/
def revivalDone : List Event :=
  (.run 7 (answer [0]) :: turns 7 3 ++ sent 5 15 6 ++
    .run 7 (answer [1]) :: turns 7 3 ++ turns 5 2 ++ .run 5 (.session 7) :: sent 5 12 6 ++
    .run 7 (answer [2]) :: turns 7 3 ++ turns 5 2 ++ .run 5 (.session 7) :: turns 5 3).map .conn

def finished : Event := .finish 0 (Durable.serverWith ⟨3, 4⟩ 5 []) []

def seen (s : Holdings) : List (Bool × Option ℕ) × ℕ :=
  (s.handles.map fun h => (h.handle.isCurrent s.world.generation, h.issuer),
    s.world.shared.session.cryptoEpoch)

instance (s : Holdings) (e : Event) (s' : Holdings) : Decidable (Timely s e s') :=
  match e with
  | .conn _ | .start _ => .isTrue trivial
  | .finish k _ _ =>
    inferInstanceAs (Decidable (Settled s.world → ∀ p ∈ s.pending[k]?, ∀ channel ∈ p.channel,
      s.origin channel = some s.world.shared.plumbing.writeTx))
  | .isCurrent _ =>
    inferInstanceAs (Decidable (Settled s.world ∧ s.world.shared.revival.revivals < 2 ^ 64))

theorem isCurrent_truthful_answeredOpen :
    (Transition.exec step init (answeredOpen ++ [finished])).map seen = some ([(true, some 0)], 0) ∧
      Transition.Along step Truthful init (answeredOpen ++ [finished, .isCurrent 0]) :=
  ⟨by decide +kernel, isCurrent_truthful (by decide +kernel)⟩

lemma not_truthful {es : List Event}
    (h : (Transition.exec step init es).map seen = some ([(true, some 0)], 1)) :
    ∃ s, Transition.exec step init es = some s ∧ step s (.isCurrent 0) = some s ∧
      ¬ Truthful s (.isCurrent 0) s := by
  obtain ⟨s, hs, hseen⟩ := map_eq_some_iff.1 h
  obtain ⟨hhandles, hepoch⟩ := Prod.mk.inj hseen
  obtain ⟨stamped, hlist, hstamped⟩ := List.map_eq_singleton_iff.1 hhandles
  obtain ⟨hcurrent, hissuer⟩ := Prod.mk.inj hstamped
  have hfirst : s.handles[0]? = some stamped := by rw [hlist]; rfl
  refine ⟨s, hs, ?_, ?_⟩
  · simp [step, hlist]
  · intro htruthful
    have hissued := htruthful stamped hfirst hcurrent
    rw [hissuer, hepoch] at hissued
    cases hissued

/-- **A handle that is not current says that it is**: when the connection is revived after the
answer to its CREATE and before the handle is made, and while a revival is under way. -/
theorem isCurrent_untruthful :
    (∃ s, Transition.exec step init (answeredOpen ++ revivalBegun ++ revivalDone ++ [finished]) =
        some s ∧ step s (.isCurrent 0) = some s ∧ ¬ Truthful s (.isCurrent 0) s) ∧
      ∃ s, Transition.exec step init (answeredOpen ++ [finished] ++ revivalBegun) = some s ∧
        step s (.isCurrent 0) = some s ∧ ¬ Truthful s (.isCurrent 0) s :=
  ⟨not_truthful (by decide +kernel), not_truthful (by decide +kernel)⟩

end Holdings

end Smb2
