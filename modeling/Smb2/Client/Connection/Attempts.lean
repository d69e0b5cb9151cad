import Smb2.Lib.Run
import Smb2.Types

set_option autoImplicit false

/-!
# The attempts of a revival

A revival makes attempts until one succeeds (`revive_attempts` in `client/connection.rs`). An attempt
dials, installs the transport and authenticates (`revive_once`). This file follows two things through
the attempts: the session ids that the connection holds, and the count of attempts that a revival
reports.
-/

namespace Smb2.Attempts

/-! ## The session ids -/

structure SessionIds where
  sessionId : SessionId := 0
  previousSessionId : SessionId := 0

def installTransport (s : SessionIds) : SessionIds := ⟨0, s.sessionId⟩

/-- What comes of a SESSION_SETUP request: no response, or one that is rejected before its id is
taken over; or the id is taken over, and the rest of the round fails or not. -/
inductive Reply
  | rejected
  | failed (id : SessionId)
  | accepted (id : SessionId)

/-- What an attempt leaves behind: the ids, the `PreviousSessionId` of each request, and the id of the
session if it was established. -/
structure Outcome where
  ids : SessionIds
  announced : List SessionId := []
  session : Option SessionId := none

def setup : ℕ → List Reply → SessionIds → Outcome
  | 0, _, s => { ids := { s with previousSessionId := 0 }, session := some s.sessionId }
  | n + 1, .accepted id :: replies, s =>
    let o := setup n replies { s with sessionId := id }
    { o with announced := s.previousSessionId :: o.announced }
  | _ + 1, .failed id :: _, s =>
    { ids := { s with sessionId := id }, announced := [s.previousSessionId] }
  | _ + 1, _, s => { ids := s, announced := [s.previousSessionId] }

inductive Method
  | ntlm
  | kerberos

def Method.rounds : Method → ℕ
  | .ntlm => 2
  | .kerberos => 1

inductive Attempt
  | dialFailed
  | negotiateFailed
  | sessionSetup (method : Method) (replies : List Reply)

def reviveOnce (s : SessionIds) : Attempt → Outcome
  | .dialFailed => { ids := s }
  | .negotiateFailed => { ids := installTransport s }
  | .sessionSetup method replies => setup method.rounds replies (installTransport s)

def afterAttempts (s : SessionIds) (attempts : List Attempt) : SessionIds :=
  attempts.foldl (fun s a => (reviveOnce s a).ids) s

def Attempt.installs : Attempt → Bool
  | .dialFailed => false
  | _ => true

def assigned : ℕ → List Reply → SessionId → SessionId
  | n + 1, .accepted id :: replies, _ => assigned n replies id
  | _ + 1, .failed id :: _, _ => id
  | _, _, id => id

def Attempt.assignedId : Attempt → SessionId
  | .sessionSetup method replies => assigned method.rounds replies 0
  | _ => 0

lemma setup_spec (n : ℕ) (replies : List Reply) (s : SessionIds) :
    (setup n replies s).ids.sessionId = assigned n replies s.sessionId ∧
      (∀ p ∈ (setup n replies s).announced, p = s.previousSessionId) ∧
      (0 < n → (setup n replies s).announced ≠ []) ∧
      ∀ id, (setup n replies s).session = some id → (setup n replies s).ids.sessionId = id := by
  induction n generalizing replies s with
  | zero =>
    refine ⟨?_, by simp [setup], fun h => absurd h (Nat.lt_irrefl 0), ?_⟩
    · cases replies <;> rfl
    · intro id h
      exact Option.some.inj h
  | succ n ih =>
    match replies with
    | [] => simp [setup, assigned]
    | .rejected :: replies => simp [setup, assigned]
    | .failed id :: replies => simp [setup, assigned]
    | .accepted id :: replies =>
      obtain ⟨hids, hannounced, -, hsession⟩ := ih replies { s with sessionId := id }
      refine ⟨hids, ?_, fun _ => List.cons_ne_nil _ _, hsession⟩
      intro p hp
      rcases List.mem_cons.1 hp with rfl | hp
      · rfl
      · exact hannounced p hp

lemma Method.rounds_pos (method : Method) : 0 < method.rounds := by
  cases method <;> decide

lemma sessionId_reviveOnce (s : SessionIds) (a : Attempt) :
    (reviveOnce s a).ids.sessionId = if a.installs then a.assignedId else s.sessionId := by
  cases a with
  | dialFailed => rfl
  | negotiateFailed => rfl
  | sessionSetup method replies => exact (setup_spec ..).1

lemma sessionId_afterAttempts (s : SessionIds) (attempts : List Attempt) :
    (afterAttempts s attempts).sessionId =
      ((attempts.filter Attempt.installs).getLast?.map Attempt.assignedId).getD s.sessionId := by
  induction attempts using List.reverseRecOn with
  | nil => rfl
  | append_singleton attempts a ih =>
    rw [afterAttempts, List.foldl_append, List.filter_append]
    show (reviveOnce (afterAttempts s attempts) a).ids.sessionId = _
    rw [sessionId_reviveOnce, ih]
    cases ha : a.installs <;> simp [ha]

lemma announced_of_session {s : SessionIds} {a : Attempt} {id : SessionId}
    (h : (reviveOnce s a).session = some id) :
    (reviveOnce s a).ids.sessionId = id ∧ (reviveOnce s a).announced ≠ [] ∧
      ∀ p ∈ (reviveOnce s a).announced, p = s.sessionId := by
  cases a with
  | dialFailed => cases h
  | negotiateFailed => cases h
  | sessionSetup method replies =>
    obtain ⟨-, hannounced, hne, hid⟩ := setup_spec method.rounds replies (installTransport s)
    exact ⟨hid id h, hne method.rounds_pos, hannounced⟩

/-- **Which session is announced.** A session is established, further attempts are made, and one of
them succeeds. Its requests announce that session exactly if the last attempt in between that
installed its transport, if there was one, was assigned the same id. -/
theorem announces_established_iff {s : SessionIds} {first again : Attempt} {between : List Attempt}
    {id id' : SessionId} (hfirst : (reviveOnce s first).session = some id)
    (hagain :
      (reviveOnce (afterAttempts (reviveOnce s first).ids between) again).session = some id') :
    (∀ p ∈ (reviveOnce (afterAttempts (reviveOnce s first).ids between) again).announced, p = id) ↔
      ∀ a, (between.filter Attempt.installs).getLast? = some a → a.assignedId = id := by
  obtain ⟨hid, -, -⟩ := announced_of_session hfirst
  obtain ⟨-, hne, hannounced⟩ := announced_of_session hagain
  obtain ⟨p, hp⟩ := List.exists_mem_of_ne_nil _ hne
  have hbefore := sessionId_afterAttempts (reviveOnce s first).ids between
  rw [hid] at hbefore
  have hiff : (∀ p ∈ (reviveOnce (afterAttempts (reviveOnce s first).ids between) again).announced,
      p = id) ↔ (afterAttempts (reviveOnce s first).ids between).sessionId = id := by
    constructor
    · intro h
      rw [← hannounced p hp]
      exact h p hp
    · intro h q hq
      rw [hannounced q hq, h]
  rw [hiff, hbefore]
  cases (between.filter Attempt.installs).getLast? with
  | none => simp
  | some a => simp

theorem announces_established_dialFailed :
    (reviveOnce {} (.sessionSetup .kerberos [.accepted 7])).session = some 7 ∧ ∀ p ∈ (reviveOnce (afterAttempts (reviveOnce {} (.sessionSetup .kerberos [.accepted 7])).ids
      [.dialFailed, .dialFailed]) (.sessionSetup .ntlm [.accepted 9, .accepted 9])).announced, p = 7 := by
  have hagain : (reviveOnce (afterAttempts (reviveOnce {}
      (.sessionSetup .kerberos [.accepted 7])).ids [.dialFailed, .dialFailed])
        (.sessionSetup .ntlm [.accepted 9, .accepted 9])).session = some 9 := rfl
  exact ⟨rfl, (announces_established_iff rfl hagain).2 (by simp [Attempt.installs])⟩

theorem announced_after_negotiateFailed :
    (reviveOnce {} (.sessionSetup .ntlm [.accepted 7, .accepted 7])).session = some 7 ∧
      reviveOnce (afterAttempts (reviveOnce {} (.sessionSetup .ntlm [.accepted 7, .accepted 7])).ids
        [.negotiateFailed]) (.sessionSetup .ntlm [.accepted 9, .accepted 9]) =
          { ids := ⟨9, 0⟩, announced := [0, 0], session := some 9 } := ⟨rfl, rfl⟩

/-! ## The attempts that are counted -/

/-- What a call of `reconnect_if_needed` returns: that the connection is alive, that it was revived,
`Disconnected`, or `ReconnectFailed` with a number of attempts (*ghost*: and the number of attempts
that the revival made). A caller may also be dropped. -/
inductive Verdict
  | alive
  | revived
  | disconnected
  | reconnectFailed (attempts made : ℕ)
  | dropped
deriving DecidableEq

inductive Phase
  | entering
  | loading
  | queued
  | locked
  | backoff
  | trying
  | returned (v : Verdict)
deriving DecidableEq

def Phase.holds : Phase → Bool
  | .locked | .backoff | .trying => true
  | _ => false

def Phase.revives : Phase → Bool
  | .backoff | .trying => true
  | _ => false

def Phase.ended : Phase → Bool
  | .returned _ => true
  | _ => false

def Phase.idle : Phase → Bool
  | .entering | .loading | .queued | .locked | .returned .alive => true
  | _ => false

structure Caller where
  phase : Phase := .entering
  seen : ℕ := 0
  maxAttempts : ℕ := 0
  dials : ℕ := 0

structure State where
  disconnected : Bool := false
  revivals : ℕ := 0
  reconnectAttempts : ℕ := 0
  reviveLock : Option ℕ := none
  lastFailure : Option (ℕ × ℕ) := none
  policy : Option ℕ := none
  callers : ℕ → Caller := fun _ => {}

inductive Action
  | die
  | cool
  | configure (policy : Option ℕ)
  | enter (i : ℕ)
  | load (i : ℕ)
  | lock (i : ℕ)
  | recheck (i : ℕ)
  | retry (i : ℕ)
  | install (i : ℕ)
  | attemptFails (i : ℕ)
  | succeed (i : ℕ)
  | expire (i : ℕ)
  | drop (i : ℕ)

namespace State

variable (s : State) (i : ℕ)

def set (c : Caller) : State := { s with callers := Function.update s.callers i c }

def goTo (phase : Phase) : State := s.set i { s.callers i with phase }

def finish (v : Verdict) : State :=
  { s.goTo i (.returned v) with
    reviveLock := if (s.callers i).phase.holds then none else s.reviveLock }

def startAttempt (maxAttempts : ℕ) : State :=
  { s.set i { s.callers i with phase := .trying, maxAttempts, dials := (s.callers i).dials + 1 } with
    reconnectAttempts := s.reconnectAttempts + 1 }

def giveUp (attempts : ℕ) : State :=
  { s.finish i (.reconnectFailed attempts (s.callers i).dials) with
    disconnected := true, lastFailure := some (attempts, (s.callers i).dials) }

end State

def step (s : State) : Action → Option State
  | .die => some { s with disconnected := true }
  | .cool => some { s with lastFailure := none }
  | .configure policy => some { s with policy }
  | .enter i =>
    if (s.callers i).phase ≠ .entering then none
    else if s.disconnected then some (s.goTo i .loading)
    else some (s.finish i .alive)
  | .load i =>
    if (s.callers i).phase ≠ .loading then none
    else some (s.set i { s.callers i with phase := .queued, seen := s.revivals })
  | .lock i =>
    if (s.callers i).phase ≠ .queued ∨ s.reviveLock ≠ none then none
    else some { s.goTo i .locked with reviveLock := some i }
  | .recheck i =>
    if (s.callers i).phase ≠ .locked then none
    else if s.revivals ≠ (s.callers i).seen ∨ s.disconnected = false then some (s.finish i .alive)
    else match s.lastFailure, s.policy with
      | some (attempts, made), _ => some (s.finish i (.reconnectFailed attempts made))
      | none, none | none, some 0 => some (s.finish i .disconnected)
      | none, some (max + 1) => some (s.startAttempt i (max + 1))
  | .retry i =>
    if (s.callers i).phase ≠ .backoff then none
    else some (s.startAttempt i (s.callers i).maxAttempts)
  | .install i =>
    if (s.callers i).phase ≠ .trying then none else some { s with disconnected := false }
  | .attemptFails i =>
    if (s.callers i).phase ≠ .trying then none
    else if (s.callers i).dials < (s.callers i).maxAttempts then
      some { s.goTo i .backoff with disconnected := true }
    else some (s.giveUp i (s.callers i).maxAttempts)
  | .succeed i =>
    if (s.callers i).phase ≠ .trying then none
    else some { s.finish i .revived with revivals := s.revivals + 1, lastFailure := none }
  | .expire i =>
    if (s.callers i).phase.revives = false then none
    else some (s.giveUp i (min s.reconnectAttempts (s.callers i).maxAttempts))
  | .drop i => if (s.callers i).phase.ended then none else some (s.finish i .dropped)

/-- What is known of a call: it holds the lock if it is between the two ends of that, it has missed no
revival while it runs one, and its dials are bounded. -/
structure Caller.Sound (c : Caller) (i : ℕ) (lock : Option ℕ) (revivals attempts : ℕ) : Prop where
  holds : c.phase.holds → lock = some i
  current : c.phase.revives → c.seen = revivals ∧ c.dials ≤ attempts
  bounded : c.dials ≤ c.maxAttempts
  left : c.phase = .backoff → c.dials < c.maxAttempts
  idle : c.phase.idle → c.dials = 0
  own : ∀ a m, c.phase = .returned (.reconnectFailed a m) → 0 < c.dials → m = c.dials

def Sound (s : State) : Prop :=
  ∀ i, (s.callers i).Sound i s.reviveLock s.revivals s.reconnectAttempts

lemma Phase.holds_of_revives {phase : Phase} (h : phase.revives) : phase.holds := by
  cases phase <;> first | rfl | cases h

section Step

variable {s t : State} {i : ℕ}

lemma Sound.of_caller (hs : Sound s) (hothers : ∀ j, j ≠ i → t.callers j = s.callers j)
    (hcount : s.reconnectAttempts ≤ t.reconnectAttempts)
    (hshared : (t.reviveLock = s.reviveLock ∧ t.revivals = s.revivals) ∨
      ∀ j, j ≠ i → s.reviveLock ≠ some j)
    (hi : (t.callers i).Sound i t.reviveLock t.revivals t.reconnectAttempts) : Sound t := by
  intro j
  rcases eq_or_ne j i with rfl | hne
  · exact hi
  · have hj := hs j
    rw [hothers j hne]
    rcases hshared with ⟨hlock, hrevivals⟩ | hfree
    · rw [hlock, hrevivals]
      exact { hj with current := fun h => ⟨(hj.current h).1, (hj.current h).2.trans hcount⟩ }
    · exact { hj with
        holds := fun h => absurd (hj.holds h) (hfree j hne)
        current := fun h => absurd (hj.holds (Phase.holds_of_revives h)) (hfree j hne) }

lemma Sound.lock_ne (hs : Sound s) (h : (s.callers i).phase.holds) :
    ∀ j, j ≠ i → s.reviveLock ≠ some j := by
  intro j hne hj
  rw [(hs i).holds h] at hj
  exact hne (Option.some.inj hj).symm

lemma Sound.set (hs : Sound s) {c : Caller}
    (hc : c.Sound i s.reviveLock s.revivals s.reconnectAttempts) : Sound (s.set i c) := by
  refine hs.of_caller (i := i) (fun j hne => Function.update_of_ne hne ..) (Nat.le_refl _)
    (.inl ⟨rfl, rfl⟩) ?_
  show (Function.update s.callers i c i).Sound ..
  rw [Function.update_self]
  exact hc

lemma Sound.finish (hs : Sound s) {v : Verdict} {revivals : ℕ}
    (hidle : v = .alive → (s.callers i).dials = 0)
    (hown : ∀ a m, v = .reconnectFailed a m → 0 < (s.callers i).dials → m = (s.callers i).dials)
    (hrevivals : (s.callers i).phase.holds ∨ revivals = s.revivals) :
    Sound { s.finish i v with revivals } := by
  have hcaller : (s.finish i v).callers i = { s.callers i with phase := .returned v } :=
    Function.update_self ..
  refine hs.of_caller (i := i) (fun j hne => Function.update_of_ne hne ..) (Nat.le_refl _) ?_ ?_
  · by_cases h : (s.callers i).phase.holds
    · exact .inr (hs.lock_ne h)
    · refine .inl ⟨if_neg h, ?_⟩
      exact hrevivals.resolve_left h
  · show ((s.finish i v).callers i).Sound ..
    rw [hcaller]
    refine ⟨?_, ?_, (hs i).bounded, ?_, ?_, ?_⟩
    · intro h
      cases h
    · intro h
      cases h
    · intro h
      cases h
    · intro h
      cases v <;> first | exact hidle rfl | cases h
    · intro a m h
      exact hown a m (Phase.returned.inj h)

lemma Sound.startAttempt (hs : Sound s) {maxAttempts : ℕ} (hholds : (s.callers i).phase.holds)
    (hseen : (s.callers i).seen = s.revivals) (hcount : (s.callers i).dials ≤ s.reconnectAttempts)
    (hleft : (s.callers i).dials < maxAttempts) : Sound (s.startAttempt i maxAttempts) := by
  refine hs.of_caller (i := i) (fun j hne => Function.update_of_ne hne ..) (Nat.le_succ _)
    (.inl ⟨rfl, rfl⟩) ?_
  show (Function.update s.callers i _ i).Sound ..
  rw [Function.update_self]
  refine ⟨fun _ => (hs i).holds hholds, fun _ => ⟨hseen, Nat.succ_le_succ hcount⟩, hleft, ?_, ?_, ?_⟩
  · intro h
    cases h
  · intro h
    cases h
  · intro a m h
    cases h

lemma sound_of_step {a : Action} (hs : Sound s) (h : step s a = some t) : Sound t := by
  revert h
  fun_cases step s a <;> intro h <;> cases h
  case case5 i hphase _ | case8 i hphase =>
    have hi := hs i
    rw [not_not] at hphase
    exact hs.set ⟨by simp [Phase.holds], by simp [Phase.revives], hi.bounded, by simp,
      fun _ => hi.idle (by rw [hphase]; rfl), by simp⟩
  case case6 i hphase _ | case12 i hphase _ =>
    rw [not_not] at hphase
    exact hs.finish (fun _ => (hs i).idle (by rw [hphase]; rfl)) (by simp) (.inr rfl)
  case case10 i hlock =>
    obtain ⟨hphase, hfree⟩ : (s.callers i).phase = .queued ∧ s.reviveLock = none := by
      simpa only [not_or, not_not] using hlock
    have hi := hs i
    refine hs.of_caller (i := i) (fun j hne => Function.update_of_ne hne ..) (Nat.le_refl _)
      (.inr fun j _ => by simp [hfree]) ?_
    show (Function.update s.callers i _ i).Sound ..
    rw [Function.update_self]
    exact ⟨fun _ => rfl, by simp [Phase.revives], hi.bounded, by simp,
      fun _ => hi.idle (by rw [hphase]; rfl), by simp⟩
  case case13 i hphase hdead attempts made hfailure =>
    rw [not_not] at hphase
    have hzero : (s.callers i).dials = 0 := (hs i).idle (by rw [hphase]; rfl)
    exact hs.finish (by simp) (fun _ _ _ hpos => by omega) (.inr rfl)
  case case16 i hphase hdead max hpolicy hfailure =>
    obtain ⟨hseen, -⟩ : s.revivals = (s.callers i).seen ∧ s.disconnected = true := by
      simpa only [not_or, not_not, Bool.not_eq_false] using hdead
    rw [not_not] at hphase
    have hzero : (s.callers i).dials = 0 := (hs i).idle (by rw [hphase]; rfl)
    exact hs.startAttempt (by rw [hphase]; rfl) hseen.symm (by omega) (by omega)
  case case18 i hphase =>
    rw [not_not] at hphase
    obtain ⟨hseen, hcount⟩ := (hs i).current (by rw [hphase]; rfl)
    exact hs.startAttempt (by rw [hphase]; rfl) hseen hcount ((hs i).left hphase)
  case case22 i hphase hleft =>
    have hi := hs i
    rw [not_not] at hphase
    exact hs.set ⟨fun _ => hi.holds (by rw [hphase]; rfl),
      fun _ => hi.current (by rw [hphase]; rfl), hi.bounded, fun _ => hleft, by simp [Phase.idle],
      by simp⟩
  case case25 i hphase =>
    rw [not_not] at hphase
    exact hs.finish (by simp) (by simp) (.inl (by rw [hphase]; rfl))
  case case14 | case15 | case23 | case27 | case29 =>
    exact hs.finish (by simp) (by simp) (.inr rfl)
  all_goals exact hs

/-- **The budget of a revival does not expire**, or no attempt was counted before it, or it has made
all its attempts. -/
def Exact (s : State) : Action → State → Prop
  | .expire i, _ =>
    s.reconnectAttempts = (s.callers i).dials ∨ (s.callers i).dials = (s.callers i).maxAttempts
  | _, _ => True

/-- Every `ReconnectFailed`, returned or stored, has the number of attempts that were made. -/
def Honest (s : State) : Prop :=
  (∀ i a m, (s.callers i).phase = .returned (.reconnectFailed a m) → a = m) ∧
    ∀ a m, s.lastFailure = some (a, m) → a = m

lemma Honest.of_caller (h : Honest s) {c : Caller} (hcallers : t.callers = Function.update s.callers i c)
    (hc : ∀ a m, c.phase = .returned (.reconnectFailed a m) → a = m)
    (hfailure : ∀ a m, t.lastFailure = some (a, m) → a = m) : Honest t := by
  refine ⟨?_, hfailure⟩
  intro j a m hphase
  rw [hcallers] at hphase
  rcases eq_or_ne j i with rfl | hne
  · rw [Function.update_self] at hphase
    exact hc a m hphase
  · rw [Function.update_of_ne hne] at hphase
    exact h.1 j a m hphase

lemma Honest.giveUp (h : Honest s) {attempts : ℕ} (heq : attempts = (s.callers i).dials) :
    Honest (s.giveUp i attempts) := by
  refine h.of_caller (i := i) rfl ?_ ?_
  · intro a m hphase
    cases hphase
    exact heq
  · intro a m hfailure
    cases hfailure
    exact heq

lemma honest_of_step {a : Action} (hs : Sound s) (h : Honest s) (hexact : Exact s a t)
    (hstep : step s a = some t) : Honest t := by
  revert hstep
  fun_cases step s a <;> intro hstep <;> cases hstep
  case case13 i hphase hdead attempts made hfailure =>
    refine h.of_caller (i := i) rfl ?_ h.2
    intro a m hphase
    cases hphase
    exact h.2 _ _ hfailure
  case case23 i hphase hleft =>
    exact h.giveUp (Nat.le_antisymm (Nat.le_of_not_lt hleft) (hs i).bounded)
  case case27 i hrevives =>
    obtain ⟨-, hcount⟩ := (hs i).current (by simpa using hrevives)
    have hbound := (hs i).bounded
    have hexact : s.reconnectAttempts = (s.callers i).dials ∨
      (s.callers i).dials = (s.callers i).maxAttempts := hexact
    exact h.giveUp (by omega)
  case case2 => exact ⟨h.1, by simp⟩
  case case25 i hphase => exact h.of_caller (i := i) rfl (by simp) (by simp)
  case case1 | case3 | case20 => exact h
  all_goals exact h.of_caller rfl (by simp) h.2

end Step

/-- **Revivals are single, bounded and honest.** In every run of any number of calls, at most one runs
a revival; a call dials no more often than `max_attempts` allows, and does not while a revival has
succeeded since it read the count, or if it has found the connection alive. In a run in which a budget
expires only before any attempt of another revival was counted, or after the last attempt, the number
of attempts in `ReconnectFailed` is that of the attempts which the revival made.

**Proof sketch.** A call that runs a revival holds the lock, and only the holder counts a revival, so
the count has not moved since the recheck. What is reported after the last attempt is `max_attempts`;
what is reported when the budget expires is the metric over all revivals, at most `max_attempts`. -/
theorem revivals_bounded {s : State} {as : List Action} (hrun : Transition.exec step {} as = some s) :
    (∀ i j, (s.callers i).phase.revives → (s.callers j).phase.revives → i = j) ∧
    (∀ i, (s.callers i).dials ≤ (s.callers i).maxAttempts ∧
      ((s.callers i).phase.revives → (s.callers i).seen = s.revivals) ∧
      ((s.callers i).phase = .returned .alive → (s.callers i).dials = 0)) ∧
    (Transition.Along step Exact {} as → ∀ i attempts made,
      (s.callers i).phase = .returned (.reconnectFailed attempts made) →
        attempts = made ∧ (0 < (s.callers i).dials → attempts = (s.callers i).dials)) := by
  have hinit : Sound {} := fun _ =>
    ⟨by simp [Phase.holds], by simp [Phase.revives], Nat.le_refl 0, by simp, fun _ => rfl, by simp⟩
  have hsound : Sound s :=
    Transition.exec_invariant_of_step (fun _ _ _ hs h => sound_of_step hs h) hinit hrun
  refine ⟨?_, ?_, ?_⟩
  · intro i j hi hj
    have hlock := (hsound i).holds (Phase.holds_of_revives hi)
    rw [(hsound j).holds (Phase.holds_of_revives hj)] at hlock
    exact (Option.some.inj hlock).symm
  · intro i
    refine ⟨(hsound i).bounded, fun h => ((hsound i).current h).1, ?_⟩
    intro h
    exact (hsound i).idle (by rw [h]; rfl)
  · intro hexact i attempts made hphase
    have hhonest : Sound s ∧ Honest s :=
      Transition.exec_invariant (I := fun s => Sound s ∧ Honest s)
        (fun _ _ _ hs hC h => ⟨sound_of_step hs.1 h, honest_of_step hs.1 hs.2 hC h⟩)
        ⟨hinit, by simp, by simp⟩ hrun hexact
    have heq := hhonest.2.1 i attempts made hphase
    exact ⟨heq, fun hpos => heq.trans ((hsound i).own attempts made hphase hpos)⟩

def begins (i : ℕ) : List Action := [.enter i, .load i, .lock i, .recheck i]

def firstExpires : List Action :=
  [.configure (some 3), .die] ++ begins 0 ++ [.attemptFails 0, .retry 0, .expire 0]

theorem revivals_bounded_firstExpires :
    ∃ s, Transition.exec step {} firstExpires = some s ∧
      (s.callers 0).phase = .returned (.reconnectFailed 2 2) ∧ 2 = (s.callers 0).dials := by
  have hexact : Transition.Along step Exact {} firstExpires :=
    ⟨_, rfl, trivial, _, rfl, trivial, _, rfl, trivial, _, rfl, trivial, _, rfl, trivial,
      _, rfl, trivial, _, rfl, trivial, _, rfl, trivial, _, rfl, .inl rfl, trivial⟩
  obtain ⟨s, hs⟩ : ∃ s, Transition.exec step {} firstExpires = some s := ⟨_, rfl⟩
  have hphase : (s.callers 0).phase = .returned (.reconnectFailed 2 2) := by
    cases hs
    rfl
  have hdials : (s.callers 0).dials = 2 := by
    cases hs
    rfl
  exact ⟨s, hs, hphase, ((revivals_bounded hs).2.2 hexact 0 2 2 hphase).2 (by omega)⟩

/-- A revival of three attempts fails; when it may be tried again, the budget of the next one expires
in its first attempt. -/
def secondExpires : List Action :=
  [.configure (some 3), .die] ++ begins 0 ++ [.attemptFails 0, .retry 0, .attemptFails 0, .retry 0,
    .attemptFails 0, .cool] ++ begins 1 ++ [.expire 1]

theorem secondExpires_reports_three :
    (Transition.exec step {} secondExpires).map (fun s => ((s.callers 1).phase, (s.callers 1).dials)) =
      some (.returned (.reconnectFailed 3 1), 1) := rfl

end Smb2.Attempts
