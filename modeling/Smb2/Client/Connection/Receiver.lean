import Mathlib.Data.List.TakeWhile
import Smb2.Client.Connection.Calls
import Smb2.Client.Connection.Frames
import Smb2.Lib.Dispatch
import Smb2.Lib.Run
import Smb2.Msg.OplockBreak

set_option autoImplicit false

/-!
# The receiver, on bytes

`receiver_loop` and `prepare_sub_frame` (`client/connection.rs`) as a state machine over the bytes
of the transport: a frame is decoded into sub-frames, all of them are prepared, and the responses
among them are handed to the waiters. Between two frames the rest of the connection registers and
removes waiters and activates signing and encryption.

## Implementation notes

One step handles one frame: the keys and the flags of the session are those before the step.
A waiter is its entry in the waiters map; its one-shot channel is the entry of `resolved`.
Metrics, the ring of abandoned ids and the liveness clock are left out.
-/

open List

namespace Smb2.Connection

structure Frame where
  header : Header
  body : Bytes
  raw : Bytes
deriving DecidableEq

structure Outstanding where
  asyncId : Option UInt64
  activity : ℕ
deriving DecidableEq

structure Receiver where
  crypto : CryptoState
  oplockTrees : AList fun _ : FileId => TreeId
  waiters : AList fun _ : MessageId => Outstanding
  disconnected : Bool
  running : Bool
  banked : ℕ
  resolved : List (MessageId × Except Error Frame)
  acks : List (FileId × TreeId)

namespace Receiver

/-! ## Preparing a sub-frame -/

inductive SubFrameAction
  | route (messageId : MessageId) (result : Except Error Frame)
  | skip
  | ackOplockBreak (brk : OplockBreak) (treeId : TreeId)
deriving DecidableEq

def grant (r : Receiver) (credits : UInt16) : Receiver :=
  { r with banked := r.banked + credits.toNat }

def notePending (r : Receiver) (messageId : MessageId) (asyncId : Option UInt64) : Receiver :=
  match r.waiters.lookup messageId with
  | some w =>
    { r with waiters := r.waiters.replace messageId ⟨asyncId.or w.asyncId, w.activity + 1⟩ }
  | none => r

def unsolicited (r : Receiver) (header : Header) (sub : Bytes) : SubFrameAction :=
  if header.command = .oplockBreak then
    match OplockBreak.unpack (.new (sub.drop Header.size)) with
    | .ok (brk, _) =>
      match r.oplockTrees.lookup brk.fileId with
      | some treeId => .ackOplockBreak brk treeId
      | none => .skip
    | .error _ => .skip
  else .skip

def isSigned (sub : Bytes) : Bool :=
  UInt32.ofNat (leNat (slice sub 16 20)) &&& HeaderFlags.signed ≠ 0

def isPending (sub : Bytes) : Bool :=
  UInt32.ofNat (leNat (slice sub 8 12)) = NtStatus.pending

def checkSignature (P : MacPrimitives) (crypto : CryptoState) (header : Header) (sub : Bytes)
    (wasEncrypted : Bool) : Except Error Unit :=
  if crypto.shouldSign && !wasEncrypted && decide (Header.size ≤ sub.length) then
    if isSigned sub && !isPending sub then
      match crypto.signingKey, crypto.signingAlgorithm with
      | some key, some algorithm =>
        verifySignature P sub key algorithm header.messageId (header.command = .cancel)
      | _, _ => .ok ()
    else .ok ()
  else .ok ()

def verdict (P : MacPrimitives) (crypto : CryptoState) (wasEncrypted : Bool) (header : Header)
    (sub : Bytes) : Except Error Frame :=
  match checkSignature P crypto header sub wasEncrypted with
  | .error e => .error e
  | .ok () =>
    if header.status = NtStatus.networkSessionExpired then .error .sessionExpired
    else .ok { header, body := sub.drop Header.size, raw := sub }

/-- `prepare_sub_frame`: the outcome, and the state with the grant banked and an interim response
noted. -/
def prepareSubFrame (P : MacPrimitives) (sub : Bytes) (wasEncrypted : Bool) (r : Receiver) :
    Except Error SubFrameAction × Receiver :=
  match Header.unpack (.new sub) with
  | .error e => (.error (.invalidData ("sub-frame header parse failed: " ++ e.display)), r)
  | .ok (header, _) =>
    let r := r.grant header.credits
    if header.messageId = MessageId.unsolicited then (.ok (r.unsolicited header sub), r)
    else if header.status = NtStatus.pending then
      (.ok .skip, r.notePending header.messageId header.asyncId)
    else (.ok (.route header.messageId (verdict P r.crypto wasEncrypted header sub)), r)

/-! ## One iteration of the loop -/

def SubFrameAction.routable : SubFrameAction → List (MessageId × Except Error Frame)
  | .route messageId result => [(messageId, result)]
  | _ => []

def acknowledge (r : Receiver) : SubFrameAction → Receiver
  | .ackOplockBreak brk treeId =>
    { r with oplockTrees := r.oplockTrees.erase brk.fileId,
             acks := r.acks ++ [(brk.fileId, treeId)] }
  | _ => r

def prepareAll (P : MacPrimitives) (wasEncrypted : Bool) :
    List Bytes → Receiver → Except Error (List (MessageId × Except Error Frame)) × Receiver
  | [], r => (.ok [], r)
  | sub :: subs, r =>
    match prepareSubFrame P sub wasEncrypted r with
    | (.error e, r) => (.error e, r)
    | (.ok action, r) =>
      match prepareAll P wasEncrypted subs (r.acknowledge action) with
      | (.error e, r) => (.error e, r)
      | (.ok routable, r) => (.ok (action.routable ++ routable), r)

/-- `fan_error_to_waiters`, after which the loop returns. No error that gets here is
`ServerUnresponsive`, so every waiter sees `Disconnected`. -/
def tearDown (r : Receiver) : Receiver :=
  { r with waiters := ∅, disconnected := true, running := false,
           resolved := r.resolved ++ r.waiters.keys.map fun id => (id, .error .disconnected) }

def route : List (MessageId × Except Error Frame) → Receiver → Receiver
  | [], r => r
  | (id, result) :: rest, r =>
    match r.waiters.lookup id with
    | some _ =>
      route rest { r with waiters := r.waiters.erase id, resolved := r.resolved ++ [(id, result)] }
    | none => route rest r

variable (K : Primitives)

/-- **One iteration of `receiver_loop`** for a received frame. -/
def receive (raw : Bytes) (r : Receiver) : Receiver :=
  match decodeFrame K r.crypto raw with
  | .error _ => r.tearDown
  | .ok (subs, wasEncrypted) =>
    match prepareAll K.mac wasEncrypted subs r with
    | (.error _, r) => r.tearDown
    | (.ok routable, r) => r.route routable

/-! ## The state machine -/

inductive Event
  | register (id : MessageId)
  | removeWaiter (id : MessageId)
  | activateSigning (key : Bytes) (algorithm : SigningAlgorithm)
  | activateEncryption (encKey decKey : Bytes) (cipher : Cipher)
  | registerOplock (fileId : FileId) (treeId : TreeId)
  | forgetOplock (fileId : FileId)
  | frame (raw : Bytes)
  | transportError
deriving DecidableEq

/-- **One event.** The transport's events end with the loop; a waiter cannot be registered on a
dead connection. -/
def step (r : Receiver) : Event → Option Receiver
  | .register id =>
    if r.disconnected then some r else some { r with waiters := r.waiters.insert id ⟨none, 0⟩ }
  | .removeWaiter id => some { r with waiters := r.waiters.erase id }
  | .activateSigning key algorithm =>
    some { r with crypto :=
      { r.crypto with signingKey := some key, signingAlgorithm := some algorithm,
                      shouldSign := true } }
  | .activateEncryption encKey decKey cipher =>
    some { r with crypto :=
      { r.crypto with encryptionKey := some encKey, decryptionKey := some decKey,
                      encryptionCipher := some cipher, nonceGen := some 0,
                      shouldEncrypt := true } }
  | .registerOplock fileId treeId =>
    some { r with oplockTrees := r.oplockTrees.insert fileId treeId }
  | .forgetOplock fileId => some { r with oplockTrees := r.oplockTrees.erase fileId }
  | .frame raw => if r.running then some (r.receive K raw) else none
  | .transportError => if r.running then some r.tearDown else none

def init : Receiver := ⟨{}, ∅, ∅, false, true, 0, [], []⟩

/-! ## What preparing does -/

section Preparing

variable {P : MacPrimitives} {wasEncrypted : Bool} {sub : Bytes} {subs : List Bytes}
  {r r' r'' : Receiver}

structure Calm (r r' : Receiver) : Prop where
  crypto : r'.crypto = r.crypto
  keys : r'.waiters.keys = r.waiters.keys
  resolved : r'.resolved = r.resolved

lemma Calm.refl (r : Receiver) : Calm r r := ⟨rfl, rfl, rfl⟩

lemma Calm.trans (h : Calm r r') (h' : Calm r' r'') : Calm r r'' :=
  ⟨h'.crypto.trans h.crypto, h'.keys.trans h.keys, h'.resolved.trans h.resolved⟩

lemma calm_grant (r : Receiver) (credits : UInt16) : Calm r (r.grant credits) := ⟨rfl, rfl, rfl⟩

lemma calm_notePending (r : Receiver) (id : MessageId) (asyncId : Option UInt64) :
    Calm r (r.notePending id asyncId) := by
  unfold notePending
  split
  · exact ⟨rfl, AList.keys_replace .., rfl⟩
  · exact .refl r

lemma calm_acknowledge (r : Receiver) (action : SubFrameAction) :
    Calm r (r.acknowledge action) := by
  unfold acknowledge
  split
  · exact ⟨rfl, rfl, rfl⟩
  · exact .refl r

def parses (sub : Bytes) : Bool := (Header.unpack (.new sub)).isOk

def answer (sub : Bytes) : Option (MessageId × Header × Bytes) :=
  match Header.unpack (.new sub) with
  | .ok (header, _) =>
    if header.messageId = MessageId.unsolicited ∨ header.status = NtStatus.pending then none
    else some (header.messageId, header, sub)
  | .error _ => none

lemma routable_unsolicited (r : Receiver) (header : Header) (sub : Bytes) :
    (r.unsolicited header sub).routable = [] := by
  unfold unsolicited
  split
  · split
    · split <;> rfl
    · rfl
  · rfl

lemma prepareSubFrame_spec (P : MacPrimitives) (sub : Bytes) (wasEncrypted : Bool) (r : Receiver) :
    Calm r (prepareSubFrame P sub wasEncrypted r).2 ∧
      if parses sub then
        ∃ action, (prepareSubFrame P sub wasEncrypted r).1 = .ok action ∧
          action.routable = (answer sub).toList.map fun m =>
            (m.1, verdict P r.crypto wasEncrypted m.2.1 m.2.2)
      else ∃ e, (prepareSubFrame P sub wasEncrypted r).1 = .error e := by
  unfold prepareSubFrame parses answer
  cases hparse : Header.unpack (.new sub) with
  | error e => exact ⟨.refl r, _, rfl⟩
  | ok parsed =>
    obtain ⟨header, _⟩ := parsed
    simp only [Except.isOk, Except.toBool, if_true]
    have hgrant := calm_grant r header.credits
    by_cases hun : header.messageId = MessageId.unsolicited
    · simp only [hun, if_true, true_or]
      exact ⟨hgrant, _, rfl, routable_unsolicited ..⟩
    · by_cases hpending : header.status = NtStatus.pending
      · simp only [hun, hpending, if_false, if_true, or_true]
        exact ⟨hgrant.trans (calm_notePending ..), _, rfl, rfl⟩
      · simp only [hun, hpending, if_false, or_self]
        exact ⟨hgrant, _, rfl, rfl⟩

/-- **Preparing all sub-frames** fails exactly if some header does not parse; otherwise the
routable responses are the verdicts on the final responses, in order.

**Proof sketch.** Induction on the sub-frames. Preparing one of them is calm, so the next is
judged under the same session. -/
theorem prepareAll_spec (P : MacPrimitives) (wasEncrypted : Bool) (subs : List Bytes)
    (r : Receiver) :
    Calm r (prepareAll P wasEncrypted subs r).2 ∧
      if subs.all parses then
        (prepareAll P wasEncrypted subs r).1 = .ok ((subs.filterMap answer).map fun m =>
          (m.1, verdict P r.crypto wasEncrypted m.2.1 m.2.2))
      else ∃ e, (prepareAll P wasEncrypted subs r).1 = .error e := by
  induction subs generalizing r with
  | nil => exact ⟨.refl r, rfl⟩
  | cons sub subs ih =>
    obtain ⟨hcalm, hone⟩ := prepareSubFrame_spec P sub wasEncrypted r
    rw [prepareAll, all_cons]
    generalize prepareSubFrame P sub wasEncrypted r = out at hcalm hone ⊢
    obtain ⟨outcome, r₁⟩ := out
    by_cases hsub : parses sub
    · simp only [hsub, if_true, Bool.true_and] at hone ⊢
      obtain ⟨action, rfl, haction⟩ := hone
      dsimp only at hcalm ⊢
      have hcalm₂ : Calm r (r₁.acknowledge action) := hcalm.trans (calm_acknowledge ..)
      obtain ⟨hrest, hall⟩ := ih (r₁.acknowledge action)
      rw [hcalm₂.crypto] at hall
      generalize prepareAll P wasEncrypted subs (r₁.acknowledge action) = out at hrest hall ⊢
      obtain ⟨outcome, r₂⟩ := out
      by_cases hsubs : subs.all parses
      · simp only [hsubs, if_true] at hall ⊢
        subst hall
        refine ⟨hcalm₂.trans hrest, ?_⟩
        simp only [haction]
        cases hanswer : answer sub with
        | none => simp [hanswer]
        | some m => simp [hanswer]
      · simp only [hsubs] at hall ⊢
        obtain ⟨e, rfl⟩ := hall
        exact ⟨hcalm₂.trans hrest, e, rfl⟩
    · simp only [hsub, Bool.false_eq_true, if_false, Bool.false_and] at hone ⊢
      obtain ⟨e, rfl⟩ := hone
      exact ⟨hcalm, e, rfl⟩

end Preparing

/-! ## What a frame resolves -/

section Resolving

variable {r : Receiver} {raw : Bytes}

lemma resolved_route (ms : List (MessageId × Except Error Frame)) (r : Receiver) :
    (r.route ms).resolved = r.resolved ++ Dispatch.deliver r.waiters.keys ms := by
  induction ms generalizing r with
  | nil => simp [route, Dispatch.deliver]
  | cons m ms ih =>
    obtain ⟨id, result⟩ := m
    rw [route]
    cases hlookup : r.waiters.lookup id with
    | none =>
      have hmem : id ∉ r.waiters.keys := AList.lookup_eq_none.1 hlookup
      rw [Dispatch.deliver_cons_of_notMem hmem]
      exact ih r
    | some w =>
      have hmem : id ∈ r.waiters.keys := AList.lookup_isSome.1 (by rw [hlookup]; rfl)
      rw [Dispatch.deliver_cons_of_mem hmem]
      show (route ms _).resolved = _
      rw [ih, AList.keys_erase, append_assoc]
      rfl

lemma crypto_route (ms : List (MessageId × Except Error Frame)) (r : Receiver) :
    (r.route ms).crypto = r.crypto := by
  induction ms generalizing r with
  | nil => rfl
  | cons m ms ih =>
    rw [route]
    split
    · exact ih _
    · exact ih r

lemma crypto_receive (r : Receiver) (raw : Bytes) : (r.receive K raw).crypto = r.crypto := by
  unfold receive
  cases decodeFrame K r.crypto raw with
  | error e => rfl
  | ok decoded =>
    have hcalm := (prepareAll_spec K.mac decoded.2 decoded.1 r).1
    dsimp only
    generalize prepareAll K.mac decoded.2 decoded.1 r = out at hcalm ⊢
    obtain ⟨_ | routable, r₁⟩ := out
    · exact hcalm.crypto
    · exact (crypto_route routable r₁).trans hcalm.crypto

/-- **The sub-frames that answer an outstanding request**: the first final response for each
waiter, if the frame can be decoded and every header in it parses. -/
def answered (r : Receiver) (raw : Bytes) : List (MessageId × Header × Bytes) :=
  match decodeFrame K r.crypto raw with
  | .ok (subs, _) =>
    if subs.all parses then Dispatch.deliver r.waiters.keys (subs.filterMap answer) else []
  | .error _ => []

lemma resolved_tearDown_ok {id : MessageId} {frame : Frame} {r₀ : Receiver}
    (hr : r.resolved = r₀.resolved) :
    (id, .ok frame) ∉ r.tearDown.resolved.drop r₀.resolved.length := by
  simp [tearDown, hr]

/-- **What a frame resolves** with `Ok`: the answering sub-frames that the verdict is in favour
of. -/
theorem mem_resolved_receive {id : MessageId} {frame : Frame} :
    (id, .ok frame) ∈ (r.receive K raw).resolved.drop r.resolved.length ↔
      ∃ header sub, (id, header, sub) ∈ r.answered K raw ∧
        verdict K.mac r.crypto (isTransform raw) header sub = .ok frame := by
  unfold receive answered
  cases hdecode : decodeFrame K r.crypto raw with
  | error e => simp [resolved_tearDown_ok]
  | ok decoded =>
    obtain ⟨subs, wasEncrypted⟩ := decoded
    obtain rfl : wasEncrypted = isTransform raw := (decodeFrame_eq_ok.1 hdecode).1
    obtain ⟨hcalm, hprep⟩ := prepareAll_spec K.mac (isTransform raw) subs r
    simp only
    generalize prepareAll K.mac (isTransform raw) subs r = out at hcalm hprep ⊢
    obtain ⟨outcome, r₁⟩ := out
    by_cases hall : subs.all parses
    · simp only [hall, if_true] at hprep ⊢
      subst hprep
      dsimp only
      rw [resolved_route, hcalm.resolved, hcalm.keys, drop_left,
        Dispatch.deliver_map fun m : MessageId × Header × Bytes =>
          verdict K.mac r.crypto (isTransform raw) m.2.1 m.2.2]
      simp only [mem_map, Prod.mk.injEq, Prod.exists]
      constructor
      · rintro ⟨id', header, sub, hmem, rfl, hverdict⟩
        exact ⟨header, sub, hmem, hverdict⟩
      · rintro ⟨header, sub, hmem, hverdict⟩
        exact ⟨id, header, sub, hmem, rfl, hverdict⟩
    · simp only [hall] at hprep ⊢
      obtain ⟨e, rfl⟩ := hprep
      simp [resolved_tearDown_ok hcalm.resolved]

lemma mem_answered {id : MessageId} {header : Header} {sub : Bytes}
    (h : (id, header, sub) ∈ r.answered K raw) :
    ∃ subs, decodeFrame K r.crypto raw = .ok (subs, isTransform raw) ∧ sub ∈ subs ∧
      (∃ c, Header.unpack (.new sub) = .ok (header, c)) ∧ id = header.messageId ∧
        header.status ≠ NtStatus.pending := by
  unfold answered at h
  cases hdecode : decodeFrame K r.crypto raw with
  | error e => simp [hdecode] at h
  | ok decoded =>
    obtain ⟨subs, wasEncrypted⟩ := decoded
    obtain rfl : wasEncrypted = isTransform raw := (decodeFrame_eq_ok.1 hdecode).1
    simp only [hdecode] at h
    split at h
    · obtain ⟨sub', hmem, hanswer⟩ := mem_filterMap.1 (Dispatch.mem_of_mem_deliver h)
      unfold answer at hanswer
      split at hanswer
      · rename_i header' c hparse
        split at hanswer
        · cases hanswer
        · rename_i hfinal
          simp only [Option.some.injEq, Prod.mk.injEq] at hanswer
          obtain ⟨rfl, rfl, rfl⟩ := hanswer
          exact ⟨subs, rfl, hmem, ⟨c, hparse⟩, rfl, fun hp => hfinal (.inr hp)⟩
      · cases hanswer
    · cases h

end Resolving

/-! ## The receiver task of the whole connection -/

section View

variable {P : MacPrimitives} {wasEncrypted : Bool} {sub : Bytes} {subs : List Bytes}
  {r : Receiver}

/-- **A sub-frame as the connection's receiver task handles it**: its message id, its grant and
what becomes of it. -/
def view (P : MacPrimitives) (crypto : CryptoState) (wasEncrypted : Bool) (sub : Bytes) :
    Option SubFrame :=
  match Header.unpack (.new sub) with
  | .error _ => none
  | .ok (header, _) =>
    some { messageId := header.messageId.toNat, credits := header.credits.toNat,
           action :=
            if header.messageId = MessageId.unsolicited then .skip
            else if header.status = NtStatus.pending then .pending (header.asyncId.map UInt64.toNat)
            else .route (verdict P crypto wasEncrypted header sub).isOk }

def routeOp (m : MessageId × Except Error Frame) : Op := .waiter (.route m.1.toNat m.2.isOk)

lemma routeSubFrame_view (P : MacPrimitives) (crypto : CryptoState) (wasEncrypted : Bool)
    (sub : Bytes) :
    (view P crypto wasEncrypted sub).toList.flatMap routeSubFrame =
      (answer sub).toList.map fun m =>
        routeOp (m.1, verdict P crypto wasEncrypted m.2.1 m.2.2) := by
  unfold view answer
  cases Header.unpack (.new sub) with
  | error e => rfl
  | ok parsed =>
    by_cases hun : parsed.1.messageId = MessageId.unsolicited
    · simp [hun, routeSubFrame]
    · by_cases hpending : parsed.1.status = NtStatus.pending
      · simp [hun, hpending, routeSubFrame]
      · simp [hun, hpending, routeSubFrame, routeOp]

lemma banked_prepareSubFrame (crypto : CryptoState) (P : MacPrimitives) (sub : Bytes)
    (wasEncrypted : Bool) (r : Receiver) :
    (prepareSubFrame P sub wasEncrypted r).2.banked =
      r.banked + ((view P crypto wasEncrypted sub).toList.map SubFrame.credits).sum := by
  have hnote : ∀ (r : Receiver) id asyncId, (r.notePending id asyncId).banked = r.banked := by
    intro r id asyncId
    unfold notePending
    split <;> rfl
  unfold prepareSubFrame view
  cases Header.unpack (.new sub) with
  | error e => rfl
  | ok parsed =>
    dsimp only
    split
    · rfl
    · split
      · exact hnote ..
      · rfl

/-- The sub-frames in front of the first one whose header does not parse. -/
def seen (P : MacPrimitives) (crypto : CryptoState) (wasEncrypted : Bool) (subs : List Bytes) :
    List SubFrame :=
  (subs.takeWhile parses).filterMap (view P crypto wasEncrypted)

lemma banked_prepareAll (crypto : CryptoState) :
    (prepareAll P wasEncrypted subs r).2.banked =
      r.banked + ((seen P crypto wasEncrypted subs).map SubFrame.credits).sum := by
  have hack : ∀ (r : Receiver) action, (r.acknowledge action).banked = r.banked := by
    intro r action
    cases action <;> rfl
  induction subs generalizing r with
  | nil => rfl
  | cons sub subs ih =>
    have hone := (prepareSubFrame_spec P sub wasEncrypted r).2
    have hbanked := banked_prepareSubFrame crypto P sub wasEncrypted r
    rw [prepareAll]
    generalize prepareSubFrame P sub wasEncrypted r = out at hone hbanked ⊢
    obtain ⟨outcome, r₁⟩ := out
    by_cases hsub : parses sub
    · rw [if_pos hsub] at hone
      obtain ⟨action, rfl, -⟩ := hone
      have hrest := ih (r := r₁.acknowledge action)
      dsimp only at hbanked ⊢
      rw [hack, hbanked] at hrest
      rw [seen, takeWhile_cons_of_pos hsub, filterMap_eq_flatMap_toList, flatMap_cons, map_append,
        sum_append, ← filterMap_eq_flatMap_toList, ← Nat.add_assoc, ← seen, ← hrest]
      generalize prepareAll P wasEncrypted subs (r₁.acknowledge action) = out
      obtain ⟨_ | _, _⟩ := out <;> rfl
    · rw [if_neg hsub] at hone
      obtain ⟨e, rfl⟩ := hone
      have hnone : view P crypto wasEncrypted sub = none := by
        unfold view parses at *
        cases hparse : Header.unpack (.new sub) with
        | error e => rfl
        | ok parsed => simp [hparse, Except.isOk, Except.toBool] at hsub
      rw [hnone] at hbanked
      rw [seen, takeWhile_cons_of_neg hsub]
      exact hbanked

/-- **The connection's receiver task does what the bytes call for**, whatever a frame holds. If all
headers parse, it runs the routing operations of the routable responses, in order; if not, it tears
the connection down after the sub-frames in front; and it banks what those it has seen grant. -/
theorem handleFrame_refines (P : MacPrimitives) (wasEncrypted : Bool) (subs : List Bytes)
    (r : Receiver) (gen : ℕ) :
    (prepareAll P wasEncrypted subs r).2.banked =
        r.banked + ((seen P r.crypto wasEncrypted subs).map SubFrame.credits).sum ∧
      ∃ rest, handleFrame gen (seen P r.crypto wasEncrypted subs) (!subs.all parses) =
          (seen P r.crypto wasEncrypted subs).flatMap (Connection.prepareSubFrame gen) ++ rest ∧
        ((∃ routable, (prepareAll P wasEncrypted subs r).1 = .ok routable ∧
            rest = routable.map routeOp ++ receiverLoop gen) ∨
          ∃ e, (prepareAll P wasEncrypted subs r).1 = .error e ∧ rest = fanErrorToWaiters) := by
  refine ⟨banked_prepareAll r.crypto, _, rfl, ?_⟩
  have hspec := (prepareAll_spec P wasEncrypted subs r).2
  by_cases hall : subs.all parses
  · rw [if_pos hall] at hspec
    refine .inl ⟨_, hspec, ?_⟩
    rw [hall, seen, takeWhile_eq_self_iff.2 (all_eq_true.1 hall)]
    show _ ++ _ = _
    congr 1
    rw [filterMap_eq_flatMap_toList, flatMap_assoc, filterMap_eq_flatMap_toList,
      map_map, map_flatMap]
    congr 1
    funext sub
    exact routeSubFrame_view P r.crypto wasEncrypted sub
  · rw [if_neg hall] at hspec
    obtain ⟨e, herror⟩ := hspec
    refine .inr ⟨e, herror, ?_⟩
    rw [Bool.not_eq_true] at hall
    rw [hall]
    rfl

end View

end Receiver

end Smb2.Connection
