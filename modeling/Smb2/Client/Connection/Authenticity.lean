import Smb2.Client.Connection.Receiver

set_option autoImplicit false

/-!
# Authenticated delivery

Once signing or encryption is active, a caller should be handed a response only if the response
is known to come from the server: because the AEAD accepted the frame it was in, or because it
carries a MAC that verifies, and the latter only if the session does not ask for encryption.

The receiver does not go that far. It verifies a MAC only if the sub-frame itself has the `SIGNED`
flag, which whoever sent the bytes chose, and it never asks whether a frame had to be encrypted.
-/

open List

namespace Smb2.Connection

namespace Receiver

/-! ## What it means to be authenticated -/

def Parsed (frame : Frame) : Prop :=
  (∃ c, Header.unpack (.new frame.raw) = .ok (frame.header, c)) ∧
    frame.body = frame.raw.drop Header.size

/-- The signature field of a message holds the MAC of the message under the session's signing
key. -/
def macVerifies (P : MacPrimitives) (crypto : CryptoState) (header : Header) (raw : Bytes) :
    Bool :=
  match crypto.signingKey, crypto.signingAlgorithm with
  | some key, some algorithm =>
    Header.size ≤ raw.length ∧
      computeSignature P (zeroSignature raw) key algorithm header.messageId
        (header.command = .cancel) true = .ok (signatureField raw)
  | _, _ => false

variable (K : Primitives)

/-- **An authenticated frame**, delivered out of the transport frame `raw`: it is part of a
plaintext that the AEAD accepted under the session's decryption key, or, on a session that does
not require encryption, it carries a MAC that verifies under the session's signing key. -/
def Authentic (crypto : CryptoState) (raw : Bytes) (frame : Frame) : Prop :=
  Parsed frame ∧
    ((∃ plain subs, isTransform raw ∧ AeadAccepts K crypto raw plain ∧
        subFrames K plain = .ok subs ∧ frame.raw ∈ subs) ∨
      crypto.shouldEncrypt = false ∧ macVerifies K.mac crypto frame.header frame.raw)

def isProtected (crypto : CryptoState) : Bool := crypto.shouldSign || crypto.shouldEncrypt

/-- **Authenticated delivery**, at one event: once signing or encryption is active, whatever
resolves a waiter with `Ok` is an authenticated frame out of the bytes just received. -/
def AuthenticDelivery (r : Receiver) (event : Event) (r' : Receiver) : Prop :=
  isProtected r.crypto → ∀ id frame, (id, .ok frame) ∈ r'.resolved.drop r.resolved.length →
    ∃ raw, event = .frame raw ∧ Authentic K r.crypto raw frame

/-! ## When the checks are enough -/

/-- The receiver verifies the MAC of a plaintext sub-frame: signing is on with its key and its
algorithm, and the sub-frame has the `SIGNED` flag. -/
def isChecked (crypto : CryptoState) (sub : Bytes) : Bool :=
  crypto.shouldSign && isSigned sub && crypto.signingKey.isSome && crypto.signingAlgorithm.isSome

/-- A plaintext response that does no harm: the session expired, which is an error anyway; or, if
encryption is required, its MAC is checked and wrong; or, if not, its MAC is checked, or right
although it is not checked. -/
def harmless (crypto : CryptoState) (header : Header) (sub : Bytes) : Bool :=
  header.status = NtStatus.networkSessionExpired ||
    if crypto.shouldEncrypt then isChecked crypto sub && !macVerifies K.mac crypto header sub
    else isChecked crypto sub || macVerifies K.mac crypto header sub

/-- **The guard**: a frame received while signing or encryption is active begins with a transform
header, or every response in it that answers an outstanding request is harmless. -/
def guarded (r : Receiver) : Event → Bool
  | .frame raw =>
    !isProtected r.crypto || isTransform raw ||
      (r.answered K raw).all fun m => harmless K r.crypto m.2.1 m.2.2
  | _ => true

/-! ## The signature check -/

section Checks

variable {K} {P : MacPrimitives} {crypto : CryptoState} {header : Header} {sub : Bytes}
  {c : ReadCursor}

lemma verifySignature_eq_ok_iff {key : Bytes} {algorithm : SigningAlgorithm}
    (hkey : crypto.signingKey = some key) (halgorithm : crypto.signingAlgorithm = some algorithm) :
    verifySignature P sub key algorithm header.messageId (header.command = .cancel) = .ok () ↔
      macVerifies P crypto header sub := by
  rw [verifySignature_eq_ok]
  simp only [macVerifies, hkey, halgorithm, decide_eq_true_eq]
  rfl

lemma checkSignature_plain (hparse : Header.unpack (.new sub) = .ok (header, c))
    (hfinal : header.status ≠ NtStatus.pending) :
    checkSignature P crypto header sub false = .ok () ↔
      (isChecked crypto sub → macVerifies P crypto header sub) := by
  obtain ⟨hlen, hstatus, -⟩ := Header.unpack_eq_ok hparse
  have hpending : isPending sub = false := by
    rw [isPending, ← hstatus]
    exact decide_eq_false hfinal
  simp only [checkSignature, isChecked, hpending, hlen]
  cases crypto.shouldSign with
  | false => simp
  | true =>
    cases isSigned sub with
    | false => simp
    | true =>
      cases hkey : crypto.signingKey with
      | none => simp
      | some key =>
        cases halgorithm : crypto.signingAlgorithm with
        | none => simp
        | some algorithm => simpa using verifySignature_eq_ok_iff hkey halgorithm

lemma verdict_eq_ok {wasEncrypted : Bool} {frame : Frame} :
    verdict P crypto wasEncrypted header sub = .ok frame ↔
      checkSignature P crypto header sub wasEncrypted = .ok () ∧
        header.status ≠ NtStatus.networkSessionExpired ∧
          frame = { header, body := sub.drop Header.size, raw := sub } := by
  unfold verdict
  cases checkSignature P crypto header sub wasEncrypted with
  | error e => simp
  | ok u =>
    by_cases hexpired : header.status = NtStatus.networkSessionExpired
    · simp [hexpired]
    · simp [hexpired, eq_comm]

lemma parsed_of_verdict {wasEncrypted : Bool} {frame : Frame}
    (hparse : Header.unpack (.new sub) = .ok (header, c))
    (hverdict : verdict P crypto wasEncrypted header sub = .ok frame) : Parsed frame := by
  obtain ⟨-, -, rfl⟩ := verdict_eq_ok.1 hverdict
  exact ⟨⟨c, hparse⟩, rfl⟩

lemma harmless_iff (hparse : Header.unpack (.new sub) = .ok (header, c))
    (hfinal : header.status ≠ NtStatus.pending) :
    harmless K crypto header sub ↔ ∀ frame, verdict K.mac crypto false header sub = .ok frame →
      crypto.shouldEncrypt = false ∧ macVerifies K.mac crypto frame.header frame.raw := by
  have hcheck : checkSignature K.mac crypto header sub false = .ok () ↔
      (isChecked crypto sub → macVerifies K.mac crypto header sub) :=
    checkSignature_plain hparse hfinal
  have hshape : (∀ frame, verdict K.mac crypto false header sub = .ok frame →
        crypto.shouldEncrypt = false ∧ macVerifies K.mac crypto frame.header frame.raw) ↔
      ((isChecked crypto sub → macVerifies K.mac crypto header sub) →
        header.status ≠ NtStatus.networkSessionExpired →
          crypto.shouldEncrypt = false ∧ macVerifies K.mac crypto header sub) := by
    constructor
    · intro h hmac hlive
      exact h _ (verdict_eq_ok.2 ⟨hcheck.2 hmac, hlive, rfl⟩)
    · intro h frame hverdict
      obtain ⟨hpassed, hlive, rfl⟩ := verdict_eq_ok.1 hverdict
      exact h (hcheck.1 hpassed) hlive
  rw [hshape, harmless, Bool.or_eq_true, decide_eq_true_eq]
  by_cases hexpired : header.status = NtStatus.networkSessionExpired
  · simp [hexpired]
  · simp only [hexpired, not_false_eq_true, false_or, ne_eq, forall_const]
    cases crypto.shouldEncrypt <;> cases isChecked crypto sub <;>
      cases macVerifies K.mac crypto header sub <;> simp

end Checks

/-! ## Runs -/

section Runs

variable {K} {r r' : Receiver} {event : Event}

lemma not_ok_of_step {id : MessageId} {frame : Frame} (h : r.step K event = some r')
    (hframe : ∀ raw, event ≠ .frame raw) :
    (id, .ok frame) ∉ r'.resolved.drop r.resolved.length := by
  cases event with
  | frame raw => exact absurd rfl (hframe raw)
  | register id' =>
    simp only [step] at h
    split at h <;> obtain rfl := Option.some.inj h <;> simp
  | transportError =>
    simp only [step] at h
    split at h
    · obtain rfl := Option.some.inj h
      exact resolved_tearDown_ok rfl
    · cases h
  | removeWaiter _ | activateSigning _ _ | activateEncryption _ _ _ | registerOplock _ _
  | forgetOplock _ =>
    obtain rfl := Option.some.inj h
    simp

lemma authentic_of_isTransform {raw : Bytes} (htransform : isTransform raw) {id : MessageId}
    {frame : Frame} (h : (id, .ok frame) ∈ (r.receive K raw).resolved.drop r.resolved.length) :
    Authentic K r.crypto raw frame := by
  obtain ⟨header, sub, hmem, hverdict⟩ := (mem_resolved_receive K).1 h
  obtain ⟨subs, hdecode, hsub, ⟨c, hparse⟩, -, -⟩ := mem_answered K hmem
  have hplain := (decodeFrame_eq_ok.1 hdecode).2
  rw [if_pos htransform] at hplain
  obtain ⟨plain, haccepts, hsubs⟩ := hplain
  obtain ⟨-, -, rfl⟩ := verdict_eq_ok.1 hverdict
  exact ⟨parsed_of_verdict hparse hverdict, .inl ⟨plain, subs, htransform, haccepts, hsubs, hsub⟩⟩

lemma receive_authentic_iff {raw : Bytes} :
    (∀ id frame, (id, .ok frame) ∈ (r.receive K raw).resolved.drop r.resolved.length →
        Authentic K r.crypto raw frame) ↔
      isTransform raw ∨ ∀ m ∈ r.answered K raw, harmless K r.crypto m.2.1 m.2.2 := by
  by_cases htransform : isTransform raw
  · simp only [htransform, true_or, iff_true]
    exact fun id frame h => authentic_of_isTransform htransform h
  · have hplain : isTransform raw = false := by simpa using htransform
    simp only [hplain, Bool.false_eq_true, false_or]
    constructor
    · rintro hauthentic ⟨id, header, sub⟩ hmem
      obtain ⟨subs, -, -, ⟨c, hparse⟩, -, hfinal⟩ := mem_answered K hmem
      refine (harmless_iff hparse hfinal).2 fun frame hverdict => ?_
      have hdelivered := (mem_resolved_receive K).2 ⟨header, sub, hmem, hplain ▸ hverdict⟩
      obtain ⟨-, ⟨_, _, h, -⟩ | hmac⟩ := hauthentic id frame hdelivered
      · exact absurd h htransform
      · exact hmac
    · intro hharmless id frame hdelivered
      obtain ⟨header, sub, hmem, hverdict⟩ := (mem_resolved_receive K).1 hdelivered
      obtain ⟨subs, -, -, ⟨c, hparse⟩, -, hfinal⟩ := mem_answered K hmem
      rw [hplain] at hverdict
      exact ⟨parsed_of_verdict hparse hverdict,
        .inr ((harmless_iff hparse hfinal).1 (hharmless _ hmem) frame hverdict)⟩

lemma authenticDelivery_iff_guarded (h : r.step K event = some r') :
    AuthenticDelivery K r event r' ↔ r.guarded K event := by
  by_cases hframe : ∃ raw, event = .frame raw
  · obtain ⟨raw, rfl⟩ := hframe
    obtain rfl : r.receive K raw = r' := by
      simp only [step] at h
      split at h
      · exact Option.some.inj h
      · cases h
    simp only [AuthenticDelivery, guarded, Event.frame.injEq, exists_eq_left', Bool.or_eq_true,
      Bool.not_eq_true', all_eq_true, or_assoc, receive_authentic_iff]
    cases isProtected r.crypto <;> simp
  · have hguard : r.guarded K event := by
      cases event with
      | frame raw => exact absurd ⟨raw, rfl⟩ hframe
      | _ => rfl
    simp only [hguard, iff_true]
    intro _ id frame hmem
    exact absurd hmem (not_ok_of_step h fun raw hraw => hframe ⟨raw, hraw⟩)

/-- **Authenticated delivery.** From whatever state the receiver starts and whatever bytes the
network delivers, with waiters registered and removed and keys activated in between: every waiter
resolved with `Ok` while signing or encryption is active got an authenticated frame, exactly if
every event of the run was guarded. -/
theorem delivery_authentic_iff (r : Receiver) (run : List Event) :
    Transition.Along (step K) (AuthenticDelivery K) r run ↔
      Transition.Along (step K) (fun s event _ => s.guarded K event) r run :=
  ⟨fun h => h.mono fun _ _ _ hstep => (authenticDelivery_iff_guarded hstep).1,
    fun h => h.mono fun _ _ _ hstep => (authenticDelivery_iff_guarded hstep).2⟩

end Runs

/-! ## A response nobody authenticated -/

/-- Stand-ins for the third-party code, to evaluate the receiver on given bytes: a checksum for
the MACs, a cipher that leaves the text as it is, and blocks that are their own compression. -/
def samplePrimitives : Primitives where
  mac :=
    { hmacSha256 := fun key message => replicate 32 (((key ++ message).foldl (· + ·) 0) + 1)
      aesCmac := fun key message => replicate 16 (((key ++ message).foldl (· + ·) 0) + 1)
      aesGmac := fun key nonce message =>
        replicate 16 (((key ++ nonce ++ message).foldl (· + ·) 0) + 1) }
  aead :=
    { encrypt := fun _ _ _ _ plain => (plain, replicate 16 0)
      decrypt := fun _ _ _ _ tag text => if tag = replicate 16 0 then some text else none
      length_tag := fun _ _ _ _ _ => rfl
      decrypt_encrypt := fun _ _ _ _ _ => rfl }
  lz4 := fun block _ => .ok block

/-- The header of an ECHO response with message id 5, without the `SIGNED` flag and with zeros for
a signature. -/
def unsignedHeader : Header where
  creditCharge := 1
  status := NtStatus.success
  command := .echo
  credits := 1
  flags := HeaderFlags.serverToRedir
  nextCommand := 0
  messageId := 5
  treeId := some 0
  asyncId := none
  sessionId := 1
  signature := replicate 16 0

def unsignedRun : List Event :=
  [.activateSigning (replicate 16 1) .hmacSha256, .register 5, .frame unsignedHeader.pack]

def unencryptedRun : List Event :=
  .activateEncryption (replicate 16 2) (replicate 16 3) .aes128Gcm :: unsignedRun

theorem unsignedResponse_delivered :
    (Transition.exec (step samplePrimitives) init unsignedRun).map Receiver.resolved =
        some [(5, .ok ⟨unsignedHeader, [], unsignedHeader.pack⟩)] ∧
      (Transition.exec (step samplePrimitives) init unencryptedRun).map Receiver.resolved =
        some [(5, .ok ⟨unsignedHeader, [], unsignedHeader.pack⟩)] ∧
      ¬ Transition.Along (step samplePrimitives) (AuthenticDelivery samplePrimitives) init
        unsignedRun ∧
      ¬ Transition.Along (step samplePrimitives) (AuthenticDelivery samplePrimitives) init
        unencryptedRun := by
  have hguarded : ∀ run, Transition.Along (step samplePrimitives)
        (AuthenticDelivery samplePrimitives) init run →
      Transition.Along (step samplePrimitives)
        (fun s event _ => s.guarded samplePrimitives event) init run :=
    fun run h => h.mono fun _ _ _ hstep => (authenticDelivery_iff_guarded hstep).1
  refine ⟨by decide +kernel, by decide +kernel, fun h => ?_, fun h => ?_⟩
  · exact absurd (hguarded _ h) (by decide +kernel)
  · exact absurd (hguarded _ h) (by decide +kernel)

end Receiver

end Smb2.Connection
