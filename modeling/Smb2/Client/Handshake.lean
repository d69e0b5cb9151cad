import Smb2.Client.Connection.Authenticity
import Smb2.Client.Connection.Splitting
import Smb2.Client.KerberosSession
import Smb2.Msg.NegotiateRoundTrip

set_option autoImplicit false

/-!
# The transcript of a handshake

`Connection::negotiate`, `Session::setup` and `Session::setup_kerberos` on one transport, with the
preauthentication hash: the connection hashes the NEGOTIATE messages, a setup goes on from a copy of
that hash with the SESSION_SETUP messages, and `install_transport` starts again. The keys of SMB 3.1.1
are derived with the hash as their context.

## Implementation notes

The server is given by the frames it sends while a request is waiting. SHA-512 and the NTLM
authenticator are given functions. A call that gets no answer has not returned.
-/

open List

namespace Smb2.Handshake

open Connection

/-! ## The transport -/

/-- What passed over a transport: a message of the client, or the frames that came while it was
waiting and the response that was delivered out of them. -/
inductive Passed
  | sent (bytes : Bytes)
  | received (frames : List Bytes) (response : Frame)

namespace Passed

/-- Every request counts, and a response to NEGOTIATE or one that asks for another round. -/
def counts : Passed → Bool
  | sent _ => true
  | received _ response =>
    response.header.command = .negotiate ∨
      response.header.status = NtStatus.moreProcessingRequired

def message : Passed → Bytes
  | sent bytes => bytes
  | received _ response => response.raw

/-- **A response comes out of a received frame**: it is one of the sub-frames of the frame, or of
what the frame decompresses to. -/
def Delivered (K : Primitives) : Passed → Prop
  | sent _ => True
  | received frames response => Receiver.Parsed response ∧
      ∃ raw ∈ frames, ∃ subs, subFrames K raw = .ok subs ∧ response.raw ∈ subs

end Passed

/-- **The transcript**: the messages of a handshake that the keys are bound to. -/
def transcript (passed : List Passed) : List Bytes :=
  (passed.filter Passed.counts).map Passed.message

/-- **A hash chained** over messages, from 64 zero bytes. -/
def chain (sha512 : Bytes → Bytes) (messages : List Bytes) : Bytes :=
  messages.foldl (fun hash message => sha512 (hash ++ message)) (replicate 64 0)

structure Link where
  crypto : CryptoState := {}
  params : Option NegotiatedParams := none
  preauthHash : Bytes := replicate 64 0
  previousSessionId : SessionId := 0
  nextMessageId : MessageId := 0
  /-- *Ghost*: what passed over the current transport. -/
  passed : List Passed := []

def Link.installTransport (s : Link) : Link :=
  { previousSessionId := UInt64.ofNat s.crypto.sessionId }

/-- **A connection after any number of revivals**, with whatever it did between them. -/
def revived (lives : List (Link → Link)) : Link :=
  lives.foldl (fun s life => (life s).installTransport) {}

abbrev LinkM := Prog Link Error

/-- What an exchange depends on: the credits the request asks for, and what the server sends. -/
structure Exchange where
  credits : UInt16
  frames : List Bytes

section Calls

variable (K : Primitives) (sha512 : Bytes → Bytes)

def awaitFrame (r : Receiver) : List Bytes → Option (Except Error Frame)
  | [] => none
  | raw :: frames =>
    match (r.receive K raw).resolved.drop r.resolved.length with
    | (_, result) :: _ => some result
    | [] => awaitFrame (r.receive K raw) frames

def awaitResponse (id : MessageId) (frames : List Bytes) : LinkM Frame := fun s =>
  let waiting := { Receiver.init with crypto := s.crypto, waiters := AList.singleton id ⟨none, 0⟩ }
  (awaitFrame K waiting frames).map fun
    | .ok response => (.ok response, { s with passed := s.passed ++ [.received frames response] })
    | .error e => (.error e, s)

def protect (message : Bytes) (id : MessageId) : LinkM Bytes := fun s =>
  let c := s.crypto
  if c.shouldEncrypt then
    match c.encryptionKey, c.encryptionCipher, c.nonceGen with
    | some key, some cipher, some n =>
      let sealed := encryptMessage K.aead message key cipher (nonceBytes n) (UInt64.ofNat c.sessionId)
      some (sealed.map fun p => p.1 ++ p.2, { s with crypto := { c with nonceGen := some (n + 1) } })
    | none, _, _ => some (.error (.invalidData "encryption active but no encryption key"), s)
    | _, none, _ => some (.error (.invalidData "encryption active but no cipher"), s)
    | _, _, none => some (.error (.invalidData "encryption active but no nonce generator"), s)
  else
    match c.shouldSign, c.signingKey, c.signingAlgorithm with
    | true, some key, some algorithm => some (signMessage K.mac message key algorithm id false, s)
    | _, _, _ => some (.ok message, s)

/-- `execute_capturing_request`: the response, and the request before it was signed or encrypted. -/
def executeCapturingRequest (request : SessionSetupRequest) (e : Exchange) :
    LinkM (Frame × Bytes) := do
  let s ← Prog.read id
  let signed := s.crypto.shouldSign && !s.crypto.shouldEncrypt
  let header := { Header.newRequest .sessionSetup with
    messageId := s.nextMessageId, credits := e.credits, creditCharge := 1
    sessionId := UInt64.ofNat s.crypto.sessionId, flags := if signed then HeaderFlags.signed else 0 }
  let captured := header.pack ++ request.pack
  let bytes ← protect K captured header.messageId
  Prog.update fun s =>
    { s with nextMessageId := s.nextMessageId + 1, passed := s.passed ++ [.sent bytes] }
  let frame ← awaitResponse K header.messageId e.frames
  return (frame, captured)

def updateHash (message : Bytes) : LinkM Unit :=
  Prog.update fun s => { s with preauthHash := sha512 (s.preauthHash ++ message) }

def checkNegotiate (h : Header) : Except Error Unit :=
  if !h.flags.contains HeaderFlags.serverToRedir then
    .error (.invalidData "expected a response but got a request")
  else if h.command ≠ .negotiate then
    .error (.invalidData ("expected Negotiate response, got " ++ h.command.debug))
  else if h.status ≠ NtStatus.success then .error (.protocol h.status .negotiate)
  else .ok ()

def negotiateRequest (clientGuid : Guid) (salt : Bytes) (compression : Bool) : NegotiateRequest where
  securityMode := 0x0001
  capabilities := 0x00000007
  clientGuid
  dialects := Dialect.all
  negotiateContexts :=
    [.preauthIntegrity [0x0001] salt, .encryption [0x0002, 0x0001, 0x0004, 0x0003],
      .signing [signingAesGmac, 0x0001, 0x0000]] ++
        if compression then [.compression 0 [compressionLz4]] else []

def negotiate (clientGuid : Guid) (salt : Bytes) (compression : Bool) (frames : List Bytes) :
    LinkM Unit := do
  let id ← Prog.read (·.nextMessageId)
  let message := Header.pack { Header.newRequest .negotiate with messageId := id } ++
    (negotiateRequest clientGuid salt compression).pack Header.size
  updateHash sha512 message
  Prog.update fun s =>
    { s with nextMessageId := s.nextMessageId + 1, passed := s.passed ++ [.sent message] }
  let frame ← awaitResponse K id frames
  updateHash sha512 frame.raw
  Prog.lift (checkNegotiate frame.header)
  let (resp, _) ← Prog.lift (NegotiateResponse.unpack (.new frame.body))
  let params ← Prog.lift (NegotiatedParams.ofResponse resp)
  Prog.update fun s => { s with params := some params }

structure Ntlm where
  negotiate : Bytes
  authenticate : Bytes → Except Error (Bytes × Option Bytes)

def checkChallenge (h : Header) : Except Error Unit :=
  if h.command ≠ .sessionSetup then
    .error (.invalidData ("expected SessionSetup response, got " ++ h.command.debug))
  else if h.status = NtStatus.moreProcessingRequired then .ok ()
  else if h.status.severity = 3 then .error (.protocol h.status .sessionSetup)
  else .error (.invalidData
    "expected STATUS_MORE_PROCESSING_REQUIRED, got success on first round")

def checkFinal (h : Header) : Except Error Unit :=
  if h.command ≠ .sessionSetup then
    .error (.invalidData ("expected SessionSetup response, got " ++ h.command.debug))
  else if h.status ≠ NtStatus.success then .error (.protocol h.status .sessionSetup)
  else .ok ()

def setupRound (token : Bytes) (e : Exchange) : LinkM (Frame × Bytes) := do
  let previousSessionId ← Prog.read (·.previousSessionId)
  executeCapturingRequest K
    { flags := 0, securityMode := 0x0001, capabilities := 0, channel := 0, previousSessionId,
      securityBuffer := token } e

def setSessionId (id : SessionId) : LinkM Unit :=
  Prog.update fun s => { s with crypto := { s.crypto with sessionId := id.toNat } }

def challengeRound (type1 : Bytes) (e : Exchange) : LinkM (Bytes × Bytes) := do
  let hash ← Prog.read (·.preauthHash)
  let (frame, reqRaw) ← setupRound K type1 e
  Prog.lift (checkChallenge frame.header)
  setSessionId frame.header.sessionId
  let (resp, _) ← Prog.lift (SessionSetupResponse.unpack (.new frame.body))
  return (resp.securityBuffer, sha512 (sha512 (hash ++ reqRaw) ++ frame.raw))

def finalRound (hash type3 : Bytes) (e : Exchange) : LinkM (SessionId × SessionFlags × Bytes) := do
  let (frame, reqRaw) ← setupRound K type3 e
  Prog.lift (checkFinal frame.header)
  let (resp, _) ← Prog.lift (SessionSetupResponse.unpack (.new frame.body))
  setSessionId frame.header.sessionId
  return (frame.header.sessionId, resp.sessionFlags, sha512 (hash ++ reqRaw))

def authenticate (A : Ntlm) (e₁ e₂ : Exchange) : LinkM (NegotiatedParams × SetupOutcome) := do
  let params ← Prog.read (·.params)
  let params ← Prog.lift (params.elim
    (.error (.invalidData "negotiate must complete before session setup")) .ok)
  let (challenge, hash) ← challengeRound K sha512 A.negotiate e₁
  let (type3, key) ← Prog.lift (A.authenticate challenge)
  let (sessionId, flags, hash) ← finalRound K sha512 hash type3 e₂
  let key ← Prog.lift (key.elim (.error (.auth "NTLM did not produce a session key")) .ok)
  return (params, ⟨sessionId, flags, key, hash⟩)

def setup (A : Ntlm) (e₁ e₂ : Exchange) : LinkM Session := do
  let (params, outcome) ← authenticate K sha512 A e₁ e₂
  let session := Session.ofOutcome K.mac params outcome
  Prog.update fun s =>
    { s with crypto := session.activate params.cipher s.crypto, previousSessionId := 0 }
  return session

end Calls

/-! ## What an exchange leaves on the wire -/

section Exchanges

variable {K : Primitives} {s s' : Link} {frame : Frame} {frames : List Bytes}

lemma delivered_of_awaitFrame {r : Receiver} (hkey : r.crypto.decryptionKey = none)
    (h : awaitFrame K r frames = some (.ok frame)) : (Passed.received frames frame).Delivered K := by
  induction frames generalizing r with
  | nil => cases h
  | cons raw frames ih =>
    rw [awaitFrame] at h
    split at h
    · rename_i id result rest hresolved
      obtain rfl := Option.some.inj h
      have hmem : (id, .ok frame) ∈ (r.receive K raw).resolved.drop r.resolved.length := by
        rw [hresolved]
        exact mem_cons_self ..
      obtain ⟨header, sub, hanswered, hverdict⟩ := (Receiver.mem_resolved_receive K).1 hmem
      obtain ⟨subs, hdecode, hsub, ⟨c, hparse⟩, -⟩ := Receiver.mem_answered K hanswered
      have hparsed := Receiver.parsed_of_verdict hparse hverdict
      obtain ⟨-, -, rfl⟩ := Receiver.verdict_eq_ok.1 hverdict
      have hsubs := (decodeFrame_eq_ok.1 hdecode).2
      split at hsubs
      · -- there is no key to decrypt with yet
        obtain ⟨_, ⟨key, _, hsome, -⟩, -⟩ := hsubs
        rw [hkey] at hsome
        cases hsome
      · exact ⟨hparsed, raw, mem_cons_self .., subs, hsubs, hsub⟩
    · rw [← r.crypto_receive K raw] at hkey
      obtain ⟨hparsed, raw', hraw', hout⟩ := ih hkey h
      exact ⟨hparsed, raw', mem_cons_of_mem _ hraw', hout⟩

def Unprotected (s : Link) : Prop := ∃ n, s.crypto = { sessionId := n }

lemma awaitResponse_eq_ok {id : MessageId} (hs : Unprotected s)
    (h : awaitResponse K id frames s = some (.ok frame, s')) :
    s' = { s with passed := s.passed ++ [.received frames frame] } ∧
      (Passed.received frames frame).Delivered K := by
  obtain ⟨result, hframe, hout⟩ := Option.map_eq_some_iff.1 h
  cases result with
  | error e => cases hout
  | ok response =>
    cases hout
    obtain ⟨n, hcrypto⟩ := hs
    exact ⟨rfl, delivered_of_awaitFrame (by simp [hcrypto]) hframe⟩

lemma executeCapturingRequest_eq_ok {request : SessionSetupRequest} {e : Exchange} {raw : Bytes}
    (hs : Unprotected s)
    (h : executeCapturingRequest K request e s = some (.ok (frame, raw), s')) :
    s' = { s with nextMessageId := s.nextMessageId + 1,
                  passed := s.passed ++ [.sent raw, .received e.frames frame] } ∧
      (Passed.received e.frames frame).Delivered K := by
  replace h := Prog.read_bind_eq_ok.1 h
  obtain ⟨bytes, s₁, hprotect, h⟩ := Prog.bind_eq_ok.1 h
  obtain ⟨n, hcrypto⟩ := id hs
  simp only [protect, id, hcrypto, Bool.false_eq_true, if_false, Option.some.injEq, Prod.mk.injEq,
    Except.ok.injEq] at hprotect
  obtain ⟨rfl, rfl⟩ := hprotect
  replace h := Prog.update_bind_eq_ok.1 h
  obtain ⟨frame', s₂, hawait, h⟩ := Prog.bind_eq_ok.1 h
  obtain ⟨rfl, hdelivered⟩ := awaitResponse_eq_ok (by exact hs) hawait
  cases h
  refine ⟨?_, hdelivered⟩
  simp [hcrypto]

end Exchanges

/-! ## The hash along a handshake -/

section Hashes

variable {K : Primitives} {sha512 : Bytes → Bytes} {s s' t : Link}

/-- **The hash covers what passed**, and every response came out of a received frame. -/
structure Covered (K : Primitives) (sha512 : Bytes → Bytes) (passed : List Passed) (hash : Bytes) :
    Prop where
  hash : hash = chain sha512 (transcript passed)
  delivered : ∀ p ∈ passed, p.Delivered K

variable {passed : List Passed} {hash : Bytes} {p : Passed}

lemma Covered.update (h : Covered K sha512 passed hash) (hp : p.Delivered K)
    (hcounts : p.counts = true) :
    Covered K sha512 (passed ++ [p]) (sha512 (hash ++ p.message)) := by
  refine ⟨?_, forall_mem_append.2 ⟨h.delivered, by simpa using hp⟩⟩
  rw [h.hash]
  simp [transcript, chain, hcounts]

lemma Covered.skip (h : Covered K sha512 passed hash) (hp : p.Delivered K)
    (hcounts : p.counts = false) : Covered K sha512 (passed ++ [p]) hash := by
  refine ⟨?_, forall_mem_append.2 ⟨h.delivered, by simpa using hp⟩⟩
  rw [h.hash]
  simp [transcript, hcounts]

end Hashes

def reply (command : Command) (status : NtStatus) (id : MessageId) (body : Bytes) : Bytes :=
  Header.pack { Header.newRequest command with
    status, messageId := id, flags := HeaderFlags.serverToRedir } ++ body

end Smb2.Handshake
