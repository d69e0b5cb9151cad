import Smb2.Auth.Kerberos.KeyUse
import Smb2.Client.Connection.Receiver
import Smb2.Client.Session

set_option autoImplicit false

/-!
# Sessions with Kerberos

`Session::setup_kerberos` and `Session::setup_kerberos_from_ccache`: the authenticator gets a service
ticket and builds an AP-REQ, which asks the server to prove that it knows the key of the ticket. One
SESSION_SETUP request carries it. The response may have the status of success or that of a server
that waits for another message, and what it says about the server is processed if it is there.

## Implementation notes

The exchange with the server is one answer, which is any frame or error. The response was accepted by
the connection before; the preauthentication hash is computed with a given hash function.
-/

open Option

namespace Smb2.KerberosSession

open Kerberos Connection

/-! ## The setup -/

/-- A setup under way: the authenticator, what it reads and changes of the connection, and what comes
of the SESSION_SETUP request. -/
structure KerberosSetup where
  auth : Run
  crypto : CryptoState
  params : Option NegotiatedParams
  preauthHash : Bytes
  previousSessionId : SessionId := 0
  session : Option Session := none
  sent : Option SessionSetupRequest := none
  answer : Except Error (Frame × Bytes)

abbrev SetupM (α : Type) := Prog KerberosSetup Failure α

def onAuth {α : Type} (call : KerbM α) : SetupM α := fun s =>
  (call s.auth).map fun r => (r.1, { s with auth := r.2 })

def executeCapturingRequest (request : SessionSetupRequest) : SetupM (Frame × Bytes) := fun s =>
  some (ofResult s.answer, { s with sent := some request })

def negotiated : SetupM NegotiatedParams := do
  match ← Prog.read (·.params) with
  | some params => return params
  | none => Prog.fail (.error (.invalidData "negotiate must complete before session setup"))

def checkHeader (h : Header) : Except Error Unit := do
  if h.command ≠ .sessionSetup then
    throw (.invalidData ("expected SessionSetup response, got " ++ h.command.debug))
  if h.status ≠ NtStatus.success ∧ h.status ≠ NtStatus.moreProcessingRequired then
    throw (.protocol h.status .sessionSetup)

def answerToken (resp : SessionSetupResponse) : Except Error (Option Bytes) := do
  if resp.securityBuffer = [] then return none
  return (← Spnego.parseNegTokenResp resp.securityBuffer).responseToken

structure Received where
  params : NegotiatedParams
  header : Header
  flags : SessionFlags
  /-- The preauthentication hash over the request, and over a response that is not the last one. -/
  preauthHash : Bytes
  token : Option Bytes

section Setup

variable (K : KerberosPrimitives) (M : MacPrimitives) (sha512 : Bytes → Bytes)

def receiveSetup : SetupM Received := do
  let params ← negotiated
  let token ← onAuth (needed (·.apReqBytes) "Kerberos authentication produced no token")
  let hash ← Prog.read (·.preauthHash)
  let previousSessionId ← Prog.read (·.previousSessionId)
  let (frame, reqRaw) ← executeCapturingRequest
    { flags := 0, securityMode := 0x0001, capabilities := 0, channel := 0, previousSessionId,
      securityBuffer := token }
  let hash := sha512 (hash ++ reqRaw)
  Prog.lift (ofResult (checkHeader frame.header))
  Prog.update fun s => { s with crypto := { s.crypto with sessionId := frame.header.sessionId.toNat } }
  let (resp, _) ← Prog.lift (ofResult (SessionSetupResponse.unpack (.new frame.body)))
  let hash :=
    if frame.header.status = NtStatus.moreProcessingRequired then sha512 (hash ++ frame.raw) else hash
  let answer ← Prog.lift (ofResult (answerToken resp))
  return ⟨params, frame.header, resp.sessionFlags, hash, answer⟩

def processToken (token : Option Bytes) : SetupM Unit :=
  match token with
  | some token => onAuth (processMutualAuthToken K token)
  | none => pure ()

/-- The end of `setup_kerberos_with_auth`: the keys are derived, activated and published. -/
def establish (r : Received) : SetupM Session := do
  let fullKey ← onAuth (needed (·.sessionKey) "Kerberos authentication produced no session key")
  let session := Session.ofOutcome M r.params
    ⟨r.header.sessionId, r.flags, fullKey.bytes.take 16, r.preauthHash⟩
  Prog.update fun s => { s with
    crypto := session.activate r.params.cipher s.crypto, previousSessionId := 0,
    session := some session }
  return session

def setupKerberosWithAuth : SetupM Session := do
  let r ← receiveSetup sha512
  processToken K r.token
  establish M r

inductive Login
  | password (m₁ m₂ m₃ : Moment)
  | fromCcache (ccache : List CcacheCredential) (m₂ m₃ : Moment)

def Login.call (serverHostname : List Char) : Login → KerbM Unit
  | .password m₁ m₂ m₃ => authenticate K serverHostname m₁ m₂ m₃
  | .fromCcache ccache m₂ m₃ => authenticateFromCcache K ccache serverHostname m₂ m₃

def setup (serverHostname : List Char) (login : Login) : SetupM Session := do
  onAuth (login.call K serverHostname)
  setupKerberosWithAuth K M sha512

def setupKerberos (serverHostname : List Char) (m₁ m₂ m₃ : Moment) : SetupM Session :=
  setup K M sha512 serverHostname (.password m₁ m₂ m₃)

def setupKerberosFromCcache (serverHostname : List Char) (ccache : List CcacheCredential)
    (m₂ m₃ : Moment) : SetupM Session :=
  setup K M sha512 serverHostname (.fromCcache ccache m₂ m₃)

end Setup

/-! ## A finished setup -/

/-- **A token proves that the server knows a session key**: it holds an AP-REP that decrypts under
the key. -/
def ProvesKey (K : KerberosPrimitives) (key : SessionKey) (token : Bytes) : Prop :=
  ∃ apRep etype plain part, HoldsApRep token apRep ∧
    EncryptionType.ofCode apRep.encPart.etype = some etype ∧
    kerberosDecrypt K key.bytes 12 apRep.encPart.cipher etype = .ok plain ∧
    parseEncApRepPart plain = .ok part

def ReadsAs (answer : Except Error (Frame × Bytes)) (header : Header) (token : Option Bytes) : Prop :=
  ∃ frame reqRaw resp c, answer = .ok (frame, reqRaw) ∧ frame.header = header ∧
    checkHeader frame.header = .ok () ∧
    SessionSetupResponse.unpack (.new frame.body) = .ok (resp, c) ∧ answerToken resp = .ok token

/-- The server has finished the setup: it reports success, and proves that it knows the session key of
the ticket. -/
def Finished (K : KerberosPrimitives) (key : SessionKey) (answer : Except Error (Frame × Bytes)) :
    Prop :=
  ∃ header token, ReadsAs answer header (some token) ∧ header.status = NtStatus.success ∧
    ProvesKey K key token

def SameKeys (crypto crypto' : CryptoState) : Prop :=
  crypto' = { crypto with sessionId := crypto'.sessionId }

def LogsIn (K : KerberosPrimitives) (serverHostname : List Char) (login : Login)
    (s : KerberosSetup) (key : SessionKey) : Prop :=
  ∃ run, login.call K serverHostname s.auth = some (.ok (), run) ∧ run.auth.tgsSessionKey = some key

/-- **A session is established, and keys are activated, only when the server has finished.** -/
def EstablishedOnlyWhenFinished (K : KerberosPrimitives) (M : MacPrimitives)
    (sha512 : Bytes → Bytes) (serverHostname : List Char) (login : Login) (s : KerberosSetup) : Prop :=
  ∀ r s', setup K M sha512 serverHostname login s = some (r, s') →
    (∃ session, r = .ok session) ∨ ¬ SameKeys s.crypto s'.crypto →
      ∃ key, LogsIn K serverHostname login s key ∧ Finished K key s.answer

def OtherToken (token : Bytes) : Prop :=
  ∃ a b data, unwrapToken token = .ok (a :: b :: data) ∧ ¬ (a = 0x02 ∧ b = 0x00)

/-- **A response that is accepted although the server has not finished**: there is no token, or one
that is no AP-REP, or the server waits for another message. -/
def Tolerated (K : KerberosPrimitives) (key : SessionKey) (status : NtStatus) :
    Option Bytes → Prop
  | none => True
  | some token => OtherToken token ∨ status ≠ NtStatus.success ∧ ProvesKey K key token

/-! ## Which tokens are accepted -/

section Tokens

variable {K : KerberosPrimitives} {token : Bytes} {key : SessionKey} {s s' : Run}

lemma processApRep_eq_ok {data : Bytes} (hkey : s.auth.sessionKey = some key) :
    processApRep K data s = some (.ok (), s') ↔
      ∃ apRep etype plain part, (parseApRep data = .ok apRep ∧
        EncryptionType.ofCode apRep.encPart.etype = some etype ∧
        kerberosDecrypt K key.bytes 12 apRep.encPart.cipher etype = .ok plain ∧
        parseEncApRepPart plain = .ok part) ∧
      adoptSubkey part.subkey { s with uses := s.uses ++ [⟨key, etype⟩] } = some (.ok (), s') := by
  simp only [processApRep, useKey, Prog.bind_eq_ok, Prog.lift_eq_ok, Prog.update_eq_ok, needed_eq_ok,
    ofResult_eq_ok, apRepEtype_eq_ok]
  grind

lemma adoptSubkey_eq_ok (hkey : s.auth.sessionKey = some key) (subkey : Option EncryptionKey) :
    ∃ s', adoptSubkey subkey s = some (.ok (), s') ∧ s'.auth.sessionKey.isSome := by
  cases subkey with
  | none => exact ⟨s, rfl, isSome_iff_exists.2 ⟨_, hkey⟩⟩
  | some subkey => exact ⟨_, rfl, rfl⟩

lemma processMutualAuthToken_isOk (hkey : s.auth.sessionKey = some key) :
    (∃ s', processMutualAuthToken K token s = some (.ok (), s')) ↔
      OtherToken token ∨ ProvesKey K key token := by
  simp only [processMutualAuthToken, Prog.bind_eq_ok, Prog.lift_eq_ok, ofResult_eq_ok]
  constructor
  · rintro ⟨s', inner, _, ⟨hinner, rfl⟩, h⟩
    split at h
    · obtain ⟨apRep, etype, plain, part, ⟨hparse, hopens⟩, -⟩ := (processApRep_eq_ok hkey).1 h
      exact .inr ⟨apRep, etype, plain, part, ⟨_, hinner, hparse⟩, hopens⟩
    · rename_i hother
      exact .inl ⟨_, _, _, hinner, fun hid => hother hid.1 hid.2⟩
    · cases h
  · rintro (⟨a, b, data, hinner, hid⟩ | ⟨apRep, etype, plain, part, ⟨data, hinner, hparse⟩, hopens⟩)
    · refine ⟨s, _, s, ⟨hinner, rfl⟩, ?_⟩
      generalize hcons : a :: b :: data = inner
      split
      · cases hcons
        exact absurd ⟨rfl, rfl⟩ hid
      · rfl
      · rename_i hlong
        exact absurd hcons.symm (hlong a b data)
    · obtain ⟨s', hlast, -⟩ := adoptSubkey_eq_ok
        (s := { s with uses := s.uses ++ [⟨key, etype⟩] }) hkey part.subkey
      exact ⟨s', _, s, ⟨hinner, rfl⟩,
        (processApRep_eq_ok hkey).2 ⟨apRep, etype, plain, part, ⟨hparse, hopens⟩, hlast⟩⟩

lemma sessionKey_isSome_of_token (hkey : s.auth.sessionKey = some key)
    (h : processMutualAuthToken K token s = some (.ok (), s')) : s'.auth.sessionKey.isSome := by
  obtain ⟨inner, -, h⟩ := Prog.lift_bind_eq_ok.1 h
  split at h
  · obtain ⟨_, etype, _, part, -, hlast⟩ := (processApRep_eq_ok hkey).1 h
    obtain ⟨s₁, hrun, hsome⟩ := adoptSubkey_eq_ok
      (s := { s with uses := s.uses ++ [⟨key, etype⟩] }) hkey part.subkey
    rw [hlast] at hrun
    cases hrun
    exact hsome
  · cases h
    exact isSome_iff_exists.2 ⟨_, hkey⟩
  · cases h

lemma ProvesKey.not_other (h : ProvesKey K key token) : ¬ OtherToken token := by
  obtain ⟨_, _, _, _, ⟨data, htoken, -⟩, -⟩ := h
  intro hother
  obtain ⟨a, b, data', htoken', hid⟩ := hother
  rw [htoken] at htoken'
  cases htoken'
  exact hid ⟨rfl, rfl⟩

end Tokens

/-! ## The steps of a setup -/

section Steps

variable {K : KerberosPrimitives} {M : MacPrimitives} {sha512 : Bytes → Bytes}
  {serverHostname : List Char} {login : Login} {s s' : KerberosSetup}

lemma onAuth_eq_ok {α : Type} {call : KerbM α} {a : α} :
    onAuth call s = some (.ok a, s') ↔
      ∃ run, call s.auth = some (.ok a, run) ∧ s' = { s with auth := run } := by
  simp only [onAuth, map_eq_some_iff, Prod.exists, Prod.mk.injEq]
  grind

lemma onAuth_needed {α : Type} {f : KerberosAuthenticator → Option α} {message : String} {x : α} :
    onAuth (needed f message) s = some (.ok x, s') ↔ f s.auth.auth = some x ∧ s = s' := by
  rw [onAuth_eq_ok]
  constructor
  · rintro ⟨run, hneeded, rfl⟩
    obtain ⟨hf, rfl⟩ := needed_eq_ok.1 hneeded
    exact ⟨hf, rfl⟩
  · rintro ⟨hf, rfl⟩
    exact ⟨s.auth, needed_eq_ok.2 ⟨hf, rfl⟩, rfl⟩

lemma executeCapturingRequest_eq_ok {request : SessionSetupRequest} {p : Frame × Bytes} :
    executeCapturingRequest request s = some (.ok p, s') ↔
      s.answer = .ok p ∧ s' = { s with sent := some request } := by
  simp [executeCapturingRequest, ofResult_eq_ok, eq_comm (a := s')]

lemma buildApReq_stored {m : Moment} {run run' : Run}
    (h : buildApReq K m run = some (.ok (), run')) :
    ∃ key request, run'.auth.tgsSessionKey = some key ∧ run'.auth.sessionKey = some key ∧
      run'.auth.apReqBytes = some request := by
  simp only [buildApReq, Kerberos.get, Kerberos.set, useKey, Prog.bind_eq_ok, needed_eq_ok, Prog.read_eq_ok,
    Prog.update_eq_ok, Prog.lift_eq_ok] at h
  grind

lemma Login.call_stored {run run' : Run} (h : login.call K serverHostname run = some (.ok (), run')) :
    ∃ key request, run'.auth.tgsSessionKey = some key ∧ run'.auth.sessionKey = some key ∧
      run'.auth.apReqBytes = some request := by
  cases login with
  | password m₁ m₂ m₃ =>
    obtain ⟨_, _, _, h⟩ := Prog.bind_eq_ok.1 h
    obtain ⟨_, _, _, h⟩ := Prog.bind_eq_ok.1 h
    exact buildApReq_stored h
  | fromCcache ccache m₂ m₃ =>
    have h : authenticateFromCcache K ccache serverHostname m₂ m₃ run = some (.ok (), run') := h
    rw [authenticateFromCcache_apply] at h
    cases hservice : findServiceTicket ccache "cifs".toList serverHostname
      run.auth.credentials.realm with
    | some cred =>
      rw [hservice] at h
      obtain ⟨_, _, _, h⟩ := Prog.bind_eq_ok.1 h
      exact buildApReq_stored h
    | none =>
      cases htgt : findTgt ccache run.auth.credentials.realm with
      | some cred =>
        rw [hservice, htgt] at h
        obtain ⟨_, _, _, h⟩ := Prog.bind_eq_ok.1 h
        obtain ⟨_, _, _, h⟩ := Prog.bind_eq_ok.1 h
        exact buildApReq_stored h
      | none =>
        rw [hservice, htgt] at h
        cases h

lemma negotiated_eq_ok {params : NegotiatedParams} :
    negotiated s = some (.ok params, s') ↔ s.params = some params ∧ s = s' := by
  simp only [negotiated, Prog.bind_eq_ok, Prog.read_eq_ok]
  cases s.params <;> simp

lemma receiveSetup_eq_ok {r : Received} (h : receiveSetup sha512 s = some (.ok r, s')) :
    s.params = some r.params ∧ ReadsAs s.answer r.header r.token ∧ s'.auth = s.auth ∧
      ∃ frame reqRaw, s.answer = .ok (frame, reqRaw) ∧ frame.header = r.header ∧
        checkHeader frame.header = .ok () ∧
        r.preauthHash = if frame.header.status = NtStatus.moreProcessingRequired then
            sha512 (sha512 (s.preauthHash ++ reqRaw) ++ frame.raw)
          else sha512 (s.preauthHash ++ reqRaw) := by
  simp only [receiveSetup, Prog.bind_eq_ok, negotiated_eq_ok, onAuth_needed, Prog.read_eq_ok,
    executeCapturingRequest_eq_ok, Prog.lift_eq_ok, Prog.update_eq_ok, Prog.pure_eq_ok, ofResult_eq_ok]
    at h
  obtain ⟨params, _, ⟨hparams, rfl⟩, token, _, ⟨-, rfl⟩, _, _, ⟨rfl, rfl⟩, _, _, ⟨rfl, rfl⟩,
    ⟨frame, reqRaw⟩, _, ⟨hanswer, rfl⟩, _, _, ⟨hcheck, rfl⟩, _, _, rfl, ⟨resp, c⟩, _, ⟨hunpack, rfl⟩,
    answer, _, ⟨htoken, rfl⟩, rfl, rfl⟩ := h
  exact ⟨hparams, ⟨frame, reqRaw, resp, c, hanswer, rfl, hcheck, hunpack, htoken⟩, rfl, frame, reqRaw,
    hanswer, rfl, hcheck, rfl⟩

lemma receiveSetup_of_readsAs {header : Header} {token : Option Bytes} {request : Bytes}
    (hparams : s.params.isSome) (hrequest : s.auth.auth.apReqBytes = some request)
    (hreads : ReadsAs s.answer header token) :
    ∃ r s', receiveSetup sha512 s = some (.ok r, s') ∧ r.token = token ∧ s'.auth = s.auth := by
  obtain ⟨params, hparams⟩ := isSome_iff_exists.1 hparams
  obtain ⟨frame, reqRaw, resp, c, hanswer, -, hcheck, hunpack, htoken⟩ := hreads
  simp only [receiveSetup, Prog.bind_eq_ok, negotiated_eq_ok, onAuth_needed, Prog.read_eq_ok,
    executeCapturingRequest_eq_ok, Prog.lift_eq_ok, Prog.update_eq_ok, Prog.pure_eq_ok, ofResult_eq_ok]
  exact ⟨_, _, ⟨params, _, ⟨hparams, rfl⟩, request, _, ⟨hrequest, rfl⟩, _, _, ⟨rfl, rfl⟩, _, _,
    ⟨rfl, rfl⟩, (frame, reqRaw), _, ⟨hanswer, rfl⟩, (), _, ⟨hcheck, rfl⟩, (), _, rfl, (resp, c), _,
    ⟨hunpack, rfl⟩, token, _, ⟨htoken, rfl⟩, rfl, rfl⟩, rfl, rfl⟩

lemma triple_onAuth {α : Type} {I : CryptoState → Prop} {call : KerbM α} :
    Prog.Triple (fun s => I s.crypto) (onAuth call) fun _ s => I s.crypto := by
  intro s r s' hs hrun
  obtain ⟨x, -, hpair⟩ := map_eq_some_iff.1 hrun
  obtain ⟨-, rfl⟩ := Prod.mk.inj hpair
  exact hs

lemma triple_bind {α β : Type} {I : CryptoState → Prop} {m : SetupM α} {f : α → SetupM β}
    (hm : Prog.Triple (fun s => I s.crypto) m fun _ s => I s.crypto)
    (hf : ∀ a, Prog.Triple (fun s => I s.crypto) (f a) fun _ s => I s.crypto) :
    Prog.Triple (fun s => I s.crypto) (m >>= f) fun _ s => I s.crypto :=
  hm.bind hf fun _ _ h => h

lemma triple_lift {α : Type} {I : CryptoState → Prop} {x : Outcome α} :
    Prog.Triple (fun s : KerberosSetup => I s.crypto) (Prog.lift x) fun _ s => I s.crypto := by
  intro s r s' hs hrun
  cases hrun
  exact hs

lemma sameKeys_receiveSetup {crypto : CryptoState} :
    Prog.Triple (fun s => SameKeys crypto s.crypto) (receiveSetup sha512)
      fun _ s => SameKeys crypto s.crypto := by
  apply triple_bind
  · apply triple_bind (Prog.Triple.read fun _ h => h)
    intro o
    cases o with
    | none => exact Prog.Triple.fail fun _ h => h
    | some params => exact Prog.Triple.pure fun _ h => h
  intro params
  apply triple_bind triple_onAuth
  intro token
  apply triple_bind (Prog.Triple.read fun _ h => h)
  intro hash
  apply triple_bind (Prog.Triple.read fun _ h => h)
  intro previous
  apply triple_bind
  · intro s r s' hs hrun
    cases hrun
    exact hs
  intro answer
  apply triple_bind triple_lift
  intro _
  apply triple_bind
  · apply Prog.Triple.update
    intro s hs
    show _ = _
    rw [hs]
  intro _
  apply triple_bind triple_lift
  intro resp
  apply triple_bind triple_lift
  intro token
  exact Prog.Triple.pure fun _ h => h

lemma sameKeys_of_error {e : Failure}
    (h : setup K M sha512 serverHostname login s = some (.error e, s')) :
    SameKeys s.crypto s'.crypto := by
  have htriple : Prog.Triple (fun t => SameKeys s.crypto t.crypto)
      (setup K M sha512 serverHostname login)
      fun r t => r = .error e → SameKeys s.crypto t.crypto := by
    refine Prog.Triple.bind triple_onAuth (fun _ => ?_) fun _ _ hs _ => hs
    refine Prog.Triple.bind sameKeys_receiveSetup (fun r => ?_) fun _ _ hs _ => hs
    refine Prog.Triple.bind (Q := fun _ t => SameKeys s.crypto t.crypto) ?_ (fun _ => ?_)
      fun _ _ hs _ => hs
    · cases r.token with
      | none => exact Prog.Triple.pure fun _ hs => hs
      | some token => exact triple_onAuth
    refine Prog.Triple.bind triple_onAuth (fun key => ?_) fun _ _ hs _ => hs
    -- from here on nothing fails
    intro t r' t' _ hrun hr
    cases hrun
    cases hr
  exact htriple s _ s' rfl h rfl

end Steps

/-! ## Which servers are not let in -/

section Established

variable {K : KerberosPrimitives} {M : MacPrimitives} {sha512 : Bytes → Bytes}
  {serverHostname : List Char} {login : Login} {s s' : KerberosSetup}

def Passes (K : KerberosPrimitives) (key : SessionKey) (token : Option Bytes) : Prop :=
  ∀ t, token = some t → OtherToken t ∨ ProvesKey K key t

lemma passes_of_setup {session : Session}
    (h : setup K M sha512 serverHostname login s = some (.ok session, s')) :
    ∃ key header token, LogsIn K serverHostname login s key ∧ s.params.isSome ∧
      ReadsAs s.answer header token ∧ Passes K key token := by
  obtain ⟨_, s₁, hlogin, h⟩ := Prog.bind_eq_ok.1 h
  obtain ⟨run, hcall, rfl⟩ := onAuth_eq_ok.1 hlogin
  obtain ⟨key, request, htgs, hkey, -⟩ := Login.call_stored hcall
  obtain ⟨r, s₂, hreceive, h⟩ := Prog.bind_eq_ok.1 h
  obtain ⟨hparams, hreads, hauth, -⟩ := receiveSetup_eq_ok hreceive
  obtain ⟨_, s₃, htoken, -⟩ := Prog.bind_eq_ok.1 h
  refine ⟨key, r.header, r.token, ⟨run, hcall, htgs⟩, isSome_iff_exists.2 ⟨_, hparams⟩,
    hreads, ?_⟩
  intro t ht
  rw [ht] at htoken
  obtain ⟨run', hprocess, -⟩ := onAuth_eq_ok.1 htoken
  rw [hauth] at hprocess
  exact (processMutualAuthToken_isOk hkey).1 ⟨run', hprocess⟩

lemma setup_of_passes {key : SessionKey} {header : Header} {token : Option Bytes}
    (hlogin : LogsIn K serverHostname login s key) (hparams : s.params.isSome)
    (hreads : ReadsAs s.answer header token) (hpasses : Passes K key token) :
    ∃ session s', setup K M sha512 serverHostname login s = some (.ok session, s') := by
  obtain ⟨run, hcall, htgs⟩ := hlogin
  obtain ⟨key', request, htgs', hkey, hrequest⟩ := Login.call_stored hcall
  obtain rfl := some.inj (htgs.symm.trans htgs')
  obtain ⟨r, s₁, hreceive, htoken, hauth⟩ :=
    receiveSetup_of_readsAs (s := { s with auth := run }) hparams hrequest hreads
  replace hauth : s₁.auth = run := hauth
  -- whatever the token, there is a session key afterwards
  have hprocess : ∃ s₂, processToken K r.token s₁ = some (.ok (), s₂) ∧
      s₂.auth.auth.sessionKey.isSome := by
    rw [htoken]
    cases token with
    | none =>
      refine ⟨s₁, rfl, ?_⟩
      rw [hauth]
      exact isSome_iff_exists.2 ⟨_, hkey⟩
    | some t =>
      rw [← hauth] at hkey
      obtain ⟨run', hrun'⟩ := (processMutualAuthToken_isOk hkey).2 (hpasses t rfl)
      exact ⟨_, onAuth_eq_ok.2 ⟨run', hrun', rfl⟩, sessionKey_isSome_of_token hkey hrun'⟩
  obtain ⟨s₂, hprocess, hkey₂⟩ := hprocess
  obtain ⟨fullKey, hfullKey⟩ := isSome_iff_exists.1 hkey₂
  unfold setup setupKerberosWithAuth establish
  rw [Prog.bind_of_ok (onAuth_eq_ok.2 ⟨run, hcall, rfl⟩), Prog.bind_of_ok hreceive,
    Prog.bind_of_ok hprocess, Prog.bind_of_ok (onAuth_needed.2 ⟨hfullKey, rfl⟩)]
  exact ⟨_, _, rfl⟩

lemma ReadsAs.unique {answer : Except Error (Frame × Bytes)} {header header' : Header}
    {token token' : Option Bytes} (h : ReadsAs answer header token)
    (h' : ReadsAs answer header' token') : header' = header ∧ token' = token := by
  obtain ⟨frame, _, resp, _, hanswer, rfl, -, hunpack, htoken⟩ := h
  obtain ⟨frame', _, resp', _, hanswer', rfl, -, hunpack', htoken'⟩ := h'
  rw [hanswer] at hanswer'
  cases hanswer'
  rw [hunpack] at hunpack'
  cases hunpack'
  rw [htoken] at htoken'
  cases htoken'
  exact ⟨rfl, rfl⟩

lemma LogsIn.unique {key key' : SessionKey} (h : LogsIn K serverHostname login s key)
    (h' : LogsIn K serverHostname login s key') : key' = key := by
  obtain ⟨run, hcall, hkey⟩ := h
  obtain ⟨run', hcall', hkey'⟩ := h'
  rw [hcall] at hcall'
  cases hcall'
  rw [hkey] at hkey'
  cases hkey'
  rfl

lemma not_established {key : SessionKey} {header : Header} {token : Option Bytes}
    (hlogin : LogsIn K serverHostname login s key) (hparams : s.params.isSome)
    (hreads : ReadsAs s.answer header token) (htolerated : Tolerated K key header.status token) :
    ¬ EstablishedOnlyWhenFinished K M sha512 serverHostname login s := by
  intro h
  have hpasses : Passes K key token := by
    intro t ht
    subst ht
    exact htolerated.imp_right And.right
  obtain ⟨session, s', hrun⟩ := setup_of_passes hlogin hparams hreads hpasses
  obtain ⟨key', hlogin', header', t, hreads', hstatus, hproves⟩ :=
    h _ s' hrun (.inl ⟨session, rfl⟩)
  obtain rfl := hlogin.unique hlogin'
  obtain ⟨rfl, rfl⟩ := hreads.unique hreads'
  cases htolerated with
  | inl hother => exact hproves.not_other hother
  | inr hwaits => exact hwaits.1 hstatus

end Established

/-- **A session is established only when the server has finished**, exactly if the server sends no
response that is merely tolerated.

**Proof sketch.** A setup that fails has activated nothing. One that succeeds has a ticket and has
read a response; if it has a token, the token was processed without an error, so it is no AP-REP, or
it proves that the server knows the key. Conversely a tolerated response leads to a session. -/
theorem established_iff (K : KerberosPrimitives) (M : MacPrimitives) (sha512 : Bytes → Bytes)
    (serverHostname : List Char) (login : Login) (s : KerberosSetup) :
    EstablishedOnlyWhenFinished K M sha512 serverHostname login s ↔
      ∀ key header token, LogsIn K serverHostname login s key → s.params.isSome →
        ReadsAs s.answer header token → ¬ Tolerated K key header.status token := by
  constructor
  · intro h key header token hlogin hparams hreads htolerated
    exact not_established hlogin hparams hreads htolerated h
  · intro h r s' hrun hactive
    cases r with
    | error e =>
      cases hactive with
      | inl hok => exact nomatch hok
      | inr hkeys => exact absurd (sameKeys_of_error hrun) hkeys
    | ok session =>
      obtain ⟨key, header, token, hlogin, hparams, hreads, hpasses⟩ := passes_of_setup hrun
      have hnot := h key header token hlogin hparams hreads
      cases token with
      | none => exact absurd trivial hnot
      | some t =>
        have hproves : ProvesKey K key t :=
          (hpasses t rfl).resolve_left fun hother => hnot (.inl hother)
        refine ⟨key, hlogin, header, t, hreads, ?_, hproves⟩
        by_contra hstatus
        exact hnot (.inr ⟨hstatus, hproves⟩)

/-! ## Servers that are let in -/

def cachedTicket : Login :=
  .fromCcache [⟨"R".toList, ["cifs".toList, "h".toList], 18, List.replicate 32 0,
    encodeTicket someTicket⟩] (momentOf 1) (momentOf 2)

def setupResponse (status : NtStatus) (buffer : Bytes) : Frame where
  header :=
    { creditCharge := 1, status, command := .sessionSetup, credits := 1, flags := 1, nextCommand := 0,
      messageId := 1, treeId := some 0, asyncId := none, sessionId := 7,
      signature := List.replicate 16 0 }
  body := [9, 0, 0, 0, 72, 0, UInt8.ofNat buffer.length, 0] ++ buffer
  raw := []

def answered (status : NtStatus) (buffer : Bytes) : KerberosSetup where
  auth := { auth := { credentials := someUser } }
  crypto := {}
  params := some (Session.selectedParams none false)
  preauthHash := List.replicate 64 0
  answer := .ok (setupResponse status buffer, [])

lemma cachedTicket_logsIn (status : NtStatus) (buffer : Bytes) :
    LogsIn plainPrimitives "h".toList cachedTicket (answered status buffer)
      ⟨List.replicate 32 0, 18⟩ := by
  have hrun : (cachedTicket.call plainPrimitives "h".toList
      { auth := { credentials := someUser } }).map (fun r => (r.1, r.2.auth.tgsSessionKey)) =
        some (.ok (), some ⟨List.replicate 32 0, 18⟩) := by decide +kernel
  obtain ⟨⟨r, run⟩, hcall, hpair⟩ := map_eq_some_iff.1 hrun
  obtain ⟨rfl, hkey⟩ := Prod.mk.inj hpair
  exact ⟨run, hcall, hkey⟩

/-- **Sessions that no server has finished**: the server waits for another message, or it reports
success without any token, or with a KRB-ERROR. -/
theorem unfinished_session_established :
    ¬ EstablishedOnlyWhenFinished plainPrimitives Session.zeroMacs id "h".toList cachedTicket
      (answered NtStatus.moreProcessingRequired []) ∧
    ¬ EstablishedOnlyWhenFinished plainPrimitives Session.zeroMacs id "h".toList cachedTicket
      (answered NtStatus.success []) ∧
    ¬ EstablishedOnlyWhenFinished plainPrimitives Session.zeroMacs id "h".toList cachedTicket
      (answered NtStatus.success (Spnego.wrapNegTokenResp [0x03, 0x00])) := by
  have hsilent (status : NtStatus) (hcheck : checkHeader (setupResponse status []).header = .ok ()) :
      ReadsAs (answered status []).answer (setupResponse status []).header none :=
    ⟨_, _, ⟨0, []⟩, _, rfl, rfl, hcheck, rfl, rfl⟩
  refine ⟨?_, ?_, ?_⟩
  · exact not_established (cachedTicket_logsIn _ _) rfl (hsilent _ (by decide)) trivial
  · exact not_established (cachedTicket_logsIn _ _) rfl (hsilent _ (by decide)) trivial
  · have hreads : ReadsAs
        (answered NtStatus.success (Spnego.wrapNegTokenResp [0x03, 0x00])).answer
        (setupResponse NtStatus.success (Spnego.wrapNegTokenResp [0x03, 0x00])).header
        (some [0x03, 0x00]) :=
      ⟨_, _, ⟨0, Spnego.wrapNegTokenResp [0x03, 0x00]⟩, _, rfl, rfl, by decide, rfl,
        by decide +kernel⟩
    exact not_established (cachedTicket_logsIn _ _) rfl hreads
      (.inl ⟨0x03, 0x00, [], rfl, by decide⟩)

end Smb2.KerberosSession
