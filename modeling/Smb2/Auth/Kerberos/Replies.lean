import Smb2.Auth.Kerberos.Authenticator

set_option autoImplicit false

/-!
# Which replies of a KDC an exchange accepts

A reply to an AS-REQ or a TGS-REQ carries, under a key that the client has, the nonce of the request
and the name of the service that the ticket is for. Both exchanges decode these fields; neither of
them compares them with what was asked. So a reply is accepted as soon as it decodes and decrypts,
and a recorded reply to an earlier request does.
-/

open List

namespace Smb2.Kerberos

/-! ## What the exchanges check -/

section Exchanges

variable {P : KerberosPrimitives} {m : Moment} {serverHostname : List Char} {s s' : Run}

variable {α : Type} {f : KerberosAuthenticator → Option α} {message : String}

lemma ofResult_eq_ok {x : Except Error α} {a : α} : ofResult x = .ok a ↔ x = .ok a := by
  cases x <;> simp [ofResult, raise]

lemma ends_sendToKdc {I : KerberosAuthenticator → List KeyUse → Prop} (message : Bytes) :
    Prog.Ends (fun s => I s.auth s.uses) (sendToKdc message) (fun s => I s.auth s.uses) := by
  intro s hs
  unfold sendToKdc
  cases s.kdc with
  | nil => exact ⟨_, _, rfl, hs⟩
  | cons answer rest => exact ⟨_, _, rfl, hs⟩

lemma ends_asRequest {I : Credentials → List KeyUse → Prop} :
    Prog.Ends (fun s => I s.auth.credentials s.uses) (asRequest P m)
      (fun s => I s.auth.credentials s.uses) := by
  apply Prog.Ends.bind Prog.Ends.read
  intro c
  apply Prog.Ends.bind (ends_sendToKdc (I := fun a => I a.credentials) _)
  intro response
  apply Prog.Ends.ite ?_ Prog.Ends.pure
  apply Prog.Ends.bind Prog.Ends.lift
  intro krbError
  apply Prog.Ends.ite ?_ Prog.Ends.fail
  apply Prog.Ends.bind Prog.Ends.read
  intro old
  refine Prog.Ends.bind (Prog.Ends.update ?_) ?_
  · intro s hs
    exact hs
  intro _
  apply Prog.Ends.bind Prog.Ends.lift
  intro padata
  exact ends_sendToKdc (I := fun a => I a.credentials) _

lemma credentials_of_asRequest {r : Outcome Bytes} (h : asRequest P m s = some (r, s')) :
    s'.auth.credentials = s.auth.credentials :=
  (ends_asRequest (I := fun c _ => c = s.auth.credentials)).of_run rfl h

lemma asContents_eq_ok {rep : KdcRep} {part : EncKdcRepPart} :
    asContents P m s = some (.ok (rep, part), s') ↔
      ∃ response s₁ etype, asRequest P m s = some (.ok response, s₁) ∧
        readAsRep response = .ok (rep, etype) ∧
        openAsRep P s.auth.credentials etype rep = .ok part ∧
        s' = { s₁ with auth := { s₁.auth with etype } } := by
  constructor
  · intro h
    simp [asContents, get, set, ofResult_eq_ok] at h
    obtain ⟨response, s₁, hrequest, etype, hread, hopen, rfl⟩ := h
    exact ⟨response, s₁, etype, hrequest, hread, credentials_of_asRequest hrequest ▸ hopen, rfl⟩
  · rintro ⟨response, s₁, etype, hrequest, hread, hopen, rfl⟩
    rw [← credentials_of_asRequest hrequest] at hopen
    simp [asContents, get, set, ofResult_eq_ok, hrequest, hread, hopen]

lemma needed_eq_ok {x : α} :
    needed f message s = some (.ok x, s') ↔ f s.auth = some x ∧ s = s' := by
  constructor
  · intro h
    replace h := Prog.read_bind_eq_ok.1 h
    cases hf : f s.auth with
    | none =>
      rw [hf] at h
      cases h
    | some y =>
      rw [hf] at h
      obtain ⟨hy, rfl⟩ := Prod.mk.inj (Option.some.inj h)
      exact ⟨congrArg some (Except.ok.inj hy), rfl⟩
  · intro h
    obtain ⟨hf, rfl⟩ := h
    exact Prog.bind_eq_ok.2 ⟨some x, s, Prog.read_eq_ok.2 ⟨hf, rfl⟩, rfl⟩

lemma needed_of_none (h : f s.auth = none) :
    needed f message s = some (raise (.auth message), s) := by
  apply (Prog.bind_of_ok (a := f s.auth) (t := s) rfl).trans
  rw [h]
  rfl

def Run.afterTgsPlain (P : KerberosPrimitives) (s : Run) (key : SessionKey) (etype : EncryptionType)
    (cipher : Bytes) : Run :=
  match kerberosDecrypt P key.bytes 8 cipher etype with
  | .error (.error _) => { s with uses := s.uses ++ [⟨key, etype⟩] ++ [⟨key, etype⟩] }
  | _ => { s with uses := s.uses ++ [⟨key, etype⟩] }

lemma tgsPlain_apply {key : SessionKey} {etype : EncryptionType} {cipher : Bytes} :
    tgsPlain P key etype cipher s =
      some (openTgsRep P key.bytes etype cipher, s.afterTgsPlain P key etype cipher) := by
  unfold tgsPlain Run.afterTgsPlain
  cases kerberosDecrypt P key.bytes 8 cipher etype with
  | ok plain => rfl
  | error failure => cases failure <;> rfl

lemma tgsContents_eq_ok {rep : KdcRep} {part : EncKdcRepPart} {keyEtype : EncryptionType} :
    tgsContents P m serverHostname s = some (.ok (rep, part, keyEtype), s') ↔
      ∃ tgt key response s₁ plain, s.auth.tgt = some tgt ∧ s.auth.asSessionKey = some key ∧
        tgsRequest P m serverHostname tgt key s.auth.etype s = some (.ok response, s₁) ∧
        readTgsRep response = .ok rep ∧
        openTgsRep P key.bytes s.auth.etype rep.encPart.cipher = .ok plain ∧
        parseEncKdcRepPart plain = .ok part ∧
        EncryptionType.ofCode part.key.keytype = some keyEtype ∧
        s' = s₁.afterTgsPlain P key s.auth.etype rep.encPart.cipher := by
  have hkeytype {code : Int32} {etype : EncryptionType} :
      tgsKeyEtype code = .ok etype ↔ EncryptionType.ofCode code = some etype := by
    unfold tgsKeyEtype
    split <;> simp [*]
  simp only [tgsContents, get, Prog.bind_eq_ok, needed_eq_ok, Prog.read_eq_ok, Prog.lift_eq_ok,
    Prog.pure_eq_ok, tgsPlain_apply, ofResult_eq_ok, hkeytype, Option.some.injEq, Prod.mk.injEq]
  grind

lemma asExchange_eq_ok :
    asExchange P m s = some (.ok (), s') ↔
      ∃ rep part s₁, asContents P m s = some (.ok (rep, part), s₁) ∧
        s' = { s₁ with auth := { s₁.auth with
          tgt := some rep.ticket
          asSessionKey := some ⟨part.key.keyvalue, part.key.keytype⟩ } } := by
  simp [asExchange, set, eq_comm (a := s')]

lemma tgsExchange_eq_ok :
    tgsExchange P m serverHostname s = some (.ok (), s') ↔
      ∃ rep part keyEtype s₁,
        tgsContents P m serverHostname s = some (.ok (rep, part, keyEtype), s₁) ∧
        s' = { s₁ with auth := { s₁.auth with
          etype := keyEtype
          serviceTicket := some rep.ticket
          tgsSessionKey := some ⟨part.key.keyvalue, part.key.keytype⟩
          sessionKey := some ⟨part.key.keyvalue, part.key.keytype⟩ } } := by
  simp [tgsExchange, set, eq_comm (a := s')]

end Exchanges

/-! ## Replies and their requests -/

/-- **The contents of a reply are for a request**: they carry its nonce and name the service it asked
for. The type of a name is only a hint. -/
def EncKdcRepPart.Answers (part : EncKdcRepPart) (nonce : UInt32) (sname : PrincipalName)
    (realm : List Char) : Prop :=
  part.nonce = nonce ∧ part.sname.nameString = sname.nameString ∧ part.srealm = realm

instance (part : EncKdcRepPart) (nonce : UInt32) (sname : PrincipalName) (realm : List Char) :
    Decidable (part.Answers nonce sname realm) :=
  inferInstanceAs (Decidable (_ ∧ _ ∧ _))

section Bound

variable (P : KerberosPrimitives) (m : Moment) (serverHostname : List Char) (s : Run)

def AsBound : Prop :=
  ∀ s', asExchange P m s = some (.ok (), s') →
    ∃ rep part s₁, asContents P m s = some (.ok (rep, part), s₁) ∧
      part.Answers m.nonce s.auth.credentials.krbtgt s.auth.credentials.realm

def TgsBound : Prop :=
  ∀ s', tgsExchange P m serverHostname s = some (.ok (), s') →
    ∃ rep part keyEtype s₁,
      tgsContents P m serverHostname s = some (.ok (rep, part, keyEtype), s₁) ∧
      part.Answers m.nonce (cifs serverHostname) s.auth.credentials.realm

/-- The reply that comes for an AS-REQ, if it is an AS-REP that opens under the user's key, was made
for this request. -/
def AsRepliesAnswer : Prop :=
  ∀ response s₁, asRequest P m s = some (.ok response, s₁) →
    ∀ rep etype part, readAsRep response = .ok (rep, etype) →
      openAsRep P s.auth.credentials etype rep = .ok part →
        part.Answers m.nonce s.auth.credentials.krbtgt s.auth.credentials.realm

/-- The reply that comes for a TGS-REQ, if it is a TGS-REP that opens under the session key and
delivers a key of a known type, was made for this request. -/
def TgsRepliesAnswer : Prop :=
  ∀ tgt key, s.auth.tgt = some tgt → s.auth.asSessionKey = some key →
    ∀ response s₁, tgsRequest P m serverHostname tgt key s.auth.etype s = some (.ok response, s₁) →
      ∀ rep plain part, readTgsRep response = .ok rep →
        openTgsRep P key.bytes s.auth.etype rep.encPart.cipher = .ok plain →
        parseEncKdcRepPart plain = .ok part →
        (EncryptionType.ofCode part.key.keytype).isSome →
          part.Answers m.nonce (cifs serverHostname) s.auth.credentials.realm

variable {P m serverHostname s} in
/-- An exchange is its contents and what is then stored of them. -/
lemma bound_iff {α : Type} {contents : KerbM α} (exchange : KerbM Unit) {store : α → Run → Run}
    (h : exchange = contents >>= fun c => Prog.update (store c)) {Q : α → Prop} :
    (∀ s', exchange s = some (.ok (), s') → ∃ c s₁, contents s = some (.ok c, s₁) ∧ Q c) ↔
      ∀ c ∈ Prog.result contents s, Q c := by
  subst h
  simp only [Prog.bind_eq_ok, Prog.update_eq_ok, Prog.mem_result]
  constructor
  · rintro h c ⟨s₁, hc⟩
    obtain ⟨c', s₁', hc', hQ⟩ := h _ ⟨c, s₁, hc, rfl⟩
    rw [hc] at hc'
    cases hc'
    exact hQ
  · rintro h s' ⟨c, s₁, hc, -⟩
    exact ⟨c, s₁, hc, h c ⟨s₁, hc⟩⟩

lemma asBound_iff : AsBound P m s ↔ ∀ c ∈ Prog.result (asContents P m) s,
    c.2.Answers m.nonce s.auth.credentials.krbtgt s.auth.credentials.realm := by
  rw [← bound_iff (asExchange P m) rfl, AsBound]
  simp only [Prod.exists]

lemma tgsBound_iff : TgsBound P m serverHostname s ↔
    ∀ c ∈ Prog.result (tgsContents P m serverHostname) s,
      c.2.1.Answers m.nonce (cifs serverHostname) s.auth.credentials.realm := by
  rw [← bound_iff (tgsExchange P m serverHostname) rfl, TgsBound]
  simp only [Prod.exists]

instance : Decidable (AsBound P m s) := decidable_of_iff' _ (asBound_iff P m s)

instance : Decidable (TgsBound P m serverHostname s) :=
  decidable_of_iff' _ (tgsBound_iff P m serverHostname s)

/-- **Which exchanges are bound to their requests**: those whose replies are, whatever the client
does. No exchange compares the nonce or the names in a reply with its request. -/
theorem exchanges_bound_iff :
    (AsBound P m s ↔ AsRepliesAnswer P m s) ∧
      (TgsBound P m serverHostname s ↔ TgsRepliesAnswer P m serverHostname s) := by
  rw [asBound_iff, tgsBound_iff]
  simp only [Prog.mem_result, Prod.forall, asContents_eq_ok, tgsContents_eq_ok]
  refine ⟨⟨?_, ?_⟩, ⟨?_, ?_⟩⟩
  · intro h response s₁ hrequest rep etype part hread hopen
    exact h rep part ⟨_, response, s₁, etype, hrequest, hread, hopen, rfl⟩
  · rintro h rep part ⟨_, response, s₁, etype, hrequest, hread, hopen, -⟩
    exact h response s₁ hrequest rep etype part hread hopen
  · intro h tgt key htgt hkey response s₁ hrequest rep plain part hread hopen hpart hknown
    obtain ⟨keyEtype, hcode⟩ := Option.isSome_iff_exists.1 hknown
    exact h rep part keyEtype
      ⟨_, tgt, key, response, s₁, plain, htgt, hkey, hrequest, hread, hopen, hpart, hcode, rfl⟩
  · rintro h rep part keyEtype
      ⟨_, tgt, key, response, s₁, plain, htgt, hkey, hrequest, hread, hopen, hpart, hcode, -⟩
    exact h tgt key htgt hkey response s₁ hrequest rep plain part hread hopen hpart
      (Option.isSome_iff_exists.2 ⟨keyEtype, hcode⟩)

end Bound

/-! ## A recorded reply -/

def padBlock (block : Bytes) : Bytes := (block ++ replicate 16 0).take 16

def plainPrimitives : KerberosPrimitives where
  aesEncrypt _ block := padBlock block
  aesDecrypt _ block := padBlock block
  hmacSha1 _ _ := replicate 20 0
  hmacMd5 _ _ := replicate 16 0
  pbkdf2 _ _ _ len := replicate len 0
  md4 _ := replicate 16 0
  length_aesEncrypt _ _ := by simp [padBlock]
  length_aesDecrypt _ _ := by simp [padBlock]
  length_hmacSha1 _ _ := length_replicate
  length_hmacMd5 _ _ := length_replicate
  length_pbkdf2 _ _ _ _ := length_replicate
  length_md4 _ := length_replicate

def momentOf (seed : UInt32) : Moment :=
  ⟨seed, "20260101000000Z".toList, 0, fun n => replicate n 0⟩

def someUser : Credentials := ⟨"u".toList, "p".toList, "R".toList⟩

def someTicket : Ticket := ⟨5, "R".toList, ⟨2, []⟩, ⟨18, none, []⟩, none⟩

def encodeEncKdcRepPart (part : EncKdcRepPart) : Bytes :=
  derSequence [derContext 0 (encodeTyped part.key.keytype part.key.keyvalue),
    derContext 2 (derIntegerU32 part.nonce), derContext 5 (derGeneralizedTime part.authtime),
    derContext 7 (derGeneralizedTime part.endtime), derContext 9 (derGeneralString part.srealm),
    derContext 10 (encodePrincipalName part.sname)]

def encodeKdcRep (msgType : UInt8) (c : Credentials) (ticket : Ticket) (encPart : EncryptedData) :
    Bytes :=
  derApplication msgType (derSequence [derContext 0 (derInteger 5),
    derContext 1 (derInteger (Int32.ofNat msgType.toNat)), derContext 3 (derGeneralString c.realm),
    derContext 4 (encodePrincipalName c.cname), derContext 5 (encodeTicket ticket),
    derContext 6 (encodeEncryptedData encPart)])

/-- A reply to `someUser`, encrypted for a key usage. Under `plainPrimitives` the key makes no
difference. -/
def issue (msgType : UInt8) (usage : UInt32) (part : EncKdcRepPart) : Except Error Bytes :=
  match kerberosEncrypt plainPrimitives (momentOf 0).random (replicate 32 0) usage
    (encodeEncKdcRepPart part) .aes256CtsHmacSha196 with
  | .ok cipher => .ok (encodeKdcRep msgType someUser someTicket ⟨18, none, cipher⟩)
  | .error _ => .error .timeout

def answerTo (nonce : UInt32) (sname : PrincipalName) (key : EncryptionKey) : EncKdcRepPart :=
  ⟨key, nonce, 0, "t".toList, "t".toList, "R".toList, sname⟩

def someKey : EncryptionKey := ⟨18, replicate 32 0⟩

def replayedAs : Run :=
  { auth := { credentials := someUser }
    kdc := [issue 11 3 (answerTo 1 someUser.krbtgt someKey)] }

/-- A client that asks for a ticket of a server `h`, and gets the reply to a request with nonce 1 for
a server `g`. -/
def replayedTgs : Run :=
  { auth := {
      credentials := someUser
      tgt := some someTicket
      asSessionKey := some ⟨someKey.keyvalue, someKey.keytype⟩ }
    kdc := [issue 13 8 (answerTo 1 (cifs "g".toList) someKey)] }

/-- **A recorded reply is accepted.** The reply to an AS-REQ with nonce 1 answers that request, and
an exchange with nonce 2 takes it as well; a TGS exchange for one server takes the recorded reply for
another one. -/
theorem recordedReply_accepted :
    ((asExchange plainPrimitives (momentOf 1) replayedAs).map Prod.fst = some (.ok ()) ∧
      AsBound plainPrimitives (momentOf 1) replayedAs) ∧
    ((asExchange plainPrimitives (momentOf 2) replayedAs).map Prod.fst = some (.ok ()) ∧
      ¬ AsBound plainPrimitives (momentOf 2) replayedAs) ∧
    ((tgsExchange plainPrimitives (momentOf 2) "h".toList replayedTgs).map Prod.fst =
        some (.ok ()) ∧
      ¬ TgsBound plainPrimitives (momentOf 2) "h".toList replayedTgs) := by
  decide +kernel

end Smb2.Kerberos
