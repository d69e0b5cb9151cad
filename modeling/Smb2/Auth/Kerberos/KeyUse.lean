import Smb2.Auth.Kerberos.Replies

set_option autoImplicit false

/-!
# Session keys and the algorithms they are used with

A session key is delivered with a type, which says for which encryption type it is. The
authenticator keeps the bytes only and has one field for the encryption type of whatever it does
next. The TGS exchange sets that field from the key that it was given; the AS exchange sets it from
the encryption of the reply instead, and an AP-REP is decrypted with whatever type it names. The
length of a key is looked at nowhere.
-/

open List

namespace Smb2.Kerberos

/-! ## Proper uses -/

/-- **A proper use** of a session key: with the type under which it was delivered, and with as many
bytes as keys of this type have. -/
def KeyUse.Proper (u : KeyUse) : Prop :=
  u.etype.code = u.key.keytype ∧ u.key.bytes.length = u.etype.keySize

instance (u : KeyUse) : Decidable u.Proper := inferInstanceAs (Decidable (_ ∧ _))

def SessionKey.Sized (key : SessionKey) : Prop :=
  ∀ etype, EncryptionType.ofCode key.keytype = some etype → key.bytes.length = etype.keySize

lemma proper_iff_sized {key : SessionKey} {etype : EncryptionType}
    (h : EncryptionType.ofCode key.keytype = some etype) :
    (⟨key, etype⟩ : KeyUse).Proper ↔ key.Sized := by
  constructor
  · intro hproper etype' hetype'
    obtain rfl : etype = etype' := Option.some.inj (h.symm.trans hetype')
    exact hproper.2
  · intro hsized
    exact ⟨EncryptionType.ofCode_eq_some_iff.1 h, hsized etype h⟩

/-! ## Which key a call uses -/

section Uses

variable {P : KerberosPrimitives} {m : Moment} {serverHostname : List Char} {us : List KeyUse}

variable {α : Type} {key : SessionKey} {etype : EncryptionType}

lemma ends_needed_bind {β : Type} {I J : Run → Prop} {f : KerberosAuthenticator → Option α}
    {message : String} {g : α → KerbM β} {x : α} (hx : ∀ s, I s → f s.auth = some x)
    (h : Prog.Ends I (g x) J) : Prog.Ends I (needed f message >>= g) J := by
  intro s hs
  obtain ⟨r, s', hrun, hJ⟩ := h s hs
  refine ⟨r, s', ?_, hJ⟩
  exact (Prog.bind_of_ok (needed_eq_ok.2 ⟨hx s hs, rfl⟩)).trans hrun

lemma ends_get_bind {β : Type} {I J : Run → Prop} {f : KerberosAuthenticator → α} {g : α → KerbM β}
    {x : α} (hx : ∀ s, I s → f s.auth = x) (h : Prog.Ends I (g x) J) :
    Prog.Ends I (get f >>= g) J := by
  intro s hs
  obtain ⟨r, s', hrun, hJ⟩ := h s hs
  refine ⟨r, s', ?_, hJ⟩
  rw [← hx s hs] at hrun
  exact hrun

def Used (us : List KeyUse) (u : KeyUse) (s : Run) : Prop :=
  ∃ n, s.uses = us ++ replicate (n + 1) u

lemma ends_useKey {call : Outcome α} :
    Prog.Ends (fun s => s.uses = us) (useKey key etype call)
      (fun s => s.uses = us ++ [⟨key, etype⟩]) := by
  refine Prog.Ends.bind (Prog.Ends.update ?_) fun _ => Prog.Ends.lift
  intro s hs
  show s.uses ++ [⟨key, etype⟩] = _
  rw [hs]

lemma ends_useKey_again {call : Outcome α} :
    Prog.Ends (Used us ⟨key, etype⟩) (useKey key etype call) (Used us ⟨key, etype⟩) := by
  refine Prog.Ends.bind (Prog.Ends.update ?_) fun _ => Prog.Ends.lift
  intro s hs
  obtain ⟨n, hn⟩ := hs
  refine ⟨n + 1, ?_⟩
  show s.uses ++ [⟨key, etype⟩] = _
  rw [hn, append_assoc, ← replicate_succ']

lemma ends_tgsPlain {cipher : Bytes} :
    Prog.Ends (Used us ⟨key, etype⟩) (tgsPlain P key etype cipher) (Used us ⟨key, etype⟩) := by
  unfold tgsPlain
  have hplain : Prog.Ends (Used us ⟨key, etype⟩)
      (useKey key etype (openTgsRep P key.bytes etype cipher)) (Used us ⟨key, etype⟩) :=
    ends_useKey_again
  split
  · exact ends_useKey_again.bind fun _ => hplain
  · exact hplain

lemma ends_tgsRequest {tgt : Ticket} :
    Prog.Ends (fun s => s.uses = us) (tgsRequest P m serverHostname tgt key etype)
      (Used us ⟨key, etype⟩) := by
  apply Prog.Ends.read_bind
  intro c
  refine Prog.Ends.bind (J := Used us ⟨key, etype⟩) ?_ ?_
  · intro s hs
    obtain ⟨r, s', hrun, huses⟩ := ends_useKey s hs
    exact ⟨r, s', hrun, 0, huses⟩
  intro checksum
  apply Prog.Ends.bind ends_useKey_again
  intro encrypted
  exact ends_sendToKdc (I := fun _ uses => ∃ n, uses = us ++ replicate (n + 1) ⟨key, etype⟩) _

lemma ends_tgsExchange {tgt : Ticket} :
    Prog.Ends (fun s => s.auth.tgt = some tgt ∧ s.auth.asSessionKey = some key ∧
        s.auth.etype = etype ∧ s.uses = us)
      (tgsExchange P m serverHostname) (Used us ⟨key, etype⟩) := by
  refine Prog.Ends.bind ?_ fun contents => Prog.Ends.update ?_
  · apply ends_needed_bind fun s hs => hs.1
    apply ends_needed_bind fun s hs => hs.2.1
    apply ends_get_bind fun s hs => hs.2.2.1
    refine Prog.Ends.bind ?_ ?_
    · intro s hs
      exact ends_tgsRequest s hs.2.2.2
    intro response
    apply Prog.Ends.bind Prog.Ends.lift
    intro rep
    apply Prog.Ends.bind ends_tgsPlain
    intro plain
    apply Prog.Ends.bind Prog.Ends.lift
    intro part
    apply Prog.Ends.bind Prog.Ends.lift
    intro keyEtype
    exact Prog.Ends.pure
  · intro s hs
    exact hs

lemma ends_asExchange : Prog.Ends (fun s => s.uses = us) (asExchange P m) (fun s => s.uses = us) := by
  refine Prog.Ends.bind ?_ fun contents => Prog.Ends.update ?_
  · apply Prog.Ends.bind (ends_asRequest (I := fun _ uses => uses = us))
    intro response
    apply Prog.Ends.bind Prog.Ends.lift
    intro read
    refine Prog.Ends.bind (Prog.Ends.update ?_) ?_
    · intro s hs
      exact hs
    intro _
    apply Prog.Ends.bind Prog.Ends.read
    intro c
    apply Prog.Ends.bind Prog.Ends.lift
    intro part
    exact Prog.Ends.pure
  · intro s hs
    exact hs

end Uses

/-! ## What is delivered -/

section Delivered

variable (P : KerberosPrimitives) (m : Moment) (serverHostname : List Char)

/-- A KDC delivers a session key with a TGT: the reply to the AS-REQ decodes, with an encryption type,
and opens under the user's key. -/
def AsDelivers (s : Run) (etype : EncryptionType) (key : SessionKey) (s' : Run) : Prop :=
  ∃ response s₁ rep part, asRequest P m s = some (.ok response, s₁) ∧
    readAsRep response = .ok (rep, etype) ∧
    openAsRep P s.auth.credentials etype rep = .ok part ∧
    key = ⟨part.key.keyvalue, part.key.keytype⟩ ∧
    s' = { s₁ with auth := { s₁.auth with
      etype, tgt := some rep.ticket, asSessionKey := some key } }

/-- A KDC delivers a session key with a ticket for the file server: the reply to the TGS-REQ decodes,
opens under the session key of the AS exchange, and has a key of a supported type. -/
def TgsDelivers (s : Run) (key : SessionKey) (s' : Run) : Prop :=
  ∃ tgt asKey response s₁ rep plain part keyEtype, s.auth.tgt = some tgt ∧
    s.auth.asSessionKey = some asKey ∧
    tgsRequest P m serverHostname tgt asKey s.auth.etype s = some (.ok response, s₁) ∧
    readTgsRep response = .ok rep ∧
    openTgsRep P asKey.bytes s.auth.etype rep.encPart.cipher = .ok plain ∧
    parseEncKdcRepPart plain = .ok part ∧
    key = ⟨part.key.keyvalue, part.key.keytype⟩ ∧
    EncryptionType.ofCode key.keytype = some keyEtype ∧
    s' = { s₁.afterTgsPlain P asKey s.auth.etype rep.encPart.cipher with
      auth := { (s₁.afterTgsPlain P asKey s.auth.etype rep.encPart.cipher).auth with
        etype := keyEtype, serviceTicket := some rep.ticket,
        tgsSessionKey := some key, sessionKey := some key } }

variable {P m serverHostname} {s s' : Run}

lemma asExchange_iff_delivers :
    asExchange P m s = some (.ok (), s') ↔ ∃ etype key, AsDelivers P m s etype key s' := by
  simp only [asExchange_eq_ok, asContents_eq_ok, AsDelivers]
  constructor
  · rintro ⟨rep, part, _, ⟨response, s₁, etype, hrequest, hread, hopen, rfl⟩, rfl⟩
    exact ⟨etype, _, response, s₁, rep, part, hrequest, hread, hopen, rfl, rfl⟩
  · rintro ⟨etype, key, response, s₁, rep, part, hrequest, hread, hopen, rfl, rfl⟩
    exact ⟨rep, part, _, ⟨response, s₁, etype, hrequest, hread, hopen, rfl⟩, rfl⟩

lemma tgsExchange_iff_delivers :
    tgsExchange P m serverHostname s = some (.ok (), s') ↔
      ∃ key, TgsDelivers P m serverHostname s key s' := by
  simp only [tgsExchange_eq_ok, tgsContents_eq_ok, TgsDelivers]
  constructor
  · rintro ⟨rep, part, keyEtype, _,
      ⟨tgt, asKey, response, s₁, plain, htgt, hkey, hrequest, hread, hopen, hpart, hcode, rfl⟩, rfl⟩
    exact ⟨_, tgt, asKey, response, s₁, rep, plain, part, keyEtype, htgt, hkey, hrequest, hread,
      hopen, hpart, rfl, hcode, rfl⟩
  · rintro ⟨key, tgt, asKey, response, s₁, rep, plain, part, keyEtype, htgt, hkey, hrequest, hread,
      hopen, hpart, rfl, hcode, rfl⟩
    exact ⟨rep, part, keyEtype, _, ⟨tgt, asKey, response, s₁, plain, htgt, hkey, hrequest, hread, hopen,
      hpart, hcode, rfl⟩, rfl⟩

end Delivered

/-! ## Calls and their uses -/

/-- A call of the authenticator that uses session keys, with what comes from outside: the clock and
the random bytes, the answers of the KDC, a credential cache, a token of the server. -/
inductive Call
  | authenticate (serverHostname : List Char) (m₁ m₂ m₃ : Moment) (kdc : List (Except Error Bytes))
  | authenticateFromCcache (ccache : List CcacheCredential) (serverHostname : List Char)
      (m₂ m₃ : Moment) (kdc : List (Except Error Bytes))
  | processMutualAuthToken (token : Bytes)

def Call.run (P : KerberosPrimitives) (auth : KerberosAuthenticator) :
    Call → Option (Outcome Unit × Run)
  | .authenticate serverHostname m₁ m₂ m₃ kdc =>
    Kerberos.authenticate P serverHostname m₁ m₂ m₃ { auth, kdc }
  | .authenticateFromCcache ccache serverHostname m₂ m₃ kdc =>
    Kerberos.authenticateFromCcache P ccache serverHostname m₂ m₃ { auth, kdc }
  | .processMutualAuthToken token => Kerberos.processMutualAuthToken P token { auth }

def ProperRun (run : Option (Outcome Unit × Run)) : Prop :=
  ∀ r s', run = some (r, s') → ∀ u ∈ s'.uses, u.Proper

/-- **The session keys in a call are used properly**, however the call ends. -/
def Call.KeysProper (P : KerberosPrimitives) (auth : KerberosAuthenticator) (c : Call) : Prop :=
  ProperRun (c.run P auth)

def CcacheCredential.Loads (cred : CcacheCredential) (ticket : Ticket) (etype : EncryptionType) :
    Prop :=
  parseTicket cred.ticket = .ok ticket ∧ EncryptionType.ofCode cred.keytype = some etype

def HoldsApRep (token : Bytes) (apRep : ApRep) : Prop :=
  ∃ data, unwrapToken token = .ok (0x02 :: 0x00 :: data) ∧ parseApRep data = .ok apRep

def KerberosAuthenticator.loadTgt (auth : KerberosAuthenticator) (cred : CcacheCredential)
    (ticket : Ticket) (etype : EncryptionType) : KerberosAuthenticator :=
  { auth with etype, tgt := some ticket, asSessionKey := some cred.key }

/-- **What is delivered to a call fits.** With a TGT, the KDC delivers a key for the encryption type
of its reply. Every key that is delivered, and goes with a type that the client supports, has as many
bytes as keys of that type have. An AP-REP is encrypted with the type of the session key. -/
def Call.KeysFit (P : KerberosPrimitives) (auth : KerberosAuthenticator) : Call → Prop
  | .authenticate serverHostname m₁ m₂ _ kdc =>
    ∀ etype key s₁, AsDelivers P m₁ { auth, kdc } etype key s₁ →
      (⟨key, etype⟩ : KeyUse).Proper ∧
        ∀ key' s₂, TgsDelivers P m₂ serverHostname s₁ key' s₂ → key'.Sized
  | .authenticateFromCcache ccache serverHostname m₂ _ kdc =>
    match findServiceTicket ccache "cifs".toList serverHostname auth.credentials.realm with
    | some cred => ∀ ticket etype, cred.Loads ticket etype → cred.key.Sized
    | none =>
      match findTgt ccache auth.credentials.realm with
      | some cred =>
        ∀ ticket etype, cred.Loads ticket etype → cred.key.Sized ∧
          ∀ key' s₂,
            TgsDelivers P m₂ serverHostname { auth := auth.loadTgt cred ticket etype, kdc } key' s₂ →
              key'.Sized
      | none => True
  | .processMutualAuthToken token =>
    ∀ apRep key etype, HoldsApRep token apRep → auth.sessionKey = some key →
      EncryptionType.ofCode apRep.encPart.etype = some etype → (⟨key, etype⟩ : KeyUse).Proper

/-! ## Proper uses and fitting keys -/

section ProperRuns

variable {P : KerberosPrimitives} {m m₃ : Moment} {serverHostname : List Char} {s s' : Run}

lemma properRun_iff {run : Option (Outcome Unit × Run)} {r : Outcome Unit} (h : run = some (r, s')) :
    ProperRun run ↔ ∀ u ∈ s'.uses, u.Proper := by
  simp [ProperRun, h]

variable {us : List KeyUse} {key : SessionKey} {etype : EncryptionType} {cred : CcacheCredential}

lemma forall_proper_iff {u : KeyUse} {n : ℕ} (huses : s.uses = us ++ replicate (n + 1) u) :
    (∀ v ∈ s.uses, v.Proper) ↔ (∀ v ∈ us, v.Proper) ∧ u.Proper := by
  rw [huses, forall_mem_append]
  simp

/-! ### Sequences

As long as all uses are proper, a call that fails ends the run well. -/

lemma properRun_bind {call next : KerbM Unit} (hcall : ProperRun (call s)) :
    ProperRun ((call >>= fun _ => next) s) ↔
      ∀ s₁, call s = some (.ok (), s₁) → ProperRun (next s₁) := by
  rw [Prog.bind_apply]
  rcases hrun : call s with _ | ⟨e | _, s₁⟩
  · simp [ProperRun]
  · have hproper := (properRun_iff hrun).1 hcall
    show ProperRun (some (.error e, s₁)) ↔ _
    rw [properRun_iff rfl]
    simpa using hproper
  · simp

variable {α : Type}

lemma properRun_lift_bind (hproper : ∀ u ∈ s.uses, u.Proper) {x : Except Error α}
    {f : α → KerbM Unit} :
    ProperRun ((Prog.lift (ofResult x) >>= f) s) ↔ ∀ a, x = .ok a → ProperRun (f a s) := by
  cases x with
  | ok a => exact ⟨fun h _ ha => Except.ok.inj ha ▸ h, fun h => h a rfl⟩
  | error e => exact iff_of_true ((properRun_iff rfl).2 hproper) nofun

lemma properRun_needed_bind (hproper : ∀ u ∈ s.uses, u.Proper)
    {f : KerberosAuthenticator → Option α} {message : String} {g : α → KerbM Unit} :
    ProperRun ((needed f message >>= g) s) ↔ ∀ x, f s.auth = some x → ProperRun (g x s) := by
  cases hx : f s.auth with
  | none =>
    rw [Prog.bind_of_error (needed_of_none hx)]
    exact iff_of_true ((properRun_iff rfl).2 hproper) nofun
  | some x =>
    rw [Prog.bind_of_ok (needed_eq_ok.2 ⟨hx, rfl⟩)]
    simp

lemma properRun_get_bind {f : KerberosAuthenticator → α} {g : α → KerbM Unit} :
    ProperRun ((get f >>= g) s) ↔ ProperRun (g (f s.auth) s) :=
  .rfl

lemma properRun_useKey_bind {call : Outcome α} {g : α → KerbM Unit}
    (hg : ∀ a us, Prog.Ends (fun s => s.uses = us) (g a) (fun s => s.uses = us)) :
    ProperRun ((useKey key etype call >>= g) s) ↔
      (∀ u ∈ s.uses, u.Proper) ∧ (⟨key, etype⟩ : KeyUse).Proper := by
  obtain ⟨r, s₁, hrun, huses⟩ := ends_useKey.bind (fun a => hg a _) s rfl
  rw [properRun_iff hrun]
  exact forall_proper_iff (n := 0) huses

/-! ### The exchanges -/

lemma TgsDelivers.stored (h : TgsDelivers P m serverHostname s key s') :
    ∃ ticket etype, s'.auth.serviceTicket = some ticket ∧ s'.auth.tgsSessionKey = some key ∧
      s'.auth.etype = etype ∧ EncryptionType.ofCode key.keytype = some etype := by
  obtain ⟨_, _, _, _, rep, _, _, keyEtype, -, -, -, -, -, -, -, hcode, rfl⟩ := h
  exact ⟨rep.ticket, keyEtype, rfl, rfl, rfl, hcode⟩

lemma AsDelivers.stored (h : AsDelivers P m s etype key s') :
    ∃ tgt, s'.auth.tgt = some tgt ∧ s'.auth.asSessionKey = some key ∧ s'.auth.etype = etype := by
  obtain ⟨_, _, rep, _, -, -, -, -, rfl⟩ := h
  exact ⟨rep.ticket, rfl, rfl, rfl⟩

lemma properRun_buildApReq {ticket : Ticket} (hticket : s.auth.serviceTicket = some ticket)
    (hkey : s.auth.tgsSessionKey = some key) (hetype : s.auth.etype = etype)
    (hcode : EncryptionType.ofCode key.keytype = some etype) :
    ProperRun (buildApReq P m s) ↔ (∀ u ∈ s.uses, u.Proper) ∧ key.Sized := by
  subst hetype
  unfold buildApReq
  rw [Prog.bind_of_ok (needed_eq_ok.2 ⟨hticket, rfl⟩), Prog.bind_of_ok (needed_eq_ok.2 ⟨hkey, rfl⟩),
    properRun_get_bind, properRun_get_bind, ← proper_iff_sized hcode]
  apply properRun_useKey_bind
  intro encrypted us
  exact Prog.Ends.update fun _ h => h

lemma properRun_tgsExchange {tgt : Ticket} (htgt : s.auth.tgt = some tgt)
    (hkey : s.auth.asSessionKey = some key) (hproper : ∀ u ∈ s.uses, u.Proper) :
    ProperRun ((tgsExchange P m serverHostname >>= fun _ => buildApReq P m₃) s) ↔
      (⟨key, s.auth.etype⟩ : KeyUse).Proper ∧
        ∀ key' s₂, TgsDelivers P m serverHostname s key' s₂ → key'.Sized := by
  obtain ⟨r, s₁, hrun, n, huses⟩ := ends_tgsExchange s ⟨htgt, hkey, rfl, rfl⟩
  have huse := forall_proper_iff huses
  rw [Prog.bind_apply, hrun]
  cases r with
  | error e =>
    -- no key is delivered, and the key of the TGT has been used
    have hnone : ∀ key' s₂, ¬ TgsDelivers P m serverHostname s key' s₂ := by
      intro key' s₂ hdelivers
      rw [tgsExchange_iff_delivers.2 ⟨key', hdelivers⟩] at hrun
      cases hrun
    show ProperRun (some (.error e, s₁)) ↔ _
    rw [properRun_iff rfl, huse]
    constructor
    · intro h
      exact ⟨h.2, fun key' s₂ hdelivers => absurd hdelivers (hnone key' s₂)⟩
    · intro h
      exact ⟨hproper, h.1⟩
  | ok _ =>
    obtain ⟨key₁, hdelivers₁⟩ := tgsExchange_iff_delivers.1 hrun
    obtain ⟨ticket, etype, hticket, hkey₁, hetype, hcode⟩ := hdelivers₁.stored
    show ProperRun (buildApReq P m₃ s₁) ↔ _
    rw [properRun_buildApReq hticket hkey₁ hetype hcode, huse]
    constructor
    · intro h
      refine ⟨h.1.2, ?_⟩
      intro key' s₂ hdelivers
      -- the exchange has one outcome
      rw [tgsExchange_iff_delivers.2 ⟨key', hdelivers⟩] at hrun
      cases hrun
      obtain ⟨_, _, _, hkey', _⟩ := hdelivers.stored
      rw [hkey₁] at hkey'
      cases hkey'
      exact h.2
    · intro h
      exact ⟨⟨hproper, h.1⟩, h.2 key₁ s₁ hdelivers₁⟩

lemma etypeFromCode_eq_ok {code : Int32} :
    etypeFromCode code = .ok etype ↔ EncryptionType.ofCode code = some etype := by
  unfold etypeFromCode
  split <;> simp [*]

lemma properRun_loadFromCcache (hproper : ∀ u ∈ s.uses, u.Proper)
    {store : Ticket → EncryptionType → KerberosAuthenticator → KerberosAuthenticator}
    {next : KerbM Unit} :
    ProperRun ((loadFromCcache cred store >>= fun _ => next) s) ↔
      ∀ ticket etype, cred.Loads ticket etype →
        ProperRun (next { s with auth := store ticket etype s.auth }) := by
  simp only [loadFromCcache, bind_assoc, properRun_lift_bind hproper, etypeFromCode_eq_ok]
  exact ⟨fun h ticket etype hloads => h ticket hloads.1 etype hloads.2,
    fun h ticket hticket etype hcode => h ticket etype ⟨hticket, hcode⟩⟩

lemma properRun_loadServiceTicket (hproper : ∀ u ∈ s.uses, u.Proper) :
    ProperRun ((loadServiceTicketFromCcache cred >>= fun _ => buildApReq P m) s) ↔
      ∀ ticket etype, cred.Loads ticket etype → cred.key.Sized := by
  rw [loadServiceTicketFromCcache, properRun_loadFromCcache hproper]
  refine forall₃_congr fun ticket etype hloads => ?_
  exact (properRun_buildApReq rfl rfl rfl hloads.2).trans (and_iff_right hproper)

lemma properRun_loadTgt (hproper : ∀ u ∈ s.uses, u.Proper) :
    ProperRun ((loadTgtFromCcache cred >>= fun _ =>
        tgsExchange P m serverHostname >>= fun _ => buildApReq P m₃) s) ↔
      ∀ ticket etype, cred.Loads ticket etype → cred.key.Sized ∧
        ∀ key' s₂, TgsDelivers P m serverHostname
          { s with auth := s.auth.loadTgt cred ticket etype } key' s₂ → key'.Sized := by
  rw [loadTgtFromCcache, properRun_loadFromCcache hproper]
  refine forall₃_congr fun ticket etype hloads => ?_
  rw [← proper_iff_sized hloads.2]
  exact properRun_tgsExchange rfl rfl hproper

lemma authenticateFromCcache_apply {ccache : List CcacheCredential} :
    authenticateFromCcache P ccache serverHostname m m₃ s =
      (match findServiceTicket ccache "cifs".toList serverHostname s.auth.credentials.realm with
      | some cred => loadServiceTicketFromCcache cred >>= fun _ => buildApReq P m₃
      | none =>
        match findTgt ccache s.auth.credentials.realm with
        | some cred => loadTgtFromCcache cred >>= fun _ =>
            tgsExchange P m serverHostname >>= fun _ => buildApReq P m₃
        | none => refuse (.auth ("ccache has no TGT or service ticket for realm " ++
            String.ofList s.auth.credentials.realm)) : KerbM Unit) s := rfl

lemma apRepEtype_eq_ok {code : Int32} :
    apRepEtype code = .ok etype ↔ EncryptionType.ofCode code = some etype := by
  unfold apRepEtype
  split <;> simp [*]

lemma properRun_processApRep {data : Bytes} (hproper : ∀ u ∈ s.uses, u.Proper) :
    ProperRun (processApRep P data s) ↔
      ∀ apRep key etype, parseApRep data = .ok apRep → s.auth.sessionKey = some key →
        EncryptionType.ofCode apRep.encPart.etype = some etype →
          (⟨key, etype⟩ : KeyUse).Proper := by
  have hrest (plain : Bytes) (us : List KeyUse) : Prog.Ends (fun s => s.uses = us)
      (Prog.lift (ofResult (parseEncApRepPart plain)) >>= fun part => adoptSubkey part.subkey)
      (fun s => s.uses = us) := by
    refine Prog.Ends.lift.bind fun part => ?_
    cases part.subkey with
    | none => exact .pure
    | some subkey => exact .update fun _ h => h
  simp only [processApRep, properRun_lift_bind hproper, properRun_needed_bind hproper, apRepEtype_eq_ok,
    properRun_useKey_bind hrest, and_iff_right hproper]
  exact ⟨fun h apRep key etype hparse hkey => h apRep hparse key hkey etype,
    fun h apRep hparse key hkey etype => h apRep key etype hparse hkey⟩

lemma properRun_processMutualAuthToken {token : Bytes} (hproper : ∀ u ∈ s.uses, u.Proper) :
    ProperRun (processMutualAuthToken P token s) ↔
      ∀ apRep key etype, HoldsApRep token apRep → s.auth.sessionKey = some key →
        EncryptionType.ofCode apRep.encPart.etype = some etype →
          (⟨key, etype⟩ : KeyUse).Proper := by
  rw [processMutualAuthToken, properRun_lift_bind hproper]
  constructor
  · rintro h apRep key etype ⟨data, hinner, hparse⟩
    exact (properRun_processApRep hproper).1 (h _ hinner) apRep key etype hparse
  · intro h inner hinner
    split
    · refine (properRun_processApRep hproper).2 fun apRep key etype hparse => ?_
      exact h apRep key etype ⟨_, hinner, hparse⟩
    · exact (properRun_iff rfl).2 hproper
    · exact (properRun_iff rfl).2 hproper

end ProperRuns

/-- **The session keys in a call are used properly exactly if the delivered keys fit.**

**Proof sketch.** In `authenticate` nothing is used until the AS exchange has succeeded; then the TGS
exchange uses the key of the TGT with the type of the reply, and the AP-REQ the key of the ticket
with its own type. From a cache the key of the credential is used with its own type. An AP-REP leads
to one use. -/
theorem keysProper_iff (P : KerberosPrimitives) (auth : KerberosAuthenticator) (c : Call) :
    c.KeysProper P auth ↔ c.KeysFit P auth := by
  have hnone : ∀ u ∈ ([] : List KeyUse), u.Proper := fun _ h => nomatch h
  cases c with
  | authenticate serverHostname m₁ m₂ m₃ kdc =>
    show ProperRun ((asExchange P m₁ >>= fun _ => _) _) ↔ _
    have hfirst : ProperRun (asExchange P m₁ { auth, kdc }) := by
      intro r s₁ hrun
      have huses : s₁.uses = [] := ends_asExchange.of_run rfl hrun
      exact huses ▸ hnone
    rw [properRun_bind hfirst]
    have hrest {etype : EncryptionType} {key : SessionKey} {s₁ : Run}
        (hdelivers : AsDelivers P m₁ { auth, kdc } etype key s₁) :
        ProperRun ((tgsExchange P m₂ serverHostname >>= fun _ => buildApReq P m₃) s₁) ↔
          (⟨key, etype⟩ : KeyUse).Proper ∧
            ∀ key' s₂, TgsDelivers P m₂ serverHostname s₁ key' s₂ → key'.Sized := by
      obtain ⟨tgt, htgt, hkey, rfl⟩ := hdelivers.stored
      have huses : s₁.uses = [] :=
        ends_asExchange.of_run rfl (asExchange_iff_delivers.2 ⟨_, key, hdelivers⟩)
      exact properRun_tgsExchange htgt hkey (huses ▸ hnone)
    constructor
    · intro h etype key s₁ hdelivers
      exact (hrest hdelivers).1 (h s₁ (asExchange_iff_delivers.2 ⟨etype, key, hdelivers⟩))
    · intro h s₁ hrun
      obtain ⟨etype, key, hdelivers⟩ := asExchange_iff_delivers.1 hrun
      exact (hrest hdelivers).2 (h etype key s₁ hdelivers)
  | authenticateFromCcache ccache serverHostname m₂ m₃ kdc =>
    show ProperRun (Kerberos.authenticateFromCcache P ccache serverHostname m₂ m₃ { auth, kdc }) ↔ _
    rw [authenticateFromCcache_apply]
    unfold Call.KeysFit
    dsimp only
    cases findServiceTicket ccache "cifs".toList serverHostname auth.credentials.realm with
    | some cred => exact properRun_loadServiceTicket hnone
    | none =>
      cases findTgt ccache auth.credentials.realm with
      | some cred => exact properRun_loadTgt hnone
      | none => exact iff_of_true ((properRun_iff rfl).2 hnone) trivial
  | processMutualAuthToken token => exact properRun_processMutualAuthToken hnone

/-! ## Keys that do not fit -/

instance (run : Option (Outcome Unit × Run)) : Decidable (ProperRun run) :=
  match run with
  | none => .isTrue fun _ _ h => nomatch h
  | some (_, s) => decidable_of_iff (∀ u ∈ s.uses, u.Proper) (properRun_iff rfl).symm

instance (P : KerberosPrimitives) (auth : KerberosAuthenticator) (c : Call) :
    Decidable (c.KeysProper P auth) :=
  inferInstanceAs (Decidable (ProperRun _))

/-- An authentication in which the KDC encrypts its reply with AES-256 and delivers a key for
AES-128. -/
def shorterKey : Call :=
  .authenticate "h".toList (momentOf 1) (momentOf 2) (momentOf 3)
    [issue 11 3 (answerTo 1 someUser.krbtgt ⟨17, replicate 16 0⟩)]

def cutKey : Call :=
  .authenticateFromCcache [⟨"R".toList, ["cifs".toList, "h".toList], 18, [1, 2, 3, 4, 5],
    encodeTicket someTicket⟩] "h".toList (momentOf 1) (momentOf 2) []

def foreignApRep : Call :=
  .processMutualAuthToken ([0x02, 0x00] ++ derApplication 15 (derSequence
    [derContext 0 (derInteger 5), derContext 1 (derInteger 15),
      derContext 2 (encodeEncryptedData ⟨17, none, []⟩)]))

/-- **Session keys are used with other algorithms than their own**: a key for AES-128 with AES-256 in
the TGS exchange, a key for AES-256 with AES-128 for an AP-REP, and a key of five bytes with AES-256,
which ends in a panic. -/
theorem sessionKeys_misused :
    ¬ shorterKey.KeysProper plainPrimitives { credentials := someUser } ∧
    ¬ foreignApRep.KeysProper plainPrimitives
      { credentials := someUser, sessionKey := some ⟨replicate 32 0, 18⟩ } ∧
    ¬ cutKey.KeysProper plainPrimitives { credentials := someUser } ∧
    (cutKey.run plainPrimitives { credentials := someUser }).map Prod.fst = some (.error .panic) := by
  decide +kernel

end Smb2.Kerberos
