import Smb2.Auth.Kerberos.Crypto
import Smb2.Auth.Kerberos.Messages
import Smb2.Auth.Spnego
import Smb2.Lib.Prog

set_option autoImplicit false

/-!
# The Kerberos authenticator

`KerberosAuthenticator` of `auth/kerberos/authenticator.rs`: the AS exchange, which gets a ticket for
the KDC's own service, the TGS exchange, which gets one for the file server, the AP-REQ for it, and
the processing of the server's answer. One field, `etype`, is the encryption type of whatever key is
used next.

## Implementation notes

The clock and the random number generator are inputs (`Moment`), and so are the answers of the KDC:
whatever bytes or errors come, in order. A KDC that does not answer lets the request time out. The
exchanges are cut where the answer of the KDC comes in (`asRequest`, `tgsRequest`): `readAsRep`,
`openAsRep`, `readTgsRep` and `openTgsRep` are what is checked about it. The address of the KDC and
the log messages are left out.
-/

namespace Smb2.Kerberos

/-! ## State -/

structure Credentials where
  username : List Char
  password : List Char
  realm : List Char
deriving DecidableEq

structure SessionKey where
  bytes : Bytes
  /-- *Ghost*: the type under which it was delivered. -/
  keytype : Int32
deriving DecidableEq

structure KerberosAuthenticator where
  credentials : Credentials
  tgt : Option Ticket := none
  asSessionKey : Option SessionKey := none
  serviceTicket : Option Ticket := none
  tgsSessionKey : Option SessionKey := none
  apReqBytes : Option Bytes := none
  sessionKey : Option SessionKey := none
  etype : EncryptionType := .aes256CtsHmacSha196
deriving DecidableEq

/-- A session key and an encryption type that were passed together to `kerberos_encrypt`,
`kerberos_decrypt` or `compute_checksum`. -/
structure KeyUse where
  key : SessionKey
  etype : EncryptionType
deriving DecidableEq

structure Moment where
  seed : UInt32
  ctime : List Char
  cusec : UInt32
  random : ℕ → Bytes

def Moment.nonce (m : Moment) : UInt32 := m.seed &&& 0x7FFFFFFF

/-- A call under way: the authenticator, the answers of the KDC to come, what was sent to it and the
uses of session keys. -/
structure Run where
  auth : KerberosAuthenticator
  kdc : List (Except Error Bytes) := []
  requests : List Bytes := []
  uses : List KeyUse := []

abbrev KerbM (α : Type) := Prog Run Failure α

def get {α : Type} (f : KerberosAuthenticator → α) : KerbM α := Prog.read fun s => f s.auth

def set (f : KerberosAuthenticator → KerberosAuthenticator) : KerbM Unit :=
  Prog.update fun s => { s with auth := f s.auth }

def refuse {α : Type} (e : Error) : KerbM α := Prog.fail (.error e)

def sendToKdc (message : Bytes) : KerbM Bytes := fun s =>
  let sent := { s with requests := s.requests ++ [message] }
  match s.kdc with
  | [] => some (raise .timeout, sent)
  | answer :: rest => some (ofResult answer, { sent with kdc := rest })

def useKey {α : Type} (key : SessionKey) (etype : EncryptionType) (call : Outcome α) : KerbM α := do
  Prog.update fun s => { s with uses := s.uses ++ [⟨key, etype⟩] }
  Prog.lift call

def needed {α : Type} (f : KerberosAuthenticator → Option α) (message : String) : KerbM α := do
  match ← get f with
  | some x => return x
  | none => refuse (.auth message)

/-! ## Pre-authentication -/

def deriveUserKey (P : KerberosPrimitives) (c : Credentials) (etype : EncryptionType) :
    Outcome Bytes :=
  match etype with
  | .aes256CtsHmacSha196 => stringToKeyAes P c.password (c.realm ++ c.username) 32
  | .aes128CtsHmacSha196 => stringToKeyAes P c.password (c.realm ++ c.username) 16
  | .rc4Hmac => .ok (stringToKeyRc4 P c.password)

def methodDataEntry (entries : List PaData) (tag : UInt8) (value : Bytes) :
    Except Error (List PaData) := do
  if tag ≠ 0x30 then return entries
  let fields ← derReaderLocal.parseSequenceFields value
  let mut padataType := none
  let mut padataValue := none
  for (ftag, fvalue) in fields do
    if ftag = 0xa1 then padataType := some (← parseIntegerBy derReaderLocal fvalue)
    else if ftag = 0xa2 then
      padataValue := some (← parseTagged derReaderLocal 0x04 "OCTET STRING (0x04)" fvalue)
  return match padataType, padataValue with
    | some type, some value => entries ++ [⟨type, value⟩]
    | _, _ => entries

def parseMethodData (data : Bytes) : Except Error (List PaData) := do
  derReaderLocal.eachField methodDataEntry []
    (← parseTagged derReaderLocal 0x30 "SEQUENCE for METHOD-DATA" data)

def betterEtype (best : Option EncryptionType) (etype : EncryptionType) : Option EncryptionType :=
  match best, etype with
  | none, _ => some etype
  | some .rc4Hmac, _ => some etype
  | some .aes128CtsHmacSha196, .aes256CtsHmacSha196 => some etype
  | _, _ => best

/-- The best type up to a field of an entry of ETYPE-INFO2. A field that is no integer or names no
known type is skipped. -/
def etypeInfo2Field (best : Option EncryptionType) (field : UInt8 × Bytes) :
    Option EncryptionType :=
  if field.1 = 0xa0 then
    match (parseIntegerBy derReaderLocal field.2).toOption.bind EncryptionType.ofCode with
    | some etype => betterEtype best etype
    | none => best
  else best

def etypeInfo2Entry (best : Option EncryptionType) (tag : UInt8) (value : Bytes) :
    Except Error (Option EncryptionType) := do
  if tag ≠ 0x30 then return best
  return (← derReaderLocal.parseSequenceFields value).foldl etypeInfo2Field best

def parseEtypeInfo2Best (data : Bytes) : Option EncryptionType :=
  (do
    let (tag, seqData, _) ← parseDerTlvLocal data
    if tag ≠ 0x30 then return none
    derReaderLocal.eachField etypeInfo2Entry none seqData).toOption.join

def extractBestEtype (eData : Bytes) : Option EncryptionType :=
  (parseMethodData eData).toOption.bind fun entries =>
    entries.findSome? fun entry =>
      if entry.padataType = 19 then parseEtypeInfo2Best entry.padataValue else none

def encodePaPacRequest : Bytes := derSequence [derContext 0 [0x01, 0x01, 0xff]]

/-! ## AS exchange -/

def requestedEtypes : List Int32 :=
  [EncryptionType.aes256CtsHmacSha196, .aes128CtsHmacSha196, .rc4Hmac].map EncryptionType.code

def Credentials.cname (c : Credentials) : PrincipalName := ⟨1, [c.username]⟩

def Credentials.krbtgt (c : Credentials) : PrincipalName := ⟨2, ["krbtgt".toList, c.realm]⟩

def cifs (serverHostname : List Char) : PrincipalName := ⟨2, ["cifs".toList, serverHostname]⟩

def isKrbError (response : Bytes) : Bool := response.head? = some 0x7e

def exchangeFailed (exchange : String) (err : KrbError) : Error :=
  .auth ("Kerberos " ++ exchange ++ " exchange failed: KRB-ERROR code " ++ toString err.errorCode ++
    " (" ++ String.ofList (err.eText.getD []) ++ ")")

section Exchanges

variable (P : KerberosPrimitives)

def preauthData (m : Moment) (c : Credentials) (etype : EncryptionType) : Outcome (List PaData) := do
  let userKey ← deriveUserKey P c etype
  let encrypted ← kerberosEncrypt P m.random userKey 1 (encodePaEncTimestamp m.ctime m.cusec) etype
  return [⟨2, encodeEncryptedData ⟨etype.code, none, encrypted⟩⟩, ⟨128, encodePaPacRequest⟩]

/-- `as_exchange` up to the reply that it takes for the AS-REP: the reply to a first request, or to a
second one if the KDC wants pre-authentication. -/
def asRequest (m : Moment) : KerbM Bytes := do
  let c ← get (·.credentials)
  let request (padata : List PaData) : Bytes :=
    encodeAsReq c.cname c.realm c.krbtgt m.nonce requestedEtypes padata
  let response ← sendToKdc (request [])
  if isKrbError response then
    let krbError ← Prog.lift (ofResult (parseKrbError response))
    if krbError.errorCode = 25 then
      let old ← get (·.etype)
      let etype := (krbError.eData.bind extractBestEtype).getD old
      set fun a => { a with etype }
      sendToKdc (request (← Prog.lift (preauthData P m c etype)))
    else refuse (exchangeFailed "AS" krbError)
  else return response

def readAsRep (response : Bytes) : Except Error (KdcRep × EncryptionType) := do
  if isKrbError response then throw (exchangeFailed "AS" (← parseKrbError response))
  let rep ← parseKdcRep response
  if rep.msgType ≠ 11 then
    throw (.invalidData s!"Kerberos: expected AS-REP (msg_type 11), got {rep.msgType}")
  return (rep, ← etypeFromI32 rep.encPart.etype)

def openAsRep (c : Credentials) (etype : EncryptionType) (rep : KdcRep) : Outcome EncKdcRepPart := do
  let userKey ← deriveUserKey P c etype
  let plain ← kerberosDecrypt P userKey 3 rep.encPart.cipher etype
  ofResult (parseEncKdcRepPart plain)

/-- `as_exchange` up to the contents of the reply. The encryption type is the one of the reply,
whatever the type of the key in it. -/
def asContents (m : Moment) : KerbM (KdcRep × EncKdcRepPart) := do
  let response ← asRequest P m
  let (rep, etype) ← Prog.lift (ofResult (readAsRep response))
  set fun a => { a with etype }
  let c ← get (·.credentials)
  let part ← Prog.lift (openAsRep P c etype rep)
  return (rep, part)

def asExchange (m : Moment) : KerbM Unit := do
  let (rep, part) ← asContents P m
  set fun a => { a with
    tgt := some rep.ticket, asSessionKey := some ⟨part.key.keyvalue, part.key.keytype⟩ }

/-! ## TGS exchange -/

def checksumType : EncryptionType → Int32
  | .aes256CtsHmacSha196 => 16
  | .aes128CtsHmacSha196 => 15
  | .rc4Hmac => -138

def tgsRequest (m : Moment) (serverHostname : List Char) (tgt : Ticket) (key : SessionKey)
    (etype : EncryptionType) : KerbM Bytes := do
  let c ← get (·.credentials)
  let reqBody := encodeTgsReqBody c.realm (cifs serverHostname) m.nonce requestedEtypes
  let checksum ← useKey key etype (computeChecksum P key.bytes 6 reqBody etype)
  let plain := encodeAuthenticator c.realm c.cname m.ctime m.cusec none none
    (some (checksum, checksumType etype))
  let encrypted ← useKey key etype (kerberosEncrypt P m.random key.bytes 7 plain etype)
  let apReq := encodeApReq tgt ⟨etype.code, none, encrypted⟩ false
  sendToKdc (encodeTgsReq c.realm (cifs serverHostname) m.nonce requestedEtypes apReq)

def readTgsRep (response : Bytes) : Except Error KdcRep := do
  if isKrbError response then throw (exchangeFailed "TGS" (← parseKrbError response))
  let rep ← parseKdcRep response
  if rep.msgType ≠ 13 then
    throw (.invalidData s!"Kerberos: expected TGS-REP (msg_type 13), got {rep.msgType}")
  return rep

def openTgsRep (key : Bytes) (etype : EncryptionType) (cipher : Bytes) : Outcome Bytes :=
  match kerberosDecrypt P key 8 cipher etype with
  | .error (.error _) => kerberosDecrypt P key 9 cipher etype
  | first => first

def tgsPlain (key : SessionKey) (etype : EncryptionType) (cipher : Bytes) : KerbM Bytes := do
  match kerberosDecrypt P key.bytes 8 cipher etype with
  | .error (.error _) => Prog.update fun s => { s with uses := s.uses ++ [⟨key, etype⟩] }
  | _ => pure ()
  useKey key etype (openTgsRep P key.bytes etype cipher)

def tgsKeyEtype (keytype : Int32) : Except Error EncryptionType :=
  match EncryptionType.ofCode keytype with
  | some etype => .ok etype
  | none => .error (.auth s!"TGS session key has unsupported etype {keytype}")

def tgsContents (m : Moment) (serverHostname : List Char) :
    KerbM (KdcRep × EncKdcRepPart × EncryptionType) := do
  let tgt ← needed (·.tgt) "TGS exchange requires a TGT (run AS exchange first)"
  let key ← needed (·.asSessionKey) "TGS exchange requires AS session key"
  let etype ← get (·.etype)
  let response ← tgsRequest P m serverHostname tgt key etype
  let rep ← Prog.lift (ofResult (readTgsRep response))
  let plain ← tgsPlain P key etype rep.encPart.cipher
  let part ← Prog.lift (ofResult (parseEncKdcRepPart plain))
  let keyEtype ← Prog.lift (ofResult (tgsKeyEtype part.key.keytype))
  return (rep, part, keyEtype)

def tgsExchange (m : Moment) (serverHostname : List Char) : KerbM Unit := do
  let (rep, part, keyEtype) ← tgsContents P m serverHostname
  let sessionKey : SessionKey := ⟨part.key.keyvalue, part.key.keytype⟩
  set fun a => { a with
    etype := keyEtype, serviceTicket := some rep.ticket, tgsSessionKey := some sessionKey,
    sessionKey := some sessionKey }

/-! ## AP exchange -/

def buildApReq (m : Moment) : KerbM Unit := do
  let ticket ← needed (·.serviceTicket) "AP-REQ requires a service ticket (run TGS exchange first)"
  let key ← needed (·.tgsSessionKey) "AP-REQ requires TGS session key"
  let c ← get (·.credentials)
  let etype ← get (·.etype)
  let plain := encodeAuthenticator c.realm c.cname m.ctime m.cusec none none none
  let encrypted ← useKey key etype (kerberosEncrypt P m.random key.bytes 11 plain etype)
  let apReq := encodeApReq ticket ⟨etype.code, none, encrypted⟩ true
  let gssMechToken := derTlv 0x60 (Spnego.oidKerberos ++ [0x01, 0x00] ++ apReq)
  set fun a => { a with
    sessionKey := some key,
    apReqBytes := some (Spnego.wrapNegTokenInit [Spnego.oidMsKerberos] gssMechToken) }

def unwrapToken (token : Bytes) : Except Error Bytes := do
  if token.head? = some 0x60 then return (← parseGssApiWrapper token).2.1 else return token

def apRepEtype (code : Int32) : Except Error EncryptionType :=
  match EncryptionType.ofCode code with
  | some etype => .ok etype
  | none => .error (.auth s!"AP-REP: unsupported etype {code}")

def adoptSubkey : Option EncryptionKey → KerbM Unit
  | some subkey => set fun a => { a with sessionKey := some ⟨subkey.keyvalue, subkey.keytype⟩ }
  | none => pure ()

def processApRep (data : Bytes) : KerbM Unit := do
  let apRep ← Prog.lift (ofResult (parseApRep data))
  let key ← needed (·.sessionKey) "No session key available to decrypt AP-REP"
  let etype ← Prog.lift (ofResult (apRepEtype apRep.encPart.etype))
  let plain ← useKey key etype (kerberosDecrypt P key.bytes 12 apRep.encPart.cipher etype)
  let part ← Prog.lift (ofResult (parseEncApRepPart plain))
  adoptSubkey part.subkey

def processMutualAuthToken (token : Bytes) : KerbM Unit := do
  match ← Prog.lift (ofResult (unwrapToken token)) with
  | 0x02 :: 0x00 :: data => processApRep P data
  | _ :: _ :: _ => return
  | _ => refuse (.invalidData "Kerberos: mutual auth token too short")

/-! ## Whole authentications -/

def authenticate (serverHostname : List Char) (m₁ m₂ m₃ : Moment) : KerbM Unit := do
  asExchange P m₁
  tgsExchange P m₂ serverHostname
  buildApReq P m₃

def eqIgnoreAsciiCase (a b : List Char) : Bool := a.map Char.toLower == b.map Char.toLower

/-- A credential of a cache, as far as the authenticator reads it: the realm and the components of
the service's name, the session key with its type, and the ticket. -/
structure CcacheCredential where
  realm : List Char
  components : List (List Char)
  keyEtype : UInt16
  keyData : Bytes
  ticket : Bytes
deriving DecidableEq

def findServiceTicket (ccache : List CcacheCredential) (service hostname realm : List Char) :
    Option CcacheCredential :=
  ccache.find? fun c => eqIgnoreAsciiCase c.realm realm &&
    match c.components with
    | [a, b] => eqIgnoreAsciiCase a service && eqIgnoreAsciiCase b hostname
    | _ => false

def findTgt (ccache : List CcacheCredential) (realm : List Char) : Option CcacheCredential :=
  ccache.find? fun c => eqIgnoreAsciiCase c.realm realm &&
    match c.components with
    | [a, b] => a == "krbtgt".toList && eqIgnoreAsciiCase b realm
    | _ => false

def etypeFromCode (code : Int32) : Except Error EncryptionType :=
  match EncryptionType.ofCode code with
  | some etype => .ok etype
  | none => .error (.auth s!"unsupported etype {code}")

def CcacheCredential.keytype (cred : CcacheCredential) : Int32 := Int32.ofNat cred.keyEtype.toNat

def CcacheCredential.key (cred : CcacheCredential) : SessionKey := ⟨cred.keyData, cred.keytype⟩

def loadFromCcache (cred : CcacheCredential)
    (store : Ticket → EncryptionType → KerberosAuthenticator → KerberosAuthenticator) :
    KerbM Unit := do
  let ticket ← Prog.lift (ofResult (parseTicket cred.ticket))
  let etype ← Prog.lift (ofResult (etypeFromCode cred.keytype))
  set (store ticket etype)

def loadServiceTicketFromCcache (cred : CcacheCredential) : KerbM Unit :=
  loadFromCcache cred fun ticket etype a => { a with
    etype, serviceTicket := some ticket, tgsSessionKey := some cred.key, sessionKey := some cred.key }

def loadTgtFromCcache (cred : CcacheCredential) : KerbM Unit :=
  loadFromCcache cred fun ticket etype a => { a with
    etype, tgt := some ticket, asSessionKey := some cred.key }

def authenticateFromCcache (ccache : List CcacheCredential) (serverHostname : List Char)
    (m₂ m₃ : Moment) : KerbM Unit := do
  let realm ← get (·.credentials.realm)
  match findServiceTicket ccache "cifs".toList serverHostname realm with
  | some cred =>
    loadServiceTicketFromCcache cred
    buildApReq P m₃
  | none =>
    match findTgt ccache realm with
    | some cred =>
      loadTgtFromCcache cred
      tgsExchange P m₂ serverHostname
      buildApReq P m₃
    | none =>
      refuse (.auth ("ccache has no TGT or service ticket for realm " ++ String.ofList realm))

end Exchanges

end Smb2.Kerberos
