import Smb2.Auth.Der

set_option autoImplicit false

/-!
# Kerberos messages

The structures that a client exchanges with a KDC and with a server, and their DER encoding
(`auth/kerberos/messages.rs`). Fields that a reader does not know are skipped, and of a field that
comes twice the last one counts.

## Implementation notes

Texts are lists of characters; on the wire they are UTF-8. A 32-bit integer is read modulo `2 ^ 32`,
whatever its length: the source shifts bytes into 64 bits and keeps the lower half.
-/

namespace Smb2.Kerberos

/-! ## Types -/

structure PrincipalName where
  nameType : Int32
  nameString : List (List Char)
deriving DecidableEq

structure EncryptedData where
  etype : Int32
  kvno : Option Int32
  cipher : Bytes
deriving DecidableEq

structure Ticket where
  tktVno : Int32
  realm : List Char
  sname : PrincipalName
  encPart : EncryptedData
  rawBytes : Option Bytes
deriving DecidableEq

structure PaData where
  padataType : Int32
  padataValue : Bytes
deriving DecidableEq

structure KdcRep where
  msgType : Int32
  crealm : List Char
  cname : PrincipalName
  ticket : Ticket
  encPart : EncryptedData
deriving DecidableEq

structure EncryptionKey where
  keytype : Int32
  keyvalue : Bytes
deriving DecidableEq

structure EncKdcRepPart where
  key : EncryptionKey
  nonce : UInt32
  flags : UInt32
  authtime : List Char
  endtime : List Char
  srealm : List Char
  sname : PrincipalName
deriving DecidableEq

structure ApRep where
  encPart : EncryptedData
deriving DecidableEq

structure EncApRepPart where
  subkey : Option EncryptionKey
  seqNumber : Option UInt32
deriving DecidableEq

structure KrbError where
  errorCode : Int32
  crealm : Option (List Char)
  realm : List Char
  sname : PrincipalName
  eText : Option (List Char)
  eData : Option Bytes
deriving DecidableEq

/-! ## Writing -/

def derContext (tagNum : UInt8) (data : Bytes) : Bytes := derTlv (0xa0 ||| tagNum) data

def derApplication (tagNum : UInt8) (data : Bytes) : Bytes := derTlv (0x60 ||| tagNum) data

/-- Leave out leading bytes that only repeat the sign: those equal to `filler` whose next byte has the
highest bit `sign`. -/
def trimInteger (filler sign : UInt8) : Bytes → Bytes
  | b :: c :: rest =>
    if b = filler ∧ c &&& 0x80 = sign then trimInteger filler sign (c :: rest) else b :: c :: rest
  | bs => bs

def derInteger (val : Int32) : Bytes :=
  let bytes := beBytes 4 val.toUInt32.toNat
  derTlv 0x02 (if 0 ≤ val then trimInteger 0x00 0x00 bytes else trimInteger 0xff 0x80 bytes)

def derIntegerU32 (val : UInt32) : Bytes := derTlv 0x02 (trimInteger 0x00 0x00 (beBytes 8 val.toNat))

def derOctetString (data : Bytes) : Bytes := derTlv 0x04 data

def derGeneralString (s : List Char) : Bytes := derTlv 0x1b (utf8 s)

def derGeneralizedTime (time : List Char) : Bytes := derTlv 0x18 (utf8 time)

def derBitString (bits : Bytes) (unused : UInt8) : Bytes := derTlv 0x03 (unused :: bits)

def derSequence (items : List Bytes) : Bytes := derTlv 0x30 items.flatten

def encodePrincipalName (name : PrincipalName) : Bytes :=
  derSequence [derContext 0 (derInteger name.nameType),
    derContext 1 (derSequence (name.nameString.map derGeneralString))]

def encodeEncryptedData (ed : EncryptedData) : Bytes :=
  let etype := derContext 0 (derInteger ed.etype)
  let cipher := derContext 2 (derOctetString ed.cipher)
  match ed.kvno with
  | some kvno => derSequence [etype, derContext 1 (derInteger kvno), cipher]
  | none => derSequence [etype, cipher]

def encodeTicket (ticket : Ticket) : Bytes :=
  derApplication 1 (derSequence [derContext 0 (derInteger ticket.tktVno),
    derContext 1 (derGeneralString ticket.realm), derContext 2 (encodePrincipalName ticket.sname),
    derContext 3 (encodeEncryptedData ticket.encPart)])

def encodePaData (pa : PaData) : Bytes :=
  derSequence [derContext 1 (derInteger pa.padataType),
    derContext 2 (derOctetString pa.padataValue)]

def encodeTyped (type : Int32) (value : Bytes) : Bytes :=
  derSequence [derContext 0 (derInteger type), derContext 1 (derOctetString value)]

def encodeKdcReqBody (cname : Option PrincipalName) (realm : List Char) (sname : PrincipalName)
    (nonce : UInt32) (etypes : List Int32) : Bytes :=
  derSequence <|
    [derContext 0 (derBitString [0x40, 0x81, 0x00, 0x10] 0)] ++
    cname.toList.map (fun cn => derContext 1 (encodePrincipalName cn)) ++
    [derContext 2 (derGeneralString realm), derContext 3 (encodePrincipalName sname),
      derContext 5 (derGeneralizedTime "20370913024805Z".toList),
      derContext 7 (derIntegerU32 nonce), derContext 8 (derSequence (etypes.map derInteger))]

def encodeKdcReq (msgType : UInt8) (cname : Option PrincipalName) (realm : List Char)
    (sname : PrincipalName) (nonce : UInt32) (etypes : List Int32) (padata : List PaData) : Bytes :=
  derApplication msgType <| derSequence <|
    [derContext 1 (derInteger 5), derContext 2 (derInteger (Int32.ofNat msgType.toNat))] ++
    (if padata = [] then [] else [derContext 3 (derSequence (padata.map encodePaData))]) ++
    [derContext 4 (encodeKdcReqBody cname realm sname nonce etypes)]

def encodeAsReq (cname : PrincipalName) (realm : List Char) (sname : PrincipalName) (nonce : UInt32)
    (etypes : List Int32) (padata : List PaData) : Bytes :=
  encodeKdcReq 10 (some cname) realm sname nonce etypes padata

def encodeTgsReqBody (realm : List Char) (sname : PrincipalName) (nonce : UInt32)
    (etypes : List Int32) : Bytes :=
  encodeKdcReqBody none realm sname nonce etypes

def encodeTgsReq (realm : List Char) (sname : PrincipalName) (nonce : UInt32) (etypes : List Int32)
    (tgtApReq : Bytes) : Bytes :=
  encodeKdcReq 12 none realm sname nonce etypes [⟨1, tgtApReq⟩]

def encodeApReq (ticket : Ticket) (authenticator : EncryptedData) (mutualRequired : Bool) : Bytes :=
  derApplication 14 <| derSequence
    [derContext 0 (derInteger 5), derContext 1 (derInteger 14),
      derContext 2 (derBitString [if mutualRequired then 0x20 else 0x00, 0x00, 0x00, 0x00] 0),
      derContext 3 (ticket.rawBytes.getD (encodeTicket ticket)),
      derContext 4 (encodeEncryptedData authenticator)]

def encodeAuthenticator (crealm : List Char) (cname : PrincipalName) (ctime : List Char)
    (cusec : UInt32) (subkey : Option (Bytes × Int32)) (seqNumber : Option UInt32)
    (cksum : Option (Bytes × Int32)) : Bytes :=
  derApplication 2 <| derSequence <|
    [derContext 0 (derInteger 5), derContext 1 (derGeneralString crealm),
      derContext 2 (encodePrincipalName cname)] ++
    cksum.toList.map (fun c => derContext 3 (encodeTyped c.2 c.1)) ++
    [derContext 4 (derIntegerU32 cusec), derContext 5 (derGeneralizedTime ctime)] ++
    subkey.toList.map (fun k => derContext 6 (encodeTyped k.2 k.1)) ++
    seqNumber.toList.map (fun n => derContext 7 (derIntegerU32 n))

def encodePaEncTimestamp (ctime : List Char) (cusec : UInt32) : Bytes :=
  derSequence [derContext 0 (derGeneralizedTime ctime), derContext 1 (derIntegerU32 cusec)]

/-! ## Reading -/

def parseTagged (R : DerReader) (expected : UInt8) (what : String) (data : Bytes) :
    Except Error Bytes := do
  let (tag, value, _) ← R.parseTlv data
  if tag ≠ expected then
    throw (.invalidData ("Kerberos: expected " ++ what ++ ", got 0x" ++ hexByte tag))
  return value

def require {α : Type} (field : Option α) (what : String) : Except Error α :=
  match field with
  | some x => .ok x
  | none => .error (.invalidData ("Kerberos: missing " ++ what))

def parseSequenceFields (data : Bytes) : Except Error (List (UInt8 × Bytes)) :=
  derReader.parseSequenceFields data

def parseIntegerValue (data : Bytes) : Except Error Int32 :=
  match data with
  | [] => .error (.invalidData "Kerberos: empty INTEGER")
  | first :: _ =>
    let start : ℤ := if first &&& 0x80 ≠ 0 then -1 else 0
    .ok (Int32.ofInt (data.foldl (fun val b => val * 256 + b.toNat) start))

def parseIntegerBy (R : DerReader) (data : Bytes) : Except Error Int32 := do
  parseIntegerValue (← parseTagged R 0x02 "INTEGER (0x02)" data)

def parseDerInteger (data : Bytes) : Except Error Int32 := parseIntegerBy derReader data

def parseDerIntegerU32 (data : Bytes) : Except Error UInt32 := do
  return (← parseDerInteger data).toUInt32

def parseDerOctetString (data : Bytes) : Except Error Bytes :=
  parseTagged derReader 0x04 "OCTET STRING (0x04)" data

def parseText (what : String) (value : Bytes) : Except Error (List Char) :=
  match fromUtf8 value with
  | some s => .ok s
  | none => .error (.invalidData ("Kerberos: invalid UTF-8 in " ++ what))

def parseDerGeneralString (data : Bytes) : Except Error (List Char) := do
  parseText "GeneralString" (← parseTagged derReader 0x1b "GeneralString (0x1b)" data)

def parseDerGeneralizedTime (data : Bytes) : Except Error (List Char) := do
  parseText "GeneralizedTime" (← parseTagged derReader 0x18 "GeneralizedTime (0x18)" data)

def parseDerBitString (data : Bytes) : Except Error (Bytes × UInt8) := do
  match ← parseTagged derReader 0x03 "BIT STRING (0x03)" data with
  | [] => throw (.invalidData "Kerberos: empty BIT STRING")
  | unused :: bits => return (bits, unused)

def parseSequence (what : String) (data : Bytes) : Except Error (List (UInt8 × Bytes)) := do
  parseSequenceFields (← parseTagged derReader 0x30 ("SEQUENCE " ++ what) data)

def parsePrincipalName (data : Bytes) : Except Error PrincipalName := do
  let fields ← parseSequence "for PrincipalName" data
  let mut nameType := none
  let mut nameString := []
  for (tag, value) in fields do
    if tag = 0xa0 then nameType := some (← parseDerInteger value)
    else if tag = 0xa1 then
      let (stag, sdata, _) ← parseDerTlv value
      if stag ≠ 0x30 then
        throw (.invalidData "Kerberos: expected SEQUENCE for name-string")
      nameString ← derReader.eachField
        (fun names _ text => return names ++ [← parseText "name-string" text]) nameString sdata
  return ⟨← require nameType "name-type in PrincipalName", nameString⟩

def parseEncryptedData (data : Bytes) : Except Error EncryptedData := do
  let fields ← parseSequence "for EncryptedData" data
  let mut etype := none
  let mut kvno := none
  let mut cipher := none
  for (tag, value) in fields do
    if tag = 0xa0 then etype := some (← parseDerInteger value)
    else if tag = 0xa1 then kvno := some (← parseDerInteger value)
    else if tag = 0xa2 then cipher := some (← parseDerOctetString value)
  return ⟨← require etype "etype in EncryptedData", kvno, ← require cipher "cipher in EncryptedData"⟩

def parseTicket (data : Bytes) : Except Error Ticket := do
  let (tag, inner, total) ← parseDerTlv data
  if tag ≠ 0x61 then
    throw (.invalidData
      ("Kerberos: expected APPLICATION [1] (0x61) for Ticket, got 0x" ++ hexByte tag))
  let fields ← parseSequence "in Ticket" inner
  let mut tktVno := none
  let mut realm := none
  let mut sname := none
  let mut encPart := none
  for (tag, value) in fields do
    if tag = 0xa0 then tktVno := some (← parseDerInteger value)
    else if tag = 0xa1 then realm := some (← parseDerGeneralString value)
    else if tag = 0xa2 then sname := some (← parsePrincipalName value)
    else if tag = 0xa3 then encPart := some (← parseEncryptedData value)
  return {
    tktVno := ← require tktVno "tkt-vno in Ticket"
    realm := ← require realm "realm in Ticket"
    sname := ← require sname "sname in Ticket"
    encPart := ← require encPart "enc-part in Ticket"
    rawBytes := some (data.take total) }

def parseEncryptionKey (data : Bytes) : Except Error EncryptionKey := do
  let fields ← parseSequence "for EncryptionKey" data
  let mut keytype := none
  let mut keyvalue := none
  for (tag, value) in fields do
    if tag = 0xa0 then keytype := some (← parseDerInteger value)
    else if tag = 0xa1 then keyvalue := some (← parseDerOctetString value)
  return ⟨← require keytype "keytype in EncryptionKey", ← require keyvalue "keyvalue in EncryptionKey"⟩

def parseKdcRep (data : Bytes) : Except Error KdcRep := do
  let (tag, inner, _) ← parseDerTlv data
  let expected : Int32 ←
    if tag = 0x6b then pure 11
    else if tag = 0x6d then pure 13
    else throw (.invalidData
      ("Kerberos: expected APPLICATION [11] or [13] for KDC-REP, got 0x" ++ hexByte tag))
  let fields ← parseSequence "in KDC-REP" inner
  let mut msgType := none
  let mut crealm := none
  let mut cname := none
  let mut ticket := none
  let mut encPart := none
  for (tag, value) in fields do
    if tag = 0xa1 then msgType := some (← parseDerInteger value)
    else if tag = 0xa3 then crealm := some (← parseDerGeneralString value)
    else if tag = 0xa4 then cname := some (← parsePrincipalName value)
    else if tag = 0xa5 then ticket := some (← parseTicket value)
    else if tag = 0xa6 then encPart := some (← parseEncryptedData value)
  let found ← require msgType "msg-type in KDC-REP"
  if found ≠ expected then
    throw (.invalidData
      s!"Kerberos: KDC-REP msg-type mismatch: tag says {expected}, field says {found}")
  return {
    msgType := found
    crealm := ← require crealm "crealm in KDC-REP"
    cname := ← require cname "cname in KDC-REP"
    ticket := ← require ticket "ticket in KDC-REP"
    encPart := ← require encPart "enc-part in KDC-REP" }

def parseEncKdcRepPart (data : Bytes) : Except Error EncKdcRepPart := do
  let (tag, inner, _) ← parseDerTlv data
  let body ←
    if tag = 0x79 ∨ tag = 0x7a then parseTagged derReader 0x30 "SEQUENCE in EncKDCRepPart" inner
    else if tag = 0x30 then pure inner
    else throw (.invalidData
      ("Kerberos: expected APPLICATION [25/26] or SEQUENCE for EncKDCRepPart, got 0x" ++
        hexByte tag))
  let fields ← parseSequenceFields body
  let mut key := none
  let mut nonce := none
  let mut flags := none
  let mut authtime := none
  let mut endtime := none
  let mut srealm := none
  let mut sname := none
  for (tag, value) in fields do
    if tag = 0xa0 then key := some (← parseEncryptionKey value)
    else if tag = 0xa2 then nonce := some (← parseDerIntegerU32 value)
    else if tag = 0xa4 then
      let (bits, _) ← parseDerBitString value
      if 4 ≤ bits.length then
        flags := some (UInt32.ofNat (leNat (bits.take 4).reverse))
    else if tag = 0xa5 then authtime := some (← parseDerGeneralizedTime value)
    else if tag = 0xa7 then endtime := some (← parseDerGeneralizedTime value)
    else if tag = 0xa9 then srealm := some (← parseDerGeneralString value)
    else if tag = 0xaa then sname := some (← parsePrincipalName value)
  return {
    key := ← require key "key in EncKDCRepPart"
    nonce := ← require nonce "nonce in EncKDCRepPart"
    flags := flags.getD 0
    authtime := ← require authtime "authtime in EncKDCRepPart"
    endtime := ← require endtime "endtime in EncKDCRepPart"
    srealm := ← require srealm "srealm in EncKDCRepPart"
    sname := ← require sname "sname in EncKDCRepPart" }

def parseKrbError (data : Bytes) : Except Error KrbError := do
  let inner ← parseTagged derReader 0x7e "APPLICATION [30] (0x7e) for KRB-ERROR" data
  let fields ← parseSequence "in KRB-ERROR" inner
  let mut errorCode := none
  let mut crealm := none
  let mut realm := none
  let mut sname := none
  let mut eText := none
  let mut eData := none
  for (tag, value) in fields do
    if tag = 0xa6 then errorCode := some (← parseDerInteger value)
    else if tag = 0xa7 then crealm := some (← parseDerGeneralString value)
    else if tag = 0xa9 then realm := some (← parseDerGeneralString value)
    else if tag = 0xaa then sname := some (← parsePrincipalName value)
    else if tag = 0xab then eText := some (← parseDerGeneralString value)
    else if tag = 0xac then eData := some (← parseDerOctetString value)
  return {
    errorCode := ← require errorCode "error-code in KRB-ERROR"
    crealm
    realm := ← require realm "realm in KRB-ERROR"
    sname := ← require sname "sname in KRB-ERROR"
    eText
    eData }

def parseGssApiWrapper (data : Bytes) : Except Error (Bytes × Bytes × ℕ) := do
  let (tag, inner, total) ← parseDerTlv data
  if tag ≠ 0x60 then
    throw (.invalidData ("Kerberos: expected GSS-API wrapper (0x60), got 0x" ++ hexByte tag))
  let (_, oid, consumed) ← parseDerTlv inner
  return (oid, inner.drop consumed, total)

def parseApRep (data : Bytes) : Except Error ApRep := do
  let (tag, inner, _) ← parseDerTlv data
  let inner ←
    if tag = 0x60 then do
      let (_, _, consumed) ← parseDerTlv inner
      parseTagged derReader 0x6f "AP-REP (0x6f) inside GSS wrapper" (inner.drop consumed)
    else if tag = 0x6f then pure inner
    else throw (.invalidData
      ("Kerberos: expected APPLICATION [15] (0x6f) or GSS wrapper (0x60) for AP-REP, got 0x" ++
        hexByte tag))
  let fields ← parseSequence "in AP-REP" inner
  let mut encPart := none
  for (tag, value) in fields do
    if tag = 0xa2 then encPart := some (← parseEncryptedData value)
  return ⟨← require encPart "enc-part in AP-REP"⟩

def parseEncApRepPart (data : Bytes) : Except Error EncApRepPart := do
  let (tag, inner, _) ← parseDerTlv data
  let body ←
    if tag = 0x7b then parseTagged derReader 0x30 "SEQUENCE in EncAPRepPart" inner
    else if tag = 0x30 then pure inner
    else throw (.invalidData
      ("Kerberos: expected APPLICATION [27] or SEQUENCE for EncAPRepPart, got 0x" ++ hexByte tag))
  let fields ← parseSequenceFields body
  let mut subkey := none
  let mut seqNumber := none
  for (tag, value) in fields do
    if tag = 0xa2 then subkey := some (← parseEncryptionKey value)
    else if tag = 0xa3 then seqNumber := some (← parseDerIntegerU32 value)
  return ⟨subkey, seqNumber⟩

end Smb2.Kerberos
