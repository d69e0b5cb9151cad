import Smb2.Client.Connection.State
import Smb2.Crypto.Kdf
import Smb2.Msg.Negotiate
import Smb2.Msg.SessionSetup

set_option autoImplicit false

/-!
# Negotiated parameters and sessions

What NEGOTIATE settles (the end of `Connection::negotiate`) and what the end of `Session::setup`
makes of it once the server has accepted the credentials: the algorithm to sign with, the derived
keys, and the crypto state of the connection.

## Implementation notes

The exchange of messages is left out: its outcome (session id, session flags, session key and
preauthentication hash) is given. The NTLM and the Kerberos setup end the same way; the latter cuts
the session key to sixteen bytes beforehand.
-/

open List

namespace Smb2

/-! ## Negotiation -/

def signingAesGmac : UInt16 := 0x0002

def SigningAlgorithm.ofCode (code : UInt16) : Option SigningAlgorithm :=
  if code = 0x0000 then some .hmacSha256
  else if code = 0x0001 then some .aesCmac
  else if code = signingAesGmac then some .aesGmac
  else none

def Cipher.ofCode (code : UInt16) : Option Cipher :=
  if code = 0x0001 then some .aes128Ccm
  else if code = 0x0002 then some .aes128Gcm
  else if code = 0x0003 then some .aes256Ccm
  else if code = 0x0004 then some .aes256Gcm
  else none

def compressionLz4 : UInt16 := 0x0005

structure ContextOffers where
  gmacNegotiated : Bool := false
  cipher : Option Cipher := none
  compressionSupported : Bool := false
deriving DecidableEq, Repr

namespace ContextOffers

def add (offers : ContextOffers) : NegotiateContext → ContextOffers
  | .signing algorithms =>
    if signingAesGmac ∈ algorithms then { offers with gmacNegotiated := true } else offers
  | .encryption ciphers =>
    match ciphers with
    | [] => offers
    | code :: _ => { offers with cipher := Cipher.ofCode code }
  | .compression _ algorithms =>
    if compressionLz4 ∈ algorithms then { offers with compressionSupported := true } else offers
  | _ => offers

def ofContexts (contexts : List NegotiateContext) : ContextOffers := contexts.foldl add {}

end ContextOffers

structure NegotiatedParams where
  dialect : Dialect
  maxReadSize : UInt32
  maxWriteSize : UInt32
  maxTransactSize : UInt32
  serverGuid : Guid
  signingRequired : Bool
  capabilities : UInt32
  gmacNegotiated : Bool
  cipher : Option Cipher
  compressionSupported : Bool
deriving DecidableEq, Repr

/-- The end of `negotiate`: the checks on a response, and the parameters of one that is accepted. -/
def NegotiatedParams.ofResponse (resp : NegotiateResponse) : Except Error NegotiatedParams := do
  if resp.dialectRevision ∉ Dialect.all then
    throw (.invalidData ("server selected dialect 0x" ++
      hexPadded 4 resp.dialectRevision.code.toNat ++ " which we did not offer"))
  if resp.maxReadSize < 65536 then
    let n := resp.maxReadSize
    throw (.invalidData s!"MaxReadSize {n} is below minimum 65536")
  if resp.maxWriteSize < 65536 then
    let n := resp.maxWriteSize
    throw (.invalidData s!"MaxWriteSize {n} is below minimum 65536")
  let offers := ContextOffers.ofContexts resp.negotiateContexts
  return {
    dialect := resp.dialectRevision
    maxReadSize := resp.maxReadSize
    maxWriteSize := resp.maxWriteSize
    maxTransactSize := resp.maxTransactSize
    serverGuid := resp.serverGuid
    signingRequired := resp.securityMode &&& 0x0002 = 0x0002
    capabilities := resp.capabilities
    gmacNegotiated := offers.gmacNegotiated
    cipher := offers.cipher
    compressionSupported := offers.compressionSupported }

/-! ## Sessions -/

structure Session where
  sessionId : SessionId
  signingKey : Bytes
  encryptionKey : Option Bytes
  decryptionKey : Option Bytes
  signingAlgorithm : SigningAlgorithm
  shouldSign : Bool
  shouldEncrypt : Bool
deriving DecidableEq, Repr

structure SetupOutcome where
  sessionId : SessionId
  sessionFlags : SessionFlags
  sessionKey : Bytes
  preauthHash : Bytes
deriving DecidableEq, Repr

namespace Connection.CryptoState

def activateSigning (c : CryptoState) (key : Bytes) (algorithm : SigningAlgorithm) : CryptoState :=
  { c with signingKey := some key, signingAlgorithm := some algorithm, shouldSign := true }

def activateEncryption (c : CryptoState) (encKey decKey : Bytes) (cipher : Cipher) : CryptoState :=
  { c with encryptionKey := some encKey, decryptionKey := some decKey,
           encryptionCipher := some cipher, nonceGen := some 0, shouldEncrypt := true }

end Connection.CryptoState

namespace Session

open Connection

def keyLenBits (cipher : Option Cipher) : ℕ :=
  match cipher with
  | some .aes256Ccm | some .aes256Gcm => 256
  | _ => 128

def deriveKeys (P : MacPrimitives) (params : NegotiatedParams) (sessionKey preauthHash : Bytes) :
    Bytes × Option Bytes × Option Bytes :=
  match params.dialect with
  | .smb3_0 | .smb3_0_2 =>
    let keys := P.deriveSessionKeys sessionKey none 128
    (keys.signingKey, some keys.encryptionKey, some keys.decryptionKey)
  | .smb3_1_1 =>
    let keys := P.deriveSessionKeys sessionKey (some preauthHash) (keyLenBits params.cipher)
    (keys.signingKey, some keys.encryptionKey, some keys.decryptionKey)
  | _ => (sessionKey, none, none)

def ofOutcome (P : MacPrimitives) (params : NegotiatedParams) (o : SetupOutcome) : Session :=
  let keys := deriveKeys P params o.sessionKey o.preauthHash
  let isGuest := o.sessionFlags &&& SessionFlags.isGuest = SessionFlags.isGuest
  let isNull := o.sessionFlags &&& SessionFlags.isNull = SessionFlags.isNull
  { sessionId := o.sessionId
    signingKey := keys.1
    encryptionKey := keys.2.1
    decryptionKey := keys.2.2
    signingAlgorithm := algorithmForDialect params.dialect params.gmacNegotiated
    shouldSign := params.signingRequired || (!isGuest && !isNull)
    shouldEncrypt := o.sessionFlags &&& SessionFlags.encryptData = SessionFlags.encryptData }

/-- What the session does to the crypto state of its connection. Encryption falls back to
AES-128-CCM if no cipher was negotiated; without keys it is not activated. -/
def activate (s : Session) (cipher : Option Cipher) (crypto : CryptoState) : CryptoState :=
  let crypto := { crypto with sessionId := s.sessionId.toNat }
  let crypto :=
    if s.shouldSign then crypto.activateSigning s.signingKey s.signingAlgorithm else crypto
  match s.shouldEncrypt, s.encryptionKey, s.decryptionKey with
  | true, some encKey, some decKey =>
    crypto.activateEncryption encKey decKey (cipher.getD .aes128Ccm)
  | _, _, _ => crypto

end Session

/-! ## Signing as negotiated -/

def NegotiateContext.signingAlgorithms : NegotiateContext → List UInt16
  | .signing algorithms => algorithms
  | _ => []

namespace NegotiateResponse

def listedSigning (resp : NegotiateResponse) : List UInt16 :=
  resp.negotiateContexts.flatMap NegotiateContext.signingAlgorithms

/-- **The signing algorithm the server selected**: before SMB 3.1.1 it goes with the dialect; with
it, it is the one the server lists first, and AES-CMAC if it lists none. A code that the client did
not offer selects nothing. -/
def selectedSigning (resp : NegotiateResponse) : Option SigningAlgorithm :=
  match resp.dialectRevision with
  | .smb2_0_2 | .smb2_1 => some .hmacSha256
  | .smb3_0 | .smb3_0_2 => some .aesCmac
  | .smb3_1_1 =>
    match resp.listedSigning with
    | [] => some .aesCmac
    | code :: _ => SigningAlgorithm.ofCode code

lemma listed_of_selected_gmac {resp : NegotiateResponse}
    (h : resp.selectedSigning = some .aesGmac) : signingAesGmac ∈ resp.listedSigning := by
  unfold selectedSigning at h
  split at h
  case h_5 =>
    cases hlisted : resp.listedSigning with
    | nil =>
      rw [hlisted] at h
      cases h
    | cons code codes =>
      rw [hlisted] at h
      have hcode : code = signingAesGmac := by
        simp only [SigningAlgorithm.ofCode] at h
        split at h
        · cases h
        · split at h
          · cases h
          · split at h
            · assumption
            · cases h
      rw [hcode]
      exact mem_cons_self
  all_goals cases h

end NegotiateResponse

lemma ContextOffers.gmacNegotiated_ofContexts (contexts : List NegotiateContext) :
    (ofContexts contexts).gmacNegotiated = true ↔
      signingAesGmac ∈ contexts.flatMap NegotiateContext.signingAlgorithms := by
  have hfold (offers : ContextOffers) : (contexts.foldl add offers).gmacNegotiated = true ↔
      offers.gmacNegotiated = true ∨
        signingAesGmac ∈ contexts.flatMap NegotiateContext.signingAlgorithms := by
    induction contexts generalizing offers with
    | nil => simp
    | cons context contexts ih =>
      have hadd : (offers.add context).gmacNegotiated = true ↔
          offers.gmacNegotiated = true ∨ signingAesGmac ∈ context.signingAlgorithms := by
        cases context with
        | signing algorithms =>
          by_cases h : signingAesGmac ∈ algorithms <;>
            simp [add, NegotiateContext.signingAlgorithms, h]
        | encryption ciphers => cases ciphers <;> simp [add, NegotiateContext.signingAlgorithms]
        | compression flags algorithms =>
          by_cases h : compressionLz4 ∈ algorithms <;>
            simp [add, NegotiateContext.signingAlgorithms, h]
        | preauthIntegrity _ _ => simp [add, NegotiateContext.signingAlgorithms]
        | unknown _ _ => simp [add, NegotiateContext.signingAlgorithms]
      rw [foldl_cons, ih, hadd, flatMap_cons, mem_append, or_assoc]
  rw [ofContexts, hfold]
  simp

lemma NegotiatedParams.of_ofResponse {resp : NegotiateResponse} {params : NegotiatedParams}
    (h : ofResponse resp = .ok params) :
    params.dialect = resp.dialectRevision ∧
      (params.gmacNegotiated = true ↔ signingAesGmac ∈ resp.listedSigning) ∧
      params.maxReadSize = resp.maxReadSize ∧ params.maxWriteSize = resp.maxWriteSize ∧
      65536 ≤ resp.maxWriteSize := by
  unfold ofResponse at h
  by_cases hdialect : resp.dialectRevision ∉ Dialect.all
  · rw [if_pos hdialect] at h
    cases h
  by_cases hread : resp.maxReadSize < 65536
  · rw [if_neg hdialect, if_pos hread] at h
    cases h
  by_cases hwrite : resp.maxWriteSize < 65536
  · rw [if_neg hdialect, if_neg hread, if_pos hwrite] at h
    cases h
  rw [if_neg hdialect, if_neg hread, if_neg hwrite] at h
  obtain rfl := Except.ok.inj h
  exact ⟨rfl, ContextOffers.gmacNegotiated_ofContexts _, rfl, rfl, UInt32.not_lt.1 hwrite⟩

namespace Session

open Connection

variable {P : MacPrimitives} {params : NegotiatedParams} {o : SetupOutcome} {crypto : CryptoState}

lemma signing_activate {s : Session} (hsign : s.shouldSign = true) (cipher : Option Cipher)
    (crypto : CryptoState) :
    (s.activate cipher crypto).signingKey = some s.signingKey ∧
      (s.activate cipher crypto).signingAlgorithm = some s.signingAlgorithm := by
  simp only [activate, if_pos hsign]
  split <;> exact ⟨rfl, rfl⟩

lemma acceptsKey_iff (hP : P.HmacLawful) :
    (ofOutcome P params o).signingAlgorithm.acceptsKey (ofOutcome P params o).signingKey = true ↔
      (params.dialect = .smb3_1_1 → keyLenBits params.cipher = 128) := by
  have hbits : keyLenBits params.cipher / 8 = 16 ↔ keyLenBits params.cipher = 128 := by
    unfold keyLenBits
    split <;> simp
  cases hdialect : params.dialect with
  | smb2_0_2 | smb2_1 =>
    simp [ofOutcome, hdialect, algorithmForDialect, SigningAlgorithm.acceptsKey]
  | smb3_0 | smb3_0_2 =>
    simp [ofOutcome, hdialect, algorithmForDialect, SigningAlgorithm.acceptsKey, deriveKeys,
      MacPrimitives.deriveSessionKeys, MacPrimitives.length_sp800Kdf hP]
  | smb3_1_1 =>
    -- Both algorithms of this dialect want sixteen bytes.
    cases hgmac : params.gmacNegotiated <;>
      simp [ofOutcome, hdialect, hgmac, algorithmForDialect, SigningAlgorithm.acceptsKey, deriveKeys,
        MacPrimitives.deriveSessionKeys, MacPrimitives.length_sp800Kdf hP, hbits]

lemma signingAlgorithm_eq_selected_iff {resp : NegotiateResponse}
    (haccept : NegotiatedParams.ofResponse resp = .ok params) :
    (∀ a, resp.selectedSigning = some a → (ofOutcome P params o).signingAlgorithm = a) ↔
      (resp.dialectRevision = .smb3_1_1 → ∀ a, resp.selectedSigning = some a →
        a = .aesGmac ∨ a = .aesCmac ∧ signingAesGmac ∉ resp.listedSigning) := by
  obtain ⟨hdialect, hgmac, -⟩ := NegotiatedParams.of_ofResponse haccept
  show (∀ a, _ → algorithmForDialect params.dialect params.gmacNegotiated = a) ↔ _
  rw [hdialect]
  cases hrevision : resp.dialectRevision with
  | smb2_0_2 | smb2_1 | smb3_0 | smb3_0_2 =>
    simp [NegotiateResponse.selectedSigning, hrevision, algorithmForDialect]
  | smb3_1_1 =>
    simp only [true_implies]
    refine forall_congr' fun a => imp_congr_right fun hselected => ?_
    by_cases hlisted : signingAesGmac ∈ resp.listedSigning
    · rw [hgmac.2 hlisted]
      simp [algorithmForDialect, hlisted, eq_comm]
    · have hother : a ≠ .aesGmac := by
        rintro rfl
        exact hlisted (NegotiateResponse.listed_of_selected_gmac hselected)
      have hnot : params.gmacNegotiated = false := by
        rw [← Bool.not_eq_true, hgmac]
        exact hlisted
      simp [algorithmForDialect, hnot, hlisted, hother, eq_comm]

/-- **Signing works as negotiated** exactly if, with SMB 3.1.1, the cipher is not a 256-bit one and
the server selected AES-GMAC, or AES-CMAC without listing AES-GMAC, too. Otherwise the key does not
fit the algorithm, or the algorithm is not the selected one. -/
theorem signing_works_iff (hP : P.HmacLawful) {resp : NegotiateResponse}
    (haccept : NegotiatedParams.ofResponse resp = .ok params)
    (hsign : (ofOutcome P params o).shouldSign = true) :
    (∃ key algorithm,
        ((ofOutcome P params o).activate params.cipher crypto).signingKey = some key ∧
        ((ofOutcome P params o).activate params.cipher crypto).signingAlgorithm = some algorithm ∧
        (∀ a, resp.selectedSigning = some a → algorithm = a) ∧
        algorithm.acceptsKey key = true ∧
        ∀ message messageId isCancel, minMessageLen ≤ message.length →
          (signMessage P message key algorithm messageId isCancel).isOk = true) ↔
      (resp.dialectRevision = .smb3_1_1 →
        keyLenBits params.cipher = 128 ∧
          ∀ a, resp.selectedSigning = some a →
            a = .aesGmac ∨ a = .aesCmac ∧ signingAesGmac ∉ resp.listedSigning) := by
  obtain ⟨hkey, halgorithm⟩ := signing_activate hsign params.cipher crypto
  have hdialect := (NegotiatedParams.of_ofResponse haccept).1
  rw [imp_and, ← hdialect, ← acceptsKey_iff (o := o) hP, hdialect,
    ← signingAlgorithm_eq_selected_iff (P := P) (o := o) haccept]
  constructor
  · rintro ⟨key, algorithm, hkey', halgorithm', hselected, haccepts, -⟩
    obtain rfl := Option.some.inj (hkey.symm.trans hkey')
    obtain rfl := Option.some.inj (halgorithm.symm.trans halgorithm')
    exact ⟨haccepts, hselected⟩
  · rintro ⟨haccepts, hselected⟩
    refine ⟨_, _, hkey, halgorithm, hselected, haccepts, ?_⟩
    intro message messageId isCancel hlen
    rw [signMessage_isOk hlen]
    exact haccepts

/-! ### Responses that are accepted and do not work -/

def zeroMacs : MacPrimitives where
  hmacSha256 _ _ := replicate 32 0
  aesCmac _ _ := replicate 16 0
  aesGmac _ _ _ := replicate 16 0

def selecting (cipher algorithm : UInt16) : NegotiateResponse where
  securityMode := 0x0003
  dialectRevision := .smb3_1_1
  serverGuid := ⟨0, 0, 0, replicate 8 0⟩
  capabilities := 0
  maxTransactSize := 65536
  maxReadSize := 65536
  maxWriteSize := 65536
  systemTime := 0
  serverStartTime := 0
  securityBuffer := []
  negotiateContexts := [.encryption [cipher], .signing [algorithm]]

def selectedParams (cipher : Option Cipher) (gmac : Bool) : NegotiatedParams where
  dialect := .smb3_1_1
  maxReadSize := 65536
  maxWriteSize := 65536
  maxTransactSize := 65536
  serverGuid := ⟨0, 0, 0, replicate 8 0⟩
  signingRequired := true
  capabilities := 0
  gmacNegotiated := gmac
  cipher := cipher
  compressionSupported := false

def acceptedSetup : SetupOutcome := ⟨1, 0, replicate 16 7, replicate 64 0⟩

theorem signing_works_aes128Gmac :
    ∃ key algorithm,
      ((ofOutcome zeroMacs (selectedParams (some .aes128Gcm) true) acceptedSetup).activate
        (some .aes128Gcm) {}).signingKey = some key ∧
      ((ofOutcome zeroMacs (selectedParams (some .aes128Gcm) true) acceptedSetup).activate
        (some .aes128Gcm) {}).signingAlgorithm = some algorithm ∧
      (∀ a, (selecting 2 2).selectedSigning = some a → algorithm = a) ∧
      algorithm.acceptsKey key = true ∧
      ∀ message messageId isCancel, minMessageLen ≤ message.length →
        (signMessage zeroMacs message key algorithm messageId isCancel).isOk = true :=
  have haccept : NegotiatedParams.ofResponse (selecting 2 2) =
      .ok (selectedParams (some .aes128Gcm) true) := by decide +kernel
  (signing_works_iff (fun _ _ => rfl) haccept (by decide +kernel)).2 fun _ =>
    ⟨rfl, fun _ h => .inl (Option.some.inj h).symm⟩

/-- **Accepted, and signing fails**: with AES-256-GCM and AES-GMAC, both offered by the client, the
session signs with a key of 32 bytes, which AES-GMAC does not take. **Accepted, and signed
otherwise**: with AES-128-GCM and HMAC-SHA256 the session signs with AES-CMAC. -/
theorem negotiated_signing_fails :
    NegotiatedParams.ofResponse (selecting 4 2) = .ok (selectedParams (some .aes256Gcm) true) ∧
      (ofOutcome zeroMacs (selectedParams (some .aes256Gcm) true) acceptedSetup).shouldSign = true ∧
      signMessage zeroMacs (replicate 64 0)
          (ofOutcome zeroMacs (selectedParams (some .aes256Gcm) true) acceptedSetup).signingKey
          (ofOutcome zeroMacs (selectedParams (some .aes256Gcm) true) acceptedSetup).signingAlgorithm
          0 false =
        .error (.invalidData "AES-128-GMAC requires a 16-byte key, got 32 bytes") ∧
      NegotiatedParams.ofResponse (selecting 2 0) = .ok (selectedParams (some .aes128Gcm) false) ∧
      (selecting 2 0).selectedSigning = some .hmacSha256 ∧
      (ofOutcome zeroMacs (selectedParams (some .aes128Gcm) false) acceptedSetup).signingAlgorithm =
        .aesCmac :=
  ⟨by decide +kernel, by decide +kernel, by decide +kernel, by decide +kernel, by decide +kernel,
    by decide +kernel⟩

end Session

end Smb2
