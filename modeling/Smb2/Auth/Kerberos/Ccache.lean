import Smb2.Memory.Meter

set_option autoImplicit false

/-!
# Credential caches

The parser for credential cache files of `auth/kerberos/ccache.rs`, with the memory that it reserves. A
file has a version, for version 4 a header that is skipped, the default principal, and credentials up
to its end. All numbers are big-endian. A credential that cannot be read ends the list; the file is
accepted all the same.
-/

open List

namespace Smb2.Ccache

open ReadCursor Metered Charge Memory

/-! ## Reading -/

/-- The next `n` bytes; the common part of `read_u8`, `read_u16`, `read_u32` and `read_bytes`. -/
def takeN (n : ℕ) : Reader Bytes := fun c =>
  if c.pos + n > c.data.length then .error (.invalidData "ccache: unexpected end of data")
  else .ok (slice c.data c.pos (c.pos + n), c.advance n)

def beNat (bs : Bytes) : ℕ := leNat bs.reverse

def readU8 : Reader UInt8 := do
  return UInt8.ofNat (beNat (← takeN 1))

def readU16 : Reader UInt16 := do
  return UInt16.ofNat (beNat (← takeN 2))

def readU32 : Reader UInt32 := do
  return UInt32.ofNat (beNat (← takeN 4))

def skipUnchecked (len : ℕ) : Reader Unit := fun c => .ok ((), c.advance len)

def decodeUtf8 (bytes : Bytes) : Reader (List Char) :=
  match fromUtf8 bytes with
  | some s => pure s
  | none => throw (.invalidData "ccache: invalid UTF-8 in string")

/-! ## Principals and credentials -/

structure CcachePrincipal where
  nameType : UInt32
  realm : List Char
  components : List (List Char)
deriving DecidableEq, Repr

structure CcacheCredential where
  client : CcachePrincipal
  server : CcachePrincipal
  keyEtype : UInt16
  keyData : Bytes
  authtime : UInt32
  starttime : UInt32
  endtime : UInt32
  renewTill : UInt32
  ticket : Bytes
deriving DecidableEq, Repr

structure CCache where
  version : UInt16
  defaultPrincipal : CcachePrincipal
  credentials : List CcacheCredential
deriving DecidableEq, Repr

def stringSize : ℕ := 24

def ccacheCredentialSize : ℕ := 184

def readBytes (len : ℕ) : Meter Bytes := do
  let bytes ← free (takeN len)
  charge len
  return bytes

def readString : Meter (List Char) := do
  let len ← free readU32
  let bytes ← readBytes len.toNat
  free (decodeUtf8 bytes)

def readComponents (n : ℕ) : Meter (List (List Char)) := do
  chargeAhead (stringSize * n)
  times readString n

def readPrincipal : Meter CcachePrincipal := do
  let nameType ← free readU32
  let numComponents ← free readU32
  let realm ← readString
  let components ← readComponents numComponents.toNat
  return { nameType, realm, components }

def skipElements : ℕ → Reader Unit
  | 0 => return ()
  | n + 1 => do
    let _type ← readU16
    let len ← readU32
    skipUnchecked len.toNat
    skipElements n

def readCounted : Meter Bytes := do
  let len ← free readU32
  readBytes len.toNat

def readBody (client server : CcachePrincipal) : Meter CcacheCredential := do
  let keyEtype ← free readU16
  let keyData ← readCounted
  let authtime ← free readU32
  let starttime ← free readU32
  let endtime ← free readU32
  let renewTill ← free readU32
  let _isSkey ← free readU8
  let _ticketFlags ← free readU32
  let addrCount ← free readU32
  free (skipElements addrCount.toNat)
  let authdataCount ← free readU32
  free (skipElements authdataCount.toNat)
  let ticket ← readCounted
  let _secondTicket ← readCounted
  return { client, server, keyEtype, keyData, authtime, starttime, endtime, renewTill, ticket }

def readCredential : Meter CcacheCredential := do
  let client ← readPrincipal
  let server ← readPrincipal
  readBody client server

def isMore : Reader Bool := fun c => .ok (decide (c.pos < c.data.length), c)

def afterCredential (rest : Meter (List CcacheCredential)) :
    Option CcacheCredential → Meter (List CcacheCredential)
  | none => return []
  | some cred => do
    charge (2 * ccacheCredentialSize)
    let credentials ← rest
    return cred :: credentials

def readCredentials : ℕ → Meter (List CcacheCredential)
  | 0 => return []
  | rounds + 1 => do
    let more ← free isMore
    if more then attempt readCredential >>= afterCredential (readCredentials rounds)
    else return []

def skipHeader : Reader Unit := do
  let headerLen ← readU16
  let c ← get
  expect (c.pos + headerLen.toNat ≤ c.data.length)
    (.invalidData "ccache: header extends past end of file")
  skipUnchecked headerLen.toNat

def readVersion : Reader UInt16 := do
  let c ← get
  expect (2 ≤ c.data.length) (.invalidData "ccache: file too short for version")
  let version ← readU16
  expect (version = 0x0503 ∨ version = 0x0504) (.invalidData
    ("ccache: unsupported version 0x" ++ hexByte (UInt8.ofNat (version.toNat / 256)) ++
      hexByte (UInt8.ofNat version.toNat) ++ " (expected 0x0503 or 0x0504)"))
  if version = 0x0504 then do
    skipHeader
    return version
  else
    return version

/-- `parse_ccache`. A round of the loop takes at least a byte, so there are enough of them. -/
def parseCcache (data : Bytes) : Meter CCache := do
  let version ← free readVersion
  let defaultPrincipal ← readPrincipal
  charge (4 * ccacheCredentialSize)
  let credentials ← readCredentials data.length
  return { version, defaultPrincipal, credentials }

/-! ## What the input pays for -/

lemma eats_takeN (n : ℕ) : Eats remaining n (takeN n) := by
  intro c bs c' h
  unfold takeN at h
  split at h
  · cases h
  · cases h
    simp only [remaining, advance]
    omega

lemma eats_readU16 : Eats remaining 2 readU16 := (eats_takeN 2).bind fun _ => .pure _

lemma eats_readU32 : Eats remaining 4 readU32 := (eats_takeN 4).bind fun _ => .pure _

lemma eats_readU8 : Eats remaining 1 readU8 := (eats_takeN 1).bind fun _ => .pure _

lemma eats_skipUnchecked (len : ℕ) : Eats remaining 0 (skipUnchecked len) := by
  intro c u c' h
  cases h
  simp only [remaining, advance]
  omega

lemma eats_decodeUtf8 (bytes : Bytes) : Eats remaining 0 (decodeUtf8 bytes) := by
  unfold decodeUtf8
  split
  · exact .pure _
  · exact .throw _

lemma eats_skipElements (n : ℕ) : Eats remaining 0 (skipElements n) := by
  induction n with
  | zero => exact .pure _
  | succ n ih =>
    exact (eats_readU16.bind fun _ => eats_readU32.bind fun _ =>
      (eats_skipUnchecked _).bind fun _ => ih).weaken (Nat.zero_le _)

section Pays

variable {q : Bool}

lemma pays_readBytes (len : ℕ) : Pays remaining 6 0 0 0 q (readBytes len) := by
  refine .free_bind (eats_takeN len) fun _ => ?_
  exact .charge_bind (by omega) (by omega) (.ret _ (Nat.zero_le _))

lemma pays_readString : Pays remaining 6 24 0 0 q readString := by
  refine .free_bind eats_readU32 fun len => ?_
  exact ((pays_readBytes _).weaken le_rfl (Nat.zero_le _)).seq fun _ =>
    .free (eats_decodeUtf8 _) (by omega)

lemma pays_readPrincipal : Pays remaining 6 72 0 0 false readPrincipal := by
  have hcomponents (n : ℕ) : Pays remaining 6 0 0 0 false (readComponents n) :=
    (pays_readString.times n).ahead (by simp only [stringSize]; omega)
  refine .free_bind eats_readU32 fun _ => .free_bind eats_readU32 fun n => ?_
  refine pays_readString.gain (Nat.zero_le _) fun _ => ?_
  exact ((hcomponents _).weaken le_rfl (Nat.zero_le _)).seq fun _ => .ret _ (by omega)

lemma pays_readBody (client server : CcachePrincipal) :
    Pays remaining 6 258 0 0 q (readBody client server) := by
  have hcounted : Pays remaining 6 24 0 0 q readCounted :=
    .free_bind eats_readU32 fun _ =>
      (pays_readBytes _).weaken (by omega) (Nat.zero_le _)
  refine .free_bind eats_readU16 fun _ => hcounted.gain (Nat.zero_le _) fun _ => ?_
  refine .free_bind eats_readU32 fun _ => .free_bind eats_readU32 fun _ =>
    .free_bind eats_readU32 fun _ => .free_bind eats_readU32 fun _ =>
    .free_bind eats_readU8 fun _ => .free_bind eats_readU32 fun _ =>
    .free_bind eats_readU32 fun _ => .free_bind (eats_skipElements _) fun _ =>
    .free_bind eats_readU32 fun _ => .free_bind (eats_skipElements _) fun _ => ?_
  exact hcounted.gain (Nat.zero_le _) fun _ => hcounted.gain (Nat.zero_le _) fun _ =>
    .ret _ (by omega)

lemma pays_readCredential : Pays remaining 6 402 0 0 false readCredential := by
  refine pays_readPrincipal.gain le_rfl fun client => ?_
  refine pays_readPrincipal.gain (Nat.zero_le _) fun server => ?_
  exact (pays_readBody client server).weaken (by omega) (Nat.zero_le _)

end Pays

lemma accounted_readCredentials (rounds : ℕ) (c : ReadCursor) :
    Accounted (6 * c.remaining) (charges (readCredentials rounds) c) := by
  induction rounds generalizing c with
  | zero => exact accounted_of_total_le (Nat.zero_le _)
  | succ rounds ih =>
    refine accounted_free_bind fun more c' hmore => ?_
    obtain rfl : c = c' := by
      cases hmore
      rfl
    split
    · refine pays_readCredential.accounted_attempt (fun _ => rfl) (fun cred t => ?_) c
      refine accounted_charge_bind ?_ (x := 6 * t.remaining) ?_
      · rw [charges_bind_pure]
        exact ih t
      · simp only [ccacheCredentialSize]
        omega
    · exact accounted_of_total_le (Nat.zero_le _)

lemma eats_readVersion : Eats remaining 0 readVersion := by
  have hget : Eats remaining 0 (get : Reader ReadCursor) := by
    intro c x c' h
    cases h
    exact le_rfl
  have hheader : Eats remaining 0 skipHeader :=
    (eats_readU16.bind fun _ => hget.bind fun _ => (eats_expect _ _).bind fun _ =>
      eats_skipUnchecked _).weaken (Nat.zero_le _)
  refine (hget.bind fun _ => (eats_expect _ _).bind fun _ => eats_readU16.bind fun _ =>
    (eats_expect _ _).bind fun _ => Eats.ite (w := 0) ?_ (.pure _)).weaken (Nat.zero_le _)
  exact hheader.bind fun _ => .pure _

lemma accounted_parseCcache (data : Bytes) (c : ReadCursor) :
    Accounted (6 * c.remaining + 736) (charges (parseCcache data) c) := by
  refine accounted_free_bind fun version c₁ h₁ => ?_
  have hle := eats_readVersion _ _ _ h₁
  have hrest (principal : CcachePrincipal) (t : ReadCursor) :
      Accounted (6 * t.remaining + 736) (charges (do
        charge (4 * ccacheCredentialSize)
        let credentials ← readCredentials data.length
        return CCache.mk version principal credentials) t) := by
    refine accounted_charge_bind ?_ (x := 6 * t.remaining) ?_
    · rw [charges_bind_pure]
      exact accounted_readCredentials _ _
    · simp only [ccacheCredentialSize]
      omega
  have hprincipal : Pays remaining 6 0 0 736 false readPrincipal :=
    pays_readPrincipal.weaken (by omega) (Nat.zero_le _)
  obtain ⟨r, hr, htotal⟩ := hprincipal.accounted_bind hrest c₁
  exact ⟨r, hr, by omega⟩

/-- **The number of components** that a principal announces. -/
def announcedComponents : Reader (List ℕ) := do
  let _nameType ← readU32
  let numComponents ← readU32
  let _realm ← result readString
  return [numComponents.toNat]

/-- The components that the principals of a credential announce; the server is looked at if the
client can be read. -/
def announcedByCredential (c : ReadCursor) : List ℕ :=
  found announcedComponents c ++
    after (result readPrincipal) (fun _ c' => found announcedComponents c') c

def announcedByCredentials : ℕ → ReadCursor → List ℕ
  | 0, _ => []
  | rounds + 1, c =>
    if c.pos < c.data.length then
      announcedByCredential c ++
        after (result readCredential) (fun _ c' => announcedByCredentials rounds c') c
    else []

def announced (data : Bytes) : List ℕ :=
  after readVersion (fun _ c => found announcedComponents c ++
    after (result readPrincipal) (fun _ c' => announcedByCredentials data.length c') c) (.new data)

lemma aheads_readPrincipal (c : ReadCursor) :
    aheads (charges readPrincipal c) =
      (found announcedComponents c).map (stringSize * ·) := by
  have hreturn (nameType : UInt32) (realm : List Char) (n : ℕ) (c : ReadCursor) :
      aheads (charges (do
        let components ← readComponents n
        return CcachePrincipal.mk nameType realm components) c) = [stringSize * n] :=
    (aheads_bind_secured _ (fun _ => secured_pure _) c).trans
      (aheads_chargeAhead_bind ((pays_readString.times n).secured rfl) _ c)
  simp only [readPrincipal, aheads_free_bind, (pays_readString.secured rfl).aheads_bind,
    hreturn, found, announcedComponents, after_bind, after_pure, map_after,
    map_nil, map_cons]

lemma aheads_readCredential (c : ReadCursor) :
    aheads (charges readCredential c) = (announcedByCredential c).map (stringSize * ·) := by
  have hserver (client : CcachePrincipal) (c : ReadCursor) :
      aheads (charges (do
        let server ← readPrincipal
        readBody client server) c) = (found announcedComponents c).map (stringSize * ·) :=
    (aheads_bind_secured _ (fun server => (pays_readBody client server).secured rfl) c).trans (aheads_readPrincipal c)
  rw [readCredential, aheads_bind, announcedByCredential, map_append, map_after,
    aheads_readPrincipal]
  simp only [hserver]

lemma aheads_readCredentials (rounds : ℕ) (c : ReadCursor) :
    aheads (charges (readCredentials rounds) c) =
      (announcedByCredentials rounds c).map (stringSize * ·) := by
  induction rounds generalizing c with
  | zero => rfl
  | succ rounds ih =>
    have hsome (cred : CcacheCredential) (c : ReadCursor) :
        aheads (charges (afterCredential (readCredentials rounds) (some cred)) c) =
          (announcedByCredentials rounds c).map (stringSize * ·) := by
      rw [← ih c]
      refine ((secured_charge _).aheads_bind _ c).trans ?_
      exact aheads_bind_secured _ (fun _ => secured_pure _) c
    rw [readCredentials, aheads_free_bind, announcedByCredentials]
    show aheads (charges (if decide (c.pos < c.data.length) = true then _ else _) c) = _
    rw [aheads_ite, aheads_attempt_bind _ (fun _ => rfl), aheads_readCredential,
      apply_ite (map _), map_append, map_after, map_nil]
    simp only [hsome, decide_eq_true_eq]
    rfl

lemma aheads_parseCcache (data : Bytes) :
    aheads (charges (parseCcache data) (.new data)) =
      (announced data).map (stringSize * ·) := by
  have hrest (version : UInt16) (principal : CcachePrincipal) (c : ReadCursor) :
      aheads (charges (do
        charge (4 * ccacheCredentialSize)
        let credentials ← readCredentials data.length
        return CCache.mk version principal credentials) c) =
          (announcedByCredentials data.length c).map (stringSize * ·) := by
    rw [← aheads_readCredentials]
    refine ((secured_charge _).aheads_bind _ c).trans ?_
    exact aheads_bind_secured _ (fun _ => secured_pure _) c
  simp only [parseCcache, aheads_free_bind, aheads_bind readPrincipal, aheads_readPrincipal,
    hrest, announced, map_after, map_append]

end Smb2.Ccache
