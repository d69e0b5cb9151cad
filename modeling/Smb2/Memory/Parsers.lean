import Smb2.Memory.Meter
import Smb2.Msg.Copychunk
import Smb2.Rpc.Srvsvc

set_option autoImplicit false

/-!
# The memory that parsers reserve

The parsers for share lists, copy requests and NEGOTIATE once more, each with the memory that it
reserves while it reads: so much for each byte that is read, and a constant where a 16-bit field
counts. The room for what a 32-bit field counts is paid for when the counted elements have been read,
and not before.
-/

namespace Smb2.Memory

open ReadCursor Metered Charge

/-! ## Share lists -/

def rawEntrySize : ℕ := 12

def shareInfoSize : ℕ := 56

def decodeUtf16 (raw : Bytes) : Reader (List Char) :=
  match Utf16.decode (codeUnits raw) with
  | some s => pure s
  | none => throw (.invalidData "invalid UTF-16LE encoding")

def readUtf16Le (byteLen : ℕ) : Meter (List Char) := do
  free (expect (byteLen % 2 = 0)
    (.invalidData s!"UTF-16LE byte length must be even, got {byteLen}"))
  let raw ← free (readBytes byteLen)
  charge byteLen
  charge (3 * byteLen + 8)
  free (decodeUtf16 raw)

def readNdrString : Meter (List Char) := do
  let _maxCount ← free readU32Le
  let _offset ← free readU32Le
  let actualCount ← free readU32Le
  if actualCount = 0 then return []
  else do
    let s ← readUtf16Le (actualCount.toNat * 2)
    free Srvsvc.skipPadding
    charge (3 * actualCount.toNat)
    return Srvsvc.trimNuls s

def readEntry : Reader Srvsvc.RawEntry := do
  let namePtr ← readU32Le
  let shareType ← readU32Le
  let commentPtr ← readU32Le
  return ⟨namePtr, shareType, commentPtr⟩

def readDeferred (ptr : UInt32) : Meter (List Char) :=
  if ptr ≠ 0 then readNdrString else return []

def readShare (entry : Srvsvc.RawEntry) : Meter Srvsvc.ShareInfo := do
  let name ← readDeferred entry.namePtr
  let comment ← readDeferred entry.commentPtr
  return ⟨name, entry.shareType, comment⟩

/-- The entries and the texts of an array: there is room for the entries before the first one is
read, and for the shares when all entries have been. -/
def readElements (n : ℕ) : Meter (List Srvsvc.ShareInfo) := do
  chargeAhead (rawEntrySize * n)
  let entries ← times (free readEntry) n
  charge (shareInfoSize * n)
  each readShare entries

def readArray (count : UInt32) : Meter (List Srvsvc.ShareInfo) := do
  let maxCount ← free readU32Le
  free (expect (count ≤ maxCount)
    (.invalidData s!"array max_count ({maxCount}) < entries ({count})"))
  readElements count.toNat

def netShareEnumAll : Meter (List Srvsvc.ShareInfo) := do
  let level ← free readU32Le
  free (expect (level = 1) (.invalidData s!"expected share info level 1, got {level}"))
  let discriminant ← free readU32Le
  free (expect (discriminant = 1)
    (.invalidData s!"expected union discriminant 1, got {discriminant}"))
  let containerPtr ← free readU32Le
  if containerPtr = 0 then return []
  else do
    let count ← free readU32Le
    let arrayPtr ← free readU32Le
    if arrayPtr = 0 ∨ count = 0 then return [] else readArray count

lemma eats_decodeUtf16 (raw : Bytes) : Eats remaining 0 (decodeUtf16 raw) := by
  unfold decodeUtf16
  split
  · exact .pure _
  · exact .throw _

lemma eats_skipPadding : Eats remaining 0 Srvsvc.skipPadding := by
  intro c u c' h
  unfold Srvsvc.skipPadding at h
  dsimp only at h
  split at h
  · exact eats_skip _ c u c' h
  · cases h
    exact le_rfl

lemma eats_readEntry : Eats remaining 12 readEntry :=
  eats_readU32Le.bind fun _ => eats_readU32Le.bind fun _ => eats_readU32Le.bind fun _ => .pure _

section Texts

variable {q : Bool}

lemma pays_readUtf16Le (n : ℕ) : Pays remaining 6 (2 * n) 8 8 q (readUtf16Le n) := by
  refine .free_bind (eats_expect _ _) fun _ => ?_
  refine .free_bind (eats_takeN n) fun raw => ?_
  refine .charge_bind (by omega) (by omega) ?_
  refine .charge_bind (by omega) (by omega) ?_
  exact .free (eats_decodeUtf16 raw) (by omega)

lemma pays_readNdrString : Pays remaining 6 0 0 0 q readNdrString := by
  refine .free_bind eats_readU32Le fun _ => .free_bind eats_readU32Le fun _ =>
    .free_bind eats_readU32Le fun count => ?_
  refine .ite (fun _ => .ret _ (Nat.zero_le _)) fun _ => ?_
  have hrest (s : List Char) : Pays remaining 6 0 (3 * count.toNat) (3 * count.toNat) q
      (do
        free Srvsvc.skipPadding
        charge (3 * count.toNat)
        return Srvsvc.trimNuls s) := by
    refine .free_bind eats_skipPadding fun _ => ?_
    exact .charge_bind (by omega) (by omega) (.ret _ (Nat.zero_le _))
  exact (pays_readUtf16Le _).bind hrest (by omega) (by omega) (by omega)

lemma pays_readShare (entry : Srvsvc.RawEntry) : Pays remaining 6 0 0 0 q (readShare entry) := by
  have hdeferred (ptr : UInt32) : Pays remaining 6 0 0 0 q (readDeferred ptr) :=
    .ite (fun _ => pays_readNdrString) fun _ => .ret _ le_rfl
  exact (hdeferred _).seq fun _ => (hdeferred _).seq fun _ => .ret _ le_rfl

def elements (n : ℕ) : Meter (List Srvsvc.ShareInfo) := do
  let entries ← times (free readEntry) n
  charge (shareInfoSize * n)
  each readShare entries

lemma pays_elements (n : ℕ) : Pays remaining 6 (16 * n) 0 0 q (elements n) := by
  have hentry : Pays remaining 6 72 0 0 q (free readEntry) := .free eats_readEntry (by omega)
  have hrest (entries : List Srvsvc.RawEntry) : Pays remaining 6 0 (56 * n) (56 * n) q
      (do
        charge (shareInfoSize * n)
        each readShare entries) := by
    have hshares : Pays remaining 6 0 0 0 q (each readShare entries) := .each pays_readShare _
    refine .charge_bind (by simp only [shareInfoSize]; omega) (by simp only [shareInfoSize]; omega) ?_
    exact hshares.weaken (by omega) (Nat.zero_le _)
  exact (hentry.times n).bind hrest (by omega) le_rfl (by omega)

end Texts

lemma pays_netShareEnumAll : Pays remaining 6 0 0 0 false netShareEnumAll := by
  have helements (n : ℕ) : Pays remaining 6 0 0 0 false (readElements n) :=
    (pays_elements n).ahead (by simp only [rawEntrySize]; omega)
  have harray (count : UInt32) : Pays remaining 6 0 0 0 false (readArray count) := by
    refine .free_bind eats_readU32Le fun maxCount => .free_bind (eats_expect _ _) fun _ => ?_
    exact (helements _).weaken (by omega) (Nat.zero_le _)
  refine .free_bind eats_readU32Le fun level => .free_bind (eats_expect _ _) fun _ =>
    .free_bind eats_readU32Le fun discriminant => .free_bind (eats_expect _ _) fun _ =>
    .free_bind eats_readU32Le fun containerPtr => ?_
  refine .ite (fun _ => .ret _ (Nat.zero_le _)) fun _ => ?_
  refine .free_bind eats_readU32Le fun count => .free_bind eats_readU32Le fun arrayPtr => ?_
  refine .ite (fun _ => .ret _ (Nat.zero_le _)) fun _ => ?_
  exact (harray count).weaken (by omega) (Nat.zero_le _)

/-- **The number of shares** that a share list announces, if it has an array of them. -/
def announcedShares : Reader (List ℕ) := do
  let level ← readU32Le
  expect (level = 1) (.invalidData s!"expected share info level 1, got {level}")
  let discriminant ← readU32Le
  expect (discriminant = 1) (.invalidData s!"expected union discriminant 1, got {discriminant}")
  let containerPtr ← readU32Le
  if containerPtr = 0 then return []
  else do
    let count ← readU32Le
    let arrayPtr ← readU32Le
    if arrayPtr = 0 ∨ count = 0 then return []
    else do
      let maxCount ← readU32Le
      expect (count ≤ maxCount) (.invalidData s!"array max_count ({maxCount}) < entries ({count})")
      return [count.toNat]

lemma aheads_netShareEnumAll (c : ReadCursor) :
    aheads (charges netShareEnumAll c) = (found announcedShares c).map (rawEntrySize * ·) := by
  have helements (n : ℕ) (c : ReadCursor) :
      aheads (charges (readElements n) c) = [rawEntrySize * n] :=
    aheads_chargeAhead_bind ((pays_elements n).secured rfl) _ c
  have hnil (c : ReadCursor) :
      aheads (charges (pure [] : Meter (List Srvsvc.ShareInfo)) c) = [] := rfl
  simp only [netShareEnumAll, readArray, aheads_free_bind, aheads_ite, helements, hnil, found,
    announcedShares, after_bind, after_ite, after_pure, map_after, apply_ite (List.map _),
    List.map_nil, List.map_cons]

/-! ## Copy requests -/

def srvCopychunkSize : ℕ := 24

def readChunks (n : ℕ) : Meter (List SrvCopychunk) := do
  chargeAhead (srvCopychunkSize * n)
  times (free SrvCopychunk.unpack) n

def srvCopychunkCopy : Meter SrvCopychunkCopy := do
  let sourceKey ← free (readBytes resumeKeyLen)
  let chunkCount ← free readU32Le
  let _reserved ← free readU32Le
  let chunks ← readChunks chunkCount.toNat
  return { sourceKey, chunks }

lemma eats_srvCopychunk : Eats remaining 24 SrvCopychunk.unpack :=
  eats_readU64Le.bind fun _ => eats_readU64Le.bind fun _ => eats_readU32Le.bind fun _ =>
    eats_readU32Le.bind fun _ => .pure _

lemma pays_times_srvCopychunk (n : ℕ) :
    Pays remaining 1 (n * 24) 0 0 true (times (free SrvCopychunk.unpack) n) :=
  Pays.times (.free eats_srvCopychunk (by omega)) n

lemma pays_srvCopychunkCopy : Pays remaining 1 0 0 0 false srvCopychunkCopy := by
  have hchunks (n : ℕ) : Pays remaining 1 0 0 0 false (readChunks n) :=
    (pays_times_srvCopychunk n).ahead (by simp only [srvCopychunkSize]; omega)
  refine .free_bind (eats_takeN _) fun _ => .free_bind eats_readU32Le fun n =>
    .free_bind eats_readU32Le fun _ => ?_
  exact ((hchunks _).weaken le_rfl (Nat.zero_le _)).seq fun _ => .ret _ (Nat.zero_le _)

/-- **The number of chunks** that a copy request announces. -/
def announcedChunks : Reader (List ℕ) := do
  let _sourceKey ← readBytes resumeKeyLen
  let chunkCount ← readU32Le
  let _reserved ← readU32Le
  return [chunkCount.toNat]

lemma aheads_srvCopychunkCopy (c : ReadCursor) :
    aheads (charges srvCopychunkCopy c) =
      (found announcedChunks c).map (srvCopychunkSize * ·) := by
  have hchunks (n : ℕ) (c : ReadCursor) :
      aheads (charges (readChunks n) c) = [srvCopychunkSize * n] :=
    aheads_chargeAhead_bind ((pays_times_srvCopychunk n).secured rfl) _ c
  have hreturn (sourceKey : Bytes) (n : ℕ) (c : ReadCursor) :
      aheads (charges (do
        let chunks ← readChunks n
        return SrvCopychunkCopy.mk sourceKey chunks) c) = [srvCopychunkSize * n] :=
    (aheads_bind_secured _ (fun _ => secured_pure _) c).trans (hchunks n c)
  simp only [srvCopychunkCopy, aheads_free_bind, hreturn, found, announcedChunks, after_bind,
    after_pure, map_after, List.map_nil, List.map_cons]

/-! ## NEGOTIATE -/

def negotiateContextSize : ℕ := 56

def readU16s (n : ℕ) : Meter (List UInt16) := do
  charge (2 * n)
  free (NegotiateContext.readU16s n)

def readVec (n : ℕ) : Meter Bytes := do
  let bytes ← free (readBytesBounded n)
  charge n
  return bytes

def negotiateContext : Meter NegotiateContext := do
  let contextType ← free readU16Le
  let dataLength ← free readU16Le
  let _ ← free readU32Le
  if contextType = 0x0001 then do
    let hashCount ← free readU16Le
    let saltLength ← free readU16Le
    let hashAlgorithms ← readU16s hashCount.toNat
    let salt ← readVec saltLength.toNat
    return .preauthIntegrity hashAlgorithms salt
  else if contextType = 0x0002 then do
    let cipherCount ← free readU16Le
    let ciphers ← readU16s cipherCount.toNat
    return .encryption ciphers
  else if contextType = 0x0003 then do
    let algCount ← free readU16Le
    let _ ← free readU16Le
    let flags ← free readU32Le
    let algorithms ← readU16s algCount.toNat
    return .compression flags algorithms
  else if contextType = 0x0008 then do
    let algCount ← free readU16Le
    let algorithms ← readU16s algCount.toNat
    return .signing algorithms
  else do
    let data ← readVec dataLength.toNat
    return .unknown contextType data

def negotiateContexts (first : Bool) : ℕ → Meter (List NegotiateContext)
  | 0 => return []
  | n + 1 => do
    free (if first then pure () else NegotiateContext.alignCursor)
    let context ← negotiateContext
    let contexts ← negotiateContexts false n
    return context :: contexts

def seekContexts (start offset : ℕ) : Reader Unit := do
  let pos ← position
  if offset > Header.size + (pos - start) then skip (offset - (Header.size + (pos - start)))
  else pure ()

def contextsAt (start count offset : ℕ) : Meter (List NegotiateContext) := do
  free (seekContexts start offset)
  charge (negotiateContextSize * count)
  negotiateContexts true count

/-- `NegotiateRequest::unpack`. Whether eight of the bytes are a time, or the place and the number of
the contexts, depends on the dialects that follow. -/
def negotiateRequest : Meter NegotiateRequest := do
  let start ← free position
  let size ← free readU16Le
  free (expect (size = NegotiateRequest.structureSize)
    (.invalidData s!"invalid NegotiateRequest structure size: expected 36, got {size}"))
  let dialectCount ← free readU16Le
  let securityMode ← free readU16Le
  let _reserved ← free readU16Le
  let capabilities ← free readU32Le
  let clientGuid ← free Guid.unpack
  let raw8 ← free (readBytes 8)
  charge (2 * dialectCount.toNat)
  let dialects ← free (NegotiateRequest.readDialects dialectCount.toNat)
  if .smb3_1_1 ∈ dialects then do
    let negotiateContexts ← contextsAt start (UInt16.ofNat (leNat (slice raw8 4 6))).toNat
      (leNat (slice raw8 0 4))
    return { securityMode, capabilities, clientGuid, dialects, negotiateContexts }
  else
    return { securityMode, capabilities, clientGuid, dialects, negotiateContexts := [] }

def responseContexts (start : ℕ) (dialect : Dialect) (count offset : ℕ) :
    Meter (List NegotiateContext) :=
  if dialect = .smb3_1_1 ∧ count > 0 then contextsAt start count offset else return []

def negotiateResponse : Meter NegotiateResponse := do
  let start ← free position
  let size ← free readU16Le
  free (expect (size = NegotiateResponse.structureSize)
    (.invalidData s!"invalid NegotiateResponse structure size: expected 65, got {size}"))
  let securityMode ← free readU16Le
  let dialectRevision ← free NegotiateResponse.readDialect
  let contextCount ← free readU16Le
  let serverGuid ← free Guid.unpack
  let capabilities ← free readU32Le
  let maxTransactSize ← free readU32Le
  let maxReadSize ← free readU32Le
  let maxWriteSize ← free readU32Le
  let systemTime ← free readU64Le
  let serverStartTime ← free readU64Le
  let _secBufOffset ← free readU16Le
  let secBufLength ← free readU16Le
  let contextOffset ← free readU32Le
  let securityBuffer ← free (readBuffer secBufLength.toNat)
  charge secBufLength.toNat
  let negotiateContexts ←
    responseContexts start dialectRevision contextCount.toNat contextOffset.toNat
  return { securityMode, dialectRevision, serverGuid, capabilities, maxTransactSize, maxReadSize,
           maxWriteSize, systemTime, serverStartTime, securityBuffer, negotiateContexts }

lemma eats_readU16s (n : ℕ) : Eats remaining (2 * n) (NegotiateContext.readU16s n) := by
  induction n with
  | zero => exact .pure _
  | succ n ih =>
    exact (eats_readU16Le.bind fun _ => ih.bind fun _ => .pure _).weaken (by omega)

lemma eats_guid : Eats remaining 0 Guid.unpack :=
  (eats_readU32Le.bind fun _ => eats_readU16Le.bind fun _ => eats_readU16Le.bind fun _ =>
    (eats_takeN 8).bind fun _ => .pure _).weaken (Nat.zero_le _)

lemma eats_seekContexts (start offset : ℕ) : Eats remaining 0 (seekContexts start offset) :=
  eats_position.bind fun _ => .ite (eats_skip _) (.pure _)

lemma eats_alignment (first : Bool) :
    Eats remaining 0 (if first then pure () else NegotiateContext.alignCursor) := by
  refine .ite (.pure _) ?_
  exact eats_position.bind fun _ => .ite (eats_skip _) (.pure _)

section Negotiate

variable {q : Bool}

lemma pays_readU16s (count : UInt16) : Pays remaining 1 0 0 131070 q (readU16s count.toNat) := by
  have hcount := count.toNat_lt
  exact (Pays.charge _).bind (fun _ => .free (a := 0) (b := 0) (eats_readU16s _) le_rfl)
    (by omega) (Nat.zero_le _) (by omega)

lemma pays_readVec (n : ℕ) : Pays remaining 1 0 0 0 q (readVec n) := by
  refine .free_bind (eats_readBytesBounded n) fun _ => ?_
  exact .charge_bind (by omega) (by omega) (.ret _ (Nat.zero_le _))

lemma pays_negotiateContext : Pays remaining 1 0 0 131070 q negotiateContext := by
  have hlist {b : ℕ} (hb : 131070 ≤ b) (count : UInt16) :
      Pays remaining 1 0 0 b q (readU16s count.toNat) := (pays_readU16s count).weaken le_rfl hb
  have hvec {b : ℕ} (n : ℕ) : Pays remaining 1 0 0 b q (readVec n) :=
    (pays_readVec n).weaken le_rfl (Nat.zero_le _)
  refine .free_bind eats_readU16Le fun contextType => .free_bind eats_readU16Le fun dataLength =>
    .free_bind eats_readU32Le fun _ => ?_
  refine .ite (fun _ => ?_) fun _ => .ite (fun _ => ?_) fun _ => .ite (fun _ => ?_) fun _ =>
    .ite (fun _ => ?_) fun _ => ?_
  · exact .free_bind eats_readU16Le fun _ => .free_bind eats_readU16Le fun _ =>
      (hlist (by omega) _).seq fun _ => (hvec _).seq fun _ => .ret _ (Nat.zero_le _)
  · exact .free_bind eats_readU16Le fun _ => (hlist (by omega) _).seq fun _ =>
      .ret _ (Nat.zero_le _)
  · exact .free_bind eats_readU16Le fun _ => .free_bind eats_readU16Le fun _ =>
      .free_bind eats_readU32Le fun _ => (hlist (by omega) _).seq fun _ => .ret _ (Nat.zero_le _)
  · exact .free_bind eats_readU16Le fun _ => (hlist (by omega) _).seq fun _ =>
      .ret _ (Nat.zero_le _)
  · exact (hvec _).seq fun _ => .ret _ (Nat.zero_le _)

lemma pays_negotiateContexts (first : Bool) (n : ℕ) :
    Pays remaining 1 0 0 131070 q (negotiateContexts first n) := by
  induction n generalizing first with
  | zero => exact .ret _ le_rfl
  | succ n ih =>
    refine .free_bind (eats_alignment first) fun _ => ?_
    exact pays_negotiateContext.seq fun _ => (ih false).seq fun _ => .ret _ le_rfl

lemma pays_contextsAt (start offset : ℕ) (count : UInt16) :
    Pays remaining 1 0 (56 * 65535) (56 * 65535 + 131070) q
      (contextsAt start count.toNat offset) := by
  have hcount := count.toNat_lt
  refine .free_bind (eats_seekContexts _ _) fun _ => ?_
  refine .charge_bind (by simp only [negotiateContextSize]; omega)
    (by simp only [negotiateContextSize]; omega) ?_
  exact (pays_negotiateContexts true _).weaken (by omega)
    (by simp only [negotiateContextSize]; omega)

lemma pays_negotiateRequest : Pays remaining 1 0 4000000 4000000 q negotiateRequest := by
  have hdialects (n : ℕ) : Eats remaining 0 (NegotiateRequest.readDialects n) := by
    have hdialect : Eats remaining 2 NegotiateRequest.readDialect := by
      refine Eats.bind (v := 0) eats_readU16Le fun raw => ?_
      split
      · exact .pure _
      · exact .throw _
    induction n with
    | zero => exact .pure _
    | succ n ih =>
      exact (hdialect.bind fun _ => ih.bind fun _ => .pure _).weaken (Nat.zero_le _)
  refine .free_bind eats_position fun start => .free_bind eats_readU16Le fun size =>
    .free_bind (eats_expect _ _) fun _ => .free_bind eats_readU16Le fun dialectCount =>
    .free_bind eats_readU16Le fun _ => .free_bind eats_readU16Le fun _ =>
    .free_bind eats_readU32Le fun _ => .free_bind eats_guid fun _ =>
    .free_bind (eats_takeN 8) fun raw8 => ?_
  have hcount := dialectCount.toNat_lt
  refine .charge_bind (by omega) (by omega) (.free_bind (hdialects _) fun dialects => ?_)
  refine .ite (fun _ => ?_) fun _ => .ret _ (Nat.zero_le _)
  exact (pays_contextsAt _ _ _).bind (fun _ => .ret (g := 0) (a := 0) (b := 0) _ le_rfl)
    (by omega) (by omega) (by omega)

lemma pays_negotiateResponse : Pays remaining 1 0 4000000 4000000 q negotiateResponse := by
  have hdialect : Eats remaining 2 NegotiateResponse.readDialect := by
    refine Eats.bind (v := 0) eats_readU16Le fun raw => ?_
    split
    · exact .pure _
    · exact .throw _
  have hcontexts (start offset : ℕ) (dialect : Dialect) (count : UInt16) :
      Pays remaining 1 0 (56 * 65535) (56 * 65535 + 131070) q
        (responseContexts start dialect count.toNat offset) :=
    .ite (fun _ => pays_contextsAt _ _ _) fun _ => .ret _ (Nat.zero_le _)
  refine .free_bind eats_position fun start => .free_bind eats_readU16Le fun size =>
    .free_bind (eats_expect _ _) fun _ => .free_bind eats_readU16Le fun _ =>
    .free_bind hdialect fun dialect => .free_bind eats_readU16Le fun contextCount =>
    .free_bind eats_guid fun _ => .free_bind eats_readU32Le fun _ =>
    .free_bind eats_readU32Le fun _ => .free_bind eats_readU32Le fun _ =>
    .free_bind eats_readU32Le fun _ => .free_bind eats_readU64Le fun _ =>
    .free_bind eats_readU64Le fun _ => .free_bind eats_readU16Le fun _ =>
    .free_bind eats_readU16Le fun secBufLength => .free_bind eats_readU32Le fun contextOffset =>
    .free_bind (eats_readBuffer _) fun _ => .charge_bind (by omega) (by omega) ?_
  exact (hcontexts _ _ _ _).bind (fun _ => .ret (g := 0) (a := 0) (b := 0) _ le_rfl)
    (by omega) (by omega) (by omega)

end Negotiate

end Smb2.Memory
