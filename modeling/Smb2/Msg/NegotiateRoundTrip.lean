import Smb2.Msg.Negotiate

set_option autoImplicit false

/-!
# NEGOTIATE messages, written and read

What `pack` writes for a NEGOTIATE request or response, and that `unpack` reads it back. Both align
the contexts by their place in their own buffer, so the message has to begin at a multiple of eight.
In a response that somebody else has written, a context is delimited by its counts, not by its data
length.
-/

open List

namespace Smb2

open ReadCursor

namespace NegotiateContext

/-! ## Writing contexts -/

def packU16s (values : List UInt16) : Bytes := values.flatMap fun v => leBytes 2 v.toNat

def packContextData : NegotiateContext → Bytes
  | .preauthIntegrity hashAlgorithms salt =>
    leBytes 2 (UInt16.ofNat hashAlgorithms.length).toNat ++
      (leBytes 2 (UInt16.ofNat salt.length).toNat ++ (packU16s hashAlgorithms ++ salt))
  | .encryption ciphers => leBytes 2 (UInt16.ofNat ciphers.length).toNat ++ packU16s ciphers
  | .compression flags algorithms =>
    leBytes 2 (UInt16.ofNat algorithms.length).toNat ++ (leBytes 2 (0 : UInt16).toNat ++
      (leBytes 4 flags.toNat ++ packU16s algorithms))
  | .signing algorithms => leBytes 2 (UInt16.ofNat algorithms.length).toNat ++ packU16s algorithms
  | .unknown _ data => data

def contextTypeId : NegotiateContext → UInt16
  | .preauthIntegrity .. => 0x0001
  | .encryption _ => 0x0002
  | .compression .. => 0x0003
  | .signing _ => 0x0008
  | .unknown contextType _ => contextType

def contextDataLen : NegotiateContext → ℕ
  | .preauthIntegrity hashAlgorithms salt => 2 + 2 + hashAlgorithms.length * 2 + salt.length
  | .encryption ciphers => 2 + ciphers.length * 2
  | .compression _ algorithms => 2 + 2 + 4 + algorithms.length * 2
  | .signing algorithms => 2 + algorithms.length * 2
  | .unknown _ data => data.length

def pack (context : NegotiateContext) : Bytes :=
  leBytes 2 context.contextTypeId.toNat ++
    (leBytes 2 (UInt16.ofNat context.contextDataLen).toNat ++
      (leBytes 4 (0 : UInt32).toNat ++ context.packContextData))

def packAll (first : Bool) (pos : ℕ) : List NegotiateContext → Bytes
  | [] => []
  | context :: contexts =>
    let pad := if first then 0 else alignPadding pos 8
    replicate pad 0 ++
      (context.pack ++ packAll false (pos + pad + context.pack.length) contexts)

/-- The padding and the contexts behind the `written` bytes of a body that begins at `start`. -/
def packAt (start written : ℕ) (contexts : List NegotiateContext) : Bytes :=
  let pad := alignPadding (Header.size + written) 8
  replicate pad 0 ++ packAll true (start + (written + pad)) contexts

def offsetAt (written : ℕ) : UInt32 :=
  UInt32.ofNat (Header.size + (written + alignPadding (Header.size + written) 8))

/-- **A context that can be written**: its length fits the 16 bits of the length field, and an unknown
one is not of a known type. -/
def Fits (context : NegotiateContext) : Prop :=
  context.contextDataLen < 65536 ∧
    ∀ contextType data, context = .unknown contextType data →
      contextType ∉ [(0x0001 : UInt16), 0x0002, 0x0003, 0x0008]

/-! ## Reading contexts back -/

section Written

variable {α β : Type} {pre post : Bytes}

lemma loop_bind {item : α → Bytes} {read : Reader α} {loop : ℕ → Reader (List α)}
    (hzero : loop 0 = pure [])
    (hsucc : ∀ n, loop (n + 1) = read >>= fun a => loop n >>= fun as => pure (a :: as))
    (hread : ∀ (a : α) (pre post : Bytes) (f : α → Reader β),
      (read >>= f) ⟨pre ++ (item a ++ post), pre.length⟩ =
        f a ⟨(pre ++ item a) ++ post, (pre ++ item a).length⟩)
    (items : List α) {f : List α → Reader β} :
    (loop items.length >>= f) ⟨pre ++ (items.flatMap item ++ post), pre.length⟩ =
      f items ⟨(pre ++ items.flatMap item) ++ post, (pre ++ items.flatMap item).length⟩ := by
  induction items generalizing pre f with
  | nil =>
    rw [length_nil, hzero, pure_bind, flatMap_nil, append_nil]
    rfl
  | cons a items ih =>
    rw [length_cons, hsucc, bind_assoc, flatMap_cons, append_assoc, hread]
    simp only [bind_assoc, pure_bind]
    rw [ih, append_assoc pre]

lemma readU16s_bind (values : List UInt16) {f : List UInt16 → Reader β} :
    (readU16s values.length >>= f) ⟨pre ++ (packU16s values ++ post), pre.length⟩ =
      f values ⟨(pre ++ packU16s values) ++ post, (pre ++ packU16s values).length⟩ :=
  loop_bind rfl (fun _ => rfl) (fun _ _ _ _ => readU16Le_bind) values

lemma readBytesBounded_bind {bs : Bytes} {f : Bytes → Reader β} (hlen : bs.length < 65536) :
    (readBytesBounded bs.length >>= f) ⟨pre ++ (bs ++ post), pre.length⟩ =
      f bs ⟨(pre ++ bs) ++ post, (pre ++ bs).length⟩ := by
  rw [readBytesBounded, if_neg (by unfold maxUnpackBuffer; omega)]
  exact readBytes_bind rfl

lemma toNat_ofNat16 {n : ℕ} (h : n < 65536) : (UInt16.ofNat n).toNat = n :=
  UInt16.toNat_ofNat_of_lt' h

lemma unpack_bind {context : NegotiateContext} (hfits : context.Fits)
    {f : NegotiateContext → Reader β} :
    (unpack >>= f) ⟨pre ++ (context.pack ++ post), pre.length⟩ =
      f context ⟨(pre ++ context.pack) ++ post, (pre ++ context.pack).length⟩ := by
  obtain ⟨hlen, htype⟩ := hfits
  have hparts : pre ++ context.pack = (((pre ++ leBytes 2 context.contextTypeId.toNat) ++
      leBytes 2 (UInt16.ofNat context.contextDataLen).toNat) ++ leBytes 4 (0 : UInt32).toNat) ++
        context.packContextData := by
    simp only [pack, append_assoc]
  rw [hparts, pack, append_assoc (leBytes 2 _), append_assoc (leBytes 2 _),
    append_assoc (leBytes 4 _), unpack]
  simp only [bind_assoc]
  rw [readU16Le_bind, readU16Le_bind, readU32Le_bind]
  generalize ((pre ++ leBytes 2 context.contextTypeId.toNat) ++ _) ++ _ = head
  cases context with
  | preauthIntegrity hashAlgorithms salt =>
    simp only [contextDataLen] at hlen
    simp only [contextTypeId]
    rw [if_pos trivial, packContextData, append_assoc (leBytes 2 _),
      append_assoc (leBytes 2 _), append_assoc (packU16s _)]
    simp only [bind_assoc, pure_bind]
    rw [readU16Le_bind, readU16Le_bind, toNat_ofNat16 (by omega), toNat_ofNat16 (by omega),
      readU16s_bind, readBytesBounded_bind (by omega)]
    simp only [append_assoc]
  | encryption ciphers =>
    simp only [contextDataLen] at hlen
    simp only [contextTypeId]
    rw [if_neg (by decide), if_pos trivial, packContextData, append_assoc (leBytes 2 _)]
    simp only [bind_assoc, pure_bind]
    rw [readU16Le_bind, toNat_ofNat16 (by omega), readU16s_bind]
    simp only [append_assoc]
  | compression flags algorithms =>
    simp only [contextDataLen] at hlen
    simp only [contextTypeId]
    rw [if_neg (by decide), if_neg (by decide), if_pos trivial, packContextData,
      append_assoc (leBytes 2 _), append_assoc (leBytes 2 _),
      append_assoc (leBytes 4 _)]
    simp only [bind_assoc, pure_bind]
    rw [readU16Le_bind, readU16Le_bind, readU32Le_bind, toNat_ofNat16 (by omega), readU16s_bind]
    simp only [append_assoc]
  | signing algorithms =>
    simp only [contextDataLen] at hlen
    simp only [contextTypeId]
    rw [if_neg (by decide), if_neg (by decide), if_neg (by decide), if_pos trivial,
      packContextData, append_assoc (leBytes 2 _)]
    simp only [bind_assoc, pure_bind]
    rw [readU16Le_bind, toNat_ofNat16 (by omega), readU16s_bind]
    simp only [append_assoc]
  | unknown contextType data =>
    have hunknown := htype contextType data rfl
    simp only [mem_cons, not_mem_nil, or_false, not_or] at hunknown
    obtain ⟨h1, h2, h3, h8⟩ := hunknown
    simp only [contextTypeId, if_neg h1, if_neg h2, if_neg h3, if_neg h8, toNat_ofNat16 hlen]
    simp only [bind_assoc, pure_bind]
    exact readBytesBounded_bind hlen

lemma alignCursor_bind {pos : ℕ} (hpos : pos % 8 = pre.length % 8) {f : Unit → Reader β} :
    (alignCursor >>= f) ⟨pre ++ (replicate (alignPadding pos 8) 0 ++ post), pre.length⟩ =
      f () ⟨(pre ++ replicate (alignPadding pos 8) 0) ++ post,
        (pre ++ replicate (alignPadding pos 8) 0).length⟩ := by
  have hpad : alignPadding pos 8 = if pre.length % 8 ≠ 0 then 8 - pre.length % 8 else 0 := by
    rw [alignPadding, if_neg (by decide), hpos]
  rw [alignCursor, bind_assoc, position_bind, hpad]
  by_cases haligned : pre.length % 8 = 0
  · simp only [haligned, ne_eq, not_true_eq_false, if_false, replicate_zero, append_nil]
    rfl
  · simp only [ne_eq, haligned, not_false_eq_true, if_true]
    exact takeN_map_bind length_replicate

lemma unpackAll_bind {contexts : List NegotiateContext}
    (hfits : ∀ context ∈ contexts, context.Fits) {first : Bool} {pos : ℕ}
    (hpos : pos % 8 = pre.length % 8) {f : List NegotiateContext → Reader β} :
    (unpackAll first contexts.length >>= f)
        ⟨pre ++ (packAll first pos contexts ++ post), pre.length⟩ =
      f contexts ⟨(pre ++ packAll first pos contexts) ++ post,
        (pre ++ packAll first pos contexts).length⟩ := by
  -- the writer and the reader stand at the same place modulo eight, all the time
  induction contexts generalizing pre first pos f with
  | nil =>
    rw [length_nil, unpackAll, pure_bind, packAll, append_nil]
    rfl
  | cons context contexts ih =>
    have hctx := hfits context mem_cons_self
    have hrest := fun context h => hfits context (mem_cons_of_mem _ h)
    rw [length_cons, unpackAll, packAll]
    cases first with
    | true =>
      simp only [pure_bind, if_true, replicate_zero, nil_append, append_assoc,
        Nat.add_zero, bind_assoc]
      rw [unpack_bind hctx, ih hrest (by rw [length_append]; omega)]
      simp only [append_assoc]
    | false =>
      simp only [Bool.false_eq_true, if_false, append_assoc, bind_assoc, pure_bind]
      rw [alignCursor_bind hpos, unpack_bind hctx, ih hrest (by
        rw [length_append, length_append, length_replicate]; omega)]
      simp only [append_assoc]

lemma unpackAt_bind {contexts : List NegotiateContext}
    (hfits : ∀ context ∈ contexts, context.Fits) {start pos written : ℕ}
    (hpre : pre.length = start + written) (hpos : pos % 8 = start % 8) (hsmall : written < 2 ^ 31)
    {f : List NegotiateContext → Reader β} :
    (unpackAt start contexts.length (offsetAt written).toNat >>= f)
        ⟨pre ++ (packAt pos written contexts ++ post), pre.length⟩ =
      f contexts ⟨(pre ++ packAt pos written contexts) ++ post,
        (pre ++ packAt pos written contexts).length⟩ := by
  set pad := alignPadding (Header.size + written) 8 with hpad
  have hle : pad ≤ 8 := alignPadding_le ..
  have hoffset : (offsetAt written).toNat = Header.size + (written + pad) := by
    rw [offsetAt, UInt32.toNat_ofNat']
    refine Nat.mod_eq_of_lt ?_
    have hsize : Header.size = 64 := rfl
    omega
  have hpack : packAt pos written contexts =
      replicate pad 0 ++ packAll true (pos + (written + pad)) contexts := rfl
  rw [unpackAt, bind_assoc, position_bind, hpack, append_assoc]
  dsimp only
  by_cases hzero : pad = 0
  · rw [if_neg (by omega), hzero]
    simp only [replicate_zero, nil_append]
    exact unpackAll_bind hfits (by omega)
  · rw [if_pos (by omega), bind_assoc, skip,
      takeN_map_bind (by rw [length_replicate]; omega),
      unpackAll_bind hfits (by rw [length_append, length_replicate]; omega)]
    simp only [append_assoc]

end Written

end NegotiateContext

/-! ## The bodies -/

lemma Dialect.tryFrom_code (d : Dialect) : tryFrom d.code = some d := by
  cases d <;> rfl

def packDialects (dialects : List Dialect) : Bytes :=
  dialects.flatMap fun d => leBytes 2 d.code.toNat

lemma length_packDialects (dialects : List Dialect) :
    (packDialects dialects).length = 2 * dialects.length := by
  induction dialects with
  | nil => rfl
  | cons d dialects ih =>
    rw [packDialects, flatMap_cons, length_append, length_leBytes, length_cons]
    exact (congrArg (2 + ·) ih).trans (by omega)

lemma Guid.length_pack {guid : Guid} (h : guid.data4.length = 8) : guid.pack.length = 16 := by
  simp only [pack, length_append, length_leBytes, h]

lemma Guid.unpack_bind {β : Type} {pre post : Bytes} {guid : Guid} (h : guid.data4.length = 8)
    {f : Guid → Reader β} :
    (unpack >>= f) ⟨pre ++ (guid.pack ++ post), pre.length⟩ =
      f guid ⟨(pre ++ guid.pack) ++ post, (pre ++ guid.pack).length⟩ := by
  rw [pack, append_assoc (leBytes 4 _), append_assoc (leBytes 2 _),
    append_assoc (leBytes 2 _), unpack]
  simp only [bind_assoc, pure_bind]
  rw [readU32Le_bind, readU16Le_bind, readU16Le_bind, readBytes_bind h]
  simp only [append_assoc]

namespace NegotiateRequest

def head (m : NegotiateRequest) : Bytes :=
  leBytes 2 structureSize.toNat ++ (leBytes 2 (UInt16.ofNat m.dialects.length).toNat ++
    (leBytes 2 m.securityMode.toNat ++ (leBytes 2 (0 : UInt16).toNat ++
      (leBytes 4 m.capabilities.toNat ++ m.clientGuid.pack))))

def pack (m : NegotiateRequest) (start : ℕ) : Bytes :=
  if .smb3_1_1 ∈ m.dialects then
    let written := m.head.length + 8 + (packDialects m.dialects).length
    m.head ++ ((leBytes 4 (NegotiateContext.offsetAt written).toNat ++
      (leBytes 2 (UInt16.ofNat m.negotiateContexts.length).toNat ++ leBytes 2 0)) ++
        (packDialects m.dialects ++ NegotiateContext.packAt start written m.negotiateContexts))
  else m.head ++ (leBytes 8 0 ++ packDialects m.dialects)

/-- **A request that can be written**: the counts and lengths fit, and there are contexts for SMB
3.1.1 only. -/
structure Fits (m : NegotiateRequest) : Prop where
  guid : m.clientGuid.data4.length = 8
  dialects : m.dialects.length < 65536
  count : m.negotiateContexts.length < 65536
  contexts : ∀ context ∈ m.negotiateContexts, context.Fits
  smb311 : .smb3_1_1 ∉ m.dialects → m.negotiateContexts = []

variable {β : Type} {pre post : Bytes}

lemma readDialects_bind (dialects : List Dialect) {f : List Dialect → Reader β} :
    (readDialects dialects.length >>= f) ⟨pre ++ (packDialects dialects ++ post), pre.length⟩ =
      f dialects ⟨(pre ++ packDialects dialects) ++ post, (pre ++ packDialects dialects).length⟩ := by
  refine NegotiateContext.loop_bind rfl (fun _ => rfl) (fun d pre post f => ?_) dialects
  rw [readDialect, bind_assoc, readU16Le_bind, Dialect.tryFrom_code]
  rfl

lemma unpack_head {m : NegotiateRequest} (hfits : m.Fits) {raw8 : Bytes} (hraw : raw8.length = 8) :
    unpack ⟨pre ++ (m.head ++ (raw8 ++ (packDialects m.dialects ++ post))), pre.length⟩ =
      (readContexts pre.length m.dialects raw8 >>= fun negotiateContexts =>
          pure { m with negotiateContexts })
        ⟨(pre ++ (m.head ++ (raw8 ++ packDialects m.dialects))) ++ post,
          (pre ++ (m.head ++ (raw8 ++ packDialects m.dialects))).length⟩ := by
  rw [head, append_assoc (leBytes 2 _), append_assoc (leBytes 2 _),
    append_assoc (leBytes 2 _), append_assoc (leBytes 2 _), append_assoc (leBytes 4 _),
    unpack, position_bind, readU16Le_bind, expect_bind (by rfl), readU16Le_bind, readU16Le_bind,
    readU16Le_bind, readU32Le_bind, Guid.unpack_bind hfits.guid, readBytes_bind hraw,
    NegotiateContext.toNat_ofNat16 hfits.dialects, readDialects_bind]
  simp only [append_assoc]

lemma unpack_pack {m : NegotiateRequest} (hfits : m.Fits) {start : ℕ}
    (hstart : start % 8 = pre.length % 8) :
    unpack ⟨pre ++ (m.pack start ++ post), pre.length⟩ =
      .ok (m, ⟨(pre ++ m.pack start) ++ post, (pre ++ m.pack start).length⟩) := by
  have hhead : m.head.length = 28 := by
    simp only [head, length_append, length_leBytes, Guid.length_pack hfits.guid]
  by_cases h311 : .smb3_1_1 ∈ m.dialects
  · set written := m.head.length + 8 + (packDialects m.dialects).length with hwritten
    set offset := NegotiateContext.offsetAt written
    set raw8 := leBytes 4 offset.toNat ++
      (leBytes 2 (UInt16.ofNat m.negotiateContexts.length).toNat ++ leBytes 2 0) with hraw8
    have hraw : raw8.length = 8 := by simp only [hraw8, length_append, length_leBytes]
    have hpack : m.pack start = m.head ++ (raw8 ++ (packDialects m.dialects ++
        NegotiateContext.packAt start written m.negotiateContexts)) := if_pos h311
    have hoffset : leNat (slice raw8 0 4) = offset.toNat := by
      show leNat (leBytes 4 offset.toNat) = _
      exact leNat_leBytes offset.toNat_lt
    have hcount : (UInt16.ofNat (leNat (slice raw8 4 6))).toNat = m.negotiateContexts.length := by
      show (UInt16.ofNat (leNat (leBytes 2 _))).toNat = _
      rw [leNat_leBytes (UInt16.toNat_lt _), UInt16.ofNat_toNat,
        NegotiateContext.toNat_ofNat16 hfits.count]
    have hsize := length_packDialects m.dialects
    have hdialects := hfits.dialects
    rw [hpack]
    simp only [append_assoc]
    rw [unpack_head hfits hraw, readContexts, if_pos h311, hoffset, hcount,
      NegotiateContext.unpackAt_bind hfits.contexts (by
        simp only [length_append, hraw]; omega) hstart (by omega)]
    simp only [append_assoc]
    rfl
  · have hpack : m.pack start = m.head ++ (leBytes 8 0 ++ packDialects m.dialects) := if_neg h311
    have hm : m = { m with negotiateContexts := [] } := by
      rw [← hfits.smb311 h311]
    rw [hpack]
    simp only [append_assoc]
    rw [unpack_head hfits (length_leBytes ..), readContexts, if_neg h311, pure_bind, ← hm]
    simp only [append_assoc]
    rfl

end NegotiateRequest

namespace NegotiateResponse

def HasContexts (m : NegotiateResponse) : Prop :=
  m.dialectRevision = .smb3_1_1 ∧ m.negotiateContexts ≠ []

instance (m : NegotiateResponse) : Decidable m.HasContexts := inferInstanceAs (Decidable (_ ∧ _))

def head (m : NegotiateResponse) : Bytes :=
  leBytes 2 structureSize.toNat ++ (leBytes 2 m.securityMode.toNat ++
    (leBytes 2 m.dialectRevision.code.toNat ++
    (leBytes 2 (if m.dialectRevision = .smb3_1_1 then UInt16.ofNat m.negotiateContexts.length
      else 0).toNat ++
    (m.serverGuid.pack ++ (leBytes 4 m.capabilities.toNat ++ (leBytes 4 m.maxTransactSize.toNat ++
    (leBytes 4 m.maxReadSize.toNat ++ (leBytes 4 m.maxWriteSize.toNat ++
    (leBytes 8 m.systemTime.toNat ++ (leBytes 8 m.serverStartTime.toNat ++
    (leBytes 2 (UInt16.ofNat (Header.size + 64)).toNat ++
    (leBytes 2 (UInt16.ofNat m.securityBuffer.length).toNat ++
    leBytes 4 (if m.HasContexts then NegotiateContext.offsetAt (64 + m.securityBuffer.length)
      else 0).toNat))))))))))))

def pack (m : NegotiateResponse) (start : ℕ) : Bytes :=
  m.head ++ (m.securityBuffer ++
    if m.HasContexts then
      NegotiateContext.packAt start (64 + m.securityBuffer.length) m.negotiateContexts
    else [])

/-- **A response that can be written**: the counts and lengths fit, and there are contexts for SMB
3.1.1 only. -/
structure Fits (m : NegotiateResponse) : Prop where
  guid : m.serverGuid.data4.length = 8
  buffer : m.securityBuffer.length < 65536
  count : m.negotiateContexts.length < 65536
  contexts : ∀ context ∈ m.negotiateContexts, context.Fits
  smb311 : m.dialectRevision ≠ .smb3_1_1 → m.negotiateContexts = []

lemma readDialect_bind {β : Type} {pre post : Bytes} {dialect : Dialect}
    {f : Dialect → Reader β} :
    (readDialect >>= f) ⟨pre ++ (leBytes 2 dialect.code.toNat ++ post), pre.length⟩ =
      f dialect ⟨(pre ++ leBytes 2 dialect.code.toNat) ++ post,
        (pre ++ leBytes 2 dialect.code.toNat).length⟩ := by
  rw [readDialect, bind_assoc, readU16Le_bind, Dialect.tryFrom_code]
  rfl

lemma unpack_pack {pre post : Bytes} {m : NegotiateResponse} (hfits : m.Fits) {start : ℕ}
    (hstart : start % 8 = pre.length % 8) :
    unpack ⟨pre ++ (m.pack start ++ post), pre.length⟩ =
      .ok (m, ⟨(pre ++ m.pack start) ++ post, (pre ++ m.pack start).length⟩) := by
  have hhead : m.head.length = 64 := by
    simp only [head, length_append, length_leBytes, Guid.length_pack hfits.guid]
  have hbuffer := hfits.buffer
  have hread (post : Bytes) : unpack ⟨pre ++ (m.head ++ (m.securityBuffer ++ post)), pre.length⟩ =
      (readContexts pre.length m.dialectRevision
        (if m.dialectRevision = .smb3_1_1 then UInt16.ofNat m.negotiateContexts.length else 0).toNat
        (if m.HasContexts then NegotiateContext.offsetAt (64 + m.securityBuffer.length)
          else 0).toNat >>= fun negotiateContexts => pure { m with negotiateContexts })
      ⟨(pre ++ (m.head ++ m.securityBuffer)) ++ post,
        (pre ++ (m.head ++ m.securityBuffer)).length⟩ := by
    rw [head]
    simp only [append_assoc]
    rw [unpack, position_bind, readU16Le_bind, expect_bind (by rfl), readU16Le_bind,
      readDialect_bind, readU16Le_bind, Guid.unpack_bind hfits.guid, readU32Le_bind, readU32Le_bind,
      readU32Le_bind, readU32Le_bind, readU64Le_bind, readU64Le_bind, readU16Le_bind, readU16Le_bind,
      readU32Le_bind, readBuffer_bind (NegotiateContext.toNat_ofNat16 hbuffer).symm
        (by rw [NegotiateContext.toNat_ofNat16 hbuffer, maxUnpackBuffer]; omega)]
    simp only [append_assoc]
  rw [pack, append_assoc, append_assoc, hread]
  by_cases hsome : m.HasContexts
  · have hpos : m.negotiateContexts.length > 0 := length_pos_iff.2 hsome.2
    rw [if_pos hsome, if_pos hsome, if_pos hsome.1, NegotiateContext.toNat_ofNat16 hfits.count,
      readContexts, if_pos ⟨hsome.1, hpos⟩]
    refine (NegotiateContext.unpackAt_bind hfits.contexts (by
      simp only [length_append, hhead]) hstart (by omega)).trans ?_
    simp only [append_assoc]
    rfl
  · have hnil : m.negotiateContexts = [] := by
      by_contra hne
      exact hne (hfits.smb311 fun h311 => hsome ⟨h311, hne⟩)
    have hm : m = { m with negotiateContexts := [] } := by
      rw [← hnil]
    have hzero : ¬ (m.dialectRevision = .smb3_1_1 ∧
        (if m.dialectRevision = .smb3_1_1 then UInt16.ofNat m.negotiateContexts.length
          else 0).toNat > 0) := by
      rw [hnil]
      rintro ⟨h311, hpos⟩
      rw [if_pos h311] at hpos
      exact absurd hpos (by decide)
    rw [readContexts, if_neg hzero, if_neg hsome, pure_bind, ← hm]
    simp only [append_assoc, append_nil, nil_append]
    rfl

end NegotiateResponse

/-- **NEGOTIATE messages are read back**, wherever in the write buffer they begin (at `start`) and
wherever they are read, if both are the same modulo eight. -/
theorem negotiate_roundTrip :
    (∀ (m : NegotiateRequest) (start : ℕ) (pre post : Bytes),
      m.Fits → start % 8 = pre.length % 8 →
        NegotiateRequest.unpack ⟨pre ++ (m.pack start ++ post), pre.length⟩ =
          .ok (m, ⟨(pre ++ m.pack start) ++ post, (pre ++ m.pack start).length⟩)) ∧
    (∀ (m : NegotiateResponse) (start : ℕ) (pre post : Bytes),
      m.Fits → start % 8 = pre.length % 8 →
        NegotiateResponse.unpack ⟨pre ++ (m.pack start ++ post), pre.length⟩ =
          .ok (m, ⟨(pre ++ m.pack start) ++ post, (pre ++ m.pack start).length⟩)) :=
  ⟨fun _ _ _ _ hfits hstart => NegotiateRequest.unpack_pack hfits hstart,
    fun _ _ _ _ hfits hstart => NegotiateResponse.unpack_pack hfits hstart⟩

/-! ## What delimits a context -/

namespace NegotiateContext

/-- `unpack_negotiate_contexts`, with where each context begins and where the next read begins. -/
def unpackTraced (first : Bool) : ℕ → Reader (List (NegotiateContext × ℕ × ℕ))
  | 0 => return []
  | n + 1 => do
    unless first do alignCursor
    let start ← position
    let context ← unpack
    let stop ← position
    return (context, start, stop) :: (← unpackTraced false n)

def dataLength (data : Bytes) (pos : ℕ) : ℕ := leNat (slice data (pos + 2) (pos + 2 + 2))

def countedSize (data : Bytes) (pos : ℕ) : ℕ :=
  let contextType := UInt16.ofNat (leNat (slice data pos (pos + 2)))
  let count (i : ℕ) := leNat (slice data (pos + 8 + i) (pos + 8 + i + 2))
  if contextType = 0x0001 then 4 + 2 * count 0 + count 2
  else if contextType = 0x0002 then 2 + 2 * count 0
  else if contextType = 0x0003 then 8 + 2 * count 0
  else if contextType = 0x0008 then 2 + 2 * count 0
  else dataLength data pos

def alignUp (pos : ℕ) : ℕ := pos + alignPadding pos 8

/-- **The contexts are delimited by their data lengths**: nothing behind the data of a context is read
for it, and the next one begins at the next multiple of eight. -/
def Delimited (data : Bytes) : List (NegotiateContext × ℕ × ℕ) → Prop
  | [] => True
  | (_, start, stop) :: rest =>
    stop ≤ start + 8 + dataLength data start ∧
    (∀ next ∈ rest.head?, next.2.1 = alignUp (start + 8 + dataLength data start)) ∧
    Delimited data rest

/-- In each of `n` contexts from a position on, the counts call for no more than the data length, and,
if another context follows, for data that ends in front of the same multiple of eight. -/
def CountsAgree (data : Bytes) : ℕ → ℕ → Prop
  | 0, _ => True
  | n + 1, pos =>
    countedSize data pos ≤ dataLength data pos ∧
    (n ≠ 0 → alignUp (pos + 8 + countedSize data pos) = alignUp (pos + 8 + dataLength data pos)) ∧
    CountsAgree data n (alignUp (pos + 8 + dataLength data pos))

variable {β : Type} {c c' : ReadCursor} {p : β × ReadCursor}

lemma readU16s_then {n : ℕ} {f : List UInt16 → Reader β} (h : (readU16s n >>= f) c = .ok p) :
    ∃ values, f values (c.advance (2 * n)) = .ok p := by
  induction n generalizing c f with
  | zero => exact ⟨[], h⟩
  | succ n ih =>
    rw [readU16s, bind_assoc, readU16Le_then] at h
    simp only [bind_assoc, pure_bind] at h
    obtain ⟨values, hrest⟩ := ih h.2
    have hpos : c.advance (2 * (n + 1)) = (c.advance 2).advance (2 * n) := by
      rw [Nat.mul_succ, Nat.add_comm (2 * n), advance, ← Nat.add_assoc]
      rfl
    exact ⟨_, hpos ▸ hrest⟩

lemma readBytesBounded_then {n : ℕ} {f : Bytes → Reader β}
    (h : (readBytesBounded n >>= f) c = .ok p) : f (c.peek n) (c.advance n) = .ok p := by
  rw [readBytesBounded] at h
  split at h
  · cases h
  · exact (takeN_then.1 h).2

lemma pos_of_unpack {context : NegotiateContext} (h : unpack c = .ok (context, c')) :
    c'.data = c.data ∧ c'.pos = c.pos + 8 + countedSize c.data c.pos := by
  simp only [unpack, readU16Le_then, readU32Le_then] at h
  obtain ⟨-, -, -, h⟩ := h
  have hu16 (c : ReadCursor) : (UInt16.ofNat (leNat (c.peek 2))).toNat = leNat (c.peek 2) :=
    toNat_u16_peek c
  generalize htype : UInt16.ofNat (leNat (c.peek 2)) = contextType at h
  have htype' : UInt16.ofNat (leNat (slice c.data c.pos (c.pos + 2))) = contextType := htype
  simp only [countedSize, htype']
  split_ifs at h ⊢
  · simp only [readU16Le_then, hu16] at h
    obtain ⟨values, h⟩ := readU16s_then h.2.2
    replace h := readBytesBounded_then h
    obtain ⟨-, rfl⟩ := pure_eq_ok.1 h
    refine ⟨rfl, ?_⟩
    simp only [advance, peek, Nat.add_assoc, Nat.reduceAdd]
    omega
  · simp only [readU16Le_then, hu16] at h
    obtain ⟨values, h⟩ := readU16s_then h.2
    obtain ⟨-, rfl⟩ := pure_eq_ok.1 h
    refine ⟨rfl, ?_⟩
    simp only [advance, peek, Nat.add_assoc, Nat.reduceAdd]
    omega
  · simp only [readU16Le_then, readU32Le_then, hu16] at h
    obtain ⟨values, h⟩ := readU16s_then h.2.2.2
    obtain ⟨-, rfl⟩ := pure_eq_ok.1 h
    refine ⟨rfl, ?_⟩
    simp only [advance, peek, Nat.add_assoc, Nat.reduceAdd]
    omega
  · simp only [readU16Le_then, hu16] at h
    obtain ⟨values, h⟩ := readU16s_then h.2
    obtain ⟨-, rfl⟩ := pure_eq_ok.1 h
    refine ⟨rfl, ?_⟩
    simp only [advance, peek, Nat.add_assoc, Nat.reduceAdd]
    omega
  · rw [hu16] at h
    replace h := readBytesBounded_then h
    obtain ⟨-, rfl⟩ := pure_eq_ok.1 h
    refine ⟨rfl, ?_⟩
    simp only [advance, peek, dataLength, Nat.add_assoc, Nat.reduceAdd]

lemma alignCursor_then {f : Unit → Reader β} (h : (alignCursor >>= f) c = .ok p) :
    f () ⟨c.data, alignUp c.pos⟩ = .ok p := by
  rw [alignCursor, bind_assoc, position_then] at h
  rw [alignUp, alignPadding, if_neg (by decide)]
  split at h
  · rename_i hpos
    rw [skip, bind_assoc, takeN_then, pure_bind] at h
    rw [if_pos hpos]
    exact h.2
  · rename_i hpos
    rw [if_neg hpos]
    exact h

variable {n : ℕ} {trace : List (NegotiateContext × ℕ × ℕ)}

lemma unpackAll_eq (first : Bool) (n : ℕ) (c : ReadCursor) :
    unpackAll first n c = (unpackTraced first n >>= fun trace => pure (trace.map Prod.fst)) c := by
  induction n generalizing first c with
  | zero => rfl
  | succ n ih =>
    rw [unpackAll, unpackTraced]
    have hposition {α : Type} (x : Reader α) : (position >>= fun _ => x) = x := rfl
    cases first <;>
      simp only [if_true, Bool.false_eq_true, if_false, bind_assoc, pure_bind, map_cons,
        funext (ih false), hposition]

lemma unpackTraced_succ (h : unpackTraced true (n + 1) c = .ok (trace, c')) :
    ∃ context c₁ rest, unpack c = .ok (context, c₁) ∧
      unpackTraced false n c₁ = .ok (rest, c') ∧ trace = (context, c.pos, c₁.pos) :: rest := by
  rw [unpackTraced] at h
  obtain ⟨context, c₁, hunpack, h⟩ := bind_eq_ok.1 (position_then.1 h)
  obtain ⟨rest, c₂, hrest, h⟩ := bind_eq_ok.1 (position_then.1 h)
  obtain ⟨rfl, rfl⟩ := pure_eq_ok.1 h
  exact ⟨context, c₁, rest, hunpack, hrest, rfl⟩

lemma delimited_iff (h : unpackTraced true n c = .ok (trace, c')) :
    trace.length = n ∧ (Delimited c.data trace ↔ CountsAgree c.data n c.pos) := by
  induction n generalizing c trace with
  | zero =>
    obtain ⟨rfl, -⟩ := pure_eq_ok.1 h
    exact ⟨rfl, Iff.rfl⟩
  | succ n ih =>
    obtain ⟨context, c₁, rest, hunpack, hrest, rfl⟩ := unpackTraced_succ h
    obtain ⟨hdata, hpos⟩ := pos_of_unpack hunpack
    have hstop : c₁.pos ≤ c.pos + 8 + dataLength c.data c.pos ↔
        countedSize c.data c.pos ≤ dataLength c.data c.pos := by omega
    rw [Delimited, CountsAgree, hstop, length_cons]
    cases n with
    | zero =>
      obtain ⟨rfl, -⟩ := pure_eq_ok.1 hrest
      simp [Delimited, CountsAgree]
    | succ n =>
      rw [unpackTraced] at hrest
      replace hrest : unpackTraced true (n + 1) ⟨c.data, alignUp c₁.pos⟩ = .ok (rest, c') :=
        hdata ▸ alignCursor_then hrest
      obtain ⟨hlen, hiff⟩ := ih hrest
      obtain ⟨context', c₂, rest', -, -, rfl⟩ := unpackTraced_succ hrest
      refine ⟨by rw [hlen], and_congr_right fun _ => ?_⟩
      rw [hiff, hpos]
      simp only [head?_cons, Option.mem_def, Option.some.injEq, forall_eq', ne_eq,
        Nat.add_one_ne_zero, not_false_eq_true, forall_const]
      refine and_congr_right fun hnext => ?_
      rw [hnext]

end NegotiateContext

namespace NegotiateResponse

def firstContext (body : Bytes) : ℕ :=
  max (64 + leNat (slice body 58 60)) (leNat (slice body 60 64) - Header.size)

/-- **The contexts of a response are delimited by their data lengths exactly if the counts inside of
them agree with these.** -/
theorem contexts_delimited_iff {body : Bytes} {r : NegotiateResponse} {c : ReadCursor}
    (hok : unpack (.new body) = .ok (r, c)) :
    ∃ trace c', NegotiateContext.unpackTraced true r.negotiateContexts.length
        ⟨body, firstContext body⟩ = .ok (trace, c') ∧
      trace.map Prod.fst = r.negotiateContexts ∧
      (NegotiateContext.Delimited body trace ↔
        NegotiateContext.CountsAgree body r.negotiateContexts.length (firstContext body)) := by
  rw [unpack] at hok
  simp only [position_then, readU16Le_then, expect_then] at hok
  obtain ⟨-, -, -, hok⟩ := hok
  obtain ⟨dialect, hok⟩ := readDialect_then hok
  simp only [Guid.unpack, readBytes, bind_assoc, pure_bind, takeN_then, readU16Le_then,
    readU32Le_then, readU64Le_then, readBuffer_then, toNat_u16_peek, toNat_u32_peek] at hok
  obtain ⟨-, -, -, -, -, -, -, -, -, -, -, -, -, -, -, -, hok⟩ := hok
  obtain ⟨contexts, c', hread, hr⟩ := bind_eq_ok.1 hok
  obtain ⟨rfl, -⟩ := pure_eq_ok.1 hr
  set count := leNat (slice body 6 8)
  set offset := leNat (slice body 60 64) with hoffset
  set current := 64 + leNat (slice body 58 60) with hcurrent
  replace hread : readContexts 0 dialect count offset ⟨body, current⟩ = .ok (contexts, c') := hread
  rw [readContexts] at hread
  split at hread
  · have hall : NegotiateContext.unpackAll true count ⟨body, firstContext body⟩ =
        .ok (contexts, c') := by
      replace hread := position_then.1 hread
      dsimp only at hread
      split at hread
      · rw [skip, bind_assoc, takeN_then, pure_bind, advance] at hread
        have hpos : current + (offset - (Header.size + (current - 0))) = offset - Header.size := by
          omega
        rw [firstContext, Nat.max_eq_right (by omega), ← hoffset, ← hpos]
        exact hread.2
      · rw [firstContext, Nat.max_eq_left (by omega)]
        exact hread
    rw [NegotiateContext.unpackAll_eq] at hall
    obtain ⟨trace, c₁, htrace, hmap⟩ := bind_eq_ok.1 hall
    obtain ⟨rfl, rfl⟩ := pure_eq_ok.1 hmap
    obtain ⟨hlen, hiff⟩ := NegotiateContext.delimited_iff htrace
    rw [length_map, hlen]
    exact ⟨trace, c', htrace, rfl, hiff⟩
  · obtain ⟨rfl, -⟩ := pure_eq_ok.1 hread
    exact ⟨[], _, rfl, rfl, Iff.rfl⟩

def responseOf (contexts : Bytes) : Bytes :=
  [65, 0, 1, 0, 0x11, 3, 2, 0] ++ (replicate 48 0 ++ ([128, 0, 0, 0, 128, 0, 0, 0] ++ contexts))

def cipherAndSigning : Bytes :=
  responseOf [2, 0, 4, 0, 0, 0, 0, 0, 1, 0, 2, 0, 0, 0, 0, 0, 8, 0, 4, 0, 0, 0, 0, 0, 1, 0, 1, 0]

theorem contexts_delimited_cipherAndSigning :
    ∃ trace c', NegotiateContext.unpackTraced true 2
        ⟨cipherAndSigning, firstContext cipherAndSigning⟩ = .ok (trace, c') ∧
      NegotiateContext.Delimited cipherAndSigning trace := by
  have hcontexts : (unpack (.new cipherAndSigning)).toOption.map (·.1.negotiateContexts) =
      some [.encryption [2], .signing [1]] := by decide +kernel
  cases hok : unpack (.new cipherAndSigning) with
  | error e =>
    rw [hok] at hcontexts
    cases hcontexts
  | ok p =>
    rw [hok] at hcontexts
    have hr : p.1.negotiateContexts = _ := Option.some.inj hcontexts
    obtain ⟨trace, c', htrace, -, hiff⟩ := contexts_delimited_iff hok
    rw [hr] at htrace hiff
    refine ⟨trace, c', htrace, hiff.2 ⟨by decide +kernel, fun _ => by decide +kernel,
      by decide +kernel, fun h => absurd rfl h, trivial⟩⟩

def trailingData : Bytes :=
  responseOf [2, 0, 12, 0, 0, 0, 0, 0, 1, 0, 2, 0, 0, 0, 0, 0, 0, 0, 0, 0, 0, 0, 0, 0,
    8, 0, 4, 0, 0, 0, 0, 0, 1, 0, 1, 0]

/-- **Trailing data shifts the contexts behind it**: the second one is read from the data of the
first, not from where it is. -/
theorem trailing_data_shifts :
    (unpack (.new trailingData)).toOption.map (·.1.negotiateContexts) =
      some [.encryption [2], .unknown 0 []] ∧
    (NegotiateContext.unpack ⟨trailingData, 64 + 24⟩).toOption.map Prod.fst =
      some (.signing [1]) := by
  decide +kernel

end NegotiateResponse

end Smb2
