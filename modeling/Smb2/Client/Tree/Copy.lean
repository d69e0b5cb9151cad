import Smb2.Client.Tree.PipelinedRead
import Smb2.Lib.Prog
import Smb2.Msg.Copychunk

set_option autoImplicit false

/-!
# Server-side copy

`server_side_copy_range` (`client/copy.rs`): a range of one file is copied to another by the server,
in batches of chunks. A server that finds a batch too large rejects it and says what its limits are;
the client batches anew within them, after it has raised limits that it finds degenerate.

## Implementation notes

What a request does is left to `execute`, a function of the server's state and the request: it
stands for `Connection::execute` and the server behind it. Numbers that the source holds in a `u64`
are natural numbers, and they wrap where they go into a chunk. The loop has fuel, since a server
that keeps changing its limits keeps it going.
-/

open List

namespace Smb2.Tree

open Connection (Frame)

structure ResumeKey where
  bytes : Bytes
  length_eq : bytes.length = resumeKeyLen

structure CopyChunk where
  sourceOffset : UInt64
  targetOffset : UInt64
  length : UInt32
deriving DecidableEq, Repr

def CopyChunk.toSrv (c : CopyChunk) : SrvCopychunk := ⟨c.sourceOffset, c.targetOffset, c.length⟩

structure CopyChunkResult where
  chunksWritten : UInt32
  totalBytesWritten : UInt64
deriving DecidableEq, Repr

@[ext]
structure ServerSideCopyLimits where
  maxChunks : UInt32
  maxChunkSize : UInt32
  maxDataSize : UInt32
deriving DecidableEq, Repr

namespace ServerSideCopyLimits

def conservative : ServerSideCopyLimits where
  maxChunks := 16
  maxChunkSize := 1024 * 1024
  maxDataSize := 16 * 1024 * 1024

/-- `sanitized`: at least one chunk, at least one byte in it, and room for one full chunk. -/
def sanitized (limits : ServerSideCopyLimits) : ServerSideCopyLimits :=
  let maxChunkSize := max limits.maxChunkSize 1
  { maxChunks := max limits.maxChunks 1
    maxChunkSize
    maxDataSize := max limits.maxDataSize maxChunkSize }

lemma toNat_max (a b : UInt32) : (max a b).toNat = max a.toNat b.toNat := by
  show (if a ≤ b then b else a).toNat = _
  split
  · rename_i hle
    rw [UInt32.le_iff_toNat_le] at hle
    omega
  · rename_i hle
    rw [UInt32.le_iff_toNat_le] at hle
    omega

def Positive (limits : ServerSideCopyLimits) : Prop :=
  0 < limits.maxChunks.toNat ∧ 0 < limits.maxChunkSize.toNat ∧ 0 < limits.maxDataSize.toNat

instance (limits : ServerSideCopyLimits) : Decidable limits.Positive :=
  inferInstanceAs (Decidable (_ ∧ _))

lemma Positive.toNat_sanitized {limits : ServerSideCopyLimits} (h : limits.Positive) :
    limits.sanitized.maxChunks.toNat = limits.maxChunks.toNat ∧
      limits.sanitized.maxChunkSize.toNat = limits.maxChunkSize.toNat ∧
      limits.sanitized.maxDataSize.toNat =
        max limits.maxDataSize.toNat limits.maxChunkSize.toNat := by
  obtain ⟨hchunks, hsize, -⟩ := h
  have hone : (1 : UInt32).toNat = 1 := rfl
  simp only [sanitized, toNat_max, hone]
  omega

lemma positive_sanitized (limits : ServerSideCopyLimits) : limits.sanitized.Positive := by
  have hone : (1 : UInt32).toNat = 1 := rfl
  simp only [Positive, sanitized, toNat_max, hone]
  omega

lemma sanitized_conservative : conservative.sanitized = conservative := by decide

end ServerSideCopyLimits

inductive CopyChunkOutcome
  | copied (result : CopyChunkResult)
  | rejected (limits : ServerSideCopyLimits)
deriving DecidableEq, Repr

def parseCopychunkResponse (frameBody : Bytes) : Except Error SrvCopychunkResponse := do
  let (ioctlResp, _) ← IoctlResponse.unpack (.new frameBody)
  let (resp, _) ← SrvCopychunkResponse.unpack (.new ioctlResp.outputData)
  return resp

def copyRequest (dest : FileId) (sourceKey : ResumeKey) (chunks : List CopyChunk) : IoctlRequest :=
  { ctlCode := fsctlSrvCopychunk
    fileId := dest
    maxInputResponse := 0
    maxOutputResponse := UInt32.ofNat SrvCopychunkResponse.size
    flags := smb20IoctlIsFsctl
    inputData := SrvCopychunkCopy.pack ⟨sourceKey.bytes, chunks.map CopyChunk.toSrv⟩ }

def copyOutcome (answer : Except Error Frame) : Except Error CopyChunkOutcome := do
  let frame ← answer
  let status := frame.header.status
  if status = NtStatus.invalidParameter then
    match parseCopychunkResponse frame.body with
    | .ok resp =>
      return .rejected ⟨resp.chunksWritten, resp.chunkBytesWritten, resp.totalBytesWritten⟩
    -- Without limits this is a failure like any other.
    | .error _ => throw (.protocol status .ioctl)
  else if status ≠ NtStatus.success then
    throw (.protocol status .ioctl)
  else
    let resp ← parseCopychunkResponse frame.body
    return .copied ⟨resp.chunksWritten, resp.totalBytesWritten.toUInt64⟩

/-- The loop of `build_batch`; the first argument counts the chunks that may still be added. -/
def buildChunks (baseSrc baseDst remaining maxChunk maxData : ℕ) : ℕ → ℕ → List CopyChunk × ℕ
  | 0, off => ([], off)
  | n + 1, off =>
    if off < remaining ∧ off < maxData then
      let this := min (min maxChunk (remaining - off)) (maxData - off)
      if this = 0 then ([], off)
      else
        let (chunks, stop) := buildChunks baseSrc baseDst remaining maxChunk maxData n (off + this)
        (⟨UInt64.ofNat (baseSrc + off), UInt64.ofNat (baseDst + off), UInt32.ofNat this⟩ :: chunks,
          stop)
    else ([], off)

def buildBatch (baseSrc baseDst remaining : ℕ) (limits : ServerSideCopyLimits) :
    List CopyChunk × ℕ :=
  buildChunks baseSrc baseDst remaining limits.maxChunkSize.toNat limits.maxDataSize.toNat
    limits.maxChunks.toNat 0

/-! ## Batches -/

def pieces (chunks : List CopyChunk) : List Ranges.Piece := chunks.map fun c => c.toSrv.piece

/-- **What a batch is**: at most `count` contiguous chunks of at most `size` bytes, of the given
total length. -/
structure IsBatch (src dst count size len : ℕ) (chunks : List CopyChunk) : Prop where
  contiguous : Ranges.Contiguous src dst (pieces chunks)
  total_eq : Ranges.total (pieces chunks) = len
  count_le : chunks.length ≤ count
  size_le : ∀ c ∈ chunks, c.length.toNat ≤ size

section Batch

variable {baseSrc baseDst remaining maxChunk maxData : ℕ}

lemma buildChunks_succ (n off : ℕ) :
    buildChunks baseSrc baseDst remaining maxChunk maxData (n + 1) off =
      if min maxChunk (min remaining maxData - off) = 0 then ([], off)
      else
        let this := min maxChunk (min remaining maxData - off)
        let rest := buildChunks baseSrc baseDst remaining maxChunk maxData n (off + this)
        (⟨UInt64.ofNat (baseSrc + off), UInt64.ofNat (baseDst + off), UInt32.ofNat this⟩ :: rest.1,
          rest.2) := by
  have hthis : min (min maxChunk (remaining - off)) (maxData - off) =
      min maxChunk (min remaining maxData - off) := by omega
  rw [buildChunks]
  by_cases hin : off < remaining ∧ off < maxData
  · rw [if_pos hin, hthis]
  · have hzero : min maxChunk (min remaining maxData - off) = 0 := by omega
    rw [if_neg hin, if_pos hzero]

lemma buildChunks_stop {n off : ℕ} (hoff : off ≤ min remaining maxData) :
    (buildChunks baseSrc baseDst remaining maxChunk maxData n off).2 =
      min (min remaining maxData) (off + n * maxChunk) := by
  induction n generalizing off with
  | zero => rw [buildChunks, Nat.zero_mul, Nat.add_zero, Nat.min_eq_right hoff]
  | succ n ih =>
    rw [buildChunks_succ, Nat.succ_mul]
    split
    · rename_i hzero
      rcases Nat.min_eq_zero_iff.1 hzero with hchunk | hend
      · rw [hchunk, Nat.mul_zero]
        exact (Nat.min_eq_right hoff).symm
      · exact (Nat.le_antisymm hoff (Nat.sub_eq_zero_iff_le.1 hend)).trans
          (Nat.min_eq_left (by omega)).symm
    · dsimp only
      rw [ih (by omega)]
      generalize min remaining maxData = limit
      omega

lemma isBatch_nil (src dst count size : ℕ) : IsBatch src dst count size 0 [] where
  contiguous := trivial
  total_eq := rfl
  count_le := Nat.zero_le count
  size_le := nofun

lemma IsBatch.cons {src dst count size len this : ℕ} {chunks : List CopyChunk}
    (h : IsBatch (src + this) (dst + this) count size len chunks) (hsrc : src < 2 ^ 64)
    (hdst : dst < 2 ^ 64) (hthis : this < 2 ^ 32) (hsize : this ≤ size) :
    IsBatch src dst (count + 1) size (this + len)
      (⟨UInt64.ofNat src, UInt64.ofNat dst, UInt32.ofNat this⟩ :: chunks) := by
  have hlen : (UInt32.ofNat this).toNat = this := UInt32.toNat_ofNat_of_lt' hthis
  have hpieces : pieces (⟨UInt64.ofNat src, UInt64.ofNat dst, UInt32.ofNat this⟩ :: chunks) =
      ⟨src, dst, this⟩ :: pieces chunks := by
    rw [pieces, map_cons, CopyChunk.toSrv, SrvCopychunk.piece, hlen,
      UInt64.toNat_ofNat_of_lt' hsrc, UInt64.toNat_ofNat_of_lt' hdst]
    rfl
  constructor
  · rw [hpieces]
    exact ⟨rfl, rfl, h.contiguous⟩
  · rw [hpieces, Ranges.total_cons, h.total_eq]
  · rw [length_cons]
    exact Nat.succ_le_succ h.count_le
  · rw [forall_mem_cons]
    exact ⟨hlen.le.trans hsize, h.size_le⟩

lemma buildChunks_isBatch {n off : ℕ} (hoff : off ≤ min remaining maxData)
    (hsrc : baseSrc + remaining ≤ 2 ^ 64) (hdst : baseDst + remaining ≤ 2 ^ 64)
    (hchunk : maxChunk < 2 ^ 32) :
    IsBatch (baseSrc + off) (baseDst + off) n maxChunk
      ((buildChunks baseSrc baseDst remaining maxChunk maxData n off).2 - off)
      (buildChunks baseSrc baseDst remaining maxChunk maxData n off).1 := by
  induction n generalizing off with
  | zero =>
    rw [buildChunks, Nat.sub_self]
    exact isBatch_nil ..
  | succ n ih =>
    rw [buildChunks_succ]
    split
    · rw [Nat.sub_self]
      exact isBatch_nil ..
    · have hlimit : min remaining maxData ≤ remaining := Nat.min_le_left _ _
      generalize hthis : min maxChunk (min remaining maxData - off) = this
      have hnext : off + this ≤ min remaining maxData := by omega
      have hchunks : this ≤ maxChunk := by omega
      have hrest := ih hnext
      have hstop : off + this ≤
          (buildChunks baseSrc baseDst remaining maxChunk maxData n (off + this)).2 := by
        rw [buildChunks_stop hnext]
        exact Nat.le_min.2 ⟨hnext, Nat.le_add_right _ _⟩
      dsimp only
      rw [← Nat.add_assoc, ← Nat.add_assoc] at hrest
      have hlen : (buildChunks baseSrc baseDst remaining maxChunk maxData n (off + this)).2 - off =
          this + ((buildChunks baseSrc baseDst remaining maxChunk maxData n (off + this)).2 -
            (off + this)) := by
        omega
      rw [hlen]
      exact hrest.cons (by omega) (by omega) (by omega) hchunks

variable (baseSrc baseDst) in
lemma buildChunks_full {n off : ℕ} (hoff : off ≤ min remaining maxData)
    (hchunk : maxChunk < 2 ^ 32) :
    (∀ c ∈ (buildChunks baseSrc baseDst remaining maxChunk maxData n off).1,
      0 < c.length.toNat) ∧
    ((buildChunks baseSrc baseDst remaining maxChunk maxData n off).2 < min remaining maxData →
      0 < maxChunk →
      (buildChunks baseSrc baseDst remaining maxChunk maxData n off).1.length = n ∧
        ∀ c ∈ (buildChunks baseSrc baseDst remaining maxChunk maxData n off).1,
          c.length.toNat = maxChunk) := by
  induction n generalizing off with
  | zero => exact ⟨nofun, fun _ _ => ⟨rfl, nofun⟩⟩
  | succ n ih =>
    rw [buildChunks_succ]
    split
    · exact ⟨nofun, fun _ _ => by omega⟩
    · rename_i hne
      generalize hthis : min maxChunk (min remaining maxData - off) = this at hne ⊢
      have hlt : this < 2 ^ 32 := by omega
      have hlen : (UInt32.ofNat this).toNat = this := UInt32.toNat_ofNat_of_lt' hlt
      have hnext : off + this ≤ min remaining maxData := by omega
      obtain ⟨hpos, hfull⟩ := ih hnext
      refine ⟨forall_mem_cons.2 ⟨hlen.symm ▸ Nat.pos_of_ne_zero hne, hpos⟩, fun hstop hchunk => ?_⟩
      dsimp only at hstop
      obtain ⟨hcount, hsize⟩ := hfull hstop hchunk
      -- A shorter chunk would have ended the batch at the limit.
      have hthisFull : this = maxChunk := by
        rw [buildChunks_stop hnext] at hstop
        omega
      exact ⟨by rw [length_cons, hcount], forall_mem_cons.2 ⟨hlen.trans hthisFull, hsize⟩⟩

end Batch

/-- **The batch of one request** within the limits. -/
theorem buildBatch_spec {baseSrc baseDst remaining : ℕ} (limits : ServerSideCopyLimits)
    (hsrc : baseSrc + remaining ≤ 2 ^ 64) (hdst : baseDst + remaining ≤ 2 ^ 64) :
    (buildBatch baseSrc baseDst remaining limits).2 =
        min (min remaining limits.maxDataSize.toNat)
          (limits.maxChunks.toNat * limits.maxChunkSize.toNat) ∧
      IsBatch baseSrc baseDst limits.maxChunks.toNat limits.maxChunkSize.toNat
        (buildBatch baseSrc baseDst remaining limits).2
        (buildBatch baseSrc baseDst remaining limits).1 := by
  have hzero : 0 ≤ min remaining limits.maxDataSize.toNat := Nat.zero_le _
  refine ⟨?_, ?_⟩
  · rw [buildBatch, buildChunks_stop hzero, Nat.zero_add]
  · exact buildChunks_isBatch hzero hsrc hdst limits.maxChunkSize.toNat_lt

/-- **A batch tiles the range and is maximal.** It is contiguous from both bases, every chunk has at
least one byte, and the whole stays within the limits and what remains. If something is left to copy,
all chunks were used and are full, up to the last one, or the budget of the request is spent. -/
theorem buildBatch_tiles {baseSrc baseDst remaining len : ℕ} {chunks : List CopyChunk}
    (limits : ServerSideCopyLimits) (hremaining : 0 < remaining)
    (hsrc : baseSrc + remaining ≤ 2 ^ 64) (hdst : baseDst + remaining ≤ 2 ^ 64)
    (h : buildBatch baseSrc baseDst remaining limits.sanitized = (chunks, len)) :
    IsBatch baseSrc baseDst limits.sanitized.maxChunks.toNat limits.sanitized.maxChunkSize.toNat
        len chunks ∧
      (∀ c ∈ chunks, 1 ≤ c.length.toNat) ∧ len ≤ limits.sanitized.maxDataSize.toNat ∧
      len ≤ remaining ∧ 1 ≤ len ∧
      (len < remaining →
        chunks.length = limits.sanitized.maxChunks.toNat ∧
          (∀ c ∈ chunks.dropLast, c.length = limits.sanitized.maxChunkSize) ∨
        len = limits.sanitized.maxDataSize.toNat) := by
  obtain ⟨hlen, hbatch⟩ := buildBatch_spec limits.sanitized hsrc hdst
  obtain ⟨hpos, hfull⟩ := buildChunks_full baseSrc baseDst (n := limits.sanitized.maxChunks.toNat)
    (Nat.zero_le (min remaining _))
    limits.sanitized.maxChunkSize.toNat_lt
  rw [← buildBatch] at hpos hfull
  rw [h] at hlen hbatch hpos hfull
  dsimp only at hlen hbatch hpos hfull
  obtain ⟨hcount, hsize, hdata⟩ := limits.positive_sanitized
  have hspace := Nat.mul_pos hcount hsize
  refine ⟨hbatch, hpos, by omega, by omega, by omega, fun hleft => ?_⟩
  by_cases hspent : len = limits.sanitized.maxDataSize.toNat
  · exact .inr hspent
  · obtain ⟨hall, heach⟩ := hfull (by omega) hsize
    exact .inl ⟨hall, fun c hc => UInt32.toNat_inj.1 (heach c (dropLast_subset _ hc))⟩

/-- Three bytes under the limits that a copy starts with. -/
theorem buildBatch_tiles_threeBytes :
    buildBatch 5 7 3 ServerSideCopyLimits.conservative.sanitized = ([⟨5, 7, 3⟩], 3) ∧
      IsBatch 5 7 16 (1024 * 1024) 3 [⟨5, 7, 3⟩] :=
  ⟨by decide, (@buildBatch_tiles 5 7 3 3 _ .conservative (by decide) (by decide) (by decide)
    (by decide)).1⟩

section Range

variable {σ : Type} (execute : σ → IoctlRequest → Except Error Frame × σ) (dest : FileId)
  (sourceKey : ResumeKey)

def copyChunks (chunks : List CopyChunk) : Prog σ Error CopyChunkOutcome := fun s =>
  let (answer, s') := execute s (copyRequest dest sourceKey chunks)
  some (copyOutcome answer, s')

variable (sourceOffset destOffset length : UInt64)

def copyLoop : ℕ → ServerSideCopyLimits → ℕ → Prog σ Error ℕ
  | 0, _, _ => Prog.diverge
  | fuel + 1, limits, copied =>
    if copied < length.toNat then do
      let (chunks, batchLen) := buildBatch (sourceOffset.toNat + copied) (destOffset.toNat + copied)
        (length.toNat - copied) limits
      match ← copyChunks execute dest sourceKey chunks with
      | .copied result =>
        -- A success without progress would keep the loop going.
        if result.totalBytesWritten = 0 then
          Prog.fail (.invalidData "server-side copy reported success but wrote 0 bytes")
        else
          copyLoop fuel limits (copied + min result.totalBytesWritten.toNat batchLen)
      | .rejected advertised =>
        let sane := advertised.sanitized
        if sane = limits then
          Prog.fail (.invalidData
            "server rejected server-side copy without advertising smaller limits")
        else
          copyLoop fuel sane copied
    else pure copied

def serverSideCopyRange (fuel : ℕ) : Prog σ Error ℕ :=
  if length = 0 then pure 0
  else
    copyLoop execute dest sourceKey sourceOffset destOffset length fuel
      ServerSideCopyLimits.conservative.sanitized 0

variable {execute dest sourceKey sourceOffset destOffset length}

/-! ## One pass of the loop -/

def passBatch (sourceOffset destOffset length : UInt64) (limits : ServerSideCopyLimits)
    (copied : ℕ) : List CopyChunk × ℕ :=
  buildBatch (sourceOffset.toNat + copied) (destOffset.toNat + copied) (length.toNat - copied)
    limits

def passStep (execute : σ → IoctlRequest → Except Error Frame × σ) (dest : FileId)
    (sourceKey : ResumeKey) (sourceOffset destOffset length : UInt64)
    (limits : ServerSideCopyLimits) (copied : ℕ) (s : σ) : Except Error Frame × σ :=
  execute s (copyRequest dest sourceKey (passBatch sourceOffset destOffset length limits copied).1)

variable {limits : ServerSideCopyLimits} {src dst size len : ℕ} {chunks : List CopyChunk}

lemma copyLoop_succ {fuel copied : ℕ} {s : σ} (hcopied : copied < length.toNat) :
    copyLoop execute dest sourceKey sourceOffset destOffset length (fuel + 1) limits copied s =
      match copyOutcome (passStep execute dest sourceKey sourceOffset destOffset length limits
          copied s).1, (passStep execute dest sourceKey sourceOffset destOffset length limits
          copied s).2 with
      | .ok (.copied result), s' =>
        if result.totalBytesWritten = 0 then
          some (.error (.invalidData "server-side copy reported success but wrote 0 bytes"), s')
        else
          copyLoop execute dest sourceKey sourceOffset destOffset length fuel limits
            (copied + min result.totalBytesWritten.toNat
              (passBatch sourceOffset destOffset length limits copied).2) s'
      | .ok (.rejected advertised), s' =>
        if advertised.sanitized = limits then
          some (.error (.invalidData
            "server rejected server-side copy without advertising smaller limits"), s')
        else
          copyLoop execute dest sourceKey sourceOffset destOffset length fuel
            advertised.sanitized copied s'
      | .error e, s' => some (.error e, s') := by
  have hrun : copyChunks execute dest sourceKey
      (passBatch sourceOffset destOffset length limits copied).1 s =
      some (copyOutcome (passStep execute dest sourceKey sourceOffset destOffset length limits
          copied s).1, (passStep execute dest sourceKey sourceOffset destOffset length limits
          copied s).2) := rfl
  rw [copyLoop, if_pos hcopied]
  refine (Prog.bind_apply _ _ _).trans ?_
  refine (congrArg (Option.bind · _) hrun).trans ?_
  generalize passStep execute dest sourceKey sourceOffset destOffset length limits copied s = step
  obtain ⟨answer, s'⟩ := step
  rw [Option.bind_some]
  dsimp only
  cases copyOutcome answer with
  | error e => rfl
  | ok outcome =>
    cases outcome with
    | copied result =>
      dsimp only
      split <;> rfl
    | rejected advertised =>
      dsimp only
      split <;> rfl

lemma passBatch_spec (limits : ServerSideCopyLimits) {copied : ℕ} (hcopied : copied ≤ length.toNat)
    (hsource : sourceOffset.toNat + length.toNat ≤ 2 ^ 64 - 1)
    (hdest : destOffset.toNat + length.toNat ≤ 2 ^ 64 - 1) :
    (passBatch sourceOffset destOffset length limits copied).2 =
        min (min (length.toNat - copied) limits.maxDataSize.toNat)
          (limits.maxChunks.toNat * limits.maxChunkSize.toNat) ∧
      IsBatch (sourceOffset.toNat + copied) (destOffset.toNat + copied) limits.maxChunks.toNat
        limits.maxChunkSize.toNat (passBatch sourceOffset destOffset length limits copied).2
        (passBatch sourceOffset destOffset length limits copied).1 :=
  buildBatch_spec limits (by omega) (by omega)

lemma unpack_passBatch (h : IsBatch src dst limits.maxChunks.toNat size len chunks) :
    ∃ c, SrvCopychunkCopy.unpack (.new (copyRequest dest sourceKey chunks).inputData) =
      .ok (⟨sourceKey.bytes, chunks.map CopyChunk.toSrv⟩, c) := by
  have hcount : chunks.length < 2 ^ 32 :=
    Nat.lt_of_le_of_lt h.count_le limits.maxChunks.toNat_lt
  exact SrvCopychunkCopy.unpack_pack sourceKey.length_eq (by rwa [length_map])

/-! ## Exactness -/

/-- **A server that copies what it says**: of the chunks it is sent for this source and this
destination it copies, in order, as many bytes as it reports; if it rejects them, it copies nothing.
`contents` is the destination. -/
structure CopiesPrefix {α : Type} (execute : σ → IoctlRequest → Except Error Frame × σ)
    (dest : FileId) (sourceKey : ResumeKey) (source : ℕ → α) (contents : σ → ℕ → α) : Prop where
  copied : ∀ s req chunks c result, req.ctlCode = fsctlSrvCopychunk → req.fileId = dest →
    SrvCopychunkCopy.unpack (.new req.inputData) = .ok (⟨sourceKey.bytes, chunks⟩, c) →
    copyOutcome (execute s req).1 = .ok (.copied result) →
    result.totalBytesWritten.toNat ≤ Ranges.total (chunks.map SrvCopychunk.piece) ∧
      contents (execute s req).2 =
        Ranges.copyUpTo source (chunks.map SrvCopychunk.piece) result.totalBytesWritten.toNat
          (contents s)
  rejected : ∀ s req chunks c limits, req.ctlCode = fsctlSrvCopychunk → req.fileId = dest →
    SrvCopychunkCopy.unpack (.new req.inputData) = .ok (⟨sourceKey.bytes, chunks⟩, c) →
    copyOutcome (execute s req).1 = .ok (.rejected limits) →
    contents (execute s req).2 = contents s

section Exact

variable {α : Type} {source : ℕ → α} {contents : σ → ℕ → α}
  (hserver : CopiesPrefix execute dest sourceKey source contents)
  (hsource : sourceOffset.toNat + length.toNat ≤ 2 ^ 64 - 1)
  (hdest : destOffset.toNat + length.toNat ≤ 2 ^ 64 - 1)
  {limits : ServerSideCopyLimits} {copied : ℕ} {s : σ}

include hserver hsource hdest

lemma contents_of_copied (hcopied : copied ≤ length.toNat) {result : CopyChunkResult}
    (hresult : copyOutcome (passStep execute dest sourceKey sourceOffset destOffset length limits
      copied s).1 = .ok (.copied result)) :
    result.totalBytesWritten.toNat ≤ (passBatch sourceOffset destOffset length limits copied).2 ∧
      contents (passStep execute dest sourceKey sourceOffset destOffset length limits copied s).2 =
        Ranges.copy source (sourceOffset.toNat + copied) (destOffset.toNat + copied)
          result.totalBytesWritten.toNat (contents s) := by
  obtain ⟨-, hbatch⟩ := passBatch_spec limits hcopied hsource hdest
  obtain ⟨c, hparse⟩ := unpack_passBatch hbatch
  obtain ⟨hle, hcontents⟩ := hserver.copied _ _ _ _ _ rfl rfl hparse hresult
  rw [map_map] at hle hcontents
  change _ ≤ Ranges.total (pieces _) at hle
  change _ = Ranges.copyUpTo source (pieces _) _ _ at hcontents
  rw [hbatch.total_eq] at hle
  rw [Ranges.copyUpTo_of_contiguous _ hbatch.contiguous, hbatch.total_eq, Nat.min_eq_left hle]
    at hcontents
  exact ⟨hle, hcontents⟩

lemma contents_of_rejected (hcopied : copied ≤ length.toNat) {advertised : ServerSideCopyLimits}
    (hresult : copyOutcome (passStep execute dest sourceKey sourceOffset destOffset length limits
      copied s).1 = .ok (.rejected advertised)) :
    contents (passStep execute dest sourceKey sourceOffset destOffset length limits copied s).2 =
      contents s := by
  obtain ⟨-, hbatch⟩ := passBatch_spec limits hcopied hsource hdest
  obtain ⟨c, hparse⟩ := unpack_passBatch hbatch
  exact hserver.rejected _ _ _ _ _ rfl rfl hparse hresult

lemma copyLoop_exact {fuel n : ℕ} {s' : σ} (hcopied : copied ≤ length.toNat)
    (hrun : copyLoop execute dest sourceKey sourceOffset destOffset length fuel limits copied s =
      some (.ok n, s')) :
    n = length.toNat ∧ contents s' =
      Ranges.copy source (sourceOffset.toNat + copied) (destOffset.toNat + copied)
        (length.toNat - copied) (contents s) := by
  -- The induction is on the fuel; `copied` bytes of the range are there before each pass.
  induction fuel generalizing limits copied s with
  | zero => cases hrun
  | succ fuel ih =>
    by_cases hmore : copied < length.toNat
    · rw [copyLoop_succ hmore] at hrun
      split at hrun
      · rename_i result hresult
        split at hrun
        · cases hrun
        · obtain ⟨hle, hcontents⟩ := contents_of_copied hserver hsource hdest hcopied hresult
          obtain ⟨hlen, -⟩ := passBatch_spec limits hcopied hsource hdest
          rw [Nat.min_eq_left hle] at hrun
          obtain ⟨hn, hrest⟩ := ih (by omega) hrun
          refine ⟨hn, ?_⟩
          rw [hrest, hcontents, ← Nat.add_assoc, ← Nat.add_assoc, Ranges.copy_copy]
          congr 1
          omega
      · rename_i advertised hresult
        split at hrun
        · cases hrun
        · obtain ⟨hn, hrest⟩ := ih hcopied hrun
          refine ⟨hn, ?_⟩
          rw [hrest, contents_of_rejected hserver hsource hdest hcopied hresult]
      · cases hrun
    · rw [copyLoop, if_neg hmore] at hrun
      obtain ⟨hn, rfl⟩ := Prod.mk.inj (Option.some.inj hrun)
      obtain rfl := Except.ok.inj hn
      have hdone : copied = length.toNat := by omega
      rw [hdone, Nat.sub_self, Ranges.copy_zero]
      exact ⟨rfl, rfl⟩

end Exact

/-- **A copy is exact**: whatever prefixes of the batches the server copies and whatever limits it
asks for, a call that returns `Ok` has copied the whole range, each byte to its own position, and
nothing else. -/
theorem serverSideCopyRange_exact {α : Type} {source : ℕ → α} {contents : σ → ℕ → α}
    (hserver : CopiesPrefix execute dest sourceKey source contents)
    (hsource : sourceOffset.toNat + length.toNat ≤ 2 ^ 64 - 1)
    (hdest : destOffset.toNat + length.toNat ≤ 2 ^ 64 - 1) {fuel n : ℕ} {s s' : σ}
    (hrun : serverSideCopyRange execute dest sourceKey sourceOffset destOffset length fuel s =
      some (.ok n, s')) :
    n = length.toNat ∧ contents s' =
      Ranges.copy source sourceOffset.toNat destOffset.toNat length.toNat (contents s) := by
  unfold serverSideCopyRange at hrun
  split at hrun
  · rename_i hzero
    obtain ⟨hn, rfl⟩ := Prod.mk.inj (Option.some.inj hrun)
    obtain rfl := Except.ok.inj hn
    rw [hzero]
    exact ⟨rfl, Ranges.copy_zero.symm⟩
  · exact copyLoop_exact hserver hsource hdest (Nat.zero_le _) hrun

/-! ## Limits -/

def Fits (limits : ServerSideCopyLimits) (chunks : List SrvCopychunk) : Prop :=
  chunks.length ≤ limits.maxChunks.toNat ∧
    (∀ c ∈ chunks, c.length.toNat ≤ limits.maxChunkSize.toNat) ∧
    Ranges.total (chunks.map SrvCopychunk.piece) ≤ limits.maxDataSize.toNat

instance (limits : ServerSideCopyLimits) (chunks : List SrvCopychunk) :
    Decidable (Fits limits chunks) :=
  inferInstanceAs (Decidable (_ ∧ _))

/-- **A server that enforces its limits**: it rejects a request exactly if it is not within them,
and says what they are; otherwise it copies all of it. -/
structure EnforcesLimits (execute : σ → IoctlRequest → Except Error Frame × σ) (dest : FileId)
    (sourceKey : ResumeKey) (limits : ServerSideCopyLimits) : Prop where
  accepted : ∀ s req chunks c, req.ctlCode = fsctlSrvCopychunk → req.fileId = dest →
    SrvCopychunkCopy.unpack (.new req.inputData) = .ok (⟨sourceKey.bytes, chunks⟩, c) →
    Fits limits chunks → ∃ frame resp, (execute s req).1 = .ok frame ∧
      frame.header.status = NtStatus.success ∧ parseCopychunkResponse frame.body = .ok resp ∧
      resp.totalBytesWritten.toNat = Ranges.total (chunks.map SrvCopychunk.piece)
  rejected : ∀ s req chunks c, req.ctlCode = fsctlSrvCopychunk → req.fileId = dest →
    SrvCopychunkCopy.unpack (.new req.inputData) = .ok (⟨sourceKey.bytes, chunks⟩, c) →
    ¬ Fits limits chunks → ∃ frame, (execute s req).1 = .ok frame ∧
      frame.header.status = NtStatus.invalidParameter ∧ parseCopychunkResponse frame.body =
        .ok ⟨limits.maxChunks, limits.maxChunkSize, limits.maxDataSize⟩

lemma copyOutcome_of_success {frame : Frame} {resp : SrvCopychunkResponse}
    (hstatus : frame.header.status = NtStatus.success)
    (hparse : parseCopychunkResponse frame.body = .ok resp) :
    copyOutcome (.ok frame) =
      .ok (.copied ⟨resp.chunksWritten, resp.totalBytesWritten.toUInt64⟩) := by
  show (if frame.header.status = NtStatus.invalidParameter then _ else
    if frame.header.status ≠ NtStatus.success then _ else _) = _
  rw [hstatus, if_neg (by decide), if_neg (not_not.2 rfl), hparse]
  rfl

lemma copyOutcome_of_invalidParameter {frame : Frame} {resp : SrvCopychunkResponse}
    (hstatus : frame.header.status = NtStatus.invalidParameter)
    (hparse : parseCopychunkResponse frame.body = .ok resp) :
    copyOutcome (.ok frame) =
      .ok (.rejected ⟨resp.chunksWritten, resp.chunkBytesWritten, resp.totalBytesWritten⟩) := by
  show (if frame.header.status = NtStatus.invalidParameter then _ else _) = _
  rw [if_pos hstatus, hparse]
  rfl

lemma IsBatch.len_le {count : ℕ} (h : IsBatch src dst count size len chunks) :
    len ≤ chunks.length * size := by
  rw [← h.total_eq, Ranges.total, pieces, map_map]
  have hsum := sum_le_card_nsmul (chunks.map (Ranges.Piece.length ∘ fun c => c.toSrv.piece))
    size (by
      intro n hn
      obtain ⟨c, hc, rfl⟩ := mem_map.1 hn
      exact h.size_le c hc)
  rw [length_map] at hsum
  exact hsum

lemma IsBatch.fits {count : ℕ} (h : IsBatch src dst count size len chunks)
    (hcount : count ≤ limits.maxChunks.toNat) (hsize : size ≤ limits.maxChunkSize.toNat)
    (hlen : len ≤ limits.maxDataSize.toNat) : Fits limits (chunks.map CopyChunk.toSrv) := by
  refine ⟨?_, ?_, ?_⟩
  · rw [length_map]
    exact h.count_le.trans hcount
  · intro c hc
    obtain ⟨chunk, hchunk, rfl⟩ := mem_map.1 hc
    exact (h.size_le chunk hchunk).trans hsize
  · rw [map_map]
    exact (Nat.le_of_eq h.total_eq).trans hlen

section Negotiation

variable {server limits : ServerSideCopyLimits}
  (hserver : EnforcesLimits execute dest sourceKey server)
  (hsource : sourceOffset.toNat + length.toNat ≤ 2 ^ 64 - 1)
  (hdest : destOffset.toNat + length.toNat ≤ 2 ^ 64 - 1) {copied : ℕ} {s : σ}

include hserver hsource hdest

lemma outcome_of_fits (hcopied : copied ≤ length.toNat)
    (hfits : Fits server
      ((passBatch sourceOffset destOffset length limits copied).1.map CopyChunk.toSrv)) :
    ∃ result, copyOutcome (passStep execute dest sourceKey sourceOffset destOffset length limits
      copied s).1 = .ok (.copied result) ∧ result.totalBytesWritten.toNat =
        (passBatch sourceOffset destOffset length limits copied).2 := by
  obtain ⟨-, hbatch⟩ := passBatch_spec limits hcopied hsource hdest
  obtain ⟨c, hparse⟩ := unpack_passBatch hbatch
  obtain ⟨frame, resp, hframe, hstatus, hresp, htotal⟩ :=
    hserver.accepted s _ _ _ rfl rfl hparse hfits
  refine ⟨⟨resp.chunksWritten, resp.totalBytesWritten.toUInt64⟩, ?_, ?_⟩
  · rw [passStep, hframe]
    exact copyOutcome_of_success hstatus hresp
  · rw [← hbatch.total_eq]
    rw [map_map] at htotal
    exact htotal

lemma outcome_of_not_fits (hcopied : copied ≤ length.toNat)
    (hfits : ¬ Fits server
      ((passBatch sourceOffset destOffset length limits copied).1.map CopyChunk.toSrv)) :
    copyOutcome (passStep execute dest sourceKey sourceOffset destOffset length limits
      copied s).1 = .ok (.rejected server) := by
  obtain ⟨-, hbatch⟩ := passBatch_spec limits hcopied hsource hdest
  obtain ⟨c, hparse⟩ := unpack_passBatch hbatch
  obtain ⟨frame, hframe, hstatus, hresp⟩ := hserver.rejected s _ _ _ rfl rfl hparse hfits
  rw [passStep, hframe]
  exact copyOutcome_of_invalidParameter hstatus hresp

end Negotiation

def Completes (execute : σ → IoctlRequest → Except Error Frame × σ) (dest : FileId)
    (sourceKey : ResumeKey) (sourceOffset destOffset length : UInt64)
    (limits : ServerSideCopyLimits) (copied : ℕ) (s : σ) : Prop :=
  ∃ fuel s', copyLoop execute dest sourceKey sourceOffset destOffset length fuel limits copied s =
    some (.ok length.toNat, s')

section Negotiation

variable {server limits : ServerSideCopyLimits}
  (hserver : EnforcesLimits execute dest sourceKey server)
  (hsource : sourceOffset.toNat + length.toNat ≤ 2 ^ 64 - 1)
  (hdest : destOffset.toNat + length.toNat ≤ 2 ^ 64 - 1) {copied : ℕ} {s : σ}

omit hserver hsource hdest in
lemma completes_of_eq (hdone : copied = length.toNat) :
    Completes execute dest sourceKey sourceOffset destOffset length limits copied s := by
  refine ⟨1, s, ?_⟩
  rw [copyLoop, if_neg (by omega), hdone]
  rfl

include hserver hsource hdest

lemma completes_of_fits (hpositive : limits.Positive) (hcopied : copied < length.toNat)
    (hfits : Fits server
      ((passBatch sourceOffset destOffset length limits copied).1.map CopyChunk.toSrv))
    (hrest : ∀ copied', copied < copied' → copied' ≤ length.toNat → ∀ s',
      Completes execute dest sourceKey sourceOffset destOffset length limits copied' s') :
    Completes execute dest sourceKey sourceOffset destOffset length limits copied s := by
  obtain ⟨result, hresult, htotal⟩ := outcome_of_fits (s := s) hserver hsource hdest hcopied.le hfits
  obtain ⟨hlen, -⟩ := passBatch_spec limits hcopied.le hsource hdest
  have hprod : 0 < limits.maxChunks.toNat * limits.maxChunkSize.toNat :=
    Nat.mul_pos hpositive.1 hpositive.2.1
  have hdata := hpositive.2.2
  have hpos : 0 < result.totalBytesWritten.toNat := by omega
  obtain ⟨fuel, s', hrun⟩ := hrest (copied + result.totalBytesWritten.toNat) (by omega) (by omega)
    (passStep execute dest sourceKey sourceOffset destOffset length limits copied s).2
  refine ⟨fuel + 1, s', ?_⟩
  have hne : result.totalBytesWritten ≠ 0 := by
    rintro hzero
    rw [hzero] at hpos
    exact absurd hpos (by decide)
  rw [copyLoop_succ hcopied, hresult]
  dsimp only
  rw [if_neg hne, ← htotal, Nat.min_self, hrun]

lemma completes_of_not_fits (hcopied : copied < length.toNat)
    (hfits : ¬ Fits server
      ((passBatch sourceOffset destOffset length limits copied).1.map CopyChunk.toSrv))
    (hne : server.sanitized ≠ limits)
    (hrest : ∀ s', Completes execute dest sourceKey sourceOffset destOffset length
      server.sanitized copied s') :
    Completes execute dest sourceKey sourceOffset destOffset length limits copied s := by
  have hresult := outcome_of_not_fits (s := s) hserver hsource hdest hcopied.le hfits
  obtain ⟨fuel, s', hrun⟩ := hrest
    (passStep execute dest sourceKey sourceOffset destOffset length limits copied s).2
  refine ⟨fuel + 1, s', ?_⟩
  rw [copyLoop_succ hcopied, hresult]
  dsimp only
  rw [if_neg hne, hrun]

lemma completes_of_forall_fits (hpositive : limits.Positive)
    (hfits : ∀ copied, copied < length.toNat → Fits server
      ((passBatch sourceOffset destOffset length limits copied).1.map CopyChunk.toSrv))
    (hcopied : copied ≤ length.toNat) :
    Completes execute dest sourceKey sourceOffset destOffset length limits copied s := by
  induction hleft : length.toNat - copied using Nat.strong_induction_on generalizing copied s with
  | _ left ih =>
    rcases Nat.eq_or_lt_of_le hcopied with hdone | hmore
    · exact completes_of_eq hdone
    · refine completes_of_fits hserver hsource hdest hpositive hmore (hfits copied hmore) ?_
      intro copied' hlt hle s'
      exact ih _ (by omega) hle rfl

lemma completes_of_sanitized_fits (hpositive : limits.Positive)
    (hsane : server.sanitized.Positive)
    (hfits : ∀ copied, copied < length.toNat → Fits server
      ((passBatch sourceOffset destOffset length server.sanitized copied).1.map CopyChunk.toSrv))
    (hcopied : copied ≤ length.toNat) :
    Completes execute dest sourceKey sourceOffset destOffset length limits copied s := by
  induction hleft : length.toNat - copied using Nat.strong_induction_on generalizing copied s with
  | _ left ih =>
    rcases Nat.eq_or_lt_of_le hcopied with hdone | hmore
    · exact completes_of_eq hdone
    · by_cases hfit : Fits server
        ((passBatch sourceOffset destOffset length limits copied).1.map CopyChunk.toSrv)
      · refine completes_of_fits hserver hsource hdest hpositive hmore hfit ?_
        intro copied' hlt hle s'
        exact ih _ (by omega) hle rfl
      · refine completes_of_not_fits hserver hsource hdest hmore hfit ?_ ?_
        · rintro rfl
          exact hfit (hfits copied hmore)
        · intro s'
          exact completes_of_forall_fits hserver hsource hdest hsane hfits hcopied

end Negotiation

section Negotiation

variable {server : ServerSideCopyLimits}
  (hserver : EnforcesLimits execute dest sourceKey server) (hpositive : server.Positive)
  (hsource : sourceOffset.toNat + length.toNat ≤ 2 ^ 64 - 1)
  (hdest : destOffset.toNat + length.toNat ≤ 2 ^ 64 - 1) {copied : ℕ} {s : σ}

include hpositive hsource hdest

lemma fits_sanitized (hlimits : server.maxChunkSize.toNat ≤ server.maxDataSize.toNat ∨
      length.toNat ≤ server.maxDataSize.toNat) (hcopied : copied < length.toNat) :
    Fits server
      ((passBatch sourceOffset destOffset length server.sanitized copied).1.map CopyChunk.toSrv) := by
  obtain ⟨hchunks, hsize, hdata⟩ := hpositive.toNat_sanitized
  obtain ⟨hlen, hbatch⟩ := passBatch_spec server.sanitized hcopied.le hsource hdest
  exact hbatch.fits hchunks.le hsize.le (by omega)

lemma not_fits_sanitized (hlimits : server.maxDataSize.toNat < server.maxChunkSize.toNat)
    (hlength : server.maxDataSize.toNat < length.toNat) :
    ¬ Fits server
      ((passBatch sourceOffset destOffset length server.sanitized 0).1.map CopyChunk.toSrv) := by
  obtain ⟨hchunks, hsize, hdata⟩ := hpositive.toNat_sanitized
  obtain ⟨hlen, hbatch⟩ := passBatch_spec server.sanitized (Nat.zero_le _) hsource hdest
  rintro ⟨-, -, htotal⟩
  rw [map_map] at htotal
  change Ranges.total (pieces _) ≤ _ at htotal
  have hprod : 1 * server.maxChunkSize.toNat ≤
      server.maxChunks.toNat * server.maxChunkSize.toNat :=
    Nat.mul_le_mul_right _ hpositive.1
  rw [hbatch.total_eq, hlen, hchunks, hsize, hdata] at htotal
  omega

omit hpositive in
lemma not_fits_conservative (hlength : server.maxDataSize.toNat < length.toNat)
    (hlimits : server.maxDataSize.toNat < 16 * 1024 * 1024 ∨ server.maxChunks.toNat < 16) :
    ¬ Fits server
      ((passBatch sourceOffset destOffset length .conservative 0).1.map CopyChunk.toSrv) := by
  obtain ⟨hlen, hbatch⟩ :=
    passBatch_spec ServerSideCopyLimits.conservative (Nat.zero_le _) hsource hdest
  rintro ⟨hcount, -, htotal⟩
  have hroom := hbatch.len_le
  rw [map_map] at htotal
  change Ranges.total (pieces _) ≤ _ at htotal
  have hchunks : ServerSideCopyLimits.conservative.maxChunks.toNat = 16 := rfl
  have hsize : ServerSideCopyLimits.conservative.maxChunkSize.toNat = 1024 * 1024 := rfl
  have hdata : ServerSideCopyLimits.conservative.maxDataSize.toNat = 16 * 1024 * 1024 := rfl
  rw [length_map] at hcount
  rw [hbatch.total_eq] at htotal
  rw [hchunks, hsize, hdata] at hlen
  rw [hsize] at hroom
  omega

include hserver

lemma not_completes (hchunk : server.maxDataSize.toNat < server.maxChunkSize.toNat)
    (hlength : server.maxDataSize.toNat < length.toNat)
    (hfirst : server.maxDataSize.toNat < 16 * 1024 * 1024 ∨ server.maxChunks.toNat < 16) :
    ¬ Completes execute dest sourceKey sourceOffset destOffset length .conservative 0 s := by
  have hne : server.sanitized ≠ .conservative := by
    intro heq
    obtain ⟨-, hsize, hdata⟩ := hpositive.toNat_sanitized
    have hsize' : ServerSideCopyLimits.conservative.maxChunkSize.toNat = 1024 * 1024 := rfl
    have hdata' : ServerSideCopyLimits.conservative.maxDataSize.toNat = 16 * 1024 * 1024 := rfl
    rw [heq] at hsize hdata
    omega
  have hmore : 0 < length.toNat := Nat.zero_lt_of_lt hlength
  rintro ⟨fuel, s', hrun⟩
  cases fuel with
  | zero => cases hrun
  | succ fuel =>
    rw [copyLoop_succ hmore, outcome_of_not_fits hserver hsource hdest (Nat.zero_le _)
      (not_fits_conservative hsource hdest hlength hfirst)] at hrun
    dsimp only at hrun
    rw [if_neg hne] at hrun
    cases fuel with
    | zero => cases hrun
    | succ fuel =>
      rw [copyLoop_succ hmore, outcome_of_not_fits hserver hsource hdest (Nat.zero_le _)
        (not_fits_sanitized hpositive hsource hdest hchunk hlength)] at hrun
      dsimp only at hrun
      rw [if_pos rfl] at hrun
      cases hrun

/-- **Honest limits.** Against a server that enforces positive limits the copy returns the length of
the range exactly if a request may hold a chunk of the largest size, or the range fits into one
request, or the batches the client starts with are accepted.

**Proof sketch.** The limits that the client makes of the server's differ from them only if a
request may hold less than a chunk. Then the second batch is a chunk that is too large for a
request, unless the range itself is small enough, and the same limits are advertised again. -/
theorem serverSideCopyRange_completes_iff :
    (∃ fuel s', serverSideCopyRange execute dest sourceKey sourceOffset destOffset length fuel s =
        some (.ok length.toNat, s')) ↔
      server.maxChunkSize.toNat ≤ server.maxDataSize.toNat ∨
        length.toNat ≤ server.maxDataSize.toNat ∨
        16 * 1024 * 1024 ≤ server.maxDataSize.toNat ∧ 16 ≤ server.maxChunks.toNat := by
  by_cases hzero : length = 0
  · subst hzero
    refine iff_of_true ⟨0, s, rfl⟩ (.inr (.inl ?_))
    exact Nat.zero_le _
  have hlength : 0 < length.toNat := by
    rcases Nat.eq_zero_or_pos length.toNat with h | h
    · exact absurd (UInt64.toNat_inj.1 h) hzero
    · exact h
  simp only [serverSideCopyRange, if_neg hzero, ServerSideCopyLimits.sanitized_conservative]
  constructor
  · rintro ⟨fuel, s', hrun⟩
    by_contra hcondition
    simp only [not_or, not_and_or, Nat.not_le] at hcondition
    obtain ⟨hchunk, hshort, hfirst⟩ := hcondition
    exact not_completes hserver hpositive hsource hdest hchunk hshort hfirst ⟨fuel, s', hrun⟩
  · intro hcondition
    show Completes execute dest sourceKey sourceOffset destOffset length .conservative 0 s
    have hstart : ServerSideCopyLimits.conservative.Positive := by decide
    by_cases hlimits : server.maxChunkSize.toNat ≤ server.maxDataSize.toNat ∨
        length.toNat ≤ server.maxDataSize.toNat
    · refine completes_of_sanitized_fits hserver hsource hdest hstart ?_ ?_ (Nat.zero_le _)
      · exact server.positive_sanitized
      · intro copied hcopied
        exact fits_sanitized hpositive hsource hdest hlimits hcopied
    · refine completes_of_forall_fits hserver hsource hdest hstart ?_ (Nat.zero_le _)
      intro copied hcopied
      obtain ⟨hlen, hbatch⟩ := passBatch_spec .conservative hcopied.le hsource hdest
      have hchunks : ServerSideCopyLimits.conservative.maxChunks.toNat = 16 := rfl
      have hsize : ServerSideCopyLimits.conservative.maxChunkSize.toNat = 1024 * 1024 := rfl
      have hdata : ServerSideCopyLimits.conservative.maxDataSize.toNat = 16 * 1024 * 1024 := rfl
      exact hbatch.fits (by omega) (by omega) (by omega)

end Negotiation

end Range

/-! ## A server -/

def copyAnswer (status : NtStatus) (resp : SrvCopychunkResponse) : Frame where
  header := { answerHeader status with command := .ioctl }
  body := IoctlResponse.pack 64
    { ctlCode := fsctlSrvCopychunk, fileId := ⟨0, 0⟩, flags := 0, outputData := resp.pack }
  raw := []

lemma parse_copyAnswer (status : NtStatus) (resp : SrvCopychunkResponse) :
    parseCopychunkResponse (copyAnswer status resp).body = .ok resp := by
  have hlen : resp.pack.length ≤ ReadCursor.maxUnpackBuffer := by
    simp only [SrvCopychunkResponse.pack, length_append, length_leBytes,
      ReadCursor.maxUnpackBuffer]
    omega
  obtain ⟨c, hioctl⟩ : ∃ c, IoctlResponse.unpack (.new (copyAnswer status resp).body) =
      .ok ({ ctlCode := fsctlSrvCopychunk, fileId := ⟨0, 0⟩, flags := 0, outputData := resp.pack },
        c) := IoctlResponse.unpack_pack hlen
  obtain ⟨c', hresp⟩ := resp.unpack_pack
  simp only [parseCopychunkResponse, hioctl, hresp, bind, Except.bind, pure, Except.pure]

/-- **A server that enforces its limits** and remembers the pieces that it has copied. -/
def enforcingServer (limits : ServerSideCopyLimits) (log : List Ranges.Piece) (req : IoctlRequest) :
    Except Error Frame × List Ranges.Piece :=
  match SrvCopychunkCopy.unpack (.new req.inputData) with
  | .error e => (.error e, log)
  | .ok (copy, _) =>
    let pieces := copy.chunks.map SrvCopychunk.piece
    if Fits limits copy.chunks then
      (.ok (copyAnswer NtStatus.success
        ⟨UInt32.ofNat copy.chunks.length, 0, UInt32.ofNat (Ranges.total pieces)⟩), log ++ pieces)
    else
      (.ok (copyAnswer NtStatus.invalidParameter
        ⟨limits.maxChunks, limits.maxChunkSize, limits.maxDataSize⟩), log)

section Enforcing

variable {limits : ServerSideCopyLimits} {log : List Ranges.Piece} {req : IoctlRequest}
  {copy : SrvCopychunkCopy} {c : ReadCursor}
  (hparse : SrvCopychunkCopy.unpack (.new req.inputData) = .ok (copy, c))

include hparse

lemma enforcingServer_of_fits (hfits : Fits limits copy.chunks) :
    enforcingServer limits log req =
      (.ok (copyAnswer NtStatus.success ⟨UInt32.ofNat copy.chunks.length, 0,
        UInt32.ofNat (Ranges.total (copy.chunks.map SrvCopychunk.piece))⟩),
        log ++ copy.chunks.map SrvCopychunk.piece) := by
  rw [enforcingServer, hparse]
  dsimp only
  rw [if_pos hfits]

lemma enforcingServer_of_not_fits (hfits : ¬ Fits limits copy.chunks) :
    enforcingServer limits log req =
      (.ok (copyAnswer NtStatus.invalidParameter
        ⟨limits.maxChunks, limits.maxChunkSize, limits.maxDataSize⟩), log) := by
  rw [enforcingServer, hparse]
  dsimp only
  rw [if_neg hfits]

end Enforcing

lemma enforcingServer_enforces (limits : ServerSideCopyLimits) (dest : FileId)
    (sourceKey : ResumeKey) : EnforcesLimits (enforcingServer limits) dest sourceKey limits where
  accepted log req chunks c _ _ hparse hfits := by
    refine ⟨_, _, congrArg Prod.fst (enforcingServer_of_fits hparse hfits), rfl,
      parse_copyAnswer NtStatus.success _, ?_⟩
    exact UInt32.toNat_ofNat_of_lt' (Nat.lt_of_le_of_lt hfits.2.2 limits.maxDataSize.toNat_lt)
  rejected log req chunks c _ _ hparse hfits :=
    ⟨_, congrArg Prod.fst (enforcingServer_of_not_fits hparse hfits), rfl,
      parse_copyAnswer NtStatus.invalidParameter _⟩

lemma enforcingServer_copies {α : Type} (limits : ServerSideCopyLimits) (dest : FileId)
    (sourceKey : ResumeKey) (source initial : ℕ → α) :
    CopiesPrefix (enforcingServer limits) dest sourceKey source
      fun log => Ranges.copyUpTo source log (Ranges.total log) initial where
  copied log req chunks c result _ _ hparse hresult := by
    by_cases hfits : Fits limits chunks
    · rw [enforcingServer_of_fits hparse hfits] at hresult ⊢
      rw [copyOutcome_of_success rfl (parse_copyAnswer NtStatus.success _)] at hresult
      cases hresult
      have htotal : (UInt32.ofNat (Ranges.total (chunks.map SrvCopychunk.piece))).toUInt64.toNat =
          Ranges.total (chunks.map SrvCopychunk.piece) :=
        UInt32.toNat_ofNat_of_lt' (Nat.lt_of_le_of_lt hfits.2.2 limits.maxDataSize.toNat_lt)
      dsimp only
      rw [htotal, Ranges.total_append, Ranges.copyUpTo_append]
      exact ⟨le_rfl, rfl⟩
    · rw [enforcingServer_of_not_fits hparse hfits,
        copyOutcome_of_invalidParameter rfl (parse_copyAnswer NtStatus.invalidParameter _)]
        at hresult
      cases hresult
  rejected log req chunks c advertised _ _ hparse hresult := by
    by_cases hfits : Fits limits chunks
    · rw [enforcingServer_of_fits hparse hfits,
        copyOutcome_of_success rfl (parse_copyAnswer NtStatus.success _)] at hresult
      cases hresult
    · rw [enforcingServer_of_not_fits hparse hfits]

def someKey : ResumeKey := ⟨replicate 24 7, rfl⟩

/-- Five bytes, of a server that allows two bytes in a request: after a rejection they are copied in
three requests. -/
theorem serverSideCopyRange_exact_fiveBytes :
    let run := serverSideCopyRange (enforcingServer ⟨1, 2, 2⟩) ⟨1, 2⟩ someKey 10 100 5 5 []
    ∃ log, run = some (.ok 5, log) ∧
      Ranges.copyUpTo (fun i => i) log (Ranges.total log) (fun _ => 0) =
        Ranges.copy (fun i => i) 10 100 5 fun _ => 0 := by
  have hrun : serverSideCopyRange (enforcingServer ⟨1, 2, 2⟩) ⟨1, 2⟩ someKey 10 100 5 5 [] =
      some (.ok 5, [⟨10, 100, 2⟩, ⟨12, 102, 2⟩, ⟨14, 104, 1⟩]) := by decide +kernel
  refine ⟨_, hrun, ?_⟩
  exact (serverSideCopyRange_exact
    (enforcingServer_copies ⟨1, 2, 2⟩ ⟨1, 2⟩ someKey (fun i => i) fun _ => 0)
    (by decide) (by decide) hrun).2

theorem serverSideCopyRange_completes_fiveBytes :
    ∃ fuel log, serverSideCopyRange (enforcingServer ⟨1, 2, 2⟩) ⟨1, 2⟩ someKey 10 100 5 fuel [] =
      some (.ok 5, log) :=
  (serverSideCopyRange_completes_iff (enforcingServer_enforces ⟨1, 2, 2⟩ ⟨1, 2⟩ someKey)
    (by decide) (by decide) (by decide)).2 (.inl (by decide))

/-- A server that allows chunks of four bytes and two bytes in a request never lets the client copy
three bytes: the client tries a chunk of three bytes twice. -/
theorem serverSideCopyRange_gives_up :
    EnforcesLimits (enforcingServer ⟨1, 4, 2⟩) ⟨1, 2⟩ someKey ⟨1, 4, 2⟩ ∧
      serverSideCopyRange (enforcingServer ⟨1, 4, 2⟩) ⟨1, 2⟩ someKey 0 0 3 2 [] =
        some (.error (.invalidData
          "server rejected server-side copy without advertising smaller limits"), []) ∧
      ¬ ∃ fuel log, serverSideCopyRange (enforcingServer ⟨1, 4, 2⟩) ⟨1, 2⟩ someKey 0 0 3 fuel [] =
        some (.ok 3, log) :=
  ⟨enforcingServer_enforces _ _ _, by decide +kernel,
    not_completes (enforcingServer_enforces _ _ _) (by decide) (by decide) (by decide) (by decide)
      (by decide) (by decide)⟩

end Smb2.Tree
