import Smb2.Client.Tree.PipelinedRead

set_option autoImplicit false

/-!
# Pipelined reads in any order

`read_pipelined_loop` and `read_pipelined_loop_with_progress` (`client/tree.rs`) keep a window of
READs in flight and take the answers in the order in which they come. The READs that are issued are
the first chunks of the file, without a gap or an overlap, at every moment. An answer
`STATUS_END_OF_FILE` launches nothing, and a failure ends the loop, so these need not be all chunks.

For fixed answers, no longer than what was asked for, the order decides nothing but which of several
failures is returned: how many READs are issued depends on how many of the answers are successes, and
each answer has its own place in the buffer.
-/

open List

namespace Smb2.Tree

open Connection (Frame)
open Transition (exec)

/-! ## The READs issued -/

/-- **A run of the loop**: READs complete in the given order. -/
def ReadPlan.loop (plan : ReadPlan) (variant : ReadVariant) (run : List Completion) :
    Option ReadState :=
  exec (ReadState.step plan variant) (ReadState.settle plan (.start plan)) run

def ReadPlan.read (plan : ReadPlan) (i : ℕ) : ℕ × ℕ := (plan.offset i, plan.thisChunk i)

/-- **How many READs are issued** in a run that begins with the variables `s`. After a failure the
loop has ended. -/
def issued (plan : ReadPlan) (variant : ReadVariant) : ReadLoop → List Completion → ℕ
  | s, [] => s.window.sent
  | s, c :: run =>
    match s.receive plan variant c with
    | .error _ => s.window.sent
    | .ok s' => issued plan variant s' run

/-- **READs that cover the first `size` bytes exactly once**, none of them empty or too long. -/
structure Partition (size maxRead : ℕ) (reads : List (ℕ × ℕ)) : Prop where
  covers : ∀ p, p < size ↔ ∃ r ∈ reads, r.1 ≤ p ∧ p < r.1 + r.2
  apart : reads.Pairwise fun r r' => r.1 + r.2 ≤ r'.1
  bounded : ∀ r ∈ reads, 0 < r.2 ∧ r.2 ≤ maxRead

namespace ReadPlan

variable {plan : ReadPlan} {k : ℕ}

lemma thisChunk_pos {i : ℕ} (h : i < plan.totalChunks) : 0 < plan.thisChunk i := by
  have hin := lt_totalChunks_iff.1 h
  have hpos := plan.chunkSize_pos
  rw [thisChunk_eq h]
  omega

lemma offset_add_thisChunk {i : ℕ} (h : i < plan.totalChunks) :
    plan.offset i + plan.thisChunk i = min plan.fileSize ((i + 1) * plan.chunkSize) := by
  have hin := lt_totalChunks_iff.1 h
  rw [thisChunk_eq h, Nat.succ_mul]
  rw [offset] at hin ⊢
  omega

lemma partition_reads (hk : k ≤ plan.totalChunks) :
    Partition (min plan.fileSize (k * plan.chunkSize)) plan.chunkSize
      ((range k).map plan.read) := by
  have hpos := plan.chunkSize_pos
  constructor
  · intro p
    constructor
    · intro hp
      have hdiv := Nat.div_add_mod p plan.chunkSize
      have hmod := Nat.mod_lt p hpos
      have hlt : p / plan.chunkSize < k := by
        rw [Nat.div_lt_iff_lt_mul hpos]
        omega
      refine ⟨plan.read (p / plan.chunkSize), mem_map_of_mem (mem_range.2 hlt), ?_, ?_⟩
      · show plan.offset (p / plan.chunkSize) ≤ p
        rw [offset, Nat.mul_comm]
        omega
      · show p < plan.offset (p / plan.chunkSize) + plan.thisChunk (p / plan.chunkSize)
        rw [offset_add_thisChunk (Nat.lt_of_lt_of_le hlt hk), Nat.succ_mul, Nat.mul_comm]
        omega
    · rintro ⟨r, hr, -, hlt⟩
      obtain ⟨i, hi, rfl⟩ := mem_map.1 hr
      have hik := mem_range.1 hi
      have hend : p < plan.offset i + plan.thisChunk i := hlt
      rw [offset_add_thisChunk (Nat.lt_of_lt_of_le hik hk)] at hend
      have hmono : (i + 1) * plan.chunkSize ≤ k * plan.chunkSize := Nat.mul_le_mul_right _ hik
      omega
  · rw [pairwise_map]
    refine pairwise_lt_range.imp_of_mem fun {i j} hi _ hij => ?_
    have hlt := Nat.lt_of_lt_of_le (mem_range.1 hi) hk
    show plan.offset i + plan.thisChunk i ≤ plan.offset j
    have hmono : (i + 1) * plan.chunkSize ≤ j * plan.chunkSize := Nat.mul_le_mul_right _ hij
    rw [offset_add_thisChunk hlt, offset]
    omega
  · intro r hr
    obtain ⟨i, hi, rfl⟩ := mem_map.1 hr
    have hlt := Nat.lt_of_lt_of_le (mem_range.1 hi) hk
    refine ⟨thisChunk_pos hlt, ?_⟩
    show plan.thisChunk i ≤ plan.chunkSize
    rw [thisChunk_eq hlt]
    omega

end ReadPlan

/-! ## Failures -/

/-- **The error that an answer ends the loop with**, whatever the state of the loop. -/
def Completion.failure (c : Completion) : Option Error :=
  match c.result with
  | .error e => some e
  | .ok frame =>
    if frame.header.status = NtStatus.endOfFile then none
    else if frame.header.status ≠ NtStatus.success then
      some (.protocol frame.header.status .read)
    else
      match ReadResponse.unpack (.new frame.body) with
      | .error e => some e
      | .ok _ => none

section Runs

variable {plan : ReadPlan} {variant : ReadVariant} {run : List Completion} {s s' : ReadLoop}
  {c : Completion}

lemma receive_failure (hcancel : c.cancel = false) :
    (c.failure = none ∧ ∃ s', s.receive plan variant c = .ok s') ∨
      ∃ e, c.failure = some e ∧ s.receive plan variant c = .error e := by
  fun_cases ReadLoop.receive plan variant s c <;> simp_all [Completion.failure]

lemma failure_of_ok (hcancel : c.cancel = false) (h : s.receive plan variant c = .ok s') :
    c.failure = none := by
  obtain ⟨hnone, -⟩ | ⟨e, -, herror⟩ := receive_failure hcancel
  · exact hnone
  · cases h.symm.trans herror

lemma failure_of_error {e : Error} (hcancel : c.cancel = false)
    (h : s.receive plan variant c = .error e) : c.failure = some e := by
  obtain ⟨-, s', hok⟩ | ⟨e', hsome, herror⟩ := receive_failure hcancel
  · cases h.symm.trans hok
  · rw [hsome, Except.error.inj (h.symm.trans herror)]

lemma exists_of_failed {e : Error} (hrun : plan.loop variant run = some (.returned (.error e))) :
    ∃ front c s, run = front ++ [c] ∧ plan.loop variant front = some (.running s) ∧
      c.chunk ∈ s.window.inFlight ∧ s.receive plan variant c = .error e := by
  have hsettle : ∀ s, ReadState.settle plan s ≠ .returned (.error e) := by
    intro s
    fun_cases ReadState.settle plan s <;> exact nofun
  rcases eq_nil_or_concat' run with rfl | ⟨front, c, rfl⟩
  · exact absurd (Option.some.inj hrun) (hsettle _)
  · unfold ReadPlan.loop at hrun
    rw [Transition.exec_append] at hrun
    obtain ⟨state, hfront, hlast⟩ := Option.bind_eq_some_iff.1 hrun
    obtain ⟨state', hstep, hend⟩ := Transition.exec_cons_eq_some.1 hlast
    obtain rfl : state' = .returned (.error e) := Option.some.inj hend
    revert hstep
    fun_cases ReadState.step plan variant state c <;> intro hstep
    case case2 =>
      cases hstep
      exact ⟨front, c, _, rfl, hfront, ‹_›, ‹_›⟩
    case case3 => exact absurd (Option.some.inj hstep) (hsettle _)
    all_goals cases hstep

/-! ## How many are issued -/

/-- **The account of a run**: the bookkeeping, the number of READs issued, which grows with every
answer that is not `STATUS_END_OF_FILE` up to the number of chunks, and that no answer failed. -/
structure Account (plan : ReadPlan) (variant : ReadVariant) (run : List Completion) (s : ReadLoop) :
    Prop where
  sound : ReadLoop.Sound plan run s
  sent : s.window.sent =
    min plan.totalChunks (maxPipelineWindow + (run.filter fun c => !c.isEof).length)
  issued : ∀ more, issued plan variant (.start plan) (run ++ more) = issued plan variant s more
  succeeded : (∀ c ∈ run, c.cancel = false) → ∀ c ∈ run, c.failure = none

lemma account_start (plan : ReadPlan) (variant : ReadVariant) :
    Account plan variant [] (.start plan) where
  sound := ReadLoop.sound_start plan
  sent := by
    simp only [ReadLoop.start, Window.sent_launchMany, Window.empty, filter_nil,
      length_nil]
    omega
  issued _ := rfl
  succeeded _ c hc := absurd hc not_mem_nil

lemma Account.receive (h : Account plan variant run s) (hmem : c.chunk ∈ s.window.inFlight)
    (hreceive : s.receive plan variant c = .ok s') : Account plan variant (run ++ [c]) s' where
  sound := h.sound.receive hmem hreceive
  sent := by
    have hsent := h.sent
    rw [(ReadLoop.receive_eq_ok hreceive).2.2, filter_append, length_append]
    by_cases hmore : ¬ c.isEof ∧ s.window.sent < plan.totalChunks
    · have hone : [c].filter (fun c => !c.isEof) = [c] := by
        simp [hmore.1]
      rw [if_pos hmore, hone, length_singleton]
      show s.window.sent + 1 = _
      omega
    · rw [if_neg hmore]
      show s.window.sent = _
      by_cases heof : c.isEof
      · have hnone : [c].filter (fun c => !c.isEof) = [] := by
          simp [heof]
        rw [hnone, length_nil]
        omega
      · have hall : ¬ s.window.sent < plan.totalChunks := fun hlt => hmore ⟨heof, hlt⟩
        omega
  issued more := by
    rw [append_assoc, h.issued, singleton_append, Tree.issued, hreceive]
  succeeded hcancel c' hc' := by
    rcases mem_append.1 hc' with hold | hnew
    · exact h.succeeded (fun c'' hc'' => hcancel c'' (mem_append_left _ hc'')) c' hold
    · obtain rfl := mem_singleton.1 hnew
      exact failure_of_ok (hcancel c' hc') hreceive

lemma account_of_loop {state : ReadState} (hrun : plan.loop variant run = some state) :
    ReadState.Holds plan (Account plan variant run) state :=
  ReadState.holds_of_exec (account_start plan variant)
    (fun _ _ _ _ h hmem hreceive => h.receive hmem hreceive) hrun

lemma Account.idle (h : Account plan variant run s)
    (hend : ¬ (s.chunksReceived < plan.totalChunks ∧ s.window.inFlight ≠ [])) :
    s.window.inFlight = [] := by
  have hcount := h.sound.accounted.length_eq
  have hreceived := h.sound.received
  have hle := h.sound.sent_le
  rw [length_map] at hcount
  by_contra hbusy
  have hpos := length_pos_iff.2 hbusy
  exact hend ⟨by omega, hbusy⟩

lemma exists_account {state : ReadState} (hrun : plan.loop variant run = some state) :
    ∃ front s, front <+: run ∧ Account plan variant front s ∧
      issued plan variant (.start plan) run = s.window.sent ∧
      (∀ d, state = .returned (.ok d) → front = run ∧ s.window.inFlight = [] ∧ d = s.data) := by
  have hholds := account_of_loop hrun
  cases state with
  | running s =>
    refine ⟨run, s, prefix_refl run, hholds, ?_, fun d hd => by cases hd⟩
    have := Account.issued hholds []
    rwa [append_nil] at this
  | returned result =>
    cases result with
    | ok d =>
      obtain ⟨s, haccount, rfl, hend⟩ := hholds
      refine ⟨run, s, prefix_refl run, haccount, ?_, fun d hd => ?_⟩
      · have := haccount.issued []
        rwa [append_nil] at this
      · cases hd
        exact ⟨rfl, haccount.idle hend, rfl⟩
    | error e =>
      obtain ⟨front, c, s, rfl, hfront, -, hreceive⟩ := exists_of_failed hrun
      have haccount : Account plan variant front s := account_of_loop hfront
      refine ⟨front, s, prefix_append .., haccount, ?_, fun d hd => by cases hd⟩
      rw [haccount.issued, Tree.issued, hreceive]

end Runs

/-! ## Fixed answers -/

def answered (answers : ℕ → Except Error Frame) (i : ℕ) : Completion := ⟨i, answers i, false⟩

section Fixed

variable {plan : ReadPlan} {variant : ReadVariant} {answers : ℕ → Except Error Frame}
  {run run' : List Completion} {s s' : ReadLoop} {c : Completion}

def Fixed (answers : ℕ → Except Error Frame) (run : List Completion) : Prop :=
  ∀ c ∈ run, c = answered answers c.chunk

lemma fixed_map (answers : ℕ → Except Error Frame) (order : List ℕ) :
    Fixed answers (order.map (answered answers)) := by
  intro c hc
  obtain ⟨i, -, rfl⟩ := mem_map.1 hc
  rfl

lemma Fixed.cancel (h : Fixed answers run) : ∀ c ∈ run, c.cancel = false := by
  intro c hc
  rw [h c hc]
  rfl

lemma Fixed.mem (h : Fixed answers run) (h' : Fixed answers run') (hc : c ∈ run)
    (hchunk : c.chunk ∈ run'.map Completion.chunk) : c ∈ run' := by
  obtain ⟨c', hc', hsame⟩ := mem_map.1 hchunk
  rwa [h c hc, ← hsame, ← h' c' hc']

lemma Account.nodup (h : Account plan variant run s) : (run.map Completion.chunk).Nodup :=
  (nodup_append.1 (h.sound.accounted.nodup_iff.2 nodup_range)).1

lemma Account.chunk_lt (h : Account plan variant run s) {i : ℕ}
    (hi : i ∈ run.map Completion.chunk) : i < s.window.sent :=
  mem_range.1 (h.sound.accounted.mem_iff.1 (mem_append_left _ hi))

lemma Account.mem_iff (h : Account plan variant run s) (hidle : s.window.inFlight = []) (i : ℕ) :
    i ∈ run.map Completion.chunk ↔ i < s.window.sent := by
  rw [(h.sound.accounted.perm_range hidle).mem_iff, mem_range]

variable {state : ReadState}

lemma sent_le_of_returned (hfixed : Fixed answers run) (haccount : Account plan variant run s)
    (hidle : s.window.inFlight = []) (hrun' : plan.loop variant run' = some state) :
    ReadState.Holds plan (fun t => Account plan variant run' t ∧
      (Fixed answers run' → t.window.sent ≤ s.window.sent)) state := by
  refine ReadState.holds_of_exec
    (Q := fun run' t => Account plan variant run' t ∧
      (Fixed answers run' → t.window.sent ≤ s.window.sent)) ⟨account_start plan variant, fun _ => ?_⟩
    (fun run' t c t' h hmem hreceive => ⟨h.1.receive hmem hreceive, fun hfixed' => ?_⟩) hrun'
  · have hfirst := (account_start plan variant).sent
    have hsent := haccount.sent
    rw [filter_nil, length_nil] at hfirst
    omega
  · obtain ⟨haccount', hbound⟩ := h
    have hle := hbound fun c' hc' => hfixed' c' (mem_append_left _ hc')
    have hnext := haccount'.receive hmem hreceive
    have hsubset : ∀ c' ∈ (run' ++ [c]).filter (fun c => !c.isEof),
        c' ∈ run.filter (fun c => !c.isEof) := by
      intro c' hc'
      obtain ⟨hin, heof⟩ := mem_filter.1 hc'
      have hlt : c'.chunk < t.window.sent := by
        rcases mem_append.1 hin with hold | hnew
        · exact haccount'.chunk_lt (mem_map_of_mem hold)
        · rw [mem_singleton.1 hnew]
          exact haccount'.sound.accounted.lt hmem
      have hdone : c'.chunk ∈ run.map Completion.chunk :=
        (haccount.mem_iff hidle c'.chunk).2 (by omega)
      exact mem_filter.2 ⟨hfixed'.mem hfixed hin hdone, heof⟩
    have hcount := (subperm_of_subset ((Nodup.of_map _ hnext.nodup).filter _)
      hsubset).length_le
    have hsent' := hnext.sent
    have hsent := haccount.sent
    omega

lemma placed_of_loop
    (hshort : ∀ i < plan.totalChunks, (answered answers i).data.length ≤ plan.thisChunk i)
    (hrun : plan.loop variant run = some state) :
    ReadState.Holds plan (fun t => Account plan variant run t ∧ (Fixed answers run →
      Overlay.Placed 0 plan.chunkSize (fun i => (answered answers i).data)
        (run.map Completion.chunk) t.data)) state := by
  refine ReadState.holds_of_exec
    (Q := fun run t => Account plan variant run t ∧ (Fixed answers run →
      Overlay.Placed 0 plan.chunkSize (fun i => (answered answers i).data)
        (run.map Completion.chunk) t.data))
    ⟨account_start plan variant, fun _ => Overlay.placed_replicate _⟩
    (fun run t c t' h hmem hreceive => ⟨h.1.receive hmem hreceive, fun hfixed => ?_⟩) hrun
  obtain ⟨haccount, hplaced⟩ := h
  have hbefore := hplaced fun c' hc' => hfixed c' (mem_append_left _ hc')
  have hoffset := haccount.sound.offset_lt hmem
  have hlength := haccount.sound.length
  have hchunk : c.chunk < plan.totalChunks := ReadPlan.lt_totalChunks_iff.2 hoffset
  have hfits : (answered answers c.chunk).data.length ≤ plan.chunkSize := by
    have := hshort c.chunk hchunk
    rw [ReadPlan.thisChunk_eq hchunk] at this
    omega
  have hc : c = answered answers c.chunk :=
    hfixed c (mem_append_right _ (mem_singleton_self c))
  have hdata : c.data = (answered answers c.chunk).data := congrArg Completion.data hc
  rw [(ReadLoop.receive_eq_ok hreceive).1, hdata, map_append]
  refine hbefore.write ?_ (haccount.sound.accounted.notMem hmem) hfits
  show plan.offset c.chunk ≤ _
  omega

lemma eq_of_returned (hshort : ∀ i < plan.totalChunks,
      (answered answers i).data.length ≤ plan.thisChunk i)
    (hfixed : Fixed answers run) (hfixed' : Fixed answers run') {d : Bytes}
    {r : Except Error Bytes} (hrun : plan.loop variant run = some (.returned (.ok d)))
    (hrun' : plan.loop variant run' = some (.returned r)) : r = .ok d := by
  obtain ⟨s, ⟨haccount, hplaced⟩, rfl, hend⟩ := placed_of_loop hshort hrun
  have hidle := haccount.idle hend
  cases r with
  | error e =>
    -- The READ that failed was answered in the other order too, and was no failure there.
    obtain ⟨front, c, t, rfl, hfront, hmem, hreceive⟩ := exists_of_failed hrun'
    obtain ⟨haccount', hbound⟩ := sent_le_of_returned hfixed haccount hidle hfront
    have hle := hbound fun c' hc' => hfixed' c' (mem_append_left _ hc')
    have hlt := haccount'.sound.accounted.lt hmem
    have hc : c ∈ front ++ [c] := mem_append_right _ (mem_singleton_self c)
    have hdone : c ∈ run :=
      hfixed'.mem hfixed hc ((haccount.mem_iff hidle c.chunk).2 (by omega))
    have hnone := haccount.succeeded hfixed.cancel c hdone
    have hsome := failure_of_error (hfixed'.cancel c hc) hreceive
    cases hnone.symm.trans hsome
  | ok d' =>
    obtain ⟨t, ⟨haccount', hplaced'⟩, rfl, hend'⟩ := placed_of_loop hshort hrun'
    have hidle' := haccount'.idle hend'
    have hsent : t.window.sent = s.window.sent := by
      obtain ⟨t', ⟨hsame, hle⟩, -, -⟩ := sent_le_of_returned hfixed haccount hidle hrun'
      obtain ⟨s', ⟨hsame', hle'⟩, -, -⟩ := sent_le_of_returned hfixed' haccount' hidle' hrun
      have h₁ := hle hfixed'
      have h₂ := hle' hfixed
      rw [hsame.sent, ← haccount'.sent] at h₁
      rw [hsame'.sent, ← haccount.sent] at h₂
      omega
    have hdata : t.data = s.data := by
      refine (hplaced' hfixed').unique (hplaced hfixed) ?_ fun i => ?_
      · rw [haccount'.sound.length, haccount.sound.length]
      · rw [haccount'.mem_iff hidle', haccount.mem_iff hidle, hsent]
    rw [hdata]

/-! ### The loop returns -/

def Waiting : ReadState → Prop
  | .running s => s.window.inFlight ≠ []
  | .returned _ => True

lemma waiting_settle (plan : ReadPlan) (s : ReadLoop) : Waiting (ReadState.settle plan s) := by
  unfold ReadState.settle
  split
  · rename_i hbusy
    exact hbusy.2
  · trivial

lemma waiting_of_loop (hrun : plan.loop variant run = some state) :
    Waiting state := by
  refine Transition.exec_invariant_of_step (fun state c state' _ h => ?_)
    (waiting_settle plan (.start plan)) hrun
  revert h
  fun_cases ReadState.step plan variant state c <;> intro h <;> cases h
  · trivial
  · exact waiting_settle plan _

lemma length_le_of_loop (hrun : plan.loop variant run = some state) :
    run.length ≤ plan.totalChunks := by
  have hcount : ∀ {run : List Completion} {s : ReadLoop}, Account plan variant run s →
      run.length + s.window.inFlight.length ≤ plan.totalChunks := by
    intro run s h
    have hsent := h.sound.accounted.length_eq
    have hle := h.sound.sent_le
    rw [length_map] at hsent
    omega
  have hholds := account_of_loop hrun
  cases state with
  | running s =>
    have := hcount hholds
    omega
  | returned result =>
    cases result with
    | ok d =>
      obtain ⟨s, haccount, -, -⟩ := hholds
      have := hcount haccount
      omega
    | error e =>
      obtain ⟨front, c, s, rfl, hfront, hmem, -⟩ := exists_of_failed hrun
      have hfrontCount := hcount (account_of_loop hfront)
      have hpos := length_pos_of_mem hmem
      rw [length_append, length_singleton]
      omega

lemma exists_returned (hrun : plan.loop variant run = some state)
    (answers : ℕ → Except Error Frame) :
    ∃ (more : List ℕ) (r : Except Error Bytes),
      plan.loop variant (run ++ more.map (answered answers)) = some (.returned r) := by
  have hlong : ∀ {as : List Completion} {t : ReadState},
      exec (ReadState.step plan variant) state as = some t →
        plan.loop variant (run ++ as) = some t := fun has => Transition.exec_trans hrun has
  obtain ⟨as, t, has, ⟨r, rfl⟩, hanswered⟩ : ∃ as t,
      exec (ReadState.step plan variant) state as = some t ∧ (∃ r, t = .returned r) ∧
        ∀ c ∈ as, c = answered answers c.chunk := Transition.exists_exec_of_bounded
    (n := plan.totalChunks)
    (fun as t has => by
      have := length_le_of_loop (hlong has)
      rw [length_append] at this
      omega)
    (fun as t has hnot => by
      cases t with
      | returned r => exact absurd ⟨r, rfl⟩ hnot
      | running s =>
        have hbusy : s.window.inFlight ≠ [] := waiting_of_loop (hlong has)
        obtain ⟨i, rest, hi⟩ := exists_cons_of_ne_nil hbusy
        have hmem : (answered answers i).chunk ∈ s.window.inFlight := by
          rw [hi]
          exact mem_cons_self
        refine ⟨answered answers i, ?_⟩
        simp only [ReadState.step, if_pos hmem]
        cases s.receive plan variant (answered answers i) with
        | error e => exact ⟨_, rfl, rfl⟩
        | ok s' => exact ⟨_, rfl, rfl⟩)
  refine ⟨as.map Completion.chunk, r, ?_⟩
  have hsame : (as.map Completion.chunk).map (answered answers) = as := by
    rw [map_map]
    exact (map_congr_left fun c hc => (hanswered c hc).symm).trans (map_id as)
  rw [hsame]
  exact hlong has

end Fixed

/-! ## Order independence -/

variable {plan : ReadPlan} {variant : ReadVariant}

lemma ReadPlan.chunkSize_le {fileSize : ℕ} {maxRead : UInt32}
    (h : ReadPlan.make fileSize maxRead = some plan) :
    plan.fileSize = fileSize ∧ plan.chunkSize ≤ maxRead.toNat := by
  unfold ReadPlan.make at h
  split at h
  · obtain rfl := Option.some.inj h
    refine ⟨rfl, ?_⟩
    show chunkSizeFor fileSize maxRead ≤ _
    unfold chunkSizeFor
    split <;> omega
  · cases h

lemma partition_of_loop {run : List Completion} {state : ReadState}
    (hrun : plan.loop variant run = some state) :
    Partition (min plan.fileSize (issued plan variant (.start plan) run * plan.chunkSize))
        plan.chunkSize ((range (issued plan variant (.start plan) run)).map plan.read) ∧
      ((∃ d, state = .returned (.ok d)) → (∀ c ∈ run, ¬ c.isEof) →
        Partition plan.fileSize plan.chunkSize
          ((range (issued plan variant (.start plan) run)).map plan.read)) := by
  obtain ⟨front, s, -, haccount, hissued, hreturned⟩ := exists_account hrun
  have hpartition := ReadPlan.partition_reads haccount.sound.sent_le
  rw [hissued]
  refine ⟨hpartition, ?_⟩
  rintro ⟨d, hd⟩ hnoEof
  obtain ⟨rfl, hidle, -⟩ := hreturned d hd
  -- All answers were successes, so the whole plan was issued.
  have hall : front.filter (fun c => !c.isEof) = front := by
    rw [filter_eq_self]
    intro c hc
    simpa using hnoEof c hc
  have hsent := haccount.sent
  have hcount := haccount.sound.accounted.length_eq
  rw [hall] at hsent
  rw [hidle, length_nil, length_map] at hcount
  have hwindow : 0 < maxPipelineWindow := by decide
  have htotal : s.window.sent = plan.totalChunks := by omega
  have hend : ¬ plan.totalChunks < plan.totalChunks := Nat.lt_irrefl _
  rw [ReadPlan.lt_totalChunks_iff, ReadPlan.offset] at hend
  rw [htotal] at hpartition ⊢
  rwa [Nat.min_eq_left (by omega)] at hpartition

/-- **Two orders agree**: both return the same data, or both a failure that one of their READs was
answered with. -/
def Agree (answers : ℕ → Except Error Frame) (order order' : List ℕ) (r r' : Except Error Bytes) :
    Prop :=
  (∃ d, r = .ok d ∧ r' = .ok d) ∨
    ∃ e e', r = .error e ∧ r' = .error e' ∧ (∃ i ∈ order, (answered answers i).failure = some e) ∧
      ∃ i ∈ order', (answered answers i).failure = some e'

lemma exists_failure {answers : ℕ → Except Error Frame} {order : List ℕ} {e : Error}
    (h : plan.loop variant (order.map (answered answers)) = some (.returned (.error e))) :
    ∃ i ∈ order, (answered answers i).failure = some e := by
  obtain ⟨front, c, s, hsplit, -, -, hreceive⟩ := exists_of_failed h
  have hc : c ∈ order.map (answered answers) := by
    rw [hsplit]
    exact mem_append_right _ (mem_singleton_self c)
  obtain ⟨i, hi, rfl⟩ := mem_map.1 hc
  exact ⟨i, hi, failure_of_error rfl hreceive⟩

lemma agree_of_loop {answers : ℕ → Except Error Frame}
    (hshort : ∀ i < plan.totalChunks, (answered answers i).data.length ≤ plan.thisChunk i)
    {order order' : List ℕ} {r r' : Except Error Bytes}
    (hrun : plan.loop variant (order.map (answered answers)) = some (.returned r))
    (hrun' : plan.loop variant (order'.map (answered answers)) = some (.returned r')) :
    Agree answers order order' r r' := by
  have hfixed := fixed_map answers order
  have hfixed' := fixed_map answers order'
  cases r with
  | ok d => exact .inl ⟨d, rfl, eq_of_returned hshort hfixed hfixed' hrun hrun'⟩
  | error e =>
    cases r' with
    | ok d => exact .inl ⟨d, eq_of_returned hshort hfixed' hfixed hrun' hrun, rfl⟩
    | error e' => exact .inr ⟨e, e', rfl, rfl, exists_failure hrun, exists_failure hrun'⟩

/-- **Pipelined reads partition the beginning of the file, and the order of the answers decides only
between failures.** Let the file be read with READs of at most `maxRead` bytes.

At every moment of a run of the loop, whatever the answers, the READs issued cover the beginning of
the file exactly once. When the loop has returned `Ok` and no answer was `STATUS_END_OF_FILE`, they
cover the whole file.

For fixed answers, none longer than what was asked for, any two orders in which the loop returns
agree, and every run comes to an end.

**Proof sketch.** The number of READs issued is the window and the number of answers that were not
`STATUS_END_OF_FILE`, up to the number of chunks. So an order cannot leave what another order has
issued when it returned `Ok`, and both have issued, and received, the same READs. The answers are
written to places of their own. -/
theorem pipelined_reads_agree {fileSize : ℕ} {maxRead : UInt32} {plan : ReadPlan}
    (hplan : ReadPlan.make fileSize maxRead = some plan) (variant : ReadVariant) :
    (∀ (run : List Completion) (state : ReadState), plan.loop variant run = some state →
      Partition (min fileSize (issued plan variant (.start plan) run * plan.chunkSize)) maxRead.toNat
          ((range (issued plan variant (.start plan) run)).map plan.read) ∧
        ((∃ d, state = .returned (.ok d)) → (∀ c ∈ run, ¬ c.isEof) →
          Partition fileSize maxRead.toNat
            ((range (issued plan variant (.start plan) run)).map plan.read))) ∧
    ∀ answers : ℕ → Except Error Frame,
      (∀ i < plan.totalChunks, (answered answers i).data.length ≤ plan.thisChunk i) →
      (∀ (order order' : List ℕ) (r r' : Except Error Bytes),
        plan.loop variant (order.map (answered answers)) = some (.returned r) →
        plan.loop variant (order'.map (answered answers)) = some (.returned r') →
        Agree answers order order' r r') ∧
      ∀ (order : List ℕ) (state : ReadState),
        plan.loop variant (order.map (answered answers)) = some state →
        ∃ (more : List ℕ) (r : Except Error Bytes),
          plan.loop variant ((order ++ more).map (answered answers)) = some (.returned r) := by
  obtain ⟨rfl, hle⟩ := ReadPlan.chunkSize_le hplan
  have hfits : ∀ {n : ℕ} {reads : List (ℕ × ℕ)}, Partition n plan.chunkSize reads →
      Partition n maxRead.toNat reads := fun h =>
    ⟨h.covers, h.apart, fun r hr => ⟨(h.bounded r hr).1, (h.bounded r hr).2.trans hle⟩⟩
  refine ⟨fun run state hrun => ?_, fun answers hshort => ⟨?_, ?_⟩⟩
  · obtain ⟨hbeginning, hwhole⟩ := partition_of_loop hrun
    exact ⟨hfits hbeginning, fun hreturned hnoEof => hfits (hwhole hreturned hnoEof)⟩
  · intro order order' r r' hrun hrun'
    exact agree_of_loop hshort hrun hrun'
  · intro order state hrun
    obtain ⟨more, r, hmore⟩ := exists_returned hrun answers
    refine ⟨more, r, ?_⟩
    rw [map_append]
    exact hmore

/-! ### Orders that differ -/

def answerOf (status : NtStatus) : Except Error Frame :=
  .ok { header := answerHeader status, body := [], raw := [] }

def ownNumber (i : ℕ) : Except Error Frame := (answerWith [UInt8.ofNat i]).result

def twoReads : ReadPlan := ⟨2, 1, by decide, by decide, by decide⟩

def bytewise : ReadPlan := ⟨34, 1, by decide, by decide, by decide⟩

theorem pipelined_reads_agree_twoReads :
    ReadPlan.make 2 1 = some twoReads ∧
      twoReads.loop .plain ([0, 1].map (answered ownNumber)) = some (.returned (.ok [0, 1])) ∧
      twoReads.loop .plain ([1, 0].map (answered ownNumber)) = some (.returned (.ok [0, 1])) ∧
      Agree ownNumber [0, 1] [1, 0] (.ok [0, 1]) (.ok [0, 1]) := by
  have hrun : twoReads.loop .plain ([0, 1].map (answered ownNumber)) =
      some (.returned (.ok [0, 1])) := by
    decide +kernel
  have hrun' : twoReads.loop .plain ([1, 0].map (answered ownNumber)) =
      some (.returned (.ok [0, 1])) := by
    decide +kernel
  refine ⟨rfl, hrun, hrun', ?_⟩
  have hplan : ReadPlan.make 2 1 = some twoReads := rfl
  exact ((pipelined_reads_agree hplan .plain).2 ownNumber (by decide +kernel)).1 _ _ _ _ hrun hrun'

/-- **The two ways in which orders and ranges differ.** All READs of the first window are answered
with `STATUS_END_OF_FILE`: 32 READs are issued for 34 bytes, and the call returns `Ok`. Two READs
fail in different ways: the one that is answered first decides what is returned. -/
theorem endOfFile_and_failures :
    (ReadPlan.make 34 1 = some bytewise ∧
      bytewise.loop .plain
          ((range 32).map (answered fun _ => answerOf NtStatus.endOfFile)) =
        some (.returned (.ok (replicate 34 0))) ∧
      issued bytewise .plain (.start bytewise)
        ((range 32).map (answered fun _ => answerOf NtStatus.endOfFile)) = 32 ∧
      ¬ Partition 34 1 ((range 32).map bytewise.read)) ∧
    bytewise.loop .plain
        ([0].map (answered fun i => .error (if i = 0 then .timeout else .disconnected))) =
      some (.returned (.error .timeout)) ∧
    bytewise.loop .plain
        ([1].map (answered fun i => .error (if i = 0 then .timeout else .disconnected))) =
      some (.returned (.error .disconnected)) := by
  refine ⟨⟨rfl, by decide +kernel, by decide +kernel, fun h => ?_⟩, by decide +kernel,
    by decide +kernel⟩
  obtain ⟨r, hr, -, hlt⟩ := (h.covers 33).1 (by decide)
  obtain ⟨i, hi, rfl⟩ := mem_map.1 hr
  have hi32 := mem_range.1 hi
  have hend : 33 < bytewise.offset i + bytewise.thisChunk i := hlt
  rw [ReadPlan.offset_add_thisChunk (Nat.lt_trans hi32 (by decide))] at hend
  have hone : bytewise.chunkSize = 1 := rfl
  rw [hone] at hend
  omega

end Smb2.Tree
