import Smb2.Client.Connection.Receiver
import Smb2.Lib.Overlay
import Smb2.Lib.Window
import Smb2.Msg.Read

set_option autoImplicit false

/-!
# Pipelined reads

`read_file_pipelined` and `read_file_pipelined_with_progress` (`client/tree.rs`): the file is cut
into chunks, a sliding window of READ requests is kept in flight, and each answer is copied to its
place in a buffer that was allocated, zeroed, for the size that CREATE reported. The answers come
in any order.

An answer may be shorter than what was asked for. The loops do not ask for the rest: what an
answer leaves out stays zero, and the call still returns `Ok`.

## Implementation notes

Sizes and offsets are natural numbers: no computation of the source on them wraps. Of a READ
request the offset and the length are kept; its other fields are constants. Clocks and log lines
are left out.
-/

open List Option

namespace Smb2.Tree

open Connection (Frame)

/-! ## The plan -/

inductive ReadVariant
  | plain
  | withProgress
deriving DecidableEq

def maxPipelineWindow : ℕ := 32

def pipelineChunk : ℕ := 512 * 1024

def chunkSizeFor (fileSize : ℕ) (maxRead : UInt32) : ℕ :=
  if fileSize ≤ maxRead.toNat then min fileSize maxRead.toNat else min pipelineChunk maxRead.toNat

/-- **How a file is read**: its size, as CREATE reported it, and the size of the chunks. -/
structure ReadPlan where
  fileSize : ℕ
  chunkSize : ℕ
  fileSize_pos : 0 < fileSize
  chunkSize_pos : 0 < chunkSize
  chunkSize_lt : chunkSize < 2 ^ 32

def ReadPlan.make (fileSize : ℕ) (maxRead : UInt32) : Option ReadPlan :=
  if h : 0 < fileSize ∧ 0 < maxRead.toNat then
    some
      { fileSize, chunkSize := chunkSizeFor fileSize maxRead, fileSize_pos := h.1
        chunkSize_pos := by
          unfold chunkSizeFor pipelineChunk
          split <;> omega
        chunkSize_lt := by
          have := maxRead.toNat_lt
          unfold chunkSizeFor
          split <;> omega }
  else none

namespace ReadPlan

variable (plan : ReadPlan)

def totalChunks : ℕ := (plan.fileSize + plan.chunkSize - 1) / plan.chunkSize

def offset (i : ℕ) : ℕ := i * plan.chunkSize

def thisChunk (i : ℕ) : ℕ :=
  if i = plan.totalChunks - 1 then plan.fileSize - plan.offset i else plan.chunkSize

variable {plan} {i : ℕ}

lemma lt_totalChunks_iff : i < plan.totalChunks ↔ plan.offset i < plan.fileSize := by
  have hpos := plan.chunkSize_pos
  rw [totalChunks, offset, Nat.lt_div_iff_mul_lt hpos]
  omega

lemma thisChunk_eq (h : i < plan.totalChunks) :
    plan.thisChunk i = min plan.chunkSize (plan.fileSize - plan.offset i) := by
  have hin := lt_totalChunks_iff.1 h
  unfold thisChunk
  split
  · rename_i hlast
    have hnext : ¬ i + 1 < plan.totalChunks := by omega
    rw [lt_totalChunks_iff, offset, Nat.succ_mul] at hnext
    rw [offset] at hin ⊢
    omega
  · rename_i hlast
    have hnext : i + 1 < plan.totalChunks := by omega
    rw [lt_totalChunks_iff, offset, Nat.succ_mul] at hnext
    rw [offset]
    omega

end ReadPlan

/-! ## The loop -/

structure Progress where
  bytesTransferred : ℕ
  totalBytes : Option ℕ
deriving DecidableEq

structure ReadLoop where
  data : Bytes
  window : Window
  chunksReceived : ℕ
  bytesReceived : ℕ
  reported : List Progress
deriving DecidableEq

/-- **A READ completes**: the chunk it was for, what `execute_with_credits` returned, and whether
the progress callback, if it is called, breaks. -/
structure Completion where
  chunk : ℕ
  result : Except Error Frame
  cancel : Bool
deriving DecidableEq

namespace ReadLoop

variable (plan : ReadPlan)

def start : ReadLoop where
  data := replicate plan.fileSize 0
  window := Window.empty.launchMany (min plan.totalChunks maxPipelineWindow)
  chunksReceived := 0
  bytesReceived := 0
  reported := []

def note (s : ReadLoop) (i : ℕ) : ReadLoop :=
  { s with window := s.window.complete i, chunksReceived := s.chunksReceived + 1 }

def store (s : ReadLoop) (i : ℕ) (answer : Bytes) : ReadLoop :=
  if answer = [] then s
  else
    { s with data := Overlay.write s.data (plan.offset i) answer,
             bytesReceived := s.bytesReceived +
               (min (plan.offset i + answer.length) s.data.length - plan.offset i) }

def report (s : ReadLoop) : ReadLoop :=
  { s with reported := s.reported ++ [⟨s.bytesReceived, some plan.fileSize⟩] }

def launchNext (s : ReadLoop) : ReadLoop :=
  if s.window.sent < plan.totalChunks then { s with window := s.window.launch } else s

def receive (variant : ReadVariant) (s : ReadLoop) (c : Completion) : Except Error ReadLoop :=
  match c.result with
  | .error e => .error e
  | .ok frame =>
    let s := s.note c.chunk
    -- The file is shorter than expected: nothing more is launched for this answer.
    if frame.header.status = NtStatus.endOfFile then .ok s
    else if frame.header.status ≠ NtStatus.success then
      .error (.protocol frame.header.status .read)
    else
      match ReadResponse.unpack (.new frame.body) with
      | .error e => .error e
      | .ok (resp, _) =>
        let s := s.store plan c.chunk resp.data
        match variant with
        | .plain => .ok (s.launchNext plan)
        | .withProgress =>
          if c.cancel then .error .cancelled else .ok ((s.report plan).launchNext plan)

end ReadLoop

inductive ReadState
  | running (s : ReadLoop)
  | returned (result : Except Error Bytes)
deriving DecidableEq

namespace ReadState

variable (plan : ReadPlan)

def settle (s : ReadLoop) : ReadState :=
  if s.chunksReceived < plan.totalChunks ∧ s.window.inFlight ≠ [] then .running s
  else .returned (.ok s.data)

def step (variant : ReadVariant) : ReadState → Completion → Option ReadState
  | .returned _, _ => none
  | .running s, c =>
    if c.chunk ∈ s.window.inFlight then
      match s.receive plan variant c with
      | .error e => some (.returned (.error e))
      | .ok s => some (settle plan s)
    else none

end ReadState

/-- **The whole call**: `opened` is what CREATE answered, `run` the READs in the order in which they
complete, `closed` what CLOSE answered. It is `none` if this is not how the call can go: the READs
are not those in flight, or the call has not returned. -/
def readFilePipelined (variant : ReadVariant) (maxRead : UInt32) (opened : Except Error ℕ)
    (run : List Completion) (closed : Except Error Unit) : Option (Except Error Bytes) :=
  match opened with
  | .error e => if run = [] then some (.error e) else none
  | .ok fileSize =>
    if fileSize = 0 then if run = [] then some (closed.map fun _ => []) else none
    else
      match ReadPlan.make fileSize maxRead with
      | none => none
      | some plan =>
        match Transition.exec (ReadState.step plan variant)
            (ReadState.settle plan (ReadLoop.start plan)) run with
        | some (.returned result) => some (result.bind fun data => closed.map fun _ => data)
        | _ => none

/-! ## One completed READ -/

def Completion.data (c : Completion) : Bytes :=
  match c.result with
  | .error _ => []
  | .ok frame =>
    if frame.header.status = NtStatus.success then
      match ReadResponse.unpack (.new frame.body) with
      | .ok (resp, _) => resp.data
      | .error _ => []
    else []

def Completion.isEof (c : Completion) : Bool :=
  match c.result with
  | .error _ => false
  | .ok frame => frame.header.status = NtStatus.endOfFile

namespace ReadLoop

variable {plan : ReadPlan} {variant : ReadVariant} {s s' : ReadLoop} {c : Completion}

lemma data_store (i : ℕ) (answer : Bytes) :
    (s.store plan i answer).data = Overlay.write s.data (plan.offset i) answer := by
  unfold store
  split
  · rename_i h
    simp [h, Overlay.write]
  · rfl

lemma window_store (plan : ReadPlan) (s : ReadLoop) (i : ℕ) (answer : Bytes) :
    (s.store plan i answer).window = s.window ∧
      (s.store plan i answer).chunksReceived = s.chunksReceived := by
  unfold store
  split <;> exact ⟨rfl, rfl⟩

lemma launchNext_eq (plan : ReadPlan) (s : ReadLoop) :
    (s.launchNext plan).data = s.data ∧ (s.launchNext plan).chunksReceived = s.chunksReceived ∧
      (s.launchNext plan).window =
        if s.window.sent < plan.totalChunks then s.window.launch else s.window := by
  unfold launchNext
  split <;> exact ⟨rfl, rfl, rfl⟩

lemma receive_cases (h : s.receive plan variant c = .ok s') :
    ∃ frame, c.result = .ok frame ∧
      ((frame.header.status = NtStatus.endOfFile ∧ s' = s.note c.chunk) ∨
        (frame.header.status = NtStatus.success ∧
          ∃ resp cursor t, ReadResponse.unpack (.new frame.body) = .ok (resp, cursor) ∧
            (t = (s.note c.chunk).store plan c.chunk resp.data ∨
              t = ((s.note c.chunk).store plan c.chunk resp.data).report plan) ∧
            s' = t.launchNext plan)) := by
  revert h
  fun_cases receive plan variant s c <;> intro h <;>
    first | obtain rfl := Except.ok.inj h | cases h
  · exact ⟨_, ‹_›, .inl ⟨‹_›, rfl⟩⟩
  · exact ⟨_, ‹_›, .inr ⟨not_not.1 ‹_›, _, _, _, ‹_›, .inl rfl, rfl⟩⟩
  · exact ⟨_, ‹_›, .inr ⟨not_not.1 ‹_›, _, _, _, ‹_›, .inr rfl, rfl⟩⟩

lemma receive_eq_ok (h : s.receive plan variant c = .ok s') :
    s'.data = Overlay.write s.data (plan.offset c.chunk) c.data ∧
      s'.chunksReceived = s.chunksReceived + 1 ∧
      s'.window =
        if ¬ c.isEof ∧ s.window.sent < plan.totalChunks then (s.window.complete c.chunk).launch
        else s.window.complete c.chunk := by
  obtain ⟨frame, hresult, ⟨heof, rfl⟩ | ⟨hsuccess, resp, cursor, t, hunpack, ht, rfl⟩⟩ :=
    receive_cases h
  · have hdata : c.data = [] := by
      simp only [Completion.data, hresult, heof]
      rfl
    have hisEof : c.isEof := by simp [Completion.isEof, hresult, heof]
    simp [hdata, hisEof, note, Overlay.write]
  · have hdata : c.data = resp.data := by
      simp [Completion.data, hresult, hsuccess, hunpack]
    have hisEof : c.isEof = false := by
      simp only [Completion.isEof, hresult, hsuccess]
      rfl
    have hstored : t.data = Overlay.write s.data (plan.offset c.chunk) resp.data ∧
        t.window = s.window.complete c.chunk ∧ t.chunksReceived = s.chunksReceived + 1 := by
      obtain ⟨hwindow, hreceived⟩ := window_store plan (s.note c.chunk) c.chunk resp.data
      rcases ht with rfl | rfl
      · exact ⟨data_store .., hwindow, hreceived⟩
      · exact ⟨data_store .., hwindow, hreceived⟩
    obtain ⟨hbuf, hwindow, hreceived⟩ := hstored
    obtain ⟨hbuf', hreceived', hwindow'⟩ := launchNext_eq plan t
    refine ⟨by rw [hbuf', hbuf, hdata], by rw [hreceived', hreceived], ?_⟩
    have hsent : (s.window.complete c.chunk).sent = s.window.sent := rfl
    rw [hwindow', hwindow, hsent]
    by_cases hmore : s.window.sent < plan.totalChunks
    · rw [if_pos hmore, if_pos ⟨by simp [hisEof], hmore⟩]
    · rw [if_neg hmore, if_neg fun hboth => hmore hboth.2]

end ReadLoop

/-! ## Invariants of the loop -/

namespace ReadState

variable {plan : ReadPlan} {variant : ReadVariant}

def Holds (plan : ReadPlan) (Q : ReadLoop → Prop) : ReadState → Prop
  | .running s => Q s
  | .returned (.ok d) => ∃ s, Q s ∧ d = s.data ∧
      ¬ (s.chunksReceived < plan.totalChunks ∧ s.window.inFlight ≠ [])
  | .returned (.error _) => True

lemma holds_settle {Q : ReadLoop → Prop} {s : ReadLoop} (h : Q s) :
    Holds plan Q (settle plan s) := by
  unfold settle
  split
  · exact h
  · rename_i hend
    exact ⟨s, h, rfl, hend⟩

/-- **Loop rule.** What holds before the first READ completes, and is kept by each completed READ
together with the list of those completed so far, holds of every run. -/
theorem holds_of_exec {Q : List Completion → ReadLoop → Prop} (hstart : Q [] (.start plan))
    (hstep : ∀ run s c s', Q run s → c.chunk ∈ s.window.inFlight →
      s.receive plan variant c = .ok s' → Q (run ++ [c]) s')
    {run : List Completion} {state : ReadState}
    (hrun : Transition.exec (step plan variant) (settle plan (.start plan)) run = some state) :
    Holds plan (Q run) state := by
  refine Transition.exec_history (I := fun run state => Holds plan (Q run) state)
    (holds_settle hstart) (fun run state c state' _ hQ h => ?_) hrun
  revert h
  fun_cases step plan variant state c <;> intro h <;> cases h
  · trivial
  · exact holds_settle (hstep run _ c _ hQ ‹_› ‹_›)

end ReadState

namespace ReadLoop

variable {plan : ReadPlan} {variant : ReadVariant} {run : List Completion} {s s' : ReadLoop}
  {c : Completion}

/-- **Bookkeeping**: the buffer has the size of the file, and the READs launched are chunks of the
plan, of which each has completed or is in flight. -/
structure Sound (plan : ReadPlan) (run : List Completion) (s : ReadLoop) : Prop where
  length : s.data.length = plan.fileSize
  accounted : s.window.Accounted (run.map Completion.chunk)
  sent_le : s.window.sent ≤ plan.totalChunks
  received : s.chunksReceived = run.length

lemma sound_start (plan : ReadPlan) : Sound plan [] (start plan) where
  length := length_replicate
  accounted := Window.accounted_empty.launchMany _
  sent_le := by
    simp only [start, Window.sent_launchMany, Window.empty]
    omega
  received := rfl

lemma Sound.offset_lt (h : Sound plan run s) (hmem : c.chunk ∈ s.window.inFlight) :
    plan.offset c.chunk < plan.fileSize :=
  ReadPlan.lt_totalChunks_iff.1 (lt_of_lt_of_le (h.accounted.lt hmem) h.sent_le)

lemma Sound.receive (h : Sound plan run s) (hmem : c.chunk ∈ s.window.inFlight)
    (hreceive : s.receive plan variant c = .ok s') : Sound plan (run ++ [c]) s' := by
  obtain ⟨hdata, hreceived, hwindow⟩ := receive_eq_ok hreceive
  have hoffset := h.offset_lt hmem
  have hcomplete := h.accounted.complete hmem
  have hlength := h.length
  refine ⟨?_, ?_, ?_, ?_⟩
  · rw [hdata, Overlay.length_write (by omega), hlength]
  · rw [hwindow, map_append]
    split
    · exact hcomplete.launch
    · exact hcomplete
  · rw [hwindow]
    split
    · rename_i hmore
      exact hmore.2
    · exact h.sent_le
  · rw [hreceived, h.received, length_append]
    rfl

end ReadLoop

/-! ## Honest servers -/

/-- **An honest answer** to the READ of a chunk: `STATUS_END_OF_FILE` if the chunk begins at or
behind the end of the file, or a success with some, not necessarily all, of the bytes asked for,
from the first one on. -/
def ReadPlan.Honest (plan : ReadPlan) (file : Bytes) (c : Completion) : Prop :=
  ∃ frame, c.result = .ok frame ∧
    ((frame.header.status = NtStatus.endOfFile ∧ file.length ≤ plan.offset c.chunk) ∨
      (frame.header.status = NtStatus.success ∧
        ∃ (resp : ReadResponse) (post : Bytes), frame.body = resp.pack ++ post ∧ resp.data ≠ [] ∧
          resp.data <+: (file.drop (plan.offset c.chunk)).take (plan.thisChunk c.chunk)))

/-- **The answer leaves out only zeros**: the bytes that were asked for and not sent are zero in
the file. A complete answer leaves out nothing. -/
def ReadPlan.leavesOnlyZeros (plan : ReadPlan) (file : Bytes) (c : Completion) : Bool :=
  (slice file (plan.offset c.chunk + c.data.length)
    (plan.offset c.chunk + plan.thisChunk c.chunk)).all (· = 0)

def gained (run : List Completion) (i : ℕ) : ℕ :=
  ((run.find? (·.chunk = i)).map (·.data.length)).getD 0

variable {run : List Completion}

lemma find?_eq_none_of_notMem {i : ℕ} (h : i ∉ run.map Completion.chunk) :
    run.find? (·.chunk = i) = none := by
  rw [find?_eq_none]
  intro c hc heq
  exact h (mem_map.2 ⟨c, hc, of_decide_eq_true heq⟩)

lemma gained_append {c : Completion} (h : c.chunk ∉ run.map Completion.chunk) :
    gained (run ++ [c]) = Function.update (gained run) c.chunk c.data.length := by
  funext i
  unfold gained
  rw [find?_append]
  by_cases hi : i = c.chunk
  · subst hi
    rw [find?_eq_none_of_notMem h, Function.update_self]
    simp
  · rw [Function.update_of_ne hi]
    have hother : [c].find? (·.chunk = i) = none := by simp [Ne.symm hi]
    rw [hother, or_none]

lemma gained_of_mem (hnodup : (run.map Completion.chunk).Nodup) {c : Completion} (hc : c ∈ run) :
    gained run c.chunk = c.data.length := by
  obtain ⟨c', hfind⟩ : ∃ c', run.find? (·.chunk = c.chunk) = some c' := by
    rw [← isSome_iff_exists, find?_isSome]
    exact ⟨c, hc, by simp⟩
  have hchunk : c'.chunk = c.chunk := by simpa using find?_some hfind
  have heq : c' = c :=
    inj_on_of_nodup_map hnodup (mem_of_find?_eq_some hfind) hc hchunk
  rw [gained, hfind, heq]
  rfl

namespace ReadLoop

variable {plan : ReadPlan} {variant : ReadVariant} {run : List Completion} {s s' : ReadLoop}
  {c : Completion} {file : Bytes}

lemma prefix_of_honest (hhonest : plan.Honest file c) (hchunk : c.chunk < plan.totalChunks)
    (hreceive : s.receive plan variant c = .ok s') :
    c.data <+: (file.drop (plan.offset c.chunk)).take plan.chunkSize := by
  obtain ⟨frame, hresult, hcases⟩ := receive_cases hreceive
  obtain ⟨frame', hresult', hanswer⟩ := hhonest
  obtain rfl : frame = frame' := Except.ok.inj (hresult.symm.trans hresult')
  rcases hcases with ⟨heof, -⟩ | ⟨hsuccess, resp, cursor, -, hunpack, -⟩
  · have hdata : c.data = [] := by
      simp only [Completion.data, hresult, heof]
      rfl
    rw [hdata]
    exact nil_prefix
  · have hdata : c.data = resp.data := by simp [Completion.data, hresult, hsuccess, hunpack]
    rcases hanswer with ⟨heof, -⟩ | ⟨-, resp', post, hbody, -, hbegins⟩
    · rw [hsuccess] at heof
      exact absurd heof (by decide)
    · have hthis : plan.thisChunk c.chunk ≤ plan.chunkSize := by
        rw [ReadPlan.thisChunk_eq hchunk]
        omega
      have hlong := hbegins.length_le
      rw [length_take] at hlong
      have hsmall : resp'.data.length < 2 ^ 32 := by
        have := plan.chunkSize_lt
        omega
      rw [hbody] at hunpack
      obtain rfl := ReadResponse.eq_of_unpack_pack hsmall hunpack
      rw [hdata]
      exact hbegins.trans (take_prefix_take_left hthis)

/-- **Content**: if the answers are honest, each chunk holds as much of the file as its answer
brought, and zeros elsewhere. -/
def Content (plan : ReadPlan) (file : Bytes) (run : List Completion) (s : ReadLoop) : Prop :=
  Sound plan run s ∧ ((∀ c ∈ run, plan.Honest file c) →
    Overlay.Filled 0 plan.chunkSize (gained run) file s.data)

lemma content_start (plan : ReadPlan) (file : Bytes) : Content plan file [] (start plan) :=
  ⟨sound_start plan, fun _ => Overlay.filled_replicate _⟩

lemma Content.receive (h : Content plan file run s) (hmem : c.chunk ∈ s.window.inFlight)
    (hreceive : s.receive plan variant c = .ok s') : Content plan file (run ++ [c]) s' := by
  obtain ⟨hsound, hfilled⟩ := h
  refine ⟨hsound.receive hmem hreceive, fun hhonest => ?_⟩
  have hnew := hsound.accounted.notMem hmem
  have hold : gained run c.chunk = 0 := by
    rw [gained, find?_eq_none_of_notMem hnew]
    rfl
  have hoffset := hsound.offset_lt hmem
  have hpiece := prefix_of_honest (hhonest c (by simp)) (ReadPlan.lt_totalChunks_iff.2 hoffset)
    hreceive
  have hlength := hsound.length
  rw [(receive_eq_ok hreceive).1, gained_append hnew]
  refine Overlay.Filled.write (hfilled fun c' hc' => hhonest c' (by simp [hc'])) ?_ hold hpiece
  show plan.offset c.chunk ≤ _
  omega

/-- **Progress**: if CREATE reported the length of the file, no honest answer is
`STATUS_END_OF_FILE`, so every completed READ launches the next chunk. -/
def Busy (plan : ReadPlan) (file : Bytes) (run : List Completion) (s : ReadLoop) : Prop :=
  Sound plan run s ∧ ((∀ c ∈ run, plan.Honest file c) → plan.fileSize = file.length →
    s.window.sent = min plan.totalChunks (maxPipelineWindow + run.length))

lemma busy_start (plan : ReadPlan) (file : Bytes) : Busy plan file [] (start plan) := by
  refine ⟨sound_start plan, fun _ _ => ?_⟩
  simp only [start, Window.sent_launchMany, Window.empty, length_nil]
  omega

lemma Busy.receive (h : Busy plan file run s) (hmem : c.chunk ∈ s.window.inFlight)
    (hreceive : s.receive plan variant c = .ok s') : Busy plan file (run ++ [c]) s' := by
  obtain ⟨hsound, hbusy⟩ := h
  refine ⟨hsound.receive hmem hreceive, fun hhonest hsize => ?_⟩
  have hsent := hbusy (fun c' hc' => hhonest c' (by simp [hc'])) hsize
  have hoffset := hsound.offset_lt hmem
  have hnotEof : ¬ c.isEof := by
    obtain ⟨frame, hresult, ⟨-, hend⟩ | ⟨hsuccess, -⟩⟩ := hhonest c (by simp)
    · omega
    · simp only [Completion.isEof, hresult, hsuccess]
      decide
  rw [(receive_eq_ok hreceive).2.2, length_append, length_singleton]
  by_cases hmore : s.window.sent < plan.totalChunks
  · rw [if_pos ⟨hnotEof, hmore⟩]
    show s.window.sent + 1 = _
    omega
  · rw [if_neg fun hboth => hmore hboth.2]
    show s.window.sent = _
    omega

end ReadLoop

/-! ## What the call returns -/

section Returned

variable {plan : ReadPlan} {variant : ReadVariant} {run : List Completion} {file d : Bytes}

lemma all_slice_iff {data : Bytes} {start stop : ℕ} {q : UInt8 → Bool} :
    (slice data start stop).all q ↔
      ∀ p, start ≤ p → p < stop → ∀ b, data[p]? = some b → q b := by
  rw [List.all_eq_true]
  constructor
  · intro h p hstart hstop b hb
    refine h b (List.mem_of_getElem? (i := p - start) ?_)
    rw [slice, List.getElem?_take, if_pos (by omega), List.getElem?_drop,
      show start + (p - start) = p by omega, hb]
  · intro h b hb
    obtain ⟨k, hk⟩ := List.getElem?_of_mem hb
    rw [slice, List.getElem?_take] at hk
    split at hk
    · rw [List.getElem?_drop] at hk
      exact h (start + k) (by omega) (by omega) b hk
    · cases hk

lemma length_of_returned
    (hrun : Transition.exec (ReadState.step plan variant)
      (ReadState.settle plan (ReadLoop.start plan)) run = some (.returned (.ok d))) :
    d.length = plan.fileSize := by
  obtain ⟨s, hsound, rfl, -⟩ := ReadState.holds_of_exec (ReadLoop.sound_start plan)
    (fun _ _ _ _ h hmem hreceive => h.receive hmem hreceive) hrun
  exact hsound.length

lemma perm_of_returned (hhonest : ∀ c ∈ run, plan.Honest file c)
    (hsize : plan.fileSize = file.length)
    (hrun : Transition.exec (ReadState.step plan variant)
      (ReadState.settle plan (ReadLoop.start plan)) run = some (.returned (.ok d))) :
    (run.map Completion.chunk).Perm (range plan.totalChunks) := by
  obtain ⟨s, ⟨hsound, hbusy⟩, -, hend⟩ := ReadState.holds_of_exec (ReadLoop.busy_start plan file)
    (fun _ _ _ _ h hmem hreceive => h.receive hmem hreceive) hrun
  have hsent := hbusy hhonest hsize
  have hcount := hsound.accounted.length_eq
  have hreceived := hsound.received
  rw [length_map] at hcount
  rw [hreceived] at hend
  have hidle : s.window.inFlight = [] := by
    by_contra hbusy
    have hpos := length_pos_iff.2 hbusy
    exact hend ⟨by have := hsound.sent_le; omega, hbusy⟩
  have htotal : s.window.sent = plan.totalChunks := by
    rw [hidle, length_nil] at hcount
    have : maxPipelineWindow = 32 := rfl
    omega
  rw [← htotal]
  exact hsound.accounted.perm_range hidle

lemma leavesOnlyZeros_iff (hsize : plan.fileSize = file.length)
    (hperm : (run.map Completion.chunk).Perm (range plan.totalChunks)) :
    (∀ c ∈ run, plan.leavesOnlyZeros file c) ↔
      ∀ p, p < file.length → gained run (p / plan.chunkSize) ≤ p % plan.chunkSize →
        file[p]? = some 0 := by
  have hnodup : (run.map Completion.chunk).Nodup := hperm.nodup_iff.2 nodup_range
  have hpos := plan.chunkSize_pos
  have hlt : ∀ c ∈ run, c.chunk < plan.totalChunks := fun c hc =>
    mem_range.1 (hperm.mem_iff.1 (mem_map_of_mem hc))
  simp only [ReadPlan.leavesOnlyZeros, all_slice_iff, decide_eq_true_eq]
  constructor
  · intro h p hp hleft
    have hdiv := Nat.div_add_mod p plan.chunkSize
    have hmod := Nat.mod_lt p hpos
    have hoff : plan.offset (p / plan.chunkSize) = plan.chunkSize * (p / plan.chunkSize) :=
      Nat.mul_comm _ _
    have hchunk : p / plan.chunkSize < plan.totalChunks := by
      rw [ReadPlan.lt_totalChunks_iff]
      omega
    obtain ⟨c, hc, heq⟩ := mem_map.1 (hperm.mem_iff.2 (mem_range.2 hchunk))
    have hgained := gained_of_mem hnodup hc
    have hthis := ReadPlan.thisChunk_eq (hlt c hc)
    rw [heq] at hgained hthis
    obtain ⟨b, hb⟩ : ∃ b, file[p]? = some b :=
      ⟨_, getElem?_eq_getElem hp⟩
    rw [hb, h c hc p (by rw [heq]; omega) (by rw [heq]; omega) b hb]
  · intro h c hc p hstart hstop b hb
    have hp : p < file.length := (List.getElem?_eq_some_iff.1 hb).1
    have hthis := ReadPlan.thisChunk_eq (hlt c hc)
    have hcell := (Overlay.cell_iff (i := c.chunk) (p := p) le_rfl).1
      ⟨show plan.offset c.chunk ≤ p by omega, show p < plan.offset c.chunk + plan.chunkSize by omega⟩
    have hdiv := Nat.div_add_mod p plan.chunkSize
    have hoff : plan.offset c.chunk = plan.chunkSize * c.chunk := Nat.mul_comm _ _
    have hzero := h p hp (by rw [hcell.1, gained_of_mem hnodup hc]; rw [hcell.1] at hdiv; omega)
    rw [hb] at hzero
    exact some.inj hzero

/-- **Pipelined reads.** If every answer is honest and the call returns `Ok`, what it returns is the
file exactly if CREATE reported the length of the file and no answer left out a byte that is not
zero.

**Proof sketch.** What is returned has the size that CREATE reported, so that has to be the length
of the file. Then no chunk begins behind its end, every answer brings data and launches the next
READ, and the loop ends with all chunks completed, each once. Position by position the buffer then
holds the file where an answer covered it and zero elsewhere. -/
theorem readFilePipelined_eq_file_iff {maxRead : UInt32} {fileSize : ℕ}
    {closed : Except Error Unit}
    (hhonest : ∀ plan, ReadPlan.make fileSize maxRead = some plan →
      ∀ c ∈ run, plan.Honest file c)
    (hok : readFilePipelined variant maxRead (.ok fileSize) run closed = some (.ok d)) :
    d = file ↔ fileSize = file.length ∧
      ∀ plan, ReadPlan.make fileSize maxRead = some plan →
        ∀ c ∈ run, plan.leavesOnlyZeros file c := by
  by_cases hzero : fileSize = 0
  · -- An empty file is not read at all.
    subst hzero
    have hmake : ReadPlan.make 0 maxRead = none := by simp [ReadPlan.make]
    have hnil : d = [] := by
      cases closed <;> simp_all [readFilePipelined, Except.map]
    subst hnil
    constructor
    · rintro rfl
      exact ⟨rfl, by simp [hmake]⟩
    · rintro ⟨hlength, -⟩
      exact (length_eq_zero_iff.1 hlength.symm).symm
  · obtain ⟨plan, hmake⟩ : ∃ plan, ReadPlan.make fileSize maxRead = some plan := by
      cases hmake : ReadPlan.make fileSize maxRead with
      | none => simp [readFilePipelined, hzero, hmake] at hok
      | some plan => exact ⟨plan, rfl⟩
    have hplan : plan.fileSize = fileSize := by
      unfold ReadPlan.make at hmake
      split at hmake
      · obtain rfl := some.inj hmake
        rfl
      · cases hmake
    have hrun : Transition.exec (ReadState.step plan variant)
        (ReadState.settle plan (ReadLoop.start plan)) run = some (.returned (.ok d)) := by
      simp only [readFilePipelined, hzero, hmake, if_false] at hok
      split at hok
      · rename_i result hexec
        rw [hexec]
        cases result <;> cases closed <;> simp_all [Except.bind, Except.map]
      · cases hok
    simp only [hmake, some.injEq, forall_eq'] at hhonest ⊢
    have hlength := length_of_returned hrun
    by_cases hsize : plan.fileSize = file.length
    · have hperm := perm_of_returned hhonest hsize hrun
      obtain ⟨s, ⟨-, hfilled⟩, rfl, -⟩ := ReadState.holds_of_exec
        (ReadLoop.content_start plan file)
        (fun _ _ _ _ h hmem hreceive => h.receive hmem hreceive) hrun
      rw [(hfilled hhonest).eq_iff (by omega), leavesOnlyZeros_iff hsize hperm]
      exact ⟨fun h => ⟨by omega, h⟩, fun h => h.2⟩
    · constructor
      · rintro rfl
        omega
      · rintro ⟨h, -⟩
        omega

/-! ## A short answer -/

def answerHeader (status : NtStatus) : Header where
  creditCharge := 1
  status
  command := .read
  credits := 1
  flags := HeaderFlags.serverToRedir
  nextCommand := 0
  messageId := 4
  treeId := some 1
  asyncId := none
  sessionId := 1
  signature := replicate 16 0

def answerWith (data : Bytes) : Completion where
  chunk := 0
  result := .ok
    { header := answerHeader NtStatus.success
      body := { dataOffset := 0x50, dataRemaining := 0, flags := 0, data : ReadResponse }.pack
      raw := [] }
  cancel := false

theorem readFilePipelined_eq_file_threeBytes :
    ([1, 2, 3] : Bytes) = [1, 2, 3] ↔ 3 = ([1, 2, 3] : Bytes).length ∧
      ∀ plan, ReadPlan.make 3 65536 = some plan →
        ∀ c ∈ [answerWith [1, 2, 3]], plan.leavesOnlyZeros [1, 2, 3] c := by
  have hok : readFilePipelined .plain 65536 (.ok 3) [answerWith [1, 2, 3]] (.ok ()) =
      some (.ok [1, 2, 3]) := by decide +kernel
  refine readFilePipelined_eq_file_iff ?_ hok
  intro plan hplan c hc
  obtain rfl := mem_singleton.1 hc
  obtain rfl := some.inj hplan
  exact ⟨_, rfl, .inr ⟨rfl, _, [], (append_nil _).symm, by decide, by decide⟩⟩

/-- **The answer to a READ of three bytes brings one of them**: both functions return `Ok` with
zeros for the other two. -/
theorem shortAnswer_zeroFilled :
    (∀ plan, ReadPlan.make 3 65536 = some plan → plan.Honest [1, 2, 3] (answerWith [1])) ∧
      readFilePipelined .plain 65536 (.ok 3) [answerWith [1]] (.ok ()) = some (.ok [1, 0, 0]) ∧
      readFilePipelined .withProgress 65536 (.ok 3) [answerWith [1]] (.ok ()) =
        some (.ok [1, 0, 0]) := by
  refine ⟨fun plan hplan => ?_, by decide +kernel, by decide +kernel⟩
  obtain rfl := some.inj hplan
  exact ⟨_, rfl, .inr ⟨rfl, _, [], (append_nil _).symm, by decide, by decide⟩⟩

end Returned

end Smb2.Tree
