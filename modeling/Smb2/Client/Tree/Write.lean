import Smb2.Client.Tree.PipelinedRead
import Smb2.Lib.Pipeline
import Smb2.Msg.Create
import Smb2.Msg.Write

set_option autoImplicit false

/-!
# Writing files

`write_file` with its compound and its pipelined path, `write_file_streamed` (`client/tree.rs`) and
`write_file_with_progress` (`client/mod.rs`). The data is cut into pieces, each piece is sent as a
WRITE at its offset, and the counts in the answers are added up. The pipelined and the streamed
loop keep up to 32 WRITEs in flight and take the answers in any order; the loop with progress waits
for each answer.

A server may take less of a piece than it was sent. No loop sends the rest: the next piece goes to
the offset behind the whole of the one before.

## Implementation notes

Of a WRITE request the offset and the data are kept; the other fields are constants. The counter
`in_flight` is the number of futures, `chunks_received` the number of answers. Offsets and totals
are natural numbers. Clocks and log lines are left out, and so are the closes whose result the
source drops.
-/

open List

namespace Smb2.Tree

open Connection (Frame)

/-! ## Answers -/

def checkStatus (command : Command) (answer : Except Error Frame) : Except Error Unit := do
  let frame ← answer
  if frame.header.status ≠ NtStatus.success then
    throw (.protocol frame.header.status command)

def openedFile (answer : Except Error Frame) : Except Error FileId := do
  let frame ← answer
  if frame.header.status ≠ NtStatus.success then
    throw (.protocol frame.header.status .create)
  let (resp, _) ← CreateResponse.unpack (.new frame.body)
  return resp.fileId

def writeCount (answer : Except Error Frame) : Except Error ℕ := do
  let frame ← answer
  if frame.header.status ≠ NtStatus.success then
    throw (.protocol frame.header.status .write)
  let (resp, _) ← WriteResponse.unpack (.new frame.body)
  return resp.count.toNat

lemma writeCount_of_success {frame : Frame} (h : frame.header.status = NtStatus.success) :
    writeCount (.ok frame) =
      (WriteResponse.unpack (.new frame.body)).map fun p => p.1.count.toNat := by
  show (if frame.header.status ≠ NtStatus.success then _ else _) = _
  rw [if_neg (not_not.2 h)]
  cases WriteResponse.unpack (.new frame.body) <;> rfl

lemma writeCount_of_failure {frame : Frame} (h : frame.header.status ≠ NtStatus.success) :
    writeCount (.ok frame) = .error (.protocol frame.header.status .write) := by
  show (if frame.header.status ≠ NtStatus.success then _ else _) = _
  rw [if_pos h]
  rfl

def confirmed (answer : Except Error Frame) : ℕ :=
  match writeCount answer with
  | .ok n => n
  | .error _ => 0

abbrev WriteFlight := Flight (Extent UInt8) (Except Error Frame)

def WriteFlight.acknowledged (flight : WriteFlight) : ℕ :=
  (flight.answered.map fun w => confirmed w.2).sum

/-! ## Where the pieces come from -/

/-- **A source of pieces**: `next` is the code's; `offset` and `rest` say where the next piece goes
and what is still to be sent, and the laws say that the pieces are the data in order. -/
structure WriteSource (σ : Type) where
  next : σ → Option (Extent UInt8) × σ
  offset : σ → ℕ
  rest : σ → Bytes
  next_some : ∀ {s s' : σ} {w : Extent UInt8}, next s = (some w, s') →
    w.offset = offset s ∧ offset s' = offset s + w.data.length ∧ rest s = w.data ++ rest s'
  next_none : ∀ {s s' : σ}, next s = (none, s') →
    rest s = [] ∧ offset s' = offset s ∧ rest s' = []

structure WritePlan where
  data : Bytes
  chunkSize : ℕ
  chunkSize_pos : 0 < chunkSize

namespace WritePlan

variable (plan : WritePlan)

def totalChunks : ℕ := (plan.data.length + plan.chunkSize - 1) / plan.chunkSize

def buildReq (i : ℕ) : Extent UInt8 :=
  let offset := i * plan.chunkSize
  ⟨offset, slice plan.data offset (min (offset + plan.chunkSize) plan.data.length)⟩

def next (sent : ℕ) : Option (Extent UInt8) × ℕ :=
  if sent < plan.totalChunks then (some (plan.buildReq sent), sent + 1) else (none, sent)

variable {plan}

lemma lt_totalChunks_iff {i : ℕ} : i < plan.totalChunks ↔ i * plan.chunkSize < plan.data.length := by
  have hpos := plan.chunkSize_pos
  rw [totalChunks, Nat.lt_div_iff_mul_lt hpos]
  omega

lemma length_buildReq (i : ℕ) :
    (plan.buildReq i).data.length =
      min (i * plan.chunkSize + plan.chunkSize) plan.data.length - i * plan.chunkSize := by
  simp only [buildReq, slice, length_take, length_drop]
  omega

lemma buildReq_append (i : ℕ) :
    (plan.buildReq i).data ++ plan.data.drop ((i + 1) * plan.chunkSize) =
      plan.data.drop (i * plan.chunkSize) := by
  have hnext : (i + 1) * plan.chunkSize = i * plan.chunkSize + plan.chunkSize := Nat.succ_mul ..
  have hchunk : (plan.buildReq i).data = (plan.data.drop (i * plan.chunkSize)).take plan.chunkSize := by
    simp only [buildReq, slice]
    rw [take_eq_take_iff, length_drop]
    omega
  rw [hchunk, hnext, ← drop_drop, take_append_drop]

def source (plan : WritePlan) : WriteSource ℕ where
  next := plan.next
  offset sent := min (sent * plan.chunkSize) plan.data.length
  rest sent := plan.data.drop (sent * plan.chunkSize)
  next_some {sent sent' w} h := by
    revert h
    fun_cases plan.next sent <;> intro h <;> cases h
    have hin := lt_totalChunks_iff.1 ‹_›
    have hnext : (sent + 1) * plan.chunkSize = sent * plan.chunkSize + plan.chunkSize :=
      Nat.succ_mul ..
    refine ⟨?_, ?_, (buildReq_append sent).symm⟩
    · show sent * plan.chunkSize = _
      omega
    · rw [length_buildReq, hnext]
      omega
  next_none {sent sent'} h := by
    revert h
    fun_cases plan.next sent <;> intro h <;> cases h
    have hlong : plan.data.length ≤ sent * plan.chunkSize :=
      not_lt.1 (mt lt_totalChunks_iff.2 ‹_›)
    exact ⟨drop_eq_nil_of_le hlong, rfl, drop_eq_nil_of_le hlong⟩

end WritePlan

/-- The variables that `next_wire_chunk` works on, the callback as the list of what it will return,
and the offset of the next WRITE. -/
structure StreamSource where
  callback : List (Except String Bytes)
  pendingData : Bytes
  pendingOffset : ℕ
  done : Bool
  callbackErr : Option String
  offset : ℕ

namespace StreamSource

def start (callback : List (Except String Bytes)) : StreamSource where
  callback
  pendingData := []
  pendingOffset := 0
  done := false
  callbackErr := none
  offset := 0

def supplied : List (Except String Bytes) → Bytes
  | [] => []
  | .error _ :: _ => []
  | .ok data :: callback => if data = [] then [] else data ++ supplied callback

variable (maxWrite : ℕ)

def nextWireChunk (s : StreamSource) : Option Bytes × StreamSource :=
  if s.pendingOffset < s.pendingData.length then
    let stop := min (s.pendingOffset + maxWrite) s.pendingData.length
    let piece := slice s.pendingData s.pendingOffset stop
    if stop ≥ s.pendingData.length then
      (some piece, { s with pendingData := [], pendingOffset := 0 })
    else (some piece, { s with pendingOffset := stop })
  else if s.done then (none, s)
  else
    match s.callback with
    | [] => (none, { s with done := true })
    | .error e :: callback => (none, { s with callback, done := true, callbackErr := some e })
    | .ok data :: callback =>
      if data = [] then (none, { s with callback, done := true })
      else if data.length ≤ maxWrite then (some data, { s with callback })
      else (some (data.take maxWrite),
        { s with callback, pendingData := data, pendingOffset := maxWrite })

def next (s : StreamSource) : Option (Extent UInt8) × StreamSource :=
  match s.nextWireChunk maxWrite with
  | (none, s') => (none, s')
  | (some piece, s') => (some ⟨s.offset, piece⟩, { s' with offset := s.offset + piece.length })

def rest (s : StreamSource) : Bytes :=
  s.pendingData.drop s.pendingOffset ++ if s.done then [] else supplied s.callback

variable {maxWrite} {s s' : StreamSource}

lemma nextWireChunk_some {piece : Bytes} (h : s.nextWireChunk maxWrite = (some piece, s')) :
    s.rest = piece ++ s'.rest := by
  revert h
  fun_cases nextWireChunk maxWrite s <;> intro h <;> try cases h
  · rename_i hpending stop taken hall
    obtain ⟨hpiece, rfl⟩ := Prod.mk.inj h
    obtain rfl := Option.some.inj hpiece
    have hall : taken = s.pendingData.drop s.pendingOffset := by
      refine take_of_length_le ?_
      rw [length_drop]
      omega
    simp [rest, hall]
  · rename_i hpending stop taken hsome
    obtain ⟨hpiece, rfl⟩ := Prod.mk.inj h
    obtain rfl := Option.some.inj hpiece
    have hstop : stop = s.pendingOffset + maxWrite := by omega
    have hcut : taken ++ s.pendingData.drop stop = s.pendingData.drop s.pendingOffset := by
      show slice s.pendingData s.pendingOffset stop ++ _ = _
      rw [hstop, slice, Nat.add_sub_cancel_left, ← drop_drop, take_append_drop]
    simp only [rest]
    rw [← append_assoc, hcut]
  · rename_i hnone hdone callback hcallback hdata hle
    have hnil : s.pendingData.drop s.pendingOffset = [] := drop_eq_nil_of_le (by omega)
    simp [rest, hnil, hdone, hcallback, supplied, hdata]
  · rename_i hnone hdone data callback hcallback hdata hlong
    have hnil : s.pendingData.drop s.pendingOffset = [] := drop_eq_nil_of_le (by omega)
    simp only [rest, hnil, hdone, hcallback, supplied, hdata, nil_append,
      Bool.false_eq_true, if_false]
    rw [← append_assoc, take_append_drop]

lemma nextWireChunk_none (h : s.nextWireChunk maxWrite = (none, s')) :
    s.rest = [] ∧ s'.offset = s.offset ∧ s'.rest = [] := by
  revert h
  fun_cases nextWireChunk maxWrite s <;> intro h <;> cases h
  all_goals
    have hnil : s.pendingData.drop s.pendingOffset = [] := drop_eq_nil_of_le (by omega)
    simp_all [rest, supplied]

def source (maxWrite : ℕ) : WriteSource StreamSource where
  next := next maxWrite
  offset := StreamSource.offset
  rest := rest
  next_some {s s' w} h := by
    revert h
    fun_cases next maxWrite s <;> intro h <;> cases h
    have hrest := nextWireChunk_some ‹_›
    exact ⟨rfl, rfl, hrest⟩
  next_none {s s'} h := by
    revert h
    fun_cases next maxWrite s <;> intro h <;> cases h
    exact nextWireChunk_none ‹_›

end StreamSource

def nextProgressChunk (data : Bytes) (maxWrite offset : ℕ) : Option (Extent UInt8) × ℕ :=
  if offset < data.length then
    let chunkSize := min (data.length - offset) maxWrite
    (some ⟨offset, slice data offset (offset + chunkSize)⟩, offset + chunkSize)
  else (none, offset)

variable {data : Bytes} {n : ℕ}

lemma nextProgressChunk_some {maxWrite offset offset' : ℕ} {w : Extent UInt8}
    (h : nextProgressChunk data maxWrite offset = (some w, offset')) :
    w.offset = offset ∧ offset' = offset + w.data.length ∧
      data.drop offset = w.data ++ data.drop offset' := by
  revert h
  fun_cases nextProgressChunk data maxWrite offset <;> intro h <;> cases h
  refine ⟨rfl, ?_, ?_⟩
  · simp only [slice, length_take, length_drop]
    omega
  · rw [slice, Nat.add_sub_cancel_left, ← drop_drop, take_append_drop]

lemma nextProgressChunk_none {maxWrite offset offset' : ℕ}
    (h : nextProgressChunk data maxWrite offset = (none, offset')) :
    data.drop offset = [] ∧ offset' = offset ∧ data.drop offset' = [] := by
  revert h
  fun_cases nextProgressChunk data maxWrite offset <;> intro h <;> cases h
  exact ⟨drop_eq_nil_of_le (by omega), rfl, drop_eq_nil_of_le (by omega)⟩

def progressSource (data : Bytes) (maxWrite : ℕ) : WriteSource ℕ where
  next := nextProgressChunk data maxWrite
  offset := id
  rest offset := data.drop offset
  next_some := nextProgressChunk_some
  next_none := nextProgressChunk_none

/-! ## The loop -/

/-- **A write loop**: its source, how many WRITEs it keeps in flight, whether it calls a progress
callback after each answer, and the error that its source left behind. -/
structure WriteLoop (σ : Type) extends WriteSource σ where
  window : ℕ
  withProgress : Bool
  failure : σ → Option Error

/-- **A WRITE is answered**: which of those in flight, what `execute_with_credits` returned, and
whether the progress callback, if it is called, breaks. -/
structure WriteAnswer where
  slot : ℕ
  result : Except Error Frame
  cancel : Bool
deriving DecidableEq

structure WriteVars (σ : Type) where
  source : σ
  flight : WriteFlight
  totalWritten : ℕ

inductive WriteState (σ : Type)
  | running (vars : WriteVars σ)
  | returned (result : Except Error ℕ) (flight : WriteFlight)

namespace WriteLoop

variable {σ : Type} (loop : WriteLoop σ)

def fill : ℕ → WriteVars σ → WriteVars σ
  | 0, vars => vars
  | n + 1, vars =>
    match loop.next vars.source with
    | (none, source) => { vars with source }
    | (some w, source) => fill n { vars with source, flight := vars.flight.launch w }

def settle (vars : WriteVars σ) : WriteState σ :=
  if vars.flight.inFlight ≠ [] then .running vars
  else
    match loop.failure vars.source with
    | some e => .returned (.error e) vars.flight
    | none => .returned (.ok vars.totalWritten) vars.flight

def start (source : σ) : WriteState σ :=
  loop.settle (loop.fill loop.window { source, flight := .empty, totalWritten := 0 })

/-- **One answered WRITE**: its count is added and the next piece launched. -/
def step : WriteState σ → WriteAnswer → Option (WriteState σ)
  | .returned .., _ => none
  | .running vars, a =>
    match vars.flight.answer a.slot a.result with
    | none => none
    | some flight =>
      match writeCount a.result with
      | .error e => some (.returned (.error e) flight)
      | .ok n =>
        if loop.withProgress ∧ a.cancel then some (.returned (.error .cancelled) flight)
        else
          some (loop.settle
            (loop.fill 1 { vars with flight, totalWritten := vars.totalWritten + n }))

/-! ### What a loop has sent -/

/-- **Invariant of a loop** that sends `data` from position `base` on: the WRITEs launched tile what
the source has handed out, the total is the sum of the counts, and the window is full unless the
source is exhausted. -/
structure Sends (base : ℕ) (data : Bytes) (vars : WriteVars σ) : Prop where
  tiles : ∃ sent, Tiles base sent vars.flight.launched ∧ sent ++ loop.rest vars.source = data ∧
    loop.offset vars.source = base + sent.length
  total : vars.totalWritten = vars.flight.acknowledged

variable {loop} {base : ℕ} {data : Bytes} {vars : WriteVars σ}

lemma Sends.fill (h : loop.Sends base data vars) (n : ℕ) :
    loop.Sends base data (loop.fill n vars) ∧
      ((loop.fill n vars).flight.inFlight.length = vars.flight.inFlight.length + n ∨
        loop.rest (loop.fill n vars).source = []) ∧
      (loop.rest vars.source = [] → loop.rest (loop.fill n vars).source = []) := by
  induction n generalizing vars with
  | zero => exact ⟨h, .inl rfl, id⟩
  | succ n ih =>
    obtain ⟨sent, htiles, hdata, hoffset⟩ := h.tiles
    unfold WriteLoop.fill
    split
    · rename_i source hnext
      obtain ⟨hrest, hoffset', hrest'⟩ := loop.next_none hnext
      refine ⟨⟨⟨sent, htiles, ?_, ?_⟩, h.total⟩, .inr hrest', fun _ => hrest'⟩
      · rw [← hdata, hrest, hrest']
      · rw [hoffset', hoffset]
    · rename_i w source hnext
      obtain ⟨hw, hoffset', hrest⟩ := loop.next_some hnext
      have hlaunched : loop.Sends base data
          { vars with source, flight := vars.flight.launch w } := by
        refine ⟨⟨sent ++ w.data, ?_, ?_, ?_⟩, h.total⟩
        · have htile := htiles.snoc w.data
          rwa [← hoffset, ← hw] at htile
        · rw [append_assoc, ← hrest, hdata]
        · rw [hoffset', hoffset, length_append]
          omega
      obtain ⟨hsends, hcount, hexhausted⟩ := ih hlaunched
      refine ⟨hsends, hcount.imp_left fun hlen => ?_, fun hnil => hexhausted ?_⟩
      · rw [hlen]
        simp only [Flight.launch, length_append, length_singleton]
        omega
      · rw [hrest] at hnil
        exact (append_eq_nil_iff.1 hnil).2

/-- The invariant with the window, while the loop runs and when it has returned `Ok`. -/
def Holds (loop : WriteLoop σ) (base : ℕ) (data : Bytes) : WriteState σ → Prop
  | .running vars => loop.Sends base data vars ∧
      (vars.flight.inFlight.length < loop.window → loop.rest vars.source = [])
  | .returned (.ok n) flight => Tiles base data flight.launched ∧ flight.inFlight = [] ∧
      n = flight.acknowledged
  | .returned (.error _) _ => True

lemma holds_settle (hwindow : 0 < loop.window) (h : loop.Sends base data vars)
    (hfull : vars.flight.inFlight.length < loop.window → loop.rest vars.source = []) :
    loop.Holds base data (loop.settle vars) := by
  unfold settle
  split
  · exact ⟨h, hfull⟩
  · rename_i hidle
    have hnil : vars.flight.inFlight = [] := not_not.1 hidle
    split
    · trivial
    · obtain ⟨sent, htiles, hdata, -⟩ := h.tiles
      have hrest := hfull (by simp [hnil, hwindow])
      rw [hrest, append_nil] at hdata
      exact ⟨hdata ▸ htiles, hnil, h.total⟩

lemma holds_start (hwindow : 0 < loop.window) (source : σ) :
    loop.Holds (loop.offset source) (loop.rest source) (loop.start source) := by
  have hempty : loop.Sends (loop.offset source) (loop.rest source)
      { source, flight := .empty, totalWritten := 0 } :=
    ⟨⟨[], .nil, rfl, rfl⟩, rfl⟩
  obtain ⟨hsends, hcount, -⟩ := hempty.fill loop.window
  refine holds_settle hwindow hsends fun hshort => ?_
  rcases hcount with hlen | hrest
  · rw [hlen] at hshort
    simp [Flight.empty] at hshort
  · exact hrest

lemma Sends.refill (h : loop.Sends base data vars)
    (hfull : vars.flight.inFlight.length < loop.window → loop.rest vars.source = [])
    {k n : ℕ} {result : Except Error Frame} {flight : WriteFlight}
    (hanswer : vars.flight.answer k result = some flight) (hcount : writeCount result = .ok n) :
    loop.Sends base data
        (loop.fill 1 { vars with flight, totalWritten := vars.totalWritten + n }) ∧
      ((loop.fill 1 { vars with flight, totalWritten := vars.totalWritten + n }).flight.inFlight.length
          < loop.window →
        loop.rest (loop.fill 1
          { vars with flight, totalWritten := vars.totalWritten + n }).source = []) := by
  obtain ⟨w, -, hlaunched, -, hanswered⟩ := Flight.answer_eq_some hanswer
  have hlength := Flight.length_inFlight_answer hanswer
  have hconfirmed : confirmed result = n := by rw [confirmed, hcount]
  have hreceived : loop.Sends base data
      { vars with flight, totalWritten := vars.totalWritten + n } := by
    refine ⟨?_, ?_⟩
    · simp only [hlaunched]
      exact h.tiles
    · show vars.totalWritten + n = _
      rw [WriteFlight.acknowledged, hanswered, h.total]
      simp [WriteFlight.acknowledged, hconfirmed]
  obtain ⟨hnext, hcount', hexhausted⟩ := hreceived.fill 1
  refine ⟨hnext, fun hshort => ?_⟩
  rcases hcount' with hlen | hrest
  · exact hexhausted (hfull (by rw [hlen] at hshort; simp only at hshort; omega))
  · exact hrest

lemma Holds.step (hwindow : 0 < loop.window) {state state' : WriteState σ} {a : WriteAnswer}
    (h : loop.Holds base data state) (hstep : loop.step state a = some state') :
    loop.Holds base data state' := by
  revert hstep
  fun_cases loop.step state a <;> intro hstep <;> cases hstep
  · trivial
  · trivial
  · obtain ⟨hsends, hfull⟩ := h
    obtain ⟨hnext, hfull'⟩ := hsends.refill hfull ‹_› ‹_›
    exact holds_settle hwindow hnext hfull'

/-- **A loop that returns `Ok`** has sent what its source had to give, every WRITE has been answered,
and it returns the sum of the counts. -/
theorem of_returned (hwindow : 0 < loop.window) {source : σ} {run : List WriteAnswer} {n : ℕ}
    {flight : WriteFlight}
    (hrun : Transition.exec loop.step (loop.start source) run = some (.returned (.ok n) flight)) :
    Tiles (loop.offset source) (loop.rest source) flight.launched ∧ flight.inFlight = [] ∧
      n = flight.acknowledged :=
  Transition.exec_invariant_of_step (I := loop.Holds (loop.offset source) (loop.rest source))
    (fun _ _ _ h hstep => h.step hwindow hstep) (holds_start hwindow source) hrun

end WriteLoop

/-! ## The calls -/

structure HandleAnswers where
  created : Except Error Frame
  flushed : Except Error Frame
  closed : Except Error Frame

abbrev WriteOutcome := Except Error ℕ × List (Extent UInt8 × Except Error Frame)

/-- After the loop of `write_file_pipelined` and `write_file_streamed`: flush if it succeeded, close
in any case. -/
def flushAndClose (handle : HandleAnswers) (result : Except Error ℕ) : Except Error ℕ := do
  if result.isOk then
    checkStatus .flush handle.flushed
  let bytesWritten ← result
  checkStatus .close handle.closed
  return bytesWritten

/-- A call that opens the file, runs a loop and finishes. It is `none` if this is not how the call
can go: an answer is for a WRITE that is not in flight, or the call has not returned. -/
def runWrite {σ : Type} (loop : WriteLoop σ) (source : σ) (handle : HandleAnswers)
    (run : List WriteAnswer) : Option WriteOutcome :=
  match openedFile handle.created with
  | .error e => if run = [] then some (.error e, []) else none
  | .ok _ =>
    match Transition.exec loop.step (loop.start source) run with
    | some (.returned result flight) => some (flushAndClose handle result, flight.answered)
    | _ => none

def allOrFirstErr (frames : List (Except Error Frame)) (expected : ℕ) :
    Except Error (List Frame) := do
  let out ← frames.mapM id
  let got := out.length
  if got ≠ expected then
    throw (.invalidData s!"compound response has {got} frames, expected {expected}")
  return out

/-- `write_file_compound`: CREATE, WRITE at offset 0, FLUSH and CLOSE in one frame. The statuses of
FLUSH and CLOSE are only logged. -/
def writeFileCompound (responses : Except Error (List (Except Error Frame))) : Except Error ℕ := do
  match ← allOrFirstErr (← responses) 4 with
  | [create, write, _, _] =>
    let _ ← openedFile (.ok create)
    writeCount (.ok write)
  | _ =>
    -- There are four frames.
    throw (.invalidData "unreachable")

def compoundAnswered (data : Bytes) (responses : Except Error (List (Except Error Frame))) :
    List (Extent UInt8 × Except Error Frame) :=
  match responses with
  | .ok (_ :: write :: _) => [(⟨0, data⟩, write)]
  | _ => []

def writeFilePipelined (maxWrite : UInt32) (data : Bytes)
    (responses : Except Error (List (Except Error Frame))) (handle : HandleAnswers)
    (run : List WriteAnswer) : Option WriteOutcome :=
  if data = [] then some (writeFileCompound responses, compoundAnswered data responses)
  else if hpos : 0 < maxWrite.toNat then
    let plan : WritePlan := ⟨data, maxWrite.toNat, hpos⟩
    runWrite { plan.source with window := maxPipelineWindow, withProgress := false,
                                failure := fun _ => none } 0 handle run
  else none

def writeFile (maxWrite : UInt32) (data : Bytes)
    (responses : Except Error (List (Except Error Frame))) (handle : HandleAnswers)
    (run : List WriteAnswer) : Option WriteOutcome :=
  if data.length ≤ maxWrite.toNat then
    some (writeFileCompound responses, compoundAnswered data responses)
  else writeFilePipelined maxWrite data responses handle run

def writeFileStreamed (maxWrite : UInt32) (callback : List (Except String Bytes))
    (handle : HandleAnswers) (run : List WriteAnswer) : Option WriteOutcome :=
  runWrite { StreamSource.source maxWrite.toNat with
             window := maxPipelineWindow, withProgress := false,
             failure := fun s => s.callbackErr.map Error.io } (.start callback) handle run

def writeFileWithProgress (maxWrite : UInt32) (data : Bytes) (handle : HandleAnswers)
    (run : List WriteAnswer) : Option WriteOutcome :=
  runWrite { progressSource data maxWrite.toNat with
             window := 1, withProgress := true, failure := fun _ => none } 0 handle run

/-- **A call that writes a file**, with what it is given and what the server answers. -/
inductive WriteCall
  | writeFile (maxWrite : UInt32) (data : Bytes)
      (responses : Except Error (List (Except Error Frame))) (handle : HandleAnswers)
      (run : List WriteAnswer)
  | writeFileStreamed (maxWrite : UInt32) (callback : List (Except String Bytes))
      (handle : HandleAnswers) (run : List WriteAnswer)
  | writeFileWithProgress (maxWrite : UInt32) (data : Bytes) (handle : HandleAnswers)
      (run : List WriteAnswer)

namespace WriteCall

def outcome : WriteCall → Option WriteOutcome
  | .writeFile maxWrite data responses handle run => Tree.writeFile maxWrite data responses handle run
  | .writeFileStreamed maxWrite callback handle run =>
    Tree.writeFileStreamed maxWrite callback handle run
  | .writeFileWithProgress maxWrite data handle run =>
    Tree.writeFileWithProgress maxWrite data handle run

def supplied : WriteCall → Bytes
  | .writeFile _ data _ _ _ => data
  | .writeFileStreamed _ callback _ _ => StreamSource.supplied callback
  | .writeFileWithProgress _ data _ _ => data

end WriteCall

lemma eq_ok_of_flushAndClose {handle : HandleAnswers} {result : Except Error ℕ}
    (h : flushAndClose handle result = .ok n) : result = .ok n := by
  cases result with
  | error e => cases h
  | ok m =>
    cases hflush : checkStatus .flush handle.flushed <;>
      cases hclose : checkStatus .close handle.closed <;>
      simp_all [flushAndClose, Except.isOk, Except.toBool, bind, Except.bind, pure, Except.pure]

/-- **Sent as a whole**: the WRITEs answered are a tiling of the data, and the number returned is
the sum of their counts. -/
def SentAll (data : Bytes) (n : ℕ) (answered : List (Extent UInt8 × Except Error Frame)) : Prop :=
  ∃ es, Tiles 0 data es ∧ (answered.map Prod.fst).Perm es ∧
    n = (answered.map fun w => confirmed w.2).sum

lemma sentAll_of_runWrite {σ : Type} {loop : WriteLoop σ} {source : σ} {handle : HandleAnswers}
    {run : List WriteAnswer} {answered : List (Extent UInt8 × Except Error Frame)}
    (hwindow : 0 < loop.window) (hbase : loop.offset source = 0)
    (h : runWrite loop source handle run = some (.ok n, answered)) :
    SentAll (loop.rest source) n answered := by
  revert h
  fun_cases runWrite loop source handle run <;> intro h <;> try cases h
  rename_i result flight hrun
  obtain ⟨hresult, rfl⟩ : flushAndClose handle result = .ok n ∧ flight.answered = answered := by
    simpa using h
  obtain rfl := eq_ok_of_flushAndClose hresult
  obtain ⟨htiles, hidle, htotal⟩ := WriteLoop.of_returned hwindow hrun
  rw [hbase] at htiles
  exact ⟨_, htiles, Flight.perm_of_idle hidle, htotal⟩

lemma eq_map_ok_of_mapM {frames : List (Except Error Frame)} {out : List Frame}
    (h : frames.mapM id = .ok out) : frames = out.map .ok := by
  induction frames generalizing out with
  | nil =>
    obtain rfl : [] = out := Except.ok.inj h
    rfl
  | cons frame frames ih =>
    rw [mapM_cons] at h
    cases frame with
    | error e => cases h
    | ok frame =>
      cases hrest : frames.mapM id with
      | error e => simp [hrest, bind, Except.bind] at h
      | ok rest =>
        obtain rfl : frame :: rest = out := by
          simpa [hrest, bind, Except.bind, pure, Except.pure] using h
        rw [ih hrest, map_cons]

lemma writeFileCompound_eq_ok {responses : Except Error (List (Except Error Frame))}
    (h : writeFileCompound responses = .ok n) :
    ∃ create write rest, responses = .ok (create :: write :: rest) ∧ writeCount write = .ok n := by
  cases responses with
  | error e => cases h
  | ok frames =>
    cases hout : frames.mapM id with
    | error e => simp [writeFileCompound, allOrFirstErr, hout, bind, Except.bind] at h
    | ok out =>
      have hframes := eq_map_ok_of_mapM hout
      by_cases hfour : out.length = 4
      · obtain ⟨create, write, flush, close, rfl⟩ := length_eq_four.1 hfour
        cases hopen : openedFile (.ok create) with
        | error e =>
          simp [writeFileCompound, allOrFirstErr, hout, hopen, bind, Except.bind, pure,
            Except.pure] at h
        | ok handle =>
          refine ⟨.ok create, .ok write, [.ok flush, .ok close], by rw [hframes]; rfl, ?_⟩
          simpa [writeFileCompound, allOrFirstErr, hout, hopen, bind, Except.bind, pure,
            Except.pure] using h
      · simp [writeFileCompound, allOrFirstErr, hout, hfour, bind, Except.bind, throw, throwThe,
          MonadExceptOf.throw] at h

lemma sentAll_of_compound {responses : Except Error (List (Except Error Frame))}
    (h : writeFileCompound responses = .ok n) :
    SentAll data n (compoundAnswered data responses) := by
  obtain ⟨create, write, rest, rfl, hcount⟩ := writeFileCompound_eq_ok h
  have htiles : Tiles 0 data [⟨0, data⟩] := Tiles.nil.snoc data
  refine ⟨_, htiles, Perm.refl _, ?_⟩
  simp [compoundAnswered, confirmed, hcount]

namespace WriteCall

lemma sentAll {call : WriteCall} {n : ℕ} {answered : List (Extent UInt8 × Except Error Frame)}
    (h : call.outcome = some (.ok n, answered)) : SentAll call.supplied n answered := by
  have hwindow : 0 < maxPipelineWindow := by decide
  cases call with
  | writeFile maxWrite data responses handle run =>
    simp only [outcome, Tree.writeFile] at h
    split at h
    · obtain ⟨hresult, rfl⟩ : writeFileCompound responses = .ok n ∧ _ = answered := by simpa using h
      exact sentAll_of_compound hresult
    · unfold writeFilePipelined at h
      split at h
      · obtain ⟨hresult, rfl⟩ : writeFileCompound responses = .ok n ∧ _ = answered := by
          simpa using h
        exact sentAll_of_compound hresult
      · split at h
        · have hsent := sentAll_of_runWrite hwindow (by simp [WritePlan.source]) h
          simpa [WritePlan.source, supplied] using hsent
        · cases h
  | writeFileStreamed maxWrite callback handle run =>
    have hsent := sentAll_of_runWrite hwindow rfl h
    simpa [StreamSource.source, StreamSource.rest, StreamSource.start, supplied] using hsent
  | writeFileWithProgress maxWrite data handle run =>
    have hsent := sentAll_of_runWrite Nat.one_pos rfl h
    simpa [progressSource, supplied] using hsent

/-- **Acknowledged writes.** Let a call return `Ok`, no server having taken more of a piece than it
was sent. The number returned is the length of the data, and every byte was acknowledged at its own
offset, exactly if every WRITE was acknowledged in full. -/
theorem acknowledged_iff {call : WriteCall} {n : ℕ}
    {answered : List (Extent UInt8 × Except Error Frame)}
    (hok : call.outcome = some (.ok n, answered))
    (hle : ∀ w ∈ answered, confirmed w.2 ≤ w.1.data.length) :
    (n = call.supplied.length ∧ ∀ p b, call.supplied[p]? = some b →
        ∃ w ∈ answered, w.1.Confirms (confirmed w.2) p b) ↔
      ∀ w ∈ answered, confirmed w.2 = w.1.data.length := by
  obtain ⟨es, htiles, hperm, rfl⟩ := sentAll hok
  have hiff := htiles.confirmed_iff hperm hle
  simpa only [Nat.zero_add] using hiff

/-! ### A short count -/

def created : Frame where
  header := { answerHeader NtStatus.success with command := .create }
  body := [89, 0] ++ replicate 86 0
  raw := []

def succeeded (command : Command) : Frame where
  header := { answerHeader NtStatus.success with command := command }
  body := []
  raw := []

def taken (count : UInt32) : Frame where
  header := { answerHeader NtStatus.success with command := .write }
  body := { count, remaining := 0, writeChannelInfoOffset := 0,
            writeChannelInfoLength := 0 : WriteResponse }.pack
  raw := []

def allSucceed : HandleAnswers := ⟨.ok created, .ok (succeeded .flush), .ok (succeeded .close)⟩

theorem acknowledged_threeBytes :
    (3 = ([1, 2, 3] : Bytes).length ∧ ∀ p b, ([1, 2, 3] : Bytes)[p]? = some b →
        ∃ w ∈ [((⟨0, [1, 2, 3]⟩ : Extent UInt8), (Except.ok (taken 3) : Except Error Frame))],
          w.1.Confirms (confirmed w.2) p b) ↔
      ∀ w ∈ [((⟨0, [1, 2, 3]⟩ : Extent UInt8), (Except.ok (taken 3) : Except Error Frame))],
        confirmed w.2 = w.1.data.length := by
  have hok : (WriteCall.writeFile 65536 [1, 2, 3] (.ok [.ok created, .ok (taken 3),
      .ok (succeeded .flush), .ok (succeeded .close)]) allSucceed []).outcome =
        some (.ok 3, [(⟨0, [1, 2, 3]⟩, .ok (taken 3))]) := by decide +kernel
  refine acknowledged_iff hok fun w hw => ?_
  obtain rfl := mem_singleton.1 hw
  decide +kernel

/-- **A server takes two of the three bytes of a piece.** Every path returns `Ok`: the compound and
the stream with two bytes written, the pipelined path and the one with progress, for five bytes in
pieces of three, with four, although the third byte was acknowledged by no WRITE. -/
theorem shortCount_accepted :
    (WriteCall.writeFile 65536 [1, 2, 3] (.ok [.ok created, .ok (taken 2),
        .ok (succeeded .flush), .ok (succeeded .close)]) allSucceed []).outcome =
      some (.ok 2, [(⟨0, [1, 2, 3]⟩, .ok (taken 2))]) ∧
    (WriteCall.writeFileStreamed 65536 [.ok [1, 2, 3]] allSucceed
        [⟨0, .ok (taken 2), false⟩]).outcome =
      some (.ok 2, [(⟨0, [1, 2, 3]⟩, .ok (taken 2))]) ∧
    (WriteCall.writeFile 3 [1, 2, 3, 4, 5] (.error .disconnected) allSucceed
        [⟨0, .ok (taken 2), false⟩, ⟨0, .ok (taken 2), false⟩]).outcome =
      some (.ok 4, [(⟨0, [1, 2, 3]⟩, .ok (taken 2)), (⟨3, [4, 5]⟩, .ok (taken 2))]) ∧
    (WriteCall.writeFileWithProgress 3 [1, 2, 3, 4, 5] allSucceed
        [⟨0, .ok (taken 2), false⟩, ⟨0, .ok (taken 2), false⟩]).outcome =
      some (.ok 4, [(⟨0, [1, 2, 3]⟩, .ok (taken 2)), (⟨3, [4, 5]⟩, .ok (taken 2))]) :=
  ⟨by decide +kernel, by decide +kernel, by decide +kernel, by decide +kernel⟩

end WriteCall

end Smb2.Tree
