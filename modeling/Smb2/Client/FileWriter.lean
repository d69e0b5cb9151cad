import Smb2.Client.Tree.Write
import Smb2.Lib.Prog

set_option autoImplicit false

/-!
# The push-based writer

`FileWriter` (`client/stream.rs`): the caller pushes chunks, the writer cuts them into WRITEs of at
most `max_write_size` bytes and keeps up to 32 of them in flight. An answer is taken only when room
is needed, or in `finish`, so a WRITE that fails is noticed by a later call of `write_chunk`. That
call returns the error, but the writer goes on as before: a caller that pushes more and then calls
`finish` is told `Ok`.

## Implementation notes

A method is a program over the writer and the answers to come: each entry says which of the WRITEs
in flight is answered next, and how. A method that waits for an answer that does not come has not
returned. The two loops over pending data take a number of rounds; a loop that needs more has not
returned either. Clocks, log lines, credits and the closes whose result is dropped are left out.
-/

open List Option

namespace Smb2

open Connection (Frame)
open Tree (WriteFlight writeCount confirmed checkStatus maxPipelineWindow)

structure FileWriter where
  maxWriteSize : ℕ
  offset : ℕ
  flight : WriteFlight
  totalWritten : ℕ
  pendingData : Bytes
  pendingOffset : ℕ
  stashedChunk : Option Bytes
  done : Bool

namespace FileWriter

def new (maxWriteSize base : ℕ) : FileWriter where
  maxWriteSize
  offset := base
  flight := .empty
  totalWritten := 0
  pendingData := []
  pendingOffset := 0
  stashedChunk := none
  done := false

def pending (w : FileWriter) : Bytes := w.pendingData.drop w.pendingOffset

/-- **The writer and the answers to come**: the position, among the WRITEs in flight, of the one
that is answered, and what `execute_with_credits` returns. -/
structure Env where
  writer : FileWriter
  answers : List (ℕ × Except Error Frame)

abbrev WriterM (α : Type) := Prog Env Error α

/-! ## The methods -/

def nextAnswer : WriterM (Option (Except Error Frame)) := fun env =>
  if env.writer.flight.inFlight = [] then some (.ok none, env)
  else
    match env.answers with
    | [] => none
    | (slot, result) :: answers =>
      (env.writer.flight.answer slot result).map fun flight =>
        (.ok (some result), { writer := { env.writer with flight }, answers })

def onWriter (f : FileWriter → FileWriter) : WriterM Unit :=
  Prog.update fun env => { env with writer := f env.writer }

def inFlightLen : WriterM ℕ := Prog.read fun env => env.writer.flight.inFlight.length

def discard : ℕ → WriterM Unit
  | 0 => pure ()
  | n + 1 => do
    match ← nextAnswer with
    | none => pure ()
    | some _ => discard n

/-- `drain_one`: take one answer. After an error status the other answers are dropped, and the
handle is closed. -/
def drainOne : WriterM Unit := do
  match ← nextAnswer with
  | none => pure ()
  | some (.error e) => Prog.fail e
  | some (.ok frame) =>
    if frame.header.status ≠ NtStatus.success then do
      discard (← inFlightLen)
      onWriter fun w => { w with done := true }
      Prog.fail (.protocol frame.header.status .write)
    else do
      let (resp, _) ← Prog.lift (WriteResponse.unpack (.new frame.body))
      onWriter fun w => { w with totalWritten := w.totalWritten + resp.count.toNat }

def drainAll : ℕ → WriterM Unit
  | 0 => pure ()
  | n + 1 => do
    drainOne
    drainAll n

def launchWireChunk (data : Bytes) : WriterM Unit :=
  onWriter fun w =>
    { w with flight := w.flight.launch ⟨w.offset, data⟩, offset := w.offset + data.length }

def canSend : WriterM Bool :=
  Prog.read fun env => env.writer.flight.inFlight.length < maxPipelineWindow

def makeRoom : WriterM Unit := do
  if (← inFlightLen) ≥ maxPipelineWindow then drainOne else pure ()

def stash (data : Bytes) : WriterM Bool := do
  onWriter fun w => { w with stashedChunk := some data }
  return false

def retrySend (data : Bytes) : WriterM Bool := do
  if (← inFlightLen) ≠ 0 then do
    drainOne
    if ← canSend then do
      launchWireChunk data
      return true
    else stash data
  else stash data

def sendOrStash (data : Bytes) : WriterM Bool := do
  makeRoom
  if ← canSend then do
    launchWireChunk data
    return true
  else retrySend data

def flushStash : WriterM Unit := do
  match ← Prog.read fun env => env.writer.stashedChunk with
  | none => pure ()
  | some stashed =>
    onWriter fun w => { w with stashedChunk := none }
    if (← inFlightLen) ≠ 0 ∧ ¬ (← canSend) then
      drainOne
    if ← canSend then launchWireChunk stashed
    else onWriter fun w => { w with stashedChunk := some stashed }

def nextPendingChunk : WriterM (Option Bytes) := fun env =>
  let w := env.writer
  if w.pendingOffset ≥ w.pendingData.length then some (.ok none, env)
  else
    let stop := min (w.pendingOffset + w.maxWriteSize) w.pendingData.length
    let piece := slice w.pendingData w.pendingOffset stop
    if stop ≥ w.pendingData.length then
      some (.ok (some piece), { env with writer := { w with pendingData := [], pendingOffset := 0 } })
    else some (.ok (some piece), { env with writer := { w with pendingOffset := stop } })

def sendPending : ℕ → WriterM Unit
  | 0 => Prog.diverge
  | n + 1 => do
    match ← nextPendingChunk with
    | none => pure ()
    | some piece => if ← sendOrStash piece then sendPending n else pure ()

def finishPending : ℕ → WriterM Unit
  | 0 => Prog.diverge
  | n + 1 => do
    match ← nextPendingChunk with
    | none => pure ()
    | some piece =>
      if ← sendOrStash piece then finishPending n
      else do
        flushStash
        finishPending n

def extendPending (data : Bytes) (w : FileWriter) : FileWriter :=
  if w.pendingOffset < w.pendingData.length then
    { w with pendingData := w.pendingData.drop w.pendingOffset ++ data, pendingOffset := 0 }
  else { w with pendingData := data, pendingOffset := 0 }

def writeChunk (fuel : ℕ) (data : Bytes) : WriterM Unit :=
  if data = [] then pure ()
  else do
    onWriter (extendPending data)
    flushStash
    sendPending fuel

def finish (fuel : ℕ) (flushed closed : Except Error Frame) : WriterM ℕ := do
  flushStash
  finishPending fuel
  drainAll (← inFlightLen)
  Prog.lift (checkStatus .flush flushed)
  Prog.lift (checkStatus .close closed)
  onWriter fun w => { w with done := true }
  Prog.read fun env => env.writer.totalWritten

/-- **Push all chunks**, going on whatever `write_chunk` returns; `none` if a call has not
returned. -/
def pushAll (fuel : ℕ) : List Bytes → Env → Option Env
  | [], env => some env
  | data :: chunks, env => (writeChunk fuel data env).bind fun out => pushAll fuel chunks out.2

/-- **The life of a writer**: chunks are pushed, then `finish` is called. -/
def session (fuel : ℕ) (chunks : List Bytes) (flushed closed : Except Error Frame) (env : Env) :
    Option (Except Error ℕ × Env) :=
  (pushAll fuel chunks env).bind fun env' => finish fuel flushed closed env'

/-! ## What the methods keep -/

def AllOk (w : FileWriter) : Prop := ∀ a ∈ w.flight.answered, ∃ n, writeCount a.2 = .ok n

def Piece (w : FileWriter) (data : Bytes) : Prop :=
  data ≠ [] ∨ (w.maxWriteSize = 0 ∧ w.pending ≠ [])

/-- What the proof keeps about a writer: what was pushed, the piece that a method has taken from the
pending data and not yet sent, the rest of the pending data, the count of an answer that has been
taken and not yet added, and whether a WRITE is known to have failed. -/
structure Ledger where
  base : ℕ
  pushed : Bytes
  hand : Option Bytes
  rest : Bytes
  owed : ℕ
  failed : Bool

def Ledger.idle (base : ℕ) (pushed rest : Bytes) : Ledger := ⟨base, pushed, none, rest, 0, false⟩

def Ledger.settled (l : Ledger) : Ledger := { l with owed := 0, failed := false }

/-- **Invariant.** The WRITEs launched follow each other from `base` on. As long as every answer is
a success, they and what is left are all that was pushed, and the total is the sum of the counts.
After a failure something may be missing. The stash is never used. -/
structure Inv (l : Ledger) (w : FileWriter) : Prop where
  pending : w.pending = l.rest
  sent : ∃ sent, Tiles l.base sent w.flight.launched ∧ w.offset = l.base + sent.length ∧
    sent.length + (l.hand.getD []).length + l.rest.length ≤ l.pushed.length ∧
    (w.AllOk → sent ++ l.hand.getD [] ++ l.rest = l.pushed)
  total : w.AllOk → w.totalWritten + l.owed = w.flight.acknowledged
  room : w.flight.inFlight.length ≤ maxPipelineWindow
  stash : w.stashedChunk = none
  pieces : ∀ e ∈ w.flight.launched, w.Piece e.data
  hand : ∀ data, l.hand = some data → w.Piece data
  failed : l.failed → ¬ w.AllOk

lemma pending_extendPending (data : Bytes) (w : FileWriter) :
    (extendPending data w).pending = w.pending ++ data := by
  unfold extendPending FileWriter.pending
  split
  · rfl
  · rename_i hnone
    have hnil : w.pendingData.drop w.pendingOffset = [] := drop_eq_nil_of_le (by omega)
    rw [hnil]
    rfl

lemma extendPending_frame (data : Bytes) (w : FileWriter) :
    (extendPending data w).flight = w.flight ∧ (extendPending data w).offset = w.offset ∧
      (extendPending data w).totalWritten = w.totalWritten ∧
      (extendPending data w).stashedChunk = w.stashedChunk ∧
      (extendPending data w).maxWriteSize = w.maxWriteSize := by
  unfold extendPending
  split <;> exact ⟨rfl, rfl, rfl, rfl, rfl⟩

namespace Inv

variable {l : Ledger} {w : FileWriter}

lemma new (maxWriteSize base : ℕ) : Inv (.idle base [] []) (new maxWriteSize base) where
  pending := rfl
  sent := ⟨[], .nil, rfl, le_rfl, fun _ => rfl⟩
  total _ := rfl
  room := Nat.zero_le _
  stash := rfl
  pieces e he := by cases he
  hand data h := by cases h
  failed h := by cases h

lemma dropped (h : Inv l w) (hbad : ¬ w.AllOk) (failed : Bool) :
    Inv { l with hand := none, owed := 0, failed } w where
  pending := h.pending
  sent := by
    obtain ⟨sent, htiles, hoffset, hlen, -⟩ := h.sent
    refine ⟨sent, htiles, hoffset, ?_, fun hok => absurd hok hbad⟩
    simp only [getD_none, length_nil]
    omega
  total hok := absurd hok hbad
  room := h.room
  stash := h.stash
  pieces := h.pieces
  hand data hd := by cases hd
  failed _ := hbad

lemma answered (h : Inv l w) (howed : l.owed = 0) {slot : ℕ} {result : Except Error Frame}
    {flight : WriteFlight} (hanswer : w.flight.answer slot result = some flight) :
    Inv { l with owed := confirmed result } { w with flight } ∧
      flight.inFlight.length < maxPipelineWindow ∧
      ∃ e, (e, result) ∈ flight.answered := by
  obtain ⟨e, -, hlaunched, -, hanswered⟩ := Flight.answer_eq_some hanswer
  have hlength := Flight.length_inFlight_answer hanswer
  have hroom := h.room
  have hallOk : AllOk { w with flight } → w.AllOk := fun hok a ha =>
    hok a (by rw [hanswered]; exact mem_append_left _ ha)
  refine ⟨⟨h.pending, ?_, fun hok => ?_, ?_, h.stash, ?_, h.hand,
    fun hfailed hok => h.failed hfailed (hallOk hok)⟩, by omega, e, ?_⟩
  · obtain ⟨sent, htiles, hoffset, hlen, hclean⟩ := h.sent
    refine ⟨sent, ?_, hoffset, hlen, fun hok => hclean (hallOk hok)⟩
    rw [hlaunched]
    exact htiles
  · have htotal := h.total (hallOk hok)
    rw [howed, WriteFlight.acknowledged] at htotal
    simp only [WriteFlight.acknowledged, hanswered, map_append, sum_append, ← htotal]
    simp
  · show flight.inFlight.length ≤ _
    omega
  · show ∀ e ∈ flight.launched, _
    rw [hlaunched]
    exact h.pieces
  · rw [hanswered]
    exact mem_append_right _ (mem_singleton_self _)

lemma added (h : Inv l w) :
    Inv l.settled { w with totalWritten := w.totalWritten + l.owed } :=
  ⟨h.pending, h.sent, h.total, h.room, h.stash, h.pieces, h.hand, fun hf => by cases hf⟩

lemma launched {base : ℕ} {pushed rest data : Bytes}
    (h : Inv ⟨base, pushed, some data, rest, 0, false⟩ w)
    (hroom : w.flight.inFlight.length < maxPipelineWindow) :
    Inv (.idle base pushed rest)
      { w with flight := w.flight.launch ⟨w.offset, data⟩, offset := w.offset + data.length } where
  pending := h.pending
  sent := by
    obtain ⟨sent, htiles, hoffset, hlen, hclean⟩ := h.sent
    refine ⟨sent ++ data, ?_, ?_, ?_, fun hok => ?_⟩
    · rw [hoffset]
      exact htiles.snoc data
    · show w.offset + data.length = base + (sent ++ data).length
      rw [hoffset, length_append, Nat.add_assoc]
    · simp only [Ledger.idle, getD_some, getD_none, length_append,
        length_nil] at hlen ⊢
      omega
    · simpa [Ledger.idle] using hclean hok
  total := h.total
  room := by
    simp only [Flight.launch, length_append, length_singleton]
    omega
  stash := h.stash
  pieces := Transition.forall_mem_concat h.pieces (h.hand data rfl)
  hand data hd := by cases hd
  failed := h.failed

lemma pushed {base : ℕ} {sofar rest : Bytes} (h : Inv (.idle base sofar rest) w) (data : Bytes) :
    Inv (.idle base (sofar ++ data) (rest ++ data)) (extendPending data w) := by
  have hpending := pending_extendPending data w
  obtain ⟨hflight, hoffset, htotal, hstash, hmax⟩ := extendPending_frame data w
  have hallOk : (extendPending data w).AllOk ↔ w.AllOk := by rw [AllOk, AllOk, hflight]
  refine ⟨?_, ?_, ?_, ?_, ?_, ?_, (fun _ hd => by cases hd), (fun hf => by cases hf)⟩
  · rw [hpending, h.pending]
    rfl
  · obtain ⟨sent, htiles, hw, hlen, hclean⟩ := h.sent
    refine ⟨sent, ?_, ?_, ?_, fun hok => ?_⟩
    · rw [hflight]
      exact htiles
    · rw [hoffset, hw]
      rfl
    · simp only [Ledger.idle, length_append] at hlen ⊢
      omega
    · have hall := hclean (hallOk.1 hok)
      simp only [Ledger.idle, getD_none, append_nil] at hall ⊢
      rw [← hall, append_assoc]
  · rw [hallOk, htotal, hflight]
    exact h.total
  · rw [hflight]
    exact h.room
  · rw [hstash]
    exact h.stash
  · rw [hflight]
    intro e he
    refine (h.pieces e he).imp id fun ⟨hzero, hne⟩ => ⟨hmax.trans hzero, ?_⟩
    rw [hpending]
    exact fun hnil => hne (append_eq_nil_iff.1 hnil).1

end Inv

/-! ## What waiting and cutting do -/

lemma nextAnswer_cases {env env' : Env} {r : Except Error (Option (Except Error Frame))}
    (h : nextAnswer env = some (r, env')) :
    (r = .ok none ∧ env' = env ∧ env.writer.flight.inFlight = []) ∨
      ∃ slot result flight, r = .ok (some result) ∧
        env.writer.flight.answer slot result = some flight ∧
        env'.writer = { env.writer with flight } := by
  revert h
  fun_cases nextAnswer env <;> intro h <;> try cases h
  · exact .inl ⟨rfl, rfl, ‹_›⟩
  · obtain ⟨flight, hanswer, hout⟩ := map_eq_some_iff.1 h
    cases hout
    exact .inr ⟨_, _, flight, rfl, hanswer, rfl⟩

lemma nextPendingChunk_cases (env : Env) :
    (nextPendingChunk env = some (.ok none, env) ∧ env.writer.pending = []) ∨
      env.writer.pending ≠ [] ∧ ∃ pendingData pendingOffset,
        nextPendingChunk env = some (.ok (some (env.writer.pending.take env.writer.maxWriteSize)),
          { env with writer := { env.writer with pendingData, pendingOffset } }) ∧
        pendingData.drop pendingOffset = env.writer.pending.drop env.writer.maxWriteSize := by
  have hlength : env.writer.pending.length =
      env.writer.pendingData.length - env.writer.pendingOffset := length_drop
  have hne : ¬ env.writer.pendingOffset ≥ env.writer.pendingData.length →
      env.writer.pending ≠ [] := by
    intro hmore
    rw [← length_pos_iff]
    omega
  fun_cases nextPendingChunk env
  · exact .inl ⟨rfl, drop_eq_nil_of_le ‹_›⟩
  · rename_i w hmore stop piece hall
    have hshort : w.pending.length ≤ w.maxWriteSize := by
      have hlength : w.pending.length = w.pendingData.length - w.pendingOffset := hlength
      omega
    have hpiece : piece = w.pending := by
      refine take_of_length_le ?_
      rw [length_drop]
      omega
    refine .inr ⟨hne hmore, [], 0, ?_, (drop_eq_nil_of_le hshort).symm⟩
    rw [hpiece, take_of_length_le hshort]
  · rename_i w hmore stop piece hsome
    have hstop : stop = w.pendingOffset + w.maxWriteSize := by omega
    refine .inr ⟨hne hmore, w.pendingData, stop, ?_, ?_⟩
    · show some (Except.ok (some (slice w.pendingData w.pendingOffset stop)), _) = _
      rw [hstop, slice, Nat.add_sub_cancel_left]
      rfl
    · rw [hstop]
      exact drop_drop.symm

/-! ## The methods keep it -/

open Prog (Triple)

def At (l : Ledger) (env : Env) : Prop := Inv l env.writer

def Room (env : Env) : Prop := env.writer.flight.inFlight.length < maxPipelineWindow

variable {l : Ledger}

variable {w : FileWriter} {base : ℕ} {pushed rest : Bytes}

lemma Inv.taken {piece : Bytes} {w' : FileWriter} (h : Inv (.idle base pushed (piece ++ rest)) w)
    (hw' : w' = { w with pendingData := w'.pendingData, pendingOffset := w'.pendingOffset })
    (hrest : w'.pending = rest) (hpiece : w'.Piece piece)
    (hzero : w.maxWriteSize = 0 → piece = []) :
    Inv ⟨base, pushed, some piece, rest, 0, false⟩ w' := by
  have hflight : w'.flight = w.flight := by rw [hw']
  have hmax : w'.maxWriteSize = w.maxWriteSize := by rw [hw']
  have hallOk : w'.AllOk ↔ w.AllOk := by rw [AllOk, AllOk, hflight]
  obtain ⟨sent, htiles, hoffset, hlen, hclean⟩ := h.sent
  refine ⟨hrest, ⟨sent, ?_, ?_, ?_, fun hok => ?_⟩, ?_, ?_, ?_, fun e he => ?_, ?_,
    fun hf => by cases hf⟩
  · rw [hflight]
    exact htiles
  · rw [hw']
    exact hoffset
  · simp only [Ledger.idle, getD_none, getD_some, length_append,
      length_nil] at hlen ⊢
    omega
  · simpa [Ledger.idle] using hclean (hallOk.1 hok)
  · rw [hallOk, hflight, hw']
    exact h.total
  · rw [hflight]
    exact h.room
  · rw [hw']
    exact h.stash
  · rw [hflight] at he
    refine (h.pieces e he).imp id fun ⟨hmaxZero, hne⟩ => ⟨hmax.trans hmaxZero, ?_⟩
    rw [h.pending] at hne
    rw [hrest]
    simpa [Ledger.idle, hzero hmaxZero] using hne
  · intro data hdata
    obtain rfl := some.inj hdata
    exact hpiece

end FileWriter

end Smb2
