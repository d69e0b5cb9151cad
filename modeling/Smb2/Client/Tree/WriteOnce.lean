import Smb2.Client.Tree.Write

set_option autoImplicit false

/-!
# Every byte is sent once

The WRITEs that `write_pipelined_loop` and `write_streamed_loop` (`client/tree.rs`) issue, at every
moment of every run: whatever the order of the answers, they lie one behind the other from offset 0
on and carry a beginning of the data; when the loop ends without a failed WRITE, they carry all of
it; after a failed WRITE there is no further one.

## Implementation notes

A WRITE is issued when the loop hands it to the connection: from then on it waits for credits, is
sent and is answered without the loop. The streamed loop waits for the rest of its window after a
failure; that is `drain`.
-/

open List

namespace Smb2.Tree

/-! ## The two loops -/

def pipelinedLoop (plan : WritePlan) : WriteLoop ℕ :=
  { plan.source with window := maxPipelineWindow, withProgress := false, failure := fun _ => none }

variable {data : Bytes} {σ : Type} {maxWrite : ℕ}

lemma writeFilePipelined_eq {maxWrite : UInt32}
    {responses : Except Error (List (Except Error Connection.Frame))} {handle : HandleAnswers}
    {run : List WriteAnswer} (hdata : data ≠ []) (hpos : 0 < maxWrite.toNat) :
    writeFilePipelined maxWrite data responses handle run =
      runWrite (pipelinedLoop ⟨data, maxWrite.toNat, hpos⟩) 0 handle run := by
  rw [writeFilePipelined, if_neg hdata, dif_pos hpos]
  rfl

/-! ## What an answer does -/

def WriteState.flight {σ : Type} : WriteState σ → WriteFlight
  | .running vars => vars.flight
  | .returned _ flight => flight

def WriteState.isReturned {σ : Type} : WriteState σ → Bool
  | .running _ => false
  | .returned .. => true

def WriteFlight.Clean (flight : WriteFlight) : Prop :=
  ∀ w ∈ flight.answered, (writeCount w.2).isOk

def WriteFlight.Bounded (maxWrite : ℕ) (flight : WriteFlight) : Prop :=
  ∀ w ∈ flight.launched, 0 < w.data.length ∧ w.data.length ≤ maxWrite

namespace WriteLoop

variable {σ : Type} {loop : WriteLoop σ} {state state' : WriteState σ} {vars : WriteVars σ}
  {a : WriteAnswer} {base maxWrite : ℕ} {data : Bytes}

lemma step_eq_some (h : loop.step state a = some state') :
    ∃ vars flight, state = .running vars ∧ vars.flight.answer a.slot a.result = some flight ∧
      ((∃ e, writeCount a.result = .error e ∧ state' = .returned (.error e) flight) ∨
        ∃ n, writeCount a.result = .ok n ∧
          ((loop.withProgress = true ∧ state' = .returned (.error .cancelled) flight) ∨
            state' = loop.settle (loop.fill 1
              { vars with flight, totalWritten := vars.totalWritten + n }))) := by
  revert h
  fun_cases loop.step state a <;> intro h <;> cases h
  · exact ⟨_, _, rfl, ‹_›, .inl ⟨_, ‹_›, rfl⟩⟩
  · exact ⟨_, _, rfl, ‹_›, .inr ⟨_, ‹_›, .inl ⟨And.left ‹_›, rfl⟩⟩⟩
  · exact ⟨_, _, rfl, ‹_›, .inr ⟨_, ‹_›, .inr rfl⟩⟩

lemma answered_fill (n : ℕ) (vars : WriteVars σ) :
    (loop.fill n vars).flight.answered = vars.flight.answered := by
  fun_induction loop.fill n vars with
  | case1 => rfl
  | case2 => rfl
  | case3 _ _ _ _ _ ih => exact ih

lemma bounded_fill
    (hnext : ∀ s s' w, loop.next s = (some w, s') → 0 < w.data.length ∧ w.data.length ≤ maxWrite)
    (hvars : vars.flight.Bounded maxWrite) (n : ℕ) :
    (loop.fill n vars).flight.Bounded maxWrite := by
  fun_induction loop.fill n vars with
  | case1 => exact hvars
  | case2 => exact hvars
  | case3 n vars w source hw ih =>
    exact ih (Transition.forall_mem_concat hvars (hnext _ _ _ hw))

lemma flight_settle (vars : WriteVars σ) : (loop.settle vars).flight = vars.flight := by
  fun_cases loop.settle vars <;> rfl

/-! ## In every state of a run -/

/-- **Invariant**: the WRITEs are bounded and tile a beginning of the data. As long as the loop
runs, no WRITE has failed and one is in flight; when it has returned and none has failed, all of
the data was sent. -/
structure InOrder (loop : WriteLoop σ) (base maxWrite : ℕ) (data : Bytes) (state : WriteState σ) :
    Prop where
  bounded : state.flight.Bounded maxWrite
  tiles : ∃ sent rest, Tiles base sent state.flight.launched ∧ sent ++ rest = data ∧
    (state.isReturned → state.flight.Clean → rest = [])
  running : state.isReturned = false → state.flight.Clean ∧ state.flight.inFlight ≠ []

lemma inOrder_settle (hwindow : 0 < loop.window) (hsends : loop.Sends base data vars)
    (hfull : vars.flight.inFlight.length < loop.window → loop.rest vars.source = [])
    (hbounded : vars.flight.Bounded maxWrite) (hclean : vars.flight.Clean) :
    loop.InOrder base maxWrite data (loop.settle vars) := by
  obtain ⟨sent, htiles, hdata, -⟩ := hsends.tiles
  fun_cases loop.settle vars
  case case1 hbusy =>
    exact ⟨hbounded, ⟨sent, _, htiles, hdata, fun hreturned => (by cases hreturned)⟩,
      fun _ => ⟨hclean, hbusy⟩⟩
  all_goals
    -- Nothing is in flight, so the source is exhausted.
    have hidle : vars.flight.inFlight = [] := not_not.1 ‹_›
    exact ⟨hbounded, ⟨sent, _, htiles, hdata, fun _ _ => hfull (by rw [hidle]; exact hwindow)⟩,
      fun hrunning => (by cases hrunning)⟩

lemma inOrder_start (hwindow : 0 < loop.window)
    (hnext : ∀ s s' w, loop.next s = (some w, s') → 0 < w.data.length ∧ w.data.length ≤ maxWrite)
    (source : σ) :
    loop.InOrder (loop.offset source) maxWrite (loop.rest source) (loop.start source) := by
  have hempty : loop.Sends (loop.offset source) (loop.rest source)
      { source, flight := .empty, totalWritten := 0 } :=
    ⟨⟨[], .nil, rfl, rfl⟩, rfl⟩
  obtain ⟨hsends, hcount, -⟩ := hempty.fill loop.window
  refine inOrder_settle hwindow hsends (fun hshort => ?_)
    (bounded_fill hnext (fun w hw => absurd hw not_mem_nil) _) ?_
  · rcases hcount with hlen | hrest
    · rw [hlen] at hshort
      simp [Flight.empty] at hshort
    · exact hrest
  · intro w hw
    rw [answered_fill] at hw
    exact absurd hw not_mem_nil

lemma InOrder.step (hwindow : 0 < loop.window) (hprogress : loop.withProgress = false)
    (hnext : ∀ s s' w, loop.next s = (some w, s') → 0 < w.data.length ∧ w.data.length ≤ maxWrite)
    (h : loop.InOrder base maxWrite data state) (hholds : loop.Holds base data state)
    (hstep : loop.step state a = some state') : loop.InOrder base maxWrite data state' := by
  obtain ⟨vars, flight, rfl, hanswer, hcase⟩ := step_eq_some hstep
  obtain ⟨hsends, hfull⟩ := hholds
  obtain ⟨w, -, hlaunched, -, hanswered⟩ := Flight.answer_eq_some hanswer
  have hbounded : WriteFlight.Bounded maxWrite flight := by
    unfold WriteFlight.Bounded
    rw [hlaunched]
    exact h.bounded
  obtain ⟨e, hcount, rfl⟩ | ⟨n, hcount, ⟨hcancel, -⟩ | rfl⟩ := hcase
  · -- The failed WRITE is among the answers, so nothing is claimed about what was left.
    obtain ⟨sent, rest, htiles, hdata, -⟩ := h.tiles
    refine ⟨hbounded, ⟨sent, rest, hlaunched ▸ htiles, hdata, fun _ hclean => ?_⟩, fun hrunning => ?_⟩
    · have hfailed := hclean (w, a.result) (by
        show _ ∈ flight.answered
        rw [hanswered]
        exact mem_append_right _ (mem_singleton_self _))
      simp only [hcount] at hfailed
      cases hfailed
    · cases hrunning
  · rw [hprogress] at hcancel
    cases hcancel
  · obtain ⟨hsends', hfull'⟩ := hsends.refill hfull hanswer hcount
    refine inOrder_settle hwindow hsends' hfull' (bounded_fill hnext hbounded 1) ?_
    intro w' hw'
    rw [answered_fill] at hw'
    simp only [hanswered] at hw'
    rcases mem_append.1 hw' with hw' | hw'
    · exact (h.running rfl).1 w' hw'
    · obtain rfl := mem_singleton.1 hw'
      simp only [hcount]
      rfl

/-- **The WRITEs issued so far**, in every state of a run. -/
theorem inOrder_of_exec (hwindow : 0 < loop.window) (hprogress : loop.withProgress = false)
    (hnext : ∀ s s' w, loop.next s = (some w, s') → 0 < w.data.length ∧ w.data.length ≤ maxWrite)
    {source : σ} {run : List WriteAnswer}
    (hrun : Transition.exec loop.step (loop.start source) run = some state) :
    loop.InOrder (loop.offset source) maxWrite (loop.rest source) state := by
  have hboth := Transition.exec_invariant_of_step
    (I := fun state => loop.Holds (loop.offset source) (loop.rest source) state ∧
      loop.InOrder (loop.offset source) maxWrite (loop.rest source) state)
    (fun _ _ _ h hstep => ⟨h.1.step hwindow hstep, h.2.step hwindow hprogress hnext h.1 hstep⟩)
    ⟨holds_start hwindow source, inOrder_start hwindow hnext source⟩ hrun
  exact hboth.2

/-! ## How long a run is -/

lemma length_answered_of_exec {source : σ} {run : List WriteAnswer}
    (hrun : Transition.exec loop.step (loop.start source) run = some state) :
    state.flight.answered.length = run.length := by
  refine Transition.exec_history (I := fun run state => state.flight.answered.length = run.length)
    ?_ ?_ hrun
  · rw [start, flight_settle, answered_fill]
    rfl
  · intro run state a state' _ hlength hstep
    obtain ⟨vars, flight, rfl, hanswer, hcase⟩ := step_eq_some hstep
    obtain ⟨w, -, -, -, hanswered⟩ := Flight.answer_eq_some hanswer
    have hone : flight.answered.length = run.length + 1 := by
      rw [hanswered, length_append, length_singleton]
      exact congrArg (· + 1) hlength
    rw [length_append, length_singleton, ← hone]
    obtain ⟨e, -, rfl⟩ | ⟨n, -, ⟨-, rfl⟩ | rfl⟩ := hcase
    · rfl
    · rfl
    · rw [flight_settle, answered_fill]

end WriteLoop

/-! ## Sent once -/

def drain : WriteFlight → List WriteAnswer → Option WriteFlight :=
  Transition.exec fun flight a => flight.answer a.slot a.result

lemma launched_drain {flight flight' : WriteFlight} {answers : List WriteAnswer}
    (h : drain flight answers = some flight') : flight'.launched = flight.launched := by
  refine Transition.exec_invariant_of_step (I := fun f => f.launched = flight.launched) ?_ rfl h
  intro f a f' hf hanswer
  obtain ⟨-, -, hlaunched, -, -⟩ := Flight.answer_eq_some hanswer
  rw [hlaunched, hf]

/-- **A loop sends its data once**, in pieces of at most `maxWrite` bytes, in whatever order the
WRITEs are answered. -/
structure SendsOnce {σ : Type} (loop : WriteLoop σ) (source : σ) (maxWrite : ℕ) (data : Bytes) :
    Prop where
  /-- In every state the WRITEs issued lie one behind the other from offset 0 on and carry a
  beginning of the data, each at least one byte and at most `maxWrite`; once the loop has returned
  and no WRITE has failed, they carry the data. -/
  inOrder : ∀ run state, Transition.exec loop.step (loop.start source) run = some state →
    ∃ sent rest, Tiles 0 sent state.flight.launched ∧ sent ++ rest = data ∧
      (∀ w ∈ state.flight.launched, 0 < w.data.length ∧ w.data.length ≤ maxWrite) ∧
      (state.isReturned → state.flight.Clean → sent = data)
  /-- As long as the loop runs, no WRITE has failed and there is one to be answered, and it is done
  after no more answers than there are bytes. -/
  ends : ∀ run state, Transition.exec loop.step (loop.start source) run = some state →
    run.length ≤ data.length ∧
      (state.isReturned = false → state.flight.Clean ∧ state.flight.inFlight ≠ [])
  /-- A failed WRITE is the last one that the loop takes an answer to: it issues nothing more, not
  even while it waits for the others. -/
  stops : ∀ state a state', loop.step state a = some state' → (writeCount a.result).isOk = false →
    state'.flight.launched = state.flight.launched ∧ (∀ a', loop.step state' a' = none) ∧
      ∀ answers flight, drain state'.flight answers = some flight →
        flight.launched = state.flight.launched

lemma length_le_of_tiles {base : ℕ} {stream : Bytes} {es : List (Extent UInt8)}
    (h : Tiles base stream es) (hpos : ∀ e ∈ es, 0 < e.data.length) : es.length ≤ stream.length := by
  rw [← h.sum_length]
  have hmap : es.length = (es.map fun _ => 1).sum := by simp
  rw [hmap]
  exact sum_le_sum hpos

/-- **A loop without a progress callback, with pieces that are bounded, sends its data once.** -/
theorem sendsOnce_of_bounded (loop : WriteLoop σ) (source : σ) (hwindow : 0 < loop.window)
    (hprogress : loop.withProgress = false) (hbase : loop.offset source = 0)
    (hnext : ∀ s s' w, loop.next s = (some w, s') → 0 < w.data.length ∧ w.data.length ≤ maxWrite) :
    SendsOnce loop source maxWrite (loop.rest source) where
  inOrder run state hrun := by
    have h := WriteLoop.inOrder_of_exec hwindow hprogress hnext hrun
    rw [hbase] at h
    obtain ⟨sent, rest, htiles, hdata, hall⟩ := h.tiles
    refine ⟨sent, rest, htiles, hdata, h.bounded, fun hreturned hclean => ?_⟩
    rw [← hdata, hall hreturned hclean, append_nil]
  ends run state hrun := by
    have h := WriteLoop.inOrder_of_exec hwindow hprogress hnext hrun
    refine ⟨?_, h.running⟩
    obtain ⟨sent, rest, htiles, hdata, -⟩ := h.tiles
    have hanswered := WriteLoop.length_answered_of_exec hrun
    have hperm := state.flight.accounted.length_eq
    have hlaunched := length_le_of_tiles htiles fun w hw => (h.bounded w hw).1
    rw [length_append, length_map] at hperm
    rw [← hdata, length_append]
    omega
  stops state a state' hstep hfailed := by
    obtain ⟨vars, flight, rfl, hanswer, hcase⟩ := WriteLoop.step_eq_some hstep
    obtain ⟨w, -, hlaunched, -, -⟩ := Flight.answer_eq_some hanswer
    obtain ⟨e, -, rfl⟩ | ⟨n, hcount, -⟩ := hcase
    · refine ⟨hlaunched, fun _ => rfl, fun answers flight' hdrain => ?_⟩
      rw [launched_drain hdrain]
      exact hlaunched
    · rw [hcount] at hfailed
      cases hfailed

lemma SendsOnce.exists_step {loop : WriteLoop σ} {source : σ}
    (h : SendsOnce loop source maxWrite data) {run : List WriteAnswer} {state : WriteState σ}
    (hrun : Transition.exec loop.step (loop.start source) run = some state)
    (hrunning : state.isReturned = false) (result : Except Error Connection.Frame) :
    ∃ state', loop.step state ⟨0, result, false⟩ = some state' := by
  have hinFlight := ((h.ends run state hrun).2 hrunning).2
  cases state with
  | returned result flight => cases hrunning
  | running vars =>
    have hpos : 0 < vars.flight.inFlight.length := length_pos_iff.2 hinFlight
    simp only [WriteLoop.step, Flight.answer, dif_pos hpos]
    split
    · exact ⟨_, rfl⟩
    · split <;> exact ⟨_, rfl⟩

/-- **A loop that sends its data once ends**, whatever the server answers: from every state of a
run in which it still runs, it can be answered, and this cannot go on for ever. -/
theorem SendsOnce.exists_returned {loop : WriteLoop σ} {source : σ}
    (h : SendsOnce loop source maxWrite data) (result : Except Error Connection.Frame) :
    ∃ run state, Transition.exec loop.step (loop.start source) run = some state ∧
      state.isReturned = true ∧ ∀ a ∈ run, a.result = result := by
  refine Transition.exists_exec_of_bounded (fun run state hrun => (h.ends run state hrun).1) ?_
  intro run state hrun hrunning
  obtain ⟨state', hstep⟩ := h.exists_step hrun (Bool.not_eq_true _ ▸ hrunning) result
  exact ⟨⟨0, result, false⟩, state', rfl, hstep⟩

lemma WritePlan.next_bounded (plan : WritePlan) {sent sent' : ℕ} {w : Extent UInt8}
    (h : plan.next sent = (some w, sent')) :
    0 < w.data.length ∧ w.data.length ≤ plan.chunkSize := by
  revert h
  fun_cases plan.next sent <;> intro h <;> cases h
  have hin := lt_totalChunks_iff.1 ‹_›
  have hpos := plan.chunkSize_pos
  rw [length_buildReq]
  omega

lemma StreamSource.nextWireChunk_bounded (hpos : 0 < maxWrite) {s s' : StreamSource} {piece : Bytes}
    (h : s.nextWireChunk maxWrite = (some piece, s')) :
    0 < piece.length ∧ piece.length ≤ maxWrite := by
  have hpiece := congrArg Prod.fst h
  revert hpiece
  fun_cases nextWireChunk maxWrite s <;> intro hpiece <;>
    first
      | obtain rfl := Option.some.inj hpiece
      | cases hpiece
  case case7 hnone hdone callback hcallback hdata hsmall =>
    exact ⟨length_pos_iff.2 hdata, hsmall⟩
  case case8 hnone hdone data callback hcallback hdata hlarge =>
    have hchunk := length_pos_iff.2 hdata
    rw [length_take]
    omega
  all_goals
    rename_i hpending stop piece hstop
    have hlength : piece.length = stop - s.pendingOffset := by
      simp only [piece, slice, length_take, length_drop]
      omega
    omega

lemma StreamSource.next_bounded (hpos : 0 < maxWrite) {s s' : StreamSource} {w : Extent UInt8}
    (h : s.next maxWrite = (some w, s')) :
    0 < w.data.length ∧ w.data.length ≤ maxWrite := by
  revert h
  fun_cases next maxWrite s <;> intro h <;> cases h
  exact nextWireChunk_bounded hpos ‹_›

end Smb2.Tree
