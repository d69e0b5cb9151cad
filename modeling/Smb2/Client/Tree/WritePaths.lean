import Smb2.Client.Tree.WriteOnce

set_option autoImplicit false

/-!
# The two paths of `write_file`

`write_file` (`client/tree.rs`) sends small files as one compound of CREATE, WRITE, FLUSH and CLOSE
and large ones through the pipelined loop. Both paths meet the same four commands; this module
compares what they make of the statuses. The pipelined path fails when the FLUSH or the CLOSE
fails. The compound path only logs these two statuses.
-/

open List

namespace Smb2.Tree

open Connection (Frame)

/-! ## Answers with given statuses -/

structure Statuses where
  create : NtStatus
  write : NtStatus
  flush : NtStatus
  close : NtStatus
deriving DecidableEq

structure AnswersWrite (status : NtStatus) (frame : Frame) : Prop where
  status_eq : frame.header.status = status
  parses : status = NtStatus.success → (WriteResponse.unpack (.new frame.body)).isOk

/-- **Answers to CREATE, WRITE, FLUSH and CLOSE** with given statuses; the bodies of successes
parse. -/
structure CommandFrames (s : Statuses) where
  created : Frame
  written : Frame
  flushed : Frame
  closed : Frame
  created_status : created.header.status = s.create
  created_parses : s.create = NtStatus.success → (CreateResponse.unpack (.new created.body)).isOk
  answersWrite : AnswersWrite s.write written
  flushed_status : flushed.header.status = s.flush
  closed_status : closed.header.status = s.close

namespace CommandFrames

variable {s : Statuses} (f : CommandFrames s)

def responses : Except Error (List (Except Error Frame)) :=
  .ok [.ok f.created, .ok f.written, .ok f.flushed, .ok f.closed]

def handle : HandleAnswers := ⟨.ok f.created, .ok f.flushed, .ok f.closed⟩

end CommandFrames

section Answers

variable {s : Statuses}

lemma checkStatus_isOk {command : Command} {frame : Frame} {status : NtStatus}
    (h : frame.header.status = status) :
    (checkStatus command (.ok frame)).isOk = decide (status = NtStatus.success) := by
  subst h
  by_cases hok : frame.header.status = NtStatus.success <;>
    simp [checkStatus, hok, bind, Except.bind, pure, Except.pure, throw, throwThe,
      MonadExceptOf.throw, Except.isOk, Except.toBool]

lemma AnswersWrite.isOk {status : NtStatus} {frame : Frame} (h : AnswersWrite status frame) :
    (writeCount (.ok frame)).isOk = decide (status = NtStatus.success) := by
  by_cases hok : status = NtStatus.success
  · rw [writeCount_of_success (h.status_eq.trans hok), decide_eq_true hok]
    have hparses := h.parses hok
    cases hunpack : WriteResponse.unpack (.new frame.body) with
    | error e =>
      rw [hunpack] at hparses
      cases hparses
    | ok parsed => rfl
  · rw [writeCount_of_failure (by rwa [h.status_eq]), decide_eq_false hok]
    rfl

lemma CommandFrames.openedFile_isOk (f : CommandFrames s) :
    (openedFile (.ok f.created)).isOk = decide (s.create = NtStatus.success) := by
  by_cases hok : s.create = NtStatus.success
  · have hparses := f.created_parses hok
    cases hunpack : CreateResponse.unpack (.new f.created.body) with
    | error e =>
      rw [hunpack] at hparses
      cases hparses
    | ok parsed =>
      simp [openedFile, f.created_status, hok, hunpack, bind, Except.bind, pure, Except.pure,
        Except.isOk, Except.toBool]
  · simp [openedFile, f.created_status, hok, bind, Except.bind, throw, throwThe,
      MonadExceptOf.throw, Except.isOk, Except.toBool]

/-! ## When each path succeeds -/

lemma writeFileCompound_isOk (f : CommandFrames s) :
    (writeFileCompound f.responses).isOk =
      (decide (s.create = NtStatus.success) && decide (s.write = NtStatus.success)) := by
  rw [← f.openedFile_isOk, ← f.answersWrite.isOk]
  have hframes : writeFileCompound f.responses =
      (openedFile (.ok f.created) >>= fun _ => writeCount (.ok f.written)) := rfl
  rw [hframes]
  cases openedFile (.ok f.created) with
  | error e => rfl
  | ok handle => rfl

lemma flushAndClose_isOk (f : CommandFrames s) (result : Except Error ℕ) :
    (flushAndClose f.handle result).isOk =
      (result.isOk && decide (s.flush = NtStatus.success) &&
        decide (s.close = NtStatus.success)) := by
  have hflush : (checkStatus .flush f.handle.flushed).isOk = decide (s.flush = NtStatus.success) :=
    checkStatus_isOk f.flushed_status
  have hclose : (checkStatus .close f.handle.closed).isOk = decide (s.close = NtStatus.success) :=
    checkStatus_isOk f.closed_status
  rw [← hflush, ← hclose]
  unfold flushAndClose
  cases result with
  | error e => rfl
  | ok n =>
    cases checkStatus .flush f.handle.flushed <;> cases checkStatus .close f.handle.closed <;> rfl

variable {plan : WritePlan} {run : List WriteAnswer} {result : Except Error ℕ}

lemma isOk_of_exec {flight : WriteFlight}
    (hrun : Transition.exec (pipelinedLoop plan).step ((pipelinedLoop plan).start 0) run =
      some (.returned result flight)) :
    result.isOk = run.all fun a => (writeCount a.result).isOk := by
  -- A settled loop runs or has returned `Ok`.
  have hsettle : ∀ vars state, (pipelinedLoop plan).settle vars = state →
      ∀ result flight, state = .returned result flight → result.isOk = true := by
    rintro vars state rfl result flight h
    unfold WriteLoop.settle at h
    split at h
    · cases h
    · obtain ⟨rfl, -⟩ := WriteState.returned.inj h
      rfl
  let I : List WriteAnswer → WriteState ℕ → Prop := fun run state =>
    (state.isReturned = false → run.all fun a => (writeCount a.result).isOk) ∧
      ∀ result flight, state = .returned result flight →
        result.isOk = run.all fun a => (writeCount a.result).isOk
  have hI : I run (.returned result flight) := by
    refine Transition.exec_history (I := I) ⟨fun _ => rfl, fun result flight h => ?_⟩ ?_ hrun
    · exact hsettle _ _ rfl result flight h
    · intro run state a state' _ hbefore hstep
      obtain ⟨vars, flight, rfl, hanswer, hcase⟩ := WriteLoop.step_eq_some hstep
      have hall := hbefore.1 rfl
      obtain ⟨e, hcount, rfl⟩ | ⟨n, hcount, ⟨hcancel, -⟩ | rfl⟩ := hcase
      · refine ⟨fun h => absurd h (by simp [WriteState.isReturned]), fun result flight' h => ?_⟩
        obtain ⟨rfl, -⟩ := WriteState.returned.inj h
        simp [all_append, hcount, Except.isOk, Except.toBool]
      · cases hcancel
      · have hone : (run ++ [a]).all fun a => (writeCount a.result).isOk := by
          rw [all_append, hall]
          simp [hcount, Except.isOk, Except.toBool]
        refine ⟨fun _ => hone, fun result flight' h => ?_⟩
        rw [hone]
        exact hsettle _ _ rfl result flight' h
  exact hI.2 result flight rfl

lemma run_ne_nil (hdata : plan.data ≠ []) {flight : WriteFlight}
    (hrun : Transition.exec (pipelinedLoop plan).step ((pipelinedLoop plan).start 0) run =
      some (.returned result flight)) :
    run ≠ [] := by
  rintro rfl
  have hok := isOk_of_exec hrun
  cases result with
  | error e => cases hok
  | ok n =>
    obtain ⟨htiles, hidle, -⟩ := WriteLoop.of_returned (show 0 < maxPipelineWindow by decide) hrun
    have hanswered := WriteLoop.length_answered_of_exec hrun
    have hlaunched := flight.accounted.length_eq
    rw [hidle, append_nil, length_map] at hlaunched
    have hnil : flight.launched = [] := by
      rw [← length_eq_zero_iff, ← hlaunched]
      exact hanswered
    have hlength := htiles.sum_length
    rw [hnil] at hlength
    apply hdata
    simpa [pipelinedLoop, WritePlan.source] using hlength.symm

lemma runWrite_isOk (f : CommandFrames s) (hdata : plan.data ≠ [])
    (hrun : ∀ a ∈ run, ∃ frame, a.result = .ok frame ∧ AnswersWrite s.write frame)
    {answered : List (Extent UInt8 × Except Error Frame)}
    (h : runWrite (pipelinedLoop plan) 0 f.handle run = some (result, answered)) :
    result.isOk =
      (decide (s.create = NtStatus.success) && decide (s.write = NtStatus.success) &&
        decide (s.flush = NtStatus.success) && decide (s.close = NtStatus.success)) := by
  have hopened := f.openedFile_isOk
  unfold runWrite at h
  split at h
  · rename_i e hopen
    rw [show openedFile (.ok f.created) = .error e from hopen] at hopened
    rw [← hopened]
    split at h
    · obtain ⟨rfl, -⟩ := Prod.mk.inj (Option.some.inj h)
      rfl
    · cases h
  · rename_i fileId hopen
    rw [show openedFile (.ok f.created) = .ok fileId from hopen] at hopened
    split at h
    · rename_i result' flight hexec
      obtain ⟨rfl, -⟩ := Prod.mk.inj (Option.some.inj h)
      have hall : (run.all fun a => (writeCount a.result).isOk) =
          decide (s.write = NtStatus.success) := by
        have hone : ∀ a ∈ run, (writeCount a.result).isOk = decide (s.write = NtStatus.success) := by
          intro a ha
          obtain ⟨frame, hframe, hanswers⟩ := hrun a ha
          rw [hframe, hanswers.isOk]
        cases run with
        | nil => exact absurd rfl (run_ne_nil hdata hexec)
        | cons a run =>
          rw [all_cons, hone a (mem_cons_self ..)]
          cases hwrite : decide (s.write = NtStatus.success) with
          | false => rfl
          | true =>
            rw [Bool.true_and, all_eq_true]
            intro a ha
            rw [hone a (mem_cons_of_mem _ ha), hwrite]
      rw [flushAndClose_isOk, isOk_of_exec hexec, hall, ← hopened]
      rfl
    · cases h

end Answers

/-! ## Where the paths agree -/

/-- **The paths agree** on statuses: both succeed or none does, and a success means that the FLUSH
succeeded. -/
def PathsAgree (s : Statuses) (compound pipelined : Except Error ℕ) : Prop :=
  (compound.isOk ↔ pipelined.isOk) ∧ (compound.isOk → s.flush = NtStatus.success) ∧
    (pipelined.isOk → s.flush = NtStatus.success)

def AllAnswer (status : NtStatus) (run : List WriteAnswer) : Prop :=
  ∀ a ∈ run, ∃ frame, a.result = .ok frame ∧ AnswersWrite status frame

lemma exists_writeFilePipelined {maxWrite : UInt32} (hpos : 0 < maxWrite.toNat) (data : Bytes)
    {s : Statuses} (f : CommandFrames s) :
    ∃ run outcome, AllAnswer s.write run ∧
      writeFilePipelined maxWrite data f.responses f.handle run = some outcome := by
  by_cases hdata : data = []
  · exact ⟨[], (writeFileCompound f.responses, compoundAnswered data f.responses),
      fun a ha => absurd ha not_mem_nil, if_pos hdata⟩
  · simp only [writeFilePipelined_eq hdata hpos, runWrite]
    cases openedFile f.handle.created with
    | error e => exact ⟨[], (.error e, []), fun a ha => absurd ha not_mem_nil, rfl⟩
    | ok fileId =>
      have hwindow : 0 < maxPipelineWindow := by decide
      have honce := sendsOnce_of_bounded (pipelinedLoop ⟨data, maxWrite.toNat, hpos⟩) 0 hwindow rfl
        (by simp [pipelinedLoop, WritePlan.source])
        fun _ _ _ hnext => WritePlan.next_bounded ⟨data, maxWrite.toNat, hpos⟩ hnext
      obtain ⟨run, state, hrun, hreturned, hresults⟩ := honce.exists_returned (.ok f.written)
      cases state with
      | running vars => cases hreturned
      | returned result flight =>
        refine ⟨run, (flushAndClose f.handle result, flight.answered), fun a ha => ?_, ?_⟩
        · exact ⟨f.written, hresults a ha, f.answersWrite⟩
        · simp only [hrun]

/-- **Where the two paths of `write_file` agree.** The pipelined path returns, and for every way in
which it does, the two paths agree exactly if the CREATE or the WRITE fails, or the FLUSH succeeds
and so does the CLOSE, unless there is no data. -/
theorem write_paths_agree_iff {maxWrite : UInt32} (hpos : 0 < maxWrite.toNat) (data : Bytes)
    {s : Statuses} (f : CommandFrames s) :
    (∃ run outcome, AllAnswer s.write run ∧
      writeFilePipelined maxWrite data f.responses f.handle run = some outcome) ∧
    ∀ run result answered, AllAnswer s.write run →
      writeFilePipelined maxWrite data f.responses f.handle run = some (result, answered) →
        (PathsAgree s (writeFileCompound f.responses) result ↔
          s.create ≠ NtStatus.success ∨ s.write ≠ NtStatus.success ∨
            s.flush = NtStatus.success ∧ (s.close = NtStatus.success ∨ data = [])) := by
  refine ⟨exists_writeFilePipelined hpos data f, fun run result answered hrun h => ?_⟩
  have hcompound := writeFileCompound_isOk f
  by_cases hdata : data = []
  · -- Without data the pipelined path is the compound one.
    rw [writeFilePipelined, if_pos hdata] at h
    obtain ⟨rfl, -⟩ := Prod.mk.inj (Option.some.inj h)
    simp only [PathsAgree, hcompound, hdata]
    by_cases hcreate : s.create = NtStatus.success <;>
      by_cases hwrite : s.write = NtStatus.success <;> simp [hcreate, hwrite]
  · rw [writeFilePipelined_eq hdata hpos] at h
    have hpipelined := runWrite_isOk f hdata hrun h
    simp only [PathsAgree, hcompound, hpipelined, hdata]
    by_cases hcreate : s.create = NtStatus.success <;>
      by_cases hwrite : s.write = NtStatus.success <;> simp [hcreate, hwrite]
    tauto

/-! ### A FLUSH that fails -/

def diskFull : NtStatus := 0xC000007F

def flushFrames (status : NtStatus) :
    CommandFrames ⟨NtStatus.success, NtStatus.success, status, NtStatus.success⟩ where
  created := WriteCall.created
  written := WriteCall.taken 3
  flushed := { WriteCall.succeeded .flush with header := { answerHeader status with
    command := .flush } }
  closed := WriteCall.succeeded .close
  created_status := rfl
  created_parses _ := by decide +kernel
  answersWrite := ⟨rfl, fun _ => by decide +kernel⟩
  flushed_status := rfl
  closed_status := rfl

theorem write_paths_agree_allSucceed :
    ∃ run outcome, writeFilePipelined 65536 [1, 2, 3] (flushFrames NtStatus.success).responses
        (flushFrames NtStatus.success).handle run = some outcome ∧
      PathsAgree ⟨NtStatus.success, NtStatus.success, NtStatus.success, NtStatus.success⟩
        (writeFileCompound (flushFrames NtStatus.success).responses) outcome.1 := by
  have hagree := write_paths_agree_iff (by decide : 0 < (65536 : UInt32).toNat) [1, 2, 3]
    (flushFrames NtStatus.success)
  obtain ⟨run, outcome, hrun, houtcome⟩ := hagree.1
  exact ⟨run, outcome, houtcome,
    (hagree.2 run outcome.1 outcome.2 hrun houtcome).2 (.inr (.inr ⟨rfl, .inl rfl⟩))⟩

/-- **The disk is full at the FLUSH.** The compound path returns `Ok` with three bytes written; the
pipelined path, for the same statuses, an error. -/
theorem failedFlush_accepted :
    writeFileCompound (flushFrames diskFull).responses = .ok 3 ∧
      writeFilePipelined 65536 [1, 2, 3] (flushFrames diskFull).responses
          (flushFrames diskFull).handle [⟨0, .ok (WriteCall.taken 3), false⟩] =
        some (.error (.protocol diskFull .flush), [(⟨0, [1, 2, 3]⟩, .ok (WriteCall.taken 3))]) := by
  decide +kernel

end Smb2.Tree
