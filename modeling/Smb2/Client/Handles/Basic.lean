import Smb2.Client.Tree.Write
import Smb2.Lib.Exchange
import Smb2.Msg.CreateContext

set_option autoImplicit false

/-!
# Calls that open a file

The calls of `client/tree.rs`, `client/mod.rs` and `client/stream.rs` that open a file, work on it
and close it, as far as the handle goes: which requests they send, one after the other, and what
they make of the answers. What goes on inside a pipelined loop is taken from the models of the
loops.

## Implementation notes

The connection stays up: every request is sent, and answered with a frame of any status and body or
with an error of `execute` that leaves the connection up, such as that of an expired session. The
READs and WRITEs of the pipelined loops are not logged. A compound is logged with the answer to its
CREATE.
-/

open List

namespace Smb2

namespace Handles

open Connection (Frame)
open Exchange
open Prog (attempt fail lift diverge)
open Tree (checkStatus openedFile writeCount)

inductive Request
  | create
  | write (file : FileId) (extent : Extent UInt8)
  /-- A WRITE of a writer that its user keeps when the WRITE fails, or is about to give up. -/
  | pushed (file : FileId) (extent : Extent UInt8)
  | flush (file : FileId)
  | close (file : FileId)
  | writeCompound
  /-- CREATE with the request for a durable handle, and two QUERY_INFO, in one frame. -/
  | durableCompound
  /-- CREATE that reclaims a durable handle, and two QUERY_INFO, in one frame. -/
  | reclaimCompound
deriving DecidableEq

abbrev LinkM (α : Type) := Prog (Exchange Request Error Frame) Error α

abbrev Log := List (Request × Except Error Frame)

/-! ## Handles -/

def createResponse (answer : Except Error Frame) : Except Error CreateResponse := do
  let frame ← answer
  if frame.header.status ≠ NtStatus.success then
    throw (.protocol frame.header.status .create)
  let (resp, _) ← CreateResponse.unpack (.new frame.body)
  return resp

def openFile : LinkM CreateResponse := do
  let frame ← ask .create
  lift (createResponse (.ok frame))

def flushHandle (file : FileId) : LinkM Unit := do
  let frame ← ask (.flush file)
  lift (checkStatus .flush (.ok frame))

def closeHandle (file : FileId) : LinkM Unit := do
  let frame ← ask (.close file)
  lift (checkStatus .close (.ok frame))

def bestEffortClose (file : FileId) : LinkM Unit := do
  let _ ← attempt (closeHandle file)

/-! ## Calls with a loop -/

def readLoop (variant : Tree.ReadVariant) (plan : Tree.ReadPlan) (run : List Tree.Completion) :
    LinkM (Except Error Bytes) :=
  match Transition.exec (Tree.ReadState.step plan variant)
      (Tree.ReadState.settle plan (Tree.ReadLoop.start plan)) run with
  | some (.returned result) => pure result
  | _ => diverge

def readFilePipelined (variant : Tree.ReadVariant) (maxRead : UInt32)
    (run : List Tree.Completion) : LinkM Bytes := do
  let resp ← openFile
  if resp.endOfFile = 0 then do
    closeHandle resp.fileId
    return []
  else
    match Tree.ReadPlan.make resp.endOfFile.toNat maxRead with
    | none => diverge
    | some plan => do
      let result ← readLoop variant plan run
      let closeResult ← attempt (closeHandle resp.fileId)
      let data ← lift result
      lift closeResult
      return data

def writeLoop {σ : Type} (loop : Tree.WriteLoop σ) (source : σ) (run : List Tree.WriteAnswer) :
    LinkM (Except Error ℕ) :=
  match Transition.exec loop.step (loop.start source) run with
  | some (.returned result _) => pure result
  | _ => diverge

def flushIfOk (file : FileId) (result : Except Error ℕ) : LinkM Unit :=
  if result.isOk then flushHandle file else pure ()

/-- `write_file_pipelined` and `write_file_streamed` from the CREATE on: the loop, a FLUSH if it has
succeeded, and a CLOSE. -/
def openAndWrite {σ : Type} (loop : Tree.WriteLoop σ) (source : σ) (run : List Tree.WriteAnswer) :
    LinkM ℕ := do
  let resp ← openFile
  let result ← writeLoop loop source run
  flushIfOk resp.fileId result
  let closeResult ← attempt (closeHandle resp.fileId)
  let bytesWritten ← lift result
  lift closeResult
  return bytesWritten

abbrev Responses := Except Error (List (Except Error Frame))

def firstOf : Responses → Except Error Frame
  | .error e => .error e
  | .ok [] => .error (.invalidData "compound CREATE produced no response")
  | .ok (first :: _) => first

/-- `write_file_compound`: if the WRITE has failed, the CLOSE of the compound has failed with it, and
another is sent. -/
def writeFileCompound (responses : Responses) : LinkM ℕ := do
  post .writeCompound (firstOf responses)
  let frames ← lift responses
  match ← lift (Tree.allOrFirstErr frames 4) with
  | [create, write, _, _] => do
    let resp ← lift (createResponse (.ok create))
    if write.header.status ≠ NtStatus.success then do
      bestEffortClose resp.fileId
      fail (.protocol write.header.status .write)
    else lift (writeCount (.ok write))
  | _ => fail (.invalidData "unreachable")

def writeFilePipelined (maxWrite : UInt32) (data : Bytes) (responses : Responses)
    (run : List Tree.WriteAnswer) : LinkM ℕ :=
  if data = [] then writeFileCompound responses
  else if hpos : 0 < maxWrite.toNat then
    let plan : Tree.WritePlan := ⟨data, maxWrite.toNat, hpos⟩
    openAndWrite { plan.source with window := Tree.maxPipelineWindow, withProgress := false,
                                    failure := fun _ => none } 0 run
  else diverge

def writeFileStreamed (maxWrite : UInt32) (callback : List (Except String Bytes))
    (run : List Tree.WriteAnswer) : LinkM ℕ :=
  openAndWrite { Tree.StreamSource.source maxWrite.toNat with
                 window := Tree.maxPipelineWindow, withProgress := false,
                 failure := fun s => s.callbackErr.map Error.io } (.start callback) run

/-! ## Calls that wait for each answer -/

/-- The loop of `write_file_with_progress` and what follows it, in at most `n` rounds; `breaks` is
what the progress callback will return. -/
def writeWithProgress (file : FileId) (data : Bytes) (maxWrite : ℕ) :
    ℕ → (offset totalWritten : ℕ) → List Bool → LinkM ℕ
  | 0, _, _, _ => diverge
  | n + 1, offset, totalWritten, breaks =>
    if offset < data.length then do
      let chunkSize := min (data.length - offset) maxWrite
      let frame ← ask (.write file ⟨offset, slice data offset (offset + chunkSize)⟩)
      if frame.header.status ≠ NtStatus.success then do
        bestEffortClose file
        fail (.protocol frame.header.status .write)
      else do
        let (resp, _) ← lift (WriteResponse.unpack (.new frame.body))
        if breaks.headD false then do
          bestEffortClose file
          fail .cancelled
        else
          writeWithProgress file data maxWrite n (offset + chunkSize)
            (totalWritten + resp.count.toNat) breaks.tail
    else do
      flushHandle file
      closeHandle file
      return totalWritten

def writeFileWithProgress (n : ℕ) (maxWrite : UInt32) (data : Bytes) (breaks : List Bool) :
    LinkM ℕ := do
  let resp ← openFile
  writeWithProgress resp.fileId data maxWrite.toNat n 0 0 breaks

structure FileUpload where
  fileId : FileId
  data : Bytes
  bytesWritten : ℕ
  chunkSize : ℕ
  done : Bool

namespace FileUpload

def flushAndClose (u : FileUpload) : LinkM (Except Error Bool × FileUpload) := do
  let result ← attempt do
    flushHandle u.fileId
    closeHandle u.fileId
  return (result.map fun _ => false, { u with done := true })

def receive (u : FileUpload) : Except Error Frame → LinkM (Except Error Bool × FileUpload)
  | .error e => return (.error e, { u with done := true })
  | .ok frame =>
    if frame.header.status ≠ NtStatus.success then do
      bestEffortClose u.fileId
      return (.error (.protocol frame.header.status .write), { u with done := true })
    else
      match WriteResponse.unpack (.new frame.body) with
      | .error e => return (.error e, u)
      | .ok (resp, _) =>
        let u := { u with bytesWritten := u.bytesWritten + resp.count.toNat }
        if u.data.length ≤ u.bytesWritten then u.flushAndClose else return (.ok true, u)

def writeNextChunk (u : FileUpload) : LinkM (Except Error Bool × FileUpload) :=
  if u.done then return (.ok false, u)
  else if u.data.length ≤ u.bytesWritten then u.flushAndClose
  else do
    let thisChunk := min (u.data.length - u.bytesWritten) u.chunkSize
    let answer ← attempt (ask (.write u.fileId
      ⟨u.bytesWritten, slice u.data u.bytesWritten (u.bytesWritten + thisChunk)⟩))
    u.receive answer

def drive : ℕ → FileUpload → LinkM Unit
  | 0, _ => diverge
  | n + 1, u => do
    match ← u.writeNextChunk with
    | (.ok true, u) => drive n u
    | (.ok false, _) => return ()
    | (.error e, _) => fail e

end FileUpload

def upload (n : ℕ) (maxWrite : UInt32) (data : Bytes) (responses : Responses) : LinkM Unit :=
  if data.length ≤ maxWrite.toNat then do
    let _ ← writeFileCompound responses
    FileUpload.drive n ⟨⟨0xFFFFFFFFFFFFFFFF, 0xFFFFFFFFFFFFFFFF⟩, [], data.length, 0, true⟩
  else do
    let resp ← openFile
    FileUpload.drive n ⟨resp.fileId, data, 0, maxWrite.toNat, false⟩

/-! ## What is asked of the answers -/

def Closed (file : FileId) (log : Log) : Prop :=
  ∃ entry ∈ log, entry.1 = .close file ∨ entry.1 = .writeCompound

def Accepted (answer : Except Error Frame) : Prop :=
  ∃ frame, answer = .ok frame ∧ frame.header.status = NtStatus.success

def Readable (answer : Except Error Frame) : Prop :=
  ∃ frame, answer = .ok frame ∧
    (frame.header.status = NtStatus.success →
      ∃ parsed, WriteResponse.unpack (.new frame.body) = .ok parsed)

/-- What a request needs as its answer, for the handle to be closed or handed out in the end: a WRITE
one that can be read, a FLUSH a success, and the request for a durable handle one whose create
contexts can be read. -/
def Request.Needs : Request → Except Error Frame → Prop
  | .write _ _, answer => Readable answer
  | .flush _, answer => Accepted answer
  | .durableCompound, answer => ∀ resp, createResponse answer = .ok resp →
      ∃ grant, DurableGrant.ofContexts resp.createContexts = .ok grant
  | _, _ => True

def Sound (log : Log) : Prop := ∀ entry ∈ log, entry.1.Needs entry.2

def Opened (file : FileId) (log : Log) : Prop :=
  ∃ request answer rest, log = (request, answer) :: rest ∧ openedFile answer = .ok file

@[simp] lemma sound_nil : Sound [] := forall_mem_nil _

variable {log more : Log} {file : FileId} {α : Type} {m : LinkM α}

@[simp] lemma sound_cons {entry : Request × Except Error Frame} {log : Log} :
    Sound (entry :: log) ↔ entry.1.Needs entry.2 ∧ Sound log := forall_mem_cons

@[simp] lemma not_closed_nil {file : FileId} : ¬ Closed file [] :=
  fun ⟨_, hmem, _⟩ => not_mem_nil hmem

@[simp] lemma closed_cons {file : FileId} {entry : Request × Except Error Frame} {log : Log} :
    Closed file (entry :: log) ↔
      (entry.1 = .close file ∨ entry.1 = .writeCompound) ∨ Closed file log := by
  rw [Closed, exists_mem_cons_iff]
  rfl

@[simp] lemma sound_append {log more : Log} : Sound (log ++ more) ↔ Sound log ∧ Sound more :=
  forall_mem_append

@[simp] lemma closed_append {file : FileId} {log more : Log} :
    Closed file (log ++ more) ↔ Closed file log ∨ Closed file more := by
  simp only [Closed, mem_append, or_and_right, exists_or]

/-! ## What the calls leave in the log -/

def Settles {α : Type} (file : FileId) (m : LinkM α) : Prop :=
  Leaves m fun _ new => Closed file new ↔ Sound new

/-- **A whole call**: whatever handle its CREATE opens, it is closed exactly if the answers allow
it. -/
def ClosesIfSound {α : Type} (m : LinkM α) : Prop :=
  Leaves m fun _ new => ∀ file, Opened file new → (Closed file new ↔ Sound new)

lemma checked_leaves (request : Request) (command : Command) :
    Leaves (do lift (checkStatus command (.ok (← ask request)))) fun x new =>
      ∃ answer, new = [(request, answer)] ∧ x = checkStatus command answer :=
  Leaves.ask_bind (fun _ => Leaves.lift ⟨_, rfl, rfl⟩) fun _ => ⟨_, rfl, rfl⟩

lemma closeHandle_leaves (file : FileId) :
    Leaves (closeHandle file) fun _ new => ∃ answer, new = [(.close file, answer)] :=
  (checked_leaves (.close file) .close).weaken fun _ _ ⟨answer, hnew, _⟩ => ⟨answer, hnew⟩

lemma settles_of_close (h : Leaves m fun _ new => ∃ answer, new = [(.close file, answer)]) :
    Settles file m := by
  refine h.weaken ?_
  rintro x new ⟨answer, rfl⟩
  simp [Request.Needs]

lemma bestEffortClose_bind {R : Except Error α → Log → Prop}
    (hm : ∀ answer, Leaves m fun x more => R x ((.close file, answer) :: more)) :
    Leaves (do bestEffortClose file; m) R := by
  have hclose : Leaves (bestEffortClose file) fun x new =>
      ∃ u, x = .ok u ∧ ∃ answer, new = [(.close file, answer)] := by
    refine (closeHandle_leaves file).attempt.bind_ok ?_
    rintro result new ⟨answer, rfl⟩
    exact Leaves.pure ⟨(), rfl, answer, rfl⟩
  refine hclose.bind_ok ?_
  rintro - new ⟨answer, rfl⟩
  exact hm answer

lemma settles_bestEffortClose (hm : Leaves m fun _ new => new = []) :
    Settles file (do bestEffortClose file; m) := by
  refine bestEffortClose_bind fun answer => hm.weaken ?_
  rintro x more rfl
  simp [Request.Needs]

lemma checkStatus_eq_ok {command : Command} {answer : Except Error Frame} :
    checkStatus command answer = .ok () ↔ Accepted answer := by
  cases answer with
  | error e => simp [checkStatus, Accepted, bind, Except.bind]
  | ok frame =>
    by_cases hstatus : frame.header.status = NtStatus.success
    · simp [checkStatus, Accepted, hstatus, bind, Except.bind, pure, Except.pure]
    · simp [checkStatus, Accepted, hstatus, bind, Except.bind, throw, throwThe,
        MonadExceptOf.throw]

lemma flushHandle_leaves (file : FileId) :
    Leaves (flushHandle file) fun x new =>
      ∃ answer, new = [(.flush file, answer)] ∧ (x = .ok () ↔ Accepted answer) := by
  refine (checked_leaves (.flush file) .flush).weaken ?_
  rintro x new ⟨answer, hnew, rfl⟩
  exact ⟨answer, hnew, checkStatus_eq_ok⟩

lemma settles_flushHandle (hm : Settles file m) :
    Settles file (do flushHandle file; m) := by
  refine Leaves.bind (flushHandle_leaves file) ?_ ?_
  · rintro ⟨⟩ new ⟨answer, rfl, haccepted⟩
    refine hm.weaken fun x more hmore => ?_
    have hanswer : Accepted answer := haccepted.1 rfl
    simpa [Request.Needs, hanswer] using hmore
  · rintro e new ⟨answer, rfl, haccepted⟩
    have hanswer : ¬ Accepted answer := fun h => by cases haccepted.2 h
    simp [Request.Needs, hanswer]

lemma openedFile_eq (answer : Except Error Frame) :
    openedFile answer = (createResponse answer).map (·.fileId) := by
  cases answer with
  | error e => rfl
  | ok frame =>
    unfold openedFile createResponse
    by_cases hstatus : frame.header.status = NtStatus.success
    · simp only [bind, Except.bind, hstatus, ne_eq, not_true_eq_false, if_false, pure, Except.pure]
      cases CreateResponse.unpack (.new frame.body) with
      | error e => rfl
      | ok parsed => rfl
    · simp [bind, Except.bind, hstatus, throw, throwThe, MonadExceptOf.throw, Except.map]

lemma opened_cons {request : Request} {answer : Except Error Frame} :
    Opened file ((request, answer) :: more) ↔
      ∃ resp, createResponse answer = .ok resp ∧ resp.fileId = file := by
  constructor
  · rintro ⟨_, first, rest, hlog, hopened⟩
    obtain ⟨hfirst, -⟩ := cons.inj hlog
    obtain ⟨-, rfl⟩ := Prod.mk.inj hfirst
    rw [openedFile_eq] at hopened
    cases hresp : createResponse answer with
    | error e =>
      rw [hresp] at hopened
      cases hopened
    | ok resp =>
      rw [hresp] at hopened
      exact ⟨resp, rfl, Except.ok.inj hopened⟩
  · rintro ⟨resp, hresp, rfl⟩
    refine ⟨request, answer, more, rfl, ?_⟩
    rw [openedFile_eq, hresp]
    rfl

lemma openFile_bind_leaves {body : CreateResponse → LinkM α}
    {P : FileId → Except Error α → Log → Prop}
    (h : ∀ resp, Leaves (body resp) fun x more => P resp.fileId x more) :
    Leaves (openFile >>= body) fun x new => ∀ file, Opened file new →
      ∃ answer more, new = (.create, answer) :: more ∧ P file x more := by
  have hopen : Leaves openFile fun x new =>
      ∃ answer, new = [(.create, answer)] ∧ x = createResponse answer :=
    Leaves.ask_bind (fun _ => Leaves.lift ⟨_, rfl, rfl⟩) fun _ => ⟨_, rfl, rfl⟩
  refine Leaves.bind hopen ?_ ?_
  · rintro resp new ⟨answer, rfl, hresp⟩
    refine (h resp).weaken fun x more hmore file hopened => ?_
    obtain ⟨_, hfile, rfl⟩ := opened_cons.1 hopened
    obtain rfl := Except.ok.inj (hresp.trans hfile)
    exact ⟨answer, more, rfl, hmore⟩
  · rintro e new ⟨answer, rfl, hresp⟩ file hopened
    obtain ⟨_, hfile, -⟩ := opened_cons.1 hopened
    cases hresp.trans hfile

lemma closesIfSound_openFile {body : CreateResponse → LinkM α}
    (h : ∀ resp, Settles resp.fileId (body resp)) : ClosesIfSound (openFile >>= body) := by
  refine (openFile_bind_leaves (P := fun file _ more => Closed file more ↔ Sound more) h).weaken
    fun x new hnew file hopened => ?_
  obtain ⟨answer, more, rfl, hmore⟩ := hnew file hopened
  simpa [Request.Needs] using hmore

/-! ## The calls with a loop -/

lemma settles_attempt_close (file : FileId) {f : Except Error Unit → LinkM α}
    (hf : ∀ result, Leaves (f result) fun _ new => new = []) :
    Settles file (attempt (closeHandle file) >>= f) := by
  refine (closeHandle_leaves file).attempt.bind_ok ?_
  rintro result new ⟨answer, rfl⟩
  refine (hf result).weaken ?_
  rintro x more rfl
  simp [Request.Needs]

lemma leaves_results (result : Except Error α) (closeResult : Except Error Unit) :
    Leaves (ρ := Request) (β := Frame) (do
      let a ← lift result
      lift closeResult
      return a) fun _ new => new = [] :=
  Leaves.lift_bind (fun _ _ => Leaves.lift_bind (fun _ _ => Leaves.pure rfl) fun _ _ => rfl)
    fun _ _ => rfl

lemma settles_silent_bind {γ : Type} {f : α → LinkM γ}
    (hm : Leaves m fun x new => ∃ a, x = .ok a ∧ new = []) (hf : ∀ a, Settles file (f a)) :
    Settles file (m >>= f) := by
  refine hm.bind_ok ?_
  rintro a new rfl
  exact hf a

theorem readFilePipelined_leaves (variant : Tree.ReadVariant) (maxRead : UInt32)
    (run : List Tree.Completion) : ClosesIfSound (readFilePipelined variant maxRead run) := by
  refine closesIfSound_openFile fun resp => Leaves.ite (fun _ => ?_) fun _ => ?_
  · refine settles_of_close (Leaves.bind (closeHandle_leaves resp.fileId) ?_ fun e new h => h)
    rintro - new ⟨answer, rfl⟩
    exact Leaves.pure ⟨answer, rfl⟩
  · split
    · exact Leaves.diverge
    · refine settles_silent_bind ?_ fun result =>
        settles_attempt_close resp.fileId fun closeResult => leaves_results result closeResult
      unfold readLoop
      split
      · exact Leaves.pure ⟨_, rfl, rfl⟩
      · exact Leaves.diverge

lemma openAndWrite_leaves {σ : Type} (loop : Tree.WriteLoop σ) (source : σ)
    (run : List Tree.WriteAnswer) : ClosesIfSound (openAndWrite loop source run) := by
  refine closesIfSound_openFile fun resp => settles_silent_bind ?_ fun result => ?_
  · unfold writeLoop
    split
    · exact Leaves.pure ⟨_, rfl, rfl⟩
    · exact Leaves.diverge
  · have hclose := settles_attempt_close resp.fileId
      fun closeResult => leaves_results result closeResult
    unfold flushIfOk
    split
    · exact settles_flushHandle hclose
    · exact hclose

lemma writeFileCompound_leaves (responses : Responses) :
    Leaves (writeFileCompound responses) fun _ new =>
      ∃ answer more, new = (.writeCompound, answer) :: more ∧ Sound more := by
  refine Leaves.post_bind (Leaves.weaken (Q := fun _ more => Sound more) ?_
    fun x more hmore => ⟨_, more, rfl, hmore⟩)
  refine Leaves.lift_bind (fun frames _ => Leaves.lift_bind (fun parsed _ => ?_) ?_) ?_
  · split
    · refine Leaves.lift_bind (fun resp _ => Leaves.ite (fun _ => ?_) fun _ => ?_) fun _ _ => ?_
      · exact bestEffortClose_bind fun answer => Leaves.fail (by simp [Request.Needs])
      · exact Leaves.lift sound_nil
      · exact sound_nil
    · exact Leaves.fail sound_nil
  · exact fun _ _ => sound_nil
  · exact fun _ _ => sound_nil

theorem writeFilePipelined_leaves (maxWrite : UInt32) (data : Bytes) (responses : Responses)
    (run : List Tree.WriteAnswer) :
    ClosesIfSound (writeFilePipelined maxWrite data responses run) := by
  refine Leaves.ite (fun _ => ?_) fun _ => ?_
  · refine (writeFileCompound_leaves responses).weaken ?_
    rintro x new ⟨answer, more, rfl, hmore⟩ file -
    simpa [Request.Needs] using hmore
  · split
    · exact openAndWrite_leaves _ _ run
    · exact Leaves.diverge

theorem writeFileStreamed_leaves (maxWrite : UInt32) (callback : List (Except String Bytes))
    (run : List Tree.WriteAnswer) : ClosesIfSound (writeFileStreamed maxWrite callback run) :=
  openAndWrite_leaves _ _ run

/-! ## The calls that wait for each answer -/

lemma settles_write {extent : Extent UInt8} {f : Frame → LinkM α}
    (hread : ∀ frame, Readable (.ok frame) → Settles file (f frame))
    (hunread : ∀ frame, ¬ Readable (.ok frame) → Leaves (f frame) fun _ new => new = []) :
    Settles file (ask (.write file extent) >>= f) := by
  refine Leaves.ask_bind (fun frame => ?_) fun e => ?_
  · by_cases hframe : Readable (.ok frame)
    · refine (hread frame hframe).weaken fun x more hmore => ?_
      simpa [Request.Needs, hframe] using hmore
    · refine (hunread frame hframe).weaken ?_
      rintro x more rfl
      simp [Request.Needs, hframe]
  · simp [Request.Needs, Readable]

lemma writeWithProgress_settles (file : FileId) (data : Bytes) (maxWrite n : ℕ) :
    ∀ (offset totalWritten : ℕ) (breaks : List Bool),
      Settles file (writeWithProgress file data maxWrite n offset totalWritten breaks) := by
  induction n with
  | zero => exact fun _ _ _ => Leaves.diverge
  | succ n ih =>
    intro offset totalWritten breaks
    refine Leaves.ite (fun _ => settles_write (fun frame hread => ?_) fun frame hunread => ?_)
      fun _ => ?_
    · refine Leaves.ite (fun _ => settles_bestEffortClose (Leaves.fail rfl)) fun hstatus => ?_
      obtain ⟨_, hframe, hbody⟩ := hread
      obtain rfl := Except.ok.inj hframe
      obtain ⟨parsed, hparsed⟩ := hbody (not_not.1 hstatus)
      rw [hparsed]
      refine Leaves.lift_bind (fun resp _ => Leaves.ite (fun _ => ?_) fun _ => ?_) fun e he => ?_
      · exact settles_bestEffortClose (Leaves.fail rfl)
      · exact ih _ _ _
      · cases he
    · refine Leaves.ite (fun hstatus => ?_) fun hstatus => ?_
      · exact absurd ⟨frame, rfl, fun h => absurd h hstatus⟩ hunread
      · refine Leaves.lift_bind (fun resp hresp => ?_) fun _ _ => rfl
        exact absurd ⟨frame, rfl, fun _ => ⟨resp, hresp⟩⟩ hunread
    · refine settles_flushHandle (settles_of_close ?_)
      refine Leaves.bind (closeHandle_leaves file) ?_ fun e new h => h
      rintro - new ⟨answer, rfl⟩
      exact Leaves.pure ⟨answer, rfl⟩

theorem writeFileWithProgress_leaves (n : ℕ) (maxWrite : UInt32) (data : Bytes)
    (breaks : List Bool) : ClosesIfSound (writeFileWithProgress n maxWrite data breaks) :=
  closesIfSound_openFile fun resp => writeWithProgress_settles resp.fileId data maxWrite.toNat n 0 0
    breaks

namespace FileUpload

/-- What a round of an upload leaves: the handle open and nothing wrong if there is more to do, and
everything settled otherwise. -/
def Round (u : FileUpload) (log : Log) : Except Error Bool × FileUpload → Prop
  | (.ok true, u') =>
    u'.fileId = u.fileId ∧ u'.done = false ∧ ¬ Closed u.fileId log ∧ Sound log
  | _ => Closed u.fileId log ↔ Sound log

lemma flushAndClose_leaves (u : FileUpload) :
    Leaves u.flushAndClose fun x new => ∃ round, x = .ok round ∧ u.Round new round := by
  have hclose : Settles u.fileId (do flushHandle u.fileId; closeHandle u.fileId) :=
    settles_flushHandle (settles_of_close (closeHandle_leaves u.fileId))
  refine hclose.attempt.bind_ok fun result new hnew => Leaves.pure ⟨_, rfl, ?_⟩
  rw [append_nil]
  cases result with
  | ok a => exact hnew
  | error e => exact hnew

lemma receive_leaves (u : FileUpload) (hdone : u.done = false) (extent : Extent UInt8)
    (answer : Except Error Frame) :
    Leaves (u.receive answer) fun x more =>
      ∃ round, x = .ok round ∧ u.Round ((.write u.fileId extent, answer) :: more) round := by
  cases answer with
  | error e => exact Leaves.pure ⟨_, rfl, by simp [Round, Request.Needs, Readable]⟩
  | ok frame =>
    refine Leaves.ite (fun hstatus => ?_) fun hstatus => ?_
    · have hread : Readable (.ok frame) := ⟨frame, rfl, fun h => absurd h hstatus⟩
      exact bestEffortClose_bind fun answer =>
        Leaves.pure ⟨_, rfl, by simp [Round, Request.Needs, hread]⟩
    · have hread : Readable (.ok frame) ↔
          ∃ parsed, WriteResponse.unpack (.new frame.body) = .ok parsed :=
        ⟨fun ⟨_, hframe, h⟩ => by
            obtain rfl := Except.ok.inj hframe
            exact h (not_not.1 hstatus),
          fun h => ⟨frame, rfl, fun _ => h⟩⟩
      split
      · rename_i e hbody
        have hunread : ¬ Readable (.ok frame) := by simp [hread, hbody]
        exact Leaves.pure ⟨_, rfl, by simp [Round, Request.Needs, hunread]⟩
      · rename_i resp c hbody
        have hreadable : Readable (.ok frame) := hread.2 ⟨_, hbody⟩
        refine Leaves.ite (fun _ => ?_) fun _ => ?_
        · refine (flushAndClose_leaves _).weaken ?_
          rintro x more ⟨round, rfl, hround⟩
          refine ⟨round, rfl, ?_⟩
          obtain ⟨result, u'⟩ := round
          cases result with
          | error e => simpa [Round, Request.Needs, hreadable] using hround
          | ok more =>
            cases more <;> simpa [Round, Request.Needs, hreadable] using hround
        · exact Leaves.pure ⟨_, rfl, by simp [Round, Request.Needs, hreadable, hdone]⟩

lemma writeNextChunk_leaves (u : FileUpload) (hdone : u.done = false) :
    Leaves u.writeNextChunk fun x new => ∃ round, x = .ok round ∧ u.Round new round := by
  refine Leaves.ite (fun h => ?_) fun _ => Leaves.ite (fun _ => flushAndClose_leaves u) fun _ => ?_
  · rw [hdone] at h
    cases h
  refine (Leaves.ask (Q := fun x new => new = [(_, x)]) fun _ => rfl).attempt.bind_ok ?_
  rintro answer new rfl
  exact u.receive_leaves hdone _ answer

lemma drive_settles (n : ℕ) : ∀ u : FileUpload, u.done = false → Settles u.fileId (u.drive n) := by
  induction n with
  | zero => exact fun _ _ => Leaves.diverge
  | succ n ih =>
    intro u hdone
    refine (u.writeNextChunk_leaves hdone).bind_ok fun ⟨result, u'⟩ new hnew => ?_
    match result with
    | .ok true =>
      obtain ⟨hfile, hdone', hopen, hsound⟩ := hnew
      refine (ih u' hdone').weaken fun x more hmore => ?_
      rw [hfile] at hmore
      simpa [hopen, hsound] using hmore
    | .ok false => exact Leaves.pure (by simpa [Round] using hnew)
    | .error e => exact Leaves.fail (by simpa [Round] using hnew)

lemma drive_done (n : ℕ) (u : FileUpload) (hdone : u.done = true) :
    Leaves (u.drive n) fun _ new => new = [] := by
  cases n with
  | zero => exact Leaves.diverge
  | succ n =>
    have hround : u.writeNextChunk = pure (.ok false, u) := if_pos hdone
    rw [drive, hround]
    exact Leaves.of_silent (fun _ => rfl) rfl

end FileUpload

theorem upload_leaves (n : ℕ) (maxWrite : UInt32) (data : Bytes) (responses : Responses) :
    ClosesIfSound (upload n maxWrite data responses) := by
  refine Leaves.ite (fun _ => ?_) fun _ => closesIfSound_openFile fun resp => ?_
  · refine Leaves.bind (writeFileCompound_leaves responses) ?_ ?_
    · rintro count new ⟨answer, more, rfl, hmore⟩
      refine (FileUpload.drive_done n _ rfl).weaken ?_
      rintro x _ rfl file -
      simpa [Request.Needs] using hmore
    · rintro e new ⟨answer, more, rfl, hmore⟩ file -
      simpa [Request.Needs] using hmore
  · exact FileUpload.drive_settles n _ rfl

end Handles

end Smb2
