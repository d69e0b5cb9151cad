import Smb2.Client.FileWriter
import Smb2.Client.Handles.Basic

set_option autoImplicit false

/-!
# The handle of the push-based writer

A `FileWriter` takes the answers to its WRITEs late: some in `write_chunk`, whose error leaves the
writer with the caller, the others in `finish` or `abort`, which give it up. An answer with an error
status is followed by a CLOSE at once; any other failure is not.
-/

namespace Smb2

namespace Handles

open Connection (Frame)
open Exchange
open FileWriter
open Prog (Triple lift diverge)
open Tree (writeCount)

def Refused (answer : Except Error Frame) : Prop :=
  ∃ frame, answer = .ok frame ∧ frame.header.status ≠ NtStatus.success

def Counted (answer : Except Error Frame) : Prop := ∃ n, writeCount answer = .ok n

/-! ## The methods -/

def finishDrain (fuel : ℕ) : WriterM Unit := do
  flushStash
  finishPending fuel
  drainAll (← inFlightLen)

def abortLoop : ℕ → WriterM Unit
  | 0 => pure ()
  | n + 1 => do
    match ← nextAnswer with
    | none => pure ()
    | some (.error _) => pure ()
    | some (.ok frame) => do
      onWriter fun w => { w with totalWritten := w.totalWritten + Tree.confirmed (.ok frame) }
      abortLoop n

def abortDrain : WriterM Unit := do
  onWriter fun w => { w with pendingData := [], pendingOffset := 0, stashedChunk := none }
  abortLoop (← inFlightLen)

/-- A method of the writer. The answers that it takes are logged as those to `request`. The writer
sets `done` when it has sent a CLOSE, and no method looks at it. -/
def callWriter {α : Type} (request : FileId → Extent UInt8 → Request) (file : FileId)
    (m : WriterM α) (env : Env) : LinkM (Except Error α × Env) :=
  match m { env with writer := { env.writer with done := false } } with
  | none => diverge
  | some (result, env') => do
    let taken := env'.writer.flight.answered.drop env.writer.flight.answered.length
    postAll (taken.map fun answered => (request file answered.1, answered.2))
    if env'.writer.done then bestEffortClose file
    return (result, env')

def pushChunks (fuel : ℕ) (file : FileId) : List Bytes → Env → LinkM Env
  | [], env => return env
  | data :: chunks, env => do
    let (_, env) ← callWriter .pushed file (writeChunk fuel data) env
    pushChunks fuel file chunks env

inductive Ending
  | finish
  | abort
deriving DecidableEq, Repr

def giveUp (fuel : ℕ) (file : FileId) (env : Env) : Ending → LinkM ℕ
  | .finish => do
    let (result, env) ← callWriter .write file (finishDrain fuel) env
    lift result
    flushHandle file
    closeHandle file
    return env.writer.totalWritten
  | .abort => do
    let (_, env) ← callWriter .pushed file abortDrain env
    bestEffortClose file
    return env.writer.totalWritten

/-- **The life of a writer**: the file is opened, chunks are pushed, and the writer is finished or
aborted. `answers` are the answers to the WRITEs, in the order in which they come. -/
def fileWriter (fuel maxWrite base : ℕ) (chunks : List Bytes)
    (answers : List (ℕ × Except Error Frame)) (ending : Ending) : LinkM ℕ := do
  let resp ← openFile
  let env ← pushChunks fuel resp.fileId chunks ⟨FileWriter.new maxWrite base, answers⟩
  giveUp fuel resp.fileId env ending

/-! ## What the methods take -/

/-- **A method and the answers that it takes**: it fails exactly if one of them has no count, and has
sent a CLOSE exactly if one has an error status. -/
def Takes {α : Type} (m : WriterM α) : Prop :=
  ∀ env x env', m env = some (x, env') → ∃ new,
    env'.writer.flight.answered = env.writer.flight.answered ++ new ∧
    (env'.writer.done = true ↔ env.writer.done = true ∨ ∃ a ∈ new, Refused a.2) ∧
    ((∃ a, x = .ok a) ↔ ∀ a ∈ new, Counted a.2)

variable {α : Type} {m : WriterM α}

lemma Takes.of_keeps
    (h : ∀ env x env', m env = some (x, env') → (∃ a, x = .ok a) ∧
      env'.writer.flight.answered = env.writer.flight.answered ∧
      env'.writer.done = env.writer.done) :
    Takes m := by
  intro env x env' hrun
  obtain ⟨hx, hanswered, hdone⟩ := h env x env' hrun
  exact ⟨[], by simp [hanswered], by simp [hdone], by simp [hx]⟩

lemma Takes.bind {γ : Type} {f : α → WriterM γ} (hm : Takes m) (hf : ∀ a, Takes (f a)) :
    Takes (m >>= f) := by
  intro env x env' hrun
  rw [Prog.bind_apply] at hrun
  obtain ⟨⟨y, env₁⟩, hy, hrest⟩ := Option.bind_eq_some_iff.1 hrun
  obtain ⟨new, hanswered, hdone, hok⟩ := hm env y env₁ hy
  cases y with
  | ok a =>
    obtain ⟨more, hanswered', hdone', hok'⟩ := hf a env₁ x env' hrest
    have hnew := hok.1 ⟨a, rfl⟩
    refine ⟨new ++ more, by rw [hanswered', hanswered, List.append_assoc], ?_, ?_⟩
    · rw [hdone', hdone]
      simp only [List.mem_append, or_and_right, exists_or, or_assoc]
    · rw [hok', List.forall_mem_append]
      exact ⟨fun h => ⟨hnew, h⟩, fun h => h.2⟩
  | error e =>
    obtain ⟨rfl, rfl⟩ := Prod.mk.inj (Option.some.inj hrest)
    refine ⟨new, hanswered, hdone, ?_⟩
    rw [← hok]
    exact ⟨fun ⟨_, h⟩ => (by cases h), fun ⟨_, h⟩ => (by cases h)⟩

lemma Takes.ite {c : Prop} [Decidable c] {m' : WriterM α} (hm : Takes m) (hm' : Takes m') :
    Takes (if c then m else m') := by
  split
  · exact hm
  · exact hm'

lemma Takes.pure (a : α) : Takes (pure a : WriterM α) := by
  refine Takes.of_keeps fun env x env' hrun => ?_
  obtain ⟨rfl, rfl⟩ := Prod.mk.inj (Option.some.inj hrun)
  exact ⟨⟨a, rfl⟩, rfl, rfl⟩

lemma Takes.read (f : Env → α) : Takes (Prog.read f : WriterM α) := by
  refine Takes.of_keeps fun env x env' hrun => ?_
  obtain ⟨rfl, rfl⟩ := Prod.mk.inj (Option.some.inj hrun)
  exact ⟨⟨_, rfl⟩, rfl, rfl⟩

lemma Takes.onWriter {f : FileWriter → FileWriter}
    (hf : ∀ w, (f w).flight.answered = w.flight.answered ∧ (f w).done = w.done) :
    Takes (onWriter f) := by
  refine Takes.of_keeps fun env x env' hrun => ?_
  obtain ⟨rfl, rfl⟩ := Prod.mk.inj (Option.some.inj hrun)
  exact ⟨⟨_, rfl⟩, (hf env.writer).1, (hf env.writer).2⟩

lemma answered_nextAnswer {env env' : Env} {x : Except Error (Option (Except Error Frame))}
    (hrun : nextAnswer env = some (x, env')) :
    (x = .ok none ∧ env' = env) ∨
      ∃ extent result, x = .ok (some result) ∧
        env'.writer.flight.answered = env.writer.flight.answered ++ [(extent, result)] ∧
        env'.writer.done = env.writer.done := by
  obtain ⟨rfl, rfl, -⟩ | ⟨slot, result, flight, rfl, hanswer, hwriter⟩ := nextAnswer_cases hrun
  · exact .inl ⟨rfl, rfl⟩
  · obtain ⟨extent, -, -, -, hanswered⟩ := Flight.answer_eq_some hanswer
    rw [hwriter]
    exact .inr ⟨extent, result, rfl, hanswered, rfl⟩

def Extends (sofar : List (Extent UInt8 × Except Error Frame)) (env : Env) : Prop :=
  ∃ more, env.writer.flight.answered = sofar ++ more

lemma triple_discard_extends (sofar : List (Extent UInt8 × Except Error Frame)) (n : ℕ) :
    Triple (Extends sofar) (discard n) fun x env => x = .ok () ∧ Extends sofar env := by
  induction n with
  | zero => exact Triple.pure fun _ h => ⟨rfl, h⟩
  | succ n ih =>
    refine Triple.bind (Q := fun x env => (∃ a, x = .ok a) ∧ Extends sofar env) ?_ (fun a => ?_) ?_
    · rintro env x env' ⟨more, hmore⟩ hrun
      rcases answered_nextAnswer hrun with ⟨rfl, rfl⟩ | ⟨extent, result, rfl, hanswered, -⟩
      · exact ⟨⟨_, rfl⟩, more, hmore⟩
      · refine ⟨⟨_, rfl⟩, more ++ [(extent, result)], ?_⟩
        rw [hanswered, hmore, List.append_assoc]
    · cases a with
      | none => exact Triple.pure fun _ h => ⟨rfl, h.2⟩
      | some result => exact ih.weaken (fun _ h => h.2) (fun _ _ h => h)
    · rintro e env ⟨⟨a, ha⟩, -⟩
      cases ha

lemma triple_refused (sofar : List (Extent UInt8 × Except Error Frame)) (e : Error) :
    Triple (Extends sofar) (do
        discard (← inFlightLen)
        onWriter fun w => { w with done := true }
        Prog.fail e : WriterM Unit) fun x env =>
      x = .error e ∧ env.writer.done = true ∧ Extends sofar env := by
  refine Triple.read_bind fun n => Triple.bind
    ((triple_discard_extends sofar n).weaken (fun _ h => h.1) fun _ _ h => h) (fun _ => ?_) ?_
  · exact Triple.update_bind (M := fun env => env.writer.done = true ∧ Extends sofar env)
      (fun _ h => ⟨rfl, h.2⟩) (Triple.fail fun _ h => ⟨rfl, h⟩)
  · rintro e env ⟨herr, -⟩
    cases herr

lemma takes_drainOne : Takes drainOne := by
  intro env x env' hrun
  unfold drainOne at hrun
  rw [Prog.bind_apply] at hrun
  obtain ⟨⟨y, env₁⟩, hnext, hrest⟩ := Option.bind_eq_some_iff.1 hrun
  rcases answered_nextAnswer hnext with ⟨rfl, rfl⟩ | ⟨extent, result, rfl, hanswered, hdone⟩
  · exact Takes.pure () _ _ _ hrest
  · cases result with
    | error e =>
      obtain ⟨rfl, rfl⟩ := Prod.mk.inj (Option.some.inj hrest)
      refine ⟨[(extent, .error e)], hanswered, ?_, ?_⟩
      · simp [hdone, Refused]
      · simp [Counted, writeCount, bind, Except.bind]
    | ok frame =>
      by_cases hstatus : frame.header.status = NtStatus.success
      · have hcount := Tree.writeCount_of_success hstatus
        simp only [hstatus, ne_eq, not_true_eq_false, if_false, Prog.bind_apply, lift,
          Option.bind_some] at hrest
        refine ⟨[(extent, .ok frame)], ?_⟩
        -- A body that does not parse is an error of the drain, but the answer was no refusal.
        cases hunpack : WriteResponse.unpack (.new frame.body) with
        | error _ | ok _ =>
          rw [hunpack] at hrest
          obtain ⟨rfl, rfl⟩ := Prod.mk.inj (Option.some.inj hrest)
          refine ⟨hanswered, by simp [hdone, Refused, hstatus], ?_⟩
          simp [Counted, hcount, hunpack, Except.map]
      · simp only [ne_eq, hstatus, not_false_eq_true, if_true] at hrest
        obtain ⟨rfl, hset, more, hmore⟩ := triple_refused env₁.writer.flight.answered _ env₁ x env'
          ⟨[], (List.append_nil _).symm⟩ hrest
        refine ⟨(extent, .ok frame) :: more, by rw [hmore, hanswered]; simp, ?_, ?_⟩
        · simp [hset, Refused, hstatus]
        · simp [Counted, Tree.writeCount_of_failure hstatus]

lemma takes_drainAll (n : ℕ) : Takes (drainAll n) := by
  induction n with
  | zero => exact Takes.pure ()
  | succ n ih => exact takes_drainOne.bind fun _ => ih

lemma takes_launchWireChunk (data : Bytes) : Takes (launchWireChunk data) :=
  Takes.onWriter fun _ => ⟨rfl, rfl⟩

lemma takes_sendOrStash (data : Bytes) : Takes (sendOrStash data) := by
  have hlaunch : Takes (do launchWireChunk data; return true) :=
    (takes_launchWireChunk data).bind fun _ => Takes.pure true
  have hkeep : Takes (onWriter fun w => { w with stashedChunk := some data }) :=
    Takes.onWriter fun _ => ⟨rfl, rfl⟩
  have hstash : Takes (stash data) := hkeep.bind fun _ => Takes.pure false
  have hroom : Takes makeRoom :=
    (Takes.read _).bind fun _ => Takes.ite takes_drainOne (Takes.pure ())
  have hretry : Takes (retrySend data) := by
    refine (Takes.read _).bind fun _ => Takes.ite ?_ hstash
    exact takes_drainOne.bind fun _ => (Takes.read _).bind fun _ => Takes.ite hlaunch hstash
  exact hroom.bind fun _ => (Takes.read _).bind fun _ => Takes.ite hlaunch hretry

lemma takes_flushStash : Takes flushStash := by
  refine (Takes.read _).bind fun stashed => ?_
  cases stashed with
  | none => exact Takes.pure ()
  | some stashed =>
    have hput : Takes (do
        if ← canSend then launchWireChunk stashed
        else onWriter fun w => { w with stashedChunk := some stashed }) :=
      (Takes.read _).bind fun _ =>
        Takes.ite (takes_launchWireChunk stashed) (Takes.onWriter fun _ => ⟨rfl, rfl⟩)
    have htake : Takes (onWriter fun w => { w with stashedChunk := none }) :=
      Takes.onWriter fun _ => ⟨rfl, rfl⟩
    refine htake.bind fun _ => (Takes.read _).bind fun _ => (Takes.read _).bind fun _ => ?_
    exact Takes.ite (takes_drainOne.bind fun _ => hput) hput

lemma takes_nextPendingChunk : Takes nextPendingChunk := by
  refine Takes.of_keeps fun env x env' hrun => ?_
  obtain ⟨hnext, -⟩ | ⟨-, _, _, hnext, -⟩ := nextPendingChunk_cases env <;>
    cases hnext.symm.trans hrun <;> exact ⟨⟨_, rfl⟩, rfl, rfl⟩

lemma Takes.diverge : Takes (diverge : WriterM α) := by
  intro env x env' hrun
  cases hrun

lemma takes_sendPending (n : ℕ) : Takes (sendPending n) := by
  induction n with
  | zero => exact Takes.diverge
  | succ n ih =>
    refine takes_nextPendingChunk.bind fun piece => ?_
    cases piece with
    | none => exact Takes.pure ()
    | some piece => exact (takes_sendOrStash piece).bind fun _ => Takes.ite ih (Takes.pure ())

lemma takes_finishPending (n : ℕ) : Takes (finishPending n) := by
  induction n with
  | zero => exact Takes.diverge
  | succ n ih =>
    refine takes_nextPendingChunk.bind fun piece => ?_
    cases piece with
    | none => exact Takes.pure ()
    | some piece =>
      exact (takes_sendOrStash piece).bind fun _ => Takes.ite ih (takes_flushStash.bind fun _ => ih)

theorem takes_writeChunk (fuel : ℕ) (data : Bytes) : Takes (writeChunk fuel data) := by
  refine Takes.ite (Takes.pure ()) ?_
  refine (Takes.onWriter fun w => ?_).bind fun _ =>
    takes_flushStash.bind fun _ => takes_sendPending fuel
  unfold extendPending
  split
  · exact ⟨rfl, rfl⟩
  · exact ⟨rfl, rfl⟩

theorem takes_finishDrain (fuel : ℕ) : Takes (finishDrain fuel) :=
  takes_flushStash.bind fun _ => (takes_finishPending fuel).bind fun _ =>
    (Takes.read _).bind fun n => takes_drainAll n

/-! ## What becomes of the handle -/

def Request.IsWrite : Request → Prop
  | .write _ _ => True
  | .pushed _ _ => True
  | _ => False

def AnyRefused (log : Log) : Prop := ∃ entry ∈ log, entry.1.IsWrite ∧ Refused entry.2

@[simp] lemma not_anyRefused_nil : ¬ AnyRefused [] := fun ⟨_, hmem, _⟩ => List.not_mem_nil hmem

@[simp] lemma anyRefused_cons {entry : Request × Except Error Frame} {log : Log} :
    AnyRefused (entry :: log) ↔ entry.1.IsWrite ∧ Refused entry.2 ∨ AnyRefused log := by
  rw [AnyRefused, List.exists_mem_cons_iff]
  rfl

@[simp] lemma anyRefused_append {log more : Log} :
    AnyRefused (log ++ more) ↔ AnyRefused log ∨ AnyRefused more := by
  simp only [AnyRefused, List.mem_append, or_and_right, exists_or]

lemma readable_iff {answer : Except Error Frame} :
    Readable answer ↔ Refused answer ∨ Counted answer := by
  cases answer with
  | error e => simp [Readable, Refused, Counted, writeCount, bind, Except.bind]
  | ok frame =>
    by_cases hstatus : frame.header.status = NtStatus.success
    · cases hunpack : WriteResponse.unpack (.new frame.body) with
      | error e =>
        simp [Readable, Refused, Counted, hstatus, Tree.writeCount_of_success hstatus, hunpack,
          Except.map]
      | ok parsed =>
        obtain ⟨resp, c⟩ := parsed
        simp [Readable, Refused, Counted, hstatus, Tree.writeCount_of_success hstatus, hunpack,
          Except.map]
    · simp [Readable, Refused, hstatus]

section Call

variable (request : FileId → Extent UInt8 → Request)
  (hwrite : ∀ file extent, (request file extent).IsWrite)
  (file : FileId) (taken : List (Extent UInt8 × Except Error Frame))

include hwrite in
lemma anyRefused_taken :
    AnyRefused (taken.map fun a => (request file a.1, a.2)) ↔ ∃ a ∈ taken, Refused a.2 := by
  constructor
  · rintro ⟨entry, hmem, -, hrefused⟩
    obtain ⟨a, ha, rfl⟩ := List.mem_map.1 hmem
    exact ⟨a, ha, hrefused⟩
  · rintro ⟨a, ha, hrefused⟩
    exact ⟨_, List.mem_map_of_mem ha, hwrite file a.1, hrefused⟩

include hwrite in
lemma not_closed_taken : ¬ Closed file (taken.map fun a => (request file a.1, a.2)) := by
  rintro ⟨entry, hmem, hclose⟩
  obtain ⟨a, -, rfl⟩ := List.mem_map.1 hmem
  have hreq := hwrite file a.1
  rcases hclose with hclose | hclose
  · rw [show request file a.1 = .close file from hclose] at hreq
    exact hreq
  · rw [show request file a.1 = .writeCompound from hclose] at hreq
    exact hreq

variable {α : Type} {m : WriterM α} (env : Env)

include hwrite in
lemma callWriter_leaves (hm : Takes m) :
    Leaves (callWriter request file m env) fun x new => ∃ out, x = .ok out ∧
      (Closed file new ↔ AnyRefused new) ∧ ∃ taken : List (Extent UInt8 × Except Error Frame),
        (AnyRefused new ↔ ∃ a ∈ taken, Refused a.2) ∧
        (Sound new ↔ ∀ a ∈ taken, (request file a.1).Needs a.2) ∧
        ((∃ a, out.1 = .ok a) ↔ ∀ a ∈ taken, Counted a.2) := by
  unfold callWriter
  split
  · exact Leaves.diverge
  rename_i result env' hrun
  obtain ⟨taken, hanswered, hdone, hok⟩ := hm _ _ _ hrun
  simp only [Bool.false_eq_true, false_or] at hdone
  rw [hanswered, List.drop_left]
  have hrefused := anyRefused_taken request hwrite file taken
  have hopen := not_closed_taken request hwrite file taken
  have hsound : Sound (taken.map fun a => (request file a.1, a.2)) ↔
      ∀ a ∈ taken, (request file a.1).Needs a.2 := List.forall_mem_map
  refine Leaves.postAll_bind (Leaves.ite (fun hset => ?_) fun hset => ?_)
  · refine bestEffortClose_bind fun answer => Leaves.pure ⟨_, rfl, ?_, taken, ?_, ?_, hok⟩
    · simp [hrefused, hdone.1 hset]
    · simp [hrefused, Request.IsWrite]
    · simp [hsound, Request.Needs]
  · refine Leaves.pure ⟨_, rfl, ?_, taken, ?_, ?_, hok⟩
    · simp [hopen, hrefused, ← hdone, hset]
    · simp [hrefused]
    · simp [hsound]

lemma callWriter_pushed_leaves :
    Leaves (callWriter .pushed file m env) fun x new => ∃ out, x = .ok out ∧ Sound new := by
  unfold callWriter
  split
  · exact Leaves.diverge
  rename_i result env' hrun
  have hsound : ∀ taken : List (Extent UInt8 × Except Error Frame),
      Sound (taken.map fun a => (Request.pushed file a.1, a.2)) := fun taken =>
    List.forall_mem_map.2 fun _ _ => trivial
  refine Leaves.postAll_bind (Leaves.ite (fun _ => ?_) fun _ => ?_)
  · refine bestEffortClose_bind fun answer => Leaves.pure ⟨_, rfl, sound_append.2 ⟨hsound _, ?_⟩⟩
    simp [Request.Needs]
  · exact Leaves.pure ⟨_, rfl, sound_append.2 ⟨hsound _, sound_nil⟩⟩

end Call

lemma pushChunks_leaves (fuel : ℕ) (file : FileId) (chunks : List Bytes) : ∀ env : Env,
    Leaves (pushChunks fuel file chunks env) fun x new =>
      ∃ env', x = .ok env' ∧ (Closed file new ↔ AnyRefused new) ∧ Sound new := by
  induction chunks with
  | nil => exact fun env => Leaves.pure ⟨env, rfl, by simp, sound_nil⟩
  | cons data chunks ih =>
    intro env
    refine (callWriter_leaves .pushed (fun _ _ => trivial) file env
      (takes_writeChunk fuel data)).bind_ok ?_
    rintro ⟨result, env'⟩ new ⟨hclosed, taken, -, hsound, -⟩
    refine (ih env').weaken fun x more ⟨last, hx, hmore, hmoreSound⟩ => ⟨last, hx, ?_, ?_⟩
    · rw [closed_append, anyRefused_append, hclosed, hmore]
    · exact sound_append.2 ⟨hsound.2 fun _ _ => trivial, hmoreSound⟩

lemma giveUp_abort_leaves (fuel : ℕ) (file : FileId) (env : Env) :
    Leaves (giveUp fuel file env .abort) fun _ new => Closed file new ∧ Sound new := by
  refine (callWriter_pushed_leaves file env).bind_ok fun ⟨result, env'⟩ new hsound => ?_
  exact bestEffortClose_bind fun answer => Leaves.pure (by simp [hsound, Request.Needs])

lemma giveUp_finish_leaves (fuel : ℕ) (file : FileId) (env : Env) :
    Leaves (giveUp fuel file env .finish) fun _ new =>
      (Closed file new ↔ AnyRefused new ∨ Sound new) := by
  refine (callWriter_leaves .write (fun _ _ => trivial) file env
    (takes_finishDrain fuel)).bind_ok ?_
  rintro ⟨result, env'⟩ new ⟨hclosed, taken, hrefused, hsound, hok⟩
  refine Leaves.lift_bind (fun _ hresult => ?_) fun e hresult => ?_
  · -- Every answer has a count: all depends on the FLUSH.
    have hnew : Sound new := hsound.2 fun a ha => readable_iff.2 (.inr (hok.1 ⟨_, hresult⟩ a ha))
    refine Leaves.bind (flushHandle_leaves file) ?_ ?_
    · rintro ⟨⟩ more ⟨answer, rfl, haccepted⟩
      have hanswer : Accepted answer := haccepted.1 rfl
      refine Leaves.bind (closeHandle_leaves file) ?_ ?_
      · rintro - rest ⟨_, rfl⟩
        exact Leaves.pure (by simp [hnew, hanswer, Request.Needs])
      · rintro e rest ⟨_, rfl⟩
        simp [hnew, hanswer, Request.Needs]
    · rintro e more ⟨answer, rfl, haccepted⟩
      have hanswer : ¬ Accepted answer := fun h => by cases haccepted.2 h
      simp [hclosed, hanswer, Request.Needs, Request.IsWrite]
  · -- An answer has no count: if all can be read, it has an error status.
    rw [List.append_nil, hclosed]
    refine ⟨.inl, Or.rec id fun hnew => ?_⟩
    have hbad : ¬ ∀ a ∈ taken, Counted a.2 := fun h => by
      obtain ⟨_, ha⟩ := hok.2 h
      cases hresult.symm.trans ha
    push Not at hbad
    obtain ⟨a, ha, hcount⟩ := hbad
    exact hrefused.2 ⟨a, ha, (readable_iff.1 (hsound.1 hnew a ha)).resolve_right hcount⟩

/-- **The life of a writer**: in the end the handle has been closed exactly if a WRITE was answered
with an error status, or if every answer taken by `finish` can be read and the FLUSH succeeds.
`abort` always closes it. -/
theorem fileWriter_leaves (fuel maxWrite base : ℕ) (chunks : List Bytes)
    (answers : List (ℕ × Except Error Frame)) (ending : Ending) :
    Leaves (fileWriter fuel maxWrite base chunks answers ending) fun _ new =>
      ∀ file, Opened file new → (Closed file new ↔ AnyRefused new ∨ Sound new) := by
  have hend : ∀ file env, Leaves (giveUp fuel file env ending) fun _ new =>
      (Closed file new ↔ AnyRefused new ∨ Sound new) := by
    intro file env
    cases ending with
    | finish => exact giveUp_finish_leaves fuel file env
    | abort =>
      refine (giveUp_abort_leaves fuel file env).weaken fun x new ⟨hclosed, hsound⟩ => ?_
      exact iff_of_true hclosed (.inr hsound)
  refine (openFile_bind_leaves (P := fun file _ more =>
    Closed file more ↔ AnyRefused more ∨ Sound more) fun resp => ?_).weaken
    fun x new hnew file hopened => ?_
  · refine (pushChunks_leaves fuel resp.fileId chunks _).bind_ok fun env new ⟨hclosed, hsound⟩ => ?_
    refine (hend resp.fileId env).weaken fun x more hmore => ?_
    simp only [closed_append, anyRefused_append, sound_append, hclosed, hmore, hsound, true_and,
      or_assoc]
  · obtain ⟨answer, more, rfl, hmore⟩ := hnew file hopened
    simpa [Request.Needs, Request.IsWrite] using hmore

end Handles

end Smb2
