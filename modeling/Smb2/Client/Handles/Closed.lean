import Smb2.Client.Durable
import Smb2.Client.Handles.Writer

set_option autoImplicit false

/-!
# Handles that are left open

Every call that opens a file, and the one condition on the answers of the server under which the
handle is closed or handed to the caller. Where the condition fails, an error is returned with `?`
before the CLOSE: the result of a FLUSH, of a WRITE that is waited for, or of the create contexts of
a durable handle. On a connection that stays up the handle then stays open on the server.
-/

namespace Smb2

namespace Handles

open Connection (Frame)
open Exchange
open FileWriter (Env)

/-- **A call that opens a file**, with what it is given and how its loop goes. -/
inductive Operation
  | readFilePipelined (variant : Tree.ReadVariant) (maxRead : UInt32) (run : List Tree.Completion)
  | writeFilePipelined (maxWrite : UInt32) (data : Bytes) (responses : Responses)
      (run : List Tree.WriteAnswer)
  | writeFileStreamed (maxWrite : UInt32) (callback : List (Except String Bytes))
      (run : List Tree.WriteAnswer)
  | writeFileWithProgress (n : ℕ) (maxWrite : UInt32) (data : Bytes) (breaks : List Bool)
  | fileWriter (fuel maxWrite base : ℕ) (chunks : List Bytes)
      (answers : List (ℕ × Except Error Frame)) (ending : Ending)
  | fileUpload (n : ℕ) (maxWrite : UInt32) (data : Bytes) (responses : Responses)
  | openFileDurable (createGuid : Guid) (generation : UInt64) (responses : Responses)
  | reclaimDurableHandle (handle : DurableHandle) (path : List Char) (generation : UInt64)
      (responses : Responses)

def keepsHandle {α : Type} (m : LinkM α) : LinkM (Option FileId) := do
  let _ ← m
  return none

namespace Operation

def run : Operation → LinkM (Option FileId)
  | .readFilePipelined variant maxRead run =>
    keepsHandle (Handles.readFilePipelined variant maxRead run)
  | .writeFilePipelined maxWrite data responses run =>
    keepsHandle (Handles.writeFilePipelined maxWrite data responses run)
  | .writeFileStreamed maxWrite callback run =>
    keepsHandle (Handles.writeFileStreamed maxWrite callback run)
  | .writeFileWithProgress n maxWrite data breaks =>
    keepsHandle (Handles.writeFileWithProgress n maxWrite data breaks)
  | .fileWriter fuel maxWrite base chunks answers ending =>
    keepsHandle (Handles.fileWriter fuel maxWrite base chunks answers ending)
  | .fileUpload n maxWrite data responses => keepsHandle (upload n maxWrite data responses)
  | .openFileDurable createGuid generation responses => do
    let opened ← Durable.openFileDurable createGuid generation responses
    return some opened.fileId
  | .reclaimDurableHandle handle path generation responses => do
    let reclaimed ← Durable.reclaimDurableHandle handle path generation responses
    return some reclaimed.fileId

/-- **What the answers have to be like**: every FLUSH succeeds, the answer to every WRITE that is
waited for can be read, and so can the create contexts of a durable handle. A writer is also content
with a WRITE that was answered with an error status, since it closes the handle then. -/
def Condition : Operation → Log → Prop
  | .fileWriter .., log => AnyRefused log ∨ Sound log
  | _, log => Sound log

lemma keepsHandle_leaves {α : Type} {m : LinkM α} {Q : Log → Prop}
    (h : Leaves m fun _ new => Q new) :
    Leaves (keepsHandle m) fun x new => (∀ file, x ≠ .ok (some file)) ∧ Q new := by
  refine Leaves.bind h ?_ ?_
  · intro a new hnew
    exact Leaves.pure ⟨fun _ h => (by cases h), by rwa [List.append_nil]⟩
  · intro e new hnew
    exact ⟨fun _ h => (by cases h), hnew⟩

lemma handsOut_leaves {α : Type} {m : LinkM α} {f : α → FileId} {Q : Log → Prop}
    (h : Leaves m fun x new => ∀ file, Opened file new →
      (((∃ a, x = .ok a ∧ f a = file) ∨ Closed file new) ↔ Q new)) :
    Leaves (do return some (f (← m))) fun x new => ∀ file, Opened file new →
      ((x = .ok (some file) ∨ Closed file new) ↔ Q new) := by
  refine Leaves.bind h ?_ ?_
  · intro a new hnew
    refine Leaves.pure fun file hopened => ?_
    rw [List.append_nil] at hopened ⊢
    rw [← hnew file hopened]
    simp
  · intro e new hnew file hopened
    rw [← hnew file hopened]
    simp

lemma run_leaves (op : Operation) : Leaves op.run fun x new => ∀ file, Opened file new →
    ((x = .ok (some file) ∨ Closed file new) ↔ op.Condition new) := by
  have hkeeps : ∀ {α : Type} {m : LinkM α} {C : Log → Prop},
      (Leaves m fun _ new => ∀ file, Opened file new → (Closed file new ↔ C new)) →
      Leaves (keepsHandle m) fun x new => ∀ file, Opened file new →
        ((x = .ok (some file) ∨ Closed file new) ↔ C new) := by
    intro α m C h
    refine (keepsHandle_leaves h).weaken fun x new ⟨hx, hnew⟩ file hopened => ?_
    rw [← hnew file hopened]
    exact or_iff_right (hx file)
  cases op with
  | readFilePipelined variant maxRead run =>
    exact hkeeps (readFilePipelined_leaves variant maxRead run)
  | writeFilePipelined maxWrite data responses run =>
    exact hkeeps (writeFilePipelined_leaves maxWrite data responses run)
  | writeFileStreamed maxWrite callback run =>
    exact hkeeps (writeFileStreamed_leaves maxWrite callback run)
  | writeFileWithProgress n maxWrite data breaks =>
    exact hkeeps (writeFileWithProgress_leaves n maxWrite data breaks)
  | fileWriter fuel maxWrite base chunks answers ending =>
    exact hkeeps (fileWriter_leaves fuel maxWrite base chunks answers ending)
  | fileUpload n maxWrite data responses => exact hkeeps (upload_leaves n maxWrite data responses)
  | openFileDurable createGuid generation responses =>
    exact handsOut_leaves (Durable.openFileDurable_leaves createGuid generation responses)
  | reclaimDurableHandle handle path generation responses =>
    exact handsOut_leaves
      (Durable.reclaimDurableHandle_leaves handle path generation responses)

/-- **No handle is left open, if the answers allow it.** Let a call return on a connection that stays
up, whatever the server answers, and let its CREATE have opened `file`. The call has handed the handle
out or sent a CLOSE for it exactly if the answers are as `Condition` says. -/
theorem handedOut_or_closed_iff (op : Operation) {answers : List (Except Error Frame)}
    {x : Except Error (Option FileId)} {s : Exchange Request Error Frame} {file : FileId}
    (hrun : op.run ⟨answers, []⟩ = some (x, s)) (hopened : Opened file s.log) :
    (x = .ok (some file) ∨ Closed file s.log) ↔ op.Condition s.log := by
  obtain ⟨new, hlog, hnew⟩ := op.run_leaves _ _ _ hrun
  rw [List.nil_append] at hlog
  subst hlog
  exact hnew file hopened

/-! ### A FLUSH that fails -/

def openedBy (log : Log) : Option (Except Error FileId) :=
  log.head?.map fun entry => Tree.openedFile entry.2

lemma opened_of_openedBy {log : Log} {file : FileId} (h : openedBy log = some (.ok file)) :
    Opened file log := by
  cases log with
  | nil => cases h
  | cons entry rest => exact ⟨entry.1, entry.2, rest, rfl, Option.some.inj h⟩

/-- What is seen of a run: what the call returns, the requests that it has sent, and the handle that
its CREATE has opened. -/
def seen (op : Operation) (answers : List (Except Error Frame)) :
    Option (Except Error (Option FileId) × List Request × Option (Except Error FileId)) :=
  (op.run ⟨answers, []⟩).map fun out => (out.1, out.2.log.map Prod.fst, openedBy out.2.log)

def threeBytes : Operation :=
  .writeFilePipelined 65536 [1, 2, 3] (.ok []) [⟨0, .ok (Tree.WriteCall.taken 3), false⟩]

theorem handedOut_or_closed_threeBytes :
    ∃ x s, threeBytes.run ⟨[.ok Tree.WriteCall.created, .ok (Tree.WriteCall.succeeded .flush),
        .ok (Tree.WriteCall.succeeded .close)], []⟩ = some (x, s) ∧ Opened ⟨0, 0⟩ s.log ∧
      ((x = .ok (some ⟨0, 0⟩) ∨ Closed ⟨0, 0⟩ s.log) ↔ threeBytes.Condition s.log) := by
  have hseen : seen threeBytes [.ok Tree.WriteCall.created, .ok (Tree.WriteCall.succeeded .flush),
      .ok (Tree.WriteCall.succeeded .close)] =
        some (.ok none, [.create, .flush ⟨0, 0⟩, .close ⟨0, 0⟩], some (.ok ⟨0, 0⟩)) := by
    decide +kernel
  obtain ⟨⟨x, s⟩, hrun, hout⟩ := Option.map_eq_some_iff.1 hseen
  have hopened : Opened ⟨0, 0⟩ s.log := opened_of_openedBy (Prod.mk.inj (Prod.mk.inj hout).2).2
  exact ⟨x, s, hrun, hopened, handedOut_or_closed_iff threeBytes hrun hopened⟩

def diskFull : Frame where
  header := { Tree.answerHeader 0xC000007F with command := .flush }
  body := []
  raw := []

def createdWithCutContext : Frame where
  header := { Tree.answerHeader NtStatus.success with command := .create }
  body := [89, 0] ++ List.replicate 78 0 ++ [152, 0, 0, 0, 1, 0, 0, 0] ++ [0]
  raw := []

/-- **Handles that are left open.** A FLUSH fails, and `write_file_pipelined` sends no CLOSE. The
answer to a WRITE has no body, and `write_file_with_progress` sends none. The create contexts of a
durable open are cut off, and `open_file_durable` neither returns the handle nor closes it. -/
theorem handle_left_open :
    seen threeBytes [.ok Tree.WriteCall.created, .ok diskFull] =
        some (.error (.protocol 0xC000007F .flush), [.create, .flush ⟨0, 0⟩], some (.ok ⟨0, 0⟩)) ∧
    (seen (.writeFileWithProgress 2 65536 [1, 2, 3] [])
        [.ok Tree.WriteCall.created, .ok (Tree.WriteCall.succeeded .write)]).map Prod.snd =
      some ([.create, .write ⟨0, 0⟩ ⟨0, [1, 2, 3]⟩], some (.ok ⟨0, 0⟩)) ∧
    seen (.openFileDurable ⟨0, 0, 0, []⟩ 0 (.ok [.ok createdWithCutContext])) [] =
      some (.error (.invalidData "create context chain ends inside an entry header"),
        [.durableCompound], some (.ok ⟨0, 0⟩)) :=
  ⟨by decide +kernel, by decide +kernel, by decide +kernel⟩

end Operation

end Handles

end Smb2
