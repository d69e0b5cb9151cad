import Smb2.Client.Shares
import Smb2.Msg.DirectoryInfo
import Smb2.Msg.Query

set_option autoImplicit false

/-!
# Loops that are driven by replies

A directory is listed in pages (`query_directory_loop` in `client/tree.rs`), the shares of a server
in fragments (`rpc_bind_and_request` in `client/shares.rs`), and a fragment is a message that comes
in one or more READs (`read_pipe_message`). Each loop asks until a reply ends it. A server may answer
with replies that add nothing and end nothing. Only the last of the three loops rejects them.
-/

open List

namespace Smb2.Listing

open Connection (Frame)
open Exchange (ask)
open Prog (lift diverge)
open Shares (readLoop readPipeMessage fragmentLoop readResponse)

/-! ## The pages of a directory -/

/-- A QUERY_DIRECTORY request: its class is `FileBothDirectoryInformation`, its pattern `*`. -/
structure QueryDirectoryRequest where
  restart : Bool
  fileId : FileId
  outputBufferLength : UInt32

abbrev QueryM (α : Type) := Prog (Exchange QueryDirectoryRequest Error Frame) Error α

def pageOf (frame : Frame) : Except Error (Option (List DirectoryEntry)) := do
  if frame.header.status = NtStatus.noMoreFiles then return none
  if frame.header.status ≠ NtStatus.success then
    throw (.protocol frame.header.status .queryDirectory)
  let (resp, _) ← QueryDirectoryResponse.unpack (.new frame.body)
  let entries ← DirectoryPage.parse resp.outputBuffer
  return some entries

def queryDirectoryStep (file : FileId) (restart : Bool) (length : UInt32) :
    QueryM (Option (List DirectoryEntry)) := do
  let frame ← ask ⟨restart, file, length⟩
  lift (pageOf frame)

/-- The loop of `query_directory_loop`, in at most `n` rounds: whether it is the first one, and the
entries so far. -/
def queryLoop (file : FileId) (length : UInt32) :
    ℕ → Bool × List DirectoryEntry → QueryM (List DirectoryEntry)
  | 0, _ => diverge
  | n + 1, (restart, all) => do
    match ← queryDirectoryStep file restart length with
    | none => return all
    | some entries => queryLoop file length n (false, all ++ entries)

def queryDirectoryLoop (file : FileId) (length : UInt32) : QueryM (List DirectoryEntry) := fun s =>
  queryLoop file length (s.answers.length + 1) (true, []) s

def single (answer : Except Error Frame) : List (Except Error Frame) := [answer]

lemma length_flatMap_single (answers : List (Except Error Frame)) :
    (answers.flatMap single).length = answers.length :=
  congrArg length (flatMap_singleton' answers)

def IsPage (answer : Except Error Frame) : Prop :=
  ∃ frame entries, answer = .ok frame ∧ pageOf frame = .ok (some entries)

lemma queryLoop_isSome_iff {file : FileId} {length : UInt32} {answers : List (Except Error Frame)}
    {n : ℕ} (hn : answers.length < n) (s : Bool × List DirectoryEntry)
    (log : List (QueryDirectoryRequest × Except Error Frame)) :
    (queryLoop file length n s ⟨answers.flatMap single, log⟩).isSome ↔ ∃ a ∈ answers, ¬ IsPage a := by
  refine Exchange.isSome_loop_iff (queryLoop file length) (fun _ _ _ => rfl) ?_ ?_ hn s log
  · rintro _ ⟨frame, entries, rfl, hpage⟩ n ⟨restart, all⟩ rest log
    have hstep : queryDirectoryStep file restart length ⟨.ok frame :: rest, log⟩ =
        some (.ok (some entries), ⟨rest, log ++ [(⟨restart, file, length⟩, .ok frame)]⟩) := by
      show some (pageOf frame, _) = _
      rw [hpage]
    exact ⟨_, _, Prog.bind_of_ok hstep⟩
  · rintro (e | frame) hend n ⟨restart, all⟩ rest log
    · rfl
    · have hstep : queryDirectoryStep file restart length ⟨.ok frame :: rest, log⟩ =
          some (pageOf frame, ⟨rest, log ++ [(⟨restart, file, length⟩, .ok frame)]⟩) := rfl
      cases hpage : pageOf frame with
      | error e =>
        rw [hpage] at hstep
        exact congrArg Option.isSome (Prog.bind_of_error hstep)
      | ok page =>
        rw [hpage] at hstep
        cases page with
        | none => exact congrArg Option.isSome (Prog.bind_of_ok hstep)
        | some entries => exact absurd ⟨frame, entries, rfl, hpage⟩ hend

lemma queryDirectoryLoop_isSome_iff (file : FileId) (length : UInt32)
    (answers : List (Except Error Frame)) :
    (queryDirectoryLoop file length ⟨answers.flatMap single, []⟩).isSome ↔
      ∃ a ∈ answers, ¬ IsPage a :=
  queryLoop_isSome_iff (Nat.lt_succ_of_le (length_flatMap_single answers).ge) _ _

/-! ## The READs of a message -/

def IsPart (answer : Except Error Frame) : Prop :=
  ∃ frame resp c, answer = .ok frame ∧ frame.header.status = NtStatus.bufferOverflow ∧
    ReadResponse.unpack (.new frame.body) = .ok (resp, c) ∧ resp.data ≠ []

variable {tree : UInt32} {file : FileId}

lemma readLoop_isSome_iff {answers : List (Except Error Frame)} {n : ℕ} (hn : answers.length < n)
    (message : Bytes) (log : List (Shares.Request × Except Error Frame)) :
    (readLoop tree file n message ⟨answers.flatMap single, log⟩).isSome ↔
      ∃ a ∈ answers, ¬ IsPart a := by
  refine Exchange.isSome_loop_iff (readLoop tree file) (fun _ _ _ => rfl) ?_ ?_ hn message log
  · rintro _ ⟨frame, resp, c, rfl, hstatus, hunpack, hdata⟩ n message rest log
    have hpartial : frame.header.status.isSuccessOrPartial = true := by
      rw [hstatus]
      rfl
    refine ⟨message ++ resp.data, log ++ [(.read tree file Shares.pipeReadBufferSize, .ok frame)], ?_⟩
    rw [single, singleton_append, readLoop, Prog.bind_of_ok (Shares.ask_eq _ _),
      if_neg (not_not.2 hpartial), hunpack, Prog.bind_of_ok (m := lift (.ok (resp, c))) rfl]
    dsimp only
    rw [if_neg (not_not.2 hstatus), if_neg hdata]
  · rintro (e | frame) hend n message rest log
    · rfl
    · rw [single, singleton_append, readLoop, Prog.bind_of_ok (Shares.ask_eq _ _)]
      split
      · rfl
      · cases hunpack : ReadResponse.unpack (.new frame.body) with
        | error e => rfl
        | ok read =>
          obtain ⟨resp, c⟩ := read
          rw [Prog.bind_of_ok (m := lift (.ok (resp, c))) rfl]
          dsimp only
          split
          · rfl
          · rename_i hstatus
            split
            · rfl
            · rename_i hdata
              exact absurd ⟨frame, resp, c, rfl, not_not.1 hstatus, hunpack, hdata⟩ hend

lemma readPipeMessage_isSome_iff (answers : List (Except Error Frame)) :
    (readPipeMessage tree file ⟨answers.flatMap single, []⟩).isSome ↔ ∃ a ∈ answers, ¬ IsPart a :=
  readLoop_isSome_iff (Nat.lt_succ_of_le (length_flatMap_single answers).ge) _ _

/-! ## The fragments of a response -/

/-- **A message**: the answers to the READs of one call of `read_pipe_message`, and what it returns. -/
structure Message (tree : UInt32) (file : FileId) where
  frames : List (Except Error Frame)
  outcome : Except Error Bytes
  reads : ∀ rest log, ∃ log',
    readPipeMessage tree file ⟨frames ++ rest, log⟩ = some (outcome, ⟨rest, log'⟩)

def IsFragment (m : Message tree file) : Prop :=
  ∃ pdu stub, m.outcome = .ok pdu ∧ Rpc.parseResponseFragment pdu = .ok (stub, false)

lemma Message.frames_ne_nil (m : Message tree file) : m.frames ≠ [] := by
  intro hnil
  obtain ⟨log', hread⟩ := m.reads [] []
  rw [hnil] at hread
  cases hread

lemma length_le_flatMap_frames (messages : List (Message tree file)) :
    messages.length ≤ (messages.flatMap Message.frames).length := by
  induction messages with
  | nil => exact Nat.le_refl 0
  | cons m messages ih =>
    have hpos : 0 < m.frames.length := length_pos_of_ne_nil m.frames_ne_nil
    rw [flatMap_cons, length_append, length_cons]
    omega

lemma fragmentLoop_isSome_iff {messages : List (Message tree file)} {n : ℕ}
    (hn : messages.length < n) (stub : Bytes) (log : List (Shares.Request × Except Error Frame)) :
    (fragmentLoop tree file n stub ⟨messages.flatMap Message.frames, log⟩).isSome ↔
      ∃ m ∈ messages, ¬ IsFragment m := by
  refine Exchange.isSome_loop_iff (fragmentLoop tree file) (fun _ _ _ => rfl) ?_ ?_ hn stub log
  · rintro m ⟨pdu, new, hm, hparse⟩ n stub rest log
    obtain ⟨log', hread⟩ := m.reads rest log
    rw [hm] at hread
    refine ⟨stub ++ new, log', ?_⟩
    rw [fragmentLoop, Prog.bind_of_ok hread, hparse,
      Prog.bind_of_ok (m := lift (.ok (new, false))) rfl]
    rfl
  · intro m hend n stub rest log
    obtain ⟨log', hread⟩ := m.reads rest log
    cases hm : m.outcome with
    | error e =>
      rw [hm] at hread
      exact congrArg Option.isSome (Prog.bind_of_error hread)
    | ok pdu =>
      rw [hm] at hread
      rw [fragmentLoop, Prog.bind_of_ok hread]
      cases hparse : Rpc.parseResponseFragment pdu with
      | error e => rfl
      | ok fragment =>
        obtain ⟨new, isLast⟩ := fragment
        cases isLast with
        | true => rfl
        | false => exact absurd ⟨pdu, new, hm, hparse⟩ hend

lemma readResponse_isSome_iff (messages : List (Message tree file)) :
    (readResponse tree file ⟨messages.flatMap Message.frames, []⟩).isSome ↔
      ∃ m ∈ messages, ¬ IsFragment m :=
  fragmentLoop_isSome_iff (Nat.lt_succ_of_le (length_le_flatMap_frames messages)) _ _

/-! ## Replies that add nothing -/

def EmptyPage (answer : Except Error Frame) : Prop :=
  ∃ frame, answer = .ok frame ∧ pageOf frame = .ok (some [])

def EmptyFragment (m : Message tree file) : Prop :=
  ∃ pdu, m.outcome = .ok pdu ∧ Rpc.parseResponseFragment pdu = .ok ([], false)

def EmptyPart (answer : Except Error Frame) : Prop :=
  ∃ frame resp c, answer = .ok frame ∧ frame.header.status = NtStatus.bufferOverflow ∧
    ReadResponse.unpack (.new frame.body) = .ok (resp, c) ∧ resp.data = []

lemma EmptyPage.isPage {answer : Except Error Frame} (h : EmptyPage answer) : IsPage answer := by
  obtain ⟨frame, rfl, hpage⟩ := h
  exact ⟨frame, [], rfl, hpage⟩

lemma EmptyFragment.isFragment {m : Message tree file} (h : EmptyFragment m) : IsFragment m := by
  obtain ⟨pdu, hm, hparse⟩ := h
  exact ⟨pdu, [], hm, hparse⟩

lemma EmptyPart.not_isPart {answer : Except Error Frame} (h : EmptyPart answer) :
    ¬ IsPart answer := by
  rintro ⟨frame, resp, c, rfl, -, hunpack, hdata⟩
  obtain ⟨_, resp', c', hanswer, -, hunpack', hdata'⟩ := h
  obtain rfl := Except.ok.inj hanswer
  rw [hunpack] at hunpack'
  obtain ⟨rfl, -⟩ := Prod.mk.inj (Except.ok.inj hunpack')
  exact hdata hdata'

/-- **Which loops stop.** From some reply on a server sends only replies that add nothing: SUCCESS
pages without entries, fragments with an empty stub that are not the last, READs with
`STATUS_BUFFER_OVERFLOW` and no data. The loop over the pages and the loop over the fragments stop
exactly if a reply before that had ended them. The loop over the READs always stops. -/
theorem listings_stop_iff (tree : UInt32) (file : FileId) (length : UInt32) (N : ℕ) :
    (∀ server : ℕ → Except Error Frame, (∀ k, N ≤ k → EmptyPage (server k)) →
      (Exchange.Stops (queryDirectoryLoop file length) single server ↔
        ∃ k < N, ¬ IsPage (server k))) ∧
    (∀ server : ℕ → Message tree file, (∀ k, N ≤ k → EmptyFragment (server k)) →
      (Exchange.Stops (readResponse tree file) Message.frames server ↔
        ∃ k < N, ¬ IsFragment (server k))) ∧
    ∀ server : ℕ → Except Error Frame, (∀ k, N ≤ k → EmptyPart (server k)) →
      Exchange.Stops (readPipeMessage tree file) single server := by
  refine ⟨?_, ?_, ?_⟩
  · intro server hempty
    exact Exchange.stops_iff_of_eventually (queryDirectoryLoop_isSome_iff file length)
      fun k hk => (hempty k hk).isPage
  · intro server hempty
    exact Exchange.stops_iff_of_eventually readResponse_isSome_iff
      fun k hk => (hempty k hk).isFragment
  · intro server hempty
    have hend : ¬ IsPart (server N) := (hempty N (Nat.le_refl N)).not_isPart
    exact (Exchange.stops_iff readPipeMessage_isSome_iff server).2 ⟨N, hend⟩

/-! ### A server that has nothing to say -/

def emptyPage : Frame where
  header := Tree.answerHeader NtStatus.success
  body := leBytes 2 9 ++ (leBytes 2 72 ++ leBytes 4 0)
  raw := []

def emptyFragment : Rpc.Fragment := ⟨0, 2, 0, 0, 0, 0, [], by decide⟩

def emptyMessage : Message 1 ⟨1, 2⟩ where
  frames := [.ok (Shares.readFrame NtStatus.success emptyFragment.pack)]
  outcome := .ok emptyFragment.pack
  reads := fun _ _ =>
    Shares.readPipeMessage_eq (.last rfl (Shares.brings_readFrame _ _)) (by decide)

theorem empty_replies_for_ever :
    pageOf emptyPage = .ok (some []) ∧ EmptyFragment emptyMessage ∧
      ¬ Exchange.Stops (queryDirectoryLoop ⟨1, 2⟩ 65536) single (fun _ => .ok emptyPage) ∧
      ¬ Exchange.Stops (readResponse 1 ⟨1, 2⟩) Message.frames (fun _ => emptyMessage) := by
  have hpage : pageOf emptyPage = .ok (some []) := by decide +kernel
  have hparse : Rpc.parseResponseFragment emptyFragment.pack = .ok ([], false) := by
    rw [Rpc.parseResponseFragment_pack]
    rfl
  refine ⟨hpage, ⟨_, rfl, hparse⟩, ?_, ?_⟩
  · rw [Exchange.stops_iff (queryDirectoryLoop_isSome_iff _ _)]
    rintro ⟨k, hend⟩
    exact hend ⟨emptyPage, [], rfl, hpage⟩
  · rw [Exchange.stops_iff readResponse_isSome_iff]
    rintro ⟨k, hend⟩
    exact hend ⟨_, [], rfl, hparse⟩

end Smb2.Listing
