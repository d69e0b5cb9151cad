import Smb2.Client.Handles.Basic

set_option autoImplicit false

/-!
# Uploads

`FileUpload` of `client/stream.rs` writes its data in chunks, one for each call of
`write_next_chunk`. The next chunk begins where the counts of the answers say, which are the
server's. Whatever they are, no chunk leaves the data. An upload that is reported complete is so if
every count is one that the chunk allows, and if the caller stops at the first error.
-/

open List

namespace Smb2.Handles.FileUpload

open Connection (Frame)
open Exchange
open Tree (writeCount confirmed)
open Tree.WriteCall (taken succeeded)

def new (fileId : FileId) (data : Bytes) (chunkSize : ℕ) : FileUpload :=
  ⟨fileId, data, 0, chunkSize, false⟩

/-- **Calls of `write_next_chunk`**, whatever they return: each result, with the upload as it is
then. -/
def calls : ℕ → FileUpload → LinkM (List (Except Error Bool × FileUpload))
  | 0, _ => return []
  | n + 1, u => do
    let round ← u.writeNextChunk
    let rest ← calls n round.2
    return round :: rest

def Written (data : Bytes) (log : Log) (n : ℕ) : Prop :=
  ∀ p b, p < n → data[p]? = some b → ∃ file extent answer,
    (.write file extent, answer) ∈ log ∧ extent.Confirms (confirmed answer) p b

def Counted (log : Log) : Prop :=
  ∀ file extent answer count, (.write file extent, answer) ∈ log → writeCount answer = .ok count →
    0 < count ∧ count ≤ extent.data.length

section Rounds

variable {data : Bytes} {log more : Log} {n m : ℕ} {u : FileUpload}

lemma Written.mono (h : Written data log n) (hsub : log ⊆ more) (hle : m ≤ n) :
    Written data more m := by
  intro p b hp hb
  obtain ⟨file, extent, answer, hmem, hconfirms⟩ := h p b (hp.trans_le hle) hb
  exact ⟨file, extent, answer, hsub hmem, hconfirms⟩

lemma Written.step {file : FileId} {answer : Except Error Frame} {size : ℕ}
    (h : Written data log n) (hsub : (.write file ⟨n, slice data n (n + size)⟩, answer) :: log ⊆ more)
    (hcount : confirmed answer ≤ size) : Written data more (n + confirmed answer) := by
  intro p b hp hb
  by_cases hlt : p < n
  · exact h.mono (fun _ hmem => hsub (mem_cons_of_mem _ hmem)) le_rfl p b hlt hb
  · refine ⟨file, _, answer, hsub (mem_cons_self ..), Nat.le_of_not_lt hlt, hp, ?_⟩
    have hin : p - n < n + size - n := by omega
    have hat : n + (p - n) = p := by omega
    simp only [slice]
    rw [getElem?_take_of_lt hin, getElem?_drop, hat, hb]

def Received (u : FileUpload) (answer : Except Error Frame) : Except Error Bool × FileUpload → Prop
  | (.ok more, u') => writeCount answer = .ok (confirmed answer) ∧
      (more = true → u'.done = u.done ∧ u'.bytesWritten = u.bytesWritten + confirmed answer) ∧
      (more = false → u'.done = true ∧ u.data.length ≤ u.bytesWritten + confirmed answer)
  | (.error _, _) => True

end Rounds

def fourBytes : FileUpload := new ⟨1, 1⟩ [1, 2, 3, 4] 2

def trace (n : ℕ) (answers : List (Except Error Frame)) :
    Option (List (Option Bool × ℕ) × List Request) :=
  match calls n fourBytes ⟨answers, []⟩ with
  | some (.ok rounds, s) =>
    some (rounds.map fun r => (r.1.toOption, r.2.bytesWritten), s.log.map Prod.fst)
  | _ => none

def ending : List (Except Error Frame) :=
  [.ok (succeeded .flush), .ok (succeeded .close)]

end Smb2.Handles.FileUpload
