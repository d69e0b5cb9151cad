import Smb2.Client.FileWriter

set_option autoImplicit false

/-!
# The writer streams contiguously

As long as `write_chunk` (`client/stream.rs`) does not fail, the WRITEs of a `FileWriter` are the
chunks, each cut into pieces of `max_write_size` bytes, one behind the other from the offset that
the writer was opened at. The offset of the next WRITE is a `u64` to which the length of each piece
is added without a check, so a writer that is opened near the end of the range goes on at 0.
-/

open List Option

namespace Smb2

namespace FileWriter

open Connection (Frame)
open Tree (WriteFlight writeCount checkStatus maxPipelineWindow)
open Prog (Triple)

/-! ## Sessions without a failure -/

/-- **Push all chunks**, as long as `write_chunk` succeeds. -/
def pushOk (fuel : ℕ) : List Bytes → Env → Option Env
  | [], env => some env
  | data :: chunks, env =>
    match writeChunk fuel data env with
    | some (.ok (), env') => pushOk fuel chunks env'
    | _ => none

/-! ## The pieces of a chunk -/

/-- **The pieces of a chunk**, in order: `maxWrite` bytes each, the last one what is left. -/
inductive Cut (maxWrite : ℕ) : ℕ → Bytes → List (Extent UInt8) → Prop
  | nil (offset : ℕ) : Cut maxWrite offset [] []
  | cons {offset : ℕ} {data : Bytes} {es : List (Extent UInt8)} (hdata : data ≠ [])
      (h : Cut maxWrite (offset + (data.take maxWrite).length) (data.drop maxWrite) es) :
      Cut maxWrite offset data (⟨offset, data.take maxWrite⟩ :: es)

namespace Cut

variable {maxWrite offset : ℕ} {data : Bytes} {es : List (Extent UInt8)}

lemma tiles (h : Cut maxWrite offset data es) : Tiles offset data es := by
  induction h with
  | nil offset => exact .nil
  | @cons offset data es hdata h ih =>
    have hfirst : Tiles offset (data.take maxWrite) [⟨offset, data.take maxWrite⟩] :=
      Tiles.nil.snoc (data.take maxWrite)
    have hboth := hfirst.append ih
    rwa [take_append_drop] at hboth

lemma bounded (hpos : 0 < maxWrite) (h : Cut maxWrite offset data es) :
    ∀ e ∈ es, 0 < e.data.length ∧ e.data.length ≤ maxWrite := by
  induction h with
  | nil offset => exact fun e he => absurd he not_mem_nil
  | @cons offset data es hdata h ih =>
    refine forall_mem_cons.2 ⟨?_, ih⟩
    have := length_pos_iff.2 hdata
    rw [length_take]
    omega

lemma eq_nil_iff (h : Cut maxWrite offset data es) : es = [] ↔ data = [] := by
  cases h with
  | nil => exact iff_of_true rfl rfl
  | cons hdata h => exact iff_of_false (cons_ne_nil _ _) hdata

lemma last (hpos : 0 < maxWrite) (h : Cut maxWrite offset data es) (hdata : data ≠ []) :
    es.getLast?.map Extent.offset =
      some (offset + maxWrite * ((data.length - 1) / maxWrite)) := by
  induction h with
  | nil offset => exact absurd rfl hdata
  | @cons offset data es hdata' h ih =>
    have hlen := length_pos_iff.2 hdata
    by_cases hrest : data.drop maxWrite = []
    · obtain rfl := h.eq_nil_iff.2 hrest
      have hshort : data.length - 1 < maxWrite := by
        rw [drop_eq_nil_iff] at hrest
        omega
      rw [Nat.div_eq_of_lt hshort]
      rfl
    · have hlong : maxWrite < data.length := by
        rw [drop_eq_nil_iff] at hrest
        omega
      have hes : es ≠ [] := fun hnil => hrest (h.eq_nil_iff.1 hnil)
      have hstart : (data.length - 1) / maxWrite = (data.length - maxWrite - 1) / maxWrite + 1 := by
        rw [← Nat.add_div_right _ hpos]
        congr 1
        omega
      rw [getLast?_cons_of_ne_nil hes, ih hrest, length_drop, length_take, hstart,
        Nat.min_eq_left hlong.le, Nat.mul_add]
      congr 1
      omega

end Cut

/-! ## What calls without a failure do -/

structure View where
  launched : List (Extent UInt8)
  offset : ℕ
  rest : Bytes

structure Sees (maxWrite : ℕ) (v : View) (env : Env) : Prop where
  launched : env.writer.flight.launched = v.launched
  offset : env.writer.offset = v.offset
  rest : env.writer.pending = v.rest
  stash : env.writer.stashedChunk = none
  maxWriteSize : env.writer.maxWriteSize = maxWrite
  room : env.writer.flight.inFlight.length ≤ maxPipelineWindow

def OnOk {α : Type} (Q : α → Env → Prop) : Except Error α → Env → Prop
  | .ok a, env => Q a env
  | .error _, _ => True

section Views

variable {maxWrite : ℕ} {v : View}

lemma sees_nextAnswer :
    Triple (Sees maxWrite v) nextAnswer fun _ env => Sees maxWrite v env ∧ Room env := by
  intro env r env' hsees hrun
  obtain ⟨-, rfl, hidle⟩ | ⟨slot, result, flight, -, hanswer, hwriter⟩ := nextAnswer_cases hrun
  · refine ⟨hsees, ?_⟩
    rw [Room, hidle]
    decide
  · obtain ⟨-, -, hlaunched, -, -⟩ := Flight.answer_eq_some hanswer
    have hlength := Flight.length_inFlight_answer hanswer
    have hroom := hsees.room
    have hlt : flight.inFlight.length < maxPipelineWindow := by omega
    obtain ⟨writer, answers⟩ := env'
    obtain rfl : writer = { env.writer with flight } := hwriter
    exact ⟨⟨hlaunched.trans hsees.launched, hsees.offset, hsees.rest, hsees.stash,
      hsees.maxWriteSize, hlt.le⟩, hlt⟩

lemma sees_drainOne :
    Triple (Sees maxWrite v) drainOne (OnOk fun _ env => Sees maxWrite v env ∧ Room env) := by
  refine Triple.bind sees_nextAnswer (fun a => ?_) (fun _ _ _ => trivial)
  rcases a with _ | (e | frame)
  · exact Triple.pure fun _ h => h
  · exact Triple.fail fun _ _ => trivial
  · refine Triple.ite (fun _ => ?_) (fun _ => ?_)
    · -- The call fails, so nothing is claimed.
      have hany {α β : Type} {P : Env → Prop} {m : WriterM α} {f : α → WriterM β} {Q : β → Env → Prop}
          (hf : ∀ a, Triple (fun _ => True) (f a) (OnOk Q)) : Triple P (m >>= f) (OnOk Q) :=
        Triple.bind (Q := fun _ _ => True) (fun _ _ _ _ _ => trivial) hf fun _ _ _ => trivial
      exact hany fun _ => hany fun _ => hany fun _ => Triple.fail fun _ _ => trivial
    · refine Triple.lift_bind (fun _ _ => Triple.update fun env h => ?_) (fun _ _ _ _ => trivial)
      exact ⟨⟨h.1.launched, h.1.offset, h.1.rest, h.1.stash, h.1.maxWriteSize, h.1.room⟩, h.2⟩

def View.launch (v : View) (data : Bytes) : View :=
  ⟨v.launched ++ [⟨v.offset, data⟩], v.offset + data.length, v.rest⟩

lemma sees_sendOrStash (data : Bytes) :
    Triple (Sees maxWrite v) (sendOrStash data)
      (OnOk fun b env => b = true ∧ Sees maxWrite (v.launch data) env) := by
  have hroom : Triple (Sees maxWrite v) makeRoom
      (OnOk fun _ env => Sees maxWrite v env ∧ Room env) := by
    apply Triple.read_bind
    intro n
    refine Triple.ite (fun _ => ?_) (fun hlt => Triple.pure fun env h => ⟨h.1, ?_⟩)
    · exact sees_drainOne.weaken (fun _ h => h.1) (fun _ _ h => h)
    · have := h.2
      rw [Room, this]
      omega
  refine Triple.bind hroom (fun _ => ?_) (fun _ _ _ => trivial)
  apply Triple.read_bind
  intro b
  refine Triple.ite (fun _ => ?_) (fun hfull _ _ _ h => ?_)
  · refine Triple.update_bind (M := Sees maxWrite (v.launch data)) (fun env h => ?_)
      (Triple.pure fun _ h => ⟨rfl, h⟩)
    obtain ⟨⟨hsees, hlt⟩, -⟩ := h
    refine ⟨?_, ?_, hsees.rest, hsees.stash, hsees.maxWriteSize, ?_⟩
    · show env.writer.flight.launched ++ [⟨env.writer.offset, data⟩] = _
      rw [hsees.launched, hsees.offset]
      rfl
    · show env.writer.offset + data.length = _
      rw [hsees.offset]
      rfl
    · show (env.writer.flight.inFlight ++ [_]).length ≤ _
      rw [length_append, length_singleton]
      exact hlt
  · exact absurd (h.2.symm.trans (decide_eq_true h.1.2)) hfull

lemma sees_flushStash :
    Triple (Sees maxWrite v) flushStash fun r env => r = .ok () ∧ Sees maxWrite v env := by
  apply Triple.read_bind
  intro stashed
  cases stashed with
  | none => exact Triple.pure fun _ h => ⟨rfl, h.1⟩
  | some stashed =>
    intro env r env' h
    cases h.1.stash.symm.trans h.2

lemma sees_nextPendingChunk :
    Triple (Sees maxWrite v) nextPendingChunk fun r env =>
      (r = .ok none ∧ v.rest = [] ∧ Sees maxWrite v env) ∨
        (r = .ok (some (v.rest.take maxWrite)) ∧ v.rest ≠ [] ∧
          Sees maxWrite { v with rest := v.rest.drop maxWrite } env) := by
  intro env r env' hsees hrun
  obtain ⟨hnext, hnil⟩ | ⟨hne, pendingData, pendingOffset, hnext, hrest⟩ := nextPendingChunk_cases env
  · cases hnext.symm.trans hrun
    exact .inl ⟨rfl, hsees.rest.symm.trans hnil, hsees⟩
  · cases hnext.symm.trans hrun
    rw [hsees.rest, hsees.maxWriteSize] at hrest
    rw [hsees.rest] at hne
    refine .inr ⟨by rw [hsees.rest, hsees.maxWriteSize], hne, hsees.launched, hsees.offset, hrest,
      hsees.stash, hsees.maxWriteSize, hsees.room⟩

lemma sees_sendPending (n : ℕ) :
    Triple (Sees maxWrite v) (sendPending n) (OnOk fun _ env =>
      ∃ es, Cut maxWrite v.offset v.rest es ∧
        Sees maxWrite ⟨v.launched ++ es, v.offset + v.rest.length, []⟩ env) := by
  induction n generalizing v with
  | zero => exact Triple.diverge
  | succ n ih =>
    refine Triple.bind sees_nextPendingChunk (fun a => ?_) (fun _ _ _ => trivial)
    cases a with
    | none =>
      refine Triple.pure fun env h => ?_
      obtain ⟨-, hnil, hsees⟩ | ⟨hr, -⟩ := h
      · obtain ⟨launched, offset, rest⟩ := v
        obtain rfl : rest = [] := hnil
        exact ⟨[], .nil _, by simpa using hsees⟩
      · cases hr
    | some piece =>
      refine Triple.bind (Q := OnOk fun b env => b = true ∧ v.rest ≠ [] ∧
          Sees maxWrite ((View.mk v.launched v.offset (v.rest.drop maxWrite)).launch
            (v.rest.take maxWrite)) env) ?_ (fun b => ?_) (fun _ _ _ => trivial)
      · intro env r env' h hrun
        obtain ⟨hr, -⟩ | ⟨hr, hne, hsees⟩ := h
        · cases hr
        · obtain rfl : piece = v.rest.take maxWrite := some.inj (Except.ok.inj hr)
          have hsent := sees_sendOrStash (v.rest.take maxWrite) env r env' hsees hrun
          cases r with
          | error e => trivial
          | ok b => exact ⟨hsent.1, hne, hsent.2⟩
      · refine Triple.ite (fun _ => ?_) (fun hfull _ _ _ h => absurd h.1 hfull)
        intro env r env' h hrun
        have hrest := ih env r env' h.2.2 hrun
        cases r with
        | error e => trivial
        | ok u =>
          obtain ⟨es, hcut, hsees⟩ := hrest
          refine ⟨_, .cons h.2.1 hcut, ?_⟩
          simp only [View.launch, append_assoc, singleton_append, Nat.add_assoc,
            ← length_append, take_append_drop] at hsees
          exact hsees

end Views

/-! ## Whole sessions -/

/-- **The WRITEs of a session**: the pieces of one chunk after the other. -/
inductive Pieces (maxWrite : ℕ) : ℕ → List Bytes → List (Extent UInt8) → Prop
  | nil (offset : ℕ) : Pieces maxWrite offset [] []
  | cons {offset : ℕ} {data : Bytes} {chunks : List Bytes} {es es' : List (Extent UInt8)}
      (h : Cut maxWrite offset data es)
      (h' : Pieces maxWrite (offset + data.length) chunks es') :
      Pieces maxWrite offset (data :: chunks) (es ++ es')

/-- **Where the last WRITE begins** when the chunks are pushed at `pos`: at the last piece of the
last chunk that is not empty; `last` if there is none. -/
def lastStart (maxWrite : ℕ) : ℕ → ℕ → List Bytes → ℕ
  | _, last, [] => last
  | pos, last, data :: chunks =>
    if data = [] then lastStart maxWrite pos last chunks
    else lastStart maxWrite (pos + data.length)
      (pos + maxWrite * ((data.length - 1) / maxWrite)) chunks

namespace Pieces

variable {maxWrite offset : ℕ} {chunks : List Bytes} {es : List (Extent UInt8)}

lemma tiles (h : Pieces maxWrite offset chunks es) : Tiles offset chunks.flatten es := by
  induction h with
  | nil offset => exact .nil
  | cons h h' ih => exact h.tiles.append ih

lemma bounded (hpos : 0 < maxWrite) (h : Pieces maxWrite offset chunks es) :
    ∀ e ∈ es, 0 < e.data.length ∧ e.data.length ≤ maxWrite := by
  induction h with
  | nil offset => exact fun e he => absurd he not_mem_nil
  | cons h h' ih =>
    intro e he
    rcases mem_append.1 he with he | he
    · exact h.bounded hpos e he
    · exact ih e he

lemma last (hpos : 0 < maxWrite) (h : Pieces maxWrite offset chunks es) (last : ℕ) :
    (es.getLast?.map Extent.offset).getD last = lastStart maxWrite offset last chunks := by
  induction h generalizing last with
  | nil offset => rfl
  | @cons offset data chunks es es' h h' ih =>
    rw [lastStart]
    split
    · rename_i hdata
      obtain rfl := h.eq_nil_iff.2 hdata
      obtain rfl := hdata
      exact ih last
    · rename_i hdata
      rw [← ih, getLast?_append]
      cases hes : es'.getLast? with
      | none =>
        rw [none_or, h.last hpos hdata]
        rfl
      | some e => rfl

end Pieces

section Sessions

variable {maxWrite : ℕ} {v : View}

lemma Sees.extend {env : Env} (h : Sees maxWrite v env) (data : Bytes) :
    Sees maxWrite { v with rest := v.rest ++ data }
      { env with writer := extendPending data env.writer } := by
  obtain ⟨hflight, hoffset, -, hstash, hmax⟩ := extendPending_frame data env.writer
  refine ⟨?_, hoffset.trans h.offset, ?_, hstash.trans h.stash, hmax.trans h.maxWriteSize, ?_⟩
  · show (extendPending data env.writer).flight.launched = _
    rw [hflight, h.launched]
  · show (extendPending data env.writer).pending = _
    rw [pending_extendPending, h.rest]
  · show (extendPending data env.writer).flight.inFlight.length ≤ _
    rw [hflight]
    exact h.room

lemma sees_writeChunk {launched : List (Extent UInt8)} {offset : ℕ} (fuel : ℕ) (data : Bytes) :
    Triple (Sees maxWrite ⟨launched, offset, []⟩) (writeChunk fuel data) (OnOk fun _ env =>
      ∃ es, Cut maxWrite offset data es ∧
        Sees maxWrite ⟨launched ++ es, offset + data.length, []⟩ env) := by
  refine Triple.ite (fun hnil => Triple.pure fun env h => ?_) (fun _ => ?_)
  · obtain rfl := hnil
    exact ⟨[], .nil offset, by simpa using h⟩
  · refine Triple.update_bind (M := Sees maxWrite ⟨launched, offset, data⟩)
      (fun env h => h.extend data) ?_
    refine Triple.bind sees_flushStash (fun _ => ?_) (fun _ _ _ => trivial)
    exact (sees_sendPending fuel).weaken (fun _ h => h.2) (fun _ _ h => h)

lemma sees_of_pushOk {fuel offset : ℕ} {launched : List (Extent UInt8)} {chunks : List Bytes}
    {env env' : Env} (hsees : Sees maxWrite ⟨launched, offset, []⟩ env)
    (hrun : pushOk fuel chunks env = some env') :
    ∃ es, Pieces maxWrite offset chunks es ∧
      Sees maxWrite ⟨launched ++ es, offset + chunks.flatten.length, []⟩ env' := by
  induction chunks generalizing launched offset env with
  | nil =>
    obtain rfl : env = env' := some.inj hrun
    exact ⟨[], .nil offset, by simpa using hsees⟩
  | cons data chunks ih =>
    unfold pushOk at hrun
    split at hrun
    · rename_i env₁ hchunk
      obtain ⟨es, hcut, hsees₁⟩ := sees_writeChunk fuel data env _ env₁ hsees hchunk
      obtain ⟨es', hpieces, hsees'⟩ := ih hsees₁ hrun
      refine ⟨es ++ es', .cons hcut hpieces, ?_⟩
      simp only [append_assoc, Nat.add_assoc] at hsees'
      rwa [flatten_cons, length_append]
    · cases hrun

end Sessions

/-! ## What `finish` does afterwards -/

section Finish

variable {launched : List (Extent UInt8)}

structure Settled (launched : List (Extent UInt8)) (env : Env) : Prop where
  launched : env.writer.flight.launched = launched
  rest : env.writer.pending = []
  stash : env.writer.stashedChunk = none

lemma settled_nextAnswer :
    Triple (Settled launched) nextAnswer fun _ => Settled launched := by
  intro env r env' h hrun
  obtain ⟨-, rfl, -⟩ | ⟨slot, result, flight, -, hanswer, hwriter⟩ := nextAnswer_cases hrun
  · exact h
  · obtain ⟨-, -, hlaunched, -, -⟩ := Flight.answer_eq_some hanswer
    obtain ⟨writer, answers⟩ := env'
    obtain rfl : writer = { env.writer with flight } := hwriter
    exact ⟨hlaunched.trans h.launched, h.rest, h.stash⟩

lemma settled_discard (n : ℕ) : Triple (Settled launched) (discard n) fun _ => Settled launched := by
  induction n with
  | zero => exact Triple.pure fun _ h => h
  | succ n ih =>
    refine Triple.bind settled_nextAnswer (fun a => ?_) (fun _ _ h => h)
    cases a with
    | none => exact Triple.pure fun _ h => h
    | some result => exact ih

lemma settled_drainOne : Triple (Settled launched) drainOne fun _ => Settled launched := by
  refine Triple.bind settled_nextAnswer (fun a => ?_) (fun _ _ h => h)
  rcases a with _ | (e | frame)
  · exact Triple.pure fun _ h => h
  · exact Triple.fail fun _ h => h
  · refine Triple.ite (fun _ => ?_) (fun _ => ?_)
    · apply Triple.read_bind
      intro n
      refine Triple.bind ((settled_discard n).weaken (fun _ h => h.1) fun _ _ h => h)
        (fun _ => ?_) (fun _ _ h => h)
      refine Triple.update_bind (M := Settled launched)
        (fun _ h => ⟨h.launched, h.rest, h.stash⟩) (Triple.fail fun _ h => h)
    · exact Triple.lift_bind
        (fun _ _ => Triple.update fun _ h => ⟨h.launched, h.rest, h.stash⟩) (fun _ _ _ h => h)

lemma settled_drainAll (n : ℕ) :
    Triple (Settled launched) (drainAll n) fun _ => Settled launched := by
  induction n with
  | zero => exact Triple.pure fun _ h => h
  | succ n ih => exact Triple.bind settled_drainOne (fun _ => ih) (fun _ _ h => h)

lemma settled_finish (fuel : ℕ) (flushed closed : Except Error Frame) :
    Triple (Settled launched) (finish fuel flushed closed) fun _ => Settled launched := by
  have hflush : Triple (Settled launched) flushStash fun _ => Settled launched := by
    apply Triple.read_bind
    intro stashed
    cases stashed with
    | none => exact Triple.pure fun _ h => h.1
    | some stashed =>
      intro env r env' h
      cases h.1.stash.symm.trans h.2
  have hpending : Triple (Settled launched) (finishPending fuel) fun _ => Settled launched := by
    cases fuel with
    | zero => exact Triple.diverge
    | succ n =>
      refine Triple.bind (Q := fun r env => r = .ok none ∧ Settled launched env) ?_ (fun a => ?_)
        (fun _ _ h => h.2)
      · intro env r env' h hrun
        obtain ⟨hnext, -⟩ | ⟨hne, -⟩ := nextPendingChunk_cases env
        · cases hnext.symm.trans hrun
          exact ⟨rfl, h⟩
        · exact absurd h.rest hne
      · cases a with
        | none => exact Triple.pure fun _ h => h.2
        | some piece =>
          intro env r env' h
          cases h.1
  refine Triple.bind hflush (fun _ => Triple.bind hpending (fun _ => ?_) (fun _ _ h => h))
    (fun _ _ h => h)
  apply Triple.read_bind
  intro n
  refine Triple.bind ((settled_drainAll n).weaken (fun _ h => h.1) fun _ _ h => h) (fun _ => ?_)
    (fun _ _ h => h)
  refine Triple.lift_bind (fun _ _ => Triple.lift_bind (fun _ _ => ?_) (fun _ _ _ h => h))
    (fun _ _ _ h => h)
  exact Triple.update_bind (M := Settled launched) (fun _ h => ⟨h.launched, h.rest, h.stash⟩)
    (Triple.read fun _ h => h)

end Finish

/-! ## Contiguity -/

/-- **A WRITE as it is sent**: the offset is a `u64`, and `self.offset += data_len` wraps. -/
def wire (e : Extent UInt8) : Extent UInt8 := ⟨e.offset % 2 ^ 64, e.data⟩

lemma wire_eq_iff (e : Extent UInt8) : wire e = e ↔ e.offset < 2 ^ 64 := by
  constructor
  · intro h
    rw [← h]
    exact Nat.mod_lt _ (by decide)
  · intro h
    rw [wire, Nat.mod_eq_of_lt h]

/-- **WRITEs that stream contiguously** from `base` on: they follow each other without overlap, in
increasing order, none is too long, and their data is the stream. -/
structure Contiguous (base maxWrite : ℕ) (stream : Bytes) (es : List (Extent UInt8)) : Prop where
  apart : es.Pairwise fun e e' => e.offset + e.data.length ≤ e'.offset
  increasing : es.Pairwise fun e e' => e.offset < e'.offset
  bounded : ∀ e ∈ es, e.data.length ≤ maxWrite
  tiles : Tiles base stream es

section Contiguous

variable {maxWrite base : ℕ} {chunks : List Bytes} {es : List (Extent UInt8)}

lemma Pieces.lt_iff_last (hpos : 0 < maxWrite) (hbase : base < 2 ^ 64)
    (h : Pieces maxWrite base chunks es) :
    (∀ e ∈ es, e.offset < 2 ^ 64) ↔ lastStart maxWrite base base chunks < 2 ^ 64 := by
  rw [← h.last hpos base]
  rcases eq_nil_or_concat' es with rfl | ⟨front, e, rfl⟩
  · exact iff_of_true (fun e he => absurd he not_mem_nil) hbase
  · rw [getLast?_concat, map_some, getD_some]
    constructor
    · intro hall
      exact hall e (mem_append_right _ (mem_singleton_self e))
    · intro hlast e' he'
      rcases mem_append.1 he' with hfront | hfront
      · have hbefore := (pairwise_append.1 h.tiles.pairwise).2.2 e' hfront e
          (mem_singleton_self e)
        omega
      · rwa [mem_singleton.1 hfront]

lemma Pieces.contiguous_iff (hpos : 0 < maxWrite) (h : Pieces maxWrite base chunks es) :
    Contiguous base maxWrite chunks.flatten (es.map wire) ↔ ∀ e ∈ es, e.offset < 2 ^ 64 := by
  constructor
  · intro hcontiguous e he
    have hdata : (es.map wire).map Extent.data = es.map Extent.data := by
      rw [List.map_map]
      rfl
    obtain ⟨-, hsame⟩ := hcontiguous.tiles.unique h.tiles hdata
    obtain ⟨e', -, rfl⟩ := mem_map.1 (hsame.symm ▸ he)
    exact Nat.mod_lt _ (by decide)
  · intro hlow
    have hsame : es.map wire = es :=
      (map_congr_left fun e he => (wire_eq_iff e).2 (hlow e he)).trans (map_id es)
    rw [hsame]
    refine ⟨h.tiles.pairwise, ?_, fun e he => (h.bounded hpos e he).2, h.tiles⟩
    refine h.tiles.pairwise.imp_of_mem fun {e e'} he _ hle => ?_
    have := (h.bounded hpos e he).1
    omega

end Contiguous

/-- **The writer streams contiguously, up to the end of the range.** A writer is opened at `base` and
chunks of any lengths are pushed, no call of `write_chunk` failing, with any answers in any order.
The WRITEs that it has launched stream the chunks contiguously from `base` on exactly if the last one
begins below 2 ^ 64. A call of `finish` launches nothing more, whatever it returns. -/
theorem writer_contiguous_iff {maxWrite base fuel : ℕ} {chunks : List Bytes}
    {answers : List (ℕ × Except Error Frame)} {env : Env} (hmax : 1 ≤ maxWrite)
    (hbase : base < 2 ^ 64) (hpush : pushOk fuel chunks ⟨new maxWrite base, answers⟩ = some env) :
    (Contiguous base maxWrite chunks.flatten (env.writer.flight.launched.map wire) ↔
        lastStart maxWrite base base chunks < 2 ^ 64) ∧
      ∀ fuel' flushed closed r env', finish fuel' flushed closed env = some (r, env') →
        env'.writer.flight.launched = env.writer.flight.launched := by
  have hnew : Sees maxWrite ⟨[], base, []⟩ ⟨new maxWrite base, answers⟩ :=
    ⟨rfl, rfl, rfl, rfl, rfl, Nat.zero_le _⟩
  obtain ⟨es, hpieces, hsees⟩ := sees_of_pushOk hnew hpush
  have hlaunched : env.writer.flight.launched = es := hsees.launched
  constructor
  · rw [hlaunched, hpieces.contiguous_iff hmax, hpieces.lt_iff_last hmax hbase]
  · intro fuel' flushed closed r env' hfinish
    have hsettled : Settled env.writer.flight.launched env := ⟨rfl, hsees.rest, hsees.stash⟩
    exact (settled_finish fuel' flushed closed env r env' hsettled hfinish).launched

theorem writer_contiguous_threeBytes :
    ∃ env, pushOk 4 [[1, 2, 3]]
        ⟨new 2 10, replicate 3 (0, .ok (Tree.WriteCall.taken 2))⟩ = some env ∧
      Contiguous 10 2 [1, 2, 3] (env.writer.flight.launched.map wire) := by
  have hrun : (pushOk 4 [[1, 2, 3]]
      ⟨new 2 10, replicate 3 (0, .ok (Tree.WriteCall.taken 2))⟩).isSome := by
    decide +kernel
  obtain ⟨env, henv⟩ := isSome_iff_exists.1 hrun
  exact ⟨env, henv, (writer_contiguous_iff (by decide) (by decide) henv).1.2 (by decide)⟩

/-- **The end of the range.** A writer is opened at the last offset there is, and two bytes are pushed
in WRITEs of one. The second is sent to offset 0. -/
theorem lastOffset_wraps :
    ∃ env, pushOk 3 [[1, 2]] ⟨new 1 (2 ^ 64 - 1), []⟩ = some env ∧
      env.writer.flight.launched.map wire = [⟨2 ^ 64 - 1, [1]⟩, ⟨0, [2]⟩] ∧
      ¬ Contiguous (2 ^ 64 - 1) 1 [1, 2] (env.writer.flight.launched.map wire) := by
  have hrun : (pushOk 3 [[1, 2]] ⟨new 1 (2 ^ 64 - 1), []⟩).map
      (fun env => env.writer.flight.launched.map wire) =
        some [⟨2 ^ 64 - 1, [1]⟩, ⟨0, [2]⟩] := by
    decide +kernel
  obtain ⟨env, henv, hsent⟩ := map_eq_some_iff.1 hrun
  refine ⟨env, henv, hsent, fun h => ?_⟩
  have hincreasing := h.increasing
  rw [hsent] at hincreasing
  exact absurd hincreasing (by decide)

end FileWriter

end Smb2
