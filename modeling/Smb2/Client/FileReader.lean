import Smb2.Client.Tree.PipelinedRead

set_option autoImplicit false

/-!
# Positioned reads

`FileReader::read_at` (`client/stream.rs`): a range of an open file is read with as many READs as
the negotiated size makes necessary, one after the other, each beginning where the answer to the one
before it ended.

The loop asks for no more than is left of the range, and it takes whatever it gets. An answer that
brings more than is left makes the result longer than the range.

## Implementation notes

The position is a `u64`: adding the length of an answer to it wraps around, as in a release build.
The constant fields of a READ and the log lines are left out.
-/

open List

namespace Smb2

open Connection (Frame)

structure FileReader where
  treeId : TreeId
  fileId : FileId
  fileSize : UInt64
  maxRead : UInt32
deriving DecidableEq

structure ReadRequest where
  treeId : TreeId
  creditCharge : UInt16
  length : UInt32
  offset : UInt64
  fileId : FileId
deriving DecidableEq

namespace FileReader

/-! ## The call -/

/-- What an answer to a READ brings. Both `STATUS_END_OF_FILE` and an answer without data end the
loop. -/
def replyData (answer : Except Error Frame) : Except Error Bytes := do
  let frame ← answer
  if frame.header.status = NtStatus.endOfFile then return []
  if frame.header.status ≠ NtStatus.success then
    throw (.protocol frame.header.status .read)
  let (resp, _) ← ReadResponse.unpack (.new frame.body)
  return resp.data

inductive State
  | reading (pos : UInt64) (out : Bytes)
  | returned (result : Except Error Bytes)
deriving DecidableEq

def settle (stop pos : UInt64) (out : Bytes) : State :=
  if pos < stop then .reading pos out else .returned (.ok out)

def toRead (r : FileReader) (offset len : UInt64) : UInt64 := min len (r.fileSize - offset)

def stop (r : FileReader) (offset len : UInt64) : UInt64 := offset + r.toRead offset len

def begin (r : FileReader) (offset len : UInt64) : State :=
  if len = 0 ∨ r.fileSize ≤ offset then .returned (.ok [])
  else settle (r.stop offset len) offset []

def request (r : FileReader) (stop pos : UInt64) : ReadRequest :=
  let chunkLen := (min (stop - pos) r.maxRead.toUInt64).toUInt32
  { treeId := r.treeId
    creditCharge := UInt16.ofNat (max ((chunkLen.toNat + 65535) / 65536) 1)
    length := chunkLen, offset := pos, fileId := r.fileId }

def step (stop : UInt64) : State → Except Error Frame → Option State
  | .returned _, _ => none
  | .reading pos out, answer =>
    match replyData answer with
    | .error e => some (.returned (.error e))
    | .ok data =>
      if data = [] then some (.returned (.ok out))
      else some (settle stop (pos + UInt64.ofNat data.length) (out ++ data))

/-- **`read_at`** on the answers of the server: `none` if the call has not returned, or has returned
before the last of them. -/
def readAt (r : FileReader) (offset len : UInt64) (answers : List (Except Error Frame)) :
    Option (Except Error Bytes) :=
  match Transition.exec (step (r.stop offset len)) (r.begin offset len) answers with
  | some (.returned result) => some result
  | _ => none

/-! ## Answers -/

def dataOf (answer : Except Error Frame) : Bytes := (replyData answer).toOption.getD []

/-- **The answer fits**: it brings no more than what is left of the range. -/
def Fits (stop : UInt64) (s : State) (answer : Except Error Frame) (_ : State) : Prop :=
  match s with
  | .reading pos _ => (dataOf answer).length ≤ stop.toNat - pos.toNat
  | .returned _ => True

instance decidableFits (stop : UInt64) :
    ∀ s answer t, Decidable (Fits stop s answer t)
  | .reading pos _, answer, _ =>
    inferInstanceAs (Decidable ((dataOf answer).length ≤ stop.toNat - pos.toNat))
  | .returned _, _, _ => .isTrue trivial

/-- **An honest answer** for a file to the READ that is sent at a position: `STATUS_END_OF_FILE` at or
behind the end, or a success with some of the bytes asked for, from the first one on. -/
def HonestAnswer (file : Bytes) (req : ReadRequest) (answer : Except Error Frame) : Prop :=
  ∃ frame, answer = .ok frame ∧
    ((frame.header.status = NtStatus.endOfFile ∧ file.length ≤ req.offset.toNat) ∨
      (frame.header.status = NtStatus.success ∧
        ∃ (resp : ReadResponse) (post : Bytes), frame.body = resp.pack ++ post ∧ resp.data ≠ [] ∧
          resp.data <+: (file.drop req.offset.toNat).take req.length.toNat))

/-- **An honest server**, at one answer of the call. -/
def Honest (r : FileReader) (file : Bytes) (stop : UInt64) (s : State)
    (answer : Except Error Frame) (_ : State) : Prop :=
  match s with
  | .reading pos _ => HonestAnswer file (r.request stop pos) answer
  | .returned _ => True

/-! ## One answer -/

section Steps

variable {stop pos : UInt64} {out data d : Bytes} {answer : Except Error Frame}
  {answers : List (Except Error Frame)} {s : State} {result : Except Error Bytes}

lemma replyData_eq_ok (h : replyData answer = .ok data) :
    ∃ frame, answer = .ok frame ∧
      ((frame.header.status = NtStatus.endOfFile ∧ data = []) ∨
        (frame.header.status = NtStatus.success ∧ ∃ resp c,
          ReadResponse.unpack (.new frame.body) = .ok (resp, c) ∧ data = resp.data)) := by
  cases answer with
  | error e => cases h
  | ok frame =>
    refine ⟨frame, rfl, ?_⟩
    simp only [replyData, bind, Except.bind, pure, Except.pure] at h
    split at h
    · exact .inl ⟨‹_›, (Except.ok.inj h).symm⟩
    · split at h
      · cases h
      · split at h
        · cases h
        · exact .inr ⟨not_not.1 ‹_›, _, _, ‹_›, (Except.ok.inj h).symm⟩

lemma exec_returned :
    Transition.exec (step stop) (.returned result) answers = some s ↔
      answers = [] ∧ s = .returned result := by
  cases answers with
  | nil => simp [Transition.exec, eq_comm]
  | cons answer answers => simp [Transition.exec, step]

lemma step_cases (h : step stop (.reading pos out) answer = some s) :
    (∃ e, replyData answer = .error e ∧ s = .returned (.error e)) ∨
      (replyData answer = .ok [] ∧ s = .returned (.ok out)) ∨
      ∃ data, replyData answer = .ok data ∧ data ≠ [] ∧
        s = settle stop (pos + UInt64.ofNat data.length) (out ++ data) := by
  simp only [step] at h
  split at h
  · exact .inl ⟨_, ‹_›, (Option.some.inj h).symm⟩
  · rename_i data hreply
    split at h
    · exact .inr (.inl ⟨by simp_all, (Option.some.inj h).symm⟩)
    · exact .inr (.inr ⟨data, hreply, ‹_›, (Option.some.inj h).symm⟩)

def State.Keeps (out : Bytes) : State → Prop
  | .reading _ out' => out <+: out'
  | .returned (.ok d) => out <+: d
  | .returned (.error _) => True

lemma State.keeps_settle {out' : Bytes} (h : out <+: out') :
    (settle stop pos out').Keeps out := by
  unfold settle
  split
  · exact h
  · exact h

lemma keeps_of_step {t : State} (hs : s.Keeps out) (h : step stop s answer = some t) :
    t.Keeps out := by
  cases s with
  | returned result => cases h
  | reading pos out' =>
    obtain ⟨e, -, rfl⟩ | ⟨-, rfl⟩ | ⟨data, -, -, rfl⟩ := step_cases h
    · trivial
    · exact hs
    · apply State.keeps_settle
      exact hs.trans (prefix_append out' data)

lemma isPrefix_of_exec {s : State} (hs : s.Keeps out)
    (h : Transition.exec (step stop) s answers = some (.returned (.ok d))) : out <+: d :=
  Transition.exec_invariant_of_step (I := State.Keeps out)
    (fun _ _ _ hI hstep => keeps_of_step hI hstep) hs h

end Steps

/-! ## Whole calls -/

section Calls

variable {stop pos : UInt64} {out d : Bytes} {answers : List (Except Error Frame)} {offset : ℕ}

lemma toNat_add_length {n : ℕ} (hn : n ≤ stop.toNat - pos.toNat) (hpos : pos < stop) :
    (pos + UInt64.ofNat n).toNat = pos.toNat + n := by
  have hstop := stop.toNat_lt
  have hlt := UInt64.lt_iff_toNat_lt.1 hpos
  have hnum : (UInt64.ofNat n).toNat = n := UInt64.toNat_ofNat_of_lt' (by
    show n < 2 ^ 64
    omega)
  rw [UInt64.toNat_add, hnum]
  exact Nat.mod_eq_of_lt (by omega)

lemma length_le_iff_of_reading (hpos : pos < stop) (hout : pos.toNat = offset + out.length)
    (h : Transition.exec (step stop) (.reading pos out) answers = some (.returned (.ok d))) :
    d.length ≤ stop.toNat - offset ↔
      Transition.Along (step stop) (Fits stop) (.reading pos out) answers := by
  induction answers generalizing pos out with
  | nil => simp [Transition.exec] at h
  | cons answer answers ih =>
    have hlt := UInt64.lt_iff_toNat_lt.1 hpos
    obtain ⟨t, hstep, hrest⟩ := Transition.exec_cons_eq_some.1 h
    rw [Transition.along_cons_iff hstep]
    obtain ⟨e, -, rfl⟩ | ⟨hreply, rfl⟩ | ⟨data, hreply, hne, rfl⟩ := step_cases hstep
    · cases (exec_returned.1 hrest).2
    · obtain ⟨rfl, hend⟩ := exec_returned.1 hrest
      obtain rfl : d = out := by simpa using hend
      refine iff_of_true (by omega) ⟨?_, trivial⟩
      simp [Fits, dataOf, hreply, Except.toOption]
    · have hfits : Fits stop (.reading pos out) answer
          (settle stop (pos + UInt64.ofNat data.length) (out ++ data)) ↔
            data.length ≤ stop.toNat - pos.toNat := by
        simp [Fits, dataOf, hreply, Except.toOption]
      rw [hfits]
      by_cases hle : data.length ≤ stop.toNat - pos.toNat
      · have hnext := toNat_add_length hle hpos
        have hlen : pos.toNat + data.length = offset + (out ++ data).length := by
          rw [length_append]
          omega
        simp only [hle, true_and]
        unfold settle at hrest ⊢
        split at hrest
        · rw [if_pos ‹_›]
          exact ih ‹_› (hnext.trans hlen) hrest
        · rw [if_neg ‹_›]
          obtain ⟨rfl, hd⟩ := exec_returned.1 hrest
          obtain rfl : d = out ++ data := by simpa using hd
          exact iff_of_true (by omega) trivial
      · have hlong : out ++ data <+: d :=
          isPrefix_of_exec (State.keeps_settle (prefix_refl _)) hrest
        have hlength := hlong.length_le
        rw [length_append] at hlength
        exact iff_of_false (by omega) fun h => hle h.1

variable {file : Bytes} {s t : State}

lemma slice_append_slice {a b c : ℕ} (hab : a ≤ b) (hbc : b ≤ c) :
    slice file a b ++ slice file b c = slice file a c := by
  have hdrop : file.drop b = (file.drop a).drop (b - a) := by
    rw [drop_drop]
    congr 1
    omega
  have hlen : c - a = (b - a) + (c - b) := by omega
  rw [slice, slice, slice, hdrop, hlen, take_add]

/-- What is read from an honest server is the file from the offset on, and the position is where it
ends. -/
def State.Faithful (file : Bytes) (offset : ℕ) (stop : UInt64) : State → Prop
  | .reading pos out =>
    pos < stop ∧ pos.toNat = offset + out.length ∧ out = slice file offset pos.toNat
  | .returned (.ok d) => d = slice file offset stop.toNat
  | .returned (.error _) => True

lemma toNat_min (a b : UInt64) : (min a b).toNat = min a.toNat b.toNat := by
  show (if a ≤ b then a else b).toNat = _
  split <;> simp only [UInt64.le_iff_toNat_le] at * <;> omega

lemma length_request_le (r : FileReader) (hpos : pos < stop) :
    (r.request stop pos).length.toNat ≤ stop.toNat - pos.toNat := by
  have hsub : (stop - pos).toNat = stop.toNat - pos.toNat :=
    UInt64.toNat_sub_of_le _ _ (UInt64.le_of_lt hpos)
  show (min (stop - pos) r.maxRead.toUInt64).toUInt32.toNat ≤ _
  rw [UInt64.toNat_toUInt32, toNat_min, hsub]
  exact (Nat.mod_le ..).trans (Nat.min_le_left ..)

lemma HonestAnswer.data {data : Bytes} {req : ReadRequest} {answer : Except Error Frame}
    (h : HonestAnswer file req answer) (hreply : replyData answer = .ok data) :
    (data = [] ∧ file.length ≤ req.offset.toNat) ∨
      (data ≠ [] ∧ data <+: (file.drop req.offset.toNat).take req.length.toNat) := by
  obtain ⟨frame, rfl, hanswer⟩ := h
  obtain ⟨_, hframe, hcases⟩ := replyData_eq_ok hreply
  obtain rfl := Except.ok.inj hframe
  have hstatus : NtStatus.endOfFile ≠ NtStatus.success := by decide
  rcases hanswer with ⟨heof, hend⟩ | ⟨hsuccess, resp, post, hbody, hne, hbegins⟩
  · rcases hcases with ⟨-, rfl⟩ | ⟨hsuccess, -⟩
    · exact .inl ⟨rfl, hend⟩
    · exact absurd (heof.symm.trans hsuccess) hstatus
  · rcases hcases with ⟨heof, -⟩ | ⟨-, resp', c, hunpack, rfl⟩
    · exact absurd (heof.symm.trans hsuccess) hstatus
    · have hshort : resp.data.length < 2 ^ 32 := by
        have hle := hbegins.length_le
        rw [length_take] at hle
        have hmax := req.length.toNat_lt
        omega
      rw [hbody] at hunpack
      obtain rfl := ReadResponse.eq_of_unpack_pack hshort hunpack
      exact .inr ⟨hne, hbegins⟩

lemma faithful_of_step {r : FileReader} {answer : Except Error Frame}
    (hs : s.Faithful file offset stop) (hhonest : r.Honest file stop s answer t)
    (h : step stop s answer = some t) :
    t.Faithful file offset stop := by
  cases s with
  | returned result => cases h
  | reading pos out =>
    obtain ⟨hpos, hlen, hout⟩ := hs
    have hlt := UInt64.lt_iff_toNat_lt.1 hpos
    have hask := length_request_le r hpos
    obtain ⟨e, -, rfl⟩ | ⟨hreply, rfl⟩ | ⟨data, hreply, hne, rfl⟩ := step_cases h
    · trivial
    · obtain ⟨-, hend⟩ | ⟨hne, -⟩ := hhonest.data hreply
      · show out = slice file offset stop.toNat
        have hrest : slice file pos.toNat stop.toNat = [] := by
          rw [slice, drop_eq_nil_of_le (show _ ≤ pos.toNat from hend), take_nil]
        rw [← slice_append_slice (by omega) hlt.le, hrest, append_nil]
        exact hout
      · exact absurd rfl hne
    · obtain ⟨rfl, -⟩ | ⟨-, hbegins⟩ := hhonest.data hreply
      · exact absurd rfl hne
      have hle := hbegins.length_le
      rw [length_take] at hle
      have hnext := toNat_add_length (n := data.length) (by omega) hpos
      have hslice : data = slice file pos.toNat (pos.toNat + data.length) := by
        rw [slice, Nat.add_sub_cancel_left]
        have htake := prefix_iff_eq_take.1 hbegins
        rwa [take_take, Nat.min_eq_left (by omega)] at htake
      have hall : out ++ data = slice file offset (pos.toNat + data.length) := by
        rw [← slice_append_slice (show offset ≤ pos.toNat by omega)
          (Nat.le_add_right pos.toNat data.length), ← hslice, ← hout]
      unfold settle
      split
      · rw [← hnext] at hall
        refine ⟨‹_›, ?_, hall⟩
        rw [hnext, length_append]
        omega
      · have hstop : pos.toNat + data.length = stop.toNat := by
          have hend := UInt64.lt_iff_toNat_lt.not.1 ‹_›
          omega
        exact hall.trans (by rw [hstop])

lemma faithful_of_exec {r : FileReader} (hs : s.Faithful file offset stop)
    (hrun : Transition.exec (step stop) s answers = some t)
    (hhonest : Transition.Along (step stop) (r.Honest file stop) s answers) :
    t.Faithful file offset stop := by
  refine Transition.exec_invariant (I := State.Faithful file offset stop) ?_ hs hrun hhonest
  intro s answer t hI hC hstep
  exact faithful_of_step hI hC hstep

lemma length_le_of_exec {answers : List (Except Error Frame)} (hs : s = .reading pos out)
    (h : Transition.exec (step stop) s answers = some t) :
    ∀ pos' out', t = .reading pos' out' → answers.length + out.length ≤ out'.length := by
  refine Transition.exec_history
    (I := fun as t => ∀ pos' out', t = .reading pos' out' → as.length + out.length ≤ out'.length)
    ?_ ?_ h
  · intro pos' out' ht
    obtain ⟨-, rfl⟩ := State.reading.inj (hs.symm.trans ht)
    simp
  · rintro as (⟨pos'', out''⟩ | result) answer u - hI hstep pos' out' rfl
    · have hbefore := hI pos'' out'' rfl
      obtain ⟨e, -, hcase⟩ | ⟨-, hcase⟩ | ⟨data, -, hne, hcase⟩ := step_cases hstep
      · cases hcase
      · cases hcase
      · unfold settle at hcase
        split at hcase <;> cases hcase
        have hpos := length_pos_iff.2 hne
        simp only [length_append, length_singleton]
        omega
    · cases hstep

end Calls

/-! ## The result of a call -/

section Results

variable {r : FileReader} {offset len : UInt64} {answers : List (Except Error Frame)}

lemma toNat_toRead (h : offset < r.fileSize) :
    (r.toRead offset len).toNat = min len.toNat (r.fileSize.toNat - offset.toNat) := by
  rw [toRead, toNat_min, UInt64.toNat_sub_of_le _ _ (UInt64.le_of_lt h)]

lemma toNat_stop (h : offset < r.fileSize) :
    (r.stop offset len).toNat =
      offset.toNat + min len.toNat (r.fileSize.toNat - offset.toNat) := by
  have hlt := UInt64.lt_iff_toNat_lt.1 h
  have hsize := r.fileSize.toNat_lt
  rw [stop, UInt64.toNat_add, toNat_toRead h]
  exact Nat.mod_eq_of_lt (by omega)

lemma begin_cases (r : FileReader) (offset len : UInt64) :
    (min len.toNat (r.fileSize.toNat - offset.toNat) = 0 ∧
        r.begin offset len = .returned (.ok [])) ∨
      (offset < r.stop offset len ∧ r.begin offset len = .reading offset [] ∧
        (r.stop offset len).toNat =
          offset.toNat + min len.toNat (r.fileSize.toNat - offset.toNat)) := by
  unfold begin
  split
  · rename_i hempty
    left
    refine ⟨?_, rfl⟩
    rcases hempty with rfl | hbehind
    · simp
    · have hle := UInt64.le_iff_toNat_le.1 hbehind
      omega
  · rename_i hsome
    right
    obtain ⟨hlen, hinside⟩ := not_or.1 hsome
    have hoffset := UInt64.not_le.1 hinside
    have hlt := UInt64.lt_iff_toNat_lt.1 hoffset
    have hpos : 0 < len.toNat := by
      apply Nat.pos_of_ne_zero
      intro hzero
      exact hlen (UInt64.toNat_inj.1 hzero)
    have hstop : (r.stop offset len).toNat =
        offset.toNat + min len.toNat (r.fileSize.toNat - offset.toNat) := toNat_stop hoffset
    have hmore : offset < r.stop offset len := by
      rw [UInt64.lt_iff_toNat_lt, hstop]
      omega
    exact ⟨hmore, if_pos hmore, hstop⟩

lemma readAt_eq_some {result : Except Error Bytes} :
    r.readAt offset len answers = some result ↔
      Transition.exec (step (r.stop offset len)) (r.begin offset len) answers =
        some (.returned result) := by
  unfold readAt
  split
  · simp [‹Transition.exec _ _ _ = _›]
  · rename_i hrun
    simpa using hrun result

lemma slice_stop {file : Bytes} {stop : ℕ}
    (h : stop = offset.toNat + min len.toNat (r.fileSize.toNat - offset.toNat))
    (hpos : offset.toNat < stop) :
    slice file offset.toNat stop =
      slice file offset.toNat (min (offset.toNat + len.toNat) r.fileSize.toNat) := by
  congr 1
  omega

/-- **Positioned reads.** If a call returns `Ok`, its result is no longer than the range asked for and
what the file has of it exactly if no answer brought more than was left of that; and if the answers
were honest, the result is the range. On honest answers a call returns after at most one READ for each
byte of the range.

**Proof sketch.** An empty range is not read at all. Otherwise the first READ is sent at the offset
and both parts are inductions over the answers: as long as they fit, the position is the offset plus
what has been read, and honest answers fit. -/
theorem readAt_length_le_iff (r : FileReader) (offset len : UInt64)
    (answers : List (Except Error Frame)) :
    (∀ d, r.readAt offset len answers = some (.ok d) →
      (d.length ≤ min len.toNat (r.fileSize.toNat - offset.toNat) ↔
        Transition.Along (step (r.stop offset len)) (Fits (r.stop offset len))
          (r.begin offset len) answers) ∧
      ∀ file, Transition.Along (step (r.stop offset len)) (r.Honest file (r.stop offset len))
          (r.begin offset len) answers →
        d = slice file offset.toNat (min (offset.toNat + len.toNat) r.fileSize.toNat)) ∧
    ∀ file, Transition.Along (step (r.stop offset len)) (r.Honest file (r.stop offset len))
        (r.begin offset len) answers →
      min len.toNat (r.fileSize.toNat - offset.toNat) ≤ answers.length →
        (r.readAt offset len answers).isSome := by
  obtain ⟨hempty, hbegin⟩ | ⟨hmore, hbegin, hstop⟩ := begin_cases r offset len
  · -- Nothing is asked for.
    rw [hbegin]
    refine ⟨?_, ?_⟩
    · intro d hd
      rw [readAt_eq_some, hbegin, exec_returned] at hd
      obtain ⟨rfl, hd⟩ := hd
      obtain rfl : d = [] := by simpa using hd
      refine ⟨⟨fun _ => trivial, fun _ => Nat.zero_le _⟩, ?_⟩
      intro file _
      have hnone : min (offset.toNat + len.toNat) r.fileSize.toNat - offset.toNat = 0 := by omega
      rw [slice, hnone, take_zero]
    · intro file hhonest _
      cases answers with
      | nil => simp [readAt, hbegin, Transition.exec]
      | cons answer answers =>
        obtain ⟨t, ht, -⟩ := hhonest
        cases ht
  · rw [hbegin]
    have hlt := UInt64.lt_iff_toNat_lt.1 hmore
    have hsub : (r.stop offset len).toNat - offset.toNat =
        min len.toNat (r.fileSize.toNat - offset.toNat) := by omega
    have hstart : ∀ file,
        (State.reading offset []).Faithful file offset.toNat (r.stop offset len) := by
      intro file
      exact ⟨hmore, by simp, by simp [slice]⟩
    refine ⟨?_, ?_⟩
    · intro d hd
      rw [readAt_eq_some, hbegin] at hd
      rw [← hsub]
      refine ⟨length_le_iff_of_reading hmore (by simp) hd, ?_⟩
      intro file hhonest
      rw [← slice_stop hstop hlt]
      exact faithful_of_exec (hstart file) hd hhonest
    · intro file hhonest hlong
      obtain ⟨t, ht⟩ := Transition.exec_of_along hhonest
      cases t with
      | returned result =>
        have hret : r.readAt offset len answers = some result := by
          rw [readAt_eq_some, hbegin]
          exact ht
        simp [hret]
      | reading pos out =>
        have hcount := length_le_of_exec rfl ht pos out rfl
        obtain ⟨hpos, hout, -⟩ : (State.reading pos out).Faithful file offset.toNat
            (r.stop offset len) := faithful_of_exec (hstart file) ht hhonest
        have hend := UInt64.lt_iff_toNat_lt.1 hpos
        simp only [length_nil, Nat.add_zero] at hcount
        omega

/-! ## An answer that is too long -/

def readAnswer (data : Bytes) : Except Error Frame :=
  .ok { header := Tree.answerHeader NtStatus.success
        body := { dataOffset := 0x50, dataRemaining := 0, flags := 0, data : ReadResponse }.pack
        raw := [] }

def eightBytes : FileReader := ⟨1, ⟨1, 1⟩, 8, 4⟩

theorem readAt_fiveBytes :
    ([2, 3, 4, 5, 6] : Bytes) = slice [1, 2, 3, 4, 5, 6, 7, 8] 1 (min (1 + 5) 8) := by
  refine ((readAt_length_le_iff eightBytes 1 5 [readAnswer [2, 3, 4], readAnswer [5, 6]]).1
    [2, 3, 4, 5, 6] (by decide +kernel)).2 [1, 2, 3, 4, 5, 6, 7, 8] ?_
  have hhonest : ∀ (req : ReadRequest) (data : Bytes), data ≠ [] →
      data <+: (([1, 2, 3, 4, 5, 6, 7, 8] : Bytes).drop req.offset.toNat).take req.length.toNat →
        HonestAnswer [1, 2, 3, 4, 5, 6, 7, 8] req (readAnswer data) := by
    intro req data hne hbegins
    exact ⟨_, rfl, .inr ⟨rfl, _, [], (append_nil _).symm, hne, hbegins⟩⟩
  refine ⟨.reading 4 [2, 3, 4], by decide +kernel, hhonest _ _ (by decide) (by decide +kernel), ?_⟩
  exact ⟨.returned (.ok [2, 3, 4, 5, 6]), by decide +kernel,
    hhonest _ _ (by decide) (by decide +kernel), trivial⟩

/-- **A READ for one byte is answered with two**: the call returns both. -/
theorem readAt_longer_than_asked :
    eightBytes.readAt 0 1 [readAnswer [1, 2]] = some (.ok [1, 2]) ∧
      ¬ ([1, 2] : Bytes).length ≤ min 1 (8 - 0) := by
  decide +kernel

end Results

end FileReader

end Smb2
