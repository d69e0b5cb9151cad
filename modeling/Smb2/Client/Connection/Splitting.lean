import Smb2.Client.Connection.Authenticity

set_option autoImplicit false

/-!
# Splitting is all or nothing

`split_compound` (`client/connection.rs`) indexes the frame by offsets that the server chose. The
loop is modelled once more here, statement by statement, with every range and every subtraction
checked: a range outside the frame or a negative difference, which panic in the source, have no
value. The loop has a value on every byte string, and it is the one that `splitCompound` gives.

## Implementation notes

Offsets are below twice the length of a frame in memory plus 2 ^ 32, so sums of `usize` are sums.
-/

open List

namespace Smb2.Connection

/-! ## The loop with its checks -/

def sliceChecked (data : Bytes) (start stop : ℕ) : Option Bytes :=
  if start ≤ stop ∧ stop ≤ data.length then some (slice data start stop) else none

def subChecked (m n : ℕ) : Option ℕ :=
  if n ≤ m then some (m - n) else none

/-- The loop of `split_compound`, with at most `fuel` rounds. `none` is a panic, or a loop that
has not ended. -/
def splitLoop (data : Bytes) : ℕ → ℕ → List Bytes → Option (Except Error (List Bytes))
  | 0, _, _ => none
  | fuel + 1, offset, results =>
    if offset + Header.size > data.length then do
      let rest ← subChecked data.length offset
      return .error (.invalidData
        (s!"compound response truncated at offset {offset}: need 64 bytes for header, " ++
          s!"but only {rest} remain"))
    else if results ≠ [] ∧ offset % 8 ≠ 0 then
      some (.error (.invalidData
        s!"compound response at offset {offset} is not 8-byte aligned -- must disconnect"))
    else do
      let field ← sliceChecked data (offset + 20) (offset + 24)
      let nextCmd := leNat field
      let subEnd := if nextCmd > 0 then offset + nextCmd else data.length
      if subEnd > data.length then
        let len := data.length
        return .error (.invalidData
          (s!"compound NextCommand offset {nextCmd} at position {offset} " ++
            s!"exceeds response length {len}"))
      else
        let sub ← sliceChecked data offset subEnd
        if nextCmd = 0 then return .ok (results ++ [sub])
        else splitLoop data fuel (offset + nextCmd) (results ++ [sub])

variable {data : Bytes} {offset : ℕ} {pieces : List Bytes}

lemma sliceChecked_of_le {start stop : ℕ} (hle : start ≤ stop) (hlen : stop ≤ data.length) :
    sliceChecked data start stop = some (slice data start stop) :=
  if_pos ⟨hle, hlen⟩

lemma slice_length (data : Bytes) (offset : ℕ) :
    slice data offset data.length = data.drop offset := by
  rw [slice, take_of_length_le]
  rw [length_drop]

lemma splitLoop_of_le (data : Bytes) (fuel offset : ℕ) (results : List Bytes)
    (hfuel : data.length - offset < fuel) (hoffset : offset ≤ data.length)
    (hresults : results = [] ↔ offset = 0) :
    splitLoop data fuel offset results =
      some ((splitFrom data offset).map (results ++ ·)) := by
  -- Every round that goes on moves the offset, so the fuel covers the bytes that are left.
  induction fuel generalizing offset results with
  | zero => omega
  | succ fuel ih =>
    rw [splitLoop, splitFrom]
    by_cases hheader : data.length < offset + Header.size
    · have hsub : subChecked data.length offset = some (data.length - offset) := if_pos hoffset
      simp only [gt_iff_lt, hheader, if_true, hsub]
      rfl
    · have hnext : offset + 24 ≤ data.length := by
        simp only [Header.size] at hheader
        omega
      simp only [gt_iff_lt, hheader, if_false, ne_eq, hresults]
      by_cases halign : offset ≠ 0 ∧ offset % 8 ≠ 0
      · simp only [if_pos halign]
        rfl
      · simp only [if_neg halign, sliceChecked_of_le (by omega : offset + 20 ≤ offset + 24) hnext,
          Option.bind_eq_bind, Option.bind_some]
        generalize leNat (slice data (offset + 20) (offset + 24)) = nextCmd
        by_cases hlast : nextCmd = 0
        · subst hlast
          simp [sliceChecked_of_le hoffset le_rfl, slice_length, Except.map]
        · have hpos : 0 < nextCmd := by omega
          simp only [if_pos hpos, if_neg hlast, dif_neg hlast]
          by_cases hend : data.length < offset + nextCmd
          · simp only [if_pos hend]
            rfl
          · have hfit : offset + nextCmd ≤ data.length := by omega
            rw [if_neg hend, if_neg hend,
              sliceChecked_of_le (by omega : offset ≤ offset + nextCmd) hfit, Option.bind_some,
              ih (offset + nextCmd) _ (by omega) hfit (by simp [hlast])]
            cases splitFrom data (offset + nextCmd) with
            | error e => rfl
            | ok rest =>
              show some (Except.ok (results ++ [_] ++ rest)) = some (Except.ok (results ++ _ :: rest))
              rw [append_assoc, singleton_append]

/-- **`split_compound` ends without a panic** on every byte string, in at most one round more than
it has bytes, with the result of `splitCompound`. -/
theorem splitLoop_eq (data : Bytes) :
    splitLoop data (data.length + 1) 0 [] = some (splitCompound data) := by
  rw [splitLoop_of_le data _ 0 [] (by omega) (Nat.zero_le _) (by simp), splitCompound]
  cases splitFrom data 0 <;> rfl

/-! ## The pieces -/

lemma splitFrom_eq_ok (h : splitFrom data offset = .ok pieces) :
    offset + Header.size ≤ data.length ∧ (offset = 0 ∨ offset % 8 = 0) ∧
      (pieces = [data.drop offset] ∨
        ∃ next rest, next = leNat (slice data (offset + 20) (offset + 24)) ∧ 0 < next ∧
          offset + next ≤ data.length ∧ splitFrom data (offset + next) = .ok rest ∧
            pieces = slice data offset (offset + next) :: rest) := by
  rw [splitFrom] at h
  dsimp only at h
  split at h
  · cases h
  · rename_i hheader
    split at h
    · cases h
    · rename_i halign
      refine ⟨by omega, by omega, ?_⟩
      split at h
      · exact .inl (Except.ok.inj h).symm
      · rename_i hnext
        split at h
        · cases h
        · rename_i hfit
          cases hrest : splitFrom data
              (offset + leNat (slice data (offset + 20) (offset + 24))) with
          | error e =>
            rw [hrest] at h
            cases h
          | ok rest =>
            rw [hrest] at h
            exact .inr ⟨_, rest, rfl, by omega, by omega, hrest, (Except.ok.inj h).symm⟩

lemma splitFrom_last (hheader : offset + Header.size ≤ data.length) (halign : offset % 8 = 0)
    (hnext : leNat (slice data (offset + 20) (offset + 24)) = 0) :
    splitFrom data offset = .ok [data.drop offset] := by
  rw [splitFrom]
  dsimp only
  rw [if_neg (by omega), if_neg (by omega), dif_pos hnext]

lemma splitFrom_link {next : ℕ} (hheader : offset + Header.size ≤ data.length)
    (halign : offset % 8 = 0) (hnext : leNat (slice data (offset + 20) (offset + 24)) = next)
    (hpos : 0 < next) (hfit : offset + next ≤ data.length) :
    splitFrom data offset =
      (splitFrom data (offset + next)).map (slice data offset (offset + next) :: ·) := by
  subst hnext
  rw [splitFrom]
  dsimp only
  rw [if_neg (by omega), if_neg (by omega), dif_neg (by omega), if_neg (by omega)]
  rfl

lemma splitFrom_flatten (data : Bytes) (n offset : ℕ) (pieces : List Bytes)
    (hn : data.length - offset ≤ n) (h : splitFrom data offset = .ok pieces) :
    pieces.flatten = data.drop offset := by
  induction n generalizing offset pieces with
  | zero =>
    obtain ⟨hheader, -⟩ := splitFrom_eq_ok h
    simp only [Header.size] at hheader
    omega
  | succ n ih =>
    obtain ⟨-, -, rfl | ⟨next, rest, -, hpos, hfit, hrest, rfl⟩⟩ := splitFrom_eq_ok h
    · simp
    · rw [flatten_cons, ih (offset + next) rest (by omega) hrest, slice,
        Nat.add_sub_cancel_left, ← drop_drop, take_append_drop]

lemma splitFrom_aligned (data : Bytes) (n offset : ℕ) (pieces : List Bytes)
    (hn : data.length - offset ≤ n) (h : splitFrom data offset = .ok pieces) (i : ℕ)
    (hi : i < pieces.length) : (offset + (pieces.take i).flatten.length) % 8 = 0 := by
  induction n generalizing offset pieces i with
  | zero =>
    obtain ⟨hheader, -⟩ := splitFrom_eq_ok h
    simp only [Header.size] at hheader
    omega
  | succ n ih =>
    obtain ⟨-, halign, hpieces⟩ := splitFrom_eq_ok h
    cases i with
    | zero =>
      simp only [take_zero, flatten_nil, length_nil, Nat.add_zero]
      omega
    | succ i =>
      obtain rfl | ⟨next, rest, -, hpos, hfit, hrest, rfl⟩ := hpieces
      · simp at hi
      · have hnext : (slice data offset (offset + next)).length = next := by
          rw [slice, length_take, length_drop]
          omega
        have := ih (offset + next) rest (by omega) hrest i (by simpa using hi)
        rw [take_succ_cons, flatten_cons, length_append, hnext, ← Nat.add_assoc]
        exact this

theorem splitCompound_flatten (h : splitCompound data = .ok pieces) : pieces.flatten = data :=
  splitFrom_flatten data data.length 0 pieces (by omega) h

/-- **Every piece begins at a multiple of eight.** -/
theorem splitCompound_aligned (h : splitCompound data = .ok pieces) {i : ℕ}
    (hi : i < pieces.length) :
    (pieces.take i).flatten.length % 8 = 0 := by
  have := splitFrom_aligned data data.length 0 pieces (by omega) h i hi
  rwa [Nat.zero_add] at this

/-! ## A sub-frame that does not parse -/

namespace Receiver

/-- **A frame with a header that does not parse** is not handed out: the loop returns, every
outstanding request gets `Disconnected`, and what was resolved before stands. -/
theorem receive_of_not_parses {K : Primitives} {r : Receiver} {raw : Bytes} {subs : List Bytes}
    {wasEncrypted : Bool} (hdecode : decodeFrame K r.crypto raw = .ok (subs, wasEncrypted))
    {sub : Bytes} (hmem : sub ∈ subs) (hsub : ¬ parses sub) :
    (r.receive K raw).running = false ∧ (r.receive K raw).disconnected = true ∧
      (r.receive K raw).waiters = ∅ ∧
      (r.receive K raw).resolved =
        r.resolved ++ r.waiters.keys.map fun id => (id, .error .disconnected) := by
  have hall : ¬ subs.all parses := by
    rw [all_eq_true]
    exact fun hall => hsub (hall sub hmem)
  obtain ⟨hcalm, hprep⟩ := prepareAll_spec K.mac wasEncrypted subs r
  rw [if_neg hall] at hprep
  obtain ⟨e, he⟩ := hprep
  have hreceive : r.receive K raw = (prepareAll K.mac wasEncrypted subs r).2.tearDown := by
    unfold receive
    rw [hdecode]
    dsimp only
    generalize prepareAll K.mac wasEncrypted subs r = out at he
    obtain ⟨outcome, r₁⟩ := out
    obtain rfl : outcome = .error e := he
    rfl
  rw [hreceive]
  refine ⟨rfl, rfl, rfl, ?_⟩
  show _ ++ _ = _
  rw [hcalm.resolved, hcalm.keys]

end Receiver

/-! ## Every frame -/

/-- **Frame decoding is all or nothing.** On every byte string the loop of `split_compound` ends
without a panic, and the pieces of a success are the byte string, cut at multiples of eight. In
every state of the receiver, a frame with a sub-frame whose header does not parse resolves no
request but with `Disconnected`, and ends the connection. -/
theorem frame_all_or_nothing (K : Primitives) :
    (∀ data : Bytes, splitLoop data (data.length + 1) 0 [] = some (splitCompound data) ∧
      ∀ pieces, splitCompound data = .ok pieces →
        pieces.flatten = data ∧
          ∀ i, 0 < i → i < pieces.length → (pieces.take i).flatten.length % 8 = 0) ∧
    ∀ (r : Receiver) (raw : Bytes) (subs : List Bytes) (wasEncrypted : Bool),
      decodeFrame K r.crypto raw = .ok (subs, wasEncrypted) →
      (∃ sub ∈ subs, ¬ Receiver.parses sub) →
        (r.receive K raw).running = false ∧ (r.receive K raw).disconnected = true ∧
          (r.receive K raw).waiters = ∅ ∧
          (r.receive K raw).resolved =
            r.resolved ++ r.waiters.keys.map fun id => (id, .error .disconnected) := by
  constructor
  · intro data
    refine ⟨splitLoop_eq data, fun pieces h => ⟨splitCompound_flatten h, ?_⟩⟩
    intro i _ hi
    exact splitCompound_aligned h hi
  · rintro r raw subs wasEncrypted hdecode ⟨sub, hmem, hsub⟩
    exact Receiver.receive_of_not_parses hdecode hmem hsub

def halfParsed : Bytes :=
  { Receiver.unsignedHeader with nextCommand := 64 }.pack ++ replicate 64 0

theorem frame_all_or_nothing_halfParsed :
    ({ Receiver.init with waiters := AList.singleton 5 ⟨none, 0⟩ }.receive
      Receiver.samplePrimitives halfParsed).resolved = [(5, .error .disconnected)] := by
  have hdecode : decodeFrame Receiver.samplePrimitives Receiver.init.crypto halfParsed =
      .ok ([{ Receiver.unsignedHeader with nextCommand := 64 }.pack, replicate 64 0],
        false) := by
    decide +kernel
  have hparse : ¬ Receiver.parses (replicate 64 0) := by decide +kernel
  exact ((frame_all_or_nothing Receiver.samplePrimitives).2
    { Receiver.init with waiters := AList.singleton 5 ⟨none, 0⟩ } halfParsed _ _ hdecode
    ⟨_, by simp, hparse⟩).2.2.2

end Smb2.Connection
