import Smb2.Name
import Smb2.Pack

set_option autoImplicit false

/-!
# CHANGE_NOTIFY responses

The body of a CHANGE_NOTIFY response (`msg/change_notify.rs`) and the chain of
FILE_NOTIFY_INFORMATION entries in it (`parse_notify_information` of `client/watcher.rs`).
-/

open List

namespace Smb2

structure ChangeNotifyResponse where
  outputData : Bytes
deriving DecidableEq, Repr

namespace ChangeNotifyResponse

open ReadCursor

def structureSize : UInt16 := 9

def unpack : Reader ChangeNotifyResponse := do
  let size ← readU16Le
  expect (size = structureSize)
    (.invalidData s!"invalid ChangeNotifyResponse structure size: expected 9, got {size}")
  let _offset ← readU16Le
  let length ← readU32Le
  let outputData ← readBuffer length.toNat
  return { outputData }

end ChangeNotifyResponse

/-! ## Entries -/

inductive FileNotifyAction
  | added | removed | modified | renamedOldName | renamedNewName
deriving DecidableEq, Repr

def FileNotifyAction.fromU32 (value : ℕ) : Except Error FileNotifyAction :=
  match value with
  | 1 => .ok .added
  | 2 => .ok .removed
  | 3 => .ok .modified
  | 4 => .ok .renamedOldName
  | 5 => .ok .renamedNewName
  | other => .error (.invalidData
      ("unknown FILE_NOTIFY_INFORMATION action: 0x" ++ hexPadded 8 other))

structure FileNotifyEvent where
  action : FileNotifyAction
  filename : List Char
deriving DecidableEq, Repr

def decodeUtf16le (bytes : Bytes) : Except Error (List Char) :=
  if bytes.length % 2 ≠ 0 then .error (.invalidData "UTF-16LE filename has odd byte count")
  else
    match Utf16.decode (codeUnits bytes) with
    | some s => .ok s
    | none => .error (.invalidData
        "invalid UTF-16LE filename: invalid utf-16: lone surrogate found")

def parseEntry (data : Bytes) (offset : ℕ) : Except Error (ℕ × FileNotifyEvent) := do
  if offset + 12 > data.length then
    throw (.invalidData "FILE_NOTIFY_INFORMATION truncated: not enough bytes for fixed fields")
  let nextEntryOffset := leNat (slice data offset (offset + 4))
  let actionRaw := leNat (slice data (offset + 4) (offset + 8))
  let filenameLength := leNat (slice data (offset + 8) (offset + 12))
  let filenameStart := offset + 12
  if filenameStart + filenameLength > data.length then
    let len := data.length
    throw (.invalidData ("FILE_NOTIFY_INFORMATION filename extends beyond buffer: " ++
      s!"need {filenameLength} bytes at offset {filenameStart}, buffer is {len} bytes"))
  let raw ← decodeUtf16le (slice data filenameStart (filenameStart + filenameLength))
  let action ← FileNotifyAction.fromU32 actionRaw
  return (nextEntryOffset, ⟨action, Name.decodePath raw⟩)

def parseEntries (data : Bytes) : ℕ → ℕ → Except Error (List FileNotifyEvent)
  | 0, _ => .ok []
  | fuel + 1, offset => do
    let (next, event) ← parseEntry data offset
    if next = 0 then return [event]
    return event :: (← parseEntries data fuel (offset + next))

lemma le_length_of_parseEntry {data : Bytes} {offset : ℕ} {entry : ℕ × FileNotifyEvent}
    (h : parseEntry data offset = .ok entry) : offset + 12 ≤ data.length := by
  unfold parseEntry at h
  by_contra hlen
  rw [if_pos (by omega)] at h
  cases h

lemma parseEntries_eq (data : Bytes) {fuel offset : ℕ} (h : data.length ≤ offset + fuel) :
    parseEntries data (fuel + 2) offset = parseEntries data (fuel + 1) offset := by
  induction fuel generalizing offset with
  | zero =>
    have herror : ∀ entry, parseEntry data offset ≠ .ok entry := by
      intro entry hentry
      have := le_length_of_parseEntry hentry
      omega
    simp only [parseEntries]
    cases hentry : parseEntry data offset with
    | error e => rfl
    | ok entry => exact absurd hentry (herror entry)
  | succ fuel ih =>
    rw [parseEntries.eq_def, parseEntries.eq_def data (fuel + 1 + 1)]
    dsimp only
    cases hentry : parseEntry data offset with
    | error e => rfl
    | ok entry =>
      obtain ⟨next, event⟩ := entry
      by_cases hnext : next = 0
      · subst hnext
        rfl
      · have hrest : parseEntries data (fuel + 2) (offset + next) =
            parseEntries data (fuel + 1) (offset + next) := ih (by omega)
        show (if next = 0 then _ else _) = (if next = 0 then _ else _)
        rw [if_neg hnext, if_neg hnext, hrest]

def parseNotifyInformation (data : Bytes) : Except Error (List FileNotifyEvent) :=
  if data = [] then .ok [] else parseEntries data (data.length + 1) 0

/-! ## Entries as they are laid out -/

def FileNotifyAction.code : FileNotifyAction → ℕ
  | added => 1
  | removed => 2
  | modified => 3
  | renamedOldName => 4
  | renamedNewName => 5

lemma FileNotifyAction.fromU32_code (action : FileNotifyAction) : fromU32 action.code = .ok action := by
  cases action <;> rfl

lemma decodeUtf16le_utf16Le (s : List Char) : decodeUtf16le (utf16Le s) = .ok s := by
  have heven : ¬ (utf16Le s).length % 2 ≠ 0 := by
    rw [length_utf16Le]
    omega
  rw [decodeUtf16le, if_neg heven, codeUnits_utf16Le, Utf16.decode_encode]

structure RawEvent where
  action : FileNotifyAction
  name : List Char
  name_lt : 2 * Utf16.units name < 2 ^ 32

namespace RawEvent

def pack (e : RawEvent) (next : ℕ) : Bytes :=
  leBytes 4 next ++ (leBytes 4 e.action.code ++ (leBytes 4 (2 * Utf16.units e.name) ++ utf16Le e.name))

def event (e : RawEvent) : FileNotifyEvent := ⟨e.action, Name.decodePath e.name⟩

lemma length_pack (e : RawEvent) (next : ℕ) : (e.pack next).length = 12 + 2 * Utf16.units e.name := by
  simp only [pack, length_append, length_leBytes, length_utf16Le]
  omega

lemma parseEntry_pack (e : RawEvent) {next : ℕ} (hnext : next < 2 ^ 32) (pre post : Bytes) :
    parseEntry (pre ++ (e.pack next ++ post)) pre.length = .ok (next, e.event) := by
  have hcode : e.action.code < 256 ^ 4 := by cases e.action <;> decide
  have hlen : (pre ++ (e.pack next ++ post)).length =
      pre.length + (12 + 2 * Utf16.units e.name + post.length) := by
    rw [length_append, length_append, length_pack]
  have hfield (front bs back : Bytes) (h : pre ++ (e.pack next ++ post) = pre ++ front ++ (bs ++ back)) :
      slice (pre ++ (e.pack next ++ post)) (pre.length + front.length)
        (pre.length + front.length + bs.length) = bs := by
    rw [h, ← length_append]
    exact slice_append ..
  have hnextField := hfield [] (leBytes 4 next) _ (by simp only [pack, append_assoc]; rfl)
  have hactionField := hfield (leBytes 4 next) (leBytes 4 e.action.code) _
    (by simp only [pack, append_assoc]; rfl)
  have hlengthField := hfield (leBytes 4 next ++ leBytes 4 e.action.code)
    (leBytes 4 (2 * Utf16.units e.name)) _ (by simp only [pack, append_assoc]; rfl)
  have hname := hfield
    (leBytes 4 next ++ leBytes 4 e.action.code ++ leBytes 4 (2 * Utf16.units e.name))
    (utf16Le e.name) post (by simp only [pack, append_assoc])
  simp only [length_append, length_leBytes, length_nil, Nat.add_zero, length_utf16Le,
    Nat.reduceAdd, Nat.add_assoc] at hnextField hactionField hlengthField hname
  simp only [parseEntry, Nat.add_assoc, hnextField, hactionField, hlengthField,
    leNat_leBytes (k := 4) hnext, leNat_leBytes hcode, leNat_leBytes (k := 4) e.name_lt, hname,
    decodeUtf16le_utf16Le, FileNotifyAction.fromU32_code]
  rw [if_neg (by omega), if_neg (by omega)]
  rfl

end RawEvent

/-- **Events laid out in a buffer**: each but the last one says where the next one begins, with any
bytes in between; behind the last one there may be more. -/
inductive LaidEvents : List RawEvent → Bytes → Prop
  | last (e : RawEvent) (post : Bytes) : LaidEvents [e] (e.pack 0 ++ post)
  | cons {e : RawEvent} {es : List RawEvent} {padding rest : Bytes} {next : ℕ} (hlt : next < 2 ^ 32)
      (hnext : next = (e.pack next).length + padding.length) (h : LaidEvents es rest) :
      LaidEvents (e :: es) (e.pack next ++ (padding ++ rest))

lemma parseEntries_of_laid {es : List RawEvent} {rest : Bytes} (h : LaidEvents es rest) {pre : Bytes}
    {n : ℕ} (hn : rest.length < n) :
    parseEntries (pre ++ rest) n pre.length = .ok (es.map RawEvent.event) := by
  induction h generalizing pre n with
  | last e post =>
    obtain ⟨n, rfl⟩ := Nat.exists_eq_succ_of_ne_zero (n := n) (by omega)
    rw [parseEntries, e.parseEntry_pack (by omega)]
    rfl
  | @cons e es padding rest next hlt hnext h ih =>
    obtain ⟨n, rfl⟩ := Nat.exists_eq_succ_of_ne_zero (n := n) (by omega)
    have hlen := e.length_pack next
    have hrest := @ih (pre ++ (e.pack next ++ padding)) n
      (by simp only [length_append] at hn; omega)
    rw [length_append, length_append, ← hnext, append_assoc, append_assoc]
      at hrest
    rw [parseEntries, e.parseEntry_pack hlt]
    show (if next = 0 then _ else _) = _
    rw [if_neg (by omega), hrest]
    rfl

/-! ## Buffers that are left -/

/-- **An entry or the chain leaves the buffer**, from an entry on. -/
inductive LeavesBuffer (data : Bytes) : ℕ → Prop
  | entry {o : ℕ} (h : data.length < o + 12 + leNat (slice data (o + 8) (o + 12))) : LeavesBuffer data o
  | next {o : ℕ} (hne : leNat (slice data o (o + 4)) ≠ 0)
      (h : LeavesBuffer data (o + leNat (slice data o (o + 4)))) : LeavesBuffer data o

lemma parseEntry_eq_ok {data : Bytes} {o : ℕ} {entry : ℕ × FileNotifyEvent}
    (h : parseEntry data o = .ok entry) :
    o + 12 + leNat (slice data (o + 8) (o + 12)) ≤ data.length ∧
      entry.1 = leNat (slice data o (o + 4)) := by
  simp only [parseEntry, bind, Except.bind] at h
  split at h
  · cases h
  · split at h
    · cases h
    · rename_i hname
      cases hraw : decodeUtf16le (slice data (o + 12) (o + 12 + leNat (slice data (o + 8) (o + 12)))) with
      | error e => simp [hraw] at h
      | ok raw =>
        cases haction : FileNotifyAction.fromU32 (leNat (slice data (o + 4) (o + 8))) with
        | error e => simp [hraw, haction] at h
        | ok action =>
          simp only [hraw, haction] at h
          cases h
          exact ⟨by omega, rfl⟩

lemma LeavesBuffer.error {data : Bytes} {o n : ℕ} (h : LeavesBuffer data o)
    (hn : data.length < o + n) (hpos : 0 < n) : ∃ e, parseEntries data n o = .error e := by
  induction h generalizing n with
  | @entry o h =>
    obtain ⟨n, rfl⟩ := Nat.exists_eq_succ_of_ne_zero (n := n) (by omega)
    rw [parseEntries]
    cases hentry : parseEntry data o with
    | error e => exact ⟨e, rfl⟩
    | ok entry =>
      have := (parseEntry_eq_ok hentry).1
      omega
  | @next o hne h ih =>
    obtain ⟨n, rfl⟩ := Nat.exists_eq_succ_of_ne_zero (n := n) (by omega)
    rw [parseEntries]
    cases hentry : parseEntry data o with
    | error e => exact ⟨e, rfl⟩
    | ok entry =>
      obtain ⟨next, event⟩ := entry
      obtain ⟨hle, rfl⟩ : _ ∧ next = _ := parseEntry_eq_ok hentry
      obtain ⟨e, he⟩ := @ih n (by omega) (by omega)
      refine ⟨e, ?_⟩
      show (if leNat (slice data o (o + 4)) = 0 then _ else _) = _
      rw [if_neg hne, he]
      rfl

/-- **Change notifications decode exactly.** Events that are laid out in a buffer are returned in
order, with their paths decoded. On any input the loop ends, as more rounds than there are bytes change
nothing; an entry that is accepted lies within the buffer; and a buffer that an entry or the chain
leaves is rejected. -/
theorem notifications_exact (data : Bytes) :
    (∀ es, LaidEvents es data → parseNotifyInformation data = .ok (es.map RawEvent.event)) ∧
    (∀ n, data.length < n → data ≠ [] → parseEntries data n 0 = parseNotifyInformation data) ∧
    (∀ o entry, parseEntry data o = .ok entry →
      o + 12 + leNat (slice data (o + 8) (o + 12)) ≤ data.length) ∧
    (data ≠ [] → LeavesBuffer data 0 → ∃ e, parseNotifyInformation data = .error e) := by
  refine ⟨?_, ?_, fun o entry h => (parseEntry_eq_ok h).1, ?_⟩
  · intro es h
    have hne : data ≠ [] := by
      rintro rfl
      cases h
    rw [parseNotifyInformation, if_neg hne]
    exact @parseEntries_of_laid es data h [] _ (Nat.lt_succ_self _)
  · intro n hn hne
    rw [parseNotifyInformation, if_neg hne]
    induction n, hn using Nat.le_induction with
    | base => rfl
    | succ n hn ih =>
      obtain ⟨n, rfl⟩ := Nat.exists_eq_succ_of_ne_zero (n := n) (by omega)
      rw [← ih]
      exact parseEntries_eq data (by omega)
  · intro hne h
    rw [parseNotifyInformation, if_neg hne]
    exact h.error (by omega) (by omega)

end Smb2
