import Smb2.Msg.Header

set_option autoImplicit false

/-!
# CREATE requests and responses

The bodies of `msg/create.rs`. A request ends in the name, as UTF-16LE, and the create contexts,
which are placed at the next multiple of eight; the offset and length fields in front of them are
patched in afterwards. A response ends in the create contexts.

## Implementation notes

Packing appends to a buffer whose length, `start`, decides about the padding. The masks and flag
words have no structure of their own here. A string is the list of its characters.
-/

open List

namespace Smb2

/-! ## Enumerations -/

inductive ImpersonationLevel
  | anonymous | identification | impersonation | delegate
deriving DecidableEq, Repr

namespace ImpersonationLevel

def all : List ImpersonationLevel := [anonymous, identification, impersonation, delegate]

def code (level : ImpersonationLevel) : UInt32 := UInt32.ofNat (all.idxOf level)

def tryFrom (value : UInt32) : Except Error ImpersonationLevel :=
  match all[value.toNat]? with
  | some level => .ok level
  | none => .error (.invalidData s!"invalid ImpersonationLevel: {value}")

lemma tryFrom_code (level : ImpersonationLevel) : tryFrom level.code = .ok level := by
  cases level <;> rfl

end ImpersonationLevel

inductive CreateDisposition
  | fileSupersede | fileOpen | fileCreate | fileOpenIf | fileOverwrite | fileOverwriteIf
deriving DecidableEq, Repr

namespace CreateDisposition

def all : List CreateDisposition :=
  [fileSupersede, fileOpen, fileCreate, fileOpenIf, fileOverwrite, fileOverwriteIf]

def code (disposition : CreateDisposition) : UInt32 := UInt32.ofNat (all.idxOf disposition)

def tryFrom (value : UInt32) : Except Error CreateDisposition :=
  match all[value.toNat]? with
  | some disposition => .ok disposition
  | none => .error (.invalidData s!"invalid CreateDisposition: {value}")

lemma tryFrom_code (disposition : CreateDisposition) : tryFrom disposition.code = .ok disposition := by
  cases disposition <;> rfl

end CreateDisposition

inductive CreateAction
  | fileSuperseded | fileOpened | fileCreated | fileOverwritten
deriving DecidableEq, Repr

namespace CreateAction

def all : List CreateAction := [fileSuperseded, fileOpened, fileCreated, fileOverwritten]

def code (action : CreateAction) : UInt32 := UInt32.ofNat (all.idxOf action)

def tryFrom (value : UInt32) : Except Error CreateAction :=
  match all[value.toNat]? with
  | some action => .ok action
  | none => .error (.invalidData s!"invalid CreateAction: {value}")

end CreateAction

/-! ## Requests -/

structure CreateRequest where
  requestedOplockLevel : OplockLevel
  impersonationLevel : ImpersonationLevel
  desiredAccess : UInt32
  fileAttributes : UInt32
  shareAccess : UInt32
  createDisposition : CreateDisposition
  createOptions : UInt32
  name : List Char
  createContexts : Bytes
deriving DecidableEq

namespace CreateRequest

open ReadCursor Header

def structureSize : UInt16 := 57

def fixedSize : ℕ := 56

/-- Where the contexts begin, counted from the beginning of the body: behind the name, at a
position of the buffer that is a multiple of eight. -/
def contextsStart (start : ℕ) (r : CreateRequest) : ℕ :=
  fixedSize + (utf16Le r.name).length +
    alignPadding (start + fixedSize + (utf16Le r.name).length) 8

/-- The fixed part, with the fields about the name and the contexts patched in. The length of the
name is cast to 16 bits, offset and length of the contexts to 32. -/
def packFixed (r : CreateRequest) (nameLength contextsOffset contextsLength : ℕ) : Bytes :=
  leBytes 2 structureSize.toNat ++ (leBytes 1 0 ++ (leBytes 1 r.requestedOplockLevel.code.toNat ++
    (leBytes 4 r.impersonationLevel.code.toNat ++ (leBytes 8 0 ++ (leBytes 8 0 ++
    (leBytes 4 r.desiredAccess.toNat ++ (leBytes 4 r.fileAttributes.toNat ++
    (leBytes 4 r.shareAccess.toNat ++ (leBytes 4 r.createDisposition.code.toNat ++
    (leBytes 4 r.createOptions.toNat ++ (leBytes 2 (size + fixedSize) ++ (leBytes 2 nameLength ++
    (leBytes 4 contextsOffset ++ leBytes 4 contextsLength)))))))))))))

def pack (start : ℕ) (r : CreateRequest) : Bytes :=
  let name := utf16Le r.name
  if r.createContexts ≠ [] then
    r.packFixed name.length (size + r.contextsStart start) r.createContexts.length ++ (name ++
      (replicate (alignPadding (start + fixedSize + name.length) 8) 0 ++ r.createContexts))
  else
    -- The buffer holds at least one byte, even if the name is empty.
    r.packFixed name.length 0 0 ++ (name ++ if name = [] then [0] else [])

def readName (start offset length : ℕ) : Reader (List Char) := do
  if length > 0 then
    seekTo (start + (offset - size))
    readUtf16Le length
  else
    return []

def unpack : Reader CreateRequest := do
  let start ← position
  let structSize ← readU16Le
  expect (structSize = structureSize)
    (.invalidData s!"invalid CreateRequest structure size: expected 57, got {structSize}")
  let _ ← readU8
  let requestedOplockLevel ← liftM (OplockLevel.tryFrom (← readU8))
  let impersonationLevel ← liftM (ImpersonationLevel.tryFrom (← readU32Le))
  let _ ← readU64Le
  let _ ← readU64Le
  let desiredAccess ← readU32Le
  let fileAttributes ← readU32Le
  let shareAccess ← readU32Le
  let createDisposition ← liftM (CreateDisposition.tryFrom (← readU32Le))
  let createOptions ← readU32Le
  let nameOffset ← readU16Le
  let nameLength ← readU16Le
  let contextsOffset ← readU32Le
  let contextsLength ← readU32Le
  let name ← readName start nameOffset.toNat nameLength.toNat
  let createContexts ← readBufferAt start contextsOffset.toNat contextsLength.toNat
  return { requestedOplockLevel, impersonationLevel, desiredAccess, fileAttributes, shareAccess,
           createDisposition, createOptions, name, createContexts }

/-! ### Reading a request back -/

variable {r : CreateRequest} {start : ℕ}

@[simp] lemma length_packFixed (nameLength contextsOffset contextsLength : ℕ) :
    (r.packFixed nameLength contextsOffset contextsLength).length = fixedSize := by
  simp [packFixed, fixedSize]

lemma pack_eq (r : CreateRequest) (start : ℕ) :
    ∃ contextsOffset rest, r.pack start =
      r.packFixed (utf16Le r.name).length contextsOffset r.createContexts.length ++ rest := by
  rw [pack]
  split
  · exact ⟨_, _, rfl⟩
  · rename_i hnone
    rw [not_not.1 hnone]
    exact ⟨_, _, rfl⟩

lemma length_pack_le (r : CreateRequest) (start : ℕ) (hnone : r.createContexts = []) :
    (r.pack start).length ≤ fixedSize + (utf16Le r.name).length + 1 := by
  rw [pack, if_neg (not_not.2 hnone), length_append, length_append, length_packFixed]
  have hpad : (if utf16Le r.name = [] then ([0] : Bytes) else []).length ≤ 1 := by
    split <;> simp
  omega

/-- The variable part of a request: the name and the contexts, as `unpack` reads them behind the
fixed part. -/
def readVariable (r : CreateRequest) (nameLength contextsOffset contextsLength : ℕ) :
    Reader CreateRequest := do
  let name ← readName 0 (size + fixedSize) nameLength
  let createContexts ← readBufferAt 0 contextsOffset contextsLength
  return { r with name, createContexts }

lemma unpack_packFixed (nameLength contextsOffset contextsLength : ℕ) (rest : Bytes) :
    unpack (.new (r.packFixed nameLength contextsOffset contextsLength ++ rest)) =
      r.readVariable (nameLength % 2 ^ 16) (contextsOffset % 2 ^ 32) (contextsLength % 2 ^ 32)
        ⟨r.packFixed nameLength contextsOffset contextsLength ++ rest, fixedSize⟩ := by
  have hstart (x : Bytes) : ReadCursor.new x = ⟨[] ++ x, ([] : Bytes).length⟩ := rfl
  have hzero1 : leBytes 1 0 = leBytes 1 (0 : UInt8).toNat := rfl
  have hzero8 : leBytes 8 0 = leBytes 8 (0 : UInt64).toNat := rfl
  have hpos := length_packFixed (r := r) nameLength contextsOffset contextsLength
  rw [← hpos, hstart]
  simp only [packFixed, append_assoc]
  rw [hzero1, hzero8, ← leBytes_ofNat16 (size + fixedSize), ← leBytes_ofNat16 nameLength,
    ← leBytes_ofNat32 contextsOffset, ← leBytes_ofNat32 contextsLength, unpack, position_bind,
    readU16Le_bind, expect_bind (by rfl), readU8_bind, readU8_bind,
    liftM_bind (OplockLevel.tryFrom_code _), readU32Le_bind,
    liftM_bind (ImpersonationLevel.tryFrom_code _), readU64Le_bind, readU64Le_bind, readU32Le_bind,
    readU32Le_bind, readU32Le_bind, readU32Le_bind, liftM_bind (CreateDisposition.tryFrom_code _),
    readU32Le_bind, readU16Le_bind, readU16Le_bind, readU32Le_bind, readU32Le_bind]
  simp only [append_assoc, nil_append, UInt16.toNat_ofNat', UInt32.toNat_ofNat']
  rfl

variable {β : Type} {f : List Char → Reader β} {c : ReadCursor} {p : β × ReadCursor}

lemma readName_pos {offset length : ℕ} (hpos : 0 < length) :
    (readName start offset length >>= f) c = .ok p ↔
      start + (offset - size) - c.pos ≤ c.remaining ∧ length % 2 = 0 ∧
        length ≤ c.data.length - max c.pos (start + (offset - size)) ∧
        ∃ s, Utf16.decode (codeUnits (slice c.data (max c.pos (start + (offset - size)))
            (max c.pos (start + (offset - size)) + length))) = some s ∧
          f s ⟨c.data, max c.pos (start + (offset - size)) + length⟩ = .ok p := by
  rw [readName, if_pos hpos, bind_assoc, seekTo_then, readUtf16Le_then]
  rfl

lemma length_of_readName {offset length : ℕ} (h : (readName start offset length >>= f) c = .ok p) :
    ∃ s c', (utf16Le s).length = length ∧ f s c' = .ok p := by
  obtain rfl | hpos := Nat.eq_zero_or_pos length
  · exact ⟨[], c, rfl, h⟩
  · obtain ⟨-, heven, hrest, s, hs, hf⟩ := (readName_pos hpos).1 h
    refine ⟨s, _, ?_, hf⟩
    have hslice := length_slice hrest
    rw [length_utf16Le, Utf16.units, Utf16.encode_of_decode hs, length_codeUnits (by omega), hslice]

lemma readName_append {pre post : Bytes} {s : List Char}
    (hf : f s ⟨pre ++ (utf16Le s ++ post), pre.length + (utf16Le s).length⟩ = .ok p) :
    (readName 0 (size + pre.length) (utf16Le s).length >>= f)
      ⟨pre ++ (utf16Le s ++ post), pre.length⟩ = .ok p := by
  obtain hzero | hpos := Nat.eq_zero_or_pos (utf16Le s).length
  · obtain rfl : s = [] := by
      rw [length_utf16Le] at hzero
      exact Utf16.units_eq_zero.1 (by omega)
    exact hf
  · have hat : max pre.length (0 + (size + pre.length - size)) = pre.length := by omega
    rw [readName_pos hpos]
    simp only [hat, slice_append, codeUnits_utf16Le, Utf16.decode_encode, remaining,
      length_append]
    exact ⟨by omega, by rw [length_utf16Le]; omega, by omega, s, rfl, hf⟩

lemma lengths_of_readVariable {nameLength contextsOffset contextsLength : ℕ} {c' : ReadCursor}
    {r' : CreateRequest}
    (h : r.readVariable nameLength contextsOffset contextsLength c = .ok (r', c')) :
    (utf16Le r'.name).length = nameLength ∧ r'.createContexts.length = contextsLength ∧
      contextsLength ≤ maxUnpackBuffer := by
  rw [readVariable] at h
  obtain ⟨name, c₁, hname, h⟩ := length_of_readName h
  obtain ⟨hmax, contexts, c₂, hcontexts, h⟩ := length_of_readBufferAt h
  obtain ⟨rfl, -⟩ := pure_eq_ok.1 h
  exact ⟨hname, hcontexts, hmax⟩

lemma readVariable_of_nil {fixed post : Bytes} (hfixed : fixed.length = fixedSize)
    (hnone : r.createContexts = []) :
    r.readVariable (utf16Le r.name).length 0 0 ⟨fixed ++ (utf16Le r.name ++ post), fixedSize⟩ =
      .ok (r, ⟨fixed ++ (utf16Le r.name ++ post), fixedSize + (utf16Le r.name).length⟩) := by
  rw [readVariable, ← hfixed]
  refine readName_append ?_
  rw [readBufferAt_zero, ← hnone]
  rfl

lemma readVariable_of_pos {fixed pad : Bytes} {padding : ℕ} (hfixed : fixed.length = fixedSize)
    (hpad : pad.length = padding) (hpos : 0 < r.createContexts.length)
    (hmax : r.createContexts.length ≤ maxUnpackBuffer) :
    r.readVariable (utf16Le r.name).length
        (size + (fixedSize + (utf16Le r.name).length + padding)) r.createContexts.length
        ⟨fixed ++ (utf16Le r.name ++ (pad ++ r.createContexts)), fixedSize⟩ =
      .ok (r, ⟨fixed ++ (utf16Le r.name ++ (pad ++ r.createContexts)),
        fixedSize + (utf16Le r.name).length + padding + r.createContexts.length⟩) := by
  rw [readVariable, ← hfixed, ← hpad]
  refine readName_append ?_
  have hdata : fixed ++ (utf16Le r.name ++ (pad ++ r.createContexts)) =
      (fixed ++ utf16Le r.name) ++ (pad ++ (r.createContexts ++ [])) := by
    rw [append_nil, append_assoc]
  rw [hdata, ← length_append]
  exact readBufferAt_append hpos hmax rfl

lemma unpack_pack_of_fits (hname : (utf16Le r.name).length < 2 ^ 16)
    (hcontexts : r.createContexts.length ≤ maxUnpackBuffer) :
    ∃ c, unpack (.new (r.pack start)) = .ok (r, c) := by
  have hlen : (utf16Le r.name).length % 2 ^ 16 = (utf16Le r.name).length :=
    Nat.mod_eq_of_lt hname
  by_cases hnone : r.createContexts = []
  · rw [pack, if_neg (not_not.2 hnone), unpack_packFixed, hlen]
    exact ⟨_, readVariable_of_nil (length_packFixed ..) hnone⟩
  · have hpad := alignPadding_le (start + fixedSize + (utf16Le r.name).length) 8
    have hlen' : r.createContexts.length % 2 ^ 32 = r.createContexts.length :=
      Nat.mod_eq_of_lt (Nat.lt_of_le_of_lt hcontexts (by decide))
    have hoffset : (size + r.contextsStart start) % 2 ^ 32 = size + r.contextsStart start := by
      refine Nat.mod_eq_of_lt ?_
      simp only [contextsStart, size, fixedSize] at hpad ⊢
      omega
    rw [pack, if_pos hnone, unpack_packFixed, hlen, hlen', hoffset, contextsStart]
    exact ⟨_, readVariable_of_pos (length_packFixed ..) length_replicate
      (length_pos_iff.2 hnone) hcontexts⟩

/-- **What was packed is read back exactly if the lengths fit.** Otherwise the length of the name
has wrapped, and what is read is another name, or the reader refuses the contexts. -/
theorem unpack_pack_iff :
    (∃ c, unpack (.new (r.pack start)) = .ok (r, c)) ↔
      (utf16Le r.name).length < 2 ^ 16 ∧ r.createContexts.length ≤ maxUnpackBuffer := by
  constructor
  · rintro ⟨c, hok⟩
    obtain ⟨contextsOffset, rest, hpack⟩ := pack_eq r start
    rw [hpack, unpack_packFixed] at hok
    obtain ⟨hname, hcontexts, hmax⟩ := lengths_of_readVariable hok
    refine ⟨?_, by omega⟩
    rw [hname]
    exact Nat.mod_lt _ (by decide)
  · rintro ⟨hname, hcontexts⟩
    exact unpack_pack_of_fits hname hcontexts

/-- **A length that wraps cuts the name**: 32768 code units at its end are not read. -/
theorem unpack_pack_of_wrapped {s t : List Char} (hname : r.name = s ++ t)
    (hs : (utf16Le s).length < 2 ^ 16) (ht : Utf16.units t = 2 ^ 15) (hnone : r.createContexts = []) :
    ∃ c, unpack (.new (r.pack start)) = .ok ({ r with name := s }, c) := by
  have hlen : (utf16Le r.name).length % 2 ^ 16 = (utf16Le s).length := by
    rw [hname, utf16Le_append, length_append, length_utf16Le t, ht]
    omega
  rw [pack, if_neg (not_not.2 hnone), unpack_packFixed, hlen, hname, utf16Le_append,
    append_assoc]
  exact ⟨_, readVariable_of_nil (r := { r with name := s }) (length_packFixed ..) hnone⟩

end CreateRequest

/-! ## Responses -/

structure CreateResponse where
  oplockLevel : OplockLevel
  flags : UInt8
  createAction : CreateAction
  creationTime : UInt64
  lastAccessTime : UInt64
  lastWriteTime : UInt64
  changeTime : UInt64
  allocationSize : UInt64
  endOfFile : UInt64
  fileAttributes : UInt32
  fileId : FileId
  createContexts : Bytes
deriving DecidableEq, Repr

namespace CreateResponse

open ReadCursor Header

def structureSize : UInt16 := 89

def unpack : Reader CreateResponse := do
  let start ← position
  let structSize ← readU16Le
  expect (structSize = structureSize)
    (.invalidData s!"invalid CreateResponse structure size: expected 89, got {structSize}")
  let oplockLevel ← liftM (OplockLevel.tryFrom (← readU8))
  let flags ← readU8
  let createAction ← liftM (CreateAction.tryFrom (← readU32Le))
  let creationTime ← readU64Le
  let lastAccessTime ← readU64Le
  let lastWriteTime ← readU64Le
  let changeTime ← readU64Le
  let allocationSize ← readU64Le
  let endOfFile ← readU64Le
  let fileAttributes ← readU32Le
  let _ ← readU32Le
  let persistent ← readU64Le
  let volatile ← readU64Le
  let contextsOffset ← readU32Le
  let contextsLength ← readU32Le
  let createContexts ← readBufferAt start contextsOffset.toNat contextsLength.toNat
  return { oplockLevel, flags, createAction, creationTime, lastAccessTime, lastWriteTime,
           changeTime, allocationSize, endOfFile, fileAttributes,
           fileId := { persistent, volatile }, createContexts }

/-- **The create contexts of an accepted response** are read at their offset if that lies behind
the 88 fixed bytes, and right behind them otherwise. -/
theorem createContexts_of_unpack {body : Bytes} {r : CreateResponse} {c : ReadCursor}
    (hok : unpack (.new body) = .ok (r, c)) :
    r.createContexts = slice body (max 88 (leNat (slice body 80 84) - size))
      (max 88 (leNat (slice body 80 84) - size) + leNat (slice body 84 88)) := by
  rw [unpack] at hok
  simp only [position_then, readU16Le_then, expect_then, readU8_then, readU32Le_then,
    readU64Le_then, liftM_then, toNat_u32_peek] at hok
  obtain ⟨-, -, -, _, -, -, -, _, -, -, -, -, -, -, -, -, -, -, -, -, -, hbuffer⟩ := hok
  obtain ⟨c', hc'⟩ := readBufferAt_then hbuffer
  obtain ⟨rfl, -⟩ := pure_eq_ok.1 hc'
  simp [ReadCursor.new, advance, peek]

end CreateResponse

end Smb2
