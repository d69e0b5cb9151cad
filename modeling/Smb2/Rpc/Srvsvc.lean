import Mathlib.Data.List.DropRight
import Smb2.Rpc.Pdu

set_option autoImplicit false

/-!
# Share enumeration on the wire

`rpc/srvsvc.rs`: the stub of the NetShareEnumAll request, and the parser for the stub of its
response. In NDR the entries of the array come first, with pointers in place of their texts; the
texts follow in the order of the pointers, each aligned to four bytes from the beginning of the stub.
-/

open List

namespace Smb2.Srvsvc

open ReadCursor

/-! ## Shares -/

def stypeDisktree : UInt32 := 0x00000000

def stypeSpecial : UInt32 := 0x80000000

def stypeBaseMask : UInt32 := 0x0000FFFF

structure ShareInfo where
  name : List Char
  shareType : UInt32
  comment : List Char
deriving DecidableEq, Repr

def ShareInfo.isListed (s : ShareInfo) : Bool :=
  s.shareType &&& stypeBaseMask = stypeDisktree && !(s.shareType &&& stypeSpecial ≠ 0) &&
    !(s.name.getLast? = some '$')

def filterDiskShares (shares : List ShareInfo) : List ShareInfo := shares.filter ShareInfo.isListed

/-- **A disk share for everybody**: its base type is disk, it is not marked as special, and its name
does not end in a dollar sign. -/
def ShareInfo.IsPublicDisk (s : ShareInfo) : Prop :=
  s.shareType &&& stypeBaseMask = stypeDisktree ∧ s.shareType &&& stypeSpecial = 0 ∧
    ¬ ['$'] <:+ s.name

lemma ShareInfo.isListed_iff (s : ShareInfo) : s.isListed ↔ s.IsPublicDisk := by
  have hlast : s.name.getLast? = some '$' ↔ ['$'] <:+ s.name := by
    rw [getLast?_eq_some_iff]
    exact ⟨fun ⟨front, h⟩ => ⟨front, h.symm⟩, fun ⟨front, h⟩ => ⟨front, h.symm⟩⟩
  simp [isListed, IsPublicDisk, ← hlast, and_assoc]

instance : DecidablePred ShareInfo.IsPublicDisk := fun s => decidable_of_iff _ s.isListed_iff

lemma filterDiskShares_eq (shares : List ShareInfo) :
    filterDiskShares shares = shares.filter fun s => decide s.IsPublicDisk := by
  refine filter_congr fun s _ => ?_
  rw [Bool.eq_iff_iff, s.isListed_iff, decide_eq_true_iff]

/-! ## The request -/

def buildNetShareEnumAllStub (serverName : List Char) : Bytes :=
  let name := utf16Le (serverName ++ [Char.ofNat 0])
  let count := Utf16.units serverName + 1
  let head := leBytes 4 0x00020000 ++ (leBytes 4 count ++ (leBytes 4 0 ++ (leBytes 4 count ++ name)))
  head ++ (replicate (alignPadding head.length 4) 0 ++ (leBytes 4 1 ++ (leBytes 4 1 ++
    (leBytes 4 0x00020004 ++ (leBytes 4 0 ++ (leBytes 4 0 ++ (leBytes 4 0xFFFFFFFF ++
    leBytes 4 0)))))))

def buildNetShareEnumAll (callId : UInt32) (serverName : List Char) : Bytes :=
  Rpc.buildRequest callId 15 (buildNetShareEnumAllStub serverName)

/-! ## The response -/

def trimNuls (s : List Char) : List Char := s.rdropWhile (· = Char.ofNat 0)

def skipPadding : Reader Unit := fun c =>
  let padding := (4 - c.pos % 4) % 4
  if padding > 0 ∧ c.remaining ≥ padding then skip padding c else .ok ((), c)

def readNdrString : Reader (List Char) := do
  let _maxCount ← readU32Le
  let _offset ← readU32Le
  let actualCount ← readU32Le
  if actualCount = 0 then return []
  else do
    let s ← readUtf16Le (actualCount.toNat * 2)
    skipPadding
    return trimNuls s

structure RawEntry where
  namePtr : UInt32
  shareType : UInt32
  commentPtr : UInt32

def readEntries : ℕ → Reader (List RawEntry)
  | 0 => return []
  | n + 1 => do
    let namePtr ← readU32Le
    let shareType ← readU32Le
    let commentPtr ← readU32Le
    let entries ← readEntries n
    return ⟨namePtr, shareType, commentPtr⟩ :: entries

def readDeferred (ptr : UInt32) : Reader (List Char) :=
  if ptr ≠ 0 then readNdrString else return []

def readShares : List RawEntry → Reader (List ShareInfo)
  | [] => return []
  | entry :: entries => do
    let name ← readDeferred entry.namePtr
    let comment ← readDeferred entry.commentPtr
    let shares ← readShares entries
    return ⟨name, entry.shareType, comment⟩ :: shares

def readArray (count : UInt32) : Reader (List ShareInfo) := do
  let maxCount ← readU32Le
  expect (count ≤ maxCount)
    (.invalidData s!"array max_count ({maxCount}) < entries ({count})")
  let entries ← readEntries count.toNat
  readShares entries

def netShareEnumAll : Reader (List ShareInfo) := do
  let level ← readU32Le
  expect (level = 1) (.invalidData s!"expected share info level 1, got {level}")
  let discriminant ← readU32Le
  expect (discriminant = 1) (.invalidData s!"expected union discriminant 1, got {discriminant}")
  let containerPtr ← readU32Le
  if containerPtr = 0 then return []
  else do
    let count ← readU32Le
    let arrayPtr ← readU32Le
    if arrayPtr = 0 ∨ count = 0 then return [] else readArray count

def parseNetShareEnumAllStub (stub : Bytes) : Except Error (List ShareInfo) :=
  (netShareEnumAll (.new stub)).map Prod.fst

def parseNetShareEnumAllResponse (data : Bytes) : Except Error (List ShareInfo) := do
  let (stub, _) ← Rpc.parseResponseFragment data
  parseNetShareEnumAllStub stub

/-! ## How a server encodes it -/

/-- **A text behind a pointer**: the text as it is sent, with its terminators, and the padding that
aligns what follows. -/
structure NdrString where
  referent : UInt32
  maxCount : UInt32
  offset : UInt32
  text : List Char
  pad : Bytes
  referent_ne : referent ≠ 0
  fits : Utf16.units text < 2 ^ 32
  length_pad : pad.length = 2 * (Utf16.units text % 2)

namespace NdrString

def actualCount (s : NdrString) : UInt32 := UInt32.ofNat (Utf16.units s.text)

def pack (s : NdrString) : Bytes :=
  leBytes 4 s.maxCount.toNat ++ (leBytes 4 s.offset.toNat ++ (leBytes 4 s.actualCount.toNat ++
    (utf16Le s.text ++ s.pad)))

lemma toNat_actualCount (s : NdrString) : s.actualCount.toNat = Utf16.units s.text := by
  rw [actualCount, UInt32.toNat_ofNat']
  exact Nat.mod_eq_of_lt s.fits

lemma length_pack (s : NdrString) : s.pack.length % 4 = 0 := by
  simp only [pack, length_append, length_leBytes, length_utf16Le, s.length_pad]
  omega

end NdrString

def pointer : Option NdrString → UInt32
  | none => 0
  | some s => s.referent

def deferred : Option NdrString → Bytes
  | none => []
  | some s => s.pack

def textOf : Option NdrString → List Char
  | none => []
  | some s => trimNuls s.text

structure NdrEntry where
  name : Option NdrString
  shareType : UInt32
  comment : Option NdrString

namespace NdrEntry

def pack (e : NdrEntry) : Bytes :=
  leBytes 4 (pointer e.name).toNat ++ (leBytes 4 e.shareType.toNat ++
    leBytes 4 (pointer e.comment).toNat)

def texts (e : NdrEntry) : Bytes := deferred e.name ++ deferred e.comment

def raw (e : NdrEntry) : RawEntry := ⟨pointer e.name, e.shareType, pointer e.comment⟩

def share (e : NdrEntry) : ShareInfo := ⟨textOf e.name, e.shareType, textOf e.comment⟩

end NdrEntry

/-- **A response of level 1**: without a container, with a container that is empty, or with an array.
Behind it stand the number of entries, a resume handle and a status, which are not looked at. -/
inductive NdrReply
  | noContainer (trailer : Bytes)
  | empty (container arrayPtr : UInt32) (hcontainer : container ≠ 0) (trailer : Bytes)
  | array (container arrayPtr maxCount : UInt32) (entries : List NdrEntry)
      (hcontainer : container ≠ 0) (harray : arrayPtr ≠ 0) (hmax : entries.length ≤ maxCount.toNat)
      (trailer : Bytes)

namespace NdrReply

def stub : NdrReply → Bytes
  | noContainer trailer => leBytes 4 1 ++ (leBytes 4 1 ++ (leBytes 4 0 ++ trailer))
  | empty container arrayPtr _ trailer =>
    leBytes 4 1 ++ (leBytes 4 1 ++ (leBytes 4 container.toNat ++ (leBytes 4 0 ++
      (leBytes 4 arrayPtr.toNat ++ trailer))))
  | array container arrayPtr maxCount entries _ _ _ trailer =>
    leBytes 4 1 ++ (leBytes 4 1 ++ (leBytes 4 container.toNat ++ (leBytes 4 entries.length ++
      (leBytes 4 arrayPtr.toNat ++ (leBytes 4 maxCount.toNat ++ (entries.flatMap NdrEntry.pack ++
      (entries.flatMap NdrEntry.texts ++ trailer)))))))

def shares : NdrReply → List ShareInfo
  | noContainer _ => []
  | empty _ _ _ _ => []
  | array _ _ _ entries _ _ _ _ => entries.map NdrEntry.share

end NdrReply

/-! ## Reading it back -/

section Written

variable {β : Type} {pre post : Bytes}

lemma skipPadding_bind {pad : Bytes} {f : Unit → Reader β}
    (hpad : pad.length = (4 - pre.length % 4) % 4) :
    (skipPadding >>= f) ⟨pre ++ (pad ++ post), pre.length⟩ =
      f () ⟨(pre ++ pad) ++ post, (pre ++ pad).length⟩ := by
  have hskip : skipPadding ⟨pre ++ (pad ++ post), pre.length⟩ =
      .ok ((), ⟨(pre ++ pad) ++ post, (pre ++ pad).length⟩) := by
    unfold skipPadding
    dsimp only
    by_cases hzero : pad = []
    · subst hzero
      rw [if_neg (by rw [← hpad]; simp)]
      simp
    · have hpos := length_pos_iff.2 hzero
      have hremaining : pad.length ≤ (ReadCursor.mk (pre ++ (pad ++ post)) pre.length).remaining := by
        simp only [remaining, length_append]
        omega
      rw [if_pos (by omega), ← hpad, skip]
      show (takeN pad.length _ >>= fun p => (pure () : Reader Unit) p.2) = _
      rw [takeN_append rfl]
      rfl
  show (skipPadding _ >>= fun p => f p.1 p.2) = _
  rw [hskip]
  rfl

lemma readNdrString_bind (s : NdrString) {f : List Char → Reader β} (hpre : pre.length % 4 = 0) :
    (readNdrString >>= f) ⟨pre ++ (s.pack ++ post), pre.length⟩ =
      f (trimNuls s.text) ⟨(pre ++ s.pack) ++ post, (pre ++ s.pack).length⟩ := by
  have hcount := s.toNat_actualCount
  have hpad := s.length_pad
  rw [readNdrString, NdrString.pack]
  simp only [bind_assoc, append_assoc]
  rw [readU32Le_bind, readU32Le_bind, readU32Le_bind]
  by_cases hzero : s.actualCount = 0
  · have hunits : Utf16.units s.text = 0 := by
      rw [← hcount, hzero]
      rfl
    have htext : s.text = [] := Utf16.units_eq_zero.1 hunits
    have hnoPad : s.pad = [] := by
      rw [← length_eq_zero_iff, hpad, hunits]
    rw [if_pos hzero, pure_bind, htext, hnoPad]
    simp [utf16Le, trimNuls, Utf16.encode]
  · rw [if_neg hzero]
    simp only [bind_assoc]
    rw [readUtf16Le_bind (by omega), skipPadding_bind, pure_bind]
    · simp only [append_assoc]
    · simp only [length_append, length_leBytes, length_utf16Le, hpad]
      omega

lemma readDeferred_bind (s : Option NdrString) {f : List Char → Reader β}
    (hpre : pre.length % 4 = 0) :
    (readDeferred (pointer s) >>= f) ⟨pre ++ (deferred s ++ post), pre.length⟩ =
      f (textOf s) ⟨(pre ++ deferred s) ++ post, (pre ++ deferred s).length⟩ := by
  cases s with
  | none =>
    rw [readDeferred, pointer, if_neg (not_not.2 rfl), pure_bind]
    simp [deferred, textOf]
  | some s =>
    rw [readDeferred, pointer, if_pos s.referent_ne]
    exact readNdrString_bind s hpre

lemma length_deferred (s : Option NdrString) : (deferred s).length % 4 = 0 := by
  cases s with
  | none => rfl
  | some s => exact s.length_pack

lemma readEntries_bind (entries : List NdrEntry) {f : List RawEntry → Reader β} :
    (readEntries entries.length >>= f) ⟨pre ++ (entries.flatMap NdrEntry.pack ++ post), pre.length⟩ =
      f (entries.map NdrEntry.raw) ⟨(pre ++ entries.flatMap NdrEntry.pack) ++ post,
        (pre ++ entries.flatMap NdrEntry.pack).length⟩ := by
  induction entries generalizing pre f with
  | nil =>
    rw [length_nil, readEntries, pure_bind]
    simp
  | cons e entries ih =>
    rw [length_cons, readEntries, flatMap_cons, NdrEntry.pack]
    simp only [bind_assoc, append_assoc]
    rw [readU32Le_bind, readU32Le_bind, readU32Le_bind, ih, pure_bind]
    simp only [append_assoc]
    rfl

lemma readShares_bind (entries : List NdrEntry) {f : List ShareInfo → Reader β}
    (hpre : pre.length % 4 = 0) :
    (readShares (entries.map NdrEntry.raw) >>= f)
        ⟨pre ++ (entries.flatMap NdrEntry.texts ++ post), pre.length⟩ =
      f (entries.map NdrEntry.share) ⟨(pre ++ entries.flatMap NdrEntry.texts) ++ post,
        (pre ++ entries.flatMap NdrEntry.texts).length⟩ := by
  induction entries generalizing pre f with
  | nil =>
    rw [map_nil, readShares, pure_bind]
    simp
  | cons e entries ih =>
    have hname := length_deferred e.name
    have hcomment := length_deferred e.comment
    rw [map_cons, readShares, flatMap_cons, NdrEntry.texts]
    simp only [bind_assoc, append_assoc, NdrEntry.raw]
    rw [readDeferred_bind e.name hpre, readDeferred_bind e.comment (by
      rw [length_append]; omega), ih (by simp only [length_append]; omega), pure_bind]
    simp only [append_assoc]
    rfl

lemma length_packs (entries : List NdrEntry) :
    (entries.flatMap NdrEntry.pack).length = 12 * entries.length := by
  induction entries with
  | nil => rfl
  | cons e entries ih =>
    rw [flatMap_cons, length_append, ih, length_cons]
    simp only [NdrEntry.pack, length_append, length_leBytes]
    omega

lemma readArray_eq (maxCount count : UInt32) (entries : List NdrEntry)
    (hcount : count.toNat = entries.length) (hmax : entries.length ≤ maxCount.toNat)
    (hpre : pre.length % 4 = 0) :
    (readArray count ⟨pre ++ (leBytes 4 maxCount.toNat ++ (entries.flatMap NdrEntry.pack ++
      (entries.flatMap NdrEntry.texts ++ post))), pre.length⟩).map Prod.fst =
        .ok (entries.map NdrEntry.share) := by
  have hfixed := length_packs entries
  have hle : count ≤ maxCount := by
    rw [UInt32.le_iff_toNat_le]
    omega
  rw [readArray, readU32Le_bind, expect_bind (decide_eq_true hle), hcount, readEntries_bind,
    ← bind_pure (readShares _), readShares_bind _ (by
      simp only [length_append, length_leBytes]; omega)]
  rfl

end Written

/-- **The stub of a response is parsed to its shares.** -/
theorem parseNetShareEnumAllStub_stub (reply : NdrReply) :
    parseNetShareEnumAllStub reply.stub = .ok reply.shares := by
  have hone : leBytes 4 1 = leBytes 4 (1 : UInt32).toNat := rfl
  have hzero : leBytes 4 0 = leBytes 4 (0 : UInt32).toNat := rfl
  have hstart : ∀ bs : Bytes, ReadCursor.new bs = ⟨[] ++ bs, ([] : Bytes).length⟩ := fun _ => rfl
  rw [parseNetShareEnumAllStub, hstart, netShareEnumAll]
  cases reply with
  | noContainer trailer =>
    rw [NdrReply.stub, hone, hzero, readU32Le_bind, expect_bind (by decide), readU32Le_bind,
      expect_bind (by decide), readU32Le_bind, if_pos rfl]
    rfl
  | empty container arrayPtr hcontainer trailer =>
    rw [NdrReply.stub, hone, hzero, readU32Le_bind, expect_bind (by decide), readU32Le_bind,
      expect_bind (by decide), readU32Le_bind, if_neg hcontainer, readU32Le_bind, readU32Le_bind,
      if_pos (.inr rfl)]
    rfl
  | array container arrayPtr maxCount entries hcontainer harray hmax trailer =>
    have hbound : entries.length < 2 ^ 32 := Nat.lt_of_le_of_lt hmax maxCount.toNat_lt
    have hcount : (UInt32.ofNat entries.length).toNat = entries.length := by
      rw [UInt32.toNat_ofNat']
      exact Nat.mod_eq_of_lt hbound
    have hfield : leBytes 4 entries.length = leBytes 4 (UInt32.ofNat entries.length).toNat := by
      rw [hcount]
    rw [NdrReply.stub, hone, hfield, readU32Le_bind, expect_bind (by decide), readU32Le_bind,
      expect_bind (by decide), readU32Le_bind, if_neg hcontainer, readU32Le_bind, readU32Le_bind]
    by_cases hnone : UInt32.ofNat entries.length = 0
    · have hnil : entries = [] := by
        rw [← length_eq_zero_iff, ← hcount, hnone]
        rfl
      subst hnil
      rw [if_pos (.inr hnone)]
      rfl
    · rw [if_neg (not_or.2 ⟨harray, hnone⟩)]
      refine readArray_eq maxCount _ entries hcount hmax ?_
      simp only [length_append, length_leBytes, length_nil]

end Smb2.Srvsvc
