import Smb2.Name
import Smb2.Pack

set_option autoImplicit false

/-!
# Directory pages

A page of a directory listing is a chain of `FileBothDirectoryInformation` entries, each of which says
how far behind its beginning the next one begins (`parse_file_both_directory_info` in
`client/tree.rs`). An entry that is laid out as it should be is read as it is meant. The loop ends
without an error where there is no room for the fixed part of another entry, also if an entry has
said that there is one.
-/

open List

namespace Smb2

structure DirectoryEntry where
  name : List Char
  size : UInt64
  isDirectory : Bool
  created : UInt64
  modified : UInt64
deriving DecidableEq

namespace DirectoryPage

open ReadCursor

def fixedSize : ℕ := 94

def readName (fileNameLength : ℕ) : Reader (List Char) :=
  if fileNameLength > 0 then do
    let name ← readUtf16Le fileNameLength
    return Name.decodeName name
  else return []

/-- **One entry**, and how far behind its beginning the next one begins. -/
def readEntry : Reader (UInt32 × DirectoryEntry) := do
  let nextEntryOffset ← readU32Le
  let _fileIndex ← readU32Le
  let creationTime ← readU64Le
  let _lastAccessTime ← readU64Le
  let lastWriteTime ← readU64Le
  let _changeTime ← readU64Le
  let endOfFile ← readU64Le
  let _allocationSize ← readU64Le
  let fileAttributes ← readU32Le
  let fileNameLength ← readU32Le
  let _eaSize ← readU32Le
  let _shortNameLength ← readU8
  let _reserved ← readU8
  skip 24
  let name ← readName fileNameLength.toNat
  return (nextEntryOffset,
    ⟨name, endOfFile, fileAttributes &&& 0x10 ≠ 0, creationTime, lastWriteTime⟩)

def parseFrom (data : Bytes) : ℕ → ℕ → Except Error (List DirectoryEntry)
  | 0, _ => .ok []
  | fuel + 1, offset =>
    -- not enough data for the fixed part
    if offset + fixedSize > data.length then .ok []
    else do
      let ((next, entry), _) ← readEntry (.new (data.drop offset))
      if next = 0 then return [entry]
      return entry :: (← parseFrom data fuel (offset + next.toNat))

def parse (data : Bytes) : Except Error (List DirectoryEntry) := parseFrom data (data.length + 1) 0

/-! ## Entries as they are laid out -/

structure RawEntry where
  fileIndex : UInt32
  creationTime : UInt64
  lastAccessTime : UInt64
  lastWriteTime : UInt64
  changeTime : UInt64
  endOfFile : UInt64
  allocationSize : UInt64
  fileAttributes : UInt32
  eaSize : UInt32
  shortNameLength : UInt8
  reserved : UInt8
  shortName : Bytes
  name : List Char
  length_shortName : shortName.length = 24
  name_lt : 2 * Utf16.units name < 2 ^ 32

namespace RawEntry

variable (e : RawEntry) (next : UInt32)

def pack : Bytes :=
  leBytes 4 next.toNat ++ leBytes 4 e.fileIndex.toNat ++ leBytes 8 e.creationTime.toNat ++
    leBytes 8 e.lastAccessTime.toNat ++ leBytes 8 e.lastWriteTime.toNat ++
    leBytes 8 e.changeTime.toNat ++ leBytes 8 e.endOfFile.toNat ++
    leBytes 8 e.allocationSize.toNat ++ leBytes 4 e.fileAttributes.toNat ++
    leBytes 4 (2 * Utf16.units e.name) ++ leBytes 4 e.eaSize.toNat ++
    leBytes 1 e.shortNameLength.toNat ++ leBytes 1 e.reserved.toNat ++ e.shortName ++
    utf16Le e.name

def entry : DirectoryEntry :=
  ⟨Name.decodeName e.name, e.endOfFile, e.fileAttributes &&& 0x10 ≠ 0, e.creationTime,
    e.lastWriteTime⟩

end RawEntry

def nextOffset (data : Bytes) (o : ℕ) : ℕ := leNat (slice data o (o + 4))

def nameLength (data : Bytes) (o : ℕ) : ℕ := leNat (slice data (o + 60) (o + 64))

/-- **An entry or the chain leaves the page**, from an entry on. -/
inductive Exits (data : Bytes) : ℕ → Prop
  | entry {o : ℕ} (h : data.length < o + fixedSize + nameLength data o) : Exits data o
  | next {o : ℕ} (hne : nextOffset data o ≠ 0) (h : Exits data (o + nextOffset data o)) :
    Exits data o

inductive Reaches (data : Bytes) : ℕ → ℕ → Prop
  | here (o : ℕ) : Reaches data o o
  | next {o o' : ℕ} {next : UInt32} {entry : DirectoryEntry} {c : ReadCursor}
      (hfits : o + fixedSize ≤ data.length)
      (hread : readEntry (.new (data.drop o)) = .ok ((next, entry), c)) (hne : next ≠ 0)
      (h : Reaches data (o + next.toNat) o') : Reaches data o o'

section Exits

variable {data : Bytes} {o o' fuel : ℕ} {next : UInt32} {entry : DirectoryEntry} {c : ReadCursor}

lemma readName_then {β : Type} {n : ℕ} {f : List Char → Reader β} {p : β × ReadCursor}
    (h : (readName n >>= f) c = .ok p) : n ≤ c.remaining ∧ ∃ s c', f s c' = .ok p := by
  rw [readName] at h
  split at h
  · rw [bind_assoc, readUtf16Le_then] at h
    obtain ⟨-, hle, s, -, hs⟩ := h
    exact ⟨hle, _, _, hs⟩
  · exact ⟨by omega, _, _, h⟩

lemma readEntry_eq_ok (h : readEntry (.new (data.drop o)) = .ok ((next, entry), c)) :
    next.toNat = nextOffset data o ∧ o + fixedSize + nameLength data o ≤ data.length := by
  rw [readEntry] at h
  simp only [readU32Le_then, readU64Le_then, readU8_then, skip, bind_assoc, pure_bind, takeN_then,
    toNat_u32_peek] at h
  obtain ⟨-, -, -, -, -, -, -, -, -, -, -, -, -, hroom, hname⟩ := h
  obtain ⟨hlen, _, _, hp⟩ := readName_then hname
  obtain ⟨⟨rfl, -⟩, -⟩ := by simpa using pure_eq_ok_pair.1 hp
  rw [toNat_u32_peek]
  simp only [peek, advance, ReadCursor.new, remaining, slice_drop, length_drop,
    Nat.reduceAdd] at hroom hlen ⊢
  refine ⟨rfl, ?_⟩
  simp only [fixedSize, nameLength]
  omega

lemma Exits.error (h : Exits data o) (hfits : ∀ o', Reaches data o o' → o' + fixedSize ≤ data.length)
    (hfuel : data.length < o + fuel) : ∃ e, parseFrom data fuel o = .error e := by
  induction h generalizing fuel with
  | @entry o h =>
    have hhere := hfits o (.here o)
    cases fuel with
    | zero => omega
    | succ fuel =>
      rw [parseFrom, if_neg (by omega)]
      cases hread : readEntry (.new (data.drop o)) with
      | error e => exact ⟨e, rfl⟩
      | ok p =>
        have := (readEntry_eq_ok hread).2
        omega
  | @next o hne h ih =>
    have hhere := hfits o (.here o)
    cases fuel with
    | zero => omega
    | succ fuel =>
      rw [parseFrom, if_neg (by omega)]
      cases hread : readEntry (.new (data.drop o)) with
      | error e => exact ⟨e, rfl⟩
      | ok p =>
        obtain ⟨⟨next, entry⟩, c⟩ := p
        obtain ⟨hnext, -⟩ := readEntry_eq_ok hread
        have hpos : next ≠ 0 := by
          rintro rfl
          exact hne hnext.symm
        rw [← hnext] at ih hne
        obtain ⟨e, he⟩ := @ih fuel (fun o' h' => hfits o' (.next hhere hread hpos h')) (by omega)
        refine ⟨e, ?_⟩
        show (if next = 0 then _ else _) = _
        rw [if_neg hpos, he]
        rfl

end Exits

end DirectoryPage

end Smb2
