import Smb2.Msg.Create
import Smb2.Name
import Smb2.Transport.Tcp

set_option autoImplicit false

/-!
# Trees and their paths

A `Tree` is a connected share (`client/tree.rs`). Every operation on a path begins with a CREATE
request for the path in its wire form, on a DFS share with the server and the share in front.
-/

open List

namespace Smb2

structure Tree where
  treeId : TreeId
  shareName : List Char
  server : List Char
  isDfs : Bool
  encryptData : Bool
deriving DecidableEq

namespace Tree

open Name Utf16

def hostname (tree : Tree) : List Char := tree.server.takeWhile (· ≠ ':')

def formatPath (tree : Tree) (path : List Char) : List Char :=
  let normalized := encodePath path
  if tree.isDfs then
    if normalized = [] then tree.hostname ++ '\\' :: tree.shareName
    else tree.hostname ++ '\\' :: (tree.shareName ++ '\\' :: normalized)
  else
    normalized

/-- The UTF-16 code units of the name that a request for `path` carries: those of the path without
its leading slashes, and on a DFS share those of the server, the share and the separators. -/
def nameUnits (tree : Tree) (path : List Char) : ℕ :=
  let rest := path.dropWhile (· = '/')
  (if tree.isDfs then units tree.hostname + 1 + units tree.shareName + (if rest = [] then 0 else 1)
    else 0) + units rest

lemma units_formatPath (tree : Tree) (path : List Char) :
    units (tree.formatPath path) = tree.nameUnits path := by
  have hsep : units ['\\'] = 1 := by decide
  have hempty : encodePath path = [] ↔ path.dropWhile (· = '/') = [] := by
    rw [← units_eq_zero, units_encodePath, units_eq_zero]
  unfold formatPath nameUnits
  cases tree.isDfs with
  | false => simp [units_encodePath]
  | true =>
    by_cases hrest : path.dropWhile (· = '/') = []
    · simp [hempty, hrest, units_cons, hsep, Nat.add_assoc]
    · simp only [hempty, hrest, if_false, if_true, units_append]
      rw [units_cons '\\' (_ ++ _), units_append, units_cons '\\' (encodePath path),
        units_encodePath, hsep]
      omega

def createRequest (tree : Tree) (path : List Char) (fields : CreateRequest) : CreateRequest :=
  { fields with name := tree.formatPath path }

def packMessage (header : Bytes) (r : CreateRequest) : Bytes := header ++ r.pack header.length

/-- **No path is cut exactly if it is short enough.** Whatever signing, compression, encryption and
compounding make of the message: that its CREATE request, if it goes out at all, is read as the one
the operation asked for, holds exactly if the message is too long to go out, or the name has fewer
than 32768 code units and the contexts are within what a reader accepts. -/
theorem createRequest_roundTrip_iff (tree : Tree) (path : List Char) (fields : CreateRequest)
    (header : Bytes) (wrap : Bytes → Bytes) :
    (∀ sent, Tcp.send (wrap (packMessage header (tree.createRequest path fields))) = .ok sent →
        ∃ c, CreateRequest.unpack
          (.new ((packMessage header (tree.createRequest path fields)).drop header.length)) =
            .ok (tree.createRequest path fields, c)) ↔
      Tcp.maxFrameSize < (wrap (packMessage header (tree.createRequest path fields))).length ∨
        tree.nameUnits path < 2 ^ 15 ∧
          fields.createContexts.length ≤ ReadCursor.maxUnpackBuffer := by
  have hfits : (∃ c, CreateRequest.unpack
      (.new ((packMessage header (tree.createRequest path fields)).drop header.length)) =
        .ok (tree.createRequest path fields, c)) ↔
      tree.nameUnits path < 2 ^ 15 ∧
        fields.createContexts.length ≤ ReadCursor.maxUnpackBuffer := by
    rw [packMessage, drop_left, CreateRequest.unpack_pack_iff]
    show (utf16Le (tree.formatPath path)).length < 2 ^ 16 ∧ _ ↔ _
    rw [length_utf16Le, units_formatPath]
    exact and_congr_left' (by omega)
  rw [hfits]
  by_cases hlong :
      Tcp.maxFrameSize < (wrap (packMessage header (tree.createRequest path fields))).length
  · exact ⟨fun _ => .inl hlong, fun _ _ hsent => absurd hsent (Tcp.send_of_gt hlong)⟩
  · simp only [hlong, false_or]
    exact ⟨fun h => h _ (Tcp.send_of_le (Nat.not_lt.1 hlong)), fun h _ _ => h⟩

/-! ### A path that is too long -/

def plainTree : Tree := ⟨1, ['d', 'o', 'c', 's'], ['n', 'a', 's', ':', '4', '4', '5'], false, false⟩

def deletion : CreateRequest where
  requestedOplockLevel := .none
  impersonationLevel := .impersonation
  desiredAccess := 0x00010080
  fileAttributes := 0
  shareAccess := 7
  createDisposition := .fileOpen
  createOptions := 0x00000001
  name := []
  createContexts := []

def pathBelow (n : ℕ) : List Char := 'd' :: '/' :: replicate n 'a'

lemma formatPath_pathBelow (n : ℕ) :
    plainTree.formatPath (pathBelow n) = ['d'] ++ '\\' :: replicate n 'a' := by
  have hdrop : (pathBelow n).dropWhile (· = '/') =
      ['/'].intercalate [['d'], replicate n 'a'] := by
    simp [pathBelow, intercalate]
  have hlegal : encodeComponent (replicate n 'a') = replicate n 'a' := by
    have hlast (c : Char) (hc : 'a' ≠ c) : (replicate n 'a').getLast? ≠ some c := by
      intro h
      exact hc (eq_of_mem_replicate (mem_of_getLast? h)).symm
    unfold encodeComponent
    split
    · rfl
    · refine encodeName_of_legal (hlast _ (by decide)) (hlast _ (by decide)) ?_
      intro c hc
      rw [eq_of_mem_replicate hc]
      decide
  show encodePath (pathBelow n) = _
  rw [encodePath, hdrop, splitOn_intercalate]
  · rw [map_cons, map_cons, hlegal]
    have hd : encodeComponent ['d'] = ['d'] := by decide
    simp [intercalate, hd]
  · simp
  · simp

lemma units_pathBelow (n : ℕ) : units ('\\' :: replicate n 'a') = n + 1 := by
  induction n with
  | zero => decide
  | succ n ih =>
    have ha : units ['a'] = 1 := by decide
    rw [replicate_succ', ← cons_append, units_append, ih, ha]

def deletionBelow (n : ℕ) : Bytes :=
  packMessage (replicate 64 0) (plainTree.createRequest (pathBelow n) deletion)

lemma length_deletionBelow_le (n : ℕ) : (deletionBelow n).length ≤ 2 * n + 125 := by
  have hpack :=
    CreateRequest.length_pack_le (plainTree.createRequest (pathBelow n) deletion) 64 rfl
  have hname : (plainTree.createRequest (pathBelow n) deletion).name =
      ['d'] ++ '\\' :: replicate n 'a' := formatPath_pathBelow n
  have hd : units ['d'] = 1 := by decide
  rw [hname, length_utf16Le, units_append, units_pathBelow, hd, CreateRequest.fixedSize] at hpack
  rw [deletionBelow, packMessage, length_append, length_replicate]
  omega

lemma unpack_deletionBelow {n : ℕ} (hn : n + 1 = 2 ^ 15) :
    ∃ c, CreateRequest.unpack (.new ((deletionBelow n).drop 64)) =
      .ok (plainTree.createRequest ['d'] deletion, c) := by
  have hdrop : (deletionBelow n).drop 64 =
      (plainTree.createRequest (pathBelow n) deletion).pack 64 := by
    rw [deletionBelow, packMessage, length_replicate]
    exact drop_left' length_replicate
  rw [hdrop]
  exact CreateRequest.unpack_pack_of_wrapped (formatPath_pathBelow n) (by decide)
    ((units_pathBelow n).trans hn) rfl

/-- **A shorter path is deleted**: the request to delete the directory `d/aa…a`, with 32767 times
`a`, goes out, and what is read from it is the request to delete `d`. -/
theorem longPath_cut :
    (∃ sent, Tcp.send (deletionBelow 32767) = .ok sent) ∧
      ∃ c, CreateRequest.unpack (.new ((deletionBelow 32767).drop 64)) =
        .ok (plainTree.createRequest ['d'] deletion, c) :=
  ⟨⟨_, Tcp.send_of_le (Nat.le_trans (length_deletionBelow_le _) (by decide))⟩,
    unpack_deletionBelow (by decide)⟩

end Tree

end Smb2
