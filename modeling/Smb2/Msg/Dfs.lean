import Smb2.Memory.Meter

set_option autoImplicit false

/-!
# DFS referrals on the wire

The referral response of `msg/dfs.rs`, and its parser with the memory that it reserves. A response has
eight fixed bytes and as many entries as it says; the texts of an entry stand anywhere behind its
beginning, at the offsets that it names, and end with a NUL. Texts of several entries may share their
bytes, so that each of them is only bounded by the whole response.
-/

open List

namespace Smb2.DfsWire

open ReadCursor Metered Memory

def fromUtf16 (units : List UInt16) (e : Error) : Reader (List Char) :=
  match Utf16.decode units with
  | some s => pure s
  | none => throw e

def unitsAt (buf : Bytes) (offset : ℕ) : List UInt16 :=
  (codeUnits (buf.drop offset)).takeWhile (· ≠ 0)

def isTerminated (buf : Bytes) (offset : ℕ) : Bool := 0 ∈ codeUnits (buf.drop offset)

structure DfsReferralEntry where
  version : UInt16
  serverType : UInt16
  referralEntryFlags : UInt16
  ttl : UInt32
  dfsPath : List Char
  dfsAlternatePath : List Char
  networkAddress : List Char
deriving DecidableEq, Repr

def dfsReferralEntrySize : ℕ := 88

structure RespGetDfsReferral where
  pathConsumed : UInt16
  headerFlags : UInt32
  entries : List DfsReferralEntry
deriving DecidableEq, Repr

def readU16 (buf : Bytes) (pos : ℕ) : UInt16 := UInt16.ofNat (leNat (slice buf pos (pos + 2)))

def readU32 (buf : Bytes) (pos : ℕ) : UInt32 := UInt32.ofNat (leNat (slice buf pos (pos + 4)))

def ensureRemaining (buf : Bytes) (pos need : ℕ) : Reader Unit :=
  let len := buf.length
  expect (pos + need ≤ buf.length) (.invalidData
    s!"DFS referral entry truncated: need {need} bytes at offset {pos}, buf len {len}")

/-- `read_offset_string`: the code units up to the NUL or the end are collected, then the text is
made. -/
def readOffsetString (buf : Bytes) (entryStart offset : ℕ) : Meter (List Char) := do
  let units := unitsAt buf (entryStart + offset)
  charge (4 * units.length + 8)
  free (expect (isTerminated buf (entryStart + offset))
    (.invalidData "DFS referral string extends past buffer"))
  charge (6 * units.length + 8)
  free (fromUtf16 units (.invalidData "invalid UTF-16LE in DFS referral string"))

/-- The fields of an entry: the server type and the flags at `pos`, the time to live at `ttlPos` and
the three offsets behind it. -/
def referralFields (version : UInt16) (buf : Bytes) (entryStart pos ttlPos : ℕ) :
    Meter DfsReferralEntry := do
  let dfsPath ← readOffsetString buf entryStart (readU16 buf (ttlPos + 4)).toNat
  let dfsAlternatePath ← readOffsetString buf entryStart (readU16 buf (ttlPos + 6)).toNat
  let networkAddress ← readOffsetString buf entryStart (readU16 buf (ttlPos + 8)).toNat
  return { version, serverType := readU16 buf pos,
           referralEntryFlags := readU16 buf (pos + 2), ttl := readU32 buf ttlPos,
           dfsPath, dfsAlternatePath, networkAddress }

/-- `parse_referral_entry`. An entry of version 2 has a proximity before its time to live. -/
def parseReferralEntry (version : UInt16) (buf : Bytes) (entryStart : ℕ) :
    Meter DfsReferralEntry := do
  if version = 2 then do
    free (ensureRemaining buf (entryStart + 4) 18)
    referralFields version buf entryStart (entryStart + 4) (entryStart + 4 + 8)
  else if version = 3 ∨ version = 4 then do
    free (ensureRemaining buf (entryStart + 4) 14)
    referralFields version buf entryStart (entryStart + 4) (entryStart + 4 + 4)
  else
    free (throw (.invalidData
      s!"unsupported DFS referral version: {version} (only V2-V4 are supported)"))

def checkedEntrySize (buf : Bytes) (offset : ℕ) : Reader ℕ := do
  expect (offset + 4 ≤ buf.length)
    (.invalidData "DFS referral entry truncated (version/size header)")
  let entrySize := (readU16 buf (offset + 2)).toNat
  expect (4 ≤ entrySize) (.invalidData s!"DFS referral entry size too small: {entrySize}")
  let entryEnd := offset + entrySize
  let len := buf.length
  expect (entryEnd ≤ len) (.invalidData
    s!"DFS referral entry extends past buffer: entry_end={entryEnd}, buf={len}")
  return entrySize

def unpackEntries (buf : Bytes) : ℕ → ℕ → Meter (List DfsReferralEntry)
  | 0, _ => return []
  | n + 1, offset => do
    let entrySize ← free (checkedEntrySize buf offset)
    let entry ← parseReferralEntry (readU16 buf offset) buf offset
    let entries ← unpackEntries buf n (offset + entrySize)
    return entry :: entries

def readReferrals (buf : Bytes) (n : ℕ) : Meter (List DfsReferralEntry) := do
  charge (dfsReferralEntrySize * n)
  unpackEntries buf n 0

def readRest : Reader Bytes := fun c => readBytes c.remaining c

def RespGetDfsReferral.unpack : Meter RespGetDfsReferral := do
  let pathConsumed ← free readU16Le
  let numberOfReferrals ← free readU16Le
  let headerFlags ← free readU32Le
  let entryData ← free readRest
  let entries ← readReferrals entryData numberOfReferrals.toNat
  return { pathConsumed, headerFlags, entries }

/-! ## What a response may cost -/

lemma length_codeUnits_le (bs : Bytes) : 2 * (codeUnits bs).length ≤ bs.length := by
  induction bs using codeUnits.induct with
  | case1 low high bs ih =>
    rw [codeUnits, length_cons, length_cons, length_cons]
    omega
  | case2 bs hshort =>
    rw [codeUnits]
    · exact Nat.zero_le _
    · exact hshort

lemma length_unitsAt_le (buf : Bytes) (offset : ℕ) :
    2 * (unitsAt buf offset).length ≤ buf.length := by
  have htake := ( takeWhile_prefix (l := codeUnits (buf.drop offset)) (· ≠ 0)).length_le
  have hunits := length_codeUnits_le (buf.drop offset)
  rw [length_drop] at hunits
  unfold unitsAt
  omega

section Referrals

variable (buf : Bytes)

lemma eats_buffer {α : Type} (m : Reader α) : Eats (fun _ => 0) 0 m := fun _ _ _ _ => le_rfl

lemma pays_readOffsetString (entryStart offset : ℕ) :
    Pays (fun _ => 0) 0 0 (5 * buf.length + 16) (5 * buf.length + 16) true
      (readOffsetString buf entryStart offset) := by
  have hunits := length_unitsAt_le buf (entryStart + offset)
  refine .charge_bind (by omega) (by omega) (.free_bind (eats_buffer _) fun _ => ?_)
  exact .charge_bind (by omega) (by omega) (.free (eats_buffer _) (Nat.zero_le _))

lemma pays_parseReferralEntry (version : UInt16) (entryStart : ℕ) :
    Pays (fun _ => 0) 0 0 (15 * buf.length + 48) (15 * buf.length + 48) true
      (parseReferralEntry version buf entryStart) := by
  have htext := pays_readOffsetString buf entryStart
  have hfields (pos ttlPos : ℕ) :
      Pays (fun _ => 0) 0 0 (15 * buf.length + 48) (15 * buf.length + 48) true
        (referralFields version buf entryStart pos ttlPos) := by
    refine (htext _).spend (by omega) (by omega) fun _ => ?_
    refine (htext _).spend (by omega) (by omega) fun _ => ?_
    exact (htext _).spend (by omega) (by omega) fun _ => .ret _ (Nat.zero_le _)
  refine .ite (fun _ => ?_) fun _ => .ite (fun _ => ?_) fun _ => ?_
  · exact .free_bind (eats_buffer _) fun _ => hfields _ _
  · exact .free_bind (eats_buffer _) fun _ => hfields _ _
  · exact .free (eats_buffer _) (Nat.zero_le _)

lemma pays_unpackEntries (n offset : ℕ) :
    Pays (fun _ => 0) 0 0 (n * (15 * buf.length + 48)) (n * (15 * buf.length + 48)) true
      (unpackEntries buf n offset) := by
  induction n generalizing offset with
  | zero => exact .ret _ (Nat.zero_le _)
  | succ n ih =>
    rw [Nat.succ_mul]
    refine .free_bind (eats_buffer _) fun entrySize => ?_
    refine (pays_parseReferralEntry buf _ _).spend (by omega) (by omega) fun entry => ?_
    exact (ih _).spend (by omega) (by omega) fun _ => .ret _ (Nat.zero_le _)

end Referrals

lemma accounted_unpack (c : ReadCursor) :
    Accounted (983025 * c.remaining + 9000000) (charges RespGetDfsReferral.unpack c) := by
  refine accounted_free_bind fun _ c₁ h₁ => accounted_free_bind fun n c₂ h₂ =>
    accounted_free_bind fun _ c₃ h₃ => accounted_free_bind fun buf c₄ h₄ => ?_
  have hle₁ := eats_readU16Le _ _ _ h₁
  have hle₂ := eats_readU16Le _ _ _ h₂
  have hle₃ := eats_readU32Le _ _ _ h₃
  have hbuf : buf.length ≤ c.remaining := by
    obtain ⟨-, rfl, -⟩ := takeN_eq_ok.1 h₄
    have hlen : (slice c₃.data c₃.pos (c₃.pos + c₃.remaining)).length = c₃.remaining :=
      length_slice le_rfl
    omega
  rw [charges_bind_pure]
  have hcount := n.toNat_lt
  have hcost : n.toNat * (15 * buf.length + 48) ≤ 65535 * (15 * c.remaining + 48) :=
    Nat.mul_le_mul (by omega) (by omega)
  have hentries := (pays_unpackEntries buf n.toNat 0).accounted (by omega) c₄
  refine accounted_charge_bind hentries ?_
  simp only [dfsReferralEntrySize]
  omega

lemma secured_unpack : Secured RespGetDfsReferral.unpack := by
  have hentries (buf : Bytes) (n : ℕ) : Secured (unpackEntries buf n 0) :=
    (pays_unpackEntries buf n 0).secured rfl
  exact (secured_free _).bind fun _ => (secured_free _).bind fun _ => (secured_free _).bind fun _ =>
    (secured_free _).bind fun _ => ((secured_charge _).bind fun _ => hentries _ _).bind fun _ =>
      secured_pure _

/-! ## What is laid out is decoded -/

def TextAt (buf : Bytes) (pos : ℕ) (text : List Char) : Prop :=
  '\x00' ∉ text ∧ ∃ rest, buf.drop pos = utf16Le text ++ (0 :: 0 :: rest)

lemma zero_notMem_encode {text : List Char} (h : '\x00' ∉ text) : 0 ∉ Utf16.encode text := by
  rw [Utf16.encode, mem_flatMap]
  rintro ⟨c, hc, hzero⟩
  have hne : c.toNat ≠ 0 := by
    intro h0
    obtain rfl : c = '\x00' := Char.ext (UInt32.toNat_inj.1 h0)
    exact h hc
  have hvalid : c.toNat < 0x110000 := c.valid.elim (fun h => h.trans (by decide)) And.right
  unfold Utf16.encodeChar at hzero
  split at hzero
  · have hunit := congrArg UInt16.toNat (mem_singleton.1 hzero)
    rw [UInt16.toNat_ofNat'] at hunit
    exact hne (by simp at hunit; omega)
  · simp only [mem_cons, not_mem_nil, or_false] at hzero
    rcases hzero with hzero | hzero <;>
    · have hunit := congrArg UInt16.toNat hzero
      rw [UInt16.toNat_ofNat'] at hunit
      simp at hunit
      omega

lemma readOffsetString_of_textAt {buf : Bytes} {start offset : ℕ} {text : List Char}
    (h : TextAt buf (start + offset) text) (c : ReadCursor) :
    result (readOffsetString buf start offset) c = .ok (text, c) := by
  obtain ⟨hnul, rest, hdrop⟩ := h
  have hunits : codeUnits (buf.drop (start + offset)) = Utf16.encode text ++ 0 :: codeUnits rest := by
    rw [hdrop, codeUnits_utf16Le_append]
    rfl
  have hterminated : isTerminated buf (start + offset) := by
    rw [isTerminated, hunits]
    exact decide_eq_true (mem_append_right _ mem_cons_self)
  have htext : unitsAt buf (start + offset) = Utf16.encode text := by
    have hall : ∀ u ∈ Utf16.encode text, decide (u ≠ 0) = true := fun u hu =>
      decide_eq_true fun h0 => zero_notMem_encode hnul (h0 ▸ hu)
    rw [unitsAt, hunits, takeWhile_append_of_pos hall]
    simp
  simp only [readOffsetString, result_bind, result_charge, result_free, pure_bind]
  rw [expect_bind hterminated, htext, fromUtf16, Utf16.decode_encode]
  rfl

/-- An entry with what stands in its fixed part besides: a proximity, for version 2, the offsets of the
texts, and what comes behind them. -/
structure LaidReferral where
  entry : DfsReferralEntry
  proximity : UInt32
  dfsPathOffset : UInt16
  dfsAlternatePathOffset : UInt16
  networkAddressOffset : UInt16
  tail : Bytes

namespace LaidReferral

variable (r : LaidReferral)

def gap : Bytes := if r.entry.version = 2 then leBytes 4 r.proximity.toNat else []

def body : Bytes :=
  leBytes 2 r.entry.serverType.toNat ++ (leBytes 2 r.entry.referralEntryFlags.toNat ++
    (r.gap ++ (leBytes 4 r.entry.ttl.toNat ++ (leBytes 2 r.dfsPathOffset.toNat ++
      (leBytes 2 r.dfsAlternatePathOffset.toNat ++ (leBytes 2 r.networkAddressOffset.toNat ++
        r.tail))))))

def size : UInt16 := UInt16.ofNat (4 + r.body.length)

def pack : Bytes := leBytes 2 r.entry.version.toNat ++ (leBytes 2 r.size.toNat ++ r.body)

/-- **The entry is laid out** at a position: its size fits its field, and its texts are where its
offsets say. -/
structure LaidAt (buf : Bytes) (start : ℕ) : Prop where
  version : r.entry.version = 2 ∨ r.entry.version = 3 ∨ r.entry.version = 4
  size : 4 + r.body.length < 65536
  dfsPath : TextAt buf (start + r.dfsPathOffset.toNat) r.entry.dfsPath
  dfsAlternatePath : TextAt buf (start + r.dfsAlternatePathOffset.toNat) r.entry.dfsAlternatePath
  networkAddress : TextAt buf (start + r.networkAddressOffset.toNat) r.entry.networkAddress

end LaidReferral

def AllLaid (buf : Bytes) : ℕ → List LaidReferral → Prop
  | _, [] => True
  | start, r :: rs => r.LaidAt buf start ∧ AllLaid buf (start + r.pack.length) rs

lemma readU16_append {buf a b : Bytes} {v : UInt16} {pos : ℕ}
    (hbuf : buf = a ++ (leBytes 2 v.toNat ++ b)) (hpos : pos = a.length) : readU16 buf pos = v := by
  have hslice := slice_append a (leBytes 2 v.toNat) b
  rw [length_leBytes, ← hbuf, ← hpos] at hslice
  rw [readU16, hslice, leNat_leBytes v.toNat_lt, UInt16.ofNat_toNat]

lemma readU32_append {buf a b : Bytes} {v : UInt32} {pos : ℕ}
    (hbuf : buf = a ++ (leBytes 4 v.toNat ++ b)) (hpos : pos = a.length) : readU32 buf pos = v := by
  have hslice := slice_append a (leBytes 4 v.toNat) b
  rw [length_leBytes, ← hbuf, ← hpos] at hslice
  rw [readU32, hslice, leNat_leBytes v.toNat_lt, UInt32.ofNat_toNat]

lemma bind_of_ok {α β : Type} {m : Reader α} {f : α → Reader β} {c c' : ReadCursor} {a : α}
    (h : m c = .ok (a, c')) : (m >>= f) c = f a c' := by
  show (m c >>= fun p => f p.1 p.2) = _
  rw [h]
  rfl

variable {buf pre post : Bytes} {c : ReadCursor}

lemma parseReferralEntry_of_laid {r : LaidReferral} (hbuf : buf = pre ++ (r.pack ++ post))
    (h : r.LaidAt buf pre.length) :
    readU16 buf pre.length = r.entry.version ∧
      checkedEntrySize buf pre.length c = .ok (r.pack.length, c) ∧
      result (parseReferralEntry r.entry.version buf pre.length) c = .ok (r.entry, c) := by
  have hlen : r.pack.length = 4 + r.body.length := by
    simp only [LaidReferral.pack, length_append, length_leBytes]
    omega
  have hsize : r.size.toNat = 4 + r.body.length := UInt16.toNat_ofNat_of_lt' h.size
  have htotal : buf.length = pre.length + (r.pack.length + post.length) := by
    rw [hbuf, length_append, length_append]
  have hbody : 14 + r.gap.length ≤ r.body.length := by
    simp only [LaidReferral.body, length_append, length_leBytes]
    omega
  rw [LaidReferral.pack, LaidReferral.body] at hbuf
  simp only [append_assoc] at hbuf
  set front := pre ++ (leBytes 2 r.entry.version.toNat ++ leBytes 2 r.size.toNat) with hfront
  have hstart : front.length = pre.length + 4 := by
    simp only [hfront, length_append, length_leBytes]
  have hfields : buf = front ++ (leBytes 2 r.entry.serverType.toNat ++
      (leBytes 2 r.entry.referralEntryFlags.toNat ++ (r.gap ++ (leBytes 4 r.entry.ttl.toNat ++
        (leBytes 2 r.dfsPathOffset.toNat ++ (leBytes 2 r.dfsAlternatePathOffset.toNat ++
          (leBytes 2 r.networkAddressOffset.toNat ++ (r.tail ++ post)))))))) := by
    rw [hfront]
    simpa only [append_assoc] using hbuf
  set head := front ++ (leBytes 2 r.entry.serverType.toNat ++
    (leBytes 2 r.entry.referralEntryFlags.toNat ++ r.gap)) with hhead
  have hheadlen : head.length = pre.length + 8 + r.gap.length := by
    simp only [hhead, length_append, length_leBytes]
    omega
  have htail : buf = head ++ (leBytes 4 r.entry.ttl.toNat ++ (leBytes 2 r.dfsPathOffset.toNat ++
      (leBytes 2 r.dfsAlternatePathOffset.toNat ++ (leBytes 2 r.networkAddressOffset.toNat ++
        (r.tail ++ post))))) := by
    rw [hhead]
    simpa only [append_assoc] using hfields
  have hread : result (referralFields r.entry.version buf pre.length (pre.length + 4) head.length) c =
      .ok (r.entry, c) := by
    have htype : readU16 buf (pre.length + 4) = r.entry.serverType :=
      readU16_append hfields hstart.symm
    have hflags : readU16 buf (pre.length + 4 + 2) = r.entry.referralEntryFlags :=
      readU16_append (a := front ++ leBytes 2 r.entry.serverType.toNat)
        (by simpa only [append_assoc] using hfields) (by simp [hstart])
    have hpath : readU16 buf (head.length + 4) = r.dfsPathOffset :=
      readU16_append (a := head ++ leBytes 4 r.entry.ttl.toNat)
        (by simpa only [append_assoc] using htail) (by simp)
    have halternate : readU16 buf (head.length + 6) = r.dfsAlternatePathOffset :=
      readU16_append
        (a := head ++ (leBytes 4 r.entry.ttl.toNat ++ leBytes 2 r.dfsPathOffset.toNat))
        (by simpa only [append_assoc] using htail) (by simp)
    have haddress : readU16 buf (head.length + 8) = r.networkAddressOffset :=
      readU16_append (a := head ++ (leBytes 4 r.entry.ttl.toNat ++
        (leBytes 2 r.dfsPathOffset.toNat ++ leBytes 2 r.dfsAlternatePathOffset.toNat)))
        (by simpa only [append_assoc] using htail) (by simp)
    simp only [referralFields, result_bind, result_pure, htype, hflags, readU32_append htail rfl,
      hpath, halternate, haddress]
    rw [bind_of_ok (readOffsetString_of_textAt h.dfsPath c),
      bind_of_ok (readOffsetString_of_textAt h.dfsAlternatePath c),
      bind_of_ok (readOffsetString_of_textAt h.networkAddress c)]
    rfl
  refine ⟨readU16_append hbuf rfl, ?_, ?_⟩
  · have hfield : readU16 buf (pre.length + 2) = r.size :=
      readU16_append (a := pre ++ leBytes 2 r.entry.version.toNat)
        (by simpa only [append_assoc] using hbuf) (by simp)
    rw [checkedEntrySize, hfield, hsize, expect_bind (decide_eq_true (by omega)),
      expect_bind (decide_eq_true (by omega)), expect_bind (decide_eq_true (by omega)), hlen]
    rfl
  · have hgap : r.gap.length = if r.entry.version = 2 then 4 else 0 := by
      rw [LaidReferral.gap]
      split <;> rfl
    simp only [parseReferralEntry, result_ite, result_bind, result_free]
    by_cases htwo : r.entry.version = 2
    · rw [if_pos htwo] at hgap ⊢
      rw [ensureRemaining, expect_bind (decide_eq_true (by omega))]
      rwa [show head.length = pre.length + 4 + 8 by omega] at hread
    · rw [if_neg htwo] at hgap ⊢
      rw [if_pos (h.version.resolve_left htwo), ensureRemaining,
        expect_bind (decide_eq_true (by omega))]
      rwa [show head.length = pre.length + 4 + 4 by omega] at hread

lemma unpackEntries_of_laid {rs : List LaidReferral} (hbuf : buf = pre ++ (rs.flatMap (·.pack) ++ post))
    (h : AllLaid buf pre.length rs) :
    result (unpackEntries buf rs.length pre.length) c = .ok (rs.map (·.entry), c) := by
  induction rs generalizing pre with
  | nil => rfl
  | cons r rs ih =>
    rw [flatMap_cons, append_assoc] at hbuf
    obtain ⟨hversion, hsize, hentry⟩ := @parseReferralEntry_of_laid _ _ _ c _ hbuf h.1
    have hrest := @ih (pre ++ r.pack) (by rw [hbuf]; simp only [append_assoc])
      (by rw [length_append]; exact h.2)
    rw [length_append] at hrest
    rw [length_cons, unpackEntries]
    simp only [result_bind, result_pure, result_free]
    rw [bind_of_ok hsize, hversion, bind_of_ok hentry, bind_of_ok hrest]
    rfl

/-! ## Offsets that leave the buffer -/

def ttlPos (version : UInt16) (start : ℕ) : ℕ :=
  if version = 2 then start + 4 + 8 else start + 4 + 4

def textPos (buf : Bytes) (version : UInt16) (start k : ℕ) : ℕ :=
  start + (readU16 buf (ttlPos version start + k)).toNat

/-- **A text leaves the buffer**: one of the next `n` entries, from a position on, has an offset from
which on there is no NUL. -/
inductive TextLeaves (buf : Bytes) : ℕ → ℕ → Prop
  | entry {n start k : ℕ} (hk : k ∈ [4, 6, 8])
      (h : ¬ isTerminated buf (textPos buf (readU16 buf start) start k)) :
      TextLeaves buf (n + 1) start
  | next {n start : ℕ} (h : TextLeaves buf n (start + (readU16 buf (start + 2)).toNat)) :
      TextLeaves buf (n + 1) start

lemma parseReferralEntry_eq_ok {version : UInt16} {start : ℕ} {p : DfsReferralEntry × ReadCursor}
    (h : result (parseReferralEntry version buf start) c = .ok p) :
    ttlPos version start + 10 ≤ buf.length ∧
      ∀ k ∈ [4, 6, 8], isTerminated buf (textPos buf version start k) := by
  have htext {offset : ℕ} {f : List Char → Reader DfsReferralEntry} {c : ReadCursor}
      (h : (result (readOffsetString buf start offset) >>= f) c = .ok p) :
      isTerminated buf (start + offset) ∧ ∃ s c', f s c' = .ok p := by
    simp only [readOffsetString, result_bind, result_charge, result_free, pure_bind, bind_assoc,
      expect_then] at h
    obtain ⟨s, c', -, hrest⟩ := bind_eq_ok.1 h.2
    exact ⟨h.1, s, c', hrest⟩
  have hfields {pos : ℕ} (hbound : ttlPos version start + 10 ≤ buf.length)
      (h : result (referralFields version buf start pos (ttlPos version start)) c = .ok p) :
      ttlPos version start + 10 ≤ buf.length ∧
        ∀ k ∈ [4, 6, 8], isTerminated buf (textPos buf version start k) := by
    simp only [referralFields, result_bind] at h
    obtain ⟨hpath, s, c₁, h⟩ := htext h
    obtain ⟨halternate, s, c₂, h⟩ := htext h
    obtain ⟨haddress, -⟩ := htext h
    refine ⟨hbound, fun k hk => ?_⟩
    simp only [mem_cons, not_mem_nil, or_false] at hk
    rcases hk with rfl | rfl | rfl
    · exact hpath
    · exact halternate
    · exact haddress
  simp only [parseReferralEntry, result_ite, result_bind, result_free] at h
  split at h
  · rename_i htwo
    obtain ⟨hbound, h⟩ := expect_then.1 h
    have hpos : ttlPos version start = start + 4 + 8 := if_pos htwo
    rw [← hpos] at h
    exact hfields (by have := of_decide_eq_true hbound; omega) h
  · rename_i htwo
    split at h
    · obtain ⟨hbound, h⟩ := expect_then.1 h
      have hpos : ttlPos version start = start + 4 + 4 := if_neg htwo
      rw [← hpos] at h
      exact hfields (by have := of_decide_eq_true hbound; omega) h
    · cases h

lemma TextLeaves.not_ok {n start : ℕ} (h : TextLeaves buf n start)
    {p : List DfsReferralEntry × ReadCursor} :
    result (unpackEntries buf n start) c ≠ .ok p := by
  intro hok
  induction h generalizing c p with
  | @entry n start k hk hleaves =>
    rw [unpackEntries] at hok
    simp only [result_bind, result_free] at hok
    obtain ⟨size, c₁, -, hok⟩ := bind_eq_ok.1 hok
    obtain ⟨entry, c₂, hentry, -⟩ := bind_eq_ok.1 hok
    exact hleaves ((parseReferralEntry_eq_ok hentry).2 k hk)
  | @next n start h ih =>
    rw [unpackEntries] at hok
    simp only [result_bind, result_free] at hok
    obtain ⟨size, c₁, hsize, hok⟩ := bind_eq_ok.1 hok
    obtain ⟨entry, c₂, -, hok⟩ := bind_eq_ok.1 hok
    obtain ⟨entries, c₃, hentries, -⟩ := bind_eq_ok.1 hok
    obtain rfl : size = (readU16 buf (start + 2)).toNat := by
      simp only [checkedEntrySize, expect_then] at hsize
      exact (pure_eq_ok.1 hsize.2.2.2).1
    exact ih hentries

/-- **DFS referrals decode exactly.** Entries that are laid out in a buffer, with their texts anywhere in
it, are returned in order. The loop has as many rounds as the response says; an entry that is accepted
lies within the buffer, with its texts; and a response of which a text leaves the buffer is rejected. -/
theorem referrals_exact :
    (∀ (pathConsumed : UInt16) (headerFlags : UInt32) (rs : List LaidReferral) (table : Bytes),
      rs.length < 65536 → AllLaid (rs.flatMap (·.pack) ++ table) 0 rs →
        ∃ c, result RespGetDfsReferral.unpack (.new (leBytes 2 pathConsumed.toNat ++
            (leBytes 2 rs.length ++ (leBytes 4 headerFlags.toNat ++
              (rs.flatMap (·.pack) ++ table))))) =
          .ok (⟨pathConsumed, headerFlags, rs.map (·.entry)⟩, c)) ∧
    (∀ (buf : Bytes) (start : ℕ) (version : UInt16) (c : ReadCursor)
      (p : DfsReferralEntry × ReadCursor),
      result (parseReferralEntry version buf start) c = .ok p →
        ttlPos version start + 10 ≤ buf.length ∧
          ∀ k ∈ [4, 6, 8], isTerminated buf (textPos buf version start k)) ∧
    (∀ data : Bytes, TextLeaves (data.drop 8) (leNat (slice data 2 4)) 0 →
      ∃ e, result RespGetDfsReferral.unpack (.new data) = .error e) := by
  have hrest (c : ReadCursor) : readRest c = .ok (c.data.drop c.pos, c.advance c.remaining) := by
    refine takeN_eq_ok.2 ⟨le_rfl, ?_, rfl⟩
    rw [slice, Nat.add_sub_cancel_left, remaining, take_of_length_le]
    rw [length_drop]
  refine ⟨fun pathConsumed headerFlags rs table hcount h => ?_,
    fun _ _ _ _ _ h => parseReferralEntry_eq_ok h, fun data h => ?_⟩
  · have hentries (c : ReadCursor) :
        result (unpackEntries (rs.flatMap (·.pack) ++ table) rs.length 0) c =
          .ok (rs.map (·.entry), c) :=
      @unpackEntries_of_laid _ [] table c rs rfl h
    have hnum : (UInt16.ofNat rs.length).toNat = rs.length := UInt16.toNat_ofNat_of_lt' hcount
    simp only [RespGetDfsReferral.unpack, readReferrals, result_bind, result_free, result_charge,
      pure_bind]
    have hnew (bs : Bytes) : ReadCursor.new bs = ⟨[] ++ bs, ([] : Bytes).length⟩ := rfl
    rw [hnew, readU16Le_bind, ← leBytes_ofNat16 rs.length, readU16Le_bind, readU32Le_bind,
      bind_of_ok (hrest _), drop_left, hnum, bind_of_ok (hentries _)]
    exact ⟨_, rfl⟩
  · cases hok : result RespGetDfsReferral.unpack (.new data) with
    | error e => exact ⟨e, rfl⟩
    | ok p =>
      simp only [RespGetDfsReferral.unpack, readReferrals, result_bind, result_free, result_charge,
        pure_bind, readU16Le_then, readU32Le_then] at hok
      obtain ⟨-, -, -, hok⟩ := hok
      rw [bind_of_ok (hrest _), toNat_u16_peek] at hok
      obtain ⟨entries, c', hentries, -⟩ := bind_eq_ok.1 hok
      exact absurd hentries h.not_ok

end Smb2.DfsWire
