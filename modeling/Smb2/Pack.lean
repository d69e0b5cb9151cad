import Smb2.Lib.Utf16
import Smb2.Types

set_option autoImplicit false

/-!
# Reading and writing little-endian data

The cursors of `pack/mod.rs`. A reader is a function of the cursor that either fails with the
cursor's own error text or returns a value and the advanced cursor; the writer's cursor is the
byte string written so far, so a `pack` function is the byte string it appends.
-/

open List

namespace Smb2

def leBytes : ℕ → ℕ → Bytes
  | 0, _ => []
  | k + 1, v => UInt8.ofNat v :: leBytes k (v / 256)

def beBytes (k v : ℕ) : Bytes := (leBytes k v).reverse

def leNat : Bytes → ℕ
  | [] => 0
  | b :: bs => b.toNat + 256 * leNat bs

@[simp] lemma length_leBytes (k v : ℕ) : (leBytes k v).length = k := by
  induction k generalizing v with
  | zero => rfl
  | succ k ih => simp [leBytes, ih]

lemma leNat_leBytes {k v : ℕ} (h : v < 256 ^ k) : leNat (leBytes k v) = v := by
  induction k generalizing v with
  | zero =>
    obtain rfl : v = 0 := by simpa using h
    rfl
  | succ k ih =>
    have hdiv : v / 256 < 256 ^ k := Nat.div_lt_of_lt_mul (by rw [Nat.pow_succ] at h; omega)
    have hlow : (UInt8.ofNat v).toNat = v % 256 := UInt8.toNat_ofNat'
    rw [leBytes, leNat, ih hdiv, hlow]
    omega

lemma leBytes_mod (k v : ℕ) : leBytes k (v % 256 ^ k) = leBytes k v := by
  induction k generalizing v with
  | zero => rfl
  | succ k ih =>
    have hlow : UInt8.ofNat (v % 256 ^ (k + 1)) = UInt8.ofNat v := by
      refine UInt8.toNat_inj.1 ?_
      rw [UInt8.toNat_ofNat', UInt8.toNat_ofNat']
      exact Nat.mod_mod_of_dvd v ⟨256 ^ k, by rw [Nat.pow_succ, Nat.mul_comm]⟩
    have hhigh : v % 256 ^ (k + 1) / 256 = v / 256 % 256 ^ k := by
      rw [Nat.pow_succ, Nat.mul_comm, Nat.mod_mul_right_div_self]
    rw [leBytes, leBytes, hlow, hhigh, ih]

lemma leBytes_ofNat16 (v : ℕ) : leBytes 2 (UInt16.ofNat v).toNat = leBytes 2 v := by
  rw [UInt16.toNat_ofNat']
  exact leBytes_mod 2 v

lemma leBytes_ofNat32 (v : ℕ) : leBytes 4 (UInt32.ofNat v).toNat = leBytes 4 v := by
  rw [UInt32.toNat_ofNat']
  exact leBytes_mod 4 v

lemma leNat_lt (bs : Bytes) : leNat bs < 256 ^ bs.length := by
  induction bs with
  | nil => exact Nat.one_pos
  | cons b bs ih =>
    have hb := b.toNat_lt
    rw [leNat, length_cons, Nat.pow_succ]
    omega

/-- The bytes of `data` from `start` up to, not including, `stop` (`&data[start..stop]`). -/
def slice (data : Bytes) (start stop : ℕ) : Bytes := (data.drop start).take (stop - start)

lemma slice_drop (data : Bytes) (k start stop : ℕ) :
    slice (data.drop k) start stop = slice data (k + start) (k + stop) := by
  rw [slice, slice, drop_drop, Nat.add_sub_add_left]

lemma length_slice {data : Bytes} {start n : ℕ} (h : n ≤ data.length - start) :
    (slice data start (start + n)).length = n := by
  rw [slice, length_take, length_drop]
  omega

lemma slice_append (pre bs post : Bytes) :
    slice (pre ++ (bs ++ post)) pre.length (pre.length + bs.length) = bs := by
  simp [slice]

def alignPadding (pos alignment : ℕ) : ℕ :=
  if alignment ≤ 1 then 0
  else if pos % alignment ≠ 0 then alignment - pos % alignment else 0

lemma alignPadding_le (pos alignment : ℕ) : alignPadding pos alignment ≤ alignment := by
  unfold alignPadding
  split
  · exact Nat.zero_le _
  · split
    · exact Nat.sub_le _ _
    · exact Nat.zero_le _

def utf8 (s : List Char) : Bytes := s.flatMap String.utf8EncodeChar

def fromUtf8 (bs : Bytes) : Option (List Char) :=
  (ByteArray.mk bs.toArray).utf8Decode?.map Array.toList

def utf16Le (s : List Char) : Bytes := (Utf16.encode s).flatMap fun u => leBytes 2 u.toNat

def codeUnits : Bytes → List UInt16
  | low :: high :: bs => UInt16.ofNat (leNat [low, high]) :: codeUnits bs
  | _ => []

lemma length_utf16Le (s : List Char) : (utf16Le s).length = 2 * Utf16.units s := by
  unfold utf16Le Utf16.units
  induction Utf16.encode s with
  | nil => rfl
  | cons u us ih =>
    rw [flatMap_cons, length_append, ih, length_leBytes, length_cons]
    omega

lemma utf16Le_append (s t : List Char) : utf16Le (s ++ t) = utf16Le s ++ utf16Le t := by
  simp [utf16Le, Utf16.encode]

lemma codeUnits_utf16Le_append (s : List Char) (bs : Bytes) :
    codeUnits (utf16Le s ++ bs) = Utf16.encode s ++ codeUnits bs := by
  unfold utf16Le
  induction Utf16.encode s with
  | nil => rfl
  | cons u us ih =>
    have hunit : UInt16.ofNat (leNat (leBytes 2 u.toNat)) = u := by
      rw [leNat_leBytes u.toNat_lt, UInt16.ofNat_toNat]
    rw [flatMap_cons, append_assoc]
    show UInt16.ofNat (leNat (leBytes 2 u.toNat)) :: codeUnits (us.flatMap _ ++ bs) = _
    rw [hunit, ih]
    rfl

lemma codeUnits_utf16Le (s : List Char) : codeUnits (utf16Le s) = Utf16.encode s := by
  simpa [codeUnits] using codeUnits_utf16Le_append s []

lemma length_codeUnits {bs : Bytes} (h : bs.length % 2 = 0) :
    2 * (codeUnits bs).length = bs.length := by
  induction bs using codeUnits.induct with
  | case1 low high bs ih =>
    simp only [length_cons] at h
    rw [codeUnits, length_cons, length_cons, length_cons, Nat.mul_succ,
      ih (by omega)]
  | case2 bs hshort =>
    match bs with
    | [] => rfl
    | [_] => simp at h
    | _ :: _ :: _ => exact absurd rfl (hshort _ _ _)

/-! ## The reading cursor -/

structure ReadCursor where
  data : Bytes
  pos : ℕ
deriving DecidableEq, Repr

abbrev Reader (α : Type) := StateT ReadCursor (Except Error) α

namespace ReadCursor

def new (data : Bytes) : ReadCursor := ⟨data, 0⟩

def remaining (c : ReadCursor) : ℕ := c.data.length - c.pos

def maxUnpackBuffer : ℕ := 16 * 1024 * 1024

/-- The next `n` bytes; the common part of `ensure`, `read_array`, `read_bytes` and `skip`. -/
def takeN (n : ℕ) : Reader Bytes := fun c =>
  if c.remaining < n then
    let rem := c.remaining
    let pos := c.pos
    .error (.invalidData s!"need {n} bytes but only {rem} remain at offset {pos}")
  else
    .ok (slice c.data c.pos (c.pos + n), { c with pos := c.pos + n })

def readBytes (n : ℕ) : Reader Bytes := takeN n

/-- `read_bytes_bounded`: refuses a length above `maxUnpackBuffer` before looking at the data. -/
def readBytesBounded (n : ℕ) : Reader Bytes := do
  if n > maxUnpackBuffer then
    let max := maxUnpackBuffer
    throw (.invalidData s!"buffer size {n} exceeds maximum {max} bytes")
  readBytes n

def readBuffer (n : ℕ) : Reader Bytes := if n > 0 then readBytesBounded n else pure []

def skip (n : ℕ) : Reader Unit := do
  let _ ← takeN n

def position : Reader ℕ := fun c => .ok (c.pos, c)

def seekTo (target : ℕ) : Reader Unit := do
  let current ← position
  if target > current then skip (target - current)

def readUtf16Le (byteLen : ℕ) : Reader (List Char) := do
  if byteLen % 2 ≠ 0 then
    throw (.invalidData s!"UTF-16LE byte length must be even, got {byteLen}")
  let raw ← readBytes byteLen
  match Utf16.decode (codeUnits raw) with
  | some s => pure s
  | none => throw (.invalidData "invalid UTF-16LE encoding")

def readU8 : Reader UInt8 := do
  return UInt8.ofNat (leNat (← takeN 1))

def readU16Le : Reader UInt16 := do
  return UInt16.ofNat (leNat (← takeN 2))

def readU32Le : Reader UInt32 := do
  return UInt32.ofNat (leNat (← takeN 4))

def readU64Le : Reader UInt64 := do
  return UInt64.ofNat (leNat (← takeN 8))

def expect (ok : Bool) (e : Error) : Reader Unit := if ok then pure () else throw e

variable {c c' : ReadCursor} {α : Type}

lemma takeN_eq_ok {n : ℕ} {bs : Bytes} :
    takeN n c = .ok (bs, c') ↔
      n ≤ c.remaining ∧ bs = slice c.data c.pos (c.pos + n) ∧ c' = { c with pos := c.pos + n } := by
  unfold takeN
  split
  · rename_i h
    simp only [reduceCtorEq, false_iff, not_and]
    omega
  · rename_i h
    simp only [Except.ok.injEq, Prod.mk.injEq]
    constructor
    · rintro ⟨rfl, rfl⟩
      exact ⟨by omega, rfl, rfl⟩
    · rintro ⟨-, rfl, rfl⟩
      exact ⟨rfl, rfl⟩

lemma bind_eq_ok {β : Type} {x : Reader α} {f : α → Reader β} {c'' : ReadCursor} {b : β} :
    (x >>= f) c = .ok (b, c'') ↔ ∃ a c', x c = .ok (a, c') ∧ f a c' = .ok (b, c'') := by
  show (x c >>= fun p => f p.1 p.2) = _ ↔ _
  cases x c with
  | error e => simp [bind, Except.bind]
  | ok p => simp [bind, Except.bind, Prod.ext_iff, and_assoc]

lemma pure_eq_ok {a b : α} :
    (pure a : Reader α) c = .ok (b, c') ↔ b = a ∧ c' = c := by
  show Except.ok (a, c) = _ ↔ _
  simp [Prod.ext_iff, eq_comm]

lemma expect_eq_ok {ok : Bool} {e : Error} {u : Unit} :
    expect ok e c = .ok (u, c') ↔ ok ∧ c' = c := by
  cases ok with
  | false => simp [expect, throw, throwThe, MonadExceptOf.throw, StateT.lift, bind, Except.bind]
  | true => exact pure_eq_ok.trans (by simp)

lemma takeN_map_eq_ok {n : ℕ} {g : Bytes → α} {v : α} :
    (takeN n >>= fun bs => pure (g bs)) c = .ok (v, c') ↔
      n ≤ c.remaining ∧ v = g (slice c.data c.pos (c.pos + n)) ∧
        c' = { c with pos := c.pos + n } := by
  rw [bind_eq_ok]
  constructor
  · rintro ⟨bs, c₁, htake, hret⟩
    obtain ⟨hn, rfl, rfl⟩ := takeN_eq_ok.1 htake
    obtain ⟨rfl, rfl⟩ := pure_eq_ok.1 hret
    exact ⟨hn, rfl, rfl⟩
  · rintro ⟨hn, rfl, rfl⟩
    exact ⟨_, _, takeN_eq_ok.2 ⟨hn, rfl, rfl⟩, pure_eq_ok.2 ⟨rfl, rfl⟩⟩

/-! ### Taking a reader apart

What the steps of a reader that succeeds have read, one step at a time: as rewrite rules they turn
a successful `do` block into what its fields are. -/

section Steps

variable {α β : Type} {n : ℕ} {c : ReadCursor} {p : β × ReadCursor}

def advance (c : ReadCursor) (n : ℕ) : ReadCursor := { c with pos := c.pos + n }

def peek (c : ReadCursor) (n : ℕ) : Bytes := slice c.data c.pos (c.pos + n)

lemma length_peek_le (c : ReadCursor) (n : ℕ) : (c.peek n).length ≤ n := by
  rw [peek, slice, length_take]
  omega

lemma toNat_u16_peek (c : ReadCursor) : (UInt16.ofNat (leNat (c.peek 2))).toNat = leNat (c.peek 2) :=
  UInt16.toNat_ofNat_of_lt' (Nat.lt_of_lt_of_le (leNat_lt _)
    (Nat.pow_le_pow_right (by decide) (c.length_peek_le 2)))

lemma toNat_u32_peek (c : ReadCursor) : (UInt32.ofNat (leNat (c.peek 4))).toNat = leNat (c.peek 4) :=
  UInt32.toNat_ofNat_of_lt' (Nat.lt_of_lt_of_le (leNat_lt _)
    (Nat.pow_le_pow_right (by decide) (c.length_peek_le 4)))

lemma takeN_then {f : Bytes → Reader β} :
    (takeN n >>= f) c = .ok p ↔ n ≤ c.remaining ∧ f (c.peek n) (c.advance n) = .ok p := by
  obtain ⟨b, c'⟩ := p
  rw [bind_eq_ok]
  constructor
  · rintro ⟨bs, c₁, htake, hrest⟩
    obtain ⟨hn, rfl, rfl⟩ := takeN_eq_ok.1 htake
    exact ⟨hn, hrest⟩
  · rintro ⟨hn, hrest⟩
    exact ⟨_, _, takeN_eq_ok.2 ⟨hn, rfl, rfl⟩, hrest⟩

lemma takeN_map_then {g : Bytes → α} {f : α → Reader β} :
    ((takeN n >>= fun bs => pure (g bs)) >>= f) c = .ok p ↔
      n ≤ c.remaining ∧ f (g (c.peek n)) (c.advance n) = .ok p := by
  rw [bind_assoc]
  exact takeN_then

lemma readU8_then {f : UInt8 → Reader β} :
    (readU8 >>= f) c = .ok p ↔
      1 ≤ c.remaining ∧ f (UInt8.ofNat (leNat (c.peek 1))) (c.advance 1) = .ok p :=
  takeN_map_then

lemma readU16Le_then {f : UInt16 → Reader β} :
    (readU16Le >>= f) c = .ok p ↔
      2 ≤ c.remaining ∧ f (UInt16.ofNat (leNat (c.peek 2))) (c.advance 2) = .ok p :=
  takeN_map_then

lemma readU32Le_then {f : UInt32 → Reader β} :
    (readU32Le >>= f) c = .ok p ↔
      4 ≤ c.remaining ∧ f (UInt32.ofNat (leNat (c.peek 4))) (c.advance 4) = .ok p :=
  takeN_map_then

lemma readU64Le_then {f : UInt64 → Reader β} :
    (readU64Le >>= f) c = .ok p ↔
      8 ≤ c.remaining ∧ f (UInt64.ofNat (leNat (c.peek 8))) (c.advance 8) = .ok p :=
  takeN_map_then

lemma position_then {f : ℕ → Reader β} : (position >>= f) c = .ok p ↔ f c.pos c = .ok p := Iff.rfl

lemma expect_then {ok : Bool} {e : Error} {f : Unit → Reader β} :
    (expect ok e >>= f) c = .ok p ↔ ok ∧ f () c = .ok p := by
  obtain ⟨b, c'⟩ := p
  rw [bind_eq_ok]
  constructor
  · rintro ⟨u, c₁, hcheck, hrest⟩
    obtain ⟨hok, rfl⟩ := expect_eq_ok.1 hcheck
    exact ⟨hok, hrest⟩
  · rintro ⟨hok, hrest⟩
    exact ⟨_, _, expect_eq_ok.2 ⟨hok, rfl⟩, hrest⟩

lemma liftM_then {x : Except Error α} {f : α → Reader β} :
    ((liftM x : Reader α) >>= f) c = .ok p ↔ ∃ a, x = .ok a ∧ f a c = .ok p := by
  obtain ⟨b, c'⟩ := p
  rw [bind_eq_ok]
  cases x with
  | error e =>
    constructor
    · rintro ⟨_, _, h, -⟩
      cases h
    · rintro ⟨_, h, -⟩
      cases h
  | ok a =>
    constructor
    · rintro ⟨a', c₁, h, hrest⟩
      obtain ⟨rfl, rfl⟩ : a = a' ∧ c = c₁ := by simpa using (Except.ok.inj h)
      exact ⟨a, rfl, hrest⟩
    · rintro ⟨a', h, hrest⟩
      obtain rfl := Except.ok.inj h
      exact ⟨a, c, rfl, hrest⟩

lemma pure_eq_ok_pair {b : β} : (pure b : Reader β) c = .ok p ↔ p = (b, c) := by
  obtain ⟨b', c'⟩ := p
  rw [pure_eq_ok, Prod.mk.injEq]

lemma seekTo_then {target : ℕ} {f : Unit → Reader β} :
    (seekTo target >>= f) c = .ok p ↔
      target - c.pos ≤ c.remaining ∧ f () { c with pos := max c.pos target } = .ok p := by
  rw [seekTo, bind_assoc, position_then]
  by_cases hmore : target > c.pos
  · rw [if_pos hmore, skip, bind_assoc, takeN_then, pure_bind]
    have hpos : c.pos + (target - c.pos) = max c.pos target := by omega
    rw [advance, hpos]
  · rw [if_neg hmore, pure_bind]
    have hpos : max c.pos target = c.pos := by omega
    rw [hpos]
    exact ⟨fun h => ⟨by omega, h⟩, fun h => h.2⟩

lemma readUtf16Le_then {f : List Char → Reader β} :
    (readUtf16Le n >>= f) c = .ok p ↔
      n % 2 = 0 ∧ n ≤ c.remaining ∧
        ∃ s, Utf16.decode (codeUnits (c.peek n)) = some s ∧ f s (c.advance n) = .ok p := by
  rw [readUtf16Le]
  by_cases heven : n % 2 = 0
  · rw [if_neg (not_not.2 heven), bind_assoc]
    refine takeN_then.trans ?_
    simp only [heven, true_and]
    cases Utf16.decode (codeUnits (c.peek n)) with
    | none =>
      constructor
      · rintro ⟨-, h⟩
        cases h
      · rintro ⟨-, _, h, -⟩
        cases h
    | some s => simp
  · rw [if_pos heven]
    constructor
    · intro h
      cases h
    · rintro ⟨h, -⟩
      exact absurd h heven

lemma readBuffer_then {f : Bytes → Reader β} :
    (readBuffer n >>= f) c = .ok p ↔
      n ≤ maxUnpackBuffer ∧ n ≤ c.remaining ∧ f (c.peek n) (c.advance n) = .ok p := by
  by_cases hpos : n > 0
  · rw [readBuffer, if_pos hpos, readBytesBounded]
    by_cases hmax : n > maxUnpackBuffer
    · rw [if_pos hmax]
      constructor
      · intro h
        cases h
      · rintro ⟨h, -⟩
        omega
    · rw [if_neg hmax]
      simp only [show n ≤ maxUnpackBuffer by omega, true_and]
      exact takeN_then
  · obtain rfl : n = 0 := by omega
    rw [readBuffer, if_neg hpos, pure_bind]
    have hpeek : c.peek 0 = [] := by simp [peek, slice]
    simp only [Nat.zero_le, true_and, hpeek]
    rfl

end Steps

/-! ### Reading back what was written

The cursor stands between `pre`, which has been read, and what is to be read. -/

section Written

variable {α β : Type} {pre bs post : Bytes} {n : ℕ}

lemma takeN_append (hn : bs.length = n) :
    takeN n ⟨pre ++ (bs ++ post), pre.length⟩ =
      .ok (bs, ⟨(pre ++ bs) ++ post, (pre ++ bs).length⟩) := by
  rw [takeN_eq_ok]
  refine ⟨?_, ?_, ?_⟩
  · simp only [remaining, length_append]
    omega
  · simp [slice, ← hn]
  · simp [hn]

lemma readBytes_bind {f : Bytes → Reader β} (hn : bs.length = n) :
    (readBytes n >>= f) ⟨pre ++ (bs ++ post), pre.length⟩ =
      f bs ⟨(pre ++ bs) ++ post, (pre ++ bs).length⟩ := by
  show (takeN n _ >>= fun p => f p.1 p.2) = _
  rw [takeN_append hn]
  rfl

lemma takeN_map_bind {g : Bytes → α} {f : α → Reader β} (hn : bs.length = n) :
    ((takeN n >>= fun bs => pure (g bs)) >>= f) ⟨pre ++ (bs ++ post), pre.length⟩ =
      f (g bs) ⟨(pre ++ bs) ++ post, (pre ++ bs).length⟩ := by
  rw [bind_assoc]
  exact readBytes_bind hn

lemma readU8_bind {v : UInt8} {f : UInt8 → Reader β} :
    (readU8 >>= f) ⟨pre ++ (leBytes 1 v.toNat ++ post), pre.length⟩ =
      f v ⟨(pre ++ leBytes 1 v.toNat) ++ post, (pre ++ leBytes 1 v.toNat).length⟩ := by
  refine (takeN_map_bind (length_leBytes ..)).trans ?_
  rw [leNat_leBytes v.toNat_lt, UInt8.ofNat_toNat]

lemma readU16Le_bind {v : UInt16} {f : UInt16 → Reader β} :
    (readU16Le >>= f) ⟨pre ++ (leBytes 2 v.toNat ++ post), pre.length⟩ =
      f v ⟨(pre ++ leBytes 2 v.toNat) ++ post, (pre ++ leBytes 2 v.toNat).length⟩ := by
  refine (takeN_map_bind (length_leBytes ..)).trans ?_
  rw [leNat_leBytes v.toNat_lt, UInt16.ofNat_toNat]

lemma readU32Le_bind {v : UInt32} {f : UInt32 → Reader β} :
    (readU32Le >>= f) ⟨pre ++ (leBytes 4 v.toNat ++ post), pre.length⟩ =
      f v ⟨(pre ++ leBytes 4 v.toNat) ++ post, (pre ++ leBytes 4 v.toNat).length⟩ := by
  refine (takeN_map_bind (length_leBytes ..)).trans ?_
  rw [leNat_leBytes v.toNat_lt, UInt32.ofNat_toNat]

lemma readU64Le_bind {v : UInt64} {f : UInt64 → Reader β} :
    (readU64Le >>= f) ⟨pre ++ (leBytes 8 v.toNat ++ post), pre.length⟩ =
      f v ⟨(pre ++ leBytes 8 v.toNat) ++ post, (pre ++ leBytes 8 v.toNat).length⟩ := by
  refine (takeN_map_bind (length_leBytes ..)).trans ?_
  rw [leNat_leBytes v.toNat_lt, UInt64.ofNat_toNat]

lemma readBuffer_bind {f : Bytes → Reader β} (hn : bs.length = n) (hmax : n ≤ maxUnpackBuffer) :
    (readBuffer n >>= f) ⟨pre ++ (bs ++ post), pre.length⟩ =
      f bs ⟨(pre ++ bs) ++ post, (pre ++ bs).length⟩ := by
  by_cases hpos : n > 0
  · rw [readBuffer, if_pos hpos, readBytesBounded, if_neg (by omega)]
    exact readBytes_bind hn
  · obtain rfl : bs = [] := length_eq_zero_iff.1 (by omega)
    rw [readBuffer, if_neg hpos, pure_bind, append_nil]
    rfl

lemma readUtf16Le_bind {s : List Char} {f : List Char → Reader β} (hn : 2 * Utf16.units s = n) :
    (readUtf16Le n >>= f) ⟨pre ++ (utf16Le s ++ post), pre.length⟩ =
      f s ⟨(pre ++ utf16Le s) ++ post, (pre ++ utf16Le s).length⟩ := by
  rw [readUtf16Le, if_neg (by omega), bind_assoc,
    readBytes_bind ((length_utf16Le s).trans hn), codeUnits_utf16Le, Utf16.decode_encode]
  rfl

variable {c : ReadCursor}

lemma readBuffer_of_gt (hmax : maxUnpackBuffer < n) :
    ∃ e, readBuffer n c = .error e := by
  rw [readBuffer, if_pos (by omega), readBytesBounded, if_pos hmax]
  exact ⟨_, rfl⟩

lemma liftM_bind {x : Except Error α} {a : α} {f : α → Reader β} (h : x = .ok a) :
    ((liftM x : Reader α) >>= f) c = f a c := by
  subst h
  rfl

lemma position_bind {f : ℕ → Reader β} : (position >>= f) c = f c.pos c := rfl

lemma expect_bind {ok : Bool} {e : Error} {f : Unit → Reader β} (h : ok) :
    (expect ok e >>= f) c = f () c := by
  subst h
  rfl

end Written

end ReadCursor

end Smb2
