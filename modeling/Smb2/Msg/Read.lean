import Smb2.Pack

set_option autoImplicit false

/-!
# READ responses

The body of a READ response (`msg/read.rs`): sixteen fixed bytes, then the data.
-/

namespace Smb2

structure ReadResponse where
  dataOffset : UInt8
  dataRemaining : UInt32
  flags : UInt32
  data : Bytes
deriving DecidableEq, Repr

namespace ReadResponse

open ReadCursor

def structureSize : UInt16 := 17

def pack (r : ReadResponse) : Bytes :=
  leBytes 2 structureSize.toNat ++ (leBytes 1 r.dataOffset.toNat ++ (leBytes 1 0 ++
    (leBytes 4 r.data.length ++ (leBytes 4 r.dataRemaining.toNat ++
    (leBytes 4 r.flags.toNat ++ r.data)))))

def unpack : Reader ReadResponse := do
  let size ← readU16Le
  expect (size = structureSize)
    (.invalidData s!"invalid ReadResponse structure size: expected 17, got {size}")
  let dataOffset ← readU8
  let _ ← readU8
  let dataLength ← readU32Le
  let dataRemaining ← readU32Le
  let flags ← readU32Le
  let data ← readBuffer dataLength.toNat
  return { dataOffset, dataRemaining, flags, data }

variable {r : ReadResponse} {post : Bytes}

lemma unpack_pack_fixed (post : Bytes) (hlen : r.data.length < 2 ^ 32) :
    ∃ pre : Bytes, pre.length = 16 ∧ unpack (.new (r.pack ++ post)) =
      (readBuffer r.data.length >>= fun data => pure { r with data := data })
        ⟨pre ++ (r.data ++ post), pre.length⟩ := by
  have hstart : ReadCursor.new (r.pack ++ post) = ⟨[] ++ (r.pack ++ post), ([] : Bytes).length⟩ :=
    rfl
  have hnum : (UInt32.ofNat r.data.length).toNat = r.data.length := by
    rw [UInt32.toNat_ofNat']
    exact Nat.mod_eq_of_lt hlen
  have hdata : leBytes 4 r.data.length = leBytes 4 (UInt32.ofNat r.data.length).toNat := by
    rw [hnum]
  have hzero : leBytes 1 0 = leBytes 1 (0 : UInt8).toNat := rfl
  refine ⟨leBytes 2 structureSize.toNat ++ leBytes 1 r.dataOffset.toNat ++ leBytes 1 0 ++
    leBytes 4 r.data.length ++ leBytes 4 r.dataRemaining.toNat ++ leBytes 4 r.flags.toNat,
    by simp, ?_⟩
  rw [hstart]
  simp only [pack, List.append_assoc]
  rw [hdata, hzero, unpack, readU16Le_bind, expect_bind (by rfl), readU8_bind, readU8_bind,
    readU32Le_bind, readU32Le_bind, readU32Le_bind, hnum]
  simp only [List.append_assoc, List.nil_append]

/-- **A response that is accepted** in the layout of `pack` is the one that was packed. -/
theorem eq_of_unpack_pack (hlen : r.data.length < 2 ^ 32) {r' : ReadResponse} {c : ReadCursor}
    (hok : unpack (.new (r.pack ++ post)) = .ok (r', c)) : r' = r := by
  obtain ⟨pre, -, hfixed⟩ := unpack_pack_fixed post hlen
  rw [hfixed] at hok
  by_cases hmax : r.data.length ≤ maxUnpackBuffer
  · rw [readBuffer_bind rfl hmax] at hok
    exact (pure_eq_ok.1 hok).1
  · obtain ⟨_, _, hread, -⟩ := bind_eq_ok.1 hok
    obtain ⟨e, he⟩ := readBuffer_of_gt (n := r.data.length) (by omega)
    rw [he] at hread
    cases hread

theorem unpack_pack (post : Bytes) (hmax : r.data.length ≤ maxUnpackBuffer) :
    ∃ c, unpack (.new (r.pack ++ post)) = .ok (r, c) := by
  have hlen : r.data.length < 2 ^ 32 := Nat.lt_of_le_of_lt hmax (by decide)
  obtain ⟨pre, -, hfixed⟩ := unpack_pack_fixed post hlen
  rw [hfixed, readBuffer_bind rfl hmax]
  exact ⟨_, rfl⟩

/-- **The data of an accepted response** is what follows the sixteen fixed bytes; the offset field
plays no part. -/
theorem data_of_unpack {body : Bytes} {c : ReadCursor} (hok : unpack (.new body) = .ok (r, c)) :
    r.data = slice body 16 (16 + leNat (slice body 4 8)) := by
  rw [unpack] at hok
  simp only [readU16Le_then, expect_then, readU8_then, readU32Le_then, readBuffer_then,
    pure_eq_ok_pair, toNat_u32_peek] at hok
  obtain ⟨-, -, -, -, -, -, -, -, -, hr⟩ := hok
  obtain ⟨rfl, -⟩ := Prod.mk.inj hr
  rfl

end ReadResponse

end Smb2
