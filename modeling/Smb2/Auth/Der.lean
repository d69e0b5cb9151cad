import Smb2.Pack

set_option autoImplicit false

/-!
# DER

Tag, length and value, as `auth/der.rs` writes and reads them. A length has one to three bytes when
it is written, and up to four when it is read. `kerberos/authenticator.rs` has a reader of its own,
with other texts and without the longest form.
-/

open List

namespace Smb2

/-! ## Writing -/

def derLength (len : ℕ) : Bytes :=
  if len < 128 then [UInt8.ofNat len]
  else if len < 256 then [0x81, UInt8.ofNat len]
  else [0x82, UInt8.ofNat (len / 256), UInt8.ofNat len]

def derTlv (tag : UInt8) (data : Bytes) : Bytes := tag :: derLength data.length ++ data

lemma length_derTlv (tag : UInt8) (data : Bytes) :
    (derTlv tag data).length =
      data.length + if data.length < 128 then 2 else if data.length < 256 then 3 else 4 := by
  simp only [derTlv, derLength, length_append, length_cons]
  split
  · simp only [length_singleton]
    omega
  · split <;> simp only [length_cons, length_nil] <;> omega

lemma length_lt_derTlv (tag : UInt8) (data : Bytes) : data.length < (derTlv tag data).length := by
  rw [length_derTlv]
  split_ifs <;> omega

/-! ## Reading -/

structure DerReader where
  emptyTlv : String
  emptyLength : String
  truncatedTlv : String
  unsupported : String
  long : Bool

namespace DerReader

variable (R : DerReader)

def parseLength (data : Bytes) : Except Error (ℕ × ℕ) :=
  match data with
  | [] => .error (.invalidData R.emptyLength)
  | first :: rest =>
    if first < 128 then .ok (first.toNat, 1)
    else if first = 0x81 then
      match rest with
      | low :: _ => .ok (low.toNat, 2)
      | _ => .error (.invalidData (R.emptyLength ++ " (0x81)"))
    else if first = 0x82 then
      match rest with
      | high :: low :: _ => .ok (high.toNat * 256 + low.toNat, 3)
      | _ => .error (.invalidData (R.emptyLength ++ " (0x82)"))
    else if first = 0x83 ∧ R.long then
      match rest with
      | high :: mid :: low :: _ => .ok (high.toNat * 65536 + mid.toNat * 256 + low.toNat, 4)
      | _ => .error (.invalidData (R.emptyLength ++ " (0x83)"))
    else .error (.invalidData (R.unsupported ++ "0x" ++ hexByte first))

def parseTlv (data : Bytes) : Except Error (UInt8 × Bytes × ℕ) :=
  match data with
  | [] => .error (.invalidData R.emptyTlv)
  | tag :: rest => do
    let (len, lenBytes) ← R.parseLength rest
    let headerLen := 1 + lenBytes
    let total := headerLen + len
    if data.length < total then
      throw (.invalidData (R.truncatedTlv ++ s!"need {total} bytes, have {data.length}"))
    return (tag, slice data headerLen total, total)

def foldFields {σ : Type} (f : σ → UInt8 → Bytes → Except Error σ) :
    ℕ → σ → Bytes → Except Error σ
  | _, s, [] => .ok s
  | 0, s, _ => .ok s
  | fuel + 1, s, data => do
    let (tag, value, consumed) ← R.parseTlv data
    let s' ← f s tag value
    foldFields f fuel s' (data.drop consumed)

/-- **The loop over the elements of a sequence** (`while pos < data.len()`), with what is done to
each of them as soon as it is read. -/
def eachField {σ : Type} (f : σ → UInt8 → Bytes → Except Error σ) (s : σ) (data : Bytes) :
    Except Error σ :=
  R.foldFields f data.length s data

def parseSequenceFields (data : Bytes) : Except Error (List (UInt8 × Bytes)) :=
  R.eachField (fun fields tag value => .ok (fields ++ [(tag, value)])) [] data

variable {R}

lemma one_le_of_parseLength {data : Bytes} {len lenBytes : ℕ}
    (h : R.parseLength data = .ok (len, lenBytes)) : 1 ≤ lenBytes := by
  unfold parseLength at h
  repeat' split at h
  all_goals cases h
  all_goals omega

lemma two_le_of_parseTlv {data value : Bytes} {tag : UInt8} {total : ℕ}
    (h : R.parseTlv data = .ok (tag, value, total)) : 2 ≤ total ∧ total ≤ data.length := by
  unfold parseTlv at h
  split at h
  · cases h
  · rename_i tag' rest
    cases hlength : R.parseLength rest with
    | error e =>
      rw [hlength] at h
      cases h
    | ok x =>
      obtain ⟨len, lenBytes⟩ := x
      have hpos := one_le_of_parseLength hlength
      simp only [hlength] at h
      change (if _ then _ else _) = _ at h
      split at h
      · cases h
      · rename_i hlen
        have hpair := Except.ok.inj h
        obtain ⟨-, -, rfl⟩ : _ ∧ _ ∧ _ := by simpa using hpair
        omega

variable {σ : Type} {f : σ → UInt8 → Bytes → Except Error σ}

/-- What follows an element sees only that the element took at least two bytes. -/
lemma parseTlv_bind_congr {α : Type} {data : Bytes} {g g' : UInt8 × Bytes × ℕ → Except Error α}
    (h : ∀ x, 2 ≤ x.2.2 → g x = g' x) : (R.parseTlv data >>= g) = (R.parseTlv data >>= g') := by
  cases htlv : R.parseTlv data with
  | error e => rfl
  | ok x => exact h x (two_le_of_parseTlv htlv).1

lemma foldFields_eq_of_length_le {fuel fuel' : ℕ} {s : σ} {data : Bytes} (h : data.length ≤ fuel)
    (h' : data.length ≤ fuel') : R.foldFields f fuel s data = R.foldFields f fuel' s data := by
  induction fuel generalizing fuel' s data with
  | zero =>
    obtain rfl := eq_nil_of_length_eq_zero (Nat.le_zero.1 h)
    cases fuel' <;> rfl
  | succ fuel ih =>
    cases data with
    | nil => cases fuel' <;> rfl
    | cons b bs =>
      obtain ⟨n, rfl⟩ : ∃ n, fuel' = n + 1 := by
        cases fuel' with
        | zero => simp at h'
        | succ n => exact ⟨n, rfl⟩
      simp only [foldFields]
      refine parseTlv_bind_congr ?_
      rintro ⟨_, _, consumed⟩ htwo
      congr 1
      funext s'
      dsimp only at htwo ⊢
      exact ih (by rw [length_drop]; omega) (by rw [length_drop]; omega)

/-- **The loop ends when nothing is left**, and not before. -/
theorem eachField_eq (s : σ) (data : Bytes) :
    R.eachField f s data =
      if data = [] then .ok s
      else R.parseTlv data >>= fun x =>
        f s x.1 x.2.1 >>= fun s' => R.eachField f s' (data.drop x.2.2) := by
  cases data with
  | nil => rfl
  | cons b bs =>
    rw [if_neg (cons_ne_nil b bs), eachField, length_cons]
    simp only [foldFields]
    refine parseTlv_bind_congr ?_
    rintro ⟨_, _, consumed⟩ htwo
    congr 1
    funext s'
    refine foldFields_eq_of_length_le ?_ (Nat.le_refl _)
    dsimp only at htwo ⊢
    rw [length_drop, length_cons]
    omega

/-! ## What was written is read back -/

lemma parseLength_derLength {len : ℕ} (h : len < 65536) (rest : Bytes) :
    R.parseLength (derLength len ++ rest) = .ok (len, (derLength len).length) := by
  unfold derLength
  split
  · rename_i hshort
    have hlt : UInt8.ofNat len < 128 := by
      rw [UInt8.lt_iff_toNat_lt, UInt8.toNat_ofNat']
      exact Nat.lt_of_le_of_lt (Nat.mod_le _ _) hshort
    show (if UInt8.ofNat len < 128 then _ else _) = _
    rw [if_pos hlt, UInt8.toNat_ofNat', Nat.mod_eq_of_lt (by omega)]
    rfl
  · split
    · show Except.ok ((UInt8.ofNat len).toNat, 2) = _
      rw [UInt8.toNat_ofNat', Nat.mod_eq_of_lt (by omega)]
      rfl
    · show Except.ok ((UInt8.ofNat (len / 256)).toNat * 256 + (UInt8.ofNat len).toNat, 3) = _
      rw [UInt8.toNat_ofNat', UInt8.toNat_ofNat', Nat.mod_eq_of_lt (by omega), Nat.div_add_mod' len 256]
      rfl

lemma parseTlv_derTlv {data : Bytes} (h : data.length < 65536) (tag : UInt8) (rest : Bytes) :
    R.parseTlv (derTlv tag data ++ rest) = .ok (tag, data, (derTlv tag data).length) := by
  have hlen : (derTlv tag data).length = 1 + (derLength data.length).length + data.length := by
    simp only [derTlv, length_append, length_cons]
    omega
  have hlength : R.parseLength (derLength data.length ++ data ++ rest) =
      .ok (data.length, (derLength data.length).length) := by
    rw [append_assoc]
    exact parseLength_derLength h _
  have hslice : slice (derTlv tag data ++ rest) (1 + (derLength data.length).length)
      (1 + (derLength data.length).length + data.length) = data := by
    have hparts : derTlv tag data ++ rest = (tag :: derLength data.length) ++ (data ++ rest) := by
      simp [derTlv]
    rw [hparts, Nat.add_comm 1, ← length_cons]
    exact slice_append ..
  rw [hlen]
  show (R.parseLength (derLength data.length ++ data ++ rest) >>= fun _ => _) = _
  rw [hlength]
  show (if (derTlv tag data ++ rest).length < _ then _ else _) = _
  rw [if_neg (by rw [length_append]; omega)]
  show Except.ok (tag, slice (derTlv tag data ++ rest) _ _, _) = _
  rw [hslice]

lemma parseTlv_derTlv_of_le {data : Bytes} (h : 65536 ≤ data.length) (tag : UInt8) (rest : Bytes) :
    R.parseTlv (derTlv tag data ++ rest) ≠ .ok (tag, data, (derTlv tag data).length) := by
  intro hparse
  have hlong : derLength data.length =
      [0x82, UInt8.ofNat (data.length / 256), UInt8.ofNat data.length] := by
    rw [derLength, if_neg (by omega), if_neg (by omega)]
  have htotal : (derTlv tag data).length = 4 + data.length := by
    simp only [derTlv, hlong, length_append, length_cons, length_nil]
  have hread : R.parseLength (derLength data.length ++ data ++ rest) =
      .ok (data.length % 65536, 3) := by
    rw [hlong]
    show Except.ok ((UInt8.ofNat (data.length / 256)).toNat * 256 +
      (UInt8.ofNat data.length).toNat, 3) = _
    rw [UInt8.toNat_ofNat', UInt8.toNat_ofNat']
    congr 2
    omega
  replace hparse : (R.parseLength (derLength data.length ++ data ++ rest) >>= fun _ => _) = _ :=
    hparse
  rw [hread] at hparse
  replace hparse : (if (derTlv tag data ++ rest).length < _ then _ else _) = _ := hparse
  rw [if_neg (by rw [length_append]; omega)] at hparse
  have hconsumed : 1 + 3 + data.length % 65536 = (derTlv tag data).length :=
    congrArg (fun x : UInt8 × Bytes × ℕ => x.2.2) (Except.ok.inj hparse)
  omega

lemma eachField_derTlv {data : Bytes} (h : data.length < 65536) (tag : UInt8) (s : σ) (rest : Bytes) :
    R.eachField f s (derTlv tag data ++ rest) =
      f s tag data >>= fun s' => R.eachField f s' rest := by
  rw [eachField_eq, if_neg (by simp [derTlv]), parseTlv_derTlv h]
  show (f s tag data >>= fun s' => R.eachField f s' ((derTlv tag data ++ rest).drop _)) = _
  rw [drop_left]

end DerReader

/-! ## The two readers -/

def derReader : DerReader where
  emptyTlv := "DER: truncated TLV"
  emptyLength := "DER: truncated length"
  truncatedTlv := "DER: TLV truncated: "
  unsupported := "DER: unsupported length encoding: "
  long := true

def derReaderLocal : DerReader where
  emptyTlv := "Kerberos: truncated DER TLV"
  emptyLength := "Kerberos: truncated DER length"
  truncatedTlv := "Kerberos: DER TLV truncated: "
  unsupported := "Kerberos: unsupported DER length encoding: "
  long := false

def parseDerTlv (data : Bytes) : Except Error (UInt8 × Bytes × ℕ) := derReader.parseTlv data

def parseDerTlvLocal (data : Bytes) : Except Error (UInt8 × Bytes × ℕ) :=
  derReaderLocal.parseTlv data

example : parseDerTlv (derTlv 0x30 (replicate 300 7) ++ [1, 2]) =
    .ok (0x30, replicate 300 7, 304) := by decide +kernel

end Smb2
