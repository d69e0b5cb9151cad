import Mathlib.Data.Nat.Notation
import Mathlib.Tactic.Common

set_option autoImplicit false

/-!
# UTF-16

Strings, as lists of characters, and their UTF-16 code units. A character outside the basic
multilingual plane is a pair of surrogates; a surrogate without its partner is not a string.
-/

open List

namespace Utf16

def encodeChar (c : Char) : List UInt16 :=
  if c.toNat < 0x10000 then [UInt16.ofNat c.toNat]
  else
    [UInt16.ofNat (0xD800 + (c.toNat - 0x10000) / 0x400),
      UInt16.ofNat (0xDC00 + (c.toNat - 0x10000) % 0x400)]

def encode (s : List Char) : List UInt16 := s.flatMap encodeChar

def pair (high low : UInt16) : Char :=
  Char.ofNat (0x10000 + (high.toNat - 0xD800) * 0x400 + (low.toNat - 0xDC00))

def decode : List UInt16 → Option (List Char)
  | [] => some []
  | u :: us =>
    if u.toNat < 0xD800 ∨ 0xDFFF < u.toNat then (decode us).map (Char.ofNat u.toNat :: ·)
    else if 0xDC00 ≤ u.toNat then none
    else
      match us with
      | [] => none
      | v :: us =>
        if 0xDC00 ≤ v.toNat ∧ v.toNat ≤ 0xDFFF then (decode us).map (pair u v :: ·) else none

lemma decode_encodeChar_append (c : Char) (us : List UInt16) :
    decode (encodeChar c ++ us) = (decode us).map (c :: ·) := by
  have hvalid : c.toNat < 0xD800 ∨ 0xDFFF < c.toNat ∧ c.toNat < 0x110000 := c.valid
  unfold encodeChar
  split
  · rename_i hbmp
    have hunit : (UInt16.ofNat c.toNat).toNat = c.toNat := UInt16.toNat_ofNat_of_lt' hbmp
    have hplain : c.toNat < 0xD800 ∨ 0xDFFF < c.toNat := by omega
    rw [singleton_append, decode.eq_def]
    dsimp only
    rw [hunit, if_pos hplain, Char.ofNat_toNat]
  · rename_i hbmp
    have hhigh : (UInt16.ofNat (0xD800 + (c.toNat - 0x10000) / 0x400)).toNat =
        0xD800 + (c.toNat - 0x10000) / 0x400 :=
      UInt16.toNat_ofNat_of_lt' (show _ < 65536 by omega)
    have hlow : (UInt16.ofNat (0xDC00 + (c.toNat - 0x10000) % 0x400)).toNat =
        0xDC00 + (c.toNat - 0x10000) % 0x400 :=
      UInt16.toNat_ofNat_of_lt' (show _ < 65536 by omega)
    have hchar : 0x10000 + (0xD800 + (c.toNat - 0x10000) / 0x400 - 0xD800) * 0x400 +
        (0xDC00 + (c.toNat - 0x10000) % 0x400 - 0xDC00) = c.toNat := by omega
    rw [cons_append, singleton_append, decode, pair, hhigh, hlow, if_neg (by omega),
      if_neg (by omega), if_pos (by omega), hchar, Char.ofNat_toNat]

/-- **Round trip.** A string is read back from its code units. -/
theorem decode_encode (s : List Char) : decode (encode s) = some s := by
  induction s with
  | nil => rfl
  | cons c s ih =>
    rw [encode, flatMap_cons, decode_encodeChar_append]
    show (decode (encode s)).map _ = _
    rw [ih]
    rfl

lemma toNat_ofNat {n : ℕ} (h : n.isValidChar) : (Char.ofNat n).toNat = n := by
  rw [Char.ofNat, dif_pos h]
  rfl

lemma encodeChar_pair {u v : UInt16} (hu : 0xD800 ≤ u.toNat) (hu' : u.toNat < 0xDC00)
    (hv : 0xDC00 ≤ v.toNat) (hv' : v.toNat ≤ 0xDFFF) : encodeChar (pair u v) = [u, v] := by
  have hchar : (pair u v).toNat = 0x10000 + (u.toNat - 0xD800) * 0x400 + (v.toNat - 0xDC00) := by
    rw [pair, toNat_ofNat (show Nat.isValidChar _ from .inr (by omega))]
  have hhigh : 0xD800 + (0x10000 + (u.toNat - 0xD800) * 0x400 + (v.toNat - 0xDC00) - 0x10000) /
      0x400 = u.toNat := by omega
  have hlow : 0xDC00 + (0x10000 + (u.toNat - 0xD800) * 0x400 + (v.toNat - 0xDC00) - 0x10000) %
      0x400 = v.toNat := by omega
  rw [encodeChar, hchar, if_neg (by omega), hhigh, hlow, UInt16.ofNat_toNat, UInt16.ofNat_toNat]

lemma encodeChar_ofNat {u : UInt16} (hu : u.toNat < 0xD800 ∨ 0xDFFF < u.toNat) :
    encodeChar (Char.ofNat u.toNat) = [u] := by
  have hlt := u.toNat_lt
  have hchar : (Char.ofNat u.toNat).toNat = u.toNat := by
    rw [toNat_ofNat (show Nat.isValidChar _ from by rw [Nat.isValidChar]; omega)]
  rw [encodeChar, hchar, if_pos (by omega), UInt16.ofNat_toNat]

/-- **Round trip, the other way.** What decodes is the encoding of the result. -/
theorem encode_of_decode {us : List UInt16} {s : List Char} (h : decode us = some s) :
    encode s = us := by
  induction us using decode.induct generalizing s with
  | case1 =>
    obtain rfl : [] = s := by simpa [decode] using h
    rfl
  | case2 u us hplain ih =>
    rw [decode.eq_def] at h
    simp only [if_pos hplain, Option.map_eq_some_iff] at h
    obtain ⟨s', hs', rfl⟩ := h
    rw [encode, flatMap_cons, encodeChar_ofNat hplain]
    exact congrArg (u :: ·) (ih hs')
  | case3 u us hplain hlow =>
    rw [decode.eq_def] at h
    simp [hplain, hlow] at h
  | case4 u hplain hlow =>
    rw [decode.eq_def] at h
    simp [hplain, hlow] at h
  | case5 u hplain hlow v us hpair ih =>
    rw [decode.eq_def] at h
    simp only [if_neg hplain, if_neg hlow, if_pos hpair, Option.map_eq_some_iff] at h
    obtain ⟨s', hs', rfl⟩ := h
    rw [encode, flatMap_cons, encodeChar_pair (by omega) (by omega) hpair.1 hpair.2]
    exact congrArg (fun t => u :: v :: t) (ih hs')
  | case6 u hplain hlow v us hpair =>
    rw [decode.eq_def] at h
    simp [hplain, hlow, hpair] at h

/-! ## Length -/

def units (s : List Char) : ℕ := (encode s).length

@[simp] lemma units_nil : units [] = 0 := rfl

@[simp] lemma units_append (s t : List Char) : units (s ++ t) = units s + units t := by
  simp [units, encode]

lemma units_cons (c : Char) (s : List Char) : units (c :: s) = units [c] + units s :=
  units_append [c] s

lemma units_singleton {c : Char} (h : c.toNat < 0x10000) : units [c] = 1 := by
  simp [units, encode, encodeChar, h]

lemma units_eq_zero {s : List Char} : units s = 0 ↔ s = [] := by
  constructor
  · intro h
    have hdecode := decode_encode s
    rw [length_eq_zero_iff.1 h] at hdecode
    exact (Option.some.inj hdecode).symm
  · rintro rfl
    rfl

end Utf16
