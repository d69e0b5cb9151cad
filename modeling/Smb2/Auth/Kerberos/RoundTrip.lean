import Mathlib.Tactic.Linarith
import Mathlib.Tactic.Ring
import Smb2.Auth.Kerberos.Messages

set_option autoImplicit false

/-!
# Kerberos structures are read back

Integers are written in two's complement, without bytes that only repeat the sign, and a ticket is
read back together with its bytes.
-/

open List

namespace Smb2.Kerberos

/-! ## Integers -/

def signOf : Bytes → ℤ
  | [] => 0
  | first :: _ => if first &&& 0x80 ≠ 0 then -1 else 0

def shift (val : ℤ) (data : Bytes) : ℤ := data.foldl (fun val b => val * 256 + b.toNat) val

/-- **The integer that bytes spell** in two's complement. -/
def integerOf (data : Bytes) : ℤ := shift (signOf data) data

lemma high_iff (b : UInt8) : b &&& 0x80 ≠ 0 ↔ 128 ≤ b.toNat := by
  have hall : ∀ n < 256, n &&& 128 ≠ 0 ↔ 128 ≤ n := by decide +kernel
  rw [← hall b.toNat b.toNat_lt, ne_eq, ← UInt8.toNat_inj, UInt8.toNat_and]
  rfl

lemma shift_eq (val : ℤ) (data : Bytes) :
    shift val data = val * 256 ^ data.length + shift 0 data := by
  induction data generalizing val with
  | nil => simp [shift]
  | cons b data ih =>
    show shift (val * 256 + b.toNat) data = _ + shift (0 * 256 + b.toNat) data
    rw [ih (val * 256 + b.toNat), ih (0 * 256 + b.toNat), length_cons]
    ring

lemma shift_zero_bounds (data : Bytes) : 0 ≤ shift 0 data ∧ shift 0 data < 256 ^ data.length := by
  induction data with
  | nil => simp [shift]
  | cons b data ih =>
    have hb := b.toNat_lt
    have hpow : (0 : ℤ) < 256 ^ data.length := by positivity
    show 0 ≤ shift (0 * 256 + b.toNat) data ∧ shift (0 * 256 + b.toNat) data < _
    rw [shift_eq, length_cons, pow_succ]
    constructor
    · nlinarith [ih.1]
    · nlinarith [ih.2]

lemma signOf_cons (b : UInt8) (rest : Bytes) :
    signOf (b :: rest) = 0 ∧ b.toNat < 128 ∨ signOf (b :: rest) = -1 ∧ 128 ≤ b.toNat := by
  have hhigh := high_iff b
  rw [signOf]
  split
  · rename_i h
    exact .inr ⟨rfl, hhigh.1 h⟩
  · rename_i h
    exact .inl ⟨rfl, Nat.not_le.1 fun hle => h (hhigh.2 hle)⟩

lemma integerOf_bounds (b : UInt8) (rest : Bytes) :
    -(128 * 256 ^ rest.length) ≤ integerOf (b :: rest) ∧
      integerOf (b :: rest) < 128 * 256 ^ rest.length := by
  have hb := b.toNat_lt
  have hrest := shift_zero_bounds rest
  have hpow : (0 : ℤ) < 256 ^ rest.length := by positivity
  have hvalue : integerOf (b :: rest) =
      (signOf (b :: rest) * 256 + b.toNat) * 256 ^ rest.length + shift 0 rest :=
    shift_eq (signOf (b :: rest) * 256 + b.toNat) rest
  rw [hvalue]
  rcases signOf_cons b rest with ⟨hsign, hbyte⟩ | ⟨hsign, hbyte⟩ <;> rw [hsign] <;>
    constructor <;> nlinarith

lemma length_le_of_integerOf_eq {b c : UInt8} {rest data : Bytes} {q : ℤ}
    (hq : (signOf (b :: c :: rest) * 256 + b.toNat) * 256 + c.toNat = q)
    (hlarge : q < -128 ∨ 128 ≤ q) (hne : data ≠ [])
    (h : integerOf data = integerOf (b :: c :: rest)) :
    (b :: c :: rest).length ≤ data.length := by
  by_contra hshort
  obtain ⟨d, data, rfl⟩ := exists_cons_of_ne_nil hne
  obtain ⟨hlow, hupp⟩ := integerOf_bounds d data
  have hpow : (256 : ℤ) ^ data.length ≤ 256 ^ rest.length := by
    refine pow_le_pow_right₀ (by norm_num) ?_
    simp only [length_cons] at hshort
    omega
  have hvalue : integerOf (b :: c :: rest) = q * 256 ^ rest.length + shift 0 rest := by
    rw [← hq]
    exact shift_eq ((signOf (b :: c :: rest) * 256 + b.toNat) * 256 + c.toNat) rest
  have hrest := shift_zero_bounds rest
  have hP : (0 : ℤ) < 256 ^ rest.length := by positivity
  rw [h, hvalue] at hlow hupp
  rcases hlarge with hneg | hpos
  · nlinarith
  · nlinarith

lemma trimInteger_spec {filler sign : UInt8} {σ : ℤ} (hfiller : σ * 256 + filler.toNat = σ)
    (hsign : ∀ (b : UInt8) (rest : Bytes), b &&& 0x80 = sign ↔ signOf (b :: rest) = σ)
    {data : Bytes} (hne : data ≠ []) (hdata : signOf data = σ) :
    trimInteger filler sign data ≠ [] ∧ integerOf (trimInteger filler sign data) = integerOf data ∧
      ∀ other ≠ [], integerOf other = integerOf data →
        (trimInteger filler sign data).length ≤ other.length := by
  induction data with
  | nil => exact absurd rfl hne
  | cons b tail ih =>
    cases tail with
    | nil => exact ⟨hne, rfl, fun other hother _ => length_pos_iff.2 hother⟩
    | cons c rest =>
      by_cases hcond : b = filler ∧ c &&& 0x80 = sign
      · rw [trimInteger, if_pos hcond]
        have hstart := (hsign c rest).1 hcond.2
        have hvalue : integerOf (b :: c :: rest) = integerOf (c :: rest) := by
          show shift (signOf (b :: c :: rest) * 256 + b.toNat) (c :: rest) = _
          rw [hdata, hcond.1, hfiller, integerOf, hstart]
        rw [hvalue]
        exact ih (cons_ne_nil c rest) hstart
      · rw [trimInteger, if_neg hcond]
        refine ⟨hne, rfl, fun other hother h => length_le_of_integerOf_eq rfl ?_ hother h⟩
        by_contra hsmall
        have hb := b.toNat_lt
        have hc := c.toNat_lt
        have hf := filler.toNat_lt
        refine hcond ⟨UInt8.toNat_inj.1 ?_, (hsign c rest).2 ?_⟩
        · rcases signOf_cons b (c :: rest) with ⟨h, hbyte⟩ | ⟨h, hbyte⟩ <;>
            rw [h] at hsmall hdata <;> omega
        · rcases signOf_cons b (c :: rest) with ⟨h, hbyte⟩ | ⟨h, hbyte⟩ <;>
            rcases signOf_cons c rest with ⟨h', hbyte'⟩ | ⟨h', hbyte'⟩ <;>
            rw [h] at hsmall hdata <;> omega

lemma shift_beBytes {k n : ℕ} (h : n < 256 ^ k) : shift 0 (beBytes k n) = n := by
  induction k generalizing n with
  | zero =>
    obtain rfl : n = 0 := by simpa using h
    rfl
  | succ k ih =>
    have hdiv : n / 256 < 256 ^ k := Nat.div_lt_of_lt_mul (by rw [Nat.pow_succ] at h; omega)
    have hsplit : beBytes (k + 1) n = beBytes k (n / 256) ++ [UInt8.ofNat n] := by
      simp [beBytes, leBytes]
    have hlast : shift 0 (beBytes k (n / 256) ++ [UInt8.ofNat n]) =
        shift 0 (beBytes k (n / 256)) * 256 + (UInt8.ofNat n).toNat := by
      simp [shift]
    rw [hsplit, hlast, ih hdiv, UInt8.toNat_ofNat']
    omega

lemma integerOf_beBytes {k n : ℕ} (h : n < 256 ^ (k + 1)) :
    signOf (beBytes (k + 1) n) = (if n < 128 * 256 ^ k then 0 else -1) ∧
      integerOf (beBytes (k + 1) n) = signOf (beBytes (k + 1) n) * 256 ^ (k + 1) + n := by
  have hlen : (beBytes (k + 1) n).length = k + 1 := by simp [beBytes]
  obtain ⟨b, rest, hcons⟩ : ∃ b rest, beBytes (k + 1) n = b :: rest :=
    exists_cons_of_length_eq_add_one hlen
  have hvalue : integerOf (beBytes (k + 1) n) = signOf (beBytes (k + 1) n) * 256 ^ (k + 1) + n := by
    rw [integerOf, shift_eq, hlen, shift_beBytes h]
  refine ⟨?_, hvalue⟩
  have hrest : rest.length = k := by
    rw [hcons, length_cons] at hlen
    omega
  have hbounds := integerOf_bounds b rest
  have hP : (0 : ℤ) < 256 ^ k := by positivity
  rw [← hcons, hvalue, hrest, pow_succ] at hbounds
  have hsign := signOf_cons b rest
  rw [← hcons] at hsign
  split
  · rename_i hsmall
    have hsmall' : (n : ℤ) < 128 * 256 ^ k := by exact_mod_cast hsmall
    rcases hsign with ⟨hzero, -⟩ | ⟨hneg, -⟩
    · exact hzero
    · rw [hneg] at hbounds
      linarith
  · rename_i hlarge
    have hlarge' : 128 * 256 ^ k ≤ (n : ℤ) := by exact_mod_cast Nat.not_lt.1 hlarge
    rcases hsign with ⟨hzero, -⟩ | ⟨hneg, -⟩
    · rw [hzero] at hbounds
      linarith
    · exact hneg

/-- **The minimal encoding of an integer**: an INTEGER element that spells it, with no more bytes than
any other that does. -/
def Minimal (val : ℤ) (encoding : Bytes) : Prop :=
  ∃ content, encoding = derTlv 0x02 content ∧ content ≠ [] ∧ content.length ≤ 8 ∧
    integerOf content = val ∧ ∀ other ≠ [], integerOf other = val → content.length ≤ other.length

lemma minimal_trimInteger {k n : ℕ} (h : n < 256 ^ (k + 1)) (hk : k < 8) {filler sign : UInt8}
    {σ : ℤ} (hfiller : σ * 256 + filler.toNat = σ)
    (hsign : ∀ (b : UInt8) (rest : Bytes), b &&& 0x80 = sign ↔ signOf (b :: rest) = σ)
    (hσ : signOf (beBytes (k + 1) n) = σ) :
    Minimal (σ * 256 ^ (k + 1) + n)
      (derTlv 0x02 (trimInteger filler sign (beBytes (k + 1) n))) := by
  have hvalue := (integerOf_beBytes h).2
  have hlen : (beBytes (k + 1) n).length = k + 1 := by simp [beBytes]
  have hne : beBytes (k + 1) n ≠ [] := by
    intro hnil
    rw [hnil] at hlen
    exact absurd hlen (by simp)
  obtain ⟨hne', hint, hmin⟩ := trimInteger_spec hfiller hsign hne hσ
  rw [hσ] at hvalue
  rw [hvalue] at hint hmin
  have hle := hmin _ hne hvalue
  exact ⟨_, rfl, hne', by omega, hint, hmin⟩

lemma and_high_eq_zero_iff (b : UInt8) (rest : Bytes) :
    b &&& 0x80 = 0 ↔ signOf (b :: rest) = 0 := by
  rw [signOf]
  split <;> simp_all

lemma and_high_eq_high_iff (b : UInt8) (rest : Bytes) :
    b &&& 0x80 = 0x80 ↔ signOf (b :: rest) = -1 := by
  have hall : ∀ n < 256, n &&& 128 ≠ 0 ↔ n &&& 128 = 128 := by decide +kernel
  have hbyte : b &&& 0x80 ≠ 0 ↔ b &&& 0x80 = 0x80 := by
    rw [ne_eq, ← UInt8.toNat_inj, ← UInt8.toNat_inj, UInt8.toNat_and]
    exact hall b.toNat b.toNat_lt
  rw [← hbyte, signOf]
  split <;> simp_all

lemma minimal_derInteger (val : Int32) : Minimal val.toInt (derInteger val) := by
  have hlt : val.toUInt32.toNat < 256 ^ (3 + 1) := val.toUInt32.toNat_lt
  have htoInt : val.toInt =
      if 2 * val.toUInt32.toNat < 2 ^ 32 then (val.toUInt32.toNat : ℤ)
      else val.toUInt32.toNat - 2 ^ 32 := BitVec.toInt_eq_toNat_cond _
  have hsign := (integerOf_beBytes hlt).1
  rw [derInteger]
  by_cases hpos : 0 ≤ val
  · have hnonneg : 0 ≤ val.toInt := Int32.le_iff_toInt_le.1 hpos
    rw [if_pos (by omega)] at hsign
    rw [if_pos hpos, show val.toInt = 0 * 256 ^ (3 + 1) + val.toUInt32.toNat by omega]
    exact minimal_trimInteger hlt (by omega) rfl and_high_eq_zero_iff hsign
  · have hneg : val.toInt < 0 := Int.not_le.1 (fun h => hpos (Int32.le_iff_toInt_le.2 h))
    rw [if_neg (by omega)] at hsign
    rw [if_neg hpos, show val.toInt = -1 * 256 ^ (3 + 1) + val.toUInt32.toNat by omega]
    exact minimal_trimInteger hlt (by omega) rfl and_high_eq_high_iff hsign

lemma minimal_derIntegerU32 (val : UInt32) : Minimal val.toNat (derIntegerU32 val) := by
  have hval := val.toNat_lt
  have hlt : val.toNat < 256 ^ (7 + 1) := by omega
  have hsign := (integerOf_beBytes hlt).1
  rw [if_pos (by omega)] at hsign
  rw [show (val.toNat : ℤ) = 0 * 256 ^ (7 + 1) + val.toNat by omega]
  exact minimal_trimInteger hlt (by omega) rfl and_high_eq_zero_iff hsign

lemma parseDerInteger_of_minimal {val : ℤ} {encoding : Bytes} (h : Minimal val encoding)
    (rest : Bytes) : parseDerInteger (encoding ++ rest) = .ok (Int32.ofInt val) := by
  obtain ⟨content, rfl, hne, hlen, rfl, -⟩ := h
  obtain ⟨first, content, rfl⟩ := exists_cons_of_ne_nil hne
  simp only [parseDerInteger, parseIntegerBy, parseTagged, bind, Except.bind,
    DerReader.parseTlv_derTlv (show (first :: content).length < 65536 by omega)]
  rfl

lemma parseDerInteger_derInteger (val : Int32) (rest : Bytes) :
    parseDerInteger (derInteger val ++ rest) = .ok val := by
  rw [parseDerInteger_of_minimal (minimal_derInteger val), Int32.ofInt_toInt]

lemma parseDerIntegerU32_derIntegerU32 (val : UInt32) (rest : Bytes) :
    parseDerIntegerU32 (derIntegerU32 val ++ rest) = .ok val := by
  rw [parseDerIntegerU32, parseDerInteger_of_minimal (minimal_derIntegerU32 val)]
  show Except.ok (Int32.ofInt val.toNat).toUInt32 = _
  rw [Int32.ofInt_eq_ofNat, Int32.toUInt32_ofNat', UInt32.ofNat_toNat]

/-! ## Structures -/

lemma fromUtf8_utf8 (s : List Char) : fromUtf8 (utf8 s) = some s := by
  have harray : ByteArray.mk (utf8 s).toArray = s.utf8Encode := by
    refine ByteArray.ext ?_
    rw [utf8Encode, data_toByteArray]
    rfl
  rw [fromUtf8, harray, utf8Decode?_utf8Encode]
  rfl

def elements (fields : List (UInt8 × Bytes)) : List Bytes := fields.map fun f => derTlv f.1 f.2

lemma parseTagged_derTlv {tag : UInt8} {what : String} {data : Bytes} (h : data.length < 65536) :
    parseTagged derReader tag what (derTlv tag data) = .ok data := by
  have hparse := DerReader.parseTlv_derTlv (R := derReader) h tag []
  rw [append_nil] at hparse
  simp [parseTagged, hparse, bind, Except.bind, pure, Except.pure]

lemma length_lt_of_mem {fields : List (UInt8 × Bytes)} {f : UInt8 × Bytes} {n : ℕ}
    (h : (elements fields).flatten.length < n) (hf : f ∈ fields) : f.2.length < n := by
  have hle := Sublist.length_le (sublist_flatten_of_mem
    (mem_map_of_mem (f := fun f : UInt8 × Bytes => derTlv f.1 f.2) hf))
  exact (length_lt_derTlv f.1 f.2).trans (hle.trans_lt h)

lemma parseSequence_derSequence {what : String} {fields : List (UInt8 × Bytes)}
    (h : (elements fields).flatten.length < 65536) :
    parseSequence what (derSequence (elements fields)) = .ok fields := by
  have hloop (done todo : List (UInt8 × Bytes)) (htodo : ∀ f ∈ todo, f.2.length < 65536) :
      derReader.eachField (fun fields tag value => .ok (fields ++ [(tag, value)])) done
        (elements todo).flatten = .ok (done ++ todo) := by
    induction todo generalizing done with
    | nil =>
      rw [append_nil]
      rfl
    | cons f todo ih =>
      rw [elements, map_cons, flatten_cons,
        DerReader.eachField_derTlv (htodo f mem_cons_self)]
      have hrest := ih (done ++ [f]) fun g hg => htodo g (mem_cons_of_mem _ hg)
      rw [append_assoc] at hrest
      exact hrest
  rw [parseSequence, derSequence, parseTagged_derTlv h]
  exact hloop [] fields fun f hf => length_lt_of_mem h hf

lemma parseDerInteger_self (val : Int32) : parseDerInteger (derInteger val) = .ok val := by
  rw [← append_nil (derInteger val), parseDerInteger_derInteger]

lemma parseDerOctetString_derOctetString {data : Bytes} (h : (derOctetString data).length < 65536) :
    parseDerOctetString (derOctetString data) = .ok data :=
  parseTagged_derTlv ((length_lt_derTlv _ _).trans h)

lemma parseDerGeneralString_derGeneralString {s : List Char}
    (h : (derGeneralString s).length < 65536) :
    parseDerGeneralString (derGeneralString s) = .ok s := by
  rw [parseDerGeneralString, derGeneralString,
    parseTagged_derTlv ((length_lt_derTlv _ _).trans h)]
  show parseText _ (utf8 s) = _
  rw [parseText, fromUtf8_utf8]

lemma parseEncryptedData_encode {ed : EncryptedData}
    (h : (encodeEncryptedData ed).length < 65536) :
    parseEncryptedData (encodeEncryptedData ed) = .ok ed := by
  obtain ⟨etype, kvno, cipher⟩ := ed
  cases kvno with
  | none =>
    have hfields : encodeEncryptedData ⟨etype, none, cipher⟩ =
        derSequence (elements [(0xa0, derInteger etype), (0xa2, derOctetString cipher)]) := rfl
    rw [hfields] at h ⊢
    have hlen := (length_lt_derTlv _ _).trans h
    have hcipher := length_lt_of_mem hlen (.tail _ (.head _))
    simp [parseEncryptedData, parseSequence_derSequence hlen, parseDerInteger_self,
      parseDerOctetString_derOctetString hcipher, bind, Except.bind, pure, Except.pure, require]
  | some kvno =>
    have hfields : encodeEncryptedData ⟨etype, some kvno, cipher⟩ =
        derSequence (elements [(0xa0, derInteger etype), (0xa1, derInteger kvno),
          (0xa2, derOctetString cipher)]) := rfl
    rw [hfields] at h ⊢
    have hlen := (length_lt_derTlv _ _).trans h
    have hcipher := length_lt_of_mem hlen (.tail _ (.tail _ (.head _)))
    simp [parseEncryptedData, parseSequence_derSequence hlen, parseDerInteger_self,
      parseDerOctetString_derOctetString hcipher, bind, Except.bind, pure, Except.pure, require]

lemma parsePrincipalName_encode {name : PrincipalName}
    (h : (encodePrincipalName name).length < 65536) :
    parsePrincipalName (encodePrincipalName name) = .ok name := by
  obtain ⟨nameType, names⟩ := name
  have hstrings : derSequence (names.map derGeneralString) =
      derSequence (elements (names.map fun s => (0x1b, utf8 s))) := by
    rw [elements, map_map]
    rfl
  have hfields : encodePrincipalName ⟨nameType, names⟩ = derSequence (elements
      [(0xa0, derInteger nameType), (0xa1, derSequence (names.map derGeneralString))]) := rfl
  rw [hfields, hstrings] at h ⊢
  have hlen := (length_lt_derTlv _ _).trans h
  have hnames := (length_lt_derTlv _ _).trans (length_lt_of_mem hlen (.tail _ (.head _)))
  have hloop (done todo : List (List Char)) (htodo : ∀ s ∈ todo, (utf8 s).length < 65536) :
      derReader.eachField (fun names _ text => return names ++ [← parseText "name-string" text])
        done (elements (todo.map fun s => (0x1b, utf8 s))).flatten = .ok (done ++ todo) := by
    induction todo generalizing done with
    | nil =>
      rw [append_nil]
      rfl
    | cons s todo ih =>
      rw [map_cons, elements, map_cons, flatten_cons,
        DerReader.eachField_derTlv (htodo s mem_cons_self), parseText, fromUtf8_utf8]
      have hrest := ih (done ++ [s]) fun g hg => htodo g (mem_cons_of_mem _ hg)
      rw [append_assoc] at hrest
      exact hrest
  have hall : ∀ s ∈ names, (utf8 s).length < 65536 := fun s hs =>
    length_lt_of_mem hnames (mem_map_of_mem (f := fun s => (0x1b, utf8 s)) hs)
  have htlv : parseDerTlv (derSequence (elements (names.map fun s => (0x1b, utf8 s)))) = _ :=
    (congrArg _ (append_nil _).symm).trans (DerReader.parseTlv_derTlv hnames 0x30 [])
  have hread := hloop [] names hall
  simp only [bind, Except.bind, pure, Except.pure] at hread
  simp [parsePrincipalName, parseSequence_derSequence hlen, parseDerInteger_self, htlv, hread, bind,
    Except.bind, pure, Except.pure, require]

lemma parseTicket_encodeTicket {ticket : Ticket} (h : (encodeTicket ticket).length < 65536)
    (rest : Bytes) :
    parseTicket (encodeTicket ticket ++ rest) =
      .ok { ticket with rawBytes := some (encodeTicket ticket) } := by
  obtain ⟨tktVno, realm, sname, encPart, rawBytes⟩ := ticket
  have hencode : encodeTicket ⟨tktVno, realm, sname, encPart, rawBytes⟩ =
      derTlv 0x61 (derSequence (elements [(0xa0, derInteger tktVno), (0xa1, derGeneralString realm),
        (0xa2, encodePrincipalName sname), (0xa3, encodeEncryptedData encPart)])) := rfl
  rw [hencode] at h ⊢
  have hseq := (length_lt_derTlv _ _).trans h
  have hlen := (length_lt_derTlv _ _).trans hseq
  have hrealm := length_lt_of_mem hlen (.tail _ (.head _))
  have hsname := length_lt_of_mem hlen (.tail _ (.tail _ (.head _)))
  have hpart := length_lt_of_mem hlen (.tail _ (.tail _ (.tail _ (.head _))))
  simp [parseTicket, parseDerTlv, DerReader.parseTlv_derTlv hseq, parseSequence_derSequence hlen,
    parseDerInteger_self, parseDerGeneralString_derGeneralString hrealm,
    parsePrincipalName_encode hsname, parseEncryptedData_encode hpart, bind, Except.bind, pure,
    Except.pure, require]

/-- **Kerberos structures are read back**: a ticket of fewer than 64 KiB with its bytes, whatever
follows it, and every 32-bit integer, of either sort, from an encoding that is as short as any. -/
theorem ticket_roundTrip :
    (∀ (ticket : Ticket) (rest : Bytes), (encodeTicket ticket).length < 65536 →
      parseTicket (encodeTicket ticket ++ rest) =
        .ok { ticket with rawBytes := some (encodeTicket ticket) }) ∧
    (∀ (val : Int32) (rest : Bytes), parseDerInteger (derInteger val ++ rest) = .ok val ∧
      Minimal val.toInt (derInteger val)) ∧
    (∀ (val : UInt32) (rest : Bytes), parseDerIntegerU32 (derIntegerU32 val ++ rest) = .ok val ∧
      Minimal val.toNat (derIntegerU32 val)) :=
  ⟨fun _ rest h => parseTicket_encodeTicket h rest,
    fun val rest => ⟨parseDerInteger_derInteger val rest, minimal_derInteger val⟩,
    fun val rest => ⟨parseDerIntegerU32_derIntegerU32 val rest, minimal_derIntegerU32 val⟩⟩

end Smb2.Kerberos
