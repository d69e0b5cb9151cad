import Mathlib.Tactic.Linarith
import Smb2.Auth.Kerberos.Nfold
import Smb2.Auth.Kerberos.Replies

set_option autoImplicit false

/-!
# Kerberos decryption undoes encryption

For each of the three encryption types. In CTS mode the last two blocks change places and the last
one is cut; what is cut off is found again at the end of the other one, decrypted.
-/

open List

namespace Smb2.Kerberos

/-! ## Exclusive or -/

lemma length_xor (a b : Bytes) : (xor a b).length = min a.length b.length := length_zipWith

lemma xor_xor {a b : Bytes} (h : a.length = b.length) : xor (xor a b) b = a := by
  induction a generalizing b with
  | nil => rfl
  | cons x a ih =>
    obtain ⟨y, b, rfl⟩ := exists_cons_of_length_eq_add_one h.symm
    have hxy : x ^^^ y ^^^ y = x := by
      rw [UInt8.xor_assoc, UInt8.xor_self, UInt8.xor_zero]
    show (x ^^^ y ^^^ y) :: xor (xor a b) b = _
    rw [hxy, ih (by simpa using h)]

lemma drop_xor (a b : Bytes) (n : ℕ) : (xor a b).drop n = xor (a.drop n) (b.drop n) :=
  drop_zipWith

lemma xor_replicate_zero (b : Bytes) : xor (replicate b.length 0) b = b := by
  induction b with
  | nil => rfl
  | cons y b ih =>
    show (0 ^^^ y) :: xor (replicate b.length 0) b = _
    rw [UInt8.zero_xor, ih]

/-! ## The stream cipher -/

lemma rc4Stream_rc4Stream (s : List UInt8) (i j : UInt8) (data : Bytes) :
    rc4Stream s i j (rc4Stream s i j data) = data := by
  induction data generalizing s i j with
  | nil => rfl
  | cons byte data ih =>
    simp only [rc4Stream, ih, UInt8.xor_assoc, UInt8.xor_self, UInt8.xor_zero]

lemma length_rc4Stream (s : List UInt8) (i j : UInt8) (data : Bytes) :
    (rc4Stream s i j data).length = data.length := by
  induction data generalizing s i j with
  | nil => rfl
  | cons byte data ih => simp only [rc4Stream, length_cons, ih]

/-! ## Key derivation returns -/

lemma nfold_usageConstant (usage : UInt32) (purpose : UInt8) :
    ∃ folded, nfold (usageConstant usage purpose) 16 = .ok folded ∧ folded.length = 16 := by
  have hle := digitsValue_nfoldSums_le (n := 16) (usageConstant usage purpose) (by decide)
  rw [show (usageConstant usage purpose).length = 5 by simp [usageConstant, beBytes],
    show Nat.lcm 5 16 = 80 by decide] at hle
  obtain ⟨result, hfolded, hlen, -⟩ := nfold_eq_ok (by decide) (hle.trans (by decide))
  exact ⟨_, hfolded, by rw [length_map, hlen]⟩

section Ciphers

variable (P : KerberosPrimitives) {key : Bytes} (hkey : key.length = 16 ∨ key.length = 32)

include hkey

lemma aesEcbEncrypt_eq {block : Bytes} (h : block.length = 16) :
    aesEcbEncrypt P key block = .ok (P.aesEncrypt key block) := by
  rw [aesEcbEncrypt, ensure, ensure, if_pos (by simpa using h), if_pos (by simpa using hkey)]
  rfl

lemma aesEcbDecrypt_eq {block : Bytes} (h : block.length = 16) :
    aesEcbDecrypt P key block = .ok (P.aesDecrypt key block) := by
  rw [aesEcbDecrypt, ensure, ensure, if_pos (by simpa using h), if_pos (by simpa using hkey)]
  rfl

lemma deriveBlocks_eq_ok (n : ℕ) {input : Bytes} (h : input.length = 16) :
    ∃ blocks, deriveBlocks P key n input = .ok blocks ∧ blocks.length = 16 * n := by
  induction n generalizing input with
  | zero => exact ⟨[], rfl, rfl⟩
  | succ n ih =>
    have hlen := P.length_aesEncrypt key input
    obtain ⟨blocks, hblocks, hlength⟩ := ih hlen
    refine ⟨P.aesEncrypt key input ++ blocks, ?_, by rw [length_append]; omega⟩
    rw [deriveBlocks, aesEcbEncrypt_eq P hkey h]
    simp only [bind, Except.bind, hblocks]
    rfl

lemma dkDerive_usageConstant (usage : UInt32) (purpose : UInt8) :
    ∃ derived, dkDerive P key (usageConstant usage purpose) = .ok derived ∧
      (derived.length = 16 ∨ derived.length = 32) := by
  obtain ⟨folded, hfolded, hlen⟩ := nfold_usageConstant usage purpose
  obtain ⟨blocks, hblocks, hlength⟩ := deriveBlocks_eq_ok P hkey ((key.length + 15) / 16) hlen
  refine ⟨blocks.take key.length, ?_, by rw [length_take]; omega⟩
  rw [dkDerive, hfolded]
  simp only [bind, Except.bind, hblocks]
  rfl

/-! ## CBC -/

variable (hinv : ∀ key block : Bytes, key.length = 16 ∨ key.length = 32 → block.length = 16 →
  P.aesDecrypt key (P.aesEncrypt key block) = block)

include hinv

lemma cbc_step {prev data : Bytes} (hprev : prev.length = 16) (hdata : 16 ≤ data.length) (k : ℕ) :
    ∃ c : Bytes, c.length = 16 ∧ P.aesDecrypt key c = xor (data.take 16) prev ∧
      cbcEncryptBlocks P key (k + 1) prev data =
        (cbcEncryptBlocks P key k c (data.drop 16)).map (c ++ ·) ∧
      ∀ rest, cbcDecryptBlocks P key (k + 1) prev (c ++ rest) =
        (cbcDecryptBlocks P key k c rest).map (data.take 16 ++ ·) := by
  have hblock : (xor (data.take 16) prev).length = 16 := by
    rw [length_xor, length_take]
    omega
  have hlen := P.length_aesEncrypt key (xor (data.take 16) prev)
  have hplain := hinv key _ hkey hblock
  have hback : xor (xor (data.take 16) prev) prev = data.take 16 :=
    xor_xor (by rw [length_take]; omega)
  refine ⟨P.aesEncrypt key (xor (data.take 16) prev), hlen, hplain, ?_, fun rest => ?_⟩
  · rw [cbcEncryptBlocks, aesEcbEncrypt_eq P hkey hblock]
    rfl
  · rw [cbcDecryptBlocks, take_left' hlen, drop_left' hlen, aesEcbDecrypt_eq P hkey hlen]
    simp only [bind, Except.bind, hplain, hback]
    rfl

lemma cbc_spec (n : ℕ) {prev data : Bytes} (hprev : prev.length = 16)
    (hdata : data.length = 16 * (n + 2)) :
    ∃ front x y : Bytes, front.length = 16 * n ∧ x.length = 16 ∧ y.length = 16 ∧
      cbcEncryptBlocks P key (n + 2) prev data = .ok (front ++ (x ++ y)) ∧
      cbcDecryptBlocks P key (n + 2) prev (front ++ (x ++ y)) = .ok data ∧
      P.aesDecrypt key y = xor (data.drop (16 * (n + 1))) x := by
  induction n generalizing prev data with
  | zero =>
    obtain ⟨x, hx, -, henc, hdec⟩ := cbc_step P hkey hinv hprev (show 16 ≤ data.length by omega) 1
    have hlast : (data.drop 16).length = 16 := by
      rw [length_drop]
      omega
    obtain ⟨y, hy, hplain, henc', hdec'⟩ := cbc_step P hkey hinv hx hlast.ge 0
    rw [take_of_length_le (by omega)] at hplain hdec'
    refine ⟨[], x, y, rfl, hx, hy, ?_, ?_, hplain⟩
    · rw [henc, henc']
      show Except.ok (x ++ (y ++ [])) = _
      rw [append_nil]
      rfl
    · rw [← append_nil y]
      show cbcDecryptBlocks P key (1 + 1) prev (x ++ (y ++ [])) = _
      rw [hdec, hdec']
      show Except.ok (data.take 16 ++ (data.drop 16 ++ [])) = _
      rw [append_nil, take_append_drop]
  | succ n ih =>
    obtain ⟨c, hc, -, henc, hdec⟩ := cbc_step P hkey hinv hprev (show 16 ≤ data.length by omega) (n + 2)
    have hrest : (data.drop 16).length = 16 * (n + 2) := by
      rw [length_drop]
      omega
    obtain ⟨front, x, y, hfront, hx, hy, henc', hdec', hplain⟩ := ih hc hrest
    refine ⟨c ++ front, x, y, by rw [length_append]; omega, hx, hy, ?_, ?_, ?_⟩
    · rw [henc, henc', append_assoc]
      rfl
    · rw [append_assoc, hdec, hdec']
      show Except.ok (data.take 16 ++ data.drop 16) = _
      rw [take_append_drop]
    · rw [hplain, drop_drop]
      congr 2
      omega

/-! ## Ciphertext stealing -/

lemma cts_spec {iv plaintext : Bytes} (hiv : iv.length = 16) (hlen : 16 ≤ plaintext.length) :
    ∃ ciphertext, encryptAesCts P key iv plaintext = .ok ciphertext ∧
      ciphertext.length = plaintext.length ∧
      decryptAesCts P key iv ciphertext = .ok plaintext := by
  have hne : ∀ {l : Bytes}, 16 ≤ l.length → l ≠ [] := by
    rintro l hl rfl
    exact absurd hl (by simp)
  by_cases hone : plaintext.length = 16
  · have hpad : padTo 16 plaintext = plaintext := by
      rw [padTo, hone]
      exact append_nil _
    have hblock : (xor plaintext iv).length = 16 := by
      rw [length_xor]
      omega
    have hc := P.length_aesEncrypt key (xor plaintext iv)
    refine ⟨P.aesEncrypt key (xor plaintext iv), ?_, hc.trans hone.symm, ?_⟩
    · rw [encryptAesCts, if_neg (hne hlen), if_pos hone.le, hpad, ensure,
        if_pos (by simp [hiv])]
      exact aesEcbEncrypt_eq P hkey hblock
    · rw [decryptAesCts, if_neg (hne hc.ge), if_pos hc.le, if_neg (by omega),
        aesEcbDecrypt_eq P hkey hc]
      simp only [bind, Except.bind, ensure, hiv, hinv key _ hkey hblock, xor_xor (hone.trans hiv.symm)]
      rfl
  · obtain ⟨n, hblocks⟩ : ∃ n, (plaintext.length + 15) / 16 = n + 2 :=
      ⟨(plaintext.length + 15) / 16 - 2, by omega⟩
    obtain ⟨t, ht⟩ : ∃ t, plaintext.length = 16 * (n + 1) + t :=
      ⟨plaintext.length - 16 * (n + 1), by omega⟩
    set data := padTo ((n + 2) * 16) plaintext with hdata
    have hpad : data = plaintext ++ replicate (16 - t) 0 := by
      rw [hdata, padTo]
      congr 2
      omega
    have hdatalen : data.length = 16 * (n + 2) := by
      rw [hpad, length_append, length_replicate]
      omega
    obtain ⟨front, x, y, hfront, hx, hy, henc, hdec, hplain⟩ := cbc_spec P hkey hinv n hiv hdatalen
    have hcut : (x.take t).length = t := by
      rw [length_take]
      omega
    set ciphertext := front ++ (y ++ x.take t) with hct
    have hctlen : ciphertext.length = plaintext.length := by
      rw [hct, length_append, length_append]
      omega
    have hstolen : (P.aesDecrypt key y).drop t = x.drop t := by
      have hzeros : data.drop (16 * (n + 1) + t) = replicate (x.drop t).length 0 := by
        rw [hpad, drop_append_of_le_length ht.ge, drop_eq_nil_of_le ht.le,
          nil_append, length_drop, hx]
      rw [hplain, drop_xor, drop_drop, hzeros, xor_replicate_zero]
    have hswap : (front ++ (x ++ y)).take front.length ++
        slice (front ++ (x ++ y)) (front.length + 16) (front.length + 16 + 16) ++
        slice (front ++ (x ++ y)) front.length (front.length + 16) = (front ++ y) ++ x := by
      have hfirst : slice (front ++ (x ++ y)) front.length (front.length + 16) = x :=
        hx ▸ slice_append front x y
      have hsecond : slice (front ++ (x ++ y)) (front.length + 16) (front.length + 16 + 16) = y := by
        have hslice := slice_append (front ++ x) y []
        rwa [append_nil, append_assoc, length_append, hx, hy] at hslice
      rw [take_left, hfirst, hsecond]
    have hcount : (16 * (n + 2)) / 16 = n + 2 := by omega
    have hsecond : (n + 2 - 2) * 16 = front.length := by omega
    have hlast : (n + 2 - 1) * 16 = front.length + 16 := by omega
    refine ⟨ciphertext, ?_, hctlen, ?_⟩
    · have hcbc : aesCbcEncrypt P key iv data = .ok (front ++ (x ++ y)) := by
        rw [aesCbcEncrypt, ensure, if_pos (by simp [hdatalen]), ensure, if_pos (by simp [hiv]),
          hdatalen, hcount]
        exact henc
      have htake : ((front ++ y) ++ x).take plaintext.length = ciphertext := by
        have hfull : (front ++ y).length = 16 * (n + 1) := by
          rw [length_append]
          omega
        rw [take_append, hfull, take_of_length_le (by omega), ht,
          Nat.add_sub_cancel_left, hct, append_assoc]
      rw [encryptAesCts, if_neg (hne hlen), if_neg (by omega)]
      simp only [hblocks, ← hdata, hcbc, bind, Except.bind, hsecond, hlast, hswap, htake]
      rfl
    · have hpadded : padTo ((n + 2) * 16) ciphertext =
          front ++ (y ++ (x.take t ++ replicate (16 - t) 0)) := by
        rw [padTo, hctlen, hct, append_assoc, append_assoc]
        congr 4
        omega
      have hswapped : slice (front ++ (y ++ (x.take t ++ replicate (16 - t) 0))) front.length
          (front.length + 16) = y := hy ▸ slice_append front y _
      have hshort : slice (front ++ (y ++ (x.take t ++ replicate (16 - t) 0)))
          (front.length + 16) (front.length + 16 + t) = x.take t := by
        have hslice := slice_append (front ++ y) (x.take t) (replicate (16 - t) 0)
        rwa [append_assoc, length_append, hy, hcut] at hslice
      have hcbc : aesCbcDecrypt P key iv (front ++ x ++ y) = .ok data := by
        have htotal : (front ++ x ++ y).length = 16 * (n + 2) := by
          rw [length_append, length_append]
          omega
        rw [aesCbcDecrypt, ensure, if_pos (by rw [htotal]; simp), ensure, if_pos (by simp [hiv]),
          htotal, hcount, append_assoc]
        exact hdec
      have hdone : data.take plaintext.length = plaintext := by rw [hpad, take_left]
      have htail : plaintext.length - (front.length + 16) = t := by omega
      rw [decryptAesCts, if_neg (hne (by omega)), if_neg (by omega)]
      simp only [hctlen, hblocks, hpadded, hsecond, hlast, hswapped, take_left]
      by_cases hwhole : plaintext.length % 16 = 0
      · obtain rfl : t = 16 := by omega
        simp only [hwhole, ne_eq, not_true_eq_false, if_false, bind, Except.bind, pure, Except.pure]
        rw [hshort, take_of_length_le hx.le, hcbc]
        exact congrArg _ hdone
      · simp only [ne_eq, hwhole, not_false_eq_true, if_true, aesEcbDecrypt_eq P hkey hy, htail,
          hshort, hstolen, take_append_drop, bind, Except.bind, hcbc, hdone, pure,
          Except.pure]

end Ciphers

/-! ## The profiles -/

lemma aes_inverts (P : KerberosPrimitives)
    (hinv : ∀ key block : Bytes, key.length = 16 ∨ key.length = 32 → block.length = 16 →
      P.aesDecrypt key (P.aesEncrypt key block) = block) {random : ℕ → Bytes}
    (hrandom : ∀ n, (random n).length = n) {key : Bytes}
    (hkey : key.length = 16 ∨ key.length = 32) (usage : UInt32) (plaintext : Bytes) :
    ∃ ciphertext,
      kerberosEncrypt P random key usage plaintext .aes128CtsHmacSha196 = .ok ciphertext ∧
      kerberosDecrypt P key usage ciphertext .aes128CtsHmacSha196 = .ok plaintext := by
  obtain ⟨ke, hke, hkelen⟩ := dkDerive_usageConstant P hkey usage 0xAA
  obtain ⟨ki, hki, -⟩ := dkDerive_usageConstant P hkey usage 0x55
  have hfull : 16 ≤ (random 16 ++ plaintext).length := by
    rw [length_append, hrandom]
    omega
  obtain ⟨encrypted, henc, hlen, hdec⟩ :=
    cts_spec P hkelen hinv (@length_replicate _ 16 0) hfull
  set full := random 16 ++ plaintext with hfulldef
  have hmac : (hmacSha196 P ki full).length = 12 := by
    rw [hmacSha196, length_take, P.length_hmacSha1]
    rfl
  refine ⟨encrypted ++ hmacSha196 P ki full, ?_, ?_⟩
  · simp only [kerberosEncrypt, usageEnc, usageInt, hke, hki, bind, Except.bind, ← hfulldef, henc]
    rfl
  · have hoffset : (encrypted ++ hmacSha196 P ki full).length - 12 = encrypted.length := by
      rw [length_append, hmac]
      omega
    have hlong : ¬ (encrypted ++ hmacSha196 P ki full).length < 12 + 16 := by
      rw [length_append, hmac]
      omega
    have hdrop : full.drop 16 = plaintext := drop_left' (hrandom 16)
    simp only [kerberosDecrypt, if_neg hlong, usageEnc, usageInt, hke, hki, bind, Except.bind,
      hoffset, take_left, drop_left, hdec, ne_eq, not_true_eq_false, if_false,
      if_neg (Nat.not_lt.2 hfull), hdrop]
    rfl

lemma rc4_inverts (P : KerberosPrimitives) {random : ℕ → Bytes}
    (hrandom : ∀ n, (random n).length = n) (key : Bytes) (usage : UInt32) (plaintext : Bytes) :
    ∃ ciphertext, kerberosEncrypt P random key usage plaintext .rc4Hmac = .ok ciphertext ∧
      kerberosDecrypt P key usage ciphertext .rc4Hmac = .ok plaintext := by
  set k1 := P.hmacMd5 key (leBytes 4 usage.toNat)
  set payload := random 8 ++ plaintext with hpayload
  set checksum := P.hmacMd5 k1 payload with hchecksum
  set k3 := P.hmacMd5 k1 checksum with hk3
  have hsum : checksum.length = 16 := P.length_hmacMd5 ..
  have hne : k3 ≠ [] := by
    intro hnil
    have hlen : k3.length = 16 := P.length_hmacMd5 ..
    rw [hnil] at hlen
    exact absurd hlen (by decide)
  have hstream (data : Bytes) : rc4Transform k3 data = .ok (rc4Stream (rc4Schedule k3) 0 0 data) := by
    rw [rc4Transform, ensure, if_pos (by simpa using hne)]
    rfl
  have hlen : payload.length = 8 + plaintext.length := by rw [hpayload, length_append, hrandom]
  refine ⟨checksum ++ rc4Stream (rc4Schedule k3) 0 0 payload, ?_, ?_⟩
  · show (rc4Transform k3 payload >>= fun encrypted => pure (checksum ++ encrypted)) = _
    rw [hstream]
    rfl
  · have hlong : ¬ (checksum ++ rc4Stream (rc4Schedule k3) 0 0 payload).length < 24 := by
      rw [length_append, length_rc4Stream]
      omega
    have hdrop : payload.drop 8 = plaintext := drop_left' (hrandom 8)
    simp only [kerberosDecrypt, decryptRc4Hmac, if_neg hlong, take_left' hsum,
      drop_left' hsum]
    show (rc4Transform k3 _ >>= _) = _
    rw [hstream, rc4Stream_rc4Stream]
    show (if checksum ≠ checksum then _ else _) = _
    rw [if_neg (not_not.2 rfl)]
    show (if payload.length < 8 then _ else _) = _
    rw [if_neg (by omega)]
    exact congrArg _ hdrop

/-- **Kerberos decryption undoes encryption**, for every encryption type, key of its size, usage and
confounder, if AES decryption undoes AES encryption block by block; and so does AES-CTS, which keeps
the length, for everything that is at least a block long. -/
theorem kerberos_encryption_inverts (P : KerberosPrimitives)
    (hinv : ∀ key block : Bytes, key.length = 16 ∨ key.length = 32 → block.length = 16 →
      P.aesDecrypt key (P.aesEncrypt key block) = block) :
    (∀ (random : ℕ → Bytes) (etype : EncryptionType) (key : Bytes) (usage : UInt32)
      (plaintext : Bytes), (∀ n, (random n).length = n) → key.length = etype.keySize →
        ∃ ciphertext, kerberosEncrypt P random key usage plaintext etype = .ok ciphertext ∧
          kerberosDecrypt P key usage ciphertext etype = .ok plaintext) ∧
    (∀ key iv plaintext : Bytes, key.length = 16 ∨ key.length = 32 → iv.length = 16 →
      16 ≤ plaintext.length →
        ∃ ciphertext, encryptAesCts P key iv plaintext = .ok ciphertext ∧
          ciphertext.length = plaintext.length ∧
          decryptAesCts P key iv ciphertext = .ok plaintext) := by
  refine ⟨fun random etype key usage plaintext hrandom hkey => ?_,
    fun key iv plaintext hkey hiv hlen => cts_spec P hkey hinv hiv hlen⟩
  cases etype with
  | aes256CtsHmacSha196 => exact aes_inverts P hinv hrandom (.inr hkey) usage plaintext
  | aes128CtsHmacSha196 => exact aes_inverts P hinv hrandom (.inl hkey) usage plaintext
  | rc4Hmac => exact rc4_inverts P hrandom key usage plaintext

theorem kerberos_encryption_inverts_plain :
    ∃ ciphertext, kerberosEncrypt plainPrimitives (replicate · 7) (replicate 32 1) 11
        [1, 2, 3] .aes256CtsHmacSha196 = .ok ciphertext ∧
      kerberosDecrypt plainPrimitives (replicate 32 1) 11 ciphertext .aes256CtsHmacSha196 =
        .ok [1, 2, 3] := by
  have hinv : ∀ key block : Bytes, key.length = 16 ∨ key.length = 32 → block.length = 16 →
      plainPrimitives.aesDecrypt key (plainPrimitives.aesEncrypt key block) = block := by
    intro key block _ hblock
    have hpad : padBlock block = block := take_left' hblock
    show padBlock (padBlock block) = block
    rw [hpad, hpad]
  exact (kerberos_encryption_inverts plainPrimitives hinv).1 _ _ _ _ _
    (fun _ => length_replicate) rfl

end Smb2.Kerberos
