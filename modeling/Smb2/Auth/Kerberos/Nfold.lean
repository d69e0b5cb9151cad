import Mathlib.Algebra.BigOperators.Ring.List
import Mathlib.Algebra.Order.BigOperators.Group.List
import Mathlib.Data.Nat.ModEq
import Mathlib.Tactic.Linarith
import Mathlib.Tactic.Ring
import Smb2.Auth.Kerberos.Crypto

set_option autoImplicit false

/-!
# N-fold

`nfold` (`auth/kerberos/crypto.rs`) adds up the blocks of a long string: copies of the input, each
rotated by 13 bits more than the one before it. It adds modulo `256 ^ n - 1`, where `n` is the length of
a block, by adding what is carried out at the top at the bottom again.
-/

open List

namespace Smb2.Kerberos

/-! ## Numbers in base 256 -/

def digitsValue : List ℕ → ℕ
  | [] => 0
  | d :: digits => d * 256 ^ digits.length + digitsValue digits

section Digits

variable {digits : List ℕ}

lemma digitsValue_modify {i : ℕ} (hi : i < digits.length) (x : ℕ) :
    digitsValue (digits.modify i (· + x)) = digitsValue digits + x * 256 ^ (digits.length - 1 - i) := by
  induction digits generalizing i with
  | nil => exact absurd hi (Nat.not_lt_zero i)
  | cons d digits ih =>
    cases i with
    | zero =>
      simp only [modify_zero_cons, digitsValue, length_cons, Nat.add_sub_cancel, Nat.sub_zero]
      ring
    | succ i =>
      have hi' : i < digits.length := Nat.lt_of_succ_lt_succ hi
      have hexp : (d :: digits).length - 1 - (i + 1) = digits.length - 1 - i := by
        rw [length_cons]
        omega
      rw [modify_succ_cons, digitsValue, ih hi', length_modify, hexp, digitsValue]
      ring

lemma digitsValue_lt (h : ∀ d ∈ digits, d < 256) : digitsValue digits < 256 ^ digits.length := by
  induction digits with
  | nil => exact Nat.one_pos
  | cons d digits ih =>
    have hd : d < 256 := h d mem_cons_self
    have hrest := ih fun e he => h e (mem_cons_of_mem d he)
    rw [digitsValue, length_cons, Nat.pow_succ]
    nlinarith

lemma propagate_spec (digits : List ℕ) :
    (propagate digits).1.length = digits.length ∧ (∀ d ∈ (propagate digits).1, d < 256) ∧
      digitsValue (propagate digits).1 + (propagate digits).2 * 256 ^ digits.length =
        digitsValue digits := by
  induction digits with
  | nil => exact ⟨rfl, nofun, rfl⟩
  | cons d digits ih =>
    obtain ⟨hlen, hlt, hvalue⟩ := ih
    set low := (propagate digits).1
    set carry := (propagate digits).2
    have hmod := Nat.div_add_mod (d + carry) 256
    show ((d + carry) % 256 :: low).length = _ ∧ (∀ e ∈ (d + carry) % 256 :: low, e < 256) ∧
      (d + carry) % 256 * 256 ^ low.length + digitsValue low + (d + carry) / 256 * _ =
        d * 256 ^ digits.length + digitsValue digits
    refine ⟨by rw [length_cons, length_cons, hlen], ?_, ?_⟩
    · exact forall_mem_cons.2 ⟨Nat.mod_lt _ (by decide), hlt⟩
    · rw [length_cons, hlen, Nat.pow_succ]
      calc (d + carry) % 256 * 256 ^ digits.length + digitsValue low +
            (d + carry) / 256 * (256 ^ digits.length * 256)
          = (256 * ((d + carry) / 256) + (d + carry) % 256) * 256 ^ digits.length + digitsValue low := by
            ring
        _ = d * 256 ^ digits.length + (digitsValue low + carry * 256 ^ digits.length) := by
            rw [hmod]
            ring
        _ = d * 256 ^ digits.length + digitsValue digits := by rw [hvalue]

/-- What a round of the loop does: it ends, or it adds what was carried out of the number. -/
lemma propagateLoop_cases (k : ℕ) (hne : digits ≠ []) :
    (∃ result, propagateLoop (k + 1) digits = some result ∧ result.length = digits.length ∧
      (∀ d ∈ result, d < 256) ∧ digitsValue result = digitsValue digits) ∨
    ∃ digits', digits'.length = digits.length ∧ 256 ^ digits.length ≤ digitsValue digits ∧
      digitsValue digits' =
        digitsValue digits % 256 ^ digits.length + digitsValue digits / 256 ^ digits.length ∧
      propagateLoop (k + 1) digits = propagateLoop k digits' := by
  obtain ⟨hlen, hsmall, hvalue⟩ := propagate_spec digits
  set low := (propagate digits).1
  set carry := (propagate digits).2
  have hlt := digitsValue_lt hsmall
  have hloop : propagateLoop (k + 1) digits = if carry = 0 then some low
      else propagateLoop k (low.modify (low.length - 1) (· + carry)) := rfl
  rw [hloop]
  rw [hlen] at hlt
  by_cases hzero : carry = 0
  · exact .inl ⟨low, if_pos hzero, hlen, hsmall, by simpa [hzero] using hvalue⟩
  · have hpos : 0 < low.length := hlen ▸ length_pos_iff.2 hne
    have hM : 0 < 256 ^ digits.length := by positivity
    refine .inr ⟨_, (length_modify ..).trans hlen, ?_, ?_, if_neg hzero⟩
    · nlinarith [Nat.pos_of_ne_zero hzero]
    · rw [digitsValue_modify (Nat.sub_one_lt hpos.ne'), Nat.sub_self, Nat.pow_zero, Nat.mul_one,
        ← hvalue, Nat.add_mul_mod_self_right, Nat.mod_eq_of_lt hlt, Nat.add_mul_div_right _ _ hM,
        Nat.div_eq_of_lt hlt, Nat.zero_add]

lemma propagateLoop_eq_some {k : ℕ} {result : List ℕ} (hne : digits ≠ [])
    (h : propagateLoop k digits = some result) :
    result.length = digits.length ∧ (∀ d ∈ result, d < 256) ∧
      digitsValue result ≡ digitsValue digits [MOD 256 ^ digits.length - 1] ∧
      (digitsValue result = 0 → digitsValue digits = 0) ∧
      (digitsValue digits < 256 ^ digits.length → digitsValue result = digitsValue digits) := by
  induction k generalizing digits with
  | zero => cases h
  | succ k ih =>
    rcases propagateLoop_cases k hne with ⟨result', hdone, hlen, hsmall, hvalue⟩ |
      ⟨digits', hlen, hge, hvalue, hloop⟩
    · rw [hdone] at h
      obtain rfl := Option.some.inj h
      exact ⟨hlen, hsmall, by rw [hvalue], fun hzero => hvalue ▸ hzero, fun _ => hvalue⟩
    · rw [hloop] at h
      have hne' : digits' ≠ [] := by
        rw [← length_pos_iff, hlen]
        exact length_pos_iff.2 hne
      obtain ⟨hlen', hsmall, hmod, hzero, -⟩ := ih hne' h
      rw [hlen] at hlen' hmod
      have hM : 0 < 256 ^ digits.length := by positivity
      refine ⟨hlen', hsmall, hmod.trans ?_, fun hr => ?_, fun hlt => absurd hlt (Nat.not_lt.2 hge)⟩
      · -- the carry has the weight of `256 ^ n`, which is one modulo `256 ^ n - 1`
        have hone : 256 ^ digits.length ≡ 1 [MOD 256 ^ digits.length - 1] :=
          (Nat.modEq_iff_dvd' hM).2 dvd_rfl |>.symm
        have hmul := (hone.mul_left (digitsValue digits / 256 ^ digits.length)).add_left
          (digitsValue digits % 256 ^ digits.length)
        rw [Nat.mul_one, Nat.mul_comm, Nat.mod_add_div] at hmul
        rw [hvalue]
        exact hmul.symm
      · have hboth := hzero hr
        have hpos : 0 < digitsValue digits / 256 ^ digits.length := Nat.div_pos hge hM
        omega

/-- The carry out of the number is divided by at least 256 in each round. When it is one, the next is one
only if nothing else is left. -/
lemma propagateLoop_isSome (k : ℕ) (hne : digits ≠ [])
    (h : digitsValue digits / 256 ^ digits.length ≤ 256 ^ k) :
    ∃ result, propagateLoop (k + 3) digits = some result := by
  have hM : 256 ≤ 256 ^ digits.length := Nat.le_self_pow (length_pos_iff.2 hne).ne' 256
  have hne' {digits' : List ℕ} (hlen : digits'.length = digits.length) : digits' ≠ [] := by
    rw [← length_pos_iff, hlen]
    exact length_pos_iff.2 hne
  have hmod := Nat.mod_lt (digitsValue digits) (show 0 < 256 ^ digits.length by omega)
  induction k generalizing digits with
  | zero =>
    rcases propagateLoop_cases 2 hne with ⟨result, hdone, -⟩ | ⟨digits₁, hlen₁, -, hvalue₁, hloop₁⟩
    · exact ⟨result, hdone⟩
    rcases propagateLoop_cases 1 (hne' hlen₁) with ⟨result, hdone, -⟩ |
      ⟨digits₂, hlen₂, hge₁, hvalue₂, hloop₂⟩
    · exact ⟨result, hloop₁.trans hdone⟩
    rcases propagateLoop_cases 0 (hne' (hlen₂.trans hlen₁)) with ⟨result, hdone, -⟩ | ⟨_, _, hge₂, -⟩
    · exact ⟨result, hloop₁.trans (hloop₂.trans hdone)⟩
    · rw [hlen₂, hlen₁] at hge₂
      rw [hlen₁] at hge₁ hvalue₂
      have hfull : digitsValue digits₁ = 256 ^ digits.length := by omega
      rw [hfull, Nat.mod_self, Nat.div_self (by omega)] at hvalue₂
      omega
  | succ k ih =>
    rcases propagateLoop_cases (k + 3) hne with ⟨result, hdone, -⟩ | ⟨digits', hlen, -, hvalue, hloop⟩
    · exact ⟨result, hdone⟩
    · have hcarry : digitsValue digits' / 256 ^ digits'.length ≤ 256 ^ k := by
        rw [hlen, hvalue]
        refine Nat.le_of_lt_succ (Nat.div_lt_of_lt_mul ?_)
        rw [Nat.pow_succ] at h
        nlinarith [Nat.mul_le_mul_right (256 ^ k) hM]
      obtain ⟨result, hresult⟩ := ih (hne' hlen) hcarry (hlen ▸ hM) (fun h => hne' (h.trans hlen))
        (Nat.mod_lt _ (by rw [hlen]; omega))
      exact ⟨result, hloop.trans hresult⟩

end Digits

/-! ## Rotated copies -/

section Rotation

variable {input : Bytes} {r : ℕ}

end Rotation

/-! ## The long string -/

/-- Byte `i` of the string of all copies. -/
def stringByte (input : Bytes) (i : ℕ) : UInt8 :=
  rotatedByte input (i / input.length * 13) (i % input.length)

lemma nfoldSums_eq (input : Bytes) (n : ℕ) :
    nfoldSums input n = (range (input.length.lcm n)).foldl
      (fun sums i => sums.modify (i % n) (· + (stringByte input i).toNat)) (replicate n 0) := by
  have hlcm : input.length * 8 / Nat.gcd (input.length * 8) (n * 8) * (n * 8) / 8 =
      input.length.lcm n := by
    rw [Nat.gcd_mul_right, Nat.mul_div_mul_right _ _ (by decide : 0 < 8), ← Nat.mul_assoc,
      Nat.mul_div_cancel _ (by decide : 0 < 8), Nat.div_mul_right_comm (Nat.gcd_dvd_left ..)]
    rfl
  rw [nfoldSums, hlcm]
  rfl

lemma digitsValue_sums {n : ℕ} (hn : 0 < n) (f : ℕ → ℕ) (l sums : List ℕ) (hlen : sums.length = n) :
    (l.foldl (fun sums i => sums.modify (i % n) (· + f i)) sums).length = n ∧
      digitsValue (l.foldl (fun sums i => sums.modify (i % n) (· + f i)) sums) =
        digitsValue sums + (l.map fun i => f i * 256 ^ (n - 1 - i % n)).sum := by
  induction l generalizing sums with
  | nil => exact ⟨hlen, rfl⟩
  | cons i l ih =>
    have hi : i % n < sums.length := by
      rw [hlen]
      exact Nat.mod_lt i hn
    obtain ⟨hlen', hvalue⟩ := ih (sums.modify (i % n) (· + f i)) ((length_modify ..).trans hlen)
    rw [foldl_cons, map_cons, sum_cons]
    refine ⟨hlen', hvalue.trans ?_⟩
    rw [digitsValue_modify hi, hlen, Nat.add_assoc]

section Fold

variable {input : Bytes} {n : ℕ}

lemma digitsValue_nfoldSums (input : Bytes) (hn : 0 < n) :
    (nfoldSums input n).length = n ∧ digitsValue (nfoldSums input n) =
      ((range (input.length.lcm n)).map fun i =>
        (stringByte input i).toNat * 256 ^ (n - 1 - i % n)).sum := by
  have hzero (k : ℕ) : digitsValue (replicate k 0) = 0 := by
    induction k with
    | zero => rfl
    | succ k ih => rw [replicate_succ, digitsValue, ih, Nat.zero_mul]
  obtain ⟨hlen, hvalue⟩ := digitsValue_sums hn (fun i => (stringByte input i).toNat)
    (range (input.length.lcm n)) (replicate n 0) (length_replicate ..)
  rw [nfoldSums_eq]
  exact ⟨hlen, hvalue.trans (by rw [hzero, Nat.zero_add])⟩

lemma digitsValue_nfoldSums_le (input : Bytes) (hn : 0 < n) :
    digitsValue (nfoldSums input n) ≤ input.length.lcm n * 256 ^ n := by
  rw [(digitsValue_nfoldSums input hn).2]
  refine (sum_le_card_nsmul _ (256 ^ n) fun x hx => ?_).trans (by simp)
  obtain ⟨i, -, rfl⟩ := mem_map.1 hx
  calc (stringByte input i).toNat * 256 ^ (n - 1 - i % n)
      ≤ 256 * 256 ^ (n - 1) :=
        Nat.mul_le_mul (UInt8.toNat_lt _).le (Nat.pow_le_pow_right (by decide) (by omega))
    _ = 256 ^ n := by rw [← Nat.pow_add_one', Nat.sub_one_add_one hn.ne']

/-- `nfold` returns the sums after all carries. -/
lemma nfold_eq_ok (hn : 0 < n) (hsmall : digitsValue (nfoldSums input n) ≤ 2 ^ 32 * 256 ^ n) :
    ∃ result : List ℕ, nfold input n = .ok (result.map UInt8.ofNat) ∧ result.length = n ∧
      (∀ d ∈ result, d < 256) ∧
      digitsValue result ≡ digitsValue (nfoldSums input n) [MOD 256 ^ n - 1] ∧
      (digitsValue result = 0 → digitsValue (nfoldSums input n) = 0) ∧
      (digitsValue (nfoldSums input n) < 256 ^ n →
        digitsValue result = digitsValue (nfoldSums input n)) := by
  have hlen := (digitsValue_nfoldSums input hn).1
  have hne : nfoldSums input n ≠ [] := by
    rw [← length_pos_iff, hlen]
    exact hn
  obtain ⟨result, hresult⟩ := propagateLoop_isSome 5 hne (by
    rw [hlen]
    exact (Nat.div_le_of_le_mul (Nat.mul_comm .. ▸ hsmall) : _ ≤ 2 ^ 32).trans (by decide))
  have hspec := propagateLoop_eq_some hne hresult
  rw [hlen] at hspec
  exact ⟨result, by rw [nfold, hresult], hspec⟩

end Fold

end Smb2.Kerberos
