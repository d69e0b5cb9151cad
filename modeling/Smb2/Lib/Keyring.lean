import Mathlib.Data.List.Nodup
import Mathlib.Logic.Function.Basic
import Mathlib.Tactic.Common

set_option autoImplicit false

/-!
# Keys and counters

Every key is given out once, to one owner, who may give it up for another one. An owner may start to
count under its key, from zero. It then uses the pair of its key and the value of the counter, one
value after the other, or skips a value. No pair is ever used twice.
-/

open List

/-- **The state of the owners**: no pair was used twice, an owner counts under its own key and is past
the values used under it, and a key has one owner. -/
structure Keyring {ι κ : Type*} (key : ι → Option κ) (live : ι → Option (κ × ℕ))
    (used : List (κ × ℕ)) (known : List κ) : Prop where
  nodup : used.Nodup
  below : ∀ i k n m, live i = some (k, n) → (k, m) ∈ used → m < n
  live_key : ∀ i k n, live i = some (k, n) → key i = some k
  key_known : ∀ i k, key i = some k → k ∈ known
  used_known : ∀ k m, (k, m) ∈ used → k ∈ known
  apart : ∀ i j k, key i = some k → key j = some k → i = j
  idle : ∀ i k m, key i = some k → live i = none → (k, m) ∉ used

namespace Keyring

variable {ι κ : Type*} {key : ι → Option κ} {live : ι → Option (κ × ℕ)} {used : List (κ × ℕ)}
  {known : List κ} {i : ι} {k : κ} {n : ℕ}

lemma empty : Keyring (fun _ : ι => (none : Option κ)) (fun _ => none) [] [] where
  nodup := nodup_nil
  below := by simp
  live_key := by simp
  key_known := by simp
  used_known := by simp
  apart := by simp
  idle := by simp

variable [DecidableEq ι]

lemma of_update {α : Type*} {f : ι → α} {j : ι} {x y : α} (h : Function.update f i x j = y) :
    j = i ∧ x = y ∨ j ≠ i ∧ f j = y := by
  by_cases hji : j = i
  · subst hji
    rw [Function.update_self] at h
    exact .inl ⟨rfl, h⟩
  · rw [Function.update_of_ne hji] at h
    exact .inr ⟨hji, h⟩

lemma renew (h : Keyring key live used known) (x : Option κ) (hx : ∀ k, x = some k → k ∉ known) :
    Keyring (Function.update key i x) (Function.update live i none) used (known ++ x.toList) where
  nodup := h.nodup
  below := by
    intro j k n m hj hm
    rcases of_update hj with ⟨-, hnone⟩ | ⟨-, hj⟩
    · cases hnone
    · exact h.below j k n m hj hm
  live_key := by
    intro j k n hj
    rcases of_update hj with ⟨-, hnone⟩ | ⟨hji, hj⟩
    · cases hnone
    · rw [Function.update_of_ne hji]
      exact h.live_key j k n hj
  key_known := by
    intro j k hj
    rcases of_update hj with ⟨-, rfl⟩ | ⟨-, hj⟩
    · simp
    · exact mem_append_left _ (h.key_known j k hj)
  used_known := fun k m hm => mem_append_left _ (h.used_known k m hm)
  apart := by
    intro j j' k hj hj'
    rcases of_update hj with ⟨rfl, hnew⟩ | ⟨-, hold⟩ <;>
      rcases of_update hj' with ⟨rfl, hnew'⟩ | ⟨-, hold'⟩
    · rfl
    · exact absurd (h.key_known j' k hold') (hx k hnew)
    · exact absurd (h.key_known j k hold) (hx k hnew')
    · exact h.apart j j' k hold hold'
  idle := by
    intro j k m hj hidle hm
    rcases of_update hj with ⟨-, hnew⟩ | ⟨hji, hj⟩
    · exact hx k hnew (h.used_known k m hm)
    · rw [Function.update_of_ne hji] at hidle
      exact h.idle j k m hj hidle hm

lemma move (h : Keyring key live used known) (hk : key i = some k)
    (hbelow : ∀ m, (k, m) ∈ used → m < n) :
    Keyring key (Function.update live i (some (k, n))) used known where
  nodup := h.nodup
  below := by
    intro j k' n' m hj hm
    rcases of_update hj with ⟨-, hnew⟩ | ⟨-, hj⟩
    · obtain ⟨rfl, rfl⟩ := Prod.mk.inj (Option.some.inj hnew)
      exact hbelow m hm
    · exact h.below j k' n' m hj hm
  live_key := by
    intro j k' n' hj
    rcases of_update hj with ⟨rfl, hnew⟩ | ⟨-, hj⟩
    · obtain ⟨rfl, rfl⟩ := Prod.mk.inj (Option.some.inj hnew)
      exact hk
    · exact h.live_key j k' n' hj
  key_known := h.key_known
  used_known := h.used_known
  apart := h.apart
  idle := by
    intro j k' m hj hidle
    rcases of_update hidle with ⟨-, hsome⟩ | ⟨-, hidle⟩
    · cases hsome
    · exact h.idle j k' m hj hidle

lemma start (h : Keyring key live used known) (hk : key i = some k) (hidle : live i = none) :
    Keyring key (Function.update live i (some (k, 0))) used known :=
  h.move hk fun m hm => absurd hm (h.idle i k m hk hidle)

lemma skip (h : Keyring key live used known) (hi : live i = some (k, n)) :
    Keyring key (Function.update live i (some (k, n + 1))) used known :=
  h.move (h.live_key i k n hi) fun m hm => Nat.lt_succ_of_lt (h.below i k n m hi hm)

lemma emit (h : Keyring key live used known) (hi : live i = some (k, n)) :
    Keyring key (Function.update live i (some (k, n + 1))) (used ++ [(k, n)]) known := by
  have hskip := h.skip hi
  have hkey := h.live_key i k n hi
  have hself : Function.update live i (some (k, n + 1)) i = some (k, n + 1) :=
    Function.update_self ..
  refine ⟨?_, ?_, hskip.live_key, h.key_known, ?_, h.apart, ?_⟩
  · refine nodup_append.2 ⟨h.nodup, nodup_singleton _, ?_⟩
    rintro p hp q hq rfl
    obtain rfl := mem_singleton.1 hq
    exact Nat.lt_irrefl n (h.below i k n n hi hp)
  · intro j k' n' m hj hm
    rcases mem_append.1 hm with hm | hm
    · exact hskip.below j k' n' m hj hm
    · obtain ⟨rfl, rfl⟩ := Prod.mk.inj (mem_singleton.1 hm)
      obtain rfl := h.apart j i k' (hskip.live_key j k' n' hj) hkey
      rw [hself] at hj
      obtain ⟨-, rfl⟩ := Prod.mk.inj (Option.some.inj hj)
      exact Nat.lt_succ_self m
  · intro k' m hm
    rcases mem_append.1 hm with hm | hm
    · exact h.used_known k' m hm
    · obtain ⟨rfl, -⟩ := Prod.mk.inj (mem_singleton.1 hm)
      exact h.key_known i k' hkey
  · intro j k' m hj hidle hm
    rcases mem_append.1 hm with hm | hm
    · exact hskip.idle j k' m hj hidle hm
    · obtain ⟨rfl, -⟩ := Prod.mk.inj (mem_singleton.1 hm)
      obtain rfl := h.apart j i k' hj hkey
      rw [hself] at hidle
      cases hidle

end Keyring
