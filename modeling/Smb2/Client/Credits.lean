import Mathlib.Algebra.GroupWithZero.Nat
import Mathlib.Logic.Function.Basic
import Smb2.Lib.Semaphore

set_option autoImplicit false

/-!
# Credit accounting

The credit pool of `client/credits.rs`. The pool is a mutex around a reference-counted semaphore:
every operation first takes a reference to the semaphore that is live at that moment and then
acts on that semaphore, and `reset` puts a fresh one behind the mutex. The model numbers the
semaphores in the order in which they were installed and keeps them all, because a caller that
took its reference before a reset goes on using the old one.

## Implementation notes

`available` is not cut off at 65535 as the source's function of this name is: the bounds proved
about it are on the permits themselves. `banked` is not part of the source's pool: it adds up,
by transport generation, the credits that received frames carried.
-/

namespace Smb2

def u16Max : ℕ := 65535

def saturatingSum (charges : List ℕ) : ℕ :=
  charges.foldl (fun acc c => min (acc + c) u16Max) 0

/-- **The credit pool**, with every semaphore it has ever held. -/
structure CreditPool where
  live : ℕ
  semaphores : ℕ → Semaphore
  /-- The `CreditResponse` values banked so far from the frames of each transport. -/
  banked : ℕ → ℕ

namespace CreditPool

def new : CreditPool := ⟨0, fun _ => Semaphore.new 1, fun _ => 0⟩

def available (p : CreditPool) : ℕ := (p.semaphores p.live).permits

def isClosed (p : CreditPool) : Bool := (p.semaphores p.live).closed

def update (p : CreditPool) (k : ℕ) (s : Semaphore) : CreditPool :=
  { p with semaphores := Function.update p.semaphores k s }

def tryReserve (p : CreditPool) (k charge : ℕ) : Option CreditPool :=
  ((p.semaphores k).tryAcquireMany charge).map (p.update k)

def addPermits (p : CreditPool) (k credits : ℕ) : CreditPool :=
  p.update k ((p.semaphores k).addPermits credits)

def close (p : CreditPool) (k : ℕ) : CreditPool := p.update k (p.semaphores k).close

def reset (p : CreditPool) : CreditPool :=
  { p with live := p.live + 1,
           semaphores := Function.update p.semaphores (p.live + 1) (Semaphore.new 1) }

def bank (p : CreditPool) (gen credits : ℕ) : CreditPool :=
  { p with banked := Function.update p.banked gen (p.banked gen + credits) }

variable {p p' : CreditPool} {k charge credits : ℕ}

@[simp] lemma semaphores_update_self (s : Semaphore) : (p.update k s).semaphores k = s := by
  simp [update]

lemma semaphores_update_of_ne {j : ℕ} (h : j ≠ k) (s : Semaphore) :
    (p.update k s).semaphores j = p.semaphores j := by
  simp [update, h]

@[simp] lemma banked_addPermits : (p.addPermits k credits).banked = p.banked := rfl

@[simp] lemma semaphores_bank {g : ℕ} : (p.bank g credits).semaphores = p.semaphores := rfl

lemma banked_bank {gen : ℕ} (j : ℕ) :
    (p.bank gen credits).banked j = p.banked j + if j = gen then credits else 0 := by
  by_cases h : j = gen
  · subst h
    simp [bank]
  · simp [bank, h]

@[simp] lemma live_reset : p.reset.live = p.live + 1 := rfl

@[simp] lemma banked_reset : p.reset.banked = p.banked := rfl

lemma semaphores_reset_of_ne {j : ℕ} (h : j ≠ p.live + 1) :
    p.reset.semaphores j = p.semaphores j := by
  simp [reset, h]

@[simp] lemma semaphores_reset_self :
    p.reset.semaphores (p.live + 1) = Semaphore.new 1 := by
  simp [reset]

lemma tryReserve_eq_some :
    p.tryReserve k charge = some p' ↔
      ∃ s, (p.semaphores k).tryAcquireMany charge = some s ∧ p' = p.update k s := by
  simp only [tryReserve, Option.map_eq_some_iff, eq_comm (a := p')]

lemma permits_addPermits (j : ℕ) :
    ((p.addPermits k credits).semaphores j).permits =
      (p.semaphores j).permits + if j = k then credits else 0 := by
  by_cases h : j = k
  · subst h
    simp [addPermits]
  · simp [addPermits, semaphores_update_of_ne h, h]

lemma semaphores_addPermits_eq_iff {j : ℕ} :
    (p.addPermits k credits).semaphores j = p.semaphores j ↔ credits = 0 ∨ k ≠ j := by
  by_cases h : j = k
  · subst h
    simp [addPermits, Semaphore.addPermits_eq_self_iff]
  · simp [addPermits, semaphores_update_of_ne h, Ne.symm h]

lemma closed_addPermits (j : ℕ) :
    ((p.addPermits k credits).semaphores j).closed = (p.semaphores j).closed := by
  by_cases h : j = k
  · subst h
    simp [addPermits]
  · simp [addPermits, semaphores_update_of_ne h]

lemma permits_tryReserve (h : p.tryReserve k charge = some p') (j : ℕ) :
    (p'.semaphores j).permits + (if j = k then charge else 0) = (p.semaphores j).permits := by
  obtain ⟨s, hs, rfl⟩ := tryReserve_eq_some.1 h
  obtain ⟨-, -, hperm⟩ := Semaphore.tryAcquireMany_eq_some.1 hs
  by_cases hj : j = k
  · subst hj
    simp [hperm]
  · simp [semaphores_update_of_ne hj, hj]

lemma closed_tryReserve (h : p.tryReserve k charge = some p') (j : ℕ) :
    (p'.semaphores j).closed = (p.semaphores j).closed := by
  obtain ⟨s, hs, rfl⟩ := tryReserve_eq_some.1 h
  obtain ⟨hopen, hopen', -⟩ := Semaphore.tryAcquireMany_eq_some.1 hs
  by_cases hj : j = k
  · subst hj
    simp [hopen, hopen']
  · simp [semaphores_update_of_ne hj]

lemma live_tryReserve (h : p.tryReserve k charge = some p') :
    p'.live = p.live ∧ p'.banked = p.banked := by
  obtain ⟨s, -, rfl⟩ := tryReserve_eq_some.1 h
  exact ⟨rfl, rfl⟩

lemma permits_close (j : ℕ) : ((p.close k).semaphores j).permits = (p.semaphores j).permits := by
  by_cases h : j = k
  · subst h
    simp [close]
  · simp [close, semaphores_update_of_ne h]

lemma closed_close (j : ℕ) :
    ((p.close k).semaphores j).closed = if j = k then true else (p.semaphores j).closed := by
  by_cases h : j = k
  · subst h
    simp [close]
  · simp [close, semaphores_update_of_ne h, h]

lemma semaphores_close_eq_iff {j : ℕ} :
    (p.close k).semaphores j = p.semaphores j ↔ (k = j → (p.semaphores j).closed = true) := by
  by_cases h : j = k
  · subst h
    simp [close, Semaphore.close_eq_self_iff]
  · simp [close, semaphores_update_of_ne h, Ne.symm h]

end CreditPool

/-! ## What a compound request reserves -/

lemma saturatingSum_eq_min (charges : List ℕ) :
    saturatingSum charges = min charges.sum u16Max := by
  have h : ∀ acc ≤ u16Max,
      charges.foldl (fun acc c => min (acc + c) u16Max) acc = min (acc + charges.sum) u16Max := by
    induction charges with
    | nil => intro acc hacc; simp [hacc]
    | cons c cs ih =>
      intro acc hacc
      rw [List.foldl_cons, ih _ (Nat.min_le_right _ _), List.sum_cons]
      omega
  simpa [saturatingSum] using h 0 (by decide)

lemma saturatingSum_of_le {charges : List ℕ} (h : charges.sum ≤ u16Max) :
    saturatingSum charges = charges.sum := by
  rw [saturatingSum_eq_min, Nat.min_eq_left h]

end Smb2
