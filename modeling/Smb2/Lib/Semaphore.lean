import Mathlib.Data.Nat.Notation
import Mathlib.Tactic.Common

set_option autoImplicit false

/-!
# A counting semaphore that can be closed

A semaphore holds a number of permits. Permits are taken many at a time or not at all, may be
added at any moment, and a closed semaphore never gives a permit out again. There is no
operation that opens it.
-/

structure Semaphore where
  permits : ℕ
  closed : Bool
deriving DecidableEq, Repr, Inhabited

namespace Semaphore

def new (n : ℕ) : Semaphore := ⟨n, false⟩

def tryAcquireMany (s : Semaphore) (n : ℕ) : Option Semaphore :=
  if s.closed = false ∧ n ≤ s.permits then some { s with permits := s.permits - n } else none

def addPermits (s : Semaphore) (n : ℕ) : Semaphore := { s with permits := s.permits + n }

def close (s : Semaphore) : Semaphore := { s with closed := true }

lemma tryAcquireMany_eq_some {s s' : Semaphore} {n : ℕ} :
    s.tryAcquireMany n = some s' ↔
      s.closed = false ∧ s'.closed = false ∧ s'.permits + n = s.permits := by
  unfold tryAcquireMany
  split
  · rename_i h
    rw [Option.some.injEq]
    constructor
    · rintro rfl
      refine ⟨h.1, h.1, ?_⟩
      dsimp only
      omega
    · rintro ⟨h1, h2, h3⟩
      cases s'
      simp only [Semaphore.mk.injEq] at *
      exact ⟨by omega, by rw [h2, h1]⟩
  · rename_i h
    simp only [reduceCtorEq, false_iff, not_and]
    intro h1 _ h3
    exact h ⟨h1, by omega⟩

@[simp] lemma permits_addPermits (s : Semaphore) (n : ℕ) :
    (s.addPermits n).permits = s.permits + n := rfl

@[simp] lemma closed_addPermits (s : Semaphore) (n : ℕ) :
    (s.addPermits n).closed = s.closed := rfl

@[simp] lemma permits_close (s : Semaphore) : s.close.permits = s.permits := rfl

@[simp] lemma closed_close (s : Semaphore) : s.close.closed = true := rfl

lemma addPermits_eq_self_iff {s : Semaphore} {n : ℕ} : s.addPermits n = s ↔ n = 0 := by
  cases s
  simp [addPermits]

lemma close_eq_self_iff {s : Semaphore} : s.close = s ↔ s.closed = true := by
  cases s
  simp [close, eq_comm]

end Semaphore
