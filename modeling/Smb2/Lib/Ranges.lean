import Mathlib.Algebra.GroupWithZero.Nat
import Mathlib.Data.Nat.Notation
import Mathlib.Tactic.Common

set_option autoImplicit false

/-!
# Copying ranges

Contents are functions of the position. A range of one contents is copied over another, and a list
of pieces is copied up to a number of elements, as one does who works off a list of requests and
may stop anywhere.
-/

open List

namespace Ranges

variable {α : Type*}

/-- **A range copied**: `n` elements, from position `src` of the source to position `dst`. -/
def copy (source : ℕ → α) (src dst n : ℕ) (contents : ℕ → α) : ℕ → α := fun i =>
  if dst ≤ i ∧ i < dst + n then source (src + (i - dst)) else contents i

variable {source contents : ℕ → α} {src dst : ℕ}

lemma copy_zero : copy source src dst 0 contents = contents := by
  funext i
  exact if_neg (by omega)

lemma copy_copy (m n : ℕ) :
    copy source (src + m) (dst + m) n (copy source src dst m contents) =
      copy source src dst (m + n) contents := by
  funext i
  unfold copy
  by_cases hsecond : dst + m ≤ i ∧ i < dst + m + n
  · rw [if_pos hsecond, if_pos (by omega)]
    congr 1
    omega
  · rw [if_neg hsecond]
    by_cases hfirst : dst ≤ i ∧ i < dst + m
    · rw [if_pos hfirst, if_pos (by omega)]
    · rw [if_neg hfirst, if_neg (by omega)]

structure Piece where
  source : ℕ
  target : ℕ
  length : ℕ
deriving DecidableEq, Repr

def total (pieces : List Piece) : ℕ := (pieces.map Piece.length).sum

lemma total_cons (piece : Piece) (pieces : List Piece) :
    total (piece :: pieces) = piece.length + total pieces := by
  rw [total, total, map_cons, sum_cons]

lemma total_append (xs ys : List Piece) : total (xs ++ ys) = total xs + total ys := by
  rw [total, total, total, map_append, sum_append]

/-- **Pieces worked off in order**, up to a number of elements. -/
def copyUpTo (source : ℕ → α) : List Piece → ℕ → (ℕ → α) → ℕ → α
  | [], _, contents => contents
  | piece :: pieces, n, contents =>
    copyUpTo source pieces (n - piece.length)
      (copy source piece.source piece.target (min n piece.length) contents)

def Contiguous : ℕ → ℕ → List Piece → Prop
  | _, _, [] => True
  | src, dst, piece :: pieces =>
    piece.source = src ∧ piece.target = dst ∧
      Contiguous (src + piece.length) (dst + piece.length) pieces

lemma copyUpTo_zero (pieces : List Piece) : copyUpTo source pieces 0 contents = contents := by
  induction pieces with
  | nil => rfl
  | cons piece pieces ih => rw [copyUpTo, Nat.zero_min, copy_zero, Nat.zero_sub, ih]

lemma copyUpTo_append (xs ys : List Piece) (n : ℕ) :
    copyUpTo source (xs ++ ys) (total xs + n) contents =
      copyUpTo source ys n (copyUpTo source xs (total xs) contents) := by
  induction xs generalizing contents with
  | nil => rw [total, map_nil, sum_nil, Nat.zero_add, nil_append, copyUpTo]
  | cons x xs ih =>
    rw [cons_append, copyUpTo, copyUpTo, total_cons, Nat.add_assoc, Nat.add_sub_cancel_left,
      Nat.add_sub_cancel_left, ih, Nat.min_eq_right (Nat.le_add_right ..),
      Nat.min_eq_right (Nat.le_add_right ..)]

/-- **Contiguous pieces copy a range**: as much of it as the pieces hold and the number allows. -/
theorem copyUpTo_of_contiguous {pieces : List Piece} (n : ℕ) (h : Contiguous src dst pieces) :
    copyUpTo source pieces n contents =
      copy source src dst (min n (total pieces)) contents := by
  induction pieces generalizing src dst n contents with
  | nil =>
    rw [total, map_nil, sum_nil, Nat.min_zero, copy_zero]
    rfl
  | cons piece pieces ih =>
    obtain ⟨rfl, rfl, hrest⟩ := h
    rw [copyUpTo, total_cons]
    by_cases hn : piece.length ≤ n
    · rw [Nat.min_eq_right hn, ih _ hrest, copy_copy]
      congr 1
      omega
    · have hstop : n - piece.length = 0 := by omega
      rw [hstop, copyUpTo_zero]
      congr 1
      omega

end Ranges
