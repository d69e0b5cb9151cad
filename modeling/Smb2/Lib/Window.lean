import Mathlib.Algebra.BigOperators.Group.List.Basic
import Mathlib.Algebra.GroupWithZero.Nat
import Mathlib.Data.List.Range
import Mathlib.Tactic.Common

set_option autoImplicit false

/-!
# Jobs in flight

Jobs are numbered in the order in which they are launched and are completed in any order. The
window holds the numbers of the jobs that are in flight; together with the list of the completed
ones it accounts for every job launched, each once.
-/

open List

/-- **The jobs in flight**, and how many were launched. -/
structure Window where
  sent : ℕ
  inFlight : List ℕ
deriving DecidableEq, Repr

namespace Window

def empty : Window := ⟨0, []⟩

def launch (w : Window) : Window := ⟨w.sent + 1, w.inFlight ++ [w.sent]⟩

def launchMany : ℕ → Window → Window
  | 0, w => w
  | n + 1, w => launchMany n w.launch

def complete (w : Window) (i : ℕ) : Window := { w with inFlight := w.inFlight.erase i }

/-- **The account**: the completed jobs and those in flight are the launched ones, each once. -/
def Accounted (done : List ℕ) (w : Window) : Prop := (done ++ w.inFlight).Perm (range w.sent)

variable {done : List ℕ} {w : Window} {i : ℕ}

lemma accounted_empty : Accounted [] empty := Perm.refl _

lemma Accounted.launch (h : Accounted done w) : Accounted done w.launch := by
  unfold Accounted Window.launch
  rw [← append_assoc, range_succ]
  exact h.append_right [w.sent]

lemma Accounted.launchMany (h : Accounted done w) (n : ℕ) : Accounted done (w.launchMany n) := by
  induction n generalizing w with
  | zero => exact h
  | succ n ih => exact ih h.launch

lemma Accounted.complete (h : Accounted done w) (hi : i ∈ w.inFlight) :
    Accounted (done ++ [i]) (w.complete i) := by
  unfold Accounted Window.complete
  rw [append_assoc]
  have hfront : ([i] ++ w.inFlight.erase i).Perm w.inFlight := (perm_cons_erase hi).symm
  exact (hfront.append_left done).trans h

@[simp] lemma sent_launchMany (n : ℕ) (w : Window) : (w.launchMany n).sent = w.sent + n := by
  induction n generalizing w with
  | zero => rfl
  | succ n ih =>
    rw [launchMany, ih]
    show w.sent + 1 + n = w.sent + (n + 1)
    omega

lemma Accounted.length_eq (h : Accounted done w) : done.length + w.inFlight.length = w.sent := by
  have hlen := Perm.length_eq h
  rwa [length_append, length_range] at hlen

lemma Accounted.lt (h : Accounted done w) (hi : i ∈ w.inFlight) : i < w.sent := by
  have : i ∈ range w.sent := h.mem_iff.1 (mem_append_right done hi)
  exact mem_range.1 this

lemma Accounted.notMem (h : Accounted done w) (hi : i ∈ w.inFlight) : i ∉ done := by
  have hnodup : (done ++ w.inFlight).Nodup := h.nodup_iff.2 nodup_range
  exact fun hd => (nodup_append.1 hnodup).2.2 i hd i hi rfl

lemma Accounted.perm_range (h : Accounted done w) (hidle : w.inFlight = []) :
    done.Perm (range w.sent) := by
  unfold Accounted at h
  rwa [hidle, append_nil] at h

end Window
