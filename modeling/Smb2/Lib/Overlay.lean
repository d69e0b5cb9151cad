import Mathlib.Data.List.Basic
import Mathlib.Data.Nat.Basic
import Mathlib.Logic.Function.Basic
import Mathlib.Tactic.Common

set_option autoImplicit false

/-!
# Filling a buffer piece by piece

A buffer is preallocated with a fill element and pieces of a source are written into it, one for
each cell of a grid of equal size, in any order. A piece may be shorter than its cell; what it
leaves out keeps the fill element.
-/

open List

namespace Overlay

variable {α : Type*}

/-- **A piece written over a buffer** at an offset; what would stand behind the end is cut off. -/
def write (buf : List α) (off : ℕ) (piece : List α) : List α :=
  buf.take off ++ piece.take (buf.length - off) ++ buf.drop (off + piece.length)

variable {buf piece source : List α} {off : ℕ}

lemma length_write (h : off ≤ buf.length) : (write buf off piece).length = buf.length := by
  simp only [write, length_append, length_take, length_drop]
  omega

/-- **A written buffer**, position by position: the piece where it stands, the old buffer
elsewhere. -/
lemma getElem?_write (h : off ≤ buf.length) (p : ℕ) :
    (write buf off piece)[p]? =
      if off ≤ p ∧ p < off + piece.length ∧ p < buf.length then piece[p - off]? else buf[p]? := by
  have htake : (buf.take off).length = off := by
    rw [length_take]
    omega
  rw [write, append_assoc]
  by_cases hp : p < off
  · rw [if_neg (by omega), getElem?_append_left (by omega), getElem?_take, if_pos hp]
  · rw [getElem?_append_right (by omega), htake]
    have hcut : (piece.take (buf.length - off)).length = min (buf.length - off) piece.length :=
      length_take
    by_cases hin : p < off + piece.length ∧ p < buf.length
    · rw [if_pos ⟨by omega, hin⟩, getElem?_append_left (by omega), getElem?_take,
        if_pos (by omega)]
    · rw [if_neg (by omega), getElem?_append_right (by omega), hcut, getElem?_drop]
      by_cases hend : p < buf.length
      · congr 1
        omega
      · rw [getElem?_eq_none (by omega), getElem?_eq_none (by omega)]

/-! ## The grid -/

/-- **A partly filled buffer**: of cell `i` of the grid the first `got i` elements are those of
the source, and everything else is the fill element `z`. -/
def Filled (z : α) (size : ℕ) (got : ℕ → ℕ) (source buf : List α) : Prop :=
  ∀ p, p < buf.length →
    buf[p]? = if p % size < got (p / size) then source[p]? else some z

variable {z : α} {size : ℕ} {got : ℕ → ℕ}

lemma filled_replicate (n : ℕ) : Filled z size (fun _ => 0) source (replicate n z) := by
  intro p hp
  rw [length_replicate] at hp
  simp [hp]

lemma cell_iff {i p k : ℕ} (hk : k ≤ size) :
    (i * size ≤ p ∧ p < i * size + k) ↔ p / size = i ∧ p % size < k := by
  have hp := Nat.div_add_mod p size
  constructor
  · rintro ⟨hle, hlt⟩
    have hdiv : p / size = i := by
      apply Nat.div_eq_of_lt_le
      · exact hle
      · rw [Nat.succ_mul]
        omega
    subst hdiv
    rw [Nat.mul_comm] at hlt
    exact ⟨rfl, by omega⟩
  · rintro ⟨rfl, hlt⟩
    rw [Nat.mul_comm]
    omega

/-- **One piece.** Writing the beginning of the source's cell `i` into a buffer that has nothing
of that cell yet fills as much of the cell as the piece is long.

**Proof sketch.** Position by position: inside the piece the buffer now holds the piece, which is
the source there; elsewhere neither the buffer nor the amount filled changes. -/
theorem Filled.write {i : ℕ} (h : Filled z size got source buf) (hi : i * size ≤ buf.length)
    (hgot : got i = 0)
    (hpiece : piece <+: (source.drop (i * size)).take size) :
    Filled z size (Function.update got i piece.length) source
      (write buf (i * size) piece) := by
  have hlen : piece.length ≤ size :=
    le_trans hpiece.length_le (by rw [length_take]; omega)
  intro p hp
  rw [length_write hi] at hp
  rw [getElem?_write hi]
  have hcell := cell_iff (i := i) (p := p) hlen
  by_cases hin : p / size = i ∧ p % size < piece.length
  · obtain ⟨hle, hlt⟩ := hcell.2 hin
    rw [if_pos ⟨hle, hlt, hp⟩, hin.1, Function.update_self, if_pos hin.2]
    have hsource : piece[p - i * size]? =
        ((source.drop (i * size)).take size)[p - i * size]? := by
      obtain ⟨rest, hrest⟩ := hpiece
      rw [← hrest, getElem?_append_left (by omega)]
    rw [hsource, getElem?_take, if_pos (by omega), getElem?_drop]
    congr 1
    omega
  · rw [if_neg (fun hw => hin (hcell.1 ⟨hw.1, hw.2.1⟩)), h p hp]
    by_cases hcol : p / size = i
    · rw [hcol, hgot, Function.update_self, if_neg (by omega), if_neg (fun hlt => hin ⟨hcol, hlt⟩)]
    · rw [Function.update_of_ne hcol]

/-- **The whole buffer** is the source exactly if the source has the fill element wherever nothing
was written. -/
theorem Filled.eq_iff (h : Filled z size got source buf) (hlen : buf.length = source.length) :
    buf = source ↔
      ∀ p, p < source.length → got (p / size) ≤ p % size → source[p]? = some z := by
  constructor
  · rintro rfl p hp hleft
    rw [h p hp, if_neg (by omega)]
  · intro hz
    apply ext_getElem?
    intro p
    by_cases hp : p < source.length
    · rw [h p (by omega)]
      by_cases hgot : p % size < got (p / size)
      · rw [if_pos hgot]
      · rw [if_neg hgot, hz p hp (by omega)]
    · rw [getElem?_eq_none (by omega), getElem?_eq_none (by omega)]

/-! ## Pieces in any order -/

/-- **Placed pieces**: the cells in `done` hold their pieces from the first element on, and
everything else is the fill element `z`. -/
def Placed (z : α) (size : ℕ) (pieces : ℕ → List α) (done : List ℕ) (buf : List α) : Prop :=
  ∀ p, p < buf.length →
    buf[p]? = some (if p / size ∈ done then ((pieces (p / size))[p % size]?).getD z else z)

variable {pieces : ℕ → List α} {done done' : List ℕ}

lemma placed_replicate (n : ℕ) : Placed z size pieces [] (replicate n z) := by
  intro p hp
  rw [length_replicate] at hp
  simp [hp]

/-- **One piece** is placed in a cell that has none yet. -/
theorem Placed.write {i : ℕ} (h : Placed z size pieces done buf) (hi : i * size ≤ buf.length)
    (hnew : i ∉ done) (hlen : (pieces i).length ≤ size) :
    Placed z size pieces (done ++ [i]) (write buf (i * size) (pieces i)) := by
  intro p hp
  rw [length_write hi] at hp
  rw [getElem?_write hi]
  have hcell := cell_iff (i := i) (p := p) hlen
  by_cases hcol : p / size = i
  · have hdone : p / size ∈ done ++ [i] := by
      rw [hcol]
      exact mem_append_right _ (mem_singleton_self i)
    have hpos : p - i * size = p % size := by
      have := Nat.div_add_mod p size
      rw [hcol, Nat.mul_comm] at this
      omega
    rw [if_pos hdone, hcol]
    by_cases hin : p % size < (pieces i).length
    · obtain ⟨hle, hlt⟩ := hcell.2 ⟨hcol, hin⟩
      rw [if_pos ⟨hle, hlt, hp⟩, hpos, getElem?_eq_getElem hin]
      rfl
    · rw [if_neg fun hw => hin (hcell.1 ⟨hw.1, hw.2.1⟩).2, h p hp, hcol, if_neg hnew,
        getElem?_eq_none (by omega)]
      rfl
  · have hdone : p / size ∈ done ++ [i] ↔ p / size ∈ done := by
      rw [mem_append, mem_singleton, or_iff_left hcol]
    rw [if_neg fun hw => hcol (hcell.1 ⟨hw.1, hw.2.1⟩).1, h p hp]
    simp only [hdone]

/-- **The order does not matter**: two buffers of one length with the same cells placed are
equal. -/
theorem Placed.unique {buf' : List α} (h : Placed z size pieces done buf)
    (h' : Placed z size pieces done' buf') (hlen : buf.length = buf'.length)
    (hdone : ∀ i, i ∈ done ↔ i ∈ done') : buf = buf' := by
  apply ext_getElem?
  intro p
  by_cases hp : p < buf.length
  · rw [h p hp, h' p (by omega)]
    simp only [hdone]
  · rw [getElem?_eq_none (by omega), getElem?_eq_none (by omega)]

end Overlay
