import Mathlib.Data.List.Basic
import Mathlib.Tactic.Common

set_option autoImplicit false

/-!
# Handing messages to outstanding requests

Messages that carry a key are handed, in the order in which they come, to the requests that are
outstanding under these keys. A request takes the first message with its key and is not
outstanding any more; a message that no request is waiting for is dropped.
-/

namespace Dispatch

variable {κ α β : Type*} [DecidableEq κ]

/-- **The messages taken**, for a list of outstanding keys. -/
def deliver : List κ → List (κ × α) → List (κ × α)
  | _, [] => []
  | keys, m :: ms => if m.1 ∈ keys then m :: deliver (keys.erase m.1) ms else deliver keys ms

variable {keys : List κ} {m : κ × α} {ms : List (κ × α)}

lemma deliver_cons_of_mem (h : m.1 ∈ keys) :
    deliver keys (m :: ms) = m :: deliver (keys.erase m.1) ms := by
  rw [deliver, if_pos h]

lemma deliver_cons_of_notMem (h : m.1 ∉ keys) :
    deliver keys (m :: ms) = deliver keys ms := by
  rw [deliver, if_neg h]

/-- **Naturality.** What the messages say plays no part in which of them are taken. -/
theorem deliver_map (f : κ × α → β) (keys : List κ) (ms : List (κ × α)) :
    deliver keys (ms.map fun m => (m.1, f m)) = (deliver keys ms).map fun m => (m.1, f m) := by
  induction ms generalizing keys with
  | nil => rfl
  | cons m ms ih =>
    rw [List.map_cons]
    by_cases h : m.1 ∈ keys
    · rw [deliver_cons_of_mem h, deliver_cons_of_mem (m := (m.1, f m)) h, ih, List.map_cons]
    · rw [deliver_cons_of_notMem h, deliver_cons_of_notMem (m := (m.1, f m)) h, ih]

lemma mem_of_mem_deliver (h : m ∈ deliver keys ms) : m ∈ ms := by
  induction ms generalizing keys with
  | nil => exact h
  | cons n ms ih =>
    by_cases hn : n.1 ∈ keys
    · rw [deliver_cons_of_mem hn] at h
      rcases List.mem_cons.1 h with rfl | h
      · exact List.mem_cons_self ..
      · exact List.mem_cons_of_mem _ (ih h)
    · rw [deliver_cons_of_notMem hn] at h
      exact List.mem_cons_of_mem _ (ih h)

end Dispatch
