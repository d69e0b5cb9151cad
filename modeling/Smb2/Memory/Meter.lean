import Smb2.Lib.Metered
import Smb2.Pack

set_option autoImplicit false

/-!
# The memory that a reader reserves

Readers with a meter for the bytes of memory that they reserve. Memory for what a 32-bit field counts,
reserved before the counted elements are read, is charged ahead; all the other memory is charged as
secured.

## Implementation notes

The sizes are those of a target with 64-bit pointers. A vector that is made with a capacity is charged
with it. A vector or a text that grows as it is filled is charged with twice what it holds and the
smallest capacity that is ever reserved, which is the most that growing leaves reserved; three bytes
of UTF-8 are counted for a code unit. The texts of errors are left out.
-/

namespace Smb2

open ReadCursor

/-- **A reader with a meter** for the bytes that it reserves. -/
abbrev Meter (α : Type) := Metered ReadCursor Error α

namespace Memory

open Metered

lemma eats_takeN (n : ℕ) : Eats remaining n (takeN n) := by
  intro c bs c' h
  obtain ⟨hn, -, rfl⟩ := takeN_eq_ok.1 h
  simp only [remaining] at *
  omega

lemma eats_readU16Le : Eats remaining 2 readU16Le := (eats_takeN 2).bind fun _ => .pure _

lemma eats_readU32Le : Eats remaining 4 readU32Le := (eats_takeN 4).bind fun _ => .pure _

lemma eats_readU64Le : Eats remaining 8 readU64Le := (eats_takeN 8).bind fun _ => .pure _

lemma eats_expect (ok : Bool) (e : Error) : Eats remaining 0 (expect ok e) :=
  .ite (.pure _) (.throw _)

lemma eats_readBytesBounded (n : ℕ) : Eats remaining n (readBytesBounded n) := by
  unfold readBytesBounded
  refine .ite ?_ (eats_takeN n)
  exact .throw _

lemma eats_readBuffer (n : ℕ) : Eats remaining n (readBuffer n) := by
  unfold readBuffer
  split
  · exact eats_readBytesBounded n
  · exact (Eats.pure _).weaken (by omega)

lemma eats_skip (n : ℕ) : Eats remaining 0 (skip n) :=
  ((eats_takeN n).bind fun _ => .pure _).weaken (Nat.zero_le _)

lemma eats_position : Eats remaining 0 position := by
  intro c n c' h
  cases h
  exact le_rfl

def found (m : Reader (List ℕ)) (c : ReadCursor) : List ℕ := after m (fun ns _ => ns) c

end Memory

end Smb2
