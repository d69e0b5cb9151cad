import Smb2.Pack

set_option autoImplicit false

/-!
# AV_PAIRs of NTLM

The list of typed values in the target information of an NTLM challenge, as `auth/ntlm.rs` searches,
parses and rewrites it. An entry has an id and a length of two bytes each; the list ends with an entry
`MsvAvEOL`, with the data, or before the first entry that does not fit into it. The two loops of the
source keep an offset; here they are recursive on what is left of the data.
-/

open List

namespace Smb2.Ntlm

def msvAvEol : UInt16 := 0x0000

def parseAvPairs : Bytes → List (UInt16 × Bytes)
  | a :: b :: c :: d :: rest =>
    if UInt16.ofNat (leNat [a, b]) = msvAvEol then [(msvAvEol, [])]
    else if rest.length < leNat [c, d] then []
    else (UInt16.ofNat (leNat [a, b]), rest.take (leNat [c, d])) ::
      parseAvPairs (rest.drop (leNat [c, d]))
  | _ => []
termination_by data => data.length
decreasing_by simp only [length_cons, length_drop]; omega

lemma length_lt_of_mem {data : Bytes} {pair : UInt16 × Bytes} (h : pair ∈ parseAvPairs data) :
    pair.2.length < 65536 := by
  fun_induction parseAvPairs data with
  | case1 => rw [mem_singleton.1 h]; decide
  | case2 => cases h
  | case3 a b c d rest hid hfits ih =>
    rcases mem_cons.1 h with rfl | h
    · have hlt : leNat [c, d] < 256 ^ 2 := leNat_lt [c, d]
      rw [length_take]
      omega
    · exact ih h
  | case4 => cases h

end Smb2.Ntlm
