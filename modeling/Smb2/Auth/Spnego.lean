import Smb2.Auth.Der

set_option autoImplicit false

/-!
# SPNEGO

The wrapper around authentication tokens (`auth/spnego.rs`): the initial token of the client with
the mechanisms it offers, the later ones with nothing but a token, and what the server sends back.
-/

open List

namespace Smb2.Spnego

/-! ## Object identifiers -/

def oidSpnego : Bytes := [0x06, 0x06, 0x2b, 0x06, 0x01, 0x05, 0x05, 0x02]

def oidKerberos : Bytes := [0x06, 0x09, 0x2a, 0x86, 0x48, 0x86, 0xf7, 0x12, 0x01, 0x02, 0x02]

def oidMsKerberos : Bytes := [0x06, 0x09, 0x2a, 0x86, 0x48, 0x82, 0xf7, 0x12, 0x01, 0x02, 0x02]

/-! ## Wrapping -/

def wrapNegTokenInit (mechOids : List Bytes) (mechToken : Bytes) : Bytes :=
  let mechTypes := derTlv 0xa0 (derTlv 0x30 mechOids.flatten)
  let mechTokenCtx := derTlv 0xa2 (derTlv 0x04 mechToken)
  derTlv 0x60 (oidSpnego ++ derTlv 0xa0 (derTlv 0x30 (mechTypes ++ mechTokenCtx)))

def wrapNegTokenResp (mechToken : Bytes) : Bytes :=
  derTlv 0xa1 (derTlv 0x30 (derTlv 0xa2 (derTlv 0x04 mechToken)))

/-! ## Parsing -/

inductive NegState
  | acceptCompleted
  | acceptIncomplete
  | reject
deriving DecidableEq

def NegState.fromValue (v : UInt8) : Option NegState :=
  if v = 0 then some .acceptCompleted
  else if v = 1 then some .acceptIncomplete
  else if v = 2 then some .reject
  else none

structure NegTokenResp where
  negState : Option NegState := none
  supportedMech : Option Bytes := none
  responseToken : Option Bytes := none
  mechListMic : Option Bytes := none
deriving DecidableEq

def octetString (what : String) (data : Bytes) : Except Error Bytes := do
  let (tag, value, _) ← parseDerTlv data
  if tag ≠ 0x04 then
    throw (.invalidData
      ("SPNEGO: expected OCTET STRING for " ++ what ++ ", got tag 0x" ++ hexByte tag))
  return value

def respField (resp : NegTokenResp) (tag : UInt8) (value : Bytes) : Except Error NegTokenResp := do
  if tag = 0xa0 then
    let (enumTag, enumValue, _) ← parseDerTlv value
    if enumTag ≠ 0x0a then
      throw (.invalidData
        ("SPNEGO: expected ENUMERATED for negState, got tag 0x" ++ hexByte enumTag))
    match enumValue with
    | [] => throw (.invalidData "SPNEGO: empty ENUMERATED for negState")
    | v :: _ =>
      match NegState.fromValue v with
      | some state => return { resp with negState := some state }
      | none => throw (.invalidData s!"SPNEGO: unknown negState value: {v}")
  else if tag = 0xa1 then return { resp with supportedMech := some value }
  else if tag = 0xa2 then
    return { resp with responseToken := some (← octetString "responseToken" value) }
  else if tag = 0xa3 then
    return { resp with mechListMic := some (← octetString "mechListMIC" value) }
  else return resp

def sequenceBody (what : String) (data : Bytes) : Except Error Bytes := do
  let (tag, body, _) ← parseDerTlv data
  if tag ≠ 0x30 then
    throw (.invalidData ("SPNEGO: expected SEQUENCE in " ++ what ++ ", got tag 0x" ++ hexByte tag))
  return body

def parseNegTokenRespInner (data : Bytes) : Except Error NegTokenResp := do
  derReader.eachField respField {} (← sequenceBody "NegTokenResp" data)

def init2Field (resp : NegTokenResp) (tag : UInt8) (value : Bytes) :
    Except Error NegTokenResp := do
  if tag = 0xa0 then
    let (seqTag, mechList, _) ← parseDerTlv value
    if seqTag ≠ 0x30 then
      throw (.invalidData "SPNEGO: expected SEQUENCE for mechTypes")
    if mechList = [] then return resp
    let (oidTag, _, oidTotal) ← parseDerTlv mechList
    return if oidTag = 0x06 then { resp with supportedMech := some (mechList.take oidTotal) }
      else resp
  else if tag = 0xa2 then
    let (octTag, octValue, _) ← parseDerTlv value
    return if octTag = 0x04 then { resp with responseToken := some octValue } else resp
  else return resp

def parseNegTokenInit2AsResp (data : Bytes) : Except Error NegTokenResp := do
  derReader.eachField init2Field {} (← sequenceBody "NegTokenInit2" data)

/-- `parse_neg_token_resp`: a bare NegTokenResp, or one or a NegTokenInit2 in the outer wrapper. -/
def parseNegTokenResp (data : Bytes) : Except Error NegTokenResp := do
  if data = [] then throw (.invalidData "SPNEGO: empty token")
  let (tag, value, _) ← parseDerTlv data
  if tag = 0xa1 then parseNegTokenRespInner value
  else if tag = 0x60 then
    let (oidTag, _, oidTotal) ← parseDerTlv value
    if oidTag ≠ 0x06 then
      throw (.invalidData
        ("SPNEGO: expected OID in APPLICATION [0], got tag 0x" ++ hexByte oidTag))
    let (innerTag, innerValue, _) ← parseDerTlv (value.drop oidTotal)
    if innerTag = 0xa0 then parseNegTokenInit2AsResp innerValue
    else if innerTag = 0xa1 then parseNegTokenRespInner innerValue
    else throw (.invalidData
      ("SPNEGO: unexpected tag 0x" ++ hexByte innerTag ++ " inside APPLICATION [0]"))
  else throw (.invalidData
    ("SPNEGO: expected NegTokenResp [1] or APPLICATION [0], got tag 0x" ++ hexByte tag))

example : parseNegTokenResp (wrapNegTokenResp [2, 0, 7]) =
    .ok { responseToken := some [2, 0, 7] } := by decide +kernel

/-! ## Tokens that are read back -/

/-- **An encoding is read back**: its outer element as it was written, and the token in it. -/
def ReadBack (encoding token : Bytes) : Prop :=
  (∃ tag contents, encoding = derTlv tag contents ∧
    parseDerTlv encoding = .ok (tag, contents, encoding.length)) ∧
    ∃ resp, parseNegTokenResp encoding = .ok resp ∧ resp.responseToken = some token

variable {data rest : Bytes}

lemma parseDerTlv_derTlv (h : data.length < 65536) (tag : UInt8) :
    parseDerTlv (derTlv tag data) = .ok (tag, data, (derTlv tag data).length) := by
  have hparse := DerReader.parseTlv_derTlv (R := derReader) h tag []
  rwa [append_nil] at hparse

lemma length_lt_of_readBack {encoding token : Bytes} (h : ReadBack encoding token) :
    encoding.length < 65540 := by
  obtain ⟨⟨tag, contents, rfl, hparse⟩, -⟩ := h
  by_contra hlong
  have hlen := length_derTlv tag contents
  have hcontents : 65536 ≤ contents.length := by
    split_ifs at hlen <;> omega
  have hcut := DerReader.parseTlv_derTlv_of_le (R := derReader) hcontents tag []
  rw [append_nil] at hcut
  exact hcut hparse

lemma lt_of_length_derTlv {tag : UInt8} (h : (derTlv tag data).length < 65540) :
    data.length < 65536 := by
  rw [length_derTlv] at h
  split_ifs at h <;> omega

lemma eachField_init2 {bodies : List Bytes} {token : Bytes}
    (h : (derTlv 0xa0 (derTlv 0x30 (bodies.map (derTlv 0x06)).flatten) ++
      derTlv 0xa2 (derTlv 0x04 token)).length < 65536) :
    ∃ resp, derReader.eachField init2Field {}
        (derTlv 0xa0 (derTlv 0x30 (bodies.map (derTlv 0x06)).flatten) ++
          derTlv 0xa2 (derTlv 0x04 token)) = .ok resp ∧ resp.responseToken = some token := by
  rw [length_append] at h
  have hmechs := length_lt_derTlv 0xa0 (derTlv 0x30 (bodies.map (derTlv 0x06)).flatten)
  have hlist := length_lt_derTlv 0x30 (bodies.map (derTlv 0x06)).flatten
  have htoken := length_lt_derTlv 0xa2 (derTlv 0x04 token)
  have hoctets := length_lt_derTlv 0x04 token
  obtain ⟨mech, hfirst⟩ : ∃ mech, init2Field {} 0xa0 (derTlv 0x30 (bodies.map (derTlv 0x06)).flatten) =
      .ok { supportedMech := mech } := by
    have hseq := parseDerTlv_derTlv (show ((bodies.map (derTlv 0x06)).flatten).length < 65536 by omega) 0x30
    simp only [init2Field, if_true, hseq, bind, Except.bind]
    cases bodies with
    | nil => exact ⟨none, rfl⟩
    | cons body bodies =>
      have hbody : body.length < 65536 := by
        have hsplit : ((body :: bodies).map (derTlv 0x06)).flatten.length =
            (derTlv 0x06 body).length + (bodies.map (derTlv 0x06)).flatten.length := by
          rw [map_cons, flatten_cons, length_append]
        have := length_lt_derTlv 0x06 body
        omega
      have hoid := DerReader.parseTlv_derTlv (R := derReader) hbody 0x06
        (bodies.map (derTlv 0x06)).flatten
      have hne : derTlv 0x06 body ++ (bodies.map (derTlv 0x06)).flatten ≠ [] := by simp [derTlv]
      simp only [map_cons, flatten_cons, parseDerTlv, hoid, hne, if_false]
      exact ⟨_, rfl⟩
  rw [DerReader.eachField_derTlv (by omega), hfirst]
  have hoctet := parseDerTlv_derTlv (show token.length < 65536 by omega) 0x04
  refine ⟨{ supportedMech := mech, responseToken := some token }, ?_, rfl⟩
  show derReader.eachField init2Field { supportedMech := mech } (derTlv 0xa2 (derTlv 0x04 token)) = _
  rw [← append_nil (derTlv 0xa2 (derTlv 0x04 token)), DerReader.eachField_derTlv (by omega)]
  show ((parseDerTlv (derTlv 0x04 token) >>= fun _ => _) >>= fun _ => _) = _
  rw [hoctet]
  rfl

/-- **DER elements round-trip** exactly if their contents are shorter than 64 KiB, though the parser
reads lengths up to 2 ^ 24; and so do the tokens of SPNEGO, exactly if the contents of the outer
element are.

**Proof sketch.** A longer length is written with 16 bits, so another one is read. In a shorter element
all elements inside are shorter too, and each level of nesting is read back by the same lemma. -/
theorem der_roundTrip_iff (tag : UInt8) (data rest : Bytes) (bodies : List Bytes) (token : Bytes) :
    (parseDerTlv (derTlv tag data ++ rest) = .ok (tag, data, (derTlv tag data).length) ↔
      data.length < 65536) ∧
    (ReadBack (wrapNegTokenInit (bodies.map (derTlv 0x06)) token) token ↔
      (wrapNegTokenInit (bodies.map (derTlv 0x06)) token).length < 65540) ∧
    (ReadBack (wrapNegTokenResp token) token ↔ (wrapNegTokenResp token).length < 65540) := by
  refine ⟨?_, ?_, ?_⟩
  · constructor
    · intro hparse
      by_contra hlong
      exact DerReader.parseTlv_derTlv_of_le (Nat.le_of_not_lt hlong) tag rest hparse
    · intro h
      exact DerReader.parseTlv_derTlv h tag rest
  · refine ⟨length_lt_of_readBack, fun h => ?_⟩
    have houter := lt_of_length_derTlv h
    refine ⟨⟨_, _, rfl, parseDerTlv_derTlv houter 0x60⟩, ?_⟩
    set fields := derTlv 0xa0 (derTlv 0x30 (bodies.map (derTlv 0x06)).flatten) ++
      derTlv 0xa2 (derTlv 0x04 token) with hfields
    rw [length_append] at houter
    have hchoice := length_lt_derTlv 0xa0 (derTlv 0x30 fields)
    have hseq := length_lt_derTlv 0x30 fields
    obtain ⟨resp, hresp, htoken⟩ := eachField_init2 (show fields.length < 65536 by omega)
    refine ⟨resp, ?_, htoken⟩
    have hvalue : parseDerTlv (oidSpnego ++ derTlv 0xa0 (derTlv 0x30 fields)) =
        .ok (0x06, oidSpnego.drop 2, oidSpnego.length) :=
      DerReader.parseTlv_derTlv (show (oidSpnego.drop 2).length < 65536 by decide) 0x06 _
    have hinner : parseNegTokenInit2AsResp (derTlv 0x30 fields) = .ok resp := by
      simp only [parseNegTokenInit2AsResp, sequenceBody, bind, Except.bind,
        parseDerTlv_derTlv (show fields.length < 65536 by omega) 0x30]
      exact hresp
    show parseNegTokenResp (derTlv 0x60 (oidSpnego ++ derTlv 0xa0 (derTlv 0x30 fields))) = _
    simp only [parseNegTokenResp, bind, Except.bind, hvalue, drop_left,
      parseDerTlv_derTlv (show (oidSpnego ++ derTlv 0xa0 (derTlv 0x30 fields)).length < 65536 by
        rw [length_append]; omega) 0x60,
      parseDerTlv_derTlv (show (derTlv 0x30 fields).length < 65536 by omega) 0xa0]
    exact hinner
  · refine ⟨length_lt_of_readBack, fun h => ?_⟩
    have houter := lt_of_length_derTlv h
    refine ⟨⟨_, _, rfl, parseDerTlv_derTlv houter 0xa1⟩, { responseToken := some token }, ?_, rfl⟩
    have hseq := length_lt_derTlv 0x30 (derTlv 0xa2 (derTlv 0x04 token))
    have hctx := length_lt_derTlv 0xa2 (derTlv 0x04 token)
    have hoctet := length_lt_derTlv 0x04 token
    have hinner : parseNegTokenRespInner (derTlv 0x30 (derTlv 0xa2 (derTlv 0x04 token))) =
        .ok { responseToken := some token } := by
      simp only [parseNegTokenRespInner, sequenceBody, bind, Except.bind,
        parseDerTlv_derTlv (show (derTlv 0xa2 (derTlv 0x04 token)).length < 65536 by omega) 0x30]
      show derReader.eachField respField {} (derTlv 0xa2 (derTlv 0x04 token)) = _
      rw [← append_nil (derTlv 0xa2 (derTlv 0x04 token)),
        DerReader.eachField_derTlv (by omega)]
      simp only [respField, octetString, bind, Except.bind,
        parseDerTlv_derTlv (show token.length < 65536 by omega) 0x04]
      rfl
    show parseNegTokenResp (derTlv 0xa1 (derTlv 0x30 (derTlv 0xa2 (derTlv 0x04 token)))) = _
    simp only [parseNegTokenResp, bind, Except.bind,
      parseDerTlv_derTlv (show (derTlv 0x30 (derTlv 0xa2 (derTlv 0x04 token))).length < 65536 by omega) 0xa1]
    exact hinner

lemma parseDerTlv_of_length_eq (hlen : data.length = 65536) :
    parseDerTlv (derTlv 0x04 data) = .ok (0x04, [], 4) := by
  have hencoding : derTlv 0x04 data = 0x04 :: 0x82 :: 0 :: 0 :: data := by
    rw [derTlv, hlen]
    rfl
  have hlength : derReader.parseLength (0x82 :: 0 :: 0 :: data) = .ok (0, 3) := rfl
  have hlong : ¬ data.length + 1 + 1 + 1 + 1 < 4 := by omega
  simp only [hencoding, parseDerTlv, DerReader.parseTlv, hlength, bind, Except.bind,
    length_cons, Nat.reduceAdd, if_neg hlong]
  rfl

/-- **A length that is cut off**: an OCTET STRING of 64 KiB is read as an empty one. -/
theorem long_octetString_read_empty :
    parseDerTlv (derTlv 0x04 (replicate 65536 0)) = .ok (0x04, [], 4) :=
  parseDerTlv_of_length_eq length_replicate

end Smb2.Spnego
