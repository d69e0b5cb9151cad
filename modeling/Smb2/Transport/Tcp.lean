import Smb2.Pack

set_option autoImplicit false

/-!
# Direct TCP transport

The framing of `transport/tcp.rs`: a zero byte, the length of the message as three big-endian
bytes, the message.

## Implementation notes

Errors of the socket are left to the environment: `send` is what is written if it does not fail. The
bytes of a socket are a list of segments, as they arrive; after the last one the peer has closed.
-/

open List

namespace Smb2

namespace Tcp

def maxFrameSize : ℕ := 16 * 1024 * 1024

def frameHeader (len : ℕ) : Bytes :=
  [0x00, UInt8.ofNat (len / 2 ^ 16), UInt8.ofNat (len / 2 ^ 8), UInt8.ofNat len]

def send (data : Bytes) : Except Error Bytes :=
  let len := data.length
  if len > maxFrameSize then
    let max := maxFrameSize
    .error (.invalidData s!"message size {len} exceeds maximum frame size {max}")
  else
    .ok (frameHeader len ++ data)

variable {data message : Bytes} {n : ℕ} {segments a b : List Bytes}

lemma send_of_le (h : data.length ≤ maxFrameSize) :
    send data = .ok (frameHeader data.length ++ data) :=
  if_neg (Nat.not_lt.2 h)

lemma send_of_gt {sent : Bytes} (h : maxFrameSize < data.length) : send data ≠ .ok sent := by
  rw [send, if_pos h]
  exact fun h => by cases h

/-! ## Receiving -/

/-- `read_exact`: so many bytes from the segments that arrive. An empty segment is a wakeup without
data; without segments the stream has ended. -/
def readExact : ℕ → List Bytes → Except Error Bytes × List Bytes
  | n, [] => (if n = 0 then .ok [] else .error .disconnected, [])
  | n, segment :: rest =>
    if n ≤ segment.length then (.ok (segment.take n), segment.drop n :: rest)
    else
      match readExact (n - segment.length) rest with
      | (.ok bytes, left) => (.ok (segment ++ bytes), left)
      | (.error e, left) => (.error e, left)

def frameLength (b1 b2 b3 : UInt8) : ℕ := b1.toNat <<< 16 ||| b2.toNat <<< 8 ||| b3.toNat

def receive (segments : List Bytes) : Except Error Bytes × List Bytes :=
  match readExact 4 segments with
  | (.error e, left) => (.error e, left)
  | (.ok header, left) =>
    let first := header.getD 0 0
    if first ≠ 0x00 then
      (.error (.invalidData ("invalid transport frame: first byte must be 0x00, got 0x" ++
        hexPadded 2 first.toNat)), left)
    else
      let len := frameLength (header.getD 1 0) (header.getD 2 0) (header.getD 3 0)
      if len > maxFrameSize then
        let max := maxFrameSize
        (.error (.invalidData s!"frame length {len} exceeds maximum {max}"), left)
      else
        readExact len left

def receives : ℕ → List Bytes → List (Except Error Bytes)
  | 0, _ => []
  | k + 1, segments => (receive segments).1 :: receives k (receive segments).2

def sendAll (messages : List Bytes) : Except Error Bytes := do
  let frames ← messages.mapM send
  return frames.flatten

lemma readExact_of_le (h : n ≤ segments.flatten.length) :
    ∃ left, readExact n segments = (.ok (segments.flatten.take n), left) ∧
      left.flatten = segments.flatten.drop n := by
  induction segments generalizing n with
  | nil =>
    obtain rfl : n = 0 := Nat.le_zero.1 h
    exact ⟨[], rfl, rfl⟩
  | cons segment rest ih =>
    rw [flatten_cons, length_append] at h
    rw [readExact]
    split
    · rename_i hle
      refine ⟨segment.drop n :: rest, ?_, ?_⟩
      · rw [flatten_cons, take_append_of_le_length hle]
      · rw [flatten_cons, flatten_cons, drop_append_of_le_length hle]
    · rename_i hgt
      have hlen : segment.length ≤ n := Nat.le_of_not_le hgt
      obtain ⟨left, hread, hleft⟩ := ih (show n - segment.length ≤ rest.flatten.length by omega)
      refine ⟨left, ?_, ?_⟩
      · rw [hread, flatten_cons, take_append, take_of_length_le hlen]
      · rw [hleft, flatten_cons, drop_append, drop_of_length_le hlen,
          nil_append]

lemma readExact_of_lt (h : segments.flatten.length < n) :
    readExact n segments = (.error .disconnected, []) := by
  induction segments generalizing n with
  | nil =>
    have hpos : n ≠ 0 := Nat.ne_of_gt h
    rw [readExact, if_neg hpos]
  | cons segment rest ih =>
    rw [flatten_cons, length_append] at h
    rw [readExact, if_neg (by omega), ih (by omega)]

lemma readExact_congr (h : a.flatten = b.flatten) :
    (readExact n a).1 = (readExact n b).1 ∧
      (readExact n a).2.flatten = (readExact n b).2.flatten := by
  by_cases hlen : n ≤ a.flatten.length
  · obtain ⟨left, hread, hleft⟩ := readExact_of_le hlen
    obtain ⟨left', hread', hleft'⟩ := readExact_of_le (h ▸ hlen)
    rw [hread, hread', hleft, hleft', h]
    exact ⟨rfl, rfl⟩
  · rw [readExact_of_lt (Nat.lt_of_not_le hlen), readExact_of_lt (h ▸ Nat.lt_of_not_le hlen)]
    exact ⟨rfl, rfl⟩

lemma receive_congr (h : a.flatten = b.flatten) :
    (receive a).1 = (receive b).1 ∧ (receive a).2.flatten = (receive b).2.flatten := by
  obtain ⟨hresult, hleft⟩ := readExact_congr (n := 4) h
  unfold receive
  revert hresult hleft
  rcases readExact 4 a with ⟨_ | header, left⟩ <;> rcases readExact 4 b with ⟨_ | header', left'⟩
  · rintro ⟨⟩ hleft
    exact ⟨rfl, hleft⟩
  · rintro ⟨⟩
  · rintro ⟨⟩
  · rintro ⟨⟩ hleft
    dsimp only
    split
    · exact ⟨rfl, hleft⟩
    · split
      · exact ⟨rfl, hleft⟩
      · exact readExact_congr hleft

theorem receives_congr (k : ℕ) (h : a.flatten = b.flatten) :
    receives k a = receives k b := by
  induction k generalizing a b with
  | zero => rfl
  | succ k ih =>
    obtain ⟨hresult, hleft⟩ := receive_congr h
    rw [receives, receives, hresult, ih hleft]

/-! ## Frames -/

lemma frameLength_eq (b1 b2 b3 : UInt8) :
    frameLength b1 b2 b3 = b1.toNat * 2 ^ 16 + b2.toNat * 2 ^ 8 + b3.toNat := by
  have h1 := b1.toNat_lt
  have h2 := b2.toNat_lt
  have h3 := b3.toNat_lt
  have hhigh : b1.toNat <<< 16 ||| b2.toNat <<< 8 = (b1.toNat * 2 ^ 8 + b2.toNat) <<< 8 := by
    rw [← Nat.shiftLeft_add_eq_or_of_lt (by rw [Nat.shiftLeft_eq]; omega), Nat.shiftLeft_eq,
      Nat.shiftLeft_eq, Nat.shiftLeft_eq]
    omega
  rw [frameLength, hhigh, ← Nat.shiftLeft_add_eq_or_of_lt h3, Nat.shiftLeft_eq]
  omega

lemma frameLength_lt (b1 b2 b3 : UInt8) : frameLength b1 b2 b3 < maxFrameSize := by
  have h1 := b1.toNat_lt
  have h2 := b2.toNat_lt
  have h3 := b3.toNat_lt
  rw [frameLength_eq, maxFrameSize]
  omega

lemma receive_of_header {left : List Bytes} {b1 b2 b3 : UInt8}
    (h : readExact 4 segments = (.ok [0x00, b1, b2, b3], left)) :
    receive segments = readExact (frameLength b1 b2 b3) left := by
  rw [receive, h]
  show (if frameLength b1 b2 b3 > maxFrameSize then _ else readExact (frameLength b1 b2 b3) left) = _
  rw [if_neg (Nat.lt_asymm (frameLength_lt b1 b2 b3))]

lemma receive_frame {post : Bytes}
    (h : segments.flatten = frameHeader data.length ++ (data ++ post)) :
    ∃ left, receive segments = (.ok (data.take (data.length % maxFrameSize)), left) ∧
      left.flatten = data.drop (data.length % maxFrameSize) ++ post := by
  have hheader : (frameHeader data.length).length = 4 := rfl
  have hlen : frameLength (UInt8.ofNat (data.length / 2 ^ 16)) (UInt8.ofNat (data.length / 2 ^ 8))
      (UInt8.ofNat data.length) = data.length % maxFrameSize := by
    rw [frameLength_eq, UInt8.toNat_ofNat', UInt8.toNat_ofNat', UInt8.toNat_ofNat', maxFrameSize]
    omega
  have hle : data.length % maxFrameSize ≤ data.length := Nat.mod_le _ _
  have henough : 4 ≤ segments.flatten.length := by
    rw [h, length_append, hheader]
    omega
  obtain ⟨left, hread, hleft⟩ := readExact_of_le henough
  rw [h, take_left' hheader] at hread
  rw [h, drop_left' hheader] at hleft
  have henough' : data.length % maxFrameSize ≤ left.flatten.length := by
    rw [hleft, length_append]
    omega
  obtain ⟨left', hread', hleft'⟩ := readExact_of_le henough'
  rw [hleft, take_append_of_le_length hle] at hread'
  rw [hleft, drop_append_of_le_length hle] at hleft'
  refine ⟨left', ?_, hleft'⟩
  rw [receive_of_header hread, hlen, hread']

lemma receive_frame_of_lt {post : Bytes} (hlt : data.length < maxFrameSize)
    (h : segments.flatten = frameHeader data.length ++ (data ++ post)) :
    ∃ left, receive segments = (.ok data, left) ∧ left.flatten = post := by
  obtain ⟨left, hreceive, hleft⟩ := receive_frame h
  rw [Nat.mod_eq_of_lt hlt, take_length] at hreceive
  rw [Nat.mod_eq_of_lt hlt, drop_length, nil_append] at hleft
  exact ⟨left, hreceive, hleft⟩

lemma receives_nil (k : ℕ) (h : segments.flatten = []) :
    receives k segments = replicate k (.error .disconnected) := by
  induction k generalizing segments with
  | zero => rfl
  | succ k ih =>
    have hread : readExact 4 segments = (.error .disconnected, []) :=
      readExact_of_lt (by rw [h]; decide)
    have hreceive : receive segments = (.error .disconnected, []) := by rw [receive, hread]
    rw [receives, hreceive, ih rfl, replicate_succ]

lemma sendAll_cons {stream : Bytes} {messages : List Bytes}
    (h : sendAll (message :: messages) = .ok stream) :
    ∃ rest, message.length ≤ maxFrameSize ∧ sendAll messages = .ok rest ∧
      stream = frameHeader message.length ++ (message ++ rest) := by
  by_cases hle : message.length ≤ maxFrameSize
  · rw [sendAll, mapM_cons, send_of_le hle] at h
    cases hframes : messages.mapM send with
    | error e =>
      rw [hframes] at h
      cases h
    | ok frames =>
      rw [hframes] at h
      obtain rfl := Except.ok.inj h
      refine ⟨frames.flatten, hle, ?_, ?_⟩
      · rw [sendAll, hframes]
        rfl
      · rw [flatten_cons, append_assoc]
  · rw [sendAll, mapM_cons] at h
    cases hsend : send message with
    | error e =>
      rw [hsend] at h
      cases h
    | ok frame => exact absurd hsend (send_of_gt (Nat.lt_of_not_le hle))

def Lossless (messages : List Bytes) (stream : Bytes) : Prop :=
  ∀ segments : List Bytes, segments.flatten = stream → ∀ k : ℕ,
    receives (messages.length + k) segments =
      messages.map Except.ok ++ replicate k (Except.error Error.disconnected)

lemma lossless_cons_iff {rest : Bytes} {messages : List Bytes}
    (hle : message.length ≤ maxFrameSize) :
    Lossless (message :: messages) (frameHeader message.length ++ (message ++ rest)) ↔
      message.length ≠ maxFrameSize ∧ Lossless messages rest := by
  have hcount (k : ℕ) : (message :: messages).length + k = messages.length + k + 1 := by
    rw [length_cons]
    omega
  constructor
  · intro h
    have hne : message.length ≠ maxFrameSize := by
      intro hmax
      have hstream : [frameHeader message.length ++ (message ++ rest)].flatten =
          frameHeader message.length ++ (message ++ rest) := flatten_singleton ..
      obtain ⟨left, hreceive, -⟩ := receive_frame hstream
      have hfirst := congrArg head? (h _ hstream 0)
      rw [hcount, receives, hreceive, hmax, Nat.mod_self] at hfirst
      have hempty : [] = message := by
        simpa using hfirst
      rw [← hempty, maxFrameSize] at hmax
      cases hmax
    refine ⟨hne, ?_⟩
    intro segments hsegments k
    have hstream : ((frameHeader message.length ++ message) :: segments).flatten =
        frameHeader message.length ++ (message ++ rest) := by
      rw [flatten_cons, hsegments, append_assoc]
    obtain ⟨left, hreceive, hleft⟩ := receive_frame_of_lt (Nat.lt_of_le_of_ne hle hne) hstream
    have hall := h _ hstream k
    rw [hcount, receives, hreceive, map_cons, cons_append,
      receives_congr _ (hleft.trans hsegments.symm)] at hall
    exact (cons.inj hall).2
  · rintro ⟨hne, hrest⟩ segments hsegments k
    obtain ⟨left, hreceive, hleft⟩ := receive_frame_of_lt (Nat.lt_of_le_of_ne hle hne) hsegments
    rw [hcount, receives, hreceive, hrest left hleft, map_cons, cons_append]

/-- **Framing is lossless** for the messages that are sent, exactly if none of them is as long as
the largest frame. -/
theorem framing_lossless_iff {messages : List Bytes} {stream : Bytes}
    (h : sendAll messages = .ok stream) :
    Lossless messages stream ↔ ∀ message ∈ messages, message.length ≠ maxFrameSize := by
  induction messages generalizing stream with
  | nil =>
    obtain rfl : [] = stream := Except.ok.inj h
    refine iff_of_true ?_ nofun
    intro segments hsegments k
    rw [length_nil, Nat.zero_add]
    exact receives_nil k hsegments
  | cons message messages ih =>
    obtain ⟨rest, hle, hrest, rfl⟩ := sendAll_cons h
    rw [lossless_cons_iff hle, ih hrest, forall_mem_cons]

theorem framing_lossless_two : Lossless [[], [1, 2]] [0, 0, 0, 0, 0, 0, 0, 2, 1, 2] :=
  (framing_lossless_iff (by decide)).2 (by decide)

lemma loses_of_length_eq (h : message.length = maxFrameSize) :
    ∃ stream, send message = .ok stream ∧ receives 1 [stream] = [.ok []] ∧
      ¬ Lossless [message] stream := by
  have hstream : [frameHeader message.length ++ message].flatten =
      frameHeader message.length ++ (message ++ []) := by
    rw [flatten_singleton, append_nil]
  refine ⟨_, send_of_le (Nat.le_of_eq h), ?_, ?_⟩
  · obtain ⟨left, hreceive, -⟩ := receive_frame hstream
    rw [receives, hreceive, h, Nat.mod_self, take_zero]
    rfl
  · rw [flatten_singleton] at hstream
    rw [hstream, lossless_cons_iff (Nat.le_of_eq h)]
    exact fun hlossless => hlossless.1 h

theorem framing_loses_largest :
    ∃ stream, send (replicate maxFrameSize 0) = .ok stream ∧
      receives 1 [stream] = [.ok []] ∧ ¬ Lossless [replicate maxFrameSize 0] stream :=
  loses_of_length_eq length_replicate

end Tcp

end Smb2
