import Smb2.Msg.Create
import Smb2.Msg.Ioctl
import Smb2.Msg.Negotiate
import Smb2.Msg.Query
import Smb2.Msg.Read
import Smb2.Msg.SessionSetup

set_option autoImplicit false

/-!
# Where payloads are read

Seven bodies of responses carry a payload of variable length, with an offset field, counted from the
beginning of the SMB2 header, and a length field. Four readers skip the offset field and read the
payload right behind the fixed part of the body. The other three go on to the offset, but not back:
an offset that lies before the end of the fixed part is not refused, and the payload is read behind
the fixed part.
-/

namespace Smb2

/-- **The payloads** of responses that have an offset and a length field. -/
inductive Payload
  | readData
  | ioctlOutput
  | sessionSetupBuffer
  | negotiateBuffer
  | queryInfoBuffer
  | queryDirectoryBuffer
  | createContexts
deriving DecidableEq, Repr

structure Layout where
  offsetAt : ℕ
  offsetWidth : ℕ
  lengthAt : ℕ
  lengthWidth : ℕ
  fixedSize : ℕ
  follows : Bool

namespace Payload

def layout : Payload → Layout
  | .readData => ⟨2, 1, 4, 4, 16, false⟩
  | .ioctlOutput => ⟨32, 4, 36, 4, 48, false⟩
  | .sessionSetupBuffer => ⟨4, 2, 6, 2, 8, false⟩
  | .negotiateBuffer => ⟨56, 2, 58, 2, 64, false⟩
  | .queryInfoBuffer => ⟨2, 2, 4, 4, 8, true⟩
  | .queryDirectoryBuffer => ⟨2, 2, 4, 4, 8, true⟩
  | .createContexts => ⟨80, 4, 84, 4, 88, true⟩

/-- **The payload taken from a frame**, which is an SMB2 header and a body. -/
def extract (payload : Payload) (frame : Bytes) : Except Error Bytes :=
  let cursor := ReadCursor.new (frame.drop Header.size)
  match payload with
  | .readData => (ReadResponse.unpack cursor).map (·.1.data)
  | .ioctlOutput => (IoctlResponse.unpack cursor).map (·.1.outputData)
  | .sessionSetupBuffer => (SessionSetupResponse.unpack cursor).map (·.1.securityBuffer)
  | .negotiateBuffer => (NegotiateResponse.unpack cursor).map (·.1.securityBuffer)
  | .queryInfoBuffer => (QueryInfoResponse.unpack cursor).map (·.1.outputBuffer)
  | .queryDirectoryBuffer => (QueryDirectoryResponse.unpack cursor).map (·.1.outputBuffer)
  | .createContexts => (CreateResponse.unpack cursor).map (·.1.createContexts)

variable (payload : Payload) (frame : Bytes)

def offset : ℕ :=
  leNat (slice frame (Header.size + payload.layout.offsetAt)
    (Header.size + (payload.layout.offsetAt + payload.layout.offsetWidth)))

def length : ℕ :=
  leNat (slice frame (Header.size + payload.layout.lengthAt)
    (Header.size + (payload.layout.lengthAt + payload.layout.lengthWidth)))

def fixedEnd : ℕ := Header.size + payload.layout.fixedSize

def readAt : ℕ :=
  if payload.layout.follows then max payload.fixedEnd (payload.offset frame) else payload.fixedEnd

def declared : Bytes :=
  slice frame (payload.offset frame) (payload.offset frame + payload.length frame)

variable {payload frame} {p : Bytes}

lemma eq_behind_fixed {data : Bytes}
    (h : data = slice (frame.drop Header.size) payload.layout.fixedSize
      (payload.layout.fixedSize + leNat (slice (frame.drop Header.size) payload.layout.lengthAt
        (payload.layout.lengthAt + payload.layout.lengthWidth))))
    (hfollows : payload.layout.follows = false) :
    data = slice frame (payload.readAt frame) (payload.readAt frame + payload.length frame) := by
  rw [readAt, hfollows, if_neg (by decide), h, slice_drop, slice_drop, fixedEnd, length,
    Nat.add_assoc]

lemma eq_at_offset {data : Bytes}
    (h : data = slice (frame.drop Header.size)
      (max payload.layout.fixedSize (leNat (slice (frame.drop Header.size) payload.layout.offsetAt
        (payload.layout.offsetAt + payload.layout.offsetWidth)) - Header.size))
      (max payload.layout.fixedSize (leNat (slice (frame.drop Header.size) payload.layout.offsetAt
        (payload.layout.offsetAt + payload.layout.offsetWidth)) - Header.size) +
        leNat (slice (frame.drop Header.size) payload.layout.lengthAt
          (payload.layout.lengthAt + payload.layout.lengthWidth))))
    (hfollows : payload.layout.follows = true) :
    data = slice frame (payload.readAt frame) (payload.readAt frame + payload.length frame) := by
  simp only [slice_drop] at h
  have hmax : Header.size + max payload.layout.fixedSize (payload.offset frame - Header.size) =
      max payload.fixedEnd (payload.offset frame) := by
    rw [fixedEnd]
    omega
  rw [readAt, hfollows, if_pos rfl, ← hmax, h, length, Nat.add_assoc]
  rfl

lemma exists_of_map_eq_ok {α : Type} {x : Except Error (α × ReadCursor)} {f : α → Bytes}
    (h : x.map (fun out => f out.1) = .ok p) : ∃ r c, x = .ok (r, c) ∧ f r = p := by
  cases x with
  | error e => cases h
  | ok out => exact ⟨out.1, out.2, rfl, Except.ok.inj h⟩

/-- **Where the payload of an accepted frame was read.** -/
theorem extract_eq (hok : payload.extract frame = .ok p) :
    p = slice frame (payload.readAt frame) (payload.readAt frame + payload.length frame) := by
  cases payload with
  | readData =>
    obtain ⟨r, c, hr, rfl⟩ := exists_of_map_eq_ok hok
    exact eq_behind_fixed (ReadResponse.data_of_unpack hr) rfl
  | ioctlOutput =>
    obtain ⟨r, c, hr, rfl⟩ := exists_of_map_eq_ok hok
    exact eq_behind_fixed (IoctlResponse.outputData_of_unpack hr) rfl
  | sessionSetupBuffer =>
    obtain ⟨r, c, hr, rfl⟩ := exists_of_map_eq_ok hok
    exact eq_behind_fixed (SessionSetupResponse.securityBuffer_of_unpack hr) rfl
  | negotiateBuffer =>
    obtain ⟨r, c, hr, rfl⟩ := exists_of_map_eq_ok hok
    exact eq_behind_fixed (NegotiateResponse.securityBuffer_of_unpack hr) rfl
  | queryInfoBuffer | queryDirectoryBuffer =>
    obtain ⟨r, c, hr, rfl⟩ := exists_of_map_eq_ok hok
    obtain ⟨c', hc'⟩ := Query.output_of_unpack hr
    obtain ⟨rfl, -⟩ := ReadCursor.pure_eq_ok.1 hc'
    exact eq_at_offset rfl rfl
  | createContexts =>
    obtain ⟨r, c, hr, rfl⟩ := exists_of_map_eq_ok hok
    exact eq_at_offset (CreateResponse.createContexts_of_unpack hr) rfl

/-- **Payloads and their offset fields.** The payload of an accepted frame is what its offset and
length fields declare exactly if the reader goes on to the offset and that lies behind the fixed
part, or the frame holds the same bytes there as behind the fixed part. -/
theorem extract_eq_declared_iff (hok : payload.extract frame = .ok p) :
    p = payload.declared frame ↔
      (payload.layout.follows ∧ payload.fixedEnd ≤ payload.offset frame) ∨
        payload.declared frame =
          slice frame payload.fixedEnd (payload.fixedEnd + payload.length frame) := by
  have hp := extract_eq hok
  by_cases hfollowed : payload.layout.follows ∧ payload.fixedEnd ≤ payload.offset frame
  · obtain ⟨hfollows, hle⟩ := hfollowed
    have hat : payload.readAt frame = payload.offset frame := by
      rw [readAt, if_pos hfollows]
      omega
    rw [hat] at hp
    exact ⟨fun _ => .inl ⟨hfollows, hle⟩, fun _ => hp⟩
  · have hat : payload.readAt frame = payload.fixedEnd := by
      rw [readAt]
      split
      · rename_i hfollows
        have : ¬ payload.fixedEnd ≤ payload.offset frame := fun h => hfollowed ⟨hfollows, h⟩
        omega
      · rfl
    rw [hat] at hp
    rw [hp]
    simp only [hfollowed, false_or]
    exact eq_comm

/-! ### Frames with their payload elsewhere -/

def paddedRead : Bytes :=
  List.replicate Header.size 0 ++ ([17, 0, 81, 0, 2, 0, 0, 0, 0, 0, 0, 0, 0, 0, 0, 0] ++ [9, 1, 2])

/-- An IOCTL response that repeats four bytes of input in front of its output: the input is at 112,
the output at 116. -/
def echoedInput : Bytes :=
  List.replicate Header.size 0 ++ ([49, 0] ++ (List.replicate 22 0 ++ ([112, 0, 0, 0, 4, 0, 0, 0,
    116, 0, 0, 0, 2, 0, 0, 0] ++ (List.replicate 8 0 ++ [9, 9, 9, 9, 1, 2]))))

def backwardQuery : Bytes := List.replicate Header.size 0 ++ [9, 0, 70, 0, 2, 0, 0, 0, 1, 2]

theorem extract_eq_declared_paddedRead :
    ([9, 1] : Bytes) = Payload.readData.declared paddedRead ↔
      (Payload.readData.layout.follows ∧
          Payload.readData.fixedEnd ≤ Payload.readData.offset paddedRead) ∨
        Payload.readData.declared paddedRead = slice paddedRead Payload.readData.fixedEnd
          (Payload.readData.fixedEnd + Payload.readData.length paddedRead) :=
  have hok : Payload.readData.extract paddedRead = .ok [9, 1] := by decide +kernel
  extract_eq_declared_iff hok

/-- **Payloads from the wrong place**: the padding is taken for data, the input for output, and a
backward offset is not refused. -/
theorem misplaced_payloads_accepted :
    (Payload.readData.extract paddedRead = .ok [9, 1] ∧
        Payload.readData.declared paddedRead = [1, 2]) ∧
      (Payload.ioctlOutput.extract echoedInput = .ok [9, 9] ∧
        Payload.ioctlOutput.declared echoedInput = [1, 2]) ∧
      (Payload.queryInfoBuffer.extract backwardQuery = .ok [1, 2] ∧
        Payload.queryInfoBuffer.declared backwardQuery = [0, 0]) := by
  decide +kernel

end Payload

end Smb2
