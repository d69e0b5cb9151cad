import Smb2.Client.Connection.Splitting

set_option autoImplicit false

/-!
# Compound requests

`execute_compound_inner` (`client/connection.rs`) as far as the buffer that it encrypts or sends:
the credits it reserves, the headers of the sub-requests, their padding, the `NextCommand` offsets
and the signatures. The buffer is then read with `split_compound`, and the credits are compared
with the charges in the headers and with the message ids.

## Implementation notes

Other tasks run between two sub-requests: the id counter, the credits on hand and the set of DFS
trees are given for each sub-request on its own (`Moment`). The wait in `reserve_credits` is
decided by the pool as it is when the wait ends.
-/

open List Option

namespace Smb2

structure CompoundOp where
  command : Command
  body : Bytes
  treeId : Option TreeId
  creditCharge : UInt16
deriving DecidableEq

namespace Connection

namespace Compound

/-! ## The function -/

structure Caller where
  disconnected : Bool
  shouldSign : Bool
  shouldEncrypt : Bool
  signing : Option (Bytes × SigningAlgorithm)
  sessionId : SessionId
  refusal : Error

structure Moment where
  nextMessageId : UInt64
  available : UInt16
  dfsTrees : List TreeId

def charge (op : CompoundOp) : UInt16 := max op.creditCharge 1

def allocateMsgId (next : UInt64) (charge : UInt64) : MessageId × UInt64 := (next, next + charge)

def requestFor (available charge : UInt16) : UInt16 :=
  UInt16.ofNat (min (charge.toNat + (512 - available.toNat)) u16Max)

def header (c : Caller) (i : ℕ) (op : CompoundOp) (m : Moment) : Header :=
  let flags : HeaderFlags := 0
  let flags := if 0 < i then flags ||| HeaderFlags.relatedOperations else flags
  let flags := if c.shouldSign && !c.shouldEncrypt then flags ||| HeaderFlags.signed else flags
  let flags :=
    if op.treeId.any (m.dfsTrees.contains ·) then flags ||| HeaderFlags.dfsOperations else flags
  { Header.newRequest op.command with
    messageId := (allocateMsgId m.nextMessageId (charge op).toUInt64).1
    credits := requestFor m.available (charge op)
    creditCharge := charge op
    sessionId := c.sessionId
    treeId := op.treeId
    flags }

def packMessage (header : Header) (body : Bytes) : Bytes := header.pack ++ body

structure SubRequest where
  header : Header
  body : Bytes
  consumed : ℕ

def subRequest (c : Caller) (now : ℕ → Moment) (i : ℕ) (op : CompoundOp) : SubRequest where
  header := header c i op (now i)
  body := op.body
  consumed :=
    ((allocateMsgId (now i).nextMessageId (charge op).toUInt64).2 - (now i).nextMessageId).toNat

def mapInit {α : Type} (f : α → α) : List α → List α
  | [] => []
  | [a] => [a]
  | a :: b :: l => f a :: mapInit f (b :: l)

def padRequest (request : Bytes) : Bytes :=
  request ++ replicate (alignPadding request.length 8) 0

def setNextCommand (request : Bytes) : Bytes :=
  request.take 20 ++ leBytes 4 (UInt32.ofNat request.length).toNat ++ request.drop 24

def link (requests : List SubRequest) : List Bytes :=
  mapInit setNextCommand
    (mapInit padRequest (requests.map fun r => packMessage r.header r.body))

def signAll (P : MacPrimitives) (key : Bytes) (algorithm : SigningAlgorithm) :
    List SubRequest → List Bytes → Except Error (List Bytes)
  | r :: rs, b :: bs => do
    let signed ← signMessage P b key algorithm r.header.messageId false
    let rest ← signAll P key algorithm rs bs
    return signed :: rest
  | _, _ => .ok []

def Caller.sign (P : MacPrimitives) (c : Caller) (requests : List SubRequest)
    (linked : List Bytes) : Except Error (List Bytes) :=
  if c.shouldSign && !c.shouldEncrypt then
    match c.signing with
    | some (key, algorithm) => signAll P key algorithm requests linked
    | none => .ok linked
  else .ok linked

structure Built where
  pool : CreditPool
  requests : List SubRequest
  subRequests : List Bytes

def Built.buffer (b : Built) : Bytes := b.subRequests.flatten

def totalCharge (ops : List CompoundOp) : ℕ := saturatingSum (ops.map fun op => (charge op).toNat)

/-- **`execute_compound_inner`**, as far as the buffer. -/
def build (P : MacPrimitives) (c : Caller) (pool : CreditPool) (now : ℕ → Moment)
    (ops : List CompoundOp) : Except Error Built :=
  if ops = [] then .error (.invalidData "compound request must have at least one operation")
  else if c.disconnected then .error .disconnected
  else
    match pool.tryReserve pool.live (totalCharge ops) with
    | none => .error c.refusal
    | some pool => do
      let requests := ops.mapIdx (subRequest c now)
      let subRequests ← c.sign P requests (link requests)
      return { pool, requests, subRequests }

lemma build_eq_ok {P : MacPrimitives} {c : Caller} {pool : CreditPool} {now : ℕ → Moment}
    {ops : List CompoundOp} {built : Built} :
    build P c pool now ops = .ok built ↔
      ops ≠ [] ∧ c.disconnected = false ∧
        pool.tryReserve pool.live (totalCharge ops) = some built.pool ∧
        built.requests = ops.mapIdx (subRequest c now) ∧
        c.sign P built.requests (link built.requests) = .ok built.subRequests := by
  obtain ⟨pool', requests, subRequests⟩ := built
  unfold build
  by_cases hops : ops = []
  · simp [hops]
  · cases hconn : c.disconnected with
    | true => simp [hops]
    | false =>
      cases hpool : pool.tryReserve pool.live (totalCharge ops) with
      | none => simp [hops]
      | some reserved =>
        simp only [hops, if_false, Bool.false_eq_true, ne_eq, not_false_eq_true, true_and,
          some.injEq]
        cases hsign : c.sign P (ops.mapIdx (subRequest c now))
            (link (ops.mapIdx (subRequest c now))) with
        | error e =>
          simp only [bind, Except.bind, reduceCtorEq, false_iff]
          rintro ⟨-, rfl, hok⟩
          rw [hsign] at hok
          cases hok
        | ok signed =>
          simp only [bind, Except.bind, pure, Except.pure, Except.ok.injEq, Built.mk.injEq]
          constructor
          · rintro ⟨rfl, rfl, rfl⟩
            exact ⟨rfl, rfl, hsign⟩
          · rintro ⟨rfl, rfl, hok⟩
            rw [hsign] at hok
            exact ⟨rfl, rfl, Except.ok.inj hok⟩

/-! ## The chain in the buffer -/

section Chains

variable {r : SubRequest} {rs : List SubRequest} {p : Bytes} {ps : List Bytes}

def padding (last : Bool) (body : Bytes) : ℕ :=
  if last then 0 else alignPadding (Header.size + body.length) 8

def paddedLength (last : Bool) (body : Bytes) : ℕ := Header.size + body.length + padding last body

def nextCommand (last : Bool) (body : Bytes) : UInt32 :=
  if last then 0 else UInt32.ofNat (paddedLength last body)

/-- The bytes of a sub-request in the buffer, but for what its `NextCommand` and its signature
are. -/
def Stands (last : Bool) (header : Header) (body : Bytes) (next : UInt32) (p : Bytes) : Prop :=
  ∃ signature, signature.length = 16 ∧
    p = packMessage { header with nextCommand := next, signature } body ++
      replicate (padding last body) 0

/-- **A chain of sub-requests**: each one stands in its place, linked to the next. -/
def Chain : List SubRequest → List Bytes → Prop
  | r :: rs, p :: ps =>
    Stands rs.isEmpty r.header r.body (nextCommand rs.isEmpty r.body) p ∧ Chain rs ps
  | [], [] => True
  | _, _ => False

/-! ### Headers in bytes -/

lemma pack_eq_next (h : Header) (rest : Bytes) :
    ∃ front back, front.length = 20 ∧ ∀ next : UInt32,
      { h with nextCommand := next }.pack ++ rest =
        front ++ (leBytes 4 next.toNat ++ (back ++ rest)) := by
  refine ⟨protocolId ++ (leBytes 2 Header.structureSize.toNat ++ (leBytes 2 h.creditCharge.toNat ++
    (leBytes 4 h.status.toNat ++ (leBytes 2 h.command.code.toNat ++ (leBytes 2 h.credits.toNat ++
    leBytes 4 h.flags.toNat))))), leBytes 8 h.messageId.toNat ++ (h.packIds ++
    (leBytes 8 h.sessionId.toNat ++ h.signature)), ?_, fun next => ?_⟩
  · simp [protocolId]
  · simp only [Header.pack, append_assoc]
    rfl

lemma pack_eq_signature (h : Header) :
    ∃ front, front.length = 48 ∧ ∀ signature,
      { h with signature }.pack = front ++ signature := by
  have hids : h.packIds.length = 8 := by
    unfold Header.packIds
    split <;> simp
  refine ⟨protocolId ++ (leBytes 2 Header.structureSize.toNat ++ (leBytes 2 h.creditCharge.toNat ++
    (leBytes 4 h.status.toNat ++ (leBytes 2 h.command.code.toNat ++ (leBytes 2 h.credits.toNat ++
    (leBytes 4 h.flags.toNat ++ (leBytes 4 h.nextCommand.toNat ++ (leBytes 8 h.messageId.toNat ++
    (h.packIds ++ leBytes 8 h.sessionId.toNat))))))))), ?_, fun signature => ?_⟩
  · simp [protocolId, hids]
  · simp only [Header.pack, append_assoc]
    rfl

lemma setNextCommand_pack (h : Header) (rest : Bytes) :
    setNextCommand (h.pack ++ rest) =
      { h with nextCommand := UInt32.ofNat (h.pack ++ rest).length }.pack ++ rest := by
  obtain ⟨front, back, hfront, heq⟩ := pack_eq_next h rest
  have hself : h.pack ++ rest = front ++ (leBytes 4 h.nextCommand.toNat ++ (back ++ rest)) :=
    heq h.nextCommand
  have htake : (front ++ (leBytes 4 h.nextCommand.toNat ++ (back ++ rest))).take 20 = front := by
    rw [← hfront, take_left]
  have hdrop : (front ++ (leBytes 4 h.nextCommand.toNat ++ (back ++ rest))).drop 24 =
      back ++ rest := by
    rw [← append_assoc]
    refine drop_left' ?_
    rw [length_append, hfront, length_leBytes]
  rw [setNextCommand, heq (UInt32.ofNat _), hself, htake, hdrop, append_assoc]

lemma withSignature_pack {h : Header} (hsig : h.signature.length = 16) (rest signature : Bytes) :
    withSignature (h.pack ++ rest) signature = { h with signature }.pack ++ rest := by
  obtain ⟨front, hfront, heq⟩ := pack_eq_signature h
  have hself : h.pack = front ++ h.signature := heq h.signature
  have htake : (front ++ (h.signature ++ rest)).take 48 = front := by
    rw [← hfront, take_left]
  have hdrop : (front ++ (h.signature ++ rest)).drop 64 = rest := by
    rw [← append_assoc]
    refine drop_left' ?_
    rw [length_append, hfront, hsig]
  rw [heq signature, hself, append_assoc, append_assoc]
  simp only [withSignature, signatureOffset, signatureLen]
  rw [htake, hdrop, append_assoc]

lemma leNat_next_pack (h : Header) (rest : Bytes) :
    leNat (slice (h.pack ++ rest) 20 24) = h.nextCommand.toNat := by
  obtain ⟨front, back, hfront, heq⟩ := pack_eq_next h rest
  have hself : h.pack ++ rest = front ++ (leBytes 4 h.nextCommand.toNat ++ (back ++ rest)) :=
    heq h.nextCommand
  have hslice : slice (h.pack ++ rest) 20 24 = leBytes 4 h.nextCommand.toNat := by
    have := slice_append front (leBytes 4 h.nextCommand.toNat) (back ++ rest)
    rwa [hfront, length_leBytes, ← hself] at this
  rw [hslice, leNat_leBytes h.nextCommand.toNat_lt]

/-! ### Where a sub-request stands -/

section Standing

variable {last : Bool} {h : Header} {body : Bytes} {next : UInt32}

lemma Stands.length (hs : Stands last h body next p) : p.length = paddedLength last body := by
  obtain ⟨signature, hsig, rfl⟩ := hs
  rw [length_append, packMessage, length_append, Header.length_pack hsig,
    length_replicate, paddedLength]

lemma Stands.leNat_next (hs : Stands last h body next p) :
    leNat (slice p 20 24) = next.toNat := by
  obtain ⟨signature, -, rfl⟩ := hs
  rw [packMessage, append_assoc, leNat_next_pack]

lemma Stands.withSignature (hs : Stands last h body next p) {signature : Bytes}
    (hsig : signature.length = 16) : Stands last h body next (withSignature p signature) := by
  obtain ⟨signature₀, hsig₀, rfl⟩ := hs
  refine ⟨signature, hsig, ?_⟩
  rw [packMessage, append_assoc, withSignature_pack hsig₀, packMessage, append_assoc]

lemma paddedLength_spec (body : Bytes) :
    paddedLength false body % 8 = 0 ∧ Header.size + body.length ≤ paddedLength false body ∧
      paddedLength false body < Header.size + body.length + 8 := by
  have hpad : padding false body = alignPadding (Header.size + body.length) 8 := rfl
  rw [paddedLength, hpad]
  generalize Header.size + body.length = n
  by_cases hn : n % 8 = 0
  · have hzero : alignPadding n 8 = 0 := by simp [alignPadding, hn]
    omega
  · have hrest : alignPadding n 8 = 8 - n % 8 := by simp [alignPadding, hn]
    omega

lemma size_le_paddedLength (last : Bool) (body : Bytes) :
    Header.size ≤ paddedLength last body := by
  rw [paddedLength, Nat.add_assoc]
  exact Nat.le_add_right _ _

lemma paddedLength_lt_iff (body : Bytes) :
    paddedLength false body < 2 ^ 32 ↔ Header.size + body.length ≤ 2 ^ 32 - 8 := by
  obtain ⟨hmod, hle, hlt⟩ := paddedLength_spec body
  omega

end Standing

/-! ### What is built is a chain -/

lemma mapInit_cons {α : Type} (f : α → α) (a : α) {l : List α} (hl : l ≠ []) :
    mapInit f (a :: l) = f a :: mapInit f l := by
  cases l with
  | nil => exact absurd rfl hl
  | cons b l => rfl

lemma mapInit_ne_nil {α : Type} (f : α → α) {l : List α} (hl : l ≠ []) : mapInit f l ≠ [] := by
  match l, hl with
  | [a], _ => exact cons_ne_nil _ _
  | a :: b :: l, _ => exact cons_ne_nil _ _

def Fresh (r : SubRequest) : Prop :=
  r.header.nextCommand = 0 ∧ r.header.signature.length = 16

variable {c : Caller} {P : MacPrimitives}

lemma fresh_subRequest {now : ℕ → Moment} {ops : List CompoundOp} :
    ∀ r ∈ ops.mapIdx (subRequest c now), Fresh r := by
  intro r hr
  obtain ⟨i, hi, rfl⟩ := mem_mapIdx.1 hr
  exact ⟨rfl, rfl⟩

lemma chain_link (hfresh : ∀ r ∈ rs, Fresh r) :
    Chain rs (link rs) := by
  induction rs with
  | nil => trivial
  | cons r rs ih =>
    obtain ⟨hnext, hsig⟩ := hfresh r (mem_cons_self ..)
    have hrest := ih fun r hr => hfresh r (mem_cons_of_mem _ hr)
    cases rs with
    | nil =>
      refine ⟨⟨r.header.signature, hsig, ?_⟩, trivial⟩
      have hself : { r.header with nextCommand := 0 } = r.header := by rw [← hnext]
      show packMessage r.header r.body = packMessage { r.header with nextCommand := 0 } r.body ++ []
      rw [hself, append_nil]
    | cons r' rs =>
      have hne : (r' :: rs).map (fun r => packMessage r.header r.body) ≠ [] := cons_ne_nil _ _
      rw [link, map_cons, mapInit_cons _ _ hne, mapInit_cons _ _ (mapInit_ne_nil _ hne)]
      refine ⟨⟨r.header.signature, hsig, ?_⟩, hrest⟩
      have hlen : (packMessage r.header r.body).length = Header.size + r.body.length := by
        rw [packMessage, length_append, Header.length_pack hsig]
      have hpadded : (r.header.pack ++ (r.body ++
          replicate (alignPadding (Header.size + r.body.length) 8) 0)).length =
            paddedLength false r.body := by
        simp only [length_append, Header.length_pack hsig, length_replicate]
        rw [paddedLength, Nat.add_assoc]
        rfl
      rw [padRequest, hlen, packMessage, append_assoc, setNextCommand_pack, hpadded,
        packMessage, append_assoc]
      rfl

lemma chain_signAll (hP : P.Lawful) {key : Bytes} {algorithm : SigningAlgorithm} {qs : List Bytes}
    (h : Chain rs ps) (hsign : signAll P key algorithm rs ps = .ok qs) : Chain rs qs := by
  induction rs generalizing ps qs with
  | nil =>
    obtain rfl := Except.ok.inj hsign
    trivial
  | cons r rs ih =>
    cases ps with
    | nil => exact h.elim
    | cons p ps =>
      obtain ⟨hstands, hrest⟩ := h
      simp only [signAll, bind, Except.bind, pure, Except.pure] at hsign
      have hlen : ¬ p.length < minMessageLen := by
        rw [hstands.length]
        exact Nat.not_lt.2 (size_le_paddedLength _ _)
      rw [signMessage, if_neg hlen] at hsign
      simp only [bind, Except.bind, pure, Except.pure] at hsign
      cases hcompute : computeSignature P (zeroSignature p) key algorithm r.header.messageId false
          false with
      | error e =>
        rw [hcompute] at hsign
        cases hsign
      | ok signature =>
        rw [hcompute] at hsign
        dsimp only at hsign
        cases hsigned : signAll P key algorithm rs ps with
        | error e =>
          rw [hsigned] at hsign
          cases hsign
        | ok qs' =>
          rw [hsigned] at hsign
          obtain rfl := Except.ok.inj hsign
          exact ⟨hstands.withSignature (length_computeSignature hP hcompute), ih hrest hsigned⟩

lemma chain_sign (hP : P.Lawful) {qs : List Bytes} (h : Chain rs ps)
    (hsign : c.sign P rs ps = .ok qs) : Chain rs qs := by
  unfold Caller.sign at hsign
  split at hsign
  · cases hkey : c.signing with
    | none =>
      rw [hkey] at hsign
      obtain rfl := Except.ok.inj hsign
      exact h
    | some signing =>
      rw [hkey] at hsign
      exact chain_signAll hP h hsign
  · obtain rfl := Except.ok.inj hsign
    exact h

/-- **What is built is a chain** of the operations' sub-requests. -/
theorem chain_of_build (hP : P.Lawful) {pool : CreditPool} {now : ℕ → Moment}
    {ops : List CompoundOp} {built : Built} (h : build P c pool now ops = .ok built) :
    ops ≠ [] ∧ built.requests = ops.mapIdx (subRequest c now) ∧
      Chain built.requests built.subRequests := by
  obtain ⟨hops, -, -, hrequests, hsign⟩ := build_eq_ok.1 h
  have hfresh : ∀ r ∈ built.requests, Fresh r := hrequests ▸ fresh_subRequest
  exact ⟨hops, hrequests, chain_sign hP (chain_link hfresh) hsign⟩

/-! ### A chain is split back -/

lemma slice_middle (pre p post : Bytes) {start stop : ℕ} (hstop : stop ≤ p.length) :
    slice (pre ++ (p ++ post)) (pre.length + start) (pre.length + stop) = slice p start stop := by
  have hdrop : (pre ++ (p ++ post)).drop (pre.length + start) = (p ++ post).drop start := by
    rw [← drop_drop, drop_left]
  rw [slice, slice, hdrop]
  by_cases hstart : start ≤ p.length
  · rw [drop_append_of_le_length hstart, Nat.add_sub_add_left,
      take_append_of_le_length (by rw [length_drop]; omega)]
  · have hzero : stop - start = 0 := by omega
    rw [Nat.add_sub_add_left, hzero, take_zero, take_zero]

/-- **A chain is split back** exactly if the lengths of all links but the last fit the
`NextCommand` field.

**Proof sketch.** Induction on the chain. A link of length `n` has `n % 2 ^ 32` in its field. If
`n` fits, `split_compound` cuts behind the link and goes on there; if it does not, it cuts
elsewhere, or, if the field is 0, takes the link for the last one. -/
theorem splitFrom_chain_iff (hrs : rs ≠ []) (h : Chain rs ps) (pre : Bytes)
    (hpre : pre.length % 8 = 0) :
    splitFrom (pre ++ ps.flatten) pre.length = .ok ps ↔
      ∀ r ∈ rs.dropLast, paddedLength false r.body < 2 ^ 32 := by
  induction rs generalizing ps pre with
  | nil => exact absurd rfl hrs
  | cons r rs ih =>
    cases ps with
    | nil => exact h.elim
    | cons p ps =>
      obtain ⟨hstands, hrest⟩ := h
      have hsize : 64 ≤ p.length := by
        rw [hstands.length]
        exact size_le_paddedLength _ _
      have hheader : pre.length + Header.size ≤ (pre ++ (p ++ ps.flatten)).length := by
        simp only [length_append, Header.size]
        omega
      have hfield := hstands.leNat_next
      rw [← slice_middle pre p ps.flatten (by omega : 24 ≤ p.length)] at hfield
      rw [flatten_cons]
      cases rs with
      | nil =>
        cases ps with
        | cons _ _ => exact hrest.elim
        | nil =>
          rw [splitFrom_last hheader hpre hfield, drop_left, flatten_nil,
            append_nil]
          simp
      | cons r' rs =>
        have hlen : p.length = paddedLength false r.body := hstands.length
        have hmod : p.length % 8 = 0 := hlen ▸ (paddedLength_spec r.body).1
        have hnext : (nextCommand (r' :: rs).isEmpty r.body).toNat = p.length % 2 ^ 32 := by
          rw [hlen]
          rfl
        rw [hnext] at hfield
        have hfit : pre.length + p.length ≤ (pre ++ (p ++ ps.flatten)).length := by
          simp only [length_append]
          omega
        have hcut : slice (pre ++ (p ++ ps.flatten)) pre.length (pre.length + p.length) = p :=
          slice_append pre p ps.flatten
        rw [dropLast_cons_of_ne_nil (cons_ne_nil _ _), forall_mem_cons, ← hlen,
          ← ih (cons_ne_nil _ _) hrest (pre ++ p) (by rw [length_append]; omega),
          append_assoc, length_append]
        constructor
        · intro hsplit
          obtain ⟨-, -, hlast | ⟨next, rest, hnext, -, hle, hsplit', hpieces⟩⟩ :=
            splitFrom_eq_ok hsplit
          · have hps : ps = [] := (cons.inj hlast).2
            subst hps
            exact hrest.elim
          · obtain ⟨hp, rfl⟩ := cons.inj hpieces
            -- The piece has the length that the field gives, so the field gives the length.
            have hpiece : p.length = next := by
              have := congrArg length hp
              rwa [length_slice (by omega)] at this
            rw [hfield] at hnext
            refine ⟨by omega, ?_⟩
            rw [hpiece]
            exact hsplit'
        · rintro ⟨hlt, hsplit⟩
          rw [Nat.mod_eq_of_lt hlt] at hfield
          rw [splitFrom_link hheader hpre hfield (by omega) hfit, hcut, hsplit]
          rfl

lemma Chain.getElem? (h : Chain rs ps) {i : ℕ} (hr : rs[i]? = some r) (hp : ps[i]? = some p) :
    ∃ next, Stands (decide (i + 1 = rs.length)) r.header r.body next p := by
  induction rs generalizing ps i with
  | nil => simp at hr
  | cons r₀ rs ih =>
    cases ps with
    | nil => exact h.elim
    | cons p₀ ps =>
      cases i with
      | zero =>
        obtain rfl : r₀ = r := by simpa using hr
        obtain rfl : p₀ = p := by simpa using hp
        have hlast : decide (0 + 1 = (r₀ :: rs).length) = rs.isEmpty := by
          cases rs <;> simp
        rw [hlast]
        exact ⟨_, h.1⟩
      | succ i =>
        have := ih h.2 (by simpa using hr) (by simpa using hp)
        simpa using this

lemma Chain.length (h : Chain rs ps) : rs.length = ps.length := by
  induction rs generalizing ps with
  | nil =>
    cases ps with
    | nil => rfl
    | cons p ps => exact h.elim
  | cons r rs ih =>
    cases ps with
    | nil => exact h.elim
    | cons p ps => rw [length_cons, length_cons, ih h.2]

end Chains

/-! ## The buffer, split again -/

section Splitting

variable {P : MacPrimitives} {c : Caller} {pool : CreditPool} {now : ℕ → Moment}
  {ops : List CompoundOp} {built : Built}

/-- **Splitting gives the operations back**: one piece for each operation, in order, that begins at
a multiple of eight and is the packed request, whatever its `NextCommand` and its signature are,
and zeros up to the next multiple of eight (none for the last one); its header parses, with the
message id that was allocated and with the related flag for all but the first. -/
def Inverse (c : Caller) (now : ℕ → Moment) (ops : List CompoundOp) (buffer : Bytes) : Prop :=
  ∃ pieces, splitCompound buffer = .ok pieces ∧ pieces.length = ops.length ∧
    ∀ i op piece, ops[i]? = some op → pieces[i]? = some piece →
      (∃ next, Stands (decide (i + 1 = ops.length)) (header c i op (now i)) op.body next piece) ∧
      (pieces.take i).flatten.length % 8 = 0 ∧
      ∃ parsed cursor, Header.unpack (.new piece) = .ok (parsed, cursor) ∧
        parsed.messageId = (allocateMsgId (now i).nextMessageId (charge op).toUInt64).1 ∧
        parsed.flags.isRelated = decide (0 < i)

lemma flags_header (c : Caller) (i : ℕ) (op : CompoundOp) (m : Moment) :
    (header c i op m).flags.isAsync = false ∧
      (header c i op m).flags.isRelated = decide (0 < i) := by
  unfold header
  dsimp only
  by_cases hi : 0 < i <;> simp only [hi, if_true, if_false, decide_true, decide_false] <;>
    split <;> split <;> decide

lemma Stands.parsed {last : Bool} {h : Header} {body : Bytes} {next : UInt32} {p : Bytes}
    (hs : Stands last h body next p) (hasync : h.flags.isAsync = false) (hid : h.asyncId = none) :
    ∃ parsed cursor, Header.unpack (.new p) = .ok (parsed, cursor) ∧
      parsed.messageId = h.messageId ∧ parsed.flags = h.flags := by
  obtain ⟨signature, hsig, rfl⟩ := hs
  -- A sub-request without a tree is packed as one on tree 0.
  let h' : Header :=
    { h with nextCommand := next, signature, treeId := some (h.treeId.getD 0) }
  have hpack : { h with nextCommand := next, signature }.pack = h'.pack := by
    simp only [Header.pack, Header.packIds, hasync, h', getD_some]
  have hwf : h'.WellFormed := by
    refine ⟨hsig, ?_⟩
    simp only [h', hasync, Bool.false_eq_true, if_false]
    exact ⟨rfl, hid⟩
  rw [packMessage, hpack, append_assoc]
  exact ⟨h', _, Header.unpack_pack hwf, rfl, rfl⟩

lemma inverse_iff_split (hP : P.Lawful) (h : build P c pool now ops = .ok built) :
    Inverse c now ops built.buffer ↔ splitCompound built.buffer = .ok built.subRequests := by
  obtain ⟨-, hrequests, hchain⟩ := chain_of_build hP h
  have hget : ∀ {i : ℕ} {op : CompoundOp}, ops[i]? = some op →
      built.requests[i]? = some (subRequest c now i op) := by
    intro i op hop
    rw [hrequests, List.getElem?_mapIdx, hop]
    rfl
  have hlength : built.subRequests.length = ops.length := by
    rw [← hchain.length, hrequests, length_mapIdx]
  have hlast : built.requests.length = ops.length := by rw [hchain.length, hlength]
  constructor
  · rintro ⟨pieces, hsplit, hcount, hpieces⟩
    -- The pieces have the lengths of the sub-requests and are the same bytes.
    have hlengths : pieces.map length = built.subRequests.map length := by
      apply ext_getElem?
      intro i
      rw [List.getElem?_map, List.getElem?_map]
      by_cases hi : i < ops.length
      · have hop := getElem?_eq_getElem hi
        have hpiece := getElem?_eq_getElem (hcount ▸ hi : i < pieces.length)
        have hsub := getElem?_eq_getElem (hlength ▸ hi : i < built.subRequests.length)
        obtain ⟨⟨next, hstands⟩, -⟩ := hpieces i _ _ hop hpiece
        obtain ⟨next', hstands'⟩ := hchain.getElem? (hget hop) hsub
        rw [hpiece, hsub, map_some, map_some, hstands.length, hstands'.length, hlast]
        rfl
      · rw [getElem?_eq_none (by omega), getElem?_eq_none (by omega)]
    have hsame : pieces = built.subRequests :=
      eq_iff_flatten_eq.2 ⟨splitCompound_flatten hsplit, hlengths⟩
    rw [hsplit, hsame]
  · intro hsplit
    refine ⟨built.subRequests, hsplit, hlength, ?_⟩
    intro i op piece hop hpiece
    obtain ⟨next, hstands⟩ := hchain.getElem? (hget hop) hpiece
    rw [hlast] at hstands
    obtain ⟨hasync, hrelated⟩ := flags_header c i op (now i)
    obtain ⟨parsed, cursor, hparse, hid, hflags⟩ := hstands.parsed hasync rfl
    have hi : i < built.subRequests.length := (List.getElem?_eq_some_iff.1 hpiece).1
    refine ⟨⟨next, hstands⟩, splitCompound_aligned hsplit hi, parsed, cursor, hparse, hid, ?_⟩
    rw [hflags]
    exact hrelated

lemma split_iff_short (hP : P.Lawful) (h : build P c pool now ops = .ok built) :
    splitCompound built.buffer = .ok built.subRequests ↔
      ∀ op ∈ ops.dropLast, Header.size + op.body.length ≤ 2 ^ 32 - 8 := by
  obtain ⟨hops, hrequests, hchain⟩ := chain_of_build hP h
  have hne : built.requests ≠ [] := by
    rw [hrequests, Ne, mapIdx_eq_nil_iff]
    exact hops
  have hbodies : built.requests.map SubRequest.body = ops.map CompoundOp.body := by
    apply ext_getElem?
    intro i
    rw [hrequests, List.getElem?_map, List.getElem?_map, List.getElem?_mapIdx, Option.map_map]
    rfl
  have hsplit := splitFrom_chain_iff hne hchain [] rfl
  rw [nil_append, length_nil] at hsplit
  rw [splitCompound, Built.buffer, hsplit]
  have hforall : (∀ body ∈ (built.requests.map SubRequest.body).dropLast,
      paddedLength false body < 2 ^ 32) ↔
        ∀ body ∈ (ops.map CompoundOp.body).dropLast,
          Header.size + body.length ≤ 2 ^ 32 - 8 := by
    rw [hbodies]
    exact forall₂_congr fun body _ => paddedLength_lt_iff body
  rw [← map_dropLast, ← map_dropLast] at hforall
  simpa only [List.forall_mem_map] using hforall

end Splitting

/-! ## Credits, charges and ids -/

section Credits

variable {P : MacPrimitives} {c : Caller} {pool : CreditPool} {now : ℕ → Moment}
  {ops : List CompoundOp} {built : Built}

lemma toNat_charge (op : CompoundOp) : (charge op).toNat = max op.creditCharge.toNat 1 := by
  have hone : (1 : UInt16).toNat = 1 := rfl
  show (if op.creditCharge ≤ 1 then 1 else op.creditCharge : UInt16).toNat = _
  by_cases hle : op.creditCharge ≤ 1
  · have := UInt16.le_iff_toNat_le.1 hle
    rw [if_pos hle]
    omega
  · have := mt UInt16.le_iff_toNat_le.2 hle
    rw [if_neg hle]
    omega

def charges (ops : List CompoundOp) : ℕ := (ops.map fun op => (charge op).toNat).sum

def Caller.canSign (c : Caller) : Bool :=
  !(c.shouldSign && !c.shouldEncrypt) || c.signing.all fun (key, algorithm) =>
    algorithm.acceptsKey key

variable {rs : List SubRequest} {ps : List Bytes}

lemma signAll_isOk {key : Bytes} {algorithm : SigningAlgorithm} (hkey : algorithm.acceptsKey key)
    (hps : ∀ p ∈ ps, minMessageLen ≤ p.length) : (signAll P key algorithm rs ps).isOk := by
  induction rs generalizing ps with
  | nil => rfl
  | cons r rs ih =>
    cases ps with
    | nil => rfl
    | cons p ps =>
      obtain ⟨hp, hps⟩ := forall_mem_cons.1 hps
      have hone : (signMessage P p key algorithm r.header.messageId false).isOk =
          algorithm.acceptsKey key := signMessage_isOk hp
      have hrest := ih hps
      rw [hkey] at hone
      simp only [signAll]
      cases hsigned : signMessage P p key algorithm r.header.messageId false with
      | error e =>
        rw [hsigned] at hone
        cases hone
      | ok signed =>
        cases hall : signAll P key algorithm rs ps with
        | error e =>
          rw [hall] at hrest
          cases hrest
        | ok rest => rfl

lemma canSign_of_sign {r : SubRequest} {p : Bytes} {qs : List Bytes} (hp : minMessageLen ≤ p.length)
    (h : c.sign P (r :: rs) (p :: ps) = .ok qs) : c.canSign := by
  unfold Caller.sign at h
  unfold Caller.canSign
  split at h
  · rename_i hsigns
    rw [hsigns]
    cases hkey : c.signing with
    | none => rfl
    | some signing =>
      obtain ⟨key, algorithm⟩ := signing
      have hone : (signMessage P p key algorithm r.header.messageId false).isOk =
          algorithm.acceptsKey key := signMessage_isOk hp
      simp only [hkey, signAll] at h
      cases hsigned : signMessage P p key algorithm r.header.messageId false with
      | error e =>
        rw [hsigned] at h
        cases h
      | ok signed =>
        rw [hsigned] at hone
        exact hone.symm
  · rename_i hsigns
    rw [Bool.not_eq_true] at hsigns
    rw [hsigns]
    rfl

lemma Chain.le_length (h : Chain rs ps) :
    ∀ p ∈ ps, minMessageLen ≤ p.length := by
  intro p hp
  obtain ⟨i, hi⟩ := getElem?_of_mem hp
  have hlt : i < rs.length := h.length ▸ (List.getElem?_eq_some_iff.1 hi).1
  obtain ⟨next, hstands⟩ := h.getElem? (getElem?_eq_getElem hlt) hi
  rw [hstands.length]
  exact size_le_paddedLength _ _

lemma exists_build (P : MacPrimitives) (c : Caller) (pool : CreditPool) (now : ℕ → Moment)
    (ops : List CompoundOp) (hops : ops ≠ []) (hconn : c.disconnected = false) (hsign : c.canSign)
    (hopen : pool.isClosed = false) (hpool : totalCharge ops ≤ pool.available) :
    ∃ built, build P c pool now ops = .ok built := by
  have hreserve : ∃ pool', pool.tryReserve pool.live (totalCharge ops) = some pool' := by
    rw [CreditPool.tryReserve, Semaphore.tryAcquireMany, if_pos ⟨hopen, hpool⟩]
    exact ⟨_, rfl⟩
  obtain ⟨pool', hreserve⟩ := hreserve
  have hsigned : ∃ signed, c.sign P (ops.mapIdx (subRequest c now))
      (link (ops.mapIdx (subRequest c now))) = .ok signed := by
    unfold Caller.sign
    unfold Caller.canSign at hsign
    split
    · rename_i hsigns
      rw [hsigns] at hsign
      cases hkey : c.signing with
      | none => exact ⟨_, rfl⟩
      | some signing =>
        rw [hkey] at hsign
        have hchain : Chain (ops.mapIdx (subRequest c now))
            (link (ops.mapIdx (subRequest c now))) := chain_link fresh_subRequest
        have hok : (signAll P signing.1 signing.2 (ops.mapIdx (subRequest c now))
            (link (ops.mapIdx (subRequest c now)))).isOk := signAll_isOk hsign hchain.le_length
        dsimp only
        generalize signAll P signing.1 signing.2 _ _ = out at hok ⊢
        cases out with
        | error e => cases hok
        | ok signed => exact ⟨signed, rfl⟩
    · exact ⟨_, rfl⟩
  obtain ⟨signed, hsigned⟩ := hsigned
  exact ⟨⟨pool', _, signed⟩, build_eq_ok.2 ⟨hops, hconn, hreserve, rfl, hsigned⟩⟩

lemma canSign_of_build (h : build P c pool now ops = .ok built) : c.canSign := by
  obtain ⟨hops, -, -, hrequests, hsign⟩ := build_eq_ok.1 h
  have hchain : Chain built.requests (link built.requests) :=
    chain_link (hrequests ▸ fresh_subRequest)
  have hne : built.requests ≠ [] := by
    rw [hrequests, Ne, mapIdx_eq_nil_iff]
    exact hops
  generalize link built.requests = linked at hchain hsign
  cases hrs : built.requests with
  | nil => exact absurd hrs hne
  | cons r rs =>
    rw [hrs] at hchain hsign
    cases linked with
    | nil => exact hchain.elim
    | cons p ps => exact canSign_of_sign (hchain.le_length p (mem_cons_self ..)) hsign

lemma sum_requests (h : build P c pool now ops = .ok built) :
    (built.requests.map fun r => r.header.creditCharge.toNat).sum = charges ops ∧
      (built.requests.map SubRequest.consumed).sum = charges ops := by
  obtain ⟨-, -, -, hrequests, -⟩ := build_eq_ok.1 h
  have hids : ∀ (next : UInt64) (n : UInt16), (next + n.toUInt64 - next).toNat = n.toNat := by
    intro next n
    rw [UInt64.add_comm, UInt64.add_sub_cancel, UInt16.toNat_toUInt64]
  constructor
  · congr 1
    apply ext_getElem?
    intro i
    rw [hrequests, List.getElem?_map, List.getElem?_map, List.getElem?_mapIdx, Option.map_map]
    rfl
  · congr 1
    apply ext_getElem?
    intro i
    rw [hrequests, List.getElem?_map, List.getElem?_map, List.getElem?_mapIdx, Option.map_map]
    congr 1
    funext op
    exact hids _ _

lemma available_build (h : build P c pool now ops = .ok built) :
    built.pool.available + min (charges ops) u16Max = pool.available := by
  obtain ⟨-, -, hreserve, -, -⟩ := build_eq_ok.1 h
  have hpermits := CreditPool.permits_tryReserve hreserve pool.live
  rw [if_pos rfl, totalCharge, saturatingSum_eq_min] at hpermits
  rw [CreditPool.available, (CreditPool.live_tryReserve hreserve).1]
  exact hpermits

end Credits

end Compound

open Compound

/-! ## Main results -/

section Results

variable {P : MacPrimitives} {c : Caller} {pool : CreditPool} {now : ℕ → Moment}
  {ops : List CompoundOp} {built : Built}

/-- **Building and splitting are inverse** exactly if every sub-request but the last, with its
padding, is shorter than 4 GiB: its length then fits the `NextCommand` field that it is cut off
to. -/
theorem compound_split_iff (hP : P.Lawful) (h : build P c pool now ops = .ok built) :
    Inverse c now ops built.buffer ↔
      ∀ op ∈ ops.dropLast, Header.size + op.body.length ≤ 2 ^ 32 - 8 :=
  (inverse_iff_split hP h).trans (split_iff_short hP h)

/-- **The credits match** for every compound that is built, exactly if the charges fit the `u16`
that they are added up in, or no compound is built on the state given: the connection is closed,
the pool has fewer credits than the largest `u16`, or the signing key does not fit. -/
theorem compound_credits_iff :
    (∀ built, build P c pool now ops = .ok built →
      built.pool.available + (built.requests.map fun r => r.header.creditCharge.toNat).sum =
          pool.available ∧
        (built.requests.map fun r => r.header.creditCharge.toNat).sum =
          (built.requests.map SubRequest.consumed).sum) ↔
      (ops.map fun op => max op.creditCharge.toNat 1).sum ≤ u16Max ∨ c.disconnected = true ∨
        c.canSign = false ∨ pool.isClosed = true ∨ pool.available < u16Max := by
  have hcharges : (ops.map fun op => max op.creditCharge.toNat 1).sum = charges ops := by
    congr 1
    apply map_congr_left
    intro op _
    exact (toNat_charge op).symm
  rw [hcharges]
  constructor
  · intro hmatch
    by_contra hcon
    push Not at hcon
    obtain ⟨hsum, hconn, hsign, hopen, hpool⟩ := hcon
    have hops : ops ≠ [] := by
      rintro rfl
      simp [charges] at hsum
    have htotal : totalCharge ops ≤ pool.available := by
      rw [totalCharge, saturatingSum_eq_min]
      exact (Nat.min_le_right _ _).trans hpool
    obtain ⟨built, hbuild⟩ := exists_build P c pool now ops hops (by simpa using hconn)
      (by simpa using hsign) (by simpa using hopen) htotal
    have havailable := available_build hbuild
    have hsame := (hmatch built hbuild).1
    rw [(sum_requests hbuild).1] at hsame
    omega
  · intro hcond built hbuild
    obtain ⟨hheader, hconsumed⟩ := sum_requests hbuild
    have havailable := available_build hbuild
    obtain ⟨-, hconn, hreserve, -, -⟩ := build_eq_ok.1 hbuild
    obtain ⟨s, hacquire, -⟩ := CreditPool.tryReserve_eq_some.1 hreserve
    have hopen : pool.isClosed = false := (Semaphore.tryAcquireMany_eq_some.1 hacquire).1
    refine ⟨?_, hheader.trans hconsumed.symm⟩
    rw [hheader]
    obtain hsum | hcon | hcon | hcon | hpool := hcond
    · rwa [Nat.min_eq_left hsum] at havailable
    · rw [hconn] at hcon
      cases hcon
    · rw [canSign_of_build hbuild] at hcon
      cases hcon
    · rw [hopen] at hcon
      cases hcon
    · omega

def plainCaller : Caller := ⟨false, false, false, none, 1, .disconnected⟩

def poolOf (n : ℕ) : CreditPool := { CreditPool.new with semaphores := fun _ => Semaphore.new n }

def fromSeven (i : ℕ) : Moment := ⟨7 + UInt64.ofNat i, 512, []⟩

def createClose : List CompoundOp :=
  [⟨.create, [1, 2, 3], some 1, 1⟩, ⟨.close, [4], some 1, 1⟩]

lemma lawful_samplePrimitives : Receiver.samplePrimitives.mac.Lawful :=
  ⟨fun _ _ => length_replicate, fun _ _ => length_replicate,
    fun _ _ _ => length_replicate⟩

theorem compound_split_iff_createClose :
    ∃ built, build Receiver.samplePrimitives.mac
        { plainCaller with shouldSign := true, signing := some ([1, 2], .hmacSha256) } (poolOf 2)
        fromSeven createClose = .ok built ∧
      Inverse { plainCaller with shouldSign := true, signing := some ([1, 2], .hmacSha256) }
        fromSeven createClose built.buffer := by
  obtain ⟨built, hbuild⟩ := exists_build Receiver.samplePrimitives.mac
    { plainCaller with shouldSign := true, signing := some ([1, 2], .hmacSha256) } (poolOf 2)
    fromSeven createClose (by decide) rfl (by decide) rfl (by decide)
  refine ⟨built, hbuild, ?_⟩
  exact (compound_split_iff lawful_samplePrimitives hbuild).2 (by decide)

def writeClose (body : Bytes) : List CompoundOp :=
  [⟨.write, body, some 1, 1⟩, ⟨.close, [4], some 1, 1⟩]

lemma not_inverse_writeClose {body : Bytes} (hbody : body.length = 2 ^ 32 - 64) :
    ∃ built, build Receiver.samplePrimitives.mac plainCaller (poolOf 2) fromSeven
        (writeClose body) = .ok built ∧
      ¬ Inverse plainCaller fromSeven (writeClose body) built.buffer := by
  have hcharge : totalCharge (writeClose body) ≤ (poolOf 2).available := by
    show saturatingSum [(1 : UInt16).toNat, (1 : UInt16).toNat] ≤ 2
    decide
  obtain ⟨built, hbuild⟩ := exists_build Receiver.samplePrimitives.mac plainCaller (poolOf 2)
    fromSeven (writeClose body) (cons_ne_nil _ _) rfl rfl rfl hcharge
  refine ⟨built, hbuild, fun hinverse => ?_⟩
  have hshort := (split_iff_short lawful_samplePrimitives hbuild).1
    ((inverse_iff_split lawful_samplePrimitives hbuild).1 hinverse)
  have hlength := hshort ⟨.write, body, some 1, 1⟩ (mem_cons_self ..)
  simp only [hbody, Header.size] at hlength
  omega

theorem longWrite_not_split :
    ∃ built, build Receiver.samplePrimitives.mac plainCaller (poolOf 2) fromSeven
        (writeClose (replicate (2 ^ 32 - 64) 0)) = .ok built ∧
      ¬ Inverse plainCaller fromSeven (writeClose (replicate (2 ^ 32 - 64) 0))
        built.buffer :=
  not_inverse_writeClose length_replicate

def heavyEchos : List CompoundOp := [⟨.echo, [4, 0, 0, 0], none, 40000⟩,
  ⟨.echo, [4, 0, 0, 0], none, 40000⟩]

theorem heavyEchos_underfunded :
    ∃ built, build Receiver.samplePrimitives.mac plainCaller (poolOf 65535) fromSeven heavyEchos =
        .ok built ∧
      (built.requests.map fun r => r.header.creditCharge.toNat).sum = 80000 ∧
      (built.requests.map SubRequest.consumed).sum = 80000 ∧
      built.pool.available = 0 ∧ (poolOf 65535).available = 65535 := by
  obtain ⟨built, hbuild⟩ := exists_build Receiver.samplePrimitives.mac
    plainCaller (poolOf 65535) fromSeven heavyEchos (by decide) rfl rfl rfl (by decide)
  obtain ⟨hheader, hconsumed⟩ := sum_requests hbuild
  have havailable := available_build hbuild
  have hcharges : charges heavyEchos = 80000 := by decide
  rw [hcharges] at hheader hconsumed havailable
  have hpool : (poolOf 65535).available = 65535 := rfl
  rw [hpool] at havailable
  exact ⟨built, hbuild, hheader, hconsumed, by simp only [u16Max] at havailable; omega, hpool⟩

end Results

end Connection

end Smb2
