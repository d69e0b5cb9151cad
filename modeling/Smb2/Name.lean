import Smb2.Lib.Components
import Smb2.Lib.Utf16

set_option autoImplicit false

/-!
# Names on the wire

The mapping of `name.rs`: characters that SMB2 does not allow in a name travel as code points of
the private-use area, and a caller's path, with `/` between its components, becomes a wire path
with `\`.

* `Name.units_encodePath` — a wire path has as many UTF-16 code units as the caller's path without
  its leading slashes.

## Implementation notes

A string is the list of its characters.
-/

open List Option

namespace Smb2

namespace Name

open Utf16 (units units_append units_cons units_singleton toNat_ofNat)

def puaBase : ℕ := 0xF000

def puaLast : ℕ := 0xF029

def wireTrailingSpace : Char := Char.ofNat 0xF028

def wireTrailingPeriod : Char := Char.ofNat 0xF029

def encodeChar (c : Char) : Option Char :=
  -- NUL is left out on purpose.
  if 0x01 ≤ c.toNat ∧ c.toNat ≤ 0x1F then some (Char.ofNat (puaBase + c.toNat))
  else
    match c with
    | '"' => some (Char.ofNat 0xF020)
    | '*' => some (Char.ofNat 0xF021)
    | ':' => some (Char.ofNat 0xF022)
    | '<' => some (Char.ofNat 0xF023)
    | '>' => some (Char.ofNat 0xF024)
    | '?' => some (Char.ofNat 0xF025)
    | '\\' => some (Char.ofNat 0xF026)
    | '|' => some (Char.ofNat 0xF027)
    | _ => none

def encodeAt (isLast : Bool) (c : Char) : Option Char :=
  match c, isLast with
  | ' ', true => some wireTrailingSpace
  | '.', true => some wireTrailingPeriod
  | _, _ => encodeChar c

def encodeChars : List Char → List Char
  | [] => []
  | c :: rest => (encodeAt rest.isEmpty c).getD c :: encodeChars rest

def encodeName (name : List Char) : List Char :=
  let endsIllegally := name.getLast? = some ' ' ∨ name.getLast? = some '.'
  if ¬ endsIllegally ∧ ¬ name.any fun c => (encodeChar c).isSome then name else encodeChars name

def encodeComponent (component : List Char) : List Char :=
  if component = ['.'] ∨ component = ['.', '.'] then component else encodeName component

def encodePath (path : List Char) : List Char :=
  ['\\'].intercalate (((path.dropWhile (· = '/')).splitOn '/').map encodeComponent)

def decodeChar (c : Char) : Option Char :=
  if 0xF001 ≤ c.toNat ∧ c.toNat ≤ 0xF01F then some (Char.ofNat (c.toNat - puaBase))
  else
    match c with
    | '\uF020' => some '"'
    | '\uF021' => some '*'
    | '\uF022' => some ':'
    | '\uF023' => some '<'
    | '\uF024' => some '>'
    | '\uF025' => some '?'
    | '\uF026' => some '\\'
    | '\uF027' => some '|'
    | '\uF028' => some ' '
    | '\uF029' => some '.'
    | _ => none

def isMapped (c : Char) : Bool := puaBase < c.toNat && c.toNat ≤ puaLast

def decodeName (name : List Char) : List Char :=
  if ¬ name.any isMapped then name else name.map fun c => (decodeChar c).getD c

def decodePath (path : List Char) : List Char :=
  ['/'].intercalate ((path.splitOn '\\').map decodeName)

variable {name component path : List Char} {c d : Char}

lemma encodeName_of_legal (hlast : name.getLast? ≠ some ' ') (hlast' : name.getLast? ≠ some '.')
    (h : ∀ c ∈ name, encodeChar c = none) :
    encodeName name = name := by
  have hnone : ¬ name.any fun c => (encodeChar c).isSome := by
    intro hany
    obtain ⟨c, hc, hsome⟩ := any_eq_true.1 hany
    rw [h c hc] at hsome
    cases hsome
  exact if_pos ⟨not_or.2 ⟨hlast, hlast'⟩, hnone⟩

/-! ## Length on the wire -/

lemma units_encodeChar (h : encodeChar c = some d) : units [d] = units [c] := by
  unfold encodeChar at h
  split at h
  · rename_i hcontrol
    obtain rfl := some.inj h
    have hvalid : (puaBase + c.toNat).isValidChar := by
      rw [Nat.isValidChar, puaBase]
      omega
    have hbmp : (Char.ofNat (puaBase + c.toNat)).toNat < 0x10000 := by
      rw [toNat_ofNat hvalid, puaBase]
      omega
    rw [units_singleton hbmp, units_singleton (by omega)]
  · split at h
    case h_9 => cases h
    all_goals
      obtain rfl := some.inj h
      decide

lemma units_encodeAt (isLast : Bool) (c : Char) :
    units [(encodeAt isLast c).getD c] = units [c] := by
  unfold encodeAt
  split
  · decide
  · decide
  · cases h : encodeChar c with
    | none => rfl
    | some d => exact units_encodeChar h

lemma units_encodeComponent (component : List Char) :
    units (encodeComponent component) = units component := by
  have hloop (s : List Char) : units (encodeChars s) = units s := by
    induction s with
    | nil => rfl
    | cons c rest ih => rw [encodeChars, units_cons, units_encodeAt, ih, ← units_cons]
  unfold encodeComponent
  split
  · rfl
  · rw [encodeName]
    split
    · rfl
    · exact hloop component

lemma units_intercalate {a b : Char} (hsep : units [a] = units [b]) (xs : List (List Char)) :
    units ([a].intercalate (xs.map encodeComponent)) = units ([b].intercalate xs) := by
  simp only [intercalate]
  induction xs with
  | nil => rfl
  | cons x xs ih =>
    cases xs with
    | nil => simpa using units_encodeComponent x
    | cons y ys =>
      rw [map_cons, map_cons, intersperse_cons_cons, intersperse_cons_cons]
      simp only [flatten_cons, units_append, units_encodeComponent, hsep]
      rw [← map_cons, ih]

/-- **A wire path is as long as the caller's path** without its leading slashes. -/
theorem units_encodePath (path : List Char) :
    units (encodePath path) = units (path.dropWhile (· = '/')) := by
  rw [encodePath, units_intercalate (by decide : units ['\\'] = units ['/']),
    intercalate_splitOn]

/-! ## Characters -/

lemma decodeChar_of_encodeChar (h : encodeChar c = some d) :
    decodeChar d = some c := by
  unfold encodeChar at h
  split at h
  · rename_i hcontrol
    obtain rfl := some.inj h
    have hvalid : (puaBase + c.toNat).isValidChar := by
      rw [Nat.isValidChar, puaBase]
      omega
    have hcode : (Char.ofNat (puaBase + c.toNat)).toNat = puaBase + c.toNat := toNat_ofNat hvalid
    have hrange : 0xF001 ≤ puaBase + c.toNat ∧ puaBase + c.toNat ≤ 0xF01F := by
      rw [puaBase]
      omega
    unfold decodeChar
    rw [hcode, if_pos hrange, Nat.add_sub_cancel_left, Char.ofNat_toNat]
  · split at h
    case h_9 => cases h
    all_goals
      obtain rfl := some.inj h
      rfl

lemma decodeChar_cases (h : decodeChar d = some c) :
    encodeChar c = some d ∨ c = ' ' ∧ d = wireTrailingSpace ∨ c = '.' ∧ d = wireTrailingPeriod := by
  unfold decodeChar at h
  split at h
  · rename_i hcontrol
    obtain rfl := some.inj h
    have hvalid : (d.toNat - puaBase).isValidChar := by
      rw [Nat.isValidChar, puaBase]
      omega
    have hcode : (Char.ofNat (d.toNat - puaBase)).toNat = d.toNat - puaBase := toNat_ofNat hvalid
    have hrange : 0x01 ≤ d.toNat - puaBase ∧ d.toNat - puaBase ≤ 0x1F := by
      rw [puaBase]
      omega
    have hback : puaBase + (d.toNat - puaBase) = d.toNat := by
      rw [puaBase]
      omega
    left
    unfold encodeChar
    rw [hcode, if_pos hrange, hback, Char.ofNat_toNat]
  · split at h
    case h_9 => exact .inr (.inl ⟨(some.inj h).symm, rfl⟩)
    case h_10 => exact .inr (.inr ⟨(some.inj h).symm, rfl⟩)
    case h_11 => cases h
    all_goals
      obtain rfl := some.inj h
      exact .inl rfl

lemma decodeChar_of_not_mapped (h : isMapped c = false) : decodeChar c = none := by
  have hcode : c.toNat ≤ 0xF000 ∨ 0xF029 < c.toNat := by
    by_contra hin
    have hmapped : isMapped c = true := by
      rw [isMapped, puaBase, puaLast, decide_eq_true (by omega), decide_eq_true (by omega)]
      rfl
    rw [h] at hmapped
    cases hmapped
  unfold decodeChar
  rw [if_neg (by omega)]
  split
  case h_11 => rfl
  all_goals
    revert hcode
    decide

lemma isMapped_of_encodeChar (h : encodeChar c = some d) : isMapped d = true := by
  by_contra hmapped
  have hnone := decodeChar_of_not_mapped (Bool.not_eq_true _ ▸ hmapped)
  rw [decodeChar_of_encodeChar h] at hnone
  cases hnone

lemma encodeChar_of_mapped (h : isMapped c = true) : encodeChar c = none := by
  have hcode : 0xF000 < c.toNat := by
    rw [isMapped, Bool.and_eq_true, decide_eq_true_eq, puaBase] at h
    exact h.1
  unfold encodeChar
  rw [if_neg (by omega)]
  split
  case h_9 => rfl
  all_goals
    revert hcode
    decide

/-! ## Names -/

lemma decodeName_eq_map (name : List Char) :
    decodeName name = name.map fun c => (decodeChar c).getD c := by
  unfold decodeName
  split
  · rename_i hany
    have hid : ∀ c ∈ name, (decodeChar c).getD c = c := by
      intro c hc
      have hmapped : isMapped c = false := by
        by_contra hne
        exact hany (any_eq_true.2 ⟨c, hc, Bool.not_eq_false _ ▸ hne⟩)
      rw [decodeChar_of_not_mapped hmapped]
      rfl
    rw [List.map_congr_left hid, List.map_id']
  · rfl

lemma encodeChars_of_legal (hlast : name.getLast? ≠ some ' ') (hlast' : name.getLast? ≠ some '.')
    (h : ∀ c ∈ name, encodeChar c = none) :
    encodeChars name = name := by
  induction name with
  | nil => rfl
  | cons c rest ih =>
    have hc : encodeAt rest.isEmpty c = none := by
      unfold encodeAt
      split
      · rename_i hempty
        rw [isEmpty_iff.1 hempty] at hlast
        exact absurd rfl hlast
      · rename_i hempty
        rw [isEmpty_iff.1 hempty] at hlast'
        exact absurd rfl hlast'
      · exact h _ mem_cons_self
    have hrest : encodeChars rest = rest := by
      cases rest with
      | nil => rfl
      | cons d rest =>
        rw [getLast?_cons_cons] at hlast hlast'
        exact ih hlast hlast' fun e he => h e (mem_cons_of_mem c he)
    rw [encodeChars, hc, hrest]
    rfl

lemma encodeName_eq_encodeChars (name : List Char) : encodeName name = encodeChars name := by
  rw [encodeName]
  split
  · rename_i hlegal
    obtain ⟨hlast, hany⟩ := hlegal
    rw [not_or] at hlast
    refine (encodeChars_of_legal hlast.1 hlast.2 fun c hc => ?_).symm
    by_contra hsome
    exact hany (any_eq_true.2 ⟨c, hc, isSome_iff_ne_none.2 hsome⟩)
  · rfl

lemma decode_encodeAt (isLast : Bool) (h : isMapped c = false) :
    (decodeChar ((encodeAt isLast c).getD c)).getD ((encodeAt isLast c).getD c) = c := by
  unfold encodeAt
  split
  · rfl
  · rfl
  · cases hc : encodeChar c with
    | none =>
      rw [getD_none, decodeChar_of_not_mapped h]
      rfl
    | some d =>
      rw [getD_some, decodeChar_of_encodeChar hc]
      rfl

/-- **A name is read back** if it holds no code point of the scheme's own. -/
theorem decodeName_encodeName (h : ∀ c ∈ name, isMapped c = false) :
    decodeName (encodeName name) = name := by
  rw [decodeName_eq_map, encodeName_eq_encodeChars]
  induction name with
  | nil => rfl
  | cons c rest ih =>
    rw [encodeChars, map_cons, decode_encodeAt _ (h c mem_cons_self),
      ih fun d hd => h d (mem_cons_of_mem c hd)]

/-! ## What the wire sees -/

def Forbidden (c : Char) : Prop :=
  c ∈ ['"', '*', ':', '<', '>', '?', '\\', '|'] ∨ 0x01 ≤ c.toNat ∧ c.toNat ≤ 0x1F

instance (c : Char) : Decidable (Forbidden c) :=
  inferInstanceAs (Decidable (_ ∨ _))

lemma encodeChar_eq_none_iff : encodeChar c = none ↔ ¬ Forbidden c := by
  unfold encodeChar Forbidden
  split
  · rename_i hcontrol
    simp [hcontrol]
  · rename_i hcontrol
    split <;> simp_all

lemma encodeChar_encodeAt (isLast : Bool) (c : Char) :
    encodeChar ((encodeAt isLast c).getD c) = none := by
  unfold encodeAt
  split
  · decide
  · decide
  · cases hc : encodeChar c with
    | none => exact hc
    | some d => exact encodeChar_of_mapped (isMapped_of_encodeChar hc)

lemma not_forbidden_of_mem_encodeName (h : c ∈ encodeName name) :
    ¬ Forbidden c := by
  rw [encodeName_eq_encodeChars] at h
  rw [← encodeChar_eq_none_iff]
  induction name with
  | nil => cases h
  | cons d rest ih =>
    rw [encodeChars, List.mem_cons] at h
    rcases h with rfl | h
    · exact encodeChar_encodeAt _ d
    · exact ih h

lemma getLast?_encodeName (name : List Char) :
    (encodeName name).getLast? ≠ some ' ' ∧ (encodeName name).getLast? ≠ some '.' := by
  rw [encodeName_eq_encodeChars]
  induction name with
  | nil => exact ⟨nofun, nofun⟩
  | cons c rest ih =>
    cases rest with
    | nil =>
      have hat : (encodeAt true c).getD c ≠ ' ' ∧ (encodeAt true c).getD c ≠ '.' := by
        unfold encodeAt
        split
        · decide
        · decide
        · rename_i c _ _ hspace hperiod
          cases hc : encodeChar c with
          | none => exact ⟨fun h => hspace h rfl, fun h => hperiod h rfl⟩
          | some d =>
            have hd := isMapped_of_encodeChar hc
            rw [Option.getD_some]
            constructor
            all_goals
              rintro rfl
              revert hd
              decide
      simpa [encodeChars] using hat
    | cons d rest =>
      rw [encodeChars, encodeChars, List.getLast?_cons_cons, ← encodeChars]
      exact ih

/-! ## Paths -/

lemma backslash_notMem_encodeComponent (component : List Char) :
    '\\' ∉ encodeComponent component := by
  unfold encodeComponent
  split
  · rename_i hdots
    rcases hdots with rfl | rfl <;> decide
  · intro hmem
    exact not_forbidden_of_mem_encodeName hmem (by decide)

lemma splitOn_encodePath (path : List Char) :
    (encodePath path).splitOn '\\' =
      ((path.dropWhile (· = '/')).splitOn '/').map encodeComponent := by
  rw [encodePath]
  refine List.splitOn_intercalate _ ?_ ?_
  · intro component hmem
    obtain ⟨original, -, rfl⟩ := List.mem_map.1 hmem
    exact backslash_notMem_encodeComponent original
  · rw [Ne, List.map_eq_nil_iff]
    exact List.splitOnP_ne_nil _ _

lemma decodeName_encodeComponent (h : ∀ c ∈ component, isMapped c = false) :
    decodeName (encodeComponent component) = component := by
  unfold encodeComponent
  split
  · rename_i hdots
    rcases hdots with rfl | rfl <;> decide
  · exact decodeName_encodeName h

lemma dropWhile_slash (h : path.head? ≠ some '/') :
    path.dropWhile (· = '/') = path := by
  cases path with
  | nil => rfl
  | cons c rest =>
    refine List.dropWhile_cons_of_neg ?_
    simpa using h

/-- **A path is read back** if it holds no code point of the scheme's own and does not start with
the separator. -/
theorem decodePath_encodePath (h : ∀ c ∈ path, isMapped c = false) (hhead : path.head? ≠ some '/') :
    decodePath (encodePath path) = path := by
  have hback : ∀ component ∈ path.splitOn '/',
      (decodeName ∘ encodeComponent) component = component := by
    intro component hmem
    rw [List.splitOn_eq_splitOnP] at hmem
    exact decodeName_encodeComponent fun c hc => h c (Components.mem_of_mem_splitOnP hmem hc)
  rw [decodePath, splitOn_encodePath, dropWhile_slash hhead, List.map_map, List.map_congr_left hback,
    List.map_id', List.intercalate_splitOn]

theorem legal_of_mem_encodePath (h : component ∈ (encodePath path).splitOn '\\')
    (hdot : component ≠ ['.']) (hdots : component ≠ ['.', '.']) :
    (∀ c ∈ component, ¬ Forbidden c) ∧ component.getLast? ≠ some ' ' ∧
      component.getLast? ≠ some '.' := by
  rw [splitOn_encodePath] at h
  obtain ⟨original, -, rfl⟩ := List.mem_map.1 h
  by_cases hor : original = ['.'] ∨ original = ['.', '.']
  · rw [encodeComponent, if_pos hor] at hdot hdots
    exact absurd hor (not_or.2 ⟨hdot, hdots⟩)
  · rw [encodeComponent, if_neg hor]
    exact ⟨fun c hc => not_forbidden_of_mem_encodeName hc, getLast?_encodeName original⟩

/-- **Encoding is safe and invertible.** Names and paths without code points of the scheme's own
are read back, and no component of an encoded path but `.` and `..` is one that SMB2 forbids. -/
theorem encoding_safe_invertible :
    (∀ name : List Char, (∀ c ∈ name, isMapped c = false) →
      decodeName (encodeName name) = name) ∧
    (∀ path : List Char, (∀ c ∈ path, isMapped c = false) → path.head? ≠ some '/' →
      decodePath (encodePath path) = path) ∧
    ∀ path : List Char, ∀ component ∈ (encodePath path).splitOn '\\',
      component ≠ ['.'] → component ≠ ['.', '.'] →
      (∀ c ∈ component, ¬ Forbidden c) ∧ component.getLast? ≠ some ' ' ∧
        component.getLast? ≠ some '.' :=
  ⟨fun _ h => decodeName_encodeName h, fun _ h hhead => decodePath_encodePath h hhead,
    fun _ _ h hdot hdots => legal_of_mem_encodePath h hdot hdots⟩

lemma forall_mem_of_all {p : Char → Prop} [DecidablePred p]
    (h : (name.all fun c => decide (p c)) = true) : ∀ c ∈ name, p c := by
  simpa using h

theorem encoding_safe_invertible_sample :
    decodePath (encodePath "a?/../b.".toList) = "a?/../b.".toList ∧
      (encodePath "a?/../b.".toList).splitOn '\\' =
        [['a', '\uF025'], ['.', '.'], ['b', '\uF029']] :=
  ⟨encoding_safe_invertible.2.1 _ (forall_mem_of_all (by decide)) (by decide), by decide⟩

/-! ## Listed names -/

/-- A name a server may list: not empty, without separators, NUL and forbidden characters, and not
ending in a space or a period. -/
structure LegalName (name : List Char) : Prop where
  ne_nil : name ≠ []
  no_slash : '/' ∉ name
  no_nul : '\x00' ∉ name
  no_forbidden : ∀ c ∈ name, ¬ Forbidden c
  no_trailing_space : name.getLast? ≠ some ' '
  no_trailing_period : name.getLast? ≠ some '.'

def TrailingOnly (name : List Char) : Prop :=
  ∀ c ∈ name.dropLast, c ≠ wireTrailingSpace ∧ c ≠ wireTrailingPeriod

instance (name : List Char) : Decidable (TrailingOnly name) :=
  decidableBAll (fun c => c ≠ wireTrailingSpace ∧ c ≠ wireTrailingPeriod) name.dropLast

lemma encodeAt_eq_encodeChar {isLast : Bool} (h : isLast = true → c ≠ ' ' ∧ c ≠ '.') :
    encodeAt isLast c = encodeChar c := by
  unfold encodeAt
  split
  · exact absurd rfl (h rfl).1
  · exact absurd rfl (h rfl).2
  · rfl

lemma encodeAt_decodeChar {isLast : Bool} (hlegal : ¬ Forbidden c)
    (hlast : isLast = true → c ≠ ' ' ∧ c ≠ '.')
    (hinner : isLast = false → c ≠ wireTrailingSpace ∧ c ≠ wireTrailingPeriod) :
    (encodeAt isLast ((decodeChar c).getD c)).getD ((decodeChar c).getD c) = c := by
  cases hc : decodeChar c with
  | none =>
    rw [getD_none, encodeAt_eq_encodeChar hlast, encodeChar_eq_none_iff.2 hlegal]
    rfl
  | some d =>
    rw [getD_some]
    rcases decodeChar_cases hc with hback | ⟨rfl, rfl⟩ | ⟨rfl, rfl⟩
    · have hplace : isLast = true → d ≠ ' ' ∧ d ≠ '.' := by
        intro _
        constructor
        all_goals
          rintro rfl
          cases hback
      rw [encodeAt_eq_encodeChar hplace, hback]
      rfl
    · cases isLast with
      | true => rfl
      | false => exact absurd rfl (hinner rfl).1
    · cases isLast with
      | true => rfl
      | false => exact absurd rfl (hinner rfl).2

theorem encodeName_decodeName (hlegal : ∀ c ∈ name, ¬ Forbidden c)
    (hspace : name.getLast? ≠ some ' ') (hperiod : name.getLast? ≠ some '.')
    (hinner : TrailingOnly name) : encodeName (decodeName name) = name := by
  rw [encodeName_eq_encodeChars, decodeName_eq_map]
  induction name with
  | nil => rfl
  | cons c rest ih =>
    have hc : (encodeAt rest.isEmpty ((decodeChar c).getD c)).getD ((decodeChar c).getD c) = c := by
      refine encodeAt_decodeChar (hlegal c mem_cons_self) ?_ ?_
      · intro hempty
        rw [isEmpty_iff.1 hempty] at hspace hperiod
        exact ⟨fun h => hspace (by rw [h]; rfl), fun h => hperiod (by rw [h]; rfl)⟩
      · intro hrest
        cases rest with
        | nil => cases hrest
        | cons d rest => exact hinner c mem_cons_self
    rw [map_cons, encodeChars, isEmpty_map, hc]
    cases rest with
    | nil => rfl
    | cons d rest =>
      rw [getLast?_cons_cons] at hspace hperiod
      rw [ih (fun e he => hlegal e (mem_cons_of_mem c he)) hspace hperiod
        fun e he => hinner e (mem_cons_of_mem c he)]

lemma encodePath_of_notMem (h : '/' ∉ name) :
    encodePath name = encodeComponent name := by
  have hhead : name.head? ≠ some '/' := fun hhead => h (mem_of_mem_head? hhead)
  rw [encodePath, dropWhile_slash hhead, splitOn_eq_singleton h, map_singleton,
    intercalate_singleton]

lemma decodeChar_slash_iff (c : Char) : (decodeChar c).getD c = '/' ↔ c = '/' := by
  constructor
  · intro h
    cases hd : decodeChar c with
    | none => rwa [hd, getD_none] at h
    | some d =>
      rw [hd, getD_some] at h
      subst h
      rcases decodeChar_cases hd with hback | ⟨hspace, -⟩ | ⟨hperiod, -⟩
      · cases hback
      · cases hspace
      · cases hperiod
  · rintro rfl
    decide

lemma slash_notMem_decodeName (h : '/' ∉ name) : '/' ∉ decodeName name := by
  rw [decodeName_eq_map]
  intro hmem
  obtain ⟨c, hc, hslash⟩ := mem_map.1 hmem
  exact h ((decodeChar_slash_iff c).1 hslash ▸ hc)

lemma eq_period_of_decodeChar (h : (decodeChar c).getD c = '.') :
    c = '.' ∨ c = wireTrailingPeriod := by
  cases hd : decodeChar c with
  | none =>
    rw [hd, getD_none] at h
    exact .inl h
  | some d =>
    rw [hd, getD_some] at h
    subst h
    rcases decodeChar_cases hd with hback | ⟨hspace, -⟩ | ⟨-, rfl⟩
    · cases hback
    · cases hspace
    · exact .inr rfl

lemma decodeName_dots_iff (hperiod : name.getLast? ≠ some '.') (hinner : TrailingOnly name) :
    (decodeName name = ['.'] ∨ decodeName name = ['.', '.']) ↔
      name = [wireTrailingPeriod] ∨ name = ['.', wireTrailingPeriod] := by
  constructor
  · rw [decodeName_eq_map]
    rintro (h | h)
    · obtain ⟨c, rfl, hc⟩ := map_eq_singleton_iff.1 h
      rcases eq_period_of_decodeChar hc with rfl | rfl
      · exact absurd rfl hperiod
      · exact .inl rfl
    · obtain ⟨c, tail, rfl, hc, htail⟩ := map_eq_cons_iff.1 h
      obtain ⟨d, rfl, hd⟩ := map_eq_singleton_iff.1 htail
      rcases eq_period_of_decodeChar hd with rfl | rfl
      · exact absurd rfl hperiod
      · rcases eq_period_of_decodeChar hc with rfl | rfl
        · exact .inr rfl
        · exact absurd rfl (hinner _ mem_cons_self).2
  · rintro (rfl | rfl)
    · exact .inl (by decide)
    · exact .inr (by decide)

def reencode (component : List Char) : List Char := encodeComponent (decodeName component)

/-- A component that is the same after the round trip: `.`, `..`, or a legal one with the code points
for a trailing space and period at its end only, and not shown as `.` or `..`. -/
def Restored (component : List Char) : Prop :=
  component = ['.'] ∨ component = ['.', '.'] ∨
    (∀ c ∈ component, ¬ Forbidden c) ∧ component.getLast? ≠ some ' ' ∧
      component.getLast? ≠ some '.' ∧ TrailingOnly component ∧
      component ≠ [wireTrailingPeriod] ∧ component ≠ ['.', wireTrailingPeriod]

instance (component : List Char) : Decidable (Restored component) :=
  letI := decidableBAll (fun c => ¬ Forbidden c) component
  inferInstanceAs (Decidable (_ ∨ _))

lemma trailingOnly_of_encodeChars
    (h : encodeChars (name.map fun c => (decodeChar c).getD c) = name) :
    TrailingOnly name := by
  induction name with
  | nil => exact nofun
  | cons c rest ih =>
    rw [map_cons, encodeChars] at h
    obtain ⟨hc, hrest⟩ := cons.inj h
    cases rest with
    | nil => exact nofun
    | cons d rest =>
      rw [isEmpty_map, isEmpty_cons] at hc
      intro x hx
      rw [dropLast_cons_cons, mem_cons] at hx
      rcases hx with rfl | hx
      · constructor
        · rintro rfl
          exact absurd hc (by decide)
        · rintro rfl
          exact absurd hc (by decide)
      · exact ih hrest x hx

theorem reencode_eq_iff :
    reencode component = component ↔ Restored component := by
  constructor
  · intro hback
    by_cases hdots : decodeName component = ['.'] ∨ decodeName component = ['.', '.']
    · rw [reencode, encodeComponent, if_pos hdots] at hback
      rw [hback] at hdots
      exact hdots.elim .inl fun h => .inr (.inl h)
    · rw [reencode, encodeComponent, if_neg hdots] at hback
      obtain ⟨hspace, hperiod⟩ := getLast?_encodeName (decodeName component)
      have hforbidden : ∀ c ∈ encodeName (decodeName component), ¬ Forbidden c :=
        fun c hc => not_forbidden_of_mem_encodeName hc
      rw [hback] at hspace hperiod hforbidden
      have hinner : TrailingOnly component := by
        rw [encodeName_eq_encodeChars, decodeName_eq_map] at hback
        exact trailingOnly_of_encodeChars hback
      rw [decodeName_dots_iff hperiod hinner, not_or] at hdots
      exact .inr (.inr ⟨hforbidden, hspace, hperiod, hinner, hdots⟩)
  · rintro (rfl | rfl | ⟨hforbidden, hspace, hperiod, hinner, hdots⟩)
    · decide
    · decide
    · rw [← not_or, ← decodeName_dots_iff hperiod hinner] at hdots
      rw [reencode, encodeComponent, if_neg hdots]
      exact encodeName_decodeName hforbidden hspace hperiod hinner

/-- **A listed entry can be opened**, unless it is one of the two names that are shown as `.` and
`..`: the name shown for a legal name is encoded to that name. -/
theorem encodePath_decodeName_iff {name : List Char} (hlegal : LegalName name)
    (hinner : TrailingOnly name) :
    encodePath (decodeName name) = name ↔
      name ≠ [wireTrailingPeriod] ∧ name ≠ ['.', wireTrailingPeriod] := by
  rw [encodePath_of_notMem (slash_notMem_decodeName hlegal.no_slash), ← reencode, reencode_eq_iff]
  constructor
  · rintro (rfl | rfl | ⟨-, -, -, -, hne⟩)
    · exact absurd rfl hlegal.no_trailing_period
    · exact absurd rfl hlegal.no_trailing_period
    · exact hne
  · intro hne
    exact .inr (.inr ⟨hlegal.no_forbidden, hlegal.no_trailing_space, hlegal.no_trailing_period,
      hinner, hne⟩)

theorem encodePath_decodeName_iff_sample :
    encodePath (decodeName ['w', 'h', 'o', '\uF025', '\uF028']) =
      ['w', 'h', 'o', '\uF025', '\uF028'] :=
  (encodePath_decodeName_iff
    ⟨by decide, by decide, by decide, forall_mem_of_all (by decide), by decide, by decide⟩
    (by decide)).2 (by decide)

/-- The name that consists of the code point for a trailing period is legal; it is shown as `.`
and opening that opens the directory it was listed in. -/
theorem encodePath_decodeName_period :
    LegalName [wireTrailingPeriod] ∧ TrailingOnly [wireTrailingPeriod] ∧
      encodePath (decodeName [wireTrailingPeriod]) = ['.'] ∧
      encodePath (decodeName [wireTrailingPeriod]) ≠ [wireTrailingPeriod] :=
  ⟨⟨by decide, by decide, by decide, forall_mem_of_all (by decide), by decide, by decide⟩,
    by decide, by decide, by decide⟩

/-! ## Components of wire paths -/

def isSep (c : Char) : Bool := c = '\\' || c = '/'

/-- **The components of a wire path**: its nonempty pieces. -/
def components (path : List Char) : List (List Char) := Components.parts isSep path

def isSlash (c : Char) : Bool := c = '/'

def callerComponents (path : List Char) : List (List Char) := Components.parts isSlash path

lemma slash_notMem_of_isSlash (h : ∀ c ∈ path, isSlash c = false) :
    '/' ∉ path := fun hmem => absurd (h '/' hmem) (by decide)

lemma encodeAt_cases (isLast : Bool) (c : Char) :
    (encodeAt isLast c).getD c = c ∨ isMapped ((encodeAt isLast c).getD c) = true := by
  unfold encodeAt
  split
  · exact .inr (by decide)
  · exact .inr (by decide)
  · cases hd : encodeChar c with
    | none => exact .inl rfl
    | some d => exact .inr (isMapped_of_encodeChar hd)

lemma mem_encodeComponent (h : d ∈ encodeComponent component) :
    d ∈ component ∨ isMapped d = true := by
  have hloop (name : List Char) (hmem : d ∈ encodeChars name) : d ∈ name ∨ isMapped d = true := by
    induction name with
    | nil => cases hmem
    | cons c rest ih =>
      rw [encodeChars, mem_cons] at hmem
      rcases hmem with rfl | hmem
      · rcases encodeAt_cases rest.isEmpty c with hsame | hmapped
        · rw [hsame]
          exact .inl mem_cons_self
        · exact .inr hmapped
      · exact (ih hmem).imp_left (mem_cons_of_mem c)
  unfold encodeComponent at h
  split at h
  · exact .inl h
  · rw [encodeName_eq_encodeChars] at h
    exact hloop component h

lemma slash_notMem_encodeComponent (h : '/' ∉ component) :
    '/' ∉ encodeComponent component := by
  intro hmem
  rcases mem_encodeComponent hmem with hmem | hmapped
  · exact h hmem
  · cases hmapped

lemma encodeComponent_eq_nil_iff :
    encodeComponent component = [] ↔ component = [] := by
  rw [← Utf16.units_eq_zero, units_encodeComponent, Utf16.units_eq_zero]

lemma components_encodePath (path : List Char) :
    components (encodePath path) = (callerComponents path).map encodeComponent := by
  have hsingle {component : List Char} (hfree : ∀ c ∈ component, isSlash c = false) :
      components (encodeComponent component) =
        (callerComponents component).map encodeComponent := by
    by_cases hne : component = []
    · subst hne
      rfl
    · rw [callerComponents, Components.parts_of_free hne hfree, map_singleton]
      refine Components.parts_of_free (mt encodeComponent_eq_nil_iff.1 hne) ?_
      intro c hc
      have hback : c ≠ '\\' := fun h => backslash_notMem_encodeComponent component (h ▸ hc)
      have hslash : c ≠ '/' := fun h =>
        slash_notMem_encodeComponent (slash_notMem_of_isSlash hfree) (h ▸ hc)
      simp [isSep, hback, hslash]
  have hjoin (path : List Char) :
      components (['\\'].intercalate ((path.splitOn '/').map encodeComponent)) =
        (callerComponents path).map encodeComponent := by
    induction path using Components.splitOnP_induction isSlash with
    | single path hfree =>
      rw [splitOn_eq_singleton (slash_notMem_of_isSlash hfree), map_singleton,
        intercalate_singleton]
      exact hsingle hfree
    | join first c rest hfirst hc ih =>
      obtain rfl := of_decide_eq_true hc
      rw [splitOn_append_cons_self_of_not_mem (slash_notMem_of_isSlash hfirst), map_cons,
        intercalate_cons_of_ne_nil (by simp), append_assoc, singleton_append,
        components, Components.parts_append_cons _ _ (by rfl), callerComponents,
        Components.parts_append_cons _ _ hc, map_append]
      exact congrArg₂ (· ++ ·) (hsingle hfirst) ih
  rw [encodePath, hjoin]
  exact congrArg _ (Components.parts_dropWhile (fun _ hc => hc) path)

lemma callerComponents_decodePath (path : List Char) :
    callerComponents (decodePath path) = (components path).map decodeName := by
  have hsingle {piece : List Char} (hfree : '\\' ∉ piece) :
      callerComponents (decodeName piece) = (components piece).map decodeName := by
    have hslash (c : Char) : isSlash ((decodeChar c).getD c) = isSlash c :=
      decide_eq_decide.2 (decodeChar_slash_iff c)
    have hsame : ∀ c ∈ piece, isSlash c = isSep c := by
      intro c hc
      have hne : c ≠ '\\' := fun h => hfree (h ▸ hc)
      simp [isSlash, isSep, hne]
    rw [decodeName_eq_map, callerComponents, Components.parts_map hslash,
      Components.parts_congr hsame]
    exact List.map_congr_left fun name _ => (decodeName_eq_map name).symm
  induction path using Components.splitOnP_induction (· == '\\') with
  | single path hfree =>
    have hmem : '\\' ∉ path := fun hmem => absurd (hfree _ hmem) (by decide)
    rw [decodePath, splitOn_eq_singleton hmem, map_singleton, intercalate_singleton]
    exact hsingle hmem
  | join first c rest hfirst hc ih =>
    obtain rfl := eq_of_beq hc
    have hmem : '\\' ∉ first := fun hmem => absurd (hfirst _ hmem) (by decide)
    rw [decodePath, splitOn_append_cons_self_of_not_mem hmem, map_cons,
      intercalate_cons_of_ne_nil (by simp), append_assoc, singleton_append,
      ← decodePath, callerComponents, Components.parts_append_cons _ _ (by rfl), components,
      Components.parts_append_cons _ _ (by rfl), map_append]
    exact congrArg₂ (· ++ ·) (hsingle hmem) ih

/-- **A wire path after the round trip**, component by component. -/
theorem components_encodePath_decodePath (path : List Char) :
    components (encodePath (decodePath path)) = (components path).map reencode := by
  rw [components_encodePath, callerComponents_decodePath, List.map_map]
  rfl

def InTable (c : Char) : Prop := Forbidden c ∨ c = ' ' ∨ c = '.' ∨ isMapped c = true

lemma mem_reencode (h : d ∈ reencode component) :
    d ∈ component ∨ InTable d := by
  rcases mem_encodeComponent h with hmem | hmapped
  · rw [decodeName_eq_map] at hmem
    obtain ⟨c, hc, rfl⟩ := mem_map.1 hmem
    cases hd : decodeChar c with
    | none => exact .inl hc
    | some d =>
      rw [getD_some]
      rcases decodeChar_cases hd with hback | ⟨rfl, -⟩ | ⟨rfl, -⟩
      · have hforbidden : Forbidden d := by
          by_contra hlegal
          rw [encodeChar_eq_none_iff.2 hlegal] at hback
          cases hback
        exact .inr (.inl hforbidden)
      · exact .inr (.inr (.inl rfl))
      · exact .inr (.inr (.inr (.inl rfl)))
  · exact .inr (.inr (.inr (.inr hmapped)))

end Name

end Smb2
