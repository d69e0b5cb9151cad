import Mathlib.Data.List.MinMax
import Mathlib.Data.List.Nodup
import Smb2.Client.Tree.Basic

set_option autoImplicit false

/-!
# DFS referrals

The resolver of `client/dfs.rs`: a cache of referrals keyed by the path prefix they cover, and the
lookup of a UNC path in it. The client asks it when a server answers that a path is on another
server, and tries again there under the path that the lookup leaves.

## Implementation notes

The standard library's tables are left open: lower case is a function of which only what holds of
Unicode's is assumed. It is not a function of single characters, since a capital sigma depends on
its neighbours. A lookup reads the clock once, where the source reads it for every entry.
-/

open List

namespace Smb2

namespace Dfs

open Name

/-! ## Lower case -/

structure Lowercase where
  toLowercase : List Char → List Char
  toLowercase_nil : toLowercase [] = []
  toLowercase_append_cons : ∀ a c b, isSep c = true →
    toLowercase (a ++ c :: b) = toLowercase a ++ c :: toLowercase b
  toLowercase_free : ∀ a, (∀ c ∈ a, isSep c = false) → ∀ c ∈ toLowercase a, isSep c = false
  toLowercase_ne_nil : ∀ a, a ≠ [] → toLowercase a ≠ []
  toLowercase_mem : ∀ a, ∀ c ∈ toLowercase a, toLowercase [c] = [c]
  toLowercase_of_forall : ∀ a, (∀ c ∈ a, toLowercase [c] = [c]) → toLowercase a = a
  toLowercase_of_inTable : ∀ c, InTable c → toLowercase [c] = [c]

namespace Lowercase

variable (L : Lowercase)

lemma toLowercase_eq_iff {a : List Char} :
    L.toLowercase a = a ↔ ∀ c ∈ a, L.toLowercase [c] = [c] := by
  refine ⟨fun h c hc => ?_, L.toLowercase_of_forall a⟩
  rw [← h] at hc
  exact L.toLowercase_mem a c hc

lemma toLowercase_sep {c : Char} (hc : isSep c = true) : L.toLowercase [c] = [c] := by
  have h := L.toLowercase_append_cons [] c [] hc
  rwa [nil_append, L.toLowercase_nil] at h

def normalize (path : List Char) : List Char :=
  (L.toLowercase path).map fun c => if c = '/' then '\\' else c

@[simp] lemma normalize_nil : L.normalize [] = [] := by
  rw [normalize, L.toLowercase_nil, map_nil]

lemma normalize_append_cons (a b : List Char) {c : Char} (hc : isSep c = true) :
    L.normalize (a ++ c :: b) = L.normalize a ++ '\\' :: L.normalize b := by
  have hback : (if c = '/' then '\\' else c) = '\\' := by
    rw [isSep, Bool.or_eq_true, decide_eq_true_eq, decide_eq_true_eq] at hc
    rcases hc with rfl | rfl
    · rfl
    · rfl
  rw [normalize, L.toLowercase_append_cons a c b hc, map_append, map_cons, hback]
  rfl

lemma normalize_of_free {a : List Char} (h : ∀ c ∈ a, isSep c = false) :
    L.normalize a = L.toLowercase a := by
  refine (map_congr_left fun c hc => ?_).trans (map_id _)
  refine if_neg ?_
  rintro rfl
  cases L.toLowercase_free a h '/' hc

/-- **The components of a normalized path** are those of the path in lower case. -/
theorem components_normalize (path : List Char) :
    components (L.normalize path) = (components path).map L.toLowercase := by
  have hsingle {piece : List Char} (hfree : ∀ c ∈ piece, isSep c = false) :
      components (L.normalize piece) = (components piece).map L.toLowercase := by
    by_cases hne : piece = []
    · rw [hne, normalize_nil]
      rfl
    · rw [L.normalize_of_free hfree, components, components,
        Components.parts_of_free (L.toLowercase_ne_nil piece hne) (L.toLowercase_free piece hfree),
        Components.parts_of_free hne hfree, map_singleton]
  induction path using Components.splitOnP_induction isSep with
  | single path hfree => exact hsingle hfree
  | join first c rest hfirst hc ih =>
    rw [L.normalize_append_cons first rest hc, components, components,
      Components.parts_append_cons _ _ (by rfl), Components.parts_append_cons _ _ hc,
      map_append]
    exact congrArg₂ (· ++ ·) (hsingle hfirst) ih

lemma toLowercase_normalize (path : List Char) :
    L.toLowercase (L.normalize path) = L.normalize path := by
  refine L.toLowercase_of_forall _ fun c hc => ?_
  obtain ⟨d, hd, rfl⟩ := mem_map.1 hc
  split
  · exact L.toLowercase_sep (by decide)
  · exact L.toLowercase_mem path d hd

theorem normalize_normalize (path : List Char) :
    L.normalize (L.normalize path) = L.normalize path := by
  have hslash : ∀ c ∈ L.normalize path, (if c = '/' then '\\' else c) = c := by
    intro c hc
    obtain ⟨d, hd, rfl⟩ := mem_map.1 hc
    by_cases hd' : d = '/'
    · rw [if_pos hd']
      rfl
    · rw [if_neg hd', if_neg hd']
  rw [normalize, toLowercase_normalize]
  exact (map_congr_left hslash).trans (map_id _)

lemma toLowercase_reencode {component : List Char} (h : L.toLowercase component = component) :
    L.toLowercase (reencode component) = reencode component := by
  rw [toLowercase_eq_iff] at h ⊢
  intro c hc
  rcases mem_reencode hc with hmem | htable
  · exact h c hmem
  · exact L.toLowercase_of_inTable c htable

end Lowercase

def asciiLower (c : Char) : Char :=
  if 65 ≤ c.toNat ∧ c.toNat ≤ 90 then Char.ofNat (c.toNat + 32) else c

lemma toNat_asciiLower {c : Char} (hc : 65 ≤ c.toNat ∧ c.toNat ≤ 90) :
    (asciiLower c).toNat = c.toNat + 32 := by
  have hvalid : (c.toNat + 32).isValidChar := by
    rw [Nat.isValidChar]
    omega
  rw [asciiLower, if_pos hc, Utf16.toNat_ofNat hvalid]

lemma asciiLower_asciiLower (c : Char) : asciiLower (asciiLower c) = asciiLower c := by
  by_cases hc : 65 ≤ c.toNat ∧ c.toNat ≤ 90
  · have hnat := toNat_asciiLower hc
    have hlower : ¬ (65 ≤ (asciiLower c).toNat ∧ (asciiLower c).toNat ≤ 90) := by omega
    exact if_neg hlower
  · have hsame : asciiLower c = c := if_neg hc
    rw [hsame, hsame]

lemma isSep_asciiLower (c : Char) : isSep (asciiLower c) = isSep c := by
  by_cases hc : 65 ≤ c.toNat ∧ c.toNat ≤ 90
  · have hnat := toNat_asciiLower hc
    have hfree (d : Char) (hd : d.toNat ≠ 92 ∧ d.toNat ≠ 47) : isSep d = false := by
      rw [isSep, Bool.or_eq_false_iff, decide_eq_false_iff_not, decide_eq_false_iff_not]
      constructor
      · rintro rfl
        exact hd.1 rfl
      · rintro rfl
        exact hd.2 rfl
    rw [hfree _ (by omega), hfree c (by omega)]
  · rw [asciiLower, if_neg hc]

lemma asciiLower_sep {c : Char} (hc : isSep c = true) : asciiLower c = c := by
  rw [isSep, Bool.or_eq_true, decide_eq_true_eq, decide_eq_true_eq] at hc
  rcases hc with rfl | rfl
  · rfl
  · rfl

lemma asciiLower_of_inTable {c : Char} (hc : InTable c) : asciiLower c = c := by
  refine if_neg ?_
  rcases hc with (hmem | hcontrol) | rfl | rfl | hmapped
  · exact forall_mem_of_all (p := fun c => ¬ (65 ≤ c.toNat ∧ c.toNat ≤ 90)) (by decide) c hmem
  · omega
  · decide
  · decide
  · rw [isMapped, Bool.and_eq_true, decide_eq_true_eq, decide_eq_true_eq, puaBase] at hmapped
    omega

lemma map_asciiLower_append_cons (a : List Char) (c : Char) (b : List Char) (hc : isSep c = true) :
    (a ++ c :: b).map asciiLower = a.map asciiLower ++ c :: b.map asciiLower := by
  rw [map_append, map_cons, asciiLower_sep hc]

lemma map_asciiLower_free (a : List Char) (h : ∀ c ∈ a, isSep c = false) :
    ∀ c ∈ a.map asciiLower, isSep c = false := by
  intro c hc
  obtain ⟨d, hd, rfl⟩ := mem_map.1 hc
  rw [isSep_asciiLower, h d hd]

lemma map_asciiLower_mem (a : List Char) :
    ∀ c ∈ a.map asciiLower, [c].map asciiLower = [c] := by
  intro c hc
  obtain ⟨d, -, rfl⟩ := mem_map.1 hc
  rw [map_singleton, asciiLower_asciiLower]

lemma map_asciiLower_of_forall (a : List Char) (h : ∀ c ∈ a, [c].map asciiLower = [c]) :
    a.map asciiLower = a := by
  refine (map_congr_left fun c hc => ?_).trans (map_id a)
  exact head_eq_of_cons_eq (h c hc)

/-- **The lower case of ASCII letters** alone is an instance of what is assumed. -/
def ascii : Lowercase where
  toLowercase path := path.map asciiLower
  toLowercase_nil := rfl
  toLowercase_append_cons := map_asciiLower_append_cons
  toLowercase_free := map_asciiLower_free
  toLowercase_ne_nil _ hne := mt map_eq_nil_iff.1 hne
  toLowercase_mem := map_asciiLower_mem
  toLowercase_of_forall := map_asciiLower_of_forall
  toLowercase_of_inTable _ hc := congrArg (fun d => [d]) (asciiLower_of_inTable hc)

/-! ## The cache -/

/-- An entry of a referral response (`DfsReferralEntry`), as far as the resolver reads it. -/
structure DfsReferralEntry where
  ttl : ℕ
  dfsPath : List Char
  networkAddress : List Char
deriving DecidableEq, Repr

structure RespGetDfsReferral where
  entries : List DfsReferralEntry
deriving DecidableEq, Repr

structure ResolvedPath where
  server : List Char
  port : ℕ
  share : List Char
  remainingPath : List Char
deriving DecidableEq, Repr

structure DfsTarget where
  server : List Char
  share : List Char
  remainingPrefix : List Char
deriving DecidableEq, Repr

def parseUncTarget (networkAddress : List Char) : Option DfsTarget :=
  match (networkAddress.dropWhile (· = '\\')).splitOn '\\' with
  | server :: share :: rest =>
    if server = [] ∨ share = [] then none
    else some ⟨server, share, ['\\'].intercalate rest⟩
  | _ => none

def DfsTarget.resolve (target : DfsTarget) (remaining : List Char) : ResolvedPath where
  server := target.server
  port := 445
  share := target.share
  remainingPath :=
    if target.remainingPrefix = [] then remaining
    else if remaining = [] then target.remainingPrefix
    else target.remainingPrefix ++ '\\' :: remaining

structure CachedReferral where
  dfsPathPrefix : List Char
  targets : List DfsTarget
  expiresAt : ℕ
deriving DecidableEq, Repr

namespace CachedReferral

def Live (e : CachedReferral) (now : ℕ) : Prop := now < e.expiresAt

instance (e : CachedReferral) (now : ℕ) : Decidable (e.Live now) :=
  inferInstanceAs (Decidable (now < e.expiresAt))

def applies (e : CachedReferral) (now : ℕ) (normalized : List Char) : Bool :=
  e.dfsPathPrefix.isPrefixOf normalized && decide (e.Live now)

def remaining (e : CachedReferral) (normalized : List Char) : List Char :=
  (normalized.drop e.dfsPathPrefix.length).dropWhile (· = '\\')

def resolve (e : CachedReferral) (normalized : List Char) : List ResolvedPath :=
  e.targets.map fun target => target.resolve (e.remaining normalized)

end CachedReferral

def utf8Len (s : List Char) : ℕ := (s.map Char.utf8Size).sum

/-- **The resolver.** The cache is a map: no prefix is there twice, and the order of the list is that
in which the map is searched. The prefixes are normal forms. -/
structure DfsResolver (L : Lowercase) where
  cache : List CachedReferral
  nodup : (cache.map CachedReferral.dfsPathPrefix).Nodup
  normalized : ∀ e ∈ cache, L.normalize e.dfsPathPrefix = e.dfsPathPrefix

def cacheKey (L : Lowercase) (dfsPath : List Char) : List Char :=
  match L.normalize dfsPath with
  | '\\' :: '\\' :: rest => '\\' :: '\\' :: rest
  | '\\' :: rest => '\\' :: '\\' :: rest
  | other => other

lemma normalize_cacheKey (L : Lowercase) (dfsPath : List Char) :
    L.normalize (cacheKey L dfsPath) = cacheKey L dfsPath := by
  have hnormal := L.normalize_normalize dfsPath
  unfold cacheKey
  split
  · rename_i hkey
    rw [← hkey, hnormal]
  · rename_i hkey
    have hcons := L.normalize_append_cons [] (L.normalize dfsPath) (c := '\\') rfl
    rwa [L.normalize_nil, nil_append, nil_append, hnormal, hkey] at hcons
  · exact hnormal

namespace DfsResolver

variable {L : Lowercase} (r : DfsResolver L)

def new : DfsResolver L := ⟨[], nodup_nil, nofun⟩

def insert (e : CachedReferral) (h : L.normalize e.dfsPathPrefix = e.dfsPathPrefix) :
    DfsResolver L where
  cache := e :: r.cache.filter fun other => other.dfsPathPrefix ≠ e.dfsPathPrefix
  nodup := by
    rw [map_cons, nodup_cons]
    constructor
    · intro hmem
      obtain ⟨other, hother, hkey⟩ := mem_map.1 hmem
      exact of_decide_eq_true (mem_filter.1 hother).2 hkey
    · exact r.nodup.sublist (filter_sublist.map _)
  normalized := by
    rw [forall_mem_cons]
    exact ⟨h, fun other hother => r.normalized other (mem_filter.1 hother).1⟩

/-- `cache_referral`: the path of the first entry is the key, and the addresses that can be parsed
are the targets. -/
def cacheReferral (now : ℕ) (resp : RespGetDfsReferral) : DfsResolver L :=
  match resp.entries with
  | [] => r
  | first :: _ =>
    let targets := resp.entries.filterMap fun e => parseUncTarget e.networkAddress
    if targets = [] then r
    else r.insert ⟨cacheKey L first.dfsPath, targets, now + max first.ttl 1 * 10 ^ 9⟩
      (normalize_cacheKey L first.dfsPath)

def bestMatch (now : ℕ) (normalized : List Char) : Option CachedReferral :=
  r.cache.foldl (fun best entry =>
    if entry.applies now normalized &&
        best.all fun b => utf8Len b.dfsPathPrefix < utf8Len entry.dfsPathPrefix then
      some entry
    else best) none

def resolveFromCache (now : ℕ) (uncPath : List Char) : Option (List ResolvedPath) :=
  (r.bestMatch now (L.normalize uncPath)).map fun entry => entry.resolve (L.normalize uncPath)

/-! ## Which entry a lookup takes -/

lemma bestMatch_eq_argmax (now : ℕ) (normalized : List Char) :
    r.bestMatch now normalized =
      (r.cache.filter (·.applies now normalized)).argmax fun e => utf8Len e.dfsPathPrefix := by
  rw [argmax, foldl_filter]
  refine congrArg (fun f => r.cache.foldl f none) ?_
  funext best entry
  cases happlies : entry.applies now normalized with
  | false => rfl
  | true =>
    cases best with
    | none => rfl
    | some b => simp [argAux]

end DfsResolver

lemma eq_nil_of_utf8Len_eq_zero {s : List Char} (h : utf8Len s = 0) : s = [] := by
  cases s with
  | nil => rfl
  | cons c s =>
    have hpos := c.utf8Size_pos
    rw [utf8Len, map_cons, sum_cons] at h
    omega

lemma prefix_eq_of_utf8Len_eq {a b s : List Char} (ha : a <+: s) (hb : b <+: s)
    (h : utf8Len a = utf8Len b) : a = b := by
  have hle {a b : List Char} (hab : a <+: b) (h : utf8Len a = utf8Len b) : a = b := by
    obtain ⟨rest, rfl⟩ := hab
    rw [utf8Len, utf8Len, map_append, sum_append] at h
    have hrest : utf8Len rest = 0 := by
      rw [utf8Len]
      omega
    rw [eq_nil_of_utf8Len_eq_zero hrest, append_nil]
  rcases prefix_or_prefix_of_prefix ha hb with hab | hba
  · exact hle hab h
  · exact (hle hba h.symm).symm

lemma CachedReferral.applies_iff {e : CachedReferral} {now : ℕ} {normalized : List Char} :
    e.applies now normalized = true ↔ e.dfsPathPrefix <+: normalized ∧ e.Live now := by
  rw [applies, Bool.and_eq_true, isPrefixOf_iff_prefix, decide_eq_true_eq]

lemma DfsResolver.exists_bestMatch {L : Lowercase} {r : DfsResolver L} {now : ℕ}
    {normalized : List Char} {e : CachedReferral} (he : e ∈ r.cache)
    (hbegins : e.dfsPathPrefix <+: normalized) (hlive : e.Live now) :
    ∃ best, r.bestMatch now normalized = some best := by
  rw [← Option.isSome_iff_exists, Option.isSome_iff_ne_none, bestMatch_eq_argmax, Ne,
    argmax_eq_none]
  exact ne_nil_of_mem (mem_filter.2 ⟨he, CachedReferral.applies_iff.2 ⟨hbegins, hlive⟩⟩)

/-- **Which entry a lookup takes**: the one with the longest prefix of the path, among those that
have not expired. -/
theorem DfsResolver.bestMatch_eq_some_iff {L : Lowercase} {r : DfsResolver L} {now : ℕ}
    {normalized : List Char} {e : CachedReferral} :
    r.bestMatch now normalized = some e ↔
      (e ∈ r.cache ∧ e.dfsPathPrefix <+: normalized ∧ e.Live now) ∧
        ∀ other ∈ r.cache, other.dfsPathPrefix <+: normalized → other.Live now →
          utf8Len other.dfsPathPrefix ≤ utf8Len e.dfsPathPrefix := by
  have hmem {e : CachedReferral} : e ∈ r.cache.filter (·.applies now normalized) ↔
      e ∈ r.cache ∧ e.dfsPathPrefix <+: normalized ∧ e.Live now := by
    rw [mem_filter, CachedReferral.applies_iff]
  have hmax {e other : CachedReferral} (hbest : r.bestMatch now normalized = some e)
      (hother : other ∈ r.cache.filter (·.applies now normalized)) :
      utf8Len other.dfsPathPrefix ≤ utf8Len e.dfsPathPrefix := by
    rw [bestMatch_eq_argmax] at hbest
    exact le_of_mem_argmax (f := fun e => utf8Len e.dfsPathPrefix) hother hbest
  constructor
  · intro hbest
    refine ⟨?_, fun other hother hbegins hlive => hmax hbest (hmem.2 ⟨hother, hbegins, hlive⟩)⟩
    rw [bestMatch_eq_argmax] at hbest
    exact hmem.1 (argmax_mem hbest)
  · rintro ⟨he, hlongest⟩
    obtain ⟨best, hbest⟩ := exists_bestMatch he.1 he.2.1 he.2.2
    have hlonger := hmax hbest (hmem.2 he)
    rw [hbest]
    rw [bestMatch_eq_argmax] at hbest
    obtain ⟨hbest', hbegins, hlive⟩ := hmem.1 (argmax_mem hbest)
    -- Two longest prefixes of one path are one key, and a key has one entry.
    have hlen := (hlongest best hbest' hbegins hlive).antisymm hlonger
    have hkey := prefix_eq_of_utf8Len_eq hbegins he.2.1 hlen
    rw [inj_on_of_nodup_map r.nodup hbest' he.1 hkey]

/-! ## Whole components -/

/-- **A prefix covers a path**: up to case it is a prefix of the path, and its components are
components of the path. -/
def Covers (L : Lowercase) (dfsPrefix path : List Char) : Prop :=
  L.normalize dfsPrefix <+: L.normalize path ∧
    (components dfsPrefix).map L.toLowercase <+: (components path).map L.toLowercase

instance (L : Lowercase) (dfsPrefix path : List Char) : Decidable (Covers L dfsPrefix path) :=
  inferInstanceAs (Decidable (_ ∧ _))

lemma covers_iff_boundary {L : Lowercase} {dfsPrefix path rest : List Char}
    (hnormal : L.normalize dfsPrefix = dfsPrefix) (hpath : L.normalize path = dfsPrefix ++ rest) :
    Covers L dfsPrefix path ↔ Components.Boundary isSep dfsPrefix rest := by
  rw [Covers, ← L.components_normalize, ← L.components_normalize, hnormal, hpath, components,
    components, Components.parts_prefix_iff]
  exact and_iff_right (prefix_append _ _)

namespace DfsResolver

variable {L : Lowercase} (r : DfsResolver L)

lemma prefix_of_covers {e : CachedReferral} (he : e ∈ r.cache) {path : List Char}
    (h : Covers L e.dfsPathPrefix path) : e.dfsPathPrefix <+: L.normalize path := by
  have hbegins := h.1
  rwa [r.normalized e he] at hbegins

/-- **Whole components, exactly if they win.** That a lookup takes the longest unexpired entry that
covers the path, in whole components, holds exactly if every unexpired entry whose prefix ends
inside a component of the path is outdone by a longer one that covers the path. -/
theorem resolveFromCache_whole_iff (now : ℕ) (path : List Char) :
    (∀ resolved, r.resolveFromCache now path = some resolved →
        ∃ e, r.bestMatch now (L.normalize path) = some e ∧
          resolved = e.resolve (L.normalize path) ∧ e.Live now ∧ Covers L e.dfsPathPrefix path ∧
          ∀ other ∈ r.cache, other.Live now → Covers L other.dfsPathPrefix path →
            utf8Len other.dfsPathPrefix ≤ utf8Len e.dfsPathPrefix) ↔
      ∀ e ∈ r.cache, e.Live now → e.dfsPathPrefix <+: L.normalize path →
        ¬ Covers L e.dfsPathPrefix path →
        ∃ other ∈ r.cache, other.Live now ∧ Covers L other.dfsPathPrefix path ∧
          utf8Len e.dfsPathPrefix < utf8Len other.dfsPathPrefix := by
  constructor
  · intro hwhole e he hlive hbegins hinside
    obtain ⟨best, hbest⟩ := exists_bestMatch he hbegins hlive
    obtain ⟨⟨hmem, hbegins', hlive'⟩, hlongest⟩ := bestMatch_eq_some_iff.1 hbest
    have hresolved : r.resolveFromCache now path = some (best.resolve (L.normalize path)) := by
      rw [resolveFromCache, hbest, Option.map_some]
    obtain ⟨e', he', -, -, hcovers, -⟩ := hwhole _ hresolved
    obtain rfl := Option.some.inj (hbest.symm.trans he')
    refine ⟨best, hmem, hlive', hcovers, lt_of_le_of_ne (hlongest e he hbegins hlive) ?_⟩
    intro hlen
    rw [prefix_eq_of_utf8Len_eq hbegins hbegins' hlen] at hinside
    exact hinside hcovers
  · intro houtdone resolved hresolved
    rw [resolveFromCache, Option.map_eq_some_iff] at hresolved
    obtain ⟨e, hbest, rfl⟩ := hresolved
    obtain ⟨⟨hmem, hbegins, hlive⟩, hlongest⟩ := bestMatch_eq_some_iff.1 hbest
    refine ⟨e, hbest, rfl, hlive, ?_, ?_⟩
    · by_contra hinside
      obtain ⟨other, hother, hlive', hcovers, hlonger⟩ := houtdone e hmem hlive hbegins hinside
      have hle := hlongest other hother (r.prefix_of_covers hother hcovers) hlive'
      omega
    · intro other hother hlive' hcovers
      exact hlongest other hother (r.prefix_of_covers hother hcovers) hlive'

def docsReferral : RespGetDfsReferral where
  entries := [⟨300, ['\\', 'n', 'a', 's', '\\', 'd', 'f', 's', '\\', 'd', 'o', 'c', 's'],
    ['\\', 'b', 'o', 'x', '\\', 'f', 'i', 'l', 'e', 's']⟩]

def docsResolver : DfsResolver ascii := new.cacheReferral 0 docsReferral

def docsEntry : CachedReferral where
  dfsPathPrefix := ['\\', '\\', 'n', 'a', 's', '\\', 'd', 'f', 's', '\\', 'd', 'o', 'c', 's']
  targets := [⟨['b', 'o', 'x'], ['f', 'i', 'l', 'e', 's'], []⟩]
  expiresAt := 300 * 10 ^ 9

/-- A file in the directory `docs2` beside the link is taken for one of the link: the entry for
`docs` is found for it, though it does not cover the path, and the path on the target begins in the
middle of a name. -/
theorem resolveFromCache_inside_component :
    let path := ['\\', '\\', 'n', 'a', 's', '\\', 'd', 'f', 's', '\\', 'd', 'o', 'c', 's', '2',
      '\\', 'f']
    docsResolver.bestMatch 0 (ascii.normalize path) = some docsEntry ∧ docsEntry.Live 0 ∧
      ¬ Covers ascii docsEntry.dfsPathPrefix path ∧
      docsResolver.resolveFromCache 0 path =
        some [⟨['b', 'o', 'x'], 445, ['f', 'i', 'l', 'e', 's'], ['2', '\\', 'f']⟩] := by
  decide +kernel

/-! ## Resolving -/

def referralPath : List Char → List Char
  | '\\' :: '\\' :: rest => '\\' :: rest
  | other => other

/-- `resolve`: from the cache, or else from the referral that the server is asked for. -/
def resolve (now : ℕ) (getDfsReferral : List Char → Except Error RespGetDfsReferral)
    (uncPath : List Char) : Except Error (List ResolvedPath) × DfsResolver L :=
  match r.resolveFromCache now uncPath with
  | some resolved => (.ok resolved, r)
  | none =>
    match getDfsReferral (referralPath uncPath) with
    | .error e => (.error e, r)
    | .ok resp =>
      let cached := r.cacheReferral now resp
      match cached.resolveFromCache now uncPath with
      | some resolved => (.ok resolved, cached)
      | none =>
        (.error (.invalidData "DFS referral response did not match the requested path"), cached)

end DfsResolver

end Dfs

end Smb2
