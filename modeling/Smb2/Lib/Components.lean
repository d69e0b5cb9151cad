import Mathlib.Data.List.Basic
import Mathlib.Data.List.Infix
import Mathlib.Tactic.Common

set_option autoImplicit false

/-!
# Components of a path

A path is a list over an alphabet some of whose letters are separators; its components are the
nonempty pieces between separators. Nothing is said here about which letters a component may hold.
-/

open List

namespace Components

variable {α : Type*} {sep : α → Bool}

variable {path a b : List α} {c : α}

lemma exists_first_of_mem (h : ∃ c ∈ path, sep c = true) :
    ∃ first c rest, path = first ++ c :: rest ∧ sep c = true ∧ ∀ x ∈ first, sep x = false := by
  induction path with
  | nil =>
    obtain ⟨c, hc, -⟩ := h
    cases hc
  | cons x path ih =>
    cases hx : sep x with
    | true => exact ⟨[], x, path, rfl, hx, nofun⟩
    | false =>
      obtain ⟨c, hc, hsep⟩ := h
      rcases mem_cons.1 hc with rfl | hc
      · rw [hx] at hsep
        cases hsep
      · obtain ⟨first, d, rest, rfl, hd, hfirst⟩ := ih ⟨c, hc, hsep⟩
        refine ⟨x :: first, d, rest, rfl, hd, ?_⟩
        rw [forall_mem_cons]
        exact ⟨hx, hfirst⟩

lemma splitOnP_induction (sep : α → Bool) {motive : List α → Prop}
    (single : ∀ path, (∀ x ∈ path, sep x = false) → motive path)
    (join : ∀ first c rest, (∀ x ∈ first, sep x = false) → sep c = true → motive rest →
      motive (first ++ c :: rest))
    (path : List α) : motive path := by
  induction hlen : path.length using Nat.strong_induction_on generalizing path with
  | _ n ih =>
    by_cases hmem : ∃ c ∈ path, sep c = true
    · obtain ⟨first, c, rest, rfl, hc, hfirst⟩ := exists_first_of_mem hmem
      refine join first c rest hfirst hc (ih rest.length ?_ rest rfl)
      rw [← hlen, length_append, length_cons]
      omega
    · refine single path fun x hx => ?_
      rw [← Bool.not_eq_true]
      exact fun hsep => hmem ⟨x, hx, hsep⟩

lemma mem_of_mem_splitOnP {piece : List α} (h : piece ∈ path.splitOnP sep) (hc : c ∈ piece) :
    c ∈ path := by
  induction path using splitOnP_induction sep with
  | single path hfree =>
    rw [splitOnP_eq_singleton hfree, mem_singleton] at h
    rwa [← h]
  | join first d rest hfirst hd ih =>
    rw [splitOnP_append_cons _ _ hd, splitOnP_eq_singleton hfirst, singleton_append,
      mem_cons] at h
    rcases h with rfl | h
    · exact mem_append_left _ hc
    · exact mem_append_right _ (mem_cons_of_mem _ (ih h))

/-- **The components of a path**: its nonempty pieces. -/
def parts (sep : α → Bool) (path : List α) : List (List α) :=
  (path.splitOnP sep).filter fun piece => !piece.isEmpty

@[simp] lemma parts_nil : parts sep [] = [] := rfl

lemma parts_of_free (hne : path ≠ []) (h : ∀ x ∈ path, sep x = false) :
    parts sep path = [path] := by
  rw [parts, splitOnP_eq_singleton h]
  exact filter_cons_of_pos (by simpa using hne)

lemma parts_append_cons (a b : List α) (hc : sep c = true) :
    parts sep (a ++ c :: b) = parts sep a ++ parts sep b := by
  rw [parts, splitOnP_append_cons _ _ hc, filter_append]
  rfl

lemma parts_cons (path : List α) (hc : sep c = true) :
    parts sep (c :: path) = parts sep path :=
  parts_append_cons [] path hc

lemma parts_concat (path : List α) (hc : sep c = true) :
    parts sep (path ++ [c]) = parts sep path := by
  rw [parts_append_cons path [] hc, parts_nil, append_nil]

lemma parts_dropWhile {trim : α → Bool} (h : ∀ c, trim c = true → sep c = true) (path : List α) :
    parts sep (path.dropWhile trim) = parts sep path := by
  induction path with
  | nil => rfl
  | cons c path ih =>
    cases hc : trim c with
    | true => rw [dropWhile_cons_of_pos hc, ih, parts_cons path (h c hc)]
    | false => rw [dropWhile_cons_of_neg (by rw [hc]; nofun)]

lemma parts_congr {sep' : α → Bool} (h : ∀ c ∈ path, sep c = sep' c) :
    parts sep path = parts sep' path := by
  have hfree {piece : List α} (hpiece : ∀ x ∈ piece, sep x = false)
      (hsame : ∀ x ∈ piece, sep x = sep' x) : parts sep piece = parts sep' piece := by
    by_cases hne : piece = []
    · rw [hne, parts_nil, parts_nil]
    · rw [parts_of_free hne hpiece, parts_of_free hne fun x hx => hsame x hx ▸ hpiece x hx]
  induction path using splitOnP_induction sep with
  | single path hpath => exact hfree hpath h
  | join first c rest hfirst hc ih =>
    rw [forall_mem_append, forall_mem_cons] at h
    obtain ⟨hsame, hsame', hrest⟩ := h
    rw [parts_append_cons _ _ hc, parts_append_cons _ _ (hsame' ▸ hc), hfree hfirst hsame, ih hrest]

lemma parts_map {β : Type*} {sep' : β → Bool} {f : α → β} (h : ∀ c, sep' (f c) = sep c)
    (path : List α) : parts sep' (path.map f) = (parts sep path).map (map f) := by
  have hfree {piece : List α} (hpiece : ∀ x ∈ piece, sep x = false) :
      parts sep' (piece.map f) = (parts sep piece).map (map f) := by
    by_cases hne : piece = []
    · rw [hne]
      rfl
    · rw [parts_of_free hne hpiece, map_singleton]
      refine parts_of_free ?_ ?_
      · rwa [Ne, map_eq_nil_iff]
      · intro y hy
        obtain ⟨x, hx, rfl⟩ := mem_map.1 hy
        rw [h, hpiece x hx]
  induction path using splitOnP_induction sep with
  | single path hpath => exact hfree hpath
  | join first c rest hfirst hc ih =>
    rw [map_append, map_cons, parts_append_cons _ _ (by rw [h, hc]),
      parts_append_cons _ _ hc, map_append, hfree hfirst, ih]

/-! ## Paths put together -/

def Boundary (sep : α → Bool) (a b : List α) : Prop :=
  a = [] ∨ b = [] ∨ (∃ c ∈ a.getLast?, sep c = true) ∨ ∃ c ∈ b.head?, sep c = true

lemma parts_append_of_boundary (h : Boundary sep a b) :
    parts sep (a ++ b) = parts sep a ++ parts sep b := by
  rcases h with rfl | rfl | ⟨c, hlast, hc⟩ | ⟨c, hhead, hc⟩
  · rfl
  · rw [append_nil, parts_nil, append_nil]
  · obtain ⟨init, rfl⟩ : ∃ init, a = init ++ [c] := by
      obtain ⟨init, hinit⟩ := getLast?_eq_some_iff.1 hlast
      exact ⟨init, hinit⟩
    rw [append_assoc, singleton_append, parts_append_cons _ _ hc, parts_concat _ hc]
  · obtain ⟨tail, rfl⟩ : ∃ tail, b = c :: tail := head?_eq_some_iff.1 hhead
    rw [parts_append_cons _ _ hc, parts_cons _ hc]

lemma exists_last_part (hne : a ≠ []) (hlast : ∀ c ∈ a.getLast?, sep c = false) :
    ∃ init last, last ≠ [] ∧ (∀ x ∈ last, sep x = false) ∧ parts sep a = init ++ [last] ∧
      ∀ b, parts sep (a ++ b) = init ++ parts sep (last ++ b) := by
  induction a using splitOnP_induction sep with
  | single path hfree =>
    exact ⟨[], path, hne, hfree, parts_of_free hne hfree, fun _ => rfl⟩
  | join first c rest hfirst hc ih =>
    by_cases hrest : rest = []
    · subst hrest
      rw [hlast c (by simp)] at hc
      cases hc
    · have hend : (first ++ c :: rest).getLast? = rest.getLast? := by
        rw [getLast?_append_of_ne_nil _ (cons_ne_nil c rest), getLast?_cons_of_ne_nil hrest]
      rw [hend] at hlast
      obtain ⟨init, last, hlast', hfree, hparts, happend⟩ := ih hrest hlast
      refine ⟨parts sep first ++ init, last, hlast', hfree, ?_, ?_⟩
      · rw [parts_append_cons _ _ hc, hparts, append_assoc]
      · intro b
        rw [append_assoc, cons_append, parts_append_cons _ _ hc, happend,
          append_assoc]

lemma exists_first_part (hne : b ≠ []) (hhead : ∀ c ∈ b.head?, sep c = false) :
    ∃ first tail, first ≠ [] ∧ parts sep b = first :: tail ∧
      ∀ a, a ≠ [] → (∀ x ∈ a, sep x = false) → parts sep (a ++ b) = (a ++ first) :: tail := by
  induction b using splitOnP_induction sep with
  | single path hfree =>
    refine ⟨path, [], hne, parts_of_free hne hfree, ?_⟩
    intro a ha hafree
    refine parts_of_free (append_ne_nil_of_left_ne_nil ha path) ?_
    rw [forall_mem_append]
    exact ⟨hafree, hfree⟩
  | join first c rest hfirst hc _ =>
    have hfirstne : first ≠ [] := by
      rintro rfl
      rw [hhead c rfl] at hc
      cases hc
    refine ⟨first, parts sep rest, hfirstne, ?_, ?_⟩
    · rw [parts_append_cons _ _ hc, parts_of_free hfirstne hfirst, singleton_append]
    · intro a ha hafree
      rw [← append_assoc, parts_append_cons _ _ hc, parts_of_free, singleton_append]
      · exact append_ne_nil_of_left_ne_nil ha first
      · rw [forall_mem_append]
        exact ⟨hafree, hfirst⟩

lemma parts_append_of_inside (h : ¬ Boundary sep a b) :
    ∃ init last first tail, first ≠ [] ∧ parts sep a = init ++ [last] ∧
      parts sep b = first :: tail ∧ parts sep (a ++ b) = init ++ (last ++ first) :: tail := by
  simp only [Boundary, not_or, not_exists, not_and, Bool.not_eq_true] at h
  obtain ⟨ha, hb, hlast, hhead⟩ := h
  obtain ⟨init, last, hlastne, hfree, hparts, happend⟩ := exists_last_part ha hlast
  obtain ⟨first, tail, hfirstne, hparts', happend'⟩ := exists_first_part hb hhead
  refine ⟨init, last, first, tail, hfirstne, hparts, hparts', ?_⟩
  rw [happend, happend' last hlastne hfree]

/-- **Whole components.** The components of the beginning of a path begin those of the path exactly
if the beginning ends at a boundary. -/
theorem parts_prefix_iff :
    parts sep a <+: parts sep (a ++ b) ↔ Boundary sep a b := by
  constructor
  · intro hbegins
    by_contra hinside
    obtain ⟨init, last, first, tail, hfirst, hparts, -, happend⟩ := parts_append_of_inside hinside
    rw [hparts, happend, prefix_append_right_inj, cons_prefix_cons] at hbegins
    exact hfirst (append_right_eq_self.1 hbegins.1.symm)
  · intro hboundary
    rw [parts_append_of_boundary hboundary]
    exact prefix_append _ _

end Components
