import Mathlib.Algebra.BigOperators.Group.List.Basic
import Mathlib.Algebra.GroupWithZero.Nat
import Mathlib.Algebra.Order.BigOperators.Group.List
import Mathlib.Algebra.Order.Group.Nat
import Mathlib.Data.List.Nodup
import Mathlib.Data.List.Pairwise
import Mathlib.Tactic.Common

set_option autoImplicit false

/-!
# Pipelined transfers

A stream of items is cut into extents, each with the position of its first item, and the extents
are sent as requests that are answered in any order. An answer confirms a number of items of its
extent, counted from the first.
-/

open List

structure Extent (α : Type*) where
  offset : ℕ
  data : List α
deriving DecidableEq, Repr

def Extent.Confirms {α : Type*} (e : Extent α) (count p : ℕ) (a : α) : Prop :=
  e.offset ≤ p ∧ p < e.offset + count ∧ e.data[p - e.offset]? = some a

/-- **The extents tile the stream** from position `base` on, in order. -/
inductive Tiles {α : Type*} (base : ℕ) : List α → List (Extent α) → Prop
  | nil : Tiles base [] []
  | snoc {stream : List α} {es : List (Extent α)} (h : Tiles base stream es) (data : List α) :
      Tiles base (stream ++ data) (es ++ [⟨base + stream.length, data⟩])

namespace Tiles

variable {α : Type*} {base : ℕ} {stream : List α} {es : List (Extent α)}

lemma sum_length (h : Tiles base stream es) : (es.map (·.data.length)).sum = stream.length := by
  induction h with
  | nil => rfl
  | snoc h data ih => simp [ih]

lemma append {stream' : List α} {es' : List (Extent α)} (h : Tiles base stream es)
    (h' : Tiles (base + stream.length) stream' es') :
    Tiles base (stream ++ stream') (es ++ es') := by
  induction h' with
  | nil => simpa using h
  | snoc h' data ih =>
    have hnext := ih.snoc data
    rwa [append_assoc, append_assoc, length_append, ← Nat.add_assoc] at hnext

lemma unique {stream' : List α} {es' : List (Extent α)} (h : Tiles base stream es)
    (h' : Tiles base stream' es') (hdata : es.map Extent.data = es'.map Extent.data) :
    stream = stream' ∧ es = es' := by
  induction h generalizing stream' es' with
  | nil =>
    cases h' with
    | nil => exact ⟨rfl, rfl⟩
    | snoc h' data => simp at hdata
  | @snoc stream es h data ih =>
    cases h' with
    | nil => simp at hdata
    | snoc h' data' =>
      simp only [map_append, map_cons, map_nil] at hdata
      obtain ⟨hfront, hlast⟩ := append_inj' hdata rfl
      obtain ⟨rfl, rfl⟩ := ih h' hfront
      obtain rfl := singleton_inj.1 hlast
      exact ⟨rfl, rfl⟩

lemma exists_extent (h : Tiles base stream es) {p : ℕ} {a : α} (hp : stream[p]? = some a) :
    ∃ e ∈ es, e.Confirms e.data.length (base + p) a := by
  induction h with
  | nil => cases hp
  | @snoc stream es h data ih =>
    by_cases hlt : p < stream.length
    · rw [getElem?_append_left hlt] at hp
      obtain ⟨e, he, hconf⟩ := ih hp
      exact ⟨e, mem_append_left _ he, hconf⟩
    · rw [getElem?_append_right (by omega)] at hp
      have hin : p - stream.length < data.length := (List.getElem?_eq_some_iff.1 hp).1
      refine ⟨_, mem_append_right _ (mem_singleton_self _), ?_, ?_, ?_⟩
      · show base + stream.length ≤ base + p
        omega
      · show base + p < base + stream.length + data.length
        omega
      · show data[base + p - (base + stream.length)]? = some a
        rw [Nat.add_sub_add_left, hp]

lemma bounds (h : Tiles base stream es) {e : Extent α} (he : e ∈ es) :
    base ≤ e.offset ∧ e.offset + e.data.length ≤ base + stream.length := by
  induction h with
  | nil => cases he
  | snoc h data ih =>
    rw [length_append]
    rcases mem_append.1 he with he | he
    · obtain ⟨hlow, hhigh⟩ := ih he
      exact ⟨hlow, by omega⟩
    · obtain rfl := mem_singleton.1 he
      simp only
      omega

lemma pairwise (h : Tiles base stream es) :
    es.Pairwise fun e e' => e.offset + e.data.length ≤ e'.offset := by
  induction h with
  | nil => exact .nil
  | snoc h data ih =>
    refine pairwise_append.2 ⟨ih, pairwise_singleton .., fun e he e' he' => ?_⟩
    obtain rfl := mem_singleton.1 he'
    exact (h.bounds he).2

lemma nodup (h : Tiles base stream es) (hne : ∀ e ∈ es, e.data ≠ []) : es.Nodup := by
  refine h.pairwise.imp_of_mem fun {e e'} he _ hle heq => ?_
  subst heq
  have := length_pos_iff.2 (hne e he)
  omega

end Tiles

/-! ## Requests in flight -/

/-- **Requests in flight**: every request launched, in order, those still in flight, and the answers
so far, with their requests. -/
structure Flight (ρ β : Type*) where
  launched : List ρ
  inFlight : List ρ
  answered : List (ρ × β)
  accounted : (answered.map Prod.fst ++ inFlight).Perm launched
deriving DecidableEq

namespace Flight

variable {ρ β : Type*}

def empty : Flight ρ β := ⟨[], [], [], .refl _⟩

def launch (f : Flight ρ β) (r : ρ) : Flight ρ β where
  launched := f.launched ++ [r]
  inFlight := f.inFlight ++ [r]
  answered := f.answered
  accounted := by
    rw [← append_assoc]
    exact f.accounted.append_right [r]

/-- The request at position `k` of those in flight is answered; `none` if there is none. -/
def answer (f : Flight ρ β) (k : ℕ) (b : β) : Option (Flight ρ β) :=
  if h : k < f.inFlight.length then
    some
      { launched := f.launched
        inFlight := f.inFlight.eraseIdx k
        answered := f.answered ++ [(f.inFlight[k], b)]
        accounted := by
          rw [map_append, append_assoc]
          have hfront : ([f.inFlight[k]] ++ f.inFlight.eraseIdx k).Perm f.inFlight :=
            getElem_cons_eraseIdx_perm h
          exact (hfront.append_left _).trans f.accounted }
  else none

variable {f : Flight ρ β}

lemma answer_eq_some {f' : Flight ρ β} {k : ℕ} {b : β} (h : f.answer k b = some f') :
    ∃ r, f.inFlight[k]? = some r ∧ f'.launched = f.launched ∧
      f'.inFlight = f.inFlight.eraseIdx k ∧ f'.answered = f.answered ++ [(r, b)] := by
  unfold answer at h
  split at h
  · rename_i hk
    obtain rfl := Option.some.inj h
    exact ⟨_, getElem?_eq_getElem hk, rfl, rfl, rfl⟩
  · cases h

lemma length_inFlight_answer {f' : Flight ρ β} {k : ℕ} {b : β} (h : f.answer k b = some f') :
    f'.inFlight.length + 1 = f.inFlight.length := by
  obtain ⟨r, hr, -, hrest, -⟩ := answer_eq_some h
  have hk : k < f.inFlight.length := (List.getElem?_eq_some_iff.1 hr).1
  rw [hrest, length_eraseIdx_of_lt hk]
  omega

lemma perm_of_idle (h : f.inFlight = []) :
    (f.answered.map Prod.fst).Perm f.launched := by
  have := f.accounted
  rwa [h, append_nil] at this

end Flight

/-! ## Confirmed items -/

section Confirmed

variable {α β : Type*} {base : ℕ} {stream : List α} {answered : List (Extent α × β)}
  {count : β → ℕ}

lemma eq_of_sum_map_le {γ : Type*} {l : List γ} {f g : γ → ℕ} (hle : ∀ c ∈ l, f c ≤ g c)
    (hsum : (l.map g).sum ≤ (l.map f).sum) : ∀ c ∈ l, f c = g c := by
  intro c hc
  by_contra hne
  have hlt : (l.map f).sum < (l.map g).sum :=
    sum_lt_sum _ _ hle ⟨c, hc, lt_of_le_of_ne (hle c hc) hne⟩
  omega

variable {es : List (Extent α)}

lemma Tiles.sum_carried (h : Tiles base stream es) (hperm : (answered.map Prod.fst).Perm es) :
    (answered.map fun w => w.1.data.length).sum = stream.length := by
  rw [← h.sum_length, ← (hperm.map (·.data.length)).sum_eq, map_map]
  rfl

/-- **Confirmed transfers.** Let the requests answered tile the stream, none confirming more than it
carried. Then as many items are confirmed as the stream has, and every item is confirmed at its own
position, exactly if every answer confirms its whole extent. -/
theorem Tiles.confirmed_iff (h : Tiles base stream es) (hperm : (answered.map Prod.fst).Perm es)
    (hle : ∀ w ∈ answered, count w.2 ≤ w.1.data.length) :
    ((answered.map fun w => count w.2).sum = stream.length ∧
        ∀ p a, stream[p]? = some a → ∃ w ∈ answered, w.1.Confirms (count w.2) (base + p) a) ↔
      ∀ w ∈ answered, count w.2 = w.1.data.length := by
  have hcarried := h.sum_carried hperm
  constructor
  · rintro ⟨hsum, -⟩
    exact eq_of_sum_map_le hle (by omega)
  · intro hfull
    refine ⟨?_, fun p a hp => ?_⟩
    · rw [← hcarried, map_congr_left hfull]
    · obtain ⟨e, he, hconf⟩ := h.exists_extent hp
      obtain ⟨w, hw, rfl⟩ := mem_map.1 (hperm.mem_iff.2 he)
      exact ⟨w, hw, by rwa [hfull w hw]⟩

end Confirmed
