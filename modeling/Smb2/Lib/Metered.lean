import Mathlib.Algebra.BigOperators.Group.List.Basic
import Mathlib.Algebra.Order.BigOperators.Group.List
import Mathlib.Algebra.Order.Ring.Nat
import Mathlib.Data.Nat.Notation
import Mathlib.Tactic.Common

set_option autoImplicit false

/-!
# Computations that are charged for what they use

A metered computation works on a state and may fail, like one in `StateT σ (Except ε)`; besides, it
lists what it has been charged, and what was charged before a failure stays charged. A charge is
secured if there is something behind it when it is made, and a charge ahead if it is to be paid for
by what the computation is about to consume.

How much of the state is left is a measure `left`. A computation pays its way at a price `k` if its
charges are covered by `k` times what it consumes. If it fails, one charge ahead may be left
uncovered: the one that was made for what was not there.
-/

open List

structure Charge where
  amount : ℕ
  secured : Bool
deriving DecidableEq, Repr

def Charge.total (l : List Charge) : ℕ := (l.map Charge.amount).sum

def Charge.aheads (l : List Charge) : List ℕ := (l.filter fun c => !c.secured).map Charge.amount

def Metered (σ ε α : Type) := σ → Except ε (α × σ) × List Charge

namespace Metered

open Charge

variable {σ ε α β ι : Type}

def ret (a : α) : Metered σ ε α := fun s => (.ok (a, s), [])

def andThen (m : Metered σ ε α) (f : α → Metered σ ε β) : Metered σ ε β := fun s =>
  match m s with
  | (.error e, l) => (.error e, l)
  | (.ok (a, t), l) => ((f a t).1, l ++ (f a t).2)

instance : Monad (Metered σ ε) where
  pure := ret
  bind := andThen

def free (m : StateT σ (Except ε) α) : Metered σ ε α := fun s => (m s, [])

def charge (n : ℕ) : Metered σ ε Unit := fun s => (.ok ((), s), [⟨n, true⟩])

def chargeAhead (n : ℕ) : Metered σ ε Unit := fun s => (.ok ((), s), [⟨n, false⟩])

def attempt (m : Metered σ ε α) : Metered σ ε (Option α) := fun s =>
  match m s with
  | (.error _, l) => (.ok (none, s), l)
  | (.ok (a, t), l) => (.ok (some a, t), l)

def times (m : Metered σ ε α) : ℕ → Metered σ ε (List α)
  | 0 => pure []
  | n + 1 => do
    let a ← m
    let as ← times m n
    return a :: as

def each (f : ι → Metered σ ε α) : List ι → Metered σ ε (List α)
  | [] => pure []
  | i :: is => do
    let a ← f i
    let as ← each f is
    return a :: as

/-! ## Without the meter -/

def result (m : Metered σ ε α) : StateT σ (Except ε) α := fun s => (m s).1

def charges (m : Metered σ ε α) (s : σ) : List Charge := (m s).2

@[simp] lemma result_pure (a : α) : result (pure a : Metered σ ε α) = pure a := rfl

@[simp] lemma result_free (m : StateT σ (Except ε) α) : result (free m) = m := rfl

@[simp] lemma result_charge (n : ℕ) : result (charge n : Metered σ ε Unit) = pure () := rfl

lemma bind_apply (m : Metered σ ε α) (f : α → Metered σ ε β) (s : σ) :
    (m >>= f) s = andThen m f s := rfl

@[simp] lemma result_bind (m : Metered σ ε α) (f : α → Metered σ ε β) :
    result (m >>= f) = result m >>= fun a => result (f a) := by
  funext s
  show (andThen m f s).1 = ((m s).1 >>= fun p => (f p.1 p.2).1)
  unfold andThen
  rcases m s with ⟨_ | ⟨a, t⟩, l⟩ <;> rfl

@[simp] lemma result_ite (p : Prop) [Decidable p] (m m' : Metered σ ε α) :
    result (if p then m else m') = if p then result m else result m' := by
  split <;> rfl

variable {m : Metered σ ε α} {s : σ} {f : α → Metered σ ε β} {bound : ℕ} {l : List Charge}

/-- **What a sequence does**: it fails with the first computation, or the second goes on from what the
first has left. -/
lemma bind_cases (m : Metered σ ε α) (f : α → Metered σ ε β) (s : σ) :
    (∃ e l, m s = (.error e, l) ∧ (m >>= f) s = (.error e, l)) ∨
      ∃ a t l, m s = (.ok (a, t), l) ∧ (m >>= f) s = ((f a t).1, l ++ (f a t).2) := by
  rw [bind_apply, andThen]
  rcases m s with ⟨e | ⟨a, t⟩, l⟩
  · exact .inl ⟨e, l, rfl, rfl⟩
  · exact .inr ⟨a, t, l, rfl, rfl⟩

/-! ## Charges ahead -/

def after (m : StateT σ (Except ε) α) (g : α → σ → List ℕ) (s : σ) : List ℕ :=
  match m s with
  | .ok (a, t) => g a t
  | .error _ => []

lemma after_bind (m : StateT σ (Except ε) α) (f : α → StateT σ (Except ε) β)
    (g : β → σ → List ℕ) (s : σ) :
    after (m >>= f) g s = after m (fun a t => after (f a) g t) s := by
  unfold after
  rw [show (m >>= f) s = (m s >>= fun p => f p.1 p.2) from rfl]
  rcases m s with _ | ⟨a, t⟩ <;> rfl

lemma after_pure (a : α) (g : α → σ → List ℕ) (s : σ) :
    after (pure a : StateT σ (Except ε) α) g s = g a s := rfl

lemma after_ite (p : Prop) [Decidable p] (m m' : StateT σ (Except ε) α) (g : α → σ → List ℕ) (s : σ) :
    after (if p then m else m') g s = if p then after m g s else after m' g s := by
  split <;> rfl

lemma map_after (m : StateT σ (Except ε) α) (g : α → σ → List ℕ) (h : ℕ → ℕ) (s : σ) :
    (after m g s).map h = after m (fun a t => (g a t).map h) s := by
  unfold after
  rcases m s with _ | ⟨a, t⟩ <;> rfl

lemma after_nil (m : StateT σ (Except ε) α) (s : σ) : after m (fun _ _ => []) s = [] := by
  unfold after
  split <;> rfl

lemma aheads_bind (m : Metered σ ε α) (f : α → Metered σ ε β) (s : σ) :
    aheads (charges (m >>= f) s) =
      aheads (charges m s) ++ after (result m) (fun a t => aheads (charges (f a) t)) s := by
  unfold after result charges
  rw [bind_apply, andThen]
  rcases m s with ⟨_ | ⟨a, t⟩, l⟩
  · exact (append_nil _).symm
  · simp [aheads]

def Secured (m : Metered σ ε α) : Prop := ∀ s, aheads (charges m s) = []

lemma secured_pure (a : α) : Secured (pure a : Metered σ ε α) := fun _ => rfl

lemma secured_free (m : StateT σ (Except ε) α) : Secured (free m) := fun _ => rfl

lemma secured_charge (n : ℕ) : Secured (charge n : Metered σ ε Unit) := fun _ => rfl

lemma Secured.aheads_bind (hm : Secured m) (f : α → Metered σ ε β) (s : σ) :
    aheads (charges (m >>= f) s) =
      after (result m) (fun a t => aheads (charges (f a) t)) s := by
  rw [Metered.aheads_bind, hm s, nil_append]

lemma Secured.bind (hm : Secured m) (hf : ∀ a, Secured (f a)) : Secured (m >>= f) := by
  intro s
  rw [hm.aheads_bind]
  have hnil : (fun a t => aheads (charges (f a) t)) = fun _ _ => [] := by
    funext a t
    exact hf a t
  rw [hnil, after_nil]

lemma aheads_free_bind (m : StateT σ (Except ε) α) (f : α → Metered σ ε β) (s : σ) :
    aheads (charges (free m >>= f) s) = after m (fun a t => aheads (charges (f a) t)) s :=
  (secured_free m).aheads_bind f s

lemma aheads_chargeAhead_bind (hm : Secured m) (n : ℕ) (s : σ) :
    aheads (charges (chargeAhead n >>= fun _ => m) s) = [n] := by
  rw [aheads_bind]
  show n :: aheads (charges m s) = [n]
  rw [hm s]

lemma aheads_bind_secured (m : Metered σ ε α) (hf : ∀ a, Secured (f a)) (s : σ) :
    aheads (charges (m >>= f) s) = aheads (charges m s) := by
  rw [aheads_bind, show (fun a t => aheads (charges (f a) t)) = fun _ _ => [] from
    funext fun a => funext fun t => hf a t, after_nil, append_nil]

lemma aheads_ite (p : Prop) [Decidable p] (m m' : Metered σ ε α) (s : σ) :
    aheads (charges (if p then m else m') s) =
      if p then aheads (charges m s) else aheads (charges m' s) := by
  split <;> rfl

lemma aheads_attempt_bind (m : Metered σ ε α) {f : Option α → Metered σ ε β}
    (hnone : ∀ s, aheads (charges (f none) s) = []) (s : σ) :
    aheads (charges (attempt m >>= f) s) = aheads (charges m s) ++
      after (result m) (fun a t => aheads (charges (f (some a)) t)) s := by
  have hsplit (l l' : List Charge) : aheads (l ++ l') = aheads l ++ aheads l' := by
    simp [aheads]
  rw [charges, bind_apply, andThen, attempt, after, result, charges]
  rcases m s with ⟨e | ⟨a, t⟩, l⟩
  · exact (hsplit _ _).trans (congrArg _ (hnone s))
  · exact hsplit _ _

/-! ## Paying one's way -/

lemma total_append (l₁ l₂ : List Charge) : total (l₁ ++ l₂) = total l₁ + total l₂ := by
  simp [total]

/-- **Charges are covered**, but for one that was made ahead. -/
def Accounted (bound : ℕ) (l : List Charge) : Prop :=
  ∃ r, (r = 0 ∨ ⟨r, false⟩ ∈ l) ∧ total l ≤ bound + r

lemma accounted_of_total_le (h : total l ≤ bound) :
    Accounted bound l := ⟨0, .inl rfl, h⟩

lemma Accounted.append {x y : ℕ} {l₁ l₂ : List Charge} (h₂ : Accounted x l₂)
    (h₁ : total l₁ + x ≤ y) : Accounted y (l₁ ++ l₂) := by
  obtain ⟨r, hr, htotal⟩ := h₂
  refine ⟨r, hr.imp_right (mem_append_right l₁), ?_⟩
  rw [total_append]
  omega

lemma accounted_free_bind {m : StateT σ (Except ε) α}
    (h : ∀ x t, m s = .ok (x, t) → Accounted bound (charges (f x) t)) :
    Accounted bound (charges (free m >>= f) s) := by
  rw [charges, bind_apply, andThen, free]
  rcases hms : m s with e | ⟨x, t⟩
  · exact accounted_of_total_le (Nat.zero_le _)
  · exact h x t hms

lemma accounted_charge_bind {n x y : ℕ} {f : Unit → Metered σ ε β}
    (h : Accounted x (charges (f ()) s)) (hn : n + x ≤ y) :
    Accounted y (charges (charge n >>= f) s) := h.append hn

lemma charges_bind_pure (m : Metered σ ε α) (g : α → β) (s : σ) :
    charges (m >>= fun x => pure (g x)) s = charges m s := by
  rw [charges, bind_apply, andThen, charges]
  rcases m s with ⟨_ | ⟨x, t⟩, l⟩
  · rfl
  · exact append_nil l

lemma amount_add_amount_le {c d : Charge} (hc : c ∈ l) (hd : d ∈ l) (hne : d ≠ c) :
    c.amount + d.amount ≤ total l := by
  have hrest : d ∈ l.erase c := (mem_erase_of_ne hne).2 hd
  have hsum := sum_map_erase Charge.amount hc
  have hle : d.amount ≤ ((l.erase c).map Charge.amount).sum :=
    le_sum_of_mem (mem_map_of_mem hrest)
  unfold total
  omega

/-- **Charges are bounded if and only if the charges ahead are.** -/
theorem Accounted.bounded_iff (h : Accounted bound l) :
    ((∀ c ∈ l, c.amount ≤ bound) ∧ total l ≤ 2 * bound) ↔ ∀ r ∈ aheads l, r ≤ bound := by
  have hmem {n : ℕ} (hn : (⟨n, false⟩ : Charge) ∈ l) : n ∈ aheads l :=
    mem_map.2 ⟨⟨n, false⟩, mem_filter.2 ⟨hn, rfl⟩, rfl⟩
  constructor
  · rintro ⟨heach, -⟩ r hr
    obtain ⟨c, hc, rfl⟩ := mem_map.1 hr
    exact heach c (mem_filter.1 hc).1
  · intro haheads
    obtain ⟨r, hr, htotal⟩ := h
    have hbound : r ≤ bound := by
      rcases hr with rfl | hr
      · exact Nat.zero_le _
      · exact haheads r (hmem hr)
    refine ⟨fun c hc => ?_, by omega⟩
    obtain ⟨n, secured⟩ := c
    cases secured with
    | false => exact haheads n (hmem hc)
    | true =>
      -- What is secured is covered, even if the uncovered charge is taken away.
      rcases hr with rfl | hr
      · have hle : n ≤ total l := le_sum_of_mem (mem_map.2 ⟨_, hc, rfl⟩)
        show n ≤ bound
        omega
      · have hle : n + r ≤ total l := amount_add_amount_le hc hr (by simp)
        show n ≤ bound
        omega

section Pays

variable {left : σ → ℕ} {k g g' g₁ g₂ a a' a₁ a₂ b b' b₁ b₂ n : ℕ}

def Eats (left : σ → ℕ) (w : ℕ) (m : StateT σ (Except ε) α) : Prop :=
  ∀ s x t, m s = .ok (x, t) → left t + w ≤ left s

namespace Eats

variable {w v : ℕ} {m : StateT σ (Except ε) α} {f : α → StateT σ (Except ε) β}

lemma pure (x : α) : Eats left 0 (pure x : StateT σ (Except ε) α) := by
  intro s y t h
  cases h
  exact le_rfl

lemma throw (e : ε) : Eats left w (throw e : StateT σ (Except ε) α) := by
  intro s y t h
  cases h

lemma weaken (hm : Eats left w m) (hv : v ≤ w) : Eats left v m := by
  intro s x t h
  have := hm s x t h
  omega

lemma bind (hm : Eats left w m) (hf : ∀ x, Eats left v (f x)) : Eats left (w + v) (m >>= f) := by
  intro s y u h
  change (m s >>= fun p => f p.1 p.2) = _ at h
  rcases hms : m s with e | ⟨x, t⟩
  · rw [hms] at h
    cases h
  · rw [hms] at h
    have h₁ := hm s x t hms
    have h₂ := hf x t y u h
    omega

lemma ite {p : Prop} [Decidable p] {m' : StateT σ (Except ε) α} (hm : Eats left w m)
    (hm' : Eats left w m') : Eats left w (if p then m else m') := by
  split
  · exact hm
  · exact hm'

end Eats

/-- **A computation pays its way** at the price `k`. If it succeeds, what it has consumed covers its
charges but for `a`, and leaves `g`; if it fails, what there was covers them but for `b` and a charge
ahead. If `q`, nothing is charged ahead. -/
structure Pays (left : σ → ℕ) (k g a b : ℕ) (q : Bool) (m : Metered σ ε α) : Prop where
  ok : ∀ s x t l, m s = (.ok (x, t), l) →
    left t ≤ left s ∧ total l + k * left t + g ≤ k * left s + a
  error : ∀ s e l, m s = (.error e, l) → Accounted (k * left s + b) l
  secured : q → Secured m

namespace Pays

variable {q : Bool}

lemma ret (x : α) (hg : g ≤ a) : Pays left k g a b q (pure x : Metered σ ε α) where
  ok := by
    intro s y t l h
    cases h
    refine ⟨le_rfl, ?_⟩
    show 0 + k * left s + g ≤ _
    omega
  error := by
    intro s e l h
    cases h
  secured _ := secured_pure x

lemma free {w : ℕ} {m : StateT σ (Except ε) α} (hm : Eats left w m) (hg : g ≤ a + k * w) :
    Pays left k g a b q (free m) where
  ok := by
    intro s x t l h
    obtain ⟨hms, rfl⟩ := (Prod.mk.injEq ..).mp h
    have hw := hm s x t hms
    have hk : k * left t + k * w ≤ k * left s := by
      rw [← Nat.mul_add]
      exact Nat.mul_le_mul_left k hw
    refine ⟨by omega, ?_⟩
    show 0 + k * left t + g ≤ _
    omega
  error := by
    intro s e l h
    obtain ⟨-, rfl⟩ := (Prod.mk.injEq ..).mp h
    exact accounted_of_total_le (Nat.zero_le _)
  secured _ := secured_free m

lemma charge (n : ℕ) : Pays left k 0 n b q (charge n : Metered σ ε Unit) where
  ok := by
    intro s y t l h
    cases h
    refine ⟨le_rfl, ?_⟩
    show n + 0 + k * left s + 0 ≤ _
    omega
  error := by
    intro s e l h
    cases h
  secured _ := secured_charge n

variable {m : Metered σ ε α} {f : α → Metered σ ε β}

lemma weaken (hm : Pays left k g a b q m) (hok : a + g' ≤ a' + g) (hb : b ≤ b') :
    Pays left k g' a' b' q m where
  ok := by
    intro s x t l h
    obtain ⟨hle, hpaid⟩ := hm.ok s x t l h
    exact ⟨hle, by omega⟩
  error := by
    intro s e l h
    obtain ⟨r, hr, htotal⟩ := hm.error s e l h
    exact ⟨r, hr, by omega⟩
  secured := hm.secured

/-- **Sequencing.** What the first computation has left pays for the second, whether it succeeds or
fails. -/
lemma bind (hm : Pays left k g₁ a₁ b₁ q m) (hf : ∀ x, Pays left k g₂ a₂ b₂ q (f x))
    (hok : a₁ + a₂ + g ≤ a + (g₁ + g₂)) (hb₁ : b₁ ≤ b) (hb₂ : a₁ + b₂ ≤ b + g₁) :
    Pays left k g a b q (m >>= f) where
  ok := by
    intro s y u l h
    rcases bind_cases m f s with ⟨e, l₁, -, hrun⟩ | ⟨x, t, l₁, hms, hrun⟩
    · cases hrun.symm.trans h
    · obtain ⟨hfx, rfl⟩ := Prod.mk.inj (hrun.symm.trans h)
      obtain ⟨hle₁, hpaid₁⟩ := hm.ok s x t l₁ hms
      obtain ⟨hle₂, hpaid₂⟩ := (hf x).ok t y u (f x t).2 (Prod.ext hfx rfl)
      refine ⟨by omega, ?_⟩
      rw [total_append]
      omega
  error := by
    intro s e l h
    rcases bind_cases m f s with ⟨e', l₁, hms, hrun⟩ | ⟨x, t, l₁, hms, hrun⟩
    · cases hrun.symm.trans h
      exact (hm.weaken le_rfl hb₁).error s e l hms
    · obtain ⟨hfx, rfl⟩ := Prod.mk.inj (hrun.symm.trans h)
      obtain ⟨-, hpaid₁⟩ := hm.ok s x t l₁ hms
      exact ((hf x).error t e (f x t).2 (Prod.ext hfx rfl)).append (by omega)
  secured hq := (hm.secured hq).bind fun x => (hf x).secured hq

lemma free_bind {w : ℕ} {m : StateT σ (Except ε) α} (hm : Eats left w m)
    (hf : ∀ x, Pays left k g (a + k * w) (b + k * w) q (f x)) :
    Pays left k g a b q (Metered.free m >>= f) :=
  (free (a := 0) (b := b) hm (Nat.le_add_left _ _)).bind hf (by omega) le_rfl (by omega)

lemma charge_bind {f : Unit → Metered σ ε β} (ha : n ≤ a) (hb : n ≤ b)
    (hf : Pays left k g (a - n) (b - n) q (f ())) :
    Pays left k g a b q (Metered.charge n >>= f) :=
  (charge (b := b) n).bind (fun _ => hf) (by omega) le_rfl (by omega)

lemma spend (hm : Pays left k 0 n n q m) (ha : n ≤ a) (hb : n ≤ b)
    (hf : ∀ x, Pays left k g (a - n) (b - n) q (f x)) : Pays left k g a b q (m >>= f) :=
  hm.bind hf (by omega) hb (by omega)

lemma gain (hm : Pays left k g₁ 0 b₁ q m) (hb : b₁ ≤ b)
    (hf : ∀ x, Pays left k g (a + g₁) (b + g₁) q (f x)) : Pays left k g a b q (m >>= f) :=
  hm.bind hf (by omega) hb (by omega)

lemma seq (hm : Pays left k 0 0 b q m) (hf : ∀ x, Pays left k g a b q (f x)) :
    Pays left k g a b q (m >>= f) :=
  hm.gain le_rfl hf

lemma ite {p : Prop} [Decidable p] {m' : Metered σ ε α} (hm : p → Pays left k g a b q m)
    (hm' : ¬ p → Pays left k g a b q m') : Pays left k g a b q (if p then m else m') := by
  split
  · exact hm ‹_›
  · exact hm' ‹_›

lemma ahead (hm : Pays left k g a b true m) (hn : g' + n ≤ g) :
    Pays left k g' a b false (chargeAhead n >>= fun _ => m) where
  ok := by
    intro s y u l h
    obtain ⟨hms, rfl⟩ : (m s).1 = _ ∧ ⟨n, false⟩ :: (m s).2 = l := Prod.mk.inj h
    obtain ⟨hle, hpaid⟩ := hm.ok s y u (m s).2 (Prod.ext hms rfl)
    refine ⟨hle, ?_⟩
    show n + total (m s).2 + k * left u + g' ≤ _
    omega
  error := by
    intro s e l h
    obtain ⟨hms, rfl⟩ : (m s).1 = _ ∧ ⟨n, false⟩ :: (m s).2 = l := Prod.mk.inj h
    obtain ⟨r, hr, htotal⟩ := hm.error s e (m s).2 (Prod.ext hms rfl)
    have hzero : r = 0 := by
      refine hr.resolve_right fun hmem => ?_
      have hin : r ∈ aheads (charges m s) :=
        mem_map.2 ⟨⟨r, false⟩, mem_filter.2 ⟨hmem, rfl⟩, rfl⟩
      rw [hm.secured rfl s] at hin
      cases hin
    refine ⟨n, .inr mem_cons_self, ?_⟩
    show n + total (m s).2 ≤ _
    omega
  secured hq := by cases hq

lemma times (hm : Pays left k g 0 b q m) (n : ℕ) :
    Pays left k (n * g) 0 b q (times m n) := by
  induction n with
  | zero => exact ret _ (Nat.le_of_eq (Nat.zero_mul g))
  | succ n ih =>
    have hrest (x : α) :
        Pays left k (n * g) 0 b q (Metered.times m n >>= fun xs => pure (x :: xs)) :=
      ih.bind (fun _ => ret (b := b) (a := 0) _ le_rfl) (by omega) le_rfl (by omega)
    refine hm.bind hrest ?_ le_rfl (by omega)
    rw [Nat.succ_mul]
    omega

lemma each {f : ι → Metered σ ε α} (hf : ∀ i, Pays left k 0 0 b q (f i)) (is : List ι) :
    Pays left k 0 0 b q (each f is) := by
  induction is with
  | nil => exact ret _ le_rfl
  | cons i is ih => exact (hf i).seq fun _ => ih.seq fun _ => ret _ le_rfl

lemma accounted (hm : Pays left k g a b q m) (hab : a ≤ b + g) (s : σ) :
    Accounted (k * left s + b) (charges m s) := by
  rcases h : m s with ⟨e | ⟨x, t⟩, l⟩
  · rw [charges, h]
    exact hm.error s e l h
  · rw [charges, h]
    obtain ⟨hle, hpaid⟩ := hm.ok s x t l h
    refine accounted_of_total_le ?_
    show total l ≤ _
    omega

lemma accounted_bind (hm : Pays left k g 0 b q m)
    (hf : ∀ x t, Accounted (k * left t + (b + g)) (charges (f x) t)) (s : σ) :
    Accounted (k * left s + b) (charges (m >>= f) s) := by
  rcases bind_cases m f s with ⟨e, l, hms, hrun⟩ | ⟨x, t, l, hms, hrun⟩
  · rw [charges, hrun]
    exact hm.error s e l hms
  · rw [charges, hrun]
    obtain ⟨-, hpaid⟩ := hm.ok s x t l hms
    exact (hf x t).append (by omega)

lemma accounted_attempt {f : Option α → Metered σ ε β} (hm : Pays left k g 0 b q m)
    (hnone : ∀ t, charges (f none) t = [])
    (hsome : ∀ x t, Accounted (k * left t + (b + g)) (charges (f (some x)) t)) (s : σ) :
    Accounted (k * left s + b) (charges (attempt m >>= f) s) := by
  rw [charges, bind_apply, andThen, attempt]
  rcases h : m s with ⟨e | ⟨x, t⟩, l⟩
  · dsimp only
    rw [show (f none s).2 = [] from hnone s, append_nil]
    exact hm.error s e l h
  · obtain ⟨-, hpaid⟩ := hm.ok s x t l h
    exact (hsome x t).append (by omega)

end Pays

end Pays

end Metered
