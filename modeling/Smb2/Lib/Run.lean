import Mathlib.Algebra.GroupWithZero.Nat
import Mathlib.Algebra.Order.BigOperators.Group.List
import Mathlib.Algebra.Order.Group.Nat
import Mathlib.Data.List.Induction
import Mathlib.Tactic.Common

set_option autoImplicit false

/-!
# Runs of a labelled transition system

A system is a partial step function `step : σ → α → Option σ`: in state `s` the action `a` is
either not enabled (`none`) or leads to one next state. A run is a list of actions. What a
development says about a run is either about the state it ends in (`exec`) or about each of
its steps (`Along`), and both are proved from one fact about a single step.

A partial step function also serves as a protocol: read as `after : φ → α → Option φ`, it says
which operations are allowed in a phase and which phase each of them leads to, and a program
keeps to the protocol if its operations can be run one after the other.

The last part is about systems whose state holds a list of tasks, one of which moves in each
step: replacing the task at a position changes a sum over all tasks by that task's share.
-/

open List Option

namespace Transition

section Runs

variable {σ α : Type*} (step : σ → α → Option σ)

/-- The state that the actions of a run lead to, `none` if one of them is not enabled. -/
def exec : σ → List α → Option σ
  | s, [] => some s
  | s, a :: as => (step s a).bind fun s' => exec s' as

/-- **A step property along a run**: every action of the run is enabled in turn, and `P` holds
of the state before it, the action and the state after it. -/
def Along (P : σ → α → σ → Prop) : σ → List α → Prop
  | _, [] => True
  | s, a :: as => ∃ s', step s a = some s' ∧ P s a s' ∧ Along P s' as

instance decidableAlong (P : σ → α → σ → Prop) [∀ s a t, Decidable (P s a t)] :
    ∀ s as, Decidable (Along step P s as)
  | _, [] => .isTrue trivial
  | s, a :: as =>
    match h : step s a with
    | none => .isFalse fun ⟨_, hs, _⟩ => by simp [h] at hs
    | some s' =>
      have := decidableAlong P s' as
      decidable_of_iff (P s a s' ∧ Along step P s' as) (by simp [Along, h])

variable {step}

variable {s u t : σ} {a : α} {as bs : List α} {C P : σ → α → σ → Prop} {I : σ → Prop}

lemma exec_cons_eq_some :
    exec step s (a :: as) = some u ↔ ∃ t, step s a = some t ∧ exec step t as = some u := by
  simp [exec, bind_eq_some_iff]

lemma exec_append :
    exec step s (as ++ bs) = (exec step s as).bind fun t => exec step t bs := by
  induction as generalizing s with
  | nil => rfl
  | cons a as ih =>
    simp only [cons_append, exec, bind_assoc]
    congr 1
    funext t
    exact ih

lemma exec_trans (has : exec step s as = some t) (hbs : exec step t bs = some u) :
    exec step s (as ++ bs) = some u := by
  rw [exec_append, has]
  exact hbs

/-- **Invariant rule.** An invariant of the first state that every step with property `C` keeps
holds in the last state of every run with `C` along it. -/
theorem exec_invariant (hstep : ∀ s a t, I s → C s a t → step s a = some t → I t) (hs : I s)
    (hrun : exec step s as = some u) (hC : Along step C s as) : I u := by
  induction as generalizing s with
  | nil =>
    obtain rfl : s = u := by simpa [exec] using hrun
    exact hs
  | cons a as ih =>
    obtain ⟨t, hst, htu⟩ := exec_cons_eq_some.1 hrun
    obtain ⟨t', hst', hCa, hrest⟩ := hC
    obtain rfl : t = t' := some.inj (hst.symm.trans hst')
    exact ih (hstep s a t hs hCa hst) htu hrest

/-- **Step rule.** If an invariant and the property `C` of a step imply the property `P` of the
step and keep the invariant, then `P` holds along every run with `C` along it. -/
theorem along_of_invariant (hstep : ∀ s a t, I s → C s a t → step s a = some t → I t ∧ P s a t)
    (hs : I s) (hC : Along step C s as) : Along step P s as := by
  induction as generalizing s with
  | nil => trivial
  | cons a as ih =>
    obtain ⟨t, hst, hCa, hrest⟩ := hC
    obtain ⟨ht, hP⟩ := hstep s a t hs hCa hst
    exact ⟨t, hst, hP, ih ht hrest⟩

lemma Along.mono (hC : Along step C s as) (h : ∀ s a t, step s a = some t → C s a t → P s a t) :
    Along step P s as :=
  along_of_invariant (I := fun _ => True) (fun s a t _ hCa hst => ⟨trivial, h s a t hst hCa⟩)
    trivial hC

lemma along_cons_iff (h : step s a = some t) :
    Along step P s (a :: as) ↔ P s a t ∧ Along step P t as := by
  simp [Along, h]

lemma Along.at_step (h : Along step P s (as ++ a :: bs)) (hrun : exec step s as = some t)
    (hstep : step t a = some u) :
    P t a u := by
  induction as generalizing s with
  | nil =>
    obtain rfl : s = t := some.inj hrun
    obtain ⟨u', hu', hP, -⟩ := h
    obtain rfl : u = u' := some.inj (hstep.symm.trans hu')
    exact hP
  | cons b as ih =>
    obtain ⟨v, hv, hvt⟩ := exec_cons_eq_some.1 hrun
    obtain ⟨v', hv', -, hrest⟩ := h
    obtain rfl : v = v' := some.inj (hv.symm.trans hv')
    exact ih hrest hvt

lemma along_true_of_exec (hrun : exec step s as = some u) :
    Along step (fun _ _ _ => True) s as := by
  induction as generalizing s with
  | nil => trivial
  | cons a as ih =>
    obtain ⟨t, hst, htu⟩ := exec_cons_eq_some.1 hrun
    exact ⟨t, hst, trivial, ih htu⟩

lemma exec_of_along (h : Along step P s as) :
    ∃ u, exec step s as = some u := by
  induction as generalizing s with
  | nil => exact ⟨s, rfl⟩
  | cons a as ih =>
    obtain ⟨t, hst, -, hrest⟩ := h
    obtain ⟨u, hu⟩ := ih hrest
    exact ⟨u, exec_cons_eq_some.2 ⟨t, hst, hu⟩⟩

theorem exec_invariant_of_step (hstep : ∀ s a t, I s → step s a = some t → I t) (hs : I s)
    (hrun : exec step s as = some u) : I u :=
  exec_invariant (fun s a t hI _ h => hstep s a t hI h) hs hrun (along_true_of_exec hrun)

/-- **History rule.** A relation between a run and the state it leads to that every further step
keeps holds of every run. -/
theorem exec_history {I : List α → σ → Prop} (hs : I [] s)
    (hstep : ∀ as t a u, exec step s as = some t → I as t → step t a = some u → I (as ++ [a]) u)
    (hrun : exec step s as = some u) : I as u := by
  induction as using reverseRecOn generalizing u with
  | nil =>
    obtain rfl : s = u := by simpa [exec] using hrun
    exact hs
  | append_singleton as a ih =>
    rw [exec_append] at hrun
    obtain ⟨t, ht, hlast⟩ := bind_eq_some_iff.1 hrun
    obtain ⟨v, hv, hend⟩ := exec_cons_eq_some.1 hlast
    obtain rfl : v = u := by simpa [exec] using hend
    exact hstep as t a v ht (ih ht) hv

/-- **Termination rule.** If the runs from a state are bounded and every state they lead to either
has the property `P` or allows a step with an action in `Q`, then a run of actions in `Q` leads to
a state with `P`.

**Proof sketch.** Induction on the number of actions that a run can still have. -/
theorem exists_exec_of_bounded {P : σ → Prop} {Q : α → Prop} {n : ℕ}
    (hbound : ∀ as t, exec step s as = some t → as.length ≤ n)
    (hgo : ∀ as t, exec step s as = some t → ¬ P t → ∃ a u, Q a ∧ step t a = some u) :
    ∃ as t, exec step s as = some t ∧ P t ∧ ∀ a ∈ as, Q a := by
  have hrest : ∀ k as t, n - as.length ≤ k → exec step s as = some t → (∀ a ∈ as, Q a) →
      ∃ as t, exec step s as = some t ∧ P t ∧ ∀ a ∈ as, Q a := by
    intro k
    induction k with
    | zero =>
      intro as t hk hrun hQ
      by_cases ht : P t
      · exact ⟨as, t, hrun, ht, hQ⟩
      · obtain ⟨a, u, -, hstep⟩ := hgo as t hrun ht
        have hlonger : exec step s (as ++ [a]) = some u :=
          exec_trans hrun (exec_cons_eq_some.2 ⟨u, hstep, rfl⟩)
        have hlength := hbound _ _ hlonger
        rw [length_append, length_singleton] at hlength
        omega
    | succ k ih =>
      intro as t hk hrun hQ
      by_cases ht : P t
      · exact ⟨as, t, hrun, ht, hQ⟩
      · obtain ⟨a, u, ha, hstep⟩ := hgo as t hrun ht
        refine ih (as ++ [a]) u ?_ (exec_trans hrun (exec_cons_eq_some.2 ⟨u, hstep, rfl⟩)) ?_
        · rw [length_append, length_singleton]
          omega
        · exact forall_mem_append.2 ⟨hQ, forall_mem_singleton.2 ha⟩
  exact hrest n [] s (Nat.sub_le _ _) rfl fun a ha => absurd ha not_mem_nil

/-- Two step properties that an invariant of all steps makes equivalent hold along the same
runs. -/
theorem along_iff_along {Q : σ → α → σ → Prop} (hkeep : ∀ s a t, I s → step s a = some t → I t)
    (hiff : ∀ s a t, I s → step s a = some t → (P s a t ↔ Q s a t)) (hs : I s) :
    Along step P s as ↔ Along step Q s as :=
  ⟨along_of_invariant (fun s a t hI hP h => ⟨hkeep s a t hI h, (hiff s a t hI h).1 hP⟩) hs,
    along_of_invariant (fun s a t hI hQ h => ⟨hkeep s a t hI h, (hiff s a t hI h).2 hQ⟩) hs⟩

end Runs

/-! ## Protocols -/

section Protocols

variable {φ α : Type*} (after : φ → α → Option φ)

def Follows (p : φ) (as : List α) : Prop := ∃ p', exec after p as = some p'

variable {after}

@[simp] lemma follows_nil (p : φ) : Follows after p [] := ⟨p, rfl⟩

variable {p : φ} {as : List α}

lemma follows_cons {a : α} :
    Follows after p (a :: as) ↔ ∃ p', after p a = some p' ∧ Follows after p' as := by
  simp only [Follows, exec_cons_eq_some]
  constructor
  · rintro ⟨q, p', h, hq⟩
    exact ⟨p', h, q, hq⟩
  · rintro ⟨p', h, q, hq⟩
    exact ⟨q, p', h, hq⟩

lemma exec_eq_self (h : ∀ a ∈ as, after p a = some p) :
    exec after p as = some p := by
  induction as with
  | nil => rfl
  | cons a as ih =>
    rw [exec, h a (mem_cons_self ..), bind_some]
    exact ih fun b hb => h b (mem_cons_of_mem a hb)

lemma Follows.append {q : φ} {bs : List α} (has : exec after p as = some q)
    (hbs : Follows after q bs) : Follows after p (as ++ bs) := by
  obtain ⟨q', hq'⟩ := hbs
  exact ⟨q', exec_trans has hq'⟩

end Protocols

/-! ## Systems made of tasks -/

section Tasks

variable {τ : Type*}

variable {P : τ → Prop} {l new : List τ} {i : ℕ} {x y : τ} {f : τ → ℕ}

lemma forall_mem_set (hx : P x) (hl : ∀ y ∈ l, P y) : ∀ y ∈ l.set i x, P y := by
  intro y hy
  rcases mem_or_eq_of_mem_set hy with h | rfl
  · exact hl y h
  · exact hx

lemma forall_mem_set_append (hx : P x) (hl : ∀ y ∈ l, P y) (hnew : ∀ y ∈ new, P y) :
    ∀ y ∈ l.set i x ++ new, P y := by
  intro y hy
  rcases mem_append.1 hy with h | h
  · exact forall_mem_set hx hl y h
  · exact hnew y h

lemma forall_mem_concat (hl : ∀ y ∈ l, P y) (hx : P x) :
    ∀ y ∈ l ++ [x], P y :=
  forall_mem_append.2 ⟨hl, forall_mem_singleton.2 hx⟩

lemma sum_map_set_add {M : Type*} [AddCommMonoid M] (f : τ → M) (hx : l[i]? = some x) (y : τ) :
    ((l.set i y).map f).sum + f x = (l.map f).sum + f y := by
  induction l generalizing i with
  | nil => simp at hx
  | cons z l ih =>
    cases i with
    | zero =>
      obtain rfl : z = x := by simpa using hx
      simp only [set_cons_zero, map_cons, sum_cons]
      rw [add_assoc, add_comm (f y), add_assoc, add_comm _ (f y), add_comm (f z), add_assoc,
        add_comm (f y)]
    | succ i =>
      have hx' : l[i]? = some x := by simpa using hx
      simp only [set_cons_succ, map_cons, sum_cons]
      rw [add_assoc, ih hx', add_assoc]

lemma sum_map_add_le {g : τ → ℕ} {c : ℕ} (hx : l[i]? = some x) (hle : ∀ y ∈ l, f y ≤ g y)
    (hc : f x + c ≤ g x) : (l.map f).sum + c ≤ (l.map g).sum := by
  induction l generalizing i with
  | nil => simp at hx
  | cons y l ih =>
    have hhead := hle y (mem_cons_self ..)
    have htail : ∀ z ∈ l, f z ≤ g z := fun z hz => hle z (mem_cons_of_mem y hz)
    simp only [map_cons, sum_cons]
    cases i with
    | zero =>
      obtain rfl : y = x := by simpa using hx
      have := sum_le_sum htail
      omega
    | succ i =>
      have := ih (by simpa using hx) htail
      omega

lemma le_sum_map (hx : l[i]? = some x) :
    f x ≤ (l.map f).sum :=
  single_le_sum (by simp) _ (mem_map_of_mem (mem_of_getElem? hx))

lemma add_le_sum_map {k : ℕ} (hx : l[i]? = some x) (hy : l[k]? = some y) (hne : i ≠ k) :
    f x + f y ≤ (l.map f).sum := by
  induction l generalizing i k with
  | nil => simp at hx
  | cons z l ih =>
    simp only [map_cons, sum_cons]
    cases i with
    | zero =>
      cases k with
      | zero => exact absurd rfl hne
      | succ k =>
        obtain rfl : z = x := by simpa using hx
        have := le_sum_map (f := f) (show l[k]? = some y by simpa using hy)
        omega
    | succ i =>
      have hx' : l[i]? = some x := by simpa using hx
      cases k with
      | zero =>
        obtain rfl : z = y := by simpa using hy
        have := le_sum_map (f := f) hx'
        omega
      | succ k =>
        have := ih hx' (show l[k]? = some y by simpa using hy) (by omega)
        omega

lemma eq_of_count_map_le_one {β : Type*} [DecidableEq β] {f : τ → β} {b : β}
    (h : (l.map f).count b ≤ 1) (hx : x ∈ l) (hy : y ∈ l) (hfx : f x = b) (hfy : f y = b) :
    x = y := by
  induction l with
  | nil => simp at hx
  | cons z l ih =>
    rw [map_cons, count_cons] at h
    have hmem : ∀ u ∈ l, f u = b → 1 ≤ (l.map f).count b := fun u hu hfu =>
      one_le_count_iff.2 (hfu ▸ mem_map_of_mem hu)
    rcases mem_cons.1 hx with rfl | hx'
    · rcases mem_cons.1 hy with rfl | hy'
      · rfl
      · have := hmem y hy' hfy
        simp [hfx] at h
        omega
    · rcases mem_cons.1 hy with rfl | hy'
      · have := hmem x hx' hfx
        simp [hfy] at h
        omega
      · exact ih (Nat.le_of_add_right_le h) hx' hy'

lemma getElem?_set_append_of_ne {k : ℕ} (hk : l[k]? = some y) (hne : k ≠ i) :
    (l.set i x ++ new)[k]? = some y := by
  have hlt : k < l.length := (List.getElem?_eq_some_iff.1 hk).1
  rw [getElem?_append_left (by simpa using hlt), getElem?_set_ne (Ne.symm hne), hk]

lemma getElem?_set_append_self (hi : l[i]? = some y) :
    (l.set i x ++ new)[i]? = some x := by
  have hlt : i < l.length := (List.getElem?_eq_some_iff.1 hi).1
  rw [getElem?_append_left (by simpa using hlt), getElem?_set_self hlt]

lemma sum_map_set_append (hx : l[i]? = some x) (hnew : ∀ z ∈ new, f z = 0) :
    ((l.set i y ++ new).map f).sum + f x = (l.map f).sum + f y := by
  have hzero : (new.map f).sum = 0 := sum_eq_zero fun n hn => by
    obtain ⟨z, hz, rfl⟩ := mem_map.1 hn
    exact hnew z hz
  rw [map_append, sum_append, hzero, add_zero, sum_map_set_add f hx y]

end Tasks

end Transition
