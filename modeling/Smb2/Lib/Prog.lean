import Mathlib.Data.Nat.Notation
import Mathlib.Tactic.Common

set_option autoImplicit false

/-!
# Programs with state that may fail

A program works on a state and returns a value or fails with an error, in both cases with the state
it leaves behind: what was done before a failure stays done. A run that has not returned is `none`.
Triples of a precondition, a program and a postcondition speak about the runs that return; the
postcondition is about the value or the error, and the state.
-/

open Option

/-- **A program** over states `σ` with errors `ε`. -/
abbrev Prog (σ ε α : Type) := ExceptT ε (StateT σ Option) α

namespace Prog

variable {σ ε α β : Type}

def read (f : σ → α) : Prog σ ε α := fun s => some (.ok (f s), s)

def update (f : σ → σ) : Prog σ ε Unit := fun s => some (.ok (), f s)

def fail (e : ε) : Prog σ ε α := fun s => some (.error e, s)

def diverge : Prog σ ε α := fun _ => none

def lift (r : Except ε α) : Prog σ ε α := fun s => some (r, s)

def attempt (m : Prog σ ε α) : Prog σ ε (Except ε α) := fun s =>
  (m s).map fun p => (.ok p.1, p.2)

lemma bind_apply (m : Prog σ ε α) (f : α → Prog σ ε β) (s : σ) :
    (m >>= f) s = (m s).bind fun
      | (.ok a, t) => f a t
      | (.error e, t) => some (.error e, t) := by
  show (m s).bind _ = _
  congr 1
  funext p
  obtain ⟨x, t⟩ := p
  cases x <;> rfl

variable {m : Prog σ ε α} {f : α → Prog σ ε β} {R : Except ε β → σ → Prop}

lemma bind_of_ok {s t : σ} {a : α} (h : m s = some (.ok a, t)) : (m >>= f) s = f a t := by
  rw [bind_apply, h]
  rfl

lemma bind_of_error {s t : σ} {e : ε} (h : m s = some (.error e, t)) :
    (m >>= f) s = some (.error e, t) := by
  rw [bind_apply, h]
  rfl

/-- **Partial correctness**: started in a state with `P`, a run of `m` that returns leaves a result
and a state with `Q`. -/
def Triple (P : σ → Prop) (m : Prog σ ε α) (Q : Except ε α → σ → Prop) : Prop :=
  ∀ s r s', P s → m s = some (r, s') → Q r s'

variable {P P' : σ → Prop} {Q Q' : Except ε α → σ → Prop}

lemma Triple.pure {a : α} (h : ∀ s, P s → Q (.ok a) s) : Triple P (pure a) Q := by
  rintro s r s' hs hrun
  obtain ⟨rfl, rfl⟩ : Except.ok a = r ∧ s = s' := Prod.mk.inj (some.inj hrun)
  exact h s hs

lemma Triple.read {f : σ → α} (h : ∀ s, P s → Q (.ok (f s)) s) : Triple P (read f) Q := by
  rintro s r s' hs hrun
  obtain ⟨rfl, rfl⟩ := Prod.mk.inj (some.inj hrun)
  exact h s hs

lemma Triple.update {f : σ → σ} {Q : Except ε Unit → σ → Prop}
    (h : ∀ s, P s → Q (.ok ()) (f s)) : Triple P (update f) Q := by
  rintro s r s' hs hrun
  obtain ⟨rfl, rfl⟩ := Prod.mk.inj (some.inj hrun)
  exact h s hs

lemma Triple.fail {e : ε} (h : ∀ s, P s → Q (.error e) s) : Triple P (fail e) Q := by
  rintro s r s' hs hrun
  obtain ⟨rfl, rfl⟩ := Prod.mk.inj (some.inj hrun)
  exact h s hs

lemma Triple.diverge : Triple P diverge Q := by
  rintro s r s' - hrun
  cases hrun

lemma Triple.bind (hm : Triple P m Q) (hf : ∀ a, Triple (Q (.ok a)) (f a) R)
    (herr : ∀ e s, Q (.error e) s → R (.error e) s) : Triple P (m >>= f) R := by
  rintro s r s' hs hrun
  rw [bind_apply] at hrun
  obtain ⟨⟨x, t⟩, hx, hrest⟩ := bind_eq_some_iff.1 hrun
  have hmid := hm s x t hs hx
  cases x with
  | ok a => exact hf a t r s' hmid hrest
  | error e =>
    obtain ⟨rfl, rfl⟩ := Prod.mk.inj (some.inj hrest)
    exact herr e t hmid

lemma Triple.read_bind {f : σ → α} {g : α → Prog σ ε β}
    (h : ∀ a, Triple (fun s => P s ∧ f s = a) (g a) R) : Triple P (Prog.read f >>= g) R := by
  rintro s r s' hs hrun
  exact h (f s) s r s' ⟨hs, rfl⟩ hrun

lemma Triple.update_bind {M : σ → Prop} {f : σ → σ} {g : Unit → Prog σ ε β}
    (hf : ∀ s, P s → M (f s)) (hg : Triple M (g ()) R) :
    Triple P (Prog.update f >>= g) R := by
  rintro s r s' hs hrun
  exact hg (f s) r s' (hf s hs) hrun

lemma Triple.attempt (h : Triple P m Q) :
    Triple P (attempt m) fun r s => ∃ x, r = .ok x ∧ Q x s := by
  rintro s r s' hs hrun
  obtain ⟨⟨x, t⟩, hx, hpair⟩ := map_eq_some_iff.1 hrun
  obtain ⟨rfl, rfl⟩ := Prod.mk.inj hpair
  exact ⟨x, rfl, h s x t hs hx⟩

lemma Triple.lift_bind {x : Except ε α} (hok : ∀ a, x = .ok a → Triple P (f a) R)
    (herr : ∀ e, x = .error e → ∀ s, P s → R (.error e) s) :
    Triple P (Prog.lift x >>= f) R := by
  cases x with
  | ok a => exact hok a rfl
  | error e =>
    rintro s r s' hs hrun
    obtain ⟨rfl, rfl⟩ := Prod.mk.inj (some.inj hrun)
    exact herr e rfl s hs

lemma Triple.ite {c : Prop} [Decidable c] {m' : Prog σ ε α} (hm : c → Triple P m Q)
    (hm' : ¬ c → Triple P m' Q) : Triple P (if c then m else m') Q := by
  split
  · rename_i hc
    exact hm hc
  · rename_i hc
    exact hm' hc

lemma Triple.weaken (h : Triple P m Q) (hP : ∀ s, P' s → P s) (hQ : ∀ r s, Q r s → Q' r s) :
    Triple P' m Q' := by
  rintro s r s' hs hrun
  exact hQ r s' (h s r s' (hP s hs) hrun)

/-! ## Programs that end -/

/-- **A program ends** from every state with `I`, by returning a value or by failing, and leaves a
state with `J`. -/
def Ends (I : σ → Prop) (m : Prog σ ε α) (J : σ → Prop) : Prop :=
  ∀ s, I s → ∃ r s', m s = some (r, s') ∧ J s'

namespace Ends

variable {I J : σ → Prop}

variable {m : Prog σ ε α}

lemma of_run {s s' : σ} {r : Except ε α} (h : Ends I m J) (hs : I s) (hrun : m s = some (r, s')) :
    J s' := by
  obtain ⟨r₁, s₁, hrun₁, hJ⟩ := h s hs
  rw [hrun] at hrun₁
  cases hrun₁
  exact hJ

lemma of_silent {x : σ → Except ε α} (hm : ∀ s, m s = some (x s, s)) :
    Ends I m I := by
  intro s hs
  exact ⟨x s, s, hm s, hs⟩

lemma pure {a : α} : Ends I (pure a : Prog σ ε α) I := of_silent fun _ => rfl

lemma read {f : σ → α} : Ends I (Prog.read f : Prog σ ε α) I := of_silent fun _ => rfl

lemma fail {e : ε} : Ends I (Prog.fail e : Prog σ ε α) I := of_silent fun _ => rfl

lemma lift {x : Except ε α} : Ends I (Prog.lift x : Prog σ ε α) I := of_silent fun _ => rfl

lemma update {f : σ → σ} (h : ∀ s, I s → J (f s)) : Ends I (Prog.update f : Prog σ ε Unit) J := by
  intro s hs
  exact ⟨_, f s, rfl, h s hs⟩

/-- **Sequencing.** What the first program leaves is kept by the second one, so that it holds where
the first one fails as well. -/
lemma bind {f : α → Prog σ ε β} (hm : Ends I m J) (hf : ∀ a, Ends J (f a) J) :
    Ends I (m >>= f) J := by
  intro s hs
  obtain ⟨x, t, hx, ht⟩ := hm s hs
  cases x with
  | ok a =>
    obtain ⟨r, s', hr, hs'⟩ := hf a t ht
    exact ⟨r, s', (bind_of_ok hx).trans hr, hs'⟩
  | error e => exact ⟨.error e, t, bind_of_error hx, ht⟩

lemma read_bind {f : σ → α} {g : α → Prog σ ε β} (h : ∀ a, Ends I (g a) J) :
    Ends I (Prog.read f >>= g) J := by
  intro s hs
  exact h (f s) s hs

lemma ite {c : Prop} [Decidable c] {m' : Prog σ ε α} (hm : Ends I m J) (hm' : Ends I m' J) :
    Ends I (if c then m else m') J := by
  split
  · exact hm
  · exact hm'

end Ends

/-! ## Runs that return a value -/

section Returns

variable {s s' : σ} {a : α} {b : β}

variable {f : α → Prog σ ε β}

/-- **A sequence returns a value** if the first program returns one and the second goes on from
there. -/
@[simp]
lemma bind_eq_ok {m : Prog σ ε α} :
    (m >>= f) s = some (.ok b, s') ↔
      ∃ a t, m s = some (.ok a, t) ∧ f a t = some (.ok b, s') := by
  rw [bind_apply, bind_eq_some_iff]
  constructor
  · intro h
    obtain ⟨⟨x, t⟩, hx, hrest⟩ := h
    cases x with
    | ok a => exact ⟨a, t, hx, hrest⟩
    | error e => cases hrest
  · intro h
    obtain ⟨a, t, hm, hf⟩ := h
    exact ⟨(.ok a, t), hm, hf⟩

@[simp]
lemma pure_eq_ok {a' : α} : (pure a : Prog σ ε α) s = some (.ok a', s') ↔ a = a' ∧ s = s' := by
  show some (Except.ok a, s) = _ ↔ _
  simp

@[simp]
lemma map_eq_ok {m : Prog σ ε α} {g : α → β} :
    (g <$> m) s = some (.ok b, s') ↔ ∃ a, m s = some (.ok a, s') ∧ g a = b := by
  simp only [map_eq_pure_bind, bind_eq_ok, pure_eq_ok]
  grind

@[simp]
lemma fail_eq_ok {e : ε} : (fail e : Prog σ ε α) s = some (.ok a, s') ↔ False := by
  simp [fail]

@[simp]
lemma lift_eq_ok {x : Except ε α} :
    lift x s = some (.ok a, s') ↔ x = .ok a ∧ s = s' := by
  simp [lift]

@[simp]
lemma read_eq_ok {f : σ → α} :
    (read f : Prog σ ε α) s = some (.ok a, s') ↔ f s = a ∧ s = s' := by
  simp [read]

@[simp]
lemma update_eq_ok {f : σ → σ} {u : Unit} :
    (update f : Prog σ ε Unit) s = some (.ok u, s') ↔ f s = s' := by
  simp [update]

lemma lift_bind_eq_ok {x : Except ε α} :
    (lift x >>= f) s = some (.ok b, s') ↔ ∃ a, x = .ok a ∧ f a s = some (.ok b, s') := by
  simp [bind_eq_ok, lift_eq_ok]

lemma read_bind_eq_ok {g : σ → α} :
    (read g >>= f) s = some (.ok b, s') ↔ f (g s) s = some (.ok b, s') :=
  .rfl

lemma update_bind_eq_ok {g : σ → σ} {f : Unit → Prog σ ε β} :
    (update g >>= f) s = some (.ok b, s') ↔ f () (g s) = some (.ok b, s') :=
  .rfl

def result (m : Prog σ ε α) (s : σ) : Option α := (m s).bind fun r => r.1.toOption

lemma mem_result {m : Prog σ ε α} : a ∈ result m s ↔ ∃ t, m s = some (.ok a, t) := by
  constructor
  · intro h
    obtain ⟨⟨x, t⟩, hrun, hx⟩ := bind_eq_some_iff.1 h
    cases x with
    | ok b => exact ⟨t, by rw [hrun, some.inj hx]⟩
    | error e => cases hx
  · intro h
    obtain ⟨t, hrun⟩ := h
    exact bind_eq_some_iff.2 ⟨(.ok a, t), hrun, rfl⟩

end Returns

end Prog
