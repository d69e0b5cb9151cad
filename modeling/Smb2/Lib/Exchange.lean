import Smb2.Lib.Prog

set_option autoImplicit false

/-!
# Programs that ask

A program asks for things one after the other and goes on with the answers, which come from outside:
its state is the answers to come, and the log of what was asked and answered. What can be said of
such a program, whatever the answers, is a relation between its result and what it adds to the log.
-/

open List

structure Exchange (ρ ε β : Type) where
  answers : List (Except ε β)
  log : List (ρ × Except ε β)

namespace Exchange

open Prog

variable {ρ ε β α γ : Type}

/-- **Ask**, and go on with the answer; a program that gets none has not returned. -/
def ask (r : ρ) : Prog (Exchange ρ ε β) ε β := fun s =>
  match s.answers with
  | [] => none
  | answer :: rest => some (answer, ⟨rest, s.log ++ [(r, answer)]⟩)

def post (r : ρ) (answer : Except ε β) : Prog (Exchange ρ ε β) ε Unit :=
  update fun s => { s with log := s.log ++ [(r, answer)] }

def postAll (entries : List (ρ × Except ε β)) : Prog (Exchange ρ ε β) ε Unit :=
  update fun s => { s with log := s.log ++ entries }

/-- **What a program leaves**: a run that returns adds to the log, and `Q` holds of the result and
what was added. -/
def Leaves (m : Prog (Exchange ρ ε β) ε α) (Q : Except ε α → List (ρ × Except ε β) → Prop) :
    Prop :=
  ∀ s x s', m s = some (x, s') → ∃ new, s'.log = s.log ++ new ∧ Q x new

variable {Q Q' : Except ε α → List (ρ × Except ε β) → Prop}

namespace Leaves

variable {m : Prog (Exchange ρ ε β) ε α} {r : ρ} {f : α → Prog (Exchange ρ ε β) ε γ}
  {R : Except ε γ → List (ρ × Except ε β) → Prop}

lemma of_silent {x : Except ε α} (hm : ∀ s, m s = some (x, s)) (h : Q x []) : Leaves m Q := by
  intro s y s' hrun
  obtain ⟨rfl, rfl⟩ := Prod.mk.inj (Option.some.inj ((hm s).symm.trans hrun))
  exact ⟨[], (append_nil _).symm, h⟩

lemma pure {a : α} (h : Q (.ok a) []) : Leaves (pure a) Q := of_silent (fun _ => rfl) h

lemma fail {e : ε} (h : Q (.error e) []) : Leaves (fail e) Q := of_silent (fun _ => rfl) h

lemma lift {x : Except ε α} (h : Q x []) : Leaves (lift x) Q := of_silent (fun _ => rfl) h

lemma diverge : Leaves diverge Q := by
  intro s x s' hrun
  cases hrun

lemma ask {Q : Except ε β → List (ρ × Except ε β) → Prop} (h : ∀ answer, Q answer [(r, answer)]) :
    Leaves (ask r) Q := by
  intro s x s' hrun
  unfold Exchange.ask at hrun
  split at hrun
  · cases hrun
  · obtain ⟨rfl, rfl⟩ := Prod.mk.inj (Option.some.inj hrun)
    exact ⟨_, rfl, h _⟩

lemma post {answer : Except ε β} {Q : Except ε Unit → List (ρ × Except ε β) → Prop}
    (h : Q (.ok ()) [(r, answer)]) : Leaves (post r answer) Q := by
  intro s x s' hrun
  obtain ⟨rfl, rfl⟩ := Prod.mk.inj (Option.some.inj hrun)
  exact ⟨_, rfl, h⟩

/-- **Sequencing**: the second program adds to what the first has left; a failure of the first is one
of the whole. -/
lemma bind (hm : Leaves m Q)
    (hf : ∀ a new, Q (.ok a) new → Leaves (f a) fun x more => R x (new ++ more))
    (herr : ∀ e new, Q (.error e) new → R (.error e) new) : Leaves (m >>= f) R := by
  intro s x s' hrun
  rw [bind_apply] at hrun
  obtain ⟨⟨y, t⟩, hy, hrest⟩ := Option.bind_eq_some_iff.1 hrun
  obtain ⟨new, hlog, hQ⟩ := hm s y t hy
  cases y with
  | ok a =>
    obtain ⟨more, hmore, hR⟩ := hf a new hQ t x s' hrest
    exact ⟨new ++ more, by rw [hmore, hlog, append_assoc], hR⟩
  | error e =>
    obtain ⟨rfl, rfl⟩ := Prod.mk.inj (Option.some.inj hrest)
    exact ⟨new, hlog, herr e new hQ⟩

lemma bind_ok {Q : α → List (ρ × Except ε β) → Prop}
    (hm : Leaves m fun x new => ∃ a, x = .ok a ∧ Q a new)
    (hf : ∀ a new, Q a new → Leaves (f a) fun x more => R x (new ++ more)) :
    Leaves (m >>= f) R := by
  refine bind hm ?_ ?_
  · rintro a new ⟨_, ha, hnew⟩
    obtain rfl := Except.ok.inj ha
    exact hf a new hnew
  · rintro e new ⟨a, ha, -⟩
    cases ha

lemma ask_bind {f : β → Prog (Exchange ρ ε β) ε γ}
    (hok : ∀ b, Leaves (f b) fun x more => R x ((r, .ok b) :: more))
    (herr : ∀ e, R (.error e) [(r, .error e)]) : Leaves (Exchange.ask r >>= f) R := by
  refine bind (Q := fun x new => new = [(r, x)]) (ask fun _ => rfl) ?_ ?_
  · rintro b new rfl
    exact hok b
  · rintro e new rfl
    exact herr e

lemma post_bind {answer : Except ε β} {f : Unit → Prog (Exchange ρ ε β) ε γ}
    (h : Leaves (f ()) fun x more => R x ((r, answer) :: more)) :
    Leaves (Exchange.post r answer >>= f) R := by
  refine bind_ok (Q := fun _ new => new = [(r, answer)]) (post ⟨(), rfl, rfl⟩) ?_
  rintro a new rfl
  exact h

lemma postAll_bind {entries : List (ρ × Except ε β)} {f : Unit → Prog (Exchange ρ ε β) ε γ}
    (h : Leaves (f ()) fun x more => R x (entries ++ more)) :
    Leaves (postAll entries >>= f) R := by
  intro s x s' hrun
  obtain ⟨more, hmore, hR⟩ := h ⟨s.answers, s.log ++ entries⟩ x s' hrun
  exact ⟨entries ++ more, by rw [hmore, append_assoc], hR⟩

lemma lift_bind {y : Except ε α} (hok : ∀ a, y = .ok a → Leaves (f a) R)
    (herr : ∀ e, y = .error e → R (.error e) []) : Leaves (Prog.lift y >>= f) R := by
  refine bind (Q := fun x new => x = y ∧ new = []) (lift ⟨rfl, rfl⟩) ?_ ?_
  · rintro a new ⟨rfl, rfl⟩
    exact hok a rfl
  · rintro e new ⟨rfl, rfl⟩
    exact herr e rfl

lemma attempt (h : Leaves m Q) :
    Leaves (attempt m) fun x new => ∃ y, x = .ok y ∧ Q y new := by
  intro s x s' hrun
  obtain ⟨⟨y, t⟩, hy, hpair⟩ := Option.map_eq_some_iff.1 hrun
  obtain ⟨rfl, rfl⟩ := Prod.mk.inj hpair
  obtain ⟨new, hlog, hQ⟩ := h s y t hy
  exact ⟨new, hlog, y, rfl, hQ⟩

lemma ite {c : Prop} [Decidable c] {m' : Prog (Exchange ρ ε β) ε α} (hm : c → Leaves m Q)
    (hm' : ¬ c → Leaves m' Q) : Leaves (if c then m else m') Q := by
  split
  · rename_i hc
    exact hm hc
  · rename_i hc
    exact hm' hc

lemma weaken (h : Leaves m Q) (hQ : ∀ x new, Q x new → Q' x new) :
    Leaves m Q' := by
  intro s x s' hrun
  obtain ⟨new, hlog, hnew⟩ := h s x s' hrun
  exact ⟨new, hlog, hQ x new hnew⟩

end Leaves

/-! ## Loops that ask until a reply ends them -/

variable {ι : Type} {answers : ι → List (Except ε β)} {GoesOn : ι → Prop}

/-- **A loop that asks until a reply ends it** returns exactly if one of the replies does. A reply is
a list of answers. -/
lemma isSome_loop_iff {σ : Type} (loop : ℕ → σ → Prog (Exchange ρ ε β) ε α)
    (hwaits : ∀ n s log, loop (n + 1) s ⟨[], log⟩ = none)
    (hgo : ∀ u, GoesOn u → ∀ n s rest log, ∃ s' log',
      loop (n + 1) s ⟨answers u ++ rest, log⟩ = loop n s' ⟨rest, log'⟩)
    (hend : ∀ u, ¬ GoesOn u → ∀ n s rest log, (loop (n + 1) s ⟨answers u ++ rest, log⟩).isSome)
    {us : List ι} {n : ℕ} (hn : us.length < n) (s : σ) (log : List (ρ × Except ε β)) :
    (loop n s ⟨us.flatMap answers, log⟩).isSome ↔ ∃ u ∈ us, ¬ GoesOn u := by
  induction us generalizing n s log with
  | nil =>
    obtain ⟨n, rfl⟩ := Nat.exists_eq_succ_of_ne_zero (Nat.ne_of_gt hn)
    simp [hwaits]
  | cons u us ih =>
    obtain ⟨n, rfl⟩ := Nat.exists_eq_succ_of_ne_zero (n := n) (by omega)
    rw [flatMap_cons]
    by_cases hu : GoesOn u
    · obtain ⟨s', log', hrun⟩ := hgo u hu n s (us.flatMap answers) log
      rw [hrun, ih (Nat.lt_of_succ_lt_succ hn)]
      simp [hu]
    · exact iff_of_true (hend u hu ..) ⟨u, mem_cons_self .., hu⟩

/-- **A call stops**: it returns after finitely many of the replies of a server. -/
def Stops (call : Prog (Exchange ρ ε β) ε α) (answers : ι → List (Except ε β))
    (server : ℕ → ι) : Prop :=
  ∃ n, (call ⟨((range n).map server).flatMap answers, []⟩).isSome

variable {call : Prog (Exchange ρ ε β) ε α}

lemma stops_iff (hcall : ∀ us : List ι, (call ⟨us.flatMap answers, []⟩).isSome ↔ ∃ u ∈ us, ¬ GoesOn u)
    (server : ℕ → ι) : Stops call answers server ↔ ∃ k, ¬ GoesOn (server k) := by
  constructor
  · rintro ⟨n, hn⟩
    obtain ⟨u, hu, hend⟩ := (hcall _).1 hn
    obtain ⟨k, -, rfl⟩ := mem_map.1 hu
    exact ⟨k, hend⟩
  · rintro ⟨k, hend⟩
    have hmem : server k ∈ (range (k + 1)).map server :=
      mem_map_of_mem (mem_range.2 k.lt_succ_self)
    exact ⟨k + 1, (hcall _).2 ⟨_, hmem, hend⟩⟩

lemma stops_iff_of_eventually
    (hcall : ∀ us : List ι, (call ⟨us.flatMap answers, []⟩).isSome ↔ ∃ u ∈ us, ¬ GoesOn u)
    {server : ℕ → ι} {N : ℕ} (hgo : ∀ k, N ≤ k → GoesOn (server k)) :
    Stops call answers server ↔ ∃ k < N, ¬ GoesOn (server k) := by
  rw [stops_iff hcall]
  constructor
  · rintro ⟨k, hend⟩
    exact ⟨k, Nat.lt_of_not_le fun hk => hend (hgo k hk), hend⟩
  · rintro ⟨k, -, hend⟩
    exact ⟨k, hend⟩

end Exchange
