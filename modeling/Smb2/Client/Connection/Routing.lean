import Smb2.Client.Connection.Step

set_option autoImplicit false

/-!
# The waiters map

What the operations on the waiters map do to the entry under one id, to those under other ids and
to the `disconnected` flag.
-/

namespace Smb2.Connection.Routing

variable {r : Routing} {id id' channel gen : ℕ} {reply : Reply} {f : Waiter → Waiter}

/-! ## The flag -/

@[simp] lemma disconnected_deliver : (r.deliver channel reply).disconnected = r.disconnected := by
  unfold deliver
  split <;> rfl

@[simp] lemma disconnected_remove : (r.remove id).disconnected = r.disconnected := by
  unfold remove
  split
  · exact disconnected_deliver
  · rfl

@[simp] lemma disconnected_insert : (r.insert id gen).disconnected = r.disconnected :=
  disconnected_remove

@[simp] lemma disconnected_modify : (r.modify id f).disconnected = r.disconnected := by
  unfold modify
  split <;> rfl

@[simp] lemma disconnected_notePending {asyncId : Option ℕ} :
    (r.notePending id asyncId).disconnected = r.disconnected := disconnected_modify

@[simp] lemma disconnected_route {ok : Bool} :
    (r.route id ok).disconnected = r.disconnected := by
  unfold route
  split
  · exact disconnected_deliver
  · rfl

@[simp] lemma disconnected_foldl_markSent (gs : List Guard) (r : Routing) :
    (gs.foldl (fun r g => r.markSent g.id) r).disconnected = r.disconnected := by
  induction gs generalizing r with
  | nil => rfl
  | cons g gs ih => rw [List.foldl_cons, ih, markSent, disconnected_modify]

@[simp] lemma disconnected_foldl_deliver (ks : List ℕ) (r : Routing) :
    (ks.foldl (fun r k => r.deliver k reply) r).disconnected = r.disconnected := by
  induction ks generalizing r with
  | nil => rfl
  | cons k ks ih => rw [List.foldl_cons, ih, disconnected_deliver]

/-! ## Entries -/

@[simp] lemma waiters_deliver : (r.deliver channel reply).waiters = r.waiters := by
  unfold deliver
  split <;> rfl

@[simp] lemma waiters_foldl_deliver (ks : List ℕ) (r : Routing) :
    (ks.foldl (fun r k => r.deliver k reply) r).waiters = r.waiters := by
  induction ks generalizing r with
  | nil => rfl
  | cons k ks ih => rw [List.foldl_cons, ih, waiters_deliver]

lemma lookup_remove_self : (r.remove id).waiters.lookup id = none := by
  unfold remove
  split
  · exact AList.lookup_erase ..
  · assumption

lemma lookup_remove_of_ne (h : id' ≠ id) :
    (r.remove id).waiters.lookup id' = r.waiters.lookup id' := by
  unfold remove
  split
  · exact AList.lookup_erase_ne h
  · rfl

lemma lookup_insert_self :
    (r.insert id gen).waiters.lookup id = some ⟨r.nextChannel, false, 0, none, gen⟩ :=
  AList.lookup_insert ..

lemma lookup_insert_of_ne (h : id' ≠ id) :
    (r.insert id gen).waiters.lookup id' = r.waiters.lookup id' :=
  AList.lookup_insert_ne h

lemma lookup_route_self {ok : Bool} : (r.route id ok).waiters.lookup id = none := by
  unfold route
  split
  · exact AList.lookup_erase ..
  · assumption

lemma lookup_route_of_ne {ok : Bool} (h : id' ≠ id) :
    (r.route id ok).waiters.lookup id' = r.waiters.lookup id' := by
  unfold route
  split
  · exact AList.lookup_erase_ne h
  · rfl

lemma lookup_modify_self :
    (r.modify id f).waiters.lookup id = (r.waiters.lookup id).map f := by
  unfold modify
  split
  · rename_i h
    rw [h]
    exact AList.lookup_insert ..
  · rename_i h
    rw [h]
    rfl

lemma lookup_modify_of_ne (h : id' ≠ id) :
    (r.modify id f).waiters.lookup id' = r.waiters.lookup id' := by
  unfold modify
  split
  · exact AList.lookup_insert_ne h
  · rfl

lemma waiters_route_eq_iff {ok : Bool} :
    (r.route id ok).waiters = r.waiters ↔ r.waiters.lookup id = none := by
  constructor
  · intro h
    rw [← h]
    exact lookup_route_self
  · intro h
    simp [route, h]

lemma waiters_notePending_eq_iff {asyncId : Option ℕ} :
    (r.notePending id asyncId).waiters = r.waiters ↔ r.waiters.lookup id = none := by
  constructor
  · intro h
    have hself : (r.notePending id asyncId).waiters.lookup id = _ := lookup_modify_self
    cases hx : r.waiters.lookup id with
    | none => rfl
    | some x =>
      rw [h, hx] at hself
      simpa using congrArg Waiter.activity (Option.some.inj hself)
  · intro h
    simp [notePending, modify, h]

/-! ## An empty map -/

lemma remove_of_empty (h : r.waiters = ∅) : r.remove id = r := by
  simp [remove, h]

lemma modify_of_empty (h : r.waiters = ∅) : r.modify id f = r := by
  simp [modify, h]

lemma route_of_empty {ok : Bool} (h : r.waiters = ∅) : r.route id ok = r := by
  simp [route, h]

lemma foldl_markSent_of_empty (gs : List Guard) (h : r.waiters = ∅) :
    gs.foldl (fun r g => r.markSent g.id) r = r := by
  induction gs with
  | nil => rfl
  | cons g gs ih =>
    rw [List.foldl_cons, markSent, modify_of_empty h]
    exact ih

end Smb2.Connection.Routing
