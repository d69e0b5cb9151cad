import Smb2.Client.SmbClient.Runs

set_option autoImplicit false

/-!
# Which connection a tree is used on

A tree of the primary server belongs to the primary connection, any other one to the connection that
the pool has for its server, as long as the pool has not been cleared since. A method that looks the
connection up finds it; one that takes the primary connection does not ask.
-/

open List

namespace Smb2

open World SmbClient Prog

namespace Event

/-- **The claimed connection**: a request for a tree goes to the connection that issued it. -/
def ToIssuer : Event → Prop
  | .sent c (some h) _ _ => c = h.issuer
  | _ => True

instance (e : Event) : Decidable e.ToIssuer := by
  unfold ToIssuer
  split <;> infer_instance

/-- **The condition on a call**: the tree is one of the primary server, or the method looks its
connection up and the pool has not been cleared since the tree was returned. -/
def RoutingFits (addr : List Char) : Event → Prop
  | .called m h cleared => h.tree.server = addr ∨ m.plan.routed = true ∧ h.cleared = cleared
  | _ => True

instance (addr : List Char) (e : Event) : Decidable (e.RoutingFits addr) := by
  unfold RoutingFits
  split <;> infer_instance

def PoolFits (addr : List Char) : Event → Prop
  | .called m h cleared => h.tree.server = addr ∨ h.cleared = cleared ∨ m.plan.routed = false
  | _ => True

instance (addr : List Char) (e : Event) : Decidable (e.PoolFits addr) := by
  unfold PoolFits
  split <;> infer_instance

end Event

namespace World

variable {P : MacPrimitives} {addr : List Char} {w w' : World} {h : Held} {c : ConnId}

/-- **Where a tree belongs**: with the primary server, or with a pool that has not been cleared
since, its lookup finds its issuer. -/
structure Placed (w : World) (h : Held) : Prop where
  cleared_le : h.cleared ≤ w.cleared
  lookup : h.tree.server = w.client.primaryServer ∨ h.cleared = w.cleared →
    w.connectionFor h.tree.server = some h.issuer

def OnIssuer (addr : List Char) (w : World) (c : ConnId) (h : Held) : Prop :=
  (∀ e ∈ w.log, e.RoutingFits addr) → c = h.issuer

structure Routing (addr : List Char) (w : World) : Prop where
  config : w.client.config.addr = addr
  server : w.client.primaryServer = addr
  placed : ∀ h ∈ w.trees, Placed w h
  streams : ∀ p ∈ w.streams, OnIssuer addr w p.1 p.2
  sent : (∀ e ∈ w.log, e.RoutingFits addr) → ∀ e ∈ w.log, e.ToIssuer
  quiet : (∀ e ∈ w.log, e.PoolFits addr) → Event.panicked ∉ w.log

lemma OnIssuer.mono (h' : OnIssuer addr w c h) (hlog : ∃ es, w'.log = w.log ++ es) :
    OnIssuer addr w' c h := by
  obtain ⟨es, hes⟩ := hlog
  intro hfits
  exact h' fun e he => hfits e (by rw [hes]; exact mem_append_left es he)

lemma Placed.congr (hh : Placed w h) (hclient : w'.client = w.client)
    (hcleared : w'.cleared = w.cleared) : Placed w' h := by
  refine ⟨hcleared ▸ hh.cleared_le, ?_⟩
  rw [connectionFor, hclient, hcleared]
  exact hh.lookup

structure Carries (w w' : World) : Prop where
  config : w'.client.config = w.client.config
  server : w'.client.primaryServer = w.client.primaryServer
  placed : ∀ h, Placed w h → Placed w' h
  trees : w'.trees = w.trees
  streams : w'.streams = w.streams

lemma Carries.of_same (hclient : w'.client = { w.client with session := w'.client.session })
    (hcleared : w'.cleared = w.cleared) (htrees : w'.trees = w.trees)
    (hstreams : w'.streams = w.streams) : Carries w w' where
  config := by rw [hclient]
  server := by rw [hclient]
  placed := by
    intro h hh
    have hlookup : w'.connectionFor h.tree.server = w.connectionFor h.tree.server := by
      rw [connectionFor, connectionFor, hclient]
    refine ⟨hcleared ▸ hh.cleared_le, ?_⟩
    rw [hlookup, hcleared, hclient]
    exact hh.lookup
  trees := htrees
  streams := hstreams

lemma Routing.extend (hw : Routing addr w) (hcarries : Carries w w') (es : List Event)
    (hlog : w'.log = w.log ++ es) (hquiet : (∀ e ∈ es, e.PoolFits addr) → Event.panicked ∉ es)
    (hsent : (∀ e ∈ w.log, e.RoutingFits addr) → ∀ e ∈ es, e.ToIssuer) : Routing addr w' where
  config := hcarries.config ▸ hw.config
  server := hcarries.server ▸ hw.server
  placed := fun h hh => hcarries.placed h (hw.placed h (hcarries.trees ▸ hh))
  streams := fun p hp => (hw.streams p (hcarries.streams ▸ hp)).mono ⟨es, hlog⟩
  sent := by
    rw [hlog]
    intro hall e he
    obtain ⟨hold, -⟩ := forall_mem_append.1 hall
    rcases mem_append.1 he with he | he
    · exact hw.sent hold e he
    · exact hsent hold e he
  quiet := by
    rw [hlog]
    intro hall hpanic
    obtain ⟨hold, hnew⟩ := forall_mem_append.1 hall
    rcases mem_append.1 hpanic with he | he
    · exact hw.quiet hold he
    · exact hquiet hnew he

lemma Routing.same (hw : Routing addr w) (hcarries : Carries w w') (hlog : w'.log = w.log) :
    Routing addr w' :=
  hw.extend hcarries [] (by rw [hlog, append_nil]) (by simp) (by simp)

lemma Effect.carries {ctx : Option (ConnId × Option Held)} (heffect : Effect P ctx w w') :
    Carries w w' := by
  obtain ⟨conns, log, rfl⟩ := heffect.eq
  exact .of_same rfl rfl rfl rfl

lemma Routing.act {ctx : Option (ConnId × Option Held)} (hw : Routing addr w)
    (hctx : ∀ c h, ctx = some (c, some h) → OnIssuer addr w c h) (heffect : Effect P ctx w w') :
    Routing addr w' := by
  have hcarries := heffect.carries
  cases heffect with
  | nothing => exact hw
  | send c h hfrom =>
    refine hw.extend hcarries _ (log_send w c h) (by simp) ?_
    intro hfits e he
    obtain ⟨wire, -, rfl⟩ := by simpa using he
    cases h with
    | none => trivial
    | some h =>
      rcases hfrom with rfl | ⟨h', hh', hmem⟩ | ⟨hnone, -⟩
      · exact hctx c h rfl hfits
      · cases hh'
        exact hw.streams _ hmem hfits
      · cases hnone
  | markDead c => exact hw.same hcarries rfl
  | install _ => exact hw.extend hcarries _ rfl (by simp) (by simp [Event.ToIssuer])
  | establish _ _ _ => exact hw.extend hcarries _ rfl (by simp) (by simp [Event.ToIssuer])

lemma routing_stable (P : MacPrimitives) (addr : List Char) :
    Stable P (Routing addr) (OnIssuer addr) where
  script _ hw := hw.same (.of_same rfl rfl rfl rfl) rfl
  act hw hctx heffect := hw.act hctx heffect
  script_uses _ h := h
  act_uses h heffect := h.mono heffect.log_append

lemma calm_fresh (h : Held) : Calm (Fresh Placed h) where
  keep := fun _ _ _ _ hw => ⟨⟨hw.1.cleared_le, hw.1.lookup⟩, hw.2⟩

lemma connectionFor_addConnection {target server : List Char} {params : NegotiatedParams}
    {outcome : SetupOutcome} (hnew : w.connectionFor target = none)
    (hold : w.connectionFor server = some c) :
    (w.addConnection P target params outcome).connectionFor server = some c := by
  have hne : server ≠ target := by
    rintro rfl
    rw [hnew] at hold
    cases hold
  show (if server = w.client.primaryServer then some w.client.conn
    else lookup server ((target, w.nextConn) :: w.client.extraConnections)) = some c
  rw [lookup_cons, beq_eq_false_iff_ne.2 hne]
  exact hold

lemma carries_addConnection {target : List Char} (params : NegotiatedParams)
    (outcome : SetupOutcome) (hnew : w.connectionFor target = none) :
    Carries w (w.addConnection P target params outcome) where
  config := rfl
  server := rfl
  placed := fun _ hh => ⟨hh.cleared_le, fun hwhere =>
    connectionFor_addConnection hnew (hh.lookup hwhere)⟩
  trees := rfl
  streams := rfl

lemma Routing.carries_clearPool (hw : Routing addr w) : Carries w w.clearPool where
  config := rfl
  server := hw.config.trans hw.server.symm
  placed := by
    intro h hh
    refine ⟨Nat.le_succ_of_le hh.cleared_le, ?_⟩
    have hprimary : w.clearPool.client.primaryServer = w.client.primaryServer :=
      hw.config.trans hw.server.symm
    rintro (hserver | hcleared)
    · rw [hprimary] at hserver
      have hissuer := hh.lookup (.inl hserver)
      rw [connectionFor, if_pos hserver] at hissuer
      rw [connectionFor, hprimary, if_pos hserver]
      exact hissuer
    · have hlt : h.cleared < w.clearPool.cleared := Nat.lt_succ_of_le hh.cleared_le
      exact absurd hcleared hlt.ne
  trees := rfl
  streams := rfl

lemma routing_sharing (P : MacPrimitives) (addr : List Char) :
    Sharing P (Routing addr) Placed (OnIssuer addr) (Routing addr)
      (fun h w => Routing addr w ∧ Fresh Placed h w)
      (fun h _ _ w => Routing addr w ∧ Fresh Placed h w) where
  connecting := routing_stable P addr
  connected h := (routing_stable P addr).and_calm (calm_fresh h)
  activating h _ _ := (routing_stable P addr).and_calm (calm_fresh h)
  enter {w} hw := hw.extend (.of_same rfl rfl rfl rfl)
    [.refreshed w.refreshSession.client.session w.primary.session, .sharing w.primary.session]
    (append_assoc _ _ _) (by simp) (by simp [Event.ToIssuer])
  leave hw := hw
  granted {w _ _ _ _} hw := by
    have hconn : w.connectionFor w.client.primaryServer = some w.client.conn := if_pos rfl
    exact ⟨hw, ⟨Nat.le_refl _, fun _ => hconn⟩, hconn⟩
  skip hw _ := ⟨hw.1.same (.of_same rfl rfl rfl rfl) rfl,
    ⟨hw.2.1.cleared_le, hw.2.1.lookup⟩, hw.2.2⟩
  need hw _ _ _ := hw
  activate {w _ encKey decKey} _ hw :=
    ⟨hw.1.extend (.of_same rfl rfl rfl rfl) [.activated encKey decKey w.primary.session] rfl
      (by simp) (by simp [Event.ToIssuer]), ⟨hw.2.1.cleared_le, hw.2.1.lookup⟩, hw.2.2⟩

lemma Routing.uses_called {m : Method} (hw : Routing addr w) (hh : Placed w h)
    (hroute : if m.plan.routed then w.connectionFor h.tree.server = some c else c = w.client.conn) :
    OnIssuer addr (w.record (.called m h w.cleared)) c h := by
  intro hfits
  have hcall : h.tree.server = addr ∨ m.plan.routed = true ∧ h.cleared = w.cleared :=
    hfits _ (mem_append_right w.log (mem_singleton_self _))
  rw [← hw.server] at hcall
  have hissuer := hh.lookup (hcall.imp_right And.right)
  split at hroute
  · exact Option.some.inj (hroute.symm.trans hissuer)
  · rename_i hfixed
    have hserver : h.tree.server = w.client.primaryServer :=
      hcall.resolve_right fun hrouted => hfixed hrouted.1
    rw [connectionFor, if_pos hserver] at hissuer
    rw [hroute]
    exact Option.some.inj hissuer

lemma Routing.panicked {m : Method} (hw : Routing addr w) (hh : Placed w h)
    (hrouted : m.plan.routed = true) (hnone : w.connectionFor h.tree.server = none) :
    Routing addr ((w.record (.called m h w.cleared)).record .panicked) := by
  refine hw.extend (.of_same rfl rfl rfl rfl) [.called m h w.cleared, .panicked]
    (append_assoc _ _ _) ?_ (by simp [Event.ToIssuer])
  intro hfits
  have hcall : h.tree.server = addr ∨ h.cleared = w.cleared ∨ m.plan.routed = false :=
    hfits _ mem_cons_self
  have hlost : ¬ (h.tree.server = w.client.primaryServer ∨ h.cleared = w.cleared) := by
    intro hwhere
    rw [hh.lookup hwhere] at hnone
    cases hnone
  rw [hw.server] at hlost
  rcases hcall with hserver | hcleared | hfixed
  · exact absurd (.inl hserver) hlost
  · exact absurd (.inr hcleared) hlost
  · rw [hrouted] at hfixed
    cases hfixed

lemma routing_kept (P : MacPrimitives) (addr : List Char) :
    Kept P (Routing addr) Placed (OnIssuer addr) where
  toStable := routing_stable P addr
  trees hw hh := hw.placed _ hh
  refresh {w} hw := hw.extend (.of_same rfl rfl rfl rfl)
    [.refreshed w.refreshSession.client.session w.primary.session] rfl (by simp)
    (by simp [Event.ToIssuer])
  endShare hw := hw.same (.of_same rfl rfl rfl rfl) rfl
  share := (routing_sharing P addr).connectShare
  grant _ hconn := ⟨Nat.le_refl _, fun _ => hconn⟩
  addConnection {w _} params outcome hw hnew :=
    hw.extend (carries_addConnection params outcome hnew)
      [.pooled w.nextConn (Session.ofOutcome P params outcome)] rfl (by simp)
      (by simp [Event.ToIssuer])
  markDead hw := hw.same (.of_same rfl rfl rfl rfl) rfl
  clearPool hw := hw.same hw.carries_clearPool rfl
  setTree {w h} slot hw hh :=
    { hw with
      placed := Transition.forall_mem_set (hh.congr rfl rfl)
        fun h' hold => (hw.placed h' hold).congr rfl rfl }
  setTree_good _ hh := hh.congr rfl rfl
  addTree {w h} hw hh :=
    { hw with
      placed := Transition.forall_mem_concat (fun h' hold => (hw.placed h' hold).congr rfl rfl)
        (hh.congr rfl rfl) }
  addStream {w c h} hw hU :=
    { hw with
      placed := fun h' hmem => (hw.placed h' hmem).congr rfl rfl
      streams := Transition.forall_mem_concat hw.streams hU }
  uses_fresh _ _ := fun _ => rfl
  called m hw _ := hw.extend (.of_same rfl rfl rfl rfl) _ rfl (by simp) (by simp [Event.ToIssuer])
  uses_called hw hh hroute := hw.uses_called hh hroute
  panicked hw hh hrouted hnone := hw.panicked hh hrouted hnone

lemma routing_connected (P : MacPrimitives) (config : ClientConfig) (params : NegotiatedParams)
    (outcome : SetupOutcome) (script : List Input) :
    Routing config.addr (World.connected P config params outcome script) where
  config := rfl
  server := rfl
  placed := by simp [World.connected]
  streams := by simp [World.connected]
  sent := by simp [World.connected, Event.ToIssuer]
  quiet := by simp [World.connected]

/-- **Requests go to the issuer.** In every run whose calls are made with a tree of the primary
server, or by a method that looks its connection up and with a tree that is no older than the pool,
every request for a tree goes to the connection whose TREE_CONNECT returned it. -/
theorem requests_to_issuer {P : MacPrimitives} {config : ClientConfig} {params : NegotiatedParams}
    {outcome : SetupOutcome} {script : List Input} {calls : List Call} {w : World}
    (hrun : Transition.exec (World.step P) (World.connected P config params outcome script) calls =
      some w) (hfits : ∀ e ∈ w.log, e.RoutingFits config.addr) : ∀ e ∈ w.log, e.ToIssuer :=
  ((routing_kept P config.addr).run (routing_connected P config params outcome script) hrun).sent
    hfits

/-- A redirect meets the condition: the tree it leaves with the caller, and its requests, are on the
new connection. -/
theorem requests_to_issuer_redirected :
    ∃ w, Sample.redirect false [.operation .flushFile 0] [Sample.answered .done] = some w ∧
      w.trees.map (·.issuer) = [1] ∧ ∀ e ∈ w.log, e.ToIssuer := by
  have hrun : ∃ w, Sample.redirect false [.operation .flushFile 0] [Sample.answered .done] = some w ∧
      w.trees.map (·.issuer) = [1] ∧ ∀ e ∈ w.log, e.RoutingFits Sample.config.addr :=
    Sample.exists_run (by decide +kernel)
  obtain ⟨w, hrun, htrees, hfits⟩ := hrun
  exact ⟨w, hrun, htrees, requests_to_issuer hrun hfits⟩

/-- **A write with progress goes to the wrong server**: after a redirect its tree is one of the new
connection, and the request is sent on the primary one. -/
theorem writeFileWithProgress_misrouted :
    ∃ w, Sample.redirect false [.operation .writeFileWithProgress 0] [Sample.answered .done] =
        some w ∧
      w.trees.map (·.issuer) = [1] ∧ ¬ ∀ e ∈ w.log, e.ToIssuer :=
  Sample.exists_run (by decide +kernel)

/-- **Lookups succeed.** In every run whose calls are made with a tree of the primary server, or a
tree that is no older than the pool, or by a method that does not look its connection up, no lookup
panics. -/
theorem lookups_succeed {P : MacPrimitives} {config : ClientConfig} {params : NegotiatedParams}
    {outcome : SetupOutcome} {script : List Input} {calls : List Call} {w : World}
    (hrun : Transition.exec (World.step P) (World.connected P config params outcome script) calls =
      some w) (hfits : ∀ e ∈ w.log, e.PoolFits config.addr) : Event.panicked ∉ w.log :=
  ((routing_kept P config.addr).run (routing_connected P config params outcome script) hrun).quiet
    hfits

theorem lookups_succeed_redirected :
    ∃ w, Sample.redirect false [.operation .stat 0] [Sample.answered .done] = some w ∧
      w.trees.map (·.issuer) = [1] ∧ Event.panicked ∉ w.log := by
  have hrun : ∃ w, Sample.redirect false [.operation .stat 0] [Sample.answered .done] = some w ∧
      w.trees.map (·.issuer) = [1] ∧ ∀ e ∈ w.log, e.PoolFits Sample.config.addr :=
    Sample.exists_run (by decide +kernel)
  obtain ⟨w, hrun, htrees, hfits⟩ := hrun
  exact ⟨w, hrun, htrees, lookups_succeed hrun hfits⟩

/-- **A call after a reconnect panics**: the tree that a redirect has left with the caller belongs to
a server that the pool no longer has. -/
theorem stat_panics_after_reconnect :
    ∃ w, Sample.redirect false [.reconnect, .operation .stat 0] [Sample.revived 2 2] = some w ∧
      Event.panicked ∈ w.log :=
  Sample.exists_run (by decide +kernel)

end World

end Smb2
