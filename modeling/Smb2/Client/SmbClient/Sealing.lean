import Smb2.Client.SmbClient.Runs

set_option autoImplicit false

/-!
# Shares that require encryption

A tree of a share that requires encryption is used encrypted if its connection encrypts. It does once
`connect_share` has activated encryption, and until a revival wipes the connection; nothing else
that hands out a tree makes it encrypt.
-/

open List

namespace Smb2

open World SmbClient Prog

namespace Event

/-- **Encrypted use**: a request for a tree of a share that requires encryption leaves encrypted. -/
def Sealed : Event → Prop
  | .sent _ (some h) _ wire => h.tree.encryptData = true → wire ≠ .plain
  | _ => True

instance (e : Event) : Decidable e.Sealed :=
  match e with
  | .sent _ (some h) _ wire =>
    inferInstanceAs (Decidable (h.tree.encryptData = true → wire ≠ .plain))
  | .sent _ none _ _ | .connected _ | .called _ _ _ | .installed _ | .established _ _ _
  | .pooled _ _ | .refreshed _ _ | .sharing _ | .activated _ _ _ | .panicked =>
    inferInstanceAs (Decidable True)

/-- **The condition on a request**: it is sent on the connection that issued the tree, which has not
been wiped since, and which was encrypting already when it issued the tree, or the tree comes from
`connect_share` and the session had keys. -/
def SealingFits : Event → Prop
  | .sent c (some h) installs _ =>
    h.tree.encryptData = true → c = h.issuer ∧ installs = h.installs ∧ h.secured = true
  | _ => True

instance (e : Event) : Decidable e.SealingFits :=
  match e with
  | .sent c (some h) installs _ =>
    inferInstanceAs (Decidable (h.tree.encryptData = true →
      c = h.issuer ∧ installs = h.installs ∧ h.secured = true))
  | .sent _ none _ _ | .connected _ | .called _ _ _ | .installed _ | .established _ _ _
  | .pooled _ _ | .refreshed _ _ | .sharing _ | .activated _ _ _ | .panicked =>
    inferInstanceAs (Decidable True)

end Event

/-! ## Connections -/

namespace Conn

/-- **A later state of a connection**: until it is wiped, it does not stop encrypting. -/
structure Later (c c' : Conn) : Prop where
  installs_le : c.installs ≤ c'.installs
  encrypts : c.installs = c'.installs → c.crypto.shouldEncrypt = true →
    c'.crypto.shouldEncrypt = true

variable {c c' : Conn}

lemma Later.of_eq (hinstalls : c'.installs = c.installs)
    (hencrypts : c.crypto.shouldEncrypt = true → c'.crypto.shouldEncrypt = true) : Later c c' :=
  ⟨hinstalls.ge, fun _ => hencrypts⟩

lemma later_refl (c : Conn) : Later c c := .of_eq rfl id

lemma later_send (c : Conn) : Later c c.send.2 := by
  refine .of_eq ?_ fun h => (shouldEncrypt_send c).trans h
  unfold send
  split
  · rfl
  · split <;> rfl

lemma later_install (c : Conn) : Later c c.install :=
  ⟨Nat.le_succ _, fun h => absurd h (Nat.lt_succ_self _).ne⟩

lemma later_establish (c : Conn) (params : NegotiatedParams) (s : Session) :
    Later c (c.establish params s) := by
  refine .of_eq rfl fun h => ?_
  simp only [establish, Session.activate]
  split
  · rfl
  · split <;> exact h

lemma encryptBytes_ne_plain (crypto : Connection.CryptoState) :
    crypto.encryptBytes.1 ≠ some .plain := by
  unfold Connection.CryptoState.encryptBytes
  split
  · split
    · dsimp only
      split <;> simp
    · simp
  · simp

lemma send_ne_plain (h : c.crypto.shouldEncrypt = true) : c.send.1 ≠ some .plain := by
  by_cases hdead : c.disconnected = true
  · rw [send, if_pos hdead]
    simp
  · rw [send, if_neg hdead, if_pos h]
    exact encryptBytes_ne_plain c.crypto

end Conn

namespace World

variable {P : MacPrimitives} {w w' : World} {h : Held} {c : ConnId}
  {ctx : Option (ConnId × Option Held)}

lemma later_update {i : ConnId} {conns : ConnId → Conn} {conn : Conn}
    (hlater : (conns c).Later conn) : (conns i).Later (Function.update conns c conn i) :=
  (Function.forall_update_iff conns fun j x => (conns j).Later x).2
    ⟨hlater, fun _ _ => Conn.later_refl _⟩ i

lemma Effect.later (heffect : Effect P ctx w w') (i : ConnId) : (w.conns i).Later (w'.conns i) := by
  cases heffect with
  | nothing => exact Conn.later_refl _
  | send c h _ =>
    rw [conns_send]
    exact later_update (Conn.later_send _)
  | markDead c => exact later_update (.of_eq rfl id)
  | install _ => exact later_update (Conn.later_install _)
  | establish params outcome _ =>
    refine later_update (.of_eq rfl ?_)
    exact (Conn.later_establish w.primary params (Session.ofOutcome P params outcome)).encrypts rfl

/-! ## The invariant -/

/-- **A tree whose connection encrypts**, if the tree requires it and its origin vouches for it. -/
structure Secured (w : World) (h : Held) : Prop where
  issuer_lt : h.issuer < w.nextConn
  installs_le : h.installs ≤ (w.conns h.issuer).installs
  encrypts : h.tree.encryptData = true → h.secured = true →
    h.installs = (w.conns h.issuer).installs → (w.conns h.issuer).crypto.shouldEncrypt = true

lemma Secured.mono (hh : Secured w h) (hnext : w.nextConn ≤ w'.nextConn)
    (hlater : (w.conns h.issuer).Later (w'.conns h.issuer)) : Secured w' h where
  issuer_lt := Nat.lt_of_lt_of_le hh.issuer_lt hnext
  installs_le := hh.installs_le.trans hlater.installs_le
  encrypts := by
    intro hdata hsecured hinstalls
    have hsame : h.installs = (w.conns h.issuer).installs :=
      hh.installs_le.antisymm (hinstalls ▸ hlater.installs_le)
    exact hlater.encrypts (hsame.symm.trans hinstalls) (hh.encrypts hdata hsecured hsame)

lemma Secured.same (hh : Secured w h) (hnext : w'.nextConn = w.nextConn)
    (hconns : w'.conns = w.conns) : Secured w' h :=
  hh.mono hnext.ge (hconns ▸ Conn.later_refl _)

structure Sealing (w : World) : Prop where
  conn_lt : w.client.conn < w.nextConn
  extra_lt : ∀ p ∈ w.client.extraConnections, p.2 < w.nextConn
  trees : ∀ h ∈ w.trees, Secured w h
  streams : ∀ p ∈ w.streams, Secured w p.2
  sent : ∀ e ∈ w.log, e.SealingFits → e.Sealed

lemma Sealing.lt_of_connectionFor (hw : Sealing w) {server : List Char}
    (hconn : w.connectionFor server = some c) : c < w.nextConn := by
  unfold connectionFor at hconn
  split at hconn
  · obtain rfl := Option.some.inj hconn
    exact hw.conn_lt
  · obtain ⟨before, after, heq, -⟩ := lookup_eq_some_iff.1 hconn
    exact hw.extra_lt (server, c) (by rw [heq]; simp)

lemma Sealing.extend (hw : Sealing w) (hclient : w'.client = { w.client with
      session := w'.client.session }) (hnext : w'.nextConn = w.nextConn) (htrees : w'.trees = w.trees)
    (hstreams : w'.streams = w.streams) (hlater : ∀ i, (w.conns i).Later (w'.conns i))
    (es : List Event) (hlog : w'.log = w.log ++ es) (hes : ∀ e ∈ es, e.SealingFits → e.Sealed) :
    Sealing w' where
  conn_lt := by
    rw [hclient, hnext]
    exact hw.conn_lt
  extra_lt := by
    rw [hclient, hnext]
    exact hw.extra_lt
  trees := fun h hh => (hw.trees h (htrees ▸ hh)).mono hnext.ge (hlater h.issuer)
  streams := fun p hp => (hw.streams p (hstreams ▸ hp)).mono hnext.ge (hlater p.2.issuer)
  sent := by
    rw [hlog]
    intro e he
    rcases mem_append.1 he with he | he
    · exact hw.sent e he
    · exact hes e he

lemma Secured.sealed (hh : Secured w h) {wire : Wire} (hsend : (w.conns c).send.1 = some wire)
    (hfits : (Event.sent c (some h) (w.conns c).installs wire).SealingFits) :
    (Event.sent c (some h) (w.conns c).installs wire).Sealed := by
  intro hdata
  obtain ⟨rfl, hinstalls, hsecured⟩ := hfits hdata
  have hencrypts := hh.encrypts hdata hsecured hinstalls.symm
  rintro rfl
  exact Conn.send_ne_plain hencrypts hsend

lemma Sealing.act (hw : Sealing w) (hctx : ∀ c h, ctx = some (c, some h) → Secured w h)
    (heffect : Effect P ctx w w') : Sealing w' := by
  have hlater := heffect.later
  cases heffect with
  | nothing => exact hw
  | send c h hfrom =>
    obtain ⟨conns, log, heq⟩ := send_eq w c h
    refine hw.extend (by rw [heq]) (by rw [heq]) (by rw [heq]) (by rw [heq]) hlater _
      (log_send w c h) ?_
    intro e he
    obtain ⟨wire, hsend, rfl⟩ := by simpa using he
    cases h with
    | none => exact fun _ => trivial
    | some h =>
      rcases hfrom with rfl | ⟨h', hh', hmem⟩ | ⟨hnone, -⟩
      · exact (hctx c h rfl).sealed hsend
      · cases hh'
        exact (hw.streams _ hmem).sealed hsend
      · cases hnone
  | markDead c => exact hw.extend rfl rfl rfl rfl hlater [] (append_nil _).symm (by simp)
  | install _ => exact hw.extend rfl rfl rfl rfl hlater _ rfl (by simp [Event.Sealed])
  | establish _ _ _ => exact hw.extend rfl rfl rfl rfl hlater _ rfl (by simp [Event.Sealed])

lemma sealing_stable (P : MacPrimitives) : Stable P Sealing (fun w _ h => Secured w h) where
  script _ hw := hw.extend rfl rfl rfl rfl (fun _ => Conn.later_refl _) []
    (append_nil _).symm (by simp)
  act hw hctx heffect := hw.act hctx heffect
  script_uses _ hh := hh.same rfl rfl
  act_uses {w w' _ _ h} hh heffect := by
    refine hh.mono ?_ (heffect.later h.issuer)
    obtain ⟨conns, log, rfl⟩ := heffect.eq
    exact Nat.le_refl _

structure Granted (h : Held) (w : World) : Prop extends OnPrimary h w where
  sealing : Sealing w
  installs_le : h.installs ≤ w.primary.installs

lemma granted_stable (P : MacPrimitives) (h : Held) :
    Stable P (Granted h) (fun w _ h => Secured w h) where
  script s hw := ⟨⟨hw.server, hw.issuer⟩, (sealing_stable P).script s hw.sealing, hw.installs_le⟩
  act {w w' ctx} hw hctx heffect := by
    have hlater := heffect.later w.client.conn
    have hsealing := hw.sealing.act hctx heffect
    obtain ⟨conns, log, rfl⟩ := heffect.eq
    exact ⟨⟨hw.server, hw.issuer⟩, hsealing, hw.installs_le.trans hlater.installs_le⟩
  script_uses {_ c _} s hh := (sealing_stable P).script_uses (c := c) s hh
  act_uses {_ _ _ c _} hh heffect := (sealing_stable P).act_uses (c := c) hh heffect

lemma sealing_sharing (P : MacPrimitives) :
    Sharing P Sealing Secured (fun w _ h => Secured w h) Sealing Granted
      (fun h _ _ => Granted h) where
  connecting := sealing_stable P
  connected := granted_stable P
  activating h _ _ := granted_stable P h
  enter {w} hw := hw.extend rfl rfl rfl rfl (fun _ => Conn.later_refl _)
    [.refreshed w.refreshSession.client.session w.primary.session, .sharing w.primary.session]
    (append_assoc _ _ _) (by simp [Event.Sealed])
  leave hw := hw
  granted hw := ⟨⟨rfl, rfl⟩, hw, Nat.le_refl _⟩
  skip {w h} hw hskip := by
    refine ⟨hw.sealing.extend rfl rfl rfl rfl (fun _ => Conn.later_refl _) []
      (append_nil _).symm (by simp), ⟨?_, ?_, ?_⟩, hw.connectionFor⟩
    · exact hw.issuer ▸ hw.sealing.conn_lt
    · exact hw.issuer ▸ hw.installs_le
    · intro hdata hsecured _
      show (w.conns h.issuer).crypto.shouldEncrypt = true
      rw [hw.issuer]
      by_contra hoff
      have hfalse : w.primary.crypto.shouldEncrypt = false := Bool.eq_false_iff.2 hoff
      have hkeys : (w.primary.crypto.shouldEncrypt || (w.client.session.encryptionKey.isSome &&
        w.client.session.decryptionKey.isSome)) = true := hsecured
      rw [hfalse, Bool.false_or, Bool.and_eq_true_iff] at hkeys
      exact hskip ⟨hdata, hfalse, hkeys⟩
  need hw _ _ _ := hw
  activate {w h encKey decKey} cipher hw := by
    have hlater : w.primary.Later { w.primary with
        crypto := w.primary.crypto.activateEncryption encKey decKey cipher } :=
      .of_eq rfl fun _ => rfl
    refine ⟨hw.sealing.extend rfl rfl rfl rfl (fun _ => later_update hlater)
      [.activated encKey decKey w.primary.session] rfl (by simp [Event.Sealed]), ⟨?_, ?_, ?_⟩,
      hw.connectionFor⟩
    · exact hw.issuer ▸ hw.sealing.conn_lt
    · show h.installs ≤ (Function.update w.conns w.client.conn _ h.issuer).installs
      rw [hw.issuer, Function.update_self]
      exact hw.installs_le
    · intro _ _ _
      show (Function.update w.conns w.client.conn _ h.issuer).crypto.shouldEncrypt = true
      rw [hw.issuer, Function.update_self]
      rfl

lemma Sealing.addConnection (hw : Sealing w) (target : List Char) (params : NegotiatedParams)
    (outcome : SetupOutcome) : Sealing (w.addConnection P target params outcome) := by
  have hold : ∀ h, Secured w h → Secured (w.addConnection P target params outcome) h := by
    intro h hh
    refine hh.mono (Nat.le_succ _) ?_
    show (w.conns h.issuer).Later (Function.update w.conns w.nextConn _ h.issuer)
    rw [Function.update_of_ne hh.issuer_lt.ne]
    exact Conn.later_refl _
  refine ⟨Nat.lt_succ_of_lt hw.conn_lt, ?_, fun h hh => hold h (hw.trees h hh),
    fun p hp => hold p.2 (hw.streams p hp), ?_⟩
  · intro p hp
    rcases mem_cons.1 hp with rfl | hp
    · exact Nat.lt_succ_self _
    · exact Nat.lt_succ_of_lt (hw.extra_lt p hp)
  · exact Transition.forall_mem_concat hw.sent fun _ => trivial

lemma sealing_kept (P : MacPrimitives) : Kept P Sealing Secured (fun w _ h => Secured w h) where
  toStable := sealing_stable P
  trees hw hh := hw.trees _ hh
  refresh {w} hw := hw.extend rfl rfl rfl rfl (fun _ => Conn.later_refl _)
    [.refreshed w.refreshSession.client.session w.primary.session] rfl (by simp [Event.Sealed])
  endShare hw := hw.extend rfl rfl rfl rfl (fun _ => Conn.later_refl _) []
    (append_nil _).symm (by simp)
  share := (sealing_sharing P).connectShare
  grant hw hconn := ⟨hw.lt_of_connectionFor hconn, Nat.le_refl _, fun _ hsecured _ => hsecured⟩
  addConnection params outcome hw _ := hw.addConnection _ params outcome
  markDead hw := hw.extend rfl rfl rfl rfl (fun _ => later_update (.of_eq rfl id)) []
    (append_nil _).symm (by simp)
  clearPool hw := ⟨hw.conn_lt, by simp [clearPool],
    fun h hh => (hw.trees h hh).same rfl rfl, fun p hp => (hw.streams p hp).same rfl rfl, hw.sent⟩
  setTree {w h} slot hw hh :=
    { hw with
      trees := Transition.forall_mem_set (hh.same rfl rfl)
        fun h' hold => (hw.trees h' hold).same rfl rfl
      streams := fun p hp => (hw.streams p hp).same rfl rfl }
  setTree_good _ hh := hh.same rfl rfl
  addTree {w h} hw hh :=
    { hw with
      trees := Transition.forall_mem_concat (fun h' hold => (hw.trees h' hold).same rfl rfl)
        (hh.same rfl rfl)
      streams := fun p hp => (hw.streams p hp).same rfl rfl }
  addStream {w c h} hw hh :=
    { hw with
      trees := fun h' hmem => (hw.trees h' hmem).same rfl rfl
      streams := Transition.forall_mem_concat (fun p hold => (hw.streams p hold).same rfl rfl)
        (hh.same rfl rfl) }
  uses_fresh hh _ := hh
  called m hw _ := hw.extend rfl rfl rfl rfl (fun _ => Conn.later_refl _) _ rfl
    (by simp [Event.Sealed])
  uses_called _ hh _ := hh.same rfl rfl
  panicked {w h m} hw _ _ _ := hw.extend rfl rfl rfl rfl (fun _ => Conn.later_refl _)
    [.called m h w.cleared, .panicked] (append_assoc _ _ _) (by simp [Event.Sealed])

lemma sealing_connected (P : MacPrimitives) (config : ClientConfig) (params : NegotiatedParams)
    (outcome : SetupOutcome) (script : List Input) :
    Sealing (World.connected P config params outcome script) where
  conn_lt := Nat.one_pos
  extra_lt := by simp [World.connected]
  trees := by simp [World.connected]
  streams := by simp [World.connected]
  sent := by simp [World.connected, Event.Sealed]

/-- **Requests for encrypted shares are encrypted.** In every run, every request for a tree of a
share that requires encryption leaves encrypted, if it is sent on the connection that issued the
tree, this connection has not been wiped since, and it was encrypting when it issued the tree or
`connect_share` had the session's keys. -/
theorem requests_sealed {P : MacPrimitives} {config : ClientConfig} {params : NegotiatedParams}
    {outcome : SetupOutcome} {script : List Input} {calls : List Call} {w : World}
    (hrun : Transition.exec (World.step P) (World.connected P config params outcome script) calls =
      some w) : ∀ e ∈ w.log, e.SealingFits → e.Sealed :=
  ((sealing_kept P).run (sealing_connected P config params outcome script) hrun).sent

theorem requests_sealed_connectShare :
    ∃ w, Sample.run [.connectShare "s".toList, .operation .stat 0, .operation .readFile 0]
        (Sample.shared true ++ [Sample.answered .done, Sample.answered .done]) = some w ∧
      w.trees.map (·.tree.encryptData) = [true] ∧ ∀ e ∈ w.log, e.Sealed := by
  have hrun : ∃ w, Sample.run
      [.connectShare "s".toList, .operation .stat 0, .operation .readFile 0]
        (Sample.shared true ++ [Sample.answered .done, Sample.answered .done]) = some w ∧
      w.trees.map (·.tree.encryptData) = [true] ∧ ∀ e ∈ w.log, e.SealingFits :=
    Sample.exists_run (by decide +kernel)
  obtain ⟨w, hrun, htrees, hfits⟩ := hrun
  exact ⟨w, hrun, htrees, fun e he => requests_sealed hrun e he (hfits e he)⟩

/-- **A redirect leaves the share in the clear**: the target requires encryption, and the request
that is tried again on it is sent in the clear. -/
theorem redirected_in_the_clear :
    ∃ w, Sample.redirect true [] [] = some w ∧
      w.trees.map (·.tree.encryptData) = [true] ∧ ¬ ∀ e ∈ w.log, e.Sealed :=
  Sample.exists_run (by decide +kernel)

end World

end Smb2
