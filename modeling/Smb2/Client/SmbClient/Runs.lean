import Smb2.Client.SmbClient.Model

set_option autoImplicit false

/-!
# Invariants of the client

What the methods of the client do to a world is a sequence of small changes. An invariant that
every small change keeps is kept by every method and by every sequence of calls; this is shown once,
for any invariant.
-/

open List Option

namespace Smb2

open SmbClient Prog

/-! ## What tasks leave alone -/

namespace Conn

lemma session_send (c : Conn) : c.send.2.session = c.session := by
  unfold send
  split
  · rfl
  · split <;> rfl

lemma shouldEncrypt_encryptBytes (crypto : Connection.CryptoState) :
    crypto.encryptBytes.2.shouldEncrypt = crypto.shouldEncrypt := by
  unfold Connection.CryptoState.encryptBytes
  split
  · split <;> rfl
  · rfl

lemma shouldEncrypt_send (c : Conn) : c.send.2.crypto.shouldEncrypt = c.crypto.shouldEncrypt := by
  unfold send
  split
  · rfl
  · split
    · exact shouldEncrypt_encryptBytes c.crypto
    · rfl

end Conn

namespace World

variable {P : MacPrimitives} {ctx : Option (ConnId × Option Held)} {w : World}

lemma send_eq (w : World) (c : ConnId) (h : Option Held) :
    ∃ conns log, w.send c h = { w with conns := conns, log := log } := by
  unfold send
  dsimp only
  split
  · exact ⟨_, _, rfl⟩
  · exact ⟨_, w.log, rfl⟩

lemma log_send (w : World) (c : ConnId) (h : Option Held) :
    (w.send c h).log = w.log ++ ((w.conns c).send.1.map (.sent c h (w.conns c).installs)).toList := by
  unfold send
  dsimp only
  split
  · rename_i wire hwire
    rw [hwire]
    rfl
  · rename_i hnone
    rw [hnone]
    exact (append_nil _).symm

lemma conns_send (w : World) (c : ConnId) (h : Option Held) :
    (w.send c h).conns = Function.update w.conns c (w.conns c).send.2 := by
  unfold send
  dsimp only
  split <;> rfl

/-- Where a request that a task sends comes from: the method that waits, an object that sends on its
own, or somewhere else, for no tree. -/
def From (ctx : Option (ConnId × Option Held)) (w : World) (c : ConnId) (h : Option Held) : Prop :=
  ctx = some (c, h) ∨ (∃ h', h = some h' ∧ (c, h') ∈ w.streams) ∨ h = none ∧ c < w.nextConn

inductive Effect (P : MacPrimitives) (ctx : Option (ConnId × Option Held)) (w : World) :
    World → Prop
  | nothing : Effect P ctx w w
  | send (c : ConnId) (h : Option Held) (hfrom : From ctx w c h) : Effect P ctx w (w.send c h)
  | markDead (c : ConnId) :
    Effect P ctx w (w.setConn c { w.conns c with disconnected := true })
  | install (hdead : w.primary.disconnected = true) :
    Effect P ctx w ((w.setConn w.client.conn w.primary.install).record (.installed w.sharing))
  | establish (params : NegotiatedParams) (outcome : SetupOutcome)
    (hnone : w.primary.session = none) :
    Effect P ctx w
      ((w.setConn w.client.conn
        { w.primary.establish params (Session.ofOutcome P params outcome) with
          revivals := w.primary.revivals + 1 }).record
        (.established (Session.ofOutcome P params outcome) w.client.session w.sharing))

lemma act_effect (P : MacPrimitives) (ctx : Option (ConnId × Option Held)) (w : World) (a : Act) :
    Effect P ctx w (w.act P ctx a) := by
  cases a with
  | request =>
    simp only [act]
    split
    · exact .send _ _ (.inl rfl)
    · exact .nothing
  | stream i =>
    simp only [act]
    split
    · rename_i c h hi
      exact .send c (some h) (.inr (.inl ⟨h, rfl, mem_of_getElem? hi⟩))
    · exact .nothing
  | other c =>
    simp only [act]
    split
    · rename_i hc
      exact .send c none (.inr (.inr ⟨rfl, hc⟩))
    · exact .nothing
  | markDead c => exact .markDead c
  | install =>
    simp only [act]
    split
    · rename_i hdead
      exact .install hdead.1
    · exact .nothing
  | establish params outcome =>
    simp only [act]
    split
    · rename_i hbuilding
      exact .establish params outcome hbuilding.1
    · exact .nothing

lemma Effect.eq {w w' : World} (h : Effect P ctx w w') :
    ∃ conns log, w' = { w with conns := conns, log := log } := by
  cases h with
  | nothing => exact ⟨w.conns, w.log, rfl⟩
  | send c h _ => exact send_eq w c h
  | markDead c => exact ⟨_, w.log, rfl⟩
  | install _ => exact ⟨_, _, rfl⟩
  | establish _ _ _ => exact ⟨_, _, rfl⟩

lemma Effect.log_append {w w' : World} (heffect : Effect P ctx w w') :
    ∃ es, w'.log = w.log ++ es := by
  cases heffect with
  | nothing => exact ⟨[], (append_nil _).symm⟩
  | send c h _ => exact ⟨_, log_send w c h⟩
  | markDead c => exact ⟨[], (append_nil _).symm⟩
  | install _ => exact ⟨_, rfl⟩
  | establish _ _ _ => exact ⟨_, rfl⟩

structure Calm (F : World → Prop) : Prop where
  keep : ∀ w conns script log, F w → F { w with conns := conns, script := script, log := log }

variable {F F' : World → Prop}

lemma calm_connectionFor (server : List Char) (x : Option ConnId) :
    Calm fun w => w.connectionFor server = x := ⟨fun _ _ _ _ h => h⟩

end World

open World

/-! ## Invariants -/

def Safe {α : Type} (I : World → Prop) (R : α → World → Prop) : Except Stop α → World → Prop
  | .ok a, w => I w ∧ R a w
  | .error (.failed _), w => I w
  | .error .panic, _ => False

def Fresh (G : World → Held → Prop) (h : Held) (w : World) : Prop :=
  G w h ∧ w.connectionFor h.tree.server = some h.issuer

/-- **What tasks keep**: `I` holds of the world, and `U` of a tree and the connection that its
requests are sent on. -/
structure Stable (P : MacPrimitives) (I : World → Prop) (U : World → ConnId → Held → Prop) :
    Prop where
  script : ∀ {w} s, I w → I { w with script := s }
  act : ∀ {w w' ctx}, I w → (∀ c h, ctx = some (c, some h) → U w c h) → Effect P ctx w w' → I w'
  script_uses : ∀ {w c h} s, U w c h → U { w with script := s } c h
  act_uses : ∀ {w w' ctx c h}, U w c h → Effect P ctx w w' → U w' c h

/-- **An invariant of the client**: besides what tasks keep, `G` holds of the trees in the caller's
hands, and every small change of a method keeps all of it. -/
structure Kept (P : MacPrimitives) (I : World → Prop) (G : World → Held → Prop)
    (U : World → ConnId → Held → Prop) : Prop extends Stable P I U where
  trees : ∀ {w h}, I w → h ∈ w.trees → G w h
  refresh : ∀ {w}, I w → I w.refreshSession
  endShare : ∀ {w}, I w → I w.endShare
  share : ∀ name, Triple I (connectShare P name) (Safe I (Fresh G))
  grant : ∀ {w c addr share treeId isDfs encryptData}, I w → w.connectionFor addr = some c →
    G w { w.grant c share treeId isDfs encryptData with
      tree := { (w.grant c share treeId isDfs encryptData).tree with server := addr } }
  addConnection : ∀ {w addr} params outcome, I w → w.connectionFor addr = none →
    I (w.addConnection P addr params outcome)
  markDead : ∀ {w}, I w →
    I (w.setConn w.client.conn { w.primary with hasReviver := true, disconnected := true })
  clearPool : ∀ {w}, I w → I w.clearPool
  setTree : ∀ {w h} slot, I w → G w h → I (w.setTree slot h)
  setTree_good : ∀ {w h h'} slot, G w h → G (w.setTree slot h') h
  addTree : ∀ {w h}, I w → G w h → I (w.addTree h)
  addStream : ∀ {w c h}, I w → U w c h → I (w.addStream c h)
  uses_fresh : ∀ {w h}, G w h → w.connectionFor h.tree.server = some h.issuer → U w h.issuer h
  called : ∀ {w h} m, I w → G w h → I (w.record (.called m h w.cleared))
  uses_called : ∀ {w c h m}, I w → G w h →
    (if m.plan.routed then w.connectionFor h.tree.server = some c else c = w.client.conn) →
    U (w.record (.called m h w.cleared)) c h
  panicked : ∀ {w h m}, I w → G w h → m.plan.routed = true → w.connectionFor h.tree.server = none →
    I ((w.record (.called m h w.cleared)).record .panicked)

lemma safe_bind {α β : Type} {Pre I : World → Prop} {m : ClientM α} {f : α → ClientM β}
    {R : α → World → Prop} {R' : β → World → Prop} (hm : Triple Pre m (Safe I R))
    (hf : ∀ a, Triple (fun w => I w ∧ R a w) (f a) (Safe I R')) :
    Triple Pre (m >>= f) (Safe I R') := by
  refine Triple.bind hm hf ?_
  rintro (e | _) w h
  · exact h
  · exact h

namespace Stable

variable {P : MacPrimitives} {I : World → Prop} {U : World → ConnId → Held → Prop}
  {F : World → Prop} {α : Type} {R : Except Stop α → World → Prop}

lemma await_bind (k : Stable P I U) (ctx : Option (ConnId × Option Held)) {f : Answer → ClientM α}
    (hf : ∀ a, Triple (fun w => I w ∧ ∀ c h, ctx = some (c, some h) → U w c h) (f a) R) :
    Triple (fun w => I w ∧ ∀ c h, ctx = some (c, some h) → U w c h)
      (SmbClient.await P ctx >>= f) R := by
  have hacts : ∀ (as : List Act) (v : World),
      (I v ∧ ∀ c h, ctx = some (c, some h) → U v c h) →
      I (v.acts P ctx as) ∧ ∀ c h, ctx = some (c, some h) → U (v.acts P ctx as) c h := by
    intro as
    induction as with
    | nil => exact fun _ hv => hv
    | cons a as ih =>
      rintro v ⟨hv, hUv⟩
      have heffect := act_effect P ctx v a
      exact ih _ ⟨k.act hv hUv heffect, fun c h hch => k.act_uses (hUv c h hch) heffect⟩
  refine Triple.bind
    (Q := fun r w => ∃ a, r = .ok a ∧ I w ∧ ∀ c h, ctx = some (c, some h) → U w c h) ?_ ?_ ?_
  · rintro w r w' ⟨hI, hctx⟩ hrun
    unfold SmbClient.await at hrun
    split at hrun
    · cases hrun
    rename_i input rest hscript
    obtain ⟨rfl, rfl⟩ := Prod.mk.inj (some.inj hrun)
    exact ⟨_, rfl, hacts input.acts _
      ⟨k.script rest hI, fun c h hch => k.script_uses rest (hctx c h hch)⟩⟩
  · exact fun a => (hf a).weaken (fun w ⟨_, _, hw⟩ => hw) fun _ _ h => h
  · rintro e w ⟨a, ha, -⟩
    cases ha

lemma await_bind_none (k : Stable P I U) {ctx : Option (ConnId × Option Held)}
    {f : Answer → ClientM α} (hctx : ∀ c h, ctx ≠ some (c, some h)) (hf : ∀ a, Triple I (f a) R) :
    Triple I (SmbClient.await P ctx >>= f) R :=
  (k.await_bind ctx fun a => (hf a).weaken (fun _ hw => hw.1) fun _ _ h => h).weaken
    (fun _ hw => ⟨hw, fun c h hch => absurd hch (hctx c h)⟩) fun _ _ h => h

lemma treeConnect (k : Stable P I U) (c : ConnId) (share : List Char) :
    Triple I (SmbClient.treeConnect P c share)
      (Safe I fun h w => ∃ treeId isDfs encryptData, h = w.grant c share treeId isDfs encryptData) := by
  refine k.await_bind_none (by simp) ?_
  rintro (_ | e | ⟨treeId, isDfs, encryptData⟩ | _ | _)
  · exact Triple.diverge
  · exact Triple.fail fun w hw => hw
  · exact Triple.read fun w hw => ⟨hw, treeId, isDfs, encryptData, rfl⟩
  · exact Triple.diverge
  · exact Triple.diverge

lemma and_calm (k : Stable P I U) (hF : Calm F) : Stable P (fun w => I w ∧ F w) U where
  script s hw := ⟨k.script s hw.1, hF.keep _ _ s _ hw.2⟩
  act := by
    intro w w' ctx hw hctx heffect
    refine ⟨k.act hw.1 hctx heffect, ?_⟩
    obtain ⟨conns, log, rfl⟩ := heffect.eq
    exact hF.keep w conns w.script log hw.2
  script_uses := k.script_uses
  act_uses := k.act_uses

end Stable

/-! ## Connecting a share -/

structure OnPrimary (h : Held) (w : World) : Prop where
  server : h.tree.server = w.client.primaryServer
  issuer : h.issuer = w.client.conn

lemma calm_onPrimary (h : Held) : Calm fun w => w.sharing = true ∧ OnPrimary h w :=
  ⟨fun _ _ _ _ hw => ⟨hw.1, hw.2.server, hw.2.issuer⟩⟩

lemma OnPrimary.connectionFor {h : Held} {w : World} (hw : OnPrimary h w) :
    w.connectionFor h.tree.server = some h.issuer := by
  rw [World.connectionFor, if_pos hw.server, hw.issuer]

/-- **The stages of `connect_share`**: `J` until the response, `A` until the check whether to
encrypt, and `B` until encryption is activated. -/
structure Sharing (P : MacPrimitives) (I : World → Prop) (G : World → Held → Prop)
    (U : World → ConnId → Held → Prop) (J : World → Prop) (A : Held → World → Prop)
    (B : Held → Bytes → Bytes → World → Prop) : Prop where
  connecting : Stable P J U
  connected : ∀ h, Stable P (A h) U
  activating : ∀ h encKey decKey, Stable P (B h encKey decKey) U
  enter : ∀ {w}, I w → J w.refreshSession.beginShare
  leave : ∀ {w}, J w → I w
  granted : ∀ {w share treeId isDfs encryptData}, J w →
    A { w.grant w.client.conn share treeId isDfs encryptData with
      tree := { (w.grant w.client.conn share treeId isDfs encryptData).tree with
        server := w.client.primaryServer } } w
  skip : ∀ {w h}, A h w →
    ¬ (h.tree.encryptData = true ∧ w.primary.crypto.shouldEncrypt = false ∧
      w.client.session.encryptionKey.isSome = true ∧ w.client.session.decryptionKey.isSome = true) →
    Safe I (Fresh G) (.ok { h with
      secured := w.primary.crypto.shouldEncrypt ||
        (w.client.session.encryptionKey.isSome && w.client.session.decryptionKey.isSome) }) w.endShare
  need : ∀ {w h encKey decKey}, A h w → w.primary.crypto.shouldEncrypt = false →
    w.client.session.encryptionKey = some encKey → w.client.session.decryptionKey = some decKey →
    B h encKey decKey w
  activate : ∀ {w h encKey decKey} cipher, B h encKey decKey w →
    Safe I (Fresh G) (.ok { h with secured := true })
      (w.activateEncryption encKey decKey cipher).endShare

namespace Sharing

variable {P : MacPrimitives} {I : World → Prop} {G : World → Held → Prop}
  {U : World → ConnId → Held → Prop} {J : World → Prop} {A : Held → World → Prop}
  {B : Held → Bytes → Bytes → World → Prop}

lemma activateShare (s : Sharing P I G U J A B) (h : Held) (encKey decKey : Bytes) :
    Triple (B h encKey decKey) (SmbClient.activateShare P encKey decKey)
      fun r w => r = .ok () ∧ Safe I (Fresh G) (.ok { h with secured := true }) w.endShare := by
  refine (s.activating h encKey decKey).await_bind_none (by simp) fun _ => ?_
  refine Triple.read_bind fun cipher => ?_
  refine ((s.activating h encKey decKey).await_bind_none (by simp) fun _ => ?_).weaken
    (fun w hw => hw.1) fun _ _ h => h
  exact Triple.update fun w hw => ⟨rfl, s.activate cipher hw⟩

lemma activateIfNeeded (s : Sharing P I G U J A B) (h : Held) (encrypting : Bool)
    (keys : Option Bytes × Option Bytes) :
    Triple (fun w => (A h w ∧ w.primary.crypto.shouldEncrypt = encrypting) ∧
        (w.client.session.encryptionKey, w.client.session.decryptionKey) = keys)
      (SmbClient.activateIfNeeded P (h.tree.encryptData && !encrypting) keys)
      fun r w => r = .ok () ∧ Safe I (Fresh G)
        (.ok { h with secured := encrypting || (keys.1.isSome && keys.2.isSome) }) w.endShare := by
  obtain ⟨encKey, decKey⟩ := keys
  unfold SmbClient.activateIfNeeded
  split
  · rename_i hneeded heq
    obtain ⟨rfl, rfl⟩ := Prod.mk.inj heq
    obtain ⟨-, hoff⟩ := Bool.and_eq_true_iff.1 hneeded
    have hfalse : encrypting = false := by simpa using hoff
    subst hfalse
    refine (s.activateShare h _ _).weaken ?_ fun _ _ hw => hw
    rintro w ⟨⟨hA, henc⟩, hkeys⟩
    exact s.need hA henc (Prod.mk.inj hkeys).1 (Prod.mk.inj hkeys).2
  · rename_i hnot
    refine Triple.pure ?_
    rintro w ⟨⟨hA, henc⟩, hkeys⟩
    obtain ⟨rfl, rfl⟩ := Prod.mk.inj hkeys
    subst henc
    refine ⟨rfl, s.skip hA ?_⟩
    rintro ⟨hdata, hoff, hsome, hsome'⟩
    obtain ⟨encKey, hkey⟩ := isSome_iff_exists.1 hsome
    obtain ⟨decKey, hkey'⟩ := isSome_iff_exists.1 hsome'
    exact hnot encKey decKey (by rw [hdata, hoff]; rfl) (by rw [hkey, hkey'])

lemma secureShare (s : Sharing P I G U J A B) (h : Held) :
    Triple (A h) (SmbClient.secureShare P h) (Safe I (Fresh G)) := by
  refine (s.connected h).await_bind_none (by simp) fun _ => ?_
  refine Triple.read_bind fun encrypting => Triple.read_bind fun keys => ?_
  refine Triple.bind (s.activateIfNeeded h encrypting keys) (fun _ => ?_) ?_
  · refine Triple.update_bind (fun w hw => hw.2) ?_
    exact Triple.pure fun w hw => hw
  · rintro e w ⟨hok, -⟩
    cases hok

theorem connectShare (s : Sharing P I G U J A B) (share : List Char) :
    Triple I (SmbClient.connectShare P share) (Safe I (Fresh G)) := by
  refine Triple.update_bind (M := fun w => ∃ v, I v ∧ w = v.refreshSession)
    (fun w hw => ⟨w, hw, rfl⟩) ?_
  refine Triple.update_bind (M := J) ?_ ?_
  · rintro w ⟨v, hv, rfl⟩
    exact s.enter hv
  refine Triple.read_bind fun c => ?_
  have hcalm : Calm fun w => w.client.conn = c := ⟨fun _ _ _ _ hw => hw⟩
  refine Triple.bind ((s.connecting.and_calm hcalm).treeConnect c share) (fun h => ?_) ?_
  · refine Triple.read_bind fun primaryServer => ?_
    refine (s.secureShare _).weaken ?_ fun _ _ h => h
    rintro w ⟨⟨⟨hJ, rfl⟩, treeId, isDfs, encryptData, rfl⟩, rfl⟩
    exact s.granted hJ
  · rintro (e | _) w hw
    · exact s.leave hw.1
    · exact hw

end Sharing

namespace Kept

variable {P : MacPrimitives} {I : World → Prop} {G : World → Held → Prop}
  {U : World → ConnId → Held → Prop}

lemma ensureConnection (k : Kept P I G U) (addr : List Char) :
    Triple I (SmbClient.ensureConnection P addr) (Safe I fun _ _ => True) := by
  refine Triple.read_bind ?_
  rintro (_ | c)
  · refine (k.and_calm (calm_connectionFor addr none)).await_bind_none (by simp) ?_
    rintro (_ | e | _ | _ | ⟨params, outcome⟩)
    · exact Triple.diverge
    · exact Triple.fail fun w hw => hw.1
    · exact Triple.diverge
    · exact Triple.diverge
    · exact Triple.update fun w hw => ⟨k.addConnection params outcome hw.1 hw.2, trivial⟩
  · exact Triple.pure fun w hw => ⟨hw.1, trivial⟩

lemma ensureTree (k : Kept P I G U) (addr share : List Char) :
    Triple I (SmbClient.ensureTree P addr share) (Safe I (Fresh G)) := by
  refine Triple.read_bind ?_
  rintro (_ | c)
  · exact Triple.fail fun w hw => hw.1
  · refine Triple.bind ((k.and_calm (calm_connectionFor addr (some c))).treeConnect c share) ?_ ?_
    · intro h
      refine Triple.pure ?_
      rintro w ⟨⟨hw, hsome⟩, treeId, isDfs, encryptData, rfl⟩
      exact ⟨hw, k.grant hw hsome, hsome⟩
    · rintro (e | _) w hw
      · exact hw.1
      · exact hw

lemma connectTarget (k : Kept P I G U) (r : ResolvedPath) :
    Triple I (SmbClient.connectTarget P r) (Safe I (Fresh G)) := by
  refine Triple.read_bind fun addr => ?_
  refine safe_bind ((k.ensureConnection addr).weaken (fun _ h => h.1) fun _ _ h => h) fun _ => ?_
  exact (k.ensureTree addr r.share).weaken (fun _ h => h.1) fun _ _ h => h

lemma tryTargets (k : Kept P I G U) (resolved : List ResolvedPath) (last : Failure) :
    Triple I (SmbClient.tryTargets P resolved last) (Safe I (Fresh G)) := by
  induction resolved generalizing last with
  | nil => exact Triple.fail fun _ hw => hw
  | cons r rest ih =>
    refine Triple.bind (Triple.attempt (k.connectTarget r)) ?_ ?_
    · rintro (e | h)
      · cases e with
        | failed e =>
          refine (ih e).weaken ?_ fun _ _ h => h
          rintro w ⟨x, hx, hw⟩
          cases hx
          exact hw
        | panic =>
          rintro w _ _ ⟨x, hx, hw⟩ -
          cases hx
          exact hw.elim
      · refine Triple.pure ?_
        rintro w ⟨x, hx, hw⟩
        cases hx
        exact hw
    · rintro e w ⟨x, hx, -⟩
      cases hx

lemma handleDfsRedirect (k : Kept P I G U) (h : Held) :
    Triple (fun w => I w ∧ w.connectionFor h.tree.server ≠ none) (SmbClient.handleDfsRedirect P h)
      (Safe I (Fresh G)) := by
  refine Triple.read_bind ?_
  rintro (_ | c)
  · exact Triple.fail fun w hw => hw.1.2 hw.2
  · refine (k.await_bind_none (by simp) ?_).weaken (fun w hw => hw.1.1) fun _ _ h => h
    rintro (_ | e | _ | resolved | _)
    · exact Triple.diverge
    · exact Triple.fail fun w hw => hw
    · exact Triple.diverge
    · exact k.tryTargets resolved .other
    · exact Triple.diverge

lemma reconnectIfNeeded (k : Kept P I G U) :
    Triple I (SmbClient.reconnectIfNeeded P) (Safe I fun _ _ => True) := by
  refine Triple.read_bind fun before => ?_
  refine Triple.ite (fun _ => ?_) fun _ => Triple.pure fun w hw => ⟨hw.1, trivial⟩
  refine (k.await_bind_none (by simp) fun _ => ?_).weaken (fun w hw => hw.1) fun _ _ h => h
  refine Triple.read_bind fun after => ?_
  exact Triple.ite (fun _ => Triple.pure fun w hw => ⟨hw.1, trivial⟩)
    fun _ => Triple.fail fun w hw => hw.1

lemma recoverTree (k : Kept P I G U) (h : Held) :
    Triple I (SmbClient.recoverTree P h) (Safe I (Fresh G)) := by
  refine Triple.read_bind fun primaryServer => ?_
  refine Triple.ite (fun _ => Triple.fail fun w hw => hw.1) fun _ => ?_
  refine safe_bind (k.reconnectIfNeeded.weaken (fun _ hw => hw.1) fun _ _ h => h) fun _ => ?_
  exact Triple.update_bind (fun w hw => k.refresh hw.1) (k.share h.tree.shareName)

lemma reconnect (k : Kept P I G U) :
    Triple I (SmbClient.reconnect P) (Safe I fun _ _ => True) := by
  refine Triple.update_bind (fun w hw => k.markDead hw) ?_
  refine safe_bind k.reconnectIfNeeded fun _ => ?_
  refine Triple.update_bind (fun w hw => k.refresh hw.1) ?_
  exact Triple.update fun w hw => ⟨k.clearPool hw, trivial⟩

lemma again (k : Kept P I G U) (slot : ℕ) (h : Held) :
    Triple (fun w => I w ∧ Fresh G h w) (SmbClient.again P slot h) (Safe I fun _ _ => True) := by
  refine Triple.update_bind (M := fun w => I w ∧ Fresh G h w)
    (fun w hw => ⟨k.setTree slot hw.1 hw.2.1, k.setTree_good slot hw.2.1, hw.2.2⟩) ?_
  refine safe_bind (R := fun c w => U w c h) ?_ fun c => ?_
  · refine Triple.read_bind ?_
    rintro (_ | c)
    · refine Triple.fail ?_
      rintro w ⟨⟨-, -, hconn⟩, hnone⟩
      rw [hconn] at hnone
      cases hnone
    · refine Triple.pure ?_
      rintro w ⟨⟨hw, hgood, hconn⟩, hsome⟩
      obtain rfl : h.issuer = c := some.inj (hconn.symm.trans hsome)
      exact ⟨hw, k.uses_fresh hgood hconn⟩
  · refine (k.await_bind (some (c, some h)) ?_).weaken ?_ fun _ _ h => h
    · rintro (_ | e | _ | _ | _)
      · exact Triple.pure fun w hw => ⟨hw.1, trivial⟩
      · exact Triple.fail fun w hw => hw.1
      · exact Triple.diverge
      · exact Triple.diverge
      · exact Triple.diverge
    · rintro w ⟨hw, hU⟩
      refine ⟨hw, ?_⟩
      rintro c' h' heq
      cases heq
      exact hU

lemma retry (k : Kept P I G U) (m : Method) (slot : ℕ) (h : Held) (e : Failure) :
    Triple (fun w => I w ∧ (m.plan.routed = true → w.connectionFor h.tree.server ≠ none))
      (SmbClient.retry P m slot h e) (Safe I fun _ _ => True) := by
  refine Triple.read_bind fun retries => Triple.read_bind fun recovers => ?_
  refine Triple.ite (fun hretries => ?_) fun _ => Triple.ite (fun _ => ?_) fun _ => ?_
  · refine safe_bind ((k.handleDfsRedirect h).weaken ?_ fun _ _ h => h) fun new => k.again slot new
    rintro w ⟨⟨⟨hw, hconn⟩, hplan⟩, -⟩
    have hdfs : m.plan.retriesDfs = true := (Bool.and_eq_true_iff.1 (hplan.trans hretries)).1
    exact ⟨hw, hconn (Method.routed_of_retriesDfs hdfs)⟩
  · exact safe_bind ((k.recoverTree h).weaken (fun _ hw => hw.1.1.1) fun _ _ h => h)
      fun new => k.again slot new
  · exact Triple.fail fun w hw => hw.1.1.1

def Ends {α : Type} (I : World → Prop) : Except Stop α → World → Prop
  | .error .panic, w => I (w.record .panicked)
  | _, w => I w

lemma Safe.ends {α : Type} {R : α → World → Prop} {r : Except Stop α} {w : World}
    (h : Safe I R r w) : Ends I r w := by
  cases r with
  | ok a => exact h.1
  | error e =>
    cases e with
    | failed e => exact h
    | panic => exact h.elim

lemma ends_of_safe {α : Type} {Pre : World → Prop} {R : α → World → Prop} {m : ClientM α}
    (h : Triple Pre m (Safe I R)) : Triple Pre m (Ends I) :=
  h.weaken (fun _ hw => hw) fun _ _ hw => Safe.ends hw

def Called (I : World → Prop) (G : World → Held → Prop) (m : Method) (h : Held) (w : World) : Prop :=
  ∃ v, w = v.record (.called m h v.cleared) ∧ I v ∧ G v h

def Routed (I : World → Prop) (U : World → ConnId → Held → Prop) (m : Method) (h : Held) :
    Except Stop ConnId → World → Prop
  | .ok c, w => I w ∧ U w c h ∧ (m.plan.routed = true → w.connectionFor h.tree.server ≠ none)
  | .error .panic, w => I (w.record .panicked)
  | .error (.failed _), w => I w

lemma route (k : Kept P I G U) (m : Method) (h : Held) :
    Triple (Called I G m h) (SmbClient.route m h) (Routed I U m h) := by
  refine Triple.ite (fun hrouted => ?_) fun hfixed => ?_
  · refine Triple.read_bind ?_
    rintro (_ | c)
    · refine Triple.fail ?_
      rintro w ⟨⟨v, rfl, hI, hG⟩, hnone⟩
      exact k.panicked hI hG hrouted hnone
    · refine Triple.pure ?_
      rintro w ⟨⟨v, rfl, hI, hG⟩, hsome⟩
      refine ⟨k.called m hI hG, k.uses_called hI hG (by rw [if_pos hrouted]; exact hsome), ?_⟩
      intro _ hnone
      rw [hnone] at hsome
      cases hsome
  · refine Triple.read ?_
    rintro w ⟨v, rfl, hI, hG⟩
    exact ⟨k.called m hI hG, k.uses_called hI hG (by rw [if_neg hfixed]; rfl),
      fun hrouted => absurd hrouted hfixed⟩

theorem perform (k : Kept P I G U) (m : Method) (slot : ℕ) (h : Held) :
    Triple (fun w => I w ∧ G w h) (SmbClient.perform P m slot h) (Ends I) := by
  refine Triple.update_bind (M := Called I G m h) (fun w hw => ⟨w, rfl, hw⟩) ?_
  refine Triple.bind (k.route m h) ?_ ?_
  · intro c
    refine ends_of_safe (R := fun _ _ => True) ?_
    have hcalm : Calm fun w => m.plan.routed = true → w.connectionFor h.tree.server ≠ none :=
      ⟨fun _ _ _ _ hw => hw⟩
    refine ((k.and_calm hcalm).await_bind (some (c, some h)) ?_).weaken ?_ fun _ _ h => h
    · rintro (_ | e | _ | _ | _)
      · refine Triple.ite (fun _ => ?_) fun _ => Triple.pure fun w hw => ⟨hw.1.1, trivial⟩
        exact Triple.update fun w hw => ⟨k.addStream hw.1.1 (hw.2 c h rfl), trivial⟩
      · exact (k.retry m slot h e).weaken (fun w hw => hw.1) fun _ _ h => h
      · exact Triple.diverge
      · exact Triple.diverge
      · exact Triple.diverge
    · rintro w ⟨hI, hU, hconn⟩
      refine ⟨⟨hI, hconn⟩, ?_⟩
      rintro c' h' heq
      cases heq
      exact hU
  · rintro (e | _) w hw
    · exact hw
    · exact hw

theorem exec (k : Kept P I G U) (call : Call) : Triple I (SmbClient.exec P call) (Ends I) := by
  cases call with
  | connectShare share =>
    refine ends_of_safe (R := fun _ _ => True) ?_
    exact safe_bind (k.share share) fun h =>
      Triple.update fun w hw => ⟨k.addTree hw.1 hw.2.1, trivial⟩
  | operation m slot =>
    refine Triple.read_bind ?_
    rintro (_ | h)
    · exact Triple.diverge
    · exact (k.perform m slot h).weaken
        (fun w hw => ⟨hw.1, k.trees hw.1 (mem_of_getElem? hw.2)⟩) fun _ _ hw => hw
  | reconnect => exact ends_of_safe k.reconnect
  | cloneTree slot =>
    refine Triple.read_bind ?_
    rintro (_ | h)
    · exact Triple.diverge
    · exact Triple.update fun w hw => k.addTree hw.1 (k.trees hw.1 (mem_of_getElem? hw.2))
  | listShares =>
    refine Triple.read_bind fun c => ?_
    exact (k.await_bind_none (by simp) fun _ => Triple.pure fun w hw => hw).weaken
      (fun w hw => hw.1) fun _ _ h => h
  | pause => exact k.await_bind_none (by simp) fun _ => Triple.pure fun w hw => hw

lemma step (k : Kept P I G U) {w w' : World} {call : Call} (hw : I w)
    (hstep : w.step P call = some w') : I w' := by
  unfold World.step at hstep
  split at hstep
  · cases hstep
  · rename_i v hrun
    obtain rfl := some.inj hstep
    exact k.exec call _ _ _ (k.endShare hw) hrun
  · rename_i r v hpanic hrun
    obtain rfl := some.inj hstep
    have hends := k.exec call _ _ _ (k.endShare hw) hrun
    match r, hends with
    | .ok _, h => exact h
    | .error (.failed _), h => exact h
    | .error .panic, _ => exact absurd rfl hpanic

theorem run (k : Kept P I G U) {w w' : World} {calls : List Call} (hw : I w)
    (hrun : Transition.exec (World.step P) w calls = some w') : I w' :=
  Transition.exec_invariant_of_step (fun _ _ _ hI hstep => k.step hI hstep) hw hrun

end Kept

/-- **An invariant of the client and its connections**: it does not depend on the trees. -/
structure Steady (P : MacPrimitives) (I : World → Prop) : Prop where
  keep : ∀ {w} script trees streams, I w →
    I { w with script := script, trees := trees, streams := streams }
  act : ∀ {w w' ctx}, I w → Effect P ctx w w' → I w'
  refresh : ∀ {w}, I w → I w.refreshSession
  endShare : ∀ {w}, I w → I w.endShare
  addConnection : ∀ {w} addr params outcome, I w → I (w.addConnection P addr params outcome)
  markDead : ∀ {w}, I w →
    I (w.setConn w.client.conn { w.primary with hasReviver := true, disconnected := true })
  clearPool : ∀ {w}, I w → I w.clearPool
  called : ∀ {w} m h, I w → I (w.record (.called m h w.cleared))
  panicked : ∀ {w}, I w → I (w.record .panicked)

namespace Steady

variable {P : MacPrimitives} {I : World → Prop}

lemma stable (s : Steady P I) : Stable P I (fun _ _ _ => True) where
  script script hw := s.keep script _ _ hw
  act hw _ heffect := s.act hw heffect
  script_uses _ _ := trivial
  act_uses _ _ := trivial

lemma kept (s : Steady P I)
    (share : ∀ name, Triple I (connectShare P name) (Safe I (Fresh fun _ _ => True))) :
    Kept P I (fun _ _ => True) (fun _ _ _ => True) where
  toStable := s.stable
  trees _ _ := trivial
  refresh := s.refresh
  endShare := s.endShare
  share := share
  grant _ _ := trivial
  addConnection params outcome hw _ := s.addConnection _ params outcome hw
  markDead := s.markDead
  clearPool := s.clearPool
  setTree _ hw _ := s.keep _ _ _ hw
  setTree_good _ _ := trivial
  addTree hw _ := s.keep _ _ _ hw
  addStream hw _ := s.keep _ _ _ hw
  uses_fresh _ _ := trivial
  called m hw _ := s.called m _ hw
  uses_called _ _ _ := trivial
  panicked hw _ _ _ := s.panicked (s.called _ _ hw)

end Steady

/-! ## A client for closed runs -/

namespace Sample

/-- A pseudorandom function that hands its key back: sessions with different session keys have
different keys. -/
def macs : MacPrimitives where
  hmacSha256 key _ := (key ++ replicate 32 0).take 32
  aesCmac _ _ := replicate 16 0
  aesGmac _ _ _ := replicate 16 0

def config : ClientConfig := ⟨"nas:445".toList, true, true, []⟩

def params : NegotiatedParams := Session.selectedParams (some .aes128Gcm) true

def setup (id : SessionId) (key : UInt8) : SetupOutcome :=
  ⟨id, 0, replicate 16 key, replicate 64 0⟩

def answered (a : Answer) : Input := ⟨[.request], a⟩

def shared (encryptData : Bool) : List Input :=
  answered (.tree 1 true encryptData) :: replicate (if encryptData then 3 else 1) {}

def redirected (encryptData : Bool) : List Input :=
  [answered (.failed .dfsReferral), answered (.targets [⟨"filer".toList, 445, "s".toList⟩]),
    { answer := .session params (setup 9 9) }, answered (.tree 1 false encryptData), answered .done]

def revived (id : SessionId) (key : UInt8) : Input :=
  { acts := [.markDead 0, .install, .establish params (setup id key)] }

def run (calls : List Call) (script : List Input) : Option World :=
  Transition.exec (World.step macs) (World.connected macs config params (setup 1 1) script) calls

def redirect (encryptData : Bool) (calls : List Call) (script : List Input) : Option World :=
  run (.connectShare "s".toList :: .operation .stat 0 :: calls)
    (shared false ++ redirected encryptData ++ script)

def revive (id : SessionId) : Option World :=
  run [.connectShare "s".toList, .operation .stat 0, .pause, .connectShare "s".toList,
      .operation .stat 1]
    (shared true ++ [answered .done, revived id 2] ++ shared true ++ [answered .done])

lemma exists_run {o : Option World} {p : World → Prop} [DecidablePred p]
    (h : o.any (fun w => decide (p w)) = true) : ∃ w, o = some w ∧ p w := by
  obtain ⟨w, hw, hp⟩ := (any_eq_true _ _).1 h
  exact ⟨w, hw, of_decide_eq_true hp⟩

end Sample

end Smb2
