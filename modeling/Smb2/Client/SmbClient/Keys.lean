import Smb2.Client.SmbClient.Runs

set_option autoImplicit false

/-!
# The session that the client holds

A revival establishes a new session on the primary connection behind the client's back.
`refresh_session` adopts it if it has another id than the session that the client holds, and
`connect_share` encrypts with the keys of the session that it has then.
-/

open List

namespace Smb2

open World SmbClient Prog

namespace Event

/-- **Current keys**: after `refresh_session` the client holds the keys of the session that the
connection uses, and encryption is activated with its keys. -/
def KeysCurrent : Event → Prop
  | .refreshed held current => ∀ s ∈ current, held.signingKey = s.signingKey ∧
      held.encryptionKey = s.encryptionKey ∧ held.decryptionKey = s.decryptionKey
  | .activated encKey decKey current =>
      ∃ s ∈ current, s.encryptionKey = some encKey ∧ s.decryptionKey = some decKey
  | _ => True

instance (e : Event) : Decidable e.KeysCurrent := by
  unfold KeysCurrent
  split <;> infer_instance

/-- **The condition on revivals**: the id of a new session is not that of the session which the
client holds, a revival does not interfere with a `connect_share` that is under way, and
`connect_share` is not called between the two steps of a revival. -/
def KeysFit : Event → Prop
  | .installed busy => busy = false
  | .established s held busy => busy = false ∧ s.sessionId ≠ held.sessionId
  | .sharing current => current.isSome = true
  | _ => True

instance (e : Event) : Decidable e.KeysFit := by
  unfold KeysFit
  split <;> infer_instance

end Event

namespace World

variable {P : MacPrimitives} {w w' : World} {c : ConnId} {ctx : Option (ConnId × Option Held)}

/-- **What the client knows about the current session**: by its id it is the session that the client
holds, and during `connect_share` it is this session in any case. -/
structure Current (w : World) : Prop where
  held : ∀ s, w.primary.session = some s → s.sessionId = w.client.session.sessionId →
    s = w.client.session
  sharing : w.sharing = true → w.primary.session = some w.client.session

lemma Current.congr (hw : Current w) (hsession : w'.primary.session = w.primary.session)
    (hclient : w'.client.session = w.client.session)
    (hsharing : w'.sharing = true → w.sharing = true) : Current w' where
  held := by
    rw [hsession, hclient]
    exact hw.held
  sharing := by
    rw [hsession, hclient]
    exact fun h => hw.sharing (hsharing h)

structure Keys (w : World) : Prop where
  conn_lt : w.client.conn < w.nextConn
  current : (∀ e ∈ w.log, e.KeysFit) → Current w
  keys : (∀ e ∈ w.log, e.KeysFit) → ∀ e ∈ w.log, e.KeysCurrent

lemma Keys.extend (hw : Keys w) (hconn : w'.client.conn < w'.nextConn) (es : List Event)
    (hlog : w'.log = w.log ++ es)
    (hnew : Current w → (∀ e ∈ es, e.KeysFit) → Current w' ∧ ∀ e ∈ es, e.KeysCurrent) :
    Keys w' where
  conn_lt := hconn
  current := by
    rw [hlog]
    intro hfits
    obtain ⟨hold, hes⟩ := forall_mem_append.1 hfits
    exact (hnew (hw.current hold) hes).1
  keys := by
    rw [hlog]
    intro hfits
    obtain ⟨hold, hes⟩ := forall_mem_append.1 hfits
    exact forall_mem_append.2 ⟨hw.keys hold, (hnew (hw.current hold) hes).2⟩

lemma Keys.same (hw : Keys w) (hclient : w'.client.conn = w.client.conn)
    (hheld : w'.client.session = w.client.session) (hnext : w.nextConn ≤ w'.nextConn)
    (hsession : w'.primary.session = w.primary.session)
    (hsharing : w'.sharing = true → w.sharing = true) (es : List Event) (hlog : w'.log = w.log ++ es)
    (hkeys : ∀ e ∈ es, e.KeysCurrent) : Keys w' :=
  hw.extend (hclient ▸ Nat.lt_of_lt_of_le hw.conn_lt hnext) es hlog
    fun hcurrent _ => ⟨hcurrent.congr hsession hheld hsharing, hkeys⟩

lemma session_update (w : World) (c : ConnId) (conn : Conn)
    (hsame : conn.session = (w.conns c).session) (i : ConnId) :
    (Function.update w.conns c conn i).session = (w.conns i).session :=
  (Function.forall_update_iff w.conns fun j x => x.session = (w.conns j).session).2
    ⟨hsame, fun _ _ => rfl⟩ i

lemma session_send (w : World) (c : ConnId) (h : Option Held) (i : ConnId) :
    ((w.send c h).conns i).session = (w.conns i).session := by
  rw [conns_send]
  exact session_update w c _ (Conn.session_send _) i

lemma Keys.install (hw : Keys w) :
    Keys ((w.setConn w.client.conn w.primary.install).record (.installed w.sharing)) := by
  refine hw.extend hw.conn_lt _ rfl fun _ hfits => ⟨⟨?_, ?_⟩, by simp [Event.KeysCurrent]⟩
  · intro s hs
    have hnone : (Function.update w.conns w.client.conn w.primary.install w.client.conn).session =
        some s := hs
    rw [Function.update_self] at hnone
    cases hnone
  · intro hsharing
    have hidle : w.sharing = false := hfits _ (mem_singleton_self _)
    rw [show w.sharing = true from hsharing] at hidle
    cases hidle

lemma Keys.establish (hw : Keys w) {conn : Conn} {s : Session} (hs : conn.session = some s) :
    Keys ((w.setConn w.client.conn conn).record (.established s w.client.session w.sharing)) := by
  refine hw.extend hw.conn_lt _ rfl fun _ hfits => ⟨⟨?_, ?_⟩, by simp [Event.KeysCurrent]⟩
  · intro s' hs' hid
    have hsome : (Function.update w.conns w.client.conn conn w.client.conn).session = some s' := hs'
    rw [Function.update_self, hs] at hsome
    obtain rfl := Option.some.inj hsome
    have hnew : w.sharing = false ∧ s.sessionId ≠ w.client.session.sessionId :=
      hfits _ (mem_singleton_self _)
    exact absurd hid hnew.2
  · intro hsharing
    have hnew : w.sharing = false ∧ s.sessionId ≠ w.client.session.sessionId :=
      hfits _ (mem_singleton_self _)
    rw [show w.sharing = true from hsharing] at hnew
    cases hnew.1

lemma Keys.act (hw : Keys w) (heffect : Effect P ctx w w') : Keys w' := by
  cases heffect with
  | nothing => exact hw
  | send c h _ =>
    obtain ⟨conns, log, heq⟩ := send_eq w c h
    have hprimary : (w.send c h).primary.session = w.primary.session := by
      have hsame := session_send w c h w.client.conn
      rw [heq] at hsame ⊢
      exact hsame
    refine hw.same (by rw [heq]) (by rw [heq]) (by rw [heq]) hprimary (by rw [heq]; exact id) _
      (log_send w c h) ?_
    intro e he
    obtain ⟨wire, -, rfl⟩ := by simpa using he
    trivial
  | markDead c =>
    exact hw.same rfl rfl (Nat.le_refl _)
      (session_update w c { w.conns c with disconnected := true } rfl w.client.conn) id [] (append_nil _).symm (by simp)
  | install _ => exact hw.install
  | establish params outcome _ => exact hw.establish rfl

lemma Current.adopted (hw : Current w) {s : Session} (hs : w.primary.session = some s) :
    w.refreshSession.client.session = s := by
  simp only [refreshSession, record, hs]
  split
  · rfl
  · rename_i hid
    exact (hw.held s hs (not_not.1 hid)).symm

lemma Keys.refresh (hw : Keys w) : Keys w.refreshSession := by
  refine hw.extend hw.conn_lt
    [.refreshed w.refreshSession.client.session w.primary.session] rfl fun hcurrent _ => ⟨⟨?_, ?_⟩, ?_⟩
  · intro s hs _
    exact (hcurrent.adopted hs).symm
  · intro hsharing
    have hheld := hcurrent.sharing hsharing
    rw [hcurrent.adopted hheld]
    exact hheld
  · intro e he
    obtain rfl := mem_singleton.1 he
    intro s hs
    rw [hcurrent.adopted hs]
    exact ⟨rfl, rfl, rfl⟩

lemma sessionId_refreshSession {s : Session} (hs : w.primary.session = some s) :
    w.refreshSession.client.session.sessionId = s.sessionId := by
  simp only [refreshSession, record, hs]
  split
  · rfl
  · rename_i hid
    exact (not_not.1 hid).symm

lemma Keys.beginShare (hw : Keys w) : Keys w.refreshSession.beginShare := by
  refine hw.refresh.extend hw.conn_lt [.sharing w.primary.session] rfl fun hrefreshed hfits =>
    ⟨⟨hrefreshed.held, fun _ => ?_⟩, by simp [Event.KeysCurrent]⟩
  have hsome : w.primary.session.isSome = true := hfits _ (mem_singleton_self _)
  obtain ⟨s, hs⟩ := Option.isSome_iff_exists.1 hsome
  have hheld := hrefreshed.held s hs (sessionId_refreshSession hs).symm
  exact hs.trans (congrArg some hheld)

lemma keys_steady (P : MacPrimitives) : Steady P Keys where
  keep _ _ _ hw := hw.same rfl rfl (Nat.le_refl _) rfl id [] (append_nil _).symm (by simp)
  act hw heffect := hw.act heffect
  refresh hw := hw.refresh
  endShare hw := hw.same rfl rfl (Nat.le_refl _) rfl (fun h => by cases h) []
    (append_nil _).symm (by simp)
  addConnection {w} _ params outcome hw := by
    refine hw.same rfl rfl (Nat.le_succ _) ?_ id
      [.pooled w.nextConn (Session.ofOutcome P params outcome)] rfl (by simp [Event.KeysCurrent])
    show (Function.update w.conns w.nextConn _ w.client.conn).session = _
    rw [Function.update_of_ne hw.conn_lt.ne]
    rfl
  markDead {w} hw := hw.same rfl rfl (Nat.le_refl _)
    (session_update w w.client.conn { w.primary with hasReviver := true, disconnected := true } rfl
      w.client.conn) id [] (append_nil _).symm (by simp)
  clearPool hw := hw.same rfl rfl (Nat.le_refl _) rfl id [] (append_nil _).symm (by simp)
  called m h hw := hw.same rfl rfl (Nat.le_refl _) rfl id _ rfl (by simp [Event.KeysCurrent])
  panicked hw := hw.same rfl rfl (Nat.le_refl _) rfl id _ rfl (by simp [Event.KeysCurrent])

/-- A tree that `connect_share` has been granted, and the keys that it is about to use. -/
def Using (h : Held) (encKey decKey : Bytes) (w : World) : Prop :=
  w.sharing = true ∧ OnPrimary h w ∧ w.client.session.encryptionKey = some encKey ∧
    w.client.session.decryptionKey = some decKey

lemma calm_using (h : Held) (encKey decKey : Bytes) : Calm (Using h encKey decKey) :=
  ⟨fun _ _ _ _ hw => ⟨hw.1, ⟨hw.2.1.server, hw.2.1.issuer⟩, hw.2.2⟩⟩

lemma keys_sharing (P : MacPrimitives) :
    Sharing P Keys (fun _ _ => True) (fun _ _ _ => True) (fun w => Keys w ∧ w.sharing = true)
      (fun h w => Keys w ∧ w.sharing = true ∧ OnPrimary h w)
      (fun h encKey decKey w => Keys w ∧ Using h encKey decKey w) where
  connecting := (keys_steady P).stable.and_calm ⟨fun _ _ _ _ hw => hw⟩
  connected h := (keys_steady P).stable.and_calm (calm_onPrimary h)
  activating h encKey decKey := (keys_steady P).stable.and_calm (calm_using h encKey decKey)
  enter hw := ⟨hw.beginShare, rfl⟩
  leave hw := hw.1
  granted hw := ⟨hw.1, hw.2, rfl, rfl⟩
  skip hw _ := ⟨(keys_steady P).endShare hw.1, trivial, hw.2.2.connectionFor⟩
  need hw _ hkey hkey' := ⟨hw.1, hw.2.1, hw.2.2, hkey, hkey'⟩
  activate {w h encKey decKey} cipher hw := by
    obtain ⟨hkeys, hsharing, hhome, hkey, hkey'⟩ := hw
    refine ⟨?_, trivial, hhome.connectionFor⟩
    refine hkeys.extend hkeys.conn_lt [.activated encKey decKey w.primary.session] rfl
      fun hcurrent _ => ⟨?_, ?_⟩
    · exact hcurrent.congr (session_update w w.client.conn { w.primary with
        crypto := w.primary.crypto.activateEncryption encKey decKey cipher } rfl w.client.conn) rfl
        fun h => by cases h
    · intro e he
      obtain rfl := mem_singleton.1 he
      exact ⟨w.client.session, hcurrent.sharing hsharing, hkey, hkey'⟩

lemma keys_kept (P : MacPrimitives) : Kept P Keys (fun _ _ => True) (fun _ _ _ => True) :=
  (keys_steady P).kept (keys_sharing P).connectShare

lemma keys_connected (P : MacPrimitives) (config : ClientConfig) (params : NegotiatedParams)
    (outcome : SetupOutcome) (script : List Input) :
    Keys (World.connected P config params outcome script) where
  conn_lt := Nat.one_pos
  current _ := by
    refine ⟨fun s hs _ => ?_, fun h => by cases h⟩
    exact (Option.some.inj hs).symm
  keys := by simp [World.connected, Event.KeysCurrent]

/-- **Keys are current.** In every run whose revivals give a session an id other than that of the
session which the client holds, and do not interfere with `connect_share`, the client holds the keys
of the current session after every `refresh_session`, and activates encryption only with the keys of
the current session. -/
theorem keys_current {P : MacPrimitives} {config : ClientConfig} {params : NegotiatedParams}
    {outcome : SetupOutcome} {script : List Input} {calls : List Call} {w : World}
    (hrun : Transition.exec (World.step P) (World.connected P config params outcome script) calls =
      some w) (hfits : ∀ e ∈ w.log, e.KeysFit) : ∀ e ∈ w.log, e.KeysCurrent :=
  ((keys_kept P).run (keys_connected P config params outcome script) hrun).keys hfits

theorem keys_current_revived :
    ∃ w, Sample.revive 2 = some w ∧ w.client.session.sessionId = 2 ∧
      ∀ e ∈ w.log, e.KeysCurrent := by
  have hrun : ∃ w, Sample.revive 2 = some w ∧ w.client.session.sessionId = 2 ∧
      ∀ e ∈ w.log, e.KeysFit :=
    Sample.exists_run (by decide +kernel)
  obtain ⟨w, hrun, hid, hfits⟩ := hrun
  exact ⟨w, hrun, hid, keys_current hrun hfits⟩

/-- **A restarted server that hands out the id again**: the client keeps the keys of the dead
session, and encrypts the new one with them. -/
theorem dead_keys_reused :
    ∃ w, Sample.revive 1 = some w ∧ ¬ ∀ e ∈ w.log, e.KeysCurrent :=
  Sample.exists_run (by decide +kernel)

end World

end Smb2
