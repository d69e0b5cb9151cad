import Smb2.Client.SmbClient.Keys
import Smb2.Lib.Keyring

set_option autoImplicit false

/-!
# Nonces

Activating encryption starts the counter of the nonces at zero. A pair of a key and a nonce is
therefore used once only if no key is activated twice. A connection activates the key of its session,
when the session is set up or later by `connect_share`, and a session setup that has finished yields
a key that was not seen before.

## Implementation notes

The connections of the client, with the keys of their sessions and their counters, make up a
`Keyring`.
-/

open List

namespace Smb2

open World SmbClient Prog

namespace Event

def frame : Event → Option (Bytes × Cipher × ℕ)
  | .sent _ _ _ (.sealed key cipher counter) => some (key, cipher, counter)
  | _ => none

def newKey : Event → Option Bytes
  | .connected s => s.encryptionKey
  | .established s _ _ => s.encryptionKey
  | .pooled _ s => s.encryptionKey
  | _ => none

end Event

/-! ## Nonces of counters -/

lemma nonce_injective {n m : ℕ} (hn : n < 2 ^ 64) (hm : m < 2 ^ 64) {c c' : Cipher}
    (h : (nonceBytes n).take c.nonceLen = (nonceBytes m).take c'.nonceLen) : n = m := by
  have hfirst : ∀ (d : Cipher) (v : ℕ), ((nonceBytes v).take d.nonceLen).take 8 = leBytes 8 v := by
    intro d v
    have hlen : min 8 d.nonceLen = 8 := by
      cases d <;> rfl
    rw [take_take, hlen, nonceBytes, take_left' (length_leBytes 8 v)]
  have hbytes : leBytes 8 n = leBytes 8 m := by
    rw [← hfirst c n, ← hfirst c' m, h]
  rw [← leNat_leBytes (k := 8) (v := n) hn, ← leNat_leBytes (k := 8) (v := m) hm, hbytes]

/-! ## Connections -/

namespace Conn

def key (c : Conn) : Option Bytes := c.session.bind (·.encryptionKey)

def generator (c : Conn) : Option (Bytes × ℕ) :=
  if c.crypto.shouldEncrypt then
    c.crypto.encryptionKey.bind fun key => c.crypto.nonceGen.map (key, ·)
  else none

variable {c : Conn}

/-- **What a request does to the generator**: nothing, or it takes a value, which the frame has if
one leaves. -/
inductive Emits (c : Conn) : Prop
  | plain (hgenerator : c.send.2.generator = c.generator)
    (hframe : ∀ key cipher n, c.send.1 ≠ some (.sealed key cipher n))
  | skip (key : Bytes) (n : ℕ) (hbefore : c.generator = some (key, n))
    (hgenerator : c.send.2.generator = some (key, n + 1)) (hframe : c.send.1 = none)
  | sealed (key : Bytes) (cipher : Cipher) (n : ℕ) (hbefore : c.generator = some (key, n))
    (hgenerator : c.send.2.generator = some (key, n + 1)) (hlt : n < 2 ^ 64)
    (hframe : c.send.1 = some (.sealed key cipher n))

lemma emits (c : Conn) : c.Emits := by
  by_cases hdead : c.disconnected = true
  · exact .plain (by rw [send, if_pos hdead]) (by simp [send, hdead])
  by_cases hencrypt : c.crypto.shouldEncrypt = true
  · have hsend : c.send = (c.crypto.encryptBytes.1, { c with crypto := c.crypto.encryptBytes.2 }) := by
      rw [send, if_neg hdead, if_pos hencrypt]
    have hnothing (h : c.crypto.encryptBytes = (none, c.crypto)) : c.Emits :=
      .plain (by rw [hsend, h]) (by rw [hsend, h]; simp)
    cases hkey : c.crypto.encryptionKey with
    | none => exact hnothing (by simp [Connection.CryptoState.encryptBytes, hkey])
    | some key =>
      cases hcipher : c.crypto.encryptionCipher with
      | none => exact hnothing (by simp [Connection.CryptoState.encryptBytes, hcipher])
      | some cipher =>
        cases hgen : c.crypto.nonceGen with
        | none => exact hnothing (by simp [Connection.CryptoState.encryptBytes, hgen])
        | some n =>
          by_cases hlt : n + 1 < 2 ^ 64
          · have hbytes : c.crypto.encryptBytes =
                (if key.length = cipher.keyLen then some (.sealed key cipher n) else none,
                  { c.crypto with nonceGen := some (n + 1) }) := by
              simp only [Connection.CryptoState.encryptBytes, hkey, hcipher, hgen, if_pos hlt]
            have hbefore : c.generator = some (key, n) := by
              simp [generator, hencrypt, hkey, hgen]
            have hafter : c.send.2.generator = some (key, n + 1) := by
              simp [hsend, hbytes, generator, hencrypt, hkey]
            by_cases hlen : key.length = cipher.keyLen
            · exact .sealed key cipher n hbefore hafter (Nat.lt_of_succ_lt hlt)
                (by rw [hsend, hbytes, if_pos hlen])
            · exact .skip key n hbefore hafter (by rw [hsend, hbytes, if_neg hlen])
          · exact hnothing (by
              simp only [Connection.CryptoState.encryptBytes, hkey, hcipher, hgen, if_neg hlt])
  · exact .plain (by rw [send, if_neg hdead, if_neg hencrypt]) (by simp [send, hdead, hencrypt])

lemma key_send (c : Conn) : c.send.2.key = c.key := by
  rw [key, session_send]
  rfl

lemma generator_congr {c c' : Conn} (hflag : c'.crypto.shouldEncrypt = c.crypto.shouldEncrypt)
    (hkey : c'.crypto.encryptionKey = c.crypto.encryptionKey)
    (hgen : c'.crypto.nonceGen = c.crypto.nonceGen) : c'.generator = c.generator := by
  rw [generator, generator, hflag, hkey, hgen]

lemma generator_establish (hidle : c.generator = none) (params : NegotiatedParams) (s : Session) :
    (c.establish params s).generator = none ∨
      ∃ key, s.encryptionKey = some key ∧ (c.establish params s).generator = some (key, 0) := by
  simp only [establish, Session.activate]
  split
  · rename_i encKey decKey hflag hkey hdec
    exact .inr ⟨encKey, hkey, rfl⟩
  · left
    rw [← hidle]
    split
    · exact generator_congr rfl rfl rfl
    · exact generator_congr rfl rfl rfl

end Conn

namespace World

variable {P : MacPrimitives} {w w' : World} {c : ConnId} {ctx : Option (ConnId × Option Held)}

def frames (w : World) : List (Bytes × Cipher × ℕ) := w.log.filterMap Event.frame

def setupKeys (w : World) : List Bytes := w.log.filterMap Event.newKey

def nonces (w : World) : List (Bytes × Bytes) :=
  w.frames.map fun f => (f.1, (nonceBytes f.2.2).take f.2.1.nonceLen)

def used (w : World) : List (Bytes × ℕ) := w.frames.map fun f => (f.1, f.2.2)

/-- **The condition on a run**: that of `keys_current`, and the keys of session setups are new. -/
structure Fits (w : World) : Prop where
  keys : ∀ e ∈ w.log, e.KeysFit
  fresh : w.setupKeys.Nodup

lemma Fits.of_append (h : Fits w') {es : List Event} (hlog : w'.log = w.log ++ es) : Fits w where
  keys := fun e he => h.keys e (by rw [hlog]; exact mem_append_left es he)
  fresh := by
    have hfresh := h.fresh
    rw [setupKeys, hlog, filterMap_append] at hfresh
    exact (nodup_append.1 hfresh).1

structure Nonces (w : World) : Prop extends Keys w where
  ring : Fits w → Keyring (Conn.key ∘ w.conns) (Conn.generator ∘ w.conns) w.used w.setupKeys
  small : ∀ f ∈ w.frames, f.2.2 < 2 ^ 64

lemma used_of_append {es : List Event} (hlog : w'.log = w.log ++ es) :
    w'.used = w.used ++ (es.filterMap Event.frame).map fun f => (f.1, f.2.2) := by
  rw [used, frames, hlog, filterMap_append, map_append]
  rfl

lemma setupKeys_of_append {es : List Event} (hlog : w'.log = w.log ++ es) :
    w'.setupKeys = w.setupKeys ++ es.filterMap Event.newKey := by
  rw [setupKeys, hlog, filterMap_append]
  rfl

lemma Nonces.extend (hw : Nonces w) (hkeys : Keys w') (es : List Event) (hlog : w'.log = w.log ++ es)
    (hsmall : ∀ f ∈ es.filterMap Event.frame, f.2.2 < 2 ^ 64)
    (hring : Fits w' →
      Keyring (Conn.key ∘ w.conns) (Conn.generator ∘ w.conns) w.used w.setupKeys →
      Keyring (Conn.key ∘ w'.conns) (Conn.generator ∘ w'.conns)
        (w.used ++ (es.filterMap Event.frame).map fun f => (f.1, f.2.2))
        (w.setupKeys ++ es.filterMap Event.newKey)) : Nonces w' := by
  refine ⟨hkeys, fun hfits => ?_, ?_⟩
  · rw [used_of_append hlog, setupKeys_of_append hlog]
    exact hring hfits (hw.ring (hfits.of_append hlog))
  · rw [frames, hlog, filterMap_append]
    exact forall_mem_append.2 ⟨hw.small, hsmall⟩

lemma Nonces.same (hw : Nonces w) (hkeys : Keys w') (es : List Event) (hlog : w'.log = w.log ++ es)
    (hframe : es.filterMap Event.frame = []) (hnew : es.filterMap Event.newKey = [])
    (hkey : ∀ i, (w'.conns i).key = (w.conns i).key)
    (hgenerator : ∀ i, (w'.conns i).generator = (w.conns i).generator) : Nonces w' := by
  refine hw.extend hkeys es hlog (by rw [hframe]; simp) fun _ hring => ?_
  have hkey' : Conn.key ∘ w'.conns = Conn.key ∘ w.conns := funext hkey
  have hgenerator' : Conn.generator ∘ w'.conns = Conn.generator ∘ w.conns := funext hgenerator
  rw [hframe, hnew, hkey', hgenerator', map_nil, append_nil, append_nil]
  exact hring

lemma Nonces.send (hw : Nonces w) (c : ConnId) (h : Option Held) (hkeys : Keys (w.send c h)) :
    Nonces (w.send c h) := by
  have hlog := log_send w c h
  have hkey : Conn.key ∘ (w.send c h).conns = Conn.key ∘ w.conns := by
    rw [conns_send, Function.comp_update, Conn.key_send]
    exact Function.update_eq_self c _
  have hgenerator : Conn.generator ∘ (w.send c h).conns =
      Function.update (Conn.generator ∘ w.conns) c (w.conns c).send.2.generator := by
    rw [conns_send, Function.comp_update]
  have hnew : ∀ o : Option Wire, ((o.map (.sent c h (w.conns c).installs)).toList).filterMap
      Event.newKey = [] := by
    rintro (_ | wire) <;> rfl
  rcases (w.conns c).emits with ⟨hsame, hframe⟩ | ⟨key, n, hbefore, hafter, hframe⟩ |
    ⟨key, cipher, n, hbefore, hafter, hlt, hframe⟩
  · refine hw.same hkeys _ hlog ?_ (hnew _) (congrFun hkey) ?_
    · cases hwire : (w.conns c).send.1 with
      | none => rfl
      | some wire =>
        cases wire with
        | plain => rfl
        | sealed key cipher n => exact absurd hwire (hframe key cipher n)
    · rw [hsame] at hgenerator
      exact congrFun (hgenerator.trans (Function.update_eq_self c _))
  · refine hw.extend hkeys _ hlog (by rw [hframe]; simp) fun _ hring => ?_
    rw [hnew, hframe, hkey, hgenerator, hafter, append_nil]
    simpa using hring.skip hbefore
  · refine hw.extend hkeys _ hlog ?_ fun _ hring => ?_
    · rw [hframe]
      simpa [Event.frame] using hlt
    · rw [hnew, hframe, hkey, hgenerator, hafter, append_nil]
      exact hring.emit hbefore

lemma Nonces.setup (hw : Nonces w) (c : ConnId) {conn : Conn} (hkeys : Keys w') {e : Event}
    {s : Session} (hconns : w'.conns = Function.update w.conns c conn) (hlog : w'.log = w.log ++ [e])
    (hframe : e.frame = none) (hnew : e.newKey = s.encryptionKey) (hkey : conn.key = s.encryptionKey)
    (hgenerator : Fits w → conn.generator = none ∨
      ∃ key, s.encryptionKey = some key ∧ conn.generator = some (key, 0)) : Nonces w' := by
  refine hw.extend hkeys [e] hlog (by simp [hframe]) fun hfits hring => ?_
  have hfresh : ∀ k, s.encryptionKey = some k → k ∉ w.setupKeys := by
    intro k hk hmem
    have hnodup := hfits.fresh
    rw [setupKeys_of_append hlog] at hnodup
    exact (nodup_append.1 hnodup).2.2 k hmem k (by simp [hnew, hk]) rfl
  have hadded : [e].filterMap Event.newKey = s.encryptionKey.toList := by
    rw [← hnew]
    cases hk : e.newKey <;> simp [hk]
  have hnone : [e].filterMap Event.frame = [] := by simp [hframe]
  have hrenewed := hring.renew (i := c) s.encryptionKey hfresh
  rw [hconns, Function.comp_update, Function.comp_update, hkey, hadded, hnone, map_nil,
    append_nil]
  rcases hgenerator (hfits.of_append hlog) with hidle | ⟨key, hk, hstarted⟩
  · rw [hidle]
    exact hrenewed
  · rw [hstarted]
    have hstart := hrenewed.start (i := c) (k := key)
      (by rw [Function.update_self, hk]) (Function.update_self ..)
    rwa [Function.update_idem] at hstart

lemma Nonces.setConn (hw : Nonces w) (hkeys : Keys w') (c : ConnId) {conn : Conn}
    (hconns : w'.conns = Function.update w.conns c conn) (hlog : w'.log = w.log)
    (hsession : conn.session = (w.conns c).session) (hcrypto : conn.crypto = (w.conns c).crypto) :
    Nonces w' := by
  refine hw.same hkeys [] (by rw [hlog, append_nil]) rfl rfl (congrFun (f := Conn.key ∘ _) ?_)
    (congrFun (f := Conn.generator ∘ _) ?_)
  · have hkey : conn.key = (w.conns c).key := by rw [Conn.key, hsession, Conn.key]
    rw [hconns, Function.comp_update, hkey]
    exact Function.update_eq_self c _
  · have hgenerator : conn.generator = (w.conns c).generator := by
      rw [Conn.generator, hcrypto, Conn.generator]
    rw [hconns, Function.comp_update, hgenerator]
    exact Function.update_eq_self c _

lemma Nonces.generator_eq_none (hw : Nonces w) (hfits : Fits w) {i : ConnId}
    (hnone : (w.conns i).session = none) : (w.conns i).generator = none := by
  rw [Option.eq_none_iff_forall_ne_some]
  rintro ⟨key, n⟩ hgenerator
  have hkey : (w.conns i).key = some key := (hw.ring hfits).live_key i key n hgenerator
  rw [Conn.key, hnone] at hkey
  cases hkey

lemma Nonces.act (hw : Nonces w) (heffect : Effect P ctx w w') : Nonces w' := by
  have hkeys := hw.toKeys.act heffect
  cases heffect with
  | nothing => exact hw
  | send c h _ => exact hw.send c h hkeys
  | markDead c => exact hw.setConn hkeys c rfl rfl rfl rfl
  | install _ =>
    refine hw.extend hkeys [.installed w.sharing] rfl (by simp [Event.frame]) fun _ hring => ?_
    have hwiped := hring.renew (i := w.client.conn) none (by simp)
    show Keyring (Conn.key ∘ Function.update w.conns w.client.conn w.primary.install)
      (Conn.generator ∘ Function.update w.conns w.client.conn w.primary.install) (w.used ++ []) _
    rw [Function.comp_update, Function.comp_update, append_nil]
    exact hwiped
  | establish params outcome hnone =>
    refine hw.setup w.client.conn hkeys rfl rfl rfl rfl rfl fun hfits => ?_
    exact Conn.generator_establish (hw.generator_eq_none hfits hnone) params _

lemma nonces_steady (P : MacPrimitives) : Steady P Nonces where
  keep script trees streams hw := hw.same ((keys_steady P).keep script trees streams hw.toKeys) []
    (append_nil _).symm rfl rfl (fun _ => rfl) fun _ => rfl
  act hw heffect := hw.act heffect
  refresh {w} hw := hw.same hw.toKeys.refresh
    [.refreshed w.refreshSession.client.session w.primary.session] rfl rfl rfl (fun _ => rfl)
    fun _ => rfl
  endShare hw := hw.same ((keys_steady P).endShare hw.toKeys) [] (append_nil _).symm rfl rfl
    (fun _ => rfl) fun _ => rfl
  addConnection {w} addr params outcome hw :=
    hw.setup w.nextConn ((keys_steady P).addConnection addr params outcome hw.toKeys) rfl rfl rfl rfl
      rfl fun _ => Conn.generator_establish rfl params _
  markDead {w} hw := hw.setConn ((keys_steady P).markDead hw.toKeys) w.client.conn rfl rfl rfl rfl
  clearPool hw := hw.same ((keys_steady P).clearPool hw.toKeys) [] (append_nil _).symm rfl rfl
    (fun _ => rfl) fun _ => rfl
  called m h hw := hw.same ((keys_steady P).called m h hw.toKeys) _ rfl rfl rfl (fun _ => rfl)
    fun _ => rfl
  panicked hw := hw.same ((keys_steady P).panicked hw.toKeys) _ rfl rfl rfl (fun _ => rfl)
    fun _ => rfl

lemma shouldEncrypt_update (w : World) (c : ConnId) (conn : Conn)
    (hsame : conn.crypto.shouldEncrypt = (w.conns c).crypto.shouldEncrypt) (i : ConnId) :
    (Function.update w.conns c conn i).crypto.shouldEncrypt = (w.conns i).crypto.shouldEncrypt :=
  (Function.forall_update_iff w.conns fun j x =>
    x.crypto.shouldEncrypt = (w.conns j).crypto.shouldEncrypt).2 ⟨hsame, fun _ _ => rfl⟩ i

lemma Effect.shouldEncrypt_eq (heffect : Effect P ctx w w') (hfits : Fits w')
    (hsharing : w.sharing = true) (i : ConnId) :
    (w'.conns i).crypto.shouldEncrypt = (w.conns i).crypto.shouldEncrypt := by
  cases heffect with
  | nothing => rfl
  | send c h _ =>
    rw [conns_send]
    exact shouldEncrypt_update w c _ (Conn.shouldEncrypt_send _) i
  | markDead c => exact shouldEncrypt_update w c { w.conns c with disconnected := true } rfl i
  | install _ =>
    have hidle : w.sharing = false :=
      hfits.keys (.installed w.sharing) (mem_append_right _ (mem_singleton_self _))
    rw [hsharing] at hidle
    cases hidle
  | establish params outcome _ =>
    have hidle : w.sharing = false ∧ _ :=
      hfits.keys (.established _ _ w.sharing)
        (mem_append_right _ (mem_singleton_self _))
    rw [hsharing] at hidle
    cases hidle.1

structure Activating (h : Held) (encKey decKey : Bytes) (w : World) : Prop where
  nonces : Nonces w
  uses : Using h encKey decKey w
  idle : Fits w → w.primary.crypto.shouldEncrypt = false

lemma activating_stable (P : MacPrimitives) (h : Held) (encKey decKey : Bytes) :
    Stable P (Activating h encKey decKey) (fun _ _ _ => True) where
  script {w} s hw := ⟨(nonces_steady P).keep s w.trees w.streams hw.nonces,
    (calm_using h encKey decKey).keep w w.conns s w.log hw.uses,
    fun hfits => hw.idle ⟨hfits.keys, hfits.fresh⟩⟩
  act {w w' ctx} hw _ heffect := by
    have hnonces := hw.nonces.act heffect
    have hidle : Fits w' → (w'.conns w.client.conn).crypto.shouldEncrypt = false := by
      intro hfits
      obtain ⟨es, hlog⟩ := heffect.log_append
      rw [heffect.shouldEncrypt_eq hfits hw.uses.1]
      exact hw.idle (hfits.of_append hlog)
    obtain ⟨conns, log, rfl⟩ := heffect.eq
    exact ⟨hnonces, (calm_using h encKey decKey).keep w conns w.script log hw.uses, hidle⟩
  script_uses _ _ := trivial
  act_uses _ _ := trivial

lemma Activating.activate {h : Held} {encKey decKey : Bytes} (hw : Activating h encKey decKey w)
    (cipher : Cipher) (hkeys : Keys (w.activateEncryption encKey decKey cipher).endShare) :
    Nonces (w.activateEncryption encKey decKey cipher).endShare := by
  refine hw.nonces.extend hkeys [.activated encKey decKey w.primary.session] rfl
    (by simp [Event.frame]) fun hfits hring => ?_
  have hfits' : Fits w := hfits.of_append rfl
  have hcurrent := hw.nonces.current hfits'.keys
  have hkey : w.primary.key = some encKey := by
    rw [Conn.key, hcurrent.sharing hw.uses.1]
    exact hw.uses.2.2.1
  have hidle : w.primary.generator = none := by
    rw [Conn.generator, hw.idle hfits']
    rfl
  show Keyring
    (Conn.key ∘ Function.update w.conns w.client.conn { w.primary with
      crypto := w.primary.crypto.activateEncryption encKey decKey cipher })
    (Conn.generator ∘ Function.update w.conns w.client.conn { w.primary with
      crypto := w.primary.crypto.activateEncryption encKey decKey cipher })
    (w.used ++ []) (w.setupKeys ++ [])
  rw [Function.comp_update, Function.comp_update, append_nil, append_nil]
  have hsame : Function.update (Conn.key ∘ w.conns) w.client.conn w.primary.key =
      Conn.key ∘ w.conns := Function.update_eq_self w.client.conn _
  rw [show Conn.key { w.primary with
    crypto := w.primary.crypto.activateEncryption encKey decKey cipher } = w.primary.key from rfl,
    hsame]
  exact hring.start hkey hidle

lemma nonces_sharing (P : MacPrimitives) :
    Sharing P Nonces (fun _ _ => True) (fun _ _ _ => True) (fun w => Nonces w ∧ w.sharing = true)
      (fun h w => Nonces w ∧ w.sharing = true ∧ OnPrimary h w) Activating where
  connecting := (nonces_steady P).stable.and_calm ⟨fun _ _ _ _ hw => hw⟩
  connected h := (nonces_steady P).stable.and_calm (calm_onPrimary h)
  activating := activating_stable P
  enter {w} hw := ⟨hw.same hw.toKeys.beginShare
    [.refreshed w.refreshSession.client.session w.primary.session, .sharing w.primary.session]
    (append_assoc _ _ _) rfl rfl (fun _ => rfl) fun _ => rfl, rfl⟩
  leave hw := hw.1
  granted hw := ⟨hw.1, hw.2, rfl, rfl⟩
  skip hw _ := ⟨(nonces_steady P).endShare hw.1, trivial, hw.2.2.connectionFor⟩
  need hw hidle hkey hkey' := ⟨hw.1, ⟨hw.2.1, hw.2.2, hkey, hkey'⟩, fun _ => hidle⟩
  activate cipher hw :=
    have hkeys := (keys_sharing P).activate cipher ⟨hw.nonces.toKeys, hw.uses⟩
    ⟨hw.activate cipher hkeys.1, trivial, hw.uses.2.1.connectionFor⟩

lemma nonces_kept (P : MacPrimitives) : Kept P Nonces (fun _ _ => True) (fun _ _ _ => True) :=
  (nonces_steady P).kept (nonces_sharing P).connectShare

def unauthenticated (w : World) : World := { w with conns := fun _ => { serverName := [] }, log := [] }

lemma nonces_unauthenticated (P : MacPrimitives) (config : ClientConfig) (params : NegotiatedParams)
    (outcome : SetupOutcome) (script : List Input) :
    Nonces (World.connected P config params outcome script).unauthenticated where
  conn_lt := Nat.one_pos
  current _ := ⟨fun _ hs => (by cases hs), fun h => (by cases h)⟩
  keys _ := by simp [unauthenticated]
  ring _ := Keyring.empty
  small := by simp [unauthenticated, frames]

lemma nonces_connected (P : MacPrimitives) (config : ClientConfig) (params : NegotiatedParams)
    (outcome : SetupOutcome) (script : List Input) :
    Nonces (World.connected P config params outcome script) :=
  (nonces_unauthenticated P config params outcome script).setup 0
    (keys_connected P config params outcome script) rfl rfl rfl rfl rfl
    fun _ => Conn.generator_establish rfl params _

lemma Nonces.nodup_nonces (hw : Nonces w) (hused : w.used.Nodup) : w.nonces.Nodup := by
  refine pairwise_map.2 ((pairwise_map.1 hused).imp_of_mem ?_)
  rintro ⟨key, cipher, n⟩ ⟨key', cipher', m⟩ hf hf' hne heq
  obtain ⟨rfl, hnonce⟩ := Prod.mk.inj heq
  exact hne (congrArg (key, ·) (nonce_injective (hw.small _ hf) (hw.small _ hf') hnonce))

/-- **Nonces are not used again.** In every run whose session setups yield keys that were not seen
before, and whose revivals give a session an id other than that of the session which the client holds
and do not interfere with `connect_share`, no two frames are encrypted under the same key and
nonce. -/
theorem nonces_distinct {P : MacPrimitives} {config : ClientConfig} {params : NegotiatedParams}
    {outcome : SetupOutcome} {script : List Input} {calls : List Call} {w : World}
    (hrun : Transition.exec (World.step P) (World.connected P config params outcome script) calls =
      some w) (hfresh : w.setupKeys.Nodup) (hfits : ∀ e ∈ w.log, e.KeysFit) : w.nonces.Nodup :=
  have hw := (nonces_kept P).run (nonces_connected P config params outcome script) hrun
  hw.nodup_nonces (hw.ring ⟨hfits, hfresh⟩).nodup

theorem nonces_distinct_revived :
    ∃ w, Sample.revive 2 = some w ∧ w.setupKeys.Nodup ∧ w.nonces.length = 2 ∧ w.nonces.Nodup := by
  have hrun : ∃ w, Sample.revive 2 = some w ∧ w.setupKeys.Nodup ∧ w.nonces.length = 2 ∧
      ∀ e ∈ w.log, e.KeysFit :=
    Sample.exists_run (by decide +kernel)
  obtain ⟨w, hrun, hfresh, hlength, hfits⟩ := hrun
  exact ⟨w, hrun, hfresh, hlength, nonces_distinct hrun hfresh hfits⟩

/-- **A restarted server that hands out the id again**: the keys of the two sessions differ, and the
first key is used again from counter zero. -/
theorem nonce_reused :
    ∃ w, Sample.revive 1 = some w ∧ w.setupKeys.Nodup ∧ ¬ w.nonces.Nodup :=
  Sample.exists_run (by decide +kernel)

end World

end Smb2
