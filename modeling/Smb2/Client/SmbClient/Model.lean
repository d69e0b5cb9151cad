import Smb2.Client.Session
import Smb2.Client.Tree.Basic
import Smb2.Lib.Prog
import Smb2.Lib.Run

set_option autoImplicit false

/-!
# The client

`SmbClient` of `client/mod.rs` and `client/copy.rs`: a primary connection, the session it was
authenticated with, and a pool of further connections for DFS targets. Its methods take a `Tree`
that an earlier call returned, pick a connection for it and send requests; a DFS referral or a dead
session makes some of them get a new tree, in place, and try again.

## Implementation notes

At every point where a method waits, or looks at shared state again, other tasks may have done
anything they can do to the connections: sent requests on them, torn them down, revived the primary
one. `await` takes what they did, and the answer that the method gets, from a script. A revival is
the work of whichever task holds the revival lock, the client's own included, so its steps are in
the script as well. One step of a sender reads the flags and encrypts: a frame whose keys change in
between is as good as one that begins later. The steps by which a finished session setup fills in
the crypto state and publishes the session are one.

A connection is a number, which is never given out twice. The fields marked *ghost* are history and
decide nothing.
-/

namespace Smb2

open Connection (CryptoState)

abbrev ConnId := ℕ

/-! ## Connections -/

inductive Wire
  | plain
  | sealed (key : Bytes) (cipher : Cipher) (counter : ℕ)
deriving DecidableEq, Repr

/-- The part of `encrypt_bytes` under the lock, and whether a frame comes of it. The counter is
checked: `NonceGenerator::next` panics rather than wrap. -/
def Connection.CryptoState.encryptBytes (c : CryptoState) : Option Wire × CryptoState :=
  match c.encryptionKey, c.encryptionCipher, c.nonceGen with
  | some key, some cipher, some counter =>
    if counter + 1 < 2 ^ 64 then
      (if key.length = cipher.keyLen then some (.sealed key cipher counter) else none,
        { c with nonceGen := some (counter + 1) })
    else (none, c)
  | _, _, _ => (none, c)

structure Conn where
  serverName : List Char
  crypto : CryptoState := {}
  params : Option NegotiatedParams := none
  session : Option Session := none
  disconnected : Bool := false
  hasReviver : Bool := false
  revivals : ℕ := 0
  /-- *Ghost*: how often `install_transport` has wiped the state. -/
  installs : ℕ := 0

namespace Conn

def install (c : Conn) : Conn :=
  { c with crypto := {}, params := none, session := none, disconnected := false,
           installs := c.installs + 1 }

def establish (c : Conn) (params : NegotiatedParams) (s : Session) : Conn :=
  { c with crypto := s.activate params.cipher c.crypto, params := some params, session := some s }

def send (c : Conn) : Option Wire × Conn :=
  if c.disconnected then (none, c)
  else if c.crypto.shouldEncrypt then
    let sent := c.crypto.encryptBytes
    (sent.1, { c with crypto := sent.2 })
  else (some .plain, c)

end Conn

/-! ## The client -/

structure ClientConfig where
  addr : List Char
  autoReconnect : Bool
  dfsEnabled : Bool
  dfsTargetOverrides : List (List Char × List Char)
deriving DecidableEq

structure SmbClient where
  config : ClientConfig
  conn : ConnId
  session : Session
  primaryServer : List Char
  extraConnections : List (List Char × ConnId)
deriving DecidableEq

structure Held where
  tree : Tree
  /-- *Ghost*: the connection whose TREE_CONNECT returned it. -/
  issuer : ConnId
  /-- *Ghost*: how often that connection had been wiped by then. -/
  installs : ℕ
  /-- *Ghost*: how often the pool had been cleared by then. -/
  cleared : ℕ
  /-- *Ghost*: the connection was encrypting already, or `connect_share` had the keys for it. -/
  secured : Bool
deriving DecidableEq

inductive Method
  | listDirectory | readFile | readFileCompound | readFilePipelined | writeFile | writeFileCompound
  | writeFilePipelined | fsInfo | deleteFile | deleteFiles | stat | statFiles | rename | renameFiles
  | createDirectory | deleteDirectory | download | upload | openFileReader | createFileWriter
  | createFileWriterExclusive | createFileWriterAt | readFileWithProgress | writeFileWithProgress
  | writeFileStreamed | flushFile | watch | disconnectShare | serverSideCopyFile
  | serverSideCopyFileRange
deriving DecidableEq, Repr

structure Plan where
  /-- It looks its connection up with `connection_for_tree`; otherwise it takes the primary one. -/
  routed : Bool
  retriesDfs : Bool := false
  recovers : Bool := false
  streams : Bool := false
deriving DecidableEq, Repr

def Method.plan : Method → Plan
  | .listDirectory => { routed := true, retriesDfs := true, recovers := true }
  | .readFile => { routed := true, retriesDfs := true, recovers := true }
  | .readFileCompound => { routed := true, retriesDfs := true, recovers := true }
  | .readFilePipelined => { routed := true, retriesDfs := true, recovers := true }
  | .writeFile => { routed := true, retriesDfs := true }
  | .writeFileCompound => { routed := true, retriesDfs := true }
  | .writeFilePipelined => { routed := true, retriesDfs := true }
  | .fsInfo => { routed := true, retriesDfs := true, recovers := true }
  | .deleteFile => { routed := true, retriesDfs := true }
  | .deleteFiles => { routed := true }
  | .stat => { routed := true, retriesDfs := true, recovers := true }
  | .statFiles => { routed := true }
  | .rename => { routed := true, retriesDfs := true }
  | .renameFiles => { routed := true }
  | .createDirectory => { routed := true, retriesDfs := true }
  | .deleteDirectory => { routed := true, retriesDfs := true }
  | .download => { routed := false, streams := true }
  | .upload => { routed := false, streams := true }
  | .openFileReader => { routed := false, streams := true }
  | .createFileWriter => { routed := false, streams := true }
  | .createFileWriterExclusive => { routed := false, streams := true }
  | .createFileWriterAt => { routed := false, streams := true }
  | .readFileWithProgress => { routed := true }
  | .writeFileWithProgress => { routed := false }
  | .writeFileStreamed => { routed := true }
  | .flushFile => { routed := true }
  | .watch => { routed := false, streams := true }
  | .disconnectShare => { routed := true }
  | .serverSideCopyFile => { routed := true }
  | .serverSideCopyFileRange => { routed := true }

lemma Method.routed_of_retriesDfs {m : Method} (h : m.plan.retriesDfs = true) :
    m.plan.routed = true := by
  cases m <;> first | rfl | cases h

/-! ## History -/

inductive Event
  | connected (s : Session)
  /-- A method was called with a tree, when the pool had been cleared so often. -/
  | called (m : Method) (h : Held) (cleared : ℕ)
  /-- A request left on a connection that had been wiped so often, for a tree or none. -/
  | sent (c : ConnId) (h : Option Held) (installs : ℕ) (wire : Wire)
  /-- `install_transport` on the primary connection, and whether a `connect_share` was under way. -/
  | installed (sharing : Bool)
  /-- A session setup has finished on the primary connection, while the client held a session. -/
  | established (s held : Session) (sharing : Bool)
  | pooled (c : ConnId) (s : Session)
  /-- `refresh_session` has left the client with a session, for the current one. -/
  | refreshed (held : Session) (current : Option Session)
  | sharing (current : Option Session)
  | activated (encKey decKey : Bytes) (current : Option Session)
  | panicked
deriving DecidableEq

/-! ## Everything together -/

inductive Failure
  | dfsReferral | disconnected | serverUnresponsive | other
deriving DecidableEq, Repr

inductive Stop
  | failed (e : Failure)
  | panic
deriving DecidableEq, Repr

structure ResolvedPath where
  server : List Char
  port : ℕ
  share : List Char
deriving DecidableEq

inductive Answer
  | done
  | failed (e : Failure)
  | tree (treeId : TreeId) (isDfs encryptData : Bool)
  | targets (resolved : List ResolvedPath)
  | session (params : NegotiatedParams) (outcome : SetupOutcome)
deriving DecidableEq

inductive Act
  | request
  | stream (i : ℕ)
  | other (c : ConnId)
  | markDead (c : ConnId)
  | install
  | establish (params : NegotiatedParams) (outcome : SetupOutcome)
deriving DecidableEq

structure Input where
  acts : List Act := []
  answer : Answer := .done
deriving DecidableEq

structure World where
  client : SmbClient
  conns : ConnId → Conn
  nextConn : ConnId
  script : List Input
  trees : List Held := []
  streams : List (ConnId × Held) := []
  /-- *Ghost*: how often the pool has been cleared. -/
  cleared : ℕ := 0
  /-- *Ghost*: a `connect_share` has refreshed its session and is under way. -/
  sharing : Bool := false
  /-- *Ghost*. -/
  log : List Event := []

namespace World

def record (w : World) (e : Event) : World := { w with log := w.log ++ [e] }

def setConn (w : World) (c : ConnId) (conn : Conn) : World :=
  { w with conns := Function.update w.conns c conn }

def primary (w : World) : Conn := w.conns w.client.conn

def send (w : World) (c : ConnId) (h : Option Held) : World :=
  let sent := (w.conns c).send
  match sent.1 with
  | some wire => (w.setConn c sent.2).record (.sent c h (w.conns c).installs wire)
  | none => w.setConn c sent.2

/-- A task does something; what is not possible is not done. A method that waits for the answer to
its requests comes with its connection and tree. -/
def act (P : MacPrimitives) (ctx : Option (ConnId × Option Held)) (w : World) : Act → World
  | .request =>
    match ctx with
    | some (c, h) => w.send c h
    | none => w
  | .stream i =>
    match w.streams[i]? with
    | some (c, h) => w.send c (some h)
    | none => w
  | .other c => if c < w.nextConn then w.send c none else w
  | .markDead c => w.setConn c { w.conns c with disconnected := true }
  | .install =>
    if w.primary.disconnected ∧ w.primary.hasReviver then
      (w.setConn w.client.conn w.primary.install).record (.installed w.sharing)
    else w
  | .establish params outcome =>
    if w.primary.session = none ∧ w.primary.disconnected = false then
      let s := Session.ofOutcome P params outcome
      (w.setConn w.client.conn
        { w.primary.establish params s with revivals := w.primary.revivals + 1 }).record
          (.established s w.client.session w.sharing)
    else w

def acts (P : MacPrimitives) (ctx : Option (ConnId × Option Held)) (w : World) (as : List Act) :
    World := as.foldl (act P ctx) w

def refreshSession (w : World) : World :=
  let held :=
    match w.primary.session with
    | some current =>
      if current.sessionId ≠ w.client.session.sessionId then current else w.client.session
    | none => w.client.session
  { w with client := { w.client with session := held } }.record
    (.refreshed held w.primary.session)

def beginShare (w : World) : World :=
  { w with sharing := true }.record (.sharing w.primary.session)

def endShare (w : World) : World := { w with sharing := false }

def grant (w : World) (c : ConnId) (share : List Char) (treeId : TreeId)
    (isDfs encryptData : Bool) : Held where
  tree := ⟨treeId, share, (w.conns c).serverName, isDfs, encryptData⟩
  issuer := c
  installs := (w.conns c).installs
  cleared := w.cleared
  secured := (w.conns c).crypto.shouldEncrypt

def activateEncryption (w : World) (encKey decKey : Bytes) (cipher : Cipher) : World :=
  (w.setConn w.client.conn
    { w.primary with crypto := w.primary.crypto.activateEncryption encKey decKey cipher }).record
      (.activated encKey decKey w.primary.session)

def addConnection (P : MacPrimitives) (w : World) (addr : List Char) (params : NegotiatedParams)
    (outcome : SetupOutcome) : World :=
  let s := Session.ofOutcome P params outcome
  let conn : Conn := { serverName := addr.takeWhile (· ≠ ':') }
  { w.setConn w.nextConn (conn.establish params s) with
    nextConn := w.nextConn + 1
    client := { w.client with
      extraConnections := (addr, w.nextConn) :: w.client.extraConnections } }.record
    (.pooled w.nextConn s)

def connectionFor (w : World) (server : List Char) : Option ConnId :=
  if server = w.client.primaryServer then some w.client.conn
  else w.client.extraConnections.lookup server

def clearPool (w : World) : World :=
  { w with
    client := { w.client with primaryServer := w.client.config.addr, extraConnections := [] }
    cleared := w.cleared + 1 }

def setTree (w : World) (slot : ℕ) (h : Held) : World := { w with trees := w.trees.set slot h }

def addTree (w : World) (h : Held) : World := { w with trees := w.trees ++ [h] }

def addStream (w : World) (c : ConnId) (h : Held) : World :=
  { w with streams := w.streams ++ [(c, h)] }

end World

/-! ## The methods -/

abbrev ClientM (α : Type) := Prog World Stop α

namespace SmbClient

open Prog

variable (P : MacPrimitives)

/-- **Waiting**: tasks do what the script says, and the method goes on with its answer. -/
def await (ctx : Option (ConnId × Option Held)) : ClientM Answer := fun w =>
  match w.script with
  | [] => none
  | input :: rest => some (.ok input.answer, { w with script := rest }.acts P ctx input.acts)

def treeConnect (c : ConnId) (share : List Char) : ClientM Held := do
  match ← await P (some (c, none)) with
  | .tree treeId isDfs encryptData => read fun w => w.grant c share treeId isDfs encryptData
  | .failed e => fail (.failed e)
  | _ => diverge

def activateShare (encKey decKey : Bytes) : ClientM Unit := do
  let _ ← await P none
  let cipher ← read fun w => (w.primary.params.bind (·.cipher)).getD .aes128Ccm
  let _ ← await P none
  update fun w => w.activateEncryption encKey decKey cipher

def activateIfNeeded (needed : Bool) (keys : Option Bytes × Option Bytes) : ClientM Unit :=
  match needed, keys with
  | true, (some encKey, some decKey) => activateShare P encKey decKey
  | _, _ => pure ()

def secureShare (h : Held) : ClientM Held := do
  let _ ← await P none
  let encrypting ← read fun w => w.primary.crypto.shouldEncrypt
  let keys ← read fun w => (w.client.session.encryptionKey, w.client.session.decryptionKey)
  activateIfNeeded P (h.tree.encryptData && !encrypting) keys
  update World.endShare
  return { h with secured := encrypting || (keys.1.isSome && keys.2.isSome) }

def connectShare (share : List Char) : ClientM Held := do
  update World.refreshSession
  update World.beginShare
  let c ← read fun w => w.client.conn
  let h ← treeConnect P c share
  let primaryServer ← read fun w => w.client.primaryServer
  secureShare P { h with tree := { h.tree with server := primaryServer } }

def ensureConnection (targetAddr : List Char) : ClientM Unit := do
  match ← read fun w => w.connectionFor targetAddr with
  | some _ => pure ()
  | none => do
    match ← await P none with
    | .session params outcome => update fun w => w.addConnection P targetAddr params outcome
    | .failed e => fail (.failed e)
    | _ => diverge

def ensureTree (targetAddr share : List Char) : ClientM Held := do
  match ← read fun w => w.connectionFor targetAddr with
  | none => fail (.failed .other)
  | some c => do
    let h ← treeConnect P c share
    return { h with tree := { h.tree with server := targetAddr } }

def targetAddr (config : ClientConfig) (r : ResolvedPath) : List Char :=
  (config.dfsTargetOverrides.lookup r.server).getD (r.server ++ ':' :: (toString r.port).toList)

def connectTarget (r : ResolvedPath) : ClientM Held := do
  let addr ← read fun w => targetAddr w.client.config r
  ensureConnection P addr
  ensureTree P addr r.share

def tryTargets : List ResolvedPath → Failure → ClientM Held
  | [], last => fail (.failed last)
  | r :: rest, _ => do
    match ← attempt (connectTarget P r) with
    | .ok h => pure h
    | .error (.failed e) => tryTargets rest e
    | .error .panic => fail .panic

def handleDfsRedirect (h : Held) : ClientM Held := do
  match ← read fun w => w.connectionFor h.tree.server with
  | none => fail .panic
  | some c => do
    match ← await P (some (c, none)) with
    | .targets resolved => tryTargets P resolved .other
    | .failed e => fail (.failed e)
    | _ => diverge

def reconnectIfNeeded : ClientM Unit := do
  let before ← read fun w => (w.primary.disconnected, w.primary.revivals)
  if before.1 then do
    let _ ← await P none
    let after ← read fun w => (w.primary.disconnected, w.primary.revivals)
    if after.2 ≠ before.2 ∨ after.1 = false then pure () else fail (.failed .other)
  else
    pure ()

def recoverTree (h : Held) : ClientM Held := do
  let primaryServer ← read fun w => w.client.primaryServer
  if h.tree.server ≠ primaryServer then
    fail (.failed .disconnected)
  else do
    reconnectIfNeeded P
    update World.refreshSession
    connectShare P h.tree.shareName

def reconnect : ClientM Unit := do
  update fun w =>
    w.setConn w.client.conn { w.primary with hasReviver := true, disconnected := true }
  reconnectIfNeeded P
  update World.refreshSession
  update World.clearPool

def shouldRetryDfs (w : World) (e : Failure) : Bool :=
  w.client.config.dfsEnabled && e == .dfsReferral

def sessionIsGone (w : World) (e : Failure) : Bool :=
  w.client.config.autoReconnect && w.primary.hasReviver &&
    (e == .disconnected || e == .serverUnresponsive)

def connectionForTree (h : Held) : ClientM ConnId := do
  match ← read fun w => w.connectionFor h.tree.server with
  | some c => pure c
  | none => fail .panic

def route (m : Method) (h : Held) : ClientM ConnId :=
  if m.plan.routed then connectionForTree h else read fun w => w.client.conn

def again (slot : ℕ) (h : Held) : ClientM Unit := do
  update fun w => w.setTree slot h
  let c ← connectionForTree h
  match ← await P (some (c, some h)) with
  | .done => pure ()
  | .failed e => fail (.failed e)
  | _ => diverge

def retry (m : Method) (slot : ℕ) (h : Held) (e : Failure) : ClientM Unit := do
  let retries ← read fun w => m.plan.retriesDfs && shouldRetryDfs w e
  let recovers ← read fun w => m.plan.recovers && sessionIsGone w e
  if retries then do
    let new ← handleDfsRedirect P h
    again P slot new
  else if recovers then do
    let new ← recoverTree P h
    again P slot new
  else
    fail (.failed e)

def finish (m : Method) (c : ConnId) (h : Held) : ClientM Unit :=
  if m.plan.streams then update fun w => w.addStream c h else pure ()

def perform (m : Method) (slot : ℕ) (h : Held) : ClientM Unit := do
  update fun w => w.record (.called m h w.cleared)
  let c ← route m h
  match ← await P (some (c, some h)) with
  | .done => finish m c h
  | .failed e => retry P m slot h e
  | _ => diverge

inductive Call
  | connectShare (share : List Char)
  | operation (m : Method) (slot : ℕ)
  | reconnect
  | cloneTree (slot : ℕ)
  | listShares
  | pause
deriving DecidableEq

def exec : Call → ClientM Unit
  | .connectShare share => do
    let h ← connectShare P share
    update fun w => w.addTree h
  | .operation m slot => do
    match ← read fun w => w.trees[slot]? with
    | some h => perform P m slot h
    | none => diverge
  | .reconnect => reconnect P
  | .cloneTree slot => do
    match ← read fun w => w.trees[slot]? with
    | some h => update fun w => w.addTree h
    | none => diverge
  | .listShares => do
    let c ← read fun w => w.client.conn
    let _ ← await P (some (c, none))
  | .pause => do
    let _ ← await P none

end SmbClient

/-- **A call**, from the world before it to the one after it; `none` if it does not return. An error
goes to the caller, who makes other calls. -/
def World.step (P : MacPrimitives) (w : World) (call : SmbClient.Call) : Option World :=
  match SmbClient.exec P call w.endShare with
  | none => none
  | some (.error .panic, w') => some (w'.record .panicked)
  | some (_, w') => some w'

def World.connected (P : MacPrimitives) (config : ClientConfig) (params : NegotiatedParams)
    (outcome : SetupOutcome) (script : List Input) : World :=
  let s := Session.ofOutcome P params outcome
  let conn : Conn :=
    { serverName := config.addr.takeWhile (· ≠ ':'), hasReviver := config.autoReconnect }
  { client := ⟨config, 0, s, config.addr, []⟩
    conns := Function.update (fun _ => { serverName := [] }) 0 (conn.establish params s)
    nextConn := 1
    script := script
    log := [.connected s] }

end Smb2
