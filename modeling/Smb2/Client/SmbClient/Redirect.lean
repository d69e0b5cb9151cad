import Smb2.Client.Dfs
import Smb2.Client.SmbClient.Model

set_option autoImplicit false

/-!
# Following a referral

What `handle_dfs_redirect` of `client/mod.rs` makes of a path: it is looked up under the name of the
server and the share, and what the lookup leaves of it is used on the target, where the caller's
`Tree` points from then on. Connections and sessions are the subject of the client's model; here a
path, a tree and a cache go in, and a path, a tree and a cache come out.
-/

open List

namespace Smb2

namespace Dfs

open Name

/-! ## The path on the target -/

def uncPath (tree : Tree) (path : List Char) : List Char :=
  '\\' :: '\\' :: (tree.hostname ++ '\\' :: (tree.shareName ++ '\\' :: encodePath path))

lemma components_uncPath (tree : Tree) (path : List Char) :
    components (uncPath tree path) =
      components tree.hostname ++ components tree.shareName ++ components (encodePath path) := by
  rw [uncPath, components, Components.parts_cons _ (by rfl), Components.parts_cons _ (by rfl),
    Components.parts_append_cons _ _ (by rfl), Components.parts_append_cons _ _ (by rfl),
    append_assoc]
  rfl

def retryPath (L : Lowercase) (e : CachedReferral) (target : DfsTarget) (tree : Tree)
    (path : List Char) : List Char :=
  decodePath (target.resolve (e.remaining (L.normalize (uncPath tree path)))).remainingPath

def unmatched (e : CachedReferral) (tree : Tree) (path : List Char) : List (List Char) :=
  (components (uncPath tree path)).drop (components e.dfsPathPrefix).length

/-- **The image of a path under a referral**: the components behind the prefix, behind those of the
target. -/
def image (e : CachedReferral) (target : DfsTarget) (tree : Tree) (path : List Char) :
    List (List Char) :=
  components target.remainingPrefix ++ unmatched e tree path

lemma components_resolve (target : DfsTarget) (remaining : List Char) :
    components (target.resolve remaining).remainingPath =
      components target.remainingPrefix ++ components remaining := by
  unfold DfsTarget.resolve
  dsimp only
  split
  · rename_i hbegins
    rw [hbegins]
    rfl
  · split
    · rename_i hremaining
      rw [hremaining]
      exact (append_nil _).symm
    · exact Components.parts_append_cons _ _ (by rfl)

lemma components_remaining {e : CachedReferral} {normalized rest : List Char}
    (h : normalized = e.dfsPathPrefix ++ rest) :
    components (e.remaining normalized) = components rest := by
  rw [CachedReferral.remaining, h, drop_left]
  refine Components.parts_dropWhile (fun c hc => ?_) rest
  rw [of_decide_eq_true hc]
  rfl

lemma components_retryPath {L : Lowercase} {e : CachedReferral} {tree : Tree}
    {path rest : List Char} (target : DfsTarget)
    (h : L.normalize (uncPath tree path) = e.dfsPathPrefix ++ rest) :
    components (encodePath (retryPath L e target tree path)) =
      (components target.remainingPrefix ++ components rest).map reencode := by
  rw [retryPath, components_encodePath_decodePath, components_resolve, components_remaining h]

lemma components_rest_of_covers {L : Lowercase} {e : CachedReferral} {tree : Tree}
    {path rest : List Char} (h : L.normalize (uncPath tree path) = e.dfsPathPrefix ++ rest)
    (hboundary : Components.Boundary isSep e.dfsPathPrefix rest) :
    components rest = (unmatched e tree path).map L.toLowercase := by
  rw [unmatched, map_drop, ← L.components_normalize, h, components, components, components,
    Components.parts_append_of_boundary hboundary, drop_left]

lemma length_rest_of_inside {L : Lowercase} {e : CachedReferral} {tree : Tree}
    {path rest : List Char} (h : L.normalize (uncPath tree path) = e.dfsPathPrefix ++ rest)
    (hinside : ¬ Components.Boundary isSep e.dfsPathPrefix rest) :
    (components rest).length = (unmatched e tree path).length + 1 := by
  obtain ⟨init, last, first, tail, -, hbegins, hrest, happend⟩ :=
    Components.parts_append_of_inside hinside
  have hlen := congrArg length (L.components_normalize (uncPath tree path))
  rw [h, length_map, components, happend] at hlen
  simp only [length_append, length_cons] at hlen
  simp only [unmatched, components, hbegins, hrest, length_drop, length_append,
    length_cons, length_nil] at hlen ⊢
  omega

lemma reencode_toLowercase_eq_iff (L : Lowercase) {component : List Char} :
    reencode (L.toLowercase component) = component ↔
      L.toLowercase component = component ∧ Restored component := by
  constructor
  · intro h
    have hidem : L.toLowercase (L.toLowercase component) = L.toLowercase component :=
      L.toLowercase_of_forall _ (L.toLowercase_mem component)
    have hlower := L.toLowercase_reencode hidem
    rw [h] at hlower
    rw [hlower] at h
    exact ⟨hlower, reencode_eq_iff.1 h⟩
  · rintro ⟨hlower, hrestored⟩
    rw [hlower, reencode_eq_iff.2 hrestored]

lemma map_eq_self_iff {α : Type*} {f : α → α} {xs : List α} :
    xs.map f = xs ↔ ∀ x ∈ xs, f x = x := by
  conv_lhs => rw [← map_id xs]
  rw [map_map]
  exact map_inj_left

lemma components_retryPath_eq_image_iff {L : Lowercase} {e : CachedReferral} {tree : Tree}
    {path : List Char} (target : DfsTarget)
    (hnormal : L.normalize e.dfsPathPrefix = e.dfsPathPrefix)
    (hbegins : e.dfsPathPrefix <+: L.normalize (uncPath tree path)) :
    components (encodePath (retryPath L e target tree path)) = image e target tree path ↔
      Covers L e.dfsPathPrefix (uncPath tree path) ∧
        (∀ c ∈ unmatched e tree path, L.toLowercase c = c) ∧
        ∀ c ∈ image e target tree path, Restored c := by
  obtain ⟨rest, hrest⟩ := hbegins
  rw [covers_iff_boundary hnormal hrest.symm, components_retryPath target hrest.symm, image]
  by_cases hboundary : Components.Boundary isSep e.dfsPathPrefix rest
  · have htarget : (components target.remainingPrefix).map reencode =
        components target.remainingPrefix ↔
          ∀ c ∈ components target.remainingPrefix, Restored c := by
      simp only [map_eq_self_iff, reencode_eq_iff]
    have hunmatched : (unmatched e tree path).map (reencode ∘ L.toLowercase) =
        unmatched e tree path ↔
          ∀ c ∈ unmatched e tree path, L.toLowercase c = c ∧ Restored c := by
      simp only [map_eq_self_iff, Function.comp_apply, reencode_toLowercase_eq_iff]
    rw [components_rest_of_covers hrest.symm hboundary, map_append, map_map,
      forall_mem_append]
    constructor
    · intro hsame
      obtain ⟨hbegins, hrest⟩ := append_inj hsame (length_map _)
      have hlower := hunmatched.1 hrest
      exact ⟨hboundary, fun c hc => (hlower c hc).1, htarget.1 hbegins,
        fun c hc => (hlower c hc).2⟩
    · rintro ⟨-, hlower, hbegins, hrestored⟩
      rw [htarget.2 hbegins, hunmatched.2 fun c hc => ⟨hlower c hc, hrestored c hc⟩]
  · refine iff_of_false (fun hsame => ?_) fun h => hboundary h.1
    have hlen := congrArg length hsame
    rw [length_map, length_append, length_append,
      length_rest_of_inside hrest.symm hboundary] at hlen
    omega

/-- **The caller's name, exactly if the lookup keeps it.** The second attempt is sent with the image
of the path exactly if the matched prefix covers the path, the components that it leaves are lower
case, and these and the target's own components are the same after decoding and encoding. -/
theorem retryPath_keeps_name_iff {L : Lowercase} (r : DfsResolver L) (now : ℕ) {tree : Tree}
    {path : List Char} {e : CachedReferral} (target : DfsTarget)
    (hbest : r.bestMatch now (L.normalize (uncPath tree path)) = some e) :
    components (encodePath (retryPath L e target tree path)) = image e target tree path ↔
      Covers L e.dfsPathPrefix (uncPath tree path) ∧
        (∀ c ∈ unmatched e tree path, L.toLowercase c = c) ∧
        ∀ c ∈ image e target tree path, Restored c := by
  obtain ⟨⟨hmem, hbegins, -⟩, -⟩ := DfsResolver.bestMatch_eq_some_iff.1 hbest
  exact components_retryPath_eq_image_iff target (r.normalized e hmem) hbegins

def dfsTree : Tree := ⟨1, ['d', 'f', 's'], ['n', 'a', 's', ':', '4', '4', '5'], true, false⟩

def docsTarget : DfsTarget := ⟨['b', 'o', 'x'], ['f', 'i', 'l', 'e', 's'], []⟩

theorem retryPath_keeps_name_docs :
    components (encodePath (retryPath ascii DfsResolver.docsEntry docsTarget dfsTree
        ['d', 'o', 'c', 's', '/', 'a'])) = [['a']] :=
  (retryPath_keeps_name_iff DfsResolver.docsResolver 0 docsTarget (by decide +kernel)).2
    (by decide +kernel)

/-- The file `docs/A` is asked for as `a` on the target, and the file `docs2/a`, which is in no link,
as `2\a`. -/
theorem retryPath_changes_name :
    let entry := DfsResolver.docsEntry
    DfsResolver.docsResolver.bestMatch 0
        (ascii.normalize (uncPath dfsTree ['d', 'o', 'c', 's', '/', 'A'])) = some entry ∧
      image entry docsTarget dfsTree ['d', 'o', 'c', 's', '/', 'A'] = [['A']] ∧
      components (encodePath (retryPath ascii entry docsTarget dfsTree
        ['d', 'o', 'c', 's', '/', 'A'])) = [['a']] ∧
      DfsResolver.docsResolver.bestMatch 0
        (ascii.normalize (uncPath dfsTree ['d', 'o', 'c', 's', '2', '/', 'a'])) = some entry ∧
      image entry docsTarget dfsTree ['d', 'o', 'c', 's', '2', '/', 'a'] = [['a']] ∧
      components (encodePath (retryPath ascii entry docsTarget dfsTree
        ['d', 'o', 'c', 's', '2', '/', 'a'])) = [['2'], ['a']] := by
  decide +kernel

/-! ## Renaming -/

/-- The requests of `Tree::rename`, as far as the names go: the file is opened, and the name in the
buffer of the SET_INFO request is its new one. -/
structure RenameRequest where
  create : CreateRequest
  newName : List Char
deriving DecidableEq

/-- `Tree::rename`. The new name is not formatted for a DFS share: it is relative to the share. -/
def renameRequest (tree : Tree) (source destination : List Char) : RenameRequest where
  create :=
    { requestedOplockLevel := .none
      impersonationLevel := .impersonation
      desiredAccess := 0x00010080
      fileAttributes := 0
      shareAccess := 7
      createDisposition := .fileOpen
      createOptions := 0
      name := tree.formatPath source
      createContexts := [] }
  newName := encodePath destination

lemma components_formatPath (tree : Tree) (path : List Char) :
    components (tree.formatPath path) =
      components (tree.formatPath []) ++ components (encodePath path) := by
  have hroot : encodePath [] = [] := rfl
  unfold Tree.formatPath
  dsimp only
  rw [hroot]
  cases tree.isDfs with
  | false => rfl
  | true =>
    by_cases hempty : encodePath path = []
    · rw [hempty]
      exact (append_nil _).symm
    · rw [if_pos rfl, if_pos rfl, if_neg hempty, if_pos rfl, components, components, components,
        Components.parts_append_cons _ _ (by rfl), Components.parts_append_cons _ _ (by rfl),
        Components.parts_append_cons _ _ (by rfl), append_assoc]

lemma components_encodePath_eq_image_iff {e : CachedReferral} {target : DfsTarget} {tree : Tree}
    {path : List Char} :
    components (encodePath path) = image e target tree path ↔
      (components (uncPath tree path)).take (components e.dfsPathPrefix).length =
        components tree.hostname ++ components tree.shareName ++
          components target.remainingPrefix := by
  have hparts := components_uncPath tree path
  have hsplit := take_append_drop (components e.dfsPathPrefix).length
    (components (uncPath tree path))
  rw [image, unmatched]
  constructor
  · intro himage
    rw [himage, ← append_assoc] at hparts
    exact append_cancel_right (hsplit.trans hparts)
  · intro htake
    rw [htake, hparts, append_assoc _ (components target.remainingPrefix)] at hsplit
    rw [hparts]
    exact (append_cancel_left hsplit).symm

def SameLink (L : Lowercase) (e : CachedReferral) (tree : Tree) (source destination : List Char) :
    Prop :=
  Covers L e.dfsPathPrefix (uncPath tree source) ∧
    Covers L e.dfsPathPrefix (uncPath tree destination)

instance (L : Lowercase) (e : CachedReferral) (tree : Tree) (source destination : List Char) :
    Decidable (SameLink L e tree source destination) :=
  inferInstanceAs (Decidable (_ ∧ _))

/-- **A rename tried again renames the same pair exactly if nothing has to be stripped from the
destination.** For two paths in the link of the referral that the first is found under, the file is
opened under its image and renamed to the image of the destination exactly if the name of the file
is kept, and the destination begins, up to where the prefix ends, with the server, the share and the
components of the target: only the first path is mapped. -/
theorem rename_retry_iff {L : Lowercase} (r : DfsResolver L) (now : ℕ) {tree : Tree}
    {source destination : List Char} {e : CachedReferral} (target : DfsTarget) (newTree : Tree)
    (hbest : r.bestMatch now (L.normalize (uncPath tree source)) = some e)
    (hlink : SameLink L e tree source destination) :
    let sent := renameRequest newTree (retryPath L e target tree source) destination
    (components sent.create.name =
          components (newTree.formatPath []) ++ image e target tree source ∧
        components sent.newName = image e target tree destination) ↔
      ((∀ c ∈ unmatched e tree source, L.toLowercase c = c) ∧
          ∀ c ∈ image e target tree source, Restored c) ∧
        (components (uncPath tree destination)).take (components e.dfsPathPrefix).length =
          components tree.hostname ++ components tree.shareName ++
            components target.remainingPrefix := by
  obtain ⟨⟨hmem, hbegins, -⟩, -⟩ := DfsResolver.bestMatch_eq_some_iff.1 hbest
  have hsource :=
    components_retryPath_eq_image_iff target (r.normalized e hmem) hbegins
  rw [and_iff_right hlink.1] at hsource
  dsimp only [renameRequest]
  rw [components_formatPath, append_cancel_left_eq, hsource,
    components_encodePath_eq_image_iff]

def filesTree : Tree :=
  ⟨2, ['f', 'i', 'l', 'e', 's'], ['b', 'o', 'x', ':', '4', '4', '5'], false, false⟩

def shareEntry : CachedReferral where
  dfsPathPrefix := ['\\', '\\', 'n', 'a', 's', '\\', 'd', 'f', 's']
  targets := [docsTarget]
  expiresAt := 300 * 10 ^ 9

theorem rename_retry_share :
    let sent := renameRequest filesTree
      (retryPath ascii shareEntry docsTarget dfsTree ['a']) ['b']
    components sent.create.name = [['a']] ∧ components sent.newName = [['b']] :=
  (rename_retry_iff (DfsResolver.new.insert shareEntry (by decide +kernel)) 0 docsTarget filesTree
    (e := shareEntry) (by decide +kernel) (by decide +kernel)).2 (by decide +kernel)

theorem rename_retry_moves :
    let sent := renameRequest filesTree
      (retryPath ascii DfsResolver.docsEntry docsTarget dfsTree ['d', 'o', 'c', 's', '/', 'a'])
      ['d', 'o', 'c', 's', '/', 'b']
    DfsResolver.docsResolver.bestMatch 0
        (ascii.normalize (uncPath dfsTree ['d', 'o', 'c', 's', '/', 'a'])) =
          some DfsResolver.docsEntry ∧
      SameLink ascii DfsResolver.docsEntry dfsTree ['d', 'o', 'c', 's', '/', 'a']
        ['d', 'o', 'c', 's', '/', 'b'] ∧
      components sent.create.name = [['a']] ∧
      components sent.newName = [['d', 'o', 'c', 's'], ['b']] ∧
      image DfsResolver.docsEntry docsTarget dfsTree ['d', 'o', 'c', 's', '/', 'b'] = [['b']] := by
  decide +kernel

/-! ## Calls that pass the same tree -/

structure Grant where
  treeId : TreeId
  isDfs : Bool
  encryptData : Bool
deriving DecidableEq

structure DfsNamespace where
  /-- The share of a server answers a request for a path with `STATUS_PATH_NOT_COVERED`. -/
  notCovered : (server share path : List Char) → Bool
  referral : (server path : List Char) → Except Error RespGetDfsReferral
  /-- What `ensure_connection` and `ensure_tree` get from an address for a share. -/
  connect : (address share : List Char) → Except Error Grant

structure Caller (L : Lowercase) where
  resolver : DfsResolver L
  tree : Tree

def tryTargets (ns : DfsNamespace) (config : ClientConfig) :
    List ResolvedPath → Error → Except Error (List Char × Tree)
  | [], last => .error last
  | resolved :: rest, _ =>
    let address := SmbClient.targetAddr config ⟨resolved.server, resolved.port, resolved.share⟩
    match ns.connect address resolved.share with
    | .ok grant =>
      .ok (decodePath resolved.remainingPath,
        ⟨grant.treeId, resolved.share, address, grant.isDfs, grant.encryptData⟩)
    | .error e => tryTargets ns config rest e

variable {L : Lowercase} (ns : DfsNamespace) (config : ClientConfig)

/-- `handle_dfs_redirect`: the path for the second attempt, the tree that replaces the caller's, and
the cache that is left. -/
def handleDfsRedirect (r : DfsResolver L) (now : ℕ) (tree : Tree) (path : List Char) :
    Except Error (List Char × Tree) × DfsResolver L :=
  match r.resolve now (ns.referral tree.server) (uncPath tree path) with
  | (.error e, r') => (.error e, r')
  | (.ok resolved, r') =>
    (tryTargets ns config resolved (.invalidData "DFS: no targets in referral"), r')

structure Call where
  method : Method
  path : List Char
  now : ℕ
  /-- The session is found dead, has been revived, and the share is granted again. -/
  revived : Option Grant
deriving DecidableEq

def Call.requested (c : Call) : List Char := if c.method = .fsInfo then [] else c.path

structure Address where
  server : List Char
  share : List Char
  path : List Char
deriving DecidableEq, Repr

def addressOf (tree : Tree) (path : List Char) : Address :=
  ⟨tree.server, tree.shareName, encodePath path⟩

structure Outcome (L : Lowercase) where
  caller : Caller L
  /-- Where its last attempt goes; there is none if no target can be reached. -/
  address : Option Address
  path : List Char
  redirected : Bool

/-- **A call.** If the session is dead, it is revived and the call made again; if the path is not
covered, the referral is followed, the tree replaced in place, and the call made again there. -/
def perform (s : Caller L) (c : Call) : Outcome L :=
  match if c.method.plan.recovers then c.revived else none with
  | some grant =>
    let tree : Tree := ⟨grant.treeId, s.tree.shareName, s.tree.server, grant.isDfs,
      grant.encryptData⟩
    ⟨{ s with tree := tree }, some (addressOf tree c.requested), c.requested, false⟩
  | none =>
    if c.method.plan.retriesDfs && config.dfsEnabled &&
        ns.notCovered s.tree.server s.tree.shareName (encodePath c.requested) then
      match handleDfsRedirect ns config s.resolver c.now s.tree c.requested with
      | (.ok (newPath, tree), r) =>
        -- `fs_info` takes the new tree and leaves the path aside.
        let retried := if c.method = .fsInfo then [] else newPath
        ⟨⟨r, tree⟩, some (addressOf tree retried), retried, true⟩
      | (.error _, r) => ⟨⟨r, s.tree⟩, none, c.requested, false⟩
    else
      ⟨s, some (addressOf s.tree c.requested), c.requested, false⟩

def step (s : Caller L) (c : Call) : Option (Caller L) := some (perform ns config s c).caller

end Dfs

end Smb2
