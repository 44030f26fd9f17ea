import Mathlib.Data.List.AList

/-!
# The peer registry

`registry.Registry`: the records of the connected peers, keyed by peer id, behind
the registry's own lock, so that each method is one atomic step. Go's
`map[string]*models.Peer` is an `AList` keyed by id, which carries the
uniqueness of its keys. A method's `time.Now()` readings are the one clock
reading `now` the method is called at.

The map holds pointers, and `RemovePeer` and `CleanupStale` set `Connected` to
`false` on the record they drop. Nothing reads a record after it has left the
map, so the model drops it without writing the flag.

`CleanupStale` ranges over the map and deletes the entry it stands on, which Go
allows: every entry present at the start is visited once. The model visits them
in the order of the `AList`; Go's order is unspecified, and nothing below depends
on it. `cleanupStale_getPeer` is the spec lemma the hub uses: a peer is gone
exactly when its id was returned, and every other entry is as it was.
-/

namespace Arqut

/-- `models.Peer`, without `AccountID`, which no modelled function reads.
`createdAt = none` is Go's zero `time.Time`. -/
structure Peer where
  id : String
  type : String
  edgeId : String := ""
  publicKey : String := ""
  connected : Bool := false
  lastPing : Int := 0
  createdAt : Option Int := none
  deriving DecidableEq, Repr

/-- `registry.Registry`. -/
structure Registry where
  peers : AList (fun _ : String => Peer)

namespace Registry

/-- `registry.New`. -/
def new : Registry := ⟨∅⟩

/-- `AddPeer`: stamp the record and store it under its id, replacing any other. -/
def addPeer (r : Registry) (peer : Peer) (now : Int) : Registry :=
  ⟨r.peers.insert peer.id
    { peer with createdAt := some (peer.createdAt.getD now), connected := true, lastPing := now }⟩

/-- `GetPeer`. -/
def getPeer (r : Registry) (id : String) : Option Peer := r.peers.lookup id

/-- `RemovePeer`. -/
def removePeer (r : Registry) (id : String) : Registry := ⟨r.peers.erase id⟩

/-- `UpdateLastPing`. -/
def updateLastPing (r : Registry) (id : String) (now : Int) : Registry :=
  match r.peers.lookup id with
  | some peer => ⟨r.peers.insert id { peer with lastPing := now }⟩
  | none => r

/-- One pass of the loop of `CleanupStale` over an entry. -/
def cleanupEntry (timeout now : Int) (acc : Registry × List String)
    (e : Σ _ : String, Peer) : Registry × List String :=
  if now - e.2.lastPing > timeout then (acc.1.removePeer e.1, acc.2 ++ [e.1]) else acc

/-- `CleanupStale(timeout)` at clock reading `now`: the registry left, and the ids
removed, in the order visited. -/
def cleanupStale (r : Registry) (timeout now : Int) : Registry × List String :=
  r.peers.entries.foldl (cleanupEntry timeout now) (r, [])

/-- `GetAllPeers`. -/
def getAllPeers (r : Registry) : List Peer := r.peers.entries.map (·.2)

/-- `GetPeerCount`. -/
def getPeerCount (r : Registry) : Nat := r.peers.entries.length

/-! ## What each method does to one id -/

@[simp] theorem getPeer_new (id : String) : new.getPeer id = none := rfl

@[simp] theorem getPeer_addPeer_self (r : Registry) (peer : Peer) (now : Int) :
    (r.addPeer peer now).getPeer peer.id =
      some { peer with createdAt := some (peer.createdAt.getD now), connected := true,
                       lastPing := now } :=
  AList.lookup_insert _

theorem getPeer_addPeer_of_ne {r : Registry} {peer : Peer} {id : String} (h : id ≠ peer.id)
    (now : Int) : (r.addPeer peer now).getPeer id = r.getPeer id :=
  AList.lookup_insert_ne h

@[simp] theorem getPeer_removePeer_self (r : Registry) (id : String) :
    (r.removePeer id).getPeer id = none :=
  AList.lookup_erase _ _

theorem getPeer_removePeer_of_ne {r : Registry} {id k : String} (h : k ≠ id) :
    (r.removePeer id).getPeer k = r.getPeer k :=
  AList.lookup_erase_ne h

/-- `UpdateLastPing` touches only the ping time of the record it finds. -/
theorem getPeer_updateLastPing (r : Registry) (id k : String) (now : Int) :
    (r.updateLastPing id now).getPeer k =
      if k = id then (r.getPeer k).map ({ · with lastPing := now }) else r.getPeer k := by
  unfold updateLastPing getPeer
  split
  · rename_i peer hp
    split
    · subst k; simp [hp]
    · exact AList.lookup_insert_ne ‹_›
  · rename_i hp
    split
    · subst k; simp [hp]
    · rfl

/-- The loop invariant of `CleanupStale`: an id is gone exactly when it has been
returned, and every other entry is untouched. -/
theorem foldl_cleanupEntry_getPeer (timeout now : Int) (r : Registry)
    (l : List (Σ _ : String, Peer)) (acc : Registry × List String)
    (h : ∀ k, acc.1.getPeer k = if k ∈ acc.2 then none else r.getPeer k) (k : String) :
    (l.foldl (cleanupEntry timeout now) acc).1.getPeer k =
      if k ∈ (l.foldl (cleanupEntry timeout now) acc).2 then none else r.getPeer k := by
  induction l generalizing acc with
  | nil => exact h k
  | cons e l ih =>
    apply ih
    intro k'
    unfold cleanupEntry
    split
    · by_cases hk : k' = e.1
      · subst hk; simp
      · simp only [List.mem_append, List.mem_singleton, hk, or_false]
        rw [getPeer_removePeer_of_ne hk, h k']
    · exact h k'

/-- After `CleanupStale`, a peer is gone exactly when its id was returned; every
other entry is as it was. -/
theorem cleanupStale_getPeer (r : Registry) (timeout now : Int) (k : String) :
    (r.cleanupStale timeout now).1.getPeer k =
      if k ∈ (r.cleanupStale timeout now).2 then none else r.getPeer k :=
  foldl_cleanupEntry_getPeer timeout now r _ (r, []) (fun _ => by simp) k

/-- The loop returns the ids of the stale entries it visits, in the order visited. -/
theorem foldl_cleanupEntry_ids (timeout now : Int) (l : List (Σ _ : String, Peer))
    (acc : Registry × List String) :
    (l.foldl (cleanupEntry timeout now) acc).2 =
      acc.2 ++ (l.filter fun e => decide (now - e.2.lastPing > timeout)).map Sigma.fst := by
  induction l generalizing acc with
  | nil => simp
  | cons e l ih =>
    rw [List.foldl_cons, ih]
    unfold cleanupEntry
    by_cases he : now - e.2.lastPing > timeout <;> simp [he, List.filter_cons]

/-- `CleanupStale` returns each stale peer's id once and no other, drops exactly
the stale peers, and leaves every other entry as it was. This holds for every
registry, timeout and reading, in any order of the loop. -/
theorem cleanupStale_removes_exactly_stale (r : Registry) (timeout now : Int) :
    (∀ k, k ∈ (r.cleanupStale timeout now).2 ↔
        ∃ p, r.getPeer k = some p ∧ now - p.lastPing > timeout) ∧
      (r.cleanupStale timeout now).2.Nodup ∧
      ∀ k, (r.cleanupStale timeout now).1.getPeer k =
        (r.getPeer k).filter fun p => !decide (now - p.lastPing > timeout) := by
  have hids : (r.cleanupStale timeout now).2 =
      (r.peers.entries.filter fun e => decide (now - e.2.lastPing > timeout)).map Sigma.fst := by
    simpa using foldl_cleanupEntry_ids timeout now r.peers.entries (r, [])
  have hmem : ∀ k, k ∈ (r.cleanupStale timeout now).2 ↔
      ∃ p, r.getPeer k = some p ∧ now - p.lastPing > timeout := fun k => by
    simp only [hids, List.mem_map, List.mem_filter, decide_eq_true_eq]
    constructor
    · rintro ⟨⟨k', p⟩, ⟨hp, hst⟩, rfl⟩
      exact ⟨p, AList.mem_lookup_iff.mpr hp, hst⟩
    · rintro ⟨p, hp, hst⟩
      exact ⟨⟨k, p⟩, ⟨AList.mem_lookup_iff.mp hp, hst⟩, rfl⟩
  refine ⟨hmem, hids ▸ r.peers.keys_nodup.sublist ((List.filter_sublist _).map _), fun k => ?_⟩
  rw [cleanupStale_getPeer]
  cases hp : r.getPeer k with
  | none => simp [hmem, hp]
  | some p => by_cases hst : now - p.lastPing > timeout <;> simp [hmem, hp, hst, Option.filter_some]

end Registry

end Arqut
