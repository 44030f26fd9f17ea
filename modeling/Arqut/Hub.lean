import Arqut.Registry
import Arqut.Message

/-!
# The hub: connections, their read loops, and the cleanup loop

`signaling.Server` keeps the peer registry and the map `connections` from peer
id to `PeerConnection`. `handleWebSocket` admits a connection: it adds the peer
to the registry, then, under the hub lock, cancels and closes an incumbent of the
same id and installs the newcomer. It then reads frames and hands each to
`handleMessage` until a read fails, and its deferred cleanup cancels, closes,
removes the id from the registry and deletes the id from `connections`.
`cleanupLoop` removes stale peers from the registry and cancels and deletes their
connections; `Stop` cancels the server context, which every connection context
descends from, and cancels and closes the connections in the map.

`conn.Close()` on the connection Fiber's websocket handler was handed is a no-op:
the socket stays open until the handler returns. So the `Close()` of a preempted
incumbent and those of `Stop` change nothing a read loop sees; only the
cancellation remains, and the read loop never looks at its context.

Each event here is one of those code paths run without interruption. A
connection is named by the order in which it was accepted. `PeerConn` keeps what
the hub reads of a `PeerConnection` (the peer's id and type) and the state of its
context, its socket and its read loop. The socket closes only when the
handler returns, after the deferred cleanup. A read can fail at any time
(deadline, peer gone), so `close` is always enabled on a reading loop. An event
that is not enabled leaves the hub as it was.

Two things follow from the code and are proved below. The deferred cleanup of a
connection removes its id from both maps whoever holds it now, so the cleanup of
a preempted connection drops its successor (`close_removes_successor`).
Eviction, like preemption and `Stop`, only cancels a connection's context, and
the read loop never looks at the context, so an evicted peer's frames are still
dispatched (`evicted_connection_dispatches`).

Over whole runs, every entry of `connections` names a live connection of its id
(`Hub.MapLive`), every connection passed `wsMiddleware` (`Hub.Admitted`), and each
connection hands to `handleMessage` exactly the frames it read, in the order read
(`frames_dispatched_in_read_order`), preempted, evicted and stopped connections
included, since they go on reading. Since eviction closes no socket, a peer
evicted and admitted again has two open connections reading at once
(`evicted_and_readmitted_both_open`).
-/

namespace Arqut

/-- Where a connection's read loop stands. -/
inductive LoopPc where
  /-- Blocked in `conn.ReadJSON`. -/
  | reading
  /-- Holding a frame it read, about to call `handleMessage`. -/
  | holding (msg : SignalingMessage)
  /-- The loop broke and the deferred cleanup ran. -/
  | ended

/-- A `PeerConnection`, with the state of its context, its socket and its read loop. -/
structure PeerConn where
  peerId : String
  peerType : String
  cancelled : Bool
  closed : Bool
  loop : LoopPc

/-- The hub: the registry, `connections`, every connection accepted so far by
number, the server context, and the frames handed to `handleMessage`, each with
the connection it was read on. -/
structure Hub where
  registry : Registry
  connections : AList (fun _ : String => Nat)
  conns : Nat → Option PeerConn
  next : Nat
  stopped : Bool
  dispatched : List (Nat × SignalingMessage)

/-- `signaling.New` with a fresh registry. -/
def Hub.new : Hub := ⟨Registry.new, ∅, fun _ => none, 0, false, []⟩

/-- `wsMiddleware`'s checks on the path type and the query, with its 400 messages. -/
def wsMiddlewareError (peerType id edgeId : String) : Option String :=
  if peerType ≠ "edge" ∧ peerType ≠ "client" then some "type must be 'edge' or 'client'"
  else if id = "" then some "missing id parameter"
  else if peerType = "client" ∧ edgeId = "" then some "missing edgeid parameter for client"
  else none

/-- Apply `f` to connection `c`. -/
def modifyConn (conns : Nat → Option PeerConn) (c : Nat) (f : PeerConn → PeerConn) :
    Nat → Option PeerConn :=
  fun c' => if c' = c then (conns c').map f else conns c'

@[simp] theorem modifyConn_self (conns : Nat → Option PeerConn) (c : Nat)
    (f : PeerConn → PeerConn) :
    modifyConn conns c f c = (conns c).map f := if_pos rfl

theorem modifyConn_of_ne {conns : Nat → Option PeerConn} {c c' : Nat} (h : c' ≠ c)
    (f : PeerConn → PeerConn) : modifyConn conns c f c' = conns c' := if_neg h

theorem modifyConn_eq_map (conns : Nat → Option PeerConn) (c : Nat) (f : PeerConn → PeerConn) :
    modifyConn conns c f = fun c' => (conns c').map (fun pc => if c' = c then f pc else pc) := by
  funext c'
  by_cases hc : c' = c <;> simp [modifyConn, hc]

/-- `conn.Cancel()`; a `conn.Conn.Close()` after it is a no-op. -/
def PeerConn.cancel (pc : PeerConn) : PeerConn := { pc with cancelled := true }

namespace Hub

/-- Under the hub lock, before a newcomer for `id` is installed: `oldConn.Cancel()`
and `oldConn.Conn.Close()` on the incumbent, if there is one; the close is a
no-op, so the incumbent's loop goes on reading. -/
def cancelIncumbent (connections : AList (fun _ : String => Nat)) (conns : Nat → Option PeerConn)
    (id : String) : Nat → Option PeerConn :=
  match connections.lookup id with
  | some old => modifyConn conns old PeerConn.cancel
  | none => conns

theorem cancelIncumbent_eq_map (connections : AList (fun _ : String => Nat))
    (conns : Nat → Option PeerConn) (id : String) :
    cancelIncumbent connections conns id =
      fun c => (conns c).map fun pc => if connections.lookup id = some c then pc.cancel else pc := by
  unfold cancelIncumbent
  cases connections.lookup id with
  | none => simp
  | some old => simp only [modifyConn_eq_map, Option.some.injEq, eq_comm]

/-- `handleWebSocket` up to its read loop, for a request that passed `wsMiddleware`.
The new context is a child of the server's, so it starts cancelled after `Stop`. -/
def accept (h : Hub) (peerType id edgeId publicKey : String) (now : Int) : Hub :=
  let c := h.next
  { h with
    registry := h.registry.addPeer { id, type := peerType, edgeId, publicKey } now
    connections := h.connections.insert id c
    conns := fun c' =>
      if c' = c then some ⟨id, peerType, h.stopped, false, .reading⟩
      else cancelIncumbent h.connections h.conns id c'
    next := c + 1 }

/-- `conn.ReadJSON` returns the frame `msg` on connection `c`. -/
def read (h : Hub) (c : Nat) (msg : SignalingMessage) : Hub :=
  match h.conns c with
  | some ⟨id, ty, cancelled, false, .reading⟩ =>
    { h with conns := fun c' => if c' = c then some ⟨id, ty, cancelled, false, .holding msg⟩
                                else h.conns c' }
  | _ => h

/-- The read loop of `c` calls `handleMessage` on the frame it holds. -/
def dispatch (h : Hub) (c : Nat) : Hub :=
  match h.conns c with
  | some ⟨id, ty, cancelled, closed, .holding msg⟩ =>
    { h with
      conns := fun c' =>
        if c' = c then some ⟨id, ty, cancelled, closed, .reading⟩ else h.conns c'
      dispatched := h.dispatched ++ [(c, msg)] }
  | _ => h

/-- A read of `c` fails and its deferred cleanup runs: `cancel()`, `conn.Close()`,
`registry.RemovePeer(id)`, then `delete(s.connections, id)`; the handler returns
and the socket is closed. -/
def close (h : Hub) (c : Nat) : Hub :=
  match h.conns c with
  | some ⟨id, ty, _, _, .reading⟩ =>
    { h with
      registry := h.registry.removePeer id
      connections := h.connections.erase id
      conns := fun c' => if c' = c then some ⟨id, ty, true, true, .ended⟩ else h.conns c' }
  | _ => h

/-- The pong handler of `c`, which runs inside its `ReadJSON`. -/
def pong (h : Hub) (c : Nat) (now : Int) : Hub :=
  match h.conns c with
  | some ⟨id, _, _, false, .reading⟩ => { h with registry := h.registry.updateLastPing id now }
  | _ => h

/-- `monitorConnection` fails to write a ping on `c` and cancels it. -/
def pingFail (h : Hub) (c : Nat) : Hub :=
  match h.conns c with
  | some pc => if pc.cancelled then h else { h with conns := modifyConn h.conns c PeerConn.cancel }
  | none => h

/-- One pass of the inner loop of `cleanupLoop`: cancel and delete the connection
of `id`, if it has one. -/
def evictOne (h : Hub) (id : String) : Hub :=
  match h.connections.lookup id with
  | some c =>
    { h with conns := modifyConn h.conns c PeerConn.cancel, connections := h.connections.erase id }
  | none => h

/-- One iteration of `cleanupLoop` with `SessionTimeout = timeout`, at clock
reading `now`. -/
def evict (h : Hub) (timeout now : Int) : Hub :=
  let (registry, removed) := h.registry.cleanupStale timeout now
  removed.foldl evictOne { h with registry }

/-- `Stop`: cancel the server context, which cancels every connection context,
then `Cancel()` and `Close()` every connection in the map, the close a no-op. -/
def stop (h : Hub) : Hub :=
  { h with stopped := true, conns := fun c => (h.conns c).map PeerConn.cancel }

end Hub

/-- What can happen to the hub. -/
inductive HubEvent where
  /-- A WebSocket upgrade on `/signaling/ws/:type` at clock reading `now`. -/
  | accept (peerType id edgeId publicKey : String) (now : Int)
  | read (c : Nat) (msg : SignalingMessage)
  | dispatch (c : Nat)
  | close (c : Nat)
  | pong (c : Nat) (now : Int)
  | pingFail (c : Nat)
  | evict (timeout now : Int)
  | stop

namespace Hub

/-- One event. An upgrade that `wsMiddleware` refuses changes nothing. -/
def step (h : Hub) : HubEvent → Hub
  | .accept ty id edgeId pk now =>
    if wsMiddlewareError ty id edgeId = none then h.accept ty id edgeId pk now else h
  | .read c msg => h.read c msg
  | .dispatch c => h.dispatch c
  | .close c => h.close c
  | .pong c now => h.pong c now
  | .pingFail c => h.pingFail c
  | .evict timeout now => h.evict timeout now
  | .stop => h.stop

/-- A run of events. -/
def run (h : Hub) : List HubEvent → Hub
  | [] => h
  | e :: es => (h.step e).run es

end Hub

/-! ## The cleanup of a connection drops whoever holds its id -/

/-- The deferred cleanup of a connection removes its id from the registry and from
`connections` whoever holds the id now, and leaves every other connection as it
was: if the id has been taken over, the successor stays live but is in neither
map. -/
theorem close_removes_successor (h : Hub) (c : Nat) {pc : PeerConn} (hc : h.conns c = some pc)
    (hl : pc.loop = .reading) :
    (h.step (.close c)).connections.lookup pc.peerId = none ∧
      (h.step (.close c)).registry.getPeer pc.peerId = none ∧
      ∀ c', c' ≠ c → (h.step (.close c)).conns c' = h.conns c' := by
  obtain ⟨id, ty, can, cl, loop⟩ := pc
  subst hl
  simp only [Hub.step, Hub.close, hc]
  exact ⟨AList.lookup_erase _ _, Registry.getPeer_removePeer_self _ _, fun c' h' => if_neg h'⟩

/-- Edge `E` connects twice; the first connection is preempted (cancelled, its
socket still open), and its cleanup leaves the second, live one in neither map. -/
theorem preempted_cleanup_drops_successor :
    let h := Hub.new.run [.accept "edge" "E" "" "" 0, .accept "edge" "E" "" "" 1]
    h.connections.lookup "E" = some 1 ∧
      (h.conns 0).map (fun pc => (pc.cancelled, pc.closed)) = some (true, false) ∧
      ((h.step (.close 0)).connections.lookup "E" = none ∧
        (h.step (.close 0)).registry.getPeer "E" = none ∧
        ∀ c', c' ≠ 0 → (h.step (.close 0)).conns c' = h.conns c') := by
  intro h
  exact ⟨rfl, rfl, close_removes_successor h 0 rfl rfl⟩

/-! ## Eviction does not stop the read loop -/

@[simp] theorem PeerConn.cancel_comp_cancel :
    PeerConn.cancel ∘ PeerConn.cancel = PeerConn.cancel :=
  rfl

/-- Cancelling one connection leaves each connection as it was or cancels it. -/
theorem modifyConn_cancel_or (conns : Nat → Option PeerConn) (c c' : Nat) :
    modifyConn conns c PeerConn.cancel c' = conns c' ∨
      modifyConn conns c PeerConn.cancel c' = (conns c').map PeerConn.cancel := by
  by_cases hc : c' = c
  · subst hc; exact .inr (modifyConn_self _ _ _)
  · exact .inl (modifyConn_of_ne hc _)

/-- One pass of the eviction loop at most cancels a connection. -/
theorem evictOne_conns (h : Hub) (id : String) (c : Nat) :
    (h.evictOne id).conns c = h.conns c ∨
      (h.evictOne id).conns c = (h.conns c).map PeerConn.cancel := by
  unfold Hub.evictOne
  split
  · exact modifyConn_cancel_or _ _ c
  · exact .inl rfl

/-- The eviction loop at most cancels a connection: no socket is closed and no read
loop moves. -/
theorem foldl_evictOne_conns (ids : List String) (h : Hub) (c : Nat) :
    (ids.foldl Hub.evictOne h).conns c = h.conns c ∨
      (ids.foldl Hub.evictOne h).conns c = (h.conns c).map PeerConn.cancel := by
  induction ids generalizing h with
  | nil => exact .inl rfl
  | cons id ids ih =>
    rcases ih (h.evictOne id) with h₁ | h₁ <;> rcases evictOne_conns h id c with h₂ | h₂ <;>
      simp [List.foldl_cons, h₁, h₂, Option.map_map]

theorem foldl_evictOne_dispatched (ids : List String) (h : Hub) :
    (ids.foldl Hub.evictOne h).dispatched = h.dispatched := by
  induction ids generalizing h with
  | nil => rfl
  | cons id ids ih =>
    rw [List.foldl_cons, ih]
    unfold Hub.evictOne
    split <;> rfl

/-- A loop reading on an open socket reads a frame and dispatches it. -/
theorem read_dispatch_dispatched (h : Hub) {c : Nat} {pc : PeerConn} (hc : h.conns c = some pc)
    (hl : pc.loop = .reading) (hopen : pc.closed = false) (msg : SignalingMessage) :
    ((h.read c msg).dispatch c).dispatched = h.dispatched ++ [(c, msg)] := by
  obtain ⟨id, ty, can, cl, loop⟩ := pc
  cases hl; cases hopen
  simp only [Hub.read, hc, Hub.dispatch, if_pos]

/-- A connection whose loop is reading on an open socket before a `cleanupLoop`
iteration still reads the next frame and hands it to `handleMessage`, whether or
not the iteration evicted it. -/
theorem evicted_connection_dispatches (h : Hub) (c : Nat) {pc : PeerConn}
    (hc : h.conns c = some pc) (hl : pc.loop = .reading) (hopen : pc.closed = false)
    (timeout now : Int) (msg : SignalingMessage) :
    (h.run [.evict timeout now, .read c msg, .dispatch c]).dispatched =
      h.dispatched ++ [(c, msg)] := by
  have hd : (h.evict timeout now).dispatched = h.dispatched := foldl_evictOne_dispatched _ _
  show (((h.evict timeout now).read c msg).dispatch c).dispatched = _
  rw [← hd]
  rcases foldl_evictOne_conns (h.registry.cleanupStale timeout now).2
    { h with registry := (h.registry.cleanupStale timeout now).1 } c with h₁ | h₁
  · exact read_dispatch_dispatched _ (h₁.trans hc) hl hopen msg
  · exact read_dispatch_dispatched _ (h₁.trans (congrArg _ hc) : _ = some pc.cancel) hl hopen msg

/-- Edge `E` connects at time 0 and is never ponged; the `cleanupLoop` iteration at
time 100 with timeout 10 evicts and cancels it, and its next frame is still
dispatched. -/
theorem evicted_peer_still_dispatched :
    let h := Hub.new.run [.accept "edge" "E" "" "" 0]
    let f : SignalingMessage := { type := "service-sync" }
    ((h.step (.evict 10 100)).conns 0).map PeerConn.cancelled = some true ∧
      (h.step (.evict 10 100)).connections.lookup "E" = none ∧
      (h.run [.evict 10 100, .read 0 f, .dispatch 0]).dispatched = h.dispatched ++ [(0, f)] := by
  intro h f
  exact ⟨rfl, rfl, evicted_connection_dispatches h 0 rfl rfl rfl 10 100 f⟩

/-! ## `connections` names only live connections of its ids -/

/-- The map's invariant: every entry names a connection of that id whose read loop
has not ended, and no connection numbered `next` or above exists yet. -/
structure Hub.MapLive (h : Hub) : Prop where
  live : ∀ id c, h.connections.lookup id = some c →
    ∃ pc, h.conns c = some pc ∧ pc.peerId = id ∧ pc.loop ≠ .ended
  fresh : ∀ c, h.next ≤ c → h.conns c = none

namespace Hub.MapLive

variable {h h' : Hub}

theorem new : Hub.new.MapLive := ⟨fun _ _ hc => (nomatch hc), fun _ _ => rfl⟩

/-- A step that only drops entries of the map and keeps every live connection of an
entry live under its id keeps the invariant. -/
theorem mono (hl : h.MapLive) (hnext : h'.next = h.next)
    (hmap : ∀ id c, h'.connections.lookup id = some c → h.connections.lookup id = some c)
    (hconns : ∀ c pc, h.conns c = some pc → pc.loop ≠ .ended →
      ∃ pc', h'.conns c = some pc' ∧ pc'.peerId = pc.peerId ∧ pc'.loop ≠ .ended)
    (hnone : ∀ c, h.conns c = none → h'.conns c = none) : h'.MapLive where
  live id c hc := by
    obtain ⟨pc, hpc, rfl, hlive⟩ := hl.live id c (hmap id c hc)
    exact hconns c pc hpc hlive
  fresh c hc := hnone c (hl.fresh c (hnext ▸ hc))

/-- Changing connections but not their peer or loop keeps the invariant. -/
theorem map_conns (hl : h.MapLive) {f : Nat → PeerConn → PeerConn}
    (hconns : h'.conns = fun c => (h.conns c).map (f c)) (hmap : h'.connections = h.connections)
    (hnext : h'.next = h.next)
    (hf : ∀ c pc, (f c pc).peerId = pc.peerId ∧ (f c pc).loop = pc.loop) :
    h'.MapLive :=
  hl.mono hnext (fun _ _ hc => hmap ▸ hc)
    (fun c pc hpc hlive => ⟨f c pc, by simp [hconns, hpc], (hf c pc).1, (hf c pc).2 ▸ hlive⟩)
    (fun c hc => by simp [hconns, hc])

theorem accept (hl : h.MapLive) (ty id edgeId pk : String) (now : Int) :
    (h.accept ty id edgeId pk now).MapLive := by
  have hcancel := congrFun (cancelIncumbent_eq_map h.connections h.conns id)
  refine ⟨fun id' c hc => ?_, fun c hc => ?_⟩
  · simp only [Hub.accept] at hc ⊢
    by_cases hid : id' = id
    · subst hid
      rw [AList.lookup_insert, Option.some.injEq] at hc
      subst hc
      exact ⟨_, if_pos rfl, rfl, fun h => nomatch h⟩
    · rw [AList.lookup_insert_ne hid] at hc
      obtain ⟨pc, hpc, rfl, hlive⟩ := hl.live id' c hc
      have hne : c ≠ h.next := fun hcn => by simp [hl.fresh c (hcn ▸ le_refl _)] at hpc
      rw [if_neg hne, hcancel, hpc]
      split
      · exact ⟨_, rfl, rfl, hlive⟩
      · exact ⟨_, rfl, rfl, hlive⟩
  · simp only [Hub.accept] at hc ⊢
    rw [if_neg (by omega), hcancel, hl.fresh c (by omega), Option.map_none']

theorem read (hl : h.MapLive) (c : Nat) (msg : SignalingMessage) : (h.read c msg).MapLive := by
  unfold Hub.read
  split
  · rename_i id ty can hc
    refine hl.mono rfl (fun _ _ hc => hc) (fun c' pc hpc hlive => ?_) (fun c' hn => ?_)
    · by_cases h' : c' = c
      · subst h'; rw [hc, Option.some.injEq] at hpc; subst hpc
        exact ⟨_, if_pos rfl, rfl, fun h => nomatch h⟩
      · exact ⟨pc, by simp [h', hpc], rfl, hlive⟩
    · have : c' ≠ c := fun h' => by simp [h', hc] at hn
      simp [this, hn]
  · exact hl

theorem dispatch (hl : h.MapLive) (c : Nat) : (h.dispatch c).MapLive := by
  unfold Hub.dispatch
  split
  · rename_i id ty can cl msg hc
    refine hl.mono rfl (fun _ _ hc => hc) (fun c' pc hpc hlive => ?_) (fun c' hn => ?_)
    · by_cases h' : c' = c
      · subst h'; rw [hc, Option.some.injEq] at hpc; subst hpc
        exact ⟨_, if_pos rfl, rfl, fun h => nomatch h⟩
      · exact ⟨pc, by simp [h', hpc], rfl, hlive⟩
    · have : c' ≠ c := fun h' => by simp [h', hc] at hn
      simp [this, hn]
  · exact hl

theorem close (hl : h.MapLive) (c : Nat) : (h.close c).MapLive := by
  unfold Hub.close
  split
  · rename_i id ty can cl hc
    refine ⟨fun id' c' hc' => ?_, fun c' hc' => ?_⟩
    · have hid : id' ≠ id := fun e => by subst e; simp at hc'
      rw [AList.lookup_erase_ne hid] at hc'
      obtain ⟨pc, hpc, rfl, hlive⟩ := hl.live id' c' hc'
      have hne : c' ≠ c := fun e => by
        subst e; rw [hc, Option.some.injEq] at hpc; exact hid (hpc ▸ rfl)
      exact ⟨pc, by simp [hne, hpc], rfl, hlive⟩
    · have hne : c' ≠ c := fun e => by subst e; simp [hl.fresh _ hc'] at hc
      simp [hne, hl.fresh c' hc']
  · exact hl

theorem evictOne (hl : h.MapLive) (id : String) : (h.evictOne id).MapLive := by
  unfold Hub.evictOne
  split
  · rename_i c _
    refine hl.mono rfl (fun id' c' hc' => ?_) (fun c' pc hpc hlive => ?_) (fun c' hn => ?_)
    · by_cases hid : id' = id
      · subst hid; simp at hc'
      · exact (AList.lookup_erase_ne hid).symm.trans hc'
    · by_cases h' : c' = c
      · subst h'; exact ⟨pc.cancel, by simp [hpc], rfl, hlive⟩
      · exact ⟨pc, (modifyConn_of_ne h' _).trans hpc, rfl, hlive⟩
    · by_cases h' : c' = c
      · subst h'; simp [hn]
      · exact (modifyConn_of_ne h' _).trans hn
  · exact hl

theorem foldl_evictOne (ids : List String) (hl : h.MapLive) :
    (ids.foldl Hub.evictOne h).MapLive := by
  induction ids generalizing h with
  | nil => exact hl
  | cons id ids ih => exact ih (hl.evictOne id)

theorem step (hl : h.MapLive) (e : HubEvent) : (h.step e).MapLive := by
  cases e with
  | accept ty id edgeId pk now =>
    simp only [Hub.step]; split
    · exact hl.accept ty id edgeId pk now
    · exact hl
  | read c msg => exact hl.read c msg
  | dispatch c => exact hl.dispatch c
  | close c => exact hl.close c
  | pong c now => simp only [Hub.step, Hub.pong]; split <;> exact ⟨hl.live, hl.fresh⟩
  | pingFail c =>
    simp only [Hub.step, Hub.pingFail]
    split
    · split
      · exact hl
      · exact hl.map_conns (modifyConn_eq_map _ _ _) rfl rfl fun c' pc => by
          by_cases h' : c' = c <;> simp [h', PeerConn.cancel]
    · exact hl
  | evict timeout now => exact foldl_evictOne _ ⟨hl.live, hl.fresh⟩
  | stop =>
    exact hl.map_conns rfl rfl rfl fun _ _ => ⟨rfl, rfl⟩

theorem run (hl : h.MapLive) (es : List HubEvent) : (h.run es).MapLive := by
  induction es generalizing h with
  | nil => exact hl
  | cons e es ih => exact ih (hl.step e)

end Hub.MapLive

/-- Over every run from a fresh hub, every entry of `connections` names a connection
of that id whose read loop has not ended. Which connection of the id it names is
another matter: the cleanup of a preempted connection drops its successor. -/
theorem connections_name_live_connections (es : List HubEvent) : (Hub.new.run es).MapLive :=
  Hub.MapLive.new.run es

/-! ## Every connection passed `wsMiddleware` -/

/-- Every connection of `conns'` is one of `conns`, of the same peer and type. -/
def KeepsPeers (conns conns' : Nat → Option PeerConn) : Prop :=
  ∀ c pc', conns' c = some pc' →
    ∃ pc, conns c = some pc ∧ pc.peerId = pc'.peerId ∧ pc.peerType = pc'.peerType

namespace KeepsPeers

variable {conns conns' : Nat → Option PeerConn}

theorem refl (conns : Nat → Option PeerConn) : KeepsPeers conns conns :=
  fun _ pc h => ⟨pc, h, rfl, rfl⟩

/-- Cancelling connections keeps every peer. -/
theorem map {f : Nat → PeerConn → PeerConn}
    (hf : ∀ c pc, (f c pc).peerId = pc.peerId ∧ (f c pc).peerType = pc.peerType) :
    KeepsPeers conns (fun c => (conns c).map (f c)) := fun c _ h => by
  obtain ⟨pc, hpc, rfl⟩ := Option.map_eq_some'.mp h
  exact ⟨pc, hpc, (hf c pc).1.symm, (hf c pc).2.symm⟩

theorem modify (c : Nat) {f : PeerConn → PeerConn}
    (hf : ∀ pc, (f pc).peerId = pc.peerId ∧ (f pc).peerType = pc.peerType) :
    KeepsPeers conns (modifyConn conns c f) := by
  rw [modifyConn_eq_map]
  exact map fun c' pc => by split <;> simp [hf]

/-- Moving one connection's loop keeps its peer. -/
theorem update {c : Nat} {pc pc' : PeerConn} (hc : conns c = some pc)
    (hid : pc'.peerId = pc.peerId) (hty : pc'.peerType = pc.peerType) :
    KeepsPeers conns (fun c' => if c' = c then some pc' else conns c') := fun c' _ h => by
  dsimp only at h
  split at h
  · subst c'; cases h; exact ⟨pc, hc, hid.symm, hty.symm⟩
  · exact ⟨_, h, rfl, rfl⟩

end KeepsPeers

namespace Hub

theorem cancelIncumbent_keepsPeers (connections : AList (fun _ : String => Nat))
    (conns : Nat → Option PeerConn) (id : String) :
    KeepsPeers conns (cancelIncumbent connections conns id) := by
  rw [cancelIncumbent_eq_map]
  exact .map fun _ _ => by split <;> exact ⟨rfl, rfl⟩

/-- Every event but an upgrade keeps every connection's peer. -/
theorem step_keepsPeers (h : Hub) {e : HubEvent}
    (he : ∀ ty id edgeId pk now, e ≠ .accept ty id edgeId pk now) :
    KeepsPeers h.conns (h.step e).conns := by
  cases e with
  | accept ty id edgeId pk now => exact absurd rfl (he ty id edgeId pk now)
  | read c msg =>
    show KeepsPeers h.conns (h.read c msg).conns
    unfold read; split
    · rename_i hc; exact .update hc rfl rfl
    · exact .refl _
  | dispatch c =>
    show KeepsPeers h.conns (h.dispatch c).conns
    unfold dispatch; split
    · rename_i hc; exact .update hc rfl rfl
    · exact .refl _
  | close c =>
    show KeepsPeers h.conns (h.close c).conns
    unfold close; split
    · rename_i hc; exact .update hc rfl rfl
    · exact .refl _
  | pong c now =>
    show KeepsPeers h.conns (h.pong c now).conns
    unfold pong; split <;> exact .refl _
  | pingFail c =>
    show KeepsPeers h.conns (h.pingFail c).conns
    unfold pingFail
    split
    · split; exacts [.refl _, .modify c fun _ => ⟨rfl, rfl⟩]
    · exact .refl _
  | evict timeout now =>
    intro c pc' hc
    change ((h.registry.cleanupStale timeout now).2.foldl evictOne
      { h with registry := (h.registry.cleanupStale timeout now).1 }).conns c = some pc' at hc
    rcases foldl_evictOne_conns _ _ c with hs | hs <;> rw [hs] at hc
    · exact ⟨pc', hc, rfl, rfl⟩
    · exact @KeepsPeers.map h.conns (fun _ => PeerConn.cancel) (fun _ _ => ⟨rfl, rfl⟩) c pc' hc
  | stop => exact .map fun _ _ => ⟨rfl, rfl⟩

/-- Every connection passed `wsMiddleware`'s checks on its type and query. -/
def Admitted (h : Hub) : Prop :=
  ∀ c pc, h.conns c = some pc → ∃ edgeId, wsMiddlewareError pc.peerType pc.peerId edgeId = none

namespace Admitted

variable {h : Hub}

theorem new : Hub.new.Admitted := fun _ _ hc => nomatch hc

theorem step (ha : h.Admitted) (e : HubEvent) : (h.step e).Admitted := by
  by_cases hacc : ∃ ty id edgeId pk now, e = .accept ty id edgeId pk now
  · obtain ⟨ty, id, edgeId, pk, now, rfl⟩ := hacc
    simp only [Hub.step]
    split
    · intro c pc hc
      simp only [Hub.accept] at hc
      split at hc
      · cases hc; exact ⟨edgeId, ‹_›⟩
      · obtain ⟨pc₀, h₀, hid, hty⟩ := cancelIncumbent_keepsPeers _ _ _ c pc hc
        exact hid ▸ hty ▸ ha c pc₀ h₀
    · exact ha
  · push_neg at hacc
    intro c pc hc
    obtain ⟨pc₀, h₀, hid, hty⟩ := step_keepsPeers h hacc c pc hc
    exact hid ▸ hty ▸ ha c pc₀ h₀

theorem run (ha : h.Admitted) (es : List HubEvent) : (h.run es).Admitted := by
  induction es generalizing h with
  | nil => exact ha
  | cons e es ih => exact ih (ha.step e)

end Admitted

end Hub

/-- `wsMiddleware` lets through only the two peer types, with an id. -/
theorem wsMiddlewareError_eq_none {ty id edgeId : String}
    (h : wsMiddlewareError ty id edgeId = none) : (ty = "edge" ∨ ty = "client") ∧ id ≠ "" := by
  unfold wsMiddlewareError at h
  split_ifs at h with h₁ h₂
  exact ⟨(not_and_or.mp h₁).imp not_not.mp not_not.mp, h₂⟩

/-! ## One read loop per connection: frames are handled in the order read -/

namespace Hub

/-- Whether connection `c`'s loop takes the next `read`: open, and blocked in
`ReadJSON`. -/
def readable (h : Hub) (c : Nat) : Bool :=
  match h.conns c with
  | some ⟨_, _, _, false, .reading⟩ => true
  | _ => false

/-- The frame connection `c`'s loop holds, if any. -/
def heldOn (h : Hub) (c : Nat) : List SignalingMessage :=
  match (h.conns c).map PeerConn.loop with
  | some (.holding msg) => [msg]
  | _ => []

/-- The frames handed to `handleMessage` from connection `c`, in order. -/
def dispatchedOn (h : Hub) (c : Nat) : List SignalingMessage :=
  (h.dispatched.filter (·.1 == c)).map (·.2)

/-- The frame event `e` reads on connection `c`, if its loop takes it. -/
def readOn (h : Hub) (c : Nat) : HubEvent → List SignalingMessage
  | .read c' msg => if c' = c ∧ h.readable c then [msg] else []
  | _ => []

/-- The frames a run reads on connection `c`, in order. -/
def readsOn (h : Hub) (c : Nat) : List HubEvent → List SignalingMessage
  | [] => []
  | e :: es => h.readOn c e ++ (h.step e).readsOn c es

/-- A socket is closed only once its loop has ended: only a connection's own cleanup
closes it, since preemption, eviction and `Stop` only cancel. -/
def ClosedOnlyEnded (conns : Nat → Option PeerConn) : Prop :=
  ∀ c pc, conns c = some pc → pc.closed = true → pc.loop = .ended

namespace ClosedOnlyEnded

variable {conns conns' : Nat → Option PeerConn} {h : Hub}

theorem new : ClosedOnlyEnded Hub.new.conns := fun _ _ hc => Option.noConfusion hc

/-- Cancelling connections closes none. -/
theorem of_cancel (ho : ClosedOnlyEnded conns)
    (hc : ∀ c, conns' c = conns c ∨ conns' c = (conns c).map PeerConn.cancel) :
    ClosedOnlyEnded conns' := fun c pc hpc => by
  rcases hc c with e | e <;> rw [e] at hpc
  · exact ho c pc hpc
  · obtain ⟨pc₀, h₀, rfl⟩ := Option.map_eq_some'.mp hpc
    exact ho c pc₀ h₀

theorem update (ho : ClosedOnlyEnded conns) (c : Nat) {pc' : PeerConn}
    (hpc' : pc'.closed = true → pc'.loop = .ended) :
    ClosedOnlyEnded (fun c' => if c' = c then some pc' else conns c') := fun c' pc hpc => by
  dsimp only at hpc
  split at hpc
  · cases hpc; exact hpc'
  · exact ho c' pc hpc

theorem step (ho : ClosedOnlyEnded h.conns) (e : HubEvent) : ClosedOnlyEnded (h.step e).conns := by
  cases e with
  | accept ty id edgeId pk now =>
    simp only [Hub.step]; split
    · refine (of_cancel ho fun c => ?_).update h.next fun h => nomatch h
      unfold cancelIncumbent
      cases h.connections.lookup id
      · exact .inl rfl
      · exact modifyConn_cancel_or _ _ c
    · exact ho
  | read c msg =>
    show ClosedOnlyEnded (h.read c msg).conns
    unfold read; split
    · exact ho.update c fun h => nomatch h
    · exact ho
  | dispatch c =>
    show ClosedOnlyEnded (h.dispatch c).conns
    unfold dispatch; split
    · rename_i hc; exact ho.update c fun hcl => nomatch ho c _ hc hcl
    · exact ho
  | close c =>
    show ClosedOnlyEnded (h.close c).conns
    unfold close; split
    · exact ho.update c fun _ => rfl
    · exact ho
  | pong c now => simp only [Hub.step, Hub.pong]; split <;> exact ho
  | pingFail c =>
    simp only [Hub.step, Hub.pingFail]
    split
    · split; exacts [ho, of_cancel ho (modifyConn_cancel_or _ c)]
    · exact ho
  | evict timeout now => exact of_cancel ho (foldl_evictOne_conns _ _)
  | stop => exact of_cancel ho fun _ => .inr rfl

theorem run (ho : ClosedOnlyEnded h.conns) (es : List HubEvent) :
    ClosedOnlyEnded (h.run es).conns := by
  induction es generalizing h with
  | nil => exact ho
  | cons e es ih => exact ih (ho.step e)

/-- Every loop blocked in `ReadJSON` takes the next frame, cancelled or not. -/
theorem readable_iff (ho : ClosedOnlyEnded h.conns) (c : Nat) :
    h.readable c = true ↔ (h.conns c).map PeerConn.loop = some .reading := by
  unfold readable
  cases hc : h.conns c with
  | none => simp
  | some pc =>
    obtain ⟨id, ty, can, cl, loop⟩ := pc
    have := ho c _ hc
    cases cl <;> cases loop <;> simp_all

end ClosedOnlyEnded

@[simp] theorem PeerConn.loop_comp_cancel : PeerConn.loop ∘ PeerConn.cancel = PeerConn.loop :=
  rfl

theorem heldOn_of_loop {h h' : Hub} {c : Nat}
    (hc : (h'.conns c).map PeerConn.loop = (h.conns c).map PeerConn.loop) :
    h'.heldOn c = h.heldOn c := by
  unfold heldOn; rw [hc]

/-- A step that dispatches nothing and leaves the frame a connection holds keeps
what the connection has read, holds and handed on. -/
theorem order_of_held {h h' : Hub} {c : Nat} (hc : h'.heldOn c = h.heldOn c)
    (hd : h'.dispatched = h.dispatched) :
    h'.dispatchedOn c ++ h'.heldOn c = h.dispatchedOn c ++ h.heldOn c := by
  rw [hc, dispatchedOn, dispatchedOn, hd]

theorem cancelIncumbent_loop (connections : AList (fun _ : String => Nat))
    (conns : Nat → Option PeerConn) (id : String) (c : Nat) :
    (cancelIncumbent connections conns id c).map PeerConn.loop = (conns c).map PeerConn.loop := by
  rw [cancelIncumbent_eq_map, Option.map_map]
  congr 1
  funext pc
  split <;> rfl

variable {h : Hub}

/-- What one step does to a connection's frames: a `read` it takes joins the frames
read and held; a `dispatch` moves the held frame to those handed on. -/
theorem step_order (hl : h.MapLive) (e : HubEvent) (c : Nat) :
    (h.step e).dispatchedOn c ++ (h.step e).heldOn c =
      h.dispatchedOn c ++ h.heldOn c ++ h.readOn c e := by
  cases e with
  | accept ty id edgeId pk now =>
    simp only [readOn, List.append_nil, step]
    split
    · refine order_of_held ?_ rfl
      by_cases hc : c = h.next
      · subst hc; simp [heldOn, Hub.accept, hl.fresh h.next le_rfl]
      · exact heldOn_of_loop (by simp only [Hub.accept, if_neg hc, cancelIncumbent_loop])
    · rfl
  | read c' msg =>
    simp only [step, readOn]
    by_cases hc : c' = c
    · subst hc
      cases hcc : h.conns c' with
      | none => simp [Hub.read, readable, hcc]
      | some pc =>
        obtain ⟨id, ty, can, cl, loop⟩ := pc
        cases cl <;> cases loop <;> simp [Hub.read, readable, hcc, dispatchedOn, heldOn]
    · rw [if_neg (fun h => hc h.1), List.append_nil]
      unfold Hub.read; split
      · exact order_of_held (heldOn_of_loop (by simp [Ne.symm hc])) rfl
      · rfl
  | dispatch c' =>
    simp only [step, Hub.dispatch, readOn, List.append_nil]
    split
    · rename_i id ty can cl msg hc'
      by_cases hc : c' = c
      · subst hc
        simp [hc', dispatchedOn, heldOn]
      · simp only [dispatchedOn, heldOn, List.filter_append, Ne.symm hc, if_false]
        simp [hc, Ne.symm hc]
    · rfl
  | close c' =>
    simp only [step, Hub.close, readOn, List.append_nil]
    split
    · rename_i id ty can cl hc'
      refine order_of_held ?_ rfl
      by_cases hc : c = c'
      · subst hc; simp [heldOn, hc']
      · exact heldOn_of_loop (by simp [hc])
    · rfl
  | pong c' now =>
    simp only [step, Hub.pong, readOn, List.append_nil]
    split <;> rfl
  | pingFail c' =>
    simp only [step, Hub.pingFail, readOn, List.append_nil]
    split
    · split
      · rfl
      · refine order_of_held (heldOn_of_loop ?_) rfl
        by_cases hc : c = c' <;> simp [modifyConn, hc]
    · rfl
  | evict timeout now =>
    simp only [step, Hub.evict, readOn, List.append_nil]
    refine order_of_held (heldOn_of_loop ?_) (foldl_evictOne_dispatched _ _)
    rcases foldl_evictOne_conns (h.registry.cleanupStale timeout now).2
      { h with registry := (h.registry.cleanupStale timeout now).1 } c with hs | hs <;>
      simp [hs]
  | stop =>
    simp only [step, Hub.stop, readOn, List.append_nil]
    exact order_of_held (heldOn_of_loop (by simp [Option.map_map])) rfl

theorem run_order (hl : h.MapLive) (es : List HubEvent) (c : Nat) :
    (h.run es).dispatchedOn c ++ (h.run es).heldOn c =
      h.dispatchedOn c ++ h.heldOn c ++ h.readsOn c es := by
  induction es generalizing h with
  | nil => simp [run, readsOn]
  | cons e es ih =>
    rw [run, ih (hl.step e), step_order hl e c, readsOn, List.append_assoc]

end Hub

/-- One read loop per connection: over every run from a fresh hub, every connection
whose loop is blocked in `ReadJSON` takes the next frame, preempted, evicted and
stopped ones included, since only its own cleanup closes its socket; and each
connection has handed to `handleMessage` exactly the frames it read, in the order it
read them, but for the one it holds. -/
theorem frames_dispatched_in_read_order (es : List HubEvent) (c : Nat) :
    let h := Hub.new.run es
    (h.readable c = true ↔ (h.conns c).map PeerConn.loop = some .reading) ∧
      h.dispatchedOn c ++ h.heldOn c = Hub.new.readsOn c es := by
  refine ⟨(Hub.ClosedOnlyEnded.new.run es).readable_iff c, ?_⟩
  simpa [Hub.dispatchedOn, Hub.heldOn, Hub.new] using Hub.run_order Hub.MapLive.new es c

/-! ## Eviction closes nothing: a readmitted peer has two open connections -/

namespace Hub

theorem evictOne_lookup (h : Hub) (id k : String) :
    (h.evictOne id).connections.lookup k = if k = id then none else h.connections.lookup k := by
  unfold evictOne
  split
  · split_ifs with hk
    · subst hk; exact AList.lookup_erase _ _
    · exact AList.lookup_erase_ne hk
  · rename_i hn
    split_ifs with hk
    · subst hk; exact hn
    · rfl

/-- The eviction loop deletes exactly the ids it is given from `connections`. -/
theorem foldl_evictOne_lookup (ids : List String) (h : Hub) (k : String) :
    (ids.foldl evictOne h).connections.lookup k =
      if k ∈ ids then none else h.connections.lookup k := by
  induction ids generalizing h with
  | nil => simp
  | cons id ids ih =>
    rw [List.foldl_cons, ih, evictOne_lookup]
    by_cases hk : k = id <;> by_cases hm : k ∈ ids <;> simp [hk, hm]

theorem foldl_evictOne_next (ids : List String) (h : Hub) : (ids.foldl evictOne h).next = h.next := by
  induction ids generalizing h with
  | nil => rfl
  | cons id ids ih => rw [List.foldl_cons, ih]; unfold evictOne; split <;> rfl

end Hub

/-- After `cleanupLoop` evicts a peer, an admission for the same id finds no incumbent
to cancel: the evicted connection's socket stays open and its loop reading beside the
newcomer's, so two open connections of one peer read frames at once. -/
theorem evicted_and_readmitted_both_open (h : Hub) (hl : h.MapLive) {c : Nat} {pc : PeerConn}
    (hc : h.conns c = some pc) (hloop : pc.loop = .reading) (hopen : pc.closed = false)
    {timeout now : Int} (hstale : pc.peerId ∈ (h.registry.cleanupStale timeout now).2)
    (ty edgeId pk : String) (hw : wsMiddlewareError ty pc.peerId edgeId = none) (now' : Int) :
    ∃ pc₁ pc₂, (h.run [.evict timeout now, .accept ty pc.peerId edgeId pk now']).conns c = some pc₁ ∧
      (h.run [.evict timeout now, .accept ty pc.peerId edgeId pk now']).conns h.next = some pc₂ ∧
      c ≠ h.next ∧ pc₁.peerId = pc.peerId ∧ pc₂.peerId = pc.peerId ∧
      pc₁.closed = false ∧ pc₂.closed = false ∧ pc₁.loop = .reading ∧ pc₂.loop = .reading := by
  have hne : c ≠ h.next := fun e => by simp [hl.fresh c (e ▸ le_rfl)] at hc
  have hlk : (h.evict timeout now).connections.lookup pc.peerId = none := by
    rw [Hub.evict, Hub.foldl_evictOne_lookup, if_pos hstale]
  have hnext : (h.evict timeout now).next = h.next := Hub.foldl_evictOne_next _ _
  have hc₁ : (h.evict timeout now).conns c = some pc ∨
      (h.evict timeout now).conns c = some pc.cancel := by
    rcases foldl_evictOne_conns (h.registry.cleanupStale timeout now).2
      { h with registry := (h.registry.cleanupStale timeout now).1 } c with hs | hs
    · exact .inl (hs.trans hc)
    · exact .inr (hs.trans (by simp [hc]))
  simp only [Hub.run, Hub.step, if_pos hw, Hub.accept, Hub.cancelIncumbent, hlk, hnext, if_neg hne,
    if_true]
  rcases hc₁ with h' | h' <;> rw [h'] <;> exact ⟨_, _, rfl, rfl, hne, rfl, rfl, hopen, rfl, hloop, rfl⟩

/-- Edge `E` is evicted at 100 s under a 10 s timeout and reconnects: connections 0 and
1 of `E` are both open and reading. -/
theorem evicted_edge_open_twice :
    let h := Hub.new.run [.accept "edge" "E" "" "" 0]
    h.MapLive ∧ h.conns 0 = some ⟨"E", "edge", false, false, .reading⟩ ∧
      "E" ∈ (h.registry.cleanupStale 10 100).2 ∧ wsMiddlewareError "edge" "E" "" = none ∧
      ∃ pc₁ pc₂, (h.run [.evict 10 100, .accept "edge" "E" "" "" 200]).conns 0 = some pc₁ ∧
        (h.run [.evict 10 100, .accept "edge" "E" "" "" 200]).conns h.next = some pc₂ ∧
        0 ≠ h.next ∧ pc₁.peerId = "E" ∧ pc₂.peerId = "E" ∧
        pc₁.closed = false ∧ pc₂.closed = false ∧ pc₁.loop = .reading ∧ pc₂.loop = .reading := by
  intro h
  have hl : h.MapLive := Hub.MapLive.new.run _
  exact ⟨hl, rfl, by decide, by decide,
    @evicted_and_readmitted_both_open h hl 0 _ rfl rfl rfl 10 100 (by decide) "edge" "" ""
      (by decide) 200⟩

end Arqut
