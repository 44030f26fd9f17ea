import Arqut.Hub
import Arqut.ServiceSync
import Arqut.Issuance

/-!
# Message dispatch

`handleMessage` switches on a frame's type and hands the frame to one handler.
`Server` runs it on the hub's `dispatch` event: it is the hub together with the
service store, the clock readings the handlers have taken, and the frames the
handlers have written, each with the number of the connection it went out on.

No handler changes the hub, so the server's hub is the hub model run on the same
events (`Server.run_hub`), and every invariant of `Hub` holds of it.
`handleEdgeRegistration`, `handleGetPeers`, `handleTurnRequest` and
`handleServiceListRequest` answer on the sender's connection. `forwardMessage`
writes the frame as it was read, `from` included, on the connection that
`connections` holds for its `to`. The two sync handlers are the `StoreEvent`s of
`ServiceSync` with the sender's peer id as the edge, and write only on the
sender's connection. An `api-connect-response` goes to the response slots of the
edge's connection, which `ClientConnect` models; `api-connect-request` and
unknown types are only logged. On this state these three do nothing.

A dispatch is one step, as the hub's other events are. `handleMessage` runs on the
connection's read loop outside the hub lock; `SyncRace` takes apart the one
handler whose interleaving the store exposes.

Data that the handlers marshal from a Go struct (the peer list, the TURN
credentials, the service list) is kept as that value: `encoding/json` is not part
of the repository. `ListEdgeServices` is an SQL query over a table that the model
keeps as a function of the key, so its result is a parameter of the server.
-/

namespace Arqut

/-- The handler `handleMessage` picks for a frame. -/
inductive Route where
  | edgeRegistration
  | connectRequest
  | apiConnectRequest
  | apiConnectResponse
  | turnRequest
  | serviceSync
  | serviceSyncBatch
  | serviceListRequest
  | forward
  | getPeers
  | unknown
  deriving DecidableEq, Repr

/-- The `switch msg.Type` of `handleMessage`. -/
def route : String → Route
  | "edge:register" => .edgeRegistration
  | "connect-request" => .connectRequest
  | "api-connect-request" => .apiConnectRequest
  | "api-connect-response" => .apiConnectResponse
  | "turn-request" => .turnRequest
  | "service-sync" => .serviceSync
  | "service-sync-batch" => .serviceSyncBatch
  | "service-list-request" => .serviceListRequest
  | "connect-response" | "offer" | "answer" | "ice-candidate" => .forward
  | "get-peers" => .getPeers
  | _ => .unknown

/-- The types `handleMessage` relays to another peer: `connect-request` through
`handleConnectRequest`, the others directly. -/
def Route.relays (r : Route) : Bool := r == .forward || r == .connectRequest

/-- A frame a handler writes. -/
inductive Frame where
  /-- A frame whose data is a map, or a frame relayed as it was read. -/
  | msg (m : SignalingMessage)
  /-- `peer-list` with `registry.GetAllPeers()`. -/
  | peerList (peers : List Peer)
  /-- `turn-response` with a `models.TurnCredentials`: the credentials and the URLs. -/
  | turnResponse (creds : CredentialsResponse) (urls : List String)
  /-- `service-list-response` with `{services}`. -/
  | serviceList (services : List EdgeService)

/-- What the server is built with, and what the model leaves open: `json.Unmarshal`
of a service record, the wall clock, the TURN signing primitives, `s.turnConfig`
(`nil` without TURN), and the result of `ListEdgeServices`. -/
structure Env where
  unmarshal : JsonObject → Except String EdgeService
  clock : Nat → Int
  crypto : Crypto
  turnConfig : Option TurnConfig
  listEdgeServices : Store → String → Except String (List EdgeService)

/-- The hub, the service store, the clock readings taken so far, and the frames the
handlers wrote, each with the connection it went out on. -/
structure Server where
  hub : Hub
  storage : Store
  tick : Nat
  out : List (Nat × Frame)

/-- The frame `handleEdgeRegistration` writes back to a connection of peer `peerId`. -/
def handleEdgeRegistration (peerId : String) (msg : SignalingMessage) : SignalingMessage :=
  match msg.data.asObject? with
  | none => errorFrame "Invalid registration data"
  | some dataMap =>
    let edgeID := ((JsonValue.field dataMap "edgeId").asString?).getD ""
    if edgeID = "" then errorFrame "edgeId is required"
    else if peerId ≠ edgeID then errorFrame "Edge ID must match connection ID"
    else { type := "edge:register-success", data := .object [("edgeId", .string edgeID)] }

/-- The URLs of a `turn-response`. -/
def turnURLs (cfg : TurnConfig) : List String :=
  ["stun:" ++ cfg.publicIP ++ ":3478", "turn:" ++ cfg.publicIP ++ ":3478?transport=udp",
    "turn:" ++ cfg.publicIP ++ ":3478?transport=tcp"] ++
  if cfg.tlsPort > 0 then
    ["turns:" ++ cfg.publicIP ++ ":" ++ toString cfg.tlsPort ++ "?transport=tcp"]
  else []

namespace Server

/-- `signaling.New` with a fresh registry and an empty table. -/
def new : Server := ⟨Hub.new, Store.empty, 0, []⟩

/-- `s.sendMessage(conn, f)` on connection `c`. -/
def write (s : Server) (c : Nat) (f : Frame) : Server := { s with out := s.out ++ [(c, f)] }

/-- `forwardMessage`. -/
def forwardMessage (s : Server) (msg : SignalingMessage) : Server :=
  if msg.to = "" then s
  else
    match s.hub.connections.lookup msg.to with
    | some c => s.write c (.msg msg)
    | none => s

/-- `handleGetPeers` for a frame read on connection `c`. -/
def handleGetPeers (s : Server) (c : Nat) : Server :=
  s.write c (.peerList s.hub.registry.getAllPeers)

variable (env : Env)

/-- `handleTurnRequest` for peer `pc` on connection `c`: one clock reading. -/
def handleTurnRequest (s : Server) (c : Nat) (pc : PeerConn) : Server :=
  match env.turnConfig with
  | none => s.write c (.msg (errorFrame "TURN configuration not available"))
  | some cfg =>
    ({ s with tick := s.tick + 1 } : Server).write c
      (.turnResponse (Arqut.handleTurnRequest env.crypto cfg pc.peerType pc.peerId
        (env.clock s.tick)) (turnURLs cfg))

/-- `handleServiceListRequest` for peer `pc` on connection `c`. -/
def handleServiceListRequest (s : Server) (c : Nat) (pc : PeerConn) : Server :=
  match env.listEdgeServices s.storage pc.peerId with
  | .error _ => s.write c (.msg (errorFrame "Failed to retrieve services"))
  | .ok services => s.write c (.serviceList services)

/-- A sync handler, the store event `e`, run for the sender on connection `c`: every
frame it writes goes out on `c`. -/
def syncStore (s : Server) (c : Nat) (e : StoreEvent) : Server :=
  let w := storeStep env.unmarshal env.clock ⟨s.storage, s.tick, []⟩ e
  { s with storage := w.storage, tick := w.tick, out := s.out ++ w.sent.map fun p => (c, .msg p.2) }

/-- `handleMessage` for the frame `msg` read on connection `c` of `pc`. -/
def handleMessage (s : Server) (c : Nat) (pc : PeerConn) (msg : SignalingMessage) : Server :=
  match route msg.type with
  | .edgeRegistration => s.write c (.msg (handleEdgeRegistration pc.peerId msg))
  | .connectRequest => s.forwardMessage msg
  | .apiConnectRequest => s
  | .apiConnectResponse => s
  | .turnRequest => s.handleTurnRequest env c pc
  | .serviceSync => s.syncStore env c (.serviceSync pc.peerId msg)
  | .serviceSyncBatch => s.syncStore env c (.serviceSyncBatch pc.peerId msg)
  | .serviceListRequest => s.handleServiceListRequest env c pc
  | .forward => s.forwardMessage msg
  | .getPeers => s.handleGetPeers c
  | .unknown => s

/-- One hub event; a dispatch runs `handleMessage` on the frame its loop held. -/
def step (s : Server) (e : HubEvent) : Server :=
  let s' : Server := { s with hub := s.hub.step e }
  match e with
  | .dispatch c =>
    match s.hub.conns c with
    | some pc =>
      match pc.loop with
      | .holding msg => s'.handleMessage env c pc msg
      | _ => s'
    | none => s'
  | _ => s'

/-- A run of events. -/
def run (s : Server) : List HubEvent → Server
  | [] => s
  | e :: es => (s.step env e).run es

end Server

/-! ## What a dispatch can do -/

namespace Server

variable (env : Env)

@[simp] theorem write_hub (s : Server) (c : Nat) (f : Frame) : (s.write c f).hub = s.hub := rfl

@[simp] theorem write_storage (s : Server) (c : Nat) (f : Frame) :
    (s.write c f).storage = s.storage := rfl

@[simp] theorem write_out (s : Server) (c : Nat) (f : Frame) :
    (s.write c f).out = s.out ++ [(c, f)] := rfl

/-- `forwardMessage` drops a frame without recipient or whose recipient has no
entry, and otherwise writes it as read on the recipient's connection. -/
theorem forwardMessage_cases (s : Server) (msg : SignalingMessage) :
    ((msg.to = "" ∨ s.hub.connections.lookup msg.to = none) ∧ s.forwardMessage msg = s) ∨
      ∃ c, msg.to ≠ "" ∧ s.hub.connections.lookup msg.to = some c ∧
        s.forwardMessage msg = s.write c (.msg msg) := by
  unfold forwardMessage
  by_cases ht : msg.to = ""
  · exact .inl ⟨.inl ht, if_pos ht⟩
  · rw [if_neg ht]
    cases hl : s.hub.connections.lookup msg.to with
    | none => exact .inl ⟨.inr rfl, rfl⟩
    | some c => exact .inr ⟨c, ht, rfl, rfl⟩

theorem forwardMessage_hub (s : Server) (msg : SignalingMessage) :
    (s.forwardMessage msg).hub = s.hub ∧ (s.forwardMessage msg).storage = s.storage := by
  rcases forwardMessage_cases s msg with ⟨-, h⟩ | ⟨c, -, -, h⟩ <;> rw [h] <;> exact ⟨rfl, rfl⟩

/-- A relayed type goes to `forwardMessage`. -/
theorem handleMessage_of_relays {s : Server} {c : Nat} {pc : PeerConn} {msg : SignalingMessage}
    (hr : (route msg.type).relays) : s.handleMessage env c pc msg = s.forwardMessage msg := by
  simp only [Route.relays, Bool.or_eq_true, beq_iff_eq] at hr
  rcases hr with hr | hr <;> simp only [handleMessage, hr]

/-- What a dispatch can do: nothing, answer the sender (after one clock reading, for
a TURN request), relay the frame, or run a sync handler as the store event of the
sender. -/
theorem handleMessage_cases (s : Server) (c : Nat) (pc : PeerConn) (msg : SignalingMessage) :
    s.handleMessage env c pc msg = s ∨
      (∃ f, s.handleMessage env c pc msg = s.write c f) ∨
      (∃ f, s.handleMessage env c pc msg = ({ s with tick := s.tick + 1 } : Server).write c f) ∨
      ((route msg.type).relays ∧ s.handleMessage env c pc msg = s.forwardMessage msg) ∨
      ∃ e, (route msg.type = .serviceSync ∧ e = .serviceSync pc.peerId msg ∨
          route msg.type = .serviceSyncBatch ∧ e = .serviceSyncBatch pc.peerId msg) ∧
        s.handleMessage env c pc msg = s.syncStore env c e := by
  unfold handleMessage
  split
  · exact .inr (.inl ⟨_, rfl⟩)
  · exact .inr (.inr (.inr (.inl ⟨by simp [Route.relays, *], rfl⟩)))
  · exact .inl rfl
  · exact .inl rfl
  · unfold handleTurnRequest
    split
    · exact .inr (.inl ⟨_, rfl⟩)
    · exact .inr (.inr (.inl ⟨_, rfl⟩))
  · exact .inr (.inr (.inr (.inr ⟨_, .inl ⟨‹_›, rfl⟩, rfl⟩)))
  · exact .inr (.inr (.inr (.inr ⟨_, .inr ⟨‹_›, rfl⟩, rfl⟩)))
  · unfold handleServiceListRequest
    split <;> exact .inr (.inl ⟨_, rfl⟩)
  · exact .inr (.inr (.inr (.inl ⟨by simp [Route.relays, *], rfl⟩)))
  · exact .inr (.inl ⟨_, rfl⟩)
  · exact .inl rfl

/-- No handler changes the hub. -/
theorem handleMessage_hub (s : Server) (c : Nat) (pc : PeerConn) (msg : SignalingMessage) :
    (s.handleMessage env c pc msg).hub = s.hub := by
  rcases handleMessage_cases env s c pc msg with h | ⟨f, h⟩ | ⟨f, h⟩ | ⟨-, h⟩ | ⟨e, -, h⟩ <;>
    rw [h]
  all_goals first | rfl | exact (forwardMessage_hub s msg).1

theorem step_dispatch {s : Server} {c : Nat} {pc : PeerConn} {msg : SignalingMessage}
    (hc : s.hub.conns c = some pc) (hl : pc.loop = .holding msg) :
    s.step env (.dispatch c) =
      ({ s with hub := s.hub.dispatch c } : Server).handleMessage env c pc msg := by
  simp only [step, hc, hl, Hub.step]

/-- The server's hub moves as the hub model does. -/
theorem step_hub (s : Server) (e : HubEvent) : (s.step env e).hub = s.hub.step e := by
  unfold step
  split
  · split
    · split
      · exact handleMessage_hub env _ _ _ _
      · rfl
    · rfl
  · rfl

theorem run_hub (s : Server) (es : List HubEvent) : (s.run env es).hub = s.hub.run es := by
  induction es generalizing s with
  | nil => rfl
  | cons e es ih => rw [run, ih, step_hub]; rfl

end Server

/-! ## What every reachable state satisfies -/

/-- The invariants of the server: those of its hub, and that every stored row is
valid. -/
structure Server.Inv (s : Server) : Prop where
  live : s.hub.MapLive
  admitted : s.hub.Admitted
  valid : AllValid s.storage

namespace Server

variable (env : Env)

theorem handleMessage_allValid {s : Server} (c : Nat) (pc : PeerConn) (msg : SignalingMessage)
    (h : AllValid s.storage) : AllValid (s.handleMessage env c pc msg).storage := by
  rcases handleMessage_cases env s c pc msg with h' | ⟨f, h'⟩ | ⟨f, h'⟩ | ⟨-, h'⟩ | ⟨e, -, h'⟩ <;>
    rw [h']
  · exact h
  · exact h
  · exact h
  · exact (forwardMessage_hub s msg).2 ▸ h
  · exact storeStep_allValid e h

theorem Inv.new : Server.new.Inv := ⟨Hub.MapLive.new, Hub.Admitted.new, AllValid.empty⟩

theorem Inv.step {s : Server} (hs : s.Inv) (e : HubEvent) : (s.step env e).Inv where
  live := by rw [step_hub]; exact hs.live.step e
  admitted := by rw [step_hub]; exact hs.admitted.step e
  valid := by
    unfold Server.step
    split
    · split
      · split
        · exact handleMessage_allValid env _ _ _ hs.valid
        · exact hs.valid
      · exact hs.valid
    · exact hs.valid

theorem Inv.run {s : Server} (hs : s.Inv) (es : List HubEvent) : (s.run env es).Inv := by
  induction es generalizing s with
  | nil => exact hs
  | cons e es ih => exact ih (hs.step env e)

end Server

/-- Only `service-sync` and `service-sync-batch` frames write the store, each as the
store event of `ServiceSync` with the sender's peer id as the edge. -/
theorem only_sync_frames_write_store (env : Env) (s : Server) (c : Nat) (pc : PeerConn)
    (msg : SignalingMessage) :
    (s.handleMessage env c pc msg).storage = s.storage ∨
      ∃ e, (route msg.type = .serviceSync ∧ e = .serviceSync pc.peerId msg ∨
          route msg.type = .serviceSyncBatch ∧ e = .serviceSyncBatch pc.peerId msg) ∧
        (s.handleMessage env c pc msg).storage =
          (storeStep env.unmarshal env.clock ⟨s.storage, s.tick, []⟩ e).storage := by
  rcases Server.handleMessage_cases env s c pc msg with h | ⟨f, h⟩ | ⟨f, h⟩ | ⟨-, h⟩ | ⟨e, he, h⟩ <;>
    rw [h]
  · exact .inl rfl
  · exact .inl rfl
  · exact .inl rfl
  · exact .inl (Server.forwardMessage_hub s msg).2
  · exact .inr ⟨e, he, rfl⟩

/-- Every frame a dispatch writes goes out on the sender's connection, except a frame
of a relayed type, which is the frame as read, on the connection `connections`
holds for its `to`. -/
theorem replies_go_to_sender (env : Env) (s : Server) (c : Nat) (pc : PeerConn)
    (msg : SignalingMessage) :
    ∃ sent, (s.handleMessage env c pc msg).out = s.out ++ sent ∧
      ∀ p ∈ sent, p.1 = c ∨
        ((route msg.type).relays ∧ p.2 = .msg msg ∧ s.hub.connections.lookup msg.to = some p.1) := by
  rcases Server.handleMessage_cases env s c pc msg with
    h | ⟨f, h⟩ | ⟨f, h⟩ | ⟨hr, h⟩ | ⟨e, -, h⟩ <;> rw [h]
  · exact ⟨[], (List.append_nil _).symm, by simp⟩
  · exact ⟨[(c, f)], rfl, by simp⟩
  · exact ⟨[(c, f)], rfl, by simp⟩
  · rcases Server.forwardMessage_cases s msg with ⟨-, h'⟩ | ⟨c', -, hl, h'⟩ <;> rw [h']
    · exact ⟨[], (List.append_nil _).symm, by simp⟩
    · exact ⟨[(c', .msg msg)], rfl, by simp [hr, hl]⟩
  · refine ⟨_, rfl, fun p hp => .inl ?_⟩
    obtain ⟨q, -, rfl⟩ := List.mem_map.mp hp
    rfl

/-! ## Relaying -/

theorem Hub.dispatch_connections (h : Hub) (c : Nat) :
    (h.dispatch c).connections = h.connections := by
  unfold Hub.dispatch; split <;> rfl

/-- In every state with the server's invariant, so in every state it reaches, a
dispatched frame of a relayed type is written, as read, on the connection
`connections` holds for its `to`, a live connection of that peer; a frame without
recipient, or whose recipient has no entry, is dropped. -/
theorem relayed_frame_reaches_recipient (env : Env) {s : Server} (hs : s.Inv) {c : Nat}
    {pc : PeerConn} {msg : SignalingMessage} (hc : s.hub.conns c = some pc)
    (hl : pc.loop = .holding msg) (hr : (route msg.type).relays) :
    (∀ c', msg.to ≠ "" → s.hub.connections.lookup msg.to = some c' →
      (s.step env (.dispatch c)).out = s.out ++ [(c', .msg msg)] ∧
        ∃ pc', s.hub.conns c' = some pc' ∧ pc'.peerId = msg.to ∧ pc'.loop ≠ .ended) ∧
    (msg.to = "" ∨ s.hub.connections.lookup msg.to = none →
      (s.step env (.dispatch c)).out = s.out) := by
  rw [Server.step_dispatch env hc hl, Server.handleMessage_of_relays env hr]
  have hconn := Hub.dispatch_connections s.hub c
  refine ⟨fun c' ht hlk => ⟨?_, hs.live.live _ _ hlk⟩, fun hd => ?_⟩
  · simp only [Server.forwardMessage, if_neg ht, hconn, hlk, Server.write_out]
  · rcases hd with hd | hd
    · simp only [Server.forwardMessage, if_pos hd]
    · simp only [Server.forwardMessage, hconn, hd]
      split <;> rfl

/-- A client's `offer` to the edge `E` reaches `E`'s connection as it was sent. -/
theorem client_offer_reaches_edge :
    let env : Env := ⟨decodeEdgeService, fun _ => 0, ⟨fun _ _ => [], fun _ => "", fun _ => []⟩,
      none, fun _ _ => .ok []⟩
    let offer : SignalingMessage := ⟨"offer", "A", "E", .null⟩
    let s := Server.new.run env [.accept "edge" "E" "" "" 0, .accept "client" "A" "E" "" 0,
      .read 1 offer]
    s.Inv ∧ s.hub.conns 1 = some ⟨"A", "client", false, false, .holding offer⟩ ∧
      (route offer.type).relays ∧ offer.to ≠ "" ∧ s.hub.connections.lookup offer.to = some 0 ∧
      (s.step env (.dispatch 1)).out = s.out ++ [(0, .msg offer)] := by
  intro env offer s
  have hs : s.Inv := Server.Inv.new.run env _
  exact ⟨hs, rfl, rfl, by decide, rfl,
    ((@relayed_frame_reaches_recipient env s hs 1 _ offer rfl rfl rfl).1 0 (by decide) rfl).1⟩

/-! ## Edge registration -/

/-- `handleEdgeRegistration` answers success exactly when the data's `edgeId` is
the connection's own, non-empty, peer id. -/
theorem handleEdgeRegistration_success_iff (peerId : String) (msg : SignalingMessage) :
    (handleEdgeRegistration peerId msg).type = "edge:register-success" ↔
      peerId ≠ "" ∧
        ∃ data, msg.data.asObject? = some data ∧ JsonValue.field data "edgeId" = .string peerId := by
  unfold handleEdgeRegistration
  cases msg.data.asObject? with
  | none => simp [errorFrame]
  | some data =>
    simp only [Option.some.injEq, exists_eq_left']
    cases JsonValue.field data "edgeId" with
    | string e =>
      simp only [JsonValue.asString?, Option.getD_some, JsonValue.string.injEq]
      split_ifs with h₁ h₂ <;> simp_all [errorFrame, eq_comm]
    | _ => simp [JsonValue.asString?, errorFrame]

/-- In every state with the server's invariant, a dispatched `edge:register` gets one
answer on its own connection, and it is `edge:register-success` exactly when the
data's `edgeId` is the connection's peer id. -/
theorem edge_register_accepts_own_id (env : Env) {s : Server} (hs : s.Inv) {c : Nat}
    {pc : PeerConn} {msg : SignalingMessage} (hc : s.hub.conns c = some pc)
    (hl : pc.loop = .holding msg) (hr : msg.type = "edge:register") :
    ∃ f, (s.step env (.dispatch c)).out = s.out ++ [(c, .msg f)] ∧
      (f.type = "edge:register-success" ↔
        ∃ data, msg.data.asObject? = some data ∧ JsonValue.field data "edgeId" = .string pc.peerId) := by
  have hroute : route msg.type = .edgeRegistration := by rw [hr]; rfl
  refine ⟨handleEdgeRegistration pc.peerId msg, ?_, ?_⟩
  · rw [Server.step_dispatch env hc hl]
    simp only [Server.handleMessage, hroute, Server.write_out]
  · obtain ⟨_, hw⟩ := hs.admitted c pc hc
    rw [handleEdgeRegistration_success_iff, and_iff_right (wsMiddlewareError_eq_none hw).2]

end Arqut
