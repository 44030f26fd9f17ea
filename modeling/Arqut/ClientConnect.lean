import Mathlib.Data.List.AList
import Arqut.Hub

/-!
# Synchronous client connect: the response slots

`handleClientConnect` installs a capacity-1 channel in the edge connection's
`ClientDataChans` under the client id, writes `api-connect-request` to the edge,
waits for a message on its channel or for 10 s, and in a deferred function,
under the hub lock, closes and deletes `ClientDataChans[req.ID]`.
`handleAPIConnectResponse`, on the edge's read loop, looks the slot up by the
response's `to`, without the hub lock, and then sends on it for at most 1 s.

`SlotWorld` holds one edge connection's `ClientDataChans`, the channels, the
request handlers and the response handlers as threads, each at its next step,
and the runtime panics raised so far with Go's messages. A request and its
channel share a number; the channel is the handler's own `responseChan`. The 1 s
bound of a blocked send is the step `deliverTimeout`, the 10 s one `timeout`;
Go's `select` picks either ready case, so both orders are runs.

The deferred cleanup closes whatever channel the map holds under the client id
when it runs, not the handler's own, and a response handler that found that
channel before it then sends on a closed channel (`cleanup_closes_current_slot`).
So a second request with the same id loses its slot and its channel to the first
one's cleanup, reads a nil message from the closed channel, and its own cleanup
then closes a nil channel; and with one request, a response looked up before the
timeout is sent after the cleanup closed the channel.

Before the wait, `clientConnectTarget` makes the body checks and the edge lookup,
with their HTTP statuses and texts; after the cleanup, `connectReply` gives the
answer: the JSON the handler wrote, or the runtime error the app's `recover`
middleware reports, the cleanup's panic if it raised one, since that is raised
last. Overlapping requests of one client id are the only way to a nil message
and to the cleanup panics: when no request is installed under an id while an
earlier request of that id has still to clean up, no request reads nil and no
cleanup panics (`distinct_client_ids_never_collide`).
-/

namespace Arqut

/-- How a request handler returns. `response none` is the nil pointer a receive on a
closed channel yields. -/
inductive ConnectOutcome where
  | response (msg : Option SignalingMessage)
  | timeout
  | sendFailure

/-- Whether the handler returns with the nil message of a closed channel. -/
def ConnectOutcome.readNil : ConnectOutcome → Bool
  | .response none => true
  | _ => false

/-- Where a request handler stands, past the body checks and the edge lookup. -/
inductive RequestPc where
  /-- Its channel installed, the lock released. -/
  | installed
  /-- In the `select` on its channel and the 10 s timer. -/
  | waiting
  /-- Returning with `outcome`; the deferred cleanup is next. -/
  | leaving (outcome : ConnectOutcome)
  /-- Returned with `outcome`; `cleanupPanic` is the panic its deferred cleanup
  raised, if any. -/
  | done (outcome : ConnectOutcome) (cleanupPanic : Option String)

/-- Where a response handler stands. -/
inductive ResponderPc where
  /-- Found channel `ch` for its message. -/
  | found (ch : Nat) (msg : SignalingMessage)
  /-- Blocked sending on the full channel `ch`. -/
  | blocked (ch : Nat) (msg : SignalingMessage)
  | done

/-- A `chan *models.SignalingMessage` of capacity 1. -/
structure Chan where
  closed : Bool
  buf : Option SignalingMessage

/-- One edge connection's response slots, the channels, and the threads. -/
structure SlotWorld where
  slots : AList (fun _ : String => Nat)
  chans : Nat → Option Chan
  requests : Nat → Option (String × RequestPc)
  responders : Nat → Option ResponderPc
  panics : List String

/-- The steps of the threads. -/
inductive SlotEvent where
  /-- Request `r` of client `clientId`: `make(chan, 1)` and install it, under the lock. -/
  | install (r : Nat) (clientId : String)
  /-- `sendMessage` of the `api-connect-request` returns, failing or not. -/
  | sendRequest (r : Nat) (ok : Bool)
  /-- The receive case of the request's `select`. -/
  | receive (r : Nat)
  /-- The 10 s case. -/
  | timeout (r : Nat)
  /-- The deferred close and delete. -/
  | cleanup (r : Nat)
  /-- Response handler `h` looks up `ClientDataChans[msg.To]`. -/
  | lookup (h : Nat) (msg : SignalingMessage)
  /-- The send case of its `select`. -/
  | deliver (h : Nat)
  /-- The 1 s case. -/
  | deliverTimeout (h : Nat)

namespace SlotWorld

/-- No slots, no channels, no threads. -/
def empty : SlotWorld := ⟨∅, fun _ => none, fun _ => none, fun _ => none, []⟩

/-- Set request `r`'s state. -/
def setRequest (w : SlotWorld) (r : Nat) (v : String × RequestPc) : SlotWorld :=
  { w with requests := fun r' => if r' = r then some v else w.requests r' }

/-- Set channel `ch`. -/
def setChan (w : SlotWorld) (ch : Nat) (c : Chan) : SlotWorld :=
  { w with chans := fun ch' => if ch' = ch then some c else w.chans ch' }

/-- Set response handler `h`'s state. -/
def setResponder (w : SlotWorld) (h : Nat) (v : ResponderPc) : SlotWorld :=
  { w with responders := fun h' => if h' = h then some v else w.responders h' }

/-- A runtime panic. -/
def panic (w : SlotWorld) (msg : String) : SlotWorld := { w with panics := w.panics ++ [msg] }

/-- The deferred function of request `r`, returning with `o`: close and delete the
channel at `ClientDataChans[clientId]`. -/
def cleanupSlot (w : SlotWorld) (r : Nat) (clientId : String) (o : ConnectOutcome) : SlotWorld :=
  let fail (msg : String) := (w.setRequest r (clientId, .done o (some msg))).panic msg
  match w.slots.lookup clientId with
  | none => fail "close of nil channel"
  | some ch =>
    match w.chans ch with
    | some ⟨false, buf⟩ =>
      { (w.setRequest r (clientId, .done o none)).setChan ch ⟨true, buf⟩ with
        slots := w.slots.erase clientId }
    | _ => fail "close of closed channel"

/-- The send of response handler `h` on channel `ch`. -/
def send (w : SlotWorld) (h ch : Nat) (msg : SignalingMessage) : SlotWorld :=
  match w.chans ch with
  | some ⟨false, none⟩ => (w.setChan ch ⟨false, some msg⟩).setResponder h .done
  | some ⟨false, some _⟩ => w.setResponder h (.blocked ch msg)
  | _ => (w.setResponder h .done).panic "send on closed channel"

/-- One step; a step whose thread is not there to take it changes nothing. -/
def step (w : SlotWorld) : SlotEvent → SlotWorld
  | .install r k =>
    match w.requests r, w.chans r with
    | none, none => { (w.setChan r ⟨false, none⟩).setRequest r (k, .installed) with
                      slots := w.slots.insert k r }
    | _, _ => w
  | .sendRequest r ok =>
    match w.requests r with
    | some (k, .installed) => w.setRequest r (k, if ok then .waiting else .leaving .sendFailure)
    | _ => w
  | .receive r =>
    match w.requests r, w.chans r with
    | some (k, .waiting), some ⟨cl, some msg⟩ =>
      (w.setChan r ⟨cl, none⟩).setRequest r (k, .leaving (.response (some msg)))
    | some (k, .waiting), some ⟨true, none⟩ => w.setRequest r (k, .leaving (.response none))
    | _, _ => w
  | .timeout r =>
    match w.requests r with
    | some (k, .waiting) => w.setRequest r (k, .leaving .timeout)
    | _ => w
  | .cleanup r =>
    match w.requests r with
    | some (k, .leaving o) => w.cleanupSlot r k o
    | _ => w
  | .lookup h msg =>
    match w.responders h with
    | none =>
      match w.slots.lookup msg.to with
      | some ch => w.setResponder h (.found ch msg)
      | none => w.setResponder h .done
    | some _ => w
  | .deliver h =>
    match w.responders h with
    | some (.found ch msg) => w.send h ch msg
    | some (.blocked ch msg) => w.send h ch msg
    | _ => w
  | .deliverTimeout h =>
    match w.responders h with
    | some (.blocked _ _) => w.setResponder h .done
    | _ => w

/-- A run. -/
def run (w : SlotWorld) : List SlotEvent → SlotWorld
  | [] => w
  | e :: es => (w.step e).run es

end SlotWorld

/-! ## Before the wait, and after it -/

/-- The fields of `models.ClientConnectRequest` that `handleClientConnect` checks. -/
structure ClientConnectRequest where
  id : String
  edgeId : String
  publicKey : String

/-- The checks of `handleClientConnect` before it installs a slot, the edge lookup
under the hub lock included: the HTTP status and error text, or the connection whose
`ClientDataChans` receives the slot. `none` is a body `BodyParser` rejects; only an
edge's connection has `ClientDataChans`. -/
def clientConnectTarget (h : Hub) : Option ClientConnectRequest → Except (Nat × String) Nat
  | none => .error (400, "Invalid request body")
  | some req =>
    if req.id = "" ∨ req.edgeId = "" ∨ req.publicKey = "" then
      .error (400, "id, edge_id, and public_key are required")
    else
      match h.connections.lookup req.edgeId with
      | none => .error (404, "Edge " ++ req.edgeId ++ " is not online")
      | some c =>
        match h.conns c with
        | some pc =>
          if pc.peerType = "edge" then .ok c
          else .error (500, "Edge connection not properly initialized")
        | none => .error (500, "Edge connection not properly initialized")

/-- What `handleClientConnect` answers once its request has left the wait with `o` and
its deferred cleanup has run: the HTTP status and JSON body, or the runtime error
the app's `recover` middleware reports. A panic of the cleanup is raised last, so it
is the one reported, whether the handler had returned or was panicking on
`msg.Data` of a nil message. -/
def connectReply (o : ConnectOutcome) (cleanupPanic : Option String) :
    Except String (Nat × JsonValue) :=
  match cleanupPanic, o with
  | some p, _ => .error p
  | none, .response (some msg) => .ok (200, .object [("success", .bool true), ("data", msg.data)])
  | none, .response none => .error "runtime error: invalid memory address or nil pointer dereference"
  | none, .timeout =>
    .ok (408, .object [("success", .bool false),
      ("error", .string "Timeout waiting for edge response")])
  | none, .sendFailure => .ok (500, .object [("error", .string "Failed to send request to edge")])

/-! ## The cleanup closes the slot it finds -/

/-- The deferred cleanup of request `r` closes and removes the channel installed
under its client id when it runs, whichever request installed it, and every
response handler that found that channel before then panics when it sends. -/
theorem cleanup_closes_current_slot (w : SlotWorld) {r r' : Nat} {k : String}
    {o : ConnectOutcome} {buf : Option SignalingMessage}
    (hr : w.requests r = some (k, .leaving o)) (hs : w.slots.lookup k = some r')
    (hc : w.chans r' = some ⟨false, buf⟩) :
    ((w.step (.cleanup r)).chans r').map Chan.closed = some true ∧
      (w.step (.cleanup r)).slots.lookup k = none ∧
      (w.step (.cleanup r)).panics = w.panics ∧
      ∀ h msg, w.responders h = some (.found r' msg) ∨ w.responders h = some (.blocked r' msg) →
        ((w.step (.cleanup r)).step (.deliver h)).panics = w.panics ++ ["send on closed channel"] := by
  have hw : w.step (.cleanup r) =
      { (w.setRequest r (k, .done o none)).setChan r' ⟨true, buf⟩ with slots := w.slots.erase k } := by
    simp only [SlotWorld.step, hr, SlotWorld.cleanupSlot, hs, hc]
  rw [hw]
  refine ⟨by simp [SlotWorld.setChan], AList.lookup_erase _ _, rfl, fun h msg hh => ?_⟩
  rcases hh with hh | hh <;>
    simp [SlotWorld.step, SlotWorld.send, SlotWorld.setChan, SlotWorld.setRequest,
      SlotWorld.setResponder, SlotWorld.panic, hh]

/-- Two requests of client `C`: the second installs its channel over the first's.
The first times out and its cleanup closes the second's channel and deletes its
slot; the second then receives nil, and its own cleanup closes a nil channel, the
panic the app reports. With one request, a response handler finds the slot, the
request times out and cleans up, and the send panics. -/
theorem same_client_requests_collide :
    let w := SlotWorld.empty.run [.install 0 "C", .install 1 "C", .sendRequest 0 true,
      .sendRequest 1 true, .timeout 0]
    let w' := (w.step (.cleanup 0)).run [.receive 1, .cleanup 1]
    let v := SlotWorld.empty.run [.install 0 "C", .sendRequest 0 true,
      .lookup 0 ⟨"api-connect-response", "", "C", .null⟩, .timeout 0]
    (w.slots.lookup "C" = some 1 ∧
      (((w.step (.cleanup 0)).chans 1).map Chan.closed = some true ∧
        (w.step (.cleanup 0)).slots.lookup "C" = none ∧
        (w.step (.cleanup 0)).panics = w.panics ∧
        ∀ h msg, w.responders h = some (.found 1 msg) ∨ w.responders h = some (.blocked 1 msg) →
          ((w.step (.cleanup 0)).step (.deliver h)).panics =
            w.panics ++ ["send on closed channel"]) ∧
      (w'.requests 1).map (fun p => match p.2 with
        | .done o e => connectReply o e
        | _ => .error "") = some (.error "close of nil channel") ∧
      w'.panics = ["close of nil channel"]) ∧
    ((v.step (.cleanup 0)).step (.deliver 0)).panics = ["send on closed channel"] := by
  intro w w' v
  exact ⟨⟨rfl, cleanup_closes_current_slot w rfl rfl rfl, rfl, rfl⟩,
    (@cleanup_closes_current_slot v 0 0 "C" _ _ rfl rfl rfl).2.2.2 0 _ (.inl rfl)⟩

/-! ## Requests of one client id that do not overlap never collide -/

/-- A request that has not yet run its deferred cleanup. -/
def RequestPc.active : RequestPc → Bool
  | .done _ _ => false
  | _ => true

/-- Whether a request is bound for a runtime error: it holds the nil message of a
closed channel, or its deferred cleanup panicked. -/
def RequestPc.faulted : RequestPc → Bool
  | .leaving o => o.readNil
  | .done o p => o.readNil || p.isSome
  | _ => false

/-- The client id an event installs a slot for. -/
def SlotEvent.installKey? : SlotEvent → Option String
  | .install _ k => some k
  | _ => none

namespace SlotWorld

/-- Requests of one client id do not overlap: no event installs a request under a
client id while a request of that id has still to run its deferred cleanup. An id
may be used again once the earlier request has cleaned up. -/
def NoOverlap : SlotWorld → List SlotEvent → Prop
  | _, [] => True
  | w, e :: es =>
    (∀ k, e.installKey? = some k → ∀ r pc, w.requests r = some (k, pc) → pc.active = false) ∧
      NoOverlap (w.step e) es

/-- The request side without collisions: every request still to clean up owns the
slot of its client id, on its own open channel; no request holds a nil message or
has a panicked cleanup; and no cleanup has panicked. -/
structure Owned (w : SlotWorld) : Prop where
  slot : ∀ r k pc, w.requests r = some (k, pc) → pc.active →
    w.slots.lookup k = some r ∧ ∃ buf, w.chans r = some ⟨false, buf⟩
  noFault : ∀ r k pc, w.requests r = some (k, pc) → pc.faulted = false
  noClosePanic : "close of nil channel" ∉ w.panics ∧ "close of closed channel" ∉ w.panics

namespace Owned

variable {w : SlotWorld}

theorem empty : SlotWorld.empty.Owned :=
  ⟨(fun _ _ _ h => nomatch h), (fun _ _ _ h => nomatch h), by simp [SlotWorld.empty]⟩

theorem setResponder (hw : w.Owned) (h : Nat) (v : ResponderPc) : (w.setResponder h v).Owned :=
  ⟨hw.slot, hw.noFault, hw.noClosePanic⟩

/-- Writing an open channel keeps the invariant, whoever owns it. -/
theorem setChan_open (hw : w.Owned) (ch : Nat) (buf : Option SignalingMessage) :
    (w.setChan ch ⟨false, buf⟩).Owned where
  slot r k pc hr hact := by
    obtain ⟨hs, buf', hc⟩ := hw.slot r k pc hr hact
    refine ⟨hs, ?_⟩
    by_cases hch : r = ch
    · exact ⟨buf, by simp [setChan, hch]⟩
    · exact ⟨buf', by simp [setChan, hch, hc]⟩
  noFault := hw.noFault
  noClosePanic := hw.noClosePanic

/-- Moving an active request to a state without a fault keeps the invariant. -/
theorem setRequest (hw : w.Owned) {r : Nat} {k : String} {pc : RequestPc}
    (hr : w.requests r = some (k, pc)) (hact : pc.active) {pc' : RequestPc}
    (hnil : pc'.faulted = false) : (w.setRequest r (k, pc')).Owned where
  slot r' k' pc'' h hact' := by
    simp only [SlotWorld.setRequest] at h
    split_ifs at h with hr'
    · subst hr'; cases h; exact hw.slot r' k pc hr hact
    · exact hw.slot r' k' pc'' h hact'
  noFault r' k' pc'' h := by
    simp only [SlotWorld.setRequest] at h
    split_ifs at h with hr'
    · cases h; exact hnil
    · exact hw.noFault r' k' pc'' h
  noClosePanic := hw.noClosePanic

/-- A request's deferred cleanup closes its own channel and frees its own slot. -/
theorem cleanupSlot (hw : w.Owned) {r : Nat} {k : String} {o : ConnectOutcome}
    (hr : w.requests r = some (k, .leaving o)) : (w.cleanupSlot r k o).Owned := by
  obtain ⟨hs, buf, hc⟩ := hw.slot r k _ hr rfl
  have hnil : (RequestPc.done o none).faulted = false :=
    (Bool.or_false _).trans (hw.noFault r k _ hr)
  simp only [SlotWorld.cleanupSlot, hs, hc]
  refine ⟨fun r' k' pc h hact => ?_, fun r' k' pc h => ?_, hw.noClosePanic⟩
  · simp only [SlotWorld.setChan, SlotWorld.setRequest] at h ⊢
    split_ifs at h with hr'
    · cases h; cases hact
    · obtain ⟨hs', buf', hc'⟩ := hw.slot r' k' pc h hact
      have hk : k' ≠ k := by rintro rfl; exact hr' (Option.some.inj (hs'.symm.trans hs))
      exact ⟨(AList.lookup_erase_ne hk).trans hs', buf', by simp [hr', hc']⟩
  · simp only [SlotWorld.setChan, SlotWorld.setRequest] at h
    split_ifs at h with hr'
    · cases h; exact hnil
    · exact hw.noFault r' k' pc h

/-- An install for a client id no active request holds keeps the invariant. -/
theorem install (hw : w.Owned) {r : Nat} {k : String}
    (hfree : ∀ r' pc, w.requests r' = some (k, pc) → pc.active = false) :
    (w.step (.install r k)).Owned := by
  simp only [step]
  split
  · rename_i hreq hch
    refine ⟨fun r' k' pc h hact => ?_, fun r' k' pc h => ?_, hw.noClosePanic⟩
    · simp only [SlotWorld.setChan, SlotWorld.setRequest] at h ⊢
      split_ifs at h with hr'
      · cases h; subst hr'; simp
      · obtain ⟨hs, buf, hc⟩ := hw.slot r' k' pc h hact
        have hk : k' ≠ k := fun e => by rw [hfree r' pc (e ▸ h)] at hact; cases hact
        exact ⟨(AList.lookup_insert_ne hk).trans hs, buf, by simp [hr', hc]⟩
    · simp only [SlotWorld.setChan, SlotWorld.setRequest] at h
      split_ifs at h with hr'
      · cases h; rfl
      · exact hw.noFault r' k' pc h
  · exact hw

theorem step (hw : w.Owned) (e : SlotEvent)
    (hfree : ∀ k, e.installKey? = some k → ∀ r pc, w.requests r = some (k, pc) → pc.active = false) :
    (w.step e).Owned := by
  cases e with
  | install r k => exact hw.install (hfree k rfl)
  | sendRequest r ok =>
    simp only [SlotWorld.step]
    split
    · rename_i k hr; exact hw.setRequest hr rfl (by split <;> rfl)
    · exact hw
  | receive r =>
    simp only [SlotWorld.step]
    split
    · rename_i k cl msg hr hc
      obtain ⟨-, buf, hc'⟩ := hw.slot r k _ hr rfl
      obtain rfl : cl = false := by rw [hc] at hc'; cases hc'; rfl
      exact (hw.setChan_open r none).setRequest hr rfl rfl
    · rename_i k hr hc
      obtain ⟨-, buf, hc'⟩ := hw.slot r k _ hr rfl
      rw [hc] at hc'; cases hc'
    · exact hw
  | timeout r =>
    simp only [SlotWorld.step]
    split
    · rename_i k hr; exact hw.setRequest hr rfl rfl
    · exact hw
  | cleanup r =>
    simp only [SlotWorld.step]
    split
    · exact hw.cleanupSlot ‹_›
    · exact hw
  | lookup h msg =>
    simp only [SlotWorld.step]
    split
    · split <;> exact hw.setResponder _ _
    · exact hw
  | deliver h =>
    simp only [SlotWorld.step]
    split <;> try exact hw
    all_goals
      unfold SlotWorld.send
      split
      · exact (hw.setChan_open _ _).setResponder _ _
      · exact hw.setResponder _ _
      · exact ⟨hw.slot, hw.noFault, by simpa [SlotWorld.panic] using hw.noClosePanic⟩
  | deliverTimeout h =>
    simp only [SlotWorld.step]
    split
    · exact hw.setResponder _ _
    · exact hw

end Owned

theorem Owned.run {w : SlotWorld} (hw : w.Owned) {es : List SlotEvent} (hno : w.NoOverlap es) :
    (w.run es).Owned := by
  induction es generalizing w with
  | nil => exact hw
  | cons e es ih => exact ih (hw.step e hno.1) hno.2

end SlotWorld

/-- When requests of one client id do not overlap, no request reads a nil message
and no deferred cleanup closes a nil or a closed channel, so every finished request
answers with a status and a JSON body. -/
theorem distinct_client_ids_never_collide (es : List SlotEvent)
    (hno : SlotWorld.empty.NoOverlap es) :
    (∀ r k o p, (SlotWorld.empty.run es).requests r = some (k, .done o p) →
        ∃ status body, connectReply o p = .ok (status, body)) ∧
      "close of nil channel" ∉ (SlotWorld.empty.run es).panics ∧
      "close of closed channel" ∉ (SlotWorld.empty.run es).panics := by
  have hw := SlotWorld.Owned.empty.run hno
  refine ⟨fun r k o p h => ?_, hw.noClosePanic⟩
  have hf := hw.noFault r k _ h
  rcases p with _ | p
  · rcases o with (_ | msg) | _ | _
    · cases hf
    all_goals exact ⟨_, _, rfl⟩
  · simp [RequestPc.faulted] at hf

/-- Two requests of client `C`, one after the other through one edge: the first
times out and cleans up, then the second is installed under the same id and
answered; neither cleanup panics. -/
theorem two_clients_no_collision :
    let es : List SlotEvent := [.install 0 "C", .sendRequest 0 true, .timeout 0, .cleanup 0,
      .install 1 "C", .sendRequest 1 true, .lookup 0 ⟨"api-connect-response", "", "C", .null⟩,
      .deliver 0, .receive 1, .cleanup 1]
    SlotWorld.empty.NoOverlap es ∧
      (∀ r k o p, (SlotWorld.empty.run es).requests r = some (k, .done o p) →
          ∃ status body, connectReply o p = .ok (status, body)) ∧
        "close of nil channel" ∉ (SlotWorld.empty.run es).panics ∧
        "close of closed channel" ∉ (SlotWorld.empty.run es).panics := by
  intro es
  have hno : SlotWorld.empty.NoOverlap es := by
    simp only [es, SlotWorld.NoOverlap, SlotEvent.installKey?, reduceCtorEq, false_implies,
      implies_true, and_true, true_and, Option.some.injEq, forall_eq']
    refine ⟨fun _ _ h => (nomatch h), fun r pc h => ?_⟩
    cases r with
    | zero => cases h; rfl
    | succ n => cases h
  exact ⟨hno, distinct_client_ids_never_collide es hno⟩

end Arqut
