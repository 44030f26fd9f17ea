import Arqut.Storage
import Arqut.Strconv

/-!
# Service sync

The hub's `service-sync` and `service-sync-batch` handlers, their store helpers
(`createService`, `updateService`, `deleteService`), and the REST route
`DELETE /services/:id`, over one shared store.

A handler runs against a `SyncWorld`: the store, the number of wall-clock
readings taken so far, and the frames written so far, each with the peer id of
the connection it went to. Every `time.Now()` takes the next reading of a fixed
`clock`, so a run is determined by its events and that clock. A frame whose
write fails is still counted as sent: no caller looks at `sendMessage`'s error.

`parseEdgeService` marshals the decoded map back to JSON and unmarshals it into
an `EdgeService`. The marshal cannot fail on a decoded map; the unmarshal is
`encoding/json`, which is not part of the repository, so it is the parameter
`unmarshal` and every result here holds for all of its behaviours.
`decodeEdgeService` is one such behaviour, used to run concrete messages.
-/

namespace Arqut

/-- What the sync handlers act on. -/
structure SyncWorld where
  storage : Store
  tick : Nat
  sent : List (String × SignalingMessage)

/-- `s.sendMessage(conn, msg)` on the connection of peer `peer`. -/
def SyncWorld.send (w : SyncWorld) (peer : String) (m : SignalingMessage) : SyncWorld :=
  { w with sent := w.sent ++ [(peer, m)] }

@[simp] theorem SyncWorld.send_storage (w : SyncWorld) (peer : String) (m : SignalingMessage) :
    (w.send peer m).storage = w.storage := rfl

/-- `maxBatchSize`. -/
def maxBatchSize : Nat := 1000

/-- The summary ack of `handleServiceSyncBatch`. -/
def batchAck (successCount : Nat) : SignalingMessage where
  type := "service-sync-ack"
  data := .object [("status", .string "success"),
    ("message", .string ("Synced " ++ toString successCount ++ " services"))]

section Handlers

variable (unmarshal : JsonObject → Except String EdgeService) (clock : Nat → Int)

/-- `parseEdgeService`. -/
def parseEdgeService (data : JsonObject) : Except String EdgeService :=
  match unmarshal data with
  | .error e => .error ("failed to unmarshal service data: " ++ e)
  | .ok s => .ok s

/-- `createService`: two clock readings for the timestamps, then the insert. -/
def createService (service : EdgeService) (w : SyncWorld) : Option String × SyncWorld :=
  let service := { service with createdAt := clock w.tick, updatedAt := clock (w.tick + 1) }
  let w := { w with tick := w.tick + 2 }
  match createEdgeService w.storage service with
  | .error e => (some ("failed to create service: " ++ e), w)
  | .ok st => (none, { w with storage := st })

/-- `updateService`: fetch the incumbent, check its owner, copy the mutable fields
over it, stamp it, and `Save` it (which stamps it again). -/
def updateService (service : EdgeService) (w : SyncWorld) : Option String × SyncWorld :=
  match getEdgeService w.storage service.id with
  | .error e => (some ("service not found: " ++ e), w)
  | .ok existing =>
    if existing.edgeId ≠ service.edgeId then (some "service belongs to different edge", w)
    else
      let existing := { existing with
        name := service.name, tunnelPort := service.tunnelPort, localHost := service.localHost,
        localPort := service.localPort, protocol := service.protocol, enabled := service.enabled,
        updatedAt := clock w.tick }
      match updateEdgeService w.storage existing (clock (w.tick + 1)) with
      | .error e => (some ("failed to update service: " ++ e), { w with tick := w.tick + 2 })
      | .ok st => (none, { w with storage := st, tick := w.tick + 2 })

/-- `deleteService`. -/
def deleteService (id : String) (w : SyncWorld) : Option String × SyncWorld :=
  match deleteEdgeService w.storage id with
  | .error e => (some ("failed to delete service: " ++ e), w)
  | .ok st => (none, { w with storage := st })

/-- The `switch operation` of `handleServiceSync`; `none` for an unknown one. -/
def dispatchOperation (operation : String) (service : EdgeService) (w : SyncWorld) :
    Option (Option String × SyncWorld) :=
  match operation with
  | "created" => some (createService clock service w)
  | "updated" => some (updateService clock service w)
  | "deleted" => some (deleteService service.id w)
  | _ => none

/-- `handleServiceSync` for a frame `msg` read on the channel of edge `edge`. -/
def handleServiceSync (edge : String) (msg : SignalingMessage) (w : SyncWorld) : SyncWorld :=
  let ack := fun (l s st e : String) (w : SyncWorld) => w.send edge (serviceSyncAck l s st e)
  match msg.data.asObject? with
  | none => ack "" "" "error" "Invalid message data format" w
  | some data =>
    let operation := ((JsonValue.field data "operation").asString?).getD ""
    match (JsonValue.field data "service").asObject? with
    | none => ack "" "" "error" "Invalid service data format" w
    | some serviceData =>
      match parseEdgeService unmarshal serviceData with
      | .error err => ack "" "" "error" ("Failed to parse service: " ++ err) w
      | .ok service =>
        let service := { service with edgeId := edge }
        match validateService service with
        | some err => ack service.id service.id "error" err w
        | none =>
          match dispatchOperation clock operation service w with
          | none => ack service.id "" "error" "invalid operation" w
          | some (some err, w) => ack service.id "" "error" err w
          | some (none, w) => ack service.id service.id "success" "" w

/-- One pass of the batch loop over an entry: `(successCount, failedCount, world)`. -/
def syncBatchEntry (edge : String) (acc : Nat × Nat × SyncWorld) (svcData : JsonValue) :
    Nat × Nat × SyncWorld :=
  let (ok, failed, w) := acc
  match svcData.asObject? with
  | none => (ok, failed + 1, w)
  | some svcMap =>
    match parseEdgeService unmarshal svcMap with
    | .error _ => (ok, failed + 1, w)
    | .ok service =>
      let service := { service with edgeId := edge }
      match validateService service with
      | some _ => (ok, failed + 1, w)
      | none =>
        match updateService clock service w with
        | (none, w) => (ok + 1, failed, w)
        | (some _, w) =>
          match createService clock service w with
          | (some _, w) => (ok, failed + 1, w)
          | (none, w) => (ok + 1, failed, w)

/-- `handleServiceSyncBatch` for a frame `msg` read on the channel of edge `edge`. -/
def handleServiceSyncBatch (edge : String) (msg : SignalingMessage) (w : SyncWorld) : SyncWorld :=
  match msg.data.asObject? with
  | none => w.send edge (errorFrame "Invalid batch sync message")
  | some data =>
    match (JsonValue.field data "services").asArray? with
    | none => w.send edge (errorFrame "Invalid services array")
    | some servicesData =>
      if servicesData.length > maxBatchSize then
        w.send edge (errorFrame
          ("Batch size exceeds maximum of " ++ toString maxBatchSize ++ " services"))
      else
        let (ok, _, w) := servicesData.foldl (syncBatchEntry unmarshal clock edge) (0, 0, w)
        w.send edge (batchAck ok)

/-- `handleDeleteService` for the path id: the HTTP status and the world. -/
def handleDeleteService (id : String) (w : SyncWorld) : Nat × SyncWorld :=
  match deleteEdgeService w.storage id with
  | .error _ => (500, w)
  | .ok st => (200, { w with storage := st })

end Handlers

/-- The writers of the service store: frames on an edge's channel, and the REST
delete. -/
inductive StoreEvent where
  | serviceSync (edge : String) (msg : SignalingMessage)
  | serviceSyncBatch (edge : String) (msg : SignalingMessage)
  | deleteService (id : String)

section Runs

variable (unmarshal : JsonObject → Except String EdgeService) (clock : Nat → Int)

/-- One writer, run to completion. -/
def storeStep (w : SyncWorld) : StoreEvent → SyncWorld
  | .serviceSync edge msg => handleServiceSync unmarshal clock edge msg w
  | .serviceSyncBatch edge msg => handleServiceSyncBatch unmarshal clock edge msg w
  | .deleteService id => (handleDeleteService id w).2

/-- A sequence of writers. -/
def storeRun (w : SyncWorld) (es : List StoreEvent) : SyncWorld :=
  es.foldl (storeStep unmarshal clock) w

end Runs

/-! ## What the helpers write -/

section Helpers

variable {clock : Nat → Int}

/-- `createService` inserts the stamped record when its id is free. -/
theorem createService_storage (s : EdgeService) (w : SyncWorld) :
    (createService clock s w).2.storage =
      if w.storage.rows s.id = none then
        w.storage.put { s with createdAt := clock w.tick, updatedAt := clock (w.tick + 1) }
      else w.storage := by
  unfold createService createEdgeService
  cases h : w.storage.rows s.id <;> simp [h]

/-- The row `updateService` saves: the incumbent `e` with the mutable fields of
`s`, stamped `now`. -/
def mergeService (e s : EdgeService) (now : Int) : EdgeService :=
  { e with
    name := s.name, tunnelPort := s.tunnelPort, localHost := s.localHost,
    localPort := s.localPort, protocol := s.protocol, enabled := s.enabled, updatedAt := now }

/-- A merge onto an incumbent of the same id and edge validates as the update does:
`validateService` reads no field the merge keeps from the incumbent. -/
theorem mergeService_validate {e s : EdgeService} (hid : e.id = s.id) (hedge : e.edgeId = s.edgeId)
    (now : Int) : validateService (mergeService e s now) = validateService s :=
  validateService_congr hid hedge rfl rfl rfl rfl rfl

/-- `updateService` rewrites the incumbent when it belongs to the same edge. -/
theorem updateService_storage (s : EdgeService) (w : SyncWorld) :
    (updateService clock s w).2.storage =
      match w.storage.rows s.id with
      | some e => if e.edgeId = s.edgeId then w.storage.put (mergeService e s (clock (w.tick + 1)))
        else w.storage
      | none => w.storage := by
  unfold updateService getEdgeService
  cases h : w.storage.rows s.id with
  | none => rfl
  | some e => by_cases he : e.edgeId = s.edgeId <;> simp [he, updateEdgeService, mergeService]

/-- `deleteService` removes the row when there is one. -/
theorem deleteService_storage (id : String) (w : SyncWorld) :
    (deleteService id w).2.storage =
      if (w.storage.rows id).isSome then w.storage.erase id else w.storage := by
  unfold deleteService deleteEdgeService
  cases h : w.storage.rows id <;> simp [h]

theorem deleteService_rows_self (id : String) (w : SyncWorld) :
    (deleteService id w).2.storage.rows id = none := by
  rw [deleteService_storage]
  split
  · simp
  · rename_i h; simpa using h

end Helpers

/-! ## What the handlers can do to the store -/

section Inversion

variable {unmarshal : JsonObject → Except String EdgeService} {clock : Nat → Int}

/-- A `service-sync` frame leaves the store alone, or dispatches one operation on a
record that passed `validateService` with `edge_id` rebound to the channel's edge. -/
theorem handleServiceSync_cases (edge : String) (msg : SignalingMessage) (w : SyncWorld) :
    (handleServiceSync unmarshal clock edge msg w).storage = w.storage ∨
      ∃ op s err w', validateService s = none ∧ s.edgeId = edge ∧
        dispatchOperation clock op s w = some (err, w') ∧
        (handleServiceSync unmarshal clock edge msg w).storage = w'.storage := by
  unfold handleServiceSync
  dsimp only
  repeat' split
  all_goals try simp only [SyncWorld.send_storage, true_or]
  all_goals exact .inr ⟨_, _, _, _, ‹_›, rfl, ‹_›, rfl⟩

/-- One batch entry leaves the world's store alone, or runs `updateService` and
possibly `createService` on a validated record of the channel's edge. -/
theorem syncBatchEntry_cases (edge : String) (acc : Nat × Nat × SyncWorld) (v : JsonValue) :
    (syncBatchEntry unmarshal clock edge acc v).2.2.storage = acc.2.2.storage ∨
      ∃ s, validateService s = none ∧ s.edgeId = edge ∧
        ((syncBatchEntry unmarshal clock edge acc v).2.2 = (updateService clock s acc.2.2).2 ∨
          (syncBatchEntry unmarshal clock edge acc v).2.2 =
            (createService clock s (updateService clock s acc.2.2).2).2) := by
  obtain ⟨ok, failed, w⟩ := acc
  unfold syncBatchEntry
  dsimp only
  repeat' split
  all_goals first
    | exact .inl rfl
    | (refine .inr ⟨_, ‹_›, rfl, .inl ?_⟩; simp_all; done)
    | (refine .inr ⟨_, ‹_›, rfl, .inr ?_⟩; simp_all)

end Inversion

/-! ## Every stored row is valid -/

/-- Every row of the store passes `validateService`. -/
def AllValid (st : Store) : Prop :=
  ∀ k r, st.rows k = some r → validateService r = none

theorem AllValid.empty : AllValid Store.empty := fun _ _ h => nomatch h

theorem AllValid.put {st : Store} (h : AllValid st) {r : EdgeService}
    (hr : validateService r = none) : AllValid (st.put r) := fun k s hs => by
  rw [Store.put_rows] at hs
  split at hs
  · cases hs; exact hr
  · exact h k s hs

theorem AllValid.erase {st : Store} (h : AllValid st) (id : String) : AllValid (st.erase id) :=
  fun k s hs => by
    rw [Store.erase_rows] at hs
    split at hs
    · cases hs
    · exact h k s hs

section Invariant

variable {unmarshal : JsonObject → Except String EdgeService} {clock : Nat → Int}

theorem createService_allValid {s : EdgeService} {w : SyncWorld} (hs : validateService s = none)
    (h : AllValid w.storage) : AllValid (createService clock s w).2.storage := by
  rw [createService_storage]
  split
  · exact h.put (by rw [validateService_congr rfl rfl rfl rfl rfl rfl rfl]; exact hs)
  · exact h

theorem updateService_allValid {s : EdgeService} {w : SyncWorld} (hs : validateService s = none)
    (h : AllValid w.storage) : AllValid (updateService clock s w).2.storage := by
  rw [updateService_storage]
  split
  · rename_i e he
    split
    · exact h.put ((mergeService_validate (w.storage.rows_id he) ‹_› _).trans hs)
    · exact h
  · exact h

theorem deleteService_allValid {id : String} {w : SyncWorld} (h : AllValid w.storage) :
    AllValid (deleteService id w).2.storage := by
  rw [deleteService_storage]
  split
  · exact h.erase id
  · exact h

theorem dispatchOperation_allValid {op : String} {s : EdgeService} {w w' : SyncWorld}
    {err : Option String} (hs : validateService s = none) (h : AllValid w.storage)
    (hd : dispatchOperation clock op s w = some (err, w')) : AllValid w'.storage := by
  unfold dispatchOperation at hd
  split at hd
  · obtain rfl := congrArg Prod.snd (Option.some.inj hd); exact createService_allValid hs h
  · obtain rfl := congrArg Prod.snd (Option.some.inj hd); exact updateService_allValid hs h
  · obtain rfl := congrArg Prod.snd (Option.some.inj hd); exact deleteService_allValid h
  · cases hd

theorem handleServiceSync_allValid {edge : String} {msg : SignalingMessage} {w : SyncWorld}
    (h : AllValid w.storage) : AllValid (handleServiceSync unmarshal clock edge msg w).storage := by
  rcases handleServiceSync_cases edge msg w with he | ⟨_, _, _, _, hs, -, hd, he⟩ <;> rw [he]
  · exact h
  · exact dispatchOperation_allValid hs h hd

theorem syncBatchEntry_allValid {edge : String} {acc : Nat × Nat × SyncWorld} {v : JsonValue}
    (h : AllValid acc.2.2.storage) :
    AllValid (syncBatchEntry unmarshal clock edge acc v).2.2.storage := by
  rcases syncBatchEntry_cases edge acc v with he | ⟨s, hs, -, he | he⟩ <;> rw [he]
  · exact h
  · exact updateService_allValid hs h
  · exact createService_allValid hs (updateService_allValid hs h)

theorem handleServiceSyncBatch_allValid {edge : String} {msg : SignalingMessage} {w : SyncWorld}
    (h : AllValid w.storage) :
    AllValid (handleServiceSyncBatch unmarshal clock edge msg w).storage := by
  have hfold : ∀ (l : List JsonValue) (acc : Nat × Nat × SyncWorld),
      AllValid acc.2.2.storage →
      AllValid (l.foldl (syncBatchEntry unmarshal clock edge) acc).2.2.storage := by
    intro l
    induction l with
    | nil => exact fun _ h => h
    | cons v l ih => exact fun acc h => ih _ (syncBatchEntry_allValid h)
  unfold handleServiceSyncBatch
  split
  · exact h
  split
  · exact h
  rename_i l _
  split
  · exact h
  split
  rename_i heq
  simpa only [heq] using hfold l (0, 0, w) h

theorem storeStep_allValid {w : SyncWorld} (e : StoreEvent) (h : AllValid w.storage) :
    AllValid (storeStep unmarshal clock w e).storage := by
  cases e with
  | serviceSync edge msg => exact handleServiceSync_allValid h
  | serviceSyncBatch edge msg => exact handleServiceSyncBatch_allValid h
  | deleteService id =>
    simp only [storeStep, handleDeleteService]
    split
    · exact h
    · rename_i st hst
      rw [(deleteEdgeService_eq_ok hst).2]
      exact h.erase id

theorem storeRun_allValid (w : SyncWorld) (es : List StoreEvent) (h : AllValid w.storage) :
    AllValid (storeRun unmarshal clock w es).storage := by
  induction es generalizing w with
  | nil => exact h
  | cons e es ih => exact ih _ (storeStep_allValid e h)

end Invariant

/-- From the empty table, whatever frames the edges send and whatever the REST
delete removes, every stored row passes `validateService`. -/
theorem storeRun_rows_valid (unmarshal : JsonObject → Except String EdgeService)
    (clock : Nat → Int) (tick : Nat) (sent : List (String × SignalingMessage))
    (es : List StoreEvent) :
    AllValid (storeRun unmarshal clock ⟨Store.empty, tick, sent⟩ es).storage :=
  storeRun_allValid _ es AllValid.empty

/-! ## The batch path respects ownership -/

/-- `st'` differs from `st` only in records of `edge`: every record of another edge
is kept, and every record of `st'` is one of `st` or belongs to `edge`. -/
def OwnerFrame (edge : String) (st st' : Store) : Prop :=
  (∀ k r, st.rows k = some r → r.edgeId ≠ edge → st'.rows k = some r) ∧
    ∀ k r, st'.rows k = some r → st.rows k = some r ∨ r.edgeId = edge

namespace OwnerFrame

variable {edge : String}

theorem refl (st : Store) : OwnerFrame edge st st := ⟨fun _ _ h _ => h, fun _ _ h => .inl h⟩

theorem trans {a b c : Store} (hab : OwnerFrame edge a b) (hbc : OwnerFrame edge b c) :
    OwnerFrame edge a c :=
  ⟨fun k r h hr => hbc.1 k r (hab.1 k r h hr) hr, fun k r h =>
    (hbc.2 k r h).elim (hab.2 k r) .inr⟩

/-- Writing a record of `edge` over nothing or over a record of `edge`. -/
theorem put {st : Store} {r : EdgeService} (hr : r.edgeId = edge)
    (hprev : ∀ p, st.rows r.id = some p → p.edgeId = edge) : OwnerFrame edge st (st.put r) := by
  refine ⟨fun k p hp hpe => ?_, fun k p hp => ?_⟩
  · by_cases hk : k = r.id
    · subst hk; exact absurd (hprev p hp) hpe
    · rwa [Store.put_rows_of_ne hk]
  · by_cases hk : k = r.id
    · subst hk; simp only [Store.put_rows_self, Option.some.injEq] at hp; exact .inr (hp ▸ hr)
    · rw [Store.put_rows_of_ne hk] at hp; exact .inl hp

end OwnerFrame

section Ownership

variable {unmarshal : JsonObject → Except String EdgeService} {clock : Nat → Int}
  {edge : String}

end Ownership

section BatchLaw

variable (unmarshal : JsonObject → Except String EdgeService) (clock : Nat → Int) (edge : String)

/-- One entry of the batch law. -/
def batchUpsertSpec (acc : Store × Nat × Nat) (v : JsonValue) : Store × Nat × Nat :=
  let (st, t, k) := acc
  match v.asObject? with
  | none => acc
  | some m =>
    match unmarshal m with
    | .error _ => acc
    | .ok s =>
      let s := { s with edgeId := edge }
      match validateService s with
      | some _ => acc
      | none =>
        match st.rows s.id with
        | some e =>
          if e.edgeId = edge then (st.put (mergeService e s (clock (t + 1))), t + 2, k + 1)
          else (st, t + 2, k)
        | none => (st.put { s with createdAt := clock t, updatedAt := clock (t + 1) }, t + 2, k + 1)

/-- The part of the batch loop's accumulator the law speaks of. -/
def batchView (acc : Nat × Nat × SyncWorld) : Store × Nat × Nat :=
  (acc.2.2.storage, acc.2.2.tick, acc.1)

end BatchLaw

section Upsert

variable {clock : Nat → Int} {s : EdgeService} {w : SyncWorld}

theorem updateService_of_owned {e : EdgeService} (he : w.storage.rows s.id = some e)
    (hown : e.edgeId = s.edgeId) :
    updateService clock s w = (none, { w with
      storage := w.storage.put (mergeService e s (clock (w.tick + 1))), tick := w.tick + 2 }) := by
  simp [updateService, getEdgeService, he, hown, updateEdgeService, mergeService]

theorem updateService_of_not_owned (h : ∀ e, w.storage.rows s.id = some e → e.edgeId ≠ s.edgeId) :
    ∃ err, updateService clock s w = (some err, w) := by
  unfold updateService getEdgeService
  cases hr : w.storage.rows s.id with
  | none => exact ⟨_, rfl⟩
  | some e => simp [h e hr]

theorem createService_of_present {e : EdgeService} (he : w.storage.rows s.id = some e) :
    ∃ err, createService clock s w = (some err, { w with tick := w.tick + 2 }) := by
  simp [createService, createEdgeService, he]

theorem createService_of_absent (h : w.storage.rows s.id = none) :
    createService clock s w = (none, { w with
      storage := w.storage.put { s with createdAt := clock w.tick, updatedAt := clock (w.tick + 1) },
      tick := w.tick + 2 }) := by
  simp [createService, createEdgeService, h]

end Upsert

section BatchLawProof

variable (unmarshal : JsonObject → Except String EdgeService) (clock : Nat → Int) (edge : String)

/-- One pass of the batch loop is one entry of the law, and sends nothing. -/
theorem syncBatchEntry_view (acc : Nat × Nat × SyncWorld) (v : JsonValue) :
    batchView (syncBatchEntry unmarshal clock edge acc v) =
        batchUpsertSpec unmarshal clock edge (batchView acc) v ∧
      (syncBatchEntry unmarshal clock edge acc v).2.2.sent = acc.2.2.sent := by
  obtain ⟨ok, failed, w⟩ := acc
  simp only [syncBatchEntry, batchUpsertSpec, batchView, parseEdgeService]
  cases v.asObject? with
  | none => exact ⟨rfl, rfl⟩
  | some m =>
    dsimp only
    cases unmarshal m with
    | error _ => exact ⟨rfl, rfl⟩
    | ok s =>
      dsimp only
      cases validateService { s with edgeId := edge } with
      | some _ => exact ⟨rfl, rfl⟩
      | none =>
        dsimp only
        cases he : w.storage.rows s.id with
        | none =>
          obtain ⟨err, hu⟩ := @updateService_of_not_owned clock { s with edgeId := edge } w
            fun e h => nomatch he ▸ h
          simp only [hu, createService_of_absent (s := { s with edgeId := edge }) he, and_self]
        | some e =>
          by_cases hown : e.edgeId = edge
          · simp only [updateService_of_owned (s := { s with edgeId := edge }) he hown, hown,
              if_true, and_self]
          · obtain ⟨err, hu⟩ := @updateService_of_not_owned clock { s with edgeId := edge } w
              fun e' h => by rw [he, Option.some.injEq] at h; exact h ▸ hown
            obtain ⟨err', hc⟩ := @createService_of_present clock { s with edgeId := edge } w _ he
            simp only [hu, hc, hown, if_false, and_self]

theorem foldl_syncBatchEntry_view (l : List JsonValue) (acc : Nat × Nat × SyncWorld) :
    batchView (l.foldl (syncBatchEntry unmarshal clock edge) acc) =
        l.foldl (batchUpsertSpec unmarshal clock edge) (batchView acc) ∧
      (l.foldl (syncBatchEntry unmarshal clock edge) acc).2.2.sent = acc.2.2.sent := by
  induction l generalizing acc with
  | nil => exact ⟨rfl, rfl⟩
  | cons v l ih =>
    obtain ⟨h₁, h₂⟩ := syncBatchEntry_view unmarshal clock edge acc v
    rw [List.foldl_cons, List.foldl_cons, ← h₁]
    exact ⟨(ih _).1, (ih _).2.trans h₂⟩

end BatchLawProof

/-- A `service-sync-batch` frame whose `data.services` is an array `l`: up to
`maxBatchSize` entries, the store and the clock end as the batch law folds them
over `l` in order, and the one frame sent is the ack of the entries committed;
past it, the one frame sent is the size error and nothing else changes. -/
theorem handleServiceSyncBatch_eq_fold (unmarshal : JsonObject → Except String EdgeService)
    (clock : Nat → Int) (edge : String) {msg : SignalingMessage} {data : JsonObject}
    {l : List JsonValue} (w : SyncWorld) (hdata : msg.data.asObject? = some data)
    (hl : (JsonValue.field data "services").asArray? = some l) :
    handleServiceSyncBatch unmarshal clock edge msg w =
      if l.length ≤ maxBatchSize then
        let r := l.foldl (batchUpsertSpec unmarshal clock edge) (w.storage, w.tick, 0)
        ⟨r.1, r.2.1, w.sent ++ [(edge, batchAck r.2.2)]⟩
      else
        w.send edge
          (errorFrame ("Batch size exceeds maximum of " ++ toString maxBatchSize ++ " services")) := by
  obtain ⟨h₁, h₂⟩ := foldl_syncBatchEntry_view unmarshal clock edge l (0, 0, w)
  simp only [handleServiceSyncBatch, hdata, hl]
  by_cases hn : l.length ≤ maxBatchSize
  · rw [if_neg (by omega), if_pos hn]
    rw [← show batchView (0, 0, w) = (w.storage, w.tick, 0) from rfl, ← h₁]
    generalize l.foldl (syncBatchEntry unmarshal clock edge) (0, 0, w) = r at h₂ ⊢
    obtain ⟨ok, failed, w'⟩ := r
    simp only [batchView, SyncWorld.send] at h₂ ⊢
    rw [h₂]
  · rw [if_pos (by omega), if_neg hn]

/-! ## The single sync only ever deletes another edge's record -/

/-- `st'` is `st` after one successful store call at key `id`: a record inserted
where there was none, the record at `id` merged with new mutable fields (which
keeps its id, edge and creation time), or the record at `id` removed. -/
inductive SingleWrite (st : Store) (id : String) : Store → Prop
  | created (r : EdgeService) : st.rows id = none → r.id = id → SingleWrite st id (st.put r)
  | updated (e s : EdgeService) (now : Int) :
      st.rows id = some e → SingleWrite st id (st.put (mergeService e s now))
  | deleted : (st.rows id).isSome → SingleWrite st id (st.erase id)

/-- A single write changes no key but its own. -/
theorem SingleWrite.rows_of_ne {st st' : Store} {id k : String} (h : SingleWrite st id st')
    (hk : k ≠ id) : st'.rows k = st.rows k := by
  cases h with
  | created r _ hr => exact Store.put_rows_of_ne (hr ▸ hk)
  | updated e s now he => exact Store.put_rows_of_ne (st.rows_id he ▸ hk)
  | deleted _ => exact Store.erase_rows_of_ne hk

/-- What a store helper returns, against the world `w` it ran on: it sends nothing,
a failure leaves the store as it was, and a success is one write at `id`. -/
structure Atomic (id : String) (w : SyncWorld) (r : Option String × SyncWorld) : Prop where
  sent : r.2.sent = w.sent
  store : r.1.isSome → r.2.storage = w.storage
  write : r.1 = none → SingleWrite w.storage id r.2.storage

section Atomicity

variable {clock : Nat → Int}

theorem createService_atomic (s : EdgeService) (w : SyncWorld) :
    Atomic s.id w (createService clock s w) := by
  dsimp only [createService]
  split
  · exact ⟨rfl, fun _ => rfl, fun h => nomatch h⟩
  · rename_i st hst
    obtain ⟨hnone, rfl⟩ := createEdgeService_eq_ok hst
    exact ⟨rfl, fun h => (nomatch h), fun _ => .created _ hnone rfl⟩

theorem updateService_atomic (s : EdgeService) (w : SyncWorld) :
    Atomic s.id w (updateService clock s w) := by
  unfold updateService
  split
  · exact ⟨rfl, fun _ => rfl, fun h => nomatch h⟩
  · rename_i e he
    split
    · exact ⟨rfl, fun _ => rfl, fun h => nomatch h⟩
    · exact ⟨rfl, fun h => (nomatch h),
        fun _ => .updated e s (clock (w.tick + 1)) (getEdgeService_eq_ok.mp he)⟩

theorem deleteService_atomic (id : String) (w : SyncWorld) :
    Atomic id w (deleteService id w) := by
  unfold deleteService
  split
  · exact ⟨rfl, fun _ => rfl, fun h => nomatch h⟩
  · rename_i st hst
    obtain ⟨hsome, rfl⟩ := deleteEdgeService_eq_ok hst
    exact ⟨rfl, fun h => (nomatch h), fun _ => .deleted hsome⟩

theorem dispatchOperation_atomic {op : String} {s : EdgeService} {w : SyncWorld}
    {r : Option String × SyncWorld} (hd : dispatchOperation clock op s w = some r) :
    Atomic s.id w r := by
  unfold dispatchOperation at hd
  split at hd <;> cases hd
  · exact createService_atomic s w
  · exact updateService_atomic s w
  · exact deleteService_atomic s.id w

end Atomicity

/-- Every `service-sync` frame on the channel of `edge` is answered by exactly one
frame, a `service-sync-ack` to `edge`; an `error` ack leaves the store as it was,
and a `success` ack reports one write at the acknowledged id. -/
theorem handleServiceSync_acks_once (unmarshal : JsonObject → Except String EdgeService)
    (clock : Nat → Int) (edge : String) (msg : SignalingMessage) (w : SyncWorld) :
    ∃ localId serverId status err,
      (handleServiceSync unmarshal clock edge msg w).sent =
        w.sent ++ [(edge, serviceSyncAck localId serverId status err)] ∧
      (status = "error" ∧ (handleServiceSync unmarshal clock edge msg w).storage = w.storage ∨
        status = "success" ∧
          SingleWrite w.storage localId (handleServiceSync unmarshal clock edge msg w).storage) := by
  unfold handleServiceSync
  dsimp only
  repeat' split
  all_goals first
    | exact ⟨_, _, _, _, rfl, .inl ⟨rfl, rfl⟩⟩
    | skip
  · -- the operation failed
    obtain ⟨hs, hst, -⟩ := dispatchOperation_atomic ‹_›
    exact ⟨_, _, _, _, congrArg (· ++ _) hs, .inl ⟨rfl, hst rfl⟩⟩
  · obtain ⟨hs, -, hw⟩ := dispatchOperation_atomic ‹_›
    exact ⟨_, _, _, _, congrArg (· ++ _) hs, .inr ⟨rfl, hw rfl⟩⟩

/-! ## A decoder to run frames with -/

/-- What `encoding/json` calls a JSON value in an `UnmarshalTypeError`. -/
def JsonValue.kind : JsonValue → String
  | .null => "null"
  | .bool _ => "bool"
  | .number _ => "number"
  | .string _ => "string"
  | .array _ => "array"
  | .object _ => "object"

/-- The error `encoding/json` reports for a value of kind `kind` under `key` that the
field's Go type cannot hold. -/
def unmarshalTypeError (kind key goType : String) : String :=
  "json: cannot unmarshal " ++ kind ++ " into Go struct field EdgeService." ++ key ++
    " of type " ++ goType

/-- A `string` field: `null` or a missing key leaves `""`. -/
def decodeString (m : JsonObject) (key : String) : Except String String :=
  match JsonValue.field m key with
  | .null => .ok ""
  | .string s => .ok s
  | v => .error (unmarshalTypeError v.kind key "string")

/-- An `int` field, from a number literal that `ParseInt` reads; the error for one it
does not read quotes the literal. -/
def decodeInt (m : JsonObject) (key : String) : Except String Int :=
  match JsonValue.field m key with
  | .null => .ok 0
  | .number lit =>
    match parseInt lit with
    | some n => .ok n
    | none => .error (unmarshalTypeError ("number " ++ lit) key "int")
  | v => .error (unmarshalTypeError v.kind key "int")

/-- A `bool` field. -/
def decodeBool (m : JsonObject) (key : String) : Except String Bool :=
  match JsonValue.field m key with
  | .null => .ok false
  | .bool b => .ok b
  | v => .error (unmarshalTypeError v.kind key "bool")

/-- One behaviour of `json.Unmarshal` into `models.EdgeService`, on the exact keys of
its `json` tags. The handlers marshal the service back from a map, which sorts its
keys, so the fields are met, and the first mismatch reported, in key order. The
timestamps stay zero: the handlers stamp their own. -/
def decodeEdgeService (m : JsonObject) : Except String EdgeService := do
  let edgeId ← decodeString m "edge_id"
  let enabled ← decodeBool m "enabled"
  let id ← decodeString m "id"
  let localHost ← decodeString m "local_host"
  let localPort ← decodeInt m "local_port"
  let name ← decodeString m "name"
  let protocol ← decodeString m "protocol"
  let tunnelPort ← decodeInt m "tunnel_port"
  return { id, edgeId, name, tunnelPort, localHost, localPort, protocol, enabled,
           createdAt := 0, updatedAt := 0 }

/-! ## A foreign record is deleted -/

/-- The frame an edge sends for one service change: `service-sync` with data
`{operation, service}`. -/
def syncFrame (operation : String) (service : JsonObject) : SignalingMessage where
  type := "service-sync"
  data := .object [("operation", .string operation), ("service", .object service)]

/-- A `deleted` frame that decodes to a valid record leaves no record at its id,
whichever edge owned it: `deleteService` gets only the id, and nothing on the
way looks at the incumbent. -/
theorem handleServiceSync_deleted_removes (unmarshal : JsonObject → Except String EdgeService)
    (clock : Nat → Int) {edge : String} {d : JsonObject} {s : EdgeService} (w : SyncWorld)
    (hd : unmarshal d = .ok s) (hv : validateService { s with edgeId := edge } = none) :
    (handleServiceSync unmarshal clock edge (syncFrame "deleted" d) w).storage.rows s.id =
      none := by
  simp only [handleServiceSync, syncFrame, parseEdgeService, hd, hv, JsonValue.asObject?_object,
    JsonValue.field_cons_of_ne (by decide : "service" ≠ "operation"), JsonValue.field_cons_self,
    JsonValue.asString?_string, Option.getD_some]
  have hgone := deleteService_rows_self s.id w
  rcases h : deleteService s.id w with ⟨_ | _, w'⟩ <;> rw [h] at hgone <;>
    simpa only [dispatchOperation, h, SyncWorld.send_storage]

/-- Edge `edge-1` creates `svc1`; edge `edge-2` then sends `deleted` for it, and the
record of `edge-1` is gone. -/
theorem foreign_service_deleted :
    let d : JsonObject := [("id", .string "svc1"), ("name", .string "web"),
      ("tunnel_port", .number "8080"), ("local_host", .string "localhost"),
      ("local_port", .number "3000"), ("protocol", .string "http")]
    let w := storeRun decodeEdgeService (fun _ => 0) ⟨Store.empty, 0, []⟩
      [.serviceSync "edge-1" (syncFrame "created" d)]
    (w.storage.rows "svc1").map EdgeService.edgeId = some "edge-1" ∧
      (handleServiceSync decodeEdgeService (fun _ => 0) "edge-2" (syncFrame "deleted" d)
        w).storage.rows "svc1" = none := by
  intro d w
  exact ⟨rfl, @handleServiceSync_deleted_removes decodeEdgeService (fun _ => 0) "edge-2" d
    ⟨"svc1", "", "web", 8080, "localhost", 3000, "http", false, 0, 0⟩ w rfl (by decide)⟩

/-! ## A batch run with a moving clock -/

/-- The batch frame of one entry. -/
def batchFrame (services : List JsonValue) : SignalingMessage where
  type := "service-sync-batch"
  data := .object [("services", .array services)]

/-- The batch law at a one-entry batch from `edge-1` on an empty store. -/
theorem one_entry_batch_eq_fold :
    let d : JsonObject := [("id", .string "svc1"), ("name", .string "web"),
      ("tunnel_port", .number "8080"), ("local_host", .string "localhost"),
      ("local_port", .number "3000"), ("protocol", .string "http")]
    let w : SyncWorld := ⟨Store.empty, 0, []⟩
    ((batchFrame [.object d]).data.asObject? = some [("services", .array [.object d])] ∧
      (JsonValue.field [("services", .array [.object d])] "services").asArray? =
        some [.object d]) ∧
    handleServiceSyncBatch decodeEdgeService (fun t => t) "edge-1" (batchFrame [.object d]) w =
      if [JsonValue.object d].length ≤ maxBatchSize then
        let r := [JsonValue.object d].foldl
          (batchUpsertSpec decodeEdgeService (fun t => t) "edge-1") (w.storage, w.tick, 0)
        ⟨r.1, r.2.1, w.sent ++ [("edge-1", batchAck r.2.2)]⟩
      else
        w.send "edge-1"
          (errorFrame ("Batch size exceeds maximum of " ++ toString maxBatchSize ++ " services")) :=
  ⟨⟨rfl, rfl⟩, handleServiceSyncBatch_eq_fold _ _ _ _ rfl rfl⟩

/-- A record the batch creates is stamped with two readings: with a clock that
moves, `created_at` and `updated_at` differ. -/
theorem batch_create_stamps_two_readings :
    let d : JsonObject := [("id", .string "svc1"), ("name", .string "web"),
      ("tunnel_port", .number "8080"), ("local_host", .string "localhost"),
      ("local_port", .number "3000"), ("protocol", .string "http")]
    let w := handleServiceSyncBatch decodeEdgeService (fun t => t) "edge-1"
      (batchFrame [.object d]) ⟨Store.empty, 0, []⟩
    (w.storage.rows "svc1").map (fun r => (r.createdAt, r.updatedAt)) = some (0, 1) := by
  decide

end Arqut
