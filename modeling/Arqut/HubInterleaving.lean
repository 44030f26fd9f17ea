import Arqut.Hub

/-!
# The hub's two maps under interleaving

Admission, a connection's deferred cleanup and a `cleanupLoop` iteration each
touch the registry and `connections` in two separate steps: the registry call
under the registry's lock, then the map update under the hub lock, with nothing
held in between. `SplitHub` runs each of them as its two steps, and any other
step of the hub (`read`, `dispatch`, `pong`, `pingFail`, `Stop`) as one.

Between the two steps of one operation the maps disagree about its id, and an
operation on the same id from another goroutine can slip in. The cleanup's
`delete` goes by the id alone, so a reconnecting peer's admission between the
`RemovePeer` and the `delete` of its previous connection's cleanup leaves the
registry holding the id that `connections` no longer has, with nothing in flight
(`delete_after_readmission_disagrees`, `cleanup_interleaved_with_readmission`). The ghost field
`overlapped` records every id on which an operation began while another one on
it was between its steps. For every other id, the maps agree on it whenever no
operation on it is between its steps (`presence_agrees_unless_overlap`): the
invariant `PresenceInv` says what each kind of operation in flight leaves in the
registry, and every step keeps it.

Run back to back, the two steps of an operation are the atomic events of `Hub`
(`addPeer_install`, `removePeer_delete`, `cleanupStale_evictConns`).
-/

namespace Arqut

/-- The hub with its operations split into their two steps: the admissions past
`AddPeer` (connection, id, type), the cleanups past `RemovePeer` (connection, id),
the ids of a `cleanupLoop` iteration past `CleanupStale`, and the ghost record of
overlapping operations. -/
structure SplitHub extends Hub where
  admitting : List (Nat × String × String)
  cleaning : List (Nat × String)
  evicting : Option (List String)
  overlapped : String → Bool

/-- The steps of the hub: the halves of admission, cleanup and eviction, and the
hub's other events, which are single steps. -/
inductive SplitEvent where
  | addPeer (peerType id edgeId publicKey : String) (now : Int)
  | install (c : Nat)
  | removePeer (c : Nat)
  | delete (c : Nat)
  | cleanupStale (timeout now : Int)
  | evictConns
  | read (c : Nat) (msg : SignalingMessage)
  | dispatch (c : Nat)
  | pong (c : Nat) (now : Int)
  | pingFail (c : Nat)
  | stop

namespace SplitHub

/-- A fresh hub with nothing in flight. -/
def new : SplitHub := { Hub.new with admitting := [], cleaning := [], evicting := none,
                                      overlapped := fun _ => false }

/-- An admission of `id` is between its steps. -/
def admittingOn (s : SplitHub) (id : String) : Bool := s.admitting.any (·.2.1 == id)

/-- A cleanup of `id` is between its steps. -/
def cleaningOn (s : SplitHub) (id : String) : Bool := s.cleaning.any (·.2 == id)

/-- An eviction of `id` is between its steps. -/
def evictingOn (s : SplitHub) (id : String) : Bool := s.evicting.any fun r => decide (id ∈ r)

/-- Some operation on `id` is between its steps. -/
def inFlight (s : SplitHub) (id : String) : Bool :=
  s.admittingOn id || s.cleaningOn id || s.evictingOn id

/-- `id` is a key of the registry. -/
def regHas (s : SplitHub) (id : String) : Bool := (s.registry.getPeer id).isSome

/-- `id` is a key of `connections`. -/
def connHas (s : SplitHub) (id : String) : Bool := (s.connections.lookup id).isSome

/-- The ghost record after operations on `ids` begin. -/
def flag (s : SplitHub) (ids : List String) : String → Bool :=
  fun id => s.overlapped id || (decide (id ∈ ids) && s.inFlight id)

/-- Admission, first step: `registry.AddPeer`. -/
def addPeer (s : SplitHub) (peerType id edgeId publicKey : String) (now : Int) : SplitHub :=
  { s with
    registry := s.registry.addPeer { id, type := peerType, edgeId, publicKey } now
    next := s.next + 1
    admitting := s.admitting ++ [(s.next, id, peerType)]
    overlapped := s.flag [id] }

/-- Admission, second step, under the hub lock: cancel the incumbent, install `c`. -/
def install (s : SplitHub) (c : Nat) : SplitHub :=
  match s.admitting.find? (·.1 == c) with
  | some (c, id, ty) =>
    { s with
      connections := s.connections.insert id c
      conns := fun c' =>
        if c' = c then some ⟨id, ty, s.stopped, false, .reading⟩
        else Hub.cancelIncumbent s.connections s.conns id c'
      admitting := s.admitting.erase (c, id, ty) }
  | none => s

/-- Cleanup, first step: a read of `c` fails; `cancel()`, `conn.Close()`,
`registry.RemovePeer(id)`. -/
def removePeer (s : SplitHub) (c : Nat) : SplitHub :=
  match s.conns c with
  | some ⟨id, ty, _, _, .reading⟩ =>
    { s with
      registry := s.registry.removePeer id
      conns := fun c' => if c' = c then some ⟨id, ty, true, true, .ended⟩ else s.conns c'
      cleaning := s.cleaning ++ [(c, id)]
      overlapped := s.flag [id] }
  | _ => s

/-- Cleanup, second step, under the hub lock: `delete(s.connections, id)`. -/
def delete (s : SplitHub) (c : Nat) : SplitHub :=
  match s.cleaning.find? (·.1 == c) with
  | some (c, id) =>
    { s with connections := s.connections.erase id, cleaning := s.cleaning.erase (c, id) }
  | none => s

/-- Eviction, first step: `registry.CleanupStale`. `cleanupLoop` is one goroutine,
so a new iteration starts only after the last one ended. -/
def cleanupStale (s : SplitHub) (timeout now : Int) : SplitHub :=
  match s.evicting with
  | none =>
    { s with
      registry := (s.registry.cleanupStale timeout now).1
      evicting := some (s.registry.cleanupStale timeout now).2
      overlapped := s.flag (s.registry.cleanupStale timeout now).2 }
  | some _ => s

/-- Eviction, second step, under the hub lock: cancel and delete the connection of
each removed id. -/
def evictConns (s : SplitHub) : SplitHub :=
  match s.evicting with
  | some removed => { s with toHub := removed.foldl Hub.evictOne s.toHub, evicting := none }
  | none => s

/-- One step. -/
def step (s : SplitHub) : SplitEvent → SplitHub
  | .addPeer ty id edgeId pk now =>
    if wsMiddlewareError ty id edgeId = none then s.addPeer ty id edgeId pk now else s
  | .install c => s.install c
  | .removePeer c => s.removePeer c
  | .delete c => s.delete c
  | .cleanupStale timeout now => s.cleanupStale timeout now
  | .evictConns => s.evictConns
  | .read c msg => { s with toHub := s.toHub.read c msg }
  | .dispatch c => { s with toHub := s.toHub.dispatch c }
  | .pong c now => { s with toHub := s.toHub.pong c now }
  | .pingFail c => { s with toHub := s.toHub.pingFail c }
  | .stop => { s with toHub := s.toHub.stop }

/-- A run. -/
def run (s : SplitHub) : List SplitEvent → SplitHub
  | [] => s
  | e :: es => (s.step e).run es

end SplitHub

/-! ## Back to back, the two steps are the atomic events -/

namespace SplitHub

theorem addPeer_install (s : SplitHub) (h : s.admitting = []) (ty id edgeId pk : String)
    (now : Int) : ((s.addPeer ty id edgeId pk now).install s.next).toHub =
      s.toHub.accept ty id edgeId pk now := by
  simp only [addPeer, install, h, List.nil_append, List.find?_singleton, beq_self_eq_true,
    if_true, Hub.accept]

theorem removePeer_delete (s : SplitHub) (h : s.cleaning = []) (c : Nat) :
    ((s.removePeer c).delete c).toHub = s.toHub.close c := by
  cases hc : s.conns c with
  | none => simp [removePeer, Hub.close, hc, delete, h]
  | some pc =>
    obtain ⟨id, ty, can, cl, loop⟩ := pc
    cases loop <;> simp [removePeer, Hub.close, hc, delete, h]

theorem cleanupStale_evictConns (s : SplitHub) (h : s.evicting = none) (timeout now : Int) :
    ((s.cleanupStale timeout now).evictConns).toHub = s.toHub.evict timeout now := by
  simp [cleanupStale, evictConns, h, Hub.evict]

end SplitHub

/-! ## Presence agreement for ids without overlapping operations -/

/-- What the registry holds of `id`, given what is in flight on it: with nothing,
the maps agree; an admission has added it; a cleanup or an eviction has removed
it. -/
structure PresenceInv (s : SplitHub) (id : String) : Prop where
  quiet : s.inFlight id = false → s.regHas id = s.connHas id
  admitting : s.admittingOn id = true → s.regHas id = true
  cleaning : s.cleaningOn id = true → s.regHas id = false
  evicting : s.evictingOn id = true → s.regHas id = false

/-- The invariant: `PresenceInv` for every id without overlapping operations. -/
def SplitHub.Inv (s : SplitHub) : Prop := ∀ id, s.overlapped id = false → PresenceInv s id

namespace PresenceInv

variable {s s' : SplitHub} {id : String}

/-- `PresenceInv` reads five bits of the state. -/
theorem congr (h : PresenceInv s id) (hreg : s'.regHas id = s.regHas id)
    (hconn : s'.connHas id = s.connHas id) (had : s'.admittingOn id = s.admittingOn id)
    (hcl : s'.cleaningOn id = s.cleaningOn id) (hev : s'.evictingOn id = s.evictingOn id) :
    PresenceInv s' id where
  quiet hq := by
    simp only [SplitHub.inFlight, had, hcl, hev] at hq
    rw [hreg, hconn, h.quiet hq]
  admitting ha := hreg.trans (h.admitting (had ▸ ha))
  cleaning hc := hreg.trans (h.cleaning (hcl ▸ hc))
  evicting he := hreg.trans (h.evicting (hev ▸ he))

/-- An admission and a removal in flight on one id contradict the invariant. -/
theorem not_admitting_of_removed (h : PresenceInv s id) (hr : s.regHas id = false) :
    s.admittingOn id = false := by
  cases ha : s.admittingOn id
  · rfl
  · simpa [hr] using h.admitting ha

theorem not_cleaning_of_present (h : PresenceInv s id) (hr : s.regHas id = true) :
    s.cleaningOn id = false := by
  cases hc : s.cleaningOn id
  · rfl
  · simpa [hr] using h.cleaning hc

theorem not_evicting_of_present (h : PresenceInv s id) (hr : s.regHas id = true) :
    s.evictingOn id = false := by
  cases he : s.evictingOn id
  · rfl
  · simpa [hr] using h.evicting he

end PresenceInv

namespace SplitHub

theorem flag_eq_false {s : SplitHub} {ids : List String} {id : String}
    (h : s.flag ids id = false) :
    s.overlapped id = false ∧ (id ∈ ids → s.inFlight id = false) := by
  simp only [flag, Bool.or_eq_false_iff, Bool.and_eq_false_imp, decide_eq_true_eq] at h
  exact h

theorem any_erase_of_false {α : Type} [BEq α] [LawfulBEq α] (l : List α) {a : α}
    {p : α → Bool}
    (ha : p a = false) : (l.erase a).any p = l.any p := by
  induction l with
  | nil => rfl
  | cons b l ih =>
    by_cases hb : b = a
    · subst hb; simp [ha]
    · simp [List.erase_cons, hb, ih]

theorem new_inv : new.Inv := fun _ _ =>
  ⟨fun _ => rfl, fun h => by simp [admittingOn, new] at h,
    fun h => by simp [cleaningOn, new] at h,
    fun h => by simp [evictingOn, new] at h⟩

section Steps

variable {s : SplitHub}

theorem addPeer_inv (hs : s.Inv) (ty id₀ edgeId pk : String) (now : Int) :
    (s.addPeer ty id₀ edgeId pk now).Inv := by
  intro id hov
  obtain ⟨hov₀, hfresh⟩ := flag_eq_false hov
  have I := hs id hov₀
  by_cases hid : id = id₀
  · subst hid
    have hq := hfresh (List.mem_singleton_self _)
    simp only [inFlight, Bool.or_eq_false_iff] at hq
    refine ⟨fun h => ?_, fun _ => ?_, (fun h => nomatch h.symm.trans hq.1.2),
      (fun h => nomatch h.symm.trans hq.2)⟩
    · simp [inFlight, admittingOn, addPeer] at h
    · exact congrArg Option.isSome
        (Registry.getPeer_addPeer_self s.registry { id, type := ty, edgeId, publicKey := pk } now)
  · refine I.congr ?_ rfl ?_ rfl rfl
    · simp only [regHas, addPeer]; rw [Registry.getPeer_addPeer_of_ne hid]
    · simp [admittingOn, addPeer, Ne.symm hid]

theorem install_inv (hs : s.Inv) (c : Nat) : (s.install c).Inv := by
  unfold install
  split
  · rename_i c' id₀ ty hfind
    intro id hov
    have I := hs id hov
    by_cases hid : id = id₀
    · subst hid
      have hreg : s.regHas id = true :=
        I.admitting (List.any_eq_true.mpr ⟨_, List.mem_of_find?_eq_some hfind, by simp⟩)
      refine ⟨fun _ => ?_, fun _ => hreg,
        (fun h => nomatch h.symm.trans (I.not_cleaning_of_present hreg)),
        (fun h => nomatch h.symm.trans (I.not_evicting_of_present hreg))⟩
      show s.regHas id = _
      simp [hreg, connHas]
    · refine I.congr rfl ?_ ?_ rfl rfl
      · simp only [connHas]; rw [AList.lookup_insert_ne hid]
      · simp only [admittingOn]
        rw [any_erase_of_false]
        simpa using Ne.symm hid
  · exact hs

theorem removePeer_inv (hs : s.Inv) (c : Nat) : (s.removePeer c).Inv := by
  unfold removePeer
  split
  · rename_i id₀ ty _ _ _
    intro id hov
    obtain ⟨hov₀, hfresh⟩ := flag_eq_false hov
    have I := hs id hov₀
    by_cases hid : id = id₀
    · subst hid
      have hq := hfresh (List.mem_singleton_self _)
      simp only [inFlight, Bool.or_eq_false_iff] at hq
      refine ⟨fun h => ?_, (fun h => nomatch h.symm.trans hq.1.1), fun _ => ?_,
        (fun h => nomatch h.symm.trans hq.2)⟩
      · simp [inFlight, cleaningOn] at h
      · simp [regHas]
    · refine I.congr ?_ rfl rfl ?_ rfl
      · simp only [regHas]; rw [Registry.getPeer_removePeer_of_ne hid]
      · simp [cleaningOn, Ne.symm hid]
  · exact hs

theorem delete_inv (hs : s.Inv) (c : Nat) : (s.delete c).Inv := by
  unfold delete
  split
  · rename_i c' id₀ hfind
    intro id hov
    have I := hs id hov
    by_cases hid : id = id₀
    · subst hid
      have hreg : s.regHas id = false :=
        I.cleaning (List.any_eq_true.mpr ⟨_, List.mem_of_find?_eq_some hfind, by simp⟩)
      refine ⟨fun _ => ?_, (fun h => nomatch h.symm.trans (I.not_admitting_of_removed hreg)),
        fun _ => hreg, fun _ => hreg⟩
      show s.regHas id = _
      simp [hreg, connHas]
    · refine I.congr rfl ?_ rfl ?_ rfl
      · simp only [connHas]; rw [AList.lookup_erase_ne hid]
      · simp only [cleaningOn]
        rw [any_erase_of_false]
        simpa using Ne.symm hid
  · exact hs

theorem cleanupStale_inv (hs : s.Inv) (timeout now : Int) : (s.cleanupStale timeout now).Inv := by
  unfold cleanupStale
  split
  · rename_i hnone
    intro id hov
    obtain ⟨hov₀, hfresh⟩ := flag_eq_false hov
    have I := hs id hov₀
    have hreg := Registry.cleanupStale_getPeer s.registry timeout now id
    by_cases hid : id ∈ (s.registry.cleanupStale timeout now).2
    · have hq := hfresh hid
      simp only [inFlight, Bool.or_eq_false_iff] at hq
      refine ⟨fun h => ?_, (fun h => nomatch h.symm.trans hq.1.1),
        (fun h => nomatch h.symm.trans hq.1.2), fun _ => ?_⟩
      · simp [inFlight, evictingOn, hid] at h
      · simp [regHas, hreg, hid]
    · refine I.congr ?_ rfl rfl rfl ?_
      · simp [regHas, hreg, hid]
      · simp [evictingOn, hnone, hid]
  · exact hs

/-- The eviction loop deletes exactly the ids it is given from `connections`, and
changes nothing else the invariant reads. -/
theorem foldl_evictOne_connections (ids : List String) (h : Hub) (id : String) :
    ((ids.foldl Hub.evictOne h).connections.lookup id).isSome =
      (!decide (id ∈ ids) && (h.connections.lookup id).isSome) ∧
    (ids.foldl Hub.evictOne h).registry = h.registry := by
  refine ⟨by rw [Hub.foldl_evictOne_lookup]; split <;> simp [*], ?_⟩
  induction ids generalizing h with
  | nil => rfl
  | cons id' ids ih => rw [List.foldl_cons, ih]; unfold Hub.evictOne; split <;> rfl

theorem evictConns_inv (hs : s.Inv) : s.evictConns.Inv := by
  unfold evictConns
  split
  · rename_i removed hsome
    intro id hov
    have I := hs id hov
    obtain ⟨hconn, hregistry⟩ := foldl_evictOne_connections removed s.toHub id
    by_cases hid : id ∈ removed
    · have hreg : s.regHas id = false := I.evicting (by simp [evictingOn, hsome, hid])
      have hreg' : (s.evictConns).regHas id = false := by
        simp only [regHas, evictConns, hsome, hregistry] at hreg ⊢; exact hreg
      refine ⟨fun _ => ?_, (fun h => nomatch h.symm.trans (I.not_admitting_of_removed hreg)),
        fun _ => ?_, (fun h => nomatch h)⟩
      · simp only [regHas, connHas, hregistry, hconn, hid] at hreg ⊢; simpa using hreg
      · simp only [regHas, hregistry] at hreg ⊢; exact hreg
    · refine I.congr ?_ ?_ rfl rfl ?_
      · simp [regHas, hregistry]
      · simp [connHas, hconn, hid]
      · simp [evictingOn, hsome, hid]
  · exact hs

/-- The hub's single-step events change neither map's keys nor what is in flight. -/
theorem toHub_step_inv (hs : s.Inv) (h' : Hub) (hconn : h'.connections = s.connections)
    (hreg : ∀ id, (h'.registry.getPeer id).isSome = (s.registry.getPeer id).isSome) :
    ({ s with toHub := h' } : SplitHub).Inv := fun id hov =>
  (hs id hov).congr (hreg id) (by simp [connHas, hconn]) rfl rfl rfl

theorem step_inv (hs : s.Inv) (e : SplitEvent) : (s.step e).Inv := by
  cases e with
  | addPeer ty id edgeId pk now =>
    simp only [step]; split
    · exact addPeer_inv hs ty id edgeId pk now
    · exact hs
  | install c => exact install_inv hs c
  | removePeer c => exact removePeer_inv hs c
  | delete c => exact delete_inv hs c
  | cleanupStale timeout now => exact cleanupStale_inv hs timeout now
  | evictConns => exact evictConns_inv hs
  | read c msg =>
    refine toHub_step_inv hs _ ?_ fun _ => ?_ <;> (unfold Hub.read; split <;> rfl)
  | dispatch c =>
    refine toHub_step_inv hs _ ?_ fun _ => ?_ <;> (unfold Hub.dispatch; split <;> rfl)
  | pong c now =>
    refine toHub_step_inv hs _ ?_ fun id => ?_ <;> unfold Hub.pong <;> split
    all_goals try rfl
    rw [Registry.getPeer_updateLastPing]
    split <;> simp_all
  | pingFail c =>
    refine toHub_step_inv hs _ ?_ fun _ => ?_ <;>
      (unfold Hub.pingFail; split <;> (try split) <;> rfl)
  | stop => exact toHub_step_inv hs _ rfl fun _ => rfl

theorem run_inv (hs : s.Inv) (es : List SplitEvent) : (s.run es).Inv := by
  induction es generalizing s with
  | nil => exact hs
  | cons e es ih => exact ih (step_inv hs e)

end Steps

end SplitHub

/-- In every interleaving from a fresh hub, an id on which no two operations
overlapped is a key of the registry exactly when it is a key of `connections`,
whenever no operation on it is between its steps. -/
theorem presence_agrees_unless_overlap (es : List SplitEvent) (id : String)
    (hq : (SplitHub.new.run es).inFlight id = false)
    (ho : (SplitHub.new.run es).overlapped id = false) :
    (SplitHub.new.run es).regHas id = (SplitHub.new.run es).connHas id :=
  (SplitHub.run_inv SplitHub.new_inv es id ho).quiet hq

/-- A peer reconnects and its previous connection's cleanup is done in turn; the
maps agree on `E`. -/
theorem reconnect_after_cleanup_agrees :
    let es : List SplitEvent := [.addPeer "edge" "E" "" "" 0, .install 0, .removePeer 0,
      .delete 0, .addPeer "edge" "E" "" "" 1, .install 1]
    (SplitHub.new.run es).inFlight "E" = false ∧ (SplitHub.new.run es).overlapped "E" = false ∧
      (SplitHub.new.run es).regHas "E" = (SplitHub.new.run es).connHas "E" := by
  intro es
  exact ⟨rfl, rfl, presence_agrees_unless_overlap es "E" rfl rfl⟩

/-! ## A cleanup's `delete` after a readmission -/

/-- The second step of a cleanup deletes its id from `connections` by the id alone.
If the registry holds the id when it runs, because the peer was admitted again
after the cleanup's `RemovePeer`, and nothing else on the id is in flight, then
afterwards nothing is in flight on the id and the maps disagree on it. -/
theorem delete_after_readmission_disagrees (s : SplitHub) {c : Nat} {id : String}
    (hc : s.cleaning.find? (·.1 == c) = some (c, id))
    (honly : (s.cleaning.erase (c, id)).any (·.2 == id) = false)
    (hadm : s.admittingOn id = false) (hev : s.evictingOn id = false)
    (hreg : s.regHas id = true) :
    (s.step (.delete c)).inFlight id = false ∧ (s.step (.delete c)).regHas id = true ∧
      (s.step (.delete c)).connHas id = false := by
  simp only [SplitHub.step, SplitHub.delete, hc]
  refine ⟨?_, hreg, by simp [SplitHub.connHas]⟩
  simp only [SplitHub.inFlight, SplitHub.cleaningOn, honly, Bool.or_false, Bool.or_eq_false_iff]
  exact ⟨hadm, hev⟩

/-- Connection 0 of `E` begins its cleanup; `E` reconnects as connection 1; the
cleanup of 0 then deletes `E` from `connections`. Nothing is in flight, and the
registry holds `E` while `connections` does not. -/
theorem cleanup_interleaved_with_readmission :
    let s := SplitHub.new.run [.addPeer "edge" "E" "" "" 0, .install 0, .removePeer 0,
      .addPeer "edge" "E" "" "" 1, .install 1]
    s.connections.lookup "E" = some 1 ∧
      ((s.step (.delete 0)).inFlight "E" = false ∧ (s.step (.delete 0)).regHas "E" = true ∧
        (s.step (.delete 0)).connHas "E" = false) := by
  intro s
  exact ⟨rfl, delete_after_readmission_disagrees s rfl rfl rfl rfl rfl⟩

end Arqut
