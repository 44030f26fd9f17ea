import Arqut.ServiceSync

/-!
# `updateService` against other writers

`updateService` makes two store calls, `GetEdgeService` and then
`UpdateEdgeService`, with the ownership check between them and no lock or
transaction around the pair. The read loops of other connections and the REST
route `DELETE /services/:id` run in goroutines of their own, so their store
calls can fall between the two. Each call is atomic; the pair is not.

`RaceState` holds the store, the clock readings taken so far, and where one
`updateService` call, the updater, stands. A run interleaves the updater's steps
with store calls of other handlers (`StoreCall`), any calls at all; the failing
run uses those that a `DELETE /services/:id` and a `service-sync` from another
edge make.

`raceRun_updater_updater` ties the model to the atomic `updateService` of
`ServiceSync`: with nothing between its two steps, the updater is that function.
The Save writes by primary key whatever the store holds under the id by then, so
the ownership check made at the Get protects nothing that happens after it
(`updater_save_overwrites`): a delete and a create of the same id by another edge
in between make the Save overwrite that edge's record
(`update_overwrites_foreign_record`).
-/

namespace Arqut

/-- Where one `updateService` call stands. -/
inductive UpdaterPc where
  /-- Before `GetEdgeService`. -/
  | start
  /-- Past the ownership check, holding the merged record it will save. -/
  | fetched (existing : EdgeService)
  /-- Returned, with its error. -/
  | done (err : Option String)

/-- The store, the clock readings taken, and the updater. -/
structure RaceState where
  storage : Store
  tick : Nat
  updater : UpdaterPc

/-- A store call of another handler: `CreateEdgeService`, `UpdateEdgeService` with
GORM's clock reading, or `DeleteEdgeService`. `GetEdgeService` writes nothing. -/
inductive StoreCall where
  | create (s : EdgeService)
  | update (s : EdgeService) (now : Int)
  | delete (id : String)

namespace StoreCall

/-- The call's result. -/
def run (st : Store) : StoreCall → Except String Store
  | create s => createEdgeService st s
  | update s now => updateEdgeService st s now
  | delete id => deleteEdgeService st id

/-- The store after the call; a failed call writes nothing. -/
def apply (st : Store) (c : StoreCall) : Store :=
  match c.run st with
  | .ok st' => st'
  | .error _ => st

end StoreCall

/-- One step of an interleaving: the updater's next step, or another handler's
call. -/
inductive RaceStep where
  | updater
  | call (c : StoreCall)

section Run

variable (service : EdgeService) (clock : Nat → Int)

/-- The updater's next store call, with what `updateService` does around it. -/
def updaterStep (σ : RaceState) : RaceState :=
  match σ.updater with
  | .start =>
    match getEdgeService σ.storage service.id with
    | .error e => { σ with updater := .done (some ("service not found: " ++ e)) }
    | .ok existing =>
      if existing.edgeId ≠ service.edgeId then
        { σ with updater := .done (some "service belongs to different edge") }
      else
        { σ with
          tick := σ.tick + 1, updater := .fetched (mergeService existing service (clock σ.tick)) }
  | .fetched existing =>
    match updateEdgeService σ.storage existing (clock σ.tick) with
    | .error e =>
      { σ with tick := σ.tick + 1, updater := .done (some ("failed to update service: " ++ e)) }
    | .ok st => ⟨st, σ.tick + 1, .done none⟩
  | .done _ => σ

/-- One step of the interleaving. -/
def raceStep (σ : RaceState) : RaceStep → RaceState
  | .updater => updaterStep service clock σ
  | .call c => { σ with storage := c.apply σ.storage }

/-- An interleaving, step by step. -/
def raceRun : RaceState → List RaceStep → RaceState
  | σ, [] => σ
  | σ, e :: es => raceRun (raceStep service clock σ e) es

theorem raceRun_append (σ : RaceState) (xs ys : List RaceStep) :
    raceRun service clock σ (xs ++ ys) =
      raceRun service clock (raceRun service clock σ xs) ys := by
  induction xs generalizing σ with
  | nil => rfl
  | cons e xs ih => exact ih _

end Run

/-! ## With nothing in between, the updater is `updateService` -/

section Refinement

variable (service : EdgeService) (clock : Nat → Int)

/-- Two updater steps in a row from the start do what the atomic `updateService`
does: same store, same clock readings, same error. -/
theorem raceRun_updater_updater (w : SyncWorld) :
    let σ := raceRun service clock ⟨w.storage, w.tick, .start⟩ [.updater, .updater]
    σ.storage = (updateService clock service w).2.storage ∧
      σ.tick = (updateService clock service w).2.tick ∧
      σ.updater = .done (updateService clock service w).1 := by
  cases hg : getEdgeService w.storage service.id with
  | error e => simp [raceRun, raceStep, updaterStep, updateService, hg]
  | ok existing =>
    by_cases h : existing.edgeId ≠ service.edgeId <;>
      simp [raceRun, raceStep, updaterStep, updateService, hg, h, updateEdgeService, mergeService]

end Refinement

/-! ## Other handlers' calls -/

section Calls

variable {service : EdgeService} {clock : Nat → Int}

theorem raceRun_calls_updater (σ : RaceState) (cs : List StoreCall) :
    (raceRun service clock σ (cs.map .call)).updater = σ.updater := by
  induction cs generalizing σ with
  | nil => rfl
  | cons c cs ih => exact ih _

/-- The updater gets past its check only on a row of the id owned by its edge, and
then holds that row merged with the update. -/
theorem updaterStep_fetched {σ : RaceState} (hσ : σ.updater = .start) {e : EdgeService}
    (h : (updaterStep service clock σ).updater = .fetched e) :
    ∃ r, σ.storage.rows service.id = some r ∧ r.edgeId = service.edgeId ∧
      e = mergeService r service (clock σ.tick) := by
  unfold updaterStep at h
  rw [hσ] at h
  dsimp only at h
  split at h
  · cases h
  · rename_i r hg
    split at h
    · cases h
    · cases h
      exact ⟨r, getEdgeService_eq_ok.mp hg, not_not.mp ‹_›, rfl⟩

/-- The Save of a fetched record files it, stamped, under its own id, whatever the
store holds there. -/
theorem updaterStep_save {σ : RaceState} {e : EdgeService} (hσ : σ.updater = .fetched e) :
    (updaterStep service clock σ).storage.rows e.id = some { e with updatedAt := clock σ.tick } := by
  simp only [updaterStep, hσ, updateEdgeService]
  exact Store.put_rows_self _ _

end Calls

/-! ## What the Save overwrites -/

/-- Whatever other handlers' calls fall between the updater's Get and its Save, the
Save files the record the updater fetched and merged, owned by the updater's edge,
under the id, replacing whatever the store holds there then: nothing, or a record
of another edge. -/
theorem updater_save_overwrites (service : EdgeService) (clock : Nat → Int)
    (σ : RaceState) (hσ : σ.updater = .start) (pre mid : List StoreCall) {e : EdgeService}
    (hget : (raceRun service clock σ (pre.map .call ++ [.updater])).updater = .fetched e) :
    let σ' := raceRun service clock σ (pre.map .call ++ .updater :: mid.map .call)
    (raceStep service clock σ' .updater).storage.rows service.id =
      some { e with updatedAt := clock σ'.tick } ∧ e.edgeId = service.edgeId := by
  intro σ'
  have h₁ : (raceRun service clock σ (pre.map .call)).updater = .start :=
    (raceRun_calls_updater σ pre).trans hσ
  rw [raceRun_append] at hget
  obtain ⟨r, hr, hown, he⟩ := updaterStep_fetched h₁ hget
  have hσ' : σ'.updater = .fetched e := by
    simp only [σ', raceRun_append, raceRun]
    rw [raceRun_calls_updater]; exact hget
  have hid : e.id = service.id := by
    rw [he]; exact ((raceRun service clock σ (pre.map .call)).storage.rows_id hr : r.id = _)
  exact ⟨hid ▸ updaterStep_save hσ', by rw [he]; exact hown⟩

/-- The updater of `edge-1` fetches `svc1`; a `DELETE /services/svc1` and a create of
`svc1` by `edge-2` come next; the Save then overwrites the record of `edge-2` with
one of `edge-1`. -/
theorem update_overwrites_foreign_record :
    let r : EdgeService :=
      ⟨"svc1", "edge-1", "web", 8080, "localhost", 3000, "http", true, 0, 0⟩
    let σ := raceRun r (fun _ => 0) ⟨Store.empty.put r, 0, .start⟩
      [.updater, .call (.delete "svc1"), .call (.create { r with edgeId := "edge-2" })]
    (σ.storage.rows "svc1").map EdgeService.edgeId = some "edge-2" ∧
      ((raceStep r (fun _ => 0) σ .updater).storage.rows "svc1").map EdgeService.edgeId =
        some "edge-1" := by
  intro r σ
  obtain ⟨hsave, hown⟩ := updater_save_overwrites r (fun _ => 0) ⟨Store.empty.put r, 0, .start⟩ rfl
    [] [.delete "svc1", .create { r with edgeId := "edge-2" }] rfl
  exact ⟨by decide, (congrArg (Option.map EdgeService.edgeId) hsave).trans (congrArg some hown)⟩

end Arqut
