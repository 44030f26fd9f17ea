import Arqut.Service

/-!
# The service store

`SQLiteStorage` over the `edge_services` table. The table is keyed by its
primary key `id`, so a `Store` maps ids to rows and carries, as a field, that a
row is stored under its own id: no operation can file a record under a foreign
key, and later proofs read the key off the row instead of re-deriving it.

Each method is the single statement GORM issues for it, atomic in SQLite:

* `CreateEdgeService` is an `INSERT`; the primary key rejects a taken id.
* `UpdateEdgeService` is GORM's `Save` of a record with a primary key: an
  `UPDATE` of every column by id, falling back to an insert when no row
  matched, so an upsert. GORM stamps `updated_at` itself (`autoUpdateTime`) with
  a reading of its own clock, which the caller passes as `now`.
* `DeleteEdgeService` deletes by id and fails with `service not found` when no
  row was affected; `GetEdgeService` fails the same way on an absent id.

The engine's own I/O failures are not modelled: the store fails exactly where
the table's contents make it fail. The listing queries (`ListEdgeServices`,
`ListAllServices`, `ListAllEnabledServices`) only read the table and no
property here depends on them.
-/

namespace Arqut

/-- The `edge_services` table, by primary key. -/
structure Store where
  rows : String → Option EdgeService
  rows_id : ∀ {k s}, rows k = some s → s.id = k

namespace Store

/-- The table as `Init` creates it. -/
def empty : Store where
  rows _ := none
  rows_id h := nomatch h

/-- The row `s` written under its primary key. -/
def put (st : Store) (s : EdgeService) : Store where
  rows k := if k = s.id then some s else st.rows k
  rows_id {k r} h := by
    dsimp only at h
    split at h
    · cases h; symm; assumption
    · exact st.rows_id h

/-- The row with key `id` removed. -/
def erase (st : Store) (id : String) : Store where
  rows k := if k = id then none else st.rows k
  rows_id {k r} h := by
    dsimp only at h
    split at h
    · cases h
    · exact st.rows_id h

@[simp] theorem empty_rows (k : String) : empty.rows k = none := rfl

@[simp] theorem put_rows_self (st : Store) (s : EdgeService) : (st.put s).rows s.id = some s := by
  simp [put]

theorem put_rows (st : Store) (s : EdgeService) (k : String) :
    (st.put s).rows k = if k = s.id then some s else st.rows k := rfl

theorem put_rows_of_ne {st : Store} {s : EdgeService} {k : String} (h : k ≠ s.id) :
    (st.put s).rows k = st.rows k := by simp [put, h]

@[simp] theorem erase_rows_self (st : Store) (id : String) : (st.erase id).rows id = none := by
  simp [erase]

theorem erase_rows (st : Store) (id k : String) :
    (st.erase id).rows k = if k = id then none else st.rows k := rfl

theorem erase_rows_of_ne {st : Store} {id k : String} (h : k ≠ id) :
    (st.erase id).rows k = st.rows k := by simp [erase, h]

end Store

/-- The driver's message for a duplicate primary key: `glebarez/sqlite` runs on
`modernc.org/sqlite`, which writes the result code's text, SQLite's message and the
extended code, 1555 for `SQLITE_CONSTRAINT_PRIMARYKEY`. -/
def uniqueConstraintFailed : String :=
  "constraint failed: UNIQUE constraint failed: edge_services.id (1555)"

/-- `SQLiteStorage.CreateEdgeService`. -/
def createEdgeService (st : Store) (s : EdgeService) : Except String Store :=
  match st.rows s.id with
  | some _ => .error ("failed to create service: " ++ uniqueConstraintFailed)
  | none => .ok (st.put s)

/-- `SQLiteStorage.UpdateEdgeService`: GORM `Save`, stamped with GORM's reading `now`.
The callers only save records whose id is non-empty, where `Save` is the upsert. -/
def updateEdgeService (st : Store) (s : EdgeService) (now : Int) : Except String Store :=
  .ok (st.put { s with updatedAt := now })

/-- `SQLiteStorage.DeleteEdgeService`. -/
def deleteEdgeService (st : Store) (id : String) : Except String Store :=
  match st.rows id with
  | none => .error "service not found"
  | some _ => .ok (st.erase id)

/-- `SQLiteStorage.GetEdgeService`. -/
def getEdgeService (st : Store) (id : String) : Except String EdgeService :=
  match st.rows id with
  | none => .error "service not found"
  | some s => .ok s

theorem createEdgeService_eq_ok {st st' : Store} {s : EdgeService}
    (h : createEdgeService st s = .ok st') : st.rows s.id = none ∧ st' = st.put s := by
  unfold createEdgeService at h
  split at h
  · cases h
  · cases h; exact ⟨‹_›, rfl⟩

theorem createEdgeService_eq_error {st : Store} {s : EdgeService} {e : String}
    (h : createEdgeService st s = .error e) : ∃ r, st.rows s.id = some r := by
  unfold createEdgeService at h
  split at h
  · exact ⟨_, ‹_›⟩
  · cases h

theorem deleteEdgeService_eq_ok {st st' : Store} {id : String}
    (h : deleteEdgeService st id = .ok st') : (st.rows id).isSome ∧ st' = st.erase id := by
  unfold deleteEdgeService at h
  split at h
  · cases h
  · cases h; simp [*]

theorem getEdgeService_eq_ok {st : Store} {id : String} {s : EdgeService} :
    getEdgeService st id = .ok s ↔ st.rows id = some s := by
  unfold getEdgeService
  split <;> simp_all

/-- The store's round trips: a created record reads back as written, a saved record
reads back with `updated_at` restamped by the store, and a deleted id reads as not
found. -/
theorem store_round_trips (st : Store) (s : EdgeService) (now : Int) :
    (∀ st', createEdgeService st s = .ok st' → getEdgeService st' s.id = .ok s) ∧
      (∀ st', updateEdgeService st s now = .ok st' →
        getEdgeService st' s.id = .ok { s with updatedAt := now }) ∧
      ∀ st', deleteEdgeService st s.id = .ok st' →
        getEdgeService st' s.id = .error "service not found" := by
  refine ⟨fun st' h => ?_, fun st' h => ?_, fun st' h => ?_⟩
  · rw [(createEdgeService_eq_ok h).2, getEdgeService_eq_ok]; exact Store.put_rows_self st s
  · cases h; rw [getEdgeService_eq_ok]; exact Store.put_rows_self st _
  · rw [(deleteEdgeService_eq_ok h).2, getEdgeService, Store.erase_rows_self]

end Arqut
