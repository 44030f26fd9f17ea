import Mathlib.Data.List.Basic

/-!
# Signaling frames

The hub exchanges UTF-8 JSON frames `{type, from?, to?, data?}` with its peers
(`models.SignalingMessage`). A frame read by `conn.ReadJSON` decodes `data` into
Go's dynamic JSON values: `nil`, `bool`, `float64`, `string`, `[]interface{}` and
`map[string]interface{}`. `JsonValue` is that universe. Numbers keep their literal
text: no handler of the hub inspects a number, only the decoder of a service
record does, and that decoder is a parameter of the sync handlers.

An object is a decoded Go map, so its keys are distinct and `JsonValue.field`
is a plain lookup. The handlers read their payloads through the three type
assertions below; each fails exactly where the Go assertion `x.(T)` yields
`ok = false`.
-/

namespace Arqut

/-- Go's dynamic JSON values, as `encoding/json` produces them for an
`interface{}` target. -/
inductive JsonValue where
  | null
  | bool (b : Bool)
  | number (literal : String)
  | string (s : String)
  | array (items : List JsonValue)
  | object (fields : List (String × JsonValue))
  deriving Repr, Inhabited

/-- A decoded JSON object, `map[string]interface{}`. -/
abbrev JsonObject := List (String × JsonValue)

namespace JsonValue

/-- `v.(map[string]interface{})`. -/
def asObject? : JsonValue → Option JsonObject
  | .object fs => some fs
  | _ => none

/-- `v.([]interface{})`. -/
def asArray? : JsonValue → Option (List JsonValue)
  | .array xs => some xs
  | _ => none

/-- `v.(string)`. -/
def asString? : JsonValue → Option String
  | .string s => some s
  | _ => none

/-- `m[k]` on a decoded map; a missing key reads as `nil`. -/
def field (m : JsonObject) (k : String) : JsonValue :=
  (m.lookup k).getD .null

@[simp] theorem asObject?_object (fs : JsonObject) : (object fs).asObject? = some fs := rfl

@[simp] theorem asArray?_array (xs : List JsonValue) : (array xs).asArray? = some xs := rfl

@[simp] theorem asString?_string (s : String) : (string s).asString? = some s := rfl

@[simp] theorem field_cons_self (k : String) (v : JsonValue) (m : JsonObject) :
    field ((k, v) :: m) k = v := by
  simp [field]

theorem field_cons_of_ne {k k' : String} (h : k' ≠ k) (v : JsonValue) (m : JsonObject) :
    field ((k, v) :: m) k' = field m k' := by
  rw [field, field, List.lookup_cons, beq_false_of_ne h]

end JsonValue

/-- `models.SignalingMessage`. -/
structure SignalingMessage where
  type : String
  «from» : String := ""
  «to» : String := ""
  data : JsonValue := .null
  deriving Repr, Inhabited

/-- The ack of `sendServiceSyncAck`: a `service-sync-ack` frame whose data is the
map `{localId, serverId, status, error}`. -/
def serviceSyncAck (localId serverId status errorMsg : String) : SignalingMessage where
  type := "service-sync-ack"
  data := .object [("localId", .string localId), ("serverId", .string serverId),
    ("status", .string status), ("error", .string errorMsg)]

/-- The frame of `sendError`: type `error`, data `{error: errMsg}`. -/
def errorFrame (errMsg : String) : SignalingMessage where
  type := "error"
  data := .object [("error", .string errMsg)]

/-- The status field of a frame's data map, if it has one. -/
def SignalingMessage.status? (m : SignalingMessage) : Option String :=
  m.data.asObject?.bind fun fs => (JsonValue.field fs "status").asString?

@[simp] theorem serviceSyncAck_type (l s st e : String) :
    (serviceSyncAck l s st e).type = "service-sync-ack" := rfl

@[simp] theorem serviceSyncAck_status (l s st e : String) :
    (serviceSyncAck l s st e).status? = some st := rfl

@[simp] theorem errorFrame_type (e : String) : (errorFrame e).type = "error" := rfl

end Arqut
