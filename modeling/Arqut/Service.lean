import Arqut.Message

/-!
# Service records and their validation

`models.EdgeService` and the signaling package's `validateService`. A Go `error`
is `Option String`: `none` is `nil`, `some msg` is an error whose `Error()` is
`msg`. Lengths are `len` of a Go string, so bytes (`String.utf8ByteSize`).
Timestamps are clock readings in nanoseconds.

`validateService` reports only the first failing check, in source order.
`ValidService` states all of them at once, and `validateService_eq_none_iff` says
that `nil` means exactly that. The store invariants need one more fact, that the
check reads only the fields it names (`validateService_congr`), so they never
unfold it.
-/

namespace Arqut

/-- `models.EdgeService`, one row of `edge_services`. -/
structure EdgeService where
  id : String
  edgeId : String
  name : String
  tunnelPort : Int
  localHost : String
  localPort : Int
  protocol : String
  enabled : Bool
  createdAt : Int
  updatedAt : Int
  deriving DecidableEq, Repr

/-- The character class of `nameRegex = ^[a-zA-Z0-9 _-]+$`. -/
def nameChar (c : Char) : Bool :=
  c.isAlphanum || c == ' ' || c == '_' || c == '-'

/-- `nameRegex.MatchString`. Go's `$` without the `m` flag anchors at the end of
the text, so the pattern accepts exactly the non-empty strings over the class. -/
def nameRegexMatch (s : String) : Bool :=
  !s.data.isEmpty && s.data.all nameChar

/-- `validateService`. -/
def validateService (s : EdgeService) : Option String :=
  if s.id = "" then some "service ID is required"
  else if s.id.utf8ByteSize > 8 then some "service ID too long (max 8 characters)"
  else if s.edgeId = "" then some "edge ID is required"
  else if s.name = "" then some "service name is required"
  else if s.name.utf8ByteSize > 128 then some "service name too long (max 128 characters)"
  else if !nameRegexMatch s.name then
    some "service name must contain only alphanumeric, hyphens, underscores, and spaces"
  else if s.localHost = "" then some "local host is required"
  else if s.tunnelPort < 1 ∨ s.tunnelPort > 65535 then
    some ("invalid tunnel port: " ++ toString s.tunnelPort ++ " (must be 1-65535)")
  else if s.localPort < 1 ∨ s.localPort > 65535 then
    some ("invalid local port: " ++ toString s.localPort ++ " (must be 1-65535)")
  else if !(s.protocol = "http" ∨ s.protocol = "websocket") then
    some ("invalid protocol: " ++ s.protocol ++ " (must be http or websocket)")
  else none

/-- Every constraint `validateService` checks, as one proposition. -/
structure ValidService (s : EdgeService) : Prop where
  id_ne : s.id ≠ ""
  id_len : s.id.utf8ByteSize ≤ 8
  edgeId_ne : s.edgeId ≠ ""
  name_ne : s.name ≠ ""
  name_len : s.name.utf8ByteSize ≤ 128
  name_match : nameRegexMatch s.name = true
  localHost_ne : s.localHost ≠ ""
  tunnelPort_range : 1 ≤ s.tunnelPort ∧ s.tunnelPort ≤ 65535
  localPort_range : 1 ≤ s.localPort ∧ s.localPort ≤ 65535
  protocol_ok : s.protocol = "http" ∨ s.protocol = "websocket"

/-- One `if` of an error cascade yields `nil` iff its guard fails and the rest does. -/
theorem ite_some_eq_none {c : Prop} [Decidable c] {a : String} {e : Option String} :
    (if c then some a else e) = none ↔ ¬c ∧ e = none := by
  split <;> simp_all

theorem validateService_eq_none_iff {s : EdgeService} :
    validateService s = none ↔ ValidService s := by
  simp only [validateService, ite_some_eq_none, and_true, not_or, Bool.not_eq_true',
    Bool.not_eq_false, Int.not_lt, Nat.not_lt, Bool.not_eq_eq_eq_not, Bool.not_true,
    decide_eq_false_iff_not, not_not]
  exact ⟨fun ⟨h1, h2, h3, h4, h5, h6, h7, h8, h9, h10⟩ =>
      ⟨h1, h2, h3, h4, h5, h6, h7, h8, h9, or_iff_not_and_not.mpr h10⟩,
    fun ⟨h1, h2, h3, h4, h5, h6, h7, h8, h9, h10⟩ =>
      ⟨h1, h2, h3, h4, h5, h6, h7, h8, h9, or_iff_not_and_not.mp h10⟩⟩

/-- The check reads neither the timestamps nor `enabled`: a record that agrees
with a valid one on the checked fields is valid. -/
theorem validateService_congr {s t : EdgeService} (hid : t.id = s.id)
    (hedge : t.edgeId = s.edgeId) (hname : t.name = s.name) (hhost : t.localHost = s.localHost)
    (htp : t.tunnelPort = s.tunnelPort) (hlp : t.localPort = s.localPort)
    (hproto : t.protocol = s.protocol) : validateService t = validateService s := by
  simp only [validateService, hid, hedge, hname, hhost, htp, hlp, hproto]

end Arqut
