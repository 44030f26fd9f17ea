import Arqut.Strconv

/-!
# Go's `time.Time`, as the credential code reads it

A clock reading is an integer number of nanoseconds since the Unix epoch.
`time.Now()` at a reading carries a monotonic clock too, but `restAuth` always
compares a `time.Now()` against a `time.Unix(...)`, which has none, so Go's
`Before` and `After` fall back to the wall fields: `sec()`, the seconds since
January 1 of year 1 (an `int64`, `ext` for a time without monotonic reading),
and `nsec()`. `GoTime` keeps exactly those two.

`time.Unix(sec, 0)` shifts by `unixToInternal` in `int64` and so wraps for
seconds near the top of the range; `Add` saturates instead (`addSec`). Both
behaviours are kept, because the expiry of a credential is an arbitrary
`int64` read from its username.
-/

namespace Arqut

/-- Seconds from January 1 of year 1 to the Unix epoch (`unixToInternal`). -/
def unixToInternal : Int := 62135596800

/-- The largest `int64`. -/
def maxInt64 : Int := 2 ^ 63 - 1

/-- A `time.Time` without monotonic reading: `sec()` and `nsec()`. -/
structure GoTime where
  sec : Int
  nsec : Int
  deriving DecidableEq, Repr

namespace GoTime

/-- `time.Unix(sec, 0)`. -/
def unix (sec : Int) : GoTime := ⟨wrapInt64 (sec + unixToInternal), 0⟩

/-- `time.Now()` at the clock reading `ns`. -/
def now (ns : Int) : GoTime := ⟨ns / 10 ^ 9 + unixToInternal, ns % 10 ^ 9⟩

/-- `t.Unix()`. -/
def toUnix (t : GoTime) : Int := t.sec - unixToInternal

/-- `t.Before(u)`. -/
def before (t u : GoTime) : Bool := t.sec < u.sec || (t.sec == u.sec && t.nsec < u.nsec)

/-- `t.After(u)`. -/
def after (t u : GoTime) : Bool := t.sec > u.sec || (t.sec == u.sec && t.nsec > u.nsec)

/-- `t.addSec(d)` on `ext`: the `int64` sum, saturated on overflow. -/
def addSec (t : GoTime) (d : Int) : GoTime :=
  let sum := wrapInt64 (t.sec + d)
  if (sum > t.sec ↔ d > 0) then { t with sec := sum }
  else if d > 0 then { t with sec := maxInt64 }
  else { t with sec := -maxInt64 }

/-- `t.Add(d)` for a duration of `d` nanoseconds: Go's truncated division splits
`d`, the nanoseconds are renormalised, then `addSec`. -/
def add (t : GoTime) (d : Int) : GoTime :=
  let dsec := d.tdiv (10 ^ 9)
  let nsec := t.nsec + d.tmod (10 ^ 9)
  if nsec ≥ 10 ^ 9 then addSec { t with nsec := nsec - 10 ^ 9 } (dsec + 1)
  else if nsec < 0 then addSec { t with nsec := nsec + 10 ^ 9 } (dsec - 1)
  else addSec { t with nsec := nsec } dsec

/-! ## Against a clock reading

Within the `int64` range of the seconds, `Add` of a non-negative duration is the
reading moved by it (`now_add`), and a whole second compares with a reading as
its nanoseconds do (`before_now_iff`, `after_now_iff`). -/

@[simp] theorem now_toUnix (ns : Int) : (now ns).toUnix = ns / 10 ^ 9 := by
  simp [now, toUnix]

theorem addSec_of_bounds {s n d : Int} (h₁ : -2 ^ 63 ≤ s + d) (h₂ : s + d < 2 ^ 63) :
    addSec ⟨s, n⟩ d = ⟨s + d, n⟩ := by
  rw [addSec, wrapInt64_of_bounds h₁ h₂]
  exact if_pos (show s + d > s ↔ d > 0 by omega)

theorem now_add {ns d : Int} (hd : 0 ≤ d) (h₁ : -2 ^ 63 ≤ (now ns).sec)
    (h₂ : (now (ns + d)).sec < 2 ^ 63) : (now ns).add d = now (ns + d) := by
  have hp : (0 : Int) ≤ 10 ^ 9 := by norm_num
  simp only [now] at h₁ h₂
  simp only [add, now, Int.tdiv_eq_ediv hd hp, Int.tmod_eq_emod hd hp]
  split_ifs <;> rw [addSec_of_bounds (by omega) (by omega)] <;> simp only [mk.injEq] <;> omega

theorem unix_eq {e : Int} (h₁ : -2 ^ 63 ≤ e) (h₂ : e + unixToInternal < 2 ^ 63) :
    unix e = ⟨e + unixToInternal, 0⟩ := by
  rw [unix, wrapInt64_of_bounds (by unfold unixToInternal; omega) h₂]

theorem before_now_iff (s ns : Int) :
    before ⟨s + unixToInternal, 0⟩ (now ns) = true ↔ s * 10 ^ 9 < ns := by
  simp only [before, now, Bool.or_eq_true, decide_eq_true_eq, Bool.and_eq_true, beq_iff_eq]
  omega

theorem after_now_iff (s ns : Int) :
    after ⟨s + unixToInternal, 0⟩ (now ns) = true ↔ ns < s * 10 ^ 9 := by
  simp only [after, now, Bool.or_eq_true, decide_eq_true_eq, Bool.and_eq_true, beq_iff_eq]
  omega

end GoTime

/-- `48 * time.Hour`, in nanoseconds. -/
def maxCredentialAhead : Int := 48 * 3600 * 10 ^ 9

end Arqut
