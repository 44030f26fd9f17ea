import Arqut.GoTime

/-!
# The TURN authenticator

`turn.AuthHandler`: the callback the relay library calls on every allocation
with `(username, realm)` and which answers with the long-term-credential key
`MD5(username:realm:password)`, or refuses. In `rest` mode the password is not
looked up but recomputed from the username as `base64(HMAC-SHA256(secret,
username))`; the relay then checks the request's message integrity against the
key it got back. The callback receives no password, so it cannot tell which
secret a client's credential was signed with: it can only pick one.

The hash primitives are library code and stay abstract (`Crypto`). The
handler's log calls and the source address, which only feeds them, are left
out. The two `time.Now()` calls of `restAuth` are the clock readings `now₁`
(expiry) and `now₂` (the 48-hour bound).

`restAuth_eq` is the spec lemma: past the parse and the two time checks,
`restAuth` answers with the key of the first non-empty secret of the ring,
whatever the other secrets are.
-/

namespace Arqut

/-- The hash primitives: `crypto/hmac` over `crypto/sha256`, `encoding/base64`'s
standard encoding, and `crypto/md5`. -/
structure Crypto where
  hmacSha256 : String → String → List UInt8
  base64Std : List UInt8 → String
  md5 : String → List UInt8

variable (crypto : Crypto)

/-- `base64.StdEncoding.EncodeToString(HMAC-SHA256(secret, username))`. -/
def restPassword (secret username : String) : String :=
  crypto.base64Std (crypto.hmacSha256 secret username)

/-- pion's `turn.GenerateAuthKey`. -/
def generateAuthKey (username realm password : String) : List UInt8 :=
  crypto.md5 (username ++ ":" ++ realm ++ ":" ++ password)

/-- `fmt.Sprintf("%s:%s:%d", peerType, peerID, expiry)`. -/
def turnUsername (peerType peerID : String) (expiry : Int) : String :=
  peerType ++ ":" ++ peerID ++ ":" ++ toString expiry

/-- The state of an `AuthHandler`. -/
structure AuthHandler where
  mode : String
  secret : String
  oldSecrets : List String
  ttl : Int
  staticUsers : String → Option String

/-- `NewAuthHandler`. -/
def newAuthHandler (mode secret : String) (oldSecrets : List String) (ttl : Int)
    (staticUsers : String → Option String) : AuthHandler :=
  ⟨mode, secret, oldSecrets, ttl, staticUsers⟩

/-- `AuthHandler.UpdateSecrets`. -/
def AuthHandler.updateSecrets (h : AuthHandler) (current : String) (old : List String)
    (ttl : Int) : AuthHandler :=
  { h with secret := current, oldSecrets := old, ttl := ttl }

/-- The first steps of `restAuth`: `strings.SplitN(username, ":", 3)`, the arity
check, then `strconv.ParseInt` of the third part. -/
def parseRestUsername (username : String) : Option (String × String × Int) :=
  match splitN 3 username.data with
  | [pt, pid, ts] => (parseInt ⟨ts⟩).map fun e => (⟨pt⟩, ⟨pid⟩, e)
  | _ => none

/-- The expiry checks of `restAuth`: not `Before` the first reading, not `After`
the second reading plus 48 hours. -/
def expiryAccepted (expiry now₁ now₂ : Int) : Bool :=
  !(GoTime.unix expiry).before (GoTime.now now₁) &&
    !(GoTime.unix expiry).after ((GoTime.now now₂).add maxCredentialAhead)

/-- The secret loop of `restAuth`: skip empty secrets, answer with the key of the
first other one. -/
def secretLoop (username realm : String) : List String → Option (List UInt8)
  | [] => none
  | secret :: rest =>
    if secret = "" then secretLoop username realm rest
    else some (generateAuthKey crypto username realm (restPassword crypto secret username))

/-- `AuthHandler.restAuth`. -/
def restAuth (h : AuthHandler) (username realm : String) (now₁ now₂ : Int) :
    Option (List UInt8) :=
  match parseRestUsername username with
  | none => none
  | some (_, _, expiry) =>
    if (GoTime.unix expiry).before (GoTime.now now₁) then none
    else if (GoTime.unix expiry).after ((GoTime.now now₂).add maxCredentialAhead) then none
    else secretLoop crypto username realm (h.secret :: h.oldSecrets)

/-- `AuthHandler.staticAuth`. -/
def staticAuth (h : AuthHandler) (username realm : String) : Option (List UInt8) :=
  (h.staticUsers username).map (generateAuthKey crypto username realm)

/-- `AuthHandler.AuthenticateRequest`. -/
def authenticateRequest (h : AuthHandler) (username realm : String) (now₁ now₂ : Int) :
    Option (List UInt8) :=
  match h.mode with
  | "rest" => restAuth crypto h username realm now₁ now₂
  | "static" => staticAuth crypto h username realm
  | _ => none

/-! ## What `restAuth` answers -/

/-- The loop answers with the key of the first non-empty secret. -/
theorem secretLoop_eq (username realm : String) (l : List String) :
    secretLoop crypto username realm l = (l.find? (· ≠ "")).map fun s =>
      generateAuthKey crypto username realm (restPassword crypto s username) := by
  induction l with
  | nil => rfl
  | cons s rest ih =>
    by_cases hs : s = "" <;> simp [secretLoop, hs, ih]

/-- `restAuth` is the parse, the expiry checks, and the key of the first non-empty
secret. -/
theorem restAuth_eq (h : AuthHandler) (username realm : String) (now₁ now₂ : Int) :
    restAuth crypto h username realm now₁ now₂ =
      (parseRestUsername username).bind fun (_, _, e) =>
        if expiryAccepted e now₁ now₂ then
          ((h.secret :: h.oldSecrets).find? (· ≠ "")).map fun s =>
            generateAuthKey crypto username realm (restPassword crypto s username)
        else none := by
  unfold restAuth expiryAccepted
  rcases parseRestUsername username with _ | ⟨_, _, e⟩
  · rfl
  · simp only [Option.some_bind, ← secretLoop_eq]
    split <;> split <;> simp_all

/-- With a non-empty current secret, every key `restAuth` hands out is the key of
the current secret: the old secrets are never used. -/
theorem restAuth_current_key {h : AuthHandler} (hs : h.secret ≠ "") {username realm : String}
    {now₁ now₂ : Int} {key : List UInt8}
    (hk : restAuth crypto h username realm now₁ now₂ = some key) :
    key = generateAuthKey crypto username realm (restPassword crypto h.secret username) := by
  rw [restAuth_eq] at hk
  simp only [Option.bind_eq_some] at hk
  obtain ⟨⟨_, _, e⟩, -, hk⟩ := hk
  split at hk
  · simpa [hs] using hk.symm
  · cases hk

/-- The rotation case at a concrete credential: ring `a` with grace secret `b`.
`restAuth` answers the key of a credential signed with `b` only if it coincides
with the key under `a`. -/
theorem restAuth_grace_secret_key (crypto : Crypto) :
    restAuth crypto (newAuthHandler "rest" "a" ["b"] 86400 fun _ => none)
        (turnUsername "edge" "e1" 1700000060) "example.com" 1700000000000000000
        1700000000000000000 =
      some (generateAuthKey crypto (turnUsername "edge" "e1" 1700000060) "example.com"
        (restPassword crypto "b" (turnUsername "edge" "e1" 1700000060))) ↔
    generateAuthKey crypto (turnUsername "edge" "e1" 1700000060) "example.com"
        (restPassword crypto "a" (turnUsername "edge" "e1" 1700000060)) =
      generateAuthKey crypto (turnUsername "edge" "e1" 1700000060) "example.com"
        (restPassword crypto "b" (turnUsername "edge" "e1" 1700000060)) := by
  have hp : parseRestUsername (turnUsername "edge" "e1" 1700000060) =
      some ("edge", "e1", 1700000060) := by decide
  have he : expiryAccepted 1700000060 1700000000000000000 1700000000000000000 = true := by
    decide
  refine ⟨fun hb => (restAuth_current_key crypto (by decide) hb).symm, fun hab => ?_⟩
  rw [restAuth_eq, hp, ← hab]
  simp [he, newAuthHandler]

/-! ## The expiry window

For clock readings in the `int64` range of nanoseconds (`UnixNano`'s, years 1678
to 2262), the two checks accept exactly the expiries whose nanoseconds lie
between the first reading and the second plus 48 hours, in unbounded integers.
An expiry so large that `time.Unix` wraps lands before year 1 and fails the
first check; it is past any such window anyway. -/

/-- The parse succeeds exactly on three `SplitN` pieces whose last one `ParseInt`
reads. -/
theorem parseRestUsername_eq_some {u pt pid : String} {e : Int} :
    parseRestUsername u = some (pt, pid, e) ↔
      ∃ x y z, splitN 3 u.data = [x, y, z] ∧ parseInt ⟨z⟩ = some e ∧ pt = ⟨x⟩ ∧ pid = ⟨y⟩ := by
  unfold parseRestUsername
  split
  · rename_i x y z hs
    simp only [Option.map_eq_some', Prod.mk.injEq, hs, List.cons.injEq, and_true]
    constructor
    · rintro ⟨a, ha, rfl, rfl, rfl⟩; exact ⟨x, y, z, ⟨rfl, rfl, rfl⟩, ha, rfl, rfl⟩
    · rintro ⟨x, y, z, ⟨rfl, rfl, rfl⟩, ha, rfl, rfl⟩; exact ⟨e, ha, rfl, rfl, rfl⟩
  · rename_i hs
    simp only [reduceCtorEq, false_iff, not_exists, not_and]
    exact fun x y z h => absurd h (hs x y z)

theorem parseRestUsername_bounds {u pt pid : String} {e : Int}
    (h : parseRestUsername u = some (pt, pid, e)) : -2 ^ 63 ≤ e ∧ e < 2 ^ 63 :=
  let ⟨_, _, _, _, he, _⟩ := parseRestUsername_eq_some.mp h
  parseInt_bounds he

theorem expiryAccepted_iff {e now₁ now₂ : Int} (he₁ : -2 ^ 63 ≤ e) (he₂ : e < 2 ^ 63)
    (h₀ : -2 ^ 63 ≤ now₁) (h : now₁ ≤ now₂) (h₂ : now₂ < 2 ^ 63) :
    expiryAccepted e now₁ now₂ = true ↔
      now₁ ≤ e * 10 ^ 9 ∧ e * 10 ^ 9 ≤ now₂ + maxCredentialAhead := by
  have hU : unixToInternal = 62135596800 := rfl
  have hA : maxCredentialAhead = 172800000000000 := rfl
  rw [expiryAccepted, GoTime.now_add (by rw [hA]; omega) (by simp only [GoTime.now]; omega)
    (by simp only [GoTime.now]; omega)]
  by_cases hw : e + unixToInternal < 2 ^ 63
  · rw [GoTime.unix_eq he₁ hw, Bool.and_eq_true, Bool.not_eq_true', Bool.not_eq_true',
      ← Bool.not_eq_true, ← Bool.not_eq_true, GoTime.before_now_iff, GoTime.after_now_iff]
    omega
  · -- `time.Unix` wraps: the expiry reads as a time before year 1
    have hs : (GoTime.unix e).sec = e + unixToInternal - 2 ^ 64 :=
      wrapInt64_of_overflow (by omega) (by omega)
    have hb : (GoTime.unix e).before (GoTime.now now₁) = true := by
      simp only [GoTime.before, GoTime.now, hs, Bool.or_eq_true, decide_eq_true_eq]
      omega
    simp only [hb, Bool.not_true, Bool.false_and, Bool.false_eq_true, false_iff]
    omega

/-- `restAuth` with its two time checks replaced by the window in unbounded
integers: it reaches the secret loop exactly when the username's expiry `e`
satisfies `now₁ ≤ e * 10^9 ≤ now₂ + 48h`. -/
theorem restAuth_expiry_window (h : AuthHandler) (username realm : String) {now₁ now₂ : Int}
    (h₀ : -2 ^ 63 ≤ now₁) (h₁₂ : now₁ ≤ now₂) (h₂ : now₂ < 2 ^ 63) :
    restAuth crypto h username realm now₁ now₂ =
      (parseRestUsername username).bind fun (_, _, e) =>
        if now₁ ≤ e * 10 ^ 9 ∧ e * 10 ^ 9 ≤ now₂ + 48 * 3600 * 10 ^ 9 then
          secretLoop crypto username realm (h.secret :: h.oldSecrets)
        else none := by
  rw [restAuth_eq]
  rcases hp : parseRestUsername username with _ | ⟨pt, pid, e⟩
  · rfl
  · obtain ⟨he₁, he₂⟩ := parseRestUsername_bounds hp
    simp only [Option.some_bind, ← secretLoop_eq]
    exact if_congr (expiryAccepted_iff he₁ he₂ h₀ h₁₂ h₂) rfl rfl

/-- Both readings at one instant: the window is that instant to 48 hours later. -/
theorem restAuth_expiry_window_at_one_instant :
    let crypto : Crypto := ⟨fun _ _ => [], fun _ => "", fun _ => []⟩
    let h := newAuthHandler "rest" "a" [] 86400 fun _ => none
    let t : Int := 1700000000000000000
    (-2 ^ 63 ≤ t ∧ t ≤ t ∧ t < 2 ^ 63) ∧
      restAuth crypto h "edge:e1:1700000060" "example.com" t t =
        (parseRestUsername "edge:e1:1700000060").bind fun (_, _, e) =>
          if t ≤ e * 10 ^ 9 ∧ e * 10 ^ 9 ≤ t + 48 * 3600 * 10 ^ 9 then
            secretLoop crypto "edge:e1:1700000060" "example.com" (h.secret :: h.oldSecrets)
          else none := by
  intro crypto h t
  exact ⟨by decide, restAuth_expiry_window crypto h _ _ (by decide) le_rfl (by decide)⟩

/-! ## Usernames read back -/

theorem int64_toInt_bounds (e : BitVec 64) : -2 ^ 63 ≤ e.toInt ∧ e.toInt < 2 ^ 63 := by
  have := e.isLt
  rw [BitVec.toInt_eq_toNat_cond]
  split <;> omega

/-- A username `pt:pid:e` parses back to `(pt, pid, e)` exactly when neither `pt`
nor `pid` contains a `:`; `SplitN` has no way to know which colon the issuer
wrote. -/
theorem parseRestUsername_turnUsername (pt pid : String) (e : BitVec 64) :
    parseRestUsername (turnUsername pt pid e.toInt) = some (pt, pid, e.toInt) ↔
      ':' ∉ pt.data ∧ ':' ∉ pid.data := by
  have hdata : (turnUsername pt pid e.toInt).data =
      pt.data ++ ':' :: (pid.data ++ ':' :: (toString e.toInt).data) := by
    simp [turnUsername]
  constructor
  · intro h
    obtain ⟨x, y, z, hs, -, rfl, rfl⟩ := parseRestUsername_eq_some.mp h
    exact (splitN_three_eq hs).2
  · rintro ⟨hpt, hpid⟩
    obtain ⟨h1, h2⟩ := int64_toInt_bounds e
    rw [parseRestUsername, hdata, splitN_three_of_colon_free hpt hpid]
    simp [parseInt_toString h1 h2]

/-- A username `pt:pid:e` with colon-free parts and an `int64` expiry parses back. -/
theorem parseRestUsername_turnUsername_of_bounds {pt pid : String} {e : Int}
    (hpt : ':' ∉ pt.data) (hpid : ':' ∉ pid.data) (h₁ : -2 ^ 63 ≤ e) (h₂ : e < 2 ^ 63) :
    parseRestUsername (turnUsername pt pid e) = some (pt, pid, e) := by
  have hdata : (turnUsername pt pid e).data =
      pt.data ++ ':' :: (pid.data ++ ':' :: (toString e).data) := by
    simp [turnUsername]
  rw [parseRestUsername, hdata, splitN_three_of_colon_free hpt hpid]
  simp [parseInt_toString h₁ h₂]

/-- Inside its window, `restAuth` accepts a username `pt:pid:e` with the key of a
non-empty current secret. -/
theorem restAuth_turnUsername {h : AuthHandler} (hs : h.secret ≠ "") {pt pid : String} {e : Int}
    (hpt : ':' ∉ pt.data) (hpid : ':' ∉ pid.data) (he₁ : -2 ^ 63 ≤ e) (he₂ : e < 2 ^ 63)
    (realm : String) {now₁ now₂ : Int} (h₀ : -2 ^ 63 ≤ now₁) (h₁₂ : now₁ ≤ now₂)
    (h₂ : now₂ < 2 ^ 63) (hw : now₁ ≤ e * 10 ^ 9 ∧ e * 10 ^ 9 ≤ now₂ + maxCredentialAhead) :
    restAuth crypto h (turnUsername pt pid e) realm now₁ now₂ =
      some (generateAuthKey crypto (turnUsername pt pid e) realm
        (restPassword crypto h.secret (turnUsername pt pid e))) := by
  rw [restAuth_eq, parseRestUsername_turnUsername_of_bounds hpt hpid he₁ he₂, Option.some_bind]
  simp [(expiryAccepted_iff he₁ he₂ h₀ h₁₂ h₂).mpr hw, hs]

end Arqut
