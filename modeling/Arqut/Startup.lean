import Arqut.Config
import Arqut.Issuance

/-!
# Start-up: from the loaded file to the issuers and the TURN server

`runServer` loads the configuration, refuses to start without an API key hash,
and hands the `turn:` section of what it loaded to the REST API, to the
signaling server and to `turn.New`. `turn.New` turns the list of static users
into the map its `AuthHandler` looks names up in, a later entry for a name
overwriting an earlier one (`staticUserMap`). `Config.TurnConfig.view` is that
hand-over: the part of the section that the issuers and the validator read.

Over every run of the credential events of `Issuance` from a server that
started:

* in `rest` mode, every credential any of the three issuers hands out is
  accepted by the TURN server for its whole lifetime, with the key of the
  password the issuer handed out, as long as every reload keeps the secret
  (`issued_credentials_validate`). Three premises are real: the peer type and id
  that the issuing event names must be free of `:` (the username would not split
  back), the ttl must be positive and at most the 48 hours the validator allows
  ahead, and `Load` must have run: it is `validate` that makes the secret
  non-empty, and an empty current secret would hand the check to the old secrets;
* in `static` mode the TURN server answers exactly the configured names, each
  with the key of the last password listed for it (`static_users_validate`).

`GET /ice-servers` writes port 3478 into its `stun:` and `turn:` URLs whatever
the configured ports are, and a `turns:` URL whenever the TLS port is positive,
while `turn.Server.Start` opens a TLS listener only with the TLS configuration
that `runServer` has only when ACME is enabled. `ice_servers_served_iff` says
when every advertised URL names an open listener; `Load` fills an unset TLS
port with 5349, so the default file without ACME is not such a case.
-/

namespace Arqut

/-- The loop of `turn.New` over `cfg.Auth.StaticUsers`:
`staticUsers[user.Username] = user.Password`. -/
def staticUserMap (users : List Config.StaticUser) : String → Option String :=
  users.foldl (fun m user u => if u = user.username then some user.password else m u)
    fun _ => none

/-- The `turn:` section as the issuers hold it and as `turn.New` builds its
`AuthHandler` from it. -/
def Config.TurnConfig.view (t : Config.TurnConfig) : Arqut.TurnConfig where
  realm := t.realm
  publicIP := t.publicIP
  tlsPort := t.ports.tls
  mode := t.auth.mode
  secret := t.auth.secret
  oldSecrets := t.auth.oldSecrets
  ttlSeconds := t.auth.ttlSeconds
  staticUsers := staticUserMap t.auth.staticUsers

/-- `runServer` up to its signal loop, on the credential side: `Load`, the API-key
check, then the issuers and the TURN server over the loaded `turn:` section. -/
def runServerStart (raw : Config) : Except String (Config × CredentialServer) :=
  match Config.load raw with
  | .error e => .error ("Failed to load config: " ++ e)
  | .ok cfg =>
    if cfg.api.apiKey.hash = [] then .error "No API key configured in config.yaml"
    else .ok (cfg, CredentialServer.start cfg.turn.view)

theorem runServerStart_eq_ok {raw cfg : Config} {s : CredentialServer}
    (h : runServerStart raw = .ok (cfg, s)) :
    Config.load raw = .ok cfg ∧ s = CredentialServer.start cfg.turn.view := by
  unfold runServerStart at h
  split at h
  · cases h
  · split at h
    · cases h
    · cases h; exact ⟨‹_›, rfl⟩

/-! ## The static users -/

/-- `turn.New`'s map answers a name with the password of its last entry. -/
theorem staticUserMap_eq (users : List Config.StaticUser) (u : String) :
    staticUserMap users u = (users.reverse.find? (·.username = u)).map (·.password) := by
  rw [staticUserMap, ← List.foldr_reverse]
  induction users.reverse with
  | nil => rfl
  | cons user rest ih =>
    by_cases h : u = user.username
    · simp [h]
    · simp [h, Ne.symm h, ← ih]

/-! ## What the issuers hand out -/

/-- The peer type and id an issuing event writes into a username have no `:`.
`POST /credentials` checks its peer type against `edge` and `client` itself. -/
def CredentialEvent.ColonFree : CredentialEvent → Prop
  | .credentials req _ => ':' ∉ req.peerID.data
  | .iceServers pt pid _ => ':' ∉ pt.data ∧ ':' ∉ pid.data
  | .turnRequest pt pid _ => ':' ∉ pt.data ∧ ':' ∉ pid.data
  | .sighup _ => True
  | .rotateSecrets _ _ => True

/-- An issued credential signed with `secret`: the username `pt:pid:expiry` with
colon-free parts and the expiry `issuedAt + ttl` in Unix seconds, summed in
`int64`, and the password `restPassword secret username`. -/
def Issued.SignedWith (crypto : Crypto) (secret : String) (i : Issued) : Prop :=
  ∃ pt pid, ':' ∉ pt.data ∧ ':' ∉ pid.data ∧
    i.username = turnUsername pt pid (wrapInt64 (i.issuedAt / 10 ^ 9 + i.ttl)) ∧
    i.password = restPassword crypto secret i.username

theorem handleGenerateCredentials_eq_ok (crypto : Crypto) {cfg : TurnConfig}
    {req : CredentialsRequest} {now : Int} {r : CredentialsResponse}
    (h : handleGenerateCredentials crypto cfg req now = .ok r) :
    (req.peerType = "edge" ∨ req.peerType = "client") ∧
      r.username = turnUsername req.peerType req.peerID (wrapInt64 (now / 10 ^ 9 + r.ttl)) ∧
      r.password = restPassword crypto cfg.secret r.username := by
  unfold handleGenerateCredentials at h
  split at h
  · cases h
  · rename_i hreq
    cases h
    refine ⟨?_, by simp [generateTURNCredentials], rfl⟩
    unfold credentialsRequestError at hreq
    split_ifs at hreq with h₁ h₂
    by_contra h
    exact h₂ ⟨fun h' => h (.inl h'), fun h' => h (.inr h')⟩

/-! ## What a step does -/

namespace CredentialServer

variable (crypto : Crypto)

/-- A step changes the state only on `SIGHUP`, and then only the validator's
secrets. -/
theorem step_fst (s : CredentialServer) (e : CredentialEvent) :
    (s.step crypto e).1 = match e with
      | .sighup c => { s with auth := s.auth.updateSecrets c.secret c.oldSecrets c.ttlSeconds }
      | _ => s := by
  cases e <;> simp only [step] <;> (try split) <;> rfl

/-- A state property every event of the run keeps, and a property of the
credentials every step from such a state issues: the run ends in such a state
and issues only such credentials. -/
theorem run_inv {P : CredentialServer → Prop} {Q : Issued → Prop} {es : List CredentialEvent}
    (hstep : ∀ s, ∀ e ∈ es, P s → P (s.step crypto e).1 ∧ ∀ i ∈ (s.step crypto e).2, Q i)
    {s : CredentialServer} (hs : P s) :
    P (s.run crypto es).1 ∧ ∀ i ∈ (s.run crypto es).2, Q i := by
  induction es generalizing s with
  | nil => exact ⟨hs, fun _ h => nomatch h⟩
  | cons e es ih =>
    obtain ⟨hP, hQ⟩ := hstep s e (.head _) hs
    obtain ⟨hP', hQ'⟩ := ih (fun s e he => hstep s e (.tail _ he)) hP
    refine ⟨hP', fun i hi => ?_⟩
    rcases List.mem_append.mp hi with h | h
    · exact hQ i (by simpa using h)
    · exact hQ' i h

/-- Every credential a step issues from a colon-free event is signed with the
issuers' secret. -/
theorem step_issued (s : CredentialServer) {e : CredentialEvent} (he : e.ColonFree)
    {i : Issued} (hi : i ∈ (s.step crypto e).2) : i.SignedWith crypto s.issuerCfg.secret := by
  cases e with
  | credentials req now =>
    simp only [step] at hi
    split at hi
    · rename_i r hr
      obtain ⟨hpt, hu, hp⟩ := handleGenerateCredentials_eq_ok crypto hr
      simp only [Option.mem_def, Option.some.injEq] at hi
      subst hi
      exact ⟨req.peerType, req.peerID, by rcases hpt with h | h <;> rw [h] <;> decide, he, hu, hp⟩
    · cases hi
  | iceServers pt pid now =>
    simp only [step] at hi
    split at hi
    · simp only [generateTURNCredentials, GoTime.now_toUnix, Option.mem_def,
        Option.some.injEq] at hi
      subst hi
      exact ⟨pt, pid, he.1, he.2, rfl, rfl⟩
    · cases hi
  | turnRequest pt pid now =>
    simp only [step, handleTurnRequest, generateTURNCredentials, GoTime.now_toUnix,
      Option.mem_def, Option.some.injEq] at hi
    subst hi
    exact ⟨pt, pid, he.1, he.2, rfl, rfl⟩
  | sighup _ => cases hi
  | rotateSecrets _ _ => cases hi

/-- Reloads that keep the secret keep the validator in `rest` mode on it. -/
theorem run_keeps_secret {secret : String} {es : List CredentialEvent}
    (hkeep : ∀ c, CredentialEvent.sighup c ∈ es → c.secret = secret) {s : CredentialServer}
    (hs : s.auth.mode = "rest" ∧ s.auth.secret = secret) :
    (s.run crypto es).1.auth.mode = "rest" ∧ (s.run crypto es).1.auth.secret = secret :=
  (run_inv crypto (P := fun s => s.auth.mode = "rest" ∧ s.auth.secret = secret)
    (Q := fun _ => True) (fun s e he hs => ⟨by
      rw [step_fst]
      cases e with
      | sighup c => exact ⟨hs.1, hkeep c he⟩
      | _ => exact hs, fun _ _ => trivial⟩) hs).1

theorem run_fst_append (s : CredentialServer) (es₁ es₂ : List CredentialEvent) :
    (s.run crypto (es₁ ++ es₂)).1 = ((s.run crypto es₁).1.run crypto es₂).1 := by
  induction es₁ generalizing s with
  | nil => rfl
  | cons e es ih => exact ih _

end CredentialServer

/-! ## The running TURN server accepts what was issued -/

/-- In `rest` mode, over every run in which every reload keeps the secret, every
credential an issuer hands out for a colon-free peer, with a positive ttl of at most
48 hours, is accepted by the TURN server at every pair of readings from its issue to
its expiry, with the key of the password handed out. The run is split at the event
that issued the credential; the other events may name any peers. -/
theorem issued_credentials_validate (crypto : Crypto) {raw cfg : Config}
    {s : CredentialServer} (hstart : runServerStart raw = .ok (cfg, s))
    (hrest : cfg.turn.auth.mode = "rest") {es₁ es₂ : List CredentialEvent} {e : CredentialEvent}
    (hkeep : ∀ c, CredentialEvent.sighup c ∈ es₁ ++ e :: es₂ → c.secret = cfg.turn.auth.secret)
    (hcolon : e.ColonFree) {i : Issued} (hi : i ∈ ((s.run crypto es₁).1.step crypto e).2)
    (httl : 0 < i.ttl ∧ i.ttl ≤ 48 * 3600)
    {t₁ t₂ : Int} (h₀ : 0 ≤ i.issuedAt) (h₁ : i.issuedAt ≤ t₁) (h₁₂ : t₁ ≤ t₂)
    (h₂ : t₂ < 2 ^ 63) (hlive : t₁ ≤ (i.issuedAt / 10 ^ 9 + i.ttl) * 10 ^ 9) :
    authenticateRequest crypto (s.run crypto (es₁ ++ e :: es₂)).1.auth i.username
        cfg.turn.realm t₁ t₂ =
      some (generateAuthKey crypto i.username cfg.turn.realm i.password) := by
  obtain ⟨hload, rfl⟩ := runServerStart_eq_ok hstart
  have hsecret : cfg.turn.auth.secret ≠ "" := by
    obtain ⟨rfl, hv⟩ := Config.load_eq_ok.mp hload
    rcases hv.auth with ⟨-, h⟩ | ⟨h, -⟩
    · exact h
    · exact absurd (hrest ▸ h) (by decide)
  obtain ⟨hm₁, ha₁⟩ := CredentialServer.run_keeps_secret crypto
    (fun c hc => hkeep c (List.mem_append_left _ hc)) (s := CredentialServer.start cfg.turn.view)
    ⟨hrest, rfl⟩
  obtain ⟨hmode, hsec⟩ := @CredentialServer.run_keeps_secret crypto _ (e :: es₂)
    (fun c hc => hkeep c (List.mem_append_right _ hc)) _ ⟨hm₁, ha₁⟩
  have hsigned : i.SignedWith crypto cfg.turn.auth.secret := by
    have := CredentialServer.step_issued crypto _ hcolon hi
    rwa [CredentialServer.run_issuerCfg] at this
  obtain ⟨pt, pid, hpt, hpid, hu, hp⟩ := hsigned
  have he : wrapInt64 (i.issuedAt / 10 ^ 9 + i.ttl) = i.issuedAt / 10 ^ 9 + i.ttl :=
    wrapInt64_of_bounds (by omega) (by omega)
  rw [he] at hu
  rw [CredentialServer.run_fst_append, authenticateRequest, hmode, hp, hu, ← hsec]
  exact restAuth_turnUsername crypto (hsec ▸ hsecret) hpt hpid (by omega) (by omega) _
    (by omega) h₁₂ h₂ ⟨hlive, by simp only [maxCredentialAhead]; omega⟩

/-- A `rest` file with a hash and an admin token, one `POST /credentials` with ttl
60 at second `1700000000`, checked at that instant. -/
theorem credential_validates_at_issue :
    let crypto : Crypto := ⟨fun _ _ => [], fun _ => "", fun _ => []⟩
    let raw : Config :=
      { domain := "turn.example.com", turn.auth := { mode := "rest", secret := "s" },
        api.apiKey.hash := [1], admin.token := "t" }
    let cfg := Config.applyDefaults raw
    let s := CredentialServer.start cfg.turn.view
    let e := CredentialEvent.credentials ⟨"edge", "e1", 60⟩ 1700000000000000000
    let u := turnUsername "edge" "e1" 1700000060
    let i : Issued := ⟨u, restPassword crypto "s" u, 60, 1700000000000000000⟩
    let t : Int := 1700000000000000000
    (runServerStart raw = .ok (cfg, s) ∧ cfg.turn.auth.mode = "rest" ∧
      (∀ c, CredentialEvent.sighup c ∈ [] ++ e :: [] → c.secret = cfg.turn.auth.secret) ∧
      e.ColonFree ∧ i ∈ ((s.run crypto []).1.step crypto e).2 ∧
      (0 < i.ttl ∧ i.ttl ≤ 48 * 3600) ∧ 0 ≤ i.issuedAt ∧
      i.issuedAt ≤ t ∧ t ≤ t ∧ t < 2 ^ 63 ∧ t ≤ (i.issuedAt / 10 ^ 9 + i.ttl) * 10 ^ 9) ∧
    authenticateRequest crypto (s.run crypto ([] ++ e :: [])).1.auth i.username cfg.turn.realm t t =
      some (generateAuthKey crypto i.username cfg.turn.realm i.password) := by
  intro crypto raw cfg s e u i t
  have hstart : runServerStart raw = .ok (cfg, s) := rfl
  have hcolon : e.ColonFree := show ':' ∉ "e1".data by decide
  have hkeep : ∀ c, CredentialEvent.sighup c ∈ [] ++ e :: [] → c.secret = cfg.turn.auth.secret := by
    simp [e]
  have hi : i ∈ ((s.run crypto []).1.step crypto e).2 := rfl
  exact ⟨⟨hstart, rfl, hkeep, hcolon, hi, by decide, by decide, le_rfl, le_rfl, by decide,
      by decide⟩,
    issued_credentials_validate crypto hstart rfl hkeep hcolon hi (by decide) (by decide) le_rfl
      le_rfl (by decide) (by decide)⟩

/-- In `static` mode, over every run, the TURN server answers exactly the names
of the configured static users, each with the key of the last password listed
for it; reloads and issuing change neither. -/
theorem static_users_validate (crypto : Crypto) {raw cfg : Config} {s : CredentialServer}
    (hstart : runServerStart raw = .ok (cfg, s)) (hstatic : cfg.turn.auth.mode = "static")
    (es : List CredentialEvent) (u realm : String) (t₁ t₂ : Int) :
    authenticateRequest crypto (s.run crypto es).1.auth u realm t₁ t₂ =
      (cfg.turn.auth.staticUsers.reverse.find? (·.username = u)).map
        fun user => generateAuthKey crypto u realm user.password := by
  obtain ⟨-, rfl⟩ := runServerStart_eq_ok hstart
  obtain ⟨⟨hmode, husers⟩, -⟩ := CredentialServer.run_inv crypto
    (P := fun s => s.auth.mode = "static" ∧ s.auth.staticUsers = staticUserMap cfg.turn.auth.staticUsers)
    (Q := fun _ => True)
    (fun s e _ hs => ⟨by rw [CredentialServer.step_fst]; cases e <;> exact hs, fun _ _ => trivial⟩)
    (s := CredentialServer.start cfg.turn.view) ⟨hstatic, rfl⟩
  rw [authenticateRequest, hmode]
  simp [staticAuth, husers, staticUserMap_eq, Option.map_map, Function.comp_def]

/-- Two entries for `alice`: the TURN server answers with the key of the second. -/
theorem static_user_last_entry_wins :
    let crypto : Crypto := ⟨fun _ _ => [], fun _ => "", fun s => s.data.map Char.toUInt8⟩
    let raw : Config :=
      { domain := "turn.example.com",
        turn.auth := { mode := "static", staticUsers := [⟨"alice", "one"⟩, ⟨"alice", "two"⟩] },
        api.apiKey.hash := [1], admin.token := "t" }
    let cfg := Config.applyDefaults raw
    let s := CredentialServer.start cfg.turn.view
    (runServerStart raw = .ok (cfg, s) ∧ cfg.turn.auth.mode = "static") ∧
    authenticateRequest crypto (s.run crypto []).1.auth "alice" "r" 0 0 =
      (cfg.turn.auth.staticUsers.reverse.find? (·.username = "alice")).map
        fun user => generateAuthKey crypto "alice" "r" user.password := by
  intro crypto raw cfg s
  have hstart : runServerStart raw = .ok (cfg, s) := rfl
  exact ⟨⟨hstart, rfl⟩, static_users_validate crypto hstart rfl [] "alice" "r" 0 0⟩

/-! ## What `GET /ice-servers` advertises and what the TURN server opens -/

/-- The transports of the TURN server's listeners. -/
inductive Transport where
  | udp
  | tcp
  | tls
  deriving DecidableEq, Repr

/-- `turn.Server.Start`, when it returns `nil`: the IPv4 listeners it opens on
`PublicIP`, given whether `runServer` handed it a TLS configuration, which it
does exactly when ACME is enabled. The IPv6 listeners it then tries are on the
same ports, and the relay address generator does not change what is listened
on. -/
def turnListeners (t : Config.TurnConfig) (tlsConfig : Bool) : List (Transport × Int) :=
  (if t.ports.udp > 0 then [(.udp, t.ports.udp)] else []) ++
    (if t.ports.tcp > 0 then [(.tcp, t.ports.tcp)] else []) ++
    (if t.ports.tls > 0 ∧ tlsConfig = true then [(.tls, t.ports.tls)] else [])

/-- The ICE-server URLs that name a listener on `ip`: `stun:` and `turn:` over UDP
name a UDP port, `turn:` over TCP a TCP port, `turns:` a TLS port. -/
def listenerURLs (ip : String) : Transport × Int → List String
  | (.udp, p) =>
    ["stun:" ++ ip ++ ":" ++ toString p, "turn:" ++ ip ++ ":" ++ toString p ++ "?transport=udp"]
  | (.tcp, p) => ["turn:" ++ ip ++ ":" ++ toString p ++ "?transport=tcp"]
  | (.tls, p) => ["turns:" ++ ip ++ ":" ++ toString p ++ "?transport=tcp"]

section Urls

/-! Two URLs of `listenerURLs` are equal only when they are the same URL of
the same listener: the schemes differ in their first five characters, the
transports in their last three, and the port's text determines the port. -/

theorem append_left_cancel_iff {s a b : String} : s ++ a = s ++ b ↔ a = b := by
  simp only [String.ext_iff, String.data_append, List.append_cancel_left_eq]

theorem append_right_cancel_iff {s a b : String} : a ++ s = b ++ s ↔ a = b := by
  simp only [String.ext_iff, String.data_append, List.append_cancel_right_eq]

theorem toString_int_inj {a b : Int} : toString a = toString b ↔ a = b := by
  rw [String.ext_iff, toString_int_data_inj]

theorem stun_ne_turn (a b : String) : "stun:" ++ a ≠ "turn:" ++ b := fun h => by
  simpa using congrArg (fun s => s.data.head?) h

theorem stun_ne_turns (a b : String) : "stun:" ++ a ≠ "turns:" ++ b := fun h => by
  simpa using congrArg (fun s => s.data.head?) h

theorem turn_ne_turns (a b : String) : "turn:" ++ a ≠ "turns:" ++ b := fun h => by
  simpa using congrArg (fun s => s.data.take 5) h

theorem udp_ne_tcp (a b : String) : a ++ "?transport=udp" ≠ b ++ "?transport=tcp" := fun h => by
  simpa using congrArg (fun s => s.data.reverse.take 3) h

variable (ip : String) (p : Int) (l : Transport × Int)

theorem stun_mem_listenerURLs :
    "stun:" ++ ip ++ ":" ++ toString p ∈ listenerURLs ip l ↔ l = (.udp, p) := by
  rcases l with ⟨_ | _ | _, q⟩ <;>
    simp only [listenerURLs, List.mem_cons, List.mem_singleton, List.not_mem_nil, or_false,
      String.append_assoc, append_left_cancel_iff, toString_int_inj, Prod.mk.injEq, reduceCtorEq,
      stun_ne_turn, stun_ne_turns, true_and, false_and, eq_comm, false_or]

theorem turn_udp_mem_listenerURLs :
    "turn:" ++ ip ++ ":" ++ toString p ++ "?transport=udp" ∈ listenerURLs ip l ↔ l = (.udp, p) := by
  rcases l with ⟨_ | _ | _, q⟩ <;>
    simp only [listenerURLs, List.mem_cons, List.mem_singleton, List.not_mem_nil, or_false,
      String.append_assoc, append_left_cancel_iff, append_right_cancel_iff, toString_int_inj,
      Prod.mk.injEq, reduceCtorEq, stun_ne_turn, (stun_ne_turn _ _).symm, turn_ne_turns, udp_ne_tcp,
      (udp_ne_tcp _ _).symm, true_and, false_and, eq_comm, false_or]

theorem turn_tcp_mem_listenerURLs :
    "turn:" ++ ip ++ ":" ++ toString p ++ "?transport=tcp" ∈ listenerURLs ip l ↔ l = (.tcp, p) := by
  rcases l with ⟨_ | _ | _, q⟩ <;>
    simp only [listenerURLs, List.mem_cons, List.mem_singleton, List.not_mem_nil, or_false,
      String.append_assoc, append_left_cancel_iff, append_right_cancel_iff, toString_int_inj,
      Prod.mk.injEq, reduceCtorEq, stun_ne_turn, (stun_ne_turn _ _).symm, turn_ne_turns, udp_ne_tcp,
      (udp_ne_tcp _ _).symm, true_and, false_and, eq_comm, false_or]

theorem turns_mem_listenerURLs :
    "turns:" ++ ip ++ ":" ++ toString p ++ "?transport=tcp" ∈ listenerURLs ip l ↔ l = (.tls, p) := by
  rcases l with ⟨_ | _ | _, q⟩ <;>
    simp only [listenerURLs, List.mem_cons, List.mem_singleton, List.not_mem_nil, or_false,
      String.append_assoc, append_left_cancel_iff, append_right_cancel_iff, toString_int_inj,
      Prod.mk.injEq, reduceCtorEq, stun_ne_turns, (stun_ne_turns _ _).symm, turn_ne_turns, (turn_ne_turns _ _).symm,
      true_and, false_and, eq_comm]

end Urls

section Listeners

variable (t : Config.TurnConfig) (tlsConfig : Bool) (p : Int)

theorem udp_mem_turnListeners :
    (Transport.udp, p) ∈ turnListeners t tlsConfig ↔ 0 < t.ports.udp ∧ p = t.ports.udp := by
  simp only [turnListeners, List.mem_append, List.mem_ite_nil_right, List.mem_singleton,
    Prod.mk.injEq, reduceCtorEq, false_and, and_false, or_false, true_and, gt_iff_lt]

theorem tcp_mem_turnListeners :
    (Transport.tcp, p) ∈ turnListeners t tlsConfig ↔ 0 < t.ports.tcp ∧ p = t.ports.tcp := by
  simp only [turnListeners, List.mem_append, List.mem_ite_nil_right, List.mem_singleton,
    Prod.mk.injEq, reduceCtorEq, false_and, and_false, or_false, false_or, true_and, gt_iff_lt]

theorem tls_mem_turnListeners :
    (Transport.tls, p) ∈ turnListeners t tlsConfig ↔
      0 < t.ports.tls ∧ tlsConfig = true ∧ p = t.ports.tls := by
  simp only [turnListeners, List.mem_append, List.mem_ite_nil_right, List.mem_singleton,
    Prod.mk.injEq, reduceCtorEq, false_and, and_false, false_or, true_and, gt_iff_lt, and_assoc]

end Listeners

/-- A URL that names exactly the listener `l₀` is served exactly when `l₀` is
open. -/
theorem served_iff {ip url : String} {l₀ : Transport × Int}
    (h : ∀ l, url ∈ listenerURLs ip l ↔ l = l₀) (ls : List (Transport × Int)) :
    (∃ l ∈ ls, url ∈ listenerURLs ip l) ↔ l₀ ∈ ls := by
  simp only [h, exists_eq_right]

/-- The URLs of `GET /ice-servers`: STUN and TURN on port 3478 whatever ports
are configured, and `turns:` on the TLS port when it is positive. -/
theorem handleGetICEServers_urls (crypto : Crypto) {cfg : TurnConfig} {pt pid : String}
    {now : Int} {servers : List IceServer} {expiry : Int}
    (h : handleGetICEServers crypto cfg pt pid now = .ok (servers, expiry)) :
    servers.flatMap (·.urls) =
      ["stun:" ++ cfg.publicIP ++ ":" ++ toString (3478 : Int),
        "turn:" ++ cfg.publicIP ++ ":" ++ toString (3478 : Int) ++ "?transport=udp",
        "turn:" ++ cfg.publicIP ++ ":" ++ toString (3478 : Int) ++ "?transport=tcp"] ++
      (if cfg.tlsPort > 0 then
        ["turns:" ++ cfg.publicIP ++ ":" ++ toString cfg.tlsPort ++ "?transport=tcp"] else []) := by
  unfold handleGetICEServers at h
  split at h
  · cases h
  · simp only [generateTURNCredentials, Except.ok.injEq, Prod.mk.injEq] at h
    obtain ⟨rfl, -⟩ := h
    have e : ∀ x : String, x ++ ":" ++ toString (3478 : Int) = x ++ ":3478" := fun x => by
      rw [String.append_assoc]; rfl
    split_ifs <;> simp [e, String.append_assoc]

/-- For every configuration `runServer` starts with, every URL `GET /ice-servers`
hands out is served by a listener the TURN server opened exactly when the UDP
and TCP ports are the 3478 the handler writes, and a positive TLS port comes with
ACME. `Load` sets an unset TLS port to 5349, so a file that enables no ACME and
leaves the TLS port unset gets a `turns:` URL nothing listens on. -/
theorem ice_servers_served_iff (crypto : Crypto) {raw cfg : Config} {s : CredentialServer}
    (hstart : runServerStart raw = .ok (cfg, s)) {pt pid : String} {now : Int}
    {servers : List IceServer} {expiry : Int}
    (h : handleGetICEServers crypto s.issuerCfg pt pid now = .ok (servers, expiry)) :
    (∀ srv ∈ servers, ∀ url ∈ srv.urls,
        ∃ l ∈ turnListeners cfg.turn cfg.acme.enabled, url ∈ listenerURLs cfg.turn.publicIP l) ↔
      cfg.turn.ports.udp = 3478 ∧ cfg.turn.ports.tcp = 3478 ∧
        (0 < cfg.turn.ports.tls → cfg.acme.enabled = true) := by
  obtain ⟨-, rfl⟩ := runServerStart_eq_ok hstart
  have hurls := handleGetICEServers_urls crypto h
  simp only [CredentialServer.start, Config.TurnConfig.view] at hurls
  have hall : (∀ srv ∈ servers, ∀ url ∈ srv.urls,
      ∃ l ∈ turnListeners cfg.turn cfg.acme.enabled, url ∈ listenerURLs cfg.turn.publicIP l) ↔
      ∀ url ∈ servers.flatMap (·.urls),
        ∃ l ∈ turnListeners cfg.turn cfg.acme.enabled, url ∈ listenerURLs cfg.turn.publicIP l := by
    simp only [List.mem_flatMap]
    exact ⟨fun H url ⟨srv, hs, hu⟩ => H srv hs url hu, fun H srv hs url hu => H url ⟨srv, hs, hu⟩⟩
  rw [hall, hurls]
  have hport : ∀ u : Int, (0 < u ∧ 3478 = u) ↔ u = 3478 := fun u => by omega
  by_cases htls : 0 < cfg.turn.ports.tls <;>
    simp only [gt_iff_lt, htls, if_true, if_false, List.forall_mem_append, List.forall_mem_cons,
      List.not_mem_nil, false_implies, implies_true, and_true, and_self_left,
      served_iff (stun_mem_listenerURLs _ _), served_iff (turn_udp_mem_listenerURLs _ _),
      served_iff (turn_tcp_mem_listenerURLs _ _), served_iff (turns_mem_listenerURLs _ _),
      udp_mem_turnListeners, tcp_mem_turnListeners, tls_mem_turnListeners, hport, true_and,
      true_implies, and_assoc]

/-- A `rest` file that enables no ACME and leaves the TLS port unset: `Load`
gives it port 5349, so its `turns:` URL names no listener. -/
theorem default_tls_port_advertised :
    let crypto : Crypto := ⟨fun _ _ => [], fun _ => "", fun _ => []⟩
    let raw : Config :=
      { domain := "turn.example.com", turn.auth := { mode := "rest", secret := "s" },
        api.apiKey.hash := [1], admin.token := "t" }
    let cfg := Config.applyDefaults raw
    let s := CredentialServer.start cfg.turn.view
    ∃ servers expiry, (runServerStart raw = .ok (cfg, s) ∧
      handleGetICEServers crypto s.issuerCfg "edge" "e1" 0 = .ok (servers, expiry)) ∧
      cfg.turn.ports.tls = 5349 ∧ cfg.acme.enabled = false ∧
      ((∀ srv ∈ servers, ∀ url ∈ srv.urls,
        ∃ l ∈ turnListeners cfg.turn cfg.acme.enabled, url ∈ listenerURLs cfg.turn.publicIP l) ↔
      cfg.turn.ports.udp = 3478 ∧ cfg.turn.ports.tcp = 3478 ∧
        (0 < cfg.turn.ports.tls → cfg.acme.enabled = true)) := by
  intro crypto raw cfg s
  exact ⟨_, _, ⟨rfl, rfl⟩, rfl, rfl, @ice_servers_served_iff crypto raw cfg s rfl "edge" "e1" 0 _ _ rfl⟩

end Arqut
