import Arqut.TurnAuth

/-!
# Issuing credentials, and how `runServer` wires issuer to validator

Three entry points hand out REST credentials: `POST /credentials`
(`handleGenerateCredentials`), `GET /ice-servers` (`handleGetICEServers`) and
the signaling `turn-request` (`handleTurnRequest`). All three end in
`generateTURNCredentials`, which `api.Server` and `signaling.Server` define with
the same body, signing with `turnCfg.Auth.Secret`.

`runServer` hands both servers a pointer to the `Turn` section of the
configuration it loaded at start-up, and builds the TURN server's
`AuthHandler` from the same section. A `SIGHUP` loads the file again into a
fresh configuration and passes only that one to `turnServer.UpdateSecrets`;
`POST /admin/secrets` validates its body and answers, but calls nothing. So
the issuers' secret is fixed at start-up while the validator's can move, which
is what `CredentialServer` records.
-/

namespace Arqut

variable (crypto : Crypto)

/-- The fields of `config.TurnConfig` that issuers and validator read. -/
structure TurnConfig where
  realm : String
  publicIP : String
  tlsPort : Int
  mode : String
  secret : String
  oldSecrets : List String
  ttlSeconds : Int
  staticUsers : String → Option String

/-- `generateTURNCredentials`: expiry `time.Now().Unix() + int64(ttl)` in `int64`,
the username, and its password under `secret`. -/
def generateTURNCredentials (secret peerType peerID : String) (ttl now : Int) :
    String × String × Int :=
  let expiry := wrapInt64 ((GoTime.now now).toUnix + ttl)
  let username := turnUsername peerType peerID expiry
  (username, restPassword crypto secret username, expiry)

/-- The body of `POST /credentials`. -/
structure CredentialsRequest where
  peerType : String
  peerID : String
  ttl : Int

/-- The data of a credential response; `expires` is the expiry in Unix seconds,
which the handlers format as RFC 3339. -/
structure CredentialsResponse where
  username : String
  password : String
  ttl : Int
  expires : Int

/-- The request checks of `handleGenerateCredentials`, with their 400 messages. -/
def credentialsRequestError (req : CredentialsRequest) : Option String :=
  if req.peerType = "" ∨ req.peerID = "" then some "peer_type and peer_id are required"
  else if req.peerType ≠ "edge" ∧ req.peerType ≠ "client" then
    some "peer_type must be 'edge' or 'client'"
  else none

/-- `handleGenerateCredentials`; a request ttl of `0` means the configured one. -/
def handleGenerateCredentials (cfg : TurnConfig) (req : CredentialsRequest) (now : Int) :
    Except String CredentialsResponse :=
  match credentialsRequestError req with
  | some msg => .error msg
  | none =>
    let ttl := if req.ttl = 0 then cfg.ttlSeconds else req.ttl
    let (username, password, expiry) :=
      generateTURNCredentials crypto cfg.secret req.peerType req.peerID ttl now
    .ok ⟨username, password, ttl, expiry⟩

/-- `POST /credentials` admits a peer id with a colon, and the username issued for
it no longer parses. -/
theorem credentials_colon_peer_id_unparsable :
    credentialsRequestError ⟨"edge", "a:b", 60⟩ = none ∧
      parseRestUsername (turnUsername "edge" "a:b" 1700000060) = none := by
  decide

/-! ## The issued expiry -/

/-- What `POST /credentials` answers to an accepted request: the effective ttl,
and the expiry `now + ttl` in Unix seconds, summed in `int64`. -/
theorem handleGenerateCredentials_ok (cfg : TurnConfig) (req : CredentialsRequest) (now : Int)
    (hreq : credentialsRequestError req = none) :
    ∃ r, handleGenerateCredentials crypto cfg req now = .ok r ∧
      r.ttl = (if req.ttl = 0 then cfg.ttlSeconds else req.ttl) ∧
      r.expires = wrapInt64 (now / 10 ^ 9 + r.ttl) := by
  simp only [handleGenerateCredentials, hreq, generateTURNCredentials, GoTime.now_toUnix]
  exact ⟨_, rfl, rfl, rfl⟩

/-- For `int64` inputs at a reading after the epoch, the expiry is in the future
exactly when the effective ttl is positive and `now + ttl` stays within `int64`:
the handler checks neither, so a negative ttl is issued already expired and a
huge one wraps into the past. -/
theorem issued_expiry_after_now_iff (cfg : TurnConfig) (req : CredentialsRequest) {now : Int}
    (hreq : credentialsRequestError req = none) (hnow : 0 ≤ now ∧ now < 2 ^ 63)
    (hreq_ttl : -2 ^ 63 ≤ req.ttl ∧ req.ttl < 2 ^ 63)
    (hcfg_ttl : -2 ^ 63 ≤ cfg.ttlSeconds ∧ cfg.ttlSeconds < 2 ^ 63) :
    ∃ r, handleGenerateCredentials crypto cfg req now = .ok r ∧
      (now / 10 ^ 9 < r.expires ↔ 0 < r.ttl ∧ now / 10 ^ 9 + r.ttl < 2 ^ 63) := by
  obtain ⟨r, hr, httl, hexp⟩ := handleGenerateCredentials_ok crypto cfg req now hreq
  have ht : -2 ^ 63 ≤ r.ttl ∧ r.ttl < 2 ^ 63 := by rw [httl]; split_ifs <;> assumption
  refine ⟨r, hr, ?_⟩
  rw [hexp]
  by_cases ho : now / 10 ^ 9 + r.ttl < 2 ^ 63
  · rw [wrapInt64_of_bounds (by omega) ho]; omega
  · rw [wrapInt64_of_overflow (by omega) (by omega)]; omega

/-- A request with ttl `-60`: accepted, and its expiry is not after the moment of
issuance. -/
theorem negative_ttl_issued_expired :
    let crypto : Crypto := ⟨fun _ _ => [], fun _ => "", fun _ => []⟩
    let cfg : TurnConfig := ⟨"arqut", "203.0.113.1", 0, "rest", "a", [], 86400, fun _ => none⟩
    let req : CredentialsRequest := ⟨"edge", "e1", -60⟩
    let now : Int := 1700000000000000000
    (credentialsRequestError req = none ∧ (0 ≤ now ∧ now < 2 ^ 63) ∧
      (-2 ^ 63 ≤ req.ttl ∧ req.ttl < 2 ^ 63) ∧
      (-2 ^ 63 ≤ cfg.ttlSeconds ∧ cfg.ttlSeconds < 2 ^ 63)) ∧
    ∃ r, handleGenerateCredentials crypto cfg req now = .ok r ∧
      (now / 10 ^ 9 < r.expires ↔ 0 < r.ttl ∧ now / 10 ^ 9 + r.ttl < 2 ^ 63) := by
  intro crypto cfg req now
  have h : credentialsRequestError req = none := by decide
  exact ⟨⟨h, by decide, by decide, by decide⟩,
    issued_expiry_after_now_iff crypto cfg req h (by decide) (by decide) (by decide)⟩

/-- One entry of an ICE-servers list. -/
structure IceServer where
  urls : List String
  username : Option String := none
  credential : Option String := none

/-- `handleGetICEServers` for the query `peer_type` (default `client`) and
`peer_id`: the servers and the expiry. -/
def handleGetICEServers (cfg : TurnConfig) (peerType peerID : String) (now : Int) :
    Except String (List IceServer × Int) :=
  if peerID = "" then .error "peer_id query parameter is required"
  else
    let (username, password, expiry) :=
      generateTURNCredentials crypto cfg.secret peerType peerID cfg.ttlSeconds now
    let servers : List IceServer :=
      [⟨["stun:" ++ cfg.publicIP ++ ":3478"], none, none⟩,
       ⟨["turn:" ++ cfg.publicIP ++ ":3478?transport=udp",
         "turn:" ++ cfg.publicIP ++ ":3478?transport=tcp"], some username, some password⟩]
    let turns : List IceServer :=
      if cfg.tlsPort > 0 then
        [⟨["turns:" ++ cfg.publicIP ++ ":" ++ toString cfg.tlsPort ++ "?transport=tcp"],
          some username, some password⟩]
      else []
    .ok (servers ++ turns, expiry)

/-- `handleTurnRequest` for the admitted peer `(peerType, peerID)`: the
credentials of its `turn-response`, with the configured ttl. -/
def handleTurnRequest (cfg : TurnConfig) (peerType peerID : String) (now : Int) :
    CredentialsResponse :=
  let (username, password, expiry) :=
    generateTURNCredentials crypto cfg.secret peerType peerID cfg.ttlSeconds now
  ⟨username, password, cfg.ttlSeconds, expiry⟩

/-- What `runServer` keeps for credentials: the configuration the issuers hold,
and the TURN server's validator. -/
structure CredentialServer where
  issuerCfg : TurnConfig
  auth : AuthHandler

/-- Start-up: issuers and validator read the same loaded configuration. -/
def CredentialServer.start (cfg : TurnConfig) : CredentialServer :=
  ⟨cfg, newAuthHandler cfg.mode cfg.secret cfg.oldSecrets cfg.ttlSeconds cfg.staticUsers⟩

/-- The events of a run of `runServer` that issue credentials or move secrets. -/
inductive CredentialEvent where
  /-- `POST /credentials` at clock reading `now`. -/
  | credentials (req : CredentialsRequest) (now : Int)
  /-- `GET /ice-servers`. -/
  | iceServers (peerType peerID : String) (now : Int)
  /-- A signaling `turn-request` from the admitted peer `(peerType, peerID)`. -/
  | turnRequest (peerType peerID : String) (now : Int)
  /-- `SIGHUP`, with the configuration the reload produced. -/
  | sighup (reloaded : TurnConfig)
  /-- `POST /admin/secrets`. -/
  | rotateSecrets (secret : String) (oldSecrets : List String)

/-- A credential handed out, with its ttl and the clock reading it was issued at. -/
structure Issued where
  username : String
  password : String
  ttl : Int
  issuedAt : Int

/-- One event: the new state and the credential it issued, if any. -/
def CredentialServer.step (s : CredentialServer) :
    CredentialEvent → CredentialServer × Option Issued
  | .credentials req now =>
    match handleGenerateCredentials crypto s.issuerCfg req now with
    | .ok r => (s, some ⟨r.username, r.password, r.ttl, now⟩)
    | .error _ => (s, none)
  | .iceServers pt pid now =>
    match handleGetICEServers crypto s.issuerCfg pt pid now with
    | .ok _ =>
      let (u, p, _) := generateTURNCredentials crypto s.issuerCfg.secret pt pid
        s.issuerCfg.ttlSeconds now
      (s, some ⟨u, p, s.issuerCfg.ttlSeconds, now⟩)
    | .error _ => (s, none)
  | .turnRequest pt pid now =>
    let r := handleTurnRequest crypto s.issuerCfg pt pid now
    (s, some ⟨r.username, r.password, r.ttl, now⟩)
  | .sighup cfg =>
    ({ s with auth := s.auth.updateSecrets cfg.secret cfg.oldSecrets cfg.ttlSeconds }, none)
  | .rotateSecrets _ _ => (s, none)

/-- A run: the final state and the credentials issued, in order. -/
def CredentialServer.run (s : CredentialServer) :
    List CredentialEvent → CredentialServer × List Issued
  | [] => (s, [])
  | e :: es =>
    let (s', c) := s.step crypto e
    let (s'', cs) := s'.run es
    (s'', c.toList ++ cs)

/-- The issuers never see a secret change: every step keeps the configuration
they hold. -/
theorem CredentialServer.run_issuerCfg (s : CredentialServer) (es : List CredentialEvent) :
    (s.run crypto es).1.issuerCfg = s.issuerCfg := by
  induction es generalizing s with
  | nil => rfl
  | cons e es ih =>
    simp only [run]
    rw [ih]
    cases e <;> simp only [step] <;> split <;> rfl

/-- A `SIGHUP` that rotates `a` to `b` (keeping `a` as grace secret), then
`POST /credentials`: the credential is signed with `a`, and the validator
answers with the key under `b`. -/
theorem sighup_issuer_validator_disagree (crypto : Crypto) (cfg : TurnConfig) :
    let s := CredentialServer.start { cfg with secret := "a" }
    let r := s.run crypto [.sighup { cfg with secret := "b", oldSecrets := ["a"] },
      .credentials ⟨"edge", "e1", 60⟩ 1700000000000000000]
    let u := turnUsername "edge" "e1" 1700000060
    r.2 = [⟨u, restPassword crypto "a" u, 60, 1700000000000000000⟩] ∧
    restAuth crypto r.1.auth u cfg.realm 1700000000000000000 1700000000000000000 =
      some (generateAuthKey crypto u cfg.realm (restPassword crypto "b" u)) := by
  have hp : parseRestUsername (turnUsername "edge" "e1" 1700000060) =
      some ("edge", "e1", 1700000060) := by decide
  have he : expiryAccepted 1700000060 1700000000000000000 1700000000000000000 = true := by
    decide
  refine ⟨rfl, ?_⟩
  rw [restAuth_eq, hp]
  simp only [Option.some_bind, he, if_true]
  rfl

end Arqut
