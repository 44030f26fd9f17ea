import Arqut.Service

/-!
# The configuration file

`config.Load`: the YAML file is decoded into `config.Config`, `applyDefaults`
fills the optional fields the file leaves unset, and `validate` checks the
required ones. Reading and decoding the file are koanf's: the model starts from
the struct they produce (`raw`), in which a key absent from the file holds Go's
zero value; a read or decode error returns before anything modelled here runs.

Every default is the one pattern `if x == zero { x = d }`, which is
`orDefault`: the zero of a field's type is its Lean `default` (`""`, `0`). The
ACME defaults apply only when ACME is enabled, and the realm defaults to the
domain.

`load_accepts_iff` says which files `Load` accepts, in terms of the file: the
defaults run before the checks, so an unset ACME challenge passes as `http-01`.
`loaded_fixed_point` says what every configuration `Load` returns satisfies, the
start-up code and the `SIGHUP` reload rely on it (`Startup`).
-/

namespace Arqut

namespace Config

/-- `config.ACMEConfig`, without `DNSConfig`, which only the ACME manager reads. -/
structure ACMEConfig where
  enabled : Bool := false
  caURL : String := ""
  challenge : String := ""
  http01Listen : String := ""
  tlsALPN01Listen : String := ""
  dnsProvider : String := ""
  dnsTimeout : String := ""
  dnsPropagationTimeout : String := ""
  deriving DecidableEq, Repr

/-- `config.TurnPorts`. -/
structure TurnPorts where
  udp : Int := 0
  tcp : Int := 0
  tls : Int := 0
  deriving DecidableEq, Repr

/-- `config.PortRange`. -/
structure PortRange where
  min : Int := 0
  max : Int := 0
  deriving DecidableEq, Repr

/-- `config.StaticUser`. -/
structure StaticUser where
  username : String
  password : String
  deriving DecidableEq, Repr

/-- `config.AuthConfig`. -/
structure AuthConfig where
  mode : String := ""
  secret : String := ""
  oldSecrets : List String := []
  ttlSeconds : Int := 0
  staticUsers : List StaticUser := []
  deriving DecidableEq, Repr

/-- `config.TurnConfig`, the `turn:` section; `TurnConfig` in `Arqut` is the part
of it that the issuers and the TURN server's validator read. -/
structure TurnConfig where
  realm : String := ""
  publicIP : String := ""
  ports : TurnPorts := {}
  relayPortRange : PortRange := {}
  auth : AuthConfig := {}
  deriving DecidableEq, Repr

/-- `config.SignalingPorts`. -/
structure SignalingPorts where
  ws : Int := 0
  wss : Int := 0
  deriving DecidableEq, Repr

/-- `config.SignalingConfig`; `sessionTimeout` is a `time.Duration`, in
nanoseconds. -/
structure SignalingConfig where
  ports : SignalingPorts := {}
  maxPeersPerRoom : Int := 0
  sessionTimeout : Int := 0
  deriving DecidableEq, Repr

/-- `config.APIKeyConfig`. The hash is kept as the bytes `apikey` reads. -/
structure APIKeyConfig where
  hash : List UInt8 := []
  createdAt : String := ""
  deriving DecidableEq, Repr

/-- `config.APIConfig`, without `CORSOrigins`, which only the HTTP server's CORS
middleware reads. -/
structure APIConfig where
  port : Int := 0
  apiKey : APIKeyConfig := {}
  deriving DecidableEq, Repr

/-- `config.AdminConfig`. -/
structure AdminConfig where
  port : Int := 0
  token : String := ""
  bind : String := ""
  deriving DecidableEq, Repr

/-- `config.LoggingConfig`. -/
structure LoggingConfig where
  level : String := ""
  format : String := ""
  deriving DecidableEq, Repr

end Config

/-- `config.Config`. -/
structure Config where
  domain : String := ""
  email : String := ""
  certDir : String := ""
  acme : Config.ACMEConfig := {}
  turn : Config.TurnConfig := {}
  signaling : Config.SignalingConfig := {}
  api : Config.APIConfig := {}
  admin : Config.AdminConfig := {}
  logging : Config.LoggingConfig := {}
  deriving DecidableEq, Repr

namespace Config

/-- The pattern of `applyDefaults`: `if x == zero { x = d }`. -/
def orDefault {α : Type} [DecidableEq α] [Inhabited α] (x d : α) : α :=
  if x = default then d else x

/-- The ACME block of `applyDefaults`, run when ACME is enabled. -/
def ACMEConfig.applyDefaults (c : ACMEConfig) : ACMEConfig :=
  { c with
    caURL := orDefault c.caURL "https://acme-v02.api.letsencrypt.org/directory"
    challenge := orDefault c.challenge "http-01"
    http01Listen := orDefault c.http01Listen ":80"
    tlsALPN01Listen := orDefault c.tlsALPN01Listen ":443"
    dnsTimeout := orDefault c.dnsTimeout "60s"
    dnsPropagationTimeout := orDefault c.dnsPropagationTimeout "300s" }

/-- `applyDefaults`. -/
def applyDefaults (cfg : Config) : Config :=
  { cfg with
    certDir := orDefault cfg.certDir "./certs"
    acme := if cfg.acme.enabled then cfg.acme.applyDefaults else cfg.acme
    turn :=
      { cfg.turn with
        realm := orDefault cfg.turn.realm cfg.domain
        ports := ⟨orDefault cfg.turn.ports.udp 3478, orDefault cfg.turn.ports.tcp 3478,
          orDefault cfg.turn.ports.tls 5349⟩
        relayPortRange := ⟨orDefault cfg.turn.relayPortRange.min 49152,
          orDefault cfg.turn.relayPortRange.max 65535⟩
        auth := { cfg.turn.auth with ttlSeconds := orDefault cfg.turn.auth.ttlSeconds 86400 } }
    signaling :=
      ⟨⟨orDefault cfg.signaling.ports.ws 8080, orDefault cfg.signaling.ports.wss 8443⟩,
        orDefault cfg.signaling.maxPeersPerRoom 10,
        orDefault cfg.signaling.sessionTimeout (300 * 1000000000)⟩
    api := { cfg.api with port := orDefault cfg.api.port 9000 }
    admin :=
      { cfg.admin with
        port := orDefault cfg.admin.port 9001
        bind := orDefault cfg.admin.bind "127.0.0.1" }
    logging := ⟨orDefault cfg.logging.level "info", orDefault cfg.logging.format "text"⟩ }

/-- `validate`: the message of the first check that fails, `none` for `nil`.
The three ACME checks sit inside `if cfg.ACME.Enabled` in the source. -/
def validate (cfg : Config) : Option String :=
  if cfg.domain = "" then some "domain is required"
  else if cfg.acme.enabled ∧ cfg.email = "" then some "email is required when ACME is enabled"
  else if cfg.acme.enabled ∧ cfg.acme.challenge ≠ "http-01" ∧
      cfg.acme.challenge ≠ "tls-alpn-01" ∧ cfg.acme.challenge ≠ "dns-01" then
    some ("invalid ACME challenge type: " ++ cfg.acme.challenge)
  else if cfg.acme.enabled ∧ cfg.acme.challenge = "dns-01" ∧ cfg.acme.dnsProvider = "" then
    some "dns_provider is required for dns-01 challenge"
  else if cfg.turn.auth.mode ≠ "rest" ∧ cfg.turn.auth.mode ≠ "static" then
    some ("invalid auth mode: " ++ cfg.turn.auth.mode ++ " (must be 'rest' or 'static')")
  else if cfg.turn.auth.mode = "rest" ∧ cfg.turn.auth.secret = "" then
    some "auth secret is required for REST mode"
  else if cfg.turn.auth.mode = "static" ∧ cfg.turn.auth.staticUsers = [] then
    some "at least one static user is required for static auth mode"
  else if cfg.admin.token = "" then some "admin token is required"
  else none

/-- `Load`, from the struct koanf decoded the file into. -/
def load (raw : Config) : Except String Config :=
  match validate (applyDefaults raw) with
  | some e => .error ("validating config: " ++ e)
  | none => .ok (applyDefaults raw)

/-! ## What `validate` accepts -/

/-- The checks of `validate`, as one structure. -/
structure Valid (cfg : Config) : Prop where
  domain : cfg.domain ≠ ""
  acme : cfg.acme.enabled → cfg.email ≠ "" ∧
    (cfg.acme.challenge = "http-01" ∨ cfg.acme.challenge = "tls-alpn-01" ∨
      cfg.acme.challenge = "dns-01" ∧ cfg.acme.dnsProvider ≠ "")
  auth : cfg.turn.auth.mode = "rest" ∧ cfg.turn.auth.secret ≠ "" ∨
    cfg.turn.auth.mode = "static" ∧ cfg.turn.auth.staticUsers ≠ []
  admin : cfg.admin.token ≠ ""

theorem valid_iff {cfg : Config} :
    Valid cfg ↔ cfg.domain ≠ "" ∧
      (cfg.acme.enabled → cfg.email ≠ "" ∧
        (cfg.acme.challenge = "http-01" ∨ cfg.acme.challenge = "tls-alpn-01" ∨
          cfg.acme.challenge = "dns-01" ∧ cfg.acme.dnsProvider ≠ "")) ∧
      (cfg.turn.auth.mode = "rest" ∧ cfg.turn.auth.secret ≠ "" ∨
        cfg.turn.auth.mode = "static" ∧ cfg.turn.auth.staticUsers ≠ []) ∧
      cfg.admin.token ≠ "" :=
  ⟨fun ⟨a, b, c, d⟩ => ⟨a, b, c, d⟩, fun ⟨a, b, c, d⟩ => ⟨a, b, c, d⟩⟩

theorem validate_eq_none_iff {cfg : Config} : validate cfg = none ↔ Valid cfg := by
  simp only [validate, ite_some_eq_none, and_true, valid_iff]
  constructor
  · rintro ⟨h₁, h₂, h₃, h₄, h₅, h₆, h₇, h₈⟩
    refine ⟨h₁, fun he => ⟨fun h => h₂ ⟨he, h⟩, ?_⟩, ?_, h₈⟩
    · by_cases hd : cfg.acme.challenge = "dns-01"
      · exact .inr (.inr ⟨hd, fun h => h₄ ⟨he, hd, h⟩⟩)
      · by_contra h
        exact h₃ ⟨he, fun h' => h (.inl h'), fun h' => h (.inr (.inl h')), hd⟩
    · by_cases hr : cfg.turn.auth.mode = "rest"
      · exact .inl ⟨hr, fun h => h₆ ⟨hr, h⟩⟩
      · have hs : cfg.turn.auth.mode = "static" := by_contra fun h => h₅ ⟨hr, h⟩
        exact .inr ⟨hs, fun h => h₇ ⟨hs, h⟩⟩
  · rintro ⟨hd, ha, hm, ht⟩
    refine ⟨hd, fun ⟨he, h⟩ => (ha he).1 h, fun ⟨he, h₁, h₂, h₃⟩ => ?_, fun ⟨he, hdns, hp⟩ => ?_,
      fun ⟨h₁, h₂⟩ => ?_, fun ⟨hr, hs⟩ => ?_, fun ⟨hs, hu⟩ => ?_, ht⟩
    · rcases (ha he).2 with h | h | ⟨h, -⟩ <;> contradiction
    · rcases (ha he).2 with h | h | ⟨-, h⟩
      · exact absurd (hdns ▸ h) (by decide)
      · exact absurd (hdns ▸ h) (by decide)
      · exact h hp
    · rcases hm with ⟨h, -⟩ | ⟨h, -⟩ <;> contradiction
    · rcases hm with ⟨-, h⟩ | ⟨h, -⟩
      · exact h hs
      · exact absurd (hr ▸ h) (by decide)
    · rcases hm with ⟨h, -⟩ | ⟨-, h⟩
      · exact absurd (hs ▸ h) (by decide)
      · exact h hu

theorem load_eq_ok {raw cfg : Config} :
    load raw = .ok cfg ↔ cfg = applyDefaults raw ∧ Valid (applyDefaults raw) := by
  rw [load, ← validate_eq_none_iff]
  split <;> rename_i h <;> simp [h, eq_comm]

/-! ## The defaults -/

section OrDefault

variable {α : Type} [DecidableEq α] [Inhabited α]

@[simp] theorem orDefault_default (d : α) : orDefault default d = d := if_pos rfl

theorem orDefault_of_ne {x : α} (h : x ≠ default) (d : α) : orDefault x d = x := if_neg h

/-- A second pass of the same default changes nothing. -/
@[simp] theorem orDefault_orDefault (x d : α) : orDefault (orDefault x d) d = orDefault x d := by
  by_cases hx : x = default
  · subst hx; by_cases hd : d = default <;> simp [orDefault, hd]
  · simp [orDefault, hx]

/-- A field with a non-zero default is set after `applyDefaults`. -/
theorem orDefault_ne {d : α} (hd : d ≠ default) (x : α) : orDefault x d ≠ default := by
  unfold orDefault; split <;> assumption

end OrDefault

@[simp] theorem default_string : (default : String) = "" := rfl

@[simp] theorem default_int : (default : Int) = 0 := rfl

@[simp] theorem applyDefaults_domain (cfg : Config) : (applyDefaults cfg).domain = cfg.domain := rfl

@[simp] theorem applyDefaults_email (cfg : Config) : (applyDefaults cfg).email = cfg.email := rfl

@[simp] theorem applyDefaults_acme_enabled (cfg : Config) :
    (applyDefaults cfg).acme.enabled = cfg.acme.enabled := by
  unfold applyDefaults; split <;> rfl

@[simp] theorem applyDefaults_auth_mode (cfg : Config) :
    (applyDefaults cfg).turn.auth.mode = cfg.turn.auth.mode := rfl

@[simp] theorem applyDefaults_auth_secret (cfg : Config) :
    (applyDefaults cfg).turn.auth.secret = cfg.turn.auth.secret := rfl

@[simp] theorem applyDefaults_staticUsers (cfg : Config) :
    (applyDefaults cfg).turn.auth.staticUsers = cfg.turn.auth.staticUsers := rfl

@[simp] theorem applyDefaults_admin_token (cfg : Config) :
    (applyDefaults cfg).admin.token = cfg.admin.token := rfl

@[simp] theorem applyDefaults_dnsProvider (cfg : Config) :
    (applyDefaults cfg).acme.dnsProvider = cfg.acme.dnsProvider := by
  unfold applyDefaults; split <;> rfl

theorem applyDefaults_acme (cfg : Config) :
    (applyDefaults cfg).acme = if cfg.acme.enabled then cfg.acme.applyDefaults else cfg.acme :=
  rfl

/-- `applyDefaults` is idempotent. -/
theorem applyDefaults_applyDefaults (cfg : Config) :
    applyDefaults (applyDefaults cfg) = applyDefaults cfg := by
  cases hacme : cfg.acme.enabled <;>
    simp [applyDefaults, ACMEConfig.applyDefaults, hacme]

/-! ## What `Load` accepts and returns -/

/-- `Load` accepts a file exactly when the file names a domain, a complete ACME
setup when ACME is on (an unset challenge counts as `http-01`), a REST secret or
at least one static user for its auth mode, and an admin token; it then returns
the file with its defaults filled in. -/
theorem load_accepts_iff (raw cfg : Config) :
    load raw = .ok cfg ↔ cfg = applyDefaults raw ∧ raw.domain ≠ "" ∧
      (raw.acme.enabled → raw.email ≠ "" ∧
        (raw.acme.challenge = "" ∨ raw.acme.challenge = "http-01" ∨
          raw.acme.challenge = "tls-alpn-01" ∨
          raw.acme.challenge = "dns-01" ∧ raw.acme.dnsProvider ≠ "")) ∧
      (raw.turn.auth.mode = "rest" ∧ raw.turn.auth.secret ≠ "" ∨
        raw.turn.auth.mode = "static" ∧ raw.turn.auth.staticUsers ≠ []) ∧
      raw.admin.token ≠ "" := by
  have hch : raw.acme.enabled = true → (applyDefaults raw).acme.challenge =
      if raw.acme.challenge = "" then "http-01" else raw.acme.challenge := fun he => by
    simp [applyDefaults_acme, he, ACMEConfig.applyDefaults, orDefault]
  rw [load_eq_ok, valid_iff]
  simp only [applyDefaults_domain, applyDefaults_email, applyDefaults_acme_enabled,
    applyDefaults_dnsProvider, applyDefaults_auth_mode, applyDefaults_auth_secret,
    applyDefaults_staticUsers, applyDefaults_admin_token]
  refine and_congr_right fun _ => and_congr_right fun _ => and_congr_left fun _ =>
    imp_congr_right fun he => and_congr_right fun _ => ?_
  rw [hch he]
  by_cases h0 : raw.acme.challenge = "" <;> simp [h0]

/-- What every configuration `Load` returns satisfies: it passes `validate`, the
TURN realm, ports, relay range and credential ttl are set (non-zero), and `Load`
given it again returns it unchanged. -/
structure Loaded (cfg : Config) : Prop where
  valid : Valid cfg
  realm : cfg.turn.realm ≠ ""
  ports : cfg.turn.ports.udp ≠ 0 ∧ cfg.turn.ports.tcp ≠ 0 ∧ cfg.turn.ports.tls ≠ 0
  relay : cfg.turn.relayPortRange.min ≠ 0 ∧ cfg.turn.relayPortRange.max ≠ 0
  ttl : cfg.turn.auth.ttlSeconds ≠ 0
  reload : load cfg = .ok cfg

/-- Every configuration `Load` returns is valid, has its TURN realm, ports, relay
range and ttl set, and is a fixed point of `Load`. -/
theorem loaded_fixed_point {raw cfg : Config} (h : load raw = .ok cfg) : Loaded cfg := by
  obtain ⟨rfl, hv⟩ := load_eq_ok.mp h
  refine ⟨hv, ?_, ⟨?_, ?_, ?_⟩, ⟨?_, ?_⟩, ?_, ?_⟩
  · simpa using orDefault_ne (by simpa using hv.domain) raw.turn.realm
  all_goals first
    | exact load_eq_ok.mpr ⟨(applyDefaults_applyDefaults raw).symm,
        by rwa [applyDefaults_applyDefaults]⟩
    | simpa using orDefault_ne (by decide) _

/-- A file with a domain, a REST secret and an admin token loads, and what it
loads to satisfies the invariant. -/
theorem minimal_file_loaded :
    let raw : Config :=
      { domain := "turn.example.com", turn.auth := { mode := "rest", secret := "s" },
        admin.token := "t" }
    load raw = .ok (applyDefaults raw) ∧ Loaded (applyDefaults raw) := by
  intro raw
  exact ⟨rfl, @loaded_fixed_point raw _ rfl⟩

end Config

end Arqut
