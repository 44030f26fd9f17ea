import Arqut.ApiKey
import Arqut.Startup

/-!
# The `apikey` commands

`arqut-server apikey generate | rotate | status` keep the Argon2id hash of the
REST API key in the configuration file, which `runServer` loads and whose hash
it hands to `APIKeyAuth`. The file is the struct koanf decodes it into, `none`
while it does not exist. `updateConfigWithAPIKey` loads the file as a koanf map,
sets `api.api_key.hash` and `api.api_key.created_at` and writes the map back:
the decoded struct with those two fields replaced. A file that exists but does
not decode is left out; the commands stop on it before writing.

Each command is one process: `os.Exit` is its `exitCode`, and every exit before
the write leaves the file as it was. A successful `generate` or `rotate` prints
the new key. One `GenerateWithHash` draws the key's 32 bytes and the salt's 16
bytes from `rand.Read`, and `GetCreatedAt` reads the clock: a command carries
what they return (`Draw`).

Over every sequence of commands, from any file (`runCommands`):

* the file changes only with a printed key, and a server started from the file
  the commands leave admits the last printed key, and nothing else has to be
  redone for `apikey status` to report it (`apikey_file_admits_last_key`);
* that server rejects every other key to which Argon2id does not give the last
  key's digest under the salt the file stores, the keys printed before it
  included: a rotation revokes them (`apikey_rotation_revokes_earlier_keys`).
-/

namespace Arqut

/-- What one `GenerateWithHash` and one `GetCreatedAt` read: the key's
`KeyLength` random bytes, the salt's `SaltLength` bytes, and the clock as
RFC 3339 text. -/
structure Draw where
  randomBytes : Fin 32 → UInt8
  salt : Fin 16 → UInt8
  createdAt : String

/-- `config.DefaultConfigYAML`, as koanf decodes it. -/
def defaultConfigYAML : Config where
  domain := "turn.example.com"
  email := "admin@example.com"
  certDir := "./certs"
  acme := { enabled := false, challenge := "http-01" }
  turn :=
    { realm := "example.com"
      publicIP := "127.0.0.1"
      ports := ⟨3478, 3478, 5349⟩
      relayPortRange := ⟨49152, 65535⟩
      auth := { mode := "rest", secret := "change-this-secret-in-production", ttlSeconds := 86400 } }
  signaling := { maxPeersPerRoom := 10, sessionTimeout := 300 * 1000000000 }
  api := { port := 9000 }
  admin := { port := 9001, token := "change-this-admin-token", bind := "127.0.0.1" }
  logging := ⟨"info", "text"⟩

/-- `updateConfigWithAPIKey`. -/
def updateConfigWithAPIKey (cfg : Config) (hash : List UInt8) (createdAt : String) : Config :=
  { cfg with api.apiKey := ⟨hash, createdAt⟩ }

/-- What a command leaves: the file, the key it printed, and its exit code. -/
structure Outcome where
  file : Option Config
  key : Option (List UInt8) := none
  exitCode : Nat := 0

/-- The API key hash of a file; `""` when there is none. -/
def hashOf (file : Option Config) : List UInt8 := (file.map (·.api.apiKey.hash)).getD []

section Argon2

-- `argon2.IDKey(password, salt, time, memory, threads, keyLen)`
variable (idKey : List UInt8 → List UInt8 → Nat → Nat → Nat → Nat → List UInt8)

/-- The tail `generateAPIKey` and `rotateAPIKey` share: `GenerateWithHash`,
`updateConfigWithAPIKey`, and the key printed. -/
def issueKey (cfg : Config) (d : Draw) : Outcome :=
  let key := generate (List.ofFn d.randomBytes)
  { file := some (updateConfigWithAPIKey cfg (hash idKey (List.ofFn d.salt) key) d.createdAt)
    key := some key }

/-- `generateAPIKey`: a missing file is created from `DefaultConfigYAML`; a file
that already has a hash is refused. -/
def generateAPIKey (file : Option Config) (d : Draw) : Outcome :=
  match file with
  | none => issueKey idKey defaultConfigYAML d
  | some cfg =>
    if cfg.api.apiKey.hash ≠ [] then { file, exitCode := 1 } else issueKey idKey cfg d

/-- `rotateAPIKey`, with `response` the word `fmt.Scanln` read. -/
def rotateAPIKey (file : Option Config) (response : String) (d : Draw) : Outcome :=
  match file with
  | none => { file, exitCode := 1 }
  | some cfg =>
    if cfg.api.apiKey.hash = [] then { file, exitCode := 1 }
    else if response ≠ "yes" then { file }
    else issueKey idKey cfg d

end Argon2

/-- `statusAPIKey`: the lines it prints, as bytes, or the failure that stops it with
the process's exit status: a file that does not load (`os.Exit(1)`), or the slice
`Hash[:20]` of a hash shorter than 20 bytes, a runtime panic (exit status 2). -/
def statusAPIKey (configPath : String) (file : Option Config) :
    Except (String × Nat) (List (List UInt8)) :=
  match file with
  | none => .error ("Error loading config", 1)
  | some cfg =>
    if cfg.api.apiKey.hash = [] then
      .ok [ascii "Status: No API key configured", [], ascii "Generate an API key with:",
        ascii ("    arqut-server apikey generate -c " ++ configPath)]
    else if cfg.api.apiKey.hash.length < 20 then
      .error ("runtime error: slice bounds out of range [:20] with length " ++
        toString cfg.api.apiKey.hash.length, 2)
    else
      .ok ([ascii "Status: API key configured"] ++
        (if cfg.api.apiKey.createdAt ≠ "" then [ascii ("Created: " ++ cfg.api.apiKey.createdAt)]
          else []) ++
        [ascii "Hash: " ++ cfg.api.apiKey.hash.take 20 ++ ascii "..."])

/-- The three subcommands, each a separate run of the binary. -/
inductive ApiKeyCommand where
  | generate (d : Draw)
  | rotate (response : String) (d : Draw)
  | status (configPath : String)

section Argon2

variable (idKey : List UInt8 → List UInt8 → Nat → Nat → Nat → Nat → List UInt8)

/-- One command on the file. -/
def ApiKeyCommand.exec (file : Option Config) : ApiKeyCommand → Outcome
  | .generate d => generateAPIKey idKey file d
  | .rotate response d => rotateAPIKey idKey file response d
  | .status configPath =>
    match statusAPIKey configPath file with
    | .ok _ => { file }
    | .error (_, code) => { file, exitCode := code }

/-- A sequence of commands: the file they leave and the keys they printed, in
order. -/
def runCommands (file : Option Config) : List ApiKeyCommand → Option Config × List (List UInt8)
  | [] => (file, [])
  | c :: cs =>
    let o := c.exec idKey file
    let r := runCommands o.file cs
    (r.1, o.key.toList ++ r.2)

/-! ## One command -/

/-- A command either prints a key and leaves a file holding `Hash` of it under
the drawn salt, or prints nothing and leaves the file as it was. -/
theorem exec_cases (file : Option Config) (c : ApiKeyCommand) :
    ((c.exec idKey file).key = none ∧ (c.exec idKey file).file = file) ∨
      ∃ d : Draw, ∃ cfg, (c.exec idKey file).key = some (generate (List.ofFn d.randomBytes)) ∧
        (c.exec idKey file).file = some (updateConfigWithAPIKey cfg
          (hash idKey (List.ofFn d.salt) (generate (List.ofFn d.randomBytes))) d.createdAt) := by
  have hissue : ∀ cfg d, ∃ d' : Draw, ∃ cfg',
      (issueKey idKey cfg d).key = some (generate (List.ofFn d'.randomBytes)) ∧
        (issueKey idKey cfg d).file = some (updateConfigWithAPIKey cfg'
          (hash idKey (List.ofFn d'.salt) (generate (List.ofFn d'.randomBytes))) d'.createdAt) :=
    fun cfg d => ⟨d, cfg, rfl, rfl⟩
  cases c with
  | generate d =>
    simp only [ApiKeyCommand.exec, generateAPIKey]
    split
    · exact .inr (hissue _ d)
    · split
      · exact .inl ⟨rfl, rfl⟩
      · exact .inr (hissue _ d)
  | rotate response d =>
    simp only [ApiKeyCommand.exec, rotateAPIKey]
    split
    · exact .inl ⟨rfl, rfl⟩
    · split
      · exact .inl ⟨rfl, rfl⟩
      · split
        · exact .inl ⟨rfl, rfl⟩
        · exact .inr (hissue _ d)
  | status configPath =>
    simp only [ApiKeyCommand.exec]
    split <;> exact .inl ⟨rfl, rfl⟩

/-- A stored hash is the salt's 22 characters, `:` and the digest's: never shorter
than 20 bytes. -/
theorem twenty_le_length_hash (salt : Fin 16 → UInt8) (key : List UInt8) :
    20 ≤ (hash idKey (List.ofFn salt) key).length := by
  simp only [hash, List.length_append, Encoding.length_encodeToString, List.length_ofFn,
    Encoding.encodedLen]
  omega

/-- So `apikey status` reads a stored hash without panicking. -/
theorem statusAPIKey_hash_isOk (configPath : String) (cfg : Config) (salt : Fin 16 → UInt8)
    (key : List UInt8) (createdAt : String) :
    (statusAPIKey configPath
      (some (updateConfigWithAPIKey cfg (hash idKey (List.ofFn salt) key) createdAt))).isOk := by
  have hlen := twenty_le_length_hash idKey salt key
  have hne : hash idKey (List.ofFn salt) key ≠ [] := List.ne_nil_of_length_pos (by omega)
  simp only [statusAPIKey, updateConfigWithAPIKey, hne, if_false, Nat.not_lt.mpr hlen]
  rfl

/-! ## Whole runs -/

/-- Over a run, the file changes only with a printed key, and then holds `Hash` of
the last key printed, under the salt drawn with it. -/
theorem runCommands_file (file : Option Config) (cmds : List ApiKeyCommand) :
    ((runCommands idKey file cmds).2 = [] → (runCommands idKey file cmds).1 = file) ∧
      ∀ k, (runCommands idKey file cmds).2.getLast? = some k → ∃ d : Draw, ∃ cfg,
        k = generate (List.ofFn d.randomBytes) ∧
        (runCommands idKey file cmds).1 =
          some (updateConfigWithAPIKey cfg (hash idKey (List.ofFn d.salt) k) d.createdAt) := by
  induction cmds generalizing file with
  | nil => exact ⟨fun _ => rfl, fun _ h => nomatch h⟩
  | cons c cs ih =>
    obtain ⟨ih₁, ih₂⟩ := ih (c.exec idKey file).file
    simp only [runCommands]
    rcases exec_cases idKey file c with ⟨hkey, hfile⟩ | ⟨d, cfg, hkey, hfile⟩
    · simp only [hkey, Option.toList_none, List.nil_append]
      exact ⟨fun h => (ih₁ h).trans hfile, ih₂⟩
    · simp only [hkey, Option.toList_some, List.singleton_append, List.cons_ne_nil,
        false_imp_iff, true_and]
      intro k hk
      cases hcs : (runCommands idKey (c.exec idKey file).file cs).2 with
      | nil =>
        rw [hcs, List.getLast?_singleton, Option.some.injEq] at hk
        subst hk
        exact ⟨d, cfg, rfl, (ih₁ hcs).trans hfile⟩
      | cons k' ks =>
        rw [hcs, List.getLast?_cons_cons, ← hcs] at hk
        exact ih₂ k hk

/-- `APIKeyAuth` on the header `Bearer <k>`: the format check, then `Validate`. -/
theorem apiKeyAuth_bearer (apiKeyHash k : List UInt8) :
    apiKeyAuth idKey apiKeyHash (ascii "Bearer " ++ k) =
      if !validateFormat k then .error "Invalid API key format"
      else if !validate idKey k apiKeyHash then .error "Invalid API key" else .ok () := by
  have hcut : cut 32 (ascii "Bearer " ++ k) = some (ascii "Bearer", k) :=
    cut_append (x := ascii "Bearer") (by decide) _
  simp only [apiKeyAuth, hcut]
  rfl

/-- `APIKeyAuth` configured with `Hash` of a key that passes the format check
admits `Bearer` and that key. -/
theorem apiKeyAuth_hash_of_validateFormat {k : List UInt8} (hk : validateFormat k = true)
    (salt : List UInt8) : apiKeyAuth idKey (hash idKey salt k) (ascii "Bearer " ++ k) = .ok () := by
  simp [apiKeyAuth_bearer, hk, validate_hash]

/-- A key validates against `Hash` of another exactly when Argon2id gives the two
the same digest under that salt. -/
theorem validate_hash_iff (salt k k' : List UInt8) :
    validate idKey k (hash idKey salt k') = true ↔
      idKey k' salt argon2Time argon2Memory argon2Threads argon2KeyLen =
        idKey k salt argon2Time argon2Memory argon2Threads argon2KeyLen := by
  simp only [validate, hash]
  rw [parseHash_encode]
  simp [constantTimeCompare]

end Argon2

/-- Over every sequence of `apikey` commands from any file, the file changes only
when a command prints a key. After the last printed key the file holds a hash,
`apikey status` reports it without failing, and a server started from the file
admits `Bearer` and that key. -/
theorem apikey_file_admits_last_key
    (idKey : List UInt8 → List UInt8 → Nat → Nat → Nat → Nat → List UInt8)
    (file : Option Config) (cmds : List ApiKeyCommand) :
    let r := runCommands idKey file cmds
    (r.2 = [] → r.1 = file) ∧
      ∀ k, r.2.getLast? = some k → ∃ f, r.1 = some f ∧ f.api.apiKey.hash ≠ [] ∧
        (∀ configPath, (statusAPIKey configPath r.1).isOk) ∧
        ∀ cfg s, runServerStart f = .ok (cfg, s) →
          apiKeyAuth idKey cfg.api.apiKey.hash (ascii "Bearer " ++ k) = .ok () := by
  intro r
  obtain ⟨hnone, hlast⟩ := runCommands_file idKey file cmds
  refine ⟨hnone, fun k hk => ?_⟩
  obtain ⟨d, cfg₀, rfl, hfile⟩ := hlast k hk
  refine ⟨_, hfile, ?_, fun p => hfile ▸ statusAPIKey_hash_isOk idKey p cfg₀ d.salt _ _,
    fun cfg s hs => ?_⟩
  · have := twenty_le_length_hash idKey d.salt (generate (List.ofFn d.randomBytes))
    exact List.ne_nil_of_length_pos (l := hash idKey _ _) (by omega)
  · obtain ⟨hload, -⟩ := runServerStart_eq_ok hs
    obtain ⟨rfl, -⟩ := Config.load_eq_ok.mp hload
    exact apiKeyAuth_hash_of_validateFormat idKey
      (validateFormat_generate (List.length_ofFn d.randomBytes)) _

/-- The file a run of `apikey` commands leaves admits a key exactly when it is the
last printed key, for every key to which Argon2id does not give the last key's
digest under the salt the file stores: a rotation revokes every key before it,
whatever was drawn. -/
theorem apikey_rotation_revokes_earlier_keys
    (idKey : List UInt8 → List UInt8 → Nat → Nat → Nat → Nat → List UInt8)
    (file : Option Config) (cmds : List ApiKeyCommand) {k' : List UInt8}
    (hlast : (runCommands idKey file cmds).2.getLast? = some k') (k : List UInt8)
    (hnc : ∀ salt digest, parseHash (hashOf (runCommands idKey file cmds).1) = .ok (salt, digest) →
      idKey k salt argon2Time argon2Memory argon2Threads argon2KeyLen =
        idKey k' salt argon2Time argon2Memory argon2Threads argon2KeyLen → k = k') :
    apiKeyAuth idKey (hashOf (runCommands idKey file cmds).1) (ascii "Bearer " ++ k) = .ok () ↔
      k = k' := by
  obtain ⟨d, cfg, rfl, hfile⟩ := (runCommands_file idKey file cmds).2 _ hlast
  simp only [hfile, hashOf, updateConfigWithAPIKey, Option.map_some', Option.getD_some] at hnc ⊢
  have hgen := validateFormat_generate (List.length_ofFn d.randomBytes)
  by_cases hv : validate idKey k (hash idKey (List.ofFn d.salt) (generate (List.ofFn d.randomBytes)))
  · obtain rfl := hnc _ _ (parseHash_encode _ _) ((validate_hash_iff idKey _ _ _).mp hv).symm
    simp only [apiKeyAuth_bearer, hgen, hv, Bool.not_true, Bool.false_eq_true, if_false]
  · have hne : k ≠ generate (List.ofFn d.randomBytes) := fun h => hv (h ▸ validate_hash idKey _ _)
    simp only [apiKeyAuth_bearer, hne, iff_false, Bool.eq_false_iff.mpr hv, Bool.not_false,
      if_true]
    split <;> exact nofun

/-- With the identity as key function: `generate` then `rotate yes` from no file;
the first key's header is admitted exactly when it equals the second key. -/
theorem rotate_after_generate_revokes :
    let idKey : List UInt8 → List UInt8 → Nat → Nat → Nat → Nat → List UInt8 :=
      fun k _ _ _ _ _ => k
    let cmds := [ApiKeyCommand.generate ⟨fun _ => 0, fun _ => 0, "t1"⟩,
      ApiKeyCommand.rotate "yes" ⟨fun _ => 1, fun _ => 0, "t2"⟩]
    let k₁ := generate (List.ofFn fun _ : Fin 32 => 0)
    let k₂ := generate (List.ofFn fun _ : Fin 32 => 1)
    ((runCommands idKey none cmds).2.getLast? = some k₂ ∧
      ∀ salt digest, parseHash (hashOf (runCommands idKey none cmds).1) = .ok (salt, digest) →
        idKey k₁ salt argon2Time argon2Memory argon2Threads argon2KeyLen =
          idKey k₂ salt argon2Time argon2Memory argon2Threads argon2KeyLen → k₁ = k₂) ∧
    (apiKeyAuth idKey (hashOf (runCommands idKey none cmds).1) (ascii "Bearer " ++ k₁) = .ok () ↔
      k₁ = k₂) := by
  intro idKey cmds k₁ k₂
  exact ⟨⟨rfl, fun _ _ _ h => h⟩,
    apikey_rotation_revokes_earlier_keys idKey none cmds rfl _ fun _ _ _ h => h⟩

end Arqut
