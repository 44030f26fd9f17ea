import Mathlib.Data.List.OfFn
import Arqut.Base64

/-!
# API keys

`internal/apikey` and the `APIKeyAuth` middleware that guards the REST API with
one key. A key is `arq_` and the raw base64url text of 32 random bytes; the
server keeps only `base64(salt):base64(argon2id(key, salt))`, both in raw
standard base64, and `Validate` recomputes the digest under the stored salt.

Go strings are byte strings here: keys, headers and stored hashes are
`List UInt8`, so that `len`, slicing and the separator scan count bytes as Go
does. The random bytes of `Generate` and the salt of `Hash` are the bytes
`rand.Read` filled, taken as arguments; `argon2.IDKey` is library code and is
the parameter `idKey`. `subtle.ConstantTimeCompare` answers 1 exactly on equal
slices.

`parseHash_encode` and `validate_hash` are the round trip of a stored hash;
`validateFormat_iff` is the grammar the format check accepts.
-/

namespace Arqut

/-- `KeyPrefix`. -/
def keyPrefix : List UInt8 := ascii "arq_"

/-- `KeyLength`. -/
def keyLength : Nat := 32

/-- `Argon2Time`. -/
def argon2Time : Nat := 3

/-- `Argon2Memory`, in KiB. -/
def argon2Memory : Nat := 64 * 1024

/-- `Argon2Threads`. -/
def argon2Threads : Nat := 4

/-- `Argon2KeyLen`. -/
def argon2KeyLen : Nat := 32

/-- The bytes of `s` before its first `sep`, and those after it; `none` without
one. The separator loop of `parseHash`, and `strings.SplitN(s, sep, 2)` where it
yields two parts. -/
def cut (sep : UInt8) (s : List UInt8) : Option (List UInt8 × List UInt8) :=
  match s.dropWhile (· != sep) with
  | [] => none
  | _ :: post => some (s.takeWhile (· != sep), post)

/-- `subtle.ConstantTimeCompare`. -/
def constantTimeCompare (x y : List UInt8) : Nat := if x = y then 1 else 0

/-- `parseHash`. -/
def parseHash (encodedHash : List UInt8) : Except String (List UInt8 × List UInt8) :=
  match cut 58 encodedHash with
  | none => .error "invalid hash format: missing separator"
  | some (saltText, hashText) =>
    match rawStdEncoding.decodeString saltText with
    | .error e => .error ("failed to decode salt: " ++ corruptInputError e)
    | .ok salt =>
      match rawStdEncoding.decodeString hashText with
      | .error e => .error ("failed to decode hash: " ++ corruptInputError e)
      | .ok hash => .ok (salt, hash)

/-- `ValidateFormat`. -/
def validateFormat (apiKey : List UInt8) : Bool :=
  if apiKey.length < keyPrefix.length then false
  else if apiKey.take keyPrefix.length ≠ keyPrefix then false
  else if apiKey.length ≠ keyPrefix.length + 43 then false
  else
    match rawURLEncoding.decodeString (apiKey.drop keyPrefix.length) with
    | .error _ => false
    | .ok decoded => decoded.length == keyLength

/-- `Generate`, with the `KeyLength` bytes `rand.Read` filled. -/
def generate (randomBytes : List UInt8) : List UInt8 :=
  keyPrefix ++ rawURLEncoding.encodeToString randomBytes

section Argon2

-- `argon2.IDKey(password, salt, time, memory, threads, keyLen)`
variable (idKey : List UInt8 → List UInt8 → Nat → Nat → Nat → Nat → List UInt8)

/-- `Hash`, with the `SaltLength` bytes `rand.Read` drew for the salt. -/
def hash (salt apiKey : List UInt8) : List UInt8 :=
  let digest := idKey apiKey salt argon2Time argon2Memory argon2Threads argon2KeyLen
  rawStdEncoding.encodeToString salt ++ ascii ":" ++ rawStdEncoding.encodeToString digest

/-- `Validate`. -/
def validate (apiKey encodedHash : List UInt8) : Bool :=
  match parseHash encodedHash with
  | .error _ => false
  | .ok (salt, digest) =>
    constantTimeCompare digest
      (idKey apiKey salt argon2Time argon2Memory argon2Threads argon2KeyLen) == 1

/-- `APIKeyAuth(apiKeyHash)` on a request whose `Authorization` header is
`authHeader` (empty when absent): `c.Next()`, or a 401 with its message. -/
def apiKeyAuth (apiKeyHash authHeader : List UInt8) : Except String Unit :=
  if authHeader = [] then .error "Missing Authorization header"
  else
    match cut 32 authHeader with
    | some (scheme, providedKey) =>
      if scheme = ascii "Bearer" then
        if !validateFormat providedKey then .error "Invalid API key format"
        else if !validate idKey providedKey apiKeyHash then .error "Invalid API key"
        else .ok ()
      else .error "Invalid Authorization header format. Expected: Bearer <api_key>"
    | none => .error "Invalid Authorization header format. Expected: Bearer <api_key>"

end Argon2

/-! ## A stored hash reads back -/

theorem cut_append {sep : UInt8} {x : List UInt8} (hx : sep ∉ x) (y : List UInt8) :
    cut sep (x ++ sep :: y) = some (x, y) := by
  have hpos : ∀ c ∈ x, (c != sep) = true := fun c hc => by
    simpa using fun h : c = sep => hx (h ▸ hc)
  simp [cut, List.dropWhile_append_of_pos hpos, List.takeWhile_append_of_pos hpos]

/-- Raw standard base64 never writes the separator `:`. -/
theorem colon_not_mem_encodeToString (b : List UInt8) :
    (58 : UInt8) ∉ rawStdEncoding.encodeToString b :=
  fun h => (by decide : (58 : UInt8) ∉ encodeStd) (rawStdEncoding.mem_encodeToString b _ h)

/-- The stored form `salt:digest` parses back to its two byte strings. -/
theorem parseHash_encode (s d : List UInt8) :
    parseHash (rawStdEncoding.encodeToString s ++ ascii ":" ++ rawStdEncoding.encodeToString d) =
      .ok (s, d) := by
  rw [show ascii ":" = [58] from rfl, List.append_assoc, List.singleton_append, parseHash,
    cut_append (colon_not_mem_encodeToString s)]
  simp only [Encoding.decodeString_encodeToString]

/-- A key validates against every hash `Hash` makes of it. -/
theorem validate_hash (idKey : List UInt8 → List UInt8 → Nat → Nat → Nat → Nat → List UInt8)
    (salt apiKey : List UInt8) : validate idKey apiKey (hash idKey salt apiKey) = true := by
  simp only [validate, hash]
  rw [parseHash_encode]
  simp [constantTimeCompare]

/-- The stored form of every salt and digest parses back to them, so every key
validates against the hash made of it under any salt. -/
theorem stored_hash_round_trip
    (idKey : List UInt8 → List UInt8 → Nat → Nat → Nat → Nat → List UInt8) :
    (∀ s d : List UInt8, parseHash (rawStdEncoding.encodeToString s ++ ascii ":" ++
        rawStdEncoding.encodeToString d) = .ok (s, d)) ∧
      ∀ k s : List UInt8, validate idKey k (hash idKey s k) = true :=
  ⟨parseHash_encode, fun k s => validate_hash idKey s k⟩

/-! ## The key format -/

/-- `ValidateFormat` accepts exactly `arq_` and 43 bytes of the base64url alphabet:
a decoding of 43 bytes reaches 32 bytes only when none of them is a skipped
`\r` or `\n`. -/
theorem validateFormat_iff (k : List UInt8) :
    validateFormat k = true ↔
      ∃ rest, k = keyPrefix ++ rest ∧ rest.length = 43 ∧ ∀ c ∈ rest, c ∈ encodeURL := by
  have hp : keyPrefix.length = 4 := rfl
  constructor
  · intro h
    unfold validateFormat at h
    split_ifs at h with h₁ h₂ h₃
    rcases hd : rawURLEncoding.decodeString (k.drop keyPrefix.length) with _ | decoded <;>
      rw [hd] at h
    · cases h
    · have hlen : decoded.length = 32 := by simpa [keyLength] using h
      have hrest : (k.drop keyPrefix.length).length = 43 := by simp only [List.length_drop]; omega
      obtain ⟨-, hout⟩ := rawURLEncoding.decodeString_ok hd
      have hle := List.countP_le_length (fun c => decide (c ∈ rawURLEncoding.encode))
        (l := k.drop keyPrefix.length)
      have hc : (k.drop keyPrefix.length).countP (· ∈ rawURLEncoding.encode) =
          (k.drop keyPrefix.length).length := by
        omega
      refine ⟨k.drop keyPrefix.length, ?_, hrest, fun c hc' => ?_⟩
      · calc k = k.take keyPrefix.length ++ k.drop keyPrefix.length :=
              (List.take_append_drop _ _).symm
          _ = keyPrefix ++ k.drop keyPrefix.length := by rw [not_not.mp h₂]
      · simpa using List.countP_eq_length.mp hc c hc'
  · rintro ⟨rest, rfl, hlen, hall⟩
    obtain ⟨out, hd⟩ := rawURLEncoding.decodeString_isOk hall (by simp [hlen])
    obtain ⟨-, hout⟩ := rawURLEncoding.decodeString_ok hd
    have hc : rest.countP (· ∈ rawURLEncoding.encode) = 43 :=
      (List.countP_eq_length.mpr (by simpa using hall)).trans hlen
    rw [hc] at hout
    simp [validateFormat, hlen, hp, hd, hout, keyLength]

/-- Every key `Generate` can emit passes the format check. -/
theorem validateFormat_generate {b : List UInt8} (hb : b.length = 32) :
    validateFormat (generate b) = true :=
  (validateFormat_iff _).mpr ⟨_, rfl, by rw [Encoding.length_encodeToString, hb]; decide,
    rawURLEncoding.mem_encodeToString b⟩

/-- The format check accepts exactly its grammar, and with it every key that
`Generate` can emit from its 32 random bytes. -/
theorem validateFormat_accepts_grammar :
    (∀ k, validateFormat k = true ↔
      ∃ rest, k = keyPrefix ++ rest ∧ rest.length = 43 ∧ ∀ c ∈ rest, c ∈ encodeURL) ∧
      ∀ b : Fin 32 → UInt8, validateFormat (generate (List.ofFn b)) = true :=
  ⟨validateFormat_iff, fun b => validateFormat_generate (List.length_ofFn b)⟩

/-! ## The middleware -/

/-- `APIKeyAuth` lets through `Bearer` and a generated key when the configured
hash was made of that key, whatever the salt and the random bytes. -/
theorem apiKeyAuth_admits_generated_key
    (idKey : List UInt8 → List UInt8 → Nat → Nat → Nat → Nat → List UInt8)
    (salt : List UInt8) (b : Fin 32 → UInt8) :
    apiKeyAuth idKey (hash idKey salt (generate (List.ofFn b)))
      (ascii "Bearer " ++ generate (List.ofFn b)) = .ok () := by
  have hcut : cut 32 (ascii "Bearer " ++ generate (List.ofFn b)) =
      some (ascii "Bearer", generate (List.ofFn b)) :=
    cut_append (x := ascii "Bearer") (by decide) _
  simp only [apiKeyAuth, hcut, validateFormat_generate (List.length_ofFn b), validate_hash]
  rfl

end Arqut
