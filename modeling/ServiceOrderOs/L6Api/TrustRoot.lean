import ServiceOrderOs.L6Api.Auth

/-!
# The trust root of the tokens

Which secret a token must have been signed with before the dependencies make a
principal of it, from the environment the process was started in.

A secret is *rooted* in the environment when it is the one the deployment
supplied: the variable when it is not blank, else the file. The customer
verifier refuses to work without a secret, so a rooted one is all it ever uses.
The admin verifier has no such guard, and the class default of `JWT_SECRET`
counts as a variable that is not blank, so the file is not read when the
variable is absent.

* `customer_rooted`: the customer half, for every environment.
* `trust_root_iff`: both halves hold exactly where the admin secret is rooted
  (or the algorithm takes neither of the secrets the code has of its own).
-/
namespace ServiceOrderOs.Api
open Py

variable {T Tok : Type}

/-! ## What the library is trusted for -/

/-- The algorithms a secret text is a key of. -/
def hmacAlgorithms : List String := ["HS256", "HS384", "HS512"]

/-- The keys no deployment has chosen: the empty one and the class default. -/
def ownKeys : List String := ["", devJwtSecret]

/-- The claims of an admin token but its expiry. Of these the library validates
the issuer only. -/
def plainClaims : List String := ["user_id", "email", "role", "iss"]

def issuedBy (payload : Dict) (issuer : String) : Bool :=
  match payload.get? "iss" with
  | some (.str s) => s == issuer
  | _ => false

/-- A token verifies under one key and has one payload; who has a key can sign
with it, the empty key included; and a key of another algorithm is no text of
the code's own. -/
structure JoseLaws (jose : Jose Tok) : Prop where
  one : ∀ {token key algorithm issuer payload key' algorithm' issuer' payload'},
    jose.decode token key algorithm issuer = some payload →
    jose.decode token key' algorithm' issuer' = some payload' → key = key' ∧ payload = payload'
  signs : ∀ payload key algorithm issuer, algorithm ∈ hmacAlgorithms → key ∈ ownKeys →
    (∀ f ∈ payload, f.1 ∈ plainClaims) → issuedBy payload issuer = true →
    jose.decode (jose.encode payload key algorithm) key algorithm issuer = some payload
  textKeys : ∀ token key algorithm issuer, algorithm ∉ hmacAlgorithms → key ∈ ownKeys →
    jose.decode token key algorithm issuer = none

/-! ## Rooted secrets -/

/-- `key` is what the deployment supplied as `raw` or in the file. -/
structure Rooted (files : Files) (raw filePath : Option String) (key : String) : Prop where
  nonEmpty : key ≠ ""
  ofVariable : strip (raw.getD "") ≠ "" → key = strip (raw.getD "")
  ofFile : strip (raw.getD "") = "" → ∀ p, filePath = some p → p ≠ "" →
    (files p).map strip = some key

/-- The token of the principal verifies with the issuer and the role under a
rooted secret. -/
def VerifiedUnder (jose : Jose Tok) (token : Tok) (root : String → Prop)
    (algorithm issuer role : String) (payload : Dict) : Prop :=
  ∃ key, root key ∧ jose.decode token key algorithm issuer = some payload ∧
    payload.get? "role" = some (.str role)

/-- What a resolved principal promises about its token. -/
structure Trusted (T : Type) [Runtime T] (env : Environ) (files : Files) (jose : Jose Tok)
    (settings : Settings) (token : Tok) (principal : AuthenticatedPrincipal) : Prop where
  admin : principal.isAdmin → VerifiedUnder jose token
    (Rooted files (env "JWT_SECRET") (env "JWT_SECRET_FILE"))
    settings.jwtAlgorithm settings.jwtIssuer "admin" principal.claims
  customer : principal.isCustomer → VerifiedUnder jose token
    (Rooted files (env "CUSTOMER_JWT_SECRET") (env "CUSTOMER_JWT_SECRET_FILE"))
    settings.customerJwtAlgorithm settings.customerJwtIssuer "customer" principal.claims
  customerId : principal.isCustomer → ∃ customerId,
    principal.claims.get? "customer_id" = some customerId ∧
      principal.customerId = some (customerId.toStr T)

/-- The admin secret the code comes to is one of its own: a file is supplied
and the variable is absent, or the variable is blank and there is no file. -/
def Unrooted (env : Environ) (files : Files) : Prop :=
  (env "JWT_SECRET" = none ∧ ∃ p, env "JWT_SECRET_FILE" = some p ∧ p ≠ "" ∧
    (files p).map strip ≠ some devJwtSecret) ∨
  ∃ raw, env "JWT_SECRET" = some raw ∧ strip raw = "" ∧ (env "JWT_SECRET_FILE").getD "" = ""

theorem resolveSecret_ok {files : Files} {raw key fieldName : String} {filePath : Option String}
    (h : resolveSecret files raw filePath fieldName = .ok key) :
    (strip raw ≠ "" ∧ key = strip raw) ∨
      (strip raw = "" ∧ filePath.getD "" = "" ∧ key = "") ∨
      (strip raw = "" ∧ filePath.getD "" ≠ "" ∧ key ≠ "" ∧
        ∀ p, filePath = some p → p ≠ "" → (files p).map strip = some key) := by
  unfold resolveSecret at h
  split at h
  · rename_i hraw; cases h; exact .inl ⟨hraw, rfl⟩
  rename_i hraw
  have hblank : strip raw = "" := not_not.mp hraw
  split at h
  · rename_i hp; cases h; exact .inr (.inl ⟨hblank, hp, rfl⟩)
  rename_i hpath
  split at h
  · cases h
  rename_i text htext
  split at h
  · cases h
  · rename_i hne
    cases h
    refine .inr (.inr ⟨hblank, hpath, hne, fun p hp _ => ?_⟩)
    rw [hp] at htext
    exact congrArg (Option.map strip) htext

theorem strip_devJwtSecret : strip devJwtSecret = devJwtSecret := by decide

section Load
variable {env : Environ} {files : Files} {settings : Settings}

/-- A customer secret that is not empty is rooted. -/
theorem customer_rooted (hload : Settings.load env files = .ok settings)
    (hne : settings.customerJwtSecret ≠ "") :
    Rooted files (env "CUSTOMER_JWT_SECRET") (env "CUSTOMER_JWT_SECRET_FILE")
      settings.customerJwtSecret := by
  rcases resolveSecret_ok (Settings.load_ok hload).2.1 with
    ⟨hraw, hk⟩ | ⟨-, -, hk⟩ | ⟨hraw, -, -, hf⟩
  · exact ⟨hne, fun _ => hk, fun hblank => absurd hblank hraw⟩
  · exact absurd hk hne
  · exact ⟨hne, fun h => absurd hraw h, fun _ => hf⟩

theorem admin_rooted (hload : Settings.load env files = .ok settings)
    (hroot : ¬ Unrooted env files) :
    Rooted files (env "JWT_SECRET") (env "JWT_SECRET_FILE") settings.jwtSecret := by
  have hsecret := resolveSecret_ok (Settings.load_ok hload).1
  cases henv : env "JWT_SECRET" with
  | some raw =>
    simp only [Settings.read, henv, Option.getD_some] at hsecret
    rcases hsecret with ⟨hraw, hk⟩ | ⟨hraw, hp, -⟩ | ⟨hraw, -, hne, hf⟩
    · exact ⟨hk ▸ hraw, fun _ => hk, fun hblank => absurd hblank hraw⟩
    · exact absurd (.inr ⟨raw, henv, hraw, hp⟩) hroot
    · exact ⟨hne, fun h => absurd hraw h, fun _ => hf⟩
  | none =>
    simp only [Settings.read, henv, Option.getD_none, strip_devJwtSecret] at hsecret
    have hk : settings.jwtSecret = devJwtSecret := by
      rcases hsecret with ⟨-, hk⟩ | ⟨h, -⟩ | ⟨h, -⟩
      · exact hk
      · exact absurd h (by decide)
      · exact absurd h (by decide)
    rw [hk]
    refine ⟨by decide, fun h => absurd rfl h, fun _ p hp hne => ?_⟩
    by_contra hfile
    exact hroot (.inl ⟨henv, p, hp, hne, hfile⟩)

/-- Where the secret is not rooted, it is one of the code's own. -/
theorem admin_unrooted (hload : Settings.load env files = .ok settings)
    (hroot : Unrooted env files) :
    settings.jwtSecret ∈ ownKeys ∧
      ¬ Rooted files (env "JWT_SECRET") (env "JWT_SECRET_FILE") settings.jwtSecret := by
  have hsecret := resolveSecret_ok (Settings.load_ok hload).1
  rcases hroot with ⟨henv, p, hp, hne, hfile⟩ | ⟨raw, henv, hraw, hp⟩
  · simp only [Settings.read, henv, Option.getD_none, strip_devJwtSecret] at hsecret
    rcases hsecret with ⟨-, hk⟩ | ⟨h, -⟩ | ⟨h, -⟩
    · rw [hk]
      refine ⟨by decide, fun h => ?_⟩
      rw [henv] at h
      exact hfile (h.ofFile rfl p hp hne)
    · exact absurd h (by decide)
    · exact absurd h (by decide)
  · simp only [Settings.read, henv, Option.getD_some] at hsecret
    have hk : settings.jwtSecret = "" := by
      rcases hsecret with ⟨h, -⟩ | ⟨-, -, hk⟩ | ⟨-, h, -⟩
      · exact absurd hraw h
      · exact hk
      · exact absurd hp h
    rw [hk]
    exact ⟨by decide, fun h => h.nonEmpty rfl⟩

end Load

/-! ## Both halves -/

/-- An administrator's claims, as anybody can write them. -/
def exClaims (issuer : String) : Dict :=
  [("user_id", .str "user-1"), ("role", .str "admin"), ("iss", .str issuer)]

theorem exClaims_plain (issuer : String) : ∀ f ∈ exClaims issuer, f.1 ∈ plainClaims := by
  simp [exClaims, plainClaims]

theorem exClaims_issuedBy (issuer : String) : issuedBy (exClaims issuer) issuer = true := by
  have h : (exClaims issuer).get? "iss" = some (.str issuer) := rfl
  simp [issuedBy, h]

/-- A token that verifies under the admin secret with the claims of an
administrator makes one, whatever the customer verifier is set to. -/
theorem resolvePrincipal_claims [Runtime T] {jose : Jose Tok} (laws : JoseLaws jose)
    {settings : Settings} {token : Tok} {issuer : String}
    (h : jose.decode token settings.jwtSecret settings.jwtAlgorithm settings.jwtIssuer =
      some (exClaims issuer)) :
    resolvePrincipal T jose settings token =
      some ⟨"user-1", "admin", none, some (.str issuer), exClaims issuer⟩ := by
  have hcustomer : verifyCustomerToken T jose settings token = none := by
    cases hc : verifyCustomerToken T jose settings token with
    | none => rfl
    | some principal =>
      obtain ⟨-, payload, _, _, hd, hrole, -⟩ := verifyCustomerToken_some hc
      obtain ⟨-, rfl⟩ := laws.one h hd
      exact absurd (Json.str.inj (Option.some.inj hrole)) (by decide)
  rw [resolvePrincipal, hcustomer, verifyAdminToken, h]
  rfl

/-- **When the tokens' trust root is the deployment's.** For every environment
and content of the files for which `Settings` is constructed: every token that
resolves to a principal has been signed with the deployment's secret of its
role, if and only if the admin secret is rooted or the algorithm is one that
none of the code's own keys works with. -/
theorem trust_root_iff [Runtime T] {jose : Jose Tok} (laws : JoseLaws jose) {env : Environ}
    {files : Files} {settings : Settings} (hload : Settings.load env files = .ok settings) :
    (∀ token principal, resolvePrincipal T jose settings token = some principal →
      Trusted T env files jose settings token principal) ↔
    ((env "JWT_ALGORITHM").getD "HS256" ∈ hmacAlgorithms → ¬ Unrooted env files) := by
  rw [← (Settings.load_ok hload).2.2]
  constructor
  · intro htrust hhmac hroot
    obtain ⟨hown, hnot⟩ := admin_unrooted hload hroot
    have hd := laws.signs (exClaims settings.jwtIssuer) settings.jwtSecret settings.jwtAlgorithm
      settings.jwtIssuer hhmac hown (exClaims_plain _) (exClaims_issuedBy _)
    obtain ⟨key, hkey, hd', -⟩ := (htrust _ _ (resolvePrincipal_claims laws hd)).admin rfl
    obtain ⟨rfl, -⟩ := laws.one hd hd'
    exact hnot hkey
  · intro hroot token principal h
    refine ⟨fun ha => ?_, fun hc => ?_, fun hc => ?_⟩
    · obtain ⟨payload, _, hd, hrole, rfl⟩ := verifyAdminToken_some (resolvePrincipal_admin h ha)
      refine ⟨settings.jwtSecret, ?_, hd, hrole⟩
      by_cases hun : Unrooted env files
      · -- no token verifies under a key of the code's own
        have hhmac := fun hmem => hroot hmem hun
        have hnone := laws.textKeys token _ settings.jwtAlgorithm settings.jwtIssuer hhmac
          (admin_unrooted hload hun).1
        rw [hnone] at hd; cases hd
      · exact admin_rooted hload hun
    · obtain ⟨hne, payload, _, _, hd, hrole, -, rfl⟩ :=
        verifyCustomerToken_some (resolvePrincipal_customer h hc)
      exact ⟨_, customer_rooted hload hne, hd, hrole⟩
    · obtain ⟨-, payload, customerId, _, -, -, hid, rfl⟩ :=
        verifyCustomerToken_some (resolvePrincipal_customer h hc)
      exact ⟨customerId, hid, rfl⟩

/-! ## Symbolic tokens -/

/-- A token as what it was made of. -/
structure SymbolicToken where
  payload : Dict
  key : String
  algorithm : String

/-- The library on symbolic tokens, with a clock that stands before every
expiry. -/
def symbolicJose : Jose SymbolicToken where
  encode payload key algorithm := ⟨payload, key, algorithm⟩
  decode token key algorithm issuer :=
    if token.key = key ∧ token.algorithm = algorithm ∧ algorithm ∈ hmacAlgorithms ∧
        issuedBy token.payload issuer then some token.payload
    else none

theorem symbolicJose_decode {token : SymbolicToken} {key algorithm issuer : String}
    {payload : Dict} (h : symbolicJose.decode token key algorithm issuer = some payload) :
    token.key = key ∧ token.payload = payload ∧ algorithm ∈ hmacAlgorithms := by
  simp only [symbolicJose] at h
  split at h
  · rename_i hc; cases h; exact ⟨hc.1, rfl, hc.2.2.1⟩
  · cases h

theorem symbolicJose_laws : JoseLaws symbolicJose where
  one h h' := by
    obtain ⟨hk, hp, -⟩ := symbolicJose_decode h
    obtain ⟨hk', hp', -⟩ := symbolicJose_decode h'
    exact ⟨hk.symm.trans hk', hp.symm.trans hp'⟩
  signs payload key algorithm issuer ha _ _ hi := by simp [symbolicJose, ha, hi]
  textKeys token key algorithm issuer ha _ := by
    cases h : symbolicJose.decode token key algorithm issuer with
    | none => rfl
    | some payload => exact absurd (symbolicJose_decode h).2.2 ha

/-- The secret is in its file, and the variable is what it is. -/
def exEnviron (jwtSecret : Option String) (name : String) : Option String :=
  if name = "JWT_SECRET" then jwtSecret
  else if name = "JWT_SECRET_FILE" then some "/run/secrets/jwt_secret"
  else none

def exFiles (filePath : String) : Option String :=
  if filePath = "/run/secrets/jwt_secret" then some "jwt-secret-from-file" else none

def exSettings (jwtSecret : Option String) (resolved : String) : Settings :=
  { Settings.read (exEnviron jwtSecret) with
    jwtSecret := resolved
    jwtIssuer := "service-order-os-service/development" }

def exIssuer : String := "service-order-os-service/development"

/-- An administrator's token under the secret of the file. -/
def exFileToken : SymbolicToken := ⟨exClaims exIssuer, "jwt-secret-from-file", "HS256"⟩

/-- A variable that is set and empty, as the production example has it. -/
theorem trust_root_file :
    Trusted Utc (exEnviron (some "")) exFiles symbolicJose
      (exSettings (some "") "jwt-secret-from-file") exFileToken
      ⟨"user-1", "admin", none, some (.str exIssuer), exClaims exIssuer⟩ := by
  refine (trust_root_iff symbolicJose_laws rfl).mpr (fun _ hroot => ?_) _ _
    (resolvePrincipal_claims symbolicJose_laws rfl)
  rcases hroot with ⟨h, -⟩ | ⟨raw, -, -, h⟩
  · exact absurd h (by decide)
  · exact absurd h (by decide)

/-- With the variable absent the file is not read, and the token anybody signs
with the class default makes an administrator. -/
theorem default_secret_trusted :
    Settings.load (exEnviron none) exFiles = .ok (exSettings none devJwtSecret) ∧
      ¬ ∀ token principal, resolvePrincipal Utc symbolicJose
          (exSettings none devJwtSecret) token = some principal →
        Trusted Utc (exEnviron none) exFiles symbolicJose (exSettings none devJwtSecret) token
          principal := by
  refine ⟨rfl, fun h => ?_⟩
  let settings := exSettings none devJwtSecret
  let token : SymbolicToken := ⟨exClaims settings.jwtIssuer, devJwtSecret, "HS256"⟩
  have hp : resolvePrincipal Utc symbolicJose settings token = some _ :=
    resolvePrincipal_claims symbolicJose_laws rfl
  obtain ⟨key, hroot, hd, -⟩ := (h _ _ hp).admin rfl
  obtain ⟨rfl, -⟩ := symbolicJose_decode hd
  exact absurd (hroot.ofFile rfl _ rfl (by decide)) (by decide)

end ServiceOrderOs.Api
