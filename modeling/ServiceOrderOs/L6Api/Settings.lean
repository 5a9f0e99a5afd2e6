import ServiceOrderOs.L1Values.Value

/-!
# The settings of the token secrets

What `Settings` makes of the process environment: the fields that say how
tokens are signed and checked. `model_post_init` resolves each secret from its
variable or its file.

An environment is what the settings library reads a field from, `none` when
the variable is absent; a file is its text, `none` when reading it raises.

* `load_ok`: the secrets of a `Settings` that could be constructed.
-/
namespace ServiceOrderOs.Api
open Py

abbrev Environ := String → Option String

abbrev Files := String → Option String

/-- What constructing `Settings` raises: a value the type of its field has not,
a secret's file that is blank, or one that cannot be read. -/
inductive SettingsError where
  | validation (field : String)
  | valueError (message : String)
  | unreadable (filePath : String)
  deriving DecidableEq, Repr

/-- mirrors src/infrastructure/config/settings.py:26-34 -/
def resolveSecret (files : Files) (rawValue : String) (filePath : Option String)
    (fieldName : String) : Except SettingsError String :=
  if strip rawValue ≠ "" then .ok (strip rawValue)
  else if filePath.getD "" = "" then .ok ""
  else match files (filePath.getD "") with
    | none => .error (.unreadable (filePath.getD ""))
    | some text =>
      if strip text = "" then .error (.valueError s!"{fieldName}_FILE is empty")
      else .ok (strip text)

/-- mirrors src/infrastructure/config/settings.py:46,69-77 -/
structure Settings where
  environment : String
  jwtSecret : String
  jwtSecretFile : Option String
  jwtAlgorithm : String
  jwtIssuer : String
  customerJwtSecret : String
  customerJwtSecretFile : Option String
  customerJwtAlgorithm : String
  customerJwtIssuer : String

def devJwtSecret : String := "dev-jwt-secret-with-32-characters"

namespace Settings

def environments : List String := ["development", "test", "staging", "production"]

/-- The fields before `model_post_init`: what the environment has, else the
class default. -/
def read (env : Environ) : Settings where
  environment := (env "ENVIRONMENT").getD "development"
  jwtSecret := (env "JWT_SECRET").getD devJwtSecret
  jwtSecretFile := env "JWT_SECRET_FILE"
  jwtAlgorithm := (env "JWT_ALGORITHM").getD "HS256"
  jwtIssuer := (env "JWT_ISSUER").getD ""
  customerJwtSecret := (env "CUSTOMER_JWT_SECRET").getD ""
  customerJwtSecretFile := env "CUSTOMER_JWT_SECRET_FILE"
  customerJwtAlgorithm := (env "CUSTOMER_JWT_ALGORITHM").getD "HS256"
  customerJwtIssuer := (env "CUSTOMER_JWT_ISSUER").getD "service-order-auth-lambda/development"

/-- mirrors src/infrastructure/config/settings.py:103-119 -/
def modelPostInit (files : Files) (self : Settings) : Except SettingsError Settings := do
  let jwtSecret ← resolveSecret files self.jwtSecret self.jwtSecretFile "JWT_SECRET"
  let customerJwtSecret ← resolveSecret files self.customerJwtSecret self.customerJwtSecretFile
    "CUSTOMER_JWT_SECRET"
  return { self with
    jwtSecret := jwtSecret
    customerJwtSecret := customerJwtSecret
    jwtIssuer := if self.jwtIssuer = "" then s!"service-order-os-service/{self.environment}"
      else self.jwtIssuer }

/-- `Settings()` in an environment. -/
def load (env : Environ) (files : Files) : Except SettingsError Settings :=
  if (read env).environment ∉ environments then .error (.validation "ENVIRONMENT")
  else modelPostInit files (read env)

theorem load_ok {env : Environ} {files : Files} {settings : Settings}
    (h : load env files = .ok settings) :
    resolveSecret files (read env).jwtSecret (env "JWT_SECRET_FILE") "JWT_SECRET" =
        .ok settings.jwtSecret ∧
      resolveSecret files (read env).customerJwtSecret (env "CUSTOMER_JWT_SECRET_FILE")
        "CUSTOMER_JWT_SECRET" = .ok settings.customerJwtSecret ∧
      settings.jwtAlgorithm = (env "JWT_ALGORITHM").getD "HS256" := by
  unfold load at h
  split at h
  · cases h
  obtain ⟨jwtSecret, h₁, h⟩ := bind_ok h
  obtain ⟨customerJwtSecret, h₂, h⟩ := bind_ok h
  cases h
  exact ⟨h₁, h₂, rfl⟩

end Settings
end ServiceOrderOs.Api
