import ServiceOrderOs.L6Api.ServiceOrderRoutes
import ServiceOrderOs.L6Api.Settings

/-!
# Principals

The dependencies that turn the bearer token of a request into a principal and
guard the routes. What decodes and signs tokens is a parameter, `Jose`: its
`decode` is `none` where the library raises a `JWTError`.

* `resolvePrincipal_customer`, `resolvePrincipal_admin`: what a resolved
  principal says about its token.
-/
namespace ServiceOrderOs.Api
open Py

variable {T Tok α : Type}

/-- mirrors src/domain/auth.py:7-21 -/
structure AuthenticatedPrincipal where
  subject : String
  role : String
  customerId : Option String
  issuer : Option Json
  claims : Dict

def AuthenticatedPrincipal.isAdmin (self : AuthenticatedPrincipal) : Bool := self.role == "admin"

def AuthenticatedPrincipal.isCustomer (self : AuthenticatedPrincipal) : Bool :=
  self.role == "customer"

/-- `decode` has the token, the key, the algorithm and the issuer; `encode` the
payload, the key and the algorithm. -/
structure Jose (Tok : Type) where
  decode : Tok → String → String → String → Option Dict
  encode : Dict → String → String → Tok

/-- `d.get(key)` in a condition. -/
def truthyItem (d : Dict) (key : String) : Option Json := (d.get? key).filter (·.truthy)

/-- mirrors src/presentation/dependencies/auth.py:20-47 -/
def verifyCustomerToken (T : Type) [Runtime T] (jose : Jose Tok) (settings : Settings)
    (token : Tok) : Option AuthenticatedPrincipal :=
  if settings.customerJwtSecret = "" then none
  else match jose.decode token settings.customerJwtSecret settings.customerJwtAlgorithm
      settings.customerJwtIssuer with
    | none => none
    | some payload =>
      match payload.get? "role" with
      | some (.str "customer") =>
        match truthyItem payload "customer_id", truthyItem payload "sub" with
        | some customerId, some subject =>
          some ⟨subject.toStr T, "customer", some (customerId.toStr T), payload.get? "iss",
            payload⟩
        | _, _ => none
      | _ => none

/-- mirrors src/presentation/dependencies/auth.py:50-72 -/
def verifyAdminToken (T : Type) [Runtime T] (jose : Jose Tok) (settings : Settings)
    (token : Tok) : Option AuthenticatedPrincipal :=
  match jose.decode token settings.jwtSecret settings.jwtAlgorithm settings.jwtIssuer with
  | none => none
  | some payload =>
    match payload.get? "role" with
    | some (.str "admin") =>
      match (truthyItem payload "user_id").or (truthyItem payload "sub") with
      | some subject =>
        some ⟨subject.toStr T, "admin", none, payload.get? "iss", payload⟩
      | none => none
    | _ => none

/-- mirrors src/presentation/dependencies/auth.py:13-17 -/
def resolvePrincipal (T : Type) [Runtime T] (jose : Jose Tok) (settings : Settings)
    (token : Tok) : Option AuthenticatedPrincipal :=
  (verifyCustomerToken T jose settings token).or (verifyAdminToken T jose settings token)

/-! ## The dependencies -/

/-- What the bearer scheme finds in the request's header. -/
structure HTTPAuthorizationCredentials (Tok : Type) where
  scheme : String
  credentials : Tok

/-- mirrors src/presentation/dependencies/auth.py:75-94 -/
def getCurrentPrincipal (T : Type) [Runtime T] [Casefold T] (jose : Jose Tok) (settings : Settings)
    (credentials : Option (HTTPAuthorizationCredentials Tok)) :
    Except RouteError AuthenticatedPrincipal :=
  match credentials with
  | none => .error (.http 401 "Authentication token is required")
  | some c =>
    if casefold T c.scheme ≠ "bearer" then .error (.http 401 "Authentication token is required")
    else match resolvePrincipal T jose settings c.credentials with
      | none => .error (.http 403 "Invalid or expired token")
      | some principal => .ok principal

/-- mirrors src/presentation/dependencies/auth.py:97-105 -/
def requireAdminPrincipal (principal : AuthenticatedPrincipal) :
    Except RouteError AuthenticatedPrincipal :=
  if !principal.isAdmin then .error (.http 403 "Admin access required") else .ok principal

/-- mirrors src/presentation/dependencies/auth.py:108-116 -/
def requireCustomerOrAdminPrincipal (principal : AuthenticatedPrincipal) :
    Except RouteError AuthenticatedPrincipal :=
  if principal.role ∉ ["admin", "customer"] then .error (.http 403 "Unsupported principal role")
  else .ok principal

/-! ## What a principal says about its token -/

section Verified
variable [Runtime T] {jose : Jose Tok} {settings : Settings} {token : Tok}
  {principal : AuthenticatedPrincipal}

theorem truthyItem_some {d : Dict} {key : String} {v : Json} (h : truthyItem d key = some v) :
    d.get? key = some v ∧ v.truthy = true := by
  unfold truthyItem at h
  exact Option.filter_eq_some_iff.mp h

theorem verifyCustomerToken_some (h : verifyCustomerToken T jose settings token = some principal) :
    settings.customerJwtSecret ≠ "" ∧ ∃ payload customerId subject,
      jose.decode token settings.customerJwtSecret settings.customerJwtAlgorithm
        settings.customerJwtIssuer = some payload ∧
      payload.get? "role" = some (.str "customer") ∧
      payload.get? "customer_id" = some customerId ∧
      principal = ⟨subject, "customer", some (customerId.toStr T), payload.get? "iss",
        payload⟩ := by
  unfold verifyCustomerToken at h
  split at h
  · cases h
  rename_i hk
  split at h
  · cases h
  rename_i payload hd
  split at h
  · rename_i hrole
    split at h
    · rename_i customerId subject hc _
      cases h
      exact ⟨hk, payload, customerId, _, hd, hrole, (truthyItem_some hc).1, rfl⟩
    · cases h
  · cases h

theorem verifyAdminToken_some (h : verifyAdminToken T jose settings token = some principal) :
    ∃ payload subject,
      jose.decode token settings.jwtSecret settings.jwtAlgorithm settings.jwtIssuer =
        some payload ∧
      payload.get? "role" = some (.str "admin") ∧
      principal = ⟨subject, "admin", none, payload.get? "iss", payload⟩ := by
  unfold verifyAdminToken at h
  split at h
  · cases h
  rename_i payload hd
  split at h
  · rename_i hrole
    split at h
    · cases h; exact ⟨payload, _, hd, hrole, rfl⟩
    · cases h
  · cases h

/-- Only the customer verifier makes customers. -/
theorem resolvePrincipal_customer (h : resolvePrincipal T jose settings token = some principal)
    (hc : principal.isCustomer) : verifyCustomerToken T jose settings token = some principal := by
  unfold resolvePrincipal at h
  rcases Option.or_eq_some_iff.mp h with h | ⟨-, h⟩
  · exact h
  · obtain ⟨_, _, -, -, rfl⟩ := verifyAdminToken_some h
    exact absurd hc (by simp [AuthenticatedPrincipal.isCustomer])

/-- Only the admin verifier makes admins. -/
theorem resolvePrincipal_admin (h : resolvePrincipal T jose settings token = some principal)
    (ha : principal.isAdmin) : verifyAdminToken T jose settings token = some principal := by
  unfold resolvePrincipal at h
  rcases Option.or_eq_some_iff.mp h with h | ⟨-, h⟩
  · obtain ⟨-, _, _, _, -, -, -, rfl⟩ := verifyCustomerToken_some h
    exact absurd ha (by simp [AuthenticatedPrincipal.isAdmin])
  · exact h

end Verified
end ServiceOrderOs.Api
