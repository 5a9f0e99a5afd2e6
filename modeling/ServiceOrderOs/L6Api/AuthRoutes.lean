import ServiceOrderOs.L6Api.RegistryRoutes

/-!
# The auth routes

Registering and logging in as an administrator, which no dependency guards, and
`GET /auth/validate`. The salt of a hash and the expiry of a token are
arguments.
-/
namespace ServiceOrderOs.Api
open Py Domain App

variable {T Tok κ ν υ : Type} [Runtime T]

/-- mirrors src/presentation/api/routes/auth_routes.py:18-20 -/
structure RegisterRequest where
  email : String
  password : String

/-- mirrors src/presentation/api/routes/auth_routes.py:27-29 -/
structure LoginRequest where
  email : String
  password : String

/-- The payload of an administrator's token; `exp` as the library encodes it.
mirrors src/infrastructure/security/jwt_service.py:18-24 -/
def adminPayload (settings : Settings) (userId email : String) (exp : Int) : Dict :=
  [("user_id", .str userId), ("email", .str email), ("role", .str "admin"),
   ("iss", .str settings.jwtIssuer), ("exp", .int exp)]

/-- mirrors src/infrastructure/security/jwt_service.py:16-29 -/
def AdminJwtService.createToken (jose : Jose Tok) (settings : Settings) (exp : Int)
    (userId email : String) : Tok :=
  jose.encode (adminPayload settings userId email exp) settings.jwtSecret settings.jwtAlgorithm

section Users
variable (users : AdminUserRepository T υ) (hasher : PasswordHasher)

/-- mirrors src/presentation/api/routes/auth_routes.py:54-70 -/
def register (body : RegisterRequest) (salt : String) (g : Generated T) :
    RegistryRouteM κ ν υ Json :=
  (fun user => .obj [("user_id", .str user.userId)]) <$>
    respond valueErrorAs409
      (RegisterAdminUserUseCase.execute users hasher ⟨body.email, body.password⟩ salt g)

/-- mirrors src/presentation/api/routes/auth_routes.py:36-51 -/
def logIn (createToken : String → String → Tok) (email password : String) :
    RegistryRouteM κ ν υ Tok := do
  match ← respond .unhandled
      (LoginAdminUserUseCase.execute users hasher createToken ⟨email, password⟩) with
  | none => throw (.route (.http 401 "Invalid credentials"))
  | some token => return token

end Users

/-- The response schema of `/auth/validate` takes text or nothing as issuer. -/
def issuerField : Option Json → Option Json
  | none => some .null
  | some .null => some .null
  | some (.str s) => some (.str s)
  | _ => none

/-- mirrors src/presentation/api/routes/auth_routes.py:92-104 -/
def validateToken (T : Type) [Runtime T] (principal : AuthenticatedPrincipal) :
    Except ApiError Json :=
  match issuerField principal.issuer with
  | none => .error (.body 500)
  | some issuer =>
    .ok (.obj [("subject", .str principal.subject), ("role", .str principal.role),
      ("customer_id", optionalStr principal.customerId), ("issuer", issuer),
      ("email", match principal.claims.get? "email" with
        | none => .null
        | some v => .str (v.toStr T))])

end ServiceOrderOs.Api
