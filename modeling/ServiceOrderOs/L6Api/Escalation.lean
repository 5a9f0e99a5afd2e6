import ServiceOrderOs.L4Runs.Registries
import ServiceOrderOs.L6Api.Server
import ServiceOrderOs.L6Api.TrustRoot

/-!
# Escalation to administrator

A client that holds no token of an administrator and no password of an admin
user, against the server. What it can send is decided by what it knows: the
tokens it can present (those it was given or can make itself, and every access
token a reply has brought it) and the passwords it can type. Tokens being
unforgeable and passwords known to who chose them, an `Outsider` starts with no
token that resolves to an administrator and no password that verifies against
an admin user's hash.

`POST /auth/register` makes an administrator of whoever calls it.

* `handle_outsider`: what a request of an outsider can do that registers
  nobody.
* `no_escalation`: an outsider whose registrations are refused stays one.
* `registered_admin`: one that registers is an administrator two requests
  later.
-/
namespace ServiceOrderOs.Api
open Core Py Domain App

variable {T Tok σ κ ν υ α : Type} [Runtime T]

/-! ## The client -/

/-- The server and the tokens the client can present to it. -/
structure Session (T Tok σ κ ν υ : Type) where
  server : Server T σ κ ν υ
  holds : Tok → Prop

/-- The request is within what the client knows. -/
structure Sendable (knows : String → Prop) (holds : Tok → Prop) (r : Request T Tok) : Prop where
  token : ∀ c, r.credentials = some c → holds c.credentials
  password : ∀ body exp,
    r.endpoint = .login (.valid body) exp ∨ r.endpoint = .token (.valid body) exp →
    knows body.password

/-- A reply may bring a token. -/
def learned (holds : Tok → Prop) : Except ApiError (Reply Tok) → Tok → Prop
  | .ok (.accessToken token), t => holds t ∨ t = token
  | _, t => holds t

section Client
variable [Casefold T] (app : AppState T Tok σ κ ν υ) (knows : String → Prop)

/-- The requests of the client, one after the other. -/
def clientLts (start : Session T Tok σ κ ν υ) :
    Lts (Session T Tok σ κ ν υ) (Request T Tok) where
  init s := s = start
  step s r s' := Sendable knows s.holds r ∧
    s' = ⟨served app s.server r, learned s.holds (reply app s.server r)⟩

structure Outsider (s : Session T Tok σ κ ν υ) : Prop where
  tokens : ∀ token principal, s.holds token →
    resolvePrincipal T app.jose app.settings token = some principal → principal.isAdmin = false
  passwords : ∀ email user password,
    app.registries.users.findByEmail email s.server.stores.users = .ok (some user) →
    knows password → app.passwordHasher.verifyPassword password user.passwordHash ≠ .ok true

/-- Whatever the client can send to a route of administrators is refused and
changes nothing. -/
def Confined (s : Session T Tok σ κ ν υ) : Prop :=
  ∀ r : Request T Tok, Sendable knows s.holds r → r.endpoint.adminOnly = true →
    (∃ e, reply app s.server r = .error e) ∧ served app s.server r = s.server

/-- The request is no registration with an acceptable body and an email that
no user is registered with. -/
def RegistersNobody (s : Session T Tok σ κ ν υ) (r : Request T Tok) : Prop :=
  ∀ body salt g, r.endpoint = .register (.valid body) salt g →
    app.registries.users.findByEmail body.email s.server.stores.users ≠ .ok none

end Client

/-! ## What is refused -/

omit [Runtime T] in
theorem register_refused {users : AdminUserRepository T υ} {body : RegisterRequest}
    {s : Stores κ ν υ} (h : users.findByEmail body.email s.users ≠ .ok none)
    (hasher : PasswordHasher) (salt : String) (g : Generated T) :
    ∃ e, (register users hasher body salt g : RegistryRouteM κ ν υ Json).run s = .error e s := by
  have hcheck : ∃ e, RegisterAdminUserUseCase.check users ⟨body.email, body.password⟩ s.users =
      .error e := by
    cases hc : RegisterAdminUserUseCase.check users ⟨body.email, body.password⟩ s.users with
    | error e => exact ⟨e, rfl⟩
    | ok u => exact absurd (RegisterAdminUserUseCase.check_ok hc) h
  obtain ⟨e, he⟩ := hcheck
  refine ⟨.route (valueErrorAs409 e), ?_⟩
  rw [register, map_run, respond_run, registerAdminUser_run, he]

omit [Runtime T] in
theorem logIn_refused {users : AdminUserRepository T υ} {hasher : PasswordHasher}
    {email password : String} {s : Stores κ ν υ}
    (h : ∀ user, users.findByEmail email s.users = .ok (some user) →
      hasher.verifyPassword password user.passwordHash ≠ .ok true)
    (createToken : String → String → Tok) :
    ∃ e, (logIn users hasher createToken email password : RegistryRouteM κ ν υ Tok).run s =
      .error e s := by
  rw [logIn, EStateM.run_bind, respond_run, loginAdminUser_asks, ask_run]
  cases hf : users.findByEmail email s.users with
  | error e => exact ⟨_, rfl⟩
  | ok found =>
    cases found with
    | none => exact ⟨_, rfl⟩
    | some user =>
      simp only [found_bind, granted]
      cases hv : hasher.verifyPassword password user.passwordHash with
      | error e => exact ⟨_, rfl⟩
      | ok verified =>
        cases verified with
        | true => exact absurd hv (h user hf)
        | false => exact ⟨_, rfl⟩

/-- Dependencies that resolve a request's credentials. -/
theorem currentPrincipal_ok [Casefold T] {app : AppState T Tok σ κ ν υ}
    {credentials : Option (HTTPAuthorizationCredentials Tok)} {p : AuthenticatedPrincipal}
    (h : currentPrincipal app credentials = .ok p) :
    ∃ c, credentials = some c ∧
      resolvePrincipal T app.jose app.settings c.credentials = some p := by
  unfold currentPrincipal getCurrentPrincipal at h
  split at h
  · cases h
  rename_i c
  split at h
  · cases h
  split at h
  · cases h
  · rename_i hp
    cases h
    exact ⟨c, rfl, hp⟩

/-! ## One request of an outsider -/

/-- The result brings no token and leaves the registries. -/
def Harmless (s : Server T σ κ ν υ) :
    EStateM.Result ApiError (Server T σ κ ν υ) (Reply Tok) → Prop
  | .ok (.json _ _) s' => s'.stores = s.stores
  | .ok (.accessToken _) _ => False
  | .error _ s' => s'.stores = s.stores

omit [Runtime T] in
theorem guarded_harmless {principal : Except RouteError AuthenticatedPrincipal}
    (statusCode : Nat) (body : Body α)
    {route : AuthenticatedPrincipal → α → ApiM T σ κ ν υ Json} {s : Server T σ κ ν υ}
    (hroute : ∀ p a, (outcome ((route p a).run s)).2.stores = s.stores) :
    Harmless s
      ((guarded principal statusCode body route : ApiM T σ κ ν υ (Reply Tok)).run s) := by
  rcases guarded_cases (T := T) with ⟨e, he⟩ | ⟨p, a, -, -, hrun⟩
  · rw [he]; exact rfl
  · have hstores := hroute p a
    rw [hrun]
    cases hr : (route p a).run s <;> rw [hr] at hstores <;> exact hstores

omit [Runtime T] in
theorem refused_harmless {m : ApiM T σ κ ν υ (Reply Tok)} {s : Server T σ κ ν υ}
    (h : ∃ e, m.run s = .error e s) : Harmless s (m.run s) := by
  obtain ⟨e, he⟩ := h
  rw [he]; exact rfl

omit [Runtime T] in
theorem onService_stores (m : ServiceRouteM T σ α) (s : Server T σ κ ν υ) :
    (outcome ((onService m : ApiM T σ κ ν υ α).run s)).2.stores = s.stores := by
  simp only [onService, EStateM.run]
  cases m s.service <;> rfl

section Requests
variable [Casefold T] {app : AppState T Tok σ κ ν υ} {knows : String → Prop}
  {s : Session T Tok σ κ ν υ} {r : Request T Tok}

/-- The credentials of an outsider are no administrator's. -/
theorem Outsider.not_admin (h : Outsider app knows s) (hsend : Sendable knows s.holds r) :
    ∀ p, currentPrincipal app r.credentials = .ok p → p.isAdmin = false := by
  intro p hp
  obtain ⟨c, hc, hres⟩ := currentPrincipal_ok hp
  exact h.tokens _ _ (hsend.token c hc) hres

theorem Outsider.confined (h : Outsider app knows s) (hsend : Sendable knows s.holds r)
    (hadmin : r.endpoint.adminOnly = true) :
    ∃ e, (handle app r).run s.server = .error e s.server := by
  obtain ⟨e, he⟩ := adminOnly_refused app hadmin (h.not_admin hsend)
  exact ⟨e, he s.server⟩

omit [Casefold T] in
theorem Outsider.login_refused (h : Outsider app knows s) {body : Body LoginRequest} (exp : Int)
    (hknows : ∀ b, body = .valid b → knows b.password) :
    ∃ e, (loginRoute app body exp).run s.server = .error e s.server := by
  cases body with
  | unreadable code => exact ⟨_, rfl⟩
  | invalid => exact ⟨_, rfl⟩
  | valid b =>
    have hno := fun user hf => h.passwords b.email user b.password hf (hknows b rfl)
    obtain ⟨e, he⟩ := logIn_refused hno (AdminJwtService.createToken app.jose app.settings exp)
    refine ⟨e, ?_⟩
    show EStateM.run (do return Reply.accessToken (← onStores (logIn app.registries.users
      app.passwordHasher _ b.email b.password))) s.server = _
    rw [EStateM.run_bind]
    simp only [onStores, EStateM.run] at he ⊢
    rw [he]

/-- What an outsider sends without registering anybody brings it no token and
leaves the registries. -/
theorem handle_outsider (h : Outsider app knows s) (hsend : Sendable knows s.holds r)
    (hreg : RegistersNobody app s r) :
    Harmless s.server ((handle app r).run s.server) := by
  by_cases hadmin : r.endpoint.adminOnly = true
  · exact refused_harmless (h.confined hsend hadmin)
  obtain ⟨credentials, endpoint⟩ := r
  cases endpoint with
  | register body salt g =>
    cases body with
    | unreadable code => exact rfl
    | invalid => exact rfl
    | valid b =>
      obtain ⟨e, he⟩ := register_refused (hreg b salt g rfl) app.passwordHasher salt g
      refine refused_harmless ⟨e, ?_⟩
      show EStateM.run (do return Reply.json 201 (← onStores
        (register app.registries.users app.passwordHasher b salt g))) s.server = _
      rw [EStateM.run_bind]
      simp only [onStores, EStateM.run] at he ⊢
      rw [he]
  | login body exp =>
    exact refused_harmless (h.login_refused exp fun b hb =>
      hsend.password b exp (.inl (by rw [hb])))
  | token form exp =>
    exact refused_harmless (h.login_refused exp fun b hb =>
      hsend.password b exp (.inr (by rw [hb])))
  | validateToken =>
    simp only [handle]
    refine guarded_harmless _ _ fun p _ => ?_
    simp only [liftApi, EStateM.run]
    cases validateToken T p <;> rfl
  | openServiceOrder payload uuid now g =>
    simp only [handle]
    exact guarded_harmless _ _ fun p a => onService_stores _ _
  | getServiceOrder serviceOrderId =>
    simp only [handle]
    exact guarded_harmless _ _ fun p _ => onService_stores _ _
  | _ => exact absurd rfl hadmin

theorem outsider_step (h : Outsider app knows s) {s' : Session T Tok σ κ ν υ}
    (hreg : RegistersNobody app s r) (hstep : (clientLts app knows s).step s r s') :
    Outsider app knows s' := by
  obtain ⟨hsend, rfl⟩ := hstep
  have hharm := handle_outsider h hsend hreg
  simp only [reply, served]
  cases hr : (handle app r).run s.server with
  | error e s₁ =>
    rw [hr] at hharm
    have hstores : s₁.stores = s.server.stores := hharm
    exact ⟨h.tokens, fun email user password hf => h.passwords email user password
      (by rw [← hstores]; exact hf)⟩
  | ok reply s₁ =>
    rw [hr] at hharm
    cases reply with
    | accessToken token => exact hharm.elim
    | json code json =>
      have hstores : s₁.stores = s.server.stores := hharm
      exact ⟨h.tokens, fun email user password hf => h.passwords email user password
        (by rw [← hstores]; exact hf)⟩

end Requests

/-- **No escalation without a registration.** From every state of the server,
over any repositories: in every run of requests of a client that starts with no
token of an administrator and no password of an admin user, none of which is an
acceptable registration of a new email, every request it can send to a route of
administrators is refused and changes nothing, throughout. -/
theorem no_escalation [Casefold T] (app : AppState T Tok σ κ ν υ) (knows : String → Prop)
    {start : Session T Tok σ κ ν υ} (h : Outsider app knows start) (ls : List (Request T Tok))
    (hreg : (clientLts app knows start).Along (RegistersNobody app) start ls) :
    (clientLts app knows start).Always (Confined app knows) start ls := by
  refine Lts.always_of_along (I := Outsider app knows) (fun s hs r hsend hadmin => ?_)
    (fun s r s' hs hC hstep => outsider_step hs hC hstep) h hreg
  obtain ⟨e, he⟩ := hs.confined hsend hadmin
  simp only [reply, served, he, outcome]
  exact ⟨⟨e, rfl⟩, trivial⟩

/-! ## Concrete clients -/

def exCustomerClaims : Dict :=
  [("sub", .str "customer-1"), ("customer_id", .str "customer-1"), ("role", .str "customer"),
   ("iss", .str "service-order-auth-lambda/development")]

/-- What the customers' login has given the client. -/
def exCustomerToken : SymbolicToken := ⟨exCustomerClaims, "customer-secret", "HS256"⟩

def exApp : AppState Utc SymbolicToken (InMemoryServiceOrders Utc) (IdDict (Customer Utc))
    (IdDict (Vehicle Utc)) (IdDict (AdminUser Utc)) :=
  memoryApp
    { exSettings (some "") "jwt-secret-from-file" with customerJwtSecret := "customer-secret" }
    Runs.exHasher symbolicJose

def exCredentials (token : SymbolicToken) : Option (HTTPAuthorizationCredentials SymbolicToken) :=
  some ⟨"Bearer", token⟩

def exRegister (email password : String) : Request Utc SymbolicToken :=
  ⟨none, .register (.valid ⟨email, password⟩) "salt" (Runs.exGenerated "user-2")⟩

def exLogin (email password : String) : Request Utc SymbolicToken :=
  ⟨none, .login (.valid ⟨email, password⟩) 1767229200⟩

/-- The client knows the password it would choose for itself. -/
def exKnows (password : String) : Prop := password = "secret123"

def exHolds (token : SymbolicToken) : Prop := token = exCustomerToken

theorem exCustomerToken_resolves :
    resolvePrincipal Utc exApp.jose exApp.settings exCustomerToken =
      some ⟨"customer-1", "customer", some "customer-1",
        some (.str "service-order-auth-lambda/development"), exCustomerClaims⟩ := rfl

theorem exHolds_customer (token : SymbolicToken) (principal : AuthenticatedPrincipal)
    (h : exHolds token)
    (hp : resolvePrincipal Utc exApp.jose exApp.settings token = some principal) :
    principal.isAdmin = false := by
  rw [show token = exCustomerToken from h, exCustomerToken_resolves] at hp
  cases hp
  rfl

/-- One admin user, whose password the client does not know. -/
def exOneAdmin : Session Utc SymbolicToken (InMemoryServiceOrders Utc) (IdDict (Customer Utc))
    (IdDict (Vehicle Utc)) (IdDict (AdminUser Utc)) where
  server := served exApp emptyMemoryServer (exRegister "admin@example.com" "hunter22")
  holds := exHolds

/-- The client tries the email that is taken, then a password. -/
def exAttempts : List (Request Utc SymbolicToken) :=
  [exRegister "admin@example.com" "secret123", exLogin "admin@example.com" "secret123",
   ⟨exCredentials exCustomerToken, .listCustomers⟩]

theorem no_escalation_attempts :
    (clientLts exApp exKnows exOneAdmin).Always (Confined exApp exKnows) exOneAdmin exAttempts := by
  refine no_escalation exApp exKnows ⟨exHolds_customer, ?_⟩ exAttempts ?_
  · intro email user password hf hknows
    obtain ⟨id, hid, -⟩ := IdDict.first_some (Except.ok.inj hf)
    rw [show password = "secret123" from hknows]
    cases List.mem_singleton.mp hid
    decide
  · refine Lts.along_cons.mpr fun s₁ _ => ⟨?_, Lts.along_cons.mpr fun s₂ _ => ⟨?_,
      Lts.along_cons.mpr fun s₃ _ => ⟨?_, Lts.along_nil⟩⟩⟩
    · intro body salt g hb
      cases hb
      exact fun h => by cases h
    · exact fun _ _ _ hb => by cases hb
    · exact fun _ _ _ hb => by cases hb

def exFirst : Session Utc SymbolicToken (InMemoryServiceOrders Utc) (IdDict (Customer Utc))
    (IdDict (Vehicle Utc)) (IdDict (AdminUser Utc)) :=
  ⟨emptyMemoryServer, exHolds⟩

/-- The client registers itself and logs in. -/
def exRegistration : List (Request Utc SymbolicToken) :=
  [exRegister "ana@example.com" "secret123", exLogin "ana@example.com" "secret123"]

def exAccessToken : SymbolicToken :=
  AdminJwtService.createToken exApp.jose exApp.settings 1767229200 "user-2" "ana@example.com"

/-- It then reads the customers with the token of the reply. -/
theorem registered_admin :
    Outsider exApp exKnows exFirst ∧
      ¬ (clientLts exApp exKnows exFirst).Always (Confined exApp exKnows) exFirst
        exRegistration := by
  refine ⟨⟨exHolds_customer, ?_⟩, fun h => ?_⟩
  · intro email user password hf
    cases hf
  · have hsend₁ : Sendable exKnows exHolds (exRegister "ana@example.com" "secret123") := by
      refine ⟨fun c hc => (by cases hc), fun body exp hb => ?_⟩
      rcases hb with hb | hb <;> cases hb
    have hsend₂ : Sendable exKnows exHolds (exLogin "ana@example.com" "secret123") := by
      refine ⟨fun c hc => (by cases hc), fun body exp hb => ?_⟩
      rcases hb with hb | hb <;> cases hb
      rfl
    have hsend₃ : Sendable exKnows (fun t => exHolds t ∨ t = exAccessToken)
        (⟨exCredentials exAccessToken, .listCustomers⟩ : Request Utc SymbolicToken) := by
      refine ⟨fun c hc => ?_, fun body exp hb => ?_⟩
      · cases hc; exact .inr rfl
      rcases hb with hb | hb <;> cases hb
    have hend := h exRegistration [] _ (List.append_nil _).symm
      (.cons ⟨hsend₁, rfl⟩ (.cons ⟨hsend₂, rfl⟩ (.nil _)))
    obtain ⟨⟨e, he⟩, -⟩ := hend ⟨exCredentials exAccessToken, .listCustomers⟩ hsend₃ rfl
    have hok : Except.error e = Except.ok (Reply.json 200 (.arr [])) := he.symm.trans rfl
    cases hok

end ServiceOrderOs.Api
