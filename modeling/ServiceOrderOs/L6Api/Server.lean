import ServiceOrderOs.Core.Lts
import ServiceOrderOs.L3App.SqlRegistries
import ServiceOrderOs.L6Api.AuthRoutes

/-!
# The server

The whole API as one state machine: the order repository with the publisher's
log, the three registries, and how many messages of the log have been drained.
A request is its credentials and its endpoint, with the body and what its
handling generates.

The framework reads a body before it runs the dependencies of a route and
checks it against the schema after them (`admitted`): a body that is no JSON is
refused whoever sends it, one that does not fit the schema only when its sender
may use the route.

* `ensureOn_memory`: the check of customer and vehicle is that of `UseCases`.
* `handle`: every route; `serverLts`: the requests one after the other.
* `guarded_cases`: what stands before a route.
-/
namespace ServiceOrderOs.Api
open Core Py Domain App

variable {T Tok σ κ ν υ α : Type} [Runtime T]

/-! ## State -/

/-- What `create_app` builds the application with. -/
structure AppState (T Tok σ κ ν υ : Type) where
  settings : Settings
  serviceOrders : ServiceOrderRepository T σ
  registries : Backend T κ ν υ
  passwordHasher : PasswordHasher
  jose : Jose Tok
  eventPublisher : Publisher T

structure Server (T σ κ ν υ : Type) where
  service : Service T σ
  stores : Stores κ ν υ
  drained : Nat

abbrev ApiM (T σ κ ν υ α : Type) := EStateM ApiError (Server T σ κ ν υ) α

/-- A route that uses the registries only. -/
def onStores (m : RegistryRouteM κ ν υ α) : ApiM T σ κ ν υ α := fun s =>
  match m.run s.stores with
  | .ok a stores => .ok a { s with stores := stores }
  | .error e stores => .error e { s with stores := stores }

omit [Runtime T] in
theorem onStores_run (m : RegistryRouteM κ ν υ α) (s : Server T σ κ ν υ) :
    (onStores m).run s = match m.run s.stores with
      | .ok a stores => .ok a { s with stores := stores }
      | .error e stores => .error e { s with stores := stores } := rfl

/-- A route of the service orders. -/
def onService (m : ServiceRouteM T σ α) : ApiM T σ κ ν υ α := fun s =>
  match m.run s.service with
  | .ok a service => .ok a { s with service := service }
  | .error e service => .error (.route e) { s with service := service }

def liftApi (x : Except ApiError α) : ApiM T σ κ ν υ α := fun s =>
  match x with
  | .ok a => .ok a s
  | .error e => .error e s

/-! ## The check of customer and vehicle -/

/-- With both registries present.
mirrors src/application/use_cases.py:57-69 -/
def ensureOn (b : Backend T κ ν υ) (s : Stores κ ν υ) (customerId vehicleId : String) :
    Except PyError Unit :=
  match b.customers.get customerId s.customers with
  | .error e => .error e
  | .ok customer =>
    if !customer.isActive then .error (.valueError "Customer is inactive")
    else match b.vehicles.get vehicleId s.vehicles with
      | .error e => .error e
      | .ok vehicle =>
        if vehicle.customerId ≠ customer.customerId then
          .error (.valueError "Vehicle does not belong to the informed customer")
        else .ok ()

omit [Runtime T] in
theorem ensureOn_memory [Casefold T] (s : MemoryStores T) (customerId vehicleId : String) :
    ensureOn memoryBackend s customerId vehicleId =
      OpenServiceOrderUseCase.ensureCustomerVehicleAreValid
        ⟨some s.customers.value, some s.vehicles.value⟩ customerId vehicleId := by
  simp only [ensureOn, OpenServiceOrderUseCase.ensureCustomerVehicleAreValid, memoryBackend,
    inMemoryCustomerRepository, inMemoryVehicleRepository, IdDict.get]
  cases s.customers.value customerId with
  | none => rfl
  | some customer =>
    simp only
    split
    · rfl
    · cases s.vehicles.value vehicleId <;> rfl

omit [Runtime T] in
/-- The customer and the vehicle of a pair that passes. -/
theorem ensureOn_ok {b : Backend T κ ν υ} {s : Stores κ ν υ} {customerId vehicleId : String}
    (h : ensureOn b s customerId vehicleId = .ok ()) :
    ∃ customer vehicle, b.customers.get customerId s.customers = .ok customer ∧
      b.vehicles.get vehicleId s.vehicles = .ok vehicle ∧
      vehicle.customerId = customer.customerId := by
  unfold ensureOn at h
  split at h
  · cases h
  rename_i customer hc
  split at h
  · cases h
  split at h
  · cases h
  rename_i vehicle hv
  split at h
  · cases h
  · rename_i hown
    exact ⟨customer, vehicle, hc, hv, not_not.mp hown⟩

/-! ## Requests -/

/-- A request's body: not readable (with the status of the refusal), readable
but not what the schema asks, or what the schema made of it. -/
inductive Body (α : Type) where
  | unreadable (statusCode : Nat)
  | invalid
  | valid (a : α)

/-- What comes before a route: its dependency `principal`, then the schema. -/
def admitted (principal : Except RouteError AuthenticatedPrincipal) :
    Body α → Except ApiError (AuthenticatedPrincipal × α)
  | .unreadable statusCode => .error (.body statusCode)
  | .invalid => match principal with
    | .error e => .error (.route e)
    | .ok _ => .error (.body 422)
  | .valid a => match principal with
    | .error e => .error (.route e)
    | .ok p => .ok (p, a)

/-- The schema of a route without dependencies. -/
def accepted : Body α → Except ApiError α
  | .unreadable statusCode => .error (.body statusCode)
  | .invalid => .error (.body 422)
  | .valid a => .ok a

/-- The routes, with what their handling generates. -/
inductive Endpoint (T : Type) where
  | register (body : Body RegisterRequest) (salt : String) (g : Generated T)
  | login (body : Body LoginRequest) (exp : Int)
  | token (form : Body LoginRequest) (exp : Int)
  | validateToken
  | createCustomer (payload : Body CustomerRequest) (g : Generated T)
  | listCustomers
  | getCustomer (customerId : String)
  | updateCustomer (customerId : String) (payload : Body CustomerRequest) (now : T)
  | deleteCustomer (customerId : String)
  | createVehicle (payload : Body VehicleRequest) (g : Generated T)
  | listVehicles (customerId : Option String)
  | getVehicle (vehicleId : String)
  | updateVehicle (vehicleId : String) (payload : Body VehicleRequest) (now : T)
  | deleteVehicle (vehicleId : String)
  | listPublishedEvents
  | drainPublishedEvents
  | openServiceOrder (payload : Body OpenServiceOrderRequest) (uuid : String) (now : T)
      (g : Stamp T)
  | getServiceOrder (serviceOrderId : String)
  | handleSagaEvent (serviceOrderId : String) (payload : Body SagaEventRequest) (eventId : String)
      (occurredAt : T) (g g' : Stamp T)

/-- The routes behind `require_admin_principal`. -/
def Endpoint.adminOnly : Endpoint T → Bool
  | .register .. | .login .. | .token .. | .validateToken => false
  | .openServiceOrder .. | .getServiceOrder .. => false
  | _ => true

/-- The routes with a dependency. -/
def Endpoint.authenticated : Endpoint T → Bool
  | .register .. | .login .. | .token .. => false
  | _ => true

structure Request (T Tok : Type) where
  credentials : Option (HTTPAuthorizationCredentials Tok)
  endpoint : Endpoint T

/-- A status and a JSON document, or the token of a login. -/
inductive Reply (Tok : Type) where
  | json (statusCode : Nat) (body : Json)
  | accessToken (token : Tok)

/-! ## The routes -/

/-- mirrors src/infrastructure/messaging/in_memory_event_publisher.py:16-17,
src/infrastructure/messaging/rabbitmq_blocking_publisher.py:59-61 -/
def publishedMessages (s : Server T σ κ ν υ) : List Dict :=
  (s.service.log.drop s.drained).map DomainEvent.toMessage

/-- mirrors src/presentation/api/routes/event_routes.py:13-19 -/
def listPublishedEvents : ApiM T σ κ ν υ Json := fun s =>
  .ok (.obj [("events", .arr ((publishedMessages s).map .obj))]) s

/-- mirrors src/presentation/api/routes/event_routes.py:22-28 -/
def drainPublishedEvents : ApiM T σ κ ν υ Json := fun s =>
  .ok (.obj [("events", .arr ((publishedMessages s).map .obj))])
    { s with drained := s.service.log.length }

/-- A route behind a dependency, with the status of its reply. -/
def guarded (principal : Except RouteError AuthenticatedPrincipal) (statusCode : Nat)
    (body : Body α) (route : AuthenticatedPrincipal → α → ApiM T σ κ ν υ Json) :
    ApiM T σ κ ν υ (Reply Tok) := do
  let (principal, a) ← liftApi (admitted principal body)
  return .json statusCode (← route principal a)

section Routes
variable [Casefold T] (app : AppState T Tok σ κ ν υ)

def currentPrincipal (credentials : Option (HTTPAuthorizationCredentials Tok)) :
    Except RouteError AuthenticatedPrincipal :=
  getCurrentPrincipal T app.jose app.settings credentials

/-- mirrors src/presentation/api/routes/auth_routes.py:73-89 -/
def loginRoute (body : Body LoginRequest) (exp : Int) : ApiM T σ κ ν υ (Reply Tok) := do
  let body ← liftApi (accepted body)
  return .accessToken (← onStores (logIn app.registries.users app.passwordHasher
    (AdminJwtService.createToken app.jose app.settings exp) body.email body.password))

def handle (r : Request T Tok) : ApiM T σ κ ν υ (Reply Tok) :=
  let customers := app.registries.customers
  let vehicles := app.registries.vehicles
  let current := currentPrincipal app r.credentials
  let admin := current >>= requireAdminPrincipal
  let customerOrAdmin := current >>= requireCustomerOrAdminPrincipal
  match r.endpoint with
  | .register body salt g => do
    let body ← liftApi (accepted body)
    return .json 201 (← onStores (register app.registries.users app.passwordHasher body salt g))
  | .login body exp => loginRoute app body exp
  | .token form exp => loginRoute app form exp
  | .validateToken =>
    guarded current 200 (.valid ()) fun principal _ => liftApi (validateToken T principal)
  | .createCustomer payload g =>
    guarded admin 201 payload fun _ payload => onStores (createCustomer customers payload g)
  | .listCustomers => guarded admin 200 (.valid ()) fun _ _ => onStores (listCustomers customers)
  | .getCustomer customerId =>
    guarded admin 200 (.valid ()) fun _ _ => onStores (getCustomer customers customerId)
  | .updateCustomer customerId payload now =>
    guarded admin 200 payload fun _ payload =>
      onStores (updateCustomer customers customerId payload now)
  | .deleteCustomer customerId =>
    guarded admin 200 (.valid ()) fun _ _ => onStores (deleteCustomer customers customerId)
  | .createVehicle payload g =>
    guarded admin 201 payload fun _ payload =>
      onStores (createVehicle vehicles customers payload g)
  | .listVehicles customerId =>
    guarded admin 200 (.valid ()) fun _ _ => onStores (listVehicles vehicles customerId)
  | .getVehicle vehicleId =>
    guarded admin 200 (.valid ()) fun _ _ => onStores (getVehicle vehicles vehicleId)
  | .updateVehicle vehicleId payload now =>
    guarded admin 200 payload fun _ payload =>
      onStores (updateVehicle vehicles customers vehicleId payload now)
  | .deleteVehicle vehicleId =>
    guarded admin 200 (.valid ()) fun _ _ => onStores (deleteVehicle vehicles vehicleId)
  | .listPublishedEvents => guarded admin 200 (.valid ()) fun _ _ => listPublishedEvents
  | .drainPublishedEvents => guarded admin 200 (.valid ()) fun _ _ => drainPublishedEvents
  | .openServiceOrder payload uuid now g =>
    guarded customerOrAdmin 201 payload fun principal payload s =>
      onService (Json.obj <$> openServiceOrder app.serviceOrders app.eventPublisher
        (ensureOn app.registries s.stores) principal payload uuid now g) s
  | .getServiceOrder serviceOrderId =>
    guarded customerOrAdmin 200 (.valid ()) fun principal _ =>
      onService (Json.obj <$> getServiceOrder app.serviceOrders principal serviceOrderId)
  | .handleSagaEvent serviceOrderId payload eventId occurredAt g g' =>
    guarded admin 200 payload fun principal payload =>
      onService (Json.obj <$> handleSagaEventOn app.serviceOrders app.eventPublisher principal
        serviceOrderId payload eventId occurredAt g g')

/-- What a request is answered with. -/
def reply (s : Server T σ κ ν υ) (r : Request T Tok) : Except ApiError (Reply Tok) :=
  (outcome ((handle app r).run s)).1

/-- The state a request leaves, whether or not it is refused. -/
def served (s : Server T σ κ ν υ) (r : Request T Tok) : Server T σ κ ν υ :=
  (outcome ((handle app r).run s)).2

/-- The requests one after the other. -/
def serverLts (start : Server T σ κ ν υ) : Lts (Server T σ κ ν υ) (Request T Tok) where
  init s := s = start
  step s r s' := s' = served app s r

end Routes

/-! ## What stands before a route -/

section Guarded
variable {principal : Except RouteError AuthenticatedPrincipal} {statusCode : Nat} {body : Body α}
  {route : AuthenticatedPrincipal → α → ApiM T σ κ ν υ Json}

omit [Runtime T] in
/-- The request is refused before the route, in whatever state, or the route
runs. -/
theorem guarded_cases :
    (∃ e, ∀ s, (guarded principal statusCode body route : ApiM T σ κ ν υ (Reply Tok)).run s =
        .error e s) ∨
      ∃ p a, principal = .ok p ∧ body = .valid a ∧
        ∀ s, (guarded principal statusCode body route : ApiM T σ κ ν υ (Reply Tok)).run s =
          match (route p a).run s with
          | .ok json s' => .ok (.json statusCode json) s'
          | .error e s' => .error e s' := by
  cases principal with
  | error e => cases body <;> exact .inl ⟨_, fun _ => rfl⟩
  | ok p =>
    cases body with
    | unreadable code => exact .inl ⟨_, fun _ => rfl⟩
    | invalid => exact .inl ⟨_, fun _ => rfl⟩
    | valid a =>
      refine .inr ⟨p, a, rfl, rfl, fun s => ?_⟩
      show EStateM.run (do return Reply.json statusCode (← route p a)) s = _
      rw [EStateM.run_bind]
      cases (route p a).run s <;> rfl

omit [Runtime T] in
theorem guarded_refused (h : ∃ e, principal = .error e) :
    ∃ e, ∀ s, (guarded principal statusCode body route : ApiM T σ κ ν υ (Reply Tok)).run s =
      .error e s := by
  obtain ⟨e, rfl⟩ := h
  rcases guarded_cases with he | ⟨p, a, hp, -⟩
  · exact he
  · cases hp

end Guarded

theorem requireAdmin_refused {x : Except RouteError AuthenticatedPrincipal}
    (h : ∀ p, x = .ok p → p.isAdmin = false) : ∃ e, (x >>= requireAdminPrincipal) = .error e := by
  cases x with
  | error e => exact ⟨e, rfl⟩
  | ok p =>
    refine ⟨.http 403 "Admin access required", ?_⟩
    show requireAdminPrincipal p = _
    rw [requireAdminPrincipal, h p rfl]
    rfl

theorem handle_adminOnly [Casefold T] (app : AppState T Tok σ κ ν υ) {r : Request T Tok}
    (h : r.endpoint.adminOnly = true) :
    ∃ (α : Type) (statusCode : Nat) (body : Body α)
      (route : AuthenticatedPrincipal → α → ApiM T σ κ ν υ Json),
      handle app r = guarded (currentPrincipal app r.credentials >>= requireAdminPrincipal)
        statusCode body route := by
  obtain ⟨credentials, endpoint⟩ := r
  cases endpoint with
  | register | login | token | validateToken | openServiceOrder | getServiceOrder => cases h
  | _ => simp only [handle]; exact ⟨_, _, _, _, rfl⟩

/-- Whoever is no administrator is refused there, in whatever state. -/
theorem adminOnly_refused [Casefold T] (app : AppState T Tok σ κ ν υ) {r : Request T Tok}
    (h : r.endpoint.adminOnly = true)
    (hno : ∀ p, currentPrincipal app r.credentials = .ok p → p.isAdmin = false) :
    ∃ e, ∀ s, (handle app r).run s = .error e s := by
  obtain ⟨α, statusCode, body, route, hr⟩ := handle_adminOnly app h
  rw [hr]
  exact guarded_refused (requireAdmin_refused hno)

/-! ## The two modes -/

/-- mirrors src/main.py:56-64 with src/infrastructure/runtime.py:44-101, in
memory -/
def memoryApp [Casefold T] (settings : Settings) (passwordHasher : PasswordHasher)
    (jose : Jose Tok) :
    AppState T Tok (InMemoryServiceOrders T) (IdDict (Customer T)) (IdDict (Vehicle T))
      (IdDict (AdminUser T)) :=
  ⟨settings, inMemoryServiceOrderRepository, memoryBackend, passwordHasher, jose, reliable⟩

def emptyMemoryServer :
    Server T (InMemoryServiceOrders T) (IdDict (Customer T)) (IdDict (Vehicle T))
      (IdDict (AdminUser T)) :=
  ⟨⟨.empty, []⟩, emptyMemory, 0⟩

/-- The same over the database and the broker. -/
def realApp (settings : Settings) (passwordHasher : PasswordHasher) (jose : Jose Tok)
    (loads : String → Except PyError Json) (eventPublisher : Publisher T) :
    AppState T Tok ServiceOrderTable CustomerTable VehicleTable AdminUserTable :=
  ⟨settings, sqlAlchemyServiceOrderRepository loads, sqlBackend, passwordHasher, jose,
    eventPublisher⟩

end ServiceOrderOs.Api
