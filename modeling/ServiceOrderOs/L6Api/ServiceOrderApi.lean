import ServiceOrderOs.L3App.SqlServiceOrders
import ServiceOrderOs.L6Api.Auth

/-!
# The service order routes over any repository

The three routes under `/service-orders`, called with the principal of the
request and a body the schema has accepted. What a call generates (ids, times)
is an argument, so two runs are compared with the same.

* `eventsOn_store`: over the store of the earlier layers the events route is
  that of `ServiceOrderRoutes`.
* `serve_alike`: over repositories that answer alike no request tells which
  one it met.
* `modes_agree`: whole runs over the in-memory and the SQL repository.
-/
namespace ServiceOrderOs.Api
open Core Py Domain App

variable {T σ τ α : Type} [Runtime T]

abbrev ServiceRouteM (T σ α : Type) := EStateM RouteError (Service T σ) α

/-- mirrors src/presentation/api/routes/service_order_routes.py:24-27 -/
structure OpenServiceOrderRequest where
  customerId : String
  vehicleId : String
  description : String

def guardOn (x : Except RouteError α) : ServiceRouteM T σ α := fun s =>
  match x with
  | .ok a => .ok a s
  | .error e => .error e s

omit [Runtime T] in
theorem guardOn_run (x : Except RouteError α) (s : Service T σ) :
    (guardOn x).run s = match x with
      | .ok a => .ok a s
      | .error e => .error e s := rfl

/-- The `try` around a use case and the response after it. -/
def respondOn (errors : PyError → RouteError) (m : ServiceM T σ (ServiceOrder T)) :
    ServiceRouteM T σ Dict := fun s =>
  match m.run s with
  | .ok serviceOrder s' => .ok (serviceOrderToResponse serviceOrder) s'
  | .error e s' => .error (errors e) s'

theorem respondOn_run (errors : PyError → RouteError) (m : ServiceM T σ (ServiceOrder T))
    (s : Service T σ) :
    (respondOn errors m).run s = match m.run s with
      | .ok serviceOrder s' => .ok (serviceOrderToResponse serviceOrder) s'
      | .error e s' => .error (errors e) s' := rfl

/-- `str(principal.customer_id)` -/
def optionStr : Option String → String
  | some s => s
  | none => "None"

/-- mirrors src/presentation/api/routes/service_order_routes.py:55-93 -/
def openServiceOrder (repo : ServiceOrderRepository T σ) (pub : Publisher T)
    (ensureValid : String → String → Except PyError Unit) (principal : AuthenticatedPrincipal)
    (payload : OpenServiceOrderRequest) (uuid : String) (now : T) (g : Stamp T) :
    ServiceRouteM T σ Dict := do
  let principal ← guardOn (requireCustomerOrAdminPrincipal principal)
  if principal.isCustomer ∧ some payload.customerId ≠ principal.customerId then
    throw (.http 403 "Customer token cannot create service orders for another customer")
  let customerId :=
    if principal.isCustomer then optionStr principal.customerId else payload.customerId
  respondOn (toRouteError T)
    (openOn repo pub ensureValid ⟨customerId, payload.vehicleId, payload.description⟩ uuid now g)

/-- The one `except` clause of the read. -/
def toReadError (T : Type) [Runtime T] : PyError → RouteError
  | .keyError key => toRouteError T (.keyError key)
  | e => .unhandled e

/-- mirrors src/presentation/api/routes/service_order_routes.py:96-113 -/
def getServiceOrder (repo : ServiceOrderRepository T σ) (principal : AuthenticatedPrincipal)
    (serviceOrderId : String) : ServiceRouteM T σ Dict := do
  let principal ← guardOn (requireCustomerOrAdminPrincipal principal)
  let serviceOrder ← guardOn ((repo.get serviceOrderId (← get).orders).mapError (toReadError T))
  if principal.isCustomer ∧ some serviceOrder.customerId ≠ principal.customerId then
    throw (.http 403 "Customer token cannot access another customer's service order")
  return serviceOrderToResponse serviceOrder

/-- mirrors src/presentation/api/routes/service_order_routes.py:116-145 -/
def handleSagaEventOn (repo : ServiceOrderRepository T σ) (pub : Publisher T)
    (principal : AuthenticatedPrincipal) (serviceOrderId : String) (payload : SagaEventRequest)
    (eventId : String) (occurredAt : T) (g g' : Stamp T) : ServiceRouteM T σ Dict := do
  let _ ← guardOn (requireAdminPrincipal principal)
  respondOn (toRouteError T)
    (handleOn repo pub (requestEvent serviceOrderId payload eventId occurredAt) g g')

/-- An administrator's events go the way of `ServiceOrderRoutes`. -/
theorem eventsOn_store (mode : RuntimeMode) (pub : Publisher T)
    {principal : AuthenticatedPrincipal} (hp : principal.isAdmin) (serviceOrderId : String)
    (payload : SagaEventRequest) (eventId : String) (occurredAt : T) (g g' : Stamp T) :
    Alike SameService
      (handleSagaEvent mode pub serviceOrderId payload eventId occurredAt g g')
      (handleSagaEventOn (storeRepository mode) pub principal serviceOrderId payload eventId
        occurredAt g g') := by
  intro s t h
  have hx := handleOn_store mode pub (requestEvent serviceOrderId payload eventId occurredAt) g g'
    s t h
  have hguard : requireAdminPrincipal principal = .ok principal := by
    simp [requireAdminPrincipal, hp]
  simp only [handleSagaEventOn, EStateM.run_bind, hguard]
  simp only [guardOn, respondOn, handleSagaEvent, EStateM.run] at hx ⊢
  generalize HandleSagaEventUseCase.execute mode pub _ g g' s = x at hx
  generalize handleOn (storeRepository mode) pub _ g g' t = y at hx
  cases hx with
  | ok o h' => exact .ok _ h'
  | error e h' => exact .error _ h'

/-! ## Requests -/

/-- A request, with what its handling generates. -/
inductive ServiceOrderRequest (T : Type) where
  | «open» (principal : AuthenticatedPrincipal) (payload : OpenServiceOrderRequest)
      (uuid : String) (now : T) (g : Stamp T)
  | read (principal : AuthenticatedPrincipal) (serviceOrderId : String)
  | sagaEvent (principal : AuthenticatedPrincipal) (serviceOrderId : String)
      (payload : SagaEventRequest) (eventId : String) (occurredAt : T) (g g' : Stamp T)

def serve (repo : ServiceOrderRepository T σ) (pub : Publisher T)
    (ensureValid : String → String → Except PyError Unit) :
    ServiceOrderRequest T → ServiceRouteM T σ Dict
  | .open principal payload uuid now g =>
    openServiceOrder repo pub ensureValid principal payload uuid now g
  | .read principal serviceOrderId => getServiceOrder repo principal serviceOrderId
  | .sagaEvent principal serviceOrderId payload eventId occurredAt g g' =>
    handleSagaEventOn repo pub principal serviceOrderId payload eventId occurredAt g g'

/-- What a request returns or raises, and the state it leaves. -/
def outcome {ε σ α : Type} : EStateM.Result ε σ α → Except ε α × σ
  | .ok a s => (.ok a, s)
  | .error e s => (.error e, s)

/-- The requests one after the other: their outcomes in order, and the last
state. -/
def serveAll (repo : ServiceOrderRepository T σ) (pub : Publisher T)
    (ensureValid : String → String → Except PyError Unit) :
    List (ServiceOrderRequest T) → Service T σ → List (Except RouteError Dict) × Service T σ
  | [], s => ([], s)
  | r :: rs, s =>
    let (out, s') := outcome ((serve repo pub ensureValid r).run s)
    let (outs, s'') := serveAll repo pub ensureValid rs s'
    (out :: outs, s'')

/-! ## Agreement -/

section Agreement
variable {r : ServiceOrderRepository T σ} {r' : ServiceOrderRepository T τ} {R : σ → τ → Prop}

omit [Runtime T] in
theorem guardOn_alike (x : Except RouteError α) :
    Alike (SameLog R) (guardOn x : ServiceRouteM T σ α) (guardOn x) := by
  intro s t h
  cases x with
  | ok a => exact .ok a h
  | error e => exact .error e h

theorem respondOn_alike (errors : PyError → RouteError) {m : ServiceM T σ (ServiceOrder T)}
    {n : ServiceM T τ (ServiceOrder T)} (h : Alike (SameLog R) m n) :
    Alike (SameLog R) (respondOn errors m) (respondOn errors n) := by
  intro s t hs
  have hx := h s t hs
  simp only [respondOn, EStateM.run] at hx ⊢
  generalize m s = x at hx
  generalize n t = y at hx
  cases hx with
  | ok o h' => exact .ok _ h'
  | error e h' => exact .error _ h'

theorem getServiceOrder_alike (hr : Simulates r r' R) (principal : AuthenticatedPrincipal)
    (serviceOrderId : String) :
    Alike (SameLog R) (getServiceOrder r principal serviceOrderId)
      (getServiceOrder r' principal serviceOrderId) := by
  have hread : Alike (SameLog R)
      (do guardOn ((r.get serviceOrderId (← get).orders).mapError (toReadError T)) :
        ServiceRouteM T σ _)
      (do guardOn ((r'.get serviceOrderId (← get).orders).mapError (toReadError T))) := by
    intro s t h
    have hg := hr.get _ _ h.orders serviceOrderId
    simp only [EStateM.run_bind, EStateM.run_get]
    rw [hg]
    exact guardOn_alike _ s t h
  refine (guardOn_alike _).bind fun p => hread.bind fun o => ?_
  exact .branch (fun _ => .throw _) fun _ => .pure _

/-- **No request tells two repositories apart that answer alike.** -/
theorem serve_alike (hr : Simulates r r' R) (pub : Publisher T)
    (ensureValid : String → String → Except PyError Unit) (req : ServiceOrderRequest T) :
    Alike (SameLog R) (serve r pub ensureValid req) (serve r' pub ensureValid req) := by
  cases req with
  | «open» principal payload uuid now g =>
    refine (guardOn_alike _).bind fun p => Alike.branch (fun _ => .throw _) fun _ => ?_
    exact respondOn_alike _ (openOn_alike hr pub ensureValid _ uuid now g)
  | read principal serviceOrderId => exact getServiceOrder_alike hr principal serviceOrderId
  | sagaEvent principal serviceOrderId payload eventId occurredAt g g' =>
    refine (guardOn_alike _).bind fun _ => ?_
    exact respondOn_alike _ (handleOn_alike hr pub _ g g')

theorem serveAll_alike (hr : Simulates r r' R) (pub : Publisher T)
    (ensureValid : String → String → Except PyError Unit) (rs : List (ServiceOrderRequest T))
    {s : Service T σ} {t : Service T τ} (h : SameLog R s t) :
    (serveAll r pub ensureValid rs s).1 = (serveAll r' pub ensureValid rs t).1 ∧
      SameLog R (serveAll r pub ensureValid rs s).2 (serveAll r' pub ensureValid rs t).2 := by
  induction rs generalizing s t with
  | nil => exact ⟨rfl, h⟩
  | cons req rs ih =>
    have hx := serve_alike hr pub ensureValid req s t h
    simp only [serveAll]
    generalize (serve r pub ensureValid req).run s = x at hx
    generalize (serve r' pub ensureValid req).run t = y at hx
    cases hx with
    | ok d h' =>
      obtain ⟨h₁, h₂⟩ := ih h'
      exact ⟨congrArg (Except.ok d :: ·) h₁, h₂⟩
    | error e h' =>
      obtain ⟨h₁, h₂⟩ := ih h'
      exact ⟨congrArg (Except.error e :: ·) h₁, h₂⟩

end Agreement

/-- **Memory mode and real mode agree on service orders.** For every content of
the registries and every finite sequence of requests, served one after the
other from empty stores with a publisher that does not fail: the same outcome
for each request, the same published events, and the same order or the same
error under every id. -/
theorem modes_agree (hiso : IsoRoundTrip T) (loads : String → Except PyError Json)
    (regs : Registries T) (rs : List (ServiceOrderRequest T)) :
    let ensureValid := OpenServiceOrderUseCase.ensureCustomerVehicleAreValid regs
    let memory := serveAll inMemoryServiceOrderRepository reliable ensureValid rs ⟨.empty, []⟩
    let real := serveAll (sqlAlchemyServiceOrderRepository loads) reliable ensureValid rs
      ⟨.empty, []⟩
    memory.1 = real.1 ∧ memory.2.log = real.2.log ∧
      ∀ id, inMemoryServiceOrderRepository.get id memory.2.orders =
        (sqlAlchemyServiceOrderRepository loads).get id real.2.orders := by
  intro ensureValid memory real
  have hsim := memory_simulates_sql hiso loads
  obtain ⟨hout, hend⟩ := serveAll_alike hsim reliable ensureValid rs
    (s := ⟨.empty, []⟩) (t := ⟨.empty, []⟩) ⟨fun _ => rfl, rfl⟩
  exact ⟨hout, hend.log, hsim.get _ _ hend.orders⟩

def exUtc : Utc := ⟨Runs.exNow, by decide⟩

def exAdmin : AuthenticatedPrincipal := ⟨"user-1", "admin", none, none, []⟩

def exUtcStamp (eventId : String) : Stamp Utc := ⟨exUtc, eventId, exUtc⟩

/-- An order opened, an event it refuses, and a look at it. -/
def exRequests : List (ServiceOrderRequest Utc) :=
  [.open exAdmin ⟨"customer-1", "vehicle-1", "Brake inspection"⟩ "os-1" exUtc
    (exUtcStamp "event-1"),
   .sagaEvent exAdmin "os-1" ⟨"EXECUTION_STARTED", "os-1", []⟩ "event-2" exUtc
    (exUtcStamp "event-3") (exUtcStamp "event-4"),
   .read exAdmin "os-1"]

def exServed {σ : Type} (repo : ServiceOrderRepository Utc σ) (orders : σ) :
    List (Except RouteError Dict) × Service Utc σ :=
  serveAll repo reliable
    (OpenServiceOrderUseCase.ensureCustomerVehicleAreValid (T := Utc) ⟨none, none⟩) exRequests
    ⟨orders, []⟩

/-- With a driver that never returns text. -/
def exSql : ServiceOrderRepository Utc ServiceOrderTable :=
  sqlAlchemyServiceOrderRepository fun _ => .error (.valueError "Expecting value")

theorem modes_agree_refused :
    (exServed inMemoryServiceOrderRepository .empty).1 = (exServed exSql .empty).1 ∧
      (exServed exSql .empty).1.map (·.isOk) = [true, false, true] :=
  ⟨(modes_agree utc_roundTrip _ ⟨none, none⟩ exRequests).1, rfl⟩

end ServiceOrderOs.Api
