import ServiceOrderOs.L4Runs.Opening
import ServiceOrderOs.L6Api.Escalation
import ServiceOrderOs.L6Api.ServerRuns

/-!
# Isolation of customers

What a request with a customer's token can show and change, over every guarded
route of the API. A customer reaches three routes: the rest is for
administrators.

* `handle_customer`: the request is refused, shows its own principal, opens an
  order or reads one. The other results are case analyses over these four.
* `customer_own`: one request, and `customer_noninterference`: two states.
* `customer_isolation`: one customer sees and changes nothing of another's.
-/
namespace ServiceOrderOs.Api
open Core Py Domain App

variable {T Tok σ κ ν υ α : Type} [Runtime T]

/-! ## The routes for a customer -/

omit [Runtime T] in
/-- Opening is refused in whatever state, or saves the order and publishes its
event, if the publisher takes it. -/
theorem openOn_cases (repo : ServiceOrderRepository T σ) (pub : Publisher T)
    (ensureValid : String → String → Except PyError Unit) (command : OpenServiceOrderCommand)
    (uuid : String) (now : T) (g : Stamp T) :
    (∃ e, ∀ s, (openOn repo pub ensureValid command uuid now g).run s = .error e s) ∨
      (ensureValid command.customerId command.vehicleId = .ok () ∧
        ∃ o : ServiceOrder T, Runs.OpenedFor command o ∧ o.serviceOrderId = uuid ∧
          ∀ s, (openOn repo pub ensureValid command uuid now g).run s =
            match pub (Runs.openedEvent command uuid g) with
            | none => .ok o ⟨repo.save o s.orders, s.log ++ [Runs.openedEvent command uuid g]⟩
            | some e => .error e ⟨repo.save o s.orders, s.log⟩) := by
  cases hv : ensureValid command.customerId command.vehicleId with
  | error e =>
    refine .inl ⟨e, fun s => ?_⟩
    simp only [openOn, hv, EStateM.run_bind]
    rfl
  | ok u =>
    cases ho : ServiceOrder.open command.customerId command.vehicleId command.description uuid
        now with
    | error e =>
      refine .inl ⟨e, fun s => ?_⟩
      simp only [openOn, hv, ho, EStateM.run_bind]
      rfl
    | ok o =>
      obtain ⟨-, -, -, hopened⟩ := ServiceOrder.open_ok ho
      have hstatus : o.status ∉ terminalStatuses := by
        rw [hopened]; exact (by decide : ServiceOrderStatus.opened ∉ terminalStatuses)
      have hquote : (ServiceOrder.requestQuote g).run o =
          .ok (Runs.openedEvent command uuid g)
            (o.moveTo .quoteRequested "Quote requested" g.createdAt) := by
        rw [ServiceOrder.requestQuote_run, if_neg hstatus, hopened]; rfl
      refine .inr ⟨rfl, o.moveTo .quoteRequested "Quote requested" g.createdAt, ?_, ?_,
        fun s => ?_⟩
      · rw [hopened]; exact ⟨rfl, rfl, rfl, rfl⟩
      · rw [hopened]; rfl
      · simp only [openOn, hv, ho, EStateM.run_bind, liftOn_run, callLocal_run, hquote,
          saveOn_run, publishOn_run]
        cases pub (Runs.openedEvent command uuid g) <;> rfl

section CustomerRoutes
variable {principal : AuthenticatedPrincipal} {c : String}

omit [Runtime T] in
theorem customer_admitted (hrole : principal.isCustomer = true) :
    requireCustomerOrAdminPrincipal principal = .ok principal := by
  have hr : principal.role = "customer" := by simpa [AuthenticatedPrincipal.isCustomer] using hrole
  simp [requireCustomerOrAdminPrincipal, hr]

/-- A customer opens orders of its own only. -/
theorem openServiceOrder_customer (hrole : principal.isCustomer = true)
    (hid : principal.customerId = some c) (repo : ServiceOrderRepository T σ) (pub : Publisher T)
    (ensureValid : String → String → Except PyError Unit) (payload : OpenServiceOrderRequest)
    (uuid : String) (now : T) (g : Stamp T) (s : Service T σ) :
    (openServiceOrder repo pub ensureValid principal payload uuid now g).run s =
      if payload.customerId = c then
        (respondOn (toRouteError T) (openOn repo pub ensureValid
          ⟨c, payload.vehicleId, payload.description⟩ uuid now g)).run s
      else
        .error (.http 403 "Customer token cannot create service orders for another customer")
          s := by
  simp only [openServiceOrder, EStateM.run_bind, guardOn_run, customer_admitted hrole, hrole, hid,
    true_and, if_true, optionStr]
  by_cases hc : payload.customerId = c
  · rw [if_pos hc, if_neg (fun h => h (congrArg some hc))]
  · rw [if_neg hc, if_pos (fun h => hc (Option.some.inj h))]
    rfl

/-- And reads its own only. -/
theorem getServiceOrder_customer (hrole : principal.isCustomer = true)
    (hid : principal.customerId = some c) (repo : ServiceOrderRepository T σ)
    (serviceOrderId : String) (s : Service T σ) :
    (getServiceOrder repo principal serviceOrderId).run s =
      match repo.get serviceOrderId s.orders with
      | .error e => .error (toReadError T e) s
      | .ok o =>
        if o.customerId = c then .ok (serviceOrderToResponse o) s
        else .error (.http 403 "Customer token cannot access another customer's service order")
          s := by
  simp only [getServiceOrder, EStateM.run_bind, EStateM.run_get, guardOn_run,
    customer_admitted hrole, hrole, hid, true_and]
  cases repo.get serviceOrderId s.orders with
  | error e => rfl
  | ok o =>
    simp only [Except.mapError]
    by_cases hc : o.customerId = c
    · rw [if_pos hc, if_neg (fun h => h (congrArg some hc))]
      rfl
    · rw [if_neg hc, if_pos (fun h => hc (Option.some.inj h))]
      rfl

end CustomerRoutes

/-! ## The requests of a customer -/

/-- The credentials of the request resolve to a principal of customer `c`. -/
structure AsCustomer [Casefold T] (app : AppState T Tok σ κ ν υ) (c : String)
    (principal : AuthenticatedPrincipal) (r : Request T Tok) : Prop where
  resolved : currentPrincipal app r.credentials = .ok principal
  role : principal.isCustomer = true
  customerId : principal.customerId = some c

/-- The reply of an order route, as the server's. -/
def answered (statusCode : Nat) (s : Server T σ κ ν υ) :
    EStateM.Result RouteError (Service T σ) Dict →
      EStateM.Result ApiError (Server T σ κ ν υ) (Reply Tok)
  | .ok d service => .ok (.json statusCode (.obj d)) { s with service := service }
  | .error e service => .error (.route e) { s with service := service }

section Requests
variable [Casefold T] {app : AppState T Tok σ κ ν υ} {c : String}
  {principal : AuthenticatedPrincipal} {r : Request T Tok}

omit [Runtime T] [Casefold T] in
/-- An order route behind a dependency that lets `principal` through. -/
theorem guarded_service (Tok : Type) {deps : Except RouteError AuthenticatedPrincipal}
    (hdeps : deps = .ok principal) (statusCode : Nat) (body : Body α)
    (route : AuthenticatedPrincipal → α → Server T σ κ ν υ → ServiceRouteM T σ Dict) :
    (∃ e, ∀ s, (guarded deps statusCode body
        (fun p a s => onService (Json.obj <$> route p a s) s) :
        ApiM T σ κ ν υ (Reply Tok)).run s = .error e s) ∨
      ∃ a, body = .valid a ∧ ∀ s, (guarded deps statusCode body
        (fun p a s => onService (Json.obj <$> route p a s) s) :
        ApiM T σ κ ν υ (Reply Tok)).run s =
          answered statusCode s ((route principal a s).run s.service) := by
  rcases guarded_cases (T := T) with he | ⟨p, a, hp, ha, hrun⟩
  · exact .inl he
  · rw [hdeps] at hp
    cases hp
    refine .inr ⟨a, ha, fun s => ?_⟩
    rw [hrun s]
    have hm := map_run Json.obj (route principal a s) s.service
    simp only [onService, EStateM.run] at hm ⊢
    rw [hm]
    cases route principal a s s.service <;> rfl

/-- What a customer's request does, in four cases. -/
theorem handle_customer (h : AsCustomer app c principal r)
    (hauth : r.endpoint.authenticated = true) :
    -- refused, in whatever state
    (∃ e, ∀ s, (handle app r).run s = .error e s) ∨
    -- the principal shown to itself
    (∃ json, validateToken T principal = .ok json ∧
      ∀ s, (handle app r).run s = .ok (.json 200 json) s) ∨
    -- an order opened for the customer
    (∃ payload uuid now g, r.endpoint = .openServiceOrder (.valid payload) uuid now g ∧
      ∀ s, (handle app r).run s = answered 201 s ((respondOn (toRouteError T)
        (openOn app.serviceOrders app.eventPublisher (ensureOn app.registries s.stores)
          ⟨c, payload.vehicleId, payload.description⟩ uuid now g)).run s.service)) ∨
    -- an order read
    ∃ serviceOrderId, ∀ s, (handle app r).run s = answered 200 s
      ((getServiceOrder app.serviceOrders principal serviceOrderId).run s.service) := by
  have hcurrent := h.resolved
  by_cases hadmin : r.endpoint.adminOnly = true
  · refine .inl (adminOnly_refused app hadmin fun p hp => ?_)
    rw [hcurrent] at hp
    cases hp
    have hr : principal.role = "customer" := by
      simpa [AuthenticatedPrincipal.isCustomer] using h.role
    simp [AuthenticatedPrincipal.isAdmin, hr]
  have hdeps : (currentPrincipal app r.credentials >>= requireCustomerOrAdminPrincipal) =
      .ok principal := by
    rw [hcurrent]; exact customer_admitted h.role
  obtain ⟨credentials, endpoint⟩ := r
  cases endpoint with
  | register | login | token => cases hauth
  | validateToken =>
    simp only [handle]
    rcases guarded_cases (T := T) with he | ⟨p, a, hp, -, hrun⟩
    · exact .inl he
    · rw [hcurrent] at hp
      cases hp
      cases hv : validateToken T principal with
      | error e => exact .inl ⟨e, fun s => by rw [hrun s, hv]; rfl⟩
      | ok json => exact .inr (.inl ⟨json, rfl, fun s => by rw [hrun s, hv]; rfl⟩)
  | openServiceOrder body uuid now g =>
    simp only [handle]
    rcases guarded_service Tok hdeps 201 body fun p payload (s : Server T σ κ ν υ) =>
        openServiceOrder app.serviceOrders app.eventPublisher (ensureOn app.registries s.stores) p
          payload uuid now g with he | ⟨payload, rfl, hrun⟩
    · exact .inl he
    · simp only [openServiceOrder_customer h.role h.customerId] at hrun
      by_cases hc : payload.customerId = c
      · simp only [if_pos hc] at hrun
        exact .inr (.inr (.inl ⟨payload, uuid, now, g, rfl, hrun⟩))
      · simp only [if_neg hc] at hrun
        exact .inl ⟨_, hrun⟩
  | getServiceOrder serviceOrderId =>
    simp only [handle]
    rcases guarded_service Tok hdeps 200 (.valid ()) fun p _ (_ : Server T σ κ ν υ) =>
        getServiceOrder app.serviceOrders p serviceOrderId with he | ⟨a, -, hrun⟩
    · exact .inl he
    · exact .inr (.inr (.inr ⟨serviceOrderId, hrun⟩))
  | _ => exact absurd rfl hadmin

end Requests

/-! ## What a customer's request shows and changes -/

section Isolation
variable [Casefold T] (app : AppState T Tok σ κ ν υ) (c : String)

/-- The order is the customer's, for a vehicle that is the customer's now, and
the event announces it. -/
structure OpensOwn (s : Server T σ κ ν υ) (o : ServiceOrder T) (event : DomainEvent T) :
    Prop where
  customerId : o.customerId = c
  vehicle : ∃ vehicle, app.registries.vehicles.get o.vehicleId s.stores.vehicles = .ok vehicle ∧
    vehicle.customerId = c
  eventType : event.eventType = "OS_OPENED"
  correlationId : event.correlationId = o.serviceOrderId

/-- What customer `c` is shown is about its principal or an order of its own. -/
def ShowsOwn (principal : AuthenticatedPrincipal) (s : Server T σ κ ν υ) (r : Request T Tok) :
    Prop :=
  ∀ answer, reply app s r = .ok answer → ∃ code json, answer = .json code json ∧
    (validateToken T principal = .ok json ∨
      ∃ o : ServiceOrder T, o.customerId = c ∧ json = .obj (serviceOrderToResponse o))

/-- What it changes is one order of its own more, under the id the request
generated, and its event. -/
def ChangesOwn (s : Server T σ κ ν υ) (r : Request T Tok) : Prop :=
  served app s r = s ∨ ∃ payload uuid now g o event,
    r.endpoint = .openServiceOrder payload uuid now g ∧ o.serviceOrderId = uuid ∧
    OpensOwn app c s o event ∧
    (served app s r =
        { s with service := ⟨app.serviceOrders.save o s.service.orders, s.service.log⟩ } ∨
      served app s r =
        { s with service := ⟨app.serviceOrders.save o s.service.orders,
                             s.service.log ++ [event]⟩ })

/-- The states have the same registries, and under each id orders of one owner. -/
structure SameOwners (s t : Server T σ κ ν υ) : Prop where
  stores : s.stores = t.stores
  owners : ∀ id, (app.serviceOrders.get id s.service.orders).map (·.customerId) =
    (app.serviceOrders.get id t.service.orders).map (·.customerId)

structure OwnOnly (principal : AuthenticatedPrincipal) (s : Server T σ κ ν υ)
    (r : Request T Tok) : Prop where
  shown : ShowsOwn app c principal s r
  /-- an error tells nothing of any order but whose it is -/
  refused : ∀ e, reply app s r = .error e → ∀ t, SameOwners app s t → reply app t r = .error e
  changed : ChangesOwn app c s r
  /-- the orders there were stay as they were -/
  kept : ∀ id, (∀ payload uuid now g, r.endpoint = .openServiceOrder payload uuid now g →
      id ≠ uuid) →
    app.serviceOrders.get id (served app s r).service.orders =
      app.serviceOrders.get id s.service.orders

/-- What two order stores answer for one id: the same, or orders of one owner
who is not `c`. -/
inductive SameToOwner : Except PyError (ServiceOrder T) → Except PyError (ServiceOrder T) → Prop
  | missing (e : PyError) : SameToOwner (.error e) (.error e)
  | own (o : ServiceOrder T) (h : o.customerId = c) : SameToOwner (.ok o) (.ok o)
  | foreign (o o' : ServiceOrder T) (h : o.customerId ≠ c) (h' : o'.customerId = o.customerId) :
      SameToOwner (.ok o) (.ok o')

/-- The states have the same customers and vehicles, and their order stores
differ at most in the contents of orders that are not `c`'s. -/
structure SameView (s t : Server T σ κ ν υ) : Prop where
  customers : s.stores.customers = t.stores.customers
  vehicles : s.stores.vehicles = t.stores.vehicles
  orders : ∀ id, SameToOwner c (app.serviceOrders.get id s.service.orders)
    (app.serviceOrders.get id t.service.orders)

/-- Of every customer and every request of it to a guarded route. -/
def Isolates (s : Server T σ κ ν υ) : Prop :=
  ∀ c principal (r : Request T Tok), AsCustomer app c principal r →
    r.endpoint.authenticated = true →
    OwnOnly app c principal s r ∧ ∀ t, SameView app c s t → reply app s r = reply app t r

end Isolation

section Isolated
variable [Casefold T] {app : AppState T Tok σ κ ν υ} {c : String}
  {principal : AuthenticatedPrincipal} {r : Request T Tok} {s t : Server T σ κ ν υ}

theorem reply_eq {x : EStateM.Result ApiError (Server T σ κ ν υ) (Reply Tok)}
    (h : (handle app r).run s = x) : reply app s r = (outcome x).1 := by rw [reply, h]

theorem served_eq {x : EStateM.Result ApiError (Server T σ κ ν υ) (Reply Tok)}
    (h : (handle app r).run s = x) : served app s r = (outcome x).2 := by rw [served, h]

/-- What a customer is answered for an order that was looked up. -/
def readReply (Tok : Type) (c : String) :
    Except PyError (ServiceOrder T) → Except ApiError (Reply Tok)
  | .error e => .error (.route (toReadError T e))
  | .ok o =>
    if o.customerId = c then .ok (.json 200 (.obj (serviceOrderToResponse o)))
    else .error (.route
      (.http 403 "Customer token cannot access another customer's service order"))

/-- Reading shows what the store has under the id, and changes nothing. -/
theorem read_served (h : AsCustomer app c principal r) {serviceOrderId : String}
    (hrun : ∀ s, (handle app r).run s = answered 200 s
      ((getServiceOrder app.serviceOrders principal serviceOrderId).run s.service))
    (s : Server T σ κ ν υ) :
    reply app s r = readReply Tok c (app.serviceOrders.get serviceOrderId s.service.orders) ∧
      served app s r = s := by
  rw [reply_eq (hrun s), served_eq (hrun s), getServiceOrder_customer h.role h.customerId]
  cases app.serviceOrders.get serviceOrderId s.service.orders with
  | error e => exact ⟨rfl, rfl⟩
  | ok o => by_cases hc : o.customerId = c <;> simp only [readReply, hc, if_true, if_false] <;>
      exact ⟨rfl, rfl⟩

omit [Casefold T] in
theorem readReply_ok {x : Except PyError (ServiceOrder T)} {answer : Reply Tok}
    (h : readReply Tok c x = .ok answer) :
    ∃ o : ServiceOrder T, o.customerId = c ∧
      answer = .json 200 (.obj (serviceOrderToResponse o)) := by
  cases x with
  | error e => cases h
  | ok o =>
    by_cases hc : o.customerId = c
    · simp only [readReply, if_pos hc] at h
      exact ⟨o, hc, (Except.ok.inj h).symm⟩
    · simp only [readReply, if_neg hc] at h
      cases h

omit [Casefold T] in
/-- A refused reading depends on whose the order is only. -/
theorem readReply_refused {x y : Except PyError (ServiceOrder T)} {e : ApiError}
    (h : readReply Tok c x = .error e) (hxy : x.map (·.customerId) = y.map (·.customerId)) :
    readReply Tok c y = .error e := by
  cases x with
  | error e' => cases y with
    | error e₁ => cases hxy; exact h
    | ok o' => cases hxy
  | ok o => cases y with
    | error e₁ => cases hxy
    | ok o' =>
      have howner : o.customerId = o'.customerId := Except.ok.inj hxy
      by_cases hc : o.customerId = c
      · simp only [readReply, if_pos hc] at h; cases h
      · simp only [readReply, if_neg hc] at h
        simp only [readReply, if_neg (howner ▸ hc : ¬ o'.customerId = c)]; exact h

omit [Casefold T] in
theorem SameToOwner.readReply_eq {x y : Except PyError (ServiceOrder T)} (h : SameToOwner c x y) :
    readReply Tok c x = readReply Tok c y := by
  cases h with
  | missing e => rfl
  | own o hc => rfl
  | foreign o o' hc hc' => simp only [readReply, hc', if_neg hc]

/-- Where the registries agree, opening an order is answered alike. -/
theorem open_reply {payload : OpenServiceOrderRequest} {uuid : String} {now : T} {g : Stamp T}
    (hrun : ∀ s, (handle app r).run s = answered 201 s ((respondOn (toRouteError T)
      (openOn app.serviceOrders app.eventPublisher (ensureOn app.registries s.stores)
        ⟨c, payload.vehicleId, payload.description⟩ uuid now g)).run s.service))
    (hens : ensureOn app.registries s.stores = ensureOn app.registries t.stores) :
    reply app s r = reply app t r := by
  rw [reply_eq (hrun s), reply_eq (hrun t), hens, respondOn_run, respondOn_run]
  rcases openOn_cases app.serviceOrders app.eventPublisher (ensureOn app.registries t.stores)
      ⟨c, payload.vehicleId, payload.description⟩ uuid now g with
    ⟨e, he⟩ | ⟨-, o, -, -, hopen⟩
  · rw [he s.service, he t.service]; rfl
  · rw [hopen s.service, hopen t.service]
    cases app.eventPublisher
      (Runs.openedEvent ⟨c, payload.vehicleId, payload.description⟩ uuid g) <;> rfl

theorem customer_served (h : AsCustomer app c principal r)
    (hauth : r.endpoint.authenticated = true)
    (hfiled : ∀ id customer, app.registries.customers.get id s.stores.customers = .ok customer →
      customer.customerId = id) : ShowsOwn app c principal s r ∧ ChangesOwn app c s r := by
  rcases handle_customer h hauth with ⟨e, he⟩ | ⟨json, hv, hrun⟩ |
    ⟨payload, uuid, now, g, hend, hrun⟩ | ⟨serviceOrderId, hrun⟩
  · refine ⟨fun answer ha => ?_, .inl (served_eq (he s))⟩
    rw [reply_eq (he s)] at ha; cases ha
  · refine ⟨fun answer ha => ?_, .inl (served_eq (hrun s))⟩
    rw [reply_eq (hrun s)] at ha; cases ha
    exact ⟨200, json, rfl, .inl hv⟩
  · rcases openOn_cases app.serviceOrders app.eventPublisher (ensureOn app.registries s.stores)
        ⟨c, payload.vehicleId, payload.description⟩ uuid now g with
      ⟨e, he⟩ | ⟨hens, o, ho, hid, hopen⟩
    · have hs := hrun s
      rw [respondOn_run, he s.service] at hs
      refine ⟨fun answer ha => ?_, .inl (served_eq hs)⟩
      rw [reply_eq hs] at ha; cases ha
    · obtain ⟨customer, vehicle, hc, hv, hown⟩ := ensureOn_ok hens
      have hvehicle : vehicle.customerId = c := hown.trans (hfiled c customer hc)
      have hopens : OpensOwn app c s o
          (Runs.openedEvent ⟨c, payload.vehicleId, payload.description⟩ uuid g) :=
        ⟨ho.customerId, ⟨vehicle, by rw [ho.vehicleId]; exact hv, hvehicle⟩, rfl, hid.symm⟩
      have hs := hrun s
      rw [respondOn_run, hopen s.service] at hs
      cases hpub : app.eventPublisher
          (Runs.openedEvent ⟨c, payload.vehicleId, payload.description⟩ uuid g) with
      | none =>
        rw [hpub] at hs
        refine ⟨fun answer ha => ?_,
          .inr ⟨_, uuid, now, g, o, _, hend, hid, hopens, .inr (served_eq hs)⟩⟩
        rw [reply_eq hs] at ha; cases ha
        exact ⟨201, _, rfl, .inr ⟨o, ho.customerId, rfl⟩⟩
      | some e =>
        rw [hpub] at hs
        refine ⟨fun answer ha => ?_,
          .inr ⟨_, uuid, now, g, o, _, hend, hid, hopens, .inl (served_eq hs)⟩⟩
        rw [reply_eq hs] at ha; cases ha
  · obtain ⟨hreply, hserved⟩ := read_served h hrun s
    refine ⟨fun answer ha => ?_, .inl hserved⟩
    obtain ⟨o, hc, rfl⟩ := readReply_ok (hreply.symm.trans ha)
    exact ⟨200, _, rfl, .inr ⟨o, hc, rfl⟩⟩

theorem customer_refused (h : AsCustomer app c principal r)
    (hauth : r.endpoint.authenticated = true) {e : ApiError} (he : reply app s r = .error e)
    (hsame : SameOwners app s t) : reply app t r = .error e := by
  rcases handle_customer h hauth with ⟨e', hrun⟩ | ⟨json, -, hrun⟩ |
    ⟨payload, uuid, now, g, -, hrun⟩ | ⟨serviceOrderId, hrun⟩
  · rw [reply_eq (hrun s)] at he
    rw [reply_eq (hrun t)]; exact he
  · rw [reply_eq (hrun s)] at he; cases he
  · rw [← he]
    exact (open_reply hrun (by rw [hsame.stores])).symm
  · rw [(read_served h hrun s).1] at he
    rw [(read_served h hrun t).1]
    exact readReply_refused he (hsame.owners serviceOrderId)

/-- A customer's request over a repository that files orders by their ids. -/
theorem customer_own (hfiles : app.serviceOrders.Files) (h : AsCustomer app c principal r)
    (hauth : r.endpoint.authenticated = true)
    (hfiled : ∀ id customer, app.registries.customers.get id s.stores.customers = .ok customer →
      customer.customerId = id) : OwnOnly app c principal s r := by
  obtain ⟨hshown, hchanged⟩ := customer_served h hauth hfiled
  refine ⟨hshown, fun e he t ht => customer_refused h hauth he ht, hchanged, fun id hid => ?_⟩
  rcases hchanged with hs | ⟨payload, uuid, now, g, o, event, hend, ho, -, hs⟩
  · rw [hs]
  · have hne : id ≠ o.serviceOrderId := ho ▸ hid payload uuid now g hend
    rcases hs with hs | hs <;> rw [hs] <;> exact hfiles o id _ hne

/-- Two states that look the same to a customer answer it alike. -/
theorem customer_noninterference (h : AsCustomer app c principal r)
    (hauth : r.endpoint.authenticated = true) (hview : SameView app c s t) :
    reply app s r = reply app t r := by
  rcases handle_customer h hauth with ⟨e, he⟩ | ⟨json, -, hrun⟩ |
    ⟨payload, uuid, now, g, -, hrun⟩ | ⟨serviceOrderId, hrun⟩
  · rw [reply_eq (he s), reply_eq (he t)]; rfl
  · rw [reply_eq (hrun s), reply_eq (hrun t)]; rfl
  · refine open_reply hrun ?_
    funext customerId vehicleId
    simp only [ensureOn, hview.customers, hview.vehicles]
  · rw [(read_served h hrun s).1, (read_served h hrun t).1]
    exact (hview.orders serviceOrderId).readReply_eq

end Isolated

/-! ## The two modes -/

omit [Runtime T] in
theorem memory_filed [Casefold T] {s : MemoryStores T} (h : App.Registered s) {id : String}
    {customer : Customer T}
    (hget : memoryBackend.customers.get id s.customers = .ok customer) :
    customer.customerId = id :=
  h.customersFiled _ (inMemory_get hget)

theorem sql_filed {s : SqlStores} {id : String} {customer : Customer T}
    (hget : (sqlBackend (T := T)).customers.get id s.customers = .ok customer) :
    customer.customerId = id := by
  simp only [sqlBackend, sqlAlchemyCustomerRepository, tableGet] at hget
  split at hget
  · rename_i row hrow
    obtain ⟨_, -, hget⟩ := bind_ok hget
    obtain ⟨_, -, hget⟩ := bind_ok hget
    cases hget
    have hkey : row.customerId = id := Keyed.find_key hrow
    exact hkey
  · cases hget

/-- **Customers are isolated from one another.** In every state the server can
reach in memory, and in every state over the database: each request of a
customer to a guarded route shows and changes only its own, and its reply is
the same in every state that differs in the contents of others' orders only. -/
theorem customer_isolation [Casefold T] (settings : Settings) (hasher : PasswordHasher)
    (jose : Jose Tok) (loads : String → Except PyError Json) (pub : Publisher T) :
    (∀ s, (serverLts (memoryApp settings hasher jose) emptyMemoryServer).Reachable s →
      Isolates (memoryApp settings hasher jose : AppState T Tok _ _ _ _) s) ∧
    ∀ s, Isolates (realApp settings hasher jose loads pub) s := by
  constructor
  · intro s hs c principal r h hauth
    have hr := memory_registered settings hasher jose hs
    exact ⟨customer_own inMemory_files h hauth fun id customer hget => memory_filed hr hget,
      fun t hview => customer_noninterference h hauth hview⟩
  · intro s c principal r h hauth
    exact ⟨customer_own (sqlAlchemy_files loads) h hauth fun id customer hget => sql_filed hget,
      fun t hview => customer_noninterference h hauth hview⟩

/-! ## A concrete visit -/

/-- An administrator registers another customer and opens its order. -/
def exFiling : List (Request Utc SymbolicToken) :=
  [⟨exCredentials exAccessToken, .createCustomer
      (.valid ⟨"Rui", none, "rui@example.com", "11999990000", true⟩)
      (Runs.exGenerated "customer-2")⟩,
   ⟨exCredentials exAccessToken, .createVehicle
      (.valid ⟨"customer-2", "Fiat", "Uno", 2010, "ABC1D23"⟩) (Runs.exGenerated "vehicle-2")⟩,
   ⟨exCredentials exAccessToken, .openServiceOrder
      (.valid ⟨"customer-2", "vehicle-2", "Brake inspection"⟩) "order-2" exUtc
      (exUtcStamp "event-1")⟩]

def exFiled : Server Utc (InMemoryServiceOrders Utc) (IdDict (Customer Utc))
    (IdDict (Vehicle Utc)) (IdDict (AdminUser Utc)) :=
  exFiling.foldl (served exApp) emptyMemoryServer

theorem exFiled_reachable : (serverLts exApp emptyMemoryServer).Reachable exFiled :=
  ⟨emptyMemoryServer, exFiling, rfl, .cons rfl (.cons rfl (.cons rfl (.nil _)))⟩

def exVisitor : AuthenticatedPrincipal :=
  ⟨"customer-1", "customer", some "customer-1",
    some (.str "service-order-auth-lambda/development"), exCustomerClaims⟩

/-- A customer asks for the order of the other. -/
def exVisit : Request Utc SymbolicToken :=
  ⟨exCredentials exCustomerToken, .getServiceOrder "order-2"⟩

theorem customer_isolation_visit :
    (∃ o : ServiceOrder Utc, exApp.serviceOrders.get "order-2" exFiled.service.orders = .ok o) ∧
      OwnOnly exApp "customer-1" exVisitor exFiled exVisit ∧
      reply exApp exFiled exVisit = .error (.route
        (.http 403 "Customer token cannot access another customer's service order")) :=
  ⟨⟨_, rfl⟩,
   ((customer_isolation _ _ _ (fun _ => .error (.valueError "")) reliable).1 exFiled
      exFiled_reachable "customer-1" exVisitor exVisit ⟨rfl, rfl, rfl⟩ rfl).1, rfl⟩

end ServiceOrderOs.Api
