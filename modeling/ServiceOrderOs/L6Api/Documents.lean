import ServiceOrderOs.L6Api.PutBack

/-!
# The API as a store of documents

A client sees documents: `POST` returns one, `PUT` says that one has the fields
it was sent, as its schema reads them, `DELETE` that there is none any more.
`Documents` keeps what the replies have said, and nothing else of the server.

* `documents_step`: one request, of whatever client.
* `answers_documents`: after any run the documents decide the reply to every
  `GET` and every `DELETE`.
-/
namespace ServiceOrderOs.Api
open Core Py Domain App Runs

variable {T Tok σ κ ν υ α : Type} [Runtime T]

/-! ## What the replies have said -/

/-- The documents there are, under the ids in them. -/
structure Documents where
  customers : IdDict Json
  vehicles : IdDict Json
  serviceOrders : IdDict Json

def Documents.empty : Documents := ⟨.empty, .empty, .empty⟩

/-- The text of a document under a key. -/
def textAt (key : String) : Json → String
  | .obj d => match Dict.get? d key with
    | some (.str s) => s
    | _ => ""
  | _ => ""

/-- The document of a customer that has been sent these fields. -/
def customerDocument (customerId : String) (a : CustomerRequest) : Json :=
  .obj [("customer_id", .str customerId), ("name", .str a.name),
    ("cpf_cnpj", optionalStr a.cpfCnpj), ("email", .str a.email), ("phone", .str a.phone),
    ("is_active", .bool a.isActive)]

def vehicleDocument (vehicleId : String) (a : VehicleRequest) : Json :=
  .obj [("vehicle_id", .str vehicleId), ("customer_id", .str a.customerId),
    ("brand", .str a.brand), ("model", .str a.model), ("year", .int a.year),
    ("plate", .str a.plate)]

namespace Documents

/-- What a request that has been answered with `body` says. -/
def said (k : Documents) (body : Json) : Endpoint T → Documents
  | .createCustomer .. =>
    { k with customers := k.customers.put (textAt "customer_id" body, body) }
  | .updateCustomer customerId (.valid a) _ =>
    { k with customers := k.customers.put (customerId, customerDocument customerId a) }
  | .deleteCustomer customerId => { k with customers := k.customers.erase customerId }
  | .createVehicle .. => { k with vehicles := k.vehicles.put (textAt "vehicle_id" body, body) }
  | .updateVehicle vehicleId (.valid a) _ =>
    { k with vehicles := k.vehicles.put (vehicleId, vehicleDocument vehicleId a) }
  | .deleteVehicle vehicleId => { k with vehicles := k.vehicles.erase vehicleId }
  | .openServiceOrder .. | .handleSagaEvent .. =>
    { k with serviceOrders := k.serviceOrders.put (textAt "service_order_id" body, body) }
  | _ => k

/-- A refusal says nothing. -/
def after (k : Documents) (endpoint : Endpoint T) : Except ApiError (Reply Tok) → Documents
  | .ok (.json _ body) => k.said body endpoint
  | _ => k

end Documents

/-! ## The documents of the records -/

/-- The documents are those of the records and the orders. -/
structure Documents.Of (k : Documents) (r : Records T) (os : InMemoryServiceOrders T) : Prop where
  customers : k.customers = shown customerToResponse r.customers
  vehicles : k.vehicles = shown vehicleToResponse r.vehicles
  serviceOrders : k.serviceOrders = shown (fun o => .obj (serviceOrderToResponse o)) os

section Of
variable {k : Documents} {r : Records T} {os : InMemoryServiceOrders T}

omit [Runtime T] in
theorem customerDocument_eq {c : Customer T} {a : CustomerRequest} (h : customerRequest c = a) :
    customerDocument c.customerId a = customerToResponse c := by
  subst h
  rfl

omit [Runtime T] in
theorem vehicleDocument_eq {v : Vehicle T} {a : VehicleRequest} (h : vehicleRequest v = a) :
    vehicleDocument v.vehicleId a = vehicleToResponse v := by
  subst h
  rfl

theorem Documents.Of.put_customer (h : k.Of r os) (c : Customer T) :
    Documents.Of { k with customers := k.customers.put (c.customerId, customerToResponse c) }
      { r with customers := r.customers.put c } os where
  customers := by
    rw [h.customers]
    exact shown_put _ r.customers c
  vehicles := h.vehicles
  serviceOrders := h.serviceOrders

theorem Documents.Of.erase_customer (h : k.Of r os) (id : String) :
    Documents.Of { k with customers := k.customers.erase id }
      { r with customers := r.customers.erase id } os where
  customers := by
    rw [h.customers]
    exact shown_erase _ r.customers id
  vehicles := h.vehicles
  serviceOrders := h.serviceOrders

theorem Documents.Of.put_vehicle (h : k.Of r os) (v : Vehicle T) :
    Documents.Of { k with vehicles := k.vehicles.put (v.vehicleId, vehicleToResponse v) }
      { r with vehicles := r.vehicles.put v } os where
  customers := h.customers
  vehicles := by
    rw [h.vehicles]
    exact shown_put _ r.vehicles v
  serviceOrders := h.serviceOrders

theorem Documents.Of.erase_vehicle (h : k.Of r os) (id : String) :
    Documents.Of { k with vehicles := k.vehicles.erase id }
      { r with vehicles := r.vehicles.erase id } os where
  customers := h.customers
  vehicles := by
    rw [h.vehicles]
    exact shown_erase _ r.vehicles id
  serviceOrders := h.serviceOrders

theorem Documents.Of.put_serviceOrder (h : k.Of r os) (o : ServiceOrder T) :
    Documents.Of
      { k with serviceOrders :=
        k.serviceOrders.put (o.serviceOrderId, .obj (serviceOrderToResponse o)) }
      r (os.put o) where
  customers := h.customers
  vehicles := h.vehicles
  serviceOrders := by
    rw [h.serviceOrders]
    exact shown_put _ os o

theorem textAt_serviceOrder (o : ServiceOrder T) :
    textAt "service_order_id" (.obj (serviceOrderToResponse o)) = o.serviceOrderId := by
  simp [textAt, serviceOrderToResponse]

end Of

/-! ## The registry routes -/

/-- A route has refused and left the records, or has answered with a document
and left records as `Q` says. -/
inductive Ends (Rc : κ → Keyed (Customer.customerId (T := T)) → Prop)
    (Rv : ν → Keyed (Vehicle.vehicleId (T := T)) → Prop) (r : Records T)
    (Q : Json → Records T → Prop) : EStateM.Result ApiError (Stores κ ν υ) Json → Prop
  | refused (e : ApiError) {s : Stores κ ν υ} (h : Stored Rc Rv s r) : Ends Rc Rv r Q (.error e s)
  | answered {body : Json} {r' : Records T} {s : Stores κ ν υ} (h : Stored Rc Rv s r')
      (hq : Q body r') : Ends Rc Rv r Q (.ok body s)

section Routes
variable {b : Backend T κ ν υ} {Rc : κ → Keyed (Customer.customerId (T := T)) → Prop}
  {Rv : ν → Keyed (Vehicle.vehicleId (T := T)) → Prop} {r : Records T} {s : Stores κ ν υ}

omit [Runtime T] in
/-- A route that only reads. -/
theorem reads_end (h : Stored Rc Rv s r) (errors : PyError → RouteError)
    (x : Stores κ ν υ → Except PyError α) (f : α → Json) :
    Ends Rc Rv r (fun _ r' => r' = r) ((f <$> respond errors (ask x)).run s) := by
  rw [map_run, respond_run, ask_run]
  cases x s with
  | error e => exact .refused _ h
  | ok a => exact .answered h rfl

omit [Runtime T] in
theorem createCustomer_ends (hb : b.KeepsRecords Rc Rv) (h : Stored Rc Rv s r)
    (payload : CustomerRequest) (g : Generated T) :
    Ends Rc Rv r (fun body r' => ∃ c, body = customerToResponse c ∧
        r' = { r with customers := r.customers.put c })
      ((createCustomer b.customers payload g).run s) := by
  rw [createCustomer, map_run, respond_run, createCustomer_run]
  cases CreateCustomerUseCase.check b.customers _ s.customers with
  | error e => exact .refused _ h
  | ok u =>
    simp only
    generalize CreateCustomerUseCase.customer _ g = c
    cases hs : b.customers.save c s.customers with
    | error e => cases e <;> exact .refused _ h
    | ok x =>
      have hstored : Stored Rc Rv { s with customers := x }
          { r with customers := r.customers.put c } :=
        ⟨hb.customers.save _ _ _ _ h.customers hs, h.vehicles⟩
      exact .answered hstored ⟨c, rfl, rfl⟩

theorem updateCustomer_ends (hb : b.KeepsRecords Rc Rv) (h : Stored Rc Rv s r)
    (customerId : String) (payload : CustomerRequest) (now : T) :
    Ends Rc Rv r (fun _ r' => ∃ c, c.customerId = customerId ∧ customerRequest c = payload ∧
        r' = { r with customers := r.customers.put c })
      ((updateCustomer b.customers customerId payload now).run s) := by
  rw [updateCustomer, map_run, respond_run, updateCustomer_run]
  cases hc : UpdateCustomerUseCase.check b.customers _ s.customers with
  | error e => exact .refused _ h
  | ok old =>
    have hold : r.customers.find customerId = some old :=
      get_found hb.customers h.customers (UpdateCustomerUseCase.check_ok hc).1
    obtain rfl : old.customerId = customerId := Keyed.find_key hold
    obtain ⟨c, hc⟩ : ∃ c, UpdateCustomerUseCase.assign ⟨old.customerId, payload.name,
      payload.cpfCnpj, payload.email, payload.phone, payload.isActive⟩ now old = c := ⟨_, rfl⟩
    have hid : old.customerId = c.customerId := by rw [← hc]; rfl
    have hkept : old.createdAt = c.createdAt := by rw [← hc]; rfl
    have hfields : customerRequest c = payload := by rw [← hc]; rfl
    simp only [hc]
    rw [hid] at hold ⊢
    cases hu : b.customers.update c (b.customers.mutated c.customerId c s.customers) with
    | error e =>
      have hstored : Stored Rc Rv
          { s with customers := b.customers.mutated c.customerId c s.customers } r :=
        ⟨hb.customers.refused _ _ _ _ _ h.customers hold hu, h.vehicles⟩
      cases e <;> exact .refused _ hstored
    | ok x =>
      have hstored : Stored Rc Rv { s with customers := x }
          { r with customers := r.customers.put c } :=
        ⟨hb.customers.update _ _ _ _ _ h.customers hold hkept hu, h.vehicles⟩
      exact .answered hstored ⟨c, rfl, hfields, rfl⟩

omit [Runtime T] in
theorem deletedOr404_run (deleted : Bool) (s : Stores κ ν υ) :
    (deletedOr404 deleted : RegistryRouteM κ ν υ Json).run s =
      if deleted then .ok success s else .error (.route (.http 404 "Not found")) s := by
  cases deleted <;> rfl

omit [Runtime T] in
theorem deleteCustomer_run (customers : CustomerRepository T κ) (customerId : String)
    (s : Stores κ ν υ) :
    (deleteCustomer customers customerId).run s =
      let s' := { s with customers := (customers.delete customerId s.customers).2 }
      if (customers.delete customerId s.customers).1 then .ok success s'
      else .error (.route (.http 404 "Not found")) s' := by
  rw [deleteCustomer, EStateM.run_bind, respond_run]
  exact deletedOr404_run _ _

omit [Runtime T] in
theorem deleteVehicle_run (vehicles : VehicleRepository T ν) (vehicleId : String)
    (s : Stores κ ν υ) :
    (deleteVehicle vehicles vehicleId).run s =
      let s' := { s with vehicles := (vehicles.delete vehicleId s.vehicles).2 }
      if (vehicles.delete vehicleId s.vehicles).1 then .ok success s'
      else .error (.route (.http 404 "Not found")) s' := by
  rw [deleteVehicle, EStateM.run_bind, respond_run]
  exact deletedOr404_run _ _

omit [Runtime T] in
/-- A deletion that is refused has found nothing. -/
theorem deleteCustomer_ends (hb : b.KeepsRecords Rc Rv) (hrep : b.Reports Rc Rv)
    (h : Stored Rc Rv s r) (customerId : String) :
    Ends Rc Rv r (fun _ r' => r' = { r with customers := r.customers.erase customerId })
      ((deleteCustomer b.customers customerId).run s) := by
  have hstored : Stored Rc Rv
      { s with customers := (b.customers.delete customerId s.customers).2 }
      { r with customers := r.customers.erase customerId } :=
    ⟨hb.customers.delete _ _ customerId h.customers, h.vehicles⟩
  rw [deleteCustomer_run, hrep.customers _ _ customerId h.customers]
  cases hf : r.customers.find customerId with
  | none =>
    rw [Keyed.erase_of_none hf] at hstored
    exact .refused _ hstored
  | some c => exact .answered hstored rfl

omit [Runtime T] in
theorem deleteVehicle_ends (hb : b.KeepsRecords Rc Rv) (hrep : b.Reports Rc Rv)
    (h : Stored Rc Rv s r) (vehicleId : String) :
    Ends Rc Rv r (fun _ r' => r' = { r with vehicles := r.vehicles.erase vehicleId })
      ((deleteVehicle b.vehicles vehicleId).run s) := by
  have hstored : Stored Rc Rv
      { s with vehicles := (b.vehicles.delete vehicleId s.vehicles).2 }
      { r with vehicles := r.vehicles.erase vehicleId } :=
    ⟨h.customers, hb.vehicles.delete _ _ vehicleId h.vehicles⟩
  rw [deleteVehicle_run, hrep.vehicles _ _ vehicleId h.vehicles]
  cases hf : r.vehicles.find vehicleId with
  | none =>
    rw [Keyed.erase_of_none hf] at hstored
    exact .refused _ hstored
  | some v => exact .answered hstored rfl

theorem createVehicle_ends (hb : b.KeepsRecords Rc Rv) (h : Stored Rc Rv s r)
    (payload : VehicleRequest) (g : Generated T) :
    Ends Rc Rv r (fun body r' => ∃ v, body = vehicleToResponse v ∧
        r' = { r with vehicles := r.vehicles.put v })
      ((createVehicle b.vehicles b.customers payload g).run s) := by
  rw [createVehicle, map_run, respond_run, createVehicle_run]
  cases CreateVehicleUseCase.check b.vehicles b.customers _ s with
  | error e => exact .refused _ h
  | ok u =>
    simp only
    generalize CreateVehicleUseCase.vehicle _ g = v
    cases hs : b.vehicles.save v s.vehicles with
    | error e => cases e <;> exact .refused _ h
    | ok x =>
      have hstored : Stored Rc Rv { s with vehicles := x }
          { r with vehicles := r.vehicles.put v } :=
        ⟨h.customers, hb.vehicles.save _ _ _ _ h.vehicles hs⟩
      exact .answered hstored ⟨v, rfl, rfl⟩

theorem updateVehicle_ends (hb : b.KeepsRecords Rc Rv) (h : Stored Rc Rv s r)
    (vehicleId : String) (payload : VehicleRequest) (now : T) :
    Ends Rc Rv r (fun _ r' => ∃ v, v.vehicleId = vehicleId ∧ vehicleRequest v = payload ∧
        r' = { r with vehicles := r.vehicles.put v })
      ((updateVehicle b.vehicles b.customers vehicleId payload now).run s) := by
  rw [updateVehicle, map_run, respond_run, updateVehicle_run]
  cases hc : UpdateVehicleUseCase.check b.vehicles b.customers _ s with
  | error e => exact .refused _ h
  | ok old =>
    have hold : r.vehicles.find vehicleId = some old :=
      get_found hb.vehicles h.vehicles (UpdateVehicleUseCase.check_ok hc).1
    obtain rfl : old.vehicleId = vehicleId := Keyed.find_key hold
    obtain ⟨v, hv⟩ : ∃ v, UpdateVehicleUseCase.assign ⟨old.vehicleId, payload.customerId,
      payload.brand, payload.model, payload.year, payload.plate⟩ now old = v := ⟨_, rfl⟩
    have hid : old.vehicleId = v.vehicleId := by rw [← hv]; rfl
    have hkept : old.createdAt = v.createdAt := by rw [← hv]; rfl
    have hfields : vehicleRequest v = payload := by rw [← hv]; rfl
    simp only [hv]
    rw [hid] at hold ⊢
    cases hu : b.vehicles.update v (b.vehicles.mutated v.vehicleId v s.vehicles) with
    | error e =>
      have hstored : Stored Rc Rv
          { s with vehicles := b.vehicles.mutated v.vehicleId v s.vehicles } r :=
        ⟨h.customers, hb.vehicles.refused _ _ _ _ _ h.vehicles hold hu⟩
      cases e <;> exact .refused _ hstored
    | ok x =>
      have hstored : Stored Rc Rv { s with vehicles := x }
          { r with vehicles := r.vehicles.put v } :=
        ⟨h.customers, hb.vehicles.update _ _ _ _ _ h.vehicles hold hkept hu⟩
      exact .answered hstored ⟨v, rfl, hfields, rfl⟩

omit [Runtime T] in
theorem register_ends (h : Stored Rc Rv s r) (hasher : PasswordHasher) (body : RegisterRequest)
    (salt : String) (g : Generated T) :
    Ends Rc Rv r (fun _ r' => r' = r) ((register b.users hasher body salt g).run s) := by
  rw [register, map_run, respond_run, registerAdminUser_run]
  cases RegisterAdminUserUseCase.check b.users _ s.users with
  | error e => exact .refused _ h
  | ok u =>
    simp only
    cases hasher.hashPassword body.password salt with
    | error e => exact .refused _ h
    | ok passwordHash =>
      simp only
      cases b.users.save _ s.users with
      | error e => cases e <;> exact .refused _ h
      | ok x => exact .answered ⟨h.customers, h.vehicles⟩ rfl

end Routes

/-! ## The order routes -/

/-- As with the registries, over a repository that answers like a dictionary. -/
inductive OrderEnds (Ro : InMemoryServiceOrders T → σ → Prop) (os : InMemoryServiceOrders T) :
    EStateM.Result RouteError (Service T σ) Dict → Prop
  | refused (e : RouteError) {s : Service T σ} (h : Ro os s.orders) : OrderEnds Ro os (.error e s)
  | answered (o : ServiceOrder T) {s : Service T σ} (h : Ro (os.put o) s.orders) :
      OrderEnds Ro os (.ok (serviceOrderToResponse o) s)

section OrderRoutes
variable {repo : ServiceOrderRepository T σ} {Ro : InMemoryServiceOrders T → σ → Prop}
  {os : InMemoryServiceOrders T} {s : Service T σ} {principal : AuthenticatedPrincipal}

theorem openServiceOrder_ends (hsim : Simulates inMemoryServiceOrderRepository repo Ro)
    (h : Ro os s.orders) (ensureValid : String → String → Except PyError Unit)
    (payload : OpenServiceOrderRequest) (uuid : String) (now : T) (g : Stamp T) :
    OrderEnds Ro os
      ((openServiceOrder repo reliable ensureValid principal payload uuid now g).run s) := by
  simp only [openServiceOrder, EStateM.run_bind, guardOn_run]
  cases requireCustomerOrAdminPrincipal principal with
  | error e => exact .refused e h
  | ok p =>
    simp only
    split
    · exact .refused _ h
    · generalize (if p.isCustomer = true then optionStr p.customerId else payload.customerId) = c
      show OrderEnds Ro os ((respondOn _ _).run s)
      rw [respondOn_run]
      rcases openOn_cases repo reliable ensureValid ⟨c, payload.vehicleId, payload.description⟩
          uuid now g with ⟨e, he⟩ | ⟨-, o, -, -, hopen⟩
      · rw [he s]
        exact .refused _ h
      · rw [hopen s]
        exact .answered o (hsim.save _ _ h o)

theorem handleSagaEventOn_ends (hsim : Simulates inMemoryServiceOrderRepository repo Ro)
    (h : Ro os s.orders) (serviceOrderId : String) (payload : SagaEventRequest) (eventId : String)
    (occurredAt : T) (g g' : Stamp T) :
    OrderEnds Ro os ((handleSagaEventOn repo reliable principal serviceOrderId payload eventId
      occurredAt g g').run s) := by
  simp only [handleSagaEventOn, EStateM.run_bind, guardOn_run]
  cases requireAdminPrincipal principal with
  | error e => exact .refused e h
  | ok p =>
    generalize requestEvent serviceOrderId payload eventId occurredAt = event
    simp only [respondOn_run, handleOn, EStateM.run_bind, getOn, EStateM.run_get]
    rw [← hsim.get _ _ h]
    cases hg : inMemoryServiceOrderRepository.get (HandleSagaEventUseCase.serviceOrderId event) os with
    | error e => exact .refused _ h
    | ok o =>
      simp only [liftOn, callOn, EStateM.run]
      rcases apply_run event g g' o with ⟨o', out, ha, hrun⟩ | ⟨-, e, hrun⟩
      · have hsaved := hsim.mutated _ _ h _ o o' hg ha.id_eq
        rw [show inMemoryServiceOrderRepository.save o' (inMemoryServiceOrderRepository.mutated o'
          os) = os.put o' from put_put os o'] at hsaved
        simp only [EStateM.run] at hrun
        rw [hrun]
        cases out <;> exact .answered o' hsaved
      · -- a refused event leaves the object as it was found
        have hfound := hsim.unmutated _ _ h _ o hg
        rw [show inMemoryServiceOrderRepository.mutated o os = os from
          Keyed.put_of_find (inMemory_get_ok hg)] at hfound
        simp only [EStateM.run] at hrun
        rw [hrun]
        exact .refused _ hfound

theorem getServiceOrder_left (principal : AuthenticatedPrincipal) (serviceOrderId : String)
    (s : Service T σ) :
    (outcome ((getServiceOrder repo principal serviceOrderId).run s)).2 = s := by
  simp only [getServiceOrder, EStateM.run_bind, EStateM.run_get, guardOn_run]
  cases requireCustomerOrAdminPrincipal principal with
  | error e => rfl
  | ok p =>
    simp only
    cases (repo.get serviceOrderId s.orders).mapError (toReadError T) with
    | error e => rfl
    | ok o =>
      simp only
      split <;> rfl

end OrderRoutes

/-! ## One request -/

section Step
variable {Rc : κ → Keyed (Customer.customerId (T := T)) → Prop}
  {Rv : ν → Keyed (Vehicle.vehicleId (T := T)) → Prop}
  {Ro : InMemoryServiceOrders T → σ → Prop} {s : Server T σ κ ν υ} {k : Documents}
  {r : Records T} {os : InMemoryServiceOrders T} {endpoint : Endpoint T}

/-- The stores hold records and orders, and the documents are theirs. -/
structure Reflects (Rc : κ → Keyed (Customer.customerId (T := T)) → Prop)
    (Rv : ν → Keyed (Vehicle.vehicleId (T := T)) → Prop)
    (Ro : InMemoryServiceOrders T → σ → Prop) (s : Server T σ κ ν υ) (k : Documents)
    (r : Records T) (os : InMemoryServiceOrders T) : Prop where
  stored : Stored Rc Rv s.stores r
  orders : Ro os s.service.orders
  documents : k.Of r os

/-- After the answer `x` the documents are again those of the stores. -/
def Tracks (Rc : κ → Keyed (Customer.customerId (T := T)) → Prop)
    (Rv : ν → Keyed (Vehicle.vehicleId (T := T)) → Prop)
    (Ro : InMemoryServiceOrders T → σ → Prop) (k : Documents) (endpoint : Endpoint T)
    (x : EStateM.Result ApiError (Server T σ κ ν υ) (Reply Tok)) : Prop :=
  ∃ r os, Reflects Rc Rv Ro (outcome x).2 (k.after endpoint (outcome x).1) r os

variable (Tok) in
/-- The result of a route as the reply of a request. -/
def replied (statusCode : Nat) :
    EStateM.Result ApiError (Server T σ κ ν υ) Json →
      EStateM.Result ApiError (Server T σ κ ν υ) (Reply Tok)
  | .ok json s => .ok (.json statusCode json) s
  | .error e s => .error e s

theorem Reflects.refused (h : Reflects Rc Rv Ro s k r os) (e : ApiError) :
    Tracks Rc Rv Ro k endpoint (.error e s : EStateM.Result _ _ (Reply Tok)) :=
  ⟨r, os, h⟩

theorem guarded_tracks (h : Reflects Rc Rv Ro s k r os)
    {principal : Except RouteError AuthenticatedPrincipal} {statusCode : Nat} {body : Body α}
    {route : AuthenticatedPrincipal → α → ApiM T σ κ ν υ Json}
    (hroute : ∀ p a, body = .valid a →
      Tracks Rc Rv Ro k endpoint (replied Tok statusCode ((route p a).run s))) :
    Tracks Rc Rv Ro k endpoint
      ((guarded principal statusCode body route : ApiM T σ κ ν υ (Reply Tok)).run s) := by
  rcases guarded_cases (T := T) with ⟨e, he⟩ | ⟨p, a, -, hbody, hrun⟩
  · rw [he]
    exact h.refused e
  · have ht := hroute p a hbody
    rw [hrun]
    cases hr : (route p a).run s <;> rw [hr] at ht <;> exact ht

/-- A route over the registries, whose answer says what it has done to the
records. -/
theorem onStores_tracks (h : Reflects Rc Rv Ro s k r os) {m : RegistryRouteM κ ν υ Json}
    {Q : Json → Records T → Prop} (hends : Ends Rc Rv r Q (m.run s.stores)) (statusCode : Nat)
    (hsaid : ∀ body r', Q body r' → (k.said body endpoint).Of r' os) :
    Tracks Rc Rv Ro k endpoint (replied Tok statusCode ((onStores m).run s)) := by
  rw [onStores_run]
  generalize m.run s.stores = x at hends
  cases hends with
  | refused e hs => exact ⟨r, os, hs, h.orders, h.documents⟩
  | answered hs hq => exact ⟨_, os, hs, h.orders, hsaid _ _ hq⟩

/-- A route over the orders, whose answer is the order it has saved. -/
theorem onService_tracks (h : Reflects Rc Rv Ro s k r os) {m : ServiceRouteM T σ Dict}
    (hends : OrderEnds Ro os (m.run s.service)) (statusCode : Nat)
    (hsaid : ∀ body, k.said body endpoint =
      { k with serviceOrders := k.serviceOrders.put (textAt "service_order_id" body, body) }) :
    Tracks Rc Rv Ro k endpoint
      (replied Tok statusCode ((onService (Json.obj <$> m)).run s)) := by
  have hm := map_run Json.obj m s.service
  simp only [onService, EStateM.run] at hm hends ⊢
  rw [hm]
  generalize m s.service = x at hends
  cases hends with
  | refused e hs => exact ⟨r, os, h.stored, hs, h.documents⟩
  | answered o hs =>
    refine ⟨r, os.put o, h.stored, hs, ?_⟩
    show (k.said (.obj (serviceOrderToResponse o)) endpoint).Of r (os.put o)
    rw [hsaid, textAt_serviceOrder]
    exact h.documents.put_serviceOrder o

/-- A request that leaves stores and orders, and says nothing. -/
theorem silent_tracks (h : Reflects Rc Rv Ro s k r os)
    {x : EStateM.Result ApiError (Server T σ κ ν υ) (Reply Tok)}
    (hstores : (outcome x).2.stores = s.stores)
    (horders : (outcome x).2.service.orders = s.service.orders)
    (hsaid : ∀ body, k.said body endpoint = k) : Tracks Rc Rv Ro k endpoint x := by
  refine ⟨r, os, ?_, ?_, ?_⟩
  · rw [hstores]
    exact h.stored
  · rw [horders]
    exact h.orders
  · cases x with
    | error e s' => exact h.documents
    | ok answer s' =>
      cases answer with
      | accessToken token => exact h.documents
      | json code body =>
        show (k.said body endpoint).Of r os
        rw [hsaid]
        exact h.documents

variable [Casefold T] {app : AppState T Tok σ κ ν υ}

omit [Casefold T] in
theorem loginRoute_tracks (h : Reflects Rc Rv Ro s k r os) (body : Body LoginRequest) (exp : Int)
    (hsaid : ∀ body, k.said body endpoint = k) :
    Tracks Rc Rv Ro k endpoint ((loginRoute app body exp).run s) := by
  cases body with
  | unreadable code => exact h.refused _
  | invalid => exact h.refused _
  | valid b =>
    rw [loginRoute_run]
    cases app.registries.users.findByEmail b.email s.stores.users >>=
        granted app.passwordHasher b.password
          (AdminJwtService.createToken app.jose app.settings exp) with
    | error e => exact h.refused _
    | ok token =>
      cases token with
      | none => exact h.refused _
      | some token => exact silent_tracks h rfl rfl hsaid

omit [Runtime T] [Casefold T] in
theorem onService_left {m : ServiceRouteM T σ Dict}
    (hm : (outcome (m.run s.service)).2 = s.service) (statusCode : Nat) :
    (outcome (replied Tok statusCode ((onService (Json.obj <$> m)).run s))).2 = s := by
  have hmap := map_run Json.obj m s.service
  simp only [onService, EStateM.run] at hm hmap ⊢
  rw [hmap]
  cases hx : m s.service <;> rw [hx] at hm <;> subst hm <;> rfl

/-- **One request.** Whoever sends it and whatever comes of it: what its reply
says there is is what the stores then hold. -/
theorem documents_step (hb : app.registries.KeepsRecords Rc Rv)
    (hrep : app.registries.Reports Rc Rv)
    (hsim : Simulates inMemoryServiceOrderRepository app.serviceOrders Ro)
    (hpub : app.eventPublisher = reliable) (h : Reflects Rc Rv Ro s k r os)
    (req : Request T Tok) : Tracks Rc Rv Ro k req.endpoint ((handle app req).run s) := by
  obtain ⟨credentials, endpoint⟩ := req
  have reads : ∀ {r' : Records T}, r' = r → k.Of r' os := fun hr => hr ▸ h.documents
  cases endpoint with
  | register body salt g =>
    cases body with
    | unreadable code => exact h.refused _
    | invalid => exact h.refused _
    | valid b =>
      have ht : Tracks Rc Rv Ro k (.register (.valid b) salt g) (replied Tok 201
          ((onStores (register app.registries.users app.passwordHasher b salt g)).run s)) :=
        onStores_tracks h
          (register_ends (b := app.registries) h.stored app.passwordHasher b salt g) 201
          fun body r' hr => reads hr
      show Tracks Rc Rv Ro k _ (EStateM.run (do return Reply.json 201 (← onStores
        (register app.registries.users app.passwordHasher b salt g))) s)
      rw [EStateM.run_bind]
      cases hx : (onStores (register app.registries.users app.passwordHasher b salt g) :
        ApiM T σ κ ν υ Json).run s <;> rw [hx] at ht <;> exact ht
  | login body exp => exact loginRoute_tracks h body exp fun _ => rfl
  | token form exp => exact loginRoute_tracks h form exp fun _ => rfl
  | validateToken =>
    simp only [handle]
    refine guarded_tracks h fun p _ _ => ?_
    cases hv : validateToken T p with
    | error e => exact h.refused e
    | ok json => exact silent_tracks h rfl rfl fun _ => rfl
  | createCustomer payload g =>
    simp only [handle]
    refine guarded_tracks h fun _ a ha => onStores_tracks h
      (createCustomer_ends hb h.stored a g) _ fun body r' hq => ?_
    obtain ⟨c, rfl, rfl⟩ := hq
    exact h.documents.put_customer c
  | listCustomers =>
    simp only [handle]
    exact guarded_tracks h fun _ _ _ =>
      onStores_tracks h (reads_end h.stored _ _ _) _ fun _ _ hr => reads hr
  | getCustomer customerId =>
    simp only [handle]
    exact guarded_tracks h fun _ _ _ =>
      onStores_tracks h (reads_end h.stored _ _ _) _ fun _ _ hr => reads hr
  | updateCustomer customerId payload now =>
    simp only [handle]
    refine guarded_tracks h fun _ a ha => onStores_tracks h
      (updateCustomer_ends hb h.stored customerId a now) _ fun body r' hq => ?_
    obtain ⟨c, rfl, rfl, rfl⟩ := hq
    subst ha
    exact h.documents.put_customer c
  | deleteCustomer customerId =>
    simp only [handle]
    refine guarded_tracks h fun _ _ _ => onStores_tracks h
      (deleteCustomer_ends hb hrep h.stored customerId) _ fun body r' hq => ?_
    subst hq
    exact h.documents.erase_customer customerId
  | createVehicle payload g =>
    simp only [handle]
    refine guarded_tracks h fun _ a ha => onStores_tracks h
      (createVehicle_ends hb h.stored a g) _ fun body r' hq => ?_
    obtain ⟨v, rfl, rfl⟩ := hq
    exact h.documents.put_vehicle v
  | listVehicles customerId =>
    simp only [handle]
    exact guarded_tracks h fun _ _ _ =>
      onStores_tracks h (reads_end h.stored _ _ _) _ fun _ _ hr => reads hr
  | getVehicle vehicleId =>
    simp only [handle]
    exact guarded_tracks h fun _ _ _ =>
      onStores_tracks h (reads_end h.stored _ _ _) _ fun _ _ hr => reads hr
  | updateVehicle vehicleId payload now =>
    simp only [handle]
    refine guarded_tracks h fun _ a ha => onStores_tracks h
      (updateVehicle_ends hb h.stored vehicleId a now) _ fun body r' hq => ?_
    obtain ⟨v, rfl, rfl, rfl⟩ := hq
    subst ha
    exact h.documents.put_vehicle v
  | deleteVehicle vehicleId =>
    simp only [handle]
    refine guarded_tracks h fun _ _ _ => onStores_tracks h
      (deleteVehicle_ends hb hrep h.stored vehicleId) _ fun body r' hq => ?_
    subst hq
    exact h.documents.erase_vehicle vehicleId
  | listPublishedEvents =>
    simp only [handle]
    exact guarded_tracks h fun _ _ _ => silent_tracks h rfl rfl fun _ => rfl
  | drainPublishedEvents =>
    simp only [handle]
    exact guarded_tracks h fun _ _ _ => silent_tracks h rfl rfl fun _ => rfl
  | openServiceOrder payload uuid now g =>
    simp only [handle, hpub]
    exact guarded_tracks h fun p a _ => onService_tracks h
      (openServiceOrder_ends hsim h.orders _ a uuid now g) _ fun _ => rfl
  | getServiceOrder serviceOrderId =>
    simp only [handle]
    refine guarded_tracks h fun p _ _ => ?_
    have hleft : (outcome (replied Tok 200 ((onService (Json.obj <$>
        getServiceOrder app.serviceOrders p serviceOrderId)).run s))).2 = s :=
      onService_left (getServiceOrder_left p serviceOrderId s.service) 200
    exact silent_tracks h (by rw [hleft]) (by rw [hleft]) fun _ => rfl
  | handleSagaEvent serviceOrderId payload eventId occurredAt g g' =>
    simp only [handle, hpub]
    exact guarded_tracks h fun p a _ => onService_tracks h
      (handleSagaEventOn_ends hsim h.orders serviceOrderId a eventId occurredAt g g') _
      fun _ => rfl

end Step

/-! ## The replies to reads -/

/-- Of one document, to a client that may see it. -/
def documentReply (T : Type) [Runtime T] (notFound : PyError) :
    Option Json → Except ApiError (Reply Tok)
  | some doc => .ok (.json 200 doc)
  | none => .error (.route (toReadError T notFound))

/-- Of an order: a customer sees its own. -/
def serviceOrderReply (T : Type) [Runtime T] (principal : AuthenticatedPrincipal)
    (notFound : PyError) : Option Json → Except ApiError (Reply Tok)
  | some doc =>
    if principal.isCustomer ∧ some (textAt "customer_id" doc) ≠ principal.customerId then
      .error (.route
        (.http 403 "Customer token cannot access another customer's service order"))
    else .ok (.json 200 doc)
  | none => .error (.route (toReadError T notFound))

def deletionReply (Tok : Type) : Option Json → Except ApiError (Reply Tok)
  | some _ => .ok (.json 200 success)
  | none => .error (.route (.http 404 "Not found"))

/-- A list of the documents, in some order. -/
def Listed (answer : Except ApiError (Reply Tok)) (docs : List Json) : Prop :=
  ∃ listed : List Json, answer = .ok (.json 200 (.arr listed)) ∧ listed.Perm docs

section Answers
variable [Casefold T] (app : AppState T Tok σ κ ν υ) (s : Server T σ κ ν υ) (k : Documents)

/-- What an administrator is answered. -/
structure AnswersAdmin (credentials : Option (HTTPAuthorizationCredentials Tok)) : Prop where
  customer : ∀ id, reply app s ⟨credentials, .getCustomer id⟩ =
    documentReply T (customerNotFound id) (k.customers.value id)
  customers : Listed (reply app s ⟨credentials, .listCustomers⟩) k.customers.values
  customerGone : ∀ id, reply app s ⟨credentials, .deleteCustomer id⟩ =
    deletionReply Tok (k.customers.value id)
  vehicle : ∀ id, reply app s ⟨credentials, .getVehicle id⟩ =
    documentReply T (vehicleNotFound id) (k.vehicles.value id)
  vehicles : Listed (reply app s ⟨credentials, .listVehicles none⟩) k.vehicles.values
  ofCustomer : ∀ id, Listed (reply app s ⟨credentials, .listVehicles (some id)⟩)
    (k.vehicles.values.filter fun doc => textAt "customer_id" doc = id)
  vehicleGone : ∀ id, reply app s ⟨credentials, .deleteVehicle id⟩ =
    deletionReply Tok (k.vehicles.value id)

/-- The documents decide every reply to a read. -/
structure Answers : Prop where
  admin : ∀ credentials p, currentPrincipal app credentials = .ok p → p.isAdmin = true →
    AnswersAdmin app s k credentials
  serviceOrder : ∀ credentials p id, currentPrincipal app credentials = .ok p →
    reply app s ⟨credentials, .getServiceOrder id⟩ =
      serviceOrderReply T p (serviceOrderNotFound id) (k.serviceOrders.value id)

end Answers

section Read
variable [Casefold T] {app : AppState T Tok σ κ ν υ}
  {Rc : κ → Keyed (Customer.customerId (T := T)) → Prop}
  {Rv : ν → Keyed (Vehicle.vehicleId (T := T)) → Prop}
  {Ro : InMemoryServiceOrders T → σ → Prop} {s : Server T σ κ ν υ} {k : Documents}
  {r : Records T} {os : InMemoryServiceOrders T}
  {credentials : Option (HTTPAuthorizationCredentials Tok)} {p : AuthenticatedPrincipal}

/-- An administrator's request to a route over the registries. -/
theorem admin_reply (hp : currentPrincipal app credentials = .ok p) (hadmin : p.isAdmin = true)
    {endpoint : Endpoint T} {m : RegistryRouteM κ ν υ Json}
    (hhandle : handle app ⟨credentials, endpoint⟩ =
      guarded (currentPrincipal app credentials >>= requireAdminPrincipal) 200 (.valid ())
        fun _ _ => onStores m) :
    reply app s ⟨credentials, endpoint⟩ = match m.run s.stores with
      | .ok json _ => .ok (.json 200 json)
      | .error e _ => .error e := by
  rw [reply, hhandle, hp, guarded_admin hadmin, onStores_run]
  cases m.run s.stores <;> rfl

theorem admin_answers (hb : app.registries.KeepsRecords Rc Rv)
    (hrep : app.registries.Reports Rc Rv) (h : Reflects Rc Rv Ro s k r os)
    (hp : currentPrincipal app credentials = .ok p) (hadmin : p.isAdmin = true) :
    AnswersAdmin app s k credentials where
  customer id := by
    have hget := hb.customers.get _ _ id h.stored.customers
    rw [admin_reply hp hadmin rfl, getCustomer, map_run, respond_run, GetCustomerUseCase.execute,
      ask_run, h.documents.customers, shown_value]
    rw [show app.registries.customers.get id s.stores.customers = _ from hget]
    cases r.customers.find id <;> rfl
  customers := by
    have hlist := hb.customers.list _ _ h.stored.customers
    rw [admin_reply hp hadmin rfl, listCustomers, map_run, respond_run,
      ListCustomersUseCase.execute, ask_run, h.documents.customers, shown_values]
    rw [show app.registries.customers.list s.stores.customers = _ from hlist]
    exact ⟨_, rfl, .refl _⟩
  customerGone id := by
    rw [admin_reply hp hadmin rfl, deleteCustomer_run, hrep.customers _ _ id h.stored.customers,
      h.documents.customers, shown_value]
    cases r.customers.find id <;> rfl
  vehicle id := by
    have hget := hb.vehicles.get _ _ id h.stored.vehicles
    rw [admin_reply hp hadmin rfl, getVehicle, map_run, respond_run, GetVehicleUseCase.execute,
      ask_run, h.documents.vehicles, shown_value]
    rw [show app.registries.vehicles.get id s.stores.vehicles = _ from hget]
    cases r.vehicles.find id <;> rfl
  vehicles := by
    have hlist := hb.vehicles.list _ _ h.stored.vehicles
    rw [admin_reply hp hadmin rfl, listVehicles, map_run, respond_run,
      ListVehiclesUseCase.execute, ask_run, h.documents.vehicles, shown_values]
    rw [show app.registries.vehicles.list none s.stores.vehicles = _ from hlist]
    exact ⟨_, rfl, .refl _⟩
  ofCustomer id := by
    rw [admin_reply hp hadmin rfl, listVehicles, map_run, respond_run,
      ListVehiclesUseCase.execute, ask_run, h.documents.vehicles, shown_values,
      hrep.ofCustomer _ _ id h.stored.vehicles, List.filter_map]
    exact ⟨_, rfl, .refl _⟩
  vehicleGone id := by
    rw [admin_reply hp hadmin rfl, deleteVehicle_run, hrep.vehicles _ _ id h.stored.vehicles,
      h.documents.vehicles, shown_value]
    cases r.vehicles.find id <;> rfl

/-- A resolved principal has one of the two roles. -/
theorem currentPrincipal_admitted (hp : currentPrincipal app credentials = .ok p) :
    requireCustomerOrAdminPrincipal p = .ok p := by
  obtain ⟨c, -, hres⟩ := currentPrincipal_ok hp
  unfold resolvePrincipal at hres
  rcases Option.or_eq_some_iff.mp hres with hc | ⟨-, ha⟩
  · obtain ⟨-, _, _, _, -, -, -, rfl⟩ := verifyCustomerToken_some hc
    rfl
  · obtain ⟨_, _, -, -, rfl⟩ := verifyAdminToken_some ha
    rfl

omit [Casefold T] in
theorem getServiceOrder_run (repo : ServiceOrderRepository T σ)
    (hp : requireCustomerOrAdminPrincipal p = .ok p) (id : String) (s : Service T σ) :
    (getServiceOrder repo p id).run s = match repo.get id s.orders with
      | .error e => .error (toReadError T e) s
      | .ok o =>
        if p.isCustomer ∧ some o.customerId ≠ p.customerId then
          .error (.http 403 "Customer token cannot access another customer's service order") s
        else .ok (serviceOrderToResponse o) s := by
  simp only [getServiceOrder, EStateM.run_bind, EStateM.run_get, guardOn_run, hp]
  cases repo.get id s.orders with
  | error e => rfl
  | ok o =>
    simp only [Except.mapError]
    split <;> rfl

theorem serviceOrder_answer (hsim : Simulates inMemoryServiceOrderRepository app.serviceOrders Ro)
    (h : Reflects Rc Rv Ro s k r os) (hp : currentPrincipal app credentials = .ok p) (id : String) :
    reply app s ⟨credentials, .getServiceOrder id⟩ =
      serviceOrderReply T p (serviceOrderNotFound id) (k.serviceOrders.value id) := by
  have hdeps : (currentPrincipal app credentials >>= requireCustomerOrAdminPrincipal) = .ok p := by
    rw [hp]
    exact currentPrincipal_admitted hp
  have hread : app.serviceOrders.get id s.service.orders =
      inMemoryServiceOrderRepository.get id os := (hsim.get _ _ h.orders id).symm
  have hrun := getServiceOrder_run app.serviceOrders (currentPrincipal_admitted hp) id s.service
  have hmap := map_run Json.obj (getServiceOrder app.serviceOrders p id) s.service
  rw [hrun, hread] at hmap
  rw [reply, h.documents.serviceOrders, shown_value]
  simp only [handle, hdeps]
  show (outcome (EStateM.run (do return Reply.json 200 (← onService (Json.obj <$>
    getServiceOrder app.serviceOrders p id))) s)).1 = _
  rw [EStateM.run_bind]
  simp only [onService, EStateM.run] at hmap ⊢
  rw [hmap]
  simp only [inMemoryServiceOrderRepository]
  cases os.find id with
  | none => rfl
  | some o =>
    have howner : textAt "customer_id" (.obj (serviceOrderToResponse o)) = o.customerId := by
      simp [textAt, serviceOrderToResponse]
    simp only [Option.map_some, serviceOrderReply, howner]
    by_cases hc : p.isCustomer = true ∧ some o.customerId ≠ p.customerId
    · simp only [if_pos hc]
      rfl
    · simp only [if_neg hc]
      rfl

end Read

/-! ## Whole runs -/

section Runs
variable [Casefold T] {app : AppState T Tok σ κ ν υ} {start : Server T σ κ ν υ}
  {Rc : κ → Keyed (Customer.customerId (T := T)) → Prop}
  {Rv : ν → Keyed (Vehicle.vehicleId (T := T)) → Prop}
  {Ro : InMemoryServiceOrders T → σ → Prop}

theorem answers_reachable (hb : app.registries.KeepsRecords Rc Rv)
    (hrep : app.registries.Reports Rc Rv)
    (hsim : Simulates inMemoryServiceOrderRepository app.serviceOrders Ro)
    (hpub : app.eventPublisher = reliable)
    (hstart : Reflects Rc Rv Ro start .empty .empty .empty) {s : Server T σ κ ν υ} {k : Documents}
    (hs : (watchedLts app Documents.after start .empty).Reachable (s, k)) : Answers app s k := by
  obtain ⟨r, os, h⟩ := watched_reachable (I := fun s k => ∃ r os, Reflects Rc Rv Ro s k r os)
    ⟨_, _, hstart⟩ (fun s k req hi => by
      obtain ⟨r, os, h⟩ := hi
      exact documents_step hb hrep hsim hpub h req) hs
  exact ⟨fun credentials p hp hadmin => admin_answers hb hrep h hp hadmin,
    fun credentials p id hp => serviceOrder_answer hsim h hp id⟩

end Runs

omit [Runtime T] in
theorem inMemory_simulates : Simulates (T := T) inMemoryServiceOrderRepository
    inMemoryServiceOrderRepository fun os s => s = os where
  get s t h id := by rw [h]
  save s t h o := by rw [h]
  unmutated s t h id o _ := by rw [h]
  mutated s t h id o o' _ _ := by rw [h]

/-- **The API is a store of documents.** In memory and over the database, with
a broker that does not fail: after every run of requests, whoever sent them and
however they were answered, the documents that the replies have said there are
decide the reply to every read. An administrator's `GET` of a customer or a
vehicle returns the document last said to be under the id (by the reply of its
`POST` or a `PUT` since, as its schema reads it), or is refused with 404 if none
or deleted since; the lists have these documents and no others; a `DELETE`
succeeds where there is one; and the `GET` of an order returns what its `POST`
or the last event posted for it has returned, to an administrator and to the
customer the document names. -/
theorem answers_documents [Casefold T] (hiso : IsoRoundTrip T) (settings : Settings)
    (hasher : PasswordHasher) (jose : Jose Tok) (loads : String → Except PyError Json) :
    (∀ s k, (watchedLts (memoryApp settings hasher jose) Documents.after emptyMemoryServer
        .empty).Reachable (s, k) →
      Answers (memoryApp settings hasher jose : AppState T Tok _ _ _ _) s k) ∧
    ∀ s k, (watchedLts (realApp settings hasher jose loads reliable) Documents.after
        ⟨⟨.empty, []⟩, emptyTables, 0⟩ .empty).Reachable (s, k) →
      Answers (realApp settings hasher jose loads reliable : AppState T Tok _ _ _ _) s k := by
  have hempty : Documents.Of (T := T) .empty .empty .empty := ⟨rfl, rfl, rfl⟩
  constructor
  · intro s k hs
    refine answers_reachable memory_keeps memory_reports inMemory_simulates rfl ?_ hs
    exact ⟨⟨rfl, rfl⟩, rfl, hempty⟩
  · intro s k hs
    refine answers_reachable (sql_keeps hiso) (sql_reports hiso)
      (memory_simulates_sql hiso loads) rfl ?_ hs
    exact ⟨⟨⟨rfl, Keyed.unique_empty _⟩, ⟨rfl, Keyed.unique_empty _⟩⟩, fun _ => rfl, hempty⟩

/-- The customer that was filed is changed, and its vehicle goes. -/
def exRefiling : List (Request Utc SymbolicToken) :=
  exFiling ++
  [⟨exCredentials exAccessToken, .updateCustomer "customer-2"
      (.valid ⟨"Rui", none, "rui@example.com", "11888880000", false⟩) exUtc⟩,
   ⟨exCredentials exAccessToken, .deleteVehicle "vehicle-2"⟩]

def exWatched : Server Utc (InMemoryServiceOrders Utc) (IdDict (Customer Utc))
    (IdDict (Vehicle Utc)) (IdDict (AdminUser Utc)) × Documents :=
  exRefiling.foldl (fun x r => (served exApp x.1 r, x.2.after r.endpoint (reply exApp x.1 r)))
    (emptyMemoryServer, .empty)

theorem answers_documents_refiled :
    Answers exApp exWatched.1 exWatched.2 ∧
      exWatched.2.customers.value "customer-2" = some (customerDocument "customer-2"
        ⟨"Rui", none, "rui@example.com", "11888880000", false⟩) ∧
      exWatched.2.vehicles.value "vehicle-2" = none ∧
      (exWatched.2.serviceOrders.value "order-2").isSome = true :=
  ⟨(answers_documents utc_roundTrip _ _ _ (fun _ => .error (.valueError ""))).1 _ _
      ⟨_, exRefiling, rfl,
        .cons rfl (.cons rfl (.cons rfl (.cons rfl (.cons rfl (.nil _)))))⟩,
    rfl, rfl, rfl⟩

end ServiceOrderOs.Api
