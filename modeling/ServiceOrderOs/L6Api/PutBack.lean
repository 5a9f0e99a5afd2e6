import ServiceOrderOs.L4Runs.RecordRuns
import ServiceOrderOs.L6Api.Isolation
import ServiceOrderOs.L6Api.RegistrySchemas

/-!
# What the API returns, sent back

Every record the routes store has been through its schema, so its fields are
normal, and the schema takes them as they are. The checks of an update skip the
values the record has already.

* `normalRecords_reachable`: the stored records are normal throughout a run.
* `put_back`: a `PUT` of what a `GET` has returned changes a record's
  `updated_at` only.
-/
namespace ServiceOrderOs.Api
open Core Py Domain App Runs

variable {T Tok σ κ ν υ : Type} [Runtime T]

/-! ## The records stay normal -/

/-- The bodies of the registry routes are what their schemas have made. -/
def Endpoint.FromSchema (py : Pydantic) : Endpoint T → Prop
  | .createCustomer payload _ | .updateCustomer _ payload _ =>
    ∀ a, payload = .valid a → ∃ d, CustomerRequest.validate py d = some a
  | .createVehicle payload _ | .updateVehicle _ payload _ =>
    ∀ a, payload = .valid a → ∃ d, VehicleRequest.validate py d = some a
  | _ => True

/-- The requests with such bodies, one after the other. -/
def apiLts [Casefold T] (py : Pydantic) (app : AppState T Tok σ κ ν υ)
    (start : Server T σ κ ν υ) : Lts (Server T σ κ ν υ) (Request T Tok) where
  init s := s = start
  step s r s' := r.endpoint.FromSchema py ∧ s' = served app s r

structure NormalRecords (py : Pydantic) (r : Records T) : Prop where
  customers : ∀ c ∈ r.customers.items, (customerRequest c).Normal py
  vehicles : ∀ v ∈ r.vehicles.items, (vehicleRequest v).Normal

omit [Runtime T] in
theorem NormalRecords.put_customer {py : Pydantic} {r : Records T} (h : NormalRecords py r)
    {c : Customer T} (hc : (customerRequest c).Normal py) :
    NormalRecords py { r with customers := r.customers.put c } := by
  refine ⟨fun d hd => ?_, h.vehicles⟩
  rcases Keyed.mem_put.mp hd with rfl | ⟨hd, -⟩
  · exact hc
  · exact h.customers d hd

omit [Runtime T] in
theorem NormalRecords.put_vehicle {py : Pydantic} {r : Records T} (h : NormalRecords py r)
    {v : Vehicle T} (hv : (vehicleRequest v).Normal) :
    NormalRecords py { r with vehicles := r.vehicles.put v } := by
  refine ⟨h.customers, fun w hw => ?_⟩
  rcases Keyed.mem_put.mp hw with rfl | ⟨hw, -⟩
  · exact hv
  · exact h.vehicles w hw

/-- The fields a call would store are normal. -/
def NormalCall (py : Pydantic) : RegistryCall T Tok → Prop
  | .createCustomer command _ => CustomerRequest.Normal py
      ⟨command.name, command.cpfCnpj, command.email, command.phone, command.isActive⟩
  | .updateCustomer command _ => CustomerRequest.Normal py
      ⟨command.name, command.cpfCnpj, command.email, command.phone, command.isActive⟩
  | .createVehicle command _ => VehicleRequest.Normal
      ⟨command.customerId, command.brand, command.model, command.year, command.plate⟩
  | .updateVehicle command _ => VehicleRequest.Normal
      ⟨command.customerId, command.brand, command.model, command.year, command.plate⟩
  | _ => True

omit [Runtime T] in
theorem makes_normal {py : Pydantic} (hpy : py.Lawful) {endpoint : Endpoint T}
    {l : RegistryCall T Tok} (hm : endpoint.Makes l) (hf : endpoint.FromSchema py) :
    NormalCall py l := by
  cases endpoint with
  | createCustomer | updateCustomer =>
    obtain ⟨a, ha, rfl⟩ := hm
    obtain ⟨d, hd⟩ := hf a ha
    exact CustomerRequest.validate_normal hpy hd
  | createVehicle | updateVehicle =>
    obtain ⟨a, ha, rfl⟩ := hm
    obtain ⟨d, hd⟩ := hf a ha
    exact VehicleRequest.validate_normal hd
  | register => obtain ⟨b, -, rfl⟩ := hm; trivial
  | listCustomers | getCustomer | deleteCustomer | listVehicles | getVehicle | deleteVehicle =>
    cases hm; trivial
  | _ => cases hm

omit [Runtime T] in
/-- One case per write. -/
theorem NormalRecords.step {py : Pydantic} {r r' : Records T} (h : NormalRecords py r)
    {l : RegistryCall T Tok} (hs : RecordStep r l r') (hl : NormalCall py l) :
    NormalRecords py r' := by
  cases hs with
  | same => exact h
  | createdCustomer command g => exact h.put_customer hl
  | updatedCustomer command now old hold => exact h.put_customer hl
  | deletedCustomer id =>
    exact ⟨fun c hc => h.customers c (Keyed.mem_erase.mp hc).1, h.vehicles⟩
  | createdVehicle command g => exact h.put_vehicle hl
  | updatedVehicle command now old hold => exact h.put_vehicle hl
  | deletedVehicle id =>
    exact ⟨h.customers, fun v hv => h.vehicles v (Keyed.mem_erase.mp hv).1⟩

section Runs
variable [Casefold T] {py : Pydantic} {app : AppState T Tok σ κ ν υ}
  {Rc : κ → Keyed (Customer.customerId (T := T)) → Prop}
  {Rv : ν → Keyed (Vehicle.vehicleId (T := T)) → Prop}

theorem normalRecords_reachable (hpy : py.Lawful) (hb : app.registries.KeepsRecords Rc Rv)
    {start : Server T σ κ ν υ} (hstart : Stored Rc Rv start.stores Records.empty)
    {s : Server T σ κ ν υ} (hs : (apiLts py app start).Reachable s) :
    ∃ r, Stored Rc Rv s.stores r ∧ NormalRecords py r := by
  have hind : (apiLts py app start).Inductive fun s =>
      ∃ r, Stored Rc Rv s.stores r ∧ NormalRecords py r := by
    constructor
    · intro s hs
      rw [show s = start from hs]
      exact ⟨_, hstart, fun c hc => (by cases hc), fun v hv => (by cases hv)⟩
    · intro s req s' hi hstep
      obtain ⟨r, hr, hn⟩ := hi
      obtain ⟨hf, rfl⟩ := hstep
      rcases served_called app s req with hsame | ⟨l, hm, hl⟩
      · rw [hsame]
        exact ⟨r, hr, hn⟩
      · obtain ⟨r', hr', hst⟩ := next_records hb app.passwordHasher hr l
        rw [hl]
        exact ⟨r', hr', hn.step hst (makes_normal hpy hm hf)⟩
  exact hind.reachable s hs

end Runs

/-! ## One `PUT` -/

section Put
variable {py : Pydantic} {app : AppState T Tok σ κ ν υ}
  {Rc : κ → Keyed (Customer.customerId (T := T)) → Prop}
  {Rv : ν → Keyed (Vehicle.vehicleId (T := T)) → Prop}
  {credentials : Option (HTTPAuthorizationCredentials Tok)} {s : Server T σ κ ν υ}

omit [Runtime T] in
/-- Behind the guard of an administrator the route runs. -/
theorem guarded_admin {p : AuthenticatedPrincipal} (hp : p.isAdmin = true) {α : Type}
    (statusCode : Nat) (a : α) (route : AuthenticatedPrincipal → α → ApiM T σ κ ν υ Json)
    (s : Server T σ κ ν υ) :
    (guarded ((.ok p : Except RouteError AuthenticatedPrincipal) >>= requireAdminPrincipal)
      statusCode (.valid a) route : ApiM T σ κ ν υ (Reply Tok)).run s =
      match (route p a).run s with
      | .ok json s' => .ok (.json statusCode json) s'
      | .error e s' => .error e s' := by
  have hadmin : ((.ok p : Except RouteError AuthenticatedPrincipal) >>= requireAdminPrincipal) =
      .ok p := by
    show requireAdminPrincipal p = .ok p
    rw [requireAdminPrincipal, hp]
    rfl
  rw [hadmin]
  show EStateM.run (do return Reply.json statusCode (← route p a)) s = _
  rw [EStateM.run_bind]
  cases (route p a).run s <;> rfl

theorem getCustomer_run (hb : app.registries.KeepsRecords Rc Rv) {r : Records T}
    (hr : Stored Rc Rv s.stores r) {c : Customer T} (hc : c ∈ r.customers.items) :
    (onStores (getCustomer app.registries.customers c.customerId) : ApiM T σ κ ν υ Json).run s =
      .ok (customerToResponse c) s := by
  have hget : app.registries.customers.get c.customerId s.stores.customers = .ok c := by
    refine (hb.customers.get _ _ c.customerId hr.customers).trans ?_
    rw [Keyed.find_of_mem hc]
  rw [onStores_run, getCustomer, map_run, respond_run, GetCustomerUseCase.execute, ask_run, hget]

/-- The lookups are skipped, the record having the values already. -/
theorem updateCustomer_back {b : Backend T κ ν υ} (hb : b.KeepsRecords Rc Rv)
    {stores : Stores κ ν υ} {r : Records T} (hr : Stored Rc Rv stores r) {c : Customer T}
    (hc : c ∈ r.customers.items) (now : T) :
    ∃ customers, Rc customers (r.customers.put { c with updatedAt := now }) ∧
      (updateCustomer b.customers c.customerId (customerRequest c) now :
        RegistryRouteM κ ν υ Json).run stores = .ok success { stores with customers := customers } := by
  have hfind := Keyed.find_of_mem hc
  have hget : b.customers.get c.customerId stores.customers = .ok c := by
    refine (hb.customers.get _ _ c.customerId hr.customers).trans ?_
    rw [hfind]
  have hcheck : UpdateCustomerUseCase.check b.customers
      ⟨c.customerId, c.name, c.cpfCnpj, c.email, c.phone, c.isActive⟩ stores.customers = .ok c := by
    have hcpf : (truthyText c.cpfCnpj).filter (fun v => some v ≠ c.cpfCnpj) = none := by
      cases hv : truthyText c.cpfCnpj with
      | none => rfl
      | some v => simp [(truthyText_some.mp hv).1, Option.filter]
    have hemail : (some c.email).filter (fun v => v ≠ c.email) = none := by simp [Option.filter]
    rw [UpdateCustomerUseCase.check_eq hget (by rw [hcpf]; rfl) (by rw [hemail]; rfl)]
    rfl
  obtain ⟨customers, hupd⟩ := hb.customers.taken _ _ { c with updatedAt := now } c hr.customers
    hfind rfl ⟨rfl, rfl⟩
  refine ⟨customers, hb.customers.update _ _ _ _ _ hr.customers hfind rfl hupd, ?_⟩
  rw [updateCustomer, map_run, respond_run, updateCustomer_run]
  simp only [customerRequest, hcheck]
  have hupd : b.customers.update { c with updatedAt := now }
      (b.customers.mutated c.customerId { c with updatedAt := now } stores.customers) =
      .ok customers := hupd
  simp only [UpdateCustomerUseCase.assign, hupd, wrote]

theorem getVehicle_run (hb : app.registries.KeepsRecords Rc Rv) {r : Records T}
    (hr : Stored Rc Rv s.stores r) {v : Vehicle T} (hv : v ∈ r.vehicles.items) :
    (onStores (getVehicle app.registries.vehicles v.vehicleId) : ApiM T σ κ ν υ Json).run s =
      .ok (vehicleToResponse v) s := by
  have hget : app.registries.vehicles.get v.vehicleId s.stores.vehicles = .ok v := by
    refine (hb.vehicles.get _ _ v.vehicleId hr.vehicles).trans ?_
    rw [Keyed.find_of_mem hv]
  rw [onStores_run, getVehicle, map_run, respond_run, GetVehicleUseCase.execute, ask_run, hget]

theorem updateVehicle_back {b : Backend T κ ν υ} (hb : b.KeepsRecords Rc Rv)
    {stores : Stores κ ν υ} {r : Records T} (hr : Stored Rc Rv stores r) {v : Vehicle T}
    (hv : v ∈ r.vehicles.items) {c : Customer T} (hc : c ∈ r.customers.items)
    (hown : c.customerId = v.customerId) (now : T) :
    ∃ vehicles, Rv vehicles (r.vehicles.put { v with updatedAt := now }) ∧
      (updateVehicle b.vehicles b.customers v.vehicleId (vehicleRequest v) now :
        RegistryRouteM κ ν υ Json).run stores = .ok success { stores with vehicles := vehicles } := by
  have hfind := Keyed.find_of_mem hv
  have hget : b.vehicles.get v.vehicleId stores.vehicles = .ok v := by
    refine (hb.vehicles.get _ _ v.vehicleId hr.vehicles).trans ?_
    rw [hfind]
  have hcustomer : b.customers.get v.customerId stores.customers = .ok c := by
    refine (hb.customers.get _ _ v.customerId hr.customers).trans ?_
    rw [← hown, Keyed.find_of_mem hc]
  have hcheck : UpdateVehicleUseCase.check b.vehicles b.customers
      ⟨v.vehicleId, v.customerId, v.brand, v.model, v.year, v.plate⟩ stores = .ok v := by
    have hplate : (some v.plate).filter (fun p => p ≠ v.plate) = none := by simp [Option.filter]
    simp only [UpdateVehicleUseCase.check, hget, hcustomer, found_bind, hplate]
    rfl
  obtain ⟨vehicles, hupd⟩ := hb.vehicles.taken _ _ { v with updatedAt := now } v hr.vehicles
    hfind rfl rfl
  refine ⟨vehicles, hb.vehicles.update _ _ _ _ _ hr.vehicles hfind rfl hupd, ?_⟩
  rw [updateVehicle, map_run, respond_run, updateVehicle_run]
  simp only [vehicleRequest, hcheck]
  have hupd : b.vehicles.update { v with updatedAt := now }
      (b.vehicles.mutated v.vehicleId { v with updatedAt := now } stores.vehicles) =
      .ok vehicles := hupd
  simp only [UpdateVehicleUseCase.assign, hupd, wrote]

end Put

/-! ## What is sent back -/

section Back
variable [Casefold T] (py : Pydantic) (app : AppState T Tok σ κ ν υ)

/-- An administrator's `GET` of a customer, and the `PUT` of what it returned. -/
structure PutsCustomerBack (credentials : Option (HTTPAuthorizationCredentials Tok))
    (s : Server T σ κ ν υ) (cs : List (Customer T)) (c : Customer T) (now : T) (json : Json)
    (s' : Server T σ κ ν υ) : Prop where
  got : reply app s ⟨credentials, .getCustomer c.customerId⟩ = .ok (.json 200 json)
  taken : reply app s ⟨credentials, .updateCustomer c.customerId
    (readBody (CustomerRequest.validate py) json) now⟩ = .ok (.json 200 success)
  customers : app.registries.customers.list s'.stores.customers = .ok (cs.map fun d =>
    if d.customerId = c.customerId then { d with updatedAt := now } else d)
  rest : s' = { s with stores := { s.stores with customers := s'.stores.customers } }

structure PutsVehicleBack (credentials : Option (HTTPAuthorizationCredentials Tok))
    (s : Server T σ κ ν υ) (vs : List (Vehicle T)) (v : Vehicle T) (now : T) (json : Json)
    (s' : Server T σ κ ν υ) : Prop where
  got : reply app s ⟨credentials, .getVehicle v.vehicleId⟩ = .ok (.json 200 json)
  taken : reply app s ⟨credentials, .updateVehicle v.vehicleId
    (readBody (VehicleRequest.validate py) json) now⟩ = .ok (.json 200 success)
  vehicles : app.registries.vehicles.list none s'.stores.vehicles = .ok (vs.map fun w =>
    if w.vehicleId = v.vehicleId then { w with updatedAt := now } else w)
  rest : s' = { s with stores := { s.stores with vehicles := s'.stores.vehicles } }

/-- Every customer can be put back, and every vehicle whose customer is stored. -/
def PutsBack (start : Server T σ κ ν υ) : Prop :=
  ∀ s, (apiLts py app start).Reachable s → ∀ credentials p,
    currentPrincipal app credentials = .ok p → p.isAdmin = true →
    ∃ cs vs, app.registries.customers.list s.stores.customers = .ok cs ∧
      app.registries.vehicles.list none s.stores.vehicles = .ok vs ∧
      (∀ c ∈ cs, ∀ now, PutsCustomerBack py app credentials s cs c now (customerToResponse c)
        (served app s ⟨credentials, .updateCustomer c.customerId
          (readBody (CustomerRequest.validate py) (customerToResponse c)) now⟩)) ∧
      ∀ v ∈ vs, (∃ c ∈ cs, c.customerId = v.customerId) → ∀ now,
        PutsVehicleBack py app credentials s vs v now (vehicleToResponse v)
          (served app s ⟨credentials, .updateVehicle v.vehicleId
            (readBody (VehicleRequest.validate py) (vehicleToResponse v)) now⟩)

variable {py app} {Rc : κ → Keyed (Customer.customerId (T := T)) → Prop}
  {Rv : ν → Keyed (Vehicle.vehicleId (T := T)) → Prop}

theorem puts_back (hpy : py.Lawful) (hb : app.registries.KeepsRecords Rc Rv)
    {start : Server T σ κ ν υ} (hstart : Stored Rc Rv start.stores Records.empty) :
    PutsBack py app start := by
  intro s hs credentials p hp hadmin
  obtain ⟨r, hr, hn⟩ := normalRecords_reachable hpy hb hstart hs
  refine ⟨r.customers.items, r.vehicles.items, hb.customers.list _ _ hr.customers,
    hb.vehicles.list _ _ hr.vehicles, fun c hc now => ?_, fun v hv hown now => ?_⟩
  · obtain ⟨customers, hR, hrun⟩ := updateCustomer_back hb hr hc now
    have hput : (handle app ⟨credentials, .updateCustomer c.customerId
        (readBody (CustomerRequest.validate py) (customerToResponse c)) now⟩).run s =
        .ok (.json 200 success) { s with stores := { s.stores with customers := customers } } := by
      rw [customer_revalidated hpy (hn.customers c hc)]
      simp only [handle, hp]
      rw [guarded_admin hadmin, onStores_run, hrun]
    have hget : (handle app ⟨credentials, .getCustomer c.customerId⟩).run s =
        .ok (.json 200 (customerToResponse c)) s := by
      simp only [handle, hp]
      rw [guarded_admin hadmin, getCustomer_run hb hr hc]
    refine ⟨by rw [reply, hget]; rfl, by rw [reply, hput]; rfl, ?_, by rw [served, hput]; rfl⟩
    rw [served, hput]
    refine (hb.customers.list _ _ hR).trans (congrArg _ ?_)
    exact Keyed.items_put_map hc (fun d => { d with updatedAt := now }) rfl
  · obtain ⟨c, hc, hown⟩ := hown
    obtain ⟨vehicles, hR, hrun⟩ := updateVehicle_back hb hr hv hc hown now
    have hput : (handle app ⟨credentials, .updateVehicle v.vehicleId
        (readBody (VehicleRequest.validate py) (vehicleToResponse v)) now⟩).run s =
        .ok (.json 200 success) { s with stores := { s.stores with vehicles := vehicles } } := by
      rw [vehicle_revalidated hpy (hn.vehicles v hv)]
      simp only [handle, hp]
      rw [guarded_admin hadmin, onStores_run, hrun]
    have hget : (handle app ⟨credentials, .getVehicle v.vehicleId⟩).run s =
        .ok (.json 200 (vehicleToResponse v)) s := by
      simp only [handle, hp]
      rw [guarded_admin hadmin, getVehicle_run hb hr hv]
    refine ⟨by rw [reply, hget]; rfl, by rw [reply, hput]; rfl, ?_, by rw [served, hput]; rfl⟩
    rw [served, hput]
    refine (hb.vehicles.list _ _ hR).trans (congrArg _ ?_)
    exact Keyed.items_put_map hv (fun w => { w with updatedAt := now }) rfl

end Back

/-- **What the API returns, it takes back.** In every state the routes can
reach, in memory and over the database: an administrator's `PUT` of what a
`GET` has returned, of any stored customer and any stored vehicle whose
customer is stored, succeeds and changes nothing but the record's `updated_at`.
The normal form of an accepted document or plate is accepted, and its own. -/
theorem put_back [Casefold T] {py : Pydantic} (hpy : py.Lawful) (hiso : IsoRoundTrip T)
    (settings : Settings) (hasher : PasswordHasher) (jose : Jose Tok)
    (loads : String → Except PyError Json) (pub : Publisher T)
    (service : Service T ServiceOrderTable) :
    PutsBack py (memoryApp settings hasher jose : AppState T Tok _ _ _ _) emptyMemoryServer ∧
    PutsBack py (realApp settings hasher jose loads pub : AppState T Tok _ _ _ _)
      ⟨service, emptyTables, 0⟩ ∧
    (∀ v, isValidCpfCnpj v = true → isValidCpfCnpj (normalizeDigits v) = true ∧
      normalizeDigits (normalizeDigits v) = normalizeDigits v) ∧
    ∀ v, isValidBrPlate v = true → isValidBrPlate (normalizePlate v) = true ∧
      normalizePlate (normalizePlate v) = normalizePlate v := by
  refine ⟨puts_back hpy memory_keeps ⟨rfl, rfl⟩, puts_back hpy (sql_keeps hiso) ⟨?_, ?_⟩,
    fun v hv => ⟨?_, normalizeDigits_idem v⟩, fun v hv => ⟨?_, normalizePlate_idem v⟩⟩
  · exact ⟨rfl, Keyed.unique_empty _⟩
  · exact ⟨rfl, Keyed.unique_empty _⟩
  · rw [isValidCpfCnpj_normalize]; exact hv
  · rw [isValidBrPlate_normalize]; exact hv

/-- Emails in small letters are normal, others refused. -/
def exPydantic : Pydantic where
  emailStr s := if '@' ∈ s.toList ∧ s.toList.all (fun c => !c.isUpper) then some s else none
  toBool
    | .bool b => some b
    | _ => none
  toInt
    | .int n => some n
    | _ => none

theorem exPydantic_lawful : exPydantic.Lawful where
  emailStr s e h := by
    simp only [exPydantic] at h ⊢
    split at h
    · rename_i hs
      cases h
      exact if_pos hs
    · cases h
  toBool _ := rfl
  toInt _ := rfl

theorem exFiled_apiReachable : (apiLts exPydantic exApp emptyMemoryServer).Reachable exFiled := by
  refine ⟨emptyMemoryServer, exFiling, rfl, .cons ⟨?_, rfl⟩ (.cons ⟨?_, rfl⟩ (.cons ⟨trivial, rfl⟩
    (.nil _)))⟩
  · intro a ha
    cases ha
    exact ⟨[("name", .str "Rui"), ("email", .str "rui@example.com"), ("phone", .str "11999990000")],
      rfl⟩
  · intro a ha
    cases ha
    exact ⟨[("customer_id", .str "customer-2"), ("brand", .str "Fiat"), ("model", .str "Uno"),
      ("year", .int 2010), ("plate", .str "abc-1d23")], rfl⟩

/-- A customer and its vehicle are put back. -/
theorem put_back_filed : ∃ cs vs, cs.length = 1 ∧ vs.length = 1 ∧
    (∀ c ∈ cs, PutsCustomerBack exPydantic exApp (exCredentials exAccessToken) exFiled cs c exUtc
      (customerToResponse c) (served exApp exFiled ⟨exCredentials exAccessToken,
        .updateCustomer c.customerId
          (readBody (CustomerRequest.validate exPydantic) (customerToResponse c)) exUtc⟩)) ∧
    ∀ v ∈ vs, (∃ c ∈ cs, c.customerId = v.customerId) →
      PutsVehicleBack exPydantic exApp (exCredentials exAccessToken) exFiled vs v exUtc
        (vehicleToResponse v) (served exApp exFiled ⟨exCredentials exAccessToken,
          .updateVehicle v.vehicleId
            (readBody (VehicleRequest.validate exPydantic) (vehicleToResponse v)) exUtc⟩) := by
  obtain ⟨cs, vs, hcs, hvs, hc, hv⟩ := (put_back exPydantic_lawful utc_roundTrip _ _ _
    (fun _ => .error (.valueError "")) reliable ⟨.empty, []⟩).1 exFiled exFiled_apiReachable
    (exCredentials exAccessToken) _ rfl rfl
  cases hcs
  cases hvs
  exact ⟨_, _, rfl, rfl, fun c h => hc c h exUtc, fun v h ho => hv v h ho exUtc⟩

end ServiceOrderOs.Api
