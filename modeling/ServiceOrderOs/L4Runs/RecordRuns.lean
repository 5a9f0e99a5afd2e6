import ServiceOrderOs.L3App.Records
import ServiceOrderOs.L4Runs.Registries

/-!
# The registries as records over runs

Over any backend that keeps records, a call does to the records what its use
case says, and nothing else: one record comes, changes or goes, or none.

* `next_records`: one call, as a step of the records.
-/
namespace ServiceOrderOs.Runs
open Core Py Domain App

variable {T Tok κ ν υ : Type}

structure Records (T : Type) where
  customers : Keyed (Customer.customerId (T := T))
  vehicles : Keyed (Vehicle.vehicleId (T := T))

def Records.empty : Records T := ⟨.empty, .empty⟩

/-- What a call may do to the records. -/
inductive RecordStep (r : Records T) : RegistryCall T Tok → Records T → Prop
  | same (l : RegistryCall T Tok) : RecordStep r l r
  | createdCustomer (command : CreateCustomerCommand) (g : Generated T) :
      RecordStep r (.createCustomer command g)
        { r with customers := r.customers.put (CreateCustomerUseCase.customer command g) }
  | updatedCustomer (command : UpdateCustomerCommand) (now : T) (old : Customer T)
      (hold : r.customers.find command.customerId = some old) :
      RecordStep r (.updateCustomer command now)
        { r with customers := r.customers.put (UpdateCustomerUseCase.assign command now old) }
  | deletedCustomer (id : String) :
      RecordStep r (.deleteCustomer id) { r with customers := r.customers.erase id }
  | createdVehicle (command : CreateVehicleCommand) (g : Generated T) :
      RecordStep r (.createVehicle command g)
        { r with vehicles := r.vehicles.put (CreateVehicleUseCase.vehicle command g) }
  | updatedVehicle (command : UpdateVehicleCommand) (now : T) (old : Vehicle T)
      (hold : r.vehicles.find command.vehicleId = some old) :
      RecordStep r (.updateVehicle command now)
        { r with vehicles := r.vehicles.put (UpdateVehicleUseCase.assign command now old) }
  | deletedVehicle (id : String) :
      RecordStep r (.deleteVehicle id) { r with vehicles := r.vehicles.erase id }

section Backend
variable {b : Backend T κ ν υ} {Rc : κ → Keyed (Customer.customerId (T := T)) → Prop}
  {Rv : ν → Keyed (Vehicle.vehicleId (T := T)) → Prop}

/-- The stores keep the records. -/
structure Stored (Rc : κ → Keyed (Customer.customerId (T := T)) → Prop)
    (Rv : ν → Keyed (Vehicle.vehicleId (T := T)) → Prop) (s : Stores κ ν υ) (r : Records T) :
    Prop where
  customers : Rc s.customers r.customers
  vehicles : Rv s.vehicles r.vehicles

theorem reads_records {β : Type} (f : β → RegistryReply T Tok)
    (x : Stores κ ν υ → Except PyError β) (s : Stores κ ν υ) :
    (match (f <$> ask x : RegistryM _ _ _ _).run s with
      | .ok _ s' => s'
      | .error _ s' => s') = s := by
  rw [map_run, ask_run]
  cases x s <;> rfl

theorem get_found {σ α : Type} {idOf : α → String} {p : Port σ α} {notFound : String → PyError}
    {kept alike : α → α → Prop} {R : σ → Keyed idOf → Prop} (hp : p.Keeps notFound kept alike R)
    {s : σ} {r : Keyed idOf} (h : R s r) {id : String} {a : α} (hget : p.get id s = .ok a) :
    r.find id = some a := by
  rw [hp.get s r id h] at hget
  cases hf : r.find id with
  | none => rw [hf] at hget; cases hget
  | some a' => rw [hf] at hget; cases hget; rfl

theorem updateCustomer_records (hb : b.KeepsRecords Rc Rv) (hasher : PasswordHasher)
    {s : Stores κ ν υ} {r : Records T} (h : Stored Rc Rv s r) (command : UpdateCustomerCommand)
    (now : T) :
    ∃ r', Stored Rc Rv
        (RegistryCall.next b hasher s (.updateCustomer command now : RegistryCall T Tok)) r' ∧
      RecordStep r (.updateCustomer command now : RegistryCall T Tok) r' := by
  simp only [RegistryCall.next, RegistryCall.run, map_run, updateCustomer_run]
  cases hc : UpdateCustomerUseCase.check b.customers command s.customers with
  | error e => exact ⟨r, h, .same _⟩
  | ok old =>
    have hold : r.customers.find command.customerId = some old :=
      get_found hb.customers h.customers (UpdateCustomerUseCase.check_ok hc).1
    have hid : old.customerId = command.customerId := Keyed.find_key hold
    have hold' : r.customers.find (UpdateCustomerUseCase.assign command now old).customerId =
        some old := by
      rw [show (UpdateCustomerUseCase.assign command now old).customerId = old.customerId from rfl,
        hid, hold]
    simp only
    rw [← hid]
    cases hu : b.customers.update (UpdateCustomerUseCase.assign command now old)
        (b.customers.mutated old.customerId (UpdateCustomerUseCase.assign command now old)
          s.customers) with
    | error e =>
      exact ⟨r, ⟨hb.customers.refused _ _ _ _ _ h.customers hold' hu, h.vehicles⟩, .same _⟩
    | ok c =>
      refine ⟨_, ?_, .updatedCustomer command now old hold⟩
      exact ⟨hb.customers.update _ _ _ _ _ h.customers hold' rfl hu, h.vehicles⟩

theorem updateVehicle_records (hb : b.KeepsRecords Rc Rv) (hasher : PasswordHasher)
    {s : Stores κ ν υ} {r : Records T} (h : Stored Rc Rv s r) (command : UpdateVehicleCommand)
    (now : T) :
    ∃ r', Stored Rc Rv
        (RegistryCall.next b hasher s (.updateVehicle command now : RegistryCall T Tok)) r' ∧
      RecordStep r (.updateVehicle command now : RegistryCall T Tok) r' := by
  simp only [RegistryCall.next, RegistryCall.run, map_run, updateVehicle_run]
  cases hc : UpdateVehicleUseCase.check b.vehicles b.customers command s with
  | error e => exact ⟨r, h, .same _⟩
  | ok old =>
    have hold : r.vehicles.find command.vehicleId = some old :=
      get_found hb.vehicles h.vehicles (UpdateVehicleUseCase.check_ok hc).1
    have hid : old.vehicleId = command.vehicleId := Keyed.find_key hold
    have hold' : r.vehicles.find (UpdateVehicleUseCase.assign command now old).vehicleId =
        some old := by
      rw [show (UpdateVehicleUseCase.assign command now old).vehicleId = old.vehicleId from rfl,
        hid, hold]
    simp only
    rw [← hid]
    cases hu : b.vehicles.update (UpdateVehicleUseCase.assign command now old)
        (b.vehicles.mutated old.vehicleId (UpdateVehicleUseCase.assign command now old)
          s.vehicles) with
    | error e =>
      exact ⟨r, ⟨h.customers, hb.vehicles.refused _ _ _ _ _ h.vehicles hold' hu⟩, .same _⟩
    | ok v =>
      refine ⟨_, ?_, .updatedVehicle command now old hold⟩
      exact ⟨h.customers, hb.vehicles.update _ _ _ _ _ h.vehicles hold' rfl hu⟩

/-- **One call on the records.** -/
theorem next_records (hb : b.KeepsRecords Rc Rv) (hasher : PasswordHasher) {s : Stores κ ν υ}
    {r : Records T} (h : Stored Rc Rv s r) (l : RegistryCall T Tok) :
    ∃ r', Stored Rc Rv (RegistryCall.next b hasher s l) r' ∧ RecordStep r l r' := by
  have reads : ∀ {l : RegistryCall T Tok}, RegistryCall.next b hasher s l = s →
      ∃ r', Stored Rc Rv (RegistryCall.next b hasher s l) r' ∧ RecordStep r l r' := by
    intro l hl
    rw [hl]
    exact ⟨r, h, .same l⟩
  cases l with
  | createCustomer command g =>
    simp only [RegistryCall.next, RegistryCall.run, map_run, createCustomer_run]
    cases CreateCustomerUseCase.check b.customers command s.customers with
    | error e => exact ⟨r, h, .same _⟩
    | ok u =>
      cases hs : b.customers.save (CreateCustomerUseCase.customer command g) s.customers with
      | error e => exact ⟨r, h, .same _⟩
      | ok c =>
        refine ⟨_, ?_, .createdCustomer command g⟩
        exact ⟨hb.customers.save _ _ _ _ h.customers hs, h.vehicles⟩
  | updateCustomer command now => exact updateCustomer_records hb hasher h command now
  | listCustomers => exact reads (reads_records .customers _ s)
  | getCustomer customerId => exact reads (reads_records .customer _ s)
  | deleteCustomer customerId =>
    refine ⟨_, ?_, .deletedCustomer customerId⟩
    exact ⟨hb.customers.delete _ _ customerId h.customers, h.vehicles⟩
  | createVehicle command g =>
    simp only [RegistryCall.next, RegistryCall.run, map_run, createVehicle_run]
    cases CreateVehicleUseCase.check b.vehicles b.customers command s with
    | error e => exact ⟨r, h, .same _⟩
    | ok u =>
      cases hs : b.vehicles.save (CreateVehicleUseCase.vehicle command g) s.vehicles with
      | error e => exact ⟨r, h, .same _⟩
      | ok v =>
        refine ⟨_, ?_, .createdVehicle command g⟩
        exact ⟨h.customers, hb.vehicles.save _ _ _ _ h.vehicles hs⟩
  | updateVehicle command now => exact updateVehicle_records hb hasher h command now
  | listVehicles customerId => exact reads (reads_records .vehicles _ s)
  | getVehicle vehicleId => exact reads (reads_records .vehicle _ s)
  | deleteVehicle vehicleId =>
    refine ⟨_, ?_, .deletedVehicle vehicleId⟩
    exact ⟨h.customers, hb.vehicles.delete _ _ vehicleId h.vehicles⟩
  | registerAdminUser command salt g =>
    refine ⟨r, ?_, .same _⟩
    obtain ⟨users, hu⟩ := next_register b hasher s command salt g
    rw [hu]
    exact ⟨h.customers, h.vehicles⟩
  | loginAdminUser command createToken => exact reads (next_login b hasher s command createToken)

end Backend
end ServiceOrderOs.Runs
