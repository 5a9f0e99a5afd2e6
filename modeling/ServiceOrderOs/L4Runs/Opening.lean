import ServiceOrderOs.Core.Keyed
import ServiceOrderOs.L4Runs.System

/-!
# Is opening an order all or nothing?

`OpenServiceOrderUseCase.execute` looks a customer and a vehicle up, builds
the order, saves it and publishes `OS_OPENED`. Whatever refuses the command
comes before the save. The publication comes after it, and nothing undoes the
save when the publisher raises: the order stays, unannounced.

* `ensure_ok_iff`, `open_ok_iff`: when the checks before the save let a
  command through (`Admissible`).
* `open_all_or_nothing_iff`: opening is all or nothing for every command that
  is refused and every one whose publication returns, and for no other.
-/
namespace ServiceOrderOs.Runs
open Core Py Domain App

variable {T : Type}

/-- What a registry holds, each record under its own id. -/
abbrev Customers (T : Type) := Keyed (Customer.customerId : Customer T → String)

abbrev Vehicles (T : Type) := Keyed (Vehicle.vehicleId : Vehicle T → String)

/-- The registries the use case is built with. -/
def registries (customers : Option (Customers T)) (vehicles : Option (Vehicles T)) :
    Registries T :=
  ⟨customers.map Keyed.find, vehicles.map Keyed.find⟩

/-- What both registries must say of a command. -/
def Registered (customers : Option (Customers T)) (vehicles : Option (Vehicles T))
    (command : OpenServiceOrderCommand) : Prop :=
  ∀ cs vs, customers = some cs → vehicles = some vs →
    (∃ c, cs.find command.customerId = some c ∧ c.isActive) ∧
    ∃ v, vs.find command.vehicleId = some v ∧ v.customerId = command.customerId

structure Admissible (customers : Option (Customers T)) (vehicles : Option (Vehicles T))
    (command : OpenServiceOrderCommand) : Prop where
  customerId : strip command.customerId ≠ ""
  vehicleId : strip command.vehicleId ≠ ""
  description : strip command.description ≠ ""
  registered : Registered customers vehicles command

/-- The event that announces the order of a command. -/
def openedEvent (command : OpenServiceOrderCommand) (uuid : String) (g : Stamp T) :
    DomainEvent T where
  eventType := "OS_OPENED"
  correlationId := uuid
  payload := [("service_order_id", .str uuid), ("customer_id", .str command.customerId),
    ("vehicle_id", .str command.vehicleId), ("description", .str command.description)]
  eventId := g.eventId
  occurredAt := g.occurredAt

/-- The order belongs to the command and rests in `QUOTE_REQUESTED`. -/
structure OpenedFor (command : OpenServiceOrderCommand) (o : ServiceOrder T) : Prop where
  customerId : o.customerId = command.customerId
  vehicleId : o.vehicleId = command.vehicleId
  description : o.description = command.description
  status : o.status = .quoteRequested

/-- A call that raises has stored and published nothing; one that returns has
stored one new order and published its `OS_OPENED`, for an admissible command. -/
def AllOrNothing (customers : Option (Customers T)) (vehicles : Option (Vehicles T))
    (command : OpenServiceOrderCommand) (g : Stamp T) (s : Sys T) :
    EStateM.Result PyError (Sys T) (ServiceOrder T) → Prop
  | .error _ s' => s'.orders = s.orders ∧ s'.log = s.log
  | .ok o s' => OpenedFor command o ∧ s.orders.find o.serviceOrderId = none ∧
      s'.orders = s.orders.save o ∧
      s'.log = s.log ++ [openedEvent command o.serviceOrderId g] ∧
      Admissible customers vehicles command

/-! ## The checks before the save -/

theorem ensure_ok_iff (customers : Option (Customers T)) (vehicles : Option (Vehicles T))
    (command : OpenServiceOrderCommand) :
    OpenServiceOrderUseCase.ensureCustomerVehicleAreValid (registries customers vehicles)
        command.customerId command.vehicleId = .ok () ↔
      Registered customers vehicles command := by
  unfold OpenServiceOrderUseCase.ensureCustomerVehicleAreValid registries Registered
  cases customers with
  | none => simp
  | some cs =>
    cases vehicles with
    | none => simp
    | some vs =>
      simp only [Option.map_some, Option.some.injEq]
      cases hc : cs.find command.customerId with
      | none => simp [hc]
      | some c =>
        have hid : c.customerId = command.customerId := Keyed.find_key hc
        cases hv : vs.find command.vehicleId with
        | none => by_cases ha : c.isActive <;> simp [ha, hv]
        | some v =>
          by_cases ha : c.isActive <;> by_cases hb : v.customerId = command.customerId <;>
            simp [ha, hb, hc, hv, hid]

theorem open_ok_iff (command : OpenServiceOrderCommand) (uuid : String) (now : T) :
    (∃ o, ServiceOrder.open command.customerId command.vehicleId command.description uuid now =
        .ok o) ↔
      strip command.customerId ≠ "" ∧ strip command.vehicleId ≠ "" ∧
        strip command.description ≠ "" := by
  constructor
  · intro h
    obtain ⟨o, ho⟩ := h
    obtain ⟨h1, h2, h3, -⟩ := ServiceOrder.open_ok ho
    exact ⟨h1, h2, h3⟩
  · intro h
    unfold ServiceOrder.open
    rw [if_neg h.1, if_neg h.2.1, if_neg h.2.2]
    exact ⟨_, rfl⟩

/-- A command that is not admissible raises, and nothing has been done. -/
theorem open_inadmissible {customers : Option (Customers T)} {vehicles : Option (Vehicles T)}
    {command : OpenServiceOrderCommand} (h : ¬ Admissible customers vehicles command)
    (pub : Publisher T) (uuid : String) (now : T) (g : Stamp T) (s : Sys T) :
    ∃ e, (OpenServiceOrderUseCase.execute pub (registries customers vehicles) command uuid now
      g).run s = .error e s := by
  cases hv : OpenServiceOrderUseCase.ensureCustomerVehicleAreValid
      (registries customers vehicles) command.customerId command.vehicleId with
  | error e => exact ⟨e, open_refused g s (.inl hv)⟩
  | ok u =>
    cases ho : ServiceOrder.open command.customerId command.vehicleId command.description uuid
        now with
    | error e => exact ⟨e, open_refused g s (.inr ⟨hv, ho⟩)⟩
    | ok o =>
      obtain ⟨h1, h2, h3⟩ := (open_ok_iff command uuid now).mp ⟨o, ho⟩
      exact absurd ⟨h1, h2, h3, (ensure_ok_iff ..).mp hv⟩ h

/-- An admissible command is saved before its event is published. -/
theorem open_admissible {customers : Option (Customers T)} {vehicles : Option (Vehicles T)}
    {command : OpenServiceOrderCommand} (h : Admissible customers vehicles command)
    (pub : Publisher T) (uuid : String) (now : T) (g : Stamp T) (s : Sys T) :
    ∃ o : ServiceOrder T, OpenedFor command o ∧ o.serviceOrderId = uuid ∧
      (OpenServiceOrderUseCase.execute pub (registries customers vehicles) command uuid now
        g).run s =
        (announce pub o (some (openedEvent command uuid g))).run
          { s with orders := s.orders.save o } := by
  obtain ⟨o, ho⟩ := (open_ok_iff command uuid now).mpr
    ⟨h.customerId, h.vehicleId, h.description⟩
  have hrun := open_run pub g s ((ensure_ok_iff ..).mpr h.registered) ho
  obtain ⟨-, -, -, rfl⟩ := ServiceOrder.open_ok ho
  exact ⟨_, ⟨rfl, rfl, rfl, rfl⟩, rfl, hrun⟩

/-- **When opening an order is all or nothing.** For every content of the
registries and the store, every command and every publisher, the uuid being
new: if and only if the command is not admissible or the publisher does not
raise on its `OS_OPENED`. -/
theorem open_all_or_nothing_iff (customers : Option (Customers T))
    (vehicles : Option (Vehicles T)) (command : OpenServiceOrderCommand) (pub : Publisher T)
    (uuid : String) (now : T) (g : Stamp T) (s : Sys T) (hnew : s.orders.find uuid = none) :
    AllOrNothing customers vehicles command g s
        ((OpenServiceOrderUseCase.execute pub (registries customers vehicles) command uuid now
          g).run s) ↔
      ¬ Admissible customers vehicles command ∨ pub (openedEvent command uuid g) = none := by
  by_cases h : Admissible customers vehicles command
  · obtain ⟨o, ho, rfl, hr⟩ := open_admissible h pub uuid now g s
    rw [hr]
    simp only [announce, publish, EStateM.run_bind, h, not_true_eq_false, false_or]
    cases hp : pub (openedEvent command o.serviceOrderId g) with
    | none => exact ⟨fun _ => rfl, fun _ => ⟨ho, hnew, rfl, rfl, h⟩⟩
    | some e =>
      refine ⟨fun hn => ?_, fun hn => by cases hn⟩
      -- the raise leaves the order in the store
      have hsame : s.orders.save o = s.orders := hn.1
      rw [← hsame, OrderStore.save_find_self] at hnew
      cases hnew
  · obtain ⟨e, hr⟩ := open_inadmissible h pub uuid now g s
    rw [hr]
    exact ⟨fun _ => .inl h, fun _ => ⟨rfl, rfl⟩⟩

def exCustomers : Customers Iso :=
  Keyed.empty.put ⟨"Cliente", "cliente@example.com", "11999999999", none, true, "customer-1",
    exNow, exNow⟩

def exVehicles : Vehicles Iso :=
  Keyed.empty.put ⟨"customer-1", "Toyota", "Corolla", 2023, "BRA2A34", "vehicle-1", exNow, exNow⟩

def exCommand : OpenServiceOrderCommand := ⟨"customer-1", "vehicle-1", "Brake inspection"⟩

theorem open_all_or_nothing_sent :
    AllOrNothing (some exCustomers) (some exVehicles) exCommand (exStamp "event-1") Sys.empty
      ((OpenServiceOrderUseCase.execute reliable
        (registries (some exCustomers) (some exVehicles)) exCommand "os-1" exNow
        (exStamp "event-1")).run Sys.empty) :=
  (open_all_or_nothing_iff (some exCustomers) (some exVehicles) exCommand reliable "os-1" exNow
    (exStamp "event-1") Sys.empty rfl).mpr (.inr rfl)

/-- The publisher is down: the call raises, and the order is in the store. -/
theorem unannounced_order :
    let down : Publisher Iso := fun _ => some (.valueError "connection refused")
    let r := (OpenServiceOrderUseCase.execute down
      (registries (some exCustomers) (some exVehicles)) exCommand "os-1" exNow
      (exStamp "event-1")).run Sys.empty
    ¬ AllOrNothing (some exCustomers) (some exVehicles) exCommand (exStamp "event-1") Sys.empty r ∧
      (∃ e s', r = .error e s' ∧ s'.log = [] ∧
        (s'.orders.find "os-1").map (·.status) = some .quoteRequested) := by
  intro down r
  refine ⟨fun h => ?_, _, _, rfl, rfl, rfl⟩
  have hfind := congrArg (fun t => (t.find "os-1").map (·.status)) h.1
  exact absurd hfind (by decide)

end ServiceOrderOs.Runs
