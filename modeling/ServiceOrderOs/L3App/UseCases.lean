import ServiceOrderOs.L3App.State

/-!
# The service order use cases

`OpenServiceOrderUseCase` and `HandleSagaEventUseCase`, with the values their
calls generate (the order's uuid, the stamps) and the publisher they meet as
arguments.
-/
namespace ServiceOrderOs.App
open Py Domain

variable {T : Type}

/-- mirrors src/application/use_cases.py:22-26 -/
structure OpenServiceOrderCommand where
  customerId : String
  vehicleId : String
  description : String

/-- The two optional registries, as what their `get` finds. -/
structure Registries (T : Type) where
  customers : Option (String → Option (Customer T))
  vehicles : Option (String → Option (Vehicle T))

namespace OpenServiceOrderUseCase

/-- mirrors src/application/use_cases.py:57-69 -/
def ensureCustomerVehicleAreValid (regs : Registries T) (customerId vehicleId : String) :
    Except PyError Unit :=
  match regs.customers, regs.vehicles with
  | some customers, some vehicles =>
    match customers customerId with
    | none => .error (.keyError s!"Customer not found: {customerId}")
    | some customer =>
      if !customer.isActive then .error (.valueError "Customer is inactive")
      else match vehicles vehicleId with
        | none => .error (.keyError s!"Vehicle not found: {vehicleId}")
        | some vehicle =>
          if vehicle.customerId ≠ customer.customerId then
            .error (.valueError "Vehicle does not belong to the informed customer")
          else .ok ()
  | _, _ => .ok ()

/-- mirrors src/application/use_cases.py:42-55 -/
def execute (pub : Publisher T) (regs : Registries T) (command : OpenServiceOrderCommand)
    (uuid : String) (now : T) (g : Stamp T) : AppM T (ServiceOrder T) := do
  lift (ensureCustomerVehicleAreValid regs command.customerId command.vehicleId)
  let serviceOrder ← lift
    (ServiceOrder.open command.customerId command.vehicleId command.description uuid now)
  let (event, serviceOrder) ← onLocal (ServiceOrder.requestQuote g) serviceOrder
  saveOrder serviceOrder
  publish pub event
  return serviceOrder

end OpenServiceOrderUseCase

namespace HandleSagaEventUseCase
open ServiceOrder

variable [Runtime T]

/-- `str(payload.get("service_order_id") or correlation_id)`.
mirrors src/application/use_cases.py:80-82 -/
def serviceOrderId (event : DomainEvent T) : String :=
  match event.payload.get? "service_order_id" with
  | some v => if v.truthy then v.toStr T else event.correlationId
  | none => event.correlationId

/-- `str(event.payload[key])` -/
def payloadStr (event : DomainEvent T) (key : String) : Method T String := fun o =>
  match event.payload.item key with
  | .ok v => .ok (v.toStr T) o
  | .error e => .error e o

/-- Of the stamps, `g'` is for the second transition of `PAYMENT_CONFIRMED`.
mirrors src/application/use_cases.py:90-123 -/
def apply (event : DomainEvent T) (g g' : Stamp T) : Method T (Option (DomainEvent T)) :=
  if event.eventType = "QUOTE_CREATED" then return none
  else if event.eventType = "QUOTE_APPROVED" then do
    return some (← markQuoteApproved (← payloadStr event "quote_id") g)
  else if event.eventType = "PAYMENT_PREFERENCE_CREATED" then do
    return some (← markPaymentPending (← payloadStr event "payment_id") g)
  else if event.eventType = "PAYMENT_CONFIRMED" then do
    let _ ← markPaymentConfirmed (← payloadStr event "payment_id") g
    return some (← requestExecution g')
  else if event.eventType = "EXECUTION_STARTED" then do
    return some (← markExecutionStarted g)
  else if event.eventType = "EXECUTION_COMPLETED" then do
    return some (← complete g)
  else if event.eventType = "QUOTE_FAILED" then do
    return some (← fail .quoteFailed "Quote creation failed" g)
  else if event.eventType = "PAYMENT_FAILED" then do
    return some (← fail .paymentFailed "Payment failed" g)
  else if event.eventType = "EXECUTION_ENQUEUE_FAILED" then do
    return some (← fail .executionEnqueueFailed "Execution enqueue failed" g)
  else if event.eventType = "EXECUTION_FAILED" then do
    return some (← fail .executionFailed "Execution failed" g)
  else throw (.valueError s!"Unsupported saga event: {event.eventType}")

/-- mirrors src/application/use_cases.py:79-88 -/
def execute (mode : RuntimeMode) (pub : Publisher T) (event : DomainEvent T) (g g' : Stamp T) :
    AppM T (ServiceOrder T) := do
  let serviceOrder ← lift ((← get).orders.get (serviceOrderId event))
  let (nextEvent, serviceOrder) ← onStored mode (apply event g g') serviceOrder
  saveOrder serviceOrder
  if let some e := nextEvent then publish pub e
  return serviceOrder

end HandleSagaEventUseCase
end ServiceOrderOs.App
