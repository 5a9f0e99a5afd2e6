import ServiceOrderOs.L2Domain.Event

/-!
# The service order aggregate

The public methods of `ServiceOrder` mutate the object they are called on and
may raise, so a method is a state transformer that keeps the state it had
reached when it raises (`Method`, an `EStateM`): whether a raising call leaves
the order untouched is a theorem here, not part of the model.

* `staged_run`: the six methods that check their stage. They differ in the
  stage, the target status, the texts and the event, so each is `staged`
  applied to its own.
* `requestQuote_run`, `fail_run`: the two methods without a stage check. Both
  rest on `transition` alone, which only refuses terminal orders.
-/
namespace ServiceOrderOs.Domain
open Py

variable {T : Type}

/-- mirrors src/domain/service_order.py:11-23 -/
inductive ServiceOrderStatus where
  | opened | quoteRequested | quoteFailed | quoteApproved | paymentPending | paymentConfirmed
  | paymentFailed | executionRequested | executionEnqueueFailed | executionInProgress
  | executionFailed | completed
  deriving DecidableEq, Repr

/-- The `StrEnum` values. -/
def ServiceOrderStatus.value : ServiceOrderStatus → String
  | .opened => "OPENED"
  | .quoteRequested => "QUOTE_REQUESTED"
  | .quoteFailed => "QUOTE_FAILED"
  | .quoteApproved => "QUOTE_APPROVED"
  | .paymentPending => "PAYMENT_PENDING"
  | .paymentConfirmed => "PAYMENT_CONFIRMED"
  | .paymentFailed => "PAYMENT_FAILED"
  | .executionRequested => "EXECUTION_REQUESTED"
  | .executionEnqueueFailed => "EXECUTION_ENQUEUE_FAILED"
  | .executionInProgress => "EXECUTION_IN_PROGRESS"
  | .executionFailed => "EXECUTION_FAILED"
  | .completed => "COMPLETED"

/-- mirrors src/domain/service_order.py:26-32 -/
def terminalStatuses : List ServiceOrderStatus :=
  [.quoteFailed, .paymentFailed, .executionEnqueueFailed, .executionFailed, .completed]

/-- mirrors src/domain/service_order.py:35-39 -/
structure ServiceOrderHistoryEntry (T : Type) where
  status : ServiceOrderStatus
  reason : String
  createdAt : T

/-- mirrors src/domain/service_order.py:42-49 -/
structure ServiceOrder (T : Type) where
  customerId : String
  vehicleId : String
  description : String
  serviceOrderId : String
  status : ServiceOrderStatus
  history : List (ServiceOrderHistoryEntry T)

/-- The statuses of the history, oldest first. -/
def ServiceOrder.statuses (self : ServiceOrder T) : List ServiceOrderStatus :=
  self.history.map (·.status)

abbrev Method (T α : Type) := EStateM PyError (ServiceOrder T) α

namespace ServiceOrder

/-- mirrors src/domain/service_order.py:152-153 -/
def record (status : ServiceOrderStatus) (reason : String) (now : T) (self : ServiceOrder T) :
    ServiceOrder T :=
  { self with history := self.history ++ [⟨status, reason, now⟩] }

/-- The order after a transition: the new status, recorded. -/
def moveTo (status : ServiceOrderStatus) (reason : String) (now : T) (self : ServiceOrder T) :
    ServiceOrder T :=
  record status reason now { self with status := status }

/-- `uuid` and `now` are what the default factories generate.
mirrors src/domain/service_order.py:51-64 -/
def «open» (customerId vehicleId description uuid : String) (now : T) :
    Except PyError (ServiceOrder T) :=
  if strip customerId = "" then .error (.valueError "Customer id is required")
  else if strip vehicleId = "" then .error (.valueError "Vehicle id is required")
  else if strip description = "" then .error (.valueError "Description is required")
  else .ok (record .opened "Service order opened" now
    { customerId := customerId, vehicleId := vehicleId, description := description,
      serviceOrderId := uuid, status := .opened, history := [] })

/-- mirrors src/domain/service_order.py:146-150 -/
def transition (status : ServiceOrderStatus) (reason : String) (now : T) : Method T Unit := do
  if (← get).status ∈ terminalStatuses then
    throw (.valueError "Terminal service orders cannot change status")
  modify fun self => { self with status := status }
  modify (record status reason now)

/-- mirrors src/domain/service_order.py:155-158 -/
def event (eventType : String) (payload : Dict) (g : Stamp T) : Method T (DomainEvent T) := do
  return ⟨eventType, (← get).serviceOrderId, payload, g.eventId, g.occurredAt⟩

/-- mirrors src/domain/service_order.py:66-76 -/
def requestQuote (g : Stamp T) : Method T (DomainEvent T) := do
  transition .quoteRequested "Quote requested" g.createdAt
  let self ← get
  event "OS_OPENED"
    [("service_order_id", .str self.serviceOrderId), ("customer_id", .str self.customerId),
     ("vehicle_id", .str self.vehicleId), ("description", .str self.description)] g

/-- What the stage-checking methods share: the order must be in status `stage`,
then moves to `status`; `extra` is what the payload holds beside the order's id. -/
def staged (stage : ServiceOrderStatus) (message : String) (status : ServiceOrderStatus)
    (reason eventType : String) (extra : Dict) (g : Stamp T) : Method T (DomainEvent T) := do
  if (← get).status ≠ stage then throw (.valueError message)
  transition status reason g.createdAt
  event eventType (("service_order_id", .str (← get).serviceOrderId) :: extra) g

/-- mirrors src/domain/service_order.py:78-85 -/
def markQuoteApproved (quoteId : String) (g : Stamp T) : Method T (DomainEvent T) :=
  staged .quoteRequested "Quote can only be approved after it is requested"
    .quoteApproved "Quote approved" "QUOTE_APPROVED" [("quote_id", .str quoteId)] g

/-- mirrors src/domain/service_order.py:87-96 -/
def markPaymentPending (paymentId : String) (g : Stamp T) : Method T (DomainEvent T) :=
  staged .quoteApproved "Payment can only start after quote approval"
    .paymentPending "Payment preference created" "PAYMENT_PENDING"
    [("payment_id", .str paymentId)] g

/-- mirrors src/domain/service_order.py:98-106 -/
def requestExecution (g : Stamp T) : Method T (DomainEvent T) :=
  staged .paymentConfirmed "Execution can only be requested after payment confirmation"
    .executionRequested "Execution requested" "EXECUTION_REQUESTED" [] g

/-- mirrors src/domain/service_order.py:108-115 -/
def markPaymentConfirmed (paymentId : String) (g : Stamp T) : Method T (DomainEvent T) :=
  staged .paymentPending "Payment can only be confirmed after it is pending"
    .paymentConfirmed "Payment confirmed" "PAYMENT_CONFIRMED" [("payment_id", .str paymentId)] g

/-- mirrors src/domain/service_order.py:117-123 -/
def markExecutionStarted (g : Stamp T) : Method T (DomainEvent T) :=
  staged .executionRequested "Execution can only start after it is requested"
    .executionInProgress "Execution started" "EXECUTION_STARTED" [] g

/-- mirrors src/domain/service_order.py:125-131 -/
def complete (g : Stamp T) : Method T (DomainEvent T) :=
  staged .executionInProgress "Service order can only complete while execution is in progress"
    .completed "Execution completed" "OS_COMPLETED" [] g

/-- mirrors src/domain/service_order.py:133-144 -/
def fail (status : ServiceOrderStatus) (reason : String) (g : Stamp T) :
    Method T (DomainEvent T) := do
  if status ∉ terminalStatuses.erase .completed then
    throw (.valueError "Failure status must be a terminal failure")
  transition status reason g.createdAt
  event "OS_COMPENSATION_REQUIRED"
    [("service_order_id", .str (← get).serviceOrderId), ("status", .str status.value),
     ("reason", .str reason)] g

/-! ## What each method does -/

@[simp] theorem moveTo_status (st : ServiceOrderStatus) (r : String) (t : T) (o : ServiceOrder T) :
    (o.moveTo st r t).status = st := rfl

@[simp] theorem moveTo_history (st : ServiceOrderStatus) (r : String) (t : T)
    (o : ServiceOrder T) : (o.moveTo st r t).history = o.history ++ [⟨st, r, t⟩] := rfl

@[simp] theorem moveTo_statuses (st : ServiceOrderStatus) (r : String) (t : T)
    (o : ServiceOrder T) : (o.moveTo st r t).statuses = o.statuses ++ [st] := by
  simp [statuses]

@[simp] theorem moveTo_id (st : ServiceOrderStatus) (r : String) (t : T) (o : ServiceOrder T) :
    (o.moveTo st r t).serviceOrderId = o.serviceOrderId := rfl

/-- The event a method of the order returns. -/
def newEvent (eventType : String) (extra : Dict) (g : Stamp T) (self : ServiceOrder T) :
    DomainEvent T :=
  ⟨eventType, self.serviceOrderId, ("service_order_id", .str self.serviceOrderId) :: extra,
    g.eventId, g.occurredAt⟩

/-- `open` refuses a blank id or description and otherwise returns an opened
order, filed under the generated id. -/
theorem open_ok {customerId vehicleId description uuid : String} {now : T} {o : ServiceOrder T}
    (h : ServiceOrder.open customerId vehicleId description uuid now = .ok o) :
    strip customerId ≠ "" ∧ strip vehicleId ≠ "" ∧ strip description ≠ "" ∧
      o = ⟨customerId, vehicleId, description, uuid, .opened,
        [⟨.opened, "Service order opened", now⟩]⟩ := by
  unfold ServiceOrder.open at h
  split at h; · cases h
  split at h; · cases h
  split at h; · cases h
  rename_i h1 h2 h3
  simp only [Except.ok.injEq] at h
  exact ⟨h1, h2, h3, h.symm⟩

theorem transition_run (st : ServiceOrderStatus) (r : String) (t : T) (o : ServiceOrder T) :
    (transition st r t).run o =
      if o.status ∈ terminalStatuses then
        .error (.valueError "Terminal service orders cannot change status") o
      else .ok () (o.moveTo st r t) := by
  unfold transition
  simp only [EStateM.run_bind, EStateM.run_get]
  split
  · simp [*]
  · simp [*]; rfl

theorem staged_run (stage : ServiceOrderStatus) (message : String) (st : ServiceOrderStatus)
    (r et : String) (extra : Dict) (g : Stamp T) (o : ServiceOrder T) :
    (staged stage message st r et extra g).run o =
      if o.status ≠ stage then .error (.valueError message) o
      else if o.status ∈ terminalStatuses then
        .error (.valueError "Terminal service orders cannot change status") o
      else .ok (o.newEvent et extra g) (o.moveTo st r g.createdAt) := by
  unfold staged event
  simp only [EStateM.run_bind, EStateM.run_get]
  by_cases h1 : o.status ≠ stage
  · simp [h1]
  · by_cases h2 : o.status ∈ terminalStatuses
    · simp [h1, h2, transition_run]
    · simp [h1, h2, transition_run]; rfl

theorem requestQuote_run (g : Stamp T) (o : ServiceOrder T) :
    (requestQuote g).run o =
      if o.status ∈ terminalStatuses then
        .error (.valueError "Terminal service orders cannot change status") o
      else .ok (o.newEvent "OS_OPENED" [("customer_id", .str o.customerId),
        ("vehicle_id", .str o.vehicleId), ("description", .str o.description)] g)
        (o.moveTo .quoteRequested "Quote requested" g.createdAt) := by
  unfold requestQuote event
  simp only [EStateM.run_bind, EStateM.run_get, transition_run]
  by_cases h : o.status ∈ terminalStatuses
  · simp [h]
  · simp [h]; rfl

theorem fail_run (st : ServiceOrderStatus) (r : String) (g : Stamp T) (o : ServiceOrder T) :
    (fail st r g).run o =
      if st ∉ terminalStatuses.erase .completed then
        .error (.valueError "Failure status must be a terminal failure") o
      else if o.status ∈ terminalStatuses then
        .error (.valueError "Terminal service orders cannot change status") o
      else .ok (o.newEvent "OS_COMPENSATION_REQUIRED"
        [("status", .str st.value), ("reason", .str r)] g) (o.moveTo st r g.createdAt) := by
  unfold fail event
  by_cases h1 : st ∉ terminalStatuses.erase .completed
  · simp [h1]
  · by_cases h2 : o.status ∈ terminalStatuses
    · simp [h1, h2, transition_run]
    · simp [h1, h2, transition_run]; rfl

end ServiceOrder
end ServiceOrderOs.Domain
