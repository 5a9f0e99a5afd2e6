import ServiceOrderOs.L1Values.JsonDocument
import ServiceOrderOs.L2Domain.Aggregate

/-!
# The contract of integration events

What every message on the wire must be: an object with five fields, the type
one of a closed set, the payload an object. `validateEventMessage` checks it in
that order, and nothing else of the fields. The type is looked up in a set, so
a list or an object there raises `TypeError` before the payload is looked at.

* `validate_envelope`, `validate_unhashable`, `validate_refuses`: the three
  outcomes, each with the messages it is for.
* `toMessage_envelope`: an event with a type of the set is within the contract.
* `methodCall_contract`: so is every event a service order returns.
-/
namespace ServiceOrderOs.App
open Py Domain

/-- mirrors src/infrastructure/messaging/event_contracts.py:7-23 -/
def integrationEventTypes : List String :=
  ["OS_OPENED", "QUOTE_CREATED", "QUOTE_APPROVED", "PAYMENT_PREFERENCE_CREATED", "PAYMENT_PENDING",
    "PAYMENT_CONFIRMED", "EXECUTION_REQUESTED", "EXECUTION_STARTED", "EXECUTION_COMPLETED",
    "QUOTE_FAILED", "PAYMENT_FAILED", "EXECUTION_ENQUEUE_FAILED", "EXECUTION_FAILED",
    "OS_COMPLETED", "OS_COMPENSATION_REQUIRED"]

/-- `required_fields`, sorted. -/
def requiredFields : List String :=
  ["correlation_id", "event_id", "event_type", "occurred_at", "payload"]

/-- `value in strings`, for a set of strings: a value that cannot be hashed
raises. -/
def inSet (value : Json) (strings : List String) : Except PyError Bool :=
  match value with
  | .str s => .ok (s ∈ strings)
  | .arr _ => .error (.typeError "unhashable type: 'list'")
  | .obj _ => .error (.typeError "unhashable type: 'dict'")
  | _ => .ok false

variable (T : Type) [Runtime T]

/-- mirrors src/infrastructure/messaging/event_contracts.py:32-46 -/
def validateEventMessage (message : Dict) : Except PyError Unit := do
  let missingFields := requiredFields.filter fun field => (message.get? field).isNone
  if missingFields ≠ [] then
    let names := (Json.arr (missingFields.map .str)).repr (Runtime.isprintable T)
    throw (.valueError s!"Event message is missing fields: {names}")
  let eventType ← message.item "event_type"
  if !(← inSet eventType integrationEventTypes) then
    throw (.valueError s!"Unsupported event type: {eventType.toStr T}")
  match ← message.item "payload" with
  | .obj _ => return ()
  | _ => throw (.valueError "Event payload must be an object")

variable {T}

/-- mirrors src/infrastructure/messaging/event_contracts.py:26-29 -/
def eventToMessage (event : DomainEvent T) : Except PyError Dict := do
  let message := event.toMessage
  validateEventMessage T message
  return message

/-! ## What is checked -/

def HasFields (message : Dict) : Prop := ∀ field ∈ requiredFields, (message.get? field).isSome

/-- A message within the contract. -/
structure IsEnvelope (message : Dict) : Prop where
  fields : HasFields message
  eventType : ∃ t ∈ integrationEventTypes, message.get? "event_type" = some (.str t)
  payload : ∃ d, message.get? "payload" = some (.obj d)

/-- A list or an object. -/
def Json.isContainer : Json → Bool
  | .arr _ | .obj _ => true
  | _ => false

/-- A message whose type cannot be looked up. -/
structure Unhashable (message : Dict) : Prop where
  fields : HasFields message
  eventType : ∃ v, message.get? "event_type" = some v ∧ Json.isContainer v = true

variable {message : Dict}

theorem missingFields_eq_nil :
    requiredFields.filter (fun field => (message.get? field).isNone) = [] ↔ HasFields message := by
  rw [List.filter_eq_nil_iff]
  refine forall_congr' fun field => forall_congr' fun _ => ?_
  cases message.get? field <;> simp

/-- With every field there, the type is looked at first and the payload last. -/
theorem validate_fields (h : HasFields message) {t p : Json}
    (ht : message.get? "event_type" = some t) (hp : message.get? "payload" = some p) :
    validateEventMessage T message = (do
      if !(← inSet t integrationEventTypes) then
        throw (.valueError s!"Unsupported event type: {t.toStr T}")
      match p with
      | .obj _ => return ()
      | _ => throw (.valueError "Event payload must be an object")) := by
  have hitem : message.item "event_type" = .ok t := by rw [Dict.item, ht]
  have hitem' : message.item "payload" = .ok p := by rw [Dict.item, hp]
  unfold validateEventMessage
  dsimp only
  rw [missingFields_eq_nil.mpr h, hitem, hitem']
  rfl

theorem HasFields.get? (h : HasFields message) (field : String) (hf : field ∈ requiredFields) :
    ∃ v, message.get? field = some v := Option.isSome_iff_exists.mp (h field hf)

theorem validate_envelope (h : IsEnvelope message) : validateEventMessage T message = .ok () := by
  obtain ⟨t, hmem, ht⟩ := h.eventType
  obtain ⟨d, hd⟩ := h.payload
  rw [validate_fields h.fields ht hd, inSet, decide_eq_true hmem]
  rfl

theorem validate_unhashable (h : Unhashable message) :
    ∃ text, validateEventMessage T message = .error (.typeError text) := by
  obtain ⟨t, ht, hcontainer⟩ := h.eventType
  obtain ⟨p, hp⟩ := h.fields.get? "payload" (by decide)
  rw [validate_fields h.fields ht hp]
  cases t with
  | arr xs => exact ⟨_, rfl⟩
  | obj fs => exact ⟨_, rfl⟩
  | _ => cases hcontainer

theorem Unhashable.not_envelope (h : Unhashable message) : ¬ IsEnvelope message := by
  intro henvelope
  obtain ⟨v, hv, hcontainer⟩ := h.eventType
  obtain ⟨s, -, hs⟩ := henvelope.eventType
  rw [hs, Option.some.injEq] at hv
  rw [← hv] at hcontainer
  cases hcontainer

theorem validate_refuses (h : ¬ IsEnvelope message) (h' : ¬ Unhashable message) :
    ∃ text, validateEventMessage T message = .error (.valueError text) := by
  by_cases hfields : HasFields message
  · obtain ⟨t, ht⟩ := hfields.get? "event_type" (by decide)
    obtain ⟨p, hp⟩ := hfields.get? "payload" (by decide)
    rw [validate_fields hfields ht hp]
    cases t with
    | str s =>
      by_cases hmem : s ∈ integrationEventTypes
      · rw [inSet, decide_eq_true hmem]
        cases p with
        | obj d => exact absurd ⟨hfields, ⟨s, hmem, ht⟩, d, hp⟩ h
        | _ => exact ⟨_, rfl⟩
      · rw [inSet, decide_eq_false hmem]
        exact ⟨_, rfl⟩
    | arr xs => exact absurd ⟨hfields, _, ht, rfl⟩ h'
    | obj fs => exact absurd ⟨hfields, _, ht, rfl⟩ h'
    | _ => exact ⟨_, rfl⟩
  · unfold validateEventMessage
    dsimp only
    rw [if_pos (mt missingFields_eq_nil.mp hfields)]
    exact ⟨_, rfl⟩

/-! ## The events of the domain -/

section Events
variable {event : DomainEvent T}

theorem toMessage_fields (event : DomainEvent T) : HasFields event.toMessage := by
  unfold HasFields requiredFields
  simp [DomainEvent.toMessage]

theorem toMessage_envelope (h : event.eventType ∈ integrationEventTypes) :
    IsEnvelope event.toMessage where
  fields := toMessage_fields event
  eventType := ⟨_, h, rfl⟩
  payload := ⟨_, rfl⟩

theorem eventToMessage_ok (h : event.eventType ∈ integrationEventTypes) :
    eventToMessage event = .ok event.toMessage := by
  rw [eventToMessage, validate_envelope (toMessage_envelope h)]
  rfl

theorem eventToMessage_error (h : event.eventType ∉ integrationEventTypes) :
    eventToMessage event = .error (.valueError s!"Unsupported event type: {event.eventType}") := by
  rw [eventToMessage, validate_fields (toMessage_fields event) rfl rfl, inSet, decide_eq_false h]
  rfl

theorem toMessage_wellFormed {isRepr : String → Prop}
    (h : (Json.obj event.payload).WellFormed isRepr) :
    (Json.obj event.toMessage).WellFormed isRepr := by
  refine .obj (by simp [DomainEvent.toMessage]) ?_
  simp only [DomainEvent.toMessage, List.forall_mem_cons, List.not_mem_nil, false_implies,
    implies_true, and_true]
  exact ⟨.str _, .str _, .str _, .str _, h⟩

omit [Runtime T] in
theorem eventType_integration (c : MethodCall T) : c.eventType ∈ integrationEventTypes := by
  cases c <;> simp [MethodCall.eventType, integrationEventTypes]

omit [Runtime T] in
/-- What a method puts beside the order's id: texts, under keys of their own. -/
theorem extra_texts (c : MethodCall T) (o : ServiceOrder T) : ∃ fields : List (String × String),
    c.extra o = fields.map (fun f => (f.1, .str f.2)) ∧
      ("service_order_id" :: fields.map Prod.fst).Nodup := by
  cases c with
  | requestQuote g =>
    exact ⟨[("customer_id", o.customerId), ("vehicle_id", o.vehicleId),
      ("description", o.description)], rfl, by simp⟩
  | markQuoteApproved q g => exact ⟨[("quote_id", q)], rfl, by simp⟩
  | markPaymentPending p g => exact ⟨[("payment_id", p)], rfl, by simp⟩
  | markPaymentConfirmed p g => exact ⟨[("payment_id", p)], rfl, by simp⟩
  | fail st r g => exact ⟨[("status", st.value), ("reason", r)], rfl, by simp⟩
  | _ => exact ⟨[], rfl, by simp⟩

omit [Runtime T] in
/-- Every event a service order returns is of the contract. -/
theorem methodCall_contract (isRepr : String → Prop) {c : MethodCall T} {o o' : ServiceOrder T}
    (h : c.method.run o = .ok event o') : event.eventType ∈ integrationEventTypes ∧
      (Json.obj event.payload).WellFormed isRepr := by
  by_cases hready : c.Ready o.status ∧ o.status ∉ terminalStatuses
  · rw [c.run_ok o hready.1 hready.2] at h
    cases h
    obtain ⟨fields, hextra, hkeys⟩ := extra_texts c o
    refine ⟨eventType_integration c, ?_⟩
    rw [ServiceOrder.newEvent, hextra]
    exact strings_wellFormed (("service_order_id", o.serviceOrderId) :: fields) hkeys
  · obtain ⟨e, he⟩ := c.run_error o hready
    rw [he] at h
    cases h

end Events
end ServiceOrderOs.App
