import ServiceOrderOs.L4Runs.EventLog

/-!
# The events endpoint

`POST /service-orders/{service_order_id}/events`, behind the authentication and
with a body the schema has accepted. A route returns a JSON document or leaves
an exception: an `HTTPException`, or another one, which the server answers
with 500.

The id in the path is only a default: the body's payload is merged over it, so
an id the payload names takes its place (`addressed`).

* `handleSagaEvent_cases`: what a request does to the orders and the log.
* `only_order_iff`: when a request touches nothing but the order in its path.
-/
namespace ServiceOrderOs.Api
open Py Domain App Runs

variable {T : Type} [Runtime T]

/-- mirrors src/presentation/api/routes/service_order_routes.py:30-33 -/
structure SagaEventRequest where
  eventType : String
  correlationId : String
  payload : Dict

inductive RouteError where
  | http (statusCode : Nat) (detail : String)
  | unhandled (e : PyError)
  deriving DecidableEq, Repr

abbrev RouteM (T α : Type) := EStateM RouteError (Sys T) α

/-- mirrors src/presentation/api/routes/service_order_routes.py:36-41 -/
def historyToResponse (entry : ServiceOrderHistoryEntry T) : Json :=
  .obj [("status", .str entry.status.value), ("reason", .str entry.reason),
    ("created_at", .str (Runtime.isoformat entry.createdAt))]

/-- mirrors src/presentation/api/routes/service_order_routes.py:44-52 -/
def serviceOrderToResponse (serviceOrder : ServiceOrder T) : Dict :=
  [("service_order_id", .str serviceOrder.serviceOrderId),
   ("customer_id", .str serviceOrder.customerId), ("vehicle_id", .str serviceOrder.vehicleId),
   ("description", .str serviceOrder.description), ("status", .str serviceOrder.status.value),
   ("history", .arr (serviceOrder.history.map historyToResponse))]

/-- The `except` clauses around the use case; the detail is `str` of the
exception, for a `KeyError` the `repr` of its key. -/
def toRouteError (T : Type) [Runtime T] : PyError → RouteError
  | .keyError key => .http 404 (reprStr (Runtime.isprintable T) key)
  | .valueError message => .http 400 message
  | .typeError message => .unhandled (.typeError message)

/-- The event of a request; its id and time are generated.
mirrors src/presentation/api/routes/service_order_routes.py:124-130 -/
def requestEvent (serviceOrderId : String) (payload : SagaEventRequest) (eventId : String)
    (occurredAt : T) : DomainEvent T where
  eventType := payload.eventType
  correlationId := payload.correlationId
  payload := Dict.update [("service_order_id", .str serviceOrderId)] payload.payload
  eventId := eventId
  occurredAt := occurredAt

/-- mirrors src/presentation/api/routes/service_order_routes.py:116-145 -/
def handleSagaEvent (mode : RuntimeMode) (pub : Publisher T) (serviceOrderId : String)
    (payload : SagaEventRequest) (eventId : String) (occurredAt : T) (g g' : Stamp T) :
    RouteM T Dict := fun s =>
  match (HandleSagaEventUseCase.execute mode pub
      (requestEvent serviceOrderId payload eventId occurredAt) g g').run s with
  | .ok serviceOrder s' => .ok (serviceOrderToResponse serviceOrder) s'
  | .error e s' => .error (toRouteError T e) s'

/-! ## Which order a request is about -/

/-- What the payload names, else the path; the correlation id where that is
falsy. -/
def addressed (T : Type) [Runtime T] (serviceOrderId : String) (payload : SagaEventRequest) :
    String :=
  let v := (payload.payload.get? "service_order_id").getD (.str serviceOrderId)
  if v.truthy then v.toStr T else payload.correlationId

theorem serviceOrderId_requestEvent (serviceOrderId : String) (payload : SagaEventRequest)
    (eventId : String) (occurredAt : T) :
    HandleSagaEventUseCase.serviceOrderId
      (requestEvent serviceOrderId payload eventId occurredAt) =
      addressed T serviceOrderId payload := by
  unfold HandleSagaEventUseCase.serviceOrderId requestEvent addressed
  rw [Dict.get?_update]
  cases payload.payload.get? "service_order_id" <;> simp

/-- A request is refused and changes nothing, or the order it is about takes
its event. -/
theorem handleSagaEvent_cases (mode : RuntimeMode) (pub : Publisher T) (serviceOrderId : String)
    (payload : SagaEventRequest) (eventId : String) (occurredAt : T) (g g' : Stamp T) (s : Sys T) :
    let event := requestEvent serviceOrderId payload eventId occurredAt
    let r := (handleSagaEvent mode pub serviceOrderId payload eventId occurredAt g g').run s
    ((∀ o, s.orders.find (addressed T serviceOrderId payload) = some o → ¬ Takes event o) ∧
      ∃ e, r = .error e s) ∨
    ∃ o o' out, s.orders.find (addressed T serviceOrderId payload) = some o ∧
      Accepts event g g' o o' out ∧ (left r).orders = s.orders.save o' ∧
      (left r).log = s.log ++ out.toList.filter (fun e => (pub e).isNone) ∧
      (∀ d s', r = .ok d s' → d = serviceOrderToResponse o') ∧
      (out = none → ∃ s', r = .ok (serviceOrderToResponse o') s') := by
  intro event r
  have hid : HandleSagaEventUseCase.serviceOrderId event =
      addressed T serviceOrderId payload := serviceOrderId_requestEvent ..
  have hr : r = match (HandleSagaEventUseCase.execute mode pub event g g').run s with
      | .ok serviceOrder s' => .ok (serviceOrderToResponse serviceOrder) s'
      | .error e s' => .error (toRouteError T e) s' := rfl
  rcases execute_cases mode pub event g g' s with ⟨e, hx, hno⟩ | ⟨o, o', out, hf, ha, hx⟩
  · left
    refine ⟨fun o hf ht => ?_, toRouteError T e, by rw [hr, hx]⟩
    obtain ⟨o', out, ha⟩ := (takes_iff g g').mp ht
    exact hno o o' out (by rw [hid]; exact hf) ha
  · right
    have hleft := left_announce pub o' out { s with orders := s.orders.save o' }
    refine ⟨o, o', out, by rw [← hid]; exact hf, ha, ?_⟩
    rw [hx] at hr
    cases hout : (announce pub o' out).run { s with orders := s.orders.save o' } with
    | ok o₂ s₂ =>
      have ho₂ : o₂ = o' := by
        cases out with
        | none => cases hout; rfl
        | some e =>
          simp only [announce, publish, EStateM.run_bind] at hout
          cases hp : pub e <;> rw [hp] at hout <;> cases hout
          rfl
      rw [hout] at hr hleft
      simp only [left] at hleft
      rw [hr, ho₂, hleft]
      exact ⟨rfl, rfl, fun d s' h => by cases h; rfl, fun _ => ⟨_, rfl⟩⟩
    | error e s₂ =>
      rw [hout] at hr hleft
      simp only [left] at hleft
      rw [hr, hleft]
      refine ⟨rfl, rfl, fun d s' h => ?_, fun hn => ?_⟩
      · cases h
      · rw [hn] at hout; cases hout

/-! ## What a request touches -/

/-- The result `r` of a request begun in `s` leaves every order but `id` as it
was, returns the order `id` or none, and publishes about `id` only. -/
structure OnlyOrder (id : String) (s : Sys T) (r : EStateM.Result RouteError (Sys T) Dict) :
    Prop where
  others : ∀ id', id' ≠ id → (left r).orders.find id' = s.orders.find id'
  returned : ∀ d s', r = .ok d s' → d.get? "service_order_id" = some (.str id)
  published : ∃ new, (left r).log = s.log ++ new ∧ ∀ e ∈ new, e.correlationId = id

/-- **When the events endpoint touches only the order in its path.** For every
store, path and body, in either runtime mode and with any publisher: if and
only if the body is about the order in the path, or about an order that is not
stored or does not take the event. -/
theorem only_order_iff (mode : RuntimeMode) (pub : Publisher T) (serviceOrderId : String)
    (payload : SagaEventRequest) (eventId : String) (occurredAt : T) (g g' : Stamp T)
    (s : Sys T) :
    OnlyOrder serviceOrderId s
        ((handleSagaEvent mode pub serviceOrderId payload eventId occurredAt g g').run s) ↔
      addressed T serviceOrderId payload = serviceOrderId ∨
        ∀ o, s.orders.find (addressed T serviceOrderId payload) = some o →
          ¬ Takes (requestEvent serviceOrderId payload eventId occurredAt) o := by
  rcases handleSagaEvent_cases mode pub serviceOrderId payload eventId occurredAt g g' s with
    ⟨hno, e, hr⟩ | ⟨o, o', out, hf, ha, ho, hl, hd, hok⟩
  · refine ⟨fun _ => .inr hno, fun _ => ?_⟩
    rw [hr]
    refine ⟨fun _ _ => rfl, fun d s' h => ?_, [], (List.append_nil _).symm, fun e he => ?_⟩
    · cases h
    · exact absurd he List.not_mem_nil
  · have hid := ha.filed hf
    constructor
    · intro h
      left
      by_contra hne
      -- the order addressed must be unchanged, so nothing followed from the event
      have hsame := h.others _ hne
      rw [ho, hf, ← hid, OrderStore.save_find_self, Option.some.injEq] at hsame
      have hout : out = none := by
        cases out with
        | none => rfl
        | some e => exact absurd (congrArg ServiceOrder.status hsame) (accepts_status_ne ha)
      obtain ⟨s', hr⟩ := hok hout
      have hret := h.returned _ s' hr
      simp only [serviceOrderToResponse, Dict.get?_cons, if_true, Option.some.injEq,
        Json.str.injEq] at hret
      exact hne (hid.symm.trans hret)
    · intro h
      have haddr : addressed T serviceOrderId payload = serviceOrderId := by
        rcases h with h | h
        · exact h
        · exact absurd ((takes_iff g g').mpr ⟨o', out, ha⟩) (h o hf)
      rw [haddr] at hid
      refine ⟨fun id' hne => ?_, fun d s' hr => ?_, _, hl, fun e he => ?_⟩
      · rw [ho, OrderStore.save_find_of_ne _ _ (by rw [hid]; exact hne)]
      · rw [hd d s' hr]
        simp [serviceOrderToResponse, hid]
      · obtain ⟨-, -, -, hab⟩ := accepts_recorded ha
        rw [(hab e (List.mem_of_mem_filter he)).1, ← ha.id_eq, hid]

/-- A body for the path of another order. -/
def exBody : SagaEventRequest where
  eventType := "QUOTE_APPROVED"
  correlationId := "os-2"
  payload := [("service_order_id", .str "os-1"), ("quote_id", .str "quote-1")]

/-- Posted to `os-2`, the body approves the quote of `os-1`. -/
theorem other_order_approved :
    let s := exOpen.next .real Sys.empty
    let r := (handleSagaEvent .real reliable "os-2" exBody "event-2" exNow (exStamp "event-3")
      (exStamp "event-4")).run s
    ¬ OnlyOrder "os-2" s r ∧
      ((left r).orders.find "os-1").map (·.status) = some .quoteApproved := by
  intro s r
  refine ⟨fun h => ?_, rfl⟩
  have hsame := congrArg (Option.map ServiceOrder.status) (h.others "os-1" (by decide))
  exact absurd hsame (by decide)

end ServiceOrderOs.Api
