import ServiceOrderOs.L4Runs.System

/-!
# The table of saga events

One row per supported event type: what its payload must hold, where it lets an
order stand, the entries it records and the event that follows. The code
spreads this over payload lookups, a chain of tests, the guards of the methods
and the terminal check.

* `accepts_iff_row`: what `_apply` accepts, and its effect, row by row.
* `exact_acceptance`: when one execution returns, and what it then does.
-/
namespace ServiceOrderOs.Runs
open Py Domain App HandleSagaEventUseCase

variable {T : Type}

/-- Where an event lets an order stand. -/
inductive Kind where
  | note
  | forward (predecessor : ServiceOrderStatus)
  | failure
  deriving DecidableEq, Repr

def Kind.Allows : Kind → ServiceOrderStatus → Prop
  | .note, _ => True
  | .forward predecessor, st => st = predecessor
  | .failure, st => st ∉ terminalStatuses

structure Row where
  eventType : String
  kind : Kind
  /-- the key the payload must have -/
  needs : Option String
  /-- the entries recorded: status and reason -/
  steps : List (ServiceOrderStatus × String)
  /-- the type of the event that follows -/
  announces : Option String
  /-- what that event carries beside the order's id, of the value under the key -/
  extra : String → Dict

def noteRow (eventType : String) : Row := ⟨eventType, .note, none, [], none, fun _ => []⟩

def failureRow (eventType : String) (status : ServiceOrderStatus) (reason : String) : Row where
  eventType := eventType
  kind := .failure
  needs := none
  steps := [(status, reason)]
  announces := some "OS_COMPENSATION_REQUIRED"
  extra := fun _ => [("status", .str status.value), ("reason", .str reason)]

/-- The row of a type that calls one method. -/
def callRow : SagaEvent → Row
  | .quoteApproved => ⟨"QUOTE_APPROVED", .forward .quoteRequested, some "quote_id",
      [(.quoteApproved, "Quote approved")], some "QUOTE_APPROVED", fun q => [("quote_id", .str q)]⟩
  | .paymentPreferenceCreated => ⟨"PAYMENT_PREFERENCE_CREATED", .forward .quoteApproved,
      some "payment_id", [(.paymentPending, "Payment preference created")],
      some "PAYMENT_PENDING", fun p => [("payment_id", .str p)]⟩
  | .executionStarted => ⟨"EXECUTION_STARTED", .forward .executionRequested, none,
      [(.executionInProgress, "Execution started")], some "EXECUTION_STARTED", fun _ => []⟩
  | .executionCompleted => ⟨"EXECUTION_COMPLETED", .forward .executionInProgress, none,
      [(.completed, "Execution completed")], some "OS_COMPLETED", fun _ => []⟩
  | .quoteFailed => failureRow "QUOTE_FAILED" .quoteFailed "Quote creation failed"
  | .paymentFailed => failureRow "PAYMENT_FAILED" .paymentFailed "Payment failed"
  | .executionEnqueueFailed =>
      failureRow "EXECUTION_ENQUEUE_FAILED" .executionEnqueueFailed "Execution enqueue failed"
  | .executionFailed => failureRow "EXECUTION_FAILED" .executionFailed "Execution failed"

def confirmedRow : Row :=
  ⟨"PAYMENT_CONFIRMED", .forward .paymentPending, some "payment_id",
    [(.paymentConfirmed, "Payment confirmed"), (.executionRequested, "Execution requested")],
    some "EXECUTION_REQUESTED", fun _ => []⟩

/-- The ten supported types. -/
def table : List Row :=
  [noteRow "QUOTE_CREATED", callRow .quoteApproved, callRow .paymentPreferenceCreated,
   confirmedRow, callRow .executionStarted, callRow .executionCompleted, callRow .quoteFailed,
   callRow .paymentFailed, callRow .executionEnqueueFailed, callRow .executionFailed]

def rowOf (eventType : String) : Option Row := table.find? fun row => row.eventType = eventType

namespace Row

/-- The payload has what the row needs, and the order stands where it may. -/
structure Applies (row : Row) (event : DomainEvent T) (o : ServiceOrder T) : Prop where
  payload : ∀ key, row.needs = some key → (event.payload.get? key).isSome
  status : row.kind.Allows o.status

/-- The entries, the first with the time of `g` and a second with that of `g'`. -/
def entries (row : Row) (g g' : Stamp T) : List (ServiceOrderHistoryEntry T) :=
  (row.steps.zip [g, g']).map fun p => ⟨p.1.1, p.1.2, p.2.createdAt⟩

/-- The status the order ends in. -/
def ends (row : Row) (st : ServiceOrderStatus) : ServiceOrderStatus :=
  (row.steps.getLast?.map Prod.fst).getD st

def after (row : Row) (g g' : Stamp T) (o : ServiceOrder T) : ServiceOrder T :=
  { o with status := row.ends o.status, history := o.history ++ row.entries g g' }

variable [Runtime T]

/-- The value under the key the row needs, as text. -/
def argument (row : Row) (event : DomainEvent T) : String :=
  ((row.needs.bind event.payload.get?).map (·.toStr T)).getD ""

/-- The event that follows, with the stamp of the last entry. -/
def follows (row : Row) (event : DomainEvent T) (g g' : Stamp T) (o : ServiceOrder T) :
    Option (DomainEvent T) :=
  row.announces.map fun eventType =>
    o.newEvent eventType (row.extra (row.argument event)) (if row.steps.length = 2 then g' else g)

end Row

/-- The event is applicable to the order: its type is supported, its payload has
what the type needs, and the order stands where the type lets it. -/
def Applicable (event : DomainEvent T) (o : ServiceOrder T) : Prop :=
  ∃ row, rowOf event.eventType = some row ∧ row.Applies event o

/-! ## The table is what `_apply` does -/

theorem rowOf_call (k : SagaEvent) : rowOf k.type = some (callRow k) := by
  cases k <;> rfl

/-- Every row is of one of three sorts. -/
theorem rowOf_cases {eventType : String} {row : Row} (h : rowOf eventType = some row) :
    (eventType = "QUOTE_CREATED" ∧ row = noteRow "QUOTE_CREATED") ∨
      (eventType = "PAYMENT_CONFIRMED" ∧ row = confirmedRow) ∨
      ∃ k : SagaEvent, eventType = k.type ∧ row = callRow k := by
  have hmem : row ∈ table := List.mem_of_find?_eq_some h
  have htype : row.eventType = eventType := by simpa using List.find?_some h
  subst htype
  simp only [table, List.mem_cons, List.not_mem_nil, or_false] at hmem
  rcases hmem with rfl | rfl | rfl | rfl | rfl | rfl | rfl | rfl | rfl | rfl
  · exact .inl ⟨rfl, rfl⟩
  · exact .inr (.inr ⟨.quoteApproved, rfl, rfl⟩)
  · exact .inr (.inr ⟨.paymentPreferenceCreated, rfl, rfl⟩)
  · exact .inr (.inl ⟨rfl, rfl⟩)
  · exact .inr (.inr ⟨.executionStarted, rfl, rfl⟩)
  · exact .inr (.inr ⟨.executionCompleted, rfl, rfl⟩)
  · exact .inr (.inr ⟨.quoteFailed, rfl, rfl⟩)
  · exact .inr (.inr ⟨.paymentFailed, rfl, rfl⟩)
  · exact .inr (.inr ⟨.executionEnqueueFailed, rfl, rfl⟩)
  · exact .inr (.inr ⟨.executionFailed, rfl, rfl⟩)

theorem callRow_allows (k : SagaEvent) (st : ServiceOrderStatus) :
    (callRow k).kind.Allows st ↔ k.Ready st ∧ st ∉ terminalStatuses := by
  cases k <;> cases st <;> simp [callRow, failureRow, Kind.Allows, SagaEvent.Ready] <;> decide

theorem callRow_after (k : SagaEvent) (arg : String) (g g' : Stamp T) (o : ServiceOrder T) :
    (callRow k).after g g' o = App.after (k.call arg g) o := by
  cases k <;> rfl

section Table
variable [Runtime T] {event : DomainEvent T} {g g' : Stamp T} {o o' : ServiceOrder T}
  {out : Option (DomainEvent T)}

theorem callRow_argument {k : SagaEvent} {arg : String} (h : k.argument event = some arg) :
    (callRow k).follows event g g' o = some (returned (k.call arg g) o) := by
  cases k with
  | quoteApproved | paymentPreferenceCreated =>
    obtain ⟨v, hv, rfl⟩ := Option.map_eq_some_iff.mp h
    simp [Row.follows, Row.argument, callRow, hv, returned, SagaEvent.call, MethodCall.eventType,
      MethodCall.extra, MethodCall.stamp]
  | _ => rfl

theorem callRow_payload (k : SagaEvent) :
    (∀ key, (callRow k).needs = some key → (event.payload.get? key).isSome) ↔
      (k.argument event).isSome := by
  cases k <;> simp [callRow, failureRow, SagaEvent.argument]

/-- **The table is the dispatch.** -/
theorem accepts_iff_row : Accepts event g g' o o' out ↔
    ∃ row, rowOf event.eventType = some row ∧ row.Applies event o ∧ o' = row.after g g' o ∧
      out = row.follows event g g' o := by
  constructor
  · intro h
    cases h with
    | noted ht =>
      refine ⟨noteRow "QUOTE_CREATED", by rw [ht]; rfl, ⟨fun _ hn => (by cases hn), trivial⟩, ?_, rfl⟩
      simp [Row.after, Row.entries, Row.ends, noteRow]
    | called k arg ht ha hr hl =>
      refine ⟨callRow k, by rw [ht]; exact rowOf_call k, ⟨(callRow_payload k).mpr (by rw [ha]; rfl),
        (callRow_allows k _).mpr ⟨(k.ready_iff arg g _).mp hr, hl⟩⟩, (callRow_after k arg g g' o).symm,
        (callRow_argument ha).symm⟩
    | confirmed arg ht ha hr =>
      refine ⟨confirmedRow, by rw [ht]; rfl, ⟨fun key hn => ?_, hr⟩, ?_, rfl⟩
      · cases hn; rw [ha]; rfl
      · simp [Row.after, Row.entries, Row.ends, confirmedRow, App.after, ServiceOrder.moveTo,
          ServiceOrder.record, MethodCall.target, MethodCall.reason, MethodCall.stamp]
  · intro h
    obtain ⟨row, hrow, ⟨hpay, hst⟩, rfl, rfl⟩ := h
    rcases rowOf_cases hrow with ⟨ht, rfl⟩ | ⟨ht, rfl⟩ | ⟨k, ht, rfl⟩
    · have hsame : (noteRow "QUOTE_CREATED").after g g' o = o := by
        simp [Row.after, Row.entries, Row.ends, noteRow]
      rw [hsame]
      exact .noted ht
    · obtain ⟨v, hv⟩ := Option.isSome_iff_exists.mp (hpay _ rfl)
      have hafter : confirmedRow.after g g' o = App.after (.requestExecution g')
          (App.after (.markPaymentConfirmed (v.toStr T) g) o) := by
        simp [Row.after, Row.entries, Row.ends, confirmedRow, App.after, ServiceOrder.moveTo,
          ServiceOrder.record, MethodCall.target, MethodCall.reason, MethodCall.stamp]
      rw [hafter]
      exact .confirmed v ht hv hst
    · obtain ⟨arg, ha⟩ := Option.isSome_iff_exists.mp ((callRow_payload k).mp hpay)
      obtain ⟨hr, hl⟩ := (callRow_allows k _).mp hst
      rw [callRow_after k arg, callRow_argument ha]
      exact .called k arg ht ha ((k.ready_iff arg g _).mpr hr) hl

theorem applicable_iff_takes : Applicable event o ↔ Takes event o := by
  rw [takes_iff ⟨event.occurredAt, "", event.occurredAt⟩ ⟨event.occurredAt, "", event.occurredAt⟩]
  constructor
  · intro h
    obtain ⟨row, hrow, ha⟩ := h
    exact ⟨_, _, accepts_iff_row.mpr ⟨row, hrow, ha, rfl, rfl⟩⟩
  · intro h
    obtain ⟨o', out, ha⟩ := h
    obtain ⟨row, hrow, happ, -, -⟩ := accepts_iff_row.mp ha
    exact ⟨row, hrow, happ⟩

end Table

/-! ## One execution -/

/-- The result of a call: the order `o` has become `row.after`, every other is as
it was, and the one event that follows is the last of the log. -/
structure TakenBy [Runtime T] (row : Row) (event : DomainEvent T) (g g' : Stamp T) (s : Sys T)
    (o o' : ServiceOrder T) (s' : Sys T) : Prop where
  returned : o' = row.after g g' o
  stored : s'.orders.find o.serviceOrderId = some o'
  others : ∀ id, id ≠ o.serviceOrderId → s'.orders.find id = s.orders.find id
  log : s'.log = s.log ++ (row.follows event g g' o).toList
  processed : s'.processed = s.processed

variable [Runtime T]

/-- **When a saga event is accepted, and what it does.** For every store, event
and runtime mode, with a publisher that does not fail: the call returns exactly
when the target is stored and the event is applicable to it; a call that
returns has done what the event's row says, and one that raises nothing. -/
theorem exact_acceptance (mode : RuntimeMode) (event : DomainEvent T) (g g' : Stamp T)
    (s : Sys T) :
    let r := (execute mode reliable event g g').run s
    ((∃ o' s', r = .ok o' s') ↔
      ∃ o, s.orders.find (serviceOrderId event) = some o ∧ Applicable event o) ∧
    (∀ o row o' s', s.orders.find (serviceOrderId event) = some o →
      rowOf event.eventType = some row → r = .ok o' s' → TakenBy row event g g' s o o' s') ∧
    ∀ e s', r = .error e s' → s' = s := by
  intro r
  rcases execute_cases mode reliable event g g' s with ⟨e, hr, hno⟩ | ⟨o, o', out, hf, ha, hr⟩
  · have hr : r = .error e s := hr
    rw [hr]
    refine ⟨⟨fun h => ?_, fun h => ?_⟩, fun o row o' s' _ _ h => ?_, fun e' s' h => ?_⟩
    · obtain ⟨_, _, h⟩ := h; cases h
    · obtain ⟨o, hf, row, hrow, happ⟩ := h
      exact absurd (accepts_iff_row.mpr ⟨row, hrow, happ, rfl, rfl⟩) (hno o _ _ hf)
    · cases h
    · cases h; rfl
  · obtain ⟨row, hrow, happ, rfl, rfl⟩ := accepts_iff_row.mp ha
    have hr : r = .ok (row.after g g' o) { s with
        orders := s.orders.save (row.after g g' o)
        log := s.log ++ (row.follows event g g' o).toList } := by
      refine Eq.trans hr ?_
      cases row.follows event g g' o with
      | none => simp only [announce, Option.toList_none, List.append_nil]; rfl
      | some e => rfl
    rw [hr]
    refine ⟨⟨fun _ => ⟨o, hf, row, hrow, happ⟩, fun _ => ⟨_, _, rfl⟩⟩,
      fun o₁ row₁ o' s' hf₁ hrow₁ h => ?_, fun e' s' h => (by cases h)⟩
    rw [hf] at hf₁
    rw [hrow] at hrow₁
    cases hf₁; cases hrow₁; cases h
    exact ⟨rfl, OrderStore.save_find_self .., fun id hne => OrderStore.save_find_of_ne _ _ hne, rfl,
      rfl⟩

/-- The payment of an approved order is prepared. -/
theorem exact_acceptance_pending :
    ∃ o o' s', TakenBy (callRow .paymentPreferenceCreated)
      (exEvent "PAYMENT_PREFERENCE_CREATED" "event-6" [("payment_id", .str "payment-1")])
      (exStamp "event-7") (exStamp "event-8") exState o o' s' ∧ o'.status = .paymentPending :=
  ⟨_, _, _, (exact_acceptance .real _ (exStamp "event-7") (exStamp "event-8") exState).2.1 _ _ _ _
    rfl rfl rfl, rfl⟩

end ServiceOrderOs.Runs
