import ServiceOrderOs.L3App.UseCases

/-!
# When a saga event is accepted, and what it does

The dispatch of `_apply` is a chain of tests on the event's type; here it is a
table. `SagaEvent` names the eight types that call one method of the order
(`call`), `PAYMENT_CONFIRMED` calls two, and `QUOTE_CREATED` none. `Accepts`
says of an event and an order that the event is accepted, what the order
becomes and which event follows.

* `apply_ok_iff`: the code accepts exactly what the table accepts, with the
  same effect.
* `apply_error`: a refused event leaves the order untouched, also the object
  itself, which the in-memory store shares.
* `execute_cases`: what one `HandleSagaEventUseCase.execute` can do to the
  store and the log, in either runtime mode.
-/
namespace ServiceOrderOs.App
open Py Domain HandleSagaEventUseCase

variable {T : Type} [Runtime T]

inductive SagaEvent where
  | quoteApproved | paymentPreferenceCreated | executionStarted | executionCompleted
  | quoteFailed | paymentFailed | executionEnqueueFailed | executionFailed
  deriving DecidableEq, Repr

namespace SagaEvent

def type : SagaEvent → String
  | .quoteApproved => "QUOTE_APPROVED"
  | .paymentPreferenceCreated => "PAYMENT_PREFERENCE_CREATED"
  | .executionStarted => "EXECUTION_STARTED"
  | .executionCompleted => "EXECUTION_COMPLETED"
  | .quoteFailed => "QUOTE_FAILED"
  | .paymentFailed => "PAYMENT_FAILED"
  | .executionEnqueueFailed => "EXECUTION_ENQUEUE_FAILED"
  | .executionFailed => "EXECUTION_FAILED"

/-- What the payload must hold, as text; the types that read nothing take the
empty text. -/
def argument (event : DomainEvent T) : SagaEvent → Option String
  | .quoteApproved => (event.payload.get? "quote_id").map (·.toStr T)
  | .paymentPreferenceCreated => (event.payload.get? "payment_id").map (·.toStr T)
  | _ => some ""

/-- The method called, with the argument read from the payload. -/
def call (arg : String) (g : Stamp T) : SagaEvent → MethodCall T
  | .quoteApproved => .markQuoteApproved arg g
  | .paymentPreferenceCreated => .markPaymentPending arg g
  | .executionStarted => .markExecutionStarted g
  | .executionCompleted => .complete g
  | .quoteFailed => .fail .quoteFailed "Quote creation failed" g
  | .paymentFailed => .fail .paymentFailed "Payment failed" g
  | .executionEnqueueFailed => .fail .executionEnqueueFailed "Execution enqueue failed" g
  | .executionFailed => .fail .executionFailed "Execution failed" g

end SagaEvent

/-- The order a call of a method leaves when it returns, the entry it records
and the event it returns. -/
def after (c : MethodCall T) (o : ServiceOrder T) : ServiceOrder T :=
  o.moveTo c.target c.reason c.stamp.createdAt

def entry (c : MethodCall T) : ServiceOrderHistoryEntry T :=
  ⟨c.target, c.reason, c.stamp.createdAt⟩

def returned (c : MethodCall T) (o : ServiceOrder T) : DomainEvent T :=
  o.newEvent c.eventType (c.extra o) c.stamp

inductive Accepts (event : DomainEvent T) (g g' : Stamp T) (o : ServiceOrder T) :
    ServiceOrder T → Option (DomainEvent T) → Prop
  | noted (ht : event.eventType = "QUOTE_CREATED") : Accepts event g g' o o none
  | called (k : SagaEvent) (arg : String) (ht : event.eventType = k.type)
      (ha : k.argument event = some arg) (hr : (k.call arg g).Ready o.status)
      (hl : o.status ∉ terminalStatuses) :
      Accepts event g g' o (after (k.call arg g) o) (some (returned (k.call arg g) o))
  | confirmed (arg : Json) (ht : event.eventType = "PAYMENT_CONFIRMED")
      (ha : event.payload.get? "payment_id" = some arg) (hr : o.status = .paymentPending) :
      Accepts event g g' o
        (after (.requestExecution g') (after (.markPaymentConfirmed (arg.toStr T) g) o))
        (some (returned (.requestExecution g') o))

/-- The statuses in which the method called does not raise, the terminal ones
apart. -/
def SagaEvent.Ready : SagaEvent → ServiceOrderStatus → Prop
  | .quoteApproved, st => st = .quoteRequested
  | .paymentPreferenceCreated, st => st = .quoteApproved
  | .executionStarted, st => st = .executionRequested
  | .executionCompleted, st => st = .executionInProgress
  | _, _ => True

/-- When the event is accepted: its type is known, its payload has what the type
reads, and the order is in a status that takes it. -/
inductive Takes (event : DomainEvent T) (o : ServiceOrder T) : Prop
  | noted (ht : event.eventType = "QUOTE_CREATED")
  | called (k : SagaEvent) (ht : event.eventType = k.type) (ha : (k.argument event).isSome)
      (hr : k.Ready o.status) (hl : o.status ∉ terminalStatuses)
  | confirmed (ht : event.eventType = "PAYMENT_CONFIRMED")
      (ha : (event.payload.get? "payment_id").isSome) (hr : o.status = .paymentPending)

omit [Runtime T] in
theorem SagaEvent.ready_iff (k : SagaEvent) (arg : String) (g : Stamp T)
    (st : ServiceOrderStatus) : (k.call arg g).Ready st ↔ k.Ready st := by
  cases k <;> simp [SagaEvent.call, MethodCall.Ready, SagaEvent.Ready, IsFailure] <;> decide

theorem takes_iff {event : DomainEvent T} {o : ServiceOrder T} (g g' : Stamp T) :
    Takes event o ↔ ∃ o' out, Accepts event g g' o o' out := by
  constructor
  · intro h
    cases h with
    | noted ht => exact ⟨_, _, .noted ht⟩
    | called k ht ha hr hl =>
      obtain ⟨arg, ha⟩ := Option.isSome_iff_exists.mp ha
      exact ⟨_, _, .called k arg ht ha ((k.ready_iff arg g _).mpr hr) hl⟩
    | confirmed ht ha hr =>
      obtain ⟨arg, ha⟩ := Option.isSome_iff_exists.mp ha
      exact ⟨_, _, .confirmed arg ht ha hr⟩
  · intro h
    obtain ⟨o', out, h⟩ := h
    cases h with
    | noted ht => exact .noted ht
    | called k arg ht ha hr hl =>
      exact .called k ht (by rw [ha]; rfl) ((k.ready_iff arg g _).mp hr) hl
    | confirmed arg ht ha hr => exact .confirmed ht (by rw [ha]; rfl) hr

omit [Runtime T] in
theorem after_history (c : MethodCall T) (o : ServiceOrder T) :
    (after c o).history = o.history ++ [entry c] := rfl

/-! ## The dispatch -/

theorem payloadStr_run (event : DomainEvent T) (key : String) (o : ServiceOrder T) :
    (payloadStr event key).run o = match event.payload.get? key with
      | some v => .ok (v.toStr T) o
      | none => .error (.keyError key) o := by
  simp only [payloadStr, EStateM.run, Dict.item]
  cases event.payload.get? key <;> rfl

omit [Runtime T] in
theorem run_some_ok {α : Type} {m : Method T α} {o o' : ServiceOrder T} {a : α}
    (h : m.run o = .ok a o') : (some <$> m).run o = .ok (some a) o' := by
  simp only [EStateM.run, Functor.map, EStateM.map] at h ⊢
  rw [h]

omit [Runtime T] in
theorem run_some_error {α : Type} {m : Method T α} {o o' : ServiceOrder T} {e : PyError}
    (h : m.run o = .error e o') : (some <$> m).run o = .error e o' := by
  simp only [EStateM.run, Functor.map, EStateM.map] at h ⊢
  rw [h]

/-- The branch of a type that calls one method, its argument found. -/
theorem branch_run {event : DomainEvent T} {k : SagaEvent} {arg : String}
    (ht : event.eventType = k.type) (ha : k.argument event = some arg) (g g' : Stamp T)
    (o : ServiceOrder T) :
    (apply event g g').run o = (some <$> (k.call arg g).method).run o := by
  unfold apply
  rw [ht]
  cases k
  case quoteApproved | paymentPreferenceCreated =>
    simp only [SagaEvent.argument, Option.map_eq_some_iff] at ha
    obtain ⟨v, hv, rfl⟩ := ha
    simp [SagaEvent.type, SagaEvent.call, MethodCall.method, EStateM.run_bind, payloadStr_run, hv]
  all_goals simp [SagaEvent.type, SagaEvent.call, MethodCall.method]

/-- The same branch with nothing to read in the payload. -/
theorem branch_missing {event : DomainEvent T} {k : SagaEvent} (ht : event.eventType = k.type)
    (ha : k.argument event = none) (g g' : Stamp T) (o : ServiceOrder T) :
    ∃ key, (apply event g g').run o = .error (.keyError key) o := by
  unfold apply
  rw [ht]
  cases k
  case quoteApproved | paymentPreferenceCreated =>
    simp only [SagaEvent.argument, Option.map_eq_none_iff] at ha
    simp [SagaEvent.type, EStateM.run_bind, payloadStr_run, ha]
  all_goals cases ha

/-- The branch of `PAYMENT_CONFIRMED`: the event of the first transition is dropped. -/
theorem confirmed_run {event : DomainEvent T} (ht : event.eventType = "PAYMENT_CONFIRMED")
    (g g' : Stamp T) (o : ServiceOrder T) :
    (apply event g g').run o = (do
      let _ ← ServiceOrder.markPaymentConfirmed (← payloadStr event "payment_id") g
      some <$> ServiceOrder.requestExecution g').run o := by
  unfold apply
  rw [ht]
  simp

theorem confirmed_ok {event : DomainEvent T} {v : Json}
    (ht : event.eventType = "PAYMENT_CONFIRMED")
    (ha : event.payload.get? "payment_id" = some v) (g g' : Stamp T) {o : ServiceOrder T}
    (hr : o.status = .paymentPending) :
    (apply event g g').run o = .ok (some (returned (.requestExecution g') o))
      (after (.requestExecution g') (after (.markPaymentConfirmed (v.toStr T) g) o)) := by
  have h1 := MethodCall.run_ok (.markPaymentConfirmed (v.toStr T) g) o hr (by rw [hr]; decide)
  have h2 := MethodCall.run_ok (.requestExecution g')
    (after (.markPaymentConfirmed (v.toStr T) g) o) rfl
    (by rw [show (after _ o).status = .paymentConfirmed from rfl]; decide)
  simp only [MethodCall.method] at h1 h2
  rw [confirmed_run ht]
  simp only [EStateM.run_bind, payloadStr_run, ha, h1]
  exact run_some_ok h2

theorem confirmed_error {event : DomainEvent T} (ht : event.eventType = "PAYMENT_CONFIRMED")
    (g g' : Stamp T) {o : ServiceOrder T}
    (h : ¬ ((event.payload.get? "payment_id").isSome ∧ o.status = .paymentPending)) :
    ∃ e, (apply event g g').run o = .error e o := by
  rw [confirmed_run ht]
  cases hv : event.payload.get? "payment_id" with
  | none => simp [EStateM.run_bind, payloadStr_run, hv]
  | some v =>
    obtain ⟨e, he⟩ := MethodCall.run_error (.markPaymentConfirmed (v.toStr T) g) o
      fun hc => h ⟨by simp [hv], hc.1⟩
    simp only [MethodCall.method] at he
    exact ⟨e, by simp only [EStateM.run_bind, payloadStr_run, hv, he]⟩

theorem unsupported_run {event : DomainEvent T} (h1 : event.eventType ≠ "QUOTE_CREATED")
    (h2 : event.eventType ≠ "PAYMENT_CONFIRMED") (h3 : ∀ k : SagaEvent, event.eventType ≠ k.type)
    (g g' : Stamp T) (o : ServiceOrder T) : (apply event g g').run o =
      .error (.valueError s!"Unsupported saga event: {event.eventType}") o := by
  have a1 : event.eventType ≠ "QUOTE_APPROVED" := h3 .quoteApproved
  have a2 : event.eventType ≠ "PAYMENT_PREFERENCE_CREATED" := h3 .paymentPreferenceCreated
  have a3 : event.eventType ≠ "EXECUTION_STARTED" := h3 .executionStarted
  have a4 : event.eventType ≠ "EXECUTION_COMPLETED" := h3 .executionCompleted
  have a5 : event.eventType ≠ "QUOTE_FAILED" := h3 .quoteFailed
  have a6 : event.eventType ≠ "PAYMENT_FAILED" := h3 .paymentFailed
  have a7 : event.eventType ≠ "EXECUTION_ENQUEUE_FAILED" := h3 .executionEnqueueFailed
  have a8 : event.eventType ≠ "EXECUTION_FAILED" := h3 .executionFailed
  unfold apply
  rw [if_neg h1, if_neg a1, if_neg a2, if_neg h2, if_neg a3, if_neg a4, if_neg a5, if_neg a6,
    if_neg a7, if_neg a8]
  rfl

theorem SagaEvent.type_injective {k k' : SagaEvent} (h : k.type = k'.type) : k = k' := by
  revert h; cases k <;> cases k' <;> decide

theorem SagaEvent.type_ne (k : SagaEvent) :
    k.type ≠ "QUOTE_CREATED" ∧ k.type ≠ "PAYMENT_CONFIRMED" := by
  cases k <;> decide

/-- What the dispatch does, in one statement: it accepts and has the effect the
table says, or it refuses, the table has no entry and the order is untouched. -/
theorem apply_run (event : DomainEvent T) (g g' : Stamp T) (o : ServiceOrder T) :
    (∃ o' out, Accepts event g g' o o' out ∧ (apply event g g').run o = .ok out o') ∨
      ((∀ o' out, ¬ Accepts event g g' o o' out) ∧
        ∃ e, (apply event g g').run o = .error e o) := by
  by_cases h1 : event.eventType = "QUOTE_CREATED"
  · left
    exact ⟨o, none, .noted h1, by unfold apply; rw [if_pos h1]; rfl⟩
  by_cases h2 : event.eventType = "PAYMENT_CONFIRMED"
  · by_cases hok : (event.payload.get? "payment_id").isSome ∧ o.status = .paymentPending
    · left
      obtain ⟨v, hv⟩ := Option.isSome_iff_exists.mp hok.1
      exact ⟨_, _, .confirmed v h2 hv hok.2, confirmed_ok h2 hv g g' hok.2⟩
    · right
      refine ⟨?_, confirmed_error h2 g g' hok⟩
      rintro o' out (hn | ⟨k, arg, hk, -, -, -⟩ | ⟨v, -, hv, hs⟩)
      · exact h1 hn
      · exact k.type_ne.2 (hk ▸ h2)
      · exact hok ⟨by simp [hv], hs⟩
  by_cases h3 : ∃ k : SagaEvent, event.eventType = k.type
  · obtain ⟨k, hk⟩ := h3
    have huniq : ∀ {o' out}, Accepts event g g' o o' out → ∃ arg, k.argument event = some arg ∧
        (k.call arg g).Ready o.status ∧ o.status ∉ terminalStatuses := by
      rintro o' out (hn | ⟨k', arg, hk', ha, hr, hl⟩ | ⟨v, hc, -, -⟩)
      · exact absurd hn h1
      · cases SagaEvent.type_injective (hk.symm.trans hk')
        exact ⟨arg, ha, hr, hl⟩
      · exact absurd hc h2
    cases ha : k.argument event with
    | none =>
      right
      obtain ⟨key, he⟩ := branch_missing hk ha g g' o
      refine ⟨fun o' out h => ?_, _, he⟩
      obtain ⟨arg, h', -⟩ := huniq h
      rw [ha] at h'; cases h'
    | some arg =>
      rw [branch_run hk ha]
      by_cases hok : (k.call arg g).Ready o.status ∧ o.status ∉ terminalStatuses
      · left
        exact ⟨_, _, .called k arg hk ha hok.1 hok.2,
          run_some_ok (by rw [MethodCall.run_ok _ o hok.1 hok.2]; rfl)⟩
      · right
        obtain ⟨e, he⟩ := MethodCall.run_error _ o hok
        refine ⟨fun o' out h => ?_, e, run_some_error he⟩
        obtain ⟨arg', ha', hr⟩ := huniq h
        rw [ha, Option.some.injEq] at ha'
        exact hok (ha' ▸ hr)
  · right
    have h3' : ∀ k : SagaEvent, event.eventType ≠ k.type := fun k hk => h3 ⟨k, hk⟩
    refine ⟨?_, _, unsupported_run h1 h2 h3' g g' o⟩
    rintro o' out (hn | ⟨k, _, hk, -, -, -⟩ | ⟨_, hc, -, -⟩)
    · exact h1 hn
    · exact h3' k hk
    · exact h2 hc

theorem Accepts.unique {event : DomainEvent T} {g g' : Stamp T} {o o₁ o₂ : ServiceOrder T}
    {out₁ out₂ : Option (DomainEvent T)} (h₁ : Accepts event g g' o o₁ out₁)
    (h₂ : Accepts event g g' o o₂ out₂) : o₁ = o₂ ∧ out₁ = out₂ := by
  cases h₁ with
  | noted h =>
    cases h₂ with
    | noted => exact ⟨rfl, rfl⟩
    | called k _ hk => exact absurd (hk.symm.trans h) k.type_ne.1
    | confirmed _ hc => rw [h] at hc; exact absurd hc (by decide)
  | called k arg hk ha =>
    cases h₂ with
    | noted h => exact absurd (hk.symm.trans h) k.type_ne.1
    | called k' arg' hk' ha' =>
      cases SagaEvent.type_injective (hk.symm.trans hk')
      rw [ha, Option.some.injEq] at ha'
      subst ha'; exact ⟨rfl, rfl⟩
    | confirmed _ hc => exact absurd (hk.symm.trans hc) k.type_ne.2
  | confirmed v hc hv =>
    cases h₂ with
    | noted h => rw [h] at hc; exact absurd hc (by decide)
    | called k _ hk => exact absurd (hk.symm.trans hc) k.type_ne.2
    | confirmed v' _ hv' =>
      rw [hv, Option.some.injEq] at hv'
      subst hv'; exact ⟨rfl, rfl⟩

theorem apply_ok_iff {event : DomainEvent T} {g g' : Stamp T} {o o' : ServiceOrder T}
    {out : Option (DomainEvent T)} :
    (apply event g g').run o = .ok out o' ↔ Accepts event g g' o o' out := by
  rcases apply_run event g g' o with ⟨o₁, out₁, ha, hr⟩ | ⟨hno, e, hr⟩
  · rw [hr]
    constructor
    · intro h; cases h; exact ha
    · intro h
      obtain ⟨rfl, rfl⟩ := ha.unique h
      rfl
  · rw [hr]
    exact ⟨fun h => (by cases h), fun h => absurd h (hno _ _)⟩

theorem apply_error {event : DomainEvent T} {g g' : Stamp T} {o o' : ServiceOrder T}
    {e : PyError} (h : (apply event g g').run o = .error e o') : o' = o := by
  rcases apply_run event g g' o with ⟨_, _, -, h'⟩ | ⟨-, e', h'⟩
  · rw [h'] at h; cases h
  · rw [h'] at h; cases h; rfl

/-! ## One execution -/

theorem Accepts.id_eq {event : DomainEvent T} {g g' : Stamp T} {o o' : ServiceOrder T}
    {out : Option (DomainEvent T)} (h : Accepts event g g' o o' out) :
    o'.serviceOrderId = o.serviceOrderId := by
  cases h <;> rfl

/-- It stays under the id it was found under. -/
theorem Accepts.filed {event : DomainEvent T} {g g' : Stamp T} {o o' : ServiceOrder T}
    {out : Option (DomainEvent T)} (h : Accepts event g g' o o' out) {s : OrderStore T}
    {id : String} (hf : s.find id = some o) : o'.serviceOrderId = id := by
  rw [h.id_eq, s.filed id o hf]

/-- What the execution does once the order it found is saved. -/
def announce (pub : Publisher T) (o : ServiceOrder T) :
    Option (DomainEvent T) → AppM T (ServiceOrder T)
  | some e => do publish pub e; return o
  | none => return o

/-- What one execution does: it raises and nothing has changed, or it finds its
target, the table accepts, and the new order is stored before the publisher is
asked to send the event that follows. -/
theorem execute_cases (mode : RuntimeMode) (pub : Publisher T) (event : DomainEvent T)
    (g g' : Stamp T) (s : Sys T) :
    (∃ e, (execute mode pub event g g').run s = .error e s ∧
      ∀ o o' out, s.orders.find (serviceOrderId event) = some o → ¬ Accepts event g g' o o' out) ∨
    ∃ o o' out, s.orders.find (serviceOrderId event) = some o ∧ Accepts event g g' o o' out ∧
      (execute mode pub event g g').run s =
        (announce pub o' out).run { s with orders := s.orders.save o' } := by
  unfold execute
  simp only [EStateM.run_bind, EStateM.run_get, OrderStore.get]
  cases hf : s.orders.find (serviceOrderId event) with
  | none =>
    left
    exact ⟨_, rfl, fun o o' out h => by cases h⟩
  | some o =>
    rcases apply_run event g g' o with ⟨o', out, ha, hr⟩ | ⟨hno, e, hr⟩
    · right
      refine ⟨o, o', out, rfl, ha, ?_⟩
      have hst : (onStored mode (apply event g g') o).run s = .ok (out, o') (touch mode o' s) := by
        simp only [onStored, EStateM.run] at hr ⊢; rw [hr]
      have hsave : (saveOrder o').run (touch mode o' s) =
          .ok () { s with orders := s.orders.save o' } := by
        cases mode with
        | memory =>
          show EStateM.Result.ok () { s with orders := (s.orders.save o').save o' } = _
          rw [OrderStore.save_save _ rfl]
        | real => rfl
      simp only [lift_run_ok, hst, hsave]
      cases out <;> rfl
    · left
      -- the object is as the store has it, so sharing it changes nothing
      have hst : (onStored mode (apply event g g') o).run s = .error e (touch mode o s) := by
        simp only [onStored, EStateM.run] at hr ⊢; rw [hr]
      rw [touch_of_find mode hf] at hst
      refine ⟨e, by simp only [lift_run_ok, hst], fun o₁ o' out h => ?_⟩
      cases h; exact hno o' out

end ServiceOrderOs.App
