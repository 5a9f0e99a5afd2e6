import Mathlib.Data.Finset.Erase
import ServiceOrderOs.Core.Lts
import ServiceOrderOs.L3App.EventHandlers

/-!
# The service over whole runs

A state is a `Sys`; a label is one call made from outside (`Call`): opening an
order, a saga event executed by the API, a message handed to the worker, or
the loss of a processed event's record. A call that raises is a step too, to
the state it leaves. The uuid an order is opened under is not in the store.

* `sagaLts`: any publisher, also one that fails.
* `reliableLts`: the publisher returns and no record is lost.
* `next_change`: what one step can do to the orders and the log. Every
  invariant below is proved from it.
-/
namespace ServiceOrderOs.Runs
open Core Py Domain App

variable {T : Type} [Runtime T]

inductive Call (T : Type) where
  | «open» (pub : Publisher T) (regs : Registries T) (command : OpenServiceOrderCommand)
      (uuid : String) (now : T) (g : Stamp T)
  | saga (pub : Publisher T) (event : DomainEvent T) (g g' : Stamp T)
  | deliver (pub : Publisher T) (message : Dict) (g g' : Stamp T)
  | lose (eventId : String)

/-- The state a computation leaves, whether or not it raises. -/
def left {ε α : Type} : EStateM.Result ε (Sys T) α → Sys T
  | .ok _ s => s
  | .error _ s => s

namespace Call

def next (mode : RuntimeMode) (s : Sys T) : Call T → Sys T
  | .open pub regs command uuid now g =>
    left ((OpenServiceOrderUseCase.execute pub regs command uuid now g).run s)
  | .saga pub event g g' => left ((HandleSagaEventUseCase.execute mode pub event g g').run s)
  | .deliver pub message g g' =>
    left ((ServiceOrderSagaEventHandler.handle mode pub message g g').run s)
  | .lose eventId => { s with processed := s.processed.erase eventId }

/-- The generated uuid is not the id of a stored order. -/
def Fresh (s : Sys T) : Call T → Prop
  | .open _ _ _ uuid _ _ => s.orders.find uuid = none
  | _ => True

def pub : Call T → Publisher T
  | .open pub .. | .saga pub .. | .deliver pub .. => pub
  | .lose _ => reliable

def IsLoss : Call T → Prop
  | .lose _ => True
  | _ => False

/-- The call hands `event` to the use case: the worker only if it can read the
message and its event id is not recorded. -/
def Executes (s : Sys T) (event : DomainEvent T) : Call T → Prop
  | .saga _ e _ _ => e = event
  | .deliver _ message _ _ =>
    ServiceOrderSagaEventHandler.readEvent message = .ok event ∧ event.eventId ∉ s.processed
  | _ => False

/-- Of the events the call tries to publish, those that are sent. -/
def sent (l : Call T) (es : List (DomainEvent T)) : List (DomainEvent T) :=
  es.filter fun e => (l.pub e).isNone

end Call

def sagaLts (T : Type) [Runtime T] (mode : RuntimeMode) : Lts (Sys T) (Call T) where
  init s := s = .empty
  step s l s' := l.Fresh s ∧ s' = l.next mode s

def reliableLts (T : Type) [Runtime T] (mode : RuntimeMode) : Lts (Sys T) (Call T) where
  init s := s = .empty
  step s l s' := (l.Fresh s ∧ s' = l.next mode s) ∧ l.pub = reliable ∧ ¬ l.IsLoss

/-! ## One step -/

/-- What one step can do: leave orders and log alone, store a new order, or
store what the table makes of a stored one. -/
inductive Change (s : Sys T) (l : Call T) (s' : Sys T) : Prop
  | stay (ho : s'.orders = s.orders) (hl : s'.log = s.log)
  | opened (o : ServiceOrder T) (g : Stamp T) (hs : o.statuses = [.opened])
      (hst : o.status = .opened) (hf : s.orders.find o.serviceOrderId = none)
      (ho : s'.orders = s.orders.save (after (.requestQuote g) o))
      (hl : s'.log = s.log ++ l.sent [returned (.requestQuote g) o])
  | moved (event : DomainEvent T) (g g' : Stamp T) (o o' : ServiceOrder T)
      (out : Option (DomainEvent T)) (he : l.Executes s event)
      (hf : s.orders.find (HandleSagaEventUseCase.serviceOrderId event) = some o)
      (ha : Accepts event g g' o o' out) (ho : s'.orders = s.orders.save o')
      (hl : s'.log = s.log ++ l.sent out.toList)

omit [Runtime T] in
theorem left_announce (pub : Publisher T) (o : ServiceOrder T) (out : Option (DomainEvent T))
    (s : Sys T) : left ((announce pub o out).run s) =
      { s with log := s.log ++ out.toList.filter fun e => (pub e).isNone } := by
  cases out with
  | none => simp [announce, left]
  | some e =>
    simp only [announce, publish, EStateM.run_bind]
    cases h : pub e with
    | none => simp [left, h]
    | some err => simp [left, h]

omit [Runtime T] in
/-- A command the registries allow and `ServiceOrder.open` accepts: the order is
stored in `QUOTE_REQUESTED`, then `OS_OPENED` is asked to be sent. -/
theorem open_run (pub : Publisher T) {regs : Registries T} {command : OpenServiceOrderCommand}
    {uuid : String} {now : T} {o : ServiceOrder T} (g : Stamp T) (s : Sys T)
    (hv : OpenServiceOrderUseCase.ensureCustomerVehicleAreValid regs command.customerId
      command.vehicleId = .ok ())
    (ho : ServiceOrder.open command.customerId command.vehicleId command.description uuid now =
      .ok o) :
    (OpenServiceOrderUseCase.execute pub regs command uuid now g).run s =
      (announce pub (after (.requestQuote g) o) (some (returned (.requestQuote g) o))).run
        { s with orders := s.orders.save (after (.requestQuote g) o) } := by
  obtain ⟨-, -, -, hO⟩ := ServiceOrder.open_ok ho
  have hq : (onLocal (ServiceOrder.requestQuote g) o).run s =
      .ok (returned (.requestQuote g) o, after (.requestQuote g) o) s := by
    have h := MethodCall.run_ok (.requestQuote g) o trivial
      (by rw [show o.status = .opened by rw [hO]]; decide)
    simp only [MethodCall.method, EStateM.run] at h
    simp only [onLocal, EStateM.run]; rw [h]; rfl
  unfold OpenServiceOrderUseCase.execute
  simp only [EStateM.run_bind, hv, ho, lift_run_ok, hq]
  rfl

omit [Runtime T] in
theorem open_refused {pub : Publisher T} {regs : Registries T} {command : OpenServiceOrderCommand}
    {uuid : String} {now : T} {e : PyError} (g : Stamp T) (s : Sys T)
    (h : OpenServiceOrderUseCase.ensureCustomerVehicleAreValid regs command.customerId
        command.vehicleId = .error e ∨
      OpenServiceOrderUseCase.ensureCustomerVehicleAreValid regs command.customerId
        command.vehicleId = .ok () ∧
      ServiceOrder.open command.customerId command.vehicleId command.description uuid now =
        .error e) :
    (OpenServiceOrderUseCase.execute pub regs command uuid now g).run s = .error e s := by
  unfold OpenServiceOrderUseCase.execute
  simp only [EStateM.run_bind]
  rcases h with h | ⟨h, ho⟩
  · rw [h]; rfl
  · rw [h, ho]; rfl

omit [Runtime T] in
/-- Opening an order raises with nothing done, or stores a new order in
`QUOTE_REQUESTED` and then asks to send `OS_OPENED`. -/
theorem open_cases (pub : Publisher T) (regs : Registries T) (command : OpenServiceOrderCommand)
    (uuid : String) (now : T) (g : Stamp T) (s : Sys T) :
    (∃ e, (OpenServiceOrderUseCase.execute pub regs command uuid now g).run s = .error e s) ∨
    ∃ o, ServiceOrder.open command.customerId command.vehicleId command.description uuid now =
        .ok o ∧
      (OpenServiceOrderUseCase.execute pub regs command uuid now g).run s =
        (announce pub (after (.requestQuote g) o) (some (returned (.requestQuote g) o))).run
          { s with orders := s.orders.save (after (.requestQuote g) o) } := by
  cases hv : OpenServiceOrderUseCase.ensureCustomerVehicleAreValid regs command.customerId
      command.vehicleId with
  | error e => exact .inl ⟨e, open_refused g s (.inl hv)⟩
  | ok u =>
    cases ho : ServiceOrder.open command.customerId command.vehicleId command.description uuid
        now with
    | error e => exact .inl ⟨e, open_refused g s (.inr ⟨hv, ho⟩)⟩
    | ok o => exact .inr ⟨o, rfl, open_run pub g s hv ho⟩

theorem execute_change {mode : RuntimeMode} {s : Sys T} {l : Call T} {event : DomainEvent T}
    (he : l.Executes s event) (g g' : Stamp T) :
    Change s l (left ((HandleSagaEventUseCase.execute mode l.pub event g g').run s)) := by
  rcases execute_cases mode l.pub event g g' s with ⟨e, hr, -⟩ | ⟨o, o', out, hf, ha, hr⟩
  · rw [hr]; exact .stay rfl rfl
  · rw [hr, left_announce]
    exact .moved event g g' o o' out he hf ha rfl rfl

/-- Recording an event id is no change of the orders or the log. -/
theorem Change.of_eq {s s' s'' : Sys T} {l : Call T} (h : Change s l s')
    (ho : s''.orders = s'.orders) (hl : s''.log = s'.log) : Change s l s'' := by
  cases h with
  | stay h1 h2 => exact .stay (ho.trans h1) (hl.trans h2)
  | opened o g hs hst hf h1 h2 => exact .opened o g hs hst hf (ho.trans h1) (hl.trans h2)
  | moved event g g' o o' out he hf ha h1 h2 =>
    exact .moved event g g' o o' out he hf ha (ho.trans h1) (hl.trans h2)

/-- A message that is not recorded has the effect of its event. -/
theorem left_handle {message : Dict} {event : DomainEvent T} {s : Sys T}
    (hr : ServiceOrderSagaEventHandler.readEvent message = .ok event)
    (hp : event.eventId ∉ s.processed) (mode : RuntimeMode) (pub : Publisher T) (g g' : Stamp T) :
    (left ((ServiceOrderSagaEventHandler.handle mode pub message g g').run s)).orders =
        (left ((HandleSagaEventUseCase.execute mode pub event g g').run s)).orders ∧
      (left ((ServiceOrderSagaEventHandler.handle mode pub message g g').run s)).log =
        (left ((HandleSagaEventUseCase.execute mode pub event g g').run s)).log := by
  rw [ServiceOrderSagaEventHandler.handle_fresh hr hp]
  cases (HandleSagaEventUseCase.execute mode pub event g g').run s <;> exact ⟨rfl, rfl⟩

theorem next_change (mode : RuntimeMode) (s : Sys T) (l : Call T) (hl : l.Fresh s) :
    Change s l (l.next mode s) := by
  cases l with
  | «open» pub regs command uuid now g =>
    rcases open_cases pub regs command uuid now g s with ⟨e, hr⟩ | ⟨o, ho, hr⟩
    · simp only [Call.next]; rw [hr]; exact .stay rfl rfl
    · simp only [Call.next]; rw [hr, left_announce]
      obtain ⟨-, -, -, rfl⟩ := ServiceOrder.open_ok ho
      have hf : s.orders.find uuid = none := hl
      exact .opened _ g rfl rfl hf rfl rfl
  | saga pub event g g' => exact execute_change (l := .saga pub event g g') rfl g g'
  | deliver pub message g g' =>
    simp only [Call.next]
    cases hr : ServiceOrderSagaEventHandler.readEvent (T := T) message with
    | error e =>
      rcases ServiceOrderSagaEventHandler.handle_unread hr mode pub g g' s with h | ⟨_, h⟩
      all_goals rw [h]; exact .stay rfl rfl
    | ok event =>
      by_cases hp : event.eventId ∈ s.processed
      · rw [ServiceOrderSagaEventHandler.handle_skipped hr hp]; exact .stay rfl rfl
      · have hc : Change s (.deliver pub message g g')
            (left ((HandleSagaEventUseCase.execute mode pub event g g').run s)) :=
          execute_change (l := .deliver pub message g g') ⟨hr, hp⟩ g g'
        obtain ⟨ho, hlog⟩ := left_handle hr hp mode pub g g'
        exact hc.of_eq ho hlog
  | lose eventId => exact .stay rfl rfl

/-- The other way round: a call that executes an event its target accepts
stores what the table says. -/
theorem executes_next (mode : RuntimeMode) {s : Sys T} {l : Call T} {event : DomainEvent T}
    (he : l.Executes s event) : ∃ g g' : Stamp T, ∀ o o' out,
      s.orders.find (HandleSagaEventUseCase.serviceOrderId event) = some o →
      Accepts event g g' o o' out → (l.next mode s).orders = s.orders.save o' := by
  have key : ∀ (pub : Publisher T) (g g' : Stamp T) o o' out,
      s.orders.find (HandleSagaEventUseCase.serviceOrderId event) = some o →
      Accepts event g g' o o' out →
      (left ((HandleSagaEventUseCase.execute mode pub event g g').run s)).orders =
        s.orders.save o' := by
    intro pub g g' o o' out hf ha
    rcases execute_cases mode pub event g g' s with ⟨e, -, hno⟩ | ⟨o₁, o₁', out₁, hf₁, ha₁, hx⟩
    · exact absurd ha (hno o o' out hf)
    · rw [hf, Option.some.injEq] at hf₁
      subst hf₁
      rw [hx, left_announce, (ha.unique ha₁).1]
  cases l with
  | «open» => cases he
  | lose => cases he
  | saga pub e g g' =>
    cases he
    exact ⟨g, g', fun o o' out hf ha => key pub g g' o o' out hf ha⟩
  | deliver pub message g g' =>
    refine ⟨g, g', fun o o' out hf ha => ?_⟩
    rw [Call.next, (left_handle he.1 he.2 mode pub g g').1]
    exact key pub g g' o o' out hf ha

theorem reachable_of_reliable {mode : RuntimeMode} {s : Sys T}
    (h : (reliableLts T mode).Reachable s) : (sagaLts T mode).Reachable s :=
  Lts.Reachable.mono (M := reliableLts T mode) (N := sagaLts T mode) (fun _ hi => hi)
    (fun _ _ _ hs => hs.1) h

/-! ## A concrete run -/

def exNow : Iso := ⟨"2026-01-01T00:00:00+00:00"⟩

def exStamp (eventId : String) : Stamp Iso := ⟨exNow, eventId, exNow⟩

def exEvent (eventType eventId : String) (payload : Dict) : DomainEvent Iso :=
  ⟨eventType, "os-1", payload, eventId, exNow⟩

def exOpen : Call Iso :=
  .open reliable ⟨none, none⟩ ⟨"customer-1", "vehicle-1", "Brake inspection"⟩ "os-1" exNow
    (exStamp "event-1")

def exSaga (eventType : String) (payload : Dict) : Call Iso :=
  .saga reliable (exEvent eventType "event-2" payload) (exStamp "event-3") (exStamp "event-4")

def exApprove : Call Iso := exSaga "QUOTE_APPROVED" [("quote_id", .str "quote-1")]

/-- An order opened and its quote approved. -/
def exState : Sys Iso := [exOpen, exApprove].foldl (Call.next .real) .empty

theorem exState_reachable : (reliableLts Iso .real).Reachable exState :=
  ⟨.empty, [exOpen, exApprove], rfl,
    .cons ⟨⟨rfl, rfl⟩, rfl, id⟩ (.cons ⟨⟨trivial, rfl⟩, rfl, id⟩ (.nil _))⟩

example : (exState.orders.find "os-1").map ServiceOrder.statuses =
    some [.opened, .quoteRequested, .quoteApproved] := by rfl

/-- And the payment asked for. -/
def exPending : Sys Iso :=
  (exSaga "PAYMENT_PREFERENCE_CREATED" [("payment_id", .str "payment-1")]).next .real exState

theorem exPending_reachable : (sagaLts Iso .real).Reachable exPending :=
  (reachable_of_reliable exState_reachable).step
    (l := exSaga "PAYMENT_PREFERENCE_CREATED" [("payment_id", .str "payment-1")]) ⟨trivial, rfl⟩

/-- The stamps of two executions at work together. -/
def exFirst : Bool → Stamp Iso
  | true => exStamp "event-9"
  | false => exStamp "event-10"

def exSecond : Bool → Stamp Iso
  | true => exStamp "event-11"
  | false => exStamp "event-12"

end ServiceOrderOs.Runs
