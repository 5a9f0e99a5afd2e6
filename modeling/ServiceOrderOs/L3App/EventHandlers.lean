import ServiceOrderOs.L3App.Acceptance

/-!
# The handler of delivered messages

`ServiceOrderSagaEventHandler.handle` reads three fields of the message, asks
whether the event id has been processed, and only then reads the other two and
executes the use case. The record of the event id comes last.

* `handle_run`: the whole of `handle` as one case analysis.
* `handle_skipped`, `handle_fresh`: the same for a message that can be read.
-/
namespace ServiceOrderOs.App
open Py Domain

variable {T : Type} [Runtime T]

/-- What `handle` returns. -/
inductive Handled where
  | skipped | processed
  deriving DecidableEq, Repr

/-- The fields read before the duplicate check. -/
structure Header where
  eventId : String
  eventType : String
  correlationId : String
  deriving DecidableEq, Repr

namespace ServiceOrderSagaEventHandler

/-- `str(message[key])` -/
def field (T : Type) [Runtime T] (message : Dict) (key : String) : Except PyError String :=
  (·.toStr T) <$> message.item key

/-- mirrors src/application/event_handlers.py:27-29 -/
def header (T : Type) [Runtime T] (message : Dict) : Except PyError Header := do
  let eventId ← field T message "event_id"
  let eventType ← field T message "event_type"
  let correlationId ← field T message "correlation_id"
  return ⟨eventId, eventType, correlationId⟩

/-- mirrors src/application/event_handlers.py:33-39 -/
def toEvent (h : Header) (message : Dict) : Except PyError (DomainEvent T) := do
  let text ← field T message "occurred_at"
  let occurredAt ← fromisoformat text
  let payload ← Dict.ofValue (← message.item "payload")
  return ⟨h.eventType, h.correlationId, payload, h.eventId, occurredAt⟩

/-- The event a message describes. -/
def readEvent (message : Dict) : Except PyError (DomainEvent T) := do
  toEvent (← header T message) message

/-- mirrors src/application/event_handlers.py:26-45 -/
def handle (mode : RuntimeMode) (pub : Publisher T) (message : Dict) (g g' : Stamp T) :
    AppM T Handled := do
  let h ← lift (header T message)
  if h.eventId ∈ (← get).processed then return .skipped
  let event ← lift (toEvent h message)
  let _ ← HandleSagaEventUseCase.execute mode pub event g g'
  modify fun s => { s with processed := insert h.eventId s.processed }
  return .processed

theorem toEvent_ok {h : Header} {message : Dict} {event : DomainEvent T}
    (he : toEvent h message = .ok event) : event.eventId = h.eventId ∧
      event.eventType = h.eventType ∧ event.correlationId = h.correlationId := by
  obtain ⟨text, -, he⟩ := bind_ok he
  obtain ⟨occurredAt, -, he⟩ := bind_ok he
  obtain ⟨v, -, he⟩ := bind_ok he
  obtain ⟨payload, -, he⟩ := bind_ok he
  cases he
  exact ⟨rfl, rfl, rfl⟩

theorem readEvent_of {message : Dict} {hd : Header} {event : DomainEvent T}
    (hh : header T message = .ok hd) (ht : toEvent hd message = .ok event) :
    readEvent message = .ok event := by
  simp only [readEvent, hh, ht, bind, Except.bind]

theorem readEvent_ok {message : Dict} {event : DomainEvent T}
    (h : readEvent message = .ok event) :
    ∃ hd : Header, header T message = .ok hd ∧ toEvent hd message = .ok event ∧
      hd.eventId = event.eventId := by
  obtain ⟨hd, hh, ht⟩ := bind_ok h
  exact ⟨hd, hh, ht, (toEvent_ok ht).1.symm⟩

/-- A published event that comes back is read as it was, but for its time
should the text not be read back. -/
theorem readEvent_toMessage {e event : DomainEvent T} (h : readEvent e.toMessage = .ok event) :
    event.eventType = e.eventType ∧ event.correlationId = e.correlationId ∧
      event.payload = e.payload := by
  have hh : header T e.toMessage = .ok ⟨e.eventId, e.eventType, e.correlationId⟩ := rfl
  obtain ⟨hd, hr, ht, -⟩ := readEvent_ok h
  rw [hh, Except.ok.injEq] at hr
  obtain ⟨-, h1, h2⟩ := toEvent_ok ht
  refine ⟨by rw [h1, ← hr], by rw [h2, ← hr], ?_⟩
  obtain ⟨text, -, ht⟩ := bind_ok ht
  obtain ⟨occurredAt, -, ht⟩ := bind_ok ht
  obtain ⟨v, hv, ht⟩ := bind_ok ht
  obtain ⟨payload, hp, ht⟩ := bind_ok ht
  cases hv; cases hp; cases ht; rfl

theorem handle_run (mode : RuntimeMode) (pub : Publisher T) (message : Dict) (g g' : Stamp T)
    (s : Sys T) : (handle mode pub message g g').run s =
      match header T message with
      | .error e => .error e s
      | .ok h =>
        if h.eventId ∈ s.processed then .ok .skipped s
        else match toEvent h message with
          | .error e => .error e s
          | .ok event =>
            match (HandleSagaEventUseCase.execute mode pub event g g').run s with
            | .ok _ s' => .ok .processed { s' with processed := insert h.eventId s'.processed }
            | .error e s' => .error e s' := by
  unfold handle
  simp only [EStateM.run_bind]
  cases header T message with
  | error e => rfl
  | ok h =>
    simp only [lift_run_ok, EStateM.run_get]
    by_cases hm : h.eventId ∈ s.processed
    · simp only [if_pos hm]; rfl
    · simp only [if_neg hm]
      cases toEvent (T := T) h message with
      | error e => rfl
      | ok event =>
        simp only [lift_run_ok, EStateM.run_bind]
        cases (HandleSagaEventUseCase.execute mode pub event g g').run s <;> rfl

/-- A message whose event id is recorded is skipped. -/
theorem handle_skipped {message : Dict} {event : DomainEvent T} {s : Sys T}
    (hr : readEvent message = .ok event) (hp : event.eventId ∈ s.processed) (mode : RuntimeMode)
    (pub : Publisher T) (g g' : Stamp T) :
    (handle mode pub message g g').run s = .ok .skipped s := by
  obtain ⟨hd, hh, -, hid⟩ := readEvent_ok hr
  rw [handle_run]
  simp only [hh, hid, hp, if_true]

/-- A message that is not recorded is executed, then recorded. -/
theorem handle_fresh {message : Dict} {event : DomainEvent T} {s : Sys T}
    (hr : readEvent message = .ok event) (hp : event.eventId ∉ s.processed) (mode : RuntimeMode)
    (pub : Publisher T) (g g' : Stamp T) :
    (handle mode pub message g g').run s =
      match (HandleSagaEventUseCase.execute mode pub event g g').run s with
      | .ok _ s' => .ok .processed { s' with processed := insert event.eventId s'.processed }
      | .error e s' => .error e s' := by
  obtain ⟨hd, hh, ht, hid⟩ := readEvent_ok hr
  rw [handle_run]
  simp only [hh, hid, ht, if_neg hp]

/-- A message that cannot be read does nothing; it may still be skipped, its
event id being read first. -/
theorem handle_unread {message : Dict} {e : PyError}
    (hr : readEvent (T := T) message = .error e) (mode : RuntimeMode) (pub : Publisher T)
    (g g' : Stamp T) (s : Sys T) : (handle mode pub message g g').run s = .ok .skipped s ∨
      ∃ e, (handle mode pub message g g').run s = .error e s := by
  rw [handle_run]
  cases hh : header T message with
  | error e => right; exact ⟨e, rfl⟩
  | ok h =>
    simp only [readEvent, hh, bind, Except.bind] at hr
    by_cases hp : h.eventId ∈ s.processed
    · left; simp only [if_pos hp]
    · right; simp only [if_neg hp, hr]; exact ⟨e, rfl⟩

end ServiceOrderSagaEventHandler
end ServiceOrderOs.App
