import ServiceOrderOs.L1Values.Value

/-!
# Domain events

`DomainEvent` is the envelope every message of the saga travels in;
`toMessage` is the dictionary the publishers send.

`T` is the type of timestamps. The `event_id` and `occurred_at` a new event
gets from its default factories are in the `Stamp` its maker is called with:
one stamp a call that creates a history entry and an event.
-/
namespace ServiceOrderOs.Domain
open Py

variable {T : Type}

/-- mirrors src/domain/events.py:9-15 -/
structure DomainEvent (T : Type) where
  eventType : String
  correlationId : String
  payload : Dict
  eventId : String
  occurredAt : T

/-- What `uuid4()` and `datetime.now(UTC)` return in one call: the time of the
history entry, then the id and the time of the event. -/
structure Stamp (T : Type) where
  createdAt : T
  eventId : String
  occurredAt : T

/-- mirrors src/domain/events.py:17-24 -/
def DomainEvent.toMessage [Runtime T] (self : DomainEvent T) : Dict :=
  [("event_id", .str self.eventId), ("event_type", .str self.eventType),
   ("correlation_id", .str self.correlationId),
   ("occurred_at", .str (Runtime.isoformat self.occurredAt)), ("payload", .obj self.payload)]

end ServiceOrderOs.Domain
