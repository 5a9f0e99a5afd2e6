import ServiceOrderOs.L3App.RabbitMq

/-!
# The worker on its queue

`RabbitMqBlockingEventWorker` reads a body with its own copy of the consumer's
code, and settles the delivery: an ack when the handler returns, else a nack
that does not requeue. An ack that raises is answered with a nack; what the nack
raises stops the worker.

* `handleDelivery_run`: the whole of `_handle_delivery` as one case analysis.
* `handleDelivery_consumer`: what it acks is what the consumer returns.
-/
namespace ServiceOrderOs.App
open Py Domain

variable {T σ : Type} [Runtime T]

/-- What a delivery uses of its channel; the first argument is the tag. -/
structure DeliveryChannel (σ : Type) where
  basicAck : Nat → EStateM PyError σ Unit
  basicNack : Nat → Bool → EStateM PyError σ Unit

namespace RabbitMqBlockingEventWorker

variable (T)

/-- mirrors src/infrastructure/messaging/rabbitmq_blocking_worker.py:48-50 -/
def readDocument (document : Json) : Except PyError Dict :=
  match document with
  | .obj message => do
    validateEventMessage T message
    return message
  | _ => throw (.valueError "RabbitMQ message body must be an object")

/-- mirrors src/infrastructure/messaging/rabbitmq_blocking_worker.py:47-50 -/
def readDelivery (py : Codecs) (body : ByteArray) : Except PyError Dict := do
  readDocument T (← py.decode body >>= py.loads)

/-- mirrors src/infrastructure/messaging/rabbitmq_blocking_worker.py:45-54 -/
def handleDelivery (py : Codecs) (handler : Handler σ) (channel : DeliveryChannel σ)
    (deliveryTag : Nat) (body : ByteArray) : EStateM PyError σ Unit := do
  try
    let message ← ofExcept (readDelivery T py body)
    handler message
    channel.basicAck deliveryTag
  catch _ =>
    channel.basicNack deliveryTag false

variable {T}

section Delivery
variable {py : Codecs} {handler : Handler σ} {channel : DeliveryChannel σ} {deliveryTag : Nat}
  {body : ByteArray} {message : Dict}

theorem handleDelivery_run (py : Codecs) (handler : Handler σ) (channel : DeliveryChannel σ)
    (deliveryTag : Nat) (body : ByteArray) (s : σ) :
    (handleDelivery T py handler channel deliveryTag body).run s =
      match readDelivery T py body with
      | .error _ => (channel.basicNack deliveryTag false).run s
      | .ok message => match (handler message).run s with
        | .error _ s' => (channel.basicNack deliveryTag false).run s'
        | .ok _ s' => match (channel.basicAck deliveryTag).run s' with
          | .error _ s'' => (channel.basicNack deliveryTag false).run s''
          | .ok _ s'' => .ok () s'' := by
  unfold handleDelivery
  cases hread : readDelivery T py body with
  | error e => rfl
  | ok message =>
    simp only [ofExcept, EStateM.run, tryCatch, tryCatchThe, MonadExceptOf.tryCatch,
      EStateM.tryCatch, bind, EStateM.bind, pure, EStateM.pure]
    cases handler message s with
    | error e s' => rfl
    | ok u s' =>
      cases hack : channel.basicAck deliveryTag s' with
      | error e s'' => simp only [hack]; rfl
      | ok v s'' => simp only [hack]

theorem receive_run (handler : Handler σ) (document : Json) (s : σ) :
    (RabbitMqEventConsumer.receive T (some handler) document).run s =
      match readDocument T document with
      | .error e => .error e s
      | .ok message => match (handler message).run s with
        | .error e s' => .error e s'
        | .ok _ s' => .ok message s' := by
  unfold RabbitMqEventConsumer.receive readDocument
  cases document with
  | obj message =>
    dsimp only
    cases validateEventMessage T message with
    | error e => rfl
    | ok u =>
      simp only [ofExcept, EStateM.run, RabbitMqEventConsumer.call, bind, EStateM.bind, pure,
        EStateM.pure, Except.bind, Except.pure]
      cases handler message s <;> rfl
  | _ => rfl

/-- What the consumer returns is what the worker reads. -/
theorem handleMessage_run (py : Codecs) (handler : Handler σ) (body : ByteArray) (s : σ) :
    (RabbitMqEventConsumer.handleMessage T py (some handler) body).run s =
      match readDelivery T py body with
      | .error e => .error e s
      | .ok message => match (handler message).run s with
        | .error e s' => .error e s'
        | .ok _ s' => .ok message s' := by
  unfold RabbitMqEventConsumer.handleMessage readDelivery
  cases py.decode body >>= py.loads with
  | error e => rfl
  | ok document => exact receive_run handler document s

/-- **The worker is the consumer with an acknowledgement.** Whatever the body, the
handler and the channel do. -/
theorem handleDelivery_consumer (py : Codecs) (handler : Handler σ) (channel : DeliveryChannel σ)
    (deliveryTag : Nat) (body : ByteArray) (s : σ) :
    (handleDelivery T py handler channel deliveryTag body).run s =
      match (RabbitMqEventConsumer.handleMessage T py (some handler) body).run s with
      | .error _ s' => (channel.basicNack deliveryTag false).run s'
      | .ok _ s' => match (channel.basicAck deliveryTag).run s' with
        | .error _ s'' => (channel.basicNack deliveryTag false).run s''
        | .ok _ s'' => .ok () s'' := by
  rw [handleDelivery_run, handleMessage_run]
  cases readDelivery T py body with
  | error e => rfl
  | ok message => cases h : (handler message).run s <;> simp only [h]

/-- The worker reads its own service's events. -/
theorem readDelivery_encoded {py : Codecs} (hpy : py.Inverts) {event : DomainEvent T}
    (htype : event.eventType ∈ integrationEventTypes)
    (hpayload : (Json.obj event.payload).WellFormed py.isRepr) :
    readDelivery T py (encoded event) = .ok event.toMessage := by
  have hloads := hpy.loads_compact _ (toMessage_wellFormed hpayload)
  rw [readDelivery, encoded, py.decode_encode, ok_bind, hloads, ok_bind, readDocument,
    validate_envelope (toMessage_envelope htype)]
  rfl

end Delivery
end RabbitMqBlockingEventWorker
end ServiceOrderOs.App
