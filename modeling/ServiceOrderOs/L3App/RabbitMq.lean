import ServiceOrderOs.L3App.EventContracts
import ServiceOrderOs.L3App.EventHandlers

/-!
# Events over RabbitMQ

The publisher writes the message of an event as a JSON body and hands it to the
channel; the consumer reads a body, checks the message and calls its handler. A
channel and a handler are any actions, on a state of their own, that may raise.

* `publish_eq`, `publish_refuses`: the publisher is one call of the channel, or
  raises before it.
* `envelopes_survive`: an event within the contract arrives as it was, and no
  other is sent.
* `consumer_exact_iff`: a document is accepted, or refused with a `ValueError`,
  unless its type is a list or an object.
-/
namespace ServiceOrderOs.App
open Py Domain

variable {T σ : Type} [Runtime T]

/-- What `basic_publish` is given. -/
structure Publication where
  exchange : String
  routingKey : String
  body : ByteArray

/-- mirrors src/infrastructure/messaging/rabbitmq_event_publisher.py:11-19 -/
abbrev Channel (σ : Type) := Publication → EStateM PyError σ Unit

abbrev Handler (σ : Type) := Dict → EStateM PyError σ Unit

/-- mirrors src/infrastructure/messaging/rabbitmq_event_publisher.py:22-25 -/
structure RabbitMqEventPublisherSettings where
  exchange : String
  routingKey : String

namespace RabbitMqEventPublisher

/-- mirrors src/infrastructure/messaging/rabbitmq_event_publisher.py:37-45 -/
def publish (channel : Channel σ) (settings : RabbitMqEventPublisherSettings)
    (event : DomainEvent T) : EStateM PyError σ Unit := do
  let message ← ofExcept (eventToMessage event)
  let body := (Json.obj message).dumpsCompact.toUTF8
  channel ⟨settings.exchange, settings.routingKey, body⟩

end RabbitMqEventPublisher

namespace RabbitMqEventConsumer

/-- `if self._handler is not None: self._handler(message)` -/
def call (handler : Option (Handler σ)) (message : Dict) : EStateM PyError σ Unit :=
  match handler with
  | some handler => handler message
  | none => pure ()

variable (T)

/-- What is done with the document in the body. -/
def receive (handler : Option (Handler σ)) (document : Json) : EStateM PyError σ Dict :=
  match document with
  | .obj message => do
    ofExcept (validateEventMessage T message)
    call handler message
    return message
  | _ => throw (.valueError "RabbitMQ message body must be an object")

/-- mirrors src/infrastructure/messaging/rabbitmq_event_consumer.py:13-20 -/
def handleMessage (py : Codecs) (handler : Option (Handler σ)) (body : ByteArray) :
    EStateM PyError σ Dict := do
  receive T handler (← ofExcept (py.decode body >>= py.loads))

end RabbitMqEventConsumer

open RabbitMqEventConsumer ServiceOrderSagaEventHandler

/-! ## The publisher -/

section Publisher
variable {event : DomainEvent T} {channel : Channel σ} {settings : RabbitMqEventPublisherSettings}

/-- The body of an event. -/
def encoded (event : DomainEvent T) : ByteArray := (Json.obj event.toMessage).dumpsCompact.toUTF8

theorem publish_eq (h : event.eventType ∈ integrationEventTypes) :
    RabbitMqEventPublisher.publish channel settings event =
      channel ⟨settings.exchange, settings.routingKey, encoded event⟩ := by
  rw [RabbitMqEventPublisher.publish, eventToMessage_ok h]
  rfl

theorem publish_refuses (h : event.eventType ∉ integrationEventTypes) :
    RabbitMqEventPublisher.publish channel settings event =
      throw (.valueError s!"Unsupported event type: {event.eventType}") := by
  rw [RabbitMqEventPublisher.publish, eventToMessage_error h]
  rfl

end Publisher

/-! ## The consumer -/

section Consumer
variable {py : Codecs} {text : String} {handler : Option (Handler σ)} {message : Dict}

theorem handleMessage_loads {document : Json} (h : py.loads text = .ok document) :
    handleMessage T py handler text.toUTF8 = receive T handler document := by
  rw [handleMessage, py.decode_encode, ok_bind, h]
  rfl

/-- A message within the contract goes to the handler. -/
theorem receive_envelope (h : IsEnvelope message) : receive T handler (.obj message) = (do
    call handler message
    return message) := by
  rw [receive, validate_envelope h]
  rfl

/-- What the check raises is raised, and the handler is not called. -/
theorem receive_refused {e : PyError} (h : validateEventMessage T message = .error e) :
    receive T handler (.obj message) = throw e := by
  rw [receive, h]
  rfl

end Consumer

/-! ## From an event to its handler -/

/-- The handler reads back the event a message was made of. -/
theorem readEvent_of_toMessage (hiso : IsoRoundTrip T) (event : DomainEvent T) :
    readEvent event.toMessage = .ok event := by
  have hh : header T event.toMessage =
      .ok ⟨event.eventId, event.eventType, event.correlationId⟩ := rfl
  have htime : field T event.toMessage "occurred_at" =
      .ok (Runtime.isoformat event.occurredAt) := rfl
  refine readEvent_of hh ?_
  rw [toEvent, htime, ok_bind, fromisoformat_isoformat hiso, ok_bind]
  rfl

/-- What becomes of an event of the contract: the publisher hands its body to
the channel, the consumer returns its message and calls its handler with that,
and the handler of the sagas executes the event itself. -/
structure Survives (py : Codecs) (event : DomainEvent T) (body : ByteArray) : Prop where
  sent : ∀ {σ : Type} (channel : Channel σ) (settings : RabbitMqEventPublisherSettings),
    RabbitMqEventPublisher.publish channel settings event =
      channel ⟨settings.exchange, settings.routingKey, body⟩
  received : ∀ {σ : Type} (handler : Option (Handler σ)),
    handleMessage T py handler body = (do
      call handler event.toMessage
      return event.toMessage)
  rebuilt : readEvent event.toMessage = .ok event
  executed : ∀ (mode : RuntimeMode) (pub : Publisher T) (g g' : Stamp T) (s : Sys T),
    event.eventId ∉ s.processed → (handle mode pub event.toMessage g g').run s =
      match (HandleSagaEventUseCase.execute mode pub event g g').run s with
      | .ok _ s' => .ok .processed { s' with processed := insert event.eventId s'.processed }
      | .error e s' => .error e s'

/-- **An event survives the wire.** -/
theorem envelopes_survive {py : Codecs} (hpy : py.Inverts) (hiso : IsoRoundTrip T) :
    (∀ event : DomainEvent T, event.eventType ∈ integrationEventTypes →
      (Json.obj event.payload).WellFormed py.isRepr → ∃ body, Survives py event body) ∧
    (∀ event : DomainEvent T, event.eventType ∉ integrationEventTypes → ∃ text,
      ∀ {σ : Type} (channel : Channel σ) (settings : RabbitMqEventPublisherSettings),
        RabbitMqEventPublisher.publish channel settings event = throw (.valueError text)) ∧
    ∀ (c : MethodCall T) (o o' : ServiceOrder T) (event : DomainEvent T),
      c.method.run o = .ok event o' → event.eventType ∈ integrationEventTypes ∧
        (Json.obj event.payload).WellFormed py.isRepr := by
  refine ⟨fun event htype hpayload => ⟨encoded event, ?_⟩, fun event htype => ?_,
    fun c o o' event h => methodCall_contract py.isRepr h⟩
  · have hread := readEvent_of_toMessage hiso event
    refine ⟨fun channel settings => publish_eq htype, fun handler => ?_, hread,
      fun mode pub g g' s hnew => handle_fresh hread hnew mode pub g g'⟩
    have hloads := hpy.loads_compact _ (toMessage_wellFormed hpayload)
    rw [encoded, handleMessage_loads hloads, receive_envelope (toMessage_envelope htype)]
  · exact ⟨_, fun channel settings => publish_refuses htype⟩

def exTime : Utc := ⟨⟨"2026-07-05T12:00:00+00:00"⟩, by decide⟩

def exOpened : DomainEvent Utc :=
  ⟨"OS_OPENED", "os-1", [("service_order_id", .str "os-1"), ("total", .float "99.9"),
    ("parts", .arr [.obj [("name", .str "pad \"A\""), ("units", .int 2)], .null])], "event-1",
    exTime⟩

theorem exOpened_wellFormed : (Json.obj exOpened.payload).WellFormed codecs.isRepr := by
  have hfloat : IsFloat "99.9" := ⟨List.all_eq_true.1 (by decide), by decide⟩
  refine .obj (by decide) ?_
  simp only [exOpened, List.forall_mem_cons, List.not_mem_nil, false_implies, implies_true,
    and_true]
  refine ⟨.str _, .float hfloat, .arr ?_⟩
  simp only [List.forall_mem_cons, List.not_mem_nil, false_implies, implies_true, and_true]
  refine ⟨.obj (by decide) ?_, .null⟩
  simp only [List.forall_mem_cons, List.not_mem_nil, false_implies, implies_true, and_true]
  exact ⟨.str _, .int _⟩

theorem opened_survives : ∃ body, Survives codecs exOpened body :=
  (envelopes_survive codecs_inverts utc_roundTrip).1 exOpened (by decide) exOpened_wellFormed

/-! ## Any document -/

/-- A handler that does not raise is what it does to its state. -/
def quiet (f : Dict → σ → σ) : Handler σ := fun message => modify (f message)

/-- The consumer returns an envelope after one call of its handler, and refuses
anything else with a `ValueError` before it. -/
structure Judged (f : Dict → σ → σ) (s : σ) (document : Json)
    (r : EStateM.Result PyError σ Dict) : Prop where
  accepted : ∀ message, document = .obj message → IsEnvelope message → r = .ok message (f message s)
  refused : (¬ ∃ message, document = .obj message ∧ IsEnvelope message) →
    ∃ text, r = .error (.valueError text) s

/-- **What the consumer accepts.** Of every document, with every handler that
does not raise: it is judged as it should be unless it is an object that has the
five fields and a list or an object for its type. -/
theorem consumer_exact_iff {py : Codecs} {text : String} {document : Json}
    (h : py.loads text = .ok document) (f : Dict → σ → σ) (s : σ) :
    Judged f s document ((handleMessage T py (some (quiet f)) text.toUTF8).run s) ↔
      ¬ ∃ message, document = .obj message ∧ Unhashable message := by
  rw [handleMessage_loads h]
  constructor
  · rintro hj ⟨message, rfl, hunhashable⟩
    have hno : ¬ ∃ m, Json.obj message = .obj m ∧ IsEnvelope m := by
      rintro ⟨m, hm, henvelope⟩
      cases hm
      exact hunhashable.not_envelope henvelope
    obtain ⟨e, he⟩ := validate_unhashable (T := T) hunhashable
    obtain ⟨e', he'⟩ := hj.refused hno
    rw [receive_refused he] at he'
    cases he'
  · intro hno
    constructor
    · rintro message rfl henvelope
      rw [receive_envelope henvelope]
      rfl
    · intro hnot
      cases document with
      | obj message =>
        obtain ⟨e, he⟩ := validate_refuses (T := T) (fun h => hnot ⟨message, rfl, h⟩)
          fun h => hno ⟨message, rfl, h⟩
        rw [receive_refused he]
        exact ⟨e, rfl⟩
      | _ => exact ⟨_, rfl⟩

/-- The message of `exOpened` with the type `t`. -/
def exTyped (t : Json) : Dict :=
  [("event_id", .str "event-1"), ("event_type", t), ("correlation_id", .str "os-1"),
    ("occurred_at", .str "2026-07-05T12:00:00+00:00"), ("payload", .obj [])]

theorem exTyped_fields (t : Json) : HasFields (exTyped t) := by
  unfold HasFields requiredFields
  simp [exTyped]

theorem loads_exTyped {t : Json} (h : t.WellFormed codecs.isRepr) :
    codecs.loads (Json.obj (exTyped t)).dumps = .ok (.obj (exTyped t)) := by
  refine codecs_inverts.loads_dumps _ (.obj (by simp [exTyped]) ?_)
  simp only [exTyped, List.forall_mem_cons, List.not_mem_nil, false_implies, implies_true, and_true]
  exact ⟨.str _, h, .str _, .str _, .obj (by simp) (by simp)⟩

/-- A number for a type is refused as it should be. -/
theorem number_type_judged : Judged (fun message calls => calls ++ [message]) []
    (.obj (exTyped (.int 5))) ((handleMessage Utc codecs
      (some (quiet fun message calls => calls ++ [message]))
      (Json.obj (exTyped (.int 5))).dumps.toUTF8).run []) := by
  refine (consumer_exact_iff (loads_exTyped (.int 5)) _ _).mpr ?_
  rintro ⟨message, hm, hunhashable⟩
  obtain ⟨t, ht, hcontainer⟩ := hunhashable.eventType
  cases hm
  cases ht
  cases hcontainer

/-- A list for a type raises `TypeError`. -/
theorem handle_list_type (handler : Option (Handler σ)) (s : σ) :
    (handleMessage Utc codecs handler (Json.obj (exTyped (.arr []))).dumps.toUTF8).run s =
      .error (.typeError "unhashable type: 'list'") s := by
  have hcheck : validateEventMessage Utc (exTyped (.arr [])) =
      .error (.typeError "unhashable type: 'list'") := by
    rw [validate_fields (exTyped_fields _) rfl rfl]
    rfl
  rw [handleMessage_loads (loads_exTyped (.arr (by simp))), receive_refused hcheck]
  rfl

theorem list_type_not_judged :
    codecs.loads (Json.obj (exTyped (.arr []))).dumps = .ok (.obj (exTyped (.arr []))) ∧
      ¬ Judged (fun message calls => calls ++ [message]) [] (.obj (exTyped (.arr [])))
        ((handleMessage Utc codecs (some (quiet fun message calls => calls ++ [message]))
          (Json.obj (exTyped (.arr []))).dumps.toUTF8).run []) := by
  refine ⟨loads_exTyped (.arr (by simp)), fun hj => ?_⟩
  have hno : ¬ ∃ message, Json.obj (exTyped (.arr [])) = .obj message ∧ IsEnvelope message := by
    rintro ⟨message, hm, henvelope⟩
    cases hm
    have hunhashable : Unhashable (exTyped (.arr [])) := ⟨exTyped_fields _, _, rfl, rfl⟩
    exact hunhashable.not_envelope henvelope
  obtain ⟨e, he⟩ := hj.refused hno
  rw [handle_list_type] at he
  cases he

end ServiceOrderOs.App
