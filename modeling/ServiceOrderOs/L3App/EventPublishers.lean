import ServiceOrderOs.L3App.RabbitMq

/-!
# The publishers that record

Both publishers of the application keep the messages they have published until
they are drained. The in-memory one records the event first and its message
after the check; the RabbitMQ one records the message once it is sent, and
closes its connection in the end whatever has happened.

What the broker makes of a call of `publish` is in `Attempt`. What `json.dumps`
may raise on a payload that is no JSON counts as raised by the channel.

* `inMemory_publish`, `blocking_publish`: one call of `publish`.
* `inMemory_records`, `blocking_records`: the calls that keep to the contract of
  a recording publisher (`RecordsMessages`), and that the others break it.
* `publish_log`: to the system such a publisher is what it raises and its log.
* `methodCall_reliable`: what a service order returns is never refused.
-/
namespace ServiceOrderOs.App
open Py Domain

variable {T : Type} [Runtime T]

/-- What a publisher offers: `A` is what befalls a call of `publish` from
outside, `S` what the publisher records. -/
structure RecordingPublisher (T A S : Type) where
  publish : A → DomainEvent T → EStateM PyError S Unit
  publishedMessages : S → List Dict
  drain : S → List Dict × S

/-- The calls of `publish` in `Good` record the message of their event or raise
and record nothing; any other leaves a trace of its failure. `Inv` holds of
what is recorded. -/
structure RecordsMessages {A S : Type} (P : RecordingPublisher T A S) (Inv : S → Prop)
    (Good : DomainEvent T → A → Prop) : Prop where
  good : ∀ {s e a}, Good e a → (∃ s', (P.publish a e).run s = .ok () s' ∧ (Inv s → Inv s') ∧
    P.publishedMessages s' = P.publishedMessages s ++ [e.toMessage]) ∨
    ∃ err, (P.publish a e).run s = .error err s
  bad : ∀ {s e a}, ¬ Good e a → ∃ err s', (P.publish a e).run s = .error err s' ∧ s' ≠ s
  drained : ∀ s, (P.drain s).1 = P.publishedMessages s
  emptied : ∀ s, P.publishedMessages (P.drain s).2 = [] ∧ Inv (P.drain s).2

/-! ## In memory -/

/-- mirrors src/infrastructure/messaging/in_memory_event_publisher.py:7-10 -/
structure InMemoryEventPublisher (T : Type) where
  events : List (DomainEvent T)
  messages : List Dict

namespace InMemoryEventPublisher

/-- mirrors src/infrastructure/messaging/in_memory_event_publisher.py:12-14 -/
def publish (event : DomainEvent T) : EStateM PyError (InMemoryEventPublisher T) Unit := do
  modify fun self => { self with events := self.events ++ [event] }
  let message ← ofExcept (eventToMessage event)
  modify fun self => { self with messages := self.messages ++ [message] }

/-- mirrors src/infrastructure/messaging/in_memory_event_publisher.py:16-17 -/
def publishedMessages (self : InMemoryEventPublisher T) : List Dict := self.messages

/-- mirrors src/infrastructure/messaging/in_memory_event_publisher.py:19-23 -/
def drain (self : InMemoryEventPublisher T) : List Dict × InMemoryEventPublisher T :=
  (self.publishedMessages, ⟨[], []⟩)

/-- Message `i` is the message of event `i`. -/
def LockStep (self : InMemoryEventPublisher T) : Prop :=
  self.messages = self.events.map DomainEvent.toMessage

end InMemoryEventPublisher

def inMemoryEventPublisher : RecordingPublisher T Unit (InMemoryEventPublisher T) where
  publish _ := InMemoryEventPublisher.publish
  publishedMessages := InMemoryEventPublisher.publishedMessages
  drain := InMemoryEventPublisher.drain

/-! ## Over RabbitMQ -/

/-- mirrors src/infrastructure/messaging/rabbitmq_blocking_publisher.py:13-20 -/
structure RabbitMqBlockingEventPublisher where
  messages : List Dict

/-- What a call of `publish` meets: the exceptions of `_build_publisher`, of
`basic_publish` and of `close`, and whether the connection is still open. -/
structure Attempt where
  build : Option PyError
  basicPublish : Option PyError
  isOpen : Bool
  close : Option PyError

def raises {σ : Type} : Option PyError → EStateM PyError σ Unit
  | some e => throw e
  | none => pure ()

namespace RabbitMqBlockingEventPublisher

/-- mirrors src/infrastructure/messaging/rabbitmq_blocking_publisher.py:47-57 -/
def publish (settings : RabbitMqEventPublisherSettings) (attempt : Attempt)
    (event : DomainEvent T) : EStateM PyError RabbitMqBlockingEventPublisher Unit := do
  raises attempt.build
  try
    RabbitMqEventPublisher.publish (fun _ => raises attempt.basicPublish) settings event
    let message ← ofExcept (eventToMessage event)
    modify fun self => { self with messages := self.messages ++ [message] }
  finally
    if attempt.isOpen then raises attempt.close

/-- mirrors src/infrastructure/messaging/rabbitmq_blocking_publisher.py:63-67 -/
def drain (self : RabbitMqBlockingEventPublisher) :
    List Dict × RabbitMqBlockingEventPublisher := (self.messages, ⟨[]⟩)

end RabbitMqBlockingEventPublisher

/-- mirrors src/infrastructure/messaging/rabbitmq_blocking_publisher.py:59-61 -/
def rabbitMqBlockingEventPublisher (settings : RabbitMqEventPublisherSettings) :
    RecordingPublisher T Attempt RabbitMqBlockingEventPublisher where
  publish := RabbitMqBlockingEventPublisher.publish settings
  publishedMessages self := self.messages
  drain := RabbitMqBlockingEventPublisher.drain

/-- The exception of the `finally` block. -/
def Attempt.closing (attempt : Attempt) : Option PyError :=
  if attempt.isOpen then attempt.close else none

/-- What the check or the channel raises. -/
def Attempt.sending (attempt : Attempt) (event : DomainEvent T) : Option PyError :=
  match eventToMessage event with
  | .error e => some e
  | .ok _ => attempt.basicPublish

/-- A call that has recorded its message closes its connection. -/
def ClosesQuietly (event : DomainEvent T) (attempt : Attempt) : Prop :=
  event.eventType ∈ integrationEventTypes → attempt.build = none → attempt.basicPublish = none →
    attempt.isOpen = true → attempt.close = none

/-! ## What they record -/

theorem inMemory_publish (event : DomainEvent T) (s : InMemoryEventPublisher T) :
    (InMemoryEventPublisher.publish event).run s =
      if event.eventType ∈ integrationEventTypes then
        .ok () ⟨s.events ++ [event], s.messages ++ [event.toMessage]⟩
      else .error (.valueError s!"Unsupported event type: {event.eventType}")
        ⟨s.events ++ [event], s.messages⟩ := by
  unfold InMemoryEventPublisher.publish
  split
  · rename_i h
    rw [eventToMessage_ok h]
    rfl
  · rename_i h
    rw [eventToMessage_error h]
    rfl

theorem inMemory_records : RecordsMessages (inMemoryEventPublisher (T := T))
    InMemoryEventPublisher.LockStep fun event _ => event.eventType ∈ integrationEventTypes where
  good := by
    intro s e a he
    refine .inl ⟨⟨s.events ++ [e], s.messages ++ [e.toMessage]⟩, ?_, fun hs => ?_, rfl⟩
    · show (InMemoryEventPublisher.publish e).run s = _
      rw [inMemory_publish, if_pos he]
    · show s.messages ++ [e.toMessage] = (s.events ++ [e]).map DomainEvent.toMessage
      rw [List.map_append, ← hs]
      rfl
  bad := by
    intro s e a he
    refine ⟨_, ⟨s.events ++ [e], s.messages⟩, (inMemory_publish e s).trans (if_neg he), fun h => ?_⟩
    have hevents := congrArg InMemoryEventPublisher.events h
    exact List.cons_ne_nil _ _ (List.self_eq_append_right.mp hevents.symm)
  drained _ := rfl
  emptied _ := ⟨rfl, rfl⟩

theorem blocking_publish (settings : RabbitMqEventPublisherSettings) (attempt : Attempt)
    (event : DomainEvent T) (s : RabbitMqBlockingEventPublisher) :
    (RabbitMqBlockingEventPublisher.publish settings attempt event).run s =
      match attempt.build with
      | some e => .error e s
      | none => match attempt.sending event with
        | some e => .error (attempt.closing.getD e) s
        | none => match attempt.closing with
          | some e => .error e ⟨s.messages ++ [event.toMessage]⟩
          | none => .ok () ⟨s.messages ++ [event.toMessage]⟩ := by
  obtain ⟨build, basicPublish, isOpen, close⟩ := attempt
  unfold RabbitMqBlockingEventPublisher.publish RabbitMqEventPublisher.publish Attempt.sending
  cases build with
  | some e => rfl
  | none =>
    by_cases h : event.eventType ∈ integrationEventTypes
    · rw [eventToMessage_ok h]
      cases basicPublish <;> cases isOpen <;> cases close <;> rfl
    · rw [eventToMessage_error h]
      cases isOpen <;> cases close <;> rfl

theorem sending_none {attempt : Attempt} {event : DomainEvent T} :
    attempt.sending event = none ↔
      event.eventType ∈ integrationEventTypes ∧ attempt.basicPublish = none := by
  unfold Attempt.sending
  by_cases h : event.eventType ∈ integrationEventTypes
  · rw [eventToMessage_ok h]
    exact ⟨fun hb => ⟨h, hb⟩, And.right⟩
  · rw [eventToMessage_error h]
    exact iff_of_false (fun h => by cases h) fun hb => h hb.1

theorem blocking_records (settings : RabbitMqEventPublisherSettings) :
    RecordsMessages (rabbitMqBlockingEventPublisher (T := T) settings) (fun _ => True)
      ClosesQuietly where
  good := by
    intro s e a he
    show (∃ s', (RabbitMqBlockingEventPublisher.publish settings a e).run s = _ ∧ _) ∨
      ∃ err, (RabbitMqBlockingEventPublisher.publish settings a e).run s = _
    rw [blocking_publish]
    cases hbuild : a.build with
    | some err => exact .inr ⟨err, rfl⟩
    | none =>
      dsimp only
      cases hsend : a.sending e with
      | some err => exact .inr ⟨_, rfl⟩
      | none =>
        obtain ⟨htype, hchannel⟩ := sending_none.mp hsend
        have hclose : a.closing = none := by
          unfold Attempt.closing
          split
          · rename_i hopen
            exact he htype hbuild hchannel hopen
          · rfl
        dsimp only
        rw [hclose]
        exact .inl ⟨_, rfl, fun _ => trivial, rfl⟩
  bad := by
    intro s e a he
    simp only [ClosesQuietly, Classical.not_imp] at he
    obtain ⟨htype, hbuild, hchannel, hopen, hclose⟩ := he
    obtain ⟨err, herr⟩ := Option.ne_none_iff_exists'.mp hclose
    have hclosing : a.closing = some err := by rw [Attempt.closing, if_pos hopen, herr]
    refine ⟨err, ⟨s.messages ++ [e.toMessage]⟩, ?_, fun h => ?_⟩
    · show (RabbitMqBlockingEventPublisher.publish settings a e).run s = _
      rw [blocking_publish, hbuild]
      dsimp only
      rw [sending_none.mpr ⟨htype, hchannel⟩, hclosing]
    · have hmessages := congrArg RabbitMqBlockingEventPublisher.messages h
      exact List.cons_ne_nil _ _ (List.self_eq_append_right.mp hmessages.symm)
  drained _ := rfl
  emptied _ := ⟨rfl, trivial⟩

/-! ## The log of the system -/

section Log
variable {A S : Type} {event : DomainEvent T}

/-- To the system a publisher is what it raises. -/
def RecordingPublisher.raised (P : RecordingPublisher T A S) (outside : A) (s : S) :
    Publisher T := fun event =>
  match (P.publish outside event).run s with
  | .ok _ _ => none
  | .error e _ => some e

section Raised
variable {P : RecordingPublisher T A S} {outside : A} {s s' : S}

omit [Runtime T] in
theorem raised_ok (h : (P.publish outside event).run s = .ok () s') :
    P.raised outside s event = none := by
  rw [RecordingPublisher.raised, h]

omit [Runtime T] in
theorem raised_error {e : PyError} (h : (P.publish outside event).run s = .error e s') :
    P.raised outside s event = some e := by
  rw [RecordingPublisher.raised, h]

/-- The recorded messages are those of the events in the log. -/
def KeepsLog (P : RecordingPublisher T A S) (s : S) (sys : Sys T) : Prop :=
  P.publishedMessages s = sys.log.map DomainEvent.toMessage

/-- A call within the contract of a recording publisher is the call of the
system: both log the event, or both raise the same and log nothing. -/
theorem publish_log {Inv : S → Prop} {Good : DomainEvent T → A → Prop}
    (hP : RecordsMessages P Inv Good) (hgood : Good event outside) {sys : Sys T}
    (hlog : KeepsLog P s sys) :
    (∃ s' sys', (P.publish outside event).run s = .ok () s' ∧
      (publish (P.raised outside s) event).run sys = .ok () sys' ∧ KeepsLog P s' sys') ∨
    ∃ e, (P.publish outside event).run s = .error e s ∧
      (publish (P.raised outside s) event).run sys = .error e sys := by
  rcases hP.good (s := s) hgood with ⟨s', hrun, -, hmessages⟩ | ⟨e, hrun⟩
  · refine .inl ⟨s', { sys with log := sys.log ++ [event] }, hrun, ?_, ?_⟩
    · rw [publish, raised_ok hrun]
      rfl
    · show P.publishedMessages s' = (sys.log ++ [event]).map DomainEvent.toMessage
      rw [hmessages, hlog, List.map_append, List.map_singleton]
  · refine .inr ⟨e, hrun, ?_⟩
    rw [publish, raised_error hrun]
    rfl

end Raised

theorem inMemory_reliable (h : event.eventType ∈ integrationEventTypes)
    (s : InMemoryEventPublisher T) : inMemoryEventPublisher.raised () s event = reliable event :=
  raised_ok ((inMemory_publish event s).trans (if_pos h))

theorem blocking_reliable (settings : RabbitMqEventPublisherSettings)
    (h : event.eventType ∈ integrationEventTypes) (isOpen : Bool)
    (s : RabbitMqBlockingEventPublisher) :
    (rabbitMqBlockingEventPublisher settings).raised ⟨none, none, isOpen, none⟩ s event =
      reliable event := by
  have hclosing : (Attempt.mk none none isOpen none).closing = none := by
    cases isOpen <;> rfl
  have hrun : (RabbitMqBlockingEventPublisher.publish settings ⟨none, none, isOpen, none⟩
      event).run s = .ok () ⟨s.messages ++ [event.toMessage]⟩ := by
    rw [blocking_publish]
    dsimp only
    rw [sending_none.mpr ⟨h, rfl⟩, hclosing]
  exact raised_ok hrun

/-- Of the events that a service order returns the publishers refuse none, the
one over RabbitMQ when its broker does not fail. -/
theorem methodCall_reliable (settings : RabbitMqEventPublisherSettings) {c : MethodCall T}
    {o o' : ServiceOrder T} (h : c.method.run o = .ok event o') :
    (∀ s, inMemoryEventPublisher.raised () s event = reliable event) ∧
      ∀ isOpen s, (rabbitMqBlockingEventPublisher settings).raised ⟨none, none, isOpen, none⟩ s
        event = reliable event := by
  have htype := (methodCall_contract (fun _ => True) h).1
  exact ⟨inMemory_reliable htype, blocking_reliable settings htype⟩

end Log

end ServiceOrderOs.App
