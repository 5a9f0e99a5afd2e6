import Mathlib.Data.Finset.Basic
import ServiceOrderOs.Core.ExactlyOnce
import ServiceOrderOs.L3App.BlockingWorker
import ServiceOrderOs.L5Concurrency.Crash

/-!
# The worker over its queue

One worker with a prefetch of one consumes the queue that the publisher binds
its own routing key to, so what the service publishes comes back to it. The API
works on the same store, and any other body may arrive.

An attempt at a delivery runs `_handle_delivery` to its end, over a publisher
and a channel that may raise, or the process stops after some of the handler's
steps; the broker then hands the delivery out again. The calls of the API run
whole here, one at a time, between two attempts. The API is another process, so
this is assumed: a call that reads before an attempt and writes after it may
undo what the attempt did (`LostUpdate`).

* `attempt_cases`: what an attempt can do, however it goes.
* `worker_refines_saga`: what the store holds is what a run of the saga makes.
* `bodies_applied_once`: of the attempts at a body at most one changes orders
  or log.
* `acked_recorded`: an acked body is recorded, and what is recorded was
  accepted.
* `worker_drains`: two attempts for each message that is not settled empty the
  queue, and any number of stops in between do not matter.
-/
namespace ServiceOrderOs.Concurrency
open Core Py Domain App Runs
open RabbitMqBlockingEventWorker (readDelivery handleDelivery handleDelivery_run
  readDelivery_encoded)

variable {T : Type} [Runtime T]

/-! ## A delivery -/

/-- What the broker is told of a delivery. -/
inductive Settlement where
  | ack
  | nack (requeue : Bool)
  deriving DecidableEq, Repr

/-- The store and the broker's side of the channel. -/
structure DeliverySession (T : Type) where
  store : Sys T
  settlements : List (Nat × Settlement)

/-- What the channel raises. -/
structure Wire where
  ack : Option PyError
  nack : Option PyError

def Wire.Works (wire : Wire) : Bool := wire.ack.isNone && wire.nack.isNone

def tell (fault : Option PyError) (told : Nat × Settlement) :
    EStateM PyError (DeliverySession T) Unit :=
  match fault with
  | some e => throw e
  | none => modify fun s => { s with settlements := s.settlements ++ [told] }

def Wire.channel (wire : Wire) : DeliveryChannel (DeliverySession T) where
  basicAck deliveryTag := tell wire.ack (deliveryTag, .ack)
  basicNack deliveryTag requeue := tell wire.nack (deliveryTag, .nack requeue)

/-- The handler of the worker; what it returns is not looked at. -/
def sagaHandler (pub : Publisher T) (g g' : Stamp T) : Handler (DeliverySession T) := fun message s =>
  match (ServiceOrderSagaEventHandler.handle .real pub message g g').run s.store with
  | .ok _ store => .ok () { s with store := store }
  | .error e store => .error e { s with store := store }

/-- What befalls an attempt. -/
inductive Work (T : Type) where
  | finishes (pub : Publisher T) (wire : Wire) (deliveryTag : Nat) (g g' : Stamp T)
  | stops (steps : Nat) (g g' : Stamp T)

def Work.settles : Work T → Bool
  | .finishes _ wire .. => wire.Works
  | .stops .. => false

/-- The bodies that have been published between two states. -/
def sentSince (s s' : Sys T) : List ByteArray := (s'.log.drop s.log.length).map encoded

def ending : List (Nat × Settlement) → Ending
  | [] => .lost
  | (_, .ack) :: _ => .acked
  | (_, .nack requeue) :: _ => if requeue then .lost else .dropped

def session : EStateM.Result PyError (DeliverySession T) Unit → DeliverySession T
  | .ok _ s => s
  | .error _ s => s

def attempt (py : Codecs) (work : Work T) (body : ByteArray) (s : Sys T) :
    Attempted (Sys T) ByteArray :=
  match work with
  | .finishes pub wire deliveryTag g g' =>
    let r := session ((handleDelivery T py (sagaHandler pub g g') wire.channel deliveryTag
      body).run ⟨s, []⟩)
    ⟨r.store, sentSince s r.store, ending r.settlements⟩
  | .stops steps g g' =>
    match readDelivery T py body with
    | .error _ => ⟨s, [], .lost⟩
    | .ok message =>
      let s' := (HandlerPc.turns message g g' steps s).2
      ⟨s', sentSince s s', .lost⟩

/-- A call of the API, not of a worker. -/
def IsApi : Call T → Prop
  | .open .. | .saga .. => True
  | .deliver .. | .lose _ => False

def worker (py : Codecs) : Consumer (Sys T) ByteArray (Work T) (Call T) where
  attempt := attempt py
  other call s := (call.next .real s, sentSince s (call.next .real s))
  allowed call s := IsApi call ∧ call.Fresh s

def workerLts (T : Type) [Runtime T] (py : Codecs) :
    Lts (Queue (Sys T) ByteArray) (QueueLabel (Work T) (Call T) ByteArray) :=
  queueLts (worker py) (· = Sys.empty)

/-! ## A queue -/

def exWorkerStamp (eventId : String) : Stamp Utc := ⟨App.exTime, eventId, App.exTime⟩

def exOpening : Call Utc :=
  .open reliable ⟨none, none⟩ ⟨"customer-1", "vehicle-1", "Brake inspection"⟩ "os-1" App.exTime
    (exWorkerStamp "event-1")

def exApproval : DomainEvent Utc :=
  ⟨"QUOTE_APPROVED", "os-1", [("quote_id", .str "quote-1")], "event-2", App.exTime⟩

def exLabels : List (QueueLabel (Work Utc) (Call Utc) ByteArray) :=
  [.arrive (encoded exApproval), .take, .other exOpening]

/-- The approval is in hand when its order is opened. -/
def exHandedOut : Queue (Sys Utc) ByteArray :=
  exLabels.foldl (Queue.next (worker codecs)) (Queue.idle .empty)

theorem exHandedOut_run : (workerLts Utc codecs).Run (Queue.idle .empty) exLabels exHandedOut :=
  .cons ⟨trivial, rfl⟩ (.cons ⟨trivial, rfl⟩ (.cons ⟨⟨trivial, rfl⟩, rfl⟩ (.nil _)))

theorem exHandedOut_reachable : (workerLts Utc codecs).Reachable exHandedOut :=
  ⟨_, exLabels, ⟨_, rfl, rfl⟩, exHandedOut_run⟩

def exFinishes (n : Nat) : Work Utc :=
  .finishes reliable ⟨none, none⟩ n (exWorkerStamp "event-3") (exWorkerStamp "event-4")

theorem exApproval_read : readDelivery Utc codecs (encoded exApproval) = .ok exApproval.toMessage :=
  readDelivery_encoded codecs_inverts (by decide)
    (strings_wellFormed [("quote_id", "quote-1")] (by decide))

/-! ## What an attempt can do -/

section Attempt
variable {py : Codecs} {body : ByteArray} {message : Dict} {s : Sys T}

/-- The body is a message whose event id is `id`. -/
def HasEventId (T : Type) [Runtime T] (py : Codecs) (body : ByteArray) (id : String) : Prop :=
  ∃ message hd, readDelivery T py body = .ok message ∧
    ServiceOrderSagaEventHandler.header T message = .ok hd ∧ hd.eventId = id

/-- The body is a message that the handler reads as `event`. -/
def Reads (py : Codecs) (body : ByteArray) (event : DomainEvent T) : Prop :=
  ∃ message, readDelivery T py body = .ok message ∧
    ServiceOrderSagaEventHandler.readEvent message = .ok event

/-- What an attempt comes to: nothing, and an ack then says that the event id
was recorded, or an accepted event that may be published and may be recorded. -/
inductive AttemptOutcome (py : Codecs) (body : ByteArray) (s : Sys T) :
    Attempted (Sys T) ByteArray → Prop
  | nothing (e : Ending) (h : e = .acked → ∃ id ∈ s.processed, HasEventId T py body id) :
      AttemptOutcome py body s ⟨s, [], e⟩
  | executed (event : DomainEvent T) (g g' : Stamp T) (o o' : ServiceOrder T)
      (out : Option (DomainEvent T)) (es : List (DomainEvent T)) (p : Finset String) (e : Ending)
      (hread : Reads py body event) (hnew : event.eventId ∉ s.processed)
      (hf : s.orders.find (HandleSagaEventUseCase.serviceOrderId event) = some o)
      (ha : Accepts event g g' o o' out) (hes : es.Sublist out.toList)
      (hp : p = s.processed ∧ e ≠ .acked ∨ p = insert event.eventId s.processed) :
      AttemptOutcome py body s ⟨⟨s.orders.save o', s.log ++ es, p⟩, es.map encoded, e⟩

theorem sentSince_append {s' : Sys T} {es : List (DomainEvent T)} (h : s'.log = s.log ++ es) :
    sentSince s s' = es.map encoded := by
  rw [sentSince, h, List.drop_left]

theorem sentSince_self (s : Sys T) : sentSince s s = [] :=
  sentSince_append (List.append_nil _).symm

theorem turns_still {g g' : Stamp T} {Q : HandlerPc T → Prop} (h : Q .check)
    (hstep : ∀ pc, Q pc → Q (pc.step message g g' s).1 ∧ (pc.step message g g' s).2 = s)
    (n : Nat) : Q (HandlerPc.turns message g g' n s).1 ∧
      (HandlerPc.turns message g g' n s).2 = s := by
  induction n with
  | zero => exact ⟨h, rfl⟩
  | succ n ih =>
    have hlast : HandlerPc.turns message g g' (n + 1) s = (HandlerPc.turns message g g' n s).1.step
        message g g' (HandlerPc.turns message g g' n s).2 :=
      Function.iterate_succ_apply' ..
    rw [hlast, ih.2]
    exact hstep _ ih.1

/-- What the first steps of a handler leave. -/
theorem turns_cases (message : Dict) (g g' : Stamp T) (n : Nat) (s : Sys T) :
    (HandlerPc.turns message g g' n s).2 = s ∨ ∃ event o o' out,
      ServiceOrderSagaEventHandler.readEvent message = .ok event ∧ event.eventId ∉ s.processed ∧
      s.orders.find (HandleSagaEventUseCase.serviceOrderId event) = some o ∧
      Accepts event g g' o o' out ∧ 4 ≤ n ∧ (HandlerPc.turns message g g' n s).2 =
        ⟨s.orders.save o', if 5 ≤ n then s.log ++ out.toList else s.log,
          if 6 ≤ n then insert event.eventId s.processed else s.processed⟩ := by
  -- a handler that finishes at its first step
  have first : ∀ r, HandlerPc.check.step message g g' s = (.finished r, s) →
      (HandlerPc.turns message g g' n s).2 = s := by
    intro r hr
    refine (turns_still (Q := fun pc => pc = .check ∨ pc = .finished r) (.inl rfl) ?_ n).2
    rintro pc (rfl | rfl)
    · rw [hr]; exact ⟨.inr rfl, rfl⟩
    · exact ⟨.inr rfl, rfl⟩
  cases hh : ServiceOrderSagaEventHandler.header T message with
  | error e => exact .inl (first (.error e) (by simp only [HandlerPc.step, hh]))
  | ok hd =>
    by_cases hp : hd.eventId ∈ s.processed
    · exact .inl (first (.ok .skipped) (by simp only [HandlerPc.step, hh, if_pos hp]))
    cases ht : ServiceOrderSagaEventHandler.toEvent (T := T) hd message with
    | error e => exact .inl (first (.error e) (by simp only [HandlerPc.step, hh, if_neg hp, ht]))
    | ok event =>
      have hr := ServiceOrderSagaEventHandler.readEvent_of hh ht
      have hid : event.eventId = hd.eventId := (ServiceOrderSagaEventHandler.toEvent_ok ht).1
      cases hf : s.orders.find (HandleSagaEventUseCase.serviceOrderId event) with
      | none =>
        obtain ⟨e, hget⟩ := OrderStore.get_error hf
        left
        refine (turns_still (Q := fun pc => pc = .check ∨ pc = .executing event .get ∨
          pc = .executing event (.raised e) ∨ pc = .finished (.error e)) (.inl rfl) ?_ n).2
        rintro pc (rfl | rfl | rfl | rfl)
        · simp only [HandlerPc.step, hh, if_neg hp, ht]; simp
        · simp only [HandlerPc.step, ExecPc.step, hget]; simp
        · simp [HandlerPc.step]
        · simp [HandlerPc.step]
      | some o =>
        have hnew : event.eventId ∉ s.processed := hid ▸ hp
        rw [handler_turns hr hnew hf]
        unfold HandlerPc.done
        cases hv : verdict event g g' o with
        | none => exact .inl rfl
        | some p =>
          obtain ⟨o', out⟩ := p
          by_cases h4 : 4 ≤ n
          · exact .inr ⟨event, o, o', out, hr, hnew, hf, verdict_eq_some.mp hv, h4,
              by simp only [if_pos h4]⟩
          · left
            simp only [if_neg h4, if_neg (show ¬ 5 ≤ n by omega), if_neg (show ¬ 6 ≤ n by omega)]

/-- What a handler that comes to its end does. -/
theorem handle_cases (pub : Publisher T) (message : Dict) (g g' : Stamp T) (s : Sys T) :
    (∃ e, (ServiceOrderSagaEventHandler.handle .real pub message g g').run s = .error e s) ∨
    (∃ hd, ServiceOrderSagaEventHandler.header T message = .ok hd ∧ hd.eventId ∈ s.processed ∧
      (ServiceOrderSagaEventHandler.handle .real pub message g g').run s = .ok .skipped s) ∨
    ∃ event o o' out, ServiceOrderSagaEventHandler.readEvent message = .ok event ∧
      event.eventId ∉ s.processed ∧
      s.orders.find (HandleSagaEventUseCase.serviceOrderId event) = some o ∧
      Accepts event g g' o o' out ∧
      ((ServiceOrderSagaEventHandler.handle .real pub message g g').run s = .ok .processed
          ⟨s.orders.save o', s.log ++ out.toList.filter fun e => (pub e).isNone,
            insert event.eventId s.processed⟩ ∨
        ∃ e, (ServiceOrderSagaEventHandler.handle .real pub message g g').run s = .error e
          ⟨s.orders.save o', s.log ++ out.toList.filter fun e => (pub e).isNone,
            s.processed⟩) := by
  cases hh : ServiceOrderSagaEventHandler.header T message with
  | error e => exact .inl ⟨e, by rw [ServiceOrderSagaEventHandler.handle_run]; simp only [hh]⟩
  | ok hd =>
    by_cases hp : hd.eventId ∈ s.processed
    · refine .inr (.inl ⟨hd, rfl, hp, ?_⟩)
      rw [ServiceOrderSagaEventHandler.handle_run]
      simp only [hh, if_pos hp]
    cases ht : ServiceOrderSagaEventHandler.toEvent (T := T) hd message with
    | error e =>
      exact .inl ⟨e, by
        rw [ServiceOrderSagaEventHandler.handle_run]; simp only [hh, if_neg hp, ht]⟩
    | ok event =>
      have hr := ServiceOrderSagaEventHandler.readEvent_of hh ht
      have hnew : event.eventId ∉ s.processed := (ServiceOrderSagaEventHandler.toEvent_ok ht).1 ▸ hp
      rw [ServiceOrderSagaEventHandler.handle_fresh hr hnew]
      rcases execute_cases .real pub event g g' s with ⟨e, hx, -⟩ | ⟨o, o', out, hf, ha, hx⟩
      · exact .inl ⟨e, by rw [hx]⟩
      · refine .inr (.inr ⟨event, o, o', out, hr, hnew, hf, ha, ?_⟩)
        have hst := left_announce pub o' out { s with orders := s.orders.save o' }
        rw [← hx] at hst
        cases hrun : (HandleSagaEventUseCase.execute .real pub event g g').run s with
        | ok a s' =>
          rw [hrun] at hst
          exact .inl (by rw [show s' = _ from hst])
        | error e s' =>
          rw [hrun] at hst
          exact .inr ⟨e, by rw [show s' = _ from hst]⟩

omit [Runtime T] in
theorem nack_session (wire : Wire) (deliveryTag : Nat) (store : Sys T) :
    ∃ told, session ((wire.channel.basicNack deliveryTag false).run ⟨store, []⟩) = ⟨store, told⟩ ∧
      ending told ≠ .acked ∧ (wire.Works = true → ending told ≠ .lost) := by
  obtain ⟨ack, nack⟩ := wire
  cases nack with
  | some e =>
    refine ⟨[], rfl, ?_, fun h => ?_⟩
    · intro h; cases h
    · cases ack <;> cases h
  | none =>
    refine ⟨[(deliveryTag, .nack false)], rfl, ?_, fun _ => ?_⟩
    all_goals intro h; cases h

/-- The handler returns. -/
def Returns (pub : Publisher T) (message : Dict) (g g' : Stamp T) (s : Sys T) : Prop :=
  ∃ r s', (ServiceOrderSagaEventHandler.handle .real pub message g g').run s = .ok r s'

/-- An attempt that comes to its end leaves what the handler leaves, and acks
only if the handler returns. -/
theorem attempt_finishes (py : Codecs) (pub : Publisher T) (wire : Wire) (deliveryTag : Nat)
    (g g' : Stamp T) (body : ByteArray) (s : Sys T) : ∃ e, (wire.Works = true → e ≠ .lost) ∧
      ((∀ message, readDelivery T py body ≠ .ok message) ∧ e ≠ .acked ∧
        attempt py (.finishes pub wire deliveryTag g g') body s = ⟨s, [], e⟩ ∨
      ∃ message, readDelivery T py body = .ok message ∧
        (e = .acked → Returns pub message g g' s) ∧
        (Returns pub message g g' s → wire.Works = true → e = .acked) ∧
        attempt py (.finishes pub wire deliveryTag g g') body s =
          ⟨(Call.deliver pub message g g').next .real s,
            sentSince s ((Call.deliver pub message g g').next .real s), e⟩) := by
  simp only [attempt, handleDelivery_run, Call.next, Returns]
  cases readDelivery T py body with
  | error err =>
    obtain ⟨told, htold, hacked, hlost⟩ := nack_session wire deliveryTag s
    refine ⟨ending told, hlost, .inl ⟨?_, hacked, ?_⟩⟩
    · intro message h; cases h
    · simp only [htold, sentSince_self]
  | ok message =>
    simp only [sagaHandler, EStateM.run]
    cases hrun : ServiceOrderSagaEventHandler.handle .real pub message g g' s with
    | error err s' =>
      obtain ⟨told, htold, hacked, hlost⟩ := nack_session wire deliveryTag s'
      simp only [EStateM.run] at htold
      refine ⟨ending told, hlost, .inr ⟨message, rfl, fun h => absurd h hacked, ?_, ?_⟩⟩
      · rintro ⟨r, s'', hreturns⟩
        rw [hrun] at hreturns
        cases hreturns
      · simp only [htold, left, hrun]
    | ok r s' =>
      cases hack : wire.ack with
      | none =>
        refine ⟨.acked, ?_, .inr ⟨message, rfl, fun _ => ⟨r, s', hrun⟩, fun _ _ => rfl, ?_⟩⟩
        · intro _ h; cases h
        · simp only [Wire.channel, tell, hack, left, hrun]
          rfl
      | some err =>
        obtain ⟨told, htold, hacked, hlost⟩ := nack_session wire deliveryTag s'
        simp only [EStateM.run] at htold
        have hfail : wire.channel.basicAck deliveryTag ⟨s', []⟩ = .error err ⟨s', []⟩ := by
          simp only [Wire.channel, tell, hack]
          rfl
        refine ⟨ending told, hlost, .inr ⟨message, rfl, fun h => absurd h hacked, ?_, ?_⟩⟩
        · intro _ hworks
          rw [Wire.Works, hack] at hworks
          cases hworks
        · simp only [hfail, htold, left, hrun]

/-- **What an attempt can do**, however it goes. -/
theorem attempt_cases (py : Codecs) (work : Work T) (body : ByteArray) (s : Sys T) :
    AttemptOutcome py body s (attempt py work body s) := by
  cases work with
  | finishes pub wire deliveryTag g g' =>
    obtain ⟨e, -, ⟨-, hacked, h⟩ | ⟨message, hread, hacked, -, h⟩⟩ :=
      attempt_finishes py pub wire deliveryTag g g' body s
    · rw [h]; exact .nothing e fun he => absurd he hacked
    · rw [h, Call.next]
      rcases handle_cases pub message g g' s with ⟨err, hx⟩ | ⟨hd, hh, hp, hx⟩ |
        ⟨event, o, o', out, hr, hnew, hf, ha, hx | ⟨err, hx⟩⟩
      · rw [Returns, hx] at hacked
        rw [hx]
        simp only [left, sentSince_self]
        exact .nothing e fun he => by obtain ⟨r, s', hrs⟩ := hacked he; cases hrs
      · rw [hx]
        simp only [left, sentSince_self]
        exact .nothing e fun _ => ⟨hd.eventId, hp, message, hd, hread, hh, rfl⟩
      · rw [hx]
        simp only [left]
        rw [sentSince_append rfl]
        exact .executed event g g' o o' out _ _ e ⟨message, hread, hr⟩ hnew hf ha
          List.filter_sublist (.inr rfl)
      · rw [Returns, hx] at hacked
        rw [hx]
        simp only [left]
        rw [sentSince_append rfl]
        exact .executed event g g' o o' out _ _ e ⟨message, hread, hr⟩ hnew hf ha
          List.filter_sublist
          (.inl ⟨rfl, fun he => by obtain ⟨r, s', hrs⟩ := hacked he; cases hrs⟩)
  | stops steps g g' =>
    unfold attempt
    cases hread : readDelivery T py body with
    | error e => exact .nothing .lost fun h => by cases h
    | ok message =>
      dsimp only
      rcases turns_cases message g g' steps s with hx | ⟨event, o, o', out, hr, hnew, hf, ha, h4, hx⟩
      · rw [hx, sentSince_self]; exact .nothing .lost fun h => by cases h
      · have hlog : (if 5 ≤ steps then s.log ++ out.toList else s.log) =
            s.log ++ if 5 ≤ steps then out.toList else [] := by
          split
          · rfl
          · exact (List.append_nil _).symm
        rw [hx, hlog, sentSince_append rfl]
        refine .executed event g g' o o' out _ _ .lost ⟨message, hread, hr⟩ hnew hf ha ?_ ?_
        · split
          · exact List.Sublist.refl _
          · exact List.nil_sublist _
        · split
          · exact .inr rfl
          · exact .inl ⟨rfl, fun h => by cases h⟩

/-! ## The store over a run of the queue -/

/-- A delivery of an accepted event, by what its publisher does. -/
theorem deliver_accepted {event : DomainEvent T} {g g' : Stamp T} {o o' : ServiceOrder T}
    {out : Option (DomainEvent T)}
    (hr : ServiceOrderSagaEventHandler.readEvent message = .ok event)
    (hnew : event.eventId ∉ s.processed)
    (hf : s.orders.find (HandleSagaEventUseCase.serviceOrderId event) = some o)
    (ha : Accepts event g g' o o' out) (pub : Publisher T) :
    ((∀ e ∈ out, pub e = none) → (Call.deliver pub message g g').next .real s =
      ⟨s.orders.save o', s.log ++ out.toList, insert event.eventId s.processed⟩) ∧
    ((∃ e ∈ out, (pub e).isSome) → (Call.deliver pub message g g').next .real s =
      ⟨s.orders.save o', s.log, s.processed⟩) := by
  simp only [Call.next]
  rw [ServiceOrderSagaEventHandler.handle_fresh hr hnew]
  rcases execute_cases .real pub event g g' s with ⟨e, -, hno⟩ | ⟨o₁, o₁', out₁, hf₁, ha₁, hx⟩
  · exact absurd ha (hno o o' out hf)
  rw [hf, Option.some.injEq] at hf₁
  subst hf₁
  obtain ⟨rfl, rfl⟩ := ha.unique ha₁
  rw [hx]
  cases out with
  | none => exact ⟨fun _ => by simp [announce, left], fun h => by simp at h⟩
  | some e =>
    cases hpub : pub e with
    | none =>
      refine ⟨fun _ => ?_, fun h => by simp [hpub] at h⟩
      simp only [announce, publish, hpub]
      rfl
    | some err =>
      refine ⟨fun h => by simp [hpub] at h, fun _ => ?_⟩
      simp only [announce, publish, hpub]
      rfl

/-- The message that a step of the saga delivers. -/
def delivered : Call T → Option Dict
  | .deliver _ message _ _ => some message
  | _ => none

def apiCall : Call T → Option (Call T)
  | call@(.open ..) | call@(.saga ..) => some call
  | .deliver .. | .lose _ => none

/-- What a run of the saga shows. -/
def sagaView (T : Type) : Observer (Call T) Dict (Call T) := ⟨delivered, apiCall⟩

def readable (T : Type) [Runtime T] (py : Codecs) (body : ByteArray) : Option Dict :=
  (readDelivery T py body).toOption

theorem observed_deliver (pub : Publisher T) (message : Dict) (g g' : Stamp T) (s : Sys T) :
    Observed (sagaLts T .real) (sagaView T) s [message] []
      ((Call.deliver pub message g g').next .real s) :=
  ⟨[.deliver pub message g g'], .single ⟨trivial, rfl⟩, rfl, rfl⟩

/-- An attempt that is not lost with nothing done is one delivery of the saga,
also one that stops: a stop after the save is a publisher that fails, one after
the publication a record that is lost. -/
theorem attempt_observed (py : Codecs) (work : Work T) (body : ByteArray) (s : Sys T) :
    ((attempt py work body s).ending = .lost ∧ (attempt py work body s).store = s) ∨
      Observed (sagaLts T .real) (sagaView T) s (readable T py body).toList []
        (attempt py work body s).store := by
  cases work with
  | finishes pub wire deliveryTag g g' =>
    obtain ⟨e, -, ⟨hno, -, h⟩ | ⟨message, hread, -, -, h⟩⟩ :=
      attempt_finishes py pub wire deliveryTag g g' body s
    · right
      have hnone : readable T py body = none := by
        unfold readable
        cases hread : readDelivery T py body with
        | error e => rfl
        | ok message => exact absurd hread (hno message)
      rw [h, hnone]
      exact .nil s
    · right
      rw [h, readable, hread]
      exact observed_deliver pub message g g' s
  | stops steps g g' =>
    unfold attempt readable
    cases readDelivery T py body with
    | error e => exact .inl ⟨rfl, rfl⟩
    | ok message =>
      rcases turns_cases message g g' steps s with hx | ⟨event, o, o', out, hr, hnew, hf, ha, h4, hx⟩
      · exact .inl ⟨rfl, hx⟩
      right
      obtain ⟨hsent, -⟩ := deliver_accepted hr hnew hf ha reliable
      have hsent := hsent fun _ _ => rfl
      dsimp only
      rw [hx]
      by_cases h6 : 6 ≤ steps
      · rw [if_pos h6, if_pos (by omega : 5 ≤ steps), ← hsent]
        exact observed_deliver reliable message g g' s
      -- published, and not recorded
      have hlost : (Call.lose event.eventId).next .real
          ((Call.deliver reliable message g g').next .real s) =
          ⟨s.orders.save o', s.log ++ out.toList, s.processed⟩ := by
        rw [hsent, Call.next, Finset.erase_insert hnew]
      have htwo : Observed (sagaLts T .real) (sagaView T) s [message] []
          ⟨s.orders.save o', s.log ++ out.toList, s.processed⟩ :=
        (observed_deliver reliable message g g' s).append
          ⟨[.lose event.eventId], .single ⟨trivial, hlost.symm⟩, rfl, rfl⟩
      rw [if_neg h6]
      by_cases h5 : 5 ≤ steps
      · rw [if_pos h5]; exact htwo
      rw [if_neg h5]
      cases out with
      | none => rw [Option.toList_none, List.append_nil] at htwo; exact htwo
      | some e =>
        let failing : Publisher T := fun _ => some (.valueError "")
        obtain ⟨-, hfailed⟩ := deliver_accepted hr hnew hf ha failing
        rw [← hfailed ⟨e, rfl, rfl⟩]
        exact observed_deliver failing message g g' s

theorem attempt_run (py : Codecs) (work : Work T) (body : ByteArray) (s : Sys T) :
    ∃ ls, (sagaLts T .real).Run s ls (attempt py work body s).store := by
  rcases attempt_observed py work body s with ⟨-, h⟩ | h
  · rw [h]; exact ⟨[], .nil s⟩
  · exact h.run

theorem reachable_store (py : Codecs) :
    StoreInvariant (worker py) (sagaLts T .real).Reachable where
  attempt work body s hs := by
    obtain ⟨ls, hr⟩ := attempt_run py work body s
    exact hs.run hr
  other call s hs hcall := hs.step ⟨hcall.2, rfl⟩

theorem store_reachable (py : Codecs) :
    (workerLts T py).Inductive fun q => (sagaLts T .real).Reachable q.store :=
  store_inductive (reachable_store py) fun s hs => ⟨s, [], hs, .nil s⟩

/-- **The worker refines the saga.** Whatever stops, raises or is delivered
again, and whatever whole calls the API makes between two attempts, the orders,
the log and the record of the processed events are those of a run of the saga. -/
theorem worker_refines_saga (py : Codecs) (q : Queue (Sys T) ByteArray)
    (h : (workerLts T py).Reachable q) : (sagaLts T .real).Reachable q.store :=
  (store_reachable py).reachable q h

theorem stopped_approval_refines : (sagaLts Utc .real).Reachable
    (exHandedOut.next (worker codecs)
      (.attempt (.stops 4 (exWorkerStamp "event-3") (exWorkerStamp "event-4")))).store :=
  worker_refines_saga codecs _ (exHandedOut_reachable.step
    (l := .attempt (.stops 4 (exWorkerStamp "event-3") (exWorkerStamp "event-4"))) ⟨trivial, rfl⟩)

end Attempt

/-! ## At most one attempt tells -/

section Once
variable {py : Codecs} {body : ByteArray} {event : DomainEvent T} {s s' : Sys T}

/-- The body is an event that its order has accepted. -/
def SpentBody (py : Codecs) (body : ByteArray) (s : Sys T) : Prop :=
  ∃ event, Reads py body event ∧ Spent event s

theorem Reads.unique {event' : DomainEvent T} (h : Reads py body event)
    (h' : Reads py body event') : event = event' := by
  obtain ⟨message, hm, he⟩ := h
  obtain ⟨message', hm', he'⟩ := h'
  rw [hm, Except.ok.injEq] at hm'
  subst hm'
  rw [he, Except.ok.injEq] at he'
  exact he'

theorem Reads.hasEventId (h : Reads py body event) : HasEventId T py body event.eventId := by
  obtain ⟨message, hm, he⟩ := h
  obtain ⟨hd, hh, -, hid⟩ := ServiceOrderSagaEventHandler.readEvent_ok he
  exact ⟨message, hd, hm, hh, hid⟩

theorem spent_run {ls : List (Call T)} (h : Spent event s) (hr : (sagaLts T .real).Run s ls s') :
    Spent event s' := by
  obtain ⟨k, k', o₁, o₁', out, o, ha, hf, hg⟩ := h
  obtain ⟨o₂, hf₂, hg₂⟩ := run_grows hr hf
  exact ⟨k, k', o₁, o₁', out, o₂, ha, hf₂, hg.trans hg₂⟩

theorem SpentBody.run {ls : List (Call T)} (h : SpentBody py body s)
    (hr : (sagaLts T .real).Run s ls s') : SpentBody py body s' := by
  obtain ⟨event, hread, hspent⟩ := h
  exact ⟨event, hread, spent_run hspent hr⟩

/-- What a spent event makes of its order is what is stored. -/
theorem spent_saved {g g' : Stamp T} {o o' : ServiceOrder T} {out : Option (DomainEvent T)}
    (hs : AllSettled s) (hspent : Spent event s)
    (hf : s.orders.find (HandleSagaEventUseCase.serviceOrderId event) = some o)
    (ha : Accepts event g g' o o' out) : s.orders.save o' = s.orders ∧ out = none := by
  obtain ⟨k, k', o₁, o₁', out₁, o₂, ha₁, hf₂, hg⟩ := hspent
  rw [hf, Option.some.injEq] at hf₂
  subst hf₂
  have hq := accepts_not_again (hs _ o hf).wellFormed ha₁ hg ha
  obtain ⟨rfl, rfl⟩ := ha.unique (.noted hq)
  exact ⟨OrderStore.save_of_find hf, rfl⟩

/-- What an attempt at a spent body changes is the record at most. -/
theorem spent_attempt (hs : AllSettled s) (h : SpentBody py body s) (work : Work T) :
    (attempt py work body s).store.orders = s.orders ∧
      (attempt py work body s).store.log = s.log ∧ (attempt py work body s).sent = [] := by
  obtain ⟨event, hread, hspent⟩ := h
  have hcases := attempt_cases py work body s
  generalize attempt py work body s = r at hcases ⊢
  cases hcases with
  | nothing e => exact ⟨rfl, rfl, rfl⟩
  | executed event' g g' o o' out es p e hread' hnew hf ha hes hp =>
    cases hread.unique hread'
    obtain ⟨hsave, rfl⟩ := spent_saved hs hspent hf ha
    cases List.sublist_nil.mp hes
    exact ⟨hsave, List.append_nil _, rfl⟩

theorem changed_spent {work : Work T} (h : (attempt py work body s).store.orders ≠ s.orders ∨
    (attempt py work body s).store.log ≠ s.log) :
    SpentBody py body (attempt py work body s).store := by
  have hcases := attempt_cases py work body s
  generalize attempt py work body s = r at h hcases ⊢
  cases hcases with
  | nothing e => rcases h with h | h <;> exact absurd rfl h
  | executed event g g' o o' out es p e hread hnew hf ha =>
    exact ⟨event, hread, spent_of_saved hf ha rfl⟩

theorem spentBody_stable (py : Codecs) :
    Stable (worker py) (sagaLts T .real).Reachable (SpentBody py) where
  inv := reachable_store py
  attempt work body body' s hs hspent := by
    obtain ⟨ls, hr⟩ := attempt_run py work body' s
    exact hspent.run hr
  other call body s hs hspent hcall :=
    hspent.run (.single (l := call) ⟨hcall.2, rfl⟩)

theorem worker_idempotent (py : Codecs) : Idempotent (worker py)
    (fun s : Sys T => (s.orders, s.log)) (sagaLts T .real).Reachable (SpentBody py) where
  stable := spentBody_stable py
  changed work body s hs hne := by
    refine changed_spent ?_
    by_contra hno
    rw [not_or, not_not, not_not] at hno
    exact hne (Prod.ext hno.1 hno.2)
  inert work body s hs hspent := by
    obtain ⟨ho, hl, -⟩ := spent_attempt (settled_inductive.reachable s hs) hspent work
    exact Prod.ext ho hl

/-- **Bodies are applied at most once.** Once an attempt at a body has changed
an order or published, no later attempt at the same body does, whatever stops,
raises, is lost or is delivered again in between, and whatever whole calls the
API makes between two attempts. -/
theorem bodies_applied_once (py : Codecs) (q q' : Queue (Sys T) ByteArray) (body : ByteArray)
    (work work' : Work T) (ls : List (QueueLabel (Work T) (Call T) ByteArray))
    (hq : (workerLts T py).Reachable q) (hbody : q.inHand = some body)
    (hchange : (q.next (worker py) (.attempt work)).store.orders ≠ q.store.orders ∨
      (q.next (worker py) (.attempt work)).store.log ≠ q.store.log)
    (hr : (workerLts T py).Run (q.next (worker py) (.attempt work)) ls q')
    (hbody' : q'.inHand = some body) :
    (q'.next (worker py) (.attempt work')).store.orders = q'.store.orders ∧
      (q'.next (worker py) (.attempt work')).store.log = q'.store.log := by
  have hne : (fun s : Sys T => (s.orders, s.log)) (q.next (worker py) (.attempt work)).store ≠
      (fun s : Sys T => (s.orders, s.log)) q.store := by
    intro heq
    obtain ⟨ho, hl⟩ := Prod.mk.inj heq
    exact hchange.elim (absurd ho) (absurd hl)
  exact Prod.mk.inj ((worker_idempotent py).at_most_once ((store_reachable py).reachable q hq) hbody
    hne hr hbody')

/-- The process stops after the save; what is delivered again does nothing. -/
theorem stopped_approval_applied_once :
    let work : Work Utc := .stops 4 (exWorkerStamp "event-3") (exWorkerStamp "event-4")
    let q' := (exHandedOut.next (worker codecs) (.attempt work)).take
    q'.inHand = some (encoded exApproval) ∧
      (q'.next (worker codecs) (.attempt (exFinishes 2))).store.log = q'.store.log := by
  intro work q'
  have hattempt : (worker codecs).attempt work (encoded exApproval) exHandedOut.store =
      ⟨(HandlerPc.turns exApproval.toMessage (exWorkerStamp "event-3") (exWorkerStamp "event-4") 4
        exHandedOut.store).2, [], .lost⟩ := by
    simp only [worker, work, attempt, exApproval_read]
    rfl
  have hnext : exHandedOut.next (worker codecs) (.attempt work) =
      exHandedOut.work (worker codecs) work (encoded exApproval) := rfl
  have hchange : (exHandedOut.next (worker codecs) (.attempt work)).store.orders ≠
      exHandedOut.store.orders := by
    rw [hnext, Queue.work_store, hattempt]
    intro h
    have hstatus := congrArg (fun orders => (orders.find "os-1").map (·.status)) h
    revert hstatus
    decide
  have hhand : q'.inHand = some (encoded exApproval) := by
    show (Queue.take (exHandedOut.work (worker codecs) work (encoded exApproval))).inHand = _
    rw [Queue.work, hattempt]
    rfl
  exact ⟨hhand, (bodies_applied_once codecs exHandedOut q' (encoded exApproval) work
    (exFinishes 2) [.take] exHandedOut_reachable rfl (.inl hchange) (.single ⟨trivial, rfl⟩)
    hhand).2⟩

end Once

/-! ## What an ack says -/

section Acked
variable {py : Codecs} {body : ByteArray} {s : Sys T}

theorem api_processed {call : Call T} (h : IsApi call) (s : Sys T) :
    (call.next .real s).processed = s.processed := by
  cases call with
  | «open» pub regs command uuid now g =>
    rcases open_cases pub regs command uuid now g s with ⟨e, hr⟩ | ⟨o, -, hr⟩
    · simp only [Call.next]; rw [hr]; rfl
    · simp only [Call.next]; rw [hr, left_announce]
  | saga pub event g g' =>
    rcases execute_cases .real pub event g g' s with ⟨e, hr, -⟩ | ⟨o, o', out, -, -, hr⟩
    · simp only [Call.next]; rw [hr]; rfl
    · simp only [Call.next]; rw [hr, left_announce]
  | deliver => cases h
  | lose => cases h

theorem attempt_processed (py : Codecs) (work : Work T) (body : ByteArray) (s : Sys T) :
    s.processed ⊆ (attempt py work body s).store.processed := by
  have hcases := attempt_cases py work body s
  generalize attempt py work body s = r at hcases ⊢
  cases hcases with
  | nothing e => exact Finset.Subset.refl _
  | executed event g g' o o' out es p e _ _ _ _ _ hp =>
    rcases hp with ⟨rfl, -⟩ | rfl
    · exact Finset.Subset.refl _
    · exact Finset.subset_insert _ _

/-- The event id of the body is recorded. -/
def RecordedBody (py : Codecs) (body : ByteArray) (s : Sys T) : Prop :=
  ∃ id ∈ s.processed, HasEventId T py body id

theorem recordedBody_attested (py : Codecs) :
    Attested (worker py) (sagaLts T .real).Reachable (RecordedBody py) where
  stable :=
    { inv := reachable_store py
      attempt := fun work body body' s _ ⟨id, hid, hbody⟩ =>
        ⟨id, attempt_processed py work body' s hid, hbody⟩
      other := fun call body s _ ⟨id, hid, hbody⟩ hcall =>
        ⟨id, (api_processed hcall.1 s).symm ▸ hid, hbody⟩ }
  acked work body s _ hacked := by
    have hcases : AttemptOutcome py body s ((worker py).attempt work body s) :=
      attempt_cases py work body s
    generalize (worker py).attempt work body s = r at hcases hacked ⊢
    cases hcases with
    | nothing e h => exact h hacked
    | executed event g g' o o' out es p e hread _ _ _ _ hp =>
      rcases hp with ⟨-, hno⟩ | rfl
      · exact absurd hacked hno
      · exact ⟨event.eventId, Finset.mem_insert_self _ _, hread.hasEventId⟩

/-- What is recorded came with one of the bodies, and its order accepted it. -/
def Accepted (py : Codecs) (s : Sys T) (bodies : List ByteArray) : Prop :=
  ∀ id ∈ s.processed, ∃ body ∈ bodies, ∃ event, Reads py body event ∧ event.eventId = id ∧
    Spent event s

theorem Accepted.run {bodies : List ByteArray} (h : Accepted py s bodies) {s' : Sys T}
    {ls : List (Call T)} (hr : (sagaLts T .real).Run s ls s')
    (hp : ∀ id ∈ s'.processed, id ∈ s.processed ∨ ∃ body ∈ bodies, ∃ event, Reads py body event ∧
      event.eventId = id ∧ Spent event s') : Accepted py s' bodies := by
  intro id hid
  rcases hp id hid with hold | hnew
  · obtain ⟨body, hbody, event, hread, hevent, hspent⟩ := h id hold
    exact ⟨body, hbody, event, hread, hevent, spent_run hspent hr⟩
  · exact hnew

theorem accepted_sourced (py : Codecs) :
    Sourced (worker py) (sagaLts T .real).Reachable (Accepted py) where
  inv := reachable_store py
  more s bodies bodies' h id hid := by
    obtain ⟨body, hbody, hrest⟩ := h id hid
    exact ⟨body, List.mem_append_left _ hbody, hrest⟩
  attempt work body s bodies _ hbody h := by
    obtain ⟨ls, hr⟩ := attempt_run py work body s
    refine h.run hr fun id hid => ?_
    have hid : id ∈ (attempt py work body s).store.processed := hid
    show _ ∨ ∃ body' ∈ bodies, ∃ event, _ ∧ _ ∧ Spent event (attempt py work body s).store
    have hcases := attempt_cases py work body s
    generalize attempt py work body s = r at hcases hid ⊢
    cases hcases with
    | nothing e => exact .inl hid
    | executed event g g' o o' out es p e hread _ hf ha _ hp =>
      rcases hp with ⟨rfl, -⟩ | rfl
      · exact .inl hid
      · rcases Finset.mem_insert.mp hid with rfl | hold
        · exact .inr ⟨body, hbody, event, hread, rfl, spent_of_saved hf ha rfl⟩
        · exact .inl hold
  other call s bodies _ hcall h :=
    h.run (.single (l := call) ⟨hcall.2, rfl⟩) fun id hid =>
      .inl ((api_processed hcall.1 s) ▸ hid)

/-- **What an ack says.** An acked body is a message whose event id is recorded,
and behind every recorded id is a body that arrived and whose event its order,
as the store has it now, has accepted. The API's calls run whole between two
attempts. -/
theorem acked_recorded (py : Codecs) (q : Queue (Sys T) ByteArray)
    (h : (workerLts T py).Reachable q) :
    (∀ body, (body, true) ∈ q.settled → RecordedBody py body q.store) ∧
      Accepted py q.store q.arrived := by
  have hacked : (workerLts T py).Inductive _ := (recordedBody_attested py).inductive
    fun s hs => ⟨s, [], hs, .nil s⟩
  have hsourced : (workerLts T py).Inductive _ := (accepted_sourced py).inductive fun s hs =>
    ⟨⟨s, [], hs, .nil s⟩, fun id hid => by
      rw [show s = Sys.empty from hs] at hid
      exact absurd hid (Finset.notMem_empty id)⟩
  exact ⟨(hacked.reachable q h).2, (hsourced.reachable q h).2.2⟩

/-- The approval is handled and acked. -/
theorem acked_approval_recorded :
    let q := exHandedOut.next (worker codecs) (.attempt (exFinishes 1))
    (encoded exApproval, true) ∈ q.settled ∧ RecordedBody codecs (encoded exApproval) q.store := by
  intro q
  have hreturn : Returns reliable exApproval.toMessage (exWorkerStamp "event-3")
      (exWorkerStamp "event-4") exHandedOut.store := by
    unfold Returns
    rw [ServiceOrderSagaEventHandler.handle_fresh (readEvent_of_toMessage utc_roundTrip exApproval)
      (by decide), execute_real]
    exact ⟨.processed, _, rfl⟩
  have hacked : ((worker codecs).attempt (exFinishes 1) (encoded exApproval)
      exHandedOut.store).ending = .acked := by
    obtain ⟨e, -, ⟨hno, -⟩ | ⟨message, hread, -, hreturns, h⟩⟩ := attempt_finishes codecs reliable
      ⟨none, none⟩ 1 (exWorkerStamp "event-3") (exWorkerStamp "event-4") (encoded exApproval)
      exHandedOut.store
    · exact absurd exApproval_read (hno _)
    · rw [exApproval_read, Except.ok.injEq] at hread
      subst hread
      rw [show (worker codecs).attempt (exFinishes 1) (encoded exApproval) exHandedOut.store = _
        from h]
      exact hreturns hreturn rfl
  have hsettled : (encoded exApproval, true) ∈ q.settled := by
    have hq : q = exHandedOut.work (worker codecs) (exFinishes 1) (encoded exApproval) := rfl
    rw [hq, Queue.work, hacked]
    exact List.mem_append_right _ (List.mem_singleton_self _)
  exact ⟨hsettled, (acked_recorded codecs q (exHandedOut_reachable.step
    (l := .attempt (exFinishes 1)) ⟨trivial, rfl⟩)).1 _ hsettled⟩

end Acked

/-! ## Emptying the queue -/

section Drain
variable {py : Codecs} {body : ByteArray} {s : Sys T}

/-- Every event in the log is within the contract of the messages. -/
def LogContract (isRepr : String → Prop) (s : Sys T) : Prop :=
  ∀ e ∈ s.log, e.eventType ∈ integrationEventTypes ∧ (Json.obj e.payload).WellFormed isRepr

omit [Runtime T] in
theorem returned_contract (isRepr : String → Prop) (c : MethodCall T) (o : ServiceOrder T) :
    (returned c o).eventType ∈ integrationEventTypes ∧
      (Json.obj (returned c o).payload).WellFormed isRepr := by
  obtain ⟨fields, hextra, hkeys⟩ := extra_texts c o
  refine ⟨eventType_integration c, ?_⟩
  rw [returned, ServiceOrder.newEvent, hextra]
  exact strings_wellFormed (("service_order_id", o.serviceOrderId) :: fields) hkeys

theorem accepts_returned {event e : DomainEvent T} {g g' : Stamp T} {o o' : ServiceOrder T}
    (ha : Accepts event g g' o o' (some e)) : ∃ c, e = returned c o := by
  cases ha with
  | called k arg => exact ⟨_, rfl⟩
  | confirmed arg => exact ⟨_, rfl⟩

theorem logContract_inductive (isRepr : String → Prop) (mode : RuntimeMode) :
    (sagaLts T mode).Inductive (LogContract isRepr) where
  init := by
    rintro s rfl e he
    cases he
  step := by
    rintro s l _ h ⟨hl, rfl⟩
    intro e he
    cases next_change mode s l hl with
    | stay _ hlog => rw [hlog] at he; exact h e he
    | opened o g _ _ _ _ hlog =>
      rw [hlog] at he
      rcases List.mem_append.mp he with he | he
      · exact h e he
      · have he := List.mem_singleton.mp (List.mem_of_mem_filter he)
        rw [he]
        exact returned_contract isRepr _ o
    | moved event g g' o o' out _ _ ha _ hlog =>
      rw [hlog] at he
      rcases List.mem_append.mp he with he | he
      · exact h e he
      · have he := Option.mem_toList.mp (List.mem_of_mem_filter he)
        subst he
        obtain ⟨c, rfl⟩ := accepts_returned ha
        exact returned_contract isRepr c o

/-- An event of the log that comes back makes the worker publish nothing. -/
theorem own_silent (hpy : py.Inverts) (hs : (sagaLts T .real).Reachable s) {e : DomainEvent T}
    (he : e ∈ s.log) (work : Work T) : (attempt py work (encoded e) s).sent = [] := by
  obtain ⟨htype, hpayload⟩ := (logContract_inductive py.isRepr .real).reachable s hs e he
  have hcases := attempt_cases py work (encoded e) s
  generalize attempt py work (encoded e) s = r at hcases ⊢
  cases hcases with
  | nothing e => rfl
  | executed event g g' o o' out es p ending hread _ hf ha =>
    obtain ⟨message, hmessage, hevent⟩ := hread
    rw [readDelivery_encoded hpy htype hpayload, Except.ok.injEq] at hmessage
    subst hmessage
    obtain ⟨ht, hid, hpay⟩ := ServiceOrderSagaEventHandler.readEvent_toMessage hevent
    exact absurd ha (own_not_accepted (settled_inductive.reachable s hs)
      ((logSound_inductive .real).reachable s hs) he ht hid hpay hf)

/-- A body that has told what it has to tell, or is an event of the log. -/
def Quiet (py : Codecs) (body : ByteArray) (s : Sys T) : Prop :=
  SpentBody py body s ∨ ∃ e ∈ s.log, encoded e = body

theorem quiet_silent (hpy : py.Inverts) (hs : (sagaLts T .real).Reachable s)
    (h : Quiet py body s) (work : Work T) : (attempt py work body s).sent = [] := by
  rcases h with hspent | ⟨e, he, rfl⟩
  · exact (spent_attempt (settled_inductive.reachable s hs) hspent work).2.2
  · exact own_silent hpy hs he work

/-- What is published is in the log. -/
theorem attempt_log (py : Codecs) (work : Work T) (body : ByteArray) (s : Sys T) :
    ∃ es, (attempt py work body s).store.log = s.log ++ es ∧
      (attempt py work body s).sent = es.map encoded ∧ es.length ≤ 1 ∧
      (es ≠ [] → SpentBody py body (attempt py work body s).store) := by
  have hcases := attempt_cases py work body s
  generalize attempt py work body s = r at hcases ⊢
  cases hcases with
  | nothing e => exact ⟨[], (List.append_nil _).symm, rfl, Nat.zero_le _, fun h => absurd rfl h⟩
  | executed event g g' o o' out es p e hread _ hf ha hes =>
    refine ⟨es, rfl, rfl, hes.length_le.trans ?_, fun _ => ⟨event, hread, spent_of_saved hf ha rfl⟩⟩
    cases out <;> simp

theorem Quiet.attempt (h : Quiet py body s) (work : Work T) (body' : ByteArray) :
    Quiet py body (attempt py work body' s).store := by
  rcases h with hspent | ⟨e, he, hbody⟩
  · obtain ⟨ls, hr⟩ := attempt_run py work body' s
    exact .inl (hspent.run hr)
  · obtain ⟨es, hlog, -⟩ := attempt_log py work body' s
    exact .inr ⟨e, by rw [hlog]; exact List.mem_append_left _ he, hbody⟩

open Classical in
/-- The attempts a body may need that are settled: its own, and that of what it
makes the worker publish. -/
noncomputable def price (py : Codecs) (body : ByteArray) (s : Sys T) : Nat :=
  if Quiet py body s then 1 else 2

theorem price_quiet (h : Quiet py body s) : price py body s = 1 := if_pos h

theorem price_bounds (py : Codecs) (body : ByteArray) (s : Sys T) :
    0 < price py body s ∧ price py body s ≤ 2 := by
  unfold price
  split <;> decide

theorem price_attempt (py : Codecs) (work : Work T) (body body' : ByteArray) (s : Sys T) :
    price py body' (attempt py work body s).store ≤ price py body' s := by
  by_cases h : Quiet py body' s
  · rw [price_quiet h, price_quiet (h.attempt work body)]
  · rw [show price py body' s = 2 from if_neg h]
    exact (price_bounds py body' _).2

/-- What an attempt sends is in the log, so it is quiet. -/
theorem sent_price (py : Codecs) (work : Work T) (body : ByteArray) (s : Sys T) :
    total (price py · (attempt py work body s).store) (attempt py work body s).sent =
      (attempt py work body s).sent.length := by
  obtain ⟨es, hlog, hsent, -⟩ := attempt_log py work body s
  rw [total_const (n := 1), Nat.mul_one]
  intro m hm
  rw [hsent] at hm
  obtain ⟨e, he, rfl⟩ := List.mem_map.mp hm
  exact price_quiet (.inr ⟨e, by rw [hlog]; exact List.mem_append_right _ he, rfl⟩)

theorem worker_priced (hpy : py.Inverts) : Priced (worker py) (sagaLts T .real).Reachable
    (price py) Work.settles where
  inv := (reachable_store py).attempt
  pos body s := (price_bounds py body s).1
  kept work body body' s _ := price_attempt py work body body' s
  settled work body s hs _ := by
    show total (price py · (attempt py work body s).store) (attempt py work body s).sent <
      price py body s
    rw [sent_price]
    by_cases hq : Quiet py body s
    · rw [quiet_silent hpy hs hq work, price_quiet hq]
      exact Nat.one_pos
    · obtain ⟨es, -, hsent, hlen, -⟩ := attempt_log py work body s
      rw [hsent, List.length_map, show price py body s = 2 from if_neg hq]
      omega
  lost work body s hs _ := by
    show price py body (attempt py work body s).store +
      total (price py · (attempt py work body s).store) (attempt py work body s).sent ≤
      price py body s
    rw [sent_price]
    have hkept := price_attempt py work body body s
    by_cases hq : Quiet py body s
    · rw [quiet_silent hpy hs hq work]
      exact hkept
    · obtain ⟨es, -, hsent, hlen, hspent⟩ := attempt_log py work body s
      rw [hsent, List.length_map]
      cases es with
      | nil => exact hkept
      | cons e es =>
        rw [price_quiet (.inl (hspent (List.cons_ne_nil e es))), show price py body s = 2 from
          if_neg hq]
        omega
  good work body s hgood _ := by
    cases work with
    | stops => cases hgood
    | finishes pub wire deliveryTag g g' =>
      show (attempt py (.finishes pub wire deliveryTag g g') body s).ending ≠ .lost
      obtain ⟨e, hworks, ⟨-, -, h⟩ | ⟨message, -, -, -, h⟩⟩ :=
        attempt_finishes py pub wire deliveryTag g g' body s
      · rw [h]; exact hworks hgood
      · rw [h]; exact hworks hgood

/-- **The worker empties its queue.** Once nothing else arrives, two attempts
for each body that is not settled leave nothing to do, and settled is what
arrived, in its order. Attempts that stop or lose their channel may come in
between, as many as there are. That `json.loads` reads what `json.dumps` wrote
is assumed: the service has to read its own messages. -/
theorem worker_drains (hpy : py.Inverts) (q : Queue (Sys T) ByteArray)
    (h : (workerLts T py).Reachable q) (works : List (Work T))
    (henough : 2 * q.pending.length ≤ works.countP Work.settles) :
    (q.rounds (worker py) works).pending = [] ∧
      (q.rounds (worker py) works).settled.map Prod.fst =
        (q.rounds (worker py) works).arrived := by
  have hstore := (store_reachable py).reachable q h
  have hdebt : ∀ bodies : List ByteArray,
      total (price py · q.store) bodies ≤ 2 * bodies.length := by
    intro bodies
    induction bodies with
    | nil => exact Nat.le_refl 0
    | cons body bodies ih =>
      have hbody := (price_bounds py body q.store).2
      simp only [total, List.length_cons]
      omega
  have hempty := (worker_priced hpy).rounds_drain works hstore ((hdebt q.pending).trans henough)
  obtain ⟨ls, hr⟩ : ∃ ls, (workerLts T py).Run q ls (q.rounds (worker py) works) :=
    rounds_run q works
  have horder := inOrder_inductive.reachable _ (h.run hr)
  unfold Queue.InOrder at horder
  rw [hempty, List.append_nil] at horder
  exact ⟨hempty, horder⟩

theorem opened_queue_drains : (exHandedOut.rounds (worker codecs)
    [.stops 4 (exWorkerStamp "event-3") (exWorkerStamp "event-4"), exFinishes 1, exFinishes 2,
      exFinishes 3, exFinishes 4]).pending = [] :=
  (worker_drains codecs_inverts exHandedOut exHandedOut_reachable _ (by decide)).1

end Drain

end ServiceOrderOs.Concurrency
