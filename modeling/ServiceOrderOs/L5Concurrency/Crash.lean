import ServiceOrderOs.L4Runs.EventLog
import ServiceOrderOs.L4Runs.Redelivery
import ServiceOrderOs.L5Concurrency.Steps

/-!
# Does a crash and redelivery converge?

A handler stops after `k` of its six steps and the broker delivers the message
again, as often as it likes. What the database and the broker then hold is
compared with one uninterrupted `handle`: orders up to the times of their
entries, events up to their id and time, since each attempt generates its own.

The order is saved before the event is published. A stop between the two (`k = 4`)
leaves an order that has moved on: every redelivery is refused by the order's
own guard, and the event is never published.

* `redeliver_spent`: once the order has moved, redelivery changes nothing.
* `crash_converges_iff`: every other stop converges.
-/
namespace ServiceOrderOs.Concurrency
open Core Py Domain App Runs

variable {T : Type}

/-- An order without the times of its history. -/
def untimed (o : ServiceOrder T) : ServiceOrder Unit where
  customerId := o.customerId
  vehicleId := o.vehicleId
  description := o.description
  serviceOrderId := o.serviceOrderId
  status := o.status
  history := o.history.map fun h => ⟨h.status, h.reason, ()⟩

/-- An event without its id and time. -/
def content (e : DomainEvent T) : String × String × Dict :=
  (e.eventType, e.correlationId, e.payload)

/-- The same orders, up to the times of their entries. -/
def SameOrders (s s' : Sys T) : Prop :=
  ∀ id, (s.orders.find id).map untimed = (s'.orders.find id).map untimed

variable [Runtime T]

/-- The message delivered again and again, each attempt with its own stamps. -/
def redeliver (message : Dict) : List (Stamp T × Stamp T) → Sys T → Sys T
  | [], s => s
  | (g, g') :: gs, s => redeliver message gs
      (left ((ServiceOrderSagaEventHandler.handle .real reliable message g g').run s))

/-- A handler that stops after `k` steps in state `s`, followed by any positive
number of redeliveries, leaves the orders of one uninterrupted handling, and
every event that one publishes is in the log. -/
def Converges (message : Dict) (g g' h h' : Stamp T) (k : Nat) (s : Sys T) : Prop :=
  ∀ gs, gs ≠ [] →
    let s' := redeliver message gs (HandlerPc.turns message g g' k s).2
    let u := left ((ServiceOrderSagaEventHandler.handle .real reliable message h h').run s)
    SameOrders s' u ∧
      ∀ e ∈ u.log.drop s.log.length, ∃ e' ∈ s'.log, content e' = content e

/-! ## Attempts with other stamps -/

/-- Whether an event is accepted does not depend on the stamps, and what it
does depends on them in times and ids only. -/
theorem accepts_restamp {event : DomainEvent T} {g g' : Stamp T} {o o' : ServiceOrder T}
    {out : Option (DomainEvent T)} (ha : Accepts event g g' o o' out) (h h' : Stamp T) :
    ∃ o₂ out₂, Accepts event h h' o o₂ out₂ ∧ untimed o₂ = untimed o' ∧
      out₂.map content = out.map content := by
  cases ha with
  | noted ht => exact ⟨o, none, .noted ht, rfl, rfl⟩
  | called k arg ht harg hr hl =>
    have hr' : (k.call arg h).Ready o.status := by cases k <;> exact hr
    refine ⟨_, _, .called k arg ht harg hr' hl, ?_, ?_⟩
    · cases k <;> simp [untimed, after, ServiceOrder.moveTo, ServiceOrder.record, SagaEvent.call,
        MethodCall.target, MethodCall.reason]
    · cases k <;> rfl
  | confirmed arg ht harg hr =>
    refine ⟨_, _, .confirmed arg ht harg hr, ?_, rfl⟩
    simp [untimed, after, ServiceOrder.moveTo, ServiceOrder.record, MethodCall.target,
      MethodCall.reason]

omit [Runtime T] in
theorem sameOrders_save {s s₁ s₂ : Sys T} {o₁ o₂ : ServiceOrder T}
    (h₁ : s₁.orders = s.orders.save o₁) (h₂ : s₂.orders = s.orders.save o₂)
    (ho : untimed o₁ = untimed o₂) : SameOrders s₁ s₂ := by
  have hid : o₁.serviceOrderId = o₂.serviceOrderId := by
    show (untimed o₁).serviceOrderId = (untimed o₂).serviceOrderId
    rw [ho]
  intro id
  rw [h₁, h₂, OrderStore.save_find, OrderStore.save_find, ← hid]
  split
  · rw [Option.map_some, Option.map_some, ho]
  · rfl

/-! ## Redelivery to an order that has moved -/

theorem redeliver_spent {message : Dict} {event : DomainEvent T}
    (hr : ServiceOrderSagaEventHandler.readEvent message = .ok event)
    (gs : List (Stamp T × Stamp T)) (s : Sys T) (h : Spent event s) (hs : AllSettled s) :
    (redeliver message gs s).orders = s.orders ∧ (redeliver message gs s).log = s.log := by
  induction gs generalizing s with
  | nil => exact ⟨rfl, rfl⟩
  | cons p gs ih =>
    obtain ⟨g, g'⟩ := p
    have hone : (left ((ServiceOrderSagaEventHandler.handle .real reliable message g g').run
        s)).orders = s.orders ∧ (left ((ServiceOrderSagaEventHandler.handle .real reliable message
        g g').run s)).log = s.log := by
      by_cases hp : event.eventId ∈ s.processed
      · rw [ServiceOrderSagaEventHandler.handle_skipped hr hp]; exact ⟨rfl, rfl⟩
      · obtain ⟨ho, hl⟩ := left_handle hr hp .real reliable g g'
        rw [ho, hl, spent_inert h hs]; exact ⟨rfl, rfl⟩
    have hspent : Spent event (left ((ServiceOrderSagaEventHandler.handle .real reliable message
        g g').run s)) := by
      obtain ⟨k, k', o₁, o₁', out, o, ha, hf, hg⟩ := h
      exact ⟨k, k', o₁, o₁', out, o, ha, by rw [hone.1]; exact hf, hg⟩
    obtain ⟨h1, h2⟩ := ih _ hspent (fun id o hf => hs id o (hone.1 ▸ hf))
    exact ⟨h1.trans hone.1, h2.trans hone.2⟩

/-- An accepted event, handled without interruption. -/
theorem handle_accepted {message : Dict} {event : DomainEvent T} {s : Sys T}
    {g g' : Stamp T} {o o' : ServiceOrder T} {out : Option (DomainEvent T)}
    (hr : ServiceOrderSagaEventHandler.readEvent message = .ok event)
    (hp : event.eventId ∉ s.processed)
    (hf : s.orders.find (HandleSagaEventUseCase.serviceOrderId event) = some o)
    (ha : Accepts event g g' o o' out) :
    (left ((ServiceOrderSagaEventHandler.handle .real reliable message g g').run s)).orders =
        s.orders.save o' ∧
      (left ((ServiceOrderSagaEventHandler.handle .real reliable message g g').run s)).log =
        s.log ++ out.toList := by
  obtain ⟨ho, hl⟩ := left_handle hr hp .real reliable g g'
  rw [ho, hl, execute_real]
  simp only [OrderStore.get, hf, apply_ok_iff.mpr ha, left]
  exact ⟨trivial, trivial⟩

/-- Wherever the handler stopped, redelivery leaves the order of an
uninterrupted handling; its event is published unless the stop fell between
the save and the publication. -/
theorem redeliver_stopped {message : Dict} {event : DomainEvent T} {s : Sys T}
    {o o' : ServiceOrder T} {out : Option (DomainEvent T)} {h h' : Stamp T} (hs : AllSettled s)
    (hr : ServiceOrderSagaEventHandler.readEvent message = .ok event)
    (hp : event.eventId ∉ s.processed)
    (hf : s.orders.find (HandleSagaEventUseCase.serviceOrderId event) = some o)
    (ha : Accepts event h h' o o' out) (g g' : Stamp T) (k : Nat)
    {gs : List (Stamp T × Stamp T)} (hgs : gs ≠ []) :
    ∃ (o₂ : ServiceOrder T) (out₂ : Option (DomainEvent T)),
      untimed o₂ = untimed o' ∧ out₂.map content = out.map content ∧
      (redeliver message gs (HandlerPc.turns message g g' k s).2).orders = s.orders.save o₂ ∧
      (redeliver message gs (HandlerPc.turns message g g' k s).2).log =
        if k = 4 then s.log else s.log ++ out₂.toList := by
  obtain ⟨og, outg, hag, hog, hcg⟩ := accepts_restamp ha g g'
  rw [handler_turns hr hp hf g g' k]
  simp only [HandlerPc.done, verdict_eq_some.mpr hag]
  by_cases h4 : 4 ≤ k
  · -- the order has moved
    have hsave : ∀ s' : Sys T, s'.orders = s.orders.save og → Spent event s' ∧ AllSettled s' :=
      fun s' ho => ⟨spent_of_saved hf hag ho,
        allSettled_save hs (accepts_settled (hs _ o hf) hag) ho⟩
    simp only [if_pos h4]
    obtain ⟨hsp, hset⟩ := hsave ⟨s.orders.save og,
      if 5 ≤ k then s.log ++ outg.toList else s.log,
      if 6 ≤ k then insert event.eventId s.processed else s.processed⟩ rfl
    obtain ⟨ho, hl⟩ := redeliver_spent hr gs _ hsp hset
    refine ⟨og, outg, hog, hcg, ho, hl.trans ?_⟩
    by_cases h5 : k = 4
    · subst h5; rfl
    · simp only [if_neg h5, if_pos (show 5 ≤ k by omega)]
  · -- nothing has happened: the first redelivery does it
    simp only [if_neg h4, if_neg (show ¬ 5 ≤ k by omega), if_neg (show ¬ 6 ≤ k by omega),
      if_neg (show ¬ k = 4 by omega)]
    cases gs with
    | nil => exact absurd rfl hgs
    | cons p rest =>
      obtain ⟨a, a'⟩ := p
      obtain ⟨oa, outa, haa, hoa, hca⟩ := accepts_restamp ha a a'
      obtain ⟨ho, hl⟩ := handle_accepted hr hp hf haa
      obtain ⟨ho', hl'⟩ := redeliver_spent hr rest _ (spent_of_saved hf haa ho)
        (allSettled_save hs (accepts_settled (hs _ o hf) haa) ho)
      exact ⟨oa, outa, hoa, hca, ho'.trans ho, hl'.trans hl⟩

/-- **Which stops converge.** For every reachable state and every message that
an uninterrupted `handle` processes, a handler stopped after `k` steps
converges under redelivery if and only if it did not stop between saving the
order and publishing, or the message is a `QUOTE_CREATED`. -/
theorem crash_converges_iff (s u : Sys T) (message : Dict) (event : DomainEvent T)
    (g g' h h' : Stamp T) (k : Nat) (hs : (sagaLts T .real).Reachable s)
    (hr : ServiceOrderSagaEventHandler.readEvent message = .ok event)
    (hm : (ServiceOrderSagaEventHandler.handle .real reliable message h h').run s =
      .ok .processed u) :
    Converges message g g' h h' k s ↔ k ≠ 4 ∨ event.eventType = "QUOTE_CREATED" := by
  have hset := settled_inductive.reachable s hs
  have hlog := (logSound_inductive .real).reachable s hs
  obtain ⟨event', o, o', out, hr', hp, hf, ha, hu⟩ := processed_cases hm
  rw [hr, Except.ok.injEq] at hr'
  subst hr'
  have hsent : out.toList.filter (fun e => (reliable e : Option PyError).isNone) = out.toList :=
    List.filter_eq_self.mpr fun _ _ => rfl
  have hdrop : u.log.drop s.log.length = out.toList := by rw [hu, hsent, List.drop_left]
  have hleft : left ((ServiceOrderSagaEventHandler.handle .real reliable message h h').run s) =
      u := by rw [hm]; rfl
  constructor
  · intro hc
    by_contra hno
    rw [not_or, not_not] at hno
    obtain ⟨rfl, hq⟩ := hno
    obtain ⟨o₂, out₂, -, -, -, hl⟩ := redeliver_stopped hset hr hp hf ha g g' 4
      (List.cons_ne_nil (g, g') [])
    obtain ⟨e, rfl⟩ := Option.ne_none_iff_exists'.mp fun hn => hq ((accepts_out ha).mp hn)
    have hin := (hc [(g, g')] (by simp)).2
    rw [hleft, hdrop, hl, if_pos rfl] at hin
    obtain ⟨e', he', hce⟩ := hin e (by simp)
    simp only [content, Prod.mk.injEq] at hce
    have hn : notice e' = notice e := by simp only [notice, hce.1, hce.2.2]
    exact not_published_yet hset hlog hf ha he' hce.2.1 hn
  · intro hcond gs hgs
    obtain ⟨o₂, out₂, ho₂, hc₂, ho, hl⟩ := redeliver_stopped hset hr hp hf ha g g' k hgs
    simp only [hleft]
    refine ⟨sameOrders_save ho (by rw [hu]) ho₂, fun e he => ?_⟩
    rw [hdrop] at he
    rw [Option.mem_toList] at he
    subst he
    rcases hcond with hk | hq
    · obtain ⟨e₂, rfl, he₂⟩ := Option.map_eq_some_iff.mp hc₂
      exact ⟨e₂, by rw [hl, if_neg hk]; simp, he₂⟩
    · exact absurd ((accepts_out ha).mpr hq) (by simp)

/-- A handler that published but did not record the event. -/
theorem crash_converges_unrecorded :
    let s := exOpen.next .real Sys.empty
    (sagaLts Iso .real).Reachable s ∧
      Converges exMessage (exStamp "event-3") (exStamp "event-4") (exStamp "event-5")
        (exStamp "event-6") 5 s :=
  have hs : (sagaLts Iso .real).Reachable (exOpen.next .real Sys.empty) :=
    ⟨.empty, [exOpen], rfl, .single ⟨rfl, rfl⟩⟩
  ⟨hs, (crash_converges_iff _ _ exMessage _ (exStamp "event-3") (exStamp "event-4")
    (exStamp "event-5") (exStamp "event-6") 5 hs rfl rfl).mpr (.inl (by decide))⟩

/-! ## A stop that does not -/

def exConfirm : Dict :=
  [("event_id", .str "event-7"), ("event_type", .str "PAYMENT_CONFIRMED"),
   ("correlation_id", .str "os-1"), ("occurred_at", .str "2026-01-01T00:00:00+00:00"),
   ("payload", .obj [("payment_id", .str "payment-1")])]

/-- The process stops after the save: the redelivered confirmation is refused,
the order stays in `EXECUTION_REQUESTED` and nobody was asked to execute. -/
theorem lost_execution_request : (sagaLts Iso .real).Reachable exPending ∧
    (∃ u, (ServiceOrderSagaEventHandler.handle .real reliable exConfirm (exStamp "event-8")
        (exStamp "event-9")).run exPending = .ok .processed u ∧
      "EXECUTION_REQUESTED" ∈ u.log.map (·.eventType)) ∧
    ¬ Converges exConfirm (exStamp "event-8") (exStamp "event-9") (exStamp "event-8")
      (exStamp "event-9") 4 exPending := by
  refine ⟨exPending_reachable, ⟨_, rfl, by decide⟩, fun hc => ?_⟩
  have h := (hc [(exStamp "event-10", exStamp "event-11")] (by simp)).2
  obtain ⟨e, he, ht⟩ : ∃ e ∈ (left ((ServiceOrderSagaEventHandler.handle .real reliable exConfirm
      (exStamp "event-8") (exStamp "event-9")).run exPending)).log.drop exPending.log.length,
      e.eventType = "EXECUTION_REQUESTED" := ⟨_, List.mem_singleton_self _, rfl⟩
  obtain ⟨e', he', hce⟩ := h e he
  have hty : e'.eventType = "EXECUTION_REQUESTED" := (congrArg Prod.fst hce).trans ht
  exact absurd (hty ▸ List.mem_map_of_mem he' : "EXECUTION_REQUESTED" ∈ List.map
    DomainEvent.eventType (redeliver exConfirm [(exStamp "event-10", exStamp "event-11")]
      (HandlerPc.turns exConfirm (exStamp "event-8") (exStamp "event-9") 4 exPending).2).log)
    (by decide)

end ServiceOrderOs.Concurrency
