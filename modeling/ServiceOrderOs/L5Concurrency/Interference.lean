import ServiceOrderOs.Core.Unwinding
import ServiceOrderOs.L5Concurrency.Crash

/-!
# Orders do not interfere

Messages of many orders reach the handler in one sequence and share one store,
one set of processed event ids and one log. What becomes of an order, and what
is published about it, is what its own messages make of it.

A message that cannot be read resolves to no order. A readable one acts on the
order it resolves to and on nothing else but the processed ids, which is why
messages of different orders must have different event ids.

* `deliver_cases`: what one message does.
* `accepts_untimed`: acceptance looks at an order without its times.
* `view_own`, `view_other`: a message of the order and one that is not.
* `orders_do_not_interfere`: the two runs, by `Unwinding.purge`.
-/
namespace ServiceOrderOs.Concurrency
open Core Py Domain App Runs

variable {T : Type} [Runtime T]

/-- One message with the stamps its handling generates. -/
structure Delivery (T : Type) where
  message : Dict
  g : Stamp T
  g' : Stamp T

def Delivery.next (mode : RuntimeMode) (s : Sys T) (d : Delivery T) : Sys T :=
  (Call.deliver reliable d.message d.g d.g').next mode s

def deliverAll (mode : RuntimeMode) (s : Sys T) (ds : List (Delivery T)) : Sys T :=
  ds.foldl (Delivery.next mode) s

/-- The order a message resolves to. -/
def resolvesTo (T : Type) [Runtime T] (message : Dict) : Option String :=
  match ServiceOrderSagaEventHandler.readEvent (T := T) message with
  | .ok event => some (HandleSagaEventUseCase.serviceOrderId event)
  | .error _ => none

/-- Messages that resolve to different orders have different event ids. -/
def DistinctIds (T : Type) [Runtime T] (ms : List Dict) : Prop :=
  ∀ m ∈ ms, ∀ m' ∈ ms, ∀ e e' : DomainEvent T,
    ServiceOrderSagaEventHandler.readEvent m = .ok e →
    ServiceOrderSagaEventHandler.readEvent m' = .ok e' →
    HandleSagaEventUseCase.serviceOrderId e ≠ HandleSagaEventUseCase.serviceOrderId e' →
    e.eventId ≠ e'.eventId

/-- The record of an order and the events about it, up to times and generated
ids. -/
structure SameFor (id : String) (s t : Sys T) : Prop where
  order : (s.orders.find id).map untimed = (t.orders.find id).map untimed
  log : (s.log.filter fun e => e.correlationId = id).map content =
    (t.log.filter fun e => e.correlationId = id).map content

/-! ## One message -/

theorem readEvent_resolves {m : Dict} {event : DomainEvent T}
    (h : ServiceOrderSagaEventHandler.readEvent m = .ok event) :
    resolvesTo T m = some (HandleSagaEventUseCase.serviceOrderId event) := by
  simp only [resolvesTo, h]

omit [Runtime T] in
theorem announce_reliable (o : ServiceOrder T) (out : Option (DomainEvent T)) (s : Sys T) :
    (announce reliable o out).run s = .ok o { s with log := s.log ++ out.toList } := by
  cases out with
  | none => simp only [announce, Option.toList_none, List.append_nil]; rfl
  | some e => rfl

/-- A message does nothing, or it is new and its order takes it: then the order
and the record of the event id are stored and the event that follows is
published. -/
theorem deliver_cases (mode : RuntimeMode) (d : Delivery T) (s : Sys T) :
    (d.next mode s = s ∧ ∀ event o h h' o' out,
      ServiceOrderSagaEventHandler.readEvent d.message = .ok event →
      event.eventId ∉ s.processed →
      s.orders.find (HandleSagaEventUseCase.serviceOrderId event) = some o →
      ¬ Accepts event h h' o o' out) ∨
    ∃ event o o' out, ServiceOrderSagaEventHandler.readEvent d.message = .ok event ∧
      event.eventId ∉ s.processed ∧
      s.orders.find (HandleSagaEventUseCase.serviceOrderId event) = some o ∧
      Accepts event d.g d.g' o o' out ∧
      d.next mode s =
        ⟨s.orders.save o', s.log ++ out.toList, insert event.eventId s.processed⟩ := by
  simp only [Delivery.next, Call.next]
  cases hr : ServiceOrderSagaEventHandler.readEvent (T := T) d.message with
  | error e =>
    left
    refine ⟨?_, fun event _ _ _ _ _ h => by cases h⟩
    rcases ServiceOrderSagaEventHandler.handle_unread hr mode reliable d.g d.g' s with h | ⟨_, h⟩
    all_goals rw [h]; rfl
  | ok event =>
    by_cases hp : event.eventId ∈ s.processed
    · left
      rw [ServiceOrderSagaEventHandler.handle_skipped hr hp]
      refine ⟨rfl, fun event' _ _ _ _ _ h hp' => ?_⟩
      cases h; exact absurd hp hp'
    · rw [ServiceOrderSagaEventHandler.handle_fresh hr hp]
      rcases execute_cases mode reliable event d.g d.g' s with
        ⟨e, hx, hno⟩ | ⟨o, o', out, hf, ha, hx⟩
      · left
        rw [hx]
        refine ⟨rfl, fun event' o h h' o' out he _ hf ha => ?_⟩
        cases he
        obtain ⟨o₂, out₂, ha₂, -, -⟩ := accepts_restamp ha d.g d.g'
        exact hno o o₂ out₂ hf ha₂
      · right
        rw [hx, announce_reliable]
        exact ⟨event, o, o', out, rfl, hp, hf, ha, rfl⟩

/-! ## What an order looks like to itself -/

omit [Runtime T] in
theorem untimed_after {o₁ o₂ : ServiceOrder T} (h : untimed o₁ = untimed o₂) {c c' : MethodCall T}
    (ht : c.target = c'.target) (hr : c.reason = c'.reason) :
    untimed (after c o₁) = untimed (after c' o₂) := by
  simp only [untimed, ServiceOrder.mk.injEq] at h
  simp only [untimed, after, ServiceOrder.moveTo, ServiceOrder.record, List.map_append,
    List.map_cons, List.map_nil, ServiceOrder.mk.injEq, ht, hr]
  exact ⟨h.1, h.2.1, h.2.2.1, h.2.2.2.1, trivial, by rw [h.2.2.2.2.2]⟩

omit [Runtime T] in
theorem untimed_status {o₁ o₂ : ServiceOrder T} (h : untimed o₁ = untimed o₂) :
    o₁.status = o₂.status := congrArg (fun o : ServiceOrder Unit => o.status) h

omit [Runtime T] in
theorem untimed_id {o₁ o₂ : ServiceOrder T} (h : untimed o₁ = untimed o₂) :
    o₁.serviceOrderId = o₂.serviceOrderId :=
  congrArg (fun o : ServiceOrder Unit => o.serviceOrderId) h

/-- Orders that differ in times are taken, moved and announced alike. -/
theorem accepts_untimed {event : DomainEvent T} {g g' : Stamp T} {o₁ o₂ o₁' : ServiceOrder T}
    {out : Option (DomainEvent T)} (ho : untimed o₁ = untimed o₂)
    (ha : Accepts event g g' o₁ o₁' out) (h h' : Stamp T) :
    ∃ o₂' out₂, Accepts event h h' o₂ o₂' out₂ ∧ untimed o₁' = untimed o₂' ∧
      out.map content = out₂.map content := by
  have hst := untimed_status ho
  have hid := untimed_id ho
  cases ha with
  | noted ht => exact ⟨o₂, none, .noted ht, ho, rfl⟩
  | called k arg ht harg hr hl =>
    have hr' : (k.call arg h).Ready o₂.status := by rw [← hst]; cases k <;> exact hr
    refine ⟨_, _, .called k arg ht harg hr' (hst ▸ hl), untimed_after ho ?_ ?_, ?_⟩
    · cases k <;> rfl
    · cases k <;> rfl
    · cases k <;> simp [content, returned, ServiceOrder.newEvent, hid, SagaEvent.call,
        MethodCall.eventType, MethodCall.extra]
  | confirmed arg ht harg hr =>
    have h1 : untimed (after (.markPaymentConfirmed (arg.toStr T) g) o₁) =
        untimed (after (.markPaymentConfirmed (arg.toStr T) h) o₂) := untimed_after ho rfl rfl
    have h2 : untimed (after (.requestExecution g') (after _ o₁)) =
        untimed (after (.requestExecution h') (after _ o₂)) := untimed_after h1 rfl rfl
    refine ⟨_, _, .confirmed arg ht harg (hst ▸ hr), h2, ?_⟩
    simp [content, returned, ServiceOrder.newEvent, hid, MethodCall.eventType, MethodCall.extra]

/-! ## The view of one order -/

/-- Alike for the order `id`, whose messages are among `ms`: its record, the
events about it, and which of its messages are processed. -/
structure View (ms : List Dict) (id : String) (s t : Sys T) : Prop where
  same : SameFor id s t
  processed : ∀ m ∈ ms, ∀ event : DomainEvent T,
    ServiceOrderSagaEventHandler.readEvent m = .ok event →
    HandleSagaEventUseCase.serviceOrderId event = id →
    (event.eventId ∈ s.processed ↔ event.eventId ∈ t.processed)

theorem View.symm {ms : List Dict} {id : String} {s t : Sys T} (h : View ms id s t) :
    View ms id t s :=
  ⟨⟨h.same.order.symm, h.same.log.symm⟩, fun m hm event hr hid =>
    (h.processed m hm event hr hid).symm⟩

/-- If the message is processed in `s`, it is processed in `t`, with the same
effect on the order. -/
theorem view_processed (mode : RuntimeMode) {ms : List Dict} {id : String} {s t : Sys T}
    {d : Delivery T} (d' : Delivery T) (hv : View ms id s t) (hm : d.message ∈ ms)
    (hd : d.message = d'.message)
    {event : DomainEvent T} {o o' : ServiceOrder T} {out : Option (DomainEvent T)}
    (hr : ServiceOrderSagaEventHandler.readEvent d.message = .ok event)
    (hid : HandleSagaEventUseCase.serviceOrderId event = id) (hp : event.eventId ∉ s.processed)
    (hf : s.orders.find id = some o) (ha : Accepts event d.g d.g' o o' out) :
    ∃ (o₂' : ServiceOrder T) (out₂ : Option (DomainEvent T)), untimed o' = untimed o₂' ∧
      o₂'.serviceOrderId = id ∧ out.map content = out₂.map content ∧ d'.next mode t =
        ⟨t.orders.save o₂', t.log ++ out₂.toList, insert event.eventId t.processed⟩ := by
  have hp' : event.eventId ∉ t.processed := fun h => hp ((hv.processed _ hm event hr hid).mpr h)
  have hsame := hv.same.order
  rw [hf, Option.map_some, eq_comm, Option.map_eq_some_iff] at hsame
  obtain ⟨o₂, hf₂, ho⟩ := hsame
  obtain ⟨o₂', out₂, ha₂, ho', hc⟩ := accepts_untimed ho.symm ha d'.g d'.g'
  subst hid
  rw [hd] at hr
  rcases deliver_cases mode d' t with ⟨-, hno⟩ | ⟨event', o₃, o₃', out₃, hr', -, hf₃, ha₃, he⟩
  · exact absurd ha₂ (hno event o₂ d'.g d'.g' o₂' out₂ hr hp' hf₂)
  · rw [hr, Except.ok.injEq] at hr'
    subst hr'
    rw [hf₂, Option.some.injEq] at hf₃
    subst hf₃
    obtain ⟨rfl, rfl⟩ := ha₂.unique ha₃
    exact ⟨o₂', out₂, ho', ha₂.filed hf₂, hc, he⟩

omit [Runtime T] in
theorem content_filter {out₁ out₂ : Option (DomainEvent T)} (id : String)
    (h : out₁.map content = out₂.map content) :
    (out₁.toList.filter fun e => e.correlationId = id).map content =
      (out₂.toList.filter fun e => e.correlationId = id).map content := by
  cases out₁ with
  | none => rw [eq_comm, Option.map_none, Option.map_eq_none_iff] at h; rw [h]
  | some e =>
    rw [Option.map_some, eq_comm, Option.map_eq_some_iff] at h
    obtain ⟨e', rfl, he⟩ := h
    have hcor : e'.correlationId = e.correlationId :=
      congrArg (fun c : String × String × Dict => c.2.1) he
    simp only [Option.toList_some, List.filter_cons, List.filter_nil, hcor]
    split
    · rw [List.map_singleton, List.map_singleton, he]
    · rfl

/-- A message of the order itself, with whatever stamps. -/
theorem view_own {mode : RuntimeMode} {ms : List Dict} {id : String} {s t : Sys T}
    {d d' : Delivery T} (hv : View ms id s t) (hm : d.message ∈ ms)
    (hd : d.message = d'.message) (hid : resolvesTo T d.message = some id) :
    View ms id (d.next mode s) (d'.next mode t) := by
  have target : ∀ {event : DomainEvent T},
      ServiceOrderSagaEventHandler.readEvent d.message = .ok event →
      HandleSagaEventUseCase.serviceOrderId event = id := fun hr =>
    Option.some.inj ((readEvent_resolves hr).symm.trans hid)
  rcases deliver_cases mode d s with ⟨he, -⟩ | ⟨event, o, o', out, hr, hp, hf, ha, he⟩
  · rcases deliver_cases mode d' t with ⟨he', -⟩ | ⟨event, o, o', out, hr, hp, hf, ha, -⟩
    · rw [he, he']; exact hv
    · -- processed in `t`, so in `s` as well, where nothing was processed
      have hr' := hd ▸ hr
      rw [target hr'] at hf
      obtain ⟨_, _, -, -, -, he'⟩ := view_processed mode d hv.symm (hd ▸ hm)
        hd.symm hr (target hr') hp hf ha
      have hin : event.eventId ∈ s.processed := by
        rw [← he, he']; exact Finset.mem_insert_self _ _
      exact absurd ((hv.processed _ hm event hr' (target hr')).mp hin) hp
  · rw [target hr] at hf
    obtain ⟨o₂', out₂, ho, hid₂, hc, he₂⟩ :=
      view_processed mode d' hv hm hd hr (target hr) hp hf ha
    have hid₁ : o'.serviceOrderId = id := ha.filed hf
    rw [he, he₂]
    refine ⟨⟨?_, ?_⟩, fun m hm' event' hr' hid' => ?_⟩
    · rw [OrderStore.save_find, OrderStore.save_find, if_pos hid₁.symm, if_pos hid₂.symm,
        Option.map_some, Option.map_some, ho]
    · rw [List.filter_append, List.filter_append, List.map_append, List.map_append, hv.same.log,
        content_filter id hc]
    · simp only [Finset.mem_insert, hv.processed m hm' event' hr' hid']

/-- A message of another order, or of none. -/
theorem view_other {mode : RuntimeMode} {ms : List Dict} {id : String} {s t : Sys T}
    {d : Delivery T} (hv : View ms id s t) (hm : d.message ∈ ms) (hids : DistinctIds T ms)
    (hid : resolvesTo T d.message ≠ some id) : View ms id (d.next mode s) t := by
  rcases deliver_cases mode d s with ⟨he, -⟩ | ⟨event, o, o', out, hr, -, hf, ha, he⟩
  · rw [he]; exact hv
  · have hne : HandleSagaEventUseCase.serviceOrderId event ≠ id := fun e =>
      hid (e ▸ readEvent_resolves hr)
    have hfiled := ha.filed hf
    rw [he]
    refine ⟨⟨?_, ?_⟩, fun m hm' event' hr' hid' => ?_⟩
    · rw [OrderStore.save_find_of_ne _ _ (by rw [hfiled]; exact hne.symm)]
      exact hv.same.order
    · have hnil : out.toList.filter (fun e => decide (e.correlationId = id)) = [] := by
        obtain ⟨-, -, -, hab⟩ := accepts_recorded ha
        refine List.filter_eq_nil_iff.mpr fun e he => ?_
        rw [(hab e he).1, ← ha.id_eq, hfiled]
        simpa using hne
      rw [List.filter_append, hnil, List.append_nil]
      exact hv.same.log
    · have hfresh := hids _ hm' _ hm event' event hr' hr (by rw [hid']; exact hne.symm)
      simp only [Finset.mem_insert, hfresh, false_or]
      exact hv.processed m hm' event' hr' hid'

/-! ## Two runs -/

/-- The state before any message. -/
def untouched (orders : OrderStore T) : Sys T := ⟨orders, [], ∅⟩

omit [Runtime T] in
theorem SameFor.trans {id : String} {s t u : Sys T} (h : SameFor id s t) (h' : SameFor id t u) :
    SameFor id s u := ⟨h.order.trans h'.order, h.log.trans h'.log⟩

omit [Runtime T] in
theorem SameFor.symm {id : String} {s t : Sys T} (h : SameFor id s t) : SameFor id t s :=
  ⟨h.order.symm, h.log.symm⟩

theorem same_for_filtered (mode : RuntimeMode) (orders : OrderStore T) (ds ds' : List (Delivery T))
    (hids : DistinctIds T (ds.map (·.message))) (id : String)
    (hsub : ds'.map (·.message) =
      (ds.map (·.message)).filter fun m => resolvesTo T m = some id) :
    SameFor id (deliverAll mode (untouched orders) ds)
      (deliverAll mode (untouched orders) ds') := by
  have hrel : List.Forall₂ (fun d d' : Delivery T => d.message = d'.message)
      (ds.filter fun d => resolvesTo T d.message = some id) ds' := by
    have hmap : (ds.filter fun d => resolvesTo T d.message = some id).map (·.message) =
        ds'.map (·.message) := by rw [hsub, List.filter_map]; rfl
    exact List.forall₂_map_left_iff.mp (List.forall₂_map_right_iff.mp
      (hmap ▸ List.forall₂_same.mpr fun _ _ => rfl))
  have hv := Unwinding.purge (Delivery.next mode)
    (fun d : Delivery T => resolvesTo T d.message) id (View (ds.map (·.message)) id)
    (fun d hd ho s t d' hs hv => view_own hv (List.mem_map_of_mem hd) hs ho)
    (fun d hd ho s t hv => view_other hv (List.mem_map_of_mem hd) hids ho) hrel
    (s := untouched orders) (t := untouched orders)
    ⟨⟨rfl, rfl⟩, fun _ _ _ _ _ => Iff.rfl⟩
  exact hv.same

/-- The messages of the order `id`, in their order. -/
def messagesOf (T : Type) [Runtime T] (id : String) (ms : List Dict) : List Dict :=
  ms.filter fun m => resolvesTo T m = some id

/-- A readable message is one of its order's messages. -/
theorem mem_of_messagesOf {ms ms' : List Dict}
    (h : ∀ id, messagesOf T id ms = messagesOf T id ms') {m : Dict} (hm : m ∈ ms')
    {event : DomainEvent T} (hr : ServiceOrderSagaEventHandler.readEvent m = .ok event) :
    m ∈ ms := by
  have hin : m ∈ messagesOf T (HandleSagaEventUseCase.serviceOrderId event) ms' :=
    List.mem_filter.mpr ⟨hm, by simpa using readEvent_resolves hr⟩
  rw [← h] at hin
  exact List.mem_of_mem_filter hin

theorem DistinctIds.of_messagesOf {ms ms' : List Dict} (h : DistinctIds T ms)
    (hs : ∀ id, messagesOf T id ms = messagesOf T id ms') : DistinctIds T ms' := by
  intro m hm m' hm' e e' hr hr'
  exact h m (mem_of_messagesOf hs hm hr) m' (mem_of_messagesOf hs hm' hr') e e' hr hr'

/-- **Orders do not interfere.** From any store and no processed event, with a
publisher that does not fail: what becomes of an order, and what is published
about it, is the same as when only its own messages are handled. So two
sequences with the same messages of each order leave the same orders and the
same log of each. -/
theorem orders_do_not_interfere (mode : RuntimeMode) (orders : OrderStore T)
    (ds : List (Delivery T)) (hids : DistinctIds T (ds.map (·.message))) :
    (∀ (id : String) (ds' : List (Delivery T)),
      ds'.map (·.message) = messagesOf T id (ds.map (·.message)) →
      SameFor id (deliverAll mode (untouched orders) ds)
        (deliverAll mode (untouched orders) ds')) ∧
    ∀ ds₂ : List (Delivery T),
      (∀ id, messagesOf T id (ds.map (·.message)) = messagesOf T id (ds₂.map (·.message))) →
      ∀ id, SameFor id (deliverAll mode (untouched orders) ds)
        (deliverAll mode (untouched orders) ds₂) := by
  refine ⟨fun id ds' h => same_for_filtered mode orders ds ds' hids id h, fun ds₂ h id => ?_⟩
  have hids₂ := hids.of_messagesOf h
  let own := ds₂.filter fun d => resolvesTo T d.message = some id
  have hown : own.map (·.message) = messagesOf T id (ds₂.map (·.message)) := by
    rw [messagesOf, List.filter_map]; rfl
  exact (same_for_filtered mode orders ds own hids id (hown.trans (h id).symm)).trans
    (same_for_filtered mode orders ds₂ own hids₂ id hown).symm

/-- The confirmation of the payment of `os-1` among messages of other orders. -/
def exOther (eventId : String) : Dict :=
  [("event_id", .str eventId), ("event_type", .str "QUOTE_FAILED"),
   ("correlation_id", .str "os-2"), ("occurred_at", .str "2026-01-01T00:00:00+00:00"),
   ("payload", .obj [])]

def exDelivery (message : Dict) : Delivery Iso := ⟨message, exStamp "event-20", exStamp "event-21"⟩

theorem orders_do_not_interfere_confirmed :
    let ds := [exDelivery (exOther "event-8"), exDelivery exConfirm, exDelivery (exOther "event-9")]
    DistinctIds Iso (ds.map (·.message)) ∧
      SameFor "os-1" (deliverAll .real (untouched exPending.orders) ds)
        (deliverAll .real (untouched exPending.orders) [exDelivery exConfirm]) ∧
      ((deliverAll .real (untouched exPending.orders) ds).orders.find "os-1").map (·.status) =
        some .executionRequested := by
  intro ds
  have hids : DistinctIds Iso (ds.map (·.message)) := by
    intro m hm m' hm' e e' hr hr' hne
    simp only [ds, exDelivery, List.map_cons, List.map_nil, List.mem_cons, List.not_mem_nil,
      or_false] at hm hm'
    rcases hm with rfl | rfl | rfl <;> rcases hm' with rfl | rfl | rfl <;> cases hr <;> cases hr'
    all_goals first | exact absurd rfl hne | decide
  exact ⟨hids, (orders_do_not_interfere .real exPending.orders ds hids).1 "os-1" _ rfl, rfl⟩

end ServiceOrderOs.Concurrency
