import ServiceOrderOs.L4Runs.Invariant

/-!
# The published log and the stored histories

A history and the log are written by different code. What an event tells of
its order is its `notice`; `noticeOf` is what an entry of the history has
published. Of the entries, `OPENED` and `PAYMENT_CONFIRMED` publish nothing.

* `change_recorded`: the entries a step adds to an order are announced by the
  events it tries to publish, in order.
* `log_agrees`: with a publisher that does not fail, the log of an order is
  the image of its history.
* `logSound_inductive`: also with a publisher that fails, every event in the
  log announces an entry of its order's history.
* `own_events_inert`: so none of them is accepted when it comes back.
-/
namespace ServiceOrderOs.Runs
open Core Py Domain App

variable {T : Type}

/-- The type of an event, and for a compensation the status and the reason its
payload carries. -/
structure Notice where
  eventType : String
  failed : Option (Option Json × Option Json)

def notice (e : DomainEvent T) : Notice where
  eventType := e.eventType
  failed := if e.eventType = "OS_COMPENSATION_REQUIRED"
    then some (e.payload.get? "status", e.payload.get? "reason") else none

def noticeOf (h : ServiceOrderHistoryEntry T) : Option Notice :=
  match h.status with
  | .opened | .paymentConfirmed => none
  | .quoteRequested => some ⟨"OS_OPENED", none⟩
  | .quoteApproved => some ⟨"QUOTE_APPROVED", none⟩
  | .paymentPending => some ⟨"PAYMENT_PENDING", none⟩
  | .executionRequested => some ⟨"EXECUTION_REQUESTED", none⟩
  | .executionInProgress => some ⟨"EXECUTION_STARTED", none⟩
  | .completed => some ⟨"OS_COMPLETED", none⟩
  | .quoteFailed | .paymentFailed | .executionEnqueueFailed | .executionFailed =>
    some ⟨"OS_COMPENSATION_REQUIRED", some (some (.str h.status.value), some (.str h.reason))⟩

/-- The event is about this order, by its correlation id and by its payload. -/
def About (id : String) (e : DomainEvent T) : Prop :=
  e.correlationId = id ∧ e.payload.get? "service_order_id" = some (.str id)

/-- The history stored under an id. -/
def recorded (s : Sys T) (id : String) : List (ServiceOrderHistoryEntry T) :=
  match s.orders.find id with
  | some o => o.history
  | none => []

/-! ## One call, one entry, one event -/

theorem returned_about (c : MethodCall T) (o : ServiceOrder T) :
    About o.serviceOrderId (returned c o) := ⟨rfl, rfl⟩

theorem noticeOf_entry (c : MethodCall T) {st : ServiceOrderStatus} (hr : c.Ready st)
    (hc : c.target ≠ .paymentConfirmed) (o : ServiceOrder T) :
    noticeOf (entry c) = some (notice (returned c o)) := by
  cases c with
  | markPaymentConfirmed => exact absurd rfl hc
  | fail st' r g =>
    have hf : IsFailure st' := hr
    revert hf
    cases st' <;> first | (intro _; rfl) | (intro hf; exact absurd hf (by decide))
  | _ => rfl

variable [Runtime T]

theorem accepts_recorded {event : DomainEvent T} {g g' : Stamp T} {o o' : ServiceOrder T}
    {out : Option (DomainEvent T)} (ha : Accepts event g g' o o' out) :
    ∃ added, o'.history = o.history ++ added ∧
      added.filterMap noticeOf = out.toList.map notice ∧
      ∀ e ∈ out.toList, About o.serviceOrderId e := by
  cases ha with
  | noted => exact ⟨[], by simp, rfl, fun e he => by cases he⟩
  | called k arg _ _ hr _ =>
    refine ⟨[entry (k.call arg g)], rfl, ?_, ?_⟩
    · rw [List.filterMap_cons_some (noticeOf_entry _ hr (call_target_rests k arg g).2 o)]
      rfl
    · intro e he
      rw [Option.toList_some, List.mem_singleton] at he
      rw [he]; exact returned_about _ _
  | confirmed arg =>
    refine ⟨[entry (.markPaymentConfirmed (arg.toStr T) g), entry (.requestExecution g')],
      by simp only [after_history, List.append_assoc, List.singleton_append], rfl, ?_⟩
    intro e he
    rw [Option.toList_some, List.mem_singleton] at he
    rw [he]; exact returned_about _ _

/-- What one step does to histories and log: nothing, or it appends to one
history the entries that the events it tries to publish announce. -/
theorem change_recorded {s s' : Sys T} {l : Call T} (hc : Change s l s') :
    (s'.orders = s.orders ∧ s'.log = s.log) ∨
    ∃ (o' : ServiceOrder T) (added : List (ServiceOrderHistoryEntry T))
      (es : List (DomainEvent T)),
      s'.orders = s.orders.save o' ∧
      o'.history = recorded s o'.serviceOrderId ++ added ∧
      added.filterMap noticeOf = es.map notice ∧ (∀ e ∈ es, About o'.serviceOrderId e) ∧
      s'.log = s.log ++ l.sent es := by
  cases hc with
  | stay ho hl => exact .inl ⟨ho, hl⟩
  | opened o g hs _ hf ho hl =>
    right
    refine ⟨_, o.history ++ [entry (.requestQuote g)], _, ho, ?_, ?_, ?_, hl⟩
    · have hrec : recorded s (after (.requestQuote g) o).serviceOrderId = [] := by
        simp only [recorded, after, ServiceOrder.moveTo_id, hf]
      rw [hrec]; rfl
    · obtain ⟨h, hh⟩ := List.length_eq_one_iff.mp
        (show o.history.length = 1 by simpa [ServiceOrder.statuses] using congrArg List.length hs)
      rw [ServiceOrder.statuses, hh, List.map_singleton, List.singleton_inj] at hs
      have hready : (MethodCall.requestQuote g).Ready .opened := trivial
      rw [hh, List.singleton_append, List.filterMap_cons_none (by simp only [noticeOf, hs])]
      rw [List.filterMap_cons_some
        (noticeOf_entry (.requestQuote g) hready (fun h => by cases h) o)]
      rfl
    · intro e he
      rw [List.mem_singleton] at he
      rw [he]; exact returned_about _ _
  | moved event g g' o o' out _ hf ha ho hl =>
    right
    obtain ⟨added, hh, hn, hab⟩ := accepts_recorded ha
    rw [← ha.id_eq] at hab
    refine ⟨o', added, out.toList, ho, ?_, hn, hab, hl⟩
    rw [hh, ha.id_eq, s.orders.filed _ _ hf]
    simp only [recorded, hf]

/-! ## Runs -/

omit [Runtime T] in
theorem recorded_save {s s' : Sys T} {o : ServiceOrder T} (h : s'.orders = s.orders.save o)
    (id : String) :
    recorded s' id = if id = o.serviceOrderId then o.history else recorded s id := by
  unfold recorded
  rw [h, OrderStore.save_find]
  by_cases hid : id = o.serviceOrderId
  · rw [if_pos hid, if_pos hid]
  · rw [if_neg hid, if_neg hid]

/-- Every event in the log is about a stored order and announces an entry of
its history. -/
def LogSound (s : Sys T) : Prop :=
  ∀ e ∈ s.log, About e.correlationId e ∧
    ∃ h ∈ recorded s e.correlationId, noticeOf h = some (notice e)

theorem change_logSound {s s' : Sys T} {l : Call T} (h : LogSound s) (hc : Change s l s') :
    LogSound s' := by
  rcases change_recorded hc with ⟨ho, hl⟩ | ⟨o', added, es, ho, hh, hn, hab, hl⟩
  · intro e he
    rw [hl] at he
    simp only [recorded, ho]
    exact h e he
  · intro e he
    rw [recorded_save ho]
    rw [hl] at he
    rcases List.mem_append.mp he with he | he
    · obtain ⟨hab', x, hx, hne⟩ := h e he
      refine ⟨hab', x, ?_, hne⟩
      split
      · rename_i hid; rw [hh]; exact List.mem_append_left _ (hid ▸ hx)
      · exact hx
    · have hes : e ∈ es := List.mem_of_mem_filter he
      obtain ⟨hid, hpay⟩ := hab e hes
      have hm : notice e ∈ added.filterMap noticeOf := by
        rw [hn]; exact List.mem_map_of_mem hes
      obtain ⟨x, hx, hne⟩ := List.mem_filterMap.mp hm
      refine ⟨⟨rfl, by rw [hid]; exact hpay⟩, x, ?_, hne⟩
      rw [if_pos hid, hh]
      exact List.mem_append_right _ hx

theorem logSound_inductive (mode : RuntimeMode) : (sagaLts T mode).Inductive LogSound where
  init := by
    intro s heq e he
    subst heq
    cases he
  step := by
    intro s l s' h hs
    obtain ⟨hl, rfl⟩ := hs
    exact change_logSound h (next_change mode s l hl)

/-- The log of an order is the image of its history. -/
def LogAgrees (s : Sys T) : Prop :=
  ∀ id, (s.log.filter fun e => e.correlationId = id).map notice =
    (recorded s id).filterMap noticeOf

theorem change_logAgrees {s s' : Sys T} {l : Call T} (h : LogAgrees s) (hc : Change s l s')
    (hp : l.pub = reliable) : LogAgrees s' := by
  rcases change_recorded hc with ⟨ho, hl⟩ | ⟨o', added, es, ho, hh, hn, hab, hl⟩
  · intro id
    simp only [recorded, ho, hl]
    exact h id
  · intro id
    have hsent : l.sent es = es := by
      simp only [Call.sent, hp]; exact List.filter_eq_self.mpr fun _ _ => rfl
    rw [recorded_save ho, hl, hsent, List.filter_append, List.map_append, h id]
    split
    · rename_i hid
      have hall : es.filter (fun e => decide (e.correlationId = id)) = es :=
        List.filter_eq_self.mpr fun e he => by simp [(hab e he).1, hid]
      rw [hall, hh, List.filterMap_append, hn, hid]
    · rename_i hid
      have hnil : es.filter (fun e => decide (e.correlationId = id)) = [] :=
        List.filter_eq_nil_iff.mpr fun e he => by simpa [(hab e he).1, eq_comm] using hid
      rw [hnil, List.map_nil, List.append_nil]

theorem logAgrees_inductive (mode : RuntimeMode) :
    (reliableLts T mode).Inductive LogAgrees where
  init := by
    intro s he id
    subst he
    rfl
  step := by
    intro s l s' h hs
    obtain ⟨⟨hl, rfl⟩, hp, -⟩ := hs
    exact change_logAgrees h (next_change mode s l hl) hp

omit [Runtime T] in
/-- An entry announced by `OS_COMPENSATION_REQUIRED` is a failure, and one
announced by `OS_COMPLETED` is the completion. -/
theorem noticeOf_terminal {h : ServiceOrderHistoryEntry T} {e : DomainEvent T}
    (hn : noticeOf h = some (notice e)) :
    (e.eventType = "OS_COMPENSATION_REQUIRED" → IsFailure h.status) ∧
      (e.eventType = "OS_COMPLETED" → h.status = .completed) := by
  have ht := congrArg (Option.map Notice.eventType) hn
  simp only [Option.map_some, notice] at ht
  obtain ⟨st, r, t⟩ := h
  constructor <;> intro he <;> rw [he] at ht <;> revert ht <;> cases st <;> simp [noticeOf] <;>
    decide

omit [Runtime T] in
/-- An order on the documented chain does not both complete and fail. -/
theorem completed_not_failed {o : ServiceOrder T} (h : OnSaga o) (hc : .completed ∈ o.statuses)
    {st : ServiceOrderStatus} (hf : IsFailure st) : st ∉ o.statuses := by
  obtain ⟨p, fs, hs, hp, hfs⟩ := h.statuses
  rw [hs] at hc ⊢
  rcases hfs with rfl | ⟨f, rfl, hff, hnc⟩
  · rw [List.append_nil]
    exact fun hm => stages_not_failure st (hp.subset hm) hf
  · rcases List.mem_append.mp hc with hc | hc
    · exact absurd hc hnc
    · rw [← List.mem_singleton.mp hc] at hff
      exact absurd hff (by decide)

/-- **Event log and history agree.** With a publisher that does not fail the
log of every stored order is the image of its history; every event carries its
correlation id as `service_order_id` and is about a stored order; and no order
has both its completion and a compensation published. -/
theorem log_agrees (mode : RuntimeMode) (s : Sys T) (h : (reliableLts T mode).Reachable s) :
    (∀ id o, s.orders.find id = some o →
      (s.log.filter fun e => e.correlationId = id).map notice = o.history.filterMap noticeOf) ∧
    (∀ e ∈ s.log, e.payload.get? "service_order_id" = some (.str e.correlationId) ∧
      ∃ o, s.orders.find e.correlationId = some o) ∧
    ∀ e ∈ s.log, ∀ e' ∈ s.log, e.correlationId = e'.correlationId →
      e.eventType = "OS_COMPLETED" → e'.eventType ≠ "OS_COMPENSATION_REQUIRED" := by
  have hag := (logAgrees_inductive mode).reachable s h
  have hsound := (logSound_inductive mode).reachable s (reachable_of_reliable h)
  have hset := settled_inductive.reachable s (reachable_of_reliable h)
  refine ⟨fun id o hf => ?_, fun e he => ?_, fun e he e' he' hid ht ht' => ?_⟩
  · rw [hag id]; simp only [recorded, hf]
  · obtain ⟨hab, x, hx, -⟩ := hsound e he
    refine ⟨hab.2, ?_⟩
    unfold recorded at hx
    split at hx
    · rename_i o hf; exact ⟨o, hf⟩
    · cases hx
  · obtain ⟨-, x, hx, hn⟩ := hsound e he
    obtain ⟨-, x', hx', hn'⟩ := hsound e' he'
    rw [← hid] at hx'
    unfold recorded at hx hx'
    split at hx
    · rename_i o hf
      rw [hf] at hx'
      have hc : .completed ∈ o.statuses := by
        rw [← (noticeOf_terminal hn).2 ht]; exact List.mem_map_of_mem hx
      exact completed_not_failed (hset _ o hf).onSaga hc ((noticeOf_terminal hn').1 ht')
        (List.mem_map_of_mem hx')
    · cases hx

theorem log_agrees_approved : (reliableLts Iso .real).Reachable exState ∧
    ∃ o, exState.orders.find "os-1" = some o ∧ exState.log.length = 2 ∧
      (exState.log.filter fun e => e.correlationId = "os-1").map notice =
        o.history.filterMap noticeOf :=
  ⟨exState_reachable, _, rfl, rfl, (log_agrees .real exState exState_reachable).1 "os-1" _ rfl⟩

/-! ## Own events that come back -/

omit [Runtime T] in
/-- Of the types the service publishes, those it also accepts come from the
entry the accepted call would record. -/
theorem noticeOf_accepted (h : ServiceOrderHistoryEntry T) :
    (noticeOf h).map Notice.eventType ≠ some "QUOTE_CREATED" ∧
      (noticeOf h).map Notice.eventType ≠ some "PAYMENT_CONFIRMED" ∧
      ∀ (k : SagaEvent) (arg : String) (g : Stamp T),
        (noticeOf h).map Notice.eventType = some k.type → h.status = (k.call arg g).target := by
  obtain ⟨st, r, t⟩ := h
  refine ⟨?_, ?_, fun k arg g => ?_⟩
  · cases st <;> simp [noticeOf]
  · cases st <;> simp [noticeOf]
  · cases k <;> cases st <;>
      simp [noticeOf, SagaEvent.type, SagaEvent.call, MethodCall.target]

theorem serviceOrderId_of_about {id : String} {e : DomainEvent T} (h : About id e) :
    HandleSagaEventUseCase.serviceOrderId e = id := by
  unfold HandleSagaEventUseCase.serviceOrderId
  rw [h.2]
  simp only [Json.toStr_str, h.1]
  split <;> rfl

/-- An event that the order has announced is not accepted by it. -/
theorem announced_not_accepted {event : DomainEvent T} {o : ServiceOrder T} (hw : WellFormed o)
    {x : ServiceOrderHistoryEntry T} (hx : x ∈ o.history)
    (hn : (noticeOf x).map Notice.eventType = some event.eventType) {g g' : Stamp T}
    {o' : ServiceOrder T} {out : Option (DomainEvent T)} : ¬ Accepts event g g' o o' out := by
  obtain ⟨h1, h2, h3⟩ := noticeOf_accepted x
  intro ha
  cases ha with
  | noted hq => exact h1 (hq ▸ hn)
  | called k arg hk _ hr hl =>
    have hm : (k.call arg g).target ∈ o.statuses := by
      rw [← h3 k arg g (hk ▸ hn)]; exact List.mem_map_of_mem hx
    exact hl (hw.not_again _ (call_not_quote k arg g) hm hr)
  | confirmed v hq => exact h2 (hq ▸ hn)

theorem own_not_accepted {s : Sys T} (hset : AllSettled s) (hlog : LogSound s)
    {e event : DomainEvent T} (he : e ∈ s.log) (ht : event.eventType = e.eventType)
    (hid : event.correlationId = e.correlationId) (hpay : event.payload = e.payload)
    {g g' : Stamp T} {o o' : ServiceOrder T} {out : Option (DomainEvent T)}
    (hf : s.orders.find (HandleSagaEventUseCase.serviceOrderId event) = some o) :
    ¬ Accepts event g g' o o' out := by
  obtain ⟨hab, x, hx, hn⟩ := hlog e he
  have hab' : About e.correlationId event := ⟨hid, by rw [hpay]; exact hab.2⟩
  rw [serviceOrderId_of_about hab'] at hf
  simp only [recorded, hf] at hx
  have hty : (noticeOf x).map Notice.eventType = some event.eventType := by rw [hn, ht]; rfl
  exact announced_not_accepted (hset _ o hf).wellFormed hx hty

omit [Runtime T] in
/-- No two statuses announce the same. -/
theorem noticeOf_status {x y : ServiceOrderHistoryEntry T} {n : Notice}
    (hx : noticeOf x = some n) (hy : noticeOf y = some n) : x.status = y.status := by
  rw [← hy] at hx
  obtain ⟨st, r, t⟩ := x
  obtain ⟨st', r', t'⟩ := y
  revert hx
  cases st <;> cases st' <;> simp [noticeOf, ServiceOrderStatus.value] at hy ⊢

/-- An event that an acceptance returns has not been published before. -/
theorem not_published_yet {s : Sys T} (hset : AllSettled s) (hlog : LogSound s)
    {event e e' : DomainEvent T} {g g' : Stamp T} {o o' : ServiceOrder T} {id : String}
    (hf : s.orders.find id = some o) (ha : Accepts event g g' o o' (some e)) (he' : e' ∈ s.log)
    (hid : e'.correlationId = e.correlationId) : notice e' ≠ notice e := by
  intro hn
  obtain ⟨added, hh, hadd, hab⟩ := accepts_recorded ha
  obtain ⟨-, x, hx, hxn⟩ := hlog e' he'
  have hown : e'.correlationId = id := by
    rw [hid, (hab e (by simp)).1, s.orders.filed _ _ hf]
  simp only [recorded, hown, hf] at hx
  have hm : notice e ∈ added.filterMap noticeOf := by rw [hadd]; simp
  obtain ⟨y, hy, hyn⟩ := List.mem_filterMap.mp hm
  -- the two entries have one status, which `o'` would have recorded twice
  have hst := noticeOf_status (hn ▸ hxn) hyn
  have hnd : o'.statuses.Nodup := (accepts_settled (hset id o hf) ha).wellFormed.trail.nodup
    stages_nodup stages_not_failure
  rw [ServiceOrder.statuses, hh, List.map_append, List.nodup_append] at hnd
  exact hnd.2.2 _ (List.mem_map_of_mem hx) _ (List.mem_map_of_mem hy) hst

/-- **Own events looped back are inert.** In every state of a run, delivering
an event of the log in the form it was published changes no order, publishes
nothing and records nothing. -/
theorem own_events_inert (mode : RuntimeMode) (s : Sys T) (h : (sagaLts T mode).Reachable s)
    (e : DomainEvent T) (he : e ∈ s.log) (pub : Publisher T) (g g' : Stamp T) :
    (Call.deliver pub e.toMessage g g').next mode s = s := by
  have hset := settled_inductive.reachable s h
  have hlog := (logSound_inductive mode).reachable s h
  simp only [Call.next]
  cases hr : ServiceOrderSagaEventHandler.readEvent (T := T) e.toMessage with
  | error err =>
    rcases ServiceOrderSagaEventHandler.handle_unread hr mode pub g g' s with h | ⟨_, h⟩
    all_goals rw [h]; rfl
  | ok event =>
    obtain ⟨ht, hid, hpay⟩ := ServiceOrderSagaEventHandler.readEvent_toMessage hr
    by_cases hp : event.eventId ∈ s.processed
    · rw [ServiceOrderSagaEventHandler.handle_skipped hr hp]; rfl
    · rw [ServiceOrderSagaEventHandler.handle_fresh hr hp]
      rcases execute_cases mode pub event g g' s with ⟨err, hx, -⟩ | ⟨o, o', out, hf, ha, -⟩
      · rw [hx]; rfl
      · exact absurd ha (own_not_accepted hset hlog he ht hid hpay hf)

/-- The `QUOTE_APPROVED` of the order comes back to its own service. -/
theorem own_quote_approved_inert : (sagaLts Iso .real).Reachable exState ∧
    ∃ e ∈ exState.log, e.eventType = "QUOTE_APPROVED" ∧
      (Call.deliver reliable e.toMessage (exStamp "event-5") (exStamp "event-6")).next .real
        exState = exState :=
  have he : exState.log.get ⟨1, by decide⟩ ∈ exState.log := List.get_mem ..
  ⟨reachable_of_reliable exState_reachable, _, he, rfl,
    own_events_inert .real exState (reachable_of_reliable exState_reachable) _ he reliable _ _⟩

end ServiceOrderOs.Runs
