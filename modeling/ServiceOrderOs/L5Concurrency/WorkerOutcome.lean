import ServiceOrderOs.L4Runs.Course
import ServiceOrderOs.L5Concurrency.WorkerQueue

/-!
# What the queue makes of an order

Where the API leaves an order alone, its course is decided by the bodies of the
queue and their order: by the pure function `Course.after` on the events that
are for it. Where an attempt stops, what raises, how often a body is delivered
and which of the service's own events come back do not matter.

* `attempt_course`: an attempt takes the order no step, or the step of its body,
  and that one if the body is settled.
* `own_course`: what the service publishes is no step.
* `headedFor_step`: so what is still to come leads to the same end.
* `worker_outcome`: and the empty queue leaves the order there.
-/
namespace ServiceOrderOs.Concurrency
open Core Py Domain App Runs
open RabbitMqBlockingEventWorker (readDelivery readDelivery_encoded)
open HandleSagaEventUseCase (serviceOrderId)

variable {T : Type} [Runtime T] {py : Codecs} {body : ByteArray} {id : String} {s : Sys T}

/-- The event of a body, as the handler reads it. -/
def eventOf (T : Type) [Runtime T] (py : Codecs) (body : ByteArray) : Option (DomainEvent T) := do
  (ServiceOrderSagaEventHandler.readEvent (← readable T py body)).toOption

/-- The events that are for one order. -/
def eventsFor (T : Type) [Runtime T] (py : Codecs) (id : String) (bodies : List ByteArray) :
    List (DomainEvent T) :=
  (bodies.filterMap (eventOf T py)).filter fun event => serviceOrderId event = id

theorem eventOf_iff {event : DomainEvent T} :
    eventOf T py body = some event ↔ Reads py body event := by
  unfold eventOf readable Reads
  cases readDelivery T py body with
  | error e => simp [Except.toOption]
  | ok message =>
    cases hread : ServiceOrderSagaEventHandler.readEvent (T := T) message with
    | error e => simp [Except.toOption, hread]
    | ok event' => simp [Except.toOption, hread]

@[simp] theorem eventsFor_nil : eventsFor T py id [] = [] := rfl

@[simp] theorem eventsFor_append (bodies bodies' : List ByteArray) :
    eventsFor T py id (bodies ++ bodies') = eventsFor T py id bodies ++ eventsFor T py id bodies' := by
  simp only [eventsFor, List.filterMap_append, List.filter_append]

theorem eventsFor_cons (body : ByteArray) (bodies : List ByteArray) :
    eventsFor T py id (body :: bodies) = eventsFor T py id [body] ++ eventsFor T py id bodies :=
  eventsFor_append [body] bodies

theorem eventsFor_one {event : DomainEvent T} (h : Reads py body event) :
    eventsFor T py id [body] = if serviceOrderId event = id then [event] else [] := by
  rw [eventsFor, List.filterMap_cons_some (eventOf_iff.mpr h), List.filterMap_nil]
  by_cases hid : serviceOrderId event = id <;> simp [hid]

theorem eventsFor_unread (h : ∀ event : DomainEvent T, ¬ Reads py body event) :
    eventsFor T py id [body] = [] := by
  have hnone : eventOf T py body = none := by
    cases hread : eventOf T py body with
    | none => rfl
    | some event => exact absurd (eventOf_iff.mp hread) (h event)
  rw [eventsFor, List.filterMap_cons_none hnone]
  rfl

/-- An event id names one event. -/
def OneEventPerId (T : Type) [Runtime T] (py : Codecs) (bodies : List ByteArray) : Prop :=
  ∀ body ∈ bodies, ∀ body' ∈ bodies, ∀ event event' : DomainEvent T,
    Reads py body event → Reads py body' event' → event.eventId = event'.eventId → event = event'

/-! ## One attempt -/

section Attempt
variable {o : ServiceOrder T}

/-- An order under another id stays as it is. -/
theorem find_save {event : DomainEvent T} {g g' : Stamp T} {o₁ o₁' : ServiceOrder T}
    {out : Option (DomainEvent T)} (hf : s.orders.find (serviceOrderId event) = some o₁)
    (ha : Accepts event g g' o₁ o₁' out) (hid : serviceOrderId event ≠ id) :
    (s.orders.save o₁').find id = s.orders.find id := by
  refine OrderStore.save_find_of_ne _ _ fun e => hid ?_
  rw [e, ha.filed hf]

theorem spent_course (hs : AllSettled s) {event : DomainEvent T} (h : Spent event s)
    (hid : serviceOrderId event = id) (hf : s.orders.find id = some o) :
    (courseOf o).next event = courseOf o := by
  obtain ⟨g, g', o₁, o₁', out, o₂, ha, hf₂, hg⟩ := h
  rw [hid, hf, Option.some.injEq] at hf₂
  subst hf₂
  exact next_again (hs id o hf).wellFormed ha hg

/-- A body that is settled has taken its step, or its event had before. -/
theorem deliver_course (hs : AllSettled s) {message : Dict}
    (hread : readDelivery T py body = .ok message)
    (hrecorded : ∀ event : DomainEvent T, Reads py body event → event.eventId ∈ s.processed →
      Spent event s) (hf : s.orders.find id = some o) (pub : Publisher T) (g g' : Stamp T) :
    ∃ o', ((Call.deliver pub message g g').next .real s).orders.find id = some o' ∧
      courseOf o' = (courseOf o).after (eventsFor T py id [body]) := by
  simp only [Call.next]
  cases hevent : ServiceOrderSagaEventHandler.readEvent (T := T) message with
  | error e =>
    have hno : ∀ event : DomainEvent T, ¬ Reads py body event := by
      rintro event ⟨message', hm, he⟩
      rw [hread, Except.ok.injEq] at hm
      rw [← hm, hevent] at he
      cases he
    rw [eventsFor_unread hno]
    rcases ServiceOrderSagaEventHandler.handle_unread hevent .real pub g g' s with h | ⟨_, h⟩
    all_goals rw [h]; exact ⟨o, hf, rfl⟩
  | ok event =>
    have hreads : Reads py body event := ⟨message, hread, hevent⟩
    rw [eventsFor_one hreads]
    by_cases hp : event.eventId ∈ s.processed
    · rw [ServiceOrderSagaEventHandler.handle_skipped hevent hp]
      refine ⟨o, hf, ?_⟩
      split
      · rename_i hid
        exact (spent_course hs (hrecorded event hreads hp) hid hf).symm
      · rfl
    rw [(left_handle hevent hp .real pub g g').1]
    rcases execute_cases .real pub event g g' s with ⟨e, hx, hno⟩ | ⟨o₁, o₁', out, hf₁, ha, hx⟩
    · rw [hx]
      refine ⟨o, hf, ?_⟩
      split
      · rename_i hid
        exact (next_of_refused fun o' out => hno o o' out (hid ▸ hf)).symm
      · rfl
    · rw [hx, left_announce]
      by_cases hid : serviceOrderId event = id
      · rw [hid, hf, Option.some.injEq] at hf₁
        subst hf₁
        refine ⟨o₁', ?_, by rw [if_pos hid]; exact next_of_accepts ha⟩
        rw [OrderStore.save_find, if_pos (ha.filed hf).symm]
      · refine ⟨o, ?_, by rw [if_neg hid]; rfl⟩
        rw [find_save hf₁ ha hid]
        exact hf

/-- **One attempt.** The step of its body is taken, or is still to be taken; it
is taken if the body is settled. -/
theorem attempt_course (hs : AllSettled s) (hrecorded : ∀ event : DomainEvent T,
      Reads py body event → event.eventId ∈ s.processed → Spent event s)
    (hf : s.orders.find id = some o) (work : Work T) :
    ∃ o', (attempt py work body s).store.orders.find id = some o' ∧
      (courseOf o').after (eventsFor T py id [body]) =
        (courseOf o).after (eventsFor T py id [body]) ∧
      ((attempt py work body s).ending ≠ .lost →
        courseOf o' = (courseOf o).after (eventsFor T py id [body])) := by
  have hcases := attempt_cases py work body s
  have hsettles : (attempt py work body s).ending ≠ .lost → ∃ o',
      (attempt py work body s).store.orders.find id = some o' ∧
        courseOf o' = (courseOf o).after (eventsFor T py id [body]) := by
    intro hsettled
    cases work with
    | stops steps g g' =>
      exfalso
      unfold attempt at hsettled
      cases hread : readDelivery T py body with
      | error e => rw [hread] at hsettled; exact hsettled rfl
      | ok message => rw [hread] at hsettled; exact hsettled rfl
    | finishes pub wire deliveryTag g g' =>
      obtain ⟨e, -, ⟨hno, -, h⟩ | ⟨message, hread, -, -, h⟩⟩ :=
        attempt_finishes py pub wire deliveryTag g g' body s
      · have hunread : ∀ event : DomainEvent T, ¬ Reads py body event :=
          fun event ⟨message, hread, _⟩ => hno message hread
        rw [h, eventsFor_unread hunread]
        exact ⟨o, hf, rfl⟩
      · rw [h]
        exact deliver_course hs hread hrecorded hf pub g g'
  generalize attempt py work body s = r at hcases hsettles ⊢
  -- what is found, and that the step of the body can be taken only once
  have hfound : ∃ o', r.store.orders.find id = some o' ∧
      (courseOf o').after (eventsFor T py id [body]) =
        (courseOf o).after (eventsFor T py id [body]) := by
    cases hcases with
    | nothing e => exact ⟨o, hf, rfl⟩
    | executed event g g' o₁ o₁' out es p e hread _ hf₁ ha =>
      rw [eventsFor_one hread]
      by_cases hid : serviceOrderId event = id
      · rw [hid, hf, Option.some.injEq] at hf₁
        subst hf₁
        rw [if_pos hid]
        refine ⟨o₁', ?_, ?_⟩
        · rw [OrderStore.save_find, if_pos (ha.filed hf).symm]
        · show (courseOf o₁').next event = (courseOf o).next event
          rw [next_again (accepts_settled (hs id o hf) ha).wellFormed ha List.prefix_rfl]
          exact next_of_accepts ha
      · rw [if_neg hid]
        exact ⟨o, (find_save hf₁ ha hid).trans hf, rfl⟩
  obtain ⟨o', hf', hsame⟩ := hfound
  refine ⟨o', hf', hsame, fun hsettled => ?_⟩
  obtain ⟨o'', hf'', hcourse⟩ := hsettles hsettled
  rw [hf', Option.some.injEq] at hf''
  subst hf''
  exact hcourse

end Attempt

/-! ## What the service publishes -/

/-- Events of the log that come back take no step, whatever comes before. -/
theorem own_course (hpy : py.Inverts) (hs : (sagaLts T .real).Reachable s) {o : ServiceOrder T}
    (hf : s.orders.find id = some o) {es : List (DomainEvent T)} (hes : ∀ e ∈ es, e ∈ s.log)
    (events : List (DomainEvent T)) :
    (courseOf o).after (events ++ eventsFor T py id (es.map encoded)) =
      (courseOf o).after events := by
  rw [Course.after_append]
  have hset := settled_inductive.reachable s hs id o hf
  obtain ⟨o', hset', -, hgrown, hcourse⟩ := follow hset events
  rw [← hcourse]
  induction es with
  | nil => rfl
  | cons e es ih =>
    have hrest := ih fun e' he' => hes e' (List.mem_cons_of_mem e he')
    rw [List.map_cons, eventsFor_cons, Course.after_append]
    by_cases hread : ∃ event : DomainEvent T, Reads py (encoded e) event
    · obtain ⟨event, message, hmessage, hevent⟩ := hread
      have he : e ∈ s.log := hes e List.mem_cons_self
      obtain ⟨htype, hpayload⟩ := (logContract_inductive py.isRepr .real).reachable s hs e he
      obtain ⟨habout, x, hx, hn⟩ := (logSound_inductive .real).reachable s hs e he
      rw [eventsFor_one ⟨message, hmessage, hevent⟩]
      rw [readDelivery_encoded hpy htype hpayload, Except.ok.injEq] at hmessage
      subst hmessage
      obtain ⟨ht, hid, hpay⟩ := ServiceOrderSagaEventHandler.readEvent_toMessage hevent
      split
      · rename_i htarget
        have habout' : About e.correlationId event := ⟨hid, by rw [hpay]; exact habout.2⟩
        rw [serviceOrderId_of_about habout'] at htarget
        simp only [recorded, htarget, hf] at hx
        have hann : (noticeOf x).map Notice.eventType = some event.eventType := by
          rw [hn, ht]
          rfl
        show ((courseOf o').next event).after _ = _
        rw [next_announced hset'.wellFormed (hgrown.subset hx) hann]
        exact hrest
      · exact hrest
    · rw [eventsFor_unread fun event h => hread ⟨event, h⟩]
      exact hrest

/-! ## The queue -/

/-- The API does not execute an event on the order. -/
def LeavesAlone (id : String) : Call T → Prop
  | .saga _ event _ _ => serviceOrderId event ≠ id
  | _ => True

theorem api_find {call : Call T} (hcall : IsApi call) (hfresh : call.Fresh s)
    (halone : LeavesAlone id call) {o : ServiceOrder T} (hf : s.orders.find id = some o) :
    (call.next .real s).orders.find id = some o := by
  cases next_change .real s call hfresh with
  | stay ho => rw [ho]; exact hf
  | opened o₁ g _ _ hno ho =>
    have hne : id ≠ o₁.serviceOrderId := fun e => by rw [e, hno] at hf; cases hf
    rw [ho]
    exact (OrderStore.save_find_of_ne _ (after _ o₁) hne).trans hf
  | moved event g g' o₁ o₁' out he hf₁ ha ho =>
    have hne : serviceOrderId event ≠ id := by
      cases call with
      | saga pub e h h' => exact (show e = event from he) ▸ halone
      | deliver => cases hcall
      | «open» => cases he
      | lose => cases he
    rw [ho, find_save hf₁ ha hne]
    exact hf

/-- The order stands where what is not settled yet takes it to the course `c`. -/
def HeadedFor (py : Codecs) (id : String) (c : Course) (q : Queue (Sys T) ByteArray) : Prop :=
  ∃ o, q.store.orders.find id = some o ∧ (courseOf o).after (eventsFor T py id q.pending) = c

section Queue
variable {q q' : Queue (Sys T) ByteArray} {c : Course}

/-- What a reachable state says of the records. -/
theorem recorded_spent (hq : (workerLts T py).Reachable q) (hids : OneEventPerId T py q.arrived)
    (hbody : body ∈ q.arrived) (event : DomainEvent T) (hread : Reads py body event)
    (hp : event.eventId ∈ q.store.processed) : Spent event q.store := by
  have hsourced : (workerLts T py).Inductive _ := (accepted_sourced py).inductive fun s hs =>
    ⟨⟨s, [], hs, .nil s⟩, fun id hid => by
      rw [show s = Sys.empty from hs] at hid
      exact absurd hid (Finset.notMem_empty id)⟩
  obtain ⟨body', hbody', event', hread', hid, hspent⟩ := (hsourced.reachable q hq).2.2 _ hp
  exact hids body' hbody' body hbody event' event hread' hread hid ▸ hspent

theorem headedFor_work (hpy : py.Inverts) (hq : (workerLts T py).Reachable q)
    (hids : OneEventPerId T py q.arrived) (h : HeadedFor py id c q) {m : ByteArray}
    (hm : q.inHand = some m) (work : Work T) : HeadedFor py id c (q.work (worker py) work m) := by
  obtain ⟨o, hf, hc⟩ := h
  have hs := (store_reachable py).reachable q hq
  have hpending : q.pending = m :: q.ready := by rw [Queue.pending, hm]; rfl
  have harrived : m ∈ q.arrived := by
    have horder : q.InOrder := inOrder_inductive.reachable q hq
    rw [← horder, hpending]
    simp
  obtain ⟨o', hf', hsame, hsettled⟩ := attempt_course (settled_inductive.reachable _ hs)
    (recorded_spent hq hids harrived) hf work
  obtain ⟨es, hlog, hsent, -⟩ := attempt_log py work m q.store
  obtain ⟨ls, hr⟩ := attempt_run py work m q.store
  have hes : ∀ e ∈ es, e ∈ (attempt py work m q.store).store.log := fun e he => by
    rw [hlog]
    exact List.mem_append_right _ he
  have hown := own_course hpy (hs.run hr) hf' hes
  refine ⟨o', by rw [Queue.work_store]; exact hf', ?_⟩
  rw [hpending, eventsFor_cons, Course.after_append] at hc
  rw [work_pending hm]
  show (courseOf o').after (eventsFor T py id (if (attempt py work m q.store).ending = .lost
    then m :: (q.ready ++ (attempt py work m q.store).sent)
    else q.ready ++ (attempt py work m q.store).sent)) = c
  rw [hsent]
  split
  · rw [← List.cons_append, eventsFor_append, hown, eventsFor_cons, Course.after_append, hsame]
    exact hc
  · rename_i hne
    rw [eventsFor_append, hown, hsettled hne]
    exact hc

/-- **One step.** What arrives from outside is one more step to come; nothing
else changes where the order is going. -/
theorem headedFor_step (hpy : py.Inverts) (hq : (workerLts T py).Reachable q)
    (hids : OneEventPerId T py q.arrived) (h : HeadedFor py id c q)
    {l : QueueLabel (Work T) (Call T) ByteArray} (halone : ∀ call ∈ l.call, LeavesAlone id call)
    (hs : (workerLts T py).step q l q') :
    HeadedFor py id (c.after (eventsFor T py id l.arrival.toList)) q' := by
  obtain ⟨hallowed, rfl⟩ := hs
  cases l with
  | other call =>
    obtain ⟨o, hf, hc⟩ := h
    have hcall : IsApi call ∧ call.Fresh q.store := hallowed
    have hstore := (store_reachable py).reachable q hq
    have hf' := api_find hcall.1 hcall.2 (halone call rfl) hf
    have hown := own_course hpy (hstore.step (l := call) ⟨hcall.2, rfl⟩) hf'
      fun e he => List.mem_of_mem_drop (i := q.store.log.length) he
    refine ⟨o, hf', ?_⟩
    rw [Queue.next, Queue.enqueue_pending, eventsFor_append]
    exact (hown _).trans hc
  | arrive m =>
    obtain ⟨o, hf, hc⟩ := h
    refine ⟨o, hf, ?_⟩
    rw [Queue.next, Queue.enqueue_pending, eventsFor_append, Course.after_append, hc]
    rfl
  | take =>
    obtain ⟨o, hf, hc⟩ := h
    refine ⟨o, by rw [Queue.next, Queue.take_store]; exact hf, ?_⟩
    rw [Queue.next, Queue.take_pending]
    exact hc
  | disconnect => exact h
  | attempt work =>
    show HeadedFor py id c (q.attempt (worker py) work)
    cases hm : q.inHand with
    | none => rw [Queue.attempt, hm]; exact h
    | some m => rw [Queue.attempt, hm]; exact headedFor_work hpy hq hids h hm work

theorem headedFor_run (hpy : py.Inverts) {ls : List (QueueLabel (Work T) (Call T) ByteArray)}
    (hr : (workerLts T py).Run q ls q') (hq : (workerLts T py).Reachable q)
    (hids : OneEventPerId T py q'.arrived) (h : HeadedFor py id c q)
    (halone : ∀ call ∈ ls.filterMap QueueLabel.call, LeavesAlone id call) :
    HeadedFor py id (c.after (eventsFor T py id (ls.filterMap QueueLabel.arrival))) q' := by
  induction hr generalizing c with
  | nil => exact h
  | @cons q q₁ q' l ls hs hr ih =>
    have hbefore : OneEventPerId T py q.arrived := by
      have hsub := (run_arrived (Lts.Run.cons hs hr)).subset
      exact fun body hbody body' hbody' => hids body (hsub hbody) body' (hsub hbody')
    have hcall : ∀ call ∈ l.call, LeavesAlone id call := fun call hcall =>
      halone call (List.mem_filterMap.mpr ⟨l, List.mem_cons_self, hcall⟩)
    have hrest : ∀ call ∈ ls.filterMap QueueLabel.call, LeavesAlone id call := by
      intro call hcall
      obtain ⟨l', hl', hlabel⟩ := List.mem_filterMap.mp hcall
      exact halone call (List.mem_filterMap.mpr ⟨l', List.mem_cons_of_mem l hl', hlabel⟩)
    have hall := ih (hq.step hs) hids (headedFor_step hpy hq hbefore h hcall hs) hrest
    have hcons : (l :: ls).filterMap QueueLabel.arrival =
        l.arrival.toList ++ ls.filterMap QueueLabel.arrival := by
      rw [List.filterMap_cons]
      cases l.arrival <;> rfl
    rw [hcons, eventsFor_append, Course.after_append]
    exact hall

end Queue

/-! ## A queue whose publisher raises -/

def exRaising : Publisher Utc := fun _ => some (.valueError "")

def exUnsentLabels : List (QueueLabel (Work Utc) (Call Utc) ByteArray) :=
  [.arrive (encoded exApproval), .take,
    .other (.open exRaising ⟨none, none⟩ ⟨"customer-1", "vehicle-1", "Brake inspection"⟩ "os-1"
      App.exTime (exWorkerStamp "event-1"))]

/-- The order is stored, and its opening is not published. -/
def exUnsent : Queue (Sys Utc) ByteArray :=
  exUnsentLabels.foldl (Queue.next (worker codecs)) (Queue.idle .empty)

theorem exUnsent_reachable : (workerLts Utc codecs).Reachable exUnsent :=
  ⟨_, exUnsentLabels, ⟨_, rfl, rfl⟩,
    .cons ⟨trivial, rfl⟩ (.cons ⟨trivial, rfl⟩ (.cons ⟨⟨trivial, rfl⟩, rfl⟩ (.nil _)))⟩

def exUnsentWork : Work Utc :=
  .finishes exRaising ⟨none, none⟩ 1 (exWorkerStamp "event-3") (exWorkerStamp "event-4")

/-- The handler raises after the save, and the approval is dropped. -/
theorem exUnsent_attempt : ((worker codecs).attempt exUnsentWork (encoded exApproval)
      exUnsent.store).sent = [] ∧
    ((worker codecs).attempt exUnsentWork (encoded exApproval) exUnsent.store).ending ≠ .lost := by
  obtain ⟨e, hlost, ⟨hno, -⟩ | ⟨message, hread, -, -, h⟩⟩ := attempt_finishes codecs exRaising
    ⟨none, none⟩ 1 (exWorkerStamp "event-3") (exWorkerStamp "event-4") (encoded exApproval)
    exUnsent.store
  · exact absurd exApproval_read (hno _)
  · rw [exApproval_read, Except.ok.injEq] at hread
    subst hread
    have hevent := readEvent_of_toMessage utc_roundTrip exApproval
    have haccepted (o : ServiceOrder Utc) (ho : o.status = .quoteRequested) :
        Accepts exApproval (exWorkerStamp "event-3") (exWorkerStamp "event-4") o _ _ :=
      .called .quoteApproved "quote-1" rfl rfl ho (by rw [ho]; decide)
    obtain ⟨-, hraised⟩ := deliver_accepted (s := exUnsent.store) hevent (by decide) rfl
      (haccepted _ rfl) exRaising
    have hsilent := hraised ⟨_, rfl, rfl⟩
    rw [show (worker codecs).attempt exUnsentWork (encoded exApproval) exUnsent.store = _ from h]
    refine ⟨?_, hlost rfl⟩
    show sentSince _ _ = []
    rw [hsilent]
    exact sentSince_append (List.append_nil _).symm

end ServiceOrderOs.Concurrency
