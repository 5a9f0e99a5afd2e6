import ServiceOrderOs.L4Runs.SagaTable
import ServiceOrderOs.L6Api.ServiceOrderRoutes

/-!
# The status codes of the events endpoint

The route tells a missing order from a refused event by the class of the
exception: `KeyError` is 404, `ValueError` is 400. The repository raises the
first and the methods of the order the second, but the use case also subscripts
the payload, and a key that is missing there is a `KeyError` too.

* `apply_error_kind`: which exception a refused event is.
* `event_status_iff`: when the status says what is the matter.
-/
namespace ServiceOrderOs.Api
open Py Domain App Runs

variable {T : Type} [Runtime T]

/-- The payload has what the type of the event reads. -/
def HasNeeded (event : DomainEvent T) : Prop :=
  ∀ row key, rowOf event.eventType = some row → row.needs = some key →
    (event.payload.get? key).isSome

/-! ## Which exception a refused event is -/

omit [Runtime T] in
theorem method_error {c : MethodCall T} {o o' : ServiceOrder T} {e : PyError}
    (h : c.method.run o = .error e o') : ∃ message, e = .valueError message := by
  cases c with
  | requestQuote g =>
    simp only [MethodCall.method, ServiceOrder.requestQuote_run] at h
    split at h <;> cases h
    exact ⟨_, rfl⟩
  | fail st r g =>
    simp only [MethodCall.method, ServiceOrder.fail_run] at h
    split at h
    · cases h; exact ⟨_, rfl⟩
    · split at h <;> cases h
      exact ⟨_, rfl⟩
  | _ =>
    simp only [MethodCall.method, ServiceOrder.markQuoteApproved, ServiceOrder.markPaymentPending,
      ServiceOrder.requestExecution, ServiceOrder.markPaymentConfirmed,
      ServiceOrder.markExecutionStarted, ServiceOrder.complete, ServiceOrder.staged_run] at h
    split at h
    · cases h; exact ⟨_, rfl⟩
    · split at h <;> cases h
      exact ⟨_, rfl⟩

omit [Runtime T] in
theorem hasNeeded_iff {event : DomainEvent T} {row : Row} (h : rowOf event.eventType = some row) :
    HasNeeded event ↔ ∀ key, row.needs = some key → (event.payload.get? key).isSome := by
  refine ⟨fun hn key hk => hn row key h hk, fun hn row' key hr hk => ?_⟩
  rw [h] at hr
  cases hr
  exact hn key hk

/-- The two methods of `PAYMENT_CONFIRMED`, one after the other. -/
theorem confirmed_error_kind {event : DomainEvent T} {g g' : Stamp T} {o o' : ServiceOrder T}
    {e : PyError} (ht : event.eventType = "PAYMENT_CONFIRMED")
    (h : (HandleSagaEventUseCase.apply event g g').run o = .error e o') :
    (event.payload.get? "payment_id" = none ∧ e = .keyError "payment_id") ∨
      ((event.payload.get? "payment_id").isSome ∧ ∃ message, e = .valueError message) := by
  rw [confirmed_run ht] at h
  simp only [EStateM.run_bind, payloadStr_run] at h
  cases hv : event.payload.get? "payment_id" with
  | none =>
    left
    rw [hv] at h
    cases h
    exact ⟨rfl, rfl⟩
  | some v =>
    right
    refine ⟨rfl, ?_⟩
    rw [hv] at h
    simp only at h
    cases hc : (ServiceOrder.markPaymentConfirmed (v.toStr T) g).run o with
    | error e₁ o₁ =>
      rw [hc] at h
      cases h
      exact method_error (c := .markPaymentConfirmed (v.toStr T) g) hc
    | ok _ o₁ =>
      rw [hc] at h
      cases hc₂ : (ServiceOrder.requestExecution g').run o₁ with
      | error e₂ o₂ =>
        simp only [run_some_error hc₂] at h
        cases h
        exact method_error (c := .requestExecution g') hc₂
      | ok _ o₂ => simp only [run_some_ok hc₂] at h; cases h

/-- **Which exception a refused event is**: a `KeyError` for a key of the
payload that its type reads and that is missing, a `ValueError` otherwise. -/
theorem apply_error_kind {event : DomainEvent T} {g g' : Stamp T} {o o' : ServiceOrder T}
    {e : PyError} (h : (HandleSagaEventUseCase.apply event g g').run o = .error e o') :
    (¬ HasNeeded event ∧ ∃ key, e = .keyError key) ∨
      (HasNeeded event ∧ ∃ message, e = .valueError message) := by
  cases hrow : rowOf event.eventType with
  | none =>
    right
    have hne : ∀ row, rowOf row.eventType = some row → event.eventType ≠ row.eventType := by
      intro row hr ht
      rw [ht, hr] at hrow
      cases hrow
    have hrun := unsupported_run (hne (noteRow "QUOTE_CREATED") rfl) (hne confirmedRow rfl)
      (fun k hk => by rw [hk, rowOf_call] at hrow; cases hrow) g g' o
    rw [hrun] at h
    cases h
    exact ⟨fun row _ hr _ => (by rw [hrow] at hr; cases hr), _, rfl⟩
  | some row =>
    rw [hasNeeded_iff hrow]
    rcases rowOf_cases hrow with ⟨ht, rfl⟩ | ⟨ht, rfl⟩ | ⟨k, ht, rfl⟩
    · unfold HandleSagaEventUseCase.apply at h
      rw [if_pos ht] at h
      cases h
    · rcases confirmed_error_kind ht h with ⟨hv, rfl⟩ | ⟨hv, hm⟩
      · left
        exact ⟨fun hn => (by simpa [hv] using hn "payment_id" rfl), _, rfl⟩
      · right
        exact ⟨fun key hk => (by cases hk; exact hv), hm⟩
    · rw [callRow_payload]
      cases ha : k.argument event with
      | none =>
        left
        obtain ⟨key, hrun⟩ := branch_missing ht ha g g' o
        rw [hrun] at h
        cases h
        exact ⟨Bool.false_ne_true, _, rfl⟩
      | some arg =>
        right
        refine ⟨rfl, ?_⟩
        rw [branch_run ht ha] at h
        cases hc : (k.call arg g).method.run o with
        | error e₁ o₁ =>
          rw [run_some_error hc] at h
          cases h
          exact method_error hc
        | ok _ o₁ => rw [run_some_ok hc] at h; cases h

omit [Runtime T] in
theorem hasNeeded_of_applicable {event : DomainEvent T} {o : ServiceOrder T}
    (h : Applicable event o) : HasNeeded event := by
  obtain ⟨row, hrow, happ⟩ := h
  exact (hasNeeded_iff hrow).mpr happ.payload

/-! ## What the status says -/

/-- The status code of the reply. -/
def statusOf : EStateM.Result RouteError (Sys T) Dict → Nat
  | .ok _ _ => 200
  | .error (.http statusCode _) _ => statusCode
  | .error (.unhandled _) _ => 500

/-- The reply `r` to a request about the order `id`: 404 for an order that is
not stored, 400 for an event that is not applicable to it, 200 for one that is;
nothing is stored or published but with 200. -/
structure StatusTells (event : DomainEvent T) (id : String) (s : Sys T)
    (r : EStateM.Result RouteError (Sys T) Dict) : Prop where
  missing : statusOf r = 404 ↔ s.orders.find id = none
  refused : statusOf r = 400 ↔ ∃ o, s.orders.find id = some o ∧ ¬ Applicable event o
  taken : statusOf r = 200 ↔ ∃ o, s.orders.find id = some o ∧ Applicable event o
  unchanged : statusOf r = 400 ∨ statusOf r = 404 →
    (left r).orders = s.orders ∧ (left r).log = s.log

/-- The publisher sends the event that follows `event` on `o`. -/
def Announced (pub : Publisher T) (event : DomainEvent T) (g g' : Stamp T)
    (o : ServiceOrder T) : Prop :=
  ∀ row e, rowOf event.eventType = some row → row.Applies event o →
    row.follows event g g' o = some e → pub e = none

omit [Runtime T] in
/-- An exception is never answered with 200. -/
theorem statusOf_toRouteError [Runtime T] (e : PyError) (s : Sys T) :
    statusOf (.error (toRouteError T e) s) ≠ 200 := by
  cases e <;> simp [toRouteError, statusOf]

/-- An order that is not stored, in either mode. -/
theorem execute_missing (mode : RuntimeMode) (pub : Publisher T) {event : DomainEvent T}
    (g g' : Stamp T) {s : Sys T}
    (hf : s.orders.find (HandleSagaEventUseCase.serviceOrderId event) = none) :
    ∃ key, (HandleSagaEventUseCase.execute mode pub event g g').run s =
      .error (.keyError key) s := by
  unfold HandleSagaEventUseCase.execute
  simp only [EStateM.run_bind, EStateM.run_get, OrderStore.get, hf]
  exact ⟨_, rfl⟩

/-- What `_apply` raises is what the execution raises. -/
theorem execute_refused (mode : RuntimeMode) (pub : Publisher T) {event : DomainEvent T}
    {g g' : Stamp T} {s : Sys T} {o : ServiceOrder T} {e : PyError}
    (hf : s.orders.find (HandleSagaEventUseCase.serviceOrderId event) = some o)
    (he : (HandleSagaEventUseCase.apply event g g').run o = .error e o) :
    (HandleSagaEventUseCase.execute mode pub event g g').run s = .error e s := by
  have hst : (onStored mode (HandleSagaEventUseCase.apply event g g') o).run s = .error e s := by
    simp only [onStored, EStateM.run] at he ⊢
    simp only [he, touch_of_find mode hf]
  unfold HandleSagaEventUseCase.execute
  simp only [EStateM.run_bind, EStateM.run_get, OrderStore.get, hf, lift_run_ok, hst]

/-- What the order `o` makes of the event, and the reply says of it. -/
inductive Tells (pub : Publisher T) (event : DomainEvent T) (g g' : Stamp T) (s : Sys T)
    (o : ServiceOrder T) (r : EStateM.Result RouteError (Sys T) Dict) : Prop
  | unread (hn : ¬ HasNeeded event) (hs : statusOf r = 404)
  | refused (hn : HasNeeded event) (ha : ¬ Applicable event o) (hs : statusOf r = 400)
      (hl : left r = s)
  | taken (ha : Applicable event o) (hp : Announced pub event g g' o) (hs : statusOf r = 200)
  | unsent (ha : Applicable event o) (hp : ¬ Announced pub event g g' o) (hs : statusOf r ≠ 200)

theorem handleSagaEvent_tells (mode : RuntimeMode) (pub : Publisher T) (serviceOrderId : String)
    (payload : SagaEventRequest) (eventId : String) (occurredAt : T) (g g' : Stamp T) (s : Sys T)
    {o : ServiceOrder T} (hf : s.orders.find (addressed T serviceOrderId payload) = some o) :
    Tells pub (requestEvent serviceOrderId payload eventId occurredAt) g g' s o
      ((handleSagaEvent mode pub serviceOrderId payload eventId occurredAt g g').run s) := by
  set event := requestEvent serviceOrderId payload eventId occurredAt with hevent
  rw [← serviceOrderId_requestEvent serviceOrderId payload eventId occurredAt, ← hevent] at hf
  have hok : ∀ serviceOrder s',
      (HandleSagaEventUseCase.execute mode pub event g g').run s = .ok serviceOrder s' →
      (handleSagaEvent mode pub serviceOrderId payload eventId occurredAt g g').run s =
        .ok (serviceOrderToResponse serviceOrder) s' := by
    intro serviceOrder s' h
    simp only [handleSagaEvent, ← hevent, EStateM.run] at h ⊢
    rw [h]
  have herror : ∀ e s',
      (HandleSagaEventUseCase.execute mode pub event g g').run s = .error e s' →
      (handleSagaEvent mode pub serviceOrderId payload eventId occurredAt g g').run s =
        .error (toRouteError T e) s' := by
    intro e s' h
    simp only [handleSagaEvent, ← hevent, EStateM.run] at h ⊢
    rw [h]
  rcases apply_run event g g' o with ⟨o', out, ha, -⟩ | ⟨hno, e, happly⟩
  · obtain ⟨row, hrow, happ, rfl, rfl⟩ := accepts_iff_row.mp ha
    rcases execute_cases mode pub event g g' s with ⟨_, _, h⟩ | ⟨o₁, o₁', out, hf₁, ha₁, hx⟩
    · exact absurd ha (h o _ _ hf)
    · rw [hf] at hf₁
      cases hf₁
      obtain ⟨rfl, rfl⟩ := ha.unique ha₁
      cases hout : row.follows event g g' o with
      | none =>
        rw [hok _ _ (by rw [hx, hout]; rfl)]
        refine .taken ⟨row, hrow, happ⟩ (fun row₁ e hrow₁ _ he => ?_) rfl
        rw [hrow] at hrow₁
        cases hrow₁
        rw [hout] at he
        cases he
      | some e =>
        have hsent : Announced pub event g g' o ↔ pub e = none := by
          refine ⟨fun h => h row e hrow happ hout, fun h row₁ e₁ hrow₁ _ he => ?_⟩
          rw [hrow] at hrow₁
          cases hrow₁
          rw [hout] at he
          cases he
          exact h
        rw [hout] at hx
        simp only [announce, EStateM.run_bind, publish] at hx
        cases hp : pub e with
        | none =>
          rw [hp] at hx
          rw [hok _ _ hx]
          exact .taken ⟨row, hrow, happ⟩ (hsent.mpr hp) rfl
        | some err =>
          rw [hp] at hx
          rw [herror _ _ hx]
          refine .unsent ⟨row, hrow, happ⟩ (fun h => ?_) (statusOf_toRouteError err _)
          rw [hsent, hp] at h
          cases h
  · have hna : ¬ Applicable event o := by
      intro h
      obtain ⟨row, hrow, happ⟩ := h
      exact hno _ _ (accepts_iff_row.mpr ⟨row, hrow, happ, rfl, rfl⟩)
    rw [herror _ _ (execute_refused mode pub hf happly)]
    rcases apply_error_kind happly with ⟨hn, key, rfl⟩ | ⟨hn, message, rfl⟩
    · exact .unread hn rfl
    · exact .refused hn hna rfl rfl

/-- **When the status says what is the matter.** For every store, path and
body, in either runtime mode and with any publisher: if and only if the order
addressed is not stored, or the payload has what its type reads and the
publisher sends what follows from it. -/
theorem event_status_iff (mode : RuntimeMode) (pub : Publisher T) (serviceOrderId : String)
    (payload : SagaEventRequest) (eventId : String) (occurredAt : T) (g g' : Stamp T)
    (s : Sys T) :
    let event := requestEvent serviceOrderId payload eventId occurredAt
    let id := addressed T serviceOrderId payload
    StatusTells event id s
        ((handleSagaEvent mode pub serviceOrderId payload eventId occurredAt g g').run s) ↔
      ∀ o, s.orders.find id = some o →
        HasNeeded event ∧ (Applicable event o → Announced pub event g g' o) := by
  intro event id
  set r := (handleSagaEvent mode pub serviceOrderId payload eventId occurredAt g g').run s with hr
  cases hf : s.orders.find id with
  | none =>
    refine ⟨fun _ o h => (by cases h), fun _ => ?_⟩
    obtain ⟨key, hx⟩ := execute_missing mode pub g g'
      (show s.orders.find (HandleSagaEventUseCase.serviceOrderId event) = none by
        rw [serviceOrderId_requestEvent]; exact hf)
    have hrun : r = .error (.http 404 (reprStr (Runtime.isprintable T) key)) s := by
      rw [hr]
      simp only [handleSagaEvent, EStateM.run] at hx ⊢
      rw [hx]; rfl
    rw [hrun]
    refine ⟨by simp [statusOf, hf], ?_, ?_, fun _ => ⟨rfl, rfl⟩⟩ <;> simp [statusOf, hf]
  | some o =>
    have htells : Tells pub event g g' s o r :=
      handleSagaEvent_tells mode pub serviceOrderId payload eventId occurredAt g g' s hf
    simp only [Option.some.injEq, forall_eq']
    cases htells with
    | unread hn hs =>
      refine ⟨fun h => ?_, fun h => absurd h.1 hn⟩
      have hmiss := h.missing.mp hs
      rw [hf] at hmiss
      cases hmiss
    | refused hn ha hs hl =>
      refine ⟨fun _ => ⟨hn, fun h => absurd h ha⟩, fun _ => ⟨?_, ?_, ?_, fun _ => ?_⟩⟩
      · simp [hs, hf]
      · simp [hs, hf, ha]
      · simp [hs, hf, ha]
      · rw [hl]; exact ⟨rfl, rfl⟩
    | taken ha hp hs =>
      refine ⟨fun _ => ⟨hasNeeded_of_applicable ha, fun _ => hp⟩, fun _ => ⟨?_, ?_, ?_, fun h => ?_⟩⟩
      · simp [hs, hf]
      · simp [hs, hf, ha]
      · simp [hs, hf, ha]
      · rw [hs] at h; simp at h
    | unsent ha hp hs =>
      exact ⟨fun h => absurd (h.taken.mpr ⟨o, hf, ha⟩) hs, fun h => absurd (h.2 ha) hp⟩

/-- A quote is approved without its id. -/
def exUnquoted : SagaEventRequest where
  eventType := "QUOTE_APPROVED"
  correlationId := "os-1"
  payload := []

/-- The order waits for this event, and the reply is that it does not exist. -/
theorem stored_order_not_found :
    let s := exOpen.next .real Sys.empty
    let r := (handleSagaEvent .real reliable "os-1" exUnquoted "event-2" exNow (exStamp "event-3")
      (exStamp "event-4")).run s
    ¬ StatusTells (requestEvent "os-1" exUnquoted "event-2" exNow) "os-1" s r ∧
      r = .error (.http 404 "'quote_id'") s ∧
      (s.orders.find "os-1").map (·.status) = some .quoteRequested := by
  intro s r
  refine ⟨fun h => ?_, rfl, rfl⟩
  have hmiss := h.missing.mp rfl
  exact absurd (congrArg Option.isSome hmiss) (by decide)

end ServiceOrderOs.Api
