import ServiceOrderOs.L4Runs.Invariant

/-!
# Redelivery without the processed event's record

* `processed_cases`: when `handle` returns `processed`, what the event makes of
  its order is stored.  From then on the event is `Spent`: its order has grown
  from that.
* `spent_inert`: executing a spent event again changes no order and publishes
  nothing, whatever the record of processed events holds.
* `redelivery_harmless`: so at every later point of a run.
-/
namespace ServiceOrderOs.Runs
open Core Py Domain App

variable {T : Type} [Runtime T]

/-- The event has been accepted, and its order's history extends what it left. -/
def Spent (event : DomainEvent T) (s : Sys T) : Prop :=
  ∃ g g' o₁ o₁' out o, Accepts event g g' o₁ o₁' out ∧
    s.orders.find (HandleSagaEventUseCase.serviceOrderId event) = some o ∧
    o₁'.history <+: o.history

/-- Where what the event made of an order is stored, the event is spent. -/
theorem spent_of_saved {event : DomainEvent T} {g g' : Stamp T} {o o' : ServiceOrder T}
    {out : Option (DomainEvent T)} {s s' : Sys T}
    (hf : s.orders.find (HandleSagaEventUseCase.serviceOrderId event) = some o)
    (ha : Accepts event g g' o o' out) (ho : s'.orders = s.orders.save o') : Spent event s' := by
  refine ⟨g, g', o, o', out, o', ha, ?_, List.prefix_rfl⟩
  rw [ho, ← ha.filed hf]
  exact OrderStore.save_find_self ..

/-- What has happened when `handle` returns `processed`. -/
theorem processed_cases {mode : RuntimeMode} {pub : Publisher T} {message : Dict}
    {g g' : Stamp T} {s s' : Sys T}
    (h : (ServiceOrderSagaEventHandler.handle mode pub message g g').run s = .ok .processed s') :
    ∃ event o o' out, ServiceOrderSagaEventHandler.readEvent message = .ok event ∧
      event.eventId ∉ s.processed ∧
      s.orders.find (HandleSagaEventUseCase.serviceOrderId event) = some o ∧
      Accepts event g g' o o' out ∧ s' =
        { orders := s.orders.save o'
          log := s.log ++ out.toList.filter fun e => (pub e).isNone
          processed := insert event.eventId s.processed } := by
  cases hr : ServiceOrderSagaEventHandler.readEvent (T := T) message with
  | error e =>
    rcases ServiceOrderSagaEventHandler.handle_unread hr mode pub g g' s with h' | ⟨e, h'⟩
    all_goals rw [h'] at h; cases h
  | ok event =>
    by_cases hp : event.eventId ∈ s.processed
    · rw [ServiceOrderSagaEventHandler.handle_skipped hr hp] at h; cases h
    · rw [ServiceOrderSagaEventHandler.handle_fresh hr hp] at h
      rcases execute_cases mode pub event g g' s with ⟨e, hx, -⟩ | ⟨o, o', out, hf, ha, hx⟩
      · rw [hx] at h; cases h
      · refine ⟨event, o, o', out, rfl, hp, hf, ha, ?_⟩
        have hst := left_announce pub o' out { s with orders := s.orders.save o' }
        rw [← hx] at hst
        split at h
        · rename_i a s'' he
          cases h
          rw [he] at hst
          simp only [left] at hst
          rw [hst]
        · cases h

theorem spent_inert {event : DomainEvent T} {s : Sys T} (h : Spent event s)
    (hs : AllSettled s) (mode : RuntimeMode) (pub : Publisher T) (g g' : Stamp T) :
    left ((HandleSagaEventUseCase.execute mode pub event g g').run s) = s := by
  obtain ⟨h₁, h₁', o₁, o₁', out₁, o, ha₁, hf, hg⟩ := h
  rcases execute_cases mode pub event g g' s with ⟨e, hx, -⟩ | ⟨o₂, o', out, hf₂, ha, hx⟩
  · rw [hx]; rfl
  · rw [hf, Option.some.injEq] at hf₂
    subst hf₂
    have hq := accepts_not_again (hs _ o hf).wellFormed ha₁ hg ha
    obtain ⟨rfl, rfl⟩ := ha.unique (.noted hq)
    rw [hx, left_announce, OrderStore.save_of_find hf]
    simp

/-- **Redelivery is harmless.** A message that was processed at some point of
a run, delivered again at any later point with any record of processed events,
changes no order and publishes nothing; while its event id is recorded it is
skipped. -/
theorem redelivery_harmless (mode : RuntimeMode) (s₁ s₁' s₂ : Sys T) (pub pub₂ : Publisher T)
    (message : Dict) (g g' h h' : Stamp T) (ls : List (Call T)) (p : Finset String)
    (hs : (sagaLts T mode).Reachable s₁)
    (hm : (ServiceOrderSagaEventHandler.handle mode pub message g g').run s₁ =
      .ok .processed s₁')
    (hr : (sagaLts T mode).Run s₁' ls s₂) :
    let s := { s₂ with processed := p }
    (left ((ServiceOrderSagaEventHandler.handle mode pub₂ message h h').run s)).orders =
        s₂.orders ∧
      (left ((ServiceOrderSagaEventHandler.handle mode pub₂ message h h').run s)).log = s₂.log ∧
      ∃ hd, ServiceOrderSagaEventHandler.header T message = .ok hd ∧ (hd.eventId ∈ p →
        (ServiceOrderSagaEventHandler.handle mode pub₂ message h h').run s =
          .ok .skipped s) := by
  intro s
  obtain ⟨event, o, o', out, he, -, hf, ha, hs₁⟩ := processed_cases hm
  have hsp : Spent event s₁' := spent_of_saved hf ha (by rw [hs₁])
  obtain ⟨hd, hh, -, hid⟩ := ServiceOrderSagaEventHandler.readEvent_ok he
  have hstep : (sagaLts T mode).step s₁ (.deliver pub message g g') s₁' :=
    ⟨trivial, by simp only [Call.next, hm, left]⟩
  have hset : AllSettled s₂ := settled_inductive.reachable s₂ ((hs.step hstep).run hr)
  have hspent : Spent event s := by
    obtain ⟨k, k', o₁, o₁', out, o, ha, hf, hg⟩ := hsp
    obtain ⟨o₂, hf₂, hg₂⟩ := run_grows hr hf
    exact ⟨k, k', o₁, o₁', out, o₂, ha, hf₂, hg.trans hg₂⟩
  have hskip : event.eventId ∈ s.processed →
      (ServiceOrderSagaEventHandler.handle mode pub₂ message h h').run s = .ok .skipped s :=
    fun hp => ServiceOrderSagaEventHandler.handle_skipped he hp mode pub₂ h h'
  have hinert := spent_inert hspent hset mode pub₂ h h'
  by_cases hp : event.eventId ∈ s.processed
  · rw [hskip hp]
    exact ⟨rfl, rfl, hd, hh, fun _ => rfl⟩
  · obtain ⟨ho, hl⟩ := left_handle he hp mode pub₂ h h'
    rw [ho, hl, hinert]
    exact ⟨rfl, rfl, hd, hh, fun hin => absurd (hid ▸ hin) hp⟩

/-- The approval of the quote, as a message of the broker. -/
def exMessage : Dict :=
  [("event_id", .str "event-2"), ("event_type", .str "QUOTE_APPROVED"),
   ("correlation_id", .str "os-1"), ("occurred_at", .str "2026-01-01T00:00:00+00:00"),
   ("payload", .obj [("quote_id", .str "quote-1")])]

/-- Approved by a message whose record is lost: the message is refused. -/
theorem redelivery_harmless_approved :
    let s₁ := exOpen.next .real Sys.empty
    let s₂ :=
      (Call.deliver reliable exMessage (exStamp "event-3") (exStamp "event-4")).next .real s₁
    (ServiceOrderSagaEventHandler.handle .real reliable exMessage (exStamp "event-3")
        (exStamp "event-4")).run s₁ = .ok .processed s₂ ∧
      (left ((ServiceOrderSagaEventHandler.handle .real reliable exMessage (exStamp "event-5")
        (exStamp "event-6")).run { s₂ with processed := ∅ })).log = s₂.log := by
  have hs : (sagaLts Iso .real).Reachable (exOpen.next .real Sys.empty) :=
    ⟨.empty, [exOpen], rfl, .single ⟨rfl, rfl⟩⟩
  exact ⟨rfl, (redelivery_harmless .real _ _ _ reliable reliable exMessage (exStamp "event-3")
    (exStamp "event-4") (exStamp "event-5") (exStamp "event-6") [] ∅ hs rfl (.nil _)).2.1⟩

end ServiceOrderOs.Runs
