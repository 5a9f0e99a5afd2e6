import ServiceOrderOs.L4Runs.System

/-!
# The invariant of a saga run

An order at rest in the store is `Settled`: well formed, and never in `OPENED`
or `PAYMENT_CONFIRMED`, the two statuses an execution only passes through.

* `change_settled`: one step keeps every stored order settled.
* `change_grows`: one step only appends to the history of a stored order.
* `saga_run_invariant`: both over every run, in the words of the
  documentation.
* `accepts_not_again`: an event accepted once is accepted again by what the
  order has become only if it is a `QUOTE_CREATED`.
-/
namespace ServiceOrderOs.Runs
open Core Py Domain App

variable {T : Type} [Runtime T]

structure Settled (o : ServiceOrder T) : Prop where
  wellFormed : WellFormed o
  notOpened : o.status ≠ .opened
  notConfirmed : o.status ≠ .paymentConfirmed

def AllSettled (s : Sys T) : Prop := ∀ id o, s.orders.find id = some o → Settled o

/-! ## What acceptance does to an order -/

omit [Runtime T] in
theorem call_not_quote (k : SagaEvent) (arg : String) (g h : Stamp T) :
    k.call arg g ≠ .requestQuote h := by
  cases k <;> nofun

omit [Runtime T] in
theorem call_target_rests (k : SagaEvent) (arg : String) (g : Stamp T) :
    (k.call arg g).target ≠ .opened ∧ (k.call arg g).target ≠ .paymentConfirmed := by
  cases k <;> exact ⟨nofun, nofun⟩

theorem accepts_settled {event : DomainEvent T} {g g' : Stamp T} {o o' : ServiceOrder T}
    {out : Option (DomainEvent T)} (h : Settled o) (ha : Accepts event g g' o o' out) :
    Settled o' := by
  cases ha with
  | noted => exact h
  | called k arg _ _ hr hl =>
    have hw := h.wellFormed.call (k.call arg g) hr hl
      fun g' e => absurd e (call_not_quote k arg g g')
    obtain ⟨h1, h2⟩ := call_target_rests k arg g
    exact ⟨hw, h1, h2⟩
  | confirmed arg _ _ hr =>
    have h1 := h.wellFormed.call (.markPaymentConfirmed (arg.toStr T) g) hr
      (by rw [hr]; decide) nofun
    have h2 := h1.call (.requestExecution g') rfl
      (by rw [ServiceOrder.moveTo_status]; simp [MethodCall.target, terminalStatuses])
      nofun
    exact ⟨h2, nofun, nofun⟩

/-- Only `QUOTE_CREATED` is accepted without an event that follows. -/
theorem accepts_out {event : DomainEvent T} {g g' : Stamp T} {o o' : ServiceOrder T}
    {out : Option (DomainEvent T)} (ha : Accepts event g g' o o' out) :
    out = none ↔ event.eventType = "QUOTE_CREATED" := by
  cases ha with
  | noted ht => exact ⟨fun _ => ht, fun _ => rfl⟩
  | called k _ ht => exact ⟨nofun, fun h => absurd (ht.symm.trans h) k.type_ne.1⟩
  | confirmed _ ht => exact ⟨nofun, fun h => absurd (h.symm.trans ht) (by decide)⟩

theorem accepts_grows {event : DomainEvent T} {g g' : Stamp T} {o o' : ServiceOrder T}
    {out : Option (DomainEvent T)} (ha : Accepts event g g' o o' out) :
    o.history <+: o'.history := by
  cases ha with
  | noted => exact List.prefix_rfl
  | called => exact List.prefix_append _ _
  | confirmed =>
    exact (List.prefix_append _ _).trans (List.prefix_append _ _)

/-- How many entries an accepted event adds. -/
def gain (eventType : String) : Nat :=
  if eventType = "QUOTE_CREATED" then 0 else if eventType = "PAYMENT_CONFIRMED" then 2 else 1

theorem accepts_length {event : DomainEvent T} {h h' : Stamp T} {o o' : ServiceOrder T}
    {out : Option (DomainEvent T)} (ha : Accepts event h h' o o' out) :
    o'.history.length = o.history.length + gain event.eventType := by
  unfold gain
  cases ha with
  | noted ht => rw [if_pos ht]; rfl
  | called k _ ht =>
    rw [if_neg fun h => k.type_ne.1 (ht.symm.trans h),
      if_neg fun h => k.type_ne.2 (ht.symm.trans h), after_history, List.length_append]
    rfl
  | confirmed _ ht =>
    rw [if_neg fun h => absurd (h.symm.trans ht) (by decide), if_pos ht]
    simp only [after_history, List.length_append, List.length_singleton]

/-- An acceptance that publishes changes the status. -/
theorem accepts_status_ne {event e : DomainEvent T} {h h' : Stamp T} {o o' : ServiceOrder T}
    (ha : Accepts event h h' o o' (some e)) : o'.status ≠ o.status := by
  cases ha with
  | called k arg _ _ hr hl =>
    intro hst
    have hst : (k.call arg h).target = o.status := hst
    rw [← hst] at hr hl
    cases k with
    | quoteFailed | paymentFailed | executionEnqueueFailed | executionFailed =>
      simp [SagaEvent.call, MethodCall.target, terminalStatuses] at hl
    | _ => simp [SagaEvent.call, MethodCall.target, MethodCall.Ready] at hr
  | confirmed _ _ _ hr =>
    intro hst
    rw [hr] at hst
    cases hst

/-- Once accepted, an event is accepted by no later state of the order, with
the exception of `QUOTE_CREATED`, which changes nothing. -/
theorem accepts_not_again {event : DomainEvent T} {g g' h h' : Stamp T}
    {o₁ o₁' o o' : ServiceOrder T} {out₁ out : Option (DomainEvent T)} (hw : WellFormed o)
    (h₁ : Accepts event g g' o₁ o₁' out₁) (hg : o₁'.history <+: o.history)
    (ha : Accepts event h h' o o' out) : event.eventType = "QUOTE_CREATED" := by
  have hsub : ∀ st ∈ o₁'.statuses, st ∈ o.statuses := fun st hst =>
    (hg.map (·.status)).subset hst
  cases ha with
  | noted ht => exact ht
  | called k arg ht _ hr hl =>
    cases h₁ with
    | noted ht' => exact ht'
    | called k' arg' ht' =>
      cases SagaEvent.type_injective (ht.symm.trans ht')
      have hm : (k.call arg h).target ∈ o.statuses := by
        refine hsub _ ?_
        have ht : (k.call arg h).target = (k.call arg' g).target := by cases k <;> rfl
        rw [ht]
        simp [after]
      exact absurd (hw.not_again _ (call_not_quote k arg h) hm hr) hl
    | confirmed _ hc => exact absurd (ht.symm.trans hc) k.type_ne.2
  | confirmed v hc _ hr =>
    cases h₁ with
    | noted ht' => exact ht'
    | called k _ ht => exact absurd (ht.symm.trans hc) k.type_ne.2
    | confirmed v' =>
      have hm : ServiceOrderStatus.paymentConfirmed ∈ o.statuses :=
        hsub _ (by simp [after, MethodCall.target])
      have hl := hw.not_again (.markPaymentConfirmed "" h) nofun hm hr
      rw [hr] at hl
      exact absurd hl (by decide)

/-! ## Steps -/

omit [Runtime T] in
theorem allSettled_save {s s' : Sys T} {o : ServiceOrder T} (h : AllSettled s) (ho : Settled o)
    (he : s'.orders = s.orders.save o) : AllSettled s' := by
  intro id o₁ hf
  rw [he, OrderStore.save_find] at hf
  split at hf
  · cases hf; exact ho
  · exact h id o₁ hf

theorem change_settled {s s' : Sys T} {l : Call T} (h : AllSettled s) (hc : Change s l s') :
    AllSettled s' := by
  cases hc with
  | stay ho => intro id o hf; rw [ho] at hf; exact h id o hf
  | opened o g hs hst _ ho =>
    have hw : WellFormed o := ⟨by rw [hs]; exact .on (by decide), by rw [hs, hst]; rfl⟩
    have hw' := hw.call (.requestQuote g) trivial (by rw [hst]; decide) fun _ _ => hst
    exact allSettled_save h ⟨hw', nofun, nofun⟩ ho
  | moved event g g' o o' out _ hfo ha ho =>
    exact allSettled_save h (accepts_settled (h _ _ hfo) ha) ho

theorem change_grows {s s' : Sys T} {l : Call T} (hc : Change s l s') {id : String}
    {o : ServiceOrder T} (hf : s.orders.find id = some o) :
    ∃ o', s'.orders.find id = some o' ∧ o.history <+: o'.history := by
  cases hc with
  | stay ho => exact ⟨o, by rw [ho]; exact hf, List.prefix_rfl⟩
  | opened o₁ g _ _ hno ho =>
    have hne : id ≠ o₁.serviceOrderId := fun e => by rw [e, hno] at hf; cases hf
    refine ⟨o, ?_, List.prefix_rfl⟩
    rw [ho]
    exact (OrderStore.save_find_of_ne _ (after _ o₁) hne).trans hf
  | moved event g g' o₁ o₁' out _ hfo ha ho =>
    by_cases hid : id = o₁'.serviceOrderId
    · have he : o₁ = o := by
        rw [ha.id_eq, s.orders.filed _ _ hfo] at hid
        rw [hid, hfo] at hf; exact Option.some.inj hf
      refine ⟨o₁', ?_, he ▸ accepts_grows ha⟩
      rw [ho, OrderStore.save_find, if_pos hid]
    · refine ⟨o, ?_, List.prefix_rfl⟩
      rw [ho, OrderStore.save_find_of_ne _ _ hid]; exact hf

/-! ## Runs -/

section Runs
variable {mode : RuntimeMode} {s s' : Sys T}

theorem settled_inductive : (sagaLts T mode).Inductive AllSettled where
  init := by
    intro s he id o hf
    subst he
    cases hf
  step := by
    intro s l s' h hs
    obtain ⟨hl, rfl⟩ := hs
    exact change_settled h (next_change mode s l hl)

/-- A stored order stays in the store, and its history only grows. -/
theorem run_grows {ls : List (Call T)} (hr : (sagaLts T mode).Run s ls s') {id : String}
    {o : ServiceOrder T} (hf : s.orders.find id = some o) :
    ∃ o', s'.orders.find id = some o' ∧ o.history <+: o'.history := by
  induction hr generalizing o with
  | nil => exact ⟨o, hf, List.prefix_rfl⟩
  | cons hs _ ih =>
    obtain ⟨hl, rfl⟩ := hs
    obtain ⟨o₁, hf₁, hp₁⟩ := change_grows (next_change mode _ _ hl) hf
    obtain ⟨o₂, hf₂, hp₂⟩ := ih hf₁
    exact ⟨o₂, hf₂, hp₁.trans hp₂⟩

end Runs

/-- What the documentation says of a stored order: its statuses are a part of
the documented chain from the start, then at most one failure, which does not
follow `COMPLETED`; its status is the last one recorded, and neither of the
two it only passes through. -/
structure OnSaga (o : ServiceOrder T) : Prop where
  statuses : ∃ p fs, o.statuses = p ++ fs ∧ p <+: stages ∧
    (fs = [] ∨ ∃ f, fs = [f] ∧ IsFailure f ∧ .completed ∉ p)
  last : o.statuses.getLast? = some o.status
  rests : o.status ≠ .opened ∧ o.status ≠ .paymentConfirmed

omit [Runtime T] in
theorem Settled.onSaga {o : ServiceOrder T} (h : Settled o) : OnSaga o where
  statuses := by
    have ht := h.wellFormed.trail
    generalize o.statuses = l at *
    cases ht with
    | on hp => exact ⟨l, [], by simp, hp, .inl rfl⟩
    | @off p f hp hne hf =>
      refine ⟨p, [f], rfl, hp, .inr ⟨f, rfl, hf, fun hm => hne ?_⟩⟩
      -- `COMPLETED` is the last stage, so a part that has it is the whole chain
      obtain ⟨r, hr⟩ := hp
      cases r with
      | nil => simpa using hr
      | cons x r =>
        have hlast : (x :: r).getLast? = some .completed := by
          have := congrArg List.getLast? hr
          rw [List.getLast?_append_of_ne_nil _ (by simp)] at this
          exact this
        have hn := stages_nodup
        rw [← hr, List.nodup_append] at hn
        exact absurd rfl (hn.2.2 _ hm _ (List.mem_of_getLast? hlast))
  last := h.wellFormed.last
  rests := ⟨h.notOpened, h.notConfirmed⟩

/-- **Saga run invariant.** In every state of a run from the empty store each
stored order is on the documented chain, and whatever follows only appends to
its history. -/
theorem saga_run_invariant (mode : RuntimeMode) (s : Sys T)
    (h : (sagaLts T mode).Reachable s) :
    (∀ id o, s.orders.find id = some o → OnSaga o) ∧
    ∀ ls s', (sagaLts T mode).Run s ls s' → ∀ id o, s.orders.find id = some o →
      ∃ o', s'.orders.find id = some o' ∧ o.history <+: o'.history :=
  ⟨fun id o hf => (settled_inductive.reachable s h id o hf).onSaga,
    fun _ _ hr _ _ hf => run_grows hr hf⟩

theorem saga_run_invariant_approved : (sagaLts Iso .real).Reachable exState ∧
    ∃ o, exState.orders.find "os-1" = some o ∧
      o.statuses = [.opened, .quoteRequested, .quoteApproved] ∧ OnSaga o :=
  have h := reachable_of_reliable exState_reachable
  ⟨h, _, rfl, rfl, (saga_run_invariant .real exState h).1 "os-1" _ rfl⟩

end ServiceOrderOs.Runs
