import ServiceOrderOs.L2Domain.Forward

/-!
# What the aggregate promises any caller

`Forward` asks whether calls made in any order keep the documented stages;
they do not. What they do keep is weaker and holds without a condition: the
representation of the object (`RepOk`), the fields no method writes
(`SameIdentity`), and each call on its own (`CallOk`): it raises and nothing
has changed, or it adds one entry and returns an event about this order.

* `repOk_next`, `sameIdentity_next`: one call.
* `callOk`: what a call does, raising or not.
* `aggregate_invariant`: over every sequence of calls.
-/
namespace ServiceOrderOs.Domain
open Py Core

variable {T : Type}

structure RepOk (o : ServiceOrder T) : Prop where
  opened : o.statuses.head? = some .opened
  last : o.statuses.getLast? = some o.status
  terminal : ∀ st ∈ o.statuses.dropLast, st ∉ terminalStatuses

structure SameIdentity (o o' : ServiceOrder T) : Prop where
  serviceOrderId : o'.serviceOrderId = o.serviceOrderId
  customerId : o'.customerId = o.customerId
  vehicleId : o'.vehicleId = o.vehicleId
  description : o'.description = o.description

/-- The result of a call on `o`. -/
def CallOk (o : ServiceOrder T) :
    EStateM.Result PyError (ServiceOrder T) (DomainEvent T) → Prop
  | .error _ o' => o' = o
  | .ok e o' => o.status ∉ terminalStatuses ∧ (∃ entry, o'.history = o.history ++ [entry]) ∧
      e.correlationId = o.serviceOrderId ∧
      e.payload.get? "service_order_id" = some (.str o.serviceOrderId)

theorem SameIdentity.refl (o : ServiceOrder T) : SameIdentity o o := ⟨rfl, rfl, rfl, rfl⟩

/-! ## One call -/

theorem callOk (c : MethodCall T) (o : ServiceOrder T) : CallOk o (c.method.run o) := by
  by_cases h : c.Ready o.status ∧ o.status ∉ terminalStatuses
  · rw [c.run_ok o h.1 h.2]
    exact ⟨h.2, ⟨_, ServiceOrder.moveTo_history ..⟩, rfl, rfl⟩
  · obtain ⟨e, he⟩ := c.run_error o h
    rw [he]; rfl

/-- A terminal order refuses every call. -/
theorem terminal_refuses {o : ServiceOrder T} (h : o.status ∈ terminalStatuses)
    (c : MethodCall T) : ∃ e, c.method.run o = .error e o :=
  c.run_error o fun hc => hc.2 h

theorem RepOk.moveTo {o : ServiceOrder T} (h : RepOk o) (ht : o.status ∉ terminalStatuses)
    (st : ServiceOrderStatus) (r : String) (t : T) : RepOk (o.moveTo st r t) := by
  obtain ⟨l, hl⟩ := List.getLast?_eq_some_iff.mp h.last
  refine ⟨?_, by simp, ?_⟩
  · rw [ServiceOrder.moveTo_statuses, List.head?_append, h.opened]; rfl
  · intro st' hm
    rw [ServiceOrder.moveTo_statuses, List.dropLast_concat] at hm
    have hold := h.terminal
    rw [hl, List.dropLast_concat] at hold
    rw [hl, List.mem_append, List.mem_singleton] at hm
    -- the entry that was last is no longer, and it was not terminal
    rcases hm with hm | rfl
    · exact hold st' hm
    · exact ht

theorem repOk_next {s : Life T} (h : RepOk s.order) (c : MethodCall T) :
    RepOk (s.next c).order := by
  rcases s.next_cases c with he | ⟨-, ht, he⟩
  · rw [he]; exact h
  · rw [he]; exact h.moveTo ht _ _ _

theorem sameIdentity_next {o : ServiceOrder T} {s : Life T} (h : SameIdentity o s.order)
    (c : MethodCall T) : SameIdentity o (s.next c).order := by
  rcases s.next_cases c with he | ⟨-, -, he⟩
  · rw [he]; exact h
  · rw [he]; exact ⟨h.serviceOrderId, h.customerId, h.vehicleId, h.description⟩

theorem terminal_next {s : Life T} (h : s.order.status ∈ terminalStatuses) (c : MethodCall T) :
    s.next c = s := by
  rcases s.next_cases c with he | ⟨-, ht, -⟩
  · exact he
  · exact absurd h ht

/-! ## Runs -/

theorem start_repOk {s : Life T} (h : s.Start) : RepOk s.order := by
  obtain ⟨customerId, vehicleId, description, uuid, now, ho, -⟩ := h
  obtain ⟨-, -, -, ho⟩ := ServiceOrder.open_ok ho
  rw [ho]
  refine ⟨rfl, rfl, fun st hm => ?_⟩
  cases hm

theorem terminal_stays {s s' : Life T} {cs : List (MethodCall T)}
    (hr : (lifeLts T).Run s cs s') (h : s.order.status ∈ terminalStatuses) : s' = s := by
  induction hr with
  | nil => rfl
  | cons hs _ ih =>
    have he := Eq.trans hs (terminal_next h _)
    subst he
    exact ih h

/-- **Representation invariant and method atomicity.** After any sequence of
calls on an order obtained from `open`, raising calls included: the order is
`RepOk` and keeps its ids and description; every further call is `CallOk`; and
once the status is terminal every later call raises. -/
theorem aggregate_invariant (s s' : Life T) (cs : List (MethodCall T)) (h : s.Start)
    (hr : (lifeLts T).Run s cs s') :
    RepOk s'.order ∧ SameIdentity s.order s'.order ∧
      (∀ c : MethodCall T, CallOk s'.order (c.method.run s'.order)) ∧
      (s'.order.status ∈ terminalStatuses → ∀ cs' s'', (lifeLts T).Run s' cs' s'' →
        ∀ c : MethodCall T, ∃ e, c.method.run s''.order = .error e s''.order) := by
  have hinv : RepOk s'.order ∧ SameIdentity s.order s'.order := by
    refine hr.inv (I := fun t : Life T => RepOk t.order ∧ SameIdentity s.order t.order) ?_
      ⟨start_repOk h, .refl _⟩
    intro t c t' ht he
    subst he
    exact ⟨repOk_next ht.1 c, sameIdentity_next ht.2 c⟩
  refine ⟨hinv.1, hinv.2, fun c => callOk c _, fun ht cs' s'' hr' c => ?_⟩
  rw [terminal_stays hr' ht]
  exact terminal_refuses ht c

/-- The happy path ends in `COMPLETED`, which refuses a late failure. -/
theorem aggregate_invariant_completed : ∃ s', exLife.Start ∧
    (lifeLts Nat).Run exLife exCalls s' ∧ s'.order.status = .completed ∧ RepOk s'.order ∧
    ∃ e, (MethodCall.fail .executionFailed "late" exStamp).method.run s'.order =
      .error e s'.order := by
  have hr : (lifeLts Nat).Run exLife exCalls (exCalls.foldl Life.next exLife) :=
    .cons rfl (.cons rfl (.cons rfl (.cons rfl (.cons rfl (.cons rfl (.cons rfl (.nil _)))))))
  obtain ⟨h1, -, -, h4⟩ := aggregate_invariant exLife _ exCalls exLife_start hr
  exact ⟨_, exLife_start, hr, rfl, h1, h4 (by decide) [] _ (.nil _) _⟩

end ServiceOrderOs.Domain
