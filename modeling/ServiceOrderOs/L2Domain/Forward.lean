import ServiceOrderOs.Core.Lts
import ServiceOrderOs.L2Domain.Lifecycle

/-!
# Does the aggregate only move forward?

`Life` is an order obtained from `ServiceOrder.open` with the events its
methods have returned so far; a step is one call of a public method, a call
that raises included.

`request_quote` is the one method that does not check the stage it is called
in, so it takes an order from any status short of a terminal one back to
`QUOTE_REQUESTED` and returns `OS_OPENED` again (`back_to_quote_requested`).

* `inv_next`: while every `request_quote` meets an opened or a terminal order
  (`QuoteOk`), the order stays well formed and each returned event is the one
  its history entry announces.
* `forward_iff`: the order moves forward in every state of a run exactly when
  every step of the run is `QuoteOk`.
-/
namespace ServiceOrderOs.Domain
open Py Core

variable {T : Type}

structure Life (T : Type) where
  order : ServiceOrder T
  events : List (DomainEvent T)

/-- One call of a public method; an event that is returned is kept. -/
def Life.next (s : Life T) (c : MethodCall T) : Life T :=
  match c.method.run s.order with
  | .ok e o => ⟨o, s.events ++ [e]⟩
  | .error _ o => ⟨o, s.events⟩

def Life.Start (s : Life T) : Prop :=
  ∃ customerId vehicleId description uuid now,
    ServiceOrder.open customerId vehicleId description uuid now = .ok s.order ∧ s.events = []

def lifeLts (T : Type) : Lts (Life T) (MethodCall T) where
  init := Life.Start
  step s c s' := s' = s.next c

/-- The statuses short of a failure stand in the documented order without
repetition, and no event other than a compensation was returned twice. -/
structure Life.Forward (s : Life T) : Prop where
  stages : (s.order.statuses.filter fun st => ¬ IsFailure st).Sublist stages
  events : ((s.events.map (·.eventType)).filter (· ≠ "OS_COMPENSATION_REQUIRED")).Nodup

/-- `request_quote` is called on an opened order, or on a terminal one. -/
def Life.QuoteOk (s : Life T) : MethodCall T → Prop
  | .requestQuote _ => s.order.status = .opened ∨ s.order.status ∈ terminalStatuses
  | _ => True

/-! ## One step -/

theorem Life.next_cases (s : Life T) (c : MethodCall T) :
    s.next c = s ∨ (c.Ready s.order.status ∧ s.order.status ∉ terminalStatuses ∧
      s.next c = ⟨s.order.moveTo c.target c.reason c.stamp.createdAt,
        s.events ++ [s.order.newEvent c.eventType (c.extra s.order) c.stamp]⟩) := by
  by_cases h : c.Ready s.order.status ∧ s.order.status ∉ terminalStatuses
  · right
    exact ⟨h.1, h.2, by simp only [next]; rw [c.run_ok s.order h.1 h.2]⟩
  · left
    obtain ⟨e, he⟩ := c.run_error s.order h
    simp only [next]; rw [he]

/-- Well formed, and the events returned so far are those the history
announces: none for the first entry, one for each later one. -/
structure Life.Inv (s : Life T) : Prop where
  wellFormed : WellFormed s.order
  opened : s.order.statuses.head? = some .opened
  events : s.events.map (fun e => some e.eventType) = s.order.statuses.tail.map announced

theorem Life.start_inv {s : Life T} (h : s.Start) : s.Inv := by
  obtain ⟨customerId, vehicleId, description, uuid, now, ho, he⟩ := h
  obtain ⟨-, -, -, ho⟩ := ServiceOrder.open_ok ho
  have hs : s.order.statuses = [.opened] := by rw [ho]; rfl
  have hst : s.order.status = .opened := by rw [ho]
  refine ⟨⟨?_, ?_⟩, ?_, ?_⟩
  · rw [hs]; exact .on (by decide)
  · rw [hs, hst]; rfl
  · rw [hs]; rfl
  · rw [hs, he]; rfl

theorem Life.inv_next {s : Life T} (h : s.Inv) (c : MethodCall T) (hq : s.QuoteOk c) :
    (s.next c).Inv := by
  rcases s.next_cases c with he | ⟨hr, ht, he⟩
  · rw [he]; exact h
  · rw [he]
    have hne : s.order.statuses ≠ [] := fun e => by
      have := h.opened; rw [e] at this; cases this
    have hquote : ∀ g, c = .requestQuote g → s.order.status = .opened := by
      intro g he
      subst he
      exact hq.resolve_right ht
    refine ⟨h.wellFormed.call c hr ht hquote, ?_, ?_⟩
    · simp only [ServiceOrder.moveTo_statuses]
      rw [List.head?_append_of_ne_nil _ hne]; exact h.opened
    · simp only [ServiceOrder.moveTo_statuses, List.map_append, h.events]
      rw [List.tail_append_of_ne_nil hne, List.map_append]
      simp [ServiceOrder.newEvent, c.announced_target hr]

theorem Life.forward_of_inv {s : Life T} (h : s.Inv) : s.Forward := by
  have hpre := h.wellFormed.trail.filter_prefix stages_not_failure
  refine ⟨hpre.sublist, ?_⟩
  -- the types returned are the announcements of a part of the history, and no
  -- two stages announce the same type
  have hsub : (s.order.statuses.tail.filter fun st =>
      announced st ≠ some "OS_COMPENSATION_REQUIRED").Sublist stages := by
    simp only [announced_ne_compensation]
    exact ((List.tail_sublist _).filter _).trans hpre.sublist
  have hnodup := (hsub.map announced).nodup (by decide : (stages.map announced).Nodup)
  apply List.Nodup.of_map some
  have hmap : ((s.events.map (·.eventType)).filter (· ≠ "OS_COMPENSATION_REQUIRED")).map some =
      (s.order.statuses.tail.filter fun st =>
        announced st ≠ some "OS_COMPENSATION_REQUIRED").map announced := by
    calc _ = (s.events.map fun e => some e.eventType).filter
          (· ≠ some "OS_COMPENSATION_REQUIRED") := by simp [List.filter_map, Function.comp_def]
      _ = (s.order.statuses.tail.map announced).filter
          (· ≠ some "OS_COMPENSATION_REQUIRED") := by rw [h.events]
      _ = _ := by rw [List.filter_map]; rfl
  rw [hmap]; exact hnodup

/-- A well-formed order past `OPENED` that is not terminal has recorded
`QUOTE_REQUESTED`. -/
theorem quoteRequested_mem {o : ServiceOrder T} (h : WellFormed o) (h0 : o.status ≠ .opened)
    (ht : o.status ∉ terminalStatuses) : .quoteRequested ∈ o.statuses := by
  rw [terminal_iff, not_or] at ht
  have hp := h.trail.on_of_last h.last ht.2
  have h2 : stages.take 2 <+: o.statuses := by
    refine List.prefix_of_prefix_length_le (List.take_prefix 2 stages) hp ?_
    have hl := h.last
    obtain ⟨r, hr⟩ := hp
    match hs : o.statuses with
    | [] => rw [hs] at hl; cases hl
    | [x] =>
      rw [hs] at hl hr
      simp only [List.getLast?_singleton, Option.some.injEq] at hl
      simp only [stages, List.singleton_append, List.cons.injEq] at hr
      exact absurd (hl.symm.trans hr.1) h0
    | _ :: _ :: _ => simp [stages]
  exact h2.subset (by decide)

/-- A step that is not `QuoteOk` records `QUOTE_REQUESTED` a second time. -/
theorem Life.back_to_quote_requested {s : Life T} (h : s.Inv) {c : MethodCall T}
    (hq : ¬ s.QuoteOk c) : 2 ≤ (s.next c).order.statuses.count .quoteRequested := by
  cases c with
  | requestQuote g =>
    have hno : s.order.status ≠ .opened ∧ s.order.status ∉ terminalStatuses := not_or.mp hq
    rcases s.next_cases (.requestQuote g) with he | ⟨-, -, he⟩
    · have hrun : s.next (.requestQuote g) ≠ s := by
        simp only [next, MethodCall.run_ok (.requestQuote g) s.order trivial hno.2]
        intro e
        have hl := congrArg (fun s : Life T => s.events.length) e
        simp at hl
      exact absurd he hrun
    · rw [he]
      have hm := quoteRequested_mem h.wellFormed hno.1 hno.2
      have := List.count_pos_iff.mpr hm
      simp only [ServiceOrder.moveTo_statuses, List.count_append, MethodCall.target,
        List.count_singleton_self]
      omega
  | _ => exact absurd trivial hq

theorem Life.not_forward {s : Life T} (h : 2 ≤ s.order.statuses.count .quoteRequested) :
    ¬ s.Forward := by
  intro hf
  have hc := hf.stages.count_le .quoteRequested
  rw [List.count_filter (by decide)] at hc
  have : stages.count .quoteRequested = 1 := by decide
  omega

/-! ## Runs -/

/-- **Forward exactly without a late `request_quote`.** Over any sequence of
calls on an order obtained from `open`, the order moves forward in every state
reached if and only if each `request_quote` met an opened or a terminal
order. -/
theorem forward_iff (s : Life T) (cs : List (MethodCall T)) (h : s.Start) :
    (lifeLts T).Always Life.Forward s cs ↔ (lifeLts T).Along Life.QuoteOk s cs := by
  refine Lts.always_iff_along (I := Life.Inv) (fun _ => Life.forward_of_inv) ?_ ?_
    (Life.start_inv h) cs
  · intro s c s' hI hC he
    subst he
    exact Life.inv_next hI c hC
  · intro s c s' hI hC he
    subst he
    exact Life.not_forward (Life.back_to_quote_requested hI hC)

/-! ## A run that goes back -/

def exStamp : Stamp Nat := ⟨0, "event-1", 0⟩

def exLife : Life Nat :=
  ⟨⟨"customer-1", "vehicle-1", "Brake inspection", "os-1", .opened,
    [⟨.opened, "Service order opened", 0⟩]⟩, []⟩

theorem exLife_start : exLife.Start :=
  ⟨"customer-1", "vehicle-1", "Brake inspection", "os-1", 0, rfl, rfl⟩

/-- The happy path, called method by method. -/
def exCalls : List (MethodCall Nat) :=
  [.requestQuote exStamp, .markQuoteApproved "quote-1" exStamp,
   .markPaymentPending "payment-1" exStamp, .markPaymentConfirmed "payment-1" exStamp,
   .requestExecution exStamp, .markExecutionStarted exStamp, .complete exStamp]

theorem exCalls_forward : exLife.Start ∧ (lifeLts Nat).Along Life.QuoteOk exLife exCalls ∧
    (lifeLts Nat).Always Life.Forward exLife exCalls := by
  have hq : (lifeLts Nat).Along Life.QuoteOk exLife exCalls := by
    rw [exCalls, Lts.along_cons]
    refine fun s hs => ⟨.inl rfl, ?_⟩
    -- no other call is a `request_quote`
    intro ls₁ c ls₂ s₁ s₂ he _ _
    have hc : c ∈ exCalls.tail := by rw [exCalls, List.tail_cons, he]; simp
    simp only [exCalls, List.tail_cons, List.mem_cons, List.not_mem_nil, or_false] at hc
    rcases hc with rfl | rfl | rfl | rfl | rfl | rfl <;> trivial
  exact ⟨exLife_start, hq, (forward_iff exLife exCalls exLife_start).mpr hq⟩

/-- Asked for a quote again after the approval, the order is back in
`QUOTE_REQUESTED` and `OS_OPENED` is returned twice. -/
theorem late_request_quote : exLife.Start ∧ ∃ s',
    (lifeLts Nat).Run exLife
      [.requestQuote exStamp, .markQuoteApproved "quote-1" exStamp, .requestQuote exStamp] s' ∧
    s'.order.statuses = [.opened, .quoteRequested, .quoteApproved, .quoteRequested] ∧
    s'.events.map (·.eventType) = ["OS_OPENED", "QUOTE_APPROVED", "OS_OPENED"] ∧ ¬ s'.Forward :=
  ⟨exLife_start, _, .cons rfl (.cons rfl (.cons rfl (.nil _))), rfl, rfl,
    Life.not_forward (by decide)⟩

end ServiceOrderOs.Domain
