import ServiceOrderOs.Core.Trail
import ServiceOrderOs.L2Domain.ServiceOrder

/-!
# Stages of a service order

`stages` is the documented chain (docs/architecture/fase4-final.md:80-84) and
`IsFailure` the four failure statuses, which leave it. A well-formed order
(`WellFormed`) has recorded a trail along the chain that ends in its status.

`MethodCall` is one call of a public method with its arguments.
* `run_ok`, `run_error`: a call either raises and leaves the order alone, or
  records exactly its target status and returns an event about this order.
* `WellFormed.statuses_eq`: the status of a well-formed order that has not
  failed decides its whole history of statuses.
-/
namespace ServiceOrderOs.Domain
open Py Core

variable {T : Type}

def stages : List ServiceOrderStatus :=
  [.opened, .quoteRequested, .quoteApproved, .paymentPending, .paymentConfirmed,
   .executionRequested, .executionInProgress, .completed]

/-- The statuses `fail` accepts. -/
def IsFailure (st : ServiceOrderStatus) : Prop := st ∈ terminalStatuses.erase .completed

instance : DecidablePred IsFailure := fun st =>
  inferInstanceAs (Decidable (st ∈ terminalStatuses.erase .completed))

theorem stages_nodup : stages.Nodup := by decide

theorem stages_not_failure : ∀ st ∈ stages, ¬ IsFailure st := by decide

theorem terminal_iff (st : ServiceOrderStatus) :
    st ∈ terminalStatuses ↔ st = .completed ∨ IsFailure st := by
  cases st <;> decide

structure WellFormed (o : ServiceOrder T) : Prop where
  trail : Trail stages IsFailure o.statuses
  last : o.statuses.getLast? = some o.status

namespace WellFormed
variable {o : ServiceOrder T}

theorem statuses_eq (h : WellFormed o) {a b : List ServiceOrderStatus}
    (hs : stages = a ++ o.status :: b) : o.statuses = a ++ [o.status] :=
  h.trail.eq_of_last stages_nodup hs h.last
    (stages_not_failure _ (by rw [hs]; simp))

/-- Moving on to the next stage. -/
theorem advance (h : WellFormed o) {a b : List ServiceOrderStatus} {st : ServiceOrderStatus}
    (hs : stages = a ++ o.status :: ([st] ++ b)) (r : String) (t : T) :
    WellFormed (o.moveTo st r t) where
  trail := by
    rw [ServiceOrder.moveTo_statuses]
    exact h.trail.advance stages_nodup hs h.last (stages_not_failure _ (by rw [hs]; simp))
  last := by simp

/-- Failing, from any status that is not terminal. -/
theorem leave (h : WellFormed o) (ho : o.status ∉ terminalStatuses) {st : ServiceOrderStatus}
    (hst : IsFailure st) (r : String) (t : T) : WellFormed (o.moveTo st r t) where
  trail := by
    rw [terminal_iff, not_or] at ho
    rw [ServiceOrder.moveTo_statuses]
    exact h.trail.leave h.last ho.2 (by simpa [stages, eq_comm] using ho.1) hst
  last := by simp

end WellFormed

/-! ## Calls of the public methods -/

inductive MethodCall (T : Type) where
  | requestQuote (g : Stamp T)
  | markQuoteApproved (quoteId : String) (g : Stamp T)
  | markPaymentPending (paymentId : String) (g : Stamp T)
  | requestExecution (g : Stamp T)
  | markPaymentConfirmed (paymentId : String) (g : Stamp T)
  | markExecutionStarted (g : Stamp T)
  | complete (g : Stamp T)
  | fail (status : ServiceOrderStatus) (reason : String) (g : Stamp T)

namespace MethodCall

def method : MethodCall T → Method T (DomainEvent T)
  | .requestQuote g => ServiceOrder.requestQuote g
  | .markQuoteApproved q g => ServiceOrder.markQuoteApproved q g
  | .markPaymentPending p g => ServiceOrder.markPaymentPending p g
  | .requestExecution g => ServiceOrder.requestExecution g
  | .markPaymentConfirmed p g => ServiceOrder.markPaymentConfirmed p g
  | .markExecutionStarted g => ServiceOrder.markExecutionStarted g
  | .complete g => ServiceOrder.complete g
  | .fail st r g => ServiceOrder.fail st r g

/-- The status the call moves to when it returns. -/
def target : MethodCall T → ServiceOrderStatus
  | .requestQuote _ => .quoteRequested
  | .markQuoteApproved _ _ => .quoteApproved
  | .markPaymentPending _ _ => .paymentPending
  | .requestExecution _ => .executionRequested
  | .markPaymentConfirmed _ _ => .paymentConfirmed
  | .markExecutionStarted _ => .executionInProgress
  | .complete _ => .completed
  | .fail st _ _ => st

def stamp : MethodCall T → Stamp T
  | .requestQuote g | .markQuoteApproved _ g | .markPaymentPending _ g | .requestExecution g
  | .markPaymentConfirmed _ g | .markExecutionStarted g | .complete g | .fail _ _ g => g

/-- The reason the call records. -/
def reason : MethodCall T → String
  | .requestQuote _ => "Quote requested"
  | .markQuoteApproved _ _ => "Quote approved"
  | .markPaymentPending _ _ => "Payment preference created"
  | .requestExecution _ => "Execution requested"
  | .markPaymentConfirmed _ _ => "Payment confirmed"
  | .markExecutionStarted _ => "Execution started"
  | .complete _ => "Execution completed"
  | .fail _ r _ => r

def eventType : MethodCall T → String
  | .requestQuote _ => "OS_OPENED"
  | .markQuoteApproved _ _ => "QUOTE_APPROVED"
  | .markPaymentPending _ _ => "PAYMENT_PENDING"
  | .requestExecution _ => "EXECUTION_REQUESTED"
  | .markPaymentConfirmed _ _ => "PAYMENT_CONFIRMED"
  | .markExecutionStarted _ => "EXECUTION_STARTED"
  | .complete _ => "OS_COMPLETED"
  | .fail _ _ _ => "OS_COMPENSATION_REQUIRED"

/-- What the payload of the returned event holds beside the order's id. -/
def extra (o : ServiceOrder T) : MethodCall T → Dict
  | .requestQuote _ => [("customer_id", .str o.customerId), ("vehicle_id", .str o.vehicleId),
      ("description", .str o.description)]
  | .markQuoteApproved q _ => [("quote_id", .str q)]
  | .markPaymentPending p _ | .markPaymentConfirmed p _ => [("payment_id", .str p)]
  | .fail st r _ => [("status", .str st.value), ("reason", .str r)]
  | _ => []

/-- What the method itself checks of the status, before `_transition` refuses
terminal orders. -/
def Ready : MethodCall T → ServiceOrderStatus → Prop
  | .requestQuote _, _ => True
  | .markQuoteApproved _ _, st => st = .quoteRequested
  | .markPaymentPending _ _, st => st = .quoteApproved
  | .requestExecution _, st => st = .paymentConfirmed
  | .markPaymentConfirmed _ _, st => st = .paymentPending
  | .markExecutionStarted _, st => st = .executionRequested
  | .complete _, st => st = .executionInProgress
  | .fail st' _ _, _ => IsFailure st'

end MethodCall

/-- The type of the event a method returns when it moves an order to a status;
no method moves to `OPENED`. -/
def announced : ServiceOrderStatus → Option String
  | .opened => none
  | .quoteRequested => some "OS_OPENED"
  | .quoteApproved => some "QUOTE_APPROVED"
  | .paymentPending => some "PAYMENT_PENDING"
  | .paymentConfirmed => some "PAYMENT_CONFIRMED"
  | .executionRequested => some "EXECUTION_REQUESTED"
  | .executionInProgress => some "EXECUTION_STARTED"
  | .completed => some "OS_COMPLETED"
  | .quoteFailed | .paymentFailed | .executionEnqueueFailed | .executionFailed =>
    some "OS_COMPENSATION_REQUIRED"

theorem announced_failure {st : ServiceOrderStatus} (h : IsFailure st) :
    announced st = some "OS_COMPENSATION_REQUIRED" := by
  revert h; cases st <;> decide

/-- A failure is what announces a compensation. -/
theorem announced_ne_compensation (st : ServiceOrderStatus) :
    announced st ≠ some "OS_COMPENSATION_REQUIRED" ↔ ¬ IsFailure st := by
  cases st <;> decide

namespace MethodCall
open ServiceOrder

/-- A call made in the status it asks for records its target and returns an
event about the order. -/
theorem run_ok (c : MethodCall T) (o : ServiceOrder T) (hr : c.Ready o.status)
    (ht : o.status ∉ terminalStatuses) :
    c.method.run o = .ok (o.newEvent c.eventType (c.extra o) c.stamp)
      (o.moveTo c.target c.reason c.stamp.createdAt) := by
  cases c with
  | requestQuote g => simp only [method]; rw [requestQuote_run, if_neg ht]; rfl
  | fail st r g =>
    have hst : st ∈ terminalStatuses.erase .completed := hr
    simp only [method]; rw [fail_run, if_neg (not_not.mpr hst), if_neg ht]; rfl
  | _ =>
    simp only [method, ServiceOrder.markQuoteApproved, ServiceOrder.markPaymentPending,
      ServiceOrder.requestExecution, ServiceOrder.markPaymentConfirmed,
      ServiceOrder.markExecutionStarted, ServiceOrder.complete, staged_run]
    split
    · rename_i hne; exact absurd hr hne
    · rfl

theorem announced_target (c : MethodCall T) {st : ServiceOrderStatus} (hr : c.Ready st) :
    announced c.target = some c.eventType := by
  cases c with
  | fail st' r g => exact announced_failure hr
  | _ => rfl

/-- Any other call raises and leaves the order as it was. -/
theorem run_error (c : MethodCall T) (o : ServiceOrder T)
    (h : ¬ (c.Ready o.status ∧ o.status ∉ terminalStatuses)) :
    ∃ e, c.method.run o = .error e o := by
  cases c with
  | requestQuote g =>
    have ht : o.status ∈ terminalStatuses := by simpa [Ready] using h
    exact ⟨_, by simp only [method]; rw [requestQuote_run, if_pos ht]⟩
  | fail st r g =>
    simp only [method, fail_run]
    by_cases hr : st ∉ terminalStatuses.erase .completed
    · exact ⟨_, if_pos hr⟩
    · have ht : o.status ∈ terminalStatuses := by
        by_contra ht; exact h ⟨not_not.mp hr, ht⟩
      exact ⟨_, by rw [if_neg hr, if_pos ht]⟩
  | _ =>
    simp only [method, ServiceOrder.markQuoteApproved, ServiceOrder.markPaymentPending,
      ServiceOrder.requestExecution, ServiceOrder.markPaymentConfirmed,
      ServiceOrder.markExecutionStarted, ServiceOrder.complete, staged_run]
    split
    · exact ⟨_, rfl⟩
    · rename_i hr
      have ht : o.status ∈ terminalStatuses := by
        by_contra ht; exact h ⟨not_not.mp hr, ht⟩
      exact ⟨_, if_pos ht⟩

end MethodCall

/-! ## Calls on a well-formed order -/

/-- A call other than `fail` moves on to the next stage, `request_quote` from
`OPENED`: one case per method. -/
theorem MethodCall.next_stage (c : MethodCall T) {st : ServiceOrderStatus} (hr : c.Ready st)
    (hf : ¬ IsFailure c.target) (hq : ∀ g, c = .requestQuote g → st = .opened) :
    ∃ a b, stages = a ++ st :: ([c.target] ++ b) := by
  cases c with
  | requestQuote g => exact ⟨[], stages.drop 2, by rw [hq g rfl]; rfl⟩
  | fail st' r g => exact absurd hr hf
  | markQuoteApproved q g =>
    exact ⟨stages.take 1, stages.drop 3, by rw [show st = .quoteRequested from hr]; rfl⟩
  | markPaymentPending p g =>
    exact ⟨stages.take 2, stages.drop 4, by rw [show st = .quoteApproved from hr]; rfl⟩
  | markPaymentConfirmed p g =>
    exact ⟨stages.take 3, stages.drop 5, by rw [show st = .paymentPending from hr]; rfl⟩
  | requestExecution g =>
    exact ⟨stages.take 4, stages.drop 6, by rw [show st = .paymentConfirmed from hr]; rfl⟩
  | markExecutionStarted g =>
    exact ⟨stages.take 5, stages.drop 7, by rw [show st = .executionRequested from hr]; rfl⟩
  | complete g =>
    exact ⟨stages.take 6, stages.drop 8, by rw [show st = .executionInProgress from hr]; rfl⟩

namespace WellFormed
variable {o : ServiceOrder T}

/-- A call that returns keeps an order well formed, `request_quote` when the
order is opened. -/
theorem call (h : WellFormed o) (c : MethodCall T) (hr : c.Ready o.status)
    (ht : o.status ∉ terminalStatuses) (hq : ∀ g, c = .requestQuote g → o.status = .opened) :
    WellFormed (o.moveTo c.target c.reason c.stamp.createdAt) := by
  by_cases hf : IsFailure c.target
  · exact h.leave ht hf _ _
  · obtain ⟨a, b, hs⟩ := c.next_stage hr hf hq
    exact h.advance hs _ _

/-- A failure in the history is where the order stands. -/
theorem status_of_failure (h : WellFormed o) {st : ServiceOrderStatus} (hst : IsFailure st)
    (hm : st ∈ o.statuses) : o.status = st := by
  have hl := h.last
  have ht := h.trail
  generalize o.statuses = l at *
  cases ht with
  | on hp => exact absurd hst (stages_not_failure st (hp.subset hm))
  | @off p x hp _ hx =>
    rw [List.getLast?_concat, Option.some.injEq] at hl
    rcases List.mem_append.mp hm with hm | hm
    · exact absurd hst (stages_not_failure st (hp.subset hm))
    · rw [← hl, List.mem_singleton.mp hm]

/-- A call other than `request_quote` whose target is recorded already is
refused: the order does not stand where the call asks it to. -/
theorem not_again (h : WellFormed o) (c : MethodCall T) (hc : ∀ g, c ≠ .requestQuote g)
    (hm : c.target ∈ o.statuses) (hr : c.Ready o.status) : o.status ∈ terminalStatuses := by
  by_cases hf : IsFailure c.target
  · rw [terminal_iff, h.status_of_failure hf hm]
    exact .inr hf
  · obtain ⟨a, b, hs⟩ := c.next_stage hr hf fun g hg => absurd hg (hc g)
    -- the target lies ahead of the status on the chain, the history behind it
    rw [h.statuses_eq hs] at hm
    have hn := stages_nodup
    rw [hs, List.append_cons, List.nodup_append] at hn
    exact absurd rfl (hn.2.2 _ hm _ (by simp))

end WellFormed
end ServiceOrderOs.Domain
