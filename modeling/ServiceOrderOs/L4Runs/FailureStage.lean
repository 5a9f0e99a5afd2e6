import Mathlib.Tactic.FinCases
import Mathlib.Tactic.IntervalCases
import ServiceOrderOs.L4Runs.EventLog

/-!
# Do failures belong to their stage?

Each forward method checks the stage it is called in; `fail` only refuses
terminal orders, so a failure event is accepted at any stage. A payment
failure that arrives after the execution was requested ends the order as
`PAYMENT_FAILED` while `EXECUTION_REQUESTED` has been published.

* `stageOk_after`: which stages a failure may meet for its status to belong.
* `failure_stage_iff`: over a run the failure statuses belong to their stage
  exactly when every failure event meets an order at its own stage.
-/
namespace ServiceOrderOs.Runs
open Core Py Domain App

variable {T : Type}

/-- What the documentation says of the failure statuses (docs/architecture/fase4-final.md:105-112),
for an order in status `st` with these statuses in its history. -/
def StageOk (st : ServiceOrderStatus) (sts : List ServiceOrderStatus) : Prop :=
  (st = .paymentFailed → .executionRequested ∉ sts) ∧ (st = .quoteFailed → .quoteApproved ∉ sts) ∧
    (st = .executionEnqueueFailed ∨ st = .executionFailed → .executionRequested ∈ sts)

instance (st : ServiceOrderStatus) (sts : List ServiceOrderStatus) : Decidable (StageOk st sts) :=
  inferInstanceAs (Decidable (_ ∧ _ ∧ _))

/-- Every failure status belongs to its stage, and no execution was requested
of an order in `PAYMENT_FAILED`. -/
def FailuresInStage (s : Sys T) : Prop :=
  ∀ id o, s.orders.find id = some o → StageOk o.status o.statuses ∧
    (o.status = .paymentFailed → ∀ e ∈ s.log, e.correlationId = id →
      e.eventType ≠ "EXECUTION_REQUESTED")

/-- The stages a failure event is about; the other events have none. -/
def failureStages : SagaEvent → Option (List ServiceOrderStatus)
  | .quoteFailed => some [.quoteRequested]
  | .paymentFailed => some [.quoteRequested, .quoteApproved, .paymentPending]
  | .executionEnqueueFailed | .executionFailed => some [.executionRequested, .executionInProgress]
  | _ => none

variable [Runtime T]

/-- If the call executes a failure event on an order that is not terminal, the
order is at a stage of that failure. -/
def InStage (s : Sys T) (l : Call T) : Prop :=
  ∀ event k sts o, l.Executes s event → event.eventType = k.type → failureStages k = some sts →
    s.orders.find (HandleSagaEventUseCase.serviceOrderId event) = some o →
    o.status ∉ terminalStatuses → o.status ∈ sts

/-! ## One step -/

omit [Runtime T] in
/-- An order at rest that is not terminal has recorded 2, 3, 4, 6 or 7 stages. -/
theorem settled_rests {o : ServiceOrder T} (h : Settled o) (ht : o.status ∉ terminalStatuses) :
    ∃ n ∈ [2, 3, 4, 6, 7], o.statuses = stages.take n ∧
      (stages.take n).getLast? = some o.status := by
  have hp : o.statuses <+: stages :=
    h.wellFormed.trail.on_of_last h.wellFormed.last fun hf => ht ((terminal_iff _).mpr (.inr hf))
  have hlast := h.wellFormed.last
  have htake := List.prefix_iff_eq_take.mp hp
  have hlen : o.statuses.length ≤ 8 := hp.length_le
  generalize o.statuses.length = n at *
  rw [htake] at hlast
  refine ⟨n, ?_, htake, hlast⟩
  have h1 := h.notOpened
  have h2 := h.notConfirmed
  -- the other lengths: none, `OPENED`, `PAYMENT_CONFIRMED` and `COMPLETED`
  interval_cases n <;> simp [stages] at hlast <;> first | decide | skip
  · exact absurd hlast.symm h1
  · exact absurd hlast.symm h2
  · exact absurd (hlast ▸ by decide) ht

omit [Runtime T] in
/-- A failure event belongs to its stage exactly when it meets one of its own
stages: four events, five statuses an order that is not terminal rests in. -/
theorem stageOk_after {o : ServiceOrder T} (h : Settled o) (ht : o.status ∉ terminalStatuses)
    {k : SagaEvent} {sts : List ServiceOrderStatus} (hk : failureStages k = some sts)
    (arg : String) (g : Stamp T) :
    StageOk (after (k.call arg g) o).status (after (k.call arg g) o).statuses ↔
      o.status ∈ sts := by
  have hend : (after (k.call arg g) o).statuses = o.statuses ++ [(k.call arg g).target] := by
    simp [after]
  rw [hend, show (after (k.call arg g) o).status = (k.call arg g).target from rfl]
  obtain ⟨n, hn, hs, hl⟩ := settled_rests h ht
  rw [hs]
  generalize o.status = st at *
  cases k <;> simp only [failureStages, Option.some.injEq, reduceCtorEq] at hk <;> subst hk <;>
    simp only [SagaEvent.call, MethodCall.target] <;>
    fin_cases hn <;> cases hl <;> decide

omit [Runtime T] in
theorem stageOk_of_not_failure {st : ServiceOrderStatus} (h : ¬ IsFailure st)
    (sts : List ServiceOrderStatus) : StageOk st sts := by
  refine ⟨fun e => ?_, fun e => ?_, fun e => ?_⟩
  · exact absurd (e ▸ by decide) h
  · exact absurd (e ▸ by decide) h
  · rcases e with e | e <;> exact absurd (e ▸ by decide) h

omit [Runtime T] in
theorem target_not_failure {k : SagaEvent} (hk : failureStages k = none) (arg : String)
    (g : Stamp T) : ¬ IsFailure (k.call arg g).target := by
  cases k <;> first
    | (cases hk; done)
    | (simp only [SagaEvent.call, MethodCall.target]; decide)

/-- A failure event reads nothing from its payload, and its call checks nothing
of the order. -/
theorem failure_ready {k : SagaEvent} {sts : List ServiceOrderStatus}
    (hk : failureStages k = some sts) (event : DomainEvent T) (g : Stamp T)
    (st : ServiceOrderStatus) : k.argument event = some "" ∧ (k.call "" g).Ready st := by
  cases k with
  | quoteFailed | paymentFailed | executionEnqueueFailed | executionFailed =>
    refine ⟨rfl, ?_⟩
    simp only [SagaEvent.call, MethodCall.Ready]; decide
  | _ => cases hk

/-- What holds along a run whose failures are in stage. -/
structure StageInv (s : Sys T) : Prop where
  settled : AllSettled s
  log : LogSound s
  stage : ∀ id o, s.orders.find id = some o → StageOk o.status o.statuses

omit [Runtime T] in
theorem StageInv.failuresInStage {s : Sys T} (h : StageInv s) : FailuresInStage s := by
  refine fun id o hf => ⟨h.stage id o hf, fun hst e he hid ht => ?_⟩
  obtain ⟨-, x, hx, hn⟩ := h.log e he
  simp only [recorded, hid, hf] at hx
  have hty := congrArg (Option.map Notice.eventType) hn
  simp only [Option.map_some, notice, ht] at hty
  have hxs : x.status = .executionRequested := by
    obtain ⟨st, r, t⟩ := x
    revert hty
    cases st <;> simp [noticeOf]
  exact (h.stage id o hf).1 hst (hxs ▸ List.mem_map_of_mem hx)

theorem stageInv_step {mode : RuntimeMode} {s : Sys T} {l : Call T} (h : StageInv s)
    (hl : l.Fresh s) (hin : InStage s l) : StageInv (l.next mode s) := by
  have hc := next_change mode s l hl
  refine ⟨change_settled h.settled hc, change_logSound h.log hc, ?_⟩
  cases hc with
  | stay ho => intro id o hf; rw [ho] at hf; exact h.stage id o hf
  | opened o g _ _ _ ho =>
    intro id o₁ hf
    rw [ho, OrderStore.save_find] at hf
    split at hf
    · have hq : ¬ IsFailure .quoteRequested := by decide
      cases hf; exact stageOk_of_not_failure hq _
    · exact h.stage id o₁ hf
  | moved event g g' o o' out he hfo ha ho =>
    intro id o₁ hf
    rw [ho, OrderStore.save_find] at hf
    split at hf
    · cases hf
      cases ha with
      | noted => exact h.stage _ _ hfo
      | called k arg ht _ hr hnt =>
        cases hk : failureStages k with
        | none => exact stageOk_of_not_failure (target_not_failure hk arg g) _
        | some sts =>
          exact (stageOk_after (h.settled _ o hfo) hnt hk arg g).mpr
            (hin event k sts o he ht hk hfo hnt)
      | confirmed =>
        have hq : ¬ IsFailure .executionRequested := by decide
        exact stageOk_of_not_failure hq _
    · exact h.stage id o₁ hf

/-- A failure event at a foreign stage is accepted all the same. -/
theorem failure_off_stage {mode : RuntimeMode} {s : Sys T} {l : Call T} (h : AllSettled s)
    (hin : ¬ InStage s l) : ¬ FailuresInStage (l.next mode s) := by
  intro hok
  refine hin fun event k sts o he ht hk hf hnt => ?_
  obtain ⟨g, g', hnext⟩ := executes_next mode he
  obtain ⟨harg, hready⟩ := failure_ready hk event g o.status
  have ho := hnext o _ _ hf (.called k "" ht harg hready hnt)
  have hst := (hok _ _ (by rw [ho]; exact OrderStore.save_find_self ..)).1
  exact (stageOk_after (h _ o hf) hnt hk "" g).mp hst

/-! ## Runs -/

/-- **Failures in stage, exactly when they arrive in stage.** Over any calls
from the empty store, every state reached has each failure status at its stage
if and only if every failure event executed on an order that is not terminal
meets it at one of its own stages. -/
theorem failure_stage_iff (mode : RuntimeMode) (ls : List (Call T)) :
    (sagaLts T mode).Always FailuresInStage .empty ls ↔
      (sagaLts T mode).Along InStage .empty ls := by
  refine Lts.always_iff_along (I := StageInv) (fun _ => StageInv.failuresInStage) ?_ ?_ ?_ ls
  · intro s l s' h hin hs
    obtain ⟨hl, rfl⟩ := hs
    exact stageInv_step h hl hin
  · intro s l s' h hin hs
    obtain ⟨-, rfl⟩ := hs
    exact failure_off_stage h.settled hin
  · exact ⟨nofun, nofun, nofun⟩

/-- The payment is confirmed, the execution requested, and then the payment
fails. -/
def exLateFailure : List (Call Iso) :=
  [exOpen, exApprove, exSaga "PAYMENT_PREFERENCE_CREATED" [("payment_id", .str "payment-1")],
   exSaga "PAYMENT_CONFIRMED" [("payment_id", .str "payment-1")], exSaga "PAYMENT_FAILED" []]

theorem late_payment_failure : ∃ s, (sagaLts Iso .real).Run .empty exLateFailure s ∧
    (∃ o, s.orders.find "os-1" = some o ∧ o.status = .paymentFailed ∧
      .executionRequested ∈ o.statuses) ∧
    "EXECUTION_REQUESTED" ∈ s.log.map (·.eventType) ∧ ¬ FailuresInStage s := by
  refine ⟨_, .cons ⟨rfl, rfl⟩ (.cons ⟨trivial, rfl⟩ (.cons ⟨trivial, rfl⟩
    (.cons ⟨trivial, rfl⟩ (.cons ⟨trivial, rfl⟩ (.nil _))))), ?_, ?_, ?_⟩
  · exact ⟨_, rfl, rfl, by decide⟩
  · decide
  · intro h
    exact absurd (h "os-1" _ rfl).1 (by decide)

end ServiceOrderOs.Runs
