import ServiceOrderOs.L4Runs.System

/-!
# The steps of an execution

In real mode several processes work on one database, so an execution is not
one step: it gets the order, applies the event to its private copy, saves the
row and publishes (`ExecPc`); a handler checks the processed events before and
records its event after (`HandlerPc`). One step is one call of a repository or
of the publisher, or the work on the private copy; it is atomic, and the
publisher does not fail.

* `ExecPc.held`: where an execution stands after a number of turns is decided
  by the order it got.
* `exec_alone`, `handler_alone`: uninterrupted, the steps are
  `HandleSagaEventUseCase.execute` and `ServiceOrderSagaEventHandler.handle`.
-/
namespace ServiceOrderOs.Concurrency
open Py Domain App Runs

variable {T : Type} [Runtime T]

/-- The next step of an execution, with what it holds. The status the order had
when it was read is kept beside the code's own variables. -/
inductive ExecPc (T : Type) where
  | get
  | apply (o : ServiceOrder T)
  | save (prior : ServiceOrderStatus) (o : ServiceOrder T) (out : Option (DomainEvent T))
  | publish (prior : ServiceOrderStatus) (o : ServiceOrder T) (out : Option (DomainEvent T))
  | returned (prior : ServiceOrderStatus) (o : ServiceOrder T) (out : Option (DomainEvent T))
  | raised (e : PyError)

/-- mirrors src/application/use_cases.py:79-88 -/
def ExecPc.step (event : DomainEvent T) (g g' : Stamp T) : ExecPc T → Sys T → ExecPc T × Sys T
  | .get, s =>
    match s.orders.get (HandleSagaEventUseCase.serviceOrderId event) with
    | .ok o => (.apply o, s)
    | .error e => (.raised e, s)
  | .apply o, s =>
    match (HandleSagaEventUseCase.apply event g g').run o with
    | .ok out o' => (.save o.status o' out, s)
    | .error e _ => (.raised e, s)
  | .save prior o out, s => (.publish prior o out, { s with orders := s.orders.save o })
  | .publish prior o out, s => (.returned prior o out, { s with log := s.log ++ out.toList })
  | .returned prior o out, s => (.returned prior o out, s)
  | .raised e, s => (.raised e, s)

/-- The next step of a handler; its event is read from the message in the first. -/
inductive HandlerPc (T : Type) where
  | check
  | executing (event : DomainEvent T) (pc : ExecPc T)
  | finished (r : Except PyError Handled)

/-- mirrors src/application/event_handlers.py:26-45 -/
def HandlerPc.step (message : Dict) (g g' : Stamp T) :
    HandlerPc T → Sys T → HandlerPc T × Sys T
  | .check, s =>
    match ServiceOrderSagaEventHandler.header T message with
    | .error e => (.finished (.error e), s)
    | .ok h =>
      if h.eventId ∈ s.processed then (.finished (.ok .skipped), s)
      else match ServiceOrderSagaEventHandler.toEvent h message with
        | .error e => (.finished (.error e), s)
        | .ok event => (.executing event .get, s)
  | .executing event (.returned _ _ _), s =>
    (.finished (.ok .processed), { s with processed := insert event.eventId s.processed })
  | .executing _ (.raised e), s => (.finished (.error e), s)
  | .executing event pc, s =>
    let (pc', s') := pc.step event g g' s
    (.executing event pc', s')
  | .finished r, s => (.finished r, s)

/-! ## What an order is worth to an event -/

/-- The order and the event an execution makes of the order it got, unless it
is refused. -/
def verdict (event : DomainEvent T) (g g' : Stamp T) (o : ServiceOrder T) :
    Option (ServiceOrder T × Option (DomainEvent T)) :=
  match (HandleSagaEventUseCase.apply event g g').run o with
  | .ok out o' => some (o', out)
  | .error _ _ => none

theorem verdict_eq_some {event : DomainEvent T} {g g' : Stamp T} {o o' : ServiceOrder T}
    {out : Option (DomainEvent T)} :
    verdict event g g' o = some (o', out) ↔ Accepts event g g' o o' out := by
  rw [← apply_ok_iff]
  unfold verdict
  cases (HandleSagaEventUseCase.apply event g g').run o with
  | ok out' o'' => simp [and_comm]
  | error => simp

/-- Where an execution stands after `n` turns, of which the first got `o`. -/
def ExecPc.held (event : DomainEvent T) (g g' : Stamp T) (o : ServiceOrder T) : Nat → ExecPc T
  | 0 => .get
  | 1 => .apply o
  | n + 2 =>
    match (HandleSagaEventUseCase.apply event g g').run o with
    | .error e _ => .raised e
    | .ok out o' =>
      match n with
      | 0 => .save o.status o' out
      | 1 => .publish o.status o' out
      | _ + 2 => .returned o.status o' out

/-- The shared state once an execution that got `o` in state `s` has had `n`
turns and nobody else any. -/
def ExecPc.done (event : DomainEvent T) (g g' : Stamp T) (o : ServiceOrder T) (n : Nat)
    (s : Sys T) : Sys T :=
  match verdict event g g' o with
  | none => s
  | some (o', out) =>
    { s with
      orders := if 3 ≤ n then s.orders.save o' else s.orders
      log := if 4 ≤ n then s.log ++ out.toList else s.log }

/-- What the turn after `n` turns does to the shared state: save, publish, or
leave it alone. -/
def ExecPc.effect (event : DomainEvent T) (g g' : Stamp T) (o : ServiceOrder T) (n : Nat)
    (s : Sys T) : Sys T :=
  match verdict event g g' o with
  | none => s
  | some (o', out) =>
    if n = 2 then { s with orders := s.orders.save o' }
    else if n = 3 then { s with log := s.log ++ out.toList }
    else s

theorem ExecPc.effect_none {event : DomainEvent T} {g g' : Stamp T} {o : ServiceOrder T}
    (h : verdict event g g' o = none) (n : Nat) (s : Sys T) : effect event g g' o n s = s := by
  unfold effect; rw [h]

theorem ExecPc.effect_orders {event : DomainEvent T} {g g' : Stamp T} {o o' : ServiceOrder T}
    {out : Option (DomainEvent T)} (h : verdict event g g' o = some (o', out)) (n : Nat)
    (s : Sys T) : (effect event g g' o n s).orders =
      if n = 2 then s.orders.save o' else s.orders := by
  unfold effect
  rw [h]
  by_cases h2 : n = 2
  · simp only [if_pos h2]
  · simp only [if_neg h2]; split <;> rfl

theorem ExecPc.effect_log {event : DomainEvent T} {g g' : Stamp T} {o o' : ServiceOrder T}
    {out : Option (DomainEvent T)} (h : verdict event g g' o = some (o', out)) (n : Nat)
    (s : Sys T) : (effect event g g' o n s).log =
      s.log ++ if n = 3 then out.toList else [] := by
  unfold effect
  rw [h]
  by_cases h3 : n = 3
  · subst h3; rfl
  · simp only [if_neg h3, List.append_nil]; split <;> rfl

theorem held_step (event : DomainEvent T) (g g' : Stamp T) (o : ServiceOrder T) (n : Nat)
    (s : Sys T)
    (h : n = 0 → s.orders.find (HandleSagaEventUseCase.serviceOrderId event) = some o) :
    (ExecPc.held event g g' o n).step event g g' s =
      (ExecPc.held event g g' o (n + 1), ExecPc.effect event g g' o n s) := by
  unfold ExecPc.effect
  rcases n with _ | _ | n
  · simp only [ExecPc.held, ExecPc.step, OrderStore.get, h rfl]
    cases verdict event g g' o <;> rfl
  · simp only [Nat.zero_add, ExecPc.held, ExecPc.step, verdict]
    cases (HandleSagaEventUseCase.apply event g g').run o <;> rfl
  · simp only [ExecPc.held, verdict]
    cases (HandleSagaEventUseCase.apply event g g').run o with
    | error e o' => rfl
    | ok out o' =>
      rcases n with _ | _ | n
      · rfl
      · rfl
      · simp [ExecPc.step]

/-! ## Uninterrupted -/

/-- `n` turns of an execution that has the state to itself. -/
def ExecPc.turns (event : DomainEvent T) (g g' : Stamp T) (n : Nat) (s : Sys T) :
    ExecPc T × Sys T :=
  (fun c => c.1.step event g g' c.2)^[n] (.get, s)

/-- `n` turns of a handler that has the state to itself. -/
def HandlerPc.turns (message : Dict) (g g' : Stamp T) (n : Nat) (s : Sys T) :
    HandlerPc T × Sys T :=
  (fun c => c.1.step message g g' c.2)^[n] (.check, s)

omit [Runtime T] in
/-- The result of an execution that has come to its end. -/
def ExecPc.result : ExecPc T × Sys T → Option (EStateM.Result PyError (Sys T) (ServiceOrder T))
  | (.returned _ o _, s) => some (.ok o s)
  | (.raised e, s) => some (.error e s)
  | _ => none

def HandlerPc.result : HandlerPc T × Sys T → Option (EStateM.Result PyError (Sys T) Handled)
  | (.finished (.ok r), s) => some (.ok r s)
  | (.finished (.error e), s) => some (.error e s)
  | _ => none

theorem exec_turns {event : DomainEvent T} {o : ServiceOrder T} {s : Sys T}
    (hf : s.orders.find (HandleSagaEventUseCase.serviceOrderId event) = some o)
    (g g' : Stamp T) (n : Nat) :
    ExecPc.turns event g g' n s =
      (ExecPc.held event g g' o n, ExecPc.done event g g' o n s) := by
  induction n with
  | zero =>
    unfold ExecPc.turns ExecPc.done
    cases verdict event g g' o <;> rfl
  | succ n ih =>
    have hstep : ExecPc.turns event g g' (n + 1) s =
        (ExecPc.turns event g g' n s).1.step event g g' (ExecPc.turns event g g' n s).2 :=
      Function.iterate_succ_apply' ..
    rw [hstep, ih, held_step]
    · unfold ExecPc.done ExecPc.effect
      cases verdict event g g' o with
      | none => rfl
      | some p =>
        by_cases h2 : n = 2
        · subst h2; rfl
        · by_cases h3 : n = 3
          · subst h3; rfl
          · have h2' : (3 ≤ n + 1) = (3 ≤ n) := by rw [eq_iff_iff]; omega
            have h3' : (4 ≤ n + 1) = (4 ≤ n) := by rw [eq_iff_iff]; omega
            simp only [h2, h3, h2', h3', if_false]
    · intro h0
      subst h0
      unfold ExecPc.done
      cases verdict event g g' o <;> exact hf

/-- `execute` in real mode with a publisher that does not fail, in one line. -/
theorem execute_real (event : DomainEvent T) (g g' : Stamp T) (s : Sys T) :
    (HandleSagaEventUseCase.execute .real reliable event g g').run s =
      match s.orders.get (HandleSagaEventUseCase.serviceOrderId event) with
      | .error e => .error e s
      | .ok o =>
        match (HandleSagaEventUseCase.apply event g g').run o with
        | .error e _ => .error e s
        | .ok out o' =>
          .ok o' { s with orders := s.orders.save o', log := s.log ++ out.toList } := by
  unfold HandleSagaEventUseCase.execute
  simp only [EStateM.run_bind, EStateM.run_get]
  cases s.orders.get (HandleSagaEventUseCase.serviceOrderId event) with
  | error e => rfl
  | ok o =>
    simp only [lift_run_ok]
    cases hr : (HandleSagaEventUseCase.apply event g g').run o with
    | error e o' =>
      have hst : (onStored .real (HandleSagaEventUseCase.apply event g g') o).run s =
          .error e s := by
        simp only [onStored, EStateM.run] at hr ⊢; rw [hr]; rfl
      simp only [hst]
    | ok out o' =>
      have hst : (onStored .real (HandleSagaEventUseCase.apply event g g') o).run s =
          .ok (out, o') s := by
        simp only [onStored, EStateM.run] at hr ⊢; rw [hr]; rfl
      have hsave : (saveOrder o').run s = .ok () { s with orders := s.orders.save o' } := rfl
      simp only [hst, hsave]
      cases out with
      | none => simp
      | some e => rfl

/-- **Four turns are one `execute`.** -/
theorem exec_alone (event : DomainEvent T) (g g' : Stamp T) (s : Sys T) :
    ExecPc.result (ExecPc.turns event g g' 4 s) =
      some ((HandleSagaEventUseCase.execute .real reliable event g g').run s) := by
  rw [execute_real]
  cases hf : s.orders.find (HandleSagaEventUseCase.serviceOrderId event) with
  | none =>
    obtain ⟨e, hg⟩ := OrderStore.get_error hf
    unfold ExecPc.turns
    simp only [Function.iterate_succ, Function.iterate_zero, Function.comp_apply, id, ExecPc.step,
      hg, ExecPc.result]
  | some o =>
    rw [exec_turns hf]
    simp only [OrderStore.get, hf, ExecPc.held, ExecPc.done, verdict]
    cases (HandleSagaEventUseCase.apply event g g').run o <;> rfl

/-! ## The handler around it -/

/-- Where a handler stands after `n` turns, of which the first let it pass and
the second got `o`. -/
def HandlerPc.held (event : DomainEvent T) (g g' : Stamp T) (o : ServiceOrder T) :
    Nat → HandlerPc T
  | 0 => .check
  | n + 1 =>
    match (HandleSagaEventUseCase.apply event g g').run o with
    | .ok _ _ =>
      if n ≤ 4 then .executing event (ExecPc.held event g g' o n) else .finished (.ok .processed)
    | .error e _ =>
      if n ≤ 2 then .executing event (ExecPc.held event g g' o n) else .finished (.error e)

theorem HandlerPc.held_one (event : DomainEvent T) (g g' : Stamp T) (o : ServiceOrder T) :
    HandlerPc.held event g g' o 1 = .executing event .get := by
  simp only [HandlerPc.held]
  cases (HandleSagaEventUseCase.apply event g g').run o <;> rfl

/-- The shared state once a handler that got `o` in state `s` has had `n` turns
and nobody else any. -/
def HandlerPc.done (event : DomainEvent T) (g g' : Stamp T) (o : ServiceOrder T) (n : Nat)
    (s : Sys T) : Sys T :=
  match verdict event g g' o with
  | none => s
  | some (o', out) =>
    { orders := if 4 ≤ n then s.orders.save o' else s.orders
      log := if 5 ≤ n then s.log ++ out.toList else s.log
      processed := if 6 ≤ n then insert event.eventId s.processed else s.processed }

/-- What the turn after `n` turns does to the shared state: as for the execution
inside, then the record. -/
def HandlerPc.effect (event : DomainEvent T) (g g' : Stamp T) (o : ServiceOrder T) (n : Nat)
    (s : Sys T) : Sys T :=
  match verdict event g g' o with
  | none => s
  | some (o', out) =>
    if n = 3 then { s with orders := s.orders.save o' }
    else if n = 4 then { s with log := s.log ++ out.toList }
    else if n = 5 then { s with processed := insert event.eventId s.processed }
    else s

/-- Before the save there is nothing to see. -/
theorem HandlerPc.effect_early (event : DomainEvent T) (g g' : Stamp T) (o : ServiceOrder T)
    {n : Nat} (hn : n < 3) (s : Sys T) : effect event g g' o n s = s := by
  unfold effect
  cases verdict event g g' o with
  | none => rfl
  | some p =>
    simp only [if_neg (show ¬ n = 3 by omega), if_neg (show ¬ n = 4 by omega),
      if_neg (show ¬ n = 5 by omega)]

theorem HandlerPc.effect_orders {event : DomainEvent T} {g g' : Stamp T} {o o' : ServiceOrder T}
    {out : Option (DomainEvent T)} (h : verdict event g g' o = some (o', out)) (n : Nat)
    (s : Sys T) : (effect event g g' o n s).orders =
      if n = 3 then s.orders.save o' else s.orders := by
  unfold effect
  rw [h]
  by_cases h3 : n = 3
  · simp only [if_pos h3]
  · simp only [if_neg h3]
    split
    · rfl
    · split <;> rfl

theorem HandlerPc.effect_log {event : DomainEvent T} {g g' : Stamp T} {o o' : ServiceOrder T}
    {out : Option (DomainEvent T)} (h : verdict event g g' o = some (o', out)) (n : Nat)
    (s : Sys T) : (effect event g g' o n s).log =
      s.log ++ if n = 4 then out.toList else [] := by
  unfold effect
  rw [h]
  by_cases h4 : n = 4
  · subst h4; rfl
  · simp only [if_neg h4, List.append_nil]
    split
    · rfl
    · split <;> rfl

theorem handler_held_step {message : Dict} {event : DomainEvent T}
    (hr : ServiceOrderSagaEventHandler.readEvent message = .ok event) (g g' : Stamp T)
    (o : ServiceOrder T) (n : Nat) (s : Sys T) (h0 : n = 0 → event.eventId ∉ s.processed)
    (h1 : n = 1 → s.orders.find (HandleSagaEventUseCase.serviceOrderId event) = some o) :
    (HandlerPc.held event g g' o n).step message g g' s =
      (HandlerPc.held event g g' o (n + 1), HandlerPc.effect event g g' o n s) := by
  unfold HandlerPc.effect
  obtain ⟨hd, hh, ht, hid⟩ := ServiceOrderSagaEventHandler.readEvent_ok hr
  cases n with
  | zero =>
    simp only [HandlerPc.held, HandlerPc.step, hh, hid, if_neg (h0 rfl), ht, verdict]
    cases (HandleSagaEventUseCase.apply event g g').run o <;> rfl
  | succ n =>
    cases hrun : (HandleSagaEventUseCase.apply event g g').run o with
    | error e o' =>
      rcases n with _ | _ | _ | n
      · simp [HandlerPc.held, ExecPc.held, HandlerPc.step, ExecPc.step, verdict, hrun,
          OrderStore.get, h1 rfl]
      · simp [HandlerPc.held, ExecPc.held, HandlerPc.step, ExecPc.step, verdict, hrun]
      · simp [HandlerPc.held, ExecPc.held, HandlerPc.step, verdict, hrun]
      · simp [HandlerPc.held, HandlerPc.step, verdict, hrun]
    | ok out o' =>
      -- got, applied, saved, published, recorded
      rcases n with _ | _ | _ | _ | _ | n
      · simp [HandlerPc.held, ExecPc.held, HandlerPc.step, ExecPc.step, verdict, hrun,
          OrderStore.get, h1 rfl]
      · simp [HandlerPc.held, ExecPc.held, HandlerPc.step, ExecPc.step, verdict, hrun]
      · simp [HandlerPc.held, ExecPc.held, HandlerPc.step, ExecPc.step, verdict, hrun]
      · simp [HandlerPc.held, ExecPc.held, HandlerPc.step, ExecPc.step, verdict, hrun]
      · simp [HandlerPc.held, ExecPc.held, HandlerPc.step, verdict, hrun]
      · simp [HandlerPc.held, HandlerPc.step, verdict, hrun]

theorem handler_turns {message : Dict} {event : DomainEvent T} {o : ServiceOrder T} {s : Sys T}
    (hr : ServiceOrderSagaEventHandler.readEvent message = .ok event)
    (hp : event.eventId ∉ s.processed)
    (hf : s.orders.find (HandleSagaEventUseCase.serviceOrderId event) = some o)
    (g g' : Stamp T) (n : Nat) :
    HandlerPc.turns message g g' n s =
      (HandlerPc.held event g g' o n, HandlerPc.done event g g' o n s) := by
  induction n with
  | zero =>
    unfold HandlerPc.turns HandlerPc.done
    cases verdict event g g' o <;> rfl
  | succ n ih =>
    have hstep : HandlerPc.turns message g g' (n + 1) s = (HandlerPc.turns message g g' n s).1.step
        message g g' (HandlerPc.turns message g g' n s).2 :=
      Function.iterate_succ_apply' ..
    have hearly : n ≤ 1 → HandlerPc.done event g g' o n s = s := by
      intro hn
      unfold HandlerPc.done
      cases verdict event g g' o with
      | none => rfl
      | some p =>
        simp only [if_neg (show ¬ 4 ≤ n by omega), if_neg (show ¬ 5 ≤ n by omega),
          if_neg (show ¬ 6 ≤ n by omega)]
    rw [hstep, ih, handler_held_step hr]
    · unfold HandlerPc.done HandlerPc.effect
      cases verdict event g g' o with
      | none => rfl
      | some p =>
        by_cases h3 : n = 3
        · subst h3; rfl
        · by_cases h4 : n = 4
          · subst h4; rfl
          · by_cases h5 : n = 5
            · subst h5; rfl
            · have h3' : (4 ≤ n + 1) = (4 ≤ n) := by rw [eq_iff_iff]; omega
              have h4' : (5 ≤ n + 1) = (5 ≤ n) := by rw [eq_iff_iff]; omega
              have h5' : (6 ≤ n + 1) = (6 ≤ n) := by rw [eq_iff_iff]; omega
              simp only [h3, h4, h5, h3', h4', h5', if_false]
    · intro h; rw [hearly (by omega)]; exact hp
    · intro h; rw [hearly (by omega)]; exact hf

/-- **Six turns are one `handle`.** -/
theorem handler_alone (message : Dict) (g g' : Stamp T) (s : Sys T) :
    HandlerPc.result (HandlerPc.turns message g g' 6 s) =
      some ((ServiceOrderSagaEventHandler.handle .real reliable message g g').run s) := by
  -- a handler that finishes at its first turn
  have first : ∀ c : HandlerPc T × Sys T, HandlerPc.check.step message g g' s = c →
      (∀ s', c.1.step message g g' s' = (c.1, s')) → HandlerPc.turns message g g' 6 s = c := by
    intro c hc hfix
    unfold HandlerPc.turns
    simp only [Function.iterate_succ, Function.iterate_zero, Function.comp_apply, id, hc, hfix]
  rw [ServiceOrderSagaEventHandler.handle_run]
  cases hh : ServiceOrderSagaEventHandler.header T message with
  | error e =>
    rw [first (.finished (.error e), s) (by simp only [HandlerPc.step, hh]) fun _ => rfl]; rfl
  | ok h =>
    by_cases hp : h.eventId ∈ s.processed
    · rw [first (.finished (.ok .skipped), s) (by simp only [HandlerPc.step, hh, if_pos hp])
        fun _ => rfl]
      simp only [if_pos hp]; rfl
    · simp only [if_neg hp]
      cases ht : ServiceOrderSagaEventHandler.toEvent (T := T) h message with
      | error e =>
        rw [first (.finished (.error e), s) (by simp only [HandlerPc.step, hh, if_neg hp, ht])
          fun _ => rfl]
        rfl
      | ok event =>
        have hr := ServiceOrderSagaEventHandler.readEvent_of hh ht
        have hid : event.eventId = h.eventId := (ServiceOrderSagaEventHandler.toEvent_ok ht).1
        rw [← hid] at hp
        simp only [execute_real]
        cases hf : s.orders.find (HandleSagaEventUseCase.serviceOrderId event) with
        | none =>
          obtain ⟨e, hg⟩ := OrderStore.get_error hf
          unfold HandlerPc.turns
          simp only [Function.iterate_succ, Function.iterate_zero, Function.comp_apply, id,
            HandlerPc.step, hh, ← hid, if_neg hp, ht, ExecPc.step, hg, HandlerPc.result]
        | some o =>
          rw [handler_turns hr hp hf]
          simp only [OrderStore.get, hf, HandlerPc.held, HandlerPc.done, verdict, ← hid]
          cases (HandleSagaEventUseCase.apply event g g').run o <;> rfl

end ServiceOrderOs.Concurrency
