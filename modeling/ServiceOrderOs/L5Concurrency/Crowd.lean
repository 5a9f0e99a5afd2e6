import Mathlib.Data.List.Count
import ServiceOrderOs.Core.Unwinding
import ServiceOrderOs.L4Runs.EventLog
import ServiceOrderOs.L5Concurrency.Steps

/-!
# Any number of executions

Any number of processes execute saga events on one database, their turns in any
order. An execution reads and writes the row of its own order and publishes
about it, and between its turns it holds a copy of that order and of no other.

* `step_own`, `step_other`: a turn, as its own order and as another sees it.
* `play_filter`: what becomes of an order is what the executions on it do, in
  their turns.
* `executions_serializable`: executions on different orders are as good as one
  after the other, whatever the schedule.
-/
namespace ServiceOrderOs.Concurrency
open Core Py Domain App Runs

variable {T ι : Type} [Runtime T] [DecidableEq ι]

structure Crowd (ι T : Type) where
  pcs : ι → ExecPc T
  sys : Sys T

section
variable (ev : ι → DomainEvent T) (g g' : ι → Stamp T)

def Crowd.turn (c : Crowd ι T) (i : ι) : Crowd ι T :=
  let (pc, s) := (c.pcs i).step (ev i) (g i) (g' i) c.sys
  ⟨Function.update c.pcs i pc, s⟩

def Crowd.play (s : Sys T) (sched : List ι) : Crowd ι T :=
  sched.foldl (Crowd.turn ev g g') ⟨fun _ => .get, s⟩

omit [DecidableEq ι] in
/-- The order that execution `i` is about. -/
def target (i : ι) : String := HandleSagaEventUseCase.serviceOrderId (ev i)

omit [DecidableEq ι] in
/-- Execution `i` of the code, uninterrupted. -/
def executed (i : ι) (s : Sys T) : EStateM.Result PyError (Sys T) (ServiceOrder T) :=
  (HandleSagaEventUseCase.execute .real reliable (ev i) (g i) (g' i)).run s

omit [DecidableEq ι] in
/-- One execution after the other. -/
def inTurn (s : Sys T) (is : List ι) : Sys T :=
  is.foldl (fun s i => left (executed ev g g' i s)) s

end

/-- What an execution returns or raises. -/
def answer : EStateM.Result PyError (Sys T) (ServiceOrder T) → Except PyError (ServiceOrder T)
  | .ok o _ => .ok o
  | .error e _ => .error e

/-- The same record of an order, and the same events about it. -/
structure SameRecord (id : String) (s t : Sys T) : Prop where
  order : s.orders.find id = t.orders.find id
  log : (s.log.filter fun e => e.correlationId = id) = t.log.filter fun e => e.correlationId = id

/-- What the execution holds is about the order `id`. -/
def ExecPc.Filed (id : String) : ExecPc T → Prop
  | .get | .raised _ => True
  | .apply o => o.serviceOrderId = id
  | .save _ o out | .publish _ o out | .returned _ o out =>
    o.serviceOrderId = id ∧ ∀ e ∈ out, e.correlationId = id

/-! ## One turn -/

section Turn
variable {event : DomainEvent T} {g g' : Stamp T} {id : String} {s t : Sys T} {pc : ExecPc T}

omit [Runtime T] in
theorem SameRecord.refl (id : String) (s : Sys T) : SameRecord id s s := ⟨rfl, rfl⟩

omit [Runtime T] in
theorem SameRecord.symm (h : SameRecord id s t) : SameRecord id t s :=
  ⟨h.order.symm, h.log.symm⟩

omit [Runtime T] in
theorem SameRecord.trans {u : Sys T} (h : SameRecord id s t) (h' : SameRecord id t u) :
    SameRecord id s u :=
  ⟨h.order.trans h'.order, h.log.trans h'.log⟩

theorem filed_step (h : pc.Filed (HandleSagaEventUseCase.serviceOrderId event)) (s : Sys T) :
    (pc.step event g g' s).1.Filed (HandleSagaEventUseCase.serviceOrderId event) := by
  cases pc with
  | get =>
    simp only [ExecPc.step, OrderStore.get]
    cases hf : s.orders.find (HandleSagaEventUseCase.serviceOrderId event) with
    | none => trivial
    | some o => exact s.orders.filed _ o hf
  | apply o =>
    have ho : o.serviceOrderId = HandleSagaEventUseCase.serviceOrderId event := h
    simp only [ExecPc.step]
    cases hr : (HandleSagaEventUseCase.apply event g g').run o with
    | error e o' => trivial
    | ok out o' =>
      have ha := apply_ok_iff.mp hr
      obtain ⟨-, -, -, habout⟩ := accepts_recorded ha
      refine ⟨ha.id_eq.trans ho, fun e he => ?_⟩
      rw [(habout e (Option.mem_toList.mpr he)).1, ho]
  | save => exact h
  | publish => exact h
  | returned => exact h
  | raised => trivial

/-- A turn of an execution on another order. -/
theorem step_other (h : pc.Filed (HandleSagaEventUseCase.serviceOrderId event))
    (hne : HandleSagaEventUseCase.serviceOrderId event ≠ id) (s : Sys T) :
    SameRecord id (pc.step event g g' s).2 s := by
  cases pc with
  | get =>
    simp only [ExecPc.step]
    cases s.orders.get (HandleSagaEventUseCase.serviceOrderId event) <;> exact .refl id s
  | apply o =>
    simp only [ExecPc.step]
    cases (HandleSagaEventUseCase.apply event g g').run o <;> exact .refl id s
  | save prior o out =>
    refine ⟨OrderStore.save_find_of_ne _ _ ?_, rfl⟩
    rw [h.1]
    exact Ne.symm hne
  | publish prior o out =>
    refine ⟨rfl, ?_⟩
    have hout : (out.toList.filter fun e => e.correlationId = id) = [] := by
      rw [List.filter_eq_nil_iff]
      intro e he
      rw [h.2 e (Option.mem_toList.mp he)]
      simpa using hne
    simp only [ExecPc.step, List.filter_append, hout, List.append_nil]
  | returned => exact .refl id s
  | raised => exact .refl id s

/-- A turn of an execution on the order itself. -/
theorem step_own (g g' : Stamp T)
    (h : SameRecord (HandleSagaEventUseCase.serviceOrderId event) s t) (pc : ExecPc T) :
    (pc.step event g g' s).1 = (pc.step event g g' t).1 ∧
      SameRecord (HandleSagaEventUseCase.serviceOrderId event) (pc.step event g g' s).2
        (pc.step event g g' t).2 := by
  cases pc with
  | get =>
    simp only [ExecPc.step, OrderStore.get, h.order]
    cases t.orders.find (HandleSagaEventUseCase.serviceOrderId event) <;> exact ⟨rfl, h⟩
  | apply o =>
    simp only [ExecPc.step]
    cases (HandleSagaEventUseCase.apply event g g').run o <;> exact ⟨rfl, h⟩
  | save prior o out =>
    refine ⟨rfl, ?_, h.log⟩
    simp only [ExecPc.step, OrderStore.save_find, h.order]
  | publish prior o out =>
    refine ⟨rfl, h.order, ?_⟩
    simp only [ExecPc.step, List.filter_append, h.log]
  | returned => exact ⟨rfl, h⟩
  | raised => exact ⟨rfl, h⟩

end Turn

/-! ## Uninterrupted turns -/

section Turns
variable {event : DomainEvent T} {id : String} {s t : Sys T}

theorem turns_succ (event : DomainEvent T) (g g' : Stamp T) (n : Nat) (s : Sys T) :
    ExecPc.turns event g g' (n + 1) s = (ExecPc.turns event g g' n s).1.step event g g'
      (ExecPc.turns event g g' n s).2 := Function.iterate_succ_apply' ..

theorem turns_filed (g g' : Stamp T) (n : Nat) (s : Sys T) :
    (ExecPc.turns event g g' n s).1.Filed (HandleSagaEventUseCase.serviceOrderId event) := by
  induction n with
  | zero => trivial
  | succ n ih => rw [turns_succ]; exact filed_step ih _

theorem turns_other (hne : HandleSagaEventUseCase.serviceOrderId event ≠ id) (g g' : Stamp T)
    (n : Nat) (s : Sys T) : SameRecord id (ExecPc.turns event g g' n s).2 s := by
  induction n with
  | zero => exact .refl id s
  | succ n ih => rw [turns_succ]; exact (step_other (turns_filed g g' n s) hne _).trans ih

theorem turns_own (h : SameRecord (HandleSagaEventUseCase.serviceOrderId event) s t)
    (g g' : Stamp T) (n : Nat) :
    (ExecPc.turns event g g' n s).1 = (ExecPc.turns event g g' n t).1 ∧
      SameRecord (HandleSagaEventUseCase.serviceOrderId event) (ExecPc.turns event g g' n s).2
        (ExecPc.turns event g g' n t).2 := by
  induction n with
  | zero => exact ⟨rfl, h⟩
  | succ n ih =>
    rw [turns_succ, turns_succ, ih.1]
    exact step_own g g' ih.2 _

/-- An execution that has ended stays as it is. -/
theorem result_step {c : ExecPc T × Sys T} {r : EStateM.Result PyError (Sys T) (ServiceOrder T)}
    (h : ExecPc.result c = some r) (event : DomainEvent T) (g g' : Stamp T) :
    c.1.step event g g' c.2 = c := by
  obtain ⟨pc, s⟩ := c
  cases pc with
  | returned => rfl
  | raised => rfl
  | _ => cases h

/-- Four turns or more are one `execute`. -/
theorem turns_result (event : DomainEvent T) (g g' : Stamp T) {n : Nat} (hn : 4 ≤ n) (s : Sys T) :
    ExecPc.result (ExecPc.turns event g g' n s) =
      some ((HandleSagaEventUseCase.execute .real reliable event g g').run s) := by
  induction n, hn using Nat.le_induction with
  | base => exact exec_alone event g g' s
  | succ n _ ih => rw [turns_succ, result_step ih]; exact ih

omit [Runtime T] in
theorem result_left {c : ExecPc T × Sys T} {r : EStateM.Result PyError (Sys T) (ServiceOrder T)}
    (h : ExecPc.result c = some r) : left r = c.2 := by
  obtain ⟨pc, s⟩ := c
  cases pc with
  | returned => cases h; rfl
  | raised => cases h; rfl
  | _ => cases h

/-- What the execution has returned or raised, once it has. -/
def ExecPc.answer : ExecPc T → Option (Except PyError (ServiceOrder T))
  | .returned _ o _ => some (.ok o)
  | .raised e => some (.error e)
  | _ => none

omit [Runtime T] in
theorem result_answer {c : ExecPc T × Sys T} {r : EStateM.Result PyError (Sys T) (ServiceOrder T)}
    (h : ExecPc.result c = some r) : c.1.answer = some (answer r) := by
  obtain ⟨pc, s⟩ := c
  cases pc with
  | returned => cases h; rfl
  | raised => cases h; rfl
  | _ => cases h

end Turns

/-! ## What an order sees of the crowd -/

section Crowd
variable {ev : ι → DomainEvent T} {g g' : ι → Stamp T} {s : Sys T} {sched is : List ι}
  {id : String}

/-- Alike for the order `id`: its record, and the executions on it. -/
structure Alike (ev : ι → DomainEvent T) (id : String) (c d : Crowd ι T) : Prop where
  filed : ∀ i, (c.pcs i).Filed (target ev i)
  pcs : ∀ i, target ev i = id → c.pcs i = d.pcs i
  record : SameRecord id c.sys d.sys

theorem turn_filed {c : Crowd ι T} (h : ∀ i, (c.pcs i).Filed (target ev i)) (i j : ι) :
    ((Crowd.turn ev g g' c i).pcs j).Filed (target ev j) := by
  by_cases hij : j = i
  · subst hij
    simp only [Crowd.turn, Function.update_self]
    exact filed_step (h j) _
  · simp only [Crowd.turn, Function.update_of_ne hij]
    exact h j

theorem play_filter (ev : ι → DomainEvent T) (g g' : ι → Stamp T) (s : Sys T) (sched : List ι)
    (id : String) : Alike ev id (Crowd.play ev g g' s sched)
      (Crowd.play ev g g' s (sched.filter fun i => target ev i = id)) := by
  refine Unwinding.purge_own (Crowd.turn ev g g') (target ev) id (Alike ev id) ?_ ?_ sched
    ⟨fun i => trivial, fun i _ => rfl, .refl id s⟩
  · -- a turn on the order itself
    rintro i rfl c d h
    have hpc := h.pcs i rfl
    obtain ⟨hsame, hrecord⟩ := step_own (g i) (g' i) h.record (c.pcs i)
    refine ⟨turn_filed h.filed i, fun j hj => ?_, ?_⟩
    · by_cases hij : j = i
      · subst hij
        simp only [Crowd.turn, Function.update_self, ← hpc]
        exact hsame
      · simp only [Crowd.turn, Function.update_of_ne hij]
        exact h.pcs j hj
    · simp only [Crowd.turn, ← hpc]
      exact hrecord
  · -- a turn on another one
    intro i hne c d h
    refine ⟨turn_filed h.filed i, fun j hj => ?_, ?_⟩
    · have hij : j ≠ i := fun he => hne (he ▸ hj)
      simp only [Crowd.turn, Function.update_of_ne hij]
      exact h.pcs j hj
    · exact (step_other (h.filed i) hne c.sys).trans h.record

/-- One process alone. -/
theorem play_replicate (ev : ι → DomainEvent T) (g g' : ι → Stamp T) (s : Sys T) (i : ι)
    (n : Nat) : ((Crowd.play ev g g' s (List.replicate n i)).pcs i,
      (Crowd.play ev g g' s (List.replicate n i)).sys) =
        ExecPc.turns (ev i) (g i) (g' i) n s := by
  induction n with
  | zero => rfl
  | succ n ih =>
    rw [List.replicate_succ', Crowd.play, List.foldl_append]
    show (Function.update _ i _ i, _) = _
    rw [Function.update_self, turns_succ, ← ih]
    rfl

omit [DecidableEq ι] in
theorem inTurn_filter (ev : ι → DomainEvent T) (g g' : ι → Stamp T) (s : Sys T) (is : List ι)
    (id : String) : SameRecord id (inTurn ev g g' s is)
      (inTurn ev g g' s (is.filter fun i => target ev i = id)) := by
  have hleft : ∀ i s, left (executed ev g g' i s) = (ExecPc.turns (ev i) (g i) (g' i) 4 s).2 :=
    fun i s => result_left (exec_alone (ev i) (g i) (g' i) s)
  refine Unwinding.purge_own (fun s i => left (executed ev g g' i s)) (target ev) id
    (SameRecord id) ?_ ?_ is (.refl id s)
  · rintro i rfl s t h
    rw [hleft, hleft]
    exact (turns_own h (g i) (g' i) 4).2
  · intro i hne s t h
    rw [hleft]
    exact (turns_other hne (g i) (g' i) 4 s).trans h

/-- On different orders, an execution is by itself. -/
theorem filter_target (hdistinct : ∀ i ∈ sched, ∀ j ∈ sched, target ev i = target ev j → i = j)
    {i : ι} (hi : i ∈ sched) :
    (sched.filter fun j => target ev j = target ev i) = List.replicate (sched.count i) i := by
  rw [← List.filter_eq i]
  refine List.filter_congr fun j hj => decide_eq_decide.mpr ⟨fun h => ?_, fun h => ?_⟩
  · exact hdistinct j hj i hi h
  · rw [h]

/-- **Executions on different orders are serializable.** Whatever the schedule,
once each of them has had its turns, the orders are those of the executions one
after the other in any sequence, so is the log up to the order of its events,
and each execution answers as if alone. -/
theorem executions_serializable (ev : ι → DomainEvent T) (g g' : ι → Stamp T) (s : Sys T)
    (sched is : List ι) (hmem : ∀ i, i ∈ is ↔ i ∈ sched) (hnodup : is.Nodup)
    (hturns : ∀ i ∈ sched, 4 ≤ sched.count i)
    (hdistinct : ∀ i ∈ sched, ∀ j ∈ sched, target ev i = target ev j → i = j) :
    (Crowd.play ev g g' s sched).sys.orders = (inTurn ev g g' s is).orders ∧
      (Crowd.play ev g g' s sched).sys.log.Perm (inTurn ev g g' s is).log ∧
      ∀ i ∈ sched, ((Crowd.play ev g g' s sched).pcs i).answer =
        some (answer (executed ev g g' i s)) := by
  -- an execution and its order, after the schedule
  have halone : ∀ i ∈ sched, ((Crowd.play ev g g' s sched).pcs i).answer =
      some (answer (executed ev g g' i s)) ∧ SameRecord (target ev i)
        (Crowd.play ev g g' s sched).sys (left (executed ev g g' i s)) := by
    intro i hi
    have h := play_filter ev g g' s sched (target ev i)
    rw [filter_target hdistinct hi] at h
    have hplay := play_replicate ev g g' s i (sched.count i)
    have hresult := turns_result (ev i) (g i) (g' i) (hturns i hi) s
    rw [← hplay] at hresult
    refine ⟨?_, ?_⟩
    · rw [h.pcs i rfl]
      exact result_answer hresult
    · rw [show left (executed ev g g' i s) = _ from result_left hresult]
      exact h.record
  have hrecord : ∀ id, SameRecord id (Crowd.play ev g g' s sched).sys (inTurn ev g g' s is) := by
    intro id
    have hserial := inTurn_filter ev g g' s is id
    by_cases hid : ∃ i ∈ sched, target ev i = id
    · obtain ⟨i, hi, rfl⟩ := hid
      have hdistinct' : ∀ i ∈ is, ∀ j ∈ is, target ev i = target ev j → i = j :=
        fun i hi j hj => hdistinct i ((hmem i).mp hi) j ((hmem j).mp hj)
      have his : i ∈ is := (hmem i).mpr hi
      rw [filter_target hdistinct' his, List.count_eq_one_of_mem hnodup his] at hserial
      exact (halone i hi).2.trans hserial.symm
    · have hnone : ∀ js : List ι, (∀ j ∈ js, j ∈ sched) →
          (js.filter fun i => target ev i = id) = [] := by
        intro js hjs
        rw [List.filter_eq_nil_iff]
        intro j hj
        simpa using fun he => hid ⟨j, hjs j hj, he⟩
      have h := play_filter ev g g' s sched id
      rw [hnone sched fun j hj => hj] at h
      rw [hnone is fun j hj => (hmem j).mp hj] at hserial
      exact h.record.trans hserial.symm
  have hlog := Unwinding.perm_of_parts (fun e : DomainEvent T => e.correlationId)
    fun id => (hrecord id).log
  refine ⟨?_, hlog, fun i hi => (halone i hi).1⟩
  ext1
  funext id
  exact (hrecord id).order

/-- Two orders, each with its quote to be approved. -/
def exTwoOrders : Sys Iso :=
  [exOpen, .open reliable ⟨none, none⟩ ⟨"customer-1", "vehicle-1", "Oil change"⟩ "os-2" exNow
    (exStamp "event-2")].foldl (Call.next .real) .empty

def exApprovals (b : Bool) : DomainEvent Iso :=
  ⟨"QUOTE_APPROVED", if b then "os-1" else "os-2", [("quote_id", .str "quote-1")], "event-3", exNow⟩

theorem approvals_serializable :
    (Crowd.play exApprovals exFirst exSecond exTwoOrders
      [true, false, true, false, true, false, true, false]).sys.orders =
        (inTurn exApprovals exFirst exSecond exTwoOrders [false, true]).orders :=
  (executions_serializable exApprovals exFirst exSecond exTwoOrders _ [false, true] (by decide)
    (by decide) (by decide) (by decide)).1

end Crowd
end ServiceOrderOs.Concurrency
