import ServiceOrderOs.Core.Upsert
import ServiceOrderOs.L3App.SqlServiceOrders

/-!
# Calls of the SQL repositories at once

`mark_processed` looks for the event id in one session and inserts its row in
another; `save` selects the id of its order and then inserts or updates the
row. Between the two any number of other processes may have written. An insert
whose primary key has a row raises `IntegrityError`, here `refused`.

* `marks_race`: of the calls for a new event id exactly one stores its row.
* `saves_race`: the table is what atomic saves make of it, in the order of
  their writes; a save of a stored order never raises.
-/
namespace ServiceOrderOs.Concurrency
open Core Py Domain App

variable {T ι : Type} [Runtime T] [DecidableEq ι]

/-- mirrors src/infrastructure/repositories/processed_event_repositories.py:15-22 -/
structure ProcessedEventRow (T : Type) where
  eventId : String
  eventType : String
  correlationId : String
  processedAt : T

/-- mirrors src/infrastructure/repositories/processed_event_repositories.py:63-77 -/
def markProcessed (row : ProcessedEventRow T) : Upsert.Request String (ProcessedEventRow T) where
  key := row.eventId
  row := row
  replaces := false

/-- mirrors src/infrastructure/repositories/sqlalchemy_service_order_repository.py:53-86 -/
def saveOrderRow (serviceOrder : ServiceOrder T) : Upsert.Request String ServiceOrderRow where
  key := serviceOrder.serviceOrderId
  row := toRow serviceOrder
  replaces := true

/-! ## The processed events -/

section Marks
variable {rows : ι → ProcessedEventRow T} {t : String → Option (ProcessedEventRow T)}
  {sched : List ι}

omit [Runtime T] [DecidableEq ι] in
/-- Writes of rows under different ids leave the row of each. -/
theorem foldl_put_find {is : List ι} (hnodup : is.Nodup)
    (hids : ∀ i ∈ is, ∀ j ∈ is, (rows j).eventId = (rows i).eventId → j = i) (id : String) :
    (∀ i ∈ is, (rows i).eventId = id →
      is.foldl (fun t i => Upsert.put t (markProcessed (rows i))) t id = some (rows i)) ∧
    ((∀ i ∈ is, (rows i).eventId ≠ id) →
      is.foldl (fun t i => Upsert.put t (markProcessed (rows i))) t id = t id) := by
  induction is generalizing t with
  | nil => exact ⟨fun i hi => (by cases hi), fun _ => rfl⟩
  | cons j is ih =>
    have hrest := ih (t := Upsert.put t (markProcessed (rows j))) (List.nodup_cons.mp hnodup).2
      fun i hi m hm => hids i (List.mem_cons_of_mem _ hi) m (List.mem_cons_of_mem _ hm)
    refine ⟨fun i hi hid => ?_, fun hno => ?_⟩
    · rcases List.mem_cons.mp hi with rfl | hi
      · -- the others leave it
        have hothers : ∀ m ∈ is, (rows m).eventId ≠ id := by
          intro m hm he
          obtain rfl := hids i List.mem_cons_self m (List.mem_cons_of_mem _ hm) (he.trans hid.symm)
          exact (List.nodup_cons.mp hnodup).1 hm
        rw [List.foldl_cons, hrest.2 hothers, ← hid]
        exact Upsert.put_self t (markProcessed (rows i))
      · exact hrest.1 i hi hid
    · rw [List.foldl_cons, hrest.2 fun m hm => hno m (List.mem_cons_of_mem _ hm)]
      exact Function.update_of_ne (Ne.symm (hno j List.mem_cons_self)) ..

omit [Runtime T] in
/-- **Marking is one insert per id.** Any number of calls, any ids, any
schedule: rows that were there stay, of the calls for a new id exactly one
stores its row, and a call raises if and only if its id was new and another
insert has overtaken its own. -/
theorem marks_race (rows : ι → ProcessedEventRow T) (t : String → Option (ProcessedEventRow T))
    (sched : List ι) (hturns : ∀ i ∈ sched, 2 ≤ sched.count i) :
    let c := Upsert.play (fun i => markProcessed (rows i)) t sched
    (∀ id row, t id = some row → c.table id = some row) ∧
    (∀ i ∈ sched, t (rows i).eventId = none → ∃ j ∈ sched, (rows j).eventId = (rows i).eventId ∧
      c.table (rows i).eventId = some (rows j) ∧ c.pcs j = .written ∧
      ∀ m, (rows m).eventId = (rows i).eventId → c.pcs m = .written → m = j) ∧
    (∀ id, (∀ i ∈ sched, (rows i).eventId ≠ id) → c.table id = t id) ∧
    ∀ i ∈ sched, (c.pcs i = .refused ↔ t (rows i).eventId = none ∧
      Upsert.Overtaken (fun i => markProcessed (rows i)) sched i) := by
  intro c
  have hinv := Upsert.play_inv (fun i => markProcessed (rows i)) t sched
  have hwriters : ∀ i ∈ c.writers, i ∈ sched ∧ t (rows i).eventId = none := by
    intro i hi
    have hpc := (hinv.written i).mp hi
    refine ⟨?_, (hinv.inserter i hi rfl).1⟩
    by_contra hno
    have hcheck := (Upsert.count_ended (fun i => markProcessed (rows i)) t sched i).1
      (List.count_eq_zero_of_not_mem hno)
    rw [hcheck] at hpc
    cases hpc
  have hids : ∀ i ∈ c.writers, ∀ j ∈ c.writers, (rows j).eventId = (rows i).eventId → j = i :=
    fun i hi j hj he => (hinv.inserter i hi rfl).2 j hj he rfl
  have hfind := foldl_put_find (t := t) hinv.nodup hids
  refine ⟨fun id row hrow => ?_, fun i hi hnone => ?_, fun id hno => ?_, fun i hi =>
    Upsert.refused_iff _ t (hturns i hi)⟩
  · rw [show c.table = _ from hinv.table, (hfind id).2 fun i hi he => ?_, hrow]
    rw [← he, (hwriters i hi).2] at hrow
    cases hrow
  · -- a row is there in the end, and the writes are the only source of one
    have hended := (Upsert.count_ended (fun i => markProcessed (rows i)) t sched i).2.2 (hturns i hi)
    have hrow : (c.table (rows i).eventId).isSome := hinv.row i
      (by rcases hended with h | h | h <;> rw [h] <;> decide)
      (by rcases hended with h | h | h <;> rw [h] <;> decide)
    by_cases hex : ∃ j ∈ c.writers, (rows j).eventId = (rows i).eventId
    · obtain ⟨j, hj, hid⟩ := hex
      refine ⟨j, (hwriters j hj).1, hid, ?_, (hinv.written j).mp hj, fun m hm hpc => ?_⟩
      · rw [show c.table = _ from hinv.table]
        exact (hfind _).1 j hj hid
      · exact hids j hj m ((hinv.written m).mpr hpc) (hm.trans hid.symm)
    · rw [show c.table = _ from hinv.table, (hfind _).2 fun j hj he => hex ⟨j, hj, he⟩, hnone] at hrow
      cases hrow
  · rw [show c.table = _ from hinv.table]
    exact (hfind id).2 fun i hi => hno i (hwriters i hi).1

def exMark (b : Bool) : ProcessedEventRow Iso :=
  ⟨"event-1", "QUOTE_APPROVED", if b then "os-1" else "os-2", ⟨"2026-01-01T00:00:00+00:00"⟩⟩

/-- Two calls that both look before either inserts: the second insert raises. -/
theorem second_mark_refused :
    (Upsert.play (fun b => markProcessed (exMark b)) (fun _ => none)
      [true, false, true, false]).pcs false = .refused :=
  ((marks_race exMark (fun _ => none) [true, false, true, false] (by decide)).2.2.2 false
    (by decide)).mpr ⟨rfl, [true, false], true, [false], ⟨rfl, rfl, rfl, by decide⟩, by decide, rfl⟩

end Marks

/-! ## The service orders -/

section Saves

omit [DecidableEq ι] in
/-- A write is what the repository's `save` does to the table. -/
theorem foldl_save (loads : String → Except PyError Json) (orders : ι → ServiceOrder T)
    (is : List ι) (start : ServiceOrderTable) :
    is.foldl (fun t i => Upsert.put t (saveOrderRow (orders i))) start.find =
      (is.foldl (fun s i => (sqlAlchemyServiceOrderRepository loads).save (orders i) s)
        start).find := by
  induction is generalizing start with
  | nil => rfl
  | cons i is ih =>
    rw [List.foldl_cons, List.foldl_cons, ← ih]
    congr 1
    funext id
    show Upsert.put start.find (saveOrderRow (orders i)) id = (start.put (toRow (orders i))).find id
    rw [Keyed.find_put, Upsert.put, Function.update_apply]
    rfl

/-- **Saving in two steps is saving at once.** Any number of saves, any orders,
any schedule: the table is what the repository's `save` makes of it, one order
after the other as they were written. A save returns unless its order was new
and another insert has overtaken its own. -/
theorem saves_race (loads : String → Except PyError Json) (orders : ι → ServiceOrder T)
    (start : ServiceOrderTable) (sched : List ι) :
    let c := Upsert.play (fun i => saveOrderRow (orders i)) start.find sched
    (c.writers.Nodup ∧ ∀ i, i ∈ c.writers ↔ c.pcs i = .written) ∧
    c.table = (c.writers.foldl (fun s i =>
      (sqlAlchemyServiceOrderRepository loads).save (orders i) s) start).find ∧
    ∀ i, 2 ≤ sched.count i → (c.pcs i = .written ∨ c.pcs i = .refused) ∧
      (c.pcs i = .refused ↔ start.find (orders i).serviceOrderId = none ∧
        Upsert.Overtaken (fun i => saveOrderRow (orders i)) sched i) := by
  intro c
  have hinv := Upsert.play_inv (fun i => saveOrderRow (orders i)) start.find sched
  refine ⟨⟨hinv.nodup, hinv.written⟩, hinv.table.trans (foldl_save loads orders c.writers start),
    fun i hi => ⟨?_, Upsert.refused_iff _ _ hi⟩⟩
  rcases (Upsert.count_ended (fun i => saveOrderRow (orders i)) start.find sched i).2.2 hi with h | h
  · have hkeeps := (hinv.modes i).2 h
    cases hkeeps
  · exact h

/-- A new order, as two processes hold it. -/
def exNewOrder (first : Bool) : ServiceOrder Iso :=
  ⟨"customer-1", "vehicle-1", "Brake inspection", "os-1",
    if first then .quoteRequested else .quoteFailed, []⟩

/-- Two saves that both look before either inserts: the row is the first one's,
and the second insert raises. -/
theorem second_save_refused :
    let c := Upsert.play (fun b => saveOrderRow (exNewOrder b)) (Keyed.empty : ServiceOrderTable).find
      [true, false, true, false]
    c.table "os-1" = some (toRow (exNewOrder true)) ∧ c.pcs true = .written ∧
      c.pcs false = .refused := by
  intro c
  have h := saves_race (fun _ => .error (.valueError "")) exNewOrder Keyed.empty
    [true, false, true, false]
  have hwriters : c.writers = [true] := rfl
  refine ⟨?_, (h.1.2 true).mp (by decide), ((h.2.2 false (by decide)).2).mpr
    ⟨rfl, [true, false], true, [false], ⟨rfl, rfl, rfl, by decide⟩, by decide, rfl⟩⟩
  rw [show c.table = _ from h.2.1, hwriters]
  rfl

end Saves
end ServiceOrderOs.Concurrency
