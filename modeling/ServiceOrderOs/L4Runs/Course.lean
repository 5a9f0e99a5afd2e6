import ServiceOrderOs.L4Runs.EventLog
import ServiceOrderOs.L4Runs.SagaTable

/-!
# The course of an order

What the events make of an order, the times apart: a function on its status and
its entries, read off the table row by row.

* `next_cases`: one event, accepted or refused.
* `follow`: events one after the other, as orders that are settled.
* `next_again`, `next_announced`: an event that was accepted before, and one that
  the order has itself announced, change nothing.
-/
namespace ServiceOrderOs.Runs
open Core Py Domain App

variable {T : Type}

/-- The entries are statuses with their reasons. -/
structure Course where
  status : ServiceOrderStatus
  entries : List (ServiceOrderStatus × String)
  deriving DecidableEq, Repr

def courseOf (o : ServiceOrder T) : Course where
  status := o.status
  entries := o.history.map fun h => (h.status, h.reason)

instance (kind : Kind) (st : ServiceOrderStatus) : Decidable (kind.Allows st) :=
  match kind with
  | .note => isTrue trivial
  | .forward predecessor => inferInstanceAs (Decidable (st = predecessor))
  | .failure => inferInstanceAs (Decidable (st ∉ terminalStatuses))

/-- The payload has what the row needs. -/
def Row.fed (row : Row) (event : DomainEvent T) : Bool :=
  row.needs.all fun key => (event.payload.get? key).isSome

namespace Course

def next (c : Course) (event : DomainEvent T) : Course :=
  match rowOf event.eventType with
  | none => c
  | some row =>
    if row.fed event = true ∧ row.kind.Allows c.status then
      ⟨row.ends c.status, c.entries ++ row.steps⟩
    else c

def after (c : Course) (events : List (DomainEvent T)) : Course := events.foldl next c

@[simp] theorem after_nil (c : Course) : c.after ([] : List (DomainEvent T)) = c := rfl

@[simp] theorem after_cons (c : Course) (event : DomainEvent T) (events : List (DomainEvent T)) :
    c.after (event :: events) = (c.next event).after events := rfl

@[simp] theorem after_append (c : Course) (events events' : List (DomainEvent T)) :
    c.after (events ++ events') = (c.after events).after events' := List.foldl_append

end Course

theorem Row.applies_iff {row : Row} {event : DomainEvent T} {o : ServiceOrder T} :
    row.Applies event o ↔ row.fed event = true ∧ row.kind.Allows o.status := by
  have hfed : row.fed event = true ↔
      ∀ key, row.needs = some key → (event.payload.get? key).isSome := by
    unfold Row.fed
    cases row.needs <;> simp
  rw [hfed]
  exact ⟨fun h => ⟨h.payload, h.status⟩, fun h => ⟨h.1, h.2⟩⟩

/-- No row records more than two entries. -/
theorem rowOf_steps {eventType : String} {row : Row} (h : rowOf eventType = some row) :
    row.steps.length ≤ 2 := by
  rcases rowOf_cases h with ⟨-, rfl⟩ | ⟨-, rfl⟩ | ⟨k, -, rfl⟩
  · exact Nat.zero_le 2
  · exact Nat.le_refl 2
  · cases k <;> exact Nat.le_succ 1

theorem courseOf_after {row : Row} (h : row.steps.length ≤ 2) (g g' : Stamp T)
    (o : ServiceOrder T) : courseOf (row.after g g' o) =
      ⟨row.ends o.status, (courseOf o).entries ++ row.steps⟩ := by
  have hsteps : (row.entries g g').map (fun x => (x.status, x.reason)) = row.steps := by
    rw [Row.entries, List.map_map]
    show (row.steps.zip [g, g']).map Prod.fst = row.steps
    exact List.map_fst_zip h
  simp only [courseOf, Row.after, List.map_append, hsteps]

variable [Runtime T] {event : DomainEvent T} {o o' o₁ o₁' : ServiceOrder T} {g g' : Stamp T}
  {out out₁ : Option (DomainEvent T)}

theorem next_of_accepts (ha : Accepts event g g' o o' out) :
    courseOf o' = (courseOf o).next event := by
  obtain ⟨row, hrow, happ, rfl, -⟩ := accepts_iff_row.mp ha
  have hallowed : row.fed event = true ∧ row.kind.Allows (courseOf o).status :=
    Row.applies_iff.mp happ
  unfold Course.next
  rw [hrow, courseOf_after (rowOf_steps hrow)]
  dsimp only
  rw [if_pos hallowed]
  rfl

theorem next_of_refused (h : ∀ o' out, ¬ Accepts event g g' o o' out) :
    (courseOf o).next event = courseOf o := by
  unfold Course.next
  cases hrow : rowOf event.eventType with
  | none => rfl
  | some row =>
    dsimp only
    refine if_neg fun hallowed => ?_
    exact h _ _ (accepts_iff_row.mpr ⟨row, hrow, Row.applies_iff.mpr hallowed, rfl, rfl⟩)

theorem next_cases (event : DomainEvent T) (g g' : Stamp T) (o : ServiceOrder T) :
    (∃ o' out, Accepts event g g' o o' out ∧ courseOf o' = (courseOf o).next event) ∨
      (∀ o' out, ¬ Accepts event g g' o o' out) ∧ (courseOf o).next event = courseOf o := by
  by_cases h : ∃ o' out, Accepts event g g' o o' out
  · obtain ⟨o', out, ha⟩ := h
    exact .inl ⟨o', out, ha, next_of_accepts ha⟩
  · have hno : ∀ o' out, ¬ Accepts event g g' o o' out := fun o' out ha => h ⟨o', out, ha⟩
    exact .inr ⟨hno, next_of_refused hno⟩

/-- A course is that of some order, whose history extends the one it comes from. -/
theorem follow (hs : Settled o) (events : List (DomainEvent T)) : ∃ o', Settled o' ∧
    o'.serviceOrderId = o.serviceOrderId ∧ o.history <+: o'.history ∧
      courseOf o' = (courseOf o).after events := by
  induction events generalizing o with
  | nil => exact ⟨o, hs, rfl, List.prefix_rfl, rfl⟩
  | cons event events ih =>
    let g : Stamp T := ⟨event.occurredAt, "", event.occurredAt⟩
    rw [Course.after_cons]
    rcases next_cases event g g o with ⟨o₁, out, ha, hnext⟩ | ⟨-, hnext⟩
    · obtain ⟨o', hs', hid, hg, hcourse⟩ := ih (accepts_settled hs ha)
      exact ⟨o', hs', hid.trans ha.id_eq, (accepts_grows ha).trans hg, by rw [hcourse, hnext]⟩
    · rw [hnext]
      exact ih hs

/-! ## Events that change nothing -/

/-- An event accepted before. -/
theorem next_again (hw : WellFormed o) (h₁ : Accepts event g g' o₁ o₁' out₁)
    (hg : o₁'.history <+: o.history) : (courseOf o).next event = courseOf o := by
  rcases next_cases event g g o with ⟨o', out, ha, hnext⟩ | ⟨-, hnext⟩
  · have hnoted := accepts_not_again hw h₁ hg ha
    obtain ⟨rfl, -⟩ := ha.unique (.noted hnoted)
    exact hnext.symm
  · exact hnext

/-- An event that the order has announced. -/
theorem next_announced (hw : WellFormed o) {x : ServiceOrderHistoryEntry T} (hx : x ∈ o.history)
    (hn : (noticeOf x).map Notice.eventType = some event.eventType) :
    (courseOf o).next event = courseOf o := by
  let g : Stamp T := ⟨event.occurredAt, "", event.occurredAt⟩
  have hno : ∀ o' out, ¬ Accepts event g g o o' out := fun o' out => announced_not_accepted hw hx hn
  exact next_of_refused hno

end ServiceOrderOs.Runs
