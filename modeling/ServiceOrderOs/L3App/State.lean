import Mathlib.Data.Finset.Insert
import Mathlib.Logic.Function.Basic
import ServiceOrderOs.L2Domain.Lifecycle
import ServiceOrderOs.L2Domain.Registry

/-!
# What the use cases act on

`OrderStore` is the content of a service order repository: both adapters key
an order by its own id (the dictionary key of the one, the primary key column
of the other), so a store is a partial map that files every order under its
id. `Sys` adds the log of the publisher and the processed event ids.

The two runtime modes differ in what `get` returns: the in-memory repository
hands out the stored object itself, so a method that mutates it changes the
store at once, whether or not it raises and before any `save`; the SQL
repository builds a private copy. `onStored` is a method call on the object
`get` returned, in either mode.
-/
namespace ServiceOrderOs.App
open Py Domain

variable {T α : Type}

/-- mirrors src/infrastructure/config/settings.py:47 -/
inductive RuntimeMode where
  | memory | real
  deriving DecidableEq, Repr

@[ext] structure OrderStore (T : Type) where
  find : String → Option (ServiceOrder T)
  filed : ∀ id o, find id = some o → o.serviceOrderId = id

namespace OrderStore

def empty : OrderStore T := ⟨fun _ => none, fun _ _ h => by cases h⟩

/-- mirrors src/infrastructure/repositories/in_memory_service_order_repository.py:10-11,
src/infrastructure/repositories/sqlalchemy_service_order_repository.py:53-86 -/
def save (s : OrderStore T) (o : ServiceOrder T) : OrderStore T where
  find := Function.update s.find o.serviceOrderId (some o)
  filed := by
    intro id o' h
    by_cases hid : id = o.serviceOrderId
    · rw [hid, Function.update_self, Option.some.injEq] at h; rw [hid, h]
    · rw [Function.update_of_ne hid] at h; exact s.filed id o' h

/-- mirrors src/infrastructure/repositories/in_memory_service_order_repository.py:13-17,
src/infrastructure/repositories/sqlalchemy_service_order_repository.py:88-101 -/
def get (s : OrderStore T) (serviceOrderId : String) : Except PyError (ServiceOrder T) :=
  match s.find serviceOrderId with
  | some o => .ok o
  | none => .error (.keyError s!"Service order not found: {serviceOrderId}")

theorem get_error {s : OrderStore T} {id : String} (h : s.find id = none) :
    ∃ e, s.get id = .error e := by
  simp only [get, h]; exact ⟨_, rfl⟩

@[simp] theorem save_find_self (s : OrderStore T) (o : ServiceOrder T) :
    (s.save o).find o.serviceOrderId = some o := Function.update_self ..

theorem save_find_of_ne (s : OrderStore T) (o : ServiceOrder T) {id : String}
    (h : id ≠ o.serviceOrderId) : (s.save o).find id = s.find id := Function.update_of_ne h ..

theorem save_find (s : OrderStore T) (o : ServiceOrder T) (id : String) :
    (s.save o).find id = if id = o.serviceOrderId then some o else s.find id := by
  split
  · rename_i h; rw [h, save_find_self]
  · rename_i h; exact s.save_find_of_ne o h

/-- Saving over a stored order of the same id forgets the old one. -/
theorem save_save (s : OrderStore T) {o o' : ServiceOrder T}
    (h : o.serviceOrderId = o'.serviceOrderId) : (s.save o).save o' = s.save o' := by
  ext1; simp only [save]; rw [h, Function.update_idem]

/-- Saving what is stored already changes nothing. -/
theorem save_of_find {s : OrderStore T} {id : String} {o : ServiceOrder T}
    (h : s.find id = some o) : s.save o = s := by
  ext1; simp only [save]; rw [s.filed id o h, ← h, Function.update_eq_self]

end OrderStore

/-- `none`: the call to the publisher returns; `some e`: it raises `e` without
sending. -/
abbrev Publisher (T : Type) := DomainEvent T → Option PyError

/-- A publisher that does not fail. -/
def reliable : Publisher T := fun _ => none

structure Sys (T : Type) where
  orders : OrderStore T
  log : List (DomainEvent T)
  processed : Finset String

def Sys.empty : Sys T := ⟨.empty, [], ∅⟩

abbrev AppM (T α : Type) := EStateM PyError (Sys T) α

def lift (x : Except PyError α) : AppM T α := fun s =>
  match x with
  | .ok a => .ok a s
  | .error e => .error e s

@[simp] theorem lift_run_ok (a : α) (s : Sys T) : (lift (.ok a) : AppM T α).run s = .ok a s := rfl

def saveOrder (o : ServiceOrder T) : AppM T Unit :=
  modify fun s => { s with orders := s.orders.save o }

def publish (pub : Publisher T) (e : DomainEvent T) : AppM T Unit := do
  match pub e with
  | some err => throw err
  | none => modify fun s => { s with log := s.log ++ [e] }

/-- A method call on an object no repository holds. -/
def onLocal (m : Method T α) (o : ServiceOrder T) : AppM T (α × ServiceOrder T) := fun s =>
  match m.run o with
  | .ok a o' => .ok (a, o') s
  | .error e _ => .error e s

/-- The store once an object that `get` returned has been mutated to `o`. -/
def touch (mode : RuntimeMode) (o : ServiceOrder T) (s : Sys T) : Sys T :=
  match mode with
  | .memory => { s with orders := s.orders.save o }
  | .real => s

/-- A method call on the object `get` returned. -/
def onStored (mode : RuntimeMode) (m : Method T α) (o : ServiceOrder T) :
    AppM T (α × ServiceOrder T) := fun s =>
  match m.run o with
  | .ok a o' => .ok (a, o') (touch mode o' s)
  | .error e o' => .error e (touch mode o' s)

theorem touch_of_find (mode : RuntimeMode) {o : ServiceOrder T} {s : Sys T}
    {id : String} (h : s.orders.find id = some o) : touch mode o s = s := by
  cases mode with
  | memory => simp only [touch, OrderStore.save_of_find h]
  | real => rfl

end ServiceOrderOs.App
