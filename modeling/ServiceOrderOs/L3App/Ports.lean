import ServiceOrderOs.Core.Related
import ServiceOrderOs.L3App.Acceptance

/-!
# The use cases over any repository

The use cases know a repository by its port. Here they take it as an argument,
over whatever the repository keeps (`σ`); over the store of `State` they are
the use cases of `UseCases` (`openOn_store`, `handleOn_store`).

A port has one operation the protocol does not name: `mutated`, what becomes of
the repository when an object its `get` handed out is mutated.

* `Simulates`: two repositories that answer alike in related states, where a
  mutation is followed by the save of its object.
* `openOn_alike`, `handleOn_alike`: over them the use cases cannot be told
  apart. The events that are refused are where `mutated` counts.
-/
namespace ServiceOrderOs.App
open Core Py Domain HandleSagaEventUseCase

variable {T σ τ α : Type}

/-- mirrors src/application/ports.py:12-17 -/
structure ServiceOrderRepository (T σ : Type) where
  save : ServiceOrder T → σ → σ
  get : String → σ → Except PyError (ServiceOrder T)
  mutated : ServiceOrder T → σ → σ

/-- Saving an order touches no other. -/
def ServiceOrderRepository.Files (repo : ServiceOrderRepository T σ) : Prop :=
  ∀ o id s, id ≠ o.serviceOrderId → repo.get id (repo.save o s) = repo.get id s

/-- What a repository keeps, and the log of the publisher. -/
structure Service (T σ : Type) where
  orders : σ
  log : List (DomainEvent T)

abbrev ServiceM (T σ α : Type) := EStateM PyError (Service T σ) α

def liftOn (x : Except PyError α) : ServiceM T σ α := fun s =>
  match x with
  | .ok a => .ok a s
  | .error e => .error e s

def publishOn (pub : Publisher T) (e : DomainEvent T) : ServiceM T σ Unit := do
  match pub e with
  | some err => throw err
  | none => modify fun s => { s with log := s.log ++ [e] }

def saveOn (repo : ServiceOrderRepository T σ) (o : ServiceOrder T) : ServiceM T σ Unit :=
  modify fun s => { s with orders := repo.save o s.orders }

def getOn (repo : ServiceOrderRepository T σ) (serviceOrderId : String) :
    ServiceM T σ (ServiceOrder T) := do
  liftOn (repo.get serviceOrderId (← get).orders)

/-- A method call on an object no repository holds. -/
def callLocal (m : Method T α) (o : ServiceOrder T) : ServiceM T σ (α × ServiceOrder T) := fun s =>
  match m.run o with
  | .ok a o' => .ok (a, o') s
  | .error e _ => .error e s

/-- A method call on an object `get` handed out. -/
def callOn (repo : ServiceOrderRepository T σ) (m : Method T α) (o : ServiceOrder T) :
    ServiceM T σ (α × ServiceOrder T) := fun s =>
  match m.run o with
  | .ok a o' => .ok (a, o') { s with orders := repo.mutated o' s.orders }
  | .error e o' => .error e { s with orders := repo.mutated o' s.orders }

theorem liftOn_run (x : Except PyError α) (s : Service T σ) :
    (liftOn x).run s = match x with
      | .ok a => .ok a s
      | .error e => .error e s := rfl

theorem callLocal_run (m : Method T α) (o : ServiceOrder T) (s : Service T σ) :
    (callLocal m o).run s = match m.run o with
      | .ok a o' => .ok (a, o') s
      | .error e _ => .error e s := rfl

theorem saveOn_run (repo : ServiceOrderRepository T σ) (o : ServiceOrder T) (s : Service T σ) :
    (saveOn repo o).run s = .ok () { s with orders := repo.save o s.orders } := rfl

theorem publishOn_run (pub : Publisher T) (e : DomainEvent T) (s : Service T σ) :
    (publishOn pub e).run s = match pub e with
      | some err => .error err s
      | none => .ok () { s with log := s.log ++ [e] } := by
  unfold publishOn
  cases pub e <;> rfl

/-- `ensureValid` is the check of customer and vehicle.
mirrors src/application/use_cases.py:42-55 -/
def openOn (repo : ServiceOrderRepository T σ) (pub : Publisher T)
    (ensureValid : String → String → Except PyError Unit) (command : OpenServiceOrderCommand)
    (uuid : String) (now : T) (g : Stamp T) : ServiceM T σ (ServiceOrder T) := do
  liftOn (ensureValid command.customerId command.vehicleId)
  let serviceOrder ← liftOn
    (ServiceOrder.open command.customerId command.vehicleId command.description uuid now)
  let (event, serviceOrder) ← callLocal (ServiceOrder.requestQuote g) serviceOrder
  saveOn repo serviceOrder
  publishOn pub event
  return serviceOrder

/-- mirrors src/application/use_cases.py:79-88 -/
def handleOn [Runtime T] (repo : ServiceOrderRepository T σ) (pub : Publisher T)
    (event : DomainEvent T) (g g' : Stamp T) : ServiceM T σ (ServiceOrder T) := do
  let serviceOrder ← getOn repo (serviceOrderId event)
  let (nextEvent, serviceOrder) ← callOn repo (apply event g g') serviceOrder
  saveOn repo serviceOrder
  if let some e := nextEvent then publishOn pub e
  return serviceOrder

/-! ## Over the store of the earlier layers -/

/-- mirrors src/infrastructure/runtime.py:44-47, over the abstract store -/
def storeRepository (mode : RuntimeMode) : ServiceOrderRepository T (OrderStore T) where
  save o s := s.save o
  get id s := s.get id
  mutated o s := match mode with
    | .memory => s.save o
    | .real => s

def Sys.service (s : Sys T) : Service T (OrderStore T) := ⟨s.orders, s.log⟩

/-- The states agree but for the processed event ids, which the use cases leave
alone. -/
def SameService (s : Sys T) (t : Service T (OrderStore T)) : Prop := t = s.service

theorem saveOn_store (mode : RuntimeMode) (o : ServiceOrder T) :
    Alike SameService (saveOrder o) (saveOn (storeRepository mode) o) := by
  intro s t h
  subst h
  exact .ok () rfl

theorem publishOn_store (pub : Publisher T) (e : DomainEvent T) :
    Alike SameService (publish pub e) (publishOn pub e) := by
  intro s t h
  subst h
  simp only [publish, publishOn]
  cases pub e with
  | none => exact .ok () rfl
  | some err => exact .error err rfl

theorem liftOn_store (x : Except PyError α) :
    Alike SameService (lift x : AppM T α) (liftOn x) := by
  intro s t h
  cases x with
  | ok a => exact .ok a h
  | error e => exact .error e h

theorem openOn_store (mode : RuntimeMode) (pub : Publisher T) (regs : Registries T)
    (command : OpenServiceOrderCommand) (uuid : String) (now : T) (g : Stamp T) :
    Alike SameService (OpenServiceOrderUseCase.execute pub regs command uuid now g)
      (openOn (storeRepository mode) pub
        (OpenServiceOrderUseCase.ensureCustomerVehicleAreValid regs) command uuid now g) := by
  refine (liftOn_store _).bind fun _ => (liftOn_store _).bind fun o => Alike.bind ?_ fun p =>
    (saveOn_store mode _).bind fun _ => (publishOn_store pub _).bind fun _ => .pure _
  intro s t h
  simp only [onLocal, callLocal, EStateM.run]
  cases ServiceOrder.requestQuote g o with
  | ok a o' => exact .ok _ h
  | error e o' => exact .error e h

theorem handleOn_store [Runtime T] (mode : RuntimeMode) (pub : Publisher T)
    (event : DomainEvent T) (g g' : Stamp T) :
    Alike SameService (HandleSagaEventUseCase.execute mode pub event g g')
      (handleOn (storeRepository mode) pub event g g') := by
  have hget : Alike SameService (do lift ((← get).orders.get (serviceOrderId event)) : AppM T _)
      (getOn (storeRepository mode) (serviceOrderId event)) := by
    intro s t h
    subst h
    exact liftOn_store _ s _ rfl
  have hcall : ∀ o, Alike SameService (onStored mode (apply event g g') o)
      (callOn (storeRepository mode) (apply event g g') o) := by
    intro o s t h
    subst h
    simp only [onStored, callOn, EStateM.run]
    cases apply event g g' o with
    | ok a o' => cases mode <;> exact .ok _ rfl
    | error e o' => cases mode <;> exact .error e rfl
  have hrest : ∀ p : Option (DomainEvent T) × ServiceOrder T,
      Alike SameService (do if let some e := p.1 then publish pub e
                            return p.2)
        (do if let some e := p.1 then publishOn pub e
            return p.2) := by
    intro p
    cases p.1 with
    | none => exact .pure _
    | some e => exact (publishOn_store pub e).bind fun _ => .pure _
  have h := hget.bind fun o => (hcall o).bind fun p => (saveOn_store mode p.2).bind fun _ =>
    hrest p
  exact h

/-! ## Repositories that answer alike -/

/-- What the callers of a repository rely on to find another in its place. An
object that has been mutated is saved, or is as `get` returned it. -/
structure Simulates (r : ServiceOrderRepository T σ) (r' : ServiceOrderRepository T τ)
    (R : σ → τ → Prop) : Prop where
  get : ∀ s t, R s t → ∀ id, r.get id s = r'.get id t
  save : ∀ s t, R s t → ∀ o, R (r.save o s) (r'.save o t)
  unmutated : ∀ s t, R s t → ∀ id o, r.get id s = .ok o → R (r.mutated o s) (r'.mutated o t)
  mutated : ∀ s t, R s t → ∀ id o o', r.get id s = .ok o →
    o'.serviceOrderId = o.serviceOrderId →
    R (r.save o' (r.mutated o' s)) (r'.save o' (r'.mutated o' t))

/-- Related stores and the same log. -/
structure SameLog (R : σ → τ → Prop) (s : Service T σ) (t : Service T τ) : Prop where
  orders : R s.orders t.orders
  log : s.log = t.log

section Alike
variable {r : ServiceOrderRepository T σ} {r' : ServiceOrderRepository T τ} {R : σ → τ → Prop}

theorem liftOn_alike (x : Except PyError α) :
    Alike (SameLog R) (liftOn x : ServiceM T σ α) (liftOn x : ServiceM T τ α) := by
  intro s t h
  cases x with
  | ok a => exact .ok a h
  | error e => exact .error e h

theorem publishOn_alike (pub : Publisher T) (e : DomainEvent T) :
    Alike (SameLog R) (publishOn pub e : ServiceM T σ Unit) (publishOn pub e) := by
  intro s t h
  simp only [publishOn]
  cases pub e with
  | none => exact .ok () ⟨h.orders, congrArg (· ++ [e]) h.log⟩
  | some err => exact .error err h

theorem saveOn_alike (hr : Simulates r r' R) (o : ServiceOrder T) :
    Alike (SameLog R) (saveOn r o) (saveOn r' o) := by
  intro s t h
  exact .ok () ⟨hr.save _ _ h.orders o, h.log⟩

theorem callLocal_alike (m : Method T α) (o : ServiceOrder T) :
    Alike (SameLog R) (callLocal m o : ServiceM T σ _) (callLocal m o) := by
  intro s t h
  simp only [callLocal, EStateM.run]
  cases m o with
  | ok a o' => exact .ok _ h
  | error e o' => exact .error e h

theorem openOn_alike (hr : Simulates r r' R) (pub : Publisher T)
    (ensureValid : String → String → Except PyError Unit) (command : OpenServiceOrderCommand)
    (uuid : String) (now : T) (g : Stamp T) :
    Alike (SameLog R) (openOn r pub ensureValid command uuid now g)
      (openOn r' pub ensureValid command uuid now g) :=
  (liftOn_alike _).bind fun _ => (liftOn_alike _).bind fun _ => (callLocal_alike _ _).bind
    fun _ => (saveOn_alike hr _).bind fun _ => (publishOn_alike pub _).bind fun _ => .pure _

/-- The object found and the save that follows its mutation are one step here:
between the two the stores need not be related. -/
theorem handleOn_alike [Runtime T] (hr : Simulates r r' R) (pub : Publisher T)
    (event : DomainEvent T) (g g' : Stamp T) :
    Alike (SameLog R) (handleOn r pub event g g') (handleOn r' pub event g g') := by
  intro s t h
  have hget := hr.get _ _ h.orders (serviceOrderId event)
  simp only [handleOn, EStateM.run_bind, getOn, EStateM.run_get]
  rw [← hget]
  cases hg : r.get (serviceOrderId event) s.orders with
  | error e => exact .error e h
  | ok o =>
    simp only [liftOn, callOn, EStateM.run]
    rcases apply_run event g g' o with ⟨o', out, ha, hrun⟩ | ⟨-, e, hrun⟩
    · simp only [EStateM.run] at hrun
      rw [hrun]
      have hsaved : SameLog R ⟨r.save o' (r.mutated o' s.orders), s.log⟩
          ⟨r'.save o' (r'.mutated o' t.orders), t.log⟩ :=
        ⟨hr.mutated _ _ h.orders _ o o' hg ha.id_eq, h.log⟩
      cases out with
      | none => exact .ok o' hsaved
      | some e =>
        exact (publishOn_alike pub e).bind (fun _ => .pure o') _ _ hsaved
    · -- a refused event leaves the object as it was found
      simp only [EStateM.run] at hrun
      rw [hrun]
      exact .error e ⟨hr.unmutated _ _ h.orders _ o hg, h.log⟩

end Alike
end ServiceOrderOs.App
