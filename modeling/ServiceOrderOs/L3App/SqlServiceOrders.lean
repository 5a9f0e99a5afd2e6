import ServiceOrderOs.Core.Keyed
import ServiceOrderOs.L3App.Ports

/-!
# The two service order repositories

The in-memory repository is a dictionary of the order objects themselves. The
SQL repository is a table of rows, a status as its text and the history as a
JSON array; `get` builds a fresh order from the row it reads. Of the database
it is assumed that a row reads as it was last written.

* `fromRow_toRow`: the row codec loses nothing.
* `memory_simulates_sql`: neither repository can be told from the other by the
  use cases.
-/
namespace ServiceOrderOs.App
open Core Py Domain

variable {T : Type} [Runtime T]

/-! ## In memory -/

/-- mirrors src/infrastructure/repositories/in_memory_service_order_repository.py:6-17 -/
abbrev InMemoryServiceOrders (T : Type) := Keyed (ServiceOrder.serviceOrderId (T := T))

def serviceOrderNotFound (serviceOrderId : String) : PyError :=
  .keyError s!"Service order not found: {serviceOrderId}"

def inMemoryServiceOrderRepository : ServiceOrderRepository T (InMemoryServiceOrders T) where
  save o s := s.put o
  get id s := match s.find id with
    | some o => .ok o
    | none => .error (serviceOrderNotFound id)
  mutated o s := s.put o

/-! ## The table -/

/-- mirrors src/infrastructure/repositories/sqlalchemy_service_order_repository.py:19-28 -/
structure ServiceOrderRow where
  serviceOrderId : String
  customerId : String
  vehicleId : String
  description : String
  status : String
  history : Json

def ServiceOrderStatus.all : List ServiceOrderStatus :=
  [.opened, .quoteRequested, .quoteFailed, .quoteApproved, .paymentPending, .paymentConfirmed,
    .paymentFailed, .executionRequested, .executionEnqueueFailed, .executionInProgress,
    .executionFailed, .completed]

/-- `ServiceOrderStatus(value)` -/
def ServiceOrderStatus.ofValue (T : Type) [Runtime T] (value : String) :
    Except PyError ServiceOrderStatus :=
  match all.find? fun st => st.value = value with
  | some st => .ok st
  | none => .error (.valueError
      s!"{reprStr (Runtime.isprintable T) value} is not a valid ServiceOrderStatus")

def historyToRow (entry : ServiceOrderHistoryEntry T) : Json :=
  .obj [("status", .str entry.status.value), ("reason", .str entry.reason),
    ("created_at", .str (Runtime.isoformat entry.createdAt))]

/-- mirrors src/infrastructure/repositories/sqlalchemy_service_order_repository.py:54-68 -/
def toRow (serviceOrder : ServiceOrder T) : ServiceOrderRow where
  serviceOrderId := serviceOrder.serviceOrderId
  customerId := serviceOrder.customerId
  vehicleId := serviceOrder.vehicleId
  description := serviceOrder.description
  status := serviceOrder.status.value
  history := .arr (serviceOrder.history.map historyToRow)

def historyFromRow (entry : Json) : Except PyError (ServiceOrderHistoryEntry T) := do
  let status ← ServiceOrderStatus.ofValue T ((← entry.subscript "status").toStr T)
  let reason := (← entry.subscript "reason").toStr T
  let createdAt ← fromisoformat ((← entry.subscript "created_at").toStr T)
  return ⟨status, reason, createdAt⟩

/-- `loads` is `json.loads`, for a driver that returns the column as text.
mirrors src/infrastructure/repositories/sqlalchemy_service_order_repository.py:103-121 -/
def fromRow (loads : String → Except PyError Json) (row : ServiceOrderRow) :
    Except PyError (ServiceOrder T) := do
  let rawHistory ← match row.history with
    | .str text => loads text
    | v => .ok v
  let status ← ServiceOrderStatus.ofValue T row.status
  let history ← (← rawHistory.iterate).mapM historyFromRow
  return ⟨row.customerId, row.vehicleId, row.description, row.serviceOrderId, status, history⟩

abbrev ServiceOrderTable := Keyed ServiceOrderRow.serviceOrderId

/-- mirrors src/infrastructure/repositories/sqlalchemy_service_order_repository.py:53-101 -/
def sqlAlchemyServiceOrderRepository (loads : String → Except PyError Json) :
    ServiceOrderRepository T ServiceOrderTable where
  save o s := s.put (toRow o)
  get id s := match s.find id with
    | some row => fromRow loads row
    | none => .error (serviceOrderNotFound id)
  mutated _ s := s

omit [Runtime T] in
theorem inMemory_files : (inMemoryServiceOrderRepository (T := T)).Files := by
  intro o id s hne
  simp only [inMemoryServiceOrderRepository, Keyed.find_put, if_neg hne]

theorem sqlAlchemy_files (loads : String → Except PyError Json) :
    (sqlAlchemyServiceOrderRepository (T := T) loads).Files := by
  intro o id s hne
  simp only [sqlAlchemyServiceOrderRepository, Keyed.find_put,
    if_neg (show ¬ id = (toRow o).serviceOrderId from hne)]

/-! ## The row codec -/

theorem ServiceOrderStatus.ofValue_value (st : ServiceOrderStatus) :
    ofValue T st.value = .ok st := by
  cases st <;> rfl

theorem historyFromRow_historyToRow (hiso : IsoRoundTrip T) (entry : ServiceOrderHistoryEntry T) :
    historyFromRow (historyToRow entry) = .ok entry := by
  have h1 : (historyToRow entry).subscript "status" = .ok (.str entry.status.value) := rfl
  have h2 : (historyToRow entry).subscript "reason" = .ok (.str entry.reason) := rfl
  have h3 : (historyToRow entry).subscript "created_at" =
    .ok (.str (Runtime.isoformat entry.createdAt)) := rfl
  simp only [historyFromRow, h1, h2, h3, bind, Except.bind, Json.toStr_str,
    ServiceOrderStatus.ofValue_value, fromisoformat_isoformat hiso]
  rfl

/-- What is saved is what is read back. -/
theorem fromRow_toRow (hiso : IsoRoundTrip T) (loads : String → Except PyError Json)
    (o : ServiceOrder T) : fromRow loads (toRow o) = .ok o := by
  have hh := mapM_map_ok (historyFromRow_historyToRow hiso) o.history
  simp only [fromRow, toRow, Json.iterate, bind, Except.bind, ServiceOrderStatus.ofValue_value, hh]
  rfl

/-! ## The simulation -/

/-- The table has the row of each order the dictionary has, and no other. -/
def Encodes (s : InMemoryServiceOrders T) (t : ServiceOrderTable) : Prop :=
  ∀ id, t.find id = (s.find id).map toRow

theorem Encodes.put {s : InMemoryServiceOrders T} {t : ServiceOrderTable} (h : Encodes s t)
    (o : ServiceOrder T) : Encodes (s.put o) (t.put (toRow o)) := by
  intro id
  rw [Keyed.find_put, Keyed.find_put, h id]
  by_cases hid : id = o.serviceOrderId
  · rw [if_pos hid, if_pos (show id = (toRow o).serviceOrderId from hid)]; rfl
  · rw [if_neg hid, if_neg (show ¬ id = (toRow o).serviceOrderId from hid)]

omit [Runtime T] in
/-- Mutating a stored object and then saving it is saving it. -/
theorem put_put (s : InMemoryServiceOrders T) (o : ServiceOrder T) :
    (s.put o).put o = s.put o :=
  Keyed.put_of_find (Keyed.find_put_self s o)

omit [Runtime T] in
theorem inMemory_get_ok {s : InMemoryServiceOrders T} {id : String} {o : ServiceOrder T}
    (h : inMemoryServiceOrderRepository.get id s = .ok o) : s.find id = some o := by
  simp only [inMemoryServiceOrderRepository] at h
  cases hf : s.find id with
  | none => rw [hf] at h; cases h
  | some o' => rw [hf] at h; cases h; rfl

theorem memory_simulates_sql (hiso : IsoRoundTrip T) (loads : String → Except PyError Json) :
    Simulates (T := T) inMemoryServiceOrderRepository (sqlAlchemyServiceOrderRepository loads)
      Encodes where
  get s t h id := by
    simp only [inMemoryServiceOrderRepository, sqlAlchemyServiceOrderRepository, h id]
    cases s.find id with
    | none => rfl
    | some o => exact (fromRow_toRow hiso loads o).symm
  save s t h o := h.put o
  unmutated s t h id o ho := by
    show Encodes (s.put o) t
    rw [Keyed.put_of_find (inMemory_get_ok ho)]; exact h
  mutated s t h id o o' _ _ := by
    show Encodes ((s.put o').put o') (t.put (toRow o'))
    rw [put_put]; exact h.put o'

end ServiceOrderOs.App
