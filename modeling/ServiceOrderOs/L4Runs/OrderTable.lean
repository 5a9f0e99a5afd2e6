import ServiceOrderOs.L1Values.JsonDocument
import ServiceOrderOs.L3App.SqlRegistries
import ServiceOrderOs.L3App.SqlServiceOrders

/-!
# The table of service orders is a map

`save` looks for the id of the order and then inserts its row or updates the row
there is; `get` reads the row, whose JSON column the driver may hand out as a
value or as its text. The specification knows only the orders saved so far.

* `save_eq`: an `INSERT` and an `UPDATE` both put the row, and neither is refused.
* `fromRow_column`: a row is read alike from both shapes of the column.
* `order_table_faithful`: every call is answered from the last save of its id.
-/
namespace ServiceOrderOs.Runs
open Core Py Domain App

variable {T : Type} [Runtime T]

/-- How a driver hands out a JSON column. -/
inductive JsonColumn where
  | value | text

def JsonColumn.read (column : JsonColumn) (v : Json) : Json :=
  match column with
  | .value => v
  | .text => .str v.dumps

/-- The table has no unique column but its key. -/
def orderUnique : List (ServiceOrderRow → Option String) := []

/-- mirrors src/infrastructure/repositories/sqlalchemy_service_order_repository.py:53-86 -/
def saveOrderRow (serviceOrder : ServiceOrder T) (t : ServiceOrderTable) :
    Except RegistryError ServiceOrderTable :=
  let values := toRow serviceOrder
  match t.find serviceOrder.serviceOrderId with
  | none => executed (t.insert orderUnique values)
  | some _ => executed (t.update orderUnique values)

/-- mirrors src/infrastructure/repositories/sqlalchemy_service_order_repository.py:88-101 -/
def getOrderRow (py : Codecs) (column : JsonColumn) (serviceOrderId : String)
    (t : ServiceOrderTable) : Except PyError (ServiceOrder T) :=
  tableGet serviceOrderNotFound
    (fun row => fromRow py.loads { row with history := column.read row.history }) t serviceOrderId

/-! ## Calls -/

inductive RepositoryCall (T : Type) where
  | save (serviceOrder : ServiceOrder T)
  | get (serviceOrderId : String) (column : JsonColumn)

/-- What a call returns or raises; `save` returns nothing. -/
abbrev RepositoryReply (T : Type) := Except RegistryError (Option (ServiceOrder T))

def RepositoryCall.run (py : Codecs) (t : ServiceOrderTable) :
    RepositoryCall T → RepositoryReply T × ServiceOrderTable
  | .save serviceOrder => match saveOrderRow serviceOrder t with
    | .ok t' => (.ok none, t')
    | .error e => (.error e, t)
  | .get serviceOrderId column => match getOrderRow py column serviceOrderId t with
    | .ok o => (.ok (some o), t)
    | .error e => (.error (.py e), t)

def replies (py : Codecs) : ServiceOrderTable → List (RepositoryCall T) → List (RepositoryReply T)
  | _, [] => []
  | t, c :: cs => (c.run py t).1 :: replies py (c.run py t).2 cs

/-! ## The specification -/

/-- The order of the last save with this id. -/
def lastSaved (saved : List (ServiceOrder T)) (serviceOrderId : String) :
    Option (ServiceOrder T) :=
  saved.reverse.find? fun o => o.serviceOrderId = serviceOrderId

/-- What the calls should return after the saves `saved`. -/
def expected : List (ServiceOrder T) → List (RepositoryCall T) → List (RepositoryReply T)
  | _, [] => []
  | saved, .save serviceOrder :: cs => .ok none :: expected (saved ++ [serviceOrder]) cs
  | saved, .get serviceOrderId _ :: cs =>
    (match lastSaved saved serviceOrderId with
      | some o => .ok (some o)
      | none => .error (.py (serviceOrderNotFound serviceOrderId))) :: expected saved cs

omit [Runtime T] in
theorem lastSaved_append (saved : List (ServiceOrder T)) (o : ServiceOrder T) (id : String) :
    lastSaved (saved ++ [o]) id = if id = o.serviceOrderId then some o else lastSaved saved id := by
  unfold lastSaved
  rw [List.reverse_append, List.reverse_singleton, List.singleton_append, List.find?_cons]
  by_cases h : id = o.serviceOrderId
  · rw [if_pos h, decide_eq_true h.symm]
  · rw [if_neg h, decide_eq_false (Ne.symm h)]

/-! ## The table -/

theorem not_clash (t : ServiceOrderTable) (row : ServiceOrderRow) : ¬ t.Clash orderUnique row := by
  rintro ⟨b, -, -, c, hc, -⟩
  cases hc

/-- Whether the row is inserted or updated, it is put. -/
theorem save_eq (o : ServiceOrder T) (t : ServiceOrderTable) :
    saveOrderRow o t = .ok (t.put (toRow o)) := by
  unfold saveOrderRow
  dsimp only
  cases hf : t.find o.serviceOrderId with
  | none =>
    have hnew : t.find (toRow o).serviceOrderId = none := hf
    dsimp only
    rw [Keyed.insert_new hnew, if_neg (not_clash t _)]
    rfl
  | some row =>
    have hold : t.find (toRow o).serviceOrderId = some row := hf
    dsimp only
    rw [Keyed.update_old hold, if_neg (not_clash t _)]
    rfl

theorem history_wellFormed (isRepr : String → Prop) (o : ServiceOrder T) :
    (toRow o).history.WellFormed isRepr := by
  refine .arr fun entry hentry => ?_
  obtain ⟨h, -, rfl⟩ := List.mem_map.mp hentry
  exact strings_wellFormed [("status", h.status.value), ("reason", h.reason),
    ("created_at", Runtime.isoformat h.createdAt)] (by simp)

theorem fromRow_column {py : Codecs} (hpy : py.Inverts) (hiso : IsoRoundTrip T)
    (column : JsonColumn) (o : ServiceOrder T) :
    fromRow py.loads { toRow o with history := column.read (toRow o).history } = .ok o := by
  cases column with
  | value => exact fromRow_toRow hiso py.loads o
  | text =>
    rw [← fromRow_toRow hiso py.loads o]
    show (py.loads (toRow o).history.dumps >>= _) = _
    rw [hpy.loads_dumps _ (history_wellFormed _ o)]
    rfl

/-- The table has the row of the last save of each id. -/
def TableHolds (t : ServiceOrderTable) (saved : List (ServiceOrder T)) : Prop :=
  ∀ id, t.find id = (lastSaved saved id).map toRow

theorem TableHolds.save {t : ServiceOrderTable} {saved : List (ServiceOrder T)}
    (h : TableHolds t saved) (o : ServiceOrder T) :
    TableHolds (t.put (toRow o)) (saved ++ [o]) := by
  intro id
  rw [Keyed.find_put, lastSaved_append, h id]
  by_cases hid : id = o.serviceOrderId
  · rw [if_pos hid, if_pos (show id = (toRow o).serviceOrderId from hid)]
    rfl
  · rw [if_neg hid, if_neg (show ¬ id = (toRow o).serviceOrderId from hid)]

theorem TableHolds.get {py : Codecs} (hpy : py.Inverts) (hiso : IsoRoundTrip T)
    {t : ServiceOrderTable} {saved : List (ServiceOrder T)} (h : TableHolds t saved)
    (column : JsonColumn) (id : String) :
    getOrderRow py column id t = match lastSaved saved id with
      | some o => .ok o
      | none => .error (serviceOrderNotFound id) := by
  unfold getOrderRow tableGet
  rw [h id]
  cases lastSaved saved id with
  | none => rfl
  | some o => exact fromRow_column hpy hiso column o

theorem TableHolds.replies {py : Codecs} (hpy : py.Inverts) (hiso : IsoRoundTrip T)
    {t : ServiceOrderTable} {saved : List (ServiceOrder T)} (h : TableHolds t saved)
    (cs : List (RepositoryCall T)) : replies py t cs = expected saved cs := by
  induction cs generalizing t saved with
  | nil => rfl
  | cons c cs ih =>
    cases c with
    | save o =>
      have hrun : (RepositoryCall.save o).run py t = (.ok none, t.put (toRow o)) := by
        rw [RepositoryCall.run, save_eq]
      rw [Runs.replies, hrun, expected, ih (h.save o)]
    | get id column =>
      have hget := h.get hpy hiso column id
      rw [Runs.replies, expected, RepositoryCall.run]
      cases hlast : lastSaved saved id with
      | none =>
        rw [hlast] at hget
        simp only [hget, ih h]
      | some o =>
        rw [hlast] at hget
        simp only [hget, ih h]

/-- **The repository is a map.** Every sequence of calls is answered as the
saves before each call require, whatever shape the driver gives the column in
each; and saving one order changes no other. -/
theorem order_table_faithful {py : Codecs} (hpy : py.Inverts) (hiso : IsoRoundTrip T) :
    (∀ cs : List (RepositoryCall T), replies py Keyed.empty cs = expected [] cs) ∧
    ∀ (t t' : ServiceOrderTable) (o : ServiceOrder T) (id : String) (column : JsonColumn),
      saveOrderRow o t = .ok t' → id ≠ o.serviceOrderId →
        (getOrderRow py column id t' : Except PyError (ServiceOrder T)) =
          getOrderRow py column id t := by
  refine ⟨fun cs => TableHolds.replies hpy hiso (fun id => rfl) cs, ?_⟩
  intro t t' o id column hsave hne
  rw [save_eq, Except.ok.injEq] at hsave
  have hfind : t'.find id = t.find id := by
    rw [← hsave, Keyed.find_put, if_neg (show ¬ id = (toRow o).serviceOrderId from hne)]
  unfold getOrderRow tableGet
  rw [hfind]

/-- An order with these statuses in its history. -/
def exPlaced (serviceOrderId : String) (statuses : List ServiceOrderStatus) : ServiceOrder Utc :=
  ⟨"customer-1", "vehicle-1", "\"Front\" brakes", serviceOrderId, .quoteRequested,
    statuses.map fun st => ⟨st, "Noted", ⟨"2026-07-06T08:30:00+00:00"⟩, by decide⟩⟩

/-- A second save of an order, a save of another and a failed `get` in between. -/
theorem order_table_faithful_saves :
    let first := exPlaced "os-1" [.opened]
    let second := exPlaced "os-1" [.opened, .quoteRequested]
    let other := exPlaced "os-2" []
    replies codecs Keyed.empty [.save first, .get "os-2" .value, .save second, .save other,
      .get "os-1" .text, .get "os-2" .value] =
        [.ok none, .error (.py (serviceOrderNotFound "os-2")), .ok none, .ok none,
          .ok (some second), .ok (some other)] :=
  (order_table_faithful codecs_inverts utc_roundTrip).1 _

end ServiceOrderOs.Runs
