import Mathlib.Data.List.Find
import ServiceOrderOs.L1Values.Decimal
import ServiceOrderOs.L3App.InMemoryRegistries

/-!
# The SQL registries

Each adapter is a table of rows, the times of a record as text. Comparison of
text in the database is equality, and an `INSERT` or `UPDATE` that would repeat
a value of a `UNIQUE` column raises `IntegrityError`. A lookup builds a fresh
record from the row, so assigning to it changes no table. The widths of the
columns are not modelled.

* `customerFromRow_customerToRow`, `vehicleFromRow_vehicleToRow`,
  `userFromRow_userToRow`: the row codecs.
* `Holds`: a table with the rows of a dictionary's records, and what its
  operations then do.
-/
namespace ServiceOrderOs.App
open Core Py Domain

variable {T ρ α κ : Type} [Runtime T]

/-! ## Rows -/

/-- mirrors src/infrastructure/repositories/sqlalchemy_customer_repository.py:16-27 -/
abbrev CustomerRow := Customer String

/-- mirrors src/infrastructure/repositories/sqlalchemy_admin_user_repository.py:16-23 -/
abbrev AdminUserRow := AdminUser String

/-- mirrors src/infrastructure/repositories/sqlalchemy_vehicle_repository.py:16-27 -/
structure VehicleRow where
  vehicleId : String
  customerId : String
  brand : String
  model : String
  year : String
  plate : String
  createdAt : String
  updatedAt : String

def customerToRow (customer : Customer T) : CustomerRow where
  name := customer.name
  email := customer.email
  phone := customer.phone
  cpfCnpj := customer.cpfCnpj
  isActive := customer.isActive
  customerId := customer.customerId
  createdAt := Runtime.isoformat customer.createdAt
  updatedAt := Runtime.isoformat customer.updatedAt

/-- mirrors src/infrastructure/repositories/sqlalchemy_customer_repository.py:122-132 -/
def customerFromRow (row : CustomerRow) : Except PyError (Customer T) := do
  let createdAt ← fromisoformat row.createdAt
  let updatedAt ← fromisoformat row.updatedAt
  return ⟨row.name, row.email, row.phone, row.cpfCnpj, row.isActive, row.customerId, createdAt,
    updatedAt⟩

def userToRow (user : AdminUser T) : AdminUserRow :=
  ⟨user.email, user.passwordHash, user.userId, Runtime.isoformat user.createdAt⟩

/-- mirrors src/infrastructure/repositories/sqlalchemy_admin_user_repository.py:61-66 -/
def userFromRow (row : AdminUserRow) : Except PyError (AdminUser T) := do
  let createdAt ← fromisoformat row.createdAt
  return ⟨row.email, row.passwordHash, row.userId, createdAt⟩

def vehicleToRow (vehicle : Vehicle T) : VehicleRow where
  vehicleId := vehicle.vehicleId
  customerId := vehicle.customerId
  brand := vehicle.brand
  model := vehicle.model
  year := toString vehicle.year
  plate := vehicle.plate
  createdAt := Runtime.isoformat vehicle.createdAt
  updatedAt := Runtime.isoformat vehicle.updatedAt

/-- `int(text)` in base 10, with its error. -/
def intOf (T : Type) [Runtime T] (text : String) : Except PyError Int :=
  match parseInt text with
  | some n => .ok n
  | none => .error (.valueError
      s!"invalid literal for int() with base 10: {reprStr (Runtime.isprintable T) text}")

/-- mirrors src/infrastructure/repositories/sqlalchemy_vehicle_repository.py:114-124 -/
def vehicleFromRow (row : VehicleRow) : Except PyError (Vehicle T) := do
  let year ← intOf T row.year
  let createdAt ← fromisoformat row.createdAt
  let updatedAt ← fromisoformat row.updatedAt
  return ⟨row.customerId, row.brand, row.model, year, row.plate, row.vehicleId, createdAt,
    updatedAt⟩

theorem customerFromRow_customerToRow (hiso : IsoRoundTrip T) (c : Customer T) :
    customerFromRow (customerToRow c) = .ok c := by
  simp only [customerFromRow, customerToRow, fromisoformat_isoformat hiso, bind, Except.bind]
  rfl

theorem userFromRow_userToRow (hiso : IsoRoundTrip T) (u : AdminUser T) :
    userFromRow (userToRow u) = .ok u := by
  simp only [userFromRow, userToRow, fromisoformat_isoformat hiso, bind, Except.bind]
  rfl

theorem vehicleFromRow_vehicleToRow (hiso : IsoRoundTrip T) (v : Vehicle T) :
    vehicleFromRow (vehicleToRow v) = .ok v := by
  have hyear : intOf T (toString v.year) = .ok v.year := by rw [intOf, parseInt_toString]
  simp only [vehicleFromRow, vehicleToRow, hyear, fromisoformat_isoformat hiso, bind, Except.bind]
  rfl

/-! ## Tables -/

section Table
variable {key : ρ → String}

/-- The row with a primary key, read. -/
def tableGet (notFound : String → PyError) (decode : ρ → Except PyError α) (s : Keyed key)
    (id : String) : Except PyError α :=
  match s.find id with
  | some row => decode row
  | none => .error (notFound id)

/-- The first row of a selection, read. -/
def tableFirst (decode : ρ → Except PyError α) (s : Keyed key) (p : ρ → Bool) :
    Except PyError (Option α) :=
  match s.items.find? p with
  | some row => some <$> decode row
  | none => .ok none

/-- The outcome of a statement the database may refuse. -/
def executed (x : Option κ) : Except RegistryError κ :=
  match x with
  | some s => .ok s
  | none => .error .integrityError

theorem executed_ite {p : Prop} [Decidable p] (s : κ) :
    executed (if p then none else some s) = if p then .error .integrityError else .ok s := by
  split <;> rfl

end Table

abbrev CustomerTable := Keyed (Customer.customerId : CustomerRow → String)

abbrev VehicleTable := Keyed VehicleRow.vehicleId

abbrev AdminUserTable := Keyed (AdminUser.userId : AdminUserRow → String)

/-- The `UNIQUE` columns of `customers`. -/
def customerUnique : List (CustomerRow → Option String) :=
  [fun row => row.cpfCnpj, fun row => some row.email]

def vehicleUnique : List (VehicleRow → Option String) := [fun row => some row.plate]

def userUnique : List (AdminUserRow → Option String) := [fun row => some row.email]

/-! ## The adapters -/

/-- mirrors src/infrastructure/repositories/sqlalchemy_customer_repository.py:30-132 -/
def sqlAlchemyCustomerRepository : CustomerRepository T CustomerTable where
  save customer s := executed (s.insert customerUnique (customerToRow customer))
  update customer s :=
    match s.find customer.customerId with
    | none => .ok s
    | some old =>
      -- the statement sets every column but `created_at`
      executed (s.update customerUnique { customerToRow customer with createdAt := old.createdAt })
  delete customerId s := ((s.find customerId).isSome, s.erase customerId)
  get customerId s := tableGet customerNotFound customerFromRow s customerId
  list s := s.items.mapM customerFromRow
  findByCpfCnpj cpfCnpj s := tableFirst customerFromRow s fun row => row.cpfCnpj = some cpfCnpj
  findByEmail email s := tableFirst customerFromRow s fun row => row.email = email
  mutated _ _ s := s

/-- mirrors src/infrastructure/repositories/sqlalchemy_vehicle_repository.py:30-124 -/
def sqlAlchemyVehicleRepository : VehicleRepository T VehicleTable where
  save vehicle s := executed (s.insert vehicleUnique (vehicleToRow vehicle))
  update vehicle s :=
    match s.find vehicle.vehicleId with
    | none => .ok s
    | some old =>
      executed (s.update vehicleUnique { vehicleToRow vehicle with createdAt := old.createdAt })
  delete vehicleId s := ((s.find vehicleId).isSome, s.erase vehicleId)
  get vehicleId s := tableGet vehicleNotFound vehicleFromRow s vehicleId
  list customerId s := (match customerId with
    | none => s.items
    | some id => s.items.filter fun row => row.customerId = id).mapM vehicleFromRow
  findByPlate plate s := tableFirst vehicleFromRow s fun row => row.plate = plate
  mutated _ _ s := s

/-- mirrors src/infrastructure/repositories/sqlalchemy_admin_user_repository.py:26-66 -/
def sqlAlchemyAdminUserRepository : AdminUserRepository T AdminUserTable where
  save user s := executed (s.insert userUnique (userToRow user))
  findByEmail email s := tableFirst userFromRow s fun row => row.email = email

abbrev SqlStores := Stores CustomerTable VehicleTable AdminUserTable

def sqlBackend : Backend T CustomerTable VehicleTable AdminUserTable :=
  ⟨sqlAlchemyCustomerRepository, sqlAlchemyVehicleRepository, sqlAlchemyAdminUserRepository⟩

def emptyTables : SqlStores := ⟨.empty, .empty, .empty⟩

/-! ## A table with the rows of a dictionary -/

section Holds
variable {key : ρ → String} {idOf : α → String} {toRow : α → ρ} {s : IdDict α} {t : Keyed key}

def Holds (toRow : α → ρ) (s : IdDict α) (t : Keyed key) : Prop := t.items = s.values.map toRow

theorem Holds.first (h : Holds toRow s t) (p : ρ → Bool) :
    t.items.find? p = (s.first (p ∘ toRow)).map toRow := by
  rw [h, List.find?_map]; rfl

theorem IdDict.value_eq_first (hf : s.Filed idOf) (id : String) :
    s.value id = s.first fun a => idOf a = id := by
  rw [IdDict.value, IdDict.first, IdDict.values, List.find?_map]
  refine congrArg _ (List.find?_congr fun e he => ?_)
  simp only [Function.comp_apply, hf e he]

theorem Holds.find (h : Holds toRow s t) (hf : s.Filed idOf) (hk : ∀ a, key (toRow a) = idOf a)
    (id : String) : t.find id = (s.value id).map toRow := by
  rw [Keyed.find, h.first, IdDict.value_eq_first hf]
  refine congrArg _ (congrArg s.first (funext fun a => ?_))
  simp only [Function.comp_apply, hk a]

theorem Holds.mem (h : Holds toRow s t) {row : ρ} :
    row ∈ t.items ↔ ∃ e ∈ s.items, toRow e.2 = row := by
  rw [h, List.mem_map]
  constructor
  · intro ha
    obtain ⟨a, ha, rfl⟩ := ha
    obtain ⟨id, hid⟩ := IdDict.mem_values.mp ha
    exact ⟨(id, a), hid, rfl⟩
  · intro he
    obtain ⟨e, he, rfl⟩ := he
    exact ⟨e.2, IdDict.mem_values.mpr ⟨e.1, he⟩, rfl⟩

theorem Holds.keys (h : Holds toRow s t) (hf : s.Filed idOf) (hk : ∀ a, key (toRow a) = idOf a) :
    t.items.map key = s.items.map Prod.fst := by
  rw [h, IdDict.values, List.map_map, List.map_map]
  refine List.map_congr_left fun e he => ?_
  rw [Function.comp_apply, Function.comp_apply, hk, hf e he]

theorem Holds.put (h : Holds toRow s t) (hf : s.Filed idOf) (hk : ∀ a, key (toRow a) = idOf a)
    (a : α) : Holds toRow (Keyed.put s (idOf a, a)) (t.put (toRow a)) := by
  unfold Holds IdDict.values
  simp only [Keyed.put, h.keys hf hk, hk a]
  split
  · simp only [Keyed.replaced, List.map_map]
    rw [h, IdDict.values, List.map_map, List.map_map]
    refine List.map_congr_left fun e he => ?_
    simp only [Function.comp_apply, hk, hf e he]
    split <;> rfl
  · rw [List.map_append, List.map_append, h]; rfl

/-- An `INSERT` under a new key is refused by a unique column only. -/
theorem Holds.insert (h : Holds toRow s t) (hf : s.Filed idOf) (hk : ∀ a, key (toRow a) = idOf a)
    (unique : List (ρ → Option String)) {a : α} (hnew : s.value (idOf a) = none) :
    executed (t.insert unique (toRow a)) =
      if t.Clash unique (toRow a) then .error .integrityError else .ok (t.put (toRow a)) := by
  rw [Keyed.insert_new (by rw [h.find hf hk, hk, hnew]; rfl), executed_ite]

theorem Holds.update (h : Holds toRow s t) (hf : s.Filed idOf) (hk : ∀ a, key (toRow a) = idOf a)
    (unique : List (ρ → Option String)) {a old : α} (hold : s.value (idOf a) = some old) :
    executed (t.update unique (toRow a)) =
      if t.Clash unique (toRow a) then .error .integrityError else .ok (t.put (toRow a)) := by
  rw [Keyed.update_old (b := toRow old) (by rw [h.find hf hk, hk, hold]; rfl), executed_ite]

theorem Holds.erase (h : Holds toRow s t) (hf : s.Filed idOf) (hk : ∀ a, key (toRow a) = idOf a)
    (id : String) : Holds toRow (Keyed.erase s id) (t.erase id) := by
  unfold Holds IdDict.values
  simp only [Keyed.erase]
  rw [h, IdDict.values, List.map_map, List.filter_map, List.map_map]
  refine congrArg _ (List.filter_congr fun e he => ?_)
  simp only [Function.comp_apply, hk, hf e he]

theorem Holds.get (h : Holds toRow s t) (hf : s.Filed idOf) (hk : ∀ a, key (toRow a) = idOf a)
    {decode : ρ → Except PyError α} (hd : ∀ a, decode (toRow a) = .ok a)
    (notFound : String → PyError) (id : String) :
    tableGet notFound decode t id = s.get notFound id := by
  rw [tableGet, IdDict.get, h.find hf hk]
  cases s.value id with
  | none => rfl
  | some a => exact hd a

theorem Holds.tableFirst (h : Holds toRow s t) {decode : ρ → Except PyError α}
    (hd : ∀ a, decode (toRow a) = .ok a) (p : ρ → Bool) :
    tableFirst decode t p = .ok (s.first (p ∘ toRow)) := by
  rw [App.tableFirst, h.first]
  cases s.first (p ∘ toRow) with
  | none => rfl
  | some a => simp only [Option.map_some, hd a]; rfl

end Holds
end ServiceOrderOs.App
