import ServiceOrderOs.L1Values.Value
import ServiceOrderOs.L2Domain.Registry

/-!
# The registry use cases

The use cases of customers, vehicles and admin users over the ports of their
repositories. Each reads first and then makes one write, so each is a check
(`...check`, what it reads and the exceptions it raises) followed by the write.

A write may raise `IntegrityError`, which only the SQL adapters know. As with
the service orders, `mutated` is what becomes of a repository when the object
its `get` handed out for an id is assigned to. The ids and times a call
generates are in `Generated`.

* `createCustomer_run` and its like: each use case as one case analysis.
* `RegistryCall.run`: the calls as data, over one backend.
-/
namespace ServiceOrderOs.App
open Py Domain

variable {T Tok κ ν υ α : Type}

/-- An exception of the code itself, or the database's refusal of a row. -/
inductive RegistryError where
  | py (e : PyError)
  | integrityError
  deriving DecidableEq, Repr

/-! ## Ports -/

/-- mirrors src/application/ports.py:25-45 -/
structure CustomerRepository (T κ : Type) where
  save : Customer T → κ → Except RegistryError κ
  update : Customer T → κ → Except RegistryError κ
  delete : String → κ → Bool × κ
  get : String → κ → Except PyError (Customer T)
  list : κ → Except PyError (List (Customer T))
  findByCpfCnpj : String → κ → Except PyError (Option (Customer T))
  findByEmail : String → κ → Except PyError (Option (Customer T))
  mutated : String → Customer T → κ → κ

/-- mirrors src/application/ports.py:48-65 -/
structure VehicleRepository (T ν : Type) where
  save : Vehicle T → ν → Except RegistryError ν
  update : Vehicle T → ν → Except RegistryError ν
  delete : String → ν → Bool × ν
  get : String → ν → Except PyError (Vehicle T)
  list : Option String → ν → Except PyError (List (Vehicle T))
  findByPlate : String → ν → Except PyError (Option (Vehicle T))
  mutated : String → Vehicle T → ν → ν

/-- mirrors src/application/ports.py:68-73 -/
structure AdminUserRepository (T υ : Type) where
  save : AdminUser T → υ → Except RegistryError υ
  findByEmail : String → υ → Except PyError (Option (AdminUser T))

/-- What the three repositories keep. -/
structure Stores (κ ν υ : Type) where
  customers : κ
  vehicles : ν
  users : υ

abbrev RegistryM (κ ν υ α : Type) := EStateM RegistryError (Stores κ ν υ) α

/-- What a use case reads before it writes. -/
def ask (f : Stores κ ν υ → Except PyError α) : RegistryM κ ν υ α := fun s =>
  match f s with
  | .ok a => .ok a s
  | .error e => .error (.py e) s

/-- The result of a write that has raised or returned. -/
def wrote {σ : Type} (a : α) (s : Stores κ ν υ) (set : σ → Stores κ ν υ) :
    Except RegistryError σ → EStateM.Result RegistryError (Stores κ ν υ) α
  | .ok x => .ok a (set x)
  | .error e => .error e s

def writeCustomers (f : κ → Except RegistryError κ) : RegistryM κ ν υ Unit := fun s =>
  wrote () s (fun c => { s with customers := c }) (f s.customers)

def writeVehicles (f : ν → Except RegistryError ν) : RegistryM κ ν υ Unit := fun s =>
  wrote () s (fun v => { s with vehicles := v }) (f s.vehicles)

def writeUsers (f : υ → Except RegistryError υ) : RegistryM κ ν υ Unit := fun s =>
  wrote () s (fun u => { s with users := u }) (f s.users)

def raiseIf (c : Bool) (message : String) : Except PyError Unit :=
  if c then .error (.valueError message) else .ok ()

/-- A lookup behind a condition on its key. -/
def findWhen (key : Option String) (find : String → Except PyError (Option α)) :
    Except PyError (Option α) :=
  match key with
  | some k => find k
  | none => .ok none

/-- What `uuid4()` and `datetime.now(UTC)` return for a new record. -/
structure Generated (T : Type) where
  uuid : String
  createdAt : T
  updatedAt : T

/-! ## Customers -/

/-- mirrors src/application/use_cases.py:126-132 -/
structure CreateCustomerCommand where
  name : String
  cpfCnpj : Option String
  email : String
  phone : String
  isActive : Bool

/-- mirrors src/application/use_cases.py:135-142 -/
structure UpdateCustomerCommand where
  customerId : String
  name : String
  cpfCnpj : Option String
  email : String
  phone : String
  isActive : Bool

/-- The text in a condition: neither `None` nor empty. -/
def truthyText (s : Option String) : Option String := s.filter (· ≠ "")

namespace CreateCustomerUseCase

/-- mirrors src/application/use_cases.py:169-172 -/
def check (customers : CustomerRepository T κ) (command : CreateCustomerCommand) (s : κ) :
    Except PyError Unit := do
  let other ← findWhen (truthyText command.cpfCnpj) fun cpfCnpj =>
    customers.findByCpfCnpj cpfCnpj s
  raiseIf other.isSome "CPF/CNPJ already registered"
  let otherEmail ← customers.findByEmail command.email s
  raiseIf otherEmail.isSome "Email already registered"

def customer (command : CreateCustomerCommand) (g : Generated T) : Customer T :=
  ⟨command.name, command.email, command.phone, command.cpfCnpj, command.isActive, g.uuid,
    g.createdAt, g.updatedAt⟩

/-- mirrors src/application/use_cases.py:168-182 -/
def execute (customers : CustomerRepository T κ) (command : CreateCustomerCommand)
    (g : Generated T) : RegistryM κ ν υ (Customer T) := do
  ask fun s => check customers command s.customers
  writeCustomers (customers.save (customer command g))
  return customer command g

end CreateCustomerUseCase

namespace UpdateCustomerUseCase

/-- mirrors src/application/use_cases.py:190-203 -/
def check (customers : CustomerRepository T κ) (command : UpdateCustomerCommand) (s : κ) :
    Except PyError (Customer T) := do
  let customer ← customers.get command.customerId s
  let other ← findWhen ((truthyText command.cpfCnpj).filter (some · ≠ customer.cpfCnpj))
    fun cpfCnpj => customers.findByCpfCnpj cpfCnpj s
  raiseIf (other.any (·.customerId ≠ command.customerId)) "CPF/CNPJ already registered"
  let otherEmail ← findWhen ((some command.email).filter (· ≠ customer.email))
    fun email => customers.findByEmail email s
  raiseIf (otherEmail.any (·.customerId ≠ command.customerId)) "Email already registered"
  return customer

/-- mirrors src/application/use_cases.py:205-210 -/
def assign (command : UpdateCustomerCommand) (now : T) (customer : Customer T) : Customer T :=
  { customer with
    name := command.name
    cpfCnpj := command.cpfCnpj
    email := command.email
    phone := command.phone
    isActive := command.isActive
    updatedAt := now }

/-- mirrors src/application/use_cases.py:189-212 -/
def execute (customers : CustomerRepository T κ) (command : UpdateCustomerCommand) (now : T) :
    RegistryM κ ν υ (Customer T) := do
  let customer ← ask fun s => check customers command s.customers
  let customer := assign command now customer
  modify fun s =>
    { s with customers := customers.mutated command.customerId customer s.customers }
  writeCustomers (customers.update customer)
  return customer

end UpdateCustomerUseCase

/-- mirrors src/application/use_cases.py:215-220 -/
def ListCustomersUseCase.execute (customers : CustomerRepository T κ) :
    RegistryM κ ν υ (List (Customer T)) :=
  ask fun s => customers.list s.customers

/-- mirrors src/application/use_cases.py:223-228 -/
def GetCustomerUseCase.execute (customers : CustomerRepository T κ) (customerId : String) :
    RegistryM κ ν υ (Customer T) :=
  ask fun s => customers.get customerId s.customers

/-- mirrors src/application/use_cases.py:231-236 -/
def DeleteCustomerUseCase.execute (customers : CustomerRepository T κ) (customerId : String) :
    RegistryM κ ν υ Bool := fun s =>
  let (deleted, c) := customers.delete customerId s.customers
  .ok deleted { s with customers := c }

/-! ## Vehicles -/

/-- mirrors src/application/use_cases.py:145-151 -/
structure CreateVehicleCommand where
  customerId : String
  brand : String
  model : String
  year : Int
  plate : String

/-- mirrors src/application/use_cases.py:154-161 -/
structure UpdateVehicleCommand where
  vehicleId : String
  customerId : String
  brand : String
  model : String
  year : Int
  plate : String

namespace CreateVehicleUseCase

/-- mirrors src/application/use_cases.py:249-251 -/
def check (vehicles : VehicleRepository T ν) (customers : CustomerRepository T κ)
    (command : CreateVehicleCommand) (s : Stores κ ν υ) : Except PyError Unit := do
  let _ ← customers.get command.customerId s.customers
  let other ← vehicles.findByPlate command.plate s.vehicles
  raiseIf other.isSome "Vehicle plate already registered"

def vehicle (command : CreateVehicleCommand) (g : Generated T) : Vehicle T :=
  ⟨command.customerId, command.brand, command.model, command.year, command.plate, g.uuid,
    g.createdAt, g.updatedAt⟩

/-- mirrors src/application/use_cases.py:248-261 -/
def execute (vehicles : VehicleRepository T ν) (customers : CustomerRepository T κ)
    (command : CreateVehicleCommand) (g : Generated T) : RegistryM κ ν υ (Vehicle T) := do
  ask (check vehicles customers command)
  writeVehicles (vehicles.save (vehicle command g))
  return vehicle command g

end CreateVehicleUseCase

namespace UpdateVehicleUseCase

/-- mirrors src/application/use_cases.py:274-280 -/
def check (vehicles : VehicleRepository T ν) (customers : CustomerRepository T κ)
    (command : UpdateVehicleCommand) (s : Stores κ ν υ) : Except PyError (Vehicle T) := do
  let vehicle ← vehicles.get command.vehicleId s.vehicles
  let _ ← customers.get command.customerId s.customers
  let other ← findWhen ((some command.plate).filter (· ≠ vehicle.plate))
    fun plate => vehicles.findByPlate plate s.vehicles
  raiseIf (other.any (·.vehicleId ≠ command.vehicleId)) "Vehicle plate already registered"
  return vehicle

/-- mirrors src/application/use_cases.py:282-287 -/
def assign (command : UpdateVehicleCommand) (now : T) (vehicle : Vehicle T) : Vehicle T :=
  { vehicle with
    customerId := command.customerId
    brand := command.brand
    model := command.model
    year := command.year
    plate := command.plate
    updatedAt := now }

/-- mirrors src/application/use_cases.py:273-289 -/
def execute (vehicles : VehicleRepository T ν) (customers : CustomerRepository T κ)
    (command : UpdateVehicleCommand) (now : T) : RegistryM κ ν υ (Vehicle T) := do
  let vehicle ← ask (check vehicles customers command)
  let vehicle := assign command now vehicle
  modify fun s => { s with vehicles := vehicles.mutated command.vehicleId vehicle s.vehicles }
  writeVehicles (vehicles.update vehicle)
  return vehicle

end UpdateVehicleUseCase

/-- mirrors src/application/use_cases.py:292-297 -/
def ListVehiclesUseCase.execute (vehicles : VehicleRepository T ν) (customerId : Option String) :
    RegistryM κ ν υ (List (Vehicle T)) :=
  ask fun s => vehicles.list customerId s.vehicles

/-- mirrors src/application/use_cases.py:300-305 -/
def GetVehicleUseCase.execute (vehicles : VehicleRepository T ν) (vehicleId : String) :
    RegistryM κ ν υ (Vehicle T) :=
  ask fun s => vehicles.get vehicleId s.vehicles

/-- mirrors src/application/use_cases.py:308-313 -/
def DeleteVehicleUseCase.execute (vehicles : VehicleRepository T ν) (vehicleId : String) :
    RegistryM κ ν υ Bool := fun s =>
  let (deleted, v) := vehicles.delete vehicleId s.vehicles
  .ok deleted { s with vehicles := v }

/-! ## Admin users -/

/-- mirrors src/application/use_cases.py:316-319 -/
structure RegisterAdminUserCommand where
  email : String
  password : String

/-- mirrors src/application/use_cases.py:322-325 -/
structure LoginAdminUserCommand where
  email : String
  password : String

/-- The library behind both methods is not under src/. It draws a salt for each
hash, and both raise: `PasswordSizeError`, a `ValueError`, above 4096 characters.
mirrors src/application/ports.py:76-81,
src/infrastructure/security/password_hasher.py:6-17 -/
structure PasswordHasher where
  hashPassword : String → String → Except PyError String
  verifyPassword : String → String → Except PyError Bool

/-- What is documented of the library: a hash verifies the password it is of. -/
def PasswordHasher.Verifies (hasher : PasswordHasher) : Prop :=
  ∀ password salt passwordHash, hasher.hashPassword password salt = .ok passwordHash →
    hasher.verifyPassword password passwordHash = .ok true

namespace RegisterAdminUserUseCase

/-- mirrors src/application/use_cases.py:338-340 -/
def check (users : AdminUserRepository T υ) (command : RegisterAdminUserCommand) (s : υ) :
    Except PyError Unit := do
  let existing ← users.findByEmail command.email s
  raiseIf existing.isSome "Email already registered"

def user (command : RegisterAdminUserCommand) (passwordHash : String) (g : Generated T) :
    AdminUser T :=
  ⟨command.email, passwordHash, g.uuid, g.createdAt⟩

/-- mirrors src/application/use_cases.py:337-347 -/
def execute (users : AdminUserRepository T υ) (hasher : PasswordHasher)
    (command : RegisterAdminUserCommand) (salt : String) (g : Generated T) :
    RegistryM κ ν υ (AdminUser T) := do
  ask fun s => check users command s.users
  let passwordHash ← ask fun _ => hasher.hashPassword command.password salt
  writeUsers (users.save (user command passwordHash g))
  return user command passwordHash g

end RegisterAdminUserUseCase

/-- `createToken` is the method of the token service.
mirrors src/application/use_cases.py:361-369 -/
def LoginAdminUserUseCase.execute (users : AdminUserRepository T υ) (hasher : PasswordHasher)
    (createToken : String → String → Tok) (command : LoginAdminUserCommand) :
    RegistryM κ ν υ (Option Tok) := do
  match ← ask fun s => users.findByEmail command.email s.users with
  | none => return none
  | some user =>
    if !(← ask fun _ => hasher.verifyPassword command.password user.passwordHash) then return none
    return some (createToken user.userId user.email)

/-! ## What the checks that pass have found -/

theorem raiseIf_ok {c : Bool} {message : String} {u : Unit} (h : raiseIf c message = .ok u) :
    c = false := by
  cases c with
  | false => rfl
  | true => cases h

theorem CreateCustomerUseCase.check_ok {customers : CustomerRepository T κ}
    {command : CreateCustomerCommand} {s : κ} {u : Unit}
    (h : check customers command s = .ok u) :
    (∀ v, truthyText command.cpfCnpj = some v → customers.findByCpfCnpj v s = .ok none) ∧
      customers.findByEmail command.email s = .ok none := by
  obtain ⟨other, ho, h⟩ := bind_ok h
  obtain ⟨_, hr, h⟩ := bind_ok h
  obtain ⟨otherEmail, he, h⟩ := bind_ok h
  have h₁ : other = none := by simpa using raiseIf_ok hr
  have h₂ : otherEmail = none := by simpa using raiseIf_ok h
  subst h₁ h₂
  refine ⟨fun v hv => ?_, he⟩
  rw [hv] at ho; exact ho

theorem UpdateCustomerUseCase.check_ok {customers : CustomerRepository T κ}
    {command : UpdateCustomerCommand} {s : κ} {old : Customer T}
    (h : check customers command s = .ok old) :
    customers.get command.customerId s = .ok old ∧
      (∀ v, truthyText command.cpfCnpj = some v → some v ≠ old.cpfCnpj →
        ∃ other, customers.findByCpfCnpj v s = .ok other ∧
          other.any (·.customerId ≠ command.customerId) = false) ∧
      (command.email ≠ old.email →
        ∃ other, customers.findByEmail command.email s = .ok other ∧
          other.any (·.customerId ≠ command.customerId) = false) := by
  obtain ⟨customer, hg, h⟩ := bind_ok h
  obtain ⟨other, ho, h⟩ := bind_ok h
  obtain ⟨_, hr, h⟩ := bind_ok h
  obtain ⟨otherEmail, he, h⟩ := bind_ok h
  obtain ⟨_, hr', h⟩ := bind_ok h
  cases h
  refine ⟨hg, fun v hv hne => ⟨other, ?_, raiseIf_ok hr⟩,
    fun hne => ⟨otherEmail, ?_, raiseIf_ok hr'⟩⟩
  · simpa [hv, hne, findWhen, Option.filter] using ho
  · simpa [hne, findWhen, Option.filter] using he

theorem CreateVehicleUseCase.check_ok {vehicles : VehicleRepository T ν}
    {customers : CustomerRepository T κ} {command : CreateVehicleCommand} {s : Stores κ ν υ}
    {u : Unit} (h : check vehicles customers command s = .ok u) :
    (∃ c, customers.get command.customerId s.customers = .ok c) ∧
      vehicles.findByPlate command.plate s.vehicles = .ok none := by
  obtain ⟨c, hc, h⟩ := bind_ok h
  obtain ⟨other, ho, h⟩ := bind_ok h
  have h₁ : other = none := by simpa using raiseIf_ok h
  subst h₁
  exact ⟨⟨c, hc⟩, ho⟩

theorem UpdateVehicleUseCase.check_ok {vehicles : VehicleRepository T ν}
    {customers : CustomerRepository T κ} {command : UpdateVehicleCommand} {s : Stores κ ν υ}
    {old : Vehicle T} (h : check vehicles customers command s = .ok old) :
    vehicles.get command.vehicleId s.vehicles = .ok old ∧
      (∃ c, customers.get command.customerId s.customers = .ok c) ∧
      (command.plate ≠ old.plate →
        ∃ other, vehicles.findByPlate command.plate s.vehicles = .ok other ∧
          other.any (·.vehicleId ≠ command.vehicleId) = false) := by
  obtain ⟨vehicle, hg, h⟩ := bind_ok h
  obtain ⟨c, hc, h⟩ := bind_ok h
  obtain ⟨other, ho, h⟩ := bind_ok h
  obtain ⟨_, hr, h⟩ := bind_ok h
  cases h
  refine ⟨hg, ⟨c, hc⟩, fun hne => ⟨other, ?_, raiseIf_ok hr⟩⟩
  simpa [hne, findWhen, Option.filter] using ho

theorem RegisterAdminUserUseCase.check_ok {users : AdminUserRepository T υ}
    {command : RegisterAdminUserCommand} {s : υ} {u : Unit}
    (h : check users command s = .ok u) : users.findByEmail command.email s = .ok none := by
  obtain ⟨existing, he, h⟩ := bind_ok h
  have h₁ : existing = none := by simpa using raiseIf_ok h
  subst h₁
  exact he

theorem findWhen_pure (key : Option String) (find : String → Option α) :
    findWhen key (fun k => .ok (find k)) = .ok (key.bind find) := by
  cases key <;> rfl

theorem found_bind {β : Type} (a : α) (f : α → Except PyError β) : (.ok a >>= f) = f a := rfl

theorem raiseIf_bind {c : Bool} {message : String} (f : Unit → Except PyError α) :
    (raiseIf c message >>= f) = if c then .error (.valueError message) else f () := by
  cases c <;> rfl

/-- The check of a creation in terms of what its lookups find. -/
theorem CreateCustomerUseCase.check_eq {customers : CustomerRepository T κ}
    {command : CreateCustomerCommand} {s : κ} {other otherEmail : Option (Customer T)}
    (ho : findWhen (truthyText command.cpfCnpj) (customers.findByCpfCnpj · s) = .ok other)
    (he : customers.findByEmail command.email s = .ok otherEmail) :
    check customers command s =
      if other.isSome then .error (.valueError "CPF/CNPJ already registered")
      else if otherEmail.isSome then .error (.valueError "Email already registered")
      else .ok () := by
  simp only [check, ho, found_bind, raiseIf_bind, he]
  cases other <;> cases otherEmail <;> rfl

theorem UpdateCustomerUseCase.check_eq {customers : CustomerRepository T κ}
    {command : UpdateCustomerCommand} {s : κ} {old : Customer T}
    {other otherEmail : Option (Customer T)} (hg : customers.get command.customerId s = .ok old)
    (ho : findWhen ((truthyText command.cpfCnpj).filter (some · ≠ old.cpfCnpj))
      (customers.findByCpfCnpj · s) = .ok other)
    (he : findWhen ((some command.email).filter (· ≠ old.email)) (customers.findByEmail · s) =
      .ok otherEmail) :
    check customers command s =
      if other.any (·.customerId ≠ command.customerId) then
        .error (.valueError "CPF/CNPJ already registered")
      else if otherEmail.any (·.customerId ≠ command.customerId) then
        .error (.valueError "Email already registered")
      else .ok old := by
  simp only [check, hg, found_bind, ho, raiseIf_bind, he]
  cases other.any (·.customerId ≠ command.customerId) <;>
    cases otherEmail.any (·.customerId ≠ command.customerId) <;> rfl

/-! ## What each use case does -/

theorem ask_run (f : Stores κ ν υ → Except PyError α) (s : Stores κ ν υ) :
    (ask f).run s = match f s with
      | .ok a => .ok a s
      | .error e => .error (.py e) s := rfl

theorem writeCustomers_run (f : κ → Except RegistryError κ) (s : Stores κ ν υ) :
    (writeCustomers f).run s = wrote () s (fun c => { s with customers := c }) (f s.customers) :=
  rfl

theorem writeVehicles_run (f : ν → Except RegistryError ν) (s : Stores κ ν υ) :
    (writeVehicles f).run s = wrote () s (fun v => { s with vehicles := v }) (f s.vehicles) := rfl

theorem writeUsers_run (f : υ → Except RegistryError υ) (s : Stores κ ν υ) :
    (writeUsers f).run s = wrote () s (fun u => { s with users := u }) (f s.users) := rfl

theorem createCustomer_run (customers : CustomerRepository T κ) (command : CreateCustomerCommand)
    (g : Generated T) (s : Stores κ ν υ) :
    (CreateCustomerUseCase.execute customers command g).run s =
      match CreateCustomerUseCase.check customers command s.customers with
      | .error e => .error (.py e) s
      | .ok _ =>
        wrote (CreateCustomerUseCase.customer command g) s (fun c => { s with customers := c })
          (customers.save (CreateCustomerUseCase.customer command g) s.customers) := by
  simp only [CreateCustomerUseCase.execute, EStateM.run_bind, ask_run]
  cases CreateCustomerUseCase.check customers command s.customers with
  | error e => rfl
  | ok _ =>
    simp only [writeCustomers_run]
    cases customers.save (CreateCustomerUseCase.customer command g) s.customers <;> rfl

theorem updateCustomer_run (customers : CustomerRepository T κ) (command : UpdateCustomerCommand)
    (now : T) (s : Stores κ ν υ) :
    (UpdateCustomerUseCase.execute customers command now).run s =
      match UpdateCustomerUseCase.check customers command s.customers with
      | .error e => .error (.py e) s
      | .ok old =>
        let new := UpdateCustomerUseCase.assign command now old
        let touched := customers.mutated command.customerId new s.customers
        wrote new { s with customers := touched } (fun c => { s with customers := c })
          (customers.update new touched) := by
  simp only [UpdateCustomerUseCase.execute, EStateM.run_bind, ask_run]
  cases UpdateCustomerUseCase.check customers command s.customers with
  | error e => rfl
  | ok old =>
    simp only [EStateM.run_modify, writeCustomers_run]
    cases customers.update (UpdateCustomerUseCase.assign command now old)
      (customers.mutated command.customerId (UpdateCustomerUseCase.assign command now old)
        s.customers) <;> rfl

theorem createVehicle_run (vehicles : VehicleRepository T ν) (customers : CustomerRepository T κ)
    (command : CreateVehicleCommand) (g : Generated T) (s : Stores κ ν υ) :
    (CreateVehicleUseCase.execute vehicles customers command g).run s =
      match CreateVehicleUseCase.check vehicles customers command s with
      | .error e => .error (.py e) s
      | .ok _ =>
        wrote (CreateVehicleUseCase.vehicle command g) s (fun v => { s with vehicles := v })
          (vehicles.save (CreateVehicleUseCase.vehicle command g) s.vehicles) := by
  simp only [CreateVehicleUseCase.execute, EStateM.run_bind, ask_run]
  cases CreateVehicleUseCase.check vehicles customers command s with
  | error e => rfl
  | ok _ =>
    simp only [writeVehicles_run]
    cases vehicles.save (CreateVehicleUseCase.vehicle command g) s.vehicles <;> rfl

theorem updateVehicle_run (vehicles : VehicleRepository T ν) (customers : CustomerRepository T κ)
    (command : UpdateVehicleCommand) (now : T) (s : Stores κ ν υ) :
    (UpdateVehicleUseCase.execute vehicles customers command now).run s =
      match UpdateVehicleUseCase.check vehicles customers command s with
      | .error e => .error (.py e) s
      | .ok old =>
        let new := UpdateVehicleUseCase.assign command now old
        let touched := vehicles.mutated command.vehicleId new s.vehicles
        wrote new { s with vehicles := touched } (fun v => { s with vehicles := v })
          (vehicles.update new touched) := by
  simp only [UpdateVehicleUseCase.execute, EStateM.run_bind, ask_run]
  cases UpdateVehicleUseCase.check vehicles customers command s with
  | error e => rfl
  | ok old =>
    simp only [EStateM.run_modify, writeVehicles_run]
    cases vehicles.update (UpdateVehicleUseCase.assign command now old)
      (vehicles.mutated command.vehicleId (UpdateVehicleUseCase.assign command now old)
        s.vehicles) <;> rfl

theorem registerAdminUser_run (users : AdminUserRepository T υ) (hasher : PasswordHasher)
    (command : RegisterAdminUserCommand) (salt : String) (g : Generated T)
    (s : Stores κ ν υ) :
    (RegisterAdminUserUseCase.execute users hasher command salt g).run s =
      match RegisterAdminUserUseCase.check users command s.users with
      | .error e => .error (.py e) s
      | .ok _ =>
        match hasher.hashPassword command.password salt with
        | .error e => .error (.py e) s
        | .ok passwordHash =>
          let new := RegisterAdminUserUseCase.user command passwordHash g
          wrote new s (fun u => { s with users := u }) (users.save new s.users) := by
  simp only [RegisterAdminUserUseCase.execute, EStateM.run_bind, ask_run]
  cases RegisterAdminUserUseCase.check users command s.users with
  | error e => rfl
  | ok _ =>
    cases hasher.hashPassword command.password salt with
    | error e => rfl
    | ok passwordHash =>
      simp only [writeUsers_run]
      cases users.save (RegisterAdminUserUseCase.user command passwordHash g) s.users <;> rfl

/-- What a login answers for the user it found. -/
def granted (hasher : PasswordHasher) (password : String) (createToken : String → String → Tok) :
    Option (AdminUser T) → Except PyError (Option Tok)
  | none => .ok none
  | some u => (hasher.verifyPassword password u.passwordHash).map fun verified =>
      if verified then some (createToken u.userId u.email) else none

/-- A login only asks. -/
theorem loginAdminUser_asks (users : AdminUserRepository T υ) (hasher : PasswordHasher)
    (createToken : String → String → Tok) (command : LoginAdminUserCommand) :
    (LoginAdminUserUseCase.execute users hasher createToken command :
        RegistryM κ ν υ (Option Tok)) =
      ask fun s => users.findByEmail command.email s.users >>=
        granted hasher command.password createToken := by
  funext s
  change (LoginAdminUserUseCase.execute users hasher createToken command).run s =
    (ask _ : RegistryM κ ν υ (Option Tok)).run s
  simp only [LoginAdminUserUseCase.execute, EStateM.run_bind, ask_run]
  cases users.findByEmail command.email s.users with
  | error e => rfl
  | ok found =>
    cases found with
    | none => rfl
    | some u =>
      simp only [found_bind, granted, EStateM.run_bind, ask_run]
      cases hasher.verifyPassword command.password u.passwordHash with
      | error e => rfl
      | ok verified => cases verified <;> rfl

/-! ## Calls -/

structure Backend (T κ ν υ : Type) where
  customers : CustomerRepository T κ
  vehicles : VehicleRepository T ν
  users : AdminUserRepository T υ

/-- A use case called from outside, with what the call generates. -/
inductive RegistryCall (T Tok : Type) where
  | createCustomer (command : CreateCustomerCommand) (g : Generated T)
  | updateCustomer (command : UpdateCustomerCommand) (now : T)
  | listCustomers
  | getCustomer (customerId : String)
  | deleteCustomer (customerId : String)
  | createVehicle (command : CreateVehicleCommand) (g : Generated T)
  | updateVehicle (command : UpdateVehicleCommand) (now : T)
  | listVehicles (customerId : Option String)
  | getVehicle (vehicleId : String)
  | deleteVehicle (vehicleId : String)
  | registerAdminUser (command : RegisterAdminUserCommand) (salt : String) (g : Generated T)
  | loginAdminUser (command : LoginAdminUserCommand) (createToken : String → String → Tok)

inductive RegistryReply (T Tok : Type) where
  | customer (c : Customer T)
  | customers (cs : List (Customer T))
  | vehicle (v : Vehicle T)
  | vehicles (vs : List (Vehicle T))
  | deleted (b : Bool)
  | user (u : AdminUser T)
  | token (t : Option Tok)

def RegistryCall.run (b : Backend T κ ν υ) (hasher : PasswordHasher) :
    RegistryCall T Tok → RegistryM κ ν υ (RegistryReply T Tok)
  | .createCustomer command g =>
    .customer <$> CreateCustomerUseCase.execute b.customers command g
  | .updateCustomer command now =>
    .customer <$> UpdateCustomerUseCase.execute b.customers command now
  | .listCustomers => .customers <$> ListCustomersUseCase.execute b.customers
  | .getCustomer customerId => .customer <$> GetCustomerUseCase.execute b.customers customerId
  | .deleteCustomer customerId =>
    .deleted <$> DeleteCustomerUseCase.execute b.customers customerId
  | .createVehicle command g =>
    .vehicle <$> CreateVehicleUseCase.execute b.vehicles b.customers command g
  | .updateVehicle command now =>
    .vehicle <$> UpdateVehicleUseCase.execute b.vehicles b.customers command now
  | .listVehicles customerId => .vehicles <$> ListVehiclesUseCase.execute b.vehicles customerId
  | .getVehicle vehicleId => .vehicle <$> GetVehicleUseCase.execute b.vehicles vehicleId
  | .deleteVehicle vehicleId => .deleted <$> DeleteVehicleUseCase.execute b.vehicles vehicleId
  | .registerAdminUser command salt g =>
    .user <$> RegisterAdminUserUseCase.execute b.users hasher command salt g
  | .loginAdminUser command createToken =>
    .token <$> LoginAdminUserUseCase.execute b.users hasher createToken command

theorem map_run {ε σ β : Type} (f : α → β) (m : EStateM ε σ α) (s : σ) :
    (f <$> m).run s = match m.run s with
      | .ok a s' => .ok (f a) s'
      | .error e s' => .error e s' := by
  simp only [EStateM.run, Functor.map, EStateM.map]
  cases m s <;> rfl

end ServiceOrderOs.App
