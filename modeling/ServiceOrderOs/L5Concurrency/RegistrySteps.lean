import ServiceOrderOs.Core.Race
import ServiceOrderOs.L3App.SqlRegistries
import ServiceOrderOs.L4Runs.RecordRuns

/-!
# The registry calls step by step

Every call of a SQL adapter is a session of its own, so two use cases
interleave between the calls they make. The use cases that create, update and
delete are some lookups and then one write (`WriteCall.prog`).

* `prog_run`: all its steps in a row are the use case.
* `tables_inductive`: what every write keeps of the tables.
* `calls_reachable`, `race_reachable`: the tables that use cases lead to, one
  after the other or two at a time, are those that writes lead to.
-/
namespace ServiceOrderOs.Concurrency
open Core Py Domain App Runs

variable {T Tok α β κ : Type}

/-! ## Writes -/

/-- A call that changes a table. -/
inductive RegistryWrite (T : Type) where
  | saveCustomer (customer : Customer T)
  | updateCustomer (customer : Customer T)
  | deleteCustomer (customerId : String)
  | saveVehicle (vehicle : Vehicle T)
  | updateVehicle (vehicle : Vehicle T)
  | deleteVehicle (vehicleId : String)
  | saveUser (user : AdminUser T)

abbrev Answer (T Tok : Type) := Except RegistryError (RegistryReply T Tok)

/-- The reply of the use case once the write has returned. -/
def answered (reply : RegistryReply T Tok) (s : SqlStores) (set : κ → SqlStores) :
    Except RegistryError κ → Answer T Tok × SqlStores
  | .ok x => (.ok reply, set x)
  | .error e => (.error e, s)

section
variable [Runtime T]

def RegistryWrite.exec : RegistryWrite T → SqlStores → Answer T Tok × SqlStores
  | .saveCustomer customer, s =>
    answered (.customer customer) s (fun c => { s with customers := c })
      (sqlAlchemyCustomerRepository.save customer s.customers)
  | .updateCustomer customer, s =>
    answered (.customer customer) s (fun c => { s with customers := c })
      (sqlAlchemyCustomerRepository.update customer s.customers)
  | .deleteCustomer customerId, s =>
    let (deleted, c) := (sqlAlchemyCustomerRepository (T := T)).delete customerId s.customers
    (.ok (.deleted deleted), { s with customers := c })
  | .saveVehicle vehicle, s =>
    answered (.vehicle vehicle) s (fun v => { s with vehicles := v })
      (sqlAlchemyVehicleRepository.save vehicle s.vehicles)
  | .updateVehicle vehicle, s =>
    answered (.vehicle vehicle) s (fun v => { s with vehicles := v })
      (sqlAlchemyVehicleRepository.update vehicle s.vehicles)
  | .deleteVehicle vehicleId, s =>
    let (deleted, v) := (sqlAlchemyVehicleRepository (T := T)).delete vehicleId s.vehicles
    (.ok (.deleted deleted), { s with vehicles := v })
  | .saveUser user, s =>
    answered (.user user) s (fun u => { s with users := u })
      (sqlAlchemyAdminUserRepository.save user s.users)

/-- The tables under any sequence of writes. -/
def tableLts (T Tok : Type) [Runtime T] : Lts SqlStores (RegistryWrite T) where
  init s := s = emptyTables
  step s w s' := s' = (w.exec s : Answer T Tok × SqlStores).2

end

/-! ## Calls -/

/-- A use case that may change customers or vehicles, with what it generates. -/
inductive WriteCall (T : Type) where
  | createCustomer (command : CreateCustomerCommand) (g : Generated T)
  | updateCustomer (command : UpdateCustomerCommand) (now : T)
  | deleteCustomer (customerId : String)
  | createVehicle (command : CreateVehicleCommand) (g : Generated T)
  | updateVehicle (command : UpdateVehicleCommand) (now : T)
  | deleteVehicle (vehicleId : String)

def WriteCall.call : WriteCall T → RegistryCall T Tok
  | .createCustomer command g => .createCustomer command g
  | .updateCustomer command now => .updateCustomer command now
  | .deleteCustomer customerId => .deleteCustomer customerId
  | .createVehicle command g => .createVehicle command g
  | .updateVehicle command now => .updateVehicle command now
  | .deleteVehicle vehicleId => .deleteVehicle vehicleId

abbrev Steps (T Tok : Type) := Race.Prog SqlStores (RegistryWrite T) (Answer T Tok)

/-- A call that reads, and what is done with its result. -/
def invoke (f : SqlStores → Except PyError α) (k : α → Steps T Tok) : Steps T Tok :=
  .read fun s => match f s with
    | .ok a => k a
    | .error e => .done (.error (.py e))

/-- A lookup behind a condition on its key; without the key there is no call. -/
def invokeWhen (key : Option String) (find : String → SqlStores → Except PyError (Option α))
    (k : Option α → Steps T Tok) : Steps T Tok :=
  match key with
  | some v => invoke (find v) k
  | none => k none

def raisesIf (c : Bool) (message : String) (k : Steps T Tok) : Steps T Tok :=
  if c then .done (.error (.py (.valueError message))) else k

section
variable [Runtime T]

def customersGet (id : String) (s : SqlStores) : Except PyError (Customer T) :=
  sqlAlchemyCustomerRepository.get id s.customers

def findByCpfCnpj (cpfCnpj : String) (s : SqlStores) : Except PyError (Option (Customer T)) :=
  sqlAlchemyCustomerRepository.findByCpfCnpj cpfCnpj s.customers

def findByEmail (email : String) (s : SqlStores) : Except PyError (Option (Customer T)) :=
  sqlAlchemyCustomerRepository.findByEmail email s.customers

def vehiclesGet (id : String) (s : SqlStores) : Except PyError (Vehicle T) :=
  sqlAlchemyVehicleRepository.get id s.vehicles

def findByPlate (plate : String) (s : SqlStores) : Except PyError (Option (Vehicle T)) :=
  sqlAlchemyVehicleRepository.findByPlate plate s.vehicles

/-- mirrors src/application/use_cases.py:168-313 -/
def WriteCall.prog : WriteCall T → Steps T Tok
  | .createCustomer command g =>
    invokeWhen (truthyText command.cpfCnpj) findByCpfCnpj fun (other : Option (Customer T)) =>
    raisesIf other.isSome "CPF/CNPJ already registered" <|
    invoke (findByEmail command.email) fun (otherEmail : Option (Customer T)) =>
    raisesIf otherEmail.isSome "Email already registered" <|
    .write (.saveCustomer (CreateCustomerUseCase.customer command g))
  | .updateCustomer command now =>
    invoke (customersGet command.customerId) fun (customer : Customer T) =>
    invokeWhen ((truthyText command.cpfCnpj).filter (some · ≠ customer.cpfCnpj)) findByCpfCnpj
      fun (other : Option (Customer T)) =>
    raisesIf (other.any (·.customerId ≠ command.customerId)) "CPF/CNPJ already registered" <|
    invokeWhen ((some command.email).filter (· ≠ customer.email)) findByEmail
      fun (otherEmail : Option (Customer T)) =>
    raisesIf (otherEmail.any (·.customerId ≠ command.customerId)) "Email already registered" <|
    .write (.updateCustomer (UpdateCustomerUseCase.assign command now customer))
  | .deleteCustomer customerId => .write (.deleteCustomer customerId)
  | .createVehicle command g =>
    invoke (customersGet command.customerId) fun (_ : Customer T) =>
    invoke (findByPlate command.plate) fun (other : Option (Vehicle T)) =>
    raisesIf other.isSome "Vehicle plate already registered" <|
    .write (.saveVehicle (CreateVehicleUseCase.vehicle command g))
  | .updateVehicle command now =>
    invoke (vehiclesGet command.vehicleId) fun (vehicle : Vehicle T) =>
    invoke (customersGet command.customerId) fun (_ : Customer T) =>
    invokeWhen ((some command.plate).filter (· ≠ vehicle.plate)) findByPlate
      fun (other : Option (Vehicle T)) =>
    raisesIf (other.any (·.vehicleId ≠ command.vehicleId)) "Vehicle plate already registered" <|
    .write (.updateVehicle (UpdateVehicleUseCase.assign command now vehicle))
  | .deleteVehicle vehicleId => .write (.deleteVehicle vehicleId)

/-- The use case run alone. -/
def WriteCall.alone (hasher : PasswordHasher) (l : WriteCall T) (s : SqlStores) :
    Answer T Tok × SqlStores :=
  match ((l.call : RegistryCall T Tok).run sqlBackend hasher).run s with
  | .ok a s' => (.ok a, s')
  | .error e s' => (.error e, s')

/-! ## All steps in a row -/

abbrev Steps.run (p : Steps T Tok) (s : SqlStores) : Answer T Tok × SqlStores :=
  Race.Prog.run (RegistryWrite.exec (T := T)) p s

/-- What follows something that may raise. -/
def following (x : Except PyError α) (s : SqlStores) (k : α → Answer T Tok × SqlStores) :
    Answer T Tok × SqlStores :=
  match x with
  | .ok a => k a
  | .error e => (.error (.py e), s)

omit [Runtime T] in
theorem following_bind (x : Except PyError α) (f : α → Except PyError β) (s : SqlStores)
    (k : β → Answer T Tok × SqlStores) :
    following (x >>= f) s k = following x s fun a => following (f a) s k := by
  cases x <;> rfl

omit [Runtime T] in
theorem following_pure (a : α) (s : SqlStores) (k : α → Answer T Tok × SqlStores) :
    following (pure a) s k = k a := rfl

theorem run_invoke (f : SqlStores → Except PyError α) (k : α → Steps T Tok) (s : SqlStores) :
    (invoke f k).run s = following (f s) s fun a => (k a).run s := by
  simp only [invoke, Steps.run, Race.Prog.run]
  cases f s <;> rfl

theorem run_invokeWhen (key : Option String)
    (find : String → SqlStores → Except PyError (Option α)) (k : Option α → Steps T Tok)
    (s : SqlStores) :
    (invokeWhen key find k).run s = following (findWhen key (find · s)) s fun a => (k a).run s := by
  cases key with
  | none => rfl
  | some v => exact run_invoke (find v) k s

theorem run_raisesIf (c : Bool) (message : String) (k : Steps T Tok) (s : SqlStores) :
    (raisesIf c message k).run s = following (raiseIf c message) s fun _ => k.run s := by
  cases c <;> rfl

/-- The answer of a use case and the tables it leaves. -/
def replied (f : α → RegistryReply T Tok) :
    EStateM.Result RegistryError SqlStores α → Answer T Tok × SqlStores
  | .ok a s => (.ok (f a), s)
  | .error e s => (.error e, s)

theorem alone_eq (hasher : PasswordHasher) {l : WriteCall T} {f : α → RegistryReply T Tok}
    {m : RegistryM CustomerTable VehicleTable AdminUserTable α} (s : SqlStores)
    (h : (l.call : RegistryCall T Tok).run sqlBackend hasher = f <$> m) :
    l.alone hasher s = replied f (m.run s) := by
  rw [WriteCall.alone, h, map_run]
  cases m.run s <;> rfl

omit [Runtime T] in
theorem replied_wrote (f : α → RegistryReply T Tok) (a : α) (s : SqlStores) (set : κ → SqlStores)
    (x : Except RegistryError κ) :
    replied f (wrote a s set x) = answered (f a) s set x := by
  cases x <;> rfl

/-! Each use case is its check and then its write. -/

theorem createCustomer_steps (command : CreateCustomerCommand) (g : Generated T)
    (s : SqlStores) : ((WriteCall.createCustomer command g).prog : Steps T Tok).run s =
      following (CreateCustomerUseCase.check (sqlBackend (T := T)).customers command s.customers)
        s fun _ =>
          (RegistryWrite.saveCustomer (CreateCustomerUseCase.customer command g)).exec s := by
  simp only [WriteCall.prog, run_invokeWhen, run_invoke, run_raisesIf,
    CreateCustomerUseCase.check, following_bind]
  rfl

theorem updateCustomer_steps (command : UpdateCustomerCommand) (now : T) (s : SqlStores) :
    ((WriteCall.updateCustomer command now).prog : Steps T Tok).run s =
      following (UpdateCustomerUseCase.check (sqlBackend (T := T)).customers command s.customers)
        s fun customer => (RegistryWrite.updateCustomer
          (UpdateCustomerUseCase.assign command now customer)).exec s := by
  simp only [WriteCall.prog, run_invokeWhen, run_invoke, run_raisesIf,
    UpdateCustomerUseCase.check, following_bind, following_pure]
  rfl

theorem createVehicle_steps (command : CreateVehicleCommand) (g : Generated T) (s : SqlStores) :
    ((WriteCall.createVehicle command g).prog : Steps T Tok).run s =
      following (CreateVehicleUseCase.check (sqlBackend (T := T)).vehicles
        (sqlBackend (T := T)).customers command s) s fun _ =>
          (RegistryWrite.saveVehicle (CreateVehicleUseCase.vehicle command g)).exec s := by
  simp only [WriteCall.prog, run_invoke, run_raisesIf, CreateVehicleUseCase.check,
    following_bind]
  rfl

theorem updateVehicle_steps (command : UpdateVehicleCommand) (now : T) (s : SqlStores) :
    ((WriteCall.updateVehicle command now).prog : Steps T Tok).run s =
      following (UpdateVehicleUseCase.check (sqlBackend (T := T)).vehicles
        (sqlBackend (T := T)).customers command s) s fun vehicle =>
          (RegistryWrite.updateVehicle
            (UpdateVehicleUseCase.assign command now vehicle)).exec s := by
  simp only [WriteCall.prog, run_invokeWhen, run_invoke, run_raisesIf,
    UpdateVehicleUseCase.check, following_bind, following_pure]
  rfl

/-- The steps of a use case in a row are the use case. -/
theorem prog_run (hasher : PasswordHasher) (l : WriteCall T) (s : SqlStores) :
    (l.prog : Steps T Tok).run s = l.alone hasher s := by
  cases l with
  | createCustomer command g =>
    rw [createCustomer_steps, alone_eq (f := .customer) hasher s rfl, createCustomer_run]
    cases CreateCustomerUseCase.check (sqlBackend (T := T)).customers command s.customers with
    | error e => rfl
    | ok _ => exact (replied_wrote ..).symm
  | updateCustomer command now =>
    rw [updateCustomer_steps, alone_eq (f := .customer) hasher s rfl, updateCustomer_run]
    cases UpdateCustomerUseCase.check (sqlBackend (T := T)).customers command s.customers with
    | error e => rfl
    | ok customer => exact (replied_wrote ..).symm
  | deleteCustomer customerId => rfl
  | createVehicle command g =>
    rw [createVehicle_steps, alone_eq (f := .vehicle) hasher s rfl, createVehicle_run]
    cases CreateVehicleUseCase.check (sqlBackend (T := T)).vehicles
        (sqlBackend (T := T)).customers command s with
    | error e => rfl
    | ok _ => exact (replied_wrote ..).symm
  | updateVehicle command now =>
    rw [updateVehicle_steps, alone_eq (f := .vehicle) hasher s rfl, updateVehicle_run]
    cases UpdateVehicleUseCase.check (sqlBackend (T := T)).vehicles
        (sqlBackend (T := T)).customers command s with
    | error e => rfl
    | ok vehicle => exact (replied_wrote ..).symm
  | deleteVehicle vehicleId => rfl

/-! ## What a write does -/

section Rows
variable {ρ : Type} {key : ρ → String} {toRow : α → ρ} {cols : List (ρ → Option String)}
  {s : Keyed key}

/-- Every row is a record's, no two alike in a unique column. -/
structure Rows (toRow : α → ρ) (cols : List (ρ → Option String)) (s : Keyed key) : Prop where
  row : ∀ row ∈ s.items, ∃ a, toRow a = row
  unique : s.Unique cols

omit [Runtime T] in
theorem Rows.empty : Rows toRow cols (Keyed.empty : Keyed key) where
  row row h := by cases h
  unique := Keyed.unique_empty cols

omit [Runtime T] in
theorem Rows.put (h : Rows toRow cols s) (a : α) (hc : ¬ s.Clash cols (toRow a)) :
    Rows toRow cols (s.put (toRow a)) where
  row row hm := by
    rcases Keyed.mem_put.mp hm with rfl | ⟨hm, -⟩
    · exact ⟨a, rfl⟩
    · exact h.row row hm
  unique := h.unique.put hc

omit [Runtime T] in
theorem Rows.erase (h : Rows toRow cols s) (k : String) : Rows toRow cols (s.erase k) where
  row row hm := h.row row (Keyed.mem_erase.mp hm).1
  unique := h.unique.erase k

omit [Runtime T] in
theorem executed_insert (row : ρ) : executed (s.insert cols row) =
    if (s.find (key row)).isSome ∨ s.Clash cols row then .error .integrityError
    else .ok (s.put row) := by
  rw [Keyed.insert, executed_ite]

omit [Runtime T] in
/-- An `UPDATE` of a row that is there; `row'` is `row` but for columns that
are not unique. -/
theorem executed_update {row row' old : ρ} (hk : key row' = key row)
    (hcols : ∀ c ∈ cols, c row' = c row) (hold : s.find (key row) = some old) :
    executed (s.update cols row') =
      if s.Clash cols row then .error .integrityError else .ok (s.put row') := by
  rw [Keyed.update_old (hk ▸ hold), executed_ite]
  simp only [Keyed.clash_congr hk hcols]

end Rows

omit [Runtime T] in
theorem answered_ite {p : Prop} [Decidable p] (reply : RegistryReply T Tok) (s : SqlStores)
    (set : κ → SqlStores) (e : RegistryError) (x : κ) :
    answered reply s set (if p then .error e else .ok x) =
      if p then (.error e, s) else (.ok reply, set x) := by
  split <;> rfl

theorem exec_saveCustomer (c : Customer T) (s : SqlStores) :
    ((RegistryWrite.saveCustomer c).exec s : Answer T Tok × SqlStores) =
      if (s.customers.find c.customerId).isSome ∨
          s.customers.Clash customerUnique (customerToRow c) then (.error .integrityError, s)
      else (.ok (.customer c), { s with customers := s.customers.put (customerToRow c) }) := by
  simp only [RegistryWrite.exec, sqlAlchemyCustomerRepository]
  rw [executed_insert, answered_ite]
  rfl

theorem exec_updateCustomer_none {c : Customer T} {s : SqlStores}
    (h : s.customers.find c.customerId = none) :
    ((RegistryWrite.updateCustomer c).exec s : Answer T Tok × SqlStores) =
      (.ok (.customer c), s) := by
  simp only [RegistryWrite.exec, sqlAlchemyCustomerRepository, h]
  rfl

theorem exec_updateCustomer {c : Customer T} {s : SqlStores} {old : CustomerRow}
    (h : s.customers.find c.customerId = some old) :
    ((RegistryWrite.updateCustomer c).exec s : Answer T Tok × SqlStores) =
      if s.customers.Clash customerUnique (customerToRow c) then (.error .integrityError, s)
      else (.ok (.customer c), { s with
        customers := s.customers.put { customerToRow c with createdAt := old.createdAt } }) := by
  have hu : executed (s.customers.update customerUnique
      { customerToRow c with createdAt := old.createdAt }) =
        if s.customers.Clash customerUnique (customerToRow c) then .error .integrityError
        else .ok (s.customers.put { customerToRow c with createdAt := old.createdAt }) :=
    executed_update rfl (by simp [customerUnique]) h
  simp only [RegistryWrite.exec, sqlAlchemyCustomerRepository, h]
  rw [hu, answered_ite]

theorem exec_saveVehicle (v : Vehicle T) (s : SqlStores) :
    ((RegistryWrite.saveVehicle v).exec s : Answer T Tok × SqlStores) =
      if (s.vehicles.find v.vehicleId).isSome ∨
          s.vehicles.Clash vehicleUnique (vehicleToRow v) then (.error .integrityError, s)
      else (.ok (.vehicle v), { s with vehicles := s.vehicles.put (vehicleToRow v) }) := by
  simp only [RegistryWrite.exec, sqlAlchemyVehicleRepository]
  rw [executed_insert, answered_ite]
  rfl

theorem exec_updateVehicle_none {v : Vehicle T} {s : SqlStores}
    (h : s.vehicles.find v.vehicleId = none) :
    ((RegistryWrite.updateVehicle v).exec s : Answer T Tok × SqlStores) =
      (.ok (.vehicle v), s) := by
  simp only [RegistryWrite.exec, sqlAlchemyVehicleRepository, h]
  rfl

theorem exec_updateVehicle {v : Vehicle T} {s : SqlStores} {old : VehicleRow}
    (h : s.vehicles.find v.vehicleId = some old) :
    ((RegistryWrite.updateVehicle v).exec s : Answer T Tok × SqlStores) =
      if s.vehicles.Clash vehicleUnique (vehicleToRow v) then (.error .integrityError, s)
      else (.ok (.vehicle v), { s with
        vehicles := s.vehicles.put { vehicleToRow v with createdAt := old.createdAt } }) := by
  have hu : executed (s.vehicles.update vehicleUnique
      { vehicleToRow v with createdAt := old.createdAt }) =
        if s.vehicles.Clash vehicleUnique (vehicleToRow v) then .error .integrityError
        else .ok (s.vehicles.put { vehicleToRow v with createdAt := old.createdAt }) :=
    executed_update rfl (by simp [vehicleUnique]) h
  simp only [RegistryWrite.exec, sqlAlchemyVehicleRepository, h]
  rw [hu, answered_ite]

theorem exec_saveUser (u : AdminUser T) (s : SqlStores) :
    ((RegistryWrite.saveUser u).exec s : Answer T Tok × SqlStores) =
      if (s.users.find u.userId).isSome ∨ s.users.Clash userUnique (userToRow u) then
        (.error .integrityError, s)
      else (.ok (.user u), { s with users := s.users.put (userToRow u) }) := by
  simp only [RegistryWrite.exec, sqlAlchemyAdminUserRepository]
  rw [executed_insert, answered_ite]
  rfl

/-- No unique column has the creation time. -/
theorem clash_customer_createdAt (s : CustomerTable) (c : Customer T) (t : T) :
    s.Clash customerUnique (customerToRow { c with createdAt := t }) ↔
      s.Clash customerUnique (customerToRow c) := by
  refine Keyed.clash_congr ?_ ?_
  · rfl
  · simp [customerUnique, customerToRow]

theorem clash_vehicle_createdAt (s : VehicleTable) (v : Vehicle T) (t : T) :
    s.Clash vehicleUnique (vehicleToRow { v with createdAt := t }) ↔
      s.Clash vehicleUnique (vehicleToRow v) := by
  refine Keyed.clash_congr ?_ ?_
  · rfl
  · simp [vehicleUnique, vehicleToRow]

/-- The tables of customers and vehicles hold rows of records. -/
structure Sound (T : Type) [Runtime T] (s : SqlStores) : Prop where
  customers : Rows (customerToRow (T := T)) customerUnique s.customers
  vehicles : Rows (vehicleToRow (T := T)) vehicleUnique s.vehicles

theorem exec_sound {s : SqlStores} (h : Sound T s) (w : RegistryWrite T) :
    Sound T (w.exec s : Answer T Tok × SqlStores).2 := by
  cases w with
  | saveCustomer c =>
    rw [exec_saveCustomer]
    split
    · exact h
    · rename_i hc
      exact ⟨h.customers.put c fun hcl => hc (.inr hcl), h.vehicles⟩
  | updateCustomer c =>
    cases hf : s.customers.find c.customerId with
    | none => rw [exec_updateCustomer_none hf]; exact h
    | some old =>
      rw [exec_updateCustomer hf]
      split
      · exact h
      · rename_i hc
        -- the row is that of the record with the old row's `created_at`
        obtain ⟨a, rfl⟩ := h.customers.row old (Keyed.find_mem hf)
        refine ⟨h.customers.put { c with createdAt := a.createdAt } ?_, h.vehicles⟩
        rwa [clash_customer_createdAt]
  | deleteCustomer id => exact ⟨h.customers.erase id, h.vehicles⟩
  | saveVehicle v =>
    rw [exec_saveVehicle]
    split
    · exact h
    · rename_i hc
      exact ⟨h.customers, h.vehicles.put v fun hcl => hc (.inr hcl)⟩
  | updateVehicle v =>
    cases hf : s.vehicles.find v.vehicleId with
    | none => rw [exec_updateVehicle_none hf]; exact h
    | some old =>
      rw [exec_updateVehicle hf]
      split
      · exact h
      · rename_i hc
        obtain ⟨a, rfl⟩ := h.vehicles.row old (Keyed.find_mem hf)
        refine ⟨h.customers, h.vehicles.put { v with createdAt := a.createdAt } ?_⟩
        rwa [clash_vehicle_createdAt]
  | deleteVehicle id => exact ⟨h.customers, h.vehicles.erase id⟩
  | saveUser u =>
    rw [exec_saveUser]
    split <;> exact ⟨h.customers, h.vehicles⟩

theorem tables_inductive : (tableLts T Tok).Inductive (Sound T) where
  init s hs := by
    cases hs
    exact ⟨.empty, .empty⟩
  step s w s' h hstep := by
    cases hstep
    exact exec_sound h w

/-! ## The tables that calls lead to -/

/-- The tables a transaction leaves are those of its write, if it comes to it. -/
theorem run_shared (p : Steps T Tok) (s : SqlStores) :
    (p.run s).2 = s ∨ ∃ w : RegistryWrite T, (p.run s).2 = (w.exec s : Answer T Tok × _).2 := by
  induction p with
  | done a => exact .inl rfl
  | read f ih => exact ih s
  | write w => exact .inr ⟨w, rfl⟩

theorem next_alone (hasher : PasswordHasher) (l : WriteCall T) (s : SqlStores) :
    RegistryCall.next sqlBackend hasher s (l.call : RegistryCall T Tok) =
      (l.alone hasher s : Answer T Tok × SqlStores).2 := by
  unfold RegistryCall.next WriteCall.alone
  cases ((l.call : RegistryCall T Tok).run sqlBackend hasher).run s <;> rfl

/-- A use case leaves the tables as they are, or makes one write. -/
theorem next_write (hasher : PasswordHasher) (s : SqlStores) (l : RegistryCall T Tok) :
    RegistryCall.next sqlBackend hasher s l = s ∨ ∃ w : RegistryWrite T,
      RegistryCall.next sqlBackend hasher s l = (w.exec s : Answer T Tok × _).2 := by
  have write : ∀ l : WriteCall T, RegistryCall.next sqlBackend hasher s
        (l.call : RegistryCall T Tok) = s ∨ ∃ w : RegistryWrite T,
      RegistryCall.next sqlBackend hasher s (l.call : RegistryCall T Tok) =
        (w.exec s : Answer T Tok × _).2 := by
    intro l
    rw [next_alone, ← prog_run]
    exact run_shared l.prog s
  cases l with
  | createCustomer command g => exact write (.createCustomer command g)
  | updateCustomer command now => exact write (.updateCustomer command now)
  | listCustomers => exact .inl (reads_records .customers _ s)
  | getCustomer customerId => exact .inl (reads_records .customer _ s)
  | deleteCustomer customerId => exact write (.deleteCustomer customerId)
  | createVehicle command g => exact write (.createVehicle command g)
  | updateVehicle command now => exact write (.updateVehicle command now)
  | listVehicles customerId => exact .inl (reads_records .vehicles _ s)
  | getVehicle vehicleId => exact .inl (reads_records .vehicle _ s)
  | deleteVehicle vehicleId => exact write (.deleteVehicle vehicleId)
  | registerAdminUser command salt g =>
    simp only [RegistryCall.next, RegistryCall.run, map_run, registerAdminUser_run]
    cases RegisterAdminUserUseCase.check (sqlBackend (T := T)).users command s.users with
    | error e => exact .inl rfl
    | ok _ =>
      simp only
      cases hasher.hashPassword command.password salt with
      | error e => exact .inl rfl
      | ok passwordHash =>
        refine .inr ⟨.saveUser (RegisterAdminUserUseCase.user command passwordHash g), ?_⟩
        simp only [RegistryWrite.exec, sqlBackend]
        cases (sqlAlchemyAdminUserRepository (T := T)).save
          (RegisterAdminUserUseCase.user command passwordHash g) s.users <;> rfl
  | loginAdminUser command createToken => exact .inl (next_login sqlBackend hasher s _ _)

/-- Use cases one after the other. -/
theorem calls_reachable {hasher : PasswordHasher} {s : SqlStores}
    (h : (registryLts (sqlBackend (T := T)) hasher emptyTables Tok).Reachable s) :
    (tableLts T Tok).Reachable s := by
  refine Lts.Inductive.reachable (I := (tableLts T Tok).Reachable) ⟨?_, ?_⟩ s h
  · intro s hs
    exact ⟨s, [], hs, .nil s⟩
  · intro s l s' hs hstep
    have hstep : s' = RegistryCall.next sqlBackend hasher s l := hstep
    rw [hstep]
    rcases next_write hasher s l with he | ⟨w, he⟩
    · rw [he]; exact hs
    · rw [he]; exact hs.step rfl

/-- Two use cases at a time. -/
theorem race_reachable {c c' : Race.Pair SqlStores (RegistryWrite T) (Answer T Tok)}
    {sched : List Bool} (h : (tableLts T Tok).Reachable c.shared)
    (hrun : (Race.race RegistryWrite.exec).Run c sched c') :
    (tableLts T Tok).Reachable c'.shared := by
  refine hrun.inv (I := fun c => (tableLts T Tok).Reachable c.shared) ?_ h
  intro c b c' hs hstep
  have hstep : c' = Race.turn RegistryWrite.exec c b := hstep
  subst hstep
  simp only [Race.turn]
  cases c.prog b with
  | done a => exact hs
  | read f => exact hs
  | write w => exact hs.step rfl

end
end ServiceOrderOs.Concurrency
