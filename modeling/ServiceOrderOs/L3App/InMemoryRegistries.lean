import ServiceOrderOs.Core.Keyed
import ServiceOrderOs.L3App.RegistryUseCases

/-!
# The in-memory registries

Each adapter is a dictionary from ids to the record objects. A lookup by
another field takes the first record that fits, in insertion order; emails are
compared casefolded. `get` hands out the stored object, so assigning to it
changes the entry it was found under.

* `Filed`, `Registered`: every record under its own id, and no two that share
  a plate, a document or an email.
* `memory_cases`: a call raises and changes nothing, or makes one write that
  keeps `Registered`.
-/
namespace ServiceOrderOs.App
open Core Py Domain

variable {T Tok α ν : Type}

/-- A dictionary with ids as keys: its entries in insertion order. -/
abbrev IdDict (α : Type) := Keyed (Prod.fst : String × α → String)

namespace IdDict

/-- The value under a key. -/
def value (s : IdDict α) (id : String) : Option α := (s.find id).map Prod.snd

def values (s : IdDict α) : List α := s.items.map Prod.snd

/-- The first value that fits. -/
def first (s : IdDict α) (p : α → Bool) : Option α := s.values.find? p

theorem value_some {s : IdDict α} {id : String} {a : α} :
    s.value id = some a ↔ (id, a) ∈ s.items := by
  unfold value
  rw [Option.map_eq_some_iff]
  constructor
  · intro h
    obtain ⟨⟨k, b⟩, hf, rfl⟩ := h
    have hk : k = id := Keyed.find_key hf
    exact hk ▸ Keyed.find_mem hf
  · exact fun h => ⟨(id, a), Keyed.find_of_mem h, rfl⟩

theorem mem_values {s : IdDict α} {a : α} : a ∈ s.values ↔ ∃ id, (id, a) ∈ s.items := by
  simp [values]

theorem first_none {s : IdDict α} {p : α → Bool} (h : s.first p = none) :
    ∀ e ∈ s.items, p e.2 = false := by
  intro e he
  simpa using List.find?_eq_none.mp h e.2 (mem_values.mpr ⟨e.1, he⟩)

theorem first_of_mem {s : IdDict α} (p : α → Bool) {a : α} (h : a ∈ s.values) (hp : p a = true) :
    ∃ b, s.first p = some b ∧ b ∈ s.values ∧ p b = true := by
  obtain ⟨b, hb⟩ := Option.isSome_iff_exists.mp (List.find?_isSome.mpr ⟨a, h, hp⟩)
  exact ⟨b, hb, List.mem_of_find?_eq_some hb, List.find?_some hb⟩

theorem first_some {s : IdDict α} {p : α → Bool} {a : α} (h : s.first p = some a) :
    ∃ id, (id, a) ∈ s.items ∧ p a = true := by
  obtain ⟨id, hid⟩ := mem_values.mp (List.mem_of_find?_eq_some h)
  exact ⟨id, hid, List.find?_some h⟩

theorem first_isSome {s : IdDict α} {p : α → Bool} {e : String × α} (he : e ∈ s.items)
    (hp : p e.2 = true) : ∃ a, s.first p = some a := by
  cases h : s.first p with
  | some a => exact ⟨a, rfl⟩
  | none => rw [first_none h e he] at hp; cases hp

/-- Every record is under its own id. -/
def Filed (idOf : α → String) (s : IdDict α) : Prop := ∀ e ∈ s.items, idOf e.2 = e.1

theorem Filed.put {idOf : α → String} {s : IdDict α} (h : Filed idOf s) (a : α) :
    Filed idOf (Keyed.put s (idOf a, a)) := by
  intro e he
  rcases Keyed.mem_put.mp he with rfl | ⟨he, -⟩
  · rfl
  · exact h e he

theorem Filed.erase {idOf : α → String} {s : IdDict α} (h : Filed idOf s) (id : String) :
    Filed idOf (Keyed.erase s id) := fun e he => h e (Keyed.mem_erase.mp he).1

/-- The first record that fits is no other than that of `id`: then no other
record fits, should no two fit. -/
theorem only_of_first {idOf : α → String} {s : IdDict α} {p : α → Bool} {id : String}
    (hf : Filed idOf s) (hu : ∀ a ∈ s.items, ∀ b ∈ s.items, p a.2 → p b.2 → a.1 = b.1)
    (h : (s.first p).any (fun a => idOf a ≠ id) = false) : ∀ e ∈ s.items, p e.2 → e.1 = id := by
  intro e he hp
  obtain ⟨a, ha⟩ := first_isSome he hp
  obtain ⟨k, hk, hpa⟩ := first_some ha
  rw [ha] at h
  have hid : idOf a = id := by simpa using h
  rw [hu e he (k, a) hk hp hpa, ← hid, hf (k, a) hk]

/-- So for a lookup that is skipped where the record under `id` itself fits. -/
theorem only_of_lookup {idOf : α → String} {s : IdDict α} {p : α → Bool} {id : String} {old : α}
    (hf : Filed idOf s) (hu : ∀ a ∈ s.items, ∀ b ∈ s.items, p a.2 → p b.2 → a.1 = b.1)
    (hold : (id, old) ∈ s.items) {C : Prop} (hskip : ¬ C → p old)
    (h : C → ∃ other, (.ok (s.first p) : Except PyError (Option α)) = .ok other ∧
      other.any (fun a => idOf a ≠ id) = false) : ∀ e ∈ s.items, p e.2 → e.1 = id := by
  intro e he hp
  by_cases hC : C
  · obtain ⟨other, ho, hany⟩ := h hC
    cases ho
    exact only_of_first hf hu hany e he hp
  · exact hu e he (id, old) hold hp (hskip hC)

theorem put_put (s : IdDict α) (id : String) (a : α) :
    Keyed.put (Keyed.put s (id, a)) (id, a) = Keyed.put s (id, a) :=
  Keyed.put_of_find (Keyed.find_put_self s (id, a))

end IdDict

/-! ## The adapters -/

def customerNotFound (customerId : String) : PyError :=
  .keyError s!"Customer not found: {customerId}"

def vehicleNotFound (vehicleId : String) : PyError := .keyError s!"Vehicle not found: {vehicleId}"

/-- `self._items[id]`, with the error of its `except` clause. -/
def IdDict.get (notFound : String → PyError) (s : IdDict α) (id : String) : Except PyError α :=
  match s.value id with
  | some a => .ok a
  | none => .error (notFound id)

/-- mirrors src/infrastructure/repositories/in_memory_customer_repository.py:6-42 -/
def inMemoryCustomerRepository [Casefold T] : CustomerRepository T (IdDict (Customer T)) where
  save customer s := .ok (s.put (customer.customerId, customer))
  update customer s := .ok (s.put (customer.customerId, customer))
  delete customerId s := ((s.value customerId).isSome, s.erase customerId)
  get customerId s := s.get customerNotFound customerId
  list s := .ok s.values
  findByCpfCnpj cpfCnpj s := .ok (s.first fun item => item.cpfCnpj = some cpfCnpj)
  findByEmail email s := .ok (s.first fun item => casefold T item.email = casefold T email)
  mutated customerId customer s := s.put (customerId, customer)

/-- mirrors src/infrastructure/repositories/in_memory_vehicle_repository.py:6-32 -/
def inMemoryVehicleRepository : VehicleRepository T (IdDict (Vehicle T)) where
  save vehicle s := .ok (s.put (vehicle.vehicleId, vehicle))
  update vehicle s := .ok (s.put (vehicle.vehicleId, vehicle))
  delete vehicleId s := ((s.value vehicleId).isSome, s.erase vehicleId)
  get vehicleId s := s.get vehicleNotFound vehicleId
  list customerId s := .ok (match customerId with
    | none => s.values
    | some id => s.values.filter fun vehicle => vehicle.customerId = id)
  findByPlate plate s := .ok (s.first fun item => item.plate = plate)
  mutated vehicleId vehicle s := s.put (vehicleId, vehicle)

/-- mirrors src/infrastructure/repositories/in_memory_admin_user_repository.py:6-22 -/
def inMemoryAdminUserRepository [Casefold T] : AdminUserRepository T (IdDict (AdminUser T)) where
  save user s := .ok (s.put (user.userId, user))
  findByEmail email s := .ok (s.first fun item => casefold T item.email = casefold T email)

abbrev MemoryStores (T : Type) :=
  Stores (IdDict (Customer T)) (IdDict (Vehicle T)) (IdDict (AdminUser T))

def memoryBackend [Casefold T] :
    Backend T (IdDict (Customer T)) (IdDict (Vehicle T)) (IdDict (AdminUser T)) :=
  ⟨inMemoryCustomerRepository, inMemoryVehicleRepository, inMemoryAdminUserRepository⟩

def emptyMemory : MemoryStores T := ⟨.empty, .empty, .empty⟩

/-! ## Uniqueness -/

/-- What no two customers share: the casefolded email and the document, unless
it is empty. -/
def customerColumns (T : Type) [Casefold T] : List (String × Customer T → Option String) :=
  [fun e => some (casefold T e.2.email), fun e => truthyText e.2.cpfCnpj]

def vehicleColumns (T : Type) : List (String × Vehicle T → Option String) :=
  [fun e => some e.2.plate]

def userColumns (T : Type) [Casefold T] : List (String × AdminUser T → Option String) :=
  [fun e => some (casefold T e.2.email)]

structure Registered [Casefold T] (s : MemoryStores T) : Prop where
  customersFiled : s.customers.Filed Customer.customerId
  vehiclesFiled : s.vehicles.Filed Vehicle.vehicleId
  usersFiled : s.users.Filed AdminUser.userId
  customers : s.customers.Unique (customerColumns T)
  vehicles : s.vehicles.Unique (vehicleColumns T)
  users : s.users.Unique (userColumns T)

theorem truthyText_some {s : Option String} {v : String} :
    truthyText s = some v ↔ s = some v ∧ v ≠ "" := by
  simp [truthyText, Option.filter_eq_some_iff]

/-! ## One call -/

section Calls
variable [Casefold T]

/-- The writes of the calls that return. -/
inductive MemoryWrite (s : MemoryStores T) : MemoryStores T → Prop
  | none : MemoryWrite s s
  | customer (c : Customer T)
      (hc : ¬ s.customers.Clash (customerColumns T) (c.customerId, c)) :
      MemoryWrite s { s with customers := s.customers.put (c.customerId, c) }
  | customerGone (id : String) : MemoryWrite s { s with customers := s.customers.erase id }
  | vehicle (v : Vehicle T) (hc : ¬ s.vehicles.Clash (vehicleColumns T) (v.vehicleId, v)) :
      MemoryWrite s { s with vehicles := s.vehicles.put (v.vehicleId, v) }
  | vehicleGone (id : String) : MemoryWrite s { s with vehicles := s.vehicles.erase id }
  | user (u : AdminUser T) (hc : ¬ s.users.Clash (userColumns T) (u.userId, u)) :
      MemoryWrite s { s with users := s.users.put (u.userId, u) }

theorem MemoryWrite.registered {s s' : MemoryStores T} (hw : MemoryWrite s s')
    (h : Registered s) : Registered s' := by
  cases hw with
  | none => exact h
  | customer c hc =>
    exact { h with customersFiled := h.customersFiled.put c, customers := h.customers.put hc }
  | customerGone id =>
    exact { h with
      customersFiled := h.customersFiled.erase id, customers := h.customers.erase id }
  | vehicle v hc =>
    exact { h with vehiclesFiled := h.vehiclesFiled.put v, vehicles := h.vehicles.put hc }
  | vehicleGone id =>
    exact { h with vehiclesFiled := h.vehiclesFiled.erase id, vehicles := h.vehicles.erase id }
  | user u hc => exact { h with usersFiled := h.usersFiled.put u, users := h.users.put hc }

theorem unique_email {s : IdDict (Customer T)} (hu : s.Unique (customerColumns T)) (v : String) :
    ∀ a ∈ s.items, ∀ b ∈ s.items, casefold T a.2.email = v → casefold T b.2.email = v →
      a.1 = b.1 := fun a ha b hb h₁ h₂ =>
  hu _ (List.mem_cons_self ..) a ha b hb v (congrArg some h₁) (congrArg some h₂)

theorem unique_cpfCnpj {s : IdDict (Customer T)} (hu : s.Unique (customerColumns T)) {v : String}
    (hv : v ≠ "") : ∀ a ∈ s.items, ∀ b ∈ s.items, a.2.cpfCnpj = some v → b.2.cpfCnpj = some v →
      a.1 = b.1 := fun a ha b hb h₁ h₂ =>
  hu _ (List.mem_cons_of_mem _ (List.mem_cons_self ..)) a ha b hb v
    (truthyText_some.mpr ⟨h₁, hv⟩) (truthyText_some.mpr ⟨h₂, hv⟩)

/-- No other customer has the email or the document. -/
theorem customer_apart {s : IdDict (Customer T)} {c : Customer T}
    (hemail : ∀ e ∈ s.items, casefold T e.2.email = casefold T c.email → e.1 = c.customerId)
    (hcpf : ∀ v, truthyText c.cpfCnpj = some v → ∀ e ∈ s.items, e.2.cpfCnpj = some v →
      e.1 = c.customerId) : ¬ s.Clash (customerColumns T) (c.customerId, c) := by
  intro h
  obtain ⟨e, he, hne, col, hcol, hsome, heq⟩ := h
  simp only [customerColumns, List.mem_cons, List.not_mem_nil, or_false] at hcol
  rcases hcol with rfl | rfl
  · exact hne (hemail e he (by simpa using heq))
  · obtain ⟨v, hv⟩ := Option.isSome_iff_exists.mp hsome
    have hev : truthyText e.2.cpfCnpj = some v := heq.trans hv
    exact hne (hcpf v hv e he (truthyText_some.mp hev).1)

omit [Casefold T] in
theorem inMemory_get {s : IdDict α} {notFound : String → PyError} {id : String} {a : α}
    (h : s.get notFound id = .ok a) : (id, a) ∈ s.items := by
  unfold IdDict.get at h
  split at h
  · rename_i b hb
    cases h
    exact IdDict.value_some.mp hb
  · cases h

theorem create_apart {command : CreateCustomerCommand} {s : IdDict (Customer T)} {u : Unit}
    (h : CreateCustomerUseCase.check inMemoryCustomerRepository command s = .ok u)
    (g : Generated T) :
    ¬ s.Clash (customerColumns T) (g.uuid, CreateCustomerUseCase.customer command g) := by
  obtain ⟨hcpf, hemail⟩ := CreateCustomerUseCase.check_ok h
  refine customer_apart (c := CreateCustomerUseCase.customer command g) (fun e he heq => ?_)
    fun v hv e he heq => ?_
  · have hno := IdDict.first_none (Except.ok.inj hemail) e he
    exact absurd heq (by simpa [CreateCustomerUseCase.customer] using hno)
  · have hno := IdDict.first_none (Except.ok.inj (hcpf v hv)) e he
    exact absurd heq (by simpa using hno)

/-- The lookups an update skips, and the hit on its own record, are harmless
because the columns are unique before. -/
theorem update_apart {command : UpdateCustomerCommand} {s : IdDict (Customer T)}
    {old : Customer T} (hf : s.Filed Customer.customerId) (hu : s.Unique (customerColumns T))
    (h : UpdateCustomerUseCase.check inMemoryCustomerRepository command s = .ok old) (now : T) :
    ¬ s.Clash (customerColumns T)
      (command.customerId, UpdateCustomerUseCase.assign command now old) := by
  obtain ⟨hget, hcpf, hemail⟩ := UpdateCustomerUseCase.check_ok h
  have hold : (command.customerId, old) ∈ s.items := inMemory_get hget
  rw [← show old.customerId = command.customerId from hf _ hold]
  refine customer_apart (c := UpdateCustomerUseCase.assign command now old)
    (fun e he heq => ?_) fun v hv e he heq => ?_
  · refine (IdDict.only_of_lookup hf (fun a ha b hb h₁ h₂ => ?_) hold (fun hsame => ?_) hemail e he
      (decide_eq_true heq)).trans (hf _ hold).symm
    · exact unique_email hu _ a ha b hb (by simpa using h₁) (by simpa using h₂)
    · rw [Classical.not_not.mp hsame]; exact decide_eq_true rfl
  · obtain ⟨hcol, hne⟩ := truthyText_some.mp hv
    refine (IdDict.only_of_lookup hf (fun a ha b hb h₁ h₂ => ?_) hold (fun hsame => ?_) (hcpf v hv)
      e he (decide_eq_true heq)).trans (hf _ hold).symm
    · exact unique_cpfCnpj hu hne a ha b hb (by simpa using h₁) (by simpa using h₂)
    · exact decide_eq_true (Classical.not_not.mp hsame).symm

omit [Casefold T] in
theorem vehicle_apart {s : IdDict (Vehicle T)} {v : Vehicle T}
    (hplate : ∀ e ∈ s.items, e.2.plate = v.plate → e.1 = v.vehicleId) :
    ¬ s.Clash (vehicleColumns T) (v.vehicleId, v) := by
  intro h
  obtain ⟨e, he, hne, col, hcol, -, heq⟩ := h
  simp only [vehicleColumns, List.mem_cons, List.not_mem_nil, or_false] at hcol
  subst hcol
  exact hne (hplate e he (Option.some.inj heq))

theorem createVehicle_apart {command : CreateVehicleCommand} {s : MemoryStores T} {u : Unit}
    (h : CreateVehicleUseCase.check inMemoryVehicleRepository inMemoryCustomerRepository command
      s = .ok u) (g : Generated T) :
    ¬ s.vehicles.Clash (vehicleColumns T) (g.uuid, CreateVehicleUseCase.vehicle command g) := by
  obtain ⟨-, hplate⟩ := CreateVehicleUseCase.check_ok h
  refine vehicle_apart (v := CreateVehicleUseCase.vehicle command g) fun e he heq => ?_
  have hno := IdDict.first_none (Except.ok.inj hplate) e he
  exact absurd heq (by simpa [CreateVehicleUseCase.vehicle] using hno)

theorem updateVehicle_apart {command : UpdateVehicleCommand} {s : MemoryStores T}
    {old : Vehicle T} (hr : Registered s)
    (h : UpdateVehicleUseCase.check inMemoryVehicleRepository inMemoryCustomerRepository command
      s = .ok old) (now : T) :
    ¬ s.vehicles.Clash (vehicleColumns T)
      (command.vehicleId, UpdateVehicleUseCase.assign command now old) := by
  obtain ⟨hget, -, hplate⟩ := UpdateVehicleUseCase.check_ok h
  have hold : (command.vehicleId, old) ∈ s.vehicles.items := inMemory_get hget
  rw [← show old.vehicleId = command.vehicleId from hr.vehiclesFiled _ hold]
  refine vehicle_apart (v := UpdateVehicleUseCase.assign command now old) fun e he heq => ?_
  refine (IdDict.only_of_lookup hr.vehiclesFiled (fun a ha b hb h₁ h₂ => ?_) hold (fun hsame => ?_)
    hplate e he (decide_eq_true heq)).trans (hr.vehiclesFiled _ hold).symm
  · exact hr.vehicles _ (List.mem_cons_self ..) a ha b hb _
      (congrArg some (of_decide_eq_true h₁)) (congrArg some (of_decide_eq_true h₂))
  · exact decide_eq_true (Classical.not_not.mp hsame).symm

theorem register_apart {command : RegisterAdminUserCommand} {s : IdDict (AdminUser T)} {u : Unit}
    (h : RegisterAdminUserUseCase.check inMemoryAdminUserRepository command s = .ok u)
    (passwordHash : String) (g : Generated T) :
    ¬ s.Clash (userColumns T)
      (g.uuid, RegisterAdminUserUseCase.user command passwordHash g) := by
  intro hc
  obtain ⟨e, he, -, col, hcol, -, heq⟩ := hc
  simp only [userColumns, List.mem_cons, List.not_mem_nil, or_false] at hcol
  subst hcol
  have hno := IdDict.first_none (Except.ok.inj (RegisterAdminUserUseCase.check_ok h)) e he
  exact absurd (Option.some.inj heq) (by simpa [RegisterAdminUserUseCase.user] using hno)

/-- A use case that only asks. -/
theorem reads_cases {β : Type} (f : β → RegistryReply T Tok)
    (x : MemoryStores T → Except PyError β) (s : MemoryStores T) :
    (∃ e, (f <$> ask x : RegistryM _ _ _ _).run s = .error e s) ∨
      ∃ r s', (f <$> ask x : RegistryM _ _ _ _).run s = .ok r s' ∧ MemoryWrite s s' := by
  rw [map_run, ask_run]
  cases x s with
  | error e => exact .inl ⟨_, rfl⟩
  | ok a => exact .inr ⟨_, s, rfl, .none⟩

/-- What one call does: it raises and changes nothing, or makes one write. -/
theorem memory_cases (hasher : PasswordHasher) (l : RegistryCall T Tok) {s : MemoryStores T}
    (hr : Registered s) :
    (∃ e, (l.run memoryBackend hasher).run s = .error e s) ∨
      ∃ r s', (l.run memoryBackend hasher).run s = .ok r s' ∧ MemoryWrite s s' := by
  cases l with
  | createCustomer command g =>
    simp only [RegistryCall.run, map_run, createCustomer_run]
    cases hc : CreateCustomerUseCase.check memoryBackend.customers command s.customers with
    | error e => exact .inl ⟨_, rfl⟩
    | ok u => exact .inr ⟨_, _, rfl, .customer _ (create_apart hc g)⟩
  | updateCustomer command now =>
    simp only [RegistryCall.run, map_run, updateCustomer_run]
    cases hc : UpdateCustomerUseCase.check memoryBackend.customers command s.customers with
    | error e => exact .inl ⟨_, rfl⟩
    | ok old =>
      right
      have hid : old.customerId = command.customerId :=
        hr.customersFiled _ (inMemory_get (UpdateCustomerUseCase.check_ok hc).1)
      have hw := update_apart hr.customersFiled hr.customers hc now
      rw [← hid] at hw
      refine ⟨_, _, rfl, ?_⟩
      have h := MemoryWrite.customer (UpdateCustomerUseCase.assign command now old) hw
      rw [← IdDict.put_put] at h
      rw [← hid]; exact h
  | listCustomers => exact reads_cases .customers _ s
  | getCustomer customerId => exact reads_cases .customer _ s
  | deleteCustomer customerId => exact .inr ⟨_, _, rfl, .customerGone customerId⟩
  | createVehicle command g =>
    simp only [RegistryCall.run, map_run, createVehicle_run]
    cases hc : CreateVehicleUseCase.check memoryBackend.vehicles memoryBackend.customers command
        s with
    | error e => exact .inl ⟨_, rfl⟩
    | ok u => exact .inr ⟨_, _, rfl, .vehicle _ (createVehicle_apart hc g)⟩
  | updateVehicle command now =>
    simp only [RegistryCall.run, map_run, updateVehicle_run]
    cases hc : UpdateVehicleUseCase.check memoryBackend.vehicles memoryBackend.customers command
        s with
    | error e => exact .inl ⟨_, rfl⟩
    | ok old =>
      right
      have hid : old.vehicleId = command.vehicleId :=
        hr.vehiclesFiled _ (inMemory_get (UpdateVehicleUseCase.check_ok hc).1)
      have hw := updateVehicle_apart hr hc now
      rw [← hid] at hw
      refine ⟨_, _, rfl, ?_⟩
      have h := MemoryWrite.vehicle (UpdateVehicleUseCase.assign command now old) hw
      rw [← IdDict.put_put] at h
      rw [← hid]; exact h
  | listVehicles customerId => exact reads_cases .vehicles _ s
  | getVehicle vehicleId => exact reads_cases .vehicle _ s
  | deleteVehicle vehicleId => exact .inr ⟨_, _, rfl, .vehicleGone vehicleId⟩
  | registerAdminUser command salt g =>
    simp only [RegistryCall.run, map_run, registerAdminUser_run]
    cases hc : RegisterAdminUserUseCase.check memoryBackend.users command s.users with
    | error e => exact .inl ⟨_, rfl⟩
    | ok u =>
      cases hasher.hashPassword command.password salt with
      | error e => exact .inl ⟨_, rfl⟩
      | ok passwordHash => exact .inr ⟨_, _, rfl, .user _ (register_apart hc passwordHash g)⟩
  | loginAdminUser command createToken =>
    rw [RegistryCall.run, loginAdminUser_asks]
    exact reads_cases .token _ s

end Calls
end ServiceOrderOs.App
