import ServiceOrderOs.L3App.SqlRegistries
import ServiceOrderOs.L4Runs.Registries

/-!
# Owners of vehicles

Creating and updating a vehicle look its customer up; deleting a customer does
not look at the vehicles, and no foreign key does.

What the argument needs of the repositories is which ids the customers have
and which customers the vehicles name (`KeepsIds`, `KeepsOwners`); both
adapters of each port keep these laws.

* `owned_iff`: over any lawful backend, the owners exist throughout a run
  exactly when no step deletes a customer that a stored vehicle names.
* `vehicles_owned_iff`: the same for the two backends.
-/
namespace ServiceOrderOs.Runs
open Core Py Domain App

variable {T Tok κ ν υ : Type}

/-! ## The laws -/

/-- `has s id`: a customer is stored under `id`. -/
structure KeepsIds (repo : CustomerRepository T κ) (has : κ → String → Prop) : Prop where
  get : ∀ s id c, repo.get id s = .ok c → has s id
  save : ∀ s s' c, repo.save c s = .ok s' → ∀ id, has s id → has s' id
  update : ∀ s s' c, repo.update c s = .ok s' → ∀ id, has s id → has s' id
  mutated : ∀ s k c id, has s id → has (repo.mutated k c s) id
  kept : ∀ s k id, id ≠ k → has s id → has (repo.delete k s).2 id
  gone : ∀ s id, ¬ has (repo.delete id s).2 id

/-- `names s id`: a stored vehicle has `id` as its customer's. -/
structure KeepsOwners (repo : VehicleRepository T ν) (names : ν → String → Prop) : Prop where
  save : ∀ s s' v, repo.save v s = .ok s' → ∀ id, names s' id → names s id ∨ id = v.customerId
  update : ∀ s s' v, repo.update v s = .ok s' → ∀ id, names s' id →
    names s id ∨ id = v.customerId
  mutated : ∀ s k v id, names (repo.mutated k v s) id → names s id ∨ id = v.customerId
  delete : ∀ s k id, names (repo.delete k s).2 id → names s id

section Lawful
variable {b : Backend T κ ν υ} {has : κ → String → Prop} {names : ν → String → Prop}

/-- Every customer a vehicle names is stored. -/
def Owned (has : κ → String → Prop) (names : ν → String → Prop) (s : Stores κ ν υ) : Prop :=
  ∀ id, names s.vehicles id → has s.customers id

/-- The call deletes no customer that a stored vehicle names. -/
def SparesOwners (names : ν → String → Prop) (s : Stores κ ν υ) : RegistryCall T Tok → Prop
  | .deleteCustomer customerId => ¬ names s.vehicles customerId
  | _ => True

/-- Customers may come, and vehicles may come to name a stored one. -/
structure Grows (has : κ → String → Prop) (names : ν → String → Prop) (s s' : Stores κ ν υ) :
    Prop where
  customers : ∀ id, has s.customers id → has s'.customers id
  vehicles : ∀ id, names s'.vehicles id → names s.vehicles id ∨ has s.customers id

theorem Grows.owned {s s' : Stores κ ν υ} (hg : Grows has names s s') (h : Owned has names s) :
    Owned has names s' := by
  intro id hid
  rcases hg.vehicles id hid with h' | h'
  · exact hg.customers id (h id h')
  · exact hg.customers id h'

theorem Grows.refl (s : Stores κ ν υ) : Grows has names s s := ⟨fun _ h => h, fun _ h => .inl h⟩

theorem next_eq (hasher : PasswordHasher) (s : Stores κ ν υ) (l : RegistryCall T Tok) :
    RegistryCall.next b hasher s l = match (l.run b hasher).run s with
      | .ok _ s' => s'
      | .error _ s' => s' := rfl

theorem reads_grows {β : Type} (f : β → RegistryReply T Tok)
    (x : Stores κ ν υ → Except PyError β) (s : Stores κ ν υ) :
    Grows has names s (match (f <$> ask x : RegistryM _ _ _ _).run s with
      | .ok _ s' => s'
      | .error _ s' => s') := by
  rw [map_run, ask_run]
  cases x s <;> exact .refl s

/-- A vehicle written for a stored customer. -/
theorem Grows.vehicle {s : Stores κ ν υ} {id : String} (hid : has s.customers id) {vehicles : ν}
    (h : ∀ id', names vehicles id' → names s.vehicles id' ∨ id' = id) :
    Grows has names s { s with vehicles := vehicles } := by
  refine ⟨fun _ h => h, fun id' hn => ?_⟩
  rcases h id' hn with hold | rfl
  · exact .inl hold
  · exact .inr hid

theorem updateCustomer_grows (hc : KeepsIds b.customers has) (hasher : PasswordHasher)
    (s : Stores κ ν υ) (command : UpdateCustomerCommand) (now : T) :
    Grows has names s
      (RegistryCall.next b hasher s (.updateCustomer command now : RegistryCall T Tok)) := by
  simp only [next_eq, RegistryCall.run, map_run, updateCustomer_run]
  cases UpdateCustomerUseCase.check b.customers command s.customers with
  | error e => exact .refl s
  | ok old =>
    have hm := hc.mutated s.customers command.customerId
      (UpdateCustomerUseCase.assign command now old)
    simp only
    cases hs : b.customers.update (UpdateCustomerUseCase.assign command now old)
        (b.customers.mutated command.customerId (UpdateCustomerUseCase.assign command now old)
          s.customers) with
    | error e => exact ⟨hm, fun _ h => .inl h⟩
    | ok c => exact ⟨fun id h => hc.update _ _ _ hs id (hm id h), fun _ h => .inl h⟩

theorem createVehicle_grows (hc : KeepsIds b.customers has) (hv : KeepsOwners b.vehicles names)
    (hasher : PasswordHasher) (s : Stores κ ν υ) (command : CreateVehicleCommand)
    (g : Generated T) :
    Grows has names s
      (RegistryCall.next b hasher s (.createVehicle command g : RegistryCall T Tok)) := by
  simp only [next_eq, RegistryCall.run, map_run, createVehicle_run]
  cases hk : CreateVehicleUseCase.check b.vehicles b.customers command s with
  | error e => exact .refl s
  | ok u =>
    obtain ⟨⟨c, hget⟩, -⟩ := CreateVehicleUseCase.check_ok hk
    cases hs : b.vehicles.save (CreateVehicleUseCase.vehicle command g) s.vehicles with
    | error e => exact .refl s
    | ok v => exact .vehicle (hc.get _ _ _ hget) (hv.save _ _ _ hs)

/-- The object that is assigned to names the new owner already, whether or not
the write that follows is refused. -/
theorem updateVehicle_grows (hc : KeepsIds b.customers has) (hv : KeepsOwners b.vehicles names)
    (hasher : PasswordHasher) (s : Stores κ ν υ) (command : UpdateVehicleCommand) (now : T) :
    Grows has names s
      (RegistryCall.next b hasher s (.updateVehicle command now : RegistryCall T Tok)) := by
  simp only [next_eq, RegistryCall.run, map_run, updateVehicle_run]
  cases hk : UpdateVehicleUseCase.check b.vehicles b.customers command s with
  | error e => exact .refl s
  | ok old =>
    obtain ⟨-, ⟨c, hget⟩, -⟩ := UpdateVehicleUseCase.check_ok hk
    have hm := hv.mutated s.vehicles command.vehicleId
      (UpdateVehicleUseCase.assign command now old)
    simp only
    cases hs : b.vehicles.update (UpdateVehicleUseCase.assign command now old)
        (b.vehicles.mutated command.vehicleId (UpdateVehicleUseCase.assign command now old)
          s.vehicles) with
    | error e => exact .vehicle (hc.get _ _ _ hget) hm
    | ok v =>
      refine .vehicle (hc.get _ _ _ hget) fun id h => ?_
      rcases hv.update _ _ _ hs id h with h | h
      · exact hm id h
      · exact .inr h

/-- Every call but the deletion of a customer. -/
theorem next_grows (hc : KeepsIds b.customers has) (hv : KeepsOwners b.vehicles names)
    (hasher : PasswordHasher) (s : Stores κ ν υ) {l : RegistryCall T Tok}
    (hl : ∀ id, l ≠ .deleteCustomer id) : Grows has names s (RegistryCall.next b hasher s l) := by
  cases l with
  | createCustomer command g =>
    simp only [next_eq, RegistryCall.run, map_run, createCustomer_run]
    cases CreateCustomerUseCase.check b.customers command s.customers with
    | error e => exact .refl s
    | ok u =>
      cases hs : b.customers.save (CreateCustomerUseCase.customer command g) s.customers with
      | error e => exact .refl s
      | ok c => exact ⟨hc.save _ _ _ hs, fun _ h => .inl h⟩
  | updateCustomer command now => exact updateCustomer_grows hc hasher s command now
  | listCustomers => exact reads_grows .customers _ s
  | getCustomer customerId => exact reads_grows .customer _ s
  | deleteCustomer customerId => exact absurd rfl (hl customerId)
  | createVehicle command g => exact createVehicle_grows hc hv hasher s command g
  | updateVehicle command now => exact updateVehicle_grows hc hv hasher s command now
  | listVehicles customerId => exact reads_grows .vehicles _ s
  | getVehicle vehicleId => exact reads_grows .vehicle _ s
  | deleteVehicle vehicleId => exact ⟨fun _ h => h, fun id h => .inl (hv.delete _ _ id h)⟩
  | registerAdminUser command salt g =>
    obtain ⟨users, hu⟩ := next_register b hasher s command salt g
    rw [hu]
    exact ⟨fun _ h => h, fun _ h => .inl h⟩
  | loginAdminUser command createToken =>
    rw [next_login]
    exact .refl s

theorem owned_iff (hc : KeepsIds b.customers has) (hv : KeepsOwners b.vehicles names)
    (hasher : PasswordHasher) {s : Stores κ ν υ} (hs : Owned has names s)
    (ls : List (RegistryCall T Tok)) :
    (registryLts b hasher s Tok).Always (Owned has names) s ls ↔
      (registryLts b hasher s Tok).Along (SparesOwners names) s ls := by
  have deleted : ∀ (s : Stores κ ν υ) id, RegistryCall.next b hasher s
      (.deleteCustomer id : RegistryCall T Tok) =
        { s with customers := (b.customers.delete id s.customers).2 } := fun _ _ => rfl
  refine Lts.always_iff_along (I := Owned has names) (fun _ h => h) ?_ ?_ hs ls
  · intro s l s' h hspare hstep
    rw [show s' = _ from hstep]
    by_cases hl : ∀ id, l ≠ .deleteCustomer id
    · exact (next_grows hc hv hasher s hl).owned h
    · obtain ⟨id, hid⟩ := Classical.not_forall.mp hl
      rw [Classical.not_not.mp hid] at hspare ⊢
      rw [deleted]
      intro id' hn
      refine hc.kept _ _ _ (fun heq => ?_) (h id' hn)
      subst heq
      exact hspare hn
  · intro s l s' _ hspare hstep hP
    rw [show s' = _ from hstep] at hP
    cases l with
    | deleteCustomer id =>
      rw [deleted] at hP
      exact hc.gone _ id (hP id (Classical.not_not.mp hspare))
    | _ => exact hspare trivial

end Lawful

/-! ## The two backends -/

/-- A dictionary has a record under the id. -/
def HasKey {α : Type} (s : IdDict α) (id : String) : Prop := (s.value id).isSome

/-- A vehicle in the dictionary has the customer id. -/
def NamesOwner (s : IdDict (Vehicle T)) (id : String) : Prop := ∃ v ∈ s.values, v.customerId = id

def HasRow (t : CustomerTable) (id : String) : Prop := (t.find id).isSome

def RowNamesOwner (t : VehicleTable) (id : String) : Prop := ∃ row ∈ t.items, row.customerId = id

instance {α : Type} (s : IdDict α) (id : String) : Decidable (HasKey s id) :=
  inferInstanceAs (Decidable ((s.value id).isSome = true))

instance (t : CustomerTable) (id : String) : Decidable (HasRow t id) :=
  inferInstanceAs (Decidable ((t.find id).isSome = true))

section Dictionaries

theorem hasKey_put {α : Type} {s : IdDict α} {k id : String} {a : α} (h : HasKey s id) :
    HasKey (Keyed.put s (k, a)) id := by
  unfold HasKey IdDict.value at h ⊢
  rw [Option.isSome_map, Keyed.find_put]
  split
  · rfl
  · rwa [Option.isSome_map] at h

theorem namesOwner_put {s : IdDict (Vehicle T)} {k id : String} {v : Vehicle T}
    (h : NamesOwner (Keyed.put s (k, v)) id) : NamesOwner s id ∨ id = v.customerId := by
  obtain ⟨w, hw, rfl⟩ := h
  obtain ⟨i, hi⟩ := IdDict.mem_values.mp hw
  rcases Keyed.mem_put.mp hi with heq | ⟨hi, -⟩
  · right; exact congrArg (fun e => e.2.customerId) heq
  · left; exact ⟨w, IdDict.mem_values.mpr ⟨i, hi⟩, rfl⟩

theorem inMemory_keepsIds [Casefold T] :
    KeepsIds (inMemoryCustomerRepository (T := T)) HasKey where
  get s id c h := by
    rw [HasKey, IdDict.value_some.mpr (inMemory_get h)]; rfl
  save s s' c h id hid := by cases h; exact hasKey_put hid
  update s s' c h id hid := by cases h; exact hasKey_put hid
  mutated s k c id hid := hasKey_put hid
  kept s k id hne hid := by
    unfold HasKey IdDict.value at hid ⊢
    rw [Option.isSome_map] at hid ⊢
    show (Keyed.find (Keyed.erase s k) id).isSome
    rwa [Keyed.find_erase, if_neg hne]
  gone s id h := by
    have hnone : Keyed.find (Keyed.erase s id) id = none := by rw [Keyed.find_erase, if_pos rfl]
    have h' : (Keyed.find (Keyed.erase s id) id).isSome = true := by
      rw [← Option.isSome_map]; exact h
    rw [hnone] at h'
    cases h'

theorem inMemory_keepsOwners : KeepsOwners (inMemoryVehicleRepository (T := T)) NamesOwner where
  save s s' v h id hid := by cases h; exact namesOwner_put hid
  update s s' v h id hid := by cases h; exact namesOwner_put hid
  mutated s k v id hid := namesOwner_put hid
  delete s k id hid := by
    obtain ⟨w, hw, rfl⟩ := hid
    obtain ⟨i, hi⟩ := IdDict.mem_values.mp hw
    exact ⟨w, IdDict.mem_values.mpr ⟨i, (Keyed.mem_erase.mp hi).1⟩, rfl⟩

end Dictionaries

section Tables
variable [Runtime T]

theorem executed_ok {σ : Type} {x : Option σ} {s : σ} (h : executed x = .ok s) : x = some s := by
  cases x with
  | none => cases h
  | some s' => cases h; rfl

theorem hasRow_put {t : CustomerTable} {id : String} {row : CustomerRow} (h : HasRow t id) :
    HasRow (t.put row) id := by
  unfold HasRow at h ⊢
  rw [Keyed.find_put]
  split
  · rfl
  · exact h

theorem rowNamesOwner_put {t : VehicleTable} {id : String} {row : VehicleRow}
    (h : RowNamesOwner (t.put row) id) : RowNamesOwner t id ∨ id = row.customerId := by
  obtain ⟨w, hw, rfl⟩ := h
  rcases Keyed.mem_put.mp hw with rfl | ⟨hw, -⟩
  · exact .inr rfl
  · exact .inl ⟨w, hw, rfl⟩

theorem sql_keepsIds : KeepsIds (sqlAlchemyCustomerRepository (T := T)) HasRow where
  get s id c h := by
    unfold HasRow
    simp only [sqlAlchemyCustomerRepository, tableGet] at h
    split at h
    · rename_i hf; rw [hf]; rfl
    · cases h
  save s s' c h id hid := by
    obtain ⟨rfl, -⟩ := Keyed.insert_some (executed_ok h)
    exact hasRow_put hid
  update s s' c h id hid := by
    simp only [sqlAlchemyCustomerRepository] at h
    split at h
    · cases h; exact hid
    · rcases Keyed.update_some (executed_ok h) with rfl | ⟨rfl, -⟩
      · exact hid
      · exact hasRow_put hid
  mutated s k c id hid := hid
  kept s k id hne hid := by
    show (Keyed.find (Keyed.erase s k) id).isSome
    rwa [Keyed.find_erase, if_neg hne]
  gone s id h := by
    have hnone : Keyed.find (Keyed.erase s id) id = none := by rw [Keyed.find_erase, if_pos rfl]
    exact absurd (hnone ▸ h : (none : Option CustomerRow).isSome) (by decide)

theorem sql_keepsOwners : KeepsOwners (sqlAlchemyVehicleRepository (T := T)) RowNamesOwner where
  save s s' v h id hid := by
    obtain ⟨rfl, -⟩ := Keyed.insert_some (executed_ok h)
    exact rowNamesOwner_put hid
  update s s' v h id hid := by
    simp only [sqlAlchemyVehicleRepository] at h
    split at h
    · cases h; exact .inl hid
    · rcases Keyed.update_some (executed_ok h) with rfl | ⟨rfl, -⟩
      · exact .inl hid
      · exact rowNamesOwner_put hid
  mutated s k v id hid := .inl hid
  delete s k id hid := by
    obtain ⟨w, hw, rfl⟩ := hid
    exact ⟨w, (Keyed.mem_erase.mp hw).1, rfl⟩

end Tables

/-- **When vehicles always have an existing owner.** For every finite sequence
of calls from empty stores, over the in-memory and over the SQL repositories:
every stored vehicle names a stored customer throughout, if and only if no
call deletes a customer that a stored vehicle names. -/
theorem vehicles_owned_iff [Runtime T] [Casefold T] (hasher : PasswordHasher)
    (ls : List (RegistryCall T Tok)) :
    ((registryLts memoryBackend hasher emptyMemory Tok).Always (Owned HasKey NamesOwner)
        emptyMemory ls ↔
      (registryLts memoryBackend hasher emptyMemory Tok).Along (SparesOwners NamesOwner)
        emptyMemory ls) ∧
    ((registryLts sqlBackend hasher emptyTables Tok).Always (Owned HasRow RowNamesOwner)
        emptyTables ls ↔
      (registryLts sqlBackend hasher emptyTables Tok).Along (SparesOwners RowNamesOwner)
        emptyTables ls) := by
  constructor
  · refine owned_iff inMemory_keepsIds inMemory_keepsOwners hasher (fun id h => ?_) ls
    obtain ⟨v, hv, -⟩ := h
    cases hv
  · refine owned_iff sql_keepsIds sql_keepsOwners hasher (fun id h => ?_) ls
    obtain ⟨row, hrow, -⟩ := h
    cases hrow

/-- A customer and its vehicle, and the customer deleted. -/
def exOrphan : List (RegistryCall Utc Unit) :=
  [exCreate "customer-1" "ana@example.com" none,
   .createVehicle ⟨"customer-1", "Fiat", "Uno", 2010, "ABC1D23"⟩ (exGenerated "vehicle-1"),
   .deleteCustomer "customer-1"]

/-- The vehicle names a customer that is gone, in either backend. -/
theorem orphaned_vehicle :
    ¬ (registryLts memoryBackend exHasher emptyMemory Unit).Always (Owned HasKey NamesOwner)
        emptyMemory exOrphan ∧
      ¬ (registryLts sqlBackend exHasher emptyTables Unit).Always (Owned HasRow RowNamesOwner)
        emptyTables exOrphan := by
  constructor
  · intro h
    have hend := h exOrphan [] _ (List.append_nil _).symm
      (.cons rfl (.cons rfl (.cons rfl (.nil _)))) "customer-1" ⟨_, .head _, rfl⟩
    exact absurd hend (by decide)
  · intro h
    have hend := h exOrphan [] _ (List.append_nil _).symm
      (.cons rfl (.cons rfl (.cons rfl (.nil _)))) "customer-1" ⟨_, .head _, rfl⟩
    exact absurd hend (by decide)

end ServiceOrderOs.Runs
