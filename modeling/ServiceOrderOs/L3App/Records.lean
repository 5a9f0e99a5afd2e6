import ServiceOrderOs.L3App.SqlRegistries

/-!
# Registries of records

The ports of customers and vehicles are one port over records with an id, and
each has two adapters: a dictionary, and a table of the records' rows. Both
keep the same thing, the records filed under their ids (`Keyed`), with the
operations of `Keyed`.

* `Keeps`: an adapter is a registry of records.
* `dictPort_keeps`, `tablePort_keeps`: a dictionary is one, and a table.
* `inMemory_keeps`, `sql_keeps`: the four adapters.
-/
namespace ServiceOrderOs.App
open Core Py Domain

variable {T σ α ρ κ ν υ : Type}

/-- What the two ports have in common, over records `α`. -/
structure Port (σ α : Type) where
  save : α → σ → Except RegistryError σ
  update : α → σ → Except RegistryError σ
  delete : String → σ → Bool × σ
  get : String → σ → Except PyError α
  list : σ → Except PyError (List α)
  mutated : String → α → σ → σ

def CustomerRepository.port (repo : CustomerRepository T κ) : Port κ (Customer T) :=
  ⟨repo.save, repo.update, repo.delete, repo.get, repo.list, repo.mutated⟩

def VehicleRepository.port (repo : VehicleRepository T ν) : Port ν (Vehicle T) :=
  ⟨repo.save, repo.update, repo.delete, repo.get, repo.list none, repo.mutated⟩

/-- The adapter `p` keeps the records `r` in its state `s` when `R s r`. An
update may rely on `kept` of the old record and the new one, and is not refused
when they are `alike`. -/
structure Port.Keeps {idOf : α → String} (p : Port σ α) (notFound : String → PyError)
    (kept alike : α → α → Prop) (R : σ → Keyed idOf → Prop) : Prop where
  get : ∀ s r id, R s r → p.get id s = match r.find id with
    | some a => .ok a
    | none => .error (notFound id)
  list : ∀ s r, R s r → p.list s = .ok r.items
  save : ∀ s r a s', R s r → p.save a s = .ok s' → R s' (r.put a)
  update : ∀ s r a old s', R s r → r.find (idOf a) = some old → kept old a →
    p.update a (p.mutated (idOf a) a s) = .ok s' → R s' (r.put a)
  refused : ∀ s r a old e, R s r → r.find (idOf a) = some old →
    p.update a (p.mutated (idOf a) a s) = .error e → R (p.mutated (idOf a) a s) r
  taken : ∀ s r a old, R s r → r.find (idOf a) = some old → kept old a → alike old a →
    ∃ s', p.update a (p.mutated (idOf a) a s) = .ok s'
  delete : ∀ s r id, R s r → R (p.delete id s).2 (r.erase id)

/-! ## A dictionary -/

section Dictionary
variable (idOf : α → String) (notFound : String → PyError)

def dictPort : Port (IdDict α) α where
  save a s := .ok (s.put (idOf a, a))
  update a s := .ok (s.put (idOf a, a))
  delete id s := ((s.value id).isSome, s.erase id)
  get id s := s.get notFound id
  list s := .ok s.values
  mutated id a s := s.put (id, a)

/-- The dictionary of the records. -/
def entries (r : Keyed idOf) : IdDict α := r.image (fun a => (idOf a, a)) fun _ => rfl

variable {idOf notFound}

theorem entries_put (r : Keyed idOf) (a : α) :
    Keyed.put (entries idOf r) (idOf a, a) = entries idOf (r.put a) := by
  unfold entries
  exact Keyed.image_put r a

/-- What `f` shows of the records, under their ids. -/
def shown {β : Type} (f : α → β) (r : Keyed idOf) : IdDict β :=
  r.image (fun a => (idOf a, f a)) fun _ => rfl

section Shown
variable {β : Type} (f : α → β) (r : Keyed idOf)

theorem shown_put (a : α) : Keyed.put (shown f r) (idOf a, f a) = shown f (r.put a) := by
  unfold shown
  exact Keyed.image_put r a

theorem shown_erase (id : String) : Keyed.erase (shown f r) id = shown f (r.erase id) := by
  unfold shown
  exact Keyed.image_erase r id

theorem shown_value (id : String) : (shown f r).value id = (r.find id).map f := by
  rw [IdDict.value, shown, Keyed.find_image, Option.map_map]
  rfl

theorem shown_items : (shown f r).items = r.items.map fun a => (idOf a, f a) := rfl

theorem shown_values : (shown f r).values = r.items.map f := by
  rw [IdDict.values, shown, Keyed.image, List.map_map]
  rfl

end Shown

theorem dictPort_keeps (kept alike : α → α → Prop) :
    (dictPort idOf notFound).Keeps notFound kept alike
      fun s (r : Keyed idOf) => s = entries idOf r where
  get s r id h := by
    subst h
    simp only [dictPort, IdDict.get, IdDict.value, entries, Keyed.find_image, Option.map_map]
    cases r.find id <;> rfl
  list s r h := by
    subst h
    simp only [dictPort, IdDict.values, entries, Keyed.image, List.map_map]
    exact congrArg _ (List.map_id r.items)
  save s r a s' h hs := by
    subst h
    cases hs
    exact entries_put r a
  update s r a old s' h _ _ hs := by
    subst h
    simp only [dictPort, Except.ok.injEq] at hs
    rw [← hs, IdDict.put_put]
    exact entries_put r a
  refused s r a old e h _ he := by cases he
  taken s r a old h _ _ _ := ⟨_, rfl⟩
  delete s r id h := by
    subst h
    exact Keyed.image_erase r id

end Dictionary

/-! ## A table -/

section Table
variable (key : ρ → String) (idOf : α → String) (notFound : String → PyError) (toRow : α → ρ)
  (decode : ρ → Except PyError α) (unique : List (ρ → Option String)) (keep : ρ → ρ → ρ)

/-- `keep old row` is `row` with the columns an `UPDATE` does not set. -/
def tablePort : Port (Keyed key) α where
  save a s := executed (s.insert unique (toRow a))
  update a s :=
    match s.find (idOf a) with
    | none => .ok s
    | some old => executed (s.update unique (keep old (toRow a)))
  delete id s := ((s.find id).isSome, s.erase id)
  get id s := tableGet notFound decode s id
  list s := s.items.mapM decode
  mutated _ _ s := s

variable {key idOf notFound decode unique keep}

/-- The table holds the rows of the records, no two alike in a unique column. -/
structure HasRows (hk : ∀ a, key (toRow a) = idOf a) (unique : List (ρ → Option String))
    (s : Keyed key) (r : Keyed idOf) : Prop where
  rows : s = r.image toRow hk
  unique : s.Unique unique

variable {toRow}

theorem HasRows.find {hk : ∀ a, key (toRow a) = idOf a} {s : Keyed key} {r : Keyed idOf}
    (h : HasRows toRow hk unique s r) (id : String) : s.find id = (r.find id).map toRow := by
  rw [h.rows, Keyed.find_image]

theorem HasRows.put {hk : ∀ a, key (toRow a) = idOf a} {s : Keyed key} {r : Keyed idOf} {a : α}
    (h : HasRows toRow hk unique s r) (hc : ¬ s.Clash unique (toRow a)) :
    HasRows toRow hk unique (s.put (toRow a)) (r.put a) where
  rows := by rw [h.rows, Keyed.image_put]
  unique := h.unique.put hc

theorem HasRows.items {hk : ∀ a, key (toRow a) = idOf a} {s : Keyed key} {r : Keyed idOf}
    (h : HasRows toRow hk unique s r) : s.items = r.items.map toRow := by
  rw [h.rows, Keyed.image]

theorem tablePort_keeps (hk : ∀ a, key (toRow a) = idOf a) (hd : ∀ a, decode (toRow a) = .ok a)
    {kept alike : α → α → Prop}
    (hkeep : ∀ a b, kept a b → keep (toRow a) (toRow b) = toRow b)
    (halike : ∀ a b, alike a b → ∀ c ∈ unique, c (toRow a) = c (toRow b)) :
    (tablePort key idOf notFound toRow decode unique keep).Keeps notFound kept alike
      (HasRows toRow hk unique) := by
  have hupd : ∀ {s : Keyed key} {r : Keyed idOf} {a old : α}, HasRows toRow hk unique s r →
      r.find (idOf a) = some old → kept old a →
      (tablePort key idOf notFound toRow decode unique keep).update a s =
        executed (if s.Clash unique (toRow a) then none else some (s.put (toRow a))) := by
    intro s r a old h ho hkept
    have hrow : s.find (idOf a) = some (toRow old) := by rw [h.find, ho]; rfl
    simp only [tablePort, hrow, hkeep _ _ hkept]
    rw [Keyed.update_old (b := toRow old) (by rw [hk, hrow])]
  constructor
  · intro s r id h
    simp only [tablePort, tableGet, h.find]
    cases r.find id with
    | none => rfl
    | some a => exact hd a
  · intro s r h
    simp only [tablePort, h.rows, Keyed.image]
    exact mapM_map_ok hd r.items
  · intro s r a s' h hs
    simp only [tablePort] at hs
    cases hi : s.insert unique (toRow a) with
    | none => rw [hi] at hs; cases hs
    | some s₁ =>
      rw [hi] at hs
      cases hs
      obtain ⟨rfl, hc⟩ := Keyed.insert_some hi
      exact h.put hc
  · intro s r a old s' h ho hkept hs
    rw [show (tablePort key idOf notFound toRow decode unique keep).mutated (idOf a) a s =
      s from rfl, hupd h ho hkept, executed_ite] at hs
    split at hs
    · cases hs
    · rename_i hc
      cases hs
      exact h.put hc
  · intro s r a old e h _ _
    exact h
  · intro s r a old h ho hkept hsame
    have hno : ¬ s.Clash unique (toRow a) := by
      intro hc
      obtain ⟨row, hrow, hne, c, hcol, hsome, heq⟩ := hc
      have hold : toRow old ∈ s.items := Keyed.find_mem (k := idOf a) (by rw [h.find, ho]; rfl)
      obtain ⟨v, hv⟩ := Option.isSome_iff_exists.mp hsome
      have hkey := h.unique c hcol row hrow _ hold v (heq.trans hv)
        ((halike _ _ hsame c hcol).trans hv)
      rw [hk old, Keyed.find_key ho, ← hk a] at hkey
      exact hne hkey
    refine ⟨s.put (toRow a), ?_⟩
    rw [show (tablePort key idOf notFound toRow decode unique keep).mutated (idOf a) a s =
      s from rfl, hupd h ho hkept, executed_ite, if_neg hno]
  · intro s r id h
    refine ⟨?_, h.unique.erase id⟩
    rw [h.rows]
    exact Keyed.image_erase r id

end Table

/-! ## The four adapters -/

/-- What an `UPDATE` of the row relies on: it does not set `created_at`. -/
def Customer.Kept (old new : Customer T) : Prop := old.createdAt = new.createdAt

/-- Nothing in a `UNIQUE` column has changed. -/
def Customer.Alike (old new : Customer T) : Prop :=
  old.cpfCnpj = new.cpfCnpj ∧ old.email = new.email

def Vehicle.Kept (old new : Vehicle T) : Prop := old.createdAt = new.createdAt

def Vehicle.Alike (old new : Vehicle T) : Prop := old.plate = new.plate

/-- The backend keeps customers and vehicles as records. -/
structure Backend.KeepsRecords (b : Backend T κ ν υ)
    (Rc : κ → Keyed (Customer.customerId (T := T)) → Prop)
    (Rv : ν → Keyed (Vehicle.vehicleId (T := T)) → Prop) : Prop where
  customers : b.customers.port.Keeps customerNotFound Customer.Kept Customer.Alike Rc
  vehicles : b.vehicles.port.Keeps vehicleNotFound Vehicle.Kept Vehicle.Alike Rv

theorem memory_keeps [Casefold T] : (memoryBackend (T := T)).KeepsRecords
    (fun s r => s = entries _ r) (fun s r => s = entries _ r) where
  customers := by
    show (dictPort Customer.customerId customerNotFound).Keeps _ _ _ _
    exact dictPort_keeps _ _
  vehicles := by
    show (dictPort Vehicle.vehicleId vehicleNotFound).Keeps _ _ _ _
    exact dictPort_keeps _ _

section Sql
variable [Runtime T]

theorem sqlCustomers_port : (sqlAlchemyCustomerRepository (T := T)).port =
    tablePort Customer.customerId Customer.customerId customerNotFound customerToRow
      customerFromRow customerUnique fun old row => { row with createdAt := old.createdAt } := by
  simp only [CustomerRepository.port, sqlAlchemyCustomerRepository, tablePort, Port.mk.injEq,
    true_and, and_true]
  funext a s
  cases s.find a.customerId <;> rfl

theorem sqlVehicles_port : (sqlAlchemyVehicleRepository (T := T)).port =
    tablePort VehicleRow.vehicleId Vehicle.vehicleId vehicleNotFound vehicleToRow vehicleFromRow
      vehicleUnique fun old row => { row with createdAt := old.createdAt } := by
  simp only [VehicleRepository.port, sqlAlchemyVehicleRepository, tablePort, Port.mk.injEq,
    true_and, and_true]
  funext a s
  cases s.find a.vehicleId <;> rfl

theorem sql_keeps (hiso : IsoRoundTrip T) : (sqlBackend (T := T)).KeepsRecords
    (HasRows customerToRow (fun _ => rfl) customerUnique)
    (HasRows vehicleToRow (fun _ => rfl) vehicleUnique) where
  customers := by
    rw [show sqlBackend.customers.port = _ from sqlCustomers_port]
    refine tablePort_keeps _ (customerFromRow_customerToRow hiso) (fun a b h => ?_)
      fun a b h c hc => ?_
    · have h : Runtime.isoformat a.createdAt = Runtime.isoformat b.createdAt :=
        congrArg Runtime.isoformat h
      simp only [customerToRow, h]
    · simp only [customerUnique, List.mem_cons, List.not_mem_nil, or_false] at hc
      rcases hc with rfl | rfl
      · exact h.1
      · exact congrArg some h.2
  vehicles := by
    rw [show sqlBackend.vehicles.port = _ from sqlVehicles_port]
    refine tablePort_keeps _ (vehicleFromRow_vehicleToRow hiso) (fun a b h => ?_)
      fun a b h c hc => ?_
    · have h : Runtime.isoformat a.createdAt = Runtime.isoformat b.createdAt :=
        congrArg Runtime.isoformat h
      simp only [vehicleToRow, h]
    · simp only [vehicleUnique, List.mem_cons, List.not_mem_nil, or_false] at hc
      subst hc
      exact congrArg some h

end Sql

/-! ## What deletions and lists report -/

/-- A deletion returns whether there was a record, and the list of a customer's
vehicles has these. -/
structure Backend.Reports (b : Backend T κ ν υ)
    (Rc : κ → Keyed (Customer.customerId (T := T)) → Prop)
    (Rv : ν → Keyed (Vehicle.vehicleId (T := T)) → Prop) : Prop where
  customers : ∀ s r id, Rc s r → (b.customers.delete id s).1 = (r.find id).isSome
  vehicles : ∀ s r id, Rv s r → (b.vehicles.delete id s).1 = (r.find id).isSome
  ofCustomer : ∀ s r id, Rv s r →
    b.vehicles.list (some id) s = .ok (r.items.filter fun vehicle => vehicle.customerId = id)

theorem entries_value {idOf : α → String} (r : Keyed idOf) (id : String) :
    (entries idOf r).value id = r.find id :=
  (shown_value (fun a => a) r id).trans (by simp)

theorem entries_values {idOf : α → String} (r : Keyed idOf) :
    (entries idOf r).values = r.items :=
  (shown_values (fun a => a) r).trans (by simp)

theorem memory_reports [Casefold T] : (memoryBackend (T := T)).Reports
    (fun s r => s = entries _ r) (fun s r => s = entries _ r) where
  customers s r id h := by
    subst h
    exact congrArg Option.isSome (entries_value r id)
  vehicles s r id h := by
    subst h
    exact congrArg Option.isSome (entries_value r id)
  ofCustomer s r id h := by
    subst h
    exact congrArg (fun vs => Except.ok (List.filter (fun v : Vehicle T => v.customerId = id) vs))
      (entries_values r)

theorem sql_reports [Runtime T] (hiso : IsoRoundTrip T) : (sqlBackend (T := T)).Reports
    (HasRows customerToRow (fun _ => rfl) customerUnique)
    (HasRows vehicleToRow (fun _ => rfl) vehicleUnique) where
  customers s r id h := by
    show (s.find id).isSome = _
    rw [h.find id, Option.isSome_map]
  vehicles s r id h := by
    show (s.find id).isSome = _
    rw [h.find id, Option.isSome_map]
  ofCustomer s r id h := by
    show (s.items.filter fun row => row.customerId = id).mapM vehicleFromRow = _
    rw [h.items, List.filter_map]
    exact mapM_map_ok (vehicleFromRow_vehicleToRow hiso) _

/-! ## Admin users -/

/-- The adapter keeps users, and finds them by what `fold` makes of an email.
A save that is `free` to return puts a user under a new id. -/
structure AdminUserRepository.Keeps (users : AdminUserRepository T υ) (fold : String → String)
    (free : Keyed (AdminUser.userId (T := T)) → AdminUser T → Prop)
    (R : υ → Keyed (AdminUser.userId (T := T)) → Prop) : Prop where
  find : ∀ s us email, R s us →
    users.findByEmail email s = .ok (us.items.find? fun u => fold u.email = fold email)
  save : ∀ s us u s', R s us → free us u → users.save u s = .ok s' →
    R s' (us.put u) ∧ us.find u.userId = none

/-- The dictionary overwrites a user whose id comes again. -/
theorem memory_users [Casefold T] : (memoryBackend (T := T)).users.Keeps (casefold T)
    (fun us u => us.find u.userId = none) fun s us => s = entries _ us where
  find s us email h := by
    subst h
    show Except.ok ((entries _ us).values.find? fun item =>
      casefold T item.email = casefold T email) = _
    rw [entries_values]
  save s us u s' h hfree hs := by
    subst h
    cases hs
    exact ⟨entries_put us u, hfree⟩

/-- The table refuses it. -/
theorem sql_users [Runtime T] (hiso : IsoRoundTrip T) : (sqlBackend (T := T)).users.Keeps
    (fun email => email) (fun _ _ => True) (HasRows userToRow (fun _ => rfl) userUnique) where
  find s us email h := by
    have hrow : s.items.find? (fun row => row.email = email) =
        (us.items.find? fun u => u.email = email).map userToRow := by
      rw [h.items, List.find?_map]
      rfl
    show tableFirst userFromRow s (fun row => row.email = email) = _
    rw [tableFirst, hrow]
    cases us.items.find? fun u => u.email = email with
    | none => rfl
    | some u => simp only [Option.map_some, userFromRow_userToRow hiso]; rfl
  save s us u s' h _ hs := by
    have hs : executed (s.insert userUnique (userToRow u)) = .ok s' := hs
    cases hi : s.insert userUnique (userToRow u) with
    | none => rw [hi] at hs; cases hs
    | some t =>
      rw [hi] at hs
      cases hs
      obtain ⟨rfl, hc⟩ := Keyed.insert_some hi
      have hfree : s.find u.userId = none := Keyed.insert_free hi
      rw [h.find, Option.map_eq_none_iff] at hfree
      exact ⟨h.put hc, hfree⟩

end ServiceOrderOs.App
