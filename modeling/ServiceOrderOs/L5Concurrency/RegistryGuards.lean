import ServiceOrderOs.L5Concurrency.RegistrySteps

/-!
# What each registry call looks at before it writes

A use case needs some records, checks that no other row has its unique values,
and then makes one write. When another call changes the tables in between, each
of its lookups may see them before or after the change.

* `prog_guards`: what a use case ends with, wherever its lookups fall.
-/
namespace ServiceOrderOs.Concurrency
open Core Py Domain App Runs

variable {T Tok α ρ : Type}

/-! ## Outcomes -/

/-- What a use case is expected to end with. -/
inductive Outcome where
  | success
  | alreadyRegistered
  | notFound
  | deleted (b : Bool)
  deriving DecidableEq, Repr

def alreadyRegisteredMessages : List String :=
  ["CPF/CNPJ already registered", "Email already registered", "Vehicle plate already registered"]

/-- None for any other exception, the database's among them. -/
def outcome : Answer T Tok → Option Outcome
  | .ok (.deleted b) => some (.deleted b)
  | .ok _ => some .success
  | .error (.py (.keyError _)) => some .notFound
  | .error (.py (.valueError message)) =>
    if message ∈ alreadyRegisteredMessages then some .alreadyRegistered else none
  | .error _ => none

/-! ## What each use case looks at -/

def HasCustomer (customerId : String) (s : SqlStores) : Prop :=
  (s.customers.find customerId).isSome

def HasVehicle (vehicleId : String) (s : SqlStores) : Prop :=
  (s.vehicles.find vehicleId).isSome

/-- A row other than one's own has the value in a column. -/
def Taken {key : ρ → String} (column : ρ → Option String) (value own : Option String)
    (s : Keyed key) : Prop :=
  ∃ row ∈ s.items, some (key row) ≠ own ∧ value.isSome ∧ column row = value

def CpfCnpjTaken (cpfCnpj own : Option String) (s : SqlStores) : Prop :=
  Taken (fun row => row.cpfCnpj) (truthyText cpfCnpj) own s.customers

def EmailTaken (email : String) (own : Option String) (s : SqlStores) : Prop :=
  Taken (fun row => some row.email) (some email) own s.customers

def PlateTaken (plate : String) (own : Option String) (s : SqlStores) : Prop :=
  Taken (fun row => some row.plate) (some plate) own s.vehicles

def WriteCall.guard : WriteCall T → Race.Guard SqlStores (RegistryWrite T)
  | .createCustomer command g =>
    ⟨∅, {CpfCnpjTaken command.cpfCnpj none, EmailTaken command.email none},
      fun w => w = .saveCustomer (CreateCustomerUseCase.customer command g)⟩
  | .updateCustomer command now =>
    ⟨{HasCustomer command.customerId},
      {CpfCnpjTaken command.cpfCnpj (some command.customerId),
        EmailTaken command.email (some command.customerId)},
      fun w => ∃ old, old.customerId = command.customerId ∧
        w = .updateCustomer (UpdateCustomerUseCase.assign command now old)⟩
  | .deleteCustomer customerId => ⟨∅, ∅, fun w => w = .deleteCustomer customerId⟩
  | .createVehicle command g =>
    ⟨{HasCustomer command.customerId}, {PlateTaken command.plate none},
      fun w => w = .saveVehicle (CreateVehicleUseCase.vehicle command g)⟩
  | .updateVehicle command now =>
    ⟨{HasVehicle command.vehicleId, HasCustomer command.customerId},
      {PlateTaken command.plate (some command.vehicleId)},
      fun w => ∃ old, old.vehicleId = command.vehicleId ∧
        w = .updateVehicle (UpdateVehicleUseCase.assign command now old)⟩
  | .deleteVehicle vehicleId => ⟨∅, ∅, fun w => w = .deleteVehicle vehicleId⟩

def Missing (a : Answer T Tok) : Prop := outcome a = some .notFound

def Refused (a : Answer T Tok) : Prop := outcome a = some .alreadyRegistered

theorem refused_of_message {message : String} (h : message ∈ alreadyRegisteredMessages) :
    Refused (.error (.py (.valueError message)) : Answer T Tok) := if_pos h

/-! ## A lookup that sees one of several states -/

section Lookups
variable {key : ρ → String} {idOf : α → String} {toRow : α → ρ} {decode : ρ → Except PyError α}
  {column : ρ → Option String} {s : Keyed key} {other : Option α} {v : String}

theorem first_of_rows (hd : ∀ a, decode (toRow a) = .ok a)
    (hs : ∀ row ∈ s.items, ∃ a, toRow a = row) (p : ρ → Bool) :
    ∃ other, tableFirst decode s p = .ok other ∧ other.map toRow = s.items.find? p := by
  unfold tableFirst
  cases hf : s.items.find? p with
  | none => exact ⟨none, rfl, rfl⟩
  | some row =>
    obtain ⟨a, rfl⟩ := hs row (List.mem_of_find?_eq_some hf)
    refine ⟨some a, ?_, rfl⟩
    simp only [hd]
    rfl

theorem get_of_rows (notFound : String → PyError) (hd : ∀ a, decode (toRow a) = .ok a)
    (hs : ∀ row ∈ s.items, ∃ a, toRow a = row) (id : String) :
    (s.find id = none ∧ tableGet notFound decode s id = .error (notFound id)) ∨
      ∃ a, s.find id = some (toRow a) ∧ tableGet notFound decode s id = .ok a := by
  unfold tableGet
  cases hf : s.find id with
  | none => exact .inl ⟨rfl, rfl⟩
  | some row =>
    obtain ⟨a, rfl⟩ := hs row (Keyed.find_mem hf)
    exact .inr ⟨a, rfl, hd a⟩

/-- A creation is refused when any row has the value. -/
theorem isSome_iff_taken
    (h : other.map toRow = s.items.find? fun row => column row = some v) :
    other.isSome ↔ Taken column (some v) none s := by
  have hsome : other.isSome = (s.items.find? fun row => column row = some v).isSome := by
    rw [← h, Option.isSome_map]
  rw [hsome, List.find?_isSome]
  simp [Taken]

/-- An update is refused when another row has it; the column is unique, so the
first row found is that one. -/
theorem any_iff_taken (hk : ∀ a, key (toRow a) = idOf a)
    (h : other.map toRow = s.items.find? fun row => column row = some v)
    (hu : ∀ a ∈ s.items, ∀ b ∈ s.items, column a = some v → column b = some v → key a = key b)
    (own : String) :
    (other.any fun a => idOf a ≠ own) = true ↔ Taken column (some v) (some own) s := by
  cases other with
  | none =>
    have hnone := List.find?_eq_none.mp h.symm
    simp only [Option.any_none, Bool.false_eq_true, false_iff]
    intro ht
    obtain ⟨row, hm, -, -, hc⟩ := ht
    exact hnone row hm (by simpa using hc)
  | some a =>
    have hf : s.items.find? (fun row => column row = some v) = some (toRow a) := h.symm
    have hm := List.mem_of_find?_eq_some hf
    have hc : column (toRow a) = some v := by simpa using List.find?_some hf
    simp only [Option.any_some, decide_eq_true_eq]
    constructor
    · intro hne
      exact ⟨toRow a, hm, by rw [hk]; simpa using hne, rfl, hc⟩
    · intro ht he
      obtain ⟨row, hm', hne, -, hc'⟩ := ht
      rw [hu row hm' _ hm hc' hc, hk, he] at hne
      exact hne rfl

/-- A unique column has a value in one row only. -/
theorem unique_column {key : ρ → String} {cols : List (ρ → Option String)} {s : Keyed key}
    (h : s.Unique cols) {column : ρ → Option String} (hc : column ∈ cols) {v : String} :
    ∀ a ∈ s.items, ∀ b ∈ s.items, column a = some v → column b = some v → key a = key b :=
  fun a ha b hb => h column hc a ha b hb v

/-- One's own row has the value already, so no other row has. -/
theorem not_taken_of_own {key : ρ → String} {cols : List (ρ → Option String)} {s : Keyed key}
    (h : s.Unique cols) {column : ρ → Option String} (hc : column ∈ cols) {id : String}
    {row : ρ} (hrow : s.find id = some row) :
    ¬ Taken column (column row) (some id) s := by
  intro ht
  obtain ⟨other, hm, hne, hsome, he⟩ := ht
  obtain ⟨v, hv⟩ := Option.isSome_iff_exists.mp hsome
  refine hne (congrArg some ?_)
  rw [unique_column h hc other hm row (Keyed.find_mem hrow) (he.trans hv) hv]
  exact Keyed.find_key hrow

end Lookups

section Reads
variable {U : Set SqlStores} {q : Steps T Tok}

theorem reads_invoke {f : SqlStores → Except PyError α} {k : α → Steps T Tok}
    (h : (invoke f k).Reads U q) (hq : q.Settled) :
    ∃ u ∈ U, (∃ e, f u = .error e ∧ q = .done (.error (.py e))) ∨
      ∃ a, f u = .ok a ∧ (k a).Reads U q := by
  obtain ⟨u, hu, h⟩ := h.of_read hq
  refine ⟨u, hu, ?_⟩
  cases hf : f u with
  | error e =>
    rw [hf] at h
    exact .inl ⟨e, rfl, h.of_settled trivial⟩
  | ok a =>
    rw [hf] at h
    exact .inr ⟨a, rfl, h⟩

theorem reads_raisesIf {c : Bool} {message : String} {k : Steps T Tok}
    (h : (raisesIf c message k).Reads U q) :
    (c = true ∧ q = .done (.error (.py (.valueError message)))) ∨ (c = false ∧ k.Reads U q) := by
  cases c with
  | true => exact .inl ⟨rfl, h.of_settled trivial⟩
  | false => exact .inr ⟨rfl, h⟩

/-- The row under an id, or its absence, in one of the states. -/
theorem reads_get {key : ρ → String} {toRow : α → ρ} {decode : ρ → Except PyError α}
    {table : SqlStores → Keyed key} {notFound : String → PyError} {id : String}
    {k : α → Steps T Tok} (hd : ∀ a, decode (toRow a) = .ok a)
    (hrow : ∀ u ∈ U, ∀ row ∈ (table u).items, ∃ a, toRow a = row)
    (h : (invoke (fun s => tableGet notFound decode (table s) id) k).Reads U q)
    (hq : q.Settled) :
    ∃ u ∈ U, ((table u).find id = none ∧ q = .done (.error (.py (notFound id)))) ∨
      ∃ a, (table u).find id = some (toRow a) ∧ (k a).Reads U q := by
  obtain ⟨u, hu, h⟩ := reads_invoke h hq
  refine ⟨u, hu, ?_⟩
  rcases get_of_rows notFound hd (hrow u hu) id with ⟨hf, he⟩ | ⟨a, hf, he⟩
  · rw [he] at h
    rcases h with ⟨e, h, hq⟩ | ⟨a, h, -⟩
    · cases h
      exact .inl ⟨hf, hq⟩
    · cases h
  · rw [he] at h
    rcases h with ⟨e, h, -⟩ | ⟨a', h, hk⟩
    · cases h
    · cases h
      exact .inr ⟨a, hf, hk⟩

/-- The first row of a selection, in one of the states. -/
theorem reads_first {key : ρ → String} {toRow : α → ρ} {decode : ρ → Except PyError α}
    {table : SqlStores → Keyed key} {p : ρ → Bool} {k : Option α → Steps T Tok}
    (hd : ∀ a, decode (toRow a) = .ok a)
    (hrow : ∀ u ∈ U, ∀ row ∈ (table u).items, ∃ a, toRow a = row)
    (h : (invoke (fun s => tableFirst decode (table s) p) k).Reads U q) (hq : q.Settled) :
    ∃ u ∈ U, ∃ other, other.map toRow = (table u).items.find? p ∧ (k other).Reads U q := by
  obtain ⟨u, hu, h⟩ := reads_invoke h hq
  obtain ⟨other, ho, hf⟩ := first_of_rows hd (hrow u hu) p
  rw [ho] at h
  rcases h with ⟨e, h, -⟩ | ⟨other', h, hk⟩
  · cases h
  · cases h
    exact ⟨u, hu, other, hf, hk⟩

/-- A check behind a condition raises where `P` holds; skipped, it could not. -/
theorem reads_check {wanted : Option String} {message : String} {P : SqlStores → Prop}
    {find : String → SqlStores → Except PyError (Option α)} {test : Option α → Bool}
    {k : Steps T Tok} (hnone : test none = false)
    (hfound : ∀ v k, wanted = some v → (invoke (find v) k).Reads U q →
      ∃ u ∈ U, ∃ other, (test other = true ↔ P u) ∧ (k other).Reads U q)
    (hskip : wanted = none → ∃ u ∈ U, ¬ P u)
    (h : (invokeWhen wanted find fun other => raisesIf (test other) message k).Reads U q) :
    (∃ u ∈ U, P u ∧ q = .done (.error (.py (.valueError message)))) ∨
      ((∃ u ∈ U, ¬ P u) ∧ k.Reads U q) := by
  cases hw : wanted with
  | none =>
    rw [hw] at h
    rcases reads_raisesIf h with ⟨ht, -⟩ | ⟨-, hk⟩
    · rw [hnone] at ht; cases ht
    · exact .inr ⟨hskip hw, hk⟩
  | some v =>
    rw [hw] at h
    obtain ⟨u, hu, other, hP, h⟩ := hfound v _ hw h
    rcases reads_raisesIf h with ⟨ht, hq⟩ | ⟨ht, hk⟩
    · exact .inl ⟨u, hu, hP.mp ht, hq⟩
    · exact .inr ⟨⟨u, hu, fun hp => by rw [hP.mpr hp] at ht; cases ht⟩, hk⟩

end Reads

/-! ## Each use case keeps to its guard -/

section Guards
variable [Runtime T] (hiso : IsoRoundTrip T) {U : Set SqlStores} (hU : U ⊆ {s | Sound T s})
include hiso hU

theorem reads_customersGet {q : Steps T Tok} (hq : q.Settled) {id : String}
    {k : Customer T → Steps T Tok} (h : (invoke (customersGet id) k).Reads U q) :
    ∃ u ∈ U, (u.customers.find id = none ∧ q = .done (.error (.py (customerNotFound id)))) ∨
      ∃ c : Customer T, u.customers.find id = some (customerToRow c) ∧ (k c).Reads U q :=
  reads_get (customerFromRow_customerToRow hiso) (fun _ hu => (hU hu).customers.row) h hq

theorem reads_vehiclesGet {q : Steps T Tok} (hq : q.Settled) {id : String}
    {k : Vehicle T → Steps T Tok} (h : (invoke (vehiclesGet id) k).Reads U q) :
    ∃ u ∈ U, (u.vehicles.find id = none ∧ q = .done (.error (.py (vehicleNotFound id)))) ∨
      ∃ v : Vehicle T, u.vehicles.find id = some (vehicleToRow v) ∧ (k v).Reads U q :=
  reads_get (vehicleFromRow_vehicleToRow hiso) (fun _ hu => (hU hu).vehicles.row) h hq

theorem reads_findByCpfCnpj {q : Steps T Tok} (hq : q.Settled) {v : String}
    {k : Option (Customer T) → Steps T Tok} (h : (invoke (findByCpfCnpj v) k).Reads U q) :
    ∃ u ∈ U, ∃ other : Option (Customer T), other.map customerToRow =
      (u.customers.items.find? fun row => row.cpfCnpj = some v) ∧ (k other).Reads U q :=
  reads_first (customerFromRow_customerToRow hiso) (fun _ hu => (hU hu).customers.row) h hq

theorem reads_findByEmail {q : Steps T Tok} (hq : q.Settled) {v : String}
    {k : Option (Customer T) → Steps T Tok} (h : (invoke (findByEmail v) k).Reads U q) :
    ∃ u ∈ U, ∃ other : Option (Customer T), other.map customerToRow =
      (u.customers.items.find? fun row => some row.email = some v) ∧ (k other).Reads U q := by
  simp only [Option.some.injEq]
  exact reads_first (customerFromRow_customerToRow hiso) (fun _ hu => (hU hu).customers.row) h hq

theorem reads_findByPlate {q : Steps T Tok} (hq : q.Settled) {v : String}
    {k : Option (Vehicle T) → Steps T Tok} (h : (invoke (findByPlate v) k).Reads U q) :
    ∃ u ∈ U, ∃ other : Option (Vehicle T), other.map vehicleToRow =
      (u.vehicles.items.find? fun row => some row.plate = some v) ∧ (k other).Reads U q := by
  simp only [Option.some.injEq]
  exact reads_first (vehicleFromRow_vehicleToRow hiso) (fun _ hu => (hU hu).vehicles.row) h hq

theorem createCustomer_guards (hne : U.Nonempty) (command : CreateCustomerCommand)
    (g : Generated T) {q : Steps T Tok} (hq : q.Settled)
    (h : (WriteCall.createCustomer command g).prog.Reads U q) :
    (WriteCall.createCustomer command g).guard.Ends Missing Refused U q := by
  have hcpf := reads_check (P := CpfCnpjTaken command.cpfCnpj none) rfl ?_ ?_ h
  · rcases hcpf with ⟨u, hu, hP, rfl⟩ | ⟨hfree, h⟩
    · exact .refused (refused_of_message (by simp [alreadyRegisteredMessages]))
        (fun n hn => hn.elim) (.inl rfl) hu hP
    obtain ⟨u, hu, other, hf, h⟩ := reads_findByEmail hiso hU hq h
    have hP : other.isSome = true ↔ EmailTaken command.email none u := isSome_iff_taken hf
    rcases reads_raisesIf h with ⟨ht, rfl⟩ | ⟨ht, h⟩
    · exact .refused (refused_of_message (by simp [alreadyRegisteredMessages]))
        (fun n hn => hn.elim) (.inr rfl) hu (hP.mp ht)
    cases h.of_settled trivial
    refine .writes rfl (fun n hn => hn.elim) fun c hc => ?_
    rcases hc with rfl | rfl
    · exact hfree
    · exact ⟨u, hu, fun hp => by rw [hP.mpr hp] at ht; cases ht⟩
  · intro v k hw h
    obtain ⟨u, hu, other, hf, h⟩ := reads_findByCpfCnpj hiso hU hq h
    refine ⟨u, hu, other, ?_, h⟩
    rw [CpfCnpjTaken, hw]
    exact isSome_iff_taken hf
  · intro hw
    obtain ⟨u, hu⟩ := hne
    exact ⟨u, hu, by simp [CpfCnpjTaken, Taken, hw]⟩

theorem updateCustomer_guards (command : UpdateCustomerCommand) (now : T) {q : Steps T Tok}
    (hq : q.Settled) (h : (WriteCall.updateCustomer command now).prog.Reads U q) :
    (WriteCall.updateCustomer command now).guard.Ends Missing Refused U q := by
  obtain ⟨u₁, hu₁, ⟨hf, rfl⟩ | ⟨c, hf, h⟩⟩ := reads_customersGet hiso hU hq h
  · exact .missing rfl rfl hu₁ (by simp [HasCustomer, hf])
  have hneeds : ∀ n ∈ ({HasCustomer command.customerId} : Set _), ∃ u ∈ U, n u := by
    intro n hn
    obtain rfl := hn
    exact ⟨u₁, hu₁, by simp [HasCustomer, hf]⟩
  have hid : (customerToRow c).customerId = command.customerId := Keyed.find_key hf
  have huniq : ∀ {u}, u ∈ U → u.customers.Unique customerUnique := fun hu =>
    (hU hu).customers.unique
  have hcpf := reads_check
    (P := CpfCnpjTaken command.cpfCnpj (some command.customerId)) rfl ?_ ?_ h
  · rcases hcpf with ⟨u, hu, hP, rfl⟩ | ⟨hfree, h⟩
    · exact .refused (refused_of_message (by simp [alreadyRegisteredMessages])) hneeds
        (.inl rfl) hu hP
    have hemail := reads_check
      (P := EmailTaken command.email (some command.customerId)) rfl ?_ ?_ h
    · rcases hemail with ⟨u, hu, hP, rfl⟩ | ⟨hfree', h⟩
      · exact .refused (refused_of_message (by simp [alreadyRegisteredMessages])) hneeds
          (.inr rfl) hu hP
      cases h.of_settled trivial
      refine .writes ⟨c, hid, rfl⟩ hneeds fun c hc => ?_
      rcases hc with rfl | rfl
      · exact hfree
      · exact hfree'
    · intro v k hw hr
      obtain ⟨u, hu, other, hm, h⟩ := reads_findByEmail hiso hU hq hr
      obtain ⟨-, rfl⟩ : command.email ≠ c.email ∧ command.email = v := by
        simpa [Option.filter] using hw
      refine ⟨u, hu, other, ?_, h⟩
      exact any_iff_taken (fun _ => rfl) hm (unique_column (huniq hu) (by simp [customerUnique])) _
    · intro hw
      have he : command.email = c.email := by simpa [Option.filter] using hw
      refine ⟨u₁, hu₁, ?_⟩
      rw [EmailTaken, he]
      exact not_taken_of_own (huniq hu₁) (show (fun row => some row.email) ∈ customerUnique by
        simp [customerUnique]) hf
  · intro v k hw h
    obtain ⟨u, hu, other, hm, h⟩ := reads_findByCpfCnpj hiso hU hq h
    obtain ⟨hv, -⟩ := Option.filter_eq_some_iff.mp hw
    refine ⟨u, hu, other, ?_, h⟩
    rw [CpfCnpjTaken, hv]
    exact any_iff_taken (fun _ => rfl) hm (unique_column (huniq hu) (by simp [customerUnique])) _
  · intro hw
    refine ⟨u₁, hu₁, ?_⟩
    cases hv : truthyText command.cpfCnpj with
    | none => simp [CpfCnpjTaken, Taken, hv]
    | some v =>
      have he : some v = c.cpfCnpj := by simpa [hv, Option.filter] using hw
      rw [CpfCnpjTaken, hv, he]
      exact not_taken_of_own (huniq hu₁) (show (fun row => row.cpfCnpj) ∈ customerUnique by
        simp [customerUnique]) hf

theorem createVehicle_guards (command : CreateVehicleCommand) (g : Generated T)
    {q : Steps T Tok} (hq : q.Settled)
    (h : (WriteCall.createVehicle command g).prog.Reads U q) :
    (WriteCall.createVehicle command g).guard.Ends Missing Refused U q := by
  obtain ⟨u₁, hu₁, ⟨hf, rfl⟩ | ⟨c, hf, h⟩⟩ := reads_customersGet hiso hU hq h
  · exact .missing rfl rfl hu₁ (by simp [HasCustomer, hf])
  have hneeds : ∀ n ∈ ({HasCustomer command.customerId} : Set _), ∃ u ∈ U, n u := by
    intro n hn
    obtain rfl := hn
    exact ⟨u₁, hu₁, by simp [HasCustomer, hf]⟩
  obtain ⟨u, hu, other, hm, h⟩ := reads_findByPlate hiso hU hq h
  have hP : other.isSome = true ↔ PlateTaken command.plate none u := isSome_iff_taken hm
  rcases reads_raisesIf h with ⟨ht, rfl⟩ | ⟨ht, h⟩
  · exact .refused (refused_of_message (by simp [alreadyRegisteredMessages])) hneeds rfl hu
      (hP.mp ht)
  · cases h.of_settled trivial
    refine .writes rfl hneeds fun c hc => ?_
    obtain rfl := hc
    exact ⟨u, hu, fun hp => by rw [hP.mpr hp] at ht; cases ht⟩

theorem updateVehicle_guards (command : UpdateVehicleCommand) (now : T) {q : Steps T Tok}
    (hq : q.Settled) (h : (WriteCall.updateVehicle command now).prog.Reads U q) :
    (WriteCall.updateVehicle command now).guard.Ends Missing Refused U q := by
  obtain ⟨u₁, hu₁, ⟨hf, rfl⟩ | ⟨v, hf, h⟩⟩ := reads_vehiclesGet hiso hU hq h
  · exact .missing rfl (.inl rfl) hu₁ (by simp [HasVehicle, hf])
  obtain ⟨u₂, hu₂, ⟨hf', rfl⟩ | ⟨c, hf', h⟩⟩ := reads_customersGet hiso hU hq h
  · exact .missing rfl (.inr rfl) hu₂ (by simp [HasCustomer, hf'])
  have hid : (vehicleToRow v).vehicleId = command.vehicleId := Keyed.find_key hf
  have hneeds : ∀ n ∈ ({HasVehicle command.vehicleId, HasCustomer command.customerId} : Set _),
      ∃ u ∈ U, n u := by
    intro n hn
    rcases hn with rfl | rfl
    · exact ⟨u₁, hu₁, by simp [HasVehicle, hf]⟩
    · exact ⟨u₂, hu₂, by simp [HasCustomer, hf']⟩
  have huniq : ∀ {u}, u ∈ U → u.vehicles.Unique vehicleUnique := fun hu =>
    (hU hu).vehicles.unique
  have hplate := reads_check (P := PlateTaken command.plate (some command.vehicleId)) rfl ?_ ?_ h
  · rcases hplate with ⟨u, hu, hP, rfl⟩ | ⟨hfree, h⟩
    · exact .refused (refused_of_message (by simp [alreadyRegisteredMessages])) hneeds rfl hu hP
    · cases h.of_settled trivial
      refine .writes ⟨v, hid, rfl⟩ hneeds fun c hc => ?_
      obtain rfl := hc
      exact hfree
  · intro plate k hw hr
    obtain ⟨u, hu, other, hm, h⟩ := reads_findByPlate hiso hU hq hr
    obtain ⟨-, rfl⟩ : command.plate ≠ v.plate ∧ command.plate = plate := by
      simpa [Option.filter] using hw
    refine ⟨u, hu, other, ?_, h⟩
    exact any_iff_taken (fun _ => rfl) hm (unique_column (huniq hu) (by simp [vehicleUnique])) _
  · intro hw
    have he : command.plate = v.plate := by simpa [Option.filter] using hw
    refine ⟨u₁, hu₁, ?_⟩
    rw [PlateTaken, he]
    exact not_taken_of_own (huniq hu₁) (show (fun row => some row.plate) ∈ vehicleUnique by
      simp [vehicleUnique]) hf

variable (Tok) in
omit hU in
/-- **Each use case keeps to its guard**, wherever its lookups fall. -/
theorem prog_guards (l : WriteCall T) :
    l.guard.Guards Missing Refused {s | Sound T s} (l.prog : Steps T Tok) := by
  intro U hU hne q h hq
  cases l with
  | createCustomer command g => exact createCustomer_guards hiso hU hne command g hq h
  | updateCustomer command now => exact updateCustomer_guards hiso hU command now hq h
  | deleteCustomer id =>
    cases h.of_settled trivial
    exact .writes rfl (fun n hn => hn.elim) fun c hc => hc.elim
  | createVehicle command g => exact createVehicle_guards hiso hU command g hq h
  | updateVehicle command now => exact updateVehicle_guards hiso hU command now hq h
  | deleteVehicle id =>
    cases h.of_settled trivial
    exact .writes rfl (fun n hn => hn.elim) fun c hc => hc.elim

end Guards
end ServiceOrderOs.Concurrency
