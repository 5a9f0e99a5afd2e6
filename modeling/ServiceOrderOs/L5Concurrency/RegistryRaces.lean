import ServiceOrderOs.L5Concurrency.RegistryGuards

/-!
# Are two registry calls at a time as one after the other?

Two use cases that create, update or delete customers and vehicles take their
steps in any order, on tables that any writes have led to. A lookup may be out
of date when the write comes: the table refuses a second row with a unique
value, and an update of a row that is gone touches nothing and returns.

* `safe_iff`: the writes that do what the use case reports.
* `exec_effect`: a write only adds rows, keeps the ids, or is a deletion.
* `order_of_ends`: what the later use case ends with, it ends with alone before
  or after the other.
* `serialisable_iff`: the two are as one after the other exactly when both
  writes are safe.
-/
namespace ServiceOrderOs.Concurrency
open Core Py Domain App Runs

variable {T Tok ρ : Type} [Runtime T]

/-- A row to insert is new, a row to update is there, and no other row has one
of its unique values. -/
def Safe (s : SqlStores) : RegistryWrite T → Prop
  | .saveCustomer c =>
    s.customers.find c.customerId = none ∧
      ¬ s.customers.Clash customerUnique (customerToRow c)
  | .updateCustomer c =>
    s.customers.find c.customerId ≠ none ∧
      ¬ s.customers.Clash customerUnique (customerToRow c)
  | .deleteCustomer _ => True
  | .saveVehicle v =>
    s.vehicles.find v.vehicleId = none ∧ ¬ s.vehicles.Clash vehicleUnique (vehicleToRow v)
  | .updateVehicle v =>
    s.vehicles.find v.vehicleId ≠ none ∧ ¬ s.vehicles.Clash vehicleUnique (vehicleToRow v)
  | .deleteVehicle _ => True
  | .saveUser u => s.users.find u.userId = none ∧ ¬ s.users.Clash userUnique (userToRow u)

/-- An update that returns leaves its row with what it was to write. -/
def Landed (Tok : Type) (s : SqlStores) : RegistryWrite T → Prop
  | .updateCustomer c => ∀ reply s',
    (RegistryWrite.updateCustomer c).exec s = ((.ok reply, s') : Answer T Tok × SqlStores) →
      ∃ t, s'.customers.find c.customerId = some { customerToRow c with createdAt := t }
  | .updateVehicle v => ∀ reply s',
    (RegistryWrite.updateVehicle v).exec s = ((.ok reply, s') : Answer T Tok × SqlStores) →
      ∃ t, s'.vehicles.find v.vehicleId = some { vehicleToRow v with createdAt := t }
  | _ => True

/-- The outcome of a use case that has ended. -/
def outcomeOf : Steps T Tok → Option Outcome
  | .done a => outcome a
  | _ => none

/-- The same outcome and the same tables. -/
def SameEnd (x y : Answer T Tok × SqlStores) : Prop := outcome x.1 = outcome y.1 ∧ x.2 = y.2

def start (s : SqlStores) (l : Bool → WriteCall T) :
    Race.Pair SqlStores (RegistryWrite T) (Answer T Tok) :=
  ⟨s, fun b => (l b).prog⟩

/-- The two end as when `b` is executed and then the other. -/
structure InOrder (hasher : PasswordHasher) (s : SqlStores) (l : Bool → WriteCall T)
    (c : Race.Pair SqlStores (RegistryWrite T) (Answer T Tok)) (b : Bool) : Prop where
  first : outcomeOf (c.prog b) = outcome ((l b).alone hasher s : Answer T Tok × _).1
  second : outcomeOf (c.prog (!b)) = outcome ((l (!b)).alone hasher
    ((l b).alone hasher s : Answer T Tok × _).2 : Answer T Tok × _).1
  tables : c.shared = ((l (!b)).alone hasher
    ((l b).alone hasher s : Answer T Tok × _).2 : Answer T Tok × _).2

/-- As one after the other, each with an expected outcome, and no update lost. -/
structure Serialisable (hasher : PasswordHasher) (s : SqlStores) (l : Bool → WriteCall T)
    (sched : List Bool) (c : Race.Pair SqlStores (RegistryWrite T) (Answer T Tok)) : Prop where
  order : ∃ b, InOrder hasher s l c b
  expected : ∀ b, (outcomeOf (c.prog b)).isSome
  landed : (Race.race RegistryWrite.exec).Along (Race.AtWrite (Landed Tok))
    (start s l : Race.Pair _ _ (Answer T Tok)) sched

/-! ## One write -/

omit [Runtime T] in
/-- An insertion has an expected outcome when the database takes it. -/
theorem outcome_insert {found : Option ρ} {C : Prop} [Decidable C] (reply : RegistryReply T Tok)
    (s s' : SqlStores) :
    (outcome (if found.isSome ∨ C then ((.error .integrityError, s) : Answer T Tok × SqlStores)
      else (.ok reply, s')).1).isSome ↔ found = none ∧ ¬ C := by
  have hreply : (outcome (.ok reply : Answer T Tok)).isSome := by cases reply <;> rfl
  have herror : outcome (.error .integrityError : Answer T Tok) = none := rfl
  cases found with
  | none => by_cases hC : C <;> simp [hC, hreply, herror]
  | some row => simp [herror]

theorem safe_iff (s : SqlStores) (w : RegistryWrite T) :
    Safe s w ↔ (outcome (w.exec s : Answer T Tok × _).1).isSome ∧ Landed Tok s w := by
  cases w with
  | saveCustomer c =>
    rw [exec_saveCustomer, outcome_insert]
    exact (and_iff_left trivial).symm
  | updateCustomer c =>
    simp only [Safe, Landed]
    cases hf : s.customers.find c.customerId with
    | none =>
      refine iff_of_false (fun h => h.1 rfl) fun h => ?_
      obtain ⟨t, ht⟩ := h.2 _ _ (exec_updateCustomer_none hf)
      rw [hf] at ht; cases ht
    | some old =>
      rw [exec_updateCustomer hf]
      split
      · rename_i h
        exact iff_of_false (fun hs => hs.2 h) fun hs => by cases hs.1
      · rename_i h
        refine iff_of_true ⟨by simp, h⟩ ⟨rfl, fun reply s' he => ?_⟩
        cases he
        exact ⟨old.createdAt, Keyed.find_put_self ..⟩
  | deleteCustomer id => exact iff_of_true trivial ⟨rfl, trivial⟩
  | saveVehicle v =>
    rw [exec_saveVehicle, outcome_insert]
    exact (and_iff_left trivial).symm
  | updateVehicle v =>
    simp only [Safe, Landed]
    cases hf : s.vehicles.find v.vehicleId with
    | none =>
      refine iff_of_false (fun h => h.1 rfl) fun h => ?_
      obtain ⟨t, ht⟩ := h.2 _ _ (exec_updateVehicle_none hf)
      rw [hf] at ht; cases ht
    | some old =>
      rw [exec_updateVehicle hf]
      split
      · rename_i h
        exact iff_of_false (fun hs => hs.2 h) fun hs => by cases hs.1
      · rename_i h
        refine iff_of_true ⟨by simp, h⟩ ⟨rfl, fun reply s' he => ?_⟩
        cases he
        exact ⟨old.createdAt, Keyed.find_put_self ..⟩
  | deleteVehicle id => exact iff_of_true trivial ⟨rfl, trivial⟩
  | saveUser u =>
    rw [exec_saveUser, outcome_insert]
    exact (and_iff_left trivial).symm

/-! ## What a write changes for the lookups of another call -/

/-- Every row of `s` is one of `t`. -/
structure Within (s t : SqlStores) : Prop where
  customers : ∀ row ∈ s.customers.items, row ∈ t.customers.items
  vehicles : ∀ row ∈ s.vehicles.items, row ∈ t.vehicles.items

structure SameIds (s t : SqlStores) : Prop where
  customers : ∀ id, HasCustomer id s ↔ HasCustomer id t
  vehicles : ∀ id, HasVehicle id s ↔ HasVehicle id t

theorem Within.refl (s : SqlStores) : Within s s := ⟨fun _ h => h, fun _ h => h⟩

theorem mem_put_of_new {key : ρ → String} {s : Keyed key} {a : ρ}
    (h : ¬ (s.find (key a)).isSome) : ∀ row ∈ s.items, row ∈ (s.put a).items := by
  intro row hm
  refine Keyed.mem_put.mpr (.inr ⟨hm, ?_⟩)
  exact Keyed.find_none.mp (by simpa using h) row hm

theorem isSome_put_of_old {key : ρ → String} {s : Keyed key} {a old : ρ}
    (h : s.find (key a) = some old) (id : String) :
    (s.find id).isSome ↔ ((s.put a).find id).isSome := by
  rw [Keyed.find_put]
  by_cases hk : id = key a
  · rw [if_pos hk, hk, h]; simp
  · rw [if_neg hk]

variable (Tok) in
/-- A write takes no row away, or leaves the ids as they are, or is a deletion. -/
theorem exec_effect (s : SqlStores) (w : RegistryWrite T) {t : SqlStores}
    (ht : t = (w.exec s : Answer T Tok × _).2) :
    Within s t ∨ SameIds s t ∨
      (Within t s ∧ ((∃ id, w = .deleteCustomer id) ∨ ∃ id, w = .deleteVehicle id)) := by
  subst ht
  cases w with
  | saveCustomer c =>
    rw [exec_saveCustomer]
    split
    · exact .inl (.refl s)
    · rename_i h
      exact .inl ⟨mem_put_of_new fun hf => h (.inl hf), fun _ h => h⟩
  | updateCustomer c =>
    cases hf : s.customers.find c.customerId with
    | none => rw [exec_updateCustomer_none hf]; exact .inl (.refl s)
    | some old =>
      rw [exec_updateCustomer hf]
      split
      · exact .inl (.refl s)
      · exact .inr (.inl ⟨isSome_put_of_old hf, fun _ => Iff.rfl⟩)
  | deleteCustomer id =>
    exact .inr (.inr ⟨⟨fun _ hm => (Keyed.mem_erase.mp hm).1, fun _ h => h⟩, .inl ⟨id, rfl⟩⟩)
  | saveVehicle v =>
    rw [exec_saveVehicle]
    split
    · exact .inl (.refl s)
    · rename_i h
      exact .inl ⟨fun _ h => h, mem_put_of_new fun hf => h (.inl hf)⟩
  | updateVehicle v =>
    cases hf : s.vehicles.find v.vehicleId with
    | none => rw [exec_updateVehicle_none hf]; exact .inl (.refl s)
    | some old =>
      rw [exec_updateVehicle hf]
      split
      · exact .inl (.refl s)
      · exact .inr (.inl ⟨fun _ => Iff.rfl, isSome_put_of_old hf⟩)
  | deleteVehicle id =>
    exact .inr (.inr ⟨⟨fun _ h => h, fun _ hm => (Keyed.mem_erase.mp hm).1⟩, .inr ⟨id, rfl⟩⟩)
  | saveUser u =>
    rw [exec_saveUser]
    split <;> exact .inl ⟨fun _ h => h, fun _ h => h⟩

theorem isSome_of_within {key : ρ → String} {s t : Keyed key}
    (h : ∀ row ∈ s.items, row ∈ t.items) {id : String} (hs : (s.find id).isSome) :
    (t.find id).isSome := by
  obtain ⟨row, hf⟩ := Option.isSome_iff_exists.mp hs
  obtain rfl := Keyed.find_key hf
  rw [Keyed.find_of_mem (h row (Keyed.find_mem hf))]; rfl

theorem Taken.within {key : ρ → String} {column : ρ → Option String} {value own : Option String}
    {s t : Keyed key} (h : ∀ row ∈ s.items, row ∈ t.items) (hs : Taken column value own s) :
    Taken column value own t := by
  obtain ⟨row, hm, hrest⟩ := hs
  exact ⟨row, h row hm, hrest⟩

omit [Runtime T] in
theorem need_cases {l : WriteCall T} {n : SqlStores → Prop}
    (hn : n ∈ l.guard.needs) : (∃ id, n = HasCustomer id) ∨ ∃ id, n = HasVehicle id := by
  cases l with
  | createCustomer => exact hn.elim
  | updateCustomer command => exact .inl ⟨_, hn⟩
  | deleteCustomer => exact hn.elim
  | createVehicle command => exact .inl ⟨_, hn⟩
  | updateVehicle command =>
    rcases hn with hn | hn
    · exact .inr ⟨_, hn⟩
    · exact .inl ⟨_, hn⟩
  | deleteVehicle => exact hn.elim

omit [Runtime T] in
theorem Within.needs {s t : SqlStores} (h : Within s t) (l : WriteCall T) :
    ∀ n ∈ l.guard.needs, n s → n t := by
  intro n hn
  rcases need_cases hn with ⟨id, rfl⟩ | ⟨id, rfl⟩
  · exact isSome_of_within h.customers
  · exact isSome_of_within h.vehicles

omit [Runtime T] in
theorem Within.checks {s t : SqlStores} (h : Within s t) (l : WriteCall T) :
    ∀ c ∈ l.guard.checks, c s → c t := by
  intro c hc
  cases l with
  | createCustomer => rcases hc with rfl | rfl <;> exact Taken.within h.customers
  | updateCustomer => rcases hc with rfl | rfl <;> exact Taken.within h.customers
  | deleteCustomer => exact hc.elim
  | createVehicle => obtain rfl := hc; exact Taken.within h.vehicles
  | updateVehicle => obtain rfl := hc; exact Taken.within h.vehicles
  | deleteVehicle => exact hc.elim

omit [Runtime T] in
theorem SameIds.needs {s t : SqlStores} (h : SameIds s t) (l : WriteCall T) :
    ∀ n ∈ l.guard.needs, n s ↔ n t := by
  intro n hn
  rcases need_cases hn with ⟨id, rfl⟩ | ⟨id, rfl⟩
  · exact h.customers id
  · exact h.vehicles id

theorem exec_comparable (s : SqlStores) (w : RegistryWrite T) (l : WriteCall T) :
    l.guard.Comparable s (w.exec s : Answer T Tok × _).2 := by
  rcases exec_effect Tok s w rfl with h | h | ⟨h, -⟩
  · exact .inl ⟨h.needs l, h.checks l⟩
  · exact .inr (.inr (h.needs l))
  · exact .inr (.inl ⟨h.needs l, h.checks l⟩)

/-! ## The write of a use case -/

variable (Tok) in
/-- The statement does not set `created_at`. -/
theorem exec_updateCustomer_createdAt (c : Customer T) (t : T) (s : SqlStores) :
    SameEnd ((RegistryWrite.updateCustomer { c with createdAt := t }).exec s : Answer T Tok × _)
      ((RegistryWrite.updateCustomer c).exec s) := by
  cases hf : s.customers.find c.customerId with
  | none =>
    rw [exec_updateCustomer_none hf, exec_updateCustomer_none (c := { c with createdAt := t }) hf]
    exact ⟨rfl, rfl⟩
  | some old =>
    rw [exec_updateCustomer hf, exec_updateCustomer (c := { c with createdAt := t }) hf]
    simp only [clash_customer_createdAt]
    split <;> exact ⟨rfl, rfl⟩

variable (Tok) in
theorem exec_updateVehicle_createdAt (v : Vehicle T) (t : T) (s : SqlStores) :
    SameEnd ((RegistryWrite.updateVehicle { v with createdAt := t }).exec s : Answer T Tok × _)
      ((RegistryWrite.updateVehicle v).exec s) := by
  cases hf : s.vehicles.find v.vehicleId with
  | none =>
    rw [exec_updateVehicle_none hf, exec_updateVehicle_none (v := { v with createdAt := t }) hf]
    exact ⟨rfl, rfl⟩
  | some old =>
    rw [exec_updateVehicle hf, exec_updateVehicle (v := { v with createdAt := t }) hf]
    simp only [clash_vehicle_createdAt]
    split <;> exact ⟨rfl, rfl⟩

variable (Tok) in
/-- What a use case read for its write does not matter. -/
theorem exec_mine {l : WriteCall T} {w w' : RegistryWrite T} (hw : l.guard.mine w)
    (hw' : l.guard.mine w') (s : SqlStores) :
    SameEnd (w.exec s : Answer T Tok × _) (w'.exec s) := by
  cases l with
  | createCustomer => cases hw; cases hw'; exact ⟨rfl, rfl⟩
  | updateCustomer command now =>
    obtain ⟨a, ha, rfl⟩ := hw
    obtain ⟨b, hb, rfl⟩ := hw'
    have h := exec_updateCustomer_createdAt Tok
      (UpdateCustomerUseCase.assign command now b) a.createdAt s
    simp only [UpdateCustomerUseCase.assign, ha, hb] at h ⊢
    exact h
  | deleteCustomer => cases hw; cases hw'; exact ⟨rfl, rfl⟩
  | createVehicle => cases hw; cases hw'; exact ⟨rfl, rfl⟩
  | updateVehicle command now =>
    obtain ⟨a, ha, rfl⟩ := hw
    obtain ⟨b, hb, rfl⟩ := hw'
    have h := exec_updateVehicle_createdAt Tok
      (UpdateVehicleUseCase.assign command now b) a.createdAt s
    simp only [UpdateVehicleUseCase.assign, ha, hb] at h ⊢
    exact h
  | deleteVehicle => cases hw; cases hw'; exact ⟨rfl, rfl⟩

omit [Runtime T] in
/-- What a check would have found, the table refuses. -/
theorem clash_of_taken {key : ρ → String} {cols : List (ρ → Option String)} {s : Keyed key}
    {column : ρ → Option String} (hc : column ∈ cols) {value own : Option String} {row : ρ}
    (hv : ∀ v, value = some v → column row = some v)
    (hown : ∀ other ∈ s.items, some (key other) ≠ own → key other ≠ key row)
    (h : Taken column value own s) : s.Clash cols row := by
  obtain ⟨other, hm, hne, hsome, he⟩ := h
  obtain ⟨v, rfl⟩ := Option.isSome_iff_exists.mp hsome
  exact ⟨other, hm, hown other hm hne, column, hc, by rw [hv v rfl]; rfl, by rw [he, hv v rfl]⟩

omit [Runtime T] in
theorem truthyText_some {t : Option String} {v : String} (h : truthyText t = some v) :
    t = some v := (Option.filter_eq_some_iff.mp h).1

/-- A safe write is not one that the checks would have stopped. -/
theorem free_of_safe {l : WriteCall T} {w : RegistryWrite T} (hw : l.guard.mine w)
    {s : SqlStores} (hs : Safe s w) : ¬ l.guard.Taken s := by
  intro ht
  obtain ⟨c, hc, ht⟩ := ht
  cases l with
  | createCustomer command g =>
    cases hw
    have hown := Keyed.find_none.mp hs.1
    rcases hc with rfl | rfl
    · exact hs.2 (clash_of_taken (by simp [customerUnique]) (fun v => truthyText_some)
        (fun other hm _ => hown other hm) ht)
    · exact hs.2 (clash_of_taken (by simp [customerUnique]) (fun v => id)
        (fun other hm _ => hown other hm) ht)
  | updateCustomer command now =>
    obtain ⟨a, ha, rfl⟩ := hw
    have hown : ∀ other ∈ s.customers.items, some other.customerId ≠ some command.customerId →
        other.customerId ≠ a.customerId := by
      intro other _ hne he
      rw [he, ha] at hne
      exact hne rfl
    rcases hc with rfl | rfl
    · exact hs.2 (clash_of_taken (by simp [customerUnique]) (fun v => truthyText_some) hown ht)
    · exact hs.2 (clash_of_taken (by simp [customerUnique]) (fun v => id) hown ht)
  | deleteCustomer => exact hc.elim
  | createVehicle command g =>
    cases hw
    have hown := Keyed.find_none.mp hs.1
    obtain rfl := hc
    exact hs.2 (clash_of_taken (by simp [vehicleUnique]) (fun v => id)
      (fun other hm _ => hown other hm) ht)
  | updateVehicle command now =>
    obtain ⟨a, ha, rfl⟩ := hw
    have hown : ∀ other ∈ s.vehicles.items, some other.vehicleId ≠ some command.vehicleId →
        other.vehicleId ≠ a.vehicleId := by
      intro other _ hne he
      rw [he, ha] at hne
      exact hne rfl
    obtain rfl := hc
    exact hs.2 (clash_of_taken (by simp [vehicleUnique]) (fun v => id) hown ht)
  | deleteVehicle => exact hc.elim

/-! ## Two use cases -/

theorem run_sound {s : SqlStores} (h : Sound T s) (p : Steps T Tok) :
    Sound T (p.run s).2 := by
  rcases run_shared p s with he | ⟨w, he⟩
  · rw [he]; exact h
  · rw [he]; exact exec_sound h w

theorem run_comparable (s : SqlStores) (p : Steps T Tok) (l : WriteCall T) :
    l.guard.Comparable s (p.run s).2 := by
  rcases run_shared p s with he | ⟨w, he⟩
  · rw [he]; exact .inr (.inr fun _ _ => Iff.rfl)
  · rw [he]; exact exec_comparable s w l

variable (Tok) in
/-- Writing a vehicle and changing the customers are independent. -/
theorem exec_vehicle_frame {w : RegistryWrite T}
    (hw : (∃ v, w = .saveVehicle v) ∨ ∃ v, w = .updateVehicle v) (s : SqlStores)
    (c : CustomerTable) :
    (w.exec { s with customers := c } : Answer T Tok × _) =
        ((w.exec s : Answer T Tok × _).1, { (w.exec s : Answer T Tok × _).2 with customers := c }) ∧
      (w.exec s : Answer T Tok × _).2.customers = s.customers := by
  rcases hw with ⟨v, rfl⟩ | ⟨v, rfl⟩
  · simp only [RegistryWrite.exec]
    cases sqlAlchemyVehicleRepository.save v s.vehicles <;> exact ⟨rfl, rfl⟩
  · simp only [RegistryWrite.exec]
    cases sqlAlchemyVehicleRepository.update v s.vehicles <;> exact ⟨rfl, rfl⟩

def WriteCall.WritesVehicle : WriteCall T → Prop
  | .createVehicle _ _ => True
  | .updateVehicle _ _ => True
  | _ => False

omit [Runtime T] in
theorem vehicle_mine {l : WriteCall T} (hl : l.WritesVehicle) {w : RegistryWrite T}
    (hw : l.guard.mine w) : (∃ v, w = .saveVehicle v) ∨ ∃ v, w = .updateVehicle v := by
  cases l with
  | createVehicle => exact .inl ⟨_, hw⟩
  | updateVehicle => obtain ⟨a, -, rfl⟩ := hw; exact .inr ⟨_, rfl⟩
  | _ => cases hl

omit [Runtime T] in
theorem vehicle_taken {l : WriteCall T} (hl : l.WritesVehicle) (s : SqlStores)
    (c : CustomerTable) : l.guard.Taken { s with customers := c } ↔ l.guard.Taken s := by
  refine exists_congr fun check => and_congr_right fun hc => ?_
  cases l with
  | createVehicle => obtain rfl := hc; exact Iff.rfl
  | updateVehicle => obtain rfl := hc; exact Iff.rfl
  | _ => cases hl

/-- A safe write whose needs are met before `X` and not after: `X` deleted the
customer of a vehicle. -/
theorem lost_customer {X Y : WriteCall T} {s : SqlStores} {w x : RegistryWrite T}
    (hx : X.guard.mine x) (hw : Y.guard.mine w) (hf : Y.guard.Found s)
    (hn : ¬ Y.guard.Found (x.exec s : Answer T Tok × _).2)
    (hsafe : Safe (x.exec s : Answer T Tok × _).2 w) :
    (∃ id, X = .deleteCustomer id) ∧ Y.WritesVehicle := by
  rcases exec_effect Tok s x rfl with h | h | ⟨-, ⟨id, rfl⟩ | ⟨id, rfl⟩⟩
  · exact absurd (fun n hm => h.needs Y n hm (hf n hm)) hn
  · exact absurd (fun n hm => (h.needs Y n hm).mp (hf n hm)) hn
  · constructor
    · cases X with
      | deleteCustomer id => exact ⟨id, rfl⟩
      | updateCustomer => obtain ⟨_, _, he⟩ := hx; cases he
      | updateVehicle => obtain ⟨_, _, he⟩ := hx; cases he
      | _ => cases hx
    · cases Y with
      | createCustomer => exact absurd (fun n hm => hm.elim) hn
      | updateCustomer command now =>
        obtain ⟨a, ha, rfl⟩ := hw
        refine absurd (fun n hm => ?_) hn
        obtain rfl := hm
        have h := hsafe.1
        simp only [UpdateCustomerUseCase.assign, ha] at h
        exact Option.isSome_iff_ne_none.mpr h
      | deleteCustomer => exact absurd (fun n hm => hm.elim) hn
      | createVehicle => trivial
      | updateVehicle => trivial
      | deleteVehicle => exact absurd (fun n hm => hm.elim) hn
  · -- the row a safe update needs is there, and the customers are the same
    refine absurd (fun n hm => ?_) hn
    cases Y with
    | createCustomer => exact hm.elim
    | updateCustomer => obtain rfl := hm; exact hf _ rfl
    | deleteCustomer => exact hm.elim
    | createVehicle => obtain rfl := hm; exact hf _ rfl
    | updateVehicle command now =>
      obtain ⟨a, ha, rfl⟩ := hw
      rcases hm with rfl | rfl
      · have h := hsafe.1
        simp only [UpdateVehicleUseCase.assign, ha] at h
        exact Option.isSome_iff_ne_none.mpr h
      · exact hf _ (.inr rfl)
    | deleteVehicle => exact hm.elim

/-- `q` ends after `X` as `Y` does alone, after `X` or before it, and then `X`
ends after `Y` as it did without it. -/
def Ordered (X Y : WriteCall T) (s : SqlStores) (q : Steps T Tok) : Prop :=
  let s₁ := ((X.prog : Steps T Tok).run s).2
  SameEnd ((Y.prog : Steps T Tok).run s₁) (q.run s₁) ∨
    (outcome ((Y.prog : Steps T Tok).run s).1 = outcome (q.run s₁).1 ∧
      outcome ((X.prog : Steps T Tok).run ((Y.prog : Steps T Tok).run s).2).1 =
        outcome ((X.prog : Steps T Tok).run s).1 ∧
      ((X.prog : Steps T Tok).run ((Y.prog : Steps T Tok).run s).2).2 = (q.run s₁).2)

section Ordered
variable {X Y : WriteCall T} {s : SqlStores} {q : Steps T Tok} {a a' : Answer T Tok}

theorem ordered_after (hq : q = .done a)
    (hr : (Y.prog : Steps T Tok).run ((X.prog : Steps T Tok).run s).2 =
      (a', ((X.prog : Steps T Tok).run s).2)) (ha : outcome a' = outcome a) :
    Ordered X Y s q := by
  subst hq
  refine .inl ?_
  rw [hr]
  exact ⟨ha, rfl⟩

theorem ordered_before (hq : q = .done a) (hr : (Y.prog : Steps T Tok).run s = (a', s))
    (ha : outcome a' = outcome a) : Ordered X Y s q := by
  subst hq
  refine .inr ?_
  rw [hr]
  exact ⟨ha, rfl, rfl⟩

theorem ordered_write (hiso : IsoRoundTrip T) (hs : Sound T s) {w : RegistryWrite T}
    (hq : q = .write w) (hw : Y.guard.mine w)
    (hf : Y.guard.Found s ∨ Y.guard.Found ((X.prog : Steps T Tok).run s).2)
    (hsafe : Safe ((X.prog : Steps T Tok).run s).2 w) : Ordered X Y s q := by
  subst hq
  have hs₁ := run_sound hs (X.prog : Steps T Tok)
  have hY := prog_guards Tok hiso Y
  have hfree := free_of_safe hw hsafe
  by_cases hf₁ : Y.guard.Found ((X.prog : Steps T Tok).run s).2
  · obtain ⟨w', hr, hw'⟩ := hY.run_writes RegistryWrite.exec hs₁ hf₁ hfree
    refine .inl ?_
    rw [Steps.run, hr]
    exact exec_mine Tok hw' hw _
  · have hf₀ := hf.resolve_right hf₁
    -- `X` has made its write
    rcases (prog_guards Tok hiso X).run_cases RegistryWrite.exec hs with
      ⟨a, hr, -⟩ | ⟨a, hr, -⟩ | ⟨x, -, hr, hx, -⟩
    · rw [Steps.run, hr] at hf₁; exact absurd hf₀ hf₁
    · rw [Steps.run, hr] at hf₁; exact absurd hf₀ hf₁
    rw [Steps.run, hr] at hf₁ hsafe hfree
    obtain ⟨⟨id, rfl⟩, hveh⟩ := lost_customer hx hw hf₀ hf₁ hsafe
    cases hx
    have hfree₀ : ¬ Y.guard.Taken s := fun ht => hfree ((vehicle_taken hveh s _).mpr ht)
    obtain ⟨w', hr', hw'⟩ := hY.run_writes RegistryWrite.exec hs hf₀ hfree₀
    obtain ⟨hout, htab⟩ := exec_mine Tok hw' hw s
    obtain ⟨hframe, -⟩ := exec_vehicle_frame Tok (vehicle_mine hveh hw) s
      (s.customers.erase id)
    obtain ⟨-, hsame⟩ := exec_vehicle_frame Tok (vehicle_mine hveh hw') s s.customers
    have hq : Steps.run (.write w) (((WriteCall.deleteCustomer id).prog : Steps T Tok).run s).2 =
        ((w.exec s : Answer T Tok × _).1,
          { (w.exec s : Answer T Tok × _).2 with customers := s.customers.erase id }) := hframe
    refine .inr ?_
    rw [hq, show (Y.prog : Steps T Tok).run s = w'.exec s from hr']
    refine ⟨hout, ?_, ?_⟩
    · show outcome (.ok (.deleted ((w'.exec s : Answer T Tok × _).2.customers.find id).isSome) :
        Answer T Tok) = outcome (.ok (.deleted (s.customers.find id).isSome) : Answer T Tok)
      rw [hsame]
    · show { (w'.exec s : Answer T Tok × _).2 with
        customers := (w'.exec s : Answer T Tok × _).2.customers.erase id } = _
      rw [hsame, htab]

/-- **What the later use case ends with** after a safe write or none. -/
theorem order_of_ends (hiso : IsoRoundTrip T) (hs : Sound T s)
    (he : Y.guard.Ends Missing Refused {s, ((X.prog : Steps T Tok).run s).2} q)
    (hsafe : ∀ w, q = .write w → Safe ((X.prog : Steps T Tok).run s).2 w) :
    Ordered X Y s q := by
  have hs₁ := run_sound hs (X.prog : Steps T Tok)
  have hY := prog_guards Tok hiso Y
  have hcomp := run_comparable s (X.prog : Steps T Tok) Y
  cases he with
  | missing ha hn hu h =>
    rcases hu with rfl | rfl
    · obtain ⟨a', hr, ha'⟩ := hY.run_missing RegistryWrite.exec hs fun hf => h (hf _ hn)
      exact ordered_before rfl hr (ha'.trans ha.symm)
    · obtain ⟨a', hr, ha'⟩ := hY.run_missing RegistryWrite.exec hs₁ fun hf => h (hf _ hn)
      exact ordered_after rfl hr (ha'.trans ha.symm)
  | refused ha hn hc hu h =>
    rcases hcomp.taken hn hc hu h with ⟨hf, ht⟩ | ⟨hf, ht⟩
    · obtain ⟨a', hr, ha'⟩ := hY.run_refused RegistryWrite.exec hs hf ht
      exact ordered_before rfl hr (ha'.trans ha.symm)
    · obtain ⟨a', hr, ha'⟩ := hY.run_refused RegistryWrite.exec hs₁ hf ht
      exact ordered_after rfl hr (ha'.trans ha.symm)
  | writes hw hn hc =>
    exact ordered_write hiso hs rfl hw (hcomp.found hn) (hsafe _ rfl)

end Ordered

/-! ## The race -/

section Race
variable {s : SqlStores} {l : Bool → WriteCall T} {sched : List Bool} {b : Bool}
  {c : Race.Pair SqlStores (RegistryWrite T) (Answer T Tok)} {q : Steps T Tok}

theorem inOrder_of_ordered (hasher : PasswordHasher)
    (h : Race.First RegistryWrite.exec s (fun b => (l b).prog) sched c b q)
    (ho : Ordered (l b) (l (!b)) s q) : ∃ b, InOrder hasher s l c b := by
  have hfirst : outcomeOf (c.prog b) = outcome (((l b).prog : Steps T Tok).run s).1 := by
    rw [h.answer]; rfl
  have hother : outcomeOf (c.prog (!b)) =
      outcome (q.run (((l b).prog : Steps T Tok).run s).2).1 := by
    rw [h.other]; rfl
  have hshared : c.shared = (q.run (((l b).prog : Steps T Tok).run s).2).2 := h.shared
  rcases ho with ⟨h₁, h₂⟩ | ⟨h₁, h₂, h₃⟩
  · refine ⟨b, ?_, ?_, ?_⟩ <;> simp only [← prog_run]
    · exact hfirst
    · rw [hother, h₁]
    · rw [hshared, h₂]
  · refine ⟨!b, ?_, ?_, ?_⟩ <;> simp only [Bool.not_not, ← prog_run]
    · rw [hother, h₁]
    · rw [hfirst, h₂]
    · rw [hshared, h₃]

/-- An end that is no write, or a safe one, is expected. -/
theorem expected_of_ends {g : Race.Guard SqlStores (RegistryWrite T)} {U : Set SqlStores}
    (he : g.Ends Missing Refused U q) (hsafe : ∀ w, q = .write w → Safe s w) :
    (outcome (q.run s).1).isSome := by
  cases he with
  | missing ha => exact Option.isSome_iff_exists.mpr ⟨_, ha⟩
  | refused ha => exact Option.isSome_iff_exists.mpr ⟨_, ha⟩
  | writes => exact ((safe_iff s _).mp (hsafe _ rfl)).1

/-- **Two registry calls at a time.** From tables that any writes have led to,
two use cases that have taken their steps in some order are as one after the
other, each with an expected outcome and no update lost, if and only if every
write of theirs was safe when it was made. -/
theorem serialisable_iff (hiso : IsoRoundTrip T) (hasher : PasswordHasher)
    (hs : (tableLts T Tok).Reachable s) (l : Bool → WriteCall T)
    (hrun : (Race.race RegistryWrite.exec).Run (start s l) sched c) (hend : c.Ended) :
    Serialisable hasher s l sched c ↔ (Race.race RegistryWrite.exec).Along (Race.AtWrite Safe)
      (start s l : Race.Pair _ _ (Answer T Tok)) sched := by
  have hS : Sound T s := tables_inductive.reachable s hs
  obtain ⟨b, q, h⟩ := Race.exists_first hrun hend
  have hsub : ({s, (((l b).prog : Steps T Tok).run s).2} : Set SqlStores) ⊆ {s | Sound T s} := by
    intro u hu
    rcases hu with rfl | rfl
    · exact hS
    · exact run_sound hS _
  have hb := prog_guards Tok hiso (l b) {s} (Set.singleton_subset_iff.mpr hS) ⟨s, rfl⟩ _
    (Race.Prog.reads_settle (Set.mem_singleton s) _) (Race.Prog.settle_settled _ s)
  have hq := prog_guards Tok hiso (l (!b)) _ hsub ⟨s, .inl rfl⟩ q h.reads h.settled
  have hrunb : outcomeOf (c.prog b) =
      outcome (Steps.run (((l b).prog : Steps T Tok).settle s) s).1 := by
    rw [Steps.run, Race.Prog.run_settle, h.answer]; rfl
  have hrunq : outcomeOf (c.prog (!b)) =
      outcome (Steps.run q (((l b).prog : Steps T Tok).run s).2).1 := by
    rw [h.other]; rfl
  rw [start, h.along Safe]
  constructor
  · intro hser
    have hland := (h.along (Landed Tok)).mp hser.landed
    constructor
    · intro w hw
      have hexp := hser.expected b
      rw [hrunb, hw] at hexp
      exact (safe_iff s w).mpr ⟨hexp, hland.1 w hw⟩
    · intro w hw
      have hexp := hser.expected (!b)
      rw [hrunq, hw] at hexp
      exact (safe_iff _ w).mpr ⟨hexp, hland.2 w hw⟩
  · intro hsafe
    refine ⟨inOrder_of_ordered hasher h (order_of_ends hiso hS hq hsafe.2), fun b' => ?_,
      (h.along (Landed Tok)).mpr ⟨fun w hw => ((safe_iff s w).mp (hsafe.1 w hw)).2,
        fun w hw => ((safe_iff _ w).mp (hsafe.2 w hw)).2⟩⟩
    by_cases hbb : b' = b
    · subst hbb
      rw [hrunb]
      exact expected_of_ends hb hsafe.1
    · obtain rfl : b' = !b := Bool.eq_not_of_ne hbb
      rw [hrunq]
      exact expected_of_ends hq hsafe.2

end Race

/-! ## Concrete races -/

/-- Two new customers with these emails. -/
def exCustomers (email : Bool → String) (b : Bool) : WriteCall Utc :=
  .createCustomer ⟨"Ana", none, email b, "11999990000", true⟩
    (exGenerated (if b then "customer-1" else "customer-2"))

/-- Both look before either writes. -/
def exSched : List Bool := [true, false, true, false]

def exRace (l : Bool → WriteCall Utc) (s : SqlStores) (sched : List Bool) :
    Race.Pair SqlStores (RegistryWrite Utc) (Answer Utc Unit) :=
  Race.play RegistryWrite.exec (start s l) sched

theorem emptyTables_reachable : (tableLts Utc Unit).Reachable emptyTables :=
  ⟨emptyTables, [], rfl, .nil _⟩

def exEmails (b : Bool) : String := if b then "ana@example.com" else "bia@example.com"

/-- With two emails the order does not matter. -/
theorem two_emails_serialisable :
    Serialisable exHasher emptyTables (exCustomers exEmails) exSched
      (exRace (exCustomers exEmails) emptyTables exSched) := by
  refine (serialisable_iff utc_roundTrip exHasher emptyTables_reachable (exCustomers exEmails)
    (Race.run_play _ exSched) fun b => by cases b <;> exact ⟨_, rfl⟩).mpr ?_
  refine Race.along_turn.mpr ⟨fun w hw => (by cases hw), ?_⟩
  refine Race.along_turn.mpr ⟨fun w hw => (by cases hw), ?_⟩
  refine Race.along_turn.mpr ⟨fun w hw => ?_, ?_⟩
  · cases hw
    exact ⟨rfl, by decide⟩
  refine Race.along_turn.mpr ⟨fun w hw => ?_, Lts.along_nil⟩
  cases hw
  exact ⟨rfl, by decide⟩

/-- With one email the second customer is refused by the table, not by the
check. -/
theorem one_email_not_serialisable :
    let l := exCustomers fun _ => "ana@example.com"
    let c := exRace l emptyTables exSched
    (tableLts Utc Unit).Reachable emptyTables ∧
      (Race.race RegistryWrite.exec).Run (start emptyTables l) exSched c ∧ c.Ended ∧
      c.prog false = .done (.error .integrityError) ∧
      ¬ Serialisable exHasher emptyTables l exSched c := by
  intro l c
  have hrefused : c.prog false = .done (.error .integrityError) := rfl
  refine ⟨emptyTables_reachable, Race.run_play _ _, fun b => by cases b <;> exact ⟨_, rfl⟩,
    hrefused, fun h => ?_⟩
  have hexp := h.expected false
  rw [hrefused] at hexp
  cases hexp

end ServiceOrderOs.Concurrency
