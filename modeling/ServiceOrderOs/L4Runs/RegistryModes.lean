import ServiceOrderOs.L3App.SqlRegistries
import ServiceOrderOs.L4Runs.Registries

/-!
# Customers and admin users in the two runtime modes

The same calls over the in-memory and over the SQL repositories, with the same
generated values. The two compare emails differently (casefolded, exactly), and
only the table refuses a second empty document, so they do not always agree.

* `modes_agree_iff`: they agree throughout a run exactly when every call of it
  is `Unambiguous` where it is made.
* `capitals_disagree`: the same email in capitals, registered twice.
-/
namespace ServiceOrderOs.Runs
open Core Py Domain App

variable {T Tok α κ ν υ : Type}

/-! ## Outcomes -/

inductive ErrorKind where
  | keyError | valueError | typeError | integrityError
  deriving DecidableEq, Repr

def errorKind : RegistryError → ErrorKind
  | .py (.keyError _) => .keyError
  | .py (.valueError _) => .valueError
  | .py (.typeError _) => .typeError
  | .integrityError => .integrityError

abbrev CallOutcome (T Tok : Type) := Except ErrorKind (RegistryReply T Tok)

/-- What a call returns, or the kind of its error. -/
def callOutcome : EStateM.Result RegistryError (Stores κ ν υ) (RegistryReply T Tok) →
    CallOutcome T Tok
  | .ok r _ => .ok r
  | .error e _ => .error (errorKind e)

def callEnd : EStateM.Result RegistryError (Stores κ ν υ) α → Stores κ ν υ
  | .ok _ s => s
  | .error _ s => s

/-- The tables hold the rows of the records in memory. -/
structure SameRecords [Runtime T] (m : MemoryStores T) (t : SqlStores) : Prop where
  customers : Holds customerToRow m.customers t.customers
  users : Holds userToRow m.users t.users

/-- The two results of a call agree exactly when `C`. -/
structure Agree [Runtime T] (x : EStateM.Result RegistryError (MemoryStores T)
    (RegistryReply T Tok)) (y : EStateM.Result RegistryError SqlStores (RegistryReply T Tok))
    (C : Prop) : Prop where
  same : C → callOutcome x = callOutcome y ∧ SameRecords (callEnd x) (callEnd y)
  differ : ¬ C → callOutcome x ≠ callOutcome y

/-- A call that checks `A`, then `B`, and then writes, which the database
refuses on `D`. -/
def verdict (A B D : Prop) [Decidable A] [Decidable B] [Decidable D] (a b : String)
    (r : RegistryReply T Tok) (s s' : Stores κ ν υ) :
    EStateM.Result RegistryError (Stores κ ν υ) (RegistryReply T Tok) :=
  if A then .error (.py (.valueError a)) s
  else if B then .error (.py (.valueError b)) s
  else if D then .error .integrityError s
  else .ok r s'

theorem agree_verdict [Runtime T] {A B B' D : Prop} [Decidable A] [Decidable B] [Decidable B']
    [Decidable D] (hB : B' → B) (a b : String) (r : RegistryReply T Tok) {m m' : MemoryStores T}
    {t t' : SqlStores} (hs : SameRecords m t) (hs' : SameRecords m' t') :
    Agree (verdict A B False a b r m m') (verdict A B' D a b r t t')
      (A ∨ B' ∨ (¬ B ∧ ¬ D)) where
  same hC := by
    by_cases hA : A
    · simp only [verdict, if_pos hA]; exact ⟨rfl, hs⟩
    by_cases hB' : B'
    · simp only [verdict, if_neg hA, if_pos hB', if_pos (hB hB')]; exact ⟨rfl, hs⟩
    obtain ⟨hB, hD⟩ : ¬ B ∧ ¬ D := by simpa [hA, hB'] using hC
    simp only [verdict, if_neg hA, if_neg hB', if_neg hB, if_neg hD, if_false]
    exact ⟨rfl, hs'⟩
  differ hC := by
    have hA : ¬ A := fun h => hC (.inl h)
    have hB' : ¬ B' := fun h => hC (.inr (.inl h))
    by_cases hB : B <;> by_cases hD : D
    · simp [verdict, hA, hB, hB', hD, callOutcome, errorKind]
    · simp [verdict, hA, hB, hB', hD, callOutcome]
    · simp [verdict, hA, hB, hB', hD, callOutcome]
    · exact absurd (.inr (.inr ⟨hB, hD⟩)) hC

/-- A registration whose password cannot be hashed: it checks `B`, then raises. -/
def unhashed (B : Prop) [Decidable B] (b : String) (e : PyError) (s : Stores κ ν υ) :
    EStateM.Result RegistryError (Stores κ ν υ) (RegistryReply T Tok) :=
  if B then .error (.py (.valueError b)) s else .error (.py e) s

theorem errorKind_py {e : PyError} :
    errorKind (.py e) = .valueError ↔ ∃ text, e = .valueError text := by
  cases e <;> simp [errorKind]

theorem agree_unhashed [Runtime T] {B B' : Prop} [Decidable B] [Decidable B'] (hB : B' → B)
    (b : String) (e : PyError) {m : MemoryStores T} {t : SqlStores} (hs : SameRecords m t) :
    Agree (unhashed B b e m : EStateM.Result _ _ (RegistryReply T Tok)) (unhashed B' b e t)
      (B' ∨ ¬ B ∨ ∃ text, e = .valueError text) where
  same hC := by
    by_cases hB' : B'
    · simp only [unhashed, if_pos hB', if_pos (hB hB')]; exact ⟨rfl, hs⟩
    by_cases hB : B
    · obtain ⟨text, rfl⟩ : ∃ text, e = .valueError text := by simpa [hB, hB'] using hC
      simp only [unhashed, if_pos hB, if_neg hB']; exact ⟨rfl, hs⟩
    · simp only [unhashed, if_neg hB, if_neg hB']; exact ⟨rfl, hs⟩
  differ hC := by
    obtain ⟨hB', hB, he⟩ : ¬ B' ∧ B ∧ ¬ ∃ text, e = .valueError text := by
      simpa only [not_or, Classical.not_not] using hC
    simp only [unhashed, if_pos hB, if_neg hB']
    intro heq
    exact he (errorKind_py.mp (Except.error.inj heq).symm)

theorem Agree.congr [Runtime T] {x : EStateM.Result RegistryError (MemoryStores T)
    (RegistryReply T Tok)} {y : EStateM.Result RegistryError SqlStores (RegistryReply T Tok)}
    {C C' : Prop} (h : Agree x y C) (hC : C' ↔ C) : Agree x y C' :=
  ⟨fun h' => h.same (hC.mp h'), fun h' => h.differ fun h'' => h' (hC.mpr h'')⟩

/-! ## When the modes agree on a call -/

/-- A record under another id with the property. -/
def Other (s : IdDict α) (id : String) (p : α → Prop) : Prop := ∃ e ∈ s.items, e.1 ≠ id ∧ p e.2

def CpfTaken (s : IdDict (Customer T)) (id : String) (cpfCnpj : Option String) : Prop :=
  cpfCnpj.isSome ∧ Other s id fun c => c.cpfCnpj = cpfCnpj

section Casefold
variable [Casefold T]

/-- Another customer has the non-empty document or exactly the email, which
both modes refuse; or none has the email in any capitals, and none the empty
document. -/
def Unambiguous (s : IdDict (Customer T)) (id : String) (cpfCnpj : Option String)
    (email : String) : Prop :=
  CpfTaken s id (truthyText cpfCnpj) ∨ Other s id (fun c => c.email = email) ∨
    (¬ Other s id (fun c => casefold T c.email = casefold T email) ∧ ¬ CpfTaken s id cpfCnpj)

/-- The condition on a call, in the state it is made in. In memory a user whose
email differs in capitals stands in the way of a registration, which is refused
with the kind of error a password too long to hash is; and a login has a
password to verify then, which returns or raises. -/
def AgreesOn (hasher : PasswordHasher) (m : MemoryStores T) : RegistryCall T Tok → Prop
  | .createCustomer command g => Unambiguous m.customers g.uuid command.cpfCnpj command.email
  | .updateCustomer command _ => m.customers.value command.customerId = none ∨
      Unambiguous m.customers command.customerId command.cpfCnpj command.email
  | .registerAdminUser command salt _ =>
      (∃ u ∈ m.users.values, u.email = command.email) ∨
        (¬ ∃ u ∈ m.users.values, casefold T u.email = casefold T command.email) ∨
        ∃ text, hasher.hashPassword command.password salt = .error (.valueError text)
  | .loginAdminUser command _ =>
      (∃ u ∈ m.users.values, u.email = command.email) ∨
        ¬ ∃ u ∈ m.users.values, casefold T u.email = casefold T command.email ∧
          hasher.verifyPassword command.password u.passwordHash ≠ .ok false
  | _ => True

/-! ## Lookups and clashes -/

omit [Casefold T] in
theorem first_isSome_iff {s : IdDict α} {p : α → Bool} :
    (s.first p).isSome ↔ ∃ a ∈ s.values, p a = true := by
  rw [IdDict.first, List.find?_isSome]

omit [Casefold T] in
/-- No record has the id, so any record is another one. -/
theorem other_iff_of_new {s : IdDict α} {id : String} (hnew : s.value id = none) (p : α → Prop) :
    Other s id p ↔ ∃ a ∈ s.values, p a := by
  constructor
  · intro h
    obtain ⟨e, he, -, hp⟩ := h
    exact ⟨e.2, IdDict.mem_values.mpr ⟨e.1, he⟩, hp⟩
  · intro h
    obtain ⟨a, ha, hp⟩ := h
    obtain ⟨k, hk⟩ := IdDict.mem_values.mp ha
    refine ⟨(k, a), hk, fun hid => ?_, hp⟩
    have hid : k = id := hid
    rw [hid, ← IdDict.value_some, hnew] at hk
    cases hk

omit [Casefold T] in
/-- The first record that fits is another one exactly when another one fits. -/
theorem first_any_iff {idOf : α → String} {s : IdDict α} {p : α → Bool} {id : String}
    (hf : s.Filed idOf) (hu : ∀ a ∈ s.items, ∀ b ∈ s.items, p a.2 → p b.2 → a.1 = b.1) :
    (s.first p).any (fun a => idOf a ≠ id) = true ↔ Other s id fun a => p a = true := by
  constructor
  · intro h
    cases ha : s.first p with
    | none => rw [ha] at h; cases h
    | some a =>
      rw [ha] at h
      obtain ⟨k, hk, hp⟩ := IdDict.first_some ha
      exact ⟨(k, a), hk, by rw [← hf (k, a) hk]; simpa using h, hp⟩
  · intro h
    obtain ⟨e, he, hne, hp⟩ := h
    by_contra hno
    exact hne (IdDict.only_of_first hf hu (by simpa using hno) e he hp)

omit [Casefold T] in
theorem customer_clash_iff [Runtime T] {s : IdDict (Customer T)} {t : CustomerTable}
    (h : Holds customerToRow s t) (hf : s.Filed Customer.customerId) (c : Customer T) :
    t.Clash customerUnique (customerToRow c) ↔
      CpfTaken s c.customerId c.cpfCnpj ∨ Other s c.customerId fun d => d.email = c.email := by
  constructor
  · intro hc
    obtain ⟨row, hrow, hne, col, hcol, hsome, heq⟩ := hc
    obtain ⟨e, he, rfl⟩ := h.mem.mp hrow
    have hne : e.1 ≠ c.customerId := by rw [← hf e he]; exact hne
    simp only [customerUnique, List.mem_cons, List.not_mem_nil, or_false] at hcol
    rcases hcol with rfl | rfl
    · exact .inl ⟨hsome, e, he, hne, heq⟩
    · exact .inr ⟨e, he, hne, Option.some.inj heq⟩
  · intro hc
    have clash : ∀ e ∈ s.items, e.1 ≠ c.customerId → ∀ col ∈ customerUnique,
        (col (customerToRow c)).isSome → col (customerToRow e.2) = col (customerToRow c) →
        t.Clash customerUnique (customerToRow c) := fun e he hne col hcol hsome heq =>
      ⟨_, h.mem.mpr ⟨e, he, rfl⟩, by rw [← hf e he] at hne; exact hne, col, hcol, hsome, heq⟩
    rcases hc with ⟨hsome, e, he, hne, heq⟩ | ⟨e, he, hne, heq⟩
    · exact clash e he hne _ (List.mem_cons_self ..) hsome heq
    · exact clash e he hne _ (List.mem_cons_of_mem _ (List.mem_cons_self ..)) rfl
        (congrArg some heq)

omit [Casefold T] in
theorem user_clash_iff [Runtime T] {s : IdDict (AdminUser T)} {t : AdminUserTable}
    (h : Holds userToRow s t) (hf : s.Filed AdminUser.userId) (u : AdminUser T) :
    t.Clash userUnique (userToRow u) ↔ Other s u.userId fun d => d.email = u.email := by
  constructor
  · intro hc
    obtain ⟨row, hrow, hne, col, hcol, -, heq⟩ := hc
    obtain ⟨e, he, rfl⟩ := h.mem.mp hrow
    simp only [userUnique, List.mem_cons, List.not_mem_nil, or_false] at hcol
    subst hcol
    exact ⟨e, he, by rw [← hf e he]; exact hne, Option.some.inj heq⟩
  · intro hc
    obtain ⟨e, he, hne, heq⟩ := hc
    rw [← hf e he] at hne
    exact ⟨_, h.mem.mpr ⟨e, he, rfl⟩, hne, _, List.mem_cons_self .., rfl, congrArg some heq⟩

end Casefold

/-! ## Each call as a verdict -/

section Verdicts
variable (b : Backend T κ ν υ) (hasher : PasswordHasher) (s : Stores κ ν υ) {D : Prop} [Decidable D]

theorem createCustomer_verdict (command : CreateCustomerCommand) (g : Generated T)
    {other otherEmail : Option (Customer T)} {k : κ}
    (ho : findWhen (truthyText command.cpfCnpj) (b.customers.findByCpfCnpj · s.customers) =
      .ok other)
    (he : b.customers.findByEmail command.email s.customers = .ok otherEmail)
    (hsave : b.customers.save (CreateCustomerUseCase.customer command g) s.customers =
      if D then .error .integrityError else .ok k) :
    ((.createCustomer command g : RegistryCall T Tok).run b hasher).run s =
      verdict other.isSome otherEmail.isSome D "CPF/CNPJ already registered"
        "Email already registered" (.customer (CreateCustomerUseCase.customer command g)) s
        { s with customers := k } := by
  simp only [RegistryCall.run, map_run, createCustomer_run,
    CreateCustomerUseCase.check_eq ho he, hsave]
  unfold verdict
  by_cases hD : D <;> cases other <;> cases otherEmail <;> simp [hD, wrote]

/-- An update the database refuses has changed nothing, should assigning to the
object change nothing. -/
theorem updateCustomer_verdict (command : UpdateCustomerCommand) (now : T) {old : Customer T}
    {other otherEmail : Option (Customer T)} {k : κ}
    (hg : b.customers.get command.customerId s.customers = .ok old)
    (ho : findWhen ((truthyText command.cpfCnpj).filter (some · ≠ old.cpfCnpj))
      (b.customers.findByCpfCnpj · s.customers) = .ok other)
    (he : findWhen ((some command.email).filter (· ≠ old.email))
      (b.customers.findByEmail · s.customers) = .ok otherEmail)
    (hmut : D → b.customers.mutated command.customerId
      (UpdateCustomerUseCase.assign command now old) s.customers = s.customers)
    (hupd : b.customers.update (UpdateCustomerUseCase.assign command now old)
        (b.customers.mutated command.customerId (UpdateCustomerUseCase.assign command now old)
          s.customers) =
      if D then .error .integrityError else .ok k) :
    ((.updateCustomer command now : RegistryCall T Tok).run b hasher).run s =
      verdict (other.any (·.customerId ≠ command.customerId))
        (otherEmail.any (·.customerId ≠ command.customerId)) D "CPF/CNPJ already registered"
        "Email already registered" (.customer (UpdateCustomerUseCase.assign command now old)) s
        { s with customers := k } := by
  simp only [RegistryCall.run, map_run, updateCustomer_run,
    UpdateCustomerUseCase.check_eq hg ho he]
  unfold verdict
  cases other.any (·.customerId ≠ command.customerId) <;>
    cases otherEmail.any (·.customerId ≠ command.customerId)
  · simp only [Bool.false_eq_true, if_false, hupd]
    by_cases hD : D
    · simp only [if_pos hD, wrote, hmut hD]
    · simp only [if_neg hD, wrote]
  all_goals simp

theorem registerAdminUser_verdict (command : RegisterAdminUserCommand) (salt : String)
    (g : Generated T) {existing : Option (AdminUser T)} {passwordHash : String} {u : υ}
    (he : b.users.findByEmail command.email s.users = .ok existing)
    (hhash : hasher.hashPassword command.password salt = .ok passwordHash)
    (hsave : b.users.save (RegisterAdminUserUseCase.user command passwordHash g) s.users =
      if D then .error .integrityError else .ok u) :
    ((.registerAdminUser command salt g : RegistryCall T Tok).run b hasher).run s =
      verdict False existing.isSome D "" "Email already registered"
        (.user (RegisterAdminUserUseCase.user command passwordHash g)) s
        { s with users := u } := by
  simp only [RegistryCall.run, map_run, registerAdminUser_run, RegisterAdminUserUseCase.check,
    he, found_bind, raiseIf, hhash, hsave]
  unfold verdict
  by_cases hD : D <;> cases existing <;> simp [hD, wrote]

/-- Hashing comes after the check. -/
theorem registerAdminUser_unhashed (command : RegisterAdminUserCommand) (salt : String)
    (g : Generated T) {existing : Option (AdminUser T)} {e : PyError}
    (he : b.users.findByEmail command.email s.users = .ok existing)
    (hhash : hasher.hashPassword command.password salt = .error e) :
    ((.registerAdminUser command salt g : RegistryCall T Tok).run b hasher).run s =
      unhashed existing.isSome "Email already registered" e s := by
  simp only [RegistryCall.run, map_run, registerAdminUser_run, RegisterAdminUserUseCase.check,
    he, found_bind, raiseIf, hhash, unhashed]
  cases existing <;> simp

end Verdicts

/-! ## The calls in the two modes -/

section Calls
variable [Runtime T] [Casefold T]

def inMemory (hasher : PasswordHasher) (m : MemoryStores T) (l : RegistryCall T Tok) :
    EStateM.Result RegistryError (MemoryStores T) (RegistryReply T Tok) :=
  (l.run memoryBackend hasher).run m

def inSql (hasher : PasswordHasher) (t : SqlStores) (l : RegistryCall T Tok) :
    EStateM.Result RegistryError SqlStores (RegistryReply T Tok) :=
  (l.run sqlBackend hasher).run t

/-- What the lookups in the tables find, in terms of the records in memory. -/
structure Lookups (m : MemoryStores T) (t : SqlStores) : Prop where
  cpfCnpj : ∀ v, (sqlAlchemyCustomerRepository (T := T)).findByCpfCnpj v t.customers =
    .ok (m.customers.first fun c => c.cpfCnpj = some v)
  email : ∀ v, (sqlAlchemyCustomerRepository (T := T)).findByEmail v t.customers =
    .ok (m.customers.first fun c => c.email = v)
  get : ∀ id, (sqlAlchemyCustomerRepository (T := T)).get id t.customers =
    inMemoryCustomerRepository.get id m.customers
  user : ∀ v, (sqlAlchemyAdminUserRepository (T := T)).findByEmail v t.users =
    .ok (m.users.first fun u => u.email = v)

theorem lookups (hiso : IsoRoundTrip T) {m : MemoryStores T} {t : SqlStores}
    (hs : SameRecords m t) (hr : Registered m) : Lookups m t where
  cpfCnpj _ := hs.customers.tableFirst (customerFromRow_customerToRow hiso) _
  email _ := hs.customers.tableFirst (customerFromRow_customerToRow hiso) _
  get _ := hs.customers.get hr.customersFiled (fun _ => rfl) (customerFromRow_customerToRow hiso)
    _ _
  user _ := hs.users.tableFirst (userFromRow_userToRow hiso) _

variable {m : MemoryStores T} {t : SqlStores}

omit [Casefold T] in
theorem SameRecords.putCustomer (hs : SameRecords m t)
    (hf : m.customers.Filed Customer.customerId) (c : Customer T) :
    SameRecords { m with customers := m.customers.put (c.customerId, c) }
      { t with customers := t.customers.put (customerToRow c) } :=
  { hs with customers := hs.customers.put hf (fun _ => rfl) c }

omit [Casefold T] [Runtime T] in
theorem cpfTaken_iff_of_new {s : IdDict (Customer T)} {id : String} (hnew : s.value id = none)
    (cpfCnpj : Option String) :
    CpfTaken s id cpfCnpj ↔
      (cpfCnpj.bind fun v => s.first fun c => c.cpfCnpj = some v).isSome := by
  cases cpfCnpj with
  | none => simp [CpfTaken]
  | some v =>
    rw [CpfTaken, other_iff_of_new hnew, Option.bind_some, first_isSome_iff]
    simp

omit [Runtime T] [Casefold T] in
/-- Where `E` is refused before, of what clashes only `D` is left. -/
theorem clash_of_rest {A B D E X : Prop} (hX : X ↔ D ∨ E) :
    A ∨ E ∨ (¬ B ∧ ¬ D) ↔ A ∨ E ∨ (¬ B ∧ ¬ X) := by
  by_cases hE : E
  · simp [hE]
  · simp [hE, hX]

theorem create_agree (hiso : IsoRoundTrip T) (hasher : PasswordHasher) (hs : SameRecords m t)
    (hr : Registered m) (command : CreateCustomerCommand) (g : Generated T)
    (hnew : m.customers.value g.uuid = none) :
    Agree (inMemory hasher m (.createCustomer command g : RegistryCall T Tok))
      (inSql hasher t (.createCustomer command g))
      (Unambiguous m.customers g.uuid command.cpfCnpj command.email) := by
  have hl := lookups hiso hs hr
  let new := CreateCustomerUseCase.customer command g
  have hclash := customer_clash_iff hs.customers hr.customersFiled new
  have hsave : sqlAlchemyCustomerRepository.save new t.customers =
      if t.customers.Clash customerUnique (customerToRow new) then .error .integrityError
      else .ok (t.customers.put (customerToRow new)) :=
    hs.customers.insert hr.customersFiled (fun _ => rfl) customerUnique hnew
  have hmem : inMemory hasher m (.createCustomer command g : RegistryCall T Tok) = _ :=
    createCustomer_verdict memoryBackend hasher m command g (D := False)
      (findWhen_pure _ _) rfl rfl
  have hsql : inSql hasher t (.createCustomer command g : RegistryCall T Tok) = _ :=
    createCustomer_verdict sqlBackend hasher t command g
      ((congrArg _ (funext hl.cpfCnpj)).trans (findWhen_pure _ _)) (hl.email _) hsave
  rw [hmem, hsql]
  refine (agree_verdict ?_ _ _ _ hs (hs.putCustomer hr.customersFiled new)).congr ?_
  · simp only [first_isSome_iff, decide_eq_true_eq]
    intro h
    obtain ⟨c, hc, he⟩ := h
    exact ⟨c, hc, congrArg (casefold T) he⟩
  · rw [Unambiguous, cpfTaken_iff_of_new hnew, other_iff_of_new hnew, other_iff_of_new hnew]
    simp only [first_isSome_iff, decide_eq_true_eq]
    refine clash_of_rest (hclash.trans (or_congr_right ?_))
    exact other_iff_of_new hnew _

omit [Runtime T] [Casefold T] in
/-- A lookup skipped where the record itself has the value decides as the
lookup would. -/
theorem skipped_any_iff {idOf : α → String} {s : IdDict α} {p : String → α → Bool} {id : String}
    {old : α} (hf : s.Filed idOf) (hold : s.value id = some old) {v : String}
    (hu : ∀ a ∈ s.items, ∀ b ∈ s.items, p v a.2 → p v b.2 → a.1 = b.1) (c : String → Prop)
    [DecidablePred c] (hskip : ¬ c v → p v old = true) :
    ((((some v).filter fun x => c x).bind fun x => s.first (p x)).any fun a => idOf a ≠ id) =
        true ↔ Other s id fun a => p v a = true := by
  by_cases hc : c v
  · simp only [hc, Option.filter, decide_true, if_true, Option.bind_some]
    exact first_any_iff hf hu
  · simp only [hc, Option.filter, decide_false, Bool.false_eq_true, if_false, Option.bind_none,
      Option.any_none, false_iff]
    intro h
    obtain ⟨e, he, hne, hp⟩ := h
    exact hne (hu e he (id, old) (IdDict.value_some.mp hold) hp (hskip hc))

omit [Runtime T] in
theorem update_cpfCnpj_iff (hr : Registered m) {id : String} {old : Customer T}
    (hold : m.customers.value id = some old) (cpfCnpj : Option String) :
    (((truthyText cpfCnpj).filter (some · ≠ old.cpfCnpj)).bind fun v =>
      m.customers.first fun c => c.cpfCnpj = some v).any (·.customerId ≠ id) = true ↔
      CpfTaken m.customers id (truthyText cpfCnpj) := by
  cases hv : truthyText cpfCnpj with
  | none => simp [CpfTaken]
  | some v =>
    have hu := unique_cpfCnpj hr.customers (truthyText_some.mp hv).2
    rw [skipped_any_iff (p := fun v c => decide (c.cpfCnpj = some v)) hr.customersFiled hold
      (by simpa using hu) _ (by simpa using Eq.symm)]
    simp [CpfTaken]

omit [Runtime T] in
/-- The adapters compare emails as they are or casefolded. -/
theorem update_email_iff (hr : Registered m) {id : String} {old : Customer T}
    (hold : m.customers.value id = some old) (email : String) (f : String → String)
    (hfold : ∀ a b, f a = f b → casefold T a = casefold T b) :
    (((some email).filter (· ≠ old.email)).bind fun v =>
      m.customers.first fun c => f c.email = f v).any (·.customerId ≠ id) = true ↔
      Other m.customers id fun c => f c.email = f email := by
  have hu := unique_email hr.customers (casefold T email)
  rw [skipped_any_iff (p := fun v c => decide (f c.email = f v)) hr.customersFiled hold
    (fun a ha b hb h₁ h₂ => hu a ha b hb (hfold _ _ (of_decide_eq_true h₁))
      (hfold _ _ (of_decide_eq_true h₂))) _ (by simp +contextual)]
  simp only [decide_eq_true_eq]

/-- The lookups an update makes decide as those of all other records would:
where one is skipped, the record itself has the value. -/
theorem update_agree (hiso : IsoRoundTrip T) (hasher : PasswordHasher) (hs : SameRecords m t)
    (hr : Registered m) (command : UpdateCustomerCommand) (now : T) {old : Customer T}
    (hold : m.customers.value command.customerId = some old) :
    Agree (inMemory hasher m (.updateCustomer command now : RegistryCall T Tok))
      (inSql hasher t (.updateCustomer command now))
      (Unambiguous m.customers command.customerId command.cpfCnpj command.email) := by
  have hl := lookups hiso hs hr
  let new := UpdateCustomerUseCase.assign command now old
  have hid : old.customerId = command.customerId :=
    hr.customersFiled _ (IdDict.value_some.mp hold)
  have hclash := customer_clash_iff hs.customers hr.customersFiled new
  have hget : inMemoryCustomerRepository.get command.customerId m.customers = .ok old := by
    simp only [inMemoryCustomerRepository, IdDict.get, hold]
  have hrow : t.customers.find new.customerId = some (customerToRow old) := by
    rw [hs.customers.find hr.customersFiled (fun _ => rfl), show new.customerId = _ from hid, hold]
    rfl
  have hupd : sqlAlchemyCustomerRepository.update new t.customers =
      if t.customers.Clash customerUnique (customerToRow new) then .error .integrityError
      else .ok (t.customers.put (customerToRow new)) := by
    simp only [sqlAlchemyCustomerRepository, hrow]
    exact hs.customers.update hr.customersFiled (fun _ => rfl) customerUnique
      ((congrArg _ hid).trans hold)
  have hmem : inMemory hasher m (.updateCustomer command now : RegistryCall T Tok) = _ :=
    updateCustomer_verdict memoryBackend hasher m command now (D := False) hget
      (findWhen_pure _ _) (findWhen_pure _ _) (fun h => h.elim) rfl
  have hsql : inSql hasher t (.updateCustomer command now : RegistryCall T Tok) = _ :=
    updateCustomer_verdict sqlBackend hasher t command now ((hl.get _).trans hget)
      ((congrArg _ (funext hl.cpfCnpj)).trans (findWhen_pure _ _))
      ((congrArg _ (funext hl.email)).trans (findWhen_pure _ _)) (fun _ => rfl) hupd
  have hcpf := update_cpfCnpj_iff hr hold command.cpfCnpj
  have hemail : (((some command.email).filter (· ≠ old.email)).bind fun v =>
      m.customers.first fun c => c.email = v).any (·.customerId ≠ command.customerId) = true ↔
        Other m.customers command.customerId fun c => c.email = command.email :=
    update_email_iff hr hold command.email id fun _ _ h => congrArg (casefold T) h
  have htwin := update_email_iff hr hold command.email (casefold T) fun _ _ h => h
  have hend : SameRecords
      { m with
        customers := (m.customers.put (command.customerId, new)).put (new.customerId, new) }
      { t with customers := t.customers.put (customerToRow new) } := by
    rw [← hid, show old.customerId = new.customerId from rfl, IdDict.put_put]
    exact hs.putCustomer hr.customersFiled new
  rw [hmem, hsql]
  refine (agree_verdict ?_ _ _ _ hs hend).congr ?_
  · rw [hemail, htwin]
    intro h
    obtain ⟨e, he, hne, heq⟩ := h
    exact ⟨e, he, hne, congrArg (casefold T) heq⟩
  · rw [hcpf, hemail, htwin]
    rw [show new.customerId = command.customerId from hid] at hclash
    exact clash_of_rest hclash

/-- Nobody has the email, or it is exactly that of the user who does. -/
theorem register_hashed (hiso : IsoRoundTrip T) (hasher : PasswordHasher) (hs : SameRecords m t)
    (hr : Registered m) (command : RegisterAdminUserCommand) (salt : String)
    (g : Generated T) (hnew : m.users.value g.uuid = none) {passwordHash : String}
    (hhash : hasher.hashPassword command.password salt = .ok passwordHash) :
    Agree (inMemory hasher m (.registerAdminUser command salt g : RegistryCall T Tok))
      (inSql hasher t (.registerAdminUser command salt g))
      ((∃ u ∈ m.users.values, u.email = command.email) ∨
        ¬ ∃ u ∈ m.users.values, casefold T u.email = casefold T command.email) := by
  have hl := lookups hiso hs hr
  let new := RegisterAdminUserUseCase.user command passwordHash g
  have hclash := user_clash_iff hs.users hr.usersFiled new
  have hsave : sqlAlchemyAdminUserRepository.save new t.users =
      if t.users.Clash userUnique (userToRow new) then .error .integrityError
      else .ok (t.users.put (userToRow new)) :=
    hs.users.insert hr.usersFiled (fun _ => rfl) userUnique hnew
  have hmem : inMemory hasher m (.registerAdminUser command salt g : RegistryCall T Tok) = _ :=
    registerAdminUser_verdict memoryBackend hasher m (D := False) command salt g rfl hhash rfl
  have hsql : inSql hasher t (.registerAdminUser command salt g : RegistryCall T Tok) = _ :=
    registerAdminUser_verdict sqlBackend hasher t command salt g (hl.user _) hhash hsave
  have hend : SameRecords { m with users := m.users.put (new.userId, new) }
      { t with users := t.users.put (userToRow new) } :=
    { hs with users := hs.users.put hr.usersFiled (fun _ => rfl) new }
  rw [hmem, hsql]
  refine (agree_verdict ?_ _ _ _ hs hend).congr ?_
  · simp only [first_isSome_iff, decide_eq_true_eq]
    intro h
    obtain ⟨u, hu, he⟩ := h
    exact ⟨u, hu, congrArg (casefold T) he⟩
  · simp only [first_isSome_iff, decide_eq_true_eq, false_or]
    rw [other_iff_of_new (show m.users.value new.userId = none from hnew)] at hclash
    rw [hclash]
    show (_ ∨ _) ↔ (∃ u, u ∈ m.users.values ∧ u.email = command.email) ∨ (_ ∧ ¬ ∃ u, u ∈
      m.users.values ∧ u.email = command.email)
    by_cases hE : ∃ u, u ∈ m.users.values ∧ u.email = command.email
    · simp only [hE, true_or]
    · simp only [hE, false_or, not_false_eq_true, and_true]

theorem register_agree (hiso : IsoRoundTrip T) (hasher : PasswordHasher) (hs : SameRecords m t)
    (hr : Registered m) (command : RegisterAdminUserCommand) (salt : String)
    (g : Generated T) (hnew : m.users.value g.uuid = none) :
    Agree (inMemory hasher m (.registerAdminUser command salt g : RegistryCall T Tok))
      (inSql hasher t (.registerAdminUser command salt g))
      (AgreesOn hasher m (.registerAdminUser command salt g : RegistryCall T Tok)) := by
  cases hhash : hasher.hashPassword command.password salt with
  | ok passwordHash =>
    refine (register_hashed hiso hasher hs hr command salt g hnew hhash).congr ?_
    simp only [AgreesOn, hhash, reduceCtorEq, exists_false, or_false]
  | error e =>
    have hmem : inMemory hasher m (.registerAdminUser command salt g : RegistryCall T Tok) = _ :=
      registerAdminUser_unhashed memoryBackend hasher m command salt g rfl hhash
    have hsql : inSql hasher t (.registerAdminUser command salt g : RegistryCall T Tok) = _ :=
      registerAdminUser_unhashed sqlBackend hasher t command salt g ((lookups hiso hs hr).user _)
        hhash
    rw [hmem, hsql]
    refine (agree_unhashed ?_ _ _ hs).congr ?_
    · simp only [first_isSome_iff, decide_eq_true_eq]
      intro h
      obtain ⟨u, hu, he⟩ := h
      exact ⟨u, hu, congrArg (casefold T) he⟩
    · simp only [AgreesOn, hhash, first_isSome_iff, decide_eq_true_eq, Except.error.injEq]

omit [Runtime T] in
/-- Two users with one casefolded email are the same. -/
theorem user_of_email (hr : Registered m) {u v : AdminUser T} (hu : u ∈ m.users.values)
    (hv : v ∈ m.users.values) (h : casefold T u.email = casefold T v.email) : u = v := by
  obtain ⟨i, hi⟩ := IdDict.mem_values.mp hu
  obtain ⟨j, hj⟩ := IdDict.mem_values.mp hv
  have hk : i = j := hr.users _ (List.mem_cons_self ..) (i, u) hi (j, v) hj _
    (congrArg some h) rfl
  subst hk
  exact congrArg Prod.snd (Keyed.eq_of_key hi hj rfl)

omit [Runtime T] in
/-- The first user with exactly the email is the first with it in any
capitals. -/
theorem first_twin (hr : Registered m) {email : String}
    (hE : ∃ u ∈ m.users.values, u.email = email) :
    (m.users.first fun u => casefold T u.email = casefold T email) =
      m.users.first fun u => u.email = email := by
  obtain ⟨w, hw, hwe⟩ := hE
  obtain ⟨v, hv, hvm, hve⟩ := IdDict.first_of_mem (fun u => decide (u.email = email))
    hw (decide_eq_true hwe)
  have hve := of_decide_eq_true hve
  obtain ⟨u, hu, hum, hue⟩ := IdDict.first_of_mem
    (fun u => decide (casefold T u.email = casefold T email)) hvm (decide_eq_true (congrArg _ hve))
  have huv : u = v := user_of_email hr hum hvm (by rw [hve, of_decide_eq_true hue])
  rw [hu, hv, huv]

omit [Runtime T] [Casefold T] in
theorem granted_none {hasher : PasswordHasher} {password : String}
    {createToken : String → String → Tok} {found : Option (AdminUser T)}
    (h : ∀ u, found = some u → hasher.verifyPassword password u.passwordHash = .ok false) :
    granted hasher password createToken found = .ok none := by
  cases found with
  | none => rfl
  | some u => rw [granted, h u rfl]; rfl

/-- The outcome of a login. -/
def loginOutcome (T : Type) (x : Except PyError (Option Tok)) : CallOutcome T Tok :=
  (x.map RegistryReply.token).mapError fun e => errorKind (.py e)

omit [Runtime T] in
/-- The two lookups lead to the same outcome when the exact one finds somebody,
or the other finds nobody but one whose password is refused. -/
theorem loginOutcome_eq_iff (hr : Registered m) (hasher : PasswordHasher) (password email : String)
    (createToken : String → String → Tok) :
    loginOutcome T (granted hasher password createToken
        (m.users.first fun u => casefold T u.email = casefold T email)) =
      loginOutcome T (granted hasher password createToken
        (m.users.first fun u => u.email = email)) ↔
    (∃ u ∈ m.users.values, u.email = email) ∨
      ¬ ∃ u ∈ m.users.values, casefold T u.email = casefold T email ∧
        hasher.verifyPassword password u.passwordHash ≠ .ok false := by
  constructor
  · intro heq
    by_contra hno
    obtain ⟨hE, hN⟩ := not_or.mp hno
    obtain ⟨u, hum, hue, hver⟩ := Classical.not_not.mp hN
    have hnone : granted hasher password createToken (m.users.first fun u => u.email = email) =
        .ok none := granted_none fun v hv =>
      absurd ⟨v, List.mem_of_find?_eq_some hv, by simpa using List.find?_some hv⟩ hE
    obtain ⟨v, hv, hvm, hve⟩ := IdDict.first_of_mem
      (fun u => decide (casefold T u.email = casefold T email)) hum (decide_eq_true hue)
    have hvu : v = u := user_of_email hr hvm hum (by rw [hue, of_decide_eq_true hve])
    rw [hnone, hv, hvu, granted] at heq
    cases hverify : hasher.verifyPassword password u.passwordHash with
    | error e => rw [hverify] at heq; cases heq
    | ok verified =>
      cases verified with
      | true => rw [hverify] at heq; cases heq
      | false => exact hver hverify
  · intro h
    rcases h with hE | hN
    · rw [first_twin hr hE]
    · have refused : ∀ {p : AdminUser T → Bool}, (∀ u, p u = true →
          casefold T u.email = casefold T email) →
          granted hasher password createToken (m.users.first p) = .ok none := fun hp =>
        granted_none fun u hu => Classical.not_not.mp fun hver =>
          hN ⟨u, List.mem_of_find?_eq_some hu, hp u (List.find?_some hu), hver⟩
      rw [refused fun u hu => by simpa using hu,
        refused fun u hu => congrArg (casefold T) (by simpa using hu)]

omit [Runtime T] [Casefold T] in
/-- A login by what its lookup finds. -/
theorem loginAdminUser_ends (b : Backend T κ ν υ) (hasher : PasswordHasher) (s : Stores κ ν υ)
    (command : LoginAdminUserCommand) (createToken : String → String → Tok)
    {found : Option (AdminUser T)} (hf : b.users.findByEmail command.email s.users = .ok found) :
    callOutcome (((.loginAdminUser command createToken : RegistryCall T Tok).run b hasher).run s) =
        loginOutcome T (granted hasher command.password createToken found) ∧
      callEnd (((.loginAdminUser command createToken : RegistryCall T Tok).run b hasher).run s) =
        s := by
  simp only [RegistryCall.run, map_run, loginAdminUser_asks, ask_run, hf, found_bind]
  cases granted hasher command.password createToken found <;> exact ⟨rfl, rfl⟩

theorem login_agree (hiso : IsoRoundTrip T) (hasher : PasswordHasher) (hs : SameRecords m t)
    (hr : Registered m) (command : LoginAdminUserCommand)
    (createToken : String → String → Tok) :
    Agree (inMemory hasher m (.loginAdminUser command createToken : RegistryCall T Tok))
      (inSql hasher t (.loginAdminUser command createToken))
      (AgreesOn hasher m (.loginAdminUser command createToken : RegistryCall T Tok)) := by
  obtain ⟨hm, hme⟩ := loginAdminUser_ends memoryBackend hasher m command createToken rfl
  obtain ⟨ht, hte⟩ := loginAdminUser_ends sqlBackend hasher t command createToken
    ((lookups hiso hs hr).user command.email)
  have hiff := loginOutcome_eq_iff hr hasher command.password command.email createToken
  constructor
  · intro hC
    rw [inMemory, inSql, hm, hme, ht, hte]
    exact ⟨hiff.mpr hC, hs⟩
  · intro hC heq
    rw [inMemory, inSql, hm, ht] at heq
    exact hC (hiff.mp heq)

theorem get_agree (hiso : IsoRoundTrip T) (hasher : PasswordHasher) (hs : SameRecords m t)
    (hr : Registered m) (customerId : String) :
    Agree (inMemory hasher m (.getCustomer customerId : RegistryCall T Tok))
      (inSql hasher t (.getCustomer customerId)) True := by
  have hget : sqlBackend.customers.get customerId t.customers =
      memoryBackend.customers.get customerId m.customers := (lookups hiso hs hr).get customerId
  refine ⟨fun _ => ?_, fun h => absurd trivial h⟩
  simp only [inMemory, inSql, RegistryCall.run, map_run, GetCustomerUseCase.execute, ask_run, hget]
  cases memoryBackend.customers.get customerId m.customers <;> exact ⟨rfl, hs⟩

theorem delete_agree (hasher : PasswordHasher) (hs : SameRecords m t) (hr : Registered m)
    (customerId : String) :
    Agree (inMemory hasher m (.deleteCustomer customerId : RegistryCall T Tok))
      (inSql hasher t (.deleteCustomer customerId)) True := by
  have hdel : (t.customers.find customerId).isSome = (m.customers.value customerId).isSome := by
    rw [hs.customers.find hr.customersFiled (fun _ => rfl), Option.isSome_map]
  refine ⟨fun _ => ⟨?_, ?_⟩, fun h => absurd trivial h⟩
  · exact congrArg (fun b => Except.ok (RegistryReply.deleted b)) hdel.symm
  · exact { hs with customers := hs.customers.erase hr.customersFiled (fun _ => rfl) customerId }

/-! ## Runs -/

/-- The calls on customers and admin users. -/
def IsAccount : RegistryCall T Tok → Prop
  | .createCustomer .. | .updateCustomer .. | .deleteCustomer _ | .getCustomer _
  | .registerAdminUser .. | .loginAdminUser .. => True
  | _ => False

/-- The generated uuid is the id of no stored record. -/
def IsNew (m : MemoryStores T) (t : SqlStores) : RegistryCall T Tok → Prop
  | .createCustomer _ g => m.customers.value g.uuid = none ∧ t.customers.find g.uuid = none
  | .registerAdminUser _ _ g => m.users.value g.uuid = none ∧ t.users.find g.uuid = none
  | _ => True

/-- What one call does in both modes. -/
theorem call_agree (hiso : IsoRoundTrip T) (hasher : PasswordHasher) (hs : SameRecords m t)
    (hr : Registered m) (l : RegistryCall T Tok) (ha : IsAccount l) (hn : IsNew m t l) :
    Agree (inMemory hasher m l) (inSql hasher t l) (AgreesOn hasher m l) := by
  cases l with
  | createCustomer command g => exact create_agree hiso hasher hs hr command g hn.1
  | updateCustomer command now =>
    cases hv : m.customers.value command.customerId with
    | some old =>
      refine (update_agree hiso hasher hs hr command now hv).congr ?_
      simp only [AgreesOn, hv, reduceCtorEq, false_or]
    | none =>
      have hget : memoryBackend.customers.get command.customerId m.customers =
          .error (customerNotFound command.customerId) := by
        simp only [memoryBackend, inMemoryCustomerRepository, IdDict.get, hv]
      have hget' : sqlBackend.customers.get command.customerId t.customers =
          .error (customerNotFound command.customerId) :=
        ((lookups hiso hs hr).get _).trans hget
      refine ⟨fun _ => ?_, fun h => absurd (.inl hv) h⟩
      simp only [inMemory, inSql, RegistryCall.run, map_run, updateCustomer_run,
        UpdateCustomerUseCase.check, hget, hget', bind, Except.bind]
      exact ⟨rfl, hs⟩
  | deleteCustomer customerId => exact delete_agree hasher hs hr customerId
  | getCustomer customerId => exact get_agree hiso hasher hs hr customerId
  | registerAdminUser command salt g => exact register_agree hiso hasher hs hr command salt g hn.1
  | loginAdminUser command createToken => exact login_agree hiso hasher hs hr command createToken
  | _ => exact ha.elim

/-- What both modes keep, and the outcomes of the calls in both. -/
structure Modes (T Tok : Type) where
  memory : MemoryStores T
  real : SqlStores
  outcomes : List (CallOutcome T Tok × CallOutcome T Tok)

def Modes.start : Modes T Tok := ⟨emptyMemory, emptyTables, []⟩

def Modes.next (hasher : PasswordHasher) (s : Modes T Tok) (l : RegistryCall T Tok) :
    Modes T Tok where
  memory := callEnd (inMemory hasher s.memory l)
  real := callEnd (inSql hasher s.real l)
  outcomes := s.outcomes ++
    [(callOutcome (inMemory hasher s.memory l), callOutcome (inSql hasher s.real l))]

def modesLts (T Tok : Type) [Runtime T] [Casefold T] (hasher : PasswordHasher) :
    Lts (Modes T Tok) (RegistryCall T Tok) where
  init s := s = .start
  step s l s' := (IsAccount l ∧ IsNew s.memory s.real l) ∧ s' = s.next hasher l

/-- Every call so far had the same outcome in both modes, and they hold the
same records. -/
structure Agreed (s : Modes T Tok) : Prop where
  outcomes : ∀ p ∈ s.outcomes, p.1 = p.2
  records : SameRecords s.memory s.real

omit [Runtime T] in
theorem next_callEnd (hasher : PasswordHasher) (m : MemoryStores T) (l : RegistryCall T Tok) :
    callEnd (inMemory hasher m l) = RegistryCall.next memoryBackend hasher m l := by
  unfold RegistryCall.next inMemory
  cases (l.run memoryBackend hasher).run m <;> rfl

/-- **When the two modes agree on customers and admin users.** For every finite
sequence of calls from empty stores: each call has the same outcome in both
modes, and they hold the same records, if and only if every call meets
`AgreesOn` in the state it is made in. -/
theorem modes_agree_iff (hiso : IsoRoundTrip T) (hasher : PasswordHasher)
    (ls : List (RegistryCall T Tok)) :
    (modesLts T Tok hasher).Always Agreed .start ls ↔
      (modesLts T Tok hasher).Along (fun s l => AgreesOn hasher s.memory l) .start ls := by
  refine Lts.always_iff_along (I := fun s => Agreed s ∧ Registered s.memory)
    (fun s h => h.1) ?_ ?_ ?_ ls
  · intro s l s' hi hC hstep
    obtain ⟨⟨ha, hn⟩, rfl⟩ := hstep
    obtain ⟨ho, hs⟩ := (call_agree hiso hasher hi.1.records hi.2 l ha hn).same hC
    refine ⟨⟨fun p hp => ?_, hs⟩, ?_⟩
    · rcases List.mem_append.mp hp with hp | hp
      · exact hi.1.outcomes p hp
      · rw [List.mem_singleton.mp hp]; exact ho
    · show Registered (callEnd (inMemory hasher s.memory l))
      rw [next_callEnd]; exact next_registered hasher hi.2 l
  · intro s l s' hi hC hstep hP
    obtain ⟨⟨ha, hn⟩, rfl⟩ := hstep
    have hd := (call_agree hiso hasher hi.1.records hi.2 l ha hn).differ hC
    exact hd (hP.outcomes _ (List.mem_append_right _ (List.mem_singleton_self _)))
  · exact ⟨⟨fun p hp => absurd hp List.not_mem_nil, rfl, rfl⟩, registered_empty⟩

end Calls

/-! ## Concrete runs -/

/-- A customer, and a second one with the same email. -/
def exTwice : List (RegistryCall Utc Unit) :=
  [exCreate "customer-1" "ana@example.com" (some ""), exCreate "customer-2" "ana@example.com" none]

def exAna : Customer Utc :=
  CreateCustomerUseCase.customer ⟨"Ana", some "", "ana@example.com", "11999990000", true⟩
    (exGenerated "customer-1")

/-- Both modes store the first, and refuse the second because of it. -/
theorem modes_agree_one :
    (modesLts Utc Unit exHasher).Always Agreed .start exTwice ∧
      ∃ s : Modes Utc Unit, exTwice.foldl (Modes.next exHasher) .start = s ∧
        s.outcomes = [(.ok (.customer exAna), .ok (.customer exAna)),
          (.error .valueError, .error .valueError)] ∧
        s.memory.customers.items = [("customer-1", exAna)] ∧
        s.real.customers.items = [customerToRow exAna] := by
  refine ⟨(modes_agree_iff utc_roundTrip exHasher _).mpr ?_, _, rfl, rfl, rfl, rfl⟩
  refine Lts.along_cons.mpr fun s' hs => ⟨.inr (.inr ⟨?_, ?_⟩), Lts.along_cons.mpr fun _ _ =>
    ⟨?_, Lts.along_nil⟩⟩
  · rintro ⟨e, he, -⟩; cases he
  · rintro ⟨-, e, he, -⟩; cases he
  · rw [show s' = _ from hs.2]
    exact .inr (.inl ⟨("customer-1", exAna), List.mem_cons_self, by decide, rfl⟩)

/-- The same email in capitals: refused in memory, a second customer in the
table. -/
theorem capitals_disagree :
    ¬ (modesLts Utc Unit exHasher).Always Agreed .start
      [exCreate "customer-1" "ana@example.com" none,
       exCreate "customer-2" "ANA@example.com" none] := by
  intro h
  have hend := h _ [] _ (List.append_nil _).symm
    (.cons ⟨⟨trivial, rfl, rfl⟩, rfl⟩ (.cons ⟨⟨trivial, rfl, rfl⟩, rfl⟩ (.nil _)))
  have hlast := hend.outcomes _ (List.mem_append_right _ (List.mem_singleton_self _))
  exact absurd hlast (fun h => by cases h)

end ServiceOrderOs.Runs
