import ServiceOrderOs.Core.Lts
import ServiceOrderOs.L3App.InMemoryRegistries

/-!
# The registries over whole runs

A state is what the three repositories of a backend keep; a label is one call
of a use case with what it generates. A call that raises is a step too, to the
state it leaves.

* `registry_uniqueness`: over the in-memory repositories the columns stay
  unique, every record is under its own id, and a call that raises changes
  nothing.
-/
namespace ServiceOrderOs.Runs
open Core Py Domain App

variable {T Tok κ ν υ : Type}

/-- The stores a call leaves, whether or not it raises. -/
def RegistryCall.next (b : Backend T κ ν υ) (hasher : PasswordHasher) (s : Stores κ ν υ)
    (l : RegistryCall T Tok) : Stores κ ν υ :=
  match (l.run b hasher).run s with
  | .ok _ s' => s'
  | .error _ s' => s'

def registryLts (b : Backend T κ ν υ) (hasher : PasswordHasher) (empty : Stores κ ν υ)
    (Tok : Type) : Lts (Stores κ ν υ) (RegistryCall T Tok) where
  init s := s = empty
  step s l s' := s' = RegistryCall.next b hasher s l

/-- A registration, whether or not it raises, touches the users only. -/
theorem next_register (b : Backend T κ ν υ) (hasher : PasswordHasher) (s : Stores κ ν υ)
    (command : RegisterAdminUserCommand) (salt : String) (g : Generated T) :
    ∃ users, RegistryCall.next b hasher s
      (.registerAdminUser command salt g : RegistryCall T Tok) = { s with users := users } := by
  simp only [RegistryCall.next, RegistryCall.run, map_run, registerAdminUser_run]
  cases RegisterAdminUserUseCase.check b.users command s.users with
  | error e => exact ⟨s.users, rfl⟩
  | ok u =>
    simp only
    cases hasher.hashPassword command.password salt with
    | error e => exact ⟨s.users, rfl⟩
    | ok passwordHash =>
      simp only
      cases b.users.save (RegisterAdminUserUseCase.user command passwordHash g) s.users with
      | error e => exact ⟨s.users, rfl⟩
      | ok users => exact ⟨users, rfl⟩

theorem next_login (b : Backend T κ ν υ) (hasher : PasswordHasher) (s : Stores κ ν υ)
    (command : LoginAdminUserCommand) (createToken : String → String → Tok) :
    RegistryCall.next b hasher s (.loginAdminUser command createToken) = s := by
  simp only [RegistryCall.next, RegistryCall.run, map_run, loginAdminUser_asks, ask_run]
  cases b.users.findByEmail command.email s.users >>=
    granted hasher command.password createToken <;> rfl

/-! ## In memory -/

section Memory
variable [Casefold T]

theorem registered_empty : Registered (T := T) emptyMemory where
  customersFiled := by intro e he; cases he
  vehiclesFiled := by intro e he; cases he
  usersFiled := by intro e he; cases he
  customers := Keyed.unique_empty _
  vehicles := Keyed.unique_empty _
  users := Keyed.unique_empty _

theorem next_registered (hasher : PasswordHasher) {s : MemoryStores T} (h : Registered s)
    (l : RegistryCall T Tok) : Registered (RegistryCall.next memoryBackend hasher s l) := by
  unfold RegistryCall.next
  rcases memory_cases hasher l h with ⟨e, he⟩ | ⟨r, s', hok, hw⟩
  · rw [he]; exact h
  · rw [hok]; exact hw.registered h

theorem registered_inductive (hasher : PasswordHasher) :
    (registryLts memoryBackend hasher emptyMemory Tok).Inductive (Registered (T := T)) where
  init s hs := by rw [hs]; exact registered_empty
  step s l s' h hs := by rw [hs]; exact next_registered hasher h l

/-- **Registry uniqueness.** After every finite sequence of calls over the
in-memory repositories, from empty stores: every record is under its own id,
no two customers have the same casefolded email or the same non-empty
document, no two vehicles the same plate, no two admin users the same
casefolded email; and a call that raises leaves the stores as they were. -/
theorem registry_uniqueness (hasher : PasswordHasher) {s : MemoryStores T}
    (h : (registryLts memoryBackend hasher emptyMemory Tok).Reachable s) :
    Registered s ∧ ∀ (l : RegistryCall T Tok) e s',
      (l.run memoryBackend hasher).run s = .error e s' → s' = s := by
  have hr := (registered_inductive hasher).reachable s h
  refine ⟨hr, fun l e s' he => ?_⟩
  rcases memory_cases hasher l hr with ⟨e₁, h₁⟩ | ⟨r, s₁, hok, -⟩
  · rw [h₁] at he; cases he; rfl
  · rw [hok] at he; cases he

end Memory

/-! ## A concrete run -/

def exTime : Utc := ⟨⟨"2026-01-01T00:00:00+00:00"⟩, by decide⟩

def exGenerated (uuid : String) : Generated Utc := ⟨uuid, exTime, exTime⟩

def exCreate (uuid email : String) (cpfCnpj : Option String) : RegistryCall Utc Unit :=
  .createCustomer ⟨"Ana", cpfCnpj, email, "11999990000", true⟩ (exGenerated uuid)

/-- A password the library takes; 4096 characters is the longest. -/
def exSized {α : Type} (password : String) (a : α) : Except PyError α :=
  if 4096 < password.length then .error (.valueError "password exceeds maximum allowed size")
  else .ok a

/-- A hasher whose hashes are the passwords. -/
def exHasher : PasswordHasher where
  hashPassword password _ := exSized password password
  verifyPassword password passwordHash := exSized password (password == passwordHash)

theorem exHasher_verifies : exHasher.Verifies := by
  intro password salt passwordHash h
  simp only [exHasher, exSized] at h ⊢
  split at h
  · cases h
  · rename_i hsize
    rw [← Except.ok.inj h, beq_self_eq_true, if_neg hsize]

/-- One customer. -/
def exRegistered : MemoryStores Utc :=
  RegistryCall.next memoryBackend exHasher emptyMemory
    (exCreate "customer-1" "ana@example.com" none)

theorem exRegistered_reachable :
    (registryLts memoryBackend exHasher emptyMemory Unit).Reachable exRegistered :=
  ⟨emptyMemory, [exCreate "customer-1" "ana@example.com" none], rfl, .single rfl⟩

/-- The customer is stored, and because of it the same email in capitals is
refused, which changes nothing. -/
theorem registry_uniqueness_capitals :
    Registered exRegistered ∧
      exRegistered.customers.items = [("customer-1", CreateCustomerUseCase.customer
        ⟨"Ana", none, "ana@example.com", "11999990000", true⟩ (exGenerated "customer-1"))] ∧
      ∃ s', ((exCreate "customer-2" "ANA@example.com" none).run memoryBackend exHasher).run
          exRegistered = .error (.py (.valueError "Email already registered")) s' ∧
        s' = exRegistered :=
  ⟨(registry_uniqueness exHasher exRegistered_reachable).1, rfl, exRegistered, rfl,
   (registry_uniqueness exHasher exRegistered_reachable).2
      (exCreate "customer-2" "ANA@example.com" none)
      (.py (.valueError "Email already registered")) _ rfl⟩

end ServiceOrderOs.Runs
