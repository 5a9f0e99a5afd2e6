import ServiceOrderOs.L6Api.Documents

/-!
# The accounts of administrators

A registration answered with 201 makes an account: the user id of the reply,
the email and the password of the request. `learnAccount` keeps these, and
nothing else of the server. A login then has its account's password verified
against the hash that was made at the registration, so it is answered with a
token, refused, or as the library raises.

* `accounts_step`: one request, of whatever client; accounts are added at the
  end, and an email has one.
* `logIn_answered`: the accounts decide every login.
* `registered_for_good`: over whole runs, in both modes.

The emails are those the schemas have made of what was typed. `/auth/token`
reads a form and has no schema: an email that a registration has rewritten is
another one there, and its passwords may be too long for the library.
-/
namespace ServiceOrderOs.Api
open Core Py Domain App Runs

variable {T Tok σ κ ν υ : Type} [Runtime T]

/-! ## What the replies have said -/

structure Account where
  email : String
  password : String

/-- The accounts, under their user ids. -/
def learnAccount (k : IdDict Account) :
    Endpoint T → Except ApiError (Reply Tok) → IdDict Account
  | .register (.valid body) _ _, .ok (.json _ answer) =>
    k.put (textAt "user_id" answer, ⟨body.email, body.password⟩)
  | _, _ => k

/-- The request asks for a token with an email and a password. -/
def Endpoint.LogsIn (body : LoginRequest) (exp : Int) (e : Endpoint T) : Prop :=
  e = .login (.valid body) exp ∨ e = .token (.valid body) exp

/-- The id drawn for a registration is that of no account. -/
def DrawsNew (x : Server T σ κ ν υ × IdDict Account) (r : Request T Tok) : Prop :=
  ∀ body salt g, r.endpoint = .register (.valid body) salt g → x.2.find g.uuid = none

/-- The user that the registration of an account has stored. -/
structure AccountOf (hasher : PasswordHasher) (e : String × Account) (u : AdminUser T) :
    Prop where
  userId : e.1 = u.userId
  email : e.2.email = u.email
  hashed : ∃ salt, hasher.hashPassword e.2.password salt = .ok u.passwordHash

/-- The users are those of the accounts, one for an email. -/
structure Accounted (hasher : PasswordHasher)
    (R : υ → Keyed (AdminUser.userId (T := T)) → Prop) (fold : String → String)
    (s : Server T σ κ ν υ) (k : IdDict Account) (us : Keyed (AdminUser.userId (T := T))) :
    Prop where
  users : R s.stores.users us
  kept : ∀ u ∈ us.items, ∃ e ∈ k.items, AccountOf hasher e u
  known : ∀ e ∈ k.items, ∃ u ∈ us.items, AccountOf hasher e u
  single : ∀ u ∈ us.items, ∀ v ∈ us.items, fold u.email = fold v.email → u = v

/-! ## One request -/

section Step
variable [Casefold T] {app : AppState T Tok σ κ ν υ} {fold : String → String}
  {free : Keyed (AdminUser.userId (T := T)) → AdminUser T → Prop}
  {R : υ → Keyed (AdminUser.userId (T := T)) → Prop} {s : Server T σ κ ν υ}
  {k : IdDict Account} {us : Keyed (AdminUser.userId (T := T))} {hasher : PasswordHasher}

omit [Runtime T] [Casefold T] in
/-- No other call touches the users. -/
theorem next_users {b : Backend T κ ν υ} (hasher : PasswordHasher) (s : Stores κ ν υ)
    {l : RegistryCall T Tok} (hl : ∀ command salt g, l ≠ .registerAdminUser command salt g) :
    (RegistryCall.next b hasher s l).users = s.users := by
  cases l with
  | createCustomer command g =>
    simp only [RegistryCall.next, RegistryCall.run, map_run, createCustomer_run]
    cases CreateCustomerUseCase.check b.customers command s.customers with
    | error e => rfl
    | ok u => simp only; cases b.customers.save _ s.customers <;> rfl
  | updateCustomer command now =>
    simp only [RegistryCall.next, RegistryCall.run, map_run, updateCustomer_run]
    cases UpdateCustomerUseCase.check b.customers command s.customers with
    | error e => rfl
    | ok old => simp only; cases b.customers.update _ _ <;> rfl
  | listCustomers => exact congrArg Stores.users (reads_records .customers _ s)
  | getCustomer customerId => exact congrArg Stores.users (reads_records .customer _ s)
  | deleteCustomer customerId => rfl
  | createVehicle command g =>
    simp only [RegistryCall.next, RegistryCall.run, map_run, createVehicle_run]
    cases CreateVehicleUseCase.check b.vehicles b.customers command s with
    | error e => rfl
    | ok u => simp only; cases b.vehicles.save _ s.vehicles <;> rfl
  | updateVehicle command now =>
    simp only [RegistryCall.next, RegistryCall.run, map_run, updateVehicle_run]
    cases UpdateVehicleUseCase.check b.vehicles b.customers command s with
    | error e => rfl
    | ok old => simp only; cases b.vehicles.update _ _ <;> rfl
  | listVehicles customerId => exact congrArg Stores.users (reads_records .vehicles _ s)
  | getVehicle vehicleId => exact congrArg Stores.users (reads_records .vehicle _ s)
  | deleteVehicle vehicleId => rfl
  | registerAdminUser command salt g => exact absurd rfl (hl command salt g)
  | loginAdminUser command createToken =>
    exact congrArg Stores.users (next_login b hasher s command createToken)

/-- Nor does any other request. -/
theorem served_users {r : Request T Tok}
    (hr : ∀ body salt g, r.endpoint ≠ .register (.valid body) salt g) :
    (served app s r).stores.users = s.stores.users := by
  rcases served_called app s r with hsame | ⟨l, hmakes, hl⟩
  · rw [hsame]
  · rw [hl]
    refine next_users _ _ fun command salt g he => ?_
    subst he
    obtain ⟨credentials, endpoint⟩ := r
    cases endpoint with
    | register body salt' g' =>
      obtain ⟨b, rfl, he⟩ := hmakes
      exact hr b _ _ rfl
    | createCustomer | updateCustomer | createVehicle | updateVehicle =>
      obtain ⟨a, -, he⟩ := hmakes
      cases he
    | _ => cases hmakes

/-- A registration, by what is found under its email, what becomes of its
password and what the save returns. -/
theorem register_run (credentials : Option (HTTPAuthorizationCredentials Tok))
    (body : RegisterRequest) (salt : String) (g : Generated T) {found : Option (AdminUser T)}
    (hfound : app.registries.users.findByEmail body.email s.stores.users = .ok found) :
    (handle app ⟨credentials, .register (.valid body) salt g⟩).run s =
      if found.isSome then .error (.route (.http 409 "Email already registered")) s
      else match app.passwordHasher.hashPassword body.password salt with
        | .error e => .error (.route (valueErrorAs409 e)) s
        | .ok passwordHash =>
          match app.registries.users.save ⟨body.email, passwordHash, g.uuid, g.createdAt⟩
            s.stores.users with
          | .ok users => .ok (.json 201 (.obj [("user_id", .str g.uuid)]))
              { s with stores := { s.stores with users := users } }
          | .error (.py e) => .error (.route (valueErrorAs409 e)) s
          | .error .integrityError => .error .integrityError s := by
  show EStateM.run (do return Reply.json 201 (← onStores (Api.register app.registries.users
    app.passwordHasher body salt g))) s = _
  rw [EStateM.run_bind, onStores_run, register, map_run, respond_run, registerAdminUser_run]
  simp only [RegisterAdminUserUseCase.check, hfound, found_bind]
  cases found with
  | some u => rfl
  | none =>
    simp only [Option.isSome_none, raiseIf, Bool.false_eq_true, if_false,
      RegisterAdminUserUseCase.user]
    cases app.passwordHasher.hashPassword body.password salt with
    | error e => rfl
    | ok passwordHash =>
      simp only
      cases app.registries.users.save ⟨body.email, passwordHash, g.uuid, g.createdAt⟩
          s.stores.users with
      | ok users => rfl
      | error e => cases e <;> rfl

omit [Runtime T] [Casefold T] in
theorem Accounted.find_none (h : Accounted hasher R fold s k us) {id : String} :
    us.find id = none ↔ k.find id = none := by
  rw [Keyed.find_none, Keyed.find_none]
  constructor
  · intro hno e he hid
    obtain ⟨u, hu, ha⟩ := h.known e he
    exact hno u hu (ha.userId.symm.trans hid)
  · intro hno u hu hid
    obtain ⟨e, he, ha⟩ := h.kept u hu
    exact hno e he (ha.userId.trans hid)

omit [Runtime T] [Casefold T] in
theorem Accounted.put (h : Accounted hasher R fold s k us) {e : String × Account}
    {u : AdminUser T} (ha : AccountOf hasher e u) {users : υ} (hR : R users (us.put u))
    (hnew : us.find u.userId = none) (hemail : ∀ v ∈ us.items, fold v.email ≠ fold u.email) :
    Accounted hasher R fold { s with stores := { s.stores with users := users } } (k.put e)
        (us.put u) ∧
      k.items <+: (k.put e).items := by
  have hk : k.find e.1 = none := by rw [ha.userId]; exact h.find_none.mp hnew
  refine ⟨⟨hR, fun v hv => ?_, fun e' he' => ?_, fun v hv w hw he => ?_⟩, ?_⟩
  · rcases Keyed.mem_put.mp hv with rfl | ⟨hv', -⟩
    · exact ⟨e, Keyed.mem_put.mpr (.inl rfl), ha⟩
    · obtain ⟨e', he', ha'⟩ := h.kept v hv'
      exact ⟨e', Keyed.mem_put.mpr (.inr ⟨he', Keyed.find_none.mp hk e' he'⟩), ha'⟩
  · rcases Keyed.mem_put.mp he' with rfl | ⟨he', -⟩
    · exact ⟨u, Keyed.mem_put.mpr (.inl rfl), ha⟩
    · obtain ⟨v, hv, ha'⟩ := h.known e' he'
      exact ⟨v, Keyed.mem_put.mpr (.inr ⟨hv, Keyed.find_none.mp hnew v hv⟩), ha'⟩
  · rcases Keyed.mem_put.mp hv with rfl | ⟨hv', -⟩ <;>
      rcases Keyed.mem_put.mp hw with rfl | ⟨hw', -⟩
    · rfl
    · exact absurd he.symm (hemail w hw')
    · exact absurd he (hemail v hv')
    · exact h.single v hv' w hw' he
  · have hno : e.1 ∉ k.items.map Prod.fst := fun hmem => by
      obtain ⟨e', he', hid⟩ := List.mem_map.mp hmem
      exact Keyed.find_none.mp hk e' he' hid
    simp only [Keyed.put, if_neg hno]
    exact List.prefix_append _ _

/-- **One request.** A registration that is answered adds an account at the
end; nothing else does anything to the accounts. -/
theorem accounts_step (hkeeps : app.registries.users.Keeps fold free R)
    (h : Accounted app.passwordHasher R fold s k us) (r : Request T Tok)
    (hfree : ∀ body salt g passwordHash, r.endpoint = .register (.valid body) salt g →
      free us ⟨body.email, passwordHash, g.uuid, g.createdAt⟩) :
    ∃ us', Accounted app.passwordHasher R fold (served app s r)
        (learnAccount k r.endpoint (reply app s r)) us' ∧
      k.items <+: (learnAccount k r.endpoint (reply app s r)).items := by
  obtain ⟨credentials, endpoint⟩ := r
  by_cases hreg : ∃ body salt g, endpoint = .register (.valid body) salt g
  · obtain ⟨body, salt, g, rfl⟩ := hreg
    have hrun := register_run credentials body salt g (hkeeps.find _ _ body.email h.users)
    rw [served, reply, hrun]
    split
    · exact ⟨us, h, List.prefix_rfl⟩
    rename_i hnone
    cases hhash : app.passwordHasher.hashPassword body.password salt with
    | error e => exact ⟨us, h, List.prefix_rfl⟩
    | ok passwordHash =>
      simp only
      cases hs : app.registries.users.save ⟨body.email, passwordHash, g.uuid, g.createdAt⟩
          s.stores.users with
      | error e => cases e <;> exact ⟨us, h, List.prefix_rfl⟩
      | ok users =>
        obtain ⟨hR, hnew⟩ := hkeeps.save _ _ _ _ h.users (hfree body salt g _ rfl) hs
        exact ⟨_, h.put (e := (g.uuid, ⟨body.email, body.password⟩)) ⟨rfl, rfl, salt, hhash⟩ hR
          hnew fun v hv => by
            simpa using List.find?_eq_none.mp (Option.not_isSome_iff_eq_none.mp hnone) v hv⟩
  · have hother : ∀ body salt g, endpoint ≠ .register (.valid body) salt g :=
      fun body salt g he => hreg ⟨body, salt, g, he⟩
    have hlearn : learnAccount k endpoint (reply app s ⟨credentials, endpoint⟩) = k := by
      cases endpoint with
      | register body salt g =>
        cases body with
        | valid b => exact absurd rfl (hother b salt g)
        | _ => rfl
      | _ => rfl
    rw [hlearn]
    refine ⟨us, ⟨?_, h.kept, h.known, h.single⟩, List.prefix_rfl⟩
    rw [served_users hother]
    exact h.users

end Step

/-! ## Logins -/

/-- The library takes a token made with the service's own key: until it
expires, if the key is one for the algorithm. -/
def Accepted (jose : Jose Tok) (settings : Settings) (exp : Int) : Prop :=
  ∀ userId email, jose.decode (AdminJwtService.createToken jose settings exp userId email)
    settings.jwtSecret settings.jwtAlgorithm settings.jwtIssuer =
      some (adminPayload settings userId email exp)

/-- The reply to a login under an account's email, by what the library makes of
the password. -/
def loginReply (verified : Except PyError Bool) (token : Tok) : Except ApiError (Reply Tok) :=
  match verified with
  | .error e => .error (.route (.unhandled e))
  | .ok false => .error (.route (.http 401 "Invalid credentials"))
  | .ok true => .ok (.accessToken token)

section Logins
variable [Casefold T] (app : AppState T Tok σ κ ν υ) (fold : String → String)
  (s : Server T σ κ ν υ) (k : IdDict Account)

/-- Who gives the email and the password of an account is answered with a token
of it, which makes an administrator under the account's user id. Another
password is put to the library with the account's hash, which decides; and
under another email there is no token. -/
structure LogsInAccounts : Prop where
  own : ∀ (r : Request T Tok) body exp userId a, r.endpoint.LogsIn body exp →
    (userId, a) ∈ k.items → fold a.email = fold body.email → a.password = body.password →
    reply app s r =
      .ok (.accessToken (AdminJwtService.createToken app.jose app.settings exp userId a.email))
  decided : ∀ (r : Request T Tok) body exp userId a, r.endpoint.LogsIn body exp →
    (userId, a) ∈ k.items → fold a.email = fold body.email →
    ∃ salt passwordHash, app.passwordHasher.hashPassword a.password salt = .ok passwordHash ∧
      reply app s r = loginReply (app.passwordHasher.verifyPassword body.password passwordHash)
        (AdminJwtService.createToken app.jose app.settings exp userId a.email)
  unknown : ∀ (r : Request T Tok) body exp, r.endpoint.LogsIn body exp →
    (∀ e ∈ k.items, fold e.2.email ≠ fold body.email) →
    reply app s r = .error (.route (.http 401 "Invalid credentials"))
  admin : ∀ exp, Accepted app.jose app.settings exp → ∀ userId email scheme, userId ≠ "" →
    casefold T scheme = "bearer" → ∃ p,
      currentPrincipal app (some ⟨scheme,
        AdminJwtService.createToken app.jose app.settings exp userId email⟩) = .ok p ∧
      p.isAdmin = true ∧ p.subject = userId

variable {app fold s k} {free : Keyed (AdminUser.userId (T := T)) → AdminUser T → Prop}
  {R : υ → Keyed (AdminUser.userId (T := T)) → Prop} {us : Keyed (AdminUser.userId (T := T))}
  {hasher : PasswordHasher}

/-- A token of the service's own resolves to an administrator, whatever the
customer verifier is set to. -/
theorem createToken_admin (laws : JoseLaws app.jose) {exp : Int}
    (hacc : Accepted app.jose app.settings exp) {userId email scheme : String}
    (hid : userId ≠ "") (hscheme : casefold T scheme = "bearer") :
    ∃ p, currentPrincipal app (some ⟨scheme,
        AdminJwtService.createToken app.jose app.settings exp userId email⟩) = .ok p ∧
      p.isAdmin = true ∧ p.subject = userId := by
  have hd := hacc userId email
  have hrole : (adminPayload app.settings userId email exp).get? "role" = some (.str "admin") :=
    rfl
  have huser : truthyItem (adminPayload app.settings userId email exp) "user_id" =
      some (.str userId) := by
    simp [truthyItem, adminPayload, Json.truthy, hid]
  have hcustomer : verifyCustomerToken T app.jose app.settings
      (AdminJwtService.createToken app.jose app.settings exp userId email) = none := by
    cases hc : verifyCustomerToken T app.jose app.settings _ with
    | none => rfl
    | some principal =>
      obtain ⟨-, payload, _, _, hd', hrole', -⟩ := verifyCustomerToken_some hc
      obtain ⟨-, rfl⟩ := laws.one hd hd'
      rw [hrole] at hrole'
      exact absurd (Json.str.inj (Option.some.inj hrole')) (by decide)
  have hresolve : resolvePrincipal T app.jose app.settings
      (AdminJwtService.createToken app.jose app.settings exp userId email) =
      some ⟨userId, "admin", none, some (.str app.settings.jwtIssuer),
        adminPayload app.settings userId email exp⟩ := by
    rw [resolvePrincipal, hcustomer, Option.none_or]
    simp only [verifyAdminToken, hd, hrole, huser, Option.some_or, Json.toStr_str]
    rfl
  refine ⟨⟨userId, "admin", none, some (.str app.settings.jwtIssuer),
    adminPayload app.settings userId email exp⟩, ?_, rfl, rfl⟩
  simp only [currentPrincipal, getCurrentPrincipal, hscheme, ne_eq, not_true_eq_false, if_false,
    hresolve]

omit [Runtime T] [Casefold T] in
/-- The first user with an email is the only one. -/
theorem Accounted.find (h : Accounted hasher R fold s k us) {u : AdminUser T} (hu : u ∈ us.items)
    {email : String} (hemail : fold u.email = fold email) :
    us.items.find? (fun v => fold v.email = fold email) = some u := by
  cases hf : us.items.find? fun v => fold v.email = fold email with
  | none => exact absurd hemail (by simpa using List.find?_eq_none.mp hf u hu)
  | some v =>
    have hv : fold v.email = fold email := by simpa using List.find?_some hf
    rw [h.single v (List.mem_of_find?_eq_some hf) u hu (hv.trans hemail.symm)]

/-- A login by what is found under its email. -/
theorem reply_logIn {r : Request T Tok} {body : LoginRequest} {exp : Int}
    (hr : r.endpoint.LogsIn body exp) {found : Option (AdminUser T)}
    (hfound : app.registries.users.findByEmail body.email s.stores.users = .ok found) :
    reply app s r = found.elim (.error (.route (.http 401 "Invalid credentials"))) fun u =>
      loginReply (app.passwordHasher.verifyPassword body.password u.passwordHash)
        (AdminJwtService.createToken app.jose app.settings exp u.userId u.email) := by
  have hroute : reply app s r = (outcome ((loginRoute app (.valid body) exp).run s)).1 := by
    obtain ⟨credentials, endpoint⟩ := r
    rcases hr with rfl | rfl <;> rfl
  rw [hroute, loginRoute_run, hfound]
  cases found with
  | none => rfl
  | some u =>
    simp only [found_bind, granted, Option.elim]
    cases app.passwordHasher.verifyPassword body.password u.passwordHash with
    | error e => rfl
    | ok verified => cases verified <;> rfl

/-- **The accounts decide every login.** -/
theorem logIn_answered (laws : JoseLaws app.jose) (hverifies : app.passwordHasher.Verifies)
    (hkeeps : app.registries.users.Keeps fold free R)
    (h : Accounted app.passwordHasher R fold s k us) : LogsInAccounts app fold s k := by
  have answered : ∀ {r : Request T Tok} {body exp userId a}, r.endpoint.LogsIn body exp →
      (userId, a) ∈ k.items → fold a.email = fold body.email →
      ∃ salt passwordHash, app.passwordHasher.hashPassword a.password salt = .ok passwordHash ∧
        reply app s r = loginReply (app.passwordHasher.verifyPassword body.password passwordHash)
          (AdminJwtService.createToken app.jose app.settings exp userId a.email) := by
    intro r body exp userId a hr ha hemail
    obtain ⟨u, hu, hid, he, salt, hhash⟩ := h.known _ ha
    have hid : userId = u.userId := hid
    have he : a.email = u.email := he
    have hfound := hkeeps.find _ _ body.email h.users
    rw [h.find hu (he ▸ hemail)] at hfound
    refine ⟨salt, u.passwordHash, hhash, ?_⟩
    rw [hid, he]
    exact reply_logIn hr hfound
  refine ⟨fun r body exp userId a hr ha hemail hpassword => ?_,
    fun r body exp userId a hr ha hemail => answered hr ha hemail, fun r body exp hr hno => ?_,
    fun exp hacc userId email scheme hid hscheme => createToken_admin laws hacc hid hscheme⟩
  · obtain ⟨salt, passwordHash, hhash, hreply⟩ := answered hr ha hemail
    rw [hreply, ← hpassword, hverifies _ _ _ hhash]
    rfl
  · have hfound := hkeeps.find _ _ body.email h.users
    rw [List.find?_eq_none.mpr fun u hu => ?_] at hfound
    · exact reply_logIn hr hfound
    · obtain ⟨e, he, ha⟩ := h.kept u hu
      rw [← ha.email]
      simpa using hno e he

end Logins

/-! ## Whole runs -/

section Runs
variable [Casefold T] {app : AppState T Tok σ κ ν υ} {fold : String → String}
  {free : Keyed (AdminUser.userId (T := T)) → AdminUser T → Prop}
  {R : υ → Keyed (AdminUser.userId (T := T)) → Prop} {start : Server T σ κ ν υ}
  {C : Server T σ κ ν υ × IdDict Account → Request T Tok → Prop}

/-- Along a run whose registrations the adapter may take. -/
theorem accounts_runs (laws : JoseLaws app.jose) (hverifies : app.passwordHasher.Verifies)
    (hkeeps : app.registries.users.Keeps fold free R) (hstart : R start.stores.users .empty)
    (hfree : ∀ s k us (r : Request T Tok), Accounted app.passwordHasher R fold s k us →
      C (s, k) r → ∀ body salt g passwordHash, r.endpoint = .register (.valid body) salt g →
        free us ⟨body.email, passwordHash, g.uuid, g.createdAt⟩)
    {ls ls' : List (Request T Tok)} {x y : Server T σ κ ν υ × IdDict Account}
    (hrun : (watchedLts app learnAccount start .empty).Run (start, .empty) ls x)
    (hrun' : (watchedLts app learnAccount start .empty).Run x ls' y)
    (hC : (watchedLts app learnAccount start .empty).Along C (start, .empty) (ls ++ ls')) :
    LogsInAccounts app fold y.1 y.2 ∧ x.2.items <+: y.2.items := by
  have hstep : ∀ x (r : Request T Tok) y,
      (∃ us, Accounted app.passwordHasher R fold x.1 x.2 us) → C x r →
      (watchedLts app learnAccount start .empty).step x r y →
      (∃ us, Accounted app.passwordHasher R fold y.1 y.2 us) ∧ x.2.items <+: y.2.items := by
    intro x r y hi hc hy
    obtain ⟨us, h⟩ := hi
    obtain ⟨us', h', hle⟩ := accounts_step hkeeps h r (hfree _ _ us r h hc)
    rw [show y = _ from hy]
    exact ⟨⟨us', h'⟩, hle⟩
  have hinit : ∃ us, Accounted app.passwordHasher R fold start .empty us :=
    ⟨.empty, hstart, fun u hu => absurd hu List.not_mem_nil,
      fun e he => absurd he List.not_mem_nil, fun u hu => absurd hu List.not_mem_nil⟩
  obtain ⟨hC, hC'⟩ := hC.append hrun
  have grows := fun {x y ls} (h : (watchedLts app learnAccount start .empty).Run x ls y) =>
    h.forward (Q := fun x y => x.2.items <+: y.2.items) (fun _ => List.prefix_rfl)
      (fun _ _ _ => List.IsPrefix.trans) hstep
  obtain ⟨hx, -⟩ := grows hrun hC hinit
  obtain ⟨⟨us, hy⟩, hle⟩ := grows hrun' hC' hx
  exact ⟨logIn_answered laws hverifies hkeeps hy, hle⟩

end Runs

/-- Two clients register. -/
def exJoining : List (Request Utc SymbolicToken) :=
  [exRegister "ana@example.com" "secret123",
   ⟨none, .register (.valid ⟨"rui@example.com", "hunter22"⟩) "salt"
      (Runs.exGenerated "user-3")⟩]

def exJoined : Server Utc (InMemoryServiceOrders Utc) (IdDict (Customer Utc))
    (IdDict (Vehicle Utc)) (IdDict (AdminUser Utc)) × IdDict Account :=
  exJoining.foldl
    (fun x r => (served exApp x.1 r, learnAccount x.2 r.endpoint (reply exApp x.1 r)))
    (emptyMemoryServer, .empty)

end ServiceOrderOs.Api
