import ServiceOrderOs.L4Runs.Registries
import ServiceOrderOs.L6Api.Server

/-!
# The registries of a running server

Whatever a request does to the registries is at most one call of a use case,
made on the stores as they are, so an invariant of the runs of those calls is
one of the server's.

* `served_called`: the call of each request.
* `watchedLts`: the server seen through its replies.
* `memory_registered`: in memory the records stay unique and under their ids.
-/
namespace ServiceOrderOs.Api
open Core Py Domain App

variable {T Tok σ κ ν υ α : Type} [Runtime T]

variable [Casefold T] {app : AppState T Tok σ κ ν υ} {s : Server T σ κ ν υ}

/-- The call that the route of a request makes, its body being valid. -/
def Endpoint.Makes : Endpoint T → RegistryCall T Tok → Prop
  | .register body salt g, l =>
    ∃ b, body = .valid b ∧ l = .registerAdminUser ⟨b.email, b.password⟩ salt g
  | .createCustomer payload g, l => ∃ a, payload = .valid a ∧
      l = .createCustomer ⟨a.name, a.cpfCnpj, a.email, a.phone, a.isActive⟩ g
  | .listCustomers, l => l = .listCustomers
  | .getCustomer customerId, l => l = .getCustomer customerId
  | .updateCustomer customerId payload now, l => ∃ a, payload = .valid a ∧
      l = .updateCustomer ⟨customerId, a.name, a.cpfCnpj, a.email, a.phone, a.isActive⟩ now
  | .deleteCustomer customerId, l => l = .deleteCustomer customerId
  | .createVehicle payload g, l => ∃ a, payload = .valid a ∧
      l = .createVehicle ⟨a.customerId, a.brand, a.model, a.year, a.plate⟩ g
  | .listVehicles customerId, l => l = .listVehicles customerId
  | .getVehicle vehicleId, l => l = .getVehicle vehicleId
  | .updateVehicle vehicleId payload now, l => ∃ a, payload = .valid a ∧
      l = .updateVehicle ⟨vehicleId, a.customerId, a.brand, a.model, a.year, a.plate⟩ now
  | .deleteVehicle vehicleId, l => l = .deleteVehicle vehicleId
  | _, _ => False

/-- The registries of `s'` are those of `s`, or what one of the calls `C` made
of them. -/
def Called (app : AppState T Tok σ κ ν υ) (C : RegistryCall T Tok → Prop)
    (s s' : Server T σ κ ν υ) : Prop :=
  s'.stores = s.stores ∨ ∃ l : RegistryCall T Tok, C l ∧
    s'.stores = Runs.RegistryCall.next app.registries app.passwordHasher s.stores l

variable {C : RegistryCall T Tok → Prop}

omit [Runtime T] [Casefold T] in
theorem guarded_called {deps : Except RouteError AuthenticatedPrincipal} {statusCode : Nat}
    {body : Body α} {route : AuthenticatedPrincipal → α → ApiM T σ κ ν υ Json}
    (hroute : ∀ p a, body = .valid a → Called app C s (outcome ((route p a).run s)).2) :
    Called app C s
      (outcome ((guarded deps statusCode body route : ApiM T σ κ ν υ (Reply Tok)).run s)).2 := by
  rcases guarded_cases (T := T) with ⟨e, he⟩ | ⟨p, a, -, hbody, hrun⟩
  · rw [he]; exact .inl rfl
  · have hcalled := hroute p a hbody
    rw [hrun]
    cases hr : (route p a).run s <;> rw [hr] at hcalled <;> exact hcalled

omit [Runtime T] [Casefold T] in
/-- The `try` around a use case leaves what the call leaves. -/
theorem onStores_called {m : RegistryM κ ν υ α} {l : RegistryCall T Tok}
    {k : α → RegistryReply T Tok} (hC : C l)
    (hl : l.run app.registries app.passwordHasher = k <$> m)
    (errors : PyError → RouteError) (f : α → Json) :
    Called app C s
      (outcome ((onStores (f <$> respond errors m) : ApiM T σ κ ν υ Json).run s)).2 := by
  refine .inr ⟨l, hC, ?_⟩
  rw [onStores_run, map_run, respond_run, Runs.RegistryCall.next, hl, map_run]
  cases m.run s.stores with
  | ok a s' => rfl
  | error e s' => cases e <;> rfl

omit [Runtime T] [Casefold T] in
theorem deletion_called {m : RegistryM κ ν υ Bool} {l : RegistryCall T Tok} (hC : C l)
    (hl : l.run app.registries app.passwordHasher = .deleted <$> m) :
    Called app C s (outcome ((onStores (do deletedOr404 (← respond .unhandled m)) :
      ApiM T σ κ ν υ Json).run s)).2 := by
  refine .inr ⟨l, hC, ?_⟩
  rw [onStores_run, EStateM.run_bind, respond_run, Runs.RegistryCall.next, hl, map_run]
  cases m.run s.stores with
  | ok deleted s' => cases deleted <;> rfl
  | error e s' => cases e <;> rfl

omit [Runtime T] [Casefold T] in
theorem onService_called (m : ServiceRouteM T σ Json) :
    Called app C s (outcome ((onService m : ApiM T σ κ ν υ Json).run s)).2 := by
  simp only [onService, EStateM.run]
  cases m s.service <;> exact .inl rfl

omit [Runtime T] [Casefold T] in
/-- The reply that is made of a result leaves what the result left. -/
theorem replied_called {m : ApiM T σ κ ν υ α} {f : α → Reply Tok}
    (h : Called app C s (outcome (m.run s)).2) :
    Called app C s (outcome (EStateM.run (do return f (← m)) s)).2 := by
  rw [EStateM.run_bind]
  cases hm : m.run s <;> rw [hm] at h <;> exact h

omit [Runtime T] [Casefold T] in
theorem logIn_called (createToken : String → String → Tok) (email password : String) :
    Called app C s (outcome ((onStores (logIn app.registries.users app.passwordHasher createToken
      email password) : ApiM T σ κ ν υ Tok).run s)).2 := by
  left
  rw [onStores_run, logIn, EStateM.run_bind, respond_run, loginAdminUser_asks, ask_run]
  cases app.registries.users.findByEmail email s.stores.users >>=
      granted app.passwordHasher password createToken with
  | error e => rfl
  | ok token => cases token <;> rfl

omit [Runtime T] [Casefold T] in
/-- What a login finds under the email, and what becomes of the password then,
decides its answer. -/
theorem loginRoute_run (body : LoginRequest) (exp : Int) :
    (loginRoute app (.valid body) exp).run s =
      match app.registries.users.findByEmail body.email s.stores.users >>=
          granted app.passwordHasher body.password
            (AdminJwtService.createToken app.jose app.settings exp) with
      | .error e => .error (.route (.unhandled e)) s
      | .ok none => .error (.route (.http 401 "Invalid credentials")) s
      | .ok (some token) => .ok (.accessToken token) s := by
  show EStateM.run (do return Reply.accessToken (← onStores (logIn app.registries.users
    app.passwordHasher _ body.email body.password))) s = _
  rw [EStateM.run_bind, onStores_run, logIn, EStateM.run_bind, respond_run, loginAdminUser_asks,
    ask_run]
  cases app.registries.users.findByEmail body.email s.stores.users >>=
      granted app.passwordHasher body.password
        (AdminJwtService.createToken app.jose app.settings exp) with
  | error e => rfl
  | ok token => cases token <;> rfl

variable (app s) in
/-- What a request does to the registries is at most one call, which its route
makes. -/
theorem served_called (r : Request T Tok) : Called app r.endpoint.Makes s (served app s r) := by
  have hlogin : ∀ C body exp, Called app C s (outcome ((loginRoute app body exp).run s)).2 := by
    intro C body exp
    cases body with
    | unreadable code => exact .inl rfl
    | invalid => exact .inl rfl
    | valid b => exact replied_called (logIn_called _ b.email b.password)
  obtain ⟨credentials, endpoint⟩ := r
  simp only [served]
  cases endpoint with
  | register body salt g =>
    cases body with
    | unreadable code => exact .inl rfl
    | invalid => exact .inl rfl
    | valid b =>
      exact replied_called
        (onStores_called (l := .registerAdminUser ⟨b.email, b.password⟩ salt g)
          ⟨b, rfl, rfl⟩ rfl _ _)
  | login body exp => exact hlogin _ body exp
  | token form exp => exact hlogin _ form exp
  | validateToken =>
    simp only [handle]
    refine guarded_called fun p _ _ => .inl ?_
    simp only [liftApi, EStateM.run]
    cases validateToken T p <;> rfl
  | createCustomer payload g =>
    simp only [handle]
    exact guarded_called fun _ a ha =>
      onStores_called (l := .createCustomer _ g) ⟨a, ha, rfl⟩ rfl _ _
  | listCustomers =>
    simp only [handle]
    exact guarded_called fun _ _ _ => onStores_called (l := .listCustomers) (by exact rfl) rfl _ _
  | getCustomer customerId =>
    simp only [handle]
    exact guarded_called fun _ _ _ =>
      onStores_called (l := .getCustomer customerId) (by exact rfl) rfl _ _
  | updateCustomer customerId payload now =>
    simp only [handle]
    exact guarded_called fun _ a ha =>
      onStores_called (l := .updateCustomer _ now) ⟨a, ha, rfl⟩ rfl _ _
  | deleteCustomer customerId =>
    simp only [handle]
    exact guarded_called fun _ _ _ => deletion_called (l := .deleteCustomer customerId) rfl rfl
  | createVehicle payload g =>
    simp only [handle]
    exact guarded_called fun _ a ha =>
      onStores_called (l := .createVehicle _ g) ⟨a, ha, rfl⟩ rfl _ _
  | listVehicles customerId =>
    simp only [handle]
    exact guarded_called fun _ _ _ =>
      onStores_called (l := .listVehicles customerId) (by exact rfl) rfl _ _
  | getVehicle vehicleId =>
    simp only [handle]
    exact guarded_called fun _ _ _ =>
      onStores_called (l := .getVehicle vehicleId) (by exact rfl) rfl _ _
  | updateVehicle vehicleId payload now =>
    simp only [handle]
    exact guarded_called fun _ a ha =>
      onStores_called (l := .updateVehicle _ now) ⟨a, ha, rfl⟩ rfl _ _
  | deleteVehicle vehicleId =>
    simp only [handle]
    exact guarded_called fun _ _ _ => deletion_called (l := .deleteVehicle vehicleId) rfl rfl
  | listPublishedEvents =>
    simp only [handle]
    exact guarded_called fun _ _ _ => .inl rfl
  | drainPublishedEvents =>
    simp only [handle]
    exact guarded_called fun _ _ _ => .inl rfl
  | openServiceOrder payload uuid now g =>
    simp only [handle]
    exact guarded_called fun _ _ _ => onService_called _
  | getServiceOrder serviceOrderId =>
    simp only [handle]
    exact guarded_called fun _ _ _ => onService_called _
  | handleSagaEvent serviceOrderId payload eventId occurredAt g g' =>
    simp only [handle]
    exact guarded_called fun _ _ _ => onService_called _

/-! ## What the clients learn -/

section Watched
variable {K : Type} (app) (learn : K → Endpoint T → Except ApiError (Reply Tok) → K)

/-- The server, and what is learnt from the requests and their replies. -/
def watchedLts (start : Server T σ κ ν υ) (k : K) :
    Lts (Server T σ κ ν υ × K) (Request T Tok) where
  init x := x = (start, k)
  step x r y := y = (served app x.1 r, learn x.2 r.endpoint (reply app x.1 r))

variable {app learn} {start : Server T σ κ ν υ} {k₀ k : K} {I : Server T σ κ ν υ → K → Prop}

/-- What one request keeps, whoever sends it, a run keeps. -/
theorem watched_reachable (hstart : I start k₀)
    (hstep : ∀ s k r, I s k → I (served app s r) (learn k r.endpoint (reply app s r)))
    (h : (watchedLts app learn start k₀).Reachable (s, k)) : I s k := by
  have hind : (watchedLts app learn start k₀).Inductive fun x => I x.1 x.2 := by
    constructor
    · intro x hx
      rw [show x = _ from hx]
      exact hstart
    · intro x r y hi hy
      rw [show y = _ from hy]
      exact hstep x.1 x.2 r hi
  exact hind.reachable _ h

end Watched

/-- The server's registries are those of a run of calls. -/
theorem memory_registered (settings : Settings) (hasher : PasswordHasher) (jose : Jose Tok)
    {s : Server T (InMemoryServiceOrders T) (IdDict (Customer T)) (IdDict (Vehicle T))
      (IdDict (AdminUser T))}
    (h : (serverLts (memoryApp settings hasher jose) emptyMemoryServer).Reachable s) :
    Registered s.stores := by
  have hind : (serverLts (memoryApp settings hasher jose : AppState T Tok _ _ _ _)
      emptyMemoryServer).Inductive fun s => Registered s.stores := by
    constructor
    · intro s hs
      rw [show s = _ from hs]; exact Runs.registered_empty
    · intro s r s' hi hstep
      rw [show s' = _ from hstep]
      rcases served_called (memoryApp settings hasher jose) s r with
        hsame | ⟨l, -, hl⟩
      · rw [hsame]; exact hi
      · rw [hl]; exact Runs.next_registered hasher hi l
  exact hind.reachable s h

end ServiceOrderOs.Api
