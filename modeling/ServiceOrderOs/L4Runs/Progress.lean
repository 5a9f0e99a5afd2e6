import ServiceOrderOs.L4Runs.EventLog

/-!
# What a stored order can become

`distance` counts the calls from one status to another: those ahead on the chain
one by one, but without the two statuses an order only passes through, and a
failure at once. It is exact in both directions.

* `change_distance`: one call takes an order nowhere or at distance one.
* `call_to`: and for every status at distance one there is a call.
* `statuses_within`: so over runs of any length.
-/
namespace ServiceOrderOs.Runs
open Core Py Domain App

/-- The place on the chain among the statuses an order rests in. -/
def place : ServiceOrderStatus → Nat
  | .quoteApproved => 1
  | .paymentPending => 2
  | .executionRequested => 3
  | .executionInProgress => 4
  | .completed => 5
  | _ => 0

def distance (st st' : ServiceOrderStatus) : Option Nat :=
  if st = st' then some 0
  else if st ∈ terminalStatuses then none
  else if IsFailure st' then some 1
  else if place st < place st' then some (place st' - place st)
  else none

/-! ## Distances -/

section Distance
variable {a b c : ServiceOrderStatus} {d : Nat}

theorem distance_self (a : ServiceOrderStatus) : distance a a = some 0 := if_pos rfl

theorem distance_zero (h : distance a b = some 0) : a = b := by
  unfold distance at h
  split at h
  · assumption
  · split at h; · cases h
    split at h; · cases h
    split at h
    · rw [Option.some.injEq] at h; omega
    · cases h

/-- A status at a distance is a failure, or ahead on the chain. -/
theorem distance_succ : distance a b = some (d + 1) ↔ a ≠ b ∧ a ∉ terminalStatuses ∧
    (IsFailure b ∧ d = 0 ∨ ¬ IsFailure b ∧ place b = place a + d + 1) := by
  unfold distance
  by_cases hab : a = b
  · simp [hab]
  by_cases ht : a ∈ terminalStatuses
  · simp [hab, ht]
  by_cases hf : IsFailure b
  · simp [hab, ht, hf, eq_comm]
  · simp only [if_neg hab, if_neg ht, if_neg hf]
    split
    · rw [Option.some.injEq]
      constructor
      · exact fun h => ⟨hab, ht, .inr ⟨hf, by omega⟩⟩
      · rintro ⟨-, -, ⟨h, -⟩ | ⟨-, h⟩⟩
        · exact absurd h hf
        · omega
    · constructor
      · intro h; cases h
      · rintro ⟨-, -, ⟨h, -⟩ | ⟨-, h⟩⟩
        · exact absurd h hf
        · omega

/-- One call nearer. -/
theorem distance_trans (h : distance a b = some 1) (h' : distance b c = some d) :
    ∃ d', distance a c = some d' ∧ d' ≤ d + 1 := by
  cases d with
  | zero => exact ⟨1, distance_zero h' ▸ h, Nat.le_refl 1⟩
  | succ d =>
    obtain ⟨hab, ha, hb⟩ := distance_succ.mp h
    obtain ⟨hbc, hbt, hc⟩ := distance_succ.mp h'
    have hbf : ¬ IsFailure b := fun hf => hbt ((terminal_iff b).mpr (.inr hf))
    have hplace : place b = place a + 1 := by
      rcases hb with ⟨hf, -⟩ | ⟨-, hb⟩
      · exact absurd hf hbf
      · exact hb
    rcases hc with ⟨hcf, rfl⟩ | ⟨hcf, hc⟩
    · have hac : a ≠ c := fun e => ha ((terminal_iff a).mpr (.inr (e ▸ hcf)))
      exact ⟨1, distance_succ.mpr ⟨hac, ha, .inl ⟨hcf, rfl⟩⟩, by omega⟩
    · have hac : a ≠ c := fun e => by rw [e] at hplace; omega
      exact ⟨d + 1 + 1, distance_succ.mpr ⟨hac, ha, .inr ⟨hcf, by omega⟩⟩, Nat.le_refl _⟩

/-- The next status on the chain that an order rests in. -/
def nextRest : ServiceOrderStatus → ServiceOrderStatus
  | .quoteRequested => .quoteApproved
  | .quoteApproved => .paymentPending
  | .paymentPending => .executionRequested
  | .executionRequested => .executionInProgress
  | _ => .completed

theorem nextRest_place (ho : a ≠ .opened) (hc : a ≠ .paymentConfirmed)
    (ha : a ∉ terminalStatuses) (h : place a + 2 ≤ 5) : place (nextRest a) = place a + 1 ∧
      ¬ IsFailure (nextRest a) ∧ nextRest a ∉ terminalStatuses := by
  revert ho hc ha h
  cases a <;> decide

/-- The way goes through a status at distance one. -/
theorem distance_through (ho : a ≠ .opened) (hc : a ≠ .paymentConfirmed)
    (h : distance a b = some (d + 1)) :
    ∃ a', distance a a' = some 1 ∧ distance a' b = some d := by
  obtain ⟨hab, ha, hb⟩ := distance_succ.mp h
  rcases hb with ⟨hf, rfl⟩ | ⟨hf, hb⟩
  · exact ⟨b, h, distance_self b⟩
  cases d with
  | zero => exact ⟨b, h, distance_self b⟩
  | succ d =>
    have hlast : place b ≤ 5 := by cases b <;> decide
    have hnext := nextRest_place ho hc ha (by omega)
    refine ⟨nextRest a, distance_succ.mpr ⟨fun e => ?_, ha, .inr ⟨hnext.2.1, hnext.1⟩⟩,
      distance_succ.mpr ⟨fun e => ?_, hnext.2.2, .inr ⟨hf, by omega⟩⟩⟩
    · rw [← e] at hnext; omega
    · rw [e] at hnext; omega

end Distance

/-! ## One call -/

variable {T : Type} [Runtime T] {event : DomainEvent T} {g g' : Stamp T} {o o' : ServiceOrder T}
  {out : Option (DomainEvent T)} {mode : RuntimeMode} {s s' : Sys T} {id : String}

theorem accepts_distance (ha : Accepts event g g' o o' out) :
    o'.status = o.status ∨ distance o.status o'.status = some 1 := by
  cases ha with
  | noted => exact .inl rfl
  | called k arg _ _ hr hl =>
    right
    have hstatus : (after (k.call arg g) o).status = (k.call arg g).target := rfl
    rw [hstatus]
    cases k with
    | quoteFailed | paymentFailed | executionEnqueueFailed | executionFailed =>
      refine distance_succ.mpr ⟨fun e => hl ?_, hl, .inl ⟨hr, rfl⟩⟩
      rw [e, terminal_iff]
      exact .inr hr
    | _ =>
      rw [show o.status = _ from hr]
      rfl
  | confirmed arg _ _ hr =>
    right
    rw [hr]
    rfl

theorem change_distance {l : Call T} (hc : Change s l s') (hf : s.orders.find id = some o) :
    ∃ o', s'.orders.find id = some o' ∧
      (o'.status = o.status ∨ distance o.status o'.status = some 1) := by
  cases hc with
  | stay ho => exact ⟨o, by rw [ho]; exact hf, .inl rfl⟩
  | opened o₁ g _ _ hno ho =>
    have hne : id ≠ o₁.serviceOrderId := fun e => by rw [e, hno] at hf; cases hf
    refine ⟨o, ?_, .inl rfl⟩
    rw [ho]
    exact (OrderStore.save_find_of_ne _ (after _ o₁) hne).trans hf
  | moved event g g' o₁ o₁' out _ hfo ha ho =>
    by_cases hid : id = o₁'.serviceOrderId
    · have he : o₁ = o := by
        rw [ha.id_eq, s.orders.filed _ _ hfo] at hid
        rw [hid, hfo] at hf
        exact Option.some.inj hf
      refine ⟨o₁', ?_, he ▸ accepts_distance ha⟩
      rw [ho, OrderStore.save_find, if_pos hid]
    · refine ⟨o, ?_, .inl rfl⟩
      rw [ho, OrderStore.save_find_of_ne _ _ hid]
      exact hf

/-- The type of the event that takes an order to a status. -/
def eventTo : ServiceOrderStatus → String
  | .quoteApproved => "QUOTE_APPROVED"
  | .paymentPending => "PAYMENT_PREFERENCE_CREATED"
  | .executionRequested => "PAYMENT_CONFIRMED"
  | .executionInProgress => "EXECUTION_STARTED"
  | .completed => "EXECUTION_COMPLETED"
  | st => st.value

/-- With all that any type needs. -/
def eventFor (id : String) (st : ServiceOrderStatus) (now : T) : DomainEvent T where
  eventType := eventTo st
  correlationId := id
  payload := [("service_order_id", .str id), ("quote_id", .str ""), ("payment_id", .str "")]
  eventId := ""
  occurredAt := now

theorem eventFor_call (k : SagaEvent) (id : String) (now : T) (g : Stamp T) :
    (eventFor id (k.call "" g).target now).eventType = k.type ∧
      k.argument (eventFor id (k.call "" g).target now) = some "" := by
  cases k <;> exact ⟨rfl, rfl⟩

omit [Runtime T] in
/-- At distance one from where an order rests there is what the call asks for. -/
theorem ready_of_distance {st : ServiceOrderStatus} (ho : st ≠ .opened)
    (hc : st ≠ .paymentConfirmed) (k : SagaEvent) (g : Stamp T)
    (h : distance st (k.call "" g).target = some 1) :
    (k.call "" g).Ready st ∧ st ∉ terminalStatuses := by
  obtain ⟨-, hl, hd⟩ := distance_succ.mp h
  rw [SagaEvent.ready_iff]
  refine ⟨?_, hl⟩
  cases k with
  | quoteFailed | paymentFailed | executionEnqueueFailed | executionFailed => trivial
  | _ => cases st <;> simp_all [SagaEvent.call, MethodCall.target, IsFailure, place,
      SagaEvent.Ready, terminalStatuses]

omit [Runtime T] in
/-- What is at distance one is the target of a call, or is reached by the two
calls of `PAYMENT_CONFIRMED`. -/
theorem target_of_distance {st st' : ServiceOrderStatus} (h : distance st st' = some 1)
    (g : Stamp T) :
    (∃ k : SagaEvent, st' = (k.call "" g).target) ∨ st' = .executionRequested := by
  obtain ⟨-, -, hd⟩ := distance_succ.mp h
  cases st' with
  | opened | quoteRequested | paymentConfirmed =>
    rcases hd with ⟨hf, -⟩ | ⟨-, hd⟩
    · exact absurd hf (by decide)
    · have hzero : place st + 0 + 1 = 0 := hd.symm
      omega
  | quoteApproved => exact .inl ⟨.quoteApproved, rfl⟩
  | paymentPending => exact .inl ⟨.paymentPreferenceCreated, rfl⟩
  | executionRequested => exact .inr rfl
  | executionInProgress => exact .inl ⟨.executionStarted, rfl⟩
  | completed => exact .inl ⟨.executionCompleted, rfl⟩
  | quoteFailed => exact .inl ⟨.quoteFailed, rfl⟩
  | paymentFailed => exact .inl ⟨.paymentFailed, rfl⟩
  | executionEnqueueFailed => exact .inl ⟨.executionEnqueueFailed, rfl⟩
  | executionFailed => exact .inl ⟨.executionFailed, rfl⟩

/-- For every status at distance one there is an event that takes the order
there. -/
theorem accepts_of_distance (hs : Settled o) {st : ServiceOrderStatus}
    (h : distance o.status st = some 1) (now : T) (g g' : Stamp T) : ∃ o' out,
      Accepts (eventFor o.serviceOrderId st now) g g' o o' out ∧ o'.status = st := by
  rcases target_of_distance h g with ⟨k, rfl⟩ | rfl
  · obtain ⟨htype, harg⟩ := eventFor_call k o.serviceOrderId now g
    obtain ⟨hr, hl⟩ := ready_of_distance hs.notOpened hs.notConfirmed k g h
    exact ⟨_, _, .called k "" htype harg hr hl, rfl⟩
  · have hpending : o.status = .paymentPending := by
      obtain ⟨-, hl, hd⟩ := distance_succ.mp h
      cases hst : o.status <;> simp_all [IsFailure, place, terminalStatuses]
    exact ⟨_, _, .confirmed (.str "") rfl rfl hpending, rfl⟩

theorem call_to (mode : RuntimeMode) (hs : Settled o) (hf : s.orders.find id = some o)
    {st : ServiceOrderStatus} (h : distance o.status st = some 1) : ∃ l : Call T, l.Fresh s ∧
      ∃ o', (l.next mode s).orders.find id = some o' ∧ o'.status = st := by
  obtain ⟨entry, hentry⟩ : ∃ entry, entry ∈ o.history := by
    have hlast := hs.wellFormed.last
    cases hh : o.history with
    | nil => rw [ServiceOrder.statuses, hh] at hlast; cases hlast
    | cons entry rest => exact ⟨entry, List.mem_cons_self⟩
  let g : Stamp T := ⟨entry.createdAt, "", entry.createdAt⟩
  let event : DomainEvent T := eventFor o.serviceOrderId st entry.createdAt
  have hid : o.serviceOrderId = id := s.orders.filed _ _ hf
  have htarget : HandleSagaEventUseCase.serviceOrderId event = id :=
    hid ▸ serviceOrderId_of_about ⟨rfl, rfl⟩
  obtain ⟨k, k', hnext⟩ := executes_next mode (s := s) (l := .saga reliable event g g) rfl
  obtain ⟨o', out, ha, hstatus⟩ := accepts_of_distance hs h entry.createdAt k k'
  refine ⟨.saga reliable event g g, trivial, o', ?_, hstatus⟩
  rw [hnext o o' out (htarget ▸ hf) ha, OrderStore.save_find, if_pos (hid.symm.trans ha.id_eq.symm)]

/-! ## Runs -/

/-- By induction on the run, from its first call. -/
theorem run_distance {ls : List (Call T)} (hr : (sagaLts T mode).Run s ls s')
    (hf : s.orders.find id = some o) (hf' : s'.orders.find id = some o') :
    ∃ d, distance o.status o'.status = some d ∧ d ≤ ls.length := by
  induction hr generalizing o with
  | nil =>
    rw [hf, Option.some.injEq] at hf'
    subst hf'
    exact ⟨0, distance_self _, Nat.le_refl 0⟩
  | cons hs _ ih =>
    obtain ⟨hl, rfl⟩ := hs
    obtain ⟨o₁, hf₁, hstep⟩ := change_distance (next_change mode _ _ hl) hf
    obtain ⟨d, hd, hle⟩ := ih hf₁ hf'
    rw [List.length_cons]
    rcases hstep with hsame | hone
    · exact ⟨d, hsame ▸ hd, by omega⟩
    · obtain ⟨d', hd', hle'⟩ := distance_trans hone hd
      exact ⟨d', hd', by omega⟩

/-- By induction on the calls that are left; what is too many is spent on calls
that do not concern the order. -/
theorem distance_run (n : Nat) (h : (sagaLts T mode).Reachable s)
    (hf : s.orders.find id = some o) {st : ServiceOrderStatus} {d : Nat}
    (hd : distance o.status st = some d) (hle : d ≤ n) :
    ∃ ls s' o', (sagaLts T mode).Run s ls s' ∧ ls.length = n ∧ s'.orders.find id = some o' ∧
      o'.status = st := by
  induction n generalizing s o d with
  | zero =>
    obtain rfl := Nat.le_zero.mp hle
    exact ⟨[], s, o, .nil s, rfl, hf, distance_zero hd⟩
  | succ n ih =>
    cases d with
    | zero =>
      have hidle : (sagaLts T mode).step s (.lose "") ((Call.lose "").next mode s) := ⟨trivial, rfl⟩
      obtain ⟨ls, s', o', hr, hlen, hfind, hst⟩ := ih (h.step hidle) hf hd (Nat.zero_le n)
      exact ⟨.lose "" :: ls, s', o', .cons hidle hr, congrArg (· + 1) hlen, hfind, hst⟩
    | succ d =>
      have hs := settled_inductive.reachable s h id o hf
      obtain ⟨st₁, h₁, hrest⟩ := distance_through hs.notOpened hs.notConfirmed hd
      obtain ⟨l, hl, o₁, hf₁, rfl⟩ := call_to mode hs hf h₁
      have hstep : (sagaLts T mode).step s l (l.next mode s) := ⟨hl, rfl⟩
      obtain ⟨ls, s', o', hr, hlen, hfind, hst⟩ :=
        ih (h.step hstep) hf₁ hrest (Nat.le_of_succ_le_succ hle)
      exact ⟨l :: ls, s', o', .cons hstep hr, congrArg (· + 1) hlen, hfind, hst⟩

/-- **What a stored order can become, and how soon.** In every state of a run,
some `n` calls take an order to a status if and only if the status is at a
distance of at most `n` from where it stands. -/
theorem statuses_within (mode : RuntimeMode) (s : Sys T) (h : (sagaLts T mode).Reachable s)
    (id : String) (o : ServiceOrder T) (hf : s.orders.find id = some o) (n : Nat)
    (st : ServiceOrderStatus) :
    (∃ ls s' o', (sagaLts T mode).Run s ls s' ∧ ls.length = n ∧ s'.orders.find id = some o' ∧
        o'.status = st) ↔
      ∃ d, distance o.status st = some d ∧ d ≤ n := by
  constructor
  · rintro ⟨ls, s', o', hr, rfl, hf', rfl⟩
    exact run_distance hr hf hf'
  · rintro ⟨d, hd, hle⟩
    exact distance_run n h hf hd hle

/-- An approved order is completed in four calls, and not in three. -/
theorem approved_within_four :
    (∃ ls s' o', (sagaLts Iso .real).Run exState ls s' ∧ ls.length = 4 ∧
      s'.orders.find "os-1" = some o' ∧ o'.status = .completed) ∧
    ¬ ∃ ls s' o', (sagaLts Iso .real).Run exState ls s' ∧ ls.length = 3 ∧
      s'.orders.find "os-1" = some o' ∧ o'.status = .completed := by
  have hwithin := fun n => statuses_within .real exState (reachable_of_reliable exState_reachable)
    "os-1" _ rfl n .completed
  refine ⟨(hwithin 4).mpr ⟨4, rfl, Nat.le_refl 4⟩, fun h => ?_⟩
  obtain ⟨d, hd, hle⟩ := (hwithin 3).mp h
  rw [show distance _ .completed = some 4 from rfl, Option.some.injEq] at hd
  omega

end ServiceOrderOs.Runs
