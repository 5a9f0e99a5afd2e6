import ServiceOrderOs.Core.ReadWrite
import ServiceOrderOs.L5Concurrency.Crash

/-!
# Is a message handled at most once by two workers?

The broker delivers a message again while a worker is still at it, so two
handlers take their turns on one database with the same message. The check of
the processed events and the record come before and after the whole business
step; between them only the order's own guards stand.

* `quiet_step`: a message without effect in the first state has none later.
* `ahead_turn`: once one worker has saved, the other is skipped or refused.
* `handled_once_iff`: the message is handled once unless it changes its order
  and both workers get that order before either saves.
-/
namespace ServiceOrderOs.Concurrency
open Core Py Domain App Runs

variable {T : Type} [Runtime T]

/-- Two handlers on one database, and what each has published. -/
structure Workers (T : Type) where
  pcs : Bool → HandlerPc T
  sys : Sys T
  sent : Bool → List (DomainEvent T)

section
variable (message : Dict) (g g' : Bool → Stamp T)

/-- What a worker publishes is what its turn adds to the log. -/
def Workers.turn (c : Workers T) (b : Bool) : Workers T :=
  let (pc, s) := (c.pcs b).step message (g b) (g' b) c.sys
  ⟨Function.update c.pcs b pc, s,
    Function.update c.sent b (c.sent b ++ s.log.drop c.sys.log.length)⟩

def Workers.play (s : Sys T) (sched : List Bool) : Workers T :=
  sched.foldl (Workers.turn message g g') ⟨fun _ => .check, s, fun _ => []⟩

/-- Begun in `s` and ended in `c`, the message was handled once: one event at
most was published, the orders are those of a single uninterrupted handling,
and no worker raised after it had published. -/
structure HandledOnce (s : Sys T) (c : Workers T) : Prop where
  published : c.sys.log.length ≤ s.log.length + 1
  orders : ∀ h h' : Stamp T, SameOrders c.sys
    (left ((ServiceOrderSagaEventHandler.handle .real reliable message h h').run s))
  noLateError : ∀ b e, c.pcs b = .finished (.error e) → c.sent b = []

/-- The message describes a new event that its order takes, other than a
`QUOTE_CREATED`. -/
def Changes (s : Sys T) (event : DomainEvent T) (o : ServiceOrder T) : Prop :=
  ServiceOrderSagaEventHandler.readEvent message = .ok event ∧ event.eventId ∉ s.processed ∧
    s.orders.find (HandleSagaEventUseCase.serviceOrderId event) = some o ∧ Takes event o ∧
    event.eventType ≠ "QUOTE_CREATED"

end

variable {message : Dict} {g g' : Bool → Stamp T}

theorem Workers.play_snoc (s : Sys T) (l : List Bool) (b : Bool) :
    Workers.play message g g' s (l ++ [b]) =
      Workers.turn message g g' (Workers.play message g g' s l) b := by
  simp [Workers.play]

/-! ## A message without effect -/

/-- Where a handler can be whose message has no effect in `s`. -/
inductive QuietPc (message : Dict) (s : Sys T) : HandlerPc T → Prop
  | check : QuietPc message s .check
  | get (event : DomainEvent T) (hr : ServiceOrderSagaEventHandler.readEvent message = .ok event)
      (hp : event.eventId ∉ s.processed) : QuietPc message s (.executing event .get)
  | apply (event : DomainEvent T) (o : ServiceOrder T)
      (hr : ServiceOrderSagaEventHandler.readEvent message = .ok event)
      (hp : event.eventId ∉ s.processed)
      (hf : s.orders.find (HandleSagaEventUseCase.serviceOrderId event) = some o) :
      QuietPc message s (.executing event (.apply o))
  | save (event : DomainEvent T) (prior : ServiceOrderStatus) (o : ServiceOrder T)
      (hf : s.orders.find o.serviceOrderId = some o) :
      QuietPc message s (.executing event (.save prior o none))
  | publish (event : DomainEvent T) (prior : ServiceOrderStatus) (o : ServiceOrder T) :
      QuietPc message s (.executing event (.publish prior o none))
  | returned (event : DomainEvent T) (prior : ServiceOrderStatus) (o : ServiceOrder T)
      (out : Option (DomainEvent T)) : QuietPc message s (.executing event (.returned prior o out))
  | raised (event : DomainEvent T) (e : PyError) : QuietPc message s (.executing event (.raised e))
  | finished (r : Except PyError Handled) : QuietPc message s (.finished r)

/-- An event that changes nothing but is accepted is a `QUOTE_CREATED`. -/
theorem quiet_accepts {s : Sys T} (hq : ¬ ∃ event o, Changes message s event o)
    {event : DomainEvent T} {o o' : ServiceOrder T} {out : Option (DomainEvent T)}
    {h h' : Stamp T} (hr : ServiceOrderSagaEventHandler.readEvent message = .ok event)
    (hp : event.eventId ∉ s.processed)
    (hf : s.orders.find (HandleSagaEventUseCase.serviceOrderId event) = some o)
    (ha : Accepts event h h' o o' out) : o' = o ∧ out = none := by
  have ht : event.eventType = "QUOTE_CREATED" := by
    by_contra hne
    exact hq ⟨event, o, hr, hp, hf, (takes_iff h h').mpr ⟨o', out, ha⟩, hne⟩
  exact ha.unique (.noted ht)

theorem quiet_step {s s₁ : Sys T} (hq : ¬ ∃ event o, Changes message s event o)
    {pc : HandlerPc T} (hpc : QuietPc message s pc) (ho : s₁.orders = s.orders)
    (hp₁ : s.processed ⊆ s₁.processed) (h h' : Stamp T) :
    QuietPc message s (pc.step message h h' s₁).1 ∧
      (pc.step message h h' s₁).2.orders = s.orders ∧
      (pc.step message h h' s₁).2.log = s₁.log ∧
      s.processed ⊆ (pc.step message h h' s₁).2.processed := by
  cases hpc with
  | check =>
    simp only [HandlerPc.step]
    cases hh : ServiceOrderSagaEventHandler.header T message with
    | error e => exact ⟨.finished _, ho, rfl, hp₁⟩
    | ok hd =>
      by_cases hp : hd.eventId ∈ s₁.processed
      · simp only [if_pos hp]; exact ⟨.finished _, ho, trivial, hp₁⟩
      · simp only [if_neg hp]
        cases ht : ServiceOrderSagaEventHandler.toEvent (T := T) hd message with
        | error e => exact ⟨.finished _, ho, rfl, hp₁⟩
        | ok event =>
          have hr := ServiceOrderSagaEventHandler.readEvent_of hh ht
          have hid := (ServiceOrderSagaEventHandler.toEvent_ok ht).1
          exact ⟨.get event hr fun hm => hp (hid ▸ hp₁ hm), ho, rfl, hp₁⟩
  | get event hr hp =>
    simp only [HandlerPc.step, ExecPc.step, OrderStore.get, ho]
    cases hf : s.orders.find (HandleSagaEventUseCase.serviceOrderId event) with
    | none => exact ⟨.raised _ _, ho, rfl, hp₁⟩
    | some o => exact ⟨.apply event o hr hp hf, ho, rfl, hp₁⟩
  | apply event o hr hp hf =>
    simp only [HandlerPc.step, ExecPc.step]
    cases hrun : (HandleSagaEventUseCase.apply event h h').run o with
    | error e o' => exact ⟨.raised _ _, ho, rfl, hp₁⟩
    | ok out o' =>
      obtain ⟨rfl, rfl⟩ := quiet_accepts hq hr hp hf (apply_ok_iff.mp hrun)
      exact ⟨.save event _ _ (by rw [s.orders.filed _ _ hf]; exact hf), ho, rfl, hp₁⟩
  | save event prior o hf =>
    refine ⟨.publish event prior o, ?_, rfl, hp₁⟩
    show s₁.orders.save o = s.orders
    rw [ho, OrderStore.save_of_find hf]
  | publish event prior o =>
    exact ⟨.returned event prior o none, ho, List.append_nil _, hp₁⟩
  | returned event prior o out =>
    exact ⟨.finished _, ho, rfl, fun _ hm => Finset.mem_insert_of_mem (hp₁ hm)⟩
  | raised event e => exact ⟨.finished _, ho, rfl, hp₁⟩
  | finished r => exact ⟨.finished r, ho, rfl, hp₁⟩

variable (g g') in
theorem quiet_play {s : Sys T} (hq : ¬ ∃ event o, Changes message s event o) (l : List Bool) :
    let c := Workers.play message g g' s l
    (∀ b, QuietPc message s (c.pcs b)) ∧ c.sys.orders = s.orders ∧ c.sys.log = s.log ∧
      s.processed ⊆ c.sys.processed ∧ ∀ b, c.sent b = [] := by
  induction l using List.reverseRecOn with
  | nil => exact ⟨fun _ => .check, rfl, rfl, Finset.Subset.refl _, fun _ => rfl⟩
  | append_singleton l a ih =>
    obtain ⟨hpc, ho, hlog, hp, hsent⟩ := ih
    obtain ⟨hpc', ho', hlog', hp'⟩ := quiet_step hq (hpc a) ho hp (g a) (g' a)
    simp only [Workers.play_snoc]
    refine ⟨fun b => ?_, ho', hlog'.trans hlog, hp', fun b => ?_⟩
    · by_cases hb : b = a
      · subst hb; simp only [Workers.turn, Function.update_self]; exact hpc'
      · simp only [Workers.turn, Function.update_of_ne hb]; exact hpc b
    · by_cases hb : b = a
      · subst hb
        simp only [Workers.turn, Function.update_self, hsent, hlog', List.drop_length,
          List.append_nil]
      · simp only [Workers.turn, Function.update_of_ne hb]; exact hsent b

/-- Nor does it change the orders when it is handled alone. -/
theorem quiet_handle {s : Sys T} (hq : ¬ ∃ event o, Changes message s event o) (h h' : Stamp T) :
    (left ((ServiceOrderSagaEventHandler.handle .real reliable message h h').run s)).orders =
      s.orders := by
  cases hr : ServiceOrderSagaEventHandler.readEvent (T := T) message with
  | error e =>
    rcases ServiceOrderSagaEventHandler.handle_unread hr .real reliable h h' s with hh | ⟨_, hh⟩
    all_goals rw [hh]; rfl
  | ok event =>
    by_cases hp : event.eventId ∈ s.processed
    · rw [ServiceOrderSagaEventHandler.handle_skipped hr hp]; rfl
    · rw [(left_handle hr hp .real reliable h h').1]
      rcases execute_cases .real reliable event h h' s with ⟨e, hx, -⟩ | ⟨o, o', out, hf, ha, hx⟩
      · rw [hx]; rfl
      · obtain ⟨rfl, rfl⟩ := quiet_accepts hq hr hp hf ha
        rw [hx, left_announce]
        exact OrderStore.save_of_find hf

/-! ## A message that changes its order -/

section
variable {event e : DomainEvent T} {o o' : ServiceOrder T} {s : Sys T} {a : Bool}
  (hr : ServiceOrderSagaEventHandler.readEvent message = .ok event)
include hr

/-- A turn of a worker that has got the order `o` and has its event accepted. -/
theorem accepted_turn (ha : Accepts event (g a) (g' a) o o' (some e)) {c : Workers T} {n : Nat}
    (hn : 2 ≤ n) (hpc : c.pcs a = HandlerPc.held event (g a) (g' a) o n) :
    (Workers.turn message g g' c a).pcs =
        Function.update c.pcs a (HandlerPc.held event (g a) (g' a) o (n + 1)) ∧
      (Workers.turn message g g' c a).sys.orders =
        (if n = 3 then c.sys.orders.save o' else c.sys.orders) ∧
      (Workers.turn message g g' c a).sys.log = c.sys.log ++ (if n = 4 then [e] else []) ∧
      (Workers.turn message g g' c a).sent =
        Function.update c.sent a (c.sent a ++ if n = 4 then [e] else []) := by
  have hstep := handler_held_step hr (g a) (g' a) o n c.sys (fun h => by omega) fun h => by omega
  have hv : verdict event (g a) (g' a) o = some (o', some e) := verdict_eq_some.mpr ha
  have hlog := HandlerPc.effect_log hv n c.sys
  rw [Option.toList_some] at hlog
  simp only [Workers.turn, hpc, hstep]
  exact ⟨trivial, HandlerPc.effect_orders hv n c.sys, hlog, by rw [hlog, List.drop_left]⟩

/-! ### One after the other -/

/-- Where a handler can be that gets its order after it has become `o'`. -/
inductive Late (event : DomainEvent T) (o' : ServiceOrder T) : HandlerPc T → Prop
  | check : Late event o' .check
  | get : Late event o' (.executing event .get)
  | apply : Late event o' (.executing event (.apply o'))
  | raised (e : PyError) : Late event o' (.executing event (.raised e))
  | finished (r : Except PyError Handled) : Late event o' (.finished r)

/-- An order that refuses the event lets nobody save. -/
theorem late_step (hno : ∀ h h' o₂ out, ¬ Accepts event h h' o' o₂ out) {s₁ : Sys T}
    (hf : s₁.orders.find (HandleSagaEventUseCase.serviceOrderId event) = some o')
    {pc : HandlerPc T} (hpc : Late event o' pc) (h h' : Stamp T) :
    Late event o' (pc.step message h h' s₁).1 ∧ (pc.step message h h' s₁).2 = s₁ := by
  obtain ⟨hd, hh, ht, hid⟩ := ServiceOrderSagaEventHandler.readEvent_ok hr
  cases hpc with
  | check =>
    simp only [HandlerPc.step, hh, hid, ht]
    split
    · exact ⟨.finished _, rfl⟩
    · exact ⟨.get, rfl⟩
  | get =>
    simp only [HandlerPc.step, ExecPc.step, OrderStore.get, hf]
    exact ⟨.apply, trivial⟩
  | apply =>
    simp only [HandlerPc.step, ExecPc.step]
    cases hrun : (HandleSagaEventUseCase.apply event h h').run o' with
    | error e o₂ => exact ⟨.raised e, rfl⟩
    | ok out o₂ => exact absurd (apply_ok_iff.mp hrun) (hno h h' o₂ out)
  | raised e => exact ⟨.finished _, rfl⟩
  | finished r => exact ⟨.finished r, rfl⟩

/-- Worker `a` has saved; the other has not got the order or gets it as saved. -/
structure Ahead (event : DomainEvent T) (g g' : Bool → Stamp T) (a : Bool)
    (o o' : ServiceOrder T) (e : DomainEvent T) (s : Sys T) (c : Workers T) : Prop where
  first : ∃ n, 4 ≤ n ∧ c.pcs a = HandlerPc.held event (g a) (g' a) o n ∧
    c.sent a = if n = 4 then [] else [e]
  second : Late event o' (c.pcs (!a))
  orders : c.sys.orders = s.orders.save o'
  log : c.sys.log = s.log ++ c.sent a
  silent : c.sent (!a) = []

theorem ahead_turn
    (hid : o'.serviceOrderId = HandleSagaEventUseCase.serviceOrderId event)
    (ha : Accepts event (g a) (g' a) o o' (some e))
    (hno : ∀ h h' o₂ out, ¬ Accepts event h h' o' o₂ out) {c : Workers T}
    (h : Ahead event g g' a o o' e s c) (b : Bool) :
    Ahead event g g' a o o' e s (Workers.turn message g g' c b) := by
  have hna : (!a) ≠ a := by cases a <;> decide
  by_cases hb : b = a
  · subst hb
    obtain ⟨n, hn, hpc, hsent⟩ := h.first
    obtain ⟨h1, h2, h3, h4⟩ := accepted_turn hr ha (show 2 ≤ n by omega) hpc
    refine ⟨⟨n + 1, by omega, by rw [h1, Function.update_self], ?_⟩, ?_, ?_, ?_, ?_⟩
    · rw [h4, Function.update_self, hsent]
      by_cases h5 : n = 4
      · simp [h5]
      · simp [h5, show n + 1 ≠ 4 by omega]
    · rw [h1, Function.update_of_ne hna]; exact h.second
    · rw [h2, if_neg (show ¬ n = 3 by omega)]; exact h.orders
    · rw [h3, h4, Function.update_self, h.log, List.append_assoc]
    · rw [h4, Function.update_of_ne hna]; exact h.silent
  · have hbn : b = !a := Bool.eq_not_of_ne hb
    subst hbn
    have hf : c.sys.orders.find (HandleSagaEventUseCase.serviceOrderId event) = some o' := by
      rw [h.orders, ← hid]; exact OrderStore.save_find_self ..
    obtain ⟨hpc, hsys⟩ := late_step hr hno hf h.second (g !a) (g' !a)
    have hsent : (Workers.turn message g g' c (!a)).sent = c.sent := by
      simp only [Workers.turn, hsys, List.drop_length, List.append_nil, Function.update_eq_self]
    have hs : (Workers.turn message g g' c (!a)).sys = c.sys := hsys
    obtain ⟨n, hn, hpca, hsenta⟩ := h.first
    refine ⟨⟨n, hn, ?_, by rw [hsent]; exact hsenta⟩, ?_, ?_, ?_, ?_⟩
    · simp only [Workers.turn, Function.update_of_ne hna.symm]; exact hpca
    · simp only [Workers.turn, Function.update_self]; exact hpc
    · rw [hs]; exact h.orders
    · rw [hs, hsent]; exact h.log
    · rw [hsent]; exact h.silent

theorem ahead_run
    (hid : o'.serviceOrderId = HandleSagaEventUseCase.serviceOrderId event)
    (ha : Accepts event (g a) (g' a) o o' (some e))
    (hno : ∀ h h' o₂ out, ¬ Accepts event h h' o' o₂ out) (l : List Bool) {c : Workers T}
    (h : Ahead event g g' a o o' e s c) :
    Ahead event g g' a o o' e s (l.foldl (Workers.turn message g g') c) := by
  induction l generalizing c with
  | nil => exact h
  | cons b l ih => exact ih (ahead_turn hr hid ha hno h b)

variable (hp : event.eventId ∉ s.processed)
  (hf : s.orders.find (HandleSagaEventUseCase.serviceOrderId event) = some o)
include hp hf

variable (g g') in
/-- Until one of them saves, the state is as it was. -/
theorem early_play (l : List Bool) (hl : ∀ b, l.count b < 4) : Workers.play message g g' s l =
      ⟨fun b => HandlerPc.held event (g b) (g' b) o (l.count b), s, fun _ => []⟩ := by
  induction l using List.reverseRecOn with
  | nil => rfl
  | append_singleton l a ih =>
    have hsame := ReadWrite.count_snoc_self l a
    have hother : ∀ b, b ≠ a → (l ++ [a]).count b = l.count b := fun b =>
      ReadWrite.count_snoc_of_ne l
    have hle : ∀ b, l.count b ≤ (l ++ [a]).count b := fun b => by
      rw [List.count_append]; omega
    have ha := hl a
    rw [Workers.play_snoc, ih fun b => by have := hl b; have := hle b; omega]
    have hstep := handler_held_step hr (g a) (g' a) o (l.count a) s (fun _ => hp) fun _ => hf
    have hs : ((HandlerPc.held event (g a) (g' a) o (l.count a)).step message (g a) (g' a) s) =
        (HandlerPc.held event (g a) (g' a) o (l.count a + 1), s) := by
      rw [hstep, HandlerPc.effect_early _ _ _ _ (by omega)]
    simp only [Workers.turn, hs, List.drop_length, List.append_nil, Workers.mk.injEq, true_and]
    constructor <;> funext b
    · by_cases hb : b = a
      · subst hb; rw [Function.update_self, hsame]
      · rw [Function.update_of_ne hb, hother b hb]
    · by_cases hb : b = a
      · subst hb; rw [Function.update_self]
      · rw [Function.update_of_ne hb]

theorem ahead_of_before
    (ha : Accepts event (g a) (g' a) o o' (some e))
    (hno : ∀ h h' o₂ out, ¬ Accepts event h h' o' o₂ out) {l : List Bool}
    (hb : ReadWrite.Before 2 4 a l) :
    Ahead event g g' a o o' e s (Workers.play message g g' s l) := by
  obtain ⟨pre, post, rfl, hw, hl⟩ := hb
  have hna : (!a) ≠ a := by cases a <;> decide
  have hid := ha.filed hf
  have hpre := early_play g g' hr hp hf pre fun b => by
    by_cases hb : b = a
    · subst hb; omega
    · rw [Bool.eq_not_of_ne hb]; omega
  -- the save
  have hsaved : Ahead event g g' a o o' e s
      (Workers.turn message g g' (Workers.play message g g' s pre) a) := by
    rw [hpre]
    obtain ⟨h1, h2, h3, h4⟩ := accepted_turn hr ha (show 2 ≤ 3 by omega)
      (c := ⟨fun b => HandlerPc.held event (g b) (g' b) o (pre.count b), s, fun _ => []⟩)
      (by simp only [show pre.count a = 3 by omega])
    refine ⟨⟨4, by omega, by rw [h1, Function.update_self], ?_⟩, ?_, h2, ?_, ?_⟩
    · rw [h4, Function.update_self]; rfl
    · rw [h1, Function.update_of_ne hna]
      by_cases h0 : pre.count (!a) = 0
      · simp only [h0]; exact .check
      · simp only [show pre.count (!a) = 1 by omega, HandlerPc.held_one]; exact .get
    · rw [h3, h4, Function.update_self]; rfl
    · rw [h4, Function.update_of_ne hna]
  -- and what follows
  have hplay : Workers.play message g g' s (pre ++ a :: post) =
      post.foldl (Workers.turn message g g')
        (Workers.turn message g g' (Workers.play message g g' s pre) a) := by
    simp only [Workers.play, List.foldl_append, List.foldl_cons]
  rw [hplay]
  exact ahead_run hr hid ha hno post hsaved

theorem Ahead.handledOnce
    (ha : Accepts event (g a) (g' a) o o' (some e)) {c : Workers T}
    (h : Ahead event g g' a o o' e s c) : HandledOnce message s c := by
  obtain ⟨n, hn, hpc, hsent⟩ := h.first
  refine ⟨?_, fun k k' => ?_, fun b err herr => ?_⟩
  · rw [h.log, List.length_append, hsent]
    split <;> simp
  · obtain ⟨o₂, out₂, ha₂, ho₂, -⟩ := accepts_restamp ha k k'
    exact sameOrders_save h.orders (handle_accepted hr hp hf ha₂).1 ho₂.symm
  · by_cases hb : b = a
    · subst hb
      obtain ⟨n, rfl⟩ : ∃ m, n = m + 1 := ⟨n - 1, by omega⟩
      simp only [hpc, HandlerPc.held, apply_ok_iff.mpr ha] at herr
      split at herr <;> cases herr
    · rw [Bool.eq_not_of_ne hb]; exact h.silent

/-! ### At the same time -/

/-- Both have the order before either saves: each goes on with what it holds,
and publishes. -/
theorem overlap_play
    (ha : ∀ b, ∃ o' e, Accepts event (g b) (g' b) o o' (some e)) {pre : List Bool}
    (hc : ∀ b, 2 ≤ pre.count b ∧ pre.count b < 4) (post : List Bool) :
    (∀ b, (Workers.play message g g' s (pre ++ post)).pcs b =
      HandlerPc.held event (g b) (g' b) o ((pre ++ post).count b)) ∧
    (Workers.play message g g' s (pre ++ post)).sys.log.length = s.log.length +
      (if 5 ≤ (pre ++ post).count true then 1 else 0) +
      (if 5 ≤ (pre ++ post).count false then 1 else 0) := by
  induction post using List.reverseRecOn with
  | nil =>
    rw [List.append_nil, early_play g g' hr hp hf pre fun b => (hc b).2]
    have h1 := (hc true).2
    have h2 := (hc false).2
    refine ⟨fun _ => rfl, ?_⟩
    rw [if_neg (by omega), if_neg (by omega)]
    rfl
  | append_singleton post a ih =>
    obtain ⟨hpc, hlog⟩ := ih
    rw [← List.append_assoc, Workers.play_snoc]
    generalize hl : pre ++ post = l at hpc hlog ⊢
    have h2 : 2 ≤ l.count a := by
      have := (hc a).1
      rw [← hl, List.count_append]; omega
    have hcount : ∀ b, (l ++ [a]).count b = l.count b + if b = a then 1 else 0 := fun b => by
      rw [List.count_append, List.count_singleton]
      by_cases hb : b = a
      · simp [hb]
      · rw [beq_false_of_ne (Ne.symm hb), if_neg hb]; rfl
    obtain ⟨o', e, hacc⟩ := ha a
    obtain ⟨h1, -, h3, -⟩ := accepted_turn hr hacc h2 (hpc a)
    constructor
    · intro b
      rw [h1, hcount]
      by_cases hb : b = a
      · subst hb; rw [Function.update_self, if_pos rfl]
      · rw [Function.update_of_ne hb, if_neg hb]; exact hpc b
    · have hlen : (if l.count a = 4 then [e] else []).length =
          if l.count a = 4 then 1 else 0 := by split <;> rfl
      rw [h3, List.length_append, hlog, hlen, hcount, hcount]
      have hfive : ∀ n : Nat, (if 5 ≤ n + 1 then 1 else 0) =
          (if 5 ≤ n then 1 else 0) + if n = 4 then 1 else 0 := fun n => by
        split <;> split <;> split <;> omega
      cases a with
      | true => simp only [reduceCtorEq, if_true, if_false, Nat.add_zero, hfive]; omega
      | false => simp only [reduceCtorEq, if_true, if_false, Nat.add_zero, hfive]; omega

end

/-- **When a message is handled once.** For every reachable state, every
message and every interleaving of two handlers of it, one event at most is
published, the orders are those of one handling and no worker raises after
publishing, if and only if the message changes no order or one worker saves
before the other gets the order. -/
theorem handled_once_iff (s : Sys T) (message : Dict) (g g' : Bool → Stamp T)
    (sched : List Bool) (hs : (sagaLts T .real).Reachable s) (hl : ∀ b, sched.count b = 6) :
    HandledOnce message s (Workers.play message g g' s sched) ↔
      ¬ ((∃ event o, Changes message s event o) ∧ ReadWrite.Overlap 2 4 sched) := by
  by_cases hch : ∃ event o, Changes message s event o
  · obtain ⟨event, o, hr, hp, hf, ht, hne⟩ := id hch
    have hacc : ∀ b, ∃ o' e, Accepts event (g b) (g' b) o o' (some e) := fun b => by
      obtain ⟨o', out, ha⟩ := (takes_iff (g b) (g' b)).mp ht
      obtain ⟨e, rfl⟩ := Option.ne_none_iff_exists'.mp fun hn => hne ((accepts_out ha).mp hn)
      exact ⟨o', e, ha⟩
    by_cases hov : ReadWrite.Overlap 2 4 sched
    · constructor
      · intro h
        obtain ⟨pre, post, rfl, hc⟩ := hov
        obtain ⟨-, hlog⟩ := overlap_play hr hp hf hacc hc post
        have hpub := h.published
        rw [hlog, hl, hl, if_pos (by omega)] at hpub
        omega
      · intro h
        exact absurd ⟨hch, hov⟩ h
    · refine ⟨fun _ h => hov h.2, fun _ => ?_⟩
      obtain ⟨a, hb⟩ := ReadWrite.before_of_not_overlap (by omega) (by omega)
        (fun b => by rw [hl]; omega) hov
      obtain ⟨o', e, ha⟩ := hacc a
      have hset := accepts_settled (settled_inductive.reachable s hs _ o hf) ha
      have hno : ∀ h h' o₂ out, ¬ Accepts event h h' o' o₂ out := fun h h' o₂ out ha₂ =>
        hne (accepts_not_again hset.wellFormed ha List.prefix_rfl ha₂)
      exact (ahead_of_before hr hp hf ha hno hb).handledOnce hr hp hf ha
  · refine ⟨fun _ h => hch h.1, fun _ => ?_⟩
    obtain ⟨-, ho, hlog, -, hsent⟩ := quiet_play g g' hch sched
    refine ⟨?_, fun h h' id => ?_, fun b _ _ => hsent b⟩
    · rw [hlog]; omega
    · rw [ho, quiet_handle hch h h']

/-- The confirmation of a payment, redelivered after the first handling. -/
theorem handled_once_in_turn :
    let sched := List.replicate 6 true ++ List.replicate 6 false
    (sagaLts Iso .real).Reachable exPending ∧
      HandledOnce exConfirm exPending
        (Workers.play exConfirm exFirst exSecond exPending sched) :=
  ⟨exPending_reachable, (handled_once_iff exPending exConfirm exFirst exSecond _
    exPending_reachable fun b => by cases b <;> rfl).mpr fun h =>
      ReadWrite.Before.not_overlap (r := 2) (w := 4) (b := true)
        ⟨List.replicate 3 true, List.replicate 2 true ++ List.replicate 6 false, rfl, rfl,
          by decide⟩ h.2⟩

/-- Redelivered at once, with the two workers in step: the execution is
requested twice. -/
theorem requested_twice :
    let c := Workers.play exConfirm exFirst exSecond exPending
      [true, false, true, false, true, false, true, false, true, false, true, false]
    (sagaLts Iso .real).Reachable exPending ∧ ¬ HandledOnce exConfirm exPending c ∧
      c.sys.log.map (·.eventType) = exPending.log.map (·.eventType) ++
        ["EXECUTION_REQUESTED", "EXECUTION_REQUESTED"] :=
  ⟨exPending_reachable, fun h => absurd h.published (by decide), rfl⟩

end ServiceOrderOs.Concurrency
