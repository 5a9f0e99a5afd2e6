import ServiceOrderOs.Core.ReadWrite
import ServiceOrderOs.L4Runs.Invariant
import ServiceOrderOs.L5Concurrency.Steps

/-!
# Are two executions on one order serializable?

The API process and the worker execute two saga events for one stored order;
their turns come in any order. `save` overwrites the row without looking at
what is there, so two executions that have both got the order before either
saves are two read-modify-write transactions of `Core.ReadWrite`.

* `play_simulates`: any interleaving of the steps is an interleaving of two
  such transactions, up to the order of the publications.
* `serializable_iff`: the outcome is that of a serial order unless the two
  overlap, the order takes both, and the one that saves first is no
  `QUOTE_CREATED`. Then its transition is lost.
-/
namespace ServiceOrderOs.Concurrency
open Core Py Domain App Runs

variable {T : Type} [Runtime T]

/-- Two executions on one database. -/
structure Pair (T : Type) where
  pcs : Bool → ExecPc T
  sys : Sys T

omit [Runtime T] in
/-- The execution has applied its event, saved and returned. -/
def ExecPc.Accepted : ExecPc T → Prop
  | .returned _ _ _ => True
  | _ => False

omit [Runtime T] in
/-- Both published, one of them a compensation and the other not, from the same
prior status. -/
def Pair.Mixed (c : Pair T) : Prop :=
  ∃ b prior o o' e e', c.pcs b = .returned prior o (some e) ∧
    c.pcs (!b) = .returned prior o' (some e') ∧
    e.eventType = "OS_COMPENSATION_REQUIRED" ∧ e'.eventType ≠ "OS_COMPENSATION_REQUIRED"

/-- Both get the order before either saves, it takes both events, and the one
that saves first changes it. -/
def Lost (ev : Bool → DomainEvent T) (x : ServiceOrder T) (sched : List Bool) : Prop :=
  ReadWrite.Overlap 1 3 sched ∧ (∀ b, Takes (ev b) x) ∧
    ∃ b, ReadWrite.LastWrite 3 b sched ∧ (ev (!b)).eventType ≠ "QUOTE_CREATED"

section
variable (ev : Bool → DomainEvent T) (g g' : Bool → Stamp T)

def Pair.turn (c : Pair T) (b : Bool) : Pair T :=
  let (pc, s) := (c.pcs b).step (ev b) (g b) (g' b) c.sys
  ⟨Function.update c.pcs b pc, s⟩

def Pair.play (s : Sys T) (sched : List Bool) : Pair T :=
  sched.foldl (Pair.turn ev g g') ⟨fun _ => .get, s⟩

/-- One execution of the code, uninterrupted. -/
def serially (b : Bool) (s : Sys T) : EStateM.Result PyError (Sys T) (ServiceOrder T) :=
  (HandleSagaEventUseCase.execute .real reliable (ev b) (g b) (g' b)).run s

/-- The outcome `c` is that of execution `b` followed by the other: the same
orders, the same events accepted, the same events published. -/
structure AsSerial (b : Bool) (s : Sys T) (c : Pair T) : Prop where
  orders : c.sys.orders =
    (left (serially ev g g' (!b) (left (serially ev g g' b s)))).orders
  first : (c.pcs b).Accepted ↔ ∃ o s', serially ev g g' b s = .ok o s'
  second : (c.pcs (!b)).Accepted ↔
    ∃ o s', serially ev g g' (!b) (left (serially ev g g' b s)) = .ok o s'
  log : c.sys.log.Perm (left (serially ev g g' (!b) (left (serially ev g g' b s)))).log

/-- The two executions as transactions on the row of their order. -/
def txn (b : Bool) : ReadWrite.Txn (ServiceOrder T) (Option (DomainEvent T)) :=
  verdict (ev b) (g b) (g' b)

/-- What execution `b` publishes once it has got `o`. -/
def sentBy (b : Bool) (o : ServiceOrder T) : List (DomainEvent T) :=
  match txn ev g g' b o with
  | some (_, out) => out.toList
  | none => []

end

variable {ev : Bool → DomainEvent T} {g g' : Bool → Stamp T}

/-! ## One execution alone -/

theorem txn_id {b : Bool} {o o' : ServiceOrder T} {out : Option (DomainEvent T)}
    (h : txn ev g g' b o = some (o', out)) : o'.serviceOrderId = o.serviceOrderId :=
  (verdict_eq_some.mp h).id_eq

theorem value_id (b : Bool) (o : ServiceOrder T) :
    ((txn ev g g' b).value o).serviceOrderId = o.serviceOrderId := by
  cases h : txn ev g g' b o with
  | none => rw [ReadWrite.Txn.value_of_none h]
  | some p => rw [ReadWrite.Txn.value_of_some h]; exact txn_id h

variable (ev g g') in
theorem serially_state {b : Bool} {s : Sys T} {o : ServiceOrder T}
    (hf : s.orders.find (HandleSagaEventUseCase.serviceOrderId (ev b)) = some o) :
    left (serially ev g g' b s) =
        { s with
          orders := s.orders.save ((txn ev g g' b).value o)
          log := s.log ++ sentBy ev g g' b o } ∧
      ((∃ o' s', serially ev g g' b s = .ok o' s') ↔ (txn ev g g' b o).isSome) := by
  have hsame := OrderStore.save_of_find hf
  unfold serially
  rw [execute_real]
  simp only [OrderStore.get, hf, ReadWrite.Txn.value, ReadWrite.Txn.write, sentBy, txn, verdict]
  cases (HandleSagaEventUseCase.apply (ev b) (g b) (g' b)).run o with
  | ok out o' => exact ⟨rfl, by simp⟩
  | error e o' => exact ⟨by simp [left, hsame], by simp⟩

/-! ## The steps simulate two transactions -/

/-- What execution `b` has got, once it has. -/
def view (x : ServiceOrder T) (m : ReadWrite.Cell (ServiceOrder T)) (b : Bool) : ServiceOrder T :=
  (m.held b).getD x

/-- What execution `b` has published after the schedule `l`. -/
def published (ev : Bool → DomainEvent T) (g g' : Bool → Stamp T) (x : ServiceOrder T)
    (m : ReadWrite.Cell (ServiceOrder T)) (l : List Bool) (b : Bool) : List (DomainEvent T) :=
  if 4 ≤ l.count b then sentBy ev g g' b (view x m b) else []

/-- After the schedule `l` the pair `c`, begun in `s` on the order `x`, is where
the transactions on the register `m` are. -/
structure Sim (ev : Bool → DomainEvent T) (g g' : Bool → Stamp T) (s : Sys T)
    (x : ServiceOrder T) (l : List Bool) (c : Pair T) (m : ReadWrite.Cell (ServiceOrder T)) :
    Prop where
  pcs : ∀ b, c.pcs b = ExecPc.held (ev b) (g b) (g' b) (view x m b) (l.count b)
  read : ∀ b, 1 ≤ l.count b → m.held b = some (view x m b)
  viewId : ∀ b, (view x m b).serviceOrderId = x.serviceOrderId
  regId : m.reg.serviceOrderId = x.serviceOrderId
  orders : c.sys.orders = s.orders.save m.reg
  log : c.sys.log.Perm (s.log ++ (published ev g g' x m l true ++ published ev g g' x m l false))

/-- Publishing at the end of the log or at the end of one's own events. -/
theorem perm_published {α : Type} (base new : List α) {P P' : Bool → List α} {a : Bool}
    (ha : P' a = P a ++ new) (hna : P' (!a) = P (!a)) :
    ((base ++ (P true ++ P false)) ++ new).Perm (base ++ (P' true ++ P' false)) := by
  cases a with
  | true =>
    rw [ha, show P' false = P false from hna]
    simp only [List.append_assoc]
    exact ((List.perm_append_comm).append_left _).append_left _
  | false =>
    rw [ha, show P' true = P true from hna]
    simp only [List.append_assoc]
    exact List.Perm.refl _

section
variable {f : Bool → ReadWrite.Txn (ServiceOrder T) (Option (DomainEvent T))} {x : ServiceOrder T}
  {m : ReadWrite.Cell (ServiceOrder T)} {l : List Bool} {a b : Bool}

omit [Runtime T] in
theorem view_turn_of_ne (h : b ≠ a) : view x (ReadWrite.turn f 1 3 m a) b = view x m b := by
  unfold view
  rw [ReadWrite.turn_held, if_neg fun h' => h h'.2]

omit [Runtime T] in
/-- The first turn gets what is in the register. -/
theorem view_turn_self : view x (ReadWrite.turn f 1 3 m a) a =
    if m.turns a = 0 then m.reg else view x m a := by
  unfold view
  rw [ReadWrite.turn_held]
  by_cases h0 : m.turns a = 0
  · rw [if_pos ⟨by omega, rfl⟩, if_pos h0]; rfl
  · rw [if_neg fun h => h0 (by omega), if_neg h0]

omit [Runtime T] in
/-- What has been read is held. -/
theorem held_turn (ht : m.turns a = l.count a)
    (hread : ∀ b, 1 ≤ l.count b → m.held b = some (view x m b)) (hb : 1 ≤ (l ++ [a]).count b) :
    (ReadWrite.turn f 1 3 m a).held b = some (view x (ReadWrite.turn f 1 3 m a) b) := by
  rw [ReadWrite.turn_held]
  by_cases hba : b = a
  · subst hba
    rw [view_turn_self, ht]
    by_cases h0 : l.count b = 0
    · rw [if_pos ⟨by omega, rfl⟩, if_pos h0]
    · rw [if_neg fun h => h0 (by omega), if_neg h0]; exact hread b (by omega)
  · rw [ReadWrite.count_snoc_of_ne l hba] at hb
    rw [if_neg fun h => hba h.2, view_turn_of_ne hba]; exact hread b hb

omit [Runtime T] in
/-- The third turn writes. -/
theorem reg_turn (ht : m.turns a = l.count a)
    (hread : ∀ b, 1 ≤ l.count b → m.held b = some (view x m b)) :
    (ReadWrite.turn f 1 3 m a).reg =
      if l.count a = 2 then (f a).write (view x (ReadWrite.turn f 1 3 m a) a) m.reg
      else m.reg := by
  by_cases h2 : l.count a = 2
  · rw [if_pos h2, ReadWrite.turn_reg_write (by rw [ht, h2]) (hread a (by omega)), view_turn_self,
      if_neg (by omega)]
  · rw [if_neg h2, ReadWrite.turn_reg_of_ne (by rw [ht]; omega)]

theorem published_snoc_of_ne (h : b ≠ a) :
    published ev g g' x (ReadWrite.turn (txn ev g g') 1 3 m a) (l ++ [a]) b =
      published ev g g' x m l b := by
  unfold published
  rw [ReadWrite.count_snoc_of_ne l h, view_turn_of_ne h]

variable (ev g g' x) in
/-- The fourth turn publishes. -/
theorem published_snoc_self (ht : m.turns a = l.count a) :
    published ev g g' x (ReadWrite.turn (txn ev g g') 1 3 m a) (l ++ [a]) a =
      published ev g g' x m l a ++ if l.count a = 3 then
        sentBy ev g g' a (view x (ReadWrite.turn (txn ev g g') 1 3 m a) a) else [] := by
  unfold published
  rw [ReadWrite.count_snoc_self]
  by_cases h3 : l.count a = 3
  · simp [h3]
  · by_cases h4 : 4 ≤ l.count a
    · rw [if_pos (by omega), if_pos h4, if_neg h3, List.append_nil, view_turn_self,
        if_neg (by omega)]
    · rw [if_neg (by omega), if_neg h4, if_neg h3, List.append_nil]

end

/-- One turn of an execution is one turn of its transaction. -/
theorem sim_turn {s : Sys T} {x : ServiceOrder T} {l : List Bool} {c : Pair T}
    {m : ReadWrite.Cell (ServiceOrder T)}
    (hx : ∀ b, HandleSagaEventUseCase.serviceOrderId (ev b) = x.serviceOrderId)
    (ht : ∀ b, m.turns b = l.count b) (h : Sim ev g g' s x l c m) (a : Bool) :
    Sim ev g g' s x (l ++ [a]) (Pair.turn ev g g' c a)
      (ReadWrite.turn (txn ev g g') 1 3 m a) := by
  have hpuba := published_snoc_self ev g g' x (ht a)
  have hpubna : published ev g g' x (ReadWrite.turn (txn ev g g') 1 3 m a) (l ++ [a]) (!a) =
      published ev g g' x m l (!a) := published_snoc_of_ne (by cases a <;> decide)
  have hva := view_turn_self (f := txn ev g g') (x := x) (m := m) (a := a)
  have hvb : ∀ b, b ≠ a → view x (ReadWrite.turn (txn ev g g') 1 3 m a) b = view x m b :=
    fun b => view_turn_of_ne
  rw [ht] at hva
  have hreg := reg_turn (f := txn ev g g') (x := x) (ht a) h.read
  have hread : ∀ b, 1 ≤ (l ++ [a]).count b → (ReadWrite.turn (txn ev g g') 1 3 m a).held b =
      some (view x (ReadWrite.turn (txn ev g g') 1 3 m a) b) :=
    fun b hb => held_turn (ht a) h.read hb
  generalize ReadWrite.turn (txn ev g g') 1 3 m a = m' at *
  have hvid : (view x m' a).serviceOrderId = x.serviceOrderId := by
    rw [hva]; split
    · exact h.regId
    · exact h.viewId a
  have hpc : c.pcs a = ExecPc.held (ev a) (g a) (g' a) (view x m' a) (l.count a) := by
    rw [h.pcs a, hva]
    split
    · rename_i h0; rw [h0]; rfl
    · rfl
  -- what it does to the program counter and the shared state
  have hstep := held_step (ev a) (g a) (g' a) (view x m' a) (l.count a) c.sys fun h0 => by
    rw [hva, if_pos h0, h.orders, hx, ← h.regId]; exact OrderStore.save_find_self ..
  have hturn : Pair.turn ev g g' c a = ⟨Function.update c.pcs a
      (ExecPc.held (ev a) (g a) (g' a) (view x m' a) (l.count a + 1)),
      ((c.pcs a).step (ev a) (g a) (g' a) c.sys).2⟩ := by
    unfold Pair.turn; rw [hpc, hstep]
  rw [hturn, hpc, hstep]
  refine ⟨fun b => ?_, hread, fun b => ?_, ?_, ?_, ?_⟩
  · by_cases hba : b = a
    · subst hba; simp only [Function.update_self, ReadWrite.count_snoc_self]
    · simp only [Function.update_of_ne hba, ReadWrite.count_snoc_of_ne l hba, hvb b hba]
      exact h.pcs b
  · by_cases hba : b = a
    · subst hba; exact hvid
    · rw [hvb b hba]; exact h.viewId b
  · rw [hreg]
    split
    · cases hw : txn ev g g' a (view x m' a) with
      | none => rw [ReadWrite.Txn.write_of_none hw]; exact h.regId
      | some p => rw [ReadWrite.Txn.write_of_some hw, txn_id hw]; exact hvid
    · exact h.regId
  · rw [hreg]
    cases hw : txn ev g g' a (view x m' a) with
    | none => rw [ExecPc.effect_none hw, ReadWrite.Txn.write_of_none hw, ite_self, h.orders]
    | some p =>
      rw [ExecPc.effect_orders hw, ReadWrite.Txn.write_of_some hw, h.orders]
      have hid : p.1.serviceOrderId = m.reg.serviceOrderId := by
        rw [txn_id hw, hvid, h.regId]
      split
      · exact OrderStore.save_save _ hid.symm
      · rfl
  · have hlog := perm_published s.log (if l.count a = 3 then sentBy ev g g' a (view x m' a) else [])
      hpuba hpubna
    refine List.Perm.trans (List.Perm.trans (List.Perm.of_eq ?_) (h.log.append_right _)) hlog
    simp only [sentBy]
    cases hw : txn ev g g' a (view x m' a) with
    | none => rw [ExecPc.effect_none hw, ite_self, List.append_nil]
    | some p => exact ExecPc.effect_log hw ..

variable (ev g g') in
/-- **Interleaved executions are two read-modify-write transactions.** -/
theorem play_simulates {s : Sys T} {x : ServiceOrder T}
    (hf : ∀ b, s.orders.find (HandleSagaEventUseCase.serviceOrderId (ev b)) = some x)
    (l : List Bool) : Sim ev g g' s x l (Pair.play ev g g' s l)
      (ReadWrite.play (txn ev g g') 1 3 (ReadWrite.start x) l) := by
  have hx : ∀ b, HandleSagaEventUseCase.serviceOrderId (ev b) = x.serviceOrderId := fun b =>
    (s.orders.filed _ _ (hf b)).symm
  induction l using List.reverseRecOn with
  | nil =>
    refine ⟨fun _ => rfl, fun b hb => ?_, fun _ => rfl, rfl, ?_, ?_⟩
    · rw [List.count_nil] at hb; omega
    · exact (OrderStore.save_of_find (hf true)).symm
    · exact List.Perm.of_eq (List.append_nil _).symm
  | append_singleton l a ih =>
    rw [ReadWrite.play_snoc]
    have hsnoc : Pair.play ev g g' s (l ++ [a]) =
        Pair.turn ev g g' (Pair.play ev g g' s l) a := by simp [Pair.play]
    rw [hsnoc]
    exact sim_turn hx (fun b => by rw [ReadWrite.play_turns]; exact Nat.zero_add _) ih a

/-! ## Serial outcomes -/

section
variable {s : Sys T} {x : ServiceOrder T} {l : List Bool} {c : Pair T}
  {m : ReadWrite.Cell (ServiceOrder T)}

/-- Where an execution that has had its four turns stands. -/
theorem held_four (event : DomainEvent T) (h h' : Stamp T) (o : ServiceOrder T) :
    ((ExecPc.held event h h' o 4).Accepted ↔ (verdict event h h' o).isSome) ∧
    ∀ prior o' out, ExecPc.held event h h' o 4 = .returned prior o' out →
      prior = o.status ∧ Accepts event h h' o o' out := by
  simp only [ExecPc.held, verdict]
  cases hr : (HandleSagaEventUseCase.apply event h h').run o with
  | error e o' =>
    refine ⟨by simp [ExecPc.Accepted], fun prior o₂ out he => ?_⟩
    simp only [reduceCtorEq] at he
  | ok out o' =>
    refine ⟨by simp [ExecPc.Accepted], fun prior o₂ out₂ he => ?_⟩
    simp only [ExecPc.returned.injEq] at he
    obtain ⟨rfl, rfl, rfl⟩ := he
    exact ⟨rfl, apply_ok_iff.mp hr⟩

variable (ev g g') in
/-- What the first execution leaves and what the second then does. -/
theorem serially_two
    (hf : ∀ b, s.orders.find (HandleSagaEventUseCase.serviceOrderId (ev b)) = some x) (b : Bool) :
    let y := (txn ev g g' b).value x
    let s' := left (serially ev g g' (!b) (left (serially ev g g' b s)))
    s'.orders = s.orders.save ((txn ev g g' (!b)).value y) ∧
    s'.log = s.log ++ sentBy ev g g' b x ++ sentBy ev g g' (!b) y ∧
    ((∃ o s', serially ev g g' b s = .ok o s') ↔ (txn ev g g' b x).isSome) ∧
    ((∃ o s', serially ev g g' (!b) (left (serially ev g g' b s)) = .ok o s') ↔
      (txn ev g g' (!b) y).isSome) := by
  intro y s'
  obtain ⟨h1, hok1⟩ := serially_state ev g g' (hf b)
  have hid : HandleSagaEventUseCase.serviceOrderId (ev (!b)) = y.serviceOrderId := by
    rw [value_id, s.orders.filed _ _ (hf (!b))]
  have hfy : (left (serially ev g g' b s)).orders.find
      (HandleSagaEventUseCase.serviceOrderId (ev (!b))) = some y := by
    rw [h1, hid]; exact OrderStore.save_find_self ..
  obtain ⟨h2, hok2⟩ := serially_state ev g g' hfy
  have hs' : s' = left (serially ev g g' (!b) (left (serially ev g g' b s))) := rfl
  rw [h2] at hs'
  refine ⟨?_, ?_, hok1, hok2⟩
  · rw [hs', h1]; exact OrderStore.save_save _ (value_id (!b) y).symm
  · rw [hs', h1]

/-- The other order of the two: the outcome is serial as soon as the second
read what the first wrote and its own result is in the register. -/
theorem asSerial_of_sim (h : Sim ev g g' s x l c m) (hl : ∀ b, l.count b = 4)
    (hf : ∀ b, s.orders.find (HandleSagaEventUseCase.serviceOrderId (ev b)) = some x) {b : Bool}
    (hb : view x m b = x) (hnb : view x m (!b) = (txn ev g g' b).value x)
    (hreg : m.reg = (txn ev g g' (!b)).value ((txn ev g g' b).value x)) :
    AsSerial ev g g' b s c := by
  obtain ⟨ho, hlog, hok1, hok2⟩ := serially_two ev g g' hf b
  have hpub : ∀ b', published ev g g' x m l b' = sentBy ev g g' b' (view x m b') := fun b' => by
    unfold published; rw [if_pos (by rw [hl])]
  refine ⟨by rw [ho, h.orders, hreg], ?_, ?_, ?_⟩
  · rw [h.pcs, hl, (held_four _ _ _ _).1, hb]; exact hok1.symm
  · rw [h.pcs, hl, (held_four _ _ _ _).1, hnb]; exact hok2.symm
  · refine h.log.trans ?_
    rw [hlog, hpub, hpub, List.append_assoc]
    refine List.Perm.append_left _ ?_
    cases b with
    | true => rw [hb, show view x m false = _ from hnb]; exact List.Perm.refl _
    | false => rw [hb, show view x m true = _ from hnb]; exact List.perm_append_comm

theorem value_length {b : Bool} {o : ServiceOrder T} (h : (txn ev g g' b o).isSome) :
    ((txn ev g g' b).value o).history.length = o.history.length + gain (ev b).eventType := by
  obtain ⟨⟨o', out⟩, ho⟩ := Option.isSome_iff_exists.mp h
  rw [ReadWrite.Txn.value_of_some ho]
  exact accepts_length (verdict_eq_some.mp ho)

/-- Both have published something, from orders of one status. -/
theorem accepts_of_mixed (h : Sim ev g g' s x l c m) (hl : ∀ b, l.count b = 4)
    (hm : c.Mixed) : (∀ b b', (view x m b).status = (view x m b').status) ∧
      ∀ b, ∃ o e, Accepts (ev b) (g b) (g' b) (view x m b) o (some e) := by
  obtain ⟨b, prior, o, o', e, e', h1, h2, -, -⟩ := hm
  rw [h.pcs, hl] at h1 h2
  obtain ⟨hp1, ha1⟩ := (held_four _ _ _ _).2 _ _ _ h1
  obtain ⟨hp2, ha2⟩ := (held_four _ _ _ _).2 _ _ _ h2
  have hst := hp1.symm.trans hp2
  constructor
  · intro b₁ b₂
    cases b <;> cases b₁ <;> cases b₂ <;> first | rfl | exact hst | exact hst.symm
  · intro b'
    by_cases hb : b' = b
    · subst hb; exact ⟨o, e, ha1⟩
    · rw [Bool.eq_not_of_ne hb]; exact ⟨o', e', ha2⟩

/-- One after the other, the second meets another status. -/
theorem not_mixed_of_serial (h : Sim ev g g' s x l c m) (hl : ∀ b, l.count b = 4) {b : Bool}
    (hb : view x m b = x) (hnb : view x m (!b) = (txn ev g g' b).value x) : ¬ c.Mixed := by
  intro hm
  obtain ⟨hst, hacc⟩ := accepts_of_mixed h hl hm
  obtain ⟨o, e, ha⟩ := hacc b
  have hst' := hst (!b) b
  rw [hb] at ha hst'
  have hval : txn ev g g' b x = some (o, some e) := verdict_eq_some.mpr ha
  rw [hnb, ReadWrite.Txn.value_of_some hval] at hst'
  exact accepts_status_ne ha hst'

/-- After an overlap the register has the later result, without the entries of
the earlier one: no serial order leaves that when both are accepted. -/
theorem not_serial_of_overlap (h : Sim ev g g' s x l c m) (hl : ∀ b, l.count b = 4)
    (hf : ∀ b, s.orders.find (HandleSagaEventUseCase.serviceOrderId (ev b)) = some x)
    (hview : ∀ b, view x m b = x) (hacc : ∀ b, (txn ev g g' b x).isSome) {b : Bool}
    (hreg : m.reg = (txn ev g g' (!b)).value x) (hq : (ev b).eventType ≠ "QUOTE_CREATED")
    (b' : Bool) : ¬ AsSerial ev g g' b' s c := by
  intro hser
  obtain ⟨ho, -, -, hok⟩ := serially_two ev g g' hf b'
  have hsecond : (txn ev g g' (!b') ((txn ev g g' b').value x)).isSome := by
    rw [← hok, ← hser.second, h.pcs, hl, (held_four _ _ _ _).1, hview]
    exact hacc _
  have hsave : s.orders.save m.reg =
      s.orders.save ((txn ev g g' (!b')).value ((txn ev g g' b').value x)) := by
    rw [← h.orders, hser.orders, ho]
  have hreg' : m.reg = (txn ev g g' (!b')).value ((txn ev g g' b').value x) := by
    have h1 := OrderStore.save_find_self s.orders m.reg
    rw [hsave, OrderStore.save_find, value_id, value_id, h.regId, if_pos rfl] at h1
    exact (Option.some.inj h1).symm
  have hlen := congrArg (fun o => o.history.length) (hreg.symm.trans hreg')
  rw [value_length (hacc _), value_length hsecond, value_length (hacc b')] at hlen
  have hgain : 1 ≤ gain (ev b).eventType := by
    unfold gain; rw [if_neg hq]; split <;> omega
  by_cases hbb : b' = b
  · subst hbb; omega
  · rw [Bool.eq_not_of_ne hbb, Bool.not_not] at hlen
    omega

/-- What an overlap leaves is serial when one of the two is refused, or the one
that saves first changes nothing. -/
theorem serial_of_overlap (h : Sim ev g g' s x l c m) (hl : ∀ b, l.count b = 4)
    (hf : ∀ b, s.orders.find (HandleSagaEventUseCase.serviceOrderId (ev b)) = some x)
    (hview : ∀ b, view x m b = x) {b : Bool}
    (hreg : m.reg = (txn ev g g' (!b)).write x ((txn ev g g' b).value x))
    (hquote : (∀ b, Takes (ev b) x) → (ev b).eventType = "QUOTE_CREATED") :
    ∃ b, AsSerial ev g g' b s c := by
  by_cases hsame : (txn ev g g' b).value x = x
  · rw [hsame] at hreg
    exact ⟨b, asSerial_of_sim h hl hf (hview b) (by rw [hsame]; exact hview _)
      (by rw [hsame]; exact hreg)⟩
  · -- the first is accepted and changes the order, so the second is refused
    have hnone : txn ev g g' (!b) x = none := by
      by_contra hsome
      obtain ⟨⟨o₂, out₂⟩, ho₂⟩ := Option.ne_none_iff_exists'.mp hsome
      cases ho₁ : txn ev g g' b x with
      | none => exact hsame (ReadWrite.Txn.value_of_none ho₁)
      | some p =>
        have ha₁ := verdict_eq_some.mp ho₁
        have hq := hquote fun b' => by
          by_cases hb : b' = b
          · subst hb; exact (takes_iff (g b') (g' b')).mpr ⟨_, _, ha₁⟩
          · rw [Bool.eq_not_of_ne hb]
            exact (takes_iff (g !b) (g' !b)).mpr ⟨_, _, verdict_eq_some.mp ho₂⟩
        exact hsame ((ReadWrite.Txn.value_of_some ho₁).trans (ha₁.unique (.noted hq)).1)
    have hval := ReadWrite.Txn.value_of_none hnone
    refine ⟨!b, asSerial_of_sim h hl hf (hview _) (by rw [hval]; exact hview _) ?_⟩
    rw [hreg, hval, Bool.not_not, ReadWrite.Txn.write_of_none hnone]

/-- And then the two have not both published. -/
theorem not_mixed_of_overlap (h : Sim ev g g' s x l c m) (hl : ∀ b, l.count b = 4)
    (hview : ∀ b, view x m b = x) {b : Bool}
    (hquote : (∀ b, Takes (ev b) x) → (ev b).eventType = "QUOTE_CREATED") : ¬ c.Mixed := by
  intro hm
  obtain ⟨-, hacc⟩ := accepts_of_mixed h hl hm
  have hq := hquote fun b => by
    obtain ⟨o, e, ha⟩ := hacc b
    rw [hview b] at ha
    exact (takes_iff (g b) (g' b)).mpr ⟨o, some e, ha⟩
  obtain ⟨o, e, ha⟩ := hacc b
  exact absurd ((accepts_out ha).mpr hq) (by simp)

end

/-- **When two executions on one order are serializable.** For two saga events
addressed to a stored order and every interleaving of their four steps, the
outcome is that of one after the other and no forward event and compensation
come from one prior status, if and only if it is not the case that both get
the order before either saves, it takes both, and the one that saves first is
no `QUOTE_CREATED`. -/
theorem serializable_iff (ev : Bool → DomainEvent T) (g g' : Bool → Stamp T) (s : Sys T)
    (x : ServiceOrder T) (sched : List Bool)
    (hf : ∀ b, s.orders.find (HandleSagaEventUseCase.serviceOrderId (ev b)) = some x)
    (hl : ∀ b, sched.count b = 4) :
    ((∃ b, AsSerial ev g g' b s (Pair.play ev g g' s sched)) ∧
      ¬ (Pair.play ev g g' s sched).Mixed) ↔ ¬ Lost ev x sched := by
  have hsim := play_simulates ev g g' hf sched
  have hshape := ReadWrite.play_shape (r := 1) (w := 3) (txn ev g g') (by omega) (by omega) x sched
  generalize Pair.play ev g g' s sched = c at *
  generalize ReadWrite.play (txn ev g g') 1 3 (ReadWrite.start x) sched = m at *
  have hview : ∀ b v, m.held b = some v → view x m b = v := fun b v hv => by
    unfold view; rw [hv]; rfl
  have h3 : ∀ b, 3 ≤ sched.count b := fun b => by rw [hl]; omega
  cases hshape with
  | unwritten hn => have := hn true; have := h3 true; omega
  | serial b hb hn hheld hlate hreg =>
    have hvb := hview b x hheld
    have hvnb := hview (!b) _ (hlate (by rw [hl]; omega))
    rw [if_pos (h3 _)] at hreg
    refine ⟨fun _ hlost => hb.not_overlap hlost.1, fun _ => ?_⟩
    exact ⟨⟨b, asSerial_of_sim hsim hl hf hvb hvnb hreg⟩, not_mixed_of_serial hsim hl hvb hvnb⟩
  | overlap b ho hn hr hheld hlast hreg =>
    have hv : ∀ b, view x m b = x := fun b => hview b x (hheld b)
    have hlast := hlast (h3 _)
    rw [if_pos (h3 _)] at hreg
    constructor
    · intro h hlost
      obtain ⟨⟨b', hser⟩, -⟩ := h
      obtain ⟨-, htakes, a, hlast', hq⟩ := hlost
      rw [hlast'.unique hlast, Bool.not_not] at hq
      have hsome : ∀ b, (txn ev g g' b x).isSome := fun b => by
        obtain ⟨o', out, ha⟩ := (takes_iff (g b) (g' b)).mp (htakes b)
        rw [txn, verdict_eq_some.mpr ha]; rfl
      have hwrite : m.reg = (txn ev g g' (!b)).value x := by
        obtain ⟨p, hp⟩ := Option.isSome_iff_exists.mp (hsome (!b))
        rw [hreg, ReadWrite.Txn.write_of_some hp, ReadWrite.Txn.value_of_some hp]
      exact not_serial_of_overlap hsim hl hf hv hsome hwrite hq b' hser
    · intro hno
      have hquote : (∀ b, Takes (ev b) x) → (ev b).eventType = "QUOTE_CREATED" := fun htakes => by
        by_contra hq
        exact hno ⟨ho, htakes, !b, hlast, by rw [Bool.not_not]; exact hq⟩
      exact ⟨serial_of_overlap hsim hl hf hv hreg hquote, not_mixed_of_overlap hsim hl hv hquote⟩

/-- The gateway confirms a payment and the worker is told that it failed. -/
def exPayments : Bool → DomainEvent Iso
  | true => exEvent "PAYMENT_CONFIRMED" "event-7" [("payment_id", .str "payment-1")]
  | false => exEvent "PAYMENT_FAILED" "event-8" []

/-- The confirmation is through before the failure gets the order. -/
theorem serializable_in_turn :
    let sched := [true, true, true, true, false, false, false, false]
    (∃ b, AsSerial exPayments exFirst exSecond b exPending
        (Pair.play exPayments exFirst exSecond exPending sched)) ∧
      ¬ (Pair.play exPayments exFirst exSecond exPending sched).Mixed :=
  (serializable_iff exPayments exFirst exSecond exPending _ _ (fun b => by cases b <;> rfl)
    fun b => by cases b <;> rfl).mpr fun h =>
      ReadWrite.Before.not_overlap (r := 1) (w := 3) (b := true)
        ⟨[true, true], [true, false, false, false, false], rfl, rfl, by decide⟩ h.1

/-- Both get the order in `PAYMENT_PENDING`. The confirmation is overwritten
after it asked for the execution, and the compensation is published as well. -/
theorem lost_confirmation :
    let c := Pair.play exPayments exFirst exSecond exPending
      [true, false, true, true, true, false, false, false]
    (sagaLts Iso .real).Reachable exPending ∧
      ¬ ((∃ b, AsSerial exPayments exFirst exSecond b exPending c) ∧ ¬ c.Mixed) ∧
      c.Mixed ∧ (c.sys.orders.find "os-1").map ServiceOrder.statuses =
        some [.opened, .quoteRequested, .quoteApproved, .paymentPending, .paymentFailed] := by
  intro c
  have hlast : (c.sys.orders.find "os-1").map ServiceOrder.statuses =
      some [.opened, .quoteRequested, .quoteApproved, .paymentPending, .paymentFailed] := rfl
  refine ⟨exPending_reachable, ?_,
    ⟨false, .paymentPending, _, _, _, _, rfl, rfl, rfl, by decide⟩, hlast⟩
  intro h
  obtain ⟨⟨b, hb⟩, -⟩ := h
  cases b with
  | true =>
    -- in this order the history has the confirmation as well
    rw [hb.orders] at hlast
    exact absurd hlast (by decide)
  | false =>
    -- in this order the confirmation is refused
    obtain ⟨o, s', hr⟩ := hb.second.mp trivial
    cases hr

end ServiceOrderOs.Concurrency
