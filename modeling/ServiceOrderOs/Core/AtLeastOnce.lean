import ServiceOrderOs.Core.Lts

/-!
# A queue that delivers at least once

One consumer works on the messages of a queue, over a store that others change
too. The queue hands out its first message and waits. A message that is not
settled because the consumer has stopped is the first again, so it may be
attempted any number of times; what an attempt sends goes to the end.

* `inOrder_inductive`: what is settled, in hand and ready is what arrived, in
  its order.
* `store_inductive`: an invariant of the store, from the attempts and the
  others.
* `Attested.inductive`, `Sourced.inductive`: what an ack says of its message, and
  that the store has what it has from messages that arrived.
* `Idempotent.at_most_once`: of the attempts at a message at most one changes
  the store, when the store remembers.
* `Priced.rounds_drain`: a price on messages that every attempt pays bounds
  the attempts that empty the queue.
-/
namespace Core

/-- How an attempt ends: settled in one of two ways, or not at all. -/
inductive Ending where
  | acked | dropped | lost
  deriving DecidableEq, Repr

structure Attempted (S M : Type) where
  store : S
  sent : List M
  ending : Ending

/-- An `A` says how an attempt goes, a `B` what others do to the store. -/
structure Consumer (S M A B : Type) where
  attempt : A → M → S → Attempted S M
  other : B → S → S × List M
  allowed : B → S → Prop

structure Queue (S M : Type) where
  store : S
  inHand : Option M
  ready : List M
  /-- ghost: what was settled, and whether it was acked -/
  settled : List (M × Bool)
  /-- ghost: all that was ever sent here -/
  arrived : List M

inductive QueueLabel (A B M : Type) where
  | other (b : B)
  | arrive (m : M)
  | take
  | attempt (a : A)
  | disconnect

namespace QueueLabel
variable {A B M : Type}

/-- The call of another. -/
def call : QueueLabel A B M → Option B
  | .other b => some b
  | _ => none

/-- The message from outside. -/
def arrival : QueueLabel A B M → Option M
  | .arrive m => some m
  | _ => none

end QueueLabel

namespace Queue
variable {S M A B : Type} {C : Consumer S M A B}

def idle (s : S) : Queue S M := ⟨s, none, [], [], []⟩

/-- What is not settled, the message in hand first. -/
def pending (q : Queue S M) : List M := q.inHand.toList ++ q.ready

def enqueue (q : Queue S M) (ms : List M) : Queue S M :=
  { q with ready := q.ready ++ ms, arrived := q.arrived ++ ms }

/-- One message at a time. -/
def take (q : Queue S M) : Queue S M :=
  match q.inHand, q.ready with
  | none, m :: ms => { q with inHand := some m, ready := ms }
  | _, _ => q

def requeue (q : Queue S M) : Queue S M := { q with inHand := none, ready := q.pending }

def settle (q : Queue S M) (m : M) : Ending → Queue S M
  | .lost => q.requeue
  | .acked => { q with inHand := none, settled := q.settled ++ [(m, true)] }
  | .dropped => { q with inHand := none, settled := q.settled ++ [(m, false)] }

/-- The work on a message. -/
def work (C : Consumer S M A B) (a : A) (m : M) (q : Queue S M) : Queue S M :=
  let r := C.attempt a m q.store
  (({ q with store := r.store } : Queue S M).enqueue r.sent).settle m r.ending

def attempt (C : Consumer S M A B) (a : A) (q : Queue S M) : Queue S M :=
  match q.inHand with
  | none => q
  | some m => q.work C a m

def next (C : Consumer S M A B) (q : Queue S M) : QueueLabel A B M → Queue S M
  | .other b => ({ q with store := (C.other b q.store).1 } : Queue S M).enqueue (C.other b q.store).2
  | .arrive m => q.enqueue [m]
  | .take => q.take
  | .attempt a => q.attempt C a
  | .disconnect => q.requeue

def Allowed (C : Consumer S M A B) (q : Queue S M) : QueueLabel A B M → Prop
  | .other b => C.allowed b q.store
  | _ => True

end Queue

open Queue

variable {S M A B V : Type} {C : Consumer S M A B} {start : S → Prop}

def queueLts (C : Consumer S M A B) (start : S → Prop) : Lts (Queue S M) (QueueLabel A B M) where
  init q := ∃ s, start s ∧ q = idle s
  step q l q' := q.Allowed C l ∧ q' = q.next C l

/-! ## Where the messages are -/

namespace Queue

@[simp] theorem enqueue_store (q : Queue S M) (ms : List M) : (q.enqueue ms).store = q.store := rfl

@[simp] theorem enqueue_inHand (q : Queue S M) (ms : List M) :
    (q.enqueue ms).inHand = q.inHand := rfl

@[simp] theorem enqueue_ready (q : Queue S M) (ms : List M) :
    (q.enqueue ms).ready = q.ready ++ ms := rfl

theorem enqueue_pending (q : Queue S M) (ms : List M) :
    (q.enqueue ms).pending = q.pending ++ ms := (List.append_assoc _ _ _).symm

@[simp] theorem requeue_store (q : Queue S M) : q.requeue.store = q.store := rfl

@[simp] theorem take_store (q : Queue S M) : q.take.store = q.store := by
  unfold take; split <;> rfl

@[simp] theorem settle_store (q : Queue S M) (m : M) (e : Ending) :
    (q.settle m e).store = q.store := by
  cases e <;> rfl

@[simp] theorem work_store (q : Queue S M) (a : A) (m : M) :
    (q.work C a m).store = (C.attempt a m q.store).store := by
  unfold work; simp

/-- What is settled, in hand and ready is what arrived, in its order. -/
def InOrder (q : Queue S M) : Prop := q.settled.map Prod.fst ++ q.pending = q.arrived

theorem InOrder.enqueue {q : Queue S M} (h : q.InOrder) (ms : List M) : (q.enqueue ms).InOrder := by
  show q.settled.map Prod.fst ++ (q.inHand.toList ++ (q.ready ++ ms)) = q.arrived ++ ms
  rw [← List.append_assoc q.inHand.toList, ← List.append_assoc]
  exact congrArg (· ++ ms) h

theorem take_pending (q : Queue S M) : q.take.pending = q.pending := by
  unfold take
  split
  · rename_i m ms hhand hready
    show m :: ms = q.inHand.toList ++ q.ready
    rw [hhand, hready]
    rfl
  · rfl

theorem InOrder.take {q : Queue S M} (h : q.InOrder) : q.take.InOrder := by
  have hrest : q.take.settled = q.settled ∧ q.take.arrived = q.arrived := by
    unfold Queue.take; split <;> exact ⟨rfl, rfl⟩
  unfold InOrder
  rw [take_pending, hrest.1, hrest.2]
  exact h

theorem InOrder.settle {q : Queue S M} (h : q.InOrder) {m : M} (hm : q.inHand = some m)
    (e : Ending) : (q.settle m e).InOrder := by
  unfold InOrder pending at h
  rw [hm] at h
  cases e with
  | lost =>
    show q.settled.map Prod.fst ++ (q.inHand.toList ++ q.ready) = q.arrived
    rw [hm, h]
  | acked | dropped =>
    show (q.settled ++ [(m, _)]).map Prod.fst ++ q.ready = q.arrived
    rw [List.map_append, List.append_assoc]
    exact h

theorem InOrder.attempt {q : Queue S M} (h : q.InOrder) (a : A) : (q.attempt C a).InOrder := by
  unfold Queue.attempt
  split
  · exact h
  · rename_i m hm
    have hsent : (({ q with store := (C.attempt a m q.store).store } : Queue S M).enqueue
        (C.attempt a m q.store).sent).InOrder := InOrder.enqueue h _
    exact hsent.settle hm _

end Queue

theorem inOrder_inductive : (queueLts C start).Inductive InOrder where
  init := by
    rintro q ⟨s, -, rfl⟩
    rfl
  step := by
    rintro q l _ h ⟨-, rfl⟩
    cases l with
    | other b => exact InOrder.enqueue (q := { q with store := (C.other b q.store).1 }) h _
    | arrive m => exact h.enqueue [m]
    | take => exact h.take
    | attempt a => exact h.attempt a
    | disconnect => exact h

/-! ## What becomes of the store -/

/-- A step leaves the store alone, is an attempt at the message in hand, or is
one of the others. -/
theorem next_store (q : Queue S M) (l : QueueLabel A B M) : (q.next C l).store = q.store ∨
    (∃ a m, l = .attempt a ∧ q.inHand = some m ∧
      (q.next C l).store = (C.attempt a m q.store).store) ∨
    ∃ b, l = .other b ∧ (q.next C l).store = (C.other b q.store).1 := by
  cases l with
  | other b => exact .inr (.inr ⟨b, rfl, rfl⟩)
  | arrive m => exact .inl rfl
  | take => exact .inl q.take_store
  | disconnect => exact .inl rfl
  | attempt a =>
    show (q.attempt C a).store = q.store ∨ _
    cases hm : q.inHand with
    | none => exact .inl (by rw [Queue.attempt, hm])
    | some m =>
      refine .inr (.inl ⟨a, m, rfl, rfl, ?_⟩)
      show (q.attempt C a).store = _
      rw [Queue.attempt, hm]
      exact q.work_store a m

/-- Kept by every attempt and by what the others may do. -/
structure StoreInvariant (C : Consumer S M A B) (I : S → Prop) : Prop where
  attempt : ∀ a m s, I s → I (C.attempt a m s).store
  other : ∀ b s, I s → C.allowed b s → I (C.other b s).1

variable {I : S → Prop}

theorem StoreInvariant.step (h : StoreInvariant C I) {q q' : Queue S M} {l : QueueLabel A B M}
    (hq : I q.store) (hs : (queueLts C start).step q l q') : I q'.store := by
  obtain ⟨hallowed, rfl⟩ := hs
  rcases next_store (C := C) q l with hstay | ⟨a, m, -, -, hstore⟩ | ⟨b, rfl, hstore⟩
  · rw [hstay]; exact hq
  · rw [hstore]; exact h.attempt a m _ hq
  · rw [hstore]; exact h.other b _ hq hallowed

theorem store_inductive (h : StoreInvariant C I) (hstart : ∀ s, start s → I s) :
    (queueLts C start).Inductive fun q => I q.store where
  init := by
    rintro q ⟨s, hs, rfl⟩
    exact hstart s hs
  step _ _ _ hq hs := h.step hq hs

/-- What attempts and the others cannot take from a message. -/
structure Stable (C : Consumer S M A B) (I : S → Prop) (P : M → S → Prop) : Prop where
  inv : StoreInvariant C I
  attempt : ∀ a m m' s, I s → P m s → P m (C.attempt a m' s).store
  other : ∀ b m s, I s → P m s → C.allowed b s → P m (C.other b s).1

theorem Stable.step {P : M → S → Prop} (h : Stable C I P) {q q' : Queue S M}
    {l : QueueLabel A B M} {m : M} (hq : I q.store) (hm : P m q.store)
    (hs : (queueLts C start).step q l q') : P m q'.store := by
  obtain ⟨hallowed, rfl⟩ := hs
  rcases next_store (C := C) q l with hstay | ⟨a, m', -, -, hstore⟩ | ⟨b, rfl, hstore⟩
  · rw [hstay]; exact hm
  · rw [hstore]; exact h.attempt a m m' _ hq hm
  · rw [hstore]; exact h.other b m _ hq hm hallowed

/-! ## What an ack says, and where the store has it from -/

/-- A step that acks is an attempt that is acked. -/
theorem next_acked {q : Queue S M} {l : QueueLabel A B M} {m : M}
    (h : (m, true) ∈ (q.next C l).settled) : (m, true) ∈ q.settled ∨
      ∃ a, (C.attempt a m q.store).ending = .acked ∧
        (q.next C l).store = (C.attempt a m q.store).store := by
  cases l with
  | other b => exact .inl h
  | arrive m => exact .inl h
  | disconnect => exact .inl h
  | take =>
    have ht : q.take.settled = q.settled := by unfold Queue.take; split <;> rfl
    exact .inl (ht ▸ h)
  | attempt a =>
    have h : (m, true) ∈ (q.attempt C a).settled := h
    show _ ∨ ∃ a', _ ∧ (q.attempt C a).store = _
    cases hm : q.inHand with
    | none => rw [Queue.attempt, hm] at h; exact .inl h
    | some m' =>
      rw [Queue.attempt, hm] at h ⊢
      dsimp only at h ⊢
      rw [Queue.work_store]
      unfold Queue.work at h
      dsimp only at h
      cases he : (C.attempt a m' q.store).ending with
      | lost => rw [he] at h; exact .inl h
      | dropped =>
        rw [he] at h
        rcases List.mem_append.mp h with h | h
        · exact .inl h
        · cases (Prod.mk.inj (List.mem_singleton.mp h)).2
      | acked =>
        rw [he] at h
        rcases List.mem_append.mp h with h | h
        · exact .inl h
        · obtain ⟨rfl, -⟩ := Prod.mk.inj (List.mem_singleton.mp h)
          exact .inr ⟨a, he, rfl⟩

/-- An ack says `P` of its message, and `P` stays. -/
structure Attested (C : Consumer S M A B) (I : S → Prop) (P : M → S → Prop) : Prop where
  stable : Stable C I P
  acked : ∀ a m s, I s → (C.attempt a m s).ending = .acked → P m (C.attempt a m s).store

theorem Attested.inductive {P : M → S → Prop} (h : Attested C I P) (hstart : ∀ s, start s → I s) :
    (queueLts C start).Inductive fun q =>
      I q.store ∧ ∀ m, (m, true) ∈ q.settled → P m q.store where
  init := by
    rintro q ⟨s, hs, rfl⟩
    exact ⟨hstart s hs, fun m hm => by cases hm⟩
  step := by
    intro q l q' hq hs
    refine ⟨h.stable.inv.step hq.1 hs, fun m hm => ?_⟩
    have hnext : q' = q.next C l := hs.2
    rcases next_acked (hnext ▸ hm) with hold | ⟨a, hacked, hstore⟩
    · exact h.stable.step hq.1 (hq.2 m hold) hs
    · rw [hnext, hstore]
      exact h.acked a m _ hq.1 hacked

/-- `P` says that the store has what it has from messages of the list. -/
structure Sourced (C : Consumer S M A B) (I : S → Prop) (P : S → List M → Prop) : Prop where
  inv : StoreInvariant C I
  more : ∀ s ms ms', P s ms → P s (ms ++ ms')
  attempt : ∀ a m s ms, I s → m ∈ ms → P s ms → P (C.attempt a m s).store ms
  other : ∀ b s ms, I s → C.allowed b s → P s ms → P (C.other b s).1 ms

theorem next_arrived (q : Queue S M) (l : QueueLabel A B M) :
    ∃ ms, (q.next C l).arrived = q.arrived ++ ms := by
  cases l with
  | other b => exact ⟨_, rfl⟩
  | arrive m => exact ⟨[m], rfl⟩
  | take =>
    have ht : q.take.arrived = q.arrived := by unfold Queue.take; split <;> rfl
    exact ⟨[], ht.trans (List.append_nil _).symm⟩
  | disconnect => exact ⟨[], (List.append_nil _).symm⟩
  | attempt a =>
    show ∃ ms, (q.attempt C a).arrived = _
    cases hm : q.inHand with
    | none => exact ⟨[], by rw [Queue.attempt, hm, List.append_nil]⟩
    | some m =>
      refine ⟨(C.attempt a m q.store).sent, ?_⟩
      rw [Queue.attempt, hm]
      dsimp only
      unfold Queue.work
      dsimp only
      cases (C.attempt a m q.store).ending <;> rfl

/-- What has arrived stays so. -/
theorem run_arrived {q q' : Queue S M} {ls : List (QueueLabel A B M)}
    (h : (queueLts C start).Run q ls q') : q.arrived <+: q'.arrived := by
  induction h with
  | nil => exact List.prefix_rfl
  | @cons q _ _ l _ hs _ ih =>
    obtain ⟨-, rfl⟩ := hs
    obtain ⟨ms, hms⟩ := next_arrived (C := C) q l
    rw [hms] at ih
    exact (List.prefix_append _ ms).trans ih

theorem Sourced.inductive {P : S → List M → Prop} (h : Sourced C I P)
    (hstart : ∀ s, start s → I s ∧ P s []) :
    (queueLts C start).Inductive fun q => I q.store ∧ q.InOrder ∧ P q.store q.arrived where
  init := by
    rintro q ⟨s, hs, rfl⟩
    exact ⟨(hstart s hs).1, rfl, (hstart s hs).2⟩
  step := by
    intro q l q' hq hs
    obtain ⟨hI, horder, hP⟩ := hq
    refine ⟨h.inv.step hI hs, inOrder_inductive.step q l q' horder hs, ?_⟩
    obtain ⟨hallowed, rfl⟩ := hs
    obtain ⟨ms, hms⟩ := next_arrived (C := C) q l
    rw [hms]
    refine h.more _ _ ms ?_
    rcases next_store (C := C) q l with hstay | ⟨a, m, -, hm, hstore⟩ | ⟨b, rfl, hstore⟩
    · rw [hstay]; exact hP
    · have hmem : m ∈ q.arrived := by
        rw [← horder, Queue.pending, hm]
        simp
      rw [hstore]; exact h.attempt a m _ _ hI hmem hP
    · rw [hstore]; exact h.other b _ _ hI hallowed hP

/-! ## At most one attempt tells -/

/-- The store remembers a message once an attempt at it has changed the view of
the store: `Spent` stays, and attempts at a spent message change nothing. -/
structure Idempotent (C : Consumer S M A B) (view : S → V) (I : S → Prop) (Spent : M → S → Prop) :
    Prop where
  stable : Stable C I Spent
  changed : ∀ a m s, I s → view (C.attempt a m s).store ≠ view s → Spent m (C.attempt a m s).store
  inert : ∀ a m s, I s → Spent m s → view (C.attempt a m s).store = view s

variable {view : S → V} {Spent : M → S → Prop}

/-- Once an attempt at `m` has changed the view, no later attempt at `m` does,
whatever happens between the two. -/
theorem Idempotent.at_most_once (h : Idempotent C view I Spent) {q q' : Queue S M} {m : M}
    {a a' : A} {ls : List (QueueLabel A B M)} (hq : I q.store) (hm : q.inHand = some m)
    (hchange : view (q.next C (.attempt a)).store ≠ view q.store)
    (hr : (queueLts C start).Run (q.next C (.attempt a)) ls q') (hm' : q'.inHand = some m) :
    view (q'.next C (.attempt a')).store = view q'.store := by
  have hstore : ∀ (p : Queue S M) (b : A), p.inHand = some m →
      (p.next C (.attempt b)).store = (C.attempt b m p.store).store := by
    intro p b hp
    show (p.attempt C b).store = _
    rw [Queue.attempt, hp]
    exact p.work_store b m
  rw [hstore q a hm] at hchange
  have hfirst : I (q.next C (.attempt a)).store ∧ Spent m (q.next C (.attempt a)).store := by
    rw [hstore q a hm]
    exact ⟨h.stable.inv.attempt a m _ hq, h.changed a m _ hq hchange⟩
  obtain ⟨hI, hspent⟩ := hr.inv (I := fun p => I p.store ∧ Spent m p.store)
    (fun _ _ _ hp hs => ⟨h.stable.inv.step hp.1 hs, h.stable.step hp.1 hp.2 hs⟩) hfirst
  rw [hstore q' a' hm']
  exact h.inert a' m _ hI hspent

/-! ## Emptying the queue -/

/-- The next message is taken and attempted. -/
def Queue.round (C : Consumer S M A B) (q : Queue S M) (a : A) : Queue S M := q.take.attempt C a

def Queue.rounds (C : Consumer S M A B) (q : Queue S M) (as : List A) : Queue S M :=
  as.foldl (Queue.round C) q

/-- The price of a list of messages. -/
def total (cost : M → Nat) : List M → Nat
  | [] => 0
  | m :: ms => cost m + total cost ms

/-- A price on messages that an attempt pays: to settle a message costs more
than what is sent for it, and a lost attempt makes nothing dearer. The attempts
of the kind `good` are not lost. -/
structure Priced (C : Consumer S M A B) (I : S → Prop) (cost : M → S → Nat) (good : A → Bool) :
    Prop where
  inv : ∀ a m s, I s → I (C.attempt a m s).store
  pos : ∀ m s, 0 < cost m s
  kept : ∀ a m m' s, I s → cost m' (C.attempt a m s).store ≤ cost m' s
  settled : ∀ a m s, I s → (C.attempt a m s).ending ≠ .lost →
    total (cost · (C.attempt a m s).store) (C.attempt a m s).sent < cost m s
  lost : ∀ a m s, I s → (C.attempt a m s).ending = .lost →
    cost m (C.attempt a m s).store +
      total (cost · (C.attempt a m s).store) (C.attempt a m s).sent ≤ cost m s
  good : ∀ a m s, good a = true → I s → (C.attempt a m s).ending ≠ .lost

/-- What is not settled, at its price. -/
def Queue.debt (cost : M → S → Nat) (q : Queue S M) : Nat := total (cost · q.store) q.pending

section Rounds
variable {cost : M → S → Nat} {good : A → Bool}

theorem total_append (f : M → Nat) (ms ms' : List M) :
    total f (ms ++ ms') = total f ms + total f ms' := by
  induction ms with
  | nil => exact (Nat.zero_add _).symm
  | cons m ms ih =>
    simp only [List.cons_append, total, ih]
    omega

theorem total_le {f g : M → Nat} (h : ∀ m, f m ≤ g m) (ms : List M) :
    total f ms ≤ total g ms := by
  induction ms with
  | nil => exact Nat.le_refl 0
  | cons m ms ih => exact Nat.add_le_add (h m) ih

theorem total_const {f : M → Nat} {n : Nat} {ms : List M} (h : ∀ m ∈ ms, f m = n) :
    total f ms = ms.length * n := by
  induction ms with
  | nil => exact (Nat.zero_mul n).symm
  | cons m ms ih =>
    rw [total, h m List.mem_cons_self, ih fun m' hm' => h m' (List.mem_cons_of_mem m hm'),
      List.length_cons, Nat.succ_mul, Nat.add_comm]

theorem round_idle {q : Queue S M} (h : q.pending = []) (a : A) : q.round C a = q := by
  obtain ⟨hh, hr⟩ := List.append_eq_nil_iff.mp h
  have hnone : q.inHand = none := by
    cases hq : q.inHand with
    | none => rfl
    | some m => rw [hq] at hh; cases hh
  have ht : q.take = q := by unfold Queue.take; rw [hnone, hr]
  rw [Queue.round, ht, Queue.attempt, hnone]

/-- A round is the work on the first message. -/
theorem round_work {q : Queue S M} {m : M} {ms : List M} (h : q.pending = m :: ms) (a : A) :
    ∃ q' : Queue S M, q.round C a = q'.work C a m ∧ q'.inHand = some m ∧ q'.ready = ms ∧
      q'.store = q.store := by
  unfold Queue.pending at h
  cases hh : q.inHand with
  | some m₁ =>
    rw [hh] at h
    obtain ⟨rfl, hr⟩ := List.cons.inj h
    have ht : q.take = q := by unfold Queue.take; rw [hh]
    exact ⟨q, by rw [Queue.round, ht, Queue.attempt, hh], hh, hr, rfl⟩
  | none =>
    rw [hh] at h
    have hr : q.ready = m :: ms := h
    have ht : q.take = { q with inHand := some m, ready := ms } := by
      unfold Queue.take; rw [hh, hr]
    exact ⟨{ q with inHand := some m, ready := ms }, by rw [Queue.round, ht]; rfl, rfl, rfl, rfl⟩

theorem work_pending {q : Queue S M} {m : M} (hm : q.inHand = some m) (a : A) :
    (q.work C a m).pending =
      if (C.attempt a m q.store).ending = .lost
      then m :: (q.ready ++ (C.attempt a m q.store).sent)
      else q.ready ++ (C.attempt a m q.store).sent := by
  unfold Queue.work
  dsimp only
  cases (C.attempt a m q.store).ending with
  | lost =>
    show [] ++ (q.inHand.toList ++ (q.ready ++ _)) = _
    rw [hm]; rfl
  | acked | dropped => rfl

variable (hp : Priced C I cost good)
include hp

theorem Priced.round_debt {q : Queue S M} (hq : I q.store) (h : q.pending ≠ []) (a : A) :
    (q.round C a).debt cost ≤ q.debt cost ∧
      (good a = true → (q.round C a).debt cost < q.debt cost) := by
  obtain ⟨m, ms, hms⟩ := List.exists_cons_of_ne_nil h
  obtain ⟨q', hround, hhand, hready, hstore⟩ := round_work (C := C) hms a
  have hrest := total_le (fun m' => hp.kept a m m' q.store hq) ms
  have hbefore : q.debt cost = cost m q.store + total (cost · q.store) ms := by
    rw [Queue.debt, hms]; rfl
  unfold Queue.debt at hbefore ⊢
  rw [hbefore, hround, work_pending hhand, Queue.work_store, hstore, hready]
  by_cases he : (C.attempt a m q.store).ending = .lost
  · have hlost := hp.lost a m q.store hq he
    rw [if_pos he]
    simp only [total, total_append]
    exact ⟨by omega, fun hgood => absurd he (hp.good a m _ hgood hq)⟩
  · have hsettled := hp.settled a m q.store hq he
    rw [if_neg he]
    rw [total_append]
    exact ⟨by omega, fun _ => by omega⟩

theorem Priced.round_inv {q : Queue S M} (hq : I q.store) (a : A) : I (q.round C a).store := by
  by_cases h : q.pending = []
  · rw [round_idle h]; exact hq
  · obtain ⟨m, ms, hms⟩ := List.exists_cons_of_ne_nil h
    obtain ⟨q', hround, -, -, hstore⟩ := round_work (C := C) hms a
    rw [hround, Queue.work_store, hstore]
    exact hp.inv a m _ hq

/-- By induction on the rounds: one that is `good` pays something, another
costs nothing. -/
theorem Priced.rounds_drain (as : List A) {q : Queue S M} (hq : I q.store)
    (h : q.debt cost ≤ as.countP good) : (q.rounds C as).pending = [] := by
  induction as generalizing q with
  | nil =>
    show q.pending = []
    cases hms : q.pending with
    | nil => rfl
    | cons m ms =>
      have hpos := hp.pos m q.store
      rw [Queue.debt, hms, total, List.countP_nil] at h
      omega
  | cons a as ih =>
    show ((q.round C a).rounds C as).pending = []
    by_cases hidle : q.pending = []
    · have hzero : q.debt cost = 0 := by rw [Queue.debt, hidle]; rfl
      rw [round_idle hidle]
      exact ih hq (by omega)
    · obtain ⟨hle, hlt⟩ := hp.round_debt hq hidle a
      refine ih (hp.round_inv hq a) ?_
      rw [List.countP_cons] at h
      by_cases hgood : good a = true
      · have hpaid := hlt hgood
        rw [if_pos hgood] at h
        omega
      · rw [if_neg hgood] at h
        omega

omit hp

/-- The rounds are steps of the queue. -/
theorem rounds_run (q : Queue S M) (as : List A) :
    ∃ ls, (queueLts C start).Run q ls (q.rounds C as) := by
  induction as generalizing q with
  | nil => exact ⟨[], .nil q⟩
  | cons a as ih =>
    obtain ⟨ls, hr⟩ := ih (q.round C a)
    exact ⟨.take :: .attempt a :: ls, .cons ⟨trivial, rfl⟩ (.cons ⟨trivial, rfl⟩ hr)⟩

end Rounds
end Core
