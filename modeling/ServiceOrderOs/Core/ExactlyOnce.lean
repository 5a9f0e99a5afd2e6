import ServiceOrderOs.Core.AtLeastOnce

/-!
# At least once, seen as exactly once

Let the store tell which message it has served. Then a consumer that attempts
its messages any number of times does what a system does that serves each of
them once: in the order of their arrival, with what others do in between.

* `Observed`: a run, seen by what it serves and what the others do in it.
* `Serves.step`, `Serves.run`: the queue in step with such a run.
-/
namespace Core
open Queue

variable {S M A B L X : Type} {C : Consumer S M A B} {start : S → Prop} {N : Lts S L}

/-- A step of `N` may serve an `X`, or be a call of another. -/
structure Observer (L X B : Type) where
  served : L → Option X
  called : L → Option B

/-- Some run of `N` serves `xs` and has the calls `bs`. -/
def Observed (N : Lts S L) (v : Observer L X B) (s : S) (xs : List X) (bs : List B) (s' : S) : Prop :=
  ∃ ls, N.Run s ls s' ∧ ls.filterMap v.served = xs ∧ ls.filterMap v.called = bs

namespace Observed
variable {v : Observer L X B} {s s' s'' : S} {xs xs' : List X} {bs bs' : List B}

theorem nil (s : S) : Observed N v s [] [] s := ⟨[], .nil s, rfl, rfl⟩

theorem append (h : Observed N v s xs bs s') (h' : Observed N v s' xs' bs' s'') :
    Observed N v s (xs ++ xs') (bs ++ bs') s'' := by
  obtain ⟨ls, hr, rfl, rfl⟩ := h
  obtain ⟨ls', hr', rfl, rfl⟩ := h'
  exact ⟨ls ++ ls', hr.append hr', List.filterMap_append, List.filterMap_append⟩

/-- One message more. -/
theorem serve {reads : M → Option X} {ms : List M} {m : M}
    (h : Observed N v s (ms.filterMap reads) bs s')
    (h' : Observed N v s' (reads m).toList [] s'') :
    Observed N v s ((ms ++ [m]).filterMap reads) bs s'' := by
  have hone : [m].filterMap reads = (reads m).toList := by
    cases hread : reads m <;> simp [hread]
  have hall := h.append h'
  rw [List.append_nil] at hall
  rw [List.filterMap_append, hone]
  exact hall

theorem run (h : Observed N v s xs bs s') : ∃ ls, N.Run s ls s' := by
  obtain ⟨ls, hr, -⟩ := h
  exact ⟨ls, hr⟩

end Observed

/-- Every attempt at a message serves it, or is lost and does nothing. After
one that serves it and is lost, the store tells, and further attempts do
nothing. `reads` is what there is to serve of a message. -/
structure Serves (C : Consumer S M A B) (N : Lts S L) (v : Observer L X B) (I : S → Prop)
    (Told : M → S → Prop) (reads : M → Option X) : Prop where
  stable : Stable C I Told
  attempt : ∀ a m s, I s →
    ((C.attempt a m s).ending = .lost ∧ (C.attempt a m s).store = s) ∨
    (((C.attempt a m s).ending = .lost → Told m (C.attempt a m s).store) ∧
      Observed N v s (reads m).toList [] (C.attempt a m s).store)
  told : ∀ a m s, I s → Told m s → (C.attempt a m s).store = s
  other : ∀ b s, I s → C.allowed b s → Observed N v s [] [b] (C.other b s).1

/-- The queue `q`, and a run of `N` that has served what is settled, and the
first message if the store tells it. -/
structure InStep (N : Lts S L) (v : Observer L X B) (Told : M → S → Prop) (reads : M → Option X)
    (s₀ : S) (bs : List B) (q : Queue S M) (begun : List M) : Prop where
  first : begun = [] ∨ ∃ m ms, q.pending = m :: ms ∧ begun = [m] ∧ Told m q.store
  observed : Observed N v s₀ ((q.settled.map Prod.fst ++ begun).filterMap reads) bs q.store

variable {v : Observer L X B} {I : S → Prop} {Told : M → S → Prop} {reads : M → Option X} {s₀ : S}
  {bs : List B} {q q' : Queue S M} {begun : List M}

theorem InStep.of_eq (h : InStep N v Told reads s₀ bs q begun) (hstore : q'.store = q.store)
    (hsettled : q'.settled = q.settled) (hpending : q.pending <+: q'.pending) :
    InStep N v Told reads s₀ bs q' begun where
  first := by
    rcases h.first with h | ⟨m, ms, hm, hbegun, htold⟩
    · exact .inl h
    · obtain ⟨ms', hms⟩ := hpending
      exact .inr ⟨m, ms ++ ms', by rw [← hms, hm, List.cons_append], hbegun, hstore ▸ htold⟩
  observed := by
    rw [hstore, hsettled]
    exact h.observed

theorem InStep.silent (h : InStep N v Told reads s₀ bs q begun) {l : QueueLabel A B M}
    (hl : l.call = none) : InStep N v Told reads s₀ (bs ++ l.call.toList) q begun := by
  rw [hl, Option.toList_none, List.append_nil]
  exact h

theorem take_settled (q : Queue S M) : q.take.settled = q.settled := by
  unfold Queue.take; split <;> rfl

theorem work_settled (q : Queue S M) (a : A) (m : M) :
    (q.work C a m).settled.map Prod.fst = q.settled.map Prod.fst ++
      if (C.attempt a m q.store).ending = .lost then [] else [m] := by
  unfold Queue.work
  dsimp only
  cases (C.attempt a m q.store).ending with
  | lost => exact (List.append_nil _).symm
  | acked | dropped => exact List.map_append

section Serves
variable (hv : Serves C N v I Told reads)
include hv

/-- The work on the message in hand. -/
theorem Serves.work (hI : I q.store) (h : InStep N v Told reads s₀ bs q begun) {m : M}
    (hm : q.inHand = some m) (a : A) :
    ∃ begun', InStep N v Told reads s₀ bs (q.work C a m) begun' := by
  have hpending : q.pending = m :: q.ready := by rw [Queue.pending, hm]; rfl
  -- the message that has begun is the one in hand, and its store tells it
  have hfirst : begun = [] ∨ begun = [m] ∧ Told m q.store := by
    rcases h.first with h | ⟨m', ms, hm', hbegun, htold⟩
    · exact .inl h
    · rw [hpending] at hm'
      obtain ⟨rfl, -⟩ := List.cons.inj hm'
      exact .inr ⟨hbegun, htold⟩
  have hsettled := work_settled (C := C) q a m
  have hrest := work_pending (C := C) hm a
  have hstore := q.work_store (C := C) a m
  have hobs := h.observed
  by_cases hlost : (C.attempt a m q.store).ending = .lost
  · rw [if_pos hlost] at hsettled hrest
    rw [List.append_nil] at hsettled
    rcases hfirst with rfl | ⟨rfl, htold⟩
    · rcases hv.attempt a m q.store hI with ⟨-, hsame⟩ | ⟨htold, hserved⟩
      · exact ⟨[], .inl rfl, by rw [hstore, hsame, hsettled]; exact hobs⟩
      · refine ⟨[m], .inr ⟨m, _, hrest, rfl, hstore ▸ htold hlost⟩, ?_⟩
        rw [hstore, hsettled]
        rw [List.append_nil] at hobs
        exact hobs.serve hserved
    · have hsame := hv.told a m q.store hI htold
      refine ⟨[m], .inr ⟨m, _, hrest, rfl, by rw [hstore, hsame]; exact htold⟩, ?_⟩
      rw [hstore, hsame, hsettled]
      exact hobs
  · rw [if_neg hlost] at hsettled
    refine ⟨[], .inl rfl, ?_⟩
    rw [hstore, hsettled, List.append_nil]
    rcases hfirst with rfl | ⟨rfl, htold⟩
    · rcases hv.attempt a m q.store hI with ⟨hno, -⟩ | ⟨-, hserved⟩
      · exact absurd hno hlost
      · rw [List.append_nil] at hobs
        exact hobs.serve hserved
    · rw [hv.told a m q.store hI htold]
      exact hobs

theorem Serves.step (hI : I q.store) (h : InStep N v Told reads s₀ bs q begun)
    {l : QueueLabel A B M} (hs : (queueLts C start).step q l q') :
    ∃ begun', InStep N v Told reads s₀ (bs ++ l.call.toList) q' begun' := by
  obtain ⟨hallowed, rfl⟩ := hs
  cases l with
  | other b =>
    refine ⟨begun, ?_, ?_⟩
    · rcases h.first with h | ⟨m, ms, hm, hbegun, htold⟩
      · exact .inl h
      · refine .inr ⟨m, ms ++ (C.other b q.store).2, ?_, hbegun,
          hv.stable.other b m _ hI htold hallowed⟩
        rw [Queue.next, enqueue_pending, ← List.cons_append, ← hm]
        rfl
    · have hall := h.observed.append (hv.other b q.store hI hallowed)
      rw [List.append_nil] at hall
      exact hall
  | arrive m =>
    have hnext : InStep N v Told reads s₀ bs (q.enqueue [m]) begun :=
      h.of_eq rfl rfl (enqueue_pending q [m] ▸ List.prefix_append _ _)
    exact ⟨begun, hnext.silent rfl⟩
  | take =>
    have hnext : InStep N v Told reads s₀ bs q.take begun :=
      h.of_eq q.take_store (take_settled q) (q.take_pending ▸ List.prefix_rfl)
    exact ⟨begun, hnext.silent rfl⟩
  | disconnect =>
    have hnext : InStep N v Told reads s₀ bs q.requeue begun := h.of_eq rfl rfl List.prefix_rfl
    exact ⟨begun, hnext.silent rfl⟩
  | attempt a =>
    have hnext : ∃ begun', InStep N v Told reads s₀ bs (q.attempt C a) begun' := by
      cases hm : q.inHand with
      | none => rw [Queue.attempt, hm]; exact ⟨begun, h⟩
      | some m => rw [Queue.attempt, hm]; exact hv.work hI h hm a
    obtain ⟨begun', hnext⟩ := hnext
    exact ⟨begun', hnext.silent rfl⟩

/-- **Exactly once.** By induction on the run of the queue: what is settled has
been served once each, in its order, and at most the first message beside. -/
theorem Serves.run {ls : List (QueueLabel A B M)} (hr : (queueLts C start).Run q ls q')
    (hI : I q.store) (h : InStep N v Told reads s₀ bs q begun) :
    ∃ begun', InStep N v Told reads s₀ (bs ++ ls.filterMap QueueLabel.call) q' begun' := by
  induction hr generalizing bs begun with
  | nil => exact ⟨begun, by rw [List.filterMap_nil, List.append_nil]; exact h⟩
  | @cons q q₁ q' l ls hs _ ih =>
    obtain ⟨begun₁, h₁⟩ := hv.step hI h hs
    obtain ⟨begun', h'⟩ := ih (hv.stable.inv.step hI hs) h₁
    refine ⟨begun', ?_⟩
    have hcalls : (l :: ls).filterMap QueueLabel.call =
        l.call.toList ++ ls.filterMap QueueLabel.call := by
      rw [List.filterMap_cons]
      cases l.call <;> rfl
    rw [hcalls, ← List.append_assoc]
    exact h'

end Serves
end Core
