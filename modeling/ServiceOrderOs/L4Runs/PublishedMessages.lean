import ServiceOrderOs.Core.Lts
import ServiceOrderOs.L3App.EventPublishers

/-!
# The ledger of published messages

Calls of a recording publisher, one after the other. Two ghost lists keep what
the callers have seen: the messages of the calls of `publish` that returned,
and the lists that were drained.

* `ledger_step`: what one call does to the balance of the two.
* `ledgerKept_iff`: for any recording publisher, a run keeps its ledger if and
  only if each of its calls of `publish` keeps to the publisher's contract.
* `ledgers_kept_iff`: so for the two publishers of the application.
-/
namespace ServiceOrderOs.Runs
open Core Py Domain App

variable {T A S : Type}

inductive PublisherCall (T A : Type) where
  | publish (event : DomainEvent T) (outside : A)
  | publishedMessages
  | drain

structure Ledger (S : Type) where
  publisher : S
  /-- ghost: the messages of the calls of `publish` that returned -/
  returned : List Dict
  /-- ghost: what `drain` has returned, call by call -/
  drained : List (List Dict)

variable [Runtime T] {P : RecordingPublisher T A S}

def Ledger.next (P : RecordingPublisher T A S) (l : Ledger S) : PublisherCall T A → Ledger S
  | .publish event outside => match (P.publish outside event).run l.publisher with
    | .ok _ s => { l with publisher := s, returned := l.returned ++ [event.toMessage] }
    | .error _ s => { l with publisher := s }
  | .publishedMessages => l
  | .drain => { l with
      publisher := (P.drain l.publisher).2
      drained := l.drained ++ [(P.drain l.publisher).1] }

def ledgerLts (P : RecordingPublisher T A S) (start : S) : Lts (Ledger S) (PublisherCall T A) where
  init l := l = ⟨start, [], []⟩
  step l c l' := l' = l.next P c

/-- What has been drained and what is recorded still are the messages of the
calls that returned, in their order. -/
def Ledger.Balanced (P : RecordingPublisher T A S) (l : Ledger S) : Prop :=
  l.drained.flatten ++ P.publishedMessages l.publisher = l.returned

/-- A call of `publish` that raises leaves what is recorded as it was. -/
def Untouched (P : RecordingPublisher T A S) (l : Ledger S) (c : PublisherCall T A) : Prop :=
  ∀ event outside err s, c = .publish event outside →
    (P.publish outside event).run l.publisher = .error err s → s = l.publisher

/-- The ledger is kept all along the calls, and `Inv` holds of what is recorded. -/
structure LedgerKept (P : RecordingPublisher T A S) (Inv : S → Prop) (start : S)
    (cs : List (PublisherCall T A)) : Prop where
  balanced : (ledgerLts P start).Always (Ledger.Balanced P) ⟨start, [], []⟩ cs
  recorded : (ledgerLts P start).Always (fun l => Inv l.publisher) ⟨start, [], []⟩ cs
  untouched : (ledgerLts P start).Along (Untouched P) ⟨start, [], []⟩ cs

/-- A call of `publish` is one of the good ones. -/
def Allowed (Good : DomainEvent T → A → Prop) (c : PublisherCall T A) : Prop :=
  ∀ event outside, c = .publish event outside → Good event outside

section Recording
variable {Inv : S → Prop} {Good : DomainEvent T → A → Prop} {l : Ledger S}

/-- An allowed call keeps the balance. -/
theorem ledger_step (hP : RecordsMessages P Inv Good) (hb : l.Balanced P) (hi : Inv l.publisher)
    {c : PublisherCall T A} (hc : Allowed Good c) :
    (l.next P c).Balanced P ∧ Inv (l.next P c).publisher := by
  unfold Ledger.Balanced at hb ⊢
  cases c with
  | publishedMessages => exact ⟨hb, hi⟩
  | drain =>
    obtain ⟨hnil, hinv⟩ := hP.emptied l.publisher
    refine ⟨?_, hinv⟩
    show (l.drained ++ [(P.drain l.publisher).1]).flatten ++ _ = l.returned
    rw [List.flatten_append, hP.drained, List.flatten_singleton, ← hb]
    exact (congrArg _ hnil).trans (List.append_nil _)
  | publish event outside =>
    unfold Ledger.next
    rcases hP.good (s := l.publisher) (hc event outside rfl) with
      ⟨s, hrun, hinv, hmessages⟩ | ⟨err, hrun⟩
    · simp only [hrun]
      refine ⟨?_, hinv hi⟩
      rw [hmessages, ← List.append_assoc, hb]
    · simp only [hrun]
      exact ⟨hb, hi⟩

/-- The calls that leave no trace when they raise are the allowed ones. -/
theorem untouched_iff (hP : RecordsMessages P Inv Good) (l : Ledger S) (c : PublisherCall T A) :
    Untouched P l c ↔ Allowed Good c := by
  constructor
  · rintro h event outside rfl
    by_contra hbad
    obtain ⟨err, s, hrun, hne⟩ := hP.bad (s := l.publisher) hbad
    exact hne (h event outside err s rfl hrun)
  · rintro h event outside err s rfl hrun
    rcases hP.good (s := l.publisher) (h event outside rfl) with ⟨s', hok, -⟩ | ⟨err', herr⟩
    · rw [hok] at hrun
      cases hrun
    · rw [herr] at hrun
      cases hrun
      rfl

theorem ledgerKept_iff (hP : RecordsMessages P Inv Good) (start : S)
    (hempty : P.publishedMessages start = []) (hstart : Inv start) (cs : List (PublisherCall T A)) :
    LedgerKept P Inv start cs ↔ ∀ c ∈ cs, Allowed Good c := by
  have htotal : ∀ (l : Ledger S) c, ∃ l', (ledgerLts P start).step l c l' :=
    fun l c => ⟨l.next P c, rfl⟩
  have hlabels : (ledgerLts P start).Along (Untouched P) ⟨start, [], []⟩ cs ↔
      ∀ c ∈ cs, Allowed Good c := Lts.along_iff_labels htotal (untouched_iff hP)
  refine ⟨fun h => hlabels.mp h.untouched, fun hall => ?_⟩
  have halong : (ledgerLts P start).Along (fun _ => Allowed Good) ⟨start, [], []⟩ cs :=
    (Lts.along_iff_labels (G := Allowed Good) htotal fun _ _ => Iff.rfl).mpr hall
  have hgood : ∀ (l : Ledger S) c l', l.Balanced P ∧ Inv l.publisher → Allowed Good c →
      (ledgerLts P start).step l c l' → l'.Balanced P ∧ Inv l'.publisher := by
    intro l c l' hl hc hstep
    have hstep : l' = l.next P c := hstep
    rw [hstep]
    exact ledger_step hP hl.1 hl.2 hc
  have hinit : Ledger.Balanced P ⟨start, [], []⟩ ∧ Inv start := ⟨hempty, hstart⟩
  exact ⟨Lts.always_of_along (fun _ h => h.1) hgood hinit halong,
    Lts.always_of_along (fun _ h => h.2) hgood hinit halong, hlabels.mpr hall⟩

omit [Runtime T] in
theorem forall_allowed {cs : List (PublisherCall T A)} : (∀ c ∈ cs, Allowed Good c) ↔
    ∀ event outside, .publish event outside ∈ cs → Good event outside := by
  constructor
  · exact fun h event outside hmem => h _ hmem event outside rfl
  · rintro h c hc event outside rfl
    exact h event outside hc

end Recording

/-- **Nothing published is lost, doubled or half recorded**, in memory as long
as no event of another type is published, and over RabbitMQ as long as no call
that has recorded its message fails to close its connection. -/
theorem ledgers_kept_iff (settings : RabbitMqEventPublisherSettings)
    (cs : List (PublisherCall T Unit)) (cs' : List (PublisherCall T Attempt)) :
    (LedgerKept inMemoryEventPublisher InMemoryEventPublisher.LockStep ⟨[], []⟩ cs ↔
      ∀ event u, .publish event u ∈ cs → event.eventType ∈ integrationEventTypes) ∧
    (LedgerKept (rabbitMqBlockingEventPublisher settings) (fun _ => True) ⟨[]⟩ cs' ↔
      ∀ event attempt, .publish event attempt ∈ cs' → ClosesQuietly event attempt) :=
  ⟨(ledgerKept_iff inMemory_records ⟨[], []⟩ rfl rfl cs).trans forall_allowed,
    (ledgerKept_iff (blocking_records settings) ⟨[]⟩ rfl trivial cs').trans forall_allowed⟩

/-- An event of a type that is none of the contract. -/
def exUnsupported : DomainEvent Utc :=
  { exOpened with eventType := "OS_ARCHIVED" }

/-- A refused event stays in the list of events. -/
theorem unsupported_event_kept : ¬ LedgerKept (inMemoryEventPublisher (T := Utc))
    InMemoryEventPublisher.LockStep ⟨[], []⟩ [.publish exUnsupported ()] := by
  intro h
  refine absurd (h.recorded [.publish exUnsupported ()] [] _ rfl (.single rfl)) ?_
  show ¬ ([] : List Dict) = [exUnsupported.toMessage]
  exact fun h => by cases h

end ServiceOrderOs.Runs
