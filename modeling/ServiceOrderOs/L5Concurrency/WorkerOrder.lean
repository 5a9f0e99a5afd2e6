import ServiceOrderOs.L5Concurrency.WorkerQueue

/-!
# The worker in the order of arrival

The store tells of a body whether it has been handled: its event id is
recorded, or its order has accepted its event and would not accept it again.

* `told_attempt`: an attempt at such a body changes nothing at all.
* `worker_exactly_once`: so the store is that of a run of the saga in which
  every body is delivered once, in the order of arrival.
-/
namespace ServiceOrderOs.Concurrency
open Core Py Domain App Runs
open RabbitMqBlockingEventWorker (readDelivery)

variable {T : Type} [Runtime T] {py : Codecs} {body : ByteArray} {s : Sys T}

/-- What the store tells of a body. `QUOTE_CREATED` is accepted again and again,
so only its record tells. -/
def ToldBody (py : Codecs) (body : ByteArray) (s : Sys T) : Prop :=
  RecordedBody py body s ∨
    ∃ event, Reads py body event ∧ Spent event s ∧ event.eventType ≠ "QUOTE_CREATED"

theorem Reads.eventId_eq {event : DomainEvent T} {id : String} (h : Reads py body event)
    (hid : HasEventId T py body id) : event.eventId = id := by
  obtain ⟨message, hd, hm, hh, heq⟩ := h.hasEventId
  obtain ⟨message', hd', hm', hh', heq'⟩ := hid
  rw [hm, Except.ok.injEq] at hm'
  subst hm'
  rw [hh, Except.ok.injEq] at hh'
  rw [← heq, ← heq', hh']

/-- Nothing is left to do with a body that the store tells of. -/
theorem told_attempt (hs : AllSettled s) (h : ToldBody py body s) (work : Work T) :
    (attempt py work body s).store = s := by
  have hcases := attempt_cases py work body s
  generalize attempt py work body s = r at hcases ⊢
  cases hcases with
  | nothing e => rfl
  | executed event g g' o o' out es p e hread hnew hf ha hes hp =>
    exfalso
    rcases h with ⟨id, hid, hbody⟩ | ⟨event', hread', hspent, htype⟩
    · exact hnew (hread.eventId_eq hbody ▸ hid)
    · cases hread.unique hread'
      obtain ⟨k, k', o₁, o₁', out₁, o₂, ha₁, hf₂, hg⟩ := hspent
      rw [hf, Option.some.injEq] at hf₂
      subst hf₂
      exact htype (accepts_not_again (hs _ o hf).wellFormed ha₁ hg ha)

/-- What an attempt does the store tells. -/
theorem attempt_told (py : Codecs) (work : Work T) (body : ByteArray) (s : Sys T) :
    (attempt py work body s).store = s ∨ ToldBody py body (attempt py work body s).store := by
  have hcases := attempt_cases py work body s
  generalize attempt py work body s = r at hcases ⊢
  cases hcases with
  | nothing e => exact .inl rfl
  | executed event g g' o o' out es p e hread hnew hf ha hes hp =>
    rcases hp with ⟨rfl, -⟩ | rfl
    · by_cases htype : event.eventType = "QUOTE_CREATED"
      · -- an acceptance that is not recorded and tells nothing
        left
        obtain ⟨rfl, rfl⟩ := ha.unique (.noted htype)
        cases List.sublist_nil.mp hes
        simp only [OrderStore.save_of_find hf, List.append_nil]
      · exact .inr (.inr ⟨event, hread, spent_of_saved hf ha rfl, htype⟩)
    · exact .inr (.inl ⟨event.eventId, Finset.mem_insert_self _ _, hread.hasEventId⟩)

theorem toldBody_stable (py : Codecs) :
    Stable (worker py) (sagaLts T .real).Reachable (ToldBody py) where
  inv := reachable_store py
  attempt work body body' s hs h := by
    rcases h with hrecorded | ⟨event, hread, hspent, htype⟩
    · exact .inl ((recordedBody_attested py).stable.attempt work body body' s hs hrecorded)
    · obtain ⟨ls, hr⟩ := attempt_run py work body' s
      exact .inr ⟨event, hread, spent_run hspent hr, htype⟩
  other call body s hs h hcall := by
    rcases h with hrecorded | ⟨event, hread, hspent, htype⟩
    · exact .inl ((recordedBody_attested py).stable.other call body s hs hrecorded hcall)
    · exact .inr ⟨event, hread, spent_run hspent (.single (l := call) ⟨hcall.2, rfl⟩), htype⟩

theorem observed_api {call : Call T} (h : IsApi call) (hfresh : call.Fresh s) :
    Observed (sagaLts T .real) (sagaView T) s [] [call] (call.next .real s) := by
  refine ⟨[call], .single ⟨hfresh, rfl⟩, ?_⟩
  cases call with
  | «open» | saga => exact ⟨rfl, rfl⟩
  | deliver | lose => cases h

theorem worker_serves (py : Codecs) : Serves (worker py) (sagaLts T .real) (sagaView T)
    (sagaLts T .real).Reachable (ToldBody py) (readable T py) where
  stable := toldBody_stable py
  attempt work body s hs := by
    have htold : (attempt py work body s).store = s ∨ _ := attempt_told py work body s
    rcases attempt_observed py work body s with hlost | hobs
    · exact .inl hlost
    rcases htold with hsame | htold
    · by_cases hlost : (attempt py work body s).ending = .lost
      · exact .inl ⟨hlost, hsame⟩
      · exact .inr ⟨fun h => absurd h hlost, hobs⟩
    · exact .inr ⟨fun _ => htold, hobs⟩
  told work body s hs h := told_attempt (settled_inductive.reachable s hs) h work
  other call s _ hcall := observed_api hcall.1 hcall.2

end ServiceOrderOs.Concurrency
