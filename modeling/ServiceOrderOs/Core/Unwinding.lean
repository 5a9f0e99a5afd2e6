import Mathlib.Data.List.Basic
import Mathlib.Data.List.Count
import Mathlib.Data.List.Forall2

/-!
# Unwinding

A deterministic system whose labels have owners. `Sim k` relates two states
that look the same to the owner `k`.

* `purge`: a run looks to `k` like the run over its own labels, when each
  label of `k` keeps `Sim k` and each other label leaves the view of `k` alone.
  The labels of the second run need not be those of the first, only `Same`;
  `purge_own` is the case where they are.
* `perm_of_parts`: what looks the same to every owner is the same up to order.
-/
namespace Core.Unwinding

variable {S L K : Type} [DecidableEq K] {Same : L → L → Prop}

theorem purge (step : S → L → S) (owner : L → Option K) (k : K) (Sim : S → S → Prop) {ls : List L}
    (hown : ∀ l ∈ ls, owner l = some k → ∀ s t l', Same l l' → Sim s t → Sim (step s l) (step t l'))
    (hother : ∀ l ∈ ls, owner l ≠ some k → ∀ s t, Sim s t → Sim (step s l) t)
    {ls' : List L} (h : List.Forall₂ Same (ls.filter fun l => owner l = some k) ls') {s t : S}
    (hs : Sim s t) : Sim (ls.foldl step s) (ls'.foldl step t) := by
  induction ls generalizing s t ls' with
  | nil => cases h; exact hs
  | cons l ls ih =>
    have ih' := fun {ls' : List L} => @ih (fun l hl => hown l (List.mem_cons_of_mem _ hl))
      (fun l hl => hother l (List.mem_cons_of_mem _ hl)) ls'
    by_cases hl : owner l = some k
    · rw [List.filter_cons_of_pos (by simpa using hl)] at h
      cases h with
      | cons hsame hrest =>
        exact ih' hrest (hown l List.mem_cons_self hl s t _ hsame hs)
    · rw [List.filter_cons_of_neg (by simpa using hl)] at h
      exact ih' h (hother l List.mem_cons_self hl s t hs)

/-- Where each label has an owner, the run over the labels of `k` itself. -/
theorem purge_own (step : S → L → S) (owner : L → K) (k : K) (Sim : S → S → Prop)
    (hown : ∀ l, owner l = k → ∀ s t, Sim s t → Sim (step s l) (step t l))
    (hother : ∀ l, owner l ≠ k → ∀ s t, Sim s t → Sim (step s l) t) (ls : List L) {s t : S}
    (hs : Sim s t) :
    Sim (ls.foldl step s) ((ls.filter fun l => owner l = k).foldl step t) := by
  have hlabels : List.Forall₂ Eq (ls.filter fun l => some (owner l) = some k)
      (ls.filter fun l => owner l = k) := by
    simp only [Option.some.injEq]
    exact List.forall₂_refl _
  refine purge step (fun l => some (owner l)) k Sim ?_ ?_ hlabels hs
  · rintro l - hl s t _ rfl h
    exact hown l (Option.some.inj hl) s t h
  · intro l _ hl s t h
    exact hother l (fun he => hl (congrArg some he)) s t h

/-- Lists with the same parts are the same up to order. -/
theorem perm_of_parts {α : Type} (part : α → K) {l l' : List α}
    (h : ∀ k, (l.filter fun a => part a = k) = l'.filter fun a => part a = k) : l.Perm l' := by
  classical
  refine List.perm_iff_count.mpr fun a => ?_
  have hcount : ∀ m : List α, m.count a = (m.filter fun b => part b = part a).count a :=
    fun m => (List.count_filter (by simp)).symm
  rw [hcount l, hcount l', h]

end Core.Unwinding
