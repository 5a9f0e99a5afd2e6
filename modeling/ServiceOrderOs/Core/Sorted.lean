import Mathlib.Data.List.Dedup
import Mathlib.Data.List.Sort

/-!
# A dictionary by its keys

The entries of a dictionary in the order of their keys. A dictionary is its
lookup and a list of keys, in any order and with repetitions, that has every
key of it.

* `mem_items`, `items_sorted`: the entries, each once, by key.
* `eq_of_sorted`: a list by its keys is the only one of its entries.
* `lookup_items`: looking up in the list is looking up in the dictionary.
-/
namespace Core.Sorted

variable {K V : Type} [LinearOrder K] {keys : List K} {f : K → Option V} {k : K} {v : V}

def items (keys : List K) (f : K → Option V) : List (K × V) :=
  (keys.dedup.insertionSort (· ≤ ·)).filterMap fun k => (f k).map (k, ·)

theorem mem_items : (k, v) ∈ items keys f ↔ k ∈ keys ∧ f k = some v := by
  simp only [items, List.mem_filterMap, List.mem_insertionSort, List.mem_dedup,
    Option.map_eq_some_iff, Prod.mk.injEq]
  constructor
  · rintro ⟨k', hk', v', hv', rfl, rfl⟩
    exact ⟨hk', hv'⟩
  · rintro ⟨hk, hv⟩
    exact ⟨k, hk, v, hv, rfl, rfl⟩

theorem map_fst_items (keys : List K) (f : K → Option V) : (items keys f).map Prod.fst =
    (keys.dedup.insertionSort (· ≤ ·)).filter fun k => (f k).isSome := by
  unfold items
  induction keys.dedup.insertionSort (· ≤ ·) with
  | nil => rfl
  | cons k ks ih =>
    cases h : f k with
    | none => simp [h, ih]
    | some v => simp [h, ih]

theorem items_sorted (keys : List K) (f : K → Option V) :
    ((items keys f).map Prod.fst).Pairwise (· < ·) := by
  rw [map_fst_items]
  refine List.Pairwise.filter _ ?_
  have hle : (keys.dedup.insertionSort (· ≤ ·)).Pairwise (· ≤ ·) := List.pairwise_insertionSort _ _
  have hnodup : (keys.dedup.insertionSort (· ≤ ·)).Nodup :=
    (List.perm_insertionSort (· ≤ ·) _).nodup_iff.mpr (List.nodup_dedup keys)
  exact hle.imp₂ (fun _ _ hab hne => lt_of_le_of_ne hab hne) hnodup

/-- A list by its keys is determined by its members. -/
theorem eq_of_sorted {l l' : List (K × V)} (hl : (l.map Prod.fst).Pairwise (· < ·))
    (hl' : (l'.map Prod.fst).Pairwise (· < ·)) (h : ∀ p, p ∈ l ↔ p ∈ l') : l = l' := by
  rw [List.pairwise_map] at hl hl'
  have hne : ∀ {p q : K × V}, p.1 < q.1 → p ≠ q := fun hlt he => lt_irrefl _ (he ▸ hlt)
  have hperm : l.Perm l' := (List.perm_ext_iff_of_nodup (hl.imp hne) (hl'.imp hne)).mpr h
  refine hperm.eq_of_pairwise (fun p q _ _ hpq hqp => ?_) hl hl'
  exact absurd hqp (not_lt_of_gt hpq)

theorem lookup_eq_some [BEq K] [LawfulBEq K] {l : List (K × V)}
    (hl : (l.map Prod.fst).Pairwise (· < ·)) : l.lookup k = some v ↔ (k, v) ∈ l := by
  induction l with
  | nil => simp
  | cons p l ih =>
    obtain ⟨k', v'⟩ := p
    rw [List.map_cons, List.pairwise_cons] at hl
    rw [List.lookup_cons, List.mem_cons, Prod.mk.injEq]
    by_cases hk : k = k'
    · subst hk
      have hno : (k, v) ∉ l := fun hmem => lt_irrefl k (hl.1 k (List.mem_map_of_mem hmem))
      simp [hno, eq_comm]
    · rw [beq_false_of_ne hk, ih hl.2]
      simp [hk]

theorem lookup_items [BEq K] [LawfulBEq K] (keys : List K) (f : K → Option V) (k : K) :
    (items keys f).lookup k = if k ∈ keys then f k else none := by
  ext v
  rw [lookup_eq_some (items_sorted keys f), mem_items]
  split
  · rename_i hk
    simp [hk]
  · rename_i hk
    simp [hk]

end Core.Sorted
