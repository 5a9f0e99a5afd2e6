import Mathlib.Data.List.Basic
import Mathlib.Data.List.Nodup

/-!
# Records filed under their own key

`Keyed key` is a list of records no two of which have the same key: a
dictionary in insertion order whose entries are filed under a field of theirs,
or a table with that field as its primary key.

`insert` and `update` are those of a table with further unique columns, which
refuse a record whose value in one of them another record has; a record may
have no value there.

* `find_put`, `find_erase`, `mem_put`, `mem_erase`: the operations by key and
  by member.
* `image_put`, `image_erase`: the operations through a map that keeps the keys.
* `Unique.insert`, `Unique.update`, `Unique.erase`: the columns stay unique.
-/
namespace Core

variable {α κ ν : Type}

@[ext] structure Keyed (key : α → κ) where
  items : List α
  nodup : (items.map key).Nodup

namespace Keyed
variable {key : α → κ}

def empty : Keyed key := ⟨[], .nil⟩

variable [DecidableEq κ]

/-- The record filed under `k`. -/
def find (s : Keyed key) (k : κ) : Option α := s.items.find? fun a => key a = k

/-- The items with `a` in the place of the record that has its key. -/
def replaced (items : List α) (key : α → κ) (a : α) : List α :=
  items.map fun b => if key b = key a then a else b

theorem replaced_keys (items : List α) (a : α) :
    (replaced items key a).map key = items.map key := by
  rw [replaced, List.map_map]
  refine List.map_congr_left fun b _ => ?_
  simp only [Function.comp_apply]
  split
  · rename_i h; exact h.symm
  · rfl

/-- An old key keeps its place, a new one goes to the end. -/
def put (s : Keyed key) (a : α) : Keyed key where
  items := if key a ∈ s.items.map key then replaced s.items key a else s.items ++ [a]
  nodup := by
    split
    · rw [replaced_keys]; exact s.nodup
    · rename_i h
      rw [List.map_append, List.nodup_append]
      refine ⟨s.nodup, List.nodup_singleton _, fun x hx y hy => ?_⟩
      rw [List.map_singleton, List.mem_singleton] at hy
      rintro rfl
      exact h (hy ▸ hx)

def erase (s : Keyed key) (k : κ) : Keyed key where
  items := s.items.filter fun a => key a ≠ k
  nodup := (List.filter_sublist.map key).nodup s.nodup

/-! ## By key -/

theorem find_key {s : Keyed key} {k : κ} {a : α} (h : s.find k = some a) : key a = k := by
  simpa using List.find?_some h

theorem find_mem {s : Keyed key} {k : κ} {a : α} (h : s.find k = some a) : a ∈ s.items :=
  List.mem_of_find?_eq_some h

theorem find_none {s : Keyed key} {k : κ} : s.find k = none ↔ ∀ a ∈ s.items, key a ≠ k := by
  simp [find, List.find?_eq_none]

omit [DecidableEq κ] in
/-- Two records with one key are the same record. -/
theorem eq_of_key {s : Keyed key} {a b : α} (ha : a ∈ s.items) (hb : b ∈ s.items)
    (h : key a = key b) : a = b :=
  List.inj_on_of_nodup_map s.nodup ha hb h

theorem find_of_mem {s : Keyed key} {a : α} (h : a ∈ s.items) : s.find (key a) = some a := by
  cases hf : s.find (key a) with
  | none => exact absurd rfl (find_none.mp hf a h)
  | some b => rw [eq_of_key (find_mem hf) h (find_key hf)]

theorem find_iff {s : Keyed key} {k : κ} {a : α} :
    s.find k = some a ↔ a ∈ s.items ∧ key a = k := by
  constructor
  · exact fun h => ⟨find_mem h, find_key h⟩
  · intro h
    rw [← h.2]; exact find_of_mem h.1

theorem find_eq_of {s s' : Keyed key} {k k' : κ}
    (h : ∀ a, (a ∈ s.items ∧ key a = k) ↔ (a ∈ s'.items ∧ key a = k')) :
    s.find k = s'.find k' := by
  apply Option.ext
  intro a
  rw [find_iff, find_iff]; exact h a

/-! ## By member -/

theorem mem_put {s : Keyed key} {a b : α} :
    b ∈ (s.put a).items ↔ b = a ∨ (b ∈ s.items ∧ key b ≠ key a) := by
  simp only [put]
  split
  · rename_i h
    simp only [replaced, List.mem_map]
    constructor
    · intro hb
      obtain ⟨c, hc, hcb⟩ := hb
      split at hcb
      · exact .inl hcb.symm
      · rename_i hne; subst hcb; exact .inr ⟨hc, hne⟩
    · intro hb
      rcases hb with rfl | ⟨hb, hne⟩
      · obtain ⟨c, hc, hk⟩ := List.mem_map.mp h
        exact ⟨c, hc, if_pos hk⟩
      · exact ⟨b, hb, if_neg hne⟩
  · rename_i h
    rw [List.mem_append, List.mem_singleton, or_comm]
    refine or_congr_right ⟨fun hb => ⟨hb, fun hk => ?_⟩, fun hb => hb.1⟩
    exact h (hk ▸ List.mem_map_of_mem hb)

theorem mem_erase {s : Keyed key} {k : κ} {b : α} :
    b ∈ (s.erase k).items ↔ b ∈ s.items ∧ key b ≠ k := by
  simp [erase, List.mem_filter]

theorem find_put (s : Keyed key) (a : α) (k : κ) :
    (s.put a).find k = if k = key a then some a else s.find k := by
  by_cases hk : k = key a
  · rw [if_pos hk, find_iff, mem_put]
    exact ⟨.inl rfl, hk.symm⟩
  · rw [if_neg hk]
    refine find_eq_of fun b => ?_
    rw [mem_put]
    constructor
    · rintro ⟨rfl | hb, hbk⟩
      · exact absurd hbk.symm hk
      · exact ⟨hb.1, hbk⟩
    · rintro ⟨hb, hbk⟩
      exact ⟨.inr ⟨hb, fun e => hk (hbk ▸ e)⟩, hbk⟩

theorem find_put_self (s : Keyed key) (a : α) : (s.put a).find (key a) = some a := by
  rw [find_put, if_pos rfl]

theorem find_erase (s : Keyed key) (k' k : κ) :
    (s.erase k').find k = if k = k' then none else s.find k := by
  by_cases hk : k = k'
  · rw [if_pos hk, find_none]
    intro a ha
    rw [hk]; exact (mem_erase.mp ha).2
  · rw [if_neg hk]
    refine find_eq_of fun b => ?_
    rw [mem_erase]
    exact ⟨fun h => ⟨h.1.1, h.2⟩, fun h => ⟨⟨h.1, fun e => hk (h.2 ▸ e)⟩, h.2⟩⟩

/-- There is nothing to erase under `k`. -/
theorem erase_of_none {s : Keyed key} {k : κ} (h : s.find k = none) : s.erase k = s := by
  ext1
  refine List.filter_eq_self.mpr fun a ha => ?_
  simpa using find_none.mp h a ha

/-- Putting back what is filed changes nothing. -/
theorem put_of_find {s : Keyed key} {k : κ} {a : α} (h : s.find k = some a) : s.put a = s := by
  have hk : key a ∈ s.items.map key := List.mem_map_of_mem (find_mem h)
  ext1
  simp only [put, if_pos hk]
  refine (List.map_congr_left fun b hb => ?_).trans (List.map_id _)
  split
  · rename_i hkb; exact eq_of_key (find_mem h) hb hkb.symm
  · rfl

/-- Putting back a record that `f` has changed changes that record. -/
theorem items_put_map {s : Keyed key} {a : α} (h : a ∈ s.items) (f : α → α)
    (hf : key (f a) = key a) :
    (s.put (f a)).items = s.items.map fun b => if key b = key a then f b else b := by
  have hmem : key (f a) ∈ s.items.map key := by
    rw [hf]
    exact List.mem_map_of_mem h
  simp only [put]
  rw [if_pos hmem, replaced, hf]
  refine List.map_congr_left fun b hb => ?_
  split
  · rename_i hk
    rw [eq_of_key hb h hk]
  · rfl

/-! ## The same keys on other records -/

section Image
variable {β : Type} {key' : β → κ} {f : α → β}

omit [DecidableEq κ] in
/-- The records through `f`, which keeps their keys. -/
def image (f : α → β) (hf : ∀ a, key' (f a) = key a) (s : Keyed key) : Keyed key' where
  items := s.items.map f
  nodup := by
    rw [List.map_map, show key' ∘ f = key from funext hf]
    exact s.nodup

variable {hf : ∀ a, key' (f a) = key a}

theorem find_image (s : Keyed key) (k : κ) : (s.image f hf).find k = (s.find k).map f := by
  unfold find image
  rw [List.find?_map]
  refine congrArg _ (congrArg (s.items.find? ·) (funext fun a => ?_))
  simp only [Function.comp_apply, hf]

theorem image_put (s : Keyed key) (a : α) : (s.image f hf).put (f a) = (s.put a).image f hf := by
  have hkeys : (s.items.map f).map key' = s.items.map key := by
    rw [List.map_map, show key' ∘ f = key from funext hf]
  ext1
  simp only [put, image, hkeys, hf a]
  split
  · simp only [replaced, List.map_map]
    refine List.map_congr_left fun b _ => ?_
    simp only [Function.comp_apply, hf]
    split <;> rfl
  · rw [List.map_append, List.map_singleton]

theorem image_erase (s : Keyed key) (k : κ) :
    (s.image f hf).erase k = (s.erase k).image f hf := by
  ext1
  simp only [erase, image, List.filter_map]
  refine congrArg _ (List.filter_congr fun a _ => ?_)
  simp only [Function.comp_apply, hf]

end Image

/-! ## Unique columns -/

/-- No two records have the same value in a column. -/
def Unique (cols : List (α → Option ν)) (s : Keyed key) : Prop :=
  ∀ c ∈ cols, ∀ a ∈ s.items, ∀ b ∈ s.items, ∀ v, c a = some v → c b = some v → key a = key b

variable [DecidableEq ν]

/-- Another record has a value of `a` in one of the columns. -/
def Clash (cols : List (α → Option ν)) (s : Keyed key) (a : α) : Prop :=
  ∃ b ∈ s.items, key b ≠ key a ∧ ∃ c ∈ cols, (c a).isSome ∧ c b = c a

instance (cols : List (α → Option ν)) (s : Keyed key) (a : α) : Decidable (Clash cols s a) :=
  inferInstanceAs (Decidable (∃ b ∈ s.items, key b ≠ key a ∧ ∃ c ∈ cols, (c a).isSome ∧ c b = c a))

omit [DecidableEq κ] [DecidableEq ν] in
/-- Only the key and the columns of a record matter. -/
theorem clash_congr {cols : List (α → Option ν)} {s : Keyed key} {a a' : α}
    (hk : key a' = key a) (hcols : ∀ c ∈ cols, c a' = c a) :
    Clash cols s a' ↔ Clash cols s a := by
  unfold Clash
  rw [hk]
  refine exists_congr fun b => and_congr_right fun _ => and_congr_right fun _ =>
    exists_congr fun c => and_congr_right fun hc => ?_
  rw [hcols c hc]

/-- Refused when the key is taken or a unique column clashes. -/
def insert (cols : List (α → Option ν)) (s : Keyed key) (a : α) : Option (Keyed key) :=
  if (s.find (key a)).isSome ∨ Clash cols s a then none else some (s.put a)

/-- No record with the key: nothing to do. -/
def update (cols : List (α → Option ν)) (s : Keyed key) (a : α) : Option (Keyed key) :=
  if (s.find (key a)).isNone then some s
  else if Clash cols s a then none else some (s.put a)

theorem insert_new {cols : List (α → Option ν)} {s : Keyed key} {a : α}
    (h : s.find (key a) = none) :
    s.insert cols a = if Clash cols s a then none else some (s.put a) := by
  simp only [insert, h, Option.isSome_none, Bool.false_eq_true, false_or]

theorem update_old {cols : List (α → Option ν)} {s : Keyed key} {a b : α}
    (h : s.find (key a) = some b) :
    s.update cols a = if Clash cols s a then none else some (s.put a) := by
  simp only [update, h, Option.isNone_some, Bool.false_eq_true, if_false]

theorem insert_some {cols : List (α → Option ν)} {s s' : Keyed key} {a : α}
    (h : s.insert cols a = some s') : s' = s.put a ∧ ¬ Clash cols s a := by
  unfold Keyed.insert at h
  split at h
  · cases h
  · rename_i hno
    cases h
    exact ⟨rfl, fun hc => hno (.inr hc)⟩

theorem insert_free {cols : List (α → Option ν)} {s s' : Keyed key} {a : α}
    (h : s.insert cols a = some s') : s.find (key a) = none := by
  unfold Keyed.insert at h
  split at h
  · cases h
  · rename_i hno
    simpa using fun hf => hno (.inl hf)

theorem update_some {cols : List (α → Option ν)} {s s' : Keyed key} {a : α}
    (h : s.update cols a = some s') : s' = s ∨ (s' = s.put a ∧ ¬ Clash cols s a) := by
  unfold Keyed.update at h
  split at h
  · cases h; exact .inl rfl
  · split at h
    · cases h
    · rename_i hc
      cases h
      exact .inr ⟨rfl, hc⟩

omit [DecidableEq κ] [DecidableEq ν] in
theorem unique_empty (cols : List (α → Option ν)) : Unique cols (empty : Keyed key) := by
  intro c _ a ha
  cases ha

omit [DecidableEq ν] in
theorem Unique.put {cols : List (α → Option ν)} {s : Keyed key} (h : Unique cols s) {a : α}
    (hc : ¬ Clash cols s a) : Unique cols (s.put a) := by
  have key_of : ∀ c ∈ cols, ∀ b ∈ s.items, ∀ v, c a = some v → c b = some v → key b = key a := by
    intro c hm b hb v ha hbv
    by_contra hne
    exact hc ⟨b, hb, hne, c, hm, by rw [ha]; rfl, by rw [ha, hbv]⟩
  intro c hm x hx y hy v hxv hyv
  rcases mem_put.mp hx with rfl | ⟨hx', -⟩ <;> rcases mem_put.mp hy with rfl | ⟨hy', -⟩
  · rfl
  · exact (key_of c hm y hy' v hxv hyv).symm
  · exact key_of c hm x hx' v hyv hxv
  · exact h c hm x hx' y hy' v hxv hyv

theorem Unique.insert {cols : List (α → Option ν)} {s s' : Keyed key} (h : Unique cols s) {a : α}
    (hi : s.insert cols a = some s') : Unique cols s' := by
  obtain ⟨rfl, hc⟩ := insert_some hi
  exact h.put hc

theorem Unique.update {cols : List (α → Option ν)} {s s' : Keyed key} (h : Unique cols s) {a : α}
    (hi : s.update cols a = some s') : Unique cols s' := by
  rcases update_some hi with rfl | ⟨rfl, hc⟩
  · exact h
  · exact h.put hc

omit [DecidableEq ν] in
theorem Unique.erase {cols : List (α → Option ν)} {s : Keyed key} (h : Unique cols s) (k : κ) :
    Unique cols (s.erase k) := by
  intro c hm a ha b hb
  exact h c hm a (mem_erase.mp ha).1 b (mem_erase.mp hb).1

end Keyed
end Core
