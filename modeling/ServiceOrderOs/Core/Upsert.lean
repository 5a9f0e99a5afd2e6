import Mathlib.Data.List.Induction
import Mathlib.Data.List.Nodup
import Mathlib.Logic.Function.Basic

/-!
# Check, then write, on a table with a primary key

Any number of processes, each with one request, on one table, their turns in
any order. At its first turn a process looks for its key: without a row it will
insert, and with one it keeps it or will update it, as its request says. At its
second turn it writes; an insert whose key has a row by then is refused. Rows
are never deleted.

* `play_inv`: the table is what the writes made of it, one after the other.
* `refused_iff`: which processes are refused.
-/
namespace Core.Upsert

variable {ι K V : Type} [DecidableEq ι] [DecidableEq K]

structure Request (K V : Type) where
  key : K
  row : V
  replaces : Bool

inductive Pc where
  | check | insert | update | kept | written | refused
  deriving DecidableEq, Repr

/-- The write as one step: what is there is replaced. -/
def put (t : K → Option V) (r : Request K V) : K → Option V :=
  Function.update t r.key (some r.row)

def Pc.step (r : Request K V) : Pc → (K → Option V) → Pc × (K → Option V)
  | .check, t =>
    (match t r.key with
    | none => .insert
    | some _ => if r.replaces then .update else .kept, t)
  | .insert, t =>
    match t r.key with
    | none => (.written, put t r)
    | some _ => (.refused, t)
  | .update, t => (.written, if (t r.key).isSome then put t r else t)
  | .kept, t => (.kept, t)
  | .written, t => (.written, t)
  | .refused, t => (.refused, t)

structure Config (ι K V : Type) where
  pcs : ι → Pc
  table : K → Option V
  /-- ghost: whose writes took place, in their order -/
  writers : List ι

section
variable (req : ι → Request K V)

def turn (c : Config ι K V) (i : ι) : Config ι K V :=
  let (pc, t) := (c.pcs i).step (req i) c.table
  { pcs := Function.update c.pcs i pc
    table := t
    writers := if c.pcs i ≠ .written ∧ pc = .written then c.writers ++ [i] else c.writers }

def play (t : K → Option V) (sched : List ι) : Config ι K V :=
  sched.foldl (turn req) ⟨fun _ => .check, t, []⟩

end

variable {req : ι → Request K V} {t : K → Option V}

theorem play_snoc (t : K → Option V) (sched : List ι) (i : ι) :
    play req t (sched ++ [i]) = turn req (play req t sched) i := by
  rw [play, List.foldl_append]
  rfl

/-! ## What a turn does -/

/-- A turn is a check, a write or nothing to the table, by where the process
stands and whether its key has a row. -/
inductive Turn (req : ι → Request K V) (c : Config ι K V) (i : ι) : Config ι K V → Prop
  | absent (hpc : c.pcs i = .check) (hkey : c.table (req i).key = none) :
      Turn req c i ⟨Function.update c.pcs i .insert, c.table, c.writers⟩
  | replace (hpc : c.pcs i = .check) (hkey : (c.table (req i).key).isSome)
      (hr : (req i).replaces = true) :
      Turn req c i ⟨Function.update c.pcs i .update, c.table, c.writers⟩
  | keep (hpc : c.pcs i = .check) (hkey : (c.table (req i).key).isSome)
      (hr : (req i).replaces = false) :
      Turn req c i ⟨Function.update c.pcs i .kept, c.table, c.writers⟩
  | write (hpc : c.pcs i = .insert ∧ c.table (req i).key = none ∨
        c.pcs i = .update ∧ (c.table (req i).key).isSome) :
      Turn req c i ⟨Function.update c.pcs i .written, put c.table (req i), c.writers ++ [i]⟩
  | gone (hpc : c.pcs i = .update) (hkey : c.table (req i).key = none) :
      Turn req c i ⟨Function.update c.pcs i .written, c.table, c.writers ++ [i]⟩
  | refuse (hpc : c.pcs i = .insert) (hkey : (c.table (req i).key).isSome) :
      Turn req c i ⟨Function.update c.pcs i .refused, c.table, c.writers⟩
  | ended (hpc : c.pcs i = .kept ∨ c.pcs i = .written ∨ c.pcs i = .refused) : Turn req c i c

theorem turn_cases (req : ι → Request K V) (c : Config ι K V) (i : ι) :
    Turn req c i (turn req c i) := by
  have hstay : ∀ pc, c.pcs i = pc → Function.update c.pcs i pc = c.pcs := by
    rintro pc rfl
    exact Function.update_eq_self i c.pcs
  unfold turn
  cases hpc : c.pcs i with
  | check =>
    cases hkey : c.table (req i).key with
    | none =>
      simp only [Pc.step, hkey]
      exact .absent hpc hkey
    | some row =>
      cases hr : (req i).replaces with
      | true =>
        simp only [Pc.step, hkey, hr]
        exact .replace hpc (by rw [hkey]; rfl) hr
      | false =>
        simp only [Pc.step, hkey, hr]
        exact .keep hpc (by rw [hkey]; rfl) hr
  | insert =>
    cases hkey : c.table (req i).key with
    | none =>
      simp only [Pc.step, hkey]
      exact .write (.inl ⟨hpc, hkey⟩)
    | some row =>
      simp only [Pc.step, hkey]
      exact .refuse hpc (by rw [hkey]; rfl)
  | update =>
    cases hkey : c.table (req i).key with
    | none =>
      simp only [Pc.step, hkey]
      exact .gone hpc hkey
    | some row =>
      simp only [Pc.step, hkey]
      exact .write (.inr ⟨hpc, by rw [hkey]; rfl⟩)
  | kept =>
    simp only [Pc.step, hstay _ hpc]
    exact .ended (.inl hpc)
  | written =>
    simp only [Pc.step, hstay _ hpc]
    exact .ended (.inr (.inl hpc))
  | refused =>
    simp only [Pc.step, hstay _ hpc]
    exact .ended (.inr (.inr hpc))

/-! ## Any schedule -/

theorem put_self (t : K → Option V) (r : Request K V) : put t r r.key = some r.row :=
  Function.update_self ..

theorem put_isSome {k : K} (h : (t k).isSome) (r : Request K V) : (put t r k).isSome := by
  by_cases hk : k = r.key
  · rw [hk, put_self]; rfl
  · rw [put, Function.update_of_ne hk]; exact h

/-- What holds after any schedule that began with the table `t`. -/
structure Inv (req : ι → Request K V) (t : K → Option V) (c : Config ι K V) : Prop where
  table : c.table = c.writers.foldl (fun t i => put t (req i)) t
  grows : ∀ k, (t k).isSome → (c.table k).isSome
  written : ∀ i, i ∈ c.writers ↔ c.pcs i = .written
  nodup : c.writers.Nodup
  row : ∀ i, c.pcs i ≠ .check → c.pcs i ≠ .insert → (c.table (req i).key).isSome
  absent : ∀ i, c.pcs i = .insert ∨ c.pcs i = .refused → t (req i).key = none
  modes : ∀ i, (c.pcs i = .update → (req i).replaces = true) ∧
    (c.pcs i = .kept → (req i).replaces = false)
  inserter : ∀ i ∈ c.writers, (req i).replaces = false → t (req i).key = none ∧
    ∀ j ∈ c.writers, (req j).key = (req i).key → (req j).replaces = false → j = i

omit [DecidableEq ι] in
theorem inv_start (req : ι → Request K V) (t : K → Option V) :
    Inv req t ⟨fun _ => .check, t, []⟩ where
  table := rfl
  grows _ h := h
  written _ := ⟨fun h => (by cases h), fun h => (by cases h)⟩
  nodup := List.nodup_nil
  row _ h := absurd rfl h
  absent _ h := by rcases h with h | h <;> cases h
  modes _ := ⟨fun h => (by cases h), fun h => (by cases h)⟩
  inserter _ h := by cases h

/-- A turn that is no write. -/
theorem Inv.settled {c : Config ι K V} (h : Inv req t c) {i : ι} {pc : Pc}
    (hold : c.pcs i ≠ .written) (hnew : pc ≠ .written)
    (hrow : pc ≠ .check → pc ≠ .insert → (c.table (req i).key).isSome)
    (habsent : pc = .insert ∨ pc = .refused → t (req i).key = none)
    (hmodes : (pc = .update → (req i).replaces = true) ∧ (pc = .kept → (req i).replaces = false)) :
    Inv req t ⟨Function.update c.pcs i pc, c.table, c.writers⟩ where
  table := h.table
  grows := h.grows
  nodup := h.nodup
  inserter := h.inserter
  written j := by
    by_cases hj : j = i
    · subst hj
      simp only [Function.update_self]
      exact iff_of_false (fun hmem => hold ((h.written j).mp hmem)) hnew
    · simp only [Function.update_of_ne hj]
      exact h.written j
  row j := by
    by_cases hj : j = i
    · subst hj; simpa only [Function.update_self] using hrow
    · simpa only [Function.update_of_ne hj] using h.row j
  absent j := by
    by_cases hj : j = i
    · subst hj; simpa only [Function.update_self] using habsent
    · simpa only [Function.update_of_ne hj] using h.absent j
  modes j := by
    by_cases hj : j = i
    · subst hj; simpa only [Function.update_self] using hmodes
    · simpa only [Function.update_of_ne hj] using h.modes j

/-- A write, of a process that finds its row or has replaced no other. -/
theorem Inv.wrote {c : Config ι K V} (h : Inv req t c) {i : ι}
    (hpc : c.pcs i = .insert ∧ c.table (req i).key = none ∨
      c.pcs i = .update ∧ (c.table (req i).key).isSome) :
    Inv req t ⟨Function.update c.pcs i .written, put c.table (req i), c.writers ++ [i]⟩ := by
  have hnot : i ∉ c.writers := by
    intro hmem
    have hw := (h.written i).mp hmem
    rcases hpc with ⟨hpc, -⟩ | ⟨hpc, -⟩ <;> rw [hpc] at hw <;> cases hw
  constructor
  · show put c.table (req i) = _
    rw [List.foldl_append, ← h.table]
    rfl
  · exact fun k hk => put_isSome (h.grows k hk) (req i)
  · intro j
    simp only [List.mem_append, List.mem_singleton]
    by_cases hj : j = i
    · subst hj
      simp
    · simp only [hj, or_false, Function.update_of_ne hj]
      exact h.written j
  · show (c.writers ++ [i]).Nodup
    rw [List.nodup_append]
    refine ⟨h.nodup, List.nodup_singleton i, fun j hj j' hj' => ?_⟩
    rw [List.mem_singleton.mp hj']
    rintro rfl
    exact hnot hj
  · intro j
    by_cases hj : j = i
    · subst hj
      intro _ _
      show (put c.table (req j) (req j).key).isSome
      rw [put_self]
      rfl
    · simp only [Function.update_of_ne hj]
      exact fun h1 h2 => put_isSome (h.row j h1 h2) (req i)
  · intro j
    by_cases hj : j = i
    · subst hj
      simp only [Function.update_self]
      rintro (hj | hj) <;> cases hj
    · simpa only [Function.update_of_ne hj] using h.absent j
  · intro j
    by_cases hj : j = i
    · subst hj
      simp only [Function.update_self]
      exact ⟨fun h => (by cases h), fun h => (by cases h)⟩
    · simpa only [Function.update_of_ne hj] using h.modes j
  · -- an insert finds no row, so nobody has written its key
    intro j hj hkeeps
    rcases hpc with ⟨hpc, hnone⟩ | ⟨hpc, -⟩
    · have hfirst : ∀ m ∈ c.writers, (req m).key ≠ (req i).key := by
        intro m hm hkey
        have hw := (h.written m).mp hm
        have hrow := h.row m (by rw [hw]; decide) (by rw [hw]; decide)
        rw [hkey, hnone] at hrow
        cases hrow
      rcases List.mem_append.mp hj with hj | hj
      · refine ⟨(h.inserter j hj hkeeps).1, fun m hm hkey hm' => ?_⟩
        rcases List.mem_append.mp hm with hm | hm
        · exact (h.inserter j hj hkeeps).2 m hm hkey hm'
        · rw [List.mem_singleton.mp hm] at hkey
          exact absurd hkey.symm (hfirst j hj)
      · rw [List.mem_singleton.mp hj]
        refine ⟨h.absent i (.inl hpc), fun m hm hkey hm' => ?_⟩
        rcases List.mem_append.mp hm with hm | hm
        · exact absurd hkey (hfirst m hm)
        · exact List.mem_singleton.mp hm
    · have hreplaces := (h.modes i).1 hpc
      rcases List.mem_append.mp hj with hj | hj
      · refine ⟨(h.inserter j hj hkeeps).1, fun m hm hkey hm' => ?_⟩
        rcases List.mem_append.mp hm with hm | hm
        · exact (h.inserter j hj hkeeps).2 m hm hkey hm'
        · rw [List.mem_singleton.mp hm, hreplaces] at hm'
          cases hm'
      · rw [List.mem_singleton.mp hj, hreplaces] at hkeeps
        cases hkeeps

theorem Inv.turn {c : Config ι K V} (h : Inv req t c) (i : ι) : Inv req t (turn req c i) := by
  have hcases := turn_cases req c i
  generalize Upsert.turn req c i = c' at hcases
  have hnone : c.table (req i).key = none → t (req i).key = none := by
    intro hkey
    by_contra hsome
    have hrow := h.grows _ (Option.isSome_iff_ne_none.mpr hsome)
    rw [hkey] at hrow
    cases hrow
  cases hcases with
  | absent hpc hkey =>
    exact h.settled (by rw [hpc]; decide) (by decide) (fun _ h => absurd rfl h)
      (fun _ => hnone hkey) ⟨fun h => (by cases h), fun h => (by cases h)⟩
  | replace hpc hkey hr =>
    exact h.settled (by rw [hpc]; decide) (by decide) (fun _ _ => hkey)
      (fun h => by rcases h with h | h <;> cases h) ⟨fun _ => hr, fun h => (by cases h)⟩
  | keep hpc hkey hr =>
    exact h.settled (by rw [hpc]; decide) (by decide) (fun _ _ => hkey)
      (fun h => by rcases h with h | h <;> cases h) ⟨fun h => (by cases h), fun _ => hr⟩
  | write hpc => exact h.wrote hpc
  | gone hpc hkey =>
    have hrow := h.row i (by rw [hpc]; decide) (by rw [hpc]; decide)
    rw [hkey] at hrow
    cases hrow
  | refuse hpc hkey =>
    exact h.settled (by rw [hpc]; decide) (by decide) (fun _ _ => hkey)
      (fun _ => h.absent i (.inl hpc)) ⟨fun h => (by cases h), fun h => (by cases h)⟩
  | ended => exact h

/-- **The table is what the writes made of it.** -/
theorem play_inv (req : ι → Request K V) (t : K → Option V) (sched : List ι) :
    Inv req t (play req t sched) := by
  induction sched using List.reverseRecOn with
  | nil => exact inv_start req t
  | append_singleton sched i ih => rw [play_snoc]; exact ih.turn i

/-! ## Who is refused -/

theorem turn_pcs_ne (c : Config ι K V) {i j : ι} (h : j ≠ i) :
    (turn req c i).pcs j = c.pcs j := Function.update_of_ne h ..

theorem turn_table_ne (c : Config ι K V) {i : ι} {k : K} (h : (req i).key ≠ k) :
    (turn req c i).table k = c.table k := by
  have hcases := turn_cases req c i
  generalize turn req c i = c' at hcases ⊢
  cases hcases with
  | write => exact Function.update_of_ne (Ne.symm h) ..
  | _ => rfl

theorem turn_ended {c : Config ι K V} {i j : ι}
    (h : c.pcs j = .kept ∨ c.pcs j = .written ∨ c.pcs j = .refused) :
    (turn req c i).pcs j = c.pcs j := by
  by_cases hij : j = i
  · subst hij
    show Function.update _ j _ j = _
    rw [Function.update_self]
    rcases h with h | h | h <;> simp only [h]
  · exact turn_pcs_ne c hij

/-- After two turns a process has ended. -/
theorem count_ended (req : ι → Request K V) (t : K → Option V) (sched : List ι) (i : ι) :
    (sched.count i = 0 → (play req t sched).pcs i = .check) ∧
    (1 ≤ sched.count i → (play req t sched).pcs i ≠ .check) ∧
    (2 ≤ sched.count i → (play req t sched).pcs i = .kept ∨ (play req t sched).pcs i = .written ∨
      (play req t sched).pcs i = .refused) := by
  induction sched using List.reverseRecOn with
  | nil => exact ⟨fun _ => rfl, fun h => by simp at h, fun h => by simp at h⟩
  | append_singleton sched j ih =>
    obtain ⟨h0, h1, h2⟩ := ih
    rw [play_snoc, List.count_append, List.count_singleton]
    by_cases hij : i = j
    · subst hij
      rw [beq_self_eq_true, if_pos rfl]
      generalize play req t sched = c at h0 h1 h2 ⊢
      have hcases := turn_cases req c i
      generalize turn req c i = c' at hcases ⊢
      cases hcases with
      | absent hpc | replace hpc | keep hpc =>
        have hzero : ¬ 1 ≤ sched.count i := fun h => h1 h hpc
        simp only [Function.update_self]
        refine ⟨fun h => ?_, fun _ h => ?_, fun h => ?_⟩
        · omega
        · cases h
        · omega
      | write | gone | refuse =>
        simp only [Function.update_self]
        refine ⟨fun h => ?_, fun _ h => ?_, fun _ => by decide⟩
        · omega
        · cases h
      | ended hpc =>
        refine ⟨fun h => by omega, fun _ h => ?_, fun _ => hpc⟩
        rw [h] at hpc
        rcases hpc with hpc | hpc | hpc <;> cases hpc
    · rw [turn_pcs_ne _ hij, if_neg (by simpa using Ne.symm hij), Nat.add_zero]
      exact ⟨h0, h1, h2⟩

/-- As long as no process with the key has had both its turns, none has written. -/
theorem early {k : K} (ht : t k = none) {sched : List ι}
    (h : ∀ m, (req m).key = k → sched.count m ≤ 1) : (play req t sched).table k = none ∧
      ∀ m, (req m).key = k → sched.count m = 1 → (play req t sched).pcs m = .insert := by
  induction sched using List.reverseRecOn with
  | nil => exact ⟨ht, fun m _ hm => by simp at hm⟩
  | append_singleton sched j ih =>
    have hcount : ∀ m, (sched ++ [j]).count m = sched.count m + if j = m then 1 else 0 := by
      intro m
      rw [List.count_append, List.count_singleton]
      simp only [beq_iff_eq]
    obtain ⟨htable, hpcs⟩ := ih fun m hm => by have := h m hm; rw [hcount m] at this; omega
    rw [play_snoc]
    by_cases hj : (req j).key = k
    · have hzero : sched.count j = 0 := by
        have := h j hj
        rw [hcount j, if_pos rfl] at this
        omega
      have hcheck := (count_ended req t sched j).1 hzero
      have hturn := turn_cases req (play req t sched) j
      generalize turn req (play req t sched) j = c' at hturn ⊢
      subst hj
      cases hturn with
      | absent hpc hkey =>
        refine ⟨htable, fun m hm hone => ?_⟩
        by_cases hmj : m = j
        · subst hmj; simp only [Function.update_self]
        · simp only [Function.update_of_ne hmj]
          rw [hcount m, if_neg (Ne.symm hmj)] at hone
          exact hpcs m hm (by omega)
      | replace hpc hkey | keep hpc hkey => rw [htable] at hkey; cases hkey
      | write hpc => rw [hcheck] at hpc; rcases hpc with ⟨hpc, -⟩ | ⟨hpc, -⟩ <;> cases hpc
      | gone hpc | refuse hpc => rw [hcheck] at hpc; cases hpc
      | ended hpc => rw [hcheck] at hpc; rcases hpc with hpc | hpc | hpc <;> cases hpc
    · rw [turn_table_ne _ hj]
      refine ⟨htable, fun m hm hone => ?_⟩
      have hmj : m ≠ j := fun he => hj (he ▸ hm)
      rw [turn_pcs_ne _ hmj]
      rw [hcount m, if_neg (Ne.symm hmj)] at hone
      exact hpcs m hm (by omega)

/-- `j` is the first with the key `k` to have had both its turns, the second
after `pre`. -/
structure FirstWrite (req : ι → Request K V) (k : K) (sched pre : List ι) (j : ι) (post : List ι) :
    Prop where
  split : sched = pre ++ j :: post
  key : (req j).key = k
  once : pre.count j = 1
  early : ∀ m, (req m).key = k → pre.count m ≤ 1

omit [DecidableEq K] in
theorem exists_firstWrite {k : K} {sched : List ι}
    (h : ∃ i, (req i).key = k ∧ 2 ≤ sched.count i) :
    ∃ pre j post, FirstWrite req k sched pre j post := by
  induction sched using List.reverseRecOn with
  | nil =>
    obtain ⟨i, -, hi⟩ := h
    simp at hi
  | append_singleton sched j ih =>
    by_cases hall : ∀ m, (req m).key = k → sched.count m ≤ 1
    · obtain ⟨i, hi, htwo⟩ := h
      have hone := hall i hi
      rw [List.count_append, List.count_singleton] at htwo
      have hji : j = i := by
        by_contra hne
        rw [if_neg (by simpa using hne)] at htwo
        omega
      subst hji
      rw [beq_self_eq_true, if_pos rfl] at htwo
      exact ⟨sched, j, [], rfl, hi, by omega, hall⟩
    · obtain ⟨m, hm, htwo⟩ : ∃ m, (req m).key = k ∧ 2 ≤ sched.count m := by
        by_contra hno
        refine hall fun m hm => ?_
        by_contra hgt
        exact hno ⟨m, hm, by omega⟩
      obtain ⟨pre, j', post, hfirst⟩ := ih ⟨m, hm, htwo⟩
      refine ⟨pre, j', post ++ [j], ?_, hfirst.key, hfirst.once, hfirst.early⟩
      rw [hfirst.split, List.append_assoc]
      rfl

/-- Where the processes with the key stand after the first of them has written. -/
theorem late {k : K} (ht : t k = none) {pre : List ι} (post : List ι) {j i : ι}
    (hj : (req j).key = k)
    (hi : (req i).key = k) (honce : pre.count j = 1)
    (hearly : ∀ m, (req m).key = k → pre.count m ≤ 1) :
    ((play req t (pre ++ j :: post)).table k).isSome ∧
      (i = j → (play req t (pre ++ j :: post)).pcs i = .written) ∧
      (i ≠ j → pre.count i = 1 → (play req t (pre ++ j :: post)).pcs i =
        if post.count i = 0 then .insert else .refused) ∧
      (i ≠ j → pre.count i = 0 → (play req t (pre ++ j :: post)).pcs i ≠ .insert ∧
        (play req t (pre ++ j :: post)).pcs i ≠ .refused) := by
  induction post using List.reverseRecOn with
  | nil =>
    obtain ⟨htable, hinsert⟩ := early ht hearly
    have hzero := (count_ended req t pre i).1
    rw [play_snoc]
    have hpc := hinsert j hj honce
    have hother : ∀ m, m ≠ j → (turn req (play req t pre) j).pcs m = (play req t pre).pcs m :=
      fun m hm => turn_pcs_ne _ hm
    have hturn := turn_cases req (play req t pre) j
    generalize turn req (play req t pre) j = c' at hturn hother ⊢
    subst hj
    cases hturn with
    | write =>
      refine ⟨?_, ?_, fun hne hone => ?_, fun hne h0 => ?_⟩
      · show (put _ (req j) (req j).key).isSome
        rw [put_self]
        rfl
      · rintro rfl
        exact Function.update_self ..
      · rw [hother i hne]
        exact hinsert i hi hone
      · rw [hother i hne, hzero h0]
        decide
    | absent h | replace h | keep h | gone h => rw [hpc] at h; cases h
    | refuse _ hkey => rw [htable] at hkey; cases hkey
    | ended h => rw [hpc] at h; rcases h with h | h | h <;> cases h
  | append_singleton post m ih =>
    obtain ⟨hrow, hwritten, hone, hzero⟩ := ih
    have hsplit : pre ++ j :: (post ++ [m]) = (pre ++ j :: post) ++ [m] := by
      rw [List.append_assoc]; rfl
    rw [hsplit, play_snoc]
    generalize play req t (pre ++ j :: post) = c at hrow hwritten hone hzero ⊢
    have hgrows : ((turn req c m).table k).isSome := by
      have hturn := turn_cases req c m
      generalize turn req c m = c' at hturn ⊢
      cases hturn with
      | write => exact put_isSome hrow _
      | _ => exact hrow
    refine ⟨hgrows, fun he => ?_, fun hne h1 => ?_, fun hne h0 => ?_⟩
    · rw [turn_ended (.inr (.inl (hwritten he)))]
      exact hwritten he
    · have hpc := hone hne h1
      rw [List.count_append, List.count_singleton]
      by_cases him : i = m
      · subst him
        rw [beq_self_eq_true, if_pos rfl, if_neg (by omega)]
        by_cases h0 : post.count i = 0
        · rw [if_pos h0] at hpc
          have hturn := turn_cases req c i
          generalize turn req c i = c' at hturn ⊢
          subst hi
          cases hturn with
          | refuse => exact Function.update_self ..
          | write h =>
            rcases h with ⟨-, hkey⟩ | ⟨h, -⟩
            · rw [hkey] at hrow; cases hrow
            · rw [hpc] at h; cases h
          | absent h | replace h | keep h | gone h => rw [hpc] at h; cases h
          | ended h => rw [hpc] at h; rcases h with h | h | h <;> cases h
        · rw [if_neg h0] at hpc
          rw [turn_ended (.inr (.inr hpc))]
          exact hpc
      · rw [turn_pcs_ne _ him, if_neg (show ¬ (m == i) = true by simpa using Ne.symm him),
          Nat.add_zero]
        exact hpc
    · obtain ⟨hno, hno'⟩ := hzero hne h0
      by_cases him : i = m
      · subst him
        have hturn := turn_cases req c i
        generalize turn req c i = c' at hturn ⊢
        subst hi
        cases hturn with
        | absent _ hkey => rw [hkey] at hrow; cases hrow
        | refuse h => exact absurd h hno
        | ended => exact ⟨hno, hno'⟩
        | _ => simp only [Function.update_self]; decide
      · rw [turn_pcs_ne _ him]
        exact ⟨hno, hno'⟩

/-- Another process with its key is the first to have both its turns, between
the two of `i`. -/
def Overtaken (req : ι → Request K V) (sched : List ι) (i : ι) : Prop :=
  ∃ pre j post, FirstWrite req (req i).key sched pre j post ∧ i ≠ j ∧ pre.count i = 1

/-- **Who is refused.** Once a process has had its turns, it is refused if and
only if its key had no row at the start and another insert has overtaken it. -/
theorem refused_iff (req : ι → Request K V) (t : K → Option V) {sched : List ι} {i : ι}
    (h : 2 ≤ sched.count i) : (play req t sched).pcs i = .refused ↔
      t (req i).key = none ∧ Overtaken req sched i := by
  have hlate : t (req i).key = none → ∀ pre j post, FirstWrite req (req i).key sched pre j post →
      ((play req t sched).pcs i = .refused ↔ i ≠ j ∧ pre.count i = 1) := by
    intro ht pre j post hfirst
    obtain ⟨-, hwritten, hone, hzero⟩ := late ht post hfirst.key (show (req i).key = _ from rfl)
      hfirst.once hfirst.early
    rw [← hfirst.split] at hwritten hone hzero
    by_cases hij : i = j
    · rw [hwritten hij]
      exact iff_of_false (by decide) fun hno => hno.1 hij
    · have hcount : sched.count i = pre.count i + post.count i := by
        rw [hfirst.split, List.count_append, List.count_cons_of_ne (Ne.symm hij)]
      have hle := hfirst.early i rfl
      by_cases h1 : pre.count i = 1
      · rw [hone hij h1, if_neg (by omega)]
        exact iff_of_true rfl ⟨hij, h1⟩
      · exact iff_of_false (hzero hij (by omega)).2 fun hno => h1 hno.2
  constructor
  · intro hrefused
    have ht := (play_inv req t sched).absent i (.inr hrefused)
    obtain ⟨pre, j, post, hfirst⟩ := exists_firstWrite ⟨i, rfl, h⟩
    obtain ⟨hij, hone⟩ := (hlate ht pre j post hfirst).mp hrefused
    exact ⟨ht, pre, j, post, hfirst, hij, hone⟩
  · rintro ⟨ht, pre, j, post, hfirst, hij, hone⟩
    exact (hlate ht pre j post hfirst).mpr ⟨hij, hone⟩

end Core.Upsert
