import Mathlib.Data.List.Induction
import Mathlib.Logic.Function.Basic

/-!
# Two read-modify-write transactions on one register

Two processes, named by a `Bool`, take turns in any order. Each reads the
register at its turn `r` and writes at its turn `w`, `r < w`, what its
transaction makes of the value it read; a transaction may be refused and then
writes nothing. Its other turns do not touch the register.

* `play_shape`: what has been read and written after any schedule. Either
  nobody has written; or one wrote before the other read (`Before`), which is
  the serial order; or both read the first value (`Overlap`), and then the
  later write replaces the earlier one (`LastWrite`).
* `before_of_not_overlap`: two that do not overlap are in order.
-/
namespace Core.ReadWrite

variable {V E : Type}

/-- Refused, or the value to write and an output. -/
abbrev Txn (V E : Type) := V → Option (V × E)

/-- The register, when `cur` is in it and the transaction read `v`. -/
def Txn.write (f : Txn V E) (v cur : V) : V :=
  match f v with
  | some (v', _) => v'
  | none => cur

/-- What the transaction run alone leaves in the register. -/
def Txn.value (f : Txn V E) (v : V) : V := f.write v v

/-- The register, how many turns each process has had and what it has read. -/
structure Cell (V : Type) where
  reg : V
  turns : Bool → Nat
  held : Bool → Option V

def start (x : V) : Cell V := ⟨x, fun _ => 0, fun _ => none⟩

section
variable (f : Bool → Txn V E) (r w : Nat)

def turn (c : Cell V) (b : Bool) : Cell V where
  turns := Function.update c.turns b (c.turns b + 1)
  held := if c.turns b + 1 = r then Function.update c.held b (some c.reg) else c.held
  reg := if c.turns b + 1 = w then
      match c.held b with
      | some v => (f b).write v c.reg
      | none => c.reg
    else c.reg

def play (c : Cell V) (sched : List Bool) : Cell V := sched.foldl (turn f r w) c

/-- At some point of the schedule both have read and neither has written. -/
def Overlap (sched : List Bool) : Prop :=
  ∃ pre post, sched = pre ++ post ∧ ∀ b, r ≤ pre.count b ∧ pre.count b < w

/-- Process `b` writes before the other reads. -/
def Before (b : Bool) (sched : List Bool) : Prop :=
  ∃ pre post, sched = pre ++ b :: post ∧ pre.count b + 1 = w ∧ pre.count (!b) < r

/-- Process `b` writes, and the other has written. -/
def LastWrite (b : Bool) (sched : List Bool) : Prop :=
  ∃ pre post, sched = pre ++ b :: post ∧ pre.count b + 1 = w ∧ w ≤ pre.count (!b)

end

/-! ## One transaction -/

theorem Txn.write_of_some {f : Txn V E} {v v' cur : V} {e : E} (h : f v = some (v', e)) :
    f.write v cur = v' := by
  unfold Txn.write; rw [h]

theorem Txn.write_of_none {f : Txn V E} {v cur : V} (h : f v = none) : f.write v cur = cur := by
  unfold Txn.write; rw [h]

theorem Txn.value_of_some {f : Txn V E} {v v' : V} {e : E} (h : f v = some (v', e)) :
    f.value v = v' := Txn.write_of_some h

theorem Txn.value_of_none {f : Txn V E} {v : V} (h : f v = none) : f.value v = v :=
  Txn.write_of_none h

variable {f : Bool → Txn V E} {r w : Nat} {l : List Bool} {b : Bool}

/-! ## Schedules -/

theorem count_snoc_self (l : List Bool) (a : Bool) : (l ++ [a]).count a = l.count a + 1 := by
  rw [List.count_append, List.count_singleton_self]

theorem count_snoc_of_ne (l : List Bool) {a b : Bool} (h : b ≠ a) :
    (l ++ [a]).count b = l.count b := by
  rw [List.count_append, List.count_singleton, beq_false_of_ne (Ne.symm h)]; rfl

theorem Overlap.append (h : Overlap r w l) (l' : List Bool) : Overlap r w (l ++ l') := by
  obtain ⟨pre, post, rfl, hc⟩ := h
  exact ⟨pre, post ++ l', by simp, hc⟩

theorem Before.append (h : Before r w b l) (l' : List Bool) : Before r w b (l ++ l') := by
  obtain ⟨pre, post, rfl, h1, h2⟩ := h
  exact ⟨pre, post ++ l', by simp, h1, h2⟩

theorem LastWrite.append (h : LastWrite w b l) (l' : List Bool) : LastWrite w b (l ++ l') := by
  obtain ⟨pre, post, rfl, h1, h2⟩ := h
  exact ⟨pre, post ++ l', by simp, h1, h2⟩

/-- Two beginnings of one schedule are comparable, and so are their counts. -/
theorem count_le_or {p p' q q' : List Bool} (h : p ++ q = p' ++ q') :
    (∀ b, p.count b ≤ p'.count b) ∨ ∀ b, p'.count b ≤ p.count b := by
  rcases List.prefix_or_prefix_of_prefix (⟨q, rfl⟩ : p <+: p ++ q) ⟨q', h.symm⟩ with hp | hp
  · exact .inl fun b => hp.sublist.count_le b
  · exact .inr fun b => hp.sublist.count_le b

theorem Before.not_overlap (h : Before r w b l) : ¬ Overlap r w l := by
  obtain ⟨pre, post, rfl, h1, h2⟩ := h
  intro ho
  obtain ⟨pre', post', he, hc⟩ := ho
  have hcut : (pre ++ [b]) ++ post = pre' ++ post' := by rw [← he]; simp
  have hb := hc b
  have hnb := hc (!b)
  rcases count_le_or hcut with hle | hle
  · have := hle b
    rw [List.count_append, List.count_singleton_self] at this
    omega
  · have := hle (!b)
    rw [List.count_append, List.count_singleton] at this
    have hne : (b == !b) = false := by cases b <;> rfl
    rw [hne] at this
    simp only [Bool.false_eq_true, if_false] at this
    omega

theorem LastWrite.unique {b' : Bool} (h : LastWrite w b l) (h' : LastWrite w b' l) : b = b' := by
  obtain ⟨pre, post, rfl, h1, h2⟩ := h
  obtain ⟨pre', post', he, h1', h2'⟩ := h'
  by_contra hne
  have hb' : b' = !b := Bool.eq_not_of_ne (Ne.symm hne)
  subst hb'
  rw [Bool.not_not] at h2'
  rcases count_le_or he with hle | hle
  · have := hle (!b); omega
  · have := hle b; omega

/-! ## What has been read and written -/

theorem play_snoc (c : Cell V) (l : List Bool) (b : Bool) :
    play f r w c (l ++ [b]) = turn f r w (play f r w c l) b := by
  simp [play]

theorem play_turns (c : Cell V) (l : List Bool) (b : Bool) :
    (play f r w c l).turns b = c.turns b + l.count b := by
  induction l using List.reverseRecOn with
  | nil => rfl
  | append_singleton l a ih =>
    rw [play_snoc]
    simp only [turn]
    by_cases h : b = a
    · subst h; rw [Function.update_self, ih, count_snoc_self]; omega
    · rw [Function.update_of_ne h, ih, count_snoc_of_ne l h]

/-- After a schedule on a register that held `x`. -/
inductive Shape (f : Bool → Txn V E) (r w : Nat) (x : V) (l : List Bool) (c : Cell V) : Prop
  | unwritten (hn : ∀ b, l.count b < w) (hreg : c.reg = x)
      (hheld : ∀ b, r ≤ l.count b → c.held b = some x)
  | serial (b : Bool) (hb : Before r w b l) (hn : w ≤ l.count b) (hheld : c.held b = some x)
      (hlate : r ≤ l.count (!b) → c.held (!b) = some ((f b).value x))
      (hreg : c.reg = if w ≤ l.count (!b) then (f !b).value ((f b).value x) else (f b).value x)
  | overlap (b : Bool) (ho : Overlap r w l) (hn : w ≤ l.count b) (hr : r ≤ l.count (!b))
      (hheld : ∀ b, c.held b = some x) (hlast : w ≤ l.count (!b) → LastWrite w (!b) l)
      (hreg : c.reg = if w ≤ l.count (!b) then (f !b).write x ((f b).value x) else (f b).value x)

theorem turn_held (c : Cell V) (a b : Bool) : (turn f r w c a).held b =
    if c.turns a + 1 = r ∧ b = a then some c.reg else c.held b := by
  simp only [turn]
  by_cases h1 : c.turns a + 1 = r
  · rw [if_pos h1]
    by_cases h2 : b = a
    · subst h2; rw [Function.update_self, if_pos ⟨h1, rfl⟩]
    · rw [Function.update_of_ne h2, if_neg fun h => h2 h.2]
  · rw [if_neg h1, if_neg fun h => h1 h.1]

/-- A turn that is not the write leaves the register alone. -/
theorem turn_reg_of_ne {c : Cell V} {a : Bool} (h : c.turns a + 1 ≠ w) :
    (turn f r w c a).reg = c.reg := if_neg h

theorem turn_reg_write {c : Cell V} {a : Bool} {v : V} (h : c.turns a + 1 = w)
    (hv : c.held a = some v) : (turn f r w c a).reg = (f a).write v c.reg := by
  simp only [turn]
  rw [if_pos h, hv]

/-- Past its read a process reads no more. -/
theorem turn_held_of_read {c : Cell V} {a : Bool} (h : r ≤ c.turns a) (b : Bool) :
    (turn f r w c a).held b = c.held b := by
  rw [turn_held, if_neg fun h' => by omega]

/-- A register that awaits one more write, before and after a turn of its writer. -/
theorem turn_reg_if {c : Cell V} {a : Bool} {y z : V} (ht : c.turns a = l.count a)
    (hreg : c.reg = if w ≤ l.count a then y else z)
    (hy : l.count a + 1 = w → ∃ v, c.held a = some v ∧ (f a).write v z = y) :
    (turn f r w c a).reg = if w ≤ (l ++ [a]).count a then y else z := by
  rw [count_snoc_self]
  by_cases hw : l.count a + 1 = w
  · obtain ⟨v, hv, rfl⟩ := hy hw
    rw [turn_reg_write (by rw [ht]; exact hw) hv, hreg, if_neg (by omega), if_pos (by omega)]
  · rw [turn_reg_of_ne (by rw [ht]; exact hw), hreg]
    by_cases hle : w ≤ l.count a
    · rw [if_pos hle, if_pos (by omega)]
    · rw [if_neg hle, if_neg (by omega)]

section turn

variable {x : V} {c : Cell V} {a b : Bool} (hrw : r < w) (ht : ∀ b, c.turns b = l.count b)
include hrw ht

/-- The first write: the other process has read by then or it has not. -/
theorem first_write (hn : ∀ b, l.count b < w) (hreg : c.reg = x)
    (hheld : ∀ b, r ≤ l.count b → c.held b = some x) (hw : l.count a + 1 = w) :
    Shape f r w x (l ++ [a]) (turn f r w c a) := by
  have hra : r ≤ l.count a := by omega
  have hsame := count_snoc_self l a
  have hother : (l ++ [a]).count (!a) = l.count (!a) := count_snoc_of_ne l (by cases a <;> decide)
  have hh : ∀ b, (turn f r w c a).held b = c.held b :=
    turn_held_of_read (by rw [ht]; exact hra)
  have hlt : ¬ w ≤ (l ++ [a]).count (!a) := by rw [hother]; have := hn (!a); omega
  have hwr : (turn f r w c a).reg = (f a).value x := by
    rw [turn_reg_write (by rw [ht]; exact hw) (hheld a hra), hreg]; rfl
  by_cases hr : r ≤ l.count (!a)
  · refine .overlap a ⟨l, [a], rfl, fun b => ?_⟩ (by omega) (by rw [hother]; exact hr)
      (fun b => ?_) (fun h => absurd h hlt) (by rw [if_neg hlt]; exact hwr)
    · by_cases hb : b = a
      · subst hb; exact ⟨hra, hn b⟩
      · rw [Bool.eq_not_of_ne hb]; exact ⟨hr, hn _⟩
    · rw [hh]
      by_cases hb : b = a
      · subst hb; exact hheld b hra
      · rw [Bool.eq_not_of_ne hb]; exact hheld _ hr
  · exact .serial a ⟨l, [], rfl, hw, by omega⟩ (by omega) (by rw [hh]; exact hheld a hra)
      (fun h => absurd (hother ▸ h) hr) (by rw [if_neg hlt]; exact hwr)

theorem unwritten_turn (hn : ∀ b, l.count b < w) (hreg : c.reg = x)
    (hheld : ∀ b, r ≤ l.count b → c.held b = some x) :
    Shape f r w x (l ++ [a]) (turn f r w c a) := by
  by_cases hw : l.count a + 1 = w
  · exact first_write hrw ht hn hreg hheld hw
  have hsame := count_snoc_self l a
  refine .unwritten (fun b => ?_) ?_ (fun b hb => ?_)
  · by_cases hba : b = a
    · subst hba; have := hn b; omega
    · rw [count_snoc_of_ne l hba]; exact hn b
  · rw [turn_reg_of_ne (by rw [ht]; exact hw)]; exact hreg
  · rw [turn_held, ht, hreg]
    by_cases hba : b = a
    · subst hba
      by_cases hr : l.count b + 1 = r
      · rw [if_pos ⟨hr, rfl⟩]
      · rw [if_neg fun h => hr h.1]; exact hheld b (by omega)
    · rw [if_neg fun h => hba h.2]; exact hheld b (count_snoc_of_ne l hba ▸ hb)

/-- One has written before the other read: what the other reads is that value. -/
theorem serial_turn (hb : Before r w b l) (hn : w ≤ l.count b) (hheld : c.held b = some x)
    (hlate : r ≤ l.count (!b) → c.held (!b) = some ((f b).value x))
    (hreg : c.reg =
      if w ≤ l.count (!b) then (f !b).value ((f b).value x) else (f b).value x) :
    Shape f r w x (l ++ [a]) (turn f r w c a) := by
  have hsame := count_snoc_self l a
  by_cases hab : a = b
  · -- the one that has written
    subst hab
    have hother : (l ++ [a]).count (!a) = l.count (!a) :=
      count_snoc_of_ne l (by cases a <;> decide)
    have hh := turn_held_of_read (f := f) (w := w) (show r ≤ c.turns a by rw [ht]; omega)
    have hrg : (turn f r w c a).reg = c.reg := turn_reg_of_ne (by rw [ht]; omega)
    rw [← hother] at hlate hreg
    exact .serial a (hb.append [a]) (by omega) (by rw [hh]; exact hheld)
      (fun h => by rw [hh]; exact hlate h) (by rw [hrg]; exact hreg)
  · have hba : (!b) = a := Bool.not_eq.mpr (Ne.symm hab)
    have hhb : (turn f r w c a).held b = some x := by
      rw [turn_held, if_neg fun h => hab h.2.symm]; exact hheld
    rw [hba] at hlate hreg
    refine .serial b (hb.append [a]) (by rw [count_snoc_of_ne l (Ne.symm hab)]; exact hn) hhb
      ?_ ?_
    · intro h
      rw [hba] at h ⊢
      by_cases hr : r ≤ l.count a
      · rw [turn_held_of_read (by rw [ht]; exact hr)]; exact hlate hr
      · rw [turn_held, if_pos ⟨by rw [ht]; omega, rfl⟩, hreg, if_neg (by omega)]
    · rw [hba]
      exact turn_reg_if (ht a) hreg fun hw => ⟨_, hlate (by omega), rfl⟩

/-- One has written after both have read: the other still writes what it makes
of `x`. -/
theorem overlap_turn (ho : Overlap r w l) (hn : w ≤ l.count b) (hr : r ≤ l.count (!b))
    (hheld : ∀ b, c.held b = some x) (hlast : w ≤ l.count (!b) → LastWrite w (!b) l)
    (hreg : c.reg =
      if w ≤ l.count (!b) then (f !b).write x ((f b).value x) else (f b).value x) :
    Shape f r w x (l ++ [a]) (turn f r w c a) := by
  have hsame := count_snoc_self l a
  have hread : r ≤ c.turns a := by
    rw [ht]
    by_cases hb : a = b
    · subst hb; omega
    · rw [Bool.eq_not_of_ne hb]; exact hr
  have hh := turn_held_of_read (f := f) (w := w) hread
  by_cases hab : a = b
  · -- the one that has written
    subst hab
    have hother : (l ++ [a]).count (!a) = l.count (!a) :=
      count_snoc_of_ne l (by cases a <;> decide)
    have hrg : (turn f r w c a).reg = c.reg := turn_reg_of_ne (by rw [ht]; omega)
    rw [← hother] at hlast hreg hr
    exact .overlap a (ho.append [a]) (by omega) hr (fun b => by rw [hh]; exact hheld b)
      (fun h => (hlast h).append [a]) (by rw [hrg]; exact hreg)
  · have hba : (!b) = a := Bool.not_eq.mpr (Ne.symm hab)
    rw [hba] at hlast hreg hr
    refine .overlap b (ho.append [a]) (by rw [count_snoc_of_ne l (Ne.symm hab)]; exact hn)
      (by rw [hba]; omega) (fun b => by rw [hh]; exact hheld b) ?_ ?_
    · intro h
      rw [hba] at h ⊢
      by_cases hw : l.count a + 1 = w
      · exact ⟨l, [], rfl, hw, by rw [← hba, Bool.not_not]; exact hn⟩
      · exact (hlast (by omega)).append [a]
    · rw [hba]
      exact turn_reg_if (ht a) hreg fun _ => ⟨_, hheld a, rfl⟩

theorem shape_turn (h : Shape f r w x l c) (a : Bool) :
    Shape f r w x (l ++ [a]) (turn f r w c a) := by
  cases h with
  | unwritten hn hreg hheld => exact unwritten_turn hrw ht hn hreg hheld
  | serial b hb hn hheld hlate hreg => exact serial_turn hrw ht hb hn hheld hlate hreg
  | overlap b ho hn hr hheld hlast hreg => exact overlap_turn hrw ht ho hn hr hheld hlast hreg

end turn

/-- What two transactions on a register that held `x` have done after any
schedule of their turns. -/
theorem play_shape (f : Bool → Txn V E) (h0 : 0 < r) (hrw : r < w) (x : V) (l : List Bool) :
    Shape f r w x l (play f r w (start x) l) := by
  induction l using List.reverseRecOn with
  | nil =>
    refine .unwritten (fun b => ?_) rfl (fun b h => ?_)
    · rw [List.count_nil]; omega
    · rw [List.count_nil] at h; omega
  | append_singleton l a ih =>
    rw [play_snoc]
    exact shape_turn hrw (fun b => by rw [play_turns]; exact Nat.zero_add _) ih a

/-- When both have written and they did not overlap, one came before the other. -/
theorem before_of_not_overlap (h0 : 0 < r) (hrw : r < w) (hn : ∀ b, w ≤ l.count b)
    (h : ¬ Overlap r w l) : ∃ b, Before r w b l := by
  cases play_shape (V := Unit) (E := Unit) (fun _ _ => none) h0 hrw () l with
  | unwritten hlt => have := hn true; have := hlt true; omega
  | serial b hb => exact ⟨b, hb⟩
  | overlap _ ho => exact absurd ho h

end Core.ReadWrite
