import Mathlib.Data.Set.Insert
import Mathlib.Logic.Function.Basic
import ServiceOrderOs.Core.Lts

/-!
# Two transactions of reads and one write

A transaction reads the shared state as often as it likes and ends with an
answer or with one write, which gives the answer. Two of them, named by a
`Bool`, take their steps in any order.

* `exists_first`: whatever the order, one of the two has run as if alone, and
  the other has seen the state before and the state after it, and then written.
* `First.along_iff`: a condition on every write of the race, as a condition on
  the write of each.
* `Guarded`: a transaction that needs some facts, checks that others do not
  hold and then writes; `Guarded.run_ends` is it alone.
-/
namespace Core.Race

variable {σ W α K : Type}

inductive Prog (σ W α : Type)
  | done (a : α)
  | read (f : σ → Prog σ W α)
  | write (w : W)

namespace Prog

/-- The transaction alone. -/
def run (exec : W → σ → α × σ) : Prog σ W α → σ → α × σ
  | done a, s => (a, s)
  | read f, s => (f s).run exec s
  | write w, s => exec w s

def step (exec : W → σ → α × σ) : Prog σ W α → σ → Prog σ W α × σ
  | done a, s => (done a, s)
  | read f, s => (f s, s)
  | write w, s => (done (exec w s).1, (exec w s).2)

/-- What is left after reads that all see `s`. -/
def settle : Prog σ W α → σ → Prog σ W α
  | read f, s => (f s).settle s
  | p, _ => p

def Settled : Prog σ W α → Prop
  | read _ => False
  | _ => True

/-- `q` is left of the transaction after some reads of states in `U`. -/
inductive Reads (U : Set σ) : Prog σ W α → Prog σ W α → Prop
  | refl (p : Prog σ W α) : Reads U p p
  | read {u : σ} {f : σ → Prog σ W α} {q : Prog σ W α} (hu : u ∈ U) (h : Reads U (f u) q) :
      Reads U (read f) q

end Prog

/-- The shared state and what is left of each transaction. -/
structure Pair (σ W α : Type) where
  shared : σ
  prog : Bool → Prog σ W α

variable (exec : W → σ → α × σ)

def turn (c : Pair σ W α) (b : Bool) : Pair σ W α where
  shared := ((c.prog b).step exec c.shared).2
  prog := Function.update c.prog b ((c.prog b).step exec c.shared).1

/-- It may begin anywhere. -/
def race : Lts (Pair σ W α) Bool where
  init _ := True
  step c b c' := c' = turn exec c b

def play (c : Pair σ W α) (sched : List Bool) : Pair σ W α := sched.foldl (turn exec) c

/-- When it is the turn of a write, `C` holds of the shared state and the write. -/
def AtWrite (C : σ → W → Prop) (c : Pair σ W α) (b : Bool) : Prop :=
  ∀ w, c.prog b = .write w → C c.shared w

def Pair.Ended (c : Pair σ W α) : Prop := ∀ b, ∃ a, c.prog b = .done a

variable {exec}

/-! ## One transaction -/

namespace Prog

theorem settle_settled (p : Prog σ W α) (s : σ) : (p.settle s).Settled := by
  induction p with
  | done a => trivial
  | read f ih => exact ih s
  | write w => trivial

theorem run_settle (p : Prog σ W α) (s : σ) : (p.settle s).run exec s = p.run exec s := by
  induction p with
  | done a => rfl
  | read f ih => exact ih s
  | write w => rfl

theorem reads_settle {U : Set σ} {s : σ} (hs : s ∈ U) (p : Prog σ W α) :
    Reads U p (p.settle s) := by
  induction p with
  | done a => exact .refl _
  | read f ih => exact .read hs (ih s)
  | write w => exact .refl _

theorem Reads.mono {U V : Set σ} (hUV : U ⊆ V) {p q : Prog σ W α} (h : Reads U p q) :
    Reads V p q := by
  induction h with
  | refl p => exact .refl p
  | read hu _ ih => exact .read (hUV hu) ih

/-- To the end a transaction without a read left has read nothing. -/
theorem Reads.of_settled {U : Set σ} {p q : Prog σ W α} (h : Reads U p q) (hp : p.Settled) :
    q = p := by
  cases h with
  | refl => rfl
  | read => exact hp.elim

/-- The end of a transaction that begins with a read. -/
theorem Reads.of_read {U : Set σ} {f : σ → Prog σ W α} {q : Prog σ W α}
    (h : Reads U (.read f) q) (hq : q.Settled) : ∃ u ∈ U, Reads U (f u) q := by
  cases h with
  | refl => exact hq.elim
  | read hu h => exact ⟨_, hu, h⟩

end Prog

/-! ## The race -/

theorem turn_done {c : Pair σ W α} {b : Bool} {a : α} (h : c.prog b = .done a) :
    turn exec c b = c := by
  obtain ⟨s, p⟩ := c
  simp only at h
  simp only [turn, h, Prog.step]
  rw [← h, Function.update_eq_self]

theorem turn_read {c : Pair σ W α} {b : Bool} {f : σ → Prog σ W α} (h : c.prog b = .read f) :
    turn exec c b = ⟨c.shared, Function.update c.prog b (f c.shared)⟩ := by
  simp only [turn, h, Prog.step]

theorem turn_write {c : Pair σ W α} {b : Bool} {w : W} (h : c.prog b = .write w) :
    turn exec c b =
      ⟨(exec w c.shared).2, Function.update c.prog b (.done (exec w c.shared).1)⟩ := by
  simp only [turn, h, Prog.step]

theorem along_turn {C : σ → W → Prop} {c : Pair σ W α} {b : Bool} {sched : List Bool} :
    (race exec).Along (AtWrite C) c (b :: sched) ↔
      AtWrite C c b ∧ (race exec).Along (AtWrite C) (turn exec c b) sched := by
  rw [Lts.along_cons]
  constructor
  · intro h
    exact h _ rfl
  · intro h c' hc
    rw [show c' = turn exec c b from hc]
    exact h

theorem run_play (c : Pair σ W α) (sched : List Bool) :
    (race exec).Run c sched (play exec c sched) := by
  induction sched generalizing c with
  | nil => exact .nil c
  | cons b sched ih => exact .cons rfl (ih _)

theorem not_ne (b : Bool) : b ≠ !b := by cases b <;> decide

/-! ### One has ended -/

section Alone
variable {c c' : Pair σ W α} {b : Bool} {x : α}

theorem turn_ended (hb : c.prog b = .done x) (a : Bool) : (turn exec c a).prog b = .done x := by
  by_cases hab : b = a
  · subst hab
    rw [turn_done hb]; exact hb
  · simp only [turn]
    rw [Function.update_of_ne hab, hb]

/-- A turn takes the other no further than it would come by itself. -/
theorem turn_run (hb : c.prog b = .done x) (a : Bool) :
    ((turn exec c a).prog (!b)).run exec (turn exec c a).shared =
      (c.prog (!b)).run exec c.shared := by
  by_cases hab : a = b
  · subst hab
    rw [turn_done hb]
  · obtain rfl : a = !b := Bool.eq_not_of_ne hab
    simp only [turn, Function.update_self]
    cases c.prog (!b) <;> rfl

theorem run_alone {sched : List Bool} (hrun : (race exec).Run c sched c') (hend : c'.Ended)
    (hb : c.prog b = .done x) :
    c'.prog b = .done x ∧ c'.prog (!b) = .done ((c.prog (!b)).run exec c.shared).1 ∧
      c'.shared = ((c.prog (!b)).run exec c.shared).2 := by
  induction hrun with
  | nil c =>
    obtain ⟨y, hy⟩ := hend (!b)
    rw [hy]
    exact ⟨hb, rfl, rfl⟩
  | cons hst _ ih =>
    cases hst
    have h := ih hend (turn_ended hb _)
    rwa [turn_run hb] at h

theorem along_alone {C : σ → W → Prop} {sched : List Bool} (hrun : (race exec).Run c sched c')
    (hend : c'.Ended) (hb : c.prog b = .done x) :
    (race exec).Along (AtWrite C) c sched ↔
      ∀ w, (c.prog (!b)).settle c.shared = .write w → C c.shared w := by
  induction hrun with
  | nil c =>
    obtain ⟨y, hy⟩ := hend (!b)
    rw [hy]
    exact iff_of_true Lts.along_nil (by intro w hw; cases hw)
  | @cons c _ _ a _ hst _ ih =>
    cases hst
    have ih := ih hend (turn_ended hb a)
    rw [along_turn, ih]
    by_cases hab : a = b
    · subst hab
      rw [turn_done hb, AtWrite, hb]
      exact and_iff_right (by intro w hw; cases hw)
    · obtain rfl : a = !b := Bool.eq_not_of_ne hab
      simp only [turn, AtWrite, Function.update_self]
      cases hp : c.prog (!b) with
      | done y => exact and_iff_right (by intro w hw; cases hw)
      | read f => exact and_iff_right (by intro w hw; cases hw)
      | write w => exact and_iff_left (by intro w' hw'; cases hw')

end Alone

/-! ### The first to end -/

/-- From `s`, `b` has run as if alone. What is left of the other when `b` has
ended and its own reads are over is `q`, and then it has ended. -/
structure First (exec : W → σ → α × σ) (s : σ) (p : Bool → Prog σ W α) (sched : List Bool)
    (c : Pair σ W α) (b : Bool) (q : Prog σ W α) : Prop where
  answer : c.prog b = .done ((p b).run exec s).1
  reads : (p (!b)).Reads {s, ((p b).run exec s).2} q
  settled : q.Settled
  other : c.prog (!b) = .done (q.run exec ((p b).run exec s).2).1
  shared : c.shared = (q.run exec ((p b).run exec s).2).2
  along : ∀ C, (race exec).Along (AtWrite C) ⟨s, p⟩ sched ↔
    (∀ w, (p b).settle s = .write w → C s w) ∧
      ∀ w, q = .write w → C ((p b).run exec s).2 w

/-- It ends with its write, or has ended before. -/
theorem first_of_ended {s : σ} {p : Bool → Prog σ W α} {c : Pair σ W α} {sched : List Bool}
    {b : Bool} {x : α} (hrun : (race exec).Run ⟨s, p⟩ sched c) (hend : c.Ended)
    (hb : p b = .done x) : First exec s p sched c b ((p (!b)).settle s) := by
  obtain ⟨h₁, h₂, h₃⟩ := run_alone hrun hend hb
  have hs : ((p b).run exec s).2 = s := by rw [hb]; rfl
  refine ⟨by rw [h₁, hb]; rfl, Prog.reads_settle (.inl rfl) _, Prog.settle_settled _ _,
    by rw [hs, Prog.run_settle]; exact h₂, by rw [hs, Prog.run_settle]; exact h₃, fun C => ?_⟩
  rw [along_alone hrun hend hb, hs, hb]
  exact (and_iff_right (by intro w hw; cases hw)).symm

/-- The read that comes first sees `s`. -/
theorem First.after_read {s : σ} {p : Bool → Prog σ W α} {c : Pair σ W α} {sched : List Bool}
    {a b : Bool} {f : σ → Prog σ W α} {q : Prog σ W α} (hp : p a = .read f)
    (h : First exec s (Function.update p a (f s)) sched c b q) :
    First exec s p (a :: sched) c b q := by
  have hrun : ∀ b, (Function.update p a (f s) b).run exec s = (p b).run exec s := by
    intro b
    by_cases hb : b = a
    · subst hb
      rw [Function.update_self, hp]; rfl
    · rw [Function.update_of_ne hb]
  have hsettle : ∀ b, (Function.update p a (f s) b).settle s = (p b).settle s := by
    intro b
    by_cases hb : b = a
    · subst hb
      rw [Function.update_self, hp]; rfl
    · rw [Function.update_of_ne hb]
  have hreads : ∀ {b U}, s ∈ U → Prog.Reads U (Function.update p a (f s) b) q →
      Prog.Reads U (p b) q := by
    intro b U hs h
    by_cases hb : b = a
    · subst hb
      rw [Function.update_self] at h
      rw [hp]
      exact .read hs h
    · rwa [Function.update_of_ne hb] at h
  obtain ⟨h₁, h₂, h₃, h₄, h₅, h₆⟩ := h
  rw [hrun] at h₁ h₂ h₄ h₅
  refine ⟨h₁, hreads (.inl rfl) h₂, h₃, h₄, h₅, fun C => ?_⟩
  rw [along_turn, turn_read hp, h₆ C, hsettle, hrun]
  refine and_iff_right fun w hw => ?_
  have hw : p a = .write w := hw
  rw [hp] at hw
  cases hw

theorem first_of_write {s : σ} {p : Bool → Prog σ W α} {c : Pair σ W α} {sched : List Bool}
    {a : Bool} {w : W} (hp : p a = .write w)
    (hr : (race exec).Run ⟨(exec w s).2, Function.update p a (.done (exec w s).1)⟩ sched c)
    (hend : c.Ended) : First exec s p (a :: sched) c a ((p (!a)).settle (exec w s).2) := by
  have hb : Function.update p a (.done (exec w s).1) a = .done (exec w s).1 :=
    Function.update_self ..
  have hn : Function.update p a (.done (exec w s).1) (!a) = p (!a) :=
    Function.update_of_ne (not_ne a).symm ..
  obtain ⟨h₁, h₂, h₃⟩ := run_alone hr hend hb
  simp only [hn] at h₂ h₃
  have hs : ((p a).run exec s).2 = (exec w s).2 := by rw [hp]; rfl
  refine ⟨by rw [h₁, hp]; rfl, ?_, Prog.settle_settled _ _, ?_, ?_, fun C => ?_⟩
  · rw [hs]
    exact Prog.reads_settle (.inr rfl) _
  · rw [hs, Prog.run_settle]; exact h₂
  · rw [hs, Prog.run_settle]; exact h₃
  · rw [along_turn, turn_write hp, along_alone hr hend hb, hs]
    simp only [hn, AtWrite, hp, Prog.settle]

/-- **One runs as if alone.** -/
theorem exists_first {s : σ} {p : Bool → Prog σ W α} {sched : List Bool} {c : Pair σ W α}
    (hrun : (race exec).Run ⟨s, p⟩ sched c) (hend : c.Ended) :
    ∃ b q, First exec s p sched c b q := by
  induction sched generalizing p with
  | nil =>
    obtain ⟨x, hx⟩ := hend true
    cases hrun
    exact ⟨true, _, first_of_ended (.nil _) hend hx⟩
  | cons a sched ih =>
    cases hp : p a with
    | done x => exact ⟨a, _, first_of_ended hrun hend hp⟩
    | read f =>
      cases hrun with
      | cons hst hr =>
        cases hst
        rw [turn_read hp] at hr
        obtain ⟨b, q, h⟩ := ih hr
        exact ⟨b, q, h.after_read hp⟩
    | write w =>
      cases hrun with
      | cons hst hr =>
        cases hst
        rw [turn_write hp] at hr
        exact ⟨a, _, first_of_write hp hr hend⟩

/-! ## Guarded writes -/

/-- What a transaction needs, what it checks against and what it may write. -/
structure Guard (σ W : Type) where
  needs : Set (σ → Prop)
  checks : Set (σ → Prop)
  mine : W → Prop

namespace Guard

def Found (g : Guard σ W) (s : σ) : Prop := ∀ n ∈ g.needs, n s

def Taken (g : Guard σ W) (s : σ) : Prop := ∃ c ∈ g.checks, c s

/-- The ends the guard allows when each thing is looked at in some state of `U`. -/
inductive Ends (g : Guard σ W) (missing refused : α → Prop) (U : Set σ) : Prog σ W α → Prop
  | missing {a : α} {n : σ → Prop} {u : σ} (ha : missing a) (hn : n ∈ g.needs) (hu : u ∈ U)
      (h : ¬ n u) : Ends g missing refused U (.done a)
  | refused {a : α} {c : σ → Prop} {u : σ} (ha : refused a) (hn : ∀ n ∈ g.needs, ∃ u ∈ U, n u)
      (hc : c ∈ g.checks) (hu : u ∈ U) (h : c u) : Ends g missing refused U (.done a)
  | writes {w : W} (hw : g.mine w) (hn : ∀ n ∈ g.needs, ∃ u ∈ U, n u)
      (hc : ∀ c ∈ g.checks, ∃ u ∈ U, ¬ c u) : Ends g missing refused U (.write w)

/-- The transaction keeps to the guard on states in `I`. -/
def Guards (g : Guard σ W) (missing refused : α → Prop) (I : Set σ) (p : Prog σ W α) : Prop :=
  ∀ U ⊆ I, U.Nonempty → ∀ q, p.Reads U q → q.Settled → g.Ends missing refused U q

variable {g : Guard σ W} {missing refused : α → Prop} {I : Set σ} {p : Prog σ W α} {s t : σ}

variable (exec)

theorem exists_mem_singleton {P : σ → Prop} : (∃ u ∈ ({s} : Set σ), P u) ↔ P s := by simp

/-- A transaction that runs alone looks at one state only. -/
theorem Guards.run_cases (h : g.Guards missing refused I p) (hs : s ∈ I) :
    (∃ a, p.run exec s = (a, s) ∧ missing a ∧ ¬ g.Found s) ∨
      (∃ a, p.run exec s = (a, s) ∧ refused a ∧ g.Found s ∧ g.Taken s) ∨
      ∃ w, p.settle s = .write w ∧ p.run exec s = exec w s ∧ g.mine w ∧ g.Found s ∧
        ¬ g.Taken s := by
  have he := h {s} (Set.singleton_subset_iff.mpr hs) ⟨s, rfl⟩ _
    (Prog.reads_settle (Set.mem_singleton s) p) (p.settle_settled s)
  have hr : (p.settle s).run exec s = p.run exec s := p.run_settle s
  generalize p.settle s = q at he hr
  cases he with
  | missing ha hn hu h =>
    obtain rfl := Set.mem_singleton_iff.mp hu
    exact .inl ⟨_, hr.symm, ha, fun hf => h (hf _ hn)⟩
  | refused ha hn hc hu h =>
    obtain rfl := Set.mem_singleton_iff.mp hu
    exact .inr (.inl ⟨_, hr.symm, ha, fun n hm => exists_mem_singleton.mp (hn n hm), _, hc, h⟩)
  | writes hw hn hc =>
    refine .inr (.inr ⟨_, rfl, hr.symm, hw, fun n hm => exists_mem_singleton.mp (hn n hm), ?_⟩)
    intro ht
    obtain ⟨c, hm, hcs⟩ := ht
    exact exists_mem_singleton.mp (hc c hm) hcs

theorem Guards.run_missing (h : g.Guards missing refused I p) (hs : s ∈ I)
    (hf : ¬ g.Found s) : ∃ a, p.run exec s = (a, s) ∧ missing a := by
  rcases h.run_cases exec hs with ⟨a, hr, ha, -⟩ | ⟨_, _, _, hf', _⟩ | ⟨_, _, _, _, hf', _⟩
  · exact ⟨a, hr, ha⟩
  · exact absurd hf' hf
  · exact absurd hf' hf

theorem Guards.run_refused (h : g.Guards missing refused I p) (hs : s ∈ I) (hf : g.Found s)
    (ht : g.Taken s) : ∃ a, p.run exec s = (a, s) ∧ refused a := by
  rcases h.run_cases exec hs with ⟨_, _, _, hf'⟩ | ⟨a, hr, ha, -⟩ | ⟨_, _, _, _, _, ht'⟩
  · exact absurd hf hf'
  · exact ⟨a, hr, ha⟩
  · exact absurd ht ht'

theorem Guards.run_writes (h : g.Guards missing refused I p) (hs : s ∈ I) (hf : g.Found s)
    (ht : ¬ g.Taken s) : ∃ w, p.run exec s = exec w s ∧ g.mine w := by
  rcases h.run_cases exec hs with ⟨_, _, _, hf'⟩ | ⟨_, _, _, _, ht'⟩ | ⟨w, _, hr, hw, _⟩
  · exact absurd hf hf'
  · exact absurd ht' ht
  · exact ⟨w, hr, hw⟩

/-- Between two states nothing the guard looks at was lost, or nothing was
gained, or what it needs is the same. -/
def Comparable (g : Guard σ W) (s t : σ) : Prop :=
  ((∀ n ∈ g.needs, n s → n t) ∧ ∀ c ∈ g.checks, c s → c t) ∨
    ((∀ n ∈ g.needs, n t → n s) ∧ ∀ c ∈ g.checks, c t → c s) ∨ ∀ n ∈ g.needs, n s ↔ n t

theorem exists_mem_pair {P : σ → Prop} : (∃ u ∈ ({s, t} : Set σ), P u) ↔ P s ∨ P t := by simp

/-- What was found piece by piece is there as a whole. -/
theorem Comparable.found (h : g.Comparable s t)
    (hn : ∀ n ∈ g.needs, ∃ u ∈ ({s, t} : Set σ), n u) : g.Found s ∨ g.Found t := by
  have hn : ∀ n ∈ g.needs, n s ∨ n t := fun n hm => exists_mem_pair.mp (hn n hm)
  rcases h with ⟨h, -⟩ | ⟨h, -⟩ | h
  · exact .inr fun n hm => (hn n hm).elim (h n hm) id
  · exact .inl fun n hm => (hn n hm).elim id (h n hm)
  · exact .inl fun n hm => (hn n hm).elim id (h n hm).mpr

/-- A refusal is one in one of the states. -/
theorem Comparable.taken (h : g.Comparable s t)
    (hn : ∀ n ∈ g.needs, ∃ u ∈ ({s, t} : Set σ), n u) {c : σ → Prop} (hc : c ∈ g.checks)
    {u : σ} (hu : u ∈ ({s, t} : Set σ)) (hcu : c u) :
    (g.Found s ∧ g.Taken s) ∨ (g.Found t ∧ g.Taken t) := by
  have hn : ∀ n ∈ g.needs, n s ∨ n t := fun n hm => exists_mem_pair.mp (hn n hm)
  have hcu : c s ∨ c t := exists_mem_pair.mp ⟨u, hu, hcu⟩
  rcases h with ⟨h, h'⟩ | ⟨h, h'⟩ | h
  · exact .inr ⟨fun n hm => (hn n hm).elim (h n hm) id, c, hc, hcu.elim (h' c hc) id⟩
  · exact .inl ⟨fun n hm => (hn n hm).elim id (h n hm), c, hc, hcu.elim id (h' c hc)⟩
  · rcases hcu with hcu | hcu
    · exact .inl ⟨fun n hm => (hn n hm).elim id (h n hm).mpr, c, hc, hcu⟩
    · exact .inr ⟨fun n hm => (hn n hm).elim (h n hm).mp id, c, hc, hcu⟩

end Guard
end Core.Race
