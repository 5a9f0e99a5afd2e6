/-!
# Labelled transition systems

A system is a predicate on initial states and a labelled step relation. A
run is a finite list of labels; a state is reachable when some run from an
initial state ends in it.

* `Inductive.reachable`: an inductive invariant holds in every reachable state.
* `always_of_along`, `always_iff_along`: a property holds in every state of a
  run when (exactly when) every step of the run meets a condition.
* `along_iff_labels`: a condition on the labels alone.
* `Run.forward`: what runs do step by step, under such a condition.
* `Run.mono`: a run of a system is a run of every system with more steps.
-/
namespace Core

structure Lts (S L : Type) where
  init : S → Prop
  step : S → L → S → Prop

namespace Lts
variable {S L : Type} {M N : Lts S L}

/-- The labels `ls`, taken in order, lead from the first state to the last. -/
inductive Run (M : Lts S L) : S → List L → S → Prop
  | nil (s : S) : Run M s [] s
  | cons {s s' s'' : S} {l : L} {ls : List L} :
      M.step s l s' → Run M s' ls s'' → Run M s (l :: ls) s''

def Reachable (M : Lts S L) (s : S) : Prop := ∃ s₀ ls, M.init s₀ ∧ M.Run s₀ ls s

structure Inductive (M : Lts S L) (I : S → Prop) : Prop where
  init : ∀ s, M.init s → I s
  step : ∀ s l s', I s → M.step s l s' → I s'

theorem Run.single {s s' : S} {l : L} (h : M.step s l s') : M.Run s [l] s' := .cons h (.nil _)

theorem Run.append {s s' s'' : S} {ls ls' : List L} (h : M.Run s ls s') (h' : M.Run s' ls' s'') :
    M.Run s (ls ++ ls') s'' := by
  induction h with
  | nil => exact h'
  | cons hs _ ih => exact .cons hs (ih h')

theorem Run.inv {I : S → Prop} (hstep : ∀ s l s', I s → M.step s l s' → I s') {s s' : S}
    {ls : List L} (h : M.Run s ls s') (hs : I s) : I s' := by
  induction h with
  | nil => exact hs
  | cons hst _ ih => exact ih (hstep _ _ _ hs hst)

theorem Run.mono (hsub : ∀ s l s', M.step s l s' → N.step s l s') {s s' : S} {ls : List L}
    (h : M.Run s ls s') : N.Run s ls s' := by
  induction h with
  | nil => exact .nil _
  | cons hst _ ih => exact .cons (hsub _ _ _ hst) ih

theorem Reachable.mono (hinit : ∀ s, M.init s → N.init s)
    (hsub : ∀ s l s', M.step s l s' → N.step s l s') {s : S} (h : M.Reachable s) :
    N.Reachable s := by
  obtain ⟨s₀, ls, hi, hr⟩ := h
  exact ⟨s₀, ls, hinit _ hi, hr.mono hsub⟩

theorem Reachable.run {s s' : S} {ls : List L} (h : M.Reachable s) (hr : M.Run s ls s') :
    M.Reachable s' := by
  obtain ⟨s₀, ls₀, hi, h₀⟩ := h
  exact ⟨s₀, ls₀ ++ ls, hi, h₀.append hr⟩

theorem Reachable.step {s s' : S} {l : L} (h : M.Reachable s) (hs : M.step s l s') :
    M.Reachable s' := h.run (.single hs)

theorem Inductive.reachable {I : S → Prop} (h : M.Inductive I) : ∀ s, M.Reachable s → I s := by
  intro s hs
  obtain ⟨s₀, ls, hi, hr⟩ := hs
  exact hr.inv h.step (h.init _ hi)

/-- `P` holds in every state that a run over a part of `ls` from the start
leads to. -/
def Always (M : Lts S L) (P : S → Prop) (s : S) (ls : List L) : Prop :=
  ∀ ls₁ ls₂ s₁, ls = ls₁ ++ ls₂ → M.Run s ls₁ s₁ → P s₁

/-- Every step of a run over `ls` is taken in a state where `C` allows its
label. -/
def Along (M : Lts S L) (C : S → L → Prop) (s : S) (ls : List L) : Prop :=
  ∀ ls₁ l ls₂ s₁ s₂, ls = ls₁ ++ l :: ls₂ → M.Run s ls₁ s₁ → M.step s₁ l s₂ → C s₁ l

theorem Always.start {P : S → Prop} {s : S} {ls : List L} (h : M.Always P s ls) : P s :=
  h [] ls s rfl (.nil s)

theorem always_cons {P : S → Prop} {s : S} {l : L} {ls : List L} :
    M.Always P s (l :: ls) ↔ P s ∧ ∀ s', M.step s l s' → M.Always P s' ls := by
  constructor
  · refine fun h => ⟨h.start, fun s' hs => ?_⟩
    intro ls₁ ls₂ s₁ he hr
    subst he
    exact h (l :: ls₁) ls₂ s₁ rfl (.cons hs hr)
  · intro hs ls₁ ls₂ s₁ he hr
    obtain ⟨hP, h⟩ := hs
    cases hr with
    | nil => exact hP
    | cons hs hr =>
      rw [List.cons_append, List.cons.injEq] at he
      obtain ⟨rfl, rfl⟩ := he
      exact h _ hs _ ls₂ s₁ rfl hr

theorem along_nil {C : S → L → Prop} {s : S} : M.Along C s [] := by
  intro ls₁ l ls₂ s₁ s₂ he
  simp at he

theorem along_cons {C : S → L → Prop} {s : S} {l : L} {ls : List L} :
    M.Along C s (l :: ls) ↔ ∀ s', M.step s l s' → C s l ∧ M.Along C s' ls := by
  constructor
  · refine fun h s' hs => ⟨h [] l ls s s' rfl (.nil s) hs, ?_⟩
    intro ls₁ l' ls₂ s₁ s₂ he hr h₂
    subst he
    exact h (l :: ls₁) l' ls₂ s₁ s₂ rfl (.cons hs hr) h₂
  · intro h ls₁ l' ls₂ s₁ s₂ he hr h₂
    cases hr with
    | nil =>
      rw [List.nil_append, List.cons.injEq] at he
      obtain ⟨rfl, rfl⟩ := he
      exact (h s₂ h₂).1
    | cons hs hr =>
      rw [List.cons_append, List.cons.injEq] at he
      obtain ⟨rfl, rfl⟩ := he
      exact (h _ hs).2 _ l' ls₂ s₁ s₂ rfl hr h₂

/-- A run in two parts. -/
theorem Along.append {C : S → L → Prop} {s s' : S} {ls ls' : List L}
    (h : M.Along C s (ls ++ ls')) (hr : M.Run s ls s') : M.Along C s ls ∧ M.Along C s' ls' := by
  induction hr with
  | nil s => exact ⟨along_nil, h⟩
  | cons hst hrun ih =>
    have hrest : M.Along C _ (_ ++ ls') := (along_cons.mp h _ hst).2
    refine ⟨fun ls₁ l ls₂ s₁ s₂ he hr hs => ?_, (ih hrest).2⟩
    exact h ls₁ l (ls₂ ++ ls') s₁ s₂ (by rw [he, List.append_assoc, List.cons_append]) hr hs

/-- An invariant under which the steps that `C` allows go forward in a preorder:
so do runs of them. -/
theorem Run.forward {I : S → Prop} {C : S → L → Prop} {Q : S → S → Prop}
    (hrefl : ∀ s, Q s s) (htrans : ∀ s s' s'', Q s s' → Q s' s'' → Q s s'')
    (hstep : ∀ s l s', I s → C s l → M.step s l s' → I s' ∧ Q s s') {s s' : S} {ls : List L}
    (h : M.Run s ls s') (hC : M.Along C s ls) (hs : I s) : I s' ∧ Q s s' := by
  induction h with
  | nil s => exact ⟨hs, hrefl s⟩
  | cons hst _ ih =>
    obtain ⟨hl, hrest⟩ := along_cons.mp hC _ hst
    obtain ⟨hi, hle⟩ := hstep _ _ _ hs hl hst
    obtain ⟨hi', hle'⟩ := ih hrest hi
    exact ⟨hi', htrans _ _ _ hle hle'⟩

/-- A system that takes every label, and a condition that depends on the label
alone. -/
theorem along_iff_labels {C : S → L → Prop} {G : L → Prop} (htotal : ∀ s l, ∃ s', M.step s l s')
    (hG : ∀ s l, C s l ↔ G l) {s : S} {ls : List L} : M.Along C s ls ↔ ∀ l ∈ ls, G l := by
  induction ls generalizing s with
  | nil => exact iff_of_true along_nil fun l hl => by cases hl
  | cons l ls ih =>
    rw [along_cons, List.forall_mem_cons]
    constructor
    · intro h
      obtain ⟨s', hs⟩ := htotal s l
      exact ⟨(hG s l).mp (h s' hs).1, ih.mp (h s' hs).2⟩
    · rintro ⟨hl, hls⟩ s' -
      exact ⟨(hG s l).mpr hl, ih.mpr hls⟩

/-- An invariant that a step keeps when `C` allows it holds in every state of a
run whose steps `C` allows. -/
theorem always_of_along {P I : S → Prop} {C : S → L → Prop} (hP : ∀ s, I s → P s)
    (hgood : ∀ s l s', I s → C s l → M.step s l s' → I s') {s : S} (hs : I s) {ls : List L}
    (h : M.Along C s ls) : M.Always P s ls := by
  induction ls generalizing s with
  | nil =>
    intro ls₁ ls₂ s₁ he hr
    obtain ⟨rfl, -⟩ := List.append_eq_nil_iff.mp he.symm
    cases hr; exact hP s hs
  | cons l ls ih =>
    refine always_cons.mpr ⟨hP s hs, fun s' hs' => ?_⟩
    obtain ⟨hC, hrest⟩ := along_cons.mp h s' hs'
    exact ih (hgood s l s' hs hC hs') hrest

/-- Where any other step shows the invariant to be lost, a run never loses it
if and only if `C` allows every step. -/
theorem always_iff_along {P I : S → Prop} {C : S → L → Prop} (hP : ∀ s, I s → P s)
    (hgood : ∀ s l s', I s → C s l → M.step s l s' → I s')
    (hbad : ∀ s l s', I s → ¬ C s l → M.step s l s' → ¬ P s') {s : S} (hs : I s)
    (ls : List L) : M.Always P s ls ↔ M.Along C s ls := by
  refine ⟨fun h => ?_, always_of_along hP hgood hs⟩
  induction ls generalizing s with
  | nil => exact along_nil
  | cons l ls ih =>
    refine along_cons.mpr fun s' hs' => ?_
    have hrest := (always_cons.mp h).2 s' hs'
    have hC : C s l := Classical.byContradiction fun hC => hbad s l s' hs hC hs' hrest.start
    exact ⟨hC, ih (hgood s l s' hs hC hs') hrest⟩

end Lts
end Core
