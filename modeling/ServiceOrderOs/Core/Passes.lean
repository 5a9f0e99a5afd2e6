import Mathlib.Data.List.Basic
import Mathlib.Data.List.Nodup
import Mathlib.Order.Defs.Unbundled

/-!
# Passes over a dictionary

A pass reads a dictionary and fails or returns the dictionary it leaves. What
a pass says about the keys it wrote stays true while later passes write other
keys: the rules below carry such facts to the end of a sequence of passes.

* `Ensures.comp`, `Ensures.check`, `Ensures.foldlM`: what holds after a
  sequence, a check and a loop over keys.
* `foldlM_settled`: a loop whose steps change nothing changes nothing.
-/
namespace Core

variable {κ ν ε ι : Type}

abbrev Store (κ ν : Type) := κ → Option ν

abbrev Pass (κ ν ε : Type) := Store κ ν → Except ε (Store κ ν)

namespace Pass

/-- From a dictionary with `I`, what `p` returns has `I` and `P`, is related to
the dictionary by `R`, and differs from it at the keys `W` only. -/
def Ensures (I : Store κ ν → Prop) (R : Store κ ν → Store κ ν → Prop) (p : Pass κ ν ε)
    (W : List κ) (P : Store κ ν → Prop) : Prop :=
  ∀ ⦃s s'⦄, I s → p s = .ok s' → I s' ∧ R s s' ∧ (∀ k ∉ W, s' k = s k) ∧ P s'

/-- `P` is about the keys `K`. -/
def Local (K : List κ) (P : Store κ ν → Prop) : Prop :=
  ∀ ⦃s s'⦄, (∀ k ∈ K, s' k = s k) → P s → P s'

variable {I P P' : Store κ ν → Prop} {R : Store κ ν → Store κ ν → Prop} {p q : Pass κ ν ε}
  {W W' K : List κ}

theorem local_at (k : κ) (G : Option ν → Prop) : Local [k] fun s : Store κ ν => G (s k) := by
  intro s s' h hP
  rw [h k (by simp)]
  exact hP

theorem local_forall (is : List ι) (key : ι → κ) (G : ι → Option ν → Prop) :
    Local (is.map key) fun s : Store κ ν => ∀ i ∈ is, G i (s (key i)) := by
  intro s s' h hP i hi
  rw [h (key i) (List.mem_map_of_mem hi)]
  exact hP i hi

theorem Ensures.mono (h : Ensures I R p W P) (hW : ∀ k ∈ W, k ∈ W') (hP : ∀ s, P s → P' s) :
    Ensures I R p W' P' := by
  intro s s' hI hs
  obtain ⟨hI', hR, hframe, hpost⟩ := h hI hs
  exact ⟨hI', hR, fun k hk => hframe k fun hk' => hk (hW k hk'), hP s' hpost⟩

theorem Ensures.comp [IsTrans _ R] (hp : Ensures I R p W P) (hP : Local K P)
    (hq : Ensures I R q W' P') (hd : ∀ k ∈ K, k ∉ W') :
    Ensures I R (fun s => p s >>= q) (W ++ W') fun s => P s ∧ P' s := by
  intro s s'' hI h
  beta_reduce at h
  cases hs : p s with
  | error e =>
    rw [hs] at h
    cases h
  | ok s' =>
    rw [hs] at h
    obtain ⟨hI', hR, hframe, hpost⟩ := hp hI hs
    obtain ⟨hI'', hR', hframe', hpost'⟩ := hq hI' h
    refine ⟨hI'', Trans.trans hR hR', ?_, hP (fun k hk => hframe' k (hd k hk)) hpost, hpost'⟩
    intro k hk
    rw [List.mem_append, not_or] at hk
    exact (hframe' k hk.2).trans (hframe k hk.1)

/-- A check that reads the keys `K`, then a pass that does not write them. -/
theorem Ensures.check {c : Store κ ν → Except ε Unit}
    (hc : Local K fun s => c s = .ok ()) (hq : Ensures I R q W' P') (hd : ∀ k ∈ K, k ∉ W') :
    Ensures I R (fun s => c s >>= fun _ => q s) W' fun s => c s = .ok () ∧ P' s := by
  intro s s' hI h
  beta_reduce at h
  cases hs : c s with
  | error e =>
    rw [hs] at h
    cases h
  | ok u =>
    rw [hs] at h
    obtain ⟨hI', hR, hframe, hpost⟩ := hq hI h
    exact ⟨hI', hR, hframe, hc (fun k hk => hframe k (hd k hk)) hs, hpost⟩

theorem Ensures.foldlM [IsPreorder _ R] (is : List ι)
    (step : Store κ ν → ι → Except ε (Store κ ν)) (key : ι → κ) {G : ι → Option ν → Prop}
    (h : ∀ i ∈ is, Ensures I R (fun s => step s i) [key i] fun s => G i (s (key i)))
    (hd : (is.map key).Nodup) :
    Ensures I R (fun s => is.foldlM step s) (is.map key) fun s => ∀ i ∈ is, G i (s (key i)) := by
  induction is with
  | nil =>
    intro s s' hI hs
    cases hs
    exact ⟨hI, refl s, fun _ _ => rfl, fun i hi => by cases hi⟩
  | cons i is ih =>
    rw [List.map_cons, List.nodup_cons] at hd
    have hrest := ih (fun j hj => h j (List.mem_cons_of_mem _ hj)) hd.2
    have hcomp := (h i (by simp)).comp (local_at (key i) (G i)) hrest (by simpa using hd.1)
    refine hcomp.mono (by simp) fun s hs j hj => ?_
    rcases List.mem_cons.mp hj with rfl | hj
    · exact hs.1
    · exact hs.2 j hj

theorem foldlM_settled {step : Store κ ν → ι → Except ε (Store κ ν)} {is : List ι}
    {s : Store κ ν} (h : ∀ i ∈ is, step s i = .ok s) : is.foldlM step s = .ok s := by
  induction is with
  | nil => rfl
  | cons i is ih =>
    rw [List.foldlM_cons, h i (by simp)]
    exact ih fun j hj => h j (List.mem_cons_of_mem _ hj)

end Pass
end Core
