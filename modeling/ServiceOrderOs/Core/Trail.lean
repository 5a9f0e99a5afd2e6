import Mathlib.Data.List.Basic
import Mathlib.Data.List.Nodup

/-!
# Trails along a chain

`chain` lists the stages something passes through, in order and without
repetition; a value of `Exit`, never on the chain, leaves it for good. A trail
is what has been recorded so far: a prefix of the chain, or a proper prefix
and then one exit.

* `Trail.eq_of_last`: the stage a trail stands at decides the whole trail.
* `Trail.advance`, `Trail.leave`: the two ways to make a trail longer.
* `Trail.filter_prefix`: without its exits a trail is a prefix of the chain.
-/
namespace Core

variable {α : Type}

inductive Trail (chain : List α) (Exit : α → Prop) : List α → Prop
  | on {p : List α} : p <+: chain → Trail chain Exit p
  | off {p : List α} {x : α} : p <+: chain → p ≠ chain → Exit x → Trail chain Exit (p ++ [x])

namespace Trail
variable {chain : List α} {Exit : α → Prop} {l : List α} {x : α}

theorem eq_append_of_getLast? {p : List α} (h : p.getLast? = some x) : ∃ q, p = q ++ [x] := by
  obtain ⟨q, hq⟩ := List.getLast?_eq_some_iff.mp h
  exact ⟨q, hq⟩

/-- A prefix of a chain without repetition is known from its last stage. -/
theorem prefix_eq_of_last (hn : chain.Nodup) {a b p : List α} (hc : chain = a ++ x :: b)
    (hp : p <+: chain) (hl : p.getLast? = some x) : p = a ++ [x] := by
  obtain ⟨q, rfl⟩ := eq_append_of_getLast? hl
  obtain ⟨r, hr⟩ := hp
  have hcq : q ++ x :: r = a ++ x :: b := by rw [← hc, ← hr]; simp
  have hna : x ∉ a := fun h => by
    rw [hc] at hn
    exact (List.nodup_append.mp hn).2.2 x h x List.mem_cons_self rfl
  have hnq : x ∉ q := fun h => by
    rw [← hr, List.append_assoc] at hn
    exact (List.nodup_append.mp hn).2.2 x h x List.mem_cons_self rfl
  have hnr : x ∉ r := fun h => by
    rw [← hr, List.append_assoc] at hn
    exact (List.nodup_cons.mp (List.nodup_append.mp hn).2.1).1 h
  rw [List.append_cons_inj_of_notMem hnq hnr] at hcq
  rw [hcq.1]

theorem on_of_last (h : Trail chain Exit l) (hl : l.getLast? = some x) (hx : ¬ Exit x) :
    l <+: chain := by
  cases h with
  | on hp => exact hp
  | off _ _ he =>
    rw [List.getLast?_concat, Option.some.injEq] at hl
    exact absurd (hl ▸ he) hx

theorem eq_of_last (hn : chain.Nodup) {a b : List α} (hc : chain = a ++ x :: b)
    (h : Trail chain Exit l) (hl : l.getLast? = some x) (hx : ¬ Exit x) : l = a ++ [x] :=
  prefix_eq_of_last hn hc (h.on_of_last hl hx) hl

/-- The stages that follow the last one on the chain may be recorded next. -/
theorem advance (hn : chain.Nodup) {a b ys : List α} (hc : chain = a ++ x :: (ys ++ b))
    (h : Trail chain Exit l) (hl : l.getLast? = some x) (hx : ¬ Exit x) :
    Trail chain Exit (l ++ ys) := by
  rw [eq_of_last hn hc h hl hx]
  exact .on ⟨b, by rw [hc]; simp⟩

/-- An exit may be recorded anywhere but at an exit or at the end of the chain. -/
theorem leave {y : α} (h : Trail chain Exit l) (hl : l.getLast? = some x) (hx : ¬ Exit x)
    (hend : chain.getLast? ≠ some x) (hy : Exit y) : Trail chain Exit (l ++ [y]) :=
  .off (h.on_of_last hl hx) (fun e => hend (e ▸ hl)) hy

theorem nodup (hn : chain.Nodup) (hd : ∀ y ∈ chain, ¬ Exit y) (h : Trail chain Exit l) :
    l.Nodup := by
  cases h with
  | on hp => exact hp.sublist.nodup hn
  | @off p x hp _ hx =>
    refine List.nodup_append.mpr ⟨hp.sublist.nodup hn, List.nodup_singleton x, ?_⟩
    intro y hy z hz hyz
    rw [List.mem_singleton.mp hz] at hyz
    exact hd y (hp.subset hy) (hyz ▸ hx)

/-- Without its exits a trail is a prefix of the chain. -/
theorem filter_prefix [DecidablePred Exit] (hd : ∀ y ∈ chain, ¬ Exit y) (h : Trail chain Exit l) :
    l.filter (fun y => ¬ Exit y) <+: chain := by
  have keep : ∀ {p : List α}, p <+: chain → p.filter (fun y => ¬ Exit y) = p := fun hp =>
    List.filter_eq_self.mpr fun y hy => by simpa using hd y (hp.subset hy)
  cases h with
  | on hp => rw [keep hp]; exact hp
  | off hp _ hx => rw [List.filter_append, keep hp]; simpa [hx] using hp

end Trail
end Core
