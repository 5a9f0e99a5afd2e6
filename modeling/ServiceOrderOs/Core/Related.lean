import Mathlib.Data.List.Basic

/-!
# Programs that cannot be told apart

Two programs over different states that may raise. Started in related states
they are `Alike` when both return the same value or raise the same error, in
related states again.

* `Alike.bind`, `Alike.branch`: the rules for composed programs.
-/
namespace Core

variable {ε σ τ α β : Type} {R : σ → τ → Prop}

/-- The same value or error, in related states. -/
inductive Related (R : σ → τ → Prop) : EStateM.Result ε σ α → EStateM.Result ε τ α → Prop
  | ok (a : α) {s : σ} {t : τ} (h : R s t) : Related R (.ok a s) (.ok a t)
  | error (e : ε) {s : σ} {t : τ} (h : R s t) : Related R (.error e s) (.error e t)

def Alike (R : σ → τ → Prop) (m : EStateM ε σ α) (n : EStateM ε τ α) : Prop :=
  ∀ s t, R s t → Related R (m.run s) (n.run t)

theorem Alike.pure (a : α) : Alike R (pure a : EStateM ε σ α) (pure a : EStateM ε τ α) :=
  fun _ _ h => .ok a h

theorem Alike.throw (e : ε) : Alike R (throw e : EStateM ε σ α) (throw e : EStateM ε τ α) :=
  fun _ _ h => .error e h

theorem Alike.bind {m : EStateM ε σ α} {n : EStateM ε τ α} {f : α → EStateM ε σ β}
    {g : α → EStateM ε τ β} (hm : Alike R m n) (hf : ∀ a, Alike R (f a) (g a)) :
    Alike R (m >>= f) (n >>= g) := by
  intro s t h
  rw [EStateM.run_bind, EStateM.run_bind]
  have hr := hm s t h
  generalize m.run s = x at hr
  generalize n.run t = y at hr
  cases hr with
  | ok a h' => exact hf a _ _ h'
  | error e h' => exact .error e h'

theorem Alike.branch {c : Prop} [Decidable c] {m m' : EStateM ε σ α} {n n' : EStateM ε τ α}
    (h : c → Alike R m n) (h' : ¬ c → Alike R m' n') :
    Alike R (if c then m else m') (if c then n else n') := by
  by_cases hc : c
  · rw [if_pos hc, if_pos hc]; exact h hc
  · rw [if_neg hc, if_neg hc]; exact h' hc

end Core
