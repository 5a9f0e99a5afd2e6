import Mathlib.Data.List.Infix

/-!
# Replacing a pattern in a text

`replace p r s` puts `r` for every occurrence of `p` in `s`, found from the
left and not overlapping; `p` is not empty.

Two texts are apart when neither begins the other. When `q` is apart from `r`
wherever an occurrence of `q` could overlap one of `r`, putting `r` in makes no
new occurrence of `q`.

* `replace_of_free`, `replace_hit`, `replace_append`: what is replaced.
* `infix_replace`, `not_infix_replace`: what occurs in the result.
-/
namespace Core

variable {α : Type} [DecidableEq α]

/-- The text from its `n`-th character on. -/
def replaceFrom (p r : List α) : Nat → List α → List α
  | _, [] => []
  | n + 1, _ :: s => replaceFrom p r n s
  | 0, c :: s =>
    if p <+: c :: s then r ++ replaceFrom p r (p.length - 1) s else c :: replaceFrom p r 0 s

def replace (p r s : List α) : List α := replaceFrom p r 0 s

/-- The first occurrence only. -/
def replaceFirst (p r : List α) : List α → List α
  | [] => []
  | c :: s => if p <+: c :: s then r ++ s.drop (p.length - 1) else c :: replaceFirst p r s

def Apart (a b : List α) : Prop := ¬ a <+: b ∧ ¬ b <+: a

instance (a b : List α) : Decidable (Apart a b) := inferInstanceAs (Decidable (_ ∧ _))

/-- No occurrence of `q` overlaps one of `r`. -/
def NoOverlap (q r : List α) : Prop :=
  (∀ k < q.length, Apart (q.drop k) r) ∧ ∀ j < r.length, Apart q (r.drop j)

instance (q r : List α) : Decidable (NoOverlap q r) := inferInstanceAs (Decidable (_ ∧ _))

example : replace "ab".toList "b".toList "aabab".toList = "abb".toList := by decide

variable {p q r s : List α}

/-! ## Equations -/

theorem replaceFrom_drop (n : Nat) (s : List α) : replaceFrom p r n s = replace p r (s.drop n) := by
  induction n generalizing s with
  | zero => rfl
  | succ n ih =>
    cases s with
    | nil => rfl
    | cons c s => exact ih s

theorem replace_hit (hp : p ≠ []) (s : List α) : replace p r (p ++ s) = r ++ replace p r s := by
  obtain ⟨c, cs, rfl⟩ := List.exists_cons_of_ne_nil hp
  have hpre : c :: cs <+: c :: (cs ++ s) := List.prefix_append (c :: cs) s
  rw [replace, List.cons_append, replaceFrom, if_pos hpre, replaceFrom_drop]
  simp

theorem replaceFirst_hit (hp : p ≠ []) (s : List α) : replaceFirst p r (p ++ s) = r ++ s := by
  obtain ⟨c, cs, rfl⟩ := List.exists_cons_of_ne_nil hp
  have hpre : c :: cs <+: c :: (cs ++ s) := List.prefix_append (c :: cs) s
  rw [List.cons_append, replaceFirst, if_pos hpre]
  simp

theorem replace_cons {c : α} (h : ¬ p <+: c :: s) : replace p r (c :: s) = c :: replace p r s :=
  if_neg h

/-- The text is empty, begins with the pattern, or keeps its first character. -/
theorem replace_induct (hp : p ≠ []) {motive : List α → Prop} (nil : motive [])
    (hit : ∀ s, motive s → motive (p ++ s))
    (miss : ∀ c s, ¬ p <+: c :: s → motive s → motive (c :: s)) (s : List α) : motive s := by
  induction hn : s.length using Nat.strongRecOn generalizing s with
  | ind n ih =>
    cases s with
    | nil => exact nil
    | cons c s =>
      by_cases h : p <+: c :: s
      · obtain ⟨t, ht⟩ := h
        rw [← ht] at hn ⊢
        have hpos := List.length_pos_of_ne_nil hp
        rw [List.length_append] at hn
        exact hit t (ih t.length (by omega) t rfl)
      · rw [List.length_cons] at hn
        exact miss c s h (ih s.length (by omega) s rfl)

theorem replace_of_free (h : ¬ p <:+: s) : replace p r s = s := by
  induction s with
  | nil => rfl
  | cons c s ih =>
    rw [List.infix_cons_iff, not_or] at h
    rw [replace_cons h.1, ih h.2]

omit [DecidableEq α] in
theorem not_prefix_append {a : List α} (h : Apart p a) (s : List α) : ¬ p <+: a ++ s := by
  intro hp
  rcases List.prefix_or_prefix_of_prefix hp (List.prefix_append a s) with h' | h'
  · exact h.1 h'
  · exact h.2 h'

/-- A beginning that no occurrence of the pattern touches. -/
theorem replace_append {a : List α} (h : ∀ j < a.length, Apart p (a.drop j)) (s : List α) :
    replace p r (a ++ s) = a ++ replace p r s := by
  induction a with
  | nil => rfl
  | cons c a ih =>
    have hc : ¬ p <+: (c :: a) ++ s := not_prefix_append (h 0 (by simp)) s
    rw [List.cons_append] at hc
    rw [List.cons_append, List.cons_append, replace_cons hc,
      ih fun j hj => h (j + 1) (by simpa using hj)]

/-! ## What occurs afterwards -/

omit [DecidableEq α] in
theorem infix_append {a t : List α} (h : ∀ j < a.length, Apart q (a.drop j))
    (hq : q <:+: a ++ t) : q <:+: t := by
  induction a with
  | nil => exact hq
  | cons c a ih =>
    rw [List.cons_append, List.infix_cons_iff] at hq
    rcases hq with hq | hq
    · exact absurd hq (not_prefix_append (h 0 (by simp)) t)
    · exact ih (fun j hj => h (j + 1) (by simpa using hj)) hq

/-- What begins the result and is apart from `r` began the text. -/
theorem prefix_replace (hp : p ≠ []) (h : ∀ k < q.length, Apart (q.drop k) r) (s : List α) :
    ∀ k, q.drop k <+: replace p r s → q.drop k <+: s := by
  induction s using replace_induct hp with
  | nil => exact fun k hk => hk
  | hit s ih =>
    intro k hk
    rw [replace_hit hp] at hk
    by_cases hlen : k < q.length
    · exact absurd hk (not_prefix_append (h k hlen) _)
    · rw [List.drop_eq_nil_of_le (Nat.not_lt.mp hlen)]
      exact List.nil_prefix
  | miss c s hs ih =>
    intro k hk
    rw [replace_cons hs] at hk
    by_cases hlen : k < q.length
    · rw [List.drop_eq_getElem_cons hlen, List.cons_prefix_cons] at hk ⊢
      exact ⟨hk.1, ih (k + 1) hk.2⟩
    · rw [List.drop_eq_nil_of_le (Nat.not_lt.mp hlen)]
      exact List.nil_prefix

/-- An occurrence in the result was one in the text, where `p` did not begin. -/
theorem infix_replace (hp : p ≠ []) (hq : q ≠ []) (h : NoOverlap q r) {s : List α}
    (ho : q <:+: replace p r s) : ∃ a t, s = a ++ t ∧ q <+: t ∧ ¬ p <+: t := by
  induction s using replace_induct hp with
  | nil => exact absurd (List.infix_nil.mp ho) hq
  | hit s ih =>
    rw [replace_hit hp] at ho
    obtain ⟨a, t, rfl, hqt, hpt⟩ := ih (infix_append h.2 ho)
    exact ⟨p ++ a, t, by rw [List.append_assoc], hqt, hpt⟩
  | miss c s hs ih =>
    have hbegin := prefix_replace (q := q) (r := r) hp h.1 (c :: s) 0
    rw [replace_cons hs] at ho hbegin
    rcases List.infix_cons_iff.mp ho with ho | ho
    · exact ⟨[], c :: s, rfl, hbegin ho, hs⟩
    · obtain ⟨a, t, rfl, hqt, hpt⟩ := ih ho
      exact ⟨c :: a, t, rfl, hqt, hpt⟩

/-- Nothing is left of a pattern that its replacement does not overlap. -/
theorem not_infix_replace (hp : p ≠ []) (h : NoOverlap p r) (s : List α) :
    ¬ p <:+: replace p r s := by
  intro ho
  obtain ⟨a, t, -, hpt, hno⟩ := infix_replace hp hp h ho
  exact hno hpt

/-- No occurrence is made. -/
theorem infix_of_replace (hp : p ≠ []) (hq : q ≠ []) (h : NoOverlap q r) {s : List α}
    (ho : q <:+: replace p r s) : q <:+: s := by
  obtain ⟨a, t, rfl, hqt, -⟩ := infix_replace hp hq h ho
  exact hqt.isInfix.trans (List.suffix_append a t).isInfix

end Core
