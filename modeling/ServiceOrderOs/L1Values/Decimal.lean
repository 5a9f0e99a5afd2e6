import Mathlib.Algebra.Group.Nat.Defs
import ServiceOrderOs.L1Values.Text

/-!
# Decimal digits

Python counts every character of the Unicode category Nd as a digit: `\d`
matches it and `int` reads it. The category is 68 runs of ten, from the zero up.

* `decimal_ascii`: below U+0660 only `0` to `9` are digits.
* `parseInt_toString`, `int_toString`: what `str` writes is read back.
-/
namespace ServiceOrderOs.Py

/-- The zeros of Unicode 15.0. -/
def decimalZeros : List Nat :=
  [0x30, 0x660, 0x6f0, 0x7c0, 0x966, 0x9e6, 0xa66, 0xae6, 0xb66, 0xbe6, 0xc66, 0xce6, 0xd66,
   0xde6, 0xe50, 0xed0, 0xf20, 0x1040, 0x1090, 0x17e0, 0x1810, 0x1946, 0x19d0, 0x1a80, 0x1a90,
   0x1b50, 0x1bb0, 0x1c40, 0x1c50, 0xa620, 0xa8d0, 0xa900, 0xa9d0, 0xa9f0, 0xaa50, 0xabf0,
   0xff10, 0x104a0, 0x10d30, 0x11066, 0x110f0, 0x11136, 0x111d0, 0x112f0, 0x11450, 0x114d0,
   0x11650, 0x116c0, 0x11730, 0x118e0, 0x11950, 0x11c50, 0x11d50, 0x11da0, 0x11f50, 0x16a60,
   0x16ac0, 0x16b50, 0x1d7ce, 0x1d7d8, 0x1d7e2, 0x1d7ec, 0x1d7f6, 0x1e140, 0x1e2f0, 0x1e4f0,
   0x1e950, 0x1fbf0]

/-- `unicodedata.decimal(c, None)`. -/
def decimal (c : Char) : Option Nat :=
  (decimalZeros.find? fun z => z ≤ c.toNat ∧ c.toNat < z + 10).map fun z => c.toNat - z

/-- `\d` on one character. -/
def isdecimal (c : Char) : Bool := (decimal c).isSome

theorem decimal_lt {c : Char} {d : Nat} (h : decimal c = some d) : d < 10 := by
  obtain ⟨z, hz, rfl⟩ := Option.map_eq_some_iff.mp h
  have hrun := List.find?_some hz
  simp only [decide_eq_true_eq] at hrun
  omega

/-- The zeros above that of ASCII. -/
theorem decimalZeros_tail : ∀ z ∈ decimalZeros.tail, 0x660 ≤ z := by decide

theorem isDigit_iff (c : Char) : c.isDigit = true ↔ 48 ≤ c.toNat ∧ c.toNat < 58 := by
  simp only [Char.isDigit, Bool.and_eq_true, decide_eq_true_eq, UInt32.le_iff_toNat_le]
  exact ⟨fun h => ⟨h.1, Nat.lt_succ_of_le h.2⟩, fun h => ⟨h.1, Nat.le_of_lt_succ h.2⟩⟩

theorem decimal_ascii {c : Char} (hc : c.toNat < 0x660) :
    decimal c = if c.isDigit then some (c.toNat - 48) else none := by
  have hcons : decimalZeros = 0x30 :: decimalZeros.tail := rfl
  have hrest : decimalZeros.tail.find? (fun z => z ≤ c.toNat ∧ c.toNat < z + 10) = none := by
    rw [List.find?_eq_none]
    intro z hz
    have := decimalZeros_tail z hz
    simp only [decide_eq_true_eq]
    omega
  unfold decimal
  rw [hcons, List.find?_cons]
  by_cases hd : c.isDigit
  · rw [if_pos hd]
    have := (isDigit_iff c).mp hd
    simp [this.1, this.2]
  · rw [if_neg hd]
    rw [isDigit_iff] at hd
    have hno : decide (0x30 ≤ c.toNat ∧ c.toNat < 0x30 + 10) = false := decide_eq_false hd
    rw [hno, hrest]
    rfl

theorem decimal_isDigit {c : Char} (hc : c.isDigit) : decimal c = some (c.toNat - 48) := by
  have hr := (isDigit_iff c).mp hc
  rw [decimal_ascii (by omega), if_pos hc]

theorem isdecimal_ascii {c : Char} (hc : c.toNat < 0x660) : isdecimal c = c.isDigit := by
  rw [isdecimal, decimal_ascii hc]
  cases c.isDigit <;> rfl

/-- A digit of ASCII is the one of its value. -/
theorem decimal_injective {c d : Char} (hc : c.isDigit) (hd : d.isDigit)
    (h : decimal c = decimal d) : c = d := by
  have hrc := (isDigit_iff c).mp hc
  have hrd := (isDigit_iff d).mp hd
  rw [decimal_isDigit hc, decimal_isDigit hd, Option.some.injEq] at h
  apply Char.toNat_inj.mp
  omega

/-! ## `parseInt` -/

theorem dropWhile_of_head {p : Char → Bool} {cs : List Char}
    (h : ∀ c, cs.head? = some c → p c = false) : cs.dropWhile p = cs := by
  cases cs with
  | nil => rfl
  | cons c cs => rw [List.dropWhile_cons, h c rfl]; rfl

/-- Nothing to strip. -/
theorem strip_eq {s : String} (hhead : ∀ c, s.toList.head? = some c → isspace c = false)
    (hlast : ∀ c, s.toList.getLast? = some c → isspace c = false) : strip s = s := by
  unfold strip
  rw [dropWhile_of_head hhead, dropWhile_of_head (by simpa using hlast), List.reverse_reverse,
    String.ofList_toList]

theorem digitsValue_digits {cs : List Char} (h : ∀ c ∈ cs, c.isDigit) (n : Nat) :
    digitsValue n cs = some (Nat.ofDigitChars 10 cs n) := by
  induction cs generalizing n with
  | nil => rfl
  | cons c cs ih =>
    have hc : c.isDigit := h c (by simp)
    have hne : c ≠ '_' := by
      intro he
      rw [he] at hc
      exact absurd hc (by decide)
    rw [digitsValue.eq_3 _ _ _ (by intro c' cs' he; exact fun _ => hne he), if_pos hc,
      ih fun c' hc' => h c' (by simp [hc'])]
    rfl

theorem isspace_digit {c : Char} (h : c.isDigit) : isspace c = false := by
  have := (isDigit_iff c).mp h
  simp only [isspace, Bool.or_eq_false_iff, decide_eq_false_iff_not, beq_eq_false_iff_ne]
  omega

/-- The digits after the sign, if any, are read back. -/
theorem parseInt_toString (n : Int) : parseInt (toString n) = some n := by
  have hdig : ∀ m : Nat, ∀ c ∈ Nat.toDigits 10 m, c.isDigit := fun m c hc =>
    Nat.isDigit_of_mem_toDigits (by decide) (by decide) hc
  have hlast : ∀ (m : Nat) c, (Nat.toDigits 10 m).getLast? = some c → isspace c = false :=
    fun m c hc => isspace_digit (hdig m c (List.mem_of_getLast? hc))
  cases n with
  | ofNat m =>
    have htext : (toString (Int.ofNat m)).toList = Nat.toDigits 10 m := Nat.toList_repr
    have hstrip : strip (toString (Int.ofNat m)) = toString (Int.ofNat m) := by
      refine strip_eq ?_ ?_ <;> rw [htext]
      · exact fun c hc => isspace_digit (hdig m c (List.mem_of_head? hc))
      · exact hlast m
    unfold parseInt
    rw [hstrip, htext]
    obtain ⟨c, cs, hcs⟩ := List.exists_cons_of_ne_nil (Nat.toDigits_ne_nil (n := m) (b := 10))
    have hc : c.isDigit := hdig m c (by rw [hcs]; simp)
    have hread : digitsValue 0 (c :: cs) = some m := by
      rw [← hcs, digitsValue_digits (hdig m), Nat.ofDigitChars_ten_toDigits]
    rw [hcs]
    split
    · rename_i h; cases h
    · rename_i h; cases h; exact absurd hc (by decide)
    · rename_i h; cases h; exact absurd hc (by decide)
    · rename_i h
      cases h
      rw [if_pos hc, hread]
      rfl
  | negSucc m =>
    have htext : (toString (Int.negSucc m)).toList = '-' :: Nat.toDigits 10 (m + 1) := by
      show ("-" ++ Nat.repr (m + 1)).toList = _
      rw [String.toList_append, Nat.toList_repr]
      rfl
    have hstrip : strip (toString (Int.negSucc m)) = toString (Int.negSucc m) := by
      refine strip_eq ?_ ?_ <;> rw [htext]
      · intro c hc
        cases hc
        decide
      · intro c hc
        rw [List.getLast?_cons_of_ne_nil Nat.toDigits_ne_nil] at hc
        exact hlast _ c hc
    obtain ⟨c, cs, hcs⟩ := List.exists_cons_of_ne_nil (Nat.toDigits_ne_nil (n := m + 1) (b := 10))
    have hc : c.isDigit := hdig (m + 1) c (by rw [hcs]; simp)
    have hread : digitsValue 0 (c :: cs) = some (m + 1) := by
      rw [← hcs, digitsValue_digits (hdig (m + 1)), Nat.ofDigitChars_ten_toDigits]
    unfold parseInt
    rw [hstrip, htext, hcs]
    simp only [hc, if_true, hread]
    rfl

/-! ## `int` -/

/-- What `int` skips around the number: white space but for the separators
U+001C to U+001F. -/
def intSpace (c : Char) : Bool := isspace c && !decide (0x1c ≤ c.toNat ∧ c.toNat ≤ 0x1f)

def intStrip (cs : List Char) : List Char :=
  ((cs.dropWhile intSpace).reverse.dropWhile intSpace).reverse

/-- The digits of a number, single underscores between them. -/
def readDigits : List Char → Option (List Nat)
  | [] => none
  | [c] => (decimal c).map fun d => [d]
  | c :: '_' :: cs => do return (← decimal c) :: (← readDigits cs)
  | c :: cs => do return (← decimal c) :: (← readDigits cs)

/-- `sys.get_int_max_str_digits()` -/
def maxStrDigits : Nat := 4300

def natOf (cs : List Char) : Option Nat := do
  let ds ← readDigits cs
  if maxStrDigits < ds.length then none else some (ds.foldl (fun n d => 10 * n + d) 0)

/-- `int(s)`; `none` is its `ValueError`. -/
def int (s : String) : Option Int :=
  match intStrip s.toList with
  | '-' :: cs => (natOf cs).map fun n => -(n : Int)
  | '+' :: cs => (natOf cs).map Int.ofNat
  | cs => (natOf cs).map Int.ofNat

example : ["587", " +1_0\n", "٥٨٧", "-3", "1__0", "", "+ 5", "5x"].map int =
    [some 587, some 10, some 587, some (-3), none, none, none, none] := by decide

theorem readDigits_ascii : ∀ {cs : List Char}, cs ≠ [] → (∀ c ∈ cs, c.isDigit) →
    readDigits cs = some (cs.map fun c => c.toNat - 48)
  | [], hne, _ => absurd rfl hne
  | [c], _, h => by simp [readDigits, decimal_isDigit (h c (by simp))]
  | c :: d :: cs, _, h => by
    have hd : d ≠ '_' := by
      intro he
      have hdig := h d (by simp)
      rw [he] at hdig
      exact absurd hdig (by decide)
    have hrest := readDigits_ascii (List.cons_ne_nil d cs) fun c' hc' => h c' (by simp_all)
    rw [readDigits.eq_4 _ _ (by simp) (by simp [hd]), hrest, decimal_isDigit (h c (by simp))]
    rfl

theorem readDigits_lt : ∀ {cs : List Char} {ds : List Nat}, readDigits cs = some ds →
    ∀ d ∈ ds, d < 10 := by
  intro cs
  induction cs using readDigits.induct with
  | case1 => intro ds h; cases h
  | case2 c =>
    intro ds h
    obtain ⟨d, hd, rfl⟩ := Option.map_eq_some_iff.mp h
    simp [decimal_lt hd]
  | case3 c cs ih =>
    intro ds h
    simp only [readDigits, Option.pure_def, Option.bind_eq_bind, Option.bind_eq_some_iff,
      Option.some.injEq] at h
    obtain ⟨d, hd, ds', hds, rfl⟩ := h
    simpa [decimal_lt hd] using ih hds
  | case4 c cs h1 h2 ih =>
    intro ds h
    rw [readDigits.eq_4 _ _ h1 h2] at h
    simp only [Option.pure_def, Option.bind_eq_bind, Option.bind_eq_some_iff,
      Option.some.injEq] at h
    obtain ⟨d, hd, ds', hds, rfl⟩ := h
    simpa [decimal_lt hd] using ih hds

/-- Some digits after the digits of `n`. -/
theorem foldl_digits_lt {ds : List Nat} (h : ∀ d ∈ ds, d < 10) (n : Nat) :
    ds.foldl (fun n d => 10 * n + d) n < (n + 1) * 10 ^ ds.length := by
  induction ds generalizing n with
  | nil => simp
  | cons d ds ih =>
    have hd := h d (by simp)
    have hrest := ih (fun d' hd' => h d' (by simp [hd'])) (10 * n + d)
    rw [List.foldl_cons, List.length_cons, Nat.pow_succ]
    refine Nat.lt_of_lt_of_le hrest ?_
    rw [Nat.mul_comm (10 ^ _) 10, ← Nat.mul_assoc]
    exact Nat.mul_le_mul_right _ (by omega)

/-- What is read can be written. -/
theorem natOf_lt {cs : List Char} {n : Nat} (h : natOf cs = some n) : n < 10 ^ maxStrDigits := by
  simp only [natOf, Option.bind_eq_bind, Option.bind_eq_some_iff] at h
  obtain ⟨ds, hds, h⟩ := h
  split at h
  · cases h
  · rename_i hlen
    cases h
    have hlt := foldl_digits_lt (readDigits_lt hds) 0
    rw [Nat.zero_add, Nat.one_mul] at hlt
    exact Nat.lt_of_lt_of_le hlt (Nat.pow_le_pow_right (by decide) (Nat.not_lt.mp hlen))

theorem natOf_toDigits {n : Nat} (h : n < 10 ^ maxStrDigits) :
    natOf (Nat.toDigits 10 n) = some n := by
  have hdig : ∀ c ∈ Nat.toDigits 10 n, c.isDigit := fun c hc =>
    Nat.isDigit_of_mem_toDigits (by decide) (by decide) hc
  have hlen : (Nat.toDigits 10 n).length ≤ maxStrDigits :=
    (Nat.length_toDigits_le_iff (by decide) (by decide)).mpr h
  have hval : ((Nat.toDigits 10 n).map fun c => c.toNat - 48).foldl (fun n d => 10 * n + d) 0 =
      n := by
    rw [List.foldl_map]
    exact Eq.trans (by rw [Nat.ofDigitChars_eq_foldl]; rfl) (Nat.ofDigitChars_ten_toDigits (n := n))
  simp only [natOf, readDigits_ascii Nat.toDigits_ne_nil hdig, Option.bind_eq_bind,
    Option.bind_some, List.length_map, Nat.not_lt.mpr hlen, if_false, hval]

theorem intSpace_digit {c : Char} (h : c.isDigit) : intSpace c = false := by
  have := (isDigit_iff c).mp h
  simp only [intSpace, isspace, Bool.and_eq_false_iff, Bool.or_eq_false_iff, decide_eq_false_iff_not,
    beq_eq_false_iff_ne]
  omega

theorem intStrip_digits {cs : List Char} (h : ∀ c ∈ cs, c.isDigit) : intStrip cs = cs := by
  have hkeep : ∀ {ds : List Char}, (∀ c ∈ ds, c.isDigit) → ds.dropWhile intSpace = ds := by
    intro ds hds
    cases ds with
    | nil => rfl
    | cons d ds => rw [List.dropWhile_cons, intSpace_digit (hds d (by simp))]; rfl
  unfold intStrip
  rw [hkeep h, hkeep (fun c hc => h c (List.mem_reverse.mp hc)), List.reverse_reverse]

/-- Digits with no sign. -/
theorem int_digits {cs : List Char} (h : ∀ c ∈ cs, c.isDigit) :
    int (String.ofList cs) = (natOf cs).map Int.ofNat := by
  unfold int
  rw [String.toList_ofList, intStrip_digits h]
  split
  · exact absurd (h '-' (by simp)) (by decide)
  · exact absurd (h '+' (by simp)) (by decide)
  · rfl

/-- `int(str(n)) == n` -/
theorem int_toString {n : Nat} (h : n < 10 ^ maxStrDigits) : int (toString n) = some (n : Int) := by
  rw [Nat.toString_eq_ofList_toDigits, int_digits fun c hc =>
    Nat.isDigit_of_mem_toDigits (by decide) (by decide) hc, natOf_toDigits h]
  rfl

end ServiceOrderOs.Py
