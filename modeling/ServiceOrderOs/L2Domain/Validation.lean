import Mathlib.Algebra.BigOperators.Group.Finset.Basic
import Mathlib.Algebra.GroupWithZero.Nat
import Mathlib.Data.List.GetD
import ServiceOrderOs.L1Values.Decimal

/-!
# Documents and plates

A CPF has eleven digits and a CNPJ fourteen, of which the last two check the
rest. `re.sub` and `int` know the decimal digits of every script; the check
digits are compared as text, which `str` writes in ASCII.

* `official_check_digits`: on text in ASCII, the code's check is the official rule.
* `isValidCpfCnpj_digits`: what is accepted, on any text.
-/
namespace ServiceOrderOs.Domain
open Py

/-- mirrors src/domain/validation.py:6-7 -/
def normalizeDigits (value : String) : String := String.ofList (value.toList.filter isdecimal)

/-- `int(digit)` of a decimal digit -/
def digitValue (digit : Char) : Nat := (decimal digit).getD 0

/-- `"0" if mod < 2 else str(11 - mod)` -/
def checkDigit (total : Nat) : String :=
  let mod := total % 11
  if mod < 2 then "0" else toString (11 - mod)

/-- mirrors src/domain/validation.py:15-18 -/
def calcDigitCpf (base : List Char) (factor : Nat) : String :=
  checkDigit (base.zipIdx.map fun p => digitValue p.1 * (factor - p.2)).sum

/-- mirrors src/domain/validation.py:30-35 -/
def calcDigitCnpj (base : List Char) (weights : List Nat) : String :=
  checkDigit (List.zipWith (fun digit weight => digitValue digit * weight) base weights).sum

/-- mirrors src/domain/validation.py:10-22 -/
def isValidCpf (value : String) : Bool :=
  let cpf := (normalizeDigits value).toList
  if cpf.length ≠ 11 ∨ cpf = List.replicate 11 (cpf.headD '0') then false
  else
    let firstDigit := calcDigitCpf (cpf.take 9) 10
    let secondDigit := calcDigitCpf (cpf.take 10) 11
    String.ofList (cpf.drop (cpf.length - 2)) == firstDigit ++ secondDigit

/-- mirrors src/domain/validation.py:25-39 -/
def isValidCnpj (value : String) : Bool :=
  let cnpj := (normalizeDigits value).toList
  if cnpj.length ≠ 14 ∨ cnpj = List.replicate 14 (cnpj.headD '0') then false
  else
    let firstDigit := calcDigitCnpj (cnpj.take 12) [5, 4, 3, 2, 9, 8, 7, 6, 5, 4, 3, 2]
    let secondDigit := calcDigitCnpj (cnpj.take 13) [6, 5, 4, 3, 2, 9, 8, 7, 6, 5, 4, 3, 2]
    String.ofList (cnpj.drop (cnpj.length - 2)) == firstDigit ++ secondDigit

/-- mirrors src/domain/validation.py:42-48 -/
def isValidCpfCnpj (value : String) : Bool :=
  let digits := normalizeDigits value
  if digits.toList.length = 11 then isValidCpf digits
  else if digits.toList.length = 14 then isValidCnpj digits
  else false

/-- `[A-Za-z0-9]` -/
def isPlateChar (c : Char) : Bool := c.isUpper || c.isLower || c.isDigit

/-- `upper` meets letters of ASCII only.
mirrors src/domain/validation.py:51-52 -/
def normalizePlate (value : String) : String :=
  String.ofList ((value.toList.filter isPlateChar).map Char.toUpper)

/-- `re.fullmatch` of a sequence of character classes. -/
def fullmatch (classes : List (Char → Bool)) (cs : List Char) : Bool :=
  cs.length == classes.length && (List.zipWith (fun p c => p c) classes cs).all id

/-- mirrors src/domain/validation.py:55-60 -/
def isValidBrPlate (value : String) : Bool :=
  let plate := (normalizePlate value).toList
  let letter := Char.isUpper
  let digit := Char.isDigit
  fullmatch [letter, letter, letter, digit, digit, digit, digit] plate ||
    fullmatch [letter, letter, letter, digit, letter, digit, digit] plate

example : isValidCpfCnpj "529.982.247-25" = true ∧ isValidCpfCnpj "11.222.333/0001-81" = true ∧
    isValidCpfCnpj "111.111.111-11" = false ∧ isValidCpfCnpj "529.982.247-26" = false := by decide

/-! ## The official rule -/

/-- The rule for `n` digits and their two check digits, with the weights `w` of
the first and `w'` of the second. -/
structure Official (n : Nat) (w w' : Nat → Nat) (ds : List Nat) : Prop where
  length : ds.length = n + 2
  mixed : ¬ ∀ d ∈ ds, d = ds.getD 0 0
  first : 10 * (∑ i ∈ Finset.range n, ds.getD i 0 * w i) % 11 % 10 = ds.getD n 0
  second : 10 * (∑ i ∈ Finset.range (n + 1), ds.getD i 0 * w' i) % 11 % 10 = ds.getD (n + 1) 0

def OfficialCpf : List Nat → Prop := Official 9 (fun i => 10 - i) (fun i => 11 - i)

def OfficialCnpj : List Nat → Prop :=
  Official 12 (fun i => [5, 4, 3, 2, 9, 8, 7, 6, 5, 4, 3, 2].getD i 0)
    (fun i => [6, 5, 4, 3, 2, 9, 8, 7, 6, 5, 4, 3, 2].getD i 0)

/-! ## The two sums -/

theorem sum_zipIdx (f : Char → Nat) (factor : Nat) : ∀ (cs : List Char) (k : Nat),
    ((cs.zipIdx k).map fun p => f p.1 * (factor - p.2)).sum =
      ∑ i ∈ Finset.range cs.length, (cs.map f).getD i 0 * (factor - (k + i))
  | [], _ => by simp
  | c :: cs, k => by
    rw [List.length_cons, Finset.sum_range_succ', List.zipIdx_cons, List.map_cons, List.sum_cons,
      sum_zipIdx f factor cs (k + 1), Nat.add_comm]
    simp [Nat.add_assoc, Nat.add_comm 1]

theorem sum_zipWith (f : Char → Nat) : ∀ (cs : List Char) (weights : List Nat),
    (List.zipWith (fun digit weight => f digit * weight) cs weights).sum =
      ∑ i ∈ Finset.range cs.length, (cs.map f).getD i 0 * weights.getD i 0
  | [], _ => by simp
  | c :: cs, [] => by simp
  | c :: cs, weight :: weights => by
    rw [List.length_cons, Finset.sum_range_succ', List.zipWith_cons_cons, List.sum_cons,
      sum_zipWith f cs weights, Nat.add_comm]
    simp

/-- The complement of a remainder is ten times it, but for ten itself. -/
theorem complement_eq : ∀ r < 11, 10 * r % 11 % 10 = if r < 2 then 0 else 11 - r := by decide

theorem checkDigit_eq (total : Nat) :
    checkDigit total = String.ofList [Nat.digitChar (10 * total % 11 % 10)] := by
  have hr : 10 * total % 11 = 10 * (total % 11) % 11 := by rw [Nat.mul_mod_mod]
  rw [hr, complement_eq _ (Nat.mod_lt _ (by decide))]
  unfold checkDigit
  by_cases h : total % 11 < 2
  · rw [if_pos h, if_pos h]
    rfl
  · rw [if_neg h, if_neg h, Nat.toString_eq_ofList_toDigits, Nat.toDigits_of_lt_base (by omega)]

theorem calcDigitCpf_eq (base : List Char) (factor : Nat) : calcDigitCpf base factor =
    String.ofList [Nat.digitChar (10 * (∑ i ∈ Finset.range base.length,
      (base.map digitValue).getD i 0 * (factor - i)) % 11 % 10)] := by
  unfold calcDigitCpf
  rw [checkDigit_eq, sum_zipIdx]
  simp only [Nat.zero_add]

theorem calcDigitCnpj_eq (base : List Char) (weights : List Nat) : calcDigitCnpj base weights =
    String.ofList [Nat.digitChar (10 * (∑ i ∈ Finset.range base.length,
      (base.map digitValue).getD i 0 * weights.getD i 0) % 11 % 10)] := by
  unfold calcDigitCnpj
  rw [checkDigit_eq, sum_zipWith]

/-! ## What is accepted -/

/-- The digits `cs` are those of a valid document: not all the same character,
and the last two are the check digits, in ASCII. -/
structure Checked (n : Nat) (w w' : Nat → Nat) (cs : List Char) : Prop where
  length : cs.length = n + 2
  mixed : cs ≠ List.replicate (n + 2) (cs.headD '0')
  last : cs.drop n =
    [Nat.digitChar (10 * (∑ i ∈ Finset.range n, (cs.map digitValue).getD i 0 * w i) % 11 % 10),
     Nat.digitChar (10 * (∑ i ∈ Finset.range (n + 1), (cs.map digitValue).getD i 0 * w' i) % 11
       % 10)]

/-- Only the digits that are taken count. -/
theorem sum_take {cs : List Char} {m : Nat} (h : m ≤ cs.length) (w : Nat → Nat) :
    ∑ i ∈ Finset.range (cs.take m).length, ((cs.take m).map digitValue).getD i 0 * w i =
      ∑ i ∈ Finset.range m, (cs.map digitValue).getD i 0 * w i := by
  rw [List.length_take, Nat.min_eq_left h]
  refine Finset.sum_congr rfl fun i hi => ?_
  have hi := Finset.mem_range.mp hi
  simp only [List.getD_eq_getElem?_getD, List.getElem?_map, List.getElem?_take, if_pos hi]

/-- The shape both checks have, with the texts of the two check digits. -/
theorem checked_iff {n : Nat} {w w' : Nat → Nat} {cs : List Char} {first second : String}
    (h1 : n ≤ cs.length → first = String.ofList
      [Nat.digitChar (10 * (∑ i ∈ Finset.range n, (cs.map digitValue).getD i 0 * w i) % 11 % 10)])
    (h2 : n + 1 ≤ cs.length → second = String.ofList [Nat.digitChar
      (10 * (∑ i ∈ Finset.range (n + 1), (cs.map digitValue).getD i 0 * w' i) % 11 % 10)]) :
    (if cs.length ≠ n + 2 ∨ cs = List.replicate (n + 2) (cs.headD '0') then false
      else String.ofList (cs.drop (cs.length - 2)) == first ++ second) = true ↔
      Checked n w w' cs := by
  split
  · rename_i h
    refine ⟨fun hf => (by cases hf), fun hc => ?_⟩
    rcases h with h | h
    · exact absurd hc.length h
    · exact absurd h hc.mixed
  · rename_i h
    rw [not_or, not_not] at h
    obtain ⟨hlen, hmixed⟩ := h
    rw [h1 (by omega), h2 (by omega), beq_iff_eq, ← String.ofList_append, String.ofList_inj,
      show cs.length - 2 = n by omega]
    exact ⟨fun hl => ⟨hlen, hmixed, hl⟩, fun hc => hc.last⟩

theorem isValidCpf_iff (value : String) : isValidCpf value = true ↔
    Checked 9 (fun i => 10 - i) (fun i => 11 - i) (normalizeDigits value).toList :=
  checked_iff (fun h => by rw [calcDigitCpf_eq, sum_take h])
    fun h => by rw [calcDigitCpf_eq, sum_take h]

theorem isValidCnpj_iff (value : String) : isValidCnpj value = true ↔
    Checked 12 (fun i => [5, 4, 3, 2, 9, 8, 7, 6, 5, 4, 3, 2].getD i 0)
      (fun i => [6, 5, 4, 3, 2, 9, 8, 7, 6, 5, 4, 3, 2].getD i 0)
      (normalizeDigits value).toList :=
  checked_iff (fun h => by rw [calcDigitCnpj_eq, sum_take h])
    fun h => by rw [calcDigitCnpj_eq, sum_take h]

@[simp] theorem normalizeDigits_idem (value : String) :
    normalizeDigits (normalizeDigits value) = normalizeDigits value := by
  simp [normalizeDigits, List.filter_filter]

theorem isValidCpfCnpj_iff (value : String) : isValidCpfCnpj value = true ↔
    Checked 9 (fun i => 10 - i) (fun i => 11 - i) (normalizeDigits value).toList ∨
      Checked 12 (fun i => [5, 4, 3, 2, 9, 8, 7, 6, 5, 4, 3, 2].getD i 0)
        (fun i => [6, 5, 4, 3, 2, 9, 8, 7, 6, 5, 4, 3, 2].getD i 0)
        (normalizeDigits value).toList := by
  unfold isValidCpfCnpj
  simp only
  by_cases h11 : (normalizeDigits value).toList.length = 11
  · rw [if_pos h11, isValidCpf_iff, normalizeDigits_idem]
    exact ⟨.inl, fun h => h.resolve_right fun hc => by have := hc.length; omega⟩
  · rw [if_neg h11]
    by_cases h14 : (normalizeDigits value).toList.length = 14
    · rw [if_pos h14, isValidCnpj_iff, normalizeDigits_idem]
      exact ⟨.inr, fun h => h.resolve_left fun hc => h11 hc.length⟩
    · rw [if_neg h14]
      refine ⟨fun hf => (by cases hf), fun h => ?_⟩
      rcases h with h | h
      · exact absurd h.length h11
      · exact absurd h.length h14

/-- What is accepted is its digits. -/
theorem isValidCpfCnpj_normalize (value : String) :
    isValidCpfCnpj (normalizeDigits value) = isValidCpfCnpj value := by
  unfold isValidCpfCnpj
  rw [normalizeDigits_idem]

/-! ## On digits of ASCII -/

theorem digitValue_isDigit {c : Char} (h : c.isDigit) : digitValue c = c.toNat - 48 := by
  rw [digitValue, decimal_isDigit h]
  rfl

theorem digitChar_toNat : ∀ k < 10, (Nat.digitChar k).toNat = 48 + k := by decide

theorem eq_digitChar_iff {c : Char} {k : Nat} (hc : c.isDigit) (hk : k < 10) :
    c = Nat.digitChar k ↔ k = digitValue c := by
  have hr := (isDigit_iff c).mp hc
  have hd := digitChar_toNat k hk
  rw [digitValue_isDigit hc, ← Char.toNat_inj]
  omega

theorem allSame_iff {cs : List Char} (h : ∀ c ∈ cs, c.isDigit) :
    cs = List.replicate cs.length (cs.headD '0') ↔
      ∀ d ∈ cs.map digitValue, d = (cs.map digitValue).getD 0 0 := by
  cases cs with
  | nil => simp
  | cons c cs =>
    have hinj : ∀ b ∈ c :: cs, b = c ↔ digitValue b = digitValue c := by
      intro b hb
      refine ⟨fun he => by rw [he], fun he => decimal_injective (h b hb) (h c (by simp)) ?_⟩
      have hrb := (isDigit_iff b).mp (h b hb)
      have hrc := (isDigit_iff c).mp (h c (by simp))
      rw [digitValue_isDigit (h b hb), digitValue_isDigit (h c (by simp))] at he
      rw [decimal_isDigit (h b hb), decimal_isDigit (h c (by simp)), he]
    rw [List.eq_replicate_iff]
    simp only [List.headD_cons, true_and, List.map_cons, List.getD_cons_zero]
    constructor
    · intro hall d hd
      obtain ⟨b, hb, rfl⟩ := List.mem_map.mp (List.map_cons ▸ hd)
      exact (hinj b hb).mp (hall b hb)
    · intro hall b hb
      exact (hinj b hb).mpr (hall _ (List.map_cons ▸ List.mem_map_of_mem hb))

theorem checked_iff_official {n : Nat} {w w' : Nat → Nat} {cs : List Char}
    (h : ∀ c ∈ cs, c.isDigit) : Checked n w w' cs ↔ Official n w w' (cs.map digitValue) := by
  have hlast : ∀ {x y : Nat}, cs.length = n + 2 → x < 10 → y < 10 →
      (cs.drop n = [Nat.digitChar x, Nat.digitChar y] ↔
        x = (cs.map digitValue).getD n 0 ∧ y = (cs.map digitValue).getD (n + 1) 0) := by
    intro x y hlen hx hy
    have hn : n < cs.length := by omega
    have hn' : n + 1 < cs.length := by omega
    rw [List.drop_eq_getElem_cons hn, List.drop_eq_getElem_cons hn',
      List.drop_eq_nil_of_le (by omega : cs.length ≤ n + 1 + 1)]
    simp only [List.cons.injEq, and_true, eq_digitChar_iff (h _ (List.getElem_mem hn)) hx,
      eq_digitChar_iff (h _ (List.getElem_mem hn')) hy, List.getD_eq_getElem?_getD,
      List.getElem?_map, List.getElem?_eq_getElem hn, List.getElem?_eq_getElem hn', Option.map_some,
      Option.getD_some]
  have hlt : ∀ k, k % 10 < 10 := fun k => Nat.mod_lt k (by decide)
  constructor
  · intro hc
    obtain ⟨hfirst, hsecond⟩ := (hlast hc.length (hlt _) (hlt _)).mp hc.last
    refine ⟨by rw [List.length_map, hc.length], fun hall => hc.mixed ?_, hfirst, hsecond⟩
    rw [← hc.length]
    exact (allSame_iff h).mpr hall
  · intro ho
    have hlen : cs.length = n + 2 := by rw [← ho.length, List.length_map]
    refine ⟨hlen, fun hall => ho.mixed ?_, (hlast hlen (hlt _) (hlt _)).mpr ⟨ho.first, ho.second⟩⟩
    rw [← hlen] at hall
    exact (allSame_iff h).mp hall

/-- The digits before the check digits are all that counts. -/
theorem Official.unique {n : Nat} {w w' : Nat → Nat} {base s t : List Nat} (hb : base.length = n)
    (hs : Official n w w' (base ++ s)) (ht : Official n w w' (base ++ t)) : s = t := by
  have hlen : s.length = 2 := by have := hs.length; rw [List.length_append] at this; omega
  have hlen' : t.length = 2 := by have := ht.length; rw [List.length_append] at this; omega
  obtain ⟨a, b, rfl⟩ := List.length_eq_two.mp hlen
  obtain ⟨a', b', rfl⟩ := List.length_eq_two.mp hlen'
  have hpre : ∀ i < n, ∀ u : List Nat, (base ++ u).getD i 0 = base.getD i 0 := by
    intro i hi u
    rw [List.getD_append _ _ _ _ (by omega)]
  have hfirst : ∀ u : List Nat, ∑ i ∈ Finset.range n, (base ++ u).getD i 0 * w i =
      ∑ i ∈ Finset.range n, base.getD i 0 * w i := fun u =>
    Finset.sum_congr rfl fun i hi => by rw [hpre i (Finset.mem_range.mp hi)]
  have hat : ∀ x y : Nat, (base ++ [x, y]).getD n 0 = x := by
    intro x y
    rw [List.getD_append_right _ _ _ _ (by omega), hb, Nat.sub_self]
    rfl
  have hat' : ∀ x y : Nat, (base ++ [x, y]).getD (n + 1) 0 = y := by
    intro x y
    rw [List.getD_append_right _ _ _ _ (by omega), hb, Nat.add_sub_cancel_left]
    rfl
  have haa : a = a' := by
    have h1 := hs.first
    have h2 := ht.first
    rw [hfirst, hat] at h1 h2
    rw [← h1, ← h2]
  subst haa
  have hbb : b = b' := by
    have h1 := hs.second
    have h2 := ht.second
    rw [Finset.sum_range_succ, hat, hat',
      Finset.sum_congr rfl fun i hi => by rw [hpre i (Finset.mem_range.mp hi)]] at h1 h2
    rw [← h1, ← h2]
  rw [hbb]

/-- Text of ASCII only. -/
def Ascii (value : String) : Prop := ∀ c ∈ value.toList, c.toNat < 128

instance (value : String) : Decidable (Ascii value) := List.decidableBAll _ _

/-- The digits of a text in ASCII, everything else removed. -/
def digitsOf (value : String) : List Nat :=
  (value.toList.filter Char.isDigit).map fun c => c.toNat - 48

theorem normalizeDigits_ascii {value : String} (h : Ascii value) :
    (normalizeDigits value).toList = value.toList.filter Char.isDigit := by
  unfold normalizeDigits
  rw [String.toList_ofList]
  exact List.filter_congr fun c hc => isdecimal_ascii (Nat.lt_trans (h c hc) (by decide))

theorem isDigit_of_mem_filter {cs : List Char} : ∀ c ∈ cs.filter Char.isDigit, c.isDigit :=
  fun _ hc => (List.mem_filter.mp hc).2

theorem digitsOf_eq {value : String} (h : Ascii value) :
    digitsOf value = (normalizeDigits value).toList.map digitValue := by
  rw [normalizeDigits_ascii h, digitsOf]
  exact List.map_congr_left fun c hc => (digitValue_isDigit (isDigit_of_mem_filter c hc)).symm

theorem isValidCpfCnpj_official {value : String} (h : Ascii value) :
    isValidCpfCnpj value = true ↔
      OfficialCpf (digitsOf value) ∨ OfficialCnpj (digitsOf value) := by
  have hdig : ∀ c ∈ (normalizeDigits value).toList, c.isDigit := by
    rw [normalizeDigits_ascii h]
    exact isDigit_of_mem_filter
  rw [isValidCpfCnpj_iff, checked_iff_official hdig, checked_iff_official hdig, digitsOf_eq h]
  rfl

/-- **The check is the official rule.** On every text in ASCII; so the digits
before the check digits have at most one completion that is accepted. -/
theorem official_check_digits :
    (∀ value, Ascii value → (isValidCpfCnpj value = true ↔
      OfficialCpf (digitsOf value) ∨ OfficialCnpj (digitsOf value))) ∧
    ∀ base s t : List Nat, base.length = 9 ∨ base.length = 12 → s.length = 2 → t.length = 2 →
      ∀ v v', Ascii v → Ascii v' → digitsOf v = base ++ s → digitsOf v' = base ++ t →
        isValidCpfCnpj v = true → isValidCpfCnpj v' = true → s = t := by
  refine ⟨fun value h => isValidCpfCnpj_official h,
    fun base s t hb hs ht v v' hv hv' hd hd' hok hok' => ?_⟩
  rw [isValidCpfCnpj_official hv, hd] at hok
  rw [isValidCpfCnpj_official hv', hd'] at hok'
  have hlen : (base ++ s).length = base.length + 2 := by rw [List.length_append, hs]
  have hlen' : (base ++ t).length = base.length + 2 := by rw [List.length_append, ht]
  rcases hb with hb | hb
  · have h1 : OfficialCpf (base ++ s) := hok.resolve_right fun hc => by
      have := hc.length
      omega
    have h2 : OfficialCpf (base ++ t) := hok'.resolve_right fun hc => by
      have := hc.length
      omega
    exact Official.unique hb h1 h2
  · have h1 : OfficialCnpj (base ++ s) := hok.resolve_left fun hc => by
      have := hc.length
      omega
    have h2 : OfficialCnpj (base ++ t) := hok'.resolve_left fun hc => by
      have := hc.length
      omega
    exact Official.unique hb h1 h2

/-- A CPF as it is printed. -/
theorem official_check_digits_cpf : OfficialCpf (digitsOf "529.982.247-25") :=
  ((official_check_digits.1 "529.982.247-25" (by decide)).mp (by decide)).resolve_right
    fun h => absurd h.length (by decide)

/-! ## One form of a document -/

/-- Exactly eleven or fourteen digits of ASCII, not all the same. -/
structure Canonical (document : String) : Prop where
  length : document.toList.length = 11 ∨ document.toList.length = 14
  ascii : ∀ c ∈ document.toList, c.isDigit
  mixed : ¬ ∀ c ∈ document.toList, c = document.toList.headD '0'

/-- The values of the decimal digits of a text. -/
def decimalValues (value : String) : List Nat := value.toList.filterMap decimal

/-- Its decimal digits are those of ASCII. -/
def AsciiDigits (value : String) : Prop := ∀ c ∈ value.toList, isdecimal c → c.isDigit

instance (value : String) : Decidable (AsciiDigits value) := List.decidableBAll _ _

theorem Checked.canonical {n : Nat} {w w' : Nat → Nat} {value : String}
    (hn : n + 2 = 11 ∨ n + 2 = 14) (h : Checked n w w' (normalizeDigits value).toList)
    (ha : AsciiDigits value) : Canonical (normalizeDigits value) where
  length := by
    rw [h.length]
    exact hn
  ascii c hc := by
    rw [normalizeDigits, String.toList_ofList] at hc
    obtain ⟨hc, hd⟩ := List.mem_filter.mp hc
    exact ha c hc hd
  mixed hall := h.mixed (List.eq_replicate_iff.mpr ⟨h.length, hall⟩)

theorem canonical_iff {value : String} (h : isValidCpfCnpj value = true) :
    Canonical (normalizeDigits value) ↔ AsciiDigits value := by
  constructor
  · intro hc c hm hd
    refine hc.ascii c ?_
    rw [normalizeDigits, String.toList_ofList]
    exact List.mem_filter.mpr ⟨hm, hd⟩
  · intro ha
    rcases (isValidCpfCnpj_iff value).mp h with h | h
    · exact h.canonical (.inl rfl) ha
    · exact h.canonical (.inr rfl) ha

/-- The values say which digits of ASCII they are of. -/
theorem filter_eq_of_values : ∀ {cs ds : List Char}, (∀ c ∈ cs, c.isDigit) →
    (∀ d ∈ ds, d.isDigit) → cs.filterMap decimal = ds.filterMap decimal → cs = ds := by
  have hmap : ∀ {cs : List Char}, (∀ c ∈ cs, c.isDigit) →
      cs.filterMap decimal = cs.map fun c => c.toNat - 48 := by
    intro cs h
    induction cs with
    | nil => rfl
    | cons c cs ih =>
      rw [List.filterMap_cons_some (decimal_isDigit (h c (by simp))),
        ih fun c' hc' => h c' (by simp [hc'])]
      rfl
  intro cs
  induction cs with
  | nil =>
    intro ds _ hds he
    rw [hmap hds] at he
    exact (List.map_eq_nil_iff.mp he.symm).symm
  | cons c cs ih =>
    intro ds hcs hds he
    cases ds with
    | nil => rw [hmap hcs] at he; cases he
    | cons d ds =>
      have hc := decimal_isDigit (hcs c (by simp))
      have hd := decimal_isDigit (hds d (by simp))
      rw [List.filterMap_cons_some hc, List.filterMap_cons_some hd, List.cons.injEq] at he
      have hcd : c = d := decimal_injective (hcs c (by simp)) (hds d (by simp))
        (by rw [hc, hd, he.1])
      rw [hcd, ih (fun c' hc' => hcs c' (by simp [hc'])) (fun d' hd' => hds d' (by simp [hd']))
        he.2]

theorem decimalValues_normalize (value : String) :
    decimalValues (normalizeDigits value) = decimalValues value := by
  unfold decimalValues normalizeDigits
  rw [String.toList_ofList, List.filterMap_filter]
  refine List.filterMap_congr fun c _ => ?_
  unfold isdecimal
  cases decimal c <;> rfl

theorem normalizeDigits_inj {v w : String} (hv : Canonical (normalizeDigits v))
    (hw : Canonical (normalizeDigits w)) (h : decimalValues v = decimalValues w) :
    normalizeDigits v = normalizeDigits w := by
  rw [← decimalValues_normalize v, ← decimalValues_normalize w] at h
  exact String.toList_inj.mp (filter_eq_of_values hv.ascii hw.ascii h)

/-! ## Plates -/

theorem plateChar_upper {c : Char} (h : isPlateChar c = true) :
    isPlateChar c.toUpper = true ∧ c.toUpper.toUpper = c.toUpper := by
  have hall : ∀ n < 128, isPlateChar (Char.ofNat n) = true →
      isPlateChar (Char.ofNat n).toUpper = true ∧
        (Char.ofNat n).toUpper.toUpper = (Char.ofNat n).toUpper := by decide
  have hlt : c.toNat < 128 := by
    delta isPlateChar Char.isUpper Char.isLower at h
    simp only [Char.isDigit, Bool.or_eq_true, Bool.and_eq_true, decide_eq_true_eq,
      UInt32.le_iff_toNat_le] at h
    have hn : c.toNat = c.val.toNat := rfl
    rcases h with (⟨-, h⟩ | ⟨-, h⟩) | ⟨-, h⟩ <;> simp at h <;> omega
  have := hall c.toNat hlt
  rw [Char.ofNat_toNat] at this
  exact this h

@[simp] theorem normalizePlate_idem (value : String) :
    normalizePlate (normalizePlate value) = normalizePlate value := by
  have hkeep : ∀ {cs : List Char}, (∀ c ∈ cs, isPlateChar c = true) →
      ((cs.map Char.toUpper).filter isPlateChar).map Char.toUpper = cs.map Char.toUpper := by
    intro cs h
    rw [List.filter_eq_self.mpr, List.map_map]
    · exact List.map_congr_left fun c hc => (plateChar_upper (h c hc)).2
    · intro c hc
      obtain ⟨c', hc', rfl⟩ := List.mem_map.mp hc
      exact (plateChar_upper (h c' hc')).1
  unfold normalizePlate
  rw [String.toList_ofList, hkeep fun c hc => (List.mem_filter.mp hc).2]

theorem isValidBrPlate_normalize (value : String) :
    isValidBrPlate (normalizePlate value) = isValidBrPlate value := by
  unfold isValidBrPlate
  rw [normalizePlate_idem]

end ServiceOrderOs.Domain
