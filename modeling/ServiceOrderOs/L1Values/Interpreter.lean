import Mathlib.Data.List.Basic
import Mathlib.Data.List.Induction
import ServiceOrderOs.L1Values.JsonText
import ServiceOrderOs.L1Values.Value

/-!
# What the scripts ask of the interpreter

`str.lower` and `str.upper` are the ASCII ones on ASCII and ask Unicode tables
elsewhere; `json.loads` is any reader. `Lawful` is what the scripts rely on:
the two case maps are idempotent, `upper` neither makes nor loses white space,
and `loads` inverts `dumps` on lists of strings.

* `writable_upper`: a value on one line, stripped, stays so in upper case.
* `utc_lawful`: an interpreter of that kind.
-/
namespace ServiceOrderOs.Py

/-- What `json.loads` raises. -/
inductive JsonError where
  | jsonDecodeError
  | other (error message : String)
  deriving DecidableEq, Repr

class Interpreter (T : Type) extends Runtime T where
  /-- `str.lower` on a text that is not all ASCII. -/
  lower : String → String
  /-- `str.upper` on a character outside ASCII. -/
  upper : Char → List Char
  /-- The `ValueError` of `urlsplit` on a network location that has a bracketed
  host or characters outside ASCII. -/
  netlocError : String → Option String
  loads : String → Except JsonError Json

variable (T : Type) [Interpreter T]

/-- `str.isascii` on one character. -/
def isascii (c : Char) : Bool := decide (c.toNat < 0x80)

/-- `s.lower()`. -/
def lower (s : String) : String :=
  if s.toList.all isascii then lowerAscii s else Interpreter.lower T s

def upperChar (c : Char) : List Char := if isascii c then [c.toUpper] else Interpreter.upper T c

/-- `s.upper()`. -/
def upper (s : String) : String := String.ofList (s.toList.flatMap (upperChar T))

/-- `json.loads(s)`. -/
def loads (s : String) : Except JsonError Json := Interpreter.loads T s

/-- `json.loads` reads a list of strings that `json.dumps` wrote. -/
def LoadsDumps : Prop := ∀ items, loads T (dumps items) = .ok (.arr (items.map .str))

structure Lawful : Prop where
  lower_lower : ∀ s, lower T (lower T s) = lower T s
  upper_upper : ∀ s, upper T (upper T s) = upper T s
  upper_space : ∀ c, isspace c = true → Interpreter.upper T c = [c]
  upper_word : ∀ c, isspace c = false →
    Interpreter.upper T c ≠ [] ∧ ∀ d ∈ Interpreter.upper T c, isspace d = false
  loads_dumps : ∀ items, loads T (dumps items) = .ok (.arr (items.map .str))

theorem lower_ascii {s : String} (h : s.toList.all isascii = true) : lower T s = lowerAscii s :=
  if_pos h

theorem upper_ascii {s : String} (h : s.toList.all isascii = true) :
    upper T s = String.ofList (s.toList.map Char.toUpper) := by
  have hchars : ∀ cs : List Char, cs.all isascii = true →
      cs.flatMap (upperChar T) = cs.map Char.toUpper := by
    intro cs
    induction cs with
    | nil => exact fun _ => rfl
    | cons c cs ih =>
      intro hall
      rw [List.all_cons, Bool.and_eq_true] at hall
      rw [List.flatMap_cons, List.map_cons, ih hall.2, upperChar, if_pos hall.1]
      rfl
  rw [upper, hchars _ h]

variable {T}

/-! ## `upper` and white space -/

theorem isspace_toUpper : ∀ n < 0x80,
    (isspace (Char.ofNat n) = true → (Char.ofNat n).toUpper = Char.ofNat n) ∧
      (isspace (Char.ofNat n) = false → isspace (Char.ofNat n).toUpper = false) := by decide

theorem upperChar_space (hT : Lawful T) {c : Char} (h : isspace c = true) :
    upperChar T c = [c] := by
  unfold upperChar
  split
  · rename_i ha
    have := (isspace_toUpper c.toNat (by simpa [isascii] using ha)).1
    rw [Char.ofNat_toNat] at this
    rw [this h]
  · exact hT.upper_space c h

theorem upperChar_word (hT : Lawful T) {c : Char} (h : isspace c = false) :
    upperChar T c ≠ [] ∧ ∀ d ∈ upperChar T c, isspace d = false := by
  unfold upperChar
  split
  · rename_i ha
    have := (isspace_toUpper c.toNat (by simpa [isascii] using ha)).2
    rw [Char.ofNat_toNat] at this
    refine ⟨List.cons_ne_nil _ _, fun d hd => ?_⟩
    rw [List.mem_singleton.mp hd]
    exact this h
  · exact hT.upper_word c h

theorem upper_oneLine (hT : Lawful T) {s : String} (h : OneLine s) : OneLine (upper T s) := by
  intro d hd
  rw [upper, String.toList_ofList] at hd
  obtain ⟨c, hc, hd⟩ := List.mem_flatMap.mp hd
  cases hs : isspace c with
  | true =>
    rw [upperChar_space hT hs, List.mem_singleton] at hd
    rw [hd]
    exact h c hc
  | false =>
    have hword := (upperChar_word hT hs).2 d hd
    by_contra hbreak
    rw [Bool.not_eq_false] at hbreak
    rw [isspace_of_isLineBreak hbreak] at hword
    cases hword

theorem head?_upper (hT : Lawful T) {cs : List Char}
    (h : ∀ c, cs.head? = some c → isspace c = false) :
    ∀ c, (cs.flatMap (upperChar T)).head? = some c → isspace c = false := by
  intro d hd
  cases cs with
  | nil => cases hd
  | cons c cs =>
    obtain ⟨hne, hword⟩ := upperChar_word hT (h c rfl)
    obtain ⟨e, es, he⟩ := List.exists_cons_of_ne_nil hne
    rw [List.flatMap_cons, he] at hd
    cases hd
    exact hword d (by rw [he]; exact List.mem_cons_self)

theorem getLast?_upper (hT : Lawful T) {cs : List Char}
    (h : ∀ c, cs.getLast? = some c → isspace c = false) :
    ∀ c, (cs.flatMap (upperChar T)).getLast? = some c → isspace c = false := by
  intro d hd
  cases cs using List.reverseRecOn with
  | nil => cases hd
  | append_singleton cs c =>
    obtain ⟨hne, hword⟩ := upperChar_word hT (h c (by simp))
    rw [List.flatMap_append, List.flatMap_singleton, List.getLast?_append_of_ne_nil _ hne] at hd
    exact hword d (List.mem_of_getLast? hd)

theorem strip_head {s : String} (h : strip s = s) :
    ∀ c, s.toList.head? = some c → isspace c = false := by
  intro c hc
  rw [← h, head?_strip] at hc
  exact head?_dropWhile hc

theorem strip_getLast {s : String} (h : strip s = s) :
    ∀ c, s.toList.getLast? = some c → isspace c = false := by
  intro c hc
  rw [← h] at hc
  exact getLast?_strip hc

theorem strip_upper (hT : Lawful T) {s : String} (h : strip s = s) :
    strip (upper T s) = upper T s := by
  apply strip_eq
  · rw [upper, String.toList_ofList]
    exact head?_upper hT (strip_head h)
  · rw [upper, String.toList_ofList]
    exact getLast?_upper hT (strip_getLast h)

theorem upper_ne_empty (hT : Lawful T) {s : String} (h : strip s = s) (hne : s ≠ "") :
    upper T s ≠ "" := by
  intro he
  rw [upper, ← String.toList_inj, String.toList_ofList] at he
  cases hs : s.toList with
  | nil => exact hne (String.toList_inj.mp hs)
  | cons c cs =>
    rw [hs, List.flatMap_cons] at he
    exact (upperChar_word hT (strip_head h c (by rw [hs]; rfl))).1 (List.append_eq_nil_iff.mp he).1

/-! ## An interpreter -/

instance : Interpreter Utc where
  lower := id
  upper c := [c]
  netlocError _ := none
  loads s := match readStrings s with
    | some items => .ok (.arr (items.map .str))
    | none => .error .jsonDecodeError

theorem utc_lawful : Lawful Utc where
  lower_lower s := by
    by_cases h : s.toList.all isascii = true
    · have hlow : ∀ n < 0x80, isascii (Char.ofNat n).toLower = true ∧
          (Char.ofNat n).toLower.toLower = (Char.ofNat n).toLower := by decide
      have hchar : ∀ c ∈ s.toList, isascii c.toLower = true ∧ c.toLower.toLower = c.toLower := by
        intro c hc
        have := hlow c.toNat (by simpa [isascii] using List.all_eq_true.mp h c hc)
        rwa [Char.ofNat_toNat] at this
      have hall : (lowerAscii s).toList.all isascii = true := by
        rw [lowerAscii, String.toList_ofList, List.all_map, List.all_eq_true]
        exact fun c hc => (hchar c hc).1
      rw [lower_ascii Utc h, lower_ascii Utc hall]
      unfold lowerAscii
      rw [String.toList_ofList, List.map_map]
      exact congrArg _ (List.map_congr_left fun c hc => (hchar c hc).2)
    · have hid : lower Utc s = s := if_neg h
      rw [hid, hid]
  upper_upper s := by
    have hup : ∀ n < 0x80, isascii (Char.ofNat n).toUpper = true ∧
        (Char.ofNat n).toUpper.toUpper = (Char.ofNat n).toUpper := by decide
    unfold upper
    rw [String.toList_ofList, List.flatMap_assoc]
    refine congrArg (fun f => String.ofList (s.toList.flatMap f)) (funext fun c => ?_)
    unfold upperChar
    split
    · rename_i hc
      have := hup c.toNat (by simpa [isascii] using hc)
      rw [Char.ofNat_toNat] at this
      rw [List.flatMap_singleton, if_pos this.1, this.2]
    · rename_i hc
      show [c].flatMap _ = [c]
      rw [List.flatMap_singleton, if_neg hc]
      rfl
  upper_space c _ := rfl
  upper_word c h := ⟨List.cons_ne_nil _ _, fun d hd => by rw [List.mem_singleton.mp hd]; exact h⟩
  loads_dumps items := by
    show (match readStrings (dumps items) with
      | some items => .ok (.arr (items.map .str))
      | none => .error .jsonDecodeError : Except JsonError Json) = _
    rw [readStrings_dumps]

end ServiceOrderOs.Py
