import Mathlib.Data.List.TakeWhile
import ServiceOrderOs.L1Values.Decimal

/-!
# Lines of a text file

A text file is read with universal newlines and cut by `str.splitlines`, which
knows more line boundaries than `\n`: every one of them is white space.

* `splitlines_joinLines`: lines without a boundary, written one to a line, are
  read back.
* `strip_strip`, `mem_strip`, `head?_strip`: what `strip` leaves.
-/
namespace ServiceOrderOs.Py

/-- The line boundaries of `str.splitlines`. -/
def isLineBreak (c : Char) : Bool :=
  let n := c.toNat
  decide (0xa ≤ n ∧ n ≤ 0xd) || decide (0x1c ≤ n ∧ n ≤ 0x1e) || n == 0x85 || n == 0x2028 ||
    n == 0x2029

def linesOf : List Char → List (List Char)
  | [] => []
  | '\r' :: '\n' :: cs => [] :: linesOf cs
  | c :: cs =>
    if isLineBreak c then [] :: linesOf cs
    else match linesOf cs with
      | [] => [[c]]
      | l :: ls => (c :: l) :: ls

/-- `s.splitlines()`. -/
def splitlines (s : String) : List String := (linesOf s.toList).map String.ofList

/-- What text mode makes of the line ends `\r\n` and `\r`. -/
def universalNewlines : List Char → List Char
  | [] => []
  | '\r' :: '\n' :: cs => '\n' :: universalNewlines cs
  | c :: cs => (if c = '\r' then '\n' else c) :: universalNewlines cs

/-- `"\n".join(lines) + "\n"`. -/
def joinLines (lines : List String) : String := String.intercalate "\n" lines ++ "\n"

/-- `s.startswith(p)`. -/
def startswith (s p : String) : Bool := p.toList.isPrefixOf s.toList

/-- `s.split(c, 1)` of a text that has `c`. -/
def splitOnce (s : String) (c : Char) : String × String :=
  (String.ofList (s.toList.takeWhile (· ≠ c)), String.ofList (s.toList.dropWhile (· ≠ c)).tail)

example : splitlines "a=1\r\nb\n\nc" = ["a=1", "b", "", "c"] ∧
    splitOnce "a = b=c" '=' = ("a ", " b=c") := by decide

/-! ## `splitlines` -/

theorem linesOf_cons {c : Char} {cs : List Char} (hc : isLineBreak c = false) :
    linesOf (c :: cs) = match linesOf cs with
      | [] => [[c]]
      | l :: ls => (c :: l) :: ls := by
  rw [linesOf.eq_3]
  · rw [if_neg (by simp [hc])]
  · intro cs' hr
    subst hr
    exact absurd hc (by decide)

theorem linesOf_append {l : List Char} (hl : ∀ c ∈ l, isLineBreak c = false) (cs : List Char) :
    linesOf (l ++ '\n' :: cs) = l :: linesOf cs := by
  induction l with
  | nil => simp [linesOf, isLineBreak]
  | cons c l ih =>
    have hrest := ih fun c' hc' => hl c' (List.mem_cons_of_mem _ hc')
    rw [List.cons_append, linesOf_cons (hl c (by simp)), hrest]

theorem linesOf_flatMap {ls : List (List Char)}
    (hls : ∀ l ∈ ls, ∀ c ∈ l, isLineBreak c = false) : linesOf (ls.flatMap (· ++ ['\n'])) = ls := by
  induction ls with
  | nil => rfl
  | cons l ls ih =>
    have hrest := ih fun l' hl' => hls l' (List.mem_cons_of_mem _ hl')
    rw [List.flatMap_cons, List.append_assoc, List.singleton_append,
      linesOf_append (hls l (by simp)), hrest]

theorem linesOf_free (cs : List Char) : ∀ l ∈ linesOf cs, ∀ c ∈ l, isLineBreak c = false := by
  induction cs using linesOf.induct with
  | case1 => simp [linesOf]
  | case2 cs ih =>
    intro l hl
    rcases List.mem_cons.mp hl with rfl | hl
    · simp
    · exact ih l hl
  | case3 c cs hcr hc ih =>
    rw [linesOf.eq_3 _ _ hcr, if_pos hc]
    intro l hl
    rcases List.mem_cons.mp hl with rfl | hl
    · simp
    · exact ih l hl
  | case4 c cs hcr hc hnil ih =>
    rw [linesOf.eq_3 _ _ hcr, if_neg hc, hnil]
    intro l hl d hd
    rw [List.mem_singleton.mp hl, List.mem_singleton] at hd
    rw [hd]
    exact Bool.eq_false_iff.mpr hc
  | case5 c cs hcr hc l' ls' hcons ih =>
    rw [linesOf.eq_3 _ _ hcr, if_neg hc, hcons]
    intro l hl d hd
    rw [hcons] at ih
    rcases List.mem_cons.mp hl with rfl | hl
    · rcases List.mem_cons.mp hd with rfl | hd
      · exact Bool.eq_false_iff.mpr hc
      · exact ih l' (by simp) d hd
    · exact ih l (List.mem_cons_of_mem _ hl) d hd

/-- A text without line boundaries. -/
def OneLine (s : String) : Prop := ∀ c ∈ s.toList, isLineBreak c = false

theorem splitlines_oneLine {s l : String} (h : l ∈ splitlines s) : OneLine l := by
  obtain ⟨cs, hcs, rfl⟩ := List.mem_map.mp h
  intro c hc
  rw [String.toList_ofList] at hc
  exact linesOf_free s.toList cs hcs c hc

theorem toList_joinLines {lines : List String} (hne : lines ≠ []) :
    (joinLines lines).toList = (lines.map String.toList).flatMap (· ++ ['\n']) := by
  have hstep : ∀ ls : List String, ls ≠ [] →
      (String.intercalate "\n" ls).toList ++ ['\n'] =
        (ls.map String.toList).flatMap (· ++ ['\n']) := by
    intro ls
    induction ls with
    | nil => exact fun h => absurd rfl h
    | cons l ls ih =>
      intro _
      cases ls with
      | nil => simp
      | cons l' ls =>
        rw [String.intercalate_cons_cons, List.map_cons, List.flatMap_cons, ← ih (by simp)]
        simp [String.toList_append]
  rw [joinLines, String.toList_append]
  exact hstep lines hne

theorem splitlines_joinLines {lines : List String} (hne : lines ≠ [])
    (h : ∀ l ∈ lines, OneLine l) : splitlines (joinLines lines) = lines := by
  rw [splitlines, toList_joinLines hne, linesOf_flatMap, List.map_map]
  · simp [Function.comp_def]
  · intro l hl
    obtain ⟨s, hs, rfl⟩ := List.mem_map.mp hl
    exact h s hs

theorem universalNewlines_eq {cs : List Char} (h : '\r' ∉ cs) : universalNewlines cs = cs := by
  induction cs using universalNewlines.induct with
  | case1 => rfl
  | case2 cs _ => exact absurd (by simp) h
  | case3 c cs hcr ih =>
    have hne : c ≠ '\r' := fun hc => h (by simp [hc])
    rw [universalNewlines.eq_3 _ _ hcr, if_neg hne, ih fun hm => h (List.mem_cons_of_mem _ hm)]

theorem universalNewlines_joinLines {lines : List String} (hne : lines ≠ [])
    (h : ∀ l ∈ lines, OneLine l) :
    universalNewlines (joinLines lines).toList = (joinLines lines).toList := by
  apply universalNewlines_eq
  rw [toList_joinLines hne]
  intro hr
  obtain ⟨l, hl, hr⟩ := List.mem_flatMap.mp hr
  obtain ⟨s, hs, rfl⟩ := List.mem_map.mp hl
  rw [List.mem_append, List.mem_singleton] at hr
  rcases hr with hr | hr
  · exact absurd (h s hs '\r' hr) (by decide)
  · exact absurd hr (by decide)

/-! ## `strip` -/

theorem isspace_of_isLineBreak {c : Char} (h : isLineBreak c = true) : isspace c = true := by
  simp only [isLineBreak, isspace, Bool.or_eq_true, decide_eq_true_eq, beq_iff_eq] at h ⊢
  omega

theorem head?_dropWhile {p : Char → Bool} {s : List Char} {c : Char}
    (h : (s.dropWhile p).head? = some c) : p c = false := by
  have := List.head?_dropWhile_not p s
  rw [h] at this
  simpa using this

theorem mem_strip {s : String} {c : Char} (h : c ∈ (strip s).toList) : c ∈ s.toList := by
  rw [strip, String.toList_ofList, List.mem_reverse] at h
  have h' := (List.dropWhile_suffix isspace).subset h
  rw [List.mem_reverse] at h'
  exact (List.dropWhile_suffix isspace).subset h'

theorem head?_strip (s : String) :
    (strip s).toList.head? = (s.toList.dropWhile isspace).head? := by
  rw [strip, String.toList_ofList]
  cases hd : s.toList.dropWhile isspace with
  | nil => rfl
  | cons c cs =>
    have hc : isspace c = false :=
      head?_dropWhile (p := isspace) (s := s.toList) (by rw [hd]; rfl)
    have hmem : (c :: cs).reverse.dropWhile isspace ≠ [] := by
      intro hnil
      have := List.dropWhile_eq_nil_iff.mp hnil c (by simp)
      rw [hc] at this
      cases this
    rw [List.head?_reverse, List.head?_cons]
    obtain ⟨pre, hpre⟩ := List.dropWhile_suffix (l := (c :: cs).reverse) isspace
    have hlast : ((c :: cs).reverse).getLast? = some c := by simp
    rw [← hpre, List.getLast?_append] at hlast
    cases hl : ((c :: cs).reverse.dropWhile isspace).getLast? with
    | none => exact absurd (List.getLast?_eq_none_iff.mp hl) hmem
    | some d =>
      rw [hl] at hlast
      exact hlast

theorem getLast?_strip {s : String} {c : Char} (h : (strip s).toList.getLast? = some c) :
    isspace c = false := by
  rw [strip, String.toList_ofList, List.getLast?_reverse] at h
  exact head?_dropWhile h

theorem strip_strip (s : String) : strip (strip s) = strip s := by
  refine strip_eq ?_ fun c hc => getLast?_strip hc
  intro c hc
  rw [head?_strip] at hc
  exact head?_dropWhile hc

end ServiceOrderOs.Py
