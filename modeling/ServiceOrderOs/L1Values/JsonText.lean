import ServiceOrderOs.L1Values.Lines

/-!
# Arrays of strings as JSON text

`json.dumps(items, separators=(",", ":"))` on a list of strings: the default
`ensure_ascii` writes every character outside printable ASCII as the escapes
of its UTF-16 units, so the text is one line of ASCII.

* `dumps_printable`: the characters of the text.
* `readStrings_dumps`: a reader of such arrays finds the strings again.
-/
namespace ServiceOrderOs.Py

/-- The UTF-16 units of a character. -/
def utf16 (c : Char) : List Nat :=
  if c.toNat < 0x10000 then [c.toNat]
  else [0xd800 + (c.toNat - 0x10000) / 0x400, 0xdc00 + (c.toNat - 0x10000) % 0x400]

/-- `'{0:04x}'.format(n)` of a unit. -/
def hex4 (n : Nat) : List Char :=
  [n / 0x1000 % 16, n / 0x100 % 16, n / 0x10 % 16, n % 16].map Nat.digitChar

/-- The escapes of one letter, `ESCAPE_DCT`. -/
def letterEscapes : List (Nat × Char) :=
  [(0x5c, '\\'), (0x22, '\"'), (0x8, 'b'), (0xc, 'f'), (0xa, 'n'), (0xd, 'r'), (0x9, 't')]

def unitText (n : Nat) : List Char :=
  match letterEscapes.lookup n with
  | some e => ['\\', e]
  | none => if 0x20 ≤ n ∧ n ≤ 0x7e then [Char.ofNat n] else '\\' :: 'u' :: hex4 n

/-- A string's literal up to and with its closing quote. -/
def literalTail (s : String) : List Char := (s.toList.flatMap utf16).flatMap unitText ++ ['\"']

def literal (s : String) : List Char := '\"' :: literalTail s

/-- `json.dumps(items, separators=(",", ":"))`. -/
def dumps (items : List String) : String :=
  String.ofList ('[' :: [','].intercalate (items.map literal) ++ [']'])

example : dumps ["a\"\n", "é", "😀"] = "[\"a\\\"\\n\",\"\\u00e9\",\"\\ud83d\\ude00\"]" := by decide

/-! ## The text is printable -/

/-- Printable ASCII. -/
def Printable (c : Char) : Prop := 0x20 ≤ c.toNat ∧ c.toNat ≤ 0x7e

instance (c : Char) : Decidable (Printable c) := inferInstanceAs (Decidable (_ ∧ _))

theorem toNat_ofNat_ascii : ∀ n < 0x80, (Char.ofNat n).toNat = n := by decide

theorem digitChar_printable : ∀ n < 16, Printable (Nat.digitChar n) := by decide

theorem letterEscapes_printable : ∀ p ∈ letterEscapes, Printable p.2 := by decide

theorem lookup_mem {n : Nat} {e : Char} {l : List (Nat × Char)} (h : l.lookup n = some e) :
    (n, e) ∈ l := by
  induction l with
  | nil => cases h
  | cons p l ih =>
    rw [List.lookup_cons] at h
    by_cases hn : n = p.1
    · rw [beq_iff_eq.mpr hn] at h
      cases h
      rw [hn]
      exact List.mem_cons_self
    · rw [beq_false_of_ne hn] at h
      exact List.mem_cons_of_mem _ (ih h)

theorem unitText_printable (n : Nat) : ∀ c ∈ unitText n, Printable c := by
  intro c hc
  unfold unitText at hc
  split at hc
  · rename_i e he
    rcases List.mem_cons.mp hc with rfl | hc
    · decide
    · rw [List.mem_singleton.mp hc]
      exact letterEscapes_printable _ (lookup_mem he)
  · split at hc
    · rename_i hn
      rw [List.mem_singleton.mp hc, Printable, toNat_ofNat_ascii n (by omega)]
      exact hn
    · simp only [hex4, List.map_cons, List.map_nil, List.mem_cons, List.not_mem_nil, or_false] at hc
      rcases hc with rfl | rfl | rfl | rfl | rfl | rfl
      · decide
      · decide
      all_goals exact digitChar_printable _ (Nat.mod_lt _ (by decide))

theorem literal_printable (s : String) : ∀ c ∈ literal s, Printable c := by
  intro c hc
  simp only [literal, literalTail, List.mem_cons, List.mem_append, List.mem_flatMap,
    List.not_mem_nil, or_false] at hc
  rcases hc with rfl | ⟨n, -, hc⟩ | rfl
  · decide
  · exact unitText_printable n c hc
  · decide

theorem mem_intercalate {α : Type} {sep : List α} {ls : List (List α)} {c : α}
    (h : c ∈ sep.intercalate ls) : c ∈ sep ∨ ∃ l ∈ ls, c ∈ l := by
  induction ls with
  | nil => simp at h
  | cons l ls ih =>
    cases ls with
    | nil => exact .inr ⟨l, by simp, by simpa using h⟩
    | cons l' ls =>
      rw [List.intercalate_cons_cons, List.mem_append, List.mem_append] at h
      rcases h with (h | h) | h
      · exact .inr ⟨l, by simp, h⟩
      · exact .inl h
      · rcases ih h with h | ⟨l'', hl, h⟩
        · exact .inl h
        · exact .inr ⟨l'', List.mem_cons_of_mem _ hl, h⟩

theorem dumps_printable (items : List String) : ∀ c ∈ (dumps items).toList, Printable c := by
  intro c hc
  simp only [dumps, String.toList_ofList, List.cons_append, List.mem_cons, List.mem_append,
    List.not_mem_nil, or_false] at hc
  rcases hc with rfl | hc | rfl
  · decide
  · rcases mem_intercalate hc with hc | ⟨l, hl, hc⟩
    · rw [List.mem_singleton.mp hc]
      decide
    · obtain ⟨s, -, rfl⟩ := List.mem_map.mp hl
      exact literal_printable s c hc
  · decide

theorem head?_dumps (items : List String) : (dumps items).toList.head? = some '[' := by
  simp [dumps]

theorem getLast?_dumps (items : List String) : (dumps items).toList.getLast? = some ']' := by
  rw [dumps, String.toList_ofList, List.getLast?_append]
  rfl

theorem strip_dumps (items : List String) : strip (dumps items) = dumps items := by
  apply strip_eq
  · rw [head?_dumps]
    intro c hc
    cases hc
    decide
  · rw [getLast?_dumps]
    intro c hc
    cases hc
    decide

theorem Printable.isLineBreak {c : Char} (h : Printable c) : isLineBreak c = false := by
  unfold Printable at h
  simp only [Py.isLineBreak, Bool.or_eq_false_iff, decide_eq_false_iff_not, beq_eq_false_iff_ne]
  omega

theorem dumps_oneLine (items : List String) : OneLine (dumps items) :=
  fun c hc => (dumps_printable items c hc).isLineBreak

/-! ## Reading it back -/

/-- The digit's value. -/
def hexValue (c : Char) : Option Nat := (List.range 16).find? fun n => Nat.digitChar n = c

def readHex4 (a b c d : Char) : Option Nat := do
  return 0x1000 * (← hexValue a) + 0x100 * (← hexValue b) + 0x10 * (← hexValue c) + (← hexValue d)

/-- The units of a literal after its opening quote, and what follows it. -/
def readUnits : List Char → Option (List Nat × List Char)
  | [] => none
  | '\"' :: cs => some ([], cs)
  | '\\' :: 'u' :: a :: b :: c :: d :: cs => do
    let n ← readHex4 a b c d
    let (ns, rest) ← readUnits cs
    return (n :: ns, rest)
  | '\\' :: e :: cs => do
    let p ← letterEscapes.find? fun p => p.2 = e
    let (ns, rest) ← readUnits cs
    return (p.1 :: ns, rest)
  | c :: cs => do
    let (ns, rest) ← readUnits cs
    return (c.toNat :: ns, rest)

/-- The characters of UTF-16 units; a lone surrogate is none. -/
def ofUtf16 : List Nat → Option (List Char)
  | [] => some []
  | [n] => if 0xd800 ≤ n ∧ n ≤ 0xdfff then none else some [Char.ofNat n]
  | n :: m :: ns =>
    if 0xd800 ≤ n ∧ n ≤ 0xdbff then
      if 0xdc00 ≤ m ∧ m ≤ 0xdfff then
        (ofUtf16 ns).map (Char.ofNat (0x10000 + (n - 0xd800) * 0x400 + (m - 0xdc00)) :: ·)
      else none
    else if 0xdc00 ≤ n ∧ n ≤ 0xdfff then none
    else (ofUtf16 (m :: ns)).map (Char.ofNat n :: ·)

/-- The strings of an array after its opening bracket, at most `fuel`. -/
def readItems : Nat → List Char → Option (List String)
  | fuel + 1, '\"' :: cs => do
    let (ns, rest) ← readUnits cs
    let item ← ofUtf16 ns
    match rest with
    | [']'] => return [String.ofList item]
    | ',' :: rest => return String.ofList item :: (← readItems fuel rest)
    | _ => none
  | _, _ => none

/-- An array of strings with no blanks in it. -/
def readStrings (s : String) : Option (List String) :=
  match s.toList with
  | ['[', ']'] => some []
  | '[' :: cs => readItems cs.length cs
  | _ => none

theorem readHex4_hex4 : ∀ {n : Nat}, n < 0x10000 → ∃ a b c d, hex4 n = [a, b, c, d] ∧
    readHex4 a b c d = some n := by
  have hdigit : ∀ k < 16, hexValue (Nat.digitChar k) = some k := by decide
  intro n hn
  refine ⟨_, _, _, _, rfl, ?_⟩
  simp only [readHex4, hdigit _ (Nat.mod_lt _ (by decide : 0 < 16)), Option.pure_def,
    Option.bind_eq_bind, Option.bind_some, Option.some.injEq]
  omega

/-- The letters are those of the escapes. -/
theorem find?_letterEscapes : ∀ p ∈ letterEscapes,
    p.2 ≠ 'u' ∧ letterEscapes.find? (fun q => q.2 = p.2) = some p := by decide

theorem readUnits_unitText {n : Nat} (hn : n < 0x10000) (cs : List Char) :
    readUnits (unitText n ++ cs) = (readUnits cs).map fun p => (n :: p.1, p.2) := by
  unfold unitText
  split
  · rename_i e he
    obtain ⟨hu, hfind⟩ := find?_letterEscapes _ (lookup_mem he)
    rw [List.cons_append, List.singleton_append, readUnits.eq_4 _ _ (by intros; simp_all)]
    rw [hfind]
    cases readUnits cs <;> rfl
  · rename_i he
    split
    · rename_i hp
      have hval : (Char.ofNat n).toNat = n := toNat_ofNat_ascii n (by omega)
      have hquote : Char.ofNat n ≠ '\"' := by
        intro hc
        rw [hc] at hval
        rw [← hval] at he
        exact absurd he (by decide)
      have hslash : Char.ofNat n ≠ '\\' := by
        intro hc
        rw [hc] at hval
        rw [← hval] at he
        exact absurd he (by decide)
      rw [List.singleton_append, readUnits.eq_5 _ _ (by simp_all) (by simp_all) (by simp_all), hval]
      cases readUnits cs <;> rfl
    · obtain ⟨a, b, c, d, hhex, hread⟩ := readHex4_hex4 hn
      rw [hhex]
      simp only [List.cons_append, List.nil_append, readUnits, hread, Option.bind_eq_bind,
        Option.bind_some]
      cases readUnits cs <;> rfl

theorem utf16_lt (c : Char) : ∀ n ∈ utf16 c, n < 0x10000 := by
  have hc : c.toNat < 0x110000 := by
    have := c.valid
    rcases this with h | h
    · exact Nat.lt_trans h (by decide)
    · exact h.2
  intro n hn
  unfold utf16 at hn
  split at hn
  · simp only [List.mem_singleton] at hn
    omega
  · simp only [List.mem_cons, List.not_mem_nil, or_false] at hn
    omega

theorem readUnits_units {ns : List Nat} (h : ∀ n ∈ ns, n < 0x10000) (cs : List Char) :
    readUnits (ns.flatMap unitText ++ '\"' :: cs) = some (ns, cs) := by
  induction ns with
  | nil => simp [readUnits]
  | cons n ns ih =>
    rw [List.flatMap_cons, List.append_assoc, readUnits_unitText (h n (by simp)),
      ih fun m hm => h m (List.mem_cons_of_mem _ hm)]
    rfl

theorem not_surrogate (c : Char) : c.toNat < 0xd800 ∨ 0xdfff < c.toNat := by
  rcases c.valid with h | h
  · exact .inl h
  · exact .inr h.1

theorem ofUtf16_cons {n : Nat} (h : n < 0xd800 ∨ 0xdfff < n) (ns : List Nat) :
    ofUtf16 (n :: ns) = (ofUtf16 ns).map (Char.ofNat n :: ·) := by
  cases ns with
  | nil =>
    simp only [ofUtf16]
    rw [if_neg (by omega)]
    rfl
  | cons m ns =>
    simp only [ofUtf16]
    rw [if_neg (by omega), if_neg (by omega)]

theorem ofUtf16_utf16 (cs : List Char) : ofUtf16 (cs.flatMap utf16) = some cs := by
  induction cs with
  | nil => rfl
  | cons c cs ih =>
    have hc : c.toNat < 0x110000 := by
      rcases c.valid with h | h
      · exact Nat.lt_trans h (by decide)
      · exact h.2
    rw [List.flatMap_cons]
    unfold utf16
    split
    · rw [List.singleton_append, ofUtf16_cons (not_surrogate c), show cs.flatMap
        (fun c => if c.toNat < 0x10000 then [c.toNat] else _) = cs.flatMap utf16 from rfl, ih]
      simp
    · have hval : 0x10000 + (0xd800 + (c.toNat - 0x10000) / 0x400 - 0xd800) * 0x400 +
          (0xdc00 + (c.toNat - 0x10000) % 0x400 - 0xdc00) = c.toNat := by omega
      rw [List.cons_append, List.singleton_append, ofUtf16, if_pos (by omega), if_pos (by omega),
        hval, show cs.flatMap
        (fun c => if c.toNat < 0x10000 then [c.toNat] else _) = cs.flatMap utf16 from rfl, ih]
      simp

theorem readUnits_literalTail (s : String) (cs : List Char) :
    readUnits (literalTail s ++ cs) = some (s.toList.flatMap utf16, cs) := by
  rw [literalTail, List.append_assoc, List.singleton_append, readUnits_units]
  intro n hn
  obtain ⟨c, -, hn⟩ := List.mem_flatMap.mp hn
  exact utf16_lt c n hn

theorem readItems_literals : ∀ {items : List String} {fuel : Nat}, items ≠ [] →
    items.length ≤ fuel → readItems fuel ([','].intercalate (items.map literal) ++ [']']) =
      some items
  | [], _, hne, _ => absurd rfl hne
  | [s], fuel + 1, _, _ => by
    rw [List.map_singleton, List.intercalate_singleton, literal, List.cons_append, readItems,
      readUnits_literalTail]
    simp [ofUtf16_utf16]
  | s :: s' :: items, fuel + 1, _, hlen => by
    have hrest := readItems_literals (List.cons_ne_nil s' items)
      (Nat.le_of_succ_le_succ (by simpa using hlen : (s' :: items).length + 1 ≤ fuel + 1))
    rw [List.map_cons, List.map_cons, List.intercalate_cons_cons, ← List.map_cons, literal,
      List.cons_append, List.cons_append, List.cons_append, readItems, List.append_assoc,
      List.append_assoc, readUnits_literalTail]
    simp only [ofUtf16_utf16, Option.bind_eq_bind, Option.bind_some, List.singleton_append, hrest,
      String.ofList_toList, Option.pure_def]

theorem length_literals (items : List String) :
    items.length ≤ ([','].intercalate (items.map literal)).length := by
  induction items with
  | nil => simp
  | cons s items ih =>
    cases items with
    | nil => simp [literal]
    | cons s' items =>
      rw [List.map_cons, List.map_cons, List.intercalate_cons_cons, ← List.map_cons]
      simp only [List.length_append, List.length_cons] at ih ⊢
      omega

theorem readStrings_dumps (items : List String) : readStrings (dumps items) = some items := by
  cases items with
  | nil => rfl
  | cons s items =>
    have hfuel := length_literals (s :: items)
    obtain ⟨cs, hcs⟩ : ∃ cs, [','].intercalate ((s :: items).map literal) ++ [']'] = '\"' :: cs := by
      cases items <;> exact ⟨_, rfl⟩
    have hlen : (s :: items).length ≤ ('\"' :: cs).length := by
      rw [← hcs, List.length_append]
      omega
    have hread := readItems_literals (List.cons_ne_nil s items) hlen
    rw [hcs] at hread
    rw [readStrings, dumps, String.toList_ofList, List.cons_append, hcs]
    exact hread

/-- The string of a literal that nothing follows. -/
def readLiteral : List Char → Option String
  | '\"' :: cs => do
    let (ns, rest) ← readUnits cs
    let s ← ofUtf16 ns
    if rest = [] then return String.ofList s else none
  | _ => none

theorem readLiteral_literal (s : String) : readLiteral (literal s) = some s := by
  have hread := readUnits_literalTail s []
  rw [List.append_nil] at hread
  rw [literal, readLiteral, hread]
  simp [ofUtf16_utf16]

end ServiceOrderOs.Py
