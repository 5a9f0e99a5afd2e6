import ServiceOrderOs.L1Values.JsonText
import ServiceOrderOs.L1Values.Value

/-!
# JSON documents as text

`json.dumps` of any value and a reader of JSON text. The two ways `dumps` is
called differ in the blanks after a comma and a colon (`gap`). `Codecs` is what
the code takes from the interpreter, and `Inverts` what it relies on: a written
document is read back.

* `readTail_flatMap`: a bracketed list is read when its items are.
* `readValue_text`: a value is read from its text, whatever follows.
* `dumpsCompact_strings`: the `dumps` of the scripts writes the same text.
* `codecs_inverts`: with this reader it is so.
-/
namespace ServiceOrderOs.Py

/-! ## Writing -/

mutual
/-- The text of a value, with `gap` after each comma and colon. -/
def Json.text (gap : List Char) : Json → List Char
  | .null => "null".toList
  | .bool b => if b then "true".toList else "false".toList
  | .int n => (toString n).toList
  | .float r => r.toList
  | .str s => literal s
  | .arr [] => ['[', ']']
  | .arr (x :: xs) => '[' :: (x.text gap ++ itemsText gap xs)
  | .obj [] => ['\x7b', '\x7d']
  | .obj ((k, v) :: fs) =>
    '\x7b' :: (literal k ++ ':' :: (gap ++ v.text gap) ++ fieldsText gap fs)

/-- The items after the first, and the closing bracket. -/
def itemsText (gap : List Char) : List Json → List Char
  | [] => [']']
  | x :: xs => ',' :: (gap ++ x.text gap ++ itemsText gap xs)

def fieldsText (gap : List Char) : List (String × Json) → List Char
  | [] => ['\x7d']
  | (k, v) :: fs => ',' :: (gap ++ (literal k ++ ':' :: (gap ++ v.text gap)) ++ fieldsText gap fs)
end

/-- `json.dumps(value)` -/
def Json.dumps (v : Json) : String := String.ofList (v.text [' '])

/-- `json.dumps(value, separators=(",", ":"))` -/
def Json.dumpsCompact (v : Json) : String := String.ofList (v.text [])

/-- A value that Python holds: no key twice, and a float is the `repr` of a
finite one. -/
inductive Json.WellFormed (isRepr : String → Prop) : Json → Prop
  | null : WellFormed isRepr .null
  | bool (b : Bool) : WellFormed isRepr (.bool b)
  | int (n : Int) : WellFormed isRepr (.int n)
  | float {r : String} : isRepr r → WellFormed isRepr (.float r)
  | str (s : String) : WellFormed isRepr (.str s)
  | arr {xs : List Json} : (∀ x ∈ xs, WellFormed isRepr x) → WellFormed isRepr (.arr xs)
  | obj {fs : List (String × Json)} : (fs.map Prod.fst).Nodup →
      (∀ f ∈ fs, WellFormed isRepr f.2) → WellFormed isRepr (.obj fs)

/-- An object of texts under different keys. -/
theorem strings_wellFormed {isRepr : String → Prop} (fields : List (String × String))
    (h : (fields.map Prod.fst).Nodup) :
    (Json.obj (fields.map fun f => (f.1, .str f.2))).WellFormed isRepr := by
  refine .obj (by rwa [List.map_map]) fun f hf => ?_
  obtain ⟨g, -, rfl⟩ := List.mem_map.mp hf
  exact .str g.2

structure Codecs where
  /-- `json.loads`. -/
  loads : String → Except PyError Json
  /-- The texts that `float.__repr__` writes of finite numbers. -/
  isRepr : String → Prop
  /-- The text of the `UnicodeDecodeError`, a `ValueError`, of `bytes.decode`. -/
  decodeError : ByteArray → String

namespace Codecs

/-- `json.loads` inverts `json.dumps`. -/
structure Inverts (py : Codecs) : Prop where
  loads_dumps : ∀ v : Json, v.WellFormed py.isRepr → py.loads v.dumps = .ok v
  loads_compact : ∀ v : Json, v.WellFormed py.isRepr → py.loads v.dumpsCompact = .ok v

/-- `body.decode("utf-8")` -/
def decode (py : Codecs) (body : ByteArray) : Except PyError String :=
  match String.fromUTF8? body with
  | some text => .ok text
  | none => .error (.valueError (py.decodeError body))

theorem decode_encode (py : Codecs) (text : String) : py.decode text.toUTF8 = .ok text := by
  have h : String.fromUTF8? text.toUTF8 = some text := dif_pos text.isValidUTF8
  rw [decode, h]

end Codecs

/-! ## Reading -/

def isBlank (c : Char) : Bool := c == ' ' || c == '\t' || c == '\n' || c == '\r'

def skip (cs : List Char) : List Char := cs.dropWhile isBlank

def numberChar (c : Char) : Bool :=
  c.isDigit || c == '-' || c == '+' || c == '.' || c == 'e' || c == 'E'

/-- What makes a number a float. -/
def floatChar (c : Char) : Bool := c == '.' || c == 'e' || c == 'E'

def readNumber (cs : List Char) : Option (Json × List Char) :=
  let word := cs.takeWhile numberChar
  let rest := cs.dropWhile numberChar
  if word.any floatChar then some (.float (String.ofList word), rest)
  else (parseInt (String.ofList word)).map fun n => (.int n, rest)

/-- A string after its opening quote. -/
def readString (cs : List Char) : Option (String × List Char) := do
  let (units, rest) ← readUnits cs
  let s ← ofUtf16 units
  return (String.ofList s, rest)

section Lists
variable {α : Type}

/-- The items after the first, up to the closing bracket. -/
def readTail (one : List Char → Option (α × List Char)) (close : Char) :
    Nat → List Char → Option (List α × List Char)
  | 0, _ => none
  | n + 1, cs => match skip cs with
    | [] => none
    | c :: cs =>
      if c = close then some ([], cs)
      else if c = ',' then do
        let (x, cs) ← one (skip cs)
        let (xs, cs) ← readTail one close n cs
        return (x :: xs, cs)
      else none

/-- A list after its opening bracket. -/
def readList (one : List Char → Option (α × List Char)) (close : Char) (n : Nat)
    (cs : List Char) : Option (List α × List Char) :=
  match skip cs with
  | [] => none
  | c :: cs =>
    if c = close then some ([], cs)
    else do
      let (x, cs) ← one (c :: cs)
      let (xs, cs) ← readTail one close n cs
      return (x :: xs, cs)

def readField (one : List Char → Option (α × List Char)) :
    List Char → Option ((String × α) × List Char)
  | [] => none
  | q :: cs =>
    if q = '\"' then do
      let (k, cs) ← readString cs
      match skip cs with
      | [] => none
      | c :: cs =>
        if c = ':' then do
          let (v, cs) ← one (skip cs)
          return ((k, v), cs)
        else none
    else none

end Lists

/-- A value at the start of a text, nested at most `n` deep. -/
def readValue : Nat → List Char → Option (Json × List Char)
  | 0, _ => none
  | _, [] => none
  | n + 1, c :: cs =>
    if c = '\"' then (readString cs).map fun p => (.str p.1, p.2)
    else if c = '[' then (readList (readValue n) ']' n cs).map fun p => (.arr p.1, p.2)
    else if c = '\x7b' then
      (readList (readField (readValue n)) '\x7d' n cs).map fun p => (.obj p.1, p.2)
    else if "null".toList.isPrefixOf (c :: cs) then some (.null, cs.drop 3)
    else if "true".toList.isPrefixOf (c :: cs) then some (.bool true, cs.drop 3)
    else if "false".toList.isPrefixOf (c :: cs) then some (.bool false, cs.drop 4)
    else readNumber (c :: cs)

def readJson (s : String) : Option Json := do
  let (v, rest) ← readValue (s.toList.length + 1) (skip s.toList)
  if skip rest = [] then return v else none

example : readJson "\x7b\"a\": [1, -2.5e3, null], \"b\": \x7b\x7d\x7d\n" = some
    (.obj [("a", .arr [.int 1, .float "-2.5e3", .null]), ("b", .obj [])]) := by rfl

/-! ## Blanks and numbers -/

theorem skip_of_head {c : Char} (h : isBlank c = false) (cs : List Char) :
    skip (c :: cs) = c :: cs := by
  rw [skip, List.dropWhile_cons, h]
  rfl

theorem skip_gap {gap : List Char} (hgap : ∀ c ∈ gap, isBlank c = true) (cs : List Char) :
    skip (gap ++ cs) = skip cs :=
  List.dropWhile_append_of_pos hgap

/-- What follows is no part of a number. -/
def Stops (rest : List Char) : Prop := ∀ c, rest.head? = some c → numberChar c = false

theorem stops_nil : Stops [] := fun c hc => by cases hc

theorem stops_cons {c : Char} (h : numberChar c = false) (rest : List Char) :
    Stops (c :: rest) := by
  intro d hd
  cases hd
  exact h

theorem number_span {word rest : List Char} (hword : ∀ c ∈ word, numberChar c = true)
    (hrest : Stops rest) : (word ++ rest).takeWhile numberChar = word ∧
      (word ++ rest).dropWhile numberChar = rest := by
  rw [List.takeWhile_append_of_pos hword, List.dropWhile_append_of_pos hword,
    dropWhile_of_head hrest]
  refine ⟨?_, rfl⟩
  cases rest with
  | nil => exact List.append_nil word
  | cons c rest =>
    rw [List.takeWhile_cons, hrest c rfl]
    exact List.append_nil word

theorem toString_chars (n : Int) :
    ∀ c ∈ (toString n).toList, numberChar c = true ∧ floatChar c = false := by
  have hdigit : ∀ m : Nat, ∀ c ∈ Nat.toDigits 10 m, numberChar c = true ∧ floatChar c = false := by
    intro m c hc
    have hc : c.isDigit := Nat.isDigit_of_mem_toDigits (by decide) (by decide) hc
    refine ⟨by simp [numberChar, hc], ?_⟩
    have hrange := (isDigit_iff c).mp hc
    simp only [floatChar, Bool.or_eq_false_iff, beq_eq_false_iff_ne]
    refine ⟨⟨?_, ?_⟩, ?_⟩ <;> (intro he; rw [he] at hrange; revert hrange; decide)
  cases n with
  | ofNat m =>
    rw [show (toString (Int.ofNat m)).toList = Nat.toDigits 10 m from Nat.toList_repr]
    exact hdigit m
  | negSucc m =>
    intro c hc
    rw [show (toString (Int.negSucc m)).toList = '-' :: Nat.toDigits 10 (m + 1) by
      show ("-" ++ Nat.repr (m + 1)).toList = _
      rw [String.toList_append, Nat.toList_repr]
      rfl] at hc
    rcases List.mem_cons.mp hc with rfl | hc
    · decide
    · exact hdigit _ c hc

theorem toString_ne_nil (n : Int) : (toString n).toList ≠ [] := by
  intro h
  have hread := parseInt_toString n
  rw [← String.ofList_toList (s := toString n), h] at hread
  revert hread
  simp [parseInt, strip]

/-- A text with a fraction or an exponent. -/
def IsFloat (r : String) : Prop :=
  (∀ c ∈ r.toList, numberChar c = true) ∧ r.toList.any floatChar = true

theorem readNumber_int (n : Int) {rest : List Char} (hrest : Stops rest) :
    readNumber ((toString n).toList ++ rest) = some (.int n, rest) := by
  obtain ⟨htake, hdrop⟩ := number_span (fun c hc => (toString_chars n c hc).1) hrest
  have hno : (toString n).toList.any floatChar = false := by
    rw [List.any_eq_false]
    intro c hc
    rw [(toString_chars n c hc).2]
    exact Bool.false_ne_true
  rw [readNumber, htake, hdrop, hno, String.ofList_toList, parseInt_toString]
  rfl

theorem readNumber_float {r : String} (h : IsFloat r) {rest : List Char} (hrest : Stops rest) :
    readNumber (r.toList ++ rest) = some (.float r, rest) := by
  obtain ⟨htake, hdrop⟩ := number_span h.1 hrest
  rw [readNumber, htake, hdrop, if_pos h.2, String.ofList_toList]

theorem ne_of_number {c d : Char} (hc : numberChar c = true) (hd : numberChar d = false) :
    c ≠ d := by
  rintro rfl
  rw [hd] at hc
  cases hc

/-- No other kind of value starts as a number does. -/
theorem readValue_number {c : Char} (h : numberChar c = true) (n : Nat) (cs : List Char) :
    readValue (n + 1) (c :: cs) = readNumber (c :: cs) := by
  have hne : ∀ d, numberChar d = false → c ≠ d := fun d => ne_of_number h
  have hword : ∀ d ds, numberChar d = false → (d :: ds).isPrefixOf (c :: cs) = false := by
    intro d ds hd
    rw [List.isPrefixOf, beq_false_of_ne (hne d hd).symm]
    rfl
  rw [readValue, if_neg (hne _ rfl), if_neg (hne _ rfl), if_neg (hne _ rfl),
    show "null".toList = 'n' :: "ull".toList from rfl, hword 'n' _ rfl,
    show "true".toList = 't' :: "rue".toList from rfl, hword 't' _ rfl,
    show "false".toList = 'f' :: "alse".toList from rfl, hword 'f' _ rfl]
  rfl

theorem readString_literalTail (s : String) (rest : List Char) :
    readString (literalTail s ++ rest) = some (s, rest) := by
  simp only [readString, readUnits_literalTail, Option.bind_eq_bind, Option.bind_some,
    ofUtf16_utf16, Option.pure_def, String.ofList_toList]

/-! ## Bracketed lists -/

section Lists
variable {α : Type} {one : List Char → Option (α × List Char)} {text : α → List Char}
  {gap rest : List Char} {close : Char} {x : α} {xs : List α} {n : Nat}

/-- The items after the first as they are written, and the closing bracket. -/
def tailText (gap : List Char) (close : Char) (text : α → List Char) (xs : List α) : List Char :=
  xs.flatMap (fun x => ',' :: (gap ++ text x)) ++ [close]

theorem tailText_cons (x : α) (xs : List α) : tailText gap close text (x :: xs) =
    ',' :: (gap ++ (text x ++ tailText gap close text xs)) := by
  simp [tailText]

theorem tailText_length (gap : List Char) (close : Char) (text : α → List Char) (xs : List α) :
    xs.length < (tailText gap close text xs).length ∧
      ∀ x ∈ xs, (text x).length < (tailText gap close text xs).length := by
  induction xs with
  | nil => simp [tailText]
  | cons x xs ih =>
    rw [tailText_cons]
    simp only [List.length_cons, List.length_append, List.forall_mem_cons]
    refine ⟨by omega, by omega, fun y hy => ?_⟩
    have := ih.2 y hy
    omega

/-- The items of a list within `n` characters are fewer than `n`, and each is
within them. -/
theorem items_fit (hn : (text x ++ tailText gap close text xs).length ≤ n) :
    xs.length < n ∧ ∀ y ∈ x :: xs, (text y).length ≤ n := by
  obtain ⟨hlen, htail⟩ := tailText_length gap close text xs
  rw [List.length_append] at hn
  refine ⟨by omega, fun y hy => ?_⟩
  rcases List.mem_cons.mp hy with rfl | hy
  · omega
  · have := htail y hy
    omega

/-- A bracket that closes a list. -/
structure Closes (close : Char) : Prop where
  blank : isBlank close = false
  number : numberChar close = false
  comma : close ≠ ','

theorem tailText_stops (hclose : Closes close) (xs : List α) (rest : List Char) :
    Stops (tailText gap close text xs ++ rest) := by
  cases xs with
  | nil => exact stops_cons hclose.number rest
  | cons x xs =>
    rw [tailText_cons]
    exact stops_cons rfl _

/-- An item is read from its text, which does not start with a blank or the
closing bracket. -/
structure Reads (one : List Char → Option (α × List Char)) (text : α → List Char) (close : Char)
    (x : α) : Prop where
  starts : ∃ c cs, text x = c :: cs ∧ isBlank c = false ∧ c ≠ close
  reads : ∀ rest, Stops rest → one (text x ++ rest) = some (x, rest)

theorem Reads.skip (h : Reads one text close x) (rest : List Char) :
    skip (text x ++ rest) = text x ++ rest := by
  obtain ⟨c, cs, hx, hblank, -⟩ := h.starts
  rw [hx, List.cons_append, skip_of_head hblank]

theorem readTail_flatMap (hgap : ∀ c ∈ gap, isBlank c = true) (hclose : Closes close)
    (h : ∀ x ∈ xs, Reads one text close x) (hn : xs.length < n) :
    readTail one close n (tailText gap close text xs ++ rest) = some (xs, rest) := by
  induction xs generalizing n with
  | nil =>
    obtain ⟨n, rfl⟩ := Nat.exists_eq_succ_of_ne_zero (Nat.ne_of_gt hn)
    show readTail one close (n + 1) (close :: rest) = _
    rw [readTail, skip_of_head hclose.blank]
    dsimp only
    rw [if_pos rfl]
  | cons x xs ih =>
    obtain ⟨n, rfl⟩ := Nat.exists_eq_succ_of_ne_zero (Nat.ne_of_gt (Nat.zero_lt_of_lt hn))
    have hx := h x List.mem_cons_self
    have hxs := ih (fun y hy => h y (List.mem_cons_of_mem _ hy)) (Nat.lt_of_succ_lt_succ hn)
    rw [tailText_cons, List.cons_append, List.append_assoc, List.append_assoc, readTail,
      skip_of_head rfl]
    dsimp only
    rw [if_neg hclose.comma.symm, if_pos rfl, skip_gap hgap, hx.skip,
      hx.reads _ (tailText_stops hclose xs rest)]
    simp only [Option.bind_eq_bind, Option.bind_some, hxs, Option.pure_def]

theorem readList_nil (hclose : Closes close) (n : Nat) (rest : List Char) :
    readList one close n (close :: rest) = some ([], rest) := by
  rw [readList, skip_of_head hclose.blank]
  dsimp only
  rw [if_pos rfl]

theorem readList_cons (hgap : ∀ c ∈ gap, isBlank c = true) (hclose : Closes close)
    (h : ∀ y ∈ x :: xs, Reads one text close y) (hn : xs.length < n) :
    readList one close n (text x ++ (tailText gap close text xs ++ rest)) =
      some (x :: xs, rest) := by
  have hx := h x List.mem_cons_self
  have hxs : readTail one close n (tailText gap close text xs ++ rest) = some (xs, rest) :=
    readTail_flatMap hgap hclose (fun y hy => h y (List.mem_cons_of_mem _ hy)) hn
  have hread : one (text x ++ (tailText gap close text xs ++ rest)) =
      some (x, tailText gap close text xs ++ rest) := hx.reads _ (tailText_stops hclose xs rest)
  obtain ⟨c, cs, htext, hblank, hne⟩ := hx.starts
  rw [readList, hx.skip, htext, List.cons_append]
  dsimp only
  rw [if_neg hne, ← List.cons_append, ← htext, hread]
  simp only [Option.bind_eq_bind, Option.bind_some, hxs, Option.pure_def]

end Lists

/-! ## Documents -/

section Documents
variable {gap : List Char}

/-- A field, after the comma and the gap. -/
def fieldText (gap : List Char) (f : String × Json) : List Char :=
  literal f.1 ++ ':' :: (gap ++ f.2.text gap)

theorem itemsText_eq (xs : List Json) : itemsText gap xs = tailText gap ']' (Json.text gap) xs := by
  induction xs with
  | nil => rfl
  | cons x xs ih => rw [itemsText, ih, tailText_cons, List.append_assoc]

theorem fieldsText_eq (fs : List (String × Json)) :
    fieldsText gap fs = tailText gap '\x7d' (fieldText gap) fs := by
  induction fs with
  | nil => rfl
  | cons f fs ih => rw [fieldsText, ih, tailText_cons, List.append_assoc]; rfl

theorem closes_bracket : Closes ']' := ⟨rfl, rfl, by decide⟩

theorem closes_brace : Closes '\x7d' := ⟨rfl, rfl, by decide⟩

theorem number_head {cs : List Char} (hne : cs ≠ []) (h : ∀ c ∈ cs, numberChar c = true) :
    ∃ c ds, cs = c :: ds ∧ numberChar c = true := by
  obtain ⟨c, ds, rfl⟩ := List.exists_cons_of_ne_nil hne
  exact ⟨c, ds, rfl, h c List.mem_cons_self⟩

theorem isFloat_ne_nil {r : String} (h : IsFloat r) : r.toList ≠ [] := by
  intro he
  have := h.2
  rw [he] at this
  cases this

/-- A value's text does not start with a blank or a closing bracket. -/
theorem text_starts (gap : List Char) {v : Json} (h : v.WellFormed IsFloat) :
    ∃ c cs, v.text gap = c :: cs ∧ isBlank c = false ∧ c ≠ ']' := by
  have hnumber : ∀ {cs : List Char}, cs ≠ [] → (∀ c ∈ cs, numberChar c = true) →
      ∃ c ds, cs = c :: ds ∧ isBlank c = false ∧ c ≠ ']' := by
    intro cs hne hall
    obtain ⟨c, ds, rfl, hc⟩ := number_head hne hall
    have hother : ∀ d, numberChar d = false → c ≠ d := fun d => ne_of_number hc
    refine ⟨c, ds, rfl, ?_, hother _ rfl⟩
    simp only [isBlank, Bool.or_eq_false_iff, beq_eq_false_iff_ne]
    exact ⟨⟨⟨hother _ rfl, hother _ rfl⟩, hother _ rfl⟩, hother _ rfl⟩
  cases h with
  | null => exact ⟨_, _, rfl, rfl, by decide⟩
  | bool b => cases b <;> exact ⟨_, _, rfl, rfl, by decide⟩
  | int n => exact hnumber (toString_ne_nil n) fun c hc => (toString_chars n c hc).1
  | float hr => exact hnumber (isFloat_ne_nil hr) hr.1
  | str s => exact ⟨_, _, rfl, rfl, by decide⟩
  | @arr xs _ => cases xs <;> exact ⟨_, _, rfl, rfl, by decide⟩
  | @obj fs _ _ => cases fs <;> exact ⟨_, _, rfl, rfl, by decide⟩

theorem text_length_pos (gap : List Char) {v : Json} (h : v.WellFormed IsFloat) :
    0 < (v.text gap).length := by
  obtain ⟨c, cs, htext, -⟩ := text_starts gap h
  rw [htext]
  exact Nat.succ_pos _

theorem readField_text (hgap : ∀ c ∈ gap, isBlank c = true)
    {one : List Char → Option (Json × List Char)} {f : String × Json}
    (h : Reads one (Json.text gap) ']' f.2) :
    Reads (readField one) (fieldText gap) '\x7d' f where
  starts := ⟨_, _, rfl, rfl, by decide⟩
  reads rest hrest := by
    rw [fieldText, literal, List.cons_append, List.cons_append, List.append_assoc, readField,
      if_pos rfl, readString_literalTail]
    simp only [Option.bind_eq_bind, Option.bind_some]
    rw [List.cons_append, skip_of_head rfl]
    dsimp only
    rw [if_pos rfl, List.append_assoc, skip_gap hgap, h.skip, h.reads rest hrest]
    rfl

/-- A word of the characters of a number is read as one. -/
theorem readValue_word {word : List Char} (hne : word ≠ []) (h : ∀ c ∈ word, numberChar c = true)
    (n : Nat) (rest : List Char) :
    readValue (n + 1) (word ++ rest) = readNumber (word ++ rest) := by
  obtain ⟨c, cs, rfl, hc⟩ := number_head hne h
  exact readValue_number hc n (cs ++ rest)

section Depth
variable {n : Nat}

/-- An array is read when its items are, each a shorter text than its own. -/
theorem readValue_arr (hgap : ∀ c ∈ gap, isBlank c = true) {xs : List Json}
    (h : ∀ x ∈ xs, (x.text gap).length ≤ n → Reads (readValue n) (Json.text gap) ']' x)
    (hn : ((Json.arr xs).text gap).length ≤ n + 1) (rest : List Char) :
    readValue (n + 1) ((Json.arr xs).text gap ++ rest) = some (.arr xs, rest) := by
  cases xs with
  | nil =>
    rw [Json.text, List.cons_append, List.singleton_append, readValue, if_neg (by decide),
      if_pos rfl, readList_nil closes_bracket]
    rfl
  | cons x xs =>
    rw [Json.text, itemsText_eq] at hn
    obtain ⟨hlen, hfit⟩ := items_fit (Nat.le_of_succ_le_succ hn)
    have hall : ∀ y ∈ x :: xs, Reads (readValue n) (Json.text gap) ']' y :=
      fun y hy => h y hy (hfit y hy)
    rw [Json.text, itemsText_eq, List.cons_append, List.append_assoc, readValue,
      if_neg (by decide), if_pos rfl, readList_cons hgap closes_bracket hall hlen]
    rfl

/-- So is an object, when the values of its fields are. -/
theorem readValue_obj (hgap : ∀ c ∈ gap, isBlank c = true) {fs : List (String × Json)}
    (h : ∀ f ∈ fs, (f.2.text gap).length ≤ n → Reads (readValue n) (Json.text gap) ']' f.2)
    (hn : ((Json.obj fs).text gap).length ≤ n + 1) (rest : List Char) :
    readValue (n + 1) ((Json.obj fs).text gap ++ rest) = some (.obj fs, rest) := by
  cases fs with
  | nil =>
    rw [Json.text, List.cons_append, List.singleton_append, readValue, if_neg (by decide),
      if_neg (by decide), if_pos rfl, readList_nil closes_brace]
    rfl
  | cons f fs =>
    have htext : Json.text gap (.obj (f :: fs)) =
        '\x7b' :: (fieldText gap f ++ tailText gap '\x7d' (fieldText gap) fs) := by
      rw [← fieldsText_eq]
      rfl
    rw [htext] at hn ⊢
    obtain ⟨hlen, hfit⟩ := items_fit (Nat.le_of_succ_le_succ hn)
    have hall : ∀ g ∈ f :: fs, Reads (readField (readValue n)) (fieldText gap) '\x7d' g := by
      intro g hg
      have hvalue : (g.2.text gap).length ≤ (fieldText gap g).length := by
        simp only [fieldText, List.length_append, List.length_cons]
        omega
      exact readField_text hgap (h g hg (Nat.le_trans hvalue (hfit g hg)))
    rw [List.cons_append, List.append_assoc, readValue, if_neg (by decide), if_neg (by decide),
      if_pos rfl, readList_cons hgap closes_brace hall hlen]
    rfl

/-- A value is read from its text, whatever follows. By induction on how deep
the reader may go. -/
theorem readValue_text (hgap : ∀ c ∈ gap, isBlank c = true) {v : Json} (h : v.WellFormed IsFloat)
    (hn : (v.text gap).length ≤ n) {rest : List Char} (hrest : Stops rest) :
    readValue n (v.text gap ++ rest) = some (v, rest) := by
  induction n generalizing v rest with
  | zero =>
    have := text_length_pos gap h
    omega
  | succ n ih =>
    have hreads : ∀ {x : Json}, x.WellFormed IsFloat → (x.text gap).length ≤ n →
        Reads (readValue n) (Json.text gap) ']' x :=
      fun hx hlen => ⟨text_starts gap hx, fun rest hrest => ih hx hlen hrest⟩
    cases h with
    | null => rfl
    | bool b => cases b <;> rfl
    | int m =>
      rw [Json.text, readValue_word (toString_ne_nil m) fun c hc => (toString_chars m c hc).1]
      exact readNumber_int m hrest
    | float hr =>
      rw [Json.text, readValue_word (isFloat_ne_nil hr) hr.1]
      exact readNumber_float hr hrest
    | str s =>
      rw [Json.text, literal, List.cons_append, readValue, if_pos rfl, readString_literalTail]
      rfl
    | arr hxs => exact readValue_arr hgap (fun x hx hlen => hreads (hxs x hx) hlen) hn rest
    | obj hkeys hfs => exact readValue_obj hgap (fun f hf hlen => hreads (hfs f hf) hlen) hn rest

end Depth

theorem readJson_text (gap : List Char) (hgap : ∀ c ∈ gap, isBlank c = true) {v : Json}
    (h : v.WellFormed IsFloat) : readJson (String.ofList (v.text gap)) = some v := by
  obtain ⟨c, cs, htext, hblank, -⟩ := text_starts gap h
  have hread := readValue_text hgap h (Nat.le_succ _) stops_nil
  rw [List.append_nil] at hread
  rw [readJson, String.toList_ofList, htext, skip_of_head hblank, ← htext, hread]
  rfl

end Documents

theorem itemsText_strings (s : String) (items : List String) :
    literal s ++ itemsText [] (items.map .str) =
      [','].intercalate ((s :: items).map literal) ++ [']'] := by
  induction items generalizing s with
  | nil => rw [List.map_singleton, List.intercalate_singleton, List.map_nil, itemsText]
  | cons s' items ih =>
    have hwritten : itemsText [] ((s' :: items).map .str) =
        ',' :: (literal s' ++ itemsText [] (items.map .str)) := rfl
    rw [hwritten, ih s', List.map_cons, List.map_cons, List.map_cons, List.intercalate_cons_cons]
    simp only [List.append_assoc, List.cons_append, List.nil_append]

/-- A list of strings, as the scripts write it, is the compact text of one. -/
theorem dumpsCompact_strings (items : List String) :
    (Json.arr (items.map .str)).dumpsCompact = dumps items := by
  cases items with
  | nil => rfl
  | cons s items =>
    rw [Json.dumpsCompact, dumps, List.map_cons, Json.text, Json.text, itemsText_strings]
    rfl

/-- With the reader here, which takes for a float what has a fraction or an
exponent. -/
def codecs : Codecs where
  loads s := match readJson s with
    | some v => .ok v
    | none => .error (.valueError "Expecting value")
  isRepr := IsFloat
  decodeError _ := "'utf-8' codec can't decode bytes"

theorem codecs_inverts : codecs.Inverts where
  loads_dumps v h := by
    simp only [codecs, Json.dumps, readJson_text [' '] (by simp [isBlank]) h]
  loads_compact v h := by
    simp only [codecs, Json.dumpsCompact, readJson_text [] (by simp) h]

end ServiceOrderOs.Py
