import ServiceOrderOs.L1Values.Text

/-!
# Python values, dictionaries and errors

Payloads and messages are JSON documents read by `json.loads`, so a value is
one of the seven JSON kinds as Python holds them. A float is written by its
`repr`, which is one text per value. A dictionary is the list of its items in
insertion order; its keys are strings, and no key occurs twice in a dictionary
Python builds (`Dict.lookup` takes the first).

`Runtime T` is what the interpreter supplies and the repository does not fix:
the text of a `datetime` and how it is read back, and which characters outside
ASCII its Unicode tables call printable (only `repr` of a nested string asks).

* `Dict.get?_update`: after `d.update(e)` the items of `e` win.
-/
namespace ServiceOrderOs.Py

/-- The exceptions the code raises or handles, with their argument. -/
inductive PyError where
  | keyError (key : String)
  | valueError (message : String)
  | typeError (message : String)
  deriving DecidableEq, Repr

theorem bind_ok {ε α β : Type} {x : Except ε α} {f : α → Except ε β} {b : β}
    (h : (x >>= f) = .ok b) : ∃ a, x = .ok a ∧ f a = .ok b := by
  cases x with
  | error e => cases h
  | ok a => exact ⟨a, rfl, h⟩

theorem ok_bind {ε α β : Type} (a : α) (f : α → Except ε β) : (Except.ok a >>= f) = f a := rfl

/-- A codec of elements is one of lists. -/
theorem mapM_map_ok {α β : Type} {encode : α → β} {decode : β → Except PyError α}
    (h : ∀ a, decode (encode a) = .ok a) (xs : List α) :
    (xs.map encode).mapM decode = .ok xs := by
  induction xs with
  | nil => rfl
  | cons x xs ih => rw [List.map_cons, List.mapM_cons, h x, ih]; rfl

class Runtime (T : Type) where
  /-- `datetime.isoformat`. -/
  isoformat : T → String
  /-- `datetime.fromisoformat`; an error is the text of its `ValueError`. -/
  fromisoformat : String → Except String T
  /-- `str.isprintable` on a character outside ASCII. -/
  isprintable : Char → Bool

inductive Json where
  | null
  | bool (b : Bool)
  | int (n : Int)
  | float (repr : String)
  | str (s : String)
  | arr (items : List Json)
  | obj (fields : List (String × Json))
  deriving Repr

abbrev Dict := List (String × Json)

/-- Truth value testing, as `or` and `if` do it. -/
def Json.truthy : Json → Bool
  | .null => false
  | .bool b => b
  | .int n => n != 0
  | .float r => r != "0.0" && r != "-0.0"
  | .str s => s != ""
  | .arr xs => !xs.isEmpty
  | .obj fs => !fs.isEmpty

/-- A timestamp as `isoformat` writes it in UTC, to the second: the runtime of
the concrete runs. -/
structure Iso where
  text : String
  deriving DecidableEq, Repr

/-- `dddd-dd-ddTdd:dd:dd+00:00`, with `d` for a digit. -/
def Iso.fits (s : String) : Bool :=
  let shape := "dddd-dd-ddTdd:dd:dd+00:00".toList
  s.toList.length == shape.length &&
    (s.toList.zip shape).all fun p => if p.2 = 'd' then p.1.isDigit else p.1 == p.2

instance : Runtime Iso where
  isoformat t := t.text
  fromisoformat s := if Iso.fits s then .ok ⟨s⟩ else .error s!"Invalid isoformat string: '{s}'"
  isprintable _ := true

/-! ## `repr` and `str` -/

def hex (width n : Nat) : String :=
  let ds := String.ofList (Nat.toDigits 16 n)
  String.ofList (List.replicate (width - ds.length) '0') ++ ds

/-- One character of a string's `repr`, between quotes `q`. -/
def reprChar (printable : Char → Bool) (q c : Char) : String :=
  if c = q ∨ c = '\\' then String.ofList ['\\', c]
  else if c = '\n' then "\\n"
  else if c = '\r' then "\\r"
  else if c = '\t' then "\\t"
  else if c.toNat < 0x20 ∨ c.toNat = 0x7f then "\\x" ++ hex 2 c.toNat
  else if c.toNat < 0x7f then String.ofList [c]
  else if printable c then String.ofList [c]
  else if c.toNat ≤ 0xff then "\\x" ++ hex 2 c.toNat
  else if c.toNat ≤ 0xffff then "\\u" ++ hex 4 c.toNat
  else "\\U" ++ hex 8 c.toNat

/-- `repr` of a string: double quotes only when it holds a single quote and no
double quote. -/
def reprStr (printable : Char → Bool) (s : String) : String :=
  let q := if '\'' ∈ s.toList ∧ '\"' ∉ s.toList then '\"' else '\''
  String.ofList [q] ++ String.join (s.toList.map (reprChar printable q)) ++ String.ofList [q]

mutual
/-- `repr` of a value. -/
def Json.repr (printable : Char → Bool) : Json → String
  | .null => "None"
  | .bool b => if b then "True" else "False"
  | .int n => toString n
  | .float r => r
  | .str s => reprStr printable s
  | .arr xs => "[" ++ reprItems printable xs ++ "]"
  | .obj fs => "\x7b" ++ reprFields printable fs ++ "\x7d"

def reprItems (printable : Char → Bool) : List Json → String
  | [] => ""
  | [x] => x.repr printable
  | x :: y :: xs => x.repr printable ++ ", " ++ reprItems printable (y :: xs)

def reprFields (printable : Char → Bool) : List (String × Json) → String
  | [] => ""
  | [(k, v)] => reprStr printable k ++ ": " ++ v.repr printable
  | (k, v) :: f :: fs =>
    reprStr printable k ++ ": " ++ v.repr printable ++ ", " ++ reprFields printable (f :: fs)
end

/-- `str(value)`: a string is itself, anything else its `repr`. -/
def Json.toStr (T : Type) [Runtime T] : Json → String
  | .str s => s
  | v => v.repr (Runtime.isprintable T)

@[simp] theorem Json.toStr_str (T : Type) [Runtime T] (s : String) : (Json.str s).toStr T = s := rfl

/-! ## Subscripts, iteration and times -/

def Json.typeName : Json → String
  | .null => "NoneType"
  | .bool _ => "bool"
  | .int _ => "int"
  | .float _ => "float"
  | .str _ => "str"
  | .arr _ => "list"
  | .obj _ => "dict"

/-- `value[key]`, `key` a string. -/
def Json.subscript (v : Json) (key : String) : Except PyError Json :=
  match v with
  | .obj fs => match fs.lookup key with
    | some w => .ok w
    | none => .error (.keyError key)
  | .arr _ => .error (.typeError "list indices must be integers or slices, not str")
  | .str _ => .error (.typeError "string indices must be integers, not 'str'")
  | v => .error (.typeError s!"'{v.typeName}' object is not subscriptable")

/-- What `for x in value` takes `x` from. -/
def Json.iterate : Json → Except PyError (List Json)
  | .arr xs => .ok xs
  | .obj fs => .ok (fs.map fun f => .str f.1)
  | .str s => .ok (s.toList.map fun c => .str (String.ofList [c]))
  | v => .error (.typeError s!"'{v.typeName}' object is not iterable")

/-- `datetime.fromisoformat`, with its error. -/
def fromisoformat {T : Type} [Runtime T] (text : String) : Except PyError T :=
  (Runtime.fromisoformat text).mapError .valueError

/-- What `isoformat` writes is read back. -/
def IsoRoundTrip (T : Type) [Runtime T] : Prop :=
  ∀ t : T, Runtime.fromisoformat (Runtime.isoformat t) = .ok t

theorem fromisoformat_isoformat {T : Type} [Runtime T] (h : IsoRoundTrip T) (t : T) :
    fromisoformat (Runtime.isoformat t) = .ok t := by
  rw [fromisoformat, h t]
  rfl

/-- The times `Iso` that are well formed: what is read is what was written. -/
abbrev Utc := { t : Iso // Iso.fits t.text }

instance : Runtime Utc where
  isoformat t := t.val.text
  fromisoformat s :=
    if h : Iso.fits s then .ok ⟨⟨s⟩, h⟩ else .error s!"Invalid isoformat string: '{s}'"
  isprintable _ := true

instance : Casefold Utc := ⟨lowerAscii⟩

theorem utc_roundTrip : IsoRoundTrip Utc := by
  intro t
  simp only [Runtime.fromisoformat, Runtime.isoformat, t.property, dite_true]

/-! ## Dictionaries -/

namespace Dict

/-- `d.get(key)`. -/
def get? (d : Dict) (key : String) : Option Json := d.lookup key

/-- `d[key]`. -/
def item (d : Dict) (key : String) : Except PyError Json :=
  match d.get? key with
  | some v => .ok v
  | none => .error (.keyError key)

/-- `d.update(e)`: an old key keeps its place, a new one goes to the end. -/
def update (d e : Dict) : Dict :=
  d.map (fun f => (f.1, (e.get? f.1).getD f.2)) ++ e.filter fun f => (d.get? f.1).isNone

@[simp] theorem get?_cons (k key : String) (v : Json) (d : Dict) :
    get? ((k, v) :: d) key = if key = k then some v else get? d key := by
  unfold get?
  rw [List.lookup_cons]
  by_cases h : key = k
  · simp [h]
  · rw [beq_false_of_ne h, if_neg h]

@[simp] theorem get?_append (d e : Dict) (key : String) :
    get? (d ++ e) key = (get? d key).or (get? e key) := by
  simp [get?, List.lookup_append]

theorem get?_map (f : String → Json → Json) (d : Dict) (key : String) :
    get? (d.map fun p => (p.1, f p.1 p.2)) key = (get? d key).map (f key) := by
  induction d with
  | nil => rfl
  | cons p d ih =>
    obtain ⟨k, v⟩ := p
    simp only [List.map_cons, get?_cons, ih]
    by_cases h : key = k
    · rw [if_pos h, if_pos h, h]; rfl
    · rw [if_neg h, if_neg h]

theorem get?_filter {P : String → Bool} (e : Dict) {key : String} (h : P key = true) :
    get? (e.filter fun f => P f.1) key = get? e key := by
  induction e with
  | nil => rfl
  | cons p e ih =>
    obtain ⟨k, v⟩ := p
    by_cases hk : key = k
    · subst hk; simp [h]
    · by_cases hp : P k = true <;> simp [hp, hk, ih]

theorem get?_update (d e : Dict) (key : String) :
    get? (update d e) key = (get? e key).or (get? d key) := by
  rw [update, get?_append, get?_map (fun k v => (get? e k).getD v)]
  cases hd : get? d key with
  | some v => cases get? e key <;> rfl
  | none =>
    rw [get?_filter (P := fun k => (get? d k).isNone) e (by simp [hd])]
    cases get? e key <;> rfl

/-- The key and value that `dict(xs)` takes from the item at index `i`. A key
that is no string is dropped: no lookup of the code asks for one. -/
def pairOf (i : Nat) : Json → Except PyError (Option (String × Json))
  | .arr [k, v] => match k with
    | .str s => .ok (some (s, v))
    | .arr _ => .error (.typeError "unhashable type: 'list'")
    | .obj _ => .error (.typeError "unhashable type: 'dict'")
    | _ => .ok none
  | .arr xs => wrongLength xs.length
  | .obj [(k, _), (v, _)] => .ok (some (k, .str v))
  | .obj fs => wrongLength fs.length
  | .str s => match s.toList with
    | [k, v] => .ok (some (String.ofList [k], .str (String.ofList [v])))
    | cs => wrongLength cs.length
  | _ => .error
      (.typeError s!"cannot convert dictionary update sequence element #{i} to a sequence")
where
  wrongLength (n : Nat) : Except PyError (Option (String × Json)) :=
    .error (.valueError s!"dictionary update sequence element #{i} has length {n}; 2 is required")

def ofItems : Nat → Dict → List Json → Except PyError Dict
  | _, d, [] => .ok d
  | i, d, x :: xs => match pairOf i x with
    | .error e => .error e
    | .ok none => ofItems (i + 1) d xs
    | .ok (some f) => ofItems (i + 1) (update d [f]) xs

/-- `dict(value)`. -/
def ofValue : Json → Except PyError Dict
  | .obj fs => .ok fs
  | .arr xs => ofItems 0 [] xs
  | .str s => ofItems 0 [] (s.toList.map fun c => .str (String.ofList [c]))
  | .null => .error (.typeError "'NoneType' object is not iterable")
  | .bool _ => .error (.typeError "'bool' object is not iterable")
  | .int _ => .error (.typeError "'int' object is not iterable")
  | .float _ => .error (.typeError "'float' object is not iterable")

end Dict
end ServiceOrderOs.Py
