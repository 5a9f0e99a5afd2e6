/-!
# Python strings

What the code uses of `str`. A Python string is read as its list of code
points; lone surrogates, which Lean's `Char` has no value for, are left out.
-/
namespace ServiceOrderOs.Py

/-- `str.isspace` on one character: the bidirectional types WS, B and S and
the category Zs. -/
def isspace (c : Char) : Bool :=
  let n := c.toNat
  decide (0x9 ≤ n ∧ n ≤ 0xd) || decide (0x1c ≤ n ∧ n ≤ 0x20) || n == 0x85 || n == 0xa0 ||
    n == 0x1680 || decide (0x2000 ≤ n ∧ n ≤ 0x200a) || n == 0x2028 || n == 0x2029 ||
    n == 0x202f || n == 0x205f || n == 0x3000

/-- `s.strip()`. -/
def strip (s : String) : String :=
  String.ofList ((s.toList.dropWhile isspace).reverse.dropWhile isspace).reverse

/-- The value of the decimal digits `cs` after the digits of `n`, single
underscores between them. -/
def digitsValue (n : Nat) : List Char → Option Nat
  | [] => some n
  | '_' :: c :: cs =>
    if c.isDigit then digitsValue (10 * n + (c.toNat - '0'.toNat)) cs else none
  | c :: cs => if c.isDigit then digitsValue (10 * n + (c.toNat - '0'.toNat)) cs else none

/-- What `int(s)` reads, digits in ASCII; `none` is its `ValueError`. -/
def parseInt (s : String) : Option Int :=
  match (strip s).toList with
  | [] => none
  | '-' :: c :: cs => if c.isDigit then (digitsValue 0 (c :: cs)).map fun n => -(n : Int) else none
  | '+' :: c :: cs => if c.isDigit then (digitsValue 0 (c :: cs)).map Int.ofNat else none
  | c :: cs => if c.isDigit then (digitsValue 0 (c :: cs)).map Int.ofNat else none

example : ["2020", " -7\n", "1_0", "", "1__0", "+"].map parseInt =
    [some 2020, some (-7), some 10, none, none, none] := by decide

/-- `str.casefold`, which asks Unicode tables; the results hold for any. -/
class Casefold (T : Type) where
  casefold : String → String

export Casefold (casefold)

/-- What `str.casefold` does with text in ASCII. -/
def lowerAscii (s : String) : String := String.ofList (s.toList.map Char.toLower)

end ServiceOrderOs.Py
