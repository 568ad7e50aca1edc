import SoqlForm.Text.Blank

/-!
# Text: decimal numerals and their binary64 range

A value without a known type is written bare when it is a finite number.  A numeral is an optional
sign, digits with an optional fraction (one digit at least, before or after the point), and an
optional exponent.

* `Numeral`            the parts of a numeral;
* `Numeral.read?`      reads a text that is a numeral as a whole;
* `Numeral.isFinite`   whether the numeral, rounded to the nearest binary64 number, stays finite:
                       its magnitude is below `roundingLimit`, halfway between the greatest finite
                       number and the next power of two;
* `isBare`             the three keywords, and finite numerals with blanks around them.

The comparison is exact.  `order` bounds the magnitude by powers of ten, so a power is computed
only where the two bounds leave the answer open, and stays small there.
-/

namespace SoqlForm.Text

/-- the parts of a decimal numeral; the sign of the mantissa does not matter here -/
structure Numeral where
  whole : List Char
  fraction : List Char
  exponent : Int
  deriving Repr, DecidableEq

namespace Numeral

/-- a leading sign (true for minus) and the rest -/
def sign : List Char → Bool × List Char
  | '-' :: r => (true, r)
  | '+' :: r => (false, r)
  | r => (false, r)

def digitsValue (ds : List Char) : Nat := Nat.ofDigitChars 10 ds 0

/-- an exponent: an optional sign and one digit at least, up to the end -/
def readExponent? (cs : List Char) : Option Int :=
  let (negative, ds) := sign cs
  if ds.isEmpty || !ds.all Char.isDigit then none
  else some (if negative then -(digitsValue ds : Int) else digitsValue ds)

/-- the digits after a point, and what follows them; nothing when there is no point -/
def splitFraction : List Char → List Char × List Char
  | '.' :: r => (r.takeWhile Char.isDigit, r.dropWhile Char.isDigit)
  | r => ([], r)

/-- what may follow the mantissa: nothing, or an exponent -/
def readTail? : List Char → Option Int
  | [] => some 0
  | c :: r => if c = 'e' ∨ c = 'E' then readExponent? r else none

/-- reads a numeral that is the whole text -/
def read? (cs : List Char) : Option Numeral :=
  let unsigned := (sign cs).2
  let whole := unsigned.takeWhile Char.isDigit
  let (fraction, tail) := splitFraction (unsigned.dropWhile Char.isDigit)
  if whole.isEmpty && fraction.isEmpty then none
  else (readTail? tail).map fun exponent => { whole, fraction, exponent }

/-- half a unit above the greatest finite binary64 number -/
def roundingLimit : Nat := Nat.pow 2 1024 - Nat.pow 2 970

/-- the digits of the mantissa from the first that is not zero -/
def significant (n : Numeral) : List Char := (n.whole ++ n.fraction).dropWhile (· == '0')

/-- the power of ten by which the significant digits, as an integer, are scaled -/
def scale (n : Numeral) : Int := n.exponent - n.fraction.length

/-- a numeral that is not zero lies from `10 ^ (order - 1)` up to, not including, `10 ^ order` -/
def order (n : Numeral) : Int := n.significant.length + n.scale

/-- whether the magnitude is below `roundingLimit` -/
def isFinite (n : Numeral) : Bool :=
  if n.significant.isEmpty || n.order ≤ 308 then true
  else if 310 ≤ n.order then false
  else
    digitsValue n.significant * Nat.pow 10 n.scale.toNat <
      roundingLimit * Nat.pow 10 (-n.scale).toNat

end Numeral

/-- the words that are written bare, exactly as they stand -/
def bareWords : List String := ["true", "false", "null"]

/-- whether a value of unknown type is written without quotes -/
def isBare (cs : List Char) : Bool :=
  bareWords.any (·.toList == cs) ||
    match Numeral.read? (trim cs) with
    | some n => n.isFinite
    | none => false

end SoqlForm.Text
