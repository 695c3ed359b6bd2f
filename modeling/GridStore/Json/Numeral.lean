import GridStore.Json.Basic
import GridStore.Binary64.Decimal
import GridStore.Text.Digits

/-!
# JSON numerals

A numeral is an optional minus sign, whole digits without a leading zero, optional places and an
optional exponent. Digits alone denote a whole number as long as it fits 64 bits, signed or
unsigned; every other numeral denotes the nearest double, and none where that is infinite. `-0` is
the negative zero, since the whole zero has no sign.
-/

namespace GridStore

/-- The sign, places and exponent of a numeral, and what its digits denote without the point. -/
structure Numeral where
  negative : Bool
  /-- Whether the numeral is digits alone. -/
  whole : Bool
  mantissa : Nat
  exponent : Int

namespace Numeral

/-- The double nearest to a numeral, infinite beyond the largest finite one. -/
def toBinary64 (n : Numeral) : Binary64 :=
  (Binary64.ofDecimal n.negative n.mantissa n.exponent).getD (.infinite n.negative)

/-- What a numeral denotes. A double is read correctly rounded, as the one nearest to all of the digits;
a reader that is not made for round trips gives for some numerals the one beside it. -/
def value? (n : Numeral) : Option Number :=
  let signed : Int := if n.negative then -n.mantissa else n.mantissa
  if n.whole ∧ ¬(n.negative ∧ n.mantissa = 0) ∧ -0x8000000000000000 ≤ signed ∧
      signed < 0x10000000000000000 then
    some (.int signed)
  else
    (Binary64.ofDecimal n.negative n.mantissa n.exponent).map .float

/-- Reads whole digits: at least one, and none after a zero. -/
def readWhole? (cs : List Char) : Option (List Char × List Char) :=
  match spanDigits cs with
  | ([], _) => none
  | ('0' :: _ :: _, _) => none
  | (whole, rest) => some (whole, rest)

/-- Reads the places after the whole digits: none without a point, at least one after it. -/
def readPlaces? : List Char → Option (List Char × List Char)
  | '.' :: cs =>
    match spanDigits cs with
    | ([], _) => none
    | (places, rest) => some (places, rest)
  | cs => some ([], cs)

/-- Reads the digits of an exponent, at least one. -/
def readExponentDigits? (sign : Int) (cs : List Char) : Option (Option Int × List Char) :=
  match spanDigits cs with
  | ([], _) => none
  | (ds, rest) => some (some (sign * digitsValue ds), rest)

/-- Reads an optional exponent. -/
def readExponent? : List Char → Option (Option Int × List Char)
  | 'e' :: '+' :: cs | 'E' :: '+' :: cs => readExponentDigits? 1 cs
  | 'e' :: '-' :: cs | 'E' :: '-' :: cs => readExponentDigits? (-1) cs
  | 'e' :: cs | 'E' :: cs => readExponentDigits? 1 cs
  | cs => some (none, cs)

/-- Reads the numeral at the head of a text, after its sign. -/
def readUnsigned? (negative : Bool) (cs : List Char) : Option (Numeral × List Char) := do
  let (whole, cs) ← readWhole? cs
  let (places, cs) ← readPlaces? cs
  let (exponent, rest) ← readExponent? cs
  some (
    { negative
      whole := places.isEmpty && exponent.isNone
      mantissa := digitsValue (whole ++ places)
      exponent := exponent.getD 0 - places.length },
    rest)

/-- Reads the numeral at the head of a text. -/
def read? : List Char → Option (Numeral × List Char)
  | '-' :: cs => readUnsigned? true cs
  | cs => readUnsigned? false cs

end Numeral

/-- The text of a whole number. -/
def Number.writeInt (n : Int) : List Char :=
  if n < 0 then '-' :: Nat.toDigits 10 n.natAbs else Nat.toDigits 10 n.natAbs

/-- The text of a number. -/
def Number.write : Number → List Char
  | .int n => writeInt n
  | .float x => x.write

end GridStore
