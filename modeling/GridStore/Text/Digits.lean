/-!
# Decimal digits

Digits of fixed width, and reading digits at the head of a text.
-/

namespace GridStore

/-- The value of decimal digits. -/
def digitsValue (digits : List Char) : Nat :=
  digits.foldl (fun n c => 10 * n + (c.toNat - '0'.toNat)) 0

/-- The digits of a number, with zeros in front up to a width. -/
def paddedDigits (width n : Nat) : List Char :=
  let digits := Nat.toDigits 10 n
  List.replicate (width - digits.length) '0' ++ digits

/-- Splits off the digits at the head of a text. -/
def spanDigits (cs : List Char) : List Char × List Char :=
  (cs.takeWhile Char.isDigit, cs.dropWhile Char.isDigit)

/-- Splits off the digits at the head of a text, as many as there are up to a width. -/
def spanDigitsUpTo : Nat → List Char → List Char × List Char
  | width + 1, c :: cs =>
    if c.isDigit then
      let (digits, rest) := spanDigitsUpTo width cs
      (c :: digits, rest)
    else ([], c :: cs)
  | _, cs => ([], cs)

end GridStore
