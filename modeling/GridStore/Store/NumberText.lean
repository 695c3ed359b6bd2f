import GridStore.Binary64.Extended
import GridStore.Json.Numeral

/-!
# Numbers as texts in a table

How a column of numbers reads a text and how a column of texts writes a real. A text is read as a
number where all of it is one, blanks at the ends aside; a real is written in at most fifteen
digits. Both are computed in magnitudes of 64 binary digits, so that a real that is read can be the
neighbour of the nearest one, and the last of fifteen digits can be one too many.
-/

namespace GridStore.NumberText

/-! ## Reading -/

/-- The blanks around a number. -/
def isNumberBlank (c : Char) : Bool :=
  c = ' ' || (0x09 ≤ c.toNat && c.toNat ≤ 0x0d)

/-- The sign at the head of a text, and the rest. -/
def splitSign : List Char → Bool × List Char
  | '-' :: cs => (true, cs)
  | '+' :: cs => (false, cs)
  | cs => (false, cs)

/-- The places at the head of a text, none without a point, and the rest. -/
def splitPlaces : List Char → Option (List Char) × List Char
  | '.' :: cs => (some (spanDigits cs).1, (spanDigits cs).2)
  | cs => (none, cs)

/-- An exponent of more than five digits counts as ten thousand. -/
def cappedExponent (exponent : Int) : Int :=
  if exponent.natAbs < 100000 then exponent else exponent.sign * 10000

/-- The numeral that makes up the whole of a text but for blanks at its ends. Digits have to stand
on at least one side of the point. -/
def read? (s : String) : Option Numeral := do
  let cs := ((s.toList.dropWhile isNumberBlank).reverse.dropWhile isNumberBlank).reverse
  let (negative, cs) := splitSign cs
  let (whole, cs) := spanDigits cs
  let (places, cs) := splitPlaces cs
  let digits := whole ++ places.getD []
  let (exponent, rest) ← Numeral.readExponent? cs
  if digits.isEmpty || !rest.isEmpty then
    none
  else
    some {
      negative
      whole := places.isNone && exponent.isNone
      mantissa := digitsValue digits
      exponent := cappedExponent (exponent.getD 0) - (places.getD []).length }

/-- Leaves out the digits at the end that 64 bits have no room for. -/
def withoutExcess (mantissa : Nat) (exponent : Int) : Nat × Int :=
  if 1844674407370955160 ≤ mantissa / 10 then withoutExcess (mantissa / 10) (exponent + 1)
  else (mantissa, exponent)
termination_by mantissa
decreasing_by omega

/-- Takes zeros from a positive exponent as long as there is room for another digit. -/
def withZeros : Nat → Nat → Nat × Nat
  | mantissa, 0 => (mantissa, 0)
  | mantissa, exponent + 1 =>
    if mantissa < 1844674407370955161 then withZeros (mantissa * 10) exponent
    else (mantissa, exponent + 1)

/-- Leaves zeros out at the end, at most as many as there are places. -/
def withoutZeros : Nat → Nat → Nat × Nat
  | mantissa, 0 => (mantissa, 0)
  | mantissa, places + 1 =>
    if mantissa % 10 = 0 then withoutZeros (mantissa / 10) places else (mantissa, places + 1)

/-- Whole digits of at most 64 bits and an exponent, as near to zero as they allow. -/
def normalized (mantissa : Nat) (exponent : Int) : Nat × Int :=
  match withoutExcess mantissa exponent with
  | (mantissa, .ofNat n) =>
    let (mantissa, exponent) := withZeros mantissa n
    (mantissa, exponent)
  | (mantissa, .negSucc n) =>
    let (mantissa, places) := withoutZeros mantissa (n + 1)
    (mantissa, -places)

/-- The real that a numeral makes. -/
def toReal (n : Numeral) : Binary64 :=
  let (mantissa, exponent) := normalized n.mantissa n.exponent
  if n.mantissa = 0 then Binary64.zero n.negative
  else ((⟨mantissa, 0⟩ : Extended).move exponent).toReal n.negative

/-! ## Writing -/

/-- The digits of a positive real rounded to fifteen, without zeros at the end, and the exponent of
the first. The sixteenth digit alone decides. -/
def fifteenDigits (x : Extended) : List Char × Int :=
  let (whole, exponent) := x.leadingDigits
  let count := (Nat.toDigits 10 whole).length
  let digits := Nat.toDigits 10 ((whole / Nat.pow 10 (count - 16) + 5) / 10)
  -- rounding up may have made a digit more
  let first := exponent + count - 1 + (digits.length - 15 : Nat)
  ((digits.reverse.dropWhile (· = '0')).reverse, first)

/-- Places after the point, at least one. -/
def atLeastOnePlace (places : List Char) : List Char :=
  if places.isEmpty then ['0'] else places

/-- A positive real in at most fifteen digits: positionally where the exponent of the first is
between -4 and 14, and otherwise with an exponent of at least two digits. -/
def layoutReal (x : Extended) : List Char :=
  let (digits, exponent) := fifteenDigits x
  if exponent < -4 ∨ 14 < exponent then
    digits.take 1 ++ '.' :: atLeastOnePlace (digits.drop 1) ++
      ['e', if exponent < 0 then '-' else '+'] ++ paddedDigits 2 exponent.natAbs
  else if exponent < 0 then
    '0' :: '.' :: List.replicate (exponent.natAbs - 1) '0' ++ digits
  else
    let whole := exponent.toNat + 1
    digits.take whole ++ List.replicate (whole - digits.length) '0' ++
      '.' :: atLeastOnePlace (digits.drop whole)

/-- The text of a real. -/
def write : Binary64 → String
  | .nan => ""
  | .infinite negative => if negative then "-Inf" else "Inf"
  | .finite negative significand scale .. =>
    if significand = 0 then "0.0"
    else String.ofList ((if negative then ['-'] else []) ++ layoutReal (.ofReal significand scale))

end GridStore.NumberText
