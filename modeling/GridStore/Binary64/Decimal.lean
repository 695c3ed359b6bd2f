import GridStore.Binary64.Basic

/-!
# Decimal text of double-precision numbers

`shortest` finds the fewest decimal digits that read back as a number, and among those the
nearest. The search walks the decimal grids of 1, 2, … 17 digits; on each it tries the two grid
points beside the number, since no other point of that grid is nearer. Every answer is checked by
reading it back, and the digits written out in full stand behind the search, so what is found
always reads back.

`write` lays the digits out: positionally while the first digit stands between `10 ^ (-5)` and
`10 ^ 15`, with at least one place after the point, and with a signed exponent otherwise.
-/

namespace GridStore

/-- The number `coefficient * 10 ^ exponent`. -/
structure Decimal where
  coefficient : Nat
  exponent : Int
deriving DecidableEq, Repr

namespace Binary64

/-- The magnitude of `units` in units of `10 ^ exponent`, as a quotient. -/
def inTens (units : Nat) : Int → Nat × Nat
  | .ofNat exponent => (units, unitsPerOne * Nat.pow 10 exponent)
  | .negSucc places => (units * Nat.pow 10 (places + 1), unitsPerOne)

/-- How many digits the magnitude of `units` has before the point; where it is below one, how
many zeros follow the point, counted negatively. As `10 ^ 324` units make more than one, the
magnitude moved by 324 places is at least one. -/
def pointPosition (units : Nat) : Int :=
  (Nat.toDigits 10 (units * Nat.pow 10 324 / unitsPerOne)).length - 324

/-- The point of the grid of `10 ^ exponent` that reads back as `x`: the nearer of the two beside
it where both do, and the even one where they are equally near. -/
def onGrid? (x : Binary64) (negative : Bool) (units : Nat) (exponent : Int) : Option Decimal :=
  let (num, den) := inTens units exponent
  let readsBack (coefficient : Nat) : Bool := ofDecimal negative coefficient exponent = some x
  let below := num / den
  if readsBack below then
    if readsBack (below + 1) then some ⟨roundHalfEven num den, exponent⟩ else some ⟨below, exponent⟩
  else if readsBack (below + 1) then some ⟨below + 1, exponent⟩
  else none

/-- All digits of the magnitude of `units`: `5 ^ 1074` units make `10 ^ 1074` halved 1074 times. -/
def allDigits (units : Nat) : Decimal :=
  ⟨units * Nat.pow 5 1074, -1074⟩

/-- The fewest digits that read back as the finite number `x`, of `units` units. -/
def shortest (x : Binary64) (negative : Bool) (units : Nat) : Decimal :=
  let position := pointPosition units
  let readBack := (List.range 17).findSome? fun (n : Nat) =>
    onGrid? x negative units (position - (n + 1 : Nat))
  readBack.getD (allDigits units)

/-- The layout of decimal digits as text. Zeros at the end of the digits are left out first; the
point stays where it was. -/
def layout (d : Decimal) : List Char :=
  let written := Nat.toDigits 10 d.coefficient
  let position := written.length + d.exponent
  let digits := (written.reverse.dropWhile (· = '0')).reverse
  if -5 < position ∧ position ≤ 16 then
    if position ≤ 0 then
      ['0', '.'] ++ List.replicate position.natAbs '0' ++ digits
    else
      let whole := position.toNat
      let places := digits.drop whole
      digits.take whole ++ List.replicate (whole - digits.length) '0' ++ ['.'] ++
        (if places.isEmpty then ['0'] else places)
  else
    let exponent := position - 1
    let places := digits.drop 1
    digits.take 1 ++ (if places.isEmpty then [] else '.' :: places) ++
      ['e', if exponent < 0 then '-' else '+'] ++ Nat.toDigits 10 exponent.natAbs

/-- The text of a number. The texts of NaN and the infinities are words that no reader of numbers
takes. -/
def write : Binary64 → List Char
  | .nan => "NaN".toList
  | .infinite negative => (if negative then ['-'] else []) ++ "Infinity".toList
  | x@(.finite negative significand scale ..) =>
    (if negative then ['-'] else []) ++
      if significand = 0 then "0.0".toList
      else layout (shortest x negative (significand <<< scale))

end Binary64

end GridStore
