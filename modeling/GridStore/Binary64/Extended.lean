import GridStore.Binary64.Basic

/-!
# Magnitudes of 64 binary digits

A table computes the decimal digits of a real, and a real from decimal digits, on magnitudes that
have eleven binary digits more than a real. Moving the point multiplies by powers of ten in steps
of a hundred, ten and one places, and every product is rounded to the nearest such magnitude, a
half to the even one.
-/

namespace GridStore

/-- The magnitude `significand * 2 ^ exponent`. -/
structure Extended where
  significand : Nat
  exponent : Int
deriving DecidableEq, Repr

namespace Extended

/-- The magnitude of 64 binary digits nearest to `significand * 2 ^ exponent`. -/
def nearest (significand : Nat) (exponent : Int) : Extended :=
  let excess := significand.log2 - 63
  ⟨Binary64.roundHalfEven significand (1 <<< excess), exponent + excess⟩

/-- The product of magnitudes. -/
def mul (x y : Extended) : Extended :=
  nearest (x.significand * y.significand) (x.exponent + y.exponent)

/-- The magnitude nearest to `10 ^ places`. Where places are negative, the dividend is chosen so
that the quotient has 64 binary digits. -/
def powerOfTen : Int → Extended
  | .ofNat places => nearest (Nat.pow 10 places) 0
  | .negSucc places =>
    let power := Nat.pow 10 (places + 1)
    let shift := power.log2 + 64
    ⟨Binary64.roundHalfEven (1 <<< shift) power, -shift⟩

/-- Whether a magnitude is at most another. -/
def le (x y : Extended) : Bool :=
  let least := min x.exponent y.exponent
  x.significand <<< (x.exponent - least).toNat ≤ y.significand <<< (y.exponent - least).toNat

/-- The whole part of a magnitude. -/
def whole (x : Extended) : Nat :=
  match x.exponent with
  | .ofNat n => x.significand <<< n
  | .negSucc n => x.significand >>> (n + 1)

/-! ## Moving the point -/

/-- Multiplies by a power of ten, a number of times. -/
def moveTimes (count : Nat) (places : Int) (x : Extended) : Extended :=
  Nat.repeat (mul · (powerOfTen places)) count x

/-- Moves the point by any number of places. -/
def move (places : Int) (x : Extended) : Extended :=
  let count := places.natAbs
  x |> moveTimes (count / 100) (places.sign * 100)
    |> moveTimes (count % 100 / 10) (places.sign * 10)
    |> moveTimes (count % 10) places.sign

/-- Multiplies by a power of ten while a test holds, at most so often, and counts the places. -/
def moveWhile (test : Extended → Bool) (places : Int) :
    Nat → Extended × Int → Extended × Int
  | 0, moved => moved
  | n + 1, (x, total) =>
    if test x then moveWhile test places n (x.mul (powerOfTen places), total + places)
    else (x, total)

/-- No step is needed more often for a real: it has at most 309 digits before the point, and at
most 323 zeros follow the point. -/
def mostSteps : Nat := 16

/-- The first eighteen or nineteen digits of a positive real as a whole number, and the places by
which its point has to move to give the real again. -/
def leadingDigits (x : Extended) : Nat × Int :=
  let isAtLeast (places : Int) (y : Extended) : Bool := (powerOfTen places).le y
  let isBelow (places : Int) (y : Extended) : Bool := !isAtLeast places y
  let (y, total) :=
    if isAtLeast 19 x then
      (x, 0) |> moveWhile (isAtLeast 119) (-100) mostSteps
        |> moveWhile (isAtLeast 29) (-10) mostSteps
        |> moveWhile (isAtLeast 19) (-1) mostSteps
    else
      (x, 0) |> moveWhile (isBelow (-97)) 100 mostSteps
        |> moveWhile (isBelow 7) 10 mostSteps
        |> moveWhile (isBelow 17) 1 mostSteps
  (y.whole, -total)

/-! ## Reals -/

/-- The magnitude of a real from its significand and scale. -/
def ofReal (significand scale : Nat) : Extended :=
  ⟨significand, scale - 1074⟩

/-- The largest finite real. -/
def largest : Extended :=
  ofReal 0x1fffffffffffff 2045

/-- The real of a sign nearest to a magnitude, infinite above the largest finite one. -/
def toReal (negative : Bool) (x : Extended) : Binary64 :=
  let real := match x.exponent with
    | .ofNat n => Binary64.ofUnits negative ((x.significand <<< n) * Binary64.unitsPerOne) 1
    | .negSucc n => Binary64.ofUnits negative (x.significand * Binary64.unitsPerOne) (1 <<< (n + 1))
  if x.le largest then real.getD (.infinite negative) else .infinite negative

end Extended

end GridStore
