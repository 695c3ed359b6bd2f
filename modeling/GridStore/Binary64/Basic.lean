/-!
# Double-precision numbers

A finite number is a sign, a significand of at most 53 binary digits and a scale: its magnitude is
`significand <<< scale` times the least positive number. The scale is the least one for which 53
digits suffice, so every number has one form and equality of values of the type is equality of
bits; there is one NaN.

`==` is the comparison of numbers instead: NaN differs from itself and the two zeros agree.
-/

namespace GridStore

/-- A double-precision number with a single NaN. -/
inductive Binary64 where
  /-- The result that is no number. -/
  | nan
  /-- An infinity of either sign. -/
  | infinite (negative : Bool)
  /-- `significand <<< scale` times the least positive number, with its sign. -/
  | finite (negative : Bool) (significand : Nat) (scale : Nat)
      (significand_lt : significand < 0x20000000000000) (scale_le : scale ≤ 2045)
      (normal : scale = 0 ∨ 0x10000000000000 ≤ significand)
deriving DecidableEq, Repr

namespace Binary64

/-- The zero of a sign. -/
def zero (negative : Bool) : Binary64 :=
  .finite negative 0 0 (by decide) (by decide) (.inl rfl)

instance : Inhabited Binary64 := ⟨zero false⟩

/-- Whether the number is neither NaN nor an infinity. -/
def isFinite : Binary64 → Bool
  | .finite .. => true
  | _ => false

/-- The value of a finite number in units of the least positive one. -/
def units : Binary64 → Int
  | .finite negative significand scale .. =>
    if negative then -(significand <<< scale : Nat) else (significand <<< scale : Nat)
  | _ => 0

/-- Equality of numbers: NaN equals nothing, and the two zeros are equal. -/
def sameNumber : Binary64 → Binary64 → Bool
  | .infinite s, .infinite t => s == t
  | a@(.finite ..), b@(.finite ..) => a.units == b.units
  | _, _ => false

instance : BEq Binary64 := ⟨sameNumber⟩

/-! ## Bits -/

/-- The bits of the number; the one NaN is the quiet one with an empty payload. -/
def toBits : Binary64 → UInt64
  | .nan => 0x7ff8000000000000
  | .infinite negative => if negative then 0xfff0000000000000 else 0x7ff0000000000000
  | .finite negative significand scale .. =>
    UInt64.ofNat
      ((if negative then 0x8000000000000000 else 0) + (scale * 0x10000000000000 + significand))

theorem bits_fraction_lt (n : Nat) : n % 0x10000000000000 < 0x10000000000000 :=
  Nat.mod_lt _ (by decide)

/-- The number that the bits denote. -/
def ofBits (bits : UInt64) : Binary64 :=
  let negative := 0x8000000000000000 ≤ bits.toNat
  let field := bits.toNat / 0x10000000000000 % 0x800
  let fraction := bits.toNat % 0x10000000000000
  have fraction_lt : fraction < 0x10000000000000 := bits_fraction_lt _
  if _ : field = 0 then
    .finite negative fraction 0 (by omega) (by omega) (.inl rfl)
  else if _ : field ≤ 2046 then
    .finite negative (0x10000000000000 + fraction) (field - 1) (by omega) (by omega)
      (.inr (by omega))
  else if fraction = 0 then .infinite negative
  else .nan

/-! ## Rounding -/

/-- `num / den` to the nearest whole number, a half to the even one. -/
def roundHalfEven (num den : Nat) : Nat :=
  let quotient := num / den
  let remainder := num % den
  if 2 * remainder < den then quotient
  else if den < 2 * remainder then quotient + 1
  else quotient + quotient % 2

theorem roundHalfEven_le (num den : Nat) : roundHalfEven num den ≤ num / den + 1 := by
  simp only [roundHalfEven]
  split
  · omega
  · split <;> omega

theorem div_le_roundHalfEven (num den : Nat) : num / den ≤ roundHalfEven num den := by
  simp only [roundHalfEven]
  split
  · omega
  · split <;> omega

/-- The scale of a magnitude of `units` whole units: the least that leaves 53 binary digits. -/
def scaleOf (units : Nat) : Nat :=
  units.log2 - 52

theorem le_shiftRight_scaleOf {units : Nat} (h : scaleOf units ≠ 0) :
    0x10000000000000 ≤ units >>> scaleOf units := by
  have hunits : units ≠ 0 := by
    rintro rfl
    exact h rfl
  rw [Nat.shiftRight_eq_div_pow, Nat.le_div_iff_mul_le (Nat.two_pow_pos _)]
  calc _ = 2 ^ (52 + scaleOf units) := by rw [Nat.pow_add]
    _ = 2 ^ units.log2 := by
        congr 1
        simp only [scaleOf] at h ⊢
        omega
    _ ≤ units := Nat.log2_self_le hunits

theorem div_shiftLeft (num den scale : Nat) : num / (den <<< scale) = (num / den) >>> scale := by
  rw [Nat.shiftLeft_eq, Nat.shiftRight_eq_div_pow, Nat.div_div_eq_div_mul]

theorem le_roundHalfEven_scaleOf (num den : Nat) :
    scaleOf (num / den) = 0 ∨
      0x10000000000000 ≤ roundHalfEven num (den <<< scaleOf (num / den)) := by
  by_cases h : scaleOf (num / den) = 0
  · exact .inl h
  · refine .inr (Nat.le_trans (le_shiftRight_scaleOf h) ?_)
    rw [← div_shiftLeft]
    exact div_le_roundHalfEven ..

/-- The number nearest to `num / den` units, a tie going to the even significand; `none` where
that is beyond the largest finite number. -/
def ofUnits (negative : Bool) (num den : Nat) : Option Binary64 :=
  if rounded : roundHalfEven num (den <<< scaleOf (num / den)) < 0x20000000000000 then
    if fits : scaleOf (num / den) ≤ 2045 then
      some (.finite negative _ _ rounded fits (le_roundHalfEven_scaleOf num den))
    else none
  else if fits : scaleOf (num / den) + 1 ≤ 2045 then
    some (.finite negative 0x10000000000000 _ (by decide) fits (.inr (Nat.le_refl _)))
  else none

/-- How many of the least positive numbers make one. -/
def unitsPerOne : Nat := 1 <<< 1074

/-- The number nearest to `mantissa * 10 ^ exponent`; `none` where that is beyond the largest
finite number. The first two tests settle the exponents for which the power of ten would be
large: a value below half a unit is zero, and `2 ^ 1024` is beyond every finite number. -/
def ofDecimal (negative : Bool) (mantissa : Nat) : Int → Option Binary64
  | .ofNat exponent =>
    if mantissa = 0 then some (zero negative)
    else if 1024 ≤ mantissa.log2 + 3 * exponent then none
    else ofUnits negative (mantissa * Nat.pow 10 exponent * unitsPerOne) 1
  | .negSucc places =>
    if mantissa.log2 + 1076 ≤ 3 * (places + 1) then some (zero negative)
    else ofUnits negative (mantissa * unitsPerOne) (Nat.pow 10 (places + 1))

/-- The number nearest to an integer, infinite beyond the largest finite number. -/
def ofInt (n : Int) : Binary64 :=
  (ofUnits (n < 0) (n.natAbs * unitsPerOne) 1).getD (.infinite (n < 0))

end Binary64

end GridStore
