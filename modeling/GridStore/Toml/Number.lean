import GridStore.Json.Numeral
import GridStore.Text.Hex
import GridStore.Toml.Basic

/-!
# Numbers of a TOML document

Digits may be grouped by underscores, each between two digits. A whole number has a sign and no
leading zero, or no sign and a mark for its base; it fits 64 bits. A number with places or an
exponent denotes the nearest double, which must not be the positive infinity; infinities and the
number that is none are written as words.
-/

namespace GridStore.Toml

/-- Reads digits after a digit. -/
def moreDigits? (isDigit : Char → Bool) : List Char → Option (List Char × List Char)
  | [] => some ([], [])
  | ['_'] => none
  | '_' :: c :: cs =>
    if isDigit c then (moreDigits? isDigit cs).map fun (ds, rest) => (c :: ds, rest) else none
  | c :: cs =>
    if isDigit c then (moreDigits? isDigit cs).map fun (ds, rest) => (c :: ds, rest)
    else some ([], c :: cs)

/-- Reads digits, at least one. -/
def digits? (isDigit : Char → Bool) : List Char → Option (List Char × List Char)
  | [] => none
  | c :: cs =>
    if isDigit c then (moreDigits? isDigit cs).map fun (ds, rest) => (c :: ds, rest) else none

/-- Reads digits without a leading zero. -/
def wholeDigits? : List Char → Option (List Char × List Char)
  | '0' :: rest => some (['0'], rest)
  | cs => digits? Char.isDigit cs

/-- A whole number, if it fits 64 bits. -/
def integer? (n : Int) : Option Toml :=
  if -0x8000000000000000 ≤ n ∧ n < 0x8000000000000000 then some (.integer n) else none

/-- The value of digits in a base. -/
def valueIn (base : Nat) (digits : List Char) : Nat :=
  digits.foldl (fun n c => base * n + (hexDigitValue? c).getD 0) 0

/-- Reads a whole number after the mark for its base. -/
def based? (base : Nat) (cs : List Char) : Option (Toml × List Char) := do
  let (ds, rest) ← digits? (fun c => (hexDigitValue? c).any (· < base)) cs
  let v ← integer? (valueIn base ds)
  some (v, rest)

/-- Reads the exponent of a number after its mark. -/
def exponent? : List Char → Option (Int × List Char)
  | '-' :: cs => (digits? Char.isDigit cs).map fun (ds, rest) => (-(digitsValue ds : Int), rest)
  | '+' :: cs => (digits? Char.isDigit cs).map fun (ds, rest) => ((digitsValue ds : Int), rest)
  | cs => (digits? Char.isDigit cs).map fun (ds, rest) => ((digitsValue ds : Int), rest)

/-- The double that a numeral denotes, if it is not the positive infinity. -/
def double? (n : Numeral) : Option Toml :=
  if n.toBinary64 = .infinite false then none else some (.float n.toBinary64)

/-- Reads what follows the whole digits and the places of a number. -/
def scaled? (negative : Bool) (whole places cs : List Char) : Option (Toml × List Char) := do
  let (exponent, rest) ← match cs with
    | 'e' :: cs | 'E' :: cs => exponent? cs
    | cs => some (0, cs)
  let v ← double?
    { negative
      whole := false
      mantissa := digitsValue (whole ++ places)
      exponent := exponent - places.length }
  some (v, rest)

/-- Reads a number after its sign. -/
def unsigned? (negative : Bool) : List Char → Option (Toml × List Char)
  | 'i' :: 'n' :: 'f' :: rest => some (.float (.infinite negative), rest)
  | 'n' :: 'a' :: 'n' :: rest => some (.float .nan, rest)
  | cs => do
    let (whole, rest) ← wholeDigits? cs
    match rest with
    | '.' :: rest =>
      let (places, rest) ← digits? Char.isDigit rest
      scaled? negative whole places rest
    | 'e' :: _ | 'E' :: _ => scaled? negative whole [] rest
    | _ =>
      let v ← integer? (if negative then -digitsValue whole else digitsValue whole)
      some (v, rest)

/-- Reads a number. -/
def number? : List Char → Option (Toml × List Char)
  | '0' :: 'x' :: cs => based? 16 cs
  | '0' :: 'o' :: cs => based? 8 cs
  | '0' :: 'b' :: cs => based? 2 cs
  | '+' :: cs => unsigned? false cs
  | '-' :: cs => unsigned? true cs
  | cs => unsigned? false cs

end GridStore.Toml
