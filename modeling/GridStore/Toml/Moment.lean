import GridStore.Text.Digits
import GridStore.Timestamp.Basic
import GridStore.Toml.Basic

/-!
# Dates and times of a TOML document

A date, a time, or a date, a `T` or a space and a time, then with or without an offset. The day is
checked against the calendar; a time may have a leap second and any number of decimals.
-/

namespace GridStore.Toml

/-- Reads a number of exactly so many digits between two bounds. -/
def fixed? (width low high : Nat) (cs : List Char) : Option (Nat × List Char) :=
  let (ds, rest) := spanDigitsUpTo width cs
  if ds.length = width ∧ low ≤ digitsValue ds ∧ digitsValue ds ≤ high then
    some (digitsValue ds, rest)
  else none

/-- Reads a given character. -/
def mark? (c : Char) : List Char → Option (List Char)
  | d :: rest => if c = d then some rest else none
  | [] => none

/-- Reads a date. -/
def date? (cs : List Char) : Option (List Char) := do
  let (year, cs) ← fixed? 4 0 9999 cs
  let (month, cs) ← fixed? 2 1 12 (← mark? '-' cs)
  let (_, rest) ← fixed? 2 1 (daysInMonth year month) (← mark? '-' cs)
  some rest

/-- Reads the decimals of a second, if there are any. -/
def decimals (cs : List Char) : List Char :=
  match cs with
  | '.' :: ds =>
    match spanDigits ds with
    | ([], _) => cs
    | (_, rest) => rest
  | _ => cs

/-- Reads a time of the day. -/
def time? (cs : List Char) : Option (List Char) := do
  let (_, cs) ← fixed? 2 0 23 cs
  let (_, cs) ← fixed? 2 0 59 (← mark? ':' cs)
  let (_, cs) ← fixed? 2 0 60 (← mark? ':' cs)
  some (decimals cs)

/-- Reads an offset, if there is one; `none` where one begins and does not end. -/
def offset? : List Char → Option (List Char)
  | 'Z' :: rest | 'z' :: rest => some rest
  | '+' :: cs | '-' :: cs => do
    let (_, cs) ← fixed? 2 0 23 cs
    let (_, rest) ← fixed? 2 0 59 (← mark? ':' cs)
    some rest
  | cs => some cs

/-- Reads the time after a date, if there is one. -/
def timeOfDate? (cs : List Char) : Option (List Char) :=
  match cs with
  | 'T' :: time | 't' :: time | ' ' :: time =>
    match time? time with
    | some rest => offset? rest
    | none => some cs
  | _ => some cs

/-- Whether a date stands at the head of a text. -/
def startsDate (cs : List Char) : Bool :=
  let (ds, rest) := spanDigitsUpTo 4 cs
  ds.length = 4 && rest.head? = some '-'

/-- Whether a time stands at the head of a text. -/
def startsTime (cs : List Char) : Bool :=
  let (ds, rest) := spanDigitsUpTo 2 cs
  ds.length = 2 && rest.head? = some ':'

/-- Reads a date, a time or both. -/
def moment? (cs : List Char) : Option (List Char) :=
  if startsTime cs then time? cs else date? cs >>= timeOfDate?

end GridStore.Toml
