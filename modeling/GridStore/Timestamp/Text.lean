import GridStore.Text.Blank
import GridStore.Text.Digits
import GridStore.Timestamp.Basic

/-!
# Timestamp text

A timestamp is written as date, `T`, time and the mark of universal time, with a fraction of 3, 6
or 9 digits where it has one, and a year outside 0 to 9999 with its sign.

There are two readers. `readStrict?` takes every field in its full width and nothing else.
`readLoose?` takes fields without leading zeros, signed years of any width, blanks before a field
and before the punctuation between fields, and more spellings of the offset.
-/

namespace GridStore.Timestamp

/-! ## Writing -/

/-- The text of a year: four digits, or a sign and at least four. -/
def writeYear (year : Int) : List Char :=
  if 0 ≤ year ∧ year ≤ 9999 then paddedDigits 4 year.toNat
  else (if year < 0 then '-' else '+') :: paddedDigits 4 year.natAbs

/-- The text of a fraction of a second: as many groups of three digits as it needs. -/
def writeFraction (nano : Nat) : List Char :=
  if nano = 0 then []
  else if nano % 1000000 = 0 then '.' :: paddedDigits 3 (nano / 1000000)
  else if nano % 1000 = 0 then '.' :: paddedDigits 6 (nano / 1000)
  else '.' :: paddedDigits 9 nano

/-- The text of the instant, before the mark of universal time. -/
def writeLocal (t : Timestamp) : List Char :=
  let leap := 1000000000 ≤ t.nano
  let second := t.second % 60 + if leap then 1 else 0
  let nano := if leap then t.nano - 1000000000 else t.nano
  writeYear t.date.year ++ '-' :: paddedDigits 2 t.date.month ++ '-' :: paddedDigits 2 t.date.day ++
    'T' :: paddedDigits 2 (t.second / 3600) ++ ':' :: paddedDigits 2 (t.second / 60 % 60) ++
    ':' :: paddedDigits 2 second ++ writeFraction nano

/-- The text of the instant, with universal time marked as an offset of zero. -/
def writeOffset (t : Timestamp) : String :=
  String.ofList (t.writeLocal ++ "+00:00".toList)

/-- The text of the instant, with universal time marked as `Z`. -/
def writeZ (t : Timestamp) : String :=
  String.ofList (t.writeLocal ++ ['Z'])

/-! ## Reading -/

/-- Reads at least `min` and at most `max` digits. -/
def readNumber? (min max : Nat) (cs : List Char) : Option (Nat × List Char) :=
  let (digits, rest) := spanDigitsUpTo max cs
  if digits.length < min then none else some (digitsValue digits, rest)

/-- Reads one character. -/
def readChar? (c : Char) : List Char → Option (List Char)
  | d :: rest => if d = c then some rest else none
  | [] => none

/-- Reads what stands between date and time. -/
def readSeparator? : List Char → Option (List Char)
  | c :: rest => if c = 'T' ∨ c = 't' ∨ c = ' ' then some rest else none
  | [] => none

/-- Reads an optional fraction of a second, as nanoseconds; digits past the ninth are dropped. -/
def readFraction? : List Char → Option (Nat × List Char)
  | '.' :: cs =>
    match spanDigits cs with
    | ([], _) => none
    | (digits, rest) =>
      let kept := digits.take 9
      some (digitsValue kept * Nat.pow 10 (9 - kept.length), rest)
  | cs => some (0, cs)

/-- Reads the sign of an offset: a plus, a hyphen or a minus sign. -/
def readSign? : List Char → Option (Int × List Char)
  | c :: rest =>
    if c = '+' then some (1, rest)
    else if c = '-' ∨ c = '\u2212' then some (-1, rest)
    else none
  | [] => none

/-- Reads an offset in minutes: `Z`, or a sign, two digits of hours, what stands between hours and
minutes, and two digits of minutes. -/
def readOffset? (between : List Char → Option (List Char)) : List Char → Option (Int × List Char)
  | 'Z' :: rest | 'z' :: rest => some (0, rest)
  | cs => do
    let (sign, cs) ← readSign? cs
    let (hours, cs) ← readNumber? 2 2 cs
    let cs ← between cs
    let (minutes, rest) ← readNumber? 2 2 cs
    if minutes < 60 then some (sign * (hours * 60 + minutes), rest) else none

/-- Reads a timestamp with every field in its full width. -/
def readStrict? (text : String) : Option Timestamp := do
  let (year, cs) ← readNumber? 4 4 text.toList
  let cs ← readChar? '-' cs
  let (month, cs) ← readNumber? 2 2 cs
  let cs ← readChar? '-' cs
  let (day, cs) ← readNumber? 2 2 cs
  let cs ← readSeparator? cs
  let (hour, cs) ← readNumber? 2 2 cs
  let cs ← readChar? ':' cs
  let (minute, cs) ← readNumber? 2 2 cs
  let cs ← readChar? ':' cs
  let (second, cs) ← readNumber? 2 2 cs
  let (nano, cs) ← readFraction? cs
  let (offset, cs) ← readOffset? (readChar? ':') cs
  if cs.isEmpty then
    ofLocal? (← Date.of? year month day) hour minute second nano offset
  else none

/-- Reads a year: up to four digits, or a sign and any number of them. -/
def readYear? (cs : List Char) : Option (Int × List Char) :=
  match trimLeft cs with
  | '-' :: cs => (readNumber? 1 cs.length cs).map fun (year, rest) => (-year, rest)
  | '+' :: cs => (readNumber? 1 cs.length cs).map fun (year, rest) => (year, rest)
  | cs => (readNumber? 1 4 cs).map fun (year, rest) => (year, rest)

/-- Reads a field of one or two digits. -/
def readField? (cs : List Char) : Option (Nat × List Char) :=
  readNumber? 1 2 (trimLeft cs)

/-- Reads the offset of a loosely written timestamp: also the letters `UTC` in either case, and
with any colons and blanks between hours and minutes. -/
def readLooseOffset? (cs : List Char) : Option (Int × List Char) :=
  if (cs.take 3).map Char.toUpper = ['U', 'T', 'C'] then some (0, cs.drop 3)
  else readOffset? (fun cs => some (cs.dropWhile fun c => c = ':' || isBlank c)) cs

/-- Reads a loosely written timestamp. -/
def readLoose? (text : String) : Option Timestamp := do
  let (year, cs) ← readYear? text.toList
  let cs ← readChar? '-' (trimLeft cs)
  let (month, cs) ← readField? cs
  let cs ← readChar? '-' (trimLeft cs)
  let (day, cs) ← readField? cs
  let cs ← readSeparator? cs
  let (hour, cs) ← readField? cs
  let cs ← readChar? ':' (trimLeft cs)
  let (minute, cs) ← readField? cs
  let cs ← readChar? ':' (trimLeft cs)
  let (second, cs) ← readField? cs
  let (nano, cs) ← readFraction? cs
  let (offset, cs) ← readLooseOffset? (trimLeft cs)
  if cs.all isBlank then
    ofLocal? (← Date.of? year month day) hour minute second nano offset
  else none

end GridStore.Timestamp
