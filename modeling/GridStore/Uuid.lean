import GridStore.Text.Hex

/-!
# Uuids

A uuid is a number of 128 bits. It is written as 32 lower-case hexadecimal digits with hyphens
after the 8th, 12th, 16th and 20th, and read in digits of either case: without hyphens, with them,
with them between braces, or with them after `urn:uuid:`.
-/

namespace GridStore

/-- An identifier of 128 bits. -/
structure Uuid where
  bits : BitVec 128
deriving DecidableEq, Repr, Inhabited

namespace Uuid

/-- The uuid of zeros. -/
def nil : Uuid := ⟨0⟩

/-- Digits with hyphens after the 8th, 12th, 16th and 20th. -/
def hyphenate (digits : List Char) : List Char :=
  digits.take 8 ++ '-' :: (digits.drop 8).take 4 ++ '-' :: (digits.drop 12).take 4 ++
    '-' :: (digits.drop 16).take 4 ++ '-' :: digits.drop 20

/-- The digits of a hyphenated text, if its hyphens stand in the right places. -/
def unhyphenate? (cs : List Char) : Option (List Char) :=
  let digits := cs.filter (· ≠ '-')
  if digits.length = 32 ∧ hyphenate digits = cs then some digits else none

/-- The digits of a text in one of the four spellings. -/
def spelledDigits? (cs : List Char) : Option (List Char) :=
  match cs with
  | '{' :: rest => if rest.getLast? = some '}' then unhyphenate? rest.dropLast else none
  | cs =>
    if cs.length = 32 then some cs
    else if (cs.take 9).map Char.toLower = "urn:uuid:".toList then unhyphenate? (cs.drop 9)
    else unhyphenate? cs

/-- The text of a uuid. -/
def text (u : Uuid) : String :=
  String.ofList (hyphenate (hexDigits 32 u.bits.toNat))

/-- Reads a uuid. -/
def read? (s : String) : Option Uuid := do
  let digits ← spelledDigits? s.toList
  let n ← hexValue? digits
  some ⟨BitVec.ofNat 128 n⟩

/-- The uuid that chance makes of a number: all bits but those that say so are the number's. -/
def ofChance (n : Nat) : Uuid :=
  ⟨BitVec.ofNat 128 n &&& 0xffffffffffff0fff3fffffffffffffff#128 |||
    0x00000000000040008000000000000000#128⟩

end Uuid

end GridStore
