import GridStore.Column.Basic
import GridStore.Json.Printer
import GridStore.Store.NumberText

/-!
# Cells

What a table holds in a column of a row. A value is bound as null, an integer, a real or a text,
JSON being bound as its text; the column then converts it as its affinity asks: texts that are
numbers become numbers in a column of numbers, and numbers become texts in a column of texts. What
a mapping writes is of the column's own kind already, so only the zero of a real loses something,
its sign.
-/

namespace GridStore

/-- What a table holds in a column of a row. -/
inductive Cell where
  | null
  | integer (n : Int64)
  | real (x : Binary64)
  | text (s : String)
deriving DecidableEq, Repr, Inhabited

/-- What a column converts values to. -/
inductive Affinity where
  | text
  | numeric
  | real
deriving DecidableEq, Repr

/-- The affinity of a column. -/
def ColumnType.affinity : ColumnType → Affinity
  | .boolean | .integer => .numeric
  | .real => .real
  | .text | .list | .json => .text

namespace Cell

/-- How a value is bound. NaN is bound as null. -/
def ofColumnValue : ColumnValue → Cell
  | .null => .null
  | .boolean b => .integer (if b then 1 else 0)
  | .integer n => .integer n
  | .real x => if x = .nan then .null else .real x
  | .text s => .text s
  | .json v => .text v.render

/-! ## Conversion -/

/-- The integer within a bound that a real is, if it is one. -/
def integerOfReal? (x : Binary64) : Option Int64 :=
  let n := x.units / (Binary64.unitsPerOne : Int)
  if x.isFinite ∧ x.units = n * Binary64.unitsPerOne ∧ Int64.minValue.toInt < n ∧
      n < Int64.maxValue.toInt then
    some (.ofInt n)
  else none

/-- A real as an integer if it is one. -/
def ofReal (x : Binary64) : Cell :=
  match integerOfReal? x with
  | some n => .integer n
  | none => .real x

/-- A text as a number if it is one. Digits alone make an integer if it has 64 bits. -/
def numberOfText (s : String) : Cell :=
  match NumberText.read? s with
  | none => .text s
  | some numeral =>
    let n : Int := if numeral.negative then -numeral.mantissa else numeral.mantissa
    if numeral.whole ∧ Int64.minValue.toInt ≤ n ∧ n ≤ Int64.maxValue.toInt then .integer (.ofInt n)
    else ofReal (NumberText.toReal numeral)

/-- A number as a real. The zeros are one. -/
def toReal : Cell → Cell
  | .integer n => .real (.ofInt n.toInt)
  | .real x => .real (if x == Binary64.zero false then Binary64.zero false else x)
  | cell => cell

/-- What a column of an affinity makes of a bound value. -/
def convert : Affinity → Cell → Cell
  | _, .null => .null
  | .text, .integer n => .text (toString n.toInt)
  | .text, .real x => .text (NumberText.write x)
  | .text, .text s => .text s
  | .numeric, .integer n => .integer n
  | .numeric, .real x => ofReal x
  | .numeric, .text s => numberOfText s
  | .real, .text s => (numberOfText s).toReal
  | .real, cell => cell.toReal

/-- What a column of a type holds of a value. -/
def store (type : ColumnType) (v : ColumnValue) : Cell :=
  convert type.affinity (ofColumnValue v)

/-! ## Order -/

/-- The value of a number in units of the least positive real. -/
def numberUnits : Cell → Int
  | .integer n => n.toInt * Binary64.unitsPerOne
  | .real x => x.units
  | _ => 0

/-- The order of cells: nulls, then numbers by value, then texts by character. -/
def le : Cell → Cell → Bool
  | .null, _ => true
  | _, .null => false
  | .text s, .text t => decide (s ≤ t)
  | .text _, _ => false
  | _, .text _ => true
  | .integer m, .integer n => decide (m ≤ n)
  | .real (.infinite negative), _ => negative
  | _, .real (.infinite negative) => !negative
  | a, b => decide (a.numberUnits ≤ b.numberUnits)

end Cell

end GridStore
