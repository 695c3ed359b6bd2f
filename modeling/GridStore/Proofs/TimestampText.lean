import GridStore.Column.Codec
import GridStore.Proofs.Digits

/-!
# Timestamps read back

All fields of a timestamp but the year and the fraction have one width, so each is read back before
the next (`readNumber?_paddedDigits`), and a fraction counts the nanoseconds whether it is written
with three digits, six or nine (`readFraction?_writeFraction`). The strict reader takes a year of four
digits and no sign: it reads an instant back if that is what the year is written with, and otherwise
nothing (`readStrict?_writeOffset`), and so does a column (`ColumnCodec.ofColumn_timestamp`). The loose
reader takes a year of any width with its sign, and reads every instant back (`readLoose?_writeZ`).
-/

namespace GridStore

theorem Date.of?_eq (d : Date) : of? d.year d.month d.day = some d :=
  dif_pos ⟨d.year_mem, d.month_mem, d.day_mem⟩

theorem Date.day_lt (d : Date) : d.day < 100 := by
  have hdays : daysInMonth d.year d.month ≤ 31 := by
    unfold daysInMonth
    split <;> (try split) <;> decide
  have hday := d.day_mem
  omega

namespace Timestamp

variable {rest : List Char}

theorem bind_of_eq_some {α β : Type} {x : Option α} {a : α} (h : x = some a) (f : α → Option β) :
    (x >>= f) = f a := by
  rw [h]
  rfl

/-! ## Fields -/

@[simp]
theorem readChar?_cons (c : Char) (rest : List Char) : readChar? c (c :: rest) = some rest :=
  if_pos rfl

theorem readNumber?_paddedDigits {width n : Nat} (hwidth : 0 < width) (h : n < 10 ^ width) :
    readNumber? width width (paddedDigits width n ++ rest) = some (n, rest) := by
  have hlength := length_paddedDigits hwidth h
  have hspan := @spanDigitsUpTo_append rest _ (@isDigit_of_mem_paddedDigits width n)
  rw [hlength] at hspan
  simp [readNumber?, hspan, hlength]

/-- A sign is not a number. -/
theorem readNumber?_cons_of_not_isDigit {c : Char} (hc : c.isDigit = false) {min max : Nat}
    (hmin : 0 < min) : readNumber? min max (c :: rest) = none := by
  have hspan : spanDigitsUpTo max (c :: rest) = ([], c :: rest) := by
    cases max <;> simp [spanDigitsUpTo, hc]
  simp [readNumber?, hspan, hmin]

theorem readFraction?_of_digits {ds : List Char} (hne : ds ≠ []) (hdigits : ∀ c ∈ ds, c.isDigit)
    (hlength : ds.length ≤ 9) (hrest : NoDigit rest) :
    readFraction? ('.' :: ds ++ rest) = some (digitsValue ds * 10 ^ (9 - ds.length), rest) := by
  have hspan := spanDigits_append hdigits hrest
  obtain ⟨d, ds, rfl⟩ := List.exists_cons_of_ne_nil hne
  rw [List.cons_append, readFraction?, hspan]
  dsimp only
  rw [List.take_of_length_le hlength]
  rfl

/-- A fraction of a second is read as the nanoseconds that it was written from. -/
theorem readFraction?_writeFraction {nano : Nat} (h : nano < 1000000000)
    (hrest : NoDigit rest) (hdot : rest.head? ≠ some '.') :
    readFraction? (writeFraction nano ++ rest) = some (nano, rest) := by
  have hwidth {width n : Nat} (hpos : 0 < width) (hle : width ≤ 9) (hn : n < 10 ^ width) :
      readFraction? ('.' :: paddedDigits width n ++ rest) = some (n * 10 ^ (9 - width), rest) := by
    have hlength := length_paddedDigits hpos hn
    have hne : paddedDigits width n ≠ [] := List.ne_nil_of_length_pos (by omega)
    rw [readFraction?_of_digits hne isDigit_of_mem_paddedDigits (by omega) hrest,
      digitsValue_paddedDigits, hlength]
  unfold writeFraction
  split
  · rename_i hzero
    cases rest with
    | nil => simp [readFraction?, hzero]
    | cons c rest =>
      have hc : c ≠ '.' := by simpa using hdot
      rw [List.nil_append, readFraction?, hzero]
      simpa using hc
  · split
    · rw [hwidth (by decide) (by decide) (by omega)]
      simp only [Option.some.injEq, Prod.mk.injEq, and_true]
      omega
    · split
      · rw [hwidth (by decide) (by decide) (by omega)]
        simp only [Option.some.injEq, Prod.mk.injEq, and_true]
        omega
      · rw [hwidth (by decide) (by decide) (by omega)]
        simp

/-! ## Instants -/

theorem of?_eq (t : Timestamp) : of? t.date t.second t.nano = some t :=
  dif_pos ⟨t.second_lt, t.nano_lt, t.leap⟩

theorem carryDay?_of_lt {date : Date} {minute : Nat} (h : minute < 1440) :
    carryDay? date minute = some (date, minute) := by
  rw [carryDay?, if_neg (by omega), if_neg (by omega), Int.toNat_natCast]

/-- The hour, minute and second of an instant, the second of a leap second being the sixtieth. -/
theorem ofLocal?_clock (t : Timestamp) :
    ofLocal? t.date (t.second / 3600) (t.second / 60 % 60)
      (t.second % 60 + if 1000000000 ≤ t.nano then 1 else 0)
      (if 1000000000 ≤ t.nano then t.nano - 1000000000 else t.nano) 0 = some t := by
  have hsecond := t.second_lt
  have hnano := t.nano_lt
  have hhour : t.second / 3600 < 24 := by omega
  have hminute : t.second / 60 % 60 < 60 := by omega
  have hcarry : carryDay? t.date ((t.second / 3600 : Nat) * 60 + (t.second / 60 % 60 : Nat) - 0)
      = some (t.date, t.second / 60) := by
    have hday : t.second / 60 < 1440 := by omega
    rw [← carryDay?_of_lt hday]
    congr 1
    omega
  rw [ofLocal?]
  by_cases hleap : 1000000000 ≤ t.nano
  · have hlast := t.leap hleap
    have hbounds : t.second % 60 + 1 ≤ 60 ∧ t.nano - 1000000000 < 1000000000 := by omega
    have hclock : t.second / 60 * 60 + 59 = t.second := by omega
    have hnano : t.nano - 1000000000 + 1000000000 = t.nano := by omega
    rw [if_pos hleap, if_pos hleap, if_pos ⟨hhour, hminute, hbounds.1, hbounds.2, by decide⟩, hcarry]
    simp only [Option.bind_eq_bind, Option.bind_some, hlast, if_true]
    rw [hclock, hnano, of?_eq]
  · have hclock : t.second / 60 * 60 + t.second % 60 = t.second := by omega
    rw [if_neg hleap, if_neg hleap, if_pos ⟨hhour, hminute, by omega, by omega, by decide⟩, hcarry]
    simp only [Option.bind_eq_bind, Option.bind_some, Nat.add_zero]
    rw [if_neg (by omega), hclock, of?_eq]

/-! ## The strict reader -/

/-- The text of an instant whose year has four digits, field by field. -/
theorem readStrict?_fields {d : Date} {hour minute second nano : Nat} (hyear : 0 ≤ d.year ∧ d.year ≤ 9999)
    (hhour : hour < 100) (hminute : minute < 100) (hsecond : second < 100) (hnano : nano < 1000000000) :
    readStrict? (String.ofList (writeYear d.year ++ '-' :: paddedDigits 2 d.month ++ '-' ::
      paddedDigits 2 d.day ++ 'T' :: paddedDigits 2 hour ++ ':' :: paddedDigits 2 minute ++ ':' ::
        paddedDigits 2 second ++ writeFraction nano ++ "+00:00".toList))
      = ofLocal? d hour minute second nano 0 := by
  have hmonth := d.month_mem
  have hdate : Date.of? (d.year.toNat : Int) d.month d.day = some d := by
    rw [Int.toNat_of_nonneg hyear.1, Date.of?_eq]
  have hfraction : readFraction? (writeFraction nano ++ "+00:00".toList)
      = some (nano, "+00:00".toList) :=
    readFraction?_writeFraction hnano (by simp [NoDigit]) (by decide)
  have hoffset : readOffset? (readChar? ':') "+00:00".toList = some (0, []) := by decide
  have hnumber {n : Nat} {rest : List Char} (hn : n < 100) :
      readNumber? 2 2 (paddedDigits 2 n ++ rest) = some (n, rest) :=
    readNumber?_paddedDigits (by decide) hn
  rw [readStrict?, String.toList_ofList, writeYear, if_pos hyear]
  simp only [List.append_assoc, List.cons_append]
  refine (bind_of_eq_some (readNumber?_paddedDigits (by decide) (by omega)) _).trans ?_
  refine (bind_of_eq_some (readChar?_cons _ _) _).trans ?_
  refine (bind_of_eq_some (hnumber (by omega)) _).trans ?_
  refine (bind_of_eq_some (readChar?_cons _ _) _).trans ?_
  refine (bind_of_eq_some (hnumber d.day_lt) _).trans ?_
  refine (bind_of_eq_some rfl _).trans ?_
  refine (bind_of_eq_some (hnumber hhour) _).trans ?_
  refine (bind_of_eq_some (readChar?_cons _ _) _).trans ?_
  refine (bind_of_eq_some (hnumber hminute) _).trans ?_
  refine (bind_of_eq_some (readChar?_cons _ _) _).trans ?_
  refine (bind_of_eq_some (hnumber hsecond) _).trans ?_
  refine (bind_of_eq_some hfraction _).trans ?_
  refine (bind_of_eq_some hoffset _).trans ?_
  exact bind_of_eq_some hdate _

/-- An instant is read back exactly if its year is written without a sign. -/
theorem readStrict?_writeOffset (t : Timestamp) :
    readStrict? t.writeOffset
      = if 0 ≤ t.date.year ∧ t.date.year ≤ 9999 then some t else none := by
  split
  · rename_i hyear
    have hsecond := t.second_lt
    have hnano := t.nano_lt
    have hhour : t.second / 3600 < 100 := by omega
    rw [← ofLocal?_clock t]
    refine readStrict?_fields hyear hhour (by omega) ?_ ?_
    · split <;> omega
    · split <;> omega
  · rename_i hyear
    rw [writeOffset, writeLocal, readStrict?, String.toList_ofList, writeYear, if_neg hyear]
    simp only [List.append_assoc, List.cons_append]
    rw [readNumber?_cons_of_not_isDigit _ (by decide)]
    · rfl
    · split <;> rfl

/-! ## The loose reader -/

theorem readNumber?_of_digits {min max : Nat} {ds : List Char} (hdigits : ∀ c ∈ ds, c.isDigit)
    (hmin : min ≤ ds.length) (hmax : ds.length ≤ max) (hrest : NoDigit rest) :
    readNumber? min max (ds ++ rest) = some (digitsValue ds, rest) := by
  simp only [readNumber?, spanDigitsUpTo_append_of_le hdigits hmax hrest]
  exact if_neg (Nat.not_lt.2 hmin)

theorem trimLeft_cons {c : Char} (hc : isBlank c = false) (cs : List Char) :
    trimLeft (c :: cs) = c :: cs := by
  simp [trimLeft, hc]

theorem trimLeft_digits {ds : List Char} (hdigits : ∀ c ∈ ds, c.isDigit) (hne : ds ≠ []) :
    trimLeft (ds ++ rest) = ds ++ rest := by
  obtain ⟨d, ds, rfl⟩ := List.exists_cons_of_ne_nil hne
  exact trimLeft_cons (isBlank_of_isDigit (hdigits d List.mem_cons_self)) _

theorem isDigit_of_append_eq_cons {ds cs : List Char} {c : Char} (hdigits : ∀ c ∈ ds, c.isDigit)
    (hne : ds ≠ []) (h : ds ++ rest = c :: cs) : c.isDigit := by
  obtain ⟨d, ds, rfl⟩ := List.exists_cons_of_ne_nil hne
  obtain ⟨rfl, -⟩ := List.cons.inj h
  exact hdigits d List.mem_cons_self

theorem readField?_paddedDigits {n : Nat} (h : n < 100) (hrest : NoDigit rest) :
    readField? (paddedDigits 2 n ++ rest) = some (n, rest) := by
  have hlength : (paddedDigits 2 n).length = 2 := length_paddedDigits (by decide) h
  have hne : paddedDigits 2 n ≠ [] := List.ne_nil_of_length_pos (by omega)
  rw [readField?, trimLeft_digits isDigit_of_mem_paddedDigits hne,
    readNumber?_of_digits isDigit_of_mem_paddedDigits (by omega) (by omega) hrest,
    digitsValue_paddedDigits]

/-- A year is read with its sign or without one. -/
theorem readYear?_writeYear (year : Int) (hrest : NoDigit rest) :
    readYear? (writeYear year ++ rest) = some (year, rest) := by
  have hsigned (n : Nat) : readNumber? 1 (paddedDigits 4 n ++ rest).length (paddedDigits 4 n ++ rest)
      = some (n, rest) := by
    have hlength : 4 ≤ (paddedDigits 4 n).length := by
      simp only [paddedDigits, List.length_append, List.length_replicate]
      omega
    rw [readNumber?_of_digits isDigit_of_mem_paddedDigits (by omega) (by simp) hrest,
      digitsValue_paddedDigits]
  unfold writeYear
  split
  · rename_i hyear
    have hlength : (paddedDigits 4 year.toNat).length = 4 := length_paddedDigits (by decide) (by omega)
    have hnumber : readNumber? 1 4 (paddedDigits 4 year.toNat ++ rest) = some (year.toNat, rest) := by
      rw [readNumber?_of_digits isDigit_of_mem_paddedDigits (by omega) (by omega) hrest,
        digitsValue_paddedDigits]
    have hne : paddedDigits 4 year.toNat ≠ [] := List.ne_nil_of_length_pos (by omega)
    rw [readYear?, trimLeft_digits isDigit_of_mem_paddedDigits hne]
    -- a digit is no sign
    split
    · rename_i heq
      exact absurd (isDigit_of_append_eq_cons isDigit_of_mem_paddedDigits hne heq) (by decide)
    · rename_i heq
      exact absurd (isDigit_of_append_eq_cons isDigit_of_mem_paddedDigits hne heq) (by decide)
    · rw [hnumber]
      simp [hyear.1]
  · split
    · rw [List.cons_append, readYear?, trimLeft_cons (by decide)]
      simp only [hsigned, Option.map_some, Option.some.injEq, Prod.mk.injEq, and_true]
      omega
    · rw [List.cons_append, readYear?, trimLeft_cons (by decide)]
      simp only [hsigned, Option.map_some, Option.some.injEq, Prod.mk.injEq, and_true]
      omega

/-- The text of an instant of any year, field by field. -/
theorem readLoose?_fields {d : Date} {hour minute second nano : Nat} (hhour : hour < 100)
    (hminute : minute < 100) (hsecond : second < 100) (hnano : nano < 1000000000) :
    readLoose? (String.ofList (writeYear d.year ++ '-' :: paddedDigits 2 d.month ++ '-' ::
      paddedDigits 2 d.day ++ 'T' :: paddedDigits 2 hour ++ ':' :: paddedDigits 2 minute ++ ':' ::
        paddedDigits 2 second ++ writeFraction nano ++ ['Z']))
      = ofLocal? d hour minute second nano 0 := by
  have hmonth := d.month_mem
  have hmark {c : Char} (hc : isBlank c = false) (cs : List Char) :
      readChar? c (trimLeft (c :: cs)) = some cs := by
    rw [trimLeft_cons hc, readChar?_cons]
  have hfraction : readFraction? (writeFraction nano ++ ['Z']) = some (nano, ['Z']) :=
    readFraction?_writeFraction hnano (by simp [NoDigit]) (by decide)
  have hoffset : readLooseOffset? (trimLeft ['Z']) = some (0, []) := by decide
  have hmark' {c : Char} (hc : c.isDigit = false) (cs : List Char) : NoDigit (c :: cs) := by
    simpa [NoDigit] using hc
  have hend : NoDigit (writeFraction nano ++ ['Z']) := by
    unfold writeFraction
    split_ifs <;> simp [NoDigit]
  rw [readLoose?, String.toList_ofList]
  simp only [List.append_assoc, List.cons_append]
  refine (bind_of_eq_some (readYear?_writeYear d.year (hmark' (by decide) _)) _).trans ?_
  refine (bind_of_eq_some (hmark (by decide) _) _).trans ?_
  refine (bind_of_eq_some (readField?_paddedDigits (by omega) (hmark' (by decide) _)) _).trans ?_
  refine (bind_of_eq_some (hmark (by decide) _) _).trans ?_
  refine (bind_of_eq_some (readField?_paddedDigits d.day_lt (hmark' (by decide) _)) _).trans ?_
  refine (bind_of_eq_some rfl _).trans ?_
  refine (bind_of_eq_some (readField?_paddedDigits hhour (hmark' (by decide) _)) _).trans ?_
  refine (bind_of_eq_some (hmark (by decide) _) _).trans ?_
  refine (bind_of_eq_some (readField?_paddedDigits hminute (hmark' (by decide) _)) _).trans ?_
  refine (bind_of_eq_some (hmark (by decide) _) _).trans ?_
  refine (bind_of_eq_some (readField?_paddedDigits hsecond hend) _).trans ?_
  refine (bind_of_eq_some hfraction _).trans ?_
  refine (bind_of_eq_some hoffset _).trans ?_
  exact bind_of_eq_some (Date.of?_eq d) _

/-- The loose reader takes the text of every instant. -/
theorem readLoose?_writeZ (t : Timestamp) : readLoose? t.writeZ = some t := by
  have hsecond := t.second_lt
  have hnano := t.nano_lt
  rw [← ofLocal?_clock t]
  refine readLoose?_fields (by omega) (by omega) ?_ ?_
  · split <;> omega
  · split <;> omega

end Timestamp

/-! ## Columns -/

namespace ColumnCodec

section ReadColumn

variable {α : Type} {reason : Option String} {read? : String → Option α} {s : String}

theorem readColumn_of_some {a : α} (h : read? s = some a) :
    readColumn reason read? (.text s) = .ok a := by
  simp only [readColumn, textOfColumn, bind, Except.bind, h]

theorem readColumn_of_none (h : read? s = none) :
    readColumn reason read? (.text s) = .error (.invalidValue s reason) := by
  simp only [readColumn, textOfColumn, bind, Except.bind, h]

theorem readColumn_text_eq_ok_iff {a : α} :
    readColumn reason read? (.text s) = .ok a ↔ read? s = some a := by
  cases h : read? s with
  | none => simp [readColumn_of_none h]
  | some b => simp [readColumn_of_some h]

end ReadColumn

/-- A timestamp is read back from its column if its year has four digits. -/
theorem ofColumn_timestamp (t : Timestamp) :
    (ofColumn (toColumn t) : Except ColumnError Timestamp)
      = if 0 ≤ t.date.year ∧ t.date.year ≤ 9999 then .ok t
        else .error (.invalidValue t.writeOffset none) := by
  have hread := t.readStrict?_writeOffset
  split
  · rename_i hyear
    exact readColumn_of_some (hread.trans (if_pos hyear))
  · rename_i hyear
    exact readColumn_of_none (hread.trans (if_neg hyear))

end ColumnCodec

end GridStore
