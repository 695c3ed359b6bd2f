import GridStore.Proofs.Calendar
import GridStore.Proofs.TimestampText

/-!
# How timestamps are spelled

A text spells a local time (`LocalTime.Spells`) field by field, in any of the spellings of the
separator, of the fraction and of the offset. The strict reader takes a text exactly if it spells a
local time that is one (`readStrict?_eq_some_iff`), as the instant of that time. What is written in
turn is the one canonical spelling of an instant (`LocalTime.Canonical`), so texts of one instant are
stored as one text (`Timestamp.column_range`).
-/

namespace GridStore

/-! ## Spellings -/

/-- A time on a local clock that is ahead of universal time by an offset in minutes. -/
structure LocalTime where
  date : Date
  hour : Nat
  minute : Nat
  /-- The second, 60 for a leap second. -/
  second : Nat
  nano : Nat
  offset : Int

namespace LocalTime

/-- The instant that a local time denotes. -/
def instant (l : LocalTime) : Instant where
  minute := l.date.dayNumber * 1440 + l.hour * 60 + l.minute - l.offset
  second := l.second
  nano := l.nano

/-- The timestamp at a local time, if the clock shows such a time. -/
def timestamp? (l : LocalTime) : Option Timestamp :=
  Timestamp.ofLocal? l.date l.hour l.minute l.second l.nano l.offset

theorem instant_timestamp? {l : LocalTime} {t : Timestamp} (h : l.timestamp? = some t) :
    t.instant = l.instant :=
  Timestamp.instant_ofLocal? h

end LocalTime

/-- Digits of a width that denote a number. -/
@[mk_iff]
structure IsField (width n : Nat) (ds : List Char) : Prop where
  length : ds.length = width
  digits : ∀ c ∈ ds, c.isDigit
  value : digitsValue ds = n

/-- The fraction of a second: nothing, or a point and digits, of which the first nine count. -/
def IsFraction (nano : Nat) (cs : List Char) : Prop :=
  cs = [] ∧ nano = 0 ∨ ∃ ds, cs = '.' :: ds ∧ ds ≠ [] ∧ (∀ c ∈ ds, c.isDigit) ∧
    digitsValue (ds.take 9) * 10 ^ (9 - (ds.take 9).length) = nano

/-- The fraction of a second in as few groups of three digits as it needs. -/
def IsShortFraction (nano : Nat) (cs : List Char) : Prop :=
  cs = [] ∧ nano = 0 ∨ ∃ ds, cs = '.' :: ds ∧ (ds.length = 3 ∨ ds.length = 6 ∨ ds.length = 9) ∧
    (∀ c ∈ ds, c.isDigit) ∧ digitsValue ds * 10 ^ (9 - ds.length) = nano ∧ digitsValue ds % 1000 ≠ 0

/-- The offset in minutes: `Z` in either case, or a sign, hours and minutes. -/
def IsOffset (offset : Int) (cs : List Char) : Prop :=
  (cs = ['Z'] ∨ cs = ['z']) ∧ offset = 0 ∨ ∃ sign hours minutes ds es,
    cs = sign :: (ds ++ ':' :: es) ∧ IsField 2 hours ds ∧ IsField 2 minutes es ∧ minutes < 60 ∧
      (sign = '+' ∧ offset = hours * 60 + minutes ∨
        (sign = '-' ∨ sign = '\u2212') ∧ offset = -(hours * 60 + minutes))

/-- An offset is told from the digits and the fraction before it. -/
theorem IsOffset.head?_eq {offset : Int} {cs : List Char} (h : IsOffset offset cs) :
    ∃ c ∈ ['Z', 'z', '+', '-', '\u2212'], cs.head? = some c := by
  rcases h with ⟨rfl | rfl, -⟩ | ⟨c, hours, minutes, ds, es, rfl, -, -, -, ⟨rfl, -⟩ | ⟨rfl | rfl, -⟩⟩
  all_goals exact ⟨_, by simp, rfl⟩

theorem IsOffset.noDigit {offset : Int} {cs : List Char} (h : IsOffset offset cs) : NoDigit cs := by
  obtain ⟨c, hc, hhead⟩ := h.head?_eq
  have hall : ∀ c ∈ ['Z', 'z', '+', '-', '\u2212'], c.isDigit = false := by simp
  intro d hd
  rw [hhead, Option.mem_some_iff] at hd
  exact hd ▸ hall c hc

theorem IsOffset.head?_ne {offset : Int} {cs : List Char} (h : IsOffset offset cs) :
    cs.head? ≠ some '.' := by
  obtain ⟨c, hc, hhead⟩ := h.head?_eq
  have hall : ∀ c ∈ ['Z', 'z', '+', '-', '\u2212'], c ≠ '.' := by simp
  rw [hhead]
  exact fun heq => hall c hc (Option.some.inj heq)

namespace LocalTime

/-- The text is the date and the time in digits, with what stands between them and after them. -/
def Written (l : LocalTime) (separator : Char) (fraction offset : List Char) (text : String) : Prop :=
  ∃ year month day hour minute second : List Char,
    text.toList = year ++ '-' :: (month ++ '-' :: (day ++ separator :: (hour ++ ':' ::
      (minute ++ ':' :: (second ++ (fraction ++ offset)))))) ∧
    (∃ n : Nat, IsField 4 n year ∧ l.date.year = n) ∧ IsField 2 l.date.month month ∧
    IsField 2 l.date.day day ∧ IsField 2 l.hour hour ∧ IsField 2 l.minute minute ∧
    IsField 2 l.second second

/-- The text spells the local time. -/
def Spells (l : LocalTime) (text : String) : Prop :=
  ∃ separator fraction offset, l.Written separator fraction offset text ∧
    (separator = 'T' ∨ separator = 't' ∨ separator = ' ') ∧ IsFraction l.nano fraction ∧
    IsOffset l.offset offset

/-- The text spells the local time in universal time, marked as an offset of zero, with a fraction in
as few groups of digits as it needs. -/
def Canonical (l : LocalTime) (text : String) : Prop :=
  l.offset = 0 ∧ ∃ fraction, l.Written 'T' fraction "+00:00".toList text ∧
    IsShortFraction l.nano fraction

end LocalTime

/-! ## Reading -/

theorem spanDigitsUpTo_eq {width : Nat} {cs ds rest : List Char}
    (h : spanDigitsUpTo width cs = (ds, rest)) :
    cs = ds ++ rest ∧ ds.length ≤ width ∧ ∀ c ∈ ds, c.isDigit := by
  induction width generalizing cs ds rest with
  | zero =>
    obtain ⟨rfl, rfl⟩ := Prod.mk.inj h
    exact ⟨rfl, Nat.le_refl _, List.forall_mem_nil _⟩
  | succ width ih =>
    cases cs with
    | nil =>
      obtain ⟨rfl, rfl⟩ := Prod.mk.inj h
      exact ⟨rfl, Nat.zero_le _, List.forall_mem_nil _⟩
    | cons c cs =>
      rw [spanDigitsUpTo] at h
      split at h
      · rename_i hc
        obtain ⟨rfl, rfl⟩ := Prod.mk.inj h
        obtain ⟨hcs, hlength, hdigits⟩ := ih rfl
        exact ⟨congrArg (c :: ·) hcs, Nat.succ_le_succ hlength, List.forall_mem_cons.2 ⟨hc, hdigits⟩⟩
      · obtain ⟨rfl, rfl⟩ := Prod.mk.inj h
        exact ⟨rfl, Nat.zero_le _, List.forall_mem_nil _⟩

namespace Timestamp

variable {cs rest : List Char}

theorem readNumber?_eq_some_iff {width n : Nat} :
    readNumber? width width cs = some (n, rest) ↔ ∃ ds, cs = ds ++ rest ∧ IsField width n ds := by
  constructor
  · intro h
    obtain ⟨hcs, hlength, hdigits⟩ :=
      spanDigitsUpTo_eq (Prod.mk.eta (p := spanDigitsUpTo width cs)).symm
    simp only [readNumber?] at h
    split at h
    · cases h
    · obtain ⟨hn, hrest⟩ := Prod.mk.inj (Option.some.inj h)
      rw [hrest] at hcs
      exact ⟨_, hcs, by omega, hdigits, hn⟩
  · rintro ⟨ds, rfl, hlength, hdigits, rfl⟩
    have hspan : spanDigitsUpTo ds.length (ds ++ rest) = (ds, rest) := spanDigitsUpTo_append hdigits
    rw [hlength] at hspan
    simp [readNumber?, hspan, hlength]

theorem readChar?_eq_some_iff {c : Char} : readChar? c cs = some rest ↔ cs = c :: rest := by
  cases cs with
  | nil => simp [readChar?]
  | cons d cs =>
    rw [readChar?]
    split
    · rename_i h
      simp [h]
    · rename_i h
      simp [h]

theorem readSeparator?_eq_some_iff : readSeparator? cs = some rest ↔
    ∃ c, cs = c :: rest ∧ (c = 'T' ∨ c = 't' ∨ c = ' ') := by
  cases cs with
  | nil => simp [readSeparator?]
  | cons d cs =>
    rw [readSeparator?]
    split
    · rename_i h
      simp [h, eq_comm]
    · rename_i h
      simp [h]

theorem fraction_of_readFraction? {nano : Nat} (h : readFraction? cs = some (nano, rest)) :
    ∃ fraction, cs = fraction ++ rest ∧ IsFraction nano fraction := by
  unfold readFraction? at h
  split at h
  · rename_i cs
    have hcs : cs = (spanDigits cs).1 ++ (spanDigits cs).2 := List.takeWhile_append_dropWhile.symm
    have hdigits : ∀ c ∈ (spanDigits cs).1, c.isDigit := fun c hc => List.mem_takeWhile_imp hc
    split at h
    · cases h
    · rename_i ds rest' hne hspan
      obtain ⟨hnano, rfl⟩ := Prod.mk.inj (Option.some.inj h)
      rw [hspan] at hcs hdigits
      exact ⟨'.' :: ds, congrArg _ hcs, .inr ⟨ds, rfl, fun hnil => hne hnil, hdigits, hnano⟩⟩
  · obtain ⟨rfl, rfl⟩ := Prod.mk.inj (Option.some.inj h)
    exact ⟨[], rfl, .inl ⟨rfl, rfl⟩⟩

theorem readFraction?_of_fraction {nano : Nat} {fraction : List Char} (h : IsFraction nano fraction)
    (hrest : NoDigit rest) (hdot : rest.head? ≠ some '.') :
    readFraction? (fraction ++ rest) = some (nano, rest) := by
  rcases h with ⟨rfl, rfl⟩ | ⟨ds, rfl, hne, hdigits, rfl⟩
  · cases rest with
    | nil => rfl
    | cons c rest =>
      have hc : c ≠ '.' := by simpa using hdot
      rw [List.nil_append, readFraction?]
      simpa using hc
  · have hspan := spanDigits_append hdigits hrest
    obtain ⟨d, ds, rfl⟩ := List.exists_cons_of_ne_nil hne
    rw [List.cons_append, readFraction?, hspan]
    rfl

theorem readSign?_eq_some_iff {sign : Int} : readSign? cs = some (sign, rest) ↔
    ∃ c, cs = c :: rest ∧ (c = '+' ∧ sign = 1 ∨ (c = '-' ∨ c = '\u2212') ∧ sign = -1) := by
  cases cs with
  | nil => simp [readSign?]
  | cons d cs =>
    rw [readSign?]
    constructor
    · intro h
      split at h
      · rename_i hplus
        obtain ⟨rfl, rfl⟩ := Prod.mk.inj (Option.some.inj h)
        exact ⟨d, rfl, .inl ⟨hplus, rfl⟩⟩
      · split at h
        · rename_i hminus
          obtain ⟨rfl, rfl⟩ := Prod.mk.inj (Option.some.inj h)
          exact ⟨d, rfl, .inr ⟨hminus, rfl⟩⟩
        · cases h
    · rintro ⟨c, hcs, hc⟩
      obtain ⟨rfl, rfl⟩ := List.cons.inj hcs
      rcases hc with ⟨rfl, rfl⟩ | ⟨hminus, rfl⟩
      · rfl
      · have hplus : d ≠ '+' := by rcases hminus with rfl | rfl <;> decide
        rw [if_neg hplus, if_pos hminus]

theorem isOffset_of_readOffset? {offset : Int}
    (h : readOffset? (readChar? ':') cs = some (offset, [])) : IsOffset offset cs := by
  unfold readOffset? at h
  split at h
  · obtain ⟨rfl, rfl⟩ := Prod.mk.inj (Option.some.inj h)
    exact .inl ⟨.inl rfl, rfl⟩
  · obtain ⟨rfl, rfl⟩ := Prod.mk.inj (Option.some.inj h)
    exact .inl ⟨.inr rfl, rfl⟩
  · simp only [Option.bind_eq_bind, Option.bind_eq_some_iff, Prod.exists] at h
    obtain ⟨sign, cs₁, hsign, hours, cs₂, hhours, cs₃, hcolon, minutes, rest, hminutes, h⟩ := h
    split at h
    · rename_i hlt
      obtain ⟨rfl, rfl⟩ := Prod.mk.inj (Option.some.inj h)
      obtain ⟨c, rfl, hc⟩ := readSign?_eq_some_iff.1 hsign
      obtain ⟨ds, rfl, hds⟩ := readNumber?_eq_some_iff.1 hhours
      obtain rfl := readChar?_eq_some_iff.1 hcolon
      obtain ⟨es, rfl, hes⟩ := readNumber?_eq_some_iff.1 hminutes
      refine .inr ⟨c, hours, minutes, ds, es, by rw [List.append_nil], hds, hes, hlt, ?_⟩
      rcases hc with ⟨rfl, rfl⟩ | ⟨hminus, rfl⟩
      · exact .inl ⟨rfl, one_mul _⟩
      · exact .inr ⟨hminus, neg_one_mul _⟩
    · cases h

theorem readOffset?_of_isOffset {offset : Int} (h : IsOffset offset cs) :
    readOffset? (readChar? ':') cs = some (offset, []) := by
  obtain ⟨rfl | rfl, rfl⟩ | ⟨c, hours, minutes, ds, es, rfl, hds, hes, hlt, hsign⟩ := h
  · rfl
  · rfl
  · have hread : ∃ sign : Int, readSign? (c :: (ds ++ ':' :: es)) = some (sign, ds ++ ':' :: es) ∧
        offset = sign * (hours * 60 + minutes) := by
      rcases hsign with ⟨hplus, rfl⟩ | ⟨hminus, rfl⟩
      · exact ⟨1, readSign?_eq_some_iff.2 ⟨c, rfl, .inl ⟨hplus, rfl⟩⟩, (one_mul _).symm⟩
      · exact ⟨-1, readSign?_eq_some_iff.2 ⟨c, rfl, .inr ⟨hminus, rfl⟩⟩, (neg_one_mul _).symm⟩
    obtain ⟨sign, hc, rfl⟩ := hread
    have hminutes : readNumber? 2 2 es = some (minutes, []) :=
      readNumber?_eq_some_iff.2 ⟨es, (List.append_nil es).symm, hes⟩
    -- a sign is neither of the letters that stand for no offset
    have hletter : c ≠ 'Z' ∧ c ≠ 'z' := by
      rcases hsign with ⟨rfl, -⟩ | ⟨rfl | rfl, -⟩ <;> decide
    rw [readOffset?.eq_3 _ _ (fun _ heq => hletter.1 (List.cons.inj heq).1)
      (fun _ heq => hletter.2 (List.cons.inj heq).1)]
    refine (bind_of_eq_some hc _).trans ?_
    refine (bind_of_eq_some (readNumber?_eq_some_iff.2 ⟨ds, rfl, hds⟩) _).trans ?_
    refine (bind_of_eq_some (readChar?_cons _ _) _).trans ?_
    refine (bind_of_eq_some hminutes _).trans ?_
    exact if_pos hlt

/-- A text is read as the local time that it spells. -/
theorem readStrict?_of_spells {text : String} {l : LocalTime} (h : l.Spells text) :
    readStrict? text = l.timestamp? := by
  obtain ⟨separator, fraction, offset, ⟨ys, os, ds, hs, ms, ss, htext, ⟨n, hyear, hn⟩, hmonth, hday,
    hhour, hminute, hsecond⟩, hseparator, hfraction, hoffset⟩ := h
  have readFraction := readFraction?_of_fraction hfraction hoffset.noDigit hoffset.head?_ne
  have hdate : Date.of? (n : Int) l.date.month l.date.day = some l.date := by
    rw [← hn, Date.of?_eq]
  have hnumber {width n : Nat} {ds rest : List Char} (hds : IsField width n ds) :
      readNumber? width width (ds ++ rest) = some (n, rest) :=
    readNumber?_eq_some_iff.2 ⟨ds, rfl, hds⟩
  rw [readStrict?, htext]
  refine (bind_of_eq_some (hnumber hyear) _).trans ?_
  refine (bind_of_eq_some (readChar?_cons _ _) _).trans ?_
  refine (bind_of_eq_some (hnumber hmonth) _).trans ?_
  refine (bind_of_eq_some (readChar?_cons _ _) _).trans ?_
  refine (bind_of_eq_some (hnumber hday) _).trans ?_
  refine (bind_of_eq_some (readSeparator?_eq_some_iff.2 ⟨separator, rfl, hseparator⟩) _).trans ?_
  refine (bind_of_eq_some (hnumber hhour) _).trans ?_
  refine (bind_of_eq_some (readChar?_cons _ _) _).trans ?_
  refine (bind_of_eq_some (hnumber hminute) _).trans ?_
  refine (bind_of_eq_some (readChar?_cons _ _) _).trans ?_
  refine (bind_of_eq_some (hnumber hsecond) _).trans ?_
  refine (bind_of_eq_some readFraction _).trans ?_
  refine (bind_of_eq_some (readOffset?_of_isOffset hoffset) _).trans ?_
  exact bind_of_eq_some hdate _

/-- The strict reader takes a text exactly if it spells a local time that a clock shows. -/
theorem readStrict?_eq_some_iff {text : String} {t : Timestamp} : readStrict? text = some t ↔
    ∃ l : LocalTime, l.Spells text ∧ l.timestamp? = some t := by
  constructor
  · intro h
    unfold readStrict? at h
    obtain ⟨⟨n, _⟩, readYear, h⟩ := Option.bind_eq_some_iff.1 h
    obtain ⟨_, readDash, h⟩ := Option.bind_eq_some_iff.1 h
    obtain ⟨⟨month, _⟩, readMonth, h⟩ := Option.bind_eq_some_iff.1 h
    obtain ⟨_, readDash', h⟩ := Option.bind_eq_some_iff.1 h
    obtain ⟨⟨day, _⟩, readDay, h⟩ := Option.bind_eq_some_iff.1 h
    obtain ⟨_, readSeparator, h⟩ := Option.bind_eq_some_iff.1 h
    obtain ⟨⟨hour, _⟩, readHour, h⟩ := Option.bind_eq_some_iff.1 h
    obtain ⟨_, readColon, h⟩ := Option.bind_eq_some_iff.1 h
    obtain ⟨⟨minute, _⟩, readMinute, h⟩ := Option.bind_eq_some_iff.1 h
    obtain ⟨_, readColon', h⟩ := Option.bind_eq_some_iff.1 h
    obtain ⟨⟨second, _⟩, readSecond, h⟩ := Option.bind_eq_some_iff.1 h
    obtain ⟨⟨nano, _⟩, readFraction, h⟩ := Option.bind_eq_some_iff.1 h
    obtain ⟨⟨offset, cs⟩, readOffset, h⟩ := Option.bind_eq_some_iff.1 h
    simp only at *
    split at h
    · rename_i hend
      obtain rfl := List.isEmpty_iff.1 hend
      obtain ⟨date, hdate, hlocal⟩ := Option.bind_eq_some_iff.1 h
      obtain ⟨hy, rfl, rfl⟩ := Date.of?_eq_some hdate
      -- what each reader took, from the last to the first
      have hoffset := isOffset_of_readOffset? readOffset
      obtain ⟨fraction, rfl, hfraction⟩ := fraction_of_readFraction? readFraction
      obtain ⟨ss, rfl, hsecond⟩ := readNumber?_eq_some_iff.1 readSecond
      obtain rfl := readChar?_eq_some_iff.1 readColon'
      obtain ⟨ms, rfl, hminute⟩ := readNumber?_eq_some_iff.1 readMinute
      obtain rfl := readChar?_eq_some_iff.1 readColon
      obtain ⟨hs, rfl, hhour⟩ := readNumber?_eq_some_iff.1 readHour
      obtain ⟨separator, rfl, hseparator⟩ := readSeparator?_eq_some_iff.1 readSeparator
      obtain ⟨ds, rfl, hday⟩ := readNumber?_eq_some_iff.1 readDay
      obtain rfl := readChar?_eq_some_iff.1 readDash'
      obtain ⟨os, rfl, hmonth⟩ := readNumber?_eq_some_iff.1 readMonth
      obtain rfl := readChar?_eq_some_iff.1 readDash
      obtain ⟨ys, htext, hyear⟩ := readNumber?_eq_some_iff.1 readYear
      exact ⟨⟨date, hour, minute, second, nano, offset⟩,
        ⟨separator, fraction, _, ⟨ys, os, ds, hs, ms, ss, htext, ⟨n, hyear, hy⟩, hmonth, hday, hhour,
          hminute, hsecond⟩, hseparator, hfraction, hoffset⟩, hlocal⟩
    · cases h
  · rintro ⟨l, hspells, h⟩
    exact (readStrict?_of_spells hspells).trans h

/-! ## Writing -/

theorem isField_paddedDigits {width n : Nat} (hwidth : 0 < width) (h : n < 10 ^ width) :
    IsField width n (paddedDigits width n) :=
  ⟨length_paddedDigits hwidth h, isDigit_of_mem_paddedDigits, digitsValue_paddedDigits width n⟩

theorem isShortFraction_writeFraction {nano : Nat} (h : nano < 1000000000) :
    IsShortFraction nano (writeFraction nano) := by
  have hwidth {width n : Nat} (hmem : width = 3 ∨ width = 6 ∨ width = 9) (hn : n < 10 ^ width)
      (hvalue : n * 10 ^ (9 - width) = nano) (hlast : n % 1000 ≠ 0) :
      IsShortFraction nano ('.' :: paddedDigits width n) := by
    have hfield : IsField width n (paddedDigits width n) := isField_paddedDigits (by omega) hn
    refine .inr ⟨_, rfl, by rwa [hfield.length], hfield.digits, ?_, by rwa [hfield.value]⟩
    rw [hfield.length, hfield.value, hvalue]
  unfold writeFraction
  split
  · rename_i hzero
    exact .inl ⟨rfl, hzero⟩
  · split
    · exact hwidth (by decide) (by omega) (by omega) (by omega)
    · split
      · exact hwidth (by decide) (by omega) (by omega) (by omega)
      · exact hwidth (by decide) (by omega) (by omega) (by omega)

/-- The local time of an instant on a clock of universal time. -/
def clock (t : Timestamp) : LocalTime where
  date := t.date
  hour := t.second / 3600
  minute := t.second / 60 % 60
  second := t.second % 60 + if 1000000000 ≤ t.nano then 1 else 0
  nano := if 1000000000 ≤ t.nano then t.nano - 1000000000 else t.nano
  offset := 0

theorem timestamp?_clock (t : Timestamp) : t.clock.timestamp? = some t :=
  t.ofLocal?_clock

/-- What is written is the canonical spelling. -/
theorem canonical_writeOffset {t : Timestamp} (hyear : 0 ≤ t.date.year ∧ t.date.year ≤ 9999) :
    t.clock.Canonical t.writeOffset := by
  have hsecond := t.second_lt
  have hnano := t.nano_lt
  have hmonth := t.date.month_mem
  have hclock : t.clock.hour < 100 ∧ t.clock.minute < 100 ∧ t.clock.second < 100 ∧
      t.clock.nano < 1000000000 := by
    simp only [clock]
    split <;> omega
  refine ⟨rfl, writeFraction t.clock.nano, ⟨paddedDigits 4 t.date.year.toNat,
    paddedDigits 2 t.date.month, paddedDigits 2 t.date.day, paddedDigits 2 t.clock.hour,
    paddedDigits 2 t.clock.minute, paddedDigits 2 t.clock.second, ?_,
    ⟨_, isField_paddedDigits (by decide) (by omega), (Int.toNat_of_nonneg hyear.1).symm⟩,
    isField_paddedDigits (by decide) (show t.date.month < 100 by omega),
    isField_paddedDigits (by decide) t.date.day_lt,
    isField_paddedDigits (by decide) hclock.1, isField_paddedDigits (by decide) hclock.2.1,
    isField_paddedDigits (by decide) hclock.2.2.1⟩, isShortFraction_writeFraction hclock.2.2.2⟩
  rw [writeOffset, writeLocal, writeYear, if_pos hyear, String.toList_ofList]
  simp only [List.append_assoc, List.cons_append]
  rfl

end Timestamp

/-! ## Columns -/

namespace ColumnCodec

theorem ofColumn_text_timestamp {text : String} {t : Timestamp} :
    ofColumn (.text text) = .ok t ↔ Timestamp.readStrict? text = some t :=
  readColumn_text_eq_ok_iff

end ColumnCodec

open ColumnCodec

/-- A timestamp is read back from its column exactly if its year has four digits, and otherwise what
was written is refused. A text that is taken spells a local time of the instant that it is taken as;
what is stored of that instant, if its year has four digits, is the canonical spelling and is read
back. So texts that spell one instant are stored as one text. -/
theorem Timestamp.column_range :
    (∀ t : Timestamp,
      (ofColumn (toColumn t) = .ok t ↔ 0 ≤ t.date.year ∧ t.date.year ≤ 9999) ∧
      (¬(0 ≤ t.date.year ∧ t.date.year ≤ 9999) → toColumn t = .text t.writeOffset ∧
        (ofColumn (toColumn t) : Except ColumnError Timestamp)
          = .error (.invalidValue t.writeOffset none))) ∧
    (∀ (text : String) (t : Timestamp), ofColumn (.text text) = .ok t →
      (∃ l : LocalTime, l.Spells text ∧ l.instant = t.instant) ∧
      (0 ≤ t.date.year ∧ t.date.year ≤ 9999 → ∃ (l : LocalTime) (stored : String),
        toColumn t = .text stored ∧ l.Canonical stored ∧ l.instant = t.instant ∧
        ofColumn (.text stored) = .ok t)) ∧
    ∀ (text text' : String) (t t' : Timestamp) (l l' : LocalTime),
      ofColumn (.text text) = .ok t → ofColumn (.text text') = .ok t' → l.Spells text →
      l'.Spells text' → l.instant = l'.instant → toColumn t = toColumn t' := by
  have hinstant {text : String} {t : Timestamp} {l : LocalTime} (h : ofColumn (.text text) = .ok t)
      (hl : l.Spells text) : t.instant = l.instant := by
    rw [ofColumn_text_timestamp, readStrict?_of_spells hl] at h
    exact LocalTime.instant_timestamp? h
  refine ⟨fun t => ?_, fun text t h => ⟨?_, fun hyear => ?_⟩,
    fun text text' t t' l l' h h' hl hl' heq => ?_⟩
  · rw [ofColumn_timestamp]
    split
    · rename_i hyear
      exact ⟨iff_of_true rfl hyear, fun hno => absurd hyear hno⟩
    · rename_i hyear
      exact ⟨iff_of_false (by simp) hyear, fun _ => ⟨rfl, rfl⟩⟩
  · obtain ⟨l, hl, -⟩ := readStrict?_eq_some_iff.1 (ofColumn_text_timestamp.1 h)
    exact ⟨l, hl, (hinstant h hl).symm⟩
  · have hback : ofColumn (toColumn t) = .ok t := (ofColumn_timestamp t).trans (if_pos hyear)
    exact ⟨t.clock, t.writeOffset, rfl, canonical_writeOffset hyear,
      (LocalTime.instant_timestamp? t.timestamp?_clock).symm, hback⟩
  · have hsame : t.instant = t'.instant := (hinstant h hl).trans (heq.trans (hinstant h' hl').symm)
    rw [instant_injective hsame]

/-- Half past eleven on New Year's Eve in one zone is half past midnight in another. -/
theorem Timestamp.column_range_new_year :
    let text := "2024-12-31T23:30:00-01:00"
    let text' := "2025-01-01t00:30:00.000Z"
    let l : LocalTime := ⟨⟨2024, 12, 31, by decide, by decide, by decide⟩, 23, 30, 0, 0, -60⟩
    let l' : LocalTime := ⟨⟨2025, 1, 1, by decide, by decide, by decide⟩, 0, 30, 0, 0, 0⟩
    ∃ t t' : Timestamp, ofColumn (.text text) = .ok t ∧ ofColumn (.text text') = .ok t' ∧
      l.Spells text ∧ l'.Spells text' ∧ l.instant = l'.instant ∧ toColumn t = toColumn t' ∧
      toColumn t = .text "2025-01-01T00:30:00+00:00" ∧ ofColumn (toColumn t) = .ok t := by
  intro text text' l l'
  have hl : l.Spells text := by
    refine ⟨'T', [], "-01:00".toList, ⟨"2024".toList, "12".toList, "31".toList, "23".toList,
      "30".toList, "00".toList, ?_, ⟨2024, ?_, rfl⟩, ?_⟩, .inl rfl, .inl ⟨rfl, rfl⟩,
      .inr ⟨'-', 1, 0, "01".toList, "00".toList, ?_⟩⟩
    all_goals simp [text, l, isField_iff, digitsValue]
  have hl' : l'.Spells text' := by
    refine ⟨'t', ".000".toList, ['Z'], ⟨"2025".toList, "01".toList, "01".toList, "00".toList,
      "30".toList, "00".toList, ?_, ⟨2025, ?_, rfl⟩, ?_⟩, .inr (.inl rfl),
      .inr ⟨"000".toList, ?_⟩, .inl ⟨.inl rfl, rfl⟩⟩
    all_goals simp [text', l', isField_iff, digitsValue]
  let t : Timestamp := ⟨l'.date, 1800, 0, by decide, by decide, by decide⟩
  have ht : ofColumn (.text text) = .ok t :=
    ofColumn_text_timestamp.2 ((readStrict?_of_spells hl).trans (by decide))
  have ht' : ofColumn (.text text') = .ok t :=
    ofColumn_text_timestamp.2 ((readStrict?_of_spells hl').trans (by decide))
  have hinstant : l.instant = l'.instant := by decide
  have hstored : toColumn t = .text "2025-01-01T00:30:00+00:00" :=
    congrArg ColumnValue.text (by decide +kernel)
  have hback : ofColumn (toColumn t) = .ok t :=
    (Timestamp.column_range.1 t).1.2 ⟨by decide, by decide⟩
  exact ⟨t, t, ht, ht', hl, hl', hinstant,
    Timestamp.column_range.2.2 text text' t t l l' ht ht' hl hl' hinstant, hstored, hback⟩

end GridStore
