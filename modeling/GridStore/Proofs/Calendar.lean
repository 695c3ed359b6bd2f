import Mathlib
import GridStore.Timestamp.Basic

/-!
# The calendar

Days are numbered through the Gregorian calendar (`Date.dayNumber`), and with that number an instant
is a minute, a second of it and a nanosecond (`Timestamp.instant`). The day after and the day before
have the next numbers, so a local time with its offset is read as the instant that it denotes
(`Timestamp.instant_ofLocal?`), across the borders of days, months and years and in leap seconds.
Different days have different numbers, so an instant has one timestamp
(`Timestamp.instant_injective`).
-/

namespace GridStore

/-! ## Days before a year and a month -/

/-- How many days a year has. -/
def daysInYear (year : Int) : Nat :=
  if isLeapYear year then 366 else 365

/-- The days from the first of year 1 to the first of a year: one more in each fourth year, but for
the centuries that are not fourth centuries. -/
def daysBeforeYear (year : Int) : Int :=
  365 * (year - 1) + (year - 1) / 4 - (year - 1) / 100 + (year - 1) / 400

/-- The days of a year before a month. -/
def daysBeforeMonth (year : Int) : Nat → Nat
  | 0 | 1 => 0
  | month + 2 => daysBeforeMonth year (month + 1) + daysInMonth year (month + 1)

theorem daysBeforeYear_succ (year : Int) :
    daysBeforeYear (year + 1) = daysBeforeYear year + daysInYear year := by
  unfold daysBeforeYear daysInYear isLeapYear
  simp only [Bool.and_eq_true, Bool.or_eq_true, decide_eq_true_eq]
  split <;> omega

theorem daysBeforeYear_mono {year year' : Int} (h : year < year') :
    daysBeforeYear year + daysInYear year ≤ daysBeforeYear year' := by
  rw [← daysBeforeYear_succ]
  unfold daysBeforeYear
  omega

theorem daysBeforeMonth_succ {year : Int} {month : Nat} (h : 1 ≤ month) :
    daysBeforeMonth year (month + 1) = daysBeforeMonth year month + daysInMonth year month := by
  obtain ⟨month, rfl⟩ := Nat.exists_eq_succ_of_ne_zero (Nat.one_le_iff_ne_zero.1 h)
  rfl

theorem daysBeforeMonth_mono {year : Int} {month month' : Nat} (h : 1 ≤ month) (hlt : month < month') :
    daysBeforeMonth year month + daysInMonth year month ≤ daysBeforeMonth year month' := by
  induction month', hlt using Nat.le_induction with
  | base => exact (daysBeforeMonth_succ h).ge
  | succ month' hle ih =>
    rw [daysBeforeMonth_succ (by omega)]
    omega

/-- December ends with the year. -/
theorem daysBeforeMonth_december (year : Int) : daysBeforeMonth year 12 + 31 = daysInYear year := by
  unfold daysInYear
  simp only [daysBeforeMonth, daysInMonth]
  split <;> rfl

namespace Date

/-! ## The number of a day -/

/-- The number of a day, the first of year 1 being day 1. -/
def dayNumber (d : Date) : Int :=
  daysBeforeYear d.year + daysBeforeMonth d.year d.month + d.day

theorem of?_eq_some {year : Int} {month day : Nat} {d : Date} (h : of? year month day = some d) :
    d.year = year ∧ d.month = month ∧ d.day = day := by
  unfold of? at h
  split at h
  · obtain rfl := Option.some.inj h
    exact ⟨rfl, rfl, rfl⟩
  · cases h

theorem dayNumber_of? {year : Int} {month day : Nat} {d : Date} (h : of? year month day = some d) :
    d.dayNumber = daysBeforeYear year + daysBeforeMonth year month + day := by
  obtain ⟨hyear, hmonth, hday⟩ := of?_eq_some h
  rw [dayNumber, hyear, hmonth, hday]

/-- The days of a year up to one of its days. -/
theorem dayOfYear_le (d : Date) : daysBeforeMonth d.year d.month + d.day ≤ daysInYear d.year := by
  have hmonth := d.month_mem
  have hday := d.day_mem
  have hdecember := daysBeforeMonth_december d.year
  rcases hmonth.2.eq_or_lt with heq | hlt
  · have hdays : daysInMonth d.year 12 = 31 := rfl
    rw [heq] at hday ⊢
    omega
  · have hmono := @daysBeforeMonth_mono d.year _ _ hmonth.1 hlt
    omega

theorem dayNumber_next? {d d' : Date} (h : d.next? = some d') : d'.dayNumber = d.dayNumber + 1 := by
  have hmonth := d.month_mem
  have hday := d.day_mem
  unfold next? at h
  split at h
  · rw [dayNumber_of? h, dayNumber]
    omega
  · have hlast : d.day = daysInMonth d.year d.month := by omega
    split at h
    · rw [dayNumber_of? h, dayNumber, daysBeforeMonth_succ hmonth.1, hlast]
      omega
    · have hdecember : d.month = 12 := by omega
      have hdays : daysInMonth d.year 12 = 31 := rfl
      have hyear := daysBeforeMonth_december d.year
      have hfirst : daysBeforeMonth (d.year + 1) 1 = 0 := rfl
      rw [dayNumber_of? h, dayNumber, daysBeforeYear_succ, hlast, hdecember, hdays, hfirst]
      omega

theorem dayNumber_previous? {d d' : Date} (h : d.previous? = some d') :
    d'.dayNumber = d.dayNumber - 1 := by
  have hmonth := d.month_mem
  have hday := d.day_mem
  unfold previous? at h
  split at h
  · rw [dayNumber_of? h, dayNumber]
    omega
  · have hfirst : d.day = 1 := by omega
    split at h
    · have hmonths := @daysBeforeMonth_succ d.year (d.month - 1) (by omega)
      rw [Nat.sub_add_cancel (by omega)] at hmonths
      rw [dayNumber_of? h, dayNumber, hmonths, hfirst]
      omega
    · have hjanuary : d.month = 1 := by omega
      have hyear := daysBeforeYear_succ (d.year - 1)
      have hdecember := daysBeforeMonth_december (d.year - 1)
      have hfirstMonth : daysBeforeMonth d.year 1 = 0 := rfl
      rw [Int.sub_add_cancel] at hyear
      rw [dayNumber_of? h, dayNumber, hyear, hfirst, hjanuary, hfirstMonth]
      omega

/-- Different days have different numbers. -/
theorem dayNumber_injective : Function.Injective dayNumber := by
  -- a day of an earlier year or month has a smaller number
  have hyear {d d' : Date} (hlt : d.year < d'.year) : d.dayNumber < d'.dayNumber := by
    have hmono := daysBeforeYear_mono hlt
    have hle := d.dayOfYear_le
    have hday := d'.day_mem
    unfold dayNumber
    omega
  have hmonth {d d' : Date} (heq : d.year = d'.year) (hlt : d.month < d'.month) :
      d.dayNumber < d'.dayNumber := by
    have hmono := @daysBeforeMonth_mono d.year _ _ d.month_mem.1 hlt
    have hle := d.day_mem
    have hday := d'.day_mem
    unfold dayNumber
    rw [← heq]
    omega
  intro d d' h
  have hy : d.year = d'.year := by
    rcases lt_trichotomy d.year d'.year with hlt | heq | hgt
    · exact absurd h (hyear hlt).ne
    · exact heq
    · exact absurd h (hyear hgt).ne'
  have hm : d.month = d'.month := by
    rcases lt_trichotomy d.month d'.month with hlt | heq | hgt
    · exact absurd h (hmonth hy hlt).ne
    · exact heq
    · exact absurd h (hmonth hy.symm hgt).ne'
  unfold dayNumber at h
  rw [hy, hm] at h
  exact Date.ext hy hm (by omega)

end Date

/-! ## Instants -/

/-- An instant of universal time: a minute, counted through all days, the second in it, 60 for a leap
second, and the nanosecond in that. -/
@[ext]
structure Instant where
  minute : Int
  second : Nat
  nano : Nat
deriving DecidableEq, Repr

namespace Timestamp

/-- The instant that a timestamp is. -/
def instant (t : Timestamp) : Instant where
  minute := t.date.dayNumber * 1440 + (t.second / 60 : Nat)
  second := t.second % 60 + if 1000000000 ≤ t.nano then 1 else 0
  nano := if 1000000000 ≤ t.nano then t.nano - 1000000000 else t.nano

/-- An instant has one timestamp. -/
theorem instant_injective : Function.Injective instant := by
  intro t t' h
  have hlt := t.second_lt
  have hlt' := t'.second_lt
  simp only [instant, Instant.mk.injEq] at h
  obtain ⟨hminute, hsecond, hnano⟩ := h
  have hday : t.date.dayNumber = t'.date.dayNumber := by omega
  -- the second after the fifty-ninth is a leap second and no other
  have hleap : 1000000000 ≤ t.nano ↔ 1000000000 ≤ t'.nano := by
    have hlast := t.leap
    have hlast' := t'.leap
    split_ifs at hsecond <;> omega
  have hs : t.second = t'.second := by
    split_ifs at hsecond <;> omega
  have hn : t.nano = t'.nano := by
    split_ifs at hnano <;> omega
  exact Timestamp.ext (Date.dayNumber_injective hday) hs hn

theorem of?_eq_some {date : Date} {second nano : Nat} {t : Timestamp}
    (h : of? date second nano = some t) : t.date = date ∧ t.second = second ∧ t.nano = nano := by
  unfold of? at h
  split at h
  · obtain rfl := Option.some.inj h
    exact ⟨rfl, rfl, rfl⟩
  · cases h

/-- Carrying a minute into the day before or after leaves the instant. -/
theorem carryDay?_eq_some {date date' : Date} {minute : Int} {minute' : Nat}
    (h : carryDay? date minute = some (date', minute')) (hlo : -1440 ≤ minute) :
    date'.dayNumber * 1440 + minute' = date.dayNumber * 1440 + minute := by
  unfold carryDay? at h
  split at h
  · obtain ⟨d, hd, heq⟩ := Option.map_eq_some_iff.1 h
    obtain ⟨rfl, rfl⟩ := Prod.mk.inj heq
    rw [Date.dayNumber_previous? hd]
    omega
  · split at h
    · obtain ⟨d, hd, heq⟩ := Option.map_eq_some_iff.1 h
      obtain ⟨rfl, rfl⟩ := Prod.mk.inj heq
      rw [Date.dayNumber_next? hd]
      omega
    · obtain ⟨rfl, rfl⟩ := Prod.mk.inj (Option.some.inj h)
      omega

/-- A local time is read as the instant that it denotes. -/
theorem instant_ofLocal? {date : Date} {hour minute second nano : Nat} {offset : Int} {t : Timestamp}
    (h : ofLocal? date hour minute second nano offset = some t) :
    t.instant = ⟨date.dayNumber * 1440 + hour * 60 + minute - offset, second, nano⟩ := by
  unfold ofLocal? at h
  split at h
  · rename_i hclock
    obtain ⟨⟨date', minute'⟩, hcarry, h⟩ := Option.bind_eq_some_iff.1 h
    have hminute := carryDay?_eq_some hcarry (by omega)
    simp only at h
    split at h
    · obtain ⟨rfl, hs, hn⟩ := of?_eq_some h
      rw [instant, hs, hn, if_pos (by omega), if_pos (by omega)]
      ext <;> simp only <;> omega
    · obtain ⟨rfl, hs, hn⟩ := of?_eq_some h
      rw [instant, hs, hn, if_neg (by omega), if_neg (by omega)]
      ext <;> simp only <;> omega
  · cases h

end Timestamp

end GridStore
