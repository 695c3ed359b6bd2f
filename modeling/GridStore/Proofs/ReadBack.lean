import GridStore.Proofs.Digits
import GridStore.Binary64.Decimal
import GridStore.Json.Numeral

/-!
# Doubles read back from their text

The double nearest to a decimal depends on the decimal's value alone: a zero more at the end of the
digits and a place less in the exponent change nothing (`ofDecimal_mul_pow`). The digits that
`shortest` finds denote a number to which the double is nearest (`ofDecimal_shortest`), and the
layout of digits is a numeral of the same value, so the text of a finite double is read as that
double, whatever follows it (`read?_write`).
-/

namespace GridStore

namespace Binary64

/-! ## Rounding a quotient -/

theorem roundHalfEven_mul {c : Nat} (hc : 0 < c) (num den : Nat) :
    roundHalfEven (c * num) (c * den) = roundHalfEven num den := by
  have h1 : 2 * (c * (num % den)) < c * den ↔ 2 * (num % den) < den := by
    rw [Nat.mul_left_comm, Nat.mul_lt_mul_left hc]
  have h2 : c * den < 2 * (c * (num % den)) ↔ den < 2 * (num % den) := by
    rw [Nat.mul_left_comm, Nat.mul_lt_mul_left hc]
  simp only [roundHalfEven, Nat.mul_div_mul_left _ _ hc, Nat.mul_mod_mul_left, h1, h2]

theorem roundHalfEven_mul_self {n den : Nat} (hd : 0 < den) : roundHalfEven (n * den) den = n := by
  simp [roundHalfEven, hd]

theorem roundHalfEven_eq_zero {num den : Nat} (h : 2 * num < den) : roundHalfEven num den = 0 := by
  have hlt : num < den := by omega
  simp [roundHalfEven, Nat.mod_eq_of_lt hlt, Nat.div_eq_of_lt hlt, h]

/-- What the scale and the rounded quotient make of a quotient. -/
theorem ofUnits_eq {num den scale rounded : Nat} (hs : scaleOf (num / den) = scale)
    (hr : roundHalfEven num (den <<< scale) = rounded) (negative : Bool) :
    ofUnits negative num den =
      if h : rounded < 0x20000000000000 then
        if fits : scale ≤ 2045 then
          some (.finite negative rounded scale h fits (by
            subst hs hr
            exact le_roundHalfEven_scaleOf num den))
        else none
      else if fits : scale + 1 ≤ 2045 then
        some (.finite negative 0x10000000000000 (scale + 1) (by decide) fits
          (.inr (Nat.le_refl _)))
      else none := by
  subst hs hr
  rfl

/-- The nearest double depends on the quotient alone. -/
theorem ofUnits_mul {c : Nat} (hc : 0 < c) (negative : Bool) (num den : Nat) :
    ofUnits negative (c * num) (c * den) = ofUnits negative num den := by
  have hs : scaleOf (c * num / (c * den)) = scaleOf (num / den) := by
    rw [Nat.mul_div_mul_left _ _ hc]
  have hr : roundHalfEven (c * num) ((c * den) <<< scaleOf (num / den))
      = roundHalfEven num (den <<< scaleOf (num / den)) := by
    rw [Nat.shiftLeft_eq, Nat.mul_assoc, roundHalfEven_mul hc, Nat.shiftLeft_eq]
  rw [ofUnits_eq hs hr, ofUnits_eq rfl rfl]

theorem ofUnits_eq_none {num den : Nat} (h : 2046 ≤ scaleOf (num / den)) (negative : Bool) :
    ofUnits negative num den = none := by
  unfold ofUnits
  split_ifs <;> first | rfl | omega

theorem ofUnits_eq_zero {num den : Nat} (h : 2 * num < den) (negative : Bool) :
    ofUnits negative num den = some (zero negative) := by
  have hs : scaleOf (num / den) = 0 := by
    rw [Nat.div_eq_of_lt (by omega)]
    rfl
  rw [ofUnits_eq hs (roundHalfEven_eq_zero h)]
  rfl

theorem scaleOf_shiftLeft {significand scale : Nat} (hlt : significand < 0x20000000000000)
    (hn : scale = 0 ∨ 0x10000000000000 ≤ significand) : scaleOf (significand <<< scale) = scale := by
  rcases hn with rfl | hn
  · have hlog : significand.log2 < 53 := by
      by_cases h0 : significand = 0
      · simp [h0]
      · exact (Nat.log2_lt h0).2 hlt
    rw [scaleOf, Nat.shiftLeft_zero]
    omega
  · have hpos : 0 < 2 ^ scale := Nat.two_pow_pos scale
    have hlog : (significand <<< scale).log2 = 52 + scale := by
      rw [Nat.shiftLeft_eq, Nat.log2_eq_iff (by positivity), Nat.pow_add, Nat.add_right_comm,
        Nat.pow_add]
      exact ⟨Nat.mul_le_mul_right _ hn, Nat.mul_lt_mul_of_pos_right hlt hpos⟩
    rw [scaleOf, hlog]
    omega

/-- A double is the nearest to its own value. -/
theorem ofUnits_shiftLeft {significand scale : Nat} (hlt : significand < 0x20000000000000)
    (hle : scale ≤ 2045) (hn : scale = 0 ∨ 0x10000000000000 ≤ significand) (negative : Bool) :
    ofUnits negative (significand <<< scale) 1
      = some (.finite negative significand scale hlt hle hn) := by
  have hs : scaleOf (significand <<< scale / 1) = scale := by
    rw [Nat.div_one, scaleOf_shiftLeft hlt hn]
  have hr : roundHalfEven (significand <<< scale) (1 <<< scale) = significand := by
    rw [Nat.shiftLeft_eq, Nat.one_shiftLeft, roundHalfEven_mul_self (Nat.two_pow_pos scale)]
  rw [ofUnits_eq hs hr, dif_pos hlt, dif_pos hle]

/-! ## Decimals of one value -/

/-- The nearest double, by no shorter way for decimals far from one. -/
def nearestDecimal (negative : Bool) (mantissa : Nat) : Int → Option Binary64
  | .ofNat exponent => ofUnits negative (mantissa * 10 ^ exponent * unitsPerOne) 1
  | .negSucc places => ofUnits negative (mantissa * unitsPerOne) (10 ^ (places + 1))

theorem one_shiftLeft_pos (n : Nat) : 0 < 1 <<< n := by
  rw [Nat.one_shiftLeft]
  exact Nat.two_pow_pos n

theorem unitsPerOne_pos : 0 < unitsPerOne :=
  one_shiftLeft_pos _

theorem two_pow_add (e n : Nat) : 2 ^ (e + n) = 2 ^ e * 1 <<< n := by
  rw [Nat.one_shiftLeft, Nat.pow_add]

theorem two_pow_le_of_log2 {n : Nat} (hn : n ≠ 0) (e : Nat) : 2 ^ (n.log2 + 3 * e) ≤ n * 10 ^ e := by
  rw [Nat.pow_add, Nat.pow_mul]
  exact Nat.mul_le_mul (Nat.log2_self_le hn) (Nat.pow_le_pow_left (by decide) e)

theorem ofDecimal_eq_nearestDecimal (negative : Bool) (mantissa : Nat) (exponent : Int) :
    ofDecimal negative mantissa exponent = nearestDecimal negative mantissa exponent := by
  cases exponent with
  | ofNat exponent =>
    simp only [ofDecimal, nearestDecimal]
    split_ifs with h0 hbig
    · subst h0
      simp only [Nat.zero_mul]
      rw [ofUnits_eq_zero (by decide)]
    · -- the value is at least `2 ^ 1024`, which leaves no room for its scale
      symm
      apply ofUnits_eq_none
      have hpos : mantissa * 10 ^ exponent * unitsPerOne ≠ 0 :=
        Nat.mul_ne_zero (Nat.mul_ne_zero h0 (Nat.pow_pos (by decide)).ne') unitsPerOne_pos.ne'
      have hle : 2 ^ (mantissa.log2 + 3 * exponent + 1074) ≤ mantissa * 10 ^ exponent * unitsPerOne :=
        (two_pow_add _ _).trans_le (Nat.mul_le_mul_right _ (two_pow_le_of_log2 h0 exponent))
      have hlog := (Nat.le_log2 hpos).2 hle
      rw [Nat.div_one, scaleOf]
      omega
    · rfl
  | negSucc places =>
    simp only [ofDecimal, nearestDecimal]
    split_ifs with hsmall
    · -- the value is below half of the least positive number
      rw [ofUnits_eq_zero]
      have h1 : mantissa < 2 ^ (mantissa.log2 + 1) := Nat.lt_log2_self
      have h2 : 2 ^ (mantissa.log2 + 1 + 1074 + 1) ≤ 10 ^ (places + 1) := by
        calc 2 ^ (mantissa.log2 + 1 + 1074 + 1) ≤ 2 ^ (3 * (places + 1)) :=
              Nat.pow_le_pow_right (by decide) (by omega)
          _ = 8 ^ (places + 1) := by rw [Nat.pow_mul]
          _ ≤ 10 ^ (places + 1) := Nat.pow_le_pow_left (by decide) _
      have h3 : 2 ^ (mantissa.log2 + 1 + 1074) = 2 ^ (mantissa.log2 + 1) * unitsPerOne :=
        two_pow_add _ _
      rw [Nat.pow_succ, h3] at h2
      have h4 : mantissa * unitsPerOne < 2 ^ (mantissa.log2 + 1) * unitsPerOne :=
        Nat.mul_lt_mul_of_pos_right h1 (by decide)
      omega
    · rfl

/-- A zero at the end of the digits and a place more leave the number as it is. -/
theorem nearestDecimal_ten_mul (negative : Bool) (mantissa : Nat) (exponent : Int) :
    nearestDecimal negative (10 * mantissa) (exponent - 1) = nearestDecimal negative mantissa exponent := by
  rcases exponent with (_ | exponent) | places
  · have h := ofUnits_mul (c := 10) (by decide) negative (mantissa * unitsPerOne) 1
    have he : Int.ofNat 0 - 1 = Int.negSucc 0 := rfl
    rw [← Nat.mul_assoc] at h
    rw [he]
    simpa [nearestDecimal] using h
  · have he : Int.ofNat (exponent + 1) - 1 = Int.ofNat exponent := by
      simp
    rw [he]
    simp only [nearestDecimal, Nat.pow_succ]
    congr 2
    rw [Nat.mul_comm 10, Nat.mul_assoc, Nat.mul_comm 10]
  · have he : Int.negSucc places - 1 = Int.negSucc (places + 1) := rfl
    rw [he]
    simp only [nearestDecimal]
    rw [Nat.pow_succ _ (places + 1), Nat.mul_assoc, Nat.mul_comm (10 ^ (places + 1)),
      ofUnits_mul (by decide)]

theorem ofDecimal_mul_pow (negative : Bool) (mantissa zeros : Nat) (exponent : Int) :
    ofDecimal negative (mantissa * 10 ^ zeros) (exponent - zeros) = ofDecimal negative mantissa exponent := by
  induction zeros with
  | zero => simp
  | succ zeros ih =>
    have he : exponent - ((zeros + 1 : Nat) : Int) = exponent - zeros - 1 := by
      push_cast
      omega
    have hm : mantissa * 10 ^ (zeros + 1) = 10 * (mantissa * 10 ^ zeros) := by
      rw [Nat.pow_succ, ← Nat.mul_assoc, Nat.mul_comm]
    rw [he, hm, ofDecimal_eq_nearestDecimal, nearestDecimal_ten_mul, ← ofDecimal_eq_nearestDecimal, ih]

theorem ofDecimal_zero (negative : Bool) (exponent : Int) :
    ofDecimal negative 0 exponent = some (zero negative) := by
  cases exponent with
  | ofNat exponent => rfl
  | negSucc places =>
    rw [ofDecimal_eq_nearestDecimal, nearestDecimal, Nat.zero_mul]
    exact ofUnits_eq_zero (Nat.pow_pos (by decide)) negative

/-! ## Digits that read back -/

/-- Halving `n` times is the same as `n` places more of the digits multiplied by `5 ^ n`. -/
theorem ofDecimal_five_pow (negative : Bool) (units n : Nat) (hn : n ≠ 0)
    (hu : unitsPerOne = 1 <<< n) :
    ofDecimal negative (units * Nat.pow 5 n) (-n) = ofUnits negative units 1 := by
  obtain ⟨places, rfl⟩ := Nat.exists_eq_succ_of_ne_zero hn
  have h10 : Nat.pow 5 (places + 1) * 1 <<< (places + 1) = 10 ^ (places + 1) := by
    rw [Nat.one_shiftLeft]
    exact (Nat.mul_pow 5 2 (places + 1)).symm
  have h := ofUnits_mul (c := 10 ^ (places + 1)) (Nat.pow_pos (by decide)) negative units 1
  have he : -((places.succ : Nat) : Int) = Int.negSucc places := rfl
  rw [ofDecimal_eq_nearestDecimal, he, nearestDecimal, hu, Nat.mul_assoc, h10, ← h, Nat.mul_one,
    Nat.mul_comm units]

theorem ofDecimal_allDigits (negative : Bool) (units : Nat) :
    ofDecimal negative (allDigits units).coefficient (allDigits units).exponent
      = ofUnits negative units 1 := by
  obtain ⟨n, hn⟩ : ∃ n, n = 1074 := ⟨_, rfl⟩
  have he : (-1074 : Int) = -n := by omega
  have hu : unitsPerOne = 1 <<< n := by
    rw [hn]
    rfl
  rw [allDigits, ← hn, he, ofDecimal_five_pow _ _ _ (by omega) hu]

theorem ofDecimal_onGrid? {x : Binary64} {negative : Bool} {units : Nat} {exponent : Int} {d : Decimal}
    (h : onGrid? x negative units exponent = some d) :
    ofDecimal negative d.coefficient d.exponent = some x := by
  have hle := div_le_roundHalfEven (inTens units exponent).1 (inTens units exponent).2
  have hge := roundHalfEven_le (inTens units exponent).1 (inTens units exponent).2
  simp only [onGrid?, decide_eq_true_eq] at h
  split_ifs at h with hbelow habove habove
  · simp only [Option.some.injEq] at h
    subst h
    rcases Nat.lt_or_eq_of_le hge with hlt | heq
    · have hself : roundHalfEven (inTens units exponent).1 (inTens units exponent).2
          = (inTens units exponent).1 / (inTens units exponent).2 := by omega
      rw [hself]
      exact hbelow
    · rw [heq]
      exact habove
  · simp only [Option.some.injEq] at h
    subst h
    exact hbelow
  · simp only [Option.some.injEq] at h
    subst h
    exact habove

/-- What is found as the shortest digits of a double reads back. -/
theorem ofDecimal_shortest {x : Binary64} {negative : Bool} {units : Nat}
    (h : ofUnits negative units 1 = some x) :
    ofDecimal negative (shortest x negative units).coefficient (shortest x negative units).exponent
      = some x := by
  unfold shortest
  cases hfound : (List.range 17).findSome? fun n =>
      onGrid? x negative units (pointPosition units - (n + 1 : Nat)) with
  | none =>
    simp only [hfound, Option.getD_none]
    rw [ofDecimal_allDigits, h]
  | some d =>
    simp only [hfound, Option.getD_some]
    obtain ⟨n, -, hn⟩ := List.exists_of_findSome?_eq_some hfound
    exact ofDecimal_onGrid? hn

end Binary64

/-! ## Reading numerals -/

namespace Numeral

/-- Text that a numeral before it does not run on into. -/
def Stops (rest : List Char) : Prop :=
  ∀ c ∈ rest.head?, c.isDigit = false ∧ c ≠ '.' ∧ c ≠ 'e' ∧ c ≠ 'E'

theorem Stops.noDigit {rest : List Char} (h : Stops rest) : NoDigit rest :=
  fun c hc => (h c hc).1

/-- Digits that a numeral may start with: at least one, and none after a zero. -/
def Whole (ds : List Char) : Prop :=
  ds ≠ [] ∧ (∀ c ∈ ds, c.isDigit) ∧ (ds.head? = some '0' → ds = ['0'])

/-- Digits that may stand after the point: at least one. -/
def Places (ds : List Char) : Prop :=
  ds ≠ [] ∧ ∀ c ∈ ds, c.isDigit

theorem readWhole?_append {ds rest : List Char} (hd : Whole ds) (hr : NoDigit rest) :
    readWhole? (ds ++ rest) = some (ds, rest) := by
  obtain ⟨hne, hall, hzero⟩ := hd
  rw [readWhole?, spanDigits_append hall hr]
  split
  · rename_i h
    exact absurd (Prod.mk.inj h).1 hne
  · rename_i h
    obtain ⟨rfl, -⟩ := Prod.mk.inj h
    simpa using hzero rfl
  · rename_i h
    obtain ⟨rfl, rfl⟩ := Prod.mk.inj h
    rfl

theorem readPlaces?_append {ds rest : List Char} (hd : Places ds) (hr : NoDigit rest) :
    readPlaces? ('.' :: (ds ++ rest)) = some (ds, rest) := by
  obtain ⟨hne, hall⟩ := hd
  rcases ds with _ | ⟨c, ds⟩
  · exact absurd rfl hne
  · rw [readPlaces?, spanDigits_append hall hr]

theorem readPlaces?_none {rest : List Char} (hr : ∀ c ∈ rest.head?, c ≠ '.') :
    readPlaces? rest = some ([], rest) := by
  rcases rest with _ | ⟨c, cs⟩
  · rfl
  · have hc : c ≠ '.' := hr c rfl
    unfold readPlaces?
    split
    · rename_i h
      exact absurd (List.cons.inj h).1 hc
    · rfl

theorem readExponent?_none {rest : List Char} (hr : Stops rest) :
    readExponent? rest = some (none, rest) := by
  rcases rest with _ | ⟨c, cs⟩
  · rfl
  · obtain ⟨-, -, he, hE⟩ := hr c rfl
    unfold readExponent?
    split
    all_goals first
      | rename_i h
        exact absurd (List.cons.inj h).1 ‹_›
      | rfl

theorem readExponentDigits?_toDigits (sign : Int) (n : Nat) {rest : List Char} (hr : NoDigit rest) :
    readExponentDigits? sign (Nat.toDigits 10 n ++ rest) = some (some (sign * n), rest) := by
  have hne : Nat.toDigits 10 n ≠ [] := Nat.toDigits_ne_nil
  rw [readExponentDigits?, spanDigits_append isDigit_of_mem_toDigits hr]
  split
  · rename_i h
    exact absurd (Prod.mk.inj h).1 hne
  · rename_i h
    obtain ⟨rfl, rfl⟩ := Prod.mk.inj h
    rw [digitsValue_toDigits]

/-- A signed exponent is read as itself. -/
theorem readExponent?_append (exponent : Int) {rest : List Char} (hr : NoDigit rest) :
    readExponent? ('e' :: (if exponent < 0 then '-' else '+') ::
      (Nat.toDigits 10 exponent.natAbs ++ rest)) = some (some exponent, rest) := by
  by_cases h : exponent < 0
  · rw [if_pos h]
    have hval : -1 * (exponent.natAbs : Int) = exponent := by omega
    show readExponentDigits? (-1) _ = _
    rw [readExponentDigits?_toDigits _ _ hr, hval]
  · rw [if_neg h]
    have hval : 1 * (exponent.natAbs : Int) = exponent := by omega
    show readExponentDigits? 1 _ = _
    rw [readExponentDigits?_toDigits _ _ hr, hval]

/-- Digits alone are a whole numeral. -/
theorem readUnsigned?_whole (negative : Bool) {ds rest : List Char} (hd : Whole ds) (hr : Stops rest) :
    readUnsigned? negative (ds ++ rest) = some (⟨negative, true, digitsValue ds, 0⟩, rest) := by
  have hplaces : readPlaces? rest = some ([], rest) := readPlaces?_none fun c hc => (hr c hc).2.1
  simp [readUnsigned?, readWhole?_append hd hr.noDigit, hplaces, readExponent?_none hr]

/-- A point with digits on both sides. -/
theorem readUnsigned?_places (negative : Bool) {ds es rest : List Char} (hd : Whole ds)
    (he : Places es) (hr : Stops rest) :
    readUnsigned? negative (ds ++ '.' :: (es ++ rest))
      = some (⟨negative, false, digitsValue (ds ++ es), -es.length⟩, rest) := by
  have hpoint : NoDigit ('.' :: (es ++ rest)) := by
    simp [NoDigit]
  have hes : es.isEmpty = false := by simpa using he.1
  simp [readUnsigned?, readWhole?_append hd hpoint, readPlaces?_append he hr.noDigit,
    readExponent?_none hr, hes]

/-- A first digit, perhaps a point and more digits, and an exponent. -/
theorem readUnsigned?_exponent (negative : Bool) {ds es rest : List Char} (exponent : Int)
    (hd : Whole ds) (he : ∀ c ∈ es, c.isDigit) (hr : NoDigit rest) :
    readUnsigned? negative (ds ++ ((if es.isEmpty then [] else '.' :: es) ++
        ('e' :: (if exponent < 0 then '-' else '+') ::
          (Nat.toDigits 10 exponent.natAbs ++ rest))))
      = some (⟨negative, false, digitsValue (ds ++ es), exponent - es.length⟩, rest) := by
  have hexponent := readExponent?_append exponent hr
  generalize htail : 'e' :: (if exponent < 0 then '-' else '+') ::
    (Nat.toDigits 10 exponent.natAbs ++ rest) = tail at hexponent ⊢
  have hhead : tail.head? = some 'e' := by rw [← htail]; rfl
  have hnoDigit : NoDigit tail := by
    rw [NoDigit, hhead]
    simp
  rcases es with _ | ⟨c, es⟩
  · have hplaces : readPlaces? tail = some ([], tail) :=
      readPlaces?_none (by rw [hhead]; simp)
    simp [readUnsigned?, readWhole?_append hd hnoDigit, hplaces, hexponent]
  · have hpoint : NoDigit ('.' :: (c :: es ++ tail)) := by
      simp [NoDigit]
    have hes : Places (c :: es) := ⟨by simp, he⟩
    have hplaces := readPlaces?_append hes hnoDigit
    simp only [List.isEmpty_cons, Bool.false_eq_true, if_false, List.cons_append]
    simp only [List.cons_append] at hpoint hplaces
    simp [readUnsigned?, readWhole?_append hd hpoint, hplaces, hexponent]

theorem whole_zero : Whole ['0'] := by
  simp [Whole]

theorem places_zero : Places ['0'] := by
  simp [Places]

theorem whole_toDigits (n : Nat) : Whole (Nat.toDigits 10 n) := by
  refine ⟨Nat.toDigits_ne_nil, isDigit_of_mem_toDigits, fun h => ?_⟩
  by_cases hn : n = 0
  · subst hn
    rfl
  · exact absurd h (head?_toDigits_ne_zero n hn)

end Numeral

/-! ## The layout of digits -/

namespace Binary64

open Numeral

/-- The digits of a number other than zero without the zeros at their end. -/
structure Leading (ds : List Char) : Prop where
  ne_nil : ds ≠ []
  isDigit : ∀ c ∈ ds, c.isDigit
  head_ne : ds.head? ≠ some '0'

theorem Leading.whole_append {ds es : List Char} (h : Leading ds) (he : ∀ c ∈ es, c.isDigit) :
    Whole (ds ++ es) := by
  refine ⟨by simp [h.ne_nil], ?_, fun hz => ?_⟩
  · simp only [List.mem_append]
    rintro c (hc | hc)
    · exact h.isDigit c hc
    · exact he c hc
  · rw [List.head?_append_of_ne_nil _ h.ne_nil] at hz
    exact absurd hz h.head_ne

theorem Leading.whole {ds : List Char} (h : Leading ds) : Whole ds :=
  ⟨h.ne_nil, h.isDigit, fun hz => absurd hz h.head_ne⟩

theorem Leading.take {ds : List Char} (h : Leading ds) {n : Nat} (hn : 0 < n) : Leading (ds.take n) := by
  obtain ⟨hne, hall, hhead⟩ := h
  refine ⟨?_, fun c hc => hall c (List.mem_of_mem_take hc), ?_⟩
  · simp only [ne_eq, List.take_eq_nil_iff, not_or]
    exact ⟨by omega, hne⟩
  · rwa [List.head?_take, if_neg (by omega)]

theorem exists_zeros (ds : List Char) :
    ∃ zeros, ds = (ds.reverse.dropWhile (· = '0')).reverse ++ List.replicate zeros '0' := by
  refine ⟨(ds.reverse.takeWhile (· = '0')).length, ?_⟩
  have hzeros : (ds.reverse.takeWhile (· = '0')).reverse
      = List.replicate (ds.reverse.takeWhile (· = '0')).length '0' := by
    rw [List.eq_replicate_iff]
    refine ⟨List.length_reverse, fun c hc => ?_⟩
    have hall := List.mem_takeWhile_imp (List.mem_reverse.1 hc)
    simpa using hall
  rw [← hzeros, ← List.reverse_append, List.takeWhile_append_dropWhile, List.reverse_reverse]

/-- The digits of a number, less the zeros at their end, which are made up for by the exponent. -/
theorem leading_toDigits {n : Nat} (hn : n ≠ 0) :
    ∃ ds zeros, Leading ds ∧ ((Nat.toDigits 10 n).reverse.dropWhile (· = '0')).reverse = ds ∧
      (Nat.toDigits 10 n).length = ds.length + zeros ∧ n = digitsValue ds * 10 ^ zeros := by
  obtain ⟨zeros, hzeros⟩ := exists_zeros (Nat.toDigits 10 n)
  generalize ((Nat.toDigits 10 n).reverse.dropWhile (· = '0')).reverse = ds at hzeros ⊢
  have hvalue : n = digitsValue ds * 10 ^ zeros := by
    have h := digitsValue_toDigits n
    rw [hzeros, digitsValue_append] at h
    simpa using h.symm
  have hne : ds ≠ [] := by
    rintro rfl
    apply hn
    rw [hvalue]
    simp [digitsValue]
  refine ⟨ds, zeros, ⟨hne, fun c hc => ?_, ?_⟩, rfl, ?_, hvalue⟩
  · exact isDigit_of_mem_toDigits (n := n) c (hzeros ▸ List.mem_append_left _ hc)
  · have hhead := head?_toDigits_ne_zero n hn
    rwa [hzeros, List.head?_append_of_ne_nil _ hne] at hhead
  · rw [hzeros, List.length_append, List.length_replicate]

/-- A numeral that denotes a decimal by its places or its exponent. -/
def Reads (negative : Bool) (mantissa : Nat) (exponent : Int) (text : List Char) : Prop :=
  ∀ rest, Stops rest → ∃ n : Numeral, readUnsigned? negative (text ++ rest) = some (n, rest) ∧
    n.negative = negative ∧ n.whole = false ∧
    ofDecimal negative n.mantissa n.exponent = ofDecimal negative mantissa exponent

theorem Reads.of_read {negative : Bool} {mantissa m : Nat} {exponent e : Int} {text : List Char}
    (hvalue : ofDecimal negative m e = ofDecimal negative mantissa exponent)
    (hread : ∀ rest, Stops rest →
      readUnsigned? negative (text ++ rest) = some (⟨negative, false, m, e⟩, rest)) :
    Reads negative mantissa exponent text :=
  fun rest hr => ⟨_, hread rest hr, rfl, rfl, hvalue⟩

section Layout

variable {negative : Bool} {ds : List Char} {position : Int}

theorem reads_below_one (h : Leading ds) (hp : position ≤ 0) :
    Reads negative (digitsValue ds) (position - ds.length)
      (['0', '.'] ++ List.replicate position.natAbs '0' ++ ds) := by
  have hplaces : Places (List.replicate position.natAbs '0' ++ ds) := by
    refine ⟨by simp [h.ne_nil], ?_⟩
    simp only [List.mem_append, List.mem_replicate]
    rintro c (⟨-, rfl⟩ | hc)
    · rfl
    · exact h.isDigit c hc
  have hvalue : digitsValue (['0'] ++ (List.replicate position.natAbs '0' ++ ds)) = digitsValue ds := by
    rw [← List.append_assoc, digitsValue_append, ← List.replicate_one, List.replicate_append_replicate]
    simp
  have hexponent : -((List.replicate position.natAbs '0' ++ ds).length : Int) = position - ds.length := by
    simp only [List.length_append, List.length_replicate]
    omega
  refine Reads.of_read rfl fun rest hr => ?_
  rw [← hvalue, ← hexponent, List.append_assoc ['0', '.'], List.append_assoc ['0', '.']]
  exact readUnsigned?_places negative whole_zero hplaces hr

theorem reads_positional (h : Leading ds) (hp : 0 < position) :
    Reads negative (digitsValue ds) (position - ds.length)
      (ds.take position.toNat ++ List.replicate (position.toNat - ds.length) '0' ++ ['.'] ++
        (if (ds.drop position.toNat).isEmpty then ['0'] else ds.drop position.toNat)) := by
  obtain ⟨whole, rfl⟩ := Int.eq_ofNat_of_zero_le hp.le
  simp only [Int.toNat_natCast]
  have hwhole : Whole (ds.take whole ++ List.replicate (whole - ds.length) '0') :=
    (h.take (by omega)).whole_append fun c hc => by
      rw [(List.mem_replicate.1 hc).2]
      rfl
  by_cases hlen : ds.length ≤ whole
  · -- zeros stand between the digits and the point
    rw [List.drop_eq_nil_of_le hlen, if_pos List.isEmpty_nil]
    have hvalue : digitsValue (ds.take whole ++ List.replicate (whole - ds.length) '0' ++ ['0'])
        = digitsValue ds * 10 ^ (whole - ds.length + 1) := by
      rw [List.take_of_length_le hlen, List.append_assoc, ← List.replicate_one,
        List.replicate_append_replicate, digitsValue_append]
      simp
    have hexponent : -((['0'] : List Char).length : Int)
        = (whole - ds.length : Int) - (whole - ds.length + 1 : Nat) := by
      simp only [List.length_singleton]
      omega
    refine Reads.of_read (ofDecimal_mul_pow negative _ (whole - ds.length + 1) _) fun rest hr => ?_
    rw [← hvalue, ← hexponent, List.append_assoc, List.append_assoc]
    exact readUnsigned?_places negative hwhole places_zero hr
  · -- the point stands between digits
    have hne : ds.drop whole ≠ [] := by
      simpa using hlen
    have hplaces : Places (ds.drop whole) :=
      ⟨hne, fun c hc => h.isDigit c (List.mem_of_mem_drop hc)⟩
    have hvalue : digitsValue (ds.take whole ++ List.replicate (whole - ds.length) '0' ++ ds.drop whole)
        = digitsValue ds := by
      rw [Nat.sub_eq_zero_of_le (by omega), List.replicate_zero, List.append_nil,
        List.take_append_drop]
    have hexponent : -((ds.drop whole).length : Int) = whole - ds.length := by
      rw [List.length_drop]
      omega
    rw [if_neg (by simpa using hne)]
    refine Reads.of_read rfl fun rest hr => ?_
    rw [← hvalue, ← hexponent, List.append_assoc, List.append_assoc]
    exact readUnsigned?_places negative hwhole hplaces hr

theorem reads_exponent (h : Leading ds) :
    Reads negative (digitsValue ds) (position - ds.length)
      (ds.take 1 ++ (if (ds.drop 1).isEmpty then [] else '.' :: ds.drop 1) ++
        ['e', if position - 1 < 0 then '-' else '+'] ++ Nat.toDigits 10 (position - 1).natAbs) := by
  have hwhole : Whole (ds.take 1) := (h.take Nat.one_pos).whole
  have hlen : 0 < ds.length := List.length_pos_iff.2 h.ne_nil
  have hexponent : position - 1 - ((ds.drop 1).length : Int) = position - ds.length := by
    rw [List.length_drop]
    omega
  refine Reads.of_read rfl fun rest hr => ?_
  have hplaces : ∀ c ∈ ds.drop 1, c.isDigit := fun c hc => h.isDigit c (List.mem_of_mem_drop hc)
  have hread := readUnsigned?_exponent negative (position - 1) hwhole hplaces hr.noDigit
  rw [List.take_append_drop, hexponent] at hread
  rw [List.append_assoc, List.append_assoc, List.append_assoc]
  exact hread

/-- However digits are laid out, they are read as the decimal that they are digits of. -/
theorem reads_layout {d : Decimal} (hd : d.coefficient ≠ 0) :
    Reads negative d.coefficient d.exponent (layout d) := by
  obtain ⟨ds, zeros, hlead, hds, hlen, hvalue⟩ := leading_toDigits hd
  generalize hposition : ((ds.length + zeros : Nat) : Int) + d.exponent = position
  have hsame : ofDecimal negative d.coefficient d.exponent
      = ofDecimal negative (digitsValue ds) (position - ds.length) := by
    have hmul := ofDecimal_mul_pow negative (digitsValue ds) zeros (d.exponent + zeros)
    have he : position - ds.length = d.exponent + zeros := by
      omega
    rw [he, ← hmul, ← hvalue, Int.add_sub_cancel]
  unfold Reads
  rw [hsame]
  simp only [layout, hds, hlen, hposition]
  by_cases hrange : -5 < position ∧ position ≤ 16
  · rw [if_pos hrange]
    by_cases hpos : position ≤ 0
    · rw [if_pos hpos]
      exact reads_below_one hlead hpos
    · rw [if_neg hpos]
      exact reads_positional hlead (by omega)
  · rw [if_neg hrange]
    exact reads_exponent hlead

end Layout

/-! ## The text of a double -/

theorem coefficient_shortest_ne_zero {negative : Bool} {significand scale : Nat}
    (hlt : significand < 0x20000000000000) (hle : scale ≤ 2045)
    (hn : scale = 0 ∨ 0x10000000000000 ≤ significand) (h0 : significand ≠ 0) :
    (shortest (.finite negative significand scale hlt hle hn) negative
      (significand <<< scale)).coefficient ≠ 0 := by
  intro hzero
  have hread := ofDecimal_shortest (ofUnits_shiftLeft hlt hle hn negative)
  rw [hzero, ofDecimal_zero] at hread
  simp only [zero, Option.some.injEq, finite.injEq] at hread
  exact h0 hread.2.1.symm

theorem layout_ne_nil {d : Decimal} (hd : d.coefficient ≠ 0) : layout d ≠ [] := by
  intro hnil
  obtain ⟨n, hn, -⟩ := @reads_layout false _ hd [] (by simp [Stops])
  simp [hnil, readUnsigned?, readWhole?, spanDigits] at hn

theorem head?_layout_ne_minus {d : Decimal} (hd : d.coefficient ≠ 0) :
    (layout d).head? ≠ some '-' := by
  intro hhead
  obtain ⟨n, hn, -⟩ := @reads_layout false _ hd [] (by simp [Stops])
  obtain ⟨tail, htail⟩ := List.head?_eq_some_iff.1 hhead
  simp [htail, readUnsigned?, readWhole?, spanDigits] at hn

theorem read?_of_head?_ne {cs : List Char} (h : cs.head? ≠ some '-') :
    read? cs = readUnsigned? false cs := by
  unfold read?
  split
  · exact absurd rfl h
  · rfl

/-- A numeral with a sign is read as the text after the sign says. -/
theorem read?_sign_append (negative : Bool) {text rest : List Char} (h : text.head? ≠ some '-')
    (hne : text ≠ []) :
    read? ((if negative then ['-'] else []) ++ text ++ rest) = readUnsigned? negative (text ++ rest) := by
  cases negative with
  | true => rfl
  | false =>
    apply read?_of_head?_ne
    rwa [if_neg (by simp), List.nil_append, List.head?_append_of_ne_nil _ hne]

end Binary64

namespace Numeral

open Binary64

theorem value?_of_places {n : Numeral} (h : n.whole = false) :
    n.value? = (ofDecimal n.negative n.mantissa n.exponent).map .float := by
  simp [value?, h]

/-- The text of a finite double is read as that double, whatever stands behind it. -/
theorem read?_write {x : Binary64} (hx : x.isFinite) {rest : List Char} (hr : Stops rest) :
    ∃ n : Numeral, read? (x.write ++ rest) = some (n, rest) ∧ n.value? = some (.float x) := by
  rcases x with _ | _ | ⟨negative, significand, scale, hlt, hle, hn⟩
  · simp [isFinite] at hx
  · simp [isFinite] at hx
  · simp only [write]
    by_cases h0 : significand = 0
    · obtain rfl : scale = 0 := by omega
      subst h0
      rw [if_pos rfl, read?_sign_append negative (by simp) (by simp)]
      have htext : "0.0".toList ++ rest = ['0'] ++ '.' :: (['0'] ++ rest) := rfl
      rw [htext]
      refine ⟨_, readUnsigned?_places negative whole_zero places_zero hr, ?_⟩
      have hvalue : digitsValue (['0'] ++ ['0']) = 0 := rfl
      rw [value?_of_places rfl, hvalue, ofDecimal_zero]
      rfl
    · have hne := @coefficient_shortest_ne_zero negative _ _ hlt hle hn h0
      have hhead := head?_layout_ne_minus hne
      obtain ⟨n, hread, hnegative, hwhole, hvalue⟩ := @reads_layout negative _ hne rest hr
      rw [if_neg h0, read?_sign_append negative hhead (layout_ne_nil hne)]
      refine ⟨n, hread, ?_⟩
      rw [value?_of_places hwhole, hnegative, hvalue,
        ofDecimal_shortest (ofUnits_shiftLeft hlt hle hn negative)]
      rfl

/-- The text of a whole number of 64 bits is read as that number. -/
theorem read?_writeInt {n : Int} (hlo : -0x8000000000000000 ≤ n) (hhi : n < 0x10000000000000000)
    {rest : List Char} (hr : Stops rest) :
    ∃ m : Numeral, read? (Number.writeInt n ++ rest) = some (m, rest) ∧ m.value? = some (.int n) := by
  unfold Number.writeInt
  have hwhole := whole_toDigits n.natAbs
  by_cases hneg : n < 0
  · rw [if_pos hneg]
    refine ⟨_, readUnsigned?_whole true hwhole hr, ?_⟩
    have hsigned : -(n.natAbs : Int) = n := by omega
    simp only [value?, digitsValue_toDigits, hsigned, if_true]
    rw [if_pos ⟨trivial, by omega, hlo, hhi⟩]
  · rw [if_neg hneg]
    have hhead : (Nat.toDigits 10 n.natAbs).head? ≠ some '-' := by
      intro h
      have hdigit := hwhole.2.1 '-' (List.mem_of_head? h)
      simp at hdigit
    have hne : (Nat.toDigits 10 n.natAbs ++ rest).head? ≠ some '-' := by
      rwa [List.head?_append_of_ne_nil _ hwhole.1]
    rw [read?_of_head?_ne hne]
    refine ⟨_, readUnsigned?_whole false hwhole hr, ?_⟩
    have hsigned : (n.natAbs : Int) = n := by omega
    simp [value?, hsigned, hlo, hhi]

end Numeral

end GridStore
