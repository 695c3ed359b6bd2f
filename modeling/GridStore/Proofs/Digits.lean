import Mathlib
import GridStore.Text.Blank
import GridStore.Text.Digits
import GridStore.Text.Hex

/-!
# Digits read back

Digits at the head of a text are split off whole (`spanDigits_append`), the decimal digits of a
number denote it (`digitsValue_toDigits`), and so do its hexadecimal digits up to their count
(`hexValue?_hexDigits`). Hexadecimal digits of either case are those of the number that they denote,
written in lower case (`hexDigits_of_hexValue?`).
-/

namespace GridStore

/-! ## Decimal digits -/

theorem digitsValue_eq_ofDigitChars (ds : List Char) : digitsValue ds = Nat.ofDigitChars 10 ds 0 :=
  rfl

@[simp]
theorem digitsValue_toDigits (n : Nat) : digitsValue (Nat.toDigits 10 n) = n := by
  rw [digitsValue_eq_ofDigitChars, Nat.ofDigitChars_ten_toDigits]

theorem digitsValue_append (ds es : List Char) :
    digitsValue (ds ++ es) = digitsValue ds * 10 ^ es.length + digitsValue es := by
  simp only [digitsValue_eq_ofDigitChars, Nat.ofDigitChars_append]
  rw [Nat.ofDigitChars_eq_ofDigitChars_zero, Nat.mul_comm]

@[simp]
theorem digitsValue_replicate_zero (n : Nat) : digitsValue (List.replicate n '0') = 0 := by
  simp [digitsValue_eq_ofDigitChars]

theorem isDigit_of_mem_toDigits {n : Nat} : ∀ c ∈ Nat.toDigits 10 n, c.isDigit :=
  fun _ h => Nat.isDigit_of_mem_toDigits (by decide) (by decide) h

theorem isBlank_of_isDigit {c : Char} (h : c.isDigit) : isBlank c = false := by
  simp only [Char.isDigit, Bool.and_eq_true, decide_eq_true_eq, ge_iff_le, UInt32.le_iff_toNat_le] at h
  have hlo : 48 ≤ c.toNat := h.1
  have hhi : c.toNat ≤ 57 := h.2
  simp only [isBlank, Bool.or_eq_false_iff, Bool.and_eq_false_iff, decide_eq_false_iff_not]
  omega

/-- Text that digits before it do not run on into. -/
def NoDigit (cs : List Char) : Prop :=
  ∀ c ∈ cs.head?, c.isDigit = false

theorem spanDigits_append {ds rest : List Char} (hd : ∀ c ∈ ds, c.isDigit) (hr : NoDigit rest) :
    spanDigits (ds ++ rest) = (ds, rest) := by
  rw [spanDigits, List.takeWhile_append_of_pos hd, List.dropWhile_append_of_pos hd]
  cases rest with
  | nil => simp
  | cons c cs =>
    have hc : c.isDigit = false := hr c rfl
    simp [hc]

theorem digitChar_ne_zero {n : Nat} (h0 : n ≠ 0) (h : n < 10) : n.digitChar ≠ '0' := by
  have hall : ∀ m : Fin 10, m.val ≠ 0 → m.val.digitChar ≠ '0' := by decide
  exact hall ⟨n, h⟩ h0

/-- A number other than zero is written without a zero in front. -/
theorem head?_toDigits_ne_zero (n : Nat) (hn : n ≠ 0) : (Nat.toDigits 10 n).head? ≠ some '0' := by
  by_cases h : n < 10
  · rw [Nat.toDigits_of_lt_base h]
    simpa using digitChar_ne_zero hn h
  · rw [Nat.toDigits_of_base_le (by decide) (by omega)]
    have ih := head?_toDigits_ne_zero (n / 10) (by omega)
    have hne : Nat.toDigits 10 (n / 10) ≠ [] := Nat.toDigits_ne_nil
    rwa [List.head?_append_of_ne_nil _ hne]

/-- A number is written with a digit in front. -/
theorem exists_toDigits_eq_cons (n : Nat) :
    ∃ d ds, Nat.toDigits 10 n = d :: ds ∧ d.isDigit = true := by
  have hne : Nat.toDigits 10 n ≠ [] := Nat.toDigits_ne_nil
  obtain ⟨d, ds, hdigits⟩ := List.exists_cons_of_ne_nil hne
  exact ⟨d, ds, hdigits, isDigit_of_mem_toDigits d (hdigits ▸ List.mem_cons_self)⟩

/-! ## Digits of a fixed width -/

theorem isDigit_of_mem_paddedDigits {width n : Nat} : ∀ c ∈ paddedDigits width n, c.isDigit := by
  intro c hc
  rcases List.mem_append.1 hc with hzero | hdigit
  · rw [List.eq_of_mem_replicate hzero]
    rfl
  · exact isDigit_of_mem_toDigits c hdigit

@[simp]
theorem digitsValue_paddedDigits (width n : Nat) : digitsValue (paddedDigits width n) = n := by
  simp [paddedDigits, digitsValue_append]

theorem length_paddedDigits {width n : Nat} (hwidth : 0 < width) (h : n < 10 ^ width) :
    (paddedDigits width n).length = width := by
  have hlength := (Nat.length_toDigits_le_iff (by decide) hwidth).2 h
  simp only [paddedDigits, List.length_append, List.length_replicate]
  omega

theorem spanDigitsUpTo_append {rest : List Char} : ∀ {ds : List Char}, (∀ c ∈ ds, c.isDigit) →
    spanDigitsUpTo ds.length (ds ++ rest) = (ds, rest)
  | [], _ => by rw [List.length_nil, List.nil_append, spanDigitsUpTo.eq_def]
  | d :: ds, h => by
    rw [List.forall_mem_cons] at h
    rw [List.length_cons, List.cons_append, spanDigitsUpTo, if_pos h.1, spanDigitsUpTo_append h.2]

theorem spanDigitsUpTo_append_of_le {ds rest : List Char} (hd : ∀ c ∈ ds, c.isDigit) {width : Nat}
    (hwidth : ds.length ≤ width) (hr : NoDigit rest) :
    spanDigitsUpTo width (ds ++ rest) = (ds, rest) := by
  induction ds generalizing width with
  | nil =>
    cases rest with
    | nil => cases width <;> rfl
    | cons c cs =>
      have hc : c.isDigit = false := hr c rfl
      cases width <;> simp [spanDigitsUpTo, hc]
  | cons d ds ih =>
    obtain ⟨width, rfl⟩ := Nat.exists_eq_succ_of_ne_zero (Nat.ne_zero_of_lt hwidth)
    rw [List.forall_mem_cons] at hd
    rw [List.cons_append, spanDigitsUpTo, if_pos hd.1, ih hd.2 (Nat.le_of_succ_le_succ hwidth)]

/-! ## Hexadecimal digits -/

theorem hexDigitValue?_hexDigit (n : Nat) : hexDigitValue? (hexDigit n) = some (n % 16) := by
  have hall : ∀ m : Fin 16, hexDigitValue? (Nat.digitChar m.val) = some m.val := by decide
  exact hall ⟨n % 16, Nat.mod_lt n (by decide)⟩

theorem isSome_of_mem_hexDigits {count n : Nat} : ∀ c ∈ hexDigits count n, (hexDigitValue? c).isSome := by
  induction count generalizing n with
  | zero => exact List.forall_mem_nil _
  | succ count ih =>
    rw [hexDigits, List.forall_mem_append, List.forall_mem_singleton, hexDigitValue?_hexDigit]
    exact ⟨ih, rfl⟩

theorem hexValue?_concat (ds : List Char) (c : Char) :
    hexValue? (ds ++ [c]) = (hexValue? ds).bind fun n => (hexDigitValue? c).map (16 * n + ·) := by
  simp [hexValue?, List.foldlM_append]

/-- The last digits of a number denote its remainder. -/
theorem hexValue?_hexDigits (count n : Nat) : hexValue? (hexDigits count n) = some (n % 16 ^ count) := by
  induction count generalizing n with
  | zero => simp [hexDigits, hexValue?, Nat.mod_one]
  | succ count ih =>
    rw [hexDigits, hexValue?_concat, ih, hexDigitValue?_hexDigit, Option.bind_some, Option.map_some,
      Option.some.injEq, Nat.pow_succ, Nat.mul_comm (16 ^ count), Nat.mod_mul]
    omega

@[simp]
theorem length_hexDigits (count n : Nat) : (hexDigits count n).length = count := by
  induction count generalizing n with
  | zero => rfl
  | succ count ih => simp [hexDigits, ih]

/-- Whether a character is a hexadecimal digit of either case. -/
def IsHexDigit (c : Char) : Prop :=
  c.isDigit = true ∨ ('a' ≤ c ∧ c ≤ 'f') ∨ ('A' ≤ c ∧ c ≤ 'F')

theorem isSome_hexDigitValue?_iff {c : Char} : (hexDigitValue? c).isSome ↔ IsHexDigit c := by
  unfold hexDigitValue? IsHexDigit
  split_ifs <;> simp_all

theorem IsHexDigit.toNat_lt {c : Char} (h : IsHexDigit c) : c.toNat < 128 := by
  have hle {d : Char} (hd : c ≤ d) (h128 : d.toNat < 128) : c.toNat < 128 :=
    lt_of_le_of_lt (UInt32.le_iff_toNat_le.1 hd) h128
  obtain h | ⟨-, h⟩ | ⟨-, h⟩ := h
  · rw [Char.isDigit, Bool.and_eq_true, decide_eq_true_eq, decide_eq_true_eq] at h
    exact hle (d := '9') h.2 (by decide)
  · exact hle h (by decide)
  · exact hle h (by decide)

/-- What is written for the value of a digit is the digit in lower case. -/
theorem hexDigit_of_hexDigitValue? {c : Char} {v : Nat} (h : hexDigitValue? c = some v) :
    v < 16 ∧ hexDigit v = c.toLower := by
  have hall : ∀ n < 128, ∀ v ∈ hexDigitValue? (Char.ofNat n),
      v < 16 ∧ hexDigit v = (Char.ofNat n).toLower := by decide +kernel
  have hdigit : IsHexDigit c := isSome_hexDigitValue?_iff.1 (h ▸ rfl)
  have hc := hall c.toNat hdigit.toNat_lt
  rw [Char.ofNat_toNat] at hc
  exact hc v h

/-- Digits of either case, and no other texts, denote a number. -/
theorem isSome_hexValue?_iff {ds : List Char} :
    (hexValue? ds).isSome ↔ ∀ c ∈ ds, IsHexDigit c := by
  induction ds using List.reverseRecOn with
  | nil => simp [hexValue?]
  | append_singleton ds c ih =>
    rw [hexValue?_concat, List.forall_mem_append, List.forall_mem_singleton, ← ih,
      ← isSome_hexDigitValue?_iff]
    cases hexValue? ds <;> simp

/-- The digits of the number that digits denote are these in lower case. -/
theorem hexDigits_of_hexValue? {ds : List Char} {n : Nat} (h : hexValue? ds = some n) :
    n < 16 ^ ds.length ∧ hexDigits ds.length n = ds.map Char.toLower := by
  induction ds using List.reverseRecOn generalizing n with
  | nil =>
    obtain rfl : 0 = n := Option.some.inj h
    exact ⟨Nat.one_pos, rfl⟩
  | append_singleton ds c ih =>
    rw [hexValue?_concat] at h
    obtain ⟨m, hm, h⟩ := Option.bind_eq_some_iff.1 h
    obtain ⟨v, hv, rfl⟩ := Option.map_eq_some_iff.1 h
    obtain ⟨hlt, hdigits⟩ := ih hm
    obtain ⟨hv16, hdigit⟩ := hexDigit_of_hexDigitValue? hv
    have hlast : hexDigit (16 * m + v) = hexDigit v := by
      rw [hexDigit, hexDigit, Nat.mul_add_mod]
    have hbefore : (16 * m + v) / 16 = m := by omega
    rw [List.length_append, List.length_singleton, Nat.pow_succ, hexDigits, hbefore, hdigits, hlast,
      hdigit, List.map_append]
    exact ⟨by omega, rfl⟩

end GridStore
