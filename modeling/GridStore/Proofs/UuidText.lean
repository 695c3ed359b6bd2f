import GridStore.Proofs.Digits
import GridStore.Uuid

/-!
# Uuids read back

Hyphens are taken out of a text where they were put in (`Uuid.unhyphenate?_hyphenate`), and a
hyphenated text is none of the other spellings (`Uuid.spelledDigits?_hyphenate`). So the text of a
uuid is read as that uuid (`Uuid.read?_text`), and no other uuid has it.
-/

namespace GridStore.Uuid

/-- The groups that hyphens stand between are the digits. -/
theorem append_groups (ds : List Char) :
    ds.take 8 ++ (ds.drop 8).take 4 ++ (ds.drop 12).take 4 ++ (ds.drop 16).take 4 ++ ds.drop 20
      = ds := by
  have hdrop (n : Nat) : (ds.drop n).take 4 ++ ds.drop (n + 4) = ds.drop n := by
    rw [← List.drop_drop, List.take_append_drop]
  simp only [List.append_assoc, hdrop, List.take_append_drop]

/-- Without its hyphens a hyphenated text is the digits. -/
theorem filter_hyphenate {ds : List Char} (h : '-' ∉ ds) :
    (hyphenate ds).filter (· ≠ '-') = ds := by
  have hself : ds.filter (· ≠ '-') = ds :=
    List.filter_eq_self.2 fun c hc => by simpa using ne_of_mem_of_not_mem hc h
  rw [hyphenate]
  simp only [List.filter_append, List.filter_cons, ne_eq, not_true_eq_false, decide_false,
    Bool.false_eq_true, if_false]
  simp only [← List.filter_append, append_groups]
  exact hself

theorem unhyphenate?_hyphenate {ds : List Char} (hlength : ds.length = 32) (h : '-' ∉ ds) :
    unhyphenate? (hyphenate ds) = some ds := by
  have hdigits := filter_hyphenate h
  rw [unhyphenate?, hdigits]
  exact if_pos ⟨hlength, rfl⟩

theorem not_mem_of_hexDigits {ds : List Char} (h : ∀ c ∈ ds, (hexDigitValue? c).isSome) {c : Char}
    (hc : hexDigitValue? c = none) : c ∉ ds := fun hmem => by
  have hsome := h c hmem
  rw [hc] at hsome
  cases hsome

theorem spelledDigits?_hyphenate {ds : List Char} (hlength : ds.length = 32)
    (h : ∀ c ∈ ds, (hexDigitValue? c).isSome) : spelledDigits? (hyphenate ds) = some ds := by
  have hhyphen : '-' ∉ ds := not_mem_of_hexDigits h (by decide)
  unfold spelledDigits?
  split
  · rename_i rest hbrace
    -- a brace would be left when the hyphens are taken out
    have hdigits := filter_hyphenate hhyphen
    rw [hbrace, List.filter_cons_of_pos (by decide)] at hdigits
    exact absurd (hdigits ▸ List.mem_cons_self) (not_mem_of_hexDigits h (c := '{') (by decide))
  · have hlong : (hyphenate ds).length ≠ 32 := by
      simp [hyphenate, hlength]
    have hurn : ((hyphenate ds).take 9).map Char.toLower ≠ "urn:uuid:".toList := by
      have hninth : '-' ∈ (hyphenate ds).take 9 := by
        simp [hyphenate, List.take_append, hlength]
      exact fun heq => absurd (heq ▸ List.mem_map_of_mem hninth) (by decide)
    rw [if_neg hlong, if_neg hurn, unhyphenate?_hyphenate hlength hhyphen]

/-- The digits of a uuid in the order in which they are written. -/
def digits (u : Uuid) : List Char :=
  hexDigits 32 u.bits.toNat

theorem length_digits (u : Uuid) : u.digits.length = 32 :=
  length_hexDigits 32 _

theorem toList_text (u : Uuid) : u.text.toList = hyphenate u.digits :=
  String.toList_ofList

theorem length_text (u : Uuid) : u.text.length = 36 := by
  rw [← String.length_toList, toList_text, hyphenate]
  simp [length_digits]

/-- The text of a uuid is read as that uuid. -/
theorem read?_text (u : Uuid) : read? u.text = some u := by
  have hdigits := spelledDigits?_hyphenate u.length_digits isSome_of_mem_hexDigits
  have hlt : u.bits.toNat < 16 ^ 32 := u.bits.isLt.trans_eq (by norm_num)
  have hvalue := hexValue?_hexDigits 32 u.bits.toNat
  rw [Nat.mod_eq_of_lt hlt] at hvalue
  rw [read?, toList_text, hdigits]
  simp [digits, hvalue]

theorem text_injective : Function.Injective text := by
  intro a b h
  have hread := read?_text a
  rwa [h, read?_text, Option.some.injEq, eq_comm] at hread

theorem digits_inj {u v : Uuid} : u.digits = v.digits ↔ u = v := by
  refine ⟨fun h => text_injective (String.toList_inj.1 ?_), congrArg _⟩
  rw [toList_text, toList_text, h]

end GridStore.Uuid
